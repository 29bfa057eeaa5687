import Alicia.Race.Commands

/-!
# What the race commands leave

One lemma for each handler, which lists the states in which the handler can leave the server, whether it
returns or throws.
-/

namespace Alicia.Race

open Std (ExtTreeMap ExtTreeSet)
open Data (Uid invalidUid Character Horse)
open Transition (Effect)
open Transition.Effect NetworkHandler

variable {handler : NetworkHandler} {client : ClientId} {context : ClientContext}

/-! ## Lookups -/

theorem getClientContext_eq_ok {required : Bool} :
    handler.getClientContext client required = .ok context ↔
      handler.clients[client]? = some context ∧ (required = true → context.isAuthenticated = true) := by
  unfold getClientContext
  cases handler.clients[client]? with
  | none => simp
  | some found =>
    have hrefused : (required && !found.isAuthenticated) = true ↔
        ¬(required = true → found.isAuthenticated = true) := by
      cases required <;> cases found.isAuthenticated <;> decide
    by_cases hrequired : required = true → found.isAuthenticated = true
    · dsimp only
      rw [if_neg fun h => hrefused.1 h hrequired]
      constructor
      · intro h
        cases h
        exact ⟨rfl, hrequired⟩
      · rintro ⟨h, -⟩
        cases h
        rfl
    · dsimp only
      rw [if_pos (hrefused.2 hrequired)]
      constructor
      · intro h
        cases h
      · rintro ⟨h, hfound⟩
        cases h
        exact absurd hfound hrequired

variable {roomUid : UInt32} {room : Room}

theorem getRoom_eq_ok :
    handler.getRoom roomUid = .ok room ↔ handler.rooms[roomUid]? = some room := by
  unfold NetworkHandler.getRoom
  cases handler.rooms[roomUid]? with
  | none => simp
  | some found => simp

theorem getRaceInstance_eq_ok {race : RaceInstance} :
    handler.getRaceInstance context = .ok race ↔
      context.roomUid ≠ invalidUid ∧ handler.raceInstances[context.roomUid]? = some race := by
  unfold getRaceInstance
  by_cases hroom : context.roomUid = invalidUid
  · simp [hroom]
  · rw [if_neg hroom]
    cases handler.raceInstances[context.roomUid]? with
    | none => simp
    | some found => simp [hroom]

theorem getRacer_eq_ok {racer : Racer} :
    handler.getRacer context = .ok racer ↔ ∃ race, handler.getRaceInstance context = .ok race ∧
      race.racers[context.characterUid]? = some racer := by
  unfold getRacer
  cases handler.getRaceInstance context with
  | error failure => simp
  | ok race =>
    cases hracer : race.racers[context.characterUid]? with
    | none => simp [hracer]
    | some found => simp [hracer]

theorem ask_context {required : Bool}
    (h : handler.getClientContext client required = .ok context) :
    ask (·.getClientContext client required) handler = .ok context handler := ask_ok h

theorem ask_room (h : handler.rooms[roomUid]? = some room) :
    ask (·.getRoom roomUid) handler = .ok room handler := ask_ok (getRoom_eq_ok.2 h)

theorem ask_character {uid : Uid} {character : Character}
    (h : handler.getCharacter uid = .ok character) :
    ask (·.getCharacter uid) handler = .ok character handler := ask_ok h

theorem ask_race {race : RaceInstance} (h : handler.getRaceInstance context = .ok race) :
    ask (·.getRaceInstance context) handler = .ok race handler := ask_ok h

/-- The client's own context. -/
structure Owns (handler : NetworkHandler) (client : ClientId) (context : ClientContext) : Prop where
  connected : handler.clients[client]? = some context
  authenticated : context.isAuthenticated = true

theorem owns_of_ok (h : handler.getClientContext client true = .ok context) :
    Owns handler client context := by
  obtain ⟨hconnected, hauthenticated⟩ := getClientContext_eq_ok.1 h
  exact ⟨hconnected, hauthenticated rfl⟩

/-! ## Leaving a room -/

/-- The client may leave its room: what `HandleLeaveRoom` looks up before it changes anything is found. -/
structure Leaves (handler : NetworkHandler) (client : ClientId) (context : ClientContext) : Prop where
  connected : handler.clients[client]? = some context
  authenticated : context.isAuthenticated = true
  inRoom : context.roomUid ≠ invalidUid
  race : context.roomUid ∈ handler.raceInstances
  character : ∃ character, handler.getCharacter context.characterUid = .ok character

namespace NetworkHandler

/-- The client's racer is disconnected and its character is out of the room. -/
def removed (context : ClientContext) (room : Room) (handler : NetworkHandler) : NetworkHandler :=
  (handler.modifyRacer context (·.setState .disconnected)).setRoom context.roomUid
    (room.removePlayer context.characterUid)

/-- The candidate for the next master can be looked up. -/
def Found (handler : NetworkHandler) (candidateUid : Uid) : Prop :=
  handler.getClientOfCharacter candidateUid = .ok () ∧
    ∃ character, handler.getCharacter candidateUid = .ok character

/-- The candidate, if there is one, is the master. -/
def succeeded (first : Uid) (context : ClientContext) (room : Room) (handler : NetworkHandler) :
    NetworkHandler :=
  if room.details.masterUid = context.characterUid then
    match handler.candidate first context.roomUid with
    | none => handler
    | some candidateUid => handler.modifyRoom context.roomUid (·.setMaster candidateUid)
  else handler

/-- The room is gone if it is empty. -/
def closed (roomUid : UInt32) (handler : NetworkHandler) : NetworkHandler :=
  match handler.rooms[roomUid]? with
  | none => handler
  | some room => if room.getPlayerCount ≠ 0 then handler else handler.closeRoom roomUid

/-- The client is in no room. -/
def roomless (client : ClientId) (context : ClientContext) (handler : NetworkHandler) : NetworkHandler :=
  handler.setContext client { context with roomUid := invalidUid }

end NetworkHandler

open NetworkHandler (removed Found succeeded closed roomless)

/-- The states in which `HandleLeaveRoom` can leave the server. -/
inductive LeaveOutcome (first : Uid) (client : ClientId) (handler : NetworkHandler) :
    NetworkHandler → Prop where
  | refused (h : ∀ context, ¬Leaves handler client context) : LeaveOutcome first client handler handler
  | deleted (context : ClientContext) (hleaves : Leaves handler client context)
      (hroom : handler.rooms[context.roomUid]? = none) :
      LeaveOutcome first client handler (handler.modifyRacer context (·.setState .disconnected))
  | stuck (context : ClientContext) (hleaves : Leaves handler client context) (room : Room)
      (hroom : handler.rooms[context.roomUid]? = some room)
      (hmaster : room.details.masterUid = context.characterUid) (candidateUid : Uid)
      (hcandidate : (handler.removed context room).candidate first context.roomUid =
        some candidateUid)
      (hlost : ¬(handler.removed context room).Found candidateUid) :
      LeaveOutcome first client handler (handler.removed context room)
  | left (context : ClientContext) (hleaves : Leaves handler client context) (room : Room)
      (hroom : handler.rooms[context.roomUid]? = some room) :
      LeaveOutcome first client handler
        ((((handler.removed context room).succeeded first context room).closed
          context.roomUid).roomless client context)

theorem rooms_setRoom (roomUid other : UInt32) (room : Room) :
    (handler.setRoom roomUid room).rooms[other]? =
      if other = roomUid then some room else handler.rooms[other]? :=
  Collection.getElem?_insert_self_or_ne _ _ _ _

theorem rooms_modifyRace (roomUid : UInt32) (change : RaceInstance → RaceInstance) :
    (handler.modifyRace roomUid change).rooms = handler.rooms := by
  unfold modifyRace
  split
  · rfl
  · rfl

theorem rooms_modifyRacer (context : ClientContext) (change : Racer → Racer) :
    (handler.modifyRacer context change).rooms = handler.rooms := rooms_modifyRace _ _

theorem rooms_modifyRoom (roomUid other : UInt32) (change : Room → Room) :
    (handler.modifyRoom roomUid change).rooms[other]? =
      if other = roomUid then handler.rooms[roomUid]?.map change else handler.rooms[other]? := by
  by_cases hsame : other = roomUid
  · subst hsame
    rw [if_pos rfl, NetworkHandler.modifyRoom]
    cases hroom : handler.rooms[other]? with
    | none => exact hroom
    | some room => exact (rooms_setRoom _ _ _).trans (if_pos rfl)
  · rw [if_neg hsame, NetworkHandler.modifyRoom]
    split
    · rfl
    · exact (rooms_setRoom _ _ _).trans (if_neg hsame)

variable (first : Uid)

theorem rooms_succeeded (room : Room) {current : Room}
    (hroom : handler.rooms[context.roomUid]? = some current) :
    ∃ later, (handler.succeeded first context room).rooms[context.roomUid]? = some later := by
  unfold succeeded
  split
  · split
    · exact ⟨current, hroom⟩
    · exact ⟨_, by rw [rooms_modifyRoom, if_pos rfl, hroom, Option.map_some]⟩
  · exact ⟨current, hroom⟩

theorem changeRoom_apply (change : Room → Room) (hroom : handler.rooms[roomUid]? = some room) :
    changeRoom roomUid change handler = .ok ⟨⟩ (handler.modifyRoom roomUid change) := by
  rw [changeRoom, bind_ok (ask_room hroom), modify_apply, NetworkHandler.modifyRoom,
    hroom]

theorem deleteRoomIfEmpty_apply (hroom : handler.rooms[roomUid]? = some room) :
    deleteRoomIfEmpty roomUid handler = .ok ⟨⟩ (handler.closed roomUid) := by
  rw [deleteRoomIfEmpty, bind_ok (ask_room hroom), closed, hroom]
  dsimp only
  split
  · rfl
  · rfl

/-- The next master is named, or the candidate cannot be looked up and nothing changes. -/
theorem replaceMaster_apply (room : Room) {current : Room}
    (hroom : handler.rooms[context.roomUid]? = some current) :
    replaceMaster first context room handler =
        .ok ⟨⟩ (handler.succeeded first context room) ∨
      room.details.masterUid = context.characterUid ∧ ∃ candidateUid,
        handler.candidate first context.roomUid = some candidateUid ∧ ¬handler.Found candidateUid ∧
        ∃ failure, replaceMaster first context room handler = .error failure handler := by
  unfold replaceMaster succeeded
  by_cases hmaster : room.details.masterUid = context.characterUid
  · rw [if_pos hmaster, if_pos hmaster, succeedMaster, bind_ok (get_apply _)]
    cases hcandidate : handler.candidate first context.roomUid with
    | none => exact .inl rfl
    | some candidateUid =>
      dsimp only
      cases hclient : handler.getClientOfCharacter candidateUid with
      | error failure =>
        refine .inr ⟨hmaster, candidateUid, rfl, fun hfound => ?_, failure, ?_⟩
        · cases hclient.symm.trans hfound.1
        · exact ask_bind_error (getClientOfCharacter · candidateUid) hclient _
      | ok found =>
        rw [bind_ok (show ask (·.getClientOfCharacter candidateUid) handler = .ok found handler
          from ask_ok hclient)]
        cases hcharacter : handler.getCharacter candidateUid with
        | error failure =>
          refine .inr ⟨hmaster, candidateUid, rfl, fun hfound => ?_, failure, ?_⟩
          · obtain ⟨character, h⟩ := hfound.2
            cases hcharacter.symm.trans h
          · exact ask_bind_error (getCharacter · candidateUid) hcharacter _
        | ok character =>
          left
          rw [bind_ok (ask_character hcharacter), changeRoom_apply _ hroom]
  · rw [if_neg hmaster, if_neg hmaster]
    exact .inl rfl

/-- What follows once the client may leave. -/
theorem depart_outcome (hleaves : Leaves handler client context) :
    LeaveOutcome first client handler ((depart first client context).final handler) := by
  rw [depart, final_bind_ok (modify_apply _ _)]
  refine final_ask_bind (fun failure hmissing => ?_) fun room hfound => ?_
  · refine .deleted context hleaves ?_
    rw [← rooms_modifyRacer context (·.setState .disconnected)]
    cases hroom : (handler.modifyRacer context (·.setState .disconnected)).rooms[context.roomUid]? with
    | none => rfl
    | some room => cases hmissing.symm.trans (getRoom_eq_ok.2 hroom)
  · have hroom := getRoom_eq_ok.1 hfound
    rw [rooms_modifyRacer] at hroom
    rw [final_bind_ok (modify_apply _ _)]
    show LeaveOutcome first client handler (final _ (handler.removed context room))
    have hremoved : (handler.removed context room).rooms[context.roomUid]? =
        some (room.removePlayer context.characterUid) := by
      rw [removed, rooms_setRoom, if_pos rfl]
    obtain hsucceeded | ⟨hmaster, candidateUid, hcandidate, hlost, failure, hfailure⟩ :=
      replaceMaster_apply first room hremoved
    · obtain ⟨current, hcurrent⟩ := rooms_succeeded first room hremoved
      rw [final_bind_ok hsucceeded, final_bind_ok (deleteRoomIfEmpty_apply hcurrent)]
      exact .left context hleaves room hroom
    · rw [final_bind_error hfailure]
      exact .stuck context hleaves room hroom hmaster candidateUid hcandidate hlost

theorem handleLeaveRoom_outcome (client : ClientId) (handler : NetworkHandler) :
    LeaveOutcome first client handler ((handleLeaveRoom first client).final handler) := by
  refine final_ask_bind (fun failure hfailure => ?_) fun context hcontext => ?_
  · refine .refused fun context hleaves => ?_
    cases hfailure.symm.trans
      (getClientContext_eq_ok.2 ⟨hleaves.connected, fun _ => hleaves.authenticated⟩)
  · obtain ⟨hconnected, hauthenticated⟩ := getClientContext_eq_ok.1 hcontext
    -- Whatever stops the handler now is a condition for the context of this client.
    have hrefused (h : ¬Leaves handler client context) :
        LeaveOutcome first client handler handler := by
      refine .refused fun other hleaves => h ?_
      cases hconnected.symm.trans hleaves.connected
      exact hleaves
    split
    · next hroomUid => exact hrefused fun hleaves => hleaves.inRoom hroomUid
    · next hroomUid =>
        refine final_ask_bind (fun failure hfailure => ?_) fun race hrace => ?_
        · refine hrefused fun hleaves => ?_
          obtain ⟨race, hrace⟩ := Option.isSome_iff_exists.1
            (Std.ExtTreeMap.isSome_getElem?_iff_mem.2 hleaves.race)
          cases hfailure.symm.trans (getRaceInstance_eq_ok.2 ⟨hroomUid, hrace⟩)
        refine final_ask_bind (fun failure hfailure => ?_) fun character hcharacter => ?_
        · refine hrefused fun hleaves => ?_
          obtain ⟨character, hcharacter⟩ := hleaves.character
          cases hfailure.symm.trans hcharacter
        rw [final_bind_pure]
        exact depart_outcome first {
          connected := hconnected
          authenticated := hauthenticated rfl
          inRoom := hroomUid
          race := Std.ExtTreeMap.isSome_getElem?_iff_mem.1
            (Option.isSome_of_mem (getRaceInstance_eq_ok.1 hrace).2)
          character := ⟨character, hcharacter⟩ }

/-- A kick changes nothing, or the client of the target leaves its room. -/
theorem handleKickUser_outcome (firstClient client : ClientId) (characterUid : Uid)
    (handler : NetworkHandler) :
    SameOr handler (fun after => ∃ context room target targetClient, Owns handler client context ∧
        handler.rooms[context.roomUid]? = some room ∧
        context.characterUid = room.details.masterUid ∧ characterUid ≠ context.characterUid ∧
        room.hasPlayer characterUid ∧ handler.getCharacter characterUid = .ok target ∧
        target.role ≠ .gameMaster ∧ handler.findClientId firstClient characterUid = some targetClient ∧
        after = (handleLeaveRoom first targetClient).final handler)
      ((handleKickUser first firstClient client characterUid).final handler) := by
  refine .ask_bind fun context hcontext => .ask_bind fun _ _ => .ask_bind fun _ _ =>
    .ask_bind fun target htarget => .ask_bind fun _ _ => .ask_bind fun room hroom => ?_
  split
  · exact .same
  · next hallowed =>
      obtain ⟨hmaster, hallowed⟩ := not_or.1 hallowed
      obtain ⟨hother, hallowed⟩ := not_or.1 hallowed
      obtain ⟨hplayer, hrole⟩ := not_or.1 hallowed
      rw [final_bind_ok (get_apply _)]
      split
      · exact .same
      · next targetClient hclient =>
          exact .changed ⟨context, room, target, targetClient, owns_of_ok hcontext,
            getRoom_eq_ok.1 hroom, not_not.1 hmaster, hother, not_not.1 hplayer, htarget, hrole,
            hclient, final_bind_pure _ _ _⟩

/-! ## Entering a room -/

section EnterRoom

variable {identityHash : IdentityHash} {lookups : EnterLookups} {command : EnterRoom}

namespace NetworkHandler

/-- The room has decided about the player. -/
def asked (identityHash : IdentityHash) (lookups : EnterLookups) (client : ClientId)
    (command : EnterRoom) (room : Room) (handler : NetworkHandler) : NetworkHandler :=
  (handler.authenticated identityHash lookups.now client command).setRoom command.roomUid
    (room.addPlayer client command.characterUid lookups.coin).2

/-- The player is in the room, and its client knows. -/
def seated (identityHash : IdentityHash) (lookups : EnterLookups) (client : ClientId)
    (command : EnterRoom) (room : Room) (handler : NetworkHandler) : NetworkHandler :=
  (handler.asked identityHash lookups client command room).setContext client
    ⟨command.characterUid, command.roomUid, true⟩

/-- The room has a race. -/
def opened (command : EnterRoom) (handler : NetworkHandler) : NetworkHandler :=
  if command.roomUid ∈ handler.raceInstances then handler
  else (handler.setRace command.roomUid {}).modifyRoom command.roomUid
    (·.setMaster command.characterUid)

end NetworkHandler

/-- The states in which `HandleEnterRoom` can leave the server. -/
inductive EnterOutcome (identityHash : IdentityHash) (lookups : EnterLookups) (client : ClientId)
    (command : EnterRoom) (handler : NetworkHandler) : NetworkHandler → Prop where
  | refused (h : handler.authorizes identityHash lookups.now command = false) :
      EnterOutcome identityHash lookups client command handler
        (handler.authenticated identityHash lookups.now client command)
  | nowhere (h : handler.authorizes identityHash lookups.now command = true)
      (hroom : handler.rooms[command.roomUid]? = none) :
      EnterOutcome identityHash lookups client command handler
        (handler.authenticated identityHash lookups.now client command)
  | turnedAway (h : handler.authorizes identityHash lookups.now command = true) (room : Room)
      (hroom : handler.rooms[command.roomUid]? = some room)
      (haccepts : ¬room.Accepts command.characterUid) :
      EnterOutcome identityHash lookups client command handler
        (handler.asked identityHash lookups client command room)
  | offline (h : handler.authorizes identityHash lookups.now command = true) (room : Room)
      (hroom : handler.rooms[command.roomUid]? = some room)
      (haccepts : room.Accepts command.characterUid) :
      EnterOutcome identityHash lookups client command handler
        (handler.seated identityHash lookups client command room)
  | entered (h : handler.authorizes identityHash lookups.now command = true) (room : Room)
      (hroom : handler.rooms[command.roomUid]? = some room)
      (haccepts : room.Accepts command.characterUid) :
      EnterOutcome identityHash lookups client command handler
        ((handler.seated identityHash lookups client command room).opened command)

theorem createRace_apply (hroom : handler.rooms[command.roomUid]? = some room) :
    createRace command handler = .ok ⟨⟩ (handler.opened command) := by
  rw [createRace, bind_ok (get_apply _), opened]
  by_cases hrace : command.roomUid ∈ handler.raceInstances
  · rw [if_pos hrace, if_pos hrace, pure_apply]
  · rw [if_neg hrace, if_neg hrace, bind_ok (modify_apply _ _)]
    exact changeRoom_apply _ hroom

theorem addPlayer_apply (client : ClientId) (coin : Bool)
    (hroom : handler.rooms[command.roomUid]? = some room) :
    addPlayer coin client command handler =
      match (room.addPlayer client command.characterUid coin).1 with
      | .error failure => .error failure
          (handler.setRoom command.roomUid (room.addPlayer client command.characterUid coin).2)
      | .ok added => .ok (!added)
          (handler.setRoom command.roomUid (room.addPlayer client command.characterUid coin).2) := by
  rw [addPlayer, bind_ok (ask_room hroom)]
  cases room.addPlayer client command.characterUid coin with
  | mk added changed =>
    cases added with
    | error failure => rfl
    | ok added => rfl

theorem joinRoom_outcome (h : handler.rooms[command.roomUid]? = some room)
    {outcome : NetworkHandler → Prop}
    (hoffline : outcome (handler.setContext client ⟨command.characterUid, command.roomUid, true⟩))
    (hentered : outcome ((handler.setContext client
      ⟨command.characterUid, command.roomUid, true⟩).opened command)) :
    outcome ((joinRoom lookups client command).final handler) := by
  rw [joinRoom, final_bind_ok (modify_apply _ _)]
  refine final_ask_bind (fun _ _ => hoffline) fun _ _ => ?_
  have hroom : (handler.setContext client
      ⟨command.characterUid, command.roomUid, true⟩).rooms[command.roomUid]? = some room := h
  rw [final_bind_ok (createRace_apply hroom)]
  refine final_ask_bind (fun _ _ => hentered) fun _ _ => ?_
  exact final_ask_bind (fun _ _ => hentered) fun _ _ => hentered

theorem handleEnterRoom_outcome (identityHash : IdentityHash) (lookups : EnterLookups)
    (client : ClientId) (command : EnterRoom) (handler : NetworkHandler) :
    EnterOutcome identityHash lookups client command handler
      ((handleEnterRoom identityHash lookups client command).final handler) := by
  rw [handleEnterRoom, final_bind_ok (get_apply _), final_bind_ok (modify_apply _ _)]
  cases hauthorizes : handler.authorizes identityHash lookups.now command with
  | false => exact .refused hauthorizes
  | true =>
    show EnterOutcome _ _ _ _ _ ((addPlayer lookups.coin client command >>= fun isOvercrowded =>
      if isOvercrowded = true then pure EnterRoomReply.cancel
      else joinRoom lookups client command).final _)
    cases hroom : handler.rooms[command.roomUid]? with
    | none =>
      have hmissing : addPlayer lookups.coin client command
          (handler.authenticated identityHash lookups.now client command) =
          .error "Room does not exist"
            (handler.authenticated identityHash lookups.now client command) := by
        refine ask_bind_error (NetworkHandler.getRoom · command.roomUid) ?_ _
        rw [NetworkHandler.getRoom, show (handler.authenticated identityHash lookups.now client
          command).rooms = handler.rooms from rfl, hroom]
      rw [final_bind_error hmissing]
      exact .nowhere hauthorizes hroom
    | some room =>
      have hfound : (handler.authenticated identityHash lookups.now client
          command).rooms[command.roomUid]? = some room := hroom
      have hadd := addPlayer_apply client lookups.coin hfound
      by_cases haccepts : room.Accepts command.characterUid
      · have hadded : (room.addPlayer client command.characterUid lookups.coin).1 = .ok true :=
          congrArg Prod.fst (Room.addPlayer_of_accepts haccepts client lookups.coin)
        rw [hadded] at hadd
        rw [final_bind_ok hadd]
        exact joinRoom_outcome ((rooms_setRoom _ _ _).trans (if_pos rfl))
          (.offline hauthorizes room hroom haccepts) (.entered hauthorizes room hroom haccepts)
      · obtain ⟨hnot, -, -⟩ := Room.addPlayer_of_not_accepts haccepts client lookups.coin
        cases hadded : (room.addPlayer client command.characterUid lookups.coin).1 with
        | error failure =>
          rw [hadded] at hadd
          rw [final_bind_error hadd]
          exact .turnedAway hauthorizes room hroom haccepts
        | ok added =>
          rw [hadded] at hadd hnot
          cases added with
          | true => exact absurd rfl hnot
          | false =>
            rw [final_bind_ok hadd]
            exact .turnedAway hauthorizes room hroom haccepts

end EnterRoom

/-! ## Disconnecting -/

/-- The context of the client is gone. -/
def NetworkHandler.forgotten (client : ClientId) (handler : NetworkHandler) : NetworkHandler :=
  { handler with clients := handler.clients.erase client }

open NetworkHandler (forgotten)

/-- The states in which `HandleClientDisconnected` can leave the server: it may throw where the client
leaves its room, and its context is gone only if it does not. -/
inductive DisconnectOutcome (first : Uid) (client : ClientId) (handler : NetworkHandler) :
    NetworkHandler → Prop where
  | unknown (h : handler.clients[client]? = none) : DisconnectOutcome first client handler handler
  | idle (context : ClientContext) (h : handler.clients[client]? = some context)
      (hidle : ¬(context.isAuthenticated = true ∧ context.roomUid ∈ handler.raceInstances)) :
      DisconnectOutcome first client handler (handler.forgotten client)
  | failed (context : ClientContext) (h : handler.clients[client]? = some context) :
      DisconnectOutcome first client handler ((handleLeaveRoom first client).final handler)
  | gone (context : ClientContext) (h : handler.clients[client]? = some context) :
      DisconnectOutcome first client handler
        (((handleLeaveRoom first client).final handler).forgotten client)

theorem handleClientDisconnected_outcome (client : ClientId) (handler : NetworkHandler) :
    DisconnectOutcome first client handler
      ((handleClientDisconnected first client).final handler) := by
  refine final_ask_bind (fun failure hfailure => ?_) fun context hcontext => ?_
  · refine .unknown ?_
    cases hclient : handler.clients[client]? with
    | none => rfl
    | some context =>
      cases hfailure.symm.trans
        (getClientContext_eq_ok.2 ⟨hclient, fun h => absurd h Bool.false_ne_true⟩)
  · obtain ⟨hclient, -⟩ := getClientContext_eq_ok.1 hcontext
    by_cases hleaves : context.isAuthenticated = true ∧ context.roomUid ∈ handler.raceInstances
    · have hleave : leaveRace first client context handler =
          (handleLeaveRoom first client >>= fun _ => pure ⟨⟩ : Handling Unit) handler := by
        rw [leaveRace, bind_ok (get_apply _), if_pos hleaves]
      cases hdone : handleLeaveRoom first client handler with
      | ok left after =>
        rw [bind_ok hdone] at hleave
        rw [final_bind_ok hleave, ← final_ok hdone]
        exact .gone context hclient
      | error failure after =>
        rw [bind_error hdone] at hleave
        rw [final_bind_error hleave, ← final_error hdone]
        exact .failed context hclient
    · have hleave : leaveRace first client context handler = .ok ⟨⟩ handler := by
        rw [leaveRace, bind_ok (get_apply _), if_neg hleaves]
        rfl
      rw [final_bind_ok hleave]
      exact .idle context hclient hleaves

/-! ## Before a race -/

/-- A player of the client's room is changed, or nothing is. -/
theorem handleReadyRace_outcome (client : ClientId) (handler : NetworkHandler) :
    SameOr handler (fun after => ∃ context room changed, Owns handler client context ∧
        handler.rooms[context.roomUid]? = some room ∧
        room.modifyPlayer context.characterUid Room.Player.toggleReady = .ok changed ∧
        after = handler.setRoom context.roomUid changed)
      ((handleReadyRace client).final handler) := by
  refine .ask_bind fun context hcontext => .ask_bind fun room hroom => .ask_bind fun changed hchanged => ?_
  rw [final_bind_ok (modify_apply _ _)]
  rw [final_ask_bind_of fun _ => rfl]
  exact .changed ⟨context, room, changed, owns_of_ok hcontext, getRoom_eq_ok.1 hroom, hchanged, rfl⟩

theorem handleChangeTeam_outcome (client : ClientId) (command : ChangeTeam)
    (handler : NetworkHandler) :
    SameOr handler (fun after => ∃ context room changed, Owns handler client context ∧
        handler.rooms[context.roomUid]? = some room ∧
        room.modifyPlayer command.characterOid command.apply = .ok changed ∧
        after = handler.setRoom context.roomUid changed)
      ((handleChangeTeam client command).final handler) := by
  refine .ask_bind fun context hcontext => .ask_bind fun room hroom => .ask_bind fun changed hchanged => ?_
  rw [final_bind_ok (modify_apply _ _)]
  rw [final_ask_bind_of fun _ => rfl]
  exact .changed ⟨context, room, changed, owns_of_ok hcontext, getRoom_eq_ok.1 hroom, hchanged, rfl⟩

theorem logNameChange_final (command : ChangeRoomOptions) :
    (logNameChange context command).final handler = handler := by
  rw [logNameChange]
  split
  · exact final_ask_bind_of fun _ => rfl
  · rfl

/-- The options of the client's room are changed, or nothing is. -/
theorem handleChangeRoomOptions_outcome (client : ClientId) (command : ChangeRoomOptions)
    (handler : NetworkHandler) :
    SameOr handler (fun after => ∃ context room, Owns handler client context ∧
        handler.rooms[context.roomUid]? = some room ∧ after = handler.setRoom context.roomUid
          { room with details := command.apply room.details })
      ((handleChangeRoomOptions client command).final handler) := by
  refine .ask_bind fun context hcontext => ?_
  split
  · exact .same
  · cases hlogged : logNameChange context command handler with
    | error failure after =>
      rw [final_bind_error hlogged, ← final_error hlogged, logNameChange_final]
      exact .same
    | ok logged after =>
      rw [final_bind_ok hlogged, ← final_ok hlogged, logNameChange_final]
      refine .ask_bind fun room hroom => ?_
      exact .changed ⟨context, room, owns_of_ok hcontext, getRoom_eq_ok.1 hroom, rfl⟩

/-! ## Races -/

/-- The client is the master of a room whose race can start, as far as the players are concerned. -/
structure Starts (handler : NetworkHandler) (client : ClientId) (context : ClientContext)
    (race : RaceInstance) (room : Room) : Prop where
  owns : Owns handler client context
  inRoom : context.roomUid ≠ invalidUid
  running : handler.raceInstances[context.roomUid]? = some race
  found : handler.rooms[context.roomUid]? = some room
  master : context.characterUid = room.details.masterUid
  ready : room.canRoomStart = .none

/-- The states in which `HandleStartRace` can leave the server. -/
inductive StartOutcome (lookups : StartLookups) (client : ClientId) (handler : NetworkHandler) :
    NetworkHandler → Prop where
  | refused : StartOutcome lookups client handler handler
  | cancelled (context : ClientContext) (race : RaceInstance) (room : Room)
      (hstarts : Starts handler client context race room) (hprepared : lookups.prepared = false) :
      StartOutcome lookups client handler (handler.startRace lookups context.roomUid room)
  | started (context : ClientContext) (race : RaceInstance) (room : Room)
      (hstarts : Starts handler client context race room) (hprepared : lookups.prepared = true) :
      StartOutcome lookups client handler
        ((handler.startRace lookups context.roomUid room).addRacers lookups context.roomUid room)

theorem handleStartRace_outcome (lookups : StartLookups) (client : ClientId)
    (handler : NetworkHandler) :
    StartOutcome lookups client handler ((handleStartRace lookups client).final handler) := by
  refine final_ask_bind (fun _ _ => .refused) fun context hcontext => ?_
  refine final_ask_bind (fun _ _ => .refused) fun race hrace => ?_
  refine final_ask_bind (fun _ _ => .refused) fun room hroom => ?_
  split
  · exact .refused
  · next hmaster =>
      cases hready : room.canRoomStart with
      | notAllPlayersReady => exact .refused
      | teamImbalance => exact .refused
      | none =>
        obtain ⟨hinRoom, hfound⟩ := getRaceInstance_eq_ok.1 hrace
        have hstarts : Starts handler client context race room :=
          ⟨owns_of_ok hcontext, hinRoom, hfound, getRoom_eq_ok.1 hroom, not_not.1 hmaster, hready⟩
        rw [final_bind_ok (modify_apply _ _)]
        cases hprepared : lookups.prepared with
        | false => exact .cancelled context race room hstarts hprepared
        | true => exact .started context race room hstarts hprepared

/-- The client's racer in the race of its room. -/
structure Rides (handler : NetworkHandler) (client : ClientId) (context : ClientContext)
    (race : RaceInstance) (racer : Racer) : Prop where
  owns : Owns handler client context
  inRoom : context.roomUid ≠ invalidUid
  running : handler.raceInstances[context.roomUid]? = some race
  riding : race.racers[context.characterUid]? = some racer

theorem rides_of_ok {racer : Racer} (h : handler.getClientContext client true = .ok context)
    (hracer : handler.getRacer context = .ok racer) :
    ∃ race, Rides handler client context race racer := by
  obtain ⟨race, hrace, hfound⟩ := getRacer_eq_ok.1 hracer
  obtain ⟨hinRoom, hrace⟩ := getRaceInstance_eq_ok.1 hrace
  exact ⟨race, owns_of_ok h, hinRoom, hrace, hfound⟩

theorem handleLoadingComplete_outcome (client : ClientId) (handler : NetworkHandler) :
    SameOr handler (fun after => ∃ context race racer, Rides handler client context race racer ∧
        after = handler.modifyRacer context (·.setState .racing))
      ((handleLoadingComplete client).final handler) := by
  refine .ask_bind fun context hcontext => .ask_bind fun racer hracer => ?_
  obtain ⟨race, hrides⟩ := rides_of_ok hcontext hracer
  rw [final_bind_ok (modify_apply _ _)]
  rw [final_ask_bind_of fun _ => final_ask_bind_of fun _ => rfl]
  exact .changed ⟨context, race, racer, hrides, rfl⟩

theorem handleUserRaceFinal_outcome (client : ClientId) (command : UserRaceFinal)
    (handler : NetworkHandler) :
    SameOr handler (fun after => ∃ context race racer, Rides handler client context race racer ∧
        after = handler.modifyRacer context command.apply)
      ((handleUserRaceFinal client command).final handler) := by
  refine .ask_bind fun context hcontext => .ask_bind fun racer hracer => ?_
  obtain ⟨race, hrides⟩ := rides_of_ok hcontext hracer
  exact .changed ⟨context, race, racer, hrides, rfl⟩

end Alicia.Race
