import Alicia.Race.Mastery

/-!
# Authority over a room

What a step of the server does to a room, and who may have asked for it: the master chooses the options
and starts the race, and everybody else changes only what concerns its own player.
-/

namespace Alicia.Race

open Std (ExtTreeMap ExtTreeSet)
open Data (Uid invalidUid Character Horse)
open Transition Transition.Effect Collection NetworkHandler Room
open NetworkHandler (removed Found succeeded closed roomless forgotten asked seated opened)

/-- All that a room is described by, except its master, is the same. -/
def SameOptions (before after : Room) : Prop :=
  { after.details with masterUid := before.details.masterUid } = before.details

instance : Std.Refl SameOptions := ⟨fun _ => rfl⟩

/-- The master of the room that the client is in kicks a player of that room. -/
structure KickedBy (handler : NetworkHandler) (roomUid : UInt32) (room : Room) (uid : Uid)
    (input : ServerInput) : Prop where
  sent : ∃ client first firstClient context, input = .command client (.kick first firstClient uid) ∧
    Owns handler client context ∧ context.roomUid = roomUid ∧
    context.characterUid = room.details.masterUid
  ordinary : ∃ target, handler.getCharacter uid = .ok target ∧ target.role ≠ .gameMaster

/-- The client's own command or disconnect, by which it leaves. -/
def Goes (client : ClientId) (input : ServerInput) : Prop :=
  ∃ first, input = .command client (.leaveRoom first) ∨ input = .disconnect client first

/-- A kick of the character, by a client whose context names a room of which it is the master. -/
def KickOf (handler : NetworkHandler) (targetClient : ClientId) (uid : Uid) (input : ServerInput) :
    Prop :=
  ∃ client first firstClient, input = .command client (.kick first firstClient uid) ∧
    client ∈ handler.connected ∧ Kicks handler client firstClient uid targetClient

/-- What a step does to a room. -/
inductive RoomChange (handler : NetworkHandler) (roomUid : UInt32) :
    ServerInput → Room → Option Room → Prop where
  | kept (input : ServerInput) {room later : Room} (hoptions : SameOptions room later)
      (hplayers : later.players = room.players) : RoomChange handler roomUid input room (some later)
  | joined (client : ClientId) (lookups : EnterLookups) (command : EnterRoom) {room later : Room}
      (haccepts : room.Accepts command.characterUid) (hoptions : SameOptions room later)
      (player : Room.Player)
      (hplayers : later.players = room.players.insert command.characterUid player) :
      RoomChange handler roomUid (.command client (.enterRoom lookups command)) room (some later)
  | vacated (input : ServerInput) {room : Room} {client : ClientId} {context : ClientContext}
      (howns : Owns handler client context) (hroom : context.roomUid = roomUid)
      (hcause : Goes client input ∨ ∃ uid, KickOf handler client uid input) {after : Option Room}
      (hafter : ∀ later ∈ after, SameOptions room later ∧
        later.players = (room.removePlayer context.characterUid).players)
      (hclosed : after = none → (room.removePlayer context.characterUid).players = ∅) :
      RoomChange handler roomUid input room after
  | readied (client : ClientId) {context : ClientContext} {room later : Room}
      (howns : Owns handler client context) (hroom : context.roomUid = roomUid)
      (hlater : room.modifyPlayer context.characterUid Room.Player.toggleReady = .ok later) :
      RoomChange handler roomUid (.command client .readyRace) room (some later)
  | teamed (client : ClientId) (command : ChangeTeam) {context : ClientContext} {room later : Room}
      (hin : client ∈ handler.connected) (howns : Owns handler client context)
      (hroom : context.roomUid = roomUid)
      (hlater : room.modifyPlayer command.characterOid command.apply = .ok later) :
      RoomChange handler roomUid (.command client (.changeTeam command)) room (some later)
  | optioned (client : ClientId) (command : ChangeRoomOptions) {context : ClientContext} {room : Room}
      (hin : client ∈ handler.connected) (howns : Owns handler client context)
      (hroom : context.roomUid = roomUid) :
      RoomChange handler roomUid (.command client (.changeRoomOptions command)) room
        (some { room with details := command.apply room.details })
  | settled (now : Instant) {race : RaceInstance} {room later : Room}
      (hrace : handler.raceInstances[roomUid]? = some race)
      (hstops : Stops now (handler.world roomUid race)) (hsettled : Settled room later) :
      RoomChange handler roomUid (.tick roomUid now) room (some later)
  | recreated (details : Room.Details) (characterUid : Uid) {room : Room}
      (hcreated : handler.sequencedId + 1 = roomUid) {after : Option Room} :
      RoomChange handler roomUid (.createRoom details characterUid) room after

section Changes

variable {identityHash : IdentityHash} {handler : NetworkHandler} {roomUid : UInt32}
  {input : ServerInput} {room : Room}

theorem RoomChange.of_same {after : Option Room} (h : after = some room) :
    RoomChange handler roomUid input room after := by
  rw [h]
  exact .kept input (refl_of SameOptions room) rfl

/-! ## Leaving -/

theorem rooms_succeeded_options (first : Uid) {context : ClientContext} (left : Room) {current : Room}
    (hcurrent : handler.rooms[context.roomUid]? = some current) :
    ∃ later, (handler.succeeded first context left).rooms[context.roomUid]? = some later ∧
      SameOptions current later ∧ later.players = current.players := by
  unfold succeeded
  split
  · split
    · exact ⟨current, hcurrent, refl_of SameOptions current, rfl⟩
    · refine ⟨_, (rooms_modifyRoom _ _ _).trans ((if_pos rfl).trans (congrArg _ hcurrent)), ?_, rfl⟩
      exact rfl
  · exact ⟨current, hcurrent, refl_of SameOptions current, rfl⟩

/-- The room that a client leaves loses one player, and is closed if nobody else is in it. -/
theorem room_of_leave (first : Uid) (client : ClientId) (hroom : handler.rooms[roomUid]? = some room) :
    ((handleLeaveRoom first client).final handler).rooms[roomUid]? = some room ∨
      ∃ context, Owns handler client context ∧ context.roomUid = roomUid ∧
        (∀ later ∈ ((handleLeaveRoom first client).final handler).rooms[roomUid]?,
          SameOptions room later ∧ later.players = (room.removePlayer context.characterUid).players) ∧
        (((handleLeaveRoom first client).final handler).rooms[roomUid]? = none →
          (room.removePlayer context.characterUid).players = ∅) := by
  have houtcome := handleLeaveRoom_outcome first client handler
  generalize (handleLeaveRoom first client).final handler = after at houtcome
  cases houtcome with
  | refused hrefused => exact .inl hroom
  | deleted context hleaves hnone =>
    rw [rooms_modifyRacer]
    exact .inl hroom
  | stuck context hleaves found hfound hmaster candidateUid hcandidate hlost =>
    rw [rooms_removed]
    by_cases hsame : roomUid = context.roomUid
    · subst hsame
      cases hfound.symm.trans hroom
      rw [if_pos rfl]
      refine .inr ⟨context, ⟨hleaves.connected, hleaves.authenticated⟩, rfl, ?_, ?_⟩
      · intro later hlater
        cases hlater
        exact ⟨rfl, rfl⟩
      · intro hnone
        cases hnone
    · rw [if_neg hsame]
      exact .inl hroom
  | left context hleaves found hfound =>
    show (((handler.removed context found).succeeded first context found).closed
      context.roomUid).rooms[roomUid]? = some room ∨ _
    have hremoved : (handler.removed context found).rooms[context.roomUid]? =
        some (found.removePlayer context.characterUid) := (rooms_removed _ _).trans (if_pos rfl)
    obtain ⟨later, hlater, hoptions, hplayers⟩ := rooms_succeeded_options first found hremoved
    by_cases hsame : roomUid = context.roomUid
    · subst hsame
      cases hfound.symm.trans hroom
      refine .inr ⟨context, ⟨hleaves.connected, hleaves.authenticated⟩, rfl, ?_⟩
      show (∀ later ∈ (((handler.removed context room).succeeded first context room).closed
        context.roomUid).rooms[context.roomUid]?, _) ∧ ((((handler.removed context room).succeeded
          first context room).closed context.roomUid).rooms[context.roomUid]? = none → _)
      rw [rooms_closed hlater]
      split
      · next hempty =>
          rw [closeRoom, getElem?_erase_self_or_ne, if_pos rfl]
          refine ⟨fun other hother => ?_, fun _ => hplayers.symm.trans hempty⟩
          cases hother
      · rw [hlater]
        refine ⟨fun other hother => ?_, fun hnone => ?_⟩
        · cases hother
          exact ⟨hoptions, hplayers⟩
        · cases hnone
    · refine .inl ?_
      have hother := ((rooms_succeeded_other first found hsame).trans
        ((rooms_removed found roomUid).trans (if_neg hsame))).trans hroom
      rw [rooms_closed hlater]
      split
      · exact (getElem?_erase_self_or_ne _ _ _).trans ((if_neg hsame).trans hother)
      · exact hother

theorem roomChange_of_leave (first : Uid) (client : ClientId)
    (hroom : handler.rooms[roomUid]? = some room)
    (hcause : Goes client input ∨ ∃ uid, KickOf handler client uid input) :
    RoomChange handler roomUid input room
      ((handleLeaveRoom first client).final handler).rooms[roomUid]? := by
  obtain hsame | ⟨context, howns, hcontext, hafter, hclosed⟩ := room_of_leave first client hroom
  · exact .of_same hsame
  · exact .vacated input howns hcontext hcause hafter hclosed

/-! ## Steps -/

theorem roomChange_of_disconnect (first : Uid) (client : ClientId)
    (hroom : handler.rooms[roomUid]? = some room) :
    RoomChange handler roomUid (.disconnect client first) room
      ((handleClientDisconnected first client).final handler).rooms[roomUid]? := by
  have hgoes : Goes client (.disconnect client first) := ⟨first, .inr rfl⟩
  have houtcome := handleClientDisconnected_outcome first client handler
  generalize (handleClientDisconnected first client).final handler = after at houtcome
  cases houtcome with
  | unknown hunknown => exact .of_same hroom
  | idle context hcontext hidle => exact .of_same hroom
  | failed context hcontext => exact roomChange_of_leave first client hroom (.inl hgoes)
  | gone context hcontext => exact roomChange_of_leave first client hroom (.inl hgoes)

/-- A change of another room, or of this one. -/
theorem roomChange_of_setRoom {inRoom : UInt32} {found changed : Room}
    (hfound : handler.rooms[inRoom]? = some found) (hroom : handler.rooms[roomUid]? = some room)
    (hchange : inRoom = roomUid → room = found → RoomChange handler roomUid input room (some changed)) :
    RoomChange handler roomUid input room (handler.setRoom inRoom changed).rooms[roomUid]? := by
  rw [rooms_setRoom]
  split
  · next hsame =>
      subst hsame
      exact hchange rfl (Option.some.inj (hroom.symm.trans hfound))
  · exact .of_same hroom

theorem roomChange_of_modifyRoom {change : Room → Room}
    (hoptions : ∀ room, SameOptions room (change room))
    (hplayers : ∀ room, (change room).players = room.players) (inRoom : UInt32)
    (hroom : handler.rooms[roomUid]? = some room) :
    RoomChange handler roomUid input room (handler.modifyRoom inRoom change).rooms[roomUid]? := by
  rw [rooms_modifyRoom]
  split
  · next hsame =>
      subst hsame
      rw [hroom]
      exact .kept input (hoptions room) (hplayers room)
  · exact .of_same hroom

theorem roomChange_of_enter {client : ClientId} {lookups : EnterLookups} {command : EnterRoom}
    (hroom : handler.rooms[roomUid]? = some room) :
    RoomChange handler roomUid (.command client (.enterRoom lookups command)) room
      ((handleEnterRoom identityHash lookups client command).final handler).rooms[roomUid]? := by
  -- Once the player is added, at most the master of its room changes.
  have hjoined {after : Option Room} {found : Room}
      (hfound : handler.rooms[command.roomUid]? = some found)
      (haccepts : found.Accepts command.characterUid)
      (hother : command.roomUid ≠ roomUid → after = some room)
      (hthis : command.roomUid = roomUid → ∃ later, after = some later ∧
        SameOptions (found.addPlayer client command.characterUid lookups.coin).2 later ∧
        later.players = (found.addPlayer client command.characterUid lookups.coin).2.players) :
      RoomChange handler roomUid (.command client (.enterRoom lookups command)) room after := by
    by_cases hsame : command.roomUid = roomUid
    · subst hsame
      cases hroom.symm.trans hfound
      obtain ⟨later, rfl, hoptions, hplayers⟩ := hthis rfl
      rw [addPlayer_of_accepts haccepts] at hoptions hplayers
      exact .joined client lookups command haccepts hoptions _ hplayers
    · exact .of_same (hother hsame)
  have hseated (found : Room) (hother : command.roomUid ≠ roomUid) :
      (handler.seated identityHash lookups client command found).rooms[roomUid]? = some room :=
    (rooms_setRoom _ _ _).trans ((if_neg (Ne.symm hother)).trans hroom)
  have houtcome := handleEnterRoom_outcome identityHash lookups client command handler
  generalize (handleEnterRoom identityHash lookups client command).final handler = after at houtcome
  cases houtcome with
  | refused hrefused => exact .of_same hroom
  | nowhere hright hnone => exact .of_same hroom
  | turnedAway hright found hfound haccepts =>
    obtain ⟨-, hplayers, hdetails⟩ := addPlayer_of_not_accepts haccepts client lookups.coin
    refine @roomChange_of_setRoom handler roomUid _ room _ found _ hfound hroom fun hsame hroomIs => ?_
    subst hroomIs
    refine .kept _ ?_ hplayers
    rw [SameOptions, hdetails]
  | offline hright found hfound haccepts =>
    refine hjoined hfound haccepts (hseated found) fun hsame => ?_
    exact ⟨_, (rooms_setRoom _ _ _).trans (if_pos hsame.symm), rfl, rfl⟩
  | entered hright found hfound haccepts =>
    have hadded : (handler.seated identityHash lookups client command found).rooms[command.roomUid]? =
        some (found.addPlayer client command.characterUid lookups.coin).2 :=
      (rooms_setRoom _ _ _).trans (if_pos rfl)
    refine hjoined hfound haccepts (fun hother => ?_) fun hsame => ?_
    · unfold opened
      split
      · exact hseated found hother
      · exact (rooms_modifyRoom _ _ _).trans ((if_neg (Ne.symm hother)).trans (hseated found hother))
    · subst hsame
      unfold opened
      split
      · exact ⟨_, hadded, rfl, rfl⟩
      · exact ⟨_, (rooms_modifyRoom _ _ _).trans ((if_pos rfl).trans (congrArg _ hadded)), rfl, rfl⟩

theorem roomChange_of_start {client : ClientId} {lookups : StartLookups}
    (hroom : handler.rooms[roomUid]? = some room) :
    RoomChange handler roomUid (.command client (.startRace lookups)) room
      ((handleStartRace lookups client).final handler).rooms[roomUid]? := by
  have hstarted (inRoom : UInt32) (found : Room) {uid : UInt32} {current : Room}
      (hcurrent : handler.rooms[uid]? = some current) :
      (handler.startRace lookups inRoom found).rooms[uid]? = some current := by
    refine rooms_play_start _ _ _ ?_
    rw [rooms_modifyRace]
    exact hcurrent
  have houtcome := handleStartRace_outcome lookups client handler
  generalize (handleStartRace lookups client).final handler = after at houtcome
  cases houtcome with
  | refused => exact .of_same hroom
  | cancelled context race found hstarts hprepared => exact .of_same (hstarted _ found hroom)
  | started context race found hstarts hprepared =>
    show RoomChange handler roomUid _ room (NetworkHandler.setRoom _ context.roomUid
      (found.setRoomPlaying true)).rooms[roomUid]?
    rw [rooms_setRoom]
    split
    · next hsame =>
        subst hsame
        cases hroom.symm.trans hstarts.found
        exact .kept _ rfl rfl
    · rw [rooms_modifyRace]
      exact .of_same (hstarted _ found hroom)

theorem roomChange_of_handle {client : ClientId} {command : Command}
    (hin : client ∈ handler.connected) (hroom : handler.rooms[roomUid]? = some room) :
    RoomChange handler roomUid (.command client command) room
      (handle identityHash handler client command).rooms[roomUid]? := by
  cases command with
  | enterRoom lookups command => exact roomChange_of_enter hroom
  | leaveRoom first => exact roomChange_of_leave first client hroom (.inl ⟨first, .inl rfl⟩)
  | kick first firstClient characterUid =>
    refine (handleKickUser_outcome first firstClient client characterUid handler).elim
      (P := fun after => RoomChange handler roomUid _ room after.rooms[roomUid]?) (.of_same hroom) ?_
    rintro _ ⟨context, found, target, targetClient, howns, hfound, hmaster, hother, hplayer, htarget,
      hrole, htargetClient, rfl⟩
    refine roomChange_of_leave first targetClient hroom (.inr ⟨characterUid, ?_⟩)
    exact ⟨client, first, firstClient, rfl, hin,
      ⟨context, found, target, howns, hfound, hmaster, hother, hplayer, htarget, hrole⟩, htargetClient⟩
  | readyRace =>
    refine (handleReadyRace_outcome client handler).elim
      (P := fun after => RoomChange handler roomUid _ room after.rooms[roomUid]?) (.of_same hroom) ?_
    rintro _ ⟨context, found, changed, howns, hfound, hchanged, rfl⟩
    refine roomChange_of_setRoom hfound hroom fun hsame hroomIs => ?_
    exact .readied client howns hsame (hroomIs ▸ hchanged)
  | changeTeam command =>
    refine (handleChangeTeam_outcome client command handler).elim
      (P := fun after => RoomChange handler roomUid _ room after.rooms[roomUid]?) (.of_same hroom) ?_
    rintro _ ⟨context, found, changed, howns, hfound, hchanged, rfl⟩
    refine roomChange_of_setRoom hfound hroom fun hsame hroomIs => ?_
    exact .teamed client command hin howns hsame (hroomIs ▸ hchanged)
  | changeRoomOptions command =>
    refine (handleChangeRoomOptions_outcome client command handler).elim
      (P := fun after => RoomChange handler roomUid _ room after.rooms[roomUid]?) (.of_same hroom) ?_
    rintro _ ⟨context, found, howns, hfound, rfl⟩
    refine roomChange_of_setRoom hfound hroom fun hsame hroomIs => ?_
    subst hroomIs
    exact .optioned client command hin howns hsame
  | startRace lookups => exact roomChange_of_start hroom
  | loadingComplete =>
    refine (handleLoadingComplete_outcome client handler).elim
      (P := fun after => RoomChange handler roomUid _ room after.rooms[roomUid]?) (.of_same hroom) ?_
    rintro _ ⟨context, _, _, -, rfl⟩
    rw [rooms_modifyRacer]
    exact .of_same hroom
  | userRaceFinal command =>
    refine (handleUserRaceFinal_outcome client command handler).elim
      (P := fun after => RoomChange handler roomUid _ room after.rooms[roomUid]?) (.of_same hroom) ?_
    rintro _ ⟨context, _, _, -, rfl⟩
    rw [rooms_modifyRacer]
    exact .of_same hroom

theorem roomChange_of_tick (inRoom : UInt32) (now : Instant)
    (hroom : handler.rooms[roomUid]? = some room) :
    RoomChange handler roomUid (.tick inRoom now) room
      (handler.play inRoom (tick now)).rooms[roomUid]? := by
  unfold play
  cases hrace : handler.raceInstances[inRoom]? with
  | none => exact .of_same hroom
  | some race =>
    have hticked := tick_ticked now (handler.world inRoom race)
    dsimp only
    cases hfound : handler.rooms[inRoom]? with
    | none =>
      rw [rooms_setWorld_none (hticked.none hfound)]
      exact .of_same hroom
    | some found =>
      obtain ⟨later, hlater, hsettled⟩ := hticked.some found hfound
      rw [rooms_setWorld_some hlater, getElem?_insert_self_or_ne]
      split
      · next hsame =>
          subst hsame
          cases hroom.symm.trans hfound
          obtain hsame | hstops := hticked.room
          · exact .of_same (hlater.symm.trans (hsame.trans hfound))
          · exact .settled now hrace hstops hsettled
      · exact .of_same hroom

/-- What a step does to the rooms. -/
theorem roomChange_of_serve (identityHash : IdentityHash) (input : ServerInput)
    (hroom : handler.rooms[roomUid]? = some room) :
    RoomChange handler roomUid input room (serve identityHash handler input).rooms[roomUid]? := by
  cases input with
  | connect client =>
    obtain ⟨hrooms, -⟩ := handleClientConnected_rooms client handler
    exact .of_same ((congrArg (·[roomUid]?) hrooms).trans hroom)
  | disconnect client first =>
    rw [serve]
    split
    · exact roomChange_of_disconnect first client hroom
    · exact .of_same hroom
  | command client command =>
    rw [serve]
    split
    · next hin => exact roomChange_of_handle hin hroom
    · exact .of_same hroom
  | tick inRoom now => exact roomChange_of_tick inRoom now hroom
  | createRoom details characterUid =>
    by_cases hcreated : handler.sequencedId + 1 = roomUid
    · exact .recreated details characterUid hcreated
    · exact .of_same ((rooms_setRoom _ _ _).trans ((if_neg (Ne.symm hcreated)).trans hroom))
  | queuePlayer inRoom characterUid =>
    refine roomChange_of_modifyRoom (fun room => ?_) (fun room => ?_) inRoom hroom
    · unfold queuePlayer
      split <;> rfl
    · unfold queuePlayer
      split <;> rfl
  | dequeuePlayer inRoom characterUid =>
    exact @roomChange_of_modifyRoom _ _ _ _ (fun room => (room.dequeuePlayer characterUid).2)
      (fun _ => rfl) (fun _ => rfl) inRoom hroom
  | grantCode characterUid inRoom now code => exact .of_same hroom
  | outside records => exact .of_same hroom

/-! ## New rooms -/

/-- A room that exists is set, so it is another one. -/
theorem absent_setRoom {inRoom : UInt32} {found changed : Room}
    (hfound : handler.rooms[inRoom]? = some found) (habsent : handler.rooms[roomUid]? = none) :
    (handler.setRoom inRoom changed).rooms[roomUid]? = none := by
  rw [rooms_setRoom, if_neg, habsent]
  rintro rfl
  cases habsent.symm.trans hfound

theorem absent_modifyRoom (inRoom : UInt32) (change : Room → Room)
    (habsent : handler.rooms[roomUid]? = none) :
    (handler.modifyRoom inRoom change).rooms[roomUid]? = none := by
  unfold NetworkHandler.modifyRoom
  split
  · exact habsent
  · next found hfound => exact absent_setRoom hfound habsent

theorem absent_closed (inRoom : UInt32) (habsent : handler.rooms[roomUid]? = none) :
    (handler.closed inRoom).rooms[roomUid]? = none := by
  unfold closed
  split
  · exact habsent
  · split
    · exact habsent
    · refine (getElem?_erase_self_or_ne _ _ _).trans ?_
      rw [habsent, ite_self]

theorem absent_removed {context : ClientContext} {found : Room}
    (hfound : handler.rooms[context.roomUid]? = some found)
    (habsent : handler.rooms[roomUid]? = none) :
    (handler.removed context found).rooms[roomUid]? = none := by
  rw [rooms_removed, if_neg, habsent]
  rintro rfl
  cases habsent.symm.trans hfound

theorem absent_leave (first : Uid) (client : ClientId) (habsent : handler.rooms[roomUid]? = none) :
    ((handleLeaveRoom first client).final handler).rooms[roomUid]? = none := by
  have houtcome := handleLeaveRoom_outcome first client handler
  generalize (handleLeaveRoom first client).final handler = after at houtcome
  cases houtcome with
  | refused hrefused => exact habsent
  | deleted context hleaves hnone =>
    rw [rooms_modifyRacer]
    exact habsent
  | stuck context hleaves found hfound hmaster candidateUid hcandidate hlost =>
    exact absent_removed hfound habsent
  | left context hleaves found hfound =>
    refine @absent_closed ((handler.removed context found).succeeded first context found) roomUid
      context.roomUid ?_
    have hremoved := absent_removed hfound habsent
    unfold succeeded
    split
    · split
      · exact hremoved
      · exact absent_modifyRoom _ _ hremoved
    · exact hremoved

theorem absent_enter {client : ClientId} {lookups : EnterLookups} {command : EnterRoom}
    (habsent : handler.rooms[roomUid]? = none) :
    ((handleEnterRoom identityHash lookups client command).final handler).rooms[roomUid]? = none := by
  have hasked (found : Room) (hfound : handler.rooms[command.roomUid]? = some found) :
      (handler.seated identityHash lookups client command found).rooms[roomUid]? = none :=
    @absent_setRoom handler roomUid command.roomUid found _ hfound habsent
  have houtcome := handleEnterRoom_outcome identityHash lookups client command handler
  generalize (handleEnterRoom identityHash lookups client command).final handler = after at houtcome
  cases houtcome with
  | refused hrefused => exact habsent
  | nowhere hright hnone => exact habsent
  | turnedAway hright found hfound haccepts => exact hasked found hfound
  | offline hright found hfound haccepts => exact hasked found hfound
  | entered hright found hfound haccepts =>
    unfold opened
    split
    · exact hasked found hfound
    · exact absent_modifyRoom _ _ (hasked found hfound)

theorem absent_play (inRoom : UInt32) {part : World → World}
    (hnone : ∀ world, world.room = none → (part world).room = none)
    (habsent : handler.rooms[roomUid]? = none) :
    (handler.play inRoom part).rooms[roomUid]? = none := by
  unfold play
  split
  · exact habsent
  · next race hrace =>
      cases hlater : (part (handler.world inRoom race)).room with
      | none => rwa [rooms_setWorld_none hlater]
      | some later =>
        rw [rooms_setWorld_some hlater, getElem?_insert_self_or_ne, if_neg,
          habsent]
        rintro rfl
        cases (hnone _ habsent).symm.trans hlater

theorem absent_start {client : ClientId} {lookups : StartLookups}
    (habsent : handler.rooms[roomUid]? = none) :
    ((handleStartRace lookups client).final handler).rooms[roomUid]? = none := by
  have hstarted (inRoom : UInt32) (found : Room) :
      (handler.startRace lookups inRoom found).rooms[roomUid]? = none := by
    refine absent_play inRoom (fun world hworld => (start_room _ _ _ world).trans hworld) ?_
    rw [rooms_modifyRace]
    exact habsent
  have houtcome := handleStartRace_outcome lookups client handler
  generalize (handleStartRace lookups client).final handler = after at houtcome
  cases houtcome with
  | refused => exact habsent
  | cancelled context race found hstarts hprepared => exact hstarted _ found
  | started context race found hstarts hprepared =>
    show (NetworkHandler.setRoom _ context.roomUid (found.setRoomPlaying true)).rooms[roomUid]? = none
    rw [rooms_setRoom, if_neg, rooms_modifyRace]
    · exact hstarted _ found
    · rintro rfl
      cases habsent.symm.trans hstarts.found

theorem absent_handle {client : ClientId} {command : Command}
    (habsent : handler.rooms[roomUid]? = none) :
    (handle identityHash handler client command).rooms[roomUid]? = none := by
  cases command with
  | enterRoom lookups command => exact absent_enter habsent
  | leaveRoom first => exact absent_leave first client habsent
  | kick first firstClient characterUid =>
    refine (handleKickUser_outcome first firstClient client characterUid handler).elim
      (P := fun after => after.rooms[roomUid]? = none) habsent ?_
    rintro _ ⟨_, _, _, targetClient, -, -, -, -, -, -, -, -, rfl⟩
    exact absent_leave first targetClient habsent
  | readyRace =>
    refine (handleReadyRace_outcome client handler).elim
      (P := fun after => after.rooms[roomUid]? = none) habsent ?_
    rintro _ ⟨_, _, _, -, hfound, -, rfl⟩
    exact absent_setRoom hfound habsent
  | changeTeam command =>
    refine (handleChangeTeam_outcome client command handler).elim
      (P := fun after => after.rooms[roomUid]? = none) habsent ?_
    rintro _ ⟨_, _, _, -, hfound, -, rfl⟩
    exact absent_setRoom hfound habsent
  | changeRoomOptions command =>
    refine (handleChangeRoomOptions_outcome client command handler).elim
      (P := fun after => after.rooms[roomUid]? = none) habsent ?_
    rintro _ ⟨_, _, -, hfound, rfl⟩
    exact absent_setRoom hfound habsent
  | startRace lookups => exact absent_start habsent
  | loadingComplete =>
    refine (handleLoadingComplete_outcome client handler).elim
      (P := fun after => after.rooms[roomUid]? = none) habsent ?_
    rintro _ ⟨_, _, _, -, rfl⟩
    rwa [rooms_modifyRacer]
  | userRaceFinal command =>
    refine (handleUserRaceFinal_outcome client command handler).elim
      (P := fun after => after.rooms[roomUid]? = none) habsent ?_
    rintro _ ⟨_, _, _, -, rfl⟩
    rwa [rooms_modifyRacer]

/-- Only the lobby creates rooms, and they are empty. -/
theorem empty_of_absent {later : Room} (habsent : handler.rooms[roomUid]? = none)
    (hlater : (serve identityHash handler input).rooms[roomUid]? = some later) :
    later.players = ∅ := by
  have hnone (h : (serve identityHash handler input).rooms[roomUid]? = none) : later.players = ∅ := by
    cases h.symm.trans hlater
  cases input with
  | connect client =>
    obtain ⟨hrooms, -⟩ := handleClientConnected_rooms client handler
    exact hnone ((congrArg (·[roomUid]?) hrooms).trans habsent)
  | disconnect client first =>
    refine hnone ?_
    rw [serve]
    split
    · have houtcome := handleClientDisconnected_outcome first client handler
      show ((handleClientDisconnected first client).final handler).rooms[roomUid]? = none
      generalize (handleClientDisconnected first client).final handler = after at houtcome
      cases houtcome with
      | unknown hunknown => exact habsent
      | idle context hcontext hidle => exact habsent
      | failed context hcontext => exact absent_leave first client habsent
      | gone context hcontext => exact absent_leave first client habsent
    · exact habsent
  | command client command =>
    refine hnone ?_
    rw [serve]
    split
    · exact absent_handle habsent
    · exact habsent
  | tick inRoom now =>
    exact hnone (absent_play inRoom (fun world => (tick_ticked now world).none) habsent)
  | createRoom details characterUid =>
    have hset := (@rooms_setRoom { handler with sequencedId := handler.sequencedId + 1 } _ roomUid
      _).symm.trans hlater
    split at hset
    · next hsame =>
        subst hsame
        cases hset
        rw [habsent]
        unfold queuePlayer
        split
        · rfl
        · rfl
    · cases habsent.symm.trans hset
  | queuePlayer inRoom characterUid => exact hnone (absent_modifyRoom inRoom _ habsent)
  | dequeuePlayer inRoom characterUid => exact hnone (absent_modifyRoom inRoom _ habsent)
  | grantCode characterUid inRoom now code => exact hnone habsent
  | outside records => exact hnone habsent

end Changes

/-! ## Authority -/

/-- The input is a command of a client that plays the character in the room. -/
def SentBy (handler : NetworkHandler) (roomUid : UInt32) (uid : Uid) (input : ServerInput) : Prop :=
  ∃ client command context, input = .command client command ∧ Owns handler client context ∧
    context.roomUid = roomUid ∧ context.characterUid = uid

/-- The race of the room ends in the step. -/
def EndsRace (handler : NetworkHandler) (roomUid : UInt32) (input : ServerInput) : Prop :=
  ∃ now race, input = .tick roomUid now ∧ handler.raceInstances[roomUid]? = some race ∧
    Stops now (handler.world roomUid race)

/-- Every room has a place for each of its players. -/
def Roomy (handler : NetworkHandler) : Prop :=
  ∀ (roomUid : UInt32) (room : Room), handler.rooms[roomUid]? = some room →
    room.players.size ≤ room.details.maxPlayerCount.toNat

/-- Options and the start of a race are the master's, a player is its own, and nobody is put out but by
the master. -/
structure Controlled (identityHash : IdentityHash) (handler : NetworkHandler) (input : ServerInput) :
    Prop where
  options : ∀ (roomUid : UInt32) (room later : Room), handler.rooms[roomUid]? = some room →
    (serve identityHash handler input).rooms[roomUid]? = some later → ¬SameOptions room later →
    SentBy handler roomUid room.details.masterUid input
  start : ∀ (roomUid : UInt32) (room : Room) (race later : RaceInstance),
    handler.rooms[roomUid]? = some room → handler.raceInstances[roomUid]? = some race →
    (serve identityHash handler input).raceInstances[roomUid]? = some later →
    race.stage ≠ .loading → later.stage = .loading →
    SentBy handler roomUid room.details.masterUid input
  player : ∀ (roomUid : UInt32) (room later : Room) (uid : Uid) (player changed : Room.Player),
    handler.rooms[roomUid]? = some room →
    (serve identityHash handler input).rooms[roomUid]? = some later →
    room.players[uid]? = some player → later.players[uid]? = some changed →
    changed.isReady ≠ player.isReady ∨ changed.team ≠ player.team →
    SentBy handler roomUid uid input ∨ EndsRace handler roomUid input
  leave : ∀ (roomUid : UInt32) (room : Room) (uid : Uid), handler.rooms[roomUid]? = some room →
    uid ∈ room.players →
    (∀ later ∈ (serve identityHash handler input).rooms[roomUid]?, uid ∉ later.players) →
    (∃ client context, Owns handler client context ∧ context.roomUid = roomUid ∧
      context.characterUid = uid ∧ Goes client input) ∨ KickedBy handler roomUid room uid input
  capacity : Roomy (serve identityHash handler input)

/-- A client changes the options of a room only as its master, and never below the number of players;
changes the team of no other player; and kicks only players of the room that their clients are in.  The
lobby creates rooms under uids that are free. -/
def Obeys (handler : NetworkHandler) : ServerInput → Prop
  | .command client (.changeRoomOptions command) =>
    client ∈ handler.connected → ∀ context, Owns handler client context →
      ∀ room ∈ handler.rooms[context.roomUid]?,
        (SameOptions room { room with details := command.apply room.details } ∨
          context.characterUid = room.details.masterUid) ∧
        room.players.size ≤ (command.apply room.details).maxPlayerCount.toNat
  | .command client (.changeTeam command) =>
    client ∈ handler.connected → ∀ context, Owns handler client context →
      ∀ room ∈ handler.rooms[context.roomUid]?, ∀ player ∈ room.players[command.characterOid]?,
        command.characterOid = context.characterUid ∨ (command.apply player).team = player.team
  | .command client (.kick _ firstClient characterUid) =>
    client ∈ handler.connected → ∀ targetClient,
      Kicks handler client firstClient characterUid targetClient →
        ∀ context target, Owns handler client context → Owns handler targetClient target →
          target.roomUid = context.roomUid ∨
            ∀ room ∈ handler.rooms[target.roomUid]?, characterUid ∉ room.players
  | .createRoom _ _ => handler.rooms[handler.sequencedId + 1]? = none
  | _ => True

section Controlled

variable {identityHash : IdentityHash} {handler : NetworkHandler} {roomUid : UInt32}
  {input : ServerInput} {room later : Room}

theorem sameOptions_maxPlayerCount (h : SameOptions room later) :
    later.details.maxPlayerCount = room.details.maxPlayerCount := by
  have hcount := congrArg Details.maxPlayerCount h
  exact hcount

/-- The players of a room that only one of them leaves. -/
theorem players_removePlayer (room : Room) (characterUid uid : Uid) :
    (room.removePlayer characterUid).players[uid]? =
      if uid = characterUid then none else room.players[uid]? :=
  getElem?_erase_self_or_ne _ _ _

theorem modifyPlayer_players {changed : Room} {characterUid : Uid} {change : Player → Player}
    (h : room.modifyPlayer characterUid change = .ok changed) : changed.details = room.details ∧
      changed.players.size = room.players.size ∧ ∀ uid, changed.players[uid]? =
        if uid = characterUid then room.players[uid]?.map change else room.players[uid]? := by
  unfold modifyPlayer at h
  cases hplayer : room.players[characterUid]? with
  | none =>
    rw [hplayer] at h
    cases h
  | some player =>
    rw [hplayer] at h
    cases h
    refine ⟨rfl, ?_, fun uid => ?_⟩
    · have hmember : characterUid ∈ room.players := mem_players_iff.2 ⟨player, hplayer⟩
      rw [ExtTreeMap.size_insert, if_pos (ExtTreeMap.contains_iff_mem.2 hmember)]
    · rw [getElem?_insert_self_or_ne]
      split
      · next hsame => rw [hsame, hplayer, Option.map_some]
      · rfl

theorem options_of_change (hchange : RoomChange handler roomUid input room (some later))
    (hobeys : Obeys handler input) (hroom : handler.rooms[roomUid]? = some room) :
    SameOptions room later ∨ SentBy handler roomUid room.details.masterUid input := by
  generalize hafter : some later = after at hchange
  cases hchange with
  | kept input hoptions hplayers =>
    cases hafter
    exact .inl hoptions
  | joined client lookups command haccepts hoptions player hplayers =>
    cases hafter
    exact .inl hoptions
  | vacated input howns hinRoom hcause hlater hclosed => exact .inl (hlater later hafter.symm).1
  | readied client howns hinRoom hlater =>
    cases hafter
    obtain ⟨hdetails, -⟩ := modifyPlayer_players hlater
    exact .inl (by rw [SameOptions, hdetails])
  | teamed client command hin howns hinRoom hlater =>
    cases hafter
    obtain ⟨hdetails, -⟩ := modifyPlayer_players hlater
    exact .inl (by rw [SameOptions, hdetails])
  | optioned client command hin howns hinRoom =>
    cases hafter
    obtain ⟨hallowed, -⟩ := hobeys hin _ howns room (hinRoom ▸ hroom)
    exact hallowed.imp_right fun hmaster => ⟨client, _, _, rfl, howns, hinRoom, hmaster⟩
  | settled now hrace hstops hsettled =>
    cases hafter
    exact .inl hsettled.details
  | recreated details characterUid hcreated =>
    subst hcreated
    cases hroom.symm.trans hobeys

theorem team_apply (command : ChangeTeam) (player : Player) :
    (command.apply player).isReady = player.isReady := by
  unfold ChangeTeam.apply
  split
  · rfl
  · rfl
  · rfl

/-- A player of a room that stays in it is as it was, changed by its own command, or at the end of a
race. -/
theorem player_of_change (hchange : RoomChange handler roomUid input room (some later))
    (hobeys : Obeys handler input) (hroom : handler.rooms[roomUid]? = some room) {uid : Uid}
    {player changed : Player} (hplayer : room.players[uid]? = some player)
    (hchanged : later.players[uid]? = some changed) :
    changed.isReady = player.isReady ∧ changed.team = player.team ∨
      SentBy handler roomUid uid input ∨ EndsRace handler roomUid input := by
  have hsame (h : room.players[uid]? = some changed) :
      changed.isReady = player.isReady ∧ changed.team = player.team := by
    cases hplayer.symm.trans h
    exact ⟨rfl, rfl⟩
  generalize hafter : some later = after at hchange
  cases hchange with
  | kept input hoptions hplayers =>
    cases hafter
    rw [hplayers] at hchanged
    exact .inl (hsame hchanged)
  | joined client lookups command haccepts hoptions added hplayers =>
    cases hafter
    rw [hplayers, getElem?_insert_self_or_ne, if_neg] at hchanged
    · exact .inl (hsame hchanged)
    · rintro rfl
      exact haccepts.2 (mem_players_iff.2 ⟨player, hplayer⟩)
  | vacated input howns hinRoom hcause hlater hclosed =>
    rw [(hlater later hafter.symm).2, players_removePlayer] at hchanged
    split at hchanged
    · cases hchanged
    · exact .inl (hsame hchanged)
  | readied client howns hinRoom hlater =>
    cases hafter
    obtain ⟨-, -, hplayers⟩ := modifyPlayer_players hlater
    rw [hplayers] at hchanged
    split at hchanged
    · next hown => exact .inr (.inl ⟨client, _, _, rfl, howns, hinRoom, hown.symm⟩)
    · exact .inl (hsame hchanged)
  | teamed client command hin howns hinRoom hlater =>
    cases hafter
    obtain ⟨-, -, hplayers⟩ := modifyPlayer_players hlater
    rw [hplayers] at hchanged
    split at hchanged
    · next hnamed =>
        rw [hplayer] at hchanged
        cases hchanged
        subst hnamed
        obtain hown | hteam := hobeys hin _ howns room (hinRoom ▸ hroom) player hplayer
        · exact .inr (.inl ⟨client, _, _, rfl, howns, hinRoom, hown.symm⟩)
        · exact .inl ⟨team_apply command player, hteam⟩
    · exact .inl (hsame hchanged)
  | optioned client command hin howns hinRoom =>
    cases hafter
    exact .inl (hsame hchanged)
  | settled now hrace hstops hsettled => exact .inr (.inr ⟨now, _, rfl, hrace, hstops⟩)
  | recreated details characterUid hcreated =>
    subst hcreated
    cases hroom.symm.trans hobeys

theorem plays_of_findClientId {first client : ClientId} {uid : Uid}
    (h : handler.findClientId first uid = some client) :
    ∃ context, handler.clients[client]? = some context ∧ context.plays uid = true := by
  unfold findClientId at h
  split at h
  · next hfirst =>
      cases h
      cases hcontext : handler.clients[first]? with
      | none =>
        rw [hcontext] at hfirst
        cases hfirst
      | some context =>
        rw [hcontext] at hfirst
        exact ⟨context, rfl, hfirst⟩
  · obtain ⟨⟨found, context⟩, hfound, rfl⟩ := Option.map_eq_some_iff.1 h
    have hmember := List.mem_of_find?_eq_some hfound
    have hplays := List.find?_some hfound
    exact ⟨context, Std.ExtTreeMap.mem_toList_iff_getElem?_eq_some.1 hmember, hplays⟩

/-- A player who is no longer in its room has gone, or was kicked by the master. -/
theorem leave_of_change {after : Option Room} (hchange : RoomChange handler roomUid input room after)
    (hobeys : Obeys handler input) (hroom : handler.rooms[roomUid]? = some room) {uid : Uid}
    (hmember : uid ∈ room.players) (hgone : ∀ later ∈ after, uid ∉ later.players) :
    (∃ client context, Owns handler client context ∧ context.roomUid = roomUid ∧
      context.characterUid = uid ∧ Goes client input) ∨ KickedBy handler roomUid room uid input := by
  have hstays {later : Room} (hkept : uid ∈ later.players) (hlater : later ∈ after) : False :=
    hgone later hlater hkept
  cases hchange with
  | kept input hoptions hplayers => exact (hstays (hplayers ▸ hmember) rfl).elim
  | joined client lookups command haccepts hoptions added hplayers =>
    refine (hstays ?_ rfl).elim
    rw [hplayers]
    exact Std.ExtTreeMap.mem_insert.2 (.inr hmember)
  | readied client howns hinRoom hlater =>
    exact (hstays ((retains_modifyPlayer hlater).players uid hmember) rfl).elim
  | teamed client command hin howns hinRoom hlater =>
    exact (hstays ((retains_modifyPlayer hlater).players uid hmember) rfl).elim
  | optioned client command hin howns hinRoom => exact (hgone _ rfl hmember).elim
  | settled now hrace hstops hsettled => exact (hstays ((mem_settled hsettled uid).2 hmember) rfl).elim
  | recreated details characterUid hcreated =>
    subst hcreated
    cases hroom.symm.trans hobeys
  | @vacated _ _ client context howns hinRoom hcause _ hlater hclosed =>
    have hleaver : context.characterUid = uid := by
      by_contra hother
      have hremains := mem_removePlayer hmember (Ne.symm hother)
      cases hafter : after with
      | none =>
        rw [hclosed hafter] at hremains
        exact Std.ExtTreeMap.not_mem_empty hremains
      | some later =>
        refine hgone later hafter ?_
        rw [(hlater later hafter).2]
        exact hremains
    obtain hgoes | ⟨kicked, sender, first, firstClient, rfl, hin, hkicks⟩ := hcause
    · exact .inl ⟨client, context, howns, hinRoom, hleaver, hgoes⟩
    · -- The client that is kicked plays the character that the kick names.
      obtain ⟨found, hfound, hplays⟩ := plays_of_findClientId hkicks.found
      cases howns.connected.symm.trans hfound
      have hkicked : kicked = uid := by
        rw [← hleaver]
        exact (of_decide_eq_true (Bool.and_eq_true_iff.1 hplays).1).symm
      obtain ⟨own, ownRoom, target, hsender, hownRoom, hmaster, -, -, htarget, hrole⟩ := hkicks.allowed
      subst hkicked
      obtain hsame | hnobody := hobeys hin client hkicks own context hsender howns
      · have hownIs : own.roomUid = roomUid := hsame.symm.trans hinRoom
        rw [hownIs, hroom] at hownRoom
        cases hownRoom
        exact .inr ⟨⟨sender, first, firstClient, own, rfl, hsender, hownIs, hmaster⟩, target, htarget,
          hrole⟩
      · exact absurd hmember (hnobody room (hinRoom ▸ hroom))

theorem size_settled (h : Settled room later) : later.players.size = room.players.size := by
  have hmap : later.players.map (fun _ player => (player.clientId, player.team)) =
      room.players.map fun _ player => (player.clientId, player.team) := by
    refine ExtTreeMap.ext_getElem? fun uid => ?_
    rw [ExtTreeMap.getElem?_map, ExtTreeMap.getElem?_map]
    exact h.players uid
  have hsize := congrArg ExtTreeMap.size hmap
  rwa [ExtTreeMap.size_map, ExtTreeMap.size_map] at hsize

/-- A room with a place for each player has one for each afterwards. -/
theorem capacity_of_change (hchange : RoomChange handler roomUid input room (some later))
    (hobeys : Obeys handler input) (hroom : handler.rooms[roomUid]? = some room)
    (hcapacity : room.players.size ≤ room.details.maxPlayerCount.toNat) :
    later.players.size ≤ later.details.maxPlayerCount.toNat := by
  generalize hafter : some later = after at hchange
  cases hchange with
  | kept input hoptions hplayers =>
    cases hafter
    rwa [hplayers, sameOptions_maxPlayerCount hoptions]
  | joined client lookups command haccepts hoptions added hplayers =>
    cases hafter
    rw [hplayers, sameOptions_maxPlayerCount hoptions]
    exact ExtTreeMap.size_insert_le.trans haccepts.1
  | vacated input howns hinRoom hcause hlater hclosed =>
    obtain ⟨hoptions, hplayers⟩ := hlater later hafter.symm
    rw [hplayers, sameOptions_maxPlayerCount hoptions]
    exact ExtTreeMap.size_erase_le.trans hcapacity
  | readied client howns hinRoom hlater =>
    cases hafter
    obtain ⟨hdetails, hsize, -⟩ := modifyPlayer_players hlater
    rwa [hdetails, hsize]
  | teamed client command hin howns hinRoom hlater =>
    cases hafter
    obtain ⟨hdetails, hsize, -⟩ := modifyPlayer_players hlater
    rwa [hdetails, hsize]
  | optioned client command hin howns hinRoom =>
    cases hafter
    exact (hobeys hin _ howns room (hinRoom ▸ hroom)).2
  | settled now hrace hstops hsettled =>
    cases hafter
    rwa [size_settled hsettled, sameOptions_maxPlayerCount hsettled.details]
  | recreated details characterUid hcreated =>
    subst hcreated
    cases hroom.symm.trans hobeys

theorem roomy_serve (h : Roomy handler) (hobeys : Obeys handler input) :
    Roomy (serve identityHash handler input) := by
  intro roomUid later hlater
  cases hroom : handler.rooms[roomUid]? with
  | none =>
    rw [empty_of_absent hroom hlater, ExtTreeMap.size_empty]
    exact Nat.zero_le _
  | some room =>
    have hchange := roomChange_of_serve identityHash input hroom
    rw [hlater] at hchange
    exact capacity_of_change hchange hobeys hroom (h roomUid room hroom)

/-- A race is started by the master of its room. -/
theorem start_of_serve {race after : RaceInstance} (hroom : handler.rooms[roomUid]? = some room)
    (hrace : handler.raceInstances[roomUid]? = some race)
    (hafter : (serve identityHash handler input).raceInstances[roomUid]? = some after)
    (hbefore : race.stage ≠ .loading) (hloading : after.stage = .loading) :
    SentBy handler roomUid room.details.masterUid input := by
  obtain ⟨hnone, -⟩ | ⟨found, hfound, hchange⟩ := evolved_of_serve hafter
  · cases hnone.symm.trans hrace
  · cases hfound.symm.trans hrace
    cases hchange with
    | same => exact absurd hloading hbefore
    | dropped input race characterUid hother =>
      exact absurd ((stage_modifyRacer _ _ _).symm.trans hloading) hbefore
    | restarted client lookups hin hstarts hinRoom hstage =>
      subst hinRoom
      cases hroom.symm.trans hstarts.found
      exact ⟨client, _, _, rfl, hstarts.owns, rfl, hstarts.master⟩
    | loaded client hin hrides hinRoom =>
      exact absurd ((stage_modifyRacer _ _ _).symm.trans hloading) hbefore
    | finished client command hin hrides hinRoom =>
      exact absurd ((stage_modifyRacer _ _ _).symm.trans hloading) hbefore
    | ticked now hticked =>
      obtain hsame | ⟨hrunning, hnext⟩ := hticked.stage
      · exact absurd (hsame.symm.trans hloading) hbefore
      · have hwaits : race.stage = .waiting := by
          have hstage : race.stage.next = .loading := hnext.symm.trans hloading
          revert hstage
          cases race.stage <;> decide
        exact absurd hwaits hrunning

theorem controlled_of_obeys (h : Roomy handler) (hobeys : Obeys handler input) :
    Controlled identityHash handler input where
  options roomUid room later hroom hlater hchanged := by
    have hchange := roomChange_of_serve identityHash input hroom
    rw [hlater] at hchange
    exact (options_of_change hchange hobeys hroom).resolve_left hchanged
  start _ _ _ _ hroom hrace hafter hbefore hloading :=
    start_of_serve hroom hrace hafter hbefore hloading
  player roomUid room later uid player changed hroom hlater hplayer hchanged hdiffers := by
    have hchange := roomChange_of_serve identityHash input hroom
    rw [hlater] at hchange
    refine (player_of_change hchange hobeys hroom hplayer hchanged).resolve_left ?_
    rintro ⟨hready, hteam⟩
    exact hdiffers.elim (· hready) (· hteam)
  leave _ _ _ hroom hmember hgone :=
    leave_of_change (roomChange_of_serve identityHash input hroom) hobeys hroom hmember hgone
  capacity := roomy_serve h hobeys

end Controlled

theorem roomy_empty : Roomy {} := by
  intro roomUid room hroom
  rw [show ({} : NetworkHandler).rooms = ∅ from rfl, ExtTreeMap.getElem?_empty] at hroom
  cases hroom

/-- Along every run in which the clients obey, the rooms are controlled by their masters. -/
theorem rooms_controlled (identityHash : IdentityHash) (inputs : List ServerInput)
    (hobeys : Guarded (serve identityHash) Obeys {} inputs) :
    Guarded (serve identityHash) (Controlled identityHash) {} inputs :=
  hobeys.imp (fun _ _ => roomy_serve) (fun _ _ => controlled_of_obeys) roomy_empty

/-- The only player of a room, its master, starts the race. -/
theorem rooms_controlled_startedRun : Guarded (serve fun _ _ => 0) (Controlled fun _ _ => 0) {}
    startedRun :=
  rooms_controlled (fun _ _ => 0) startedRun
    ⟨trivial, ExtTreeMap.getElem?_empty, trivial, trivial, trivial, trivial, trivial⟩

/-- A second player, who is not the master, sets the capacity of the room to one. -/
def usurpedRun : List ServerInput :=
  waitingRun ++ [.grantCode 2 1 0 43, .connect 6, .command 6 (.enterRoom {} ⟨2, 1, 43⟩),
    .command 6 (.changeRoomOptions { playerCount := some 1 })]

theorem usurpedRun_not_controlled :
    ¬Guarded (serve fun _ _ => 0) (Controlled fun _ _ => 0) {} usurpedRun := by
  intro h
  have hstep := (guarded_append.1 h).2.2.2.2.1
  have hfull : (run (serve fun _ _ => 0) {} usurpedRun).rooms[(1 : UInt32)]?.map
      (fun room => (room.players.size, room.details.maxPlayerCount)) = some (2, 1) := by decide +kernel
  obtain ⟨room, hroom, hsizes⟩ := Option.map_eq_some_iff.1 hfull
  obtain ⟨hsize, hcount⟩ := Prod.mk.inj hsizes
  have hcapacity := hstep.capacity 1 room hroom
  rw [hsize, hcount] at hcapacity
  revert hcapacity
  decide

end Alicia.Race
