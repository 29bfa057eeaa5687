import Alicia.Race.Players

/-!
# The members of the rooms

A room knows its players by the characters that they play, and the context of a client knows the room
and the character.  The two agree along a run exactly if no client that sits in a room sends an
`EnterRoom` which changes its context, and every client that disconnects can leave its room.
-/

namespace Alicia.Race

open Std (ExtTreeMap ExtTreeSet)
open Data (Uid invalidUid Character Horse)
open Transition Transition.Effect Collection NetworkHandler
open NetworkHandler (removed succeeded closed roomless forgotten asked seated opened)

/-! ## Seats -/

/-- The client that plays the character in the room. -/
def seatIn (room : Room) (uid : Uid) : Option ClientId := room.players[uid]?.map Room.Player.clientId

variable {roomUid : UInt32} {room : Room}

def NetworkHandler.seat (handler : NetworkHandler) (roomUid : UInt32) (uid : Uid) : Option ClientId :=
  handler.rooms[roomUid]?.bind fun room => seatIn room uid

section Seats

variable {handler : NetworkHandler} {client : ClientId} {context : ClientContext}

theorem seat_of_rooms {before after : NetworkHandler} (h : after.rooms = before.rooms)
    (roomUid : UInt32) (uid : Uid) : after.seat roomUid uid = before.seat roomUid uid :=
  shown_of_rooms h roomUid uid

/-- A change of a room that leaves its players where they are. -/
theorem seat_setRoom_same {changed : Room} (hroom : handler.rooms[roomUid]? = some room)
    (h : ∀ uid, seatIn changed uid = seatIn room uid) (other : UInt32) (uid : Uid) :
    (handler.setRoom roomUid changed).seat other uid = handler.seat other uid :=
  shown_setRoom_same hroom h other uid

theorem seat_succeeded (first : Uid) (room : Room) (roomUid : UInt32) (uid : Uid) :
    (handler.succeeded first context room).seat roomUid uid = handler.seat roomUid uid :=
  shown_succeeded first room roomUid uid

theorem seat_closed (roomUid other : UInt32) (uid : Uid) :
    (handler.closed roomUid).seat other uid = handler.seat other uid := shown_closed roomUid other uid

theorem seat_removed (hroom : handler.rooms[context.roomUid]? = some room) (roomUid : UInt32)
    (uid : Uid) : (handler.removed context room).seat roomUid uid =
      if roomUid = context.roomUid ∧ uid = context.characterUid then none
      else handler.seat roomUid uid := shown_removed hroom roomUid uid

end Seats

/-! ## Clients -/

/-- The clients and their contexts are as they were. -/
structure SameClients (before after : NetworkHandler) : Prop where
  connected : after.connected = before.connected
  clients : after.clients = before.clients

section SameClients

variable {handler : NetworkHandler} {context : ClientContext}

theorem SameClients.trans {a b c : NetworkHandler} (h : SameClients a b) (g : SameClients b c) :
    SameClients a c := ⟨g.connected.trans h.connected, g.clients.trans h.clients⟩

theorem sameClients_modifyRace (roomUid : UInt32) (change : RaceInstance → RaceInstance) :
    SameClients handler (handler.modifyRace roomUid change) := by
  unfold modifyRace
  split
  · exact ⟨rfl, rfl⟩
  · exact ⟨rfl, rfl⟩

theorem sameClients_modifyRacer (change : Racer → Racer) :
    SameClients handler (handler.modifyRacer context change) := sameClients_modifyRace _ _

theorem sameClients_modifyRoom (roomUid : UInt32) (change : Room → Room) :
    SameClients handler (handler.modifyRoom roomUid change) := by
  unfold NetworkHandler.modifyRoom
  split
  · exact ⟨rfl, rfl⟩
  · exact ⟨rfl, rfl⟩

theorem sameClients_removed (handler : NetworkHandler) (context : ClientContext) (room : Room) :
    SameClients handler (handler.removed context room) :=
  (sameClients_modifyRacer _).trans ⟨rfl, rfl⟩

theorem sameClients_succeeded (handler : NetworkHandler) (first : Uid) (context : ClientContext)
    (room : Room) : SameClients handler (handler.succeeded first context room) := by
  unfold succeeded
  split
  · split
    · exact ⟨rfl, rfl⟩
    · exact sameClients_modifyRoom _ _
  · exact ⟨rfl, rfl⟩

theorem sameClients_closed (roomUid : UInt32) : SameClients handler (handler.closed roomUid) := by
  unfold closed
  split
  · exact ⟨rfl, rfl⟩
  · split
    · exact ⟨rfl, rfl⟩
    · exact ⟨rfl, rfl⟩

theorem sameClients_play (roomUid : UInt32) (part : World → World) :
    SameClients handler (handler.play roomUid part) := by
  unfold play
  split
  · exact ⟨rfl, rfl⟩
  · exact ⟨rfl, rfl⟩

theorem sameClients_opened (command : EnterRoom) : SameClients handler (handler.opened command) := by
  unfold opened
  split
  · exact ⟨rfl, rfl⟩
  · have hset : SameClients handler (handler.setRace command.roomUid {}) := ⟨rfl, rfl⟩
    exact hset.trans (sameClients_modifyRoom _ _)

end SameClients

/-! ## Leaving -/

/-- What `HandleLeaveRoom` does to clients and seats. -/
inductive LeaveSeats (client : ClientId) (before after : NetworkHandler) : Prop where
  | stays (hnot : ∀ context, Leaves before client context → before.rooms[context.roomUid]? = none)
      (hclients : after.clients = before.clients)
      (hseats : ∀ roomUid uid, after.seat roomUid uid = before.seat roomUid uid)
  | vacates (context : ClientContext) (hleaves : Leaves before client context)
      (hclients : after.clients = before.clients ∨
        after.clients = before.clients.insert client { context with roomUid := invalidUid })
      (hseats : ∀ roomUid uid, after.seat roomUid uid =
        if roomUid = context.roomUid ∧ uid = context.characterUid then none
        else before.seat roomUid uid)

theorem handleLeaveRoom_seats (first : Uid) (client : ClientId) (handler : NetworkHandler) :
    ((handleLeaveRoom first client).final handler).connected = handler.connected ∧
      LeaveSeats client handler ((handleLeaveRoom first client).final handler) := by
  have houtcome := handleLeaveRoom_outcome first client handler
  generalize (handleLeaveRoom first client).final handler = after at houtcome
  cases houtcome with
  | refused h => exact ⟨rfl, .stays (fun context hleaves => absurd hleaves (h context)) rfl fun _ _ => rfl⟩
  | deleted context hleaves hroom =>
    have hsame := @sameClients_modifyRacer handler context (·.setState .disconnected)
    refine ⟨hsame.connected, .stays (fun other hother => ?_) hsame.clients
      (seat_of_rooms (rooms_modifyRacer _ _))⟩
    cases hleaves.connected.symm.trans hother.connected
    exact hroom
  | stuck context hleaves room hroom hmaster candidateUid hcandidate hlost =>
    have hsame := sameClients_removed handler context room
    exact ⟨hsame.connected, .vacates context hleaves (.inl hsame.clients) (seat_removed hroom)⟩
  | left context hleaves room hroom =>
    have hsame := ((sameClients_removed handler context room).trans
      (sameClients_succeeded _ first context room)).trans (sameClients_closed context.roomUid)
    refine ⟨hsame.connected, .vacates context hleaves (.inr ?_) fun roomUid uid => ?_⟩
    · rw [← hsame.clients]
      rfl
    · refine Eq.trans ?_ (seat_removed hroom roomUid uid)
      exact (seat_closed context.roomUid roomUid uid).trans (seat_succeeded first room roomUid uid)

/-! ## Consistency -/

/-- The context of the client says that it plays the character in the room. -/
def Sits (handler : NetworkHandler) (client : ClientId) (roomUid : UInt32) (uid : Uid) : Prop :=
  client ∈ handler.connected ∧ handler.clients[client]? = some ⟨uid, roomUid, true⟩

/-- Every player of a room belongs to a connected and authenticated client, whose context names the
character and the room. -/
def Consistent (handler : NetworkHandler) : Prop :=
  ∀ (roomUid : UInt32) (room : Room), handler.rooms[roomUid]? = some room →
    ∀ (uid : Uid) (player : Room.Player), room.players[uid]? = some player →
      player.clientId ∈ handler.connected ∧ ∃ context, handler.clients[player.clientId]? = some context ∧
        context.isAuthenticated = true ∧ context.characterUid = uid ∧ context.roomUid = roomUid

theorem consistent_iff {handler : NetworkHandler} : Consistent handler ↔
    ∀ roomUid uid client, handler.seat roomUid uid = some client → Sits handler client roomUid uid := by
  constructor
  · intro h roomUid uid client hseat
    obtain ⟨room, hroom, hseatIn⟩ := Option.bind_eq_some_iff.1 hseat
    obtain ⟨player, hplayer, rfl⟩ := Option.map_eq_some_iff.1 hseatIn
    obtain ⟨hconnected, ⟨characterUid, inRoom, authenticated⟩, hcontext, rfl, rfl, rfl⟩ :=
      h roomUid room hroom uid player hplayer
    exact ⟨hconnected, hcontext⟩
  · intro h roomUid room hroom uid player hplayer
    have hseat : handler.seat roomUid uid = some player.clientId := by
      rw [seat, hroom, Option.bind_some, seatIn, hplayer]
      rfl
    obtain ⟨hconnected, hcontext⟩ := h roomUid uid player.clientId hseat
    exact ⟨hconnected, _, hcontext, rfl, rfl, rfl⟩

/-- The client sits in the room that its context names. -/
def Seated (handler : NetworkHandler) (client : ClientId) : Prop :=
  ∃ context ∈ handler.clients[client]?,
    handler.seat context.roomUid context.characterUid = some client

instance (handler : NetworkHandler) (client : ClientId) : Decidable (Seated handler client) :=
  Option.decidableExistsMem _

/-- The entry takes place: the code is right, and the room has a place for the character. -/
def Enters (identityHash : IdentityHash) (handler : NetworkHandler) (lookups : EnterLookups)
    (command : EnterRoom) : Prop :=
  handler.authorizes identityHash lookups.now command = true ∧
    ∃ room ∈ handler.rooms[command.roomUid]?, room.Accepts command.characterUid

instance (identityHash : IdentityHash) (handler : NetworkHandler) (lookups : EnterLookups)
    (command : EnterRoom) : Decidable (Enters identityHash handler lookups command) :=
  have : Decidable (∃ room ∈ handler.rooms[command.roomUid]?, room.Accepts command.characterUid) :=
    Option.decidableExistsMem _
  inferInstanceAs (Decidable (_ ∧ _))

/-- The client can leave the room that its context names. -/
def CanLeave (handler : NetworkHandler) (client : ClientId) : Prop :=
  ∃ context ∈ handler.clients[client]?, context.roomUid ≠ invalidUid ∧
    context.roomUid ∈ handler.raceInstances ∧ (handler.getCharacter context.characterUid).isOk = true

instance (handler : NetworkHandler) (client : ClientId) : Decidable (CanLeave handler client) :=
  Option.decidableExistsMem _

/-- A client that sits in a room enters none: its code is right, and then it is turned away.  And it can
leave its room when it disconnects. -/
def KeepsSeat (identityHash : IdentityHash) (handler : NetworkHandler) : ServerInput → Prop
  | .command client (.enterRoom lookups command) =>
    client ∈ handler.connected → Seated handler client →
      handler.authorizes identityHash lookups.now command = true ∧
        ¬Enters identityHash handler lookups command
  | .disconnect client _ =>
    client ∈ handler.connected → Seated handler client → CanLeave handler client
  | _ => True

section Preservation

variable {before after : NetworkHandler} {client : ClientId}

theorem Seated.of_seat (h : Consistent before) {uid : Uid}
    (hseat : before.seat roomUid uid = some client) : Seated before client :=
  ⟨_, (consistent_iff.1 h roomUid uid client hseat).2, hseat⟩

/-- If all that changes concerns one client and the client sits nowhere now, nothing is wrong. -/
theorem Consistent.without (h : Consistent before)
    (hseats : ∀ roomUid uid other, after.seat roomUid uid = some other →
      before.seat roomUid uid = some other ∧ other ≠ client)
    (hconnected : ∀ other, other ≠ client → other ∈ before.connected → other ∈ after.connected)
    (hclients : ∀ other, other ≠ client → after.clients[other]? = before.clients[other]?) :
    Consistent after := by
  rw [consistent_iff] at h ⊢
  intro roomUid uid other hseat
  obtain ⟨hbefore, hother⟩ := hseats roomUid uid other hseat
  obtain ⟨hin, hcontext⟩ := h roomUid uid other hbefore
  exact ⟨hconnected other hother hin, (hclients other hother).trans hcontext⟩

/-- Clients and seats are as they were. -/
theorem Consistent.of_same (h : Consistent before) (hsame : SameClients before after)
    (hseats : ∀ roomUid uid, after.seat roomUid uid = before.seat roomUid uid) : Consistent after := by
  rw [consistent_iff] at h ⊢
  intro roomUid uid other hseat
  rw [Sits, hsame.connected, hsame.clients]
  exact h roomUid uid other ((hseats roomUid uid).symm.trans hseat)

/-- After the client has left, it sits nowhere, unless it could not leave. -/
theorem LeaveSeats.empty (h : Consistent before) (hleave : LeaveSeats client before after)
    (hcan : Seated before client → CanLeave before client) {uid : Uid} :
    after.seat roomUid uid ≠ some client := by
  intro hseat
  cases hleave with
  | stays hnot hclients hseats =>
    rw [hseats] at hseat
    obtain ⟨hconnected, hcontext⟩ := consistent_iff.1 h roomUid uid client hseat
    obtain ⟨context, hfound, hroom, hrace, hcharacter⟩ := hcan (.of_seat h hseat)
    cases hcontext.symm.trans hfound
    have hleaves : Leaves before client ⟨uid, roomUid, true⟩ := {
      connected := hcontext
      authenticated := rfl
      inRoom := hroom
      race := hrace
      character := by
        cases hlookup : before.getCharacter uid with
        | error failure =>
          rw [hlookup] at hcharacter
          cases hcharacter
        | ok character => exact ⟨character, rfl⟩ }
    have hnone := hnot _ hleaves
    rw [seat, hnone] at hseat
    cases hseat
  | vacates context hleaves hclients hseats =>
    rw [hseats] at hseat
    split at hseat
    · cases hseat
    · next hother =>
        cases hleaves.connected.symm.trans (consistent_iff.1 h roomUid uid client hseat).2
        exact hother ⟨rfl, rfl⟩

theorem LeaveSeats.of_seat (hleave : LeaveSeats client before after) {uid : Uid} {other : ClientId}
    (hseat : after.seat roomUid uid = some other) :
    before.seat roomUid uid = some other := by
  cases hleave with
  | stays hnot hclients hseats => exact (hseats roomUid uid).symm.trans hseat
  | vacates context hleaves hclients hseats =>
    rw [hseats] at hseat
    split at hseat
    · cases hseat
    · exact hseat

theorem LeaveSeats.clients (hleave : LeaveSeats client before after) {other : ClientId}
    (hother : other ≠ client) : after.clients[other]? = before.clients[other]? := by
  cases hleave with
  | stays hnot hclients hseats => rw [hclients]
  | vacates context hleaves hclients hseats =>
    obtain hclients | hclients := hclients
    · rw [hclients]
    · rw [hclients, getElem?_insert_self_or_ne, if_neg hother]

theorem consistent_leave (h : Consistent before) (first : Uid) (client : ClientId) :
    Consistent ((handleLeaveRoom first client).final before) := by
  obtain ⟨hconnected, hleave⟩ := handleLeaveRoom_seats first client before
  generalize (handleLeaveRoom first client).final before = after at hconnected hleave
  cases hleave with
  | stays hnot hclients hseats => exact h.of_same ⟨hconnected, hclients⟩ hseats
  | vacates context hleaves hclients hseats =>
    have hvacates : LeaveSeats client before after := .vacates context hleaves hclients hseats
    refine h.without (fun roomUid uid other hseat => ⟨hvacates.of_seat hseat, ?_⟩)
      (fun other _ hin => hconnected ▸ hin) fun other hother => hvacates.clients hother
    rintro rfl
    have hbefore := hvacates.of_seat hseat
    cases hleaves.connected.symm.trans (consistent_iff.1 h roomUid uid other hbefore).2
    rw [hseats, if_pos ⟨rfl, rfl⟩] at hseat
    cases hseat

end Preservation

section Entering

variable {identityHash : IdentityHash} {lookups : EnterLookups} {client : ClientId}
  {command : EnterRoom} {handler : NetworkHandler}

theorem clients_authenticated (other : ClientId) :
    (handler.authenticated identityHash lookups.now client command).clients[other]? =
      if other = client then some { handler.clients[client]?.getD {} with
        isAuthenticated := handler.authorizes identityHash lookups.now command }
      else handler.clients[other]? :=
  getElem?_insert_self_or_ne _ _ _ _

theorem clients_seated (room : Room) (other : ClientId) :
    (handler.seated identityHash lookups client command room).clients[other]? =
      if other = client then some ⟨command.characterUid, command.roomUid, true⟩
      else handler.clients[other]? := by
  refine (getElem?_insert_self_or_ne _ _ _ _).trans ?_
  by_cases hsame : other = client
  · rw [if_pos hsame, if_pos hsame]
  · rw [if_neg hsame, if_neg hsame]
    exact (clients_authenticated other).trans (if_neg hsame)

/-- A room that turns a player away is not changed as far as seats go. -/
theorem seat_asked (hroom : handler.rooms[command.roomUid]? = some room)
    (haccepts : ¬room.Accepts command.characterUid) (roomUid : UInt32) (uid : Uid) :
    (handler.asked identityHash lookups client command room).seat roomUid uid =
      handler.seat roomUid uid := shown_asked hroom haccepts roomUid uid

theorem seat_seated (hroom : handler.rooms[command.roomUid]? = some room)
    (haccepts : room.Accepts command.characterUid) (roomUid : UInt32) (uid : Uid) :
    (handler.seated identityHash lookups client command room).seat roomUid uid =
      if roomUid = command.roomUid ∧ uid = command.characterUid then some client
      else handler.seat roomUid uid := shown_seated hroom haccepts roomUid uid

theorem seat_opened (roomUid : UInt32) (uid : Uid) :
    (handler.opened command).seat roomUid uid = handler.seat roomUid uid := shown_opened roomUid uid

/-- A character that a room accepts has no seat in it. -/
theorem seat_of_accepts (hroom : handler.rooms[command.roomUid]? = some room)
    (haccepts : room.Accepts command.characterUid) :
    handler.seat command.roomUid command.characterUid = none := shown_of_accepts hroom haccepts

/-- Whoever takes a new seat had none. -/
theorem Consistent.entered {after : NetworkHandler} (h : Consistent handler)
    (hin : client ∈ handler.connected) (hunseated : ¬Seated handler client)
    (hconnected : after.connected = handler.connected)
    (hclients : ∀ other, after.clients[other]? =
      if other = client then some ⟨command.characterUid, command.roomUid, true⟩
      else handler.clients[other]?)
    (hseats : ∀ roomUid uid, after.seat roomUid uid =
      if roomUid = command.roomUid ∧ uid = command.characterUid then some client
      else handler.seat roomUid uid) : Consistent after := by
  refine consistent_iff.2 fun roomUid uid other hseat => ?_
  rw [hseats] at hseat
  rw [Sits, hconnected, hclients]
  split at hseat
  · next hsame =>
      cases hseat
      rw [if_pos rfl, hsame.1, hsame.2]
      exact ⟨hin, rfl⟩
  · have hother : other ≠ client := by
      rintro rfl
      exact hunseated (.of_seat h hseat)
    rw [if_neg hother]
    exact consistent_iff.1 h roomUid uid other hseat

theorem consistent_enter (h : Consistent handler) (hin : client ∈ handler.connected)
    (hkeeps : Seated handler client →
      handler.authorizes identityHash lookups.now command = true ∧
        ¬Enters identityHash handler lookups command) :
    Consistent ((handleEnterRoom identityHash lookups client command).final handler) := by
  -- A right code leaves the context of a seated client as it is.
  have hauthenticated (hright : Seated handler client →
      handler.authorizes identityHash lookups.now command = true) (other : ClientId)
      (roomUid : UInt32) (uid : Uid) (hseat : handler.seat roomUid uid = some other) :
      (handler.authenticated identityHash lookups.now client command).clients[other]? =
        some ⟨uid, roomUid, true⟩ := by
    obtain ⟨-, hcontext⟩ := consistent_iff.1 h roomUid uid other hseat
    rw [clients_authenticated]
    split
    · next hsame =>
        subst hsame
        rw [hright (.of_seat h hseat), hcontext]
        rfl
    · exact hcontext
  have hstays {after : NetworkHandler} (hright : Seated handler client →
      handler.authorizes identityHash lookups.now command = true)
      (hclients : after.clients =
        (handler.authenticated identityHash lookups.now client command).clients)
      (hconnected : after.connected = handler.connected)
      (hseats : ∀ roomUid uid, after.seat roomUid uid = handler.seat roomUid uid) :
      Consistent after := by
    refine consistent_iff.2 fun roomUid uid other hseat => ?_
    rw [hseats] at hseat
    rw [Sits, hconnected, hclients]
    exact ⟨(consistent_iff.1 h roomUid uid other hseat).1, hauthenticated hright other roomUid uid hseat⟩
  have houtcome := handleEnterRoom_outcome identityHash lookups client command handler
  generalize (handleEnterRoom identityHash lookups client command).final handler = after at houtcome
  cases houtcome with
  | refused hrefused => exact hstays (fun hseated => (hkeeps hseated).1) rfl rfl fun _ _ => rfl
  | nowhere hright hroom => exact hstays (fun _ => hright) rfl rfl fun _ _ => rfl
  | turnedAway hright room hroom haccepts =>
    exact hstays (fun _ => hright) rfl rfl (seat_asked hroom haccepts)
  | offline hright room hroom haccepts =>
    have hunseated : ¬Seated handler client :=
      fun hseated => (hkeeps hseated).2 ⟨hright, room, hroom, haccepts⟩
    exact h.entered hin hunseated rfl (clients_seated room) (seat_seated hroom haccepts)
  | entered hright room hroom haccepts =>
    have hunseated : ¬Seated handler client :=
      fun hseated => (hkeeps hseated).2 ⟨hright, room, hroom, haccepts⟩
    have hsame := @sameClients_opened (handler.seated identityHash lookups client command room) command
    refine @Consistent.entered client command handler _ h hin hunseated hsame.connected
      (fun other => ?_) fun roomUid uid => ?_
    · rw [hsame.clients]
      exact clients_seated room other
    · exact (seat_opened roomUid uid).trans (seat_seated hroom haccepts roomUid uid)

end Entering

section Serving

variable {identityHash : IdentityHash} {handler after : NetworkHandler} {client : ClientId}

/-- Only the connection of the client and its context differ. -/
theorem Consistent.vanished (h : Consistent handler)
    (hseats : ∀ roomUid uid other, after.seat roomUid uid = some other →
      handler.seat roomUid uid = some other ∧ other ≠ client)
    (hconnected : after.connected = handler.connected.erase client)
    (hclients : ∀ other, other ≠ client → after.clients[other]? = handler.clients[other]?) :
    Consistent after := by
  refine h.without hseats (fun other hother hin => ?_) hclients
  rw [hconnected]
  exact mem_erase_iff.2 ⟨hin, hother⟩

theorem clients_forgotten (client other : ClientId) (hother : other ≠ client) :
    (handler.forgotten client).clients[other]? = handler.clients[other]? :=
  (getElem?_erase_self_or_ne _ _ _).trans (if_neg hother)

theorem consistent_disconnect (h : Consistent handler) (first : Uid)
    (hcan : Seated handler client → CanLeave handler client) :
    Consistent { (handleClientDisconnected first client).final handler with
      connected := handler.connected.erase client } := by
  have houtcome := handleClientDisconnected_outcome first client handler
  obtain ⟨-, hleave⟩ := handleLeaveRoom_seats first client handler
  generalize (handleClientDisconnected first client).final handler = after at houtcome
  have hstays (hunseated : ¬Seated handler client) (roomUid : UInt32) (uid : Uid) (other : ClientId)
      (hseat : handler.seat roomUid uid = some other) :
      handler.seat roomUid uid = some other ∧ other ≠ client := by
    refine ⟨hseat, ?_⟩
    rintro rfl
    exact hunseated (.of_seat h hseat)
  have hempty (roomUid : UInt32) (uid : Uid) (other : ClientId)
      (hseat : ((handleLeaveRoom first client).final handler).seat roomUid uid = some other) :
      handler.seat roomUid uid = some other ∧ other ≠ client := by
    refine ⟨hleave.of_seat hseat, ?_⟩
    rintro rfl
    exact hleave.empty h hcan hseat
  cases houtcome with
  | unknown hunknown =>
    refine h.vanished (hstays ?_) rfl fun _ _ => rfl
    rintro ⟨context, hcontext, -⟩
    cases hunknown.symm.trans hcontext
  | idle context hcontext hidle =>
    refine h.vanished (hstays fun hseated => ?_) rfl (clients_forgotten client)
    obtain ⟨seated, hfound, hseat⟩ := hseated
    obtain ⟨-, hsits⟩ := consistent_iff.1 h _ _ _ hseat
    obtain ⟨other, hother, -, hrace, -⟩ := hcan ⟨seated, hfound, hseat⟩
    have hcontexts : context = ⟨seated.characterUid, seated.roomUid, true⟩ :=
      Option.some.inj (hcontext.symm.trans hsits)
    cases hcontext.symm.trans hother
    exact hidle ⟨by rw [hcontexts], hrace⟩
  | failed context hcontext => exact h.vanished hempty rfl fun other hother => hleave.clients hother
  | gone context hcontext =>
    refine h.vanished hempty rfl fun other hother => ?_
    exact (clients_forgotten client other hother).trans (hleave.clients hother)

/-- A connection concerns neither rooms nor races. -/
theorem handleClientConnected_rooms (client : ClientId) (handler : NetworkHandler) :
    (handleClientConnected client handler).rooms = handler.rooms ∧
      (handleClientConnected client handler).raceInstances = handler.raceInstances := by
  unfold handleClientConnected
  split
  · exact ⟨rfl, rfl⟩
  · exact ⟨rfl, rfl⟩

theorem consistent_connect (h : Consistent handler) (client : ClientId) :
    Consistent { handleClientConnected client handler with
      connected := handler.connected.insert client } := by
  rw [consistent_iff] at h ⊢
  intro roomUid uid other hseat
  obtain ⟨hkept, -⟩ := handleClientConnected_rooms client handler
  obtain ⟨hin, hcontext⟩ := h roomUid uid other ((seat_of_rooms hkept roomUid uid).symm.trans hseat)
  refine ⟨mem_insert_iff.2 (.inl hin), ?_⟩
  show (handleClientConnected client handler).clients[other]? = _
  unfold handleClientConnected
  split
  · next hnone =>
      refine (getElem?_insert_self_or_ne _ _ _ _).trans ((if_neg ?_).trans hcontext)
      rintro rfl
      cases hnone.symm.trans hcontext
  · exact hcontext

/-- A player of a room changes, but not its client. -/
theorem consistent_modifyPlayer (h : Consistent handler) {changed : Room} {characterUid : Uid}
    {change : Room.Player → Room.Player} (hroom : handler.rooms[roomUid]? = some room)
    (hchanged : room.modifyPlayer characterUid change = .ok changed)
    (hchange : ∀ player, (change player).clientId = player.clientId) :
    Consistent (handler.setRoom roomUid changed) :=
  h.of_same ⟨rfl, rfl⟩ (seat_setRoom_same hroom (shownIn_modifyPlayer hchange hchanged))

theorem consistent_modifyRacer (h : Consistent handler) (context : ClientContext)
    (change : Racer → Racer) : Consistent (handler.modifyRacer context change) :=
  h.of_same (sameClients_modifyRacer change) (seat_of_rooms (rooms_modifyRacer _ _))

theorem sameClients_startRace (lookups : StartLookups) (roomUid : UInt32) (room : Room) :
    SameClients handler (handler.startRace lookups roomUid room) :=
  (sameClients_modifyRace _ _).trans (sameClients_play _ _)

theorem consistent_startRace (h : Consistent handler) (lookups : StartLookups) (client : ClientId) :
    Consistent ((handleStartRace lookups client).final handler) := by
  refine h.of_same ?_ (shown_handleStartRace lookups client)
  have houtcome := handleStartRace_outcome lookups client handler
  generalize (handleStartRace lookups client).final handler = after at houtcome
  cases houtcome with
  | refused => exact ⟨rfl, rfl⟩
  | cancelled context race room hstarts hprepared => exact sameClients_startRace _ _ _
  | started context race room hstarts hprepared =>
    have hstarted : SameClients handler (handler.startRace lookups context.roomUid room) :=
      sameClients_startRace lookups context.roomUid room
    exact hstarted.trans ((sameClients_modifyRace _ _).trans ⟨rfl, rfl⟩)

theorem consistent_modifyRoom (h : Consistent handler) {change : Room → Room}
    (hchange : ∀ room uid, seatIn (change room) uid = seatIn room uid) (roomUid : UInt32) :
    Consistent (handler.modifyRoom roomUid change) :=
  h.of_same (sameClients_modifyRoom _ _) (shown_modifyRoom hchange roomUid)

theorem consistent_createRoom (h : Consistent handler) (details : Room.Details) (characterUid : Uid) :
    Consistent (handler.createRoom details characterUid) :=
  h.of_same ⟨rfl, rfl⟩ (shown_createRoom details characterUid)

end Serving

/-! ## Runs -/

section Runs

variable {identityHash : IdentityHash} {handler : NetworkHandler}

/-- A command of a client that keeps to its seat. -/
theorem consistent_handle (h : Consistent handler) {client : ClientId} {command : Command}
    (hin : client ∈ handler.connected)
    (hkeeps : KeepsSeat identityHash handler (.command client command)) :
    Consistent (handle identityHash handler client command) := by
  cases command with
  | enterRoom lookups command => exact consistent_enter h hin (hkeeps hin)
  | leaveRoom first => exact consistent_leave h first client
  | kick first firstClient characterUid =>
    refine (handleKickUser_outcome first firstClient client characterUid handler).elim
      (P := Consistent) h ?_
    rintro _ ⟨_, _, _, targetClient, -, -, -, -, -, -, -, -, rfl⟩
    exact consistent_leave h first targetClient
  | readyRace =>
    refine (handleReadyRace_outcome client handler).elim
      (P := Consistent) h ?_
    rintro _ ⟨_, _, _, -, hroom, hmodified, rfl⟩
    exact consistent_modifyPlayer h hroom hmodified fun _ => rfl
  | changeTeam command =>
    refine (handleChangeTeam_outcome client command handler).elim
      (P := Consistent) h ?_
    rintro _ ⟨_, _, _, -, hroom, hmodified, rfl⟩
    exact consistent_modifyPlayer h hroom hmodified (clientId_apply command)
  | changeRoomOptions command =>
    refine (handleChangeRoomOptions_outcome client command handler).elim
      (P := Consistent) h ?_
    rintro _ ⟨_, _, -, hroom, rfl⟩
    exact h.of_same ⟨rfl, rfl⟩ (seat_setRoom_same hroom fun _ => rfl)
  | startRace lookups => exact consistent_startRace h lookups client
  | loadingComplete =>
    refine (handleLoadingComplete_outcome client handler).elim
      (P := Consistent) h ?_
    rintro _ ⟨context, _, _, -, rfl⟩
    exact consistent_modifyRacer h context _
  | userRaceFinal command =>
    refine (handleUserRaceFinal_outcome client command handler).elim
      (P := Consistent) h ?_
    rintro _ ⟨context, _, _, -, rfl⟩
    exact consistent_modifyRacer h context _

/-- A step in which every client keeps to its seat. -/
theorem consistent_serve (identityHash : IdentityHash) (handler : NetworkHandler) (input : ServerInput)
    (h : Consistent handler) (hkeeps : KeepsSeat identityHash handler input) :
    Consistent (serve identityHash handler input) := by
  cases input with
  | connect client => exact consistent_connect h client
  | disconnect client first =>
    rw [serve]
    split
    · next hin => exact consistent_disconnect h first (hkeeps hin)
    · exact h
  | command client command =>
    rw [serve]
    split
    · next hin => exact consistent_handle h hin hkeeps
    · exact h
  | tick roomUid now => exact h.of_same (sameClients_play _ _) (shown_tick roomUid now)
  | createRoom details characterUid => exact consistent_createRoom h details characterUid
  | queuePlayer roomUid characterUid =>
    exact consistent_modifyRoom h (shownIn_queuePlayer characterUid) roomUid
  | dequeuePlayer roomUid characterUid =>
    exact @consistent_modifyRoom handler h (fun room => (room.dequeuePlayer characterUid).2)
      (fun _ _ => rfl) roomUid
  | grantCode characterUid roomUid now code => exact h.of_same ⟨rfl, rfl⟩ fun _ _ => rfl
  | outside records => exact h.of_same ⟨rfl, rfl⟩ fun _ _ => rfl

/-- A client that sits in a room can only enter one if the rooms are wrong about it afterwards. -/
theorem keepsSeat_enter {lookups : EnterLookups} {client : ClientId}
    {command : EnterRoom}
    (hafter : Consistent ((handleEnterRoom identityHash lookups client command).final handler))
    (hseated : Seated handler client) : handler.authorizes identityHash lookups.now command = true ∧
      ¬Enters identityHash handler lookups command := by
  obtain ⟨⟨characterUid, inRoom, authenticated⟩, hcontext, hseat⟩ := hseated
  have houtcome := handleEnterRoom_outcome identityHash lookups client command handler
  generalize (handleEnterRoom identityHash lookups client command).final handler = after
    at houtcome hafter
  rw [consistent_iff] at hafter
  -- Were the client let in, it would sit in two places and its context would name one.
  have htwice {room : Room} (hroom : handler.rooms[command.roomUid]? = some room)
      (haccepts : room.Accepts command.characterUid)
      (hclient : after.clients[client]? = some ⟨command.characterUid, command.roomUid, true⟩)
      (hseats : ∀ roomUid uid, after.seat roomUid uid =
        if roomUid = command.roomUid ∧ uid = command.characterUid then some client
        else handler.seat roomUid uid) : False := by
    have hold : ¬(inRoom = command.roomUid ∧ characterUid = command.characterUid) := by
      rintro ⟨rfl, rfl⟩
      cases hseat.symm.trans (seat_of_accepts hroom haccepts)
    obtain ⟨-, hsits⟩ := hafter inRoom characterUid client
      ((hseats inRoom characterUid).trans ((if_neg hold).trans hseat))
    cases hclient.symm.trans hsits
    exact hold ⟨rfl, rfl⟩
  cases houtcome with
  | refused hrefused =>
    obtain ⟨-, hsits⟩ := hafter inRoom characterUid client hseat
    rw [clients_authenticated, if_pos rfl, hrefused] at hsits
    cases hsits
  | nowhere hright hroom =>
    refine ⟨hright, ?_⟩
    rintro ⟨-, room, hfound, -⟩
    cases hroom.symm.trans hfound
  | turnedAway hright room hroom haccepts =>
    refine ⟨hright, ?_⟩
    rintro ⟨-, other, hfound, hother⟩
    cases hroom.symm.trans hfound
    exact haccepts hother
  | offline hright room hroom haccepts =>
    exact (htwice hroom haccepts ((clients_seated room client).trans (if_pos rfl))
      (seat_seated hroom haccepts)).elim
  | entered hright room hroom haccepts =>
    have hsame := @sameClients_opened (handler.seated identityHash lookups client command room) command
    refine (htwice hroom haccepts ?_ fun roomUid uid =>
      (seat_opened roomUid uid).trans (seat_seated hroom haccepts roomUid uid)).elim
    rw [hsame.clients]
    exact (clients_seated room client).trans (if_pos rfl)

/-- A client that cannot leave its room stays in it when it disconnects. -/
theorem seat_stays (first : Uid) {client : ClientId} {uid : Uid}
    (hseat : handler.seat roomUid uid = some client) (hcannot : ¬CanLeave handler client) :
    ((handleClientDisconnected first client).final handler).seat roomUid uid = some client := by
  have hseats : ∀ roomUid uid, ((handleLeaveRoom first client).final handler).seat roomUid uid =
      handler.seat roomUid uid := by
    obtain ⟨-, hleave⟩ := handleLeaveRoom_seats first client handler
    cases hleave with
    | stays hnot hclients hseats => exact hseats
    | vacates context hleaves hclients hseats =>
      obtain ⟨character, hcharacter⟩ := hleaves.character
      exact absurd ⟨context, hleaves.connected, hleaves.inRoom, hleaves.race,
        by rw [hcharacter]; rfl⟩ hcannot
  have houtcome := handleClientDisconnected_outcome first client handler
  generalize (handleClientDisconnected first client).final handler = after at houtcome
  cases houtcome with
  | unknown hunknown => exact hseat
  | idle context hcontext hidle => exact hseat
  | failed context hcontext => exact (hseats roomUid uid).trans hseat
  | gone context hcontext => exact (hseats roomUid uid).trans hseat

theorem keepsSeat_of_consistent (identityHash : IdentityHash) (handler : NetworkHandler)
    (input : ServerInput) (hafter : Consistent (serve identityHash handler input)) :
    KeepsSeat identityHash handler input := by
  cases input with
  | command client command =>
    cases command with
    | enterRoom lookups command =>
      intro hin
      rw [serve, if_pos hin] at hafter
      exact keepsSeat_enter hafter
    | _ => trivial
  | disconnect client first =>
    rintro hin ⟨context, -, hseat⟩
    by_contra hcannot
    rw [serve, if_pos hin] at hafter
    obtain ⟨hconnected, -⟩ := consistent_iff.1 hafter _ _ client (seat_stays first hseat hcannot)
    exact (mem_erase_iff.1 hconnected).2 rfl
  | _ => trivial

/-- Nobody is in a room of a server that has just been started. -/
theorem consistent_empty : Consistent {} := by
  intro roomUid room hroom
  rw [show ({} : NetworkHandler).rooms = ∅ from rfl, Std.ExtTreeMap.getElem?_empty] at hroom
  cases hroom

/-- The client enters a room with the code that it was granted, sends the command again with a wrong
code, and disconnects: the room keeps the player of a client that is not authenticated, and then of one
that is gone. -/
def ghostRun : List ServerInput :=
  [.outside { characters := (∅ : ExtTreeMap Uid Character).insert 1 {}
              onlineCharacters := (∅ : ExtTreeSet Uid).insert 1 },
    .createRoom { maxPlayerCount := 8 } 1, .grantCode 1 1 0 42, .connect 5,
    .command 5 (.enterRoom {} ⟨1, 1, 42⟩), .command 5 (.enterRoom {} ⟨1, 1, 0⟩)]

end Runs

end Alicia.Race
