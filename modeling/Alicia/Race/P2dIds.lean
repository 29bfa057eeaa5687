import Alicia.Race.Membership
import Mathlib.Data.List.Perm.Subperm
import Mathlib.Data.List.Nodup

/-!
# The ids of the relay

A racer is known to the relay by an id of sixteen bits, which its client gets from a pool at the first race
that it starts, and which goes back to the pool when the client disconnects.  A client that cannot leave its
room when it disconnects keeps its id for good.
-/

namespace Alicia.Race

open Std (ExtTreeMap ExtTreeSet)
open Data (Uid invalidUid Character)
open Transition Transition.Effect Function List Collection
open NetworkHandler (removed succeeded closed roomless Found)

/-! ## The pool -/

abbrev P2dId := UInt16

/-- `P2dIdPool`; the free list begins with its back. -/
structure P2dIdPool where
  freeList : List P2dId := []
  nextNewId : UInt32 := 0
  deriving DecidableEq

namespace P2dIdPool

variable (pool : P2dIdPool)

def acquire : Option (P2dId × P2dIdPool) :=
  match pool.freeList with
  | id :: rest => some (id, { pool with freeList := rest })
  | [] =>
    if pool.nextNewId > 65535 then none
    else some (pool.nextNewId.toUInt16, { pool with nextNewId := pool.nextNewId + 1 })

def release (id : P2dId) : P2dIdPool := { pool with freeList := id :: pool.freeList }

end P2dIdPool

/-- The ids that were given out are held by one client each or free, and never both. -/
structure P2dIdPool.Accounts (pool : P2dIdPool) (holder : ClientId → Option P2dId) : Prop where
  distinct : ∀ client other id, holder client = some id → holder other = some id → client = other
  nodup : pool.freeList.Nodup
  held : ∀ client id, holder client = some id → id ∉ pool.freeList
  given : ∀ id : P2dId, id.toNat < pool.nextNewId.toNat ↔ id ∈ pool.freeList ∨ ∃ client, holder client = some id
  bound : pool.nextNewId.toNat ≤ 65536

section Pool

variable {pool next : P2dIdPool} {holder : ClientId → Option P2dId} {client : ClientId} {id : P2dId}

theorem update_eq_some {other : ClientId} {value : Option P2dId}
    (h : update holder client value other = some id) :
    other = client ∧ value = some id ∨ other ≠ client ∧ holder other = some id := by
  by_cases hother : other = client
  · rw [hother, update_self] at h
    exact .inl ⟨hother, h⟩
  · rw [update_of_ne hother] at h
    exact .inr ⟨hother, h⟩

/-- An id that nobody holds is given to a client. -/
theorem distinct_update (h : ∀ client other id, holder client = some id → holder other = some id → client = other)
    (hnew : ∀ other, holder other ≠ some id) (first second : ClientId) (which : P2dId)
    (hfirst : update holder client (some id) first = some which)
    (hsecond : update holder client (some id) second = some which) : first = second := by
  rcases update_eq_some hfirst with ⟨hone, hid⟩ | ⟨-, hfirst⟩
  · cases hid
    rcases update_eq_some hsecond with ⟨htwo, -⟩ | ⟨-, hsecond⟩
    · exact hone.trans htwo.symm
    · exact absurd hsecond (hnew second)
  · rcases update_eq_some hsecond with ⟨-, hid⟩ | ⟨-, hsecond⟩
    · cases hid
      exact absurd hfirst (hnew first)
    · exact h first second which hfirst hsecond

theorem toNat_succ (h : ¬pool.nextNewId > 65535) :
    pool.nextNewId.toNat < 65536 ∧ pool.nextNewId.toUInt16.toNat = pool.nextNewId.toNat ∧
      (pool.nextNewId + 1).toNat = pool.nextNewId.toNat + 1 := by
  have hlt : pool.nextNewId.toNat < 65536 := by
    have hle := UInt32.le_iff_toNat_le.1 (UInt32.not_lt.1 h)
    have hlimit : (65535 : UInt32).toNat = 65535 := rfl
    omega
  refine ⟨hlt, ?_, ?_⟩
  · rw [UInt32.toNat_toUInt16]
    exact Nat.mod_eq_of_lt hlt
  · rw [UInt32.toNat_add]
    have hone : (1 : UInt32).toNat = 1 := rfl
    omega

theorem P2dIdPool.Accounts.acquire (h : pool.Accounts holder) (hacquire : pool.acquire = some (id, next))
    (hclient : holder client = none) : next.Accounts (update holder client (some id)) := by
  -- The client held nothing, so all others keep what they hold.
  have hothers : ∀ other which, holder other = some which →
      update holder client (some id) other = some which := by
    intro other which hother
    refine (update_of_ne ?_ _ _).trans hother
    rintro rfl
    cases hclient.symm.trans hother
  rw [P2dIdPool.acquire] at hacquire
  split at hacquire
  · next rest hfree =>
      cases hacquire
      have hnodup := h.nodup
      have hheld := h.held
      have hgiven := h.given
      rw [hfree] at hnodup hheld hgiven
      obtain ⟨hnot, hrest⟩ := nodup_cons.1 hnodup
      refine ⟨distinct_update h.distinct fun other hother => hheld other id hother mem_cons_self, hrest,
        fun other which hother => ?_, fun which => (hgiven which).trans ?_, h.bound⟩
      · rcases update_eq_some hother with ⟨-, hid⟩ | ⟨-, hother⟩
        · cases hid
          exact hnot
        · exact fun hmem => hheld other which hother (mem_cons_of_mem _ hmem)
      · constructor
        · rintro (hmem | ⟨other, hother⟩)
          · rcases mem_cons.1 hmem with rfl | hmem
            · exact .inr ⟨client, update_self ..⟩
            · exact .inl hmem
          · exact .inr ⟨other, hothers other which hother⟩
        · rintro (hmem | ⟨other, hother⟩)
          · exact .inl (mem_cons_of_mem _ hmem)
          · rcases update_eq_some hother with ⟨-, hid⟩ | ⟨-, hother⟩
            · cases hid
              exact .inl mem_cons_self
            · exact .inr ⟨other, hother⟩
  · next hfree =>
      split at hacquire
      · cases hacquire
      · next hlimit =>
          cases hacquire
          obtain ⟨hlt, hid, hnext⟩ := toNat_succ hlimit
          have hnew : ∀ other, holder other ≠ some pool.nextNewId.toUInt16 := fun other hother =>
            Nat.lt_irrefl _ (hid ▸ (h.given _).2 (.inr ⟨other, hother⟩))
          refine ⟨distinct_update h.distinct hnew, h.nodup, fun other which _ hmem => ?_, fun which => ?_, ?_⟩
          · rw [hfree] at hmem
            cases hmem
          · show which.toNat < (pool.nextNewId + 1).toNat ↔ _
            have hgiven := h.given which
            rw [hnext]
            constructor
            · intro hwhich
              rcases Nat.lt_succ_iff_lt_or_eq.1 hwhich with hwhich | hwhich
              · exact (hgiven.1 hwhich).imp_right fun ⟨other, hother⟩ => ⟨other, hothers other which hother⟩
              · have hsame : which = pool.nextNewId.toUInt16 := UInt16.toNat_inj.1 (hwhich.trans hid.symm)
                exact .inr ⟨client, hsame ▸ update_self ..⟩
            · rintro (hmem | ⟨other, hother⟩)
              · exact Nat.lt_succ_of_lt (hgiven.2 (.inl hmem))
              · rcases update_eq_some hother with ⟨-, hsame⟩ | ⟨-, hother⟩
                · cases hsame
                  omega
                · exact Nat.lt_succ_of_lt (hgiven.2 (.inr ⟨other, hother⟩))
          · show (pool.nextNewId + 1).toNat ≤ 65536
            omega

theorem P2dIdPool.Accounts.release (h : pool.Accounts holder) (hclient : holder client = some id) :
    (pool.release id).Accounts (update holder client none) := by
  have hnot := h.held client id hclient
  refine ⟨fun first second which hfirst hsecond => ?_, nodup_cons.2 ⟨hnot, h.nodup⟩,
    fun other which hother hmem => ?_, fun which => (h.given which).trans ?_, h.bound⟩
  · rcases update_eq_some hfirst with ⟨-, hid⟩ | ⟨-, hfirst⟩
    · cases hid
    rcases update_eq_some hsecond with ⟨-, hid⟩ | ⟨-, hsecond⟩
    · cases hid
    exact h.distinct first second which hfirst hsecond
  · rcases update_eq_some hother with ⟨-, hid⟩ | ⟨hne, hother⟩
    · cases hid
    rcases mem_cons.1 hmem with rfl | hmem
    · exact hne (h.distinct other client which hother hclient)
    · exact h.held other which hother hmem
  · constructor
    · rintro (hmem | ⟨other, hother⟩)
      · exact .inl (mem_cons_of_mem _ hmem)
      · by_cases hne : other = client
        · rw [hne, hclient] at hother
          cases hother
          exact .inl mem_cons_self
        · exact .inr ⟨other, (update_of_ne hne _ _).trans hother⟩
    · rintro (hmem | ⟨other, hother⟩)
      · rcases mem_cons.1 hmem with rfl | hmem
        · exact .inr ⟨client, hclient⟩
        · exact .inl hmem
      · rcases update_eq_some hother with ⟨-, hid⟩ | ⟨-, hother⟩
        · cases hid
        · exact .inr ⟨other, hother⟩

/-- Nothing is left only if every id is held. -/
theorem P2dIdPool.Accounts.exhausted (h : pool.Accounts holder) (hacquire : pool.acquire = none) (id : P2dId) :
    ∃ client, holder client = some id := by
  rw [P2dIdPool.acquire] at hacquire
  split at hacquire
  · cases hacquire
  next hfree =>
  split at hacquire
  · next hlimit =>
      have hlt := UInt32.lt_iff_toNat_lt.1 hlimit
      have hvalue : (65535 : UInt32).toNat = 65535 := rfl
      have hid := id.toNat_lt
      rcases (h.given id).1 (by omega) with hmem | hheld
      · rw [hfree] at hmem
        cases hmem
      · exact hheld
  · cases hacquire

end Pool

/-! ## The relay -/

/-- The race server with the ids of its clients, and a record of all ids that the pool gave out. -/
structure Relay where
  handler : NetworkHandler
  p2dIds : ExtTreeMap ClientId P2dId := ∅
  pool : P2dIdPool := {}
  issued : List P2dId := []

abbrev Relaying := Effect Relay String

/-- `GetClientIdByCharacterUid`. -/
def NetworkHandler.getClientId (first : ClientId) (characterUid : Uid) (handler : NetworkHandler) :
    Except String ClientId :=
  match handler.findClientId first characterUid with
  | none => .error "Character not associated with any client"
  | some client => .ok client

namespace Relay

variable (relay : Relay)

def setHandler (handler : NetworkHandler) : Relay := { relay with handler := handler }

/-- The client holds an id that the pool gave out. -/
def issue (client : ClientId) (id : P2dId) (pool : P2dIdPool) : Relay :=
  { relay with
    p2dIds := relay.p2dIds.insert client id
    pool := pool
    issued := id :: relay.issued }

/-- If the client had an id, it goes back to the pool. -/
def returnP2dId (client : ClientId) : Relay :=
  match relay.p2dIds[client]? with
  | none => relay
  | some id => { relay with p2dIds := relay.p2dIds.erase client, pool := relay.pool.release id }

end Relay

def getOrCreateP2dId (client : ClientId) : Relaying P2dId := do
  let relay ← get
  match relay.p2dIds[client]? with
  | some id => return id
  | none =>
    match relay.pool.acquire with
    | none => throw "P2dId pool has been exhausted."
    | some (id, pool) => do
      set (relay.issue client id pool)
      return id

/-- A racer is described when the race starts; those who are disconnected are left out. -/
def buildRacer (first : ClientId) (characterUid : Uid) (racer : Racer) : Relaying Unit :=
  if racer.state = .disconnected then pure ()
  else do
    let _ ← ask (·.handler.getCharacter characterUid)
    let client ← ask (·.handler.getClientId first characterUid)
    let _ ← getOrCreateP2dId client

/-- The job that `HandleStartRace` queues for the end of the countdown, as far as it gives ids to clients.
The map of the clients is unordered, so a character may have its own `first` client. -/
def startCountedDown (roomUid : UInt32) (first : Uid → ClientId) : Relaying Unit := do
  match (← get).handler.raceInstances[roomUid]? with
  | none => pure ()
  | some race => race.racers.toList.forM fun entry => buildRacer (first entry.1) entry.1 entry.2

/-- `HandleClientDisconnected` with the id of the client, which goes back after the room is left. -/
def handleDisconnected (first : Uid) (client : ClientId) : Relaying Unit := do
  let context ← ask (·.handler.getClientContext client false)
  (leaveRace first client context).zoom (·.handler) fun handler relay => relay.setHandler handler
  modify (·.returnP2dId client)
  modify fun relay => relay.setHandler { relay.handler with clients := relay.handler.clients.erase client }

inductive RelayInput where
  | server (input : ServerInput)
  | startCountedDown (roomUid : UInt32) (first : Uid → ClientId)

namespace Relay

variable (identityHash : IdentityHash) (relay : Relay)

def disconnect (client : ClientId) (first : Uid) : Relay :=
  if client ∈ relay.handler.connected then
    let after := (handleDisconnected first client).final relay
    after.setHandler { after.handler with connected := relay.handler.connected.erase client }
  else relay

/-- Only a disconnect has to do with the ids. -/
def serve : ServerInput → Relay
  | .disconnect client first => relay.disconnect client first
  | input => relay.setHandler (Race.serve identityHash relay.handler input)

end Relay

def relayStep (identityHash : IdentityHash) (relay : Relay) : RelayInput → Relay
  | .server input => relay.serve identityHash input
  | .startCountedDown roomUid first => (startCountedDown roomUid first).final relay

/-! ## What is expected of it -/

/-- The connected clients that hold an id. -/
def Relay.holders (relay : Relay) : List ClientId :=
  relay.handler.connected.toList.filter fun client => client ∈ relay.p2dIds

/-- Connected clients have different ids, and every id is held by one of them or is free once, so that the
pool is exhausted only by 65536 clients. -/
structure Accounted (relay : Relay) : Prop where
  distinct : ∀ client ∈ relay.handler.connected, ∀ other ∈ relay.handler.connected, ∀ id,
    relay.p2dIds[client]? = some id → relay.p2dIds[other]? = some id → client = other
  issued : ∀ id ∈ relay.issued,
    (∃ client ∈ relay.handler.connected, relay.p2dIds[client]? = some id) ∧ id ∉ relay.pool.freeList ∨
      (∀ client ∈ relay.handler.connected, relay.p2dIds[client]? ≠ some id) ∧ relay.pool.freeList.count id = 1
  exhausted : relay.pool.acquire = none → 65536 ≤ relay.holders.length

/-- The client, if its room has a race, can leave it: its character is available, the room exists, and
the next master is found if it takes one. -/
def Departs (handler : NetworkHandler) (first : Uid) (context : ClientContext) : Prop :=
  context.isAuthenticated = true → context.roomUid ∈ handler.raceInstances → context.roomUid ≠ invalidUid →
    (∃ character, handler.getCharacter context.characterUid = .ok character) ∧
      ∃ room, handler.rooms[context.roomUid]? = some room ∧
        (room.details.masterUid = context.characterUid → ∀ candidateUid,
          (handler.removed context room).candidate first context.roomUid = some candidateUid →
            (handler.removed context room).Found candidateUid)

/-- The condition: a client with an id can leave its room when it disconnects, and no race is started with
the context of a client that is gone. -/
def GivesBack (relay : Relay) : RelayInput → Prop
  | .server (.disconnect client first) => client ∈ relay.handler.connected → client ∈ relay.p2dIds →
      ∃ context, relay.handler.clients[client]? = some context ∧ Departs relay.handler first context
  | .startCountedDown roomUid first => ∀ race, relay.handler.raceInstances[roomUid]? = some race →
      ∀ entry ∈ race.racers.toList, entry.2.state ≠ .disconnected → ∀ client,
        relay.handler.findClientId (first entry.1) entry.1 = some client → client ∈ relay.handler.connected
  | _ => True

/-! ## Disconnecting -/

section Disconnect

variable {handler : NetworkHandler} {client : ClientId} {context : ClientContext} {first : Uid}

theorem depart_completes {room : Room} (hroom : handler.rooms[context.roomUid]? = some room)
    (hfound : room.details.masterUid = context.characterUid → ∀ candidateUid,
      (handler.removed context room).candidate first context.roomUid = some candidateUid →
        (handler.removed context room).Found candidateUid) :
    (depart first client context).Completes handler := by
  have hsame : (handler.modifyRacer context (·.setState .disconnected)).rooms[context.roomUid]? = some room := by
    rw [rooms_modifyRacer]
    exact hroom
  have hremoved : (handler.removed context room).rooms[context.roomUid]? =
      some (room.removePlayer context.characterUid) := by
    rw [removed, rooms_setRoom, if_pos rfl]
  rw [depart, completes_bind_ok (modify_apply _ _), completes_bind_ok (ask_room hsame),
    completes_bind_ok (modify_apply _ _)]
  show (replaceMaster first context room >>= _).Completes (handler.removed context room)
  rcases replaceMaster_apply first room hremoved with
    hsucceeded | ⟨hmaster, candidateUid, hcandidate, hlost, -⟩
  · obtain ⟨current, hcurrent⟩ := rooms_succeeded first room hremoved
    rw [completes_bind_ok hsucceeded, completes_bind_ok (deleteRoomIfEmpty_apply hcurrent)]
    exact completes_iff.2 ⟨_, _, modify_apply _ _⟩
  · exact absurd (hfound hmaster candidateUid hcandidate) hlost

/-- Nothing stops a client that can leave. -/
theorem handleLeaveRoom_completes (hcontext : handler.clients[client]? = some context)
    (hauthenticated : context.isAuthenticated = true) (hrace : context.roomUid ∈ handler.raceInstances)
    (hdeparts : Departs handler first context) : (handleLeaveRoom first client).Completes handler := by
  rw [handleLeaveRoom, completes_bind_ok (ask_context (getClientContext_eq_ok.2 ⟨hcontext, fun _ => hauthenticated⟩))]
  split
  · exact completes_iff.2 ⟨_, _, rfl⟩
  · next hinRoom =>
      obtain ⟨⟨character, hcharacter⟩, room, hroom, hfound⟩ := hdeparts hauthenticated hrace hinRoom
      obtain ⟨race, hsome⟩ := Option.isSome_iff_exists.1 (ExtTreeMap.isSome_getElem?_iff_mem.2 hrace)
      obtain ⟨left, after, hdepart⟩ := completes_iff.1 (depart_completes hroom hfound)
      rw [completes_bind_ok (ask_race (getRaceInstance_eq_ok.2 ⟨hinRoom, hsome⟩)),
        completes_bind_ok (ask_character hcharacter), completes_bind_ok hdepart]
      exact completes_iff.2 ⟨_, _, rfl⟩

theorem leaveRace_completes (hcontext : handler.clients[client]? = some context)
    (hdeparts : Departs handler first context) : (leaveRace first client context).Completes handler := by
  rw [leaveRace, completes_bind_ok (get_apply _)]
  split
  · next hraces =>
      obtain ⟨left, after, hleave⟩ :=
        completes_iff.1 (handleLeaveRoom_completes hcontext hraces.1 hraces.2 hdeparts)
      rw [completes_bind_ok hleave]
      exact completes_iff.2 ⟨_, _, rfl⟩
  · exact completes_iff.2 ⟨_, _, rfl⟩

/-- What `HandleClientDisconnected` leaves: it stops where the room cannot be left. -/
inductive DisconnectedOutcome (first : Uid) (client : ClientId) (relay : Relay) : Relay → Prop where
  | unknown (h : relay.handler.clients[client]? = none) : DisconnectedOutcome first client relay relay
  | failed (context : ClientContext) (h : relay.handler.clients[client]? = some context)
      (hstuck : ¬(leaveRace first client context).Completes relay.handler) :
      DisconnectedOutcome first client relay
        (relay.setHandler ((leaveRace first client context).final relay.handler))
  | gone (context : ClientContext) (h : relay.handler.clients[client]? = some context) :
      DisconnectedOutcome first client relay
        ((relay.returnP2dId client).setHandler
          (((leaveRace first client context).final relay.handler).forgotten client))

theorem returnP2dId_handler (relay : Relay) (client : ClientId) :
    (relay.returnP2dId client).handler = relay.handler := by
  rw [Relay.returnP2dId]
  split
  · rfl
  · rfl

theorem returnP2dId_setHandler (relay : Relay) (client : ClientId) (handler next : NetworkHandler) :
    ((relay.setHandler handler).returnP2dId client).setHandler next =
      (relay.returnP2dId client).setHandler next := by
  rw [Relay.returnP2dId, Relay.returnP2dId]
  show (match relay.p2dIds[client]? with
    | none => relay.setHandler handler
    | some id => _ : Relay).setHandler next = _
  split
  · rfl
  · rfl

theorem handleDisconnected_outcome (first : Uid) (client : ClientId) (relay : Relay) :
    DisconnectedOutcome first client relay ((handleDisconnected first client).final relay) := by
  refine final_ask_bind (fun failure hfailure => ?_) fun context hcontext => ?_
  · refine .unknown ?_
    cases hclient : relay.handler.clients[client]? with
    | none => rfl
    | some context =>
      cases hfailure.symm.trans
        (getClientContext_eq_ok.2 ⟨hclient, fun h => absurd h Bool.false_ne_true⟩)
  · obtain ⟨hclient, -⟩ := getClientContext_eq_ok.1 hcontext
    rw [final_zoom_bind]
    cases hleave : leaveRace first client context relay.handler with
    | error failure after =>
      rw [← final_error hleave]
      refine .failed context hclient fun hcompletes => ?_
      obtain ⟨_, _, hok⟩ := completes_iff.1 hcompletes
      cases hleave.symm.trans hok
    | ok left after =>
      dsimp only
      rw [final_bind_ok (modify_apply _ _), final_modify, returnP2dId_handler, returnP2dId_setHandler]
      have hafter := (final_ok hleave).symm
      rw [hafter]
      exact .gone context hclient

end Disconnect

/-! ## Connections -/

section Connections

variable {identityHash : IdentityHash} {handler : NetworkHandler}

theorem connected_of_sameOr {after : NetworkHandler} {expected : NetworkHandler → Prop}
    (h : SameOr handler expected after)
    (hexpected : ∀ after, expected after → after.connected = handler.connected) :
    after.connected = handler.connected := by
  rcases h with h | h
  · rw [h]
  · exact hexpected after h

/-- No command connects or disconnects a client. -/
theorem connected_handle (client : ClientId) (command : Command) :
    (handle identityHash handler client command).connected = handler.connected := by
  cases command with
  | enterRoom lookups command =>
    have houtcome := handleEnterRoom_outcome identityHash lookups client command handler
    rw [handle]
    generalize (handleEnterRoom identityHash lookups client command).final handler = after at houtcome ⊢
    cases houtcome with
    | entered hright room hroom haccepts => exact (sameClients_opened command).connected
    | refused hrefused => rfl
    | nowhere hright hroom => rfl
    | turnedAway hright room hroom haccepts => rfl
    | offline hright room hroom haccepts => rfl
  | leaveRoom first => exact (handleLeaveRoom_seats first client handler).1
  | kick first firstClient characterUid =>
    refine connected_of_sameOr (handleKickUser_outcome first firstClient client characterUid handler) ?_
    rintro after ⟨_, _, _, targetClient, -, -, -, -, -, -, -, -, hafter⟩
    rw [hafter]
    exact (handleLeaveRoom_seats first targetClient handler).1
  | readyRace =>
    refine connected_of_sameOr (handleReadyRace_outcome client handler) ?_
    rintro after ⟨_, _, _, -, -, -, hafter⟩
    rw [hafter]
    rfl
  | changeTeam command =>
    refine connected_of_sameOr (handleChangeTeam_outcome client command handler) ?_
    rintro after ⟨_, _, _, -, -, -, hafter⟩
    rw [hafter]
    rfl
  | changeRoomOptions command =>
    refine connected_of_sameOr (handleChangeRoomOptions_outcome client command handler) ?_
    rintro after ⟨_, _, -, -, hafter⟩
    rw [hafter]
    rfl
  | startRace lookups =>
    have houtcome := handleStartRace_outcome lookups client handler
    rw [handle]
    generalize (handleStartRace lookups client).final handler = after at houtcome ⊢
    cases houtcome with
    | refused => rfl
    | cancelled context race room hstarts hprepared => exact (sameClients_startRace _ _ _).connected
    | started context race room hstarts hprepared =>
      exact (sameClients_modifyRace _ _).connected.trans (sameClients_startRace _ _ _).connected
  | loadingComplete =>
    refine connected_of_sameOr (handleLoadingComplete_outcome client handler) ?_
    rintro after ⟨_, _, _, -, hafter⟩
    rw [hafter]
    exact (sameClients_modifyRacer _).connected
  | userRaceFinal command =>
    refine connected_of_sameOr (handleUserRaceFinal_outcome client command handler) ?_
    rintro after ⟨_, _, _, -, hafter⟩
    rw [hafter]
    exact (sameClients_modifyRacer _).connected

/-- Only a disconnect disconnects. -/
theorem mem_connected_serve {input : ServerInput} (hinput : ∀ client first, input ≠ .disconnect client first)
    {client : ClientId} (h : client ∈ handler.connected) :
    client ∈ (serve identityHash handler input).connected := by
  cases input with
  | connect other => exact mem_insert_iff.2 (.inl h)
  | disconnect other first => exact absurd rfl (hinput other first)
  | command other command =>
    rw [serve]
    split
    · rw [connected_handle]
      exact h
    · exact h
  | tick roomUid now =>
    rw [serve, (sameClients_play roomUid _).connected]
    exact h
  | createRoom details characterUid => exact h
  | queuePlayer roomUid characterUid =>
    rw [serve, (sameClients_modifyRoom roomUid _).connected]
    exact h
  | dequeuePlayer roomUid characterUid =>
    rw [serve, (sameClients_modifyRoom roomUid _).connected]
    exact h
  | grantCode characterUid roomUid now code => exact h
  | outside records => exact h

end Connections

/-! ## The ledger -/

/-- The clients that hold ids are connected, and the pool accounts for all that it gave out. -/
structure Ledger (relay : Relay) : Prop where
  accounts : relay.pool.Accounts fun client => relay.p2dIds[client]?
  connected : ∀ client id, relay.p2dIds[client]? = some id → client ∈ relay.handler.connected
  issued : ∀ id ∈ relay.issued, id.toNat < relay.pool.nextNewId.toNat

section Steps

variable {identityHash : IdentityHash} {relay : Relay}

/-- More clients may be connected. -/
theorem Ledger.setHandler (h : Ledger relay) {handler : NetworkHandler}
    (hconnected : ∀ client id, relay.p2dIds[client]? = some id → client ∈ handler.connected) :
    Ledger (relay.setHandler handler) :=
  ⟨h.accounts, hconnected, h.issued⟩

theorem insert_eq_update (p2dIds : ExtTreeMap ClientId P2dId) (client : ClientId) (id : P2dId) :
    (fun other => (p2dIds.insert client id)[other]?) =
      update (fun other => p2dIds[other]?) client (some id) := by
  funext other
  rw [getElem?_insert_self_or_ne, update_apply]

theorem erase_eq_update (p2dIds : ExtTreeMap ClientId P2dId) (client : ClientId) :
    (fun other => (p2dIds.erase client)[other]?) = update (fun other => p2dIds[other]?) client none := by
  funext other
  rw [getElem?_erase_self_or_ne, update_apply]

/-- The pool never takes back what it gave out. -/
theorem nextNewId_acquire {pool next : P2dIdPool} {holder : ClientId → Option P2dId} {id : P2dId}
    (h : pool.Accounts holder) (hacquire : pool.acquire = some (id, next)) :
    id.toNat < next.nextNewId.toNat ∧ pool.nextNewId.toNat ≤ next.nextNewId.toNat := by
  rw [P2dIdPool.acquire] at hacquire
  split at hacquire
  · next hfree =>
      cases hacquire
      exact ⟨(h.given id).2 (.inl (hfree ▸ mem_cons_self)), Nat.le_refl _⟩
  · split at hacquire
    · cases hacquire
    · next hlimit =>
        cases hacquire
        obtain ⟨-, hid, hnext⟩ := toNat_succ hlimit
        show pool.nextNewId.toUInt16.toNat < (pool.nextNewId + 1).toNat ∧ _ ≤ (pool.nextNewId + 1).toNat
        omega

theorem Ledger.issue (h : Ledger relay) {client : ClientId} {id : P2dId} {next : P2dIdPool}
    (hconnected : client ∈ relay.handler.connected) (hclient : relay.p2dIds[client]? = none)
    (hacquire : relay.pool.acquire = some (id, next)) : Ledger (relay.issue client id next) := by
  obtain ⟨hid, hnext⟩ := nextNewId_acquire h.accounts hacquire
  refine ⟨?_, fun other which hother => ?_, fun which hwhich => ?_⟩
  · show next.Accounts fun other => (relay.p2dIds.insert client id)[other]?
    rw [insert_eq_update]
    exact h.accounts.acquire hacquire hclient
  · rcases update_eq_some ((congrFun (insert_eq_update relay.p2dIds client id) other).symm.trans hother) with
      ⟨hsame, -⟩ | ⟨-, hother⟩
    · exact hsame ▸ hconnected
    · exact h.connected other which hother
  · rcases mem_cons.1 hwhich with rfl | hwhich
    · exact hid
    · exact Nat.lt_of_lt_of_le (h.issued which hwhich) hnext

/-- The client holds nothing any more. -/
theorem getElem?_returnP2dId {client other : ClientId} {id : P2dId}
    (h : (relay.returnP2dId client).p2dIds[other]? = some id) : other ≠ client ∧ relay.p2dIds[other]? = some id := by
  rw [Relay.returnP2dId] at h
  split at h
  · next hnone =>
      refine ⟨?_, h⟩
      rintro rfl
      cases hnone.symm.trans h
  · rcases update_eq_some ((congrFun (erase_eq_update relay.p2dIds client) other).symm.trans h) with
      ⟨-, hid⟩ | hother
    · cases hid
    · exact hother

theorem Ledger.returnP2dId (h : Ledger relay) (client : ClientId) : Ledger (relay.returnP2dId client) := by
  have hconnected : ∀ other id, (relay.returnP2dId client).p2dIds[other]? = some id →
      other ∈ (relay.returnP2dId client).handler.connected := by
    intro other id hother
    rw [returnP2dId_handler]
    exact h.connected other id (getElem?_returnP2dId hother).2
  cases hclient : relay.p2dIds[client]? with
  | none =>
    rw [Relay.returnP2dId, hclient]
    exact h
  | some id =>
    rw [Relay.returnP2dId, hclient] at hconnected ⊢
    refine ⟨?_, hconnected, h.issued⟩
    show (relay.pool.release id).Accounts fun other => (relay.p2dIds.erase client)[other]?
    rw [erase_eq_update]
    exact h.accounts.release hclient

theorem ledger_disconnect (h : Ledger relay) (client : ClientId) (first : Uid)
    (hgives : GivesBack relay (.server (.disconnect client first))) : Ledger (relay.disconnect client first) := by
  rw [Relay.disconnect]
  split
  swap
  · exact h
  next hconnected =>
  have houtcome := handleDisconnected_outcome first client relay
  dsimp only
  generalize (handleDisconnected first client).final relay = after at houtcome ⊢
  -- A client without an id may keep its context.
  have hkept : ∀ {handler : NetworkHandler}, client ∉ relay.p2dIds →
      Ledger ((relay.setHandler handler).setHandler
        { handler with connected := relay.handler.connected.erase client }) := by
    intro handler hnone
    refine ⟨h.accounts, fun other id hother => ?_, h.issued⟩
    refine mem_erase_iff.2 ⟨h.connected other id hother, ?_⟩
    rintro rfl
    exact hnone (ExtTreeMap.isSome_getElem?_iff_mem.1 (Option.isSome_iff_exists.2 ⟨id, hother⟩))
  cases houtcome with
  | unknown hunknown =>
    refine @hkept relay.handler fun hholds => ?_
    obtain ⟨context, hcontext, -⟩ := hgives hconnected hholds
    cases hunknown.symm.trans hcontext
  | failed context hcontext hstuck =>
    refine hkept fun hholds => ?_
    obtain ⟨other, hother, hdeparts⟩ := hgives hconnected hholds
    cases hcontext.symm.trans hother
    exact hstuck (leaveRace_completes hcontext hdeparts)
  | gone context hcontext =>
    have hreturned := h.returnP2dId client
    refine ⟨hreturned.accounts, fun other id hother => ?_, hreturned.issued⟩
    obtain ⟨hne, hheld⟩ := getElem?_returnP2dId hother
    exact mem_erase_iff.2 ⟨h.connected other id hheld, hne⟩

/-- One racer gets an id at most, and the race server is as it was. -/
theorem ledger_buildRacer (h : Ledger relay) {first : ClientId} {characterUid : Uid} {racer : Racer}
    (hin : racer.state ≠ .disconnected → ∀ client,
      relay.handler.findClientId first characterUid = some client → client ∈ relay.handler.connected) :
    Ledger ((buildRacer first characterUid racer).final relay) ∧
      ((buildRacer first characterUid racer).final relay).handler = relay.handler := by
  rw [buildRacer]
  split
  · exact ⟨h, rfl⟩
  next hstate =>
  refine @final_ask_bind _ _ _ _ (fun after => Ledger after ∧ after.handler = relay.handler) _ _ _
    (fun _ _ => ⟨h, rfl⟩) fun _ _ => ?_
  refine @final_ask_bind _ _ _ _ (fun after => Ledger after ∧ after.handler = relay.handler) _ _ _
    (fun _ _ => ⟨h, rfl⟩) fun client hclient => ?_
  have hconnected : client ∈ relay.handler.connected := by
    refine hin hstate client ?_
    rw [NetworkHandler.getClientId] at hclient
    split at hclient
    · cases hclient
    · next hfound =>
        cases hclient
        exact hfound
  rw [final_bind_pure, getOrCreateP2dId, final_bind_ok (get_apply _)]
  cases hid : relay.p2dIds[client]? with
  | some id => exact ⟨h, rfl⟩
  | none =>
    dsimp only
    cases hacquire : relay.pool.acquire with
    | none => exact ⟨h, rfl⟩
    | some ticket => exact ⟨h.issue hconnected hid hacquire, rfl⟩

theorem ledger_startCountedDown (h : Ledger relay) (roomUid : UInt32) (first : Uid → ClientId)
    (hgives : GivesBack relay (.startCountedDown roomUid first)) :
    Ledger ((startCountedDown roomUid first).final relay) := by
  rw [startCountedDown, final_bind_ok (get_apply _)]
  cases hrace : relay.handler.raceInstances[roomUid]? with
  | none => exact h
  | some race =>
    have hin := hgives race hrace
    dsimp only
    clear hgives hrace
    generalize race.racers.toList = entries at hin ⊢
    induction entries generalizing relay with
    | nil => exact h
    | cons entry rest ih =>
      obtain ⟨hnext, hsame⟩ := ledger_buildRacer h (hin entry mem_cons_self)
      have hcons : ((entry :: rest).forM fun entry => buildRacer (first entry.1) entry.1 entry.2 : Relaying _) =
        (buildRacer (first entry.1) entry.1 entry.2 >>= fun _ =>
          rest.forM fun entry => buildRacer (first entry.1) entry.1 entry.2) := rfl
      rw [hcons]
      cases hbuilt : buildRacer (first entry.1) entry.1 entry.2 relay with
      | error failure after =>
        rw [final_error hbuilt] at hnext
        rw [final_bind_error hbuilt]
        exact hnext
      | ok built after =>
        rw [final_ok hbuilt] at hnext hsame
        rw [final_bind_ok hbuilt]
        refine ih hnext ?_
        rw [hsame]
        exact fun other hother => hin other (mem_cons_of_mem _ hother)

theorem ledger_step (relay : Relay) (input : RelayInput) (h : Ledger relay) (hgives : GivesBack relay input) :
    Ledger (relayStep identityHash relay input) := by
  have hserve : ∀ input : ServerInput, (∀ client first, input ≠ .disconnect client first) →
      Ledger (relay.setHandler (serve identityHash relay.handler input)) := fun input hinput =>
    h.setHandler fun client id hclient => mem_connected_serve hinput (h.connected client id hclient)
  cases input with
  | startCountedDown roomUid first => exact ledger_startCountedDown h roomUid first hgives
  | server input =>
    cases input with
    | disconnect client first => exact ledger_disconnect h client first hgives
    | connect client => exact hserve _ fun _ _ => ServerInput.noConfusion
    | command client command => exact hserve _ fun _ _ => ServerInput.noConfusion
    | tick roomUid now => exact hserve _ fun _ _ => ServerInput.noConfusion
    | createRoom details characterUid => exact hserve _ fun _ _ => ServerInput.noConfusion
    | queuePlayer roomUid characterUid => exact hserve _ fun _ _ => ServerInput.noConfusion
    | dequeuePlayer roomUid characterUid => exact hserve _ fun _ _ => ServerInput.noConfusion
    | grantCode characterUid roomUid now code => exact hserve _ fun _ _ => ServerInput.noConfusion
    | outside records => exact hserve _ fun _ _ => ServerInput.noConfusion

theorem handleDisconnected_handler (first : Uid) (client : ClientId) (relay : Relay) :
    ((handleDisconnected first client).final relay).handler =
      (handleClientDisconnected first client).final relay.handler := by
  rw [handleDisconnected, handleClientDisconnected]
  cases hcontext : relay.handler.getClientContext client false with
  | error failure =>
    have hrelay : ask (fun relay : Relay => relay.handler.getClientContext client false) relay =
      .error failure relay := ask_error hcontext
    have hhandler : ask (fun handler : NetworkHandler => handler.getClientContext client false) relay.handler =
      .error failure relay.handler := ask_error hcontext
    rw [final_bind_error hrelay, final_bind_error hhandler]
  | ok context =>
    have hrelay : ask (fun relay : Relay => relay.handler.getClientContext client false) relay =
      .ok context relay := ask_ok hcontext
    rw [final_bind_ok hrelay, final_bind_ok (ask_context hcontext), final_zoom_bind]
    cases hleave : leaveRace first client context relay.handler with
    | error failure after =>
      rw [final_bind_error hleave]
      rfl
    | ok left after =>
      dsimp only
      rw [final_bind_ok hleave, final_bind_ok (modify_apply _ _), final_modify, returnP2dId_handler]
      rfl

/-- The race server is as it is without the ids. -/
theorem handler_serve (relay : Relay) (input : ServerInput) :
    (relay.serve identityHash input).handler = serve identityHash relay.handler input := by
  cases input with
  | disconnect client first =>
    show (relay.disconnect client first).handler = _
    rw [Relay.disconnect, serve]
    split
    · rw [← handleDisconnected_handler]
      rfl
    · rfl
  | connect client => rfl
  | command client command => rfl
  | tick roomUid now => rfl
  | createRoom details characterUid => rfl
  | queuePlayer roomUid characterUid => rfl
  | dequeuePlayer roomUid characterUid => rfl
  | grantCode characterUid roomUid now code => rfl
  | outside records => rfl

def SameHandler (before after : Relay) : Prop := after.handler = before.handler

instance : Std.Refl SameHandler := ⟨fun _ => rfl⟩

instance : IsTrans Relay SameHandler := ⟨fun _ _ _ h h' => h'.trans h⟩

theorem keeps_getOrCreateP2dId (client : ClientId) : Keeps SameHandler (getOrCreateP2dId client) := by
  intro relay
  rw [getOrCreateP2dId, final_bind_ok (get_apply _)]
  split
  · rfl
  split
  · rfl
  · rfl

theorem keeps_startCountedDown (roomUid : UInt32) (first : Uid → ClientId) :
    Keeps SameHandler (startCountedDown roomUid first) := by
  refine .bind .get fun relay => ?_
  split
  · exact .pure _
  refine .forM (fun entry => ?_) _
  rw [buildRacer]
  split
  · exact .pure _
  · exact .bind (.of_final (final_ask _)) fun _ => .bind (.of_final (final_ask _)) fun client =>
      .bind (keeps_getOrCreateP2dId client) fun _ => .pure _

def RelayInput.server? : RelayInput → Option ServerInput
  | .server input => some input
  | .startCountedDown .. => none

end Steps

/-! ## Runs -/

section Runs

variable {relay : Relay}

/-- There are as many ids as numbers of sixteen bits. -/
theorem length_of_all {ids : List P2dId} (h : ∀ id, id ∈ ids) : 65536 ≤ ids.length := by
  have hnodup : ((List.range 65536).map UInt16.ofNat).Nodup := by
    refine List.Nodup.map_on ?_ nodup_range
    intro first hfirst second hsecond hsame
    have hnat := congrArg UInt16.toNat hsame
    rw [UInt16.toNat_ofNat_of_lt' (mem_range.1 hfirst),
      UInt16.toNat_ofNat_of_lt' (mem_range.1 hsecond)] at hnat
    exact hnat
  have hle := (hnodup.subperm fun id _ => h id).length_le
  rw [length_map, length_range] at hle
  exact hle

theorem exhausted_holders (h : Ledger relay) (hacquire : relay.pool.acquire = none) :
    65536 ≤ relay.holders.length := by
  have hall : ∀ id, id ∈ relay.holders.filterMap fun client => relay.p2dIds[client]? := by
    intro id
    obtain ⟨client, hclient⟩ := h.accounts.exhausted hacquire id
    have hmem : client ∈ relay.p2dIds :=
      ExtTreeMap.isSome_getElem?_iff_mem.1 (Option.isSome_iff_exists.2 ⟨id, hclient⟩)
    refine mem_filterMap.2 ⟨client, mem_filter.2 ⟨?_, decide_eq_true hmem⟩, hclient⟩
    exact ExtTreeSet.mem_toList.2 (h.connected client id hclient)
  exact Nat.le_trans (length_of_all hall) (length_filterMap_le _ _)

theorem accounted_of_ledger (h : Ledger relay) : Accounted relay where
  distinct client _ other _ id hclient hother := h.accounts.distinct client other id hclient hother
  issued id hissued := by
    rcases (h.accounts.given id).1 (h.issued id hissued) with hfree | ⟨client, hclient⟩
    · refine .inr ⟨fun client _ hclient => h.accounts.held client id hclient hfree, ?_⟩
      exact count_eq_one_of_mem h.accounts.nodup hfree
    · exact .inl ⟨⟨client, h.connected client id hclient, hclient⟩, h.accounts.held client id hclient⟩
  exhausted := exhausted_holders h

theorem ledger_start (handler : NetworkHandler) : Ledger { handler := handler } where
  accounts := by
    refine ⟨fun client _ id hclient => ?_, nodup_nil, fun client id hclient => ?_, fun id => ?_, Nat.zero_le _⟩
    · cases (ExtTreeMap.getElem?_empty (a := client)).symm.trans hclient
    · cases (ExtTreeMap.getElem?_empty (a := client)).symm.trans hclient
    · constructor
      · exact fun hlt => absurd hlt (Nat.not_lt_zero _)
      · rintro (hmem | ⟨client, hclient⟩)
        · cases hmem
        · cases (ExtTreeMap.getElem?_empty (a := client)).symm.trans hclient
  connected client id hclient := by
    cases (ExtTreeMap.getElem?_empty (a := client)).symm.trans hclient
  issued id hmem := by cases hmem

/-- If every client with an id can leave its room when it disconnects, all ids are accounted for in every
state of the run. -/
theorem p2dIds_accounted (identityHash : IdentityHash) (handler : NetworkHandler) (inputs : List RelayInput)
    (h : Guarded (relayStep identityHash) GivesBack { handler := handler } inputs) :
    ∀ first second, inputs = first ++ second →
      Accounted (run (relayStep identityHash) { handler := handler } first) := by
  rintro first second rfl
  exact accounted_of_ledger ((guarded_append.1 h).1.invariant ledger_step (ledger_start handler))

/-- The race of a room with one racer. -/
def racing : NetworkHandler where
  characters := (∅ : ExtTreeMap Uid Character).insert 1 {}
  connected := (∅ : ExtTreeSet ClientId).insert 5
  clients := (∅ : ExtTreeMap ClientId ClientContext).insert 5 ⟨1, 1, true⟩
  rooms := (∅ : ExtTreeMap UInt32 Room).insert 1 { uid := 1 }
  raceInstances := (∅ : ExtTreeMap UInt32 RaceInstance).insert 1
    { racers := (∅ : ExtTreeMap Uid Racer).insert 1 { state := .loading } }

theorem racing_givesBack : GivesBack { handler := racing } (.startCountedDown 1 fun _ => 5) := by
  intro race hrace entry hentry _ client hclient
  have hfound : racing.raceInstances[(1 : UInt32)]? =
      some { racers := (∅ : ExtTreeMap Uid Racer).insert 1 { state := .loading } } := by decide +kernel
  cases hfound.symm.trans hrace
  have hentries : ((∅ : ExtTreeMap Uid Racer).insert 1 { state := .loading }).toList =
      [(1, { state := .loading })] := by decide +kernel
  rw [hentries] at hentry
  cases mem_singleton.1 hentry
  have hfive : racing.findClientId 5 1 = some 5 := by decide +kernel
  cases hfive.symm.trans hclient
  decide +kernel

/-- The racer gets an id, leaves the room and disconnects. -/
theorem p2dIds_accounted_racing : Accounted (run (relayStep fun _ _ => 0) { handler := racing }
    [.startCountedDown 1 fun _ => 5, .server (.command 5 (.leaveRoom 0)), .server (.disconnect 5 0)]) := by
  refine p2dIds_accounted (fun _ _ => 0) racing [.startCountedDown 1 fun _ => 5,
    .server (.command 5 (.leaveRoom 0)), .server (.disconnect 5 0)]
    ⟨racing_givesBack, trivial, fun _ _ => ?_, trivial⟩ _ [] (List.append_nil _).symm
  exact ⟨⟨1, 0, true⟩, by decide +kernel, fun _ _ hinRoom => absurd rfl hinRoom⟩

/-- The record of the character is not available when the client disconnects. -/
theorem p2dId_lost : ¬∀ first second, [RelayInput.startCountedDown 1 fun _ => 5, .server (.outside {}),
    .server (.disconnect 5 0)] = first ++ second →
      Accounted (run (relayStep fun _ _ => 0) { handler := racing } first) := by
  intro h
  have haccounted := h _ [] (List.append_nil _).symm
  generalize hrelay : run (relayStep fun _ _ => 0) { handler := racing } _ = relay at haccounted
  have hissued : relay.issued = [0] := by
    rw [← hrelay]
    decide +kernel
  have hconnected : relay.handler.connected.toList = [] := by
    rw [← hrelay]
    decide +kernel
  have hfree : relay.pool.freeList = [] := by
    rw [← hrelay]
    decide +kernel
  rcases haccounted.issued 0 (hissued ▸ List.mem_cons_self) with ⟨⟨client, hclient, -⟩, -⟩ | ⟨-, hcount⟩
  · have hmem := ExtTreeSet.mem_toList.2 hclient
    rw [hconnected] at hmem
    cases hmem
  · rw [hfree] at hcount
    cases hcount

end Runs

end Alicia.Race
