import Mathlib.Logic.Function.Basic
import Alicia.Collection.SlidingWindow
import Alicia.Transition.Run

/-!
# The accounting of connections

`Server` accepts connections, throttles them by address and forgets them when their clients end.  A
connect handler or a disconnect handler may end clients itself, so what is around the call of a handler
is two steps, and any number of handlers may be executing.
-/

namespace Alicia.Network

open Transition SlidingWindow Function List

/-! ## The model -/

/-- An `address_v4`. -/
abbrev Address := UInt32

abbrev ClientId := Nat

def maxConnectionsPerAddress : Nat := 10
def maxConnectRatePerAddress : Nat := 10

/-- `RateWindow`, in nanoseconds. -/
def rateWindow : Nat := 30 * 1000000000

structure AddressState where
  activeConnections : Nat := 0
  connectionTimestamps : List Nat := []

/-- A client in `Server::_clients`. -/
structure Connection where
  clientId : ClientId
  address : Address
  shouldRun : Bool
  deriving DecidableEq

/-- A server.  An address without a state has the default one, so the erasure of a default state is
not seen.  `given` and `ended` are history variables: the connections that were not throttled, and the
clients whose `End` was called. -/
structure Server where
  clients : List Connection := []
  addressStates : Address → AddressState := fun _ => {}
  nextClientId : ClientId := 0
  /-- Accepts that wait for a connection. -/
  pendingAccepts : Nat := 1
  /-- Accept callbacks inside a connect handler. -/
  connecting : Nat := 0
  /-- Clients inside their disconnect handler, and whether `End` was called from a `noexcept` function
  that does not catch. -/
  disconnecting : List (ClientId × Bool) := []
  /-- An exception has left a `noexcept` function. -/
  terminated : Bool := false
  /-- The steady clock. -/
  clock : Nat := 0
  given : List (Address × Nat) := []
  ended : List ClientId := []

/-- What an accept completes with: an error, a socket whose remote endpoint is gone, or a socket with a
remote endpoint.  `present` tells that the endpoint is still there when the client is constructed,
`closeThrows` that a socket which is rejected cannot be closed. -/
inductive Accepted
  | error
  | gone
  | socket (address : Address) (present closeThrows : Bool)
  deriving DecidableEq

inductive ServerStep
  /-- An accept completes. -/
  | accept (elapsed : Nat) (accepted : Accepted)
  /-- A connect handler returns or throws. -/
  | connected (threw : Bool)
  /-- `End` of a client is called. -/
  | endClient (clientId : ClientId) (inNoexcept : Bool)
  /-- A disconnect handler returns or throws. -/
  | disconnected (clientId : ClientId) (threw : Bool)
  deriving DecidableEq

/-- `IsConnectionThrottled`. -/
def isConnectionThrottled (state : AddressState) (now : Nat) : Bool × AddressState :=
  if state.activeConnections ≥ maxConnectionsPerAddress then (true, state)
  else
    let timestamps := expire rateWindow now state.connectionTimestamps
    if timestamps.length ≥ maxConnectRatePerAddress then
      (true, { state with connectionTimestamps := timestamps })
    else
      (false,
        { activeConnections := state.activeConnections + 1
          connectionTimestamps := timestamps ++ [now] })

/-- `OnThrottleDisconnect`. -/
def onThrottleDisconnect (state : AddressState) : AddressState :=
  { state with activeConnections := state.activeConnections - 1 }

namespace Server

def acceptLoop (server : Server) : Server :=
  { server with pendingAccepts := server.pendingAccepts + 1 }

/-- The completion handler of an accept, up to the connect handler.  An exception ends it without
another accept. -/
def accept (server : Server) (elapsed : Nat) (accepted : Accepted) : Server :=
  if server.pendingAccepts = 0 then server
  else
    let now := server.clock + elapsed
    let server := { server with pendingAccepts := server.pendingAccepts - 1, clock := now }
    match accepted with
    | .error => server
    | .gone => server.acceptLoop
    | .socket address present closeThrows =>
      match isConnectionThrottled (server.addressStates address) now with
      | (true, state) =>
        let server :=
          { server with addressStates := update server.addressStates address state }
        if closeThrows then server else server.acceptLoop
      | (false, state) =>
        let clientId := server.nextClientId
        let server :=
          { server with
            addressStates := update server.addressStates address state
            given := server.given ++ [(address, now)]
            nextClientId := clientId + 1 }
        -- The constructor of the client reads the endpoint again, and is `noexcept`.
        if present then
          { server with
            clients := server.clients ++ [⟨clientId, address, true⟩]
            connecting := server.connecting + 1 }
        else { server with terminated := true }

/-- The rest of the accept callback. -/
def connected (server : Server) (threw : Bool) : Server :=
  if server.connecting = 0 then server
  else
    let server := { server with connecting := server.connecting - 1 }
    if threw then server else server.acceptLoop

/-- Clear the running flag of a client. -/
def stopClient (clientId : ClientId) (connection : Connection) : Connection :=
  if connection.clientId = clientId then { connection with shouldRun := false } else connection

/-- `Client::End`, up to the disconnect handler. -/
def endClient (server : Server) (clientId : ClientId) (inNoexcept : Bool) : Server :=
  match server.clients.find? fun connection => connection.clientId = clientId with
  | none => server
  | some connection =>
    if connection.shouldRun then
      { server with
        clients := server.clients.map (stopClient clientId)
        addressStates := update server.addressStates connection.address
          (onThrottleDisconnect (server.addressStates connection.address))
        disconnecting := server.disconnecting ++ [(clientId, inNoexcept)]
        ended := server.ended ++ [clientId] }
    else server

/-- The rest of `OnClientDisconnected` and of `End`. -/
def disconnected (server : Server) (clientId : ClientId) (threw : Bool) : Server :=
  match server.disconnecting.lookup clientId with
  | none => server
  | some inNoexcept =>
    let server :=
      { server with disconnecting := server.disconnecting.filter fun entry => entry.1 ≠ clientId }
    if threw then { server with terminated := server.terminated || inNoexcept }
    else
      { server with
        clients := server.clients.filter fun connection => connection.clientId ≠ clientId }

def step (server : Server) : ServerStep → Server
  | .accept elapsed accepted => server.accept elapsed accepted
  | .connected threw => server.connected threw
  | .endClient clientId inNoexcept => server.endClient clientId inNoexcept
  | .disconnected clientId threw => server.disconnected clientId threw

/-! ## What the accounting is for -/

/-- The disconnect handler of a client is executing. -/
def Disconnecting (server : Server) (clientId : ClientId) : Prop :=
  clientId ∈ server.disconnecting.map Prod.fst

instance (server : Server) (clientId : ClientId) : Decidable (server.Disconnecting clientId) :=
  inferInstanceAs (Decidable (clientId ∈ server.disconnecting.map Prod.fst))

/-- When an address was given connections. -/
def givenTo (server : Server) (address : Address) : List Nat :=
  (server.given.filter fun entry => entry.1 = address).map Prod.snd

/-- The law of the accounting, in any state.  While no handler is executing, all clients count, no
client whose `End` was called is left, and one accept is pending. -/
structure Accounted (server : Server) : Prop where
  active : ∀ address, (server.addressStates address).activeConnections =
    server.clients.countP fun connection =>
      connection.address = address ∧ ¬server.Disconnecting connection.clientId
  limit : ∀ address, (server.addressStates address).activeConnections ≤ maxConnectionsPerAddress
  rate : ∀ address start,
    within rateWindow start (server.givenTo address) ≤ maxConnectRatePerAddress
  ended : ∀ clientId ∈ server.ended, clientId ∈ server.clients.map Connection.clientId →
    server.Disconnecting clientId
  terminated : server.terminated = false
  accepting : server.pendingAccepts + server.connecting = 1

/-- The condition on a step: no accept fails, no rejected socket fails to close, the endpoint of an
accepted socket stays until the client is constructed, and no handler throws. -/
def Sound (server : Server) : ServerStep → Prop
  | .accept elapsed accepted => server.pendingAccepts ≠ 0 →
      match accepted with
      | .error => False
      | .gone => True
      | .socket address present closeThrows =>
        if (isConnectionThrottled (server.addressStates address) (server.clock + elapsed)).1 then
          closeThrows = false
        else present = true
  | .connected threw => server.connecting ≠ 0 → threw = false
  | .endClient _ _ => True
  | .disconnected clientId threw => server.Disconnecting clientId → threw = false

/-! ## The throttle -/

variable {state after : AddressState}

/-- A connection that is throttled changes no count, and the log only by what has expired. -/
theorem throttled_spec {clock now : Nat} {given : List Nat}
    (hlogs : Logs rateWindow clock given state.connectionTimestamps) (hnow : clock ≤ now)
    (h : isConnectionThrottled state now = (true, after)) :
    after.activeConnections = state.activeConnections ∧
      Logs rateWindow now given after.connectionTimestamps := by
  rw [isConnectionThrottled] at h
  split at h
  · cases h
    exact ⟨rfl, hlogs.mono hnow⟩
  · dsimp only at h
    split at h
    · cases h
      exact ⟨rfl, hlogs.expire hnow⟩
    · cases h

theorem admitted_spec {now : Nat} (h : isConnectionThrottled state now = (false, after)) :
    state.activeConnections < maxConnectionsPerAddress ∧
      (expire rateWindow now state.connectionTimestamps).length < maxConnectRatePerAddress ∧
      after = ⟨state.activeConnections + 1, expire rateWindow now state.connectionTimestamps ++ [now]⟩ := by
  rw [isConnectionThrottled] at h
  split at h
  · cases h
  · next hactive =>
      dsimp only at h
      split at h
      · cases h
      · next hrate =>
          cases h
          exact ⟨Nat.not_le.1 hactive, Nat.not_le.1 hrate, rfl⟩

/-! ## One step -/

/-- The invariant: the law, and what ties the running flags, the executing handlers and the logs of the
throttle to the clients. -/
structure Consistent (server : Server) : Prop extends server.Accounted where
  nodup : (server.clients.map Connection.clientId).Nodup
  fresh : ∀ connection ∈ server.clients, connection.clientId < server.nextClientId
  running : ∀ connection ∈ server.clients,
    connection.shouldRun = true ↔ ¬server.Disconnecting connection.clientId
  present : ∀ clientId, server.Disconnecting clientId →
    clientId ∈ server.clients.map Connection.clientId ∧ clientId ∈ server.ended
  past : ∀ clientId ∈ server.ended, clientId < server.nextClientId
  logs : ∀ address, Logs rateWindow server.clock (server.givenTo address)
    (server.addressStates address).connectionTimestamps

variable {server : Server}

/-- A change of the clock and of the state of one address which keeps its count and its log. -/
theorem Consistent.retime (h : server.Consistent) {address : Address} {now : Nat}
    (hnow : server.clock ≤ now)
    (hactive : state.activeConnections = (server.addressStates address).activeConnections)
    (hlogs : Logs rateWindow now (server.givenTo address) state.connectionTimestamps) :
    Consistent
      { server with
        clock := now
        addressStates := update server.addressStates address state } := by
  have hstates : ∀ other, (update server.addressStates address state other).activeConnections =
      (server.addressStates other).activeConnections := by
    intro other
    rcases eq_or_ne other address with rfl | hne
    · rw [update_self, hactive]
    · rw [update_of_ne hne]
  exact
    { active := fun other => (hstates other).trans (h.active other)
      limit := fun other => (hstates other).le.trans (h.limit other)
      rate := h.rate
      ended := h.ended
      terminated := h.terminated
      accepting := h.accepting
      nodup := h.nodup
      fresh := h.fresh
      running := h.running
      present := h.present
      past := h.past
      logs := fun other => by
        rcases eq_or_ne other address with rfl | hne
        · show Logs rateWindow now _ (update server.addressStates other state other).connectionTimestamps
          rw [update_self]
          exact hlogs
        · show Logs rateWindow now _ (update server.addressStates address state other).connectionTimestamps
          rw [update_of_ne hne]
          exact (h.logs other).mono hnow }

theorem givenTo_append (server : Server) (address other : Address) (now : Nat) :
    givenTo { server with given := server.given ++ [(address, now)] } other =
      if address = other then server.givenTo other ++ [now] else server.givenTo other := by
  rw [givenTo, givenTo, filter_append, map_append, filter_cons, filter_nil]
  by_cases hsame : address = other
  · rw [if_pos hsame, if_pos (decide_eq_true hsame)]
    rfl
  · rw [if_neg hsame, if_neg (by rwa [decide_eq_true_iff]), map_nil, append_nil]

/-- A connection that is not throttled is counted, logged and registered. -/
theorem Consistent.grant (h : server.Consistent) {address : Address} {now : Nat}
    (hnow : server.clock ≤ now) (hpending : server.pendingAccepts ≠ 0)
    (hadmitted : isConnectionThrottled (server.addressStates address) now = (false, after)) :
    Consistent
      { server with
        pendingAccepts := server.pendingAccepts - 1
        clock := now
        addressStates := update server.addressStates address after
        given := server.given ++ [(address, now)]
        nextClientId := server.nextClientId + 1
        clients := server.clients ++ [⟨server.nextClientId, address, true⟩]
        connecting := server.connecting + 1 } := by
  obtain ⟨hroom, hrate, rfl⟩ := admitted_spec hadmitted
  have hidle : ¬server.Disconnecting server.nextClientId := by
    intro hdisconnecting
    exact absurd (h.past _ (h.present _ hdisconnecting).2) (Nat.lt_irrefl _)
  constructor
  · constructor
    · intro other
      show (update server.addressStates address _ other).activeConnections =
        List.countP (fun connection => connection.address = other ∧ ¬server.Disconnecting connection.clientId)
          (server.clients ++ [⟨server.nextClientId, address, true⟩])
      rw [countP_append, countP_singleton]
      rcases eq_or_ne other address with rfl | hne
      · have hcounts : other = other ∧ ¬server.Disconnecting server.nextClientId := ⟨rfl, hidle⟩
        rw [update_self, if_pos (decide_eq_true hcounts)]
        exact congrArg (· + 1) (h.active other)
      · rw [update_of_ne hne, if_neg]
        · exact h.active other
        · intro hsame
          exact hne (of_decide_eq_true hsame).1.symm
    · intro other
      show (update server.addressStates address _ other).activeConnections ≤ _
      rcases eq_or_ne other address with rfl | hne
      · rw [update_self]
        exact hroom
      · rw [update_of_ne hne]
        exact h.limit other
    · intro other start
      show within rateWindow start (givenTo { server with given := _ } other) ≤ _
      rw [givenTo_append]
      split
      · next hsame =>
          subst hsame
          exact within_grant ((h.logs address).expire hnow) (h.rate address) hrate start
      · exact h.rate other start
    · intro clientId hended hclient
      rw [map_append] at hclient
      obtain hclient | hnew := mem_append.1 hclient
      · exact h.ended clientId hended hclient
      · cases mem_singleton.1 hnew
        exact absurd (h.past _ hended) (Nat.lt_irrefl _)
    · exact h.terminated
    · have haccepting := h.accepting
      show server.pendingAccepts - 1 + (server.connecting + 1) = 1
      omega
  · rw [map_append, nodup_append]
    refine ⟨h.nodup, pairwise_singleton _ _, ?_⟩
    rintro clientId hold other hnew rfl
    obtain ⟨connection, hmem, rfl⟩ := mem_map.1 hold
    exact absurd (mem_singleton.1 hnew) (h.fresh connection hmem).ne
  · intro connection hmem
    obtain hmem | hnew := mem_append.1 hmem
    · exact Nat.lt_succ_of_lt (h.fresh connection hmem)
    · cases mem_singleton.1 hnew
      exact Nat.lt_succ_self _
  · intro connection hmem
    obtain hmem | hnew := mem_append.1 hmem
    · exact h.running connection hmem
    · cases mem_singleton.1 hnew
      exact ⟨fun _ => hidle, fun _ => rfl⟩
  · intro clientId hdisconnecting
    obtain ⟨hclient, hended⟩ := h.present clientId hdisconnecting
    rw [map_append]
    exact ⟨mem_append_left _ hclient, hended⟩
  · intro clientId hended
    exact Nat.lt_succ_of_lt (h.past clientId hended)
  · intro other
    show Logs rateWindow now (givenTo { server with given := _ } other)
      (update server.addressStates address _ other).connectionTimestamps
    rw [givenTo_append]
    split
    · next hsame =>
        subst hsame
        rw [update_self]
        exact ((h.logs address).expire hnow).grant
    · next hne =>
        rw [update_of_ne (Ne.symm hne)]
        exact (h.logs other).mono hnow

theorem consistent_accept (h : server.Consistent) {elapsed : Nat} {accepted : Accepted}
    (hsound : server.Sound (.accept elapsed accepted)) : (server.accept elapsed accepted).Consistent := by
  rw [accept]
  split
  · exact h
  · next hpending =>
      have hnow : server.clock ≤ server.clock + elapsed := Nat.le_add_right _ _
      have hrearm : server.pendingAccepts - 1 + 1 = server.pendingAccepts := by omega
      have hgood := hsound hpending
      cases accepted with
      | error => exact hgood.elim
      | gone =>
        have hlater := h.retime hnow rfl ((h.logs 0).mono hnow)
        rw [update_eq_self] at hlater
        dsimp only [acceptLoop]
        rw [hrearm]
        exact hlater
      | socket address present closeThrows =>
        dsimp only at hgood ⊢
        cases hthrottle : isConnectionThrottled (server.addressStates address) (server.clock + elapsed) with
        | mk throttled after =>
          rw [hthrottle] at hgood
          cases throttled with
          | true =>
            have hopen : closeThrows = false := hgood
            subst hopen
            dsimp only [acceptLoop]
            rw [if_neg Bool.false_ne_true, hrearm]
            obtain ⟨hactive, hlogs⟩ := throttled_spec (h.logs address) hnow hthrottle
            exact h.retime hnow hactive hlogs
          | false =>
            have hpresent : present = true := hgood
            subst hpresent
            dsimp only
            rw [if_pos rfl]
            exact h.grant hnow hpending hthrottle

theorem consistent_connected (h : server.Consistent) {threw : Bool}
    (hsound : server.Sound (.connected threw)) : (server.connected threw).Consistent := by
  rw [connected]
  split
  · exact h
  · next hconnecting =>
      cases hsound hconnecting
      have haccepting := h.accepting
      have hnext : server.pendingAccepts + 1 + (server.connecting - 1) = 1 := by omega
      exact { h with accepting := hnext }

/-- The clients that count are those which run. -/
theorem countP_running (hrunning : ∀ connection ∈ server.clients,
      connection.shouldRun = true ↔ ¬server.Disconnecting connection.clientId) (address : Address) :
    (server.clients.countP fun connection =>
        connection.address = address ∧ ¬server.Disconnecting connection.clientId) =
      server.clients.countP fun connection =>
        connection.address = address ∧ connection.shouldRun = true := by
  refine countP_congr ?_
  intro connection hmem
  rw [decide_eq_true_iff, decide_eq_true_iff, hrunning connection hmem]

variable {clientId : ClientId} {connection : Connection}

theorem stopClient_of_ne (h : connection.clientId ≠ clientId) :
    stopClient clientId connection = connection := if_neg h

@[simp] theorem clientId_stopClient (clientId : ClientId) (connection : Connection) :
    (stopClient clientId connection).clientId = connection.clientId := by
  rw [stopClient]
  split
  · rfl
  · rfl

theorem map_clientId_stop (clientId : ClientId) (clients : List Connection) :
    (clients.map (stopClient clientId)).map Connection.clientId = clients.map Connection.clientId := by
  rw [map_map]
  exact map_congr_left fun connection _ => clientId_stopClient clientId connection

/-- Ending a running client takes it out of the count of its address and of no other one. -/
theorem countP_stop {clients : List Connection} (hnodup : (clients.map Connection.clientId).Nodup)
    (hmem : connection ∈ clients) (hrun : connection.shouldRun = true) (address : Address) :
    ((clients.map (stopClient connection.clientId)).countP fun other =>
        other.address = address ∧ other.shouldRun = true) +
        (if connection.address = address then 1 else 0) =
      clients.countP fun other => other.address = address ∧ other.shouldRun = true := by
  induction clients with
  | nil => cases hmem
  | cons head rest ih =>
    obtain ⟨hhead, hrest⟩ := nodup_cons.1 hnodup
    rw [map_cons, countP_cons, countP_cons]
    obtain rfl | hmem := mem_cons.1 hmem
    · have hsame : rest.map (stopClient connection.clientId) = rest := by
        refine (map_congr_left ?_).trans (map_id rest)
        intro other hother
        refine stopClient_of_ne ?_
        rintro hid
        exact hhead (hid ▸ mem_map_of_mem hother)
      have hstopped : (stopClient connection.clientId connection).shouldRun = false := by
        rw [stopClient, if_pos rfl]
      rw [hsame, hstopped, hrun]
      simp
    · have hne : head.clientId ≠ connection.clientId := by
        intro hid
        exact hhead (hid ▸ mem_map_of_mem hmem)
      rw [stopClient_of_ne hne, ← ih hrest hmem]
      omega

/-- `End` of a running client, up to its disconnect handler. -/
theorem Consistent.stop (h : server.Consistent) (hmem : connection ∈ server.clients)
    (hrun : connection.shouldRun = true) (inNoexcept : Bool) :
    Consistent
      { server with
        clients := server.clients.map (stopClient connection.clientId)
        addressStates := update server.addressStates connection.address
          (onThrottleDisconnect (server.addressStates connection.address))
        disconnecting := server.disconnecting ++ [(connection.clientId, inNoexcept)]
        ended := server.ended ++ [connection.clientId] } := by
  have hdisconnecting : ∀ other,
      other ∈ (server.disconnecting ++ [(connection.clientId, inNoexcept)]).map Prod.fst ↔
        server.Disconnecting other ∨ other = connection.clientId := by
    intro other
    rw [map_append, mem_append]
    exact or_congr_right mem_singleton
  have hrunning : ∀ other ∈ server.clients.map (stopClient connection.clientId),
      other.shouldRun = true ↔
        other.clientId ∉ (server.disconnecting ++ [(connection.clientId, inNoexcept)]).map Prod.fst := by
    intro other hother
    obtain ⟨before, hbefore, rfl⟩ := mem_map.1 hother
    rw [hdisconnecting, clientId_stopClient, not_or, ← h.running before hbefore]
    rw [stopClient]
    split
    · next hsame => exact ⟨fun hflag => Bool.noConfusion hflag, fun hother => absurd hsame hother.2⟩
    · next hne => exact ⟨fun hflag => ⟨hflag, hne⟩, fun hother => hother.1⟩
  have hactive : ∀ address,
      (update server.addressStates connection.address
          (onThrottleDisconnect (server.addressStates connection.address)) address).activeConnections =
        (server.clients.map (stopClient connection.clientId)).countP fun other =>
          other.address = address ∧ other.shouldRun = true := by
    intro address
    have hcount := countP_stop h.nodup hmem hrun address
    rw [← countP_running h.running, ← h.active] at hcount
    rcases eq_or_ne address connection.address with rfl | hne
    · rw [if_pos rfl] at hcount
      rw [update_self, onThrottleDisconnect, ← hcount]
      exact Nat.add_sub_cancel _ 1
    · rw [if_neg hne.symm] at hcount
      rw [update_of_ne hne]
      omega
  have hlower : ∀ address,
      (update server.addressStates connection.address
          (onThrottleDisconnect (server.addressStates connection.address)) address).activeConnections ≤
        (server.addressStates address).activeConnections := by
    intro address
    rcases eq_or_ne address connection.address with rfl | hne
    · rw [update_self]
      exact Nat.sub_le _ _
    · rw [update_of_ne hne]
  constructor
  · exact
      { active := fun address => (hactive address).trans
          (@countP_running { server with clients := _, disconnecting := _ } hrunning address).symm
        limit := fun address => (hlower address).trans (h.limit address)
        rate := h.rate
        ended := fun clientId hended hclient => by
          rw [map_clientId_stop] at hclient
          refine (hdisconnecting clientId).2 ?_
          obtain hended | hlast := mem_append.1 hended
          · exact .inl (h.ended clientId hended hclient)
          · exact .inr (mem_singleton.1 hlast)
        terminated := h.terminated
        accepting := h.accepting }
  · exact (map_clientId_stop _ _).symm ▸ h.nodup
  · intro other hother
    obtain ⟨before, hbefore, rfl⟩ := mem_map.1 hother
    rw [clientId_stopClient]
    exact h.fresh before hbefore
  · exact hrunning
  · intro clientId hclient
    show clientId ∈ (server.clients.map (stopClient connection.clientId)).map Connection.clientId ∧
      clientId ∈ server.ended ++ [connection.clientId]
    rw [map_clientId_stop]
    obtain hbefore | rfl := (hdisconnecting clientId).1 hclient
    · obtain ⟨hpresent, hended⟩ := h.present clientId hbefore
      exact ⟨hpresent, mem_append_left _ hended⟩
    · exact ⟨mem_map_of_mem hmem, mem_append_right _ (mem_singleton_self _)⟩
  · intro clientId hended
    obtain hended | hlast := mem_append.1 hended
    · exact h.past clientId hended
    · cases mem_singleton.1 hlast
      exact h.fresh connection hmem
  · intro address
    show Logs rateWindow server.clock (server.givenTo address)
      (update server.addressStates connection.address _ address).connectionTimestamps
    rcases eq_or_ne address connection.address with rfl | hne
    · rw [update_self]
      exact h.logs connection.address
    · rw [update_of_ne hne]
      exact h.logs address

theorem consistent_endClient (h : server.Consistent) (clientId : ClientId) (inNoexcept : Bool) :
    (server.endClient clientId inNoexcept).Consistent := by
  rw [endClient]
  cases hfind : server.clients.find? fun connection => connection.clientId = clientId with
  | none => exact h
  | some connection =>
    have hdecided := List.find?_some hfind
    have hid : connection.clientId = clientId := of_decide_eq_true hdecided
    subst hid
    dsimp only
    split
    · next hrun => exact h.stop (mem_of_find?_eq_some hfind) hrun inNoexcept
    · exact h

/-- A client whose disconnect handler has returned is forgotten. -/
theorem Consistent.forget (h : server.Consistent) (hclient : server.Disconnecting clientId) :
    Consistent
      { server with
        disconnecting := server.disconnecting.filter fun entry => entry.1 ≠ clientId
        clients := server.clients.filter fun connection => connection.clientId ≠ clientId } := by
  have hdisconnecting : ∀ other,
      other ∈ (server.disconnecting.filter fun entry => entry.1 ≠ clientId).map Prod.fst ↔
        server.Disconnecting other ∧ other ≠ clientId := by
    intro other
    rw [Disconnecting, mem_map, mem_map]
    constructor
    · rintro ⟨entry, hentry, rfl⟩
      obtain ⟨hentry, hne⟩ := mem_filter.1 hentry
      exact ⟨⟨entry, hentry, rfl⟩, of_decide_eq_true hne⟩
    · rintro ⟨⟨entry, hentry, rfl⟩, hne⟩
      exact ⟨entry, mem_filter.2 ⟨hentry, decide_eq_true hne⟩, rfl⟩
  have hclients : ∀ other,
      other ∈ (server.clients.filter fun connection => connection.clientId ≠ clientId).map
          Connection.clientId ↔
        other ∈ server.clients.map Connection.clientId ∧ other ≠ clientId := by
    intro other
    rw [mem_map, mem_map]
    constructor
    · rintro ⟨connection, hmem, rfl⟩
      obtain ⟨hmem, hne⟩ := mem_filter.1 hmem
      exact ⟨⟨connection, hmem, rfl⟩, of_decide_eq_true hne⟩
    · rintro ⟨⟨connection, hmem, rfl⟩, hne⟩
      exact ⟨connection, mem_filter.2 ⟨hmem, decide_eq_true hne⟩, rfl⟩
  have hrunning : ∀ connection ∈ server.clients.filter fun connection => connection.clientId ≠ clientId,
      connection.shouldRun = true ↔
        connection.clientId ∉ (server.disconnecting.filter fun entry => entry.1 ≠ clientId).map Prod.fst := by
    intro connection hconnection
    obtain ⟨hmem, hne⟩ := mem_filter.1 hconnection
    rw [hdisconnecting, h.running connection hmem, not_and_not_right]
    exact ⟨fun hidle hnow => absurd hnow hidle, fun himp hnow => of_decide_eq_true hne (himp hnow)⟩
  have hactive : ∀ address, (server.addressStates address).activeConnections =
      (server.clients.filter fun connection => connection.clientId ≠ clientId).countP fun connection =>
        connection.address = address ∧ connection.shouldRun = true := by
    intro address
    rw [h.active, countP_running h.running, countP_filter]
    refine countP_congr ?_
    intro connection hmem
    rw [Bool.and_eq_true, iff_self_and]
    intro hcounts
    refine decide_eq_true ?_
    rintro rfl
    exact (h.running connection hmem).1 (of_decide_eq_true hcounts).2 hclient
  constructor
  · exact
      { active := fun address => (hactive address).trans
          (@countP_running { server with clients := _, disconnecting := _ } hrunning address).symm
        limit := h.limit
        rate := h.rate
        ended := fun other hended hother => by
          obtain ⟨hother, hne⟩ := (hclients other).1 hother
          exact (hdisconnecting other).2 ⟨h.ended other hended hother, hne⟩
        terminated := h.terminated
        accepting := h.accepting }
  · exact h.nodup.sublist (filter_sublist.map _)
  · intro connection hmem
    exact h.fresh connection (mem_filter.1 hmem).1
  · exact hrunning
  · intro other hother
    obtain ⟨hother, hne⟩ := (hdisconnecting other).1 hother
    obtain ⟨hpresent, hended⟩ := h.present other hother
    exact ⟨(hclients other).2 ⟨hpresent, hne⟩, hended⟩
  · exact h.past
  · exact h.logs

theorem disconnecting_of_lookup {inNoexcept : Bool}
    (h : server.disconnecting.lookup clientId = some inNoexcept) :
    server.Disconnecting clientId := by
  obtain ⟨before, after, hsplit, -⟩ := lookup_eq_some_iff.1 h
  rw [Disconnecting, hsplit, map_append, map_cons]
  exact mem_append_right _ mem_cons_self

theorem consistent_disconnected (h : server.Consistent) {threw : Bool}
    (hsound : server.Sound (.disconnected clientId threw)) :
    (server.disconnected clientId threw).Consistent := by
  rw [disconnected]
  cases hlookup : server.disconnecting.lookup clientId with
  | none => exact h
  | some inNoexcept =>
    have hclient := disconnecting_of_lookup hlookup
    cases hsound hclient
    exact h.forget hclient

/-- Every sound step keeps the accounting. -/
theorem consistent_step (h : server.Consistent) {input : ServerStep} (hsound : server.Sound input) :
    (server.step input).Consistent := by
  cases input with
  | accept elapsed accepted => exact consistent_accept h hsound
  | connected threw => exact consistent_connected h hsound
  | endClient clientId inNoexcept => exact consistent_endClient h clientId inNoexcept
  | disconnected clientId threw => exact consistent_disconnected h hsound

/-- A step that is not sound breaks the accounting. -/
theorem sound_of_accounted (h : server.Consistent) {input : ServerStep}
    (hafter : (server.step input).Accounted) : server.Sound input := by
  have haccepting := h.accepting
  cases input with
  | accept elapsed accepted =>
    intro hpending
    rw [step, accept, if_neg hpending] at hafter
    dsimp only at hafter
    cases accepted with
    | error =>
      have hlost : server.pendingAccepts - 1 + server.connecting = 1 := hafter.accepting
      omega
    | gone => trivial
    | socket address present closeThrows =>
      dsimp only at hafter ⊢
      cases hthrottle : isConnectionThrottled (server.addressStates address) (server.clock + elapsed) with
      | mk throttled after =>
        rw [hthrottle] at hafter
        cases throttled with
        | true =>
          rw [if_pos rfl]
          cases closeThrows with
          | false => rfl
          | true =>
            have hlost : server.pendingAccepts - 1 + server.connecting = 1 := hafter.accepting
            omega
        | false =>
          rw [if_neg Bool.false_ne_true]
          cases present with
          | true => rfl
          | false =>
            have hterminated : true = false := hafter.terminated
            cases hterminated
  | connected threw =>
    intro hconnecting
    rw [step, connected, if_neg hconnecting] at hafter
    cases threw with
    | false => rfl
    | true =>
      have hlost : server.pendingAccepts + (server.connecting - 1) = 1 := hafter.accepting
      omega
  | endClient clientId inNoexcept => trivial
  | disconnected clientId threw =>
    intro hclient
    cases threw with
    | false => rfl
    | true =>
      obtain ⟨inNoexcept, hlookup⟩ : ∃ inNoexcept,
          server.disconnecting.lookup clientId = some inNoexcept := by
        obtain ⟨entry, hentry, rfl⟩ := mem_map.1 hclient
        exact Option.isSome_iff_exists.1 (lookup_isSome_iff.2 ⟨entry, hentry, beq_self_eq_true _⟩)
      obtain ⟨hpresent, hended⟩ := h.present clientId hclient
      rw [step, disconnected, hlookup] at hafter
      have hleft := hafter.ended clientId hended hpresent
      obtain ⟨entry, hentry, hsame⟩ := mem_map.1 hleft
      exact absurd hsame (of_decide_eq_true (mem_filter.1 hentry).2)

/-- A server that has just begun. -/
theorem consistent_start : Consistent {} where
  active _ := rfl
  limit _ := Nat.zero_le _
  rate _ _ := Nat.zero_le _
  ended _ hended := absurd hended not_mem_nil
  terminated := rfl
  accepting := rfl
  nodup := nodup_nil
  fresh _ hmem := absurd hmem not_mem_nil
  running _ hmem := absurd hmem not_mem_nil
  present _ hmem := absurd hmem not_mem_nil
  past _ hmem := absurd hmem not_mem_nil
  logs _ := Logs.nil

end Server

/-- The connections of every address are accounted for in every state of a run if and only if every
step meets the condition. -/
theorem connections_accounted (steps : List ServerStep) :
    Guarded Server.step Server.Sound {} steps ↔
      ∀ first second, steps = first ++ second → (run Server.step {} first).Accounted := by
  have hpreserved : ∀ server action, Server.Consistent server → Server.Sound server action →
      Server.Consistent (server.step action) :=
    fun _ _ h hsound => Server.consistent_step h hsound
  exact guarded_iff_prefixes hpreserved (fun _ h => h.toAccounted)
    (fun _ _ h hafter => Server.sound_of_accounted h hafter) Server.consistent_start

/-- A client whose disconnect handler throws. -/
def throwingDisconnect : List ServerStep :=
  [.accept 0 (.socket 1 true false), .connected false, .endClient 0 false, .disconnected 0 true]

/-- It stays in the map of clients, and its address has no active connection. -/
theorem throwing_disconnect :
    ¬∀ first second, throwingDisconnect = first ++ second → (run Server.step {} first).Accounted := by
  intro hlaw
  have hended := (hlaw throwingDisconnect [] rfl).ended 0 (by decide) (by decide)
  exact absurd hended (by decide)

end Alicia.Network
