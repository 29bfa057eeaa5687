import Alicia.Messenger.Sessions
import Alicia.Transition.Run

/-!
# Who is online

The contexts of the messenger are right as long as the record of a character is available when it logs
in, and as long as the broadcast about a client that disconnects does not throw.
-/

namespace Alicia.Messenger

open Std (ExtTreeMap ExtTreeSet)
open Transition Effect Data Presence Collection MessengerDirector

/-! ## The property -/

/-- The contexts tell who is online. -/
structure Authentic (director : MessengerDirector) : Prop where
  authenticated : ∀ (client : ClientId) (context : ClientContext),
    director.clients[client]? = some context → context.isAuthenticated = true →
      context.characterUid ≠ invalidUid ∧ (client, context.characterUid) ∈ director.presented
  connected : ∀ (client : ClientId) (context : ClientContext),
    director.clients[client]? = some context → client ∈ director.connected
  found : ∀ characterUid ≠ invalidUid, director.isCharacterOnline characterUid = true ↔
    ∃ client ∈ director.connected, ∃ context : ClientContext, director.clients[client]? = some context ∧
      context.isAuthenticated = true ∧ context.characterUid = characterUid

/-- The records that the broadcast about a client reads are available: that of its character, and those
of the other characters that are online. -/
structure Told (lookups : SessionLookups) (client : ClientId) (characterUid : Uid)
    (director : MessengerDirector) : Prop where
  own : (lookups.character characterUid).isOk = true
  others : ∀ (other : ClientId) (online : ClientContext), director.clients[other]? = some online →
    other ≠ client → online.isAuthenticated = true → (lookups.character online.characterUid).isOk = true

/-- The condition on a step. -/
def Suited (identityHash : Uid → UInt64) (director : MessengerDirector) : SessionStep → Prop
  | .login lookups client command =>
    ∀ context : ClientContext, director.clients[client]? = some context →
      director.authorizes identityHash lookups.now command = true →
        (command.characterUid ≠ invalidUid ∧ lookups.inbox = true) ∨ context.characterUid ≠ invalidUid
  | .disconnect lookups client =>
    client ∈ director.connected → ∀ context : ClientContext, director.clients[client]? = some context →
      context.isAuthenticated = true → Told lookups client context.characterUid director
  | _ => True

/-! ## The invariant -/

/-- A context of a client is authenticated exactly if it has a character, whose code was presented. -/
structure Registered (presented : List (ClientId × Uid)) (client : ClientId) (context : ClientContext) :
    Prop where
  character : context.isAuthenticated = true ↔ context.characterUid ≠ invalidUid
  code : context.isAuthenticated = true → (client, context.characterUid) ∈ presented

/-- Only the clients that are connected have contexts, and registered ones. -/
structure Orderly (director : MessengerDirector) : Prop where
  entry : ∀ (client : ClientId) (context : ClientContext), director.clients[client]? = some context →
    client ∈ director.connected ∧ Registered director.presented client context
  numbered : ∀ client ∈ director.connected, client < director.nextClientId

variable {director : MessengerDirector} {client : ClientId} {context : ClientContext}
  {lookups : SessionLookups}

variable {characterUid : Uid}

theorem isCharacterOnline_iff : director.isCharacterOnline characterUid = true ↔
    ∃ (client : ClientId) (context : ClientContext), director.clients[client]? = some context ∧
      context.characterUid = characterUid := by
  rw [isCharacterOnline, getClientByCharacterUid, List.find?_isSome]
  constructor
  · rintro ⟨⟨client, context⟩, hmem, hcharacter⟩
    exact ⟨client, context, ExtTreeMap.mem_toList_iff_getElem?_eq_some.1 hmem, of_decide_eq_true hcharacter⟩
  · rintro ⟨client, context, hcontext, hcharacter⟩
    exact ⟨(client, context), ExtTreeMap.mem_toList_iff_getElem?_eq_some.2 hcontext,
      decide_eq_true hcharacter⟩

theorem Orderly.authentic (h : Orderly director) : Authentic director := by
  constructor
  · intro client context hcontext hauthenticated
    have hregistered := (h.entry client context hcontext).2
    exact ⟨hregistered.character.1 hauthenticated, hregistered.code hauthenticated⟩
  · exact fun client context hcontext => (h.entry client context hcontext).1
  · intro characterUid hvalid
    rw [isCharacterOnline_iff]
    constructor
    · rintro ⟨client, context, hcontext, rfl⟩
      obtain ⟨hconnected, hregistered⟩ := h.entry client context hcontext
      exact ⟨client, hconnected, context, hcontext, hregistered.character.2 hvalid, rfl⟩
    · rintro ⟨client, -, context, hcontext, -, hcharacter⟩
      exact ⟨client, context, hcontext, hcharacter⟩

/-- A context is replaced by a registered one. -/
theorem Orderly.setContext (h : Orderly director) (hconnected : client ∈ director.connected)
    (hregistered : Registered director.presented client context) : Orderly (director.setContext client context) := by
  refine ⟨?_, h.numbered⟩
  intro other value hvalue
  have hvalue : (director.clients.insert client context)[other]? = some value := hvalue
  rw [getElem?_insert_self_or_ne] at hvalue
  split at hvalue
  · next hother =>
      cases hvalue
      subst hother
      exact ⟨hconnected, hregistered⟩
  · exact h.entry other value hvalue

theorem getClientContext_ok {requireAuthentication : Bool}
    (h : director.getClientContext client requireAuthentication = .ok context) :
    director.clients[client]? = some context := by
  rw [getClientContext] at h
  cases hcontext : director.clients[client]? with
  | none =>
    rw [hcontext] at h
    cases h
  | some found =>
    rw [hcontext] at h
    dsimp only at h
    split at h
    · cases h
    · cases h
      rfl

/-- The contexts that the handlers for any client ask for. -/
theorem ask_context (hcontext : director.clients[client]? = some context) :
    (ask fun director : MessengerDirector => director.getClientContext client false) director =
      .ok context director := by
  rw [ask, getClientContext, hcontext]
  rfl

theorem ask_missing (hcontext : director.clients[client]? = none) :
    (ask fun director : MessengerDirector => director.getClientContext client false) director =
      .error "Messenger client is not available" director := by
  rw [ask, getClientContext, hcontext]

/-! ## States -/

/-- A state changes the presence at most. -/
theorem orderly_updateState (h : Orderly director) (lookups : SessionLookups) (client : ClientId)
    (presence : Presence) :
    Orderly ((handleChatterUpdateState lookups client presence).final director) := by
  rw [handleChatterUpdateState]
  refine final_ask_bind (fun _ _ => h) fun context hcontext => ?_
  obtain ⟨hconnected, hregistered⟩ := h.entry client context (getClientContext_ok hcontext)
  split
  · exact h
  · split
    · exact h
    · split
      · exact h
      · have hchanged : Orderly (director.setContext client { context with presence := presence }) :=
          h.setContext hconnected ⟨hregistered.character, hregistered.code⟩
        rw [final_bind_ok (modify_apply _ _)]
        rw [final_ask]
        exact hchanged

/-- The loop finds whom to tell, exactly if it can read the others who are online. -/
theorem notices_isOk {guildUid : Uid} {online : List (ClientId × ClientContext)} :
    (notices lookups client characterUid guildUid online).isOk = true ↔
      ∀ other ∈ online, other.2.isAuthenticated = true → (other.1 = client ∧ guildUid ≠ invalidUid) ∨
        (lookups.character other.2.characterUid).isOk = true := by
  induction online with
  | nil => exact iff_of_true rfl fun _ hother => absurd hother List.not_mem_nil
  | cons first rest ih =>
    obtain ⟨onlineClient, context⟩ := first
    have hmap : ∀ f : List Notice → List Notice,
        (f <$> notices lookups client characterUid guildUid rest).isOk =
          (notices lookups client characterUid guildUid rest).isOk := by
      intro f
      cases notices lookups client characterUid guildUid rest with
      | ok found => rfl
      | error failure => rfl
    rw [notices, List.forall_mem_cons, ← ih]
    cases hauthenticated : context.isAuthenticated with
    | false =>
      rw [if_pos (show (!false) = true from rfl)]
      exact (and_iff_right fun h => Bool.noConfusion h).symm
    | true =>
      rw [if_neg (show ¬(!true) = true by decide)]
      split
      · next hself =>
          rw [hmap]
          exact (and_iff_right fun _ => .inl hself).symm
      · next hother =>
          cases hcharacter : lookups.character context.characterUid with
          | error failure =>
            refine iff_of_false Bool.false_ne_true ?_
            rintro ⟨hfirst, -⟩
            exact Bool.false_ne_true ((hfirst rfl).resolve_left hother)
          | ok character =>
            dsimp only
            rw [hmap]
            exact (and_iff_right fun _ => .inr rfl).symm

/-- A broadcast about a client with a context returns, exactly if the records that it reads are
available. -/
theorem broadcast_isOk (hcontext : director.clients[client]? = some context) :
    (broadcast lookups client context.characterUid director).isOk = true ↔
      Told lookups client context.characterUid director := by
  rw [broadcast]
  cases hcharacter : lookups.character context.characterUid with
  | error failure =>
    refine iff_of_false Bool.false_ne_true fun h => ?_
    have hown := h.own
    rw [hcharacter] at hown
    exact Bool.false_ne_true hown
  | ok character =>
    dsimp only
    rw [notices_isOk]
    constructor
    · intro h
      refine ⟨by rw [hcharacter]; rfl, fun other online hother hne hauthenticated => ?_⟩
      have hmem := ExtTreeMap.mem_toList_iff_getElem?_eq_some.2 hother
      exact (h _ hmem hauthenticated).resolve_left fun hself => hne hself.1
    · rintro h ⟨other, online⟩ hmem hauthenticated
      have hother := ExtTreeMap.mem_toList_iff_getElem?_eq_some.1 hmem
      by_cases hne : other = client
      · subst hne
        cases hcontext.symm.trans hother
        exact .inr h.own
      · exact .inr (h.others other online hother hne hauthenticated)

theorem Told.congr {other : MessengerDirector} (h : Told lookups client characterUid director)
    (hsame : ∀ key ≠ client, other.clients[key]? = director.clients[key]?) :
    Told lookups client characterUid other :=
  ⟨h.own, fun key online honline hne => h.others key online ((hsame key hne).symm.trans honline) hne⟩

/-! ## Disconnects -/

/-- What `HandleClientDisconnected` announces. -/
theorem updateState_offline (hcontext : director.clients[client]? = some context) :
    handleChatterUpdateState lookups client { status := offline } director =
      if context.isAuthenticated = true then
        ask (broadcast lookups client context.characterUid)
          (director.setContext client { context with presence := { status := offline } })
      else .ok [] director := by
  rw [handleChatterUpdateState, bind_ok (ask_context hcontext)]
  cases context.isAuthenticated with
  | false => rfl
  | true => rfl

/-- The client is gone. -/
structure Left (client : ClientId) (before after : MessengerDirector) : Prop where
  clients : ∀ other : ClientId,
    after.clients[other]? = if other = client then none else before.clients[other]?
  connected : after.connected = before.connected.erase client
  nextClientId : after.nextClientId = before.nextClientId
  presented : after.presented = before.presented

variable {after : MessengerDirector}

theorem Left.orderly (h : Left client director after) (horderly : Orderly director) :
    Orderly after := by
  constructor
  · intro other value hvalue
    rw [h.clients] at hvalue
    split at hvalue
    · cases hvalue
    · next hne =>
        obtain ⟨hconnected, hregistered⟩ := horderly.entry other value hvalue
        rw [h.connected, h.presented]
        exact ⟨mem_erase_iff.2 ⟨hconnected, hne⟩, hregistered⟩
  · intro other hother
    rw [h.connected] at hother
    rw [h.nextClientId]
    exact horderly.numbered other (mem_erase_iff.1 hother).1

/-- The director when `End` calls the handler. -/
def ending (client : ClientId) (director : MessengerDirector) : MessengerDirector :=
  { director with connected := director.connected.erase client }

theorem final_endClient (hconnected : client ∈ director.connected) :
    (endClient lookups client).final director =
      (handleClientDisconnected lookups client).final (ending client director) := by
  rw [endClient, final_bind_ok (get_apply _), if_pos hconnected,
    final_bind_ok (modify_apply _ _)]
  rfl

theorem final_endClient_ended (hconnected : client ∉ director.connected) :
    (endClient lookups client).final director = director := by
  rw [endClient, final_bind_ok (get_apply _), if_neg hconnected]
  rfl

/-- A client that is not authenticated leaves. -/
theorem left_unauthenticated (hconnected : client ∈ director.connected)
    (hcontext : director.clients[client]? = some context) (hnot : context.isAuthenticated = false) :
    Left client director ((endClient lookups client).final director) := by
  have hstate := @updateState_offline (ending client director) client context lookups hcontext
  rw [hnot, if_neg Bool.false_ne_true] at hstate
  rw [final_endClient hconnected, handleClientDisconnected, final_bind_ok hstate]
  exact ⟨getElem?_erase_self_or_ne _ _, rfl, rfl, rfl⟩

/-- A client without a context leaves. -/
theorem left_missing (hconnected : client ∈ director.connected) (hcontext : director.clients[client]? = none) :
    Left client director ((endClient lookups client).final director) := by
  have hthrown : handleChatterUpdateState lookups client { status := offline }
      (ending client director) = .error "Messenger client is not available" (ending client director) :=
    bind_error (@ask_missing (ending client director) client hcontext) _
  rw [final_endClient hconnected, handleClientDisconnected, final_bind_error hthrown]
  refine ⟨fun other => ?_, rfl, rfl, rfl⟩
  split
  · next hother => exact hother ▸ hcontext
  · rfl

/-- The director when the end of a client is broadcast. -/
def announcing (client : ClientId) (context : ClientContext) (director : MessengerDirector) :
    MessengerDirector :=
  (ending client director).setContext client
    { context with presence := { status := Presence.offline } }

theorem announcing_clients (client other : ClientId) (context : ClientContext)
    (director : MessengerDirector) : (announcing client context director).clients[other]? =
      if other = client then some { context with presence := { status := offline } }
      else director.clients[other]? :=
  getElem?_insert_self_or_ne _ _ _ _

theorem broadcast_announcing :
    (broadcast lookups client context.characterUid (announcing client context director)).isOk = true ↔
      Told lookups client context.characterUid director := by
  have hself : (announcing client context director).clients[client]? =
      some { context with presence := { status := offline } } := by
    rw [announcing_clients, if_pos rfl]
  have hsame : ∀ key ≠ client,
      (announcing client context director).clients[key]? = director.clients[key]? := by
    intro key hne
    rw [announcing_clients, if_neg hne]
  rw [@broadcast_isOk _ client { context with presence := { status := offline } } lookups hself]
  exact ⟨fun h => h.congr fun key hne => (hsame key hne).symm, fun h => h.congr hsame⟩

/-- An authenticated client leaves if the broadcast about it returns. -/
theorem left_told (hconnected : client ∈ director.connected)
    (hcontext : director.clients[client]? = some context) (hauthenticated : context.isAuthenticated = true)
    (htold : Told lookups client context.characterUid director) :
    Left client director ((endClient lookups client).final director) := by
  have hstate := @updateState_offline (ending client director) client context lookups hcontext
  rw [if_pos hauthenticated] at hstate
  cases hbroadcast : broadcast lookups client context.characterUid (announcing client context director) with
  | error failure =>
    have hok := broadcast_announcing.2 htold
    rw [hbroadcast] at hok
    cases hok
  | ok found =>
    have hreturned := hstate.trans (ask_ok hbroadcast)
    rw [final_endClient hconnected, handleClientDisconnected, final_bind_ok hreturned]
    refine ⟨fun other => ?_, rfl, rfl, rfl⟩
    refine (getElem?_erase_self_or_ne _ _ _).trans ?_
    split
    · rfl
    · next hne =>
        exact (announcing_clients client other context director).trans (if_neg hne)

/-- The context of an authenticated client stays if the broadcast about it throws. -/
theorem stays_untold (hconnected : client ∈ director.connected)
    (hcontext : director.clients[client]? = some context) (hauthenticated : context.isAuthenticated = true)
    (hnot : ¬Told lookups client context.characterUid director) :
    (endClient lookups client).final director = announcing client context director := by
  have hstate := @updateState_offline (ending client director) client context lookups hcontext
  rw [if_pos hauthenticated] at hstate
  cases hbroadcast : broadcast lookups client context.characterUid (announcing client context director) with
  | ok found =>
    refine absurd (broadcast_announcing.1 ?_) hnot
    rw [hbroadcast]
    rfl
  | error failure =>
    have hthrown := hstate.trans (ask_error hbroadcast)
    rw [final_endClient hconnected, handleClientDisconnected, final_bind_error hthrown]
    rfl

theorem orderly_endClient (h : Orderly director)
    (htold : client ∈ director.connected → ∀ context : ClientContext,
      director.clients[client]? = some context → context.isAuthenticated = true →
        Told lookups client context.characterUid director) :
    Orderly ((endClient lookups client).final director) := by
  by_cases hconnected : client ∈ director.connected
  · cases hcontext : director.clients[client]? with
    | none => exact (left_missing hconnected hcontext).orderly h
    | some context =>
      cases hauthenticated : context.isAuthenticated with
      | false => exact (left_unauthenticated hconnected hcontext hauthenticated).orderly h
      | true =>
        exact (left_told hconnected hcontext hauthenticated
          (htold hconnected context hcontext hauthenticated)).orderly h
  · rw [final_endClient_ended hconnected]
    exact h

/-- A context that stays behind its client is seen. -/
theorem told_of_authentic (h : Authentic ((endClient lookups client).final director))
    (hconnected : client ∈ director.connected) (hcontext : director.clients[client]? = some context)
    (hauthenticated : context.isAuthenticated = true) :
    Told lookups client context.characterUid director := by
  by_contra hnot
  rw [stays_untold hconnected hcontext hauthenticated hnot] at h
  have hself : (announcing client context director).clients[client]? =
      some { context with presence := { status := offline } } := by
    rw [announcing_clients, if_pos rfl]
  exact (mem_erase_iff.1 (h.connected client _ hself)).2 rfl

/-! ## Logins -/

/-- The context of a client is replaced, and codes may have been presented. -/
structure Replaced (client : ClientId) (context : ClientContext) (before after : MessengerDirector) :
    Prop where
  clients : ∀ other : ClientId,
    after.clients[other]? = if other = client then some context else before.clients[other]?
  connected : after.connected = before.connected
  nextClientId : after.nextClientId = before.nextClientId
  presented : ∀ pair ∈ before.presented, pair ∈ after.presented

theorem Replaced.setContext (h : Replaced client context director after) (next : ClientContext) :
    Replaced client next director (after.setContext client next) := by
  refine ⟨fun other => ?_, h.connected, h.nextClientId, h.presented⟩
  refine (getElem?_insert_self_or_ne _ _ _ _).trans ?_
  split
  · rfl
  · next hne => exact (h.clients other).trans (if_neg hne)

theorem Replaced.orderly (h : Replaced client context director after) (horderly : Orderly director)
    (hconnected : client ∈ director.connected)
    (hregistered : Registered after.presented client context) : Orderly after := by
  constructor
  · intro other value hvalue
    rw [h.clients] at hvalue
    rw [h.connected]
    split at hvalue
    · next hother =>
        cases hvalue
        exact hother ▸ ⟨hconnected, hregistered⟩
    · obtain ⟨hthere, hold⟩ := horderly.entry other value hvalue
      exact ⟨hthere, hold.character, fun hauthenticated => h.presented _ (hold.code hauthenticated)⟩
  · intro other hother
    rw [h.connected] at hother
    rw [h.nextClientId]
    exact horderly.numbered other hother

section Login

variable {identityHash : Uid → UInt64} {command : ChatCmdLogin}

theorem replaced_authorized (now : Nat) :
    Replaced client { context with isAuthenticated := director.authorizes identityHash now command }
      director (director.authorized identityHash now client context command) := by
  refine ⟨fun other => getElem?_insert_self_or_ne _ _ _ _, rfl, rfl, fun pair hpair => ?_⟩
  show pair ∈ if _ then _ else _
  split
  · exact List.mem_append_left _ hpair
  · exact hpair

theorem presented_authorized {now : Nat} (h : director.authorizes identityHash now command = true) :
    (director.authorized identityHash now client context command).presented =
      director.presented ++ [(client, command.characterUid)] := if_pos h

theorem presented_rejected {now : Nat} (h : director.authorizes identityHash now command = false) :
    (director.authorized identityHash now client context command).presented = director.presented :=
  if_neg (Bool.eq_false_iff.1 h)

/-- A login whose code is not right. -/
theorem final_login_rejected (hcontext : director.clients[client]? = some context)
    (hnot : director.authorizes identityHash lookups.now command = false) :
    (handleChatterLogin identityHash lookups client command).final director =
      (endClient lookups client).final
        (director.authorized identityHash lookups.now client context command) := by
  rw [handleChatterLogin, final_bind_ok (ask_context hcontext),
    final_bind_ok (get_apply _), final_bind_ok (modify_apply _ _), hnot]
  rfl

/-- A login whose code is right, and whose character is not available. -/
theorem final_login_unavailable (hcontext : director.clients[client]? = some context)
    (hauthorized : director.authorizes identityHash lookups.now command = true)
    (hnot : command.characterUid = invalidUid ∨ lookups.inbox = false) :
    (handleChatterLogin identityHash lookups client command).final director =
      (director.authorized identityHash lookups.now client context command).setContext client
        (context.welcomed command) := by
  rw [handleChatterLogin, final_bind_ok (ask_context hcontext),
    final_bind_ok (get_apply _), final_bind_ok (modify_apply _ _),
    hauthorized, if_neg (by decide), final_bind_ok (modify_apply _ _), if_pos hnot]
  rfl

/-- The rest of a login whose character is available. -/
theorem orderly_login_available (h : Orderly director) (hcontext : director.clients[client]? = some context)
    (hauthorized : director.authorizes identityHash lookups.now command = true)
    (havailable : ¬(command.characterUid = invalidUid ∨ lookups.inbox = false)) :
    Orderly ((handleChatterLogin identityHash lookups client command).final director) := by
  obtain ⟨hconnected, -⟩ := h.entry client context hcontext
  have hreplaced := ((@replaced_authorized director client context identityHash command
    lookups.now).setContext (context.welcomed command)).setContext
      { context.welcomed command with characterUid := command.characterUid }
  have hcharacter : command.characterUid ≠ invalidUid := fun hinvalid => havailable (.inl hinvalid)
  have horderly := hreplaced.orderly h hconnected ⟨iff_of_true rfl hcharacter, fun _ => ?_⟩
  · rw [handleChatterLogin, final_bind_ok (ask_context hcontext),
      final_bind_ok (get_apply _), final_bind_ok (modify_apply _ _),
      hauthorized, if_neg (by decide), final_bind_ok (modify_apply _ _),
      if_neg havailable, final_bind_ok (modify_apply _ _)]
    split
    · exact horderly
    · rw [final_bind_pure]
      exact orderly_updateState horderly lookups client _
  · have hpresented : (client, command.characterUid) ∈
        (director.authorized identityHash lookups.now client context command).presented := by
      rw [presented_authorized hauthorized]
      exact List.mem_append_right _ (List.mem_singleton_self _)
    exact hpresented

theorem orderly_login (h : Orderly director)
    (hsuited : Suited identityHash director (.login lookups client command)) :
    Orderly ((handleChatterLogin identityHash lookups client command).final director) := by
  cases hcontext : director.clients[client]? with
  | none =>
    rw [handleChatterLogin, final_bind_error (ask_missing hcontext)]
    exact h
  | some context =>
    obtain ⟨hconnected, hregistered⟩ := h.entry client context hcontext
    have hreplaced := @replaced_authorized director client context identityHash command lookups.now
    cases hauthorized : director.authorizes identityHash lookups.now command with
    | false =>
      rw [final_login_rejected hcontext hauthorized]
      have hself := hreplaced.clients client
      rw [if_pos rfl, hauthorized] at hself
      have hleft := @left_unauthenticated
        (director.authorized identityHash lookups.now client context command) client _ lookups
        (hreplaced.connected ▸ hconnected) hself rfl
      have hgone : Left client director ((endClient lookups client).final
          (director.authorized identityHash lookups.now client context command)) := by
        refine ⟨fun other => ?_, hleft.connected.trans (by rw [hreplaced.connected]),
          hleft.nextClientId, hleft.presented.trans (presented_rejected hauthorized)⟩
        rw [hleft.clients]
        split
        · rfl
        · next hne => exact (hreplaced.clients other).trans (if_neg hne)
      exact hgone.orderly h
    | true =>
      by_cases havailable : command.characterUid = invalidUid ∨ lookups.inbox = false
      · rw [final_login_unavailable hcontext hauthorized havailable]
        have hcharacter : context.characterUid ≠ invalidUid := by
          refine (hsuited context hcontext hauthorized).resolve_left ?_
          rintro ⟨hvalid, hinbox⟩
          rcases havailable with hinvalid | hmissing
          · exact hvalid hinvalid
          · rw [hinbox] at hmissing
            cases hmissing
        refine (hreplaced.setContext (context.welcomed command)).orderly h hconnected
          ⟨iff_of_true rfl hcharacter, fun _ => ?_⟩
        exact hreplaced.presented _ (hregistered.code (hregistered.character.2 hcharacter))
      · exact orderly_login_available h hcontext hauthorized havailable

/-- A context without a character is seen. -/
theorem suited_login_of_authentic
    (h : Authentic ((handleChatterLogin identityHash lookups client command).final director)) :
    Suited identityHash director (.login lookups client command) := by
  intro context hcontext hauthorized
  by_contra hnot
  rw [not_or, not_not] at hnot
  obtain ⟨hmissing, hcharacter⟩ := hnot
  have havailable : command.characterUid = invalidUid ∨ lookups.inbox = false := by
    by_cases hinvalid : command.characterUid = invalidUid
    · exact .inl hinvalid
    · exact .inr (Bool.eq_false_iff.2 fun hinbox => hmissing ⟨hinvalid, hinbox⟩)
  rw [final_login_unavailable hcontext hauthorized havailable] at h
  have hself : ((director.authorized identityHash lookups.now client context command).setContext client
      (context.welcomed command)).clients[client]? = some (context.welcomed command) :=
    (getElem?_insert_self_or_ne _ _ _ _).trans (if_pos rfl)
  exact (h.authenticated client _ hself rfl).1 hcharacter

end Login

theorem orderly_guildLogin (h : Orderly director) (lookups : SessionLookups) (client : ClientId)
    (command : ChatCmdLogin) :
    Orderly ((handleChatterGuildLogin lookups client command).final director) := by
  rw [handleChatterGuildLogin]
  refine final_ask_bind (fun _ _ => h) fun context hasked => ?_
  split
  · exact h
  · have hcontext := getClientContext_ok hasked
    obtain ⟨hconnected, hregistered⟩ := h.entry client context hcontext
    have hauthenticated : context.isAuthenticated = true := by
      rw [getClientContext, hcontext] at hasked
      by_contra hnot
      have hrefused : (true && !context.isAuthenticated) = true := by
        rw [Bool.eq_false_iff.2 hnot]
        rfl
      cases (if_pos hrefused).symm.trans hasked
    have hset : Orderly (director.setContext client { context with isAuthenticated := true }) :=
      h.setContext hconnected
        ⟨iff_of_true rfl (hregistered.character.1 hauthenticated), fun _ => hregistered.code hauthenticated⟩
    rw [final_bind_ok (modify_apply _ _)]
    cases lookups.character context.characterUid with
    | error failure => exact hset
    | ok character =>
      dsimp only
      split
      · exact hset
      · split
        · exact hset
        · split
          · exact hset
          · cases lookups.guild with
            | none => exact hset
            | some members =>
              rw [final_bind_ok (get_apply _), final_bind_pure]
              exact orderly_updateState hset lookups client _

/-! ## Runs -/

theorem orderly_connected (h : Orderly director) : Orderly (handleClientConnected director) := by
  have hnew : director.nextClientId ∉ director.clients := by
    intro hmem
    obtain ⟨context, hcontext⟩ := Option.isSome_iff_exists.1
      (ExtTreeMap.isSome_getElem?_iff_mem.2 hmem)
    exact absurd (h.numbered _ (h.entry _ context hcontext).1) (Nat.lt_irrefl _)
  constructor
  · intro client context hcontext
    have hcontext : (director.clients.insertIfNew director.nextClientId {})[client]? = some context :=
      hcontext
    rw [ExtTreeMap.getElem?_insertIfNew] at hcontext
    split at hcontext
    · next hself =>
        cases hcontext
        have hclient : client = director.nextClientId := (Std.LawfulEqCmp.eq_of_compare hself.1).symm
        subst hclient
        refine ⟨mem_insert_iff.2 (.inr rfl), ?_, fun hauthenticated => ?_⟩
        · exact iff_of_false Bool.false_ne_true (not_not.2 rfl)
        · cases hauthenticated
    · obtain ⟨hconnected, hregistered⟩ := h.entry client context hcontext
      exact ⟨mem_insert_iff.2 (.inl hconnected), hregistered⟩
  · intro client hclient
    rcases mem_insert_iff.1 hclient with hold | rfl
    · exact Nat.lt_succ_of_lt (h.numbered client hold)
    · exact Nat.lt_succ_self _

variable {identityHash : Uid → UInt64}

theorem orderly_step (step : SessionStep) (h : Orderly director)
    (hsuited : Suited identityHash director step) : Orderly (sessionStep identityHash director step) := by
  cases step with
  | connect => exact orderly_connected h
  | grant characterUid now code => exact ⟨h.entry, h.numbered⟩
  | login lookups client command => exact orderly_login h hsuited
  | guildLogin lookups client command => exact orderly_guildLogin h lookups client command
  | updateState lookups client presence => exact orderly_updateState h lookups client presence
  | disconnect lookups client => exact orderly_endClient h hsuited

theorem suited_of_authentic (step : SessionStep)
    (h : Authentic (sessionStep identityHash director step)) : Suited identityHash director step := by
  cases step with
  | login lookups client command => exact suited_login_of_authentic h
  | disconnect lookups client =>
    exact fun hconnected context hcontext hauthenticated =>
      told_of_authentic h hconnected hcontext hauthenticated
  | connect => trivial
  | grant characterUid now code => trivial
  | guildLogin lookups client command => trivial
  | updateState lookups client presence => trivial

/-- In every state of a run the contexts tell who is online, exactly if along the run every first login
finds its character, and the broadcast about every client that leaves finds the records that it reads. -/
theorem sessions_authentic (identityHash : Uid → UInt64) (steps : List SessionStep) :
    Guarded (sessionStep identityHash) (Suited identityHash) {} steps ↔
      ∀ first second, steps = first ++ second → Authentic (run (sessionStep identityHash) {} first) := by
  have hstart : Orderly {} := by
    refine ⟨fun client context hcontext => ?_, fun client hclient => ?_⟩
    · have hnone : (∅ : ExtTreeMap ClientId ClientContext)[client]? = none := ExtTreeMap.getElem?_empty
      cases hnone.symm.trans hcontext
    · exact absurd hclient ExtTreeSet.not_mem_empty
  exact guarded_iff_prefixes (fun _ step h hsuited => orderly_step step h hsuited)
    (fun _ h => h.authentic) (fun _ step _ h => suited_of_authentic step h) hstart

/-- A login whose character is not loaded. -/
def unloadedLogin : List SessionStep :=
  [.connect, .grant 7 0 42, .login { inbox := false } 0 { characterUid := 7, code := 42 }]

/-- A disconnect at which the character is not loaded. -/
def unloadedDisconnect : List SessionStep :=
  [.connect, .grant 7 0 42, .login {} 0 { characterUid := 7, code := 42 },
    .disconnect { characters := fun _ => none } 0]

/-- The first login leaves an authenticated client without a character; the disconnect leaves a character
online whose client is gone. -/
theorem unloaded_inauthentic :
    ¬Authentic (run (sessionStep UInt32.toUInt64) {} unloadedLogin) ∧
      ¬Authentic (run (sessionStep UInt32.toUInt64) {} unloadedDisconnect) := by
  constructor
  · intro h
    have hself : (run (sessionStep UInt32.toUInt64) {} unloadedLogin).clients[(0 : ClientId)]? =
        some ⟨true, some 42, invalidUid, ⟨Presence.online, Presence.ranch, invalidUid⟩⟩ := by
      decide +kernel
    exact (h.authenticated 0 _ hself rfl).1 rfl
  · intro h
    have hgone : ¬(0 : ClientId) ∈ (run (sessionStep UInt32.toUInt64) {} unloadedDisconnect).connected := by
      decide +kernel
    have hself : ((run (sessionStep UInt32.toUInt64) {} unloadedDisconnect).clients[(0 : ClientId)]?).isSome =
        true := by decide +kernel
    obtain ⟨context, hcontext⟩ := Option.isSome_iff_exists.1 hself
    exact hgone (h.connected 0 context hcontext)

end Alicia.Messenger
