import Alicia.Data.Reading
import Alicia.Number.Draws
import Alicia.Otp
import Alicia.Room
import Alicia.Transition.Effect

/-!
# The random ranch

`HandleEnterRanchRandomly` picks a ranch from the characters in the cache.  The cache has an entry
for every key that anybody asked for, whether or not there is a record of it.
-/

namespace Alicia.Lobby.RandomRanch

open Data Transition Effect Option

/-- `LobbyNetworkHandler::ClientContext`, for what the entry to a ranch reads and writes. -/
structure ClientContext where
  isAuthenticated : Bool := false
  characterUid : Uid := invalidUid
  rancherVisitPreference : Uid := invalidUid

/-- `AcCmdCLEnterRanchOK`. -/
structure EnterRanchOK where
  rancherUid : Uid
  otp : UInt32
  ranchAddress : UInt32
  ranchPort : UInt16

/-- The network handler of the lobby, with the systems that it uses here. -/
structure Handler where
  clients : ClientId → Option ClientContext := fun _ => none
  characterCache : Data.World Uid Character := start fun _ => none
  otpSystem : OtpSystem := {}
  ranchAddress : UInt32 := 0
  ranchPort : UInt16 := 0
  sent : List (ClientId × EnterRanchOK) := []

inductive Failure where
  | thrown (what : String)
  /-- The behaviour is undefined. -/
  | undefined
  deriving DecidableEq

/-- What the handler draws: the index of a ranch, and a code at a time. -/
structure RandomDraws where
  uid : Draws.Pick
  code : UInt32
  now : Nat

namespace Handler

def getClientContext (clientId : ClientId) : Effect Handler Failure ClientContext := do
  match (← get).clients clientId with
  | none => throw (.thrown "Lobby client is not available")
  | some context =>
    if context.isAuthenticated then return context
    else throw (.thrown "Lobby client is not authenticated")

def setClientContext (clientId : ClientId) (context : ClientContext) (handler : Handler) :
    Handler :=
  { handler with clients := Function.update handler.clients clientId (some context) }

/-- `GetCharacterCache().Get`. -/
def getCharacter (uid : Uid) : Effect Handler Failure (Option Character) := fun handler =>
  let characterCache := DataStorage.get uid true handler.characterCache
  .ok (characterCache.record? uid) { handler with characterCache := characterCache }

/-- The loop over the keys.  A record is used without a check whether it is available. -/
def findAvailableRanches (requestingCharacterUid : Uid) :
    List Uid → Effect Handler Failure (List Uid)
  | [] => pure []
  | randomRancherUid :: rest => do
    match ← getCharacter randomRancherUid with
    | none => throw .undefined
    | some character =>
      let availableRanches ← findAvailableRanches requestingCharacterUid rest
      if character.isRanchLocked || character.uid == requestingCharacterUid then
        return availableRanches
      else return character.uid :: availableRanches

def sendEnterRanchOK (draws : RandomDraws) (clientId : ClientId) (rancherUid : Uid) :
    Effect Handler Failure Unit := do
  let clientContext ← getClientContext clientId
  modify fun handler =>
    { handler with
      otpSystem :=
        handler.otpSystem.grantCode clientContext.characterUid.toUInt64 draws.now draws.code
      sent := handler.sent ++ [(clientId, {
        rancherUid := rancherUid
        otp := draws.code
        ranchAddress := handler.ranchAddress
        ranchPort := handler.ranchPort })] }

/-- The ranch that is drawn, which is the own one where there is no other. -/
def drawRanch (draws : RandomDraws) (own : Uid) (availableRanches : List Uid) : Uid :=
  (Draws.pickUniform draws.uid
    (if availableRanches.isEmpty then [own] else availableRanches)).getD own

/-- `HandleEnterRanchRandomly`. -/
def handleEnterRanchRandomly (draws : RandomDraws) (clientId : ClientId) :
    Effect Handler Failure Unit := do
  let clientContext ← getClientContext clientId
  if clientContext.rancherVisitPreference ≠ invalidUid then
    modify (setClientContext clientId { clientContext with rancherVisitPreference := invalidUid })
    sendEnterRanchOK draws clientId clientContext.rancherVisitPreference
  else
    let characterKeys := (← get).characterCache.entries.keys
    let availableRanches ← findAvailableRanches clientContext.characterUid characterKeys
    sendEnterRanchOK draws clientId
      (drawRanch draws clientContext.characterUid availableRanches)

end Handler

open Handler

/-! ## What a random entry answers -/

/-- An available character of the uid has its ranch unlocked, and is not the one that asks. -/
def IsOpenTo (characterCache : Data.World Uid Character)
    (requestingCharacterUid rancherUid : Uid) : Prop :=
  ∃ key character, characterCache.record? key = some character ∧ character.uid = rancherUid ∧
    character.isRanchLocked = false ∧ rancherUid ≠ requestingCharacterUid

/-- The open ranch of another character if there is one, else the own ranch. -/
def IsRandomRanch (characterCache : Data.World Uid Character)
    (requestingCharacterUid rancherUid : Uid) : Prop :=
  IsOpenTo characterCache requestingCharacterUid rancherUid ∨
    rancherUid = requestingCharacterUid ∧
      ∀ other, ¬IsOpenTo characterCache requestingCharacterUid other

/-- The handler uses no record that is not available, and it answers with a random ranch. -/
structure AnswersRandomly (draws : RandomDraws) (clientId : ClientId) (requestingCharacterUid : Uid)
    (handler : Handler) : Prop where
  defined : ∀ after,
    Handler.handleEnterRanchRandomly draws clientId handler ≠ .error .undefined after
  answered : ∃ after response,
    Handler.handleEnterRanchRandomly draws clientId handler = .ok ⟨⟩ after ∧
      after.sent = handler.sent ++ [(clientId, response)] ∧
      IsRandomRanch handler.characterCache requestingCharacterUid response.rancherUid

/-! ## The loop -/

theorem record?_get (key other : Uid) (world : Data.World Uid Character) :
    (DataStorage.get key true world).record? other = world.record? other := by
  rw [Data.World.record?, Data.World.record?, cell_get]
  split
  · next h => rw [h, Cell.get_value?]
  · rfl

/-- The open ranches among the keys. -/
def openRanches (characterCache : Data.World Uid Character) (requestingCharacterUid : Uid)
    (keys : List Uid) : List Uid :=
  keys.filterMap fun key => (characterCache.record? key).bind fun character =>
    if character.isRanchLocked || character.uid == requestingCharacterUid then none
    else some character.uid

variable {characterCache : Data.World Uid Character}

theorem openRanches_cons {requestingCharacterUid key : Uid} {rest : List Uid}
    {character : Character} (h : characterCache.record? key = some character) :
    openRanches characterCache requestingCharacterUid (key :: rest) =
      if character.isRanchLocked || character.uid == requestingCharacterUid then
        openRanches characterCache requestingCharacterUid rest
      else character.uid :: openRanches characterCache requestingCharacterUid rest := by
  rw [openRanches, List.filterMap_cons, h, bind_some]
  cases character.isRanchLocked || character.uid == requestingCharacterUid <;> rfl

theorem mem_openRanches {requestingCharacterUid : Uid} {keys : List Uid} {rancherUid : Uid}
    (hkeys : ∀ key, (characterCache.record? key).isSome = true → key ∈ keys) :
    rancherUid ∈ openRanches characterCache requestingCharacterUid keys ↔
      IsOpenTo characterCache requestingCharacterUid rancherUid := by
  simp only [openRanches, List.mem_filterMap, bind_eq_some_iff]
  constructor
  · rintro ⟨key, -, character, hrecord, hopen⟩
    split at hopen
    · cases hopen
    next hshown =>
      simp only [Bool.or_eq_true, beq_iff_eq, not_or, Bool.not_eq_true] at hshown
      cases hopen
      exact ⟨key, character, hrecord, rfl, hshown.1, hshown.2⟩
  · rintro ⟨key, character, hrecord, rfl, hunlocked, hother⟩
    refine ⟨key, hkeys key (by simp [hrecord]), character, hrecord, ?_⟩
    simp [hunlocked, hother]

/-- A lookup adds at most entries without a record. -/
structure Reread (handler after : Handler) : Prop where
  clients : after.clients = handler.clients
  sent : after.sent = handler.sent
  records : ∀ key, after.characterCache.record? key = handler.characterCache.record? key

section Loop

variable {requestingCharacterUid : Uid} {keys : List Uid}

theorem openRanches_congr {handler after : Handler} (h : Reread handler after) :
    openRanches after.characterCache requestingCharacterUid keys =
      openRanches handler.characterCache requestingCharacterUid keys := by
  simp [openRanches, h.records]

theorem getCharacter_reread (uid : Uid) (handler : Handler) :
    ∃ after, getCharacter uid handler =
      .ok (handler.characterCache.record? uid) after ∧ Reread handler after := by
  refine ⟨{ handler with characterCache := DataStorage.get uid true handler.characterCache }, ?_,
    rfl, rfl, fun key => record?_get uid key handler.characterCache⟩
  rw [getCharacter, record?_get]

theorem findAvailableRanches_eq (keys : List Uid) (handler : Handler)
    (havailable : ∀ key ∈ keys, (handler.characterCache.record? key).isSome = true) :
    ∃ after, findAvailableRanches requestingCharacterUid keys handler =
      .ok (openRanches handler.characterCache requestingCharacterUid keys) after ∧
        Reread handler after := by
  induction keys generalizing handler with
  | nil => exact ⟨handler, rfl, rfl, rfl, fun _ => rfl⟩
  | cons key rest ih =>
    obtain ⟨looked, hlookup, hreread⟩ := getCharacter_reread key handler
    obtain ⟨character, hrecord⟩ := isSome_iff_exists.1 (havailable key List.mem_cons_self)
    obtain ⟨after, hafter, hlater⟩ := ih looked fun other hother => by
      rw [hreread.records]
      exact havailable other (List.mem_cons_of_mem _ hother)
    refine ⟨after, ?_, hlater.clients.trans hreread.clients, hlater.sent.trans hreread.sent,
      fun other => (hlater.records other).trans (hreread.records other)⟩
    rw [findAvailableRanches, bind_ok hlookup, hrecord]
    dsimp only
    rw [bind_ok hafter, openRanches_congr hreread, openRanches_cons hrecord]
    cases character.isRanchLocked || character.uid == requestingCharacterUid <;> rfl

theorem findAvailableRanches_undefined (keys : List Uid) (handler : Handler)
    (hmissing : ∃ key ∈ keys, handler.characterCache.record? key = none) :
    ∃ after, findAvailableRanches requestingCharacterUid keys handler =
      .error .undefined after := by
  induction keys generalizing handler with
  | nil => simp at hmissing
  | cons key rest ih =>
    obtain ⟨looked, hlookup, hreread⟩ := getCharacter_reread key handler
    rw [findAvailableRanches, bind_ok hlookup]
    cases hrecord : handler.characterCache.record? key with
    | none => exact ⟨looked, rfl⟩
    | some character =>
      have hrest : ∃ other ∈ rest, looked.characterCache.record? other = none := by
        obtain ⟨other, hother, hnone⟩ := hmissing
        rcases List.mem_cons.1 hother with rfl | hother
        · exact absurd (hrecord.symm.trans hnone) (some_ne_none character)
        · exact ⟨other, hother, (hreread.records other).trans hnone⟩
      obtain ⟨after, hafter⟩ := ih looked hrest
      exact ⟨after, bind_error hafter _⟩

end Loop

/-! ## The answer -/

theorem drawRanch_mem (draws : RandomDraws) (own : Uid) {availableRanches : List Uid}
    (h : availableRanches ≠ []) :
    drawRanch draws own availableRanches ∈ availableRanches := by
  obtain ⟨rancherUid, hpick⟩ := ne_none_iff_exists'.1
    (mt (@Draws.pickUniform_eq_none_iff Uid draws.uid availableRanches).1 h)
  rw [drawRanch, if_neg (by simpa using h), hpick, getD_some]
  exact Draws.exists_pickUniform_some_iff.1 ⟨draws.uid, hpick⟩

theorem drawRanch_nil (draws : RandomDraws) (own : Uid) :
    drawRanch draws own [] = own := by
  have hindex : draws.uid.index 1 = 0 :=
    Nat.lt_one_iff.1 (draws.uid.index_lt 1 Nat.one_pos)
  simp [drawRanch, Draws.pickUniform, hindex]

theorem isRandomRanch_drawRanch (draws : RandomDraws) (characterCache : Data.World Uid Character) (own : Uid)
    {keys : List Uid} (hkeys : ∀ key, (characterCache.record? key).isSome = true → key ∈ keys) :
    IsRandomRanch characterCache own
      (drawRanch draws own (openRanches characterCache own keys)) := by
  by_cases hempty : openRanches characterCache own keys = []
  · rw [hempty, drawRanch_nil]
    refine .inr ⟨rfl, fun other hopen => ?_⟩
    have hmem := (mem_openRanches hkeys).2 hopen
    rw [hempty] at hmem
    cases hmem
  · exact .inl ((mem_openRanches hkeys).1 (drawRanch_mem draws own hempty))

theorem mem_keys_of_record? {key : Uid} (h : (characterCache.record? key).isSome = true) :
    key ∈ characterCache.entries.keys := by
  have hentry := Cell.isSome_value? h
  rw [Std.ExtTreeMap.mem_keys, ← Std.ExtTreeMap.isSome_getElem?_iff_mem]
  exact hentry

section Answer

variable {draws : RandomDraws} {clientId : ClientId} {handler : Handler} {context : ClientContext}

theorem getClientContext_eq (hclient : handler.clients clientId = some context)
    (hauthenticated : context.isAuthenticated = true) :
    getClientContext clientId handler = .ok context handler := by
  rw [getClientContext, bind_ok (get_apply handler), hclient]
  simp [hauthenticated]

theorem handleEnterRanchRandomly_eq (hclient : handler.clients clientId = some context)
    (hauthenticated : context.isAuthenticated = true)
    (hpreference : context.rancherVisitPreference = invalidUid) :
    handleEnterRanchRandomly draws clientId handler =
      (findAvailableRanches context.characterUid handler.characterCache.entries.keys >>=
        fun availableRanches => sendEnterRanchOK draws clientId
          (drawRanch draws context.characterUid availableRanches)) handler := by
  rw [handleEnterRanchRandomly,
    bind_ok (getClientContext_eq hclient hauthenticated), if_neg (not_not.2 hpreference),
    bind_ok (get_apply handler)]

/-- One character that is not available spoils the entry. -/
theorem not_answersRandomly (hclient : handler.clients clientId = some context)
    (hauthenticated : context.isAuthenticated = true)
    (hpreference : context.rancherVisitPreference = invalidUid) {key : Uid}
    (hkey : key ∈ handler.characterCache.entries.keys)
    (hmissing : handler.characterCache.record? key = none) :
    ¬AnswersRandomly draws clientId context.characterUid handler := by
  intro hanswers
  obtain ⟨after, hafter⟩ := @findAvailableRanches_undefined context.characterUid
    handler.characterCache.entries.keys handler ⟨key, hkey, hmissing⟩
  refine hanswers.defined after ?_
  rw [handleEnterRanchRandomly_eq hclient hauthenticated hpreference]
  exact bind_error hafter _

/-- A random entry is safe, and its answer right, exactly if every character that the cache has an
entry for is available. -/
theorem answersRandomly_iff (draws : RandomDraws) (clientId : ClientId) (handler : Handler)
    (context : ClientContext) (hclient : handler.clients clientId = some context)
    (hauthenticated : context.isAuthenticated = true)
    (hpreference : context.rancherVisitPreference = invalidUid) :
    AnswersRandomly draws clientId context.characterUid handler ↔
      ∀ key ∈ handler.characterCache.entries.keys,
        (handler.characterCache.record? key).isSome = true := by
  constructor
  · intro hanswers key hkey
    by_contra hmissing
    exact not_answersRandomly hclient hauthenticated hpreference hkey
      (Option.not_isSome_iff_eq_none.1 hmissing) hanswers
  · intro havailable
    obtain ⟨after, hafter, hreread⟩ := @findAvailableRanches_eq context.characterUid
      handler.characterCache.entries.keys handler havailable
    have hcontext := getClientContext_eq (hreread.clients ▸ hclient) hauthenticated
    have hresult := (@handleEnterRanchRandomly_eq draws clientId handler context hclient
      hauthenticated hpreference).trans (bind_ok hafter _)
    rw [Handler.sendEnterRanchOK, bind_ok hcontext] at hresult
    refine ⟨fun other hother => ?_, _, _, hresult,
      congrArg (fun sent => sent ++ [_]) hreread.sent, ?_⟩
    · rw [hresult] at hother
      cases hother
    · exact isRandomRanch_drawRanch draws _ _ fun _ => mem_keys_of_record?

/-- The character 1 asks, and the character 2 has its ranch unlocked. -/
def visited (uids : List Uid) : Handler where
  clients := fun clientId => if clientId = 5 then some ⟨true, 1, invalidUid⟩ else none
  characterCache :=
    let source : Uid → Option Character := fun uid =>
      if uid = 1 ∨ uid = 2 then some { uid := uid } else none
    run Data.step (start source) (uids.map (fun uid => .get uid true) ++ [.tick {}])

theorem answersRandomly_visited :
    AnswersRandomly ⟨.of 0, 7, 0⟩ 5 1 (visited [1, 2]) := by
  have hkeys : (visited [1, 2]).characterCache.entries.keys = [1, 2] := by decide +kernel
  refine (answersRandomly_iff _ 5 (visited [1, 2]) ⟨true, 1, invalidUid⟩ rfl rfl rfl).2 ?_
  rw [hkeys]
  exact List.forall_mem_cons.2 ⟨rfl, List.forall_mem_singleton.2 rfl⟩

/-- Somebody asked for the character 3, which does not exist. -/
theorem absent_character_asked :
    ¬AnswersRandomly ⟨.of 0, 7, 0⟩ 5 1 (visited [1, 2, 3]) :=
  @not_answersRandomly ⟨.of 0, 7, 0⟩ 5 (visited [1, 2, 3]) ⟨true, 1, invalidUid⟩ rfl rfl rfl 3
    (by decide +kernel) rfl

end Answer

end Alicia.Lobby.RandomRanch
