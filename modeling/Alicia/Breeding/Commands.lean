import Alicia.Breeding.Market
import Alicia.Registry.Breeding
import Alicia.Room

/-!
# Breeding

The handlers of `TryBreeding` and of the failure cards, with the fields of the client context that
they use.  What the random engine and the genetics make of an attempt is part of its input.
-/

namespace Alicia.Breeding

open Transition Effect Data Registry Possession
open Chrono (TimePoint)
open DataDirector (characterStorage horseStorage itemStorage stallionStorage)

inductive BreedingFailureCardType where
  | red
  /-- A chance card. -/
  | yellow
  deriving DecidableEq

/-- `RanchDirector::ClientContext` of an authenticated client. -/
structure ClientContext where
  characterUid : Uid
  hasPendingFailureCard : Bool := false
  pendingCardType : BreedingFailureCardType := .red
  pendingFailureCardSpend : UInt32 := 0
  tryBreedingDeferAttempts : UInt32 := 0
  deriving DecidableEq

/-- The market, and the contexts of the authenticated clients. -/
structure Ranch extends Market where
  contexts : ClientId → Option ClientContext := fun _ => none

/-- `GetClientContext`. -/
def getClientContext (client : ClientId) : Effect Ranch Failure ClientContext := do
  Effect.ofOption (.thrown "Ranch client is not available") ((← get).contexts client)

section GetClientContext

variable {client : ClientId} {ranch : Ranch}

theorem getClientContext_some {context : ClientContext} (h : ranch.contexts client = some context) :
    getClientContext client ranch = .ok context ranch := by
  show (Effect.ofOption _ (ranch.contexts client) : Effect Ranch Failure ClientContext) ranch = _
  rw [h]
  rfl

theorem getClientContext_none (h : ranch.contexts client = none) :
    getClientContext client ranch = .error (.thrown "Ranch client is not available") ranch := by
  show (Effect.ofOption _ (ranch.contexts client) : Effect Ranch Failure ClientContext) ranch = _
  rw [h]
  rfl

end GetClientContext

/-- Change the context of a client. -/
def setContext (client : ClientId) (context : ClientContext) (ranch : Ranch) : Ranch :=
  { ranch with contexts := Function.update ranch.contexts client (some context) }

/-- Change the records. -/
def setData (data : DataDirector) (ranch : Ranch) : Ranch := { ranch with data := data }

/-! ## The success roll -/

structure BreedingBonus where
  id : UInt8 := 0
  type : UInt8 := 0
  value : UInt8 := 0
  deriving DecidableEq

def isInBand (grade : UInt32) (band : BreedingBonusBand) : Bool :=
  band.minGrade ≤ grade && grade ≤ band.maxGrade

/-- `RollBreedingBonus`, for a roll of the activation and the index of the entry that is selected. -/
def rollBreedingBonus (registry : BreedingRegistry) (activationRoll : Int32) (selected : Nat)
    (stallionGrade : UInt32) : BreedingBonus :=
  let isSmall := isInBand stallionGrade registry.smallGradeBand
  if !isSmall && !isInBand stallionGrade registry.bigGradeBand then {}
  else
    let band := if isSmall then registry.smallGradeBand else registry.bigGradeBand
    if activationRoll > band.activationChance then {}
    else
      let weights := registry.bonusEntries.map fun entry =>
        if isSmall then entry.ratioSmall else entry.ratioBig
      if weights.foldl (· + ·) 0 ≤ 0 then {}
      else
        match registry.bonusEntries[selected]? with
        | none => {}
        | some entry => ⟨entry.id, entry.type, entry.value⟩

/-- `CalculateBreedingSuccessRate`, in percent. -/
def calculateBreedingSuccessRate (registry : BreedingRegistry)
    (stallionGrade stallionBreedingCount : UInt32) (bonus : BreedingBonus) : UInt32 :=
  let params := registry.params
  let base := (registry.pregnantValue stallionGrade).getD params.minSuccessRate
  let decayed := max (base - stallionBreedingCount.toInt32 * params.successDecayPerBreeding)
    params.minSuccessRate
  let rate := if bonus.type = 0 then decayed + bonus.value.toUInt32.toInt32 else decayed
  (min (max rate 0) 100).toUInt32

/-! ## TryBreeding -/

structure TryBreeding where
  mareUid : Uid
  stallionUid : Uid
  deriving DecidableEq

/-- What an attempt finds, and what the random engine and the genetics give.  The genetics may throw
and leave anything in the record of the foal. -/
structure TryBreedingLookups where
  mare : Bool := true
  stallion : Bool := true
  resident : Bool := true
  stallionRecord : Bool := true
  character : Bool := true
  activationRoll : Int32 := 0
  selected : Nat := 0
  successRoll : UInt32 := 1
  foal : Option Uid := none
  genetics : UInt32 → Horse → Except Horse Horse := fun _ => .ok
  stallionRecordAgain : Bool := true

inductive CancelReason where
  | genericError
  | stallionNotFound
  | insufficientHorseSlots
  | insufficientBalance
  | showBreedingFailureCards
  deriving DecidableEq

/-- The reply to an attempt.  A deferred one is tried again later. -/
inductive TryBreedingReply where
  | ok (foalUid : Uid)
  | cancel (reason : CancelReason)
  | deferred
  deriving DecidableEq

def maxTryBreedingDeferAttempts : UInt32 := 4

/-- Charge the breeding fee, or say why not. -/
def chargeFee (fee : UInt32) (character : Character) : Option CancelReason × Character :=
  if character.horses.length + 2 > character.horseSlotCount.toNat then
    (some .insufficientHorseSlots, character)
  else if character.carrots < fee.toInt32 then (some .insufficientBalance, character)
  else (none, { character with carrots := character.carrots - fee.toInt32 })

/-- `Mutable` on a record that is at hand. -/
def change {V : Type} (storage : Storage V) (uid : Uid) (consumer : V → V) (data : DataDirector) :
    DataDirector :=
  match storage.records data uid with
  | none => data
  | some value => storage.write uid (consumer value) data

/-- The counters that advance for any paid attempt. -/
def applyBreedingAttemptUpdates (lookups : TryBreedingLookups) (command : TryBreeding)
    (stallionRecordUid : Uid) (success : Bool) (data : DataDirector) : DataDirector :=
  let data := change horseStorage command.mareUid (fun mare =>
    { mare with breedingCombo := if success then mare.breedingCombo + 1 else 0 }) data
  let data := change horseStorage command.stallionUid (fun stallion =>
    { stallion with breedingCount := stallion.breedingCount + 1 }) data
  if (stallionStorage.cached lookups.stallionRecordAgain stallionRecordUid data).isSome then
    change stallionStorage stallionRecordUid (fun stallion =>
      { stallion with timesMated := stallion.timesMated + 1 }) data
  else data

/-- `CreateBredFoal`.  The tracker of the ranch and the notifies are left out. -/
def createBredFoal (lookups : TryBreedingLookups) (bonus : BreedingBonus) :
    Effect Ranch Failure Uid := do
  let gradeBonus := if bonus.type = 1 then bonus.value.toUInt32 else 0
  match horseStorage.fresh lookups.foal (← get).data with
  | none => throw (.thrown "Value of the record is unavailable")
  | some uid =>
    match lookups.genetics gradeBonus { uid := uid } with
    | .error left =>
      modify fun ranch => setData (horseStorage.write uid left ranch.data) ranch
      throw (.thrown "genetics")
    | .ok foal =>
      modify fun ranch => setData (horseStorage.write uid foal ranch.data) ranch
      return uid

/-- What follows the debit of an attempt. -/
def breed (registry : BreedingRegistry) (lookups : TryBreedingLookups) (client : ClientId)
    (context : ClientContext) (command : TryBreeding) (stallion : Horse) (registration : StallionData) :
    Effect Ranch Failure TryBreedingReply := do
  let bonus := rollBreedingBonus registry lookups.activationRoll lookups.selected stallion.grade
  if lookups.successRoll ≤
      calculateBreedingSuccessRate registry stallion.grade stallion.breedingCount bonus then
    let foalUid ← createBredFoal lookups bonus
    modify fun ranch => setData (change characterStorage context.characterUid (fun character =>
      { character with horses := character.horses ++ [foalUid] }) ranch.data) ranch
    modify fun ranch => setData
      (applyBreedingAttemptUpdates lookups command registration.stallionUid true ranch.data) ranch
    return .ok foalUid
  else
    modify fun ranch => setData
      (applyBreedingAttemptUpdates lookups command registration.stallionUid false ranch.data) ranch
    modify (setContext client { context with
      hasPendingFailureCard := true
      pendingFailureCardSpend := registration.breedingCharge })
    return .cancel .showBreedingFailureCards

/-- Charge the fee of a registered stallion and breed. -/
def payAndBreed (registry : BreedingRegistry) (lookups : TryBreedingLookups) (client : ClientId)
    (context : ClientContext) (command : TryBreeding) (stallion : Horse) (registration : StallionData) :
    Effect Ranch Failure TryBreedingReply := do
  match characterStorage.find lookups.character context.characterUid (← get).data with
  | none => throw (.thrown "Value of the record is unavailable")
  | some character =>
    match chargeFee registration.breedingCharge character with
    | (some reason, _) => return .cancel reason
    | (none, charged) =>
      modify fun ranch =>
        setData (characterStorage.write context.characterUid charged ranch.data) ranch
      breed registry lookups client context command stallion registration

def handleTryBreeding (registry : BreedingRegistry) (lookups : TryBreedingLookups) (client : ClientId)
    (command : TryBreeding) : Effect Ranch Failure TryBreedingReply := do
  let context ← getClientContext client
  let ranch ← get
  let settled := { context with tryBreedingDeferAttempts := 0 }
  match horseStorage.cached lookups.mare command.mareUid ranch.data,
    horseStorage.cached lookups.stallion command.stallionUid ranch.data with
  | some _, some stallion =>
    let attempts := context.tryBreedingDeferAttempts + 1
    if !lookups.resident && attempts < maxTryBreedingDeferAttempts then
      modify (setContext client { context with tryBreedingDeferAttempts := attempts })
      return .deferred
    modify (setContext client settled)
    match getStallionData lookups.stallionRecord command.stallionUid ranch.toMarket with
    | none => return .cancel .stallionNotFound
    | some registration =>
      payAndBreed registry lookups client settled command stallion registration
  | _, _ =>
    modify (setContext client settled)
    return .cancel .genericError

/-! ## Failure cards -/

/-- `HandleBreedingFailureCard`, for a roll of the card.  There is no reply without a pending card. -/
def handleBreedingFailureCard (registry : BreedingRegistry) (cardRoll : Int32) (client : ClientId) :
    Effect Ranch Failure (Option BreedingFailureCardType) := do
  let context ← getClientContext client
  if !context.hasPendingFailureCard then
    return none
  let cardType : BreedingFailureCardType :=
    if cardRoll ≤ registry.params.chanceCardChance then .yellow else .red
  modify (setContext client { context with pendingCardType := cardType })
  return some cardType

/-- The rolls of a choice, and what its lookups find. -/
structure ChooseLookups where
  gradeRoll : Int32 := 1
  rewardRoll : UInt32 := 0
  character : Bool := true
  item : ItemLookups := {}
  added : Bool := true

/-- The reward that is given when the tables have none. -/
def fallbackReward : FailureCardReward := ⟨45001, 1, 120⟩

/-- The reward of a card for the fee of the failed breeding, with its id. -/
def drawReward (registry : BreedingRegistry) (lookups : ChooseLookups)
    (cardType : BreedingFailureCardType) (moneySpent : UInt32) : UInt32 × FailureCardReward :=
  let entry := registry.getFailureCardProb moneySpent
  let grade : UInt32 :=
    if lookups.gradeRoll ≤ entry.probA then 0
    else if lookups.gradeRoll ≤ entry.probA + entry.probB then 1
    else 2
  let table := if cardType = .yellow then registry.chanceCard else registry.normalCard
  match table.getGradeRange grade with
  | none => (0, fallbackReward)
  | some _ => (lookups.rewardRoll, (table.rewards lookups.rewardRoll).getD fallbackReward)

structure FailureCardChooseOK where
  isChanceCard : Bool
  rewardId : UInt32
  rewardedCarrots : UInt32
  item : Item
  deriving DecidableEq

/-- Give a reward to the character. -/
def giveReward (lookups : ChooseLookups) (reward : FailureCardReward) :
    Effect (Held Character) Failure Uid := do
  modify fun held => { held with
    value := { held.value with carrots := held.value.carrots + reward.gameMoney.toInt32 } }
  addItem lookups.item reward.itemTid (.count reward.itemCount)

/-- `HandleBreedingFailureCardChoose`. -/
def handleBreedingFailureCardChoose (registry : BreedingRegistry) (lookups : ChooseLookups)
    (client : ClientId) : Effect Ranch Failure FailureCardChooseOK := do
  let context ← getClientContext client
  let (rewardId, reward) :=
    drawReward registry lookups context.pendingCardType context.pendingFailureCardSpend
  let itemUid ← (characterStorage.access (.thrown "Value of the record is unavailable")
    lookups.character context.characterUid (giveReward lookups reward)).zoom
      (fun ranch => ranch.data) setData
  match itemStorage.find lookups.added itemUid (← get).data with
  | none => throw (.thrown "Value of the record is unavailable")
  | some item =>
    modify (setContext client { context with hasPendingFailureCard := false })
    return {
      isChanceCard := context.pendingCardType = .yellow
      rewardId := rewardId
      rewardedCarrots := reward.gameMoney
      item := item }

/-! ## Letting horses go -/

/-- Take a horse out of the list, once. -/
def releaseHorse (horseUid : Uid) (character : Character) : Character :=
  { character with horses := character.horses.erase horseUid }

/-- `ReturnHorseToNature`, which keeps the record of the horse. -/
def returnHorseToNature (available : Bool) (characterUid horseUid : Uid) :
    Effect DataDirector String PUnit :=
  characterStorage.mutable available characterUid (releaseHorse horseUid)

/-- What the lookups of an abandonment find. -/
structure AbandonLookups where
  character : Bool := true
  foal : Bool := true
  characterAgain : Bool := true

/-- `HandleBreedingAbandon`, with the reply. -/
def handleBreedingAbandon (lookups : AbandonLookups) (characterUid foalUid : Uid) :
    Effect DataDirector String Bool := do
  let character ← characterStorage.immutable lookups.character characterUid
  if foalUid ∉ character.horses then
    return false
  let foal ← horseStorage.immutable lookups.foal foalUid
  if foal.type ≠ .foal then
    return false
  returnHorseToNature lookups.characterAgain characterUid foalUid
  return true

section Inputs

variable (registry : BreedingRegistry)

/-! ## Inputs -/

/-- A command of a client or a character, or the scheduled check of the market. -/
inductive BreedingInput where
  | tryBreeding (client : ClientId) (command : TryBreeding) (lookups : TryBreedingLookups)
  | failureCard (client : ClientId) (cardRoll : Int32)
  | choose (client : ClientId) (lookups : ChooseLookups)
  | register (characterUid horseUid : Uid) (breedingFee : Int32) (lookups : RegisterLookups)
  | unregister (characterUid horseUid : Uid) (lookups : UnregisterLookups)
  | expirationCheck (lookups : Uid → UnregisterLookups) (available : Uid → Bool) (now : TimePoint)

/-- Change the market. -/
def setMarket (market : Market) (ranch : Ranch) : Ranch := { ranch with toMarket := market }

/-- The ranch after an input. -/
def breedingStep (ranch : Ranch) : BreedingInput → Ranch
  | .tryBreeding client command lookups =>
    (handleTryBreeding registry lookups client command).final ranch
  | .failureCard client cardRoll => (handleBreedingFailureCard registry cardRoll client).final ranch
  | .choose client lookups => (handleBreedingFailureCardChoose registry lookups client).final ranch
  | .register characterUid horseUid breedingFee lookups =>
    setMarket ((handleRegisterStallion lookups characterUid horseUid breedingFee).final ranch.toMarket)
      ranch
  | .unregister characterUid horseUid lookups =>
    setMarket (handleUnregisterStallion lookups characterUid horseUid ranch.toMarket).2 ranch
  | .expirationCheck lookups available now =>
    setMarket (runExpirationCheck lookups available now ranch.toMarket) ranch

end Inputs

/-! ## Records after the failure cards -/

variable {registry : BreedingRegistry}

theorem failureCard_data (cardRoll : Int32) (client : ClientId) (ranch : Ranch) :
    ((handleBreedingFailureCard registry cardRoll client).final ranch).data = ranch.data := by
  rw [handleBreedingFailureCard, final_bind]
  cases hcontext : ranch.contexts client with
  | none => rw [getClientContext_none hcontext]
  | some context =>
    rw [getClientContext_some hcontext]
    dsimp only
    split
    · rfl
    · rfl

/-- What a choice leaves of the records. -/
theorem choose_data {lookups : ChooseLookups} {client : ClientId} {ranch : Ranch}
    {context : ClientContext} (h : ranch.contexts client = some context) :
    ((handleBreedingFailureCardChoose registry lookups client).final ranch).data =
      (characterStorage.access (.thrown "Value of the record is unavailable") lookups.character
        context.characterUid (giveReward lookups (drawReward registry lookups context.pendingCardType
          context.pendingFailureCardSpend).2)).final ranch.data := by
  rw [handleBreedingFailureCardChoose, final_bind, getClientContext_some h]
  dsimp only
  rw [final_zoom_bind, Effect.final]
  split
  · rw [final_bind, get_apply]
    dsimp only
    split
    · rfl
    · rfl
  · rfl

/-- A reward changes the carrots, the inventory and the records of items only. -/
theorem giveReward_frame (lookups : ChooseLookups) (reward : FailureCardReward)
    (held : Held Character) :
    ((giveReward lookups reward).final held).data = { held.data with
      items := ((giveReward lookups reward).final held).data.items } := by
  rw [giveReward, final_bind, modify_apply]
  dsimp only
  rw [Effect.final, addItem_apply]
  cases hadded : added lookups.item reward.itemTid (.count reward.itemCount) { held with
      value := { held.value with carrots := held.value.carrots + reward.gameMoney.toInt32 } } with
  | none => rfl
  | some result =>
    obtain ⟨uid, after⟩ := result
    exact (added_frame hadded).2

end Alicia.Breeding
