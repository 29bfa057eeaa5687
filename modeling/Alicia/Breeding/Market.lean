import Alicia.Number.Binary32
import Alicia.Possession.ItemSystem
import Alicia.Reward.System

/-!
# The breeding market

The market keeps the horses that are registered as stallions, with the uids of their stallion
records.  An entry of `_horseRegistrations` is a pair here, and the order of the list stands for the
order in which the code's map is iterated.

The handlers are `noexcept`, so an exception in them ends the process.  The mail about a registration
that ended is left out.
-/

namespace Alicia.Breeding

open Transition Data Possession Function
open Chrono (TimePoint)
open DataDirector (characterStorage horseStorage stallionStorage)

/-- The breeding market, with the records that it uses. -/
structure Market where
  data : DataDirector
  registrations : List (Uid × Uid) := []

namespace Market

variable (market : Market)

/-- The stallion record of a registered horse. -/
def stallionOf (horseUid : Uid) : Option Uid := market.registrations.lookup horseUid

/-- `_horseRegistrations.emplace`, which leaves an existing entry alone. -/
def emplace (horseUid stallionUid : Uid) : Market :=
  if (market.stallionOf horseUid).isSome then market
  else { market with registrations := market.registrations ++ [(horseUid, stallionUid)] }

/-- `_horseRegistrations.erase`. -/
def erase (horseUid : Uid) : Market :=
  { market with registrations := market.registrations.filter fun entry => entry.1 ≠ horseUid }

end Market

def maxStallionsPerCharacter : Nat := 3

/-- `MarketDuration`, 24 hours. -/
def marketDuration : Int64 := 86400000000000

structure GradeFeeRange where
  min : Int32
  max : Int32
  deriving DecidableEq

def getGradeFeeRange : UInt32 → Option GradeFeeRange
  | 4 => some ⟨4000, 12000⟩
  | 5 => some ⟨5000, 15000⟩
  | 6 => some ⟨6000, 18000⟩
  | 7 => some ⟨8000, 24000⟩
  | 8 => some ⟨10000, 40000⟩
  | _ => none

/-- Half of the breeding fee, in single precision and rounded up. -/
def calculateRegistrationFee (breedingFee : Int32) : Int32 :=
  Int32.ofInt (Binary32.mul (Binary32.round breedingFee.toInt) (1 / 2)).ceil

/-! ## Registration -/

/-- What the lookups of a registration find. -/
structure RegisterLookups where
  characterLimit : Bool := true
  character : Bool := true
  horse : Bool := true
  horseAgain : Bool := true
  stallion : Option Uid := none
  now : TimePoint := .epoch

/-- `CanRegisterStallion`.  Only the horses that are not mounted are counted. -/
def canRegisterStallion (available : Bool) (characterUid : Uid) (market : Market) : Bool :=
  match characterStorage.find available characterUid market.data with
  | none => false
  | some character =>
    (character.horses.countP fun uid => (market.stallionOf uid).isSome) < maxStallionsPerCharacter

/-- The checks that hold the lock of the market. -/
def checkRegistration (lookups : RegisterLookups) (characterUid horseUid : Uid) (market : Market) :
    Bool :=
  (market.stallionOf horseUid).isNone && canRegisterStallion lookups.characterLimit characterUid market

/-- The character has the horse, and the fee is one for its grade. -/
def validateStallion (lookups : RegisterLookups) (characterUid horseUid : Uid) (breedingFee : Int32)
    (data : DataDirector) : Bool :=
  match characterStorage.find lookups.character characterUid data,
    horseStorage.find lookups.horse horseUid data with
  | some character, some horse =>
    horseUid ∈ character.horses &&
      (getGradeFeeRange horse.grade).any fun range =>
        range.min ≤ breedingFee && breedingFee ≤ range.max
  | _, _ => false

/-- Take the registration fee out of the character's funds, if they suffice. -/
def payRegistration (fee : Int32) (characterUid : Uid) (data : DataDirector) : Option DataDirector :=
  match data.characters characterUid with
  | none => none
  | some character =>
    if fee ≤ character.carrots then
      some (characterStorage.write characterUid { character with carrots := character.carrots - fee } data)
    else none

/-- The record of a new registration. -/
def newStallion (now : TimePoint) (characterUid horseUid : Uid) (breedingFee : Int32) (uid : Uid) :
    Stallion where
  uid := uid
  horseUid := horseUid
  ownerUid := characterUid
  breedingCharge := breedingFee.toUInt32
  registeredAt := now
  expiresAt := ⟨now.sinceEpoch + marketDuration⟩

/-- `BreedingMarket::HandleRegisterStallion`. -/
def handleRegisterStallion (lookups : RegisterLookups) (characterUid horseUid : Uid)
    (breedingFee : Int32) : Effect Market Failure Bool := do
  if !checkRegistration lookups characterUid horseUid (← get) then
    return false
  if !validateStallion lookups characterUid horseUid breedingFee (← get).data then
    return false
  match payRegistration (calculateRegistrationFee breedingFee) characterUid (← get).data with
  | none => return false
  | some data =>
  modify fun market => { market with data := data }
  match horseStorage.find lookups.horseAgain horseUid (← get).data with
  | none => return false
  | some horse =>
  modify fun market =>
    { market with data := horseStorage.write horseUid { horse with type := .stallion } market.data }
  match stallionStorage.fresh lookups.stallion (← get).data with
  | none => throw .terminated
  | some stallionUid =>
    modify fun market => { market with
      data := stallionStorage.write stallionUid
        (newStallion lookups.now characterUid horseUid breedingFee stallionUid) market.data }
    modify fun market => market.emplace horseUid stallionUid
    return true

/-! ## The end of a registration -/

/-- `BreedingMarket::Earnings`. -/
structure Earnings where
  timesMated : UInt32
  revenue : UInt32
  breedingFee : UInt32
  earnings : UInt32

/-- What a registration has earned, after a tax of a fifth in single precision. -/
def earningsOf (stallion : Stallion) : Earnings :=
  let revenue := stallion.timesMated * stallion.breedingCharge
  { timesMated := stallion.timesMated
    revenue := revenue
    breedingFee := stallion.breedingCharge
    earnings := revenue - Binary32.toUInt32
      (Binary32.mul (Binary32.round revenue.toNat) (Binary32.round (1 / 5))) }

/-- `CalculateUnregisterEarnings`, which does not compute the final earnings. -/
def calculateUnregisterEarnings (stallion horse : Bool) (horseUid : Uid) (market : Market) :
    Option Earnings :=
  (market.stallionOf horseUid).bind fun stallionUid =>
    match stallionStorage.cached stallion stallionUid market.data,
      horseStorage.cached horse horseUid market.data with
    | some stallion, some _ => some { earningsOf stallion with earnings := 0 }
    | _, _ => none

/-- `BreedingMarket::StallionData`. -/
structure StallionData where
  stallionUid : Uid
  breedingCharge : UInt32

def getStallionData (available : Bool) (horseUid : Uid) (market : Market) : Option StallionData :=
  (market.stallionOf horseUid).bind fun stallionUid =>
    (stallionStorage.cached available stallionUid market.data).map fun stallion =>
      ⟨stallionUid, stallion.breedingCharge⟩

/-- What the lookups of an unregistration find. -/
structure UnregisterLookups where
  character : Bool := true
  stallion : Bool := true
  horse : Bool := true
  stallionAgain : Bool := true
  horseAgain : Bool := true
  reward : Option Uid := none
  now : TimePoint := .epoch

/-- `UnregisterStallion`.  The owner gets a reward with the earnings. -/
def unregisterStallion (lookups : UnregisterLookups) (horseUid stallionUid : Uid)
    (data : DataDirector) : DataDirector :=
  match stallionStorage.cached lookups.stallionAgain stallionUid data,
    horseStorage.cached lookups.horseAgain horseUid data with
  | some stallion, some horse =>
    let paid :=
      if stallion.timesMated > 0 then
        (Reward.createReward lookups.reward lookups.now stallion.ownerUid .breeding
          (earningsOf stallion).earnings data).2
      else data
    stallionStorage.erase stallionUid (horseStorage.write horseUid { horse with type := .adult } paid)
  | _, _ => data

/-- `BreedingMarket::HandleUnregisterStallion`. -/
def handleUnregisterStallion (lookups : UnregisterLookups) (characterUid horseUid : Uid)
    (market : Market) : Bool × Market :=
  match market.stallionOf horseUid with
  | none => (false, market)
  | some stallionUid =>
    match characterStorage.find lookups.character characterUid market.data,
      stallionStorage.cached lookups.stallion stallionUid market.data,
      horseStorage.cached lookups.horse horseUid market.data with
    | some character, some _, some _ =>
      if horseUid ∈ character.horses then
        (true, { market with
          data := unregisterStallion lookups horseUid stallionUid market.data }.erase horseUid)
      else (false, market)
    | _, _, _ => (false, market)

/-- The registrations that have expired, of those whose stallion records are available. -/
def expired (available : Uid → Bool) (now : TimePoint) (market : Market) : List (Uid × Uid) :=
  market.registrations.filter fun entry =>
    (stallionStorage.find (available entry.2) entry.2 market.data).any fun stallion =>
      stallion.expiresAt.sinceEpoch < now.sinceEpoch

/-- Unregister an expired horse. -/
def expire (lookups : Uid → UnregisterLookups) (market : Market) (entry : Uid × Uid) : Market :=
  { market with
    data := unregisterStallion (lookups entry.1) entry.1 entry.2 market.data }.erase entry.1

/-- `RunExpirationCheck`. -/
def runExpirationCheck (lookups : Uid → UnregisterLookups) (available : Uid → Bool)
    (now : TimePoint) (market : Market) : Market :=
  (expired available now market).foldl (expire lookups) market

/-! ## Stallion records -/

theorem payRegistration_stallions {fee : Int32} {characterUid : Uid} {data after : DataDirector}
    (h : payRegistration fee characterUid data = some after) : after.stallions = data.stallions := by
  rw [payRegistration] at h
  split at h
  · cases h
  split at h
  · cases h
    rfl
  · cases h

theorem createReward_stallions (created : Option Uid) (now : TimePoint) (characterUid : Uid)
    (type : RewardType) (carrots : UInt32) (data : DataDirector) :
    (Reward.createReward created now characterUid type carrots data).2.stallions = data.stallions := by
  rw [Reward.createReward]
  split
  · rfl
  · rfl

theorem unregisterStallion_stallions (lookups : UnregisterLookups) (horseUid stallionUid : Uid)
    (data : DataDirector) :
    (unregisterStallion lookups horseUid stallionUid data).stallions = data.stallions ∨
      (unregisterStallion lookups horseUid stallionUid data).stallions =
        update data.stallions stallionUid none := by
  rw [unregisterStallion]
  split
  · refine .inr ?_
    show update (DataDirector.stallions (if _ then _ else _)) stallionUid none = _
    split
    · rw [createReward_stallions]
    · rfl
  · exact .inl rfl

/-- Every record is one of the earlier ones. -/
def Shrunk (before after : DataDirector) : Prop :=
  ∀ uid stallion, after.stallions uid = some stallion → before.stallions uid = some stallion

theorem shrunk_unregisterStallion (lookups : UnregisterLookups) (horseUid stallionUid : Uid)
    (data : DataDirector) : Shrunk data (unregisterStallion lookups horseUid stallionUid data) := by
  intro uid stallion hstallion
  obtain hsame | herased := unregisterStallion_stallions lookups horseUid stallionUid data
  · exact hsame ▸ hstallion
  · rw [herased] at hstallion
    rcases eq_or_ne uid stallionUid with rfl | hother
    · cases (update_self uid none data.stallions).symm.trans hstallion
    · exact (update_of_ne hother none data.stallions).symm.trans hstallion

end Alicia.Breeding
