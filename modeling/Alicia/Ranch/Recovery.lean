import Alicia.Data.Director
import Mathlib.Algebra.Order.Ring.Int

/-!
# The recovery of stamina

`RecoverMount` pays one carrot for each point of stamina, up to 4000 points.  What is missing is computed without a
sign, and read with one, so a horse above 4000 points loses stamina for carrots.
-/

namespace Alicia.Ranch

open Transition Data
open DataDirector (characterStorage horseStorage)

structure RecoverMountLookups where
  character : Bool := true
  horse : Bool := true

inductive RecoverMountReply where
  | ok (horseUid : Uid) (stamina : UInt16) (updatedCarrots : Int32)
  | cancel (horseUid : Uid)
  deriving DecidableEq

def maxHorseStamina : UInt32 := 4000

/-- The points that are missing or can be paid for, whichever are less. -/
def staminaToRecover (stamina : UInt32) (carrots : Int32) : Int32 :=
  let recoverableStamina := (maxHorseStamina - stamina).toInt32
  if carrots < recoverableStamina then carrots else recoverableStamina

def ownsHorse (character : Character) (horseUid : Uid) : Bool :=
  character.mountUid = horseUid || character.horses.contains horseUid

def recoverHorse (points : Int32) (horse : Horse) : Horse :=
  { horse with mountCondition := { horse.mountCondition with
      stamina := horse.mountCondition.stamina + points.toUInt32 } }

/-- The access of `HandleRecoverMount` to the character. -/
def recoverMount (lookups : RecoverMountLookups) (horseUid : Uid) :
    Effect (Held Character) String RecoverMountReply := do
  let held ← get
  match horseStorage.find lookups.horse horseUid held.data with
  | none => return .cancel horseUid
  | some horse =>
    if !ownsHorse held.value horseUid || held.value.carrots ≤ 0 then
      return .cancel horseUid
    let points := staminaToRecover horse.mountCondition.stamina held.value.carrots
    let recovered := recoverHorse points horse
    let carrots := held.value.carrots - points
    set ({ value := { held.value with carrots := carrots }
           data := horseStorage.write horseUid recovered held.data } : Held Character)
    return .ok horseUid recovered.mountCondition.stamina.toUInt16 carrots

def handleRecoverMount (lookups : RecoverMountLookups) (caller horseUid : Uid) :
    Effect DataDirector String RecoverMountReply :=
  characterStorage.access "Value of the record is unavailable" lookups.character caller (recoverMount lookups horseUid)

/-! ## The purpose of the recovery -/

/-- Stamina is bought for as many carrots, up to the maximum and as far as they go. -/
structure Recovers (stamina stamina' : UInt32) (carrots carrots' : Int32) : Prop where
  rises : stamina.toNat ≤ stamina'.toNat
  paid : carrots'.toInt ≤ carrots.toInt
  conserved : carrots.toInt - carrots'.toInt = (stamina'.toNat : Int) - stamina.toNat
  capped : stamina'.toNat ≤ max 4000 stamina.toNat
  solvent : 0 ≤ carrots'.toInt
  amount : (stamina'.toNat : Int) - stamina.toNat = min ((4000 - stamina.toNat : Nat) : Int) carrots.toInt

/-- The records after a recovery of some points. -/
def afterRecovery (caller horseUid : Uid) (character : Character) (horse : Horse) (points carrots : Int32)
    (data : DataDirector) : DataDirector :=
  characterStorage.write caller { character with carrots := carrots }
    (horseStorage.write horseUid (recoverHorse points horse) data)

/-- The command buys stamina for an owned horse, and changes nothing else. -/
def Recovered (lookups : RecoverMountLookups) (caller horseUid : Uid) (data : DataDirector) : Prop :=
  ∀ character ∈ characterStorage.find lookups.character caller data,
    ∀ horse ∈ horseStorage.find lookups.horse horseUid data,
      ownsHorse character horseUid = true → 0 < character.carrots →
        ∃ points carrots, (handleRecoverMount lookups caller horseUid).final data =
            afterRecovery caller horseUid character horse points carrots data ∧
          Recovers horse.mountCondition.stamina (recoverHorse points horse).mountCondition.stamina
            character.carrots carrots

/-- The condition: an owned horse has no more than the maximum. -/
def NotOverfull (lookups : RecoverMountLookups) (caller horseUid : Uid) (data : DataDirector) : Prop :=
  ∀ character ∈ characterStorage.find lookups.character caller data,
    ∀ horse ∈ horseStorage.find lookups.horse horseUid data,
      ownsHorse character horseUid = true → 0 < character.carrots → horse.mountCondition.stamina ≤ maxHorseStamina

/-- A signed number and its bits. -/
theorem toNat_toUInt32 (value : Int32) :
    (value.toUInt32.toNat : Int) = if 0 ≤ value.toInt then value.toInt else value.toInt + 2 ^ 32 := by
  have hbits : value.toUInt32.toNat = value.toBitVec.toNat := rfl
  have hsigned : value.toInt = value.toBitVec.toInt := rfl
  have hlt := value.toBitVec.isLt
  rw [hbits, hsigned, BitVec.toInt_eq_toNat_cond]
  split <;> split <;> omega

theorem toInt_toInt32 (value : UInt32) :
    value.toInt32.toInt = if value.toNat < 2 ^ 31 then (value.toNat : Int) else value.toNat - 2 ^ 32 := by
  have hbits : value.toNat = value.toInt32.toBitVec.toNat := rfl
  have hsigned : value.toInt32.toInt = value.toInt32.toBitVec.toInt := rfl
  have hlt := value.toNat_lt
  rw [hbits, hsigned, BitVec.toInt_eq_toNat_cond]
  rw [hbits] at hlt
  split <;> split <;> omega

theorem toInt_staminaToRecover (stamina : UInt32) (carrots : Int32) :
    (staminaToRecover stamina carrots).toInt = min (maxHorseStamina - stamina).toInt32.toInt carrots.toInt := by
  unfold staminaToRecover
  dsimp only
  split
  · next h =>
      have hlt := Int32.lt_iff_toInt_lt.1 h
      omega
  · next h =>
      have hle := mt Int32.lt_iff_toInt_lt.2 h
      omega

theorem toInt_missing (stamina : UInt32) : (maxHorseStamina - stamina).toInt32.toInt =
    if stamina.toNat ≤ 2147487648 then 4000 - (stamina.toNat : Int) else 4294971296 - stamina.toNat := by
  have hlt := stamina.toNat_lt
  have hmax : maxHorseStamina.toNat = 4000 := rfl
  rw [toInt_toInt32, UInt32.toNat_sub, hmax]
  split <;> split <;> omega

theorem recovers_iff {stamina : UInt32} {carrots : Int32} (hpositive : 0 < carrots) :
    Recovers stamina (stamina + (staminaToRecover stamina carrots).toUInt32) carrots
      (carrots - staminaToRecover stamina carrots) ↔ stamina ≤ maxHorseStamina := by
  have hmax : maxHorseStamina.toNat = 4000 := rfl
  have hcarrots : 0 < carrots.toInt := Int32.lt_iff_toInt_lt.1 hpositive
  have hcarrots' := carrots.toInt_lt
  have hstamina := stamina.toNat_lt
  have hpoints := toInt_staminaToRecover stamina carrots
  have hmissing := toInt_missing stamina
  have hbits := toNat_toUInt32 (staminaToRecover stamina carrots)
  have hsum := UInt32.toNat_add stamina (staminaToRecover stamina carrots).toUInt32
  have hdifference := Int32.toInt_sub carrots (staminaToRecover stamina carrots)
  rw [UInt32.le_iff_toNat_le, hmax]
  constructor
  · intro h
    have hamount := h.amount
    by_contra hover
    split at hmissing <;> split at hbits <;> omega
  · intro hle
    rw [if_pos (by omega)] at hmissing
    rw [if_pos (by omega)] at hbits
    have hnowrap : (carrots.toInt - (staminaToRecover stamina carrots).toInt).bmod (2 ^ 32) =
        carrots.toInt - (staminaToRecover stamina carrots).toInt :=
      Int.bmod_eq_of_le (by omega) (by omega)
    rw [hnowrap] at hdifference
    constructor <;> omega

section Handler

variable {lookups : RecoverMountLookups} {caller horseUid : Uid} {data : DataDirector} {character : Character}
  {horse : Horse}

theorem afterRecovery_inj {points points' carrots carrots' : Int32} (h : afterRecovery caller horseUid character horse points carrots data =
        afterRecovery caller horseUid character horse points' carrots' data) :
    recoverHorse points horse = recoverHorse points' horse ∧ carrots = carrots' := by
  have hhorses := congrArg (fun data : DataDirector => data.horses horseUid) h
  have hcharacters := congrArg (fun data : DataDirector => (data.characters caller).map Character.carrots) h
  simp only [afterRecovery, Storage.write, characterStorage, horseStorage, Function.update_self, Option.map_some,
    Option.some.injEq] at hhorses hcharacters
  exact ⟨hhorses, hcharacters⟩

theorem final_handleRecoverMount (hcharacter : characterStorage.find lookups.character caller data = some character)
    (hhorse : horseStorage.find lookups.horse horseUid data = some horse)
    (howned : ownsHorse character horseUid = true) (hpositive : 0 < character.carrots) :
    (handleRecoverMount lookups caller horseUid).final data =
      afterRecovery caller horseUid character horse (staminaToRecover horse.mountCondition.stamina character.carrots)
        (character.carrots - staminaToRecover horse.mountCondition.stamina character.carrots) data := by
  have hallowed : (!ownsHorse character horseUid || character.carrots ≤ 0) = false := by
    simp [howned, Int32.not_le.2 hpositive]
  rw [handleRecoverMount, Storage.final_access, hcharacter]
  dsimp only
  simp only [recoverMount, Effect.final_bind_ok (Effect.get_apply _), hhorse, hallowed]
  rfl

/-- `RecoverMount` buys stamina exactly if the horse has no more than the maximum. -/
theorem recovered_iff (lookups : RecoverMountLookups) (caller horseUid : Uid) (data : DataDirector) :
    Recovered lookups caller horseUid data ↔ NotOverfull lookups caller horseUid data := by
  unfold Recovered NotOverfull
  refine forall₄_congr fun character hcharacter horse hhorse => forall₂_congr fun howned hpositive => ?_
  rw [final_handleRecoverMount hcharacter hhorse howned hpositive, ← recovers_iff hpositive]
  constructor
  · rintro ⟨points, carrots, hfinal, h⟩
    -- the records tell the points and the balance
    obtain ⟨hhorses, hcarrots⟩ := afterRecovery_inj hfinal
    rw [← hhorses, ← hcarrots] at h
    exact h
  · exact fun h => ⟨_, _, rfl, h⟩

/-- A character with some carrots, and a horse with some stamina. -/
def rider (stamina : UInt32) : DataDirector where
  characters uid := if uid = 1 then some { uid := 1, carrots := 500, mountUid := 7 } else none
  horses uid := if uid = 7 then some { uid := 7, mountCondition := { stamina := stamina } } else none

/-- A horse above the maximum loses 1000 points, and the character gets 1000 carrots. -/
theorem overfull_loses : ¬Recovered {} 1 7 (rider 5000) := by
  intro h
  obtain ⟨points, carrots, hfinal, hrecovers⟩ := h _ rfl _ rfl rfl (by decide)
  have hcarrots : (((handleRecoverMount {} 1 7).final (rider 5000)).characters 1).map Character.carrots = some carrots := by
    rw [hfinal]
    rfl
  have hbalance : carrots = 1500 := Option.some_inj.1 (hcarrots.symm.trans (by decide +kernel))
  exact absurd (hbalance ▸ hrecovers.paid) (by decide)

end Handler

end Alicia.Ranch
