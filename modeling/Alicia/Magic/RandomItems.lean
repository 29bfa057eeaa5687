import Alicia.Magic.Tracker
import Alicia.Number.Draws

/-!
# Random magic items

Which item a racer gets: one of the base items, by the weights for the place among the racers, or
its critical variant.  The base chance of a critical item is rolled for an item that has no critical
variant too, and such a roll asks for the slot of type zero.  Whether another racer is ahead is a
comparison of floats, and the place is taken as the exact quotient.
-/

namespace Alicia.Magic.RandomItem

open Std (ExtTreeMap)
open Data (Uid)
open Draws (Draw)

/-! ## The registry -/

structure WeighedSlot extends SlotInfo where
  teamMode : UInt32 := 0
  positionalWeights : Vector UInt32 8 := .replicate 8 0
  deriving DecidableEq

inductive MountStat where
  | agility
  | ambition
  | rush
  | endurance
  | courage
  deriving DecidableEq

/-- `Magic::StatScaling`, for the chance of a critical item. -/
structure StatScaling where
  stat : MountStat
  critStepBp : UInt32

/-- The registry that `ReadConfig` fills, with the slots in the order in which a loop over their map
meets them. -/
structure MagicRegistry where
  slots : List WeighedSlot
  nodup : (slots.map fun slot => slot.type).Nodup
  baseCritChanceBp : UInt32 := 500
  critChanceBonusBp : UInt32 := 1000
  statScalings : UInt32 → Option StatScaling := fun _ => none

namespace MagicRegistry

variable (registry : MagicRegistry)

/-- The base items with their weights for a position. -/
def getTeamPositionWeights (position : Nat) : List (WeighedSlot × UInt32) :=
  (registry.slots.filter fun slot => slot.basicType = slot.type).map fun slot =>
    (slot, slot.positionalWeights[position]?.getD 0)

def getSoloPositionWeights (position : Nat) : List (WeighedSlot × UInt32) :=
  (registry.getTeamPositionWeights position).filter fun entry => entry.1.teamMode = 0

def getSlotInfo (type : UInt32) : Except Failure WeighedSlot :=
  match registry.slots.find? fun slot => slot.type = type with
  | none => .error (.thrown "Magic slot not found")
  | some slot => .ok slot

def positionWeights (isTeam : Bool) (position : Nat) : List (WeighedSlot × UInt32) :=
  if isTeam then registry.getTeamPositionWeights position
  else registry.getSoloPositionWeights position

/-- The index that is drawn of the weights for a position. -/
def drawIndex (isTeam : Bool) (position : Nat) (draw : Draw) : Nat :=
  draw.index ((registry.positionWeights isTeam position).map fun entry => (entry.2.toNat : ℚ))

/-- `SelectMagicTypeByPosition`.  An index behind the weights is undefined. -/
def selectMagicTypeByPosition (position : Nat) (isTeam : Bool) (draw : Draw) :
    Except Failure WeighedSlot :=
  if 7 < position then .error (.thrown "Position must be between 0 and 7")
  else
    match (registry.positionWeights isTeam position)[registry.drawIndex isTeam position draw]? with
    | none => .error .undefined
    | some (slot, _) => .ok slot

end MagicRegistry

open MagicRegistry

/-! ## The racers -/

variable {Progress : Type}

variable (Progress) in
structure RankedRacer extends Racer where
  raceProgress : Progress
  mountStats : MountStat → UInt32 := fun _ => 0

def RankedRacer.isTeam (racer : RankedRacer Progress) : Bool :=
  racer.team = .red ∨ racer.team = .blue

variable [LT Progress] [DecidableLT Progress]

/-- The number of the other racers that are ahead. -/
def racerPosition (racers : ExtTreeMap Uid (RankedRacer Progress)) (racerUid : Uid)
    (racer : RankedRacer Progress) : Nat :=
  racers.toList.countP fun entry =>
    entry.1 ≠ racerUid ∧ racer.raceProgress < entry.2.raceProgress

def effectivePosition (racerPosition totalRacers : Nat) : Nat :=
  min 7 (if 1 < totalRacers then racerPosition * 7 / (totalRacers - 1) else racerPosition)

/-- The chance of a critical item. -/
def critChanceBp (registry : MagicRegistry) (racer : RankedRacer Progress) (slot : WeighedSlot) :
    UInt32 :=
  if slot.criticalType ≠ 0 then
    let scaled := match registry.statScalings slot.basicType with
      | none => registry.baseCritChanceBp
      | some scaling =>
        registry.baseCritChanceBp + scaling.critStepBp * (racer.mountStats scaling.stat / 10)
    if racer.activeSetEffect = .criticalSpellChance then scaled + registry.critChanceBonusBp
    else scaled
  else registry.baseCritChanceBp

/-- The roll, of ten thousand, is below a chance. -/
def isCritical (roll : Fin 10000) (chance : UInt32) : Bool :=
  (roll.val : Int) < chance.toInt32.toInt

def randomMagicItem (registry : MagicRegistry) (racers : ExtTreeMap Uid (RankedRacer Progress))
    (racerUid : Uid) (draw : Draw) (roll : Fin 10000) : Except Failure WeighedSlot := do
  match racers[racerUid]? with
  | none => throw (.thrown "Racer is not available")
  | some racer =>
    let position := effectivePosition (racerPosition racers racerUid racer) racers.size
    let slot ← registry.selectMagicTypeByPosition position racer.isTeam draw
    if isCritical roll (critChanceBp registry racer slot) then
      registry.getSlotInfo slot.criticalType
    else return slot

/-! ## Items that fit -/

/-- Every position has an item of positive weight, and the critical variants have slots. -/
structure MagicRegistry.Complete (registry : MagicRegistry) : Prop where
  weighs : ∀ isTeam, ∀ position ≤ 7,
    ∃ entry ∈ registry.positionWeights isTeam position, 0 < entry.2
  critical : ∀ slot ∈ registry.slots, slot.criticalType ≠ 0 →
    ∃ variant ∈ registry.slots, variant.type = slot.criticalType

/-- A base item of positive weight for a position, which is not for teams only if the racer has
no team. -/
structure MagicRegistry.IsBase (registry : MagicRegistry) (isTeam : Bool) (position : Nat)
    (slot : WeighedSlot) : Prop where
  mem : slot ∈ registry.slots
  basicType : slot.basicType = slot.type
  weight : 0 < slot.positionalWeights[position]?.getD 0
  solo : isTeam = false → slot.teamMode = 0

/-- A base item that fits, or the critical variant of one. -/
def MagicRegistry.Fits (registry : MagicRegistry) (isTeam : Bool) (position : Nat)
    (item : WeighedSlot) : Prop :=
  registry.IsBase isTeam position item ∨
    ∃ base, registry.IsBase isTeam position base ∧ base.criticalType ≠ 0 ∧
      item ∈ registry.slots ∧ item.type = base.criticalType

theorem MagicRegistry.isBase_iff (registry : MagicRegistry) (isTeam : Bool) (position : Nat)
    (slot : WeighedSlot) : registry.IsBase isTeam position slot ↔
      ∃ weight, (slot, weight) ∈ registry.positionWeights isTeam position ∧ 0 < weight := by
  have hteam (weight : UInt32) : (slot, weight) ∈ registry.getTeamPositionWeights position ↔
      (slot ∈ registry.slots ∧ slot.basicType = slot.type) ∧
        slot.positionalWeights[position]?.getD 0 = weight := by
    simp only [getTeamPositionWeights, List.mem_map, List.mem_filter, decide_eq_true_eq,
      Prod.mk.injEq]
    constructor
    · rintro ⟨_, hmem, rfl, hweight⟩
      exact ⟨hmem, hweight⟩
    · rintro ⟨hmem, hweight⟩
      exact ⟨slot, hmem, rfl, hweight⟩
  have hweights (weight : UInt32) : (slot, weight) ∈ registry.positionWeights isTeam position ↔
      ((slot ∈ registry.slots ∧ slot.basicType = slot.type) ∧
        slot.positionalWeights[position]?.getD 0 = weight) ∧
        (isTeam = false → slot.teamMode = 0) := by
    rw [positionWeights]
    cases isTeam with
    | true => simp only [if_true, hteam, reduceCtorEq, false_imp_iff, and_true]
    | false =>
      simp only [Bool.false_eq_true, if_false, getSoloPositionWeights, List.mem_filter, hteam,
        decide_eq_true_eq, true_imp_iff]
  constructor
  · rintro ⟨hmem, hbasic, hweight, hsolo⟩
    exact ⟨_, (hweights _).2 ⟨⟨⟨hmem, hbasic⟩, rfl⟩, hsolo⟩, hweight⟩
  · rintro ⟨weight, hentry, hpos⟩
    obtain ⟨⟨⟨hmem, hbasic⟩, rfl⟩, hsolo⟩ := (hweights weight).1 hentry
    exact ⟨hmem, hbasic, hpos, hsolo⟩

/-- With an item of positive weight, one is drawn. -/
theorem MagicRegistry.exists_select {registry : MagicRegistry} (hcomplete : registry.Complete)
    (isTeam : Bool) {position : Nat} (hposition : position ≤ 7) (draw : Draw) :
    ∃ slot, registry.selectMagicTypeByPosition position isTeam draw = .ok slot ∧
      registry.IsBase isTeam position slot := by
  obtain ⟨entry, hmem, hpos⟩ := hcomplete.weighs isTeam position hposition
  have hmap (weights : List (WeighedSlot × UInt32)) :
      (weights.map fun entry => (entry.2.toNat : ℚ)).length = weights.length := List.length_map _
  have hne : (registry.positionWeights isTeam position).map
      (fun entry => (entry.2.toNat : ℚ)) ≠ [] :=
    List.ne_nil_of_mem (List.mem_map_of_mem hmem)
  obtain ⟨hlt, hdrawn⟩ := draw.drawable _ hne
  have hpositive := hdrawn ⟨_, List.mem_map_of_mem hmem,
    Nat.cast_pos.2 (UInt32.lt_iff_toNat_lt.1 hpos)⟩
  rw [List.getD_eq_getElem _ _ hlt, List.getElem_map, Nat.cast_pos] at hpositive
  rw [hmap] at hlt
  refine ⟨_, ?_, (registry.isBase_iff ..).2 ⟨_, List.getElem_mem hlt,
    UInt32.lt_iff_toNat_lt.2 hpositive⟩⟩
  rw [selectMagicTypeByPosition, if_neg (Nat.not_lt.2 hposition), drawIndex,
    List.getElem?_eq_getElem hlt]
  rfl

theorem MagicRegistry.getSlotInfo_eq_ok {registry : MagicRegistry} {slot : WeighedSlot}
    (hmem : slot ∈ registry.slots) : registry.getSlotInfo slot.type = .ok slot := by
  have hfind : registry.slots.find? (fun other => other.type = slot.type) = some slot := by
    cases hfound : registry.slots.find? (fun other => other.type = slot.type) with
    | none =>
      exact absurd (List.find?_eq_none.1 hfound slot hmem) (by simp)
    | some found =>
      have htype : found.type = slot.type := by simpa using List.find?_some hfound
      exact congrArg some (List.inj_on_of_nodup_map registry.nodup
        (List.mem_of_find?_eq_some hfound) hmem htype)
  rw [getSlotInfo, hfind]

theorem MagicRegistry.eq_of_getSlotInfo {registry : MagicRegistry} {type : UInt32}
    {slot : WeighedSlot} (h : registry.getSlotInfo type = .ok slot) :
    slot ∈ registry.slots ∧ slot.type = type := by
  rw [getSlotInfo] at h
  split at h
  · cases h
  · rename_i hfind
    cases h
    exact ⟨List.mem_of_find?_eq_some hfind, by simpa using List.find?_some hfind⟩

/-- The place among `totalRacers` of a racer that has `racerPosition` others ahead, of eight. -/
def positionSlot (racerPosition totalRacers : Nat) : Nat :=
  if totalRacers = 1 then 0 else 7 * racerPosition / (totalRacers - 1)

theorem racerPosition_lt {racers : ExtTreeMap Uid (RankedRacer Progress)} {racerUid : Uid}
    {racer : RankedRacer Progress} (hracer : racers[racerUid]? = some racer) :
    racerPosition racers racerUid racer < racers.size := by
  have hmem : (racerUid, racer) ∈ racers.toList :=
    ExtTreeMap.mem_toList_iff_getElem?_eq_some.2 hracer
  rw [← ExtTreeMap.length_toList, racerPosition, List.countP_eq_length_filter]
  refine List.length_filter_lt_length_iff_exists.2 ⟨_, hmem, ?_⟩
  simp

theorem effectivePosition_eq {racerPosition totalRacers : Nat} (h : racerPosition < totalRacers) :
    effectivePosition racerPosition totalRacers = positionSlot racerPosition totalRacers ∧
      positionSlot racerPosition totalRacers ≤ 7 := by
  rw [effectivePosition, positionSlot]
  by_cases hone : totalRacers = 1
  · rw [if_neg (by omega), if_pos hone]
    omega
  · have hle : 7 * racerPosition / (totalRacers - 1) ≤ 7 :=
      Nat.div_le_of_le_mul (by rw [Nat.mul_comm]; exact Nat.mul_le_mul_right 7 (by omega))
    rw [if_pos (by omega), if_neg hone, Nat.mul_comm racerPosition]
    exact ⟨Nat.min_eq_right hle, hle⟩

/-- A roll below the base chance meets no item without a critical variant, or the slot of type zero
is a base item that fits. -/
def MagicRegistry.HasVariant (registry : MagicRegistry) (isTeam : Bool) (position : Nat)
    (draw : Draw) (roll : Fin 10000) : Prop :=
  ∀ slot weight, (registry.positionWeights isTeam position)[
      registry.drawIndex isTeam position draw]? = some (slot, weight) →
    slot.criticalType = 0 → isCritical roll registry.baseCritChanceBp →
    ∃ zero, zero.type = 0 ∧ registry.IsBase isTeam position zero

section Fits

variable {registry : MagicRegistry} {racers : ExtTreeMap Uid (RankedRacer Progress)}
variable {racerUid : Uid} {racer : RankedRacer Progress}

/-- The position of the weights for a racer. -/
def place (racers : ExtTreeMap Uid (RankedRacer Progress)) (racerUid : Uid)
    (racer : RankedRacer Progress) : Nat :=
  positionSlot (racerPosition racers racerUid racer) racers.size

theorem randomMagicItem_apply (hracer : racers[racerUid]? = some racer) {draw : Draw}
    (roll : Fin 10000) {slot : WeighedSlot}
    (hslot : registry.selectMagicTypeByPosition (place racers racerUid racer) racer.isTeam draw =
      .ok slot) :
    randomMagicItem registry racers racerUid draw roll =
      if isCritical roll (critChanceBp registry racer slot) then
        registry.getSlotInfo slot.criticalType
      else .ok slot := by
  rw [randomMagicItem, hracer]
  dsimp only
  rw [(effectivePosition_eq (racerPosition_lt hracer)).1]
  change Except.bind (registry.selectMagicTypeByPosition (place racers racerUid racer) _ draw) _ = _
  rw [hslot]
  rfl

/-- The registry as the race uses it. -/
def MagicRegistry.slotRegistry (registry : MagicRegistry) : Registry where
  slotInfo := registry.slots.map WeighedSlot.toSlotInfo
  soloPositionWeights position :=
    (registry.getSoloPositionWeights position).map fun entry => entry.1.toSlotInfo
  teamPositionWeights position :=
    (registry.getTeamPositionWeights position).map fun entry => entry.1.toSlotInfo

theorem getSlotInfo_slotRegistry (type : UInt32) :
    (registry.getSlotInfo type).map WeighedSlot.toSlotInfo =
      registry.slotRegistry.getSlotInfo type := by
  have hsame : (fun slot : SlotInfo => decide (slot.type = type)) ∘ WeighedSlot.toSlotInfo =
      fun slot => decide (slot.type = type) := rfl
  rw [getSlotInfo, Registry.getSlotInfo, slotRegistry, List.find?_map,
    hsame]
  cases registry.slots.find? fun slot => decide (slot.type = type) <;> rfl

/-- The item of the race model, for the place, the index and the verdict of these random
outcomes. -/
theorem randomMagicItem_eq (hracer : racers[racerUid]? = some racer) (draw : Draw)
    (roll : Fin 10000) : ∃ isCritical,
      (randomMagicItem registry racers racerUid draw roll).map WeighedSlot.toSlotInfo =
        Magic.randomMagicItem registry.slotRegistry racer.isTeam
          { position := place racers racerUid racer
            index := registry.drawIndex racer.isTeam (place racers racerUid racer) draw
            isCritical } := by
  obtain ⟨hplace, hle⟩ := effectivePosition_eq (racerPosition_lt hracer)
  have hposition : place racers racerUid racer ≤ 7 := hle
  have hweights (position : Nat) : (if racer.isTeam = true then
      registry.slotRegistry.teamPositionWeights position
      else registry.slotRegistry.soloPositionWeights position) =
        (registry.positionWeights racer.isTeam position).map fun entry => entry.1.toSlotInfo := by
    rw [positionWeights]
    split <;> rfl
  rw [randomMagicItem, hracer]
  dsimp only
  rw [hplace]
  change ∃ _, (Except.bind (registry.selectMagicTypeByPosition (place racers racerUid racer) _ draw)
    _).map _ = _
  rw [selectMagicTypeByPosition, if_neg (Nat.not_lt.2 hposition)]
  simp only [Magic.randomMagicItem, hweights, List.getElem?_map]
  cases (registry.positionWeights racer.isTeam (place racers racerUid racer))[
      registry.drawIndex racer.isTeam (place racers racerUid racer) draw]? with
  | none => exact ⟨false, rfl⟩
  | some entry =>
    refine ⟨isCritical roll (critChanceBp registry racer entry.1), ?_⟩
    change (if isCritical roll (critChanceBp registry racer entry.1) then _ else _ :
      Except Failure WeighedSlot).map _ = if _ then _ else _
    split
    · exact getSlotInfo_slotRegistry _
    · rfl

/-- `RandomMagicItem` returns an item that fits exactly if a critical roll finds a variant. -/
theorem fits_iff (hcomplete : registry.Complete) (hracer : racers[racerUid]? = some racer)
    (draw : Draw) (roll : Fin 10000) :
    (∃ item, randomMagicItem registry racers racerUid draw roll = .ok item ∧
      registry.Fits racer.isTeam (place racers racerUid racer) item) ↔
      registry.HasVariant racer.isTeam (place racers racerUid racer) draw roll := by
  have hposition : place racers racerUid racer ≤ 7 :=
    (effectivePosition_eq (racerPosition_lt hracer)).2
  obtain ⟨slot, hselect, hbase⟩ := MagicRegistry.exists_select hcomplete racer.isTeam
    hposition draw
  rw [randomMagicItem_apply hracer roll hselect]
  generalize place racers racerUid racer = position at *
  have hdrawn (other : WeighedSlot) (weight : UInt32)
      (h : (registry.positionWeights racer.isTeam position)[
        registry.drawIndex racer.isTeam position draw]? = some (other, weight)) : other = slot := by
    rw [MagicRegistry.selectMagicTypeByPosition, if_neg (Nat.not_lt.2 hposition), h] at hselect
    exact Except.ok.inj hselect
  have hentry : ∃ weight, (registry.positionWeights racer.isTeam position)[
      registry.drawIndex racer.isTeam position draw]? = some (slot, weight) := by
    rw [MagicRegistry.selectMagicTypeByPosition, if_neg (Nat.not_lt.2 hposition)] at hselect
    split at hselect
    · cases hselect
    · rename_i other weight hget
      cases hselect
      exact ⟨weight, hget⟩
  by_cases hcritical : slot.criticalType = 0
  · have hchance : critChanceBp registry racer slot = registry.baseCritChanceBp := by
      rw [critChanceBp, if_neg (not_not.2 hcritical)]
    rw [hchance, hcritical]
    by_cases hroll : isCritical roll registry.baseCritChanceBp
    · rw [if_pos hroll]
      constructor
      · rintro ⟨item, hitem, hfits⟩
        obtain ⟨hmem, htype⟩ := MagicRegistry.eq_of_getSlotInfo hitem
        refine fun _ _ _ _ _ => ⟨item, htype, ?_⟩
        exact hfits.resolve_right fun ⟨_, _, hne, _, heq⟩ => hne (heq.symm.trans htype)
      · intro h
        obtain ⟨weight, hget⟩ := hentry
        obtain ⟨zero, htype, hzero⟩ := h slot weight hget hcritical hroll
        exact ⟨zero, htype ▸ MagicRegistry.getSlotInfo_eq_ok hzero.mem, .inl hzero⟩
    · rw [if_neg hroll]
      exact iff_of_true ⟨slot, rfl, .inl hbase⟩ fun _ _ _ _ h => absurd h hroll
  · refine iff_of_true ?_ fun other weight hget hzero _ =>
      absurd (hdrawn other weight hget ▸ hzero) hcritical
    split
    · obtain ⟨variant, hmem, htype⟩ := hcomplete.critical slot hbase.mem hcritical
      exact ⟨variant, htype ▸ MagicRegistry.getSlotInfo_eq_ok hmem,
        .inr ⟨slot, hbase, hcritical, hmem, htype⟩⟩
    · exact ⟨slot, rfl, .inl hbase⟩

end Fits

/-- A racer of no team. -/
def soleRacer : RankedRacer Nat where
  raceProgress := 0

def soleRacers : ExtTreeMap Uid (RankedRacer Nat) :=
  (∅ : ExtTreeMap Uid (RankedRacer Nat)).insert 1 soleRacer

theorem getElem?_soleRacers : soleRacers[(1 : Uid)]? = some soleRacer :=
  ExtTreeMap.getElem?_insert_self

/-- A base item without a critical variant. -/
def plainSlot : WeighedSlot where
  type := 27
  basicType := 27
  positionalWeights := .replicate 8 1

def plainRegistry : MagicRegistry where
  slots := [plainSlot]
  nodup := List.nodup_singleton _

theorem complete_plainRegistry : plainRegistry.Complete where
  weighs isTeam position hposition := by
    refine ⟨(plainSlot, 1), ?_, by decide⟩
    have hbase : ∀ isTeam, ∀ position < 8,
        (plainSlot, 1) ∈ plainRegistry.positionWeights isTeam position := by
      decide
    exact hbase isTeam position (by omega)
  critical := by decide

theorem fits_iff_plain : ∃ item,
    randomMagicItem plainRegistry soleRacers 1 .first 9999 = .ok item ∧
      plainRegistry.Fits soleRacer.isTeam (place soleRacers 1 soleRacer) item :=
  (fits_iff complete_plainRegistry getElem?_soleRacers .first 9999).2
    fun _ _ _ _ h => absurd h (by decide)

/-- A critical roll for an item that has no critical variant asks for the slot of type zero. -/
theorem critical_roll_throws :
    ¬ ∃ item, randomMagicItem plainRegistry soleRacers 1 .first 0 = .ok item := by
  obtain ⟨slot, hselect, hbase⟩ := MagicRegistry.exists_select complete_plainRegistry
    soleRacer.isTeam (effectivePosition_eq (racerPosition_lt getElem?_soleRacers)).2 .first
  obtain rfl : slot = plainSlot := List.mem_singleton.1 hbase.mem
  rw [randomMagicItem_apply getElem?_soleRacers 0 hselect, if_pos (by decide)]
  rintro ⟨item, hitem⟩
  obtain ⟨hmem, htype⟩ := MagicRegistry.eq_of_getSlotInfo hitem
  obtain rfl := List.mem_singleton.1 hmem
  exact absurd htype (by decide)

end Alicia.Magic.RandomItem
