import Alicia.Data.Definitions
import Alicia.Number.Apportion
import Mathlib.Data.Rat.Floor

/-!
# The stats of a foal

A foal gets the averages of its parents with a small mutation.  They are scaled to a total of the bucket of its
grade.  Stats that are all zero cannot be scaled, and the cap of a stat takes from a total that is large.
-/

namespace Alicia.Genetics

open Apportion List
open Data (Horse)

/-! ## The calculation -/

/-- The random outcomes for one stat.  Only one of the two is used. -/
structure StatRoll where
  bonus : Fin 4 := 0
  offset : Int := 0
  offset_mem : -3 ≤ offset ∧ offset ≤ 3 := by decide

/-- The least total of a grade, where grades start at 1. -/
def minTotal (targetGrade : UInt8) : Nat := (targetGrade.toNat - 1) * 10

def maxTotal (targetGrade : UInt8) : Nat := targetGrade.toNat * 10 - 1

/-- The random outcomes for a foal. -/
structure FoalRoll (targetGrade : UInt8) where
  targetTotal : Nat
  total_mem : minTotal targetGrade ≤ targetTotal ∧ targetTotal ≤ maxTotal targetGrade
  agility : StatRoll := {}
  courage : StatRoll := {}
  rush : StatRoll := {}
  endurance : StatRoll := {}
  ambition : StatRoll := {}

/-- The average of the parents.  A very low one gets a bonus. -/
def calcBaseStat (mareStat stallionStat : UInt32) (roll : StatRoll) : Nat :=
  let avgStat := ((mareStat + stallionStat) / 2).toNat
  if avgStat ≤ 2 then min (avgStat + roll.bonus.val) 100
  else (max 0 (min 100 ((avgStat : Int) + roll.offset))).toNat

/-- The index of `std::max_element`. -/
def maxElement (stats : List Nat) : Nat := stats.findIdx fun stat => stats.all fun other => other ≤ stat

/-- Scale the stats so that their sum lands in the bucket of the grade.  The largest absorbs the remainder. -/
def scaleStats (targetTotal : Nat) (stats : List Nat) : List Nat :=
  let currentTotal := stats.sum
  if currentTotal ≠ targetTotal ∧ 0 < currentTotal then
    let scale : ℚ := (targetTotal : ℚ) / (currentTotal : ℚ)
    let scaled := stats.map fun stat : Nat => ⌊(stat : ℚ) * scale⌋.toNat
    let difference := (targetTotal : Int) - (scaled.sum : Int)
    let absorbed :=
      if difference ≠ 0 then scaled.modify (maxElement scaled) fun largest : Nat => ((largest : Int) + difference).toNat
      else scaled
    absorbed.map fun stat : Nat => min stat 100
  else stats

def baseStats (mareStats stallionStats : Horse.Stats) {targetGrade : UInt8} (roll : FoalRoll targetGrade) : List Nat :=
  [calcBaseStat mareStats.agility stallionStats.agility roll.agility,
    calcBaseStat mareStats.courage stallionStats.courage roll.courage,
    calcBaseStat mareStats.rush stallionStats.rush roll.rush,
    calcBaseStat mareStats.endurance stallionStats.endurance roll.endurance,
    calcBaseStat mareStats.ambition stallionStats.ambition roll.ambition]

/-- `CalculateFoalStats`. -/
def calculateFoalStats (mareStats stallionStats : Horse.Stats) (targetGrade : UInt8) (roll : FoalRoll targetGrade) :
    Horse.Stats :=
  let stats := scaleStats roll.targetTotal (baseStats mareStats stallionStats roll)
  { agility := UInt32.ofNat (stats.getD 0 0)
    courage := UInt32.ofNat (stats.getD 1 0)
    rush := UInt32.ofNat (stats.getD 2 0)
    endurance := UInt32.ofNat (stats.getD 3 0)
    ambition := UInt32.ofNat (stats.getD 4 0) }

/-! ## The scaled stats -/

/-- The scaling apportions the total, and caps the shares. -/
theorem scaleStats_pos {stats : List Nat} {targetTotal : Nat} (hne : stats.sum ≠ targetTotal) (hpos : 0 < stats.sum) :
    scaleStats targetTotal stats = (apportion targetTotal stats).map fun stat => min stat 100 := by
  have hscaled : (stats.map fun stat : Nat => ⌊(stat : ℚ) * ((targetTotal : ℚ) / (stats.sum : ℚ))⌋.toNat) =
      shares targetTotal stats := by
    refine map_congr_left fun stat _ => ?_
    rw [← mul_div_assoc, ← Nat.cast_mul, Rat.floor_natCast_div_natCast]
    rfl
  have hle := @sum_shares_le targetTotal _ hpos
  rw [scaleStats, if_pos ⟨hne, hpos⟩]
  dsimp only
  rw [hscaled, apportion]
  congr 1
  split
  · rw [absorb]
    refine congrArg (fun change => (shares targetTotal stats).modify _ change) (funext fun largest => ?_)
    omega
  · next hnone =>
      have hzero : targetTotal - (shares targetTotal stats).sum = 0 := by omega
      rw [hzero, absorb_zero]

section Scaled

variable {stats : List Nat} {targetTotal : Nat}

theorem scaleStats_zero (h : stats.sum = 0) : scaleStats targetTotal stats = stats :=
  if_neg fun hscale => absurd hscale.2 (h ▸ Nat.lt_irrefl 0)

theorem scaleStats_self (h : stats.sum = targetTotal) : scaleStats targetTotal stats = stats :=
  if_neg fun hscale => hscale.1 h

theorem length_scaleStats (targetTotal : Nat) (stats : List Nat) :
    (scaleStats targetTotal stats).length = stats.length := by
  by_cases hself : stats.sum = targetTotal
  · rw [scaleStats_self hself]
  rcases Nat.eq_zero_or_pos stats.sum with hzero | hpos
  · rw [scaleStats_zero hzero]
  · rw [scaleStats_pos hself hpos, length_map, length_apportion]

/-- Stats within the cap stay within it. -/
theorem scaleStats_le (h : ∀ stat ∈ stats, stat ≤ 100) : ∀ stat ∈ scaleStats targetTotal stats, stat ≤ 100 := by
  by_cases hself : stats.sum = targetTotal
  · rwa [scaleStats_self hself]
  rcases Nat.eq_zero_or_pos stats.sum with hzero | hpos
  · rwa [scaleStats_zero hzero]
  · rw [scaleStats_pos hself hpos]
    intro stat hstat
    obtain ⟨share, -, rfl⟩ := mem_map.1 hstat
    exact Nat.min_le_right share 100

/-- The scaled stats miss the total by what the cap cuts off. -/
theorem sum_scaleStats (h : ∀ stat ∈ stats, stat ≤ 100) (hpos : 0 < stats.sum) :
    (scaleStats targetTotal stats).sum + excess 100 (apportion targetTotal stats) = targetTotal := by
  by_cases hself : stats.sum = targetTotal
  · have hnone : excess 100 stats = 0 := by
      refine sum_eq_zero fun cut hcut => ?_
      obtain ⟨stat, hstat, rfl⟩ := mem_map.1 hcut
      exact Nat.sub_eq_zero_of_le (h stat hstat)
    rw [scaleStats_self hself, ← hself, apportion_self hpos, hnone]
    rfl
  · rw [scaleStats_pos hself hpos, sum_capped_add_excess, sum_apportion targetTotal hpos]

end Scaled

/-! ## The bucket of the grade -/

section Bucket

variable {mareStats stallionStats : Horse.Stats} {targetGrade : UInt8} {roll : FoalRoll targetGrade}

def statSum (stats : Horse.Stats) : Nat :=
  stats.agility.toNat + stats.courage.toNat + stats.rush.toNat + stats.endurance.toNat + stats.ambition.toNat

/-- Every stat is within the cap, and their sum is in the bucket of the grade. -/
structure InBucket (targetGrade : UInt8) (stats : Horse.Stats) : Prop where
  capped : ∀ stat ∈ [stats.agility, stats.courage, stats.rush, stats.endurance, stats.ambition], stat.toNat ≤ 100
  low : 10 * (targetGrade.toNat - 1) ≤ statSum stats
  high : statSum stats ≤ 10 * targetGrade.toNat - 1

/-- The outcome for a stat is nothing: an average of zero without a bonus, or one of three with the whole offset
taken from it. -/
def Barren (mareStat stallionStat : UInt32) (roll : StatRoll) : Prop :=
  ((mareStat + stallionStat) / 2).toNat = 0 ∧ roll.bonus = 0 ∨
    ((mareStat + stallionStat) / 2).toNat = 3 ∧ roll.offset = -3

theorem calcBaseStat_eq_zero (mareStat stallionStat : UInt32) (roll : StatRoll) :
    calcBaseStat mareStat stallionStat roll = 0 ↔ Barren mareStat stallionStat roll := by
  have hoffset := roll.offset_mem
  have hbonus : roll.bonus = 0 ↔ roll.bonus.val = 0 := Fin.ext_iff
  rw [calcBaseStat, Barren, hbonus]
  generalize ((mareStat + stallionStat) / 2).toNat = avgStat
  split
  · omega
  · omega

theorem calcBaseStat_le (mareStat stallionStat : UInt32) (roll : StatRoll) :
    calcBaseStat mareStat stallionStat roll ≤ 100 := by
  rw [calcBaseStat]
  split
  · exact Nat.min_le_right _ 100
  · omega

theorem baseStats_le : ∀ stat ∈ baseStats mareStats stallionStats roll, stat ≤ 100 := by
  simp only [baseStats, forall_mem_cons]
  exact ⟨calcBaseStat_le _ _ _, calcBaseStat_le _ _ _, calcBaseStat_le _ _ _, calcBaseStat_le _ _ _,
    calcBaseStat_le _ _ _, forall_mem_nil _⟩

/-- Nothing comes of any stat. -/
structure AllBarren (mareStats stallionStats : Horse.Stats) (roll : FoalRoll targetGrade) : Prop where
  agility : Barren mareStats.agility stallionStats.agility roll.agility
  courage : Barren mareStats.courage stallionStats.courage roll.courage
  rush : Barren mareStats.rush stallionStats.rush roll.rush
  endurance : Barren mareStats.endurance stallionStats.endurance roll.endurance
  ambition : Barren mareStats.ambition stallionStats.ambition roll.ambition

theorem sum_baseStats_eq_zero :
    (baseStats mareStats stallionStats roll).sum = 0 ↔ AllBarren mareStats stallionStats roll := by
  simp only [baseStats, sum_cons, sum_nil, Nat.add_eq_zero_iff, calcBaseStat_eq_zero]
  constructor
  · rintro ⟨hagility, hcourage, hrush, hendurance, hambition, -⟩
    exact ⟨hagility, hcourage, hrush, hendurance, hambition⟩
  · rintro ⟨hagility, hcourage, hrush, hendurance, hambition⟩
    exact ⟨hagility, hcourage, hrush, hendurance, hambition, trivial⟩

/-- The foal has the scaled stats. -/
theorem calculateFoalStats_spec : ∃ agility courage rush endurance ambition : Nat,
    scaleStats roll.targetTotal (baseStats mareStats stallionStats roll) =
        [agility, courage, rush, endurance, ambition] ∧
      calculateFoalStats mareStats stallionStats targetGrade roll =
        { agility := UInt32.ofNat agility, courage := UInt32.ofNat courage, rush := UInt32.ofNat rush,
          endurance := UInt32.ofNat endurance, ambition := UInt32.ofNat ambition } := by
  have hlength := length_scaleStats roll.targetTotal (baseStats mareStats stallionStats roll)
  rw [calculateFoalStats]
  generalize scaleStats roll.targetTotal (baseStats mareStats stallionStats roll) = stats at hlength ⊢
  match stats, hlength with
  | [agility, courage, rush, endurance, ambition], _ =>
    exact ⟨agility, courage, rush, endurance, ambition, rfl, rfl⟩

/-- The stats of the foal are within the cap, and add up to what the scaled ones do. -/
theorem statSum_calculateFoalStats (mareStats stallionStats : Horse.Stats) (roll : FoalRoll targetGrade) :
    (∀ stat ∈ [(calculateFoalStats mareStats stallionStats targetGrade roll).agility,
        (calculateFoalStats mareStats stallionStats targetGrade roll).courage,
        (calculateFoalStats mareStats stallionStats targetGrade roll).rush,
        (calculateFoalStats mareStats stallionStats targetGrade roll).endurance,
        (calculateFoalStats mareStats stallionStats targetGrade roll).ambition], stat.toNat ≤ 100) ∧
      statSum (calculateFoalStats mareStats stallionStats targetGrade roll) =
        (scaleStats roll.targetTotal (baseStats mareStats stallionStats roll)).sum := by
  obtain ⟨agility, courage, rush, endurance, ambition, hscaled, hfoal⟩ :=
    @calculateFoalStats_spec mareStats stallionStats targetGrade roll
  have hcapped := @scaleStats_le _ roll.targetTotal
    (@baseStats_le mareStats stallionStats targetGrade roll)
  rw [hscaled] at hcapped
  have hword : ∀ stat ∈ [agility, courage, rush, endurance, ambition], (UInt32.ofNat stat).toNat = stat :=
    fun stat hstat => UInt32.toNat_ofNat_of_lt' (Nat.lt_of_le_of_lt (hcapped stat hstat) (by decide))
  simp only [forall_mem_cons] at hcapped hword
  obtain ⟨hagilityLe, hcourageLe, hrushLe, henduranceLe, hambitionLe, -⟩ := hcapped
  obtain ⟨hagility, hcourage, hrush, hendurance, hambition, -⟩ := hword
  rw [hscaled, hfoal, statSum]
  dsimp only
  simp only [forall_mem_cons, sum_cons, sum_nil]
  rw [hagility, hcourage, hrush, hendurance, hambition]
  exact ⟨⟨hagilityLe, hcourageLe, hrushLe, henduranceLe, hambitionLe, forall_mem_nil _⟩, by omega⟩

/-- Where the stats can be scaled to the bucket: something comes of one of them, unless the bucket starts at zero,
and above grade 10 the cap cuts off no more than the total is above the start of the bucket. -/
structure Scalable (mareStats stallionStats : Horse.Stats) (roll : FoalRoll targetGrade) : Prop where
  fertile : AllBarren mareStats stallionStats roll → targetGrade = 1
  kept : 10 < targetGrade →
    excess 100 (apportion roll.targetTotal (baseStats mareStats stallionStats roll)) ≤
      roll.targetTotal - minTotal targetGrade

/-- A total of at most 100 loses nothing to the cap. -/
theorem kept_of_le (hpos : 0 < (baseStats mareStats stallionStats roll).sum) (h : roll.targetTotal ≤ 100) :
    excess 100 (apportion roll.targetTotal (baseStats mareStats stallionStats roll)) = 0 :=
  excess_eq_zero ((sum_apportion roll.targetTotal hpos).trans_le h)

theorem scalable_of_inBucket (hgrade : 1 ≤ targetGrade)
    (h : InBucket targetGrade (calculateFoalStats mareStats stallionStats targetGrade roll)) :
    Scalable mareStats stallionStats roll := by
  have hone : 1 ≤ targetGrade.toNat := UInt8.le_iff_toNat_le.1 hgrade
  have hlow := h.low
  rw [(statSum_calculateFoalStats mareStats stallionStats roll).2] at hlow
  have hfertile : AllBarren mareStats stallionStats roll → targetGrade = 1 := by
    intro hbarren
    have hzero := sum_baseStats_eq_zero.2 hbarren
    rw [scaleStats_zero hzero, hzero] at hlow
    refine UInt8.toNat_inj.1 (Nat.le_antisymm ?_ hone)
    have hlit : (1 : UInt8).toNat = 1 := rfl
    omega
  refine ⟨hfertile, fun hlarge => ?_⟩
  have hten : 10 < targetGrade.toNat := UInt8.lt_iff_toNat_lt.1 hlarge
  have hpos : 0 < (baseStats mareStats stallionStats roll).sum := by
    refine Nat.pos_of_ne_zero fun hzero => ?_
    rw [hfertile (sum_baseStats_eq_zero.1 hzero)] at hten
    exact absurd hten (by decide)
  have hsum := @sum_scaleStats _ roll.targetTotal baseStats_le hpos
  rw [minTotal]
  omega

theorem inBucket_of_scalable (h : Scalable mareStats stallionStats roll) :
    InBucket targetGrade (calculateFoalStats mareStats stallionStats targetGrade roll) := by
  obtain ⟨hcapped, hstats⟩ := statSum_calculateFoalStats mareStats stallionStats roll
  obtain ⟨hmin, hmax⟩ := roll.total_mem
  rw [minTotal] at hmin
  rw [maxTotal] at hmax
  rcases Nat.eq_zero_or_pos (baseStats mareStats stallionStats roll).sum with hzero | hpos
  · rw [scaleStats_zero hzero, hzero] at hstats
    have hone : targetGrade.toNat = 1 := congrArg UInt8.toNat (h.fertile (sum_baseStats_eq_zero.1 hzero))
    exact ⟨hcapped, by omega, by omega⟩
  · have hsum := @sum_scaleStats _ roll.targetTotal baseStats_le hpos
    have hkept : excess 100 (apportion roll.targetTotal (baseStats mareStats stallionStats roll)) ≤
        roll.targetTotal - (targetGrade.toNat - 1) * 10 := by
      by_cases hlarge : 10 < targetGrade
      · exact h.kept hlarge
      · have hten : targetGrade.toNat ≤ 10 := UInt8.le_iff_toNat_le.1 (UInt8.not_lt.1 hlarge)
        rw [kept_of_le hpos (by omega)]
        exact Nat.zero_le _
    exact ⟨hcapped, by omega, by omega⟩

/-- The stats of a foal are in the bucket of its grade exactly where they can be scaled to it. -/
theorem foalStats_inBucket_iff (mareStats stallionStats : Horse.Stats) (targetGrade : UInt8)
    (roll : FoalRoll targetGrade) (hgrade : 1 ≤ targetGrade) :
    InBucket targetGrade (calculateFoalStats mareStats stallionStats targetGrade roll) ↔
      Scalable mareStats stallionStats roll :=
  ⟨scalable_of_inBucket hgrade, inBucket_of_scalable⟩

end Bucket

/-! ### Parents with some courage -/

def bold : Horse.Stats := { courage := 12 }

/-- A total of 15 for a foal of grade 2. -/
def secondGrade : FoalRoll 2 where
  targetTotal := 15
  total_mem := by decide

theorem foalStats_inBucket_bold : InBucket 2 (calculateFoalStats bold bold 2 secondGrade) :=
  (foalStats_inBucket_iff bold bold 2 secondGrade (by decide)).2
    ⟨fun h => absurd (sum_baseStats_eq_zero.2 h) (by decide), fun h => absurd h (by decide)⟩

/-- Parents without any stats, and no bonus. -/
theorem foalStats_all_zero : ¬InBucket 2 (calculateFoalStats {} {} 2 secondGrade) :=
  fun h => absurd ((scalable_of_inBucket (by decide) h).fertile (sum_baseStats_eq_zero.1 (by decide))) (by decide)

end Alicia.Genetics
