import Alicia.Number.Climb
import Alicia.Registry.Horses
import Mathlib.Data.UInt

/-!
# Class progress

The class of a horse is cached beside the experience that it has gained in all.  However the experience of a
number of races is added up before it is applied, the class and the growth points come out the same.  The class
is the highest one whose experience is reached, unless the horse had a higher one before.
-/

namespace Alicia.Growth

open Climb Registry UInt32 List
open Data (Horse)

/-! ## The loop as a climb -/

/-- The experience for a level is reached. -/
def Reached (points : LevelUpPoints) (clazzProgress : UInt32) (level : Nat) : Prop :=
  points.getCumulativeClassExp (UInt32.ofNat level) ≤ clazzProgress

instance (points : LevelUpPoints) (clazzProgress : UInt32) : DecidablePred (Reached points clazzProgress) :=
  fun _ => inferInstanceAs (Decidable (_ ≤ _))

theorem Reached.mono {points : LevelUpPoints} {first second : UInt32} (h : first ≤ second) (level : Nat) :
    Reached points first level → Reached points second level :=
  fun hreached => UInt32.le_trans hreached h

/-- The growth points that come with the levels up to a level: one for each, and one more for the last. -/
def worth (level : UInt32) : UInt32 := level + if level = maxClass then 1 else 0

theorem worth_next {level : UInt32} (h : level < maxClass) :
    worth (level + 1) = worth level + levelGrowthPoints (level + 1) := by
  rw [worth, worth, levelGrowthPoints, if_neg (UInt32.ne_of_lt h)]
  split <;> grind

theorem toNat_next {level : UInt32} (h : level < maxClass) : (level + 1).toNat = level.toNat + 1 := by
  have hlt : level.toNat < 30 := UInt32.lt_iff_toNat_lt.1 h
  rw [UInt32.toNat_add]
  exact Nat.mod_eq_of_lt (by omega : level.toNat + 1 < 4294967296)

section Advance

variable (points : LevelUpPoints) (clazzProgress level growthPoints : UInt32)

theorem advance_level : (points.advance clazzProgress level growthPoints).1.toNat =
    climb (Reached points clazzProgress) 30 level.toNat := by
  fun_induction points.advance clazzProgress level growthPoints with
  | case1 level growthPoints h ih =>
    rw [ih, toNat_next h.1]
    refine (climb_next (UInt32.lt_iff_toNat_lt.1 h.1) ?_).symm
    rw [Reached, UInt32.ofNat_add, UInt32.ofNat_toNat]
    exact h.2
  | case2 level growthPoints h =>
    refine (climb_stop fun hnext => h ⟨UInt32.lt_iff_toNat_lt.2 hnext.1, ?_⟩).symm
    have hreached := hnext.2
    rw [Reached, UInt32.ofNat_add, UInt32.ofNat_toNat] at hreached
    exact hreached

theorem advance_growthPoints : (points.advance clazzProgress level growthPoints).2 + worth level =
    growthPoints + worth (points.advance clazzProgress level growthPoints).1 := by
  fun_induction points.advance clazzProgress level growthPoints with
  | case1 level growthPoints h ih =>
    have hnext := worth_next h.1
    grind
  | case2 level growthPoints h => rfl

end Advance

/-! ## One application -/

section Apply

variable {points : LevelUpPoints} {horse : Horse}

/-- The horse has a class. -/
def Classed (horse : Horse) : Prop := 1 ≤ horse.clazz ∧ horse.clazz ≤ maxClass

theorem max_of_classed (h : Classed horse) : max horse.clazz 1 = horse.clazz := by
  have hmax : max horse.clazz 1 = if horse.clazz ≤ 1 then 1 else horse.clazz := rfl
  rw [hmax]
  split
  · next hle => exact UInt32.le_antisymm h.1 hle
  · rfl

theorem applyClassProgress_top (h : Classed horse) (htop : horse.clazz = maxClass) (gainedExp : UInt32) :
    points.applyClassProgress horse gainedExp = horse := by
  rw [LevelUpPoints.applyClassProgress, max_of_classed h]
  exact if_pos (UInt32.le_of_eq htop.symm)

theorem applyClassProgress_below (h : Classed horse) (hbelow : horse.clazz ≠ maxClass) (gainedExp : UInt32) :
    points.applyClassProgress horse gainedExp = { horse with
      clazzProgress := horse.clazzProgress + gainedExp
      clazz := (points.advance (horse.clazzProgress + gainedExp) horse.clazz horse.growthPoints).1
      growthPoints := (points.advance (horse.clazzProgress + gainedExp) horse.clazz horse.growthPoints).2 } := by
  rw [LevelUpPoints.applyClassProgress, max_of_classed h]
  exact if_neg fun hle => hbelow (UInt32.le_antisymm h.2 hle)

theorem toNat_le_top (h : Classed horse) : horse.clazz.toNat ≤ 30 := le_iff_toNat_le.1 h.2

/-- The class is where the climb ends that starts at the class before. -/
theorem clazz_applyClassProgress (h : Classed horse) (gainedExp : UInt32) :
    (points.applyClassProgress horse gainedExp).clazz.toNat =
      climb (Reached points (horse.clazzProgress + gainedExp)) 30 horse.clazz.toNat := by
  by_cases htop : horse.clazz = maxClass
  · rw [applyClassProgress_top h htop, htop]
    exact climb_top.symm
  · rw [applyClassProgress_below h htop]
    exact advance_level points _ _ _

theorem growthPoints_applyClassProgress (h : Classed horse) (gainedExp : UInt32) :
    (points.applyClassProgress horse gainedExp).growthPoints + worth horse.clazz =
      horse.growthPoints + worth (points.applyClassProgress horse gainedExp).clazz := by
  by_cases htop : horse.clazz = maxClass
  · rw [applyClassProgress_top h htop]
  · rw [applyClassProgress_below h htop]
    exact advance_growthPoints points _ _ _

theorem classed_applyClassProgress (h : Classed horse) (gainedExp : UInt32) :
    Classed (points.applyClassProgress horse gainedExp) := by
  have hclazz := @clazz_applyClassProgress points _ h gainedExp
  have hlow := le_climb (Reached points (horse.clazzProgress + gainedExp)) 30 horse.clazz.toNat
  have hhigh := @climb_le (Reached points (horse.clazzProgress + gainedExp)) _ _ _ (toNat_le_top h)
  have hone := le_iff_toNat_le.1 h.1
  refine ⟨le_iff_toNat_le.2 ?_, le_iff_toNat_le.2 ?_⟩
  · exact hclazz ▸ Nat.le_trans hone hlow
  · exact hclazz ▸ hhigh

end Apply

/-! ## A list of gains -/

section Gains

variable (points : LevelUpPoints)

/-- Progress with a later sum is no less, as long as it fits. -/
theorem le_add_of_fits {progress gain rest : UInt32} (h : progress.toNat + gain.toNat + rest.toNat < 4294967296) :
    progress + gain ≤ progress + (gain + rest) := by
  rw [UInt32.le_iff_toNat_le, ← UInt32.add_assoc, UInt32.toNat_add (progress + gain), UInt32.toNat_add progress]
  omega

theorem toNat_sum_le (gains : List UInt32) : gains.sum.toNat ≤ (gains.map UInt32.toNat).sum := by
  induction gains with
  | nil => exact Nat.le_refl 0
  | cons gain rest ih =>
    rw [sum_cons, map_cons, sum_cons, UInt32.toNat_add]
    exact Nat.le_trans (Nat.mod_le _ _) (Nat.add_le_add_left ih _)

/-- The climb of the first gain goes on with the others. -/
theorem clazz_foldl (rest : List UInt32) : ∀ (horse : Horse) (gain : UInt32), Classed horse →
    horse.clazzProgress.toNat + gain.toNat + (rest.map UInt32.toNat).sum < 4294967296 →
    (rest.foldl points.applyClassProgress (points.applyClassProgress horse gain)).clazz.toNat =
      climb (Reached points (horse.clazzProgress + (gain + rest.sum))) 30 horse.clazz.toNat := by
  induction rest with
  | nil =>
    intro horse gain hclassed hfits
    rw [sum_nil, UInt32.add_zero]
    exact clazz_applyClassProgress hclassed gain
  | cons next rest ih =>
    intro horse gain hclassed hfits
    rw [map_cons, sum_cons] at hfits
    have hclazz := @clazz_applyClassProgress points _ hclassed gain
    have hnext := @classed_applyClassProgress points _ hclassed gain
    by_cases htop : horse.clazz = maxClass
    · rw [foldl_cons, applyClassProgress_top hclassed htop gain]
      refine (ih horse next hclassed (by omega)).trans ?_
      rw [htop]
      exact climb_top.trans climb_top.symm
    · have hprogress : (points.applyClassProgress horse gain).clazzProgress = horse.clazzProgress + gain := by
        rw [applyClassProgress_below hclassed htop]
      have hsum := toNat_sum_le (next :: rest)
      rw [map_cons, sum_cons (l := rest.map UInt32.toNat)] at hsum
      refine (ih _ next hnext ?_).trans ?_
      · rw [hprogress, UInt32.toNat_add]
        omega
      · rw [hprogress, hclazz, UInt32.add_assoc, ← sum_cons]
        refine climb_climb (Reached.mono (le_add_of_fits ?_)) 30 _
        omega

theorem growthPoints_foldl (gains : List UInt32) : ∀ horse : Horse, Classed horse →
    (gains.foldl points.applyClassProgress horse).growthPoints + worth horse.clazz =
      horse.growthPoints + worth (gains.foldl points.applyClassProgress horse).clazz := by
  induction gains with
  | nil => exact fun _ _ => rfl
  | cons gain rest ih =>
    intro horse hclassed
    have hfirst := @growthPoints_applyClassProgress points _ hclassed gain
    have hrest := ih _ (@classed_applyClassProgress points _ hclassed gain)
    rw [foldl_cons]
    grind

end Gains

/-! ## The highest class reached -/

section Highest

variable {points : LevelUpPoints}

/-- The highest class, up to the last, whose experience is reached. -/
def highestClass (points : LevelUpPoints) (clazzProgress : UInt32) : Nat :=
  Nat.findGreatest (Reached points clazzProgress) 30

/-- The experience for a level, without a bound. -/
def requirement (points : LevelUpPoints) (level : Nat) : Nat :=
  min (level - 1) 10 * points.base.toUInt32.toNat + min (level - 11) 10 * points.exp10.toUInt32.toNat +
    (level - 21) * points.exp20.toUInt32.toNat

/-- The experience for the last class fits 32 bits. -/
def Fits (points : LevelUpPoints) : Prop := requirement points 30 < 4294967296

instance (points : LevelUpPoints) : Decidable (Fits points) := inferInstanceAs (Decidable (_ < _))

theorem requirement_mono (points : LevelUpPoints) {low high : Nat} (h : low ≤ high) :
    requirement points low ≤ requirement points high := by
  have hbase : min (low - 1) 10 ≤ min (high - 1) 10 := by omega
  have hexp10 : min (low - 11) 10 ≤ min (high - 11) 10 := by omega
  have hexp20 : low - 21 ≤ high - 21 := by omega
  exact Nat.add_le_add (Nat.add_le_add (Nat.mul_le_mul_right _ hbase) (Nat.mul_le_mul_right _ hexp10))
    (Nat.mul_le_mul_right _ hexp20)

theorem ofNat_le_ten {n : Nat} (h : n < 4294967296) : ofNat n ≤ 10 ↔ n ≤ 10 :=
  ofNat_le_iff_le h (by decide)

theorem ofNat_min {n : Nat} (h : n < 4294967296) : min (ofNat n) 10 = ofNat (min n 10) := by
  have hmin : min (ofNat n) 10 = if ofNat n ≤ 10 then ofNat n else 10 := rfl
  rw [hmin]
  split
  · next hsmall => rw [Nat.min_eq_left ((ofNat_le_ten h).1 hsmall)]
  · next hlarge =>
      rw [Nat.min_eq_right (Nat.le_of_not_le fun hsmall => hlarge ((ofNat_le_ten h).2 hsmall))]
      rfl

/-- The code's requirement is the one without a bound, as long as that fits. -/
theorem getCumulativeClassExp_ofNat {level : Nat} (h : level ≤ 30) :
    points.getCumulativeClassExp (UInt32.ofNat level) = UInt32.ofNat (requirement points level) := by
  have hle {n k : Nat} (hn : n ≤ 30) (hk : k ≤ 30) : UInt32.ofNat n ≤ UInt32.ofNat k ↔ n ≤ k :=
    UInt32.ofNat_le_iff_le (Nat.lt_of_le_of_lt hn (by decide)) (Nat.lt_of_le_of_lt hk (by decide))
  have hlt {n k : Nat} (hn : n ≤ 30) (hk : k ≤ 30) : UInt32.ofNat n < UInt32.ofNat k ↔ n < k :=
    UInt32.ofNat_lt_iff_lt (Nat.lt_of_le_of_lt hn (by decide)) (Nat.lt_of_le_of_lt hk (by decide))
  have hzero : UInt32.ofNat 0 = 0 := rfl
  rw [LevelUpPoints.getCumulativeClassExp, requirement]
  split
  · next hsmall =>
      have hone : level ≤ 1 := (hle h (by decide : 1 ≤ 30)).1 hsmall
      rw [Nat.sub_eq_zero_of_le hone, Nat.sub_eq_zero_of_le (by omega : level ≤ 11),
        Nat.sub_eq_zero_of_le (by omega : level ≤ 21), Nat.zero_min, Nat.zero_mul, Nat.zero_mul, Nat.zero_mul]
      rfl
  next hlarge =>
  have hone : 1 ≤ level := Nat.le_of_not_le fun hsmall => hlarge ((hle h (by decide : 1 ≤ 30)).2 hsmall)
  have htransitions : UInt32.ofNat level - 1 = UInt32.ofNat (level - 1) := (UInt32.ofNat_sub hone).symm
  have hten : (10 : UInt32) < UInt32.ofNat (level - 1) ↔ 10 < level - 1 := hlt (by decide) (by omega)
  have htwenty : (20 : UInt32) < UInt32.ofNat (level - 1) ↔ 20 < level - 1 := hlt (by decide) (by omega)
  dsimp only
  rw [htransitions, ofNat_min (by omega), UInt32.ofNat_add, UInt32.ofNat_add, UInt32.ofNat_mul, UInt32.ofNat_mul,
    UInt32.ofNat_mul, UInt32.ofNat_toNat, UInt32.ofNat_toNat, UInt32.ofNat_toNat]
  by_cases hmiddle : 10 < level - 1
  · have hsub : UInt32.ofNat (level - 1) - 10 = UInt32.ofNat (level - 11) :=
      (UInt32.ofNat_sub (Nat.le_of_lt hmiddle)).symm
    rw [if_pos (hten.2 hmiddle), hsub, ofNat_min (by omega)]
    by_cases hhigh : 20 < level - 1
    · have hsub : UInt32.ofNat (level - 1) - 20 = UInt32.ofNat (level - 21) :=
        (UInt32.ofNat_sub (Nat.le_of_lt hhigh)).symm
      rw [if_pos (htwenty.2 hhigh), hsub]
    · rw [if_neg fun hlt => hhigh (htwenty.1 hlt), Nat.sub_eq_zero_of_le (by omega : level ≤ 21), hzero]
      grind
  · rw [if_neg fun hlt => hmiddle (hten.1 hlt), if_neg fun hlt => hmiddle (by have := htwenty.1 hlt; omega),
      Nat.sub_eq_zero_of_le (by omega : level ≤ 11), Nat.sub_eq_zero_of_le (by omega : level ≤ 21), Nat.zero_min,
      hzero]
    grind

theorem reached_iff (hfits : Fits points) {clazzProgress : UInt32} {level : Nat} (h : level ≤ 30) :
    Reached points clazzProgress level ↔ requirement points level ≤ clazzProgress.toNat := by
  have hlt := Nat.lt_of_le_of_lt (requirement_mono points h) hfits
  rw [Reached, getCumulativeClassExp_ofNat h, le_iff_toNat_le, toNat_ofNat_of_lt' hlt]

/-- Where the requirements fit, a climb ends at the highest class reached. -/
theorem climb_highestClass (hfits : Fits points) (clazzProgress : UInt32) {level : Nat} (h : level ≤ 30) :
    climb (Reached points clazzProgress) 30 level = max level (highestClass points clazzProgress) := by
  refine climb_eq_max (fun low hlow hreached => ?_) h
  have hnext := (reached_iff hfits hlow).1 hreached
  exact (reached_iff hfits (Nat.le_of_lt hlow)).2 (Nat.le_trans (requirement_mono points (Nat.le_succ low)) hnext)

end Highest

/-! ## Batching -/

/-- What an application of some gains, one by one or at once, makes of a horse.  The growth points are one for
each class and one more for the last. -/
structure Batched (points : LevelUpPoints) (horse : Horse) (gains : List UInt32) : Prop where
  clazz : (gains.foldl points.applyClassProgress horse).clazz =
    (points.applyClassProgress horse gains.sum).clazz
  growthPoints : (gains.foldl points.applyClassProgress horse).growthPoints =
    (points.applyClassProgress horse gains.sum).growthPoints
  highest : Fits points → (points.applyClassProgress horse gains.sum).clazz.toNat =
    max horse.clazz.toNat (highestClass points (horse.clazzProgress + gains.sum))
  gained : (points.applyClassProgress horse gains.sum).growthPoints + worth horse.clazz =
    horse.growthPoints + worth (points.applyClassProgress horse gains.sum).clazz

/-- However some gains are put together, a horse comes to the same class and growth points by them.  The class is
the highest one that its experience reaches, unless its own was higher. -/
theorem classProgress_batched (points : LevelUpPoints) (horse : Horse) (gains : List UInt32) (hclassed : Classed horse)
    (hgains : gains ≠ [])
    (hsum : horse.clazzProgress.toNat + (gains.map UInt32.toNat).sum < 4294967296) : Batched points horse gains := by
  obtain ⟨gain, rest, rfl⟩ := List.exists_cons_of_ne_nil hgains
  have hsame : ((gain :: rest).foldl points.applyClassProgress horse).clazz =
      (points.applyClassProgress horse (gain :: rest).sum).clazz := by
    rw [List.map_cons, List.sum_cons, ← Nat.add_assoc] at hsum
    refine UInt32.toNat_inj.1 ((clazz_foldl points rest horse gain hclassed hsum).trans ?_)
    exact (clazz_applyClassProgress hclassed _).symm
  have hone := growthPoints_foldl points (gain :: rest) horse hclassed
  have hall := @growthPoints_applyClassProgress points _ hclassed (gain :: rest).sum
  refine ⟨hsame, ?_, fun hfits => ?_, hall⟩
  · rw [hsame, ← hall] at hone
    exact add_right_cancel hone
  · rw [clazz_applyClassProgress hclassed]
    exact climb_highestClass hfits _ (toNat_le_top hclassed)

/-- Two races instead of one. -/
theorem classProgress_batched_two : Batched {} { clazz := 1 } [5000, 9000] :=
  classProgress_batched {} { clazz := 1 } [5000, 9000] ⟨by decide, by decide⟩ (List.cons_ne_nil _ _) (by decide)

/-- A horse keeps a class that its experience does not reach. -/
theorem class_above_progress :
    ([0].foldl (LevelUpPoints.applyClassProgress {}) { clazz := 5 }).clazz.toNat ≠ highestClass {} 0 := by
  have hclassed : Classed { clazz := 5 } := ⟨by decide, by decide⟩
  have hclazz := @clazz_applyClassProgress {} _ hclassed 0
  rw [climb_highestClass (by decide) _ (toNat_le_top hclassed)] at hclazz
  refine fun h => absurd (hclazz.symm.trans h) ?_
  decide +kernel

end Alicia.Growth
