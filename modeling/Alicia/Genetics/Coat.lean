import Alicia.Registry.Appearance
import Mathlib.Tactic.NormNum
import Mathlib.Tactic.Positivity

/-!
# The coat of a foal

A foal has the coat of an ancestor, if its grade can wear it, or a random one.  A coat of an ancestor that is not
in the registry is taken for one that every foal can wear.
-/

namespace Alicia.Genetics

open Std (ExtTreeMap)
open Data (Uid invalidUid Tid invalidTid Horse)
open Registry Draws List

/-! ## Ancestors -/

/-- The records that are available. -/
abbrev Horses := Uid → Option Horse

/-- The parents and the grandparents, in roll order: the mare's mother and father, the stallion's mother and
father. -/
structure Ancestry where
  mare : Uid
  stallion : Uid
  grandparents : List Uid
  four : grandparents.length = 4

/-- The parents of a parent. -/
def readGrandparents (horses : Horses) (parentUid : Uid) : List Uid :=
  if parentUid = invalidUid then [invalidUid, invalidUid]
  else
    match horses parentUid with
    | none => [invalidUid, invalidUid]
    | some parent => [parent.ancestors.mother, parent.ancestors.father]

theorem length_readGrandparents (horses : Horses) (parentUid : Uid) :
    (readGrandparents horses parentUid).length = 2 := by
  unfold readGrandparents
  split
  · rfl
  · split
    · rfl
    · rfl

def buildAncestry (horses : Horses) (mareUid stallionUid : Uid) : Ancestry where
  mare := mareUid
  stallion := stallionUid
  grandparents := readGrandparents horses mareUid ++ readGrandparents horses stallionUid
  four := by rw [List.length_append, length_readGrandparents, length_readGrandparents]

def readPart (horses : Horses) (horseUid : Uid) (part : Part) : Tid :=
  if horseUid = invalidUid then 0
  else
    match horses horseUid with
    | none => 0
    | some horse =>
      match part with
      | .skin => horse.parts.skinTid
      | .mane => horse.parts.maneTid
      | .tail => horse.parts.tailTid

/-! ## The calculation -/

def maxPregnancyChance : UInt32 := 30

def stallionCoatBonusMultiplier (inheritanceRateBonusUnit : Int32) (mareCombo pregnancyChance stallionLineage : UInt32) :
    ℚ :=
  let comboBonus := mareCombo * inheritanceRateBonusUnit.toUInt32
  let pregnancyBonus := maxPregnancyChance - min pregnancyChance maxPregnancyChance
  let lineageBonus := if 1 < stallionLineage then stallionLineage - 1 else 0
  let totalBonus := min (comboBonus + pregnancyBonus + lineageBonus) 100
  1 + (totalBonus.toNat : ℚ) / 100

/-- What is known of a prospective foal. -/
structure Prospect where
  registry : AppearanceRegistry
  horses : Horses
  inheritanceRateBonusUnit : Int32 := 0
  mareUid : Uid
  stallionUid : Uid
  foalGrade : UInt8
  mareCombo : UInt32 := 0
  pregnancyChance : UInt32 := 30

namespace Prospect

variable (prospect : Prospect)

def ancestry : Ancestry := buildAncestry prospect.horses prospect.mareUid prospect.stallionUid

/-- The grade of the foal, as it is compared with the grades of the registry. -/
def grade : Int := (prospect.foalGrade.toNat : Int)

def skinOf (horseUid : Uid) : Tid := readPart prospect.horses horseUid .skin

def mareSkin : Tid := prospect.skinOf prospect.mareUid

def stallionSkin : Tid := prospect.skinOf prospect.stallionUid

def stallionLineage : UInt32 := ((prospect.horses prospect.stallionUid).map Horse.lineage).getD 1

def bonusMultiplier : ℚ :=
  stallionCoatBonusMultiplier prospect.inheritanceRateBonusUnit prospect.mareCombo prospect.pregnancyChance
    prospect.stallionLineage

/-- The coats of the grandparents. -/
def gpSkins : List Tid := (prospect.ancestry.grandparents.map prospect.skinOf).filter fun skin => skin ≠ 0

/-- The coats that the grade of the foal can wear, and their weights. -/
def eligibleCoats : List (Tid × ℚ) :=
  (prospect.registry.possibleCoats.filter fun tid =>
    (prospect.registry.getCoatInfo tid).minGrade ≤ prospect.grade).map fun tid =>
      (tid, (prospect.registry.getCoatInfo tid).inheritanceRate)

def getRandomValidSkin (draw : Draw) : Tid := pickWeighted draw prospect.eligibleCoats 1

def getValidSkinOrRandom (draw : Draw) (skinTid : Tid) : Tid :=
  if (prospect.registry.getCoatInfo skinTid).minGrade ≤ prospect.grade then skinTid
  else prospect.getRandomValidSkin draw

def mareWeight : ℚ := (prospect.registry.getCoatInfo prospect.mareSkin).inheritanceRate

def stallionWeight : ℚ :=
  (prospect.registry.getCoatInfo prospect.stallionSkin).inheritanceRate * prospect.bonusMultiplier

def gpUnitWeight : ℚ := 1 / 2

/-- The weight of a random coat. -/
def randomWeight : ℚ :=
  let gpCount := min prospect.gpSkins.length 4
  let parentWeight := prospect.mareWeight + prospect.stallionWeight + gpUnitWeight * gpCount
  max 30 (60 - parentWeight * (1 / 5))

/-- The coats of the ancestors and, for a random coat, none. -/
def candidates : List (Tid × ℚ) :=
  [(prospect.mareSkin, prospect.mareWeight), (prospect.stallionSkin, prospect.stallionWeight)] ++
    (prospect.gpSkins.take 4).map (fun skin => (skin, gpUnitWeight)) ++ [(invalidTid, prospect.randomWeight)]

end Prospect

/-- The random outcomes for a coat. -/
structure SkinRoll where
  chosen : Draw
  random : Draw

/-- `CalculateFoalSkin` -/
def calculateFoalSkin (prospect : Prospect) (roll : SkinRoll) : Tid :=
  if prospect.mareSkin = 0 ∨ prospect.stallionSkin = 0 then 1
  else
    let chosen := pickWeighted roll.chosen prospect.candidates invalidTid
    if chosen = invalidTid then prospect.getRandomValidSkin roll.random
    else prospect.getValidSkinOrRandom roll.random chosen

/-! ## The coats that a foal can get -/

section Coats

variable {prospect : Prospect} {skin : Tid}

theorem randomWeight_pos : 0 < prospect.randomWeight :=
  lt_of_lt_of_le (by norm_num) (le_max_left 30 _)

theorem bonusMultiplier_pos : 0 < prospect.bonusMultiplier := by
  unfold Prospect.bonusMultiplier stallionCoatBonusMultiplier
  positivity

/-- A foal can get a coat: that of an ancestor, of positive weight, or a random one. -/
def CanWear (prospect : Prospect) (skin : Tid) : Prop :=
  if prospect.mareSkin = 0 ∨ prospect.stallionSkin = 0 then skin = 1
  else
    (skin ≠ invalidTid ∧ (prospect.registry.getCoatInfo skin).minGrade ≤ prospect.grade ∧
      ∃ weight, (skin, weight) ∈ prospect.candidates ∧ 0 < weight) ∨
    Pickable prospect.eligibleCoats 1 skin

/-- A random coat may be drawn in place of those of the ancestors. -/
theorem random_mem_candidates : (invalidTid, prospect.randomWeight) ∈ prospect.candidates :=
  mem_append_right _ (mem_singleton.2 rfl)

theorem pickable_candidates_iff : Pickable prospect.candidates invalidTid skin ↔
    ∃ weight, (skin, weight) ∈ prospect.candidates ∧ 0 < weight := by
  constructor
  · rintro (⟨hempty, -⟩ | ⟨weight, hmem, hpos⟩)
    · have hrandom := @random_mem_candidates prospect
      rw [hempty] at hrandom
      exact absurd hrandom not_mem_nil
    · exact ⟨weight, hmem, hpos ⟨_, random_mem_candidates, randomWeight_pos⟩⟩
  · rintro ⟨weight, hmem, hpos⟩
    exact .inr ⟨weight, hmem, fun _ => hpos⟩

theorem exists_calculateFoalSkin_iff : (∃ roll, calculateFoalSkin prospect roll = skin) ↔ CanWear prospect skin := by
  unfold calculateFoalSkin CanWear
  by_cases hmissing : prospect.mareSkin = 0 ∨ prospect.stallionSkin = 0
  · simp only [if_pos hmissing]
    exact ⟨fun ⟨_, h⟩ => h.symm, fun h => ⟨⟨.first, .first⟩, h.symm⟩⟩
  · simp only [if_neg hmissing]
    constructor
    · rintro ⟨⟨chosen, random⟩, hskin⟩
      dsimp only at hskin
      have hrandom : prospect.getRandomValidSkin random = skin → Pickable prospect.eligibleCoats 1 skin :=
        fun h => exists_pickWeighted_iff.1 ⟨random, h⟩
      have hchosen := pickable_candidates_iff.1 (exists_pickWeighted_iff.1
        ⟨chosen, rfl⟩ : Pickable prospect.candidates invalidTid (pickWeighted chosen prospect.candidates invalidTid))
      split at hskin
      · exact .inr (hrandom hskin)
      · next hvalid =>
          unfold Prospect.getValidSkinOrRandom at hskin
          split at hskin
          · next hgrade =>
              subst hskin
              exact .inl ⟨hvalid, hgrade, hchosen⟩
          · exact .inr (hrandom hskin)
    · rintro (⟨hvalid, hgrade, hweight⟩ | hrandom)
      · obtain ⟨draw, hdraw⟩ := exists_pickWeighted_iff.2 (pickable_candidates_iff.2 hweight)
        refine ⟨⟨draw, .first⟩, ?_⟩
        dsimp only
        rw [hdraw, if_neg hvalid, Prospect.getValidSkinOrRandom, if_pos hgrade]
      · obtain ⟨draw, hdraw⟩ := exists_pickWeighted_iff.2
          (pickable_candidates_iff.2 ⟨_, @random_mem_candidates prospect, randomWeight_pos⟩)
        obtain ⟨random, hskin⟩ := exists_pickWeighted_iff.2 hrandom
        refine ⟨⟨draw, random⟩, ?_⟩
        dsimp only
        rw [hdraw, if_pos rfl]
        exact hskin

/-! ## The condition -/

/-- The coat is in the registry, and the grade can wear it. -/
def Wears (registry : AppearanceRegistry) (grade : Int) (skin : Tid) : Prop :=
  ∃ coat, registry.coats[skin]? = some coat ∧ coat.minGrade ≤ grade

/-- The coats of the ancestors. -/
def Prospect.ancestorSkins (prospect : Prospect) : List Tid :=
  prospect.mareSkin :: prospect.stallionSkin :: prospect.gpSkins

/-- The condition on the coats of the ancestors.  Without a parent's coat the first coat has to do. -/
def CoatFits (prospect : Prospect) : Prop :=
  if prospect.mareSkin = 0 ∨ prospect.stallionSkin = 0 then Wears prospect.registry prospect.grade 1
  else prospect.foalGrade = 0 ∨ ∀ skin ∈ prospect.ancestorSkins, skin ∈ prospect.registry.coats

theorem take_gpSkins : prospect.gpSkins.take 4 = prospect.gpSkins := by
  refine take_of_length_le (le_trans (length_filter_le _ _) ?_)
  rw [length_map, prospect.ancestry.four]

/-- Only the coats of the ancestors have a weight, besides the random one. -/
theorem mem_ancestorSkins {weight : ℚ} (hmem : (skin, weight) ∈ prospect.candidates) (hvalid : skin ≠ invalidTid) :
    skin ∈ prospect.ancestorSkins := by
  unfold Prospect.candidates at hmem
  rw [take_gpSkins] at hmem
  unfold Prospect.ancestorSkins
  simp only [mem_append, mem_cons, mem_map, not_mem_nil, or_false, Prod.mk.injEq] at hmem ⊢
  rcases hmem with ((⟨hmare, -⟩ | ⟨hstallion, -⟩) | ⟨other, hother, hsame, -⟩) | ⟨hnone, -⟩
  · exact .inl hmare
  · exact .inr (.inl hstallion)
  · exact .inr (.inr (hsame ▸ hother))
  · exact absurd hnone hvalid

theorem getCoatInfo_eq {registry : AppearanceRegistry} {coat : Coat} (h : registry.coats[skin]? = some coat) :
    registry.getCoatInfo skin = coat := by
  rw [AppearanceRegistry.getCoatInfo, h]
  rfl

theorem getCoatInfo_of_not_mem {registry : AppearanceRegistry} (h : skin ∉ registry.coats) :
    registry.getCoatInfo skin = {} := by
  rw [AppearanceRegistry.getCoatInfo, ExtTreeMap.getElem?_eq_none h]
  rfl

theorem wears_of_mem {registry : AppearanceRegistry} {grade : Int} (h : skin ∈ registry.coats)
    (hgrade : (registry.getCoatInfo skin).minGrade ≤ grade) : Wears registry grade skin := by
  obtain ⟨coat, hcoat⟩ := Option.isSome_iff_exists.1 (ExtTreeMap.isSome_getElem?_iff_mem.2 h)
  exact ⟨coat, hcoat, getCoatInfo_eq hcoat ▸ hgrade⟩

/-- A coat of an ancestor that is not in the registry is taken for one that is drawn. -/
theorem weight_of_not_mem (hmem : skin ∈ prospect.ancestorSkins) (h : skin ∉ prospect.registry.coats) :
    ∃ weight, (skin, weight) ∈ prospect.candidates ∧ 0 < weight := by
  have hrate : (prospect.registry.getCoatInfo skin).inheritanceRate = 1 := by rw [getCoatInfo_of_not_mem h]
  unfold Prospect.candidates
  rw [take_gpSkins]
  rcases mem_cons.1 hmem with rfl | hmem
  · refine ⟨prospect.mareWeight, mem_cons_self, ?_⟩
    rw [Prospect.mareWeight, hrate]
    exact one_pos
  rcases mem_cons.1 hmem with rfl | hmem
  · refine ⟨prospect.stallionWeight, mem_cons_of_mem _ mem_cons_self, ?_⟩
    rw [Prospect.stallionWeight, hrate, one_mul]
    exact bonusMultiplier_pos
  · refine ⟨Prospect.gpUnitWeight, ?_, by norm_num [Prospect.gpUnitWeight]⟩
    exact mem_append_left _ (mem_append_right _ (mem_map_of_mem hmem))

/-- All coats that the foal can get are right exactly if those of its ancestors fit. -/
theorem forall_canWear_iff (heligible : ∃ skin, Wears prospect.registry prospect.grade skin) :
    (∀ skin, CanWear prospect skin → Wears prospect.registry prospect.grade skin) ↔ CoatFits prospect := by
  unfold CanWear CoatFits
  by_cases hmissing : prospect.mareSkin = 0 ∨ prospect.stallionSkin = 0
  · simp only [if_pos hmissing]
    exact ⟨fun h => h 1 rfl, fun h skin hskin => hskin ▸ h⟩
  simp only [if_neg hmissing]
  constructor
  · intro h
    by_contra hunfit
    obtain ⟨hgrade, hunknown⟩ := not_or.1 hunfit
    push Not at hunknown
    obtain ⟨skin, hmem, hskin⟩ := hunknown
    have hvalid : skin ≠ invalidTid := by
      rintro rfl
      rcases mem_cons.1 hmem with hmare | hmem
      · exact hmissing (.inl hmare.symm)
      rcases mem_cons.1 hmem with hstallion | hmem
      · exact hmissing (.inr hstallion.symm)
      · exact of_decide_eq_true (mem_filter.1 hmem).2 rfl
    have hleast : (prospect.registry.getCoatInfo skin).minGrade ≤ prospect.grade := by
      rw [getCoatInfo_of_not_mem hskin]
      have hpos : prospect.foalGrade.toNat ≠ 0 := fun hzero => hgrade (UInt8.toNat_inj.1 hzero)
      unfold Prospect.grade
      dsimp only
      omega
    obtain ⟨coat, hcoat, -⟩ := h skin (.inl ⟨hvalid, hleast, weight_of_not_mem hmem hskin⟩)
    exact hskin (ExtTreeMap.isSome_getElem?_iff_mem.1 (Option.isSome_of_mem hcoat))
  · rintro h skin (⟨hvalid, hgrade, weight, hmem, -⟩ | hrandom)
    · refine wears_of_mem ?_ hgrade
      by_contra hunknown
      rcases h with hzero | hknown
      · rw [getCoatInfo_of_not_mem hunknown, Prospect.grade, hzero] at hgrade
        exact absurd hgrade (by decide)
      · exact hunknown (hknown skin (mem_ancestorSkins hmem hvalid))
    · rcases hrandom with ⟨hempty, -⟩ | ⟨weight, hmem, -⟩
      · -- there is a coat to be drawn
        obtain ⟨other, coat, hcoat, hgrade⟩ := heligible
        have hpossible := (prospect.registry.coats_mem other).2
          (ExtTreeMap.isSome_getElem?_iff_mem.1 (Option.isSome_of_mem hcoat))
        refine absurd (map_eq_nil_iff.1 hempty) (ne_nil_of_mem (a := other) ?_)
        exact mem_filter.2 ⟨hpossible, decide_eq_true ((getCoatInfo_eq hcoat).symm ▸ hgrade)⟩
      · obtain ⟨other, hother, hsame⟩ := mem_map.1 hmem
        cases hsame
        obtain ⟨hpossible, hgrade⟩ := mem_filter.1 hother
        exact wears_of_mem ((prospect.registry.coats_mem _).1 hpossible) (of_decide_eq_true hgrade)

end Coats

end Alicia.Genetics
