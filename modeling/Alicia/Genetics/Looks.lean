import Alicia.Genetics.Coat

/-!
# The looks of a foal

The shape of a mane or a tail is inherited, if some part of the shape is within the grade of the foal, or drawn
from the shapes of which this is so.  The part is then picked by the color group of the coat and the shape, and the
tail by the color of the mane.

The coat, the mane and the tail of a foal are in the registry, within its grade, and of the colors of the coat, in
all random outcomes, exactly if what its ancestors and the tables of the registry make possible fits.
-/

namespace Alicia.Genetics

open Std (ExtTreeMap)
open Data (Uid invalidUid Tid invalidTid Horse)
open Registry Draws List

/-! ## Donors -/

def mareChance : Nat := 10

def stallionChance : Nat := 20

def grandparentStep : Nat := 5

/-- The grandparents have one band each; what is rolled above them is nobody's. -/
def donorBand (roll : Nat) : Nat → List Uid → Uid
  | _, [] => invalidUid
  | upper, uid :: rest => if roll < upper then uid else donorBand roll (upper + grandparentStep) rest

def rollInheritedDonor (roll : Fin 100) (ancestry : Ancestry) : Uid :=
  if roll < mareChance then ancestry.mare
  else if roll < stallionChance then ancestry.stallion
  else donorBand roll (stallionChance + grandparentStep) ancestry.grandparents

/-- Those from whom a trait may be inherited. -/
def Ancestry.donors (ancestry : Ancestry) : List Uid := ancestry.mare :: ancestry.stallion :: ancestry.grandparents

theorem donorBand_mem (roll upper : Nat) (uids : List Uid) :
    donorBand roll upper uids ∈ uids ∨ donorBand roll upper uids = invalidUid := by
  induction uids generalizing upper with
  | nil => exact .inr rfl
  | cons uid rest ih =>
    rw [donorBand]
    split
    · exact .inl mem_cons_self
    · exact (ih _).imp_left (mem_cons_of_mem _)

theorem exists_rollInheritedDonor_iff {ancestry : Ancestry} {uid : Uid} :
    (∃ roll, rollInheritedDonor roll ancestry = uid) ↔ uid ∈ ancestry.donors ∨ uid = invalidUid := by
  obtain ⟨mare, stallion, grandparents, four⟩ := ancestry
  constructor
  · rintro ⟨roll, rfl⟩
    unfold rollInheritedDonor
    split
    · exact .inl mem_cons_self
    split
    · exact .inl (mem_cons_of_mem _ mem_cons_self)
    · exact (donorBand_mem _ _ _).imp_left fun h => mem_cons_of_mem _ (mem_cons_of_mem _ h)
  · match grandparents, four with
    | [first, second, third, fourth], _ =>
      simp only [Ancestry.donors, mem_cons, not_mem_nil, or_false]
      rintro ((rfl | rfl | rfl | rfl | rfl | rfl) | rfl)
      · exact ⟨0, rfl⟩
      · exact ⟨10, rfl⟩
      · exact ⟨20, rfl⟩
      · exact ⟨25, rfl⟩
      · exact ⟨30, rfl⟩
      · exact ⟨35, rfl⟩
      · exact ⟨40, rfl⟩

/-! ## Shapes -/

/-- The random outcomes for a shape. -/
structure ShapeRoll where
  percent : Fin 100
  draw : Draw

section Shapes

variable (registry : AppearanceRegistry) (horses : Horses) (ancestry : Ancestry) (grade : Int) (part : Part)

/-- The shapes of which some part is within the grade, and their weights. -/
def eligibleShapes : List (Int × ℚ) :=
  ((registry.getShapeInheritance part).filter fun info => info.minGrade ≤ grade).map fun info =>
    (info.shape, info.inheritanceRate)

def getShapeFromTid (tid : Tid) : Int :=
  if part = .mane then (registry.getMane tid).shape else (registry.getTail tid).shape

def validateShape (draw : Draw) (shape : Int) : Int :=
  if (eligibleShapes registry grade part).any fun entry => entry.1 = shape then shape
  else pickWeighted draw (eligibleShapes registry grade part) 0

def inheritShape (roll : ShapeRoll) : Int :=
  let donor := rollInheritedDonor roll.percent ancestry
  if donor ≠ invalidUid then
    validateShape registry grade part roll.draw (getShapeFromTid registry part (readPart horses donor part))
  else pickWeighted roll.draw (eligibleShapes registry grade part) 0

/-- A foal can get a shape: that of an ancestor, if it is eligible, or a random one. -/
def CanInherit (shape : Int) : Prop :=
  (shape ∈ (eligibleShapes registry grade part).map Prod.fst ∧ ∃ donor ∈ ancestry.donors, donor ≠ invalidUid ∧
    getShapeFromTid registry part (readPart horses donor part) = shape) ∨
  Pickable (eligibleShapes registry grade part) 0 shape

variable {registry horses ancestry grade part}

theorem any_eligible_iff {shape : Int} : (eligibleShapes registry grade part).any (fun entry => entry.1 = shape) = true ↔
    shape ∈ (eligibleShapes registry grade part).map Prod.fst := by
  rw [any_eq_true, mem_map]
  exact exists_congr fun entry => and_congr_right fun _ => decide_eq_true_iff

/-- A shape is eligible exactly if some part of the shape is within the grade. -/
theorem mem_eligibleShapes_iff {shape : Int} : shape ∈ (eligibleShapes registry grade part).map Prod.fst ↔
    ∃ entry ∈ registry.parts part, entry.2.shape = shape ∧ entry.2.minGrade ≤ grade := by
  rw [← mem_aggregateShapeInheritance, eligibleShapes, map_map, mem_map]
  constructor
  · rintro ⟨info, hinfo, rfl⟩
    obtain ⟨hmem, hgrade⟩ := mem_filter.1 hinfo
    exact ⟨info, hmem, rfl, of_decide_eq_true hgrade⟩
  · rintro ⟨info, hmem, rfl, hgrade⟩
    exact ⟨info, mem_filter.2 ⟨hmem, decide_eq_true hgrade⟩, rfl⟩

theorem exists_inheritShape_iff {shape : Int} :
    (∃ roll, inheritShape registry horses ancestry grade part roll = shape) ↔
      CanInherit registry horses ancestry grade part shape := by
  unfold inheritShape
  constructor
  · rintro ⟨⟨percent, draw⟩, rfl⟩
    dsimp only
    have hdonor := (@exists_rollInheritedDonor_iff ancestry _).1 ⟨percent, rfl⟩
    have hdrawn : Pickable (eligibleShapes registry grade part) 0
        (pickWeighted draw (eligibleShapes registry grade part) 0) := exists_pickWeighted_iff.1 ⟨draw, rfl⟩
    split
    · next hvalid =>
        unfold validateShape
        split
        · next hany =>
            exact .inl ⟨any_eligible_iff.1 hany, _, hdonor.resolve_right hvalid, hvalid, rfl⟩
        · exact .inr hdrawn
    · exact .inr hdrawn
  · rintro (⟨heligible, donor, hmem, hvalid, hshape⟩ | hrandom)
    · obtain ⟨percent, hpercent⟩ := exists_rollInheritedDonor_iff.2 (.inl hmem)
      refine ⟨⟨percent, .first⟩, ?_⟩
      dsimp only
      rw [hpercent, if_pos hvalid, hshape, validateShape, if_pos (any_eligible_iff.2 heligible)]
    · obtain ⟨percent, hpercent⟩ := (@exists_rollInheritedDonor_iff ancestry invalidUid).2 (.inr rfl)
      obtain ⟨draw, hdraw⟩ := exists_pickWeighted_iff.2 hrandom
      refine ⟨⟨percent, draw⟩, ?_⟩
      dsimp only
      rw [hpercent, if_neg (not_not.2 rfl), hdraw]

end Shapes

/-! ## The calculation -/

structure ManeTailResult where
  maneTid : Tid := 0
  tailTid : Tid := 0
  deriving DecidableEq

/-- The random outcomes for a mane and a tail. -/
structure ManeTailRoll where
  mane : ShapeRoll
  tail : ShapeRoll
  manePick : Pick
  tailPick : Pick

/-- What is not found is replaced by the first template. -/
def orFirst (tid : Tid) : Tid := if tid = invalidTid then 1 else tid

/-- A mane of the color group and the shape. -/
def maneOfShape (registry : AppearanceRegistry) (pick : Pick) (colorGroupId maneShape : Int) : Tid :=
  orFirst (registry.getRandomManeFromColorAndShape pick colorGroupId maneShape)

/-- A tail of the color of the mane, or at least of the color group. -/
def tailOfShape (registry : AppearanceRegistry) (pick : Pick) (colorGroupId tailShape : Int) (maneTid : Tid) : Tid :=
  let tailTid := registry.findTailByColorAndShape (registry.getMane maneTid).color tailShape
  if tailTid = invalidTid ∨ tailTid = 0 then
    orFirst (registry.getRandomTailByColorGroupAndShape pick colorGroupId tailShape)
  else tailTid

def calculateManeTailGenetics (prospect : Prospect) (foalSkinTid : Tid) (roll : ManeTailRoll) : ManeTailResult :=
  let colorGroupId := (prospect.registry.getCoatInfo foalSkinTid).allowedColorGroups
  let maneShape := inheritShape prospect.registry prospect.horses prospect.ancestry prospect.grade .mane roll.mane
  let tailShape := inheritShape prospect.registry prospect.horses prospect.ancestry prospect.grade .tail roll.tail
  let maneTid := maneOfShape prospect.registry roll.manePick colorGroupId maneShape
  { maneTid := maneTid
    tailTid := tailOfShape prospect.registry roll.tailPick colorGroupId tailShape maneTid }

/-! ## The condition -/

section Condition

variable {registry : AppearanceRegistry} {grade colorGroupId : Int} {candidates : List Tid}

/-- The part is in the registry, the grade can wear it, and the color group has its color. -/
def Suits (registry : AppearanceRegistry) (grade colorGroupId : Int) (parts : HairMap) (tid : Tid) : Prop :=
  ∃ hair, parts.find tid = some hair ∧ hair.minGrade ≤ grade ∧ hair.color ∈ registry.groupColors colorGroupId

/-- The first template takes the place of a part. -/
def Lacking (candidates : List Tid) : Prop := candidates = [] ∨ invalidTid ∈ candidates

/-- The templates that may be picked from some candidates. -/
def CanPick (candidates : List Tid) (tid : Tid) : Prop :=
  tid ∈ candidates ∧ tid ≠ invalidTid ∨ Lacking candidates ∧ tid = 1

theorem exists_orFirst_iff {tid : Tid} :
    (∃ pick, orFirst ((pickUniform pick candidates).getD invalidTid) = tid) ↔ CanPick candidates tid := by
  unfold orFirst
  constructor
  · rintro ⟨pick, rfl⟩
    cases hpick : pickUniform pick candidates with
    | none =>
      rw [Option.getD_none, if_pos rfl]
      exact .inr ⟨.inl (pickUniform_eq_none_iff.1 hpick), rfl⟩
    | some item =>
      have hitem := exists_pickUniform_some_iff.1 ⟨pick, hpick⟩
      rw [Option.getD_some]
      split
      · next hinvalid => exact .inr ⟨.inr (hinvalid ▸ hitem), rfl⟩
      · next hvalid => exact .inl ⟨hitem, hvalid⟩
  · rintro (⟨hmem, hvalid⟩ | ⟨hempty | hinvalid, rfl⟩)
    · obtain ⟨pick, hpick⟩ := exists_pickUniform_some_iff.2 hmem
      exact ⟨pick, by rw [hpick, Option.getD_some, if_neg hvalid]⟩
    · refine ⟨.of 0, ?_⟩
      rw [pickUniform_eq_none_iff.2 hempty, Option.getD_none, if_pos rfl]
    · obtain ⟨pick, hpick⟩ := exists_pickUniform_some_iff.2 hinvalid
      exact ⟨pick, by rw [hpick, Option.getD_some, if_pos rfl]⟩

/-- Every part of the color group and the shape is within the grade, and where there is none, the first template
suits. -/
structure ShapeFits (registry : AppearanceRegistry) (grade colorGroupId : Int) (parts : HairMap) (shape : Int) :
    Prop where
  graded : ∀ entry ∈ parts, entry.1 ≠ invalidTid → entry.2.shape = shape →
    entry.2.color ∈ registry.groupColors colorGroupId → entry.2.minGrade ≤ grade
  lacking : Lacking (registry.byColorAndShape parts colorGroupId shape) → Suits registry grade colorGroupId parts 1

theorem forall_canPick_iff {parts : HairMap} (hnodup : (parts.map Prod.fst).Nodup) {shape : Int} :
    (∀ tid, CanPick (registry.byColorAndShape parts colorGroupId shape) tid →
        Suits registry grade colorGroupId parts tid) ↔
      ShapeFits registry grade colorGroupId parts shape := by
  constructor
  · intro h
    refine ⟨?_, fun hlacking => h 1 (.inr ⟨hlacking, rfl⟩)⟩
    rintro ⟨tid, hair⟩ hentry hvalid hshape hcolor
    obtain ⟨other, hother, hgrade, -⟩ :=
      h tid (.inl ⟨mem_byColorAndShape.2 ⟨hair, hentry, hcolor, hshape⟩, hvalid⟩)
    cases (HairMap.find_of_mem hnodup hentry).symm.trans hother
    exact hgrade
  · rintro h tid (⟨hmem, hvalid⟩ | ⟨hlacking, rfl⟩)
    · obtain ⟨hair, hentry, hcolor, hshape⟩ := mem_byColorAndShape.1 hmem
      exact ⟨hair, HairMap.find_of_mem hnodup hentry, h.graded _ hentry hvalid hshape hcolor, hcolor⟩
    · exact h.lacking hlacking

end Condition

/-! ## Manes and tails -/

section Hair

variable (prospect : Prospect) (colorGroupId : Int)

/-- The shapes that the foal can get. -/
abbrev Prospect.CanInherit (part : Part) (shape : Int) : Prop :=
  Genetics.CanInherit prospect.registry prospect.horses prospect.ancestry prospect.grade part shape

/-- The manes that the foal can get. -/
def CanHaveMane (maneTid : Tid) : Prop :=
  ∃ shape, prospect.CanInherit .mane shape ∧
    CanPick (prospect.registry.byColorAndShape prospect.registry.manes colorGroupId shape) maneTid

/-- The tail of the color of the mane suits, or if there is none, all of the color group fit. -/
def TailFits (maneTid : Tid) (shape : Int) : Prop :=
  let tailTid := prospect.registry.findTailByColorAndShape (prospect.registry.getMane maneTid).color shape
  if tailTid = invalidTid then
    ShapeFits prospect.registry prospect.grade colorGroupId prospect.registry.tails shape
  else Suits prospect.registry prospect.grade colorGroupId prospect.registry.tails tailTid

/-- The condition on the manes and tails of a color group. -/
structure HairFits : Prop where
  manes : ∀ shape, prospect.CanInherit .mane shape →
    ShapeFits prospect.registry prospect.grade colorGroupId prospect.registry.manes shape
  tails : ∀ maneTid, CanHaveMane prospect colorGroupId maneTid → ∀ shape, prospect.CanInherit .tail shape →
    TailFits prospect colorGroupId maneTid shape

theorem canInherit_inheritShape (part : Part) (roll : ShapeRoll) : prospect.CanInherit part
    (inheritShape prospect.registry prospect.horses prospect.ancestry prospect.grade part roll) :=
  exists_inheritShape_iff.1 ⟨roll, rfl⟩

variable {prospect colorGroupId}

theorem exists_maneOfShape_iff {shape : Int} {maneTid : Tid} :
    (∃ pick, maneOfShape prospect.registry pick colorGroupId shape = maneTid) ↔
      CanPick (prospect.registry.byColorAndShape prospect.registry.manes colorGroupId shape) maneTid :=
  exists_orFirst_iff

/-- The tails that can be picked for a mane and a shape suit exactly if the condition holds. -/
theorem forall_tailOfShape_iff {shape : Int} {maneTid : Tid} :
    (∀ pick, Suits prospect.registry prospect.grade colorGroupId prospect.registry.tails
        (tailOfShape prospect.registry pick colorGroupId shape maneTid)) ↔
      TailFits prospect colorGroupId maneTid shape := by
  unfold TailFits tailOfShape
  dsimp only
  by_cases hnone : prospect.registry.findTailByColorAndShape (prospect.registry.getMane maneTid).color shape = invalidTid
  · simp only [if_pos hnone, if_pos (Or.inl hnone)]
    rw [← forall_canPick_iff prospect.registry.tails_nodup]
    constructor
    · intro h tid hpick
      obtain ⟨pick, rfl⟩ := exists_orFirst_iff.2 hpick
      exact h pick
    · exact fun h pick => h _ (exists_orFirst_iff.1 ⟨pick, rfl⟩)
  · simp only [if_neg hnone, if_neg (not_or.2 ⟨hnone, (show ¬_ = (0 : Tid) from hnone)⟩)]
    exact ⟨fun h => h (.of 0), fun h _ => h⟩

theorem forall_maneTail_iff {foalSkinTid : Tid}
    (hgroup : (prospect.registry.getCoatInfo foalSkinTid).allowedColorGroups = colorGroupId) :
    (∀ roll, Suits prospect.registry prospect.grade colorGroupId prospect.registry.manes
          (calculateManeTailGenetics prospect foalSkinTid roll).maneTid ∧
        Suits prospect.registry prospect.grade colorGroupId prospect.registry.tails
          (calculateManeTailGenetics prospect foalSkinTid roll).tailTid) ↔
      HairFits prospect colorGroupId := by
  unfold calculateManeTailGenetics
  simp only [hgroup]
  constructor
  · intro h
    refine ⟨fun shape hshape => ?_, fun maneTid hmane shape hshape => ?_⟩
    · refine (forall_canPick_iff prospect.registry.manes_nodup).1 fun tid hpick => ?_
      obtain ⟨roll, rfl⟩ := exists_inheritShape_iff.2 hshape
      obtain ⟨pick, rfl⟩ := exists_maneOfShape_iff.2 hpick
      exact (h ⟨roll, ⟨0, .first⟩, pick, .of 0⟩).1
    · obtain ⟨maneShape, hmaneShape, hpick⟩ := hmane
      obtain ⟨maneRoll, rfl⟩ := exists_inheritShape_iff.2 hmaneShape
      obtain ⟨manePick, rfl⟩ := exists_maneOfShape_iff.2 hpick
      obtain ⟨tailRoll, rfl⟩ := exists_inheritShape_iff.2 hshape
      exact forall_tailOfShape_iff.1 fun tailPick => (h ⟨maneRoll, tailRoll, manePick, tailPick⟩).2
  · rintro h ⟨maneRoll, tailRoll, manePick, tailPick⟩
    have hmaneShape := canInherit_inheritShape prospect .mane maneRoll
    have htailShape := canInherit_inheritShape prospect .tail tailRoll
    refine ⟨(forall_canPick_iff prospect.registry.manes_nodup).2 (h.manes _ hmaneShape) _
      (exists_maneOfShape_iff.1 ⟨manePick, rfl⟩), ?_⟩
    exact forall_tailOfShape_iff.2 (h.tails _ ⟨_, hmaneShape, exists_maneOfShape_iff.1 ⟨manePick, rfl⟩⟩ _ htailShape)
      tailPick

end Hair

/-! ## The foal -/

structure FoalLooks where
  skinTid : Tid
  maneTid : Tid
  tailTid : Tid
  deriving DecidableEq

/-- What `CreateFoal` takes over from the two calculations. -/
def foalLooks (prospect : Prospect) (skinRoll : SkinRoll) (maneTailRoll : ManeTailRoll) : FoalLooks :=
  let foalSkin := calculateFoalSkin prospect skinRoll
  let maneTail := calculateManeTailGenetics prospect foalSkin maneTailRoll
  ⟨foalSkin, maneTail.maneTid, maneTail.tailTid⟩

/-- The parts are in the registry, the grade can wear them, and the coat allows their colors. -/
structure Right (registry : AppearanceRegistry) (grade : Int) (looks : FoalLooks) : Prop where
  coat : Wears registry grade looks.skinTid
  mane : Suits registry grade (registry.getCoatInfo looks.skinTid).allowedColorGroups registry.manes looks.maneTid
  tail : Suits registry grade (registry.getCoatInfo looks.skinTid).allowedColorGroups registry.tails looks.tailTid

/-- There is a coat for the grade, and a mane and a tail for each color group. -/
structure Stocked (registry : AppearanceRegistry) (grade : Int) : Prop where
  coat : ∃ skin, Wears registry grade skin
  mane : ∀ group < registry.colorGroups.length, ∃ tid, Suits registry grade group registry.manes tid
  tail : ∀ group < registry.colorGroups.length, ∃ tid, Suits registry grade group registry.tails tid

/-- The condition on what is possible for a foal. -/
structure LooksFit (prospect : Prospect) : Prop where
  coats : CoatFits prospect
  hair : ∀ skin, CanWear prospect skin → HairFits prospect (prospect.registry.getCoatInfo skin).allowedColorGroups

/-! ## Regular registries -/

/-- Every coat has a color group, and all parts of a shape have one grade, and colors of all groups. -/
structure Regular (registry : AppearanceRegistry) : Prop where
  grouped : ∀ (skin : Tid) (coat : Coat), registry.coats[skin]? = some coat →
    ∃ group < registry.colorGroups.length, coat.allowedColorGroups = (group : Int)
  valid : ∀ part, ∀ entry ∈ registry.parts part, entry.1 ≠ invalidTid
  graded : ∀ part, ∀ entry ∈ registry.parts part, ∀ other ∈ registry.parts part, other.2.shape = entry.2.shape →
    other.2.minGrade = entry.2.minGrade
  colored : ∀ part, ∀ entry ∈ registry.parts part, ∀ group < registry.colorGroups.length,
    ∃ other ∈ registry.parts part, other.2.shape = entry.2.shape ∧ other.2.color ∈ registry.groupColors group

section Regular

variable {prospect : Prospect} {part : Part} {shape : Int}

/-- With a part for the grade, the shapes that the foal can get are those of such parts. -/
theorem exists_part_of_canInherit (hstocked : ∃ entry ∈ prospect.registry.parts part, entry.2.minGrade ≤ prospect.grade)
    (hshape : prospect.CanInherit part shape) :
    ∃ entry ∈ prospect.registry.parts part, entry.2.shape = shape ∧ entry.2.minGrade ≤ prospect.grade := by
  refine mem_eligibleShapes_iff.1 ?_
  rcases hshape with ⟨heligible, -⟩ | ⟨hempty, -⟩ | ⟨weight, hmem, -⟩
  · exact heligible
  · obtain ⟨entry, hentry, hgrade⟩ := hstocked
    have hsome := mem_eligibleShapes_iff.2 ⟨entry, hentry, rfl, hgrade⟩
    rw [hempty] at hsome
    exact absurd hsome not_mem_nil
  · exact mem_map_of_mem hmem

theorem Regular.shapeFits (hregular : Regular prospect.registry) {entry : Tid × Hair}
    (hentry : entry ∈ prospect.registry.parts part) (hgrade : entry.2.minGrade ≤ prospect.grade) {group : Nat}
    (hgroup : group < prospect.registry.colorGroups.length) :
    ShapeFits prospect.registry prospect.grade group (prospect.registry.parts part) entry.2.shape := by
  constructor
  · intro other hother _ hshape _
    rw [hregular.graded part entry hentry other hother hshape]
    exact hgrade
  · rintro (hempty | hinvalid)
    · obtain ⟨other, hother, hshape, hcolor⟩ := hregular.colored part entry hentry group hgroup
      have hmem := mem_byColorAndShape.2 ⟨other.2, hother, hcolor, hshape⟩
      rw [hempty] at hmem
      exact absurd hmem not_mem_nil
    · obtain ⟨hair, hother, -⟩ := mem_byColorAndShape.1 hinvalid
      exact absurd rfl (hregular.valid part _ hother)

theorem suits_findTail (hregular : Regular prospect.registry) {entry : Tid × Hair}
    (hentry : entry ∈ prospect.registry.tails) (hgrade : entry.2.minGrade ≤ prospect.grade) {colorGroupId : Int}
    {color : Color} (hcolor : color ∈ prospect.registry.groupColors colorGroupId)
    (hfound : prospect.registry.findTailByColorAndShape color entry.2.shape ≠ invalidTid) :
    Suits prospect.registry prospect.grade colorGroupId prospect.registry.tails
      (prospect.registry.findTailByColorAndShape color entry.2.shape) := by
  unfold AppearanceRegistry.findTailByColorAndShape at hfound ⊢
  cases hfind : prospect.registry.tails.find? fun other => other.2.color = color && other.2.shape = entry.2.shape with
  | none => exact absurd (by rw [hfind]; rfl) hfound
  | some other =>
    have hother := mem_of_find?_eq_some hfind
    have hfits := List.find?_some hfind
    obtain ⟨hsame, hshape⟩ := Bool.and_eq_true_iff.1 hfits
    refine ⟨other.2, HairMap.find_of_mem prospect.registry.tails_nodup hother, ?_, ?_⟩
    · rw [hregular.graded .tail entry hentry other hother (of_decide_eq_true hshape)]
      exact hgrade
    · rw [of_decide_eq_true hsame]
      exact hcolor

/-- In a regular registry it is enough that the coats of the ancestors fit. -/
theorem looksFit_of_regular (hstocked : Stocked prospect.registry prospect.grade)
    (hregular : Regular prospect.registry) (hcoats : CoatFits prospect) : LooksFit prospect := by
  refine ⟨hcoats, fun skin hskin => ?_⟩
  obtain ⟨coat, hcoat, -⟩ := (forall_canWear_iff hstocked.coat).2 hcoats skin hskin
  obtain ⟨group, hgroup, hsame⟩ := hregular.grouped skin coat hcoat
  rw [getCoatInfo_eq hcoat, hsame]
  obtain ⟨maneTid, mane, hmane, hmaneGrade, -⟩ := hstocked.mane group hgroup
  have hsomeMane : ∃ entry ∈ prospect.registry.parts .mane, entry.2.minGrade ≤ prospect.grade :=
    ⟨_, HairMap.mem_of_find hmane, hmaneGrade⟩
  obtain ⟨tailTid, tail, htail, htailGrade, -⟩ := hstocked.tail group hgroup
  have hsomeTail : ∃ entry ∈ prospect.registry.parts .tail, entry.2.minGrade ≤ prospect.grade :=
    ⟨_, HairMap.mem_of_find htail, htailGrade⟩
  have hmanes (shape : Int) (hshape : prospect.CanInherit .mane shape) :
      ShapeFits prospect.registry prospect.grade group prospect.registry.manes shape := by
    obtain ⟨entry, hentry, rfl, hgrade⟩ := exists_part_of_canInherit hsomeMane hshape
    exact hregular.shapeFits hentry hgrade hgroup
  refine ⟨hmanes, ?_⟩
  rintro worn ⟨maneShape, hmaneShape, hpick⟩ shape hshape
  obtain ⟨hair, hworn, -, hcolor⟩ := (forall_canPick_iff prospect.registry.manes_nodup).2 (hmanes _ hmaneShape) _ hpick
  obtain ⟨entry, hentry, rfl, hgrade⟩ := exists_part_of_canInherit hsomeTail hshape
  unfold TailFits
  dsimp only
  split
  · exact hregular.shapeFits hentry hgrade hgroup
  · next hfound => exact suits_findTail hregular hentry hgrade (getMane_eq hworn ▸ hcolor) hfound

end Regular

/-! ## All random outcomes -/

/-! A mare with the only coat of the registry, and one with a coat that is not in it. -/

def plainRegistry : AppearanceRegistry where
  colorGroups := [[.black]]
  coats := (∅ : ExtTreeMap Tid Coat).insert 1 {}
  possibleCoats := [1]
  manes := [(1, { color := .black, shape := 1 })]
  tails := [(1, { color := .black, shape := 1 })]
  coats_mem tid := by
    rw [List.mem_singleton, ExtTreeMap.mem_insert, Std.LawfulEqCmp.compare_eq_iff_eq]
    exact ⟨fun h => .inl h.symm, fun h => h.elim Eq.symm fun hnone => absurd hnone ExtTreeMap.not_mem_empty⟩
  manes_nodup := List.nodup_singleton _
  tails_nodup := List.nodup_singleton _

def plainPair (mareSkinTid : Tid) : Prospect where
  registry := plainRegistry
  horses uid :=
    if uid = 10 then some { uid := 10, parts := { skinTid := mareSkinTid, maneTid := 1, tailTid := 1 } }
    else if uid = 20 then some { uid := 20, parts := { skinTid := 1, maneTid := 1, tailTid := 1 } }
    else none
  mareUid := 10
  stallionUid := 20
  foalGrade := 1

def firstSkinRoll : SkinRoll := ⟨.first, .first⟩

def firstManeTailRoll : ManeTailRoll := ⟨⟨0, .first⟩, ⟨0, .first⟩, .of 0, .of 0⟩

theorem plain_coat_iff {skin : Tid} {coat : Coat} : plainRegistry.coats[skin]? = some coat ↔ 1 = skin ∧ {} = coat := by
  unfold plainRegistry
  rw [Collection.getElem?_insert_self_or_ne, ExtTreeMap.getElem?_empty]
  split
  · next h => rw [Option.some.injEq, and_iff_right h.symm]
  · next h =>
      refine ⟨fun hnone => ?_, fun hsame => absurd hsame.1.symm h⟩
      cases hnone

theorem plain_stocked : Stocked plainRegistry 1 where
  coat := ⟨1, {}, plain_coat_iff.2 ⟨rfl, rfl⟩, le_rfl⟩
  mane group hgroup := by
    obtain rfl : group = 0 := Nat.lt_one_iff.1 hgroup
    exact ⟨1, _, rfl, le_rfl, mem_singleton.2 rfl⟩
  tail group hgroup := by
    obtain rfl : group = 0 := Nat.lt_one_iff.1 hgroup
    exact ⟨1, _, rfl, le_rfl, mem_singleton.2 rfl⟩

theorem plain_parts (part : Part) : plainRegistry.parts part = [(1, { color := .black, shape := 1 })] := by
  cases part <;> rfl

theorem plain_regular : Regular plainRegistry where
  grouped skin coat hcoat := by
    obtain ⟨-, rfl⟩ := plain_coat_iff.1 hcoat
    exact ⟨0, Nat.one_pos, rfl⟩
  valid part entry hentry := by
    rw [plain_parts, mem_singleton] at hentry
    subst hentry
    decide
  graded part entry hentry other hother _ := by
    rw [plain_parts, mem_singleton] at hentry hother
    rw [hentry, hother]
  colored part entry hentry group hgroup := by
    obtain rfl : group = 0 := Nat.lt_one_iff.1 hgroup
    rw [plain_parts, mem_singleton] at hentry
    rw [hentry, plain_parts]
    exact ⟨_, mem_singleton.2 rfl, rfl, mem_singleton.2 rfl⟩

theorem plain_coatFits : CoatFits (plainPair 1) := by
  have hskins : (plainPair 1).ancestorSkins = [1, 1] := rfl
  have hparents : ¬((plainPair 1).mareSkin = 0 ∨ (plainPair 1).stallionSkin = 0) :=
    not_or.2 ⟨(show ¬(1 : Tid) = 0 by decide), (show ¬(1 : Tid) = 0 by decide)⟩
  rw [CoatFits, if_neg hparents, hskins]
  refine .inr fun skin hskin => ExtTreeMap.isSome_getElem?_iff_mem.1 (Option.isSome_of_mem (plain_coat_iff.2 ⟨?_, rfl⟩))
  rcases mem_cons.1 hskin with hmare | hstallion
  · exact hmare.symm
  · exact (mem_singleton.1 hstallion).symm

theorem foal_of_unknown_coat : calculateFoalSkin (plainPair 99) firstSkinRoll = 99 := rfl

/-- A foal looks right in all random outcomes exactly if the condition holds. -/
theorem looks_right_iff (prospect : Prospect) (hstocked : Stocked prospect.registry prospect.grade) :
    (∀ skinRoll maneTailRoll,
        Right prospect.registry prospect.grade (foalLooks prospect skinRoll maneTailRoll)) ↔
      LooksFit prospect := by
  constructor
  · intro h
    refine ⟨(forall_canWear_iff hstocked.coat).1 fun skin hskin => ?_, fun skin hskin => ?_⟩
    · obtain ⟨skinRoll, rfl⟩ := exists_calculateFoalSkin_iff.2 hskin
      exact (h skinRoll ⟨⟨0, .first⟩, ⟨0, .first⟩, .of 0, .of 0⟩).coat
    · obtain ⟨skinRoll, rfl⟩ := exists_calculateFoalSkin_iff.2 hskin
      exact (forall_maneTail_iff rfl).1 fun roll => ⟨(h skinRoll roll).mane, (h skinRoll roll).tail⟩
  · intro h skinRoll maneTailRoll
    have hskin : CanWear prospect (calculateFoalSkin prospect skinRoll) :=
      exists_calculateFoalSkin_iff.1 ⟨skinRoll, rfl⟩
    obtain ⟨hmane, htail⟩ := (forall_maneTail_iff rfl).2 (h.hair _ hskin) maneTailRoll
    exact ⟨(forall_canWear_iff hstocked.coat).2 h.coats _ hskin, hmane, htail⟩

theorem looks_right_plain : Right plainRegistry 1 (foalLooks (plainPair 1) firstSkinRoll firstManeTailRoll) :=
  (looks_right_iff (plainPair 1) plain_stocked).2 (looksFit_of_regular plain_stocked plain_regular plain_coatFits)
    firstSkinRoll firstManeTailRoll

theorem unknown_coat_inherited : ¬∀ prospect : Prospect, Stocked prospect.registry prospect.grade → ∀ skinRoll maneTailRoll,
    Right prospect.registry prospect.grade (foalLooks prospect skinRoll maneTailRoll) := by
  intro h
  obtain ⟨coat, hcoat, -⟩ := (h (plainPair 99) plain_stocked firstSkinRoll firstManeTailRoll).coat
  have hskin : (foalLooks (plainPair 99) firstSkinRoll firstManeTailRoll).skinTid = 99 := foal_of_unknown_coat
  rw [hskin] at hcoat
  exact absurd (plain_coat_iff.1 hcoat).1 (by decide)

end Alicia.Genetics
