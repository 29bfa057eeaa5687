import Alicia.Collection.Maps
import Alicia.Data.Definitions
import Alicia.Number.Draws
import Mathlib.Data.List.Induction
import Mathlib.Data.List.Nodup

/-!
# The horse registry: appearance

The coats, manes and tails of horses.  A coat allows the colors of one group, and manes and tails are inherited
by their shape, which comes in several colors.
-/

namespace Alicia.Registry

open Std (ExtTreeMap)
open Data (Tid invalidTid)
open Draws List

inductive Color where
  | black
  | white
  | brown
  | darkBrown
  | grey
  deriving DecidableEq

structure Coat where
  minGrade : Int := 1
  inheritanceRate : ℚ := 1
  /-- The index of a color group. -/
  allowedColorGroups : Int := 0
  deriving DecidableEq

/-- `Mane` and `Tail`, which have the same fields. -/
structure Hair where
  color : Color := .white
  shape : Int := 0
  inheritanceRate : ℚ := 1
  minGrade : Int := 1
  deriving DecidableEq

structure ShapeInheritance where
  shape : Int := 0
  minGrade : Int := 1
  inheritanceRate : ℚ := 1
  deriving DecidableEq

/-- What is known of a shape: the part of the least template, and the least grade of all. -/
structure Aggregate where
  representativeTid : Tid := invalidTid
  minGrade : Int := 0
  inheritanceRate : ℚ := 0

/-- Manes or tails, in the order of their map. -/
abbrev HairMap := List (Tid × Hair)

/-- The aggregate of a shape after one more part of it. -/
def Aggregate.add (aggregate : Option Aggregate) (entry : Tid × Hair) : Aggregate :=
  match aggregate with
  | none => ⟨entry.1, entry.2.minGrade, entry.2.inheritanceRate⟩
  | some aggregate =>
    let minGrade := min aggregate.minGrade entry.2.minGrade
    if entry.1 < aggregate.representativeTid then ⟨entry.1, minGrade, entry.2.inheritanceRate⟩
    else { aggregate with minGrade := minGrade }

/-- One step of the loop of `AggregateShapeInheritance`. -/
def aggregatePart (byShape : ExtTreeMap Int Aggregate) (entry : Tid × Hair) : ExtTreeMap Int Aggregate :=
  byShape.insert entry.2.shape (Aggregate.add byShape[entry.2.shape]? entry)

def aggregateShapeInheritance (parts : HairMap) : List ShapeInheritance :=
  (parts.foldl aggregatePart ∅).toList.map fun entry => ⟨entry.1, entry.2.minGrade, entry.2.inheritanceRate⟩

/-- `Genetics::Part` -/
inductive Part where
  | skin
  | mane
  | tail
  deriving DecidableEq

/-- The tables of the appearance.  The possible coats are those of the map. -/
structure AppearanceRegistry where
  colorGroups : List (List Color) := []
  coats : ExtTreeMap Tid Coat := ∅
  possibleCoats : List Tid := []
  manes : HairMap := []
  tails : HairMap := []
  coats_mem : ∀ tid, tid ∈ possibleCoats ↔ tid ∈ coats
  manes_nodup : (manes.map Prod.fst).Nodup
  tails_nodup : (tails.map Prod.fst).Nodup

/-- `_manes.find(tid)` and `_tails.find(tid)` -/
def HairMap.find (parts : HairMap) (tid : Tid) : Option Hair :=
  (List.find? (fun entry => entry.1 = tid) parts).map Prod.snd

namespace AppearanceRegistry

variable (registry : AppearanceRegistry)

/-- A coat that is not found is taken for one that any foal can wear. -/
def getCoatInfo (coatTid : Tid) : Coat := registry.coats[coatTid]?.getD {}

/-- A mane or a tail that is not found is taken for a white short one. -/
def invalidHair : Hair where
  color := .white
  shape := 1
  inheritanceRate := 30
  minGrade := 1

def getMane (tid : Tid) : Hair := (registry.manes.find tid).getD invalidHair

def getTail (tid : Tid) : Hair := (registry.tails.find tid).getD invalidHair

def parts (part : Part) : HairMap := if part = .mane then registry.manes else registry.tails

/-- The colors of a group; there are none outside the groups. -/
def groupColors (colorGroupId : Int) : List Color :=
  if 0 ≤ colorGroupId then (registry.colorGroups[colorGroupId.toNat]?).getD [] else []

/-- `_manesByColorAndShape[colorGroupId][shape]`, and the same of the tails. -/
def byColorAndShape (parts : HairMap) (colorGroupId shape : Int) : List Tid :=
  (parts.filter fun entry =>
    (registry.groupColors colorGroupId).contains entry.2.color && entry.2.shape = shape).map Prod.fst

def getRandomManeFromColorAndShape (pick : Pick) (colorGroupId shape : Int) : Tid :=
  (pickUniform pick (registry.byColorAndShape registry.manes colorGroupId shape)).getD invalidTid

def getRandomTailByColorGroupAndShape (pick : Pick) (colorGroupId shape : Int) : Tid :=
  (pickUniform pick (registry.byColorAndShape registry.tails colorGroupId shape)).getD invalidTid

def findTailByColorAndShape (color : Color) (shape : Int) : Tid :=
  ((registry.tails.find? fun entry => entry.2.color = color && entry.2.shape = shape).map Prod.fst).getD
    invalidTid

/-- `GetManeShapeInheritance` and `GetTailShapeInheritance` -/
def getShapeInheritance (part : Part) : List ShapeInheritance :=
  aggregateShapeInheritance (registry.parts part)

end AppearanceRegistry

/-! ## Lookups -/

section Lookups

variable {registry : AppearanceRegistry}

theorem HairMap.find_of_mem {parts : HairMap} (hnodup : (parts.map Prod.fst).Nodup) {tid : Tid} {hair : Hair}
    (h : (tid, hair) ∈ parts) : HairMap.find parts tid = some hair := by
  rw [HairMap.find]
  cases hfind : List.find? (fun entry => decide (entry.1 = tid)) parts with
  | none => exact absurd (decide_eq_true rfl) (List.find?_eq_none.1 hfind _ h)
  | some entry =>
    obtain ⟨other, value⟩ := entry
    have hkey := List.find?_some hfind
    cases of_decide_eq_true hkey
    have hsame := inj_on_of_nodup_map hnodup (mem_of_find?_eq_some hfind) h rfl
    cases hsame
    rfl

theorem HairMap.mem_of_find {parts : HairMap} {tid : Tid} {hair : Hair} (h : HairMap.find parts tid = some hair) :
    (tid, hair) ∈ parts := by
  obtain ⟨⟨other, value⟩, hfind, rfl⟩ := Option.map_eq_some_iff.1 h
  have hkey := List.find?_some hfind
  cases of_decide_eq_true hkey
  exact mem_of_find?_eq_some hfind

theorem getMane_eq {tid : Tid} {hair : Hair} (h : registry.manes.find tid = some hair) : registry.getMane tid = hair := by
  rw [AppearanceRegistry.getMane, h]
  rfl

theorem mem_byColorAndShape {parts : HairMap} {colorGroupId shape : Int} {tid : Tid} :
    tid ∈ registry.byColorAndShape parts colorGroupId shape ↔
      ∃ hair, (tid, hair) ∈ parts ∧ hair.color ∈ registry.groupColors colorGroupId ∧ hair.shape = shape := by
  rw [AppearanceRegistry.byColorAndShape, mem_map]
  constructor
  · rintro ⟨⟨other, hair⟩, hentry, rfl⟩
    obtain ⟨hmem, hfits⟩ := mem_filter.1 hentry
    obtain ⟨hcolor, hshape⟩ := Bool.and_eq_true_iff.1 hfits
    exact ⟨hair, hmem, contains_iff_mem.1 hcolor, of_decide_eq_true hshape⟩
  · rintro ⟨hair, hmem, hcolor, hshape⟩
    refine ⟨(tid, hair), mem_filter.2 ⟨hmem, ?_⟩, rfl⟩
    exact Bool.and_eq_true_iff.2 ⟨contains_iff_mem.2 hcolor, decide_eq_true hshape⟩

end Lookups

/-! ## Shapes -/

theorem minGrade_add (aggregate : Option Aggregate) (entry : Tid × Hair) (bound : Int) :
    (Aggregate.add aggregate entry).minGrade ≤ bound ↔
      (∃ before, aggregate = some before ∧ before.minGrade ≤ bound) ∨ entry.2.minGrade ≤ bound := by
  cases aggregate with
  | none => exact ⟨.inr, fun h => h.resolve_left fun ⟨_, hnone, _⟩ => nomatch hnone⟩
  | some before =>
    have hmin : (Aggregate.add (some before) entry).minGrade = min before.minGrade entry.2.minGrade := by
      unfold Aggregate.add
      dsimp only
      split <;> rfl
    rw [hmin, min_le_iff]
    refine or_congr_left ⟨fun h => ⟨before, rfl, h⟩, ?_⟩
    rintro ⟨_, ⟨⟩, h⟩
    exact h

/-- A shape is known with a grade below a bound exactly if a part of the shape is below it. -/
theorem aggregated_le_iff (parts : HairMap) (shape bound : Int) :
    (∃ aggregate, (parts.foldl aggregatePart ∅)[shape]? = some aggregate ∧ aggregate.minGrade ≤ bound) ↔
      ∃ entry ∈ parts, entry.2.shape = shape ∧ entry.2.minGrade ≤ bound := by
  induction parts using List.reverseRecOn with
  | nil =>
    rw [foldl_nil, ExtTreeMap.getElem?_empty]
    exact ⟨fun ⟨_, h, _⟩ => absurd h.symm (Option.some_ne_none _), fun ⟨_, h, _⟩ => absurd h not_mem_nil⟩
  | append_singleton parts entry ih =>
    rw [foldl_append, foldl_cons, foldl_nil, aggregatePart]
    generalize parts.foldl aggregatePart ∅ = byShape at ih
    simp only [Collection.getElem?_insert_self_or_ne, mem_append, mem_singleton, or_and_right, exists_or,
      exists_eq_left, ← ih]
    by_cases hshape : shape = entry.2.shape
    · subst hshape
      simp only [if_pos, Option.some.injEq, exists_eq_left', minGrade_add, true_and]
    · simp only [if_neg hshape, Ne.symm hshape, false_and, or_false]

/-- A shape is eligible for a grade exactly if a part of the shape is. -/
theorem mem_aggregateShapeInheritance {parts : HairMap} {shape bound : Int} :
    (∃ info ∈ aggregateShapeInheritance parts, info.shape = shape ∧ info.minGrade ≤ bound) ↔
      ∃ entry ∈ parts, entry.2.shape = shape ∧ entry.2.minGrade ≤ bound := by
  rw [← aggregated_le_iff]
  constructor
  · rintro ⟨info, hinfo, rfl, hgrade⟩
    obtain ⟨⟨shape, aggregate⟩, hentry, rfl⟩ := mem_map.1 hinfo
    exact ⟨aggregate, ExtTreeMap.mem_toList_iff_getElem?_eq_some.1 hentry, hgrade⟩
  · rintro ⟨aggregate, haggregate, hgrade⟩
    exact ⟨_, mem_map_of_mem (ExtTreeMap.mem_toList_iff_getElem?_eq_some.2 haggregate), rfl, hgrade⟩

end Alicia.Registry
