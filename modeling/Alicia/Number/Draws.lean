import Mathlib.Algebra.Order.Ring.Rat
import Mathlib.Data.List.GetD

/-!
# Draws

A discrete distribution draws an index of a list of weights, and one of weight zero only if there is no other.
A uniform distribution draws any index.  What a draw can yield is a matter of the list alone.
-/

namespace Draws

open List

/-- An index that a discrete distribution may draw. -/
def Drawable (weights : List ℚ) (index : Nat) : Prop :=
  index < weights.length ∧ ((∃ weight ∈ weights, 0 < weight) → 0 < weights.getD index 0)

/-- A discrete distribution, with the random numbers that it gets. -/
structure Draw where
  index : List ℚ → Nat
  drawable : ∀ weights, weights ≠ [] → Drawable weights (index weights)

/-- A uniform distribution, with the random numbers that it gets. -/
structure Pick where
  index : Nat → Nat
  index_lt : ∀ count, 0 < count → index count < count

/-- The first index of positive weight, or the first one. -/
def firstIndex (weights : List ℚ) : Nat := (weights.findIdx? fun weight => 0 < weight).getD 0

theorem drawable_firstIndex {weights : List ℚ} (h : weights ≠ []) : Drawable weights (firstIndex weights) := by
  unfold firstIndex
  cases hfind : weights.findIdx? fun weight => 0 < weight with
  | none =>
    refine ⟨length_pos_iff.2 h, ?_⟩
    rintro ⟨weight, hmem, hpos⟩
    exact absurd hpos (of_decide_eq_false (List.findIdx?_eq_none_iff.1 hfind weight hmem))
  | some index =>
    obtain ⟨hlt, hpos, -⟩ := List.findIdx?_eq_some_iff_getElem.1 hfind
    refine ⟨hlt, fun _ => ?_⟩
    rw [Option.getD_some, getD_eq_getElem weights 0 hlt]
    exact of_decide_eq_true hpos

/-- A draw with a result for one list. -/
def Draw.of (weights : List ℚ) (index : Nat) (h : Drawable weights index) : Draw where
  index other := if other = weights then index else firstIndex other
  drawable other hother := by
    split
    · next hsame => exact hsame ▸ h
    · exact drawable_firstIndex hother

theorem Draw.of_index {weights : List ℚ} {index : Nat} (h : Drawable weights index) :
    (Draw.of weights index h).index weights = index := if_pos rfl

/-- A draw of the first index. -/
def Draw.first : Draw := ⟨firstIndex, fun _ => drawable_firstIndex⟩

/-- A pick of an index, where there are as many. -/
def Pick.of (index : Nat) : Pick where
  index count := if index < count then index else 0
  index_lt count hcount := by
    split
    · assumption
    · exact hcount

section Items

variable {α : Type}

/-- The item that is drawn by its weight, or the fallback if there is none. -/
def pickWeighted (draw : Draw) (entries : List (α × ℚ)) (fallback : α) : α :=
  if entries.isEmpty then fallback
  else ((entries.map Prod.fst)[draw.index (entries.map Prod.snd)]?).getD fallback

/-- The item may be drawn. -/
def Pickable (entries : List (α × ℚ)) (fallback item : α) : Prop :=
  entries = [] ∧ item = fallback ∨
    ∃ weight, (item, weight) ∈ entries ∧ ((∃ entry ∈ entries, 0 < entry.2) → 0 < weight)

theorem exists_weight_iff {entries : List (α × ℚ)} :
    (∃ weight ∈ entries.map Prod.snd, 0 < weight) ↔ ∃ entry ∈ entries, 0 < entry.2 := by
  constructor
  · rintro ⟨weight, hweight, hpos⟩
    obtain ⟨entry, hentry, rfl⟩ := mem_map.1 hweight
    exact ⟨entry, hentry, hpos⟩
  · rintro ⟨entry, hentry, hpos⟩
    exact ⟨entry.2, mem_map_of_mem hentry, hpos⟩

/-- The item at an index that is drawn. -/
theorem pickWeighted_of_getElem? {draw : Draw} {entries : List (α × ℚ)} {fallback : α} {entry : α × ℚ}
    (h : entries[draw.index (entries.map Prod.snd)]? = some entry) :
    pickWeighted draw entries fallback = entry.1 := by
  have hne : ¬entries.isEmpty = true := by
    rintro hempty
    rw [isEmpty_iff.1 hempty] at h
    cases h
  rw [pickWeighted, if_neg hne, List.getElem?_map, h]
  rfl

theorem exists_pickWeighted_iff {entries : List (α × ℚ)} {fallback item : α} :
    (∃ draw, pickWeighted draw entries fallback = item) ↔ Pickable entries fallback item := by
  constructor
  · rintro ⟨draw, rfl⟩
    cases entries with
    | nil => exact .inl ⟨rfl, rfl⟩
    | cons first rest =>
      have hne : (first :: rest).map Prod.snd ≠ [] := cons_ne_nil _ _
      obtain ⟨hlt, hpos⟩ := draw.drawable _ hne
      rw [exists_weight_iff] at hpos
      have hbound := hlt
      rw [length_map] at hbound
      rw [getD_eq_getElem _ 0 hlt, getElem_map] at hpos
      rw [pickWeighted_of_getElem? (List.getElem?_eq_getElem hbound)]
      exact .inr ⟨_, getElem_mem hbound, hpos⟩
  · rintro (⟨rfl, rfl⟩ | ⟨weight, hmem, hpos⟩)
    · exact ⟨.first, rfl⟩
    · obtain ⟨index, hindex⟩ := List.getElem?_of_mem hmem
      have hdrawable : Drawable (entries.map Prod.snd) index := by
        obtain ⟨hlt, hentry⟩ := List.getElem?_eq_some_iff.1 hindex
        refine ⟨(length_map Prod.snd).symm ▸ hlt, fun hexists => ?_⟩
        rw [getD_eq_getElem _ 0 ((length_map Prod.snd).symm ▸ hlt), getElem_map, hentry]
        exact hpos (exists_weight_iff.1 hexists)
      refine ⟨.of _ index hdrawable, ?_⟩
      exact pickWeighted_of_getElem? ((congrArg (entries[·]?) (Draw.of_index hdrawable)).trans hindex)

/-- The item that is picked, if there is one. -/
def pickUniform (pick : Pick) (items : List α) : Option α := items[pick.index items.length]?

theorem exists_pickUniform_some_iff {items : List α} {item : α} :
    (∃ pick, pickUniform pick items = some item) ↔ item ∈ items := by
  constructor
  · rintro ⟨pick, h⟩
    exact mem_of_getElem? h
  · intro h
    obtain ⟨index, hindex⟩ := List.getElem?_of_mem h
    refine ⟨.of index, ?_⟩
    obtain ⟨hlt, -⟩ := List.getElem?_eq_some_iff.1 hindex
    rw [pickUniform, Pick.of]
    dsimp only
    rw [if_pos hlt, hindex]

theorem pickUniform_eq_none_iff {pick : Pick} {items : List α} : pickUniform pick items = none ↔ items = [] := by
  rw [pickUniform, List.getElem?_eq_none_iff]
  constructor
  · intro h
    by_contra hne
    exact absurd (pick.index_lt _ (length_pos_iff.2 hne)) (Nat.not_lt.2 h)
  · rintro rfl
    exact Nat.zero_le _

end Items

end Draws
