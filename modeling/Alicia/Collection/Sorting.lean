import Mathlib.Data.List.Basic
import Mathlib.Order.Lattice
import Mathlib.Order.RelClasses

/-!
# Sorted lists and their chunks

`std::ranges::sort` promises a sorted permutation if its comparator is a strict weak order, and says
nothing about the order of equivalent items.  `Sorter` is any function that keeps this promise.

A list is cut into chunks of equal length by `std::views::chunk`, and the last one may be shorter.
-/

namespace Collection

variable {α : Type*}

/-- A comparator is a strict weak order. -/
abbrev StrictWeak (lt : α → α → Bool) : Prop := IsStrictWeakOrder α fun a b => lt a b = true

/-- A comparator that compares a key is a strict weak order. -/
theorem strictWeak_of_key {κ : Type*} [LinearOrder κ] (key : α → κ) {lt : α → α → Bool}
    (h : ∀ a b, lt a b = true ↔ key a < key b) : StrictWeak lt := by
  refine { irrefl := ?_, trans := ?_, incomp_trans := ?_ }
  · intro a
    simp [h]
  · intro a b c hab hbc
    rw [h] at hab hbc ⊢
    exact hab.trans hbc
  · intro a b c hab hbc
    simp only [h, not_lt] at hab hbc ⊢
    exact ⟨hbc.1.trans hab.1, hab.2.trans hbc.2⟩

/-- `std::ranges::sort`. -/
structure Sorter (α : Type*) where
  sort : (α → α → Bool) → List α → List α
  perm : ∀ lt items, StrictWeak lt → (sort lt items).Perm items
  sorted : ∀ lt items, StrictWeak lt → (sort lt items).Pairwise fun a b => lt b a = false

/-- A stable sort is one of them. -/
def Sorter.stable (α : Type*) : Sorter α where
  sort lt items := items.mergeSort fun a b => !lt b a
  perm lt items _ := List.mergeSort_perm items _
  sorted lt items h := by
    have hsorted := @List.pairwise_mergeSort _ (fun a b => !lt b a) ?_ ?_ items
    · exact hsorted.imp fun hle => by simpa using hle
    · intro a b c hab hbc
      have hincomp := h.incomp_trans a b c
      have hleft := h.trans c a b
      have hright := h.trans b c a
      grind
    · intro a b
      have hirrefl := h.irrefl a
      have htrans := h.trans a b a
      grind

section Chunks

variable {n index : Nat} {items : List α}

/-- How many chunks of `n` items there are. -/
def chunkCount (n : Nat) (items : List α) : Nat := (items.length + n - 1) / n

/-- One of the chunks, counted from zero. -/
def chunk (n index : Nat) (items : List α) : List α := (items.drop (index * n)).take n

theorem lt_chunkCount_iff (hn : 0 < n) : index < chunkCount n items ↔ index * n < items.length := by
  rw [chunkCount, ← Nat.succ_le_iff, Nat.le_div_iff_mul_le hn, Nat.succ_mul]
  omega

theorem chunkCount_eq_zero_iff (hn : 0 < n) : chunkCount n items = 0 ↔ items = [] := by
  have hcount : 0 < chunkCount n items ↔ 0 * n < items.length := lt_chunkCount_iff hn
  rw [← List.length_eq_zero_iff]
  omega

theorem flatMap_chunk_range (count : Nat) :
    ((List.range count).flatMap fun index => chunk n index items) = items.take (count * n) := by
  induction count with
  | zero => simp
  | succ count ih =>
    rw [List.range_succ, List.flatMap_append, ih, Nat.succ_mul, List.take_add]
    simp [chunk]

/-- The chunks are the whole list, in its order. -/
theorem flatMap_chunk (hn : 0 < n) :
    ((List.range (chunkCount n items)).flatMap fun index => chunk n index items) = items := by
  rw [flatMap_chunk_range]
  apply List.take_of_length_le
  by_contra hlt
  have hcount := (lt_chunkCount_iff hn).2 (Nat.lt_of_not_le hlt)
  omega

end Chunks

end Collection
