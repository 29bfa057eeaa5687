import Mathlib.Data.List.Lattice
import Mathlib.Data.Nat.ModEq

/-!
# Blocks on a ring

A count goes round a ring of `m` numbers, and leaves out zero where it comes to it.  Each claim takes a block of
numbers, from the count on.
-/

namespace Wrapping

/-- The count after a claim of `n` numbers. -/
def advance (m count n : Nat) : Nat := if (count + n) % m = 0 then 1 else (count + n) % m

/-- The count after some claims. -/
def after (m count : Nat) (claims : List Nat) : Nat := claims.foldl (advance m) count

/-- How far the claims take the count, with the zeros that it leaves out. -/
def span (m : Nat) : Nat → List Nat → Nat
  | _, [] => 0
  | count, n :: claims => n + (if (count + n) % m = 0 then 1 else 0) + span m (advance m count n) claims

/-- The block of `n` numbers from the count on. -/
def block (m count n : Nat) : List Nat := (List.range n).map fun offset => (count + offset) % m

section Count

variable {m count n : Nat} {claims : List Nat}

theorem after_cons : after m count (n :: claims) = after m (advance m count n) claims := rfl

theorem advance_pos : 0 < advance m count n := by
  rw [advance]
  split
  · exact Nat.one_pos
  · next h => exact Nat.pos_of_ne_zero h

theorem advance_lt (hm : 1 < m) : advance m count n < m := by
  rw [advance]
  split
  · exact hm
  · exact Nat.mod_lt _ (Nat.lt_trans Nat.one_pos hm)

theorem after_pos (h : 0 < count) : 0 < after m count claims := by
  induction claims generalizing count with
  | nil => exact h
  | cons n claims ih => exact ih advance_pos

theorem after_lt (hm : 1 < m) (h : count < m) : after m count claims < m := by
  induction claims generalizing count with
  | nil => exact h
  | cons n claims ih => exact ih (advance_lt hm)

/-- A zero that is left out is a number more. -/
theorem advance_mod : advance m count n % m = (count + n + if (count + n) % m = 0 then 1 else 0) % m := by
  rw [advance]
  split
  · next h => rw [Nat.add_mod, h, Nat.zero_add, Nat.mod_mod]
  · rw [Nat.mod_mod, Nat.add_zero]

/-- The count has come as far as the claims take it. -/
theorem after_eq (hm : 1 < m) (h : count < m) : after m count claims = (count + span m count claims) % m := by
  induction claims generalizing count with
  | nil => exact (Nat.mod_eq_of_lt h).symm
  | cons n claims ih =>
    rw [after_cons, ih (advance_lt hm), span, ← Nat.mod_add_mod, advance_mod, Nat.mod_add_mod]
    congr 1
    omega

theorem sum_le_span : claims.sum ≤ span m count claims := by
  induction claims generalizing count with
  | nil => exact Nat.le_refl _
  | cons n claims ih =>
    rw [List.sum_cons, span]
    have hrest := @ih (advance m count n)
    omega

/-- Nothing is left out before the end of the ring. -/
theorem span_of_lt (hpos : 0 < count) (h : count + claims.sum < m) : span m count claims = claims.sum := by
  induction claims generalizing count with
  | nil => rfl
  | cons n claims ih =>
    rw [List.sum_cons] at h ⊢
    have hmod : (count + n) % m = count + n := Nat.mod_eq_of_lt (by omega)
    have hne : (count + n) % m ≠ 0 := by omega
    rw [span, advance, if_neg hne, if_neg hne, hmod, ih (by omega) (by omega)]
    omega

/-- Zero is left out once at most on less than a round. -/
theorem span_le (h : claims.sum + 1 < m) : span m count claims ≤ claims.sum + 1 := by
  induction claims generalizing count with
  | nil => exact Nat.zero_le _
  | cons n claims ih =>
    rw [List.sum_cons] at h ⊢
    rw [span, advance]
    split
    · rw [span_of_lt Nat.one_pos (by omega)]
      omega
    · have hrest := @ih ((count + n) % m) (by omega)
      omega

theorem span_cons_le (h : claims.sum + 1 < m) : span m count (n :: claims) ≤ n + claims.sum + 1 := by
  rw [span, advance]
  split
  · rw [span_of_lt Nat.one_pos (by omega)]
    omega
  · have hrest := @span_le m ((count + n) % m) claims h
    omega

end Count

section Blocks

variable {m count n k d : Nat}

theorem mem_block {x : Nat} : x ∈ block m count n ↔ ∃ offset < n, (count + offset) % m = x := by
  rw [block, List.mem_map]
  exact exists_congr fun offset => and_congr_left fun _ => List.mem_range

/-- A block is apart from an earlier one if it starts behind it and does not come round to it. -/
theorem disjoint_block_iff (hn : 0 < n) (hk : 0 < k) (hd : d < m) :
    List.Disjoint (block m count n) (block m (count + d) k) ↔ n ≤ d ∧ d + k ≤ m := by
  constructor
  · intro hdisjoint
    refine ⟨?_, ?_⟩
    · by_contra hlt
      exact hdisjoint (mem_block.2 ⟨d, Nat.lt_of_not_le hlt, rfl⟩) (mem_block.2 ⟨0, hk, rfl⟩)
    · by_contra hlt
      refine hdisjoint (mem_block.2 ⟨0, hn, rfl⟩) (mem_block.2 ⟨m - d, by omega, ?_⟩)
      rw [Nat.add_assoc, Nat.add_sub_cancel' (Nat.le_of_lt hd), Nat.add_mod_right, Nat.add_zero]
  · rintro ⟨hbehind, hround⟩ x hfirst hsecond
    obtain ⟨i, hi, rfl⟩ := mem_block.1 hfirst
    obtain ⟨j, hj, hsame⟩ := mem_block.1 hsecond
    have hsame : (count + (d + j)) % m = (count + i) % m := by rwa [← Nat.add_assoc]
    have hoffset : (d + j) % m = i % m := Nat.ModEq.add_left_cancel' count hsame
    rw [Nat.mod_eq_of_lt (by omega), Nat.mod_eq_of_lt (by omega)] at hoffset
    omega

theorem block_mod : block m (count % m) n = block m count n :=
  List.map_congr_left fun _ _ => Nat.mod_add_mod _ _ _

/-- The block of a claim, and of one that follows after less than a round of others. -/
theorem disjoint_after_iff {claimed second : Nat} {between : List Nat} (hm : 1 < m) (hcount : count < m)
    (hbetween : between.sum + 1 < m) (hsecond : 0 < second) :
    List.Disjoint (block m count (max claimed 1)) (block m (after m count (claimed :: between)) second) ↔
      max claimed 1 ≤ span m count (claimed :: between) ∧ span m count (claimed :: between) + second ≤ m := by
  have hle := @span_cons_le m count claimed between hbetween
  rw [after_eq hm hcount, block_mod]
  rcases Nat.lt_or_ge (span m count (claimed :: between)) m with hlt | hge
  · exact disjoint_block_iff (by omega) hsecond hlt
  · have hround : block m (count + span m count (claimed :: between)) second =
        block m (count + span m count (claimed :: between) % m) second := by
      rw [← block_mod, ← Nat.add_mod_mod, block_mod]
    rw [hround, disjoint_block_iff (by omega) hsecond (Nat.mod_lt _ (Nat.lt_trans Nat.one_pos hm))]
    have hmod := Nat.mod_le (span m count (claimed :: between) - m) m
    rw [← Nat.mod_eq_sub_mod hge] at hmod
    omega

end Blocks

end Wrapping
