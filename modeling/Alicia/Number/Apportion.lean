import Mathlib.Algebra.Order.BigOperators.Group.List
import Mathlib.Algebra.Order.Monoid.Canonical.Defs
import Mathlib.Tactic.Ring

/-!
# Apportioning a total

A list of numbers is scaled to a total.  The shares are rounded down, so they add up to no more than the total,
and what is missing goes to the first of the largest shares.
-/

namespace Apportion

open List

/-- The shares of a total in proportion to some numbers, rounded down. -/
def shares (total : Nat) (xs : List Nat) : List Nat := xs.map fun x => x * total / xs.sum

/-- The index of the first number that is a largest one. -/
def largestIdx (xs : List Nat) : Nat := xs.findIdx fun x => xs.all fun y => y ≤ x

/-- The largest share gets something more. -/
def absorb (extra : Nat) (xs : List Nat) : List Nat := xs.modify (largestIdx xs) (· + extra)

/-- Shares that add up to the total. -/
def apportion (total : Nat) (xs : List Nat) : List Nat :=
  absorb (total - (shares total xs).sum) (shares total xs)

variable {total extra : Nat} {xs : List Nat}

theorem sum_map_div_le (total divisor : Nat) (xs : List Nat) :
    (xs.map fun x => x * total / divisor).sum ≤ xs.sum * total / divisor := by
  induction xs with
  | nil => exact Nat.zero_le _
  | cons x rest ih =>
    rw [map_cons, sum_cons, sum_cons, Nat.add_mul]
    exact Nat.le_trans (Nat.add_le_add_left ih _) Nat.div_add_div_le_add_div

theorem sum_shares_le (h : 0 < xs.sum) : (shares total xs).sum ≤ total :=
  calc (shares total xs).sum ≤ xs.sum * total / xs.sum := sum_map_div_le total xs.sum xs
    _ = total := Nat.mul_div_cancel_left total h

theorem largestIdx_lt (h : xs ≠ []) : largestIdx xs < xs.length := by
  obtain ⟨x, hmax⟩ := Option.isSome_iff_exists.1 (isSome_max?_of_ne_nil h)
  obtain ⟨hmem, hlargest⟩ := List.max?_eq_some_iff.1 hmax
  exact findIdx_lt_length_of_exists
    ⟨x, hmem, all_eq_true.2 fun y hy => decide_eq_true (hlargest y hy)⟩

theorem sum_modify_add (extra : Nat) : ∀ {xs : List Nat} {i : Nat}, i < xs.length →
    (xs.modify i (· + extra)).sum = xs.sum + extra
  | x :: rest, 0, _ => by
    rw [modify_zero_cons, sum_cons, sum_cons]
    ring
  | x :: rest, i + 1, h => by
    rw [modify_succ_cons, sum_cons, sum_cons, sum_modify_add extra (Nat.lt_of_succ_lt_succ h)]
    ring

theorem sum_absorb (extra : Nat) (h : xs ≠ []) : (absorb extra xs).sum = xs.sum + extra :=
  sum_modify_add extra (largestIdx_lt h)

theorem ne_nil_of_sum_pos (h : 0 < xs.sum) : xs ≠ [] := by
  rintro rfl
  exact absurd h (Nat.lt_irrefl 0)

/-- The shares add up to the total, unless there is nothing to scale. -/
theorem sum_apportion (total : Nat) (h : 0 < xs.sum) : (apportion total xs).sum = total := by
  have hne : shares total xs ≠ [] := fun hnil => ne_nil_of_sum_pos h (map_eq_nil_iff.1 hnil)
  rw [apportion, sum_absorb _ hne, Nat.add_sub_of_le (sum_shares_le h)]

theorem absorb_zero (xs : List Nat) : absorb 0 xs = xs := modify_id _ xs

/-- Numbers that add up to the total are their own shares. -/
theorem apportion_self (h : 0 < xs.sum) : apportion xs.sum xs = xs := by
  have hshares : shares xs.sum xs = xs := by
    rw [shares]
    refine (map_congr_left fun x _ => ?_).trans (map_id xs)
    exact Nat.mul_div_cancel x h
  rw [apportion, hshares, Nat.sub_self, absorb_zero]

theorem length_apportion (total : Nat) (xs : List Nat) : (apportion total xs).length = xs.length := by
  rw [apportion, absorb, length_modify, shares, length_map]

/-- What a cap cuts off some numbers. -/
def excess (cap : Nat) (xs : List Nat) : Nat := (xs.map fun x => x - cap).sum

theorem sum_capped_add_excess (cap : Nat) (xs : List Nat) :
    (xs.map fun x => min x cap).sum + excess cap xs = xs.sum := by
  induction xs with
  | nil => rfl
  | cons x rest ih =>
    rw [excess] at ih ⊢
    rw [map_cons, map_cons, sum_cons, sum_cons, sum_cons]
    omega

/-- Numbers that do not add up to more than the cap lose nothing. -/
theorem excess_eq_zero {cap : Nat} (h : xs.sum ≤ cap) : excess cap xs = 0 := by
  refine sum_eq_zero fun cut hcut => ?_
  obtain ⟨x, hx, rfl⟩ := mem_map.1 hcut
  exact Nat.sub_eq_zero_of_le (Nat.le_trans (le_sum_of_mem hx) h)

end Apportion
