import Mathlib.Order.Filter.AtTopBot.Basic
import Mathlib.Data.Set.Finite.List
import Mathlib.Order.Filter.Finite

/-!
# Facts along an infinite run

A fact that is never lost holds from some moment on once it has held, and one that is never gained holds
for ever or is gone from some moment on.
-/

namespace Transition

open Filter (Eventually atTop)

variable {fact : Nat → Prop}

theorem eventually_of_persists (persists : ∀ n, fact n → fact (n + 1)) {n : Nat} (h : fact n) :
    ∀ᶠ n in atTop, fact n := by
  refine Filter.eventually_atTop.2 ⟨n, fun later hlater => ?_⟩
  induction later, hlater using Nat.le_induction with
  | base => exact h
  | succ later _ ih => exact persists later ih

theorem forall_or_eventually_not (shrinks : ∀ n, fact (n + 1) → fact n) :
    (∀ n, fact n) ∨ ∀ᶠ n in atTop, ¬fact n := by
  by_cases halways : ∀ n, fact n
  · exact .inl halways
  · obtain ⟨n, hn⟩ := not_forall.1 halways
    exact .inr (eventually_of_persists (fun n hnot hnext => hnot (shrinks n hnext)) hn)

/-- What holds from some moment on for each member of a list holds from some moment on for all. -/
theorem eventually_forall_mem {α : Type*} {list : List α} {fact : α → Nat → Prop}
    (h : ∀ a ∈ list, ∀ᶠ n in atTop, fact a n) : ∀ᶠ n in atTop, ∀ a ∈ list, fact a n :=
  (Filter.eventually_all_finite list.finite_toSet).2 h

end Transition
