import Mathlib.Data.Nat.Find

/-!
# Climbing while the next level is reached

A level goes up one at a time as long as the level after it is reached, to a top.  A climb that is
interrupted and goes on later ends where the whole climb ends, and where a reached level has all the
levels below it reached, it ends at the greatest of them.
-/

namespace Climb

/-- Go up while the next level is reached, to `top` at most. -/
def climb (reached : Nat → Prop) [DecidablePred reached] (top level : Nat) : Nat :=
  if level < top ∧ reached (level + 1) then climb reached top (level + 1) else level
termination_by top - level

variable {reached : Nat → Prop} [DecidablePred reached] {top level : Nat}

theorem climb_next (hlevel : level < top) (hreached : reached (level + 1)) :
    climb reached top level = climb reached top (level + 1) := by
  rw [climb, if_pos ⟨hlevel, hreached⟩]

theorem climb_stop (h : ¬(level < top ∧ reached (level + 1))) : climb reached top level = level := by
  rw [climb, if_neg h]

theorem climb_top : climb reached top top = top :=
  climb_stop fun h => absurd h.1 (Nat.lt_irrefl top)

theorem le_climb (reached : Nat → Prop) [DecidablePred reached] (top level : Nat) :
    level ≤ climb reached top level := by
  fun_induction climb reached top level with
  | case1 level h ih => omega
  | case2 level h => exact Nat.le_refl level

theorem climb_le (h : level ≤ top) : climb reached top level ≤ top := by
  fun_induction climb reached top level with
  | case1 level hnext ih => exact ih hnext.1
  | case2 level hstop => exact h

/-- A climb goes on from where a climb that reached less has stopped. -/
theorem climb_climb {first : Nat → Prop} [DecidablePred first] (h : ∀ level, first level → reached level)
    (top level : Nat) : climb reached top (climb first top level) = climb reached top level := by
  fun_induction climb first top level with
  | case1 level hnext ih => exact ih.trans (climb_next hnext.1 (h _ hnext.2)).symm
  | case2 level hstop => rfl

omit [DecidablePred reached] in
/-- What is reached reaches down to every lower level, if it does so one level at a time. -/
theorem reached_of_le (hdown : ∀ level, level < top → reached (level + 1) → reached level) {low high : Nat}
    (hle : low ≤ high) (htop : high ≤ top) (h : reached high) : reached low := by
  induction high, hle using Nat.le_induction with
  | base => exact h
  | succ high hle ih => exact ih (Nat.le_of_succ_le htop) (hdown high htop h)

/-- Where every level below a reached one is reached, a climb ends at the greatest level reached, unless it
starts above that. -/
theorem climb_eq_max (hdown : ∀ level, level < top → reached (level + 1) → reached level) (hlevel : level ≤ top) :
    climb reached top level = max level (Nat.findGreatest reached top) := by
  fun_induction climb reached top level with
  | case1 level hnext ih =>
    have hle := Nat.le_findGreatest hnext.1 hnext.2
    rw [ih hnext.1, Nat.max_eq_right hle, Nat.max_eq_right (Nat.le_of_succ_le hle)]
  | case2 level hstop =>
    refine (Nat.max_eq_left (Nat.le_of_not_lt fun hlt => hstop ?_)).symm
    have htop := Nat.findGreatest_le (P := reached) top
    have hreached := Nat.findGreatest_of_ne_zero rfl (Nat.ne_of_gt (Nat.zero_lt_of_lt hlt))
    exact ⟨Nat.lt_of_lt_of_le hlt htop, reached_of_le hdown hlt htop hreached⟩

end Climb
