import Mathlib.Data.List.Pairwise
import Mathlib.Tactic.Ring

/-!
# Sampling a clock in whole intervals

A clock that is read now and then counts the whole intervals since the last reading that counted any, and starts
again from that reading.  Every such reading cuts off a remainder, and what is counted falls short of the whole
intervals in all once the remainders make up one.
-/

namespace Sampling

open List

variable (interval : Nat)

/-- The intervals that some readings count. -/
def counted : Nat → List Nat → Nat
  | _, [] => 0
  | anchor, time :: times =>
    if (time - anchor) / interval = 0 then counted anchor times
    else (time - anchor) / interval + counted time times

/-- The time that some readings have not counted in the end: the remainders, and what has gone by since the last
reading that counted. -/
def lost : Nat → Nat → List Nat → Nat
  | anchor, last, [] => last - anchor
  | anchor, last, time :: times =>
    if (time - anchor) / interval = 0 then lost anchor last times
    else (time - anchor) % interval + lost time last times

variable {interval}

/-- A reading counts from the anchor, and leaves the one for the next. -/
theorem counted_cons (anchor time : Nat) (times : List Nat) :
    counted interval anchor (time :: times) = (time - anchor) / interval +
      counted interval (if (time - anchor) / interval = 0 then anchor else time) times := by
  rw [counted]
  split
  · next hnone => rw [hnone, Nat.zero_add]
  · rfl

/-- What is counted and what is lost make up the time that has gone by. -/
theorem counted_mul_add_lost {times : List Nat} : ∀ {anchor last : Nat}, (anchor :: times).Pairwise (· ≤ ·) →
    (∀ time ∈ anchor :: times, time ≤ last) →
    counted interval anchor times * interval + lost interval anchor last times = last - anchor := by
  induction times with
  | nil =>
    intro anchor last _ _
    rw [counted, lost]
    omega
  | cons time times ih =>
    intro anchor last hsorted hlast
    obtain ⟨hanchor, hrest⟩ := pairwise_cons.1 hsorted
    obtain ⟨hanchorLast, hrestLast⟩ := forall_mem_cons.1 hlast
    rw [counted, lost]
    split
    · -- the reading counts nothing, and the anchor stays
      refine ih (pairwise_cons.2 ⟨fun next hnext => hanchor next (mem_cons_of_mem _ hnext),
        (pairwise_cons.1 hrest).2⟩) (forall_mem_cons.2 ⟨hanchorLast, fun next hnext => ?_⟩)
      exact hrestLast next (mem_cons_of_mem _ hnext)
    · have hsplit := Nat.div_add_mod' (time - anchor) interval
      have hle := hanchor time mem_cons_self
      have hend := hrestLast time mem_cons_self
      have hlater := ih hrest hrestLast
      rw [Nat.add_mul]
      omega

/-- The readings count every whole interval exactly where they lose less than one. -/
theorem counted_eq_iff (hinterval : 0 < interval) {anchor last : Nat} {times : List Nat}
    (hsorted : (anchor :: times).Pairwise (· ≤ ·)) (hlast : ∀ time ∈ anchor :: times, time ≤ last) :
    counted interval anchor times = (last - anchor) / interval ↔ lost interval anchor last times < interval := by
  rw [← counted_mul_add_lost hsorted hlast, Nat.add_comm, Nat.add_mul_div_right _ _ hinterval, eq_comm, Nat.add_eq_right,
    Nat.div_eq_zero_iff]
  omega

/-- The readings never count too much. -/
theorem counted_le (hinterval : 0 < interval) {anchor last : Nat} {times : List Nat}
    (hsorted : (anchor :: times).Pairwise (· ≤ ·)) (hlast : ∀ time ∈ anchor :: times, time ≤ last) :
    counted interval anchor times ≤ (last - anchor) / interval := by
  rw [Nat.le_div_iff_mul_le hinterval, ← counted_mul_add_lost hsorted hlast]
  exact Nat.le_add_right _ _

end Sampling
