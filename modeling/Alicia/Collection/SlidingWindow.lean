import Mathlib.Data.List.TakeWhile
import Mathlib.Algebra.Order.Ring.Int

/-!
# Sliding window logs

A log of the times at which something was admitted.  Times that a window has passed are dropped from
the front; something is admitted while fewer times than the limit are left.  So no window of time holds
more admissions than the limit.
-/

namespace SlidingWindow

variable {window limit clock now : Nat} {log given : List Nat}

/-- The log without the times at its front that have expired. -/
def expire (window now : Nat) (log : List Nat) : List Nat :=
  log.dropWhile fun time => decide (window ≤ now - time)

/-- How many times are in the window that starts at a time. -/
def within (window start : Nat) (times : List Nat) : Nat :=
  times.countP fun time => decide (start ≤ time ∧ time < start + window)

/-- The log holds all admissions but those which a window has passed. -/
structure Logs (window clock : Nat) (given log : List Nat) : Prop where
  past : ∀ time ∈ given, time ≤ clock
  rest : ∃ dropped, given = dropped ++ log ∧ ∀ time ∈ dropped, time + window ≤ clock

theorem Logs.nil : Logs window clock [] [] := by
  refine ⟨?_, [], rfl, ?_⟩
  · intro time hmem
    cases hmem
  · intro time hmem
    cases hmem

theorem Logs.mono (h : Logs window clock given log) (hnow : clock ≤ now) : Logs window now given log := by
  obtain ⟨hpast, dropped, hgiven, hdropped⟩ := h
  exact ⟨fun time hmem => (hpast time hmem).trans hnow,
    dropped, hgiven, fun time hmem => (hdropped time hmem).trans hnow⟩

/-- Dropping what has expired keeps the log. -/
theorem Logs.expire (h : Logs window clock given log) (hnow : clock ≤ now) :
    Logs window now given (expire window now log) := by
  obtain ⟨hpast, dropped, hgiven, hdropped⟩ := h.mono hnow
  refine ⟨hpast, dropped ++ log.takeWhile fun time => decide (window ≤ now - time), ?_, ?_⟩
  · rw [hgiven, List.append_assoc]
    exact congrArg (dropped ++ ·) List.takeWhile_append_dropWhile.symm
  · intro time hmem
    obtain hmem | hmem := List.mem_append.1 hmem
    · exact hdropped time hmem
    · have hdecided := List.mem_takeWhile_imp hmem
      have hexpired : window ≤ now - time := of_decide_eq_true hdecided
      have htime : time ≤ now := by
        apply hpast
        rw [hgiven]
        exact List.mem_append_right dropped (List.takeWhile_prefix _ |>.subset hmem)
      omega

/-- An admission is logged. -/
theorem Logs.grant (h : Logs window now given log) : Logs window now (given ++ [now]) (log ++ [now]) := by
  obtain ⟨hpast, dropped, hgiven, hdropped⟩ := h
  refine ⟨?_, dropped, by rw [hgiven, List.append_assoc], hdropped⟩
  intro time hmem
  obtain hmem | hmem := List.mem_append.1 hmem
  · exact hpast time hmem
  · exact (List.mem_singleton.1 hmem).le

theorem within_append (start : Nat) (first second : List Nat) :
    within window start (first ++ second) = within window start first + within window start second :=
  List.countP_append

/-- While fewer times than the limit are logged, one more admission keeps every window below the
limit. -/
theorem within_grant (h : Logs window now given log) (hbound : ∀ start, within window start given ≤ limit)
    (hroom : log.length < limit) (start : Nat) : within window start (given ++ [now]) ≤ limit := by
  obtain ⟨-, dropped, hgiven, hdropped⟩ := h
  by_cases hnow : start ≤ now ∧ now < start + window
  · -- A window with the new admission starts after everything that was dropped.
    have hnone : within window start dropped = 0 := by
      refine List.countP_eq_zero.2 ?_
      intro time hmem hwithin
      have hpassed := hdropped time hmem
      have hstart := (of_decide_eq_true hwithin).1
      omega
    have hlog : within window start log ≤ log.length := List.countP_le_length
    have hlast : within window start [now] ≤ 1 := List.countP_le_length
    rw [within_append, hgiven, within_append, hnone]
    omega
  · have hnone : within window start [now] = 0 := by
      refine List.countP_eq_zero.2 ?_
      intro time hmem hwithin
      cases List.mem_singleton.1 hmem
      exact hnow (of_decide_eq_true hwithin)
    rw [within_append, hnone]
    exact hbound start

end SlidingWindow
