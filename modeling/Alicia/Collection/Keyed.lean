import Mathlib.Data.List.Nodup

/-!
# Work on independent keys

A queue of distinct keys, and a loop over it whose body touches only what belongs to its key.  What
belongs to a key afterwards is what one execution of the body makes of it, or what it was; the order
of the keys does not matter.
-/

namespace Collection

/-- A queue of distinct keys with a flag that is raised while keys may be queued. -/
structure KeyQueue (K : Type) where
  data : List K := []
  dataFlag : Bool := false
  nodup : data.Nodup := by simp
  flagged : data ≠ [] → dataFlag = true := by simp

namespace KeyQueue

variable {K : Type} [DecidableEq K]

/-- Queue a key and raise the flag. -/
def insert (queue : KeyQueue K) (key : K) : KeyQueue K where
  data := queue.data.insert key
  dataFlag := true
  nodup := List.Nodup.insert queue.nodup
  flagged := fun _ => rfl

@[simp] theorem mem_insert {queue : KeyQueue K} {key other : K} :
    other ∈ (queue.insert key).data ↔ other = key ∨ other ∈ queue.data := List.mem_insert_iff

omit [DecidableEq K] in
theorem data_eq_nil {queue : KeyQueue K} (h : queue.dataFlag = false) : queue.data = [] := by
  by_contra hne
  rw [queue.flagged hne] at h
  cases h

end KeyQueue

/-- A loop whose body touches only what belongs to its key. -/
theorem foldl_of_local {S C K : Type} [DecidableEq K] (view : K → S → C) {body : S → K → S}
    (work : K → C → C)
    (h : ∀ s key other, view other (body s key) =
      if other = key then work key (view key s) else view other s)
    {keys : List K} (hnodup : keys.Nodup) (s : S) (key : K) :
    view key (keys.foldl body s) = if key ∈ keys then work key (view key s) else view key s := by
  induction keys generalizing s with
  | nil => rfl
  | cons head rest ih =>
    obtain ⟨hhead, hrest⟩ := List.nodup_cons.1 hnodup
    rw [List.foldl_cons, ih hrest, h]
    by_cases hsame : key = head
    · subst hsame
      simp [hhead]
    · simp [hsame]

/-- The loop over a queue, which is cleared afterwards. -/
theorem KeyQueue.process_of_local {S C K : Type} [DecidableEq K] (queue : KeyQueue K)
    (view : K → S → C) {body : S → K → S} (work : K → C → C)
    (h : ∀ s key other, view other (body s key) =
      if other = key then work key (view key s) else view other s) {key : K} {clear : S → S}
    (done : C → C) (hclear : ∀ s, view key (clear s) = done (view key s)) {s : S}
    (hidle : key ∉ queue.data → done (view key s) = view key s) :
    view key (if queue.dataFlag = true then clear (queue.data.foldl body s) else s) =
      done (if key ∈ queue.data then work key (view key s) else view key s) := by
  by_cases hflag : queue.dataFlag = true
  · rw [if_pos hflag, hclear, foldl_of_local view work h queue.nodup]
  · have hnone : key ∉ queue.data := by
      rw [KeyQueue.data_eq_nil (Bool.eq_false_iff.2 hflag)]
      exact List.not_mem_nil
    rw [if_neg hflag, if_neg hnone, hidle hnone]

end Collection
