import Mathlib.Data.List.Basic
import Mathlib.Tactic.Tauto

/-!
# Lists with a cursor

A list together with an iterator into it.  The iterator stands before the first element of `ahead`,
or at the end of the list when `ahead` is empty.  Elements are appended at the end of the list, and
the element at the iterator can be erased, which moves the iterator to the next one.
-/

/-- A list and a position in it. -/
structure Cursor (α : Type) where
  behind : List α := []
  ahead : List α := []
  deriving DecidableEq

namespace Cursor

variable {α : Type}

def toList (c : Cursor α) : List α := c.behind ++ c.ahead

/-- Append an element.  An iterator at the end stays at the end. -/
def push (c : Cursor α) (x : α) : Cursor α :=
  if c.ahead = [] then { c with behind := c.behind ++ [x] }
  else { c with ahead := c.ahead ++ [x] }

/-- Move an iterator which is at the end to the front. -/
def rewind (c : Cursor α) : Cursor α :=
  if c.ahead = [] then { behind := [], ahead := c.behind } else c

/-- Move the iterator to the next element with the property, or to the end. -/
def seek (p : α → Bool) (c : Cursor α) : Cursor α :=
  { behind := c.behind ++ c.ahead.takeWhile (fun x => !p x)
    ahead := c.ahead.dropWhile fun x => !p x }

/-- The element at the iterator. -/
def current? (c : Cursor α) : Option α := c.ahead.head?

/-- Erase the element at the iterator. -/
def erase (c : Cursor α) : Cursor α := { c with ahead := c.ahead.tail }

/-- Move the iterator to the next element. -/
def next (c : Cursor α) : Cursor α :=
  { behind := c.behind ++ c.ahead.take 1, ahead := c.ahead.tail }

@[simp] theorem toList_next (c : Cursor α) : c.next.toList = c.toList := by
  unfold next toList
  cases c.ahead <;> simp

@[simp] theorem toList_push (c : Cursor α) (x : α) : (c.push x).toList = c.toList ++ [x] := by
  unfold push toList
  split
  · next h => simp [h]
  · simp

@[simp] theorem toList_rewind (c : Cursor α) : c.rewind.toList = c.toList := by
  unfold rewind toList
  split
  · next h => simp [h]
  · rfl

@[simp] theorem toList_seek (p : α → Bool) (c : Cursor α) : (c.seek p).toList = c.toList := by
  simp [seek, toList]

/-- Erasing takes the element at the iterator out of the list and nothing else. -/
theorem toList_eq_of_current {c : Cursor α} {x : α} (h : c.current? = some x) :
    ∃ before after, c.toList = before ++ x :: after ∧ c.erase.toList = before ++ after := by
  obtain ⟨behind, ahead⟩ := c
  cases ahead with
  | nil => cases h
  | cons y rest =>
    cases h
    exact ⟨behind, rest, rfl, rfl⟩

theorem mem_of_current {c : Cursor α} {x : α} (h : c.current? = some x) : x ∈ c.toList := by
  obtain ⟨before, after, hlist, -⟩ := toList_eq_of_current h
  rw [hlist]
  exact List.mem_append_right before List.mem_cons_self

/-- Erasing takes nothing out but the element at the iterator. -/
theorem mem_of_erase {c : Cursor α} {x y : α} (h : c.current? = some y) (hmem : x ∈ c.toList) :
    x = y ∨ x ∈ c.erase.toList := by
  obtain ⟨before, after, hlist, herased⟩ := toList_eq_of_current h
  rw [hlist, List.mem_append, List.mem_cons] at hmem
  rw [herased, List.mem_append]
  tauto

theorem erase_subset {c : Cursor α} {x : α} (h : x ∈ c.erase.toList) : x ∈ c.toList := by
  obtain ⟨behind, ahead⟩ := c
  exact (List.Sublist.append (List.Sublist.refl _) (List.tail_sublist ahead)).subset h

theorem length_erase {c : Cursor α} {x : α} (h : c.current? = some x) :
    c.erase.toList.length + 1 = c.toList.length := by
  obtain ⟨before, after, hlist, herased⟩ := toList_eq_of_current h
  simp [hlist, herased]
  omega

/-- A cursor that stands at the front if it can stands before an element, unless the list is empty. -/
theorem current?_rewind {c : Cursor α} : c.rewind.current? = none ↔ c.toList = [] := by
  rw [current?, List.head?_eq_none_iff, rewind, toList]
  split
  · next hend => simp [hend]
  · next hmore => simp [hmore]

/-! ## Cursors that stand at the front or at the end

An iterator that only moves when the element before it is erased serves the list like a queue.
-/

end Cursor
