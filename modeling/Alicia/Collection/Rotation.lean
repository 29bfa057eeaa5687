import Alicia.Collection.Cursor

/-!
# The rotation of a cursor

The elements of a list in the order in which an iterator meets them that goes round.  How many come before
an element says how long it can be passed over.
-/

namespace Cursor

variable {α : Type}

/-- The elements from the iterator on, round to it. -/
def rotation (c : Cursor α) : List α := c.ahead ++ c.behind

theorem mem_rotation {c : Cursor α} {x : α} : x ∈ c.rotation ↔ x ∈ c.toList := by
  rw [rotation, toList, List.mem_append, List.mem_append, or_comm]

theorem length_rotation (c : Cursor α) : c.rotation.length = c.toList.length := by
  rw [rotation, toList, List.length_append, List.length_append, Nat.add_comm]

@[simp] theorem rotation_rewind (c : Cursor α) : c.rewind.rotation = c.rotation := by
  rw [rewind]
  split
  · next hend => rw [rotation, rotation, hend, List.append_nil, List.nil_append]
  · rfl

variable [DecidableEq α]

/-- How many elements the iterator meets before `x`. -/
def rank (x : α) (c : Cursor α) : Nat := c.rotation.idxOf x

theorem rank_lt {c : Cursor α} {x : α} (h : x ∈ c.toList) : rank x c < c.toList.length := by
  rw [← length_rotation]
  exact List.idxOf_lt_length_iff.2 (mem_rotation.2 h)

@[simp] theorem rank_rewind (x : α) (c : Cursor α) : rank x c.rewind = rank x c := by
  rw [rank, rank, rotation_rewind]

/-- What is appended behind an element that the iterator has not passed does not come before it. -/
theorem rank_extend {behind ahead : List α} {x : α} (h : x ∈ ahead) (more : List α) :
    rank x ⟨behind, ahead ++ more⟩ = rank x ⟨behind, ahead⟩ := by
  rw [rank, rank, rotation, rotation]
  dsimp only
  rw [List.append_assoc, List.idxOf_append_of_mem h, List.idxOf_append_of_mem h]

/-- What is appended does not come before an element, unless the iterator has passed that element and is not at
the end. -/
theorem rank_push {c : Cursor α} {x : α} (h : x ∈ c.toList) (hpassed : x ∈ c.behind → c.ahead = []) (y : α) :
    rank x (c.push y) = rank x c := by
  rw [push]
  split
  · next hend =>
      have hmem : x ∈ c.behind := by
        rw [toList, hend, List.append_nil] at h
        exact h
      rw [rank, rank, rotation, rotation]
      dsimp only
      rw [hend, List.nil_append, List.nil_append]
      exact List.idxOf_append_of_mem hmem
  · next hmore =>
      rcases List.mem_append.1 h with hbehind | hahead
      · exact absurd (hpassed hbehind) hmore
      · exact rank_extend hahead [y]

/-- The iterator passes some elements. -/
theorem rank_pass {behind passed ahead : List α} {x : α} (hmem : x ∈ ahead ++ behind) (hnot : x ∉ passed) :
    rank x ⟨behind ++ passed, ahead⟩ + passed.length = rank x ⟨behind, passed ++ ahead⟩ := by
  rw [rank, rank, rotation, rotation]
  dsimp only
  rw [← List.append_assoc, List.idxOf_append_of_mem hmem, List.append_assoc, List.idxOf_append_of_notMem hnot,
    Nat.add_comm]

/-- The element at the iterator is erased. -/
theorem rank_erase {behind rest : List α} {x y : α} (h : y ≠ x) :
    rank x (erase ⟨behind, y :: rest⟩) + 1 = rank x ⟨behind, y :: rest⟩ := by
  rw [rank, rank, rotation, rotation, erase]
  dsimp only
  rw [List.tail_cons, List.cons_append, List.idxOf_cons_ne _ h]

/-- The iterator passes another element, or erases it. -/
theorem rank_next {c : Cursor α} {x y : α} (hmem : x ∈ c.toList) (hcurrent : c.current? = some y)
    (h : y ≠ x) : rank x c.next + 1 = rank x c := by
  obtain ⟨behind, ahead⟩ := c
  cases ahead with
  | nil => cases hcurrent
  | cons first rest =>
    cases hcurrent
    have hothers : x ∈ rest ++ behind := by
      rw [toList, List.mem_append, List.mem_cons] at hmem
      rw [List.mem_append]
      exact hmem.elim .inr fun hahead => .inl (hahead.resolve_left h.symm)
    exact rank_pass hothers (by simpa using h.symm)

theorem rank_erased {c : Cursor α} {x y : α} (hcurrent : c.current? = some y) (h : y ≠ x) :
    rank x c.erase + 1 = rank x c := by
  obtain ⟨behind, ahead⟩ := c
  cases ahead with
  | nil => cases hcurrent
  | cons first rest =>
    cases hcurrent
    exact rank_erase h

end Cursor
