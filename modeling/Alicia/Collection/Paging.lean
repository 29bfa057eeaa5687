import Mathlib.Data.List.Nodup

/-!
# Paging through a list

A list is delivered in pages, of its items that are shown at the time of the request.  A request
resumes behind the last item of the previous page, the cursor, and from the beginning where the
cursor is not shown any more.

`Paged` is the invariant between requests: the items up to the cursor that are shown have been
delivered.  A page keeps it and delivers nothing twice, if the cursor is still shown or nothing that
was delivered is.
-/

namespace Collection

variable {α : Type*} [DecidableEq α]

/-- The items behind the cursor, or all of them where there is none among them. -/
def resume (cursor : Option α) (items : List α) : List α :=
  match cursor with
  | none => items
  | some last => if last ∈ items then (items.dropWhile (· ≠ last)).tail else items

theorem resume_cons_append {front rest : List α} {last : α} (hfront : last ∉ front) :
    resume (some last) (front ++ last :: rest) = rest := by
  have hmem : last ∈ front ++ last :: rest := List.mem_append_right front List.mem_cons_self
  have hpass : ∀ x ∈ front, decide (x ≠ last) = true := by
    intro x hx
    apply decide_eq_true
    rintro rfl
    exact hfront hx
  unfold resume
  dsimp only
  rw [if_pos hmem, List.dropWhile_append_of_pos hpass, List.dropWhile_cons_of_neg (by simp)]
  rfl

/-- The items between the beginning and a cursor may come before the rest. -/
theorem resume_append {front rest : List α} (hnodup : (front ++ rest).Nodup) :
    resume front.getLast? (front ++ rest) = rest := by
  obtain rfl | ⟨before, last, rfl⟩ := front.eq_nil_or_concat'
  · rfl
  · rw [List.getLast?_concat, List.append_assoc]
    apply resume_cons_append
    intro hlast
    exact (List.nodup_append.1 (List.nodup_append.1 hnodup).1).2.2 last hlast last
      List.mem_cons_self rfl

section Shown

variable {shown : α → Bool}

/-- The rest of the shown items is found, if the cursor is shown or nothing before it is. -/
theorem resume_filter {front rest : List α} (hnodup : (front ++ rest).Nodup)
    (hcursor : ∀ last ∈ front.getLast?, shown last = true ∨ ∀ x ∈ front, shown x = false) :
    resume front.getLast? ((front ++ rest).filter shown) = rest.filter shown := by
  obtain rfl | ⟨before, last, rfl⟩ := front.eq_nil_or_concat'
  · rfl
  rw [List.getLast?_concat] at hcursor ⊢
  obtain hshown | hhidden := hcursor last rfl
  · rw [List.append_assoc, List.filter_append, List.singleton_append,
      List.filter_cons_of_pos hshown]
    apply resume_cons_append
    intro hlast
    exact (List.nodup_append.1 (List.nodup_append.1 hnodup).1).2.2 last
      (List.mem_filter.1 hlast).1 last List.mem_cons_self rfl
  · have hempty : (before ++ [last]).filter shown = [] := by
      apply List.filter_eq_nil_iff.2
      intro x hx
      rw [hhidden x hx]
      exact Bool.false_ne_true
    have hout : last ∉ rest.filter shown := by
      intro hlast
      have hfalse := hhidden last (List.mem_append_right before List.mem_cons_self)
      rw [(List.mem_filter.1 hlast).2] at hfalse
      cases hfalse
    rw [List.filter_append, hempty, List.nil_append]
    unfold resume
    dsimp only
    rw [if_neg hout]

/-- Everything that is shown up to the cursor has been delivered, in order. -/
def Paged (box : List α) (shown : α → Bool) (cursor : Option α) (delivered : List α) : Prop :=
  ∃ front rest, box = front ++ rest ∧ front.getLast? = cursor ∧ delivered.Sublist front ∧
    ∀ x ∈ front, shown x = true → x ∈ delivered

omit [DecidableEq α] in
theorem Paged.start (box : List α) (shown : α → Bool) : Paged box shown none [] := by
  refine ⟨[], box, rfl, rfl, List.Sublist.refl [], ?_⟩
  intro x hx
  cases hx

omit [DecidableEq α] in
theorem Paged.cursor_mem {box delivered : List α} {last : α}
    (hpaged : Paged box shown (some last) delivered) : last ∈ box := by
  obtain ⟨front, rest, rfl, hcursor, -, -⟩ := hpaged
  exact List.mem_append_left rest (List.mem_of_getLast? hcursor)

/-- Items may be hidden at any time, and others may be shown behind the cursor. -/
theorem Paged.change {box delivered : List α} {cursor : Option α} {shown' : α → Bool}
    (hnodup : box.Nodup) (hpaged : Paged box shown cursor delivered)
    (hbehind : ∀ x ∈ box, shown' x = true → shown x = true ∨ x ∈ resume cursor box) :
    Paged box shown' cursor delivered := by
  obtain ⟨front, rest, rfl, rfl, hsublist, hdelivered⟩ := hpaged
  refine ⟨front, rest, rfl, rfl, hsublist, ?_⟩
  intro x hx hshown
  obtain hbefore | hrest := hbehind x (List.mem_append_left rest hx) hshown
  · exact hdelivered x hx hbefore
  · rw [resume_append hnodup] at hrest
    exact absurd rfl ((List.nodup_append.1 hnodup).2.2 x hx x hrest)

omit [DecidableEq α] in
/-- If nothing that was delivered is shown, nothing up to the cursor is. -/
theorem hidden_front {front delivered : List α} {cursor : Option α}
    (hdelivered : ∀ x ∈ front, shown x = true → x ∈ delivered)
    (hcursor : ∀ last ∈ cursor, shown last = true ∨ ∀ x ∈ delivered, shown x = false) :
    ∀ last ∈ cursor, shown last = true ∨ ∀ x ∈ front, shown x = false := by
  intro last hlast
  refine (hcursor last hlast).imp_right fun hnone x hx => ?_
  by_contra hshown
  have htrue := eq_true_of_ne_false hshown
  exact hshown (hnone x (hdelivered x hx htrue))

/-- The items that the next page is taken from are those that were not delivered yet. -/
theorem Paged.remaining {box delivered : List α} {cursor : Option α} (hnodup : box.Nodup)
    (hpaged : Paged box shown cursor delivered)
    (hcursor : ∀ last ∈ cursor, shown last = true ∨ ∀ x ∈ delivered, shown x = false) :
    resume cursor (box.filter shown) = box.filter fun x => shown x && decide (x ∉ delivered) := by
  obtain ⟨front, rest, rfl, rfl, hsublist, hdelivered⟩ := hpaged
  have hhidden := hidden_front hdelivered hcursor
  rw [resume_filter hnodup hhidden, List.filter_append]
  have hfront : (front.filter fun x => shown x && decide (x ∉ delivered)) = [] := by
    apply List.filter_eq_nil_iff.2
    intro x hx hboth
    rw [Bool.and_eq_true, decide_eq_true_iff] at hboth
    exact hboth.2 (hdelivered x hx hboth.1)
  rw [hfront, List.nil_append]
  apply List.filter_congr
  intro x hx
  have hout : x ∉ delivered := by
    intro hin
    exact (List.nodup_append.1 hnodup).2.2 x (hsublist.subset hin) x hx rfl
  rw [decide_eq_true hout, Bool.and_true]

/-- A page of the remaining items moves the cursor to its last one. -/
theorem Paged.page {box delivered : List α} {cursor : Option α} (hnodup : box.Nodup)
    (hpaged : Paged box shown cursor delivered)
    (hcursor : ∀ last ∈ cursor, shown last = true ∨ ∀ x ∈ delivered, shown x = false) (n : Nat) :
    Paged box shown (((resume cursor (box.filter shown)).take n).getLast?.or cursor)
      (delivered ++ (resume cursor (box.filter shown)).take n) := by
  obtain ⟨front, rest, rfl, rfl, hsublist, hdelivered⟩ := hpaged
  have hhidden := hidden_front hdelivered hcursor
  rw [resume_filter hnodup hhidden]
  obtain hempty | ⟨before, last, hpage⟩ := ((rest.filter shown).take n).eq_nil_or_concat'
  · rw [hempty, List.append_nil]
    exact ⟨front, rest, rfl, rfl, hsublist, hdelivered⟩
  have hall : rest.filter shown = before ++ last :: (rest.filter shown).drop n := by
    rw [← List.singleton_append, ← List.append_assoc, ← hpage, List.take_append_drop]
  obtain ⟨passed, tail, rfl, hpassed, htail⟩ := List.filter_eq_append_iff.1 hall
  obtain ⟨skipped, others, rfl, hskipped, hlast, -⟩ := List.filter_eq_cons_iff.1 htail
  rw [hpage, List.getLast?_concat]
  refine ⟨front ++ (passed ++ skipped ++ [last]), others, ?_, ?_, ?_, ?_⟩
  · simp
  · rw [← List.append_assoc, List.getLast?_concat]
    rfl
  · apply List.Sublist.append hsublist
    apply List.Sublist.append _ (List.Sublist.refl [last])
    rw [← hpassed]
    exact List.filter_sublist.trans (List.sublist_append_left passed skipped)
  · intro x hx hshown
    rw [List.mem_append, List.mem_append, List.mem_append, List.mem_singleton] at hx
    rw [List.mem_append, List.mem_append, List.mem_singleton, ← hpassed]
    obtain hx | (hx | hx) | hx := hx
    · exact .inl (hdelivered x hx hshown)
    · exact .inr (.inl (List.mem_filter.2 ⟨hx, hshown⟩))
    · exact absurd hshown (hskipped x hx)
    · exact .inr (.inr hx)

omit [DecidableEq α] in
/-- There is something behind a page exactly if the page leaves something out. -/
theorem length_take_lt_iff {items : List α} (hnodup : items.Nodup) (n : Nat) :
    (items.take n).length < items.length ↔ ∃ x ∈ items, x ∉ items.take n := by
  have hsplit := List.take_append_drop n items
  have hlength : (items.take n).length + (items.drop n).length = items.length := by
    rw [← List.length_append, hsplit]
  constructor
  · intro hlt
    have hrest : items.drop n ≠ [] := by
      intro hnil
      rw [hnil, List.length_nil] at hlength
      omega
    obtain ⟨x, hx⟩ := List.exists_mem_of_ne_nil _ hrest
    refine ⟨x, List.mem_of_mem_drop hx, ?_⟩
    intro hpage
    rw [← hsplit] at hnodup
    exact (List.nodup_append.1 hnodup).2.2 x hpage x hx rfl
  · rintro ⟨x, hx, hout⟩
    rw [← hsplit, List.mem_append] at hx
    have hpositive := List.length_pos_of_mem (hx.resolve_left hout)
    omega

omit [DecidableEq α] in
theorem Paged.sublist {box delivered : List α} {cursor : Option α}
    (hpaged : Paged box shown cursor delivered) : delivered.Sublist box := by
  obtain ⟨front, rest, rfl, -, hsublist, -⟩ := hpaged
  exact hsublist.trans (List.sublist_append_left front rest)

end Shown

end Collection
