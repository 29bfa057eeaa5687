import Mathlib.Algebra.Ring.Nat
import Mathlib.Data.List.Basic

/-!
# Valid names

A name is made of Hangul syllables and of some ASCII characters.  It is limited in the bytes that it takes in
EUC-KR, and a short name is refused.  The check measures the least length in bytes of UTF-8, where a syllable
takes three, so it lets names through that have too few characters.
-/

namespace Alicia.Locale

open List

/-! ## The check -/

def eucKrWideByteCount : Nat := 2

def eucKrNarrowByteCount : Nat := 1

def minLatinLetterCount : Nat := 3

def minKoreanLetterCount : Nat := 2

/-- `KoreanLettersPattern`: from U+AC00 to U+D7A3. -/
def isKoreanLetter (c : Char) : Bool := 44032 ≤ c.toNat && c.toNat ≤ 55203

/-- `LatinLettersPattern`: ASCII letters, digits, and the three pairs of brackets. -/
def isLatinLetter (c : Char) : Bool :=
  (65 ≤ c.toNat && c.toNat ≤ 90) || (97 ≤ c.toNat && c.toNat ≤ 122) || (48 ≤ c.toNat && c.toNat ≤ 57) ||
    c.toNat ∈ [40, 41, 91, 93, 123, 125]

/-- `ValidLettersPattern`, which matches what is not a valid letter. -/
def isInvalidLetter (c : Char) : Bool := !(isKoreanLetter c || isLatinLetter c)

/-- The matches of a class of letters.  The status of the search is not initialised in the source, and is taken
here to hold no error. -/
def countRegexMatches (letter : Char → Bool) (input : List Char) : Nat := input.countP letter

/-- The length of a text in its native units, which are bytes of UTF-8. -/
def nativeLength (input : List Char) : Nat := (input.map Char.utf8Size).sum

/-- `IsNameValid`, for the code points of a name in UTF-8. -/
def isNameValid (input : List Char) (maxStringByteCapacity : Nat) : Bool :=
  if input.isEmpty then false
  else if input.any isInvalidLetter then false
  else
    let koreanLetterCount := countRegexMatches isKoreanLetter input
    let latinLetterCount := countRegexMatches isLatinLetter input
    let inputStringByteCount := koreanLetterCount * eucKrWideByteCount + latinLetterCount * eucKrNarrowByteCount
    if maxStringByteCapacity < inputStringByteCount then false
    else
      let isPureKorean := latinLetterCount = 0 ∧ 0 < koreanLetterCount
      let minLetterCount := if isPureKorean then minKoreanLetterCount else minLatinLetterCount
      if nativeLength input < minLetterCount then false else true

/-! ## What a valid name is -/

/-- The character may stand in a name. -/
def Allowed (c : Char) : Prop := isKoreanLetter c ∨ isLatinLetter c

/-- The bytes of a name in EUC-KR. -/
def eucKrSize (input : List Char) : Nat := (input.map fun c => if isKoreanLetter c then 2 else 1).sum

/-- A name that is valid for a capacity. -/
structure Valid (input : List Char) (capacity : Nat) : Prop where
  nonempty : input ≠ []
  allowed : ∀ c ∈ input, Allowed c
  size : eucKrSize input ≤ capacity
  length : (if input.all isKoreanLetter then 2 else 3) ≤ input.length

section Letters

variable {c : Char}

theorem isLatinLetter_of_korean (h : isKoreanLetter c = true) : isLatinLetter c = false := by
  simp [isKoreanLetter, isLatinLetter] at h ⊢
  omega

theorem utf8Size_korean (h : isKoreanLetter c = true) : c.utf8Size = 3 := by
  simp only [isKoreanLetter, Bool.and_eq_true, decide_eq_true_eq] at h
  refine Char.utf8Size_eq_three_iff.2 ⟨UInt32.lt_iff_toNat_lt.2 ?_, UInt32.le_iff_toNat_le.2 ?_⟩
  · exact Nat.lt_of_lt_of_le (by decide) h.1
  · exact Nat.le_trans h.2 (by decide)

theorem utf8Size_latin (h : isLatinLetter c = true) : c.utf8Size = 1 := by
  have hlow : c.toNat ≤ 127 := by
    simp [isLatinLetter] at h
    omega
  exact Char.utf8Size_eq_one_iff.2 (UInt32.le_iff_toNat_le.2 hlow)

end Letters

/-! ## Counting -/

section Counts

variable {input : List Char}

/-- The sizes of a name in terms of its two counts of letters. -/
theorem sizes_of_allowed (h : ∀ c ∈ input, Allowed c) :
    input.length = input.countP isKoreanLetter + input.countP isLatinLetter ∧
      nativeLength input = 3 * input.countP isKoreanLetter + input.countP isLatinLetter ∧
      eucKrSize input = input.countP isKoreanLetter * 2 + input.countP isLatinLetter * 1 := by
  induction input with
  | nil => exact ⟨rfl, rfl, rfl⟩
  | cons c rest ih =>
    obtain ⟨hlength, hnative, heucKr⟩ := ih fun c hc => h c (mem_cons_of_mem _ hc)
    rw [nativeLength] at hnative ⊢
    rw [eucKrSize] at heucKr ⊢
    rw [length_cons, map_cons, map_cons, sum_cons, sum_cons, countP_cons,
      countP_cons]
    rcases h c mem_cons_self with hkorean | hlatin
    · rw [utf8Size_korean hkorean, isLatinLetter_of_korean hkorean, if_pos hkorean, if_pos hkorean,
        if_neg Bool.false_ne_true]
      omega
    · have hkorean : ¬isKoreanLetter c = true := fun hkorean => by
        rw [isLatinLetter_of_korean hkorean] at hlatin
        cases hlatin
      rw [utf8Size_latin hlatin, if_neg hkorean, if_neg hkorean, if_pos hlatin]
      omega

theorem any_isInvalidLetter : input.any isInvalidLetter = false ↔ ∀ c ∈ input, Allowed c := by
  rw [any_eq_false]
  refine forall₂_congr fun c _ => ?_
  rw [isInvalidLetter, Allowed]
  cases isKoreanLetter c <;> cases isLatinLetter c <;> simp

/-- All characters are syllables where no other letter is counted. -/
theorem all_korean_iff (h : ∀ c ∈ input, Allowed c) :
    input.all isKoreanLetter = true ↔ input.countP isLatinLetter = 0 := by
  rw [all_eq_true, countP_eq_zero]
  refine forall₂_congr fun c hc => ⟨fun hkorean hlatin => ?_, fun hlatin => (h c hc).resolve_right hlatin⟩
  rw [isLatinLetter_of_korean hkorean] at hlatin
  cases hlatin

/-- A name with too few characters that is long enough in bytes: a syllable, alone or with one other letter. -/
def TooShort (input : List Char) : Prop :=
  (∃ a, input = [a] ∧ isKoreanLetter a) ∨
    ∃ a b, input = [a, b] ∧ (isKoreanLetter a ∧ isLatinLetter b ∨ isLatinLetter a ∧ isKoreanLetter b)

theorem allowed_of_tooShort (h : TooShort input) : ∀ c ∈ input, Allowed c := by
  rcases h with ⟨a, rfl, ha⟩ | ⟨a, b, rfl, ⟨ha, hb⟩ | ⟨ha, hb⟩⟩
  · exact forall_mem_singleton.2 (.inl ha)
  · exact forall_mem_cons.2 ⟨.inl ha, forall_mem_singleton.2 (.inr hb)⟩
  · exact forall_mem_cons.2 ⟨.inr ha, forall_mem_singleton.2 (.inl hb)⟩

theorem tooShort_iff (h : ∀ c ∈ input, Allowed c) :
    TooShort input ↔ input.countP isKoreanLetter = 1 ∧ input.countP isLatinLetter ≤ 1 := by
  constructor
  · rintro (⟨a, rfl, ha⟩ | ⟨a, b, rfl, ⟨ha, hb⟩ | ⟨ha, hb⟩⟩)
    · simp [ha, isLatinLetter_of_korean ha]
    · have hother : isKoreanLetter b = false := Bool.eq_false_iff.2 fun hkorean => by
        rw [isLatinLetter_of_korean hkorean] at hb
        cases hb
      simp [ha, hb, hother, isLatinLetter_of_korean ha]
    · have hother : isKoreanLetter a = false := Bool.eq_false_iff.2 fun hkorean => by
        rw [isLatinLetter_of_korean hkorean] at ha
        cases ha
      simp [ha, hb, hother, isLatinLetter_of_korean hb]
  · rintro ⟨hkorean, hlatin⟩
    obtain ⟨hlength, -, -⟩ := sizes_of_allowed h
    match input, hlength with
    | [], _ => exact absurd hkorean Nat.zero_ne_one
    | [a], _ =>
      refine .inl ⟨a, rfl, ?_⟩
      by_contra hnone
      rw [countP_cons, if_neg hnone] at hkorean
      exact absurd hkorean Nat.zero_ne_one
    | [a, b], _ =>
      refine .inr ⟨a, b, rfl, ?_⟩
      have ha := h a mem_cons_self
      have hb := h b (mem_cons_of_mem a mem_cons_self)
      rw [countP_cons, countP_cons, countP_nil] at hkorean hlatin
      rcases ha with ha | ha
      · refine .inl ⟨ha, hb.resolve_left fun hb => ?_⟩
        rw [if_pos ha, if_pos hb] at hkorean
        omega
      · refine .inr ⟨ha, hb.resolve_right fun hb => ?_⟩
        rw [if_pos ha, if_pos hb] at hlatin
        omega
    | a :: b :: c :: rest, hlength =>
      rw [length_cons, length_cons, length_cons] at hlength
      omega

/-- The check in terms of the two counts. -/
theorem isNameValid_iff {capacity : Nat} : isNameValid input capacity = true ↔ input ≠ [] ∧
    (∀ c ∈ input, Allowed c) ∧ eucKrSize input ≤ capacity ∧
      (if input.countP isLatinLetter = 0 then 2 else 3) ≤ nativeLength input := by
  rw [isNameValid]
  by_cases hempty : input = []
  · rw [if_pos (isEmpty_iff.2 hempty)]
    exact ⟨fun h => absurd h Bool.false_ne_true, fun h => absurd hempty h.1⟩
  rw [if_neg fun h => hempty (isEmpty_iff.1 h)]
  by_cases hallowed : ∀ c ∈ input, Allowed c
  · obtain ⟨hlength, -, hsize⟩ := sizes_of_allowed hallowed
    have hpos : 0 < input.length := length_pos_iff.2 hempty
    have hmin : (if input.countP isLatinLetter = 0 ∧ 0 < input.countP isKoreanLetter then 2 else 3) =
        if input.countP isLatinLetter = 0 then 2 else 3 :=
      if_congr ⟨fun h => h.1, fun h => ⟨h, by omega⟩⟩ rfl rfl
    rw [any_isInvalidLetter.2 hallowed, if_neg Bool.false_ne_true, hsize]
    dsimp only [countRegexMatches, eucKrWideByteCount, eucKrNarrowByteCount, minKoreanLetterCount, minLatinLetterCount]
    rw [hmin]
    generalize (if input.countP isLatinLetter = 0 then 2 else 3) = minLetterCount
    split
    · next hover => exact ⟨fun h => absurd h Bool.false_ne_true, fun h => absurd h.2.2.1 (Nat.not_le.2 hover)⟩
    · next hfits =>
        split
        · next hshort => exact ⟨fun h => absurd h Bool.false_ne_true, fun h => absurd h.2.2.2 (Nat.not_le.2 hshort)⟩
        · next hlong => exact ⟨fun _ => ⟨hempty, hallowed, Nat.not_lt.1 hfits, Nat.not_lt.1 hlong⟩, fun _ => rfl⟩
  · have hany : input.any isInvalidLetter = true :=
      (Bool.not_eq_false _).mp fun hnone => hallowed (any_isInvalidLetter.1 hnone)
    rw [hany]
    exact ⟨fun h => absurd h Bool.false_ne_true, fun h => absurd h.2.1 hallowed⟩

/-- What a valid name is, in terms of the two counts. -/
theorem valid_iff {capacity : Nat} : Valid input capacity ↔ input ≠ [] ∧ (∀ c ∈ input, Allowed c) ∧
    eucKrSize input ≤ capacity ∧ (if input.countP isLatinLetter = 0 then 2 else 3) ≤ input.length := by
  constructor
  · rintro ⟨hnonempty, hallowed, hsize, hlength⟩
    rw [if_congr (all_korean_iff hallowed) rfl rfl] at hlength
    exact ⟨hnonempty, hallowed, hsize, hlength⟩
  · rintro ⟨hnonempty, hallowed, hsize, hlength⟩
    rw [← if_congr (all_korean_iff hallowed) rfl rfl] at hlength
    exact ⟨hnonempty, hallowed, hsize, hlength⟩

end Counts

/-! ## Where the check is right -/

/-- The check accepts the valid names exactly, unless the name is a syllable, alone or with one other letter, that
fits the capacity. -/
theorem isNameValid_iff_valid_iff (input : List Char) (capacity : Nat) :
    (isNameValid input capacity = true ↔ Valid input capacity) ↔
      ¬(TooShort input ∧ eucKrSize input ≤ capacity) := by
  rw [isNameValid_iff, valid_iff]
  by_cases hallowed : ∀ c ∈ input, Allowed c
  · obtain ⟨hlength, hnative, -⟩ := sizes_of_allowed hallowed
    have hempty : input ≠ [] ↔ 0 < input.length := List.length_pos_iff.symm
    rw [tooShort_iff hallowed, hempty, hlength, hnative]
    rw [and_iff_right hallowed, and_iff_right hallowed]
    split
    · omega
    · omega
  · have hlong : ¬TooShort input := fun hshort => hallowed (allowed_of_tooShort hshort)
    exact iff_of_true ⟨fun h => absurd h.2.1 hallowed, fun h => absurd h.2.1 hallowed⟩ fun h => hlong h.1

/-- The name of the one syllable U+AC00. -/
theorem one_syllable : ¬(isNameValid [Char.ofNat 44032] 16 = true ↔ Valid [Char.ofNat 44032] 16) := by
  intro h
  have hlength := (h.1 (by decide)).length
  exact absurd hlength (by decide)

end Alicia.Locale
