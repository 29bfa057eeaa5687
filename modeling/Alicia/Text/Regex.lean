import Mathlib.Data.List.Basic

/-!
# Regular expressions

The ECMAScript grammar as `std::regex` reads it, for texts of letters, digits and brackets, and matching
that ignores the case of ASCII letters.  `]` and `}` stand for themselves where they close nothing.
-/

namespace Regex

open List

/-! ## Patterns -/

inductive Pattern (A : Type)
  | empty
  | literal (a : A)
  | oneOf (members : List A)
  | seq (first second : Pattern A)
  | repeated (count : Nat) (pattern : Pattern A)

namespace Pattern

variable {A : Type} [DecidableEq A]

/-- What may be left of a text behind a match at its front.  Symbols that `fold` identifies match each
other. -/
def remainders (fold : A → A) : Pattern A → List A → List (List A)
  | .empty, text => [text]
  | .literal a, text =>
    match text with
    | [] => []
    | b :: rest => if fold b = fold a then [rest] else []
  | .oneOf members, text =>
    match text with
    | [] => []
    | b :: rest => if fold b ∈ members.map fold then [rest] else []
  | .seq first second, text => (remainders fold first text).flatMap (remainders fold second)
  | .repeated count pattern, text =>
    Nat.rec [text] (fun _ found => found.flatMap (remainders fold pattern)) count

/-- The pattern matches the whole text. -/
def Matches (fold : A → A) (pattern : Pattern A) (text : List A) : Prop :=
  [] ∈ pattern.remainders fold text

instance (fold : A → A) (pattern : Pattern A) (text : List A) :
    Decidable (pattern.Matches fold text) :=
  inferInstanceAs (Decidable ([] ∈ pattern.remainders fold text))

/-- The pattern of the symbols in a row. -/
def literals : List A → Pattern A
  | [] => .empty
  | a :: rest => .seq (.literal a) (literals rest)

/-- A row of symbols matches the texts that differ from it by the folding. -/
theorem matches_literals (fold : A → A) (symbols text : List A) :
    (literals symbols).Matches fold text ↔ text.map fold = symbols.map fold := by
  induction symbols generalizing text with
  | nil =>
    rw [Matches, literals, remainders, mem_singleton, map_nil, map_eq_nil_iff]
    exact eq_comm
  | cons a rest ih =>
    cases text with
    | nil =>
      constructor
      · intro hmatches
        cases hmatches
      · intro hsame
        cases hsame
    | cons b text =>
      rw [Matches, literals, remainders, remainders, map_cons, map_cons, List.cons.injEq,
        ← ih text]
      by_cases hfold : fold b = fold a
      · rw [if_pos hfold, flatMap_singleton, Matches]
        exact (and_iff_right hfold).symm
      · rw [if_neg hfold]
        constructor
        · intro hmatches
          cases hmatches
        · rintro ⟨hsame, _⟩
          exact absurd hsame hfold

end Pattern

/-! ## The grammar -/

/-- `(`, which opens a group. -/
def groupBegin : UInt8 := 40

/-- `)`, which closes a group. -/
def groupEnd : UInt8 := 41

/-- `[`, which opens a bracket expression. -/
def bracketBegin : UInt8 := 91

/-- `]`, which closes a bracket expression. -/
def bracketEnd : UInt8 := 93

/-- `{`, which opens an interval. -/
def intervalBegin : UInt8 := 123

/-- `}`, which closes an interval. -/
def intervalEnd : UInt8 := 125

/-- The members of a bracket expression up to its end. -/
def bracket : List UInt8 → Option (List UInt8 × List UInt8)
  | [] => none
  | b :: rest =>
    if b = bracketEnd then some ([], rest)
    else (bracket rest).map fun (members, rest) => (b :: members, rest)

def isDigit (b : UInt8) : Bool := 48 ≤ b && b ≤ 57

/-- The count of an interval up to its end. -/
def interval (text : List UInt8) : Option (Nat × List UInt8) :=
  match text.takeWhile isDigit, text.dropWhile isDigit with
  | [], _ => none
  | _, [] => none
  | digits, b :: rest =>
    if b = intervalEnd then some (digits.foldl (fun n digit => 10 * n + (digit.toNat - 48)) 0, rest)
    else none

/-- The intervals behind an atom. -/
def quantified (fuel : Nat) (atom : Pattern UInt8) (text : List UInt8) :
    Option (Pattern UInt8 × List UInt8) :=
  match fuel, text with
  | fuel + 1, b :: rest =>
    if b = intervalBegin then
      (interval rest).bind fun (count, rest) => quantified fuel (.repeated count atom) rest
    else some (atom, text)
  | _, _ => some (atom, text)

/-- The terms at the front of a text, up to where no atom begins. -/
def terms : Nat → List UInt8 → Option (Pattern UInt8 × List UInt8)
  | fuel + 1, b :: rest =>
    if b = groupEnd ∨ b = intervalBegin then some (.empty, b :: rest)
    else do
      let (atom, rest) ←
        if b = groupBegin then do
          let (inner, rest) ← terms fuel rest
          if rest.head? = some groupEnd then some (inner, rest.tail) else none
        else if b = bracketBegin then do
          let (members, rest) ← bracket rest
          some (.oneOf members, rest)
        else some (.literal b, rest)
      let (first, rest) ← quantified rest.length atom rest
      let (second, rest) ← terms fuel rest
      some (.seq first second, rest)
  | _, text => some (.empty, text)

/-- The constructor of `std::regex`, which throws for what is not a pattern. -/
def compile (text : List UInt8) : Option (Pattern UInt8) := do
  let (pattern, rest) ← terms (text.length + 1) text
  if rest = [] then some pattern else none

/-- `tolower` of the classic locale. -/
def lower (b : UInt8) : UInt8 := if 65 ≤ b ∧ b ≤ 90 then b + 32 else b

/-- No symbol of the text has a meaning of its own. -/
def IsPlain (text : List UInt8) : Prop :=
  ∀ b ∈ text, b ≠ groupBegin ∧ b ≠ groupEnd ∧ b ≠ bracketBegin ∧ b ≠ intervalBegin

theorem quantified_of_plain (fuel : Nat) (atom : Pattern UInt8) {text : List UInt8}
    (h : IsPlain text) : quantified fuel atom text = some (atom, text) := by
  unfold quantified
  split
  · next b rest =>
      rw [if_neg (h b mem_cons_self).2.2.2]
  · rfl

theorem terms_of_plain {fuel : Nat} {text : List UInt8} (h : IsPlain text)
    (hfuel : text.length < fuel) : terms fuel text = some (.literals text, []) := by
  induction text generalizing fuel with
  | nil =>
    cases fuel with
    | zero => rfl
    | succ fuel => rfl
  | cons b rest ih =>
    cases fuel with
    | zero => omega
    | succ fuel =>
      obtain ⟨hgroup, hend, hbracket, hinterval⟩ := h b mem_cons_self
      have hrest : IsPlain rest := fun c hc => h c (mem_cons_of_mem b hc)
      have hterms := ih hrest (Nat.lt_of_succ_lt_succ hfuel)
      rw [terms, if_neg (not_or.2 ⟨hend, hinterval⟩), if_neg hgroup, if_neg hbracket]
      simp only [Option.bind_eq_bind, Option.bind_some, quantified_of_plain _ _ hrest, hterms]
      rfl

/-- A text without special symbols compiles to the pattern of its symbols. -/
theorem compile_of_plain {text : List UInt8} (h : IsPlain text) :
    compile text = some (.literals text) := by
  rw [compile, terms_of_plain h (Nat.lt_succ_self _)]
  rfl

end Regex
