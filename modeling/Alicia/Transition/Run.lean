import Mathlib.Logic.Basic

/-!
# Runs of a transition function

A system is a function `step : S → A → S` on a type of states and a type of inputs.  A run applies
it to a list of inputs, in order.  A result about every run is obtained from a result about one
step, by the induction that is made here once.

`Guarded` is a run in which every input satisfies a condition on the state that it is applied to.
-/

namespace Transition

variable {S A : Type*}

/-- The state in which a list of inputs leaves the system. -/
def run (step : S → A → S) : S → List A → S
  | s, [] => s
  | s, a :: rest => run step (step s a) rest

@[simp] theorem run_nil (step : S → A → S) (s : S) : run step s [] = s := rfl

@[simp] theorem run_cons (step : S → A → S) (s : S) (a : A) (rest : List A) :
    run step s (a :: rest) = run step (step s a) rest := rfl

theorem run_append (step : S → A → S) (s : S) (first second : List A) :
    run step s (first ++ second) = run step (run step s first) second := by
  induction first generalizing s with
  | nil => rfl
  | cons a rest ih => exact ih (step s a)

/-- Every input of the run is good in the state that it is applied to. -/
def Guarded (step : S → A → S) (good : S → A → Prop) : S → List A → Prop
  | _, [] => True
  | s, a :: rest => good s a ∧ Guarded step good (step s a) rest

instance Guarded.decidable (step : S → A → S) (good : S → A → Prop)
    [∀ s a, Decidable (good s a)] : ∀ (s : S) (inputs : List A),
      Decidable (Guarded step good s inputs)
  | _, [] => isTrue trivial
  | s, a :: rest => @instDecidableAnd _ _ _ (Guarded.decidable step good (step s a) rest)

/-- A condition that every input meets guards every run. -/
theorem Guarded.of_forall {step : S → A → S} {good : S → A → Prop} (always : ∀ s a, good s a) (s : S)
    (inputs : List A) : Guarded step good s inputs := by
  induction inputs generalizing s with
  | nil => trivial
  | cons a rest ih => exact ⟨always s a, ih (step s a)⟩

theorem guarded_append {step : S → A → S} {good : S → A → Prop} {s : S}
    {first second : List A} :
    Guarded step good s (first ++ second) ↔
      Guarded step good s first ∧ Guarded step good (run step s first) second := by
  induction first generalizing s with
  | nil => simp [Guarded]
  | cons a rest ih => simp only [List.cons_append, Guarded, ih, run_cons, and_assoc]

/-- A condition which one good step preserves holds after every guarded run. -/
theorem Guarded.invariant {step : S → A → S} {good : S → A → Prop} {inv : S → Prop}
    (preserved : ∀ s a, inv s → good s a → inv (step s a)) {s : S} {inputs : List A}
    (hs : inv s) (hgood : Guarded step good s inputs) : inv (run step s inputs) := by
  induction inputs generalizing s with
  | nil => exact hs
  | cons a rest ih => exact ih (preserved s a hs hgood.1) hgood.2

/-- A condition which every step preserves holds after every run. -/
theorem run_invariant {step : S → A → S} {inv : S → Prop}
    (preserved : ∀ s a, inv s → inv (step s a)) {s : S} (hs : inv s) (inputs : List A) :
    inv (run step s inputs) := by
  induction inputs generalizing s with
  | nil => exact hs
  | cons a rest ih => exact ih (preserved s a hs)

/-- If good steps preserve an invariant, which implies a property, and only good steps keep that
property, then the runs of good steps are the runs along which the property holds. -/
theorem guarded_iff_prefixes {step : S → A → S} {good : S → A → Prop} {inv property : S → Prop}
    (preserved : ∀ s a, inv s → good s a → inv (step s a)) (sound : ∀ s, inv s → property s)
    (needed : ∀ s a, inv s → property (step s a) → good s a) {s : S} {inputs : List A}
    (hs : inv s) : Guarded step good s inputs ↔
      ∀ first second, inputs = first ++ second → property (run step s first) := by
  constructor
  · rintro hgood first second rfl
    exact sound _ ((guarded_append.1 hgood).1.invariant preserved hs)
  · intro hprefixes
    induction inputs generalizing s with
    | nil => trivial
    | cons a rest ih =>
      have hgood : good s a := needed s a hs (hprefixes [a] rest rfl)
      refine ⟨hgood, ih (preserved s a hs hgood) ?_⟩
      rintro first second rfl
      exact hprefixes (a :: first) second rfl

/-- Two conditions that agree on the states of an invariant guard the same runs. -/
theorem guarded_congr {step : S → A → S} {good fit : S → A → Prop} {inv : S → Prop}
    (preserved : ∀ s a, inv s → good s a → inv (step s a))
    (agree : ∀ s a, inv s → (good s a ↔ fit s a)) {s : S} {inputs : List A} (hs : inv s) :
    Guarded step good s inputs ↔ Guarded step fit s inputs := by
  induction inputs generalizing s with
  | nil => exact Iff.rfl
  | cons a rest ih =>
    constructor
    · rintro ⟨hgood, hrest⟩
      exact ⟨(agree s a hs).1 hgood, (ih (preserved s a hs hgood)).1 hrest⟩
    · rintro ⟨hfit, hrest⟩
      have hgood := (agree s a hs).2 hfit
      exact ⟨hgood, (ih (preserved s a hs hgood)).2 hrest⟩

/-- On the states of an invariant, a condition may be replaced by a weaker one. -/
theorem Guarded.imp {step : S → A → S} {good fit : S → A → Prop} {inv : S → Prop}
    (preserved : ∀ s a, inv s → good s a → inv (step s a))
    (weaker : ∀ s a, inv s → good s a → fit s a) {s : S} {inputs : List A} (hs : inv s)
    (hgood : Guarded step good s inputs) : Guarded step fit s inputs := by
  induction inputs generalizing s with
  | nil => trivial
  | cons a rest ih =>
    obtain ⟨ha, hrest⟩ := hgood
    exact ⟨weaker s a hs ha, ih (preserved s a hs ha) hrest⟩

/-- A condition may be replaced by a weaker one. -/
theorem Guarded.mono {step : S → A → S} {good fit : S → A → Prop}
    (weaker : ∀ s a, good s a → fit s a) {s : S} {inputs : List A}
    (hgood : Guarded step good s inputs) : Guarded step fit s inputs := by
  induction inputs generalizing s with
  | nil => trivial
  | cons a rest ih => exact ⟨weaker s a hgood.1, ih hgood.2⟩

theorem guarded_and {step : S → A → S} {good fit : S → A → Prop} {s : S} {inputs : List A} :
    Guarded step (fun s a => good s a ∧ fit s a) s inputs ↔
      Guarded step good s inputs ∧ Guarded step fit s inputs := by
  induction inputs generalizing s with
  | nil => simp [Guarded]
  | cons a rest ih =>
    simp only [Guarded, ih]
    constructor
    · rintro ⟨⟨hgood, hfit⟩, hgoods, hfits⟩
      exact ⟨⟨hgood, hgoods⟩, hfit, hfits⟩
    · rintro ⟨⟨hgood, hgoods⟩, hfit, hfits⟩
      exact ⟨⟨hgood, hfit⟩, hgoods, hfits⟩

/-- How many inputs of a run are of a kind, in the states that they are applied to. -/
def occurrences (step : S → A → S) (kind : S → A → Bool) : S → List A → Nat
  | _, [] => 0
  | s, a :: rest => (kind s a).toNat + occurrences step kind (step s a) rest

theorem occurrences_never (step : S → A → S) (s : S) (inputs : List A) :
    occurrences step (fun _ _ => false) s inputs = 0 := by
  induction inputs generalizing s with
  | nil => rfl
  | cons a rest ih => exact (Nat.zero_add _).trans (ih (step s a))

/-- What enters a level in a run leaves it again or is still there. -/
theorem Guarded.balance {step : S → A → S} {good : S → A → Prop} {enters leaves : S → A → Bool}
    {s : S} {inputs : List A} (hgood : Guarded step good s inputs) (level : S → Nat)
    (balanced : ∀ s a, good s a →
      level (step s a) + (leaves s a).toNat = level s + (enters s a).toNat) :
    level (run step s inputs) + occurrences step leaves s inputs =
      level s + occurrences step enters s inputs := by
  induction inputs generalizing s with
  | nil => rfl
  | cons a rest ih =>
    have hfirst := balanced s a hgood.1
    have hrest := ih hgood.2
    simp only [run_cons, occurrences]
    omega

/-- Each input of a kind raises a level by one at least, so the level bounds how many there are. -/
theorem Guarded.occurrences_le {step : S → A → S} {good : S → A → Prop} {inv : S → Prop}
    {kind : S → A → Bool} (level : S → Nat)
    (preserved : ∀ s a, inv s → good s a → inv (step s a))
    (raises : ∀ s a, inv s → good s a → level s + (kind s a).toNat ≤ level (step s a)) {s : S}
    {inputs : List A} (hs : inv s) (hgood : Guarded step good s inputs) :
    level s + occurrences step kind s inputs ≤ level (run step s inputs) := by
  induction inputs generalizing s with
  | nil => exact Nat.le_refl _
  | cons a rest ih =>
    have hfirst := raises s a hs hgood.1
    have hrest := ih (preserved s a hs hgood.1) hgood.2
    simp only [run_cons, occurrences]
    omega

end Transition
