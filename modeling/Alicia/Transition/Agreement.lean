import Alicia.Transition.Effect
import Alicia.Transition.Run

/-!
# Agreement and noninterference

Rules for what an effect makes of one state, with what it returns, and for what two effects make of
two states.  The second kind serves to compare a run with the run that is left of it when some of its
inputs are taken out: `unwinding` reduces the comparison to one input at a time.
-/

namespace Transition

namespace Effect

variable {S E α β : Type}

/-- The effect keeps `P`, and what it returns satisfies `Q`. -/
def Preserves (P : S → Prop) (Q : α → Prop) (x : Effect S E α) : Prop := ∀ s, P s →
  match x s with
  | .ok a s' => Q a ∧ P s'
  | .error _ s' => P s'

section Preserves

variable {P : S → Prop}

theorem Preserves.pure {Q : α → Prop} {a : α} (h : Q a) :
    Preserves P Q (pure a : Effect S E α) := fun _ hs => ⟨h, hs⟩

theorem Preserves.throw (Q : α → Prop) (e : E) : Preserves P Q (throw e : Effect S E α) :=
  fun _ hs => hs

theorem Preserves.bind {Q : α → Prop} {Q' : β → Prop} {x : Effect S E α} {f : α → Effect S E β}
    (hx : Preserves P Q x) (hf : ∀ a, Q a → Preserves P Q' (f a)) : Preserves P Q' (x >>= f) := by
  intro s hs
  have hfirst := hx s hs
  rw [bind_apply]
  cases h : x s with
  | ok a s' =>
    rw [h] at hfirst
    exact hf a hfirst.1 s' hfirst.2
  | error e s' =>
    rw [h] at hfirst
    exact hfirst

/-- What follows an effect leads from `P` to `P'`, which is weaker than `P`. -/
theorem Preserves.final_bind {Q : α → Prop} {P' : S → Prop} {x : Effect S E α}
    {f : α → Effect S E β} (hx : Preserves P Q x) (hweaker : ∀ s, P s → P' s)
    (hf : ∀ a, Q a → ∀ s, P s → P' ((f a).final s)) {s : S} (hs : P s) :
    P' ((x >>= f).final s) := by
  have hfirst := hx s hs
  rw [Effect.final_bind]
  cases h : x s with
  | ok a s' =>
    rw [h] at hfirst
    exact hf a hfirst.1 s' hfirst.2
  | error e s' =>
    rw [h] at hfirst
    exact hweaker s' hfirst

theorem Preserves.final {Q : α → Prop} {x : Effect S E α} (hx : Preserves P Q x) {s : S}
    (hs : P s) : P (x.final s) := by
  have hfinal := hx s hs
  cases h : x s with
  | ok a s' =>
    rw [h] at hfinal
    rw [final_ok h]
    exact hfinal.2
  | error e s' =>
    rw [h] at hfinal
    rw [final_error h]
    exact hfinal

end Preserves

/-- From related states, both effects return related values or both throw, in related states. -/
def Agree (R : S → S → Prop) (Q : α → α → Prop) (x y : Effect S E α) : Prop := ∀ s t, R s t →
  match x s, y t with
  | .ok a s', .ok b t' => Q a b ∧ R s' t'
  | .error _ s', .error _ t' => R s' t'
  | _, _ => False

section Agree

variable {R : S → S → Prop}

theorem Agree.pure {Q : α → α → Prop} {a b : α} (h : Q a b) :
    Agree R Q (pure a : Effect S E α) (pure b) := fun _ _ hst => ⟨h, hst⟩

theorem Agree.throw (Q : α → α → Prop) (e e' : E) :
    Agree R Q (throw e : Effect S E α) (throw e') := fun _ _ hst => hst

theorem Agree.bind {Q : α → α → Prop} {Q' : β → β → Prop} {x y : Effect S E α}
    {f g : α → Effect S E β} (hxy : Agree R Q x y)
    (hfg : ∀ a b, Q a b → Agree R Q' (f a) (g b)) : Agree R Q' (x >>= f) (y >>= g) := by
  intro s t hst
  have hfirst := hxy s t hst
  rw [bind_apply, bind_apply]
  cases hx : x s with
  | ok a s' =>
    cases hy : y t with
    | ok b t' =>
      rw [hx, hy] at hfirst
      exact hfg a b hfirst.1 s' t' hfirst.2
    | error e t' =>
      rw [hx, hy] at hfirst
      exact hfirst.elim
  | error e s' =>
    cases hy : y t with
    | ok b t' =>
      rw [hx, hy] at hfirst
      exact hfirst.elim
    | error e' t' =>
      rw [hx, hy] at hfirst
      exact hfirst

/-- Effects that agree on the value return the same, and leave related states. -/
theorem Agree.outcome {x y : Effect S E α} (hxy : Agree R Eq x y) {s t : S} (hst : R s t) :
    x.returned s = y.returned t ∧ R (x.final s) (y.final t) := by
  have h := hxy s t hst
  cases hx : x s with
  | ok a s' =>
    cases hy : y t with
    | ok b t' =>
      rw [hx, hy] at h
      rw [returned_ok hx, returned_ok hy, final_ok hx, final_ok hy]
      exact ⟨congrArg some h.1, h.2⟩
    | error e t' =>
      rw [hx, hy] at h
      exact h.elim
  | error e s' =>
    cases hy : y t with
    | ok b t' =>
      rw [hx, hy] at h
      exact h.elim
    | error e' t' =>
      rw [hx, hy] at h
      rw [returned_error hx, returned_error hy, final_error hx, final_error hy]
      exact ⟨rfl, h⟩

end Agree

end Effect

/-! ## Runs without some of their inputs -/

section Unwinding

variable {S A : Type*} {step : S → A → S} {hidden : A → Bool} {good : S → A → Prop}
  {R : S → S → Prop} [IsTrans S R]

/-- If the hidden inputs that are good lead to a related state, and the other inputs to related
states from related ones, then a run and what is left of it without its hidden inputs end in related
states. -/
theorem unwinding (unnoticed : ∀ s a, hidden a = true → good s a → R (step s a) s)
    (decided : ∀ s t a, hidden a = false → R s t → R (step s a) (step t a))
    {s t : S} {inputs : List A} (hst : R s t) (hgood : Guarded step good s inputs) :
    R (run step s inputs) (run step t (inputs.filter fun a => !hidden a)) := by
  induction inputs generalizing s t with
  | nil => exact hst
  | cons a rest ih =>
    obtain ⟨ha, hrest⟩ := hgood
    cases hhidden : hidden a with
    | true =>
      rw [List.filter_cons_of_neg (by simp [hhidden])]
      exact ih (trans_of R (unnoticed s a hhidden ha) hst) hrest
    | false =>
      rw [List.filter_cons_of_pos (by simp [hhidden])]
      exact ih (decided s t a hhidden hst) hrest

end Unwinding

end Transition
