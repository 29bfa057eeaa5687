import Alicia.Transition.Effect

/-!
# Effects that record more

An effect on a larger state does what another one does on a part of it, and throws when the other one throws.
What it records beside that part does not matter to it.
-/

namespace Transition.Effect

variable {S T E α β γ : Type}

/-- Through the view, `x` does what `y` does. -/
def Simulates (view : T → S) (x : Effect T E α) (y : Effect S E α) : Prop :=
  ∀ t, match x t with
    | .ok a t' => y (view t) = .ok a (view t')
    | .error e t' => y (view t) = .error e (view t')

section Rules

variable {view : T → S}

theorem Simulates.ok {x : Effect T E α} {y : Effect S E α} (h : Simulates view x y) {t t' : T} {a : α}
    (hx : x t = .ok a t') : y (view t) = .ok a (view t') := by
  have ht := h t
  rw [hx] at ht
  exact ht

theorem Simulates.error {x : Effect T E α} {y : Effect S E α} (h : Simulates view x y) {t t' : T} {e : E}
    (hx : x t = .error e t') : y (view t) = .error e (view t') := by
  have ht := h t
  rw [hx] at ht
  exact ht

/-- What is left, seen through the view. -/
theorem Simulates.final {x : Effect T E α} {y : Effect S E α} (h : Simulates view x y) (t : T) :
    view (x.final t) = y.final (view t) := by
  cases hx : x t with
  | ok a t' => rw [final_ok hx, final_ok (h.ok hx)]
  | error e t' => rw [final_error hx, final_error (h.error hx)]

theorem Simulates.pure (a : α) : Simulates view (pure a : Effect T E α) (pure a) := fun _ => rfl

theorem Simulates.bind {x : Effect T E α} {y : Effect S E α} {f : α → Effect T E β} {g : α → Effect S E β}
    (hx : Simulates view x y) (hf : ∀ a, Simulates view (f a) (g a)) : Simulates view (x >>= f) (y >>= g) := by
  intro t
  cases h : x t with
  | ok a t' =>
    rw [bind_ok h, bind_ok (hx.ok h)]
    exact hf a t'
  | error e t' =>
    rw [bind_error h]
    exact bind_error (hx.error h) g

/-- What comes before is done under a condition. -/
theorem Simulates.ite_bind {c : Prop} [Decidable c] {x : Effect T E α} {y : Effect S E α}
    (hx : Simulates view x y) {rest : Effect T E β} {left : Effect S E β}
    (h : Simulates view rest left) : Simulates view (if c then x >>= fun _ => rest else rest)
      (if c then y >>= fun _ => left else left) := by
  split
  · exact hx.bind fun _ => h
  · exact h

/-- A read of the larger state stands for one of the part. -/
theorem Simulates.get_bind {f : T → Effect T E β} {g : S → Effect S E β}
    (h : ∀ t, Simulates view (f t) (g (view t))) : Simulates view (get >>= f) (get >>= g) := fun t => h t t

/-- A read that only records. -/
theorem Simulates.recall {f : T → Effect T E β} {y : Effect S E β} (h : ∀ t, Simulates view (f t) y) :
    Simulates view (get >>= f) y := fun t => h t t

theorem Simulates.ask {lookup : T → Except E α} {other : S → Except E α} (h : ∀ t, lookup t = other (view t)) :
    Simulates view (Effect.ask lookup) (Effect.ask other) := by
  intro t
  cases hlookup : lookup t with
  | ok a =>
    rw [ask_ok hlookup]
    exact ask_ok ((h t).symm.trans hlookup)
  | error e =>
    rw [ask_error hlookup]
    exact ask_error ((h t).symm.trans hlookup)

/-- A change that the view does not show. -/
theorem Simulates.record {change : T → T} {f : PUnit → Effect T E β} {y : Effect S E β}
    (hview : ∀ t, view (change t) = view t) (h : Simulates view (f ⟨⟩) y) :
    Simulates view (modify change >>= f) y := by
  intro t
  rw [bind_ok (modify_apply change t), ← hview t]
  exact h (change t)

theorem Simulates.forM {f : γ → Effect T E PUnit} {g : γ → Effect S E PUnit}
    (h : ∀ c, Simulates view (f c) (g c)) (items : List γ) : Simulates view (items.forM f) (items.forM g) := by
  induction items with
  | nil => exact .pure _
  | cons c rest ih => exact .bind (h c) fun _ => ih

/-- An effect on the part. -/
theorem Simulates.zoom {put : S → T → T} (hput : ∀ s t, view (put s t) = s) (y : Effect S E α) :
    Simulates view (y.zoom view put) y := by
  intro t
  rw [Effect.zoom]
  cases hy : y (view t) with
  | ok a s =>
    dsimp only
    rw [hput]
  | error e s =>
    dsimp only
    rw [hput]

end Rules

end Transition.Effect
