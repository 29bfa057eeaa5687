import Mathlib.Order.Defs.Unbundled

/-!
# Effects that can throw

An effect changes a state and returns a value or throws.  A throw does not undo the changes that
were made before it, so an effect leaves a final state in either case.
-/

namespace Transition

/-- An effect on states of type `S`, which may throw an error of type `E`. -/
abbrev Effect (S E α : Type) := EStateM E S α

namespace Effect

variable {S E α β : Type}

theorem bind_apply (x : Effect S E α) (f : α → Effect S E β) (s : S) :
    (x >>= f) s = match x s with
      | .ok a s' => f a s'
      | .error e s' => .error e s' := by
  change EStateM.bind x f s = _
  unfold EStateM.bind
  cases x s <;> rfl

theorem map_apply (f : α → β) (x : Effect S E α) (s : S) :
    (f <$> x : Effect S E β) s = match x s with
      | .ok a s' => .ok (f a) s'
      | .error e s' => .error e s' := by
  change EStateM.map f x s = _
  unfold EStateM.map
  cases x s <;> rfl

@[simp] theorem pure_apply (a : α) (s : S) : (pure a : Effect S E α) s = .ok a s := rfl

@[simp] theorem throw_apply (e : E) (s : S) : (throw e : Effect S E α) s = .error e s := rfl

@[simp] theorem get_apply (s : S) : (get : Effect S E S) s = .ok s s := rfl

@[simp] theorem modify_apply (f : S → S) (s : S) :
    (modify f : Effect S E PUnit) s = .ok ⟨⟩ (f s) := rfl

theorem bind_ok {x : Effect S E α} {s s' : S} {a : α} (h : x s = .ok a s') (f : α → Effect S E β) :
    (x >>= f) s = f a s' := by
  rw [bind_apply, h]

theorem bind_error {x : Effect S E α} {s s' : S} {e : E} (h : x s = .error e s')
    (f : α → Effect S E β) : (x >>= f) s = .error e s' := by
  rw [bind_apply, h]

theorem bind_eq_ok {x : Effect S E α} {f : α → Effect S E β} {s t : S} {b : β} :
    (x >>= f) s = .ok b t ↔ ∃ a s', x s = .ok a s' ∧ f a s' = .ok b t := by
  rw [bind_apply]
  cases h : x s with
  | ok a s' =>
    constructor
    · intro hf
      exact ⟨a, s', rfl, hf⟩
    · rintro ⟨a', s'', hx, hf⟩
      cases hx
      exact hf
  | error e s' => simp

/-- An effect on a part of the state, which `part` reads and `put` replaces. -/
def zoom {T : Type} (part : T → S) (put : S → T → T) (x : Effect S E α) : Effect T E α := fun t =>
  match x (part t) with
  | .ok a s => .ok a (put s t)
  | .error e s => .error e (put s t)

theorem zoom_ok {T : Type} {part : T → S} {put : S → T → T} {x : Effect S E α} {t : T} {a : α} {s : S}
    (h : x (part t) = .ok a s) : x.zoom part put t = .ok a (put s t) := by
  rw [zoom, h]

/-- The value of an option, or a throw. -/
def ofOption (error : E) : Option α → Effect S E α
  | some a => pure a
  | none => throw error

@[simp] theorem ofOption_some (error : E) (a : α) :
    (ofOption error (some a) : Effect S E α) = pure a := rfl

/-- What a lookup finds in the state, or a throw. -/
def ask (lookup : S → Except E α) : Effect S E α := fun s =>
  match lookup s with
  | .ok a => .ok a s
  | .error e => .error e s

theorem ask_ok {lookup : S → Except E α} {s : S} {a : α} (h : lookup s = .ok a) :
    ask lookup s = .ok a s := by
  rw [ask, h]

theorem ask_error {lookup : S → Except E α} {s : S} {e : E} (h : lookup s = .error e) :
    ask lookup s = .error e s := by
  rw [ask, h]

theorem ask_eq_ok {lookup : S → Except E α} {s t : S} {a : α} :
    ask lookup s = .ok a t ↔ lookup s = .ok a ∧ s = t := by
  cases h : lookup s with
  | ok b => rw [ask_ok h, EStateM.Result.ok.injEq, Except.ok.injEq]
  | error e =>
    rw [ask_error h]
    exact ⟨nofun, fun hok => nomatch hok.1⟩

/-- Nothing follows a lookup that fails. -/
theorem ask_bind_error (lookup : S → Except E α) {s : S} {e : E} (h : lookup s = .error e)
    (f : α → Effect S E β) : (ask lookup >>= f) s = .error e s :=
  bind_error (ask_error h) f

theorem adaptExcept_apply {E' : Type} (f : E → E') (x : Effect S E α) (s : S) :
    (x.adaptExcept f : Effect S E' α) s = match x s with
      | .ok a s' => .ok a s'
      | .error e s' => .error (f e) s' := by
  unfold EStateM.adaptExcept
  cases x s <;> rfl

theorem adaptExcept_ok {E' : Type} {x : Effect S E α} {s s' : S} {a : α} (h : x s = .ok a s')
    (f : E → E') : (x.adaptExcept f : Effect S E' α) s = .ok a s' := by
  rw [adaptExcept_apply, h]

/-- The state which the effect leaves, whether it returns or throws. -/
def final (x : Effect S E α) (s : S) : S :=
  match x s with
  | .ok _ s' => s'
  | .error _ s' => s'

/-- The value which the effect returns, if it does not throw. -/
def returned (x : Effect S E α) (s : S) : Option α :=
  match x s with
  | .ok a _ => some a
  | .error _ _ => none

/-- The effect returns. -/
def Completes (x : Effect S E α) (s : S) : Prop :=
  match x s with
  | .ok _ _ => True
  | .error _ _ => False

instance (x : Effect S E α) (s : S) : Decidable (x.Completes s) := by
  unfold Completes
  split <;> infer_instance

theorem final_ok {x : Effect S E α} {s s' : S} {a : α} (h : x s = .ok a s') :
    x.final s = s' := by
  simp only [final, h]

theorem returned_ok {x : Effect S E α} {s s' : S} {a : α} (h : x s = .ok a s') :
    x.returned s = some a := by
  simp only [returned, h]

theorem returned_error {x : Effect S E α} {s s' : S} {e : E} (h : x s = .error e s') :
    x.returned s = none := by
  simp only [returned, h]

theorem final_error {x : Effect S E α} {s s' : S} {e : E} (h : x s = .error e s') :
    x.final s = s' := by
  simp only [final, h]

/-- Effects with one result leave one state, whatever they started in. -/
theorem final_congr {x y : Effect S E α} {s t : S} (h : x s = y t) : x.final s = y.final t := by
  simp only [final, h]

theorem completes_congr {x y : Effect S E α} {s t : S} (h : x s = y t) :
    x.Completes s ↔ y.Completes t := by
  simp only [Completes, h]

theorem final_zoom {T : Type} (part : T → S) (put : S → T → T) (x : Effect S E α) (t : T) :
    (x.zoom part put).final t = put (x.final (part t)) t := by
  simp only [zoom, final]
  cases x (part t) <;> rfl

@[simp] theorem final_pure (a : α) (s : S) : (pure a : Effect S E α).final s = s := rfl

@[simp] theorem final_throw (e : E) (s : S) : (throw e : Effect S E α).final s = s := rfl

@[simp] theorem final_modify (f : S → S) (s : S) :
    (modify f : Effect S E PUnit).final s = f s := rfl

theorem completes_iff {x : Effect S E α} {s : S} :
    x.Completes s ↔ ∃ a s', x s = .ok a s' := by
  unfold Completes
  cases h : x s with
  | ok a s' => simp
  | error e s' => simp

/-- An effect which returned ran its first part to the end and then the rest. -/
theorem completes_bind {x : Effect S E α} {f : α → Effect S E β} {s : S} :
    (x >>= f).Completes s ↔ ∃ a s', x s = .ok a s' ∧ (f a).Completes s' := by
  simp only [completes_iff, bind_eq_ok]
  constructor
  · rintro ⟨b, t, a, s', hx, hf⟩
    exact ⟨a, s', hx, b, t, hf⟩
  · rintro ⟨a, s', hx, b, t, hf⟩
    exact ⟨b, t, a, s', hx, hf⟩

theorem completes_bind_ok {x : Effect S E α} {f : α → Effect S E β} {s s' : S} {a : α}
    (h : x s = .ok a s') : (x >>= f).Completes s ↔ (f a).Completes s' := by
  simp only [Completes, bind_apply, h]

theorem final_bind_ok {x : Effect S E α} {f : α → Effect S E β} {s s' : S} {a : α}
    (h : x s = .ok a s') : (x >>= f).final s = (f a).final s' := by
  simp only [final, bind_apply, h]

theorem final_bind_error {x : Effect S E α} {f : α → Effect S E β} {s s' : S} {e : E}
    (h : x s = .error e s') : (x >>= f).final s = s' := by
  simp only [final, bind_apply, h]

theorem final_bind (x : Effect S E α) (f : α → Effect S E β) (s : S) :
    (x >>= f).final s = match x s with
      | .ok a s' => (f a).final s'
      | .error _ s' => s' := by
  simp only [final, bind_apply]
  cases x s <;> rfl

/-- A lookup changes nothing. -/
@[simp] theorem final_ask (lookup : S → Except E α) (s : S) : (ask lookup).final s = s := by
  cases h : lookup s with
  | ok a => exact final_ok (ask_ok h)
  | error e => exact final_error (ask_error h)

/-- What follows a lookup: the state as it is, if the lookup throws, and what the rest leaves. -/
theorem final_ask_bind {P : S → Prop} {lookup : S → Except E α} {f : α → Effect S E β} {s : S}
    (hthrown : ∀ e, lookup s = .error e → P s) (hfound : ∀ a, lookup s = .ok a → P ((f a).final s)) :
    P ((ask lookup >>= f).final s) := by
  cases h : lookup s with
  | ok a =>
    rw [final_bind_ok (ask_ok h)]
    exact hfound a h
  | error e =>
    rw [final_bind_error (ask_error h)]
    exact hthrown e h

/-- A lookup before effects that change nothing changes nothing. -/
theorem final_ask_bind_of {lookup : S → Except E α} {f : α → Effect S E β} {s : S}
    (h : ∀ a, (f a).final s = s) : (ask lookup >>= f).final s = s :=
  final_ask_bind (P := fun after => after = s) (fun _ _ => rfl) fun a _ => h a

/-- The state as it was, or an expected one. -/
def SameOr (s : S) (expected : S → Prop) (after : S) : Prop := after = s ∨ expected after

theorem SameOr.same {s : S} {expected : S → Prop} : SameOr s expected s := .inl rfl

theorem SameOr.changed {s after : S} {expected : S → Prop} (h : expected after) :
    SameOr s expected after := .inr h

/-- What holds of the state before and of every changed state. -/
theorem SameOr.elim {s after : S} {expected P : S → Prop} (h : SameOr s expected after) (hs : P s)
    (hchanged : ∀ after, expected after → P after) : P after := by
  obtain rfl | hexpected := h
  · exact hs
  · exact hchanged after hexpected

/-- A lookup that throws leaves the state as it was. -/
theorem SameOr.ask_bind {s : S} {expected : S → Prop} {lookup : S → Except E α}
    {f : α → Effect S E β} (h : ∀ a, lookup s = .ok a → SameOr s expected ((f a).final s)) :
    SameOr s expected ((ask lookup >>= f).final s) :=
  final_ask_bind (fun _ _ => .same) h

/-- What follows an effect on a part of the state. -/
theorem final_zoom_bind {T : Type} (part : T → S) (put : S → T → T) (x : Effect S E α)
    (f : α → Effect T E β) (t : T) :
    (x.zoom part put >>= f).final t = match x (part t) with
      | .ok a s => (f a).final (put s t)
      | .error _ s => put s t := by
  rw [final_bind]
  simp only [zoom]
  cases x (part t) <;> rfl

/-- Nothing follows an effect that throws. -/
theorem final_bind_of_not_completes {x : Effect S E α} {f : α → Effect S E β} {s : S}
    (h : ¬x.Completes s) : (x >>= f).final s = x.final s := by
  cases hx : x s with
  | ok a s' => exact absurd (completes_iff.2 ⟨a, s', hx⟩) h
  | error e s' => rw [final_bind_error hx, final_error hx]

/-- A last pure step changes nothing. -/
@[simp] theorem final_bind_pure (x : Effect S E α) (f : α → β) (s : S) :
    (x >>= fun a => pure (f a)).final s = x.final s := by
  simp only [final, bind_apply]
  cases x s <;> rfl

theorem returned_bind (x : Effect S E α) (f : α → Effect S E β) (s : S) :
    (x >>= f).returned s = (x.returned s).bind fun a => (f a).returned (x.final s) := by
  simp only [returned, final, bind_apply]
  cases x s <;> rfl

/-- Whatever the effect returns has the property. -/
def Returns (P : α → Prop) (x : Effect S E α) : Prop := ∀ s a, x.returned s = some a → P a

theorem Returns.pure {P : α → Prop} {a : α} (h : P a) : Returns P (pure a : Effect S E α) := by
  intro s b hb
  cases hb
  exact h

theorem Returns.bind {P : β → Prop} (x : Effect S E α) {f : α → Effect S E β}
    (hf : ∀ a, Returns P (f a)) : Returns P (x >>= f) := by
  intro s b hb
  rw [returned, bind_apply] at hb
  cases h : x s with
  | ok a s' =>
    rw [h] at hb
    exact hf a s' b hb
  | error e s' =>
    rw [h] at hb
    cases hb

theorem Returns.throw {P : α → Prop} (e : E) : Returns P (throw e : Effect S E α) := by
  intro s b hb
  cases hb

theorem Returns.ask {P : α → Prop} {lookup : S → Except E α} (h : ∀ s a, lookup s = .ok a → P a) :
    Returns P (Effect.ask lookup) := by
  intro s a ha
  cases hlookup : lookup s with
  | ok b =>
    rw [returned_ok (ask_ok hlookup)] at ha
    cases ha
    exact h s a hlookup
  | error e =>
    rw [returned_error (ask_error hlookup)] at ha
    cases ha

/-- Whatever the effect throws has the property. -/
def Throws (P : E → Prop) (x : Effect S E α) : Prop := ∀ s s' e, x s = .error e s' → P e

theorem Throws.pure {P : E → Prop} (a : α) : Throws P (pure a : Effect S E α) := by
  intro s s' e he
  cases he

theorem Throws.get {P : E → Prop} : Throws P (MonadState.get : Effect S E S) := by
  intro s s' e he
  cases he

theorem Throws.modify {P : E → Prop} (f : S → S) : Throws P (modify f : Effect S E PUnit) := by
  intro s s' e he
  cases he

theorem Throws.ask {P : E → Prop} {lookup : S → Except E α} (h : ∀ s e, lookup s = .error e → P e) :
    Throws P (Effect.ask lookup) := by
  intro s s' e he
  cases hlookup : lookup s with
  | ok a =>
    rw [ask_ok hlookup] at he
    cases he
  | error thrown =>
    rw [ask_error hlookup] at he
    cases he
    exact h s e hlookup

theorem Throws.bind {P : E → Prop} {x : Effect S E α} {f : α → Effect S E β} (hx : Throws P x)
    (hf : ∀ a, Throws P (f a)) : Throws P (x >>= f) := by
  intro s s' e he
  cases h : x s with
  | ok a t =>
    rw [bind_ok h] at he
    exact hf a t s' e he
  | error thrown t =>
    rw [bind_error h] at he
    cases he
    exact hx s s' e h

theorem Throws.forM {P : E → Prop} {f : β → Effect S E PUnit} (hf : ∀ b, Throws P (f b)) (items : List β) :
    Throws P (items.forM f) := by
  induction items with
  | nil => exact .pure _
  | cons b rest ih => exact .bind (hf b) fun _ => ih

theorem Throws.zoom {T : Type} {P : E → Prop} {part : T → S} {put : S → T → T} {x : Effect S E α} (hx : Throws P x) :
    Throws P (x.zoom part put) := by
  intro t t' e he
  rw [Effect.zoom] at he
  cases h : x (part t) with
  | ok a s =>
    rw [h] at he
    cases he
  | error thrown s =>
    rw [h] at he
    cases he
    exact hx (part t) s e h

/-- The effect relates every state to the state which it leaves. -/
def Keeps (R : S → S → Prop) (x : Effect S E α) : Prop :=
  ∀ s, R s (x.final s)

section Rules

variable {R : S → S → Prop}

theorem Keeps.pure [Std.Refl R] (a : α) : Keeps R (pure a : Effect S E α) :=
  fun s => refl_of R s

theorem Keeps.throw [Std.Refl R] (e : E) : Keeps R (throw e : Effect S E α) :=
  fun s => refl_of R s

theorem Keeps.get [Std.Refl R] : Keeps R (MonadState.get : Effect S E S) :=
  fun s => refl_of R s

theorem Keeps.modify {f : S → S} (h : ∀ s, R s (f s)) :
    Keeps R (modify f : Effect S E PUnit) := h

/-- An effect which only reads keeps every reflexive relation. -/
theorem Keeps.of_final [Std.Refl R] {x : Effect S E α} (h : ∀ s, x.final s = s) : Keeps R x :=
  fun s => (h s).symm ▸ refl_of R s

theorem Keeps.bind [IsTrans S R] {x : Effect S E α} {f : α → Effect S E β}
    (hx : Keeps R x) (hf : ∀ a, Keeps R (f a)) : Keeps R (x >>= f) := by
  intro s
  have hs := hx s
  unfold final at hs ⊢
  rw [bind_apply]
  cases h : x s with
  | ok a s' =>
    rw [h] at hs
    exact trans_of R hs (hf a s')
  | error e s' =>
    rw [h] at hs
    exact hs

/-- What comes after an effect that is made in one case only. -/
theorem Keeps.ite_bind [IsTrans S R] {c : Prop} [Decidable c] {x : Effect S E α} {rest : Effect S E β}
    (hx : Keeps R x) (hrest : Keeps R rest) : Keeps R (if c then x >>= fun _ => rest else rest) := by
  split
  · exact .bind hx fun _ => hrest
  · exact hrest

/-- What follows an effect may rely on the value. -/
theorem Keeps.bind_returns [IsTrans S R] {P : α → Prop} {x : Effect S E α} {f : α → Effect S E β}
    (hx : Keeps R x) (hreturns : Returns P x) (hf : ∀ a, P a → Keeps R (f a)) : Keeps R (x >>= f) := by
  intro s
  have hs := hx s
  cases h : x s with
  | ok a s' =>
    rw [final_ok h] at hs
    rw [final_bind_ok h]
    exact trans_of R hs (hf a (hreturns s a (returned_ok h)) s')
  | error e s' =>
    rw [final_error h] at hs
    rw [final_bind_error h]
    exact hs

theorem Keeps.adaptExcept {E' : Type} {x : Effect S E α} (hx : Keeps R x) (f : E → E') :
    Keeps R (x.adaptExcept f : Effect S E' α) := by
  intro s
  have hs := hx s
  rw [final] at hs ⊢
  rw [adaptExcept_apply]
  cases h : x s with
  | ok a s' =>
    rw [h] at hs
    exact hs
  | error e s' =>
    rw [h] at hs
    exact hs

/-- What follows an effect relates the state which that effect left to the last one. -/
theorem Keeps.after [Std.Refl R] (x : Effect S E α) {f : α → Effect S E β}
    (hf : ∀ a, Keeps R (f a)) (s : S) : R (x.final s) ((x >>= f).final s) := by
  cases h : x s with
  | ok a s' =>
    rw [final_bind_ok h, final_ok h]
    exact hf a s'
  | error e s' =>
    rw [final_bind_error h, final_error h]
    exact refl_of R s'

theorem Keeps.forM [Std.Refl R] [IsTrans S R] {f : β → Effect S E PUnit}
    (hf : ∀ b, Keeps R (f b)) (items : List β) : Keeps R (items.forM f) := by
  induction items with
  | nil => exact .pure _
  | cons b rest ih => exact .bind (hf b) fun _ => ih

/-- Where the relation that `x` keeps decides about the rest, the two parts complete separately. -/
theorem completes_bind_of_keeps {x : Effect S E α} {f : α → Effect S E β} {s : S} {P : Prop}
    (hkeeps : Keeps R x) (hrest : ∀ a s', R s s' → ((f a).Completes s' ↔ P)) :
    (x >>= f).Completes s ↔ x.Completes s ∧ P := by
  rw [completes_bind, completes_iff]
  constructor
  · rintro ⟨a, s', hx, hf⟩
    exact ⟨⟨a, s', hx⟩, (hrest a s' (final_ok hx ▸ hkeeps s)).1 hf⟩
  · rintro ⟨⟨a, s', hx⟩, hP⟩
    exact ⟨a, s', hx, (hrest a s' (final_ok hx ▸ hkeeps s)).2 hP⟩

/-- Items whose effects do not decide about each other complete together if each one does. -/
theorem completes_forM {f : β → Effect S E PUnit} (hkeeps : ∀ b, Keeps R (f b))
    (hsame : ∀ b s s', R s s' → ((f b).Completes s' ↔ (f b).Completes s)) (items : List β) (s : S) :
    (items.forM f).Completes s ↔ ∀ b ∈ items, (f b).Completes s := by
  induction items generalizing s with
  | nil => simp [Completes]
  | cons b rest ih =>
    have hstep : ((b :: rest).forM f).Completes s ↔
        ∃ a s', f b s = .ok a s' ∧ (rest.forM f).Completes s' := completes_bind
    rw [hstep, List.forall_mem_cons, completes_iff]
    constructor
    · rintro ⟨a, s', hb, hrest⟩
      have hR : R s s' := final_ok hb ▸ hkeeps b s
      refine ⟨⟨a, s', hb⟩, fun c hc => ?_⟩
      exact (hsame c s s' hR).1 ((ih s').1 hrest c hc)
    · rintro ⟨⟨a, s', hb⟩, hrest⟩
      have hR : R s s' := final_ok hb ▸ hkeeps b s
      exact ⟨a, s', hb, (ih s').2 fun c hc => (hsame c s s' hR).2 (hrest c hc)⟩

end Rules

/-- A loop of effects that always return. -/
theorem completes_forM_of_forall {f : β → Effect S E PUnit} (h : ∀ b s, (f b).Completes s) (items : List β) (s : S) :
    (items.forM f).Completes s := by
  induction items generalizing s with
  | nil => exact trivial
  | cons b rest ih =>
    obtain ⟨a, s', hb⟩ := completes_iff.1 (h b s)
    have hstep : ((b :: rest).forM f).Completes s ↔ (rest.forM f).Completes s' := completes_bind_ok hb
    exact hstep.2 (ih s')

/-- A loop whose steps return, and carry a statement about the items that are left from one to the next. -/
theorem final_forM_of_step {f : β → Effect S E PUnit} {P : List β → S → Prop}
    (hstep : ∀ b rest s, P (b :: rest) s → ∃ s', f b s = .ok ⟨⟩ s' ∧ P rest s') :
    ∀ (items : List β) (s : S), P items s → P [] ((items.forM f).final s) := by
  intro items
  induction items with
  | nil => exact fun _ h => h
  | cons b rest ih =>
    intro s h
    obtain ⟨middle, hb, hmiddle⟩ := hstep b rest s h
    have hcons : (b :: rest).forM f = f b >>= fun _ => rest.forM f := rfl
    rw [hcons, final_bind_ok hb]
    exact ih middle hmiddle

end Effect

end Transition
