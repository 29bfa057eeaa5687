import Alicia.Transition.Effect

/-!
# Reading back what was written

A writer puts parts behind each other, and a part may fail to be written.  A reader that takes the same
parts in the same order gives the value back and leaves what follows alone.
-/

/-- States from which a stream of bytes is read. -/
structure Source (S B : Type) where
  rest : S → List B
  advance : S → Nat → S
  rest_advance : ∀ s n, rest (advance s n) = (rest s).drop n
  advance_zero : ∀ s, advance s 0 = s
  advance_advance : ∀ s m n, advance (advance s m) n = advance s (m + n)

/-- Parts behind each other, if all of them can be written. -/
def concat {B : Type} : List (Option (List B)) → Option (List B)
  | [] => some []
  | part :: parts => do return (← part) ++ (← concat parts)

theorem concat_cons_eq_some {B : Type} {part : Option (List B)} {parts : List (Option (List B))}
    {bytes : List B} : concat (part :: parts) = some bytes ↔
      ∃ first rest, part = some first ∧ concat parts = some rest ∧ bytes = first ++ rest := by
  rw [concat]
  cases part with
  | none =>
    constructor
    · intro h
      cases h
    · rintro ⟨_, _, h, _⟩
      cases h
  | some first =>
    cases concat parts with
    | none =>
      constructor
      · intro h
        cases h
      · rintro ⟨_, _, _, h, _⟩
        cases h
    | some rest =>
      constructor
      · intro h
        exact ⟨first, rest, rfl, rfl, (Option.some.inj h).symm⟩
      · rintro ⟨_, _, hfirst, hrest, rfl⟩
        cases hfirst
        cases hrest
        rfl

theorem concat_append {B : Type} (parts more : List (Option (List B))) :
    concat (parts ++ more) = do return (← concat parts) ++ (← concat more) := by
  induction parts with
  | nil => simp [concat]
  | cons part parts ih =>
    rw [List.cons_append, concat, concat, ih]
    cases part <;> cases concat parts <;> cases concat more <;> simp

theorem concat_map_some {α B : Type} (write : α → List B) (list : List α) :
    concat (list.map fun a => some (write a)) = some (list.flatMap write) := by
  induction list with
  | nil => rfl
  | cons a list ih =>
    rw [List.map_cons, concat, ih]
    rfl

namespace Source

open Transition Effect

variable {S B E α β γ : Type} (source : Source S B)

/-- From any state where the bytes come next, the reader gives the value and moves behind them. -/
def Decodes (read : Effect S E α) (bytes : List B) (a : α) : Prop :=
  ∀ s after, source.rest s = bytes ++ after → read s = .ok a (source.advance s bytes.length)

/-- What was written is read back as the value. -/
class RoundTrips (written : Option (List B)) (read : Effect S E α) (a : outParam α) : Prop where
  decodes : ∀ bytes, written = some bytes → source.Decodes read bytes a

variable {source}
variable {read : Effect S E α} {a : α} {bytes more : List B}

theorem Decodes.pure (a : α) : source.Decodes (pure a : Effect S E α) [] a := by
  intro s after _
  rw [pure_apply, List.length_nil, source.advance_zero]

theorem Decodes.bind {next : α → Effect S E β} {b : β} (h : source.Decodes read bytes a)
    (hnext : source.Decodes (next a) more b) : source.Decodes (read >>= next) (bytes ++ more) b := by
  intro s after hrest
  rw [List.append_assoc] at hrest
  rw [bind_ok (h s (more ++ after) hrest), List.length_append, ← source.advance_advance]
  refine hnext (source.advance s bytes.length) after ?_
  rw [source.rest_advance, hrest, List.drop_left]

/-- A reader that only uses the value takes no more bytes. -/
theorem Decodes.bind_pure (f : α → β) (h : source.Decodes read bytes a) :
    source.Decodes (read >>= fun a => Pure.pure (f a)) bytes (f a) := by
  intro s after hrest
  exact bind_ok (h s after hrest) _

theorem Decodes.map (f : α → β) (h : source.Decodes read bytes a) :
    source.Decodes (f <$> read) bytes (f a) := by
  intro s after hrest
  rw [map_apply, h s after hrest]

theorem Decodes.adaptExcept {E' : Type} (f : E → E') (h : source.Decodes read bytes a) :
    source.Decodes (read.adaptExcept f : Effect S E' α) bytes a := by
  intro s after hrest
  exact adaptExcept_ok (h s after hrest) f

/-! ## Parts -/

instance RoundTrips.nil (a : α) : source.RoundTrips (concat []) (pure a : Effect S E α) a where
  decodes bytes h := by
    cases h
    exact .pure a

instance RoundTrips.cons {part : Option (List B)} {parts : List (Option (List B))}
    {next : α → Effect S E β} {b : β} [h : source.RoundTrips part read a]
    [hnext : source.RoundTrips (concat parts) (next a) b] :
    source.RoundTrips (concat (part :: parts)) (read >>= next) b where
  decodes bytes hbytes := by
    obtain ⟨first, rest, hfirst, hrest, rfl⟩ := concat_cons_eq_some.1 hbytes
    exact (h.decodes first hfirst).bind (hnext.decodes rest hrest)

theorem RoundTrips.map (f : α → β) {written : Option (List B)} (h : source.RoundTrips written read a) :
    source.RoundTrips written (f <$> read) (f a) where
  decodes bytes hbytes := (h.decodes bytes hbytes).map f

/-! ## Optional parts -/

/-- A part that is only written under a condition. -/
def written (condition : Bool) (part : Option (List B)) : Option (List B) :=
  if condition then part else concat []

/-- A part that is only read under the condition, or else keeps a default value. -/
def optional (condition : Bool) (read : Effect S E α) (default : α) : Effect S E α :=
  if condition then read else pure default

theorem RoundTrips.optional {condition : Bool} {part : Option (List B)} (default : α)
    (h : condition = true → source.RoundTrips part read a) :
    source.RoundTrips (written condition part) (Source.optional condition read default)
      (if condition then a else default) := by
  unfold written Source.optional
  split
  next hcondition => exact h hcondition
  next => exact .nil default

@[simp] theorem written_false (part : Option (List B)) : written false part = concat [] := rfl

@[simp] theorem optional_false (read : Effect S E α) (default : α) :
    optional false read default = pure default := rfl

theorem concat_nil_cons (parts : List (Option (List B))) : concat (concat [] :: parts) = concat parts := by
  rw [concat, concat]
  cases concat parts <;> rfl

/-! ## Lists -/

/-- The reader is run a number of times. -/
def many (read : Effect S E α) : (n : Nat) → Effect S E { list : List α // list.length = n }
  | 0 => pure ⟨[], rfl⟩
  | n + 1 => do
    let a ← read
    let rest ← many read n
    return ⟨a :: rest.1, congrArg (· + 1) rest.2⟩

/-- A list is read back if each of its members is. -/
theorem RoundTrips.many_of_mem {write : α → Option (List B)} {n : Nat}
    (list : { list : List α // list.length = n })
    (h : ∀ a ∈ list.1, source.RoundTrips (write a) read a) :
    source.RoundTrips (concat (list.1.map write)) (Source.many read n) list := by
  obtain ⟨list, rfl⟩ := list
  induction list with
  | nil => exact .nil _
  | cons a list ih =>
    obtain ⟨ha, hlist⟩ := List.forall_mem_cons.1 h
    constructor
    intro bytes hbytes
    obtain ⟨first, rest, hfirst, hrest, rfl⟩ := concat_cons_eq_some.1 hbytes
    refine (ha.decodes first hfirst).bind ?_
    exact Decodes.bind_pure
      (fun rest : { l : List α // l.length = list.length } =>
        (⟨a :: rest.1, congrArg (· + 1) rest.2⟩ : { l : List α // l.length = list.length + 1 }))
      ((ih hlist).decodes rest hrest)

instance RoundTrips.many {write : α → Option (List B)}
    [h : ∀ a, source.RoundTrips (write a) read a] {n : Nat} (list : { list : List α // list.length = n }) :
    source.RoundTrips (concat (list.1.map write)) (Source.many read n) list :=
  .many_of_mem list fun a _ => h a

end Source
