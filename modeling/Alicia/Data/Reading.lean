import Alicia.Data.Lookup
import Mathlib.Order.Filter.AtTopBot.Basic

/-!
# A storage that is only read

`Get` asks for a record once, and the next tick retrieves it or fails for ever.  So as long as there
are only lookups and ticks, a record that was asked for is available after the next tick exactly if
the data source can read it, and it is what the data source has.
-/

namespace Alicia.Data

open DataStorage
open Filter (Eventually atTop)

/-- The records of a data source, and those that its retrieve listener can read. -/
structure Source (K V : Type) where
  records : K → Option V
  readable : K → Bool := fun _ => true

namespace Source

variable {K V : Type}

/-- What a retrieval of the key can get. -/
def read (source : Source K V) (key : K) : Option V :=
  if source.readable key then source.records key else none

/-- The listeners of a tick.  A failed retrieval may leave anything in the value. -/
def listeners (source : Source K V) (now : Nat) (leaves : K → V → V) : Listeners K V where
  retrieve key := if source.readable key then .succeeds else .fails (leaves key)
  now := now

theorem listens_eq (source : Source K V) (now : Nat) (leaves : K → V → V) (key : K) :
    ((source.listeners now leaves).retrieve key).listens = source.readable key := by
  show (if source.readable key = true then Retrieval.succeeds else .fails (leaves key)).listens = _
  cases source.readable key <;> rfl

end Source

namespace Cell

variable {V : Type} [Inhabited V] {cell : Cell V} {readable : Bool} {record : Option V}

/-- The invariant of a key: nothing changes the record in the source, what is available is that
record, and a readable record that was asked for is available or being retrieved. -/
structure Reads (readable : Bool) (record : Option V) (cell : Cell V) : Prop where
  source : cell.source = record
  storing : cell.storing = false
  deleting : cell.deleting = false
  value : ∀ value, cell.value? = some value → readable = true ∧ record = some value
  asked : cell.entry.isSome = true → readable = true → record.isSome = true →
    cell.value?.isSome = true ∨ cell.retrieving = true

theorem Reads.get (h : cell.Reads readable record) : (cell.get true).Reads readable record := by
  have hvalue := get_value? true cell
  have hasked : cell.entry.isSome = true → readable = true → record.isSome = true →
      (cell.get true).value?.isSome = true ∨ cell.retrieving = true := hvalue ▸ h.asked
  unfold Cell.get at hvalue hasked ⊢
  cases hentry : cell.entry with
  | none =>
    rw [hentry] at hvalue
    exact ⟨h.source, h.storing, h.deleting, fun value hsome => h.value value (hvalue ▸ hsome),
      fun _ _ _ => .inr (Bool.or_true _)⟩
  | some entry =>
    rw [hentry] at hvalue hasked
    dsimp only at hvalue hasked ⊢
    by_cases havailable : entry.available = true
    · rw [if_pos havailable] at hvalue hasked ⊢
      exact ⟨h.source, h.storing, h.deleting, fun value hsome => h.value value (hvalue ▸ hsome),
        fun _ => hasked rfl⟩
    · rw [if_neg havailable]
      exact h

/-- Without stores and deletions a tick is its retrievals. -/
theorem Reads.tick_eq (h : cell.Reads readable record) (now : Nat) (retrieval : Retrieval V)
    (storing : Storing) (deletes : Bool) :
    cell.tick now retrieval storing deletes = cell.processRetrieve now retrieval := by
  obtain ⟨entry, heq⟩ := processRetrieve_eq now retrieval cell
  rw [Cell.tick, heq, processStore, h.storing, if_neg Bool.false_ne_true, processDelete, h.deleting,
    if_neg Bool.false_ne_true]

variable {retrieval : Retrieval V}

/-- A retrieval gets what the source has, or leaves what is available as it is. -/
theorem Reads.value?_processRetrieve (h : cell.Reads readable record)
    (hlistens : retrieval.listens = readable) (now : Nat) :
    (cell.processRetrieve now retrieval).value? =
      if cell.retrieving && readable && record.isSome then record else cell.value? := by
  unfold processRetrieve
  by_cases hqueued : cell.retrieving = true
  · have hvalue := value?_retrieve now retrieval cell
    rw [if_pos hqueued, hqueued, ← hlistens]
    refine Eq.trans hvalue ?_
    rw [h.source]
    cases retrieval with
    | succeeds => cases record <;> simp [Retrieval.listens]
    | fails leaves =>
      -- Nothing is available under a key that cannot be read.
      cases hcached : cell.value? with
      | none => simp [Retrieval.listens]
      | some value => exact absurd (hlistens.trans (h.value value hcached).1) Bool.false_ne_true
  · rw [if_neg hqueued, Bool.eq_false_iff.2 hqueued]
    rfl

theorem Reads.tick (h : cell.Reads readable record) (hlistens : retrieval.listens = readable)
    (now : Nat) (storing : Storing) (deletes : Bool) :
    (cell.tick now retrieval storing deletes).Reads readable record := by
  have hvalue := h.value?_processRetrieve hlistens now
  have hentry := processRetrieve_entry now retrieval cell
  rw [h.tick_eq]
  obtain ⟨entry, heq⟩ := processRetrieve_eq now retrieval cell
  rw [heq] at hvalue hentry ⊢
  refine ⟨h.source, h.storing, h.deleting, fun value hsome => ?_, fun hasked hreadable hrecord => ?_⟩
  · rw [hvalue] at hsome
    by_cases hloads : (cell.retrieving && readable && record.isSome) = true
    · rw [if_pos hloads] at hsome
      simp only [Bool.and_eq_true] at hloads
      exact ⟨hloads.1.2, hsome⟩
    · rw [if_neg hloads] at hsome
      exact h.value value hsome
  · left
    rw [hvalue, hreadable, hrecord, Bool.and_true, Bool.and_true]
    cases hqueued : cell.retrieving with
    | true => exact hrecord
    | false =>
      have hbefore : cell.entry.isSome = true := by
        rw [hqueued, Bool.or_false] at hentry
        exact hentry.symm.trans hasked
      refine (h.asked hbefore hreadable hrecord).resolve_right ?_
      rw [hqueued]
      exact Bool.false_ne_true

end Cell

variable {K V : Type} [Ord K] [Std.TransOrd K] [Std.LawfulEqOrd K] [DecidableEq K] [Inhabited V]

/-- The record that a lookup of the key gets. -/
def World.record? (world : World K V) (key : K) : Option V := (cell key world).value?

/-- Somebody asked for the key. -/
def World.Asked (world : World K V) (key : K) : Prop := (cell key world).entry.isSome = true

/-- Nothing but lookups and ticks happened to the storage. -/
def Reading (source : Source K V) (world : World K V) : Prop :=
  ∀ key, (cell key world).Reads (source.readable key) (source.records key)

variable {source : Source K V} {world : World K V} {key other : K}

omit [Std.LawfulEqOrd K] in
theorem Reading.start (source : Source K V) : Reading source (start source.records) := by
  intro key
  have hentry : (cell key (Data.start source.records)).entry = none := by simp [cell, Data.start]
  have hvalue : (cell key (Data.start source.records)).value? = none := by
    rw [Cell.value?, hentry]
    rfl
  refine ⟨rfl, rfl, rfl, fun value hsome => ?_, fun hasked => ?_⟩
  · rw [hvalue] at hsome
    cases hsome
  · rw [hentry] at hasked
    cases hasked

theorem Reading.get (h : Reading source world) (key : K) :
    Reading source (get key true world) := by
  intro other
  rw [cell_get]
  by_cases hkey : other = key
  · rw [if_pos hkey]
    exact hkey ▸ (h key).get
  · rw [if_neg hkey]
    exact h other

theorem Reading.tick (h : Reading source world) (now : Nat) (leaves : K → V → V) :
    Reading source (tick (source.listeners now leaves) world) := by
  intro key
  rw [cell_tick]
  exact (h key).tick (source.listens_eq now leaves key) _ _ _

omit [Std.LawfulEqOrd K] in
/-- What is available is what the source can read. -/
theorem Reading.read_eq (h : Reading source world) {value : V}
    (hrecord : world.record? key = some value) : source.read key = some value := by
  obtain ⟨hreadable, hsource⟩ := (h key).value value hrecord
  rw [Source.read, hreadable, if_pos rfl, hsource]

/-- A lookup makes nothing available. -/
theorem record?_get (world : World K V) (key other : K) :
    (get key true world).record? other = world.record? other := by
  unfold World.record?
  rw [cell_get]
  by_cases hkey : other = key
  · rw [if_pos hkey, Cell.get_value?, hkey]
  · rw [if_neg hkey]

theorem asked_get (world : World K V) (key : K) : (get key true world).Asked key := by
  rw [World.Asked, cell_get, if_pos rfl]
  exact Cell.get_entry true _

theorem World.Asked.get (h : world.Asked other) (key : K) :
    (get key true world).Asked other := by
  by_cases hkey : other = key
  · exact hkey ▸ asked_get world key
  · rw [World.Asked, cell_get, if_neg hkey]
    exact h

/-- A tick keeps what is available, and makes available what was asked for and can be read. -/
theorem Reading.record?_tick (h : Reading source world) (now : Nat) (leaves : K → V → V)
    (hbefore : world.Asked key ∧ (source.read key).isSome = true ∨
      (world.record? key).isSome = true) :
    ((DataStorage.tick (source.listeners now leaves) world).record? key).isSome = true := by
  have hvalue := (h key).value?_processRetrieve (source.listens_eq now leaves key)
    (source.listeners now leaves).now
  unfold World.record?
  rw [cell_tick, (h key).tick_eq, hvalue]
  split
  · next hloads =>
      simp only [Bool.and_eq_true] at hloads
      exact hloads.2
  · next hloads =>
      obtain ⟨hasked, hread⟩ | hsome := hbefore
      · rw [Source.read] at hread
        by_cases hreadable : source.readable key = true
        · rw [if_pos hreadable] at hread
          refine ((h key).asked hasked hreadable hread).resolve_right fun hqueued => hloads ?_
          rw [hqueued, hreadable, hread]
          rfl
        · rw [if_neg hreadable] at hread
          cases hread
      · exact hsome

theorem Reading.asked_tick (h : Reading source world) (now : Nat) (leaves : K → V → V)
    (hasked : world.Asked key) :
    (DataStorage.tick (source.listeners now leaves) world).Asked key := by
  rw [World.Asked, cell_tick, (h key).tick_eq, Cell.processRetrieve_entry]
  exact Bool.or_eq_true_iff.2 (.inl hasked)

/-! ## Runs -/

/-- What can happen to a storage that is only read. -/
inductive ReadStep (source : Source K V) (before : World K V) : World K V → Prop where
  | same : ReadStep source before before
  | get (key : K) : ReadStep source before (DataStorage.get key true before)
  | tick (now : Nat) (leaves : K → V → V) :
      ReadStep source before (DataStorage.tick (source.listeners now leaves) before)

variable {before after : World K V}

theorem ReadStep.asked (h : ReadStep source before after) (hreading : Reading source before)
    (hasked : before.Asked key) : after.Asked key := by
  cases h with
  | same => exact hasked
  | get other => exact hasked.get other
  | tick now leaves => exact hreading.asked_tick now leaves hasked

theorem ReadStep.record? (h : ReadStep source before after) (hreading : Reading source before)
    (hrecord : (before.record? key).isSome = true) : (after.record? key).isSome = true := by
  cases h with
  | same => exact hrecord
  | get other => rwa [record?_get]
  | tick now leaves => exact hreading.record?_tick now leaves (.inr hrecord)

/-- A run of a storage that is only read, and that is ticked again and again. -/
structure ReadRun (source : Source K V) (worlds : Nat → World K V) : Prop where
  reading : ∀ n, Reading source (worlds n)
  step : ∀ n, ReadStep source (worlds n) (worlds (n + 1))
  ticked : ∀ n, ∃ m, n ≤ m ∧ ∃ now leaves,
    worlds (m + 1) = DataStorage.tick (source.listeners now leaves) (worlds m)

variable {worlds : Nat → World K V} {n : Nat}

theorem ReadRun.asked_of_le (run : ReadRun source worlds) {m : Nat} (hm : n ≤ m)
    (h : (worlds n).Asked key) : (worlds m).Asked key := by
  induction m, hm using Nat.le_induction with
  | base => exact h
  | succ m _ ih => exact (run.step m).asked (run.reading m) ih

theorem ReadRun.available_of_le (run : ReadRun source worlds) {m : Nat} (hm : n ≤ m)
    (h : ((worlds n).record? key).isSome = true) : ((worlds m).record? key).isSome = true := by
  induction m, hm using Nat.le_induction with
  | base => exact h
  | succ m _ ih => exact (run.step m).record? (run.reading m) ih

/-- What was asked for and can be read is available from some moment on. -/
theorem ReadRun.eventually_available (run : ReadRun source worlds) (h : (worlds n).Asked key)
    (hread : (source.read key).isSome = true) :
    ∀ᶠ n in atTop, ((worlds n).record? key).isSome = true := by
  obtain ⟨m, hm, now, leaves, htick⟩ := run.ticked n
  have havailable : ((worlds (m + 1)).record? key).isSome = true := by
    rw [htick]
    exact (run.reading m).record?_tick now leaves (.inl ⟨run.asked_of_le hm h, hread⟩)
  exact Filter.eventually_atTop.2 ⟨m + 1, fun later hlater => run.available_of_le hlater havailable⟩

end Alicia.Data
