import Alicia.Data.Storage

/-!
# Writing back

A storage should do to its data source what the same operations do to a plain map.  It does so in
the runs whose steps are `Sound`: deletions and retrievals must not meet records that they spoil.
-/

namespace Alicia.Data

open Transition DataStorage Option Bool Cell

namespace Cell

variable {V : Type} [Inhabited V]

/-- A retrieval leaves the value of an available entry as it is. -/
def RetrievalHarmless (retrieval : Retrieval V) (cell : Cell V) : Prop :=
  cell.retrieving = true → ∀ value ∈ cell.value?,
    (DataStorage.retrieveListener retrieval cell.source value).1 = value

/-- The entry is available, or the queued retrieval makes it so. -/
def loaded (retrieval : Retrieval V) (cell : Cell V) : Bool :=
  cell.value?.isSome || (cell.retrieving && retrieval.listens && cell.source.isSome)

/-- A queued deletion takes the record out of the source: the entry is loaded and the call succeeds,
or the source has no record. -/
def DeletionEffective (retrieval : Retrieval V) (deletes : Bool) (cell : Cell V) : Prop :=
  cell.deleting = true →
    if cell.loaded retrieval then deletes = true else cell.source = none

/-- The invariant of a key: what is available has the contents of the plain map, and what is not has
them in the source, unless a deletion is queued. -/
structure Faithful (cell : Cell V) : Prop where
  cached : ∀ value, cell.value? = some value → cell.contents = some value ∨ cell.deleting = true
  uncached : cell.value? = none → cell.source = cell.contents ∨ cell.deleting = true
  deleted : cell.deleting = true → cell.contents = none
  held : cell.held = true → cell.value? = none → cell.contents = none

/-- Every value that is cached, in the source or was stored is one that the key was given or that
the source had at first. -/
structure Known (initial : Option V) (cell : Cell V) : Prop where
  cached : ∀ value, cell.value? = some value → value ∈ cell.given ∨ initial = some value
  source : ∀ value, cell.source = some value → value ∈ cell.given ∨ initial = some value
  stored : ∀ value ∈ cell.stored, value ∈ cell.given ∨ initial = some value

/-! ## Entries -/

theorem value?_eq (cell : Cell V) : cell.value? =
    if (cell.entry.getD {}).available then some (cell.entry.getD {}).value else none := by
  unfold value?
  cases cell.entry <;> rfl

/-- What a retrieval makes of the value. -/
theorem value?_retrieve (now : Nat) (retrieval : Retrieval V) (cell : Cell V) :
    (cell.retrieve now retrieval).value? =
      match retrieval, cell.source, cell.value? with
      | .succeeds, some stored, _ => some stored
      | .succeeds, none, value => value
      | .fails leaves, _, value => value.map leaves := by
  rw [value?_eq, value?_eq]
  unfold retrieve retrieveEntry retrieveListener
  cases retrieval with
  | succeeds => cases cell.source <;> simp
  | fails leaves => cases (cell.entry.getD {}).available <;> simp

theorem value?_store (storing : Storing) (cell : Cell V) :
    (cell.store storing).value? = cell.value? := by
  unfold store
  rw [value?_eq, value?_eq]
  cases h : (cell.entry.getD {}).available <;> simp [h]

theorem store_source (storing : Storing) (cell : Cell V) : (cell.store storing).source =
    match cell.value? with
    | some value => storeListener storing cell.source value
    | none => cell.source := by
  unfold store
  rw [value?_eq]
  cases h : (cell.entry.getD {}).available <;> simp [h]

theorem store_stored (storing : Storing) (cell : Cell V) :
    (cell.store storing).stored = cell.value?.toList ++ cell.stored := by
  unfold store
  rw [value?_eq]
  cases h : (cell.entry.getD {}).available <;> simp [h]

theorem value?_delete (deletes : Bool) (cell : Cell V) :
    (cell.delete deletes).value? = if deletes then none else cell.value? := by
  unfold delete
  rw [value?_eq, value?_eq]
  cases h : (cell.entry.getD {}).available <;> cases deletes <;> simp [h]

theorem delete_source (deletes : Bool) (cell : Cell V) : (cell.delete deletes).source =
    if cell.value?.isSome && deletes then none else cell.source := by
  unfold delete
  rw [value?_eq]
  cases h : (cell.entry.getD {}).available <;> cases deletes <;> simp [h]

/-! ## The queues -/

theorem value?_processRetrieve (now : Nat) (retrieval : Retrieval V) (cell : Cell V) :
    (cell.processRetrieve now retrieval).value?.isSome = cell.loaded retrieval := by
  unfold processRetrieve loaded
  by_cases hqueued : cell.retrieving = true
  · rw [if_pos hqueued, hqueued]
    show (cell.retrieve now retrieval).value?.isSome = _
    rw [value?_retrieve]
    cases retrieval with
    | fails leaves => simp [Retrieval.listens]
    | succeeds => cases hsource : cell.source <;> simp [Retrieval.listens]
  · rw [if_neg hqueued]
    simp only [Bool.eq_false_iff.2 hqueued, Bool.false_and, Bool.or_false]
    rfl

theorem processRetrieve_eq (now : Nat) (retrieval : Retrieval V) (cell : Cell V) : ∃ entry,
    cell.processRetrieve now retrieval = { cell with entry := entry, retrieving := false } := by
  unfold processRetrieve retrieve
  by_cases hqueued : cell.retrieving = true
  · rw [if_pos hqueued]
    exact ⟨_, rfl⟩
  · rw [if_neg hqueued]
    exact ⟨cell.entry, rfl⟩

/-- A harmless retrieval touches only what is not available, and makes it what the source has. -/
theorem processRetrieve_cases (now : Nat) {retrieval : Retrieval V} {cell : Cell V}
    (h : cell.RetrievalHarmless retrieval) : ∃ entry,
    cell.processRetrieve now retrieval = { cell with entry := entry, retrieving := false } ∧
      ((cell.processRetrieve now retrieval).value? = cell.value? ∨
        cell.value? = none ∧ (cell.processRetrieve now retrieval).value? = cell.source) := by
  unfold processRetrieve
  by_cases hqueued : cell.retrieving = true
  · rw [if_pos hqueued]
    refine ⟨_, rfl, ?_⟩
    have hvalue := value?_retrieve now retrieval cell
    have hharmless := h hqueued
    unfold retrieveListener at hharmless
    cases retrieval with
    | succeeds =>
      cases hsource : cell.source with
      | none =>
        rw [hsource] at hvalue
        exact .inl hvalue
      | some stored =>
        rw [hsource] at hvalue hharmless
        cases hcached : cell.value? with
        | none => exact .inr ⟨rfl, hvalue⟩
        | some value =>
          have hsame : stored = value := hharmless value hcached
          exact .inl (hsame ▸ hvalue)
    | fails leaves =>
      left
      cases hcached : cell.value? with
      | none =>
        rw [hcached] at hvalue
        exact hvalue
      | some value =>
        have hsame : leaves value = value := hharmless value hcached
        rw [hcached] at hvalue
        exact hvalue.trans (congrArg some hsame)
  · rw [if_neg hqueued]
    exact ⟨cell.entry, rfl, .inl rfl⟩

theorem processStore_cases (storing : Storing) (cell : Cell V) : ∃ entry source stored,
    cell.processStore storing =
      { cell with entry := entry, source := source, stored := stored, storing := false } ∧
    (cell.processStore storing).value? = cell.value? ∧
    (source = cell.source ∧ stored = cell.stored ∧ (cell.storing = false ∨ cell.value? = none) ∨
      ∃ value, cell.value? = some value ∧ cell.storing = true ∧
        source = storeListener storing cell.source value ∧
        stored = value :: cell.stored) := by
  unfold processStore
  by_cases hqueued : cell.storing = true
  · rw [if_pos hqueued]
    have hother : cell.store storing = { cell with
        entry := (cell.store storing).entry
        source := (cell.store storing).source
        stored := (cell.store storing).stored } := by
      unfold store
      by_cases havailable : (cell.entry.getD {}).available = true
      · simp only [havailable, if_true]
      · simp only [havailable, if_false, false_eq_true]
    refine ⟨(cell.store storing).entry, (cell.store storing).source,
      (cell.store storing).stored, by rw [hother], value?_store storing cell, ?_⟩
    rw [store_source, store_stored]
    cases cell.value? with
    | none => exact .inl ⟨rfl, rfl, .inr rfl⟩
    | some value => exact .inr ⟨value, rfl, hqueued, rfl, rfl⟩
  · rw [if_neg hqueued]
    exact ⟨cell.entry, cell.source, cell.stored, rfl, rfl,
      .inl ⟨rfl, rfl, .inl (eq_false_iff.2 hqueued)⟩⟩

theorem processDelete_cases (deletes : Bool) (cell : Cell V) : ∃ entry source,
    cell.processDelete deletes =
      { cell with entry := entry, source := source, deleting := false } ∧
    (cell.deleting = true ∧ cell.value?.isSome = true ∧ deletes = true ∧
        (cell.processDelete deletes).value? = none ∧ source = none ∨
      (cell.deleting = false ∨ cell.value? = none ∨ deletes = false) ∧
        (cell.processDelete deletes).value? = cell.value? ∧ source = cell.source) := by
  unfold processDelete
  by_cases hqueued : cell.deleting = true
  · rw [if_pos hqueued]
    have hother : cell.delete deletes = { cell with
        entry := (cell.delete deletes).entry
        source := (cell.delete deletes).source } := by
      unfold delete
      by_cases hboth : ((cell.entry.getD {}).available && deletes) = true
      · simp only [hboth, if_true]
      · simp only [hboth, if_false, false_eq_true]
    refine ⟨(cell.delete deletes).entry, (cell.delete deletes).source, by rw [hother], ?_⟩
    have hvalue : ({ cell.delete deletes with deleting := false } : Cell V).value? =
        (cell.delete deletes).value? := rfl
    rw [hvalue, value?_delete, delete_source]
    cases deletes with
    | false => exact .inr ⟨.inr (.inr rfl), by simp, by simp⟩
    | true =>
      cases hcached : cell.value? with
      | none => exact .inr ⟨.inr (.inl rfl), by simp, by simp⟩
      | some value => exact .inl ⟨hqueued, rfl, rfl, by simp, by simp⟩
  · rw [if_neg hqueued]
    exact ⟨cell.entry, cell.source, rfl,
      .inr ⟨.inl (eq_false_iff.2 hqueued), rfl, rfl⟩⟩

/-! ## Ticks -/

theorem Faithful.processRetrieve {cell : Cell V} (h : cell.Faithful) (now : Nat)
    {retrieval : Retrieval V} (hharmless : cell.RetrievalHarmless retrieval) :
    (cell.processRetrieve now retrieval).Faithful := by
  obtain ⟨entry, heq, hvalue⟩ := processRetrieve_cases now hharmless
  have hrest : ∀ value?, (cell.processRetrieve now retrieval).value? = value? →
      (∀ value, value? = some value → cell.contents = some value ∨ cell.deleting = true) →
      (value? = none → cell.source = cell.contents ∨ cell.deleting = true) →
      (cell.held = true → value? = none → cell.contents = none) →
      (cell.processRetrieve now retrieval).Faithful := by
    rintro value? rfl hcached huncached hheld
    rw [heq] at hcached huncached hheld ⊢
    exact ⟨hcached, huncached, h.deleted, hheld⟩
  obtain hsame | ⟨hnone, hsource⟩ := hvalue
  · exact hrest _ hsame h.cached h.uncached h.held
  · refine hrest _ hsource (fun value hvalue => ?_) (fun _ => h.uncached hnone)
      (fun hheld _ => h.held hheld hnone)
    exact (h.uncached hnone).imp (fun hcontents => hcontents.symm.trans hvalue) id

theorem Faithful.processStore {cell : Cell V} (h : cell.Faithful) (storing : Storing) :
    (cell.processStore storing).Faithful := by
  obtain ⟨entry, source, stored, heq, hvalue, hcases⟩ := processStore_cases storing cell
  have huncached : cell.value? = none → source = cell.contents ∨ cell.deleting = true := by
    intro hnone
    obtain ⟨rfl, -⟩ | ⟨value, hvalue, -⟩ := hcases
    · exact h.uncached hnone
    · rw [hnone] at hvalue
      cases hvalue
  rw [heq] at hvalue ⊢
  exact ⟨fun value hcached => h.cached value (hvalue ▸ hcached),
    fun hnone => huncached (hvalue ▸ hnone), h.deleted,
    fun hheld hnone => h.held hheld (hvalue ▸ hnone)⟩

/-- After the deletions the contents of the plain map are in the entry, or else in the source. -/
theorem Faithful.processDelete {cell : Cell V} (h : cell.Faithful) {deletes : Bool}
    (heffective : cell.deleting = true →
      if cell.value?.isSome then deletes = true else cell.source = none) :
    (cell.processDelete deletes).Faithful := by
  obtain ⟨entry, source, heq, hcases⟩ := processDelete_cases deletes cell
  obtain ⟨hqueued, hsome, hdeletes, hvalue, rfl⟩ | ⟨hkept, hvalue, rfl⟩ := hcases
  · have hcontents := h.deleted hqueued
    rw [heq] at hvalue ⊢
    refine ⟨fun value hcached => ?_, fun _ => .inl hcontents.symm, fun hfalse => ?_,
      fun _ _ => hcontents⟩
    · rw [hvalue] at hcached
      cases hcached
    · cases hfalse
  · have hqueued : cell.deleting = true → cell.value? = none ∧ cell.source = none := by
      intro hdeleting
      have heffect := heffective hdeleting
      obtain hfalse | hnone | hfails := hkept
      · rw [hdeleting] at hfalse
        cases hfalse
      · rw [hnone] at heffect
        exact ⟨hnone, heffect⟩
      · cases hcached : cell.value? with
        | none =>
          rw [hcached] at heffect
          exact ⟨rfl, heffect⟩
        | some value =>
          rw [hcached, hfails] at heffect
          cases heffect
    rw [heq] at hvalue ⊢
    refine ⟨fun value hcached => ?_, fun hnone => ?_, fun hfalse => ?_, fun hheld hnone => ?_⟩
    · rw [hvalue] at hcached
      refine .inl ((h.cached value hcached).resolve_right fun hdeleting => ?_)
      rw [(hqueued hdeleting).1] at hcached
      cases hcached
    · rw [hvalue] at hnone
      left
      by_cases hdeleting : cell.deleting = true
      · exact (hqueued hdeleting).2.trans (h.deleted hdeleting).symm
      · exact (h.uncached hnone).resolve_right hdeleting
    · cases hfalse
    · exact h.held hheld (hvalue ▸ hnone)

/-- A sound tick keeps a key faithful. -/
theorem Faithful.tick {cell : Cell V} (h : cell.Faithful) (now : Nat) {retrieval : Retrieval V}
    (storing : Storing) {deletes : Bool} (hharmless : cell.RetrievalHarmless retrieval)
    (heffective : cell.DeletionEffective retrieval deletes) :
    (cell.tick now retrieval storing deletes).Faithful := by
  refine ((h.processRetrieve now hharmless).processStore storing).processDelete fun hdeleting => ?_
  obtain ⟨entry, hretrieved, -⟩ := processRetrieve_cases now hharmless
  obtain ⟨stored, source, values, hstored, hvalue, hcases⟩ :=
    processStore_cases storing (cell.processRetrieve now retrieval)
  have hqueued : cell.deleting = true := by
    rw [hstored, hretrieved] at hdeleting
    exact hdeleting
  have heffect := heffective hqueued
  rw [← value?_processRetrieve now] at heffect
  rw [hvalue]
  cases hcached : (cell.processRetrieve now retrieval).value? with
  | some value =>
    rw [hcached] at heffect
    exact heffect
  | none =>
    rw [hcached] at heffect
    obtain ⟨rfl, -⟩ | ⟨value, hsome, -⟩ := hcases
    · rw [hstored, hretrieved]
      exact heffect
    · rw [hcached] at hsome
      cases hsome

theorem Known.processRetrieve {initial : Option V} {cell : Cell V} (h : cell.Known initial)
    (now : Nat) {retrieval : Retrieval V} (hharmless : cell.RetrievalHarmless retrieval) :
    (cell.processRetrieve now retrieval).Known initial := by
  obtain ⟨entry, heq, hvalue⟩ := processRetrieve_cases now hharmless
  have hcached : ∀ value, (cell.processRetrieve now retrieval).value? = some value →
      value ∈ cell.given ∨ initial = some value := by
    intro value hcached
    obtain hsame | ⟨-, hsource⟩ := hvalue
    · exact h.cached value (hsame.symm.trans hcached)
    · exact h.source value (hsource.symm.trans hcached)
  rw [heq] at hcached ⊢
  exact ⟨hcached, h.source, h.stored⟩

theorem Known.processStore {initial : Option V} {cell : Cell V} (h : cell.Known initial)
    (storing : Storing) : (cell.processStore storing).Known initial := by
  obtain ⟨entry, source, stored, heq, hvalue, hcases⟩ := processStore_cases storing cell
  have hcached : ∀ value, (cell.processStore storing).value? = some value →
      value ∈ cell.given ∨ initial = some value :=
    fun value hcached => h.cached value (hvalue.symm.trans hcached)
  rw [heq] at hcached ⊢
  obtain ⟨rfl, rfl, -⟩ | ⟨written, hwritten, -, rfl, rfl⟩ := hcases
  · exact ⟨hcached, h.source, h.stored⟩
  · have hknown := h.cached written hwritten
    refine ⟨hcached, fun value hsource => ?_, fun value hmem => ?_⟩
    · cases storing with
      | succeeds =>
        cases hsource
        exact hknown
      | fails loses =>
        cases loses with
        | true => cases hsource
        | false => exact h.source value hsource
    · obtain rfl | hmem := List.mem_cons.1 hmem
      · exact hknown
      · exact h.stored value hmem

theorem Known.processDelete {initial : Option V} {cell : Cell V} (h : cell.Known initial)
    (deletes : Bool) : (cell.processDelete deletes).Known initial := by
  obtain ⟨entry, source, heq, hcases⟩ := processDelete_cases deletes cell
  have hboth : (∀ value, (cell.processDelete deletes).value? = some value →
      value ∈ cell.given ∨ initial = some value) ∧
      ∀ value, source = some value → value ∈ cell.given ∨ initial = some value := by
    obtain ⟨-, -, -, hvalue, rfl⟩ | ⟨-, hvalue, rfl⟩ := hcases
    · rw [hvalue]
      exact ⟨by simp, by simp⟩
    · rw [hvalue]
      exact ⟨h.cached, h.source⟩
  rw [heq] at hboth ⊢
  exact ⟨hboth.1, hboth.2, h.stored⟩

theorem Known.tick {initial : Option V} {cell : Cell V} (h : cell.Known initial) (now : Nat)
    {retrieval : Retrieval V} (storing : Storing) (deletes : Bool)
    (hharmless : cell.RetrievalHarmless retrieval) :
    (cell.tick now retrieval storing deletes).Known initial :=
  ((h.processRetrieve now hharmless).processStore storing).processDelete deletes

/-! ## The other operations -/

theorem Faithful.create {cell : Cell V} (h : cell.Faithful) (value : V)
    (hdeleting : cell.entry = none → cell.deleting = false) : (cell.create value).Faithful := by
  unfold Cell.create
  cases hentry : cell.entry with
  | some entry => exact h
  | none =>
    have hfalse := hdeleting hentry
    refine ⟨fun stored hstored => .inl ?_, fun hnone => ?_, fun htrue => ?_, fun _ hnone => ?_⟩
    · exact hstored
    · cases hnone
    · have hqueued : cell.deleting = true := htrue
      rw [hfalse] at hqueued
      cases hqueued
    · cases hnone

theorem Known.create {initial : Option V} {cell : Cell V} (h : cell.Known initial) (value : V) :
    (cell.create value).Known initial := by
  unfold Cell.create
  cases hentry : cell.entry with
  | some entry => exact h
  | none =>
    have hmore : ∀ other, other ∈ cell.given ∨ initial = some other →
        other ∈ value :: cell.given ∨ initial = some other :=
      fun other => Or.imp_left (List.mem_cons_of_mem value)
    refine ⟨fun other hother => ?_, fun other hother => hmore other (h.source other hother),
      fun other hother => hmore other (h.stored other hother)⟩
    cases hother
    exact .inl List.mem_cons_self

theorem get_value? (retrieve : Bool) (cell : Cell V) : (cell.get retrieve).value? = cell.value? := by
  unfold get
  cases hentry : cell.entry with
  | none => simp [value?, hentry]
  | some entry => cases havailable : entry.available <;> simp [value?, hentry, havailable]

/-- What `Get` leaves alone: everything but the entry, the retrieve queue and the records that were
handed out, and it hands out a record only if the entry is available. -/
theorem get_eq (retrieve : Bool) (cell : Cell V) : ∃ entry retrieving held,
    cell.get retrieve = { cell with entry := entry, retrieving := retrieving, held := held } ∧
      (held = cell.held ∨ cell.value? ≠ none) := by
  unfold get
  cases hentry : cell.entry with
  | none => exact ⟨_, _, cell.held, rfl, .inl rfl⟩
  | some entry =>
    cases havailable : entry.available with
    | false =>
      refine ⟨cell.entry, cell.retrieving, cell.held, ?_, .inl rfl⟩
      simp only [havailable, false_eq_true, if_false]
    | true =>
      refine ⟨cell.entry, cell.retrieving, true, ?_, .inr ?_⟩
      · simp only [havailable, if_true, hentry]
      · simp [value?, hentry, havailable]

theorem Faithful.get {cell : Cell V} (h : cell.Faithful) (retrieve : Bool) :
    (cell.get retrieve).Faithful := by
  have hvalue := get_value? retrieve cell
  obtain ⟨entry, retrieving, held, heq, hheld⟩ := get_eq retrieve cell
  rw [heq] at hvalue ⊢
  refine ⟨fun value hcached => h.cached value (hvalue ▸ hcached),
    fun hnone => h.uncached (hvalue ▸ hnone), h.deleted, fun htrue hnone => ?_⟩
  rw [hvalue] at hnone
  obtain hsame | hsome := hheld
  · exact h.held (hsame ▸ htrue) hnone
  · exact absurd hnone hsome

theorem Known.get {initial : Option V} {cell : Cell V} (h : cell.Known initial) (retrieve : Bool) :
    (cell.get retrieve).Known initial := by
  have hvalue := get_value? retrieve cell
  obtain ⟨entry, retrieving, held, heq, -⟩ := get_eq retrieve cell
  rw [heq] at hvalue ⊢
  exact ⟨fun value hcached => h.cached value (hvalue ▸ hcached), h.source, h.stored⟩

theorem mutate_value? (consumer : V → V) (throws : Bool) {cell : Cell V} (hheld : cell.held = true) :
    (cell.mutate consumer throws).value? = cell.value?.map consumer := by
  unfold mutate
  rw [if_pos hheld, value?_eq, value?_eq]
  cases h : (cell.entry.getD {}).available <;> simp [h]

theorem Faithful.mutate {cell : Cell V} (h : cell.Faithful) (consumer : V → V) (throws : Bool) :
    (cell.mutate consumer throws).Faithful := by
  by_cases hheld : cell.held = true
  · have hvalue := mutate_value? consumer throws hheld
    have hcontents : (cell.mutate consumer throws).contents = cell.contents.map consumer := by
      simp [Cell.mutate, hheld]
    have hsource : (cell.mutate consumer throws).source = cell.source := by
      simp [Cell.mutate, hheld]
    have hdeleting : (cell.mutate consumer throws).deleting = cell.deleting := by
      simp [Cell.mutate, hheld]
    have hgone : (cell.mutate consumer throws).value? = none → cell.value? = none := by
      intro hnone
      rw [hvalue, map_eq_none_iff] at hnone
      exact hnone
    refine ⟨fun value hcached => ?_, fun hnone => ?_, fun htrue => ?_, fun _ hnone => ?_⟩
    · rw [hvalue, map_eq_some_iff] at hcached
      obtain ⟨before, hbefore, rfl⟩ := hcached
      rw [hcontents, hdeleting]
      exact (h.cached before hbefore).imp (fun hsome => by rw [hsome, map_some]) id
    · rw [hsource, hcontents, hdeleting]
      have hnothing := h.held hheld (hgone hnone)
      exact (h.uncached (hgone hnone)).imp (fun hsame => by rw [hsame, hnothing, map_none]) id
    · rw [hcontents, h.deleted (hdeleting ▸ htrue), map_none]
    · rw [hcontents, h.held hheld (hgone hnone), map_none]
  · unfold Cell.mutate
    rw [if_neg hheld]
    exact h

theorem Known.mutate {initial : Option V} {cell : Cell V} (h : cell.Known initial)
    (consumer : V → V) (throws : Bool) : (cell.mutate consumer throws).Known initial := by
  by_cases hheld : cell.held = true
  · have hvalue := mutate_value? consumer throws hheld
    have hgiven : (cell.mutate consumer throws).given =
        consumer (cell.entry.getD {}).value :: cell.given := by
      simp [Cell.mutate, hheld]
    have hsource : (cell.mutate consumer throws).source = cell.source := by
      simp [Cell.mutate, hheld]
    have hstored : (cell.mutate consumer throws).stored = cell.stored := by
      simp [Cell.mutate, hheld]
    refine ⟨fun value hcached => ?_, fun value hmem => ?_, fun value hmem => ?_⟩
    · rw [hvalue, map_eq_some_iff] at hcached
      obtain ⟨before, hbefore, rfl⟩ := hcached
      rw [value?_eq] at hbefore
      split at hbefore
      · cases hbefore
        rw [hgiven]
        exact .inl List.mem_cons_self
      · cases hbefore
    · rw [hsource] at hmem
      rw [hgiven]
      exact (h.source value hmem).imp_left (List.mem_cons_of_mem _)
    · rw [hstored] at hmem
      rw [hgiven]
      exact (h.stored value hmem).imp_left (List.mem_cons_of_mem _)
  · unfold Cell.mutate
    rw [if_neg hheld]
    exact h

/-- What is available and not queued for a store is in the source. -/
def Current (cell : Cell V) : Prop :=
  ∀ value, cell.value? = some value → cell.storing = false → cell.source = some value

theorem Current.tick {cell : Cell V} (h : cell.Current) (now : Nat) {retrieval : Retrieval V}
    {storing : Storing} (deletes : Bool) (hharmless : cell.RetrievalHarmless retrieval)
    (hstores : cell.storing = true → storing = .succeeds) :
    (cell.tick now retrieval storing deletes).Current := by
  obtain ⟨entry, hretrieved, hvalue⟩ := processRetrieve_cases now hharmless
  have hfirst : (cell.processRetrieve now retrieval).Current := by
    intro value hcached hstoring
    rw [hretrieved] at hstoring ⊢
    obtain hsame | ⟨-, hsource⟩ := hvalue
    · exact h value (hsame.symm.trans hcached) hstoring
    · exact hsource.symm.trans hcached
  have hqueued : (cell.processRetrieve now retrieval).storing = cell.storing := by rw [hretrieved]
  have hsecond : ((cell.processRetrieve now retrieval).processStore storing).Current := by
    obtain ⟨entry, source, stored, heq, hvalue, hcases⟩ :=
      processStore_cases storing (cell.processRetrieve now retrieval)
    intro value hcached _
    rw [hvalue] at hcached
    obtain ⟨rfl, -, hkept⟩ | ⟨written, hwritten, hstoring, rfl, -⟩ := hcases
    · rw [heq]
      obtain hfalse | hnone := hkept
      · exact hfirst value hcached hfalse
      · rw [hcached] at hnone
        cases hnone
    · rw [heq, hstores (hqueued ▸ hstoring)]
      exact hwritten.symm.trans hcached
  obtain ⟨entry, source, heq, hcases⟩ :=
    processDelete_cases deletes ((cell.processRetrieve now retrieval).processStore storing)
  intro value hcached hstoring
  unfold Cell.tick at hcached hstoring ⊢
  rw [heq] at hstoring ⊢
  obtain ⟨-, -, -, hnone, -⟩ | ⟨-, hsame, rfl⟩ := hcases
  · rw [hnone] at hcached
    cases hcached
  · exact hsecond value (hsame.symm.trans hcached) hstoring

theorem Current.create {cell : Cell V} (h : cell.Current) (value : V) :
    (cell.create value).Current := by
  unfold Cell.create
  cases hentry : cell.entry with
  | some entry => exact h
  | none =>
    intro _ _ hstoring
    cases hstoring

theorem Current.get {cell : Cell V} (h : cell.Current) (retrieve : Bool) :
    (cell.get retrieve).Current := by
  intro value hcached hstoring
  rw [get_value?] at hcached
  obtain ⟨entry, retrieving, held, heq, -⟩ := get_eq retrieve cell
  rw [heq] at hstoring ⊢
  exact h value hcached hstoring

/-- A consumer that does not throw leaves a store queued. -/
theorem Current.mutate {cell : Cell V} (h : cell.Current) (consumer : V → V) :
    (cell.mutate consumer false).Current := by
  by_cases hheld : cell.held = true
  · intro _ _ hstoring
    simp [Cell.mutate, hheld] at hstoring
  · unfold Cell.mutate
    rw [if_neg hheld]
    exact h

theorem tick_storing (now : Nat) (retrieval : Retrieval V) (storing : Storing) (deletes : Bool)
    (cell : Cell V) : (cell.tick now retrieval storing deletes).storing = false := by
  obtain ⟨entry, source, heq, -⟩ :=
    processDelete_cases deletes ((cell.processRetrieve now retrieval).processStore storing)
  unfold tick
  rw [heq]
  rfl

theorem tick_deleting (now : Nat) (retrieval : Retrieval V) (storing : Storing) (deletes : Bool)
    (cell : Cell V) : (cell.tick now retrieval storing deletes).deleting = false := by
  obtain ⟨entry, source, heq, -⟩ :=
    processDelete_cases deletes ((cell.processRetrieve now retrieval).processStore storing)
  unfold tick
  rw [heq]

/-- Once nothing is queued any more, the source has the contents of the plain map. -/
theorem Faithful.source_eq {cell : Cell V} (h : cell.Faithful) (hcurrent : cell.Current)
    (hstoring : cell.storing = false) (hdeleting : cell.deleting = false) :
    cell.source = cell.contents := by
  have hnot : cell.deleting ≠ true := by simp [hdeleting]
  cases hcached : cell.value? with
  | none => exact (h.uncached hcached).resolve_right hnot
  | some value =>
    exact (hcurrent value hcached hstoring).trans ((h.cached value hcached).resolve_right hnot).symm

theorem tick_history (now : Nat) (retrieval : Retrieval V) (storing : Storing) (deletes : Bool)
    (cell : Cell V) : (cell.tick now retrieval storing deletes).contents = cell.contents ∧
      (cell.tick now retrieval storing deletes).given = cell.given := by
  obtain ⟨entry, source, heq, -⟩ :=
    processDelete_cases deletes ((cell.processRetrieve now retrieval).processStore storing)
  obtain ⟨_, _, _, hstored, -⟩ := processStore_cases storing (cell.processRetrieve now retrieval)
  obtain ⟨_, hretrieved⟩ := processRetrieve_eq now retrieval cell
  unfold tick
  rw [heq, hstored, hretrieved]
  exact ⟨rfl, rfl⟩

/-- Requesting a store spoils nothing. -/
theorem Faithful.requestStore {cell : Cell V} (h : cell.Faithful) (storing : Bool) :
    ({ cell with storing := storing } : Cell V).Faithful :=
  ⟨h.cached, h.uncached, h.deleted, h.held⟩

theorem Known.requestStore {initial : Option V} {cell : Cell V} (h : cell.Known initial)
    (storing : Bool) : ({ cell with storing := storing } : Cell V).Known initial :=
  ⟨h.cached, h.source, h.stored⟩

theorem faithful_delete (cell : Cell V) :
    ({ cell with deleting := true, contents := none } : Cell V).Faithful :=
  ⟨fun _ _ => .inr rfl, fun _ => .inr rfl, fun _ => rfl, fun _ _ => rfl⟩

end Cell

variable {K V : Type} [Ord K] [Std.TransOrd K] [DecidableEq K] [Inhabited V]

/-! ## The condition -/

/-- Every queued retrieval is harmless and every queued deletion is effective. -/
def TickSound (listeners : Listeners K V) (world : World K V) : Prop :=
  (∀ key ∈ world.retrieveQueue.data,
    (cell key world).RetrievalHarmless (listeners.retrieve key)) ∧
  ∀ key ∈ world.deleteQueue.data,
    (cell key world).DeletionEffective (listeners.retrieve key) (listeners.delete key)

/-- The condition under which a step does to the storage what it does to a plain map.  A new key must
not wait for a deletion. -/
def Sound (world : World K V) : Input K V → Prop
  | .create key _ => key ∈ world.entries ∨ key ∉ world.deleteQueue.data
  | .tick listeners => TickSound listeners world
  | _ => True

/-- The condition under which no change waits for another one: consumers do not throw and stores do
not fail. -/
def Prompt (world : World K V) : Input K V → Prop
  | .mutate _ _ throws => throws = false
  | .tick listeners => ∀ key ∈ world.storeQueue.data, listeners.store key = .succeeds
  | _ => True

section Decidability

variable [DecidableEq V]

instance (retrieval : Retrieval V) (cell : Cell V) : Decidable (cell.RetrievalHarmless retrieval) :=
  @instDecidableForall _ _ _ (Option.decidableForallMem _)

omit [DecidableEq V] in
instance (retrieval : Retrieval V) (deletes : Bool) (cell : Cell V) :
    Decidable (cell.DeletionEffective retrieval deletes) :=
  instDecidableForall

instance (listeners : Listeners K V) (world : World K V) : Decidable (TickSound listeners world) :=
  instDecidableAnd

instance (world : World K V) : ∀ input, Decidable (Sound world input)
  | .create _ _ => instDecidableOr
  | .get _ _ => isTrue trivial
  | .mutate _ _ _ => isTrue trivial
  | .delete _ => isTrue trivial
  | .retryRetrieve _ => isTrue trivial
  | .tick listeners => inferInstanceAs (Decidable (TickSound listeners world))

omit [DecidableEq V] in
instance (world : World K V) : ∀ input, Decidable (Prompt world input)
  | .create _ _ => isTrue trivial
  | .get _ _ => isTrue trivial
  | .mutate _ _ throws => inferInstanceAs (Decidable (throws = false))
  | .delete _ => isTrue trivial
  | .retryRetrieve _ => isTrue trivial
  | .tick listeners =>
    inferInstanceAs (Decidable (∀ key ∈ world.storeQueue.data, listeners.store key = .succeeds))

end Decidability

/-! ## Steps -/

variable [Std.LawfulEqOrd K]

omit [Std.LawfulEqOrd K] in
theorem tickSound_iff {listeners : Listeners K V} {world : World K V} :
    TickSound listeners world ↔ ∀ key, (cell key world).RetrievalHarmless (listeners.retrieve key) ∧
      (cell key world).DeletionEffective (listeners.retrieve key) (listeners.delete key) := by
  constructor
  · rintro ⟨hretrievals, hdeletions⟩ key
    exact ⟨fun hqueued => hretrievals key (of_decide_eq_true hqueued) hqueued,
      fun hqueued => hdeletions key (of_decide_eq_true hqueued) hqueued⟩
  · intro h
    exact ⟨fun key _ => (h key).1, fun key _ => (h key).2⟩

/-- The invariant of a storage over a data source. -/
def Consistent (source : K → Option V) (world : World K V) : Prop :=
  ∀ key, (cell key world).Faithful ∧ (cell key world).Known (source key)

omit [DecidableEq K] [Std.LawfulEqOrd K] in
theorem start_cell [DecidableEq K] (source : K → Option V) (key : K) : cell key (start source) =
    { entry := none, retrieving := false, storing := false, deleting := false,
      source := source key, contents := source key, held := false, given := [], stored := [] } := by
  simp [cell, start]

omit [Std.LawfulEqOrd K] in
theorem start_consistent (source : K → Option V) : Consistent source (start source) := by
  intro key
  rw [start_cell]
  refine ⟨⟨?_, fun _ => .inl rfl, ?_, ?_⟩, ⟨?_, fun value => Or.inr, ?_⟩⟩ <;> simp [value?]

theorem tick_consistent {source : K → Option V} {world : World K V} (h : Consistent source world)
    {listeners : Listeners K V} (hsound : TickSound listeners world) :
    Consistent source (tick listeners world) := by
  intro key
  obtain ⟨hharmless, heffective⟩ := tickSound_iff.1 hsound key
  rw [cell_tick]
  exact ⟨(h key).1.tick _ _ hharmless heffective, (h key).2.tick _ _ _ hharmless⟩

omit [Std.LawfulEqOrd K] in
/-- An operation on one key has to keep the invariant of that key only. -/
theorem Consistent.of_cell {source : K → Option V} {world after : World K V}
    (h : Consistent source world) {key : K} {result : Cell V}
    (hafter : ∀ other, cell other after = if other = key then result else cell other world)
    (hresult : result.Faithful ∧ result.Known (source key)) : Consistent source after := by
  intro other
  rw [hafter]
  by_cases hsame : other = key
  · rw [if_pos hsame, hsame]
    exact hresult
  · rw [if_neg hsame]
    exact h other

/-- A sound step keeps every key faithful to the plain map. -/
theorem step_consistent {source : K → Option V} (world : World K V) (input : Input K V)
    (h : Consistent source world) (hsound : Sound world input) :
    Consistent source (step world input) := by
  cases input with
  | tick listeners => exact tick_consistent h hsound
  | create key value =>
    obtain ⟨hfaithful, hknown⟩ := h key
    refine h.of_cell (fun other => cell_create world key other value)
      ⟨hfaithful.create value fun hnone => ?_, hknown.create value⟩
    obtain hmem | hfree := hsound
    · have hentry : world.entries[key]? = none := hnone
      rw [Std.ExtTreeMap.mem_iff_isSome_getElem?, hentry] at hmem
      cases hmem
    · exact decide_eq_false hfree
  | get key retrieve =>
    obtain ⟨hfaithful, hknown⟩ := h key
    exact h.of_cell (fun other => cell_get world key other retrieve)
      ⟨hfaithful.get retrieve, hknown.get retrieve⟩
  | mutate key consumer throws =>
    obtain ⟨hfaithful, hknown⟩ := h key
    exact h.of_cell (fun other => cell_mutate world key other consumer throws)
      ⟨hfaithful.mutate consumer throws, hknown.mutate consumer throws⟩
  | delete key =>
    obtain ⟨-, hknown⟩ := h key
    exact h.of_cell (fun other => cell_delete world key other)
      ⟨faithful_delete _, hknown.cached, hknown.source, hknown.stored⟩
  | retryRetrieve key =>
    obtain ⟨hfaithful, hknown⟩ := h key
    exact h.of_cell (fun other => cell_requestRetrieve world key other)
      ⟨⟨hfaithful.cached, hfaithful.uncached, hfaithful.deleted, hfaithful.held⟩,
        hknown.cached, hknown.source, hknown.stored⟩

/-- Nothing that changed waits without being queued. -/
def UpToDate (world : World K V) : Prop := ∀ key, (cell key world).Current

omit [Std.LawfulEqOrd K] in
theorem start_upToDate (source : K → Option V) : UpToDate (start source) := by
  intro key value hcached
  rw [start_cell] at hcached
  cases hcached

theorem tick_upToDate {world : World K V} (h : UpToDate world) {listeners : Listeners K V}
    (hsound : TickSound listeners world) (hprompt : Prompt world (.tick listeners)) :
    UpToDate (tick listeners world) := by
  intro key
  rw [cell_tick]
  refine (h key).tick _ _ (tickSound_iff.1 hsound key).1 fun hqueued => ?_
  exact hprompt key (of_decide_eq_true hqueued)

omit [Std.LawfulEqOrd K] in
theorem UpToDate.of_cell {world after : World K V} (h : UpToDate world) {key : K} {result : Cell V}
    (hafter : ∀ other, cell other after = if other = key then result else cell other world)
    (hresult : result.Current) : UpToDate after := by
  intro other
  rw [hafter]
  by_cases hsame : other = key
  · rw [if_pos hsame]
    exact hresult
  · rw [if_neg hsame]
    exact h other

theorem step_upToDate (world : World K V) (input : Input K V) (h : UpToDate world)
    (hsound : Sound world input) (hprompt : Prompt world input) : UpToDate (step world input) := by
  cases input with
  | tick listeners => exact tick_upToDate h hsound hprompt
  | create key value =>
    exact h.of_cell (fun other => cell_create world key other value) ((h key).create value)
  | get key retrieve =>
    exact h.of_cell (fun other => cell_get world key other retrieve) ((h key).get retrieve)
  | mutate key consumer throws =>
    have hquiet : throws = false := hprompt
    subst hquiet
    exact h.of_cell (fun other => cell_mutate world key other consumer false)
      ((h key).mutate consumer)
  | delete key => exact h.of_cell (fun other => cell_delete world key other) (h key)
  | retryRetrieve key => exact h.of_cell (fun other => cell_requestRetrieve world key other) (h key)

/-! ## Termination -/

/-- The storage in which `Terminate` has requested its stores. -/
theorem requestStores_cell (world : World K V) : ∃ requested : World K V,
    (∀ listeners, terminate listeners world =
      { tick listeners requested with entries := ∅ }) ∧
    ∀ key, ∃ storing, cell key requested = { cell key world with storing := storing } ∧
      (storing = false → (cell key world).value? = none) := by
  refine ⟨_, fun listeners => rfl, fun key => ⟨_, cell_requestStores world key _, ?_⟩⟩
  intro hnot
  obtain ⟨-, hunlisted⟩ := or_eq_false_iff.1 hnot
  cases hentry : world.entries[key]? with
  | none => simp [value?, cell, hentry]
  | some entry =>
    cases havailable : entry.available with
    | false => simp [value?, cell, hentry, havailable]
    | true =>
      refine absurd (List.mem_map.2 ⟨(key, entry), List.mem_filter.2 ⟨?_, havailable⟩, rfl⟩)
        (of_decide_eq_false hunlisted)
      exact Std.ExtTreeMap.mem_toList_iff_getElem?_eq_some.2 hentry

theorem tick_history (listeners : Listeners K V) (world : World K V) :
    (tick listeners world).contents = world.contents ∧
      (tick listeners world).given = world.given := by
  have hcell : ∀ key, (cell key (tick listeners world)).contents = world.contents key ∧
      (cell key (tick listeners world)).given = world.given key := by
    intro key
    rw [cell_tick]
    exact Cell.tick_history _ _ _ _ _
  exact ⟨funext fun key => (hcell key).1, funext fun key => (hcell key).2⟩

/-- A tick that finds every change queued brings the source up to date. -/
theorem tick_source {source : K → Option V} {world : World K V} (h : Consistent source world)
    (hupToDate : UpToDate world) {listeners : Listeners K V} (hsound : TickSound listeners world)
    (hprompt : Prompt world (.tick listeners)) :
    (tick listeners world).source = world.contents := by
  funext key
  have hfaithful := (tick_consistent h hsound key).1
  have hcurrent := tick_upToDate hupToDate hsound hprompt key
  have hstoring : (cell key (tick listeners world)).storing = false := by
    rw [cell_tick]
    exact tick_storing _ _ _ _ _
  have hdeleting : (cell key (tick listeners world)).deleting = false := by
    rw [cell_tick]
    exact tick_deleting _ _ _ _ _
  have hsource := hfaithful.source_eq hcurrent hstoring hdeleting
  exact hsource.trans (congrFun (tick_history listeners world).1 key)

/-- What a sound termination leaves behind. -/
theorem terminate_source {source : K → Option V} {world : World K V} (h : Consistent source world)
    {ending : Listeners K V} (hsound : TickSound ending world)
    (hstores : ∀ key, ending.store key = .succeeds) :
    (terminate ending world).source = world.contents ∧
      ∀ key, ∀ value ∈ (terminate ending world).stored key,
        value ∈ world.given key ∨ source key = some value := by
  obtain ⟨requested, hterminate, hcell⟩ := requestStores_cell world
  have hconsistent : Consistent source requested := by
    intro key
    obtain ⟨storing, heq, -⟩ := hcell key
    rw [heq]
    exact ⟨(h key).1.requestStore storing, (h key).2.requestStore storing⟩
  have hrequested : TickSound ending requested := by
    refine tickSound_iff.2 fun key => ?_
    obtain ⟨storing, heq, -⟩ := hcell key
    rw [heq]
    exact tickSound_iff.1 hsound key
  have hupToDate : UpToDate requested := by
    intro key value hcached hstoring
    obtain ⟨storing, heq, hnone⟩ := hcell key
    rw [heq] at hcached hstoring
    have hvalue : (cell key world).value? = some value := hcached
    rw [hnone hstoring] at hvalue
    cases hvalue
  have hhistory : ∀ key, requested.contents key = world.contents key ∧
      requested.given key = world.given key := by
    intro key
    obtain ⟨storing, heq, -⟩ := hcell key
    exact ⟨congrArg contents heq, congrArg given heq⟩
  rw [hterminate]
  refine ⟨?_, fun key value hmem => ?_⟩
  · have hsource := tick_source hconsistent hupToDate hrequested fun key _ => hstores key
    exact hsource.trans (funext fun key => (hhistory key).1)
  · have hknown := (tick_consistent hconsistent hrequested key).2.stored value hmem
    rw [show (cell key (tick ending requested)).given = world.given key from
      (congrFun (tick_history ending requested).2 key).trans (hhistory key).2] at hknown
    exact hknown

/-! ## Runs -/

/-- No call of a listener fails. -/
def Listeners.AllSucceed (listeners : Listeners K V) : Prop :=
  (∀ key, listeners.retrieve key = .succeeds) ∧ (∀ key, listeners.store key = .succeeds) ∧
    ∀ key, listeners.delete key = true

/-- What the run and a termination leave in the source is what they make of a plain map. -/
def EndsExact (source : K → Option V) (inputs : List (Input K V)) (ending : Listeners K V) : Prop :=
  let world := run step (start source) inputs
  (DataStorage.terminate ending world).source = world.contents

/-- Only values that a key was given, or had at first, are ever stored. -/
def StoresKnown (source : K → Option V) (inputs : List (Input K V)) (ending : Listeners K V) :
    Prop :=
  let world := run step (start source) inputs
  ∀ key, ∀ value ∈ (DataStorage.terminate ending world).stored key,
    value ∈ world.given key ∨ source key = some value

/-- After each tick whose calls succeed the source is what the plain map is. -/
def TicksExact (source : K → Option V) (inputs : List (Input K V)) : Prop :=
  ∀ first listeners second, inputs = first ++ .tick listeners :: second → listeners.AllSucceed →
    (DataStorage.tick listeners (run step (start source) first)).source =
      (run step (start source) first).contents

/-- The storage writes back what happens to its records. -/
def WritesBack (source : K → Option V) (inputs : List (Input K V)) (ending : Listeners K V) :
    Prop :=
  EndsExact source inputs ending ∧ StoresKnown source inputs ending ∧ TicksExact source inputs

theorem ticks_exact {source : K → Option V} {inputs : List (Input K V)}
    (hsound : Guarded step Sound (start source) inputs)
    (hprompt : Guarded step Prompt (start source) inputs) : TicksExact source inputs := by
  rintro first listeners second rfl hsucceed
  obtain ⟨hfirst, htick, -⟩ := guarded_append.1 hsound
  obtain ⟨hpromptFirst, -⟩ := guarded_append.1 hprompt
  have hconsistent := hfirst.invariant step_consistent (start_consistent source)
  have hboth : Guarded step (fun world input => Sound world input ∧ Prompt world input)
      (start source) first := guarded_and.2 ⟨hfirst, hpromptFirst⟩
  have hupToDate := hboth.invariant
    (fun world input h hgood => step_upToDate world input h hgood.1 hgood.2)
    (start_upToDate source)
  exact tick_source hconsistent hupToDate htick fun key _ => hsucceed.2.1 key

/-- In a run of sound steps, which ends soundly, the storage writes back what happens to its records
when it terminates, and at every tick as long as no change was left unqueued. -/
theorem write_back (source : K → Option V) (inputs : List (Input K V)) (ending : Listeners K V)
    (hsound : Guarded step Sound (start source) inputs) (hending : ending.AllSucceed)
    (hfinal : TickSound ending (run step (start source) inputs)) :
    EndsExact source inputs ending ∧ StoresKnown source inputs ending ∧
      (Guarded step Prompt (start source) inputs → TicksExact source inputs) := by
  have hconsistent := hsound.invariant step_consistent (start_consistent source)
  obtain ⟨hends, hknown⟩ := terminate_source hconsistent hfinal hending.2.1
  exact ⟨hends, hknown, ticks_exact hsound⟩

/-- A record is retrieved, patched and deleted, and another one is created; the first call that
stores it fails. -/
theorem write_back_patched :
    let source : UInt32 → Option Nat := fun key => if key = 1 then some 10 else none
    let inputs : List (Input UInt32 Nat) := [.get 1 true, .tick {}, .mutate 1 (· + 5) false,
      .create 2 20, .tick { store := fun key => if key = 2 then .fails true else .succeeds },
      .delete 1, .tick {}]
    EndsExact source inputs {} ∧ StoresKnown source inputs {} ∧
      (Guarded step Prompt (start source) inputs → TicksExact source inputs) :=
  write_back _ _ _ (by decide +kernel) ⟨fun _ => rfl, fun _ => rfl, fun _ => rfl⟩
    (by decide +kernel)

/-- A deletion whose call fails is forgotten, and the termination stores the record again. -/
theorem failed_deletion_forgotten :
    ¬ WritesBack (fun key : UInt32 => if key = 1 then some 10 else none)
      [.get 1 true, .tick {}, .delete 1, .tick { delete := fun _ => false }] {} := by
  intro h
  have hsource := congrFun h.1 1
  exact absurd hsource (by decide +kernel)

end Alicia.Data
