import Alicia.Data.Definitions
import Alicia.Data.WriteBack

/-!
# Lookups

A data source allocates the keys of new records from a counter, which it saves in its metadata file
at each allocation and reads when it starts.  A lookup of any key leaves an entry in the storage, so
it can come before the record that is allocated the key.  `Unspoiled` steps avoid that.
-/

namespace Alicia.Data

open Transition Cell

/-- A data source with the storage of its records. -/
structure Directory (V : Type) [Inhabited V] where
  storage : World Uid V := start fun _ => none
  sequentialUid : UInt32 := 0
  metadata : Option UInt32 := none
  allocated : List Uid := []

variable {V : Type} [Inhabited V]

namespace Cell

/-- A key that nobody asked for. -/
structure Untouched (cell : Cell V) : Prop where
  entry : cell.entry = none
  retrieving : cell.retrieving = false
  storing : cell.storing = false
  deleting : cell.deleting = false
  held : cell.held = false

/-- A key whose record will be found: what the source has is available, or else is being retrieved,
unless no entry says that somebody asked for it. -/
structure Findable (cell : Cell V) : Prop where
  storing : cell.storing = true → cell.entry.isSome = true
  held : cell.held = true → cell.entry.isSome = true
  deleting : cell.deleting = true → cell.entry.isSome = true ∨ cell.source = none
  found : cell.entry.isSome = true → cell.source.isSome = true →
    cell.value?.isSome = true ∨ cell.retrieving = true

theorem Untouched.findable {cell : Cell V} (h : cell.Untouched) : cell.Findable := by
  refine ⟨fun hstoring => ?_, fun hheld => ?_, fun hdeleting => ?_, fun hentry => ?_⟩
  · rw [h.storing] at hstoring
    cases hstoring
  · rw [h.held] at hheld
    cases hheld
  · rw [h.deleting] at hdeleting
    cases hdeleting
  · rw [h.entry] at hentry
    cases hentry

theorem Untouched.tick {cell : Cell V} (h : cell.Untouched) (now : Nat) (retrieval : Retrieval V)
    (storing : Storing) (deletes : Bool) :
    (cell.tick now retrieval storing deletes).Untouched := by
  have hretrieve : cell.processRetrieve now retrieval = cell := by
    unfold processRetrieve
    rw [h.retrieving, if_neg Bool.false_ne_true]
    exact congrArg (fun retrieving => { cell with retrieving := retrieving }) h.retrieving.symm
  have hstore : cell.processStore storing = cell := by
    unfold processStore
    rw [h.storing, if_neg Bool.false_ne_true]
    exact congrArg (fun storing => { cell with storing := storing }) h.storing.symm
  have hdelete : cell.processDelete deletes = cell := by
    unfold processDelete
    rw [h.deleting, if_neg Bool.false_ne_true]
    exact congrArg (fun deleting => { cell with deleting := deleting }) h.deleting.symm
  rw [Cell.tick, hretrieve, hstore, hdelete]
  exact h

theorem isSome_value? {cell : Cell V} (h : cell.value?.isSome = true) : cell.entry.isSome = true := by
  cases hentry : cell.entry with
  | none => simp [value?, hentry] at h
  | some entry => rfl

/-- What a tick makes of the entry: every queue creates one. -/
theorem processRetrieve_entry (now : Nat) (retrieval : Retrieval V) (cell : Cell V) :
    (cell.processRetrieve now retrieval).entry.isSome = (cell.entry.isSome || cell.retrieving) := by
  unfold processRetrieve retrieve
  by_cases hqueued : cell.retrieving = true
  · simp [hqueued]
  · simp [hqueued]

theorem processStore_entry (storing : Storing) (cell : Cell V) :
    (cell.processStore storing).entry.isSome = (cell.entry.isSome || cell.storing) := by
  unfold processStore store
  by_cases hqueued : cell.storing = true
  · by_cases havailable : (cell.entry.getD {}).available = true <;> simp [hqueued, havailable]
  · simp [hqueued]

/-- The retrievals of a tick find what they look for. -/
theorem Findable.processRetrieve {cell : Cell V} (h : cell.Findable) (now : Nat)
    {retrieval : Retrieval V} (hlistens : cell.retrieving = true → cell.value? = none →
      cell.source.isSome = true → retrieval.listens = true) :
    (cell.processRetrieve now retrieval).Findable ∧
      (cell.processRetrieve now retrieval).retrieving = false := by
  have hentry := processRetrieve_entry now retrieval cell
  have hvalue := value?_processRetrieve now retrieval cell
  obtain ⟨entry, heq⟩ := processRetrieve_eq now retrieval cell
  have hmore : cell.entry.isSome = true → entry.isSome = true := by
    intro hsome
    rw [heq, hsome] at hentry
    exact hentry
  have hfound : entry.isSome = true → cell.source.isSome = true →
      cell.loaded retrieval = true := by
    intro hsome hsource
    unfold loaded
    cases hcached : cell.value? with
    | some value => rfl
    | none =>
      have hretrieving : cell.retrieving = true := by
        rw [heq] at hentry
        have hor : (cell.entry.isSome || cell.retrieving) = true := hentry.symm.trans hsome
        obtain hbefore | hqueued := Bool.or_eq_true_iff.1 hor
        · refine (h.found hbefore hsource).resolve_left fun hsome => ?_
          rw [hcached] at hsome
          cases hsome
        · exact hqueued
      simp [hretrieving, hsource, hlistens hretrieving hcached hsource]
  rw [heq] at hvalue ⊢
  refine ⟨⟨fun hstoring => hmore (h.storing hstoring), fun hheld => hmore (h.held hheld),
    fun hdeleting => (h.deleting hdeleting).imp_left hmore, fun hsome hsource => .inl ?_⟩, rfl⟩
  exact hvalue.trans (hfound hsome hsource)

theorem Findable.processStore {cell : Cell V} (h : cell.Findable) (storing : Storing)
    (hretrieving : cell.retrieving = false) :
    (cell.processStore storing).Findable ∧ (cell.processStore storing).retrieving = false := by
  have hentry := processStore_entry storing cell
  obtain ⟨entry, source, stored, heq, hvalue, hcases⟩ := processStore_cases storing cell
  have hsame : entry.isSome = cell.entry.isSome := by
    rw [heq] at hentry
    refine hentry.trans ?_
    by_cases hqueued : cell.storing = true
    · rw [h.storing hqueued, Bool.true_or]
    · rw [Bool.eq_false_iff.2 hqueued, Bool.or_false]
  have hsource : source = cell.source ∨ cell.value?.isSome = true := by
    obtain ⟨hkept, -⟩ | ⟨value, hsome, -⟩ := hcases
    · exact .inl hkept
    · exact .inr (by rw [hsome, Option.isSome_some])
  have hfound : cell.entry.isSome = true → source.isSome = true → cell.value?.isSome = true := by
    intro hsome hstored
    refine hsource.elim (fun hkept => ?_) id
    refine (h.found hsome (hkept ▸ hstored)).resolve_right fun hqueued => ?_
    rw [hretrieving] at hqueued
    cases hqueued
  rw [heq] at hvalue ⊢
  refine ⟨⟨fun hfalse => (Bool.false_ne_true hfalse).elim, fun hheld => hsame.trans (h.held hheld),
    fun hdeleting => ?_, fun hsome hstored => .inl ?_⟩, hretrieving⟩
  · refine (h.deleting hdeleting).elim (fun hsome => .inl (hsame.trans hsome)) fun hnone => ?_
    refine hsource.elim (fun hkept => .inr (hkept.trans hnone)) fun hsome => .inl ?_
    exact hsame.trans (isSome_value? hsome)
  · exact (congrArg Option.isSome hvalue).trans (hfound (hsame.symm.trans hsome) hstored)

theorem Findable.processDelete {cell : Cell V} (h : cell.Findable) (deletes : Bool)
    (hretrieving : cell.retrieving = false) : (cell.processDelete deletes).Findable := by
  have hmore : cell.entry.isSome = true → (cell.processDelete deletes).entry.isSome = true := by
    intro hsome
    unfold Cell.processDelete Cell.delete
    by_cases hqueued : cell.deleting = true
    · rw [if_pos hqueued]
      by_cases hboth : ((cell.entry.getD {}).available && deletes) = true
      · simp only [hboth, if_true, Option.isSome_some]
      · simp only [hboth, if_false, Option.isSome_some, Bool.false_eq_true]
    · rw [if_neg hqueued]
      exact hsome
  have hless : cell.deleting = false → (cell.processDelete deletes).entry = cell.entry := by
    intro hkept
    unfold Cell.processDelete
    rw [hkept, if_neg Bool.false_ne_true]
  obtain ⟨entry, source, heq, hcases⟩ := processDelete_cases deletes cell
  have hfound : entry.isSome = true → source.isSome = true →
      (cell.processDelete deletes).value?.isSome = true := by
    intro hsome hstored
    obtain ⟨-, -, -, -, rfl⟩ | ⟨-, hvalue, rfl⟩ := hcases
    · cases hstored
    · have hentry : cell.entry.isSome = true := by
        by_cases hqueued : cell.deleting = true
        · refine (h.deleting hqueued).resolve_right fun hnone => ?_
          rw [hnone] at hstored
          cases hstored
        · have hsame := hless (Bool.eq_false_iff.2 hqueued)
          rw [heq] at hsame
          exact hsame ▸ hsome
      rw [hvalue]
      refine (h.found hentry hstored).resolve_right fun hqueued => ?_
      rw [hretrieving] at hqueued
      cases hqueued
  have hstoring : cell.storing = true → entry.isSome = true := by
    intro hstoring
    have hsome := hmore (h.storing hstoring)
    rwa [heq] at hsome
  have hheld : cell.held = true → entry.isSome = true := by
    intro hheld
    have hsome := hmore (h.held hheld)
    rwa [heq] at hsome
  rw [heq] at hfound ⊢
  exact ⟨hstoring, hheld, fun hfalse => (Bool.false_ne_true hfalse).elim,
    fun hsome hstored => .inl (hfound hsome hstored)⟩

theorem Findable.tick {cell : Cell V} (h : cell.Findable) (now : Nat) {retrieval : Retrieval V}
    (storing : Storing) (deletes : Bool) (hlistens : cell.retrieving = true → cell.value? = none →
      cell.source.isSome = true → retrieval.listens = true) :
    (cell.tick now retrieval storing deletes).Findable := by
  obtain ⟨hretrieved, hretrieving⟩ := h.processRetrieve now hlistens
  obtain ⟨hstored, hretrieving⟩ := hretrieved.processStore storing hretrieving
  exact hstored.processDelete deletes hretrieving

/-- A tick without a deletion makes available what its retrievals load. -/
theorem tick_isSome (now : Nat) (retrieval : Retrieval V) (storing : Storing) (deletes : Bool)
    {cell : Cell V} (hkept : cell.deleting = false) :
    (cell.tick now retrieval storing deletes).value?.isSome = cell.loaded retrieval := by
  obtain ⟨_, hretrieved⟩ := processRetrieve_eq now retrieval cell
  obtain ⟨_, _, _, hstored, hkeeps, -⟩ :=
    processStore_cases storing (cell.processRetrieve now retrieval)
  obtain ⟨_, _, -, hcases⟩ :=
    processDelete_cases deletes ((cell.processRetrieve now retrieval).processStore storing)
  obtain ⟨hqueued, -⟩ | ⟨-, hvalue, -⟩ := hcases
  · rw [hstored, hretrieved] at hqueued
    exact absurd (hkept.symm.trans hqueued) Bool.false_ne_true
  · rw [tick, hvalue, hkeeps]
    exact value?_processRetrieve now retrieval cell

theorem get_entry (retrieve : Bool) (cell : Cell V) : (cell.get retrieve).entry.isSome = true := by
  unfold get
  cases hentry : cell.entry with
  | none => rfl
  | some entry => cases havailable : entry.available <;> simp [havailable, hentry]

theorem Findable.get {cell : Cell V} (h : cell.Findable) {retrieve : Bool}
    (hretrieve : cell.entry.isSome = true ∨ retrieve = true) : (cell.get retrieve).Findable := by
  unfold Cell.get
  cases hentry : cell.entry with
  | none =>
    rw [hentry] at hretrieve
    obtain hfalse | rfl := hretrieve
    · cases hfalse
    · exact ⟨fun _ => rfl, fun _ => rfl, fun _ => .inl rfl, fun _ _ => .inr (Bool.or_true _)⟩
  | some entry =>
    show (if entry.available = true then
      ({ cell with entry := some entry, held := true } : Cell V) else cell).Findable
    by_cases havailable : entry.available = true
    · rw [if_pos havailable]
      refine ⟨fun _ => rfl, fun _ => rfl, fun _ => .inl rfl, fun _ _ => .inl ?_⟩
      simp [value?, havailable]
    · rw [if_neg havailable]
      exact h

theorem Findable.create {cell : Cell V} (h : cell.Findable) (value : V) :
    (cell.create value).Findable := by
  unfold Cell.create
  cases hentry : cell.entry with
  | some entry => exact h
  | none => exact ⟨fun _ => rfl, fun _ => rfl, fun _ => .inl rfl, fun _ _ => .inl rfl⟩

theorem Findable.mutate {cell : Cell V} (h : cell.Findable) (consumer : V → V) (throws : Bool) :
    (cell.mutate consumer throws).Findable := by
  by_cases hheld : cell.held = true
  · have hvalue := mutate_value? consumer throws hheld
    have hfound : cell.source.isSome = true → (cell.mutate consumer throws).value?.isSome = true ∨
        cell.retrieving = true := by
      intro hsource
      rw [hvalue, Option.isSome_map]
      exact h.found (h.held hheld) hsource
    unfold Cell.mutate at hfound ⊢
    rw [if_pos hheld] at hfound ⊢
    exact ⟨fun _ => rfl, fun _ => rfl, fun _ => .inl rfl, fun _ hsource => hfound hsource⟩
  · unfold Cell.mutate
    rw [if_neg hheld]
    exact h

theorem Findable.delete {cell : Cell V} (h : cell.Findable)
    (hdelete : cell.entry.isSome = true ∨ cell.source = none) :
    ({ cell with deleting := true, contents := none } : Cell V).Findable :=
  ⟨h.storing, h.held, fun _ => hdelete, h.found⟩

theorem Findable.retryRetrieve {cell : Cell V} (h : cell.Findable) :
    ({ cell with retrieving := true } : Cell V).Findable :=
  ⟨h.storing, h.held, h.deleting, fun _ _ => .inr rfl⟩

end Cell

namespace Directory

/-- `SaveMetadata`, which returns silently when the file cannot be opened. -/
def saveMetadata (opened : Bool) (directory : Directory V) : Directory V :=
  if opened then { directory with metadata := some directory.sequentialUid } else directory

/-- The key that `CreateHorse`, or another one of the source's functions for new records, hands out. -/
def allocate (opened : Bool) (directory : Directory V) : Directory V :=
  let uid := directory.sequentialUid + 1
  saveMetadata opened
    { directory with sequentialUid := uid, allocated := uid :: directory.allocated }

/-- `DataStorage::Create`, with a supplier that allocates the key. -/
def create (value : V) (opened : Bool) (directory : Directory V) : Directory V :=
  let allocated := allocate opened directory
  { allocated with storage := DataStorage.create allocated.sequentialUid value allocated.storage }

/-- The counter that `Initialize` reads. -/
def initialUid (readable : Bool) (metadata : Option UInt32) : UInt32 :=
  if readable then metadata.getD 0 else 0

/-- A new process over the same files.  The old one may have terminated regularly: then it stored its
records and its metadata. -/
def restart (ending : Option (Listeners Uid V)) (opened readable : Bool)
    (directory : Directory V) : Directory V :=
  let ended := match ending with
    | none => directory
    | some listeners => saveMetadata opened
        { directory with storage := DataStorage.terminate listeners directory.storage }
  { ended with
    storage := start ended.storage.source
    sequentialUid := initialUid readable ended.metadata }

end Directory

/-- What happens to the directory.  Several storages may share a counter, so keys are also allocated
for records of another storage. -/
inductive Request (V : Type) where
  | get (key : Uid) (retrieve : Bool)
  | mutate (key : Uid) (consumer : V → V) (throws : Bool)
  | delete (key : Uid)
  | retryRetrieve (key : Uid)
  | tick (listeners : Listeners Uid V)
  | create (value : V) (opened : Bool)
  | allocate (opened : Bool)
  | restart (ending : Option (Listeners Uid V)) (opened readable : Bool)

namespace Directory

def step (directory : Directory V) : Request V → Directory V
  | .get key retrieve =>
    { directory with storage := DataStorage.get key retrieve directory.storage }
  | .mutate key consumer throws =>
    { directory with storage := DataStorage.mutate key consumer throws directory.storage }
  | .delete key => { directory with storage := DataStorage.delete key directory.storage }
  | .retryRetrieve key =>
    { directory with storage := DataStorage.retryRetrieve key directory.storage }
  | .tick listeners => { directory with storage := DataStorage.tick listeners directory.storage }
  | .create value opened => create value opened directory
  | .allocate opened => allocate opened directory
  | .restart ending opened readable => restart ending opened readable directory

/-! ## The condition -/

/-- The next key exists, and the counter is saved with it. -/
def Allocates (opened : Bool) (directory : Directory V) : Prop :=
  directory.sequentialUid + 1 ≠ 0 ∧ opened = true

/-- The condition under which a step spoils no key.  Only keys are looked up that the counter has
passed, and not without a retrieval unless they have an entry; the deletion of a record comes after
its lookup; records that the source has can be read; and the counter is saved and read. -/
def Unspoiled (directory : Directory V) : Request V → Prop
  | .get key retrieve => key ∈ directory.storage.entries ∨
      retrieve = true ∧ key ≤ directory.sequentialUid
  | .mutate _ _ _ => True
  | .delete key => key ∈ directory.storage.entries ∨
      key ≤ directory.sequentialUid ∧ directory.storage.source key = none
  | .retryRetrieve key => key ≤ directory.sequentialUid
  | .tick listeners => ∀ key ∈ directory.storage.retrieveQueue.data,
      (cell key directory.storage).value? = none → (directory.storage.source key).isSome = true →
        (listeners.retrieve key).listens = true
  | .create _ opened => Allocates opened directory
  | .allocate opened => Allocates opened directory
  | .restart _ _ readable => readable = true

instance (directory : Directory V) : ∀ request, Decidable (Unspoiled directory request)
  | .get _ _ => instDecidableOr
  | .mutate _ _ _ => isTrue trivial
  | .delete _ => instDecidableOr
  | .retryRetrieve _ => UInt32.decLe _ _
  | .tick _ => List.decidableBAll _ _
  | .create _ _ => instDecidableAnd
  | .allocate _ => instDecidableAnd
  | .restart _ _ readable => inferInstanceAs (Decidable (readable = true))

/-! ## The invariant -/

/-- The invariant: keys are findable and untouched beyond the counter, the counter is saved, and it
has passed the allocated keys, which are distinct. -/
structure Orderly (directory : Directory V) : Prop where
  findable : ∀ key, (cell key directory.storage).Findable
  untouched : ∀ key, directory.sequentialUid < key → (cell key directory.storage).Untouched
  saved : directory.metadata.getD 0 = directory.sequentialUid
  distinct : directory.allocated.Nodup
  passed : ∀ uid ∈ directory.allocated, uid ≠ 0 ∧ uid ≤ directory.sequentialUid

theorem start_untouched (source : Uid → Option V) (key : Uid) :
    (cell key (start source)).Untouched := by
  rw [start_cell]
  exact ⟨rfl, rfl, rfl, rfl, rfl⟩

theorem orderly_initial : Orderly ({} : Directory V) :=
  ⟨fun key => (start_untouched _ key).findable, fun key _ => start_untouched _ key, rfl, .nil,
    by simp⟩

theorem Orderly.le_of_mem {directory : Directory V} (h : directory.Orderly) {key : Uid}
    (hmem : key ∈ directory.storage.entries) : key ≤ directory.sequentialUid := by
  refine UInt32.not_lt.1 fun hlt => ?_
  have hnone : directory.storage.entries[key]? = none := (h.untouched key hlt).entry
  rw [Std.ExtTreeMap.mem_iff_isSome_getElem?, hnone] at hmem
  cases hmem

/-- An operation of the storage that acts on a key which the counter has passed. -/
theorem Orderly.of_cell {directory : Directory V} (h : directory.Orderly) {key : Uid}
    {after : World Uid V} {result : Cell V} (hle : key ≤ directory.sequentialUid)
    (hafter : ∀ other, cell other after =
      if other = key then result else cell other directory.storage)
    (hresult : result.Findable) : Orderly { directory with storage := after } := by
  refine ⟨fun other => ?_, fun other hlt => ?_, h.saved, h.distinct, h.passed⟩
  · show (cell other after).Findable
    rw [hafter]
    by_cases hsame : other = key
    · rw [if_pos hsame]
      exact hresult
    · rw [if_neg hsame]
      exact h.findable other
  · show (cell other after).Untouched
    rw [hafter, if_neg]
    · exact h.untouched other hlt
    · rintro rfl
      exact UInt32.not_lt.2 hle hlt

/-- An allocation hands out a key that nobody has asked for. -/
theorem Orderly.allocate {directory : Directory V} (h : directory.Orderly) {opened : Bool}
    (hallocates : directory.Allocates opened) :
    (directory.allocate opened).Orderly ∧
      (cell (directory.sequentialUid + 1) directory.storage).Untouched := by
  obtain ⟨hnext, rfl⟩ := hallocates
  have hsucc : (directory.sequentialUid + 1).toNat = directory.sequentialUid.toNat + 1 := by
    have hne : (directory.sequentialUid + 1).toNat ≠ 0 := fun hzero =>
      hnext (UInt32.toNat_inj.1 hzero)
    have hlt := directory.sequentialUid.toNat_lt
    rw [UInt32.toNat_add] at hne ⊢
    simp only [UInt32.reduceToNat] at hne ⊢
    omega
  have hlater : ∀ key, directory.sequentialUid + 1 ≤ key → directory.sequentialUid < key := by
    intro key hle
    rw [UInt32.le_iff_toNat_le, hsucc] at hle
    exact UInt32.lt_iff_toNat_lt.2 hle
  refine ⟨⟨h.findable, fun key hlt => ?_, rfl, ?_, ?_⟩, h.untouched _ (hlater _ (UInt32.le_refl _))⟩
  · exact h.untouched key (hlater key (UInt32.le_of_lt hlt))
  · refine List.nodup_cons.2 ⟨fun hmem => ?_, h.distinct⟩
    exact UInt32.not_lt.2 (h.passed _ hmem).2 (hlater _ (UInt32.le_refl _))
  · intro uid hmem
    obtain rfl | hmem := List.mem_cons.1 hmem
    · exact ⟨hnext, UInt32.le_refl _⟩
    · obtain ⟨hne, hle⟩ := h.passed uid hmem
      exact ⟨hne, UInt32.le_trans hle (UInt32.le_of_lt (hlater _ (UInt32.le_refl _)))⟩

theorem Orderly.restart {directory : Directory V} (h : directory.Orderly)
    (ending : Option (Listeners Uid V)) (opened : Bool) :
    (directory.restart ending opened true).Orderly := by
  have hsaved : (directory.restart ending opened true).sequentialUid = directory.sequentialUid ∧
      (directory.restart ending opened true).metadata.getD 0 = directory.sequentialUid ∧
      (directory.restart ending opened true).allocated = directory.allocated := by
    cases ending with
    | none => exact ⟨h.saved, h.saved, rfl⟩
    | some listeners =>
      cases opened with
      | false => exact ⟨h.saved, h.saved, rfl⟩
      | true => exact ⟨rfl, rfl, rfl⟩
  have hstorage : ∃ source, (directory.restart ending opened true).storage = start source :=
    ⟨_, rfl⟩
  obtain ⟨huid, hmetadata, hallocated⟩ := hsaved
  obtain ⟨source, hsource⟩ := hstorage
  refine ⟨fun key => ?_, fun key _ => ?_, hmetadata.trans huid.symm, hallocated ▸ h.distinct, ?_⟩
  · rw [hsource]
    exact (start_untouched source key).findable
  · rw [hsource]
    exact start_untouched source key
  · rw [huid, hallocated]
    exact h.passed

/-- A step that spoils no key keeps the invariant. -/
theorem step_orderly (directory : Directory V) (request : Request V) (h : directory.Orderly)
    (hunspoiled : directory.Unspoiled request) : (step directory request).Orderly := by
  cases request with
  | get key retrieve =>
    have hle : key ≤ directory.sequentialUid := hunspoiled.elim h.le_of_mem And.right
    refine h.of_cell hle (fun other => cell_get _ key other retrieve)
      ((h.findable key).get (hunspoiled.imp (fun hmem => ?_) And.left))
    exact Std.ExtTreeMap.mem_iff_isSome_getElem?.1 hmem
  | mutate key consumer throws =>
    by_cases hlt : directory.sequentialUid < key
    · have hheld : directory.storage.held key = false := (h.untouched key hlt).held
      have hsame : DataStorage.mutate key consumer throws directory.storage =
          directory.storage := by
        unfold DataStorage.mutate
        rw [hheld, if_neg Bool.false_ne_true]
      rw [step, hsame]
      exact h
    · exact h.of_cell (UInt32.not_lt.1 hlt)
        (fun other => cell_mutate _ key other consumer throws)
        ((h.findable key).mutate consumer throws)
  | delete key =>
    have hle : key ≤ directory.sequentialUid := hunspoiled.elim h.le_of_mem And.left
    refine h.of_cell hle (fun other => cell_delete _ key other)
      ((h.findable key).delete (hunspoiled.imp (fun hmem => ?_) And.right))
    exact Std.ExtTreeMap.mem_iff_isSome_getElem?.1 hmem
  | retryRetrieve key =>
    exact h.of_cell hunspoiled (fun other => cell_requestRetrieve _ key other)
      (h.findable key).retryRetrieve
  | tick listeners =>
    refine ⟨fun key => ?_, fun key hlt => ?_, h.saved, h.distinct, h.passed⟩
    · rw [step, cell_tick]
      refine (h.findable key).tick _ _ _ fun hqueued => ?_
      exact hunspoiled key (of_decide_eq_true hqueued)
    · rw [step, cell_tick]
      exact (h.untouched key hlt).tick _ _ _ _
  | create value opened =>
    obtain ⟨hallocated, -⟩ := h.allocate hunspoiled
    have huid : (directory.allocate opened).sequentialUid ≤
        (directory.allocate opened).sequentialUid := UInt32.le_refl _
    exact hallocated.of_cell huid (fun other => cell_create _ _ other value)
      ((hallocated.findable _).create value)
  | allocate opened => exact (h.allocate hunspoiled).1
  | restart ending opened readable =>
    have hreadable : readable = true := hunspoiled
    subst hreadable
    exact h.restart ending opened

/-! ## Runs -/

/-- A record that is created gets the next key, which has no entry, and becomes available there;
nothing else becomes available or changes. -/
def Creates (directory : Directory V) (value : V) (opened : Bool) : Prop :=
  let uid := directory.sequentialUid + 1
  uid ∉ directory.storage.entries ∧
    ∀ key, (cell key (create value opened directory).storage).value? =
      if key = uid then some value else (cell key directory.storage).value?

/-- A record of the source becomes available when it is looked up and a tick retrieves it. -/
def Retrieves (directory : Directory V) : Prop :=
  ∀ key (listeners : Listeners Uid V), (directory.storage.source key).isSome = true →
    key ∉ directory.storage.deleteQueue.data → (listeners.retrieve key).listens = true →
      (cell key (DataStorage.tick listeners
        (DataStorage.get key true directory.storage))).value?.isSome = true

/-- No history of lookups spoils a key. -/
def LookupsSafe (requests : List (Request V)) : Prop :=
  (∀ first value opened second, requests = first ++ .create value opened :: second →
    (run step {} first).Creates value opened) ∧
  (run step {} requests).Retrieves ∧
  (run step {} requests).allocated.Nodup ∧ 0 ∉ (run step {} requests).allocated

theorem Orderly.creates {directory : Directory V} (h : directory.Orderly) (value : V)
    {opened : Bool} (hallocates : directory.Allocates opened) :
    directory.Creates value opened := by
  obtain ⟨-, huntouched⟩ := h.allocate hallocates
  have hstorage : ∀ opened, (directory.allocate opened).storage = directory.storage ∧
      (directory.allocate opened).sequentialUid = directory.sequentialUid + 1 := by
    rintro ⟨⟩
    · exact ⟨rfl, rfl⟩
    · exact ⟨rfl, rfl⟩
  refine ⟨fun hmem => ?_, fun key => ?_⟩
  · have hnone : directory.storage.entries[directory.sequentialUid + 1]? = none := huntouched.entry
    rw [Std.ExtTreeMap.mem_iff_isSome_getElem?, hnone] at hmem
    cases hmem
  · show (cell key (DataStorage.create (directory.allocate opened).sequentialUid value
      (directory.allocate opened).storage)).value? = _
    rw [(hstorage opened).1, (hstorage opened).2, cell_create]
    by_cases hsame : key = directory.sequentialUid + 1
    · rw [if_pos hsame, if_pos hsame, Cell.create, huntouched.entry]
      rfl
    · rw [if_neg hsame, if_neg hsame]

theorem Orderly.retrieves {directory : Directory V} (h : directory.Orderly) :
    directory.Retrieves := by
  intro key listeners hsource hkept hlistens
  have hdeleting : (cell key directory.storage).deleting = false := decide_eq_false hkept
  have hfindable := (h.findable key).get (.inr rfl)
  have hentry := get_entry true (cell key directory.storage)
  obtain ⟨entry, retrieving, held, heq, -⟩ := get_eq true (cell key directory.storage)
  rw [cell_tick, cell_get, if_pos rfl, tick_isSome _ _ _ _ (by rw [heq]; exact hdeleting)]
  have hsourceAfter : ((cell key directory.storage).get true).source.isSome = true := by
    rw [heq]
    exact hsource
  unfold loaded
  rw [hlistens, hsourceAfter, Bool.and_true, Bool.and_true, Bool.or_eq_true]
  exact hfindable.found hentry hsourceAfter

/-- Lookups are safe in every run whose steps spoil no key. -/
theorem lookups_safe (requests : List (Request V))
    (hunspoiled : Guarded step Unspoiled ({} : Directory V) requests) : LookupsSafe requests := by
  have horderly : ∀ first second, requests = first ++ second →
      (run step ({} : Directory V) first).Orderly := by
    rintro first second rfl
    exact (guarded_append.1 hunspoiled).1.invariant step_orderly orderly_initial
  have hlast := horderly requests [] (List.append_nil _).symm
  refine ⟨fun first value opened second heq => ?_, hlast.retrieves, hlast.distinct,
    fun hmem => (hlast.passed 0 hmem).1 rfl⟩
  have hcreate : (run step ({} : Directory V) first).Unspoiled (.create value opened) := by
    rw [heq] at hunspoiled
    exact (guarded_append.1 hunspoiled).2.1
  exact (horderly first _ heq).creates value hcreate

/-- A record is created, deleted and looked up again, and the next one is created after a restart. -/
theorem lookups_safe_restarted : LookupsSafe (V := Nat)
    [.create 7 true, .tick {}, .restart none false true, .get 1 true, .tick {}, .get 0 true,
      .delete 1, .tick {}, .restart (some {}) false true, .get 1 true, .create 8 true] :=
  lookups_safe _ (by decide +kernel)

/-- A lookup of a key before it is allocated makes the creation throw. -/
theorem early_lookup_spoils : ¬ LookupsSafe (V := Nat) [.get 1 true, .create 7 true] := by
  intro h
  have hcreates := h.1 [.get 1 true] 7 true [] rfl
  exact absurd hcreates.1 (by decide +kernel)

end Directory

end Alicia.Data
