import Alicia.Data.Definitions
import Alicia.Transition.Effect
import Mathlib.Logic.Function.Basic

/-!
# The data director

The directors and systems of the server reach a record through the `DataDirector`.  A record that
exists need not be loaded when it is asked for, so each access has an argument which says whether
the record is available then.  Using a record that is not available throws.
-/

namespace Alicia.Data

open Transition Effect Function

/-- The records of one storage. -/
abbrev Table (V : Type) := Uid → Option V

structure DataDirector where
  characters : Table Character := fun _ => none
  horses : Table Horse := fun _ => none
  items : Table Item := fun _ => none
  storageItems : Table StorageItem := fun _ => none
  eggs : Table Egg := fun _ => none
  guilds : Table Guild := fun _ => none
  dailyQuestGroups : Table DailyQuestGroup := fun _ => none
  quests : Table Quest := fun _ => none
  mails : Table Mail := fun _ => none
  stallions : Table Stallion := fun _ => none
  rewards : Table Reward := fun _ => none
  pets : Table Pet := fun _ => none

/-- A record carries the uid that it was created and is stored with. -/
structure DataDirector.Identified (data : DataDirector) : Prop where
  items : ∀ uid item, data.items uid = some item → item.uid = uid

/-- One of the storages of the data director. -/
structure Storage (V : Type) where
  records : DataDirector → Table V
  put : Table V → DataDirector → DataDirector
  records_put : ∀ table data, records (put table data) = table
  put_put : ∀ first second data, put first (put second data) = put first data
  put_records : ∀ data, put (records data) data = data

namespace DataDirector

def characterStorage : Storage Character :=
  ⟨characters, fun records data => { data with characters := records }, fun _ _ => rfl, fun _ _ _ => rfl,
    fun _ => rfl⟩

def horseStorage : Storage Horse :=
  ⟨horses, fun records data => { data with horses := records }, fun _ _ => rfl, fun _ _ _ => rfl,
    fun _ => rfl⟩

def itemStorage : Storage Item :=
  ⟨items, fun records data => { data with items := records }, fun _ _ => rfl, fun _ _ _ => rfl,
    fun _ => rfl⟩

def storageItemStorage : Storage StorageItem :=
  ⟨storageItems, fun records data => { data with storageItems := records }, fun _ _ => rfl, fun _ _ _ => rfl,
    fun _ => rfl⟩

def eggStorage : Storage Egg :=
  ⟨eggs, fun records data => { data with eggs := records }, fun _ _ => rfl, fun _ _ _ => rfl,
    fun _ => rfl⟩

def guildStorage : Storage Guild :=
  ⟨guilds, fun records data => { data with guilds := records }, fun _ _ => rfl, fun _ _ _ => rfl,
    fun _ => rfl⟩

def dailyQuestGroupStorage : Storage DailyQuestGroup :=
  ⟨dailyQuestGroups, fun records data => { data with dailyQuestGroups := records }, fun _ _ => rfl, fun _ _ _ => rfl,
    fun _ => rfl⟩

def questStorage : Storage Quest :=
  ⟨quests, fun records data => { data with quests := records }, fun _ _ => rfl, fun _ _ _ => rfl,
    fun _ => rfl⟩

def mailStorage : Storage Mail :=
  ⟨mails, fun records data => { data with mails := records }, fun _ _ => rfl, fun _ _ _ => rfl,
    fun _ => rfl⟩

def stallionStorage : Storage Stallion :=
  ⟨stallions, fun records data => { data with stallions := records }, fun _ _ => rfl, fun _ _ _ => rfl,
    fun _ => rfl⟩

def rewardStorage : Storage Reward :=
  ⟨rewards, fun records data => { data with rewards := records }, fun _ _ => rfl, fun _ _ _ => rfl,
    fun _ => rfl⟩

def petStorage : Storage Pet :=
  ⟨pets, fun records data => { data with pets := records }, fun _ _ => rfl, fun _ _ _ => rfl,
    fun _ => rfl⟩

end DataDirector

/-- A value to which there is exclusive access, and the records besides it. -/
structure Held (V : Type) where
  value : V
  data : DataDirector

namespace Storage

variable {V : Type} (storage : Storage V)

/-- `GetX(uid)`: the value of the record, if it is available. -/
def find (available : Bool) (uid : Uid) (data : DataDirector) : Option V :=
  if uid ≠ invalidUid ∧ available = true then storage.records data uid else none

/-- `GetXCache().Get(uid)`, which does not check the uid. -/
def cached (available : Bool) (uid : Uid) (data : DataDirector) : Option V :=
  if available then storage.records data uid else none

/-- `GetXCache().Get(uids)`: the values, if all the records are available. -/
def cachedAll (available : Uid → Bool) (data : DataDirector) : List Uid → Option (List V)
  | [] => some []
  | uid :: rest =>
    (storage.cached (available uid) uid data).bind fun value =>
      (cachedAll available data rest).map (value :: ·)

/-- Replace the value of a record. -/
def write (uid : Uid) (value : V) (data : DataDirector) : DataDirector :=
  storage.put (update (storage.records data) uid (some value)) data

/-- Delete a record.  The deletion that `Delete` queues is over before the record is used again. -/
def erase (uid : Uid) (data : DataDirector) : DataDirector :=
  storage.put (update (storage.records data) uid none) data

/-- `GetX(uid).Immutable`, which passes the value on. -/
def immutable (available : Bool) (uid : Uid) : Effect DataDirector String V := do
  Effect.ofOption "Value of the record is unavailable" (storage.find available uid (← get))

/-- `GetX(uid).Mutable`, for a consumer that changes the value. -/
def mutable (available : Bool) (uid : Uid) (consumer : V → V) :
    Effect DataDirector String PUnit := do
  let value ← storage.immutable available uid
  modify (storage.write uid (consumer value))

/-- `GetX(uid).Mutable`, for a consumer that also returns something. -/
def mutableGet {α : Type} (available : Bool) (uid : Uid) (consumer : V → α × V) :
    Effect DataDirector String α := do
  let value ← storage.immutable available uid
  modify (storage.write uid (consumer value).2)
  pure (consumer value).1

/-- `GetX(uid).Mutable`, for a consumer that also uses the data director.  The value is changed in
place, so it keeps its changes when the consumer throws. -/
def access {E α : Type} (unavailable : E) (available : Bool) (uid : Uid)
    (consumer : Effect (Held V) E α) : Effect DataDirector E α := fun data =>
  match storage.find available uid data with
  | none => .error unavailable data
  | some value =>
    match consumer ⟨value, data⟩ with
    | .ok a held => .ok a (storage.write uid held.value held.data)
    | .error e held => .error e (storage.write uid held.value held.data)

/-- The uid of a new record, if the creation succeeds.  A uid that a record has is not allocated
again. -/
def fresh (allocated : Option Uid) (data : DataDirector) : Option Uid :=
  allocated.filter fun uid => uid ≠ invalidUid && (storage.records data uid).isNone

/-- `CreateX`, for the uid which the data source allocates, or `none` when the creation fails. -/
def create (allocated : Option Uid) (value : Uid → V) :
    Effect DataDirector String (Option Uid) := do
  match storage.fresh allocated (← get) with
  | none => pure none
  | some uid =>
    modify (storage.write uid (value uid))
    pure (some uid)

variable {storage}

variable {uid : Uid} {data : DataDirector}

theorem find_eq_some {available : Bool} {value : V} :
    storage.find available uid data = some value ↔
      uid ≠ invalidUid ∧ available = true ∧ storage.records data uid = some value := by
  unfold find
  by_cases h : uid ≠ invalidUid ∧ available = true
  · rw [if_pos h]
    simp [h.1, h.2]
  · rw [if_neg h]
    constructor
    · intro hnone
      cases hnone
    · rintro ⟨hvalid, havailable, -⟩
      exact absurd ⟨hvalid, havailable⟩ h

variable {available : Uid → Bool}

theorem cachedAll_isSome {uids : List Uid} :
    (storage.cachedAll available data uids).isSome = true ↔
      ∀ uid ∈ uids, (storage.cached (available uid) uid data).isSome = true := by
  induction uids with
  | nil => simp [cachedAll]
  | cons uid rest ih =>
    rw [List.forall_mem_cons, ← ih, cachedAll]
    cases storage.cached (available uid) uid data with
    | none => simp
    | some value => simp

/-- The records that are listed depend on those of the storage alone. -/
theorem cachedAll_congr {data' : DataDirector} (h : storage.records data' = storage.records data)
    (uids : List Uid) :
    storage.cachedAll available data' uids = storage.cachedAll available data uids := by
  induction uids with
  | nil => rfl
  | cons uid rest ih => rw [cachedAll, cachedAll, ih, cached, cached, h]

theorem records_of_cached {available : Bool} {value : V}
    (h : storage.cached available uid data = some value) :
    storage.records data uid = some value := by
  rw [cached] at h
  split at h
  · exact h
  · cases h

theorem mem_cachedAll {uids : List Uid} {values : List V}
    (h : storage.cachedAll available data uids = some values) {value : V} (hvalue : value ∈ values)
    : ∃ uid ∈ uids, storage.records data uid = some value := by
  induction uids generalizing values with
  | nil =>
    cases h
    cases hvalue
  | cons uid rest ih =>
    obtain ⟨first, hfirst, h⟩ := Option.bind_eq_some_iff.1 h
    obtain ⟨others, hothers, rfl⟩ := Option.map_eq_some_iff.1 h
    cases hvalue with
    | head => exact ⟨uid, List.mem_cons_self, records_of_cached hfirst⟩
    | tail _ hvalue =>
      obtain ⟨other, hother, hrecord⟩ := ih hothers hvalue
      exact ⟨other, List.mem_cons_of_mem uid hother, hrecord⟩

theorem mem_cachedAll_of_records {uids : List Uid} {values : List V}
    (h : storage.cachedAll available data uids = some values) (huid : uid ∈ uids) {value : V}
    (hvalue : storage.records data uid = some value) : value ∈ values := by
  induction uids generalizing values with
  | nil => cases huid
  | cons first rest ih =>
    obtain ⟨other, hother, h⟩ := Option.bind_eq_some_iff.1 h
    obtain ⟨others, hothers, rfl⟩ := Option.map_eq_some_iff.1 h
    cases huid with
    | head =>
      cases hvalue.symm.trans (records_of_cached hother)
      exact List.mem_cons_self
    | tail _ hrest => exact List.mem_cons_of_mem _ (ih hothers hrest)

theorem immutable_apply (available : Bool) (uid : Uid) (data : DataDirector) :
    storage.immutable available uid data =
      match storage.find available uid data with
      | some value => .ok value data
      | none => .error "Value of the record is unavailable" data := by
  show (ofOption _ (storage.find available uid data) : Effect DataDirector String V) data = _
  cases storage.find available uid data <;> rfl

theorem mutable_apply (available : Bool) (uid : Uid) (consumer : V → V) (data : DataDirector) :
    storage.mutable available uid consumer data =
      match storage.find available uid data with
      | some value => .ok ⟨⟩ (storage.write uid (consumer value) data)
      | none => .error "Value of the record is unavailable" data := by
  rw [mutable, bind_apply, immutable_apply]
  cases hfind : storage.find available uid data with
  | none => rfl
  | some value => rfl

theorem mutableGet_apply {α : Type} (available : Bool) (uid : Uid) (consumer : V → α × V)
    (data : DataDirector) : storage.mutableGet available uid consumer data =
      match storage.find available uid data with
      | some value => .ok (consumer value).1 (storage.write uid (consumer value).2 data)
      | none => .error "Value of the record is unavailable" data := by
  rw [mutableGet, bind_apply, immutable_apply]
  cases hfind : storage.find available uid data with
  | none => rfl
  | some value => rfl

theorem create_apply (allocated : Option Uid) (value : Uid → V) (data : DataDirector) :
    storage.create allocated value data =
      match storage.fresh allocated data with
      | some uid => .ok (some uid) (storage.write uid (value uid) data)
      | none => .ok none data := by
  rw [create, bind_apply, get_apply]
  dsimp only
  cases storage.fresh allocated data with
  | none => rfl
  | some uid => rfl

theorem final_access {E α : Type} (unavailable : E) (available : Bool) (uid : Uid)
    (consumer : Effect (Held V) E α) (data : DataDirector) :
    (storage.access unavailable available uid consumer).final data =
      match storage.find available uid data with
      | none => data
      | some value => storage.write uid (consumer.final ⟨value, data⟩).value
          (consumer.final ⟨value, data⟩).data := by
  rw [final, access]
  cases storage.find available uid data with
  | none => rfl
  | some value =>
    dsimp only
    cases hresult : consumer ⟨value, data⟩ with
    | ok a held => rw [final_ok hresult]
    | error e held => rw [final_error hresult]

theorem fresh_eq_some {allocated : Option Uid} :
    storage.fresh allocated data = some uid ↔
      allocated = some uid ∧ uid ≠ invalidUid ∧ storage.records data uid = none := by
  simp [fresh, Option.filter_eq_some_iff]

@[simp] theorem records_write (uid : Uid) (value : V) (data : DataDirector) :
    storage.records (storage.write uid value data) =
      update (storage.records data) uid (some value) := storage.records_put _ _

/-- A record that was written is available. -/
theorem find_write {uid : Uid} (hvalid : uid ≠ invalidUid) (value : V) (data : DataDirector) :
    storage.find true uid (storage.write uid value data) = some value := by
  rw [find_eq_some, records_write, update_self]
  exact ⟨hvalid, rfl, rfl⟩

theorem write_write (uid : Uid) (first second : V) (data : DataDirector) :
    storage.write uid second (storage.write uid first data) = storage.write uid second data := by
  rw [write, records_write, update_idem, write, storage.put_put]
  rfl

/-- Writing the value that a record has changes nothing. -/
theorem write_self {value : V} (h : storage.records data uid = some value) :
    storage.write uid value data = data := by
  have hsame : update (storage.records data) uid (some value) = storage.records data := by
    rw [← h]
    exact update_eq_self uid _
  rw [write, hsame]
  exact storage.put_records data

/-- A handler that only replies after it has changed a record. -/
theorem final_mutableGet_reply {α β : Type} (available : Bool) (uid : Uid) (consumer : V → α × V)
    {reply : α → Effect DataDirector String β} (hreply : ∀ a data, (reply a).final data = data)
    (data : DataDirector) : (storage.mutableGet available uid consumer >>= reply).final data =
      match storage.find available uid data with
      | some value => storage.write uid (consumer value).2 data
      | none => data := by
  rw [final_bind, mutableGet_apply]
  cases storage.find available uid data with
  | none => rfl
  | some value => exact hreply _ _

/-- Writing the value of a record makes no record available or unavailable. -/
theorem find_write_isSome {available : Bool} {uid other : Uid} {value : V} {data : DataDirector}
    (h : (storage.records data uid).isSome = true) :
    (storage.find available other (storage.write uid value data)).isSome =
      (storage.find available other data).isSome := by
  unfold find
  split
  · rw [records_write]
    by_cases hsame : other = uid
    · subst hsame
      rw [update_self, h]
      rfl
    · rw [update_of_ne hsame]
  · rfl

/-! ## Relations that accesses keep -/

section Keeps

variable {R : DataDirector → DataDirector → Prop} [Std.Refl R]

theorem keeps_immutable (available : Bool) (uid : Uid) :
    Keeps R (storage.immutable available uid) := by
  refine .of_final fun data => ?_
  rw [final, immutable_apply]
  cases storage.find available uid data <;> rfl

theorem keeps_mutable {available : Bool} {consumer : V → V}
    (h : ∀ data value, storage.find available uid data = some value →
      R data (storage.write uid (consumer value) data)) :
    Keeps R (storage.mutable available uid consumer) := by
  intro data
  rw [final, mutable_apply]
  cases hfind : storage.find available uid data with
  | none => exact refl_of R data
  | some value => exact h data value hfind

theorem keeps_create {allocated : Option Uid} {value : Uid → V}
    (h : ∀ data uid, storage.fresh allocated data = some uid →
      R data (storage.write uid (value uid) data)) :
    Keeps R (storage.create allocated value) := by
  intro data
  rw [final, create_apply]
  cases hfresh : storage.fresh allocated data with
  | none => exact refl_of R data
  | some uid => exact h data uid hfresh

theorem keeps_access {E α : Type} {unavailable : E} {available : Bool}
    {consumer : Effect (Held V) E α}
    (h : ∀ data value, storage.find available uid data = some value →
      R data (storage.write uid (consumer.final ⟨value, data⟩).value
        (consumer.final ⟨value, data⟩).data)) :
    Keeps R (storage.access unavailable available uid consumer) := by
  intro data
  rw [final_access]
  cases hfind : storage.find available uid data with
  | none => exact refl_of R data
  | some value => exact h data value hfind

end Keeps

/-! ## Records inside a larger state -/

section Zoom

variable {T α β : Type} {part : T → DataDirector} {back : DataDirector → T → T}

theorem final_immutable_bind (hback : ∀ t, back (part t) t = t) (available : Bool) (uid : Uid)
    (f : V → Effect T String β) (t : T) :
    ((storage.immutable available uid).zoom part back >>= f).final t =
      match storage.find available uid (part t) with
      | some value => (f value).final t
      | none => t := by
  rw [final_zoom_bind, immutable_apply]
  cases storage.find available uid (part t) with
  | none => exact hback t
  | some value => exact congrArg (f value).final (hback t)

theorem final_mutable_bind (hback : ∀ t, back (part t) t = t) (available : Bool) (uid : Uid)
    (consumer : V → V) (f : PUnit → Effect T String β) (t : T) :
    ((storage.mutable available uid consumer).zoom part back >>= f).final t =
      match storage.find available uid (part t) with
      | some value => (f ⟨⟩).final (back (storage.write uid (consumer value) (part t)) t)
      | none => t := by
  rw [final_zoom_bind, mutable_apply]
  cases storage.find available uid (part t) with
  | none => exact hback t
  | some value => rfl

theorem final_create_bind (hback : ∀ t, back (part t) t = t) (allocated : Option Uid)
    (value : Uid → V) (f : Option Uid → Effect T String β) (t : T) :
    ((storage.create allocated value).zoom part back >>= f).final t =
      match storage.fresh allocated (part t) with
      | some uid => (f (some uid)).final (back (storage.write uid (value uid) (part t)) t)
      | none => (f none).final t := by
  rw [final_zoom_bind, create_apply]
  cases storage.fresh allocated (part t) with
  | none => exact congrArg (f none).final (hback t)
  | some uid => rfl

theorem final_mutableGet_bind (hback : ∀ t, back (part t) t = t) (available : Bool) (uid : Uid)
    (consumer : V → α × V) (f : α → Effect T String β) (t : T) :
    ((storage.mutableGet available uid consumer).zoom part back >>= f).final t =
      match storage.find available uid (part t) with
      | some value =>
        (f (consumer value).1).final (back (storage.write uid (consumer value).2 (part t)) t)
      | none => t := by
  rw [final_zoom_bind, mutableGet_apply]
  cases storage.find available uid (part t) with
  | none => exact hback t
  | some value => rfl

end Zoom

end Storage

end Alicia.Data
