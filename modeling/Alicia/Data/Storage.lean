import Alicia.Collection.Keyed
import Alicia.Transition.Run
import Mathlib.Logic.Function.Basic
import Std.Data.ExtTreeMap

/-!
# The data storage

`DataStorage` caches the records of a data source.  Requests are queued, and a tick works off the
retrievals, then the stores, then the deletions.  The data source is a map from keys to values; its
listeners may fail at every call.

No operation of a storage lets a key act on another one.  `cell` is what belongs to a key, and each
operation of the storage is an operation on the cell of its key.
-/

namespace Alicia.Data

open Std (ExtTreeMap)
open Collection Function Transition Std

/-- `DataStorage::Entry`.  The time of the first failure is that of the tick. -/
structure Entry (V : Type) [Inhabited V] where
  available : Bool := false
  retrieveFailureCount : UInt32 := 0
  firstRetrieveFailure : Nat := 0
  value : V := default

/-- `DataStorage`. -/
structure DataStorage (K V : Type) [Ord K] [Std.TransOrd K] [Inhabited V] where
  entries : ExtTreeMap K (Entry V) := ∅
  retrieveQueue : KeyQueue K := {}
  storeQueue : KeyQueue K := {}
  deleteQueue : KeyQueue K := {}

/-- How a call of the retrieve listener ends.  A failed call may leave anything in the value. -/
inductive Retrieval (V : Type) where
  | succeeds
  | fails (leaves : V → V)

/-- Whether the call is answered with what the source has. -/
def Retrieval.listens {V : Type} : Retrieval V → Bool
  | .succeeds => true
  | .fails _ => false

/-- How a call of the store listener ends.  A failed call may lose the stored record. -/
inductive Storing where
  | succeeds
  | fails (loses : Bool)
  deriving DecidableEq

/-- The answers of the data source during one tick, which happens at the time `now`. -/
structure Listeners (K V : Type) where
  retrieve : K → Retrieval V := fun _ => .succeeds
  store : K → Storing := fun _ => .succeeds
  delete : K → Bool := fun _ => true
  now : Nat := 0

/-- The storage with its data source.  The fields after `source` are the history: `contents` is what
the operations would make of a plain map, `held` are the keys of the records that were handed out,
`given` are the values that a key was given and `stored` the ones that were passed to the store
listener. -/
structure World (K V : Type) [Ord K] [Std.TransOrd K] [Inhabited V] extends DataStorage K V where
  source : K → Option V
  contents : K → Option V
  held : K → Bool := fun _ => false
  given : K → List V := fun _ => []
  stored : K → List V := fun _ => []

/-- A new storage over a data source. -/
def start {K V : Type} [Ord K] [Std.TransOrd K] [Inhabited V] (source : K → Option V) : World K V :=
  { source := source, contents := source }

namespace DataStorage

variable {K V : Type} [Ord K] [Std.TransOrd K] [DecidableEq K] [Inhabited V]

/-- `RequestRetrieve`. -/
def requestRetrieve (key : K) (world : World K V) : World K V :=
  { world with retrieveQueue := world.retrieveQueue.insert key }

/-- `RequestStore`. -/
def requestStore (key : K) (world : World K V) : World K V :=
  { world with storeQueue := world.storeQueue.insert key }

/-- `RequestDelete`. -/
def requestDelete (key : K) (world : World K V) : World K V :=
  { world with deleteQueue := world.deleteQueue.insert key }

/-- Hand out a record of the key. -/
def handOut (key : K) (world : World K V) : World K V :=
  { world with held := update world.held key true }

/-- `Create`, for what the supplier returned.  It throws, and changes nothing, when the key has an
entry. -/
def create (key : K) (value : V) (world : World K V) : World K V :=
  if key ∈ world.entries then world
  else
    handOut key (requestStore key { world with
      entries := world.entries.insert key { available := true, value := value }
      contents := update world.contents key (some value)
      given := update world.given key (value :: world.given key) })

/-- `Get`. -/
def get (key : K) (retrieve : Bool) (world : World K V) : World K V :=
  match world.entries[key]? with
  | none =>
    let created := { world with entries := world.entries.insert key {} }
    if retrieve then requestRetrieve key created else created
  | some entry => if entry.available then handOut key world else world

/-- `Record::Mutable`, for a record that was handed out.  A consumer that throws may have changed the
value, but the patch listener is not called then. -/
def mutate (key : K) (consumer : V → V) (throws : Bool) (world : World K V) : World K V :=
  if world.held key then
    let entry := world.entries[key]?.getD {}
    let value := consumer entry.value
    let patched := { world with
      entries := world.entries.insert key { entry with value := value }
      contents := update world.contents key ((world.contents key).map consumer)
      given := update world.given key (value :: world.given key) }
    if throws then patched else requestStore key patched
  else world

/-- `Delete`. -/
def delete (key : K) (world : World K V) : World K V :=
  requestDelete key { world with contents := update world.contents key none }

/-- `RetryRetrieve`. -/
def retryRetrieve (key : K) (world : World K V) : World K V := requestRetrieve key world

/-- A call of the retrieve listener: what it makes of the value, and whether it succeeded. -/
def retrieveListener (retrieval : Retrieval V) (source : Option V) (value : V) : V × Bool :=
  match retrieval, source with
  | .succeeds, some stored => (stored, true)
  | .succeeds, none => (value, false)
  | .fails leaves, _ => (leaves value, false)

/-- What `ProcessRetrieveQueue` makes of an entry. -/
def retrieveEntry (now : Nat) (retrieval : Retrieval V) (source : Option V) (entry : Entry V) :
    Entry V :=
  let (value, succeeded) := retrieveListener retrieval source entry.value
  if succeeded then { entry with value := value, available := true, retrieveFailureCount := 0 }
  else
    { entry with
      value := value
      retrieveFailureCount := entry.retrieveFailureCount + 1
      firstRetrieveFailure :=
        if entry.retrieveFailureCount = 0 then now else entry.firstRetrieveFailure }

/-- The body of `ProcessRetrieveQueue`.  Reading `_entries[key]` creates a missing entry. -/
def retrieveKey (listeners : Listeners K V) (world : World K V) (key : K) : World K V :=
  let entry := world.entries[key]?.getD {}
  { world with
    entries := world.entries.insert key
      (retrieveEntry listeners.now (listeners.retrieve key) (world.source key) entry) }

/-- What a call of the store listener makes of the record in the source. -/
def storeListener (storing : Storing) (source : Option V) (value : V) : Option V :=
  match storing with
  | .succeeds => some value
  | .fails loses => if loses then none else source

/-- The body of `ProcessStoreQueue`. -/
def storeKey (listeners : Listeners K V) (world : World K V) (key : K) : World K V :=
  let entry := world.entries[key]?.getD {}
  let touched := { world with entries := world.entries.insert key entry }
  if entry.available then
    { touched with
      source := update world.source key
        (storeListener (listeners.store key) (world.source key) entry.value)
      stored := update world.stored key (entry.value :: world.stored key) }
  else touched

/-- The body of `ProcessDeleteQueue`. -/
def deleteKey (listeners : Listeners K V) (world : World K V) (key : K) : World K V :=
  let entry := world.entries[key]?.getD {}
  if entry.available && listeners.delete key then
    { world with
      entries := world.entries.insert key { entry with available := false }
      source := update world.source key none }
  else { world with entries := world.entries.insert key entry }

/-- `ProcessRetrieveQueue`. -/
def processRetrieveQueue (listeners : Listeners K V) (world : World K V) : World K V :=
  if world.retrieveQueue.dataFlag then
    { world.retrieveQueue.data.foldl (retrieveKey listeners) world with retrieveQueue := {} }
  else world

/-- `ProcessStoreQueue`. -/
def processStoreQueue (listeners : Listeners K V) (world : World K V) : World K V :=
  if world.storeQueue.dataFlag then
    { world.storeQueue.data.foldl (storeKey listeners) world with storeQueue := {} }
  else world

/-- `ProcessDeleteQueue`. -/
def processDeleteQueue (listeners : Listeners K V) (world : World K V) : World K V :=
  if world.deleteQueue.dataFlag then
    { world.deleteQueue.data.foldl (deleteKey listeners) world with deleteQueue := {} }
  else world

/-- `Tick`. -/
def tick (listeners : Listeners K V) (world : World K V) : World K V :=
  processDeleteQueue listeners (processStoreQueue listeners (processRetrieveQueue listeners world))

/-- `Terminate`: every available record is stored. -/
def terminate (listeners : Listeners K V) (world : World K V) : World K V :=
  let available := world.entries.toList.filter fun entry => entry.2.available
  let requested := available.foldl (fun world entry => requestStore entry.1 world) world
  { tick listeners requested with entries := ∅ }

end DataStorage

open DataStorage

/-- What a user of the storage does. -/
inductive Input (K V : Type) where
  | create (key : K) (value : V)
  | get (key : K) (retrieve : Bool)
  | mutate (key : K) (consumer : V → V) (throws : Bool)
  | delete (key : K)
  | retryRetrieve (key : K)
  | tick (listeners : Listeners K V)

variable {K V : Type} [Ord K] [Std.TransOrd K] [DecidableEq K] [Inhabited V]

def step (world : World K V) : Input K V → World K V
  | .create key value => DataStorage.create key value world
  | .get key retrieve => DataStorage.get key retrieve world
  | .mutate key consumer throws => DataStorage.mutate key consumer throws world
  | .delete key => DataStorage.delete key world
  | .retryRetrieve key => DataStorage.retryRetrieve key world
  | .tick listeners => DataStorage.tick listeners world

/-- What belongs to one key. -/
structure Cell (V : Type) [Inhabited V] where
  entry : Option (Entry V)
  retrieving : Bool
  storing : Bool
  deleting : Bool
  source : Option V
  contents : Option V
  held : Bool
  given : List V
  stored : List V

namespace Cell

variable {V : Type} [Inhabited V]

/-- The value of an available entry. -/
def value? (cell : Cell V) : Option V :=
  cell.entry.bind fun entry => if entry.available then some entry.value else none

/-- The part of `ProcessRetrieveQueue` that concerns the key. -/
def retrieve (now : Nat) (retrieval : Retrieval V) (cell : Cell V) : Cell V :=
  { cell with
    entry := some (DataStorage.retrieveEntry now retrieval cell.source (cell.entry.getD {})) }

/-- The part of `ProcessStoreQueue` that concerns the key. -/
def store (storing : Storing) (cell : Cell V) : Cell V :=
  let entry := cell.entry.getD {}
  if entry.available then
    { cell with
      entry := some entry
      source := DataStorage.storeListener storing cell.source entry.value
      stored := entry.value :: cell.stored }
  else { cell with entry := some entry }

/-- The part of `ProcessDeleteQueue` that concerns the key. -/
def delete (succeeds : Bool) (cell : Cell V) : Cell V :=
  let entry := cell.entry.getD {}
  if entry.available && succeeds then
    { cell with entry := some { entry with available := false }, source := none }
  else { cell with entry := some entry }

/-- `Create`. -/
def create (value : V) (cell : Cell V) : Cell V :=
  if cell.entry.isSome then cell
  else
    { cell with
      entry := some { available := true, value := value }
      storing := true
      contents := some value
      held := true
      given := value :: cell.given }

/-- `Get`. -/
def get (retrieve : Bool) (cell : Cell V) : Cell V :=
  match cell.entry with
  | none => { cell with entry := some {}, retrieving := cell.retrieving || retrieve }
  | some entry => if entry.available then { cell with held := true } else cell

/-- `Mutable`. -/
def mutate (consumer : V → V) (throws : Bool) (cell : Cell V) : Cell V :=
  if cell.held then
    let entry := cell.entry.getD {}
    { cell with
      entry := some { entry with value := consumer entry.value }
      storing := cell.storing || !throws
      contents := cell.contents.map consumer
      given := consumer entry.value :: cell.given }
  else cell

def processRetrieve (now : Nat) (retrieval : Retrieval V) (cell : Cell V) : Cell V :=
  { if cell.retrieving then cell.retrieve now retrieval else cell with retrieving := false }

def processStore (storing : Storing) (cell : Cell V) : Cell V :=
  { if cell.storing then cell.store storing else cell with storing := false }

def processDelete (succeeds : Bool) (cell : Cell V) : Cell V :=
  { if cell.deleting then cell.delete succeeds else cell with deleting := false }

/-- The part of a tick that concerns the key. -/
def tick (now : Nat) (retrieval : Retrieval V) (storing : Storing) (deletes : Bool)
    (cell : Cell V) : Cell V :=
  ((cell.processRetrieve now retrieval).processStore storing).processDelete deletes

end Cell

variable {K V : Type} [Ord K] [Std.TransOrd K] [DecidableEq K] [Inhabited V]

/-- What belongs to a key in a storage. -/
def cell (key : K) (world : World K V) : Cell V where
  entry := world.entries[key]?
  retrieving := key ∈ world.retrieveQueue.data
  storing := key ∈ world.storeQueue.data
  deleting := key ∈ world.deleteQueue.data
  source := world.source key
  contents := world.contents key
  held := world.held key
  given := world.given key
  stored := world.stored key

section Loops

variable [Std.LawfulEqOrd K] (listeners : Listeners K V) (world : World K V) (key other : K)

theorem cell_retrieveKey : cell other (retrieveKey listeners world key) =
    if other = key then (cell key world).retrieve listeners.now (listeners.retrieve key)
    else cell other world := by
  unfold retrieveKey cell Cell.retrieve
  by_cases h : other = key
  · subst h
    simp
  · simp [h, ExtTreeMap.getElem?_insert, Ne.symm h]

theorem cell_storeKey : cell other (storeKey listeners world key) =
    if other = key then (cell key world).store (listeners.store key) else cell other world := by
  unfold storeKey cell Cell.store
  by_cases h : other = key
  · subst h
    cases hentry : (world.entries[other]?.getD {}).available <;> simp [hentry]
  · cases hentry : (world.entries[key]?.getD {}).available <;>
      simp [h, hentry, ExtTreeMap.getElem?_insert, Ne.symm h]

theorem cell_deleteKey : cell other (deleteKey listeners world key) =
    if other = key then (cell key world).delete (listeners.delete key) else cell other world := by
  unfold deleteKey cell Cell.delete
  by_cases h : other = key
  · subst h
    cases hentry : (world.entries[other]?.getD {}).available && listeners.delete other <;>
      simp [hentry]
  · cases hentry : (world.entries[key]?.getD {}).available && listeners.delete key <;>
      simp [h, hentry, ExtTreeMap.getElem?_insert, Ne.symm h]

theorem cell_processRetrieveQueue : cell key (processRetrieveQueue listeners world) =
    (cell key world).processRetrieve listeners.now (listeners.retrieve key) := by
  have hclear : ∀ after : World K V, cell key { after with retrieveQueue := {} } =
      { cell key after with retrieving := false } := fun after => by simp [cell]
  have hidle : key ∉ world.retrieveQueue.data →
      { cell key world with retrieving := false } = cell key world := by
    intro hnone
    simp [cell, hnone]
  refine (world.retrieveQueue.process_of_local cell
    (fun key cell => cell.retrieve listeners.now (listeners.retrieve key))
    (cell_retrieveKey listeners) (fun cell => { cell with retrieving := false }) hclear hidle).trans ?_
  simp [Cell.processRetrieve, cell]

theorem cell_processStoreQueue : cell key (processStoreQueue listeners world) =
    (cell key world).processStore (listeners.store key) := by
  have hclear : ∀ after : World K V, cell key { after with storeQueue := {} } =
      { cell key after with storing := false } := fun after => by simp [cell]
  have hidle : key ∉ world.storeQueue.data →
      { cell key world with storing := false } = cell key world := by
    intro hnone
    simp [cell, hnone]
  refine (world.storeQueue.process_of_local cell
    (fun key cell => cell.store (listeners.store key)) (cell_storeKey listeners)
    (fun cell => { cell with storing := false }) hclear hidle).trans ?_
  simp [Cell.processStore, cell]

theorem cell_processDeleteQueue : cell key (processDeleteQueue listeners world) =
    (cell key world).processDelete (listeners.delete key) := by
  have hclear : ∀ after : World K V, cell key { after with deleteQueue := {} } =
      { cell key after with deleting := false } := fun after => by simp [cell]
  have hidle : key ∉ world.deleteQueue.data →
      { cell key world with deleting := false } = cell key world := by
    intro hnone
    simp [cell, hnone]
  refine (world.deleteQueue.process_of_local cell
    (fun key cell => cell.delete (listeners.delete key)) (cell_deleteKey listeners)
    (fun cell => { cell with deleting := false }) hclear hidle).trans ?_
  simp [Cell.processDelete, cell]

/-- A tick works on every key by itself. -/
theorem cell_tick : cell key (tick listeners world) =
    (cell key world).tick listeners.now (listeners.retrieve key) (listeners.store key)
      (listeners.delete key) := by
  rw [tick, cell_processDeleteQueue, cell_processStoreQueue, cell_processRetrieveQueue]
  rfl

end Loops

/-! ## The operations -/

section Operations

variable (world : World K V) (key other : K)

theorem cell_requestStore : cell other (requestStore key world) =
    if other = key then { cell key world with storing := true } else cell other world := by
  unfold requestStore cell
  by_cases h : other = key
  · subst h
    simp
  · simp [h]

theorem cell_requestRetrieve : cell other (requestRetrieve key world) =
    if other = key then { cell key world with retrieving := true } else cell other world := by
  unfold requestRetrieve cell
  by_cases h : other = key
  · subst h
    simp
  · simp [h]

/-- Requesting a store of every available record. -/
theorem cell_requestStores (available : List (K × Entry V)) :
    cell other (available.foldl (fun world entry => requestStore entry.1 world) world) =
      { cell other world with
        storing := (cell other world).storing || decide (other ∈ available.map Prod.fst) } := by
  induction available generalizing world with
  | nil => simp
  | cons entry rest ih =>
    rw [List.foldl_cons, ih, cell_requestStore]
    by_cases h : other = entry.1
    · subst h
      simp
    · have hrest : other ∈ (entry :: rest).map Prod.fst ↔ other ∈ rest.map Prod.fst := by
        simp only [List.map_cons, List.mem_cons, h, false_or]
      simp only [h, if_false, hrest]

variable [Std.LawfulEqOrd K]

theorem cell_create (value : V) : cell other (create key value world) =
    if other = key then (cell key world).create value else cell other world := by
  unfold create Cell.create
  cases hentry : world.entries[key]? with
  | some entry =>
    have hmem : key ∈ world.entries :=
      ExtTreeMap.mem_iff_isSome_getElem?.2 (Option.isSome_of_eq_some hentry)
    rw [if_pos hmem]
    by_cases h : other = key
    · subst h
      simp [cell, hentry]
    · simp [h]
  | none =>
    have hmem : key ∉ world.entries := by
      rw [ExtTreeMap.mem_iff_isSome_getElem?, hentry]
      simp
    rw [if_neg hmem]
    by_cases h : other = key
    · subst h
      simp [cell, hentry, handOut, requestStore]
      exact ⟨rfl, rfl⟩
    · simp [cell, h, handOut, requestStore,
        ExtTreeMap.getElem?_insert, Ne.symm h]
      exact ⟨rfl, rfl⟩

theorem cell_get (retrieve : Bool) : cell other (DataStorage.get key retrieve world) =
    if other = key then (cell key world).get retrieve else cell other world := by
  unfold DataStorage.get Cell.get
  cases hentry : world.entries[key]? with
  | some entry =>
    by_cases h : other = key
    · subst h
      cases havailable : entry.available <;>
        simp [cell, hentry, havailable, DataStorage.handOut]
    · cases havailable : entry.available <;> simp [cell, h, havailable, DataStorage.handOut]
  | none =>
    by_cases h : other = key
    · subst h
      cases retrieve <;> simp [cell, hentry, DataStorage.requestRetrieve]
    · cases retrieve <;> simp [cell, h, DataStorage.requestRetrieve,
        ExtTreeMap.getElem?_insert, Ne.symm h]

theorem cell_mutate (consumer : V → V) (throws : Bool) :
    cell other (mutate key consumer throws world) =
      if other = key then (cell key world).mutate consumer throws else cell other world := by
  unfold mutate Cell.mutate
  cases hheld : world.held key with
  | false =>
    by_cases h : other = key
    · subst h
      simp [cell, hheld]
    · simp [h]
  | true =>
    by_cases h : other = key
    · subst h
      cases throws <;> simp [cell, hheld, requestStore]
    · cases throws <;> simp [cell, h, requestStore,
        ExtTreeMap.getElem?_insert, Ne.symm h]

omit [Std.LawfulEqOrd K] in
theorem cell_delete : cell other (delete key world) =
    if other = key then { cell key world with deleting := true, contents := none }
    else cell other world := by
  unfold delete requestDelete
  by_cases h : other = key
  · subst h
    simp [cell]
  · simp [cell, h]

end Operations

/-! ## The keys of a run -/

/-- What an input makes of the cell of a key.  An input for another key leaves it alone. -/
def Cell.step (key : K) (cell : Cell V) : Input K V → Cell V
  | .create other value => if key = other then cell.create value else cell
  | .get other retrieve => if key = other then cell.get retrieve else cell
  | .mutate other consumer throws => if key = other then cell.mutate consumer throws else cell
  | .delete other => if key = other then { cell with deleting := true, contents := none } else cell
  | .retryRetrieve other => if key = other then { cell with retrieving := true } else cell
  | .tick listeners =>
    cell.tick listeners.now (listeners.retrieve key) (listeners.store key) (listeners.delete key)

variable [Std.LawfulEqOrd K]

theorem cell_step (key : K) (world : World K V) (input : Input K V) :
    cell key (step world input) = (cell key world).step key input := by
  have hkey (other : K) (change : Cell V → Cell V) :
      (if key = other then change (cell other world) else cell key world) =
        if key = other then change (cell key world) else cell key world := by
    split
    · next heq => rw [heq]
    · rfl
  cases input with
  | create other value => exact (cell_create world other key value).trans (hkey other (.create value))
  | get other retrieve => exact (cell_get world other key retrieve).trans (hkey other (.get retrieve))
  | mutate other consumer throws =>
    exact (cell_mutate world other key consumer throws).trans (hkey other (.mutate consumer throws))
  | delete other =>
    exact (cell_delete world other key).trans
      (hkey other fun cell => { cell with deleting := true, contents := none })
  | retryRetrieve other =>
    exact (cell_requestRetrieve world other key).trans
      (hkey other fun cell => { cell with retrieving := true })
  | tick listeners => exact cell_tick listeners world key

/-- A storage is a family of cells: each makes its own run, whatever is done to the other keys in
between. -/
theorem cell_run (key : K) (world : World K V) (inputs : List (Input K V)) :
    cell key (run step world inputs) = run (Cell.step key) (cell key world) inputs := by
  induction inputs generalizing world with
  | nil => rfl
  | cons input rest ih => rw [run_cons, run_cons, ih, cell_step]

theorem cell_run_other : cell 1 (run step (start fun _ => none) [.create 1 7, .delete 2]) =
    run (Cell.step 1) (cell 1 (start fun _ => none)) [.create (1 : Nat) 7, .delete 2] :=
  cell_run 1 (start fun _ => none : World Nat Nat) [.create 1 7, .delete 2]

end Alicia.Data
