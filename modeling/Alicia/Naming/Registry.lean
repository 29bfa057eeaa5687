import Alicia.Data.Definitions
import Alicia.Text.Regex
import Alicia.Transition.Run
import Mathlib.Logic.Function.Basic

/-!
# Names of characters and guilds

The names in the record files and in the storage, and the handlers that check and assign them.  A check,
a creation, a patch and a store are separate steps, and the steps of different handlers and of the ticks
may come in any order.  Which records a tick works on is left open.
-/

namespace Alicia.Naming

open Std (ExtTreeMap)
open Data (Uid invalidUid)

/-! ## The files -/

/-- The content of a record file, as far as it matters for the names. -/
inductive RecordFile
  | malformed
  | document (uid : Uid) (name : Text)
  deriving DecidableEq

/-- The files of a directory by the uid that names them. -/
abbrev Directory := ExtTreeMap Uid RecordFile

/-- The loop of `RetrieveCharacterUidByName`.  A file that cannot be parsed throws. -/
def findCharacter (opens : Uid → Bool) (rg : Regex.Pattern UInt8) :
    List (Uid × RecordFile) → Option Uid
  | [] => some invalidUid
  | (key, file) :: rest =>
    if opens key then
      match file with
      | .malformed => none
      | .document uid existing =>
        if rg.Matches Regex.lower existing then some uid else findCharacter opens rg rest
    else findCharacter opens rg rest

/-- `RetrieveCharacterUidByName`. -/
def retrieveCharacterUidByName (opens : Uid → Bool) (files : Directory) (name : Text) : Option Uid :=
  (Regex.compile name).bind fun rg => findCharacter opens rg files.toList

/-- `IsCharacterNameUnique`. -/
def isCharacterNameUnique (opens : Uid → Bool) (files : Directory) (name : Text) : Option Bool :=
  (retrieveCharacterUidByName opens files name).map fun uid => uid = invalidUid

def equalsIgnoreCase (lhs rhs : Text) : Bool := lhs.map Regex.lower = rhs.map Regex.lower

/-- `IsGuildNameUnique`, which skips what it cannot parse. -/
def isGuildNameUnique (opens : Uid → Bool) (files : Directory) (name : Text) : Bool :=
  files.toList.all fun (key, file) =>
    match file with
    | .malformed => true
    | .document _ existing => !opens key || !equalsIgnoreCase existing name

/-! ## The handlers -/

inductive Kind
  | character
  | guild
  deriving DecidableEq

/-- The check lets the handler go on. -/
def Kind.isUnique (opens : Uid → Bool) (files : Directory) (name : Text) : Kind → Bool
  | character => isCharacterNameUnique opens files name = some true
  | guild => isGuildNameUnique opens files name

/-- The name that the patch of a created record leaves. -/
def Kind.assign (old name : Text) : Kind → Text
  | character => if old.isEmpty then name else old
  | guild => name

/-- What `IsNameValid` requires of the bytes of a name.  The ranges of the Hangul syllables and the lengths
are among what a handler may reject besides. -/
def isNameValid (name : Text) : Bool :=
  !name.isEmpty && name.all fun b =>
    128 ≤ b || Regex.isDigit b || (65 ≤ b && b ≤ 90) || (97 ≤ b && b ≤ 122) ||
      b ∈ [Regex.groupBegin, Regex.groupEnd, Regex.bracketBegin, Regex.bracketEnd,
        Regex.intervalBegin, Regex.intervalEnd]

inductive Purpose
  | create
  | rename (uid : Uid)
  deriving DecidableEq

/-- A handler between its steps. -/
inductive Task
  | checked (purpose : Purpose) (name : Text)
  | created (uid : Uid) (name : Text)
  deriving DecidableEq

structure Entry where
  available : Bool := false
  name : Text := []
  deriving DecidableEq

/-- The names of one kind of records. -/
structure Registry where
  files : Directory := ∅
  entries : Uid → Option Entry := fun _ => none
  sequentialUid : Uid := 0
  tasks : Nat → Option Task := fun _ => none

inductive StoreOutcome
  | failed
  | written
  /-- A text of the record is not UTF-8. -/
  | truncated
  deriving DecidableEq

inductive RecordStep
  /-- `Get`. -/
  | lookup (uid : Uid)
  | retrieve (uid : Uid) (opens : Bool)
  | store (uid : Uid) (outcome : StoreOutcome)
  | create (task : Nat)
  | patch (task : Nat)
  | cancel (task : Nat)

namespace Registry

def setEntry (registry : Registry) (uid : Uid) (entry : Entry) : Registry :=
  { registry with entries := Function.update registry.entries uid (some entry) }

def setTask (registry : Registry) (task : Nat) (phase : Option Task) : Registry :=
  { registry with tasks := Function.update registry.tasks task phase }

/-- The name of an available record. -/
def setName (registry : Registry) (uid : Uid) (name : Text → Text) : Registry :=
  match registry.entries uid with
  | some ⟨true, old⟩ => registry.setEntry uid { available := true, name := name old }
  | _ => registry

def lookup (registry : Registry) (uid : Uid) : Registry :=
  match registry.entries uid with
  | none => registry.setEntry uid {}
  | some _ => registry

def retrieve (registry : Registry) (uid : Uid) (opens : Bool) : Registry :=
  match registry.entries uid, registry.files[uid]?, opens with
  | some ⟨false, _⟩, some (.document _ name), true =>
    registry.setEntry uid { available := true, name := name }
  | _, _, _ => registry

def store (registry : Registry) (uid : Uid) (outcome : StoreOutcome) : Registry :=
  match registry.entries uid, outcome with
  | some ⟨true, name⟩, .written =>
    { registry with files := registry.files.insert uid (.document uid name) }
  | some ⟨true, _⟩, .truncated => { registry with files := registry.files.insert uid .malformed }
  | _, _ => registry

/-- A handler up to its check.  `accepted` stands for what else it requires. -/
def check (kind : Kind) (registry : Registry) (task : Nat) (purpose : Purpose) (name : Text)
    (accepted : Bool) (opens : Uid → Bool) : Registry :=
  if registry.tasks task = none ∧ accepted ∧ isNameValid name ∧
      kind.isUnique opens registry.files name then
    registry.setTask task (some (.checked purpose name))
  else registry

/-- The creation of a record, which throws if there is an entry of its uid. -/
def create (registry : Registry) (task : Nat) : Registry :=
  match registry.tasks task with
  | some (.checked .create name) =>
    let uid := registry.sequentialUid + 1
    let registry := { registry with sequentialUid := uid }
    match registry.entries uid with
    | none => (registry.setEntry uid { available := true }).setTask task (some (.created uid name))
    | some _ => registry.setTask task none
  | _ => registry

/-- The patch that assigns the name. -/
def patch (kind : Kind) (registry : Registry) (task : Nat) : Registry :=
  match registry.tasks task with
  | some (.created uid name) =>
    (registry.setName uid fun old => kind.assign old name).setTask task none
  | some (.checked (.rename uid) name) => (registry.setName uid fun _ => name).setTask task none
  | _ => registry

def step (kind : Kind) (registry : Registry) : RecordStep → Registry
  | .lookup uid => registry.lookup uid
  | .retrieve uid opens => registry.retrieve uid opens
  | .store uid outcome => registry.store uid outcome
  | .create task => registry.create task
  | .patch task => registry.patch kind task
  | .cancel task => registry.setTask task none

end Registry

structure World where
  characters : Registry := {}
  guilds : Registry := {}

inductive NameStep
  | createNickname (task : Nat) (nickname : Text) (accepted : Bool) (opens : Uid → Bool)
  | changeNickname (task : Nat) (characterUid : Uid) (newNickname : Text) (accepted : Bool)
    (opens : Uid → Bool)
  | createGuild (task : Nat) (name : Text) (accepted : Bool) (opens : Uid → Bool)
  | character (step : RecordStep)
  | guild (step : RecordStep)

def World.step (world : World) : NameStep → World
  | .createNickname task nickname accepted opens =>
    { world with
      characters := world.characters.check .character task .create nickname accepted opens }
  | .changeNickname task characterUid newNickname accepted opens =>
    { world with
      characters :=
        world.characters.check .character task (.rename characterUid) newNickname accepted opens }
  | .createGuild task name accepted opens =>
    { world with guilds := world.guilds.check .guild task .create name accepted opens }
  | .character step => { world with characters := world.characters.step .character step }
  | .guild step => { world with guilds := world.guilds.step .guild step }

end Alicia.Naming
