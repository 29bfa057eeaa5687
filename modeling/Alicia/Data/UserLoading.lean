import Alicia.Collection.Keyed
import Alicia.Data.Definitions
import Alicia.Transition.Effect
import Alicia.Transition.Run
import Mathlib.Logic.Function.Basic

/-!
# Loading a user

The user storage over the files of the users directory.  A file belongs to a name; whether it can be
opened may be different at every attempt.

What the user storage keeps of the accounts in the users directory.  What is known about a name is local
to it: its file, its entry and its account.  A name is held by an available entry, which is the account,
or its file is the one from the beginning.
-/

namespace Alicia.Data

open Transition Function Option
open Collection (KeyQueue)
open Chrono (TimePoint Seconds)

/-! ## The files -/

/-- A member of a JSON object, as `value` with a default reads it. -/
inductive Member (α : Type)
  | absent
  | mistyped
  | given (value : α)
  deriving DecidableEq

/-- The value of the member, or a type error. -/
def Member.value {α : Type} (default : α) : Member α → Option α
  | absent => some default
  | mistyped => none
  | given value => some value

structure UserDocument where
  name : Member Text := .absent
  token : Member Text := .absent
  characterUid : Member Uid := .absent
  infractions : Member (List Uid) := .absent
  lastSeenOnline : Member Seconds := .absent
  deriving DecidableEq

/-- The content of a file.  What is not a JSON object has a `name` that cannot be read. -/
inductive UserFile
  | malformed
  | document (document : UserDocument)
  deriving DecidableEq

/-- `RetrieveUser`.  A failure leaves the members that were read before it. -/
def retrieveUser (name : Text) (file : Option UserFile) (opens : Bool) : Effect User Unit Unit := do
  modify fun user => { user with name := name }
  match file, opens with
  | some (.document document), true =>
    let name ← Effect.ofOption () (document.name.value [])
    modify fun user => { user with name := name }
    let token ← Effect.ofOption () (document.token.value [])
    modify fun user => { user with token := token }
    let characterUid ← Effect.ofOption () (document.characterUid.value invalidUid)
    modify fun user => { user with characterUid := characterUid }
    let infractions ← Effect.ofOption () (document.infractions.value [])
    modify fun user => { user with infractions := infractions }
    let lastSeenOnline ← Effect.ofOption () (document.lastSeenOnline.value 0)
    modify fun user => { user with lastSeenOnline := .ofSeconds lastSeenOnline }
  | _, _ => throw ()

/-- The document that `StoreUser` writes. -/
def userDocument (user : User) : UserDocument where
  name := .given user.name
  token := .given user.token
  characterUid := .given user.characterUid
  infractions := .given user.infractions
  lastSeenOnline := .given user.lastSeenOnline.ceilSeconds

/-- `StoreUser`, for the file that it leaves.  A text that is not UTF-8 throws when the file is
truncated already. -/
def storeUser (user : User) (opens : Bool) (file : Option UserFile) : Option UserFile :=
  if opens then
    if user.name.IsValid ∧ user.token.IsValid then some (.document (userDocument user))
    else some .malformed
  else file

/-- The account that a file holds. -/
def accountOf (name : Text) (file : Option UserFile) : Option User :=
  match retrieveUser name file true {} with
  | .ok _ user => some user
  | .error _ _ => none

/-! ## The storage -/

structure UserEntry where
  available : Bool := false
  value : User := {}
  deriving DecidableEq

/-- The user storage and the users directory.  The last fields are history variables: the files at the
beginning, the accounts as they should be, and the names whose load has completed. -/
structure UserStore where
  files : Text → Option UserFile
  entries : Text → Option UserEntry := fun _ => none
  retrieveQueue : KeyQueue Text := {}
  storeQueue : KeyQueue Text := {}
  start : Text → Option UserFile := files
  account : Text → Option User := fun name => accountOf name (files name)
  loaded : List Text := []

inductive UserStep
  /-- `GetUser`. -/
  | lookup (name : Text)
  /-- A run of the job of `ScheduleUserLoad`.  The infractions are told by which of them are damaged and
  which are available. -/
  | load (name : Text) (opens : Bool) (damaged available : Uid → Bool)
  /-- A change through a record; the consumer may throw after it. -/
  | mutate (name : Text) (change : User → User) (throws : Bool)
  /-- `Save`. -/
  | save (name : Text)
  /-- `Tick`, for the files that can be opened for reading and for writing. -/
  | tick (reads writes : Text → Bool)

namespace UserStore

def requestStore (store : UserStore) (key : Text) : UserStore :=
  { store with storeQueue := store.storeQueue.insert key }

def setEntry (store : UserStore) (key : Text) (entry : UserEntry) : UserStore :=
  { store with entries := update store.entries key (some entry) }

/-- `Get`. -/
def get (store : UserStore) (key : Text) : UserStore :=
  match store.entries key with
  | none => { store.setEntry key {} with retrieveQueue := store.retrieveQueue.insert key }
  | some _ => store

/-- `GetOrCreate`, for what the supplier returned. -/
def getOrCreate (store : UserStore) (key : Text) (user : User) : UserStore :=
  match store.entries key with
  | none => (store.setEntry key { available := true, value := user }).requestStore key
  | some _ => store

/-- What the supplier of the load returns: the user in the file, or a user of that name. -/
def supply (store : UserStore) (name : Text) (opens : Bool) : User :=
  match retrieveUser name (store.files name) opens {} with
  | .ok _ user => user
  | .error _ user => { user with name := name }

/-- A change of the user in an available entry, which is a change of the account. -/
def changeUser (store : UserStore) (name : Text) (change : User → User) : UserStore :=
  match store.entries name with
  | some ⟨true, user⟩ =>
    { store.setEntry name { available := true, value := { change user with name := user.name } } with
      account := update store.account name
        ((store.account name).map fun user => { change user with name := user.name }) }
  | _ => store

/-- `Record::Mutable`.  Only an available entry has a record. -/
def mutate (store : UserStore) (name : Text) (change : User → User) (throws : Bool) : UserStore :=
  if throws then store.changeUser name change else (store.changeUser name change).requestStore name

def userOf (store : UserStore) (name : Text) : User := ((store.entries name).getD {}).value

/-- `CleanseUserReferences`. -/
def cleanse (store : UserStore) (name : Text) (damaged : Uid → Bool) : UserStore :=
  let store := store.get name
  if ((store.entries name).any fun entry => entry.available && entry.value.infractions.any damaged) then
    store.mutate name
      (fun user => { user with infractions := user.infractions.filter fun uid => !damaged uid }) false
  else store

/-- A name without a file has a fresh account from its first load on. -/
def openAccount (store : UserStore) (name : Text) : UserStore :=
  if store.files name = none ∧ store.account name = none then
    { store with account := update store.account name (some { name := name }) }
  else store

/-- The job of `ScheduleUserLoad`. -/
def load (store : UserStore) (name : Text) (opens : Bool) (damaged available : Uid → Bool) : UserStore :=
  let user := store.supply name opens
  let store := ((store.openAccount name).getOrCreate user.name user).cleanse name damaged
  if (store.userOf user.name).infractions.all available then
    { store with loaded := name :: store.loaded }
  else store

/-- The body of `ProcessRetrieveQueue`. -/
def retrieveKey (reads : Text → Bool) (store : UserStore) (key : Text) : UserStore :=
  let entry := (store.entries key).getD {}
  match retrieveUser key (store.files key) (reads key) entry.value with
  | .ok _ user => store.setEntry key { available := true, value := user }
  | .error _ user => store.setEntry key { entry with value := user }

/-- The body of `ProcessStoreQueue`.  The file is named by the user and not by the key. -/
def storeKey (writes : Text → Bool) (store : UserStore) (key : Text) : UserStore :=
  let entry := (store.entries key).getD {}
  let touched := store.setEntry key entry
  if entry.available then
    { touched with
      files := update store.files entry.value.name
        (storeUser entry.value (writes entry.value.name) (store.files entry.value.name)) }
  else touched

def processRetrieveQueue (store : UserStore) (reads : Text → Bool) : UserStore :=
  { store.retrieveQueue.data.foldl (retrieveKey reads) store with retrieveQueue := {} }

def processStoreQueue (store : UserStore) (writes : Text → Bool) : UserStore :=
  { store.storeQueue.data.foldl (storeKey writes) store with storeQueue := {} }

def step (store : UserStore) : UserStep → UserStore
  | .lookup name => store.get name
  | .load name opens damaged available => store.load name opens damaged available
  | .mutate name change throws => store.mutate name change throws
  | .save name => store.requestStore name
  | .tick reads writes => (store.processRetrieveQueue reads).processStoreQueue writes

end UserStore

/-! ## Retrieving a user -/

variable {opens : Bool} {user : User}

/-- What a completed retrieval reads does not depend on the destination. -/
theorem retrieveUser_ok {name : Text} {file : Option UserFile} {into : User}
    (h : retrieveUser name file opens into = .ok ⟨⟩ user) : accountOf name file = some user := by
  match file, opens with
  | none, opens => cases h
  | some .malformed, opens => cases opens <;> cases h
  | some (.document document), false => cases h
  | some (.document document), true =>
    have hread : ∀ start, retrieveUser name (some (.document document)) true start =
        retrieveUser name (some (.document document)) true {} ∨
        ∃ left, retrieveUser name (some (.document document)) true start = .error () left := by
      intro start
      simp only [retrieveUser, Effect.bind_apply, Effect.modify_apply]
      cases document.name.value [] with
      | none => exact .inr ⟨_, rfl⟩
      | some _ =>
      cases document.token.value [] with
      | none => exact .inr ⟨_, rfl⟩
      | some _ =>
      cases document.characterUid.value invalidUid with
      | none => exact .inr ⟨_, rfl⟩
      | some _ =>
      cases document.infractions.value [] with
      | none => exact .inr ⟨_, rfl⟩
      | some _ =>
      cases document.lastSeenOnline.value 0 with
      | none => exact .inr ⟨_, rfl⟩
      | some _ => exact .inl rfl
    rcases hread into with hsame | ⟨left, hfails⟩
    · simp only [accountOf, ← hsame, h]
    · rw [h] at hfails
      cases hfails

/-! ## What is known about a name -/

/-- There is no such file, or it can be read. -/
def Readable (name : Text) (file : Option UserFile) : Prop :=
  file = none ∨ (accountOf name file).isSome

/-- The file, if it can be read, is about the name that it is stored under. -/
def Titled (name : Text) (file : Option UserFile) : Prop :=
  ∀ user ∈ accountOf name file, user.name = name

/-- The user in an entry, if it is available. -/
def heldUser : Option UserEntry → Option User
  | some ⟨true, user⟩ => some user
  | _ => none

/-- An available entry is the account of a file that could be read.  Without one the file was not
written. -/
def Settled (name : Text) (start file : Option UserFile) (account : Option User)
    (entry : Option UserEntry) : Prop :=
  match heldUser entry with
  | some user => user.name = name ∧ account = some user ∧ Readable name start ∧
      (Titled name start → Titled name file)
  | none => file = start ∧ account = accountOf name start

variable {entry : UserEntry}

theorem heldUser_unavailable (h : entry.available = false) :
    heldUser (some entry) = none := by
  obtain ⟨available, value⟩ := entry
  subst h
  rfl

namespace UserStore

variable {store : UserStore} {name key : Text}

/-- The user which the storage holds available under a name. -/
def held (store : UserStore) (name : Text) : Option User := heldUser (store.entries name)

/-- What `AreUserDataLoaded` promises, and that no file is lost which could not be read. -/
structure Kept (store : UserStore) : Prop where
  loaded : ∀ name ∈ store.loaded, ∃ user,
    store.held name = some user ∧ user.name = name ∧ store.account name = some user
  unread : ∀ name, store.files name ≠ store.start name → Readable name (store.start name) ∧ ∃ user,
    store.held name = some user ∧ store.account name = some user

/-- Nothing asked for the name before its load and the load can read the file, if there is one; and the
keys that are retrieved have files about them. -/
def Sound (store : UserStore) : UserStep → Prop
  | .load name opens _ _ => Titled name (store.start name) ∧
      ((store.held name).isSome ∨
        store.entries name = none ∧
          (store.files name = none ∨ opens = true ∧ (accountOf name (store.files name)).isSome))
  | .tick _ _ => ∀ key ∈ store.retrieveQueue.data, Titled key (store.start key)
  | _ => True

structure Accounted (store : UserStore) : Prop where
  settled : ∀ name, Settled name (store.start name) (store.files name) (store.account name)
    (store.entries name)
  loaded : ∀ name ∈ store.loaded, (store.held name).isSome

/-- The keys that wait for their retrieval have entries that are not available. -/
structure Ledger (store : UserStore) : Prop extends Accounted store where
  queued : ∀ key ∈ store.retrieveQueue.data, (store.entries key).isSome ∧ store.held key = none

namespace Accounted

theorem of_held (accounted : Accounted store) (h : store.held name = some user) :
    user.name = name ∧ store.account name = some user ∧ Readable name (store.start name) ∧
      (Titled name (store.start name) → Titled name (store.files name)) := by
  have hsettled := accounted.settled name
  rw [Settled, show heldUser (store.entries name) = some user from h] at hsettled
  exact hsettled

theorem of_unheld (accounted : Accounted store) (h : store.held name = none) :
    store.files name = store.start name ∧
      store.account name = accountOf name (store.start name) := by
  have hsettled := accounted.settled name
  rw [Settled, show heldUser (store.entries name) = none from h] at hsettled
  exact hsettled

theorem kept (accounted : Accounted store) : Kept store where
  loaded name hname := by
    obtain ⟨user, huser⟩ := isSome_iff_exists.1 (accounted.loaded name hname)
    obtain ⟨htitle, haccount, _⟩ := accounted.of_held huser
    exact ⟨user, huser, htitle, haccount⟩
  unread name hwritten := by
    cases hheld : store.held name with
    | none => exact absurd (accounted.of_unheld hheld).1 hwritten
    | some user =>
      obtain ⟨_, haccount, hread, _⟩ := accounted.of_held hheld
      exact ⟨hread, user, rfl, haccount⟩

theorem titled (accounted : Accounted store) (h : Titled name (store.start name)) :
    Titled name (store.files name) := by
  cases hheld : store.held name with
  | none => exact (accounted.of_unheld hheld).1 ▸ h
  | some user => exact (accounted.of_held hheld).2.2.2 h

/-- A change of one name, which is settled again and is not released. -/
theorem touch (accounted : Accounted store) (name : Text) {entries : Text → Option UserEntry}
    {files : Text → Option UserFile} {account : Text → Option User}
    (hsettled : Settled name (store.start name) (files name) (account name) (entries name))
    (hothers : ∀ other, other ≠ name → entries other = store.entries other ∧
      files other = store.files other ∧ account other = store.account other)
    (hheld : (store.held name).isSome → (heldUser (entries name)).isSome) :
    Accounted { store with entries := entries, files := files, account := account } where
  settled other := by
    by_cases hsame : other = name
    · subst hsame
      exact hsettled
    · obtain ⟨hentry, hfile, haccount⟩ := hothers other hsame
      have hother := accounted.settled other
      rw [← hentry, ← hfile, ← haccount] at hother
      exact hother
  loaded other hother := by
    by_cases hsame : other = name
    · subst hsame
      exact hheld (accounted.loaded other hother)
    · have hkept := accounted.loaded other hother
      rw [held, ← (hothers other hsame).1] at hkept
      exact hkept

/-- A new entry of a name whose file and account stay. -/
theorem setEntry (accounted : Accounted store)
    (hsettled : Settled key (store.start key) (store.files key) (store.account key) (some entry))
    (hheld : (store.held key).isSome → (heldUser (some entry)).isSome) :
    Accounted (store.setEntry key entry) := by
  apply accounted.touch key
  · rw [update_self]
    exact hsettled
  · intro other hother
    exact ⟨update_of_ne hother _ _, rfl, rfl⟩
  · rw [update_self]
    exact hheld

end Accounted

theorem entries_setEntry_self (store : UserStore) (key : Text) (entry : UserEntry) :
    (store.setEntry key entry).entries key = some entry := update_self ..

theorem held_setEntry_self (entry : UserEntry) :
    (store.setEntry key entry).held key = heldUser (some entry) :=
  congrArg heldUser (entries_setEntry_self store key entry)

theorem held_setEntry_of_ne (h : name ≠ key) :
    (store.setEntry key entry).held name = store.held name :=
  congrArg heldUser (update_of_ne h _ _)

namespace Ledger

theorem initial (files : Text → Option UserFile) : Ledger { files := files } where
  settled _ := ⟨rfl, rfl⟩
  loaded name hname := by cases hname
  queued key hkey := by cases hkey

/-- A queued key stays queued when another entry changes. -/
theorem queued_setEntry (ledger : Ledger store) (hname : name ∈ store.retrieveQueue.data)
    (hne : name ≠ key) :
    ((store.setEntry key entry).entries name).isSome ∧
      (store.setEntry key entry).held name = none := by
  obtain ⟨hentry, hunheld⟩ := ledger.queued name hname
  refine ⟨?_, (held_setEntry_of_ne hne).trans hunheld⟩
  rw [show (store.setEntry key entry).entries name = store.entries name from
    update_of_ne hne _ _]
  exact hentry

/-- A name without an entry is not queued. -/
theorem ne_of_queued (ledger : Ledger store) (hname : name ∈ store.retrieveQueue.data)
    (hentry : store.entries key = none) : name ≠ key := by
  rintro rfl
  have hsome := (ledger.queued name hname).1
  rw [hentry] at hsome
  cases hsome

theorem requestStore (ledger : Ledger store) (key : Text) : Ledger (store.requestStore key) :=
  ⟨⟨ledger.settled, ledger.loaded⟩, ledger.queued⟩

theorem get (ledger : Ledger store) (key : Text) : Ledger (store.get key) := by
  unfold UserStore.get
  cases hentry : store.entries key with
  | some _ => exact ledger
  | none =>
    have hunheld : store.held key = none := congrArg heldUser hentry
    have haccounted : Accounted (store.setEntry key {}) :=
      ledger.setEntry (ledger.of_unheld hunheld) fun hheld => by
        rw [hunheld] at hheld
        cases hheld
    refine ⟨⟨haccounted.settled, haccounted.loaded⟩, ?_⟩
    intro other hother
    rcases KeyQueue.mem_insert.1 hother with rfl | hother
    · exact ⟨isSome_of_eq_some (entries_setEntry_self ..), held_setEntry_self {}⟩
    · exact ledger.queued_setEntry hother (ledger.ne_of_queued hother hentry)

theorem changeUser (ledger : Ledger store) (name : Text) (change : User → User) :
    Ledger (store.changeUser name change) := by
  unfold UserStore.changeUser
  split
  next user hentry =>
    have hheld : store.held name = some user := congrArg heldUser hentry
    obtain ⟨htitle, haccount, hread, hfile⟩ := ledger.of_held hheld
    refine ⟨ledger.touch name ?_ ?_ ?_, ?_⟩
    · rw [update_self, entries_setEntry_self, haccount]
      exact ⟨htitle, rfl, hread, hfile⟩
    · intro other hother
      exact ⟨update_of_ne hother _ _, rfl, update_of_ne hother _ _⟩
    · intro _
      rw [entries_setEntry_self]
      rfl
    · intro key hkey
      have hne : key ≠ name := by
        rintro rfl
        cases hheld.symm.trans (ledger.queued key hkey).2
      exact ledger.queued_setEntry hkey hne
  next => exact ledger

theorem mutate (ledger : Ledger store) (name : Text) (change : User → User) (throws : Bool) :
    Ledger (store.mutate name change throws) := by
  unfold UserStore.mutate
  split
  · exact ledger.changeUser name change
  · exact (ledger.changeUser name change).requestStore name

theorem cleanse (ledger : Ledger store) (name : Text) (damaged : Uid → Bool) :
    Ledger (store.cleanse name damaged) := by
  unfold UserStore.cleanse
  dsimp only
  split
  · exact (ledger.get name).mutate name _ false
  · exact ledger.get name

end Ledger

/-! ## What stays held -/

theorem get_of_held (h : (store.held name).isSome) : store.get name = store := by
  unfold get
  cases hentry : store.entries name with
  | some _ => rfl
  | none =>
    rw [held, hentry] at h
    cases h

theorem held_changeUser (h : (store.held name).isSome) (change : User → User) :
    ((store.changeUser name change).held name).isSome := by
  unfold changeUser
  split
  · exact isSome_of_eq_some (held_setEntry_self _)
  · exact h

theorem held_cleanse (h : (store.held name).isSome) (damaged : Uid → Bool) :
    ((store.cleanse name damaged).held name).isSome := by
  unfold cleanse
  rw [get_of_held h]
  dsimp only
  split
  · exact held_changeUser h _
  · exact h

/-! ## The load -/

theorem supply_error (h : store.files name = none ∨ opens = false) :
    store.supply name opens = { name := name } := by
  unfold supply
  rcases h with h | rfl
  · rw [h]
    rfl
  · rcases store.files name with _ | _ | _ <;> rfl

theorem supply_of_account (hopens : opens = true)
    (haccount : accountOf name (store.files name) = some user) :
    store.supply name opens = user := by
  subst hopens
  unfold accountOf at haccount
  unfold supply
  split at haccount
  next => exact Option.some.inj haccount
  next => cases haccount

/-- A load makes a user of the name that it is for. -/
theorem supply_name (h : Titled name (store.files name)) (opens : Bool) :
    (store.supply name opens).name = name := by
  unfold supply
  split
  next user hread => exact h user (retrieveUser_ok hread)
  next => rfl

theorem openAccount_eq (store : UserStore) (name : Text) :
    store.openAccount name = { store with account := (store.openAccount name).account } := by
  unfold openAccount
  split <;> rfl

theorem openAccount_entries (store : UserStore) (name : Text) :
    (store.openAccount name).entries = store.entries := by rw [openAccount_eq]

theorem openAccount_account_of_ne {other : Text} (h : other ≠ name) :
    (store.openAccount name).account other = store.account other := by
  unfold openAccount
  split
  · exact update_of_ne h _ _
  · rfl

/-- The user which the load makes of a file that was not written is the account. -/
theorem openAccount_account (haccount : store.account name = accountOf name (store.files name))
    (hfile : store.files name = none ∨ opens = true ∧ (accountOf name (store.files name)).isSome) :
    (store.openAccount name).account name = some (store.supply name opens) := by
  unfold openAccount
  rcases hfile with hmissing | ⟨hopens, hread⟩
  · have hnone : store.account name = none := by
      rw [haccount, hmissing]
      rfl
    rw [if_pos ⟨hmissing, hnone⟩, supply_error (.inl hmissing)]
    exact update_self ..
  · obtain ⟨user, huser⟩ := isSome_iff_exists.1 hread
    have hsome : store.account name = some user := haccount.trans huser
    rw [if_neg (fun h => by rw [hsome] at h; cases h.2), hsome, supply_of_account hopens huser]

/-- The first part of a load leaves the user available under the name. -/
theorem Ledger.open (ledger : Ledger store) {damaged available : Uid → Bool}
    (hsound : Sound store (.load name opens damaged available)) :
    Ledger ((store.openAccount name).getOrCreate name (store.supply name opens)) ∧
      (((store.openAccount name).getOrCreate name (store.supply name opens)).held name).isSome := by
  obtain ⟨htitled, hheld | ⟨hentry, hfile⟩⟩ := hsound
  · obtain ⟨user, huser⟩ := isSome_iff_exists.1 hheld
    have haccount := (ledger.of_held huser).2.1
    have hopen : store.openAccount name = store := by
      unfold openAccount
      rw [haccount, if_neg (fun h => by cases h.2)]
    have hget : store.getOrCreate name (store.supply name opens) = store := by
      unfold getOrCreate
      cases hentry : store.entries name with
      | some _ => rfl
      | none =>
        rw [held, hentry] at hheld
        cases hheld
    rw [hopen, hget]
    exact ⟨ledger, hheld⟩
  · have hunheld : store.held name = none := congrArg heldUser hentry
    obtain ⟨hstart, haccount⟩ := ledger.of_unheld hunheld
    have hcreate : (store.openAccount name).getOrCreate name (store.supply name opens) =
        ((store.openAccount name).setEntry name
          { available := true, value := store.supply name opens }).requestStore name := by
      unfold getOrCreate
      rw [openAccount_entries, hentry]
    have haccounted : Accounted ((store.openAccount name).setEntry name
        { available := true, value := store.supply name opens }) := by
      rw [openAccount_eq]
      refine ledger.touch name ?_ ?_ ?_
      · rw [update_self]
        refine ⟨supply_name (hstart ▸ htitled) opens, ?_, ?_, fun _ => hstart ▸ htitled⟩
        · exact openAccount_account (haccount.trans (hstart ▸ rfl)) hfile
        · rw [← hstart]
          exact hfile.imp id And.right
      · intro other hother
        exact ⟨update_of_ne hother _ _, rfl, openAccount_account_of_ne hother⟩
      · intro hheld
        rw [hunheld] at hheld
        cases hheld
    rw [hcreate]
    refine ⟨⟨⟨haccounted.settled, haccounted.loaded⟩, ?_⟩, ?_⟩
    · intro key hkey
      rw [openAccount_eq] at hkey ⊢
      exact ledger.queued_setEntry hkey (ledger.ne_of_queued hkey hentry)
    · exact isSome_of_eq_some (held_setEntry_self _)

theorem Ledger.load (ledger : Ledger store) {damaged available : Uid → Bool}
    (hsound : Sound store (.load name opens damaged available)) :
    Ledger (store.load name opens damaged available) := by
  have hname := supply_name (ledger.titled hsound.1) opens
  obtain ⟨hopen, hheld⟩ := ledger.open hsound
  have hcleansed := hopen.cleanse name damaged
  have hstill := held_cleanse hheld damaged
  unfold UserStore.load
  dsimp only
  rw [hname]
  split
  · refine ⟨⟨hcleansed.settled, ?_⟩, hcleansed.queued⟩
    intro other hother
    rcases List.mem_cons.1 hother with rfl | hother
    · exact hstill
    · exact hcleansed.loaded other hother
  · exact hcleansed

/-! ## The tick -/

theorem Accounted.retrieveKey (accounted : Accounted store) (hunheld : store.held key = none)
    (htitled : Titled key (store.start key)) (reads : Text → Bool) :
    Accounted (store.retrieveKey reads key) := by
  obtain ⟨hstart, haccount⟩ := accounted.of_unheld hunheld
  unfold UserStore.retrieveKey
  dsimp only
  split
  next user hread =>
    have hfile : accountOf key (store.start key) = some user := hstart ▸ retrieveUser_ok hread
    apply accounted.setEntry
    · exact ⟨htitled user hfile, haccount.trans hfile, .inr (isSome_of_eq_some hfile),
        fun _ => hstart ▸ htitled⟩
    · intro _
      rfl
  next user _ =>
    have hleft : heldUser (some { (store.entries key).getD {} with value := user }) = none := by
      cases hentry : store.entries key with
      | none => rfl
      | some entry =>
        obtain ⟨available, value⟩ := entry
        cases available with
        | false => rfl
        | true => cases (congrArg heldUser hentry).symm.trans hunheld
    apply accounted.setEntry
    · rw [Settled, hleft]
      exact ⟨hstart, haccount⟩
    · intro hheld
      rw [hunheld] at hheld
      cases hheld

theorem retrieveKey_start (reads : Text → Bool) (store : UserStore) (key : Text) :
    (store.retrieveKey reads key).start = store.start := by
  unfold retrieveKey
  dsimp only
  split <;> rfl

theorem held_retrieveKey_of_ne (h : name ≠ key) (reads : Text → Bool) :
    (store.retrieveKey reads key).held name = store.held name := by
  unfold retrieveKey
  dsimp only
  split <;> exact held_setEntry_of_ne h

theorem Accounted.retrieveKeys (reads : Text → Bool) {keys : List Text} (hnodup : keys.Nodup)
    (accounted : Accounted store) (hunheld : ∀ key ∈ keys, store.held key = none)
    (htitled : ∀ key ∈ keys, Titled key (store.start key)) :
    Accounted (keys.foldl (UserStore.retrieveKey reads) store) := by
  induction keys generalizing store with
  | nil => exact accounted
  | cons key rest ih =>
    obtain ⟨hkey, hrest⟩ := List.nodup_cons.1 hnodup
    obtain ⟨hkeyUnheld, hrestUnheld⟩ := List.forall_mem_cons.1 hunheld
    obtain ⟨hkeyTitled, hrestTitled⟩ := List.forall_mem_cons.1 htitled
    apply ih hrest (accounted.retrieveKey hkeyUnheld hkeyTitled reads)
    · intro other hother
      have hne : other ≠ key := by
        rintro rfl
        exact hkey hother
      exact (held_retrieveKey_of_ne hne reads).trans (hrestUnheld other hother)
    · rw [retrieveKey_start]
      exact hrestTitled

theorem storeUser_titled {writes : Bool} {file : Option UserFile} (hname : user.name = name)
    (hfile : Titled name file) :
    Titled name (storeUser user writes file) := by
  subst hname
  unfold storeUser
  split
  · split
    · intro stored hstored
      cases hstored
      rfl
    · intro stored hstored
      cases hstored
  · exact hfile

theorem Accounted.storeKey (accounted : Accounted store) (writes : Text → Bool) (key : Text) :
    Accounted (store.storeKey writes key) := by
  unfold UserStore.storeKey
  dsimp only
  cases hheld : store.held key with
  | none =>
    have hleft : ((store.entries key).getD {}).available = false := by
      cases hentry : store.entries key with
      | none => rfl
      | some entry =>
        obtain ⟨available, value⟩ := entry
        cases available with
        | false => rfl
        | true => cases (congrArg heldUser hentry).symm.trans hheld
    rw [if_neg (by rw [hleft]; exact Bool.false_ne_true)]
    apply accounted.setEntry
    · rw [Settled, heldUser_unavailable hleft]
      exact accounted.of_unheld hheld
    · intro hsome
      rw [hheld] at hsome
      cases hsome
  | some user =>
    obtain ⟨hname, haccount, hread, hfile⟩ := accounted.of_held hheld
    have hentry : store.entries key = some ⟨true, user⟩ := by
      unfold held heldUser at hheld
      split at hheld
      next hentry =>
        rw [hentry, Option.some.inj hheld]
      next => cases hheld
    rw [hentry, getD_some, if_pos rfl, hname]
    refine accounted.touch key ?_ ?_ ?_
    · rw [update_self, entries_setEntry_self]
      exact ⟨hname, haccount, hread, fun htitled => storeUser_titled hname (hfile htitled)⟩
    · intro other hother
      exact ⟨update_of_ne hother _ _, update_of_ne hother _ _, rfl⟩
    · intro _
      rw [entries_setEntry_self]
      rfl

theorem Accounted.storeKeys (accounted : Accounted store) (writes : Text → Bool)
    (keys : List Text) : Accounted (keys.foldl (UserStore.storeKey writes) store) := by
  induction keys generalizing store with
  | nil => exact accounted
  | cons key rest ih => exact ih (accounted.storeKey writes key)

theorem storeKey_retrieveQueue (writes : Text → Bool) (keys : List Text) (store : UserStore) :
    (keys.foldl (UserStore.storeKey writes) store).retrieveQueue = store.retrieveQueue := by
  induction keys generalizing store with
  | nil => rfl
  | cons key rest ih =>
    rw [List.foldl_cons, ih]
    unfold storeKey
    dsimp only
    split <;> rfl

theorem Ledger.tick (ledger : Ledger store) (reads writes : Text → Bool)
    (htitled : ∀ key ∈ store.retrieveQueue.data, Titled key (store.start key)) :
    Ledger ((store.processRetrieveQueue reads).processStoreQueue writes) := by
  have hretrieved := Accounted.retrieveKeys reads store.retrieveQueue.nodup ledger.toAccounted
    (fun key hkey => (ledger.queued key hkey).2) htitled
  have hread : Accounted (store.processRetrieveQueue reads) :=
    ⟨hretrieved.settled, hretrieved.loaded⟩
  have hstored := hread.storeKeys writes (store.processRetrieveQueue reads).storeQueue.data
  refine ⟨⟨hstored.settled, hstored.loaded⟩, ?_⟩
  intro key hkey
  unfold processStoreQueue at hkey
  dsimp only at hkey
  rw [storeKey_retrieveQueue] at hkey
  cases hkey

theorem Ledger.step (ledger : Ledger store) (action : UserStep) (hsound : Sound store action) :
    Ledger (store.step action) := by
  cases action with
  | lookup name => exact ledger.get name
  | load name opens damaged available => exact ledger.load hsound
  | mutate name change throws => exact ledger.mutate name change throws
  | save name => exact ledger.requestStore name
  | tick reads writes => exact ledger.tick reads writes hsound

/-- In a run of sound steps over the files, every state keeps the accounts. -/
theorem accounts_kept (files : Text → Option UserFile) (steps first second : List UserStep)
    (hsound : Guarded step Sound { files := files } steps) (hsteps : steps = first ++ second) :
    Kept (run step { files := files } first) := by
  subst hsteps
  have hledger : Ledger (run step { files := files } first) :=
    (guarded_append.1 hsound).1.invariant (fun _ action ledger hgood => ledger.step action hgood)
      (Ledger.initial files)
  exact hledger.kept

/-- A new user is loaded and stored, and then loaded again. -/
theorem accounts_kept_fresh :
    Kept (run step { files := fun _ => none }
      [.load [65] true (fun _ => false) fun _ => true, .tick (fun _ => true) fun _ => true,
        .load [65] true (fun _ => false) fun _ => true]) := by
  refine accounts_kept (fun _ => none) _ _ [] ?_ (List.append_nil _).symm
  have hmissing : Titled [65] none := fun _ h => by cases h
  refine ⟨⟨hmissing, .inr ⟨rfl, .inl rfl⟩⟩, ?_, ⟨hmissing, .inl rfl⟩, trivial⟩
  intro key hkey
  cases hkey

/-- The load of a file that cannot be read makes a fresh user, which the next tick stores over it.  A
lookup before the load of a new name leaves an entry which never becomes available. -/
theorem unreadable_account :
    ¬ Kept (run step { files := fun _ => some .malformed }
        [.load [65] true (fun _ => false) fun _ => true, .tick (fun _ => true) fun _ => true]) ∧
      ¬ Kept (run step { files := fun _ => none }
        [.lookup [65], .load [65] true (fun _ => false) fun _ => true]) := by
  constructor
  · intro hkept
    obtain ⟨hread, _⟩ := hkept.unread [65] (by decide)
    rcases hread with hread | hread <;> cases hread
  · intro hkept
    obtain ⟨user, hheld, _⟩ := hkept.loaded [65] (List.mem_singleton_self _)
    cases hheld

end UserStore

end Alicia.Data
