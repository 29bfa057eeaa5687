import Alicia.Breeding.Attempts
import Alicia.Breeding.Market
import Alicia.Possession.Equipment

/-!
# The market and the horses

The market checks a registration under its lock, then validates it, takes the fee, changes the horse
and creates the record without the lock, and takes the lock again to insert the horse.  Each of these
is one step here, so that registrations of several threads can interleave.
`handleRegisterStallion` is the registration alone.

`Owned` says that each registered horse has one stallion record, whose owner has the horse, that no
character has too many of them, and that a registration which was refused has changed nothing.

A registration relies at each step on what it found before, and horses are let go without a look at
the market.  `Settled` says of each step what it relies on, and `Tended` is the invariant with which
the steps of registrations and their ends keep `Owned`.
-/

namespace Alicia.Breeding

open Transition Effect Data Registry Possession Function List
open Chrono (TimePoint)
open DataDirector (characterStorage horseStorage stallionStorage)

/-- How far a registration is. -/
inductive RegistrationPhase where
  | called
  | checked
  | validated
  | paid
  | typed
  | created (stallionUid : Uid)
  | returned (registered : Bool)
  | terminated
  deriving DecidableEq

/-- What a registration has changed. -/
inductive RegistrationChange where
  | carrots
  | horseType
  | stallion (uid : Uid)
  deriving DecidableEq

/-- A call of `HandleRegisterStallion`, with the changes that it has made. -/
structure Registration where
  characterUid : Uid
  horseUid : Uid
  breedingFee : Int32
  phase : RegistrationPhase := .called
  changes : List RegistrationChange := []

namespace Registration

/-- The registration goes on without a change. -/
def move (phase : RegistrationPhase) (registration : Registration) : Registration :=
  { registration with phase := phase }

/-- The registration goes on with a change. -/
def change (change : RegistrationChange) (phase : RegistrationPhase) (registration : Registration) :
    Registration :=
  { registration with phase := phase, changes := registration.changes ++ [change] }

/-- The next step of a registration. -/
def advance (lookups : RegisterLookups) (registration : Registration) (market : Market) :
    Registration × Market :=
  match registration.phase with
  | .called =>
    if checkRegistration lookups registration.characterUid registration.horseUid market then
      (registration.move .checked, market)
    else (registration.move (.returned false), market)
  | .checked =>
    if validateStallion lookups registration.characterUid registration.horseUid
        registration.breedingFee market.data then
      (registration.move .validated, market)
    else (registration.move (.returned false), market)
  | .validated =>
    match payRegistration (calculateRegistrationFee registration.breedingFee)
      registration.characterUid market.data with
    | none => (registration.move (.returned false), market)
    | some data => (registration.change .carrots .paid, { market with data := data })
  | .paid =>
    match horseStorage.find lookups.horseAgain registration.horseUid market.data with
    | none => (registration.move (.returned false), market)
    | some horse =>
      let data := horseStorage.write registration.horseUid { horse with type := .stallion } market.data
      (registration.change .horseType .typed, { market with data := data })
  | .typed =>
    match stallionStorage.fresh lookups.stallion market.data with
    | none => (registration.move .terminated, market)
    | some stallionUid =>
      let stallion := newStallion lookups.now registration.characterUid registration.horseUid
        registration.breedingFee stallionUid
      (registration.change (.stallion stallionUid) (.created stallionUid),
        { market with data := stallionStorage.write stallionUid stallion market.data })
  | .created stallionUid =>
    (registration.move (.returned true), market.emplace registration.horseUid stallionUid)
  | .returned registered => (registration.move (.returned registered), market)
  | .terminated => (registration.move .terminated, market)

/-- Some steps of a registration that no other call interrupts. -/
def steps (lookups : RegisterLookups) : Nat → Registration → Market → Registration × Market
  | 0, registration, market => (registration, market)
  | count + 1, registration, market =>
    steps lookups count (registration.advance lookups market).1
      (registration.advance lookups market).2

end Registration

open Registration

/-- The phase of a registration that ended. -/
def phaseOf (result : EStateM.Result Failure Market Bool) : RegistrationPhase × Market :=
  match result with
  | .ok registered market => (.returned registered, market)
  | .error _ market => (.terminated, market)

section Finish

variable {lookups : RegisterLookups} {registration next : Registration} {market after : Market}

theorem steps_succ (h : registration.advance lookups market = (next, after)) (count : Nat) :
    registration.steps lookups (count + 1) market = next.steps lookups count after := by
  rw [steps, h]

/-- A registration that ended stays as it is. -/
theorem steps_ended (h : registration.advance lookups market = (registration, market)) (count : Nat) :
    registration.steps lookups count market = (registration, market) := by
  induction count with
  | zero => rfl
  | succ count ih => rw [steps_succ h, ih]

/-- The steps of a registration, one after the other, are the registration. -/
theorem steps_eq (characterUid horseUid : Uid) (breedingFee : Int32) :
    ((Registration.mk characterUid horseUid breedingFee .called []).steps lookups 6 market).map
        Registration.phase id =
      phaseOf (handleRegisterStallion lookups characterUid horseUid breedingFee market) := by
  rw [handleRegisterStallion, bind_apply, get_apply]
  dsimp only
  by_cases hchecked : checkRegistration lookups characterUid horseUid market = true
  swap
  · have hfirst : (Registration.mk characterUid horseUid breedingFee .called []).advance lookups market =
      (⟨characterUid, horseUid, breedingFee, .returned false, []⟩, market) := if_neg hchecked
    rw [if_pos (by simp [hchecked]), steps_succ hfirst, steps_ended rfl]
    rfl
  have hfirst : (Registration.mk characterUid horseUid breedingFee .called []).advance lookups market =
    (⟨characterUid, horseUid, breedingFee, .checked, []⟩, market) := if_pos hchecked
  rw [if_neg (by simp [hchecked]), steps_succ hfirst, bind_apply, get_apply]
  dsimp only
  by_cases hvalid : validateStallion lookups characterUid horseUid breedingFee market.data = true
  swap
  · have hsecond : (Registration.mk characterUid horseUid breedingFee .checked []).advance lookups
      market = (⟨characterUid, horseUid, breedingFee, .returned false, []⟩, market) := if_neg hvalid
    rw [if_pos (by simp [hvalid]), steps_succ hsecond, steps_ended rfl]
    rfl
  have hsecond : (Registration.mk characterUid horseUid breedingFee .checked []).advance lookups market =
    (⟨characterUid, horseUid, breedingFee, .validated, []⟩, market) := if_pos hvalid
  rw [if_neg (by simp [hvalid]), steps_succ hsecond, bind_apply, get_apply, Registration.steps]
  dsimp only [Registration.advance]
  cases payRegistration (calculateRegistrationFee breedingFee) characterUid market.data with
  | none =>
    rw [steps_ended rfl]
    rfl
  | some data =>
    rw [Registration.steps]
    dsimp only [Registration.advance, Registration.change]
    rw [bind_apply, modify_apply]
    dsimp only
    rw [bind_apply, get_apply]
    dsimp only
    cases horseStorage.find lookups.horseAgain horseUid data with
    | none =>
      rw [steps_ended rfl]
      rfl
    | some horse =>
      rw [Registration.steps]
      dsimp only [Registration.advance]
      rw [bind_apply, modify_apply]
      dsimp only
      rw [bind_apply, get_apply]
      dsimp only
      cases stallionStorage.fresh lookups.stallion
        (horseStorage.write horseUid { horse with type := .stallion } data) with
      | none => rfl
      | some stallionUid => rfl

end Finish

variable (registry : BreedingRegistry) (items : ItemRegistry)

/-! ## The system -/

/-- The ranch, the registrations of all threads so far, the expired entries that the check has
collected, and the uids of stallions that were allocated. -/
structure Paddock where
  ranch : Ranch
  calls : List Registration := []
  collected : List (Uid × Uid) := []
  allocated : List Uid := []

inductive PaddockInput where
  | register (characterUid horseUid : Uid) (breedingFee : Int32)
  | advance (index : Nat) (lookups : RegisterLookups)
  | unregister (characterUid horseUid : Uid) (lookups : UnregisterLookups)
  | collectExpired (available : Uid → Bool) (now : TimePoint)
  | expireCollected (lookups : Uid → UnregisterLookups)
  | tryBreeding (client : ClientId) (command : TryBreeding) (lookups : TryBreedingLookups)
  | equipment (input : EquipmentInput)
  | returnToNature (characterUid horseUid : Uid) (available : Bool)
  | abandon (characterUid foalUid : Uid) (lookups : AbandonLookups)

/-- The data source does not allocate a uid twice. -/
def RegisterLookups.without (allocated : List Uid) (lookups : RegisterLookups) : RegisterLookups :=
  { lookups with stallion := lookups.stallion.filter fun uid => uid ∉ allocated }

/-- The uid that a registration has just got for its stallion. -/
def allocatedBy (call : Registration) : List Uid :=
  match call.phase with
  | .created stallionUid => [stallionUid]
  | _ => []

namespace Paddock

variable (paddock : Paddock)

def data : DataDirector := paddock.ranch.data

def registrations : List (Uid × Uid) := paddock.ranch.registrations

def withMarket (market : Market) : Paddock := { paddock with ranch := setMarket market paddock.ranch }

def withData (data : DataDirector) : Paddock := { paddock with ranch := setData data paddock.ranch }

/-- The next step of a registration. -/
def advance (index : Nat) (lookups : RegisterLookups) : Paddock :=
  match paddock.calls[index]? with
  | none => paddock
  | some call =>
    let (next, market) := call.advance (lookups.without paddock.allocated) paddock.ranch.toMarket
    { paddock.withMarket market with
      calls := paddock.calls.set index next
      allocated := allocatedBy next ++ paddock.allocated }

end Paddock

def paddockStep (paddock : Paddock) : PaddockInput → Paddock
  | .register characterUid horseUid breedingFee =>
    { paddock with calls := paddock.calls ++ [⟨characterUid, horseUid, breedingFee, .called, []⟩] }
  | .advance index lookups => paddock.advance index lookups
  | .unregister characterUid horseUid lookups => paddock.withMarket
      (handleUnregisterStallion lookups characterUid horseUid paddock.ranch.toMarket).2
  | .collectExpired available now =>
    { paddock with collected := expired available now paddock.ranch.toMarket }
  | .expireCollected lookups =>
    { paddock.withMarket (paddock.collected.foldl (expire lookups) paddock.ranch.toMarket) with
      collected := [] }
  | .tryBreeding client command lookups =>
    { paddock with ranch := (handleTryBreeding registry lookups client command).final paddock.ranch }
  | .equipment input => paddock.withData (equipmentStep items paddock.data input)
  | .returnToNature characterUid horseUid available =>
    paddock.withData ((returnHorseToNature available characterUid horseUid).final paddock.data)
  | .abandon characterUid foalUid lookups =>
    paddock.withData ((handleBreedingAbandon lookups characterUid foalUid).final paddock.data)

/-! ## What holds of it -/

/-- The character has the horse in its list or as its mount. -/
def hasHorse (data : DataDirector) (characterUid horseUid : Uid) : Bool :=
  (data.characters characterUid).any fun character =>
    horseUid ∈ character.horses || horseUid = character.mountUid

/-- The number of registered horses of a character. -/
def stabled (data : DataDirector) (registrations : List (Uid × Uid)) (characterUid : Uid) : Nat :=
  registrations.countP fun entry => hasHorse data characterUid entry.1

/-- Registered stallions stay with their owners, and refused registrations change nothing. -/
structure Owned (paddock : Paddock) : Prop where
  record : ∀ entry ∈ paddock.registrations, ∃ stallion,
    paddock.data.stallions entry.2 = some stallion ∧ stallion.horseUid = entry.1 ∧
      hasHorse paddock.data stallion.ownerUid entry.1 = true
  unique : ∀ entry ∈ paddock.registrations, ∀ uid stallion,
    paddock.data.stallions uid = some stallion → stallion.horseUid = entry.1 → uid = entry.2
  limit : ∀ characterUid,
    stabled paddock.data paddock.registrations characterUid ≤ maxStallionsPerCharacter
  refused : ∀ call ∈ paddock.calls, call.phase = .returned false → call.changes = []

/-- The condition under which a step keeps to this. -/
def Settled (paddock : Paddock) : PaddockInput → Prop
  | .advance index lookups =>
    match paddock.calls[index]? with
    | none => True
    | some call =>
      match call.phase with
      | .paid => (horseStorage.find lookups.horseAgain call.horseUid paddock.data).isSome = true
      | .typed =>
        (stallionStorage.fresh (lookups.without paddock.allocated).stallion
          paddock.data).isSome = true → ∀ entry ∈ paddock.registrations, entry.1 ≠ call.horseUid
      | .created stallionUid =>
        (∀ uid stallion, paddock.data.stallions uid = some stallion →
          stallion.horseUid = call.horseUid → uid = stallionUid) ∧
        hasHorse paddock.data call.characterUid call.horseUid = true ∧
        ∀ characterUid, hasHorse paddock.data characterUid call.horseUid = true →
          stabled paddock.data paddock.registrations characterUid < maxStallionsPerCharacter
      | _ => True
  | .returnToNature characterUid horseUid available =>
    ∀ entry ∈ paddock.registrations, entry.1 = horseUid → ∀ stallion,
      paddock.data.stallions entry.2 = some stallion → stallion.ownerUid = characterUid →
        ∀ character, characterStorage.find available characterUid paddock.data = some character →
          horseUid ∈ character.horses.erase horseUid ∨ horseUid = character.mountUid
  | _ => True

variable {registry items}

/-! ## What the steps rely on -/

/-- The horse has a record, and is no foal. -/
def isGrown (data : DataDirector) (horseUid : Uid) : Bool :=
  (data.horses horseUid).any fun horse => horse.type ≠ .foal

/-- Whose record it is, and for which horse. -/
def parties (stallion : Stallion) : Uid × Uid := (stallion.ownerUid, stallion.horseUid)

/-- What is so at the phases of a registration. -/
def Registration.Proceeds (data : DataDirector) (entries : List (Uid × Uid)) (allocated : List Uid)
    (call : Registration) : Prop :=
  match call.phase with
  | .called | .checked | .validated => call.changes = []
  | .paid => call.changes ≠ []
  | .typed => isGrown data call.horseUid = true
  | .created uid => isGrown data call.horseUid = true ∧
      (data.stallions uid).map parties = some (call.characterUid, call.horseUid) ∧
      (∀ entry ∈ entries, entry.2 ≠ uid) ∧ uid ∈ allocated
  | .returned _ | .terminated => True

/-- `Owned`, and what it takes to keep it. -/
structure Tended (paddock : Paddock) : Prop where
  owned : Owned paddock
  nodup : (paddock.registrations.map Prod.fst).Nodup
  grown : ∀ entry ∈ paddock.registrations, isGrown paddock.data entry.1 = true
  proceeds : ∀ call ∈ paddock.calls,
    call.Proceeds paddock.data (paddock.registrations ++ paddock.collected) paddock.allocated
  distinct : ∀ (i j : Nat) (first second : Registration) (uid : Uid), paddock.calls[i]? = some first →
    paddock.calls[j]? = some second → first.phase = .created uid → second.phase = .created uid → i = j
  collected : ∀ entry ∈ paddock.collected, ∀ stallion,
    paddock.data.stallions entry.2 = some stallion → stallion.horseUid = entry.1
  allocated : ∀ entry ∈ paddock.registrations ++ paddock.collected, entry.2 ∈ paddock.allocated

/-- A ranch whose registered horses are grown and stay with their owners. -/
structure Consistent (ranch : Ranch) : Prop where
  owned : Owned { ranch := ranch }
  nodup : (ranch.registrations.map Prod.fst).Nodup
  grown : ∀ entry ∈ ranch.registrations, isGrown ranch.data entry.1 = true

/-- The uids of the registered stallions are allocated. -/
def Paddock.opened (ranch : Ranch) : Paddock where
  ranch := ranch
  allocated := ranch.registrations.map Prod.snd

theorem tended_opened {ranch : Ranch} (h : Consistent ranch) : Tended (Paddock.opened ranch) where
  owned := ⟨h.owned.record, h.owned.unique, h.owned.limit, fun _ hcall => nomatch hcall⟩
  nodup := h.nodup
  grown := h.grown
  proceeds _ hcall := nomatch hcall
  distinct i j first second uid hfirst := nomatch hfirst
  collected _ hentry := nomatch hentry
  allocated entry hentry := by
    rw [mem_append] at hentry
    obtain hentry | hentry := hentry
    · exact mem_map_of_mem hentry
    · cases hentry

variable {horseUid : Uid}

theorem parties_eq_some {record : Option Stallion} {ownerUid : Uid}
    (h : record.map parties = some (ownerUid, horseUid)) :
    ∃ stallion, record = some stallion ∧ stallion.horseUid = horseUid ∧ stallion.ownerUid = ownerUid := by
  obtain ⟨stallion, hstallion, hparties⟩ := Option.map_eq_some_iff.1 h
  exact ⟨stallion, hstallion, congrArg Prod.snd hparties, congrArg Prod.fst hparties⟩

/-- The records of stallions are the same but for the counters. -/
def SameParties (before after : DataDirector) : Prop :=
  ∀ uid, (after.stallions uid).map parties = (before.stallions uid).map parties

variable {before : DataDirector}

theorem SameParties.exists {after : DataDirector} (h : SameParties before after) {uid : Uid}
    {stallion : Stallion} (hstallion : before.stallions uid = some stallion) :
    ∃ next, after.stallions uid = some next ∧ next.horseUid = stallion.horseUid ∧
      next.ownerUid = stallion.ownerUid := by
  have hparties := h uid
  rw [hstallion, Option.map_some] at hparties
  exact parties_eq_some hparties

theorem SameParties.symm {after : DataDirector} (h : SameParties before after) :
    SameParties after before := fun uid => (h uid).symm

section Steps

variable {paddock after : Paddock}

/-- Changes that take no registered horse from its owner, and give none to anyone. -/
theorem Tended.of_data (h : Tended paddock) (hregistrations : after.registrations = paddock.registrations)
    (hcalls : after.calls = paddock.calls) (hcollected : after.collected = paddock.collected)
    (hallocated : after.allocated = paddock.allocated)
    (hparties : SameParties paddock.data after.data)
    (hgrown : ∀ horseUid, isGrown paddock.data horseUid = true → isGrown after.data horseUid = true)
    (hkept : ∀ entry ∈ paddock.registrations, ∀ stallion,
      paddock.data.stallions entry.2 = some stallion →
        hasHorse paddock.data stallion.ownerUid entry.1 = true →
          hasHorse after.data stallion.ownerUid entry.1 = true)
    (hgained : ∀ characterUid horseUid, isGrown paddock.data horseUid = true →
      hasHorse after.data characterUid horseUid = true →
        hasHorse paddock.data characterUid horseUid = true) : Tended after := by
  constructor
  · constructor
    · rw [hregistrations]
      intro entry hentry
      obtain ⟨stallion, hstallion, hhorse, howner⟩ := h.owned.record entry hentry
      obtain ⟨next, hnext, hsame, hsameOwner⟩ := hparties.exists hstallion
      refine ⟨next, hnext, hsame.trans hhorse, ?_⟩
      rw [hsameOwner]
      exact hkept entry hentry stallion hstallion howner
    · rw [hregistrations]
      intro entry hentry uid stallion hstallion hhorse
      obtain ⟨earlier, hearlier, hsame, -⟩ := hparties.symm.exists hstallion
      exact h.owned.unique entry hentry uid earlier hearlier (hsame.trans hhorse)
    · rw [hregistrations]
      intro characterUid
      refine (countP_mono_left fun entry hentry hhas => ?_).trans (h.owned.limit characterUid)
      exact hgained characterUid entry.1 (h.grown entry hentry) hhas
    · rw [hcalls]
      exact h.owned.refused
  · rw [hregistrations]
    exact h.nodup
  · rw [hregistrations]
    exact fun entry hentry => hgrown entry.1 (h.grown entry hentry)
  · rw [hcalls, hregistrations, hcollected, hallocated]
    intro call hcall
    have hproceeds := h.proceeds call hcall
    rw [Proceeds] at hproceeds ⊢
    cases hphase : call.phase with
    | typed =>
      rw [hphase] at hproceeds
      exact hgrown call.horseUid hproceeds
    | created uid =>
      rw [hphase] at hproceeds
      obtain ⟨hcallGrown, hrecord, hnew⟩ := hproceeds
      exact ⟨hgrown call.horseUid hcallGrown, (hparties uid).trans hrecord, hnew⟩
    | _ =>
      rw [hphase] at hproceeds
      exact hproceeds
  · rw [hcalls]
    exact h.distinct
  · rw [hcollected]
    intro entry hentry stallion hstallion
    obtain ⟨earlier, hearlier, hsame, -⟩ := hparties.symm.exists hstallion
    exact hsame.symm.trans (h.collected entry hentry earlier hearlier)
  · rw [hregistrations, hcollected, hallocated]
    exact h.allocated

/-! ## Steps of a registration -/

section Advance

variable {index : Nat} {call next : Registration}

/-- A registration in a list where one entry was replaced is the new one or an old one. -/
theorem getElem?_set_cases {i : Nat} {calls : List Registration} {first : Registration}
    (h : (calls.set index next)[i]? = some first) :
    i = index ∧ first = next ∨ i ≠ index ∧ calls[i]? = some first := by
  rw [List.getElem?_set] at h
  split at h
  · next hsame =>
    split at h
    · cases h
      exact .inl ⟨hsame.symm, rfl⟩
    · cases h
  · next hother => exact .inr ⟨fun hsame => hother hsame.symm, h⟩

/-- A registration that moves on, and inserts no stallion next. -/
theorem Tended.move (h : Tended paddock) (next : Registration) (index : Nat)
    (hproceeds : next.Proceeds paddock.data (paddock.registrations ++ paddock.collected) paddock.allocated)
    (hrefused : next.phase = .returned false → next.changes = [])
    (hphase : allocatedBy next = []) :
    Tended { paddock with
      calls := paddock.calls.set index next
      allocated := allocatedBy next ++ paddock.allocated } := by
  rw [hphase, nil_append]
  refine ⟨⟨h.owned.record, h.owned.unique, h.owned.limit, ?_⟩, h.nodup, h.grown, ?_, ?_, h.collected,
    h.allocated⟩
  · intro other hother
    obtain hmem | rfl := mem_or_eq_of_mem_set hother
    · exact h.owned.refused other hmem
    · exact hrefused
  · intro other hother
    obtain hmem | rfl := mem_or_eq_of_mem_set hother
    · exact h.proceeds other hmem
    · exact hproceeds
  · intro i j first second uid hfirst hsecond hfirstPhase hsecondPhase
    have hold : ∀ (i : Nat) (first : Registration), (paddock.calls.set index next)[i]? = some first →
        first.phase = .created uid → paddock.calls[i]? = some first := by
      intro i first hfirst hfirstPhase
      obtain ⟨-, rfl⟩ | ⟨-, hcall⟩ := getElem?_set_cases hfirst
      · rw [allocatedBy, hfirstPhase] at hphase
        cases hphase
      · exact hcall
    exact h.distinct i j first second uid (hold i first hfirst hfirstPhase)
      (hold j second hsecond hsecondPhase) hfirstPhase hsecondPhase

theorem hasHorse_of_characters {after : DataDirector} (h : after.characters = before.characters)
    (characterUid horseUid : Uid) :
    hasHorse after characterUid horseUid = hasHorse before characterUid horseUid := by
  rw [hasHorse, hasHorse, h]

variable {data : DataDirector}

/-- A change of a character that keeps a horse where it is. -/
theorem hasHorse_write {characterUid : Uid} {before character : Character}
    (hbefore : data.characters characterUid = some before)
    (h : horseUid ∈ character.horses ∨ horseUid = character.mountUid ↔
      horseUid ∈ before.horses ∨ horseUid = before.mountUid) (uid : Uid) :
    hasHorse (characterStorage.write characterUid character data) uid horseUid =
      hasHorse data uid horseUid := by
  rw [hasHorse, hasHorse]
  show (update data.characters characterUid (some character) uid).any _ = _
  rcases eq_or_ne uid characterUid with rfl | hother
  · rw [update_self, hbefore, Option.any_some, Option.any_some, Bool.eq_iff_iff]
    simpa using h
  · rw [update_of_ne hother]

theorem tended_pay (h : Tended paddock) {fee : Int32} {characterUid : Uid}
    (hpaid : payRegistration fee characterUid paddock.data = some data) :
    Tended (paddock.withMarket { paddock.ranch.toMarket with data := data }) := by
  rw [payRegistration] at hpaid
  split at hpaid
  · cases hpaid
  next character hcharacter =>
  split at hpaid
  · cases hpaid
    have hhas : ∀ uid horseUid, hasHorse (characterStorage.write characterUid
        { character with carrots := character.carrots - fee } paddock.data) uid horseUid =
          hasHorse paddock.data uid horseUid := by
      intro uid horseUid
      refine hasHorse_write hcharacter ?_ uid
      exact Iff.rfl
    exact h.of_data rfl rfl rfl rfl (fun _ => rfl) (fun _ => id)
      (fun entry _ stallion _ howner => (hhas stallion.ownerUid entry.1).trans howner)
      (fun uid horseUid _ hafter => (hhas uid horseUid).symm.trans hafter)
  · cases hpaid

theorem isGrown_write {horse : Horse} (htype : horse.type ≠ .foal) {other : Uid}
    (h : isGrown data other = true) :
    isGrown (horseStorage.write horseUid horse data) other = true := by
  rw [isGrown] at h ⊢
  show (update data.horses horseUid (some horse) other).any _ = true
  rcases eq_or_ne other horseUid with rfl | hother
  · rw [update_self, Option.any_some]
    exact decide_eq_true htype
  · rw [update_of_ne hother]
    exact h

theorem isGrown_written (data : DataDirector) {horse : Horse} (htype : horse.type ≠ .foal) :
    isGrown (horseStorage.write horseUid horse data) horseUid = true := by
  rw [isGrown]
  show (update data.horses horseUid (some horse) horseUid).any _ = true
  rw [update_self, Option.any_some]
  exact decide_eq_true htype

theorem tended_type (h : Tended paddock) (horseUid : Uid) {horse : Horse} (htype : horse.type ≠ .foal) :
    Tended (paddock.withMarket { paddock.ranch.toMarket with
      data := horseStorage.write horseUid horse paddock.data }) :=
  h.of_data rfl rfl rfl rfl (fun _ => rfl) (fun _ => isGrown_write htype) (fun _ _ _ _ => id)
    (fun _ _ _ => id)

theorem Tended.create (h : Tended paddock) (hcall : paddock.calls[index]? = some call)
    (hphase : call.phase = .typed) {uid : Uid} (hnew : paddock.data.stallions uid = none)
    (hallocated : uid ∉ paddock.allocated)
    (hfree : ∀ entry ∈ paddock.registrations, entry.1 ≠ call.horseUid) {stallion : Stallion}
    (hparties : parties stallion = (call.characterUid, call.horseUid)) :
    Tended { paddock.withMarket { paddock.ranch.toMarket with
        data := stallionStorage.write uid stallion paddock.data } with
      calls := paddock.calls.set index (call.change (.stallion uid) (.created uid))
      allocated := uid :: paddock.allocated } := by
  have hsame : ∀ other ∈ paddock.allocated,
      (stallionStorage.write uid stallion paddock.data).stallions other = paddock.data.stallions other :=
    fun other hother => update_of_ne (fun heq : other = uid => hallocated (heq ▸ hother)) _ _
  have hregistered : ∀ entry ∈ paddock.registrations, entry.2 ∈ paddock.allocated :=
    fun entry hentry => h.allocated entry (mem_append_left _ hentry)
  have hrecord : (stallionStorage.write uid stallion paddock.data).stallions uid = some stallion :=
    update_self _ _ _
  constructor
  · constructor
    · intro entry hentry
      obtain ⟨earlier, hearlier, hrest⟩ := h.owned.record entry hentry
      exact ⟨earlier, (hsame _ (hregistered entry hentry)).trans hearlier, hrest⟩
    · intro entry hentry other record hother hhorse
      rcases eq_or_ne other uid with rfl | hne
      · cases hrecord.symm.trans hother
        exact absurd (hhorse.symm.trans (congrArg Prod.snd hparties)) (hfree entry hentry)
      · exact h.owned.unique entry hentry other record
          ((update_of_ne hne _ _).symm.trans hother) hhorse
    · exact h.owned.limit
    · intro other hother
      obtain hmem | rfl := mem_or_eq_of_mem_set hother
      · exact h.owned.refused other hmem
      · intro hreturned
        cases hreturned
  · exact h.nodup
  · exact h.grown
  · intro other hother
    obtain hmem | rfl := mem_or_eq_of_mem_set hother
    · have hproceeds := h.proceeds other hmem
      rw [Proceeds] at hproceeds ⊢
      cases hother : other.phase with
      | created earlier =>
        rw [hother] at hproceeds
        obtain ⟨hgrown, hearlier, hentries, hmemAllocated⟩ := hproceeds
        refine ⟨hgrown, ?_, hentries, mem_cons_of_mem _ hmemAllocated⟩
        exact (congrArg (Option.map parties) (hsame earlier hmemAllocated)).trans hearlier
      | _ =>
        rw [hother] at hproceeds
        exact hproceeds
    · have hproceeds := h.proceeds call (mem_of_getElem? hcall)
      rw [Proceeds, hphase] at hproceeds
      refine ⟨hproceeds, ?_, fun entry hentry hsameUid => ?_, mem_cons_self⟩
      · exact (congrArg (Option.map parties) hrecord).trans (congrArg some hparties)
      · exact hallocated (hsameUid.subst (h.allocated entry hentry))
  · intro i j first second created hfirst hsecond hfirstPhase hsecondPhase
    -- The uid of an earlier registration is allocated, so it is not the new one.
    have hearlier : ∀ (i : Nat) (first : Registration), paddock.calls[i]? = some first →
        first.phase = .created created → created ≠ uid := by
      intro i first hfirst hfirstPhase hsameUid
      have hproceeds := h.proceeds first (mem_of_getElem? hfirst)
      rw [Proceeds, hfirstPhase] at hproceeds
      exact hallocated (hsameUid ▸ hproceeds.2.2.2)
    have hcreated : (call.change (.stallion uid) (.created uid)).phase = .created created →
        uid = created := RegistrationPhase.created.inj
    obtain ⟨hi, rfl⟩ | ⟨-, hfirst⟩ := getElem?_set_cases hfirst
    · obtain ⟨hj, -⟩ | ⟨-, hsecond⟩ := getElem?_set_cases hsecond
      · exact hi.trans hj.symm
      · exact absurd (hcreated hfirstPhase).symm (hearlier j second hsecond hsecondPhase)
    · obtain ⟨-, rfl⟩ | ⟨-, hsecond⟩ := getElem?_set_cases hsecond
      · exact absurd (hcreated hsecondPhase).symm (hearlier i first hfirst hfirstPhase)
      · exact h.distinct i j first second created hfirst hsecond hfirstPhase hsecondPhase
  · intro entry hentry record hstallion
    have hmem := h.allocated entry (mem_append_right _ hentry)
    exact h.collected entry hentry record ((hsame _ hmem).symm.trans hstallion)
  · exact fun entry hentry => mem_cons_of_mem _ (h.allocated entry hentry)

/-- A horse whose stallion record has just been created is not registered. -/
theorem Tended.unregistered (h : Tended paddock) (hcall : paddock.calls[index]? = some call) {uid : Uid}
    (hphase : call.phase = .created uid) : ∀ entry ∈ paddock.registrations, entry.1 ≠ call.horseUid := by
  intro entry hentry hhorse
  have hproceeds := h.proceeds call (mem_of_getElem? hcall)
  rw [Proceeds, hphase] at hproceeds
  obtain ⟨-, hrecord, hentries, -⟩ := hproceeds
  obtain ⟨stallion, hstallion, hsame, -⟩ := parties_eq_some hrecord
  exact hentries entry (mem_append_left _ hentry)
    (h.owned.unique entry hentry uid stallion hstallion (hsame.trans hhorse.symm)).symm

theorem emplace_of_free {market : Market} {uid : Uid}
    (h : ∀ entry ∈ market.registrations, entry.1 ≠ horseUid) : market.emplace horseUid uid =
      { market with registrations := market.registrations ++ [(horseUid, uid)] } := by
  rw [Market.emplace]
  refine if_neg fun hsome => ?_
  obtain ⟨entry, hentry, hsame⟩ := lookup_isSome_iff.1 hsome
  exact h entry hentry (eq_of_beq hsame).symm

theorem Tended.insert (h : Tended paddock) (hcall : paddock.calls[index]? = some call) {uid : Uid}
    (hphase : call.phase = .created uid)
    (honly : ∀ other stallion, paddock.data.stallions other = some stallion →
      stallion.horseUid = call.horseUid → other = uid)
    (howner : hasHorse paddock.data call.characterUid call.horseUid = true)
    (hlimit : ∀ characterUid, hasHorse paddock.data characterUid call.horseUid = true →
      stabled paddock.data paddock.registrations characterUid < maxStallionsPerCharacter) :
    Tended { paddock.withMarket (paddock.ranch.toMarket.emplace call.horseUid uid) with
      calls := paddock.calls.set index (call.move (.returned true)) } := by
  have hproceeds := h.proceeds call (mem_of_getElem? hcall)
  rw [Proceeds, hphase] at hproceeds
  obtain ⟨hgrown, hrecord, -, hallocated⟩ := hproceeds
  obtain ⟨stallion, hstallion, hhorse, hsameOwner⟩ := parties_eq_some hrecord
  have hfree := h.unregistered hcall hphase
  rw [emplace_of_free hfree]
  have hmem : ∀ {entry : Uid × Uid}, entry ∈ paddock.registrations ++ [(call.horseUid, uid)] →
      entry ∈ paddock.registrations ∨ entry = (call.horseUid, uid) := by
    intro entry hentry
    rwa [mem_append, mem_singleton] at hentry
  constructor
  · constructor
    · intro entry hentry
      obtain hold | rfl := hmem hentry
      · exact h.owned.record entry hold
      · exact ⟨stallion, hstallion, hhorse, hsameOwner.symm ▸ howner⟩
    · intro entry hentry other record hother hsame
      obtain hold | rfl := hmem hentry
      · exact h.owned.unique entry hold other record hother hsame
      · exact honly other record hother hsame
    · intro characterUid
      show stabled paddock.data (paddock.registrations ++ [(call.horseUid, uid)]) characterUid ≤ _
      have hbefore : stabled paddock.data paddock.registrations characterUid ≤ _ :=
        h.owned.limit characterUid
      have hless := hlimit characterUid
      rw [stabled] at hbefore hless ⊢
      rw [countP_append, countP_singleton]
      split
      · next hhas => exact hless hhas
      · exact hbefore
    · intro other hother
      obtain hold | rfl := mem_or_eq_of_mem_set hother
      · exact h.owned.refused other hold
      · intro hreturned
        cases hreturned
  · show ((paddock.registrations ++ [(call.horseUid, uid)]).map Prod.fst).Nodup
    rw [map_append, nodup_append]
    refine ⟨h.nodup, pairwise_singleton _ _, ?_⟩
    intro horseUid hregistered other hsingle hsame
    obtain ⟨entry, hentry, rfl⟩ := mem_map.1 hregistered
    exact hfree entry hentry (hsame.trans (mem_singleton.1 hsingle))
  · intro entry hentry
    obtain hold | rfl := hmem hentry
    · exact h.grown entry hold
    · exact hgrown
  · intro other hother
    obtain ⟨i, hi⟩ := mem_iff_getElem?.1 hother
    obtain ⟨-, rfl⟩ | ⟨hne, hold⟩ := getElem?_set_cases hi
    · exact trivial
    · have hproceeds := h.proceeds other (mem_of_getElem? hold)
      rw [Proceeds] at hproceeds ⊢
      cases hother : other.phase with
      | created created =>
        rw [hother] at hproceeds
        obtain ⟨hgrown, hrecord, hentries, hmemAllocated⟩ := hproceeds
        refine ⟨hgrown, hrecord, fun entry hentry hsame => ?_, hmemAllocated⟩
        obtain hentry | hentry := mem_append.1 hentry
        · obtain hentry | rfl := hmem hentry
          · exact hentries entry (mem_append_left _ hentry) hsame
          · exact hne (h.distinct i index other call uid hold hcall (hother.trans (congrArg _ hsame.symm)) hphase)
        · exact hentries entry (mem_append_right _ hentry) hsame
      | _ =>
        rw [hother] at hproceeds
        exact hproceeds
  · intro i j first second created hfirst hsecond hfirstPhase hsecondPhase
    obtain ⟨-, rfl⟩ | ⟨-, hfirst⟩ := getElem?_set_cases hfirst
    · cases hfirstPhase
    obtain ⟨-, rfl⟩ | ⟨-, hsecond⟩ := getElem?_set_cases hsecond
    · cases hsecondPhase
    exact h.distinct i j first second created hfirst hsecond hfirstPhase hsecondPhase
  · exact h.collected
  · intro entry hentry
    obtain hentry | hentry := mem_append.1 hentry
    · obtain hentry | rfl := hmem hentry
      · exact h.allocated entry (mem_append_left _ hentry)
      · exact hallocated
    · exact h.allocated entry (mem_append_right _ hentry)

theorem tended_advance (h : Tended paddock) (index : Nat) (lookups : RegisterLookups)
    (hsettled : Settled paddock (.advance index lookups)) : Tended (paddock.advance index lookups) := by
  rw [Paddock.advance]
  rw [Settled] at hsettled
  cases hcall : paddock.calls[index]? with
  | none => exact h
  | some call =>
    rw [hcall] at hsettled
    have hmem := mem_of_getElem? hcall
    have hproceeds := h.proceeds call hmem
    have hrefused := h.owned.refused call hmem
    dsimp only at hsettled ⊢
    rw [advance]
    rw [Proceeds] at hproceeds
    cases hphase : call.phase with
    | called =>
      rw [hphase] at hproceeds
      dsimp only
      split
      · exact h.move (call.move .checked) index hproceeds RegistrationPhase.noConfusion rfl
      · exact h.move (call.move (.returned false)) index trivial (fun _ => hproceeds) rfl
    | checked =>
      rw [hphase] at hproceeds
      dsimp only
      split
      · exact h.move (call.move .validated) index hproceeds RegistrationPhase.noConfusion rfl
      · exact h.move (call.move (.returned false)) index trivial (fun _ => hproceeds) rfl
    | validated =>
      rw [hphase] at hproceeds
      dsimp only
      split
      · exact h.move (call.move (.returned false)) index trivial (fun _ => hproceeds) rfl
      · next data hpaid =>
        have hchanges : call.changes ++ [.carrots] ≠ [] :=
          append_ne_nil_of_right_ne_nil _ (cons_ne_nil _ _)
        exact (tended_pay h hpaid).move (call.change .carrots .paid) index hchanges
          RegistrationPhase.noConfusion rfl
    | paid =>
      rw [hphase] at hsettled
      obtain ⟨horse, hhorse⟩ := Option.isSome_iff_exists.1 hsettled
      have hfound : horseStorage.find (lookups.without paddock.allocated).horseAgain call.horseUid
        paddock.ranch.toMarket.data = some horse := hhorse
      dsimp only
      rw [hfound]
      have hstallion : Horse.Kind.stallion ≠ Horse.Kind.foal := by decide
      have htype : ({ horse with type := .stallion } : Horse).type ≠ .foal := hstallion
      have htyped := tended_type h call.horseUid htype
      exact htyped.move (call.change .horseType .typed) index (isGrown_written _ htype)
        RegistrationPhase.noConfusion rfl
    | typed =>
      rw [hphase] at hsettled
      dsimp only at hsettled ⊢
      split
      · exact h.move (call.move .terminated) index trivial RegistrationPhase.noConfusion rfl
      · next uid hfresh =>
        have hfree := hsettled (Option.isSome_iff_exists.2 ⟨uid, hfresh⟩)
        obtain ⟨hallocated, -, hnew⟩ := Storage.fresh_eq_some.1 hfresh
        have hfilter := (Option.filter_eq_some_iff.1 hallocated).2
        exact h.create hcall hphase hnew (of_decide_eq_true hfilter) hfree rfl
    | created uid =>
      rw [hphase] at hsettled
      obtain ⟨honly, howner, hlimit⟩ := hsettled
      exact h.insert hcall hphase honly howner hlimit
    | returned registered =>
      exact h.move (call.move (.returned registered)) index trivial
        (fun hreturned => hrefused (hphase.trans hreturned)) rfl
    | terminated => exact h.move (call.move .terminated) index trivial RegistrationPhase.noConfusion rfl

end Advance

/-! ## The end of a registration -/

/-- What an unregistration does to the records. -/
theorem unregisterStallion_frame (lookups : UnregisterLookups) (horseUid uid : Uid)
    (data : DataDirector) :
    (unregisterStallion lookups horseUid uid data).characters = data.characters ∧
      ∀ other, isGrown data other = true →
        isGrown (unregisterStallion lookups horseUid uid data) other = true := by
  have hadult : Horse.Kind.adult ≠ Horse.Kind.foal := by decide
  have hpaid : ∀ (created : Option Uid) (now : TimePoint) (characterUid : Uid) (type : RewardType)
      (carrots : UInt32), (Reward.createReward created now characterUid type carrots data).2.characters =
        data.characters ∧ (Reward.createReward created now characterUid type carrots data).2.horses =
          data.horses := by
    intro created now characterUid type carrots
    rw [Reward.createReward]
    split
    · exact ⟨rfl, rfl⟩
    · exact ⟨rfl, rfl⟩
  rw [unregisterStallion]
  split
  · next stallion horse hstallion hhorse =>
    dsimp only
    split
    · obtain ⟨hcharacters, hhorses⟩ := hpaid lookups.reward lookups.now stallion.ownerUid .breeding
        (earningsOf stallion).earnings
      refine ⟨hcharacters, fun other hother => ?_⟩
      have hsame : isGrown (Reward.createReward lookups.reward lookups.now stallion.ownerUid .breeding
          (earningsOf stallion).earnings data).2 other = true := by
        rw [isGrown, hhorses]
        exact hother
      exact isGrown_write hadult hsame
    · exact ⟨rfl, fun other hother => isGrown_write hadult hother⟩
  · exact ⟨rfl, fun _ => id⟩

theorem mem_registrations_erase {market : Market} {entry : Uid × Uid} :
    entry ∈ (market.erase horseUid).registrations ↔
      entry ∈ market.registrations ∧ entry.1 ≠ horseUid := by
  rw [Market.erase, mem_filter]
  simp

/-- The end of a registration keeps the other ones, if the record that goes belongs to it. -/
theorem Tended.end (h : Tended paddock) (lookups : UnregisterLookups) (entry : Uid × Uid)
    (hhorse : ∀ stallion, paddock.data.stallions entry.2 = some stallion → stallion.horseUid = entry.1)
    (hcreated : ∀ call ∈ paddock.calls, call.phase ≠ .created entry.2) :
    Tended (paddock.withMarket (expire (fun _ => lookups) paddock.ranch.toMarket entry)) := by
  obtain ⟨hcharacters, hgrown⟩ := unregisterStallion_frame lookups entry.1 entry.2 paddock.data
  have hshrunk := shrunk_unregisterStallion lookups entry.1 entry.2 paddock.data
  have hother : ∀ uid, uid ≠ entry.2 →
      (unregisterStallion lookups entry.1 entry.2 paddock.data).stallions uid =
        paddock.data.stallions uid := by
    intro uid huid
    obtain hsame | herased := unregisterStallion_stallions lookups entry.1 entry.2 paddock.data
    · rw [hsame]
    · rw [herased, update_of_ne huid]
  have hhas := hasHorse_of_characters hcharacters
  have hmem : ∀ {other : Uid × Uid},
      other ∈ ((expire (fun _ => lookups) paddock.ranch.toMarket entry)).registrations →
        other ∈ paddock.registrations ∧ other.1 ≠ entry.1 := mem_registrations_erase.1
  constructor
  · constructor
    · intro other hmemOther
      obtain ⟨hold, hne⟩ := hmem hmemOther
      obtain ⟨stallion, hstallion, hsame, howner⟩ := h.owned.record other hold
      -- The record that goes is of another horse.
      have huid : other.2 ≠ entry.2 := fun heq =>
        hne (hsame.symm.trans (hhorse stallion (heq ▸ hstallion)))
      exact ⟨stallion, (hother other.2 huid).trans hstallion, hsame,
        (hhas stallion.ownerUid other.1).trans howner⟩
    · intro other hmemOther uid stallion hstallion hsame
      exact h.owned.unique other (hmem hmemOther).1 uid stallion (hshrunk uid stallion hstallion) hsame
    · intro characterUid
      have hle : stabled paddock.data
          ((expire (fun _ => lookups) paddock.ranch.toMarket entry)).registrations characterUid ≤
            stabled paddock.data paddock.registrations characterUid :=
        List.Sublist.countP_le filter_sublist
      refine le_trans (le_of_eq ?_) (hle.trans (h.owned.limit characterUid))
      exact countP_congr fun other _ => by rw [← hhas characterUid other.1]; rfl
    · exact h.owned.refused
  · exact h.nodup.sublist (filter_sublist.map Prod.fst)
  · exact fun other hmemOther => hgrown other.1 (h.grown other (hmem hmemOther).1)
  · intro call hcall
    have hproceeds := h.proceeds call hcall
    have hphase := hcreated call hcall
    rw [Proceeds] at hproceeds ⊢
    cases hcallPhase : call.phase with
    | typed =>
      rw [hcallPhase] at hproceeds
      exact hgrown call.horseUid hproceeds
    | created uid =>
      rw [hcallPhase] at hproceeds hphase
      obtain ⟨hcallGrown, hrecord, hentries, hmemAllocated⟩ := hproceeds
      have huid : uid ≠ entry.2 := fun heq => hphase (congrArg _ heq)
      refine ⟨hgrown call.horseUid hcallGrown, ?_, fun other hmemOther => ?_, hmemAllocated⟩
      · exact (congrArg (Option.map parties) (hother uid huid)).trans hrecord
      · obtain hregistered | hcollected := mem_append.1 hmemOther
        · exact hentries other (mem_append_left _ (hmem hregistered).1)
        · exact hentries other (mem_append_right _ hcollected)
    | _ =>
      rw [hcallPhase] at hproceeds
      exact hproceeds
  · exact h.distinct
  · exact fun other hcollected stallion hstallion =>
      h.collected other hcollected stallion (hshrunk other.2 stallion hstallion)
  · intro other hmemOther
    obtain hregistered | hcollected := mem_append.1 hmemOther
    · exact h.allocated other (mem_append_left _ (hmem hregistered).1)
    · exact h.allocated other (mem_append_right _ hcollected)

theorem tended_unregister (h : Tended paddock) (lookups : UnregisterLookups)
    (characterUid horseUid : Uid) : Tended (paddock.withMarket
      (handleUnregisterStallion lookups characterUid horseUid paddock.ranch.toMarket).2) := by
  rw [handleUnregisterStallion]
  split
  · exact h
  next uid hregistered =>
  split
  · split
    · obtain ⟨_, _, hentries, -⟩ := lookup_eq_some_iff.1 hregistered
      have hentry : (horseUid, uid) ∈ paddock.registrations := by
        show (horseUid, uid) ∈ paddock.ranch.registrations
        rw [hentries]
        exact mem_append_right _ mem_cons_self
      refine h.end lookups (horseUid, uid) (fun stallion hstallion => ?_) fun call hcall hphase => ?_
      · obtain ⟨record, hrecord, hsame, -⟩ := h.owned.record _ hentry
        cases hrecord.symm.trans hstallion
        exact hsame
      · have hproceeds := h.proceeds call hcall
        rw [Proceeds, hphase] at hproceeds
        exact hproceeds.2.2.1 _ (mem_append_left _ hentry) rfl
    · exact h
  · exact h

theorem tended_expire (lookups : Uid → UnregisterLookups) (entries : List (Uid × Uid)) :
    ∀ {paddock : Paddock}, Tended paddock →
      (∀ entry ∈ entries, (∀ stallion, paddock.data.stallions entry.2 = some stallion →
        stallion.horseUid = entry.1) ∧ ∀ call ∈ paddock.calls, call.phase ≠ .created entry.2) →
      Tended (paddock.withMarket (entries.foldl (expire lookups) paddock.ranch.toMarket)) := by
  induction entries with
  | nil => exact fun h _ => h
  | cons entry rest ih =>
    intro paddock h hentries
    obtain ⟨hhorse, hcreated⟩ := hentries entry mem_cons_self
    have hfirst := h.end (lookups entry.1) entry hhorse hcreated
    refine ih hfirst fun other hother => ?_
    obtain ⟨hotherHorse, hotherCreated⟩ := hentries other (mem_cons_of_mem _ hother)
    refine ⟨fun stallion hstallion => hotherHorse stallion ?_, hotherCreated⟩
    exact shrunk_unregisterStallion _ _ _ _ other.2 stallion hstallion

/-- What is collected from the registrations does not matter to the paddock. -/
theorem Tended.recollect (h : Tended paddock) {collected : List (Uid × Uid)}
    (hmem : ∀ {entry : Uid × Uid}, entry ∈ collected → entry ∈ paddock.registrations) :
    Tended { paddock with collected } := by
  refine ⟨⟨h.owned.record, h.owned.unique, h.owned.limit, h.owned.refused⟩, h.nodup, h.grown, ?_,
    h.distinct, ?_, ?_⟩
  · intro call hcall
    have hproceeds := h.proceeds call hcall
    rw [Proceeds] at hproceeds ⊢
    cases hphase : call.phase with
    | created uid =>
      rw [hphase] at hproceeds
      obtain ⟨hgrown, hrecord, hentries, hallocated⟩ := hproceeds
      refine ⟨hgrown, hrecord, fun entry hentry => ?_, hallocated⟩
      obtain hregistered | hcollected := mem_append.1 hentry
      · exact hentries entry (mem_append_left _ hregistered)
      · exact hentries entry (mem_append_left _ (hmem hcollected))
    | _ =>
      rw [hphase] at hproceeds
      exact hproceeds
  · intro entry hentry stallion hstallion
    obtain ⟨record, hrecord, hsame, -⟩ := h.owned.record entry (hmem hentry)
    cases hrecord.symm.trans hstallion
    exact hsame
  · intro entry hentry
    obtain hregistered | hcollected := mem_append.1 hentry
    · exact h.allocated entry (mem_append_left _ hregistered)
    · exact h.allocated entry (mem_append_left _ (hmem hcollected))

theorem Tended.clear (h : Tended paddock) : Tended { paddock with collected := [] } :=
  h.recollect nofun

theorem tended_collectExpired (h : Tended paddock) (available : Uid → Bool) (now : TimePoint) :
    Tended { paddock with collected := expired available now paddock.ranch.toMarket } :=
  h.recollect mem_of_mem_filter

theorem tended_expireCollected (h : Tended paddock) (lookups : Uid → UnregisterLookups) :
    Tended { paddock.withMarket (paddock.collected.foldl (expire lookups) paddock.ranch.toMarket) with
      collected := [] } := by
  refine Tended.clear (tended_expire lookups paddock.collected h fun entry hentry => ?_)
  refine ⟨h.collected entry hentry, fun call hcall hphase => ?_⟩
  have hproceeds := h.proceeds call hcall
  rw [Proceeds, hphase] at hproceeds
  exact hproceeds.2.2.1 entry (mem_append_right _ hentry) rfl

end Steps

end Alicia.Breeding
