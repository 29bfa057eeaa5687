import Alicia.Collection.Maps
import Alicia.Data.Definitions
import Alicia.Transition.Run

/-!
# The tracker of a ranch

The tracker gives each character and each horse of a ranch an object identifier.  One counter of 16 bits
serves both, and it is neither reset nor compared with the identifiers that are in use.
-/

namespace Alicia

open Std (ExtTreeMap)
open Data (Uid)
open Transition Collection

abbrev Oid := UInt16

def invalidEntityOid : Oid := 0

structure RanchTracker where
  nextObjectId : Oid := 1
  characters : ExtTreeMap Uid Oid := ∅
  horses : ExtTreeMap Uid Oid := ∅
  deriving DecidableEq

namespace RanchTracker

variable (tracker : RanchTracker)

/-- Returns the identifier of the character, which is a new one if it was not tracked. -/
def addCharacter (character : Uid) : Oid × RanchTracker :=
  match tracker.characters[character]? with
  | some oid => (oid, tracker)
  | none =>
    (tracker.nextObjectId, { tracker with
      characters := tracker.characters.insert character tracker.nextObjectId
      nextObjectId := tracker.nextObjectId + 1 })

def removeCharacter (character : Uid) : RanchTracker :=
  { tracker with characters := tracker.characters.erase character }

def getCharacterOid (character : Uid) : Oid :=
  tracker.characters[character]?.getD invalidEntityOid

def addHorse (horse : Uid) : Oid × RanchTracker :=
  match tracker.horses[horse]? with
  | some oid => (oid, tracker)
  | none =>
    (tracker.nextObjectId, { tracker with
      horses := tracker.horses.insert horse tracker.nextObjectId
      nextObjectId := tracker.nextObjectId + 1 })

def removeHorse (horse : Uid) : RanchTracker :=
  { tracker with horses := tracker.horses.erase horse }

def getHorseOid (horse : Uid) : Oid :=
  tracker.horses[horse]?.getD invalidEntityOid

/-! ## Objects -/

inductive Object where
  | character (uid : Uid)
  | horse (uid : Uid)
  deriving DecidableEq

/-- The identifier which an object is tracked with. -/
def oid? : Object → Option Oid
  | .character uid => tracker.characters[uid]?
  | .horse uid => tracker.horses[uid]?

def add : Object → RanchTracker
  | .character uid => (tracker.addCharacter uid).2
  | .horse uid => (tracker.addHorse uid).2

def remove : Object → RanchTracker
  | .character uid => tracker.removeCharacter uid
  | .horse uid => tracker.removeHorse uid

variable {tracker}

variable {object : Object}

/-- A tracked object keeps its identifier. -/
theorem add_of_tracked {oid : Oid} (h : tracker.oid? object = some oid) :
    tracker.add object = tracker := by
  cases object with
  | character uid =>
    have htracked : tracker.characters[uid]? = some oid := h
    rw [add, addCharacter, htracked]
  | horse uid =>
    have htracked : tracker.horses[uid]? = some oid := h
    rw [add, addHorse, htracked]

theorem oid?_add_of_untracked (h : tracker.oid? object = none) (other : Object) :
    (tracker.add object).oid? other =
      if other = object then some tracker.nextObjectId else tracker.oid? other := by
  cases object with
  | character uid =>
    have hnone : tracker.characters[uid]? = none := h
    rw [add, addCharacter, hnone]
    cases other with
    | horse key => exact (if_neg Object.noConfusion).symm
    | character key =>
      simp only [oid?, Object.character.injEq]
      exact getElem?_insert_self_or_ne _ _ _ _
  | horse uid =>
    have hnone : tracker.horses[uid]? = none := h
    rw [add, addHorse, hnone]
    cases other with
    | character key => exact (if_neg Object.noConfusion).symm
    | horse key =>
      simp only [oid?, Object.horse.injEq]
      exact getElem?_insert_self_or_ne _ _ _ _

theorem oid?_remove (object other : Object) :
    (tracker.remove object).oid? other = if other = object then none else tracker.oid? other := by
  cases object with
  | character uid =>
    cases other with
    | horse key => exact (if_neg Object.noConfusion).symm
    | character key =>
      simp only [oid?, remove, removeCharacter, Object.character.injEq]
      exact getElem?_erase_self_or_ne _ _ _
  | horse uid =>
    cases other with
    | character key => exact (if_neg Object.noConfusion).symm
    | horse key =>
      simp only [oid?, remove, removeHorse, Object.horse.injEq]
      exact getElem?_erase_self_or_ne _ _ _

/-! ## Distinct identifiers -/

variable (tracker) in
/-- No two tracked objects have one identifier, and none has the invalid one. -/
structure Distinct : Prop where
  valid : ∀ object oid, tracker.oid? object = some oid → oid ≠ invalidEntityOid
  injective : ∀ first second oid, tracker.oid? first = some oid → tracker.oid? second = some oid →
    first = second

variable (tracker) in
/-- The counter stands at an identifier that can be given to an object. -/
structure Fresh : Prop where
  valid : tracker.nextObjectId ≠ invalidEntityOid
  unused : ∀ object, tracker.oid? object ≠ some tracker.nextObjectId

theorem distinct_empty : ({} : RanchTracker).Distinct := by
  have hnone : ∀ object, ({} : RanchTracker).oid? object = none := by
    intro object
    cases object with
    | character uid => exact ExtTreeMap.getElem?_empty
    | horse uid => exact ExtTreeMap.getElem?_empty
  constructor
  · intro object oid h
    cases (hnone object).symm.trans h
  · intro first second oid h
    cases (hnone first).symm.trans h

theorem Distinct.add (h : tracker.Distinct) (hnew : tracker.oid? object = none)
    (hfresh : tracker.Fresh) : (tracker.add object).Distinct := by
  have hnext : ∀ other oid, (tracker.add object).oid? other = some oid →
      other = object ∧ oid = tracker.nextObjectId ∨ other ≠ object ∧ tracker.oid? other = some oid := by
    intro other oid hoid
    rw [oid?_add_of_untracked hnew] at hoid
    by_cases hsame : other = object
    · rw [if_pos hsame] at hoid
      exact .inl ⟨hsame, (Option.some.inj hoid).symm⟩
    · rw [if_neg hsame] at hoid
      exact .inr ⟨hsame, hoid⟩
  constructor
  · intro other oid hoid
    obtain ⟨-, rfl⟩ | ⟨-, hold⟩ := hnext other oid hoid
    · exact hfresh.valid
    · exact h.valid other oid hold
  · intro first second oid hfirst hsecond
    obtain ⟨rfl, rfl⟩ | ⟨-, hfirst⟩ := hnext first oid hfirst
    · obtain ⟨rfl, -⟩ | ⟨-, hsecond⟩ := hnext second _ hsecond
      · rfl
      · exact absurd hsecond (hfresh.unused second)
    · obtain ⟨-, rfl⟩ | ⟨-, hsecond⟩ := hnext second _ hsecond
      · exact absurd hfirst (hfresh.unused first)
      · exact h.injective first second oid hfirst hsecond

/-- An object that is added when the counter is elsewhere breaks this. -/
theorem Distinct.fresh (h : (tracker.add object).Distinct) (hnew : tracker.oid? object = none) :
    tracker.Fresh := by
  have hself : (tracker.add object).oid? object = some tracker.nextObjectId := by
    rw [oid?_add_of_untracked hnew, if_pos rfl]
  refine ⟨h.valid object _ hself, fun other hother => ?_⟩
  have hne : other ≠ object := by
    rintro rfl
    cases hnew.symm.trans hother
  have hkept : (tracker.add object).oid? other = some tracker.nextObjectId := by
    rw [oid?_add_of_untracked hnew, if_neg hne, hother]
  exact hne (h.injective other object _ hkept hself)

theorem Distinct.remove (h : tracker.Distinct) (object : Object) :
    (tracker.remove object).Distinct := by
  have hkept : ∀ other oid, (tracker.remove object).oid? other = some oid →
      tracker.oid? other = some oid := by
    intro other oid hoid
    rw [oid?_remove] at hoid
    split at hoid
    · cases hoid
    · exact hoid
  constructor
  · intro other oid hoid
    exact h.valid other oid (hkept other oid hoid)
  · intro first second oid hfirst hsecond
    exact h.injective first second oid (hkept first oid hfirst) (hkept second oid hsecond)

/-! ## Many objects -/

/-- The counter is fresh, or the object does not need it. -/
def Admits (tracker : RanchTracker) (object : Object) : Prop :=
  tracker.oid? object = none → tracker.Fresh

/-- Objects that are added one after the other. -/
def addAll (objects : List Object) (tracker : RanchTracker) : RanchTracker :=
  run add tracker objects

/-- Each of the objects finds the counter fresh when it needs it. -/
def AdmitsAll (objects : List Object) (tracker : RanchTracker) : Prop :=
  Guarded add Admits tracker objects

theorem Distinct.add_of_admits (h : tracker.Distinct) (hadmits : tracker.Admits object) :
    (tracker.add object).Distinct := by
  cases hoid : tracker.oid? object with
  | none => exact h.add hoid (hadmits hoid)
  | some oid =>
    rw [add_of_tracked hoid]
    exact h

theorem Distinct.addAll (h : tracker.Distinct) {objects : List Object}
    (hadmits : tracker.AdmitsAll objects) : (tracker.addAll objects).Distinct :=
  Guarded.invariant (fun _ _ hdistinct hadmits => hdistinct.add_of_admits hadmits) h hadmits

theorem oid?_add_of_some {other : Object} {oid : Oid} (h : tracker.oid? other = some oid) :
    (tracker.add object).oid? other = some oid := by
  cases hoid : tracker.oid? object with
  | some found =>
    rw [add_of_tracked hoid]
    exact h
  | none =>
    have hne : other ≠ object := by
      rintro rfl
      cases hoid.symm.trans h
    rw [oid?_add_of_untracked hoid, if_neg hne, h]

/-- What is tracked afterwards was tracked or was added. -/
theorem isSome_oid?_addAll (objects : List Object) (other : Object) :
    ((tracker.addAll objects).oid? other).isSome = true ↔
      (tracker.oid? other).isSome = true ∨ other ∈ objects := by
  induction objects generalizing tracker with
  | nil => simp [addAll]
  | cons object rest ih =>
    have hrest := @ih (tracker.add object)
    refine hrest.trans ?_
    rw [List.mem_cons]
    cases hoid : tracker.oid? object with
    | some oid =>
      rw [add_of_tracked hoid]
      constructor
      · rintro (h | h)
        · exact .inl h
        · exact .inr (.inr h)
      · rintro (h | rfl | h)
        · exact .inl h
        · exact .inl (by rw [hoid]; rfl)
        · exact .inr h
    | none =>
      rw [oid?_add_of_untracked hoid]
      by_cases hsame : other = object
      · simp [hsame]
      · simp [hsame]

theorem Distinct.of_add (h : (tracker.add object).Distinct) : tracker.Distinct := by
  constructor
  · intro other oid hoid
    exact h.valid other oid (oid?_add_of_some hoid)
  · intro first second oid hfirst hsecond
    exact h.injective first second oid (oid?_add_of_some hfirst) (oid?_add_of_some hsecond)

theorem Distinct.of_addAll {objects : List Object} (h : (tracker.addAll objects).Distinct) :
    tracker.Distinct := by
  induction objects generalizing tracker with
  | nil => exact h
  | cons object rest ih => exact (ih h).of_add

/-- Identifiers stay distinct exactly if the counter is fresh whenever one is given. -/
theorem distinct_addAll_iff (h : tracker.Distinct) {objects : List Object} :
    (tracker.addAll objects).Distinct ↔ tracker.AdmitsAll objects := by
  refine ⟨fun hafter => ?_, h.addAll⟩
  induction objects generalizing tracker with
  | nil => trivial
  | cons object rest ih =>
    have hfirst : (tracker.add object).Distinct := @Distinct.of_addAll _ rest hafter
    exact ⟨fun hnew => hfirst.fresh hnew, ih hfirst hafter⟩

end RanchTracker

end Alicia
