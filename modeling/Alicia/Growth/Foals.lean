import Mathlib.Logic.Function.Basic
import Alicia.Data.Definitions

/-!
# Foals

A foal becomes an adult some time after its birth.  `PromoteMaturedFoals` reads the horses of a
character, promotes the foals whose time has come, and returns the due times of the others.  A horse
whose record is not available is left out.
-/

namespace Alicia.Growth

open List
open Data (Uid Horse)
open Chrono (TimePoint)

/-! ## Records -/

/-- `HorseSystem::FoalGrowUpDuration`, in the ticks of the system clock. -/
def foalGrowUpDuration : Int := 3600 * 10 ^ 9

/-- The time at which a horse has grown up. -/
def growUpTime (horse : Horse) : Int := horse.dateOfBirth.sinceEpoch.toInt + foalGrowUpDuration

/-- Due times by the uid of the horse. -/
abbrev MaturingFoals := List (Uid × Int)

/-- `unordered_map::emplace`, which keeps an entry that is there. -/
def MaturingFoals.emplace (horseUid : Uid) (due : Int) (foals : MaturingFoals) : MaturingFoals :=
  if foals.any (fun foal => foal.1 == horseUid) then foals else foals ++ [(horseUid, due)]

/-- The horses and the characters of the storage, with the availability of their records;
`listed` holds `horses` of each character. -/
structure Stables where
  horses : Uid → Option Horse := fun _ => none
  available : Uid → Bool := fun _ => false
  listed : Uid → List Uid := fun _ => []
  present : Uid → Bool := fun _ => false

namespace Stables

/-- `GetHorse`. -/
def getHorse (stables : Stables) (horseUid : Uid) : Option Horse :=
  if stables.available horseUid then stables.horses horseUid else none

def setType (horseUid : Uid) (type : Horse.Kind) (stables : Stables) : Stables :=
  { stables with
    horses := Function.update stables.horses horseUid
      ((stables.horses horseUid).map fun horse => { horse with type := type }) }

/-- The body of the loop of `PromoteMaturedFoals`. -/
def promoteHorse (now : Int) (found : Stables × MaturingFoals) (horseUid : Uid) :
    Stables × MaturingFoals :=
  match found.1.getHorse horseUid with
  | none => found
  | some horse =>
    if horse.type ≠ .foal then found
    else if growUpTime horse ≤ now then (found.1.setType horseUid .adult, found.2)
    else (found.1, found.2.emplace horseUid (growUpTime horse))

/-- `PromoteMaturedFoals`. -/
def promoteMaturedFoals (characterUid : Uid) (now : Int) (stables : Stables) :
    Stables × MaturingFoals :=
  if stables.present characterUid then
    (stables.listed characterUid).foldl (promoteHorse now) (stables, [])
  else (stables, [])

/-- A foal whose record is available becomes an adult. -/
def growUp (stables : Stables) (horseUid : Uid) : Stables :=
  match stables.getHorse horseUid with
  | none => stables
  | some horse => if horse.type = .foal then stables.setType horseUid .adult else stables

/-- `BreedingMarket::RegisterStallion` and `UnregisterStallion`, for what they do to the horse. -/
def retype (horseUid : Uid) (type : Horse.Kind) (stables : Stables) : Stables :=
  match stables.getHorse horseUid with
  | none => stables
  | some _ => stables.setType horseUid type

/-- `CreateBredFoal` and the addition of the foal to the horses of the character. -/
def addFoal (characterUid foalUid : Uid) (foal : Horse) (born : TimePoint) (stables : Stables) :
    Stables :=
  { stables with
    horses := Function.update stables.horses foalUid
      (some { foal with type := .foal, dateOfBirth := born })
    available := Function.update stables.available foalUid true
    listed := Function.update stables.listed characterUid
      (stables.listed characterUid ++ [foalUid]) }

end Stables

open Stables

/-- The type of the horse. -/
def Stables.typeOf (stables : Stables) (horseUid : Uid) : Option Horse.Kind :=
  (stables.horses horseUid).map (·.type)

/-! ## Changes of the records -/

/-- Every horse is as before, or has another type that is not that of a foal. -/
structure Aged (stables after : Stables) : Prop where
  horses : ∀ uid, after.horses uid = stables.horses uid ∨
    ∃ horse type, stables.horses uid = some horse ∧ type ≠ .foal ∧
      after.horses uid = some { horse with type := type }
  listed : after.listed = stables.listed

namespace Aged

theorem refl (stables : Stables) : Aged stables stables := ⟨fun _ => .inl rfl, rfl⟩

theorem trans {first second third : Stables} (h : Aged first second) (hnext : Aged second third) :
    Aged first third := by
  refine ⟨fun uid => ?_, hnext.listed.trans h.listed⟩
  rcases hnext.horses uid with hsame | ⟨horse, type, hhorse, htype, hafter⟩
  · rw [hsame]
    exact h.horses uid
  · rcases h.horses uid with hsame | ⟨original, previous, horiginal, -, hsecond⟩
    · exact .inr ⟨horse, type, hsame ▸ hhorse, htype, hafter⟩
    · cases hhorse.symm.trans hsecond
      exact .inr ⟨original, type, horiginal, htype, hafter⟩

variable {stables after : Stables}

theorem horse (h : Aged stables after) {uid : Uid} {horse : Horse}
    (hhorse : stables.horses uid = some horse) : ∃ type,
      after.horses uid = some { horse with type := type } ∧
        (horse.type ≠ .foal → type ≠ .foal) := by
  rcases h.horses uid with hsame | ⟨found, type, hfound, htype, hafter⟩
  · exact ⟨horse.type, hsame.trans hhorse, id⟩
  · cases hhorse.symm.trans hfound
    exact ⟨type, hafter, fun _ => htype⟩

/-- What is a foal has been one before. -/
theorem foal (h : Aged stables after) {uid : Uid} (hfoal : after.typeOf uid = some .foal) :
    stables.typeOf uid = some .foal := by
  rcases h.horses uid with hsame | ⟨horse, type, -, htype, hafter⟩
  · rwa [typeOf, ← hsame]
  · rw [typeOf, hafter] at hfoal
    exact absurd (Option.some.inj hfoal) htype

end Aged

theorem horses_of_getHorse {stables : Stables} {uid : Uid} {horse : Horse}
    (h : stables.getHorse uid = some horse) :
    stables.available uid = true ∧ stables.horses uid = some horse := by
  unfold getHorse at h
  split at h
  · exact ⟨by assumption, h⟩
  · cases h

variable {type : Horse.Kind}

theorem horses_setType {stables : Stables} {uid : Uid} {horse : Horse}
    (h : stables.horses uid = some horse) (other : Uid) :
    (stables.setType uid type).horses other =
      if other = uid then some { horse with type := type } else stables.horses other := by
  by_cases hsame : other = uid
  · subst hsame
    simp [setType, h]
  · simp [setType, hsame]

theorem aged_setType {stables : Stables} {uid : Uid} {horse : Horse}
    (h : stables.horses uid = some horse) (htype : type ≠ .foal) :
    Aged stables (stables.setType uid type) := by
  refine ⟨fun other => ?_, rfl⟩
  by_cases hsame : other = uid
  · subst hsame
    exact .inr ⟨horse, type, h, htype, by simp [horses_setType h]⟩
  · exact .inl (by simp [horses_setType h, hsame])

theorem aged_retype (stables : Stables) (uid : Uid) (type : Horse.Kind) (htype : type ≠ .foal) :
    Aged stables (stables.retype uid type) := by
  unfold retype
  split
  · exact .refl stables
  next hget => exact aged_setType (horses_of_getHorse hget).2 htype

theorem aged_growUp (stables : Stables) (uid : Uid) : Aged stables (stables.growUp uid) := by
  unfold growUp
  split
  · exact .refl stables
  next hget =>
    split
    · exact aged_setType (horses_of_getHorse hget).2 nofun
    · exact .refl stables

theorem aged_growUps (uids : List Uid) (stables : Stables) :
    Aged stables (uids.foldl growUp stables) := by
  induction uids generalizing stables with
  | nil => exact .refl stables
  | cons uid rest ih => exact (aged_growUp stables uid).trans (ih _)

/-! ## Promotions -/

/-- Only foals whose time has come have changed, and they are adults. -/
structure GrownFoals (now : Int) (stables after : Stables) : Prop where
  horses : ∀ uid, after.horses uid = stables.horses uid ∨
    ∃ horse, stables.horses uid = some horse ∧ horse.type = .foal ∧ growUpTime horse ≤ now ∧
      after.horses uid = some { horse with type := .adult }
  available : after.available = stables.available
  listed : after.listed = stables.listed
  present : after.present = stables.present

/-- The foals of the character whose records are available and whose time has come are adults. -/
def Promoted (characterUid : Uid) (now : Int) (stables after : Stables) : Prop :=
  ∀ uid ∈ stables.listed characterUid, ∀ horse, stables.getHorse uid = some horse →
    horse.type = .foal → growUpTime horse ≤ now →
      after.getHorse uid = some { horse with type := .adult }

namespace GrownFoals

variable {now : Int}

theorem refl (stables : Stables) : GrownFoals now stables stables :=
  ⟨fun _ => .inl rfl, rfl, rfl, rfl⟩

theorem trans {first second third : Stables} (h : GrownFoals now first second)
    (hnext : GrownFoals now second third) : GrownFoals now first third := by
  refine ⟨fun uid => ?_, hnext.available.trans h.available, hnext.listed.trans h.listed,
    hnext.present.trans h.present⟩
  rcases hnext.horses uid with hsame | ⟨horse, hhorse, hfoal, hnow, hafter⟩
  · rw [hsame]
    exact h.horses uid
  · rcases h.horses uid with hsame | ⟨original, -, -, -, hsecond⟩
    · exact .inr ⟨horse, hsame ▸ hhorse, hfoal, hnow, hafter⟩
    · cases hhorse.symm.trans hsecond
      cases hfoal

variable {stables after : Stables}

theorem aged (h : GrownFoals now stables after) : Aged stables after := by
  refine ⟨fun uid => ?_, h.listed⟩
  rcases h.horses uid with hsame | ⟨horse, hhorse, -, -, hafter⟩
  · exact .inl hsame
  · exact .inr ⟨horse, .adult, hhorse, nofun, hafter⟩

theorem getHorse (h : GrownFoals now stables after) {uid : Uid} {horse : Horse}
    (hhorse : stables.getHorse uid = some horse) :
    after.getHorse uid = some horse ∨
      (horse.type = .foal ∧ after.getHorse uid = some { horse with type := .adult }) := by
  obtain ⟨havailable, hhorse⟩ := horses_of_getHorse hhorse
  have hafter : after.getHorse uid = after.horses uid := by
    rw [Stables.getHorse, h.available, if_pos havailable]
  rw [hafter]
  rcases h.horses uid with hsame | ⟨found, hfound, hfoal, -, hgrown⟩
  · exact .inl (hsame.trans hhorse)
  · cases hhorse.symm.trans hfound
    exact .inr ⟨hfoal, hgrown⟩

/-- An adult remains one. -/
theorem getHorse_adult (h : GrownFoals now stables after) {uid : Uid} {horse : Horse}
    (hhorse : stables.getHorse uid = some { horse with type := .adult }) :
    after.getHorse uid = some { horse with type := .adult } := by
  rcases h.getHorse hhorse with hsame | ⟨hfoal, -⟩
  · exact hsame
  · cases hfoal

end GrownFoals

theorem grown_setType {stables : Stables} {uid : Uid} {horse : Horse} {now : Int}
    (h : stables.getHorse uid = some horse) (hfoal : horse.type = .foal)
    (hnow : growUpTime horse ≤ now) : GrownFoals now stables (stables.setType uid .adult) := by
  have hhorse := (horses_of_getHorse h).2
  refine ⟨fun other => ?_, rfl, rfl, rfl⟩
  by_cases hsame : other = uid
  · subst hsame
    exact .inr ⟨horse, hhorse, hfoal, hnow, by simp [horses_setType hhorse]⟩
  · exact .inl (by simp [horses_setType hhorse, hsame])

theorem getHorse_setType {stables : Stables} {uid : Uid} {horse : Horse}
    (h : stables.getHorse uid = some horse) :
    (stables.setType uid type).getHorse uid = some { horse with type := type } := by
  obtain ⟨havailable, hhorse⟩ := horses_of_getHorse h
  have hsame : (stables.setType uid type).available uid = true := havailable
  rw [getHorse, if_pos hsame, horses_setType hhorse, if_pos rfl]

variable {entry : Uid × Int}

variable {foals : MaturingFoals}

theorem mem_emplace {uid : Uid} {due : Int} :
    entry ∈ foals → entry ∈ foals.emplace uid due := by
  intro h
  unfold MaturingFoals.emplace
  split
  · exact h
  · exact mem_append_left _ h

theorem exists_mem_emplace (uid : Uid) (due : Int) (foals : MaturingFoals) :
    ∃ found, (uid, found) ∈ foals.emplace uid due := by
  unfold MaturingFoals.emplace
  split
  next hany =>
    obtain ⟨⟨found, time⟩, hmem, hsame⟩ := any_eq_true.1 hany
    cases eq_of_beq hsame
    exact ⟨time, hmem⟩
  · exact ⟨due, by simp⟩

theorem eq_or_mem_of_mem_emplace {uid : Uid} {due : Int} (h : entry ∈ foals.emplace uid due) :
    entry ∈ foals ∨ entry = (uid, due) := by
  unfold MaturingFoals.emplace at h
  split at h
  · exact .inl h
  · simpa using h

/-- Each due time belongs to a horse, and is not before the horse has grown up. -/
def Timely (stables : Stables) (foals : MaturingFoals) : Prop :=
  ∀ uid due, (uid, due) ∈ foals → ∃ horse, stables.horses uid = some horse ∧
    growUpTime horse ≤ due

theorem Timely.aged {stables after : Stables} (h : Timely stables foals)
    (haged : Aged stables after) : Timely after foals := by
  intro uid due hmem
  obtain ⟨horse, hhorse, hle⟩ := h uid due hmem
  obtain ⟨type, hafter, -⟩ := haged.horse hhorse
  exact ⟨_, hafter, hle⟩

section Promote

variable {now : Int}

theorem grown_promoteHorse (found : Stables × MaturingFoals) (uid : Uid) :
    GrownFoals now found.1 (promoteHorse now found uid).1 := by
  unfold promoteHorse
  split
  · exact .refl _
  next horse hget =>
    split
    · exact .refl _
    next hfoal =>
      split
      next hnow => exact grown_setType hget (not_not.1 hfoal) hnow
      · exact .refl _

theorem grown_promote (uids : List Uid) (found : Stables × MaturingFoals) :
    GrownFoals now found.1 (uids.foldl (promoteHorse now) found).1 := by
  induction uids generalizing found with
  | nil => exact .refl _
  | cons uid rest ih => exact (grown_promoteHorse found uid).trans (ih _)

variable {found : Stables × MaturingFoals}

theorem promoteHorse_promotes {uid : Uid} {horse : Horse} (hget : found.1.getHorse uid = some horse)
    (hfoal : horse.type = .foal) (hnow : growUpTime horse ≤ now) :
    (promoteHorse now found uid).1.getHorse uid =
      some { horse with type := .adult } := by
  simp only [promoteHorse, hget, hfoal, ne_eq, not_true_eq_false, if_false, if_pos hnow]
  exact getHorse_setType hget

variable {uids : List Uid}

/-- Each foal of the list whose record is available and whose time has come is an adult. -/
theorem promote_promotes {uid : Uid} (hmem : uid ∈ uids) {horse : Horse}
    (hget : found.1.getHorse uid = some horse) (hfoal : horse.type = .foal)
    (hnow : growUpTime horse ≤ now) :
    (uids.foldl (promoteHorse now) found).1.getHorse uid =
      some { horse with type := .adult } := by
  induction uids generalizing found with
  | nil => cases hmem
  | cons head rest ih =>
    rw [foldl_cons]
    rcases mem_cons.1 hmem with rfl | hrest
    · exact (grown_promote rest _).getHorse_adult (promoteHorse_promotes hget hfoal hnow)
    · have hhead : GrownFoals now found.1 _ := grown_promoteHorse found head
      rcases hhead.getHorse hget with hsame | ⟨-, hgrown⟩
      · exact ih hrest hsame
      · exact (grown_promote rest _).getHorse_adult hgrown

theorem mem_promoteHorse (uid : Uid) (h : entry ∈ found.2) :
    entry ∈ (promoteHorse now found uid).2 := by
  unfold promoteHorse
  split
  · exact h
  · split
    · exact h
    · split
      · exact h
      · exact mem_emplace h

theorem mem_promote (h : entry ∈ found.2) :
    entry ∈ (uids.foldl (promoteHorse now) found).2 := by
  induction uids generalizing found with
  | nil => exact h
  | cons uid rest ih => exact ih (mem_promoteHorse uid h)

/-- A horse whose record is available is no foal any more, or has a due time. -/
theorem promoteHorse_covers {uid : Uid} (havailable : found.1.available uid = true)
    (hfoal : (promoteHorse now found uid).1.typeOf uid = some .foal) :
    ∃ due, (uid, due) ∈ (promoteHorse now found uid).2 := by
  unfold promoteHorse at hfoal ⊢
  split at hfoal
  next hget =>
    rw [getHorse, if_pos havailable] at hget
    simp [typeOf, hget] at hfoal
  next horse hget =>
    split at hfoal
    next htype =>
      rw [typeOf, (horses_of_getHorse hget).2] at hfoal
      exact absurd (Option.some.inj hfoal) htype
    next htype =>
      split at hfoal
      · simp only [typeOf, horses_setType (horses_of_getHorse hget).2] at hfoal
        cases hfoal
      next hlater =>
        rw [if_neg htype, if_neg hlater]
        exact exists_mem_emplace _ _ _

theorem promote_covers {uid : Uid} (hmem : uid ∈ uids) (havailable : found.1.available uid = true)
    (hfoal : (uids.foldl (promoteHorse now) found).1.typeOf uid = some .foal) :
    ∃ due, (uid, due) ∈ (uids.foldl (promoteHorse now) found).2 := by
  induction uids generalizing found with
  | nil => cases hmem
  | cons head rest ih =>
    rw [foldl_cons] at hfoal ⊢
    rcases mem_cons.1 hmem with rfl | hrest
    · have hearlier := (grown_promote rest _).aged.foal hfoal
      obtain ⟨due, hentry⟩ := promoteHorse_covers havailable hearlier
      exact ⟨due, mem_promote hentry⟩
    · refine ih hrest ?_ hfoal
      rw [(grown_promoteHorse found head).available, havailable]

theorem timely_promoteHorse (h : Timely found.1 found.2) (uid : Uid) :
    Timely (promoteHorse now found uid).1
      (promoteHorse now found uid).2 := by
  have hgrown : GrownFoals now found.1 _ := grown_promoteHorse found uid
  have haged := hgrown.aged
  unfold promoteHorse at haged ⊢
  split
  · exact h
  next horse hget =>
    simp only [hget] at haged
    split
    · exact h
    next htype =>
      rw [if_neg htype] at haged
      split
      next hnow =>
        rw [if_pos hnow] at haged
        exact h.aged haged
      · intro other due hmem
        rcases eq_or_mem_of_mem_emplace hmem with hold | hnew
        · exact h other due hold
        · cases hnew
          exact ⟨horse, (horses_of_getHorse hget).2, Int.le_refl _⟩

theorem timely_promote (uids : List Uid) (h : Timely found.1 found.2) :
    Timely (uids.foldl (promoteHorse now) found).1
      (uids.foldl (promoteHorse now) found).2 := by
  induction uids generalizing found with
  | nil => exact h
  | cons uid rest ih => exact ih (timely_promoteHorse h uid)

/-- Where the time of a horse has come, a check does what an entry does. -/
theorem growUp_eq {stables : Stables} {uid : Uid} (foals : MaturingFoals)
    (h : ∀ horse, stables.horses uid = some horse → growUpTime horse ≤ now) :
    (promoteHorse now (stables, foals) uid) = (stables.growUp uid, foals) := by
  unfold promoteHorse growUp
  cases hget : stables.getHorse uid with
  | none => rfl
  | some horse =>
    by_cases hfoal : horse.type = .foal
    · simp [hfoal, h horse (horses_of_getHorse hget).2]
    · simp [hfoal]

theorem growUps_eq {stables : Stables} (foals : MaturingFoals)
    (h : ∀ uid ∈ uids, ∀ horse, stables.horses uid = some horse → growUpTime horse ≤ now) :
    uids.foldl (promoteHorse now) (stables, foals) =
      (uids.foldl growUp stables, foals) := by
  induction uids generalizing stables with
  | nil => rfl
  | cons uid rest ih =>
    rw [foldl_cons, foldl_cons, growUp_eq foals (h uid mem_cons_self)]
    refine ih fun other hmem horse hhorse => ?_
    rcases (aged_growUp stables uid).horses other with hsame | ⟨found, type, hfound, -, hafter⟩
    · exact h other (mem_cons_of_mem _ hmem) horse (hsame ▸ hhorse)
    · cases hhorse.symm.trans hafter
      exact h other (mem_cons_of_mem _ hmem) found hfound

end Promote

theorem grown_promoteMaturedFoals (characterUid : Uid) (now : Int) (stables : Stables) :
    GrownFoals now stables (stables.promoteMaturedFoals characterUid now).1 := by
  unfold promoteMaturedFoals
  split
  · exact grown_promote (stables.listed characterUid) (stables, [])
  · exact .refl stables

theorem exists_of_typeOf {stables : Stables} {uid : Uid} (h : stables.typeOf uid = some type) :
    ∃ horse, stables.horses uid = some horse ∧ horse.type = type :=
  Option.map_eq_some_iff.1 h

theorem typeOf_of_getHorse {stables : Stables} {uid : Uid} {horse : Horse}
    (h : stables.getHorse uid = some horse) : stables.typeOf uid = some horse.type := by
  rw [typeOf, (horses_of_getHorse h).2]
  rfl

theorem typeOf_growUp {stables : Stables} {uid : Uid} {horse : Horse}
    (h : stables.getHorse uid = some horse) : (stables.growUp uid).typeOf uid ≠ some .foal := by
  unfold growUp
  rw [h]
  dsimp only
  split
  · rw [typeOf_of_getHorse (getHorse_setType h)]
    nofun
  next hfoal =>
    rw [typeOf_of_getHorse h]
    exact fun heq => hfoal (Option.some.inj heq)

/-! ## Births -/

theorem horses_addFoal (stables : Stables) (characterUid foalUid : Uid) (foal : Horse)
    (born : TimePoint) (uid : Uid) :
    (stables.addFoal characterUid foalUid foal born).horses uid =
      if uid = foalUid then some { foal with type := .foal, dateOfBirth := born }
      else stables.horses uid := by
  by_cases hsame : uid = foalUid
  · subst hsame
    simp [addFoal]
  · simp [addFoal, hsame]

theorem Timely.addFoal {stables : Stables} (h : Timely stables foals) {foalUid : Uid}
    (hnew : stables.horses foalUid = none) (characterUid : Uid) (foal : Horse) (born : TimePoint) :
    Timely (stables.addFoal characterUid foalUid foal born) foals := by
  intro uid due hmem
  obtain ⟨horse, hhorse, hle⟩ := h uid due hmem
  have hne : uid ≠ foalUid := by
    rintro rfl
    cases hhorse.symm.trans hnew
  exact ⟨horse, by rwa [horses_addFoal, if_neg hne], hle⟩

end Alicia.Growth
