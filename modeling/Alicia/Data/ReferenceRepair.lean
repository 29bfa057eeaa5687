import Alicia.Data.CharacterReferences
import Mathlib.Tactic.Tauto

/-!
# The two passes of the repair

`CleanseCharacterReferences` looks for damage, chooses the new mount and only then drops the
references to what is damaged.  Time passes between the two passes, and a datum that has been
failing becomes damaged when its grace period ends.

So each pass has a time of its own here.
-/

namespace Alicia.Data.Load

open Function List

/-- The data of the references that are visited. -/
def slotData (character : Character) : List Datum := Slot.all.flatMap (data character)

/-- The character, with the references and the mount of another one. -/
def withReferences (source character : Character) : Character :=
  { character with
    inventory := source.inventory
    characterEquipment := source.characterEquipment
    expiredEquipment := source.expiredEquipment
    horses := source.horses
    breedingWishlist := source.breedingWishlist
    eggs := source.eggs
    pets := source.pets
    housing := source.housing
    gifts := source.gifts
    purchases := source.purchases
    mailbox := { character.mailbox with
      inbox := source.mailbox.inbox
      sent := source.mailbox.sent }
    quests := source.quests
    guildUid := source.guildUid
    petUid := source.petUid
    settingsUid := source.settingsUid
    dailyQuestGroupUid := source.dailyQuestGroupUid
    mountUid := source.mountUid }

namespace World

/-- `CleanseCharacterReferences`, for an available character.  The first pass happens at the time
`now`, and the second one at the time `later`. -/
def cleanseReferences (now later : Time) (world : World) : Bool × World :=
  let retried := (inspected world.character).foldl (retry now) world
  if (inspected world.character).any (world.isDamaged now) then
    let isMountDamaged := world.isDamaged now (.horse, world.character.mountUid)
    let (repaired, replacement) :=
      if isMountDamaged then retried.replaceMount now else (retried, invalidUid)
    let visited := (slotData world.character).foldl (retry later) repaired
    let character := dropDamaged (repaired.isDamaged later) world.character
    (true, { visited with
      character := if isMountDamaged then mountReplacement replacement character else character })
  else (false, retried)

variable {world : World} {now later : Time} {datum : Datum}

/-! ## What the passes do -/

/-- The horse that becomes the mount, if there is one. -/
def replacementOf (world : World) (now : Time) : Uid :=
  if world.isDamaged now (.horse, world.character.mountUid) then (world.replaceMount now).2
  else invalidUid

theorem references_dropDamaged (damaged : Datum → Bool) (character : Character) (slot : Slot) :
    references (dropDamaged damaged character) slot =
      (references character slot).filter fun uid => !damaged (slot.kind, uid) := by
  have hsingle : ∀ kind uid, single (clearDamaged (fun uid => damaged (kind, uid)) uid) =
      (single uid).filter fun uid => !damaged (kind, uid) := by
    intro kind uid
    unfold single clearDamaged
    cases hdamaged : damaged (kind, uid) with
    | true => by_cases hinvalid : uid = invalidUid <;> simp [hinvalid, hdamaged]
    | false => by_cases hinvalid : uid = invalidUid <;> simp [hinvalid, hdamaged]
  cases slot with
  | guild => exact hsingle .guild _
  | pet => exact hsingle .pet _
  | settings => exact hsingle .settings _
  | dailyQuestGroup => exact hsingle .dailyQuestGroup _
  | breedingWishlist => exact Std.ExtTreeSet.toList_filter
  | _ => rfl

theorem references_mountReplacement (replacement : Uid) (character : Character) (slot : Slot) :
    references (mountReplacement replacement character) slot =
      (references character slot).filter fun uid =>
        !(replacement ≠ invalidUid && slot = .horses && uid = replacement) := by
  unfold mountReplacement
  split
  · next hinvalid => exact (filter_eq_self.2 fun uid _ => by simp [hinvalid]).symm
  · next hvalid =>
      cases slot with
      | horses => simp [hvalid, references]
      | _ => exact (filter_eq_self.2 fun uid _ => by simp).symm

/-- The first horse of the character that is not damaged. -/
def intactHorse (world : World) (now : Time) : Option Uid :=
  world.character.horses.find? fun uid => !world.isDamaged now (.horse, uid)

/-- A mount is replaced by one of the horses, or by a new one, or not at all. -/
theorem replaceMount_cases (world : World) (now : Time) :
    (∃ uid, world.intactHorse now = some uid ∧ uid ≠ invalidUid ∧
        world.replaceMount now = (world, uid)) ∨
      ((world.intactHorse now).getD invalidUid = invalidUid ∧
        world.replaceMount now = world.createHorse) := by
  unfold replaceMount intactHorse
  dsimp only
  cases hfind : world.character.horses.find? fun uid => !world.isDamaged now (.horse, uid) with
  | none => exact .inr ⟨rfl, rfl⟩
  | some uid =>
    by_cases hinvalid : uid = invalidUid
    · exact .inr ⟨hinvalid, if_pos hinvalid⟩
    · exact .inl ⟨uid, rfl, hinvalid, if_neg hinvalid⟩

theorem createHorse_cases (world : World) :
    (world.entries (.horse, world.sequentialUid + 1) = none ∧
        world.createHorse.2 = world.sequentialUid + 1 ∧ world.createHorse.1.entries =
          update world.entries (.horse, world.sequentialUid + 1)
            (some { available := true })) ∨
      (world.entries (.horse, world.sequentialUid + 1) ≠ none ∧
        world.createHorse.2 = invalidUid ∧ world.createHorse.1.entries = world.entries) := by
  unfold createHorse
  dsimp only
  cases hentry : world.entries (.horse, world.sequentialUid + 1) with
  | none => exact .inl ⟨rfl, rfl, rfl⟩
  | some entry => exact .inr ⟨by simp, rfl, rfl⟩

/-- At most one datum is new, and it is an available horse. -/
theorem entries_cases (world : World) (now later : Time) :
    (world.cleanseReferences now later).2.entries = world.entries ∨
      (world.isDamaged now (.horse, world.character.mountUid) = true ∧
        (world.intactHorse now).getD invalidUid = invalidUid ∧
        world.entries (.horse, world.sequentialUid + 1) = none ∧
        (world.cleanseReferences now later).2.entries =
          update world.entries (.horse, world.sequentialUid + 1)
            (some { available := true })) := by
  unfold cleanseReferences
  dsimp only
  rw [foldl_retry]
  split
  · rw [foldl_retry]
    dsimp only
    split
    · next hdamaged =>
        obtain ⟨uid, -, -, hreplaced⟩ | ⟨hnone, hreplaced⟩ := replaceMount_cases
          { world with
            retrieving := fun datum => world.retrieving datum ||
              decide (datum ∈ inspected world.character) && world.isRetried now datum } now
        · rw [hreplaced]
          exact .inl rfl
        · rw [hreplaced]
          obtain ⟨habsent, -, hentries⟩ | ⟨-, -, hentries⟩ := createHorse_cases
            { world with
              retrieving := fun datum => world.retrieving datum ||
                decide (datum ∈ inspected world.character) && world.isRetried now datum }
          · exact .inr ⟨hdamaged, hnone, habsent, hentries⟩
          · exact .inl hentries
    · exact .inl rfl
  · rw [foldl_retry]
    exact .inl rfl

/-- A new horse has not failed, so a pass makes no datum fail. -/
theorem isFailing_cleanseReferences (world : World) (now later : Time) (datum : Datum) :
    (world.cleanseReferences now later).2.isFailing datum = world.isFailing datum := by
  obtain hsame | ⟨-, -, habsent, hcreated⟩ := world.entries_cases now later
  · rw [isFailing, hsame]
    rfl
  · rw [isFailing, isFailing, hcreated]
    by_cases hnew : datum = (.horse, world.sequentialUid + 1)
    · rw [hnew, update_self, habsent]
      simp
    · rw [update_of_ne hnew]

theorem isDamaged_congr {other : World} (hentries : other.entries datum = world.entries datum) :
    other.isDamaged now datum = world.isDamaged now datum := by
  rw [isDamaged, isDamaged, isFailing, isFailing, hentries]

/-- Replacing the mount makes no datum damaged. -/
theorem isDamaged_replaceMount (world : World) (now later : Time) :
    (world.replaceMount now).1.isDamaged later = world.isDamaged later := by
  funext datum
  obtain ⟨uid, -, -, hreplaced⟩ | ⟨-, hreplaced⟩ := world.replaceMount_cases now
  · rw [hreplaced]
  · rw [hreplaced]
    obtain ⟨habsent, -, hentries⟩ | ⟨-, -, hentries⟩ := world.createHorse_cases
    · by_cases hnew : datum = (.horse, world.sequentialUid + 1)
      · rw [isDamaged, isDamaged, isFailing, isFailing, hentries, hnew, update_self,
          habsent]
        simp
      · exact isDamaged_congr (by rw [hentries, update_of_ne hnew])
    · exact isDamaged_congr (by rw [hentries])

/-- The queued retrievals do not matter for the replacement. -/
theorem replaceMount_retrieving (world : World) (now : Time) (retrieving : Datum → Bool) :
    ({ world with retrieving := retrieving }.replaceMount now).2 = (world.replaceMount now).2 := by
  have hintact : { world with retrieving := retrieving }.isDamaged now = world.isDamaged now := rfl
  unfold replaceMount createHorse
  rw [hintact]
  dsimp only
  split
  · cases world.entries (.horse, world.sequentialUid + 1) <;> rfl
  · rfl

/-- The character after the passes, if the first one found damage. -/
theorem cleanseReferences_found
    (h : (inspected world.character).any (world.isDamaged now) = true) (later : Time) :
    (world.cleanseReferences now later).1 = true ∧
      (world.cleanseReferences now later).2.character =
        mountReplacement (world.replacementOf now)
          (dropDamaged (world.isDamaged later) world.character) := by
  unfold cleanseReferences replacementOf
  dsimp only
  rw [h, if_pos rfl, foldl_retry]
  refine ⟨rfl, ?_⟩
  by_cases hdamaged : world.isDamaged now (.horse, world.character.mountUid) = true
  · simp only [hdamaged, if_true, foldl_retry, isDamaged_replaceMount, replaceMount_retrieving]
    rfl
  · simp only [hdamaged, if_false, Bool.false_eq_true, foldl_retry, mountReplacement, if_true]
    rfl

theorem cleanseReferences_unfound
    (h : (inspected world.character).any (world.isDamaged now) = false) (later : Time) :
    (world.cleanseReferences now later).1 = false ∧
      (world.cleanseReferences now later).2.character = world.character := by
  unfold cleanseReferences
  dsimp only
  rw [h, if_neg Bool.false_ne_true, foldl_retry]
  exact ⟨rfl, rfl⟩

theorem mem_slotData {character : Character} : datum ∈ slotData character ↔
    ∃ slot, ∃ uid ∈ references character slot, datum = (slot.kind, uid) := by
  rw [slotData, mem_flatMap]
  constructor
  · rintro ⟨slot, -, hdatum⟩
    obtain ⟨uid, huid, rfl⟩ := mem_map.1 hdatum
    exact ⟨slot, uid, huid, rfl⟩
  · rintro ⟨slot, uid, huid, rfl⟩
    exact ⟨slot, by cases slot <;> simp [Slot.all], mem_map_of_mem huid⟩

/-! ## What a repair should do -/

/-- The references of the character at the end, the mount and the rest of the character. -/
structure Exact (world : World) (now later : Time) : Prop where
  /-- What is not damaged at the end is kept, unless it is the new mount, and what was found damaged
  is removed. -/
  keeps : ∀ slot, ∃ keep : Uid → Bool,
    references (world.cleanseReferences now later).2.character slot =
      (references world.character slot).filter keep ∧
    ∀ uid ∈ references world.character slot,
      (world.isDamaged later (slot.kind, uid) = false → keep uid = true ∨
        slot = .horses ∧ uid = (world.cleanseReferences now later).2.character.mountUid ∧
          world.isDamaged now (.horse, world.character.mountUid) = true) ∧
      (world.isDamaged now (slot.kind, uid) = true → keep uid = false)
  frame : withReferences world.character (world.cleanseReferences now later).2.character =
    world.character
  valid : ∀ slot, invalidUid ∉ references (world.cleanseReferences now later).2.character slot
  mounted : world.isDamaged now (.horse, world.character.mountUid) = false →
    (world.cleanseReferences now later).2.character.mountUid = world.character.mountUid
  remounts : world.isDamaged now (.horse, world.character.mountUid) = true →
    (∃ uid ∈ world.character.horses, world.isDamaged later (.horse, uid) = false) →
    (world.cleanseReferences now later).2.character.mountUid ∈ world.character.horses ∧
      world.isDamaged later
        (.horse, (world.cleanseReferences now later).2.character.mountUid) = false ∧
      (world.cleanseReferences now later).2.character.mountUid ∉
        (world.cleanseReferences now later).2.character.horses ∧
      (world.cleanseReferences now later).2.entries = world.entries
  builds : ∃ uid, ∀ datum, datum ≠ (.horse, uid) →
    (world.cleanseReferences now later).2.entries datum = world.entries datum
  /-- Without further failures a second run changes nothing. -/
  settles : ∀ again last, later ≤ again → again ≤ last →
    ((world.cleanseReferences now later).2.cleanseReferences again last).1 = false ∧
      ((world.cleanseReferences now later).2.cleanseReferences again last).2.character =
        (world.cleanseReferences now later).2.character

/-- The passes agree on what is damaged: the first one found something, and everything that has
been failing is damaged for the pass that deals with it. -/
structure Conclusive (world : World) (now later : Time) : Prop where
  found : (inspected world.character).any (world.isDamaged now) = true
  elapsed : ∀ datum ∈ slotData world.character, world.isFailing datum = true →
    world.isDamaged later datum = true
  mount : world.isFailing (.horse, world.character.mountUid) = true →
    world.isDamaged now (.horse, world.character.mountUid) = true ∧
      match world.intactHorse now with
      | some uid => world.isFailing (.horse, uid) = false
      | none => world.sequentialUid + 1 ≠ invalidUid ∧
          world.entries (.horse, world.sequentialUid + 1) = none

/-- Nothing that the character refers to is failing. -/
def AtRest (world : World) : Prop :=
  ∀ datum ∈ inspected world.character, world.isFailing datum = false

/-- No list holds the invalid uid, and the repair is conclusive if there is anything to repair. -/
structure Repairable (world : World) (now later : Time) : Prop where
  valid : ∀ slot, invalidUid ∉ references world.character slot
  conclusive : world.AtRest ∨ world.Conclusive now later

theorem isDamaged_mono (hle : now ≤ later) (h : world.isDamaged now datum = true) :
    world.isDamaged later datum = true := by
  obtain ⟨hvalid, entry, hentry, hcount, hfirst⟩ := isDamaged_iff.1 h
  exact isDamaged_iff.2 ⟨hvalid, entry, hentry, hcount, hfirst.trans hle⟩

/-- What has been failing becomes damaged. -/
theorem exists_isDamaged (h : world.isFailing datum = true) (now : Time) :
    ∃ later, now ≤ later ∧ world.isDamaged later datum = true := by
  obtain ⟨hvalid, entry, hentry, hcount⟩ := isFailing_iff.1 h
  exact ⟨max now (entry.firstRetrieveFailure + damagedGracePeriod), le_max_left _ _,
    isDamaged_iff.2 ⟨hvalid, entry, hentry, hcount, le_max_right _ _⟩⟩

/-- A run from some time on changes nothing exactly if nothing is failing. -/
theorem settles_iff (world : World) (later : Time) :
    (∀ again last, later ≤ again → again ≤ last → (world.cleanseReferences again last).1 = false ∧
      (world.cleanseReferences again last).2.character = world.character) ↔ world.AtRest := by
  constructor
  · intro h datum hdatum
    by_contra hfailing
    obtain ⟨again, hagain, hdamaged⟩ := exists_isDamaged (eq_true_of_ne_false hfailing) later
    have hfound := (cleanseReferences_found (any_eq_true.2 ⟨datum, hdatum, hdamaged⟩) again).1
    rw [(h again again hagain le_rfl).1] at hfound
    cases hfound
  · intro h again last _ _
    have hunfound : (inspected world.character).any (world.isDamaged again) = false := by
      rw [any_eq_false]
      intro datum hdatum hdamaged
      have hfailing := isFailing_of_isDamaged hdamaged
      rw [h datum hdatum] at hfailing
      cases hfailing
    exact cleanseReferences_unfound hunfound last

section Found

variable (h : (inspected world.character).any (world.isDamaged now) = true)

include h

theorem references_found (later : Time) (slot : Slot) :
    references (world.cleanseReferences now later).2.character slot =
      (references world.character slot).filter fun uid =>
        !world.isDamaged later (slot.kind, uid) &&
          !(world.replacementOf now ≠ invalidUid && slot = .horses &&
            uid = world.replacementOf now) := by
  rw [(cleanseReferences_found h later).2, references_mountReplacement, references_dropDamaged,
    filter_filter]
  apply filter_congr
  intro uid _
  rw [Bool.and_comm]

theorem mountUid_found (later : Time) : (world.cleanseReferences now later).2.character.mountUid =
    if world.replacementOf now = invalidUid then world.character.mountUid
    else world.replacementOf now := by
  rw [(cleanseReferences_found h later).2, mountReplacement]
  split <;> rfl

end Found

theorem replacementOf_intact
    (h : world.isDamaged now (.horse, world.character.mountUid) = false) :
    world.replacementOf now = invalidUid := by
  rw [replacementOf, h]
  rfl

section Damaged

variable (hvalid : ∀ slot, invalidUid ∉ references world.character slot)
variable (hdamaged : world.isDamaged now (.horse, world.character.mountUid) = true)

include hdamaged

theorem replacementOf_none
    (h : world.intactHorse now = none) :
    world.replacementOf now =
      if world.entries (.horse, world.sequentialUid + 1) = none then world.sequentialUid + 1
      else invalidUid := by
  rw [replacementOf, hdamaged, if_pos rfl]
  obtain ⟨uid, hfind, -, -⟩ | ⟨-, hreplaced⟩ := world.replaceMount_cases now
  · rw [h] at hfind
    cases hfind
  · rw [hreplaced]
    obtain ⟨habsent, huid, -⟩ | ⟨hpresent, huid, -⟩ := world.createHorse_cases
    · rw [huid, if_pos habsent]
    · rw [huid, if_neg hpresent]

include hvalid

theorem replacementOf_some {uid : Uid}
    (h : world.intactHorse now = some uid) :
    uid ≠ invalidUid ∧ world.replacementOf now = uid := by
  have hne : uid ≠ invalidUid := by
    rintro rfl
    exact hvalid .horses (mem_of_find?_eq_some h)
  refine ⟨hne, ?_⟩
  rw [replacementOf, hdamaged, if_pos rfl]
  obtain ⟨other, hfind, -, hreplaced⟩ | ⟨hnone, -⟩ := world.replaceMount_cases now
  · rw [hreplaced]
    exact Option.some.inj (hfind.symm.trans h)
  · rw [h] at hnone
    exact absurd hnone hne

end Damaged

/-! ## When it does -/

/-- The references are kept and removed as they should be in any case. -/
theorem keeps_references (hle : now ≤ later) (slot : Slot) : ∃ keep : Uid → Bool,
    references (world.cleanseReferences now later).2.character slot =
      (references world.character slot).filter keep ∧
    ∀ uid ∈ references world.character slot,
      (world.isDamaged later (slot.kind, uid) = false → keep uid = true ∨
        slot = .horses ∧ uid = (world.cleanseReferences now later).2.character.mountUid ∧
          world.isDamaged now (.horse, world.character.mountUid) = true) ∧
      (world.isDamaged now (slot.kind, uid) = true → keep uid = false) := by
  by_cases hfound : (inspected world.character).any (world.isDamaged now) = true
  · refine ⟨_, references_found hfound later slot, fun uid huid => ⟨?_, ?_⟩⟩
    · intro hintact
      rw [hintact, mountUid_found hfound]
      by_cases hreplaced : world.replacementOf now ≠ invalidUid ∧ slot = .horses ∧
          uid = world.replacementOf now
      · obtain ⟨hvalid, hslot, huid⟩ := hreplaced
        refine .inr ⟨hslot, by rw [if_neg hvalid, huid], ?_⟩
        by_contra hmount
        exact hvalid (replacementOf_intact (eq_false_of_ne_true hmount))
      · left
        simp only [Bool.not_false, Bool.true_and, Bool.not_eq_true', Bool.and_eq_false_iff,
          decide_eq_false_iff_not]
        tauto
    · intro hdamaged
      rw [isDamaged_mono hle hdamaged]
      rfl
  · have hunfound := eq_false_of_ne_true hfound
    refine ⟨fun _ => true, ?_, fun uid huid => ⟨fun _ => .inl rfl, fun hdamaged => ?_⟩⟩
    · rw [(cleanseReferences_unfound hunfound later).2]
      exact (filter_eq_self.2 fun _ _ => rfl).symm
    · have hmem := mem_inspected.2 (.inl ⟨slot, uid, huid, rfl⟩)
      exact absurd (any_eq_true.2 ⟨_, hmem, hdamaged⟩) hfound

theorem frame_references (world : World) (now later : Time) :
    withReferences world.character (world.cleanseReferences now later).2.character =
      world.character := by
  by_cases hfound : (inspected world.character).any (world.isDamaged now) = true
  · rw [(cleanseReferences_found hfound later).2, mountReplacement]
    split <;> rfl
  · rw [(cleanseReferences_unfound (eq_false_of_ne_true hfound) later).2]
    rfl

theorem builds_one (world : World) (now later : Time) : ∃ uid, ∀ datum, datum ≠ (.horse, uid) →
    (world.cleanseReferences now later).2.entries datum = world.entries datum := by
  obtain hsame | ⟨-, -, -, hcreated⟩ := world.entries_cases now later
  · exact ⟨0, fun _ _ => by rw [hsame]⟩
  · refine ⟨world.sequentialUid + 1, fun datum hdatum => ?_⟩
    rw [hcreated, update_of_ne hdatum]

theorem mounted_references (h : world.isDamaged now (.horse, world.character.mountUid) = false) :
    (world.cleanseReferences now later).2.character.mountUid = world.character.mountUid := by
  by_cases hfound : (inspected world.character).any (world.isDamaged now) = true
  · rw [mountUid_found hfound, replacementOf_intact h, if_pos rfl]
  · rw [(cleanseReferences_unfound (eq_false_of_ne_true hfound) later).2]

/-- A damaged mount is damage that the first pass finds. -/
theorem found_of_mount (h : world.isDamaged now (.horse, world.character.mountUid) = true) :
    (inspected world.character).any (world.isDamaged now) = true :=
  any_eq_true.2 ⟨_, mem_inspected.2 (.inr rfl), h⟩

/-- An invalid uid in a list stays there. -/
theorem invalid_mem (slot : Slot) (h : invalidUid ∈ references world.character slot) :
    invalidUid ∈ references (world.cleanseReferences now later).2.character slot := by
  by_cases hfound : (inspected world.character).any (world.isDamaged now) = true
  · rw [references_found hfound, mem_filter]
    refine ⟨h, ?_⟩
    rw [isDamaged_invalid]
    by_cases hnone : world.replacementOf now = invalidUid
    · simp [hnone]
    · simp [Ne.symm hnone]
  · rwa [(cleanseReferences_unfound (eq_false_of_ne_true hfound) later).2]

theorem slotData_of_found {slot : Slot} {uid : Uid}
    (h : uid ∈ references (world.cleanseReferences now later).2.character slot)
    (hfound : (inspected world.character).any (world.isDamaged now) = true) :
    (slot.kind, uid) ∈ slotData world.character ∧
      world.isDamaged later (slot.kind, uid) = false := by
  rw [references_found hfound, mem_filter, Bool.and_eq_true, Bool.not_eq_true'] at h
  exact ⟨mem_slotData.2 ⟨slot, uid, h.1, rfl⟩, h.2.1⟩

/-- A repair that is conclusive leaves nothing behind that is failing. -/
theorem Conclusive.atRest (h : world.Conclusive now later)
    (hvalid : ∀ slot, invalidUid ∉ references world.character slot) :
    (world.cleanseReferences now later).2.AtRest := by
  intro datum hdatum
  rw [isFailing_cleanseReferences]
  obtain ⟨slot, uid, huid, rfl⟩ | rfl := mem_inspected.1 hdatum
  · obtain ⟨hmem, hintact⟩ := slotData_of_found huid h.found
    by_contra hfailing
    have hdamaged := h.elapsed _ hmem (eq_true_of_ne_false hfailing)
    rw [hintact] at hdamaged
    cases hdamaged
  · rw [mountUid_found h.found]
    by_cases hdamaged : world.isDamaged now (.horse, world.character.mountUid) = true
    · have hchosen := (h.mount (isFailing_of_isDamaged hdamaged)).2
      cases hfind : world.intactHorse now with
      | some uid =>
        rw [hfind] at hchosen
        obtain ⟨hne, hreplaced⟩ := replacementOf_some hvalid hdamaged hfind
        rwa [hreplaced, if_neg hne]
      | none =>
        rw [hfind] at hchosen
        have hreplaced := replacementOf_none hdamaged hfind
        rw [if_pos hchosen.2] at hreplaced
        rw [hreplaced, if_neg hchosen.1, isFailing, hchosen.2]
        exact Bool.and_false _
    · rw [replacementOf_intact (eq_false_of_ne_true hdamaged), if_pos rfl]
      by_contra hfailing
      exact hdamaged (h.mount (eq_true_of_ne_false hfailing)).1

theorem AtRest.unfound (h : world.AtRest) (now : Time) :
    (inspected world.character).any (world.isDamaged now) = false := by
  rw [any_eq_false]
  intro datum hdatum hdamaged
  have hfailing := isFailing_of_isDamaged hdamaged
  rw [h datum hdatum] at hfailing
  cases hfailing

theorem Repairable.atRest (h : world.Repairable now later) :
    (world.cleanseReferences now later).2.AtRest := by
  obtain hrest | hconclusive := h.conclusive
  · intro datum hdatum
    rw [isFailing_cleanseReferences]
    rw [(cleanseReferences_unfound (hrest.unfound now) later).2] at hdatum
    exact hrest datum hdatum
  · exact hconclusive.atRest h.valid

/-- An intact horse becomes the mount. -/
theorem Repairable.remounts (h : world.Repairable now later) (hle : now ≤ later)
    (hdamaged : world.isDamaged now (.horse, world.character.mountUid) = true)
    (hintact : ∃ uid ∈ world.character.horses, world.isDamaged later (.horse, uid) = false) :
    (world.cleanseReferences now later).2.character.mountUid ∈ world.character.horses ∧
      world.isDamaged later
        (.horse, (world.cleanseReferences now later).2.character.mountUid) = false ∧
      (world.cleanseReferences now later).2.character.mountUid ∉
        (world.cleanseReferences now later).2.character.horses ∧
      (world.cleanseReferences now later).2.entries = world.entries := by
  have hfound := found_of_mount hdamaged
  have hrest := h.atRest
  obtain ⟨intact, hmem, hintact⟩ := hintact
  cases hfind : world.intactHorse now with
  | none =>
    have hbefore := List.find?_eq_none.1 hfind intact hmem
    rw [Bool.not_eq_true', Bool.not_eq_false] at hbefore
    have hafter := isDamaged_mono hle hbefore
    rw [hintact] at hafter
    cases hafter
  | some uid =>
    obtain ⟨hne, hreplaced⟩ := replacementOf_some h.valid hdamaged hfind
    have hmount : (world.cleanseReferences now later).2.character.mountUid = uid := by
      rw [mountUid_found hfound, hreplaced, if_neg hne]
    have hfailing := hrest _ (mem_inspected.2 (.inr rfl))
    rw [isFailing_cleanseReferences] at hfailing
    rw [hmount] at hfailing ⊢
    refine ⟨mem_of_find?_eq_some hfind, ?_, ?_, ?_⟩
    · rw [isDamaged, hfailing, Bool.false_and]
    · intro hstays
      have hstays : uid ∈ references (world.cleanseReferences now later).2.character .horses :=
        hstays
      rw [references_found hfound, mem_filter, hreplaced] at hstays
      simp [hne] at hstays
    · obtain hsame | ⟨-, hnone, -, -⟩ := world.entries_cases now later
      · exact hsame
      · rw [hfind] at hnone
        exact absurd hnone hne

theorem Repairable.exact (h : world.Repairable now later) (hle : now ≤ later) :
    world.Exact now later where
  keeps := keeps_references hle
  frame := frame_references world now later
  valid slot hinvalid := by
    obtain ⟨keep, hreferences, -⟩ := @keeps_references world now later hle slot
    rw [hreferences] at hinvalid
    exact h.valid slot (mem_filter.1 hinvalid).1
  mounted := mounted_references
  remounts := h.remounts hle
  builds := builds_one world now later
  settles := (settles_iff _ later).2 h.atRest

theorem Exact.conclusive (h : world.Exact now later)
    (hfound : (inspected world.character).any (world.isDamaged now) = true) :
    world.Conclusive now later := by
  have hrest := (settles_iff _ later).1 h.settles
  have hmounted := hrest _ (mem_inspected.2 (.inr rfl))
  rw [isFailing_cleanseReferences, mountUid_found hfound] at hmounted
  have hvalid : ∀ slot, invalidUid ∉ references world.character slot :=
    fun slot hinvalid => h.valid slot (invalid_mem slot hinvalid)
  refine ⟨hfound, fun datum hdatum hfailing => ?_, fun hfailing => ?_⟩
  · obtain ⟨slot, uid, huid, rfl⟩ := mem_slotData.1 hdatum
    by_contra hintact
    -- The datum is still referred to, as the mount or in its slot.
    have hinspected : (slot.kind, uid) ∈
        inspected (world.cleanseReferences now later).2.character := by
      rw [mem_inspected, mountUid_found hfound]
      by_cases hreplaced : world.replacementOf now ≠ invalidUid ∧ slot = .horses ∧
          uid = world.replacementOf now
      · obtain ⟨hne, rfl, rfl⟩ := hreplaced
        exact .inr (by rw [if_neg hne]; rfl)
      · refine .inl ⟨slot, uid, ?_, rfl⟩
        rw [references_found hfound, mem_filter, eq_false_of_ne_true hintact]
        refine ⟨huid, ?_⟩
        simp only [Bool.not_false, Bool.true_and, Bool.not_eq_true', Bool.and_eq_false_iff,
          decide_eq_false_iff_not]
        tauto
    have hafter := hrest _ hinspected
    rw [isFailing_cleanseReferences, hfailing] at hafter
    cases hafter
  · have hdamaged : world.isDamaged now (.horse, world.character.mountUid) = true := by
      by_contra hintact
      rw [replacementOf_intact (eq_false_of_ne_true hintact), if_pos rfl, hfailing] at hmounted
      cases hmounted
    have hreplaced : world.replacementOf now ≠ invalidUid := by
      intro hnone
      rw [hnone, if_pos rfl, hfailing] at hmounted
      cases hmounted
    rw [if_neg hreplaced] at hmounted
    refine ⟨hdamaged, ?_⟩
    cases hfind : world.intactHorse now with
    | some uid =>
      rw [(replacementOf_some hvalid hdamaged hfind).2] at hmounted
      exact hmounted
    | none =>
      rw [replacementOf_none hdamaged hfind] at hreplaced
      by_cases habsent : world.entries (.horse, world.sequentialUid + 1) = none
      · rw [if_pos habsent] at hreplaced
        exact ⟨hreplaced, habsent⟩
      · rw [if_neg habsent] at hreplaced
        exact absurd rfl hreplaced

variable (world) in
/-- The repair is exact, also for a second run at any time, exactly if it is conclusive and no list
holds the invalid uid. -/
theorem cleanse_exact_iff (hle : now ≤ later) :
    world.Exact now later ↔ world.Repairable now later := by
  constructor
  · intro h
    refine ⟨fun slot hinvalid => h.valid slot (invalid_mem slot hinvalid), ?_⟩
    by_cases hfound : (inspected world.character).any (world.isDamaged now) = true
    · exact .inr (h.conclusive hfound)
    · left
      intro datum hdatum
      have hsame := (cleanseReferences_unfound (eq_false_of_ne_true hfound) later).2
      have hrest := (settles_iff _ later).1 h.settles datum (by rwa [hsame])
      rwa [isFailing_cleanseReferences] at hrest
  · intro h
    exact h.exact hle

/-- A character whose mount is damaged.  Of its horses, the first one has been failing for less time
than the mount, or not at all. -/
def lame (failures : Nat) : World where
  entries := fun datum =>
    if datum = (.horse, 9) then some { retrieveFailureCount := 3, firstRetrieveFailure := 0 }
    else if datum = (.horse, 5) then
      some { retrieveFailureCount := failures, firstRetrieveFailure := 1 }
    else if datum = (.horse, 6) then some { available := true }
    else none
  retrievable := fun _ => false
  mails := fun _ => {}
  characterUid := 1
  character := { uid := 1, mountUid := 9, horses := [5, 6] }

theorem valid_lame (slot : Slot) : invalidUid ∉ references (lame 0).character slot := by
  cases slot with
  | horses => decide
  | _ => simp [lame, references, single, invalidUid]

/-- Another horse becomes the mount. -/
theorem cleanse_exact_lame : (lame 0).Exact 2 3 :=
  (cleanse_exact_iff (lame 0) (by decide)).2
    ⟨valid_lame, .inr ⟨by decide, by decide, fun _ => ⟨rfl, rfl⟩⟩⟩

/-- A horse that becomes damaged between the passes is made the mount, although there is an intact
one. -/
theorem damaged_replacement : ¬(lame 1).Exact 2 3 := by
  intro h
  have hremounts := h.remounts (by decide) ⟨6, by decide, by decide⟩
  have hmount : ((lame 1).cleanseReferences 2 3).2.character.mountUid = 5 := rfl
  rw [hmount] at hremounts
  exact absurd hremounts.2.1 (by decide)

end World

end Alicia.Data.Load
