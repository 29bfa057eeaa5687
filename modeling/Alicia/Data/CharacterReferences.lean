import Alicia.Data.Definitions
import Mathlib.Logic.Function.Basic

/-!
# The references of a character

The repair which the job of `ScheduleCharacterLoad` makes of the references, over the storages of the data
director.  The storages are told apart by the kind of their data; what a datum holds does not matter here.
-/

namespace Alicia.Data.Load

open List

/-- The storages of the data director. -/
inductive Kind
  | item
  | horse
  | egg
  | pet
  | housing
  | storageItem
  | mail
  | quest
  | guild
  | settings
  | dailyQuestGroup
  | character
  | reward
  deriving DecidableEq

abbrev Datum := Kind × Uid

/-- The time in seconds of a steady clock. -/
abbrev Time := Nat

/-- `DamagedGracePeriod`. -/
def damagedGracePeriod : Time := 2

/-- `DataStorage::Entry`.  A datum fails at most once a tick, so the count is taken not to wrap. -/
structure Entry where
  available : Bool := false
  retrieveFailureCount : Nat := 0
  firstRetrieveFailure : Time := 0
  deriving DecidableEq

/-! ## References -/

/-- The references which `VisitCharacterReferences` visits. -/
inductive Slot
  | inventory
  | characterEquipment
  | expiredEquipment
  | horses
  | breedingWishlist
  | eggs
  | pets
  | housing
  | gifts
  | purchases
  | inbox
  | sent
  | quests
  | guild
  | pet
  | settings
  | dailyQuestGroup
  deriving DecidableEq

namespace Slot

/-- The storage that the references of the slot belong to. -/
def kind : Slot → Kind
  | inventory | characterEquipment | expiredEquipment => .item
  | horses | breedingWishlist => .horse
  | eggs => .egg
  | pets | pet => .pet
  | housing => .housing
  | gifts | purchases => .storageItem
  | inbox | sent => .mail
  | quests => .quest
  | guild => .guild
  | settings => .settings
  | dailyQuestGroup => .dailyQuestGroup

/-- The slots in the order of the visits. -/
def all : List Slot :=
  [inventory, characterEquipment, expiredEquipment, horses, breedingWishlist, eggs, pets, housing, gifts,
    purchases, inbox, sent, quests, guild, pet, settings, dailyQuestGroup]

end Slot

/-- A single reference, which may be unset. -/
def single (uid : Uid) : List Uid := if uid = invalidUid then [] else [uid]

/-- The references of a character in a slot. -/
def references (character : Character) : Slot → List Uid
  | .inventory => character.inventory
  | .characterEquipment => character.characterEquipment
  | .expiredEquipment => character.expiredEquipment
  | .horses => character.horses
  | .breedingWishlist => character.breedingWishlist.toList
  | .eggs => character.eggs
  | .pets => character.pets
  | .housing => character.housing
  | .gifts => character.gifts
  | .purchases => character.purchases
  | .inbox => character.mailbox.inbox
  | .sent => character.mailbox.sent
  | .quests => character.quests
  | .guild => single character.guildUid
  | .pet => single character.petUid
  | .settings => single character.settingsUid
  | .dailyQuestGroup => single character.dailyQuestGroupUid

def data (character : Character) (slot : Slot) : List Datum :=
  (references character slot).map fun uid => (slot.kind, uid)

/-! ## The storages -/

/-- The storages and the record of the character that is loaded. -/
structure World where
  entries : Datum → Option Entry := fun _ => none
  retrieving : Datum → Bool := fun _ => false
  retrievable : Datum → Bool
  mails : Uid → Mail
  /-- The uid of the last horse that was created. -/
  sequentialUid : Uid := 0
  characterUid : Uid
  character : Character
  isCharacterDataLoaded : Bool := false

namespace World

def setEntry (world : World) (datum : Datum) (entry : Entry) : World :=
  { world with entries := Function.update world.entries datum (some entry) }

def requestRetrieve (world : World) (datum : Datum) : World :=
  { world with retrieving := Function.update world.retrieving datum true }

/-! ## The repair -/

/-- The retrievals of the datum have been failing, and for how long does not matter. -/
def isFailing (world : World) (datum : Datum) : Bool :=
  datum.2 ≠ invalidUid && (world.entries datum).any fun entry => entry.retrieveFailureCount ≠ 0

/-- `IsDamaged`, without the retrieval that it queues. -/
def isDamaged (world : World) (now : Time) (datum : Datum) : Bool :=
  world.isFailing datum &&
    (world.entries datum).any fun entry => entry.firstRetrieveFailure + damagedGracePeriod ≤ now

/-- The retrieval that `IsDamaged` queues of a datum that has not been failing for long enough. -/
def retry (now : Time) (world : World) (datum : Datum) : World :=
  if world.isFailing datum && !world.isDamaged now datum then world.requestRetrieve datum else world

/-- `ClearDamagedReference`. -/
def clearDamaged (damaged : Uid → Bool) (uid : Uid) : Uid := if damaged uid then invalidUid else uid

/-- `DropDamagedReferences` and `ClearDamagedReference` for every visited reference. -/
def dropDamaged (damaged : Datum → Bool) (character : Character) : Character :=
  let intact (kind : Kind) (uid : Uid) : Bool := !damaged (kind, uid)
  { character with
    inventory := character.inventory.filter (intact .item)
    characterEquipment := character.characterEquipment.filter (intact .item)
    expiredEquipment := character.expiredEquipment.filter (intact .item)
    horses := character.horses.filter (intact .horse)
    breedingWishlist := character.breedingWishlist.filter (intact .horse)
    eggs := character.eggs.filter (intact .egg)
    pets := character.pets.filter (intact .pet)
    housing := character.housing.filter (intact .housing)
    gifts := character.gifts.filter (intact .storageItem)
    purchases := character.purchases.filter (intact .storageItem)
    mailbox := { character.mailbox with
      inbox := character.mailbox.inbox.filter (intact .mail)
      sent := character.mailbox.sent.filter (intact .mail) }
    quests := character.quests.filter (intact .quest)
    guildUid := clearDamaged (fun uid => damaged (.guild, uid)) character.guildUid
    petUid := clearDamaged (fun uid => damaged (.pet, uid)) character.petUid
    settingsUid := clearDamaged (fun uid => damaged (.settings, uid)) character.settingsUid
    dailyQuestGroupUid :=
      clearDamaged (fun uid => damaged (.dailyQuestGroup, uid)) character.dailyQuestGroupUid }

/-- `CreateHorse`, which fails if there is an entry of the next uid. -/
def createHorse (world : World) : World × Uid :=
  let uid := world.sequentialUid + 1
  let world := { world with sequentialUid := uid }
  match world.entries (.horse, uid) with
  | none => (world.setEntry (.horse, uid) { available := true }, uid)
  | some _ => (world, invalidUid)

/-- The replacement of a damaged mount: an intact horse of the character, or a new one. -/
def replaceMount (world : World) (now : Time) : World × Uid :=
  let intact :=
    (world.character.horses.find? fun uid => !world.isDamaged now (.horse, uid)).getD invalidUid
  if intact = invalidUid then world.createHorse else (world, intact)

/-- The mount becomes the replacement, which is no longer one of the plain horses. -/
def mountReplacement (replacement : Uid) (character : Character) : Character :=
  if replacement = invalidUid then character
  else
    { character with
      mountUid := replacement
      horses := character.horses.filter fun uid => uid ≠ replacement }

/-- The data whose damage the repair asks for. -/
def inspected (character : Character) : List Datum :=
  Slot.all.flatMap (data character) ++ [(.horse, character.mountUid)]

variable {world : World} {now : Time} {datum : Datum}

/-! ## Damage -/

theorem isFailing_iff : world.isFailing datum = true ↔ datum.2 ≠ invalidUid ∧
    ∃ entry, world.entries datum = some entry ∧ entry.retrieveFailureCount ≠ 0 := by
  unfold isFailing
  rw [Bool.and_eq_true, decide_eq_true_iff, Option.any_eq_true]
  simp only [decide_eq_true_iff]

theorem isDamaged_iff : world.isDamaged now datum = true ↔ datum.2 ≠ invalidUid ∧
    ∃ entry, world.entries datum = some entry ∧ entry.retrieveFailureCount ≠ 0 ∧
      entry.firstRetrieveFailure + damagedGracePeriod ≤ now := by
  unfold isDamaged
  rw [Bool.and_eq_true, isFailing_iff, Option.any_eq_true]
  constructor
  · rintro ⟨⟨huid, entry, hentry, hcount⟩, entry', hentry', hlong⟩
    cases hentry.symm.trans hentry'
    exact ⟨huid, entry, hentry, hcount, of_decide_eq_true hlong⟩
  · rintro ⟨huid, entry, hentry, hcount, hlong⟩
    exact ⟨⟨huid, entry, hentry, hcount⟩, entry, hentry, decide_eq_true hlong⟩

theorem isFailing_of_isDamaged (h : world.isDamaged now datum = true) : world.isFailing datum = true :=
  (Bool.and_eq_true _ _ ▸ h).1

theorem isDamaged_invalid (kind : Kind) : world.isDamaged now (kind, invalidUid) = false := by
  rw [Bool.eq_false_iff]
  intro hdamaged
  exact (isDamaged_iff.1 hdamaged).1 rfl

/-! ## Retries -/

/-- The datum has been failing, but not for long enough to be damaged. -/
def isRetried (world : World) (now : Time) (datum : Datum) : Bool :=
  world.isFailing datum && !world.isDamaged now datum

theorem retry_eq (now : Time) (world : World) (datum : Datum) : world.retry now datum =
    { world with
      retrieving := fun other =>
        world.retrieving other || decide (other = datum) && world.isRetried now other } := by
  have hretry : world.retry now datum =
      if world.isRetried now datum then world.requestRetrieve datum else world := rfl
  rw [hretry]
  split
  next hretried =>
    have hqueue : Function.update world.retrieving datum true = fun other =>
        world.retrieving other || decide (other = datum) && world.isRetried now other := by
      funext other
      rcases eq_or_ne other datum with rfl | hne
      · rw [Function.update_self, hretried, decide_eq_true rfl, Bool.true_and, Bool.or_true]
      · rw [Function.update_of_ne hne, decide_eq_false hne, Bool.false_and, Bool.or_false]
    rw [← hqueue]
    rfl
  next hnot =>
    have hqueue : world.retrieving = fun other =>
        world.retrieving other || decide (other = datum) && world.isRetried now other := by
      funext other
      rcases eq_or_ne other datum with rfl | hne
      · rw [Bool.eq_false_iff.2 hnot, Bool.and_false, Bool.or_false]
      · rw [decide_eq_false hne, Bool.false_and, Bool.or_false]
    rw [← hqueue]

theorem foldl_retry (data : List Datum) (world : World) : data.foldl (retry now) world =
    { world with
      retrieving := fun datum =>
        world.retrieving datum || decide (datum ∈ data) && world.isRetried now datum } := by
  induction data generalizing world with
  | nil =>
    simp only [foldl_nil, not_mem_nil, decide_false, Bool.false_and, Bool.or_false]
  | cons head rest ih =>
    rw [foldl_cons, ih, retry_eq]
    have hretried : ∀ (queue : Datum → Bool) (datum : Datum),
        isRetried { world with retrieving := queue } now datum = world.isRetried now datum :=
      fun _ _ => rfl
    simp only [hretried, mem_cons, Bool.decide_or, Bool.and_or_distrib_right, Bool.or_assoc]

/-! ## What is looked at -/

theorem mem_inspected {character : Character} : datum ∈ inspected character ↔
    (∃ slot, ∃ uid ∈ references character slot, datum = (slot.kind, uid)) ∨
      datum = (.horse, character.mountUid) := by
  unfold inspected data
  rw [mem_append, mem_flatMap, mem_singleton]
  refine or_congr_left ?_
  constructor
  · rintro ⟨slot, _, hdatum⟩
    obtain ⟨uid, huid, rfl⟩ := mem_map.1 hdatum
    exact ⟨slot, uid, huid, rfl⟩
  · rintro ⟨slot, uid, huid, rfl⟩
    have hall : slot ∈ Slot.all := by cases slot <;> decide
    exact ⟨slot, hall, mem_map_of_mem huid⟩

end World

end Alicia.Data.Load
