import Alicia.Data.UserFiles
import Alicia.Transition.Run

/-!
# The files of the records

A store opens the file of a record, which empties it, and dumps the record afterwards.  The dump
refuses a text that is not UTF-8, and what was in the file is gone by then.  A retrieval parses the
file, now or after a restart.
-/

namespace Alicia.Data.RecordFiles

open Transition Effect UserFiles Function

inductive Record where
  | user (user : User)
  | infraction (infraction : Infraction)
  | character (character : Character)
  | horse (horse : Horse)
  | item (item : Item)
  | storageItem (storageItem : StorageItem)
  | egg (egg : Egg)
  | pet (pet : Pet)
  | housing (housing : Housing)
  | guild (guild : Guild)
  | settings (settings : Settings)
  | dailyQuestGroup (group : DailyQuestGroup)
  | mail (mail : Mail)
  | quest (quest : Quest)
  | stallion (stallion : Stallion)
  | reward (reward : Reward)

/-- The directories of the records that have a uid. -/
inductive Folder where
  | infractions | characters | items | horses | storage | eggs | pets | housing | guilds
  | settings | dailyQuestGroups | mails | quests | stallions | rewards
  deriving DecidableEq

/-- What a file holds: the dump of a record, or nothing. -/
inductive Content where
  | dump (record : Record)
  | empty

/-- The parser throws at an empty file. -/
def Content.parse : Content → Option Record
  | .dump record => some record
  | .empty => none

/-- The files, by their paths.  What was stored last is a history variable. -/
structure Disk where
  files : List Text → Option Content
  stored : List Text → Option Record

inductive StoreError where
  | notAccessible (label : String) (path : List Text)
  | invalidText

/-- What the store functions differ in: the file, its name in the error, and the texts among the
values that are dumped. -/
structure StoreCall where
  path : List Text
  label : String
  texts : List Text
  record : Record

namespace Disk

variable (disk : Disk)

def retrieve (path : List Text) : Option Record := (disk.files path).bind Content.parse

/-- The disk when the server starts. -/
def opened (files : List Text → Option Content) : Disk where
  files
  stored := retrieve ⟨files, fun _ => none⟩

def truncate (path : List Text) : Disk :=
  { disk with files := update disk.files path (some .empty) }

def save (path : List Text) (record : Record) : Disk where
  files := update disk.files path (some (.dump record))
  stored := update disk.stored path (some record)

def remove (path : List Text) : Disk where
  files := update disk.files path none
  stored := update disk.stored path none

/-- What was stored last is what a retrieval yields. -/
def Keeps : Prop := ∀ path record, disk.stored path = some record → disk.retrieve path = some record

end Disk

/-- The body that the store functions share. -/
def StoreCall.run (opens : Bool) (call : StoreCall) : Effect Disk StoreError Unit := do
  if opens then
    modify fun disk => disk.truncate call.path
    if ∀ text ∈ call.texts, text.IsValid then modify fun disk => disk.save call.path call.record
    else throw .invalidText
  else throw (.notAccessible call.label call.path)

def decimal (uid : Uid) : Text := (Nat.toDigits 10 uid.toNat).map fun digit => digit.toNat.toUInt8

section Stores

variable (users : Directory) (root : Folder → Directory)

def fileOf (folder : Folder) (uid : Uid) : List Text := produceDataFilePath (root folder) (decimal uid)

def storeUser (user : User) : StoreCall :=
  ⟨produceDataFilePath users user.name, "User", [user.name, user.token], .user user⟩

variable (uid : Uid)

def storeInfraction (infraction : Infraction) : StoreCall :=
  ⟨fileOf root .infractions uid, "Infraction", [infraction.description], .infraction infraction⟩

def storeCharacter (character : Character) : StoreCall :=
  ⟨fileOf root .characters uid, "Character", character.name :: character.introduction ::
    character.contacts.groups.values.map Character.Group.name, .character character⟩

def storeHorse (horse : Horse) : StoreCall :=
  ⟨fileOf root .horses uid, "Horse", [horse.name], .horse horse⟩

def storeItem (item : Item) : StoreCall := ⟨fileOf root .items uid, "Item", [], .item item⟩

def storeStorageItem (storageItem : StorageItem) : StoreCall :=
  ⟨fileOf root .storage uid, "Storage item", [storageItem.sender, storageItem.message],
    .storageItem storageItem⟩

def storeEgg (egg : Egg) : StoreCall := ⟨fileOf root .eggs uid, "Egg", [], .egg egg⟩

def storePet (pet : Pet) : StoreCall := ⟨fileOf root .pets uid, "Pet", [pet.name], .pet pet⟩

def storeHousing (housing : Housing) : StoreCall :=
  ⟨fileOf root .housing uid, "Housing", [], .housing housing⟩

def storeGuild (guild : Guild) : StoreCall :=
  ⟨fileOf root .guilds uid, "Guild", [guild.name, guild.description], .guild guild⟩

def storeSettings (settings : Settings) : StoreCall :=
  ⟨fileOf root .settings uid, "Settings", (settings.macros.map Vector.toList).getD [],
    .settings settings⟩

def storeDailyQuestGroup (group : DailyQuestGroup) : StoreCall :=
  ⟨fileOf root .dailyQuestGroups uid, "Daily quest group", [], .dailyQuestGroup group⟩

def storeMail (mail : Mail) : StoreCall := ⟨fileOf root .mails uid, "Mail", [mail.body], .mail mail⟩

def storeQuest (quest : Quest) : StoreCall := ⟨fileOf root .quests uid, "Quest", [], .quest quest⟩

def storeStallion (stallion : Stallion) : StoreCall :=
  ⟨fileOf root .stallions uid, "Stallion", [], .stallion stallion⟩

def storeReward (reward : Reward) : StoreCall :=
  ⟨fileOf root .rewards uid, "Reward", [], .reward reward⟩

/-- The call with which the data source stores a record under a uid. -/
def storeCall : Record → StoreCall
  | .user user => storeUser users user
  | .infraction infraction => storeInfraction root uid infraction
  | .character character => storeCharacter root uid character
  | .horse horse => storeHorse root uid horse
  | .item item => storeItem root uid item
  | .storageItem storageItem => storeStorageItem root uid storageItem
  | .egg egg => storeEgg root uid egg
  | .pet pet => storePet root uid pet
  | .housing housing => storeHousing root uid housing
  | .guild guild => storeGuild root uid guild
  | .settings settings => storeSettings root uid settings
  | .dailyQuestGroup group => storeDailyQuestGroup root uid group
  | .mail mail => storeMail root uid mail
  | .quest quest => storeQuest root uid quest
  | .stallion stallion => storeStallion root uid stallion
  | .reward reward => storeReward root uid reward

end Stores

inductive DiskStep where
  /-- `opens` tells whether the file is accessible. -/
  | store (uid : Uid) (record : Record) (opens : Bool)
  | delete (folder : Folder) (uid : Uid)

section Steps

variable (users : Directory) (root : Folder → Directory)

def stepDisk (disk : Disk) : DiskStep → Disk
  | .store uid record opens => ((storeCall users root uid record).run opens).final disk
  | .delete folder uid => disk.remove (fileOf root folder uid)

/-- The condition: a record with a text that the dump refuses is stored only where nothing is. -/
def Dumps (disk : Disk) : DiskStep → Prop
  | .store uid record opens => opens = true →
      (∀ text ∈ (storeCall users root uid record).texts, text.IsValid) ∨
        disk.stored (storeCall users root uid record).path = none
  | .delete .. => True

end Steps

section Keeping

variable {disk : Disk} {path : List Text}

namespace Disk

theorem Keeps.write {content : Option Content} (h : disk.Keeps) :
    Keeps ⟨update disk.files path content,
      update disk.stored path (content.bind Content.parse)⟩ := by
  intro other last hlast
  simp only [retrieve, update_apply] at hlast ⊢
  by_cases hsame : other = path
  · rwa [if_pos hsame] at hlast ⊢
  · rw [if_neg hsame] at hlast ⊢
    exact h other last hlast

theorem keeps_truncate_iff (h : disk.Keeps) :
    (disk.truncate path).Keeps ↔ disk.stored path = none := by
  constructor
  · intro hkeeps
    cases hstored : disk.stored path with
    | none => rfl
    | some last =>
      have hread := hkeeps path last hstored
      simp only [retrieve, truncate, update_self] at hread
      cases hread
  · intro hnone
    rw [truncate, ← update_eq_self path disk.stored, hnone]
    exact h.write

end Disk

/-- A store leaves the disk alone, saves the record or empties the file. -/
theorem final_run (opens : Bool) (call : StoreCall) : (call.run opens).final disk =
    if opens = true then
      if ∀ text ∈ call.texts, text.IsValid then disk.save call.path call.record
      else disk.truncate call.path
    else disk := by
  cases opens with
  | false => rfl
  | true =>
    rw [StoreCall.run, if_pos rfl, if_pos rfl, final_bind_ok (modify_apply _ _)]
    by_cases htexts : ∀ text ∈ call.texts, text.IsValid
    · rw [if_pos htexts, if_pos htexts, final_modify, Disk.save, Disk.save, Disk.truncate,
        update_idem]
    · rw [if_neg htexts, if_neg htexts, final_throw]

variable {users : Directory} {root : Folder → Directory}

/-- A step keeps what was stored exactly if it meets the condition. -/
theorem keeps_stepDisk_iff (h : disk.Keeps) (step : DiskStep) :
    (stepDisk users root disk step).Keeps ↔ Dumps users root disk step := by
  cases step with
  | delete folder uid => exact iff_of_true h.write trivial
  | store uid record opens =>
    rw [stepDisk, final_run, Dumps]
    cases opens with
    | false => exact iff_of_true h nofun
    | true =>
      by_cases htexts : ∀ text ∈ (storeCall users root uid record).texts, text.IsValid
      · rw [if_pos rfl, if_pos htexts]
        exact iff_of_true h.write fun _ => .inl htexts
      · rw [if_pos rfl, if_neg htexts, Disk.keeps_truncate_iff h]
        exact ⟨fun hnone _ => .inr hnone, fun hdumps => (hdumps rfl).resolve_left htexts⟩

end Keeping

/-- The name of the pet has been changed to a byte that no character starts with. -/
example : ¬ (run (stepDisk ⟨[], nofun⟩ fun _ => ⟨[], nofun⟩) (.opened fun _ => none)
    [.store 1 (.pet { uid := 1 }) true, .store 1 (.pet { uid := 1, name := [255] }) true]).Keeps := by
  intro h
  have hread := h (fileOf (fun _ => ⟨[], nofun⟩) .pets 1) (.pet { uid := 1 }) rfl
  cases hread

end Alicia.Data.RecordFiles
