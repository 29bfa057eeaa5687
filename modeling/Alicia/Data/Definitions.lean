import Alicia.Chrono
import Alicia.Text
import Std.Data.ExtTreeMap
import Std.Data.ExtTreeSet

/-!
# Records

The record types of `DataDefinitions.hpp`, with their default member values.  The value that a
`dao::Field` wraps is the field's value here: nothing reads the modification flag beside it.

An `enum class` has a fixed underlying type and a record file may hold any of its values, so an
enumeration of a record is its underlying integer, and the enumerators are constants of it.
-/

namespace Alicia.Data

open Std (ExtTreeMap ExtTreeSet)
open Chrono (TimePoint Seconds)

/-- A unique identifier. -/
abbrev Uid := UInt32

/-- A type identifier. -/
abbrev Tid := UInt32

def invalidUid : Uid := 0

def invalidTid : Tid := 0

structure User where
  name : Text := []
  token : Text := []
  infractions : List Uid := []
  characterUid : Uid := invalidUid
  lastSeenOnline : TimePoint := .epoch
  deriving DecidableEq

/-- The underlying value of an `Infraction::Punishment`. -/
structure Punishment where
  raw : Int32
  deriving DecidableEq

namespace Punishment
def none : Punishment := ⟨0⟩
def mute : Punishment := ⟨1⟩
def ban : Punishment := ⟨2⟩
end Punishment

structure Infraction where
  uid : Uid := invalidUid
  description : Text := []
  punishment : Punishment := .none
  duration : Seconds := 0
  createdAt : TimePoint := .epoch
  deriving DecidableEq

structure Item where
  uid : Uid := invalidUid
  tid : Tid := invalidTid
  count : UInt32 := 0
  duration : Seconds := 0
  createdAt : TimePoint := .epoch
  deriving DecidableEq

structure Pet where
  uid : Uid := invalidUid
  itemUid : Uid := invalidUid
  petId : Uid := 0
  name : Text := []
  birthDate : TimePoint := .epoch
  deriving DecidableEq

/-- `StorageItem::Item`, one good of a stored item. -/
structure StoredGood where
  tid : Tid := invalidTid
  count : UInt32 := 0
  duration : Seconds := 0
  deriving DecidableEq

structure StorageItem where
  uid : Uid := invalidUid
  sender : Text := []
  message : Text := []
  carrots : Int32 := 0
  items : List StoredGood := []
  checked : Bool := false
  createdAt : TimePoint := .epoch
  duration : Seconds := 0
  goodsSq : UInt32 := 0
  priceId : UInt32 := 0
  deriving DecidableEq

structure Guild where
  uid : Uid := invalidUid
  name : Text := []
  description : Text := []
  owner : Uid := 0
  officers : List Uid := []
  members : List Uid := []
  rank : UInt32 := 0
  totalWins : UInt32 := 0
  totalLosses : UInt32 := 0
  seasonalWins : UInt32 := 0
  seasonalLosses : UInt32 := 0
  deriving DecidableEq

namespace Settings

/-- `Settings::Option`, one key binding. -/
structure Option where
  primaryKey : UInt32 := 0
  type : UInt32 := 0
  secondaryKey : UInt32 := 0
  deriving DecidableEq

end Settings

structure Settings where
  uid : Uid := invalidUid
  keyboardBindings : Option (List Settings.Option) := none
  macros : Option (Vector Text 8) := none
  gamepadBindings : Option (List Settings.Option) := none
  age : UInt32 := 0
  hideAge : Bool := true
  deriving DecidableEq

/-- The underlying value of a `Character::Role`. -/
structure Role where
  raw : Int32
  deriving DecidableEq

namespace Role
def user : Role := ⟨0⟩
def op : Role := ⟨1⟩
def gameMaster : Role := ⟨2⟩
end Role

/-- The underlying value of a `Character::RoleRank`. -/
structure RoleRank where
  raw : Int32
  deriving DecidableEq

namespace RoleRank
def none : RoleRank := ⟨0⟩
def trial : RoleRank := ⟨1⟩
def moderator : RoleRank := ⟨2⟩
def admin : RoleRank := ⟨3⟩
end RoleRank

namespace Character

structure Parts where
  modelId : UInt32 := 0
  mouthId : UInt32 := 0
  faceId : UInt32 := 0
  deriving DecidableEq

structure Appearance where
  voiceId : UInt32 := 0
  headSize : UInt32 := 0
  height : UInt32 := 0
  thighVolume : UInt32 := 0
  legVolume : UInt32 := 0
  emblemId : UInt32 := 0
  deriving DecidableEq

/-- `Contacts::Group`. -/
structure Group where
  uid : Uid := 0
  name : Text := []
  members : ExtTreeSet Uid := ∅
  createdAt : TimePoint := .epoch
  deriving DecidableEq

structure Contacts where
  pending : ExtTreeSet Uid := ∅
  groups : ExtTreeMap Uid Group := ∅
  deriving DecidableEq

/-- `Skills::Sets::Set`. -/
structure SkillSet where
  slot1 : UInt32 := 0
  slot2 : UInt32 := 0
  deriving DecidableEq

/-- `Skills::Sets`, the skill sets of one game mode. -/
structure SkillSets where
  set1 : SkillSet := {}
  set2 : SkillSet := {}
  activeSetId : UInt32 := 0
  deriving DecidableEq

structure Skills where
  speed : SkillSets := {}
  magic : SkillSets := {}
  deriving DecidableEq

structure Mailbox where
  hasNewMail : Bool := false
  inbox : List Uid := []
  sent : List Uid := []
  deriving DecidableEq

end Character

structure Character where
  uid : Uid := invalidUid
  name : Text := []
  introduction : Text := []
  level : UInt32 := 0
  experience : UInt32 := 0
  carrots : Int32 := 0
  cash : Int32 := 0
  role : Role := .user
  roleRank : RoleRank := .none
  parts : Character.Parts := {}
  appearance : Character.Appearance := {}
  guildUid : Uid := invalidUid
  contacts : Character.Contacts := {}
  gifts : List Uid := []
  purchases : List Uid := []
  inventory : List Uid := []
  characterEquipment : List Uid := []
  expiredEquipment : List Uid := []
  horses : List Uid := []
  horseSlotCount : UInt8 := 0
  breedingWishlist : ExtTreeSet Uid := ∅
  pets : List Uid := []
  mountUid : Uid := invalidUid
  petUid : Uid := invalidUid
  eggs : List Uid := []
  housing : List Uid := []
  isRanchLocked : Bool := false
  settingsUid : Uid := invalidUid
  skills : Character.Skills := {}
  dailyQuestGroupUid : Uid := invalidUid
  mailbox : Character.Mailbox := {}
  quests : List Uid := []
  deriving DecidableEq

namespace Horse

/-- The underlying value of a `Horse::Type`. -/
structure Kind where
  raw : Int32
  deriving DecidableEq

namespace Kind
def adult : Kind := ⟨0⟩
def foal : Kind := ⟨1⟩
def stallion : Kind := ⟨2⟩
def rent : Kind := ⟨3⟩
end Kind

structure Parts where
  skinTid : Tid := 0
  faceTid : Tid := 0
  maneTid : Tid := 0
  tailTid : Tid := 0
  deriving DecidableEq

structure Appearance where
  scale : UInt32 := 0
  legLength : UInt32 := 0
  legVolume : UInt32 := 0
  bodyLength : UInt32 := 0
  bodyVolume : UInt32 := 0
  deriving DecidableEq

structure Stats where
  agility : UInt32 := 0
  courage : UInt32 := 0
  rush : UInt32 := 0
  endurance : UInt32 := 0
  ambition : UInt32 := 0
  deriving DecidableEq

structure Mastery where
  spurMagicCount : UInt32 := 0
  jumpCount : UInt32 := 0
  slidingTime : UInt32 := 0
  glidingDistance : UInt32 := 0
  deriving DecidableEq

structure Potential where
  type : UInt32 := 0
  level : UInt32 := 0
  value : UInt32 := 0
  deriving DecidableEq

structure MountCondition where
  stamina : UInt32 := 0
  charm : UInt32 := 0
  friendliness : UInt32 := 0
  injury : UInt32 := 0
  plenitude : UInt32 := 0
  bodyDirtiness : UInt32 := 0
  maneDirtiness : UInt32 := 0
  tailDirtiness : UInt32 := 0
  bodyPolish : UInt32 := 0
  manePolish : UInt32 := 0
  tailPolish : UInt32 := 0
  attachment : UInt32 := 0
  boredom : UInt32 := 0
  stopAmendsPoint : UInt32 := 0
  deriving DecidableEq

structure MountInfo where
  boostsInARow : UInt32 := 0
  winsSpeedSingle : UInt32 := 0
  winsSpeedTeam : UInt32 := 0
  winsMagicSingle : UInt32 := 0
  winsMagicTeam : UInt32 := 0
  totalDistance : UInt32 := 0
  topSpeed : UInt32 := 0
  longestGlideDistance : UInt32 := 0
  participated : UInt32 := 0
  cumulativePrize : UInt32 := 0
  biggestPrize : UInt32 := 0
  deriving DecidableEq

structure Ancestors where
  father : Uid := invalidUid
  mother : Uid := invalidUid
  deriving DecidableEq

end Horse

structure Horse where
  uid : Uid := invalidUid
  tid : Tid := invalidTid
  name : Text := []
  parts : Horse.Parts := {}
  appearance : Horse.Appearance := {}
  stats : Horse.Stats := {}
  mastery : Horse.Mastery := {}
  rating : UInt32 := 0
  clazz : UInt32 := 0
  clazzProgress : UInt32 := 0
  grade : UInt32 := 0
  growthPoints : UInt32 := 0
  breedingCount : UInt32 := 0
  breedingCombo : UInt32 := 0
  type : Horse.Kind := .adult
  dateOfBirth : TimePoint := .epoch
  tendency : UInt32 := 0
  spirit : UInt32 := 0
  potential : Horse.Potential := {}
  luckState : UInt32 := 0
  fatigue : UInt32 := 0
  emblemUid : UInt32 := 0
  mountCondition : Horse.MountCondition := {}
  mountInfo : Horse.MountInfo := {}
  ancestors : Horse.Ancestors := {}
  lineage : UInt32 := 1
  deriving DecidableEq

structure Housing where
  uid : Uid := invalidUid
  housingId : UInt32 := 0
  expiresAt : TimePoint := .epoch
  durability : UInt32 := 0
  deriving DecidableEq

structure Egg where
  uid : Uid := invalidUid
  itemUid : Uid := invalidUid
  itemTid : Tid := invalidTid
  incubatedAt : TimePoint := .epoch
  incubatorSlot : UInt32 := 0
  boostsUsed : UInt32 := 0
  deriving DecidableEq

structure DailyQuestEntry where
  questId : UInt16 := 0
  progress : UInt32 := 0
  deriving DecidableEq

structure DailyQuestGroup where
  uid : Uid := invalidUid
  rewardId : UInt8 := 0
  rewardType : UInt8 := 0
  rewardPoints : UInt32 := 0
  carrotsClaimed : Bool := false
  quests : Vector DailyQuestEntry 3 := .replicate 3 {}
  deriving DecidableEq

/-- The underlying value of a `Quest::Status`. -/
structure QuestStatus where
  raw : UInt32
  deriving DecidableEq

namespace QuestStatus
def inProgress : QuestStatus := ⟨0⟩
def readyToClaim : QuestStatus := ⟨1⟩
def completed : QuestStatus := ⟨3⟩
end QuestStatus

structure Quest where
  uid : Uid := invalidUid
  questId : UInt32 := 0
  isCompleted : QuestStatus := .inProgress
  progress : UInt32 := 0
  deriving DecidableEq

/-- The underlying value of a `Mail::MailType`. -/
structure MailType where
  raw : UInt32
  deriving DecidableEq

namespace MailType
def canReply : MailType := ⟨0⟩
def noReply : MailType := ⟨1⟩
def carnivalReward : MailType := ⟨2⟩
def breedingReward : MailType := ⟨3⟩
end MailType

structure Mail where
  uid : Uid := invalidUid
  sender : Uid := invalidUid
  recipient : Uid := invalidUid
  isRead : Bool := false
  isDeleted : Bool := false
  type : MailType := .canReply
  claimUid : UInt32 := 0
  createdAt : TimePoint := .epoch
  body : Text := []
  deriving DecidableEq

structure Stallion where
  uid : Uid := invalidUid
  horseUid : Uid := invalidUid
  ownerUid : Uid := invalidUid
  breedingCharge : UInt32 := 0
  timesMated : UInt32 := 0
  registeredAt : TimePoint := .epoch
  expiresAt : TimePoint := .epoch
  deriving DecidableEq

/-- The underlying value of a `Reward::Type`. -/
structure RewardType where
  raw : UInt32
  deriving DecidableEq

namespace RewardType
def breeding : RewardType := ⟨0⟩
def carnival : RewardType := ⟨1⟩
end RewardType

structure Reward where
  claimUid : Uid := invalidUid
  characterUid : Uid := invalidUid
  type : RewardType := .breeding
  carrots : UInt32 := 0
  isClaimed : Bool := false
  createdAt : TimePoint := .epoch
  claimedAt : TimePoint := .epoch
  deriving DecidableEq

/-! ## Records that are not loaded -/

instance : Inhabited Character := ⟨{}⟩

instance : Inhabited Horse := ⟨{}⟩

instance : Inhabited Stallion := ⟨{}⟩

end Alicia.Data
