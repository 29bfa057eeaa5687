import Alicia.Protocol.Stream

/-!
# The common structures of the protocol

The structures with their `Write` and `Read`, which are separate functions.  An enumeration travels as its
number, which need not be a named one.
-/

namespace Alicia.Protocol

open Transition

section

variable [Locale]

/-! ## Items -/

structure Item where
  uid : UInt32 := 0
  tid : UInt32 := 0
  expiresAt : UInt32 := 0
  count : UInt32 := 0
  deriving DecidableEq

def Item.write (item : Item) : Written :=
  concat [put item.uid, put item.tid, put item.expiresAt, put item.count]

def Item.read : Reader Item := do
  return { uid := ← take, tid := ← take, expiresAt := ← take, count := ← take }

instance : Writable Item := ⟨Item.write⟩

instance : Readable Item := ⟨Item.read⟩

instance (item : Item) : source.RoundTrips (put item) take item := by
  change source.RoundTrips item.write Item.read item
  unfold Item.write Item.read
  infer_instance

structure StoredItem where
  uid : UInt32 := 0
  goodsSq : UInt32 := 0
  status : UInt8 := 0
  val3 : UInt32 := 0
  val4 : UInt32 := 0
  carrots : UInt32 := 0
  priceId : UInt32 := 0
  sender : Text := []
  message : Text := []
  dateAndTime : UInt32 := 0
  deriving DecidableEq

def StoredItem.write (item : StoredItem) : Written :=
  concat [put item.uid, put item.goodsSq, put item.status, put item.val3, put item.val4, put item.carrots,
    put item.priceId, put item.sender, put item.message, put item.dateAndTime]

def StoredItem.read : Reader StoredItem := do
  return { uid := ← take, goodsSq := ← take, status := ← take, val3 := ← take, val4 := ← take,
           carrots := ← take, priceId := ← take, sender := ← take, message := ← take,
           dateAndTime := ← take }

instance : Writable StoredItem := ⟨StoredItem.write⟩

instance : Readable StoredItem := ⟨StoredItem.read⟩

theorem StoredItem.roundTrips {item : StoredItem} (hsender : Survives item.sender) (hmessage : Survives item.message) :
    source.RoundTrips (put item) take item := by
  have := roundTrips_text hsender
  have := roundTrips_text hmessage
  change source.RoundTrips item.write StoredItem.read item
  unfold StoredItem.write StoredItem.read
  infer_instance

structure ShopOrder where
  goodsSq : UInt32 := 0
  equipImmediately : Bool := false
  priceId : UInt16 := 0
  deriving DecidableEq

def ShopOrder.write (order : ShopOrder) : Written :=
  concat [put order.goodsSq, put order.equipImmediately, put order.priceId]

def ShopOrder.read : Reader ShopOrder := do
  return { goodsSq := ← take, equipImmediately := ← take, priceId := ← take }

instance : Writable ShopOrder := ⟨ShopOrder.write⟩

instance : Readable ShopOrder := ⟨ShopOrder.read⟩

instance (order : ShopOrder) : source.RoundTrips (put order) take order := by
  change source.RoundTrips order.write ShopOrder.read order
  unfold ShopOrder.write ShopOrder.read
  infer_instance

structure Housing where
  uid : UInt32 := 0
  tid : UInt16 := 0
  durability : UInt32 := 0
  deriving DecidableEq

def Housing.write (value : Housing) : Written :=
  concat [put value.uid, put value.tid, put value.durability]

def Housing.read : Reader Housing := do
  return { uid := ← take, tid := ← take, durability := ← take }

instance : Writable Housing := ⟨Housing.write⟩

instance : Readable Housing := ⟨Housing.read⟩

instance (value : Housing) : source.RoundTrips (put value) take value := by
  change source.RoundTrips value.write Housing.read value
  unfold Housing.write Housing.read
  infer_instance

/-! ## Characters -/

structure Character.Parts where
  charId : UInt8 := 10
  mouthSerialId : UInt8 := 0
  faceSerialId : UInt8 := 0
  val0 : UInt8 := 0
  deriving DecidableEq

def Character.Parts.write (value : Character.Parts) : Written :=
  concat [put value.charId, put value.mouthSerialId, put value.faceSerialId, put value.val0]

def Character.Parts.read : Reader Character.Parts := do
  return { charId := ← take, mouthSerialId := ← take, faceSerialId := ← take, val0 := ← take }

instance : Writable Character.Parts := ⟨Character.Parts.write⟩

instance : Readable Character.Parts := ⟨Character.Parts.read⟩

instance (value : Character.Parts) : source.RoundTrips (put value) take value := by
  change source.RoundTrips value.write Character.Parts.read value
  unfold Character.Parts.write Character.Parts.read
  infer_instance

structure Character.Appearance where
  voiceId : UInt16 := 0
  headSize : UInt16 := 0
  height : UInt16 := 0
  thighVolume : UInt16 := 0
  legVolume : UInt16 := 0
  emblemId : UInt16 := 0
  deriving DecidableEq

def Character.Appearance.write (value : Character.Appearance) : Written :=
  concat [put value.voiceId, put value.headSize, put value.height, put value.thighVolume,
    put value.legVolume, put value.emblemId]

def Character.Appearance.read : Reader Character.Appearance := do
  return { voiceId := ← take, headSize := ← take, height := ← take, thighVolume := ← take,
           legVolume := ← take, emblemId := ← take }

instance : Writable Character.Appearance := ⟨Character.Appearance.write⟩

instance : Readable Character.Appearance := ⟨Character.Appearance.read⟩

instance (value : Character.Appearance) : source.RoundTrips (put value) take value := by
  change source.RoundTrips value.write Character.Appearance.read value
  unfold Character.Appearance.write Character.Appearance.read
  infer_instance

structure Character where
  parts : Character.Parts := {}
  appearance : Character.Appearance := {}
  deriving DecidableEq

def Character.write (value : Character) : Written :=
  concat [put value.parts, put value.appearance]

def Character.read : Reader Character := do
  return { parts := ← take, appearance := ← take }

instance : Writable Character := ⟨Character.write⟩

instance : Readable Character := ⟨Character.read⟩

instance (value : Character) : source.RoundTrips (put value) take value := by
  change source.RoundTrips value.write Character.read value
  unfold Character.write Character.read
  infer_instance

/-! ## Horses -/

structure Horse.Parts where
  skinId : UInt8 := 0
  maneId : UInt8 := 0
  tailId : UInt8 := 0
  faceId : UInt8 := 0
  deriving DecidableEq

def Horse.Parts.write (value : Horse.Parts) : Written :=
  concat [put value.skinId, put value.maneId, put value.tailId, put value.faceId]

def Horse.Parts.read : Reader Horse.Parts := do
  return { skinId := ← take, maneId := ← take, tailId := ← take, faceId := ← take }

instance : Writable Horse.Parts := ⟨Horse.Parts.write⟩

instance : Readable Horse.Parts := ⟨Horse.Parts.read⟩

instance (value : Horse.Parts) : source.RoundTrips (put value) take value := by
  change source.RoundTrips value.write Horse.Parts.read value
  unfold Horse.Parts.write Horse.Parts.read
  infer_instance

structure Horse.Appearance where
  scale : UInt8 := 0
  legLength : UInt8 := 0
  legVolume : UInt8 := 0
  bodyLength : UInt8 := 0
  bodyVolume : UInt8 := 0
  deriving DecidableEq

def Horse.Appearance.write (value : Horse.Appearance) : Written :=
  concat [put value.scale, put value.legLength, put value.legVolume, put value.bodyLength,
    put value.bodyVolume]

def Horse.Appearance.read : Reader Horse.Appearance := do
  return { scale := ← take, legLength := ← take, legVolume := ← take, bodyLength := ← take,
           bodyVolume := ← take }

instance : Writable Horse.Appearance := ⟨Horse.Appearance.write⟩

instance : Readable Horse.Appearance := ⟨Horse.Appearance.read⟩

instance (value : Horse.Appearance) : source.RoundTrips (put value) take value := by
  change source.RoundTrips value.write Horse.Appearance.read value
  unfold Horse.Appearance.write Horse.Appearance.read
  infer_instance

structure Horse.Stats where
  agility : UInt32 := 0
  ambition : UInt32 := 0
  rush : UInt32 := 0
  endurance : UInt32 := 0
  courage : UInt32 := 0
  deriving DecidableEq

def Horse.Stats.write (value : Horse.Stats) : Written :=
  concat [put value.agility, put value.ambition, put value.rush, put value.endurance, put value.courage]

def Horse.Stats.read : Reader Horse.Stats := do
  return { agility := ← take, ambition := ← take, rush := ← take, endurance := ← take, courage := ← take }

instance : Writable Horse.Stats := ⟨Horse.Stats.write⟩

instance : Readable Horse.Stats := ⟨Horse.Stats.read⟩

instance (value : Horse.Stats) : source.RoundTrips (put value) take value := by
  change source.RoundTrips value.write Horse.Stats.read value
  unfold Horse.Stats.write Horse.Stats.read
  infer_instance

structure Horse.Mastery where
  spurMagicCount : UInt32 := 0
  jumpCount : UInt32 := 0
  slidingTime : UInt32 := 0
  glidingDistance : UInt32 := 0
  deriving DecidableEq

def Horse.Mastery.write (value : Horse.Mastery) : Written :=
  concat [put value.spurMagicCount, put value.jumpCount, put value.slidingTime, put value.glidingDistance]

def Horse.Mastery.read : Reader Horse.Mastery := do
  return { spurMagicCount := ← take, jumpCount := ← take, slidingTime := ← take, glidingDistance := ← take }

instance : Writable Horse.Mastery := ⟨Horse.Mastery.write⟩

instance : Readable Horse.Mastery := ⟨Horse.Mastery.read⟩

instance (value : Horse.Mastery) : source.RoundTrips (put value) take value := by
  change source.RoundTrips value.write Horse.Mastery.read value
  unfold Horse.Mastery.write Horse.Mastery.read
  infer_instance

/-- `Horse` writes and reads the condition in place. -/
structure Horse.MountCondition where
  stamina : UInt16 := 0
  charmPoint : UInt16 := 0
  friendlyPoint : UInt16 := 0
  injuryPoint : UInt16 := 0
  plenitude : UInt16 := 0
  bodyDirtiness : UInt16 := 0
  maneDirtiness : UInt16 := 0
  tailDirtiness : UInt16 := 0
  attachment : UInt16 := 0
  boredom : UInt16 := 21
  bodyPolish : UInt16 := 0
  manePolish : UInt16 := 0
  tailPolish : UInt16 := 0
  stopAmendsPoint : UInt16 := 0
  deriving DecidableEq

def Horse.MountCondition.write (value : Horse.MountCondition) : Written :=
  concat [put value.stamina, put value.charmPoint, put value.friendlyPoint, put value.injuryPoint,
    put value.plenitude, put value.bodyDirtiness, put value.maneDirtiness, put value.tailDirtiness,
    put value.attachment, put value.boredom, put value.bodyPolish, put value.manePolish,
    put value.tailPolish, put value.stopAmendsPoint]

def Horse.MountCondition.read : Reader Horse.MountCondition := do
  return { stamina := ← take, charmPoint := ← take, friendlyPoint := ← take, injuryPoint := ← take,
           plenitude := ← take, bodyDirtiness := ← take, maneDirtiness := ← take, tailDirtiness := ← take,
           attachment := ← take, boredom := ← take, bodyPolish := ← take, manePolish := ← take,
           tailPolish := ← take, stopAmendsPoint := ← take }

instance : Writable Horse.MountCondition := ⟨Horse.MountCondition.write⟩

instance : Readable Horse.MountCondition := ⟨Horse.MountCondition.read⟩

instance (value : Horse.MountCondition) : source.RoundTrips (put value) take value := by
  change source.RoundTrips value.write Horse.MountCondition.read value
  unfold Horse.MountCondition.write Horse.MountCondition.read
  infer_instance

/-- `Horse` writes and reads these values in place. -/
structure Horse.Vals1 where
  type : UInt8 := 0
  val1 : UInt32 := 0
  dateOfBirth : UInt32 := 0
  tendency : UInt8 := 0
  spirit : UInt8 := 0
  classProgression : UInt32 := 0
  val5 : UInt32 := 0
  potentialLevel : UInt8 := 0
  potentialType : UInt8 := 0
  potentialValue : UInt8 := 0
  val9 : UInt8 := 0
  luck : UInt8 := 0
  injury : UInt8 := 0
  val12 : UInt8 := 0
  fatigue : UInt16 := 0
  val14 : UInt16 := 0
  emblem : UInt16 := 0
  deriving DecidableEq

def Horse.Vals1.write (value : Horse.Vals1) : Written :=
  concat [put value.type, put value.val1, put value.dateOfBirth, put value.tendency, put value.spirit,
    put value.classProgression, put value.val5, put value.potentialLevel, put value.potentialType,
    put value.potentialValue, put value.val9, put value.luck, put value.injury, put value.val12,
    put value.fatigue, put value.val14, put value.emblem]

def Horse.Vals1.read : Reader Horse.Vals1 := do
  return { type := ← take, val1 := ← take, dateOfBirth := ← take, tendency := ← take, spirit := ← take,
           classProgression := ← take, val5 := ← take, potentialLevel := ← take, potentialType := ← take,
           potentialValue := ← take, val9 := ← take, luck := ← take, injury := ← take, val12 := ← take,
           fatigue := ← take, val14 := ← take, emblem := ← take }

instance : Writable Horse.Vals1 := ⟨Horse.Vals1.write⟩

instance : Readable Horse.Vals1 := ⟨Horse.Vals1.read⟩

instance (value : Horse.Vals1) : source.RoundTrips (put value) take value := by
  change source.RoundTrips value.write Horse.Vals1.read value
  unfold Horse.Vals1.write Horse.Vals1.read
  infer_instance

structure Horse where
  uid : UInt32 := 0
  tid : UInt32 := 0
  name : Text := []
  parts : Horse.Parts := {}
  appearance : Horse.Appearance := {}
  stats : Horse.Stats := {}
  rating : UInt32 := 0
  clazz : UInt8 := 0
  val0 : UInt8 := 0
  grade : UInt8 := 0
  growthPoints : UInt16 := 0
  mountCondition : Horse.MountCondition := {}
  vals1 : Horse.Vals1 := {}
  mastery : Horse.Mastery := {}
  val16 : UInt32 := 0
  visualCleanlinessBitset : UInt32 := 0
  deriving DecidableEq

def Horse.write (value : Horse) : Written :=
  concat [put value.uid, put value.tid, put value.name, put value.parts, put value.appearance,
    put value.stats, put value.rating, put value.clazz, put value.val0, put value.grade,
    put value.growthPoints, put value.mountCondition, put value.vals1, put value.mastery, put value.val16,
    put value.visualCleanlinessBitset]

def Horse.read : Reader Horse := do
  return { uid := ← take, tid := ← take, name := ← take, parts := ← take, appearance := ← take,
           stats := ← take, rating := ← take, clazz := ← take, val0 := ← take, grade := ← take,
           growthPoints := ← take, mountCondition := ← take, vals1 := ← take, mastery := ← take,
           val16 := ← take, visualCleanlinessBitset := ← take }

instance : Writable Horse := ⟨Horse.write⟩

instance : Readable Horse := ⟨Horse.read⟩

theorem Horse.roundTrips {value : Horse} (hname : Survives value.name) :
    source.RoundTrips (put value) take value := by
  have := roundTrips_text hname
  change source.RoundTrips value.write Horse.read value
  unfold Horse.write Horse.read
  infer_instance

structure RanchHorse where
  horseOid : UInt16 := 0
  horse : Horse := {}
  deriving DecidableEq

def RanchHorse.write (value : RanchHorse) : Written :=
  concat [put value.horseOid, put value.horse]

def RanchHorse.read : Reader RanchHorse := do
  return { horseOid := ← take, horse := ← take }

instance : Writable RanchHorse := ⟨RanchHorse.write⟩

instance : Readable RanchHorse := ⟨RanchHorse.read⟩

theorem RanchHorse.roundTrips {value : RanchHorse} (hhorse : source.RoundTrips (put value.horse) take value.horse) :
    source.RoundTrips (put value) take value := by
  have := hhorse
  change source.RoundTrips value.write RanchHorse.read value
  unfold RanchHorse.write RanchHorse.read
  infer_instance

/-! ## Guilds, rents and pets -/

structure Guild where
  uid : UInt32 := 0
  val1 : UInt8 := 0
  val2 : UInt32 := 0
  name : Text := []
  guildRole : UInt8 := 0
  val5 : UInt32 := 0
  val6 : UInt8 := 0
  deriving DecidableEq

def Guild.write (value : Guild) : Written :=
  concat [put value.uid, put value.val1, put value.val2, put value.name, put value.guildRole,
    put value.val5, put value.val6]

def Guild.read : Reader Guild := do
  return { uid := ← take, val1 := ← take, val2 := ← take, name := ← take, guildRole := ← take,
           val5 := ← take, val6 := ← take }

instance : Writable Guild := ⟨Guild.write⟩

instance : Readable Guild := ⟨Guild.read⟩

theorem Guild.roundTrips {value : Guild} (hname : Survives value.name) :
    source.RoundTrips (put value) take value := by
  have := roundTrips_text hname
  change source.RoundTrips value.write Guild.read value
  unfold Guild.write Guild.read
  infer_instance

structure Rent where
  mountUid : UInt32 := 0
  val1 : UInt32 := 0
  val2 : UInt32 := 0
  deriving DecidableEq

def Rent.write (value : Rent) : Written :=
  concat [put value.mountUid, put value.val1, put value.val2]

def Rent.read : Reader Rent := do
  return { mountUid := ← take, val1 := ← take, val2 := ← take }

instance : Writable Rent := ⟨Rent.write⟩

instance : Readable Rent := ⟨Rent.read⟩

instance (value : Rent) : source.RoundTrips (put value) take value := by
  change source.RoundTrips value.write Rent.read value
  unfold Rent.write Rent.read
  infer_instance

structure Pet where
  petId : UInt32 := 0
  member2 : UInt32 := 0
  name : Text := []
  birthDate : UInt32 := 0
  deriving DecidableEq

def Pet.write (value : Pet) : Written :=
  concat [put value.petId, put value.member2, put value.name, put value.birthDate]

def Pet.read : Reader Pet := do
  return { petId := ← take, member2 := ← take, name := ← take, birthDate := ← take }

instance : Writable Pet := ⟨Pet.write⟩

instance : Readable Pet := ⟨Pet.read⟩

theorem Pet.roundTrips {value : Pet} (hname : Survives value.name) :
    source.RoundTrips (put value) take value := by
  have := roundTrips_text hname
  change source.RoundTrips value.write Pet.read value
  unfold Pet.write Pet.read
  infer_instance

structure Egg where
  uid : UInt32 := 0
  itemTid : UInt32 := 0
  member3 : UInt32 := 0
  member4 : UInt8 := 0
  remainingHatchingTime : UInt32 := 0
  timeRemaining : UInt32 := 0
  boostPreviewValue : UInt32 := 0
  hatchingProgress : UInt32 := 0
  boostCooldown : UInt32 := 0
  deriving DecidableEq

def Egg.write (value : Egg) : Written :=
  concat [put value.uid, put value.itemTid, put value.member3, put value.member4,
    put value.remainingHatchingTime, put value.timeRemaining, put value.boostPreviewValue,
    put value.hatchingProgress, put value.boostCooldown]

def Egg.read : Reader Egg := do
  return { uid := ← take, itemTid := ← take, member3 := ← take, member4 := ← take,
           remainingHatchingTime := ← take, timeRemaining := ← take, boostPreviewValue := ← take,
           hatchingProgress := ← take, boostCooldown := ← take }

instance : Writable Egg := ⟨Egg.write⟩

instance : Readable Egg := ⟨Egg.read⟩

instance (value : Egg) : source.RoundTrips (put value) take value := by
  change source.RoundTrips value.write Egg.read value
  unfold Egg.write Egg.read
  infer_instance

structure PetInfo where
  characterUid : UInt32 := 0
  itemUid : UInt32 := 0
  pet : Pet := {}
  member4 : UInt32 := 0
  deriving DecidableEq

def PetInfo.write (value : PetInfo) : Written :=
  concat [put value.characterUid, put value.itemUid, put value.pet, put value.member4]

def PetInfo.read : Reader PetInfo := do
  return { characterUid := ← take, itemUid := ← take, pet := ← take, member4 := ← take }

instance : Writable PetInfo := ⟨PetInfo.write⟩

instance : Readable PetInfo := ⟨PetInfo.read⟩

theorem PetInfo.roundTrips {value : PetInfo} (hpet : source.RoundTrips (put value.pet) take value.pet) :
    source.RoundTrips (put value) take value := by
  have := hpet
  change source.RoundTrips value.write PetInfo.read value
  unfold PetInfo.write PetInfo.read
  infer_instance

structure PetBirthInfo where
  eggItem : Item := {}
  member2 : UInt32 := 0
  member3 : UInt32 := 0
  petInfo : PetInfo := {}
  deriving DecidableEq

def PetBirthInfo.write (value : PetBirthInfo) : Written :=
  concat [put value.eggItem, put value.member2, put value.member3, put value.petInfo]

def PetBirthInfo.read : Reader PetBirthInfo := do
  return { eggItem := ← take, member2 := ← take, member3 := ← take, petInfo := ← take }

instance : Writable PetBirthInfo := ⟨PetBirthInfo.write⟩

instance : Readable PetBirthInfo := ⟨PetBirthInfo.read⟩

theorem PetBirthInfo.roundTrips {value : PetBirthInfo} (hpetInfo : source.RoundTrips (put value.petInfo) take value.petInfo) :
    source.RoundTrips (put value) take value := by
  have := hpetInfo
  change source.RoundTrips value.write PetBirthInfo.read value
  unfold PetBirthInfo.write PetBirthInfo.read
  infer_instance

/-! ## Quests and leagues -/

structure Quest where
  tid : UInt16 := 0
  member0 : UInt32 := 0
  status : UInt8 := 0
  progress : UInt32 := 0
  member3 : UInt8 := 0
  member4 : UInt8 := 0
  deriving DecidableEq

def Quest.write (value : Quest) : Written :=
  concat [put value.tid, put value.member0, put value.status, put value.progress, put value.member3,
    put value.member4]

def Quest.read : Reader Quest := do
  return { tid := ← take, member0 := ← take, status := ← take, progress := ← take, member3 := ← take,
           member4 := ← take }

instance : Writable Quest := ⟨Quest.write⟩

instance : Readable Quest := ⟨Quest.read⟩

instance (value : Quest) : source.RoundTrips (put value) take value := by
  change source.RoundTrips value.write Quest.read value
  unfold Quest.write Quest.read
  infer_instance

structure DailyQuest where
  questId : UInt16 := 0
  progress : UInt32 := 0
  rewardType : UInt8 := 0
  rewardId : UInt8 := 0
  deriving DecidableEq

def DailyQuest.write (value : DailyQuest) : Written :=
  concat [put value.questId, put value.progress, put value.rewardType, put value.rewardId]

def DailyQuest.read : Reader DailyQuest := do
  return { questId := ← take, progress := ← take, rewardType := ← take, rewardId := ← take }

instance : Writable DailyQuest := ⟨DailyQuest.write⟩

instance : Readable DailyQuest := ⟨DailyQuest.read⟩

instance (value : DailyQuest) : source.RoundTrips (put value) take value := by
  change source.RoundTrips value.write DailyQuest.read value
  unfold DailyQuest.write DailyQuest.read
  infer_instance

structure ObjectiveProgress where
  isCompleted : Bool := false
  progress : UInt32 := 0
  achievementTier : UInt8 := 0
  deriving DecidableEq

def ObjectiveProgress.write (objectiveProgress : ObjectiveProgress) : Written :=
  concat [put objectiveProgress.isCompleted, put objectiveProgress.progress,
    put objectiveProgress.achievementTier]

def ObjectiveProgress.read : Reader ObjectiveProgress := do
  return { isCompleted := ← take, progress := ← take, achievementTier := ← take }

instance : Writable ObjectiveProgress := ⟨ObjectiveProgress.write⟩

instance : Readable ObjectiveProgress := ⟨ObjectiveProgress.read⟩

instance (objectiveProgress : ObjectiveProgress) : source.RoundTrips (put objectiveProgress) take objectiveProgress := by
  change source.RoundTrips objectiveProgress.write ObjectiveProgress.read objectiveProgress
  unfold ObjectiveProgress.write ObjectiveProgress.read
  infer_instance

structure League where
  type : UInt8 := 0
  rankingPercentile : UInt8 := 0
  deriving DecidableEq

def League.write (value : League) : Written :=
  concat [put value.type, put value.rankingPercentile]

def League.read : Reader League := do
  return { type := ← take, rankingPercentile := ← take }

instance : Writable League := ⟨League.write⟩

instance : Readable League := ⟨League.read⟩

instance (value : League) : source.RoundTrips (put value) take value := by
  change source.RoundTrips value.write League.read value
  unfold League.write League.read
  infer_instance

structure BreedingBonus where
  id : UInt8 := 0
  type : UInt8 := 0
  value : UInt8 := 0
  deriving DecidableEq

def BreedingBonus.write (bonus : BreedingBonus) : Written :=
  concat [put bonus.id, put bonus.type, put bonus.value]

def BreedingBonus.read : Reader BreedingBonus := do
  return { id := ← take, type := ← take, value := ← take }

instance : Writable BreedingBonus := ⟨BreedingBonus.write⟩

instance : Readable BreedingBonus := ⟨BreedingBonus.read⟩

instance (bonus : BreedingBonus) : source.RoundTrips (put bonus) take bonus := by
  change source.RoundTrips bonus.write BreedingBonus.read bonus
  unfold BreedingBonus.write BreedingBonus.read
  infer_instance

/-! ## Vectors -/

structure PackedVector3 where
  x : Float32Bits := 0
  y : Float32Bits := 0
  z : Float32Bits := 0
  w : Float32Bits := 0
  deriving DecidableEq

def PackedVector3.write (vector : PackedVector3) : Written :=
  concat [put vector.x, put vector.y, put vector.z, put vector.w]

def PackedVector3.read : Reader PackedVector3 := do
  return { x := ← take, y := ← take, z := ← take, w := ← take }

instance : Writable PackedVector3 := ⟨PackedVector3.write⟩

instance : Readable PackedVector3 := ⟨PackedVector3.read⟩

instance (vector : PackedVector3) : source.RoundTrips (put vector) take vector := by
  change source.RoundTrips vector.write PackedVector3.read vector
  unfold PackedVector3.write PackedVector3.read
  infer_instance

structure Vector3 where
  x : Float32Bits := 0
  y : Float32Bits := 0
  z : Float32Bits := 0
  deriving DecidableEq

def Vector3.write (vector : Vector3) : Written :=
  concat [put vector.x, put vector.y, put vector.z]

def Vector3.read : Reader Vector3 := do
  return { x := ← take, y := ← take, z := ← take }

instance : Writable Vector3 := ⟨Vector3.write⟩

instance : Readable Vector3 := ⟨Vector3.read⟩

instance (vector : Vector3) : source.RoundTrips (put vector) take vector := by
  change source.RoundTrips vector.write Vector3.read vector
  unfold Vector3.write Vector3.read
  infer_instance

/-! ## Skill sets -/

def GameMode.speed : UInt8 := 1

def GameMode.magic : UInt8 := 2

def GameMode.unk4 : UInt8 := 4

structure SkillSet where
  setId : UInt8 := 0
  gamemode : UInt8 := 0
  skills : List UInt32 := []
  deriving DecidableEq

/-- The assertions of `Write`. -/
def SkillSet.isWritable (value : SkillSet) : Bool :=
  (value.gamemode = GameMode.magic || value.gamemode = GameMode.speed ||
    value.gamemode = GameMode.unk4) && value.skills.length = 2

def SkillSet.write (value : SkillSet) : Written :=
  if value.isWritable then
    concat [put value.setId, put value.gamemode.toUInt32, writeList put value.skills]
  else none

/-- The game mode travels in four bytes, of which one is kept. -/
def SkillSet.read : Reader SkillSet := do
  let setId : UInt8 ← take
  let commandGameMode : UInt32 ← take
  return { setId := setId, gamemode := commandGameMode.toUInt8, skills := ← readList take }

instance : Writable SkillSet := ⟨SkillSet.write⟩

instance : Readable SkillSet := ⟨SkillSet.read⟩

instance (value : SkillSet) : source.RoundTrips (put value) take value := by
  change source.RoundTrips value.write SkillSet.read value
  unfold SkillSet.write
  split
  next hwritable =>
    have hsize : value.skills.length = 2 := of_decide_eq_true (Bool.and_eq_true _ _ ▸ hwritable).2
    have := @roundTrips_list UInt32 put take inferInstance value.skills (hsize.trans_le (by decide))
    have h : source.RoundTrips
        (concat [put value.setId, put value.gamemode.toUInt32, writeList put value.skills]) SkillSet.read
          { value with gamemode := value.gamemode.toUInt32.toUInt8 } := by
      unfold SkillSet.read
      infer_instance
    rw [UInt8.toUInt8_toUInt32] at h
    exact h
  next =>
    constructor
    intro bytes hbytes
    cases hbytes

/-! ## Characters of a ranch -/

structure RanchCharacter where
  uid : UInt32 := 0
  name : Text := []
  role : UInt8 := 0
  age : UInt8 := 0
  gender : UInt8 := 0
  introduction : Text := []
  character : Character := {}
  mount : Horse := {}
  characterEquipment : List Item := []
  guild : Guild := {}
  oid : UInt16 := 0
  isBusy : UInt8 := 0
  unk3 : UInt8 := 0
  rent : Rent := {}
  pet : Pet := {}
  unk4 : UInt8 := 0
  unk5 : UInt8 := 0
  deriving DecidableEq

/-- The guild and the rent are written field by field. -/
def RanchCharacter.write (ranchCharacter : RanchCharacter) : Written :=
  let struct5 := ranchCharacter.guild
  let struct6 := ranchCharacter.rent
  concat [put ranchCharacter.uid, put ranchCharacter.name, put ranchCharacter.role,
    put ranchCharacter.age, put ranchCharacter.gender, put ranchCharacter.introduction,
    put ranchCharacter.character, put ranchCharacter.mount,
    writeList put ranchCharacter.characterEquipment,
    concat [put struct5.uid, put struct5.val1, put struct5.val2, put struct5.name,
      put struct5.guildRole, put struct5.val5, put struct5.val6],
    put ranchCharacter.oid, put ranchCharacter.isBusy, put ranchCharacter.unk3,
    concat [put struct6.mountUid, put struct6.val1, put struct6.val2],
    put ranchCharacter.pet, put ranchCharacter.unk4, put ranchCharacter.unk5]

def RanchCharacter.read : Reader RanchCharacter := do
  return { uid := ← take, name := ← take, role := ← take, age := ← take, gender := ← take,
           introduction := ← take, character := ← take, mount := ← take,
           characterEquipment := ← readList take, guild := ← take, oid := ← take, isBusy := ← take,
           unk3 := ← take, rent := ← take, pet := ← take, unk4 := ← take, unk5 := ← take }

instance : Writable RanchCharacter := ⟨RanchCharacter.write⟩

instance : Readable RanchCharacter := ⟨RanchCharacter.read⟩

theorem RanchCharacter.roundTrips {value : RanchCharacter} (hname : Survives value.name)
    (hintroduction : Survives value.introduction) (hmount : Survives value.mount.name)
    (hequipment : value.characterEquipment.length ≤ 255) (hguild : Survives value.guild.name)
    (hpet : Survives value.pet.name) : source.RoundTrips (put value) take value := by
  have := roundTrips_text hname
  have := roundTrips_text hintroduction
  have := Horse.roundTrips hmount
  have := @roundTrips_list Item put take inferInstance value.characterEquipment hequipment
  have hguild : source.RoundTrips value.guild.write take value.guild := Guild.roundTrips hguild
  unfold Guild.write at hguild
  have hrent : source.RoundTrips value.rent.write take value.rent :=
    inferInstanceAs (source.RoundTrips (put value.rent) take value.rent)
  unfold Rent.write at hrent
  have := Pet.roundTrips hpet
  change source.RoundTrips value.write RanchCharacter.read value
  unfold RanchCharacter.write RanchCharacter.read
  infer_instance

end

end Alicia.Protocol
