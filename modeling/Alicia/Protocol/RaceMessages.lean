import Alicia.Protocol.Stream

/-!
# The commands of the common and the race definitions

The commands that have both a `Write` and a `Read`.  Two of them have parts that depend on an id, which the
two functions decide about separately.
-/

namespace Alicia.Protocol

open Transition

/-! ## Commands without optional parts -/

structure AcCmdRCMobDead where
  mobOid : UInt16 := 0
  deriving DecidableEq

def AcCmdRCMobDead.write (command : AcCmdRCMobDead) : Written :=
  concat [put command.mobOid]

def AcCmdRCMobDead.read : Reader AcCmdRCMobDead := do
  return { mobOid := ← take }

instance : Writable AcCmdRCMobDead := ⟨AcCmdRCMobDead.write⟩

instance : Readable AcCmdRCMobDead := ⟨AcCmdRCMobDead.read⟩

instance (command : AcCmdRCMobDead) : source.RoundTrips (put command) take command := by
  change source.RoundTrips command.write AcCmdRCMobDead.read command
  unfold AcCmdRCMobDead.write AcCmdRCMobDead.read
  infer_instance

structure AcCmdCREnterRoomCancel where
  deriving DecidableEq

def AcCmdCREnterRoomCancel.write (_ : AcCmdCREnterRoomCancel) : Written := concat []

def AcCmdCREnterRoomCancel.read : Reader AcCmdCREnterRoomCancel := pure {}

instance : Writable AcCmdCREnterRoomCancel := ⟨AcCmdCREnterRoomCancel.write⟩

instance : Readable AcCmdCREnterRoomCancel := ⟨AcCmdCREnterRoomCancel.read⟩

instance (command : AcCmdCREnterRoomCancel) : source.RoundTrips (put command) take command := .nil command

structure AcCmdUserRaceActivateEvent where
  eventId : UInt32 := 0
  deriving DecidableEq

def AcCmdUserRaceActivateEvent.write (command : AcCmdUserRaceActivateEvent) : Written :=
  concat [put command.eventId]

def AcCmdUserRaceActivateEvent.read : Reader AcCmdUserRaceActivateEvent := do
  return { eventId := ← take }

instance : Writable AcCmdUserRaceActivateEvent := ⟨AcCmdUserRaceActivateEvent.write⟩

instance : Readable AcCmdUserRaceActivateEvent := ⟨AcCmdUserRaceActivateEvent.read⟩

instance (command : AcCmdUserRaceActivateEvent) : source.RoundTrips (put command) take command := by
  change source.RoundTrips command.write AcCmdUserRaceActivateEvent.read command
  unfold AcCmdUserRaceActivateEvent.write AcCmdUserRaceActivateEvent.read
  infer_instance

structure AcCmdUserRaceActivateEventNotify where
  eventId : UInt32 := 0
  characterOid : UInt16 := 0
  deriving DecidableEq

def AcCmdUserRaceActivateEventNotify.write (command : AcCmdUserRaceActivateEventNotify) : Written :=
  concat [put command.eventId, put command.characterOid]

def AcCmdUserRaceActivateEventNotify.read : Reader AcCmdUserRaceActivateEventNotify := do
  return { eventId := ← take, characterOid := ← take }

instance : Writable AcCmdUserRaceActivateEventNotify := ⟨AcCmdUserRaceActivateEventNotify.write⟩

instance : Readable AcCmdUserRaceActivateEventNotify := ⟨AcCmdUserRaceActivateEventNotify.read⟩

instance (command : AcCmdUserRaceActivateEventNotify) : source.RoundTrips (put command) take command := by
  change source.RoundTrips command.write AcCmdUserRaceActivateEventNotify.read command
  unfold AcCmdUserRaceActivateEventNotify.write AcCmdUserRaceActivateEventNotify.read
  infer_instance

structure AcCmdUserRaceDeactivateEvent where
  eventId : UInt32 := 0
  deriving DecidableEq

def AcCmdUserRaceDeactivateEvent.write (command : AcCmdUserRaceDeactivateEvent) : Written :=
  concat [put command.eventId]

def AcCmdUserRaceDeactivateEvent.read : Reader AcCmdUserRaceDeactivateEvent := do
  return { eventId := ← take }

instance : Writable AcCmdUserRaceDeactivateEvent := ⟨AcCmdUserRaceDeactivateEvent.write⟩

instance : Readable AcCmdUserRaceDeactivateEvent := ⟨AcCmdUserRaceDeactivateEvent.read⟩

instance (command : AcCmdUserRaceDeactivateEvent) : source.RoundTrips (put command) take command := by
  change source.RoundTrips command.write AcCmdUserRaceDeactivateEvent.read command
  unfold AcCmdUserRaceDeactivateEvent.write AcCmdUserRaceDeactivateEvent.read
  infer_instance

structure AcCmdUserRaceDeactivateEventNotify where
  eventId : UInt32 := 0
  characterOid : UInt16 := 0
  deriving DecidableEq

def AcCmdUserRaceDeactivateEventNotify.write (command : AcCmdUserRaceDeactivateEventNotify) : Written :=
  concat [put command.eventId, put command.characterOid]

def AcCmdUserRaceDeactivateEventNotify.read : Reader AcCmdUserRaceDeactivateEventNotify := do
  return { eventId := ← take, characterOid := ← take }

instance : Writable AcCmdUserRaceDeactivateEventNotify := ⟨AcCmdUserRaceDeactivateEventNotify.write⟩

instance : Readable AcCmdUserRaceDeactivateEventNotify := ⟨AcCmdUserRaceDeactivateEventNotify.read⟩

instance (command : AcCmdUserRaceDeactivateEventNotify) : source.RoundTrips (put command) take command := by
  change source.RoundTrips command.write AcCmdUserRaceDeactivateEventNotify.read command
  unfold AcCmdUserRaceDeactivateEventNotify.write AcCmdUserRaceDeactivateEventNotify.read
  infer_instance

structure AcCmdGameRaceItemGet where
  characterOid : UInt16
  itemId : UInt32
  itemType : UInt32
  deriving DecidableEq

def AcCmdGameRaceItemGet.write (command : AcCmdGameRaceItemGet) : Written :=
  concat [put command.characterOid, put command.itemId, put command.itemType]

def AcCmdGameRaceItemGet.read : Reader AcCmdGameRaceItemGet := do
  return { characterOid := ← take, itemId := ← take, itemType := ← take }

instance : Writable AcCmdGameRaceItemGet := ⟨AcCmdGameRaceItemGet.write⟩

instance : Readable AcCmdGameRaceItemGet := ⟨AcCmdGameRaceItemGet.read⟩

instance (command : AcCmdGameRaceItemGet) : source.RoundTrips (put command) take command := by
  change source.RoundTrips command.write AcCmdGameRaceItemGet.read command
  unfold AcCmdGameRaceItemGet.write AcCmdGameRaceItemGet.read
  infer_instance

structure AcCmdCRChangeMagicTargetNotify where
  effectInstanceId : UInt16
  casterOid : UInt16
  targetOid : UInt16
  targetOid2 : UInt16
  deriving DecidableEq

def AcCmdCRChangeMagicTargetNotify.write (command : AcCmdCRChangeMagicTargetNotify) : Written :=
  concat [put command.effectInstanceId, put command.casterOid, put command.targetOid,
    put command.targetOid2]

def AcCmdCRChangeMagicTargetNotify.read : Reader AcCmdCRChangeMagicTargetNotify := do
  return { effectInstanceId := ← take, casterOid := ← take, targetOid := ← take, targetOid2 := ← take }

instance : Writable AcCmdCRChangeMagicTargetNotify := ⟨AcCmdCRChangeMagicTargetNotify.write⟩

instance : Readable AcCmdCRChangeMagicTargetNotify := ⟨AcCmdCRChangeMagicTargetNotify.read⟩

instance (command : AcCmdCRChangeMagicTargetNotify) : source.RoundTrips (put command) take command := by
  change source.RoundTrips command.write AcCmdCRChangeMagicTargetNotify.read command
  unfold AcCmdCRChangeMagicTargetNotify.write AcCmdCRChangeMagicTargetNotify.read
  infer_instance

structure AcCmdRCTriggerActivate where
  characterOid : UInt16
  triggerType : UInt32
  triggerValue : UInt32
  duration : Float32Bits
  deriving DecidableEq

def AcCmdRCTriggerActivate.write (command : AcCmdRCTriggerActivate) : Written :=
  concat [put command.characterOid, put command.triggerType, put command.triggerValue, put command.duration]

def AcCmdRCTriggerActivate.read : Reader AcCmdRCTriggerActivate := do
  return { characterOid := ← take, triggerType := ← take, triggerValue := ← take, duration := ← take }

instance : Writable AcCmdRCTriggerActivate := ⟨AcCmdRCTriggerActivate.write⟩

instance : Readable AcCmdRCTriggerActivate := ⟨AcCmdRCTriggerActivate.read⟩

instance (command : AcCmdRCTriggerActivate) : source.RoundTrips (put command) take command := by
  change source.RoundTrips command.write AcCmdRCTriggerActivate.read command
  unfold AcCmdRCTriggerActivate.write AcCmdRCTriggerActivate.read
  infer_instance

structure AcCmdCRActivateSkillEffect where
  targetOid : UInt16
  effectId : UInt32
  attackerOid : UInt16
  effectInstanceId : UInt16
  unk2 : Float32Bits
  deriving DecidableEq

def AcCmdCRActivateSkillEffect.write (command : AcCmdCRActivateSkillEffect) : Written :=
  concat [put command.targetOid, put command.effectId, put command.attackerOid,
    put command.effectInstanceId, put command.unk2]

def AcCmdCRActivateSkillEffect.read : Reader AcCmdCRActivateSkillEffect := do
  return { targetOid := ← take, effectId := ← take, attackerOid := ← take, effectInstanceId := ← take,
           unk2 := ← take }

instance : Writable AcCmdCRActivateSkillEffect := ⟨AcCmdCRActivateSkillEffect.write⟩

instance : Readable AcCmdCRActivateSkillEffect := ⟨AcCmdCRActivateSkillEffect.read⟩

instance (command : AcCmdCRActivateSkillEffect) : source.RoundTrips (put command) take command := by
  change source.RoundTrips command.write AcCmdCRActivateSkillEffect.read command
  unfold AcCmdCRActivateSkillEffect.write AcCmdCRActivateSkillEffect.read
  infer_instance

structure AcCmdRCRemoveSkillEffect where
  characterOid : UInt16
  effectId : UInt32
  targetOid : UInt16
  unk1 : UInt8
  deriving DecidableEq

def AcCmdRCRemoveSkillEffect.write (command : AcCmdRCRemoveSkillEffect) : Written :=
  concat [put command.characterOid, put command.effectId, put command.targetOid, put command.unk1]

def AcCmdRCRemoveSkillEffect.read : Reader AcCmdRCRemoveSkillEffect := do
  return { characterOid := ← take, effectId := ← take, targetOid := ← take, unk1 := ← take }

instance : Writable AcCmdRCRemoveSkillEffect := ⟨AcCmdRCRemoveSkillEffect.write⟩

instance : Readable AcCmdRCRemoveSkillEffect := ⟨AcCmdRCRemoveSkillEffect.read⟩

instance (command : AcCmdRCRemoveSkillEffect) : source.RoundTrips (put command) take command := by
  change source.RoundTrips command.write AcCmdRCRemoveSkillEffect.read command
  unfold AcCmdRCRemoveSkillEffect.write AcCmdRCRemoveSkillEffect.read
  infer_instance

structure AcCmdCRTriggerizeAct where
  unk0 : UInt8 := 0
  unk1 : UInt32 := 0
  unk2 : UInt16 := 0
  deriving DecidableEq

def AcCmdCRTriggerizeAct.write (command : AcCmdCRTriggerizeAct) : Written :=
  concat [put command.unk0, put command.unk1, put command.unk2]

def AcCmdCRTriggerizeAct.read : Reader AcCmdCRTriggerizeAct := do
  return { unk0 := ← take, unk1 := ← take, unk2 := ← take }

instance : Writable AcCmdCRTriggerizeAct := ⟨AcCmdCRTriggerizeAct.write⟩

instance : Readable AcCmdCRTriggerizeAct := ⟨AcCmdCRTriggerizeAct.read⟩

instance (command : AcCmdCRTriggerizeAct) : source.RoundTrips (put command) take command := by
  change source.RoundTrips command.write AcCmdCRTriggerizeAct.read command
  unfold AcCmdCRTriggerizeAct.write AcCmdCRTriggerizeAct.read
  infer_instance

/-! ## The interactive event -/

structure AcCmdUserRaceActivateInteractiveEvent where
  member1 : UInt32 := 0
  characterOid : UInt16 := 0
  member3 : UInt64 := 0
  deriving DecidableEq

namespace AcCmdUserRaceActivateInteractiveEvent

/-- The form that the server sends names the racer. -/
def write (command : AcCmdUserRaceActivateInteractiveEvent) : Written :=
  concat [put command.member1, put command.characterOid, put command.member3]

/-- The form that a client sends does not. -/
def read (command : AcCmdUserRaceActivateInteractiveEvent) :
    Reader AcCmdUserRaceActivateInteractiveEvent := do
  return { command with member1 := ← take, member3 := ← take }

end AcCmdUserRaceActivateInteractiveEvent

/-! ## Magic items -/

/-- An `std::array` of three coordinates. -/
abbrev Axes := { axes : List Float32Bits // axes.length = 3 }

structure IceWallProperties where
  member1 : Axes
  member2 : Axes
  deriving DecidableEq

def IceWallProperties.write (properties : IceWallProperties) : Written :=
  concat [concat (properties.member1.1.map put), concat (properties.member2.1.map put)]

def IceWallProperties.read : Reader IceWallProperties := do
  return { member1 := ← Source.many take 3, member2 := ← Source.many take 3 }

instance (properties : IceWallProperties) :
    source.RoundTrips properties.write IceWallProperties.read properties := by
  unfold IceWallProperties.write IceWallProperties.read
  infer_instance

structure AcCmdCRUseMagicItemNotify where
  characterOid : UInt16
  magicItemId : UInt32
  iceWallProperties : Option IceWallProperties
  targetList : List UInt16
  effectInstanceId : UInt16
  unk4 : Float32Bits
  deriving DecidableEq

namespace AcCmdCRUseMagicItemNotify

/-- The ids of the ice wall. -/
def isIceWall (magicItemId : UInt32) : Bool := magicItemId ∈ [0xa, 0xb]

/-- The cases of `Write` with a list of targets. -/
def writesTargets (magicItemId : UInt32) : Bool :=
  isIceWall magicItemId ||
    magicItemId ∈ [0x2, 0x3, 0xc, 0xd, 0xe, 0xf, 0x10, 0x11, 0x12, 0x13]

/-- The cases of `Read` with a list of targets. -/
def readsTargets (magicItemId : UInt32) : Bool :=
  isIceWall magicItemId || magicItemId ∈ [0x2, 0x3, 0xc, 0xd, 0xe, 0xf, 0x11, 0x12, 0x13]

/-- An ice wall without its properties fails an assertion. -/
def write (command : AcCmdCRUseMagicItemNotify) : Written :=
  concat [put command.characterOid, put command.magicItemId,
    Source.written (isIceWall command.magicItemId)
      (command.iceWallProperties.bind IceWallProperties.write),
    Source.written (writesTargets command.magicItemId) (writeList put command.targetList),
    put command.effectInstanceId, put command.unk4]

/-- `Read` into a command, which keeps the parts that its id does not call for. -/
def read (command : AcCmdCRUseMagicItemNotify) : Reader AcCmdCRUseMagicItemNotify := do
  let characterOid : UInt16 ← take
  let magicItemId : UInt32 ← take
  let iceWallProperties ← Source.optional (isIceWall magicItemId) (some <$> IceWallProperties.read)
    command.iceWallProperties
  let targetList ← Source.optional (readsTargets magicItemId) (readList take) command.targetList
  return { characterOid := characterOid, magicItemId := magicItemId,
           iceWallProperties := iceWallProperties, targetList := targetList,
           effectInstanceId := ← take, unk4 := ← take }

/-- The command with the parts that the id of the given one calls for. -/
def selected (command value : AcCmdCRUseMagicItemNotify) : AcCmdCRUseMagicItemNotify :=
  { value with
    iceWallProperties :=
      if isIceWall value.magicItemId then value.iceWallProperties else command.iceWallProperties
    targetList := if writesTargets value.magicItemId then value.targetList else command.targetList }

/-- `Read` lacks one of the cases of `Write`. -/
theorem readsTargets_eq {magicItemId : UInt32} (h : magicItemId ≠ 0x10) :
    readsTargets magicItemId = writesTargets magicItemId := by
  unfold readsTargets writesTargets
  simp [h]

theorem roundTrips (command : AcCmdCRUseMagicItemNotify) {value : AcCmdCRUseMagicItemNotify}
    (hid : value.magicItemId ≠ 0x10)
    (htargets : writesTargets value.magicItemId = true → value.targetList.length ≤ 255) :
    source.RoundTrips value.write (read command) (command.selected value) := by
  have hiceWall := Source.RoundTrips.optional command.iceWallProperties
    fun _ : isIceWall value.magicItemId = true =>
      roundTrips_option IceWallProperties.write IceWallProperties.read value.iceWallProperties
  have hlist := Source.RoundTrips.optional command.targetList
    fun hselected : writesTargets value.magicItemId = true =>
      @roundTrips_list UInt16 put take inferInstance value.targetList (htargets hselected)
  rw [← readsTargets_eq hid] at hlist
  unfold write read selected
  rw [← readsTargets_eq hid]
  infer_instance

end AcCmdCRUseMagicItemNotify

/-! ## Skill effects -/

structure ShieldEffect where
  unk0 : UInt32
  unk1 : UInt32
  deriving DecidableEq

def ShieldEffect.write (effect : ShieldEffect) : Written := concat [put effect.unk0, put effect.unk1]

def ShieldEffect.read : Reader ShieldEffect := do
  return { unk0 := ← take, unk1 := ← take }

instance (effect : ShieldEffect) : source.RoundTrips effect.write ShieldEffect.read effect := by
  unfold ShieldEffect.write ShieldEffect.read
  infer_instance

structure AcCmdRCAddSkillEffect where
  characterOid : UInt16
  effectId : UInt32
  targetOid : UInt16
  attackerOid : UInt16
  unk2 : UInt16
  unk3 : UInt32
  shieldEffect : Option ShieldEffect
  boostEffectMs : Option UInt32
  deriving DecidableEq

namespace AcCmdRCAddSkillEffect

def isShield (effectId : UInt32) : Bool := effectId ∈ [2, 3]

def isBoost (effectId : UInt32) : Bool := effectId ∈ [5, 6, 7, 22, 23]

/-- An effect without the values that its id calls for throws. -/
def write (command : AcCmdRCAddSkillEffect) : Written :=
  concat [put command.characterOid, put command.effectId, put command.targetOid,
    put command.attackerOid, put command.unk2, put command.unk3,
    Source.written (isShield command.effectId) (command.shieldEffect.bind ShieldEffect.write),
    Source.written (isBoost command.effectId) (command.boostEffectMs.bind put)]

/-- `Read` into a command, which keeps the parts that its id does not call for. -/
def read (command : AcCmdRCAddSkillEffect) : Reader AcCmdRCAddSkillEffect := do
  let characterOid : UInt16 ← take
  let effectId : UInt32 ← take
  let targetOid : UInt16 ← take
  let attackerOid : UInt16 ← take
  let unk2 : UInt16 ← take
  let unk3 : UInt32 ← take
  let shieldEffect ← Source.optional (isShield effectId) (some <$> ShieldEffect.read)
    command.shieldEffect
  let boostEffectMs ← Source.optional (isBoost effectId) (some <$> take) command.boostEffectMs
  return { characterOid := characterOid, effectId := effectId, targetOid := targetOid,
           attackerOid := attackerOid, unk2 := unk2, unk3 := unk3, shieldEffect := shieldEffect,
           boostEffectMs := boostEffectMs }

/-- The command with the parts that the id of the given one calls for. -/
def selected (command value : AcCmdRCAddSkillEffect) : AcCmdRCAddSkillEffect :=
  { value with
    shieldEffect := if isShield value.effectId then value.shieldEffect else command.shieldEffect
    boostEffectMs := if isBoost value.effectId then value.boostEffectMs else command.boostEffectMs }

theorem roundTrips (command value : AcCmdRCAddSkillEffect) :
    source.RoundTrips value.write (read command) (command.selected value) := by
  have hshield := Source.RoundTrips.optional command.shieldEffect
    fun _ : isShield value.effectId = true =>
      roundTrips_option ShieldEffect.write ShieldEffect.read value.shieldEffect
  have hboost := Source.RoundTrips.optional command.boostEffectMs
    fun _ : isBoost value.effectId = true => roundTrips_option put take value.boostEffectMs
  unfold write read selected
  infer_instance

end AcCmdRCAddSkillEffect

end Alicia.Protocol
