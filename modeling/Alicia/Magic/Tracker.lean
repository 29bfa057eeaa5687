import Alicia.Collection.Maps
import Alicia.Possession.ItemSystem
import Alicia.Race.Handler

/-!
# The magic system and the race tracker

The magic of a race by its slots: which effect a spell has on whom, what an attack takes away from its
target, and whether a shield or another effect stands in the way.  The durations of the effects, which
are floats, are left out.

A race of a room, with its racers, its item decks and the event items of the racers, and what the
handlers of the race look up and change.  The room, the clients and the time are in `Surroundings`,
since the rest of the server changes them between two commands.
-/

namespace Alicia.Magic

open Std (ExtTreeMap)
open Transition Data
open Race (ClientContext Instant TeamColor RacerState)

export Possession (Failure)

/-! ## Slots -/

/-- `Magic::SlotInfo`, without the times. -/
structure SlotInfo where
  type : UInt32 := 0
  basicType : UInt32 := 0
  criticalType : UInt32 := 0
  skillEffectId : UInt32 := 0
  attackValue : UInt32 := 0
  adjustMotionSpeed : UInt32 := 0
  removeMagic : UInt32 := 0
  removeHotRodding : UInt32 := 0
  replaceEffect : UInt32 := 0
  attackRank : UInt32 := 0
  criticalByDarkFire : UInt32 := 0
  givePositionalMagic : UInt32 := 0
  deriving DecidableEq

namespace SkillEffect

def waterShield : UInt32 := 2
def waterShieldCritical : UInt32 := 3
def booster : UInt32 := 5
def hotRodding : UInt32 := 6
def hotRoddingCritical : UInt32 := 7
def jumpStun : UInt32 := 10
def jumpStunCritical : UInt32 := 11
def darkFire : UInt32 := 12
def darkFireCritical : UInt32 := 13
def bufPower : UInt32 := 18
def bufPowerCritical : UInt32 := 19
def bufGauge : UInt32 := 20
def bufGaugeCritical : UInt32 := 21
def bufSpeed : UInt32 := 22
def bufSpeedCritical : UInt32 := 23

end SkillEffect

namespace MagicType

def fireBallCritical : UInt32 := 3
def waterShield : UInt32 := 4
def waterShieldCritical : UInt32 := 5
def booster : UInt32 := 6
def boosterCritical : UInt32 := 7
def hotRodding : UInt32 := 8
def hotRoddingCritical : UInt32 := 9
def iceWall : UInt32 := 10
def iceWallCritical : UInt32 := 11
def jumpStun : UInt32 := 12
def jumpStunCritical : UInt32 := 13
def darkFire : UInt32 := 14
def darkFireCritical : UInt32 := 15
def summon : UInt32 := 16
def summonCritical : UInt32 := 17
def lightning : UInt32 := 18
def lightningCritical : UInt32 := 19
def bufPower : UInt32 := 20
def bufPowerCritical : UInt32 := 21
def bufGauge : UInt32 := 22
def bufGaugeCritical : UInt32 := 23
def bufSpeed : UInt32 := 24
def bufSpeedCritical : UInt32 := 25

end MagicType

def isSelfCast (magicType : UInt32) : Bool :=
  open MagicType in
  [waterShield, waterShieldCritical, booster, boosterCritical, hotRodding, hotRoddingCritical].contains magicType

def isTeamBuff (magicType : UInt32) : Bool :=
  open MagicType in
  [bufPower, bufPowerCritical, bufGauge, bufGaugeCritical, bufSpeed, bufSpeedCritical].contains magicType

def isIceWall (magicType : UInt32) : Bool :=
  magicType = MagicType.iceWall || magicType = MagicType.iceWallCritical

/-- `Racer::EffectCount`. -/
def effectCount : UInt32 := 24

def isValidSkillEffectId (skillEffectId : UInt32) : Bool :=
  skillEffectId < effectCount && skillEffectId ≠ 4

/-- `HeavyAttackRank`. -/
def heavyAttackRank : UInt32 := 2

/-- `IsStrippedByAttack`, for the slots of an attack and of an active effect. -/
def isStrippedByAttack (attack active : SlotInfo) : Bool :=
  open SkillEffect in
  if [hotRodding, hotRoddingCritical, bufPower, bufPowerCritical, bufGauge, bufGaugeCritical].contains
      active.skillEffectId then false
  else if [jumpStun, jumpStunCritical, darkFire, darkFireCritical].contains active.skillEffectId then
    attack.removeMagic ≠ 0 && heavyAttackRank ≤ attack.attackRank
  else if [booster, bufSpeed, bufSpeedCritical].contains active.skillEffectId then
    attack.removeMagic ≠ 0 || attack.basicType = MagicType.jumpStun
  else if active.skillEffectId = waterShield then
    attack.removeMagic ≠ 0 || attack.type = MagicType.jumpStunCritical ||
      attack.type = MagicType.darkFireCritical
  else attack.removeMagic ≠ 0 && active.adjustMotionSpeed ≠ 0 && active.attackValue = 0

def drainsGaugeOnHit (attack : SlotInfo) : Bool :=
  open MagicType in
  [fireBallCritical, summonCritical, lightning, lightningCritical].contains attack.type

/-! ## Registries -/

/-- `Course::GameModeInfo`, with what the gauges of a race need. -/
structure GameModeInfo where
  starPointsMax : UInt32 := 0
  goodJumpStarPoints : UInt32 := 0
  perfectJumpStarPoints : UInt32 := 0
  perfectJumpMaxBonusCombo : UInt32 := 0
  perfectJumpUnitStarPoints : UInt32 := 0
  spurConsumeStarPoints : UInt32 := 0
  deriving DecidableEq

/-- `EggInfo`, with what a race needs. -/
structure EggInfo where
  tid : Tid
  deckItemId : Tid
  region : UInt32
  obtainRatio : UInt32
  deriving DecidableEq

/-- `Magic::RegenInfo`. -/
structure RegenInfo where
  pointPerTick : UInt32 := 1000
  intervalMs : Nat := 200
  courageScaleBp : UInt32 := 9
  deriving DecidableEq

/-- `Magic::SetBonusInfo`, for the gauge. -/
structure SetBonusInfo where
  passiveGaugeScaleBp : UInt32 := 3300
  holdingGaugeScaleBp : UInt32 := 2000
  deriving DecidableEq

/-- The registries.  The slots and the eggs are in the order in which a loop over their map meets
them. -/
structure Registry where
  slotInfo : List SlotInfo := []
  soloPositionWeights : Nat → List SlotInfo := fun _ => []
  teamPositionWeights : Nat → List SlotInfo := fun _ => []
  regenInfo : RegenInfo := {}
  setBonusInfo : SetBonusInfo := {}
  gameModeInfo : UInt8 → Option GameModeInfo := fun _ => none
  magicSlot : UInt32 → Option UInt32 := fun _ => none
  region : UInt32 → Option UInt32 := fun _ => none
  eggs : List EggInfo := []
  minCharLevelForEggSpawning : Option UInt32 := none

namespace Registry

variable (registry : Registry)

def getSlotInfo (type : UInt32) : Except Failure SlotInfo :=
  match registry.slotInfo.find? fun slot => slot.type = type with
  | none => .error (.thrown "Magic slot not found")
  | some slot => .ok slot

def getSlotInfoByEffectId (effectId : UInt32) : Except Failure SlotInfo :=
  match registry.slotInfo.find? fun slot => slot.skillEffectId = effectId with
  | none => .error (.thrown "Magic slot not found for effect ID")
  | some slot => .ok slot

def getCourseGameModeInfo (gameMode : UInt8) : Except Failure GameModeInfo :=
  match registry.gameModeInfo gameMode with
  | none => .error (.thrown "Invalid course game mode")
  | some info => .ok info

/-- `GetDeckItemInfo`, for the slot of the magic. -/
def getDeckItemInfo (itemTypeId : UInt32) : Except Failure UInt32 :=
  match registry.magicSlot itemTypeId with
  | none => .error (.thrown "Invalid item type ID")
  | some magicSlot => .ok magicSlot

/-- `GetMapBlockInfo`, for the region. -/
def getMapBlockInfo (mapBlockId : UInt32) : Except Failure UInt32 :=
  match registry.region mapBlockId with
  | none => .error (.thrown "Invalid course map block")
  | some region => .ok region

def getEggInfoByDeckId (deckItemId : Tid) : Except Failure EggInfo :=
  match registry.eggs.find? fun egg => egg.deckItemId = deckItemId with
  | none => .error (.thrown "Egg with given deck item ID not found.")
  | some egg => .ok egg

def getEggsByRegion (region : UInt32) : List EggInfo :=
  registry.eggs.filter fun egg => egg.region = region

variable {registry}

end Registry

/-- The randomness of a new item: the place among the racers, which compares floats, the slot that is
drawn for the place, and whether the item is critical. -/
structure Roll where
  position : Nat := 0
  index : Nat := 0
  isCritical : Bool := false
  deriving DecidableEq

/-- `RandomMagicItem`.  A draw from an empty table is undefined. -/
def randomMagicItem (registry : Registry) (isTeam : Bool) (roll : Roll) : Except Failure SlotInfo :=
  let weights :=
    if isTeam then registry.teamPositionWeights roll.position else registry.soloPositionWeights roll.position
  match weights[roll.index]? with
  | none => .error .undefined
  | some slot => if roll.isCritical then registry.getSlotInfo slot.criticalType else .ok slot

/-! ## Effects -/

/-- The effects that a racer has, and the rank of the attack on the racer. -/
structure Condition where
  effects : UInt32 → Bool := fun _ => false
  attackRank : UInt32 := 0

/-- `EffectResolution`. -/
structure EffectResolution where
  effectId : UInt32
  shieldBlocks : Bool
  isDuplicated : Bool
  deriving DecidableEq

/-- `ResolveEffect`.  A read behind the effects is undefined. -/
def resolveEffect (registry : Registry) (slot : SlotInfo) (target : Condition) :
    Except Failure EffectResolution := do
  let isAttack := 0 < slot.attackValue
  let hasCriticalShield := target.effects SkillEffect.waterShieldCritical
  let hasShield := hasCriticalShield || target.effects SkillEffect.waterShield
  let shieldThreshold : UInt32 := if hasCriticalShield then 200 else if hasShield then 100 else 0
  let shieldBlocks := isAttack && slot.attackValue < shieldThreshold
  let effectId :=
    if shieldBlocks then
      if hasCriticalShield then SkillEffect.waterShieldCritical else SkillEffect.waterShield
    else slot.skillEffectId
  let isLightning := isAttack && slot.removeHotRodding ≠ 0
  let isCriticalLightning := isLightning && slot.criticalType = 0
  let hotRoddingBlocks := isAttack &&
    (target.effects SkillEffect.hotRodding && !isLightning ||
      target.effects SkillEffect.hotRoddingCritical && !isCriticalLightning)
  let occupiedEffectId ←
    if slot.replaceEffect ≠ 0 then .ok slot.skillEffectId
    else (registry.getSlotInfo slot.basicType).map SlotInfo.skillEffectId
  if hotRoddingBlocks || isAttack && slot.attackRank < 2 && 2 ≤ target.attackRank then
    return ⟨effectId, shieldBlocks, true⟩
  else if 0 < slot.attackRank then
    return ⟨effectId, shieldBlocks, slot.attackRank ≤ target.attackRank⟩
  else if effectCount ≤ occupiedEffectId then throw .undefined
  else
    return ⟨effectId, shieldBlocks, target.effects occupiedEffectId && (isAttack || slot.replaceEffect = 0)⟩

/-- What is neither blocked nor a duplicate is the effect of the spell, and its rank is larger. -/
theorem resolveEffect_applied {registry : Registry} {slot : SlotInfo} {target : Condition}
    {resolution : EffectResolution} (h : resolveEffect registry slot target = .ok resolution)
    (hblocks : resolution.shieldBlocks = false) (hduplicated : resolution.isDuplicated = false) :
    resolution.effectId = slot.skillEffectId ∧ (0 < slot.attackRank → target.attackRank < slot.attackRank) := by
  delta resolveEffect at h
  extract_lets isAttack hasCriticalShield hasShield shieldThreshold shieldBlocks effectId isLightning
    isCriticalLightning hotRoddingBlocks resolve at h
  have heffectId : shieldBlocks = false → effectId = slot.skillEffectId :=
    fun hnone => if_neg (Bool.eq_false_iff.1 hnone)
  have hresolve : ∀ occupied, resolve occupied = .ok resolution →
      resolution.effectId = slot.skillEffectId ∧ (0 < slot.attackRank → target.attackRank < slot.attackRank) := by
    intro occupied hresolved
    dsimp only [resolve] at hresolved
    clear_value effectId shieldBlocks hotRoddingBlocks
    split at hresolved
    · cases hresolved
      cases hduplicated
    split at hresolved
    · cases hresolved
      exact ⟨heffectId hblocks, fun _ => UInt32.not_le.1 (of_decide_eq_false hduplicated)⟩
    split at hresolved
    · cases hresolved
    · next hrank _ =>
        cases hresolved
        exact ⟨heffectId hblocks, fun hpos => absurd hpos hrank⟩
  split at h
  · exact hresolve _ h
  · cases hslot : registry.getSlotInfo slot.basicType with
    | error failure =>
      rw [hslot] at h
      cases h
    | ok basic =>
      rw [hslot] at h
      exact hresolve _ h

/-- An item that one racer can see.  `serial` tells the event items of a race apart, also when their OIDs
wrap. -/
structure EventItem where
  oid : UInt16
  itemType : UInt32
  serial : Nat
  deriving DecidableEq

inductive SetEquipEffect where
  | none
  | criticalSpellChance
  | passiveGaugeFaster
  | gaugeWhileHolding
  deriving DecidableEq

/-- `RaceTracker::Racer`.  The gauge of the magic is `starPointValue`. -/
structure Racer extends Condition where
  oid : UInt16 := 0
  state : RacerState := .disconnected
  team : TeamColor := .solo
  starPointValue : UInt32 := 0
  jumpComboValue : UInt32 := 0
  magicItem : Option UInt32 := none
  deckCooldown : UInt16 → Option Instant := fun _ => none
  eventItems : List EventItem := []
  effectGenerations : UInt32 → UInt32 := fun _ => 0
  lastGaugeUpdate : Option Instant := none
  courage : UInt32 := 0
  activeSetEffect : SetEquipEffect := .none
  dragonReceivedAt : Instant := 0
  pendingMagicTarget : Option (UInt16 × UInt16) := none

structure ItemDeck where
  items : List UInt32 := []
  currentItem : UInt32 := 0
  respawnTime : Nat := 0
  deriving DecidableEq

/-- `AcCmdCRHurdleClearResult::HurdleClearType`, or what else a client may send. -/
inductive HurdleClearType where
  | perfect
  | good
  | doubleJumpOrGlide
  | collision
  | unhandled (value : UInt8)
  deriving DecidableEq

/-- `AcCmdCRChangeMagicTarget`, whose replies have the same fields. -/
structure ChangeMagicTarget where
  effectInstanceId : UInt16
  casterOid : UInt16
  targetOid : UInt16
  targetOid2 : UInt16
  deriving DecidableEq

/-- The commands that a race queues for clients. -/
inductive Message where
  | starPointGetOK (characterOid : UInt16) (starPointValue : UInt32) (giveMagicItem : Bool)
  | requestSpurOK (characterOid : UInt16) (activeBoosters : UInt8) (startPointValue : UInt32) (comboBreak : UInt8)
  | hurdleClearResultOK (characterOid : UInt16) (hurdleClearType : HurdleClearType) (jumpCombo : UInt32)
  | requestMagicItemOK (characterOid : UInt16) (magicItemId : UInt32)
  | requestMagicItemNotify (magicItemId : UInt32) (characterOid : UInt16)
  | useMagicItemOK (characterOid : UInt16) (magicItemId : UInt32) (targetList : List UInt16)
      (effectInstanceId : UInt16)
  | useMagicItemNotify (characterOid : UInt16) (magicItemId : UInt32) (targetList : List UInt16)
      (effectInstanceId : UInt16)
  | useItemSlotNotify (characterOid : UInt16)
  | addSkillEffect (targetOid : UInt16) (effectId : UInt32) (attackerOid effectInstanceId : UInt16)
      (isDuplicated shieldBlocks : Bool)
  | removeSkillEffect (characterOid : UInt16) (effectId : UInt32)
  | removeMagicTarget (effectInstanceId casterOid targetOid : UInt16)
  | changeMagicTargetCancel (command : ChangeMagicTarget)
  | changeMagicTargetOK (command : ChangeMagicTarget)
  | changeMagicTargetNotify (command : ChangeMagicTarget)
  | magicExpire (magicType : UInt32) (firstObstacleInstanceId : UInt16)
  | gameRaceItemGet (characterOid itemId : UInt16) (itemType : UInt32)
  | loadingCompleteNotify (oid : UInt16)
  | gameCreateClientItem (racerOid : UInt16)
  | obtainEgg (characterUid itemUid : Uid) (itemTid : Tid)
  deriving DecidableEq

/-- An egg that a racer has got from an event item, and whether the character had one of the type. -/
structure Gift where
  serial : Nat
  characterUid : Uid
  wasOwned : Bool
  deriving DecidableEq

/-- A race.  `offered`, `created` and `gifts` are history variables: the racers that were offered an egg
and those that an event item was created for, in this order, and what was given. -/
structure RaceInstance where
  roomUid : UInt32 := 1
  gameMode : UInt8 := 2
  mapBlockId : UInt32 := 0
  raceStart : Instant := 0
  starPointsMax : UInt32 := 0
  racers : ExtTreeMap Uid Racer := ∅
  itemDecks : ExtTreeMap UInt16 ItemDeck := ∅
  nextItemDeckOid : UInt16 := 1
  nextEffectInstanceId : UInt16 := 0
  data : DataDirector := {}
  sent : List (ClientId × Message) := []
  offered : List Uid := []
  created : List Uid := []
  gifts : List Gift := []

/-- What a command meets.  The clients are in the order of their map; `players` are those of the room, if
it exists, and `roomGameMode` is the mode of the room. -/
structure Surroundings where
  clients : List (ClientId × ClientContext) := []
  isServed : ClientId → Bool := fun _ => true
  players : Option (List (Uid × ClientId)) := some []
  roomGameMode : UInt8 := 2
  now : Instant := 0

abbrev Handling := Effect RaceInstance Failure

def speedMode : UInt8 := 1

def magicMode : UInt8 := 2

/-- `InvalidEntityOid`. -/
def invalidEntityOid : UInt16 := 0

/-! ## Lookups -/

namespace Surroundings

variable (around : Surroundings)

def getClientContext (client : ClientId) : Except Failure ClientContext :=
  match around.clients.find? fun entry => entry.1 = client with
  | none => .error (.thrown "Race client is not available")
  | some (_, context) =>
    if context.isAuthenticated then .ok context
    else .error (.thrown "Race client is not authenticated")

def findClientIdByCharacterUid (characterUid : Uid) : Option ClientId :=
  (around.clients.find? fun entry => entry.2.characterUid = characterUid && entry.2.isAuthenticated).map
    Prod.fst

/-- `GetRaceInstance`, for the character of a client that is a racer.  A client in another room has
nothing to do with the race. -/
def getRacer (client : ClientId) (race : RaceInstance) : Except Failure (Uid × Racer) := do
  let context ← around.getClientContext client
  if context.roomUid = invalidUid then throw (.thrown "Room uid is invalid")
  else if context.roomUid ≠ race.roomUid then throw (.thrown "Room does not exist")
  else
    match race.racers[context.characterUid]? with
    | none => throw (.thrown "Character is not a racer")
    | some racer => return (context.characterUid, racer)

/-- The players of the room, which are asked for by a broadcast. -/
def getPlayers : Except Failure (List (Uid × ClientId)) :=
  match around.players with
  | none => .error (.thrown "Room does not exist")
  | some players => .ok players

end Surroundings

/-- `MagicSystem::FindRacerByOid`. -/
def RaceInstance.findRacerByOid (race : RaceInstance) (oid : UInt16) : Option (Uid × Racer) :=
  race.racers.toList.find? fun entry => entry.2.oid = oid

/-! ## Changes -/

/-- Change a racer in place. -/
def RaceInstance.updateRacer (uid : Uid) (change : Racer → Racer) (race : RaceInstance) : RaceInstance :=
  { race with racers := race.racers.modify uid change }

theorem getElem?_updateRacer (uid other : Uid) (change : Racer → Racer) (race : RaceInstance) :
    (race.updateRacer uid change).racers[other]? =
      if other = uid then (race.racers[other]?).map change else race.racers[other]? :=
  Collection.getElem?_modify_self_or_ne race.racers uid other change

def updateRacer (uid : Uid) (change : Racer → Racer) : Handling Unit :=
  modify (RaceInstance.updateRacer uid change)

/-- `QueueCommand`.  What is thrown for a client that is not served is caught. -/
def queueCommand (around : Surroundings) (client : ClientId) (message : Message) : Handling Unit := do
  if around.isServed client then modify fun race => { race with sent := race.sent ++ [(client, message)] }
  else return ()

def broadcast (around : Surroundings) (message : Message) : Handling Unit := do
  let players ← Effect.ask fun _ => around.getPlayers
  players.forM fun player => queueCommand around player.2 message

/-- `BroadcastExceptCharacterUid`. -/
def broadcastExcept (around : Surroundings) (message : Message) (skipCharacterUid : Uid) : Handling Unit := do
  let players ← Effect.ask fun _ => around.getPlayers
  (players.filter fun player => player.1 ≠ skipCharacterUid).forM fun player =>
    queueCommand around player.2 message

end Alicia.Magic
