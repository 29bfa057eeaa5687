import Alicia.Magic.Tracker
import Alicia.Possession.Stacks

/-!
# The commands of magic

The handlers that give, take and use magic items, the effects of a spell, and what happens without a
command: the gauges grow, and an item is stripped some time after an attack.

A racer who has loaded a race may be offered an egg, answers with the place where it lies, and picks it up
as an event item.
-/

namespace Alicia.Magic

open Std (ExtTreeMap)
open Transition Data
open DataDirector (characterStorage horseStorage)
open Possession (ItemLookups hasItem addItem owned)
open Race (Instant)

variable (registry : Registry) (around : Surroundings)

/-! ## Effects -/

def removeEffect (uid : Uid) (oid : UInt16) (effectId : UInt32) : Handling Unit := do
  if isValidSkillEffectId effectId then
    updateRacer uid fun racer =>
      { racer with
        effects := Function.update racer.effects effectId false
        effectGenerations := Function.update racer.effectGenerations effectId
          (racer.effectGenerations effectId + 1) }
    broadcast around (.removeSkillEffect oid effectId)

/-- The effects of a racer as they are now. -/
def hasEffect (uid : Uid) (effectId : UInt32) (race : RaceInstance) : Bool :=
  match race.racers[uid]? with
  | none => false
  | some racer => racer.effects effectId

def stripEffectsOnAttack (uid : Uid) (oid : UInt16) (attack : SlotInfo) : Handling Unit :=
  registry.slotInfo.forM fun slot => do
    if isValidSkillEffectId slot.skillEffectId && isStrippedByAttack attack slot &&
        hasEffect uid slot.skillEffectId (← get) then
      removeEffect around uid oid slot.skillEffectId

def drainGauge (uid : Uid) (oid : UInt16) : Handling Unit := do
  updateRacer uid fun racer => { racer with starPointValue := 0 }
  match around.findClientIdByCharacterUid uid with
  | none => return ()
  | some client => queueCommand around client (.starPointGetOK oid 0 false)

inductive EffectVerdict where
  | shielded
  | applied
  | duplicated
  | failed
  deriving DecidableEq

/-- The effect begins.  What ends it is another job. -/
def startEffect (uid : Uid) (effectId attackRank : UInt32) : Handling Unit :=
  updateRacer uid fun racer =>
    { racer with
      effects := Function.update racer.effects effectId true
      effectGenerations := Function.update racer.effectGenerations effectId
        (racer.effectGenerations effectId + 1)
      attackRank := if 0 < attackRank then attackRank else racer.attackRank }

/-- `ScheduleSkillEffect`. -/
def scheduleSkillEffect (attackerOid targetOid : UInt16) (slot : SlotInfo) (effectInstanceId : UInt16) :
    Handling EffectVerdict := do
  match (← get).findRacerByOid targetOid with
  | none => return .failed
  | some (targetUid, target) =>
    if !isValidSkillEffectId slot.skillEffectId then return .failed
    else
      let resolution ← Effect.ask fun _ => resolveEffect registry slot target.toCondition
      broadcast around (.addSkillEffect targetOid resolution.effectId attackerOid effectInstanceId
        resolution.isDuplicated resolution.shieldBlocks)
      if resolution.shieldBlocks then return .shielded
      else if resolution.isDuplicated then return .duplicated
      else
        startEffect targetUid resolution.effectId slot.attackRank
        if 0 < slot.attackValue then
          stripEffectsOnAttack registry around targetUid targetOid slot
          if drainsGaugeOnHit slot then drainGauge around targetUid targetOid
        return .applied

/-! ## Items -/

/-- `HandleRequestMagicItem`. -/
def handleRequestMagicItem (client : ClientId) (characterOid : UInt16) (roll : Roll) : Handling Unit := do
  let (uid, racer) ← Effect.ask (around.getRacer client)
  if characterOid ≠ racer.oid then return ()
  else
    let gameMode ← Effect.ask fun race => registry.getCourseGameModeInfo race.gameMode
    if racer.magicItem.isSome || racer.starPointValue < gameMode.starPointsMax then return ()
    else
      let slot ← Effect.ask fun _ =>
        randomMagicItem registry (racer.team = .red || racer.team = .blue) roll
      updateRacer uid fun racer => { racer with magicItem := some slot.type, starPointValue := 0 }
      queueCommand around client (.starPointGetOK characterOid 0 false)
      queueCommand around client (.requestMagicItemOK characterOid slot.type)
      broadcastExcept around (.requestMagicItemNotify slot.type characterOid) uid

/-- The effects that make the next spell critical. -/
def auraEffectIds : List UInt32 := [SkillEffect.bufPower, SkillEffect.bufPowerCritical]

/-- `ConsumeCriticalAura`. -/
def consumeCriticalAura (uid : Uid) (racer : Racer) (slot : SlotInfo) : Handling SlotInfo := do
  if !(auraEffectIds.any racer.effects) || slot.criticalType = 0 then return slot
  else
    (auraEffectIds.filter racer.effects).forM fun effectId => removeEffect around uid racer.oid effectId
    Effect.ask fun _ => registry.getSlotInfo slot.criticalType

/-- `ResolveMagicTargets`. -/
def resolveMagicTargets (race : RaceInstance) (slot : SlotInfo) (targetList : List UInt16) : List UInt16 :=
  if slot.type = MagicType.darkFire then [targetList.headD 0]
  else if slot.basicType = MagicType.summon then
    match targetList with
    | [] => []
    | first :: rest =>
      match race.findRacerByOid first with
      | none => []
      | some (_, target) => if target.pendingMagicTarget.isSome then [] else first :: rest
  else targetList

/-- `GetNextEffectInstanceIdAndIncrementBy`. -/
def nextEffectInstanceId (increment : UInt16) : Handling UInt16 := do
  let next := (← get).nextEffectInstanceId
  modify fun race =>
    { race with nextEffectInstanceId := if next + increment = 0 then 1 else next + increment }
  return next

/-- `ApplyImmediateMagicEffects`.  The expiry of an ice wall is another job. -/
def applyImmediateMagicEffects (racer : Racer) (slot : SlotInfo) (effectInstanceId : UInt16) :
    Handling Unit := do
  if isSelfCast slot.type then
    let _ ← scheduleSkillEffect registry around racer.oid racer.oid slot effectInstanceId
  else if isIceWall slot.type then return ()
  else if isTeamBuff slot.type then
    let buffed := (← get).racers.toList.filter fun (_, other) =>
      other.oid = racer.oid || racer.team ≠ .solo && other.team = racer.team
    buffed.forM fun (_, other) => do
      let _ ← scheduleSkillEffect registry around racer.oid other.oid slot effectInstanceId

structure UseMagicItem where
  characterOid : UInt16
  magicItemId : UInt32
  targetList : List UInt16 := []
  deriving DecidableEq

/-- `HandleUseMagicItem`. -/
def handleUseMagicItem (client : ClientId) (command : UseMagicItem) : Handling Unit := do
  let (uid, racer) ← Effect.ask (around.getRacer client)
  if command.characterOid ≠ racer.oid then return ()
  else if racer.magicItem.isNone || command.magicItemId = 0 then
    updateRacer uid fun racer => { racer with magicItem := none }
    queueCommand around client (.useMagicItemOK command.characterOid 0 [] 0)
  else
    let slot ← Effect.ask fun _ => registry.getSlotInfo command.magicItemId
    let slot ← consumeCriticalAura registry around uid racer slot
    let targetList := resolveMagicTargets (← get) slot command.targetList
    let effectInstanceId ← nextEffectInstanceId <|
      if isIceWall slot.type then UInt16.ofNat command.targetList.length else 1
    queueCommand around client
      (.useMagicItemOK command.characterOid slot.type targetList effectInstanceId)
    broadcastExcept around
      (.useMagicItemNotify command.characterOid slot.type targetList effectInstanceId) uid
    applyImmediateMagicEffects registry around racer slot effectInstanceId
    updateRacer uid fun racer => { racer with magicItem := none }

/-! ## Pickups -/

structure UserRaceItemGet where
  characterOid : UInt16
  itemDeckId : UInt16
  deriving DecidableEq

/-- What the rest of a pickup meets: whether the record of the character is available, the lookups of the
item system, and the randomness. -/
structure PickupLookups where
  character : Bool := true
  items : ItemLookups := {}
  roll : Roll := {}
  itemIndex : Nat := 0

/-- The character has an item of the type. -/
def owns (tid : Tid) (characterUid : Uid) (data : DataDirector) : Bool :=
  match data.characters characterUid with
  | none => false
  | some character => (owned ⟨character, data⟩).any fun uid => (data.items uid).map Item.tid = some tid

/-- `FindEventItem` and `GetEventItem`. -/
def findEventItem (racer : Racer) (oid : UInt16) : Option EventItem :=
  (racer.eventItems.find? fun item => item.oid = oid).filter fun item => item.oid ≠ invalidEntityOid

/-- The egg is added to the character. -/
def giveEgg (uid : Uid) (tid : Tid) (lookups : PickupLookups) : Handling Uid :=
  Effect.zoom RaceInstance.data (fun data race => { race with data := data }) <|
    DataDirector.characterStorage.access (.thrown "Value of the record is unavailable") lookups.character uid
      (addItem lookups.items tid (.count 1))

/-- What was given, if an item was added. -/
def recordGift (itemUid : Uid) (gift : Gift) : Handling Unit := do
  if itemUid ≠ invalidUid then modify fun race => { race with gifts := race.gifts ++ [gift] }

/-- The end of the pickup of an event item. -/
def endPickup (uid itemUid : Uid) (tid : Tid) (item : EventItem) (command : UserRaceItemGet) :
    Handling Unit := do
  broadcast around (.obtainEgg uid itemUid tid)
  broadcast around (.gameRaceItemGet command.characterOid command.itemDeckId item.itemType)
  updateRacer uid fun racer =>
    { racer with eventItems := racer.eventItems.filter fun item => item.oid ≠ command.itemDeckId }

/-- The pickup of an event item. -/
def getEventItem (uid : Uid) (item : EventItem) (command : UserRaceItemGet) (lookups : PickupLookups) :
    Handling Unit := do
  let egg ← Effect.ask fun _ => registry.getEggInfoByDeckId item.itemType
  let wasOwned := owns egg.tid uid (← get).data
  let itemUid ← giveEgg uid egg.tid lookups
  recordGift itemUid ⟨item.serial, uid, wasOwned⟩
  endPickup around uid itemUid egg.tid item command

/-- The gauge after a horseshoe of a race of speed. -/
def horseshoe (currentItem starPointsMax starPointValue : UInt32) : UInt32 :=
  if currentItem = 101 then min ((starPointValue / 40000 + 1) * 40000) starPointsMax
  else if currentItem = 102 then min (starPointValue + 10000) starPointsMax
  else starPointValue

/-- The pickup takes the deck from the other racers' view of it, and the racer waits. -/
def coolDown (uid : Uid) (deckId : UInt16) (until_ : Instant) (race : RaceInstance) : RaceInstance :=
  { race with
    racers := race.racers.map fun other racer =>
      { racer with
        deckCooldown := Function.update racer.deckCooldown deckId
          (if other = uid then some until_ else none) } }

/-- `PickRandomItemFromDeck`. -/
def pickRandomItemFromDeck (deckId : UInt16) (deck : ItemDeck) (itemIndex : Nat) : Handling ItemDeck := do
  let deck := { deck with currentItem := deck.items.getD itemIndex deck.currentItem }
  modify fun race => { race with itemDecks := race.itemDecks.insert deckId deck }
  return deck

/-- The magic item of a deck. -/
def drawMagicItem (racer : Racer) (deck : ItemDeck) (roll : Roll) : Except Failure UInt32 := do
  let magicSlot ← registry.getDeckItemInfo deck.currentItem
  let slot ← registry.getSlotInfo magicSlot
  if slot.givePositionalMagic ≠ 0 then
    let drawn ← randomMagicItem registry (racer.team = .red || racer.team = .blue) roll
    return drawn.type
  else return magicSlot

/-- A racer who holds no item takes that of the deck, which empties the gauge. -/
def takeMagicItem (client : ClientId) (uid : Uid) (racer : Racer) (deck : ItemDeck) (characterOid : UInt16)
    (roll : Roll) : Handling UInt32 :=
  match racer.magicItem with
  | some held => pure held
  | none => do
    let drawn ← Effect.ask fun _ => drawMagicItem registry racer deck roll
    updateRacer uid fun racer => { racer with magicItem := some drawn }
    queueCommand around client (.requestMagicItemOK characterOid drawn)
    updateRacer uid fun racer => { racer with starPointValue := 0 }
    queueCommand around client (.starPointGetOK characterOid 0 false)
    return drawn

/-- The pickup of an item deck in a race of magic. -/
def getMagicDeck (client : ClientId) (uid : Uid) (racer : Racer) (deck : ItemDeck)
    (command : UserRaceItemGet) (lookups : PickupLookups) : Handling ItemDeck := do
  let magicItem ← takeMagicItem registry around client uid racer deck command.characterOid lookups.roll
  let deck ← pickRandomItemFromDeck command.itemDeckId deck lookups.itemIndex
  broadcastExcept around (.requestMagicItemNotify magicItem command.characterOid) uid
  return deck

/-- The pickup of an item deck in a race of speed. -/
def getSpeedDeck (client : ClientId) (uid : Uid) (racer : Racer) (deck : ItemDeck) (characterOid : UInt16)
    (starPointsMax : UInt32) : Handling ItemDeck := do
  let value := horseshoe deck.currentItem starPointsMax racer.starPointValue
  updateRacer uid fun racer => { racer with starPointValue := value }
  queueCommand around client (.starPointGetOK characterOid value false)
  return deck

/-- What the mode of the room makes of a pickup. -/
def getDeckInMode (client : ClientId) (uid : Uid) (racer : Racer) (deck : ItemDeck)
    (command : UserRaceItemGet) (lookups : PickupLookups) (gameMode : GameModeInfo) : Handling ItemDeck :=
  if around.roomGameMode = speedMode then
    getSpeedDeck around client uid racer deck command.characterOid gameMode.starPointsMax
  else if around.roomGameMode = magicMode then
    getMagicDeck registry around client uid racer deck command lookups
  else pure deck

/-- The pickup of an item deck. -/
def getDeck (client : ClientId) (uid : Uid) (racer : Racer) (deck : ItemDeck) (command : UserRaceItemGet)
    (lookups : PickupLookups) : Handling Unit := do
  modify (coolDown uid command.itemDeckId (around.now + deck.respawnTime))
  let _ ← Effect.ask fun _ => around.getPlayers
  let gameMode ← Effect.ask fun _ => registry.getCourseGameModeInfo around.roomGameMode
  let deck ← getDeckInMode registry around client uid racer deck command lookups gameMode
  broadcast around (.gameRaceItemGet command.characterOid command.itemDeckId deck.currentItem)

/-- `HandleUserRaceItemGet`. -/
def handleUserRaceItemGet (client : ClientId) (command : UserRaceItemGet) (lookups : PickupLookups) :
    Handling Unit := do
  let (uid, racer) ← Effect.ask (around.getRacer client)
  match findEventItem racer command.itemDeckId with
  | some item => getEventItem registry around uid item command lookups
  | none =>
    match (← get).itemDecks[command.itemDeckId]? with
    | none => return ()
    | some deck =>
      if (racer.deckCooldown command.itemDeckId).any fun until_ => around.now < until_ then return ()
      else getDeck registry around client uid racer deck command lookups

/-! ## Attacks -/

structure ActivateSkillEffect where
  targetOid : UInt16
  effectId : UInt32
  attackerOid : UInt16
  effectInstanceId : UInt16
  deriving DecidableEq

/-- The slot of the reported effect, which is critical while dark fire burns. -/
def reportedSlot (target : Racer) (effectId : UInt32) : Except Failure SlotInfo := do
  let slot ← registry.getSlotInfoByEffectId effectId
  if (target.effects SkillEffect.darkFire || target.effects SkillEffect.darkFireCritical) &&
      slot.criticalByDarkFire ≠ 0 then
    registry.getSlotInfo slot.criticalType
  else return slot

/-- `HandleActivateSkillEffect`.  The strip of the held item is another job. -/
def handleActivateSkillEffect (client : ClientId) (command : ActivateSkillEffect) : Handling Unit := do
  let (uid, target) ← Effect.ask (around.getRacer client)
  if command.targetOid ≠ target.oid then return ()
  else
    let slot ← Effect.ask fun _ => reportedSlot registry target command.effectId
    if isIceWall slot.type then broadcast around (.magicExpire slot.type command.effectInstanceId)
    let verdict ←
      scheduleSkillEffect registry around command.attackerOid command.targetOid slot command.effectInstanceId
    match target.pendingMagicTarget with
    | none => pure ()
    | some (casterOid, effectInstanceId) =>
      if verdict = .applied && 1 < slot.attackRank then
        broadcast around (.removeMagicTarget effectInstanceId casterOid command.targetOid)
        updateRacer uid fun racer => { racer with pendingMagicTarget := none }
    if slot.basicType = MagicType.summon then
      updateRacer uid fun racer => { racer with pendingMagicTarget := none }

/-! ## Without a command -/

/-- What the gauge of a racer gains in a tick. -/
def gainedPerTick (racer : Racer) : UInt32 :=
  let gained := registry.regenInfo.pointPerTick *
    (1000 + registry.regenInfo.courageScaleBp * racer.courage) / 1000
  let gained :=
    if racer.activeSetEffect = .passiveGaugeFaster then
      gained * (10000 + registry.setBonusInfo.passiveGaugeScaleBp) / 10000
    else gained
  let gained :=
    if racer.effects SkillEffect.bufGauge || racer.effects SkillEffect.bufGaugeCritical then gained * 2
    else gained
  if racer.magicItem.isSome then gained * registry.setBonusInfo.holdingGaugeScaleBp / 10000 else gained

/-- The gauge of a racer at a time.  The intervals are not zero. -/
def regenerate (now raceStart : Instant) (starPointsMax : UInt32) (racer : Racer) : Racer :=
  let lastUpdate := racer.lastGaugeUpdate.getD raceStart
  let elapsedTickCount := (now - lastUpdate) / (registry.regenInfo.intervalMs * 1000000)
  if elapsedTickCount = 0 then { racer with lastGaugeUpdate := some lastUpdate }
  else
    let canRegen := racer.magicItem.isNone || racer.activeSetEffect = .gaugeWhileHolding
    { racer with
      lastGaugeUpdate := some now
      starPointValue :=
        if canRegen && racer.starPointValue < starPointsMax then
          min starPointsMax
            (racer.starPointValue + gainedPerTick registry racer * UInt32.ofNat elapsedTickCount)
        else racer.starPointValue }

/-- `TickMagicGauge`. -/
def tickMagicGauge : Handling Unit := do
  let race ← get
  if around.now ≤ race.raceStart then return ()
  else
    let players ← Effect.ask fun _ => around.getPlayers
    players.forM fun (uid, client) => do
      match (← get).racers[uid]? with
      | none => return ()
      | some racer =>
        let racer := regenerate registry around.now race.raceStart race.starPointsMax racer
        updateRacer uid fun _ => racer
        queueCommand around client (.starPointGetOK racer.oid racer.starPointValue
          (racer.magicItem.isNone && race.starPointsMax ≤ racer.starPointValue))

/-- The job of `QueueHeldMagicItemStrip`. -/
def stripHeldMagicItem (uid : Uid) : Handling Unit := do
  match (← get).racers[uid]? with
  | none => return ()
  | some racer =>
    if racer.magicItem.isNone then return ()
    else
      updateRacer uid fun racer => { racer with magicItem := none }
      broadcast around (.useItemSlotNotify racer.oid)

variable (registry : Registry) (around : Surroundings)

/-! ## Offers -/

/-- What `HandleLoadingComplete` meets: the records that are available, what the mount and its parts give,
and whether an egg is drawn. -/
structure LoadingLookups where
  character : Bool := true
  horse : Bool := true
  characterAgain : Bool := true
  courage : UInt32 := 0
  activeSetEffect : SetEquipEffect := .none
  isDrawn : Bool := true

/-- `GetX(uid).Immutable`. -/
def getRecord {V : Type} (storage : Storage V) (available : Bool) (uid : Uid) : Handling V :=
  Effect.ask fun race =>
    match storage.find available uid race.data with
    | none => .error (.thrown "Value of the record is unavailable")
    | some value => .ok value

/-- The eligibility of a race for eggs. -/
def isGameModeEligible (gameMode : UInt8) : Bool := gameMode = speedMode || gameMode = magicMode

/-- The eligibility of a character for eggs. -/
def isCharacterEligible (character : Character) : Bool :=
  registry.minCharLevelForEggSpawning.getD 12 < character.level

/-- `HandleLoadingComplete`.  The level is asked for again. -/
def handleLoadingComplete (client : ClientId) (lookups : LoadingLookups) : Handling Unit := do
  let (uid, racer) ← Effect.ask (around.getRacer client)
  let gameMode := (← get).gameMode
  updateRacer uid fun racer => { racer with state := .racing }
  let character ← getRecord characterStorage lookups.character uid
  let _ ← getRecord horseStorage lookups.horse character.mountUid
  updateRacer uid fun racer =>
    { racer with courage := lookups.courage, activeSetEffect := lookups.activeSetEffect }
  broadcast around (.loadingCompleteNotify racer.oid)
  if !isGameModeEligible gameMode then return ()
  else
    let character ← getRecord characterStorage lookups.characterAgain uid
    if isCharacterEligible registry character && lookups.isDrawn then
      queueCommand around client (.gameCreateClientItem racer.oid)
      modify fun race => { race with offered := race.offered ++ [uid] }

/-! ## Event items -/

/-- What `HandleGameCreateClientItem` meets: the records that are available, and the egg that is drawn
among those of the region. -/
structure CreateLookups where
  character : Bool := true
  inventory : Uid → Bool := fun _ => true
  equipment : Uid → Bool := fun _ => true
  index : Nat := 0

/-- `AddEventItem`. -/
def addEventItem (uid : Uid) (itemType : UInt32) : Handling Unit := do
  let race ← get
  updateRacer uid fun racer =>
    { racer with eventItems := racer.eventItems ++ [⟨race.nextItemDeckOid, itemType, race.created.length⟩] }
  modify fun race =>
    { race with nextItemDeckOid := race.nextItemDeckOid + 1, created := race.created ++ [uid] }

/-- `HandleGameCreateClientItem`.  What it throws first is a pointer, which nobody catches. -/
def handleGameCreateClientItem (client : ClientId) (unk1 : UInt32) (lookups : CreateLookups) :
    Handling Unit := do
  if unk1 ≠ 0 then throw .terminated
  else
    let (uid, _) ← Effect.ask (around.getRacer client)
    let region ← Effect.ask fun race => registry.getMapBlockInfo race.mapBlockId
    let regionEggs := registry.getEggsByRegion region
    if regionEggs.isEmpty then return ()
    else
      match regionEggs[lookups.index]? with
      | none => throw .undefined
      | some selectedEgg =>
        let character ← getRecord characterStorage lookups.character uid
        let data := (← get).data
        if hasItem lookups.inventory lookups.equipment selectedEgg.tid ⟨character, data⟩ then return ()
        else addEventItem uid selectedEgg.deckItemId

/-! ## Runs -/

/-- A command about eggs. -/
inductive EggCommand where
  | loadingComplete (client : ClientId) (lookups : LoadingLookups)
  | gameCreateClientItem (client : ClientId) (unk1 : UInt32) (lookups : CreateLookups)
  | userRaceItemGet (client : ClientId) (command : UserRaceItemGet) (lookups : PickupLookups)

def EggCommand.handle : EggCommand → Handling Unit
  | loadingComplete client lookups => handleLoadingComplete registry around client lookups
  | gameCreateClientItem client unk1 lookups =>
    handleGameCreateClientItem registry around client unk1 lookups
  | userRaceItemGet client command lookups => handleUserRaceItemGet registry around client command lookups

/-- A command and what it meets. -/
structure EggInput where
  around : Surroundings
  command : EggCommand

def eggStep (race : RaceInstance) (input : EggInput) : RaceInstance :=
  (input.command.handle registry input.around).final race

/-! ## The purpose of the eggs -/

/-- A racer is offered one egg, each event item answers an offer and gives one item, and what is given is
new to the character. -/
structure Fair (race : RaceInstance) : Prop where
  offered : ∀ uid, race.offered.count uid ≤ 1
  answered : ∀ uid, race.created.count uid ≤ race.offered.count uid
  given : (race.gifts.map Gift.serial).Nodup
  gone : ∀ gift ∈ race.gifts, ∀ (uid : Uid) (racer : Racer), race.racers[uid]? = some racer →
    ∀ item ∈ racer.eventItems, item.serial ≠ gift.serial
  new : ∀ gift ∈ race.gifts, gift.wasOwned = false

/-- Nothing about eggs and records differs. -/
structure SameEggs (before after : RaceInstance) : Prop where
  data : after.data = before.data
  offered : after.offered = before.offered
  created : after.created = before.created
  gifts : after.gifts = before.gifts
  eventItems : ∀ uid : Uid,
    (after.racers[uid]?).map Racer.eventItems = (before.racers[uid]?).map Racer.eventItems

/-- A pickup that throws has added nothing and removed nothing. -/
def Undone (race : RaceInstance) (input : EggInput) : Prop :=
  match input.command with
  | .userRaceItemGet _ _ _ =>
    ¬(input.command.handle registry input.around).Completes race → SameEggs race (eggStep registry race input)
  | _ => True

/-- What is expected of a command about eggs. -/
def EggSound (race : RaceInstance) (input : EggInput) : Prop :=
  Fair (eggStep registry race input) ∧ Undone registry race input

end Alicia.Magic
