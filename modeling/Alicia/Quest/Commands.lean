import Alicia.Possession.ItemSystem
import Alicia.Registry.Items
import Alicia.Registry.Quests

/-!
# Quests

The handlers of quests and of the daily quest group of a character, and the quest events of races.
A quest record is registered by a command.  No code of the server changes its status later.
-/

namespace Alicia.Quest

open Transition Data Registry Possession
open Chrono (TimePoint Seconds)
open DataDirector (characterStorage itemStorage questStorage dailyQuestGroupStorage)

/-- A handler answers, or returns without an answer. -/
inductive Reply where
  | ok
  | silent
  deriving DecidableEq

/-- A daily quest of a command. -/
structure DailyQuest where
  questId : UInt16 := 0
  progress : UInt32 := 0
  rewardType : UInt8 := 0
  rewardId : UInt8 := 0
  deriving DecidableEq

structure RegisterQuestLookups where
  character : Bool := true
  quests : Uid → Bool := fun _ => true
  created : Option Uid := none

/-- One of the quests is active. -/
def alreadyHasQuest (questId : UInt32) (quests : Option (List Quest)) : Bool :=
  match quests with
  | none => false
  | some quests => quests.any fun quest => quest.questId = questId && quest.isCompleted ≠ .completed

def handleRegisterQuest (lookups : RegisterQuestLookups) (caller : Uid) (questId : UInt32) :
    Effect DataDirector Failure Reply := do
  let character ← (characterStorage.immutable lookups.character caller).adaptExcept .thrown
  if alreadyHasQuest questId (questStorage.cachedAll lookups.quests (← get) character.quests) then
    return .silent
  match ← (questStorage.create lookups.created fun uid =>
      ({ uid := uid, questId := questId, isCompleted := .inProgress, progress := 0 } :
        Data.Quest)).adaptExcept .thrown with
  | none => throw (.thrown "Value of the record is unavailable")
  | some uid =>
    (characterStorage.mutable true caller fun character =>
      { character with quests := character.quests ++ [uid] }).adaptExcept .thrown
    return .ok

/-- The entries of a group for the quests of a command, at most three. -/
def dailyEntries (quests : List DailyQuest) : Vector DailyQuestEntry 3 :=
  .ofFn fun i =>
    match quests[i.val]? with
    | some quest => { questId := quest.questId, progress := quest.progress }
    | none => {}

/-- Fill a group from a command. -/
def fillGroup (registry : QuestRegistry) (quests : List DailyQuest) (group : DailyQuestGroup) :
    DailyQuestGroup :=
  { group with
    rewardId := (quests.head?.map DailyQuest.rewardId).getD group.rewardId
    rewardType := (quests.head?.map DailyQuest.rewardType).getD group.rewardType
    quests := dailyEntries quests
    rewardPoints := (dailyEntries quests).foldl (fun points entry =>
      points + ((registry.quests entry.questId.toUInt32).map QuestTemplate.rewardPoint).getD 0) 0 }

structure GroupLookups where
  character : Bool := true
  group : Bool := true
  created : Option Uid := none

/-- Link a new group to the character. -/
def linkGroup (caller uid : Uid) : Effect DataDirector Failure PUnit :=
  (characterStorage.mutable true caller fun character =>
    { character with dailyQuestGroupUid := uid }).adaptExcept .thrown

def handleRegisterDailyQuestGroup (registry : QuestRegistry) (lookups : GroupLookups) (caller : Uid)
    (quests : List DailyQuest) : Effect DataDirector Failure Reply := do
  let character ← (characterStorage.immutable lookups.character caller).adaptExcept .thrown
  if character.dailyQuestGroupUid = invalidUid then
    match ← (dailyQuestGroupStorage.create lookups.created fun uid =>
        fillGroup registry quests { uid := uid }).adaptExcept .thrown with
    | none => throw (.thrown "Value of the record is unavailable")
    | some uid => linkGroup caller uid
  else
    (dailyQuestGroupStorage.mutable lookups.group character.dailyQuestGroupUid
      (fillGroup registry quests)).adaptExcept .thrown
  return .ok

/-- Set the progress of the first entry of a quest. -/
def setProgress (questId : UInt16) (progress : UInt32) (group : DailyQuestGroup) : DailyQuestGroup :=
  match group.quests.findFinIdx? fun entry => entry.questId = questId with
  | none => group
  | some i => { group with
      quests := group.quests.set i { questId := questId, progress := progress } }

/-- Update the progress in a group, and award its carrots if they have not been claimed. -/
def updateGroup (command : DailyQuest) (caller groupUid : Uid) (group : DailyQuestGroup) :
    Effect DataDirector Failure PUnit := do
  let updated := setProgress command.questId command.progress group
  if !updated.carrotsClaimed then
    modify (dailyQuestGroupStorage.write groupUid { updated with carrotsClaimed := true })
    (characterStorage.mutable true caller fun character =>
      { character with carrots := character.carrots + 1000 }).adaptExcept .thrown
  else
    modify (dailyQuestGroupStorage.write groupUid updated)

def handleUpdateDailyQuest (lookups : GroupLookups) (caller : Uid) (command : DailyQuest) :
    Effect DataDirector Failure Reply := do
  let character ← (characterStorage.immutable lookups.character caller).adaptExcept .thrown
  if character.dailyQuestGroupUid = invalidUid then
    match ← (dailyQuestGroupStorage.create lookups.created fun uid =>
        ({ uid := uid } : DailyQuestGroup)).adaptExcept .thrown with
    | none => return .ok
    | some uid =>
      linkGroup caller uid
      updateGroup command caller uid { uid := uid }
  else
    match dailyQuestGroupStorage.find lookups.group character.dailyQuestGroupUid (← get) with
    | none => return .ok
    | some group => updateGroup command caller character.dailyQuestGroupUid group
  return .ok

/-- What the lookups of a reward find.  The `n`-th item is added with the lookups `item n`, and its
record is available afterwards if `bought n`. -/
structure RewardLookups where
  character : Bool := true
  group : Bool := true
  item : Nat → ItemLookups := fun _ => {}
  bought : Nat → Bool := fun _ => true

/-- Add the items of a reward, which are amounts of their templates. -/
def addRewards (lookups : RewardLookups) (amount : QuestRewardItem → Amount) :
    Nat → List QuestRewardItem → Effect (Held Character) Failure PUnit
  | _, [] => pure ⟨⟩
  | n, item :: rest => do
    let uid ← addItem (lookups.item n) item.tid (amount item)
    match itemStorage.find (lookups.bought n) uid (← get).data with
    | none => throw (.thrown "Value of the record is unavailable")
    | some _ => addRewards lookups amount (n + 1) rest

/-- The items for the highest number of points that is not above the requested one. -/
def bestReward (requested : UInt32) (rewardPoints : List (UInt32 × List QuestRewardItem)) :
    Option (UInt32 × List QuestRewardItem) :=
  rewardPoints.foldl (fun best entry =>
    if entry.1 ≤ requested && entry.1 > (best.map Prod.fst).getD 0 then some entry else best) none

def handleRequestDailyQuestReward (registry : QuestRegistry) (lookups : RewardLookups) (caller : Uid)
    (rewardPoints : UInt16) : Effect DataDirector Failure Reply := do
  let character ← (characterStorage.immutable lookups.character caller).adaptExcept .thrown
  if character.dailyQuestGroupUid = invalidUid then
    return .silent
  match dailyQuestGroupStorage.find lookups.group character.dailyQuestGroupUid (← get) with
  | none => return .silent
  | some group =>
  if group.rewardPoints < rewardPoints.toUInt32 then
    return .silent
  match bestReward rewardPoints.toUInt32 registry.rewardPoints with
  | none => return .silent
  | some (_, items) =>
    characterStorage.access (.thrown "Value of the record is unavailable") true caller
      (addRewards lookups (fun item => .count item.count) 0 items)
    return .ok

/-- The amount of a quest reward, in hours where the template is temporary. -/
def rewardAmount (registry : ItemRegistry) (item : QuestRewardItem) : Amount :=
  match registry item.tid with
  | some template =>
    if template.type = .temporary then .duration (Int64.ofNat (item.count.toNat * 3600))
    else .count item.count
  | none => .count item.count

/-- Pay a quest reward. -/
def payReward (items : ItemRegistry) (lookups : RewardLookups) (reward : QuestReward) :
    Effect (Held Character) Failure PUnit := do
  modify fun held => { held with
    value := { held.value with carrots := held.value.carrots + reward.carrots.toInt32 } }
  addRewards lookups (rewardAmount items) 0 reward.items

/-- The reward of a quest, if it has one. -/
def rewardOf (registry : QuestRegistry) (quest : QuestTemplate) : Option QuestReward :=
  if quest.rewardId > 0 then registry.rewards quest.rewardId else none

def handleRequestQuestReward (registry : QuestRegistry) (items : ItemRegistry)
    (lookups : RewardLookups) (caller : Uid) (questTid : UInt16) :
    Effect DataDirector Failure Reply := do
  match registry.quests questTid.toUInt32 with
  | none => return .silent
  | some quest =>
    characterStorage.access (.thrown "Value of the record is unavailable") lookups.character caller
      (match rewardOf registry quest with
      | none => pure ⟨⟩
      | some reward => payReward items lookups reward)
    return .ok

/-- The command is answered, and nothing else. -/
def handleGiveupQuest : Effect DataDirector Failure Reply := pure .ok

/-! ## Quest events -/

/-- `QuestSystem::QuestEvent`. -/
inductive QuestEvent where
  | any
  | prizeWinner
  | perfectJump
  | fireballAttack
  | runMap
  | teamWin
  | glidingDistance
  | collectDropItem
  deriving DecidableEq

def isModeMatch (questFlag eventMode : GameModeFlag) : Bool :=
  questFlag = GameModeFlag.none || questFlag = .any || questFlag = eventMode

def isEventMatch (function : QuestFunction) (event : QuestEvent)
    (questFunctionValue eventValue : UInt32) : Bool :=
  match event with
  | .any => function = .true
  | .prizeWinner => function = .prizeWinnerForLowLevel || function = .prizeWinnerInMapForLowLevel
  | .perfectJump => function = .perfectJump
  | .fireballAttack => function = .fireballAttack
  | .runMap => function = .runMap && questFunctionValue = eventValue
  | .teamWin => function = .teamWin
  | .glidingDistance => function = .glidingDistanceValue
  | .collectDropItem => function = .collectDropItem

/-- Advance an entry that matches the event. -/
def advanceEntry (registry : QuestRegistry) (event : QuestEvent) (gameMode : GameModeFlag)
    (value : UInt32) (entry : DailyQuestEntry) : DailyQuestEntry :=
  if entry.questId = 0 then entry
  else
    match registry.quests entry.questId.toUInt32 with
    | none => entry
    | some quest =>
      if entry.progress ≥ quest.successValue then entry
      else if !isModeMatch quest.gameModeFlag gameMode then entry
      else if !isEventMatch quest.function event quest.functionValue value then entry
      else { entry with progress := min (entry.progress + 1) quest.successValue }

def onQuestEvent (registry : QuestRegistry) (lookups : GroupLookups) (caller : Uid)
    (event : QuestEvent) (gameMode : GameModeFlag) (value : UInt32) :
    Effect DataDirector Failure Reply := do
  match characterStorage.find lookups.character caller (← get) with
  | none => return .silent
  | some character =>
  match dailyQuestGroupStorage.find lookups.group character.dailyQuestGroupUid (← get) with
  | none => return .silent
  | some group =>
    modify (dailyQuestGroupStorage.write character.dailyQuestGroupUid
      { group with quests := group.quests.map (advanceEntry registry event gameMode value) })
    return .ok

/-! ## Inputs -/

/-- A command of a client, or an event of the server. -/
inductive QuestCommand where
  | registerQuest (questId : UInt32) (lookups : RegisterQuestLookups)
  | registerDailyQuestGroup (quests : List DailyQuest) (lookups : GroupLookups)
  | updateDailyQuest (quest : DailyQuest) (lookups : GroupLookups)
  | requestQuestReward (questTid : UInt16) (lookups : RewardLookups)
  | requestDailyQuestReward (rewardPoints : UInt16) (lookups : RewardLookups)
  | giveupQuest
  | questEvent (event : QuestEvent) (gameMode : GameModeFlag) (value : UInt32) (lookups : GroupLookups)

/-- A command about a character. -/
abbrev QuestInput := Uid × QuestCommand

def handleQuest (registry : QuestRegistry) (items : ItemRegistry) :
    QuestInput → Effect DataDirector Failure Reply
  | (caller, .registerQuest questId lookups) => handleRegisterQuest lookups caller questId
  | (caller, .registerDailyQuestGroup quests lookups) =>
    handleRegisterDailyQuestGroup registry lookups caller quests
  | (caller, .updateDailyQuest quest lookups) => handleUpdateDailyQuest lookups caller quest
  | (caller, .requestQuestReward questTid lookups) =>
    handleRequestQuestReward registry items lookups caller questTid
  | (caller, .requestDailyQuestReward rewardPoints lookups) =>
    handleRequestDailyQuestReward registry lookups caller rewardPoints
  | (_, .giveupQuest) => handleGiveupQuest
  | (caller, .questEvent event gameMode value lookups) =>
    onQuestEvent registry lookups caller event gameMode value

end Alicia.Quest
