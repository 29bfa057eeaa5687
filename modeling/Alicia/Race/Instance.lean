import Alicia.Number.Binary32
import Alicia.Room
import Alicia.Transition.Effect
import Alicia.Transition.Run
import Mathlib.Data.List.Sort
import Mathlib.Data.Prod.Lex

/-!
# The race instance

A race of one room: its stage, its racers, and `Stop`, which builds the score board, credits the
racers, elects the next room master and clears the room for the next race.

Everything that the rest of the server can change between two ticks of the race is in
`Surroundings`: the handlers move the racers, a data storage makes records available or removes
them, the room loses players and users go offline.
-/

namespace Alicia.Race

open Std (ExtTreeMap ExtTreeSet)
open Data (Uid invalidUid Character Horse)
open Transition (Effect)

/-- A time point of the steady clock, in nanoseconds. -/
abbrev Instant := Nat

def seconds (count : Nat) : Nat := count * 1000000000

inductive Stage where
  | waiting
  | loading
  | racing
  | finishing
  deriving DecidableEq

inductive TeamColor where
  | solo
  | unknown
  | red
  | blue
  deriving DecidableEq

inductive RacerState where
  | disconnected
  | loading
  | racing
  | finishing
  deriving DecidableEq

/-- The course time of a racer who did not finish. -/
def invalidCourseTime : UInt32 := 4294967295

structure Racer where
  state : RacerState := .disconnected
  team : TeamColor := .solo
  courseTime : UInt32 := invalidCourseTime
  deriving DecidableEq

inductive BonusCourseType where
  | none
  | carrots
  | experience
  | carrotsAndExperience
  deriving DecidableEq

namespace BonusCourseType

def includesCarrots (bonus : BonusCourseType) : Bool :=
  bonus = .carrots || bonus = .carrotsAndExperience

def includesExperience (bonus : BonusCourseType) : Bool :=
  bonus = .experience || bonus = .carrotsAndExperience

end BonusCourseType

structure CharacterLevelInfo where
  level : UInt32
  expRequired : UInt32
  deriving DecidableEq

/-- `CharacterRegistry::GetLevelForExp`. -/
def getLevelForExp (levelInfo : List CharacterLevelInfo) (totalExp : UInt32) : UInt32 :=
  go 1 levelInfo
where
  go (currentLevel : UInt32) : List CharacterLevelInfo → UInt32
    | [] => currentLevel
    | info :: rest => if totalExp < info.expRequired then currentLevel else go info.level rest

structure MapBlockInfo where
  timeLimit : UInt32 := 0
  waitTime : UInt32 := 0
  deriving DecidableEq

structure Parameters where
  gameMode : Room.GameMode := .unset
  teamMode : Room.TeamMode := .ffa
  mapBlockId : UInt32 := 0
  missionId : UInt16 := 0
  masterUid : Uid := invalidUid
  deriving DecidableEq

/-- One entry of `AcCmdRCRaceResultNotify`, with the members that the race fills in. -/
structure ScoreInfo where
  uid : Uid := 0
  name : Text := []
  courseTime : UInt32 := 0
  experience : UInt32 := 0
  carrots : UInt32 := 0
  level : UInt32 := 0
  teamColor : TeamColor := .solo
  levelProgress : UInt32 := 0
  horseClassProgress : UInt32 := 0
  bitset : UInt32 := 0
  mountName : Text := []
  growthPoints : UInt16 := 0
  horseClass : UInt8 := 0
  deriving DecidableEq

namespace ScoreInfo

def levelUp : UInt32 := 2
def connected : UInt32 := 64
def eventBonusCarrots : UInt32 := 2048
def eventBonusExperience : UInt32 := 4096

end ScoreInfo

/-- A command that the race queues for a client. -/
inductive Notify where
  | raceCountdown (raceStart : Instant)
  | raceFinal
  | raceResult (scores : List ScoreInfo)
  | changeMaster (masterUid : Uid)
  | updateGameMoney (carrotBalance : Int32)
  deriving DecidableEq

/-- What the rest of the server decides.  Only the records that are available are in `characters`
and `horses`, and `mapBlock` is missing when the course registry does not know the map. -/
structure Surroundings where
  racers : ExtTreeMap Uid Racer := ∅
  bonusCourseType : BonusCourseType := .none
  characters : ExtTreeMap Uid Character := ∅
  horses : ExtTreeMap Uid Horse := ∅
  room : Option Room := none
  onlineCharacters : ExtTreeSet Uid := ∅
  carrotExpMultiplier : Option Int32 := none
  levelInfo : List CharacterLevelInfo := []
  mapBlock : Option MapBlockInfo := none

/-- The race.  A timeout of `none` is `time_point::max()`.  `credits` is a history variable: the
racers that were credited since the stage last became `finishing`, in the order of the credits. -/
structure World extends Surroundings where
  stage : Stage := .waiting
  parameters : Parameters := {}
  stageTimeout : Option Instant := none
  raceStart : Option Instant := none
  sent : List (ClientId × Notify) := []
  credits : List Uid := []

abbrev Action := Effect World String

/-! ## Records, rooms and users -/

/-- `GetCharacter(uid)` followed by an access, which throws when the record is unavailable. -/
def accessCharacter (uid : Uid) : Action Character := do
  match (← get).characters[uid]? with
  | some character => if uid = invalidUid then throw unavailable else pure character
  | none => throw unavailable
where
  unavailable := "Value of the record is unavailable"

/-- `GetHorse(uid)` followed by an access. -/
def accessHorse (uid : Uid) : Action Horse := do
  match (← get).horses[uid]? with
  | some horse => if uid = invalidUid then throw unavailable else pure horse
  | none => throw unavailable
where
  unavailable := "Value of the record is unavailable"

/-- `GetRoom`, which throws when the room was deleted. -/
def getRoom : Action Room := do
  match (← get).room with
  | some room => pure room
  | none => throw "Room does not exist"

def setRoom (room : Room) : Action Unit :=
  modify fun world => { world with room := some room }

/-- `LobbyDirector::GetUserByCharacterUid`, for its failure. -/
def getUserByCharacterUid (uid : Uid) : Action Unit := do
  if uid ∈ (← get).onlineCharacters then pure ()
  else throw s!"User instance for character {uid} not available"

def queueCommand (clientId : ClientId) (notify : Notify) : Action Unit :=
  modify fun world => { world with sent := world.sent ++ [(clientId, notify)] }

/-- Queue the command for every player of the room. -/
def broadcast (notify : Notify) : Action Unit := do
  let room ← getRoom
  room.players.toList.forM fun entry => queueCommand entry.2.clientId notify

/-! ## The score board -/

/-- The team of the first finisher, and `solo` unless the race is a team race. -/
def winningTeam (world : World) : TeamColor :=
  if world.parameters.teamMode = .team then
    (world.racers.toList.foldl pick (invalidCourseTime, .solo)).2
  else .solo
where
  pick (best : UInt32 × TeamColor) (entry : Uid × Racer) : UInt32 × TeamColor :=
    let racer := entry.2
    if racer.state ≠ .disconnected ∧ racer.courseTime ≠ invalidCourseTime ∧
        racer.courseTime < best.1 then
      (racer.courseTime, racer.team)
    else best

def baseExpReward : UInt32 := 420

def baseCarrotReward : UInt32 := 2500

/-- The system value is a percentage. -/
def systemMultiplier (carrotExpMultiplier : Option Int32) : ℚ :=
  match carrotExpMultiplier with
  | some percentage => Binary32.div (Binary32.round percentage.toInt) 100
  | none => 1

/-- `static_cast<uint32_t>(static_cast<float>(reward) * …)`, a product from the left. -/
def scaleReward (reward : UInt32) (factors : List ℚ) : UInt32 :=
  Binary32.toUInt32 (factors.foldl Binary32.mul (Binary32.round reward.toNat))

/-- The carrots of a racer; only a racer who finished has them scaled. -/
def carrotReward (world : World) (racer : Racer) : UInt32 :=
  if racer.courseTime = invalidCourseTime then baseCarrotReward
  else
    let multiplier := systemMultiplier world.carrotExpMultiplier
    if world.bonusCourseType.includesCarrots then
      scaleReward baseCarrotReward [multiplier, 3 / 2]
    else scaleReward baseCarrotReward [multiplier]

/-- The experience of a racer; the system multiplier does not apply to it. -/
def experienceReward (world : World) (racer : Racer) : UInt32 :=
  if racer.courseTime = invalidCourseTime then baseExpReward
  else if world.bonusCourseType.includesExperience then scaleReward baseExpReward [2]
  else baseExpReward

def bonusBits (world : World) (racer : Racer) : UInt32 :=
  if racer.courseTime = invalidCourseTime then 0
  else
    (if world.bonusCourseType.includesCarrots then ScoreInfo.eventBonusCarrots else 0) |||
      (if world.bonusCourseType.includesExperience then ScoreInfo.eventBonusExperience else 0)

/-- The members of a score that follow from the racer alone. -/
def racerScore (world : World) (racer : Racer) : ScoreInfo where
  courseTime := if racer.state ≠ .disconnected then racer.courseTime else invalidCourseTime
  experience := experienceReward world racer
  carrots := carrotReward world racer
  teamColor := racer.team
  bitset :=
    (if racer.state ≠ .disconnected then ScoreInfo.connected else 0) ||| bonusBits world racer

/-- The character after its reward: `carrots() += …` converts to unsigned and back. -/
def rewardCharacter (levelInfo : List CharacterLevelInfo) (score : ScoreInfo)
    (character : Character) : Character :=
  let experience := character.experience + score.experience
  let newLevel := getLevelForExp levelInfo experience
  { character with
    carrots := (character.carrots.toUInt32 + score.carrots).toInt32
    experience := experience
    level := if newLevel > character.level then newLevel else character.level }

/-- The members of a score that follow from the rewarded character. -/
def characterScore (score : ScoreInfo) (before after : Character) : ScoreInfo :=
  { score with
    bitset := if after.level > before.level then score.bitset ||| ScoreInfo.levelUp else score.bitset
    uid := after.uid
    name := after.name
    level := after.level
    levelProgress := after.experience }

/-- The members of a score that follow from the character's mount. -/
def mountScore (score : ScoreInfo) (horse : Horse) : ScoreInfo :=
  { score with
    mountName := horse.name
    horseClass := horse.clazz.toUInt8
    horseClassProgress := horse.clazzProgress
    growthPoints := horse.growthPoints.toUInt16 }

/-- Put a rewarded character into its record. -/
def credit (characterUid : Uid) (rewarded : Character) (world : World) : World :=
  { world with
    characters := world.characters.insert characterUid rewarded
    credits := world.credits ++ [characterUid] }

/-- The reward is in the character's record before the mount's record is looked up. -/
def scoreRacer (characterUid : Uid) (racer : Racer) : Action ScoreInfo := do
  let world ← get
  let score := racerScore world racer
  let character ← accessCharacter characterUid
  let rewarded := rewardCharacter world.levelInfo score character
  modify (credit characterUid rewarded)
  let horse ← accessHorse rewarded.mountUid
  pure (mountScore (characterScore score character rewarded) horse)

def scoreBoard : List (Uid × Racer) → Action (List ScoreInfo)
  | [] => pure []
  | (characterUid, racer) :: rest => do
    let score ← scoreRacer characterUid racer
    let scores ← scoreBoard rest
    pure (score :: scores)

/-- The winning team first, then finishers, time-overs and the disconnected, then by time. -/
def priority (winner : TeamColor) (score : ScoreInfo) : ℕ ×ₗ ℕ ×ₗ ℕ :=
  let isConnected := score.bitset &&& ScoreInfo.connected ≠ 0
  let hasValidTime := score.courseTime < invalidCourseTime
  let resultRank := if ¬isConnected then 2 else if hasValidTime then 0 else 1
  toLex (if score.teamColor ≠ winner then 1 else 0, toLex (resultRank, score.courseTime.toNat))

/-- `ranges::sort` leaves the order of equal scores open; here it is their order in the map. -/
def sortScores (winner : TeamColor) (scores : List ScoreInfo) : List ScoreInfo :=
  scores.insertionSort fun a b => priority winner a ≤ priority winner b

/-! ## The room after a race -/

/-- The best placed racer who is still in the room. -/
def electMaster (room : Room) (standings : List Uid) : Option Uid :=
  if room.getPlayerCount < 1 then none else standings.find? room.hasPlayer

/-- Announce the new master; a master without a user instance is an error. -/
def announceMaster (newMasterUid : Uid) : Action Unit := do
  if newMasterUid ≠ invalidUid then
    getUserByCharacterUid newMasterUid
    broadcast (.changeMaster newMasterUid)

def assignMaster (scores : List ScoreInfo) : Action Unit := do
  if scores ≠ [] then
    let room ← getRoom
    match electMaster room (scores.map ScoreInfo.uid) with
    | none => pure ()
    | some newMasterUid => do
      setRoom (room.setMaster newMasterUid)
      announceMaster newMasterUid

def modifyRoom (change : Room → Room) : Action Unit :=
  modify fun world => { world with room := world.room.map change }

/-- Clear the ready state of a player and send the carrot balance. -/
def settlePlayer (uid : Uid) (player : Room.Player) : Action Unit := do
  modifyRoom fun room => room.setReady uid false
  let character ← accessCharacter uid
  queueCommand player.clientId (.updateGameMoney character.carrots)

def settlePlayers : Action Unit := do
  let room ← getRoom
  modifyRoom fun room => room.setRoomPlaying false
  room.players.toList.forM fun entry => settlePlayer entry.1 entry.2

/-- `RaceInstance::Stop`. -/
def stop : Action Unit := do
  let world ← get
  let scores ← scoreBoard world.racers.toList
  let sorted := sortScores (winningTeam world) scores
  broadcast (.raceResult sorted)
  assignMaster sorted
  settlePlayers

end Alicia.Race
