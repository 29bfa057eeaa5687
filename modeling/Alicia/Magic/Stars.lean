import Alicia.Magic.Jobs

/-!
# Star points

The commands that fill the gauge of a racer, by what the client says or by what the mode of the race gives, and
the spur that consumes it.  All additions are of 32 bits.
-/

namespace Alicia.Magic

open Transition Data

/-! ## Commands -/

structure StarPointGet where
  characterOid : UInt16
  gainedStarPoints : UInt32
  deriving DecidableEq

structure RequestSpur where
  characterOid : UInt16
  activeBoosters : UInt8
  comboBreak : UInt8
  deriving DecidableEq

structure HurdleClearResult where
  characterOid : UInt16
  hurdleClearType : HurdleClearType
  deriving DecidableEq

structure StartingRate where
  characterOid : UInt16
  unk1 : UInt32
  boostGained : UInt32
  deriving DecidableEq

/-- The racer of a client, who acts on behalf of no other racer. -/
def Surroundings.getOwnRacer (around : Surroundings) (client : ClientId) (characterOid : UInt16)
    (race : RaceInstance) : Except Failure (Uid × Racer) := do
  let (uid, racer) ← around.getRacer client race
  if characterOid ≠ racer.oid then
    throw (.thrown "Client tried to perform action on behalf of different racer")
  else return (uid, racer)

/-- The points that a racer gains, doubled under a buff of the gauge. -/
def Racer.buffed (racer : Racer) (points : UInt32) : UInt32 :=
  if racer.effects SkillEffect.bufGauge || racer.effects SkillEffect.bufGaugeCritical then points * 2 else points

/-! ## Handlers -/

section Handlers

variable (registry : Registry) (around : Surroundings)

/-- `HandleStarPointGet`. -/
def handleStarPointGet (client : ClientId) (command : StarPointGet) : Handling Unit := do
  let (uid, racer) ← Effect.ask (around.getOwnRacer client command.characterOid)
  let gameMode ← Effect.ask fun race => registry.getCourseGameModeInfo race.gameMode
  let value := min (racer.starPointValue + racer.buffed command.gainedStarPoints) gameMode.starPointsMax
  updateRacer uid fun racer => { racer with starPointValue := value }
  queueCommand around client (.starPointGetOK command.characterOid value false)

/-- `HandleRequestSpur`. -/
def handleRequestSpur (client : ClientId) (command : RequestSpur) : Handling Unit := do
  let (uid, racer) ← Effect.ask (around.getOwnRacer client command.characterOid)
  let gameMode ← Effect.ask fun race => registry.getCourseGameModeInfo race.gameMode
  if racer.starPointValue < gameMode.spurConsumeStarPoints then
    throw (.thrown "Client is dead ass cheating (or is really desynced)")
  else
    let value := racer.starPointValue - gameMode.spurConsumeStarPoints
    updateRacer uid fun racer => { racer with starPointValue := value }
    queueCommand around client
      (.requestSpurOK command.characterOid command.activeBoosters value command.comboBreak)
    queueCommand around client (.starPointGetOK command.characterOid value false)

/-- The jump combo of a racer and the gauge, after a hurdle. -/
def Racer.clearHurdle (racer : Racer) (gameMode : GameModeInfo) : HurdleClearType → Option (UInt32 × UInt32)
  | .perfect =>
    let jumpCombo := min 99 (racer.jumpComboValue + 1)
    let gainedFromCombo := min gameMode.perfectJumpMaxBonusCombo jumpCombo * gameMode.perfectJumpUnitStarPoints
    some (jumpCombo,
      min (racer.starPointValue + gameMode.perfectJumpStarPoints + gainedFromCombo) gameMode.starPointsMax)
  | .good | .doubleJumpOrGlide =>
    some (0, min (racer.starPointValue + racer.buffed gameMode.goodJumpStarPoints) gameMode.starPointsMax)
  | .collision => some (0, racer.starPointValue)
  | .unhandled _ => none

/-- `HandleHurdleClearResult`. -/
def handleHurdleClearResult (client : ClientId) (command : HurdleClearResult) : Handling Unit := do
  let (uid, racer) ← Effect.ask (around.getOwnRacer client command.characterOid)
  let raceMode := (← get).gameMode
  let gameMode ← Effect.ask fun race => registry.getCourseGameModeInfo race.gameMode
  match racer.clearHurdle gameMode command.hurdleClearType with
  | none => return ()
  | some (jumpCombo, value) =>
    updateRacer uid fun racer => { racer with jumpComboValue := jumpCombo, starPointValue := value }
    if command.hurdleClearType ≠ .collision then
      queueCommand around client (.starPointGetOK command.characterOid value
        (raceMode = magicMode && gameMode.starPointsMax ≤ value && racer.magicItem.isNone &&
          command.hurdleClearType = .perfect))
    queueCommand around client (.hurdleClearResultOK command.characterOid command.hurdleClearType
      (if command.hurdleClearType = .perfect && raceMode ≠ speedMode then 0 else jumpCombo))

/-- `HandleStartingRate`. -/
def handleStartingRate (client : ClientId) (command : StartingRate) : Handling Unit := do
  if command.unk1 < 1 && command.boostGained < 1 then return ()
  else
    let (uid, racer) ← Effect.ask (around.getOwnRacer client command.characterOid)
    let gameMode ← Effect.ask fun race => registry.getCourseGameModeInfo race.gameMode
    let value := min (racer.starPointValue + command.boostGained) gameMode.starPointsMax
    updateRacer uid fun racer => { racer with starPointValue := value }
    queueCommand around client (.starPointGetOK command.characterOid value false)

end Handlers

/-! ## Runs -/

inductive StarCommand where
  | starPointGet (client : ClientId) (command : StarPointGet)
  | requestSpur (client : ClientId) (command : RequestSpur)
  | hurdleClearResult (client : ClientId) (command : HurdleClearResult)
  | startingRate (client : ClientId) (command : StartingRate)

def StarCommand.handle (registry : Registry) (around : Surroundings) : StarCommand → Handling Unit
  | starPointGet client command => handleStarPointGet registry around client command
  | requestSpur client command => handleRequestSpur registry around client command
  | hurdleClearResult client command => handleHurdleClearResult registry around client command
  | startingRate client command => handleStartingRate registry around client command

/-- What happens in a room, with the commands about star points. -/
inductive CourseInput where
  | room (input : RoomInput)
  | star (around : Surroundings) (command : StarCommand)

/-- `PrepareGameMode`: the mode of the race is found in the registry, or the race is not prepared. -/
def StartLookups.prepareGameMode (registry : Registry) (lookups : StartLookups) : StartLookups :=
  match registry.gameModeInfo lookups.gameMode with
  | none => { lookups with decks := [], prepared := false }
  | some gameMode => { lookups with starPointsMax := gameMode.starPointsMax }

def courseStep (registry : Registry) (scheduled : ScheduledRace) : CourseInput → ScheduledRace
  | .room (.start lookups isTeamMode) => scheduled.startRace (lookups.prepareGameMode registry) isTeamMode
  | .room (.command around command) => roomStep registry scheduled (.command around command)
  | .star around command => (onRace (command.handle registry around)).final scheduled

end Alicia.Magic
