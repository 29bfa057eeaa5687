import Alicia.Race.Instance

/-!
# The stages of a race

`RaceInstance::Tick` runs the tick of the current stage and swallows whatever it throws, so the
stage changes only where a stage's tick assigns it.  The clock is read once for every tick.
-/

namespace Alicia.Race

open Data (Uid)

/-- `now >= _stageTimeoutTimePoint`. -/
def timeoutReached (stageTimeout : Option Instant) (now : Instant) : Bool :=
  stageTimeout.any fun timeout => timeout ≤ now

/-- `RaceInstance::Start`; `prepared` tells whether `PrepareGameMode` and `PrepareMap` returned. -/
def start (parameters : Parameters) (prepared : Bool) (now : Instant) (world : World) : World :=
  if prepared then
    { world with
      parameters := parameters
      stage := .loading
      stageTimeout := some (now + seconds 60) }
  else { world with parameters := parameters }

/-- A racer who did not load in time counts as disconnected. -/
def dropUnloaded (racer : Racer) : Racer :=
  if racer.state ≠ .racing then { racer with state := .disconnected } else racer

def allRacersLoaded (world : World) : Bool :=
  world.racers.toList.all fun entry => entry.2.state = .racing || entry.2.state = .disconnected

def getMapBlockInfo : Action MapBlockInfo := do
  match (← get).mapBlock with
  | some mapBlock => pure mapBlock
  | none => throw "Invalid course map block"

def tickLoading (now : Instant) : Action Unit := do
  let world ← get
  if allRacersLoaded world || timeoutReached world.stageTimeout now then
    modify fun world => { world with racers := world.racers.map fun _ => dropUnloaded }
    let mapBlock ← getMapBlockInfo
    modify fun world => { world with
      stage := .racing
      stageTimeout :=
        if world.parameters.teamMode = .single then none
        else some (now + seconds mapBlock.timeLimit.toNat)
      raceStart := some (now + seconds mapBlock.waitTime.toNat) }
    broadcast (.raceCountdown (now + seconds mapBlock.waitTime.toNat))

def anyRacerFinishing (world : World) : Bool :=
  world.racers.toList.any fun entry => entry.2.state = .finishing

/-- Tell the racers among the room's players that the race time is over. -/
def announceFinal : Action Unit := do
  let room ← getRoom
  let racers := (← get).racers
  room.players.toList.forM fun entry => do
    if entry.1 ∈ racers then queueCommand entry.2.clientId .raceFinal

def enterFinishing (now : Instant) (world : World) : World :=
  { world with
    stage := .finishing
    stageTimeout := some (now + seconds 15)
    credits := [] }

def tickRacing (now : Instant) : Action Unit := do
  let world ← get
  if anyRacerFinishing world || timeoutReached world.stageTimeout now then
    modify (enterFinishing now)
    if timeoutReached world.stageTimeout now then announceFinal

def allRacersFinished (world : World) : Bool :=
  world.racers.toList.all fun entry =>
    entry.2.state = .finishing || entry.2.state = .disconnected

def tickFinishing (now : Instant) : Action Unit := do
  let world ← get
  if allRacersFinished world || timeoutReached world.stageTimeout now then
    stop
    modify fun world => { world with stage := .waiting }

def tickStage (now : Instant) : Action Unit := do
  match (← get).stage with
  | .waiting => pure ()
  | .loading => tickLoading now
  | .racing => tickRacing now
  | .finishing => tickFinishing now

/-- `RaceInstance::Tick`, up to the race content, which concerns neither the stage nor records. -/
def tick (now : Instant) (world : World) : World :=
  (tickStage now).final world

/-- What can happen to a race. -/
inductive Input where
  /-- The race handler starts the race. -/
  | start (parameters : Parameters) (prepared : Bool) (now : Instant)
  /-- The race thread ticks the race. -/
  | tick (now : Instant)
  /-- Anything else in the server runs. -/
  | outside (surroundings : Surroundings)

def step (world : World) : Input → World
  | .start parameters prepared now => start parameters prepared now world
  | .tick now => tick now world
  | .outside surroundings => { world with toSurroundings := surroundings }

/-- A new race instance. -/
def created (surroundings : Surroundings) : World :=
  { toSurroundings := surroundings }

end Alicia.Race
