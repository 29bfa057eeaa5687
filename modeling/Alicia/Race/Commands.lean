import Alicia.Race.Handler

/-!
# The commands of the race server

The handlers by which clients enter and leave a room, kick each other, agree on a race, start it, and
report that they have loaded or finished it; and the steps of the server, in which they run.

Commands that are queued for other clients are left out: queueing one neither throws nor changes
anything here.
-/

namespace Alicia.Race

open Std (ExtTreeMap ExtTreeSet)
open Data (Uid invalidUid Character Horse)
open Transition (Effect)
open Transition.Effect (ask)

/-- Change a room, which has to exist. -/
def changeRoom (roomUid : UInt32) (change : Room → Room) : Handling Unit := do
  let room ← ask (·.getRoom roomUid)
  modify (·.setRoom roomUid (change room))

/-! ## Entering a room -/

/-- `AcCmdCREnterRoom`. -/
structure EnterRoom where
  characterUid : Uid
  roomUid : UInt32
  oneTimePassword : UInt32
  deriving DecidableEq

/-- What the handler finds outside the race server: the time, the team of a player between equal teams,
and what is thrown when the avatar of a player is described. -/
structure EnterLookups where
  now : Nat := 0
  coin : Bool := true
  describe : Uid → Except String Unit := fun _ => .ok ()

structure RoomRacer where
  uid : Uid
  isMaster : Bool
  isReady : Bool
  team : Room.Team
  deriving DecidableEq

structure EnterRoomOK where
  isRoomWaiting : Bool
  uid : UInt32
  roomDescription : Room.Details
  racers : List RoomRacer
  deriving DecidableEq

inductive EnterRoomReply where
  | ok (response : EnterRoomOK)
  | cancel
  deriving DecidableEq

/-- The code of the client is looked up under a hash of the character and the room. -/
abbrev IdentityHash := Uid → UInt32 → UInt64

namespace NetworkHandler

variable (identityHash : IdentityHash) (handler : NetworkHandler)

/-- The code is right. -/
def authorizes (now : Nat) (command : EnterRoom) : Bool :=
  (handler.otpSystem.authorizeCode (identityHash command.characterUid command.roomUid) now
    command.oneTimePassword).1

/-- The context of the client, which is created if there is none, takes over whether the code is right. -/
def authenticated (now : Nat) (client : ClientId) (command : EnterRoom) : NetworkHandler :=
  let (authorized, otpSystem) := handler.otpSystem.authorizeCode
    (identityHash command.characterUid command.roomUid) now command.oneTimePassword
  { handler with otpSystem := otpSystem }.setContext client
    { handler.clients[client]?.getD {} with isAuthenticated := authorized }

end NetworkHandler

/-- Returns whether the room is overcrowded. -/
def addPlayer (coin : Bool) (client : ClientId) (command : EnterRoom) : Handling Bool := do
  let room ← ask (·.getRoom command.roomUid)
  let (added, changed) := room.addPlayer client command.characterUid coin
  modify (·.setRoom command.roomUid changed)
  match added with
  | .error failure => throw failure
  | .ok added => return !added

/-- The first client that gets this far sets up the race of the room, and is its master. -/
def createRace (command : EnterRoom) : Handling Unit := do
  if command.roomUid ∈ (← get).raceInstances then pure ()
  else
    modify (·.setRace command.roomUid {})
    changeRoom command.roomUid (·.setMaster command.characterUid)

def describeRacers (lookups : EnterLookups) (room : Room) (handler : NetworkHandler) :
    List (Uid × Room.Player) → Except String (List RoomRacer)
  | [] => .ok []
  | (uid, player) :: rest =>
    match handler.getCharacter uid, lookups.describe uid with
    | .error failure, _ => .error failure
    | _, .error failure => .error failure
    | .ok _, .ok () =>
      (describeRacers lookups room handler rest).map
        (⟨uid, uid = room.details.masterUid, player.isReady, player.team⟩ :: ·)

def enterRoomOK (lookups : EnterLookups) (command : EnterRoom) (handler : NetworkHandler) :
    Except String EnterRoomOK :=
  match handler.getRoom command.roomUid with
  | .error _ => .error "Client tried entering a deleted room"
  | .ok room =>
    (describeRacers lookups room handler room.players.toList).map fun racers => {
      isRoomWaiting :=
        handler.raceInstances[command.roomUid]?.all fun race => race.stage = .waiting
      uid := command.roomUid
      roomDescription := room.details
      racers := racers }

/-- What follows when the client has been added to the room. -/
def joinRoom (lookups : EnterLookups) (client : ClientId) (command : EnterRoom) :
    Handling EnterRoomReply := do
  modify (·.setContext client ⟨command.characterUid, command.roomUid, true⟩)
  ask (·.getUser command.characterUid)
  createRace command
  let _ ← ask (·.getCharacter command.characterUid)
  let response ← ask (enterRoomOK lookups command)
  return .ok response

/-- A right code for a room that does not exist throws where the room is looked up. -/
def handleEnterRoom (identityHash : IdentityHash) (lookups : EnterLookups) (client : ClientId)
    (command : EnterRoom) : Handling EnterRoomReply := do
  let authorized := (← get).authorizes identityHash lookups.now command
  modify (·.authenticated identityHash lookups.now client command)
  if !authorized then
    return .cancel
  else
    let isOvercrowded ← addPlayer lookups.coin client command
    if isOvercrowded then
      return .cancel
    else joinRoom lookups client command

/-! ## Leaving a room -/

/-- `candidates.front()` for the next master: any player of a room that waits, and otherwise the first
racer who is still connected. -/
def NetworkHandler.candidate (first : Uid) (roomUid : UInt32) (handler : NetworkHandler) : Option Uid :=
  match handler.raceInstances[roomUid]? with
  | none => none
  | some race =>
    if race.stage = .waiting then handler.rooms[roomUid]?.bind fun room => room.frontPlayer first
    else
      (race.racers.toList.find? fun entry => entry.2.state ≠ .disconnected).map Prod.fst

/-- Make the candidate the master of the room. -/
def succeedMaster (first : Uid) (roomUid : UInt32) : Handling Unit := do
  match (← get).candidate first roomUid with
  | none => pure ()
  | some candidateUid => do
    ask (·.getClientOfCharacter candidateUid)
    let _ ← ask (·.getCharacter candidateUid)
    changeRoom roomUid (·.setMaster candidateUid)

/-- A room whose master leaves gets another one. -/
def replaceMaster (first : Uid) (context : ClientContext) (room : Room) : Handling Unit :=
  if room.details.masterUid = context.characterUid then succeedMaster first context.roomUid
  else pure ()

def deleteRoomIfEmpty (roomUid : UInt32) : Handling Unit := do
  let room ← ask (·.getRoom roomUid)
  if room.getPlayerCount ≠ 0 then pure ()
  else modify (·.closeRoom roomUid)

/-- Change the racer of a client in the race of its room. -/
def NetworkHandler.modifyRacer (context : ClientContext) (change : Racer → Racer)
    (handler : NetworkHandler) : NetworkHandler :=
  handler.modifyRace context.roomUid fun race => race.modifyRacer context.characterUid change

/-- What follows when the client may leave its room. -/
def depart (first : Uid) (client : ClientId) (context : ClientContext) : Handling Unit := do
  modify (·.modifyRacer context (·.setState .disconnected))
  let room ← ask (·.getRoom context.roomUid)
  modify (·.setRoom context.roomUid (room.removePlayer context.characterUid))
  replaceMaster first context room
  deleteRoomIfEmpty context.roomUid
  modify (·.setContext client { context with roomUid := invalidUid })

/-- Returns whether `AcCmdCRLeaveRoomOK` is sent. -/
def handleLeaveRoom (first : Uid) (client : ClientId) : Handling Bool := do
  let context ← ask (·.getClientContext client true)
  if context.roomUid = invalidUid then
    return false
  else
    let _ ← ask (·.getRaceInstance context)
    let _ ← ask (·.getCharacter context.characterUid)
    depart first client context
    return true

/-- `HandleKickUser`; returns whether the target was kicked. -/
def handleKickUser (first : Uid) (firstClient : ClientId) (client : ClientId) (characterUid : Uid) :
    Handling Bool := do
  let context ← ask (·.getClientContext client true)
  let _ ← ask (·.getRaceInstance context)
  let _ ← ask (·.getCharacter context.characterUid)
  let target ← ask (·.getCharacter characterUid)
  ask (·.getClientOfCharacter characterUid)
  let room ← ask (·.getRoom context.roomUid)
  if context.characterUid ≠ room.details.masterUid ∨ characterUid = context.characterUid ∨
      ¬room.hasPlayer characterUid ∨ target.role = .gameMaster then
    return false
  else
    match (← get).findClientId firstClient characterUid with
    | none => return false
    | some targetClient => do
      let _ ← handleLeaveRoom first targetClient
      return true

/-! ## Connections -/

/-- `_clients.try_emplace(clientId)`. -/
def handleClientConnected (client : ClientId) (handler : NetworkHandler) : NetworkHandler :=
  match handler.clients[client]? with
  | none => handler.setContext client {}
  | some _ => handler

/-- A client that disconnects leaves its room first, if it is authenticated and the room has a race. -/
def leaveRace (first : Uid) (client : ClientId) (context : ClientContext) : Handling Unit := do
  if context.isAuthenticated ∧ context.roomUid ∈ (← get).raceInstances then
    let _ ← handleLeaveRoom first client
  else pure ()

def handleClientDisconnected (first : Uid) (client : ClientId) : Handling Unit := do
  let context ← ask (·.getClientContext client false)
  leaveRace first client context
  modify fun handler => { handler with clients := handler.clients.erase client }

/-! ## Before a race -/

def handleReadyRace (client : ClientId) : Handling Unit := do
  let context ← ask (·.getClientContext client true)
  let room ← ask (·.getRoom context.roomUid)
  let changed ← ask fun _ => room.modifyPlayer context.characterUid Room.Player.toggleReady
  modify (·.setRoom context.roomUid changed)
  let _ ← ask (·.getRaceInstance context)

/-- `AcCmdCRChangeTeam`. -/
structure ChangeTeam where
  characterOid : Uid
  teamColor : TeamColor
  deriving DecidableEq

/-- Other colors than red and blue leave the team as it is. -/
def ChangeTeam.apply (command : ChangeTeam) (player : Room.Player) : Room.Player :=
  match command.teamColor with
  | .red => { player with team := .red }
  | .blue => { player with team := .blue }
  | _ => player

/-- Returns whether `AcCmdCRChangeTeamOK` is sent. -/
def handleChangeTeam (client : ClientId) (command : ChangeTeam) : Handling Bool := do
  let context ← ask (·.getClientContext client true)
  let room ← ask (·.getRoom context.roomUid)
  let changed ← ask fun _ => room.modifyPlayer command.characterOid command.apply
  modify (·.setRoom context.roomUid changed)
  let race ← ask (·.getRaceInstance context)
  return race.stage = .waiting

/-- `AcCmdCRChangeRoomOptions`; the options that its bitfield does not name are missing. -/
structure ChangeRoomOptions where
  name : Option Text := none
  playerCount : Option UInt8 := none
  password : Option Text := none
  gameMode : Option Room.GameMode := none
  mapBlockId : Option UInt16 := none
  npcDifficulty : Option UInt8 := none
  deriving DecidableEq

def ChangeRoomOptions.apply (command : ChangeRoomOptions) (details : Room.Details) : Room.Details :=
  { details with
    name := command.name.getD details.name
    maxPlayerCount := (command.playerCount.map UInt8.toUInt32).getD details.maxPlayerCount
    password := command.password.getD details.password
    gameMode :=
      match command.gameMode with
      | some .speed => .speed
      | some .magic => .magic
      | some .tutorial => .tutorial
      | _ => details.gameMode
    courseId := command.mapBlockId.getD details.courseId
    npcDifficulty := command.npcDifficulty.getD details.npcDifficulty }

/-- Only the name asks for the record of the character, which is logged. -/
def logNameChange (context : ClientContext) (command : ChangeRoomOptions) : Handling Unit :=
  if command.name.isSome then do let _ ← ask (·.getCharacter context.characterUid)
  else pure ()

def handleChangeRoomOptions (client : ClientId) (command : ChangeRoomOptions) : Handling Unit := do
  let context ← ask (·.getClientContext client true)
  if command = {} then pure ()
  else
    logNameChange context command
    changeRoom context.roomUid fun room => { room with details := command.apply room.details }

/-! ## Starting a race -/

/-- How `RaceInstance::Start` goes: whether the game mode and the map could be prepared, the map, and the
bonus course that is drawn for a full room. -/
structure StartLookups where
  now : Instant := 0
  prepared : Bool := true
  mapBlockId : UInt32 := 0
  bonusCourseType : BonusCourseType := .none
  deriving DecidableEq

inductive StartRaceReply where
  | notReady
  | notTeamBalance
  | generic
  | countdown (bonusCourseType : BonusCourseType)
  deriving DecidableEq

def raceParameters (room : Room) : Parameters where
  gameMode := room.details.gameMode
  teamMode := room.details.teamMode
  mapBlockId := room.details.courseId.toUInt32
  missionId := room.details.missionId
  masterUid := room.details.masterUid

def teamColor : Room.Team → TeamColor
  | .solo => .solo
  | .red => .red
  | .blue => .blue

/-- The racers that are added to a cleared tracker. -/
def loadingRacers (room : Room) : ExtTreeMap Uid Racer :=
  room.players.map fun _ player => { state := .loading, team := teamColor player.team }

/-- A room of eight players may get a bonus course. -/
def bonusCourse (lookups : StartLookups) (room : Room) : BonusCourseType :=
  if room.getPlayerCount = 8 then lookups.bonusCourseType else .none

/-- `GetTracker().Clear()`, then `RaceInstance::Start`, which prepares the map. -/
def NetworkHandler.startRace (lookups : StartLookups) (roomUid : UInt32) (room : Room)
    (handler : NetworkHandler) : NetworkHandler :=
  (handler.modifyRace roomUid fun race =>
    { race with racers := ∅, mapBlockId := lookups.mapBlockId }).play roomUid
      (start (raceParameters room) lookups.prepared lookups.now)

/-- Draw the bonus course and add the players of the room to the tracker. -/
def NetworkHandler.addRacers (lookups : StartLookups) (roomUid : UInt32) (room : Room)
    (handler : NetworkHandler) : NetworkHandler :=
  (handler.modifyRace roomUid fun race =>
    { race with
      bonusCourseType := bonusCourse lookups room
      racers := loadingRacers room }).setRoom roomUid (room.setRoomPlaying true)

/-- The stage of the race is not looked at. -/
def handleStartRace (lookups : StartLookups) (client : ClientId) : Handling StartRaceReply := do
  let context ← ask (·.getClientContext client true)
  let _ ← ask (·.getRaceInstance context)
  let room ← ask (·.getRoom context.roomUid)
  if context.characterUid ≠ room.details.masterUid then
    throw "Client tried to start the race even though they're not the master"
  else
    match room.canRoomStart with
    | .notAllPlayersReady => return .notReady
    | .teamImbalance => return .notTeamBalance
    | .none => do
      modify (·.startRace lookups context.roomUid room)
      if !lookups.prepared then
        return .generic
      else
        modify (·.addRacers lookups context.roomUid room)
        return .countdown (bonusCourse lookups room)

/-! ## During a race -/

/-- The state is written before the mount is looked up, whatever it was. -/
def handleLoadingComplete (client : ClientId) : Handling Unit := do
  let context ← ask (·.getClientContext client true)
  let _ ← ask (·.getRacer context)
  modify (·.modifyRacer context (·.setState .racing))
  let character ← ask (·.getCharacter context.characterUid)
  let _ ← ask (·.getHorse character.mountUid)

/-- `AcCmdUserRaceFinal`; `didNotFinish` tells whether the track progress is positive. -/
structure UserRaceFinal where
  courseTime : UInt32
  didNotFinish : Bool := false
  deriving DecidableEq

def UserRaceFinal.apply (command : UserRaceFinal) (racer : Racer) : Racer :=
  { racer with
    state := .finishing
    courseTime := if command.didNotFinish then invalidCourseTime else command.courseTime }

/-- Returns the course time that the room is told. -/
def handleUserRaceFinal (client : ClientId) (command : UserRaceFinal) : Handling UInt32 := do
  let context ← ask (·.getClientContext client true)
  let racer ← ask (·.getRacer context)
  modify (·.modifyRacer context command.apply)
  return (command.apply racer).courseTime

/-! ## The server -/

inductive Command where
  | enterRoom (lookups : EnterLookups) (command : EnterRoom)
  | leaveRoom (first : Uid)
  | kick (first : Uid) (firstClient : ClientId) (characterUid : Uid)
  | readyRace
  | changeTeam (command : ChangeTeam)
  | changeRoomOptions (command : ChangeRoomOptions)
  | startRace (lookups : StartLookups)
  | loadingComplete
  | userRaceFinal (command : UserRaceFinal)

/-- What a command of a client leaves, whether its handler returns or throws. -/
def handle (identityHash : IdentityHash) (handler : NetworkHandler) (client : ClientId) :
    Command → NetworkHandler
  | .enterRoom lookups command =>
    (handleEnterRoom identityHash lookups client command).final handler
  | .leaveRoom first => (handleLeaveRoom first client).final handler
  | .kick first firstClient characterUid =>
    (handleKickUser first firstClient client characterUid).final handler
  | .readyRace => (handleReadyRace client).final handler
  | .changeTeam command => (handleChangeTeam client command).final handler
  | .changeRoomOptions command => (handleChangeRoomOptions client command).final handler
  | .startRace lookups => (handleStartRace lookups client).final handler
  | .loadingComplete => (handleLoadingComplete client).final handler
  | .userRaceFinal command => (handleUserRaceFinal client command).final handler

/-- What happens to the race server. -/
inductive ServerInput where
  | connect (client : ClientId)
  | disconnect (client : ClientId) (first : Uid)
  | command (client : ClientId) (command : Command)
  /-- The race thread ticks the race of a room. -/
  | tick (roomUid : UInt32) (now : Instant)
  /-- The lobby creates a room for a character. -/
  | createRoom (details : Room.Details) (characterUid : Uid)
  | queuePlayer (roomUid : UInt32) (characterUid : Uid)
  | dequeuePlayer (roomUid : UInt32) (characterUid : Uid)
  /-- The lobby grants a code for a room. -/
  | grantCode (characterUid : Uid) (roomUid : UInt32) (now : Nat) (code : UInt32)
  /-- Anything else in the server runs. -/
  | outside (records : Records)

namespace NetworkHandler

variable (handler : NetworkHandler)

/-- `RoomSystem::CreateRoom`, and what the lobby puts into the room. -/
def createRoom (details : Room.Details) (characterUid : Uid) : NetworkHandler :=
  let roomUid := handler.sequencedId + 1
  let room := handler.rooms[roomUid]?.getD { uid := roomUid }
  let described := { room with details := { details with masterUid := room.details.masterUid } }
  { handler with sequencedId := roomUid }.setRoom roomUid (described.queuePlayer characterUid).2

/-- Change a room, if it exists. -/
def modifyRoom (roomUid : UInt32) (change : Room → Room) : NetworkHandler :=
  match handler.rooms[roomUid]? with
  | none => handler
  | some room => handler.setRoom roomUid (change room)

def grantCode (identityHash : IdentityHash) (characterUid : Uid) (roomUid : UInt32) (now : Nat)
    (code : UInt32) : NetworkHandler :=
  { handler with
    otpSystem := handler.otpSystem.grantCode (identityHash characterUid roomUid) now code }

end NetworkHandler

/-- The network delivers the commands of clients that are connected. -/
def serve (identityHash : IdentityHash) (handler : NetworkHandler) : ServerInput → NetworkHandler
  | .connect client =>
    { handleClientConnected client handler with connected := handler.connected.insert client }
  | .disconnect client first =>
    if client ∈ handler.connected then
      { (handleClientDisconnected first client).final handler with
        connected := handler.connected.erase client }
    else handler
  | .command client command =>
    if client ∈ handler.connected then handle identityHash handler client command else handler
  | .tick roomUid now => handler.play roomUid (tick now)
  | .createRoom details characterUid => handler.createRoom details characterUid
  | .queuePlayer roomUid characterUid =>
    handler.modifyRoom roomUid fun room => (room.queuePlayer characterUid).2
  | .dequeuePlayer roomUid characterUid =>
    handler.modifyRoom roomUid fun room => (room.dequeuePlayer characterUid).2
  | .grantCode characterUid roomUid now code =>
    handler.grantCode identityHash characterUid roomUid now code
  | .outside records => { handler with toRecords := records }

end Alicia.Race
