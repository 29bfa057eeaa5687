import Alicia.Collection.Maps
import Alicia.Otp
import Alicia.Race.Stages

/-!
# The network handler of the race server

The contexts of the clients, the rooms and their races, and what the handlers of the race commands look
up and change in them.  A race is played on a `World`, which shows it the room and the records that it
shares with the rest of the server.
-/

namespace Alicia.Race

open Std (ExtTreeMap ExtTreeSet)
open Data (Uid invalidUid Character Horse)
open Transition (Effect)

/-- `RaceNetworkHandler::ClientContext`, without the name of the user, which is only logged. -/
structure ClientContext where
  characterUid : Uid := invalidUid
  roomUid : UInt32 := invalidUid
  isAuthenticated : Bool := false
  deriving DecidableEq

/-- A race of a room. -/
structure RaceInstance where
  racers : ExtTreeMap Uid Racer := ∅
  bonusCourseType : BonusCourseType := .none
  stage : Stage := .waiting
  parameters : Parameters := {}
  mapBlockId : UInt32 := 0
  stageTimeout : Option Instant := none
  raceStart : Option Instant := none
  deriving DecidableEq

/-- What the rest of the server decides: the records that are available, the characters of the users
who are online, and what the registries say. -/
structure Records where
  characters : ExtTreeMap Uid Character := ∅
  horses : ExtTreeMap Uid Horse := ∅
  onlineCharacters : ExtTreeSet Uid := ∅
  carrotExpMultiplier : Option Int32 := none
  levelInfo : List CharacterLevelInfo := []
  mapBlocks : ExtTreeMap UInt32 MapBlockInfo := ∅

/-- `connected` are the clients of the network, from their connection until they are disconnected. -/
structure NetworkHandler extends Records where
  connected : ExtTreeSet ClientId := ∅
  clients : ExtTreeMap ClientId ClientContext := ∅
  otpSystem : OtpSystem := {}
  sequencedId : UInt32 := 0
  rooms : ExtTreeMap UInt32 Room := ∅
  raceInstances : ExtTreeMap UInt32 RaceInstance := ∅

abbrev Handling := Effect NetworkHandler String

/-! ## Lookups -/

namespace NetworkHandler

variable (handler : NetworkHandler)

def getClientContext (client : ClientId) (requireAuthorized : Bool) : Except String ClientContext :=
  match handler.clients[client]? with
  | none => .error "Race client is not available"
  | some context =>
    if requireAuthorized && !context.isAuthenticated then
      .error "Race client is not authenticated"
    else .ok context

/-- `GetCharacter(uid)` followed by an access. -/
def getCharacter (uid : Uid) : Except String Character :=
  match handler.characters[uid]? with
  | none => .error accessCharacter.unavailable
  | some character =>
    if uid = invalidUid then .error accessCharacter.unavailable else .ok character

/-- `GetHorse(uid)` followed by an access. -/
def getHorse (uid : Uid) : Except String Horse :=
  match handler.horses[uid]? with
  | none => .error accessHorse.unavailable
  | some horse => if uid = invalidUid then .error accessHorse.unavailable else .ok horse

/-- `LobbyDirector::GetUserByCharacterUid`, for its failure. -/
def getUser (characterUid : Uid) : Except String Unit :=
  if characterUid ∈ handler.onlineCharacters then .ok ()
  else .error s!"User instance for character {characterUid} not available"

def getRoom (roomUid : UInt32) : Except String Room :=
  match handler.rooms[roomUid]? with
  | none => .error "Room does not exist"
  | some room => .ok room

/-- `GetRaceInstance(clientContext, false)`. -/
def getRaceInstance (context : ClientContext) : Except String RaceInstance :=
  if context.roomUid = invalidUid then
    .error s!"Tried to get race instance for character '{context.characterUid}' but room uid is invalid"
  else
    match handler.raceInstances[context.roomUid]? with
    | none => .error <|
        s!"Tried to get race instance for character '{context.characterUid}' but room " ++
          s!"'{context.roomUid}' does not exist"
    | some race => .ok race

/-- `GetRaceInstance(clientContext)` and the racer of the client's character. -/
def getRacer (context : ClientContext) : Except String Racer :=
  match handler.getRaceInstance context with
  | .error failure => .error failure
  | .ok race =>
    match race.racers[context.characterUid]? with
    | none => .error <|
        s!"Tried to get race instance '{context.roomUid}' but character " ++
          s!"'{context.characterUid}' is not a racer"
    | some racer => .ok racer

end NetworkHandler

/-- The client is authenticated and plays the character. -/
def ClientContext.plays (context : ClientContext) (characterUid : Uid) : Bool :=
  context.characterUid = characterUid && context.isAuthenticated

namespace NetworkHandler

variable (handler : NetworkHandler)

/-- `FindClientIdByCharacterUid`; the map of the clients is unordered, and `first` comes first in it if
it plays the character. -/
def findClientId (first : ClientId) (characterUid : Uid) : Option ClientId :=
  if handler.clients[first]?.any fun context => context.plays characterUid then some first
  else
    (handler.clients.toList.find? fun entry => entry.2.plays characterUid).map Prod.fst

/-- `GetClientContextByCharacterUid`, for its failure. -/
def getClientOfCharacter (characterUid : Uid) : Except String Unit :=
  if handler.clients.toList.any fun entry => entry.2.plays characterUid then .ok ()
  else .error "Character not associated with any client"

/-! ## Changes -/

def setContext (client : ClientId) (context : ClientContext) : NetworkHandler :=
  { handler with clients := handler.clients.insert client context }

def setRoom (roomUid : UInt32) (room : Room) : NetworkHandler :=
  { handler with rooms := handler.rooms.insert roomUid room }

def setRace (roomUid : UInt32) (race : RaceInstance) : NetworkHandler :=
  { handler with raceInstances := handler.raceInstances.insert roomUid race }

/-- Change the race of a room, if there is one. -/
def modifyRace (roomUid : UInt32) (change : RaceInstance → RaceInstance) : NetworkHandler :=
  match handler.raceInstances[roomUid]? with
  | none => handler
  | some race => handler.setRace roomUid (change race)

/-- `RoomSystem::DeleteRoom`, and the race of the room. -/
def closeRoom (roomUid : UInt32) : NetworkHandler :=
  { handler with
    rooms := handler.rooms.erase roomUid
    raceInstances := handler.raceInstances.erase roomUid }

end NetworkHandler

/-- Change a racer, if the character is one. -/
def RaceInstance.modifyRacer (race : RaceInstance) (characterUid : Uid) (change : Racer → Racer) :
    RaceInstance :=
  match race.racers[characterUid]? with
  | none => race
  | some racer => { race with racers := race.racers.insert characterUid (change racer) }

def Racer.setState (racer : Racer) (state : RacerState) : Racer := { racer with state := state }

/-! ## The world of a race -/

namespace NetworkHandler

variable (handler : NetworkHandler) (roomUid : UInt32)

/-- What the race of a room sees. -/
def world (race : RaceInstance) : World where
  racers := race.racers
  bonusCourseType := race.bonusCourseType
  characters := handler.characters
  horses := handler.horses
  room := handler.rooms[roomUid]?
  onlineCharacters := handler.onlineCharacters
  carrotExpMultiplier := handler.carrotExpMultiplier
  levelInfo := handler.levelInfo
  mapBlock := handler.mapBlocks[race.mapBlockId]?
  stage := race.stage
  parameters := race.parameters
  stageTimeout := race.stageTimeout
  raceStart := race.raceStart

/-- What the race of a room left. -/
def setWorld (race : RaceInstance) (world : World) : NetworkHandler where
  toRecords := { handler.toRecords with characters := world.characters }
  connected := handler.connected
  clients := handler.clients
  otpSystem := handler.otpSystem
  sequencedId := handler.sequencedId
  rooms := match world.room with
    | none => handler.rooms
    | some room => handler.rooms.insert roomUid room
  raceInstances := handler.raceInstances.insert roomUid { race with
    racers := world.racers
    stage := world.stage
    parameters := world.parameters
    stageTimeout := world.stageTimeout
    raceStart := world.raceStart }

variable {handler roomUid} in
theorem rooms_setWorld_none {race : RaceInstance} {world : World} (h : world.room = none) :
    (handler.setWorld roomUid race world).rooms = handler.rooms := by
  unfold setWorld
  rw [h]

variable {handler roomUid} in
theorem rooms_setWorld_some {race : RaceInstance} {world : World} {room : Room}
    (h : world.room = some room) :
    (handler.setWorld roomUid race world).rooms = handler.rooms.insert roomUid room := by
  unfold setWorld
  rw [h]

/-- Run a part of the race of a room, if there is one. -/
def play (part : World → World) : NetworkHandler :=
  match handler.raceInstances[roomUid]? with
  | none => handler
  | some race => handler.setWorld roomUid race (part (handler.world roomUid race))

end NetworkHandler

end Alicia.Race
