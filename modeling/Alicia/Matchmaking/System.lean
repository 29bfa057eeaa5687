import Alicia.Race.Instance
import Alicia.Room

/-!
# The matchmaking system

A character is queued for a quick game with the modes that it wants, and a search for a room is scheduled.  A
search reads the entry of the character, tries to find a room for it, erases the entry and notifies the character,
or is scheduled again.  It holds the lock only while it reads and while it erases, so an entry can be removed and
replaced in between.  A character who is queued again has another search, beside the one before.
-/

namespace Alicia

open Std (ExtTreeMap)
open Data (Uid invalidUid)

/-! ## Rooms -/

/-- `Room::Snapshot`. -/
structure Room.Snapshot where
  uid : UInt32
  details : Room.Details
  playerCount : Nat
  isPlaying : Bool
  deriving DecidableEq

/-- `GetRoomSnapshot`. -/
def Room.getRoomSnapshot (room : Room) : Room.Snapshot where
  uid := room.uid
  details := room.details
  playerCount := room.players.size
  isPlaying := room.isPlaying

namespace Matchmaking

open Race (Instant)

/-! ## Entries -/

/-- `MatchmakingSystem::Entry`.  `ticket` is a history variable: the call of `Queue` that has made the entry. -/
structure Entry where
  queuedAt : Instant
  gameMode : UInt8
  teamMode : UInt8
  ticket : Nat
  deriving DecidableEq

def resolveRoomGameMode : UInt8 → Option Room.GameMode
  | 1 => some .speed
  | 2 => some .magic
  | 6 => some .tutorial
  | _ => none

def resolveRoomTeamMode : UInt8 → Option Room.TeamMode
  | 1 => some .ffa
  | 2 => some .team
  | 3 => some .single
  | _ => none

/-- The filters of `Matchmake`: rooms that are locked, playing, of other modes or without a place are ignored. -/
def isCandidate (entry : Entry) (room : Room.Snapshot) : Bool :=
  room.details.password = [] && !room.isPlaying &&
    (some room.details.gameMode = resolveRoomGameMode entry.gameMode &&
      some room.details.teamMode = resolveRoomTeamMode entry.teamMode) &&
    room.playerCount < room.details.maxPlayerCount.toNat

/-- The room that is selected so far, and its players. -/
def select (entry : Entry) (selected : Uid × Nat) (room : Room.Snapshot) : Uid × Nat :=
  if isCandidate entry room && (selected.1 = invalidUid || selected.2 < room.playerCount) then
    (room.uid, room.playerCount)
  else selected

/-- `Matchmake`. -/
def matchmake (entry : Entry) (rooms : List Room.Snapshot) : Option Uid :=
  let selected := rooms.foldl (select entry) (invalidUid, 0)
  if selected.1 = invalidUid then none else some selected.1

/-! ## Searches -/

/-- `MatchmakingSystem::Result::Verdict`. -/
inductive Verdict where
  | noRoom
  | makeRoom
  | foundRoom
  deriving DecidableEq

/-- `MatchmakingSystem::Result`. -/
structure Result where
  verdict : Verdict
  roomUid : Uid := invalidUid
  deriving DecidableEq

/-- A result, with its history: the entry that was erased for it, when that was, and the rooms that were there
when the search took its snapshot. -/
structure Answer where
  result : Result
  entry : Entry
  time : Instant
  rooms : List Room := []
  deriving DecidableEq

/-- What a search does next: wait, compare the time with that of the entry, erase the entry for want of time,
look for a room, erase the entry for a room, or notify the character. -/
inductive Stage where
  | scheduled (due : Instant)
  | read (entry : Entry)
  | expired (entry : Entry)
  | searching (entry : Entry)
  | found (entry : Entry) (rooms : List Room) (roomUid : Uid)
  | erased (answer : Answer)
  deriving DecidableEq

/-- A job of `Search`, with what it captures. -/
structure Search where
  characterUid : Uid
  gameMode : UInt8
  teamMode : UInt8
  stage : Stage
  deriving DecidableEq

/-- `MatchmakingIntervalMs`. -/
def matchmakingInterval : Nat := 1000000000

/-- `MatchmakingQueueTimeoutMs`. -/
def matchmakingQueueTimeout : Nat := 30000000000

/-- The system, and the time.  The tickets that were given out, those of the entries that were dequeued, and
the answers that were delivered are history. -/
structure MatchmakingSystem where
  matchmakingQueue : ExtTreeMap Uid Entry := ∅
  searches : List Search := []
  now : Instant := 0
  tickets : Nat := 0
  dequeued : List Nat := []
  delivered : List Answer := []

namespace MatchmakingSystem

/-- `Search`. -/
def search (characterUid : Uid) (gameMode teamMode : UInt8) (system : MatchmakingSystem) : MatchmakingSystem :=
  { system with
    searches := system.searches ++
      [⟨characterUid, gameMode, teamMode, .scheduled (system.now + matchmakingInterval)⟩] }

/-- `Queue`. -/
def queue (characterUid : Uid) (gameMode teamMode : UInt8) (system : MatchmakingSystem) :
    Bool × MatchmakingSystem :=
  if characterUid ∈ system.matchmakingQueue then (false, system)
  else
    let system :=
      { system with
        matchmakingQueue := system.matchmakingQueue.insert characterUid
          ⟨system.now, gameMode, teamMode, system.tickets⟩
        tickets := system.tickets + 1 }
    (true, system.search characterUid gameMode teamMode)

/-- `Dequeue`. -/
def dequeue (characterUid : Uid) (system : MatchmakingSystem) : Bool × MatchmakingSystem :=
  match system.matchmakingQueue[characterUid]? with
  | none => (false, system)
  | some entry =>
    (true, { system with
      matchmakingQueue := system.matchmakingQueue.erase characterUid
      dequeued := system.dequeued ++ [entry.ticket] })

/-- The search goes on with another stage. -/
def goOn (index : Nat) (search : Search) (stage : Stage) (system : MatchmakingSystem) : MatchmakingSystem :=
  { system with searches := system.searches.set index { search with stage := stage } }

/-- The search ends. -/
def finish (index : Nat) (system : MatchmakingSystem) : MatchmakingSystem :=
  { system with searches := system.searches.eraseIdx index }

/-- The entry of the character is erased for a result, if there is one. -/
def eraseFor (index : Nat) (search : Search) (result : Result) (rooms : List Room) (system : MatchmakingSystem) :
    MatchmakingSystem :=
  match system.matchmakingQueue[search.characterUid]? with
  | none => system.finish index
  | some erased =>
    { system with matchmakingQueue := system.matchmakingQueue.erase search.characterUid }.goOn index search
      (.erased ⟨result, erased, system.now, rooms⟩)

/-- The next step of a search.  A step of `Matchmake` meets `rooms`, and the character may have left before it is
notified. -/
def advance (index : Nat) (rooms : List Room) (isOnline : Bool) (system : MatchmakingSystem) : MatchmakingSystem :=
  match system.searches[index]? with
  | none => system
  | some search =>
    match search.stage with
    | .scheduled due =>
      if system.now < due then system
      else
        match system.matchmakingQueue[search.characterUid]? with
        | none => system.finish index
        | some entry => system.goOn index search (.read entry)
    | .read entry =>
      if matchmakingQueueTimeout ≤ system.now - entry.queuedAt then system.goOn index search (.expired entry)
      else system.goOn index search (.searching entry)
    | .expired _ => system.eraseFor index search { verdict := .noRoom } []
    | .searching entry =>
      match matchmake entry (rooms.map Room.getRoomSnapshot) with
      | none =>
        (system.finish index).search search.characterUid search.gameMode search.teamMode
      | some roomUid => system.goOn index search (.found entry rooms roomUid)
    | .found _ rooms roomUid =>
      system.eraseFor index search { verdict := .foundRoom, roomUid := roomUid } rooms
    | .erased answer =>
      let system := system.finish index
      if isOnline then { system with delivered := system.delivered ++ [answer] } else system

end MatchmakingSystem

/-! ## Runs -/

/-- A call of the lobby, a step of a search, or the time. -/
inductive Input where
  | queue (characterUid : Uid) (gameMode teamMode : UInt8)
  | dequeue (characterUid : Uid)
  | advance (index : Nat) (rooms : List Room) (isOnline : Bool)
  | elapse (duration : Nat)

def step (system : MatchmakingSystem) : Input → MatchmakingSystem
  | .queue characterUid gameMode teamMode => (system.queue characterUid gameMode teamMode).2
  | .dequeue characterUid => (system.dequeue characterUid).2
  | .advance index rooms isOnline => system.advance index rooms isOnline
  | .elapse duration => { system with now := system.now + duration }

end Matchmaking

end Alicia
