import Alicia.Data.Definitions

/-!
# Rooms

A room holds the players that wait for a race or take part in one, the characters that are queued
to join, and the details which its master chooses.
-/

namespace Alicia

open Std (ExtTreeMap ExtTreeSet)
open Data (Uid invalidUid)

/-- A network client identifier. -/
abbrev ClientId := Nat

namespace Room

inductive TeamMode where
  | ffa
  | team
  | single
  deriving DecidableEq

inductive GameMode where
  | unset
  | speed
  | magic
  | guild
  | tutorial
  deriving DecidableEq

inductive Team where
  | solo
  | red
  | blue
  deriving DecidableEq

structure Player where
  clientId : ClientId
  isReady : Bool := false
  team : Team := .solo
  deriving DecidableEq

structure Details where
  name : Text := []
  password : Text := []
  missionId : UInt16 := 0
  courseId : UInt16 := 0
  maxPlayerCount : UInt32 := 0
  gameMode : GameMode := .unset
  teamMode : TeamMode := .ffa
  npcDifficulty : UInt8 := 0
  skillBracket : UInt8 := 0
  masterUid : Uid := invalidUid
  deriving DecidableEq

inductive PreventStartReason where
  | none
  | notAllPlayersReady
  | teamImbalance
  deriving DecidableEq

end Room

structure Room where
  uid : UInt32
  details : Room.Details := {}
  queuedPlayers : ExtTreeSet Uid := ∅
  players : ExtTreeMap Uid Room.Player := ∅
  isPlaying : Bool := false
  deriving DecidableEq

namespace Room

def isRoomFull (room : Room) : Bool :=
  room.players.size + room.queuedPlayers.size ≥ room.details.maxPlayerCount.toNat

/-- Returns `false`, and changes nothing, when the room is full. -/
def queuePlayer (room : Room) (characterUid : Uid) : Bool × Room :=
  if room.isRoomFull then (false, room)
  else (true, { room with queuedPlayers := room.queuedPlayers.insert characterUid })

/-- Returns whether the character was queued. -/
def dequeuePlayer (room : Room) (characterUid : Uid) : Bool × Room :=
  (room.queuedPlayers.contains characterUid,
    { room with queuedPlayers := room.queuedPlayers.erase characterUid })

def teamCount (room : Room) (team : Team) : Nat :=
  (room.players.toList.filter fun entry => entry.2.team = team).length

/-- The team of the next player: the smaller team, or the one that `coin` picks. -/
def nextTeam (room : Room) (coin : Bool) : Team :=
  if room.details.teamMode ≠ .team then .solo
  else if room.teamCount .red > room.teamCount .blue then .blue
  else if room.teamCount .blue > room.teamCount .red then .red
  else if coin then .red
  else .blue

/-- Returns `false` when the room is full, and throws when the character is in it already.  The
character leaves the queue in either of the other cases. -/
def addPlayer (room : Room) (clientId : ClientId) (characterUid : Uid) (coin : Bool) :
    Except String Bool × Room :=
  if room.players.size ≥ room.details.maxPlayerCount.toNat then (.ok false, room)
  else
    let dequeued := { room with queuedPlayers := room.queuedPlayers.erase characterUid }
    if characterUid ∈ room.players then (.error "Player already exists", dequeued)
    else
      (.ok true, { dequeued with
        players := room.players.insert characterUid
          { clientId := clientId, team := room.nextTeam coin } })

/-- The room has a place for the character, which is not in it. -/
def Accepts (room : Room) (characterUid : Uid) : Prop :=
  room.players.size < room.details.maxPlayerCount.toNat ∧ characterUid ∉ room.players

instance (room : Room) (characterUid : Uid) : Decidable (room.Accepts characterUid) :=
  inferInstanceAs (Decidable (_ ∧ _))

section AddPlayer

variable {room : Room} {characterUid : Uid}

theorem addPlayer_of_accepts (h : room.Accepts characterUid) (clientId : ClientId) (coin : Bool) :
    room.addPlayer clientId characterUid coin = (.ok true, { room with
      queuedPlayers := room.queuedPlayers.erase characterUid
      players := room.players.insert characterUid
        { clientId := clientId, team := room.nextTeam coin } }) := by
  rw [addPlayer, if_neg (Nat.not_le.2 h.1)]
  exact if_neg h.2

/-- A character that is not accepted leaves the queue at most. -/
theorem addPlayer_of_not_accepts (h : ¬room.Accepts characterUid) (clientId : ClientId)
    (coin : Bool) :
    (room.addPlayer clientId characterUid coin).1 ≠ .ok true ∧
      (room.addPlayer clientId characterUid coin).2.players = room.players ∧
      (room.addPlayer clientId characterUid coin).2.details = room.details := by
  rw [addPlayer]
  by_cases hfull : room.players.size ≥ room.details.maxPlayerCount.toNat
  · rw [if_pos hfull]
    refine ⟨?_, rfl, rfl⟩
    intro hok
    cases hok
  · have hmember : characterUid ∈ room.players := by
      by_contra hnone
      exact h ⟨Nat.not_le.1 hfull, hnone⟩
    rw [if_neg hfull]
    dsimp only
    rw [if_pos hmember]
    refine ⟨?_, rfl, rfl⟩
    intro hok
    cases hok

end AddPlayer

def removePlayer (room : Room) (characterUid : Uid) : Room :=
  { room with players := room.players.erase characterUid }

def hasPlayer (room : Room) (characterUid : Uid) : Bool :=
  room.players.contains characterUid

def getPlayerCount (room : Room) : Nat :=
  room.players.size

/-- `GetPlayer(characterUid).SetReady(ready)`, for a player of the room. -/
def setReady (room : Room) (characterUid : Uid) (ready : Bool) : Room :=
  { room with
    players := room.players.modify characterUid fun player => { player with isReady := ready } }

/-- `GetPlayer(characterUid)` with a change to the player, which throws for a character that is not in
the room. -/
def modifyPlayer (room : Room) (characterUid : Uid) (change : Player → Player) : Except String Room :=
  match room.players[characterUid]? with
  | none => .error "Room player does not exist"
  | some player => .ok { room with players := room.players.insert characterUid (change player) }

/-- The player that comes first in the unordered map of the players: `first`, if it is in the room. -/
def frontPlayer (room : Room) (first : Uid) : Option Uid :=
  if first ∈ room.players then some first else room.players.minKey?

def Player.toggleReady (player : Player) : Player := { player with isReady := !player.isReady }

def setRoomPlaying (room : Room) (isPlaying : Bool) : Room :=
  { room with isPlaying := isPlaying }

def setMaster (room : Room) (masterUid : Uid) : Room :=
  { room with details := { room.details with masterUid := masterUid } }

/-- Every player but the master has to be ready, and teams have to be of one size. -/
def canRoomStart (room : Room) : PreventStartReason :=
  if room.players.toList.any fun entry =>
      entry.1 != room.details.masterUid && !entry.2.isReady then
    .notAllPlayersReady
  else if room.details.teamMode = .team ∧ room.teamCount .red ≠ room.teamCount .blue then
    .teamImbalance
  else
    .none

end Room

end Alicia
