import Alicia.Magic.Messages

/-!
# The races of a room

A room keeps its race and the tracker of it from one race to the next: `Clear` empties what it names, and the
rest stays.  The racers of a race are added when it starts, and those who were there before get the OIDs
that they had.
-/

namespace Alicia.Magic

open Std (ExtTreeMap)
open Transition Data
open Race (TeamColor Instant)

/-! ## Commands -/

/-- A command about magic, or what happens without one. -/
inductive MagicCommand where
  | requestMagicItem (client : ClientId) (characterOid : UInt16) (roll : Roll)
  | userRaceItemGet (client : ClientId) (command : UserRaceItemGet) (lookups : PickupLookups)
  | useMagicItem (client : ClientId) (command : UseMagicItem)
  | activateSkillEffect (client : ClientId) (command : ActivateSkillEffect)
  | gaugeTick
  | itemStrip (uid : Uid)

def MagicCommand.handle (registry : Registry) (around : Surroundings) : MagicCommand → Handling Unit
  | requestMagicItem client characterOid roll => handleRequestMagicItem registry around client characterOid roll
  | userRaceItemGet client command lookups => handleUserRaceItemGet registry around client command lookups
  | useMagicItem client command => handleUseMagicItem registry around client command
  | activateSkillEffect client command => handleActivateSkillEffect registry around client command
  | gaugeTick => tickMagicGauge registry around
  | itemStrip uid => stripHeldMagicItem around uid

/-- A command and what it meets. -/
structure MagicInput where
  around : Surroundings
  command : MagicCommand

def MagicInput.handle (registry : Registry) (input : MagicInput) : Handling Unit :=
  input.command.handle registry input.around

def magicStep (registry : Registry) (race : RaceInstance) (input : MagicInput) : RaceInstance :=
  (input.handle registry).final race

/-! ## The tracker -/

/-- `RaceTracker::TeamInfo`. -/
structure TeamInfo where
  points : UInt32 := 0
  boostCount : UInt32 := 0
  gaugeLocked : Bool := false
  deriving DecidableEq

/-- A race, and what the tracker keeps beside it. -/
structure RaceTracker where
  race : RaceInstance := {}
  characterOids : ExtTreeMap Uid UInt16 := ∅
  nextCharacterOid : UInt16 := 1
  events : ExtTreeMap UInt32 Instant := ∅
  firstPassItemSpawn : Bool := true
  blueTeam : TeamInfo := {}
  redTeam : TeamInfo := {}

abbrev Tracking := Effect RaceTracker Failure

def RaceTracker.setRace (tracker : RaceTracker) (race : RaceInstance) : RaceTracker := { tracker with race := race }

/-- The race after `Clear`.  The history is that of the next race. -/
def RaceInstance.clear (race : RaceInstance) : RaceInstance :=
  { race with
    racers := ∅
    itemDecks := ∅
    nextItemDeckOid := 1
    offered := []
    created := []
    gifts := [] }

/-- `RaceTracker::Clear`. -/
def RaceTracker.clear (tracker : RaceTracker) : RaceTracker :=
  { tracker with
    race := tracker.race.clear
    events := ∅
    firstPassItemSpawn := true }

/-- The OID of the character, or the next one. -/
def RaceTracker.oidOf (tracker : RaceTracker) (characterUid : Uid) : UInt16 :=
  tracker.characterOids[characterUid]?.getD tracker.nextCharacterOid

/-- `_characterOids.try_emplace`. -/
def RaceTracker.assignOid (tracker : RaceTracker) (characterUid : Uid) : RaceTracker :=
  match tracker.characterOids[characterUid]? with
  | some _ => tracker
  | none =>
    { tracker with
      characterOids := tracker.characterOids.insert characterUid tracker.nextCharacterOid
      nextCharacterOid := tracker.nextCharacterOid + 1 }

/-- `AddRacer`, and what `HandleStartRace` makes of the racer. -/
def addRacer (characterUid : Uid) (team : TeamColor) : Tracking Unit := do
  let tracker ← get
  if characterUid ∈ tracker.race.racers then throw (.thrown "Character is already a racer")
  else
    modify (·.assignOid characterUid)
    modify fun tracker => tracker.setRace { tracker.race with
      racers := tracker.race.racers.insert characterUid
        { oid := tracker.oidOf characterUid, state := .loading, team := team } }

/-- `AddItemDeck`, with what the deck is to hold. -/
def addItemDeck (deck : ItemDeck) : Handling Unit := do
  let race ← get
  if race.nextItemDeckOid ∈ race.itemDecks then throw (.thrown "Item is already added to the race map")
  else
    modify fun race =>
      { race with
        itemDecks := race.itemDecks.insert race.nextItemDeckOid deck
        nextItemDeckOid := race.nextItemDeckOid + 1 }

/-! ## Starting a race -/

/-- What `HandleStartRace` meets, once the room can start: its players, what `Start` finds for the mode and
the map, and the decks of the map, up to one that cannot be prepared. -/
structure StartLookups where
  players : List (Uid × TeamColor) := []
  gameMode : UInt8 := 2
  mapBlockId : UInt32 := 0
  starPointsMax : UInt32 := 0
  decks : List ItemDeck := []
  prepared : Bool := true

/-- `RaceInstance::Start`, for the tracker; what it throws, it catches. -/
def prepareRace (lookups : StartLookups) : Handling Unit := do
  modify fun race =>
    { race with
      gameMode := lookups.gameMode
      mapBlockId := lookups.mapBlockId
      starPointsMax := lookups.starPointsMax }
  lookups.decks.forM addItemDeck
  if lookups.prepared then return ()
  else throw (.thrown "Exception while preparing items")

/-- `HandleStartRace`, once the room can start. -/
def startRace (lookups : StartLookups) (tracker : RaceTracker) : RaceTracker :=
  match prepareRace lookups tracker.clear.race with
  | .error _ race => tracker.clear.setRace race
  | .ok _ race =>
    (lookups.players.forM fun player => addRacer player.1 player.2).final (tracker.clear.setRace race)

end Alicia.Magic
