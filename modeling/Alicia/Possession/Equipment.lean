import Alicia.Data.Director
import Alicia.Registry.Items
import Alicia.Transition.Run

/-!
# Equipment

`WearEquipment` and `RemoveEquipment` move uids between the lists of a character.  Both take the uid
from the command.  Where the code uses a list of records that it did not get, nothing is known about
what it does next, and a handler replies `undefined` here.
-/

namespace Alicia.Possession

open Transition Data Registry
open DataDirector (characterStorage itemStorage horseStorage)

inductive Reply where
  | ok
  | cancel
  | undefined
  deriving DecidableEq

/-- Which records are available when a handler accesses them. -/
structure EquipmentLookups where
  character : Bool := true
  item : Bool := true
  equipment : Uid → Bool := fun _ => true
  characterAgain : Bool := true
  equipmentAgain : Uid → Bool := fun _ => true
  mount : Bool := true

/-- Swap the mount for a horse from the horse list. -/
def mountHorse (horseUid : Uid) (character : Character) : Character :=
  if character.mountUid = horseUid then character
  else
    { character with
      horses := (character.horses ++ [character.mountUid]).erase horseUid
      mountUid := horseUid }

/-- Two parts occupy a common slot. -/
def slotsMeet : Option Slot → Option Slot → Bool
  | some first, some second => first &&& second ≠ 0
  | _, _ => false

/-- An item that is equipped has to make room for the one that is being equipped.  Only parts of its
kind are compared. -/
def isReplaced (equipped : ItemTemplate) (equipment : Option ItemTemplate) : Bool :=
  if equipped.characterPartSlot.isSome then
    slotsMeet (equipment.bind ItemTemplate.characterPartSlot) equipped.characterPartSlot
  else
    slotsMeet (equipment.bind ItemTemplate.mountPartSlot) equipped.mountPartSlot

/-- The uids in the records of the items that are replaced. -/
def equipmentToReplace (registry : ItemRegistry) (equipped : ItemTemplate) (equipment : List Item) :
    List Uid :=
  (equipment.filter fun item => isReplaced equipped (registry item.tid)).map Item.uid

/-- Move an item from the inventory to the equipment, and replaced ones back. -/
def equip (itemUid : Uid) (replaced : List Uid) (character : Character) : Character :=
  { character with
    characterEquipment := (character.characterEquipment.filter (· ∉ replaced)) ++ [itemUid]
    inventory := (character.inventory.filter (· ≠ itemUid)) ++ replaced }

/-- Whether the item is equipped or not, it ends up in the inventory. -/
def unequip (itemUid : Uid) (character : Character) : Character :=
  { character with
    characterEquipment :=
      if itemUid ∈ character.characterEquipment then
        character.characterEquipment.filter (· ≠ itemUid)
      else character.characterEquipment
    inventory := character.inventory ++ [itemUid] }

/-- The notify of `BroadcastEquipmentUpdate` takes the records of the equipment and of the mount. -/
def broadcastEquipmentUpdate (lookups : EquipmentLookups) (caller : Uid) :
    Effect DataDirector String Reply := do
  let character ← characterStorage.immutable lookups.characterAgain caller
  let data ← get
  if (itemStorage.cachedAll lookups.equipmentAgain data character.characterEquipment).isNone then
    return .undefined
  if (horseStorage.cached lookups.mount character.mountUid data).isNone then
    return .undefined
  return .ok

/-- Equip an item of a known kind.  The records of the equipment are used without a check. -/
def wearPart (registry : ItemRegistry) (lookups : EquipmentLookups) (caller equipmentUid : Uid)
    (template : ItemTemplate) (character : Character) : Effect DataDirector String Reply := do
  match itemStorage.cachedAll lookups.equipment (← get) character.characterEquipment with
  | none => return .undefined
  | some equipment =>
    characterStorage.mutable true caller
      (equip equipmentUid (equipmentToReplace registry template equipment))
    broadcastEquipmentUpdate lookups caller

/-- Equip an item of the inventory. -/
def wearItem (registry : ItemRegistry) (lookups : EquipmentLookups) (caller equipmentUid : Uid)
    (character : Character) : Effect DataDirector String Reply := do
  let item ← itemStorage.immutable lookups.item equipmentUid
  match registry item.tid with
  | none => throw "Tried equipping item which is not recognized by the server"
  | some template =>
    if template.characterPartSlot.isNone && template.mountPartSlot.isNone then
      throw "Tried equipping item which is not a valid character or mount equipment"
    wearPart registry lookups caller equipmentUid template character

def handleWearEquipment (registry : ItemRegistry) (lookups : EquipmentLookups)
    (caller equipmentUid : Uid) : Effect DataDirector String Reply := do
  let character ← characterStorage.immutable lookups.character caller
  if equipmentUid ∈ character.horses then
    characterStorage.mutable true caller (mountHorse equipmentUid)
    broadcastEquipmentUpdate lookups caller
  else if equipmentUid ∈ character.inventory then
    wearItem registry lookups caller equipmentUid character
  else
    return .cancel

def handleRemoveEquipment (lookups : EquipmentLookups) (caller itemUid : Uid) :
    Effect DataDirector String Reply := do
  characterStorage.mutable lookups.character caller (unequip itemUid)
  broadcastEquipmentUpdate lookups caller

/-- A command about a uid, which may be any. -/
inductive EquipmentCommand where
  | wear (uid : Uid)
  | remove (uid : Uid)
  deriving DecidableEq

/-- A command of the character `caller`. -/
structure EquipmentInput where
  caller : Uid
  command : EquipmentCommand
  lookups : EquipmentLookups := {}

def handleEquipment (registry : ItemRegistry) (input : EquipmentInput) :
    Effect DataDirector String Reply :=
  match input.command with
  | .wear uid => handleWearEquipment registry input.lookups input.caller uid
  | .remove uid => handleRemoveEquipment input.lookups input.caller uid

def equipmentStep (registry : ItemRegistry) (data : DataDirector) (input : EquipmentInput) :
    DataDirector :=
  (handleEquipment registry input).final data

end Alicia.Possession
