import Alicia.Data.Definitions

/-!
# The item registry

What the server knows about the items of a type identifier.  The registry is read from the
configuration, so a model of the code has it as a function from type identifiers to templates.
-/

namespace Alicia.Registry

open Data (Tid)

/-- The underlying value of an `Item::Type`. -/
structure ItemType where
  raw : UInt32
  deriving DecidableEq

namespace ItemType
def permanent : ItemType := ⟨0⟩
def temporary : ItemType := ⟨1⟩
def consumable : ItemType := ⟨2⟩
end ItemType

/-- The slots of a part, one bit for each. -/
abbrev Slot := UInt32

structure MountPartSetInfo where
  skinId : UInt32 := 0
  maneId : UInt32 := 0
  tailId : UInt32 := 0
  faceId : UInt32 := 0
  scale : UInt32 := 0
  legLength : UInt32 := 0
  legVolume : UInt32 := 0
  bodyLength : UInt32 := 0
  bodyVolume : UInt32 := 0
  emblemId : UInt32 := 0
  deriving DecidableEq

structure MountAbility where
  grade : UInt32 := 0
  agility : UInt32 := 0
  ambition : UInt32 := 0
  courage : UInt32 := 0
  endurance : UInt32 := 0
  rush : UInt32 := 0
  deriving DecidableEq

/-- `registry::Item`.  A part is one of the character or of the mount: the configuration is read so
that an item with the one has not the other. -/
structure ItemTemplate where
  tid : Tid
  type : ItemType := .permanent
  prerequisiteLevel : Option UInt8 := none
  characterPartSlot : Option Slot := none
  mountPartSlot : Option Slot := none
  mountPartSetInfo : Option MountPartSetInfo := none
  mountAbility : Option MountAbility := none
  exclusive : characterPartSlot = none ∨ mountPartSlot = none := by simp

/-- `ItemRegistry::GetItem`. -/
abbrev ItemRegistry := Tid → Option ItemTemplate

end Alicia.Registry
