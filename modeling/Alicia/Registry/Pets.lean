import Alicia.Data.Definitions

/-!
# The pet registry

The eggs with the time that they take to hatch and the pets that may hatch from them, by their items.
-/

namespace Alicia.Registry

open Data (Tid)

/-- An egg, with what an incubator needs. -/
structure EggInfo where
  tid : Tid := 0
  /-- In nanoseconds. -/
  hatchDuration : Int64 := 0
  hatchablePets : List Tid := []

structure PetInfo where
  petId : UInt32 := 0

structure PetRegistry where
  eggs : Tid → Option EggInfo := fun _ => none
  pets : Tid → Option PetInfo := fun _ => none

namespace PetRegistry

variable (registry : PetRegistry)

def getEggInfo (tid : Tid) : Except String EggInfo :=
  match registry.eggs tid with
  | some info => .ok info
  | none => .error "Egg with given TID not found."

def getPetInfo (tid : Tid) : Except String PetInfo :=
  match registry.pets tid with
  | some info => .ok info
  | none => .error "Pet with given TID not found"

end PetRegistry

end Alicia.Registry
