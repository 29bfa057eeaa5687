import Alicia.Protocol.Stream

/-!
# Snapshots of a ranch

A snapshot has room for a full and for a partial update.  Its `Read` fills the one that its type names
and leaves the other as it was constructed.
-/

namespace Alicia.Protocol

open Transition Effect

namespace AcCmdCRRanchSnapshot

inductive SnapshotType where
  | full
  | part
  deriving DecidableEq

/-- An array of bytes as it is constructed. -/
def zeroBytes (count : Nat) : { bytes : List UInt8 // bytes.length = count } :=
  ⟨List.replicate count 0, List.length_replicate⟩

structure FullSpatial where
  ranchIndex : UInt16 := 0
  time : UInt32 := 0
  action : UInt64 := 0
  timer : UInt16 := 0
  member4 : { bytes : List UInt8 // bytes.length = 12 } := zeroBytes 12
  matrix : { bytes : List UInt8 // bytes.length = 16 } := zeroBytes 16
  velocityX : Float32Bits := 0
  velocityY : Float32Bits := 0
  velocityZ : Float32Bits := 0
  deriving DecidableEq

def FullSpatial.read : Reader FullSpatial := do
  return {
    ranchIndex := ← take
    time := ← take
    action := ← take
    timer := ← take
    member4 := ← Source.many take 12
    matrix := ← Source.many take 16
    velocityX := ← take
    velocityY := ← take
    velocityZ := ← take }

structure PartialSpatial where
  ranchIndex : UInt16 := 0
  time : UInt32 := 0
  action : UInt64 := 0
  timer : UInt16 := 0
  member4 : { bytes : List UInt8 // bytes.length = 12 } := zeroBytes 12
  matrix : { bytes : List UInt8 // bytes.length = 16 } := zeroBytes 16
  deriving DecidableEq

def PartialSpatial.read : Reader PartialSpatial := do
  return {
    ranchIndex := ← take
    time := ← take
    action := ← take
    timer := ← take
    member4 := ← Source.many take 12
    matrix := ← Source.many take 16 }

/-- What the `Read` of a snapshot throws. -/
inductive SnapshotError where
  | read (error : ReadError)
  | notImplemented (type : UInt8)
  deriving DecidableEq

end AcCmdCRRanchSnapshot

open AcCmdCRRanchSnapshot

structure AcCmdCRRanchSnapshot where
  type : SnapshotType := .full
  full : FullSpatial := {}
  part : PartialSpatial := {}
  deriving DecidableEq

namespace AcCmdCRRanchSnapshot

def read : Effect SourceStream SnapshotError AcCmdCRRanchSnapshot := do
  let type ← (take : Reader UInt8).adaptExcept .read
  if type = 0 then
    let full ← FullSpatial.read.adaptExcept .read
    return { type := .full, full := full }
  else if type = 1 then
    let part ← PartialSpatial.read.adaptExcept .read
    return { type := .part, part := part }
  else throw (.notImplemented type)

/-- The update that the type does not name is as it was constructed. -/
def IsRead (command : AcCmdCRRanchSnapshot) : Prop :=
  match command.type with
  | .full => command.part = {}
  | .part => command.full = {}

instance (command : AcCmdCRRanchSnapshot) : Decidable command.IsRead :=
  match h : command.type with
  | .full => decidable_of_iff (command.part = {}) (by rw [IsRead, h])
  | .part => decidable_of_iff (command.full = {}) (by rw [IsRead, h])

theorem returns_read : Returns IsRead read := by
  refine .bind _ fun type => ?_
  split
  · exact .bind _ fun full => .pure rfl
  split
  · exact .bind _ fun part => .pure rfl
  · exact .throw _

/-- The entity index of the update that the type names. -/
def entityIndex (command : AcCmdCRRanchSnapshot) : UInt16 :=
  match command.type with
  | .full => command.full.ranchIndex
  | .part => command.part.ranchIndex

/-- A snapshot that was read. -/
abbrev Received := { command : AcCmdCRRanchSnapshot // command.IsRead }

end AcCmdCRRanchSnapshot

/-- `ranchIndex` is the entity of the sender, and the update has an index of its own. -/
structure RanchCommandRanchSnapshotNotify where
  ranchIndex : UInt16 := 0
  type : SnapshotType := .full
  full : FullSpatial := {}
  part : PartialSpatial := {}
  deriving DecidableEq

end Alicia.Protocol
