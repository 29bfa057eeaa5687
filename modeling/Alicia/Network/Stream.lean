import Mathlib.Algebra.Order.Ring.Int
import Alicia.Transition.Effect

/-!
# Byte streams

`SourceStream` reads from a buffer at a cursor; a read that does not fit throws and leaves the cursor
where it was.  Numbers are read as the bytes of a little-endian machine.
-/

namespace Alicia

open Transition Effect

abbrev Byte := UInt8

/-! ## Little-endian numbers -/

namespace LittleEndian

/-- The number that some bytes hold. -/
def ofBytes : List Byte → Nat
  | [] => 0
  | b :: bytes => b.toNat + 256 * ofBytes bytes

/-- The lowest bytes of a number. -/
def toBytes : Nat → Nat → List Byte
  | 0, _ => []
  | width + 1, n => UInt8.ofNat n :: toBytes width (n / 256)

@[simp] theorem toBytes_length (width n : Nat) : (toBytes width n).length = width := by
  induction width generalizing n with
  | zero => rfl
  | succ width ih => exact congrArg (· + 1) (ih (n / 256))

theorem ofBytes_toBytes {width n : Nat} (h : n < 256 ^ width) : ofBytes (toBytes width n) = n := by
  induction width generalizing n with
  | zero => exact (Nat.lt_one_iff.1 h).symm
  | succ width ih =>
    have hdiv : n / 256 < 256 ^ width := by
      apply Nat.div_lt_of_lt_mul
      rw [Nat.mul_comm, ← Nat.pow_succ]
      exact h
    rw [toBytes, ofBytes, ih hdiv, UInt8.toNat_ofNat']
    omega

theorem ofBytes_lt (bytes : List Byte) : ofBytes bytes < 256 ^ bytes.length := by
  induction bytes with
  | nil => exact Nat.one_pos
  | cons byte bytes ih =>
    have hbyte := byte.toNat_lt
    rw [ofBytes, List.length_cons, Nat.pow_succ]
    omega

theorem toBytes_ofBytes (bytes : List Byte) :
    toBytes bytes.length (ofBytes bytes) = bytes := by
  induction bytes with
  | nil => rfl
  | cons byte bytes ih =>
    have hbyte := byte.toNat_lt
    have hlow : UInt8.ofNat (byte.toNat + 256 * ofBytes bytes) = byte := by
      rw [← UInt8.toNat_inj, UInt8.toNat_ofNat']
      omega
    have hhigh : (byte.toNat + 256 * ofBytes bytes) / 256 = ofBytes bytes := by
      omega
    rw [ofBytes, List.length_cons, toBytes, hlow, hhigh, ih]

end LittleEndian

/-! ## Reading -/

/-- A `std::overflow_error` of a stream. -/
inductive StreamError
  | overflow
  deriving DecidableEq

structure SourceStream where
  storage : List Byte
  cursor : Nat := 0
  deriving DecidableEq

namespace SourceStream

def size (stream : SourceStream) : Nat := stream.storage.length

/-- The bytes behind the cursor. -/
def rest (stream : SourceStream) : List Byte := stream.storage.drop stream.cursor

/-- The stream with the cursor moved on. -/
def advance (stream : SourceStream) (n : Nat) : SourceStream :=
  { stream with cursor := stream.cursor + n }

/-- `Seek`. -/
def seek (cursor : Nat) : Effect SourceStream StreamError Unit := do
  if cursor > (← get).size then throw .overflow
  modify fun stream => { stream with cursor := cursor }

/-- `Read` of some bytes. -/
def read (size : Nat) : Effect SourceStream StreamError (List Byte) := do
  let stream ← get
  if stream.cursor + size > stream.size then throw .overflow
  set (stream.advance size)
  return stream.rest.take size

def readByte : Effect SourceStream StreamError Byte :=
  (fun bytes => UInt8.ofNat (LittleEndian.ofBytes bytes)) <$> read 1

def readUInt16 : Effect SourceStream StreamError UInt16 :=
  (fun bytes => UInt16.ofNat (LittleEndian.ofBytes bytes)) <$> read 2

def readUInt32 : Effect SourceStream StreamError UInt32 :=
  (fun bytes => UInt32.ofNat (LittleEndian.ofBytes bytes)) <$> read 4

variable (stream : SourceStream)

@[simp] theorem rest_length :
    stream.rest.length = stream.size - stream.cursor := by
  rw [rest, List.length_drop, size]

@[simp] theorem size_advance (n : Nat) : (stream.advance n).size = stream.size := rfl

@[simp] theorem cursor_advance (n : Nat) :
    (stream.advance n).cursor = stream.cursor + n := rfl

@[simp] theorem rest_advance (n : Nat) :
    (stream.advance n).rest = stream.rest.drop n :=
  (List.drop_drop ..).symm

@[simp] theorem advance_advance (m n : Nat) :
    (stream.advance m).advance n = stream.advance (m + n) := by
  simp only [advance, Nat.add_assoc]

theorem seek_apply {stream : SourceStream} {cursor : Nat} (h : cursor ≤ stream.size) :
    seek cursor stream = .ok ⟨⟩ { stream with cursor := cursor } := by
  rw [seek, bind_apply, get_apply]
  dsimp only
  rw [if_neg (by omega)]
  rfl

theorem read_apply {stream : SourceStream} {size : Nat} (h : stream.cursor + size ≤ stream.size) :
    read size stream = .ok (stream.rest.take size) (stream.advance size) := by
  rw [read, bind_apply, get_apply]
  dsimp only
  rw [if_neg (by omega)]
  rfl

theorem readByte_apply {stream : SourceStream} {b : Byte} {bytes : List Byte}
    (h : stream.cursor + 1 ≤ stream.size) (hrest : stream.rest = b :: bytes) :
    readByte stream = .ok b (stream.advance 1) := by
  rw [readByte, map_apply, read_apply h, hrest]
  simp [LittleEndian.ofBytes]

theorem readUInt16_apply {stream : SourceStream} (h : stream.cursor + 2 ≤ stream.size) :
    readUInt16 stream = .ok (UInt16.ofNat (LittleEndian.ofBytes (stream.rest.take 2)))
      (stream.advance 2) := by
  rw [readUInt16, map_apply, read_apply h]

theorem readUInt32_apply {stream : SourceStream} (h : stream.cursor + 4 ≤ stream.size) :
    readUInt32 stream = .ok (UInt32.ofNat (LittleEndian.ofBytes (stream.rest.take 4)))
      (stream.advance 4) := by
  rw [readUInt32, map_apply, read_apply h]

end SourceStream

end Alicia
