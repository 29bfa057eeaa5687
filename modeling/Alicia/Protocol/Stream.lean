import Alicia.Network.Stream
import Alicia.Stream.Decoding
import Alicia.Text
import Mathlib.Data.List.TakeWhile

/-!
# Streams of the command protocol

`SinkStream::Write` and `SourceStream::Read` for the types that the definitions of the protocol are made of.
The conversion between UTF-8 and EUC-KR belongs to a library and is a parameter.
-/

namespace Alicia.Protocol

open Transition LittleEndian

/-- What a `Read` throws. -/
inductive ReadError
  | stream (error : StreamError)
  | locale
  deriving DecidableEq

abbrev Reader := Effect SourceStream ReadError

/-- What a `Write` puts in a sink that is large enough, or nothing when it throws. -/
abbrev Written := Option (List Byte)

/-- The bits of a `float`. -/
abbrev Float32Bits := UInt32

class Writable (α : Type) where
  put : α → Written

class Readable (α : Type) where
  take : Reader α

export Writable (put)

export Readable (take)

/-- A protocol stream as a source of bytes. -/
def source : Source SourceStream Byte where
  rest := SourceStream.rest
  advance := SourceStream.advance
  rest_advance := SourceStream.rest_advance
  advance_zero _ := rfl
  advance_advance := SourceStream.advance_advance

/-! ## Numbers -/

def writeNumber (width n : Nat) : Written := some (LittleEndian.toBytes width n)

def readNumber (width : Nat) : Reader Nat :=
  (LittleEndian.ofBytes <$> SourceStream.read width : Effect SourceStream StreamError Nat).adaptExcept
    .stream

instance : Writable UInt8 := ⟨fun n => writeNumber 1 n.toNat⟩

instance : Readable UInt8 := ⟨UInt8.ofNat <$> readNumber 1⟩

instance : Writable UInt16 := ⟨fun n => writeNumber 2 n.toNat⟩

instance : Readable UInt16 := ⟨UInt16.ofNat <$> readNumber 2⟩

instance : Writable UInt32 := ⟨fun n => writeNumber 4 n.toNat⟩

instance : Readable UInt32 := ⟨UInt32.ofNat <$> readNumber 4⟩

instance : Writable UInt64 := ⟨fun n => writeNumber 8 n.toNat⟩

instance : Readable UInt64 := ⟨UInt64.ofNat <$> readNumber 8⟩

instance : Writable Bool := ⟨fun b => writeNumber 1 b.toNat⟩

instance : Readable Bool := ⟨(fun n => n != 0) <$> readNumber 1⟩

theorem decodes_read {bytes : List Byte} (h : bytes ≠ []) :
    source.Decodes (SourceStream.read bytes.length) bytes bytes := by
  intro stream after hrest
  have hlength := congrArg List.length hrest
  rw [source, SourceStream.rest_length, List.length_append] at hlength
  have hpos := List.length_pos_iff.2 h
  rw [SourceStream.read_apply (by omega)]
  have htake : stream.rest.take bytes.length = bytes := by
    rw [show stream.rest = bytes ++ after from hrest, List.take_left]
  rw [htake]
  rfl

theorem roundTrips_number {width n : Nat} (hwidth : 0 < width) (h : n < 256 ^ width) :
    source.RoundTrips (writeNumber width n) (readNumber width) n where
  decodes bytes hbytes := by
    cases hbytes
    have hlength := toBytes_length width n
    have hne : toBytes width n ≠ [] := by
      rw [← List.length_pos_iff, hlength]
      exact hwidth
    have hread := ((decodes_read hne).map ofBytes).adaptExcept ReadError.stream
    rw [hlength, ofBytes_toBytes h] at hread
    exact hread

instance (n : UInt8) : source.RoundTrips (put n) take n := by
  have h := (@roundTrips_number 1 n.toNat (by decide) n.toNat_lt).map UInt8.ofNat
  rwa [UInt8.ofNat_toNat] at h

theorem decodes_byte (byte : UInt8) : source.Decodes (take : Reader UInt8) [byte] byte := by
  have h : put byte = some [byte] := congrArg (fun b => some [b]) UInt8.ofNat_toNat
  exact Source.RoundTrips.decodes [byte] h

instance (n : UInt16) : source.RoundTrips (put n) take n := by
  have h := (@roundTrips_number 2 n.toNat (by decide) n.toNat_lt).map UInt16.ofNat
  rwa [UInt16.ofNat_toNat] at h

instance (n : UInt32) : source.RoundTrips (put n) take n := by
  have h := (@roundTrips_number 4 n.toNat (by decide) n.toNat_lt).map UInt32.ofNat
  rwa [UInt32.ofNat_toNat] at h

instance (n : UInt64) : source.RoundTrips (put n) take n := by
  have h := (@roundTrips_number 8 n.toNat (by decide) n.toNat_lt).map UInt64.ofNat
  rwa [UInt64.ofNat_toNat] at h

instance (b : Bool) : source.RoundTrips (put b) take b := by
  have hlt : b.toNat < 256 ^ 1 := b.toNat_lt.trans (by decide)
  have h := (@roundTrips_number 1 b.toNat (by decide) hlt).map fun n => n != 0
  rwa [show (b.toNat != 0) = b by cases b <;> rfl] at h

/-! ## Texts -/

/-- The conversions of the library, which can fail. -/
class Locale where
  /-- From UTF-8 to EUC-KR. -/
  encode : Text → Option (List Byte)
  /-- From EUC-KR to UTF-8. -/
  decode : List Byte → Option Text

section Texts

variable [Locale]

/-- `FromUtf8`, which returns the output up to its first terminator. -/
def fromUtf8 (input : Text) : Option (List Byte) :=
  (Locale.encode input).map fun output => output.takeWhile fun byte => byte ≠ 0

/-- `ToUtf8`, which returns the output up to its first terminator. -/
def toUtf8 (input : List Byte) : Option Text :=
  (Locale.decode input).map fun output => output.takeWhile fun byte => byte ≠ 0

instance : Writable Text := ⟨fun value => do return (← fromUtf8 value) ++ [0]⟩

/-- The loop of `Read` for a string, for as many bytes as there can be. -/
def readBuffer : Nat → Reader (List Byte)
  | 0 => throw (.stream .overflow)
  | bytes + 1 => do
    let byte : UInt8 ← take
    if byte = 0 then return []
    return byte :: (← readBuffer bytes)

instance : Readable Text :=
  ⟨do
    let buffer ← readBuffer ((← get).rest.length + 1)
    Effect.ofOption .locale (toUtf8 buffer)⟩

/-- The conversion gives the text back. -/
def Survives (text : Text) : Prop := ∀ bytes, fromUtf8 text = some bytes → toUtf8 bytes = some text

omit [Locale] in
theorem decodes_readBuffer {buffer : List Byte} (h : ∀ byte ∈ buffer, byte ≠ 0) {bytes : Nat}
    (hbytes : buffer.length < bytes) : source.Decodes (readBuffer bytes) (buffer ++ [0]) buffer := by
  induction buffer generalizing bytes with
  | nil =>
    obtain ⟨bytes, rfl⟩ := Nat.exists_eq_succ_of_ne_zero (Nat.ne_of_gt hbytes)
    exact (decodes_byte 0).bind (.pure [])
  | cons byte buffer ih =>
    obtain ⟨bytes, rfl⟩ := Nat.exists_eq_succ_of_ne_zero (Nat.ne_of_gt (Nat.zero_lt_of_lt hbytes))
    obtain ⟨hbyte, hbuffer⟩ := List.forall_mem_cons.1 h
    refine (decodes_byte byte).bind ?_
    rw [if_neg hbyte]
    exact (ih hbuffer (Nat.lt_of_succ_lt_succ hbytes)).bind_pure (byte :: ·)

theorem fromUtf8_ne_zero {text : Text} {bytes : List Byte} (h : fromUtf8 text = some bytes) :
    ∀ byte ∈ bytes, byte ≠ 0 := by
  obtain ⟨output, _, rfl⟩ := Option.map_eq_some_iff.1 h
  intro byte hbyte
  have hdecided := List.mem_takeWhile_imp hbyte
  exact of_decide_eq_true hdecided

/-- A text that the conversion gives back is read back. -/
theorem roundTrips_text {text : Text} (h : Survives text) : source.RoundTrips (put text) take text where
  decodes bytes hbytes := by
    obtain ⟨buffer, hbuffer, hsame⟩ := Option.bind_eq_some_iff.1 hbytes
    cases hsame
    intro stream after hrest
    have hlength := congrArg List.length hrest
    rw [List.length_append, List.length_append] at hlength
    have hshort : buffer.length < stream.rest.length + 1 := by
      rw [show stream.rest.length = (source.rest stream).length from rfl, hlength]
      omega
    have hread := decodes_readBuffer (fromUtf8_ne_zero hbuffer) hshort stream after hrest
    refine (Effect.bind_ok hread _).trans ?_
    rw [h buffer hbuffer]
    rfl

end Texts

/-! ## Optional values -/

/-- A value that has to be there to be written. -/
theorem roundTrips_option {α : Type} (write : α → Written) (read : Reader α)
    [h : ∀ a, source.RoundTrips (write a) read a] (value : Option α) :
    source.RoundTrips (value.bind write) (some <$> read) value where
  decodes bytes hbytes := by
    obtain ⟨a, rfl, hwritten⟩ := Option.bind_eq_some_iff.1 hbytes
    exact ((h a).decodes bytes hwritten).map some

/-! ## Lists -/

/-- A list as its size in one byte and its elements. -/
def writeList {α : Type} (write : α → Written) (list : List α) : Written :=
  concat [put (UInt8.ofNat list.length), concat (list.map write)]

def readList {α : Type} (read : Reader α) : Reader (List α) := do
  let size : UInt8 ← take
  let list ← Source.many read size.toNat
  return list.1

theorem roundTrips_list {α : Type} {write : α → Written} {read : Reader α}
    (hread : ∀ a, source.RoundTrips (write a) read a) {list : List α} (h : list.length ≤ 255) :
    source.RoundTrips (writeList write list) (readList read) list := by
  have hsize : (UInt8.ofNat list.length).toNat = list.length :=
    UInt8.toNat_ofNat_of_lt (Nat.lt_succ_of_le h)
  have hlist : source.RoundTrips (concat (list.map write))
      (Source.many read (UInt8.ofNat list.length).toNat) ⟨list, hsize.symm⟩ :=
    Source.RoundTrips.many ⟨list, hsize.symm⟩
  unfold writeList readList
  infer_instance

end Alicia.Protocol
