import Mathlib.Data.BitVec
import Mathlib.Tactic.IntervalCases

/-!
# The message magic

The four bytes in front of a command: its id and its length, with the bits of the length rotated and
the id laid over them.
-/

namespace Alicia.Command

@[ext]
structure MessageMagic where
  id : UInt16 := 0
  length : UInt16 := 0
  deriving DecidableEq

def bufferSize : UInt16 := 4096

def decodeMessageMagic (value : UInt32) : MessageMagic where
  length :=
    if value &&& 0x8000 ≠ 0 then
      let sectionBits : UInt32 := value &&& 0x3FFF
      ((value &&& 0xFF) <<< (4 : UInt32) ||| ((sectionBits >>> (8 : UInt32)) &&& 0xF) |||
        (sectionBits &&& 0xF000)).toUInt16
    else 0
  id :=
    let firstTwoBytes := (value &&& 0xFFFF).toUInt16
    let secondTwoBytes := ((value >>> (16 : UInt32)) &&& 0xFFFF).toUInt16
    let xorResult := firstTwoBytes ^^^ secondTwoBytes
    ~~~(xorResult &&& 0xC000) &&& xorResult

/-- The low half of an encoded magic, which holds the length. -/
def encodeLength (length16 : UInt16) : UInt32 :=
  let length : UInt32 := (bufferSize.toUInt32 <<< (16 : UInt32)) ||| length16.toUInt32
  let encoded : UInt32 := ((length &&& 0x3FFF) ||| (length <<< (14 : UInt32))) &&& 0xFFFF
  ((((encoded &&& 0xF) ||| 0xFF80) <<< (8 : UInt32)) ||| ((length >>> (4 : UInt32)) &&& 0xFF) |||
    (encoded &&& 0xF000)) &&& 0xFFFF

def encodeMessageMagic (magic : MessageMagic) : UInt32 :=
  let encoded := encodeLength magic.length
  encoded ||| ((encoded ^^^ magic.id.toUInt32) <<< (16 : UInt32))

theorem getLsbD_of_lt {word : UInt16} (h : word < 0x4000) (i : Nat) (hi : 14 ≤ i) :
    word.toBitVec.getLsbD i = false := by
  have hlt : word.toNat < 2 ^ 14 := UInt16.lt_iff_toNat_lt.1 h
  exact Nat.testBit_lt_two_pow (hlt.trans_le (Nat.pow_le_pow_right (by decide) hi))

/-- The id is what the halves differ in. -/
theorem decode_encode_id {magic : MessageMagic} (hid : magic.id < 0x4000) :
    (decodeMessageMagic (encodeMessageMagic magic)).id = magic.id := by
  have hhigh := getLsbD_of_lt hid
  unfold decodeMessageMagic encodeMessageMagic encodeLength bufferSize
  rw [← UInt16.toBitVec_inj]
  apply BitVec.eq_of_getLsbD_eq
  intro i hi
  interval_cases i
  case «14» => simpa using hhigh 14 (by decide)
  case «15» => simpa using hhigh 15 (by decide)
  all_goals simp

theorem encode_lengthBit (magic : MessageMagic) : encodeMessageMagic magic &&& 0x8000 = 0x8000 := by
  unfold encodeMessageMagic encodeLength bufferSize
  rw [← UInt32.toBitVec_inj]
  apply BitVec.eq_of_getLsbD_eq
  intro i hi
  interval_cases i
  all_goals simp

theorem decode_encode_length {magic : MessageMagic} (hlength : magic.length < 0x4000) :
    (decodeMessageMagic (encodeMessageMagic magic)).length = magic.length := by
  have hhigh := getLsbD_of_lt hlength
  rw [decodeMessageMagic, encode_lengthBit]
  dsimp only
  rw [if_pos (by decide)]
  unfold encodeMessageMagic encodeLength bufferSize
  rw [← UInt16.toBitVec_inj]
  apply BitVec.eq_of_getLsbD_eq
  intro i hi
  interval_cases i
  case «14» => simpa using hhigh 14 (by decide)
  case «15» => simpa using hhigh 15 (by decide)
  all_goals simp

/-- An encoded magic is decoded again. -/
theorem decode_encode {magic : MessageMagic} (hid : magic.id < 0x4000)
    (hlength : magic.length < 0x4000) : decodeMessageMagic (encodeMessageMagic magic) = magic :=
  MessageMagic.ext (decode_encode_id hid) (decode_encode_length hlength)

example : encodeMessageMagic ⟨7, 29⟩ = 0xCD06CD01 := by decide

end Alicia.Command
