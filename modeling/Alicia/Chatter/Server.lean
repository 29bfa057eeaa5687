import Alicia.Network.Stream
import Alicia.Stream.Framing
import Alicia.Transition.Run

/-!
# The chatter server

What the server does with the bytes of one connection.  A read is given to `OnClientData` together
with what was left of the reads before it; the commands in it are taken off one after another, and
each is given to the handler that is registered for it.
-/

namespace Alicia.Chatter

open Transition Effect SourceStream

/-! ## Commands -/

/-- `XorCode`, at an index modulo its size. -/
def xorCode (idx : Nat) : Byte :=
  match idx % 4 with
  | 0 => 0x2B
  | 1 => 0xFE
  | 2 => 0xB8
  | _ => 0x02

/-- The two halves of `XorCode`, read as numbers. -/
def lengthCode : UInt16 := UInt16.ofNat (LittleEndian.ofBytes [xorCode 0, xorCode 1])

def commandCode : UInt16 := UInt16.ofNat (LittleEndian.ofBytes [xorCode 2, xorCode 3])

structure ChatterCommandHeader where
  length : UInt16
  commandId : UInt16

/-- The size of a `ChatterCommandHeader`. -/
def headerSize : Nat := 4

/-- A command id and the bytes of its payload. -/
structure Command where
  commandId : UInt16
  data : List Byte
  deriving DecidableEq

/-- What ends the processing of the data: an exception of the server, or a failed assertion. -/
inductive Failure
  | exception
  | abort
  deriving DecidableEq

/-- The header, decrypted. -/
def readHeader : Effect SourceStream StreamError ChatterCommandHeader := do
  let length ← SourceStream.readUInt16
  let commandId ← SourceStream.readUInt16
  return ⟨length ^^^ lengthCode, commandId ^^^ commandCode⟩

/-- The loop over the command data. -/
def readCommandData : Nat → Nat → Effect SourceStream StreamError (List Byte)
  | 0, _ => pure []
  | remaining + 1, idx => do
    let val ← SourceStream.readByte
    let rest ← readCommandData remaining (idx + 1)
    return (val ^^^ xorCode idx) :: rest

/-- One iteration of `OnClientData`, up to the search for a handler; `none` is a `break`. -/
def readCommand : Effect SourceStream Failure (Option Command) := do
  let commandStream ← get
  let bufferedDataSize := commandStream.size - commandStream.cursor
  if bufferedDataSize < headerSize then return none
  let streamOrigin := commandStream.cursor
  let header ← readHeader.adaptExcept fun _ => .exception
  if header.length.toNat < headerSize ∨ header.length.toNat > 4092 then throw .exception
  if bufferedDataSize < header.length.toNat then
    -- The deferred call moves the cursor back to the command.
    (SourceStream.seek streamOrigin).adaptExcept fun _ => .exception
    return none
  let commandDataLength := header.length.toNat - headerSize
  let commandData ← (readCommandData commandDataLength 0).adaptExcept fun _ => .exception
  return some ⟨header.commandId, commandData⟩

/-! ## Handlers -/

/-- What a handler works on: the running flag of the client, the rest of the server, and the
command data. -/
structure Scope (σ : Type) where
  shouldRun : Bool
  world : σ
  commandData : SourceStream

/-- `RawChatterCommandHandler`, for one client.  A handler may throw an exception. -/
abbrev Handler (σ : Type) := Effect (Scope σ) Unit Unit

/-- The client and the server as the handlers leave them.  `calls` are the commands which handlers
were called with. -/
structure Session (σ : Type) where
  shouldRun : Bool := true
  world : σ
  calls : List Command := []
  deriving DecidableEq

variable {σ : Type}

/-- What a handler leaves, whether it returns or throws. -/
def handled (handler : Handler σ) (session : Session σ) (command : Command) : Scope σ :=
  handler.final ⟨session.shouldRun, session.world, { storage := command.data }⟩

/-- The call of the handler for a command; an exception is caught.  `assertions` tells whether the
assertion that all command data was read is compiled in. -/
def dispatch (assertions : Bool) (handlers : UInt16 → Option (Handler σ)) (command : Command) :
    Effect (Session σ) Failure Unit := fun session =>
  match handlers command.commandId with
  | none => .ok ⟨⟩ session
  | some handler =>
    let scope := handled handler session command
    let after : Session σ := ⟨scope.shouldRun, scope.world, session.calls ++ [command]⟩
    if assertions = true ∧ scope.commandData.cursor ≠ scope.commandData.size then .error .abort after
    else .ok ⟨⟩ after

/-! ## The cutting of the data -/

/-- The header at the front of some bytes. -/
def headerOf (bytes : List Byte) : ChatterCommandHeader where
  length := UInt16.ofNat (LittleEndian.ofBytes (bytes.take 2)) ^^^ lengthCode
  commandId := UInt16.ofNat (LittleEndian.ofBytes ((bytes.drop 2).take 2)) ^^^ commandCode

/-- The length which the header announces. -/
def announcedLength (bytes : List Byte) : Nat := (headerOf bytes).length.toNat

/-- Bytes with the code applied, from an index on. -/
def scramble : Nat → List Byte → List Byte
  | _, [] => []
  | idx, b :: bytes => (b ^^^ xorCode idx) :: scramble (idx + 1) bytes

/-- What the bytes at the cursor are. -/
def front (bytes : List Byte) : Front Command :=
  if bytes.length < headerSize then .unfinished
  else if announcedLength bytes < headerSize ∨ announcedLength bytes > 4092 then .corrupt
  else if bytes.length < announcedLength bytes then .unfinished
  else
    .frame
      ⟨(headerOf bytes).commandId,
        scramble 0 ((bytes.drop headerSize).take (announcedLength bytes - headerSize))⟩
      (announcedLength bytes)

@[simp] theorem scramble_length (idx : Nat) (bytes : List Byte) :
    (scramble idx bytes).length = bytes.length := by
  induction bytes generalizing idx with
  | nil => rfl
  | cons b bytes ih => exact congrArg (· + 1) (ih (idx + 1))

/-- The code undoes itself. -/
@[simp] theorem scramble_scramble (idx : Nat) (bytes : List Byte) :
    scramble idx (scramble idx bytes) = bytes := by
  induction bytes generalizing idx with
  | nil => rfl
  | cons b bytes ih =>
    rw [scramble, scramble, ih, UInt8.xor_assoc, UInt8.xor_self, UInt8.xor_zero]

theorem headerOf_append {bytes : List Byte} (h : headerSize ≤ bytes.length) (t : List Byte) :
    headerOf (bytes ++ t) = headerOf bytes := by
  have hlength : 4 ≤ bytes.length := h
  rw [headerOf, headerOf, List.take_append_of_le_length (by omega),
    List.drop_append_of_le_length (by omega),
    List.take_append_of_le_length (by rw [List.length_drop]; omega)]

theorem announcedLength_append {bytes : List Byte} (h : headerSize ≤ bytes.length) (t : List Byte) :
    announcedLength (bytes ++ t) = announcedLength bytes := by
  rw [announcedLength, announcedLength, headerOf_append h]

/-- A whole command is at the front. -/
theorem front_eq_frame {bytes : List Byte} {command : Command} {n : Nat} :
    front bytes = .frame command n ↔
      headerSize ≤ announcedLength bytes ∧ announcedLength bytes ≤ 4092 ∧
        announcedLength bytes ≤ bytes.length ∧ n = announcedLength bytes ∧
        command = ⟨(headerOf bytes).commandId,
          scramble 0 ((bytes.drop headerSize).take (announcedLength bytes - headerSize))⟩ := by
  rw [front]
  constructor
  · intro h
    split at h
    · cases h
    · split at h
      · cases h
      · split at h
        · cases h
        · cases h
          refine ⟨?_, ?_, ?_, rfl, rfl⟩
          all_goals omega
  · rintro ⟨hmin, hmax, hwhole, rfl, rfl⟩
    rw [if_neg (by omega), if_neg (by omega), if_neg (by omega)]

theorem front_eq_corrupt {bytes : List Byte} :
    front bytes = .corrupt ↔
      headerSize ≤ bytes.length ∧ (announcedLength bytes < headerSize ∨ announcedLength bytes > 4092) := by
  rw [front]
  constructor
  · intro h
    split at h
    · cases h
    · split at h
      · next hheader hbad => exact ⟨Nat.not_lt.1 hheader, hbad⟩
      · split at h
        · cases h
        · cases h
  · rintro ⟨hheader, hbad⟩
    rw [if_neg (Nat.not_lt.2 hheader), if_pos hbad]

/-- The way in which the server cuts the bytes of a client. -/
def framing : Framing Byte Command where
  front := front
  bounds h := by
    obtain ⟨hmin, -, hwhole, rfl, -⟩ := front_eq_frame.1 h
    exact ⟨Nat.lt_of_lt_of_le (by decide) hmin, hwhole⟩
  frame_append t h := by
    obtain ⟨hmin, hmax, hwhole, hn, hcommand⟩ := front_eq_frame.1 h
    have hheader := Nat.le_trans hmin hwhole
    rw [front_eq_frame, announcedLength_append hheader, headerOf_append hheader, List.length_append,
      List.drop_append_of_le_length hheader,
      List.take_append_of_le_length (by rw [List.length_drop]; omega)]
    exact ⟨hmin, hmax, by omega, hn, hcommand⟩
  corrupt_append t h := by
    obtain ⟨hheader, hbad⟩ := front_eq_corrupt.1 h
    rw [front_eq_corrupt, announcedLength_append hheader, List.length_append]
    exact ⟨by omega, hbad⟩

/-! ## The loop over the commands -/

theorem readHeader_apply {stream : SourceStream} (h : stream.cursor + headerSize ≤ stream.size) :
    readHeader stream = .ok (headerOf stream.rest) (stream.advance headerSize) := by
  have hsize : stream.cursor + 4 ≤ stream.size := h
  have hfirst := @readUInt16_apply stream (by omega)
  have hsecond := @readUInt16_apply (stream.advance 2) (by
    rw [cursor_advance, size_advance]
    omega)
  rw [readHeader, bind_ok hfirst, bind_ok hsecond, rest_advance,
    advance_advance]
  rfl

theorem readCommandData_apply {stream : SourceStream} {remaining : Nat} (idx : Nat)
    (h : stream.cursor + remaining ≤ stream.size) :
    readCommandData remaining idx stream =
      .ok (scramble idx (stream.rest.take remaining)) (stream.advance remaining) := by
  induction remaining generalizing stream idx with
  | zero => rfl
  | succ remaining ih =>
    obtain ⟨b, bytes, hrest⟩ : ∃ b bytes, stream.rest = b :: bytes := by
      apply List.exists_cons_of_length_pos
      rw [rest_length]
      omega
    have htail := @ih (stream.advance 1) (idx + 1) (by
      rw [cursor_advance, size_advance]
      omega)
    rw [rest_advance, advance_advance, hrest, Nat.add_comm 1] at htail
    rw [readCommandData, bind_ok (readByte_apply (by omega) hrest),
      bind_ok htail, hrest]
    rfl

/-- What one iteration does is told by the bytes behind the cursor. -/
theorem readCommand_apply {stream : SourceStream} (h : stream.cursor ≤ stream.size) :
    readCommand stream = match front stream.rest with
      | .unfinished => .ok none stream
      | .corrupt => .error .exception (stream.advance headerSize)
      | .frame command n => .ok (some command) (stream.advance n) := by
  rw [readCommand, bind_apply, get_apply, front, rest_length]
  dsimp only
  by_cases hheader : stream.size - stream.cursor < headerSize
  · rw [if_pos hheader, if_pos hheader]
    rfl
  · have hread := adaptExcept_ok (@readHeader_apply stream (by omega)) fun _ =>
      Failure.exception
    have hlength : (headerOf stream.rest).length.toNat = announcedLength stream.rest := rfl
    rw [if_neg hheader, if_neg hheader, bind_ok hread, hlength]
    by_cases hbad : announcedLength stream.rest < headerSize ∨ announcedLength stream.rest > 4092
    · rw [if_pos hbad, if_pos hbad]
      rfl
    · rw [if_neg hbad, if_neg hbad]
      by_cases hpart : stream.size - stream.cursor < announcedLength stream.rest
      · have hseek : seek stream.cursor (stream.advance headerSize) = .ok ⟨⟩ stream :=
          seek_apply h
        rw [if_pos hpart, if_pos hpart, bind_ok (adaptExcept_ok hseek _)]
        rfl
      · have hcursor : headerSize + (announcedLength stream.rest - headerSize) =
            announcedLength stream.rest := by omega
        have hdata := @readCommandData_apply (stream.advance headerSize) _ 0 (by
          rw [cursor_advance, size_advance, Nat.add_assoc, hcursor]
          omega)
        rw [rest_advance, advance_advance, hcursor] at hdata
        rw [if_neg hpart, if_neg hpart, bind_ok (adaptExcept_ok hdata _)]
        rfl

end Alicia.Chatter
