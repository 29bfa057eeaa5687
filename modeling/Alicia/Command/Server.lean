import Alicia.Command.Magic
import Alicia.Network.Stream
import Alicia.Stream.Serving
import Alicia.Transition.Run

/-!
# The command server

What a command server does with the bytes of one connection.  A read is given to `OnClientData`
together with what was left of the reads before it; the commands in it are taken off one after another,
their data is decrypted with the rolling code of the client, and each is given to the handler that is
registered for it.
-/

namespace Alicia.Command

open Transition Effect SourceStream

/-! ## Commands -/

def maxCommandDataSize : Nat := 8192

def maxCommandSize : Nat := maxCommandDataSize + 4

/-- `Command::Count`. -/
def commandCount : UInt16 := 0x10a4

def xorControl : UInt32 := 0xA20191CB

def xorMultiplier : UInt32 := 0x20080825

/-- `RollCode`; the code is a number of the machine's 32 bits. -/
def rollCode (rollingCode : UInt32) : UInt32 := xorControl - rollingCode * xorMultiplier

/-- A byte of the code, at an index modulo its size. -/
def codeByte (key : UInt32) (idx : Nat) : Byte :=
  match idx % 4 with
  | 0 => key.toUInt8
  | 1 => (key >>> (8 : UInt32)).toUInt8
  | 2 => (key >>> (16 : UInt32)).toUInt8
  | _ => (key >>> (24 : UInt32)).toUInt8

/-- `XorAlgorithm`, from an index on. -/
def xorAlgorithm (key : UInt32) : Nat → List Byte → List Byte
  | _, [] => []
  | idx, b :: bytes => (b ^^^ codeByte key idx) :: xorAlgorithm key (idx + 1) bytes

/-- The size of the padding behind the data of a command. -/
def paddingSize (code : UInt32) : Nat := (code &&& 7).toNat

/-- A command as it arrives, with its data encrypted. -/
structure RawCommand where
  id : UInt16
  data : List Byte
  deriving DecidableEq

/-- What ends the processing of the data: an exception of the server, or a failed assertion. -/
inductive Failure
  | exception
  | abort
  deriving DecidableEq

/-- One iteration of `OnClientData`, up to the decryption of the data; `none` is a `break`. -/
def readCommand : Effect SourceStream Failure (Option RawCommand) := do
  let commandStream ← get
  let bufferedDataSize := commandStream.size - commandStream.cursor
  if bufferedDataSize < 4 then return none
  let streamOrigin := commandStream.cursor
  let magicValue ← SourceStream.readUInt32.adaptExcept fun _ => .exception
  let magic := decodeMessageMagic magicValue
  if magic.id > commandCount then throw .exception
  if magic.length.toNat < 4 ∨ magic.length.toNat > maxCommandSize then throw .exception
  let commandDataSize := magic.length.toNat - 4
  if commandDataSize > bufferedDataSize - 4 then
    -- The deferred call moves the cursor back to the command.
    (SourceStream.seek streamOrigin).adaptExcept fun _ => .exception
    return none
  let commandData ← (SourceStream.read commandDataSize).adaptExcept fun _ => .exception
  return some ⟨magic.id, commandData⟩

/-! ## Handlers -/

/-- What a handler works on: the running flag and the code of the client, the rest of the server, and
the command data. -/
structure Scope (σ : Type) where
  shouldRun : Bool
  rollingCode : UInt32
  world : σ
  commandData : SourceStream

/-- `RawCommandHandler`, for one client.  A handler may throw an exception. -/
abbrev Handler (σ : Type) := Effect (Scope σ) Unit Unit

/-- The call of a handler; `running` tells whether the client had not been ended. -/
structure Call where
  id : UInt16
  payload : List Byte
  running : Bool := true
  deriving DecidableEq

/-- The client and the server as the handlers leave them, and the calls of handlers. -/
structure Session (σ : Type) where
  shouldRun : Bool := true
  rollingCode : UInt32 := 0
  world : σ
  calls : List Call := []
  deriving DecidableEq

variable {σ : Type}

/-- What a handler leaves, whether it returns or throws. -/
def handled (handler : Handler σ) (session : Session σ) (payload : List Byte) : Scope σ :=
  handler.final ⟨session.shouldRun, session.rollingCode, session.world, { storage := payload }⟩

/-- The session behind the call of a handler. -/
def Session.called (session : Session σ) (id : UInt16) (payload : List Byte) (scope : Scope σ) :
    Session σ :=
  ⟨scope.shouldRun, scope.rollingCode, scope.world, session.calls ++ [⟨id, payload, session.shouldRun⟩]⟩

/-- The call of the handler for a command; an exception is caught.  `assertions` tells whether the
assertion that all command data was read is compiled in. -/
def callHandler (assertions : Bool) (handlers : UInt16 → Option (Handler σ)) (id : UInt16)
    (payload : List Byte) : Effect (Session σ) Failure Unit := fun session =>
  match handlers id with
  | none => .ok ⟨⟩ session
  | some handler =>
    let scope := handled handler session payload
    if assertions = true ∧ scope.commandData.cursor ≠ scope.commandData.size then
      .error .abort (session.called id payload scope)
    else .ok ⟨⟩ (session.called id payload scope)

/-- Decrypt the data of a command and cut off the padding. -/
def readPayload (command : RawCommand) : Effect (Session σ) Failure (List Byte) :=
  if command.data.length > 0 then do
    modify fun session => { session with rollingCode := rollCode session.rollingCode }
    let code := (← get).rollingCode
    if paddingSize code ≥ command.data.length then throw .exception
    else
      return (xorAlgorithm code 0 command.data).take (command.data.length - paddingSize code)
  else return []

/-- The rest of an iteration of `OnClientData`. -/
def dispatch (assertions : Bool) (handlers : UInt16 → Option (Handler σ)) (command : RawCommand) :
    Effect (Session σ) Failure Unit := do
  let payload ← readPayload command
  callHandler assertions handlers command.id payload

/-! ## The cutting of the data -/

/-- The magic at the front of some bytes. -/
def magicOf (bytes : List Byte) : MessageMagic :=
  decodeMessageMagic (UInt32.ofNat (LittleEndian.ofBytes (bytes.take 4)))

/-- What the bytes at the cursor are. -/
def front (bytes : List Byte) : Front RawCommand :=
  if bytes.length < 4 then .unfinished
  else if (magicOf bytes).id > commandCount then .corrupt
  else if (magicOf bytes).length.toNat < 4 ∨ (magicOf bytes).length.toNat > maxCommandSize then .corrupt
  else if (magicOf bytes).length.toNat - 4 > bytes.length - 4 then .unfinished
  else
    .frame ⟨(magicOf bytes).id, (bytes.drop 4).take ((magicOf bytes).length.toNat - 4)⟩
      (magicOf bytes).length.toNat

theorem magicOf_append {bytes : List Byte} (h : 4 ≤ bytes.length) (t : List Byte) :
    magicOf (bytes ++ t) = magicOf bytes := by
  rw [magicOf, magicOf, List.take_append_of_le_length h]

/-- A whole command is at the front. -/
theorem front_eq_frame {bytes : List Byte} {command : RawCommand} {n : Nat} :
    front bytes = .frame command n ↔
      4 ≤ bytes.length ∧ (magicOf bytes).id ≤ commandCount ∧ 4 ≤ n ∧ n ≤ maxCommandSize ∧
        n ≤ bytes.length ∧ (magicOf bytes).length.toNat = n ∧
        command = ⟨(magicOf bytes).id, (bytes.drop 4).take (n - 4)⟩ := by
  rw [front]
  constructor
  · intro h
    split at h
    · cases h
    · next hheader =>
        split at h
        · cases h
        · next hid =>
            split at h
            · cases h
            · next hlength =>
                split at h
                · cases h
                · cases h
                  refine ⟨Nat.not_lt.1 hheader, UInt16.not_lt.1 hid, ?_, ?_, ?_, rfl, rfl⟩
                  all_goals omega
  · rintro ⟨hheader, hid, hmin, hmax, hwhole, rfl, rfl⟩
    rw [if_neg (Nat.not_lt.2 hheader), if_neg (UInt16.not_lt.2 hid), if_neg (by omega),
      if_neg (by omega)]

theorem front_eq_corrupt {bytes : List Byte} :
    front bytes = .corrupt ↔ 4 ≤ bytes.length ∧ ((magicOf bytes).id > commandCount ∨
      (magicOf bytes).length.toNat < 4 ∨ (magicOf bytes).length.toNat > maxCommandSize) := by
  rw [front]
  constructor
  · intro h
    split at h
    · cases h
    · next hheader =>
        refine ⟨Nat.not_lt.1 hheader, ?_⟩
        split at h
        · next hid => exact .inl hid
        · split at h
          · next hlength => exact .inr hlength
          · split at h
            · cases h
            · cases h
  · rintro ⟨hheader, hbad⟩
    rw [if_neg (Nat.not_lt.2 hheader)]
    split
    · rfl
    · next hid => rw [if_pos (hbad.resolve_left hid)]

/-- The way in which the server cuts the bytes of a client. -/
def framing : Framing Byte RawCommand where
  front := front
  bounds h := by
    obtain ⟨-, -, hmin, -, hwhole, -⟩ := front_eq_frame.1 h
    exact ⟨Nat.lt_of_lt_of_le (by decide) hmin, hwhole⟩
  frame_append t h := by
    obtain ⟨hheader, hid, hmin, hmax, hwhole, hn, hcommand⟩ := front_eq_frame.1 h
    rw [front_eq_frame, magicOf_append hheader, List.length_append,
      List.drop_append_of_le_length hheader,
      List.take_append_of_le_length (by rw [List.length_drop]; omega)]
    exact ⟨by omega, hid, hmin, hmax, by omega, hn, hcommand⟩
  corrupt_append t h := by
    obtain ⟨hheader, hbad⟩ := front_eq_corrupt.1 h
    rw [front_eq_corrupt, magicOf_append hheader, List.length_append]
    exact ⟨by omega, hbad⟩

/-! ## The loop over the commands -/

/-- What one iteration finds is told by the bytes behind the cursor. -/
theorem readCommand_apply {stream : SourceStream} (h : stream.cursor ≤ stream.size) :
    readCommand stream = match front stream.rest with
      | .unfinished => .ok none stream
      | .corrupt => .error .exception (stream.advance 4)
      | .frame command n => .ok (some command) (stream.advance n) := by
  rw [readCommand, bind_apply, get_apply, front, rest_length]
  dsimp only
  by_cases hheader : stream.size - stream.cursor < 4
  · rw [if_pos hheader, if_pos hheader]
    rfl
  · have hread := adaptExcept_ok (@readUInt32_apply stream (by omega)) fun _ =>
      Failure.exception
    have hmagic : decodeMessageMagic (UInt32.ofNat (LittleEndian.ofBytes (stream.rest.take 4))) =
        magicOf stream.rest := rfl
    rw [if_neg hheader, if_neg hheader, bind_ok hread, hmagic]
    by_cases hid : (magicOf stream.rest).id > commandCount
    · rw [if_pos hid, if_pos hid]
      rfl
    · rw [if_neg hid, if_neg hid]
      by_cases hlength : (magicOf stream.rest).length.toNat < 4 ∨
          (magicOf stream.rest).length.toNat > maxCommandSize
      · rw [if_pos hlength, if_pos hlength]
        rfl
      · rw [if_neg hlength, if_neg hlength]
        by_cases hpart : (magicOf stream.rest).length.toNat - 4 > stream.size - stream.cursor - 4
        · have hseek : seek stream.cursor (stream.advance 4) = .ok ⟨⟩ stream :=
            seek_apply h
          rw [if_pos hpart, if_pos hpart, bind_ok (adaptExcept_ok hseek _)]
          rfl
        · have hdata := adaptExcept_ok (@read_apply (stream.advance 4)
            ((magicOf stream.rest).length.toNat - 4) (by
              rw [cursor_advance, size_advance]
              omega)) fun _ => Failure.exception
          have hcursor : 4 + ((magicOf stream.rest).length.toNat - 4) =
              (magicOf stream.rest).length.toNat := by omega
          rw [advance_advance, rest_advance, hcursor] at hdata
          rw [if_neg hpart, if_neg hpart, bind_ok hdata]
          rfl

/-- An iteration that finds a command moves the cursor on. -/
theorem readCommand_advances {stream next : SourceStream} {command : RawCommand}
    (h : readCommand stream = .ok (some command) next) :
    next.size - next.cursor < stream.size - stream.cursor := by
  rcases Nat.lt_or_ge stream.size stream.cursor with hpast | hcursor
  · have hnone : readCommand stream = .ok none stream := by
      rw [readCommand, bind_apply, get_apply]
      dsimp only
      rw [if_pos (by omega)]
      rfl
    rw [hnone] at h
    cases h
  · rw [readCommand_apply hcursor] at h
    split at h
    · cases h
    · cases h
    · next n hfront =>
        cases h
        have hbounds := framing.bounds hfront
        rw [rest_length] at hbounds
        rw [size_advance, cursor_advance]
        omega

/-- The loop of `OnClientData`, for the count of bytes that are consumed. -/
def processCommands (assertions : Bool) (handlers : UInt16 → Option (Handler σ))
    (commandStream : SourceStream) : Effect (Session σ) Failure Nat := fun session =>
  if commandStream.cursor = commandStream.size then .ok commandStream.cursor session
  else
    match _h : readCommand commandStream with
    | .ok (some command) next =>
      match dispatch assertions handlers command session with
      | .ok _ session => processCommands assertions handlers next session
      | .error failure session => .error failure session
    | .ok none next => .ok next.cursor session
    | .error failure _ => .error failure session
  termination_by commandStream.size - commandStream.cursor
  decreasing_by exact readCommand_advances _h

/-- `OnClientData`. -/
def onClientData (assertions : Bool) (handlers : UInt16 → Option (Handler σ)) (data : List Byte) :
    Effect (Session σ) Failure Nat :=
  processCommands assertions handlers { storage := data }

section Loop

variable {assertions : Bool} {handlers : UInt16 → Option (Handler σ)}

/-- The loop serves the bytes behind the cursor. -/
theorem processCommands_apply {stream : SourceStream} (hcursor : stream.cursor ≤ stream.size)
    (session : Session σ) :
    processCommands assertions handlers stream session =
      ((stream.cursor + ·) <$> framing.serve (dispatch assertions handlers) .exception stream.rest)
        session := by
  generalize hrest : stream.rest = rest
  induction rest using @Framing.scan_induction _ _ framing generalizing stream session with
  | unfinished rest hfront =>
    have hunfinished : front stream.rest = .unfinished := hrest ▸ hfront
    rw [map_apply, Framing.serve_unfinished hfront, processCommands]
    split
    · rfl
    · rw [readCommand_apply hcursor, hunfinished]
      rfl
  | corrupt rest hfront =>
    have hcorrupt : front stream.rest = .corrupt := hrest ▸ hfront
    rw [map_apply, Framing.serve_corrupt hfront, processCommands]
    split
    · next hend =>
        have hlength := (front_eq_corrupt.1 hcorrupt).1
        rw [rest_length, hend, Nat.sub_self] at hlength
        omega
    · rw [readCommand_apply hcursor, hcorrupt]
  | frame rest command n hfront ih =>
    have hframe : front stream.rest = .frame command n := hrest ▸ hfront
    have hbounds := framing.bounds hfront
    rw [← hrest, rest_length] at hbounds
    have hadvanced : (stream.advance n).cursor ≤ (stream.advance n).size := by
      rw [cursor_advance, size_advance]
      omega
    have hdropped : (stream.advance n).rest = rest.drop n := by
      rw [rest_advance, hrest]
    rw [map_apply, Framing.serve_frame hfront, processCommands]
    split
    · omega
    · rw [readCommand_apply hcursor, hframe, bind_apply]
      dsimp only
      cases dispatch assertions handlers command session with
      | error failure after => rfl
      | ok done after =>
        dsimp only
        rw [ih hadvanced after hdropped, map_apply, map_apply]
        cases framing.serve (dispatch assertions handlers) .exception (rest.drop n) after with
        | error failure after => rfl
        | ok consumed after =>
          dsimp only
          rw [cursor_advance, Nat.add_comm consumed n, Nat.add_assoc]

theorem onClientData_apply (data : List Byte) (session : Session σ) :
    onClientData assertions handlers data session =
      framing.serve (dispatch assertions handlers) .exception data session := by
  have happly := @processCommands_apply σ assertions handlers { storage := data } (Nat.zero_le _) session
  have hrest : rest { storage := data } = data := rfl
  rw [onClientData, happly, hrest, map_apply]
  cases framing.serve (dispatch assertions handlers) .exception data session with
  | error failure after => rfl
  | ok consumed after =>
    dsimp only
    rw [Nat.zero_add]

end Loop

end Alicia.Command
