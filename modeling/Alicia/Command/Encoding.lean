import Alicia.Command.Server

/-!
# The read loop and the encoding of commands

What `Client::ReadLoop` does with the bytes of a connection.  A read is given to `OnClientData` behind
what was left of the reads before it, and what it does not consume is kept in the read buffer.

The client frames its commands with a magic and encrypts their data with a code that it rolls for every
command with data.  The part of its bytes that has arrived is cut into the commands that are whole in it.
-/

namespace Alicia.Command

open Transition Effect List LittleEndian

/-! ## Connections -/

/-- A connection.  `reading` tells that an asynchronous read has been started and its completion has not
run, `aborted` that an assertion ended the process. -/
structure Connection (σ : Type) where
  readBuffer : List Byte := []
  reading : Bool := true
  aborted : Bool := false
  session : Session σ
  deriving DecidableEq

/-- What happens to a connection. -/
inductive Input (σ : Type) where
  /-- The completion of a read runs, with the data that was received. -/
  | received (data : List Byte)
  /-- The completion of a read runs with an error. -/
  | failed
  /-- `End` is called from elsewhere: by the handler of another client, or by a write that fails.  A read
  that has completed by then keeps its data. -/
  | ended
  /-- Anything else in the server runs; it may give the client a code. -/
  | outside (world : σ) (codeSet : Option UInt32 := none)

variable {σ : Type}

/-- `End`, for the flag of the client. -/
def Session.stop (session : Session σ) : Session σ := { session with shouldRun := false }

/-- The completion handler of `ReadLoop`, with data. -/
def Connection.receive (assertions : Bool) (handlers : UInt16 → Option (Handler σ))
    (connection : Connection σ) (data : List Byte) : Connection σ :=
  let receivedData := connection.readBuffer ++ data
  match onClientData assertions handlers receivedData connection.session with
  | .ok consumedBytes session =>
    { connection with
      readBuffer := receivedData.drop consumedBytes
      reading := session.shouldRun
      session := session }
  | .error .exception session =>
    { connection with readBuffer := receivedData, reading := false, session := session.stop }
  | .error .abort session =>
    { readBuffer := receivedData, reading := false, aborted := true, session := session }

/-- The running flag is looked at when a read is started, and not when it completes. -/
def step (assertions : Bool) (handlers : UInt16 → Option (Handler σ)) (connection : Connection σ)
    (input : Input σ) : Connection σ :=
  if connection.aborted then connection
  else
    match input with
    | .received data =>
      if connection.reading then connection.receive assertions handlers data else connection
    | .failed =>
      if connection.reading then
        { connection with reading := false, session := connection.session.stop }
      else connection
    | .ended => { connection with session := connection.session.stop }
    | .outside world codeSet =>
      { connection with
        session :=
          { connection.session with
            rollingCode := codeSet.getD connection.session.rollingCode
            world := world } }

section Reads

variable {assertions : Bool} {handlers : UInt16 → Option (Handler σ)} {connection : Connection σ}
  {data : List Byte}

/-! ## What a read does -/

/-- A read that meets neither a failure nor a corrupt front. -/
theorem receive_of_ok {session : Session σ}
    (hdispatched : (framing.scan (connection.readBuffer ++ data)).frames.forM
      (dispatch assertions handlers) connection.session = .ok ⟨⟩ session)
    (hfront : framing.front (framing.scan (connection.readBuffer ++ data)).rest = .unfinished) :
    connection.receive assertions handlers data =
      { connection with
        readBuffer := (framing.scan (connection.readBuffer ++ data)).rest
        reading := session.shouldRun
        session := session } := by
  have hserved : framing.serve (dispatch assertions handlers) .exception
      (connection.readBuffer ++ data) connection.session =
        .ok ((connection.readBuffer ++ data).length -
          (framing.scan (connection.readBuffer ++ data)).rest.length) session := by
    rw [Framing.serve, bind_ok hdispatched, hfront]
    rfl
  have hconsumed := suffix_iff_eq_drop.1 (framing.rest_suffix (connection.readBuffer ++ data))
  rw [Connection.receive, onClientData_apply, hserved]
  dsimp only
  rw [← hconsumed]

end Reads

/-! ## The client -/

/-- A command of the client: its id, its payload, the bytes that it pads the data with, and the code
that its handler gives to the client, if it does. -/
structure ClientCommand where
  id : UInt16
  payload : List Byte
  padding : Nat → Byte := fun _ => 0
  codeSet : Option UInt32 := none

namespace ClientCommand

/-- The code that the data is encrypted with; it is rolled if there is data. -/
def key (command : ClientCommand) (code : UInt32) : UInt32 :=
  if command.payload = [] then code else rollCode code

/-- The code behind the command. -/
def rolled (command : ClientCommand) (code : UInt32) : UInt32 :=
  command.codeSet.getD (command.key code)

/-- The data of the command: the payload and its padding, encrypted. -/
def data (command : ClientCommand) (code : UInt32) : List Byte :=
  if command.payload = [] then []
  else
    xorAlgorithm (command.key code) 0
      (command.payload ++ (List.range (paddingSize (command.key code))).map command.padding)

def raw (command : ClientCommand) (code : UInt32) : RawCommand := ⟨command.id, command.data code⟩

end ClientCommand

/-- The commands as they are sent, from a code on. -/
def encrypt : UInt32 → List ClientCommand → List RawCommand
  | _, [] => []
  | code, command :: rest => command.raw code :: encrypt (command.rolled code) rest

/-- The code behind some commands. -/
def finalCode (code : UInt32) (commands : List ClientCommand) : UInt32 :=
  commands.foldl (fun code command => command.rolled code) code

/-- The bytes of a command that is sent. -/
def frame (command : RawCommand) : List Byte :=
  LittleEndian.toBytes 4
      (encodeMessageMagic ⟨command.id, UInt16.ofNat (4 + command.data.length)⟩).toNat ++
    command.data

/-- The bytes of some commands of the client. -/
def encode (code : UInt32) (commands : List ClientCommand) : List Byte :=
  (encrypt code commands).flatMap frame

/-- The ids are those of commands, and no command has too much data. -/
def Framable (code : UInt32) (commands : List ClientCommand) : Prop :=
  ∀ command ∈ encrypt code commands,
    command.id ≤ commandCount ∧ command.data.length ≤ maxCommandDataSize

instance (code : UInt32) (commands : List ClientCommand) : Decidable (Framable code commands) :=
  List.decidableBAll _ _

/-! ## Decryption -/

@[simp] theorem xorAlgorithm_length (key : UInt32) (idx : Nat) (bytes : List Byte) :
    (xorAlgorithm key idx bytes).length = bytes.length := by
  induction bytes generalizing idx with
  | nil => rfl
  | cons b bytes ih => exact congrArg (· + 1) (ih (idx + 1))

/-- The algorithm undoes itself. -/
@[simp] theorem xorAlgorithm_xorAlgorithm (key : UInt32) (idx : Nat) (bytes : List Byte) :
    xorAlgorithm key idx (xorAlgorithm key idx bytes) = bytes := by
  induction bytes generalizing idx with
  | nil => rfl
  | cons b bytes ih =>
    rw [xorAlgorithm, xorAlgorithm, ih, UInt8.xor_assoc, UInt8.xor_self, UInt8.xor_zero]

section Decryption

variable {σ : Type}

/-- The code is the one that the data of a command is encrypted with. -/
def Session.roll (session : Session σ) (command : ClientCommand) : Session σ :=
  { session with rollingCode := command.key session.rollingCode }

@[simp] theorem Session.roll_shouldRun (session : Session σ) (command : ClientCommand) :
    (session.roll command).shouldRun = session.shouldRun := rfl

/-- The server takes the payload out of the data. -/
theorem readPayload_raw (command : ClientCommand) (session : Session σ) :
    readPayload (command.raw session.rollingCode) session =
      .ok command.payload (session.roll command) := by
  obtain ⟨id, payload, padding, codeSet⟩ := command
  by_cases hpayload : payload = []
  · subst hpayload
    rfl
  · have hkey : ClientCommand.key ⟨id, payload, padding, codeSet⟩ session.rollingCode =
        rollCode session.rollingCode := if_neg hpayload
    have hraw : (ClientCommand.raw ⟨id, payload, padding, codeSet⟩ session.rollingCode).data =
        xorAlgorithm (rollCode session.rollingCode) 0
          (payload ++ (List.range (paddingSize (rollCode session.rollingCode))).map padding) := by
      rw [ClientCommand.raw, ClientCommand.data, if_neg hpayload, hkey]
    have hlength : (ClientCommand.raw ⟨id, payload, padding, codeSet⟩ session.rollingCode).data.length =
        payload.length + paddingSize (rollCode session.rollingCode) := by
      rw [hraw, xorAlgorithm_length, length_append, length_map, length_range]
    have hpositive := length_pos_iff.2 hpayload
    have hroll : session.roll ⟨id, payload, padding, codeSet⟩ =
        { session with rollingCode := rollCode session.rollingCode } := by
      rw [Session.roll, hkey]
    rw [readPayload, if_pos (by omega), bind_ok (modify_apply _ _),
      bind_ok (get_apply _), if_neg (by dsimp only; omega), hroll, hlength, hraw,
      xorAlgorithm_xorAlgorithm, Nat.add_sub_cancel_right, take_left]
    rfl

/-! ## Framing -/

/-- A command that can be framed. -/
structure BoundedCommand extends RawCommand where
  known : id ≤ commandCount
  bounded : data.length ≤ maxCommandDataSize

theorem frame_length (command : RawCommand) : (frame command).length = 4 + command.data.length := by
  rw [frame, length_append, toBytes_length]

theorem magicOf_frame (command : BoundedCommand) (t : List Byte) :
    magicOf (frame command.toRawCommand ++ t) =
      ⟨command.id, UInt16.ofNat (4 + command.data.length)⟩ := by
  have hbounded : command.data.length ≤ 8192 := command.bounded
  have hid : command.id < 0x4000 := UInt16.lt_of_le_of_lt command.known (by decide)
  have hannounced : (UInt16.ofNat (4 + command.data.length)).toNat = 4 + command.data.length :=
    UInt16.toNat_ofNat_of_lt (show 4 + command.data.length < 65536 by omega)
  have hlength : UInt16.ofNat (4 + command.data.length) < 0x4000 := by
    rw [UInt16.lt_iff_toNat_lt, hannounced]
    exact (show 4 + command.data.length < 16384 by omega)
  have hword : (encodeMessageMagic ⟨command.id, UInt16.ofNat (4 + command.data.length)⟩).toNat <
      256 ^ 4 := UInt32.toNat_lt _
  rw [magicOf, frame, append_assoc, take_left' (toBytes_length ..),
    ofBytes_toBytes hword, UInt32.ofNat_toNat]
  exact decode_encode hid hlength

theorem framing_encodes :
    framing.Encodes BoundedCommand.toRawCommand (fun command => frame command.toRawCommand) := by
  constructor
  · intro command t
    have hbounded : command.data.length ≤ 8192 := command.bounded
    show front (frame command.toRawCommand ++ t) = _
    refine front_eq_frame.2 ⟨?_, ?_, ?_, ?_, ?_, ?_, ?_⟩
    · rw [length_append, frame_length]
      omega
    · rw [magicOf_frame]
      exact command.known
    · rw [frame_length]
      omega
    · rw [frame_length]
      show 4 + command.data.length ≤ 8196
      omega
    · rw [length_append]
      omega
    · rw [magicOf_frame, frame_length]
      exact UInt16.toNat_ofNat_of_lt (show 4 + command.data.length < 65536 by omega)
    · rw [magicOf_frame, frame_length, frame, append_assoc,
        drop_left' (toBytes_length ..), Nat.add_sub_cancel_left, take_left]
  · intro command s t hsplit ht
    have hbounded : command.data.length ≤ 8192 := command.bounded
    have hlength := congrArg List.length hsplit
    rw [frame_length, length_append] at hlength
    have hpos := length_pos_iff.2 ht
    show front s = .unfinished
    rw [front]
    split
    · rfl
    · next hheader =>
        have hmagic : magicOf s = ⟨command.id, UInt16.ofNat (4 + command.data.length)⟩ := by
          rw [← magicOf_append (Nat.not_lt.1 hheader) t, ← hsplit, ← append_nil (frame _)]
          exact magicOf_frame command []
        have hannounced : (UInt16.ofNat (4 + command.data.length)).toNat = 4 + command.data.length :=
          UInt16.toNat_ofNat_of_lt (show 4 + command.data.length < 65536 by omega)
        have hmaximum : maxCommandSize = 8196 := rfl
        rw [hmagic, if_neg (UInt16.not_lt.2 command.known), hannounced, if_neg (by omega),
          if_pos (by omega)]

end Decryption

/-! ## Parts of what the client sends -/

theorem encrypt_append (code : UInt32) (first second : List ClientCommand) :
    encrypt code (first ++ second) = encrypt code first ++ encrypt (finalCode code first) second := by
  induction first generalizing code with
  | nil => rfl
  | cons command first ih => exact congrArg (command.raw code :: ·) (ih (command.rolled code))

theorem encode_append (code : UInt32) (first second : List ClientCommand) :
    encode code (first ++ second) = encode code first ++ encode (finalCode code first) second := by
  rw [encode, encrypt_append, flatMap_append]
  rfl

theorem finalCode_append (code : UInt32) (first second : List ClientCommand) :
    finalCode code (first ++ second) = finalCode (finalCode code first) second :=
  foldl_append

theorem encrypt_take (code : UInt32) (commands : List ClientCommand) (n : Nat) :
    (encrypt code commands).take n = encrypt code (commands.take n) := by
  induction commands generalizing code n with
  | nil => rw [take_nil, encrypt, take_nil]
  | cons command commands ih =>
    cases n with
    | zero => rfl
    | succ n => exact congrArg (command.raw code :: ·) (ih (command.rolled code) n)

variable {code : UInt32}

theorem Framable.append {first second : List ClientCommand} (h : Framable code (first ++ second)) :
    Framable code first ∧ Framable (finalCode code first) second := by
  rw [Framable, encrypt_append] at h
  exact forall_mem_append.1 h

variable {commands : List ClientCommand}

/-- Bounded commands are what is encrypted. -/
theorem Framable.bounded (h : Framable code commands) :
    ∃ bounded : List BoundedCommand, bounded.map BoundedCommand.toRawCommand = encrypt code commands := by
  have hall : ∀ command ∈ encrypt code commands,
      command.id ≤ commandCount ∧ command.data.length ≤ maxCommandDataSize := h
  refine ⟨(encrypt code commands).pmap
    (fun command hcommand => ⟨command, hcommand.1, hcommand.2⟩) hall, ?_⟩
  rw [map_pmap]
  exact (pmap_eq_map hall).trans (map_id _)

/-- The part of the bytes that has arrived is cut into some of the commands, and is followed by the
bytes of the others. -/
theorem arrived (hframable : Framable code commands) {bytes later : List Byte}
    (hbytes : bytes ++ later = encode code commands) :
    ∃ whole more, commands = whole ++ more ∧ (framing.scan bytes).frames = encrypt code whole ∧
      (framing.scan bytes).rest ++ later = encode (finalCode code whole) more ∧
      framing.front (framing.scan bytes).rest = .unfinished := by
  obtain ⟨bounded, hbounded⟩ := hframable.bounded
  have hsplit : bytes ++ later =
      bounded.flatMap (fun command => frame command.toRawCommand) ++ [] := by
    rw [hbytes, encode, ← hbounded, flatMap_map, append_nil]
  obtain ⟨whole, rest, hwhole, hsplit, hfront⟩ : ∃ whole rest, whole <+: bounded ∧
      bytes = whole.flatMap (fun command => frame command.toRawCommand) ++ rest ∧
      framing.front rest = .unfinished := by
    obtain hpart | ⟨rest, hall, hrest⟩ := framing_encodes.prefix_cases hsplit
    · exact hpart
    · rw [prefix_nil] at hrest
      exact ⟨bounded, rest, prefix_refl _, hall, hrest ▸ rfl⟩
  have hencrypted : whole.map BoundedCommand.toRawCommand = encrypt code (commands.take whole.length) := by
    rw [← encrypt_take, ← hbounded, ← map_take, ← prefix_iff_eq_take.1 hwhole]
  have hscan : framing.scan bytes = ⟨encrypt code (commands.take whole.length), rest⟩ := by
    rw [hsplit, framing_encodes.scan_append, Framing.scan_unfinished hfront, append_nil, hencrypted]
  refine ⟨commands.take whole.length, commands.drop whole.length, (take_append_drop ..).symm, ?_⟩
  rw [hscan]
  refine ⟨rfl, ?_, hfront⟩
  have hwholeBytes : whole.flatMap (fun command => frame command.toRawCommand) =
      encode code (commands.take whole.length) := by
    rw [encode, ← hencrypted, flatMap_map]
  apply @append_cancel_left _ (encode code (commands.take whole.length))
  rw [← encode_append, take_append_drop, ← hbytes, hsplit, hwholeBytes, append_assoc]

/-- Where nothing is left to arrive, no command is left. -/
theorem nothing_more (hframable : Framable code commands)
    (hfront : framing.front (encode code commands) = .unfinished) : commands = [] := by
  cases commands with
  | nil => rfl
  | cons command commands =>
    obtain ⟨hknown, hbounded⟩ := hframable (command.raw code) mem_cons_self
    have hframe := framing_encodes.whole ⟨command.raw code, hknown, hbounded⟩
      (encode (command.rolled code) commands)
    cases hfront.symm.trans hframe

/-- All of the bytes are cut into all of the commands. -/
theorem scan_encode (hframable : Framable code commands) :
    framing.scan (encode code commands) = ⟨encrypt code commands, []⟩ := by
  obtain ⟨whole, more, hsplit, hframes, hrest, hfront⟩ :=
    arrived hframable (append_nil (encode code commands))
  rw [append_nil] at hrest
  rw [hsplit] at hframable
  have hmore : more = [] := nothing_more hframable.append.2 (hrest ▸ hfront)
  subst hmore
  rw [append_nil] at hsplit
  rw [hsplit] at hframes hrest ⊢
  exact congrArg₂ Framing.Scan.mk hframes hrest

end Alicia.Command
