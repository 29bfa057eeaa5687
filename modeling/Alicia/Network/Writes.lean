import Mathlib.Data.List.Basic
import Alicia.Network.Stream
import Alicia.Transition.Run

/-!
# The outgoing bytes of a client

`QueueWrite` and `WriteLoop` of a client, for any number of threads.  A thread puts its supplier into
the queue, checks the flags, and then takes the lock and drains the queue into the write buffer; the
check and the drain are steps of their own, and so are the two things that the handler of a completed
write does before it enters the loop again.
-/

namespace Alicia.Network

open Transition List

/-! ## The frames of commands -/

/-- What a write supplier appends to the buffer; `none` when it throws. -/
abbrev Supplier := Option (List Byte)

/-- The size of a `MessageMagic`. -/
def messageMagicSize : Nat := 4

def maxCommandSize : Nat := 8192 + messageMagicSize

/-- `encode_message_magic`. -/
def encodeMessageMagic (id length : UInt16) : UInt32 :=
  let length : UInt32 := (4096 : UInt32) <<< (16 : UInt32) ||| length.toUInt32
  let encoded : UInt32 := (length &&& 0x3FFF ||| length <<< (14 : UInt32)) &&& 0xFFFF
  let encoded : UInt32 := ((encoded &&& 0xF ||| 0xFF80) <<< (8 : UInt32) |||
    length >>> (4 : UInt32) &&& 0xFF ||| encoded &&& 0xF000) &&& 0xFFFF
  encoded ||| (encoded ^^^ id.toUInt32) <<< (16 : UInt32)

example : encodeMessageMagic 7 29 = 0xCD06CD01 := by decide

/-- The supplier of `SendCommand`, for what the writer of the command puts into the sink.  It throws
if the writer does, or if the sink is too small for it. -/
def commandSupplier (commandId : UInt16) (data : Option (List Byte)) : Supplier := do
  let data ← data
  if messageMagicSize + data.length > maxCommandSize then none
  else
    let commandSize := UInt16.ofNat (messageMagicSize + data.length)
    some (LittleEndian.toBytes 4 (encodeMessageMagic commandId commandSize).toNat ++ data)

/-! ## The write loop -/

/-- A client, the threads in its write loop, and two history variables: the bytes that the socket
took, and the suppliers that were queued. -/
structure Client where
  shouldRun : Bool := true
  isSending : Bool := false
  writeQueue : List Supplier := []
  writeBuffer : List Byte := []
  /-- Threads before the check of the flags. -/
  entering : Nat := 0
  /-- Threads between the check and the lock. -/
  draining : Nat := 0
  /-- The bytes that were given to each asynchronous write which has not completed. -/
  inFlight : List (List Byte) := []
  /-- Completion handlers before the reset of the flag. -/
  finishing : Nat := 0
  sent : List Byte := []
  queued : List Supplier := []
  deriving DecidableEq

inductive WriteStep
  /-- `QueueWrite`, up to its call of the write loop. -/
  | queueWrite (supplier : Supplier)
  /-- The check of the flags in `WriteLoop`. -/
  | check
  /-- The locked rest of `WriteLoop`. -/
  | drain
  /-- An asynchronous write completes; its handler consumes the bytes that were sent. -/
  | complete (write size : Nat)
  /-- An asynchronous write completes with an error; its handler ends the client. -/
  | fail (write : Nat)
  /-- The handler of a completed write resets the flag and enters the write loop. -/
  | finish
  /-- `End`, from anywhere. -/
  | stop
  deriving DecidableEq

/-- The loop over the queue, for the buffer and the suppliers that are left; a supplier that throws
stays at the front. -/
def runSuppliers (writeBuffer : List Byte) : List Supplier → List Byte × List Supplier
  | [] => (writeBuffer, [])
  | some frame :: rest => runSuppliers (writeBuffer ++ frame) rest
  | none :: rest => (writeBuffer, none :: rest)

namespace Client

def queueWrite (client : Client) (supplier : Supplier) : Client :=
  if client.shouldRun then
    { client with
      writeQueue := client.writeQueue ++ [supplier]
      queued := client.queued ++ [supplier]
      entering := client.entering + 1 }
  else client

def check (client : Client) : Client :=
  if client.entering = 0 then client
  else if client.shouldRun && !client.isSending then
    { client with entering := client.entering - 1, draining := client.draining + 1 }
  else { client with entering := client.entering - 1 }

def drain (client : Client) : Client :=
  if client.draining = 0 then client
  else if client.writeQueue = [] then { client with draining := client.draining - 1 }
  else
    match runSuppliers client.writeBuffer client.writeQueue with
    | (writeBuffer, []) =>
      { client with
        draining := client.draining - 1
        writeQueue := []
        writeBuffer := writeBuffer
        isSending := true
        inFlight := client.inFlight ++ [writeBuffer] }
    | (writeBuffer, left) =>
      { client with
        draining := client.draining - 1
        writeQueue := left
        writeBuffer := writeBuffer
        shouldRun := false }

/-- A write sends at least one byte and at most the bytes that it was given. -/
def complete (client : Client) (write size : Nat) : Client :=
  match client.inFlight[write]? with
  | none => client
  | some bytes =>
    if 1 ≤ size ∧ size ≤ bytes.length then
      { client with
        inFlight := client.inFlight.eraseIdx write
        sent := client.sent ++ bytes.take size
        writeBuffer := client.writeBuffer.drop size
        finishing := client.finishing + 1 }
    else client

def fail (client : Client) (write : Nat) : Client :=
  if write < client.inFlight.length then
    { client with
      inFlight := client.inFlight.eraseIdx write
      shouldRun := false
      finishing := client.finishing + 1 }
  else client

def finish (client : Client) : Client :=
  if client.finishing = 0 then client
  else
    { client with
      isSending := false
      finishing := client.finishing - 1
      entering := client.entering + 1 }

def step (client : Client) : WriteStep → Client
  | .queueWrite supplier => client.queueWrite supplier
  | .check => client.check
  | .drain => client.drain
  | .complete write size => client.complete write size
  | .fail write => client.fail write
  | .finish => client.finish
  | .stop => { client with shouldRun := false }

/-- No write is in progress and no thread is in the write loop. -/
structure Quiet (client : Client) : Prop where
  inFlight : client.inFlight = []
  finishing : client.finishing = 0
  entering : client.entering = 0
  draining : client.draining = 0

/-- What the outgoing stream is for: the bytes that the socket took, and behind them the write buffer,
are the frames of the suppliers that were taken off the queue, in their order; and nothing is left
unsent in a running client. -/
structure InOrder (client : Client) : Prop where
  stream : ∃ frames : List (List Byte), client.queued = frames.map some ++ client.writeQueue ∧
    client.sent ++ client.writeBuffer = frames.flatten
  unsent : client.shouldRun = true → client.Quiet → client.writeBuffer = [] ∧ client.writeQueue = []

/-- The bytes that a write sent are at the front of the write buffer. -/
def SendsFront (client : Client) (write size : Nat) : Prop :=
  ∀ bytes ∈ client.inFlight[write]?, 1 ≤ size → size ≤ bytes.length →
    bytes.take size = client.writeBuffer.take size

/-- The condition on a step: a write sent the bytes that are at the front of the write buffer, and a
last drain that finds the queue empty finds the write buffer empty too. -/
def Sound (client : Client) : WriteStep → Prop
  | .complete write size => client.SendsFront write size
  | .drain =>
    client.shouldRun = true → client.draining = 1 → client.entering = 0 → client.finishing = 0 →
      client.inFlight = [] → client.writeQueue = [] → client.writeBuffer = []
  | _ => True

instance (client : Client) : ∀ step, Decidable (client.Sound step)
  | .complete _ _ => Option.decidableForallMem _
  | .drain => inferInstanceAs (Decidable (_ → _ → _ → _ → _ → _ → _))
  | .queueWrite _ => isTrue trivial
  | .check => isTrue trivial
  | .fail _ => isTrue trivial
  | .finish => isTrue trivial
  | .stop => isTrue trivial

/-! ## One step -/

theorem runSuppliers_spec (writeBuffer : List Byte) (queue : List Supplier) :
    ∃ frames : List (List Byte), queue = frames.map some ++ (runSuppliers writeBuffer queue).2 ∧
      (runSuppliers writeBuffer queue).1 = writeBuffer ++ frames.flatten := by
  induction queue generalizing writeBuffer with
  | nil => exact ⟨[], rfl, (append_nil _).symm⟩
  | cons supplier rest ih =>
    cases supplier with
    | none => exact ⟨[], rfl, (append_nil _).symm⟩
    | some frame =>
      obtain ⟨frames, hrest, hbuffer⟩ := ih (writeBuffer ++ frame)
      refine ⟨frame :: frames, congrArg (some frame :: ·) hrest, ?_⟩
      rw [runSuppliers, hbuffer, append_assoc, flatten_cons]

/-- A drain that finds suppliers either starts a write of the whole buffer or ends the client. -/
theorem drain_cases {client : Client} (hdraining : client.draining ≠ 0) (hqueue : client.writeQueue ≠ []) :
    ∃ (frames : List (List Byte)) (left : List Supplier), client.writeQueue = frames.map some ++ left ∧
      (left = [] ∧ client.drain =
          { client with
            draining := client.draining - 1
            writeQueue := []
            writeBuffer := client.writeBuffer ++ frames.flatten
            isSending := true
            inFlight := client.inFlight ++ [client.writeBuffer ++ frames.flatten] } ∨
        client.drain =
          { client with
            draining := client.draining - 1
            writeQueue := left
            writeBuffer := client.writeBuffer ++ frames.flatten
            shouldRun := false }) := by
  obtain ⟨frames, hsplit, hbuffer⟩ := runSuppliers_spec client.writeBuffer client.writeQueue
  refine ⟨frames, (runSuppliers client.writeBuffer client.writeQueue).2, hsplit, ?_⟩
  rw [drain, if_neg hdraining, if_neg hqueue, ← hbuffer]
  cases hrun : runSuppliers client.writeBuffer client.writeQueue with
  | mk writeBuffer left =>
    cases left with
    | nil => exact .inl ⟨rfl, rfl⟩
    | cons supplier left => exact .inr rfl

theorem drain_empty {client : Client} (hdraining : client.draining ≠ 0) (hqueue : client.writeQueue = []) :
    client.drain = { client with draining := client.draining - 1 } := by
  rw [drain, if_neg hdraining, if_pos hqueue]

theorem drain_none {client : Client} (hdraining : client.draining = 0) : client.drain = client := by
  rw [drain, if_pos hdraining]

/-- The invariant: the outgoing stream is in order, and while the flag is set a write is in flight or
its handler has not reset the flag. -/
structure Consistent (client : Client) : Prop where
  inOrder : client.InOrder
  sending : client.isSending = true → client.inFlight ≠ [] ∨ client.finishing ≠ 0

variable {client : Client}

theorem consistent_queueWrite (h : client.Consistent) (supplier : Supplier) :
    (client.queueWrite supplier).Consistent := by
  rw [queueWrite]
  split
  · obtain ⟨frames, hqueued, hstream⟩ := h.inOrder.stream
    refine ⟨⟨⟨frames, ?_, hstream⟩, fun _ hquiet => ?_⟩, h.sending⟩
    · rw [hqueued, append_assoc]
    · exact absurd hquiet.entering (Nat.succ_ne_zero _)
  · exact h

theorem consistent_check (h : client.Consistent) : client.check.Consistent := by
  rw [check]
  split
  · exact h
  · split
    · exact ⟨⟨h.inOrder.stream, fun _ hquiet => absurd hquiet.draining (Nat.succ_ne_zero _)⟩, h.sending⟩
    · next hturned =>
        refine ⟨⟨h.inOrder.stream, fun hrun hquiet => ?_⟩, h.sending⟩
        -- A thread that turns round in a running client leaves a write in progress.
        have hsending : client.isSending = true := by
          cases hflag : client.isSending with
          | true => rfl
          | false =>
            rw [hflag, show client.shouldRun = true from hrun] at hturned
            exact absurd rfl hturned
        obtain hflight | hfinishing := h.sending hsending
        · exact absurd hquiet.inFlight hflight
        · exact absurd hquiet.finishing hfinishing

theorem consistent_drain (h : client.Consistent) (hsound : client.Sound .drain) :
    client.drain.Consistent := by
  by_cases hdraining : client.draining = 0
  · rw [drain_none hdraining]
    exact h
  · by_cases hqueue : client.writeQueue = []
    · rw [drain_empty hdraining hqueue]
      refine ⟨⟨h.inOrder.stream, fun hrun hquiet => ?_⟩, h.sending⟩
      have hlast : client.draining = 1 := by
        have hnone : client.draining - 1 = 0 := hquiet.draining
        omega
      exact ⟨hsound hrun hlast hquiet.entering hquiet.finishing hquiet.inFlight hqueue, hqueue⟩
    · obtain ⟨frames, hqueued, hstream⟩ := h.inOrder.stream
      obtain ⟨more, left, hsplit, ⟨rfl, hdrain⟩ | hdrain⟩ := drain_cases hdraining hqueue
      · rw [hdrain]
        have hflight : client.inFlight ++ [client.writeBuffer ++ more.flatten] ≠ [] :=
          append_ne_nil_of_right_ne_nil _ (cons_ne_nil _ _)
        refine ⟨⟨⟨frames ++ more, ?_, ?_⟩, fun _ hquiet => absurd hquiet.inFlight hflight⟩, fun _ => .inl hflight⟩
        · rw [hqueued, hsplit, map_append, append_assoc]
        · rw [← append_assoc, hstream, flatten_append]
      · rw [hdrain]
        refine ⟨⟨⟨frames ++ more, ?_, ?_⟩, fun hrun => Bool.noConfusion hrun⟩, h.sending⟩
        · rw [hqueued, hsplit, map_append, append_assoc]
        · rw [← append_assoc, hstream, flatten_append]

theorem complete_cases (client : Client) (write size : Nat) :
    client.complete write size = client ∨
      ∃ bytes ∈ client.inFlight[write]?, 1 ≤ size ∧ size ≤ bytes.length ∧
        client.complete write size =
          { client with
            inFlight := client.inFlight.eraseIdx write
            sent := client.sent ++ bytes.take size
            writeBuffer := client.writeBuffer.drop size
            finishing := client.finishing + 1 } := by
  rw [complete]
  cases hbytes : client.inFlight[write]? with
  | none => exact .inl rfl
  | some bytes =>
    dsimp only
    split
    · next hsize => exact .inr ⟨bytes, rfl, hsize.1, hsize.2, rfl⟩
    · exact .inl rfl

theorem consistent_complete (h : client.Consistent) {write size : Nat}
    (hsound : client.Sound (.complete write size)) : (client.complete write size).Consistent := by
  obtain hsame | ⟨bytes, hbytes, hpos, hsize, hcomplete⟩ := complete_cases client write size
  · rw [hsame]
    exact h
  · rw [hcomplete]
    obtain ⟨frames, hqueued, hstream⟩ := h.inOrder.stream
    refine ⟨⟨⟨frames, hqueued, ?_⟩, fun _ hquiet => ?_⟩, fun _ => .inr (Nat.succ_ne_zero _)⟩
    · rw [hsound bytes hbytes hpos hsize, append_assoc, take_append_drop, hstream]
    · exact absurd hquiet.finishing (Nat.succ_ne_zero _)

theorem consistent_fail (h : client.Consistent) (write : Nat) : (client.fail write).Consistent := by
  rw [fail]
  split
  · exact ⟨⟨h.inOrder.stream, fun hrun => Bool.noConfusion hrun⟩, fun _ => .inr (Nat.succ_ne_zero _)⟩
  · exact h

theorem consistent_finish (h : client.Consistent) : client.finish.Consistent := by
  rw [finish]
  split
  · exact h
  · exact ⟨⟨h.inOrder.stream, fun _ hquiet => absurd hquiet.entering (Nat.succ_ne_zero _)⟩,
      fun hsending => Bool.noConfusion hsending⟩

/-- Every sound step keeps the outgoing stream in order. -/
theorem consistent_step (h : client.Consistent) {input : WriteStep} (hsound : client.Sound input) :
    (client.step input).Consistent := by
  cases input with
  | queueWrite supplier => exact consistent_queueWrite h supplier
  | check => exact consistent_check h
  | drain => exact consistent_drain h hsound
  | complete write size => exact consistent_complete h hsound
  | fail write => exact consistent_fail h write
  | finish => exact consistent_finish h
  | stop => exact ⟨⟨h.inOrder.stream, fun hrun => Bool.noConfusion hrun⟩, h.sending⟩

/-- A step that is not sound puts the outgoing stream out of order. -/
theorem sound_of_inOrder (h : client.Consistent) {input : WriteStep}
    (hafter : (client.step input).InOrder) : client.Sound input := by
  cases input with
  | queueWrite supplier => trivial
  | check => trivial
  | fail write => trivial
  | finish => trivial
  | stop => trivial
  | drain =>
    intro hrun hdraining hentering hfinishing hflight hqueue
    have hdrain : client.drain = { client with draining := client.draining - 1 } :=
      drain_empty (by omega) hqueue
    have hunsent := hafter.unsent
    rw [step, hdrain] at hunsent
    refine (hunsent hrun ⟨hflight, hfinishing, hentering, ?_⟩).1
    show client.draining - 1 = 0
    omega
  | complete write size =>
    intro bytes hbytes hpos hsize
    obtain ⟨frames, hqueued, hstream⟩ := h.inOrder.stream
    obtain ⟨frames', hqueued', hstream'⟩ := hafter.stream
    have hcomplete : client.complete write size =
        { client with
          inFlight := client.inFlight.eraseIdx write
          sent := client.sent ++ bytes.take size
          writeBuffer := client.writeBuffer.drop size
          finishing := client.finishing + 1 } := by
      rw [complete, Option.mem_def.1 hbytes]
      exact if_pos ⟨hpos, hsize⟩
    rw [step, hcomplete] at hqueued' hstream'
    have hframes : frames = frames' :=
      map_injective_iff.2 (Option.some_injective _)
        (append_cancel_right (hqueued.symm.trans hqueued'))
    rw [← hframes, ← hstream, append_assoc] at hstream'
    have hbuffer : bytes.take size ++ client.writeBuffer.drop size = client.writeBuffer :=
      append_cancel_left hstream'
    exact append_cancel_right (hbuffer.trans (take_append_drop size _).symm)

end Client

/-! ## The outgoing stream -/

/-- A command of four bytes, of which the socket takes three. -/
def partialWrite : List WriteStep :=
  [.queueWrite (commandSupplier 8 (some [])), .check, .drain, .complete 0 3, .finish, .check, .drain]

end Alicia.Network
