import Mathlib.Data.List.Induction
import Alicia.Chatter.Delivery

/-!
# Chatter framing

The client frames its commands with a scrambled header and a scrambled payload.  However its stream is
cut into reads, the handlers are called with the commands that were framed, and a header that announces
an impossible length ends the connection.
-/

namespace Alicia.Chatter

open Transition List LittleEndian

variable {σ : Type}

/-! ## The client's encoding -/

/-- A header as the client frames it. -/
def encodeHeader (length commandId : UInt16) : List Byte :=
  LittleEndian.toBytes 2 (length ^^^ lengthCode).toNat ++
    LittleEndian.toBytes 2 (commandId ^^^ commandCode).toNat

/-- A command of an allowed length. -/
structure ChatterCommand extends Command where
  bounded : headerSize + data.length ≤ 4092

/-- A command as the client frames it. -/
def encode (command : ChatterCommand) : List Byte :=
  encodeHeader (UInt16.ofNat (headerSize + command.data.length)) command.commandId ++
    scramble 0 command.data

@[simp] theorem encodeHeader_length (length commandId : UInt16) :
    (encodeHeader length commandId).length = headerSize := by
  rw [encodeHeader, length_append, toBytes_length, toBytes_length]
  rfl

theorem encode_length (command : ChatterCommand) :
    (encode command).length = headerSize + command.data.length := by
  rw [encode, length_append, encodeHeader_length, scramble_length]

theorem decode_word (word code : UInt16) :
    UInt16.ofNat (ofBytes (toBytes 2 (word ^^^ code).toNat)) ^^^ code = word := by
  rw [ofBytes_toBytes (word ^^^ code).toNat_lt, UInt16.ofNat_toNat, UInt16.xor_assoc,
    UInt16.xor_self, UInt16.xor_zero]

/-- The server reads the header that the client framed. -/
theorem headerOf_encodeHeader (length commandId : UInt16) (t : List Byte) :
    headerOf (encodeHeader length commandId ++ t) = ⟨length, commandId⟩ := by
  have hheader : headerSize ≤ (encodeHeader length commandId).length := (encodeHeader_length ..).ge
  rw [headerOf_append hheader, headerOf, encodeHeader,
    take_left' (toBytes_length ..), drop_left' (toBytes_length ..),
    take_of_length_le (toBytes_length ..).le, decode_word, decode_word]

theorem announcedLength_encode (command : ChatterCommand) (t : List Byte) :
    announcedLength (encode command ++ t) = headerSize + command.data.length := by
  rw [encode, append_assoc, announcedLength, headerOf_encodeHeader]
  exact UInt16.toNat_ofNat_of_lt (Nat.lt_of_le_of_lt command.bounded (by decide))

theorem framing_encodes : framing.Encodes ChatterCommand.toCommand encode := by
  constructor
  · intro command t
    show front (encode command ++ t) = _
    refine front_eq_frame.2 ⟨?_, ?_, ?_, ?_, ?_⟩
    · rw [announcedLength_encode]
      exact Nat.le_add_right _ _
    · rw [announcedLength_encode]
      exact command.bounded
    · rw [announcedLength_encode, length_append, encode_length]
      exact Nat.le_add_right _ _
    · rw [announcedLength_encode, encode_length]
    · rw [announcedLength_encode, Nat.add_sub_cancel_left, encode, append_assoc,
        headerOf_encodeHeader, drop_left' (encodeHeader_length ..),
        take_left' (scramble_length ..), scramble_scramble]
  · intro command s t hsplit ht
    have hlength := congrArg List.length hsplit
    rw [encode_length, length_append] at hlength
    have hpos := length_pos_iff.2 ht
    show front s = .unfinished
    rw [front]
    split
    · rfl
    · next hheader =>
        have hannounced := announcedLength_append (Nat.not_lt.1 hheader) t
        have hwhole := announcedLength_encode command []
        rw [append_nil, hsplit, hannounced] at hwhole
        have hbounded := command.bounded
        rw [if_neg (by omega), if_pos (by omega)]

/-! ## What is delivered -/

/-- What a client sends behind its commands: nothing, or a header of an impossible length and
anything behind it. -/
inductive Ending
  | none
  | badHeader (length commandId : UInt16) (more : List Byte)
      (bad : length.toNat < headerSize ∨ length.toNat > 4092)

def Ending.bytes : Ending → List Byte
  | none => []
  | badHeader length commandId more _ => encodeHeader length commandId ++ more

/-- What a client sends. -/
def stream (commands : List ChatterCommand) (ending : Ending) : List Byte :=
  commands.flatMap encode ++ ending.bytes

/-- What a connection is when some bytes of the stream have been read: the handlers have been called
with the commands that are whole in them, and either a part of the next command is buffered and the
handlers alone decide whether the connection runs, or a bad header has ended it. -/
def Delivered (handlers : UInt16 → Option (Handler σ)) (start : Session σ)
    (commands : List ChatterCommand) (ending : Ending) (bytes : List Byte)
    (connection : Connection σ) : Prop :=
  connection.aborted = false ∧ ∃ whole rest,
    whole <+: commands ∧ bytes = whole.flatMap encode ++ rest ∧
      connection.session.calls =
        start.calls ++ registered handlers (whole.map ChatterCommand.toCommand) ∧
      (framing.front rest = .unfinished ∧ connection.readBuffer = rest ∧
          connection.session = run (call handlers) start (whole.map ChatterCommand.toCommand) ∨
        framing.front rest = .corrupt ∧ whole = commands ∧ rest <+: ending.bytes ∧
          connection.session.shouldRun = false)

/-- Every read of a running connection delivers what has arrived. -/
def DeliversAll (assertions : Bool) (handlers : UInt16 → Option (Handler σ)) (start : Session σ)
    (commands : List ChatterCommand) (ending : Ending) (completions : List ReadCompletion) : Prop :=
  ∀ before data after, completions = before ++ .received data :: after →
    (run (readLoop assertions handlers) { session := start } before).session.shouldRun = true →
      Delivered handlers start commands ending (received before ++ data)
        (run (readLoop assertions handlers) { session := start } (before ++ [.received data]))

variable {assertions : Bool} {handlers : UInt16 → Option (Handler σ)} {start : Session σ}
  {commands : List ChatterCommand} {ending : Ending}

/-- A part of the ending is nothing whole, or a bad header. -/
theorem front_ending {rest : List Byte} (h : rest <+: ending.bytes) :
    framing.front rest = .unfinished ∨ framing.front rest = .corrupt := by
  rcases Nat.lt_or_ge rest.length headerSize with hshort | hheader
  · exact .inl (if_pos hshort)
  · right
    obtain ⟨behind, hsplit⟩ := h
    cases ending with
    | none =>
      cases (append_eq_nil_iff.1 hsplit).1
      exact absurd hheader (by decide)
    | badHeader length commandId more bad =>
      have hannounced := announcedLength_append hheader behind
      rw [hsplit, Ending.bytes, announcedLength, headerOf_encodeHeader] at hannounced
      exact front_eq_corrupt.2 ⟨hheader, hannounced ▸ bad⟩

/-- The bytes that have arrived, cut up. -/
theorem arrived_cases {bytes : List Byte} (h : bytes <+: stream commands ending) :
    ∃ whole rest, whole <+: commands ∧ bytes = whole.flatMap encode ++ rest ∧
      framing.scan bytes = ⟨whole.map ChatterCommand.toCommand, rest⟩ ∧
        (framing.front rest = .unfinished ∨
          framing.front rest = .corrupt ∧ whole = commands ∧ rest <+: ending.bytes) := by
  obtain ⟨t, hsplit⟩ := h
  obtain ⟨whole, rest, hwhole, rfl, hfront⟩ | ⟨rest, rfl, hrest⟩ := framing_encodes.prefix_cases hsplit
  · refine ⟨whole, rest, hwhole, rfl, ?_, .inl hfront⟩
    rw [framing_encodes.scan_append, Framing.scan_unfinished hfront, append_nil]
  · refine ⟨commands, rest, prefix_refl _, rfl, ?_, ?_⟩
    · rw [framing_encodes.scan_append]
      obtain hfront | hfront := front_ending hrest
      · rw [Framing.scan_unfinished hfront, append_nil]
      · rw [Framing.scan_corrupt hfront, append_nil]
    · exact (front_ending hrest).imp_right fun hfront => ⟨hfront, rfl, hrest⟩

/-- A sound read of a running connection delivers what has arrived. -/
theorem Tracks.delivered {bytes data : List Byte} {connection : Connection σ}
    (h : Tracks handlers start bytes connection) (hrun : connection.session.shouldRun = true)
    (hsound : Sound assertions handlers connection (.received data))
    (hstream : bytes ++ data <+: stream commands ending) :
    Delivered handlers start commands ending (bytes ++ data)
      (readLoop assertions handlers connection (.received data)) := by
  obtain ⟨whole, rest, hwhole, hbytes, hscan, hrest⟩ := arrived_cases hstream
  refine ⟨(h.step hsound).aborted, whole, rest, hwhole, hbytes, ?_⟩
  have hread := h.received_eq hrun hsound
  rw [hscan] at hread
  obtain ⟨hfront, hsession⟩ | ⟨hfront, hbuffer, hsession⟩ := hread
  · refine ⟨?_, .inr ⟨hfront, ?_⟩⟩
    · rw [hsession]
      exact calls_run start _
    · obtain hunfinished | ⟨-, hcommands, htail⟩ := hrest
      · cases hfront.symm.trans hunfinished
      · refine ⟨hcommands, htail, ?_⟩
        rw [hsession]
        rfl
  · refine ⟨?_, .inl ⟨hfront, hbuffer, hsession⟩⟩
    rw [hsession]
    exact calls_run start _

/-- Reads that deliver what has arrived have not ended the process. -/
theorem DeliversAll.aborted {completions : List ReadCompletion}
    (h : DeliversAll assertions handlers start commands ending completions) :
    ∀ first second, completions = first ++ second →
      (run (readLoop assertions handlers) { session := start } first).aborted = false := by
  intro first
  induction first using List.reverseRecOn with
  | nil =>
    intro second hsplit
    rfl
  | append_singleton before completion ih =>
    intro second hsplit
    rw [append_assoc, singleton_append] at hsplit
    have haborted := ih _ hsplit
    cases completion with
    | failed =>
      rw [run_append, run_cons, run_nil, readLoop_failed haborted]
      exact haborted
    | received data =>
      cases hrun : (run (readLoop assertions handlers) { session := start } before).session.shouldRun with
      | true => exact (h before data second hsplit hrun).1
      | false =>
        rw [run_append, run_cons, run_nil, readLoop_stopped hrun]
        exact haborted

/-- The handlers of a client's commands are called with exactly those commands, in order, whatever the
reads and whether handlers throw or not, if and only if the assertion about the command data holds
after every call, where it is compiled in. -/
theorem chatter_framing (assertions : Bool) (handlers : UInt16 → Option (Handler σ)) (start : Session σ)
    (commands : List ChatterCommand) (ending : Ending) (completions : List ReadCompletion)
    (hstream : received completions <+: stream commands ending) :
    Guarded (readLoop assertions handlers) (Sound assertions handlers) { session := start } completions ↔
      DeliversAll assertions handlers start commands ending completions := by
  have hstart : Tracks handlers start [] { session := start } := by
    refine ⟨rfl, fun _ => ?_⟩
    rw [Framing.scan_unfinished (show framing.front [] = .unfinished from rfl)]
    exact ⟨by decide, rfl, rfl⟩
  constructor
  · rintro hguarded before data after rfl hrun
    obtain ⟨hbefore, hsound, -⟩ := guarded_append.1 hguarded
    rw [run_append, run_cons, run_nil]
    refine (hstart.run hbefore).delivered hrun hsound ?_
    rw [received_append, received, ← List.append_assoc] at hstream
    exact (List.prefix_append _ _).trans hstream
  · intro hdelivers
    have hpreserved : ∀ connection completion, connection.aborted = false →
        Sound assertions handlers connection completion →
        (readLoop assertions handlers connection completion).aborted = false :=
      fun _ _ haborted hsound => readLoop_sound haborted hsound
    refine (guarded_iff_prefixes hpreserved (fun _ haborted => haborted) ?_ rfl).2 hdelivers.aborted
    intro connection completion haborted hafter
    by_contra hsound
    cases (readLoop_unsound haborted hsound).symm.trans hafter

/-- Handlers that throw before they have read anything. -/
def throwing : UInt16 → Option (Handler Unit) := fun _ => some fun scope => .error ⟨⟩ scope

/-- A command with a payload, and a next one. -/
def pair : List ChatterCommand := [⟨⟨1, [7]⟩, by decide⟩, ⟨⟨2, []⟩, by decide⟩]

/-- Without assertions, two commands that arrive in two reads are delivered although both handlers
throw. -/
theorem chatter_framing_throwing :
    DeliversAll false throwing { world := () } pair .none
      [.received ((stream pair .none).take 6), .received ((stream pair .none).drop 6)] :=
  (chatter_framing false throwing { world := () } pair .none
    [.received ((stream pair .none).take 6), .received ((stream pair .none).drop 6)]
    (by decide)).1 (.of_forall (sound_release throwing) _ _)

/-- With assertions, the first of them ends the process. -/
theorem unread_command : ¬DeliversAll true throwing { world := () } pair .none
    [.received (stream pair .none)] := by
  intro hdelivers
  have hfails : ¬Sound true throwing { session := { world := () } } (.received (stream pair .none)) := by
    intro hsound
    have hpasses := hsound rfl rfl
    rw [show framing.scan ([] ++ stream pair .none) = _ from framing_encodes.scan_append pair []] at hpasses
    exact absurd hpasses.1 (by decide)
  have haborted := readLoop_unsound rfl hfails
  cases haborted.symm.trans (hdelivers.aborted [.received (stream pair .none)] [] rfl)

end Alicia.Chatter
