import Alicia.Chatter.Server

/-!
# The delivery of chatter commands

However the bytes of a client are cut into reads, the server calls the handlers with the commands
that the client encoded, in their order, as long as no assertion about a handler fails.
-/

namespace Alicia.Chatter

open Transition List Effect SourceStream Framing

variable {σ : Type} (assertions : Bool) (handlers : UInt16 → Option (Handler σ))

/-! ## The read loop -/

variable {stream : SourceStream} {command : Command}

/-- An iteration that finds a command moves the cursor on. -/
theorem readCommand_advances {next : SourceStream}
    (h : readCommand stream = .ok (some command) next) :
    next.size - next.cursor < stream.size - stream.cursor := by
  rcases Nat.lt_or_ge stream.size stream.cursor with hpast | hcursor
  · have hnone : readCommand stream = .ok none stream := by
      have hsize : stream.size - stream.cursor < headerSize := by
        rw [Nat.sub_eq_zero_of_le hpast.le]
        decide
      rw [readCommand, bind_apply, get_apply]
      dsimp only
      rw [if_pos hsize]
      rfl
    rw [hnone] at h
    cases h
  · rw [readCommand_apply hcursor] at h
    split at h
    · cases h
    · cases h
    · next n hfront =>
        cases h
        have hbounds := framing.bounds hfront
        rw [rest_length] at hbounds
        rw [size_advance, cursor_advance]
        omega

/-- The loop of `OnClientData`, for the count of bytes that are consumed. -/
def processCommands (commandStream : SourceStream) : Effect (Session σ) Failure Nat := fun session =>
  if commandStream.cursor = commandStream.size then .ok commandStream.cursor session
  else
    match _h : readCommand commandStream with
    | .ok (some command) next =>
      match dispatch assertions handlers command session with
      | .ok _ session => processCommands next session
      | .error failure session => .error failure session
    | .ok none next => .ok next.cursor session
    | .error failure _ => .error failure session
  termination_by commandStream.size - commandStream.cursor
  decreasing_by exact readCommand_advances _h

/-- `OnClientData`. -/
def onClientData (data : List Byte) : Effect (Session σ) Failure Nat :=
  processCommands assertions handlers { storage := data }

/-- How an asynchronous read completes. -/
inductive ReadCompletion
  | received (data : List Byte)
  | failed
  deriving DecidableEq

/-- A connection.  `aborted` tells that an assertion ended the process. -/
structure Connection (σ : Type) where
  readBuffer : List Byte := []
  aborted : Bool := false
  session : Session σ
  deriving DecidableEq

/-- `End`, for the flag of the client. -/
def Session.stop (session : Session σ) : Session σ := { session with shouldRun := false }

/-- The completion handler of `ReadLoop`.  A client that does not run has no read pending. -/
def readLoop (connection : Connection σ) (completion : ReadCompletion) : Connection σ :=
  if connection.aborted || !connection.session.shouldRun then connection
  else
    match completion with
    | .failed => { connection with session := connection.session.stop }
    | .received data =>
      let receivedData := connection.readBuffer ++ data
      match onClientData assertions handlers receivedData connection.session with
      | .ok consumedBytes session =>
        { connection with readBuffer := receivedData.drop consumedBytes, session := session }
      | .error .exception session =>
        { connection with readBuffer := receivedData, session := session.stop }
      | .error .abort session =>
        { readBuffer := receivedData, aborted := true, session := session }

/-- The bytes that have been received. -/
def received : List ReadCompletion → List Byte
  | [] => []
  | .received data :: rest => data ++ received rest
  | .failed :: rest => received rest

theorem received_append (first second : List ReadCompletion) :
    received (first ++ second) = received first ++ received second := by
  induction first with
  | nil => rfl
  | cons completion rest ih =>
    cases completion with
    | received data =>
      rw [cons_append, received, received, ih, append_assoc]
    | failed => exact ih

/-! ## Calls in a row -/

/-- What the call for a command leaves. -/
def call (session : Session σ) (command : Command) : Session σ :=
  (dispatch false handlers command).final session

/-- The handler of the command has read all command data when it returns or throws. -/
def Consumes (session : Session σ) (command : Command) : Prop :=
  ∀ handler ∈ handlers command.commandId,
    (handled handler session command).commandData.cursor =
      (handled handler session command).commandData.size

instance (session : Session σ) (command : Command) : Decidable (Consumes handlers session command) :=
  Option.decidableForallMem _

/-- The commands which a handler is registered for. -/
def registered (commands : List Command) : List Command :=
  commands.filter fun command => (handlers command.commandId).isSome

variable {assertions handlers}

theorem dispatch_unregistered (h : handlers command.commandId = none) (session : Session σ) :
    dispatch assertions handlers command session = .ok ⟨⟩ session := by
  unfold dispatch
  rw [h]

theorem call_registered {handler : Handler σ} (h : handlers command.commandId = some handler)
    (session : Session σ) :
    call handlers session command =
      ⟨(handled handler session command).shouldRun, (handled handler session command).world,
        session.calls ++ [command]⟩ := by
  unfold call dispatch
  rw [h]
  dsimp only [final]
  rw [if_neg (fun hfails => Bool.noConfusion hfails.1)]

theorem dispatch_registered {command : Command} {handler : Handler σ}
    (h : handlers command.commandId = some handler) (session : Session σ) :
    dispatch assertions handlers command session =
      if assertions = true ∧ (handled handler session command).commandData.cursor ≠
          (handled handler session command).commandData.size then
        .error .abort (call handlers session command)
      else .ok ⟨⟩ (call handlers session command) := by
  unfold dispatch
  rw [h, call_registered h]

theorem dispatch_ok {session : Session σ}
    (h : assertions = true → Consumes handlers session command) :
    dispatch assertions handlers command session = .ok ⟨⟩ (call handlers session command) := by
  cases hhandler : handlers command.commandId with
  | none =>
    rw [call, dispatch_unregistered hhandler, final_ok (dispatch_unregistered hhandler session)]
  | some handler =>
    rw [dispatch_registered hhandler, if_neg]
    rintro ⟨hassertions, hleft⟩
    exact hleft (h hassertions handler hhandler)

theorem dispatch_abort {session : Session σ} (hassertions : assertions = true)
    (h : ¬Consumes handlers session command) :
    dispatch assertions handlers command session = .error .abort (call handlers session command) := by
  cases hhandler : handlers command.commandId with
  | none =>
    refine absurd ?_ h
    intro handler hmem
    cases hhandler.symm.trans hmem
  | some handler =>
    rw [dispatch_registered hhandler, if_pos]
    refine ⟨hassertions, ?_⟩
    intro hread
    apply h
    intro other hother
    cases hhandler.symm.trans hother
    exact hread

theorem calls_call (session : Session σ) (command : Command) :
    (call handlers session command).calls = session.calls ++ registered handlers [command] := by
  cases hhandler : handlers command.commandId with
  | none =>
    rw [call, final_ok (dispatch_unregistered hhandler session), registered,
      filter_cons_of_neg (by rw [hhandler]; exact Bool.false_ne_true), filter_nil,
      append_nil]
  | some handler =>
    rw [call_registered hhandler, registered, filter_cons_of_pos (by rw [hhandler]; rfl),
      filter_nil]

/-- The handlers are called with the commands in their order. -/
theorem calls_run (session : Session σ) (commands : List Command) :
    (run (call handlers) session commands).calls = session.calls ++ registered handlers commands := by
  induction commands generalizing session with
  | nil => exact (append_nil _).symm
  | cons command commands ih =>
    have hsplit : registered handlers (command :: commands) =
        registered handlers [command] ++ registered handlers commands := by
      rw [registered, registered, registered, ← filter_append]
      rfl
    rw [run_cons, ih, calls_call, hsplit, append_assoc]

/-! ## The loop, for the commands that are cut off -/

/-- The assertions that are compiled in hold for some commands in a row. -/
def Passes (assertions : Bool) (handlers : UInt16 → Option (Handler σ)) (session : Session σ)
    (commands : List Command) : Prop :=
  assertions = true → Guarded (call handlers) (Consumes handlers) session commands

theorem front_end (h : stream.cursor = stream.size) :
    framing.front stream.rest = .unfinished := by
  have hempty : stream.rest.length < headerSize := by
    rw [rest_length, h, Nat.sub_self]
    decide
  exact if_pos hempty

theorem processCommands_stop (hcursor : stream.cursor ≤ stream.size)
    (h : framing.front stream.rest = .unfinished) (session : Session σ) :
    processCommands assertions handlers stream session = .ok stream.cursor session := by
  have hfront : front stream.rest = .unfinished := h
  rw [processCommands]
  split
  · rfl
  · rw [readCommand_apply hcursor, hfront]

theorem processCommands_corrupt (hcursor : stream.cursor ≤ stream.size)
    (h : framing.front stream.rest = .corrupt) (session : Session σ) :
    processCommands assertions handlers stream session = .error .exception session := by
  have hfront : front stream.rest = .corrupt := h
  rw [processCommands]
  split
  · next hend => cases h.symm.trans (front_end hend)
  · rw [readCommand_apply hcursor, hfront]

theorem processCommands_frame (hcursor : stream.cursor ≤ stream.size) {n : Nat}
    (h : framing.front stream.rest = .frame command n) (session : Session σ) :
    processCommands assertions handlers stream session =
      match dispatch assertions handlers command session with
      | .ok _ session => processCommands assertions handlers (stream.advance n) session
      | .error failure session => .error failure session := by
  have hfront : front stream.rest = .frame command n := h
  rw [processCommands]
  split
  · next hend => cases h.symm.trans (front_end hend)
  · rw [readCommand_apply hcursor, hfront]

/-- When the assertions hold, the loop calls the handlers with all commands of the data. -/
theorem processCommands_passes {stream : SourceStream} (hcursor : stream.cursor ≤ stream.size)
    {session : Session σ}
    (h : Passes assertions handlers session (framing.scan stream.rest).frames) :
    processCommands assertions handlers stream session =
      if framing.front (framing.scan stream.rest).rest = .corrupt then
        .error .exception (run (call handlers) session (framing.scan stream.rest).frames)
      else
        .ok (stream.size - (framing.scan stream.rest).rest.length)
          (run (call handlers) session (framing.scan stream.rest).frames) := by
  generalize hrest : stream.rest = rest at h ⊢
  induction rest using @scan_induction _ _ framing generalizing stream session with
  | unfinished rest hfront =>
    have hlength := congrArg List.length hrest
    rw [rest_length] at hlength
    have hconsumed : stream.cursor = stream.size - rest.length := by omega
    rw [scan_unfinished hfront, processCommands_stop hcursor (hrest.symm ▸ hfront), hfront,
      if_neg (by decide), ← hconsumed]
    rfl
  | corrupt rest hfront =>
    rw [scan_corrupt hfront, processCommands_corrupt hcursor (hrest.symm ▸ hfront), hfront,
      if_pos rfl]
    rfl
  | frame rest command n hfront ih =>
    have hbounds := framing.bounds hfront
    rw [← hrest, rest_length] at hbounds
    rw [scan_frame hfront] at h ⊢
    rw [processCommands_frame hcursor (hrest.symm ▸ hfront),
      dispatch_ok (fun hassertions => (h hassertions).1)]
    have hadvanced : (stream.advance n).cursor ≤ (stream.advance n).size := by
      rw [cursor_advance, size_advance]
      omega
    refine ih hadvanced ?_ fun hassertions => (h hassertions).2
    rw [rest_advance, hrest]

/-- When an assertion fails, the process ends. -/
theorem processCommands_abort {stream : SourceStream} (hcursor : stream.cursor ≤ stream.size)
    {session : Session σ} (hassertions : assertions = true)
    (h : ¬Guarded (call handlers) (Consumes handlers) session (framing.scan stream.rest).frames) :
    ∃ after, processCommands assertions handlers stream session = .error .abort after := by
  generalize hrest : stream.rest = rest at h
  induction rest using @scan_induction _ _ framing generalizing stream session with
  | unfinished rest hfront =>
    rw [scan_unfinished hfront] at h
    exact absurd trivial h
  | corrupt rest hfront =>
    rw [scan_corrupt hfront] at h
    exact absurd trivial h
  | frame rest command n hfront ih =>
    have hbounds := framing.bounds hfront
    rw [← hrest, rest_length] at hbounds
    rw [scan_frame hfront] at h
    rw [processCommands_frame hcursor (hrest.symm ▸ hfront)]
    by_cases hconsumes : Consumes handlers session command
    · have hadvanced : (stream.advance n).cursor ≤ (stream.advance n).size := by
        rw [cursor_advance, size_advance]
        omega
      rw [dispatch_ok fun _ => hconsumes]
      refine ih hadvanced ?_ fun hrest => h ⟨hconsumes, hrest⟩
      rw [rest_advance, hrest]
    · rw [dispatch_abort hassertions hconsumes]
      exact ⟨_, rfl⟩

/-! ## Reads -/

variable (assertions handlers) in
/-- The handlers which a read calls have read all command data, where assertions are compiled in. -/
def Sound (connection : Connection σ) : ReadCompletion → Prop
  | .failed => True
  | .received data =>
    connection.session.shouldRun = true →
      Passes assertions handlers connection.session
        (framing.scan (connection.readBuffer ++ data)).frames

variable (handlers) in
/-- Without assertions no read is unsound. -/
theorem sound_release (connection : Connection σ) :
    ∀ completion, Sound false handlers connection completion
  | .failed => trivial
  | .received _ => fun _ hassertions => Bool.noConfusion hassertions

/-- What a read leaves, when the assertions hold. -/
theorem readLoop_received {connection : Connection σ} {data : List Byte}
    (haborted : connection.aborted = false) (hrun : connection.session.shouldRun = true)
    (hsound : Sound assertions handlers connection (.received data)) :
    readLoop assertions handlers connection (.received data) =
      if framing.front (framing.scan (connection.readBuffer ++ data)).rest = .corrupt then
        { connection with
          readBuffer := connection.readBuffer ++ data
          session := (run (call handlers) connection.session
            (framing.scan (connection.readBuffer ++ data)).frames).stop }
      else
        { connection with
          readBuffer := (framing.scan (connection.readBuffer ++ data)).rest
          session := run (call handlers) connection.session
            (framing.scan (connection.readBuffer ++ data)).frames } := by
  have hloop := @processCommands_passes _ assertions handlers { storage := connection.readBuffer ++ data }
    (Nat.zero_le _) connection.session (hsound hrun)
  have hrest : rest { storage := connection.readBuffer ++ data } =
      connection.readBuffer ++ data := rfl
  have hconsumed := suffix_iff_eq_drop.1
    (framing.rest_suffix (connection.readBuffer ++ data))
  rw [hrest] at hloop
  rw [readLoop, haborted, hrun, if_neg (by decide)]
  dsimp only
  by_cases hcorrupt : framing.front (framing.scan (connection.readBuffer ++ data)).rest = .corrupt
  · rw [onClientData, hloop, if_pos hcorrupt, if_pos hcorrupt]
  · rw [onClientData, hloop, if_neg hcorrupt, if_neg hcorrupt, size]
    dsimp only
    rw [← hconsumed]

variable {completion : ReadCompletion}

/-- A read that fails an assertion ends the process. -/
theorem readLoop_unsound {connection : Connection σ} (haborted : connection.aborted = false)
    (hsound : ¬Sound assertions handlers connection completion) :
    (readLoop assertions handlers connection completion).aborted = true := by
  cases completion with
  | failed => exact absurd trivial hsound
  | received data =>
    obtain ⟨hrun, hfails⟩ := Classical.not_imp.1 hsound
    obtain ⟨hassertions, hfails⟩ := Classical.not_imp.1 hfails
    obtain ⟨after, habort⟩ := @processCommands_abort _ assertions handlers
      { storage := connection.readBuffer ++ data } (Nat.zero_le _) connection.session hassertions hfails
    rw [readLoop, haborted, hrun, if_neg (by decide)]
    dsimp only
    rw [onClientData, habort]

theorem readLoop_stopped {connection : Connection σ} (hstopped : connection.session.shouldRun = false)
    (completion : ReadCompletion) : readLoop assertions handlers connection completion = connection := by
  unfold readLoop
  rw [hstopped]
  exact if_pos (Bool.or_true _)

theorem readLoop_failed {connection : Connection σ} (haborted : connection.aborted = false) :
    readLoop assertions handlers connection .failed =
      { connection with session := connection.session.stop } := by
  rw [readLoop]
  split
  · next hstopped =>
      rw [haborted, Bool.false_or, Bool.not_eq_true'] at hstopped
      rw [Session.stop, ← hstopped]
  · rfl

theorem readLoop_sound {connection : Connection σ} (haborted : connection.aborted = false)
    (hsound : Sound assertions handlers connection completion) :
    (readLoop assertions handlers connection completion).aborted = false := by
  cases completion with
  | failed =>
    rw [readLoop_failed haborted]
    exact haborted
  | received data =>
    cases hrun : connection.session.shouldRun with
    | false =>
      rw [readLoop_stopped hrun]
      exact haborted
    | true =>
      rw [readLoop_received haborted hrun hsound]
      split
      · exact haborted
      · exact haborted

/-- While a connection runs, the handlers have been called with the commands of all bytes that were
received, and the read buffer holds what is left of them. -/
structure Tracks (handlers : UInt16 → Option (Handler σ)) (start : Session σ) (bytes : List Byte)
    (connection : Connection σ) : Prop where
  aborted : connection.aborted = false
  running : connection.session.shouldRun = true →
    framing.front (framing.scan bytes).rest ≠ .corrupt ∧
      connection.readBuffer = (framing.scan bytes).rest ∧
      connection.session = run (call handlers) start (framing.scan bytes).frames

variable {start : Session σ} {connection : Connection σ} {bytes data : List Byte}

/-- What a read of a running connection leaves, in terms of all bytes that were received. -/
theorem Tracks.received_eq (h : Tracks handlers start bytes connection)
    (hrun : connection.session.shouldRun = true)
    (hsound : Sound assertions handlers connection (.received data)) :
    (framing.front (framing.scan (bytes ++ data)).rest = .corrupt ∧
        (readLoop assertions handlers connection (.received data)).session =
          (run (call handlers) start (framing.scan (bytes ++ data)).frames).stop) ∨
      (framing.front (framing.scan (bytes ++ data)).rest = .unfinished ∧
        (readLoop assertions handlers connection (.received data)).readBuffer =
          (framing.scan (bytes ++ data)).rest ∧
        (readLoop assertions handlers connection (.received data)).session =
          run (call handlers) start (framing.scan (bytes ++ data)).frames) := by
  obtain ⟨-, hbuffer, hsession⟩ := h.running hrun
  rw [readLoop_received h.aborted hrun hsound, scan_append, ← hbuffer, run_append, ← hsession]
  cases hfront : framing.front (framing.scan (connection.readBuffer ++ data)).rest with
  | corrupt =>
    rw [if_pos rfl]
    exact .inl ⟨rfl, rfl⟩
  | unfinished =>
    rw [if_neg (by decide)]
    exact .inr ⟨rfl, rfl, rfl⟩
  | frame command n => exact absurd hfront (front_rest command n)

theorem Tracks.step (h : Tracks handlers start bytes connection)
    (hsound : Sound assertions handlers connection completion) :
    Tracks handlers start (bytes ++ received [completion])
      (readLoop assertions handlers connection completion) := by
  refine ⟨readLoop_sound h.aborted hsound, ?_⟩
  intro hruns
  cases hrun : connection.session.shouldRun with
  | false =>
    rw [readLoop_stopped hrun] at hruns
    cases hrun.symm.trans hruns
  | true =>
    cases completion with
    | failed =>
      rw [readLoop_failed h.aborted] at hruns
      cases hruns
    | received data =>
      have hbytes : received [.received data] = data := append_nil data
      rw [hbytes]
      obtain ⟨-, hstopped⟩ | ⟨hfront, hrest⟩ := h.received_eq hrun hsound
      · rw [hstopped] at hruns
        cases hruns
      · refine ⟨?_, hrest⟩
        rw [hfront]
        decide

theorem Tracks.run (h : Tracks handlers start bytes connection) {completions : List ReadCompletion}
    (hsound : Guarded (readLoop assertions handlers) (Sound assertions handlers) connection completions) :
    Tracks handlers start (bytes ++ received completions)
      (Transition.run (readLoop assertions handlers) connection completions) := by
  induction completions generalizing connection bytes with
  | nil =>
    rw [received, append_nil]
    exact h
  | cons completion rest ih =>
    have hbytes : received (completion :: rest) = received [completion] ++ received rest :=
      received_append [completion] rest
    rw [hbytes, ← append_assoc]
    exact ih (h.step hsound.1) hsound.2

end Alicia.Chatter
