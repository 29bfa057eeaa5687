import Alicia.Command.Encoding

/-!
# The end of a client

`End` clears the running flag of a client.  The flag is looked at when the next read is started, and not
between the commands of one read: the commands behind the one whose handler ends the client are handled,
and so are those of a read that has completed before `End` is called from elsewhere.
-/

namespace Alicia.Command

open Transition Effect

section Ending

variable {σ : Type}

/-- No handler has been called for a client that had been ended. -/
def Session.CalledRunning (session : Session σ) : Prop := ∀ call ∈ session.calls, call.running = true

instance (session : Session σ) : Decidable session.CalledRunning := List.decidableBAll _ _

variable (assertions : Bool) (handlers : UInt16 → Option (Handler σ))

/-- None of the commands is handled: no handler is registered for it, or it is behind a command with too
little data. -/
def Unhandled : List RawCommand → Session σ → Prop
  | [], _ => True
  | command :: rest, session =>
    match readPayload command session with
    | .ok _ session => handlers command.id = none ∧ Unhandled rest session
    | .error _ _ => True

/-- No command is handled behind one that leaves the client ended. -/
def EndsLast : List RawCommand → Session σ → Prop
  | [], _ => True
  | command :: rest, session =>
    match dispatch assertions handlers command session with
    | .ok _ session =>
      (session.shouldRun = true → EndsLast rest session) ∧
        (session.shouldRun = false → Unhandled handlers rest session)
    | .error _ _ => True

/-- A read that completes has no command to handle if the client has been ended, and none behind the
command whose handler ends it. -/
def Timely (connection : Connection σ) : Input σ → Prop
  | .received data =>
    connection.aborted = false → connection.reading = true →
      let frames := (framing.scan (connection.readBuffer ++ data)).frames
      (connection.session.shouldRun = true →
          EndsLast assertions handlers frames connection.session) ∧
        (connection.session.shouldRun = false → Unhandled handlers frames connection.session)
  | _ => True

variable {assertions handlers} {command : RawCommand} {session after : Session σ}
  {payload : List Byte} {failure : Failure}

/-! ## What a dispatch leaves -/

/-- The calls and the flag are the same. -/
def SameCalls (before after : Session σ) : Prop :=
  after.calls = before.calls ∧ after.shouldRun = before.shouldRun

instance : Std.Refl (@SameCalls σ) := ⟨fun _ => ⟨rfl, rfl⟩⟩

instance : IsTrans (Session σ) SameCalls :=
  ⟨fun _ _ _ h hnext => ⟨hnext.1.trans h.1, hnext.2.trans h.2⟩⟩

theorem sameCalls_code (session : Session σ) (code : UInt32) :
    SameCalls session { session with rollingCode := code } := ⟨rfl, rfl⟩

/-- The decryption of a command leaves the calls and the flag. -/
theorem readPayload_keeps (command : RawCommand) :
    Keeps SameCalls (@readPayload σ command) := by
  rw [readPayload]
  split
  · refine .bind (.modify fun session => sameCalls_code session _) fun _ => ?_
    refine .bind .get fun session => ?_
    dsimp only
    split
    · exact .throw _
    · exact .pure _
  · exact .pure _

theorem dispatch_malformed (h : readPayload command session = .error failure after) :
    dispatch assertions handlers command session = .error failure after := by
  rw [dispatch, bind_error h]

theorem dispatch_unregistered (h : readPayload command session = .ok payload after)
    (hhandler : handlers command.id = none) :
    dispatch assertions handlers command session = .ok ⟨⟩ after := by
  rw [dispatch, bind_ok h, callHandler, hhandler]

/-- A command that a handler is registered for is recorded with the flag. -/
theorem dispatch_registered (h : readPayload command session = .ok payload after) {handler : Handler σ}
    (hhandler : handlers command.id = some handler) :
    ((dispatch assertions handlers command).final session).calls =
      session.calls ++ [⟨command.id, payload, session.shouldRun⟩] := by
  have hkeeps := readPayload_keeps command session
  rw [final_ok h] at hkeeps
  rw [dispatch, final_bind_ok h, Effect.final, callHandler, hhandler, ← hkeeps.1, ← hkeeps.2]
  dsimp only
  split
  · next hcalled =>
      split at hcalled
      · cases hcalled
      · cases hcalled
        rfl
  · next hcalled =>
      split at hcalled
      · cases hcalled
        rfl
      · cases hcalled

/-- Calls are never taken back. -/
theorem dispatch_calls_before (command : RawCommand) :
    Keeps (fun before after : Session σ => before.calls <+: after.calls)
      (dispatch assertions handlers command) := by
  intro session
  cases hread : readPayload command session with
  | error failure after =>
    have hkeeps := (readPayload_keeps command session).1
    rw [final_error hread] at hkeeps
    rw [final_error (dispatch_malformed hread), hkeeps]
  | ok payload after =>
    cases hhandler : handlers command.id with
    | none =>
      have hkeeps := (readPayload_keeps command session).1
      rw [final_ok hread] at hkeeps
      rw [final_ok (dispatch_unregistered hread hhandler), hkeeps]
    | some handler =>
      rw [dispatch_registered hread hhandler]
      exact List.prefix_append _ _

instance : Std.Refl (fun before after : Session σ => before.calls <+: after.calls) :=
  ⟨fun session => List.prefix_refl session.calls⟩

instance : IsTrans (Session σ) (fun before after : Session σ => before.calls <+: after.calls) :=
  ⟨fun _ _ _ h hnext => h.trans hnext⟩

theorem Session.CalledRunning.of_prefix (h : after.CalledRunning) (hcalls : session.calls <+: after.calls) :
    session.CalledRunning :=
  fun call hcall => h call (hcalls.subset hcall)

theorem forM_cons (command : RawCommand) (rest : List RawCommand) :
    (command :: rest).forM (dispatch assertions handlers) =
      dispatch assertions handlers command >>= fun _ => rest.forM (dispatch assertions handlers) := rfl

/-! ## The commands of a read -/

/-- The commands that are dispatched call no handler for an ended client, exactly if they call none
once the client is ended. -/
theorem calledRunning_forM (frames : List RawCommand) {session : Session σ} (h : session.CalledRunning) :
    ((frames.forM (dispatch assertions handlers)).final session).CalledRunning ↔
      (session.shouldRun = true → EndsLast assertions handlers frames session) ∧
        (session.shouldRun = false → Unhandled handlers frames session) := by
  induction frames generalizing session with
  | nil => exact iff_of_true h ⟨fun _ => trivial, fun _ => trivial⟩
  | cons command rest ih =>
    have hkeeps := readPayload_keeps command session
    rw [forM_cons, EndsLast, Unhandled]
    cases hread : readPayload command session with
    | error failure after =>
      rw [final_error hread] at hkeeps
      have hafter : after.CalledRunning := fun call hcall => h call (hkeeps.1 ▸ hcall)
      rw [final_bind_error (dispatch_malformed hread), dispatch_malformed hread]
      exact iff_of_true hafter ⟨fun _ => trivial, fun _ => trivial⟩
    | ok payload after =>
      rw [final_ok hread] at hkeeps
      have hafter : after.CalledRunning := fun call hcall => h call (hkeeps.1 ▸ hcall)
      cases hhandler : handlers command.id with
      | none =>
        rw [final_bind_ok (dispatch_unregistered hread hhandler),
          dispatch_unregistered hread hhandler, ih hafter, hkeeps.2]
        dsimp only
        rw [hkeeps.2]
        constructor
        · rintro ⟨hrunning, hended⟩
          exact ⟨fun _ => ⟨hrunning, hended⟩, fun hrun => ⟨rfl, hended hrun⟩⟩
        · rintro ⟨hrunning, hended⟩
          exact ⟨fun hrun => (hrunning hrun).1 hrun, fun hrun => (hended hrun).2⟩
      | some handler =>
        have hcalls := @dispatch_registered σ assertions handlers _ _ _ _ hread handler hhandler
        cases hrun : session.shouldRun with
        | false =>
          refine iff_of_false ?_ ?_
          · intro hall
            have hprefix := Keeps.after (dispatch assertions handlers command)
              (fun _ => Keeps.forM (@dispatch_calls_before σ assertions handlers) rest) session
            have hcalled := hall.of_prefix hprefix
              ⟨command.id, payload, session.shouldRun⟩
              (hcalls ▸ List.mem_append_right _ List.mem_cons_self)
            cases hrun.symm.trans hcalled
          · rintro ⟨-, hended⟩
            cases (hended rfl).1
        | true =>
          have hcalled : ((dispatch assertions handlers command).final session).CalledRunning := by
            intro call hcall
            rw [hcalls, List.mem_append, List.mem_singleton] at hcall
            obtain hcall | rfl := hcall
            · exact h call hcall
            · exact hrun
          cases hdispatch : dispatch assertions handlers command session with
          | error failure next =>
            rw [final_error hdispatch] at hcalled
            rw [final_bind_error hdispatch]
            exact iff_of_true hcalled ⟨fun _ => trivial, fun hended => Bool.noConfusion hended⟩
          | ok done next =>
            rw [final_ok hdispatch] at hcalled
            rw [final_bind_ok hdispatch, ih hcalled]
            constructor
            · exact fun hnext => ⟨fun _ => hnext, fun hended => Bool.noConfusion hended⟩
            · exact fun hnext => hnext.1 rfl

/-! ## Runs -/

/-- The calls that a read leaves are those of its commands. -/
theorem calledRunning_receive {connection : Connection σ} {data : List Byte} :
    (connection.receive assertions handlers data).session.CalledRunning ↔
      (((framing.scan (connection.readBuffer ++ data)).frames.forM (dispatch assertions handlers)).final
        connection.session).CalledRunning := by
  rw [Connection.receive, onClientData_apply, Framing.serve, bind_apply]
  cases hdispatched : (framing.scan (connection.readBuffer ++ data)).frames.forM
      (dispatch assertions handlers) connection.session with
  | error failure after =>
    rw [final_error hdispatched]
    cases failure with
    | exception => exact Iff.rfl
    | abort => exact Iff.rfl
  | ok done after =>
    rw [final_ok hdispatched]
    by_cases hcorrupt : (framing.front (framing.scan (connection.readBuffer ++ data)).rest).isCorrupt =
        true
    · rw [if_pos hcorrupt]
      exact Iff.rfl
    · rw [if_neg hcorrupt]
      exact Iff.rfl

theorem calledRunning_step {connection : Connection σ} (input : Input σ)
    (h : connection.session.CalledRunning) :
    (step assertions handlers connection input).session.CalledRunning ↔
      Timely assertions handlers connection input := by
  cases haborted : connection.aborted with
  | true =>
    have hstep : step assertions handlers connection input = connection := if_pos haborted
    rw [hstep]
    refine iff_of_true h ?_
    cases input with
    | received data => exact fun hnot => Bool.noConfusion (haborted.symm.trans hnot)
    | _ => trivial
  | false =>
    have hrunning : ¬connection.aborted = true := Bool.eq_false_iff.1 haborted
    cases input with
    | received data =>
      rw [step, if_neg hrunning]
      cases hreading : connection.reading with
      | false =>
        rw [if_neg Bool.false_ne_true]
        exact iff_of_true h fun _ hread => Bool.noConfusion (hreading.symm.trans hread)
      | true =>
        rw [if_pos rfl, calledRunning_receive, calledRunning_forM _ h]
        exact ⟨fun hframes _ _ => hframes, fun htimely => htimely haborted hreading⟩
    | failed =>
      rw [step, if_neg hrunning]
      split
      · exact iff_of_true h trivial
      · exact iff_of_true h trivial
    | ended =>
      rw [step, if_neg hrunning]
      exact iff_of_true h trivial
    | outside world codeSet =>
      rw [step, if_neg hrunning]
      exact iff_of_true h trivial

/-- In every state of a run no handler has been called for an ended client, exactly if along the run
no command is handled behind one whose handler ends the client, and none in a read that completes when
the client has been ended. -/
theorem ended_not_called (assertions : Bool) (handlers : UInt16 → Option (Handler σ)) (rollingCode : UInt32)
    (world : σ) (inputs : List (Input σ)) :
    let start : Connection σ := { session := { rollingCode := rollingCode, world := world } }
    Guarded (step assertions handlers) (Timely assertions handlers) start inputs ↔
      ∀ first second, inputs = first ++ second →
        (run (step assertions handlers) start first).session.CalledRunning :=
  @guarded_iff_prefixes (Connection σ) (Input σ) (step assertions handlers)
    (Timely assertions handlers) (fun connection => connection.session.CalledRunning)
    (fun connection => connection.session.CalledRunning)
    (fun _ input h => (calledRunning_step input h).2) (fun _ h => h)
    (fun _ input h => (calledRunning_step input h).1) _ inputs fun _ hcall => absurd hcall List.not_mem_nil

end Ending

/-! ## Two commands in one read -/

/-- A handler that disconnects the client. -/
def quit : Effect (Scope Unit) Unit Unit := modify fun scope => { scope with shouldRun := false }

def quitHandlers (id : UInt16) : Option (Handler Unit) := if id = 9 then some quit else none

def twice : List ClientCommand := [{ id := 9, payload := [] }, { id := 9, payload := [] }]

/-- The second command is handled for an ended client. -/
theorem quitRun_called :
    ¬(run (step true quitHandlers) { session := { world := () } }
      [.received (encode 0 twice)]).session.CalledRunning := by
  have hframable : Framable 0 twice := by decide
  have hframes := congrArg Framing.Scan.frames (scan_encode hframable)
  have hcalled : ¬(((encrypt 0 twice).forM (dispatch true quitHandlers)).final
      { world := () }).CalledRunning := by decide
  have hreceived := @calledRunning_receive Unit true quitHandlers { session := { world := () } }
    (encode 0 twice)
  rw [List.nil_append, hframes] at hreceived
  exact fun h => hcalled (hreceived.1 h)

end Alicia.Command
