import Alicia.Command.Encoding

/-!
# The exchange of commands

However the bytes of a client are cut into reads, the handlers are called with the commands that the
client has encoded, in their order.  The code of the client and that of the server have to be set at the
same command: a handler that sets the code of the server alone makes the next commands unreadable.
-/

namespace Alicia.Command

open Transition List

/-! ## Taking commands -/

variable {σ : Type}

/-- The calls that some commands lead to. -/
def calls (handlers : UInt16 → Option (Handler σ)) (commands : List ClientCommand) : List Call :=
  (commands.filter fun command => (handlers command.id).isSome).map fun command =>
    ⟨command.id, command.payload, true⟩

/-- The handler of a command does not end the client and leaves it the code of the command; where
assertions are compiled in, it reads all command data. -/
def Steady (assertions : Bool) (handlers : UInt16 → Option (Handler σ)) (command : ClientCommand) :
    Prop :=
  match handlers command.id with
  | none => command.codeSet = none
  | some handler =>
    ∀ session : Session σ, session.shouldRun = true →
      let scope := handled handler (session.roll command) command.payload
      scope.shouldRun = true ∧ scope.rollingCode = command.rolled session.rollingCode ∧
        (assertions = true → scope.commandData.cursor = scope.commandData.size)

theorem steady_of_some {assertions : Bool} {handlers : UInt16 → Option (Handler σ)}
    {command : ClientCommand} {handler : Handler σ} (hhandler : handlers command.id = some handler)
    (h : ∀ session : Session σ, session.shouldRun = true →
      let scope := handled handler (session.roll command) command.payload
      scope.shouldRun = true ∧ scope.rollingCode = command.rolled session.rollingCode ∧
        (assertions = true → scope.commandData.cursor = scope.commandData.size)) :
    Steady assertions handlers command := by
  rw [Steady, hhandler]
  exact h

/-- Some commands have been taken from a session on. -/
structure Took (handlers : UInt16 → Option (Handler σ)) (before : Session σ)
    (commands : List ClientCommand) (after : Session σ) : Prop where
  running : after.shouldRun = true
  rollingCode : after.rollingCode = finalCode before.rollingCode commands
  calls : after.calls = before.calls ++ calls handlers commands

variable {assertions : Bool} {handlers : UInt16 → Option (Handler σ)} {session : Session σ}

theorem Took.trans {middle after : Session σ} {first second : List ClientCommand}
    (h : Took handlers session first middle) (hnext : Took handlers middle second after) :
    Took handlers session (first ++ second) after := by
  refine ⟨hnext.running, ?_, ?_⟩
  · rw [hnext.rollingCode, h.rollingCode, finalCode_append]
  · rw [hnext.calls, h.calls, Command.calls, Command.calls, Command.calls, filter_append,
      map_append, append_assoc]

/-- A command is dispatched. -/
theorem dispatch_raw {command : ClientCommand} (hrun : session.shouldRun = true)
    (hsteady : Steady assertions handlers command) :
    ∃ after, dispatch assertions handlers (command.raw session.rollingCode) session = .ok ⟨⟩ after ∧
      Took handlers session [command] after := by
  rw [Steady] at hsteady
  rw [dispatch, Effect.bind_ok (readPayload_raw command session)]
  cases hhandler : handlers command.id with
  | none =>
    rw [hhandler] at hsteady
    have hcode : command.codeSet = none := hsteady
    have hunhandled : callHandler assertions handlers command.id command.payload
        (session.roll command) = .ok ⟨⟩ (session.roll command) := by
      rw [callHandler, hhandler]
    refine ⟨session.roll command, hunhandled, hrun, ?_, ?_⟩
    · exact (congrArg (fun codeSet => codeSet.getD (command.key session.rollingCode)) hcode).symm
    · rw [calls, filter_cons_of_neg (by rw [hhandler]; exact Bool.false_ne_true)]
      exact (append_nil _).symm
  | some handler =>
    rw [hhandler] at hsteady
    obtain ⟨hruns, hcode, hread⟩ := hsteady session hrun
    have hcalled : callHandler assertions handlers command.id command.payload
        (session.roll command) = .ok ⟨⟩ ((session.roll command).called command.id command.payload
          (handled handler (session.roll command) command.payload)) := by
      rw [callHandler, hhandler]
      refine if_neg ?_
      rintro ⟨hassertions, hunread⟩
      exact hunread (hread hassertions)
    refine ⟨_, hcalled, hruns, hcode, ?_⟩
    rw [calls, filter_cons_of_pos (by rw [hhandler]; rfl), Session.called, Session.roll, hrun]
    rfl

theorem forM_encrypt {commands : List ClientCommand} (hrun : session.shouldRun = true)
    (hsteady : ∀ command ∈ commands, Steady assertions handlers command) :
    ∃ after, (encrypt session.rollingCode commands).forM (dispatch assertions handlers) session =
      .ok ⟨⟩ after ∧ Took handlers session commands after := by
  induction commands generalizing session with
  | nil => exact ⟨session, rfl, hrun, rfl, (append_nil _).symm⟩
  | cons command commands ih =>
    obtain ⟨hcommand, hcommands⟩ := forall_mem_cons.1 hsteady
    obtain ⟨middle, hdispatched, htook⟩ := dispatch_raw hrun hcommand
    obtain ⟨after, hrest, htookRest⟩ := ih htook.running hcommands
    have hcons : (encrypt session.rollingCode (command :: commands)).forM
        (dispatch assertions handlers) =
          dispatch assertions handlers (command.raw session.rollingCode) >>= fun _ =>
            (encrypt (command.rolled session.rollingCode) commands).forM
              (dispatch assertions handlers) := rfl
    have hcode : command.rolled session.rollingCode = middle.rollingCode := htook.rollingCode.symm
    rw [hcons, Effect.bind_ok hdispatched, hcode]
    exact ⟨after, hrest, htook.trans htookRest⟩

/-- The bytes that are received with an input. -/
def Input.bytes : Input σ → List Byte
  | .received data => data
  | _ => []

/-- A read, or something else that neither ends the client nor sets its code. -/
def Input.IsQuiet : Input σ → Prop
  | .received _ | .outside _ none => True
  | .failed | .ended | .outside _ (some _) => False

/-- The first commands have been taken; what is buffered is a part of the next. -/
structure Follows (handlers : UInt16 → Option (Handler σ)) (start : Session σ)
    (whole more : List ClientCommand) (later : List Byte) (connection : Connection σ) : Prop where
  reading : connection.reading = true
  aborted : connection.aborted = false
  took : Took handlers start whole connection.session
  readBuffer : connection.readBuffer ++ later = encode (finalCode start.rollingCode whole) more
  unfinished : framing.front connection.readBuffer = .unfinished

variable {start : Session σ} {whole more : List ClientCommand} {later : List Byte}
  {connection : Connection σ}

theorem Follows.outside (h : Follows handlers start whole more later connection) (world : σ) :
    Follows handlers start whole more later
      (step assertions handlers connection (.outside world)) := by
  have hstep : step assertions handlers connection (.outside world) =
      { connection with session := { connection.session with world := world } } :=
    if_neg (by rw [h.aborted]; exact Bool.false_ne_true)
  rw [hstep]
  exact ⟨h.reading, h.aborted, ⟨h.took.running, h.took.rollingCode, h.took.calls⟩, h.readBuffer,
    h.unfinished⟩

theorem Follows.received {data : List Byte}
    (h : Follows handlers start whole more (data ++ later) connection)
    (hframable : Framable (finalCode start.rollingCode whole) more)
    (hsteady : ∀ command ∈ more, Steady assertions handlers command) :
    ∃ next rest, more = next ++ rest ∧ Follows handlers start (whole ++ next) rest later
      (step assertions handlers connection (.received data)) := by
  have hbytes : (connection.readBuffer ++ data) ++ later =
      encode (finalCode start.rollingCode whole) more := by
    rw [append_assoc, h.readBuffer]
  obtain ⟨next, rest, rfl, hframes, hrest, hfront⟩ := arrived hframable hbytes
  obtain ⟨after, hdispatched, htook⟩ := @forM_encrypt σ assertions handlers connection.session next
    h.took.running (forall_mem_append.1 hsteady).1
  rw [h.took.rollingCode, ← hframes] at hdispatched
  have hreceived : step assertions handlers connection (.received data) = _ :=
    (if_neg (by rw [h.aborted]; exact Bool.false_ne_true)).trans ((if_pos h.reading).trans
      (receive_of_ok hdispatched hfront))
  refine ⟨next, rest, rfl, ?_⟩
  rw [hreceived]
  refine ⟨htook.running, h.aborted, h.took.trans htook, ?_, hfront⟩
  rw [finalCode_append]
  exact hrest

theorem Follows.run {inputs : List (Input σ)}
    (h : Follows handlers start whole more (inputs.flatMap Input.bytes ++ later) connection)
    (hframable : Framable (finalCode start.rollingCode whole) more)
    (hsteady : ∀ command ∈ more, Steady assertions handlers command)
    (hquiet : ∀ input ∈ inputs, input.IsQuiet) :
    ∃ next rest, more = next ++ rest ∧ Follows handlers start (whole ++ next) rest later
      (run (step assertions handlers) connection inputs) := by
  induction inputs generalizing whole more connection with
  | nil => exact ⟨[], more, rfl, (append_nil whole).symm ▸ h⟩
  | cons input inputs ih =>
    obtain ⟨hinput, hinputs⟩ := forall_mem_cons.1 hquiet
    rw [run_cons]
    cases input with
    | received data =>
      rw [flatMap_cons, append_assoc] at h
      obtain ⟨next, rest, rfl, hnext⟩ := h.received hframable hsteady
      have hrest := hframable.append.2
      rw [← finalCode_append] at hrest
      obtain ⟨last, rest, rfl, hlast⟩ := ih hnext hrest (forall_mem_append.1 hsteady).2 hinputs
      rw [append_assoc] at hlast
      exact ⟨next ++ last, rest, (append_assoc ..).symm, hlast⟩
    | outside world codeSet =>
      cases codeSet with
      | none => exact ih (h.outside world) hframable hsteady hinputs
      | some code => exact hinput.elim
    | failed => exact hinput.elim
    | ended => exact hinput.elim

/-- However the bytes of the client are cut into reads, the handlers are called with the payloads that
were encoded, the code is the one behind them, and what is buffered is a part of the next command. -/
theorem command_framing {commands : List ClientCommand} {inputs : List (Input σ)}
    (hrun : start.shouldRun = true) (hframable : Framable start.rollingCode commands)
    (hsteady : ∀ command ∈ commands, Steady assertions handlers command)
    (hquiet : ∀ input ∈ inputs, input.IsQuiet)
    (hbytes : inputs.flatMap Input.bytes ++ later = encode start.rollingCode commands) :
    ∃ whole more, commands = whole ++ more ∧ (later = [] → more = []) ∧
      let connection := run (step assertions handlers) { session := start } inputs
      connection.session.calls = start.calls ++ calls handlers whole ∧
        connection.session.rollingCode = finalCode start.rollingCode whole ∧
        connection.readBuffer ++ later = encode (finalCode start.rollingCode whole) more ∧
        framing.front connection.readBuffer = .unfinished := by
  have hstart : Follows handlers start [] commands (inputs.flatMap Input.bytes ++ later)
      { session := start } :=
    ⟨rfl, rfl, ⟨hrun, rfl, (List.append_nil _).symm⟩, hbytes, rfl⟩
  obtain ⟨whole, more, rfl, hfollows⟩ := hstart.run hframable hsteady hquiet
  refine ⟨whole, more, rfl, ?_, hfollows.took.calls, hfollows.took.rollingCode, hfollows.readBuffer,
    hfollows.unfinished⟩
  rintro rfl
  have hbuffered := hfollows.readBuffer
  rw [List.append_nil] at hbuffered
  exact nothing_more hframable.append.2 (hbuffered ▸ hfollows.unfinished)

/-! ## A login -/

/-- Read all command data, and give the client the code that a login gives it. -/
def login : Effect (Scope Unit) Unit Unit :=
  modify fun scope =>
    { scope with
      rollingCode := 0
      commandData := { scope.commandData with cursor := scope.commandData.size } }

def readAll : Effect (Scope Unit) Unit Unit :=
  modify fun scope =>
    { scope with commandData := { scope.commandData with cursor := scope.commandData.size } }

/-- `AcCmdCLLogin` and another command. -/
def loginHandlers (id : UInt16) : Option (Handler Unit) :=
  if id = 7 then some login else if id = 8 then some readAll else none

theorem handled_login (session : Session Unit) (payload : List Byte) :
    handled login session payload = ⟨session.shouldRun, 0, (), ⟨payload, payload.length⟩⟩ := rfl

theorem handled_readAll (session : Session Unit) (payload : List Byte) :
    handled readAll session payload =
      ⟨session.shouldRun, session.rollingCode, (), ⟨payload, payload.length⟩⟩ := rfl

theorem loginHandlers_login : loginHandlers 7 = some login := if_pos rfl

theorem loginHandlers_readAll : loginHandlers 8 = some readAll :=
  (if_neg (by decide)).trans (if_pos rfl)

/-- A client that knows which code it has behind the login. -/
def informed : List ClientCommand :=
  [{ id := 7, payload := [1], codeSet := some 0 }, { id := 8, payload := [2, 3, 4, 5] }]

theorem command_framing_informed :
    ∃ whole more, informed = whole ++ more ∧ (([] : List Byte) = [] → more = []) ∧
      let connection := run (step true loginHandlers) { session := { world := () } }
        [.received ((encode 0 informed).take 5), .outside (), .received ((encode 0 informed).drop 5)]
      connection.session.calls = [] ++ calls loginHandlers whole ∧
        connection.session.rollingCode = finalCode 0 whole ∧
        connection.readBuffer ++ [] = encode (finalCode 0 whole) more ∧
        framing.front connection.readBuffer = .unfinished := by
  refine @command_framing Unit true loginHandlers { world := () } [] informed _ rfl (by decide) ?_ ?_
    (by decide)
  · intro command hcommand
    obtain rfl | rfl := List.mem_pair.1 hcommand
    · refine steady_of_some loginHandlers_login fun session hrun => ?_
      rw [handled_login]
      refine ⟨?_, ?_, ?_⟩
      · rw [Session.roll_shouldRun]
        exact hrun
      · rfl
      · exact fun _ => rfl
    · refine steady_of_some loginHandlers_readAll fun session hrun => ?_
      rw [handled_readAll]
      refine ⟨?_, ?_, ?_⟩
      · rw [Session.roll_shouldRun]
        exact hrun
      · rfl
      · exact fun _ => rfl
  · intro input hinput
    rcases List.mem_cons.1 hinput with rfl | hinput
    · trivial
    · obtain rfl | rfl := List.mem_pair.1 hinput
      · trivial
      · trivial

/-- A client that keeps rolling its code behind the login. -/
def uninformed : List ClientCommand :=
  [{ id := 7, payload := [1] }, { id := 8, payload := [2, 3, 4, 5] }]

/-- No handler ends the client, and yet the second command is called with another payload. -/
theorem uninformed_misread :
    Framable 0 uninformed ∧
      (∀ (id : UInt16), ∀ handler ∈ loginHandlers id, ∀ (session : Session Unit) (payload : List Byte),
        (handled handler session payload).shouldRun = session.shouldRun) ∧
      (step true loginHandlers { session := { world := () } }
        (.received (encode 0 uninformed))).session.calls ≠ calls loginHandlers uninformed := by
  have hframable : Framable 0 uninformed := by decide
  refine ⟨hframable, ?_, ?_⟩
  · intro id handler hhandler session payload
    rw [loginHandlers] at hhandler
    split at hhandler
    · cases hhandler
      rfl
    · split at hhandler
      · cases hhandler
        rfl
      · cases hhandler
  · have hscan := scan_encode hframable
    have hcompletes : ((encrypt 0 uninformed).forM (dispatch true loginHandlers)).Completes
        { world := () } := by decide +kernel
    have hcalls : (((encrypt 0 uninformed).forM (dispatch true loginHandlers)).final
        { world := () }).calls ≠ calls loginHandlers uninformed := by decide +kernel
    obtain ⟨done, after, hafter⟩ := Effect.completes_iff.1 hcompletes
    rw [Effect.final_ok hafter] at hcalls
    have hdispatched : (framing.scan (encode 0 uninformed)).frames.forM (dispatch true loginHandlers)
        { world := () } = .ok ⟨⟩ after := by
      rw [hscan]
      exact hafter
    have hfront : framing.front (framing.scan (encode 0 uninformed)).rest = .unfinished := by
      rw [hscan]
      rfl
    have hreceived := @receive_of_ok Unit true loginHandlers { session := { world := () } }
      (encode 0 uninformed) after hdispatched hfront
    have hstep : step true loginHandlers { session := { world := () } } (.received (encode 0 uninformed)) =
        Connection.receive true loginHandlers { session := { world := () } } (encode 0 uninformed) := rfl
    rw [hstep, hreceived]
    exact hcalls

end Alicia.Command
