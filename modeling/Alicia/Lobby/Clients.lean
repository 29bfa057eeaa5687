import Alicia.Lobby.Login
import Mathlib.Data.List.Nodup

/-!
# Client numbers and waiting tasks

The server numbers its clients in sequence, so a number is used for one connection only.  The facts
below hold of every lobby and do not depend on what the clients send.
-/

namespace Alicia.Lobby

open List Std
open Data (Uid invalidUid)

/-- The client that a task is about. -/
def Task.clientId? : Task → Option ClientId
  | .connect clientId => some clientId
  | .login clientId _ _ => some clientId
  | .disconnect clientId _ _ => some clientId
  | .other => none

def Task.connecting? : Task → Option ClientId
  | .connect clientId => some clientId
  | _ => none

def Task.disconnecting? : Task → Option ClientId
  | .disconnect clientId _ _ => some clientId
  | _ => none

theorem runTask_scheduler (task : Task) (lobby : World) (scheduler : Scheduler Task) :
    { runTask task lobby with scheduler := scheduler } =
      runTask task { lobby with scheduler := scheduler } := by
  cases task with
  | connect clientId => rfl
  | login clientId userName userToken =>
    simp only [runTask, queueClientLogin]
    cases lobby.clientLogins[clientId]? <;> rfl
  | disconnect clientId isAuthenticated userName => cases isAuthenticated <;> rfl
  | other => rfl

/-- What a tick of the scheduler does: it erases one of the waiting tasks and runs it, or none. -/
theorem tickScheduler_cases (lobby : World) :
    (nextTask lobby = none ∧ ∃ scheduler : Scheduler Task,
      scheduler.tasks = lobby.scheduler.tasks ∧
      tickScheduler lobby = { lobby with scheduler := scheduler }) ∨
    ∃ task before after, nextTask lobby = some task ∧
      lobby.scheduler.tasks = before ++ task :: after ∧ ∃ scheduler : Scheduler Task,
      scheduler.tasks = before ++ after ∧
      tickScheduler lobby = runTask task { lobby with scheduler := scheduler } := by
  unfold tickScheduler nextTask
  cases htask : (lobby.scheduler.select lobby.clock).current? with
  | none =>
    exact .inl ⟨rfl, lobby.scheduler.select lobby.clock, Scheduler.tasks_select _ _, by
      simp only [htask]⟩
  | some task =>
    obtain ⟨before, after, htasks, herase⟩ := Scheduler.tasks_eq_of_current htask
    rw [Scheduler.tasks_select] at htasks
    exact .inr ⟨task, before, after, rfl, htasks, _, herase, by
      simp only [htask, ← runTask_scheduler]⟩

variable {lobby : World} {clientId : ClientId}

/-- A client with a login context needs no new one. -/
theorem ensureLogin_of_mem (h : clientId ∈ lobby.clientLogins) :
    ensureLogin clientId lobby = lobby := by
  have hkeep : lobby.clientLogins.insertIfNew clientId {} = lobby.clientLogins := by
    apply ExtTreeMap.ext_getElem?
    intro other
    grind
  unfold ensureLogin
  rw [hkeep]

theorem getElem?_loginOf (h : clientId ∈ lobby.clientLogins) :
    lobby.clientLogins[clientId]? = some (loginOf lobby clientId) := by
  unfold loginOf
  grind

/-- The client takes the events of the list as one answer at most. -/
def AnswersOnce (clientId : ClientId) (events : List Event) : Prop :=
  events = [] ∨ ∃ reply, events = [.answered clientId reply]

/-- What the acceptance of a user does. -/
theorem acceptUser_eq (view : View) (clientId : ClientId) (userName : Text) (characterUid : Uid)
    (lobby : World) : ∃ answers, AnswersOnce clientId answers ∧
    acceptUser view clientId userName characterUid lobby = { lobby with
      clients := lobby.clients.modify clientId fun context =>
        { context with isAuthenticated := true }
      clientLogins :=
        if view.hasAddress clientId then lobby.clientLogins.erase clientId
        else lobby.clientLogins
      userInstances := lobby.userInstances.insert userName ⟨userName, characterUid⟩
      charactersForcedIntoCreator := lobby.charactersForcedIntoCreator.erase characterUid
      log := lobby.log ++ .accepted clientId userName :: answers } := by
  refine ⟨acceptAnswer view clientId (characterUid ∈ lobby.charactersForcedIntoCreator ||
    characterUid = invalidUid) lobby, ?_, ?_⟩
  · unfold acceptAnswer AnswersOnce
    grind
  · simp only [acceptUser, createInstance, acceptLogin, record, append_assoc,
      cons_append, nil_append]
    rfl

/-- The name and the token of a Login command pass the checks of its handler. -/
def PassesChecks (lobby : World) (loginId authKey : Text) : Prop :=
  loginId ≠ [] ∧ authKey ≠ [] ∧ isNameInUse lobby loginId = false

instance (lobby : World) (loginId authKey : Text) :
    Decidable (PassesChecks lobby loginId authKey) := instDecidableAnd

/-- No authenticated client has a name that is not in use. -/
theorem PassesChecks.userName_ne {loginId authKey : Text} (h : PassesChecks lobby loginId authKey)
    {context : ClientContext} (hclient : lobby.clients[clientId]? = some context)
    (htrue : context.isAuthenticated = true) :
    context.userName ≠ loginId := by
  intro hsame
  have hentry : (clientId, context) ∈ lobby.clients.toList :=
    ExtTreeMap.mem_toList_iff_getElem?_eq_some.2 hclient
  have hfree := h.2.2
  rw [isNameInUse, any_eq_false] at hfree
  exact hfree _ hentry (by simp [hsame, htrue])

/-- What the handler of a Login command does: it refuses the command, it throws because the client
has no context, or it renames the client and queues the login. -/
theorem handleLogin_cases (clientId : ClientId) (loginId authKey : Text) (lobby : World) :
    (¬PassesChecks lobby loginId authKey ∧ ∃ reason,
      handleLogin clientId loginId authKey lobby =
        record [.received clientId, .answered clientId (.cancel reason)] lobby) ∨
    (lobby.clients[clientId]? = none ∧
      handleLogin clientId loginId authKey lobby = record [.received clientId] lobby) ∨
    PassesChecks lobby loginId authKey ∧ ∃ context, lobby.clients[clientId]? = some context ∧
      handleLogin clientId loginId authKey lobby =
        record [.received clientId, .submitted clientId loginId authKey]
          (queueTask (.login clientId loginId authKey) { lobby with
            clients := lobby.clients.insert clientId { context with userName := loginId } }) := by
  have happend : ∀ event next, record [event] (record [.received clientId] next) =
      record [.received clientId, event] next := by
    intro event next
    simp [record]
  unfold handleLogin checkLogin sendLoginCancel
  by_cases hempty : loginId = [] ∨ authKey = []
  · rw [if_pos hempty, happend]
    exact .inl ⟨fun h => hempty.elim h.1 h.2.1, _, rfl⟩
  rw [if_neg hempty]
  by_cases hused : isNameInUse (record [.received clientId] lobby) loginId = true
  · rw [if_pos hused, happend]
    exact .inl ⟨fun h => absurd hused (Bool.eq_false_iff.1 h.2.2), _, rfl⟩
  rw [if_neg hused]
  cases hclient : lobby.clients[clientId]? with
  | none =>
    refine .inr (.inl ⟨rfl, ?_⟩)
    simp only [record, hclient]
  | some context =>
    have hpasses : PassesChecks lobby loginId authKey :=
      ⟨fun h => hempty (.inl h), fun h => hempty (.inr h), Bool.eq_false_iff.2 hused⟩
    refine .inr (.inr ⟨hpasses, context, rfl, ?_⟩)
    simp only [record, hclient, queueTask, append_assoc, cons_append, nil_append]

/-- Every client number that the lobby knows was given out, a client connects once and disconnects
once, and the director hears of a connection before anything else about it. -/
structure Numbered (lobby : World) : Prop where
  clients : ∀ clientId ∈ lobby.clients, clientId < lobby.nextClientId
  logins : ∀ clientId ∈ lobby.clientLogins, clientId < lobby.nextClientId
  requests : ∀ clientId ∈ lobby.loginRequestQueue, clientId < lobby.nextClientId
  responses : ∀ clientId ∈ lobby.loginResponseQueue, clientId < lobby.nextClientId
  tasks : ∀ task ∈ lobby.scheduler.tasks, ∀ clientId ∈ task.clientId?,
    clientId < lobby.nextClientId
  connectsOnce : (lobby.scheduler.tasks.filterMap Task.connecting?).Nodup
  connectsFirst : ∀ clientId, .connect clientId ∈ lobby.scheduler.tasks →
    clientId ∉ lobby.clientLogins ∧ clientId ∉ lobby.loginRequestQueue ∧
      clientId ∉ lobby.loginResponseQueue
  disconnectsOnce : (lobby.scheduler.tasks.filterMap Task.disconnecting?).Nodup
  disconnected : ∀ clientId isAuthenticated userName,
    .disconnect clientId isAuthenticated userName ∈ lobby.scheduler.tasks →
      clientId ∉ lobby.clients

attribute [grind] Task.clientId? Task.connecting? Task.disconnecting?

theorem processLoginResponse_numbered (view : View) (h : Numbered lobby) :
    Numbered (processLoginResponse view lobby).1 := by
  unfold processLoginResponse
  cases hqueue : lobby.loginResponseQueue with
  | nil => exact h
  | cons clientId rest =>
    obtain ⟨hclients, hlogins, hrequests, hresponses, htasks, honce, hfirst, hdonce, hgone⟩ := h
    dsimp only
    generalize loginOf lobby clientId = context
    cases responseStep view lobby context <;>
      simp only [applyResponse, ensureLogin, setLogin, popResponse, rejectLogin, record,
        acceptUser, createInstance, acceptLogin, hqueue] <;>
      constructor <;> grind

theorem processLoginRequest_numbered (view : View) (h : Numbered lobby) :
    Numbered (processLoginRequest view lobby).1 := by
  unfold processLoginRequest
  cases hqueue : lobby.loginRequestQueue with
  | nil => exact h
  | cons clientId rest =>
    obtain ⟨hclients, hlogins, hrequests, hresponses, htasks, honce, hfirst, hdonce, hgone⟩ := h
    dsimp only
    generalize loginOf lobby clientId = context
    cases requestStep view context <;>
      simp only [applyRequest, ensureLogin, setLogin, popRequest, rejectLogin, record, hqueue] <;>
      constructor <;> grind

theorem pollVerdicts_numbered (h : Numbered lobby) :
    Numbered (pollVerdicts lobby) := by
  unfold pollVerdicts
  split
  · exact { h with
      logins := fun clientId hc => h.logins clientId (by simpa using hc)
      connectsFirst := fun clientId hc => by simpa using h.connectsFirst clientId hc }
  · exact h

/-- Fewer waiting tasks do no harm. -/
theorem Numbered.of_sublist (h : Numbered lobby) {scheduler : Scheduler Task}
    (hsub : scheduler.tasks.Sublist lobby.scheduler.tasks) :
    Numbered { lobby with scheduler := scheduler } :=
  { h with
    tasks := fun task htask => h.tasks task (hsub.subset htask)
    connectsOnce := h.connectsOnce.sublist (hsub.filterMap _)
    connectsFirst := fun clientId hc => h.connectsFirst clientId (hsub.subset hc)
    disconnectsOnce := h.disconnectsOnce.sublist (hsub.filterMap _)
    disconnected := fun clientId isAuthenticated userName hd =>
      h.disconnected clientId isAuthenticated userName (hsub.subset hd) }

theorem Numbered.not_mem_of_connect (h : Numbered lobby) {before after : List Task}
    (htasks : lobby.scheduler.tasks = before ++ .connect clientId :: after) :
    .connect clientId ∉ before ++ after := by
  have honce := h.connectsOnce
  have hid : Task.connecting? (.connect clientId) = some clientId := rfl
  rw [htasks, filterMap_append, filterMap_cons_some hid, nodup_middle,
    ← filterMap_append, nodup_cons] at honce
  exact fun hc => honce.1 (mem_filterMap.2 ⟨_, hc, rfl⟩)

theorem Numbered.not_mem_of_disconnect (h : Numbered lobby) {isAuthenticated : Bool}
    {userName : Text} {before after : List Task} (htasks : lobby.scheduler.tasks =
      before ++ .disconnect clientId isAuthenticated userName :: after) (other : Bool)
    (otherName : Text) :
    .disconnect clientId other otherName ∉ before ++ after := by
  have honce := h.disconnectsOnce
  have hid : Task.disconnecting? (.disconnect clientId isAuthenticated userName) =
      some clientId := rfl
  rw [htasks, filterMap_append, filterMap_cons_some hid, nodup_middle,
    ← filterMap_append, nodup_cons] at honce
  exact fun hc => honce.1 (mem_filterMap.2 ⟨_, hc, rfl⟩)

theorem runTask_numbered {task : Task} (h : Numbered lobby)
    (hid : ∀ clientId ∈ task.clientId?, clientId < lobby.nextClientId)
    (hconnect : ∀ clientId, task = .connect clientId →
      .connect clientId ∉ lobby.scheduler.tasks) :
    Numbered (runTask task lobby) := by
  cases task with
  | connect clientId =>
    refine { h with logins := ?_, connectsFirst := ?_ }
    · intro other hother
      simp only [runTask, queueClientConnect, ExtTreeMap.mem_insertIfNew,
        LawfulEqCmp.compare_eq_iff_eq] at hother
      rcases hother with rfl | hother
      · exact hid clientId rfl
      · exact h.logins other hother
    · intro other hother
      have hne : clientId ≠ other := by
        rintro rfl
        exact hconnect clientId rfl hother
      simpa [runTask, queueClientConnect, hne] using h.connectsFirst other hother
  | login clientId userName userToken =>
    simp only [runTask, queueClientLogin]
    cases hlogin : lobby.clientLogins[clientId]? with
    | none => exact h
    | some context =>
      have hmem : clientId ∈ lobby.clientLogins :=
        ExtTreeMap.mem_iff_isSome_getElem?.2 (by simp [hlogin])
      refine { h with logins := ?_, requests := ?_, connectsFirst := ?_ }
      · intro other hother
        simp only [setLogin, ExtTreeMap.mem_insert,
          LawfulEqCmp.compare_eq_iff_eq] at hother
        rcases hother with rfl | hother
        · exact hid clientId rfl
        · exact h.logins other hother
      · intro other hother
        rcases mem_append.1 hother with hother | hother
        · exact h.requests other hother
        · exact hid other (by simpa using mem_singleton.1 hother ▸ rfl)
      · intro other hother
        have hfirst := h.connectsFirst other hother
        have hne : clientId ≠ other := by
          rintro rfl
          exact hfirst.1 hmem
        simpa [setLogin, hne, Ne.symm hne] using hfirst
  | disconnect clientId isAuthenticated userName =>
    have hcleared : Numbered (queueClientDisconnect clientId lobby) := by
      refine { h with logins := ?_, requests := ?_, responses := ?_, connectsFirst := ?_ }
      · intro other hother
        exact h.logins other (ExtTreeMap.mem_of_mem_erase hother)
      · exact fun other hother => h.requests other (mem_of_mem_filter hother)
      · exact fun other hother => h.responses other (mem_of_mem_filter hother)
      · intro other hother
        obtain ⟨hlogin, hrequest, hresponse⟩ := h.connectsFirst other hother
        exact ⟨fun hc => hlogin (ExtTreeMap.mem_of_mem_erase hc),
          fun hc => hrequest (mem_of_mem_filter hc),
          fun hc => hresponse (mem_of_mem_filter hc)⟩
    cases isAuthenticated with
    | false => exact hcleared
    | true => exact { hcleared with }
  | other => exact h

theorem tickScheduler_numbered (h : Numbered lobby) :
    Numbered (tickScheduler lobby) := by
  obtain ⟨-, scheduler, htasks, heq⟩ | ⟨task, before, after, -, htasks, scheduler, hrest, heq⟩ :=
    tickScheduler_cases lobby
  · rw [heq]
    exact h.of_sublist (htasks ▸ List.Sublist.refl _)
  · rw [heq]
    have hsub : scheduler.tasks.Sublist lobby.scheduler.tasks := by
      rw [htasks, hrest]
      exact List.Sublist.append_left (sublist_cons_self _ _) _
    refine runTask_numbered (h.of_sublist hsub) (h.tasks task (by simp [htasks])) ?_
    rintro clientId rfl
    rw [hrest]
    exact h.not_mem_of_connect htasks

theorem tickPhase_numbered (view : View) (h : Numbered lobby) :
    Numbered (tickPhase view lobby) := by
  unfold tickPhase
  cases lobby.phase with
  | response => exact { processLoginResponse_numbered view h with }
  | request => exact { processLoginRequest_numbered view h with }
  | verdicts => exact { pollVerdicts_numbered h with }
  | jobs => exact { tickScheduler_numbered h with }

theorem nodup_append_toList {ids : List ClientId} {clientId : Option ClientId} (h : ids.Nodup)
    (hnew : ∀ c ∈ clientId, c ∉ ids) : (ids ++ clientId.toList).Nodup := by
  cases clientId with
  | none => simpa using h
  | some c =>
    refine nodup_append.2 ⟨h, nodup_singleton c, ?_⟩
    rintro a ha b hb rfl
    rw [Option.toList_some, mem_singleton] at hb
    exact hnew a (hb ▸ rfl) ha

/-- A new task about a client that may be the subject of such a task. -/
theorem Numbered.queueTask (h : Numbered lobby) (task : Task)
    (hid : ∀ clientId ∈ task.clientId?, clientId < lobby.nextClientId)
    (hconnect : ∀ clientId, task = .connect clientId →
      .connect clientId ∉ lobby.scheduler.tasks ∧ clientId ∉ lobby.clientLogins ∧
        clientId ∉ lobby.loginRequestQueue ∧ clientId ∉ lobby.loginResponseQueue)
    (hdisconnect : ∀ clientId isAuthenticated userName,
      task = .disconnect clientId isAuthenticated userName → clientId ∉ lobby.clients ∧
        ∀ other otherName, .disconnect clientId other otherName ∉ lobby.scheduler.tasks) (due : Nat)
    : Numbered { lobby with scheduler := lobby.scheduler.queue task due } := by
  have hmem : ∀ waiting, waiting ∈ (lobby.scheduler.queue task due).tasks ↔
      waiting ∈ lobby.scheduler.tasks ∨ waiting = task := by simp
  refine { h with
    tasks := ?_, connectsOnce := ?_, connectsFirst := ?_, disconnectsOnce := ?_
    disconnected := ?_ }
  · intro waiting hwaiting
    rcases (hmem waiting).1 hwaiting with hwaiting | rfl
    · exact h.tasks waiting hwaiting
    · exact hid
  · rw [Scheduler.filterMap_tasks_queue]
    refine nodup_append_toList h.connectsOnce fun clientId hc => ?_
    cases task with
    | connect c =>
      cases hc
      rintro hids
      obtain ⟨waiting, hwaiting, hsome⟩ := mem_filterMap.1 hids
      cases waiting with
      | connect d =>
        cases hsome
        exact (hconnect clientId rfl).1 hwaiting
      | login | disconnect | other => cases hsome
    | login | disconnect | other => cases hc
  · intro clientId hc
    rcases (hmem _).1 hc with hc | hc
    · exact h.connectsFirst clientId hc
    · exact (hconnect clientId hc.symm).2
  · rw [Scheduler.filterMap_tasks_queue]
    refine nodup_append_toList h.disconnectsOnce fun clientId hc => ?_
    cases task with
    | disconnect c isAuthenticated userName =>
      cases hc
      rintro hids
      obtain ⟨waiting, hwaiting, hsome⟩ := mem_filterMap.1 hids
      cases waiting with
      | disconnect d a u =>
        cases hsome
        exact (hdisconnect clientId isAuthenticated userName rfl).2 a u hwaiting
      | login | connect | other => cases hsome
    | login | connect | other => cases hc
  · intro clientId isAuthenticated userName hd
    rcases (hmem _).1 hd with hd | hd
    · exact h.disconnected clientId isAuthenticated userName hd
    · exact (hdisconnect clientId isAuthenticated userName hd.symm).1

theorem handleClientConnected_numbered (h : Numbered lobby) :
    Numbered (handleClientConnected lobby) := by
  have hgrown : Numbered { lobby with
      nextClientId := lobby.nextClientId + 1
      clients := lobby.clients.insertIfNew lobby.nextClientId {} } := by
    obtain ⟨hclients, hlogins, hrequests, hresponses, htasks, honce, hfirst, hdonce, hgone⟩ := h
    have hnew : ∀ a u, .disconnect lobby.nextClientId a u ∉ lobby.scheduler.tasks := by
      intro a u hmem
      exact absurd (htasks _ hmem _ rfl) (Nat.lt_irrefl _)
    constructor <;> grind
  refine hgrown.queueTask _ ?_ ?_ ?_ lobby.clock
  · intro clientId hc
    cases hc
    exact Nat.lt_succ_self _
  · intro clientId hc
    cases hc
    refine ⟨fun hmem => ?_, fun hmem => ?_, fun hmem => ?_, fun hmem => ?_⟩
    · exact absurd (h.tasks _ hmem _ rfl) (Nat.lt_irrefl _)
    · exact absurd (h.logins _ hmem) (Nat.lt_irrefl _)
    · exact absurd (h.requests _ hmem) (Nat.lt_irrefl _)
    · exact absurd (h.responses _ hmem) (Nat.lt_irrefl _)
  · intro clientId isAuthenticated userName hd
    cases hd

theorem handleClientDisconnected_numbered (clientId : ClientId) (h : Numbered lobby) :
    Numbered (handleClientDisconnected clientId lobby) := by
  unfold handleClientDisconnected
  cases hclient : lobby.clients[clientId]? with
  | none => exact h
  | some context =>
    have hmem : clientId ∈ lobby.clients :=
      ExtTreeMap.mem_iff_isSome_getElem?.2 (by simp [hclient])
    have herased : Numbered { lobby with clients := lobby.clients.erase clientId } := { h with
      clients := fun other hother => h.clients other (ExtTreeMap.mem_of_mem_erase hother)
      disconnected := fun other a u hd hother =>
        h.disconnected other a u hd (ExtTreeMap.mem_of_mem_erase hother) }
    refine herased.queueTask _ ?_ ?_ ?_ lobby.clock
    · intro other hother
      cases hother
      exact h.clients clientId hmem
    · intro other hother
      cases hother
    · intro other isAuthenticated userName hother
      cases hother
      exact ⟨by simp, fun a u hd => h.disconnected clientId a u hd hmem⟩

theorem handleLogin_numbered (clientId : ClientId) (loginId authKey : Text) (h : Numbered lobby) :
    Numbered (handleLogin clientId loginId authKey lobby) := by
  obtain ⟨-, reason, heq⟩ | ⟨-, heq⟩ | ⟨-, context, hclient, heq⟩ :=
    handleLogin_cases clientId loginId authKey lobby
  · rw [heq]
    exact { h with }
  · rw [heq]
    exact { h with }
  · rw [heq]
    have hmem : clientId ∈ lobby.clients :=
      ExtTreeMap.mem_iff_isSome_getElem?.2 (by simp [hclient])
    have hrenamed : Numbered { lobby with
        clients := lobby.clients.insert clientId { context with userName := loginId } } := by
      have hkeys : ∀ other, other ∈ lobby.clients.insert clientId
          { context with userName := loginId } → other ∈ lobby.clients := by
        intro other hother
        simp only [ExtTreeMap.mem_insert, LawfulEqCmp.compare_eq_iff_eq] at hother
        exact hother.elim (· ▸ hmem) id
      exact { h with
        clients := fun other hother => h.clients other (hkeys other hother)
        disconnected := fun other a u hd hother => h.disconnected other a u hd (hkeys other hother) }
    have hqueued := hrenamed.queueTask (.login clientId loginId authKey)
      (by rintro other ⟨⟩; exact h.clients clientId hmem) (by rintro other ⟨⟩)
      (by rintro other a u ⟨⟩) lobby.clock
    exact { hqueued with }

theorem step_numbered (lobby : World) (input : Input) (h : Numbered lobby) :
    Numbered (step lobby input) := by
  cases input with
  | connect => exact handleClientConnected_numbered h
  | login clientId loginId authKey => exact handleLogin_numbered clientId loginId authKey h
  | disconnect clientId => exact handleClientDisconnected_numbered clientId h
  | authenticate answer =>
    simp only [step, authenticate]
    split <;> exact { h with }
  | director view => exact tickPhase_numbered view h
  | schedule due =>
    exact h.queueTask .other (by rintro _ ⟨⟩) (by rintro _ ⟨⟩) (by rintro _ _ _ ⟨⟩) due
  | forceIntoCreator characterUid force => exact { h with }
  | elapse duration => exact { h with }

theorem initial_numbered : Numbered {} := by
  constructor <;> simp

end Alicia.Lobby
