import Alicia.Lobby.Authenticity

/-!
# User instances and sessions

A user instance is created when the director accepts a login, and erased by the job that the network
handler queues when an authenticated client disconnects.  The job takes the flag and the user name
from the client context as they are at the disconnect.  `Tracked` is the exact condition under which
the instances of a run match its sessions.
-/

namespace Alicia.Lobby

open Transition

/-- The client is connected and authenticated under the user name, or it was when it disconnected
and the director has not heard of that yet. -/
def Session (lobby : World) (clientId : ClientId) (userName : Text) : Prop :=
  (∃ context, lobby.clients[clientId]? = some context ∧ context.isAuthenticated = true ∧
    context.userName = userName) ∨
  .disconnect clientId true userName ∈ lobby.scheduler.tasks

/-- Every user instance belongs to exactly one session, and every session has its instance. -/
structure SessionsMatch (lobby : World) : Prop where
  owned : ∀ userName ∈ lobby.userInstances, ∃ clientId, Session lobby clientId userName ∧
    ∀ other, Session lobby other userName → other = clientId
  kept : ∀ clientId userName, Session lobby clientId userName → userName ∈ lobby.userInstances

variable {lobby : World} {context : LoginContext}

/-- A user without a session is not refused as a duplicate. -/
theorem SessionsMatch.not_duplicated (h : SessionsMatch lobby) {view : View}
    (hfree : ∀ clientId, ¬Session lobby clientId context.userName) :
    responseStep view lobby context ≠ .rejectDuplicated := by
  have hgone : context.userName ∉ lobby.userInstances := fun hmem =>
    have ⟨clientId, hsession, _⟩ := h.owned _ hmem
    hfree clientId hsession
  unfold responseStep
  grind

theorem not_mem_of_accept {view : View} {characterUid : Data.Uid}
    (haccept : responseStep view lobby context = .accept characterUid) :
    context.userName ∉ lobby.userInstances := by
  unfold responseStep at haccept
  grind

/-- A user with a session is not logged in a second time. -/
theorem SessionsMatch.not_twice (h : SessionsMatch lobby) {view : View} {characterUid : Data.Uid}
    (haccept : responseStep view lobby context = .accept characterUid) (clientId : ClientId) :
    ¬Session lobby clientId context.userName :=
  fun hsession => not_mem_of_accept haccept (h.kept clientId _ hsession)

def ResponseStep.accepts : ResponseStep → Bool
  | .accept _ => true
  | _ => false

/-- The client that the director is about to accept is connected, and the name in its client context
is the name that is accepted. -/
def AcceptsPresent (view : View) (lobby : World) (clientId : ClientId) : Prop :=
  (responseStep view lobby (loginOf lobby clientId)).accepts = true →
    lobby.clients[clientId]?.map ClientContext.userName = some (loginOf lobby clientId).userName

/-- The condition under which a step keeps instances and sessions together. -/
def Tracked (lobby : World) : Input → Prop
  | .login clientId loginId authKey => BeforeAccept lobby clientId loginId authKey
  | .director view => lobby.phase = .response →
      ∀ clientId ∈ lobby.loginResponseQueue.head?, AcceptsPresent view lobby clientId
  | _ => True

instance (view : View) (lobby : World) (clientId : ClientId) :
    Decidable (AcceptsPresent view lobby clientId) := instDecidableForall

instance (lobby : World) : (input : Input) → Decidable (Tracked lobby input)
  | .login clientId loginId authKey =>
    inferInstanceAs (Decidable (BeforeAccept lobby clientId loginId authKey))
  | .director _ => @instDecidableForall _ _ _ (Option.decidableForallMem _)
  | .connect | .disconnect _ | .authenticate _ | .schedule _ | .forceIntoCreator _ _ | .elapse _ =>
    isTrue trivial

/-- Steps that change neither the instances nor the sessions. -/
structure SameSessions (before after : World) : Prop where
  sessions : ∀ clientId userName, Session after clientId userName ↔
    Session before clientId userName
  userInstances : after.userInstances = before.userInstances

theorem SessionsMatch.of_same {before after : World} (h : SessionsMatch before)
    (hsame : SameSessions before after) : SessionsMatch after where
  owned := by
    intro userName hmem
    rw [hsame.userInstances] at hmem
    obtain ⟨clientId, hsession, honly⟩ := h.owned userName hmem
    exact ⟨clientId, (hsame.sessions _ _).2 hsession,
      fun other hother => honly other ((hsame.sessions _ _).1 hother)⟩
  kept := by
    intro clientId userName hsession
    rw [hsame.userInstances]
    exact h.kept clientId userName ((hsame.sessions _ _).1 hsession)

theorem SameSessions.of_eq {before after : World} (hclients : after.clients = before.clients)
    (htasks : ∀ clientId userName, .disconnect clientId true userName ∈ after.scheduler.tasks ↔
      .disconnect clientId true userName ∈ before.scheduler.tasks)
    (hinstances : after.userInstances = before.userInstances) : SameSessions before after :=
  ⟨fun _ _ => by unfold Session; rw [hclients, htasks], hinstances⟩

/-! ## The director -/

/-- An acceptance keeps instances and sessions together exactly when the client is still there
under the accepted name. -/
theorem acceptUser_sessions (view : View) (clientId : ClientId) {userName : Text}
    (characterUid : Data.Uid) (h : SessionsMatch lobby) (hfree : userName ∉ lobby.userInstances) :
    SessionsMatch (acceptUser view clientId userName characterUid lobby) ↔
      lobby.clients[clientId]?.map ClientContext.userName = some userName := by
  obtain ⟨answers, -, heq⟩ := acceptUser_eq view clientId userName characterUid lobby
  have hnone : ∀ other, ¬Session lobby other userName :=
    fun other hsession => hfree (h.kept other userName hsession)
  rw [heq]
  constructor
  · intro hafter
    obtain ⟨owner, hsession, -⟩ := hafter.owned userName (by simp)
    obtain ⟨context, hcontext, htrue, hname⟩ | htask := hsession
    · by_cases howner : owner = clientId
      · subst howner
        simp only [Std.ExtTreeMap.getElem?_modify] at hcontext
        grind
      · refine absurd (.inl ⟨context, ?_, htrue, hname⟩) (hnone owner)
        grind
    · exact absurd (.inr htask) (hnone owner)
  · intro hpresent
    obtain ⟨context, hcontext, hname⟩ := Option.map_eq_some_iff.1 hpresent
    have hsession : ∀ other name, Session (acceptUser view clientId userName characterUid lobby)
        other name ↔ Session lobby other name ∨ other = clientId ∧ name = userName := by
      intro other name
      rw [heq]
      unfold Session
      grind
    rw [heq] at hsession
    refine ⟨?_, ?_⟩
    · intro name hmem
      have hcases : name = userName ∨ name ∈ lobby.userInstances := by grind
      obtain rfl | hold := hcases
      · refine ⟨clientId, (hsession _ _).2 (.inr ⟨rfl, rfl⟩), fun other hother => ?_⟩
        exact ((hsession other name).1 hother).elim (fun hbefore => absurd hbefore (hnone other))
          And.left
      · obtain ⟨owner, howner, honly⟩ := h.owned name hold
        refine ⟨owner, (hsession _ _).2 (.inl howner), fun other hother => ?_⟩
        obtain hbefore | ⟨-, rfl⟩ := (hsession other name).1 hother
        · exact honly other hbefore
        · exact absurd hold hfree
    · intro other name hother
      obtain hbefore | ⟨-, rfl⟩ := (hsession other name).1 hother
      · have hold := h.kept other name hbefore
        grind
      · simp

theorem processLoginResponse_sessions (view : View) (h : SessionsMatch lobby) :
    SessionsMatch (processLoginResponse view lobby).1 ↔
      ∀ clientId ∈ lobby.loginResponseQueue.head?, AcceptsPresent view lobby clientId := by
  unfold processLoginResponse
  cases hqueue : lobby.loginResponseQueue with
  | nil => simp [h]
  | cons clientId rest =>
    dsimp only
    simp only [List.head?_cons, Option.mem_def, Option.some.injEq, forall_eq', AcceptsPresent]
    generalize loginOf lobby clientId = context
    cases hstep : responseStep view lobby context with
    | accept characterUid =>
      have hpopped : SessionsMatch (popResponse (ensureLogin clientId lobby)) :=
        h.of_same (.of_eq rfl (fun _ _ => Iff.rfl) rfl)
      have haccept := acceptUser_sessions view clientId characterUid hpopped
        (not_mem_of_accept hstep)
      exact haccept.trans ⟨fun hpresent _ => hpresent, fun hpresent => hpresent rfl⟩
    | _ =>
      refine iff_of_true ?_ (fun haccepts => by cases haccepts)
      exact h.of_same (.of_eq rfl (fun _ _ => Iff.rfl) rfl)

theorem processLoginRequest_sameSessions (view : View) (lobby : World) :
    SameSessions lobby (processLoginRequest view lobby).1 := by
  unfold processLoginRequest
  cases lobby.loginRequestQueue with
  | nil => exact .of_eq rfl (fun _ _ => Iff.rfl) rfl
  | cons clientId rest =>
    dsimp only
    cases requestStep view (loginOf lobby clientId) <;>
      exact .of_eq rfl (fun _ _ => Iff.rfl) rfl

theorem pollVerdicts_sameSessions (lobby : World) : SameSessions lobby (pollVerdicts lobby) := by
  unfold pollVerdicts
  split <;> exact .of_eq rfl (fun _ _ => Iff.rfl) rfl

/-- The job of a disconnect ends the session that waited for it, and erases its instance. -/
theorem logout_sessionsMatch {clientId : ClientId} {userName : Text} {before after : List Task}
    {scheduler : Scheduler Task} (h : SessionsMatch lobby) (hnumbered : Numbered lobby)
    (htasks : lobby.scheduler.tasks = before ++ .disconnect clientId true userName :: after)
    (hrest : scheduler.tasks = before ++ after) :
    SessionsMatch (queueClientDisconnect clientId
      (queueClientLogout userName { lobby with scheduler := scheduler })) := by
  have hmem : .disconnect clientId true userName ∈ lobby.scheduler.tasks := by simp [htasks]
  have howner : Session lobby clientId userName := .inr hmem
  have hended : ∀ name, ¬Session { lobby with scheduler := scheduler } clientId name := by
    rintro name (⟨context, hcontext, -⟩ | htask)
    · refine hnumbered.disconnected clientId true userName hmem ?_
      exact Std.ExtTreeMap.mem_iff_isSome_getElem?.2 (Option.isSome_of_eq_some hcontext)
    · rw [hrest] at htask
      exact hnumbered.not_mem_of_disconnect htasks true name htask
  have hsession : ∀ other name, Session { lobby with scheduler := scheduler } other name ↔
      Session lobby other name ∧ name ≠ userName := by
    intro other name
    constructor
    · intro hless
      have hbefore : Session lobby other name := by
        refine hless.imp id fun htask => ?_
        rw [hrest] at htask
        rw [htasks]
        simp only [List.mem_append, List.mem_cons] at htask ⊢
        tauto
      refine ⟨hbefore, ?_⟩
      rintro rfl
      obtain ⟨only, -, honly⟩ := h.owned name (h.kept clientId name howner)
      obtain rfl : other = clientId := (honly other hbefore).trans (honly clientId howner).symm
      exact hended name hless
    · rintro ⟨hbefore, hne⟩
      refine hbefore.imp id fun htask => ?_
      rw [htasks] at htask
      rw [hrest]
      simp only [List.mem_append, List.mem_cons, Task.disconnect.injEq] at htask ⊢
      tauto
  refine ⟨?_, ?_⟩
  · intro name hname
    have hboth : name ∈ lobby.userInstances ∧ name ≠ userName := by
      simp only [queueClientDisconnect, queueClientLogout] at hname
      grind
    obtain ⟨owner, howner, honly⟩ := h.owned name hboth.1
    exact ⟨owner, (hsession _ _).2 ⟨howner, hboth.2⟩,
      fun other hother => honly other ((hsession _ _).1 hother).1⟩
  · intro other name hother
    obtain ⟨hbefore, hne⟩ := (hsession other name).1 hother
    have hold := h.kept other name hbefore
    simp only [queueClientDisconnect, queueClientLogout]
    grind

theorem tickScheduler_sessionsMatch (h : SessionsMatch lobby) (hnumbered : Numbered lobby) :
    SessionsMatch (tickScheduler lobby) := by
  obtain ⟨-, scheduler, htasks, heq⟩ | ⟨task, before, after, -, htasks, scheduler, hrest, heq⟩ :=
    tickScheduler_cases lobby
  · rw [heq]
    exact h.of_same (.of_eq rfl (fun _ _ => by rw [htasks]) rfl)
  · rw [heq]
    have hless : (∀ clientId userName, task ≠ .disconnect clientId true userName) →
        SessionsMatch { lobby with scheduler := scheduler } := by
      intro hother
      refine h.of_same (.of_eq rfl (fun clientId userName => ?_) rfl)
      rw [htasks, hrest]
      have hne := hother clientId userName
      simp only [List.mem_append, List.mem_cons]
      tauto
    cases task with
    | connect clientId =>
      exact (hless (by simp)).of_same (.of_eq rfl (fun _ _ => Iff.rfl) rfl)
    | login clientId userName userToken =>
      simp only [runTask, queueClientLogin]
      split
      · exact hless (by simp)
      · exact (hless (by simp)).of_same (.of_eq rfl (fun _ _ => Iff.rfl) rfl)
    | disconnect clientId isAuthenticated userName =>
      cases isAuthenticated with
      | true => exact logout_sessionsMatch h hnumbered htasks hrest
      | false => exact (hless (by simp)).of_same (.of_eq rfl (fun _ _ => Iff.rfl) rfl)
    | other => exact hless (by simp)

theorem tickPhase_sessions (view : View) (h : SessionsMatch lobby) (hnumbered : Numbered lobby) :
    SessionsMatch (tickPhase view lobby) ↔
      (lobby.phase = .response →
        ∀ clientId ∈ lobby.loginResponseQueue.head?, AcceptsPresent view lobby clientId) := by
  unfold tickPhase
  cases hphase : lobby.phase with
  | response =>
    have hnext := processLoginResponse_sessions view h
    have hsame : SameSessions (processLoginResponse view lobby).1
        { (processLoginResponse view lobby).1 with
          phase := if (processLoginResponse view lobby).2 then .response else .request } :=
      .of_eq rfl (fun _ _ => Iff.rfl) rfl
    have hback : SameSessions { (processLoginResponse view lobby).1 with
          phase := if (processLoginResponse view lobby).2 then .response else .request }
        (processLoginResponse view lobby).1 := .of_eq rfl (fun _ _ => Iff.rfl) rfl
    exact ⟨fun hafter _ => hnext.1 (hafter.of_same hback),
      fun hgood => (hnext.2 (hgood rfl)).of_same hsame⟩
  | request =>
    refine iff_of_true ?_ (fun hresponse => by cases hresponse)
    exact (h.of_same (processLoginRequest_sameSessions view lobby)).of_same
      (.of_eq rfl (fun _ _ => Iff.rfl) rfl)
  | verdicts =>
    refine iff_of_true ?_ (fun hresponse => by cases hresponse)
    exact (h.of_same (pollVerdicts_sameSessions lobby)).of_same
      (.of_eq rfl (fun _ _ => Iff.rfl) rfl)
  | jobs =>
    refine iff_of_true ?_ (fun hresponse => by cases hresponse)
    exact (tickScheduler_sessionsMatch h hnumbered).of_same
      (.of_eq rfl (fun _ _ => Iff.rfl) rfl)

/-! ## The network handler -/

/-- A Login keeps instances and sessions together exactly when it does not rename an authenticated
client. -/
theorem handleLogin_sessions (clientId : ClientId) (loginId authKey : Text)
    (h : SessionsMatch lobby) (hnumbered : Numbered lobby) :
    SessionsMatch (handleLogin clientId loginId authKey lobby) ↔
      BeforeAccept lobby clientId loginId authKey := by
  obtain ⟨hfails, reason, heq⟩ | ⟨hnone, heq⟩ | ⟨hpasses, context, hclient, heq⟩ :=
    handleLogin_cases clientId loginId authKey lobby
  · rw [heq]
    exact iff_of_true (h.of_same (.of_eq rfl (fun _ _ => Iff.rfl) rfl))
      fun hpasses => absurd hpasses hfails
  · rw [heq]
    refine iff_of_true (h.of_same (.of_eq rfl (fun _ _ => Iff.rfl) rfl)) ?_
    intro _ context hclient
    rw [hnone] at hclient
    cases hclient
  · have hsession : ∀ other name, Session (handleLogin clientId loginId authKey lobby) other name ↔
        (∃ found, (lobby.clients.insert clientId { context with userName := loginId })[other]? =
          some found ∧ found.isAuthenticated = true ∧ found.userName = name) ∨
        .disconnect other true name ∈ lobby.scheduler.tasks := by
      intro other name
      rw [heq]
      simp [Session, record, queueTask]
    have hinstances : (handleLogin clientId loginId authKey lobby).userInstances =
        lobby.userInstances := by
      rw [heq]
      rfl
    by_cases htrue : context.isAuthenticated = true
    · refine iff_of_false (fun hafter => ?_) (fun hbefore => ?_)
      · have howner : Session lobby clientId context.userName := .inl ⟨context, hclient, htrue, rfl⟩
        have hmem := h.kept clientId context.userName howner
        obtain ⟨only, -, honly⟩ := h.owned context.userName hmem
        obtain ⟨owner, howned, -⟩ := hafter.owned context.userName (hinstances ▸ hmem)
        have hne := hpasses.userName_ne hclient htrue
        have hgone := hnumbered.disconnected clientId true context.userName
        rw [hsession] at howned
        by_cases hother : owner = clientId
        · grind
        · have hbefore : Session lobby owner context.userName := by
            unfold Session
            grind
          exact hother ((honly owner hbefore).trans (honly clientId howner).symm)
      · have hfalse := hbefore hpasses context hclient
        rw [htrue] at hfalse
        cases hfalse
    · refine iff_of_true (h.of_same ⟨fun other name => ?_, hinstances⟩) fun _ found hfound => ?_
      · rw [hsession]
        unfold Session
        grind
      · cases hclient.symm.trans hfound
        exact Bool.eq_false_iff.2 htrue

theorem handleClientDisconnected_sameSessions (clientId : ClientId) :
    SameSessions lobby (handleClientDisconnected clientId lobby) := by
  unfold handleClientDisconnected
  cases hclient : lobby.clients[clientId]? with
  | none => exact .of_eq rfl (fun _ _ => Iff.rfl) rfl
  | some context =>
    refine ⟨fun other name => ?_, rfl⟩
    have htasks : .disconnect other true name ∈ (lobby.scheduler.queue (.disconnect clientId
        context.isAuthenticated context.userName) lobby.clock).tasks ↔
          .disconnect other true name ∈ lobby.scheduler.tasks ∨
            other = clientId ∧ context.isAuthenticated = true ∧ context.userName = name := by
      simp only [Scheduler.tasks_queue, List.mem_append, List.mem_singleton,
        Task.disconnect.injEq]
      tauto
    simp only [Session, queueTask, htasks]
    grind

theorem handleClientConnected_sameSessions (hnumbered : Numbered lobby) :
    SameSessions lobby (handleClientConnected lobby) := by
  have hnew : lobby.nextClientId ∉ lobby.clients :=
    fun hmem => absurd (hnumbered.clients _ hmem) (Nat.lt_irrefl _)
  refine ⟨fun other name => ?_, rfl⟩
  simp only [Session, handleClientConnected, queueTask, Scheduler.tasks_queue]
  grind

/-- One step keeps instances and sessions together exactly when it meets the condition. -/
theorem step_sessions (lobby : World) (input : Input) (hnumbered : Numbered lobby)
    (h : SessionsMatch lobby) : SessionsMatch (step lobby input) ↔ Tracked lobby input := by
  cases input with
  | connect => exact iff_of_true (h.of_same (handleClientConnected_sameSessions hnumbered)) trivial
  | login clientId loginId authKey => exact handleLogin_sessions clientId loginId authKey h hnumbered
  | disconnect clientId =>
    exact iff_of_true (h.of_same (handleClientDisconnected_sameSessions clientId)) trivial
  | authenticate answer =>
    refine iff_of_true ?_ trivial
    simp only [step, authenticate]
    split <;> exact h.of_same (.of_eq rfl (fun _ _ => Iff.rfl) rfl)
  | director view => exact tickPhase_sessions view h hnumbered
  | schedule due =>
    refine iff_of_true (h.of_same (.of_eq rfl (fun _ _ => ?_) rfl)) trivial
    simp [step]
  | forceIntoCreator | elapse =>
    exact iff_of_true (h.of_same (.of_eq rfl (fun _ _ => Iff.rfl) rfl)) trivial

theorem initial_sessionsMatch : SessionsMatch {} := by
  constructor <;> simp [Session]

/-! ## Runs -/

/-- What the lobby owes to its users in every state: user instances and sessions match, a user
without a session is not refused as a duplicate, and a user with one is not logged in again. -/
structure UserSessions (lobby : World) : Prop extends SessionsMatch lobby where
  notDuplicated : ∀ view context, (∀ clientId, ¬Session lobby clientId context.userName) →
    responseStep view lobby context ≠ .rejectDuplicated
  notTwice : ∀ view context characterUid,
    responseStep view lobby context = .accept characterUid →
      ∀ clientId, ¬Session lobby clientId context.userName

theorem SessionsMatch.userSessions (h : SessionsMatch lobby) : UserSessions lobby :=
  { h with
    notDuplicated := fun _ _ hfree => h.not_duplicated hfree
    notTwice := fun _ _ _ haccept clientId => h.not_twice haccept clientId }

/-- The runs along which user instances match sessions are those whose steps meet the condition. -/
theorem user_instances_match (inputs : List Input) :
    (∀ first second, inputs = first ++ second → UserSessions (run step {} first)) ↔
      Guarded step Tracked {} inputs := by
  have hpreserved : ∀ lobby input, Numbered lobby ∧ SessionsMatch lobby → Tracked lobby input →
      Numbered (step lobby input) ∧ SessionsMatch (step lobby input) :=
    fun lobby input h hgood =>
      ⟨step_numbered lobby input h.1, (step_sessions lobby input h.1 h.2).2 hgood⟩
  have hneeded : ∀ lobby input, Numbered lobby ∧ SessionsMatch lobby →
      UserSessions (step lobby input) → Tracked lobby input :=
    fun lobby input h hafter => (step_sessions lobby input h.1 h.2).1 hafter.toSessionsMatch
  exact (guarded_iff_prefixes hpreserved (fun _ h => h.2.userSessions) hneeded
    ⟨initial_numbered, initial_sessionsMatch⟩).symm

/-- The verified client disconnects right before the director accepts it.  The director finds no
address of the client, and works off the disconnect in its next tick. -/
def leakedInputs : List Input :=
  verifiedInputs ++ directorTick ++ directorTick ++
    .disconnect 0 :: .director { hasAddress := fun _ => false } :: directorTick

/-- The instance of `a` stays although no client is left and nothing waits any more. -/
theorem leaked_instance :
    ¬∀ first second, leakedInputs = first ++ second → UserSessions (run step {} first) := by
  intro h
  have hmem : [97] ∈ (run step {} leakedInputs).userInstances := by decide +kernel
  have hclients : (run step {} leakedInputs).clients.toList = [] := by decide +kernel
  have htasks : (run step {} leakedInputs).scheduler.tasks = [] := by decide +kernel
  obtain ⟨clientId, hsession, -⟩ := (h leakedInputs [] rfl).owned [97] hmem
  obtain ⟨context, hclient, -⟩ | hwaits := hsession
  · have hentry := Std.ExtTreeMap.mem_toList_iff_getElem?_eq_some.2 hclient
    rw [hclients] at hentry
    cases hentry
  · rw [htasks] at hwaits
    cases hwaits

end Alicia.Lobby
