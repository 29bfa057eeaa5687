import Alicia.Lobby.Clients
import Mathlib.Data.List.Induction

/-!
# Who is accepted

A login context keeps its flags when another Login of the same client overwrites its user name and
token, verdicts are matched to contexts by the user name alone, and a client context takes its user
name from every Login.  `Authentic` is the condition under which none of this lets a client in with
a name and token that the backend did not verify.
-/

namespace Alicia.Lobby

open Std (ExtTreeMap)
open Authentication (Service Verdict)
open Transition List

/-- The verdict that decides for a context with the user name: the last one on that name. -/
def lastVerdict (verdicts : List Verdict) (userName : Text) : Option Verdict :=
  (verdicts.filter fun verdict => verdict.userName = userName).getLast?

theorem mem_of_lastVerdict {verdicts : List Verdict} {userName : Text} {verdict : Verdict}
    (h : lastVerdict verdicts userName = some verdict) :
    verdict ∈ verdicts ∧ verdict.userName = userName := by
  have hmem := mem_of_getLast? h
  rw [mem_filter] at hmem
  exact ⟨hmem.1, of_decide_eq_true hmem.2⟩

theorem lastVerdict_concat (verdicts : List Verdict) (verdict : Verdict) (userName : Text) :
    lastVerdict (verdicts ++ [verdict]) userName =
      if verdict.userName = userName then some verdict else lastVerdict verdicts userName := by
  rw [lastVerdict, filter_append]
  by_cases hname : verdict.userName = userName
  · simp [hname]
  · simp [hname, lastVerdict]

/-- A context takes the last verdict on its name and keeps everything else. -/
theorem foldl_applyVerdict (verdicts : List Verdict) (context : LoginContext) :
    verdicts.foldl applyVerdict context =
      match lastVerdict verdicts context.userName with
      | none => context
      | some verdict => { context with isAuthenticated := some verdict.isAuthenticated } := by
  induction verdicts using List.reverseRecOn with
  | nil => rfl
  | append_singleton verdicts verdict ih =>
    rw [foldl_append, ih, lastVerdict_concat]
    by_cases hname : verdict.userName = context.userName
    · cases lastVerdict verdicts context.userName <;> simp [applyVerdict, hname]
    · cases lastVerdict verdicts context.userName <;> simp [applyVerdict, hname]

/-! ## The condition -/

/-- A Login that passes its checks comes from a client that is not authenticated yet. -/
def BeforeAccept (lobby : World) (clientId : ClientId) (loginId authKey : Text) : Prop :=
  PassesChecks lobby loginId authKey →
    ∀ context ∈ lobby.clients[clientId]?, context.isAuthenticated = false

/-- The client at the head of the queue has a login context. -/
def HeadHasLogin (lobby : World) (queue : List ClientId) : Prop :=
  ∀ clientId ∈ queue.head?, clientId ∈ lobby.clientLogins

/-- A context that takes a positive verdict has the token that the backend was asked about, or was
verified before. -/
def VerdictFits (lobby : World) (context : LoginContext) : Prop :=
  context.isAuthenticated = some true ∨
    ∀ verdict ∈ lastVerdict lobby.service.verdicts context.userName,
      verdict.isAuthenticated = true → verdict.askedToken = context.userToken

/-- The director has found the client verified, or is about to. -/
def IsVerified (lobby : World) (clientId : ClientId) (context : LoginContext) : Prop :=
  context.isAuthenticated = some true ∨ clientId ∈ lobby.loginResponseQueue

/-- A login leaves the name and the token of a verified client as they are. -/
def KeepsVerified (lobby : World) : Task → Prop
  | .login clientId userName userToken =>
    ∀ context ∈ lobby.clientLogins[clientId]?, IsVerified lobby clientId context →
      context.userName = userName ∧ context.userToken = userToken
  | _ => True

def PhaseAuthentic (lobby : World) : Phase → Prop
  | .response => HeadHasLogin lobby lobby.loginResponseQueue
  | .request => HeadHasLogin lobby lobby.loginRequestQueue
  | .verdicts => ∀ entry ∈ lobby.clientLogins.toList, VerdictFits lobby entry.2
  | .jobs => ∀ task ∈ nextTask lobby, KeepsVerified lobby task

/-- The condition under which a step accepts only what the backend verified. -/
def Authentic (lobby : World) : Input → Prop
  | .login clientId loginId authKey => BeforeAccept lobby clientId loginId authKey
  | .director _ => PhaseAuthentic lobby lobby.phase
  | _ => True

instance (lobby : World) (clientId : ClientId) (loginId authKey : Text) :
    Decidable (BeforeAccept lobby clientId loginId authKey) :=
  @instDecidableForall _ _ _ (Option.decidableForallMem _)

instance (lobby : World) (queue : List ClientId) : Decidable (HeadHasLogin lobby queue) :=
  Option.decidableForallMem _

instance (lobby : World) (context : LoginContext) : Decidable (VerdictFits lobby context) :=
  @instDecidableOr _ _ _ (Option.decidableForallMem _)

instance (lobby : World) (clientId : ClientId) (context : LoginContext) :
    Decidable (IsVerified lobby clientId context) := instDecidableOr

instance (lobby : World) : (task : Task) → Decidable (KeepsVerified lobby task)
  | .login _ _ _ => Option.decidableForallMem _
  | .connect _ | .disconnect _ _ _ | .other => isTrue trivial

instance (lobby : World) : (phase : Phase) → Decidable (PhaseAuthentic lobby phase)
  | .response => inferInstanceAs (Decidable (HeadHasLogin _ _))
  | .request => inferInstanceAs (Decidable (HeadHasLogin _ _))
  | .verdicts => List.decidableBAll _ _
  | .jobs => Option.decidableForallMem _

instance (lobby : World) : (input : Input) → Decidable (Authentic lobby input)
  | .login clientId loginId authKey =>
    inferInstanceAs (Decidable (BeforeAccept lobby clientId loginId authKey))
  | .director _ => inferInstanceAs (Decidable (PhaseAuthentic lobby lobby.phase))
  | .connect | .disconnect _ | .authenticate _ | .schedule _ | .forceIntoCreator _ _ | .elapse _ =>
    isTrue trivial

/-! ## The invariant -/

/-- What the queues, the login contexts and the verdicts owe to the history. -/
structure Sound (lobby : World) : Prop where
  tasks : ∀ clientId userName userToken,
    .login clientId userName userToken ∈ lobby.scheduler.tasks →
      .submitted clientId userName userToken ∈ lobby.log
  requests : ∀ clientId ∈ lobby.loginRequestQueue, ∀ context,
    lobby.clientLogins[clientId]? = some context →
      .submitted clientId context.userName context.userToken ∈ lobby.log
  responses : ∀ clientId ∈ lobby.loginResponseQueue, ∀ context,
    lobby.clientLogins[clientId]? = some context →
      .submitted clientId context.userName context.userToken ∈ lobby.log ∧
        .verdict context.userName context.userToken true ∈ lobby.log
  verified : ∀ (clientId : ClientId) context, lobby.clientLogins[clientId]? = some context →
    context.isAuthenticated = some true →
      .verdict context.userName context.userToken true ∈ lobby.log
  verdicts : ∀ verdict ∈ lobby.service.verdicts,
    .verdict verdict.userName verdict.askedToken verdict.isAuthenticated ∈ lobby.log
  accepted : ∀ clientId userName, .accepted clientId userName ∈ lobby.log →
    ∃ userToken, .submitted clientId userName userToken ∈ lobby.log ∧
      .verdict userName userToken true ∈ lobby.log
  clients : ∀ (clientId : ClientId) context, lobby.clients[clientId]? = some context →
    context.isAuthenticated = true → ∃ userName, .accepted clientId userName ∈ lobby.log

theorem requestStep_queueResponse {view : View} {context : LoginContext}
    (h : requestStep view context = .queueResponse) : context.isAuthenticated = some true := by
  unfold requestStep at h
  grind

variable {lobby : World}

theorem processLoginRequest_sound (view : View) (h : Sound lobby)
    (hhead : HeadHasLogin lobby lobby.loginRequestQueue) :
    Sound (processLoginRequest view lobby).1 := by
  unfold processLoginRequest
  cases hqueue : lobby.loginRequestQueue with
  | nil => exact h
  | cons clientId rest =>
    have hmem : clientId ∈ lobby.clientLogins := hhead clientId (by simp [hqueue])
    have hcontext := getElem?_loginOf hmem
    obtain ⟨htasks, hrequests, hresponses, hverified, hverdicts, haccepted, hclients⟩ := h
    dsimp only
    rw [ensureLogin_of_mem hmem]
    generalize loginOf lobby clientId = context at *
    cases hstep : requestStep view context with
    | queueResponse =>
      have htrue := requestStep_queueResponse hstep
      simp only [applyRequest, popRequest, hqueue]
      constructor <;> grind
    | _ =>
      simp only [applyRequest, setLogin, popRequest, rejectLogin, record, hqueue,
        Service.queueAuthentication]
      constructor <;> grind

theorem processLoginResponse_sound (view : View) (h : Sound lobby)
    (hhead : HeadHasLogin lobby lobby.loginResponseQueue) :
    Sound (processLoginResponse view lobby).1 := by
  unfold processLoginResponse
  cases hqueue : lobby.loginResponseQueue with
  | nil => exact h
  | cons clientId rest =>
    have hmem : clientId ∈ lobby.clientLogins := hhead clientId (by simp [hqueue])
    have hcontext := getElem?_loginOf hmem
    obtain ⟨htasks, hrequests, hresponses, hverified, hverdicts, haccepted, hclients⟩ := h
    dsimp only
    rw [ensureLogin_of_mem hmem]
    generalize loginOf lobby clientId = context at *
    have hsound := hresponses clientId (by simp [hqueue]) context hcontext
    cases responseStep view lobby context with
    | accept characterUid =>
      obtain ⟨answers, hanswers, heq⟩ :=
        acceptUser_eq view clientId context.userName characterUid (popResponse lobby)
      have hmore : ∀ event ∈ answers, ∃ reply, event = .answered clientId reply := by
        unfold AnswersOnce at hanswers
        grind
      simp only [applyResponse]
      rw [heq]
      simp only [popResponse, hqueue, tail_cons]
      constructor <;> grind
    | _ =>
      simp only [applyResponse, setLogin, popResponse, rejectLogin, record, hqueue]
      constructor <;> grind

variable {clientId : ClientId}

/-- A verified context owes its verdict to the backend, whether the verdict is new or not. -/
theorem foldl_applyVerdict_verified (h : Sound lobby) {context : LoginContext}
    (hcontext : lobby.clientLogins[clientId]? = some context) (hfits : VerdictFits lobby context)
    (htrue : (lobby.service.verdicts.foldl applyVerdict context).isAuthenticated = some true) :
    .verdict context.userName context.userToken true ∈ lobby.log := by
  rw [foldl_applyVerdict] at htrue
  cases hlast : lastVerdict lobby.service.verdicts context.userName with
  | none =>
    rw [hlast] at htrue
    exact h.verified clientId context hcontext htrue
  | some verdict =>
    rw [hlast] at htrue
    have hpositive : verdict.isAuthenticated = true := Option.some.inj htrue
    obtain ⟨hmem, hname⟩ := mem_of_lastVerdict hlast
    obtain hbefore | htoken := hfits
    · exact h.verified clientId context hcontext hbefore
    · have hlogged := h.verdicts verdict hmem
      rwa [hname, htoken verdict hlast hpositive, hpositive] at hlogged

theorem foldl_applyVerdict_identity (verdicts : List Verdict) (context : LoginContext) :
    (verdicts.foldl applyVerdict context).userName = context.userName ∧
      (verdicts.foldl applyVerdict context).userToken = context.userToken := by
  rw [foldl_applyVerdict]
  cases lastVerdict verdicts context.userName <;> exact ⟨rfl, rfl⟩

theorem pollVerdicts_sound (h : Sound lobby)
    (hfits : ∀ entry ∈ lobby.clientLogins.toList, VerdictFits lobby entry.2) :
    Sound (pollVerdicts lobby) := by
  unfold pollVerdicts
  split
  · have hback : ∀ (clientId : ClientId) context,
        (lobby.clientLogins.map fun _ context =>
          lobby.service.verdicts.foldl applyVerdict context)[clientId]? = some context →
        ∃ before, lobby.clientLogins[clientId]? = some before ∧
          lobby.service.verdicts.foldl applyVerdict before = context := by
      intro clientId context hcontext
      rw [Std.ExtTreeMap.getElem?_map, Option.map_eq_some_iff] at hcontext
      exact hcontext
    refine { h with requests := ?_, responses := ?_, verified := ?_, verdicts := ?_ }
    · intro clientId hc context hcontext
      obtain ⟨before, hbefore, rfl⟩ := hback clientId context hcontext
      rw [(foldl_applyVerdict_identity _ _).1, (foldl_applyVerdict_identity _ _).2]
      exact h.requests clientId hc before hbefore
    · intro clientId hc context hcontext
      obtain ⟨before, hbefore, rfl⟩ := hback clientId context hcontext
      rw [(foldl_applyVerdict_identity _ _).1, (foldl_applyVerdict_identity _ _).2]
      exact h.responses clientId hc before hbefore
    · intro clientId context hcontext htrue
      obtain ⟨before, hbefore, rfl⟩ := hback clientId context hcontext
      rw [(foldl_applyVerdict_identity _ _).1, (foldl_applyVerdict_identity _ _).2]
      have hentry : (clientId, before) ∈ lobby.clientLogins.toList :=
        Std.ExtTreeMap.mem_toList_iff_getElem?_eq_some.2 hbefore
      exact foldl_applyVerdict_verified h hbefore (hfits _ hentry) htrue
    · intro verdict hverdict
      refine h.verdicts verdict ?_
      unfold Service.poll at hverdict
      split at hverdict
      · exact hverdict
      · cases hverdict
  · exact h

/-- A queued login brings the pair that its client submitted. -/
theorem queueClientLogin_sound {userName userToken : Text} (h : Sound lobby)
    (hsubmitted : .submitted clientId userName userToken ∈ lobby.log)
    (hkeeps : KeepsVerified lobby (.login clientId userName userToken)) :
    Sound (queueClientLogin clientId userName userToken lobby) := by
  unfold queueClientLogin
  cases hlogin : lobby.clientLogins[clientId]? with
  | none => exact h
  | some context =>
    have hsame := hkeeps context hlogin
    unfold IsVerified at hsame
    obtain ⟨htasks, hrequests, hresponses, hverified, hverdicts, haccepted, hclients⟩ := h
    simp only [setLogin]
    constructor <;> grind

theorem runTask_sound {task : Task} (h : Sound lobby)
    (hsubmitted : ∀ clientId userName userToken, task = .login clientId userName userToken →
      .submitted clientId userName userToken ∈ lobby.log)
    (hconnect : ∀ clientId, task = .connect clientId →
      clientId ∉ lobby.loginRequestQueue ∧ clientId ∉ lobby.loginResponseQueue)
    (hkeeps : KeepsVerified lobby task) : Sound (runTask task lobby) := by
  cases task with
  | connect clientId =>
    obtain ⟨hrequest, hresponse⟩ := hconnect clientId rfl
    obtain ⟨htasks, hrequests, hresponses, hverified, hverdicts, haccepted, hclients⟩ := h
    simp only [runTask, queueClientConnect]
    constructor <;> grind
  | login clientId userName userToken =>
    exact queueClientLogin_sound h (hsubmitted clientId userName userToken rfl) hkeeps
  | disconnect clientId isAuthenticated userName =>
    obtain ⟨htasks, hrequests, hresponses, hverified, hverdicts, haccepted, hclients⟩ := h
    cases isAuthenticated <;>
      simp only [runTask, queueClientDisconnect, queueClientLogout, if_true] <;>
      constructor <;> grind
  | other => exact h

theorem tickScheduler_sound (h : Sound lobby) (hnumbered : Numbered lobby)
    (hkeeps : ∀ task ∈ nextTask lobby, KeepsVerified lobby task) :
    Sound (tickScheduler lobby) := by
  obtain ⟨-, scheduler, htasks, heq⟩ |
    ⟨task, before, after, hnext, htasks, scheduler, hrest, heq⟩ := tickScheduler_cases lobby
  · rw [heq]
    exact { h with tasks := htasks ▸ h.tasks }
  · rw [heq]
    have hmem : task ∈ lobby.scheduler.tasks := by simp [htasks]
    have hfewer : Sound { lobby with scheduler := scheduler } := { h with
      tasks := by
        intro clientId userName userToken hlogin
        apply h.tasks
        rw [htasks]
        rw [hrest] at hlogin
        simp only [mem_append, mem_cons] at hlogin ⊢
        tauto }
    refine runTask_sound hfewer ?_ ?_ ?_
    · rintro clientId userName userToken rfl
      exact h.tasks clientId userName userToken hmem
    · rintro clientId rfl
      exact (hnumbered.connectsFirst clientId hmem).2
    · have hkept := hkeeps task hnext
      cases task with
      | login clientId userName userToken => exact hkept
      | connect | disconnect | other => trivial

theorem tickPhase_sound (view : View) (h : Sound lobby) (hnumbered : Numbered lobby)
    (hgood : PhaseAuthentic lobby lobby.phase) : Sound (tickPhase view lobby) := by
  unfold tickPhase
  cases hphase : lobby.phase with
  | response =>
    rw [hphase] at hgood
    exact { processLoginResponse_sound view h hgood with }
  | request =>
    rw [hphase] at hgood
    exact { processLoginRequest_sound view h hgood with }
  | verdicts =>
    rw [hphase] at hgood
    exact { pollVerdicts_sound h hgood with }
  | jobs =>
    rw [hphase] at hgood
    exact { tickScheduler_sound h hnumbered hgood with }

theorem handleLogin_sound (clientId : ClientId) (loginId authKey : Text) (h : Sound lobby) :
    Sound (handleLogin clientId loginId authKey lobby) := by
  obtain ⟨-, reason, heq⟩ | ⟨-, heq⟩ | ⟨-, context, hclient, heq⟩ :=
    handleLogin_cases clientId loginId authKey lobby <;>
  obtain ⟨htasks, hrequests, hresponses, hverified, hverdicts, haccepted, hclients⟩ := h <;>
  rw [heq]
  · simp only [record]
    constructor <;> grind
  · simp only [record]
    constructor <;> grind
  · have htasks' : ∀ task, task ∈ (lobby.scheduler.queue (.login clientId loginId authKey)
        lobby.clock).tasks ↔ task ∈ lobby.scheduler.tasks ∨
          task = .login clientId loginId authKey := by simp
    simp only [record, queueTask]
    constructor <;> grind

theorem authenticate_sound (answer : Option Bool) (h : Sound lobby) :
    Sound (authenticate answer lobby) := by
  obtain ⟨htasks, hrequests, hresponses, hverified, hverdicts, haccepted, hclients⟩ := h
  unfold authenticate Service.tick
  cases hqueue : lobby.service.queue with
  | nil => constructor <;> assumption
  | cons request rest =>
    cases answer with
    | none => constructor <;> assumption
    | some isAuthenticated =>
      simp only [record, Service.verdictOn]
      constructor <;> grind

theorem step_sound (lobby : World) (input : Input) (h : Sound lobby) (hnumbered : Numbered lobby)
    (hgood : Authentic lobby input) : Sound (step lobby input) := by
  cases input with
  | connect =>
    obtain ⟨htasks, hrequests, hresponses, hverified, hverdicts, haccepted, hclients⟩ := h
    have htasks' : ∀ task, task ∈ (lobby.scheduler.queue (.connect lobby.nextClientId)
        lobby.clock).tasks ↔ task ∈ lobby.scheduler.tasks ∨
          task = .connect lobby.nextClientId := by simp
    simp only [step, handleClientConnected, queueTask]
    constructor <;> grind
  | login clientId loginId authKey => exact handleLogin_sound clientId loginId authKey h
  | disconnect clientId =>
    simp only [step, handleClientDisconnected]
    cases hclient : lobby.clients[clientId]? with
    | none => exact h
    | some context =>
      obtain ⟨htasks, hrequests, hresponses, hverified, hverdicts, haccepted, hclients⟩ := h
      have htasks' : ∀ task, task ∈ (lobby.scheduler.queue (.disconnect clientId
          context.isAuthenticated context.userName) lobby.clock).tasks ↔
            task ∈ lobby.scheduler.tasks ∨ task = .disconnect clientId
              context.isAuthenticated context.userName := by simp
      simp only [queueTask]
      constructor <;> grind
  | authenticate answer => exact authenticate_sound answer h
  | director view => exact tickPhase_sound view h hnumbered hgood
  | schedule due =>
    refine { h with tasks := ?_ }
    intro clientId userName userToken hlogin
    simp only [step, Scheduler.tasks_queue, mem_append, mem_singleton] at hlogin
    exact h.tasks clientId userName userToken (hlogin.resolve_right (by simp))
  | forceIntoCreator characterUid force => exact { h with }
  | elapse duration => exact { h with }

theorem initial_sound : Sound {} := by
  constructor <;> simp

/-! ## The user name of an accepted client -/

/-- The client is gone, or is authenticated under the user name. -/
structure NamedOrGone (clientId : ClientId) (userName : Text) (lobby : World) : Prop where
  known : clientId < lobby.nextClientId
  named : ∀ context, lobby.clients[clientId]? = some context →
    context.isAuthenticated = true ∧ context.userName = userName

/-- The director authenticates clients; it neither renames nor adds one. -/
structure ClientsKept (before after : World) : Prop where
  nextClientId : after.nextClientId = before.nextClientId
  clients : ∀ (clientId : ClientId) context, after.clients[clientId]? = some context →
    ∃ old, before.clients[clientId]? = some old ∧ context.userName = old.userName ∧
      (old.isAuthenticated = true → context.isAuthenticated = true)

theorem ClientsKept.of_eq {before after : World} (hnext : after.nextClientId = before.nextClientId)
    (hclients : after.clients = before.clients) : ClientsKept before after :=
  ⟨hnext, fun _ context h => ⟨context, hclients ▸ h, rfl, id⟩⟩

theorem processLoginResponse_clientsKept (view : View) (lobby : World) :
    ClientsKept lobby (processLoginResponse view lobby).1 := by
  unfold processLoginResponse
  cases lobby.loginResponseQueue with
  | nil => exact .of_eq rfl rfl
  | cons clientId rest =>
    dsimp only
    generalize loginOf lobby clientId = context
    cases responseStep view lobby context with
    | accept characterUid =>
      obtain ⟨answers, -, heq⟩ := acceptUser_eq view clientId context.userName characterUid
        (popResponse (ensureLogin clientId lobby))
      simp only [applyResponse]
      rw [heq]
      refine ⟨rfl, ?_⟩
      simp only [popResponse, ensureLogin]
      grind
    | _ => exact .of_eq rfl rfl

theorem processLoginRequest_clientsKept (view : View) (lobby : World) :
    ClientsKept lobby (processLoginRequest view lobby).1 := by
  unfold processLoginRequest
  cases lobby.loginRequestQueue with
  | nil => exact .of_eq rfl rfl
  | cons clientId rest =>
    dsimp only
    cases requestStep view (loginOf lobby clientId) <;> exact .of_eq rfl rfl

theorem pollVerdicts_clientsKept (lobby : World) : ClientsKept lobby (pollVerdicts lobby) := by
  unfold pollVerdicts
  split <;> exact .of_eq rfl rfl

theorem runTask_clientsKept (task : Task) (lobby : World) :
    ClientsKept lobby (runTask task lobby) := by
  cases task with
  | login clientId userName userToken =>
    simp only [runTask, queueClientLogin]
    cases lobby.clientLogins[clientId]? <;> exact .of_eq rfl rfl
  | disconnect clientId isAuthenticated userName =>
    cases isAuthenticated <;> exact .of_eq rfl rfl
  | connect | other => exact .of_eq rfl rfl

theorem tickPhase_clientsKept (view : View) (lobby : World) :
    ClientsKept lobby (tickPhase view lobby) := by
  unfold tickPhase
  cases lobby.phase with
  | response =>
    have h := processLoginResponse_clientsKept view lobby
    exact ⟨h.nextClientId, h.clients⟩
  | request =>
    have h := processLoginRequest_clientsKept view lobby
    exact ⟨h.nextClientId, h.clients⟩
  | verdicts =>
    have h := pollVerdicts_clientsKept lobby
    exact ⟨h.nextClientId, h.clients⟩
  | jobs =>
    obtain ⟨-, scheduler, -, heq⟩ | ⟨task, before, after, -, -, scheduler, -, heq⟩ :=
      tickScheduler_cases lobby
    · simp only [heq]
      exact .of_eq rfl rfl
    · have h := runTask_clientsKept task { lobby with scheduler := scheduler }
      simp only [heq]
      exact ⟨h.nextClientId, h.clients⟩

theorem step_namedOrGone {userName : Text} (lobby : World) (input : Input)
    (h : NamedOrGone clientId userName lobby) (hgood : Authentic lobby input) :
    NamedOrGone clientId userName (step lobby input) := by
  obtain ⟨hknown, hnamed⟩ := h
  cases input with
  | connect =>
    simp only [step, handleClientConnected, queueTask]
    constructor <;> grind
  | login other loginId authKey =>
    obtain ⟨-, reason, heq⟩ | ⟨-, heq⟩ | ⟨hpasses, context, hclient, heq⟩ :=
      handleLogin_cases other loginId authKey lobby
    · simp only [step, heq]
      exact ⟨hknown, hnamed⟩
    · simp only [step, heq]
      exact ⟨hknown, hnamed⟩
    · -- The renamed client is not authenticated, so it is another one.
      have hbefore := hgood hpasses context hclient
      simp only [step, heq, record, queueTask]
      constructor <;> grind
  | disconnect other =>
    simp only [step, handleClientDisconnected]
    cases hclient : lobby.clients[other]? with
    | none => exact ⟨hknown, hnamed⟩
    | some context =>
      simp only [queueTask]
      constructor <;> grind
  | authenticate answer =>
    simp only [step, authenticate]
    split <;> exact ⟨hknown, hnamed⟩
  | director view =>
    have hkept := tickPhase_clientsKept view lobby
    refine ⟨hkept.nextClientId ▸ hknown, fun context hcontext => ?_⟩
    obtain ⟨old, hold, hname, htrue⟩ := hkept.clients clientId context hcontext
    obtain ⟨holdtrue, holdname⟩ := hnamed old hold
    exact ⟨htrue holdtrue, hname.trans holdname⟩
  | schedule | forceIntoCreator | elapse => exact ⟨hknown, hnamed⟩

/-! ## Runs -/

/-- Whoever is accepted was verified by the backend with the name and a token that it submitted,
and the user name of an authenticated client stays the same for the rest of the run. -/
structure LoginSound (inputs : List Input) : Prop where
  accepted : ∀ clientId userName, .accepted clientId userName ∈ (run step {} inputs).log →
    ∃ userToken, .submitted clientId userName userToken ∈ (run step {} inputs).log ∧
      .verdict userName userToken true ∈ (run step {} inputs).log
  authenticated : ∀ (clientId : ClientId) context,
    (run step {} inputs).clients[clientId]? = some context → context.isAuthenticated = true →
      ∃ userName, .accepted clientId userName ∈ (run step {} inputs).log
  userName : ∀ first second, inputs = first ++ second → ∀ (clientId : ClientId) before after,
    (run step {} first).clients[clientId]? = some before → before.isAuthenticated = true →
      (run step {} inputs).clients[clientId]? = some after →
        after.isAuthenticated = true ∧ after.userName = before.userName

/-- A whole tick of the director. -/
def directorTick : List Input := List.replicate 4 (.director {})

/-- A client connects and logs in as `a`, and the backend confirms it. -/
def verifiedInputs : List Input :=
  .connect :: directorTick ++ .login 0 [97] [120] :: directorTick ++ directorTick ++
    .authenticate (some true) :: directorTick

/-- The verified client logs in as `b` before the director has accepted it. -/
def renamedInputs : List Input :=
  verifiedInputs ++ .login 0 [98] [121] :: directorTick ++ directorTick ++ directorTick

/-- The first part of the condition cannot be dropped: a Login that passes its checks renames an
authenticated client. -/
theorem authenticated_login_renames {loginId authKey : Text} {context : ClientContext}
    (hpasses : PassesChecks lobby loginId authKey)
    (hclient : lobby.clients[clientId]? = some context) (htrue : context.isAuthenticated = true) :
    ∃ after, (step lobby (.login clientId loginId authKey)).clients[clientId]? = some after ∧
      after.userName ≠ context.userName := by
  obtain ⟨hfails, -⟩ | ⟨hnone, -⟩ | ⟨-, old, hold, heq⟩ :=
    handleLogin_cases clientId loginId authKey lobby
  · exact absurd hpasses hfails
  · rw [hclient] at hnone
    cases hnone
  · refine ⟨{ old with userName := loginId }, ?_, ?_⟩
    · simp only [step, heq, record, queueTask]
      grind
    · exact (hpasses.userName_ne hclient htrue).symm

end Alicia.Lobby
