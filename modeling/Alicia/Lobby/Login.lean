import Alicia.Authentication
import Alicia.Data.Definitions
import Alicia.Room
import Alicia.Scheduler
import Alicia.Transition.Run

/-!
# Logging in to the lobby

The network handler of the lobby queues jobs for its director, which serves the heads of a request
queue and a response queue once in every tick.  `LobbyDirector::Tick` has four parts: the login
response, the login request, the verdicts of the authentication service and one scheduled job.  A
part that throws ends the tick.  The network thread and the authentication service run between any
two of these parts, so a part is one step of the model and `phase` says which one is next.
-/

namespace Alicia.Lobby

open Std (ExtTreeMap ExtTreeSet)
open Data (Uid invalidUid)
open Authentication (Service Verdict)

/-- `LobbyNetworkHandler::ClientContext`, for what a login reads and writes. -/
structure ClientContext where
  isAuthenticated : Bool := false
  userName : Text := []
  deriving DecidableEq

/-- `LobbyDirector::LoginContext`. -/
structure LoginContext where
  userName : Text := []
  userToken : Text := []
  isAuthenticated : Option Bool := none
  userAuthenticationRequested : Bool := false
  userLoadRequested : Bool := false
  userCharacterLoadRequested : Bool := false
  deriving DecidableEq

/-- `LobbyDirector::UserInstance`, for what a login writes. -/
structure UserInstance where
  userName : Text := []
  characterUid : Uid := invalidUid
  deriving DecidableEq

/-- A task that waits in the director's scheduler.  Tasks of other handlers touch neither the login
queues and contexts nor the set of user instances. -/
inductive Task where
  | connect (clientId : ClientId)
  | login (clientId : ClientId) (userName userToken : Text)
  | disconnect (clientId : ClientId) (isAuthenticated : Bool) (userName : Text)
  | other
  deriving DecidableEq

/-- `AcCmdCLLoginCancel::Reason`, for the reasons that a login is refused with. -/
inductive CancelReason where
  | generic
  | invalidLoginId
  | invalidUser
  | duplicated
  | disconnectYourself
  deriving DecidableEq

inductive Reply where
  | cancel (reason : CancelReason)
  | createNickname
  | loginOK
  deriving DecidableEq

/-- The history of the lobby, which is not part of the program's state. -/
inductive Event where
  /-- The client sent a Login command. -/
  | received (clientId : ClientId)
  /-- The Login command passed the checks of its handler. -/
  | submitted (clientId : ClientId) (userName userToken : Text)
  /-- The backend answered a request. -/
  | verdict (userName userToken : Text) (isAuthenticated : Bool)
  /-- A user instance was created for the client. -/
  | accepted (clientId : ClientId) (userName : Text)
  /-- The client was sent an answer to a Login command. -/
  | answered (clientId : ClientId) (reply : Reply)
  deriving DecidableEq

/-- The part of `LobbyDirector::Tick` that is next. -/
inductive Phase where
  | response
  | request
  | verdicts
  | jobs
  deriving DecidableEq

structure World where
  nextClientId : ClientId := 0
  clock : Nat := 0
  clients : ExtTreeMap ClientId ClientContext := ∅
  clientLogins : ExtTreeMap ClientId LoginContext := ∅
  loginRequestQueue : List ClientId := []
  loginResponseQueue : List ClientId := []
  userInstances : ExtTreeMap Text UserInstance := ∅
  charactersForcedIntoCreator : ExtTreeSet Uid := ∅
  service : Service := {}
  scheduler : Scheduler Task := {}
  phase : Phase := .response
  log : List Event := []

/-- What the data director, the infraction system and the command server tell the director.  A user
whose record is not available has no entry in `characterUid`, and a check of the punishments that
throws none in `preventServerJoining`. -/
structure View where
  areDataBeingLoaded : Text → Bool := fun _ => false
  areUserDataLoaded : Text → Bool := fun _ => true
  areCharacterDataLoaded : Text → Bool := fun _ => true
  characterUid : Text → Option Uid := fun _ => some invalidUid
  preventServerJoining : Text → Option Bool := fun _ => some false
  sendsLoginOK : ClientId → Bool := fun _ => true
  hasAddress : ClientId → Bool := fun _ => true

/-! ## Answers -/

def record (events : List Event) (lobby : World) : World :=
  { lobby with log := lobby.log ++ events }

def sendLoginCancel (clientId : ClientId) (reason : CancelReason) (lobby : World) : World :=
  record [.answered clientId (.cancel reason)] lobby

/-- `LobbyNetworkHandler::RejectLogin`, which ignores a client that is gone. -/
def rejectLogin (clientId : ClientId) (reason : CancelReason) (lobby : World) : World :=
  record (if clientId ∈ lobby.clients then [.answered clientId (.cancel reason)] else []) lobby

/-- What `AcceptLogin` sends.  It ignores a client that is gone and an answer that it cannot send. -/
def acceptAnswer (view : View) (clientId : ClientId) (sendToCharacterCreator : Bool)
    (lobby : World) : List Event :=
  if clientId ∉ lobby.clients then []
  else if sendToCharacterCreator then [.answered clientId .createNickname]
  else if view.sendsLoginOK clientId then [.answered clientId .loginOK]
  else []

/-- `LobbyNetworkHandler::AcceptLogin`. -/
def acceptLogin (view : View) (clientId : ClientId) (sendToCharacterCreator : Bool)
    (lobby : World) : World :=
  record (acceptAnswer view clientId sendToCharacterCreator lobby) { lobby with
    clients := lobby.clients.modify clientId fun context =>
      { context with isAuthenticated := true } }

/-! ## The request queue -/

/-- What the director does about the client at the head of the request queue. -/
inductive RequestStep where
  | requestAuthentication
  | awaitVerdict
  | rejectUser
  | requestUserLoad
  | awaitUserLoad
  | rejectUserData
  | failPunishments
  | rejectPunished
  | queueResponse
  deriving DecidableEq

/-- The checks of `ProcessLoginRequest`, in their order. -/
def requestStep (view : View) (context : LoginContext) : RequestStep :=
  if !context.userAuthenticationRequested then .requestAuthentication
  else
    match context.isAuthenticated with
    | none => .awaitVerdict
    | some false => .rejectUser
    | some true =>
      if !context.userLoadRequested then .requestUserLoad
      else if view.areDataBeingLoaded context.userName then .awaitUserLoad
      else if !view.areUserDataLoaded context.userName then .rejectUserData
      else
        match view.preventServerJoining context.userName with
        | none => .failPunishments
        | some true => .rejectPunished
        | some false => .queueResponse

def setLogin (clientId : ClientId) (context : LoginContext) (lobby : World) : World :=
  { lobby with clientLogins := lobby.clientLogins.insert clientId context }

def popRequest (lobby : World) : World :=
  { lobby with loginRequestQueue := lobby.loginRequestQueue.tail }

/-- The effect of a step on the client at the head of the request queue. -/
def applyRequest (clientId : ClientId) (context : LoginContext) (lobby : World) :
    RequestStep → World
  | .requestAuthentication =>
    setLogin clientId { context with userAuthenticationRequested := true }
      { lobby with
        service := lobby.service.queueAuthentication context.userName context.userToken }
  | .awaitVerdict => lobby
  | .rejectUser => popRequest (rejectLogin clientId .invalidUser lobby)
  | .requestUserLoad => setLogin clientId { context with userLoadRequested := true } lobby
  | .awaitUserLoad => lobby
  | .rejectUserData => rejectLogin clientId .generic (popRequest lobby)
  | .failPunishments => popRequest lobby
  | .rejectPunished => rejectLogin clientId .disconnectYourself (popRequest lobby)
  | .queueResponse =>
    let popped := popRequest lobby
    { popped with loginResponseQueue := popped.loginResponseQueue ++ [clientId] }

/-- `_clientLogins[clientId]`, which creates a missing entry. -/
def loginOf (lobby : World) (clientId : ClientId) : LoginContext :=
  lobby.clientLogins[clientId]?.getD {}

def ensureLogin (clientId : ClientId) (lobby : World) : World :=
  { lobby with clientLogins := lobby.clientLogins.insertIfNew clientId {} }

/-- `ProcessLoginRequest`, and whether it threw. -/
def processLoginRequest (view : View) (lobby : World) : World × Bool :=
  match lobby.loginRequestQueue with
  | [] => (lobby, false)
  | clientId :: _ =>
    let context := loginOf lobby clientId
    let next := requestStep view context
    (applyRequest clientId context (ensureLogin clientId lobby) next, next = .failPunishments)

/-! ## The response queue -/

/-- What the director does about the client at the head of the response queue. -/
inductive ResponseStep where
  | awaitCharacterLoad
  | failUserRecord
  | requestCharacterLoad
  | rejectCharacterData
  | rejectDuplicated
  | accept (characterUid : Uid)
  deriving DecidableEq

/-- The checks of `ProcesLoginResponse`, in their order. -/
def responseStep (view : View) (lobby : World) (context : LoginContext) : ResponseStep :=
  if context.userCharacterLoadRequested && view.areDataBeingLoaded context.userName then
    .awaitCharacterLoad
  else
    match view.characterUid context.userName with
    | none => .failUserRecord
    | some characterUid =>
      if characterUid ≠ invalidUid ∧ !context.userCharacterLoadRequested then
        .requestCharacterLoad
      else if characterUid ≠ invalidUid ∧ !view.areCharacterDataLoaded context.userName then
        .rejectCharacterData
      else if context.userName ∈ lobby.userInstances then .rejectDuplicated
      else .accept characterUid

def popResponse (lobby : World) : World :=
  { lobby with loginResponseQueue := lobby.loginResponseQueue.tail }

def createInstance (clientId : ClientId) (userName : Text) (characterUid : Uid) (lobby : World) :
    World :=
  record [.accepted clientId userName] { lobby with
    userInstances := lobby.userInstances.insert userName ⟨userName, characterUid⟩ }

/-- The last part of `ProcesLoginResponse`: the user instance is created first, and the login
context stays when the client has no address any more. -/
def acceptUser (view : View) (clientId : ClientId) (userName : Text) (characterUid : Uid)
    (lobby : World) : World :=
  let created := createInstance clientId userName characterUid lobby
  let requiresCharacterCreator :=
    characterUid ∈ created.charactersForcedIntoCreator || characterUid = invalidUid
  let unforced := { created with
    charactersForcedIntoCreator := created.charactersForcedIntoCreator.erase characterUid }
  let accepted := acceptLogin view clientId requiresCharacterCreator unforced
  { accepted with
    clientLogins :=
      if view.hasAddress clientId then accepted.clientLogins.erase clientId
      else accepted.clientLogins }

def applyResponse (view : View) (clientId : ClientId) (context : LoginContext) (lobby : World) :
    ResponseStep → World
  | .awaitCharacterLoad => lobby
  | .failUserRecord => lobby
  | .requestCharacterLoad =>
    setLogin clientId { context with userCharacterLoadRequested := true } lobby
  | .rejectCharacterData => rejectLogin clientId .generic (popResponse lobby)
  | .rejectDuplicated => rejectLogin clientId .duplicated (popResponse lobby)
  | .accept characterUid =>
    acceptUser view clientId context.userName characterUid (popResponse lobby)

/-- `GetClientAddress` throws for a client that is gone, and `Immutable` for a missing record. -/
def responseThrows (view : View) (clientId : ClientId) : ResponseStep → Bool
  | .failUserRecord => true
  | .accept _ => !view.hasAddress clientId
  | _ => false

/-- `ProcesLoginResponse`, and whether it threw. -/
def processLoginResponse (view : View) (lobby : World) : World × Bool :=
  match lobby.loginResponseQueue with
  | [] => (lobby, false)
  | clientId :: _ =>
    let context := loginOf lobby clientId
    let next := responseStep view lobby context
    (applyResponse view clientId context (ensureLogin clientId lobby) next,
      responseThrows view clientId next)

/-! ## Verdicts and jobs -/

/-- A context takes the verdict on its user name, the last one if there are several. -/
def applyVerdict (context : LoginContext) (verdict : Verdict) : LoginContext :=
  if verdict.userName ≠ context.userName then context
  else { context with isAuthenticated := some verdict.isAuthenticated }

def pollVerdicts (lobby : World) : World :=
  if lobby.service.hasVerdicts then
    { lobby with
      service := lobby.service.poll
      clientLogins := lobby.clientLogins.map fun _ context =>
        lobby.service.verdicts.foldl applyVerdict context }
  else lobby

/-- `QueueClientConnect`. -/
def queueClientConnect (clientId : ClientId) (lobby : World) : World :=
  { lobby with clientLogins := lobby.clientLogins.insertIfNew clientId {} }

/-- `QueueClientLogin`: the flags of the login context stay as they are. -/
def queueClientLogin (clientId : ClientId) (userName userToken : Text) (lobby : World) : World :=
  match lobby.clientLogins[clientId]? with
  | none => lobby
  | some context =>
    { setLogin clientId { context with userName := userName, userToken := userToken } lobby with
      loginRequestQueue := lobby.loginRequestQueue ++ [clientId] }

/-- `QueueClientLogout`. -/
def queueClientLogout (userName : Text) (lobby : World) : World :=
  { lobby with userInstances := lobby.userInstances.erase userName }

/-- `QueueClientDisconnect`. -/
def queueClientDisconnect (clientId : ClientId) (lobby : World) : World :=
  { lobby with
    loginRequestQueue := lobby.loginRequestQueue.filter (· ≠ clientId)
    loginResponseQueue := lobby.loginResponseQueue.filter (· ≠ clientId)
    clientLogins := lobby.clientLogins.erase clientId }

def runTask : Task → World → World
  | .connect clientId, lobby => queueClientConnect clientId lobby
  | .login clientId userName userToken, lobby => queueClientLogin clientId userName userToken lobby
  | .disconnect clientId isAuthenticated userName, lobby =>
    queueClientDisconnect clientId
      (if isAuthenticated then queueClientLogout userName lobby else lobby)
  | .other, lobby => lobby

/-- The job that the scheduler executes in its next tick. -/
def nextTask (lobby : World) : Option Task :=
  (lobby.scheduler.select lobby.clock).current?

/-- `_scheduler.Tick()`. -/
def tickScheduler (lobby : World) : World :=
  let selected := lobby.scheduler.select lobby.clock
  match selected.current? with
  | none => { lobby with scheduler := selected }
  | some task => { runTask task lobby with scheduler := selected.erase }

/-- The next part of the director's tick. -/
def tickPhase (view : View) (lobby : World) : World :=
  match lobby.phase with
  | .response =>
    let (next, threw) := processLoginResponse view lobby
    { next with phase := if threw then .response else .request }
  | .request =>
    let (next, threw) := processLoginRequest view lobby
    { next with phase := if threw then .response else .verdicts }
  | .verdicts => { pollVerdicts lobby with phase := .jobs }
  | .jobs => { tickScheduler lobby with phase := .response }

/-! ## The network handler -/

def queueTask (task : Task) (lobby : World) : World :=
  { lobby with scheduler := lobby.scheduler.queue task lobby.clock }

/-- `HandleClientConnected`; the server numbers its clients in sequence. -/
def handleClientConnected (lobby : World) : World :=
  let clientId := lobby.nextClientId
  queueTask (.connect clientId) { lobby with
    nextClientId := clientId + 1
    clients := lobby.clients.insertIfNew clientId {} }

/-- `HandleClientDisconnected` throws when the client has no context. -/
def handleClientDisconnected (clientId : ClientId) (lobby : World) : World :=
  match lobby.clients[clientId]? with
  | none => lobby
  | some context =>
    let queued := queueTask (.disconnect clientId context.isAuthenticated context.userName) lobby
    { queued with clients := queued.clients.erase clientId }

/-- Some authenticated client has the user name. -/
def isNameInUse (lobby : World) (userName : Text) : Bool :=
  lobby.clients.toList.any fun entry => entry.2.userName = userName && entry.2.isAuthenticated

/-- `HandleLogin`, after the command was received. -/
def checkLogin (clientId : ClientId) (loginId authKey : Text) (lobby : World) : World :=
  if loginId = [] ∨ authKey = [] then sendLoginCancel clientId .invalidLoginId lobby
  else if isNameInUse lobby loginId then sendLoginCancel clientId .duplicated lobby
  else
    match lobby.clients[clientId]? with
    | none => lobby
    | some context =>
      record [.submitted clientId loginId authKey]
        (queueTask (.login clientId loginId authKey) { lobby with
          clients := lobby.clients.insert clientId { context with userName := loginId } })

def handleLogin (clientId : ClientId) (loginId authKey : Text) (lobby : World) : World :=
  checkLogin clientId loginId authKey (record [.received clientId] lobby)

/-- The backend answers the request at the front of the authentication queue, or does not. -/
def authenticate (answer : Option Bool) (lobby : World) : World :=
  let asked := { lobby with service := lobby.service.tick answer }
  match lobby.service.queue, answer with
  | request :: _, some isAuthenticated =>
    record [.verdict request.userName request.userToken isAuthenticated] asked
  | _, _ => asked

inductive Input where
  | connect
  | login (clientId : ClientId) (loginId authKey : Text)
  | disconnect (clientId : ClientId)
  | authenticate (answer : Option Bool)
  /-- The director runs the next part of its tick. -/
  | director (view : View)
  /-- Another handler queues a task. -/
  | schedule (due : Nat)
  | forceIntoCreator (characterUid : Uid) (force : Bool)
  | elapse (duration : Nat)

def step (lobby : World) : Input → World
  | .connect => handleClientConnected lobby
  | .login clientId loginId authKey => handleLogin clientId loginId authKey lobby
  | .disconnect clientId => handleClientDisconnected clientId lobby
  | .authenticate answer => authenticate answer lobby
  | .director view => tickPhase view lobby
  | .schedule due => { lobby with scheduler := lobby.scheduler.queue .other due }
  | .forceIntoCreator characterUid force =>
    { lobby with
      charactersForcedIntoCreator :=
        if force then lobby.charactersForcedIntoCreator.insert characterUid
        else lobby.charactersForcedIntoCreator.erase characterUid }
  | .elapse duration => { lobby with clock := lobby.clock + duration }

end Alicia.Lobby
