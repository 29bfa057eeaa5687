import Alicia.Messenger.Contacts
import Alicia.Otp
import Alicia.Collection.Maps

/-!
# The sessions of the messenger

The contexts of the clients of the messenger, and the handlers that log them in and out.  Every other
part of the messenger finds a character by the contexts.

What the answer to a login shows of mails and friends is left out.
-/

namespace Alicia.Messenger

open Std (ExtTreeMap ExtTreeSet)
open Transition Data
open Character (Group)

abbrev ClientId := Nat

/-! ## Contexts -/

/-- A status is any byte; a client may send one that has no name. -/
structure Presence where
  status : UInt8 := 1
  scene : UInt32 := 0
  sceneUid : Uid := invalidUid
  deriving DecidableEq

namespace Presence
def hidden : UInt8 := 0
def offline : UInt8 := 1
def online : UInt8 := 2
def ranch : UInt32 := 0
end Presence

structure ClientContext where
  isAuthenticated : Bool := false
  otpCode : Option UInt32 := none
  characterUid : Uid := invalidUid
  presence : Presence := {}
  deriving DecidableEq

/-- The contexts by client.  `connected` holds the clients of the server that have not been ended, and
`presented` the characters whose code a connection has presented. -/
structure MessengerDirector where
  otpSystem : OtpSystem := {}
  clients : ExtTreeMap ClientId ClientContext := ∅
  connected : ExtTreeSet ClientId := ∅
  nextClientId : ClientId := 0
  presented : List (ClientId × Uid) := []

abbrev SessionHandler (α : Type) := Effect MessengerDirector String α

/-- What a broadcast reads of the record of a character. -/
structure CharacterView where
  guildUid : Uid := invalidUid
  groups : List (List Uid) := []

/-- What the lookups of a handler find: the records that are available, and the members of a guild. -/
structure SessionLookups where
  now : Nat := 0
  /-- The record of the character that logs in, when its inbox and when its contacts are read. -/
  inbox : Bool := true
  contacts : Bool := true
  characters : Uid → Option CharacterView := fun _ => some {}
  guild : Option (List Uid) := some []

namespace MessengerDirector

variable (director : MessengerDirector)

def setContext (client : ClientId) (context : ClientContext) : MessengerDirector :=
  { director with clients := director.clients.insert client context }

/-- `GetClientContext`. -/
def getClientContext (client : ClientId) (requireAuthentication : Bool) : Except String ClientContext :=
  match director.clients[client]? with
  | none => .error "Messenger client is not available"
  | some context =>
    if requireAuthentication && !context.isAuthenticated then
      .error "Messenger client is not authenticated"
    else .ok context

/-- `GetClientByCharacterUid`; the contexts are in some order. -/
def getClientByCharacterUid (characterUid : Uid) : Option (ClientId × ClientContext) :=
  director.clients.toList.find? fun client => client.2.characterUid = characterUid

/-- `IsCharacterOnline`. -/
def isCharacterOnline (characterUid : Uid) : Bool :=
  (director.getClientByCharacterUid characterUid).isSome

end MessengerDirector

def recordUnavailable : String := "Value of the record is unavailable"

/-- `GetCharacter(uid).Immutable`. -/
def SessionLookups.character (lookups : SessionLookups) (uid : Uid) : Except String CharacterView :=
  if uid = invalidUid then .error recordUnavailable
  else
    match lookups.characters uid with
    | none => .error recordUnavailable
    | some character => .ok character

/-! ## States -/

/-- Who is told about a state. -/
inductive Notice where
  | friend (client : ClientId)
  | guildMember (client : ClientId)
  deriving DecidableEq

/-- The loop over the contexts by which `HandleChatterUpdateState` finds whom to tell. -/
def notices (lookups : SessionLookups) (client : ClientId) (characterUid guildUid : Uid) :
    List (ClientId × ClientContext) → Except String (List Notice)
  | [] => .ok []
  | (onlineClient, online) :: rest =>
    if !online.isAuthenticated then notices lookups client characterUid guildUid rest
    else if onlineClient = client ∧ guildUid ≠ invalidUid then
      (.guildMember onlineClient :: ·) <$> notices lookups client characterUid guildUid rest
    else
      match lookups.character online.characterUid with
      | .error failure => .error failure
      | .ok character =>
        let friends := if character.groups.any (·.contains characterUid) then [.friend onlineClient] else []
        let members :=
          if guildUid ≠ invalidUid ∧ guildUid = character.guildUid then [.guildMember onlineClient]
          else []
        (friends ++ members ++ ·) <$> notices lookups client characterUid guildUid rest

/-- What `HandleChatterUpdateState` finds out before it tells anyone. -/
def broadcast (lookups : SessionLookups) (client : ClientId) (characterUid : Uid)
    (director : MessengerDirector) : Except String (List Notice) :=
  match lookups.character characterUid with
  | .error failure => .error failure
  | .ok character => notices lookups client characterUid character.guildUid director.clients.toList

/-- `HandleChatterUpdateState`. -/
def handleChatterUpdateState (lookups : SessionLookups) (client : ClientId) (presence : Presence) :
    SessionHandler (List Notice) := do
  let context ← Effect.ask (·.getClientContext client false)
  if !context.isAuthenticated then return []
  else if presence.status > 5 then return []
  else if presence.status = Presence.hidden then return []
  else
    modify (·.setContext client { context with presence := presence })
    Effect.ask (broadcast lookups client context.characterUid)

/-! ## Connections -/

/-- A client connects, and `HandleClientConnected` runs. -/
def handleClientConnected (director : MessengerDirector) : MessengerDirector :=
  { director with
    clients := director.clients.insertIfNew director.nextClientId {}
    connected := director.connected.insert director.nextClientId
    nextClientId := director.nextClientId + 1 }

/-- `HandleClientDisconnected`. -/
def handleClientDisconnected (lookups : SessionLookups) (client : ClientId) : SessionHandler Unit := do
  let _ ← handleChatterUpdateState lookups client { status := Presence.offline }
  modify fun director => { director with clients := director.clients.erase client }

/-- `Client::End`: the handler runs once. -/
def endClient (lookups : SessionLookups) (client : ClientId) : SessionHandler Unit := do
  if client ∈ (← get).connected then
    modify fun director => { director with connected := director.connected.erase client }
    handleClientDisconnected lookups client
  else return ()

/-! ## Logins -/

/-- `ChatCmdLogin` and `ChatCmdGuildLogin`, without the name. -/
structure ChatCmdLogin where
  characterUid : Uid
  code : UInt32
  guildUid : Uid := invalidUid
  deriving DecidableEq

namespace ChatterErrorCode
def loginFailed : ChatterErrorCode := ⟨1⟩
def commandCharacterIsNotClientCharacter : ChatterErrorCode := ⟨2⟩
def guildLoginClientNotAuthenticated : ChatterErrorCode := ⟨4⟩
def guildLoginCharacterNotGuildMember : ChatterErrorCode := ⟨5⟩
end ChatterErrorCode

section Logins

-- The key of the codes for a character: `MessengerOtpConstant` combined into the hash of its uid.
variable (identityHash : Uid → UInt64)

namespace MessengerDirector

/-- Whether the code of a command is the one that waits for the character. -/
def authorizes (director : MessengerDirector) (now : Nat) (command : ChatCmdLogin) : Bool :=
  (director.otpSystem.authorizeCode (identityHash command.characterUid) now command.code).1

/-- The code is used up, and the context tells whether it was right. -/
def authorized (now : Nat) (client : ClientId) (context : ClientContext) (command : ChatCmdLogin)
    (director : MessengerDirector) : MessengerDirector :=
  let isAuthenticated := director.authorizes identityHash now command
  { director.setContext client { context with isAuthenticated := isAuthenticated } with
    otpSystem :=
      (director.otpSystem.authorizeCode (identityHash command.characterUid) now command.code).2
    presented :=
      if isAuthenticated then director.presented ++ [(client, command.characterUid)]
      else director.presented }

end MessengerDirector

/-- A context behind the authorization of a login. -/
def ClientContext.welcomed (context : ClientContext) (command : ChatCmdLogin) : ClientContext :=
  { context with
    isAuthenticated := true
    otpCode := some command.code
    presence := ⟨Presence.online, Presence.ranch, context.characterUid⟩ }

/-- `HandleChatterLogin`. -/
def handleChatterLogin (lookups : SessionLookups) (client : ClientId) (command : ChatCmdLogin) :
    SessionHandler Unit := do
  let context ← Effect.ask (·.getClientContext client false)
  let isAuthenticated := (← get).authorizes identityHash lookups.now command
  modify (MessengerDirector.authorized identityHash lookups.now client context command)
  if !isAuthenticated then
    endClient lookups client
  else
    let context := context.welcomed command
    modify (·.setContext client context)
    if command.characterUid = invalidUid ∨ lookups.inbox = false then throw recordUnavailable
    else
      -- The record carries the uid that it is found by.
      let context := { context with characterUid := command.characterUid }
      modify (·.setContext client context)
      if !lookups.contacts then throw recordUnavailable
      else
        let _ ← handleChatterUpdateState lookups client
          ⟨Presence.online, Presence.ranch, command.characterUid⟩
        return ()

/-- What the client is told about a login to its guild: the members, and the states of those that are
online. -/
inductive GuildLoginReply where
  | ok (members : List (Uid × Option Presence))
  | cancel (errorCode : ChatterErrorCode)
  deriving DecidableEq

/-- `HandleChatterGuildLogin`. -/
def handleChatterGuildLogin (lookups : SessionLookups) (client : ClientId) (command : ChatCmdLogin) :
    SessionHandler GuildLoginReply := do
  let context ← Effect.ask (·.getClientContext client true)
  if context.otpCode ≠ some command.code then return .cancel .loginFailed
  else
    let context := { context with isAuthenticated := true }
    modify (·.setContext client context)
    match lookups.character context.characterUid with
    | .error failure => throw failure
    | .ok character =>
      if !context.isAuthenticated then return .cancel .guildLoginClientNotAuthenticated
      else if command.characterUid ≠ context.characterUid then
        return .cancel .commandCharacterIsNotClientCharacter
      else if character.guildUid ≠ command.guildUid then
        return .cancel .guildLoginCharacterNotGuildMember
      else
        match lookups.guild with
        | none => throw recordUnavailable
        | some members =>
          let director ← get
          let reply := members.map fun uid =>
            (uid, (director.getClientByCharacterUid uid).map fun online => online.2.presence)
          let _ ← handleChatterUpdateState lookups client context.presence
          return .ok reply

/-! ## Runs -/

inductive SessionStep where
  | connect
  /-- A code is granted to the user of a character. -/
  | grant (characterUid : Uid) (now : Nat) (code : UInt32)
  | login (lookups : SessionLookups) (client : ClientId) (command : ChatCmdLogin)
  | guildLogin (lookups : SessionLookups) (client : ClientId) (command : ChatCmdLogin)
  | updateState (lookups : SessionLookups) (client : ClientId) (presence : Presence)
  /-- The client is ended, by its connection or by the server. -/
  | disconnect (lookups : SessionLookups) (client : ClientId)

/-- A handler that throws leaves what it has changed. -/
def sessionStep (director : MessengerDirector) : SessionStep → MessengerDirector
  | .connect => handleClientConnected director
  | .grant characterUid now code =>
    { director with otpSystem := director.otpSystem.grantCode (identityHash characterUid) now code }
  | .login lookups client command => (handleChatterLogin identityHash lookups client command).final director
  | .guildLogin lookups client command => (handleChatterGuildLogin lookups client command).final director
  | .updateState lookups client presence =>
    (handleChatterUpdateState lookups client presence).final director
  | .disconnect lookups client => (endClient lookups client).final director

end Logins

end Alicia.Messenger
