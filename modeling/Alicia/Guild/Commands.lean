import Alicia.Data.Director
import Alicia.Text

/-!
# Guild commands

The commands of the ranch and of the lobby that change who belongs to a guild.  A character record
names its guild and a guild record lists its members, and the handlers write the two separately.
-/

namespace Alicia.Guild

open Transition Data
open DataDirector (characterStorage guildStorage)

/-- The records, with the invitations that the lobby keeps for each guild. -/
structure World where
  data : DataDirector := {}
  invites : Uid → List Uid := fun _ => []

abbrev Handler (α : Type) := Effect World String α

/-- What a handler does with records. -/
def onData {α : Type} (x : Effect DataDirector String α) : Handler α :=
  x.zoom World.data fun data world => { world with data := data }

inductive GuildError where
  | noUserOrOffline
  | noGuild
  | joinedGuild
  | noAuthority
  | cannotInviteSelf
  | notAlone
  | unknown
  deriving DecidableEq

/-- What the caller is told. -/
inductive Reply where
  | nothing
  | ok
  | cancel (status : UInt8)
  | error (error : GuildError)
  deriving DecidableEq

/-! ## Creation -/

def guildCost : Int32 := 3000

structure CreateGuild where
  name : Text
  description : Text

/-- What the checks of a new guild's texts say. -/
structure Verdicts where
  isNameValid : Bool := true
  namePrevented : Bool := false
  descriptionPrevented : Bool := false
  nameUnique : Bool := true

def Verdicts.prevent (verdicts : Verdicts) : Bool :=
  !verdicts.isNameValid || verdicts.namePrevented || verdicts.descriptionPrevented

/-- The guild record that a creation fills in. -/
def newGuild (caller : Uid) (command : CreateGuild) (guild : Data.Guild) : Data.Guild :=
  { guild with
    name := command.name
    description := command.description
    owner := caller
    members := guild.members ++ [caller] }

/-- The founder pays for the guild. -/
def payFounding (guildUid : Uid) (character : Character) : Character :=
  { character with carrots := character.carrots - guildCost, guildUid := guildUid }

/-- `character.guildUid() = guildUid` -/
def setGuild (guildUid : Uid) (character : Character) : Character :=
  { character with guildUid := guildUid }

def handleCreateGuild (caller : Uid) (command : CreateGuild) (verdicts : Verdicts)
    (available : Bool) (allocated : Option Uid) (online : Bool) : Handler Reply := do
  if verdicts.prevent then
    return .cancel 23
  let character ← onData (characterStorage.immutable available caller)
  if character.carrots < guildCost || !verdicts.nameUnique then
    return .cancel 0
  match ← onData (guildStorage.create allocated fun uid => { uid := uid }) with
  | none => throw "Failed to create guild for user"
  | some uid =>
    onData (guildStorage.mutable true uid (newGuild caller command))
    onData (characterStorage.mutable true caller (payFounding uid))
    -- The name of the caller's user is looked up for the log.
    if !online then
      throw "User instance for character not available"
    return .ok

/-! ## Withdrawal -/

/-- The underlying value of an `AcCmdCRWithdrawGuildMember::Option`. -/
structure WithdrawOption where
  raw : UInt8
  deriving DecidableEq

namespace WithdrawOption
def leave : WithdrawOption := ⟨0⟩
def kicked : WithdrawOption := ⟨1⟩
def disband : WithdrawOption := ⟨2⟩
end WithdrawOption

structure WithdrawGuildMember where
  characterUid : Uid
  option : WithdrawOption

/-- Which records of a withdrawal are available when they are accessed. -/
structure WithdrawLookups where
  character : Bool := true
  guild : Bool := true
  characterAgain : Bool := true

/-- Why a guild is not disbanded. -/
def disbandError (characterUid : Uid) (guild : Data.Guild) : Option GuildError :=
  if guild.owner ≠ characterUid then some .noAuthority
  else if guild.members ≠ [characterUid] || guild.officers.length > 0 then some .notAlone
  else none

/-- Make sure there is no trace of an ex-member in the guild. -/
def expel (characterUid : Uid) (guild : Data.Guild) : Data.Guild :=
  { guild with
    members := guild.members.erase characterUid
    officers := guild.officers.erase characterUid }

/-- The consumer of the guild record. -/
def withdraw (option : WithdrawOption) (characterUid : Uid) (guild : Data.Guild) :
    Option GuildError × Data.Guild :=
  match if option = .disband then disbandError characterUid guild else none with
  | some error => (some error, guild)
  | none => (none, expel characterUid guild)

/-- The character that withdraws. -/
def WithdrawGuildMember.target (command : WithdrawGuildMember) (caller : Uid) : Uid :=
  if command.option = .kicked then command.characterUid else caller

/-- Leaving is for the caller, and kicking for another character. -/
def WithdrawGuildMember.isWrong (command : WithdrawGuildMember) (caller : Uid) : Bool :=
  (command.option = .leave && command.characterUid ≠ caller) ||
    (command.option = .kicked && command.characterUid = caller)

def handleWithdrawGuild (caller : Uid) (command : WithdrawGuildMember)
    (lookups : WithdrawLookups) : Handler Reply := do
  if command.isWrong caller then
    return .error .unknown
  let characterUid := command.target caller
  let character ← onData (characterStorage.immutable lookups.character characterUid)
  let guildUid := character.guildUid
  let error ← onData (guildStorage.mutableGet lookups.guild guildUid
    (withdraw command.option characterUid))
  match error with
  | some error => return .error error
  | none =>
    onData (characterStorage.mutable lookups.characterAgain characterUid (setGuild invalidUid))
    if command.option = .disband then
      onData (modify (guildStorage.erase guildUid))
    return .ok

/-! ## Roles -/

/-- The underlying value of a `protocol::GuildRole`. -/
structure GuildRole where
  raw : UInt8
  deriving DecidableEq

namespace GuildRole
def owner : GuildRole := ⟨10⟩
def officer : GuildRole := ⟨100⟩
def member : GuildRole := ⟨200⟩
end GuildRole

def maxOfficers : Nat := 2

structure UpdateGuildMemberGrade where
  characterUid : Uid
  guildRole : GuildRole

/-- The consumer of the guild record: the status of a failure, or the new roles. -/
def updateGrade (caller : Uid) (command : UpdateGuildMemberGrade) (guild : Data.Guild) :
    Option UInt8 × Data.Guild :=
  if guild.owner ≠ caller then (some 7, guild)
  else if command.characterUid ∉ guild.members then (some 1, guild)
  else if command.guildRole = .officer ∧ guild.officers.length ≥ maxOfficers then (some 0, guild)
  else if command.guildRole = .officer ∧ command.characterUid ∈ guild.officers then (some 0, guild)
  else if command.guildRole = .owner then
    -- The owner's case falls through to the demotion.
    let officers := guild.officers.erase command.characterUid
    (none, { guild with
      owner := command.characterUid
      officers := officers.erase command.characterUid })
  else if command.guildRole = .member then
    (none, { guild with officers := guild.officers.erase command.characterUid })
  else if command.guildRole = .officer then
    (none, { guild with officers := guild.officers ++ [command.characterUid] })
  else (none, guild)

def handleUpdateGuildMemberGrade (caller : Uid) (command : UpdateGuildMemberGrade)
    (characterAvailable guildAvailable : Bool) : Handler Reply := do
  let character ← onData (characterStorage.immutable characterAvailable caller)
  let guildUid := character.guildUid
  if guildUid = invalidUid then
    return .cancel 2
  if (guildStorage.find guildAvailable guildUid (← get).data).isNone then
    return .cancel 0
  match ← onData (guildStorage.mutableGet true guildUid (updateGrade caller command)) with
  | some status => return .cancel status
  | none => return .nothing

/-! ## Invitations -/

/-- Look for the character of a name among the characters of the online users. -/
def findInvitee (name : Text) : Uid × Uid → List (Uid × Bool) →
    Effect DataDirector String (Uid × Uid)
  | invitee, [] => pure invitee
  | invitee, (uid, available) :: rest => do
    let character ← characterStorage.immutable available uid
    let found :=
      if character.name = name then (character.uid, character.guildUid) else invitee
    if found.1 ≠ invalidUid then pure found else findInvitee name found rest

/-- Why a character is not invited. -/
def inviteError (caller inviterGuildUid inviteeUid inviteeGuildUid : Uid) : Option GuildError :=
  if inviterGuildUid = invalidUid then some .noGuild
  else if inviteeUid = invalidUid then some .noUserOrOffline
  else if inviteeUid = caller then some .cannotInviteSelf
  else if inviteeGuildUid ≠ invalidUid then some .joinedGuild
  else none

def handleInviteToGuild (caller : Uid) (characterName : Text) (inviterAvailable : Bool)
    (users : List (Uid × Bool)) : Handler Reply := do
  let inviter ← onData (characterStorage.immutable inviterAvailable caller)
  let (inviteeUid, inviteeGuildUid) ← onData
    (findInvitee characterName (invalidUid, invalidUid) users)
  match inviteError caller inviter.guildUid inviteeUid inviteeGuildUid with
  | some error => return .error error
  | none =>
    -- `InviteCharacterToGuild`
    modify fun world => { world with
      invites := Function.update world.invites inviter.guildUid
        (world.invites inviter.guildUid ++ [inviteeUid]) }
    return .nothing

structure InviteGuildJoinOK where
  characterUid : Uid
  guildUid : Uid

/-- The consumer of the guild record: whether the character joined. -/
def join (characterUid : Uid) (guild : Data.Guild) : Bool × Data.Guild :=
  if characterUid ∈ guild.members ∨ characterUid ∈ guild.officers ∨ guild.owner = characterUid then
    (false, guild)
  else (true, { guild with members := guild.members ++ [characterUid] })

def handleAcceptInviteToGuild (caller : Uid) (command : InviteGuildJoinOK)
    (characterAvailable guildAvailable : Bool) : Handler Reply := do
  let world ← get
  if caller ∉ world.invites command.guildUid then
    return .nothing
  modify fun world => { world with
    invites := Function.update world.invites command.guildUid
      ((world.invites command.guildUid).erase caller) }
  onData (characterStorage.mutable characterAvailable caller (setGuild command.guildUid))
  let _ ← onData (guildStorage.mutableGet guildAvailable command.guildUid
    (join command.characterUid))
  return .nothing

/-- Only the inviter is told. -/
def handleDeclineInviteToGuild : Handler Reply := pure .nothing

/-! ## Steps -/

/-- A command of the character `caller`, with what decides about it besides the records. -/
inductive Command where
  | createGuild (command : CreateGuild) (verdicts : Verdicts) (available : Bool)
      (allocated : Option Uid) (online : Bool)
  | withdrawGuild (command : WithdrawGuildMember) (lookups : WithdrawLookups)
  | updateGuildMemberGrade (command : UpdateGuildMemberGrade)
      (characterAvailable guildAvailable : Bool)
  | inviteToGuild (characterName : Text) (inviterAvailable : Bool) (users : List (Uid × Bool))
  | acceptInviteToGuild (command : InviteGuildJoinOK) (characterAvailable guildAvailable : Bool)
  | declineInviteToGuild

def handle (caller : Uid) : Command → Handler Reply
  | .createGuild command verdicts available allocated online =>
    handleCreateGuild caller command verdicts available allocated online
  | .withdrawGuild command lookups => handleWithdrawGuild caller command lookups
  | .updateGuildMemberGrade command characterAvailable guildAvailable =>
    handleUpdateGuildMemberGrade caller command characterAvailable guildAvailable
  | .inviteToGuild characterName inviterAvailable users =>
    handleInviteToGuild caller characterName inviterAvailable users
  | .acceptInviteToGuild command characterAvailable guildAvailable =>
    handleAcceptInviteToGuild caller command characterAvailable guildAvailable
  | .declineInviteToGuild => handleDeclineInviteToGuild

/-- One command.  A handler that throws leaves what it wrote before. -/
def step (world : World) (input : Uid × Command) : World :=
  (handle input.1 input.2).final world

end Alicia.Guild
