import Alicia.Data.Director
import Alicia.Transition.Run

/-!
# Contacts

The commands of the messenger that change the contacts of characters.  A character has a set of
pending friend requests and its friends in groups; the group of uid 0 is the default one.  Requests
and friendships concern two characters, whose records are written one after the other.

A client has to be authenticated, so the commands have a character that invokes them.
-/

namespace Alicia.Messenger

open Transition Data
open Chrono (TimePoint)
open Character (Group Contacts)
open DataDirector (characterStorage)
open Std (ExtTreeMap ExtTreeSet)

abbrev Handler (α : Type) := Effect DataDirector String α

def friendsCategoryUid : Uid := 0

/-- `"_internal_friends_group_"` -/
def internalFriendsGroup : Text := "_internal_friends_group_".toList.map Char.toUInt8

structure ChatterErrorCode where
  raw : UInt32
  deriving DecidableEq

namespace ChatterErrorCode
def buddyDeleteTargetCharacterUnavailable : ChatterErrorCode := ⟨18⟩
def buddyMoveGroupDoesNotExist : ChatterErrorCode := ⟨19⟩
def buddyMoveAlreadyInGroup : ChatterErrorCode := ⟨20⟩
def buddyMoveFriendNotFound : ChatterErrorCode := ⟨21⟩
def groupRenameGroupDoesNotExist : ChatterErrorCode := ⟨22⟩
def groupRenameDuplicateName : ChatterErrorCode := ⟨23⟩
def groupDeleteGroupDoesNotExist : ChatterErrorCode := ⟨24⟩
def groupDeleteDefaultFriendGroupMissing : ChatterErrorCode := ⟨25⟩
end ChatterErrorCode

/-- What the invoker is told.  `requested` is told to the target of a request, and the names of a new
friendship go to both friends. -/
inductive Reply where
  | nothing
  | requested (requestingCharacterName : Text)
  | buddyAdded (requestingCharacterName respondingCharacterName : Text)
  | buddyDeleted (characterUid : Uid)
  | buddyMoved (characterUid groupUid : Uid)
  | groupAdded (groupUid : Uid) (groupName : Text)
  | groupRenamed (groupUid : Uid) (groupName : Text)
  | groupDeleted (groupUid : Uid)
  | cancel (errorCode : ChatterErrorCode)
  /-- The handler read behind the end of a map, and the language says nothing about what follows. -/
  | undefined
  deriving DecidableEq

def withGroups (groups : ExtTreeMap Uid Group) (character : Character) : Character :=
  { character with contacts := { character.contacts with groups := groups } }

def withPending (pending : ExtTreeSet Uid) (character : Character) : Character :=
  { character with contacts := { character.contacts with pending := pending } }

/-! ## Friend requests -/

/-- `character.contacts.pending().emplace(characterUid)` -/
def request (characterUid : Uid) (character : Character) : Character :=
  withPending (character.contacts.pending.insert characterUid) character

/-- `character.contacts.pending().erase(characterUid)` -/
def reject (characterUid : Uid) (character : Character) : Character :=
  withPending (character.contacts.pending.erase characterUid) character

/-- The default group, which might not be initialised. -/
def friendsGroup (now : TimePoint) (groups : ExtTreeMap Uid Group) : Group :=
  groups[friendsCategoryUid]?.getD { name := internalFriendsGroup, createdAt := now }

/-- Add the character of the uid to the friends. -/
def acceptFriendRequest (characterUid : Uid) (now : TimePoint) (character : Character) : Character :=
  let erased := reject characterUid character
  let group := friendsGroup now erased.contacts.groups
  withGroups (erased.contacts.groups.insert friendsCategoryUid
    { group with members := group.members.insert characterUid }) erased

/-- What the lookups of a request find.  `target` is the answer of `RetrieveCharacterUidByName`,
which makes a pattern of the name and may throw. -/
structure BuddyAddLookups where
  target : Option Uid
  invoker : Bool := true
  pending : Bool := true
  again : Bool := true

def handleChatterBuddyAdd (invoker : Uid) (characterName : Text) (lookups : BuddyAddLookups) :
    Handler Reply := do
  let targetCharacterUid ← Effect.ofOption "regex error" lookups.target
  if targetCharacterUid = invalidUid then
    return .nothing
  let character ← characterStorage.immutable lookups.invoker invoker
  if characterName = character.name then
    return .nothing
  let target ← characterStorage.immutable lookups.pending targetCharacterUid
  if invoker ∈ target.contacts.pending then
    return .nothing
  characterStorage.mutable lookups.again targetCharacterUid (request invoker)
  return .requested character.name

structure BuddyAddReply where
  requestingCharacterUid : Uid
  requestAccepted : Bool

/-- Which records of a reply are available. -/
structure BuddyAddReplyLookups where
  requesting : Bool := true
  responding : Bool := true

def handleChatterBuddyAddReply (invoker : Uid) (command : BuddyAddReply)
    (lookups : BuddyAddReplyLookups) (now : TimePoint) : Handler Reply := do
  match characterStorage.find lookups.requesting command.requestingCharacterUid (← get) with
  | none => return .nothing
  | some requesting =>
    let responding ← characterStorage.immutable lookups.responding invoker
    if command.requestAccepted then
      characterStorage.mutable true command.requestingCharacterUid
        (acceptFriendRequest invoker now)
      characterStorage.mutable true invoker
        (acceptFriendRequest command.requestingCharacterUid now)
      return .buddyAdded requesting.name responding.name
    else
      characterStorage.mutable true invoker (reject command.requestingCharacterUid)
      return .nothing

/-! ## Friends -/

/-- Erase the character of the uid from all the groups. -/
def deleteFriend (characterUid : Uid) (character : Character) : Character :=
  withGroups (character.contacts.groups.map fun _ group =>
    { group with members := group.members.erase characterUid }) character

def handleChatterBuddyDelete (invoker characterUid : Uid) (targetAvailable invokerAvailable : Bool) :
    Handler Reply := do
  if (characterStorage.find targetAvailable characterUid (← get)).isNone then
    return .cancel .buddyDeleteTargetCharacterUnavailable
  characterStorage.mutable true characterUid (deleteFriend invoker)
  characterStorage.mutable invokerAvailable invoker (deleteFriend characterUid)
  return .buddyDeleted characterUid

/-- The first group, in the order of the uids, that the friend is in. -/
def groupOf (characterUid : Uid) (groups : ExtTreeMap Uid Group) : Option (Uid × Group) :=
  groups.toList.find? fun entry => characterUid ∈ entry.2.members

/-- Move a friend out of the group `source`. -/
def moveFriend (characterUid groupUid : Uid) (source : Uid × Group)
    (groups : ExtTreeMap Uid Group) : ExtTreeMap Uid Group :=
  let erased := groups.insert source.1
    { source.2 with members := source.2.members.erase characterUid }
  match erased[groupUid]? with
  | none => erased
  | some target =>
    erased.insert groupUid { target with members := target.members.insert characterUid }

/-- The consumer of the invoker's record: why the friend is not moved, or the groups. -/
def buddyMove (characterUid groupUid : Uid) (character : Character) :
    Option ChatterErrorCode × Character :=
  let groups := character.contacts.groups
  match groups[groupUid]? with
  | none => (some .buddyMoveGroupDoesNotExist, character)
  | some group =>
  if characterUid ∈ group.members then (some .buddyMoveAlreadyInGroup, character)
  else
    match groupOf characterUid groups with
    | none => (some .buddyMoveFriendNotFound, character)
    | some source => (none, withGroups (moveFriend characterUid groupUid source groups) character)

def handleChatterBuddyMove (invoker characterUid groupUid : Uid) (available : Bool) :
    Handler Reply := do
  match ← characterStorage.mutableGet available invoker (buddyMove characterUid groupUid) with
  | some errorCode => return .cancel errorCode
  | none => return .buddyMoved characterUid groupUid

/-! ## Groups -/

/-- The uid of the group that a new group comes after, which the consumer reads without looking
whether there is one.  Adding to it wraps around. -/
def nextGroupUid (groups : ExtTreeMap Uid Group) : Option Uid := groups.maxKey?.map (· + 1)

/-- The consumer of the invoker's record: the uid of the group, or `none` where it reads behind the
end of the groups. -/
def groupAdd (groupName : Text) (now : TimePoint) (character : Character) :
    Option Uid × Character :=
  let groups := character.contacts.groups
  match nextGroupUid groups with
  | none => (none, character)
  | some next =>
    if next = 0 ∨ next ∈ groups then (some invalidUid, character)
    else
      let group := { uid := next, name := groupName, createdAt := now }
      (some next, withGroups (groups.insert next group) character)

def handleChatterGroupAdd (invoker : Uid) (groupName : Text) (now : TimePoint) (available : Bool) :
    Handler Reply := do
  match ← characterStorage.mutableGet available invoker (groupAdd groupName now) with
  | none => return .undefined
  | some groupUid => return .groupAdded groupUid groupName

/-- The consumer of the invoker's record: why the group is not renamed, or the groups. -/
def groupRename (groupUid : Uid) (groupName : Text) (character : Character) :
    Option ChatterErrorCode × Character :=
  let groups := character.contacts.groups
  match groups[groupUid]? with
  | none => (some .groupRenameGroupDoesNotExist, character)
  | some group =>
  if groups.toList.any fun entry => entry.2.name = groupName then
    (some .groupRenameDuplicateName, character)
  else (none, withGroups (groups.insert groupUid { group with name := groupName }) character)

def handleChatterGroupRename (invoker groupUid : Uid) (groupName : Text) (available : Bool) :
    Handler Reply := do
  match ← characterStorage.mutableGet available invoker (groupRename groupUid groupName) with
  | some errorCode => return .cancel errorCode
  | none => return .groupRenamed groupUid groupName

/-- The consumer of the invoker's record: why the group is not deleted, or the groups.  The members
of the group become members of the default group. -/
def groupDelete (groupUid : Uid) (character : Character) : Option ChatterErrorCode × Character :=
  let groups := character.contacts.groups
  match groups[groupUid]?, groups[friendsCategoryUid]? with
  | none, _ => (some .groupDeleteGroupDoesNotExist, character)
  | some _, none => (some .groupDeleteDefaultFriendGroupMissing, character)
  | some group, some friendsGroup =>
    let members := friendsGroup.members.insertMany group.members.toList
    let moved := groups.insert friendsCategoryUid { friendsGroup with members := members }
    (none, withGroups (moved.erase groupUid) character)

def handleChatterGroupDelete (invoker groupUid : Uid) (available : Bool) : Handler Reply := do
  match ← characterStorage.mutableGet available invoker (groupDelete groupUid) with
  | some errorCode => return .cancel errorCode
  | none => return .groupDeleted groupUid

/-! ## Steps -/

/-- A command of the character `invoker`, with what decides about it besides the records. -/
inductive Command where
  | buddyAdd (characterName : Text) (lookups : BuddyAddLookups)
  | buddyAddReply (command : BuddyAddReply) (lookups : BuddyAddReplyLookups) (now : TimePoint)
  | buddyDelete (characterUid : Uid) (targetAvailable invokerAvailable : Bool)
  | buddyMove (characterUid groupUid : Uid) (available : Bool)
  | groupAdd (groupName : Text) (now : TimePoint) (available : Bool)
  | groupRename (groupUid : Uid) (groupName : Text) (available : Bool)
  | groupDelete (groupUid : Uid) (available : Bool)

def handle (invoker : Uid) : Command → Handler Reply
  | .buddyAdd characterName lookups => handleChatterBuddyAdd invoker characterName lookups
  | .buddyAddReply command lookups now => handleChatterBuddyAddReply invoker command lookups now
  | .buddyDelete characterUid targetAvailable invokerAvailable =>
    handleChatterBuddyDelete invoker characterUid targetAvailable invokerAvailable
  | .buddyMove characterUid groupUid available =>
    handleChatterBuddyMove invoker characterUid groupUid available
  | .groupAdd groupName now available => handleChatterGroupAdd invoker groupName now available
  | .groupRename groupUid groupName available =>
    handleChatterGroupRename invoker groupUid groupName available
  | .groupDelete groupUid available => handleChatterGroupDelete invoker groupUid available

/-- One command.  A handler that throws leaves what it wrote before. -/
def step (data : DataDirector) (input : Uid × Command) : DataDirector :=
  (handle input.1 input.2).final data

end Alicia.Messenger
