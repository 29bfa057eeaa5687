import Alicia.Data.Director
import Alicia.Transition.Run

/-!
# What a list of letters shows

The commands of the messenger that list, read and delete mails.  The mailbox of a character has an
inbox and a sent folder, which are lists of mail uids with the newest mail first.  A mail that one
character sends to another one is a single record, which both mailboxes list.

A record is not available before it is loaded.  A lookup of such a record asks for it, and it may be
loaded later.

A lookup of a record changes what was asked for and nothing else.  So a list shows what the records
that are available say, whatever was looked up before it.
-/

namespace Alicia.Messenger

open Transition Effect Data Option Keeps
open Chrono (TimePoint Seconds)
open DataDirector (characterStorage mailStorage)

/-- Which records of a storage are available, and which ones were asked for. -/
structure Cache where
  available : Uid → Bool := fun _ => true
  requested : Uid → Bool := fun _ => false

/-- Ask for a record unless it is available. -/
def Cache.ask (uid : Uid) (cache : Cache) : Cache :=
  if uid = invalidUid ∨ cache.available uid = true then cache
  else { cache with requested := Function.update cache.requested uid true }

/-- Load the chosen ones of the records that were asked for. -/
def Cache.load (chosen : Uid → Bool) (cache : Cache) : Cache where
  available uid := cache.available uid || (cache.requested uid && chosen uid)
  requested uid := cache.requested uid && !chosen uid

structure World where
  data : DataDirector := {}
  characters : Cache := {}
  mails : Cache := {}

abbrev LetterHandler (α : Type) := Effect World String α

namespace World

/-- `GetCharacter(uid)`: the value of the record, if it is available. -/
def character (world : World) (uid : Uid) : Option Character :=
  characterStorage.find (world.characters.available uid) uid world.data

/-- `GetMail(uid)`: the value of the record, if it is available. -/
def mail (world : World) (uid : Uid) : Option Mail :=
  mailStorage.find (world.mails.available uid) uid world.data

def askCharacter (uid : Uid) (world : World) : World :=
  { world with characters := world.characters.ask uid }

def askMail (uid : Uid) (world : World) : World := { world with mails := world.mails.ask uid }

/-- Change the value of a mail. -/
def changeMail (uid : Uid) (consumer : Mail → Mail) (world : World) : World :=
  match world.data.mails uid with
  | none => world
  | some mail => { world with data := mailStorage.write uid (consumer mail) world.data }

end World

def getCharacter (uid : Uid) : LetterHandler (Option Character) := do
  let world ← get
  modify (World.askCharacter uid)
  return world.character uid

def getMail (uid : Uid) : LetterHandler (Option Mail) := do
  let world ← get
  modify (World.askMail uid)
  return world.mail uid

/-- `GetCharacter(uid).Immutable` -/
def readCharacter (uid : Uid) : LetterHandler Character := do
  Effect.ofOption "Value of the record is unavailable" (← getCharacter uid)

/-- `GetMail(uid).Immutable` -/
def readMail (uid : Uid) : LetterHandler Mail := do
  Effect.ofOption "Value of the record is unavailable" (← getMail uid)

/-! ## Messages -/

/-- The underlying value of a `MailboxFolder`. -/
structure MailboxFolder where
  raw : UInt8
  deriving DecidableEq

namespace MailboxFolder
def sent : MailboxFolder := ⟨1⟩
def inbox : MailboxFolder := ⟨2⟩
end MailboxFolder

inductive LetterError where
  | mailInvalidUid
  | mailDoesNotExistOrNotAvailable
  | mailDoesNotBelongToCharacter
  | mailUnknownMailboxFolder
  | letterDeleteUnknownMailboxFolder
  | letterDeleteMailDoesNotBelongToCharacter
  deriving DecidableEq

/-- The values of the `ChatterErrorCode`s. -/
def LetterError.raw : LetterError → UInt32
  | .mailInvalidUid => 6
  | .mailDoesNotExistOrNotAvailable => 7
  | .mailDoesNotBelongToCharacter => 8
  | .mailUnknownMailboxFolder => 9
  | .letterDeleteUnknownMailboxFolder => 11
  | .letterDeleteMailDoesNotBelongToCharacter => 13

/-- `ChatCmdLetterListAckOk::InboxMail`, with the time which its date is the text of. -/
structure InboxMail where
  uid : Uid
  type : MailType
  claimUid : Uid
  sender : Text
  date : Seconds
  /-- At least one byte for a mail that was read. -/
  unk0 : Text
  body : Text
  deriving DecidableEq

/-- `ChatCmdLetterListAckOk::SentMail`, with the time which its date is the text of. -/
structure SentMail where
  mailUid : Uid
  recipient : Text
  date : Seconds
  body : Text
  deriving DecidableEq

structure LetterListAckOk where
  mailboxFolder : MailboxFolder
  mailCount : UInt32 := 0
  hasMoreMail : Bool := false
  inboxMails : List InboxMail := []
  sentMails : List SentMail := []
  deriving DecidableEq

inductive LetterReply where
  | nothing
  | letters (response : LetterListAckOk)
  | read (unk0 : UInt32) (mailUid : Uid)
  | deleted (folder : MailboxFolder) (mailUid : Uid)
  | cancel (errorCode : LetterError)
  deriving DecidableEq

/-! ## The list of a folder -/

/-- `floor<seconds>` -/
def floorSeconds (time : TimePoint) : Seconds :=
  if time.sinceEpoch < time.castSeconds * 1000000000 then time.castSeconds - 1
  else time.castSeconds

/-- The mails of a folder. -/
def folderOf (folder : MailboxFolder) (character : Character) : List Uid :=
  if folder = .inbox then character.mailbox.inbox
  else if folder = .sent then character.mailbox.sent
  else []

/-- Erase the mails that are not available or deleted. -/
def eraseHidden : List Uid → LetterHandler (List Uid)
  | [] => pure []
  | mailUid :: rest => do
    let mail ← getMail mailUid
    let isErased := match mail with
      | none => true
      | some mail => mail.isDeleted
    let kept ← eraseHidden rest
    return if isErased then kept else mailUid :: kept

/-- The mails behind the last one, or all of them where it is not found. -/
def behind (lastMailUid : Uid) (mailbox : List Uid) : List Uid :=
  if lastMailUid ≠ invalidUid ∧ lastMailUid ∈ mailbox then
    (mailbox.dropWhile (· ≠ lastMailUid)).tail
  else mailbox

def maxMailsPerRequest : Nat := 10

def pageLength (count : UInt32) : Nat := min count.toNat maxMailsPerRequest

/-- `GetSystemNameFromType`, which throws for other types. -/
def systemName (type : MailType) : Option Text :=
  if type = .breedingReward then some ("Breeding System".toList.map Char.toUInt8)
  else if type = .carnivalReward then some ("Carnival System".toList.map Char.toUInt8)
  else if type = .noReply then some []
  else none

/-- The character that a mail was sent to or came from. -/
def correspondentUid (folder : MailboxFolder) (mail : Mail) : Uid :=
  if folder = .sent then mail.recipient else if folder = .inbox then mail.sender else invalidUid

def correspondentName (folder : MailboxFolder) (mail : Mail) : LetterHandler Text :=
  if correspondentUid folder mail = invalidUid then
    Effect.ofOption "Unsupported system mail type" (systemName mail.type)
  else do
    let character ← readCharacter (correspondentUid folder mail)
    return character.name

def inboxMail (mail : Mail) (sender : Text) : InboxMail where
  uid := mail.uid
  type := mail.type
  claimUid := mail.claimUid
  sender := sender
  date := floorSeconds mail.createdAt
  unk0 := if mail.isRead then [0x0F] else []
  body := mail.body

def sentMail (mail : Mail) (recipient : Text) : SentMail where
  mailUid := mail.uid
  recipient := recipient
  date := floorSeconds mail.createdAt
  body := mail.body

/-- Add a mail to the list of the folder. -/
def LetterListAckOk.add (mail : Mail) (name : Text) (response : LetterListAckOk) :
    LetterListAckOk :=
  if response.mailboxFolder = .sent then
    { response with sentMails := response.sentMails ++ [sentMail mail name] }
  else if response.mailboxFolder = .inbox then
    { response with inboxMails := response.inboxMails ++ [inboxMail mail name] }
  else response

/-- Build the response mailbox. -/
def buildResponse : LetterListAckOk → List Uid → LetterHandler LetterListAckOk
  | response, [] => pure response
  | response, mailUid :: rest => do
    let mail ← readMail mailUid
    let name ← correspondentName response.mailboxFolder mail
    buildResponse (response.add mail name) rest

structure LetterList where
  mailboxFolder : MailboxFolder
  lastMailUid : Uid
  count : UInt32

def handleChatterLetterList (invoker : Uid) (command : LetterList) : LetterHandler LetterReply := do
  if command.mailboxFolder ≠ .inbox ∧ command.mailboxFolder ≠ .sent then
    return .cancel .mailUnknownMailboxFolder
  let character ← readCharacter invoker
  let mailbox := folderOf command.mailboxFolder character
  if command.lastMailUid ≠ invalidUid ∧ command.lastMailUid ∉ mailbox then
    return .nothing
  let mailbox ← eraseHidden mailbox
  let remaining := behind command.lastMailUid mailbox
  let filteredMails := remaining.take (pageLength command.count)
  let response ← buildResponse { mailboxFolder := command.mailboxFolder } filteredMails
  return .letters { response with
    mailCount := filteredMails.length.toUInt32
    hasMoreMail := decide (filteredMails.length < remaining.length) }

/-! ## Reading and deleting a mail -/

/-- `mail.isRead() = true` -/
def markRead (mail : Mail) : Mail := { mail with isRead := true }

/-- `mail.isDeleted() = true` -/
def markDeleted (mail : Mail) : Mail := { mail with isDeleted := true }

def handleChatterLetterRead (invoker : Uid) (unk0 : UInt32) (mailUid : Uid) :
    LetterHandler LetterReply := do
  let mail ← getMail mailUid
  if mailUid = invalidUid then
    return .cancel .mailInvalidUid
  if mail.isNone then
    return .cancel .mailDoesNotExistOrNotAvailable
  let character ← readCharacter invoker
  if mailUid ∉ character.mailbox.inbox then
    return .cancel .mailDoesNotBelongToCharacter
  modify (World.changeMail mailUid markRead)
  return .read unk0 mailUid

def handleChatterLetterDelete (invoker : Uid) (folder : MailboxFolder) (mailUid : Uid) :
    LetterHandler LetterReply := do
  if folder ≠ .sent ∧ folder ≠ .inbox then
    return .cancel .letterDeleteUnknownMailboxFolder
  let mail ← getMail mailUid
  if mail.isNone then
    return .cancel .letterDeleteUnknownMailboxFolder
  let character ← readCharacter invoker
  if mailUid ∉ folderOf folder character then
    return .cancel .letterDeleteMailDoesNotBelongToCharacter
  modify (World.changeMail mailUid markDeleted)
  return .deleted folder mailUid

/-! ## Steps -/

inductive LetterCommand where
  | list (command : LetterList)
  | read (unk0 : UInt32) (mailUid : Uid)
  | delete (folder : MailboxFolder) (mailUid : Uid)

def handleLetter (invoker : Uid) : LetterCommand → LetterHandler LetterReply
  | .list command => handleChatterLetterList invoker command
  | .read unk0 mailUid => handleChatterLetterRead invoker unk0 mailUid
  | .delete folder mailUid => handleChatterLetterDelete invoker folder mailUid

/-- A command of a character, or the loading of records. -/
inductive LetterInput where
  | command (invoker : Uid) (command : LetterCommand)
  | load (characters mails : Uid → Bool)

def letterStep (world : World) : LetterInput → World
  | .command invoker command => (handleLetter invoker command).final world
  | .load characters mails =>
    { world with
      characters := world.characters.load characters
      mails := world.mails.load mails }

namespace World

/-- The mail is available and not deleted. -/
def shows (world : World) (uid : Uid) : Bool :=
  match world.mail uid with
  | none => false
  | some mail => !mail.isDeleted

/-- The name of the correspondent of a mail, if it has one that is available. -/
def name (world : World) (folder : MailboxFolder) (mail : Mail) : Option Text :=
  if correspondentUid folder mail = invalidUid then systemName mail.type
  else (world.character (correspondentUid folder mail)).map Character.name

end World

variable (uid : Uid)

theorem available_ask (other : Uid) (cache : Cache) :
    (cache.ask uid).available other = cache.available other := by
  unfold Cache.ask
  split <;> rfl

@[simp] theorem mail_askMail (other : Uid) (world : World) :
    (world.askMail uid).mail other = world.mail other := by
  show mailStorage.find ((world.mails.ask uid).available other) other world.data = _
  rw [available_ask]
  rfl

@[simp] theorem character_askCharacter (other : Uid) (world : World) :
    (world.askCharacter uid).character other = world.character other := by
  show characterStorage.find ((world.characters.ask uid).available other) other world.data = _
  rw [available_ask]
  rfl

/-- Nothing but what was asked for differs between the two states. -/
structure Asked (before after : World) : Prop where
  data : after.data = before.data
  mail : ∀ uid, after.mail uid = before.mail uid
  character : ∀ uid, after.character uid = before.character uid

instance : Std.Refl Asked := ⟨fun _ => ⟨rfl, fun _ => rfl, fun _ => rfl⟩⟩

instance : IsTrans World Asked where
  trans _ _ _ h h' := ⟨h'.data.trans h.data, fun uid => (h'.mail uid).trans (h.mail uid),
    fun uid => (h'.character uid).trans (h.character uid)⟩

theorem Asked.shows {before after : World} (h : Asked before after) (uid : Uid) :
    after.shows uid = before.shows uid := by
  unfold World.shows
  rw [h.mail]

theorem getMail_apply (world : World) :
    getMail uid world = .ok (world.mail uid) (world.askMail uid) := rfl

theorem getCharacter_apply (world : World) :
    getCharacter uid world = .ok (world.character uid) (world.askCharacter uid) := rfl

theorem readMail_apply (world : World) :
    readMail uid world = match world.mail uid with
      | some mail => .ok mail (world.askMail uid)
      | none => .error "Value of the record is unavailable" (world.askMail uid) := by
  rw [readMail, bind_ok (getMail_apply uid world)]
  cases world.mail uid <;> rfl

theorem readCharacter_apply (world : World) :
    readCharacter uid world = match world.character uid with
      | some character => .ok character (world.askCharacter uid)
      | none => .error "Value of the record is unavailable" (world.askCharacter uid) := by
  rw [readCharacter, bind_ok (getCharacter_apply uid world)]
  cases world.character uid <;> rfl

theorem asked_askMail (world : World) : Asked world (world.askMail uid) where
  data := rfl
  mail other := mail_askMail uid other world
  character _ := rfl

theorem asked_askCharacter (world : World) : Asked world (world.askCharacter uid) where
  data := rfl
  mail _ := rfl
  character other := character_askCharacter uid other world

theorem keeps_getMail : Keeps Asked (getMail uid) := asked_askMail uid

theorem keeps_readMail : Keeps Asked (readMail uid) := by
  intro world
  rw [Effect.final, readMail_apply]
  cases world.mail uid <;> exact asked_askMail uid world

theorem keeps_readCharacter : Keeps Asked (readCharacter uid) := by
  intro world
  rw [Effect.final, readCharacter_apply]
  cases world.character uid <;> exact asked_askCharacter uid world

theorem keeps_eraseHidden (mailbox : List Uid) : Keeps Asked (eraseHidden mailbox) := by
  induction mailbox with
  | nil => exact .pure _
  | cons mailUid rest ih =>
    apply bind (keeps_getMail mailUid)
    intro mail
    apply bind ih
    intro kept
    exact .pure _

theorem keeps_correspondentName (folder : MailboxFolder) (mail : Mail) :
    Keeps Asked (correspondentName folder mail) := by
  unfold correspondentName
  split
  · cases systemName mail.type with
    | none => exact .throw _
    | some name => exact .pure _
  · apply bind (keeps_readCharacter _)
    intro character
    exact .pure _

theorem keeps_buildResponse (response : LetterListAckOk) (uids : List Uid) :
    Keeps Asked (buildResponse response uids) := by
  induction uids generalizing response with
  | nil => exact .pure _
  | cons mailUid rest ih =>
    apply bind (keeps_readMail mailUid)
    intro mail
    apply bind (keeps_correspondentName _ mail)
    intro name
    exact ih _

/-- A list changes no record. -/
theorem keeps_letterList (invoker : Uid) (command : LetterList) :
    Keeps Asked (handleChatterLetterList invoker command) := by
  unfold handleChatterLetterList
  split
  · exact .pure _
  apply bind (keeps_readCharacter invoker)
  intro character
  dsimp only
  split
  · exact .pure _
  apply bind (keeps_eraseHidden _)
  intro mailbox
  apply bind (keeps_buildResponse _ _)
  intro response
  exact .pure _

/-! ## What is returned -/

theorem eraseHidden_returned (mailbox : List Uid) (world : World) :
    (eraseHidden mailbox).returned world = some (mailbox.filter world.shows) := by
  induction mailbox generalizing world with
  | nil => rfl
  | cons mailUid rest ih =>
    have hshows : (world.askMail mailUid).shows = world.shows :=
      funext (asked_askMail mailUid world).shows
    rw [eraseHidden, returned_bind, returned_ok (getMail_apply mailUid world),
      bind_some, final_ok (getMail_apply mailUid world)]
    dsimp only
    rw [returned_bind, ih, hshows, bind_some, List.filter_cons]
    cases hmail : world.mail mailUid with
    | none =>
      have hshown : world.shows mailUid = false := by
        unfold World.shows
        rw [hmail]
      rw [hshown]
      rfl
    | some mail =>
      have hshown : world.shows mailUid = !mail.isDeleted := by
        unfold World.shows
        rw [hmail]
      rw [hshown]
      show some (if mail.isDeleted = true then _ else _) = _
      by_cases hdeleted : mail.isDeleted = true
      · rw [if_pos hdeleted, if_neg (by simp [hdeleted])]
      · rw [if_neg hdeleted, if_pos (by simp [hdeleted])]

theorem correspondentName_returned (folder : MailboxFolder) (mail : Mail) (world : World) :
    (correspondentName folder mail).returned world = world.name folder mail := by
  unfold correspondentName World.name
  split
  · cases systemName mail.type <;> rfl
  · rw [returned_bind, Effect.returned, readCharacter_apply]
    cases world.character (correspondentUid folder mail) <;> rfl

/-- The mails that the client learns of. -/
def LetterListAckOk.mailUids (response : LetterListAckOk) : List Uid :=
  if response.mailboxFolder = .sent then response.sentMails.map SentMail.mailUid
  else response.inboxMails.map InboxMail.uid

@[simp] theorem mailboxFolder_add (mail : Mail) (name : Text) (response : LetterListAckOk) :
    (response.add mail name).mailboxFolder = response.mailboxFolder := by
  unfold LetterListAckOk.add
  split
  · rfl
  · split <;> rfl

theorem mailUids_add {response : LetterListAckOk} (mail : Mail) (name : Text)
    (hfolder : response.mailboxFolder = .inbox ∨ response.mailboxFolder = .sent) :
    (response.add mail name).mailUids = response.mailUids ++ [mail.uid] := by
  unfold LetterListAckOk.mailUids
  rw [mailboxFolder_add]
  unfold LetterListAckOk.add
  obtain hinbox | hsent := hfolder
  · simp [hinbox, MailboxFolder.inbox, MailboxFolder.sent, inboxMail]
  · simp [hsent, sentMail]

/-- A mail that a list can show: it is available under its own uid, and its correspondent has a
name. -/
def World.Listed (world : World) (folder : MailboxFolder) (uid : Uid) : Prop :=
  ∃ mail, world.mail uid = some mail ∧ mail.uid = uid ∧ (world.name folder mail).isSome

theorem Asked.listed {before after : World} (h : Asked before after) {folder : MailboxFolder}
    {uid : Uid} (hlisted : before.Listed folder uid) : after.Listed folder uid := by
  obtain ⟨mail, hmail, huid, hname⟩ := hlisted
  refine ⟨mail, (h.mail uid).trans hmail, huid, ?_⟩
  unfold World.name at hname ⊢
  rwa [h.character]

theorem buildResponse_returned {folder : MailboxFolder} (hfolder : folder = .inbox ∨ folder = .sent)
    {uids : List Uid} {world : World} (hlisted : ∀ uid ∈ uids, world.Listed folder uid)
    {response : LetterListAckOk} (hresponse : response.mailboxFolder = folder) :
    ∃ built, (buildResponse response uids).returned world = some built ∧
      built.mailboxFolder = folder ∧ built.mailUids = response.mailUids ++ uids := by
  induction uids generalizing world response with
  | nil => exact ⟨response, rfl, hresponse, (List.append_nil _).symm⟩
  | cons mailUid rest ih =>
    obtain ⟨mail, hmail, huid, hname⟩ := hlisted mailUid List.mem_cons_self
    obtain ⟨name, hname⟩ := isSome_iff_exists.1 hname
    have hread : readMail mailUid world = .ok mail (world.askMail mailUid) := by
      rw [readMail_apply, hmail]
    have hafter : Asked world ((correspondentName response.mailboxFolder mail).final
        (world.askMail mailUid)) :=
      trans_of Asked (asked_askMail mailUid world) (keeps_correspondentName _ mail _)
    obtain ⟨built, hbuilt, hfinal, huids⟩ := ih
      (fun uid h => hafter.listed (hlisted uid (List.mem_cons_of_mem mailUid h)))
      ((mailboxFolder_add mail name response).trans hresponse)
    refine ⟨built, ?_, hfinal, ?_⟩
    · rw [buildResponse, returned_bind, returned_ok hread, bind_some,
        final_ok hread, returned_bind, correspondentName_returned, hresponse,
        ← hresponse]
      have hagain : (world.askMail mailUid).name response.mailboxFolder mail = some name := by
        rw [hresponse]
        exact hname
      rw [hagain, bind_some]
      exact hbuilt
    · rw [huids, mailUids_add mail name (hresponse ▸ hfolder), huid, List.append_assoc]
      rfl

/-- The mails that are left for the next pages. -/
def World.remaining (world : World) (lastMailUid : Uid) (mailbox : List Uid) : List Uid :=
  behind lastMailUid (mailbox.filter world.shows)

/-- What a list returns, if it can show the mails of the page. -/
theorem letterList_returned {world : World} {invoker : Uid} {command : LetterList}
    {character : Character}
    (hfolder : command.mailboxFolder = .inbox ∨ command.mailboxFolder = .sent)
    (hcharacter : world.character invoker = some character)
    (hlast : command.lastMailUid = invalidUid ∨
      command.lastMailUid ∈ folderOf command.mailboxFolder character)
    (hlisted : ∀ uid ∈ (world.remaining command.lastMailUid
      (folderOf command.mailboxFolder character)).take (pageLength command.count),
        world.Listed command.mailboxFolder uid) :
    ∃ response, (handleChatterLetterList invoker command).returned world = some (.letters response) ∧
      response.mailUids = (world.remaining command.lastMailUid
        (folderOf command.mailboxFolder character)).take (pageLength command.count) ∧
      response.hasMoreMail = decide (response.mailUids.length <
        (world.remaining command.lastMailUid
          (folderOf command.mailboxFolder character)).length) := by
  have hread : readCharacter invoker world = .ok character (world.askCharacter invoker) := by
    rw [readCharacter_apply, hcharacter]
  have hknown : ¬(command.mailboxFolder ≠ .inbox ∧ command.mailboxFolder ≠ .sent) := by
    rintro ⟨hinbox, hsent⟩
    exact hfolder.elim hinbox hsent
  have hfound : ¬(command.lastMailUid ≠ invalidUid ∧
      command.lastMailUid ∉ folderOf command.mailboxFolder character) := by
    rintro ⟨hvalid, hout⟩
    exact hlast.elim hvalid hout
  have hshows : (world.askCharacter invoker).shows = world.shows :=
    funext (asked_askCharacter invoker world).shows
  have hafter : Asked world ((eraseHidden (folderOf command.mailboxFolder character)).final
      (world.askCharacter invoker)) :=
    trans_of Asked (asked_askCharacter invoker world) (keeps_eraseHidden _ _)
  obtain ⟨built, hbuilt, hbuiltFolder, huids⟩ :=
    @buildResponse_returned command.mailboxFolder hfolder _ _
      (fun uid h => hafter.listed (hlisted uid h)) { mailboxFolder := command.mailboxFolder } rfl
  have hpage : built.mailUids = (world.remaining command.lastMailUid
      (folderOf command.mailboxFolder character)).take (pageLength command.count) := by
    rw [huids]
    unfold LetterListAckOk.mailUids
    split <;> rfl
  refine ⟨{ built with
    mailCount := ((world.remaining command.lastMailUid
      (folderOf command.mailboxFolder character)).take (pageLength command.count)).length.toUInt32
    hasMoreMail := decide (((world.remaining command.lastMailUid
      (folderOf command.mailboxFolder character)).take (pageLength command.count)).length <
        (world.remaining command.lastMailUid
          (folderOf command.mailboxFolder character)).length) }, ?_, hpage, ?_⟩
  · unfold handleChatterLetterList
    rw [if_neg hknown, returned_bind, returned_ok hread, bind_some,
      final_ok hread]
    dsimp only
    rw [if_neg hfound, returned_bind, eraseHidden_returned, hshows, bind_some,
      returned_bind]
    change ((buildResponse _ ((world.remaining command.lastMailUid _).take _)).returned _).bind _ = _
    rw [hbuilt]
    rfl
  · show decide _ = decide (built.mailUids.length < _)
    rw [hpage]

end Alicia.Messenger
