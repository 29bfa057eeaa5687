import Alicia.Collection.Paging
import Alicia.Messenger.Letters

/-!
# Paging through a folder

A client requests the mails of a folder in pages and passes the last mail of a page to the next
request.  Between the requests it may delete mails, and records may be loaded.
-/

namespace Alicia.Messenger

open Transition Data List Function Storage
open Collection (Paged resume)
open DataDirector (characterStorage mailStorage)

/-- The mails of a character's folder. -/
def World.mailbox (world : World) (invoker : Uid) (folder : MailboxFolder) : List Uid :=
  match world.data.characters invoker with
  | none => []
  | some character => folderOf folder character

/-- A client that pages through a folder: the last mail of the previous page, and all the mails that
were delivered, in order. -/
structure Session where
  world : World
  lastMailUid : Uid := invalidUid
  delivered : List Uid := []

/-- A page is requested with a positive length. -/
inductive SessionInput where
  | page (count : UInt32) (positive : 0 < count)
  | delete (folder : MailboxFolder) (mailUid : Uid)
  | load (characters mails : Uid → Bool)

namespace Session

/-- What the client gets for a request of the next page. -/
def reply (session : Session) (invoker : Uid) (folder : MailboxFolder) (count : UInt32) :
    Option LetterReply :=
  (handleChatterLetterList invoker ⟨folder, session.lastMailUid, count⟩).returned session.world

/-- The state of the client once it has a page. -/
def receive (reply : Option LetterReply) (session : Session) : Session :=
  match reply with
  | some (.letters response) =>
    { session with
      lastMailUid := response.mailUids.getLast?.getD session.lastMailUid
      delivered := session.delivered ++ response.mailUids }
  | _ => session

def turn (invoker : Uid) (folder : MailboxFolder) (session : Session) : SessionInput → Session
  | .page count _ =>
    { session.receive (session.reply invoker folder count) with
      world := letterStep session.world
        (.command invoker (.list ⟨folder, session.lastMailUid, count⟩)) }
  | .delete mailFolder mailUid =>
    { session with
      world := letterStep session.world (.command invoker (.delete mailFolder mailUid)) }
  | .load characters mails =>
    { session with world := letterStep session.world (.load characters mails) }

end Session

/-- What a page should be: its mails are shown and come after the ones that were delivered before,
it says that there are more exactly if a mail that is shown has not been delivered, and it is not
empty then. -/
structure DeliversNext (session : Session) (invoker : Uid) (folder : MailboxFolder)
    (response : LetterListAckOk) : Prop where
  once : (session.delivered ++ response.mailUids).Sublist (session.world.mailbox invoker folder)
  shown : ∀ uid ∈ response.mailUids, session.world.shows uid = true
  more : response.hasMoreMail = true ↔ ∃ uid ∈ session.world.mailbox invoker folder,
    session.world.shows uid = true ∧ uid ∉ session.delivered ++ response.mailUids
  progress : response.hasMoreMail = true → response.mailUids ≠ []

/-- Every request of a page is answered with the next mails. -/
def Complete (invoker : Uid) (folder : MailboxFolder) (session : Session) : SessionInput → Prop
  | .page count _ => ∃ response, session.reply invoker folder count = some (.letters response) ∧
      DeliversNext session invoker folder response
  | .delete .. | .load .. => True

/-- The request is answered with a page of which there are more. -/
def hasMore (invoker : Uid) (folder : MailboxFolder) (session : Session) : SessionInput → Bool
  | .page count _ =>
    match session.reply invoker folder count with
    | some (.letters response) => response.hasMoreMail
    | _ => false
  | .delete .. | .load .. => false

/-- The mails that are shown and were not delivered yet. -/
def Session.undelivered (session : Session) (invoker : Uid) (folder : MailboxFolder) : List Uid :=
  (session.world.mailbox invoker folder).filter fun uid =>
    session.world.shows uid && decide (uid ∉ session.delivered)

/-- The record of the invoker is available, the last mail is still shown or nothing that was
delivered is, and the mails of the page have correspondents that are available. -/
structure Ready (session : Session) (invoker : Uid) (folder : MailboxFolder) (count : UInt32) :
    Prop where
  available : (session.world.character invoker).isSome = true
  cursor : session.lastMailUid = invalidUid ∨ session.world.shows session.lastMailUid = true ∨
    ∀ uid ∈ session.delivered, session.world.shows uid = false
  correspondents : ∀ uid ∈ (session.undelivered invoker folder).take (pageLength count),
    ∀ mail, session.world.mail uid = some mail → (session.world.name folder mail).isSome = true

/-- The inputs of a session that is paged through completely.  The mails that are loaded while it
lasts stand behind the last one that was delivered. -/
def Fit (invoker : Uid) (folder : MailboxFolder) (session : Session) : SessionInput → Prop
  | .page count _ => Ready session invoker folder count
  | .delete .. => True
  | .load characters mails => ∀ uid ∈ session.world.mailbox invoker folder,
      (letterStep session.world (.load characters mails)).shows uid = true →
        session.world.shows uid = true ∨
          uid ∈ behind session.lastMailUid (session.world.mailbox invoker folder)

/-! ## The cursor -/

/-- The mail that a request resumes behind. -/
def cursorOf (lastMailUid : Uid) : Option Uid :=
  if lastMailUid = invalidUid then none else some lastMailUid

theorem behind_eq_resume (lastMailUid : Uid) (mailbox : List Uid) :
    behind lastMailUid mailbox = resume (cursorOf lastMailUid) mailbox := by
  unfold behind cursorOf
  by_cases hlast : lastMailUid = invalidUid
  · rw [if_neg fun h => h.1 hlast, if_pos hlast]
    rfl
  · rw [if_neg hlast]
    unfold resume
    dsimp only
    by_cases hmem : lastMailUid ∈ mailbox
    · rw [if_pos ⟨hlast, hmem⟩, if_pos hmem]
    · rw [if_neg fun h => hmem h.2, if_neg hmem]

theorem cursorOf_getLast {page : List Uid} (hvalid : ∀ uid ∈ page, uid ≠ invalidUid)
    (lastMailUid : Uid) :
    cursorOf (page.getLast?.getD lastMailUid) = page.getLast?.or (cursorOf lastMailUid) := by
  cases hlast : page.getLast? with
  | none => rfl
  | some uid =>
    have huid := hvalid uid (mem_of_getLast? hlast)
    show cursorOf uid = some uid
    unfold cursorOf
    rw [if_neg huid]

theorem shows_valid {world : World} {uid : Uid} (h : world.shows uid = true) :
    ∃ mail, world.mail uid = some mail ∧ uid ≠ invalidUid ∧ world.data.mails uid = some mail := by
  unfold World.shows at h
  cases hmail : world.mail uid with
  | none =>
    rw [hmail] at h
    cases h
  | some mail =>
    obtain ⟨hvalid, -, hrecord⟩ := find_eq_some.1 hmail
    exact ⟨mail, rfl, hvalid, hrecord⟩

/-! ## What the inputs keep -/

/-- A mail carries the uid which it is stored under. -/
def Identified (world : World) : Prop :=
  ∀ uid mail, world.data.mails uid = some mail → mail.uid = uid

/-- The folders are the same, and no mail is shown that was not. -/
structure Hides (before after : World) : Prop where
  characters : after.data.characters = before.data.characters
  shows : ∀ uid, after.shows uid = true → before.shows uid = true
  identified : Identified before → Identified after

instance : Std.Refl Hides := ⟨fun _ => ⟨rfl, fun _ => id, id⟩⟩

instance : IsTrans World Hides where
  trans _ _ _ h h' := ⟨h'.characters.trans h.characters, fun uid hshown => h.shows uid
    (h'.shows uid hshown), fun hid => h'.identified (h.identified hid)⟩

theorem Asked.hides {before after : World} (h : Asked before after) : Hides before after := by
  constructor
  · rw [h.data]
  · intro uid hshown
    rwa [h.shows] at hshown
  · intro hid
    unfold Identified
    rwa [h.data]

/-- A mail that is deleted is not shown any more. -/
theorem hides_markDeleted (uid : Uid) (world : World) :
    Hides world (world.changeMail uid markDeleted) := by
  unfold World.changeMail
  cases hrecord : world.data.mails uid with
  | none => exact refl_of Hides world
  | some mail =>
  have hmails : (mailStorage.write uid (markDeleted mail) world.data).mails =
      update world.data.mails uid (some (markDeleted mail)) := by
    exact @records_write _ mailStorage uid (markDeleted mail) world.data
  constructor
  · rfl
  · intro other hshown
    obtain ⟨shown, hfind, hvalid, hwritten⟩ := shows_valid hshown
    have havailable := (find_eq_some.1 hfind).2.1
    dsimp only at hwritten havailable
    rw [hmails] at hwritten
    by_cases hsame : other = uid
    · subst hsame
      rw [update_self] at hwritten
      cases hwritten
      unfold World.shows at hshown
      rw [hfind] at hshown
      cases hshown
    · rw [update_of_ne hsame] at hwritten
      have hbefore : world.mail other = some shown :=
        find_eq_some.2 ⟨hvalid, havailable, hwritten⟩
      unfold World.shows at hshown ⊢
      rw [hfind] at hshown
      rwa [hbefore]
  · intro hid other found hfound
    dsimp only at hfound
    rw [hmails] at hfound
    by_cases hsame : other = uid
    · subst hsame
      rw [update_self] at hfound
      cases hfound
      exact hid other mail hrecord
    · rw [update_of_ne hsame] at hfound
      exact hid other found hfound

theorem keeps_letterDelete (invoker : Uid) (folder : MailboxFolder) (mailUid : Uid) :
    Effect.Keeps Hides (handleChatterLetterDelete invoker folder mailUid) := by
  unfold handleChatterLetterDelete
  split
  · exact .pure _
  refine Effect.Keeps.bind (fun world => (keeps_getMail mailUid world).hides) fun mail => ?_
  split
  · exact .pure _
  refine Effect.Keeps.bind (fun world => (keeps_readCharacter invoker world).hides)
    fun character => ?_
  split
  · exact .pure _
  refine Effect.Keeps.bind (.modify (hides_markDeleted mailUid)) fun _ => ?_
  exact .pure _

/-- What holds between the inputs of a session. -/
structure Session.Kept (invoker : Uid) (folder : MailboxFolder) (session : Session) : Prop where
  nodup : (session.world.mailbox invoker folder).Nodup
  identified : Identified session.world
  paged : Paged (session.world.mailbox invoker folder) session.world.shows
    (cursorOf session.lastMailUid) session.delivered

theorem mailbox_congr {before after : World} (h : after.data.characters = before.data.characters)
    (invoker : Uid) (folder : MailboxFolder) :
    after.mailbox invoker folder = before.mailbox invoker folder := by
  unfold World.mailbox
  rw [h]

section Session

variable {invoker : Uid} {folder : MailboxFolder} {session : Session}

/-- The session goes on in another world, where mails are hidden or shown behind the last one. -/
theorem Session.Kept.move (hkept : session.Kept invoker folder) {world : World}
    (hcharacters : world.data.characters = session.world.data.characters)
    (hidentified : Identified world)
    (hshows : ∀ uid ∈ session.world.mailbox invoker folder, world.shows uid = true →
      session.world.shows uid = true ∨
        uid ∈ behind session.lastMailUid (session.world.mailbox invoker folder)) :
    Session.Kept invoker folder { session with world := world } := by
  have hmailbox := mailbox_congr hcharacters invoker folder
  constructor
  · show (world.mailbox invoker folder).Nodup
    rw [hmailbox]
    exact hkept.nodup
  · exact hidentified
  · show Paged (world.mailbox invoker folder) world.shows _ _
    rw [hmailbox]
    apply hkept.paged.change hkept.nodup
    intro uid huid hshown
    rw [← behind_eq_resume]
    exact hshows uid huid hshown

theorem Session.Kept.hides (hkept : session.Kept invoker folder) {world : World}
    (h : Hides session.world world) :
    Session.Kept invoker folder { session with world := world } :=
  hkept.move h.characters (h.identified hkept.identified) fun uid _ hshown => .inl (h.shows uid hshown)

/-- The next page is taken from the mails that were not delivered. -/
theorem remaining_eq_undelivered (hkept : session.Kept invoker folder)
    (hcursor : session.lastMailUid = invalidUid ∨
      session.world.shows session.lastMailUid = true ∨
        ∀ uid ∈ session.delivered, session.world.shows uid = false) :
    (∀ last ∈ cursorOf session.lastMailUid, session.world.shows last = true ∨
        ∀ uid ∈ session.delivered, session.world.shows uid = false) ∧
      session.world.remaining session.lastMailUid (session.world.mailbox invoker folder) =
        session.undelivered invoker folder := by
  have hlast : ∀ last ∈ cursorOf session.lastMailUid, session.world.shows last = true ∨
      ∀ uid ∈ session.delivered, session.world.shows uid = false := by
    intro last hlast
    unfold cursorOf at hlast
    split at hlast
    · cases hlast
    · next hvalid =>
      cases hlast
      exact hcursor.resolve_left hvalid
  refine ⟨hlast, ?_⟩
  unfold World.remaining
  rw [behind_eq_resume]
  exact hkept.paged.remaining hkept.nodup hlast

/-- A request that is ready is answered with the next mails, and the session goes on. -/
theorem page_of_ready (hfolder : folder = .inbox ∨ folder = .sent)
    (hkept : session.Kept invoker folder) {count : UInt32} (hcount : 0 < count)
    (hready : Ready session invoker folder count) :
    ∃ response, session.reply invoker folder count = some (.letters response) ∧
      DeliversNext session invoker folder response ∧
      Session.Kept invoker folder
        { session.receive (some (.letters response)) with
          world := letterStep session.world
            (.command invoker (.list ⟨folder, session.lastMailUid, count⟩)) } := by
  obtain ⟨character, hcharacter⟩ := Option.isSome_iff_exists.1 hready.available
  have hmailbox : session.world.mailbox invoker folder = folderOf folder character := by
    have hrecord : session.world.data.characters invoker = some character :=
      (find_eq_some.1 hcharacter).2.2
    unfold World.mailbox
    rw [hrecord]
  obtain ⟨hlast, hremaining⟩ := remaining_eq_undelivered hkept hready.cursor
  have hfound : session.lastMailUid = invalidUid ∨
      session.lastMailUid ∈ folderOf folder character := by
    by_cases hinvalid : session.lastMailUid = invalidUid
    · exact .inl hinvalid
    · have hpaged := hkept.paged
      unfold cursorOf at hpaged
      rw [if_neg hinvalid, hmailbox] at hpaged
      exact .inr hpaged.cursor_mem
  have hlisted : ∀ uid ∈ (session.undelivered invoker folder).take (pageLength count),
      session.world.Listed folder uid := by
    intro uid huid
    have hshown := (mem_filter.1 (mem_of_mem_take huid)).2
    rw [Bool.and_eq_true] at hshown
    obtain ⟨mail, hmail, -, hrecord⟩ := shows_valid hshown.1
    exact ⟨mail, hmail, hkept.identified uid mail hrecord,
      hready.correspondents uid huid mail hmail⟩
  have htake : (session.world.remaining session.lastMailUid (folderOf folder character)).take
      (pageLength count) = (session.undelivered invoker folder).take (pageLength count) := by
    rw [← hmailbox, hremaining]
  obtain ⟨response, hreply, huids, hmore⟩ := @letterList_returned session.world invoker
    ⟨folder, session.lastMailUid, count⟩ character hfolder hcharacter hfound
    (fun uid huid => hlisted uid (htake ▸ huid))
  dsimp only at huids hmore
  rw [htake] at huids
  rw [← hmailbox, hremaining, huids] at hmore
  have hpaged := hkept.paged.page hkept.nodup hlast (pageLength count)
  rw [← behind_eq_resume] at hpaged
  change Paged _ _ (((session.world.remaining _ _).take _).getLast?.or _)
    (session.delivered ++ (session.world.remaining _ _).take _) at hpaged
  rw [hremaining, ← huids] at hpaged
  have hshown : ∀ uid ∈ response.mailUids, session.world.shows uid = true := by
    intro uid huid
    rw [huids] at huid
    have hboth := (mem_filter.1 (mem_of_mem_take huid)).2
    rw [Bool.and_eq_true] at hboth
    exact hboth.1
  refine ⟨response, hreply, ⟨hpaged.sublist, hshown, ?_, ?_⟩, ?_⟩
  · have hunique : (session.undelivered invoker folder).Nodup := List.Nodup.filter _ hkept.nodup
    rw [hmore, decide_eq_true_iff, Collection.length_take_lt_iff hunique, ← huids]
    constructor
    · rintro ⟨uid, huid, hout⟩
      obtain ⟨hin, hboth⟩ := mem_filter.1 huid
      rw [Bool.and_eq_true, decide_eq_true_iff] at hboth
      refine ⟨uid, hin, hboth.1, ?_⟩
      rw [mem_append]
      exact fun hor => hor.elim hboth.2 hout
    · rintro ⟨uid, huid, hshows, hout⟩
      rw [mem_append, not_or] at hout
      refine ⟨uid, mem_filter.2 ⟨huid, ?_⟩, hout.2⟩
      rw [hshows, decide_eq_true hout.1]
      rfl
  · intro hhas hnil
    rw [hmore, decide_eq_true_iff, ← huids, hnil] at hhas
    have hlength : 0 < pageLength count := by
      unfold pageLength maxMailsPerRequest
      have hpositive := UInt32.lt_iff_toNat_lt.1 hcount
      omega
    rw [huids, take_eq_nil_iff] at hnil
    obtain hnil | hnil := hnil
    · omega
    · rw [hnil] at hhas
      exact Nat.lt_irrefl 0 hhas
  · have hasked := keeps_letterList invoker ⟨folder, session.lastMailUid, count⟩ session.world
    have hmoved : Session.Kept invoker folder
        { world := session.world
          lastMailUid := response.mailUids.getLast?.getD session.lastMailUid
          delivered := session.delivered ++ response.mailUids } := by
      refine ⟨hkept.nodup, hkept.identified, ?_⟩
      dsimp only
      rw [cursorOf_getLast]
      · exact hpaged
      · intro uid huid
        obtain ⟨-, -, hvalid, -⟩ := shows_valid (hshown uid huid)
        exact hvalid
    exact hmoved.hides hasked.hides

theorem kept_of_fit (hfolder : folder = .inbox ∨ folder = .sent)
    (hkept : session.Kept invoker folder) {input : SessionInput}
    (hfit : Fit invoker folder session input) :
    (session.turn invoker folder input).Kept invoker folder := by
  cases input with
  | page count positive =>
    obtain ⟨response, hreply, -, hafter⟩ := page_of_ready hfolder hkept positive hfit
    rw [← hreply] at hafter
    exact hafter
  | delete mailFolder mailUid => exact hkept.hides (keeps_letterDelete invoker mailFolder mailUid _)
  | load characters mails =>
    exact @Session.Kept.move invoker folder session hkept
      (letterStep session.world (.load characters mails)) rfl hkept.identified hfit

theorem complete_of_fit (hfolder : folder = .inbox ∨ folder = .sent)
    (hkept : session.Kept invoker folder) {input : SessionInput}
    (hfit : Fit invoker folder session input) : Complete invoker folder session input := by
  cases input with
  | page count positive =>
    obtain ⟨response, hreply, hnext, -⟩ := page_of_ready hfolder hkept positive hfit
    exact ⟨response, hreply, hnext⟩
  | delete mailFolder mailUid => trivial
  | load characters mails => trivial

/-- A page of which there are more delivers a mail. -/
theorem delivered_grows (hfolder : folder = .inbox ∨ folder = .sent)
    (hkept : session.Kept invoker folder) {input : SessionInput}
    (hfit : Fit invoker folder session input) :
    session.delivered.length + (hasMore invoker folder session input).toNat ≤
      (session.turn invoker folder input).delivered.length := by
  cases input with
  | page count positive =>
    obtain ⟨response, hreply, hnext, -⟩ := page_of_ready hfolder hkept positive hfit
    simp only [hasMore, Session.turn, hreply, Session.receive, length_append]
    cases hmore : response.hasMoreMail with
    | false => exact Nat.le_add_right _ _
    | true =>
      have hpositive := length_pos_iff.2 (hnext.progress hmore)
      exact Nat.add_le_add_left hpositive _
  | delete mailFolder mailUid => exact Nat.le_refl _
  | load characters mails => exact Nat.le_refl _

end Session

/-- The folder of a session stays the same. -/
theorem mailbox_turn (invoker : Uid) (folder : MailboxFolder) (session : Session)
    (input : SessionInput) :
    (session.turn invoker folder input).world.mailbox invoker folder =
      session.world.mailbox invoker folder := by
  apply mailbox_congr
  cases input with
  | page count positive =>
    exact congrArg DataDirector.characters (keeps_letterList invoker _ session.world).data
  | delete mailFolder mailUid => exact (keeps_letterDelete invoker mailFolder mailUid _).characters
  | load characters mails => rfl

/-- A character with five mails from the system in its inbox. -/
def fiveMails : World :=
  { data :=
      { characters := fun uid =>
          if uid = 1 then some { uid := 1, mailbox := { inbox := [11, 12, 13, 14, 15] } } else none
        mails := fun uid => some { uid := uid, type := .noReply } } }

theorem identified_fiveMails : Identified fiveMails := by
  intro uid mail h
  cases h
  rfl

theorem name_fiveMails {uid : Uid} {mail : Mail} (h : fiveMails.mail uid = some mail)
    (world : World) :
    (world.name .inbox mail).isSome = true := by
  have hrecord : fiveMails.data.mails uid = some mail := (find_eq_some.1 h).2.2
  cases hrecord
  rfl

/-- Paging through a folder delivers every mail that is shown once, in the order of the folder, says
each time whether there are more, and comes to an end, if every request is ready and no mail is
loaded behind the client's back. -/
theorem paging_complete {invoker : Uid} {folder : MailboxFolder}
    (hfolder : folder = .inbox ∨ folder = .sent) {world : World}
    (hnodup : (world.mailbox invoker folder).Nodup) (hidentified : Identified world)
    {inputs : List SessionInput}
    (hfit : Guarded (Session.turn invoker folder) (Fit invoker folder) { world := world } inputs) :
    Guarded (Session.turn invoker folder) (Complete invoker folder) { world := world } inputs ∧
      occurrences (Session.turn invoker folder) (hasMore invoker folder) { world := world } inputs ≤
        (world.mailbox invoker folder).length := by
  have hstart : Session.Kept invoker folder { world := world } :=
    ⟨hnodup, hidentified, .start _ _⟩
  have hpreserved : ∀ session input, Session.Kept invoker folder session →
      Fit invoker folder session input →
        Session.Kept invoker folder (session.turn invoker folder input) :=
    fun session input hkept hfit => kept_of_fit hfolder hkept hfit
  constructor
  · exact hfit.imp hpreserved (fun session input hkept hfit => complete_of_fit hfolder hkept hfit)
      hstart
  · have hbound := hfit.occurrences_le (fun session => session.delivered.length) hpreserved
      (fun session input hkept hfit => delivered_grows hfolder hkept hfit) hstart
    have hend := (hfit.invariant hpreserved hstart).paged.sublist.length_le
    have hmailbox : (run (Session.turn invoker folder) { world := world } inputs).world.mailbox
        invoker folder = world.mailbox invoker folder := by
      apply run_invariant (fun session input h => (mailbox_turn invoker folder session input).trans h)
      rfl
    rw [hmailbox] at hend
    exact (Nat.zero_add _).symm.le.trans (hbound.trans hend)

theorem paging_complete_twice :
    let inputs := [SessionInput.page 2 (by decide), .page 2 (by decide)]
    Guarded (Session.turn 1 .inbox) (Complete 1 .inbox) { world := fiveMails } inputs ∧
      occurrences (Session.turn 1 .inbox) (hasMore 1 .inbox) { world := fiveMails } inputs ≤
        (fiveMails.mailbox 1 .inbox).length := by
  refine paging_complete (.inl rfl) (by decide) identified_fiveMails ⟨?_, ?_, trivial⟩
  · refine ⟨by decide, .inl rfl, ?_⟩
    intro uid _ mail hmail
    exact name_fiveMails hmail _
  · refine ⟨by decide, .inr (.inl (by decide +kernel)), ?_⟩
    intro uid _ mail hmail
    have hasked := keeps_letterList 1 ⟨.inbox, invalidUid, 2⟩ fiveMails
    exact name_fiveMails ((hasked.mail uid).symm.trans hmail) _

/-- The mails that a reply lists. -/
def LetterReply.mailUids : LetterReply → List Uid
  | .letters response => response.mailUids
  | _ => []

/-- The client deletes the last mail of a page, and the next page starts from the beginning: the mail
13, which was not delivered when the client first deleted mails, comes twice. -/
theorem paging_repeats : ¬∀ (invoker : Uid) (folder : MailboxFolder) (world : World)
    (inputs : List SessionInput), folder = .inbox ∨ folder = .sent →
      (world.mailbox invoker folder).Nodup → Identified world →
        Guarded (Session.turn invoker folder) (Complete invoker folder) { world := world } inputs := by
  intro hall
  have hguarded := hall 1 .inbox fiveMails [.page 2 (by decide), .delete .inbox 11,
    .delete .inbox 12, .page 2 (by decide), .delete .inbox 14, .page 2 (by decide)] (.inl rfl)
    (by decide) identified_fiveMails
  obtain ⟨-, -, -, -, -, ⟨response, hreply, hnext⟩, -⟩ := hguarded
  have huids := congrArg (Option.map LetterReply.mailUids) hreply
  have hpage : response.mailUids = [13, 15] :=
    Option.some.inj (huids.symm.trans (by decide +kernel))
  have honce := hnext.once
  rw [hpage] at honce
  exact absurd (honce.nodup (by decide)) (by decide +kernel)
end Alicia.Messenger
