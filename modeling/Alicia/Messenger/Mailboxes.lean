import Alicia.Messenger.Paging
import Alicia.Transition.Agreement

/-!
# Mailboxes of two characters

What the letter commands of one character make another character see in its own mailbox.  The two
may share mails, and looking up a record may get it loaded for both.
-/

namespace Alicia.Messenger

open Transition Effect Data Storage List DataDirector
open DataDirector (characterStorage mailStorage)

/-! ## What the lists of a character depend on -/

/-- A folder of the character lists the mail. -/
def World.Holds (world : World) (uid mailUid : Uid) : Prop :=
  ∃ folder, mailUid ∈ world.mailbox uid folder

/-- The lists of the character look up the other one: it is the character itself or the correspondent
of one of its mails. -/
def World.Concerns (world : World) (uid other : Uid) : Prop :=
  other = uid ∨ ∃ folder mailUid mail, mailUid ∈ world.mailbox uid folder ∧
    world.data.mails mailUid = some mail ∧ correspondentUid folder mail = other

/-- What a folder shows of a mail: whether a sent mail was read is not shown. -/
def visiblePart (folder : MailboxFolder) (mail : Mail) : Mail :=
  if folder = .inbox then mail else { mail with isRead := false }

/-- The lists of the character cannot tell the two worlds apart. -/
structure Alike (uid : Uid) (first second : World) : Prop where
  characters : first.data.characters = second.data.characters
  mails : ∀ folder, ∀ mailUid ∈ first.mailbox uid folder,
    (first.data.mails mailUid).map (visiblePart folder) =
      (second.data.mails mailUid).map (visiblePart folder)
  mailCache : ∀ folder, ∀ mailUid ∈ first.mailbox uid folder,
    first.mails.available mailUid = second.mails.available mailUid ∧
      first.mails.requested mailUid = second.mails.requested mailUid
  characterCache : ∀ other, first.Concerns uid other →
    first.characters.available other = second.characters.available other ∧
      first.characters.requested other = second.characters.requested other

theorem correspondentUid_visiblePart (folder : MailboxFolder) (mail : Mail) :
    correspondentUid folder (visiblePart folder mail) = correspondentUid folder mail := by
  unfold correspondentUid visiblePart
  split <;> split <;> rfl

theorem isDeleted_visiblePart (folder : MailboxFolder) (mail : Mail) :
    (visiblePart folder mail).isDeleted = mail.isDeleted := by
  unfold visiblePart
  split <;> rfl

theorem type_visiblePart (folder : MailboxFolder) (mail : Mail) :
    (visiblePart folder mail).type = mail.type := by
  unfold visiblePart
  split <;> rfl

variable {first second : World}

theorem Alike.concerns {uid other : Uid} (h : Alike uid first second)
    (hconcerns : first.Concerns uid other) : second.Concerns uid other := by
  obtain hself | ⟨folder, mailUid, mail, hmem, hmail, hother⟩ := hconcerns
  · exact .inl hself
  have hvisible := h.mails folder mailUid hmem
  rw [hmail, Option.map_some, eq_comm, Option.map_eq_some_iff] at hvisible
  obtain ⟨found, hfound, hpart⟩ := hvisible
  refine .inr ⟨folder, mailUid, found, ?_, hfound, ?_⟩
  · rwa [mailbox_congr h.characters.symm]
  · rw [← correspondentUid_visiblePart, hpart, correspondentUid_visiblePart, hother]

instance (uid : Uid) : Std.Refl (Alike uid) where
  refl _ := ⟨rfl, fun _ _ _ => rfl, fun _ _ _ => ⟨rfl, rfl⟩, fun _ _ => ⟨rfl, rfl⟩⟩

instance (uid : Uid) : IsTrans World (Alike uid) where
  trans first second third h h' := by
    have hmailbox : ∀ folder, first.mailbox uid folder = second.mailbox uid folder :=
      fun folder => mailbox_congr h.characters uid folder
    constructor
    · exact h.characters.trans h'.characters
    · intro folder mailUid hmem
      exact (h.mails folder mailUid hmem).trans (h'.mails folder mailUid (hmailbox folder ▸ hmem))
    · intro folder mailUid hmem
      have hfirst := h.mailCache folder mailUid hmem
      have hsecond := h'.mailCache folder mailUid (hmailbox folder ▸ hmem)
      exact ⟨hfirst.1.trans hsecond.1, hfirst.2.trans hsecond.2⟩
    · intro other hconcerns
      have hfirst := h.characterCache other hconcerns
      have hsecond := h'.characterCache other (h.concerns hconcerns)
      exact ⟨hfirst.1.trans hsecond.1, hfirst.2.trans hsecond.2⟩

/-! ## Lookups -/

theorem requested_ask (uid other : Uid) (cache : Cache) :
    (cache.ask uid).requested other =
      (cache.requested other ||
        (decide (other = uid ∧ other ≠ invalidUid) && !cache.available other)) := by
  unfold Cache.ask
  by_cases hsame : other = uid
  · subst hsame
    by_cases hskip : other = invalidUid ∨ cache.available other = true
    · rw [if_pos hskip]
      obtain hinvalid | havailable := hskip
      · simp [hinvalid]
      · simp [havailable]
    · rw [if_neg hskip]
      rw [not_or] at hskip
      simp [hskip.1, hskip.2]
  · split
    · simp [hsame]
    · simp [hsame]

/-- A lookup of a mail leaves worlds alike. -/
theorem Alike.askMail {uid : Uid} (h : Alike uid first second) (mailUid : Uid) :
    Alike uid (first.askMail mailUid) (second.askMail mailUid) where
  characters := h.characters
  mails := h.mails
  mailCache folder other hmem := by
    obtain ⟨havailable, hrequested⟩ := h.mailCache folder other hmem
    show (first.mails.ask mailUid).available other = (second.mails.ask mailUid).available other ∧
      (first.mails.ask mailUid).requested other = (second.mails.ask mailUid).requested other
    rw [available_ask, available_ask, requested_ask, requested_ask, havailable, hrequested]
    exact ⟨rfl, rfl⟩
  characterCache := h.characterCache

/-- A lookup of a character leaves worlds alike. -/
theorem Alike.askCharacter {uid : Uid} (h : Alike uid first second) (characterUid : Uid) :
    Alike uid (first.askCharacter characterUid) (second.askCharacter characterUid) where
  characters := h.characters
  mails := h.mails
  mailCache := h.mailCache
  characterCache other hconcerns := by
    obtain ⟨havailable, hrequested⟩ := h.characterCache other hconcerns
    show (first.characters.ask characterUid).available other =
        (second.characters.ask characterUid).available other ∧
      (first.characters.ask characterUid).requested other =
        (second.characters.ask characterUid).requested other
    rw [available_ask, available_ask, requested_ask, requested_ask, havailable, hrequested]
    exact ⟨rfl, rfl⟩

/-- A mail that the character's lists depend on is available. -/
def World.KnowsMail (world : World) (uid mailUid : Uid) : Prop :=
  world.Holds uid mailUid → world.mails.available mailUid = true

/-- A character that the character's lists look up is available. -/
def World.KnowsCharacter (world : World) (uid other : Uid) : Prop :=
  world.Concerns uid other → world.characters.available other = true

variable {mailUid : Uid} {world : World}

theorem alike_askMail {uid : Uid} (h : world.KnowsMail uid mailUid) :
    Alike uid (world.askMail mailUid) world where
  characters := rfl
  mails _ _ _ := rfl
  mailCache folder other hmem := by
    show (world.mails.ask mailUid).available other = _ ∧ (world.mails.ask mailUid).requested other = _
    rw [available_ask, requested_ask]
    refine ⟨rfl, ?_⟩
    by_cases hsame : other = mailUid
    · subst hsame
      rw [h ⟨folder, hmem⟩, Bool.not_true, Bool.and_false, Bool.or_false]
    · simp [hsame]
  characterCache _ _ := ⟨rfl, rfl⟩

variable {characterUid : Uid}

theorem alike_askCharacter {uid : Uid} (h : world.KnowsCharacter uid characterUid) :
    Alike uid (world.askCharacter characterUid) world where
  characters := rfl
  mails _ _ _ := rfl
  mailCache _ _ _ := ⟨rfl, rfl⟩
  characterCache other hconcerns := by
    show (world.characters.ask characterUid).available other = _ ∧
      (world.characters.ask characterUid).requested other = _
    rw [available_ask, requested_ask]
    refine ⟨rfl, ?_⟩
    by_cases hsame : other = characterUid
    · subst hsame
      have hknown : world.characters.available other = true := h hconcerns
      rw [hknown, Bool.not_true, Bool.and_false, Bool.or_false]
    · simp [hsame]

/-! ## The commands of another character -/

/-- The commands of the character `invoker` which the lists of the character `uid` do not notice.
Every record that they look up, and that the lists depend on, is available already; they delete no
mail that the lists show, and read none that the inbox lists. -/
def Discreet (invoker uid : Uid) (world : World) : LetterCommand → Prop
  | .list command =>
    world.KnowsCharacter uid invoker ∧
      ∀ mailUid ∈ world.mailbox invoker command.mailboxFolder, world.KnowsMail uid mailUid ∧
        ∀ mail, world.data.mails mailUid = some mail →
          world.KnowsCharacter uid (correspondentUid command.mailboxFolder mail)
  | .read _ mailUid =>
    world.KnowsMail uid mailUid ∧ world.KnowsCharacter uid invoker ∧
      (mailUid ∈ world.mailbox invoker .inbox → mailUid ∈ world.mailbox uid .inbox →
        ∀ mail, world.data.mails mailUid = some mail → mail.isRead = true)
  | .delete folder mailUid =>
    world.KnowsMail uid mailUid ∧ world.KnowsCharacter uid invoker ∧
      (mailUid ∈ world.mailbox invoker folder → world.Holds uid mailUid →
        ∀ mail, world.data.mails mailUid = some mail → mail.isDeleted = true)

/-- Only what was asked for has changed, and nothing that the lists of the character notice. -/
structure Quiet (uid : Uid) (start world : World) : Prop where
  data : world.data = start.data
  mails : world.mails.available = start.mails.available
  characters : world.characters.available = start.characters.available
  alike : Alike uid world start

variable {mailbox : List Uid} {folder : MailboxFolder} {mail : Mail} {response : LetterListAckOk}
  {invoker : Uid}

theorem Quiet.refl (uid : Uid) (world : World) : Quiet uid world world :=
  ⟨rfl, rfl, rfl, refl_of (Alike uid) world⟩

section Quiet

variable {uid : Uid} {start : World}

theorem preserves_getMail (h : start.KnowsMail uid mailUid) :
    Preserves (Quiet uid start) (· = start.mail mailUid) (getMail mailUid) := by
  rintro world ⟨hdata, hmails, hcharacters, halike⟩
  have hknown : world.KnowsMail uid mailUid := by
    rintro ⟨folder, hmem⟩
    rw [mailbox_congr (congrArg characters hdata)] at hmem
    rw [hmails]
    exact h ⟨folder, hmem⟩
  refine ⟨?_, hdata, ?_, hcharacters, trans_of (Alike uid) (alike_askMail hknown) halike⟩
  · show mailStorage.find (world.mails.available mailUid) mailUid world.data = _
    rw [hmails, hdata]
    rfl
  · exact (funext fun other => available_ask mailUid other world.mails).trans hmails

theorem preserves_getCharacter (h : start.KnowsCharacter uid characterUid) :
    Preserves (Quiet uid start) (· = start.character characterUid)
      (getCharacter characterUid) := by
  rintro world ⟨hdata, hmails, hcharacters, halike⟩
  have hknown : world.KnowsCharacter uid characterUid := by
    intro hconcerns
    rw [hcharacters]
    exact h (halike.concerns hconcerns)
  refine ⟨?_, hdata, hmails, ?_, trans_of (Alike uid) (alike_askCharacter hknown) halike⟩
  · show characterStorage.find (world.characters.available characterUid) characterUid world.data = _
    rw [hcharacters, hdata]
    rfl
  · exact (funext fun other => available_ask characterUid other world.characters).trans hcharacters

theorem preserves_ofOption {α : Type} {P : World → Prop} (error : String) (option : Option α) :
    Preserves P (fun a => option = some a)
      (Effect.ofOption error option : LetterHandler α) := by
  cases option with
  | none => exact .throw _ error
  | some a => exact .pure rfl

theorem preserves_readMail (h : start.KnowsMail uid mailUid) :
    Preserves (Quiet uid start) (fun mail => start.mail mailUid = some mail)
      (readMail mailUid) := by
  refine (preserves_getMail h).bind fun mail hmail => ?_
  subst hmail
  exact preserves_ofOption _ _

theorem preserves_readCharacter (h : start.KnowsCharacter uid characterUid) :
    Preserves (Quiet uid start)
      (fun character => start.character characterUid = some character)
      (readCharacter characterUid) := by
  refine (preserves_getCharacter h).bind fun character hcharacter => ?_
  subst hcharacter
  exact preserves_ofOption _ _

theorem eq_or_mem_of_mem_ite {condition : Prop} [Decidable condition] {other : Uid}
    {kept : List Uid} (h : other ∈ if condition then kept else mailUid :: kept) :
    other = mailUid ∨ other ∈ kept := by
  split at h
  · exact .inr h
  · exact mem_cons.1 h

theorem preserves_eraseHidden (h : ∀ mailUid ∈ mailbox, start.KnowsMail uid mailUid) :
    Preserves (Quiet uid start) (fun kept => ∀ mailUid ∈ kept, mailUid ∈ mailbox)
      (eraseHidden mailbox) := by
  induction mailbox with
  | nil => exact .pure fun _ => id
  | cons mailUid rest ih =>
    refine (preserves_getMail (h mailUid mem_cons_self)).bind fun mail _ => ?_
    refine (ih fun other hother => h other (mem_cons_of_mem mailUid hother)).bind
      fun kept hkept => ?_
    apply Preserves.pure
    intro other hother
    obtain hsame | hother := eq_or_mem_of_mem_ite hother
    · exact hsame ▸ mem_cons_self
    · exact mem_cons_of_mem mailUid (hkept other hother)

theorem preserves_correspondentName (h : start.KnowsCharacter uid (correspondentUid folder mail)) :
    Preserves (Quiet uid start) (fun _ => True) (correspondentName folder mail) := by
  unfold correspondentName
  split
  · refine fun world hworld => ?_
    cases systemName mail.type with
    | none => exact hworld
    | some name => exact ⟨trivial, hworld⟩
  · exact (preserves_readCharacter h).bind fun character _ => .pure trivial

theorem preserves_buildResponse {uids : List Uid}
    (h : ∀ mailUid ∈ uids, start.KnowsMail uid mailUid ∧
      ∀ mail, start.data.mails mailUid = some mail →
        start.KnowsCharacter uid (correspondentUid response.mailboxFolder mail)) :
    Preserves (Quiet uid start) (fun _ => True) (buildResponse response uids) := by
  induction uids generalizing response with
  | nil => exact .pure trivial
  | cons mailUid rest ih =>
    obtain ⟨hmail, hcorrespondent⟩ := h mailUid mem_cons_self
    refine (preserves_readMail hmail).bind fun mail hfound => ?_
    have hrecord : start.data.mails mailUid = some mail := (find_eq_some.1 hfound).2.2
    refine (preserves_correspondentName (hcorrespondent mail hrecord)).bind fun name _ => ?_
    apply ih
    intro other hother
    rw [mailboxFolder_add]
    exact h other (mem_cons_of_mem mailUid hother)

theorem mem_of_mem_behind {lastMailUid : Uid} (h : mailUid ∈ behind lastMailUid mailbox) :
    mailUid ∈ mailbox := by
  unfold behind at h
  split at h
  · exact (dropWhile_sublist _).subset (mem_of_mem_tail h)
  · exact h

/-- A list of another character is not noticed. -/
theorem alike_letterList {command : LetterList} (h : Discreet invoker uid start (.list command)) :
    Alike uid ((handleChatterLetterList invoker command).final start) start := by
  obtain ⟨hinvoker, hmails⟩ := h
  have hpreserves : Preserves (Quiet uid start) (fun _ => True)
      (handleChatterLetterList invoker command) := by
    unfold handleChatterLetterList
    split
    · exact .pure trivial
    refine (preserves_readCharacter hinvoker).bind fun character hcharacter => ?_
    have hmailbox : start.mailbox invoker command.mailboxFolder =
        folderOf command.mailboxFolder character := by
      have hrecord : start.data.characters invoker = some character :=
        (find_eq_some.1 hcharacter).2.2
      unfold World.mailbox
      rw [hrecord]
    rw [hmailbox] at hmails
    dsimp only
    split
    · exact .pure trivial
    refine (preserves_eraseHidden fun mailUid hmem => (hmails mailUid hmem).1).bind
      fun mailbox hkept => ?_
    refine (preserves_buildResponse fun mailUid hmem => hmails mailUid (hkept mailUid ?_)).bind
      fun response _ => .pure trivial
    exact mem_of_mem_behind (mem_of_mem_take hmem)
  exact (hpreserves.final (Quiet.refl uid start)).alike

end Quiet

/-- A change of a mail that the lists of the character do not depend on, or that makes no
difference. -/
theorem alike_changeMail {uid : Uid} {consumer : Mail → Mail}
    (h : ∀ folder, mailUid ∈ world.mailbox uid folder → ∀ mail,
      world.data.mails mailUid = some mail →
        visiblePart folder (consumer mail) = visiblePart folder mail) :
    Alike uid (world.changeMail mailUid consumer) world := by
  unfold World.changeMail
  cases hrecord : world.data.mails mailUid with
  | none => exact refl_of (Alike uid) world
  | some mail =>
  have hwritten : (mailStorage.write mailUid (consumer mail) world.data).mails =
      Function.update world.data.mails mailUid (some (consumer mail)) := by
    exact @records_write _ mailStorage mailUid (consumer mail) world.data
  constructor
  · rfl
  · intro folder other hmem
    dsimp only
    rw [hwritten]
    by_cases hsame : other = mailUid
    · subst hsame
      rw [Function.update_self, hrecord, Option.map_some, Option.map_some, h folder hmem mail hrecord]
    · rw [Function.update_of_ne hsame]
  · intro folder other hmem
    exact ⟨rfl, rfl⟩
  · intro other hconcerns
    exact ⟨rfl, rfl⟩

theorem mailbox_of_character {uid : Uid} {character : Character}
    (h : world.character uid = some character) (folder : MailboxFolder) :
    world.mailbox uid folder = folderOf folder character := by
  have hrecord : world.data.characters uid = some character := (find_eq_some.1 h).2.2
  unfold World.mailbox
  rw [hrecord]

theorem markRead_of_isRead (h : mail.isRead = true) : markRead mail = mail := by
  unfold markRead
  rw [← h]

theorem markDeleted_of_isDeleted (h : mail.isDeleted = true) :
    markDeleted mail = mail := by
  unfold markDeleted
  rw [← h]

theorem alike_letterRead {uid : Uid} {unk0 : UInt32} {start : World}
    (h : Discreet invoker uid start (.read unk0 mailUid)) :
    Alike uid ((handleChatterLetterRead invoker unk0 mailUid).final start) start := by
  obtain ⟨hmail, hinvoker, hread⟩ := h
  refine (preserves_getMail hmail).final_bind (fun _ hquiet => hquiet.alike) ?_ (.refl uid start)
  intro found _ world hquiet
  split
  · exact hquiet.alike
  split
  · exact hquiet.alike
  refine (preserves_readCharacter hinvoker).final_bind (fun _ hquiet => hquiet.alike) ?_ hquiet
  intro character hcharacter world hquiet
  by_cases hout : mailUid ∉ character.mailbox.inbox
  · rw [if_pos hout]
    exact hquiet.alike
  rw [if_neg hout]
  show Alike uid (world.changeMail mailUid markRead) start
  refine trans_of (Alike uid) (alike_changeMail fun folder hmem mail hrecord => ?_) hquiet.alike
  by_cases hfolder : folder = .inbox
  · subst hfolder
    rw [mailbox_congr (congrArg characters hquiet.data)] at hmem
    rw [hquiet.data] at hrecord
    have hown : mailUid ∈ start.mailbox invoker .inbox := by
      rw [mailbox_of_character hcharacter]
      exact not_not.1 hout
    rw [markRead_of_isRead (hread hown hmem mail hrecord)]
  · unfold visiblePart
    rw [if_neg hfolder, if_neg hfolder]
    rfl

theorem alike_letterDelete {uid : Uid} {start : World}
    (h : Discreet invoker uid start (.delete folder mailUid)) :
    Alike uid ((handleChatterLetterDelete invoker folder mailUid).final start) start := by
  obtain ⟨hmail, hinvoker, hdeleted⟩ := h
  unfold handleChatterLetterDelete
  split
  · exact refl_of (Alike uid) start
  refine (preserves_getMail hmail).final_bind (fun _ hquiet => hquiet.alike) ?_ (.refl uid start)
  intro found _ world hquiet
  split
  · exact hquiet.alike
  refine (preserves_readCharacter hinvoker).final_bind (fun _ hquiet => hquiet.alike) ?_ hquiet
  intro character hcharacter world hquiet
  by_cases hout : mailUid ∉ folderOf folder character
  · rw [if_pos hout]
    exact hquiet.alike
  rw [if_neg hout]
  show Alike uid (world.changeMail mailUid markDeleted) start
  refine trans_of (Alike uid) (alike_changeMail fun other hmem mail hrecord => ?_) hquiet.alike
  rw [mailbox_congr (congrArg characters hquiet.data)] at hmem
  rw [hquiet.data] at hrecord
  have hown : mailUid ∈ start.mailbox invoker folder := by
    rw [mailbox_of_character hcharacter]
    exact not_not.1 hout
  rw [markDeleted_of_isDeleted (hdeleted hown ⟨other, hmem⟩ mail hrecord)]

/-! ## The lists of the character itself -/

/-- Worlds that are alike, the first of which has the records of `start`. -/
def AlikeFrom (uid : Uid) (start first second : World) : Prop :=
  Alike uid first second ∧ first.data = start.data

section AlikeFrom

variable {uid : Uid} {start : World}

theorem agree_getMail (hmem : mailUid ∈ start.mailbox uid folder) :
    Agree (AlikeFrom uid start)
      (fun found other => found.map (visiblePart folder) = other.map (visiblePart folder) ∧
        ∀ mail, found = some mail → start.data.mails mailUid = some mail)
      (getMail mailUid) (getMail mailUid) := by
  rintro first second ⟨halike, hdata⟩
  have hfirst : mailUid ∈ first.mailbox uid folder := by
    rwa [mailbox_congr (congrArg characters hdata)]
  refine ⟨⟨?_, ?_⟩, halike.askMail mailUid, hdata⟩
  · unfold World.mail find
    rw [(halike.mailCache folder mailUid hfirst).1]
    split
    · exact halike.mails folder mailUid hfirst
    · rfl
  · intro mail hmail
    rw [← hdata]
    exact (find_eq_some.1 hmail).2.2

theorem agree_getCharacter (h : start.Concerns uid characterUid) :
    Agree (AlikeFrom uid start)
      (fun found other => found = other ∧
        ∀ character, found = some character → start.data.characters characterUid = some character)
      (getCharacter characterUid) (getCharacter characterUid) := by
  rintro first second ⟨halike, hdata⟩
  have hconcerns : first.Concerns uid characterUid := by
    unfold World.Concerns World.mailbox at h ⊢
    rwa [hdata]
  refine ⟨⟨?_, ?_⟩, halike.askCharacter characterUid, hdata⟩
  · unfold World.character find
    rw [(halike.characterCache characterUid hconcerns).1]
    show (if _ then first.data.characters characterUid else none) =
      if _ then second.data.characters characterUid else none
    rw [halike.characters]
  · intro character hcharacter
    rw [← hdata]
    exact (find_eq_some.1 hcharacter).2.2

theorem agree_ofOption {α : Type} {R : World → World → Prop} {Q : α → α → Prop} (error : String)
    {first second : Option α} (h : match first, second with
      | some a, some b => Q a b
      | none, none => True
      | _, _ => False) :
    Agree R Q (Effect.ofOption error first : LetterHandler α)
      (Effect.ofOption error second) := by
  cases first with
  | none =>
    cases second with
    | none => exact .throw _ error error
    | some b => exact h.elim
  | some a =>
    cases second with
    | none => exact h.elim
    | some b => exact .pure h

theorem agree_readMail (hmem : mailUid ∈ start.mailbox uid folder) :
    Agree (AlikeFrom uid start)
      (fun mail other => visiblePart folder mail = visiblePart folder other ∧
        start.data.mails mailUid = some mail)
      (readMail mailUid) (readMail mailUid) := by
  refine (agree_getMail hmem).bind fun found other h => agree_ofOption _ ?_
  obtain ⟨hsame, hrecord⟩ := h
  cases found with
  | none =>
    cases other with
    | none => trivial
    | some mail => cases hsame
  | some mail =>
    cases other with
    | none => cases hsame
    | some second => exact ⟨Option.some.inj hsame, hrecord mail rfl⟩

theorem agree_readCharacter (h : start.Concerns uid characterUid) :
    Agree (AlikeFrom uid start)
      (fun character other => character = other ∧
        start.data.characters characterUid = some character)
      (readCharacter characterUid) (readCharacter characterUid) := by
  refine (agree_getCharacter h).bind fun found other h => agree_ofOption _ ?_
  obtain ⟨rfl, hrecord⟩ := h
  cases found with
  | none => trivial
  | some character => exact ⟨rfl, hrecord character rfl⟩

theorem agree_eraseHidden (hmailbox : ∀ mailUid ∈ mailbox, mailUid ∈ start.mailbox uid folder) :
    Agree (AlikeFrom uid start)
      (fun kept other => kept = other ∧ ∀ mailUid ∈ kept, mailUid ∈ mailbox)
      (eraseHidden mailbox) (eraseHidden mailbox) := by
  induction mailbox with
  | nil => exact .pure ⟨rfl, fun _ => id⟩
  | cons mailUid rest ih =>
    refine (agree_getMail (hmailbox mailUid mem_cons_self)).bind fun found other hfound => ?_
    refine (ih fun uid huid => hmailbox uid (mem_cons_of_mem mailUid huid)).bind
      fun kept others hkept => ?_
    obtain ⟨rfl, hkept⟩ := hkept
    apply Agree.pure
    constructor
    · cases found with
      | none =>
        cases other with
        | none => rfl
        | some mail => cases hfound.1
      | some mail =>
        cases other with
        | none => cases hfound.1
        | some second =>
          have hdeleted : mail.isDeleted = second.isDeleted := by
            rw [← isDeleted_visiblePart folder mail, Option.some.inj hfound.1,
              isDeleted_visiblePart]
          show (if mail.isDeleted = true then kept else mailUid :: kept) =
            if second.isDeleted = true then kept else mailUid :: kept
          rw [hdeleted]
    · intro uid huid
      obtain hsame | huid := eq_or_mem_of_mem_ite huid
      · exact hsame ▸ mem_cons_self
      · exact mem_cons_of_mem mailUid (hkept uid huid)

/-- Mails of which a folder shows the same have the same correspondent. -/
theorem agree_correspondentName {other : Mail}
    (hsame : visiblePart folder mail = visiblePart folder other)
    (hconcerns : start.Concerns uid (correspondentUid folder mail)) :
    Agree (AlikeFrom uid start) Eq (correspondentName folder mail)
      (correspondentName folder other) := by
  have hcorrespondent : correspondentUid folder other = correspondentUid folder mail := by
    rw [← correspondentUid_visiblePart, ← hsame, correspondentUid_visiblePart]
  have htype : other.type = mail.type := by
    rw [← type_visiblePart folder other, ← hsame, type_visiblePart]
  unfold correspondentName
  rw [hcorrespondent, htype]
  split
  · refine agree_ofOption _ ?_
    cases systemName mail.type with
    | none => trivial
    | some name => rfl
  · refine (agree_readCharacter hconcerns).bind fun character second h => ?_
    exact .pure (congrArg Character.name h.1)

/-- A folder shows the same of two mails if the visible parts are the same. -/
theorem add_congr {other : Mail} (name : Text)
    (hsame : visiblePart response.mailboxFolder mail = visiblePart response.mailboxFolder other) :
    response.add mail name = response.add other name := by
  have hsent : ∀ folder mail, sentMail (visiblePart folder mail) name = sentMail mail name := by
    intro folder mail
    unfold visiblePart
    split <;> rfl
  unfold LetterListAckOk.add
  by_cases hfolder : response.mailboxFolder = .sent
  · rw [if_pos hfolder, if_pos hfolder, ← hsent response.mailboxFolder mail, hsame, hsent]
  rw [if_neg hfolder, if_neg hfolder]
  by_cases hinbox : response.mailboxFolder = .inbox
  · unfold visiblePart at hsame
    rw [if_pos hinbox, if_pos hinbox] at hsame
    rw [hsame]
  · rw [if_neg hinbox, if_neg hinbox]

theorem agree_buildResponse {uids : List Uid}
    (huids : ∀ mailUid ∈ uids, mailUid ∈ start.mailbox uid response.mailboxFolder) :
    Agree (AlikeFrom uid start) Eq (buildResponse response uids)
      (buildResponse response uids) := by
  induction uids generalizing response with
  | nil => exact .pure rfl
  | cons mailUid rest ih =>
    have hmem := huids mailUid mem_cons_self
    refine (agree_readMail hmem).bind fun mail other h => ?_
    obtain ⟨hsame, hrecord⟩ := h
    have hconcerns : start.Concerns uid (correspondentUid response.mailboxFolder mail) :=
      .inr ⟨_, mailUid, mail, hmem, hrecord, rfl⟩
    refine (agree_correspondentName hsame hconcerns).bind fun name second hname => ?_
    subst hname
    rw [add_congr name hsame]
    apply ih
    intro uid huid
    rw [mailboxFolder_add]
    exact huids uid (mem_cons_of_mem mailUid huid)

theorem agree_letterList (command : LetterList) :
    Agree (AlikeFrom uid start) Eq (handleChatterLetterList uid command)
      (handleChatterLetterList uid command) := by
  unfold handleChatterLetterList
  split
  · exact .pure rfl
  refine (agree_readCharacter (.inl rfl)).bind fun character other h => ?_
  obtain ⟨rfl, hrecord⟩ := h
  have hmailbox : start.mailbox uid command.mailboxFolder =
      folderOf command.mailboxFolder character := by
    unfold World.mailbox
    rw [hrecord]
  dsimp only
  split
  · exact .pure rfl
  rw [← hmailbox]
  refine (agree_eraseHidden fun _ => id).bind fun kept others h => ?_
  obtain ⟨rfl, hkept⟩ := h
  refine (agree_buildResponse fun mailUid hmem => hkept mailUid ?_).bind fun response second h => ?_
  · exact mem_of_mem_behind (mem_of_mem_take hmem)
  · subst h
    exact .pure rfl

end AlikeFrom

/-- Records that are loaded are loaded alike. -/
theorem Alike.load {uid : Uid} (h : Alike uid first second) (characters mails : Uid → Bool) :
    Alike uid (letterStep first (.load characters mails))
      (letterStep second (.load characters mails)) := by
  constructor
  · exact h.characters
  · exact h.mails
  · intro folder mailUid hmem
    obtain ⟨havailable, hrequested⟩ := h.mailCache folder mailUid hmem
    simp only [letterStep, Cache.load, havailable, hrequested, and_self]
  · intro other hconcerns
    obtain ⟨havailable, hrequested⟩ := h.characterCache other hconcerns
    simp only [letterStep, Cache.load, havailable, hrequested, and_self]

/-! ## Runs -/

/-- The commands of one character, the lists of another one and loads. -/
inductive SharedInput where
  | letter (command : LetterCommand)
  | list (command : LetterList)
  | load (characters mails : Uid → Bool)

/-- The commands are those of the character `invoker`, and the lists those of `uid`. -/
def sharedStep (invoker uid : Uid) (world : World) : SharedInput → World
  | .letter command => letterStep world (.command invoker command)
  | .list command => letterStep world (.command uid (.list command))
  | .load characters mails => letterStep world (.load characters mails)

/-- The input is a command of the first character. -/
def SharedInput.isLetter : SharedInput → Bool
  | .letter _ => true
  | .list _ | .load .. => false

def SharedInput.Discreet (invoker uid : Uid) (world : World) : SharedInput → Prop
  | .letter command => Messenger.Discreet invoker uid world command
  | .list _ | .load .. => True

theorem alike_command {uid : Uid} {command : LetterCommand} (h : Discreet invoker uid world command)
    :
    Alike uid (letterStep world (.command invoker command)) world := by
  cases command with
  | list command => exact alike_letterList h
  | read unk0 mailUid => exact alike_letterRead h
  | delete folder mailUid => exact alike_letterDelete h

/-- The first character has sent the mail 11 to the second one, and has the system mail 12 in its
inbox. -/
def correspondence : World :=
  { data :=
      { characters := fun uid =>
          if uid = 1 then some { uid := 1, mailbox := { inbox := [12], sent := [11] } }
          else if uid = 2 then some { uid := 2, mailbox := { inbox := [11] } }
          else none
        mails := fun uid =>
          if uid = 11 then some { uid := 11, sender := 1, recipient := 2 }
          else if uid = 12 then some { uid := 12, type := .noReply, recipient := 1 }
          else none } }

/-- Whatever discreet commands one character sends, the lists of the other one are answered as if it
had sent none. -/
theorem mailboxes_apart {invoker uid : Uid} {world : World} {inputs : List SharedInput}
    (hdiscreet : Guarded (sharedStep invoker uid) (SharedInput.Discreet invoker uid) world inputs)
    (command : LetterList) :
    (handleChatterLetterList uid command).returned (run (sharedStep invoker uid) world inputs) =
      (handleChatterLetterList uid command).returned
        (run (sharedStep invoker uid) world (inputs.filter fun input => !input.isLetter)) := by
  have halike : Alike uid (run (sharedStep invoker uid) world inputs)
      (run (sharedStep invoker uid) world (inputs.filter fun input => !input.isLetter)) := by
    apply unwinding _ _ (refl_of (Alike uid) world) hdiscreet
    · intro world input hletter hgood
      cases input with
      | letter command => exact alike_command hgood
      | list command => cases hletter
      | load characters mails => cases hletter
    · intro first second input hletter h
      cases input with
      | letter command => cases hletter
      | list command => exact ((agree_letterList command).outcome ⟨h, rfl⟩).2.1
      | load characters mails => exact h.load characters mails
  exact ((agree_letterList command).outcome ⟨halike, rfl⟩).1

theorem mailboxes_apart_system :
    (handleChatterLetterList 2 ⟨.inbox, 0, 10⟩).returned
        (run (sharedStep 1 2) correspondence [.letter (.delete .inbox 12)]) =
      (handleChatterLetterList 2 ⟨.inbox, 0, 10⟩).returned
        (run (sharedStep 1 2) correspondence []) := by
  have hdiscreet : Guarded (sharedStep 1 2) (SharedInput.Discreet 1 2) correspondence
      [.letter (.delete .inbox 12)] := by
    refine ⟨⟨fun _ => rfl, fun _ => rfl, ?_⟩, trivial⟩
    rintro - ⟨folder, hmem⟩
    have hfolder : (12 : Uid) ∈ folderOf folder { uid := 2, mailbox := { inbox := [11] } } := hmem
    unfold folderOf at hfolder
    split at hfolder
    · exact absurd hfolder (by decide)
    · split at hfolder <;> cases hfolder
  exact mailboxes_apart hdiscreet ⟨.inbox, 0, 10⟩

/-- The sender of a mail deletes it from its sent folder, and the recipient does not see it any
more. -/
theorem mailboxes_share : ¬∀ (invoker uid : Uid) (world : World) (inputs : List SharedInput)
    (command : LetterList), invoker ≠ uid →
      (handleChatterLetterList uid command).returned (run (sharedStep invoker uid) world inputs) =
        (handleChatterLetterList uid command).returned
          (run (sharedStep invoker uid) world (inputs.filter fun input => !input.isLetter)) := by
  intro hall
  have hsame := hall 1 2 correspondence [.letter (.delete .sent 11)] ⟨.inbox, 0, 10⟩ (by decide)
  exact absurd hsame (by decide +kernel)

end Alicia.Messenger
