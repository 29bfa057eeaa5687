import Alicia.Chat.Moderation
import Alicia.Naming.Registry
import Alicia.Naming.Validity
import Alicia.Possession.Payment
import Alicia.Ranch.Recovery

/-!
# Renaming horses and characters

A rename item is consumed for a new name.  The command for a horse that finds no item is cancelled, and goes on all the
same: the horse gets its name, and the client both answers.
-/

namespace Alicia.Ranch

open Transition Effect Data Storage List Function
open Possession (Failure ConsumeVerdict consumeItem Finds Lacks Consumed lacks_or_finds consumeItem_lacks
  consumeItem_enough consumeItem_short)
open DataDirector (characterStorage horseStorage itemStorage)

/-- `IsNameValid`, for the bytes of a name.  What is not UTF-8 is read as replacement characters, which are not valid. -/
def isTextValid (name : Text) : Bool :=
  match name.toByteArray.utf8Decode? with
  | none => false
  | some letters => Locale.isNameValid letters.toList 16

/-- The rest of the server: the words of the moderation, the files of the characters, and whether the user of the
character is in the lobby. -/
structure RenameServer where
  words : List Chat.Word := []
  opens : Uid → Bool := fun _ => true
  files : Naming.Directory := ∅
  isOnline : Bool := true

structure RenameLookups where
  character : Bool := true
  horse : Bool := true
  inventory : Uid → Bool := fun _ => true

/-- The records, and the answers that are queued. -/
structure Answered (Reply : Type) where
  data : DataDirector
  sent : List Reply := []

section Steps

variable {Reply : Type}

def queueReply (reply : Reply) : Effect (Answered Reply) Failure PUnit :=
  modify fun state => { state with sent := state.sent ++ [reply] }

/-- The access in which a rename item is consumed. -/
def consumeRenameItem (lookups : RenameLookups) (caller : Uid) (character : Character) (tid : Tid) :
    Effect (Answered Reply) Failure ConsumeVerdict := do
  let state ← get
  let consumption := consumeItem lookups.inventory tid 1 ⟨character, state.data⟩
  modify fun state =>
    { state with data := characterStorage.write caller consumption.2.value consumption.2.data }
  return consumption.1

/-- `GetUserByCharacterUid`, for the line in the log. -/
def requireUser (server : RenameServer) : Effect (Answered Reply) Failure PUnit :=
  if server.isOnline then pure ⟨⟩ else throw (.thrown "User instance for character not available")

end Steps

/-! ## Horses -/

inductive HorseNicknameUpdateError where
  | serverError
  | invalidNickname
  | noHorseRenameItem
  deriving DecidableEq

inductive MountNicknameReply where
  | ok (horseUid : Uid) (nickname : Text) (itemUid : Uid) (itemCount : UInt32)
  | cancel (error : HorseNicknameUpdateError)
  deriving DecidableEq

structure UpdateMountNickname where
  horseUid : Uid
  name : Text
  itemUid : Uid := invalidUid

def horseRenameItemTid : Tid := 45003

section Mount

variable (lookups : RenameLookups) (caller : Uid) (command : UpdateMountNickname) (character : Character) (horse : Horse)

/-- The consumption for a horse that has a name, and the count that remains. -/
def payForMountName : Effect (Answered MountNicknameReply) Failure UInt32 := do
  if horse.name.isEmpty then return 0
  let verdict ← consumeRenameItem lookups caller character horseRenameItemTid
  -- the handler does not return here
  if !verdict.itemConsumed then queueReply (.cancel .noHorseRenameItem)
  return verdict.remainingItemCount

def renameHorse : Effect (Answered MountNicknameReply) Failure PUnit :=
  modify fun state =>
    { state with data := horseStorage.write command.horseUid { horse with name := command.name } state.data }

def handleUpdateMountNickname (server : RenameServer) : Effect (Answered MountNicknameReply) Failure PUnit := do
  let state ← get
  match characterStorage.find lookups.character caller state.data with
  | none => throw (.thrown "Value of the record is unavailable")
  | some character =>
    if !ownsHorse character command.horseUid then queueReply (.cancel .serverError)
    else
      match horseStorage.find lookups.horse command.horseUid state.data with
      | none => queueReply (.cancel .serverError)
      | some horse =>
        if !isTextValid command.name || Chat.moderate command.name server.words then
          queueReply (.cancel .invalidNickname)
        else do
          let remainingItemCount ← payForMountName lookups caller character horse
          renameHorse command horse
          requireUser server
          queueReply (.ok command.horseUid command.name command.itemUid remainingItemCount)

end Mount

/-! ## Characters -/

inductive ChangeNicknameError where
  | noOrIncorrectItem
  | invalidNickname
  | duplicateNickname
  deriving DecidableEq

inductive ChangeNicknameReply where
  | ok (itemUid : Uid) (remainingItemCount : UInt16) (newNickname : Text)
  | cancel (error : ChangeNicknameError)
  deriving DecidableEq

structure ChangeNickname where
  itemUid : Uid := invalidUid
  newNickname : Text

def characterRenameItem : Tid := 46002

/-- The access in which the name is changed. -/
def renameCharacter (caller : Uid) (newNickname : Text) : Effect (Answered ChangeNicknameReply) Failure PUnit :=
  modify fun state =>
    match state.data.characters caller with
    | none => state
    | some current =>
      { state with data := characterStorage.write caller { current with name := newNickname } state.data }

def handleChangeNickname (lookups : RenameLookups) (caller : Uid) (command : ChangeNickname) (server : RenameServer) :
    Effect (Answered ChangeNicknameReply) Failure PUnit := do
  if !isTextValid command.newNickname then queueReply (.cancel .invalidNickname)
  else
    match Naming.isCharacterNameUnique server.opens server.files command.newNickname with
    | none => throw (.thrown "A character file cannot be read")
    | some false => queueReply (.cancel .duplicateNickname)
    | some true => do
      let state ← get
      match characterStorage.find lookups.character caller state.data with
      | none => throw (.thrown "Value of the record is unavailable")
      | some character => do
        let verdict ← consumeRenameItem lookups caller character characterRenameItem
        if !verdict.itemConsumed then queueReply (.cancel .noOrIncorrectItem)
        else do
          renameCharacter caller command.newNickname
          requireUser server
          queueReply (.ok command.itemUid verdict.remainingItemCount.toUInt16 command.newNickname)

/-! ## The purpose of a rename -/

/-- One rename item of the character is consumed, and nothing else. -/
def ItemPaid (caller : Uid) (tid : Tid) (data paid : DataDirector) : Prop :=
  ∃ character, data.characters caller = some character ∧ ∃ uid ∈ character.inventory, ∃ item held,
    data.items uid = some item ∧ item.tid = tid ∧ Consumed 1 uid item ⟨character, data⟩ held ∧
      paid = characterStorage.write caller held.value held.data

/-- The owned horse has the new valid name, which was paid for if it had one before. -/
def MountNamed (server : RenameServer) (caller : Uid) (command : UpdateMountNickname) (data after : DataDirector) : Prop :=
  (∃ character, data.characters caller = some character ∧ ownsHorse character command.horseUid = true) ∧
    isTextValid command.name = true ∧ Chat.moderate command.name server.words = false ∧
      ∃ horse paid, data.horses command.horseUid = some horse ∧
        (if horse.name = [] then paid = data else ItemPaid caller horseRenameItemTid data paid) ∧
        after = horseStorage.write command.horseUid { horse with name := command.name } paid

/-- One answer is sent, unless the command throws; OK means that the horse is named, and Cancel that nothing changed. -/
def RenamesMount (server : RenameServer) (lookups : RenameLookups) (caller : Uid) (command : UpdateMountNickname)
    (data : DataDirector) : Prop :=
  let handler := handleUpdateMountNickname lookups caller command server
  let after := handler.final { data := data }
  (handler.Completes { data := data } → ∃ reply, after.sent = [reply]) ∧
    (∀ horseUid nickname itemUid itemCount, .ok horseUid nickname itemUid itemCount ∈ after.sent →
      MountNamed server caller command data after.data) ∧
    ∀ error, .cancel error ∈ after.sent → after.data = data

/-- The name passed the checks and was paid for. -/
def NameChanged (server : RenameServer) (caller : Uid) (command : ChangeNickname) (data after : DataDirector) : Prop :=
  isTextValid command.newNickname = true ∧
    Naming.isCharacterNameUnique server.opens server.files command.newNickname = some true ∧
      ∃ paid current, ItemPaid caller characterRenameItem data paid ∧ paid.characters caller = some current ∧
        after = characterStorage.write caller { current with name := command.newNickname } paid

/-- The character gets the name that is paid for or nothing changes, and the answer tells which. -/
def RenamesCharacter (server : RenameServer) (lookups : RenameLookups) (caller : Uid) (command : ChangeNickname)
    (data : DataDirector) : Prop :=
  let handler := handleChangeNickname lookups caller command server
  let after := handler.final { data := data }
  (handler.Completes { data := data } → ∃ reply, after.sent = [reply]) ∧
    (∀ itemUid itemCount newNickname, .ok itemUid itemCount newNickname ∈ after.sent →
      NameChanged server caller command data after.data) ∧
    (∀ error, .cancel error ∈ after.sent → after.data = data) ∧
    (NameChanged server caller command data after.data ∨ after.data = data)

/-! ## The condition -/

/-- An item of the type with a piece is found. -/
def HasPiece (lookups : RenameLookups) (tid : Tid) (character : Character) (data : DataDirector) : Prop :=
  ∃ uid item, Finds lookups.inventory tid ⟨character, data⟩ uid item ∧ 1 ≤ item.count

/-- The condition for a horse: a rename item is found if one is asked for.  Without one only a name that the horse has
does no harm, if the user is not in the lobby. -/
def MountPayable (server : RenameServer) (lookups : RenameLookups) (caller : Uid) (command : UpdateMountNickname)
    (data : DataDirector) : Prop :=
  ∀ character ∈ characterStorage.find lookups.character caller data, ownsHorse character command.horseUid = true →
    ∀ horse ∈ horseStorage.find lookups.horse command.horseUid data, isTextValid command.name = true →
      Chat.moderate command.name server.words = false → horse.name ≠ [] →
        HasPiece lookups horseRenameItemTid character data ∨
          Lacks lookups.inventory horseRenameItemTid ⟨character, data⟩ ∧ server.isOnline = false ∧
            horse.name = command.name

/-- The condition for a character: a rename item that is found has a piece. -/
def NamePayable (server : RenameServer) (lookups : RenameLookups) (caller : Uid) (command : ChangeNickname)
    (data : DataDirector) : Prop :=
  ∀ character ∈ characterStorage.find lookups.character caller data, isTextValid command.newNickname = true →
    Naming.isCharacterNameUnique server.opens server.files command.newNickname = some true →
      HasPiece lookups characterRenameItem character data ∨
        Lacks lookups.inventory characterRenameItem ⟨character, data⟩

/-! ## Horses get their names -/

section Mount

variable {server : RenameServer} {lookups : RenameLookups} {caller : Uid} {command : UpdateMountNickname}
  {data : DataDirector} {character : Character} {horse : Horse}

/-- The end of the handler. -/
theorem finish_mount (count : UInt32) (state : Answered MountNicknameReply) :
    (do renameHorse command horse
        requireUser server
        queueReply (.ok command.horseUid command.name command.itemUid count) :
      Effect (Answered MountNicknameReply) Failure PUnit) state =
      if server.isOnline then
        .ok ⟨⟩
          { data := horseStorage.write command.horseUid { horse with name := command.name } state.data
            sent := state.sent ++ [.ok command.horseUid command.name command.itemUid count] }
      else
        .error (.thrown "User instance for character not available")
          { data := horseStorage.write command.horseUid { horse with name := command.name } state.data
            sent := state.sent } := by
  rw [renameHorse, bind_apply, modify_apply]
  dsimp only
  rw [requireUser, bind_apply]
  cases server.isOnline <;> rfl

theorem reached_mount (hcharacter : characterStorage.find lookups.character caller data = some character)
    (howned : ownsHorse character command.horseUid = true)
    (hhorse : horseStorage.find lookups.horse command.horseUid data = some horse)
    (hvalid : isTextValid command.name = true) (hallowed : Chat.moderate command.name server.words = false) :
    handleUpdateMountNickname lookups caller command server { data := data } =
      match payForMountName lookups caller character horse { data := data } with
      | .ok count state =>
        if server.isOnline then
          .ok ⟨⟩
            { data := horseStorage.write command.horseUid { horse with name := command.name } state.data
              sent := state.sent ++ [.ok command.horseUid command.name command.itemUid count] }
        else
          .error (.thrown "User instance for character not available")
            { data := horseStorage.write command.horseUid { horse with name := command.name } state.data
              sent := state.sent }
      | .error failure state => .error failure state := by
  rw [handleUpdateMountNickname, bind_apply, get_apply]
  dsimp only
  rw [hcharacter]
  dsimp only
  rw [howned, hhorse]
  simp only [Bool.not_true, Bool.false_eq_true, if_false, hvalid, hallowed, Bool.or_false]
  rw [bind_apply]
  cases payForMountName lookups caller character horse { data := data } with
  | error failure state => rfl
  | ok count state => exact finish_mount count state

/-- A horse without a name costs nothing. -/
theorem payForMountName_unnamed (hname : horse.name = []) (state : Answered MountNicknameReply) :
    payForMountName lookups caller character horse state = .ok 0 state := by
  rw [payForMountName, hname]
  rfl

theorem payForMountName_named (hname : horse.name ≠ []) :
    payForMountName lookups caller character horse { data := data } =
      .ok (consumeItem lookups.inventory horseRenameItemTid 1 ⟨character, data⟩).1.remainingItemCount
        { data := characterStorage.write caller
            (consumeItem lookups.inventory horseRenameItemTid 1 ⟨character, data⟩).2.value
            (consumeItem lookups.inventory horseRenameItemTid 1 ⟨character, data⟩).2.data
          sent :=
            if (consumeItem lookups.inventory horseRenameItemTid 1 ⟨character, data⟩).1.itemConsumed then []
            else [.cancel .noHorseRenameItem] } := by
  have hempty : horse.name.isEmpty = false := by
    rw [isEmpty_eq_false_iff]
    exact hname
  rw [payForMountName, hempty]
  simp only [Bool.false_eq_true, if_false, consumeRenameItem, bind_apply, get_apply, modify_apply,
    pure_apply]
  cases (consumeItem lookups.inventory horseRenameItemTid 1 ⟨character, data⟩).1.itemConsumed <;> rfl

theorem renamesMount_ok {after : Answered MountNicknameReply}
    (h : handleUpdateMountNickname lookups caller command server { data := data } = .ok ⟨⟩ after) :
    RenamesMount server lookups caller command data ↔ (∃ reply, after.sent = [reply]) ∧
      (∀ horseUid nickname itemUid itemCount, .ok horseUid nickname itemUid itemCount ∈ after.sent →
        MountNamed server caller command data after.data) ∧
      ∀ error, .cancel error ∈ after.sent → after.data = data := by
  have hcompletes : (handleUpdateMountNickname lookups caller command server).Completes { data := data } :=
    completes_iff.2 ⟨_, _, h⟩
  rw [RenamesMount]
  simp only [final_ok h, hcompletes, forall_const]

theorem renamesMount_error {failure : Failure} {after : Answered MountNicknameReply}
    (h : handleUpdateMountNickname lookups caller command server { data := data } = .error failure after) :
    RenamesMount server lookups caller command data ↔
      (∀ horseUid nickname itemUid itemCount, .ok horseUid nickname itemUid itemCount ∈ after.sent →
        MountNamed server caller command data after.data) ∧
      ∀ error, .cancel error ∈ after.sent → after.data = data := by
  have hcompletes : ¬(handleUpdateMountNickname lookups caller command server).Completes { data := data } := by
    intro hcompletes
    obtain ⟨a, state, hok⟩ := completes_iff.1 hcompletes
    cases h.symm.trans hok
  rw [RenamesMount]
  simp only [final_error h, hcompletes, false_implies, true_and]

theorem renamesMount_cancelled {error : HorseNicknameUpdateError}
    (h : handleUpdateMountNickname lookups caller command server { data := data } =
      .ok ⟨⟩ { data := data, sent := [.cancel error] }) : RenamesMount server lookups caller command data := by
  rw [renamesMount_ok h]
  refine ⟨⟨_, rfl⟩, fun _ _ _ _ hok => ?_, fun _ _ => rfl⟩
  cases mem_singleton.1 hok

section Reached

variable (hcharacter : characterStorage.find lookups.character caller data = some character)
  (howned : ownsHorse character command.horseUid = true)
  (hhorse : horseStorage.find lookups.horse command.horseUid data = some horse)
  (hvalid : isTextValid command.name = true) (hallowed : Chat.moderate command.name server.words = false)

include hcharacter howned hhorse hvalid hallowed

/-- A horse that is paid for, or needs no payment. -/
theorem renamesMount_paid {count : UInt32} {paid : DataDirector}
    (hpay : payForMountName lookups caller character horse { data := data } = .ok count { data := paid })
    (hpaid : if horse.name = [] then paid = data else ItemPaid caller horseRenameItemTid data paid) :
    RenamesMount server lookups caller command data := by
  obtain ⟨-, -, hcharacterRecord⟩ := find_eq_some.1 hcharacter
  obtain ⟨-, -, hhorseRecord⟩ := find_eq_some.1 hhorse
  have hnamed : MountNamed server caller command data
      (horseStorage.write command.horseUid { horse with name := command.name } paid) :=
    ⟨⟨character, hcharacterRecord, howned⟩, hvalid, hallowed, horse, paid, hhorseRecord, hpaid, rfl⟩
  have hresult := reached_mount hcharacter howned hhorse hvalid hallowed
  rw [hpay] at hresult
  dsimp only at hresult
  split at hresult
  · rw [renamesMount_ok hresult]
    refine ⟨⟨_, rfl⟩, fun _ _ _ _ _ => hnamed, fun error hcancel => ?_⟩
    cases mem_singleton.1 hcancel
  · rw [renamesMount_error hresult]
    exact ⟨fun _ _ _ _ hok => absurd hok not_mem_nil, fun _ hcancel => absurd hcancel not_mem_nil⟩

/-- A horse for whose name no item is consumed. -/
theorem renamesMount_refused {count : UInt32} {paid : DataDirector}
    (hpay : payForMountName lookups caller character horse { data := data } =
      .ok count { data := paid, sent := [.cancel .noHorseRenameItem] }) :
    RenamesMount server lookups caller command data ↔ server.isOnline = false ∧
      horseStorage.write command.horseUid { horse with name := command.name } paid = data := by
  have hresult := reached_mount hcharacter howned hhorse hvalid hallowed
  rw [hpay] at hresult
  dsimp only at hresult
  cases honline : server.isOnline with
  | true =>
    rw [honline, if_pos rfl] at hresult
    rw [renamesMount_ok hresult]
    refine iff_of_false ?_ fun h => Bool.noConfusion h.1
    rintro ⟨⟨reply, hreply⟩, -⟩
    cases hreply
  | false =>
    rw [honline, if_neg Bool.false_ne_true] at hresult
    rw [renamesMount_error hresult]
    constructor
    · exact fun h => ⟨rfl, h.2 _ (mem_singleton_self _)⟩
    · rintro ⟨-, hsame⟩
      refine ⟨fun _ _ _ _ hok => ?_, fun _ _ => hsame⟩
      cases mem_singleton.1 hok

end Reached

/-- Writing a name changes nothing exactly if the horse has it. -/
theorem write_name_iff (hhorse : data.horses command.horseUid = some horse) :
    horseStorage.write command.horseUid { horse with name := command.name } data = data ↔ horse.name = command.name := by
  constructor
  · intro hsame
    have hrecord := congrArg (fun data : DataDirector => data.horses command.horseUid) hsame
    have hboth := ((update_self ..).symm.trans hrecord).trans hhorse
    exact (congrArg Horse.name (Option.some_inj.1 hboth)).symm
  · intro hname
    rw [← hname]
    exact write_self hhorse

/-- The command gets to the item. -/
structure ReachesItem (server : RenameServer) (lookups : RenameLookups) (caller : Uid) (command : UpdateMountNickname)
    (data : DataDirector) (character : Character) (horse : Horse) : Prop where
  callerRecord : characterStorage.find lookups.character caller data = some character
  owned : ownsHorse character command.horseUid = true
  mountRecord : horseStorage.find lookups.horse command.horseUid data = some horse
  valid : isTextValid command.name = true
  allowed : Chat.moderate command.name server.words = false

/-- A command that does not get to the item changes nothing. -/
theorem reaches_or_cancelled (server : RenameServer) (lookups : RenameLookups) (caller : Uid)
    (command : UpdateMountNickname) (data : DataDirector) :
    (∃ character horse, ReachesItem server lookups caller command data character horse) ∨
      (∃ failure, handleUpdateMountNickname lookups caller command server { data := data } =
        .error failure { data := data }) ∨
      ∃ error, handleUpdateMountNickname lookups caller command server { data := data } =
        .ok ⟨⟩ { data := data, sent := [.cancel error] } := by
  rw [handleUpdateMountNickname, bind_apply, get_apply]
  dsimp only
  cases hcharacter : characterStorage.find lookups.character caller data with
  | none => exact .inr (.inl ⟨_, rfl⟩)
  | some character =>
    dsimp only
    cases howned : ownsHorse character command.horseUid with
    | false => exact .inr (.inr ⟨.serverError, rfl⟩)
    | true =>
      simp only [Bool.not_true, Bool.false_eq_true, if_false]
      cases hhorse : horseStorage.find lookups.horse command.horseUid data with
      | none => exact .inr (.inr ⟨.serverError, rfl⟩)
      | some horse =>
        cases hvalid : isTextValid command.name with
        | false => exact .inr (.inr ⟨.invalidNickname, rfl⟩)
        | true =>
          cases hallowed : Chat.moderate command.name server.words with
          | true => exact .inr (.inr ⟨.invalidNickname, rfl⟩)
          | false => exact .inl ⟨character, horse, hcharacter, howned, hhorse, hvalid, hallowed⟩

/-- The condition for a command that gets to the item. -/
theorem mountPayable_iff (h : ReachesItem server lookups caller command data character horse) :
    MountPayable server lookups caller command data ↔ (horse.name ≠ [] →
      HasPiece lookups horseRenameItemTid character data ∨
        Lacks lookups.inventory horseRenameItemTid ⟨character, data⟩ ∧ server.isOnline = false ∧
          horse.name = command.name) := by
  constructor
  · exact fun hpayable => hpayable character h.callerRecord h.owned horse h.mountRecord h.valid h.allowed
  · intro hpayable other hother _ otherHorse hotherHorse _ _
    cases h.callerRecord.symm.trans hother
    cases h.mountRecord.symm.trans hotherHorse
    exact hpayable

/-- A horse is renamed as it should be, exactly if a rename item is found when one is asked for. -/
theorem renamesMount_iff (server : RenameServer) (lookups : RenameLookups) (caller : Uid) (command : UpdateMountNickname)
    {data : DataDirector} (hid : data.Identified) (hinvalid : data.items invalidUid = none) :
    RenamesMount server lookups caller command data ↔ MountPayable server lookups caller command data := by
  by_cases hreaches : ∃ character horse, ReachesItem server lookups caller command data character horse
  · obtain ⟨character, horse, h⟩ := hreaches
    obtain ⟨-, -, hcharacterRecord⟩ := find_eq_some.1 h.callerRecord
    obtain ⟨-, -, hhorseRecord⟩ := find_eq_some.1 h.mountRecord
    rw [mountPayable_iff h]
    by_cases hname : horse.name = []
    · refine iff_of_true (renamesMount_paid h.callerRecord h.owned h.mountRecord h.valid h.allowed
        (payForMountName_unnamed hname _) ?_) fun hnamed => absurd hname hnamed
      rw [if_pos hname]
    · rw [forall_prop_of_true hname]
      have hpay := @payForMountName_named lookups caller data character horse hname
      obtain hlacks | ⟨uid, item, hfinds⟩ := lacks_or_finds lookups.inventory horseRenameItemTid ⟨character, data⟩
      · have hself : characterStorage.write caller character data = data := write_self hcharacterRecord
        rw [consumeItem_lacks hlacks] at hpay
        dsimp only at hpay
        rw [hself, if_neg Bool.false_ne_true] at hpay
        rw [renamesMount_refused h.callerRecord h.owned h.mountRecord h.valid h.allowed hpay, write_name_iff hhorseRecord]
        constructor
        · exact fun hsame => .inr ⟨hlacks, hsame⟩
        · rintro (⟨uid, item, hfinds, -⟩ | ⟨-, hsame⟩)
          · exact absurd hfinds hlacks.not_finds
          · exact hsame
      · have hpiece : HasPiece lookups horseRenameItemTid character data ∨
            Lacks lookups.inventory horseRenameItemTid ⟨character, data⟩ ∧ server.isOnline = false ∧
              horse.name = command.name ↔ 1 ≤ item.count := by
          constructor
          · rintro (⟨other, otherItem, hother, hcount⟩ | ⟨hlacks, -⟩)
            · obtain ⟨-, rfl⟩ := hfinds.unique hother
              exact hcount
            · exact absurd hfinds hlacks.not_finds
          · exact fun hcount => .inl ⟨uid, item, hfinds, hcount⟩
        rw [hpiece]
        by_cases hcount : 1 ≤ item.count
        · obtain ⟨hverdict, hconsumed⟩ := consumeItem_enough hid hinvalid hfinds hcount
          rw [hverdict, if_pos rfl] at hpay
          refine iff_of_true (renamesMount_paid h.callerRecord h.owned h.mountRecord h.valid h.allowed hpay ?_) hcount
          rw [if_neg hname]
          exact ⟨character, hcharacterRecord, uid, hfinds.owned, item, _, hfinds.record, hfinds.type, hconsumed, rfl⟩
        · obtain ⟨hverdict, hremoved⟩ := consumeItem_short hid hinvalid hfinds hcount
          rw [hverdict, if_neg Bool.false_ne_true, hremoved] at hpay
          rw [renamesMount_refused h.callerRecord h.owned h.mountRecord h.valid h.allowed hpay]
          refine iff_of_false ?_ hcount
          rintro ⟨-, hsame⟩
          -- the item without pieces is deleted
          have hrecord := congrArg (fun data : DataDirector => data.items uid) hsame
          have hgone := (update_self ..).symm.trans (hrecord.trans hfinds.record)
          exact Option.some_ne_none _ hgone.symm
  · refine iff_of_true ?_ fun character hcharacter howned horse hhorse hvalid hallowed _ =>
      absurd ⟨character, horse, hcharacter, howned, hhorse, hvalid, hallowed⟩ hreaches
    obtain h | ⟨failure, h⟩ | ⟨error, h⟩ := reaches_or_cancelled server lookups caller command data
    · exact absurd h hreaches
    · rw [renamesMount_error h]
      exact ⟨fun _ _ _ _ hok => absurd hok not_mem_nil, fun _ hcancel => absurd hcancel not_mem_nil⟩
    · exact renamesMount_cancelled h

end Mount

/-! ## Characters get their names -/

section Nickname

variable {server : RenameServer} {lookups : RenameLookups} {caller : Uid} {command : ChangeNickname}
  {data : DataDirector} {character : Character}

/-- The command gets to the item. -/
structure ReachesNickname (server : RenameServer) (lookups : RenameLookups) (caller : Uid) (command : ChangeNickname)
    (data : DataDirector) (character : Character) : Prop where
  callerRecord : characterStorage.find lookups.character caller data = some character
  valid : isTextValid command.newNickname = true
  unique : Naming.isCharacterNameUnique server.opens server.files command.newNickname = some true

theorem reaches_nickname_or_cancelled (server : RenameServer) (lookups : RenameLookups) (caller : Uid)
    (command : ChangeNickname) (data : DataDirector) :
    (∃ character, ReachesNickname server lookups caller command data character) ∨
      (∃ failure, handleChangeNickname lookups caller command server { data := data } =
        .error failure { data := data }) ∨
      ∃ error, handleChangeNickname lookups caller command server { data := data } =
        .ok ⟨⟩ { data := data, sent := [.cancel error] } := by
  rw [handleChangeNickname]
  cases hvalid : isTextValid command.newNickname with
  | false => exact .inr (.inr ⟨.invalidNickname, rfl⟩)
  | true =>
    simp only [Bool.not_true, Bool.false_eq_true, if_false]
    cases hunique : Naming.isCharacterNameUnique server.opens server.files command.newNickname with
    | none => exact .inr (.inl ⟨_, rfl⟩)
    | some isUnique =>
      cases isUnique with
      | false => exact .inr (.inr ⟨.duplicateNickname, rfl⟩)
      | true =>
        dsimp only
        rw [bind_apply, get_apply]
        dsimp only
        cases hcharacter : characterStorage.find lookups.character caller data with
        | none => exact .inr (.inl ⟨_, rfl⟩)
        | some character => exact .inl ⟨character, hcharacter, hvalid, hunique⟩

theorem reached_nickname (h : ReachesNickname server lookups caller command data character)
    {verdict : ConsumeVerdict} {held : Held Character}
    (hconsume : consumeItem lookups.inventory characterRenameItem 1 ⟨character, data⟩ = (verdict, held)) :
    handleChangeNickname lookups caller command server { data := data } =
      if verdict.itemConsumed then
        if server.isOnline then
          .ok ⟨⟩
            { data := characterStorage.write caller { held.value with name := command.newNickname }
                (characterStorage.write caller held.value held.data)
              sent := [.ok command.itemUid verdict.remainingItemCount.toUInt16 command.newNickname] }
        else
          .error (.thrown "User instance for character not available")
            { data := characterStorage.write caller { held.value with name := command.newNickname }
                (characterStorage.write caller held.value held.data) }
      else
        .ok ⟨⟩
          { data := characterStorage.write caller held.value held.data
            sent := [.cancel .noOrIncorrectItem] } := by
  have hcurrent : (characterStorage.write caller held.value held.data).characters caller = some held.value :=
    update_self ..
  rw [handleChangeNickname, h.valid]
  simp only [Bool.not_true, Bool.false_eq_true, if_false, h.unique]
  rw [bind_apply, get_apply]
  dsimp only
  rw [h.callerRecord]
  simp only [consumeRenameItem, bind_apply, get_apply, modify_apply, pure_apply, hconsume]
  cases verdict.itemConsumed with
  | false => rfl
  | true =>
    simp only [Bool.not_true, Bool.false_eq_true, if_false, if_true, renameCharacter, bind_apply,
      modify_apply, hcurrent, requireUser]
    cases server.isOnline <;> rfl

theorem renamesCharacter_ok {after : Answered ChangeNicknameReply}
    (h : handleChangeNickname lookups caller command server { data := data } = .ok ⟨⟩ after) :
    RenamesCharacter server lookups caller command data ↔ (∃ reply, after.sent = [reply]) ∧
      (∀ itemUid itemCount newNickname, .ok itemUid itemCount newNickname ∈ after.sent →
        NameChanged server caller command data after.data) ∧
      (∀ error, .cancel error ∈ after.sent → after.data = data) ∧
      (NameChanged server caller command data after.data ∨ after.data = data) := by
  have hcompletes : (handleChangeNickname lookups caller command server).Completes { data := data } :=
    completes_iff.2 ⟨_, _, h⟩
  rw [RenamesCharacter]
  simp only [final_ok h, hcompletes, forall_const]

theorem renamesCharacter_error {failure : Failure} {after : Answered ChangeNicknameReply}
    (h : handleChangeNickname lookups caller command server { data := data } = .error failure after) :
    RenamesCharacter server lookups caller command data ↔
      (∀ itemUid itemCount newNickname, .ok itemUid itemCount newNickname ∈ after.sent →
        NameChanged server caller command data after.data) ∧
      (∀ error, .cancel error ∈ after.sent → after.data = data) ∧
      (NameChanged server caller command data after.data ∨ after.data = data) := by
  have hcompletes : ¬(handleChangeNickname lookups caller command server).Completes { data := data } := by
    intro hcompletes
    obtain ⟨a, state, hok⟩ := completes_iff.1 hcompletes
    cases h.symm.trans hok
  rw [RenamesCharacter]
  simp only [final_error h, hcompletes, false_implies, true_and]

/-- An answer that only says that nothing happened. -/
theorem renamesCharacter_cancelled {error : ChangeNicknameError} {after : DataDirector}
    (h : handleChangeNickname lookups caller command server { data := data } =
      .ok ⟨⟩ { data := after, sent := [.cancel error] }) :
    RenamesCharacter server lookups caller command data ↔ after = data := by
  rw [renamesCharacter_ok h]
  constructor
  · exact fun hrenames => hrenames.2.2.1 error (mem_singleton_self _)
  · intro hsame
    refine ⟨⟨_, rfl⟩, fun _ _ _ hok => ?_, fun _ _ => hsame, .inr hsame⟩
    cases mem_singleton.1 hok

theorem renamesCharacter_paid (h : ReachesNickname server lookups caller command data character)
    {verdict : ConsumeVerdict} {held : Held Character}
    (hconsume : consumeItem lookups.inventory characterRenameItem 1 ⟨character, data⟩ = (verdict, held))
    (hverdict : verdict.itemConsumed = true)
    (hpaid : ItemPaid caller characterRenameItem data (characterStorage.write caller held.value held.data)) :
    RenamesCharacter server lookups caller command data := by
  have hchanged : NameChanged server caller command data
      (characterStorage.write caller { held.value with name := command.newNickname }
        (characterStorage.write caller held.value held.data)) :=
    ⟨h.valid, h.unique, _, held.value, hpaid, update_self .., rfl⟩
  have hresult := reached_nickname h hconsume
  rw [if_pos hverdict] at hresult
  split at hresult
  · rw [renamesCharacter_ok hresult]
    refine ⟨⟨_, rfl⟩, fun _ _ _ _ => hchanged, fun error hcancel => ?_, .inl hchanged⟩
    cases mem_singleton.1 hcancel
  · rw [renamesCharacter_error hresult]
    exact ⟨fun _ _ _ hok => absurd hok not_mem_nil, fun _ hcancel => absurd hcancel not_mem_nil, .inl hchanged⟩

/-- A character is renamed as it should be, exactly if a rename item that is found has a piece. -/
theorem renamesCharacter_iff (server : RenameServer) (lookups : RenameLookups) (caller : Uid) (command : ChangeNickname)
    {data : DataDirector} (hid : data.Identified) (hinvalid : data.items invalidUid = none) :
    RenamesCharacter server lookups caller command data ↔ NamePayable server lookups caller command data := by
  by_cases hreaches : ∃ character, ReachesNickname server lookups caller command data character
  · obtain ⟨character, h⟩ := hreaches
    obtain ⟨-, -, hcharacterRecord⟩ := find_eq_some.1 h.callerRecord
    have hpayable : NamePayable server lookups caller command data ↔
        HasPiece lookups characterRenameItem character data ∨
          Lacks lookups.inventory characterRenameItem ⟨character, data⟩ := by
      constructor
      · exact fun hpayable => hpayable character h.callerRecord h.valid h.unique
      · intro hpayable other hother _ _
        cases h.callerRecord.symm.trans hother
        exact hpayable
    rw [hpayable]
    obtain hlacks | ⟨uid, item, hfinds⟩ := lacks_or_finds lookups.inventory characterRenameItem ⟨character, data⟩
    · have hresult := reached_nickname h (consumeItem_lacks hlacks 1)
      rw [if_neg Bool.false_ne_true] at hresult
      rw [renamesCharacter_cancelled hresult]
      exact iff_of_true (write_self hcharacterRecord) (.inr hlacks)
    · have hpiece : HasPiece lookups characterRenameItem character data ∨
          Lacks lookups.inventory characterRenameItem ⟨character, data⟩ ↔ 1 ≤ item.count := by
        constructor
        · rintro (⟨other, otherItem, hother, hcount⟩ | hlacks)
          · obtain ⟨-, rfl⟩ := hfinds.unique hother
            exact hcount
          · exact absurd hfinds hlacks.not_finds
        · exact fun hcount => .inl ⟨uid, item, hfinds, hcount⟩
      rw [hpiece]
      obtain ⟨⟨verdict, held⟩, hconsume⟩ : ∃ consumption, consumeItem lookups.inventory characterRenameItem 1
        ⟨character, data⟩ = consumption := ⟨_, rfl⟩
      by_cases hcount : 1 ≤ item.count
      · obtain ⟨hverdict, hconsumed⟩ := consumeItem_enough hid hinvalid hfinds hcount
        rw [hconsume] at hverdict hconsumed
        exact iff_of_true (renamesCharacter_paid h hconsume hverdict
          ⟨character, hcharacterRecord, uid, hfinds.owned, item, held, hfinds.record, hfinds.type, hconsumed, rfl⟩) hcount
      · obtain ⟨hverdict, hremoved⟩ := consumeItem_short hid hinvalid hfinds hcount
        rw [hconsume] at hverdict hremoved
        dsimp only at hverdict hremoved
        have hresult := reached_nickname h hconsume
        rw [hverdict, if_neg Bool.false_ne_true, hremoved] at hresult
        rw [renamesCharacter_cancelled hresult]
        refine iff_of_false (fun hsame => ?_) hcount
        have hrecord := congrArg (fun data : DataDirector => data.items uid) hsame
        have hgone := (update_self ..).symm.trans (hrecord.trans hfinds.record)
        exact Option.some_ne_none _ hgone.symm
  · refine iff_of_true ?_ fun character hcharacter hvalid hunique =>
      absurd ⟨character, hcharacter, hvalid, hunique⟩ hreaches
    obtain h | ⟨failure, h⟩ | ⟨error, h⟩ := reaches_nickname_or_cancelled server lookups caller command data
    · exact absurd h hreaches
    · rw [renamesCharacter_error h]
      exact ⟨fun _ _ _ hok => absurd hok not_mem_nil, fun _ hcancel => absurd hcancel not_mem_nil, .inr rfl⟩
    · exact (renamesCharacter_cancelled h).2 rfl

/-- Renames are all or nothing exactly if the items that they ask for are there. -/
theorem renames_all_or_nothing (server : RenameServer) (lookups : RenameLookups) (caller : Uid)
    (mountCommand : UpdateMountNickname) (nicknameCommand : ChangeNickname) (data : DataDirector)
    (hid : data.Identified) (hinvalid : data.items invalidUid = none) :
    (RenamesMount server lookups caller mountCommand data ∧ RenamesCharacter server lookups caller nicknameCommand data) ↔
      MountPayable server lookups caller mountCommand data ∧ NamePayable server lookups caller nicknameCommand data := by
  rw [renamesMount_iff server lookups caller mountCommand hid hinvalid,
    renamesCharacter_iff server lookups caller nicknameCommand hid hinvalid]

/-- `"Star"` -/
def starName : Text := [83, 116, 97, 114]

/-- `"Moon"` -/
def moonName : Text := [77, 111, 111, 110]

/-- A character with a horse that has a name, and one rename item of each kind, or none. -/
def namer (inventory : List Uid) : DataDirector where
  characters uid := if uid = 1 then some { uid := 1, mountUid := 7, inventory := inventory } else none
  horses uid := if uid = 7 then some { uid := 7, name := starName } else none
  items uid :=
    if uid = 3 then some { uid := 3, tid := 45003, count := 1 }
    else if uid = 4 then some { uid := 4, tid := 46002, count := 1 } else none

theorem namer_identified (inventory : List Uid) : (namer inventory).Identified := by
  refine ⟨fun uid item hitem => ?_⟩
  have hitem : (if uid = 3 then some ({ uid := 3, tid := 45003, count := 1 } : Item)
    else if uid = 4 then some { uid := 4, tid := 46002, count := 1 } else none) = some item := hitem
  split at hitem
  · next huid =>
      cases hitem
      exact huid.symm
  · split at hitem
    · next huid =>
        cases hitem
        exact huid.symm
    · cases hitem

theorem renames_all_or_nothing_namer : RenamesMount {} {} 1 ⟨7, moonName, 3⟩ (namer [3, 4]) ∧
    RenamesCharacter {} {} 1 ⟨4, moonName⟩ (namer [3, 4]) := by
  refine (renames_all_or_nothing {} {} 1 ⟨7, moonName, 3⟩ ⟨4, moonName⟩ (namer [3, 4]) (namer_identified _) rfl).2 ⟨?_, ?_⟩
  · rintro character ⟨⟩ - horse ⟨⟩ - - -
    exact .inl ⟨3, _, ⟨rfl, rfl, rfl⟩, by decide⟩
  · rintro character ⟨⟩ - -
    exact .inl ⟨4, { uid := 4, tid := 46002, count := 1 }, ⟨rfl, by decide, rfl⟩, by decide⟩

/-- Without an item both answers are sent, and the horse gets its name. -/
theorem unpaid_named : ¬RenamesMount {} {} 1 ⟨7, moonName, invalidUid⟩ (namer []) := by
  rintro ⟨honly, -⟩
  obtain ⟨reply, hreply⟩ := honly (completes_iff.2 ⟨⟨⟩, _, rfl⟩)
  have hboth : ((handleUpdateMountNickname {} 1 ⟨7, moonName, invalidUid⟩ {}).final { data := namer [] }).sent =
      [.cancel .noHorseRenameItem, .ok 7 moonName invalidUid 0] := by decide +kernel
  cases hreply.symm.trans hboth

end Nickname

end Alicia.Ranch
