import Alicia.Breeding.Commands
import Alicia.Otp
import Alicia.Ranch.Tracker

/-!
# The ranches and their visitors

The contexts of the clients of the ranch server, the ranches with their trackers and clients, and the
handlers by which clients enter and leave a ranch.  The lookups of a handler are part of its input.

The display data of a response (housing, incubator, equipment, mounts) is left out, and so is what the
maturity of foals and the repair of lineages change in the records of horses.
-/

namespace Alicia.Ranch

open Std (ExtTreeMap ExtTreeSet)
open Transition Effect Data Possession RanchTracker
open DataDirector (characterStorage eggStorage guildStorage horseStorage itemStorage)

/-- `RanchDirector::ClientContext`. -/
structure ClientContext extends Breeding.ClientContext where
  characterUid := invalidUid
  userName : Text := []
  isAuthenticated : Bool := false
  visitingRancherUid : Uid := invalidUid
  enterRanchDeferAttempts : UInt32 := 0
  deriving DecidableEq

structure RanchInstance where
  tracker : RanchTracker := {}
  clients : ExtTreeSet ClientId := ∅
  deriving DecidableEq

/-- The market, the contexts of the clients, and the ranches that were visited. -/
structure Director extends Breeding.Market where
  data := {}
  otpSystem : OtpSystem := {}
  contexts : ClientId → Option ClientContext := fun _ => none
  ranches : ExtTreeMap Uid RanchInstance := ∅

namespace Director

variable (director : Director)

/-- `_ranches[rancherUid]`. -/
def ranch (rancherUid : Uid) : RanchInstance := director.ranches[rancherUid]?.getD {}

def setRanch (rancherUid : Uid) (ranchInstance : RanchInstance) : Director :=
  { director with ranches := director.ranches.insert rancherUid ranchInstance }

def setContext (client : ClientId) (context : Option ClientContext) : Director :=
  { director with contexts := Function.update director.contexts client context }

/-- Track objects on a ranch. -/
def addObjects (rancherUid : Uid) (objects : List RanchTracker.Object) : Director :=
  director.setRanch rancherUid { director.ranch rancherUid with
    tracker := (director.ranch rancherUid).tracker.addAll objects }

def addRanchHorse (rancherUid horseUid : Uid) : Director :=
  director.addObjects rancherUid [.horse horseUid]

end Director

namespace Director

variable {director : Director}

@[simp] theorem ranch_setRanch (rancherUid other : Uid) (ranchInstance : RanchInstance) :
    (director.setRanch rancherUid ranchInstance).ranch other =
      if other = rancherUid then ranchInstance else director.ranch other := by
  show (director.ranches.insert rancherUid ranchInstance)[other]?.getD {} = _
  rw [Collection.getElem?_insert_self_or_ne]
  split
  · rfl
  · rfl

@[simp] theorem ranch_setContext (client : ClientId) (context : Option ClientContext) (rancherUid : Uid) :
    (director.setContext client context).ranch rancherUid = director.ranch rancherUid := rfl

@[simp] theorem contexts_setContext (client : ClientId) (context : Option ClientContext) :
    (director.setContext client context).contexts =
      Function.update director.contexts client context := rfl

@[simp] theorem data_setContext (client : ClientId) (context : Option ClientContext) :
    (director.setContext client context).data = director.data := rfl

@[simp] theorem data_addObjects (rancherUid : Uid) (objects : List Object) :
    (director.addObjects rancherUid objects).data = director.data := rfl

theorem setContext_setContext (client : ClientId) (first second : Option ClientContext) :
    (director.setContext client first).setContext client second = director.setContext client second := by
  unfold setContext
  dsimp only
  rw [Function.update_idem]

theorem ranch_addObjects (rancherUid other : Uid) (objects : List Object) :
    (director.addObjects rancherUid objects).ranch other =
      if other = rancherUid then { director.ranch rancherUid with
        tracker := (director.ranch rancherUid).tracker.addAll objects }
      else director.ranch other := ranch_setRanch _ _ _

end Director

/-- `GetClientContext`. -/
def getClientContext (client : ClientId) (requireAuthentication : Bool) :
    Effect Director Failure ClientContext := fun director =>
  match director.contexts client with
  | none => .error (.thrown "Ranch client is not available") director
  | some context =>
    if requireAuthentication && !context.isAuthenticated then
      .error (.thrown "Ranch client is not authenticated") director
    else .ok context director

/-! ## Entering -/

/-- `AcCmdCREnterRanch`. -/
structure EnterRanch where
  rancherUid : Uid
  characterUid : Uid
  otp : UInt32 := 0
  deriving DecidableEq

/-- What the handler finds: the records that are available, the name of the user that plays the
character, and the eggs that the registry knows. -/
structure EnterLookups where
  rancher : Bool := true
  now : Nat := 0
  userName : Option Text := some []
  egg : Uid → Bool := fun _ => true
  hatchable : Tid → Bool := fun _ => true
  character : Uid → Bool := fun _ => true
  equipment : Uid → Bool := fun _ => true
  mount : Uid → Bool := fun _ => true
  guild : Uid → Bool := fun _ => true
  pet : Uid → Bool := fun _ => true
  horse : Uid → Bool := fun _ => true

structure RanchCharacter where
  oid : Oid
  uid : Uid
  name : Text
  role : Role
  introduction : Text
  deriving DecidableEq

structure EnterRanchOK where
  rancherUid : Uid
  rancherName : Text
  ranchName : Text
  horseSlots : UInt8
  isLocked : Bool
  characters : List RanchCharacter
  deriving DecidableEq

/-- The reply to an entry, with the horses that it is followed by, and the clients that are notified.
A deferred one is tried again later. -/
inductive EnterRanchReply where
  | ok (response : EnterRanchOK) (idleMounts : List (Uid × Oid)) (notified : List ClientId)
  | cancel
  | deferred
  deriving DecidableEq

def maxRanchCharacterCount : Nat := 20

/-- Authenticate the client, unless it is. -/
def authenticate (now : Nat) (client : ClientId) (context : ClientContext) (command : EnterRanch)
    (director : Director) : Director :=
  if context.isAuthenticated then director
  else
    let (authorized, otpSystem) := director.otpSystem.authorizeCode command.characterUid.toUInt64 now
      command.otp
    { director with otpSystem := otpSystem }.setContext client
      (some { context with isAuthenticated := authorized })

/-- The client is authenticated, or its code is right. -/
def isAuthorized (now : Nat) (context : ClientContext) (command : EnterRanch) (director : Director) :
    Bool :=
  context.isAuthenticated ||
    (director.otpSystem.authorizeCode command.characterUid.toUInt64 now command.otp).1

def isRanchLocked (rancher : Character) (command : EnterRanch) : Bool :=
  command.rancherUid != command.characterUid && rancher.isRanchLocked

def RanchInstance.isFull (ranchInstance : RanchInstance) : Bool :=
  ranchInstance.clients.size > maxRanchCharacterCount

/-- The name of a ranch, which ends in an apostrophe for a plural name. -/
def ranchName (rancherName : Text) : Text :=
  let endsWithPlural := rancherName.getLast? = some 's'.toUInt8 ∨ rancherName.getLast? = some 'S'.toUInt8
  rancherName ++ (if endsWithPlural then "' ranch" else "'s ranch").toUTF8.toList

/-- The registry knows the eggs of the rancher, if they are available. -/
def eggsKnown (lookups : EnterLookups) (rancher : Character) (data : DataDirector) : Bool :=
  match eggStorage.cachedAll lookups.egg data rancher.eggs with
  | none => true
  | some eggs => eggs.all fun egg => lookups.hatchable egg.itemTid

/-- A character of the ranch, if its equipment, its mount, its guild and its pet are available. -/
def ranchCharacter (lookups : EnterLookups) (data : DataDirector) (uid : Uid) (oid : Oid) :
    Except Failure RanchCharacter :=
  match characterStorage.find (lookups.character uid) uid data with
  | none => .error (.thrown "Ranch character not available")
  | some character =>
    if (itemStorage.cachedAll lookups.equipment data character.characterEquipment).isNone then
      .error (.thrown "Ranch character's equipment is not available")
    else if (horseStorage.cached (lookups.mount character.mountUid) character.mountUid data).isNone then
      .error (.thrown "Ranch character's mount is not available")
    else if character.guildUid ≠ invalidUid ∧ (guildStorage.find (lookups.guild character.guildUid)
        character.guildUid data).isNone then
      .error (.thrown "Ranch character's guild is not available")
    else if character.petUid ≠ invalidUid ∧ lookups.pet character.petUid = false then
      .error (.thrown "Ranch character's pet is not available")
    else
      .ok {
        oid := oid
        uid := character.uid
        name := character.name
        role := character.role
        introduction := character.introduction }

def ranchCharacters (lookups : EnterLookups) (data : DataDirector) :
    List (Uid × Oid) → Except Failure (List RanchCharacter)
  | [] => .ok []
  | (uid, oid) :: rest =>
    match ranchCharacter lookups data uid oid with
    | .error failure => .error failure
    | .ok character => (ranchCharacters lookups data rest).map (character :: ·)

/-- All horses of the ranch are available. -/
def horsesAvailable (lookups : EnterLookups) (data : DataDirector) (tracker : RanchTracker) : Bool :=
  tracker.horses.toList.all fun (uid, _) => (horseStorage.cached (lookups.horse uid) uid data).isSome

/-- Join the clients of the ranch, if what the ranch tracks is available. -/
def join (lookups : EnterLookups) (client : ClientId) (command : EnterRanch) (rancher : Character) :
    Effect Director Failure EnterRanchReply := fun director =>
  let ranchInstance := director.ranch command.rancherUid
  match ranchCharacters lookups director.data ranchInstance.tracker.characters.toList with
  | .error failure => .error failure director
  | .ok characters =>
    if horsesAvailable lookups director.data ranchInstance.tracker then
      .ok (.ok
        { rancherUid := command.rancherUid
          rancherName := rancher.name
          ranchName := ranchName rancher.name
          horseSlots := rancher.horseSlotCount
          isLocked := rancher.isRanchLocked
          characters := characters }
        ranchInstance.tracker.horses.toList ranchInstance.clients.toList)
        (director.setRanch command.rancherUid
          { ranchInstance with clients := ranchInstance.clients.insert client })
    else .ok .deferred director

/-- What follows when a client may enter. -/
def admitClient (lookups : EnterLookups) (client : ClientId) (command : EnterRanch) (rancher : Character) :
    Effect Director Failure EnterRanchReply := do
  modify fun director => director.addObjects command.rancherUid (rancher.horses.map .horse)
  if eggsKnown lookups rancher (← get).data then
    modify fun director => director.addObjects command.rancherUid [.character command.characterUid]
    join lookups client command rancher
  else throw (.thrown "Egg with given TID not found.")

def handleEnterRanch (lookups : EnterLookups) (client : ClientId) (command : EnterRanch) :
    Effect Director Failure EnterRanchReply := do
  let context ← getClientContext client false
  match characterStorage.cached lookups.rancher command.rancherUid (← get).data with
  | none => throw (.thrown "Rancher's character not available")
  | some rancher =>
    let authorized := isAuthorized lookups.now context command (← get)
    modify (authenticate lookups.now client context command)
    modify fun director => director.setRanch command.rancherUid (director.ranch command.rancherUid)
    if !authorized || isRanchLocked rancher command ||
        ((← get).ranch command.rancherUid).isFull then
      return .cancel
    else
      let entering := { context with
        isAuthenticated := true
        characterUid := command.characterUid
        visitingRancherUid := command.rancherUid }
      modify fun director => director.setContext client (some entering)
      match lookups.userName with
      | none => throw (.thrown "User instance for character not available")
      | some userName =>
        modify fun director => director.setContext client (some { entering with userName := userName })
        admitClient lookups client command rancher

section EnterRanch

variable {lookups : EnterLookups} {client : ClientId} {context : ClientContext} {command : EnterRanch}
  {director : Director}

theorem getClientContext_none {required : Bool} (h : director.contexts client = none) :
    getClientContext client required director =
      .error (.thrown "Ranch client is not available") director := by
  rw [getClientContext, h]

theorem getClientContext_some (h : director.contexts client = some context) :
    getClientContext client false director = .ok context director := by
  rw [getClientContext, h]
  rfl

/-- The context of an authenticated client. -/
def ownContext (client : ClientId) (director : Director) : Option ClientContext :=
  (director.contexts client).filter fun context => context.isAuthenticated

theorem ownContext_eq_some : ownContext client director = some context ↔
    director.contexts client = some context ∧ context.isAuthenticated = true :=
  Option.filter_eq_some_iff

theorem getClientContext_own (h : ownContext client director = some context) :
    getClientContext client true director = .ok context director := by
  obtain ⟨hcontext, hauthenticated⟩ := ownContext_eq_some.1 h
  rw [getClientContext, hcontext]
  simp [hauthenticated]

theorem getClientContext_other (h : ownContext client director = none) :
    ∃ failure, getClientContext client true director = .error failure director := by
  cases hcontext : director.contexts client with
  | none => exact ⟨_, getClientContext_none hcontext⟩
  | some context =>
    cases hauthenticated : context.isAuthenticated with
    | true => cases (ownContext_eq_some.2 ⟨hcontext, hauthenticated⟩).symm.trans h
    | false =>
      refine ⟨.thrown "Ranch client is not authenticated", ?_⟩
      rw [getClientContext, hcontext]
      simp [hauthenticated]

/-- What a handler leaves that starts with the context of its client. -/
theorem final_own_bind {α : Type} (f : ClientContext → Effect Director Failure α) :
    (getClientContext client true >>= f).final director =
      match ownContext client director with
      | some context => (f context).final director
      | none => director := by
  cases h : ownContext client director with
  | some context => exact final_bind_ok (getClientContext_own h)
  | none =>
    obtain ⟨failure, hfailure⟩ := getClientContext_other h
    exact final_bind_error hfailure

variable (lookups client context command director)

/-- The command is answered with a cancel. -/
def isRefused (rancher : Character) : Bool :=
  !isAuthorized lookups.now context command director || isRanchLocked rancher command ||
    (director.ranch command.rancherUid).isFull

/-- The client's code is checked, and the ranch is there. -/
def opened : Director :=
  (authenticate lookups.now client context command director).setRanch command.rancherUid
    (director.ranch command.rancherUid)

/-- The context of a client that may enter. -/
def entering (userName : Text) : ClientContext :=
  { context with
    isAuthenticated := true
    characterUid := command.characterUid
    visitingRancherUid := command.rancherUid
    userName := userName }

/-- The ranch tracks the horses of the rancher. -/
def housed (rancher : Character) : Director :=
  director.addObjects command.rancherUid (rancher.horses.map .horse)

/-- The ranch tracks the character as well. -/
def tracked (rancher : Character) : Director :=
  (housed command director rancher).addObjects command.rancherUid [.character command.characterUid]

variable {lookups client context command director}

theorem ranch_authenticate (rancherUid : Uid) :
    (authenticate lookups.now client context command director).ranch rancherUid =
      director.ranch rancherUid := by
  rw [authenticate]
  split
  · rfl
  · rfl

theorem data_authenticate :
    (authenticate lookups.now client context command director).data = director.data := by
  rw [authenticate]
  split
  · rfl
  · rfl

theorem ranch_opened (rancherUid : Uid) :
    (opened lookups client context command director).ranch rancherUid = director.ranch rancherUid := by
  rw [opened, Director.ranch_setRanch, ranch_authenticate]
  split
  · next h => rw [h]
  · rfl

theorem data_opened : (opened lookups client context command director).data = director.data :=
  data_authenticate

theorem tracker_addObjects (rancherUid other : Uid) (objects : List Object) :
    ((director.addObjects rancherUid objects).ranch other).tracker =
      if other = rancherUid then (director.ranch rancherUid).tracker.addAll objects
      else (director.ranch other).tracker := by
  rw [Director.ranch_addObjects]
  split
  · rfl
  · rfl

theorem tracker_tracked (rancher : Character) (other : Uid) :
    ((tracked command director rancher).ranch other).tracker =
      if other = command.rancherUid then (director.ranch command.rancherUid).tracker.addAll
        (rancher.horses.map .horse ++ [.character command.characterUid])
      else (director.ranch other).tracker := by
  rw [tracked, tracker_addObjects, housed]
  split
  · rw [tracker_addObjects, if_pos rfl]
    exact (run_append add _ _ _).symm
  · next h => rw [tracker_addObjects, if_neg h]

theorem admitClient_apply (rancher : Character) : admitClient lookups client command rancher director =
    if eggsKnown lookups rancher director.data = true then
      join lookups client command rancher (tracked command director rancher)
    else .error (.thrown "Egg with given TID not found.") (housed command director rancher) := by
  rw [admitClient, bind_apply, modify_apply]
  dsimp only
  rw [bind_apply, get_apply]
  dsimp only
  rw [Director.data_addObjects]
  split
  · rfl
  · rfl

/-- The client joins the clients of the ranch. -/
def joined (director : Director) (client : ClientId) (rancherUid : Uid) : Director :=
  director.setRanch rancherUid { director.ranch rancherUid with
    clients := (director.ranch rancherUid).clients.insert client }

/-- What the ranch tracks is available. -/
def isPresentable (lookups : EnterLookups) (rancherUid : Uid) (director : Director) : Bool :=
  (ranchCharacters lookups director.data
    (director.ranch rancherUid).tracker.characters.toList).isOk

theorem join_apply (rancher : Character) :
    (∃ failure, isPresentable lookups command.rancherUid director = false ∧
      join lookups client command rancher director = .error failure director) ∨
    (isPresentable lookups command.rancherUid director = true ∧
      horsesAvailable lookups director.data (director.ranch command.rancherUid).tracker = false ∧
      join lookups client command rancher director = .ok .deferred director) ∨
    (∃ response idleMounts notified, isPresentable lookups command.rancherUid director = true ∧
      horsesAvailable lookups director.data (director.ranch command.rancherUid).tracker = true ∧
      join lookups client command rancher director =
        .ok (.ok response idleMounts notified) (joined director client command.rancherUid)) := by
  unfold join isPresentable
  dsimp only
  cases ranchCharacters lookups director.data
    (director.ranch command.rancherUid).tracker.characters.toList with
  | error failure => exact .inl ⟨failure, rfl, rfl⟩
  | ok characters =>
    refine .inr ?_
    cases horsesAvailable lookups director.data (director.ranch command.rancherUid).tracker with
    | false => exact .inl ⟨rfl, rfl, rfl⟩
    | true => exact .inr ⟨_, _, _, rfl, rfl, rfl⟩

theorem final_join (rancher : Character) : (join lookups client command rancher).final director =
    if isPresentable lookups command.rancherUid director &&
      horsesAvailable lookups director.data (director.ranch command.rancherUid).tracker then
      joined director client command.rancherUid
    else director := by
  obtain ⟨failure, hpresentable, h⟩ | ⟨hpresentable, havailable, h⟩ |
    ⟨response, idleMounts, notified, hpresentable, havailable, h⟩ :=
      @join_apply lookups client command director rancher
  · rw [final_error h, hpresentable]
    rfl
  · rw [final_ok h, hpresentable, havailable]
    rfl
  · rw [final_ok h, hpresentable, havailable]
    rfl

theorem handleEnterRanch_unavailable (h : director.contexts client = some context)
    (hrancher : characterStorage.cached lookups.rancher command.rancherUid director.data = none) :
    handleEnterRanch lookups client command director =
      .error (.thrown "Rancher's character not available") director := by
  rw [handleEnterRanch, bind_ok (getClientContext_some h), bind_apply, get_apply]
  dsimp only
  rw [hrancher]
  rfl

theorem handleEnterRanch_apply {rancher : Character} (h : director.contexts client = some context)
    (hrancher : characterStorage.cached lookups.rancher command.rancherUid director.data =
      some rancher) :
    handleEnterRanch lookups client command director =
      if isRefused lookups context command director rancher = true then
        .ok .cancel (opened lookups client context command director)
      else
        match lookups.userName with
        | none => .error (.thrown "User instance for character not available")
            ((opened lookups client context command director).setContext client
              (some (entering context command context.userName)))
        | some userName => admitClient lookups client command rancher
            ((opened lookups client context command director).setContext client
              (some (entering context command userName))) := by
  have hopened : (authenticate lookups.now client context command director).setRanch
      command.rancherUid ((authenticate lookups.now client context command director).ranch
        command.rancherUid) = opened lookups client context command director := by
    rw [opened, ranch_authenticate]
  rw [handleEnterRanch, bind_ok (getClientContext_some h), bind_apply, get_apply]
  dsimp only
  rw [hrancher]
  dsimp only
  rw [bind_apply, get_apply]
  dsimp only
  rw [bind_apply, modify_apply]
  dsimp only
  rw [bind_apply, modify_apply]
  dsimp only
  rw [hopened, bind_apply, get_apply]
  dsimp only
  rw [ranch_opened]
  by_cases hrefused : isRefused lookups context command director rancher = true
  · rw [if_pos hrefused]
    exact congrFun (if_pos hrefused) _
  · rw [if_neg hrefused]
    refine (congrFun (if_neg hrefused) _).trans ?_
    rw [bind_apply, modify_apply]
    dsimp only
    cases lookups.userName with
    | none => rfl
    | some userName =>
      dsimp only
      rw [bind_apply, modify_apply]
      dsimp only
      rw [Director.setContext_setContext]
      rfl

variable (lookups client context command director) in
/-- The director with the context of a client that may enter. -/
def entered (userName : Text) : Director :=
  (opened lookups client context command director).setContext client
    (some (entering context command userName))

theorem ranch_entered (userName : Text) (rancherUid : Uid) :
    (entered lookups client context command director userName).ranch rancherUid =
      director.ranch rancherUid := ranch_opened rancherUid

theorem data_entered (userName : Text) :
    (entered lookups client context command director userName).data = director.data := data_opened

variable (lookups client command director) in
/-- What can become of an entry. -/
inductive EntryOutcome : EStateM.Result Failure Director EnterRanchReply → Prop
  | absent (hcontext : director.contexts client = none) :
      EntryOutcome (.error (.thrown "Ranch client is not available") director)
  | unavailable {context : ClientContext} (hcontext : director.contexts client = some context)
      (hrancher : characterStorage.cached lookups.rancher command.rancherUid director.data = none) :
      EntryOutcome (.error (.thrown "Rancher's character not available") director)
  | refused {context : ClientContext} {rancher : Character}
      (hcontext : director.contexts client = some context)
      (hrancher : characterStorage.cached lookups.rancher command.rancherUid director.data =
        some rancher)
      (hrefused : isRefused lookups context command director rancher = true) :
      EntryOutcome (.ok .cancel (opened lookups client context command director))
  | offline {context : ClientContext} {rancher : Character}
      (hcontext : director.contexts client = some context)
      (hrancher : characterStorage.cached lookups.rancher command.rancherUid director.data =
        some rancher)
      (hrefused : isRefused lookups context command director rancher = false)
      (huser : lookups.userName = none) :
      EntryOutcome (.error (.thrown "User instance for character not available")
        (entered lookups client context command director context.userName))
  | unknownEgg {context : ClientContext} {rancher : Character} {userName : Text}
      (hcontext : director.contexts client = some context)
      (hrancher : characterStorage.cached lookups.rancher command.rancherUid director.data =
        some rancher)
      (hrefused : isRefused lookups context command director rancher = false)
      (huser : lookups.userName = some userName)
      (heggs : eggsKnown lookups rancher director.data = false) :
      EntryOutcome (.error (.thrown "Egg with given TID not found.")
        (housed command (entered lookups client context command director userName) rancher))
  | unpresentable {context : ClientContext} {rancher : Character} {userName : Text}
      (hcontext : director.contexts client = some context)
      (hrancher : characterStorage.cached lookups.rancher command.rancherUid director.data =
        some rancher)
      (hrefused : isRefused lookups context command director rancher = false)
      (huser : lookups.userName = some userName)
      (heggs : eggsKnown lookups rancher director.data = true)
      (hpresentable : isPresentable lookups command.rancherUid
        (tracked command (entered lookups client context command director userName) rancher) = false)
      (failure : Failure) :
      EntryOutcome (.error failure
        (tracked command (entered lookups client context command director userName) rancher))
  | deferred {context : ClientContext} {rancher : Character} {userName : Text}
      (hcontext : director.contexts client = some context)
      (hrancher : characterStorage.cached lookups.rancher command.rancherUid director.data =
        some rancher)
      (hrefused : isRefused lookups context command director rancher = false)
      (huser : lookups.userName = some userName)
      (heggs : eggsKnown lookups rancher director.data = true)
      (hpresentable : isPresentable lookups command.rancherUid
        (tracked command (entered lookups client context command director userName) rancher) = true) :
      EntryOutcome (.ok .deferred
        (tracked command (entered lookups client context command director userName) rancher))
  | joined {context : ClientContext} {rancher : Character} {userName : Text}
      (hcontext : director.contexts client = some context)
      (hrancher : characterStorage.cached lookups.rancher command.rancherUid director.data =
        some rancher)
      (hrefused : isRefused lookups context command director rancher = false)
      (huser : lookups.userName = some userName)
      (heggs : eggsKnown lookups rancher director.data = true)
      (hpresentable : isPresentable lookups command.rancherUid
        (tracked command (entered lookups client context command director userName) rancher) = true)
      (response : EnterRanchOK) (idleMounts : List (Uid × Oid)) (notified : List ClientId) :
      EntryOutcome (.ok (.ok response idleMounts notified)
        (joined (tracked command (entered lookups client context command director userName) rancher)
          client command.rancherUid))

variable (lookups client command director) in
theorem handleEnterRanch_outcome :
    EntryOutcome lookups client command director (handleEnterRanch lookups client command director) := by
  cases hcontext : director.contexts client with
  | none =>
    rw [handleEnterRanch, bind_apply, getClientContext_none hcontext]
    exact .absent hcontext
  | some context =>
  cases hrancher : characterStorage.cached lookups.rancher command.rancherUid director.data with
  | none =>
    rw [handleEnterRanch_unavailable hcontext hrancher]
    exact .unavailable hcontext hrancher
  | some rancher =>
  rw [handleEnterRanch_apply hcontext hrancher]
  cases hrefused : isRefused lookups context command director rancher with
  | true =>
    rw [if_pos rfl]
    exact .refused hcontext hrancher hrefused
  | false =>
  rw [if_neg Bool.false_ne_true]
  cases huser : lookups.userName with
  | none => exact .offline hcontext hrancher hrefused huser
  | some userName =>
  dsimp only
  rw [admitClient_apply, Director.data_setContext, data_opened]
  cases heggs : eggsKnown lookups rancher director.data with
  | false =>
    rw [if_neg Bool.false_ne_true]
    exact .unknownEgg hcontext hrancher hrefused huser heggs
  | true =>
  rw [if_pos rfl]
  obtain ⟨failure, hpresentable, h⟩ | ⟨hpresentable, -, h⟩ |
    ⟨response, idleMounts, notified, hpresentable, -, h⟩ :=
      @join_apply lookups client command
        (tracked command (entered lookups client context command director userName) rancher) rancher
  · refine h.symm ▸ ?_
    exact .unpresentable hcontext hrancher hrefused huser heggs hpresentable failure
  · refine h.symm ▸ ?_
    exact .deferred hcontext hrancher hrefused huser heggs hpresentable
  · refine h.symm ▸ ?_
    exact .joined hcontext hrancher hrefused huser heggs hpresentable response idleMounts notified

end EnterRanch

/-! ## Leaving -/

/-- The notify of a leave, with the clients that get it. -/
structure LeaveRanchReply where
  characterId : Uid
  notified : List ClientId
  deriving DecidableEq

/-- `HandleRanchLeave`.  There is no reply when the ranch is not instanced. -/
def handleRanchLeave (client : ClientId) : Effect Director Failure (Option LeaveRanchReply) := do
  let context ← getClientContext client true
  match (← get).ranches[context.visitingRancherUid]? with
  | none => return none
  | some ranchInstance =>
    let clients := ranchInstance.clients.erase client
    modify fun director => director.setRanch context.visitingRancherUid
      { tracker := ranchInstance.tracker.removeCharacter context.characterUid
        clients := clients }
    return some ⟨context.characterUid, clients.toList⟩

section Leaving

variable {client : ClientId} {context : ClientContext} {director : Director}

/-- The ranch which the client visits goes on without it and its character. -/
def departed (client : ClientId) (context : ClientContext) (director : Director) : Director :=
  match director.ranches[context.visitingRancherUid]? with
  | none => director
  | some ranchInstance => director.setRanch context.visitingRancherUid
      { tracker := ranchInstance.tracker.removeCharacter context.characterUid
        clients := ranchInstance.clients.erase client }

theorem handleRanchLeave_own (h : ownContext client director = some context) :
    ∃ reply, handleRanchLeave client director = .ok reply (departed client context director) := by
  rw [handleRanchLeave, bind_ok (getClientContext_own h), bind_apply, get_apply]
  unfold departed
  dsimp only
  cases director.ranches[context.visitingRancherUid]? with
  | none => exact ⟨none, rfl⟩
  | some ranchInstance => exact ⟨_, rfl⟩

theorem final_leave : (handleRanchLeave client).final director =
    match ownContext client director with
    | some context => departed client context director
    | none => director := by
  cases h : ownContext client director with
  | none =>
    rw [handleRanchLeave, final_own_bind, h]
  | some context =>
    obtain ⟨reply, hreply⟩ := handleRanchLeave_own h
    exact final_ok hreply

/-- What was a ranch before is the same ranch afterwards, or the one that was left. -/
theorem ranch_departed (rancherUid : Uid) : (departed client context director).ranch rancherUid =
    if rancherUid = context.visitingRancherUid then
      { tracker := (director.ranch rancherUid).tracker.removeCharacter context.characterUid
        clients := (director.ranch rancherUid).clients.erase client }
    else director.ranch rancherUid := by
  unfold departed
  cases hranch : director.ranches[context.visitingRancherUid]? with
  | none =>
    dsimp only
    by_cases h : rancherUid = context.visitingRancherUid
    · have hempty : director.ranch rancherUid = {} := by
        rw [Director.ranch, h, hranch]
        rfl
      rw [if_pos h, hempty, removeCharacter, ExtTreeMap.erase_empty,
        ExtTreeSet.erase_empty]
    · rw [if_neg h]
  | some ranchInstance =>
    dsimp only
    rw [Director.ranch_setRanch]
    split
    · next h => rw [Director.ranch, h, hranch, Option.getD_some]
    · rfl

end Leaving

/-! ## Connections -/

/-- `HandleClientConnected`, which leaves a context that exists alone. -/
def handleClientConnected (client : ClientId) (director : Director) : Director :=
  match director.contexts client with
  | some _ => director
  | none => director.setContext client (some {})

def handleClientDisconnected (client : ClientId) : Effect Director Failure PUnit := do
  let context ← getClientContext client false
  if context.isAuthenticated then
    let _ ← handleRanchLeave client
  modify fun director => director.setContext client none

/-- A client that disconnects leaves its ranch if it is authenticated. -/
theorem final_disconnected {client : ClientId} {director : Director} :
    (handleClientDisconnected client).final director =
      match director.contexts client with
      | none => director
      | some context =>
        (if context.isAuthenticated then departed client context director else director).setContext
          client none := by
  rw [handleClientDisconnected]
  cases hcontext : director.contexts client with
  | none => exact final_bind_error (getClientContext_none hcontext)
  | some context =>
    rw [final_bind_ok (getClientContext_some hcontext)]
    dsimp only
    by_cases hauthenticated : context.isAuthenticated = true
    · rw [if_pos hauthenticated, if_pos hauthenticated]
      obtain ⟨reply, hreply⟩ := handleRanchLeave_own (ownContext_eq_some.2 ⟨hcontext, hauthenticated⟩)
      rw [final_bind_ok hreply]
      rfl
    · rw [if_neg hauthenticated, if_neg hauthenticated]
      rfl

end Alicia.Ranch
