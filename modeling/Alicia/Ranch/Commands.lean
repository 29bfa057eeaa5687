import Alicia.Protocol.RanchMessages
import Alicia.Ranch.Entry

/-!
# Commands of the ranch

The handlers of the ranch that track objects, look objects up or are tried again later, and the system of
these handlers.
-/

namespace Alicia.Ranch

open Transition Effect Data Registry Possession
open DataDirector (characterStorage horseStorage)
open Protocol (AcCmdCRRanchSnapshot RanchCommandRanchSnapshotNotify)

/-! ## TryBreeding -/

/-- The market with the contexts of the authenticated clients. -/
def Director.breeding (director : Director) : Breeding.Ranch where
  toMarket := director.toMarket
  contexts client := ((director.contexts client).filter fun context => context.isAuthenticated).map
    ClientContext.toClientContext

/-- Change a context as breeding does. -/
def ClientContext.withBreeding (context : Option ClientContext)
    (changed : Option Breeding.ClientContext) : Option ClientContext :=
  match context, changed with
  | some context, some changed => some { context with toClientContext := changed }
  | context, _ => context

def Director.withBreeding (ranch : Breeding.Ranch) (director : Director) : Director :=
  { director with
    toMarket := ranch.toMarket
    contexts := fun client =>
      ClientContext.withBreeding (director.contexts client) (ranch.contexts client) }

/-- `HandleTryBreeding`.  A foal that is born is tracked on the ranch of its owner. -/
def handleTryBreeding (registry : BreedingRegistry) (lookups : Breeding.TryBreedingLookups)
    (client : ClientId) (command : Breeding.TryBreeding) :
    Effect Director Failure Breeding.TryBreedingReply := do
  let context ← getClientContext client true
  let reply ← (Breeding.handleTryBreeding registry lookups client command).zoom Director.breeding
    Director.withBreeding
  match reply with
  | .ok foalUid =>
    modify fun director => director.addRanchHorse context.characterUid foalUid
    return reply
  | _ => return reply

/-! ## Horses that come and go -/

/-- The purchased horses of a client are tracked on its own ranch. -/
def registerPurchasedHorses (client : ClientId) (horseUids : List Uid) :
    Effect Director Failure PUnit := do
  let context ← getClientContext client true
  modify fun director => director.addObjects context.characterUid (horseUids.map .horse)

/-- `AcCmdRCMobDead`, with the clients that get it. -/
structure MobDead where
  mobOid : Oid
  notified : List ClientId
  deriving DecidableEq

/-- Stop tracking a horse on a ranch. -/
def Director.removeHorse (director : Director) (rancherUid horseUid : Uid) : Director :=
  director.setRanch rancherUid { director.ranch rancherUid with
    tracker := (director.ranch rancherUid).tracker.removeHorse horseUid }

/-- `ReturnHorseToNature`.  There is no notify for a horse that was not tracked. -/
def returnHorseToNature (available : Bool) (characterUid horseUid : Uid) :
    Effect Director Failure (Option MobDead) := do
  match characterStorage.find available characterUid (← get).data with
  | none => throw (.thrown "Value of the record is unavailable")
  | some character =>
    modify fun director => { director with
      data := characterStorage.write characterUid (Breeding.releaseHorse horseUid character)
        director.data }
    if horseUid ∈ character.horses then
      let ranchInstance := (← get).ranch characterUid
      modify fun director => director.removeHorse characterUid horseUid
      let horseOid := ranchInstance.tracker.getHorseOid horseUid
      return if horseOid ≠ invalidEntityOid then some ⟨horseOid, ranchInstance.clients.toList⟩
        else none
    else return none

theorem final_registerPurchasedHorses {client : ClientId} {horseUids : List Uid} {director : Director} :
    (registerPurchasedHorses client horseUids).final director =
      match ownContext client director with
      | some context => director.addObjects context.characterUid (horseUids.map .horse)
      | none => director := final_own_bind _

theorem final_returnHorseToNature {available : Bool} {characterUid horseUid : Uid}
    {director : Director} : (returnHorseToNature available characterUid horseUid).final director =
      match characterStorage.find available characterUid director.data with
      | none => director
      | some character =>
        let released : Director := { director with
          data := characterStorage.write characterUid (Breeding.releaseHorse horseUid character)
            director.data }
        if horseUid ∈ character.horses then released.removeHorse characterUid horseUid
        else released := by
  rw [returnHorseToNature, final_bind_ok (get_apply director)]
  cases characterStorage.find available characterUid director.data with
  | none => rfl
  | some character =>
    dsimp only
    rw [final_bind_ok (modify_apply _ director)]
    split
    · rfl
    · rfl

/-! ## RanchSnapshot -/

/-- The clients of a ranch other than the sender. -/
def RanchInstance.others (ranchInstance : RanchInstance) (client : ClientId) : List ClientId :=
  ranchInstance.clients.toList.filter fun other => other ≠ client

/-- `HandleSnapshot`, for the notify and the clients that it is relayed to.  Both branches look at the
index of the full update. -/
def handleSnapshot (client : ClientId) (command : AcCmdCRRanchSnapshot) :
    Effect Director Failure (RanchCommandRanchSnapshotNotify × List ClientId) := do
  let context ← getClientContext client true
  let ranchInstance := (← get).ranch context.visitingRancherUid
  let ranchIndex := ranchInstance.tracker.getCharacterOid context.characterUid
  match command.type with
  | .full =>
    if command.full.ranchIndex ≠ ranchIndex then
      throw (.thrown "Client sent a snapshot for an entity it's not controlling")
    else
      return (⟨ranchIndex, .full, command.full, {}⟩, ranchInstance.others client)
  | .part =>
    if command.full.ranchIndex ≠ ranchIndex then
      throw (.thrown "Client sent a snapshot for an entity it's not controlling")
    else
      return (⟨ranchIndex, .part, {}, command.part⟩, ranchInstance.others client)

section Snapshot

variable {client : ClientId} {command : AcCmdCRRanchSnapshot} {director : Director}

/-- A snapshot that was read is relayed as it is, or the handler throws. -/
theorem handleSnapshot_own {context : ClientContext} (h : ownContext client director = some context)
    (hread : command.IsRead) :
    handleSnapshot client command director =
      if command.full.ranchIndex ≠
          (director.ranch context.visitingRancherUid).tracker.getCharacterOid context.characterUid then
        .error (.thrown "Client sent a snapshot for an entity it's not controlling") director
      else
        .ok (⟨(director.ranch context.visitingRancherUid).tracker.getCharacterOid context.characterUid,
          command.type, command.full, command.part⟩,
          (director.ranch context.visitingRancherUid).others client) director := by
  rw [handleSnapshot, bind_ok (getClientContext_own h), bind_apply, get_apply]
  obtain ⟨type, full, part⟩ := command
  cases type with
  | full =>
    cases show part = {} from hread
    dsimp only
    split
    · rfl
    · rfl
  | part =>
    cases show full = {} from hread
    dsimp only
    split
    · rfl
    · rfl

theorem handleSnapshot_other (h : ownContext client director = none) :
    ∃ failure, handleSnapshot client command director = .error failure director := by
  obtain ⟨failure, hfailure⟩ := getClientContext_other h
  refine ⟨failure, ?_⟩
  rw [handleSnapshot, bind_apply, hfailure]

/-- A snapshot changes nothing. -/
theorem final_handleSnapshot (hread : command.IsRead) :
    (handleSnapshot client command).final director = director := by
  cases h : ownContext client director with
  | none =>
    obtain ⟨failure, hfailure⟩ := @handleSnapshot_other client command director h
    exact final_error hfailure
  | some context =>
    have happly := handleSnapshot_own h hread
    by_cases hindex : command.full.ranchIndex ≠
        (director.ranch context.visitingRancherUid).tracker.getCharacterOid context.characterUid
    · rw [if_pos hindex] at happly
      exact final_error happly
    · rw [if_neg hindex] at happly
      exact final_ok happly

end Snapshot

/-! ## The system -/

inductive Input where
  | connect (client : ClientId)
  | disconnect (client : ClientId)
  | grantCode (key : UInt64) (now : Nat) (code : UInt32)
  | enterRanch (client : ClientId) (command : EnterRanch) (lookups : EnterLookups)
  | leaveRanch (client : ClientId)
  | tryBreeding (client : ClientId) (command : Breeding.TryBreeding)
      (lookups : Breeding.TryBreedingLookups)
  | purchase (client : ClientId) (horseUids : List Uid)
  | returnToNature (characterUid horseUid : Uid) (available : Bool)
  | snapshot (client : ClientId) (command : AcCmdCRRanchSnapshot.Received)
  /-- The records and the registrations change. -/
  | change (market : Breeding.Market)

def step (registry : BreedingRegistry) (director : Director) : Input → Director
  | .connect client => handleClientConnected client director
  | .disconnect client => (handleClientDisconnected client).final director
  | .grantCode key now code =>
    { director with otpSystem := director.otpSystem.grantCode key now code }
  | .enterRanch client command lookups => (handleEnterRanch lookups client command).final director
  | .leaveRanch client => (handleRanchLeave client).final director
  | .tryBreeding client command lookups =>
    (handleTryBreeding registry lookups client command).final director
  | .purchase client horseUids => (registerPurchasedHorses client horseUids).final director
  | .returnToNature characterUid horseUid available =>
    (returnHorseToNature available characterUid horseUid).final director
  | .snapshot client command => (handleSnapshot client command.1).final director
  | .change market => { director with toMarket := market }

end Alicia.Ranch
