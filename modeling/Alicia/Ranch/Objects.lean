import Alicia.Ranch.Commands

/-!
# The objects of a ranch

The objects that a ranch tracks have identifiers of their own, and a snapshot is relayed if it is about the
object of its sender.

The counter of a tracker comes back to identifiers that it has given, and both kinds of snapshots are
checked with the index of the full update.  `Sound` says of each step what this asks for.
-/

namespace Alicia.Ranch

open Transition Data Registry Possession Effect
open DataDirector (characterStorage)
open Protocol (AcCmdCRRanchSnapshot RanchCommandRanchSnapshotNotify)
open RanchTracker (Object)

variable (registry : BreedingRegistry)

/-! ## What a snapshot is for -/

section Snapshots

variable (client : ClientId) (command : AcCmdCRRanchSnapshot) (director : Director)

/-- The snapshot goes to the other clients of the ranch. -/
def Relayed : Prop := ∃ context notify, director.contexts client = some context ∧
  (handleSnapshot client command).returned director =
    some (notify, (director.ranch context.visitingRancherUid).others client)

/-- The identifier that the ranch has for the sender's own character, if it is tracked there. -/
def senderOid (context : ClientContext) : Option Oid :=
  (director.ranch context.visitingRancherUid).tracker.oid? (.character context.characterUid)

/-- The snapshot is about the object of the sender's own character. -/
def Controls : Prop := ∃ context, ownContext client director = some context ∧
  senderOid director context = some command.entityIndex

/-- The condition under which the two agree. -/
def SnapshotSound : Prop := ∀ context, ownContext client director = some context →
  match command.type, senderOid director context with
  | .full, some _ => True
  | .full, none => command.full.ranchIndex ≠ invalidEntityOid
  | .part, some oid => command.part.ranchIndex ≠ oid
  | .part, none => False

variable {client command director}

theorem relayed_iff {context : ClientContext} (h : ownContext client director = some context)
    (hread : command.IsRead) : Relayed client command director ↔
      command.full.ranchIndex = (senderOid director context).getD invalidEntityOid := by
  have hcontext := (ownContext_eq_some.1 h).1
  have happly := handleSnapshot_own h hread
  constructor
  · intro hrelayed
    obtain ⟨other, notify, hother, hreturned⟩ := hrelayed
    by_contra hindex
    have hthrow := happly.trans (if_pos hindex)
    cases (returned_error hthrow).symm.trans hreturned
  · intro hindex
    have hrelay := happly.trans (if_neg (not_not_intro hindex))
    exact ⟨context, _, hcontext, returned_ok hrelay⟩

theorem not_relayed (h : ownContext client director = none) : ¬Relayed client command director := by
  rintro ⟨context, notify, -, hreturned⟩
  obtain ⟨failure, hfailure⟩ := @handleSnapshot_other client command director h
  cases (returned_error hfailure).symm.trans hreturned

theorem controls_iff {context : ClientContext} (h : ownContext client director = some context) :
    Controls client command director ↔ senderOid director context = some command.entityIndex := by
  constructor
  · rintro ⟨other, hother, hoid⟩
    cases h.symm.trans hother
    exact hoid
  · intro hoid
    exact ⟨context, h, hoid⟩

/-- No object has the invalid identifier, so the condition is exact. -/
theorem snapshotSound_iff (hread : command.IsRead)
    (hvalid : ∀ context oid, senderOid director context = some oid → oid ≠ invalidEntityOid) :
    SnapshotSound client command director ↔
      (Relayed client command director ↔ Controls client command director) := by
  cases hown : ownContext client director with
  | none =>
    constructor
    · intro _
      refine iff_of_false (not_relayed hown) ?_
      rintro ⟨context, hcontext, -⟩
      cases hown.symm.trans hcontext
    · intro _ context hcontext
      cases hown.symm.trans hcontext
  | some context =>
    have hsound : SnapshotSound client command director ↔ _ :=
      ⟨fun h => h context hown, fun h other hother => by
        cases hown.symm.trans hother
        exact h⟩
    rw [hsound, relayed_iff hown hread, controls_iff hown]
    obtain ⟨type, full, part⟩ := command
    cases type with
    | full =>
      cases hoid : senderOid director context with
      | none => simp
      | some oid => simp [AcCmdCRRanchSnapshot.entityIndex, eq_comm]
    | part =>
      cases show full = {} from hread
      cases hoid : senderOid director context with
      | none => simp [invalidEntityOid]
      | some oid =>
        have hne : oid ≠ 0 := hvalid context oid hoid
        simp [AcCmdCRRanchSnapshot.entityIndex, eq_comm, hne]

end Snapshots

/-! ## What a step tracks -/

/-- The objects that an entry tracks. -/
def entryObjects (lookups : EnterLookups) (client : ClientId) (command : EnterRanch)
    (director : Director) : List Object :=
  match director.contexts client,
    characterStorage.cached lookups.rancher command.rancherUid director.data with
  | some context, some rancher =>
    if isRefused lookups context command director rancher || lookups.userName.isNone then []
    else if eggsKnown lookups rancher director.data then
      rancher.horses.map .horse ++ [.character command.characterUid]
    else rancher.horses.map .horse
  | _, _ => []

/-- The foal that an attempt brings. -/
def bornFoal (lookups : Breeding.TryBreedingLookups) (client : ClientId)
    (command : Breeding.TryBreeding) (director : Director) : List Object :=
  match (Breeding.handleTryBreeding registry lookups client command).returned director.breeding with
  | some (.ok foalUid) => [.horse foalUid]
  | _ => []

/-- The character of an authenticated client. -/
def ownCharacter (client : ClientId) (director : Director) : Option Uid :=
  (ownContext client director).map fun context => context.characterUid

/-- The ranch and the objects which a step tracks on it. -/
def tracks (director : Director) : Input → Option (Uid × List Object)
  | .enterRanch client command lookups =>
    some (command.rancherUid, entryObjects lookups client command director)
  | .tryBreeding client command lookups => (ownCharacter client director).map fun characterUid =>
    (characterUid, bornFoal registry lookups client command director)
  | .purchase client horseUids => (ownCharacter client director).map fun characterUid =>
    (characterUid, horseUids.map .horse)
  | _ => none

/-- The objects of every ranch have distinct identifiers. -/
def Director.OidsDistinct (director : Director) : Prop :=
  ∀ rancherUid, (director.ranch rancherUid).tracker.Distinct

/-- The counter of the ranch is fresh for each object that the step newly tracks. -/
def Admitted (director : Director) (input : Input) : Prop :=
  ∀ rancherUid objects, tracks registry director input = some (rancherUid, objects) →
    (director.ranch rancherUid).tracker.AdmitsAll objects

section Steps

variable {registry} {director : Director}

/-- Joining a ranch changes its clients only. -/
theorem tracker_joined (client : ClientId) (rancherUid other : Uid) :
    ((joined director client rancherUid).ranch other).tracker = (director.ranch other).tracker := by
  rw [joined, Director.ranch_setRanch]
  split
  · next hsame => rw [hsame]
  · rfl

theorem tracker_enterRanch (lookups : EnterLookups) (client : ClientId) (command : EnterRanch)
    (other : Uid) :
    (((handleEnterRanch lookups client command).final director).ranch other).tracker =
      if other = command.rancherUid then (director.ranch command.rancherUid).tracker.addAll
        (entryObjects lookups client command director)
      else (director.ranch other).tracker := by
  have hnone : (director.ranch other).tracker =
      if other = command.rancherUid then (director.ranch command.rancherUid).tracker.addAll []
      else (director.ranch other).tracker := by
    split
    · next h => exact congrArg (fun uid => (director.ranch uid).tracker) h
    · rfl
  have houtcome := handleEnterRanch_outcome lookups client command director
  unfold final entryObjects
  generalize handleEnterRanch lookups client command director = result at houtcome
  cases houtcome with
  | absent hcontext =>
    rw [hcontext]
    exact hnone
  | unavailable hcontext hrancher =>
    rw [hcontext, hrancher]
    exact hnone
  | refused hcontext hrancher hrefused =>
    simp only [hcontext, hrancher, hrefused, Bool.true_or, if_true, ranch_opened]
    exact hnone
  | offline hcontext hrancher hrefused huser =>
    simp only [hcontext, hrancher, hrefused, huser, Option.isNone_none, Bool.or_true, if_true,
      ranch_entered]
    exact hnone
  | unknownEgg hcontext hrancher hrefused huser heggs =>
    simp [hcontext, hrancher, hrefused, huser, heggs, housed, tracker_addObjects, ranch_entered]
  | unpresentable hcontext hrancher hrefused huser heggs =>
    simp [hcontext, hrancher, hrefused, huser, heggs, tracker_tracked, ranch_entered]
  | deferred hcontext hrancher hrefused huser heggs =>
    simp [hcontext, hrancher, hrefused, huser, heggs, tracker_tracked, ranch_entered]
  | joined hcontext hrancher hrefused huser heggs =>
    simp [hcontext, hrancher, hrefused, huser, heggs, tracker_joined, tracker_tracked, ranch_entered]

theorem tracker_addRanchHorse (rancherUid horseUid other : Uid) :
    ((director.addRanchHorse rancherUid horseUid).ranch other).tracker =
      if other = rancherUid then (director.ranch rancherUid).tracker.addAll [.horse horseUid]
      else (director.ranch other).tracker := tracker_addObjects _ _ _

theorem tracker_tryBreeding (lookups : Breeding.TryBreedingLookups) (client : ClientId)
    (command : Breeding.TryBreeding) {characterUid : Uid}
    (hown : ownCharacter client director = some characterUid) (other : Uid) :
    (((handleTryBreeding registry lookups client command).final director).ranch other).tracker =
      if other = characterUid then (director.ranch characterUid).tracker.addAll
        (bornFoal registry lookups client command director)
      else (director.ranch other).tracker := by
  obtain ⟨context, hcontext, rfl⟩ := Option.map_eq_some_iff.1 hown
  have hnone : (director.ranch other).tracker =
      if other = context.characterUid then (director.ranch context.characterUid).tracker.addAll []
      else (director.ranch other).tracker := by
    split
    · next h => exact congrArg (fun uid => (director.ranch uid).tracker) h
    · rfl
  rw [handleTryBreeding, final_own_bind, hcontext]
  dsimp only
  rw [final_zoom_bind, bornFoal, returned]
  cases Breeding.handleTryBreeding registry lookups client command director.breeding with
  | error failure ranch => exact hnone
  | ok reply ranch =>
    cases reply with
    | ok foalUid => exact tracker_addRanchHorse context.characterUid foalUid other
    | cancel reason => exact hnone
    | deferred => exact hnone

/-- A ranch tracks what it did, but for one object at most. -/
def Forgets (director after : Director) : Prop :=
  ∀ rancherUid, (after.ranch rancherUid).tracker = (director.ranch rancherUid).tracker ∨
    ∃ object, (after.ranch rancherUid).tracker = (director.ranch rancherUid).tracker.remove object

theorem Forgets.of_eq {after : Director} (h : ∀ rancherUid, after.ranch rancherUid =
    director.ranch rancherUid) : Forgets director after :=
  fun rancherUid => .inl (congrArg RanchInstance.tracker (h rancherUid))

theorem Forgets.distinct {after : Director} (h : Forgets director after)
    (hdistinct : director.OidsDistinct) : after.OidsDistinct := by
  intro rancherUid
  obtain hsame | ⟨object, hremoved⟩ := h rancherUid
  · rw [hsame]
    exact hdistinct rancherUid
  · rw [hremoved]
    exact (hdistinct rancherUid).remove object

theorem forgets_departed (client : ClientId) (context : ClientContext) :
    Forgets director (departed client context director) := by
  intro rancherUid
  rw [ranch_departed]
  split
  · exact .inr ⟨.character context.characterUid, rfl⟩
  · exact .inl rfl

theorem forgets_leave (client : ClientId) :
    Forgets director ((handleRanchLeave client).final director) := by
  rw [final_leave]
  cases ownContext client director with
  | none => exact Forgets.of_eq fun _ => rfl
  | some context => exact forgets_departed client context

theorem forgets_disconnect (client : ClientId) :
    Forgets director ((handleClientDisconnected client).final director) := by
  rw [final_disconnected]
  cases director.contexts client with
  | none => exact Forgets.of_eq fun _ => rfl
  | some context =>
    dsimp only
    split
    · exact forgets_departed client context
    · exact Forgets.of_eq fun _ => rfl

theorem forgets_returnToNature (available : Bool) (characterUid horseUid : Uid) :
    Forgets director ((returnHorseToNature available characterUid horseUid).final director) := by
  rw [final_returnHorseToNature]
  cases characterStorage.find available characterUid director.data with
  | none => exact Forgets.of_eq fun _ => rfl
  | some character =>
    dsimp only
    split
    · intro rancherUid
      rw [Director.removeHorse, Director.ranch_setRanch]
      split
      · next h =>
        rw [h]
        exact .inr ⟨.horse horseUid, rfl⟩
      · exact .inl rfl
    · exact Forgets.of_eq fun _ => rfl

/-! ## The condition -/

/-- A step that tracks objects keeps identifiers distinct exactly if the counter admits them. -/
theorem distinct_of_tracks (h : director.OidsDistinct) {after : Director} {rancherUid : Uid}
    {objects : List Object} (hafter : ∀ other, (after.ranch other).tracker =
      if other = rancherUid then (director.ranch rancherUid).tracker.addAll objects
      else (director.ranch other).tracker) :
    after.OidsDistinct ↔ (director.ranch rancherUid).tracker.AdmitsAll objects := by
  rw [← RanchTracker.distinct_addAll_iff (h rancherUid)]
  constructor
  · intro hdistinct
    have hranch := hdistinct rancherUid
    rwa [hafter, if_pos rfl] at hranch
  · intro hdistinct other
    rw [hafter]
    split
    · exact hdistinct
    · exact h other

theorem admitted_iff {input : Input} {rancherUid : Uid} {objects : List Object}
    (h : tracks registry director input = some (rancherUid, objects)) :
    Admitted registry director input ↔ (director.ranch rancherUid).tracker.AdmitsAll objects := by
  constructor
  · intro hadmitted
    exact hadmitted rancherUid objects h
  · rintro hadmits other others hother
    cases h.symm.trans hother
    exact hadmits

theorem admitted_of_none {input : Input} (h : tracks registry director input = none) :
    Admitted registry director input := by
  intro rancherUid objects hsome
  cases h.symm.trans hsome

theorem step_distinct (h : director.OidsDistinct) (input : Input) :
    (step registry director input).OidsDistinct ↔ Admitted registry director input := by
  cases input with
  | connect client =>
    refine iff_of_true ?_ (admitted_of_none rfl)
    show (handleClientConnected client director).OidsDistinct
    unfold handleClientConnected
    split
    · exact h
    · exact h
  | disconnect client =>
    exact iff_of_true ((forgets_disconnect client).distinct h) (admitted_of_none rfl)
  | grantCode key now code => exact iff_of_true h (admitted_of_none rfl)
  | enterRanch client command lookups =>
    exact (distinct_of_tracks h (tracker_enterRanch lookups client command)).trans
      (admitted_iff rfl).symm
  | leaveRanch client => exact iff_of_true ((forgets_leave client).distinct h) (admitted_of_none rfl)
  | tryBreeding client command lookups =>
    cases hown : ownCharacter client director with
    | none =>
      refine iff_of_true ?_ (admitted_of_none (by rw [tracks, hown]; rfl))
      show ((handleTryBreeding registry lookups client command).final director).OidsDistinct
      rw [handleTryBreeding, final_own_bind, Option.map_eq_none_iff.1 hown]
      exact h
    | some characterUid =>
      refine (distinct_of_tracks h (tracker_tryBreeding lookups client command hown)).trans
        (admitted_iff ?_).symm
      rw [tracks, hown]
      rfl
  | purchase client horseUids =>
    have hfinal : step registry director (.purchase client horseUids) = _ :=
      final_registerPurchasedHorses
    rw [hfinal]
    cases hown : ownContext client director with
    | none =>
      refine iff_of_true h (admitted_of_none ?_)
      rw [tracks, ownCharacter, hown]
      rfl
    | some context =>
      refine (distinct_of_tracks h fun other => tracker_addObjects _ other _).trans
        (admitted_iff ?_).symm
      rw [tracks, ownCharacter, hown]
      rfl
  | returnToNature characterUid horseUid available =>
    exact iff_of_true ((forgets_returnToNature available characterUid horseUid).distinct h)
      (admitted_of_none rfl)
  | snapshot client command =>
    refine iff_of_true ?_ (admitted_of_none rfl)
    show ((handleSnapshot client command.1).final director).OidsDistinct
    rw [final_handleSnapshot command.2]
    exact h
  | change market => exact iff_of_true h (admitted_of_none rfl)

end Steps

/-- Identifiers are distinct after the step, and a snapshot is relayed exactly if it is about the object of
its sender. -/
structure WellTracked (director : Director) (input : Input) : Prop where
  distinct : (step registry director input).OidsDistinct
  relayed : ∀ client command, input = .snapshot client command →
    (Relayed client command.1 director ↔ Controls client command.1 director)

/-- The condition under which they are. -/
structure Sound (director : Director) (input : Input) : Prop where
  admitted : Admitted registry director input
  snapshot : ∀ client command, input = .snapshot client command →
    SnapshotSound client command.1 director

variable {registry}

theorem sound_iff {director : Director} (h : director.OidsDistinct) (input : Input) :
    Sound registry director input ↔ WellTracked registry director input := by
  have hvalid : ∀ context oid, senderOid director context = some oid → oid ≠ invalidEntityOid :=
    fun context oid hoid => (h context.visitingRancherUid).valid _ oid hoid
  constructor
  · rintro ⟨hadmitted, hsnapshot⟩
    refine ⟨(step_distinct h input).2 hadmitted, fun client command hinput => ?_⟩
    exact (snapshotSound_iff command.2 hvalid).1 (hsnapshot client command hinput)
  · rintro ⟨hdistinct, hrelayed⟩
    refine ⟨(step_distinct h input).1 hdistinct, fun client command hinput => ?_⟩
    exact (snapshotSound_iff command.2 hvalid).2 (hrelayed client command hinput)

theorem oidsDistinct_empty : ({} : Director).OidsDistinct := by
  intro rancherUid
  have hempty : ({} : Director).ranch rancherUid = ({} : RanchInstance) :=
    congrArg (fun found : Option RanchInstance => found.getD {}) Std.ExtTreeMap.getElem?_empty
  rw [hempty]
  exact RanchTracker.distinct_empty

variable (registry) in
/-- The runs along which objects have distinct identifiers, and snapshots are relayed if they are about the
objects of their senders, are those whose steps are sound. -/
theorem objects_tracked (inputs : List Input) :
    Guarded (step registry) (Sound registry) {} inputs ↔
      Guarded (step registry) (WellTracked registry) {} inputs :=
  guarded_congr (fun _ input h hsound => (step_distinct h input).2 hsound.admitted)
    (fun _ input h => sound_iff h input) oidsDistinct_empty

/-- The client 1 plays the character 7 on its own ranch, which has a horse.  Its partial snapshot, with the
identifier that the ranch has for it, is not relayed. -/
theorem snapshot_not_relayed :
    let rancher : Character := { uid := 7, horses := [5], mountUid := 5 }
    let data : DataDirector := {
      characters := fun uid => if uid = 7 then some rancher else none
      horses := fun uid => if uid = 5 then some { uid := 5 } else none }
    let director := run (step {}) {} [.change { data := data }, .grantCode 7 0 9, .connect 1,
      .enterRanch 1 { rancherUid := 7, characterUid := 7, otp := 9 } {}]
    let command : AcCmdCRRanchSnapshot.Received :=
      ⟨{ type := .part, part := { ranchIndex := 2 } }, rfl⟩
    ownContext 1 director = some {
        characterUid := 7, isAuthenticated := true, visitingRancherUid := 7 } ∧
      Controls 1 command.1 director ∧ ¬Relayed 1 command.1 director ∧
      ¬WellTracked {} director (.snapshot 1 command) := by
  intro rancher data director command
  have hown : ownContext 1 director = some {
      characterUid := 7, isAuthenticated := true, visitingRancherUid := 7 } := by decide +kernel
  have hoid : senderOid director {
      characterUid := 7, isAuthenticated := true, visitingRancherUid := 7 } = some 2 := by
    decide +kernel
  have hcontrols : Controls 1 command.1 director := (controls_iff hown).2 hoid
  have hrelayed : ¬Relayed 1 command.1 director := by
    rw [relayed_iff hown command.2, hoid]
    decide
  refine ⟨hown, hcontrols, hrelayed, fun hwell => ?_⟩
  exact hrelayed ((hwell.relayed 1 command rfl).2 hcontrols)

end Alicia.Ranch
