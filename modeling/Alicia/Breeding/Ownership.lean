import Alicia.Breeding.Paddock
import Alicia.Possession.Conservation

/-!
# Registered stallions stay with their owners

A breeding, a change of the mount and an abandonment leave the grown horses where they are, and
registrations keep to what they rely on.  So the runs of settled steps are those along which `Owned`
holds.
-/

namespace Alicia.Breeding

open Transition Effect Data Registry Possession Function Storage List
open DataDirector (characterStorage horseStorage stallionStorage)

variable {registry : BreedingRegistry} {items : ItemRegistry}

section Steps

variable {paddock : Paddock}

/-! ## Breeding -/

/-- Grown horses stay where they are, and registrations with their parties. -/
structure Calm (before after : DataDirector) : Prop where
  parties : SameParties before after
  grown : ∀ horseUid, isGrown before horseUid = true → isGrown after horseUid = true
  horses : ∀ characterUid horseUid, isGrown before horseUid = true →
    hasHorse after characterUid horseUid = hasHorse before characterUid horseUid

theorem Calm.refl (data : DataDirector) : Calm data data := ⟨fun _ => rfl, fun _ => id, fun _ _ _ => rfl⟩

theorem Calm.trans {first second third : DataDirector} (h : Calm first second) (h' : Calm second third) :
    Calm first third where
  parties uid := (h'.parties uid).trans (h.parties uid)
  grown horseUid hgrown := h'.grown horseUid (h.grown horseUid hgrown)
  horses characterUid horseUid hgrown :=
    (h'.horses characterUid horseUid (h.grown horseUid hgrown)).trans
      (h.horses characterUid horseUid hgrown)

theorem Tended.of_calm (h : Tended paddock) {ranch : Ranch}
    (hregistrations : ranch.registrations = paddock.ranch.registrations)
    (hcalm : Calm paddock.data ranch.data) : Tended { paddock with ranch := ranch } :=
  h.of_data hregistrations rfl rfl rfl hcalm.parties hcalm.grown
    (fun entry hentry stallion _ howner =>
      (hcalm.horses stallion.ownerUid entry.1 (h.grown entry hentry)).trans howner)
    (fun characterUid horseUid hgrown hafter =>
      (hcalm.horses characterUid horseUid hgrown).symm.trans hafter)

variable {data : DataDirector} {horseUid : Uid}

theorem ne_of_isGrown {uid : Uid} (hnew : data.horses uid = none)
    (hgrown : isGrown data horseUid = true) : horseUid ≠ uid := by
  rintro rfl
  rw [isGrown, hnew] at hgrown
  cases hgrown

/-- A new horse. -/
theorem calm_create {uid : Uid} (hnew : data.horses uid = none) (horse : Horse) :
    Calm data (horseStorage.write uid horse data) where
  parties _ := rfl
  grown horseUid hgrown := by
    have hother := ne_of_isGrown hnew hgrown
    rw [isGrown]
    show (update data.horses uid (some horse) horseUid).any _ = true
    rw [update_of_ne hother]
    exact hgrown
  horses _ _ _ := rfl

variable {characterUid : Uid}

/-- A change of a character, which may get horses that are not grown. -/
theorem calm_character {before character : Character}
    (hbefore : data.characters characterUid = some before)
    (h : ∀ horseUid, isGrown data horseUid = true →
      (horseUid ∈ character.horses ∨ horseUid = character.mountUid ↔
        horseUid ∈ before.horses ∨ horseUid = before.mountUid)) :
    Calm data (characterStorage.write characterUid character data) where
  parties _ := rfl
  grown _ := id
  horses uid horseUid hgrown := hasHorse_write hbefore (h horseUid hgrown) uid

/-- A new horse goes to a character. -/
theorem calm_birth {uid : Uid} (hnew : data.horses uid = none) (foal : Horse) (characterUid : Uid) :
    Calm data (change characterStorage characterUid
      (fun character => { character with horses := character.horses ++ [uid] })
        (horseStorage.write uid foal data)) := by
  have hcreated := calm_create hnew foal
  rw [change]
  split
  · exact hcreated
  · next character hcharacter =>
    refine ⟨fun _ => rfl, hcreated.grown, fun other horseUid hgrown => ?_⟩
    have hne := ne_of_isGrown hnew hgrown
    have hrecord : data.characters characterUid = some character := hcharacter
    show hasHorse (characterStorage.write characterUid
      { character with horses := character.horses ++ [uid] } data) other horseUid = _
    refine hasHorse_write hrecord ?_ other
    rw [mem_append, mem_singleton]
    simp [hne]

/-- A horse keeps its type. -/
theorem calm_horse (uid : Uid) (consumer : Horse → Horse) (data : DataDirector)
    (h : ∀ horse, (consumer horse).type = horse.type) : Calm data (change horseStorage uid consumer data) := by
  rw [change]
  split
  · exact .refl data
  · next horse hhorse =>
    refine ⟨fun _ => rfl, fun horseUid hgrown => ?_, fun _ _ _ => rfl⟩
    rw [isGrown] at hgrown ⊢
    show (update data.horses uid (some (consumer horse)) horseUid).any _ = true
    rcases eq_or_ne horseUid uid with rfl | hother
    · have hrecord : data.horses horseUid = some horse := hhorse
      rw [hrecord, Option.any_some] at hgrown
      rw [update_self, Option.any_some, h horse]
      exact hgrown
    · rw [update_of_ne hother]
      exact hgrown

/-- A stallion keeps its parties. -/
theorem calm_stallion (uid : Uid) (consumer : Stallion → Stallion) (data : DataDirector)
    (h : ∀ stallion, Breeding.parties (consumer stallion) = Breeding.parties stallion) :
    Calm data (change stallionStorage uid consumer data) := by
  rw [change]
  split
  · exact .refl data
  · next stallion hstallion =>
    refine ⟨fun other => ?_, fun _ => id, fun _ _ _ => rfl⟩
    show (update data.stallions uid (some (consumer stallion)) other).map _ = _
    rcases eq_or_ne other uid with rfl | hother
    · have hrecord : data.stallions other = some stallion := hstallion
      rw [update_self, hrecord, Option.map_some, Option.map_some, h]
    · rw [update_of_ne hother]

theorem calm_updates (lookups : TryBreedingLookups) (command : TryBreeding) (stallionUid : Uid)
    (success : Bool) (data : DataDirector) :
    Calm data (applyBreedingAttemptUpdates lookups command stallionUid success data) := by
  have hmare : Calm data (change horseStorage command.mareUid (fun mare =>
      { mare with breedingCombo := if success then mare.breedingCombo + 1 else 0 }) data) :=
    calm_horse _ _ _ fun _ => rfl
  have hcounted : Calm data (counted command success data) := hmare.trans (calm_horse _ _ _ fun _ => rfl)
  rw [updates_eq]
  split
  · exact hcounted.trans (calm_stallion _ _ _ fun _ => rfl)
  · exact hcounted

/-- What an attempt that was charged does to the horses, whether it goes on to the end or not. -/
theorem calm_breed {lookups : TryBreedingLookups} {client : ClientId} {context : ClientContext}
    {command : TryBreeding} {stallion : Horse} {registration : StallionData} {ranch : Ranch} :
    ((breed registry lookups client context command stallion registration).final ranch).registrations =
        ranch.registrations ∧
      Calm ranch.data ((breed registry lookups client context command stallion registration).final
        ranch).data := by
  cases hroll : succeeds registry lookups stallion with
  | false =>
    rw [final_ok (breed_fails hroll)]
    exact ⟨rfl, calm_updates lookups command registration.stallionUid false ranch.data⟩
  | true =>
    have hsuccess : lookups.successRoll ≤ calculateBreedingSuccessRate registry stallion.grade
        stallion.breedingCount (bonusOf registry lookups stallion) := of_decide_eq_true hroll
    rw [bonusOf] at hsuccess
    rw [breed, if_pos hsuccess, final_bind]
    rw [createBredFoal, bind_apply, get_apply]
    dsimp only
    cases hfresh : horseStorage.fresh lookups.foal ranch.data with
    | none => exact ⟨rfl, .refl _⟩
    | some uid =>
      have hnew : ranch.data.horses uid = none := (fresh_eq_some.1 hfresh).2.2
      dsimp only
      cases lookups.genetics _ { uid := uid } with
      | error left => exact ⟨rfl, calm_create hnew left⟩
      | ok foal =>
        exact ⟨rfl, (calm_birth hnew foal context.characterUid).trans
          (calm_updates lookups command registration.stallionUid true _)⟩

theorem calm_tryBreeding (lookups : TryBreedingLookups) (client : ClientId) (command : TryBreeding)
    (ranch : Ranch) :
    ((handleTryBreeding registry lookups client command).final ranch).registrations =
        ranch.registrations ∧
      Calm ranch.data ((handleTryBreeding registry lookups client command).final ranch).data := by
  cases hattempt : attemptOf lookups client command ranch with
  | none =>
    obtain ⟨contexts, -, ⟨reply, hhandle, -⟩ | ⟨failure, hhandle⟩⟩ :=
      attempt_refused registry hattempt
    · rw [final_ok hhandle]
      exact ⟨rfl, .refl _⟩
    · rw [final_error hhandle]
      exact ⟨rfl, .refl _⟩
  | some attempt =>
    obtain ⟨-, -, hpayer, -, hhandle⟩ := attempt_found registry hattempt
    have hcharged : Calm ranch.data (charged client attempt ranch).data :=
      calm_character (find_eq_some.1 hpayer).2.2 fun _ _ => Iff.rfl
    rw [final, hhandle]
    exact ⟨calm_breed.1, hcharged.trans calm_breed.2⟩

/-! ## Horses that move -/

theorem calm_mutable {available : Bool} {uid : Uid} {consumer : Character → Character}
    (h : ∀ character, characterStorage.find available uid data = some character →
      ∀ horseUid, isGrown data horseUid = true →
        (horseUid ∈ (consumer character).horses ∨ horseUid = (consumer character).mountUid ↔
          horseUid ∈ character.horses ∨ horseUid = character.mountUid)) :
    Calm data ((characterStorage.mutable available uid consumer).final data) := by
  rw [final, mutable_apply]
  cases hfind : characterStorage.find available uid data with
  | none => exact .refl data
  | some character => exact calm_character (find_eq_some.1 hfind).2.2 (h character hfind)

/-- The notify after a change changes nothing. -/
theorem broadcast_final (lookups : EquipmentLookups) (caller : Uid) (data : DataDirector) :
    (broadcastEquipmentUpdate lookups caller).final data = data := by
  rw [broadcastEquipmentUpdate, final_bind, immutable_apply]
  cases characterStorage.find lookups.characterAgain caller data with
  | none => rfl
  | some character =>
    dsimp only
    rw [final_bind, get_apply]
    dsimp only
    split
    · rfl
    · split
      · rfl
      · rfl

theorem change_final (lookups : EquipmentLookups) (caller : Uid) (available : Bool)
    (change : Character → Character) (data : DataDirector) :
    (do characterStorage.mutable available caller change; broadcastEquipmentUpdate lookups caller :
      Effect DataDirector String Reply).final data =
        (characterStorage.mutable available caller change).final data := by
  rw [final_bind]
  cases hchange : characterStorage.mutable available caller change data with
  | ok value after =>
    rw [final_ok hchange]
    exact broadcast_final lookups caller after
  | error failure after => rw [final_error hchange]

theorem calm_wearItem (lookups : EquipmentLookups) (caller uid : Uid) (character : Character)
    (data : DataDirector) : Calm data ((wearItem items lookups caller uid character).final data) := by
  obtain ⟨failure, herror⟩ | ⟨item, template, -, -, -, hpart⟩ :=
    wearItem_cases items lookups caller uid character data
  · rw [final_error herror]
    exact .refl data
  · rw [final, hpart, ← final, wearPart, final_bind, get_apply]
    dsimp only
    split
    · exact .refl data
    · rw [change_final]
      exact calm_mutable fun _ _ _ _ => Iff.rfl

theorem calm_equipment (input : EquipmentInput) (data : DataDirector) :
    Calm data (equipmentStep items data input) := by
  rw [equipmentStep, handleEquipment]
  split
  · next uid _ =>
    rw [handleWearEquipment, final_bind, immutable_apply]
    cases hfind : characterStorage.find input.lookups.character input.caller data with
    | none => exact .refl data
    | some character =>
      dsimp only
      split
      · next hhorse =>
        rw [change_final]
        refine calm_mutable fun other hother horseUid _ => ?_
        have hrecord := (find_eq_some.1 hfind).2.2
        cases hrecord.symm.trans (find_eq_some.1 hother).2.2
        -- The horses change places, and none of them is lost.
        have hperm : horseUid ∈ _ ↔ horseUid ∈ _ := List.Perm.mem_iff (mountHorse_same hhorse).horses
        rw [mem_cons, mem_cons] at hperm
        rw [or_comm, hperm, or_comm]
      · split
        · exact calm_wearItem input.lookups input.caller uid character data
        · exact .refl data
  · rw [handleRemoveEquipment, change_final]
    exact calm_mutable fun _ _ _ _ => Iff.rfl

theorem mem_erase_of_isGrown {foalUid : Uid} {foal : Horse}
    (hfoal : data.horses foalUid = some foal) (htype : foal.type = .foal)
    (hgrown : isGrown data horseUid = true) : horseUid ≠ foalUid := by
  rintro rfl
  rw [isGrown, hfoal, Option.any_some] at hgrown
  exact of_decide_eq_true hgrown htype

theorem calm_abandon (lookups : AbandonLookups) (characterUid foalUid : Uid) (data : DataDirector) :
    Calm data ((handleBreedingAbandon lookups characterUid foalUid).final data) := by
  rw [handleBreedingAbandon, final_bind, immutable_apply]
  cases characterStorage.find lookups.character characterUid data with
  | none => exact .refl data
  | some character =>
    dsimp only
    split
    · exact .refl data
    rw [final_bind, immutable_apply]
    cases hfoal : horseStorage.find lookups.foal foalUid data with
    | none => exact .refl data
    | some foal =>
      dsimp only
      split
      · exact .refl data
      · next htype =>
        have hrecord := (find_eq_some.1 hfoal).2.2
        rw [returnHorseToNature, final_bind_pure]
        refine calm_mutable fun other _ horseUid hgrown => ?_
        have hne := mem_erase_of_isGrown hrecord (not_not.1 htype) hgrown
        rw [releaseHorse, mem_erase_of_ne hne]

theorem release_stallions (available : Bool) (characterUid horseUid : Uid) (data : DataDirector) :
    ((returnHorseToNature available characterUid horseUid).final data).stallions = data.stallions := by
  rw [returnHorseToNature, final, mutable_apply]
  cases characterStorage.find available characterUid data with
  | none => rfl
  | some character => rfl

/-- Whether the character still has the horses after it let one go. -/
theorem hasHorse_release {available : Bool} {character : Character}
    (hfind : characterStorage.find available characterUid data = some character) (uid other : Uid) :
    hasHorse ((returnHorseToNature available characterUid horseUid).final data) uid other =
      if uid = characterUid then other ∈ character.horses.erase horseUid || other = character.mountUid
      else hasHorse data uid other := by
  rw [returnHorseToNature, final, mutable_apply, hfind, hasHorse]
  show (update data.characters characterUid (some (releaseHorse horseUid character)) uid).any _ = _
  rcases eq_or_ne uid characterUid with rfl | hother
  · rw [update_self, if_pos rfl]
    rfl
  · rw [update_of_ne hother, if_neg hother, hasHorse]

theorem tended_returnToNature (h : Tended paddock) {available : Bool}
    (hsettled : Settled paddock (.returnToNature characterUid horseUid available)) :
    Tended (paddock.withData
      ((returnHorseToNature available characterUid horseUid).final paddock.data)) := by
  cases hfind : characterStorage.find available characterUid paddock.data with
  | none =>
    have hsame : (returnHorseToNature available characterUid horseUid).final paddock.data =
        paddock.data := by
      rw [returnHorseToNature, final, mutable_apply, hfind]
    rw [hsame]
    exact h
  | some character =>
    have hrecord : paddock.data.characters characterUid = some character :=
      (find_eq_some.1 hfind).2.2
    have hhas : ∀ uid other, hasHorse ((returnHorseToNature available characterUid
        horseUid).final paddock.data) uid other =
          if uid = characterUid then
            other ∈ character.horses.erase horseUid || other = character.mountUid
          else hasHorse paddock.data uid other := hasHorse_release hfind
    have hdata : (returnHorseToNature available characterUid horseUid).final paddock.data =
        characterStorage.write characterUid (releaseHorse horseUid character) paddock.data := by
      rw [returnHorseToNature, final, mutable_apply, hfind]
    refine h.of_data rfl rfl rfl rfl ?_ ?_ ?_ ?_
    · show SameParties paddock.data ((returnHorseToNature available characterUid horseUid).final _)
      rw [hdata]
      exact fun _ => rfl
    · show ∀ other, isGrown paddock.data other = true →
        isGrown ((returnHorseToNature available characterUid horseUid).final paddock.data) other = true
      rw [hdata]
      exact fun _ => id
    · intro entry hentry stallion hstallion howner
      refine (hhas stallion.ownerUid entry.1).trans ?_
      split
      · next hcaller =>
        rw [hcaller, hasHorse, hrecord, Option.any_some] at howner
        rcases eq_or_ne entry.1 horseUid with hsame | hother
        · have hstays := hsettled entry hentry hsame stallion hstallion hcaller character hfind
          rw [hsame]
          simpa using hstays
        · rw [Bool.or_eq_true, decide_eq_true_eq, decide_eq_true_eq] at howner ⊢
          rw [mem_erase_of_ne hother]
          exact howner
      · exact howner
    · intro uid other _ hafter
      have hafter := (hhas uid other).symm.trans hafter
      split at hafter
      · next hcaller =>
        rw [hcaller, hasHorse, hrecord, Option.any_some]
        rw [Bool.or_eq_true, decide_eq_true_eq, decide_eq_true_eq] at hafter ⊢
        exact hafter.imp_left mem_of_mem_erase
      · exact hafter

theorem tended_register (h : Tended paddock) (characterUid horseUid : Uid) (breedingFee : Int32) :
    Tended { paddock with
      calls := paddock.calls ++ [⟨characterUid, horseUid, breedingFee, .called, []⟩] } := by
  refine ⟨⟨h.owned.record, h.owned.unique, h.owned.limit, ?_⟩, h.nodup, h.grown, ?_, ?_, h.collected,
    h.allocated⟩
  · intro call hcall
    obtain hold | hnew := mem_append.1 hcall
    · exact h.owned.refused call hold
    · cases mem_singleton.1 hnew
      exact fun _ => rfl
  · intro call hcall
    obtain hold | hnew := mem_append.1 hcall
    · exact h.proceeds call hold
    · cases mem_singleton.1 hnew
      exact rfl
  · intro i j first second uid hfirst hsecond hfirstPhase hsecondPhase
    have hold : ∀ (i : Nat) (first : Registration), (paddock.calls ++
        [⟨characterUid, horseUid, breedingFee, .called, []⟩])[i]? = some first →
          first.phase = .created uid → paddock.calls[i]? = some first := by
      intro i first hfirst hfirstPhase
      rw [List.getElem?_append] at hfirst
      split at hfirst
      · exact hfirst
      · cases mem_singleton.1 (mem_of_getElem? hfirst)
        cases hfirstPhase
    exact h.distinct i j first second uid (hold i first hfirst hfirstPhase)
      (hold j second hsecond hsecondPhase) hfirstPhase hsecondPhase

/-! ## Runs -/

theorem tended_step (paddock : Paddock) (input : PaddockInput) (h : Tended paddock)
    (hsettled : Settled paddock input) : Tended (paddockStep registry items paddock input) := by
  cases input with
  | register characterUid horseUid breedingFee => exact tended_register h characterUid horseUid breedingFee
  | advance index lookups => exact tended_advance h index lookups hsettled
  | unregister characterUid horseUid lookups => exact tended_unregister h lookups characterUid horseUid
  | collectExpired available now => exact tended_collectExpired h available now
  | expireCollected lookups => exact tended_expireCollected h lookups
  | tryBreeding client command lookups =>
    obtain ⟨hregistrations, hcalm⟩ := calm_tryBreeding lookups client command paddock.ranch
    exact h.of_calm hregistrations hcalm
  | equipment input => exact h.of_calm rfl (calm_equipment input paddock.data)
  | returnToNature characterUid horseUid available => exact tended_returnToNature h hsettled
  | abandon characterUid foalUid lookups =>
    exact h.of_calm rfl (calm_abandon lookups characterUid foalUid paddock.data)

/-- A step of a registration that keeps to `Owned` is settled. -/
theorem settled_advance (h : Tended paddock) {index : Nat} {lookups : RegisterLookups}
    (howned : Owned (paddock.advance index lookups)) : Settled paddock (.advance index lookups) := by
  rw [Paddock.advance] at howned
  rw [Settled]
  cases hcall : paddock.calls[index]? with
  | none => trivial
  | some call =>
    rw [hcall] at howned
    have hlt : index < paddock.calls.length := (List.getElem?_eq_some_iff.1 hcall).1
    have hproceeds := h.proceeds call (mem_of_getElem? hcall)
    dsimp only at howned ⊢
    rw [Registration.advance] at howned
    rw [Registration.Proceeds] at hproceeds
    cases hphase : call.phase with
    | paid =>
      rw [hphase] at howned hproceeds
      dsimp only at howned ⊢
      cases hhorse : horseStorage.find lookups.horseAgain call.horseUid paddock.data with
      | some horse => rfl
      | none =>
        have hmissing : horseStorage.find (lookups.without paddock.allocated).horseAgain
          call.horseUid paddock.ranch.toMarket.data = none := hhorse
        rw [hmissing] at howned
        -- The fee is gone, and the registration returns false.
        exact absurd (howned.refused (call.move (.returned false))
          (mem_set hlt _) rfl) hproceeds
    | typed =>
      rw [hphase] at howned
      dsimp only at howned ⊢
      intro hfresh entry hentry hhorse
      obtain ⟨uid, hfresh⟩ := Option.isSome_iff_exists.1 hfresh
      have hfound : stallionStorage.fresh (lookups.without paddock.allocated).stallion
        paddock.ranch.toMarket.data = some uid := hfresh
      rw [hfound] at howned
      have hunique : uid = entry.2 := howned.unique entry hentry uid
        (newStallion (lookups.without paddock.allocated).now call.characterUid call.horseUid
          call.breedingFee uid) (update_self _ _ _) hhorse.symm
      obtain ⟨stallion, hstallion, -⟩ := h.owned.record entry hentry
      cases (fresh_eq_some.1 hfresh).2.2.symm.trans (hunique ▸ hstallion)
    | created uid =>
      rw [hphase] at howned hproceeds
      dsimp only at howned ⊢
      rw [emplace_of_free (h.unregistered hcall hphase)] at howned
      obtain ⟨-, hrecord, -⟩ := hproceeds
      have hentry : (call.horseUid, uid) ∈ paddock.registrations ++ [(call.horseUid, uid)] :=
        mem_append_right _ mem_cons_self
      refine ⟨fun other stallion hother hhorse => ?_, ?_, fun characterUid hhas => ?_⟩
      · exact howned.unique (call.horseUid, uid) hentry other stallion hother hhorse
      · obtain ⟨stallion, hstallion, -, howner⟩ := howned.record (call.horseUid, uid) hentry
        obtain ⟨record, hsame, -, hparty⟩ := parties_eq_some hrecord
        cases hsame.symm.trans hstallion
        rw [← hparty]
        exact howner
      · have hlimit : stabled paddock.data (paddock.registrations ++ [(call.horseUid, uid)])
          characterUid ≤ maxStallionsPerCharacter := howned.limit characterUid
        rw [stabled, countP_append, countP_singleton, if_pos hhas] at hlimit
        exact hlimit
    | _ => trivial

theorem settled_of_owned (paddock : Paddock) (input : PaddockInput) (h : Tended paddock)
    (howned : Owned (paddockStep registry items paddock input)) : Settled paddock input := by
  cases input with
  | advance index lookups => exact settled_advance h howned
  | returnToNature characterUid horseUid available =>
    intro entry hentry hsame stallion hstallion howner character hfind
    obtain ⟨record, hrecord, -, hafter⟩ := howned.record entry hentry
    have hsameRecord : paddock.data.stallions entry.2 = some record :=
      (congrFun (release_stallions available characterUid horseUid paddock.data) entry.2).symm.trans
        hrecord
    cases hsameRecord.symm.trans hstallion
    have hstays := (hasHorse_release hfind _ _).symm.trans hafter
    rw [if_pos howner, hsame] at hstays
    simpa using hstays
  | _ => trivial

end Steps

variable (registry items) in
/-- From a consistent ranch, registered stallions stay with their owners in every state of a run exactly
if each of its steps is settled. -/
theorem registered_stallions_owned (ranch : Ranch) (hconsistent : Consistent ranch)
    (inputs : List PaddockInput) :
    Guarded (paddockStep registry items) Settled (Paddock.opened ranch) inputs ↔
      ∀ first second, inputs = first ++ second →
        Owned (run (paddockStep registry items) (Paddock.opened ranch) first) :=
  guarded_iff_prefixes tended_step (fun _ h => h.owned) settled_of_owned (tended_opened hconsistent)

/-- A character with a registered stallion. -/
def breeder : Ranch where
  data := {
    characters := fun uid => if uid = 1 then some { uid := 1, horses := [10], mountUid := 11 } else none
    horses := fun uid => if uid = 10 then some { uid := 10, grade := 4, type := .stallion } else none
    stallions := fun uid =>
      if uid = 100 then some { uid := 100, horseUid := 10, ownerUid := 1, breedingCharge := 4000 } else none }
  registrations := [(10, 100)]

theorem breeder_consistent : Consistent breeder where
  owned := by
    refine ⟨fun entry hentry => ?_, fun entry hentry uid stallion hstallion _ => ?_, fun characterUid => ?_,
      fun _ hcall => nomatch hcall⟩
    · cases mem_singleton.1 hentry
      exact ⟨_, rfl, rfl, by decide⟩
    · cases mem_singleton.1 hentry
      have hrecord : (if uid = 100 then some _ else none) = some stallion := hstallion
      split at hrecord
      · next huid => exact huid
      · cases hrecord
    · exact countP_le_length.trans (by decide)
  nodup := by decide
  grown entry hentry := by
    cases mem_singleton.1 hentry
    decide

/-- The breeder mounts the stallion, and asks for the end of its registration. -/
theorem registered_stallions_owned_breeder :
    Guarded (paddockStep {} fun _ => none) Settled (Paddock.opened breeder)
      [.equipment { caller := 1, command := .wear 10 }, .unregister 1 10 {}] ↔
      ∀ first second, [PaddockInput.equipment { caller := 1, command := .wear 10 }, .unregister 1 10 {}] =
        first ++ second →
          Owned (run (paddockStep {} fun _ => none) (Paddock.opened breeder) first) :=
  registered_stallions_owned {} (fun _ => none) breeder breeder_consistent _

/-- The stallion is let go and stays registered. -/
theorem stallion_let_go : ¬∀ first second,
    [PaddockInput.returnToNature 1 10 true] = first ++ second →
      Owned (run (paddockStep {} fun _ => none) (Paddock.opened breeder) first) := by
  intro h
  have howned := h [.returnToNature 1 10 true] [] rfl
  obtain ⟨stallion, hstallion, -, hhas⟩ := howned.record (10, 100) (by decide)
  have howner : stallion = { uid := 100, horseUid := 10, ownerUid := 1, breedingCharge := 4000 } :=
    (Option.some.inj hstallion).symm
  rw [howner] at hhas
  exact absurd hhas (by decide)

end Alicia.Breeding
