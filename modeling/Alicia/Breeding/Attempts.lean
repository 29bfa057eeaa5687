import Alicia.Breeding.Commands

/-!
# Breeding attempts

`attemptOf` is the attempt that a command is charged for, if it is.  `CarriedOut` says what a charged
attempt is for: the payer loses the fee, the registration counts one more breeding, and a successful
attempt adds one foal.

The fee is taken before the foal is created and before the record of the stallion is looked up again,
and the mare may be anyone's, so an attempt is carried out only if the rest goes well.
-/

namespace Alicia.Breeding

open Transition Effect Data Registry Possession Function DataDirector Storage
open DataDirector (characterStorage horseStorage stallionStorage)

variable (registry : BreedingRegistry)

/-! ## What an attempt is for -/

/-- The attempt of a character is carried out, and brings the foal `born`. -/
structure CarriedOut (characterUid : Uid) (command : TryBreeding) (born : Option Uid)
    (ranch after : Ranch) : Prop where
  paid : ∃ stallionUid stallion before payer,
    ranch.stallionOf command.stallionUid = some stallionUid ∧
      ranch.data.stallions stallionUid = some stallion ∧
      ranch.data.characters characterUid = some before ∧
      after.data.characters characterUid = some payer ∧
      payer.carrots.toInt = before.carrots.toInt - stallion.breedingCharge.toNat ∧
      0 ≤ payer.carrots.toInt ∧
      (command.mareUid ∈ before.horses ∨ command.mareUid = before.mountUid) ∧
      (∀ foalUid ∈ born, before.horses.length + 2 ≤ before.horseSlotCount.toNat ∧
        ranch.data.horses foalUid = none ∧ (after.data.horses foalUid).isSome) ∧
      payer.horses = before.horses ++ born.toList ∧
      after.data.stallions = update ranch.data.stallions stallionUid
        (some { stallion with timesMated := stallion.timesMated + 1 }) ∧
      (stallion.timesMated + 1).toNat = stallion.timesMated.toNat + 1
  others : ∀ uid, uid ≠ characterUid → after.data.characters uid = ranch.data.characters uid

/-! ## When it is that -/

/-- An attempt that is charged. -/
structure Attempt where
  context : ClientContext
  stallion : Horse
  registration : StallionData
  payer : Character

/-- The attempt that a command is charged for. -/
def attemptOf (lookups : TryBreedingLookups) (client : ClientId) (command : TryBreeding)
    (ranch : Ranch) : Option Attempt :=
  (ranch.contexts client).bind fun context =>
    match horseStorage.cached lookups.mare command.mareUid ranch.data,
      horseStorage.cached lookups.stallion command.stallionUid ranch.data with
    | some _, some stallion =>
      if !lookups.resident && context.tryBreedingDeferAttempts + 1 < maxTryBreedingDeferAttempts then
        none
      else
        (getStallionData lookups.stallionRecord command.stallionUid ranch.toMarket).bind
          fun registration =>
            (characterStorage.find lookups.character context.characterUid ranch.data).bind
              fun payer =>
                if (chargeFee registration.breedingCharge payer).1.isNone then
                  some ⟨context, stallion, registration, payer⟩
                else none
    | _, _ => none

/-- The bonus of an attempt. -/
def bonusOf (lookups : TryBreedingLookups) (stallion : Horse) : BreedingBonus :=
  rollBreedingBonus registry lookups.activationRoll lookups.selected stallion.grade

/-- The roll of an attempt. -/
def succeeds (lookups : TryBreedingLookups) (stallion : Horse) : Bool :=
  lookups.successRoll ≤ calculateBreedingSuccessRate registry stallion.grade stallion.breedingCount
    (bonusOf registry lookups stallion)

/-- A foal can be created. -/
def foalCreated (lookups : TryBreedingLookups) (stallion : Horse) (data : DataDirector) : Bool :=
  (horseStorage.fresh lookups.foal data).any fun uid =>
    (lookups.genetics
      (if (bonusOf registry lookups stallion).type = 1 then
        (bonusOf registry lookups stallion).value.toUInt32 else 0) { uid := uid }).isOk

/-- The condition under which a charged attempt is carried out. -/
structure Attempt.Sound (lookups : TryBreedingLookups) (command : TryBreeding) (data : DataDirector)
    (attempt : Attempt) : Prop where
  mare : command.mareUid ∈ attempt.payer.horses ∨ command.mareUid = attempt.payer.mountUid
  fee : attempt.registration.breedingCharge.toNat < 2 ^ 31
  counted : lookups.stallionRecordAgain = true
  room : ∀ stallion, data.stallions attempt.registration.stallionUid = some stallion →
    stallion.timesMated.toNat + 1 < 2 ^ 32
  foal : succeeds registry lookups attempt.stallion = true →
    foalCreated registry lookups attempt.stallion data = true

instance (attempt : Attempt) (lookups : TryBreedingLookups) (command : TryBreeding)
    (data : DataDirector) : Decidable (attempt.Sound registry lookups command data) :=
  @decidable_of_iff _ (attempt.registration.breedingCharge.toNat < 2 ^ 31 ∧
    (∀ stallion ∈ data.stallions attempt.registration.stallionUid,
      stallion.timesMated.toNat + 1 < 2 ^ 32) ∧
    lookups.stallionRecordAgain = true ∧
    (command.mareUid ∈ attempt.payer.horses ∨ command.mareUid = attempt.payer.mountUid) ∧
    (succeeds registry lookups attempt.stallion = true →
      foalCreated registry lookups attempt.stallion data = true))
    ⟨fun ⟨fee, room, counted, mare, foal⟩ => ⟨mare, fee, counted, room, foal⟩,
      fun ⟨mare, fee, counted, room, foal⟩ => ⟨fee, room, counted, mare, foal⟩⟩
    (@instDecidableAnd _ _ _ (@instDecidableAnd _ _ (Option.decidableForallMem _) _))

variable {registry}

/-! ## Charges -/

theorem chargeFee_of_isNone {fee : UInt32} {character : Character}
    (h : (chargeFee fee character).1.isNone = true) :
    character.horses.length + 2 ≤ character.horseSlotCount.toNat ∧
      fee.toInt32 ≤ character.carrots ∧
      chargeFee fee character = (none, { character with carrots := character.carrots - fee.toInt32 }) := by
  rw [chargeFee] at h ⊢
  split at h
  · cases h
  split at h
  · cases h
  · next hslots hcarrots =>
    rw [if_neg hslots, if_neg hcarrots]
    exact ⟨Nat.not_lt.1 hslots, Int32.not_lt.1 hcarrots, rfl⟩

/-- A fee which fits is taken from the carrots without wrapping. -/
theorem carrots_sub_fee {fee : UInt32} {carrots : Int32} (hfee : fee.toNat < 2 ^ 31)
    (hle : fee.toInt32 ≤ carrots) :
    (carrots - fee.toInt32).toInt = carrots.toInt - fee.toNat ∧ 0 ≤ (carrots - fee.toInt32).toInt := by
  have hvalue : fee.toInt32 = Int32.ofInt fee.toNat := by
    rw [Int32.ofInt_eq_ofNat, ← UInt32.toInt32_ofNat', UInt32.ofNat_toNat]
  have hfeeInt : fee.toInt32.toInt = fee.toNat := by
    have hbmod : (fee.toNat : Int).bmod (2 ^ 32) = fee.toNat :=
      Int.bmod_eq_of_le (by omega) (by omega)
    rw [hvalue, Int32.toInt_ofInt]
    exact hbmod
  have hlt := carrots.toInt_lt
  have hle := Int32.le_iff_toInt_le.1 hle
  have hsub : (carrots - fee.toInt32).toInt = (carrots.toInt - fee.toNat).bmod (2 ^ 32) := by
    rw [Int32.toInt_sub, hfeeInt]
  have hexact : (carrots - fee.toInt32).toInt = carrots.toInt - fee.toNat := by
    rw [hsub]
    exact Int.bmod_eq_of_le (by omega) (by omega)
  exact ⟨hexact, by omega⟩

/-! ## Changes of a record -/

section Change

variable {V : Type} {storage : Storage V} {uid : Uid} {consumer : V → V} {data : DataDirector}

theorem change_eq {value : V} (h : storage.records data uid = some value) :
    change storage uid consumer data = storage.write uid (consumer value) data := by
  rw [change, h]

/-- What no write to the storage changes. -/
theorem view_change {γ : Type} (view : DataDirector → γ)
    (h : ∀ value data, view (storage.write uid value data) = view data) :
    view (change storage uid consumer data) = view data := by
  rw [change]
  split
  · rfl
  · exact h _ data

variable (storage uid consumer data) in
theorem records_change_isSome (other : Uid) :
    (storage.records (change storage uid consumer data) other).isSome =
      (storage.records data other).isSome := by
  cases hvalue : storage.records data uid with
  | none => rw [change, hvalue]
  | some value =>
    rw [change_eq hvalue, records_write]
    by_cases hother : other = uid
    · subst hother
      rw [update_self, hvalue]
      rfl
    · rw [update_of_ne hother]

end Change

section Updates

variable {lookups : TryBreedingLookups} {command : TryBreeding} {stallionUid : Uid} {success : Bool}
  {data : DataDirector}

variable (command success data) in
/-- The counters of the horses. -/
def counted : DataDirector :=
  change horseStorage command.stallionUid
    (fun stallion => { stallion with breedingCount := stallion.breedingCount + 1 })
    (change horseStorage command.mareUid
      (fun mare => { mare with breedingCombo := if success then mare.breedingCombo + 1 else 0 }) data)

variable (lookups command stallionUid success data) in
theorem updates_eq : applyBreedingAttemptUpdates lookups command stallionUid success data =
    if (stallionStorage.cached lookups.stallionRecordAgain stallionUid
        (counted command success data)).isSome then
      change stallionStorage stallionUid (fun stallion =>
        { stallion with timesMated := stallion.timesMated + 1 }) (counted command success data)
    else counted command success data := rfl

theorem counted_characters : (counted command success data).characters = data.characters :=
  (view_change characters fun _ _ => rfl).trans
    (view_change characters fun _ _ => rfl)

theorem counted_stallions : (counted command success data).stallions = data.stallions :=
  (view_change stallions fun _ _ => rfl).trans
    (view_change stallions fun _ _ => rfl)

theorem counted_horses_isSome (uid : Uid) :
    ((counted command success data).horses uid).isSome = (data.horses uid).isSome :=
  (records_change_isSome horseStorage _ _ _ uid).trans
    (records_change_isSome horseStorage _ _ _ uid)

theorem updates_characters :
    (applyBreedingAttemptUpdates lookups command stallionUid success data).characters =
      data.characters := by
  rw [updates_eq]
  split
  · exact (view_change characters fun _ _ => rfl).trans counted_characters
  · exact counted_characters

theorem updates_horses_isSome (uid : Uid) :
    ((applyBreedingAttemptUpdates lookups command stallionUid success data).horses uid).isSome =
      (data.horses uid).isSome := by
  rw [updates_eq]
  split
  · have hsame : (change stallionStorage stallionUid (fun stallion =>
        { stallion with timesMated := stallion.timesMated + 1 })
          (counted command success data)).horses = (counted command success data).horses :=
      view_change horses fun _ _ => rfl
    rw [hsame]
    exact counted_horses_isSome uid
  · exact counted_horses_isSome uid

theorem updates_stallions {stallion : Stallion} (havailable : lookups.stallionRecordAgain = true)
    (hstallion : data.stallions stallionUid = some stallion) :
    (applyBreedingAttemptUpdates lookups command stallionUid success data).stallions =
      update data.stallions stallionUid
        (some { stallion with timesMated := stallion.timesMated + 1 }) := by
  have hrecord : stallionStorage.records (counted command success data) stallionUid = some stallion :=
    (congrFun counted_stallions stallionUid).trans hstallion
  have hcached : stallionStorage.cached lookups.stallionRecordAgain stallionUid
      (counted command success data) = some stallion := by
    rw [cached, if_pos havailable, hrecord]
  rw [updates_eq, if_pos (by rw [hcached]; rfl), change_eq hrecord]
  exact congrArg (update · stallionUid _) counted_stallions

end Updates

/-! ## Attempts -/

section Attempts

variable {lookups : TryBreedingLookups} {client : ClientId} {command : TryBreeding} {ranch : Ranch}

theorem handleTryBreeding_apply {context : ClientContext} (h : ranch.contexts client = some context) :
    handleTryBreeding registry lookups client command ranch =
      match horseStorage.cached lookups.mare command.mareUid ranch.data,
        horseStorage.cached lookups.stallion command.stallionUid ranch.data with
      | some _, some stallion =>
        if !lookups.resident &&
            context.tryBreedingDeferAttempts + 1 < maxTryBreedingDeferAttempts then
          .ok .deferred (setContext client
            { context with tryBreedingDeferAttempts := context.tryBreedingDeferAttempts + 1 } ranch)
        else
          match getStallionData lookups.stallionRecord command.stallionUid ranch.toMarket with
          | none => .ok (.cancel .stallionNotFound)
              (setContext client { context with tryBreedingDeferAttempts := 0 } ranch)
          | some registration =>
            payAndBreed registry lookups client { context with tryBreedingDeferAttempts := 0 }
              command stallion registration
              (setContext client { context with tryBreedingDeferAttempts := 0 } ranch)
      | _, _ => .ok (.cancel .genericError)
          (setContext client { context with tryBreedingDeferAttempts := 0 } ranch) := by
  rw [handleTryBreeding, bind_apply, getClientContext_some h]
  dsimp only
  rw [bind_apply, get_apply]
  dsimp only
  cases horseStorage.cached lookups.mare command.mareUid ranch.data with
  | none => rfl
  | some mare =>
    cases horseStorage.cached lookups.stallion command.stallionUid ranch.data with
    | none => rfl
    | some stallion =>
      dsimp only
      split
      · rfl
      · rw [bind_apply, modify_apply]
        cases getStallionData lookups.stallionRecord command.stallionUid ranch.toMarket with
        | none => rfl
        | some registration => rfl

/-- The reply to an attempt that is not charged. -/
theorem chargeFee_refused {fee : UInt32} {character : Character}
    (h : (chargeFee fee character).1.isNone ≠ true) :
    ∃ reason, (chargeFee fee character).1 = some reason ∧ reason ≠ .showBreedingFailureCards := by
  rw [chargeFee] at h ⊢
  split
  · exact ⟨.insufficientHorseSlots, rfl, CancelReason.noConfusion⟩
  split
  · exact ⟨.insufficientBalance, rfl, CancelReason.noConfusion⟩
  · next hslots hcarrots =>
    rw [if_neg hslots, if_neg hcarrots] at h
    exact absurd rfl h

section Paying

variable {context : ClientContext} {stallion : Horse} {registration : StallionData}

theorem payAndBreed_unavailable
    (h : characterStorage.find lookups.character context.characterUid ranch.data = none) :
    payAndBreed registry lookups client context command stallion registration ranch =
      .error (.thrown "Value of the record is unavailable") ranch := by
  rw [payAndBreed, bind_apply, get_apply]
  dsimp only
  rw [h]
  rfl

theorem payAndBreed_refused {payer : Character} {reason : CancelReason}
    (h : characterStorage.find lookups.character context.characterUid ranch.data = some payer)
    (hreason : (chargeFee registration.breedingCharge payer).1 = some reason) :
    payAndBreed registry lookups client context command stallion registration ranch =
      .ok (.cancel reason) ranch := by
  rw [payAndBreed, bind_apply, get_apply]
  dsimp only
  rw [h]
  have hcharge : chargeFee registration.breedingCharge payer =
      (some reason, (chargeFee registration.breedingCharge payer).2) := Prod.ext hreason rfl
  dsimp only
  rw [hcharge]
  rfl

theorem payAndBreed_charged {payer : Character}
    (h : characterStorage.find lookups.character context.characterUid ranch.data = some payer)
    (hcharged : (chargeFee registration.breedingCharge payer).1.isNone = true) :
    payAndBreed registry lookups client context command stallion registration ranch =
      breed registry lookups client context command stallion registration
        (setData (characterStorage.write context.characterUid
          { payer with carrots := payer.carrots - registration.breedingCharge.toInt32 } ranch.data)
            ranch) := by
  rw [payAndBreed, bind_apply, get_apply]
  dsimp only
  rw [h]
  dsimp only
  rw [(chargeFee_of_isNone hcharged).2.2]
  rfl

end Paying

/-- The contexts differ at most in how often attempts were deferred. -/
def SameCards (before after : ClientId → Option ClientContext) : Prop :=
  ∀ client, (after client).map (fun context => { context with tryBreedingDeferAttempts := 0 }) =
    (before client).map fun context => { context with tryBreedingDeferAttempts := 0 }

theorem sameCards_setContext {context : ClientContext} (h : ranch.contexts client = some context)
    (attempts : UInt32) : SameCards ranch.contexts
      (setContext client { context with tryBreedingDeferAttempts := attempts } ranch).contexts := by
  intro other
  dsimp only [setContext]
  rcases eq_or_ne other client with rfl | hother
  · rw [update_self, h]
    rfl
  · rw [update_of_ne hother]

variable (registry) in
/-- A command that is not charged changes no record. -/
theorem attempt_refused (h : attemptOf lookups client command ranch = none) :
    ∃ contexts, SameCards ranch.contexts contexts ∧
      ((∃ reply, handleTryBreeding registry lookups client command ranch =
        .ok reply { ranch with contexts := contexts } ∧ (∀ foalUid, reply ≠ .ok foalUid) ∧
          reply ≠ .cancel .showBreedingFailureCards) ∨
        ∃ failure, handleTryBreeding registry lookups client command ranch =
          .error failure { ranch with contexts := contexts }) := by
  cases hcontext : ranch.contexts client with
  | none =>
    refine ⟨ranch.contexts, fun _ => rfl, .inr ⟨.thrown "Ranch client is not available", ?_⟩⟩
    rw [handleTryBreeding, bind_apply, getClientContext_none hcontext]
  | some context =>
    have hsame := sameCards_setContext hcontext
    rw [handleTryBreeding_apply hcontext]
    rw [attemptOf, hcontext, Option.bind_some] at h
    split
    · next mare stallion hmare hstallion =>
      rw [hmare, hstallion] at h
      dsimp only at h
      split
      · exact ⟨_, hsame _, .inl ⟨.deferred, rfl, fun _ => TryBreedingReply.noConfusion,
          TryBreedingReply.noConfusion⟩⟩
      · next hsettled =>
        rw [if_neg hsettled] at h
        refine ⟨_, hsame 0, ?_⟩
        split
        · exact .inl ⟨_, rfl, fun _ => TryBreedingReply.noConfusion, by decide⟩
        · next registration hregistration =>
          rw [hregistration, Option.bind_some] at h
          cases hpayer : characterStorage.find lookups.character context.characterUid ranch.data with
          | none => exact .inr ⟨_, payAndBreed_unavailable hpayer⟩
          | some payer =>
            rw [hpayer, Option.bind_some] at h
            split at h
            · cases h
            · next hcharge =>
              obtain ⟨reason, hreason, hother⟩ := chargeFee_refused hcharge
              refine .inl ⟨_, payAndBreed_refused hpayer hreason, ?_, ?_⟩
              · exact fun _ => TryBreedingReply.noConfusion
              · exact fun hsame => hother (TryBreedingReply.cancel.inj hsame)
    · exact ⟨_, hsame 0, .inl ⟨_, rfl, fun _ => TryBreedingReply.noConfusion, by decide⟩⟩

/-- The ranch after the debit of an attempt. -/
def charged (client : ClientId) (attempt : Attempt) (ranch : Ranch) : Ranch :=
  setData (characterStorage.write attempt.context.characterUid
      { attempt.payer with
        carrots := attempt.payer.carrots - attempt.registration.breedingCharge.toInt32 } ranch.data)
    (setContext client { attempt.context with tryBreedingDeferAttempts := 0 } ranch)

variable (registry) in
/-- What a command that is charged has found, and how it goes on. -/
theorem attempt_found {attempt : Attempt}
    (h : attemptOf lookups client command ranch = some attempt) :
    ranch.contexts client = some attempt.context ∧
      getStallionData lookups.stallionRecord command.stallionUid ranch.toMarket =
        some attempt.registration ∧
      characterStorage.find lookups.character attempt.context.characterUid ranch.data =
        some attempt.payer ∧
      (chargeFee attempt.registration.breedingCharge attempt.payer).1.isNone = true ∧
      handleTryBreeding registry lookups client command ranch =
        breed registry lookups client { attempt.context with tryBreedingDeferAttempts := 0 } command
          attempt.stallion attempt.registration (charged client attempt ranch) := by
  rw [attemptOf] at h
  obtain ⟨context, hcontext, h⟩ := Option.bind_eq_some_iff.1 h
  rw [handleTryBreeding_apply hcontext]
  split at h
  · next mare stallion hmare hstallion =>
    split at h
    · cases h
    · next hsettled =>
      obtain ⟨registration, hregistration, h⟩ := Option.bind_eq_some_iff.1 h
      obtain ⟨payer, hpayer, h⟩ := Option.bind_eq_some_iff.1 h
      split at h
      · next hcharge =>
        cases h
        refine ⟨hcontext, hregistration, hpayer, hcharge, ?_⟩
        refine (if_neg hsettled).trans ?_
        split
        · next hmissing => cases hregistration.symm.trans hmissing
        · next found hfound =>
          cases hregistration.symm.trans hfound
          exact payAndBreed_charged hpayer hcharge
      · cases h
  · cases h

/-- The registration that an attempt is charged for. -/
theorem registration_of_getStallionData {available : Bool} {horseUid : Uid} {market : Market}
    {registration : StallionData} (h : getStallionData available horseUid market = some registration) :
    market.stallionOf horseUid = some registration.stallionUid ∧
      ∃ stallion, market.data.stallions registration.stallionUid = some stallion ∧
        registration.breedingCharge = stallion.breedingCharge := by
  obtain ⟨stallionUid, hregistered, h⟩ := Option.bind_eq_some_iff.1 h
  obtain ⟨stallion, hstallion, rfl⟩ := Option.map_eq_some_iff.1 h
  exact ⟨hregistered, stallion, records_of_cached hstallion, rfl⟩

section Breeding

variable {context : ClientContext} {stallion : Horse} {registration : StallionData}

theorem breed_fails (h : succeeds registry lookups stallion = false) :
    breed registry lookups client context command stallion registration ranch =
      .ok (.cancel .showBreedingFailureCards) (setContext client { context with
          hasPendingFailureCard := true
          pendingFailureCardSpend := registration.breedingCharge }
        (setData (applyBreedingAttemptUpdates lookups command registration.stallionUid false ranch.data)
          ranch)) := by
  have hroll : ¬lookups.successRoll ≤ calculateBreedingSuccessRate registry stallion.grade
      stallion.breedingCount (bonusOf registry lookups stallion) := of_decide_eq_false h
  rw [breed]
  rw [bonusOf] at hroll
  rw [if_neg hroll]
  rfl

theorem breed_succeeds (h : succeeds registry lookups stallion = true)
    (hfoal : foalCreated registry lookups stallion ranch.data = true) :
    ∃ foalUid foal, horseStorage.fresh lookups.foal ranch.data = some foalUid ∧
      breed registry lookups client context command stallion registration ranch =
        .ok (.ok foalUid) (setData (applyBreedingAttemptUpdates lookups command
          registration.stallionUid true (change characterStorage context.characterUid
            (fun character => { character with horses := character.horses ++ [foalUid] })
              (horseStorage.write foalUid foal ranch.data))) ranch) := by
  have hroll : lookups.successRoll ≤ calculateBreedingSuccessRate registry stallion.grade
      stallion.breedingCount (bonusOf registry lookups stallion) := of_decide_eq_true h
  obtain ⟨foalUid, hfresh, hgenetics⟩ := (Option.any_eq_true _ _).1 hfoal
  cases hresult : lookups.genetics (if (bonusOf registry lookups stallion).type = 1 then
      (bonusOf registry lookups stallion).value.toUInt32 else 0) { uid := foalUid } with
  | error left =>
    rw [hresult] at hgenetics
    cases hgenetics
  | ok foal =>
    refine ⟨foalUid, foal, hfresh, ?_⟩
    have hcreated : createBredFoal lookups (bonusOf registry lookups stallion) ranch =
        .ok foalUid (setData (horseStorage.write foalUid foal ranch.data) ranch) := by
      rw [createBredFoal, bind_apply, get_apply]
      dsimp only
      rw [hfresh]
      dsimp only
      rw [hresult]
      rfl
    rw [breed]
    rw [bonusOf] at hroll hcreated
    rw [if_pos hroll, bind_apply, hcreated]
    rfl

end Breeding

/-! ## Attempts that throw -/

/-- The counters and the debit carry an attempt out. -/
theorem carriedOut_of {attempt : Attempt} {born : Option Uid} {success : Bool} {data : DataDirector}
    {after : Ranch} (h : attemptOf lookups client command ranch = some attempt)
    (hsound : attempt.Sound registry lookups command ranch.data)
    (hafter : after.data = applyBreedingAttemptUpdates lookups command
      attempt.registration.stallionUid success data)
    (hcharacters : data.characters = update ranch.data.characters
      attempt.context.characterUid (some { attempt.payer with
        carrots := attempt.payer.carrots - attempt.registration.breedingCharge.toInt32
        horses := attempt.payer.horses ++ born.toList }))
    (hstallions : data.stallions = ranch.data.stallions)
    (hborn : ∀ foalUid ∈ born, ranch.data.horses foalUid = none ∧ (data.horses foalUid).isSome) :
    CarriedOut attempt.context.characterUid command born ranch after := by
  obtain ⟨-, hregistration, hpayer, hcharge, -⟩ := attempt_found registry h
  obtain ⟨hregistered, stallion, hstallion, hfee⟩ := registration_of_getStallionData hregistration
  obtain ⟨hslots, hcarrots, -⟩ := chargeFee_of_isNone hcharge
  obtain ⟨hexact, hnonneg⟩ := carrots_sub_fee hsound.fee hcarrots
  have hpaid : after.data.characters attempt.context.characterUid = some { attempt.payer with
      carrots := attempt.payer.carrots - attempt.registration.breedingCharge.toInt32
      horses := attempt.payer.horses ++ born.toList } := by
    rw [hafter, updates_characters, hcharacters, update_self]
  refine ⟨⟨attempt.registration.stallionUid, stallion, attempt.payer, _, hregistered, hstallion,
    (find_eq_some.1 hpayer).2.2, hpaid, ?_, ?_, hsound.mare, ?_, rfl, ?_, ?_⟩, ?_⟩
  · rw [← hfee]
    exact hexact
  · exact hnonneg
  · intro foalUid hfoal
    obtain ⟨hnew, hpresent⟩ := hborn foalUid hfoal
    refine ⟨hslots, hnew, ?_⟩
    rw [hafter, updates_horses_isSome]
    exact hpresent
  · rw [hafter, updates_stallions hsound.counted (hstallions ▸ hstallion), hstallions]
  · have hroom := hsound.room stallion hstallion
    rw [UInt32.toNat_add]
    exact Nat.mod_eq_of_lt hroom
  · intro uid huid
    rw [hafter, updates_characters, hcharacters, update_of_ne huid]

/-- A sound attempt is carried out. -/
theorem attempt_carriedOut {attempt : Attempt} (h : attemptOf lookups client command ranch = some attempt)
    (hsound : attempt.Sound registry lookups command ranch.data) :
    ∃ born after, handleTryBreeding registry lookups client command ranch =
        .ok (born.elim (.cancel .showBreedingFailureCards) .ok) after ∧
      CarriedOut attempt.context.characterUid command born ranch after := by
  obtain ⟨-, -, hpayer, -, hhandle⟩ := attempt_found registry h
  rw [hhandle]
  have hcharged : (charged client attempt ranch).data.characters =
      update ranch.data.characters attempt.context.characterUid
        (some { attempt.payer with
          carrots := attempt.payer.carrots - attempt.registration.breedingCharge.toInt32 }) := rfl
  cases hroll : succeeds registry lookups attempt.stallion with
  | false =>
    refine ⟨none, _, breed_fails hroll, carriedOut_of h hsound rfl ?_ rfl ?_⟩
    · rw [hcharged, Option.toList_none, List.append_nil]
    · intro foalUid hfoal
      cases hfoal
  | true =>
    have hfoal : foalCreated registry lookups attempt.stallion (charged client attempt ranch).data =
        true := hsound.foal hroll
    obtain ⟨foalUid, foal, hfresh, hbreed⟩ := breed_succeeds hroll hfoal
    have hrecord : characterStorage.records (horseStorage.write foalUid foal
        (charged client attempt ranch).data) attempt.context.characterUid = some { attempt.payer with
          carrots := attempt.payer.carrots - attempt.registration.breedingCharge.toInt32 } :=
      update_self _ _ _
    refine ⟨some foalUid, _, hbreed, carriedOut_of h hsound rfl ?_ ?_ ?_⟩
    · rw [change_eq hrecord]
      exact update_idem _ _ _
    · exact view_change stallions fun _ _ => rfl
    · intro uid huid
      cases huid
      have hsame : (change characterStorage attempt.context.characterUid
          (fun character => { character with horses := character.horses ++ [foalUid] })
            (horseStorage.write foalUid foal (charged client attempt ranch).data)).horses =
          (horseStorage.write foalUid foal (charged client attempt ranch).data).horses :=
        view_change horses fun _ _ => rfl
      refine ⟨(fresh_eq_some.1 hfresh).2.2, ?_⟩
      have hwritten : (horseStorage.write foalUid foal
          (charged client attempt ranch).data).horses foalUid = some foal :=
        update_self _ _ _
      rw [hsame, hwritten]
      rfl

end Attempts

end Alicia.Breeding
