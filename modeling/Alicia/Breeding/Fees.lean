import Alicia.Breeding.Attempts

/-!
# Breeding fees

In a run of commands, the ledger adds up the fees that were charged for each registration.  `Balanced`
says that these are what the owner of the stallion is paid for, the charge for each time that it mated.
-/

namespace Alicia.Breeding

open Transition Effect Data Registry Function DataDirector
open Chrono (TimePoint)
open DataDirector (characterStorage stallionStorage)

variable (registry : BreedingRegistry)

/-! ## What a run is for -/

/-- An attempt is carried out, or changes no record. -/
def Conserves (ranch : Ranch) : BreedingInput → Prop
  | .tryBreeding client command lookups =>
    match handleTryBreeding registry lookups client command ranch with
    | .ok (.ok foalUid) after =>
      ∃ context, ranch.contexts client = some context ∧
        CarriedOut context.characterUid command (some foalUid) ranch after
    | .ok (.cancel .showBreedingFailureCards) after =>
      ∃ context, ranch.contexts client = some context ∧
        CarriedOut context.characterUid command none ranch after
    | .ok _ after => after.data = ranch.data
    | .error _ after => after.data = ranch.data
  | _ => True

/-- The condition under which an attempt is carried out or changes nothing. -/
def Sound (ranch : Ranch) : BreedingInput → Prop
  | .tryBreeding client command lookups =>
    ∀ attempt, attemptOf lookups client command ranch = some attempt →
      attempt.Sound registry lookups command ranch.data
  | _ => True

instance (ranch : Ranch) : ∀ input, Decidable (Sound registry ranch input)
  | .tryBreeding _ _ _ => Option.decidableForallMem _
  | .failureCard _ _ => isTrue trivial
  | .choose _ _ => isTrue trivial
  | .register _ _ _ _ => isTrue trivial
  | .unregister _ _ _ => isTrue trivial
  | .expirationCheck _ _ _ => isTrue trivial

/-! ## The fees of a registration -/

/-- The carrots that a character has lost. -/
def lost (characterUid : Uid) (ranch after : Ranch) : Int :=
  match ranch.data.characters characterUid, after.data.characters characterUid with
  | some before, some payer => before.carrots.toInt - payer.carrots.toInt
  | _, _ => 0

/-- What an input takes from a character for a registration. -/
def feeCharged (stallionUid : Uid) (ranch : Ranch) : BreedingInput → Int
  | .tryBreeding client command lookups =>
    if ranch.stallionOf command.stallionUid = some stallionUid then
      (ranch.contexts client).elim 0 fun context => lost context.characterUid ranch
        (breedingStep registry ranch (.tryBreeding client command lookups))
    else 0
  | _ => 0

/-- The ranch, and the fees that were charged for each registration. -/
structure Ledger where
  ranch : Ranch
  charged : Uid → Int

/-- A record that does not exist has no fees. -/
def ledgerStep (ledger : Ledger) (input : BreedingInput) : Ledger where
  ranch := breedingStep registry ledger.ranch input
  charged stallionUid :=
    if (ledger.ranch.data.stallions stallionUid).isSome then
      ledger.charged stallionUid + feeCharged registry stallionUid ledger.ranch input
    else 0

/-- The fees that were charged for a registration are what its record says. -/
def Balanced (ledger : Ledger) : Prop :=
  ∀ uid stallion, ledger.ranch.data.stallions uid = some stallion →
    ledger.charged uid = stallion.timesMated.toNat * stallion.breedingCharge.toNat

/-- The ledger of a ranch whose records are right. -/
def Ledger.opened (ranch : Ranch) : Ledger where
  ranch := ranch
  charged uid := (ranch.data.stallions uid).elim 0 fun stallion =>
    stallion.timesMated.toNat * stallion.breedingCharge.toNat

variable {registry}

/-! ## Sound inputs -/

section Attempts

variable {ranch : Ranch}

/-- A sound input is carried out or changes no record. -/
theorem conserves_of_sound {input : BreedingInput} (h : Sound registry ranch input) :
    Conserves registry ranch input := by
  cases input with
  | tryBreeding client command lookups =>
    rw [Conserves]
    cases hattempt : attemptOf lookups client command ranch with
    | none =>
      obtain ⟨contexts, -, ⟨reply, hhandle, hok, hcards⟩ | ⟨failure, hhandle⟩⟩ :=
        attempt_refused registry hattempt
      · rw [hhandle]
        cases reply with
        | ok foalUid => exact absurd rfl (hok foalUid)
        | deferred => rfl
        | cancel reason =>
          cases reason with
          | showBreedingFailureCards => exact absurd rfl hcards
          | _ => rfl
      · rw [hhandle]
    | some attempt =>
      obtain ⟨born, after, hhandle, hcarried⟩ := attempt_carriedOut hattempt (h attempt hattempt)
      have hcontext := (attempt_found registry hattempt).1
      rw [hhandle]
      cases born with
      | none => exact ⟨attempt.context, hcontext, hcarried⟩
      | some foalUid => exact ⟨attempt.context, hcontext, hcarried⟩
  | _ => trivial

end Attempts

/-! ## Stallion records -/

/-- The records are among the earlier ones, or are new ones that have not mated. -/
def Grown (before after : DataDirector) : Prop :=
  ∀ uid stallion, after.stallions uid = some stallion → before.stallions uid = some stallion ∨
    before.stallions uid = none ∧ stallion.timesMated = 0

theorem Shrunk.grown {before after : DataDirector} (h : Shrunk before after) : Grown before after :=
  fun uid stallion hstallion => .inl (h uid stallion hstallion)

theorem Grown.of_eq {before after : DataDirector} (h : after.stallions = before.stallions) :
    Grown before after := fun _ _ hstallion => .inl (h ▸ hstallion)

theorem grown_register (lookups : RegisterLookups) (characterUid horseUid : Uid) (breedingFee : Int32)
    (market : Market) : Grown market.data
      ((handleRegisterStallion lookups characterUid horseUid breedingFee).final market).data := by
  rw [handleRegisterStallion, final_bind, get_apply]
  dsimp only
  split
  · exact Grown.of_eq rfl
  rw [final_bind, get_apply]
  dsimp only
  split
  · exact Grown.of_eq rfl
  rw [final_bind, get_apply]
  dsimp only
  split
  · exact Grown.of_eq rfl
  next data hpaid =>
  have hsame := payRegistration_stallions hpaid
  rw [final_bind, modify_apply]
  dsimp only
  rw [final_bind, get_apply]
  dsimp only
  split
  · exact Grown.of_eq hsame
  next horse hhorse =>
  rw [final_bind, modify_apply]
  dsimp only
  rw [final_bind, get_apply]
  dsimp only
  split
  · exact Grown.of_eq hsame
  next stallionUid hfresh =>
  have hnew : market.data.stallions stallionUid = none :=
    (congrFun hsame stallionUid).symm.trans (Storage.fresh_eq_some.1 hfresh).2.2
  have hcreated : ∀ market : Market, (market.emplace horseUid stallionUid).data = market.data := by
    intro market
    rw [Market.emplace]
    split
    · rfl
    · rfl
  rw [final_bind, modify_apply]
  dsimp only
  rw [final_bind, modify_apply]
  dsimp only
  rw [final_pure, hcreated]
  -- The record that was created is the only new one.
  intro uid stallion hstallion
  rcases eq_or_ne uid stallionUid with rfl | hother
  · have hvalue := (update_self _ _ _).symm.trans hstallion
    cases hvalue
    exact .inr ⟨hnew, rfl⟩
  · have hvalue := (update_of_ne hother _ _).symm.trans hstallion
    exact .inl (hsame ▸ hvalue)

theorem shrunk_unregister (lookups : UnregisterLookups) (characterUid horseUid : Uid)
    (market : Market) :
    Shrunk market.data (handleUnregisterStallion lookups characterUid horseUid market).2.data := by
  rw [handleUnregisterStallion]
  split
  · exact fun _ _ => id
  split
  · split
    · exact shrunk_unregisterStallion _ _ _ _
    · exact fun _ _ => id
  · exact fun _ _ => id

theorem shrunk_expirationCheck (lookups : Uid → UnregisterLookups) (available : Uid → Bool)
    (now : TimePoint) (market : Market) :
    Shrunk market.data (runExpirationCheck lookups available now market).data := by
  rw [runExpirationCheck]
  generalize expired available now market = entries
  induction entries generalizing market with
  | nil => exact fun _ _ => id
  | cons entry rest ih =>
    intro uid stallion hstallion
    exact shrunk_unregisterStallion _ _ _ _ uid stallion (ih (expire lookups market entry) uid stallion hstallion)

theorem choose_stallions (lookups : ChooseLookups) (client : ClientId) (ranch : Ranch) :
    ((handleBreedingFailureCardChoose registry lookups client).final ranch).data.stallions =
      ranch.data.stallions := by
  cases hcontext : ranch.contexts client with
  | none => rw [handleBreedingFailureCardChoose, final_bind, getClientContext_none hcontext]
  | some context =>
    rw [choose_data hcontext, Storage.final_access]
    cases hcharacter : characterStorage.find lookups.character context.characterUid ranch.data with
    | none => rfl
    | some character =>
      have hframe := congrArg stallions (giveReward_frame lookups (drawReward registry
        lookups context.pendingCardType context.pendingFailureCardSpend).2 ⟨character, ranch.data⟩)
      exact hframe

/-! ## Runs -/

section Runs

variable {ledger : Ledger}

theorem balanced_opened (ranch : Ranch) : Balanced (Ledger.opened ranch) := by
  intro uid stallion hstallion
  exact congrArg (fun record : Option Stallion => record.elim (0 : Int) fun stallion =>
    stallion.timesMated.toNat * stallion.breedingCharge.toNat) hstallion

theorem lost_of_eq {ranch after : Ranch} (characterUid : Uid) (h : after.data = ranch.data) :
    lost characterUid ranch after = 0 := by
  rw [lost, h]
  split
  · next before payer hbefore hpayer =>
    cases hbefore.symm.trans hpayer
    exact Int.sub_self _
  · rfl

/-- An input that charges nothing keeps the balance if the records of the stallions only grow. -/
theorem Balanced.of_grown (h : Balanced ledger) {input : BreedingInput}
    (hgrown : Grown ledger.ranch.data (breedingStep registry ledger.ranch input).data)
    (hfree : ∀ uid, feeCharged registry uid ledger.ranch input = 0) :
    Balanced (ledgerStep registry ledger input) := by
  intro uid stallion hstallion
  rw [ledgerStep]
  dsimp only
  obtain hsame | ⟨hnew, hunmated⟩ := hgrown uid stallion hstallion
  · rw [if_pos (by rw [hsame]; rfl), hfree, add_zero]
    exact h uid stallion hsame
  · rw [if_neg (by rw [hnew]; exact Bool.false_ne_true), hunmated]
    exact (Int.zero_mul _).symm

/-- An attempt that is carried out raises the fees and the counter alike. -/
theorem Balanced.of_carriedOut (h : Balanced ledger) {client : ClientId} {command : TryBreeding}
    {lookups : TryBreedingLookups} {context : ClientContext} {born : Option Uid}
    (hcontext : ledger.ranch.contexts client = some context)
    (hcarried : CarriedOut context.characterUid command born ledger.ranch
      (breedingStep registry ledger.ranch (.tryBreeding client command lookups))) :
    Balanced (ledgerStep registry ledger (.tryBreeding client command lookups)) := by
  obtain ⟨⟨stallionUid, stallion, before, payer, hregistered, hstallion, hbefore, hpayer, hpaid, -, -, -,
    -, hstallions, hcount⟩, -⟩ := hcarried
  have hlost : lost context.characterUid ledger.ranch
      (breedingStep registry ledger.ranch (.tryBreeding client command lookups)) =
        stallion.breedingCharge.toNat := by
    rw [lost, hbefore, hpayer]
    dsimp only
    omega
  intro uid mated hmated
  rw [ledgerStep] at hmated ⊢
  dsimp only at hmated ⊢
  rw [hstallions] at hmated
  rcases eq_or_ne uid stallionUid with rfl | hother
  · cases (update_self _ _ _).symm.trans hmated
    rw [if_pos (by rw [hstallion]; rfl), feeCharged, if_pos hregistered, hcontext, Option.elim_some,
      hlost, h uid stallion hstallion, hcount]
    push_cast
    ring
  · have hrecord : ledger.ranch.data.stallions uid = some mated :=
      (update_of_ne hother _ _).symm.trans hmated
    have hfree : feeCharged registry uid ledger.ranch (.tryBreeding client command lookups) = 0 :=
      if_neg fun hsame => hother (Option.some.inj (hsame.symm.trans hregistered))
    rw [if_pos (by rw [hrecord]; rfl), hfree, add_zero]
    exact h uid mated hrecord

theorem balanced_step (ledger : Ledger) (input : BreedingInput) (h : Balanced ledger)
    (hsound : Sound registry ledger.ranch input) : Balanced (ledgerStep registry ledger input) := by
  cases input with
  | tryBreeding client command lookups =>
    cases hattempt : attemptOf lookups client command ledger.ranch with
    | none =>
      have hsame : (breedingStep registry ledger.ranch
          (.tryBreeding client command lookups)).data = ledger.ranch.data := by
        rw [breedingStep]
        obtain ⟨contexts, -, ⟨reply, hhandle, -⟩ | ⟨failure, hhandle⟩⟩ :=
          attempt_refused registry hattempt
        · rw [final_ok hhandle]
        · rw [final_error hhandle]
      refine h.of_grown (Grown.of_eq (congrArg stallions hsame)) fun uid => ?_
      rw [feeCharged]
      split
      · cases ledger.ranch.contexts client with
        | none => rfl
        | some context => exact lost_of_eq context.characterUid hsame
      · rfl
    | some attempt =>
      obtain ⟨born, after, hhandle, hcarried⟩ :=
        attempt_carriedOut hattempt (hsound attempt hattempt)
      have hafter : breedingStep registry ledger.ranch (.tryBreeding client command lookups) =
        after := final_ok hhandle
      exact h.of_carriedOut (attempt_found registry hattempt).1 (hafter ▸ hcarried)
  | failureCard client cardRoll =>
    exact h.of_grown (Grown.of_eq (congrArg stallions
      (failureCard_data cardRoll client ledger.ranch))) fun _ => rfl
  | choose client lookups =>
    exact h.of_grown (Grown.of_eq (choose_stallions lookups client ledger.ranch)) fun _ => rfl
  | register characterUid horseUid breedingFee lookups =>
    exact h.of_grown (grown_register lookups characterUid horseUid breedingFee
      ledger.ranch.toMarket) fun _ => rfl
  | unregister characterUid horseUid lookups =>
    exact h.of_grown (shrunk_unregister lookups characterUid horseUid
      ledger.ranch.toMarket).grown fun _ => rfl
  | expirationCheck lookups available now =>
    exact h.of_grown (shrunk_expirationCheck lookups available now
      ledger.ranch.toMarket).grown fun _ => rfl

end Runs

variable (registry) in
/-- In every run whose attempts are sound, each of them is carried out or changes no record, and the
fees that were charged for a registration are its charge for each time that it mated. -/
theorem breeding_fees_conserved (ranch : Ranch) (inputs : List BreedingInput)
    (hsound : Guarded (ledgerStep registry) (fun ledger => Sound registry ledger.ranch)
      (Ledger.opened ranch) inputs) :
    Guarded (ledgerStep registry) (fun ledger input => Conserves registry ledger.ranch input ∧
      Balanced (ledgerStep registry ledger input)) (Ledger.opened ranch) inputs :=
  Guarded.imp balanced_step
    (fun ledger input h hsound => ⟨conserves_of_sound hsound, balanced_step ledger input h hsound⟩)
    (balanced_opened ranch) hsound

/-- Two characters with a horse each. -/
def stud : Ranch where
  data := {
    characters := fun uid =>
      if uid = 1 then some { uid := 1, horses := [10], carrots := 5000 }
      else if uid = 2 then some { uid := 2, horses := [20], carrots := 9000, horseSlotCount := 10 }
      else none
    horses := fun uid =>
      if uid = 10 then some { uid := 10, grade := 4 } else if uid = 20 then some { uid := 20 } else none }
  contexts client := if client = 5 then some { characterUid := 2 } else none

/-- The horse of the one is registered, and the other breeds with it, first without success. -/
def courting : List BreedingInput :=
  [.register 1 10 4000 { stallion := some 100 },
    .tryBreeding 5 ⟨20, 10⟩ { successRoll := 100 },
    .failureCard 5 50,
    .tryBreeding 5 ⟨20, 10⟩ { successRoll := 1, foal := some 30 },
    .unregister 1 10 { reward := some 7 }]

theorem breeding_fees_conserved_courting :
    Guarded (ledgerStep {}) (fun ledger input => Conserves {} ledger.ranch input ∧
      Balanced (ledgerStep {} ledger input)) (Ledger.opened stud) courting :=
  breeding_fees_conserved {} stud courting (by decide +kernel)

/-- The market with the stallion. -/
def covering : Ranch where
  data := stallionStorage.write 100
    { uid := 100, horseUid := 10, ownerUid := 1, breedingCharge := 4000 } stud.data
  registrations := [(10, 100)]
  contexts := stud.contexts

/-- The fee is gone when the foal cannot be created. -/
theorem fee_of_no_foal : ¬Guarded (ledgerStep {}) (fun ledger input =>
    Conserves {} ledger.ranch input ∧ Balanced (ledgerStep {} ledger input)) (Ledger.opened covering)
      [.tryBreeding 5 ⟨20, 10⟩ { successRoll := 1, foal := none }] := by
  intro h
  have hsame : (breedingStep {} covering
      (.tryBreeding 5 ⟨20, 10⟩ { successRoll := 1, foal := none })).data = covering.data := h.1.1
  have hcarrots := congrArg (fun data : DataDirector => (data.characters 2).map Character.carrots) hsame
  exact absurd hcarrots (by decide +kernel)

end Alicia.Breeding
