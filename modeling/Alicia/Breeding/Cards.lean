import Alicia.Breeding.Attempts

/-!
# Failure cards

A failed breeding owes its client a card.  The card is rolled and then exchanged for a reward, which
depends on what was rolled and on the fee that was paid.  `Account` keeps these books for a client.

The server has three fields of the context in their place, and a choice looks at none of them before
it pays.  So the runs that keep the books are those in which every choice that pays comes with a card
that was rolled.
-/

namespace Alicia.Breeding

open Transition Effect Data Registry Possession Function
open DataDirector (characterStorage)

variable (registry : BreedingRegistry)

/-! ## Accounts -/

/-- The card for a failed breeding. -/
structure Card where
  fee : UInt32
  rolled : Option BreedingFailureCardType := none

/-- What happens to the card of a client. -/
inductive CardEvent where
  | failed (fee : UInt32)
  | rolled (type : BreedingFailureCardType)
  | paid

/-- The card that a client is owed, and how many breedings failed and how many rewards were paid. -/
structure Account where
  owed : Option Card := none
  failures : Nat := 0
  rewards : Nat := 0

/-- A card takes the place of an earlier one. -/
def Account.record (account : Account) : CardEvent → Account
  | .failed fee => { account with owed := some { fee := fee }, failures := account.failures + 1 }
  | .rolled type =>
    { account with owed := account.owed.map fun card => { card with rolled := some type } }
  | .paid => { account with owed := none, rewards := account.rewards + 1 }

/-! ## Runs -/

/-- A choice finds the character, and pays a reward. -/
def rewarded (lookups : ChooseLookups) (client : ClientId) (ranch : Ranch) : Bool :=
  (ranch.contexts client).any fun context =>
    (characterStorage.find lookups.character context.characterUid ranch.data).isSome

/-- What an input does to the card of a client. -/
def eventOf (ranch : Ranch) : BreedingInput → Option (ClientId × CardEvent)
  | .tryBreeding client command lookups =>
    if (handleTryBreeding registry lookups client command).returned ranch =
        some (.cancel .showBreedingFailureCards) then
      (attemptOf lookups client command ranch).map fun attempt =>
        (client, .failed attempt.registration.breedingCharge)
    else none
  | .failureCard client cardRoll =>
    ((handleBreedingFailureCard registry cardRoll client).returned ranch).join.map fun type =>
      (client, .rolled type)
  | .choose client lookups => if rewarded lookups client ranch then some (client, .paid) else none
  | _ => none

/-- The ranch, and the accounts of the clients. -/
structure Counter where
  ranch : Ranch
  accounts : ClientId → Account

def cardStep (counter : Counter) (input : BreedingInput) : Counter where
  ranch := breedingStep registry counter.ranch input
  accounts := (eventOf registry counter.ranch input).elim counter.accounts fun event =>
    update counter.accounts event.1 ((counter.accounts event.1).record event.2)

/-- Clients that log in as characters. -/
def Counter.opened (market : Market) (clients : ClientId → Option Uid) : Counter where
  ranch := { market with
    contexts := fun client => (clients client).map fun characterUid => { characterUid := characterUid } }
  accounts _ := {}

/-- A choice pays the reward for the card that the client is owed, or changes nothing if there is no
card, and no client gets more rewards than it has failed breedings. -/
def Compensates (counter : Counter) (input : BreedingInput) : Prop :=
  (match input with
    | .choose client lookups =>
      (rewarded lookups client counter.ranch = true → ∃ context card type,
        counter.ranch.contexts client = some context ∧
          (counter.accounts client).owed = some card ∧ card.rolled = some type ∧
          (breedingStep registry counter.ranch input).data =
            (characterStorage.access (.thrown "Value of the record is unavailable") lookups.character
              context.characterUid (giveReward lookups (drawReward registry lookups type
                card.fee).2)).final counter.ranch.data) ∧
        ((counter.accounts client).owed = none →
          (breedingStep registry counter.ranch input).data = counter.ranch.data ∧
            (handleBreedingFailureCardChoose registry lookups client).returned counter.ranch = none)
    | _ => True) ∧
  ∀ client, ((cardStep registry counter input).accounts client).rewards ≤
    ((cardStep registry counter input).accounts client).failures

/-- A choice that pays comes with a card that was rolled. -/
def Entitled (counter : Counter) : BreedingInput → Prop
  | .choose client lookups => rewarded lookups client counter.ranch = true →
      ((counter.accounts client).owed.bind Card.rolled).isSome = true
  | _ => True

instance (counter : Counter) : ∀ input, Decidable (Entitled counter input)
  | .tryBreeding _ _ _ => isTrue trivial
  | .failureCard _ _ => isTrue trivial
  | .choose _ _ => inferInstanceAs (Decidable (_ = true → _ = true))
  | .register _ _ _ _ => isTrue trivial
  | .unregister _ _ _ => isTrue trivial
  | .expirationCheck _ _ _ => isTrue trivial

variable {registry}

/-! ## What a card event does -/

/-- The context has the card. -/
structure Holds (card : Card) (context : ClientContext) : Prop where
  pending : context.hasPendingFailureCard = true
  spend : context.pendingFailureCardSpend = card.fee
  rolled : ∀ type, card.rolled = some type → context.pendingCardType = type

/-- A client is owed no more than it has not got yet. -/
def Account.Fair (account : Account) : Prop :=
  account.rewards + account.owed.isSome.toNat ≤ account.failures

theorem Account.Fair.record {account : Account} (h : account.Fair) {event : CardEvent}
    (hpaid : event = .paid → account.owed.isSome = true) : (account.record event).Fair := by
  rw [Fair] at h ⊢
  cases event with
  | failed fee =>
    have hle := Bool.toNat_le account.owed.isSome
    show account.rewards + 1 ≤ account.failures + 1
    omega
  | rolled type =>
    have hsame : (account.record (.rolled type)).owed.isSome = account.owed.isSome := Option.isSome_map
    rw [hsame]
    exact h
  | paid =>
    rw [hpaid rfl] at h
    exact h

/-- The contexts have the cards that the clients are owed. -/
structure Kept (counter : Counter) : Prop where
  cards : ∀ client card, (counter.accounts client).owed = some card →
    ∃ context, counter.ranch.contexts client = some context ∧ Holds card context
  fair : ∀ client, (counter.accounts client).Fair

theorem kept_opened (market : Market) (clients : ClientId → Option Uid) :
    Kept (Counter.opened market clients) where
  cards client card h := by cases h
  fair client := Nat.zero_le _

/-- What does not concern the cards leaves them in the contexts. -/
theorem Holds.of_sameCards {before after : ClientId → Option ClientContext} {client : ClientId}
    {card : Card} (hsame : SameCards before after)
    (h : ∃ context, before client = some context ∧ Holds card context) :
    ∃ context, after client = some context ∧ Holds card context := by
  obtain ⟨context, hcontext, hholds⟩ := h
  have hclient := hsame client
  rw [hcontext, Option.map_some] at hclient
  obtain ⟨next, hnext, hfields⟩ := Option.map_eq_some_iff.1 hclient
  have hpending : next.hasPendingFailureCard = context.hasPendingFailureCard :=
    (congrArg ClientContext.hasPendingFailureCard hfields :)
  have hspend : next.pendingFailureCardSpend = context.pendingFailureCardSpend :=
    (congrArg ClientContext.pendingFailureCardSpend hfields :)
  have htype : next.pendingCardType = context.pendingCardType :=
    (congrArg ClientContext.pendingCardType hfields :)
  exact ⟨next, hnext, hpending ▸ hholds.pending, hspend ▸ hholds.spend,
    fun type htyped => htype ▸ hholds.rolled type htyped⟩

section Steps

variable {counter : Counter} {input : BreedingInput}

/-- An input that is no event keeps the cards. -/
theorem Kept.of_sameCards (h : Kept counter) (hevent : eventOf registry counter.ranch input = none)
    (hsame : SameCards counter.ranch.contexts (breedingStep registry counter.ranch input).contexts) :
    Kept (cardStep registry counter input) := by
  have haccounts : (cardStep registry counter input).accounts = counter.accounts := by
    rw [cardStep, hevent]
    rfl
  constructor
  · rw [haccounts]
    exact fun client card howed => Holds.of_sameCards hsame (h.cards client card howed)
  · rw [haccounts]
    exact h.fair

/-- An event keeps the cards if the context of its client has the new one. -/
theorem Kept.of_event (h : Kept counter) (client : ClientId) (event : CardEvent)
    (context : ClientContext) (hevent : eventOf registry counter.ranch input = some (client, event))
    (hcontexts : (breedingStep registry counter.ranch input).contexts =
      update counter.ranch.contexts client (some context))
    (hholds : ∀ card, ((counter.accounts client).record event).owed = some card → Holds card context)
    (hpaid : event = .paid → (counter.accounts client).owed.isSome = true) :
    Kept (cardStep registry counter input) := by
  have haccounts : (cardStep registry counter input).accounts = update counter.accounts client
      ((counter.accounts client).record event) := by
    rw [cardStep, hevent]
    rfl
  constructor
  · intro other card howed
    rw [haccounts] at howed
    show ∃ context, (breedingStep registry counter.ranch input).contexts other = some context ∧ _
    rw [hcontexts]
    rcases eq_or_ne other client with rfl | hother
    · rw [update_self] at howed ⊢
      exact ⟨context, rfl, hholds card howed⟩
    · rw [update_of_ne hother] at howed ⊢
      exact h.cards other card howed
  · intro other
    rw [haccounts]
    rcases eq_or_ne other client with rfl | hother
    · rw [update_self]
      exact (h.fair other).record hpaid
    · rw [update_of_ne hother]
      exact h.fair other

/-- The creation of a foal changes records only. -/
theorem createBredFoal_data (lookups : TryBreedingLookups) (bonus : BreedingBonus) (ranch : Ranch) :
    (∃ foalUid data, createBredFoal lookups bonus ranch = .ok foalUid (setData data ranch)) ∨
      ∃ failure data, createBredFoal lookups bonus ranch = .error failure (setData data ranch) := by
  rw [createBredFoal, bind_apply, get_apply]
  dsimp only
  generalize (if bonus.type = 1 then bonus.value.toUInt32 else 0) = gradeBonus
  cases DataDirector.horseStorage.fresh lookups.foal ranch.data with
  | none => exact .inr ⟨_, ranch.data, rfl⟩
  | some uid =>
    dsimp only
    cases lookups.genetics gradeBonus { uid := uid } with
    | error left => exact .inr ⟨_, _, rfl⟩
    | ok foal => exact .inl ⟨_, _, rfl⟩

/-- A successful roll leaves the contexts alone, whether the foal is born or not. -/
theorem breed_contexts {lookups : TryBreedingLookups} {stallion : Horse}
    (h : succeeds registry lookups stallion = true) (client : ClientId) (context : ClientContext)
    (command : TryBreeding) (registration : StallionData) (ranch : Ranch) :
    ((breed registry lookups client context command stallion registration).final ranch).contexts =
        ranch.contexts ∧
      (breed registry lookups client context command stallion registration).returned ranch ≠
        some (.cancel .showBreedingFailureCards) := by
  have hroll : lookups.successRoll ≤ calculateBreedingSuccessRate registry stallion.grade
      stallion.breedingCount (bonusOf registry lookups stallion) := of_decide_eq_true h
  rw [breed, final, returned]
  rw [bonusOf] at hroll
  rw [if_pos hroll, bind_apply]
  obtain ⟨foalUid, data, hborn⟩ | ⟨failure, data, hborn⟩ := createBredFoal_data lookups
    (rollBreedingBonus registry lookups.activationRoll lookups.selected stallion.grade) ranch
  · rw [hborn]
    refine ⟨rfl, ?_⟩
    intro hfailed
    cases hfailed
  · rw [hborn]
    refine ⟨rfl, ?_⟩
    intro hfailed
    cases hfailed

theorem kept_tryBreeding (h : Kept counter) (client : ClientId) (command : TryBreeding)
    (lookups : TryBreedingLookups) :
    Kept (cardStep registry counter (.tryBreeding client command lookups)) := by
  cases hattempt : attemptOf lookups client command counter.ranch with
  | none =>
    obtain ⟨contexts, hsame, hhandle⟩ := attempt_refused registry hattempt
    refine h.of_sameCards ?_ ?_
    · rw [eventOf, hattempt]
      exact ite_self none
    · rw [breedingStep]
      obtain ⟨reply, hhandle, -⟩ | ⟨failure, hhandle⟩ := hhandle
      · rw [final_ok hhandle]
        exact hsame
      · rw [final_error hhandle]
        exact hsame
  | some attempt =>
    obtain ⟨hcontext, -, -, -, hhandle⟩ := attempt_found registry hattempt
    cases hroll : succeeds registry lookups attempt.stallion with
    | true =>
      obtain ⟨hcontexts, hreply⟩ := breed_contexts hroll client
        { attempt.context with tryBreedingDeferAttempts := 0 } command attempt.registration
          (charged client attempt counter.ranch)
      refine h.of_sameCards ?_ ?_
      · rw [eventOf, returned, hhandle]
        exact if_neg hreply
      · rw [breedingStep, final, hhandle]
        exact hcontexts.symm ▸ sameCards_setContext hcontext 0
    | false =>
      have hfails := hhandle.trans (breed_fails hroll)
      refine h.of_event client (.failed attempt.registration.breedingCharge)
        { attempt.context with
          hasPendingFailureCard := true
          pendingFailureCardSpend := attempt.registration.breedingCharge
          tryBreedingDeferAttempts := 0 } ?_ ?_ ?_ ?_
      · rw [eventOf, returned_ok hfails, if_pos rfl, hattempt]
        rfl
      · rw [breedingStep, final_ok hfails]
        exact update_idem _ _ _
      · intro card hcard
        cases hcard
        refine ⟨rfl, rfl, ?_⟩
        intro type htype
        cases htype
      · intro hpaid
        cases hpaid

theorem kept_failureCard (h : Kept counter) (client : ClientId) (cardRoll : Int32) :
    Kept (cardStep registry counter (.failureCard client cardRoll)) := by
  cases hcontext : counter.ranch.contexts client with
  | none =>
    have hhandle : handleBreedingFailureCard registry cardRoll client counter.ranch =
        .error (.thrown "Ranch client is not available") counter.ranch := by
      rw [handleBreedingFailureCard, bind_apply, getClientContext_none hcontext]
    refine h.of_sameCards ?_ ?_
    · rw [eventOf, returned_error hhandle]
      rfl
    · rw [breedingStep, final_error hhandle]
      exact fun _ => rfl
  | some context =>
    cases hpending : context.hasPendingFailureCard with
    | false =>
      have hhandle : handleBreedingFailureCard registry cardRoll client counter.ranch =
          .ok none counter.ranch := by
        rw [handleBreedingFailureCard, bind_apply, getClientContext_some hcontext]
        dsimp only
        rw [if_pos (by rw [hpending]; rfl)]
        rfl
      refine h.of_sameCards ?_ ?_
      · rw [eventOf, returned_ok hhandle]
        rfl
      · rw [breedingStep, final_ok hhandle]
        exact fun _ => rfl
    | true =>
      have hhandle : ∃ type, handleBreedingFailureCard registry cardRoll client counter.ranch =
          .ok (some type) (setContext client { context with pendingCardType := type }
            counter.ranch) := by
        rw [handleBreedingFailureCard, bind_apply, getClientContext_some hcontext]
        dsimp only
        rw [if_neg (by rw [hpending]; exact Bool.false_ne_true)]
        exact ⟨_, rfl⟩
      obtain ⟨type, hhandle⟩ := hhandle
      refine h.of_event client (.rolled type) { context with pendingCardType := type } ?_ ?_ ?_ ?_
      · rw [eventOf, returned_ok hhandle]
        rfl
      · rw [breedingStep, final_ok hhandle]
        rfl
      · intro card hcard
        obtain ⟨before, howed, rfl⟩ := Option.map_eq_some_iff.1 hcard
        obtain ⟨found, hfound, hholds⟩ := h.cards client before howed
        cases hcontext.symm.trans hfound
        exact ⟨hholds.pending, hholds.spend, fun other hother => Option.some.inj hother⟩
      · intro hpaid
        cases hpaid

variable (registry) in
/-- A choice that finds no character throws and changes nothing. -/
theorem choose_unrewarded {lookups : ChooseLookups} {client : ClientId} {ranch : Ranch}
    (h : rewarded lookups client ranch = false) :
    ∃ failure, handleBreedingFailureCardChoose registry lookups client ranch = .error failure ranch := by
  rw [rewarded] at h
  cases hcontext : ranch.contexts client with
  | none =>
    refine ⟨.thrown "Ranch client is not available", ?_⟩
    rw [handleBreedingFailureCardChoose, bind_apply, getClientContext_none hcontext]
  | some context =>
    rw [hcontext, Option.any_some] at h
    refine ⟨.thrown "Value of the record is unavailable", ?_⟩
    have hcharacter : characterStorage.find lookups.character context.characterUid ranch.data = none :=
      Option.isNone_iff_eq_none.1 (Option.isSome_eq_false_iff.1 h)
    rw [handleBreedingFailureCardChoose, bind_apply, getClientContext_some hcontext]
    dsimp only
    rw [bind_apply, zoom, Storage.access, hcharacter]
    rfl

variable (registry) in
/-- A choice changes the context of its client only. -/
theorem choose_contexts (lookups : ChooseLookups) {client : ClientId} {ranch : Ranch}
    {context : ClientContext} (h : ranch.contexts client = some context) :
    ∃ next, ((handleBreedingFailureCardChoose registry lookups client).final ranch).contexts =
      update ranch.contexts client (some next) := by
  have hsame : update ranch.contexts client (some context) = ranch.contexts := by
    rw [← h]
    exact update_eq_self client _
  rw [handleBreedingFailureCardChoose, final_bind, getClientContext_some h]
  dsimp only
  rw [final_zoom_bind]
  split
  · rw [final_bind, get_apply]
    dsimp only
    split
    · exact ⟨context, hsame.symm⟩
    · exact ⟨_, rfl⟩
  · exact ⟨context, hsame.symm⟩

theorem kept_choose (h : Kept counter) (client : ClientId) (lookups : ChooseLookups)
    (hentitled : Entitled counter (.choose client lookups)) :
    Kept (cardStep registry counter (.choose client lookups)) := by
  cases hrewarded : rewarded lookups client counter.ranch with
  | false =>
    obtain ⟨failure, hhandle⟩ := choose_unrewarded registry hrewarded
    refine h.of_sameCards ?_ ?_
    · rw [eventOf, hrewarded]
      rfl
    · rw [breedingStep, final_error hhandle]
      exact fun _ => rfl
  | true =>
    obtain ⟨context, hcontext, -⟩ := (Option.any_eq_true _ _).1 hrewarded
    obtain ⟨next, hnext⟩ := choose_contexts registry lookups hcontext
    obtain ⟨type, htype⟩ := Option.isSome_iff_exists.1 (hentitled hrewarded)
    obtain ⟨card, howed, -⟩ := Option.bind_eq_some_iff.1 htype
    refine h.of_event client .paid next ?_ hnext ?_ ?_
    · rw [eventOf, if_pos hrewarded]
    · intro card hcard
      cases hcard
    · intro _
      rw [howed]
      rfl

theorem kept_step (counter : Counter) (input : BreedingInput) (h : Kept counter)
    (hentitled : Entitled counter input) : Kept (cardStep registry counter input) := by
  cases input with
  | tryBreeding client command lookups => exact kept_tryBreeding h client command lookups
  | failureCard client cardRoll => exact kept_failureCard h client cardRoll
  | choose client lookups => exact kept_choose h client lookups hentitled
  | register characterUid horseUid breedingFee lookups => exact h.of_sameCards rfl fun _ => rfl
  | unregister characterUid horseUid lookups => exact h.of_sameCards rfl fun _ => rfl
  | expirationCheck lookups available now => exact h.of_sameCards rfl fun _ => rfl

/-- A choice is compensated exactly if it is entitled. -/
theorem Kept.entitled_iff (counter : Counter) (input : BreedingInput) (h : Kept counter) :
    Entitled counter input ↔ Compensates registry counter input := by
  constructor
  · intro hentitled
    have hafter : Kept (cardStep registry counter input) := kept_step counter input h hentitled
    refine ⟨?_, fun client => (Nat.le_add_right _ _).trans (hafter.fair client)⟩
    cases input with
    | choose client lookups =>
      refine ⟨fun hrewarded => ?_, fun howed => ?_⟩
      · obtain ⟨type, htype⟩ := Option.isSome_iff_exists.1 (hentitled hrewarded)
        obtain ⟨card, howed, hrolled⟩ := Option.bind_eq_some_iff.1 htype
        obtain ⟨context, hcontext, hholds⟩ := h.cards client card howed
        refine ⟨context, card, type, hcontext, howed, hrolled, ?_⟩
        rw [← hholds.spend, ← hholds.rolled type hrolled]
        exact choose_data hcontext
      · have hunrewarded : rewarded lookups client counter.ranch = false := by
          by_contra hrewarded
          have hcard := hentitled (Bool.eq_true_of_not_eq_false hrewarded)
          rw [howed] at hcard
          cases hcard
        obtain ⟨failure, hhandle⟩ := choose_unrewarded registry hunrewarded
        exact ⟨congrArg (fun ranch : Ranch => ranch.data) (final_error hhandle),
          returned_error hhandle⟩
    | _ => trivial
  · intro hcompensates
    cases input with
    | choose client lookups =>
      intro hrewarded
      obtain ⟨context, card, type, -, howed, hrolled, -⟩ := hcompensates.1.1 hrewarded
      rw [howed]
      exact Option.isSome_iff_exists.2 ⟨type, hrolled⟩
    | _ => trivial

end Steps

variable (registry) in
/-- In a run of clients that have just logged in, every choice is compensated exactly if each choice
that pays comes with a card that was rolled. -/
theorem failure_cards (market : Market) (clients : ClientId → Option Uid)
    (inputs : List BreedingInput) :
    Guarded (cardStep registry) Entitled (Counter.opened market clients) inputs ↔
      Guarded (cardStep registry) (Compensates registry) (Counter.opened market clients) inputs :=
  guarded_congr kept_step Kept.entitled_iff (kept_opened market clients)

/-- A market without stallions, and a character. -/
def tavern : Market where
  data := { characters := fun uid => if uid = 2 then some { uid := 2 } else none }

/-- A registry with a single entry in the table of the cards. -/
def deck : BreedingRegistry where
  failureCardProbs := [{ moneySpent := 40000, probA := 60, probB := 30, probC := 10 }]

/-- A reward without a failed breeding. -/
theorem reward_of_no_card : ¬Guarded (cardStep deck) (Compensates deck)
    (Counter.opened tavern fun client => if client = 5 then some 2 else none)
      [.choose 5 { item := { created := some 40 } }] := by
  intro h
  have hle := h.1.2 5
  exact absurd hle (by decide +kernel)

end Alicia.Breeding
