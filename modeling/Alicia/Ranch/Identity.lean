import Alicia.Ranch.Commands
import Mathlib.Data.List.Induction

/-!
# The identity of a ranch client

A client acts for a character whose one-time code it has presented on the same connection.  The code is looked at only until
the client is authenticated, and the character is taken from each entry; a client whose code is right is authenticated even
if it may not enter.  An entry that was deferred is one that arrives again.
-/

namespace Alicia.Ranch

open Transition Effect Data Registry Possession Function Breeding Keeps OtpSystem
open DataDirector (characterStorage)

variable (registry : BreedingRegistry)

/-! ## Codes that were presented -/

/-- A code was granted for the key and has waited since, without having been used. -/
def WasGranted (start : Director) (inputs : List Input) (key : UInt64) (granted : OtpSystem.Code) : Prop :=
  ∃ before now after, inputs = before ++ .grantCode key now granted.code :: after ∧
    granted.expiry = now + OtpSystem.lifetime ∧
    ∀ middle, middle <+: after →
      (run (step registry) start (before ++ .grantCode key now granted.code :: middle)).otpSystem.codes key = some granted

/-- A client that is not authenticated presents the code of a character in time. -/
structure Presents (director : Director) (client : ClientId) (command : EnterRanch) (now : Nat)
    (granted : OtpSystem.Code) : Prop where
  waits : director.otpSystem.codes command.characterUid.toUInt64 = some granted
  unexpired : now ≤ granted.expiry
  right : granted.code = command.otp
  unauthenticated : ∃ context, director.contexts client = some context ∧ context.isAuthenticated = false

/-- The client has presented a code that was granted for the character, and has stayed connected since. -/
def HasPresented (start : Director) (inputs : List Input) (client : ClientId) (characterUid : Uid) : Prop :=
  ∃ before command lookups after granted, inputs = before ++ .enterRanch client command lookups :: after ∧
    command.characterUid = characterUid ∧
    Presents (run (step registry) start before) client command lookups.now granted ∧
    WasGranted registry start before characterUid.toUInt64 granted ∧ .disconnect client ∉ after

/-- Every authenticated client acts for a character whose code it has presented. -/
def Identity (start : Director) (inputs : List Input) : Prop :=
  ∀ client context, (run (step registry) start inputs).contexts client = some context →
    context.isAuthenticated = true → HasPresented registry start inputs client context.characterUid

/-- The condition: an authenticated client that may enter names its own character, and a client whose code is right may
enter. -/
def EntryFits (director : Director) : Input → Prop
  | .enterRanch client command lookups => ∀ context ∈ director.contexts client,
      ∀ rancher ∈ characterStorage.cached lookups.rancher command.rancherUid director.data,
        isAuthorized lookups.now context command director = true →
          command.characterUid = context.characterUid ∨
            isRefused lookups context command director rancher = context.isAuthenticated
  | _ => True

variable {registry}

/-! ## Breeding keeps the characters of the clients -/

/-- The clients play the given characters. -/
def PlaysAs (uids : ClientId → Option Uid) (ranch : Breeding.Ranch) : Prop :=
  ∀ client, (ranch.contexts client).map Breeding.ClientContext.characterUid = uids client

def KeepsPlaying (uids : ClientId → Option Uid) (before after : Breeding.Ranch) : Prop :=
  PlaysAs uids before → PlaysAs uids after

section Breeding

variable {uids : ClientId → Option Uid} {client : ClientId} {context : Breeding.ClientContext}

instance : Std.Refl (KeepsPlaying uids) := ⟨fun _ h => h⟩

instance : IsTrans Breeding.Ranch (KeepsPlaying uids) := ⟨fun _ _ _ h hnext hbefore => hnext (h hbefore)⟩

theorem keeps_setContext (h : uids client = some context.characterUid) :
    Keeps (KeepsPlaying uids)
      (modify (setContext client context) : Effect Ranch Failure PUnit) := by
  refine .modify fun ranch hplays other => ?_
  by_cases hother : other = client
  · subst hother
    have hself : (setContext other context ranch).contexts other = some context := update_self ..
    rw [h, hself]
    rfl
  · have hkept : (setContext client context ranch).contexts other = ranch.contexts other :=
      update_of_ne hother ..
    rw [← hplays other, hkept]

/-- The records have nothing to do with the characters of the clients. -/
theorem keeps_setData (change : Ranch → DataDirector) :
    Keeps (KeepsPlaying uids)
      (modify fun ranch => setData (change ranch) ranch : Effect Ranch Failure PUnit) :=
  .modify fun _ hplays => hplays

theorem keeps_createBredFoal (lookups : TryBreedingLookups) (bonus : BreedingBonus) :
    Keeps (KeepsPlaying uids) (createBredFoal lookups bonus) := by
  refine .bind .get fun ranch => ?_
  split
  · exact .throw _
  · split
    · exact .bind (keeps_setData _) fun _ => .throw _
    · exact .bind (keeps_setData _) fun _ => .pure _

theorem keeps_breed (lookups : TryBreedingLookups) (command : TryBreeding) (stallion : Horse)
    (registration : StallionData) (h : uids client = some context.characterUid) :
    Keeps (KeepsPlaying uids)
      (breed registry lookups client context command stallion registration) := by
  unfold breed
  dsimp only
  split
  · refine .bind (keeps_createBredFoal _ _) fun foalUid => ?_
    refine .bind (keeps_setData _) fun _ => ?_
    exact .bind (keeps_setData _) fun _ => .pure _
  · refine .bind (keeps_setData _) fun _ => ?_
    exact .bind (keeps_setContext h) fun _ => .pure _

theorem keeps_payAndBreed (lookups : TryBreedingLookups) (command : TryBreeding) (stallion : Horse)
    (registration : StallionData) (h : uids client = some context.characterUid) :
    Keeps (KeepsPlaying uids)
      (payAndBreed registry lookups client context command stallion registration) := by
  refine .bind .get fun ranch => ?_
  split
  · exact .throw _
  · split
    · exact .pure _
    · exact .bind (keeps_setData _) fun _ => keeps_breed lookups command stallion registration h

theorem playsAs_tryBreeding (lookups : Breeding.TryBreedingLookups) (client : ClientId) (command : Breeding.TryBreeding) :
    Keeps (KeepsPlaying uids) (Breeding.handleTryBreeding registry lookups client command) := by
  intro ranch hplays
  cases hcontext : ranch.contexts client with
  | none =>
    rw [Breeding.handleTryBreeding, final_bind_error (Breeding.getClientContext_none hcontext)]
    exact hplays
  | some context =>
    have huid : uids client = some context.characterUid := by
      rw [← hplays client, hcontext]
      rfl
    rw [Breeding.handleTryBreeding, final_bind_ok (Breeding.getClientContext_some hcontext)]
    refine bind (R := KeepsPlaying uids) get (fun state => ?_) ranch hplays
    dsimp only
    split
    · split
      · exact bind (keeps_setContext huid) fun _ => pure _
      · refine bind (keeps_setContext huid) fun _ => ?_
        split
        · exact pure _
        · exact keeps_payAndBreed lookups command _ _ huid
    · exact bind (keeps_setContext huid) fun _ => pure _

end Breeding

/-! ## What a step does to codes and contexts -/

section Frames

variable {director : Director} {client : ClientId} {context : ClientContext}

/-- A client is as authenticated as another context, for the same character. -/
def ActsAs (context : ClientContext) (director : Director) (client : ClientId) : Prop :=
  ∃ old, director.contexts client = some old ∧ old.isAuthenticated = true ∧ old.characterUid = context.characterUid

theorem otpSystem_departed : (departed client context director).otpSystem = director.otpSystem := by
  unfold departed
  split <;> rfl

theorem contexts_departed : (departed client context director).contexts = director.contexts := by
  unfold departed
  split <;> rfl

theorem otpSystem_leave : ((handleRanchLeave client).final director).otpSystem = director.otpSystem := by
  rw [final_leave]
  cases ownContext client director with
  | none => rfl
  | some context => exact otpSystem_departed

theorem contexts_leave : ((handleRanchLeave client).final director).contexts = director.contexts := by
  rw [final_leave]
  cases ownContext client director with
  | none => rfl
  | some context => exact contexts_departed

theorem otpSystem_disconnect : ((handleClientDisconnected client).final director).otpSystem = director.otpSystem := by
  rw [final_disconnected]
  cases director.contexts client with
  | none => rfl
  | some context =>
    dsimp only
    split
    · exact otpSystem_departed
    · rfl

theorem contexts_disconnect (other : ClientId) : ((handleClientDisconnected client).final director).contexts other =
    if other = client then none else director.contexts other := by
  rw [final_disconnected]
  cases hcontext : director.contexts client with
  | none =>
    by_cases hother : other = client
    · rw [if_pos hother, hother]
      exact hcontext
    · rw [if_neg hother]
  | some context =>
    dsimp only
    have hkept : (if context.isAuthenticated = true then departed client context director else director).contexts =
        director.contexts := by
      split
      · exact contexts_departed
      · rfl
    rw [Director.contexts_setContext, hkept]
    exact update_apply ..

theorem otpSystem_tryBreeding {lookups : Breeding.TryBreedingLookups} {command : Breeding.TryBreeding} :
    ((handleTryBreeding registry lookups client command).final director).otpSystem = director.otpSystem := by
  rw [handleTryBreeding, final_own_bind]
  cases ownContext client director with
  | none => rfl
  | some context =>
    dsimp only
    rw [final_zoom_bind]
    cases Breeding.handleTryBreeding registry lookups client command director.breeding with
    | error failure ranch => rfl
    | ok reply ranch => cases reply <;> rfl

/-- Breeding changes no identity. -/
theorem actsAs_tryBreeding {lookups : Breeding.TryBreedingLookups} {command : Breeding.TryBreeding} {other : ClientId}
    (h : ((handleTryBreeding registry lookups client command).final director).contexts other = some context)
    (hauthenticated : context.isAuthenticated = true) : ActsAs context director other := by
  have hbreeding : ∀ ranch, KeepsPlaying (fun client => (director.breeding.contexts client).map
      Breeding.ClientContext.characterUid) director.breeding ranch →
        (director.withBreeding ranch).contexts other = some context → ActsAs context director other := by
    intro ranch hkeeps h
    have hplays := hkeeps (fun _ => rfl) other
    have h : ClientContext.withBreeding (director.contexts other) (ranch.contexts other) = some context := h
    cases hold : director.contexts other with
    | none =>
      rw [hold] at h
      cases h
    | some old =>
      rw [hold] at h
      cases hchanged : ranch.contexts other with
      | none =>
        rw [hchanged] at h
        cases h
        exact ⟨context, hold, hauthenticated, rfl⟩
      | some changed =>
        rw [hchanged] at h
        cases h
        rw [hchanged, Director.breeding] at hplays
        dsimp only at hplays hauthenticated
        rw [hold, Option.filter_some_pos hauthenticated] at hplays
        exact ⟨old, hold, hauthenticated, (Option.some_inj.1 hplays).symm⟩
  rw [handleTryBreeding, final_own_bind] at h
  cases hown : ownContext client director with
  | none =>
    rw [hown] at h
    exact ⟨context, h, hauthenticated, rfl⟩
  | some own =>
    rw [hown] at h
    dsimp only at h
    have hkeeps := fun uids => @playsAs_tryBreeding registry uids lookups client command director.breeding
    rw [final_zoom_bind] at h
    cases hresult : Breeding.handleTryBreeding registry lookups client command director.breeding with
    | error failure ranch =>
      simp only [final_error hresult] at hkeeps
      rw [hresult] at h
      exact hbreeding ranch (hkeeps _) h
    | ok reply ranch =>
      simp only [final_ok hresult] at hkeeps
      rw [hresult] at h
      cases reply <;> exact hbreeding ranch (hkeeps _) h

end Frames

section Entry

variable {lookups : EnterLookups} {client : ClientId} {context : ClientContext} {command : EnterRanch}
  {director : Director}

/-- A check never adds a code. -/
theorem codes_opened {key : UInt64} {granted : Code}
    (h : (opened lookups client context command director).otpSystem.codes key = some granted) :
    director.otpSystem.codes key = some granted := by
  have h : (authenticate lookups.now client context command director).otpSystem.codes key = some granted := h
  rw [authenticate] at h
  split at h
  · exact h
  · have h : (director.otpSystem.authorizeCode command.characterUid.toUInt64 lookups.now command.otp).2.codes key =
      some granted := h
    rw [authorizeCode] at h
    split at h
    · exact h
    · split at h
      · by_cases hkey : key = command.characterUid.toUInt64
        · subst hkey
          have h : update director.otpSystem.codes command.characterUid.toUInt64 none
            command.characterUid.toUInt64 = some granted := h
          rw [update_self] at h
          cases h
        · exact (update_of_ne hkey ..).symm.trans h
      · exact h

theorem codes_enterRanch {key : UInt64} {granted : Code}
    (h : ((handleEnterRanch lookups client command).final director).otpSystem.codes key = some granted) :
    director.otpSystem.codes key = some granted := by
  have houtcome := handleEnterRanch_outcome lookups client command director
  rw [Effect.final] at h
  generalize handleEnterRanch lookups client command director = result at h houtcome
  cases houtcome with
  | absent => exact h
  | unavailable => exact h
  | refused => exact codes_opened h
  | offline => exact codes_opened h
  | unknownEgg => exact codes_opened h
  | unpresentable => exact codes_opened h
  | deferred => exact codes_opened h
  | joined => exact codes_opened h

theorem contexts_opened (hcontext : director.contexts client = some context) (other : ClientId) :
    (opened lookups client context command director).contexts other =
      if other = client then
        some { context with isAuthenticated := isAuthorized lookups.now context command director }
      else director.contexts other := by
  have h : (opened lookups client context command director).contexts =
    (authenticate lookups.now client context command director).contexts := rfl
  rw [h, authenticate, isAuthorized]
  by_cases hauthenticated : context.isAuthenticated = true
  · rw [if_pos hauthenticated]
    split
    · next hother =>
        rw [hother, hcontext, hauthenticated, Bool.true_or, ← hauthenticated]
    · rfl
  · rw [if_neg hauthenticated, Bool.eq_false_iff.2 hauthenticated, Bool.false_or]
    exact update_apply ..

theorem contexts_entered (hcontext : director.contexts client = some context) (userName : Text) (other : ClientId) :
    (entered lookups client context command director userName).contexts other =
      if other = client then some (entering context command userName) else director.contexts other := by
  rw [entered, Director.contexts_setContext, update_apply, contexts_opened hcontext]
  split <;> rfl

/-- Another client stays who it is. -/
theorem contexts_enterRanch_of_ne {other : ClientId} (hother : other ≠ client) :
    ((handleEnterRanch lookups client command).final director).contexts other = director.contexts other := by
  have houtcome := handleEnterRanch_outcome lookups client command director
  have hentered {context : ClientContext} {userName : Text} (hcontext : director.contexts client = some context) :
      (entered lookups client context command director userName).contexts other = director.contexts other :=
    (contexts_entered hcontext userName other).trans (if_neg hother)
  rw [Effect.final]
  generalize handleEnterRanch lookups client command director = result at houtcome ⊢
  cases houtcome with
  | absent => rfl
  | unavailable => rfl
  | refused hcontext => exact (contexts_opened hcontext other).trans (if_neg hother)
  | offline hcontext => exact hentered hcontext
  | unknownEgg hcontext => exact hentered hcontext
  | unpresentable hcontext => exact hentered hcontext
  | deferred hcontext => exact hentered hcontext
  | joined hcontext => exact hentered hcontext

theorem presents_of_authorized (hcontext : director.contexts client = some context)
    (hunauthenticated : context.isAuthenticated = false)
    (h : isAuthorized lookups.now context command director = true) :
    ∃ granted, Presents director client command lookups.now granted := by
  rw [isAuthorized, hunauthenticated, Bool.false_or, authorizeCode] at h
  cases hcode : director.otpSystem.codes command.characterUid.toUInt64 with
  | none =>
    rw [hcode] at h
    cases h
  | some granted =>
    rw [hcode] at h
    dsimp only at h
    split at h
    · next hright => exact ⟨granted, hcode, hright.1, hright.2, context, hcontext, hunauthenticated⟩
    · cases h

/-- After an entry that fits, the client acts as before, or for the character whose code it has presented. -/
theorem acts_enterRanch (hfits : EntryFits director (.enterRanch client command lookups))
    (h : ((handleEnterRanch lookups client command).final director).contexts client = some context)
    (hauthenticated : context.isAuthenticated = true) :
    ActsAs context director client ∨ command.characterUid = context.characterUid ∧
      ∃ granted, Presents director client command lookups.now granted := by
  have houtcome := handleEnterRanch_outcome lookups client command director
  -- A client that may enter acts for the character that it names.
  have hentered {old : ClientContext} {userName : Text} {rancher : Character}
      (hold : director.contexts client = some old)
      (hrancher : characterStorage.cached lookups.rancher command.rancherUid director.data = some rancher)
      (hallowed : isRefused lookups old command director rancher = false)
      (hcontext : (entered lookups client old command director userName).contexts client = some context) :
      ActsAs context director client ∨ command.characterUid = context.characterUid ∧
        ∃ granted, Presents director client command lookups.now granted := by
    rw [contexts_entered hold, if_pos rfl] at hcontext
    cases hcontext
    have hauthorized : isAuthorized lookups.now old command director = true := by
      rw [isRefused, Bool.or_eq_false_iff, Bool.or_eq_false_iff, Bool.not_eq_false'] at hallowed
      exact hallowed.1.1
    cases hbefore : old.isAuthenticated with
    | false => exact .inr ⟨rfl, presents_of_authorized hold hbefore hauthorized⟩
    | true =>
      obtain hsame | hrefused := hfits old hold rancher hrancher hauthorized
      · exact .inl ⟨old, hold, hbefore, hsame.symm⟩
      · cases hallowed.symm.trans (hrefused.trans hbefore)
  rw [Effect.final] at h
  generalize handleEnterRanch lookups client command director = result at h houtcome
  cases houtcome with
  | absent => exact .inl ⟨context, h, hauthenticated, rfl⟩
  | unavailable => exact .inl ⟨context, h, hauthenticated, rfl⟩
  | @refused old rancher hold hrancher hrefused =>
    have h := (contexts_opened hold client).symm.trans h
    rw [if_pos rfl] at h
    cases h
    have hauthorized : isAuthorized lookups.now old command director = true := hauthenticated
    cases hbefore : old.isAuthenticated with
    | true => exact .inl ⟨old, hold, hbefore, rfl⟩
    | false =>
      obtain hsame | hallowed := hfits old hold rancher hrancher hauthorized
      · exact .inr ⟨hsame, presents_of_authorized hold hbefore hauthorized⟩
      · cases hrefused.symm.trans (hallowed.trans hbefore)
  | offline hold hrancher hallowed => exact hentered hold hrancher hallowed h
  | unknownEgg hold hrancher hallowed => exact hentered hold hrancher hallowed h
  | unpresentable hold hrancher hallowed => exact hentered hold hrancher hallowed h
  | deferred hold hrancher hallowed => exact hentered hold hrancher hallowed h
  | joined hold hrancher hallowed => exact hentered hold hrancher hallowed h

end Entry

/-! ## Runs -/

section Steps

variable {director : Director}

/-- A code that waits was there before, or is granted by the step. -/
theorem codes_step {input : Input} {key : UInt64} {granted : Code}
    (h : (step registry director input).otpSystem.codes key = some granted) :
    director.otpSystem.codes key = some granted ∨
      ∃ now, input = .grantCode key now granted.code ∧ granted.expiry = now + lifetime := by
  cases input with
  | connect client =>
    rw [step, handleClientConnected] at h
    cases hcontext : director.contexts client <;> rw [hcontext] at h <;> exact .inl h
  | disconnect client =>
    rw [step, otpSystem_disconnect] at h
    exact .inl h
  | grantCode other now code =>
    have h : update director.otpSystem.codes other (some ⟨now + lifetime, code⟩) key = some granted := h
    by_cases hkey : key = other
    · subst hkey
      rw [update_self] at h
      cases h
      exact .inr ⟨now, rfl, rfl⟩
    · rw [update_of_ne hkey] at h
      exact .inl h
  | enterRanch client command lookups => exact .inl (codes_enterRanch h)
  | leaveRanch client =>
    rw [step, otpSystem_leave] at h
    exact .inl h
  | tryBreeding client command lookups =>
    rw [step, otpSystem_tryBreeding] at h
    exact .inl h
  | purchase client horseUids =>
    rw [step, final_registerPurchasedHorses] at h
    cases hown : ownContext client director <;> rw [hown] at h <;> exact .inl h
  | returnToNature characterUid horseUid available =>
    rw [step, final_returnHorseToNature] at h
    cases hfind : DataDirector.characterStorage.find available characterUid director.data with
    | none =>
      rw [hfind] at h
      exact .inl h
    | some character =>
      rw [hfind] at h
      dsimp only at h
      split at h <;> exact .inl h
  | snapshot client command =>
    rw [step, final_handleSnapshot command.2] at h
    exact .inl h
  | change market => exact .inl h

/-- After a step that fits, a client acts as before and has not been disconnected, or it has presented its code. -/
theorem acts_step {input : Input} {client : ClientId} {context : ClientContext} (hfits : EntryFits director input)
    (h : (step registry director input).contexts client = some context) (hauthenticated : context.isAuthenticated = true) :
    ActsAs context director client ∧ input ≠ .disconnect client ∨
      ∃ command lookups granted, input = .enterRanch client command lookups ∧
        command.characterUid = context.characterUid ∧ Presents director client command lookups.now granted := by
  have hsame (h : director.contexts client = some context) : ActsAs context director client :=
    ⟨context, h, hauthenticated, rfl⟩
  cases input with
  | connect other =>
    refine .inl ⟨?_, nofun⟩
    rw [step, handleClientConnected] at h
    cases hold : director.contexts other with
    | some old =>
      rw [hold] at h
      exact hsame h
    | none =>
      rw [hold] at h
      have h : update director.contexts other (some {}) client = some context := h
      by_cases hother : client = other
      · subst hother
        rw [update_self] at h
        cases h
        cases hauthenticated
      · rw [update_of_ne hother] at h
        exact hsame h
  | disconnect other =>
    rw [step, contexts_disconnect] at h
    split at h
    · cases h
    · next hother => exact .inl ⟨hsame h, fun heq => hother (Input.disconnect.inj heq).symm⟩
  | grantCode key now code => exact .inl ⟨hsame h, nofun⟩
  | enterRanch other command lookups =>
    by_cases hother : client = other
    · subst hother
      obtain hacts | ⟨huid, granted, hpresents⟩ := acts_enterRanch hfits h hauthenticated
      · exact .inl ⟨hacts, nofun⟩
      · exact .inr ⟨command, lookups, granted, rfl, huid, hpresents⟩
    · rw [step, contexts_enterRanch_of_ne hother] at h
      exact .inl ⟨hsame h, nofun⟩
  | leaveRanch other =>
    rw [step, contexts_leave] at h
    exact .inl ⟨hsame h, nofun⟩
  | tryBreeding other command lookups => exact .inl ⟨actsAs_tryBreeding h hauthenticated, nofun⟩
  | purchase other horseUids =>
    refine .inl ⟨?_, nofun⟩
    rw [step, final_registerPurchasedHorses] at h
    cases hown : ownContext other director <;> rw [hown] at h <;> exact hsame h
  | returnToNature characterUid horseUid available =>
    refine .inl ⟨?_, nofun⟩
    rw [step, final_returnHorseToNature] at h
    cases hfind : DataDirector.characterStorage.find available characterUid director.data with
    | none =>
      rw [hfind] at h
      exact hsame h
    | some character =>
      rw [hfind] at h
      dsimp only at h
      split at h <;> exact hsame h
  | snapshot other command =>
    rw [step, final_handleSnapshot command.2] at h
    exact .inl ⟨hsame h, nofun⟩
  | change market => exact .inl ⟨hsame h, nofun⟩

end Steps

section Runs

variable {start : Director} {inputs : List Input}

/-- The codes that wait have been granted. -/
def CodesGranted (registry : BreedingRegistry) (start : Director) (inputs : List Input) : Prop :=
  ∀ key granted, (run (step registry) start inputs).otpSystem.codes key = some granted →
    WasGranted registry start inputs key granted

theorem run_snoc (input : Input) :
    run (step registry) start (inputs ++ [input]) = step registry (run (step registry) start inputs) input := by
  rw [run_append]
  rfl

theorem codesGranted_snoc (h : CodesGranted registry start inputs) (input : Input) :
    CodesGranted registry start (inputs ++ [input]) := by
  intro key granted hcode
  rw [run_snoc] at hcode
  obtain hbefore | ⟨now, rfl, hexpiry⟩ := codes_step hcode
  · obtain ⟨before, now, after, rfl, hexpiry, hwaits⟩ := h key granted hbefore
    refine ⟨before, now, after ++ [input], by simp, hexpiry, fun middle hmiddle => ?_⟩
    obtain rfl | hmiddle := List.prefix_concat_iff.1 hmiddle
    · rw [← List.cons_append, ← List.append_assoc, run_snoc]
      exact hcode
    · exact hwaits middle hmiddle
  · refine ⟨inputs, now, [], rfl, hexpiry, fun middle hmiddle => ?_⟩
    rw [List.prefix_nil.1 hmiddle, run_snoc]
    exact hcode

theorem identity_snoc (hcodes : CodesGranted registry start inputs) (h : Identity registry start inputs) {input : Input}
    (hfits : EntryFits (run (step registry) start inputs) input) : Identity registry start (inputs ++ [input]) := by
  intro client context hcontext hauthenticated
  rw [run_snoc] at hcontext
  obtain ⟨⟨old, hold, hbefore, huid⟩, hconnected⟩ | ⟨command, lookups, granted, rfl, huid, hpresents⟩ :=
    acts_step hfits hcontext hauthenticated
  · obtain ⟨before, command, lookups, after, granted, rfl, hcommand, hpresents, hgranted, hafter⟩ :=
      h client old hold hbefore
    refine ⟨before, command, lookups, after ++ [input], granted, by simp, hcommand.trans huid, hpresents, ?_, ?_⟩
    · rw [← huid]
      exact hgranted
    · rw [List.mem_append, List.mem_singleton]
      exact fun hmem => hmem.elim hafter fun heq => hconnected heq.symm
  · refine ⟨inputs, command, lookups, [], granted, rfl, huid, hpresents, ?_, List.not_mem_nil⟩
    rw [← huid]
    exact hcodes _ _ hpresents.waits

theorem identity_of_fits (h : Guarded (step registry) EntryFits {} inputs) :
    CodesGranted registry {} inputs ∧ Identity registry {} inputs := by
  induction inputs using List.reverseRecOn with
  | nil =>
    refine ⟨fun key granted hcode => ?_, fun client context hcontext => ?_⟩
    · cases hcode
    · cases hcontext
  | append_singleton before input ih =>
    obtain ⟨hbefore, hfits, -⟩ := guarded_append.1 h
    obtain ⟨hcodes, hidentity⟩ := ih hbefore
    exact ⟨codesGranted_snoc hcodes input, identity_snoc hcodes hidentity hfits⟩

end Runs

/-- In every run whose entries fit, a client that is authenticated acts for a character whose code it has presented. -/
theorem ranch_identity (registry : BreedingRegistry) (inputs : List Input)
    (hfits : Guarded (step registry) EntryFits {} inputs) : Identity registry {} inputs :=
  (identity_of_fits hfits).2

/-- Two ranchers. -/
def stables : Breeding.Market := {
  data := { characters := fun uid => if uid = 5 ∨ uid = 6 then some { uid := uid } else none } }

/-- The client 1 enters the ranch of the character 5 with its code. -/
def admission : List Input := [.change stables, .connect 1, .grantCode 5 0 77,
  .enterRanch 1 { rancherUid := 5, characterUid := 5, otp := 77 } {}]

theorem ranch_identity_admission : Identity {} {} admission := by
  refine ranch_identity {} admission ⟨trivial, trivial, trivial, ?_, trivial⟩
  rintro context ⟨⟩ rancher ⟨⟩ -
  exact .inr (by decide +kernel)

/-- A client that is authenticated enters as another character, without a code of it. -/
theorem entry_changes_character : ¬Identity {} {}
    (admission ++ [.enterRanch 1 { rancherUid := 5, characterUid := 6 } {}]) := by
  intro h
  have hplays : ((run (step {}) {} (admission ++ [.enterRanch 1 { rancherUid := 5, characterUid := 6 } {}])).contexts 1).map
      (fun context => (context.characterUid, context.isAuthenticated)) = some (6, true) := by decide +kernel
  obtain ⟨context, hcontext, hsame⟩ := Option.map_eq_some_iff.1 hplays
  obtain ⟨huid, hauthenticated⟩ := Prod.mk.inj hsame
  obtain ⟨before, command, lookups, after, granted, hsplit, hcommand, hpresents, -⟩ :=
    h 1 context hcontext hauthenticated
  rw [huid] at hcommand
  -- The last entry alone is for the character 6, and then the client is authenticated already.
  rcases before with _ | ⟨_, _ | ⟨_, _ | ⟨_, _ | ⟨_, _ | ⟨_, before⟩⟩⟩⟩⟩
  · cases hsplit
  · cases hsplit
  · cases hsplit
  · cases hsplit
    exact absurd hcommand (by decide)
  · cases hsplit
    obtain ⟨own, hown, hunauthenticated⟩ := hpresents.unauthenticated
    have hbefore : ((run (step {}) {} admission).contexts 1).map ClientContext.isAuthenticated = some true := by
      decide +kernel
    have hown : (run (step {}) {} admission).contexts 1 = some own := hown
    rw [hown, Option.map_some, hunauthenticated] at hbefore
    cases hbefore
  · have hlength := congrArg List.length hsplit
    simp [admission] at hlength

end Alicia.Ranch
