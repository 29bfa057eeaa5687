import Alicia.Collection.Rosters
import Alicia.Ranch.Identity

/-!
# The members of a ranch

A client's current ranch is the one that its context names, from an entry that was not refused until the client leaves or
disconnects.  The clients and the tracker of a ranch are its rosters: of the clients whose current ranch it is, and of the
characters they play.
-/

namespace Alicia.Ranch

open Std (ExtTreeMap ExtTreeSet)
open Collection Transition Effect Data Registry Possession Function Breeding Director
open DataDirector (characterStorage)

/-! ## Current ranches -/

/-- The director, with the clients that have entered a ranch and not left since. -/
structure Presence where
  director : Director
  isPresent : ClientId → Bool := fun _ => false

/-- The rancher of an entry that is not refused. -/
def admits (lookups : EnterLookups) (client : ClientId) (command : EnterRanch) (director : Director) :
    Option Character :=
  match director.contexts client, characterStorage.cached lookups.rancher command.rancherUid director.data with
  | some context, some rancher => if isRefused lookups context command director rancher then none else some rancher
  | _, _ => none

def Presence.step (registry : BreedingRegistry) (presence : Presence) (input : Input) : Presence where
  director := Ranch.step registry presence.director input
  isPresent := match input with
    | .enterRanch client command lookups =>
      if (admits lookups client command presence.director).isSome then
        update presence.isPresent client true
      else presence.isPresent
    | .leaveRanch client => update presence.isPresent client false
    | .disconnect client => update presence.isPresent client false
    | _ => presence.isPresent

/-- The ranch that the context of an authenticated client names, and the character of the client. -/
def Director.visit? (director : Director) (client : ClientId) : Option (Uid × Uid) :=
  (ownContext client director).map fun context => (context.visitingRancherUid, context.characterUid)

/-- The current ranch of a client, and the character it plays. -/
def Presence.visit (presence : Presence) (client : ClientId) : Option (Uid × Uid) :=
  if presence.isPresent client then presence.director.visit? client else none

def Presence.rosters (presence : Presence) : Rosters Uid ClientId Uid where
  members rancherUid := { client | client ∈ (presence.director.ranch rancherUid).clients }
  roles rancherUid := { character | character ∈ (presence.director.ranch rancherUid).tracker.characters }
  visit := presence.visit

/-- A client is in a ranch exactly if it is its current one, a character is tracked exactly if such a client plays it,
and no ranch holds too many clients. -/
structure Consistent (presence : Presence) : Prop where
  agrees : presence.rosters.Agrees
  bounded : ∀ rancherUid, (presence.director.ranch rancherUid).clients.size ≤ maxRanchCharacterCount

/-! ## The condition -/

/-- The entry gets as far as the tracker. -/
def reachesTracker (lookups : EnterLookups) (director : Director) (rancher : Character) : Bool :=
  lookups.userName.isSome && eggsKnown lookups rancher director.data

/-- What the ranch tracks then is available, so that the entry gets to its end. -/
def reachesEnd (lookups : EnterLookups) (command : EnterRanch) (director : Director) (rancher : Character) : Bool :=
  reachesTracker lookups director rancher &&
    isPresentable lookups command.rancherUid (tracked command director rancher) &&
    horsesAvailable lookups director.data ((tracked command director rancher).ranch command.rancherUid).tracker

/-- The condition for an entry that is not refused: it gets to its end, or the client and its character are in the ranch
already; the client moves from no other ranch, and from no other character that nobody else plays; and there is room. -/
structure EntersWell (presence : Presence) (lookups : EnterLookups) (client : ClientId) (command : EnterRanch)
    (rancher : Character) : Prop where
  joins : reachesEnd lookups command presence.director rancher ∨
    client ∈ (presence.director.ranch command.rancherUid).clients
  tracks : reachesTracker lookups presence.director rancher ∨
    command.characterUid ∈ (presence.director.ranch command.rancherUid).tracker.characters
  stays : presence.rosters.Stays command.rancherUid client command.characterUid
  room : client ∈ (presence.director.ranch command.rancherUid).clients ∨
    (presence.director.ranch command.rancherUid).clients.size < maxRanchCharacterCount

/-- The condition: an entry is as above, and a client that leaves shares its character on the ranch with no other. -/
def MovesWell (presence : Presence) : Input → Prop
  | .enterRanch client command lookups => ∀ rancher ∈ admits lookups client command presence.director,
      EntersWell presence lookups client command rancher
  | .leaveRanch client => ∀ visit ∈ presence.director.visit? client, ¬presence.rosters.Shares client visit
  | .disconnect client => ∀ visit ∈ presence.director.visit? client, ¬presence.rosters.Shares client visit
  | _ => True

variable {character other : Uid}

/-! ## What a step does to ranches and visits -/

section Frames

variable {director : Director} {client : ClientId}

variable {objects : List RanchTracker.Object}

theorem mem_addAll {tracker : RanchTracker} :
    character ∈ (tracker.addAll objects).characters ↔
      character ∈ tracker.characters ∨ .character character ∈ objects := by
  rw [ExtTreeMap.mem_iff_isSome_getElem?, ExtTreeMap.mem_iff_isSome_getElem?]
  exact RanchTracker.isSome_oid?_addAll objects (.character character)

theorem mem_addObjects {rancherUid : Uid} :
    character ∈ ((director.addObjects rancherUid objects).ranch other).tracker.characters ↔
      character ∈ (director.ranch other).tracker.characters ∨
        other = rancherUid ∧ .character character ∈ objects := by
  rw [tracker_addObjects]
  split
  · next h =>
      subst h
      simp [mem_addAll]
  · next h => simp [h]

theorem clients_addObjects {rancherUid : Uid} :
    ((director.addObjects rancherUid objects).ranch other).clients = (director.ranch other).clients := by
  rw [ranch_addObjects]
  split
  · next h => rw [h]
  · rfl

theorem visit?_congr {after : Director} (h : after.contexts client = director.contexts client) :
    after.visit? client = director.visit? client := by
  rw [visit?, visit?, ownContext, ownContext, h]

/-- A step that moves nobody: the ranches hold the same clients and characters, and visits go on. -/
structure Quiet (before after : Director) : Prop where
  clients : ∀ rancherUid, (after.ranch rancherUid).clients = (before.ranch rancherUid).clients
  characters : ∀ rancherUid character, character ∈ (after.ranch rancherUid).tracker.characters ↔
    character ∈ (before.ranch rancherUid).tracker.characters
  visits : ∀ client, (before.visit? client).isSome = true → after.visit? client = before.visit? client

theorem Quiet.refl (director : Director) : Quiet director director :=
  ⟨fun _ => rfl, fun _ _ => Iff.rfl, fun _ _ => rfl⟩

theorem Quiet.addHorses {after : Director} (h : Quiet director after) (rancherUid : Uid) (horseUids : List Uid) :
    Quiet director (after.addObjects rancherUid (horseUids.map .horse)) := by
  refine ⟨fun other => clients_addObjects.trans (h.clients other), fun other character => ?_, h.visits⟩
  rw [mem_addObjects, ← h.characters]
  simp

end Frames

/-! ## Entries -/

section Entering

variable {lookups : EnterLookups} {client : ClientId} {context : ClientContext} {command : EnterRanch}
  {director : Director} {rancher : Character}

theorem admits_eq_some : admits lookups client command director = some rancher ↔
    ∃ context, director.contexts client = some context ∧
      characterStorage.cached lookups.rancher command.rancherUid director.data = some rancher ∧
        isRefused lookups context command director rancher = false := by
  unfold admits
  split
  · next context found hcontext hfound =>
      rw [hcontext, hfound]
      by_cases hrefused : isRefused lookups context command director found = true
      · simp only [hrefused]
        grind
      · simp only [hrefused]
        grind
  · next hnone =>
      constructor
      · nofun
      · rintro ⟨context, hcontext, hrancher, -⟩
        exact absurd hrancher (hnone context rancher hcontext)

theorem final_admitClient : (admitClient lookups client command rancher).final director =
    if eggsKnown lookups rancher director.data then
      if isPresentable lookups command.rancherUid (tracked command director rancher) &&
          horsesAvailable lookups director.data ((tracked command director rancher).ranch command.rancherUid).tracker then
        joined (tracked command director rancher) client command.rancherUid
      else tracked command director rancher
    else housed command director rancher := by
  have happly := @admitClient_apply lookups client command director rancher
  by_cases heggs : eggsKnown lookups rancher director.data = true
  · rw [Effect.final, happly, if_pos heggs, if_pos heggs]
    exact final_join rancher
  · rw [if_neg heggs] at happly ⊢
    exact final_error happly

theorem ranch_tracked_entered (userName : Text) (other : Uid) :
    (tracked command (entered lookups client context command director userName) rancher).ranch other =
      (tracked command director rancher).ranch other := by
  simp only [tracked, housed, ranch_addObjects, ranch_entered]

/-- What becomes of an entry that is not refused. -/
theorem final_admitted (h : admits lookups client command director = some rancher) :
    ∃ context userName, director.contexts client = some context ∧
      (handleEnterRanch lookups client command).final director =
        if lookups.userName.isSome then
          (admitClient lookups client command rancher).final
            (entered lookups client context command director userName)
        else entered lookups client context command director userName := by
  obtain ⟨context, hcontext, hrancher, hallowed⟩ := admits_eq_some.1 h
  have happly := @handleEnterRanch_apply lookups client context command director rancher hcontext hrancher
  rw [hallowed, if_neg Bool.false_ne_true] at happly
  cases huser : lookups.userName with
  | none =>
    rw [huser] at happly
    exact ⟨context, context.userName, hcontext, final_error happly⟩
  | some userName =>
    rw [huser] at happly
    refine ⟨context, userName, hcontext, ?_⟩
    rw [Effect.final, happly]
    rfl

theorem contexts_admitClient :
    ((admitClient lookups client command rancher).final director).contexts = director.contexts := by
  rw [final_admitClient]
  split
  · split
    · rfl
    · rfl
  · rfl

/-- The visit of a client that was not refused is the one of its command. -/
theorem visit?_enterRanch (h : admits lookups client command director = some rancher) :
    ((handleEnterRanch lookups client command).final director).visit? client =
      some (command.rancherUid, command.characterUid) := by
  obtain ⟨context, userName, hcontext, hfinal⟩ := final_admitted h
  have hcontexts : ((handleEnterRanch lookups client command).final director).contexts client =
      some (entering context command userName) := by
    rw [hfinal]
    split
    · rw [contexts_admitClient, contexts_entered hcontext, if_pos rfl]
    · rw [contexts_entered hcontext, if_pos rfl]
  rw [visit?, ownContext, hcontexts]
  rfl

theorem ranch_joined (other : Uid) : (joined director client command.rancherUid).ranch other =
    if other = command.rancherUid then { director.ranch command.rancherUid with
      clients := (director.ranch command.rancherUid).clients.insert client }
    else director.ranch other := ranch_setRanch ..

/-- The ranches do not depend on the contexts. -/
theorem ranch_admitClient_entered (userName : Text) (other : Uid) :
    ((admitClient lookups client command rancher).final
      (entered lookups client context command director userName)).ranch other =
        ((admitClient lookups client command rancher).final director).ranch other := by
  have htracked := @ranch_tracked_entered lookups client context command director rancher userName
  have hdata : (tracked command (entered lookups client context command director userName) rancher).data =
      (tracked command director rancher).data := data_entered userName
  rw [final_admitClient, final_admitClient, data_entered, isPresentable, isPresentable, hdata, htracked]
  split
  · split
    · simp only [ranch_joined, htracked]
    · exact htracked other
  · simp only [housed, ranch_addObjects, ranch_entered]

theorem clients_admitClient (huser : lookups.userName.isSome = true) (other : Uid) :
    (((admitClient lookups client command rancher).final director).ranch other).clients =
      if other = command.rancherUid ∧ reachesEnd lookups command director rancher = true then
        (director.ranch other).clients.insert client
      else (director.ranch other).clients := by
  have htracked (other : Uid) : ((tracked command director rancher).ranch other).clients =
      (director.ranch other).clients := clients_addObjects.trans clients_addObjects
  rw [final_admitClient, reachesEnd, reachesTracker, huser, Bool.true_and]
  by_cases heggs : eggsKnown lookups rancher director.data = true
  · rw [if_pos heggs, heggs, Bool.true_and]
    split
    · next hend =>
        rw [ranch_joined]
        by_cases hother : other = command.rancherUid
        · rw [if_pos hother, if_pos ⟨hother, hend⟩, hother, htracked]
        · rw [if_neg hother, if_neg fun h => hother h.1, htracked]
    · next hend => rw [if_neg fun h => hend h.2, htracked]
  · rw [if_neg heggs, Bool.eq_false_iff.2 heggs]
    simp [housed, clients_addObjects]

theorem mem_admitClient (huser : lookups.userName.isSome = true) :
    character ∈ (((admitClient lookups client command rancher).final director).ranch other).tracker.characters ↔
      character ∈ (director.ranch other).tracker.characters ∨
        reachesTracker lookups director rancher = true ∧ other = command.rancherUid ∧
          character = command.characterUid := by
  have hjoined : ((joined (tracked command director rancher) client command.rancherUid).ranch other).tracker =
      ((tracked command director rancher).ranch other).tracker := by
    rw [ranch_joined]
    split
    · next h => rw [h]
    · rfl
  rw [final_admitClient, reachesTracker, huser, Bool.true_and]
  by_cases heggs : eggsKnown lookups rancher director.data = true
  · rw [if_pos heggs, heggs]
    have htracked : character ∈ ((tracked command director rancher).ranch other).tracker.characters ↔
        character ∈ (director.ranch other).tracker.characters ∨
          other = command.rancherUid ∧ character = command.characterUid := by
      rw [tracked, housed, mem_addObjects, mem_addObjects]
      simp
    split
    · rw [hjoined, htracked]
      simp
    · rw [htracked]
      simp
  · rw [if_neg heggs, Bool.eq_false_iff.2 heggs, housed, mem_addObjects]
    simp

/-- The client is among the clients of the ranch if its entry has reached the end. -/
theorem clients_enterRanch (h : admits lookups client command director = some rancher) (other : Uid) :
    (((handleEnterRanch lookups client command).final director).ranch other).clients =
      if other = command.rancherUid ∧ reachesEnd lookups command director rancher = true then
        (director.ranch other).clients.insert client
      else (director.ranch other).clients := by
  obtain ⟨context, userName, hcontext, hfinal⟩ := final_admitted h
  rw [hfinal]
  split
  · next huser => rw [ranch_admitClient_entered, clients_admitClient huser]
  · next huser =>
      rw [ranch_entered, reachesEnd, reachesTracker, Bool.eq_false_iff.2 huser]
      simp

/-- The character is tracked if the entry has reached the tracker. -/
theorem mem_enterRanch (h : admits lookups client command director = some rancher) :
    character ∈ (((handleEnterRanch lookups client command).final director).ranch other).tracker.characters ↔
      character ∈ (director.ranch other).tracker.characters ∨
        reachesTracker lookups director rancher = true ∧ other = command.rancherUid ∧
          character = command.characterUid := by
  obtain ⟨context, userName, hcontext, hfinal⟩ := final_admitted h
  rw [hfinal]
  split
  · next huser => rw [ranch_admitClient_entered, mem_admitClient huser]
  · next huser =>
      rw [ranch_entered, reachesTracker, Bool.eq_false_iff.2 huser]
      simp

theorem quiet_enterRanch (h : admits lookups client command director = none) :
    Quiet director ((handleEnterRanch lookups client command).final director) := by
  have hnever {context : ClientContext} {rancher : Character} (hcontext : director.contexts client = some context)
      (hrancher : characterStorage.cached lookups.rancher command.rancherUid director.data = some rancher)
      (hallowed : isRefused lookups context command director rancher = false) : False :=
    absurd (h.symm.trans (admits_eq_some.2 ⟨context, hcontext, hrancher, hallowed⟩)) (Option.some_ne_none _).symm
  have houtcome := handleEnterRanch_outcome lookups client command director
  rw [Effect.final]
  generalize handleEnterRanch lookups client command director = result at houtcome ⊢
  cases houtcome with
  | absent => exact .refl director
  | unavailable => exact .refl director
  | @refused context rancher hcontext hrancher hrefused =>
    refine ⟨fun other => ?_, fun other character => ?_, fun other hvisits => ?_⟩
    · rw [ranch_opened]
    · rw [ranch_opened]
    · by_cases hother : other = client
      · subst hother
        have hopened := @contexts_opened lookups other context command director hcontext other
        rw [if_pos rfl] at hopened
        cases hauthenticated : context.isAuthenticated with
        | true =>
          apply visit?_congr
          rw [hopened, hcontext, isAuthorized, hauthenticated, Bool.true_or, ← hauthenticated]
        | false =>
          rw [visit?, ownContext, hcontext] at hvisits
          simp [hauthenticated] at hvisits
      · apply visit?_congr
        rw [contexts_opened hcontext, if_neg hother]
  | offline hcontext hrancher hallowed => exact (hnever hcontext hrancher hallowed).elim
  | unknownEgg hcontext hrancher hallowed => exact (hnever hcontext hrancher hallowed).elim
  | unpresentable hcontext hrancher hallowed => exact (hnever hcontext hrancher hallowed).elim
  | deferred hcontext hrancher hallowed => exact (hnever hcontext hrancher hallowed).elim
  | joined hcontext hrancher hallowed => exact (hnever hcontext hrancher hallowed).elim

end Entering

/-! ## The other commands -/

section Others

variable {registry : BreedingRegistry} {director : Director} {client : ClientId}

theorem visit?_withBreeding {ranch : Ranch}
    (hplays : PlaysAs (fun client => (director.breeding.contexts client).map ClientContext.characterUid) ranch) :
    (director.withBreeding ranch).visit? client = director.visit? client := by
  have hplays := hplays client
  have hcontexts : (director.withBreeding ranch).contexts client =
    ClientContext.withBreeding (director.contexts client) (ranch.contexts client) := rfl
  rw [visit?, visit?, ownContext, ownContext, hcontexts]
  rw [breeding] at hplays
  dsimp only at hplays
  cases hold : director.contexts client with
  | none => rfl
  | some old =>
    rw [hold] at hplays
    cases hchanged : ranch.contexts client with
    | none => rfl
    | some changed =>
      rw [hchanged] at hplays
      cases hauthenticated : old.isAuthenticated with
      | false => simp [hauthenticated] at hplays
      | true =>
        simp only [Option.filter, hauthenticated, ClientContext.withBreeding] at hplays ⊢
        simpa using hplays

theorem quiet_withBreeding {ranch : Ranch}
    (hplays : PlaysAs (fun client => (director.breeding.contexts client).map ClientContext.characterUid) ranch) :
    Quiet director (director.withBreeding ranch) :=
  ⟨fun _ => rfl, fun _ _ => Iff.rfl, fun _ _ => visit?_withBreeding hplays⟩

theorem quiet_change (market : Market) : Quiet director { director with toMarket := market } :=
  ⟨fun _ => rfl, fun _ _ => Iff.rfl, fun _ _ => rfl⟩

/-- A client that is not authenticated leaves nothing when it disconnects. -/
theorem quiet_disconnect (h : director.visit? client = none) :
    Quiet director ((handleClientDisconnected client).final director) := by
  have hvisits (other : ClientId) (hvisits : (director.visit? other).isSome = true) :
      ((handleClientDisconnected client).final director).visit? other = director.visit? other := by
    apply visit?_congr
    rw [contexts_disconnect, if_neg]
    rintro rfl
    rw [h] at hvisits
    cases hvisits
  have hranch (rancherUid : Uid) :
      ((handleClientDisconnected client).final director).ranch rancherUid = director.ranch rancherUid := by
    rw [final_disconnected]
    cases hcontext : director.contexts client with
    | none => rfl
    | some context =>
      have hunauthenticated : context.isAuthenticated ≠ true := by
        intro hauthenticated
        rw [visit?, ownContext_eq_some.2 ⟨hcontext, hauthenticated⟩] at h
        cases h
      dsimp only
      rw [if_neg hunauthenticated, ranch_setContext]
  refine ⟨fun rancherUid => ?_, fun rancherUid character => ?_, hvisits⟩
  · rw [hranch]
  · rw [hranch]

/-- Breeding tracks a horse at most. -/
theorem quiet_tryBreeding (lookups : Breeding.TryBreedingLookups) (command : Breeding.TryBreeding) :
    Quiet director ((handleTryBreeding registry lookups client command).final director) := by
  have hplays := @playsAs_tryBreeding registry
    (fun client => (director.breeding.contexts client).map Breeding.ClientContext.characterUid) lookups client command
      director.breeding fun _ => rfl
  rw [handleTryBreeding, final_own_bind]
  cases ownContext client director with
  | none => exact .refl director
  | some context =>
    dsimp only
    rw [final_zoom_bind]
    cases hresult : Breeding.handleTryBreeding registry lookups client command director.breeding with
    | error failure ranch =>
      rw [final_error hresult] at hplays
      exact quiet_withBreeding hplays
    | ok reply ranch =>
      rw [final_ok hresult] at hplays
      cases reply with
      | ok foalUid => exact (quiet_withBreeding hplays).addHorses context.characterUid [foalUid]
      | _ => exact quiet_withBreeding hplays

theorem quiet_registerPurchasedHorses (horseUids : List Uid) :
    Quiet director ((registerPurchasedHorses client horseUids).final director) := by
  rw [final_registerPurchasedHorses]
  cases ownContext client director with
  | none => exact .refl director
  | some context => exact (Quiet.refl director).addHorses context.characterUid horseUids

theorem quiet_returnHorseToNature (available : Bool) (characterUid horseUid : Uid) :
    Quiet director ((returnHorseToNature available characterUid horseUid).final director) := by
  rw [final_returnHorseToNature]
  cases characterStorage.find available characterUid director.data with
  | none => exact .refl director
  | some character =>
    dsimp only
    split
    · refine ⟨fun other => ?_, fun other present => ?_, fun _ _ => rfl⟩
      · rw [removeHorse, ranch_setRanch]
        split
        · next h => rw [h]; rfl
        · rfl
      · rw [removeHorse, ranch_setRanch]
        split
        · next h => rw [h]; rfl
        · rfl
    · exact quiet_change { director.toMarket with
        data := characterStorage.write characterUid (releaseHorse horseUid character) director.data }

theorem quiet_connect : Quiet director (handleClientConnected client director) := by
  rw [handleClientConnected]
  cases hcontext : director.contexts client with
  | some context => exact .refl director
  | none =>
    refine ⟨fun _ => rfl, fun _ _ => Iff.rfl, fun other hvisits => ?_⟩
    apply visit?_congr
    apply update_of_ne
    rintro rfl
    rw [visit?, ownContext, hcontext] at hvisits
    cases hvisits

end Others

/-! ## Steps -/

section Steps

variable {registry : BreedingRegistry} {before after : Presence} {client : ClientId} {visit : Uid × Uid}

theorem visit_eq_visit? (h : before.isPresent client = true) : before.visit client = before.director.visit? client :=
  if_pos h

theorem visit_of_absent (h : before.isPresent client = false) : before.visit client = none :=
  if_neg (Bool.eq_false_iff.1 h)

/-- A client that is in a ranch is authenticated. -/
def Own (presence : Presence) : Prop :=
  ∀ client, presence.isPresent client = true → (presence.director.visit? client).isSome = true

theorem Own.quiet (hown : Own before) (hquiet : Quiet before.director after.director)
    (hpresent : after.isPresent = before.isPresent) : Own after := by
  intro client hclient
  rw [hpresent] at hclient
  rw [hquiet.visits client (hown client hclient)]
  exact hown client hclient

theorem Own.moves {value : Bool} (hown : Own before)
    (hpresent : after.isPresent = update before.isPresent client value)
    (hself : value = true → (after.director.visit? client).isSome = true)
    (hother : ∀ other, other ≠ client → after.visit other = before.visit other) : Own after := by
  intro other hafter
  by_cases hsame : other = client
  · subst hsame
    rw [hpresent, update_self] at hafter
    exact hself hafter
  · have hbefore : before.isPresent other = true := by
      rwa [hpresent, update_of_ne hsame] at hafter
    rw [← visit_eq_visit? hafter, hother other hsame, visit_eq_visit? hbefore]
    exact hown other hbefore

theorem Consistent.quiet (h : Consistent before) (hown : Own before) (hquiet : Quiet before.director after.director)
    (hpresent : after.isPresent = before.isPresent) : Consistent after := by
  have hvisit (client : ClientId) : after.visit client = before.visit client := by
    rw [Presence.visit, Presence.visit, hpresent]
    split
    · next hclient => exact hquiet.visits client (hown client hclient)
    · rfl
  refine ⟨h.agrees.congr (fun rancherUid => ?_) (fun rancherUid => ?_) hvisit, fun rancherUid => ?_⟩
  · simp [Presence.rosters, hquiet.clients]
  · simp [Presence.rosters, hquiet.characters]
  · rw [hquiet.clients]
    exact h.bounded rancherUid

/-- The ranch of the visit goes on without the client and its character. -/
structure Departs (before after : Presence) (client : ClientId) (visit : Uid × Uid) : Prop where
  ranch : ∀ rancherUid, after.director.ranch rancherUid =
    if rancherUid = visit.1 then
      { tracker := (before.director.ranch rancherUid).tracker.removeCharacter visit.2
        clients := (before.director.ranch rancherUid).clients.erase client }
    else before.director.ranch rancherUid
  isPresent : after.isPresent = update before.isPresent client false
  visit_of_ne : ∀ other, other ≠ client → after.visit other = before.visit other

theorem Departs.leaves (h : Departs before after client visit) :
    Rosters.Leaves before.rosters after.rosters visit.1 client visit.2 := by
  have hself : after.visit client = none := visit_of_absent (by rw [h.isPresent, update_self])
  refine ⟨fun other present => ?_, fun other present => ?_, hself, h.visit_of_ne⟩
  · show present ∈ (after.director.ranch other).clients ↔ present ∈ (before.director.ranch other).clients ∧ _
    rw [h.ranch]
    split
    · next hother =>
        rw [mem_erase_iff]
        simp [hother]
    · next hother => simp [hother]
  · show present ∈ (after.director.ranch other).tracker.characters ↔
      present ∈ (before.director.ranch other).tracker.characters ∧ _
    rw [h.ranch]
    split
    · next hother =>
        rw [RanchTracker.removeCharacter, ExtTreeMap.mem_erase, ne_eq, Std.LawfulEqCmp.compare_eq_iff_eq]
        simp only [hother, true_and]
        tauto
    · next hother => simp [hother]

theorem Consistent.departs_iff (h : Consistent before) (hdeparts : Departs before after client visit)
    (hvisit : ∀ own, before.visit client = some own → own = visit) :
    Consistent after ↔ ¬before.rosters.Shares client visit := by
  have hagrees := h.agrees.leaves_iff hvisit hdeparts.leaves
  refine ⟨fun hafter => hagrees.1 hafter.agrees, fun halone => ⟨hagrees.2 halone, fun rancherUid => ?_⟩⟩
  have hbounded := h.bounded rancherUid
  rw [hdeparts.ranch]
  split
  · exact ExtTreeSet.size_erase_le.trans hbounded
  · exact hbounded

theorem own_visit {own : Uid × Uid} (h : before.visit client = some own) :
    before.director.visit? client = some own := by
  rw [Presence.visit] at h
  split at h
  · exact h
  · cases h

theorem visit?_eq_some : before.director.visit? client = some visit ↔
    ∃ context, ownContext client before.director = some context ∧ context.visitingRancherUid = visit.1 ∧
      context.characterUid = visit.2 := by
  rw [visit?, Option.map_eq_some_iff]
  constructor
  · rintro ⟨context, hcontext, rfl⟩
    exact ⟨context, hcontext, rfl, rfl⟩
  · rintro ⟨context, hcontext, hranch, hcharacter⟩
    exact ⟨context, hcontext, Prod.ext hranch hcharacter⟩

theorem departs_leave (h : before.director.visit? client = some visit) :
    Departs before (before.step registry (.leaveRanch client)) client visit := by
  obtain ⟨context, hcontext, hranch, hcharacter⟩ := visit?_eq_some.1 h
  have hdirector : (before.step registry (.leaveRanch client)).director =
      departed client context before.director := by
    show (handleRanchLeave client).final before.director = _
    rw [final_leave, hcontext]
  refine ⟨fun rancherUid => ?_, rfl, fun other hother => ?_⟩
  · rw [hdirector, ranch_departed, hranch, hcharacter]
  · have hpresent : (before.step registry (.leaveRanch client)).isPresent other = before.isPresent other :=
      update_of_ne hother ..
    rw [Presence.visit, Presence.visit, hpresent, hdirector, visit?_congr (congrFun contexts_departed other)]

theorem departs_disconnect (h : before.director.visit? client = some visit) :
    Departs before (before.step registry (.disconnect client)) client visit := by
  obtain ⟨context, hcontext, hranch, hcharacter⟩ := visit?_eq_some.1 h
  obtain ⟨hexists, hauthenticated⟩ := ownContext_eq_some.1 hcontext
  have hdirector : (before.step registry (.disconnect client)).director =
      (departed client context before.director).setContext client none := by
    show (handleClientDisconnected client).final before.director = _
    rw [final_disconnected, hexists]
    dsimp only
    rw [if_pos hauthenticated]
  refine ⟨fun rancherUid => ?_, rfl, fun other hother => ?_⟩
  · rw [hdirector, ranch_setContext, ranch_departed, hranch, hcharacter]
  · have hpresent : (before.step registry (.disconnect client)).isPresent other = before.isPresent other :=
      update_of_ne hother ..
    have hcontexts : (before.step registry (.disconnect client)).director.contexts other =
        before.director.contexts other := (contexts_disconnect other).trans (if_neg hother)
    rw [Presence.visit, Presence.visit, hpresent, visit?_congr hcontexts]

theorem isPresent_admitted {lookups : EnterLookups} {command : EnterRanch} {rancher : Character}
    (h : admits lookups client command before.director = some rancher) :
    (before.step registry (.enterRanch client command lookups)).isPresent =
      update before.isPresent client true := by
  show (if (admits lookups client command before.director).isSome then _ else _) = _
  rw [h]
  rfl

theorem enters_admitted {lookups : EnterLookups} {command : EnterRanch} {rancher : Character}
    (h : admits lookups client command before.director = some rancher) :
    Rosters.Enters before.rosters (before.step registry (.enterRanch client command lookups)).rosters
      (reachesEnd lookups command before.director rancher) (reachesTracker lookups before.director rancher)
      command.rancherUid client command.characterUid := by
  have hpresent := @isPresent_admitted registry before client lookups command rancher h
  refine ⟨fun other present => ?_, fun other present => mem_enterRanch h, ?_, fun other hother => ?_⟩
  · show present ∈ (((handleEnterRanch lookups client command).final before.director).ranch other).clients ↔ _
    rw [clients_enterRanch h]
    split
    · next hjoins =>
        rw [mem_insert_iff]
        simp [Presence.rosters, hjoins]
    · next hjoins =>
        show present ∈ (before.director.ranch other).clients ↔ present ∈ (before.director.ranch other).clients ∨ _
        tauto
  · show Presence.visit _ client = _
    rw [visit_eq_visit? (by rw [hpresent, update_self])]
    exact visit?_enterRanch h
  · show Presence.visit _ other = before.visit other
    rw [Presence.visit, Presence.visit, hpresent, update_of_ne hother]
    have hcontexts : (before.step registry (.enterRanch client command lookups)).director.contexts other =
        before.director.contexts other := contexts_enterRanch_of_ne hother
    rw [visit?_congr hcontexts]

theorem size_insert_le_iff {clients : ExtTreeSet ClientId} {bound : Nat} (h : clients.size ≤ bound) :
    (clients.insert client).size ≤ bound ↔ client ∈ clients ∨ clients.size < bound := by
  rw [ExtTreeSet.size_insert]
  by_cases hmem : client ∈ clients
  · simp [ExtTreeSet.contains_iff_mem.2 hmem, hmem, h]
  · have hcontains : clients.contains client = false := Bool.eq_false_iff.2 fun h => hmem (ExtTreeSet.contains_iff_mem.1 h)
    simp only [hcontains, hmem, Bool.false_eq_true, if_false, false_or]
    omega

theorem consistent_enter_iff {lookups : EnterLookups} {command : EnterRanch} {rancher : Character}
    (h : Consistent before) (hadmits : admits lookups client command before.director = some rancher) :
    Consistent (before.step registry (.enterRanch client command lookups)) ↔
      EntersWell before lookups client command rancher := by
  have hagrees := h.agrees.enters_iff (@enters_admitted registry _ _ _ _ _ hadmits)
  have hclients (other : Uid) : ((before.step registry (.enterRanch client command lookups)).director.ranch other).clients =
      if other = command.rancherUid ∧ reachesEnd lookups command before.director rancher = true then
        (before.director.ranch other).clients.insert client
      else (before.director.ranch other).clients := clients_enterRanch hadmits other
  constructor
  · intro hafter
    obtain ⟨hjoins, htracks, hstays⟩ := hagrees.1 hafter.agrees
    refine ⟨hjoins, htracks, hstays, ?_⟩
    obtain hend | hmem := hjoins
    · have hbounded := hafter.bounded command.rancherUid
      rw [hclients, if_pos ⟨rfl, hend⟩] at hbounded
      exact (size_insert_le_iff (h.bounded _)).1 hbounded
    · exact .inl hmem
  · intro hwell
    refine ⟨hagrees.2 ⟨hwell.joins, hwell.tracks, hwell.stays⟩, fun other => ?_⟩
    rw [hclients]
    split
    · next hother =>
        rw [hother.1]
        exact (size_insert_le_iff (h.bounded _)).2 hwell.room
    · exact h.bounded other

variable (registry before) in
/-- What an input can do to the visits. -/
inductive Moves : Input → Prop
  | quiet {input : Input} (hquiet : Quiet before.director (before.step registry input).director)
      (hpresent : (before.step registry input).isPresent = before.isPresent) (hwell : MovesWell before input) :
      Moves input
  | enters {client : ClientId} {command : EnterRanch} {lookups : EnterLookups} {rancher : Character}
      (hadmits : admits lookups client command before.director = some rancher) :
      Moves (.enterRanch client command lookups)
  | departs {input : Input} {client : ClientId} {visit : Uid × Uid}
      (hvisit : before.director.visit? client = some visit)
      (hdeparts : Departs before (before.step registry input) client visit)
      (hwell : MovesWell before input ↔ ¬before.rosters.Shares client visit) : Moves input

theorem forall_mem_visit? {property : Uid × Uid → Prop} (h : before.director.visit? client = some visit) :
    (∀ own ∈ before.director.visit? client, property own) ↔ property visit := by
  rw [h]
  simp

theorem isPresent_update (hown : Own before) (h : before.director.visit? client = none) :
    update before.isPresent client false = before.isPresent := by
  apply update_eq_self_iff.2
  apply Eq.symm
  apply Bool.eq_false_iff.2
  intro hpresent
  have hvisits := hown client hpresent
  rw [h] at hvisits
  cases hvisits

theorem visit?_none (h : before.director.visit? client = none) : ownContext client before.director = none :=
  Option.map_eq_none_iff.1 h

variable (registry) in
theorem moves (hown : Own before) (input : Input) : Moves registry before input := by
  cases input with
  | connect client => exact .quiet quiet_connect rfl trivial
  | grantCode key now code => exact .quiet ⟨fun _ => rfl, fun _ _ => Iff.rfl, fun _ _ => rfl⟩ rfl trivial
  | tryBreeding client command lookups => exact .quiet (quiet_tryBreeding lookups command) rfl trivial
  | purchase client horseUids => exact .quiet (quiet_registerPurchasedHorses horseUids) rfl trivial
  | returnToNature characterUid horseUid available =>
    exact .quiet (quiet_returnHorseToNature available characterUid horseUid) rfl trivial
  | change market => exact .quiet (quiet_change market) rfl trivial
  | snapshot client command =>
    refine .quiet ?_ rfl trivial
    show Quiet before.director ((handleSnapshot client command.1).final before.director)
    rw [final_handleSnapshot command.2]
    exact .refl _
  | enterRanch client command lookups =>
    cases hadmits : admits lookups client command before.director with
    | some rancher => exact .enters hadmits
    | none =>
      refine .quiet (quiet_enterRanch hadmits) ?_ fun rancher hrancher => ?_
      · show (if (admits lookups client command before.director).isSome then _ else _) = _
        rw [hadmits]
        rfl
      · rw [hadmits] at hrancher
        cases hrancher
  | leaveRanch client =>
    cases hvisit : before.director.visit? client with
    | some visit => exact .departs hvisit (departs_leave hvisit) (forall_mem_visit? hvisit)
    | none =>
      refine .quiet ?_ (isPresent_update hown hvisit) fun visit hmem => ?_
      · show Quiet before.director ((handleRanchLeave client).final before.director)
        rw [final_leave, visit?_none hvisit]
        exact .refl _
      · rw [hvisit] at hmem
        cases hmem
  | disconnect client =>
    cases hvisit : before.director.visit? client with
    | some visit => exact .departs hvisit (departs_disconnect hvisit) (forall_mem_visit? hvisit)
    | none =>
      refine .quiet ?_ (isPresent_update hown hvisit) fun visit hmem => ?_
      · show Quiet before.director ((handleClientDisconnected client).final before.director)
        exact quiet_disconnect hvisit
      · rw [hvisit] at hmem
        cases hmem

/-- Only clients with a context of their own are in a ranch, whatever happens. -/
theorem own_step {input : Input} (hown : Own before) : Own (before.step registry input) := by
  cases moves registry hown input with
  | quiet hquiet hpresent => exact hown.quiet hquiet hpresent
  | enters hadmits =>
    refine hown.moves (isPresent_admitted hadmits) (fun _ => ?_) (enters_admitted hadmits).visit_of_ne
    exact Option.isSome_of_eq_some (visit?_enterRanch hadmits)
  | departs hvisit hdeparts => exact hown.moves hdeparts.isPresent nofun hdeparts.visit_of_ne

theorem consistent_step_iff {input : Input} (hown : Own before) (h : Consistent before) :
    Consistent (before.step registry input) ↔ MovesWell before input := by
  cases moves registry hown input with
  | quiet hquiet hpresent hwell => exact iff_of_true (h.quiet hown hquiet hpresent) hwell
  | enters hadmits =>
    rw [consistent_enter_iff h hadmits]
    exact ⟨fun hwell rancher hrancher => Option.some.inj (hadmits.symm.trans hrancher) ▸ hwell,
      fun hwell => hwell _ hadmits⟩
  | @departs input client visit hvisit hdeparts hwell =>
    refine (h.departs_iff hdeparts fun own hown => ?_).trans hwell.symm
    exact Option.some.inj ((own_visit hown).symm.trans hvisit)

theorem consistent_start : Consistent { director := {} } := by
  have hempty (rancherUid : Uid) : ({} : Director).ranch rancherUid = {} := by
    rw [ranch, ExtTreeMap.getElem?_empty]
    rfl
  refine ⟨⟨fun rancherUid client => ?_, fun rancherUid character => ?_⟩, fun rancherUid => ?_⟩
  · simp [Presence.rosters, Presence.visit, hempty]
  · simp [Presence.rosters, Presence.visit, hempty]
  · simp [hempty]

end Steps

/-- Two ranchers with a mount. -/
def paddocks : Breeding.Market := {
  data := {
    characters := fun uid => if uid = 5 ∨ uid = 6 then some { uid := uid, mountUid := 9 } else none
    horses := fun uid => if uid = 9 then some { uid := 9 } else none } }

/-- The client 1 enters its own ranch, and then another one, which does not take it out of the first. -/
def move : List Input := [.change paddocks, .connect 1, .grantCode 5 0 77,
  .enterRanch 1 { rancherUid := 5, characterUid := 5, otp := 77 } {},
  .enterRanch 1 { rancherUid := 6, characterUid := 5 } {}]

end Alicia.Ranch
