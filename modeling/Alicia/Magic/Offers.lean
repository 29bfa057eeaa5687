import Alicia.Magic.Messages

/-!
# Offers of eggs

The code remembers neither whom it has offered an egg nor what it has offered, and it asks whether a
character has an egg when the event item is created, not when it is picked up.  So a client may complete
its loading twice, answer without an offer, and get an egg again; and a pickup whose broadcasts throw has
given the egg and leaves the event item.
-/

namespace Alicia.Magic

open Std (ExtTreeMap)
open Transition Effect Data Storage
open DataDirector (characterStorage horseStorage)
open Possession (hasItem owned addItem added addItem_apply)

/-! ## The condition -/

/-- A completed loading offers an egg to a racer. -/
structure Offers (registry : Registry) (around : Surroundings) (client : ClientId) (lookups : LoadingLookups)
    (race : RaceInstance) (uid : Uid) (racer : Racer) (character : Character) : Prop where
  invoker : around.getRacer client race = .ok (uid, racer)
  record : characterStorage.find lookups.character uid race.data = some character
  horse : (horseStorage.find lookups.horse character.mountUid race.data).isSome = true
  reachable : around.Reachable
  gameMode : isGameModeEligible race.gameMode = true
  characterAgain : lookups.characterAgain = true
  level : isCharacterEligible registry character = true
  drawn : lookups.isDrawn = true

/-- An answer to an offer creates an event item for an egg. -/
structure Creates (registry : Registry) (around : Surroundings) (client : ClientId) (unk1 : UInt32)
    (lookups : CreateLookups) (race : RaceInstance) (uid : Uid) (racer : Racer) (egg : EggInfo) : Prop where
  unk1 : unk1 = 0
  invoker : around.getRacer client race = .ok (uid, racer)
  selected : ∃ region, registry.getMapBlockInfo race.mapBlockId = .ok region ∧
    (registry.getEggsByRegion region)[lookups.index]? = some egg
  unowned : ∃ character, characterStorage.find lookups.character uid race.data = some character ∧
    hasItem lookups.inventory lookups.equipment egg.tid ⟨character, race.data⟩ = false

/-- A pickup gives an egg for an event item. -/
structure Gives (registry : Registry) (around : Surroundings) (client : ClientId) (command : UserRaceItemGet)
    (lookups : PickupLookups) (race : RaceInstance) (uid : Uid) (racer : Racer) (item : EventItem)
    (egg : EggInfo) : Prop where
  invoker : around.getRacer client race = .ok (uid, racer)
  eventItem : findEventItem racer command.itemDeckId = some item
  eggInfo : registry.getEggInfoByDeckId item.itemType = .ok egg
  addition : ∃ character itemUid held,
    characterStorage.find lookups.character uid race.data = some character ∧
    added lookups.items egg.tid (.count 1) ⟨character, race.data⟩ = some (itemUid, held) ∧ itemUid ≠ invalidUid

/-- The condition on a command: an egg is offered to a racer who was not offered one, an event item is
created while an offer is open, and an egg is given to a character that has none of its type, while the
room can be told. -/
def Answers (registry : Registry) (race : RaceInstance) (input : EggInput) : Prop :=
  match input.command with
  | .loadingComplete client lookups => ∀ uid racer character,
      Offers registry input.around client lookups race uid racer character → uid ∉ race.offered
  | .gameCreateClientItem client unk1 lookups => ∀ uid racer egg,
      Creates registry input.around client unk1 lookups race uid racer egg →
        race.created.count uid < race.offered.count uid
  | .userRaceItemGet client command lookups => ∀ uid racer item egg,
      Gives registry input.around client command lookups race uid racer item egg →
        owns egg.tid uid race.data = false ∧ input.around.Reachable

/-! ## What stays -/

namespace SameEggs

variable {before after next : RaceInstance}

instance : Std.Refl SameEggs := ⟨fun _ => ⟨rfl, rfl, rfl, rfl, fun _ => rfl⟩⟩

instance : IsTrans RaceInstance SameEggs := by
  refine ⟨fun _ _ _ h hnext => ?_⟩
  exact ⟨hnext.data.trans h.data, hnext.offered.trans h.offered, hnext.created.trans h.created,
    hnext.gifts.trans h.gifts, fun uid => (hnext.eventItems uid).trans (h.eventItems uid)⟩

instance : Unsent SameEggs := ⟨fun _ _ => ⟨rfl, rfl, rfl, rfl, fun _ => rfl⟩⟩

/-- A racer who keeps the event items. -/
theorem updateRacer {uid : Uid} {change : Racer → Racer} (h : ∀ racer, (change racer).eventItems = racer.eventItems) :
    Keeps SameEggs (updateRacer uid change) := by
  intro race
  refine ⟨rfl, rfl, rfl, rfl, fun other => ?_⟩
  refine (congrArg (Option.map Racer.eventItems) (getElem?_updateRacer uid other change race)).trans ?_
  split
  · next hsame =>
      rw [Option.map_map]
      exact congrArg (Option.map · race.racers[other]?) (funext h)
  · rfl

theorem updateRacer_ok {uid : Uid} {change : Racer → Racer}
    (h : ∀ racer, (change racer).eventItems = racer.eventItems) (race : RaceInstance) :
    ∃ next, Magic.updateRacer uid change race = .ok ⟨⟩ next ∧ SameEggs race next :=
  ⟨_, rfl, updateRacer h race⟩

theorem modify {change : RaceInstance → RaceInstance} (h : ∀ race, SameEggs race (change race)) :
    Keeps SameEggs (modify change : Handling Unit) := h

theorem pickRandomItemFromDeck (deckId : UInt16) (deck : ItemDeck) (itemIndex : Nat) :
    Keeps SameEggs (pickRandomItemFromDeck deckId deck itemIndex) :=
  .bind (modify fun _ => ⟨rfl, rfl, rfl, rfl, fun _ => rfl⟩) fun _ => .pure _

theorem coolDown (uid : Uid) (deckId : UInt16) (until_ : Race.Instant) (race : RaceInstance) :
    SameEggs race (coolDown uid deckId until_ race) := by
  refine ⟨rfl, rfl, rfl, rfl, fun other => ?_⟩
  rw [Magic.coolDown, ExtTreeMap.getElem?_map, Option.map_map]
  rfl

variable {registry : Registry} {around : Surroundings} {client : ClientId} {uid : Uid} {racer : Racer}
  {deck : ItemDeck} {command : UserRaceItemGet} {lookups : PickupLookups}

theorem takeMagicItem {characterOid : UInt16} {roll : Roll} :
    Keeps SameEggs (takeMagicItem registry around client uid racer deck characterOid roll) := by
  rw [Magic.takeMagicItem]
  cases racer.magicItem with
  | some held => exact .pure held
  | none =>
    exact .bind (keeps_ask _) fun _ =>
      .bind (updateRacer fun _ => rfl) fun _ =>
      .bind (keeps_queueCommand _ _ _) fun _ =>
      .bind (updateRacer fun _ => rfl) fun _ =>
      .bind (keeps_queueCommand _ _ _) fun _ => .pure _

theorem getMagicDeck :
    Keeps SameEggs (getMagicDeck registry around client uid racer deck command lookups) :=
  .bind takeMagicItem fun _ => .bind (pickRandomItemFromDeck _ _ _) fun _ =>
    .bind (keeps_broadcastExcept _ _ _) fun _ => .pure _

theorem getDeckInMode {gameMode : GameModeInfo} :
    Keeps SameEggs (getDeckInMode registry around client uid racer deck command lookups gameMode) := by
  rw [Magic.getDeckInMode]
  split
  · exact .bind (updateRacer fun _ => rfl) fun _ =>
      .bind (keeps_queueCommand _ _ _) fun _ => .pure _
  · split
    · exact getMagicDeck
    · exact .pure _

/-- A deck has no egg. -/
theorem getDeck : Keeps SameEggs (getDeck registry around client uid racer deck command lookups) :=
  .bind (modify (coolDown _ _ _)) fun _ => .bind (keeps_ask _) fun _ =>
    .bind (keeps_ask _) fun _ => .bind getDeckInMode fun _ => keeps_broadcast _ _

end SameEggs

/-! ## What the commands do -/

/-- A completed loading changes nothing about eggs, or offers one. -/
inductive LoadingOutcome (registry : Registry) (around : Surroundings) (client : ClientId)
    (lookups : LoadingLookups) (race : RaceInstance) : RaceInstance → Prop
  | same {after : RaceInstance} (h : SameEggs race after)
      (hnone : ∀ uid racer character, ¬Offers registry around client lookups race uid racer character) :
      LoadingOutcome registry around client lookups race after
  | offered {after : RaceInstance} (uid : Uid) (racer : Racer) (character : Character)
      (hoffers : Offers registry around client lookups race uid racer character)
      (h : SameEggs { race with offered := race.offered ++ [uid] } after) :
      LoadingOutcome registry around client lookups race after

section Loading

variable {registry : Registry} {around : Surroundings} {client : ClientId} {lookups : LoadingLookups}

theorem getRecord_ok {V : Type} {storage : Storage V} {available : Bool} {uid : Uid} {race : RaceInstance}
    {value : V} (h : storage.find available uid race.data = some value) :
    getRecord storage available uid race = .ok value race :=
  ask_ok (by rw [h])

theorem getRecord_error {V : Type} {storage : Storage V} {available : Bool} {uid : Uid}
    {race : RaceInstance} (h : storage.find available uid race.data = none) :
    getRecord storage available uid race = .error (.thrown "Value of the record is unavailable") race :=
  ask_error (by rw [h])

/-- The last part of a completed loading, behind the broadcast. -/
theorem offerOutcome {race next : RaceInstance} {uid : Uid} {racer : Racer} {character : Character}
    (hracer : around.getRacer client race = .ok (uid, racer))
    (hcharacter : characterStorage.find lookups.character uid race.data = some character)
    (hhorse : (horseStorage.find lookups.horse character.mountUid race.data).isSome = true)
    (hreachable : around.Reachable) (hnext : SameEggs race next) :
    LoadingOutcome registry around client lookups race
      (final (if !isGameModeEligible race.gameMode then (return () : Handling Unit)
        else do
          let character ← getRecord characterStorage lookups.characterAgain uid
          if isCharacterEligible registry character && lookups.isDrawn then
            queueCommand around client (.gameCreateClientItem racer.oid)
            modify fun race => { race with offered := race.offered ++ [uid] }) next) := by
  have hunique : ∀ uid' racer' character',
      Offers registry around client lookups race uid' racer' character' → character' = character := by
    intro uid' racer' character' hoffers
    cases hracer.symm.trans hoffers.invoker
    cases hcharacter.symm.trans hoffers.record
    rfl
  obtain ⟨hvalid, havailable, hrecord⟩ := find_eq_some.1 hcharacter
  cases hmode : isGameModeEligible race.gameMode with
  | false =>
    refine .same hnext fun uid' racer' character' hoffers => ?_
    cases hmode.symm.trans hoffers.gameMode
  | true =>
    rw [if_neg (show ¬(!true) = true by decide)]
    cases hagain : lookups.characterAgain with
    | false =>
      have hnone : characterStorage.find false uid next.data = none := if_neg fun h => by cases h.2
      rw [final_bind_error (getRecord_error hnone)]
      refine .same hnext fun uid' racer' character' hoffers => ?_
      cases hagain.symm.trans hoffers.characterAgain
    | true =>
      have hsome : characterStorage.find true uid next.data = some character :=
        find_eq_some.2 ⟨hvalid, rfl, hnext.data ▸ hrecord⟩
      rw [final_bind_ok (getRecord_ok hsome)]
      cases hdraw : isCharacterEligible registry character && lookups.isDrawn with
      | false =>
        refine .same hnext fun uid' racer' character' hoffers => ?_
        rw [← hunique _ _ _ hoffers, hoffers.level, hoffers.drawn] at hdraw
        cases hdraw
      | true =>
        obtain ⟨hlevel, hdrawn⟩ := Bool.and_eq_true_iff.1 hdraw
        rw [if_pos rfl, final_bind_ok (queueCommand_apply _ _ _ _)]
        refine .offered uid racer character
          ⟨hracer, hcharacter, hhorse, hreachable, hmode, hagain, hlevel, hdrawn⟩ ?_
        refine ⟨hnext.data, ?_, hnext.created, hnext.gifts, hnext.eventItems⟩
        exact congrArg (· ++ [uid]) hnext.offered

theorem loadingOutcome (race : RaceInstance) :
    LoadingOutcome registry around client lookups race
      ((handleLoadingComplete registry around client lookups).final race) := by
  rw [handleLoadingComplete]
  cases hracer : around.getRacer client race with
  | error failure =>
    rw [final_bind_error (ask_error hracer)]
    refine .same (refl_of _ _) fun uid racer character hoffers => ?_
    cases hracer.symm.trans hoffers.invoker
  | ok entry =>
    obtain ⟨uid, racer⟩ := entry
    rw [final_bind_ok (ask_ok hracer)]
    dsimp only
    rw [final_bind_ok (get_apply race)]
    obtain ⟨racing, hstep, hracing⟩ :=
      @SameEggs.updateRacer_ok uid (fun racer => { racer with state := .racing }) (fun _ => rfl) race
    rw [final_bind_ok hstep]
    cases hcharacter : characterStorage.find lookups.character uid race.data with
    | none =>
      rw [final_bind_error (getRecord_error (hracing.data ▸ hcharacter))]
      refine .same hracing fun uid' racer' character' hoffers => ?_
      cases hracer.symm.trans hoffers.invoker
      cases hcharacter.symm.trans hoffers.record
    | some character =>
      rw [final_bind_ok (getRecord_ok (hracing.data ▸ hcharacter))]
      cases hhorse : horseStorage.find lookups.horse character.mountUid race.data with
      | none =>
        rw [final_bind_error (getRecord_error (hracing.data ▸ hhorse))]
        refine .same hracing fun uid' racer' character' hoffers => ?_
        cases hracer.symm.trans hoffers.invoker
        cases hcharacter.symm.trans hoffers.record
        have hsome := hoffers.horse
        rw [hhorse] at hsome
        cases hsome
      | some horse =>
        obtain ⟨ready, hstep, hready⟩ := @SameEggs.updateRacer_ok uid (fun racer =>
          { racer with courage := lookups.courage, activeSetEffect := lookups.activeSetEffect })
            (fun _ => rfl) racing
        rw [final_bind_ok (getRecord_ok (hracing.data ▸ hhorse)), final_bind_ok hstep]
        have hready := trans_of SameEggs hracing hready
        by_cases hreachable : around.Reachable
        · obtain ⟨players, hplayers⟩ := hreachable
          rw [final_bind_ok (broadcast_reachable hplayers)]
          exact offerOutcome hracer hcharacter (hhorse ▸ rfl) ⟨players, hplayers⟩
            (trans_of SameEggs hready (Unsent.sent ready _))
        · rw [final_bind_of_not_completes fun h => hreachable (reachable_of_completes h)]
          refine .same (trans_of SameEggs hready (keeps_broadcast _ _ ready))
            fun uid' racer' character' hoffers => hreachable hoffers.reachable

end Loading

/-- The race with an event item for a racer. -/
def withEventItem (uid : Uid) (itemType : UInt32) (race : RaceInstance) : RaceInstance :=
  { race.updateRacer uid fun racer =>
      { racer with eventItems := racer.eventItems ++ [⟨race.nextItemDeckOid, itemType, race.created.length⟩] } with
    nextItemDeckOid := race.nextItemDeckOid + 1
    created := race.created ++ [uid] }

/-- An answer to an offer changes nothing about eggs, or creates an event item. -/
inductive CreateOutcome (registry : Registry) (around : Surroundings) (client : ClientId) (unk1 : UInt32)
    (lookups : CreateLookups) (race : RaceInstance) : RaceInstance → Prop
  | same (hnone : ∀ uid racer egg, ¬Creates registry around client unk1 lookups race uid racer egg) :
      CreateOutcome registry around client unk1 lookups race race
  | created (uid : Uid) (racer : Racer) (egg : EggInfo)
      (hcreates : Creates registry around client unk1 lookups race uid racer egg) :
      CreateOutcome registry around client unk1 lookups race (withEventItem uid egg.deckItemId race)

section Creation

variable {registry : Registry} {around : Surroundings} {client : ClientId} {unk1 : UInt32}
  {lookups : CreateLookups}

theorem createOutcome (race : RaceInstance) :
    CreateOutcome registry around client unk1 lookups race
      ((handleGameCreateClientItem registry around client unk1 lookups).final race) := by
  rw [handleGameCreateClientItem]
  by_cases hunk1 : unk1 = 0
  · rw [if_neg (not_not.2 hunk1)]
    cases hracer : around.getRacer client race with
    | error failure =>
      rw [final_bind_error (ask_error hracer)]
      refine .same fun uid racer egg hcreates => ?_
      cases hracer.symm.trans hcreates.invoker
    | ok entry =>
      obtain ⟨uid, racer⟩ := entry
      rw [final_bind_ok (ask_ok hracer)]
      dsimp only
      cases hregion : registry.getMapBlockInfo race.mapBlockId with
      | error failure =>
        have hask : ask (fun race : RaceInstance => registry.getMapBlockInfo race.mapBlockId) race =
            .error failure race := ask_error hregion
        rw [final_bind_error hask]
        refine .same fun uid racer egg hcreates => ?_
        obtain ⟨region, hsome, _⟩ := hcreates.selected
        cases hregion.symm.trans hsome
      | ok region =>
        have hask : ask (fun race : RaceInstance => registry.getMapBlockInfo race.mapBlockId) race =
            .ok region race := ask_ok hregion
        rw [final_bind_ok hask]
        -- whatever is created is an egg of the region
        have hselected : ∀ uid' racer' egg,
            Creates registry around client unk1 lookups race uid' racer' egg → uid' = uid ∧
              (registry.getEggsByRegion region)[lookups.index]? = some egg := by
          intro uid' racer' egg hcreates
          obtain ⟨region', hregion', hegg⟩ := hcreates.selected
          cases hregion.symm.trans hregion'
          cases hracer.symm.trans hcreates.invoker
          exact ⟨rfl, hegg⟩
        cases hempty : (registry.getEggsByRegion region).isEmpty with
        | true =>
          refine .same fun uid' racer' egg hcreates => ?_
          have hegg := (hselected uid' racer' egg hcreates).2
          rw [List.isEmpty_iff.1 hempty] at hegg
          cases hegg
        | false =>
          rw [if_neg Bool.false_ne_true]
          cases hindex : (registry.getEggsByRegion region)[lookups.index]? with
          | none =>
            refine .same fun uid' racer' egg hcreates => ?_
            cases hindex.symm.trans (hselected uid' racer' egg hcreates).2
          | some egg =>
            dsimp only
            cases hcharacter : characterStorage.find lookups.character uid race.data with
            | none =>
              rw [final_bind_error (getRecord_error hcharacter)]
              refine .same fun uid' racer' egg' hcreates => ?_
              obtain ⟨rfl, _⟩ := hselected uid' racer' egg' hcreates
              obtain ⟨character, hsome, _⟩ := hcreates.unowned
              cases hcharacter.symm.trans hsome
            | some character =>
              rw [final_bind_ok (getRecord_ok hcharacter),
                final_bind_ok (get_apply race)]
              cases howned : hasItem lookups.inventory lookups.equipment egg.tid
                  ⟨character, race.data⟩ with
              | true =>
                rw [if_pos rfl]
                refine .same fun uid' racer' egg' hcreates => ?_
                obtain ⟨rfl, hegg⟩ := hselected uid' racer' egg' hcreates
                obtain ⟨character', hsome, hunowned⟩ := hcreates.unowned
                cases hindex.symm.trans hegg
                cases hcharacter.symm.trans hsome
                cases howned.symm.trans hunowned
              | false =>
                rw [if_neg Bool.false_ne_true]
                exact .created uid racer egg
                  ⟨hunk1, hracer, ⟨region, hregion, hindex⟩, character, hcharacter, howned⟩
  · rw [if_pos hunk1]
    exact .same fun _ _ _ hcreates => hunk1 hcreates.unk1

end Creation

/-! ## Pickups -/

theorem added_invalid {lookups : Possession.ItemLookups} {tid : Tid} {amount : Possession.Amount}
    {held after : Held Character} (h : added lookups tid amount held = some (invalidUid, after)) :
    after = held := by
  rw [added] at h
  split at h
  · obtain ⟨created, hfresh, hresult⟩ := Option.map_eq_some_iff.1 h
    cases hresult
    exact absurd rfl (fresh_eq_some.1 hfresh).2.1
  · next hfound =>
      cases hcached : DataDirector.itemStorage.cached lookups.existing
          (Possession.getItem lookups tid held) held.data with
      | none =>
        rw [hcached] at h
        cases h
        rfl
      | some item =>
        rw [hcached] at h
        exact absurd (Prod.mk.inj (Option.some.inj h)).1 hfound

section Pickup

variable {uid : Uid} {tid : Tid} {lookups : PickupLookups} {race : RaceInstance}

theorem giveEgg_unavailable (h : characterStorage.find lookups.character uid race.data = none) :
    giveEgg uid tid lookups race = .error (.thrown "Value of the record is unavailable") race := by
  rw [giveEgg, zoom, access, h]

theorem giveEgg_terminated {character : Character}
    (h : characterStorage.find lookups.character uid race.data = some character)
    (hadded : added lookups.items tid (.count 1) ⟨character, race.data⟩ = none) :
    giveEgg uid tid lookups race = .error .terminated race := by
  have hadd := addItem_apply lookups.items tid (.count 1) ⟨character, race.data⟩
  rw [hadded] at hadd
  rw [giveEgg, zoom, access, h]
  dsimp only
  rw [hadd]
  dsimp only
  rw [write_self (find_eq_some.1 h).2.2]

theorem giveEgg_added {character : Character} {itemUid : Uid} {held : Held Character}
    (h : characterStorage.find lookups.character uid race.data = some character)
    (hadded : added lookups.items tid (.count 1) ⟨character, race.data⟩ = some (itemUid, held)) :
    giveEgg uid tid lookups race =
      .ok itemUid { race with data := characterStorage.write uid held.value held.data } := by
  have hadd := addItem_apply lookups.items tid (.count 1) ⟨character, race.data⟩
  rw [hadded] at hadd
  rw [giveEgg, zoom, access, h]
  dsimp only
  rw [hadd]

end Pickup

/-- The race without the event items of a racer that have an OID. -/
def withoutEventItem (uid : Uid) (oid : UInt16) (race : RaceInstance) : RaceInstance :=
  race.updateRacer uid fun racer =>
    { racer with eventItems := racer.eventItems.filter fun item => item.oid ≠ oid }

/-- The race with an egg given. -/
def withGift (data : DataDirector) (gift : Gift) (race : RaceInstance) : RaceInstance :=
  { race with data := data, gifts := race.gifts ++ [gift] }

/-- How a pickup ends.  A pickup that gives an egg removes the event item, if the room can be told. -/
inductive PickupOutcome (registry : Registry) (around : Surroundings) (client : ClientId)
    (command : UserRaceItemGet) (lookups : PickupLookups) (race : RaceInstance) (completes : Prop) :
    RaceInstance → Prop
  | same {after : RaceInstance} (h : SameEggs race after)
      (hnone : ∀ uid racer item egg, ¬Gives registry around client command lookups race uid racer item egg) :
      PickupOutcome registry around client command lookups race completes after
  | removed {after : RaceInstance} (uid : Uid) (h : SameEggs (withoutEventItem uid command.itemDeckId race) after)
      (hcompletes : completes)
      (hnone : ∀ uid racer item egg, ¬Gives registry around client command lookups race uid racer item egg) :
      PickupOutcome registry around client command lookups race completes after
  | given {after : RaceInstance} (uid : Uid) (racer : Racer) (item : EventItem) (egg : EggInfo)
      (data : DataDirector) (hgives : Gives registry around client command lookups race uid racer item egg)
      (hreachable : around.Reachable) (hcompletes : completes)
      (h : SameEggs (withoutEventItem uid command.itemDeckId
        (withGift data ⟨item.serial, uid, owns egg.tid uid race.data⟩ race)) after) :
      PickupOutcome registry around client command lookups race completes after
  | stuck {after : RaceInstance} (uid : Uid) (racer : Racer) (item : EventItem) (egg : EggInfo)
      (data : DataDirector) (hgives : Gives registry around client command lookups race uid racer item egg)
      (hreachable : ¬around.Reachable)
      (h : SameEggs (withGift data ⟨item.serial, uid, owns egg.tid uid race.data⟩ race) after) :
      PickupOutcome registry around client command lookups race completes after

section PickupOutcome

variable {registry : Registry} {around : Surroundings} {client : ClientId} {command : UserRaceItemGet}
  {lookups : PickupLookups}

variable {uid itemUid : Uid} {tid : Tid} {item : EventItem}

theorem endPickup_reachable (h : around.Reachable) (race : RaceInstance) :
    ∃ after, endPickup around uid itemUid tid item command race = .ok ⟨⟩ after ∧
      SameEggs (withoutEventItem uid command.itemDeckId race) after := by
  obtain ⟨players, hplayers⟩ := h
  refine ⟨_, (bind_ok (broadcast_reachable hplayers) _).trans
    ((bind_ok (broadcast_reachable hplayers) _).trans rfl), ?_⟩
  exact ⟨rfl, rfl, rfl, rfl, fun _ => rfl⟩

theorem endPickup_unreachable (h : ¬around.Reachable) (race : RaceInstance) :
    SameEggs race ((endPickup around uid itemUid tid item command).final race) := by
  rw [endPickup, final_bind_of_not_completes fun hcompletes => h (reachable_of_completes hcompletes)]
  exact keeps_broadcast _ _ race

theorem eventItemOutcome {race : RaceInstance} {racer : Racer}
    (hracer : around.getRacer client race = .ok (uid, racer))
    (hitem : findEventItem racer command.itemDeckId = some item) :
    PickupOutcome registry around client command lookups race
      ((getEventItem registry around uid item command lookups).Completes race)
      ((getEventItem registry around uid item command lookups).final race) := by
  cases hegg : registry.getEggInfoByDeckId item.itemType with
  | error failure =>
    have hask : ask (fun _ : RaceInstance => registry.getEggInfoByDeckId item.itemType) race =
        .error failure race := ask_error hegg
    have hstep : getEventItem registry around uid item command lookups race = .error failure race :=
      bind_error hask _
    rw [final_error hstep]
    refine .same (refl_of _ _) fun uid' racer' item' egg hgives => ?_
    cases hracer.symm.trans hgives.invoker
    cases hitem.symm.trans hgives.eventItem
    cases hegg.symm.trans hgives.eggInfo
  | ok egg =>
    have hask : ask (fun _ : RaceInstance => registry.getEggInfoByDeckId item.itemType) race =
        .ok egg race := ask_ok hegg
    have hstep : getEventItem registry around uid item command lookups race =
        (giveEgg uid egg.tid lookups >>= fun itemUid => do
          recordGift itemUid ⟨item.serial, uid, owns egg.tid uid race.data⟩
          endPickup around uid itemUid egg.tid item command) race :=
      (bind_ok hask _).trans (bind_ok (get_apply race) _)
    -- what is given is given for this item
    have hadditions : ∀ uid' racer' item' egg',
        Gives registry around client command lookups race uid' racer' item' egg' →
          ∃ character itemUid held, characterStorage.find lookups.character uid race.data = some character ∧
            added lookups.items egg.tid (.count 1) ⟨character, race.data⟩ = some (itemUid, held) ∧
              itemUid ≠ invalidUid := by
      intro uid' racer' item' egg' hgives
      cases hracer.symm.trans hgives.invoker
      cases hitem.symm.trans hgives.eventItem
      cases hegg.symm.trans hgives.eggInfo
      exact hgives.addition
    rw [completes_congr hstep, final_congr hstep]
    cases hcharacter : characterStorage.find lookups.character uid race.data with
    | none =>
      rw [final_bind_error (giveEgg_unavailable hcharacter)]
      refine .same (refl_of _ _) fun uid' racer' item' egg' hgives => ?_
      obtain ⟨character, _, _, hsome, _⟩ := hadditions uid' racer' item' egg' hgives
      cases hcharacter.symm.trans hsome
    | some character =>
      cases hadded : added lookups.items egg.tid (.count 1) ⟨character, race.data⟩ with
      | none =>
        rw [final_bind_error (giveEgg_terminated hcharacter hadded)]
        refine .same (refl_of _ _) fun uid' racer' item' egg' hgives => ?_
        obtain ⟨other, _, _, hsome, hother, _⟩ := hadditions uid' racer' item' egg' hgives
        cases hcharacter.symm.trans hsome
        cases hadded.symm.trans hother
      | some addition =>
        obtain ⟨itemUid, held⟩ := addition
        have hgiven := giveEgg_added hcharacter hadded
        rw [completes_bind_ok hgiven, final_bind_ok hgiven]
        by_cases hinvalid : itemUid = invalidUid
        · -- the item grew no more: the pickup goes on without an egg
          subst hinvalid
          cases added_invalid hadded
          have hsame : ({ race with data := characterStorage.write uid character race.data } : RaceInstance) =
              race := by
            rw [write_self (find_eq_some.1 hcharacter).2.2]
          have hnone : ∀ uid racer item egg,
              ¬Gives registry around client command lookups race uid racer item egg := by
            intro uid' racer' item' egg' hgives
            obtain ⟨other, _, _, hsome, hother, hvalid⟩ := hadditions uid' racer' item' egg' hgives
            cases hcharacter.symm.trans hsome
            cases hadded.symm.trans hother
            exact hvalid rfl
          have hskip : recordGift invalidUid ⟨item.serial, uid, owns egg.tid uid race.data⟩ race =
              .ok ⟨⟩ race := rfl
          rw [hsame, completes_bind_ok hskip, final_bind_ok hskip]
          by_cases hreachable : around.Reachable
          · obtain ⟨after, hend, hafter⟩ := endPickup_reachable hreachable race
            rw [final_ok hend]
            exact .removed uid hafter (completes_iff.2 ⟨_, _, hend⟩) hnone
          · exact .same (endPickup_unreachable hreachable race) hnone
        · have hgives : Gives registry around client command lookups race uid racer item egg :=
            ⟨hracer, hitem, hegg, character, itemUid, held, hcharacter, hadded, hinvalid⟩
          have hgift : recordGift itemUid ⟨item.serial, uid, owns egg.tid uid race.data⟩
              { race with data := characterStorage.write uid held.value held.data } =
                .ok ⟨⟩ (withGift (characterStorage.write uid held.value held.data)
                  ⟨item.serial, uid, owns egg.tid uid race.data⟩ race) := by
            rw [recordGift, if_pos hinvalid]
            rfl
          rw [completes_bind_ok hgift, final_bind_ok hgift]
          by_cases hreachable : around.Reachable
          · obtain ⟨after, hend, hafter⟩ := endPickup_reachable hreachable
              (withGift (characterStorage.write uid held.value held.data)
                ⟨item.serial, uid, owns egg.tid uid race.data⟩ race)
            rw [final_ok hend]
            exact .given uid racer item egg _ hgives hreachable (completes_iff.2 ⟨_, _, hend⟩) hafter
          · exact .stuck uid racer item egg _ hgives hreachable (endPickup_unreachable hreachable _)

theorem pickupOutcome (race : RaceInstance) :
    PickupOutcome registry around client command lookups race
      ((handleUserRaceItemGet registry around client command lookups).Completes race)
      ((handleUserRaceItemGet registry around client command lookups).final race) := by
  cases hracer : around.getRacer client race with
  | error failure =>
    have hstep : handleUserRaceItemGet registry around client command lookups race = .error failure race :=
      bind_error (ask_error hracer) _
    rw [final_error hstep]
    refine .same (refl_of _ _) fun uid racer item egg hgives => ?_
    cases hracer.symm.trans hgives.invoker
  | ok entry =>
    obtain ⟨uid, racer⟩ := entry
    cases hitem : findEventItem racer command.itemDeckId with
    | none =>
      have hnone : ∀ uid racer item egg,
          ¬Gives registry around client command lookups race uid racer item egg := by
        intro uid' racer' item egg hgives
        cases hracer.symm.trans hgives.invoker
        cases hitem.symm.trans hgives.eventItem
      refine .same ?_ hnone
      rw [handleUserRaceItemGet, final_bind_ok (ask_ok hracer)]
      dsimp only
      rw [hitem]
      dsimp only
      rw [final_bind_ok (get_apply race)]
      cases race.itemDecks[command.itemDeckId]? with
      | none => exact refl_of _ _
      | some deck =>
        dsimp only
        split
        · exact refl_of _ _
        · exact SameEggs.getDeck race
    | some item =>
      have hstep : handleUserRaceItemGet registry around client command lookups race =
          getEventItem registry around uid item command lookups race := by
        rw [handleUserRaceItemGet, bind_ok (ask_ok hracer)]
        dsimp only
        rw [hitem]
      rw [completes_congr hstep, final_congr hstep]
      exact eventItemOutcome hracer hitem

end PickupOutcome

end Alicia.Magic
