import Alicia.Incubator.Boosts
import Alicia.Possession.Deliveries

/-!
# Hatching

A birth consumes one ripe egg of the slot with its item, and brings the pet with an item of its own, or the pity item.  The
egg is gone before anything is known of the pet, no command looks at the clock, and an egg is put into any slot that the
client names.
-/

namespace Alicia.Incubator

open Transition Effect Data Possession Registry Function Storage PetRegistry
open Chrono (TimePoint)
open DataDirector (characterStorage itemStorage eggStorage petStorage)

/-! ## What a birth is for -/

/-- The time to hatch, less eight hours for each boost, has passed. -/
def Ripe (now : TimePoint) (info : EggInfo) (egg : Egg) : Prop :=
  info.hatchDuration.toInt - egg.boostsUsed.toNat * boostDuration.toInt ≤
    now.sinceEpoch.toInt - egg.incubatedAt.sinceEpoch.toInt

instance (now : TimePoint) (info : EggInfo) (egg : Egg) : Decidable (Ripe now info egg) := Int.decLe ..

/-- Whether the character has a pet of the kind. -/
def hasPet (petId : UInt32) (held : Held Character) : Prop :=
  ∃ uid ∈ held.value.pets, ∃ pet ∈ held.data.pets uid, pet.petId = petId

/-- An egg in the slot that is ripe, and its item. -/
structure Hatchable (registry : PetRegistry) (now : TimePoint) (slot : UInt32) (hatching : Hatching)
    (held : Held Character) (info : EggInfo) : Prop where
  egg : ∃ egg ∈ held.data.eggs hatching.uid, egg.incubatorSlot = slot ∧ egg.itemUid = hatching.itemUid ∧
    egg.itemTid = hatching.tid ∧ Ripe now info egg
  listed : hatching.uid ∈ held.value.eggs
  item : ∃ item ∈ held.data.items hatching.itemUid, item.tid = hatching.tid
  owned : hatching.itemUid ∈ held.value.inventory
  known : registry.eggs hatching.tid = some info

/-- The value of a character is written, and accessed again. -/
def reaccess (caller : Uid) (held : Held Character) : Held Character :=
  ⟨held.value, characterStorage.write caller held.value held.data⟩

/-- One piece of an item is received by the character. -/
def Obtained (caller : Uid) (now : TimePoint) (tid : Tid) (held : Held Character) (uid : Uid)
    (after : DataDirector) : Prop :=
  ∃ item received, Received now tid (.count 1) (reaccess caller held) uid item received ∧
    after = characterStorage.write caller received.value received.data

/-- The record of a new pet. -/
def writePet (now : TimePoint) (petId : UInt32) (uid : Uid) (held : Held Character) : Held Character :=
  pushPet uid { held with data := petStorage.write uid (newPet now petId uid) held.data }

/-- One ripe egg and its item are gone, and there is a new pet with its item, or else the pity item. -/
def Hatched (registry : PetRegistry) (lookups : BirthLookups) (caller : Uid) (slot : UInt32)
    (data after : DataDirector) : Prop :=
  ∃ character ∈ data.characters caller, ∃ hatching info,
    Hatchable registry lookups.now slot hatching ⟨character, data⟩ info ∧
      ∃ petItemTid ∈ info.hatchablePets, ∃ pet ∈ registry.pets petItemTid,
        let removed := removeHatched hatching ⟨character, data⟩
        (hasPet pet.petId ⟨character, data⟩ ∧ ∃ uid, Obtained caller lookups.item.now pityItemTid removed uid after) ∨
          ¬hasPet pet.petId ⟨character, data⟩ ∧ ∃ petUid uid born, data.pets petUid = none ∧
            Obtained caller lookups.item.now petItemTid (writePet lookups.now pet.petId petUid removed) uid born ∧
            after = petStorage.write petUid { newPet lookups.now pet.petId petUid with itemUid := uid } born

/-- A birth hatches one egg, or changes nothing. -/
def Hatches (registry : PetRegistry) (lookups : BirthLookups) (caller : Uid) (slot : UInt32)
    (data : DataDirector) : Prop :=
  match handleRequestPetBirth registry lookups caller slot data with
  | .ok _ after => Hatched registry lookups caller slot data after
  | .error (.thrown _) after => after = data
  | .error _ _ => False

/-- No two eggs of a character are in one slot. -/
def SlotsDistinct (data : DataDirector) : Prop :=
  ∀ caller character, data.characters caller = some character → ∀ first ∈ character.eggs, ∀ second ∈ character.eggs,
    ∀ egg ∈ data.eggs first, ∀ other ∈ data.eggs second, egg.incubatorSlot = other.incubatorSlot → first = second

/-! ## The condition -/

section Condition

variable (registry : PetRegistry) (lookups : BirthLookups)

/-- The item can be obtained. -/
def Obtainable (caller : Uid) (tid : Tid) (held : Held Character) : Prop :=
  ∃ result ∈ added lookups.item tid (.count 1) (reaccess caller held), result.1 ≠ invalidUid ∧
    Grows lookups.item tid (.count 1) (reaccess caller held) ∧ lookups.createdItem = true

/-- The pet that is drawn for an egg. -/
def drawnPet (info : EggInfo) : Option Tid := info.hatchablePets[lookups.draw % info.hatchablePets.length]?

/-- No pet comes of the egg, since a template is not known or the pet that the character lacks cannot be created. -/
def Barren (tid : Tid) (held : Held Character) : Prop :=
  ∀ info ∈ registry.eggs tid, ∃ petItemTid ∈ drawnPet lookups info, ∀ pet ∈ registry.pets petItemTid,
    (petStorage.cachedAll lookups.pets held.data held.value.pets).isSome = true ∧ ¬hasPet pet.petId held ∧
      petStorage.fresh lookups.createdPet held.data = none

/-- The egg and its item can be removed, and a pet or the pity item can be had for them. -/
def BirthReady (caller : Uid) (slot : UInt32) (hatching : Hatching) (held : Held Character) : Prop :=
  ∃ info, Hatchable registry lookups.now slot hatching held info ∧
    ∃ petItemTid ∈ drawnPet lookups info, ∃ pet ∈ registry.pets petItemTid,
      (petStorage.cachedAll lookups.pets held.data held.value.pets).isSome = true ∧
        (hasPet pet.petId held ∧ Obtainable lookups caller pityItemTid (removeHatched hatching held) ∨
          ¬hasPet pet.petId held ∧ ∃ petUid ∈ petStorage.fresh lookups.createdPet held.data, lookups.pet = true ∧
            Obtainable lookups caller petItemTid (writePet lookups.now pet.petId petUid (removeHatched hatching held)))

/-- The condition for a birth: the egg in the slot is ready, or there is none and nothing else is removed. -/
def BirthFits (caller : Uid) (slot : UInt32) (data : DataDirector) : Prop :=
  ∀ character ∈ characterStorage.find lookups.character caller data,
    ∀ eggs ∈ eggStorage.cachedAll lookups.eggs data character.eggs,
      removeHatched (hatchingEgg slot eggs) ⟨character, data⟩ = ⟨character, data⟩ ∧
          Barren registry lookups (hatchingEgg slot eggs).tid ⟨character, data⟩ ∨
        BirthReady registry lookups caller slot (hatchingEgg slot eggs) ⟨character, data⟩

end Condition

/-- The condition for an incubation: no egg of a character who has the new egg is in the slot. -/
def SlotFree (registry : PetRegistry) (lookups : IncubateLookups) (caller : Uid) (command : IncubateEgg)
    (data : DataDirector) : Prop :=
  (characterStorage.find lookups.character caller data).isSome = true →
    (registry.eggs command.itemTid).isSome = true →
      ∀ created ∈ eggStorage.fresh lookups.created data, ∀ uid character, data.characters uid = some character →
        (uid = caller ∨ created ∈ character.eggs) →
          ∀ other ∈ character.eggs, ∀ egg ∈ data.eggs other, egg.incubatorSlot ≠ command.incubatorSlot

/-- The condition under which a command keeps to what the incubators are for. -/
def InputFits (registry : PetRegistry) (data : DataDirector) : Input → Prop
  | (caller, .incubateEgg command lookups) => SlotFree registry lookups caller command data
  | (_, .boostIncubateEgg _ _) => True
  | (caller, .requestPetBirth slot lookups) => BirthFits registry lookups caller slot data

/-- A birth hatches one egg or changes nothing. -/
def HatchesOne (registry : PetRegistry) (data : DataDirector) : Input → Prop
  | (caller, .requestPetBirth slot lookups) => Hatches registry lookups caller slot data
  | _ => True

/-! ## The birth of a pet -/

section Birth

variable {registry : PetRegistry} {lookups : BirthLookups} {caller : Uid} {slot : UInt32} {data : DataDirector}
  {character : Character} {hatching : Hatching} {held : Held Character} {info : EggInfo} {petItemTid : Tid}
  {pet : PetInfo}

theorem any_petId {pets : List Pet} {petId : UInt32}
    (h : petStorage.cachedAll lookups.pets held.data held.value.pets = some pets) :
    (pets.any fun pet => pet.petId = petId) = true ↔ hasPet petId held := by
  rw [List.any_eq_true]
  constructor
  · rintro ⟨pet, hpet, hsame⟩
    obtain ⟨uid, huid, hrecord⟩ := mem_cachedAll h hpet
    exact ⟨uid, huid, pet, hrecord, of_decide_eq_true hsame⟩
  · rintro ⟨uid, huid, pet, hrecord, hsame⟩
    exact ⟨pet, mem_cachedAll_of_records h huid hrecord, decide_eq_true hsame⟩

/-- An egg with a known pet, as far as the pets of the character. -/
theorem bearPet_drawn (hegg : registry.eggs hatching.tid = some info) (hdrawn : drawnPet lookups info = some petItemTid)
    (hpet : registry.pets petItemTid = some pet) {pets : List Pet}
    (hpets : petStorage.cachedAll lookups.pets held.data held.value.pets = some pets) :
    bearPet registry lookups hatching held =
      if pets.any fun other => other.petId = pet.petId then .ok ⟨hatching, true, petItemTid, invalidUid, {}⟩ held
      else
        match petStorage.fresh lookups.createdPet held.data with
        | none => .error (.thrown "Failed to create pet for user") held
        | some uid => .ok ⟨hatching, false, petItemTid, uid, newPet lookups.now pet.petId invalidUid⟩
            (writePet lookups.now pet.petId uid held) := by
  rw [bearPet, bind_apply, getEggInfo, hegg]
  rw [drawnPet] at hdrawn
  simp only [template, pure_apply, hdrawn, getPetInfo, hpet, bind_apply, get_apply, hpets]
  split
  · rfl
  · rw [bind_apply, createOr]
    cases petStorage.fresh lookups.createdPet held.data <;> rfl

theorem bearPet_owned (hegg : registry.eggs hatching.tid = some info) (hdrawn : drawnPet lookups info = some petItemTid)
    (hpet : registry.pets petItemTid = some pet)
    (hpets : (petStorage.cachedAll lookups.pets held.data held.value.pets).isSome = true)
    (howned : hasPet pet.petId held) :
    bearPet registry lookups hatching held = .ok ⟨hatching, true, petItemTid, invalidUid, {}⟩ held := by
  obtain ⟨pets, hpets⟩ := Option.isSome_iff_exists.1 hpets
  rw [bearPet_drawn hegg hdrawn hpet hpets, if_pos ((any_petId hpets).2 howned)]

theorem bearPet_born (hegg : registry.eggs hatching.tid = some info) (hdrawn : drawnPet lookups info = some petItemTid)
    (hpet : registry.pets petItemTid = some pet)
    (hpets : (petStorage.cachedAll lookups.pets held.data held.value.pets).isSome = true)
    (hlacks : ¬hasPet pet.petId held) {petUid : Uid} (hfresh : petStorage.fresh lookups.createdPet held.data = some petUid) :
    bearPet registry lookups hatching held =
      .ok ⟨hatching, false, petItemTid, petUid, newPet lookups.now pet.petId invalidUid⟩
        (writePet lookups.now pet.petId petUid held) := by
  obtain ⟨pets, hpets⟩ := Option.isSome_iff_exists.1 hpets
  rw [bearPet_drawn hegg hdrawn hpet hpets, if_neg (mt (any_petId hpets).1 hlacks), hfresh]

theorem bearPet_barren (h : Barren registry lookups hatching.tid held) :
    ∃ what, bearPet registry lookups hatching held = .error (.thrown what) held := by
  cases hegg : registry.eggs hatching.tid with
  | none =>
    rw [bearPet, bind_apply, getEggInfo, hegg]
    exact ⟨_, rfl⟩
  | some info =>
    obtain ⟨petItemTid, hdrawn, h⟩ := h info hegg
    cases hpet : registry.pets petItemTid with
    | none =>
      rw [bearPet, bind_apply, getEggInfo, hegg]
      have hdrawn : drawnPet lookups info = some petItemTid := hdrawn
      rw [drawnPet] at hdrawn
      simp only [template, pure_apply, hdrawn, getPetInfo, hpet, bind_apply]
      exact ⟨_, rfl⟩
    | some pet =>
      obtain ⟨hpets, hlacks, hfresh⟩ := h pet hpet
      obtain ⟨pets, hpets⟩ := Option.isSome_iff_exists.1 hpets
      rw [bearPet_drawn hegg hdrawn hpet hpets, if_neg (mt (any_petId hpets).1 hlacks), hfresh]
      exact ⟨_, rfl⟩

theorem hatch_apply {eggs : List Egg}
    (heggs : eggStorage.cachedAll lookups.eggs held.data held.value.eggs = some eggs) :
    hatch registry lookups slot held =
      bearPet registry lookups (hatchingEgg slot eggs) (removeHatched (hatchingEgg slot eggs) held) := by
  rw [hatch, bind_apply, get_apply]
  dsimp only
  rw [heggs]
  rfl

/-- A birth that throws before a record has changed changes none. -/
theorem birth_throws (hfind : characterStorage.find lookups.character caller data = some character) {what : String}
    (hhatch : hatch registry lookups slot ⟨character, data⟩ = .error (.thrown what) ⟨character, data⟩) :
    handleRequestPetBirth registry lookups caller slot data = .error (.thrown what) data := by
  rw [handleRequestPetBirth, bind_apply, access_error _ hfind hhatch]
  dsimp only
  rw [write_self (find_eq_some.1 hfind).2.2]

/-- A birth whose item is received and linked succeeds. -/
theorem birth_succeeds (hfind : characterStorage.find lookups.character caller data = some character) {birth : Birth}
    {after : Held Character} (hhatch : hatch registry lookups slot ⟨character, data⟩ = .ok birth held) {uid : Uid}
    (hadded : added lookups.item (itemTidToCreate birth) (.count 1) (reaccess caller held) = some (uid, after))
    (hvalid : uid ≠ invalidUid) {linked : DataDirector}
    (hlink : linkPet lookups birth uid (characterStorage.write caller after.value after.data) = .ok ⟨⟩ linked) {item : Item}
    (hitem : itemStorage.find lookups.createdItem uid linked = some item) :
    ∃ reply, handleRequestPetBirth registry lookups caller slot data = .ok reply linked := by
  have hcaller : caller ≠ invalidUid := (find_eq_some.1 hfind).1
  have hagain : characterStorage.find true caller (characterStorage.write caller held.value held.data) = some held.value :=
    find_write hcaller held.value held.data
  have hadd : addItem lookups.item (itemTidToCreate birth) (.count 1)
      ⟨held.value, characterStorage.write caller held.value held.data⟩ = .ok uid after := by
    rw [addItem_apply]
    rw [reaccess] at hadded
    rw [hadded]
  rw [handleRequestPetBirth, bind_apply, access_ok _ hfind hhatch]
  dsimp only
  rw [bind_apply, access_ok _ hagain hadd]
  dsimp only
  rw [if_neg hvalid, bind_apply, hlink]
  dsimp only
  rw [bind_apply, adaptExcept_apply, immutable_apply, hitem]
  exact ⟨_, rfl⟩

/-- The item that is obtained has a record. -/
theorem obtained_of_obtainable {tid : Tid} (hid : held.data.Identified)
    (h : Obtainable lookups caller tid held) :
    ∃ uid after item, added lookups.item tid (.count 1) (reaccess caller held) = some (uid, after) ∧ uid ≠ invalidUid ∧
      itemStorage.find lookups.createdItem uid after.data = some item ∧
      Obtained caller lookups.item.now tid held uid (characterStorage.write caller after.value after.data) := by
  obtain ⟨⟨uid, after⟩, hadded, hvalid, hgrows, hcreated⟩ := h
  have hid : (reaccess caller held).data.Identified := write_identified hid
  obtain ⟨item, hitem⟩ := added_record hadded hvalid
  obtain ⟨received, hreceived⟩ := (exists_received_iff hid hadded hvalid).2 hgrows
  rw [← hcreated] at hitem
  exact ⟨uid, after, item, hadded, hvalid, hitem, received, after, hreceived, rfl⟩

theorem pets_removeHatched :
    (petStorage.cachedAll lookups.pets (removeHatched hatching held).data (removeHatched hatching held).value.pets).isSome =
      (petStorage.cachedAll lookups.pets held.data held.value.pets).isSome := by
  have hrecords : petStorage.records (removeHatched hatching held).data = petStorage.records held.data := rfl
  rw [cachedAll_congr hrecords]
  rfl

theorem removeHatched_identified (hid : held.data.Identified) : (removeHatched hatching held).data.Identified := by
  refine ⟨fun uid item hitem => ?_⟩
  have hitem : update held.data.items hatching.itemUid none uid = some item := hitem
  by_cases hsame : uid = hatching.itemUid
  · subst hsame
    rw [update_self] at hitem
    cases hitem
  · rw [update_of_ne hsame] at hitem
    exact hid.items uid item hitem

section Drawn

variable (hid : data.Identified)
  (hfind : characterStorage.find lookups.character caller data = some character) {eggs : List Egg}
  (heggs : eggStorage.cachedAll lookups.eggs data character.eggs = some eggs)
  (hhatchable : Hatchable registry lookups.now slot (hatchingEgg slot eggs) ⟨character, data⟩ info)
  (hdrawn : drawnPet lookups info = some petItemTid) (hpet : registry.pets petItemTid = some pet)
  (hpets : (petStorage.cachedAll lookups.pets data character.pets).isSome = true)

include hid hfind heggs hhatchable hdrawn hpet hpets

/-- A pet that is owned gives the pity item. -/
theorem hatches_owned (howned : hasPet pet.petId ⟨character, data⟩)
    (hobtainable : Obtainable lookups caller pityItemTid (removeHatched (hatchingEgg slot eggs) ⟨character, data⟩)) :
    Hatches registry lookups caller slot data := by
  have hhatch : hatch registry lookups slot ⟨character, data⟩ = .ok ⟨hatchingEgg slot eggs, true, petItemTid, invalidUid, {}⟩
      (removeHatched (hatchingEgg slot eggs) ⟨character, data⟩) := by
    rw [hatch_apply heggs]
    exact bearPet_owned hhatchable.known hdrawn hpet (pets_removeHatched.trans hpets) howned
  have hid : (removeHatched (hatchingEgg slot eggs) ⟨character, data⟩).data.Identified := removeHatched_identified hid
  obtain ⟨uid, after, item, hadded, hvalid, hitem, hobtained⟩ := obtained_of_obtainable hid hobtainable
  obtain ⟨reply, hok⟩ := birth_succeeds hfind hhatch hadded hvalid rfl hitem
  rw [Hatches, hok]
  exact ⟨character, (find_eq_some.1 hfind).2.2, hatchingEgg slot eggs, info, hhatchable, petItemTid,
    List.mem_of_getElem? hdrawn, pet, hpet, .inl ⟨howned, uid, hobtained⟩⟩

/-- A pet that is new is born, and linked to its item. -/
theorem hatches_born (hlacks : ¬hasPet pet.petId ⟨character, data⟩) {petUid : Uid}
    (hfresh : petStorage.fresh lookups.createdPet data = some petUid) (havailable : lookups.pet = true)
    (hobtainable : Obtainable lookups caller petItemTid
      (writePet lookups.now pet.petId petUid (removeHatched (hatchingEgg slot eggs) ⟨character, data⟩))) :
    Hatches registry lookups caller slot data := by
  have hhatch : hatch registry lookups slot ⟨character, data⟩ =
      .ok ⟨hatchingEgg slot eggs, false, petItemTid, petUid, newPet lookups.now pet.petId invalidUid⟩
        (writePet lookups.now pet.petId petUid (removeHatched (hatchingEgg slot eggs) ⟨character, data⟩)) := by
    rw [hatch_apply heggs]
    have hlacks : ¬hasPet pet.petId (removeHatched (hatchingEgg slot eggs) ⟨character, data⟩) := hlacks
    exact bearPet_born hhatchable.known hdrawn hpet (pets_removeHatched.trans hpets) hlacks hfresh
  obtain ⟨-, hvalidPet, hnone⟩ := fresh_eq_some.1 hfresh
  have hid : (writePet lookups.now pet.petId petUid
      (removeHatched (hatchingEgg slot eggs) ⟨character, data⟩)).data.Identified :=
    ⟨(removeHatched_identified hid).items⟩
  obtain ⟨uid, after, item, hadded, hvalid, hitem, hobtained⟩ := obtained_of_obtainable hid hobtainable
  -- The addition has left the record of the pet alone.
  have hrecord : (characterStorage.write caller after.value after.data).pets petUid =
      some (newPet lookups.now pet.petId petUid) := by
    have hsame : after.data.pets = (reaccess caller (writePet lookups.now pet.petId petUid
        (removeHatched (hatchingEgg slot eggs) ⟨character, data⟩))).data.pets := by rw [(added_frame hadded).2]
    exact (congrFun hsame petUid).trans (update_self ..)
  have hfound : petStorage.find true petUid (characterStorage.write caller after.value after.data) =
      some (newPet lookups.now pet.petId petUid) := find_eq_some.2 ⟨hvalidPet, rfl, hrecord⟩
  have hlink : linkPet lookups
      ⟨hatchingEgg slot eggs, false, petItemTid, petUid, newPet lookups.now pet.petId invalidUid⟩ uid
      (characterStorage.write caller after.value after.data) =
        .ok ⟨⟩ (petStorage.write petUid { newPet lookups.now pet.petId petUid with itemUid := uid }
          (characterStorage.write caller after.value after.data)) := by
    rw [linkPet, if_neg Bool.false_ne_true, adaptExcept_apply, havailable, mutable_apply, hfound]
  obtain ⟨reply, hok⟩ := birth_succeeds hfind hhatch hadded hvalid hlink hitem
  rw [Hatches, hok]
  exact ⟨character, (find_eq_some.1 hfind).2.2, hatchingEgg slot eggs, info, hhatchable, petItemTid,
    List.mem_of_getElem? hdrawn, pet, hpet, .inr ⟨hlacks, petUid, uid, _, hnone, hobtained, rfl⟩⟩

end Drawn

/-- A birth that fits hatches one egg, or changes nothing. -/
theorem hatches_of_fits (hid : data.Identified) (hfits : BirthFits registry lookups caller slot data) :
    Hatches registry lookups caller slot data := by
  cases hfind : characterStorage.find lookups.character caller data with
  | none =>
    have hthrown : handleRequestPetBirth registry lookups caller slot data =
        .error (.thrown "Value of the record is unavailable") data := by
      rw [handleRequestPetBirth, bind_apply, Storage.access, hfind]
    rw [Hatches, hthrown]
  | some character =>
  cases heggs : eggStorage.cachedAll lookups.eggs data character.eggs with
  | none =>
    have hhatch : hatch registry lookups slot ⟨character, data⟩ =
        .error (.thrown "Egg records not available") ⟨character, data⟩ := by
      rw [hatch, bind_apply, get_apply]
      dsimp only
      rw [heggs]
      rfl
    rw [Hatches, birth_throws hfind hhatch]
  | some eggs =>
  obtain ⟨huntouched, hbarren⟩ | ⟨info, hhatchable, petItemTid, hdrawn, pet, hpet, hpets, hready⟩ :=
    hfits character hfind eggs heggs
  · obtain ⟨what, hthrown⟩ := bearPet_barren hbarren
    have hhatch : hatch registry lookups slot ⟨character, data⟩ = .error (.thrown what) ⟨character, data⟩ := by
      rw [hatch_apply heggs, huntouched]
      exact hthrown
    rw [Hatches, birth_throws hfind hhatch]
  · obtain ⟨howned, hobtainable⟩ | ⟨hlacks, petUid, hfresh, havailable, hobtainable⟩ := hready
    · exact hatches_owned hid hfind heggs hhatchable hdrawn hpet hpets howned hobtainable
    · exact hatches_born hid hfind heggs hhatchable hdrawn hpet hpets hlacks hfresh havailable hobtainable

end Birth

/-! ## Boosts and births put no egg into a slot -/

/-- No character has an egg that was not there before in its slot. -/
structure Shrinks (before after : DataDirector) : Prop where
  listed : ∀ uid character, after.characters uid = some character →
    ∃ old, before.characters uid = some old ∧ character.eggs ⊆ old.eggs
  slots : ∀ uid egg, after.eggs uid = some egg →
    ∃ old, before.eggs uid = some old ∧ old.incubatorSlot = egg.incubatorSlot
  items : before.Identified → after.Identified

/-- The same for a character whose value is in use. -/
structure ShrinksHeld (before after : Held Character) : Prop where
  eggs : after.value.eggs ⊆ before.value.eggs
  characters : after.data.characters = before.data.characters
  slots : ∀ uid egg, after.data.eggs uid = some egg →
    ∃ old, before.data.eggs uid = some old ∧ old.incubatorSlot = egg.incubatorSlot
  items : before.data.Identified → after.data.Identified

instance : Std.Refl Shrinks :=
  ⟨fun _ => ⟨fun _ character h => ⟨character, h, List.Subset.refl _⟩, fun _ egg h => ⟨egg, h, rfl⟩, id⟩⟩

instance : IsTrans DataDirector Shrinks := by
  refine ⟨fun first second third h hnext => ⟨fun uid character hcharacter => ?_, fun uid egg hegg => ?_, hnext.items ∘ h.items⟩⟩
  · obtain ⟨middle, hmiddle, hsubset⟩ := hnext.listed uid character hcharacter
    obtain ⟨old, hold, hsubset'⟩ := h.listed uid middle hmiddle
    exact ⟨old, hold, List.Subset.trans hsubset hsubset'⟩
  · obtain ⟨middle, hmiddle, hslot⟩ := hnext.slots uid egg hegg
    obtain ⟨old, hold, hslot'⟩ := h.slots uid middle hmiddle
    exact ⟨old, hold, hslot'.trans hslot⟩

instance : Std.Refl ShrinksHeld := ⟨fun _ => ⟨List.Subset.refl _, rfl, fun _ egg h => ⟨egg, h, rfl⟩, id⟩⟩

instance : IsTrans (Held Character) ShrinksHeld := by
  refine ⟨fun first second third h hnext => ⟨List.Subset.trans hnext.eggs h.eggs,
    hnext.characters.trans h.characters, fun uid egg hegg => ?_, hnext.items ∘ h.items⟩⟩
  obtain ⟨middle, hmiddle, hslot⟩ := hnext.slots uid egg hegg
  obtain ⟨old, hold, hslot'⟩ := h.slots uid middle hmiddle
  exact ⟨old, hold, hslot'.trans hslot⟩

theorem SlotsDistinct.shrinks {before after : DataDirector} (hdistinct : SlotsDistinct before) (h : Shrinks before after) :
    SlotsDistinct after := by
  intro uid character hcharacter first hfirst second hsecond egg hegg other hother hslot
  obtain ⟨old, hold, hsubset⟩ := h.listed uid character hcharacter
  obtain ⟨egg', hegg', hslot'⟩ := h.slots first egg hegg
  obtain ⟨other', hother', hslot''⟩ := h.slots second other hother
  refine hdistinct uid old hold first (hsubset hfirst) second (hsubset hsecond) egg' hegg' other' hother' ?_
  rw [hslot', hslot, ← hslot'']

/-- An access to a character. -/
theorem shrinks_write {available : Bool} {caller : Uid} {data : DataDirector} {character : Character}
    {after : Held Character} (hfind : characterStorage.find available caller data = some character)
    (h : ShrinksHeld ⟨character, data⟩ after) : Shrinks data (characterStorage.write caller after.value after.data) := by
  refine ⟨fun uid value hvalue => ?_, h.slots, fun hid => write_identified (h.items hid)⟩
  have hvalue : update after.data.characters caller (some after.value) uid = some value := hvalue
  by_cases hsame : uid = caller
  · subst hsame
    rw [update_self] at hvalue
    cases hvalue
    exact ⟨character, (find_eq_some.1 hfind).2.2, h.eggs⟩
  · rw [update_of_ne hsame, h.characters] at hvalue
    exact ⟨value, hvalue, List.Subset.refl _⟩

theorem keeps_access {α : Type} {available : Bool} {caller : Uid} (unavailable : Failure)
    {consumer : Effect (Held Character) Failure α} (h : Keeps ShrinksHeld consumer) :
    Keeps Shrinks (characterStorage.access unavailable available caller consumer) :=
  Storage.keeps_access fun data value hfind => shrinks_write hfind (h ⟨value, data⟩)

section Shrink

variable (registry : PetRegistry)

theorem shrinks_boostHeld (uids : List Uid) (held : Held Character) : ShrinksHeld held (boostHeld uids held) := by
  refine ⟨List.Subset.refl _, rfl, ?_, fun hid => ⟨hid.items⟩⟩
  have hrecords : ∀ (uids : List Uid) (eggs : Table Egg) (uid : Uid) (egg : Egg),
      boostRecords uids eggs uid = some egg → ∃ old, eggs uid = some old ∧ old.incubatorSlot = egg.incubatorSlot := by
    intro uids
    induction uids with
    | nil => exact fun eggs uid egg hegg => ⟨egg, hegg, rfl⟩
    | cons first rest ih =>
      intro eggs uid egg hegg
      obtain ⟨middle, hmiddle, hslot⟩ := ih (boostRecord eggs first) uid egg hegg
      by_cases hsame : uid = first
      · subst hsame
        rw [boostRecord, update_self] at hmiddle
        obtain ⟨old, hold, rfl⟩ := Option.map_eq_some_iff.1 hmiddle
        exact ⟨old, hold, hslot⟩
      · rw [boostRecord, update_of_ne hsame] at hmiddle
        exact ⟨middle, hmiddle, hslot⟩
  exact hrecords uids held.data.eggs

theorem shrinks_consumeItem (available : Uid → Bool) (tid : Tid) (held : Held Character) :
    ShrinksHeld held (consumeItem available tid 1 held).2 := by
  have hframe := itemsOnly_consumeItem available tid 1 held
  have heggs : (consumeItem available tid 1 held).2.value.eggs = held.value.eggs := by rw [hframe.character]
  have hcharacters : (consumeItem available tid 1 held).2.data.characters = held.data.characters := by rw [hframe.data]
  have hrecords : (consumeItem available tid 1 held).2.data.eggs = held.data.eggs := by rw [hframe.data]
  refine ⟨heggs ▸ List.Subset.refl _, hcharacters, fun uid egg hegg => ⟨egg, ?_, rfl⟩,
    fun hid => (remains_consumeItem available tid 1 held).identified hid⟩
  rw [← hrecords]
  exact hegg

theorem keeps_boostIncubateEgg (lookups : BoostLookups) (command : BoostIncubateEgg) :
    Keeps ShrinksHeld (boostIncubateEgg registry lookups command) := by
  intro held
  cases hitem : itemStorage.cached lookups.item command.itemUid held.data with
  | none =>
    rw [final_boostIncubateEgg_none hitem]
    exact refl_of ShrinksHeld held
  | some item =>
    rw [final_boostIncubateEgg hitem]
    exact trans_of ShrinksHeld (shrinks_consumeItem lookups.inventory item.tid held) (shrinks_boostHeld _ _)

theorem keeps_template {α : Type} (lookup : Except String α) :
    Keeps ShrinksHeld (template lookup : Effect (Held Character) Failure α) := by
  cases lookup with
  | error what => exact .throw _
  | ok info => exact .pure _

theorem shrinks_removeHatched (hatching : Hatching) (held : Held Character) :
    ShrinksHeld held (removeHatched hatching held) := by
  refine ⟨List.erase_subset, rfl, fun uid egg hegg => ⟨egg, ?_, rfl⟩, removeHatched_identified⟩
  have hegg : update held.data.eggs hatching.uid none uid = some egg := hegg
  by_cases hsame : uid = hatching.uid
  · subst hsame
    rw [update_self] at hegg
    cases hegg
  · rw [update_of_ne hsame] at hegg
    exact hegg

theorem keeps_createPet (failure : Failure) (allocated : Option Uid) (value : Uid → Pet) :
    Keeps ShrinksHeld (createOr petStorage failure allocated value) := by
  intro held
  rw [Effect.final, createOr]
  cases petStorage.fresh allocated held.data with
  | none => exact refl_of ShrinksHeld held
  | some uid => exact ⟨List.Subset.refl _, rfl, fun _ egg h => ⟨egg, h, rfl⟩, fun hid => ⟨hid.items⟩⟩

theorem keeps_bearPet (lookups : BirthLookups) (hatching : Hatching) :
    Keeps ShrinksHeld (bearPet registry lookups hatching) := by
  refine .bind (keeps_template _) fun info => ?_
  split
  · exact .throw _
  · refine .bind (keeps_template _) fun pet => ?_
    refine .bind .get fun held => ?_
    split
    · exact .throw _
    · split
      · exact .pure _
      · refine .bind (keeps_createPet _ _ _) fun uid => ?_
        refine .bind (.modify fun held => ?_) fun _ => .pure _
        exact ⟨List.Subset.refl _, rfl, fun _ egg h => ⟨egg, h, rfl⟩, id⟩

theorem keeps_hatch (lookups : BirthLookups) (slot : UInt32) :
    Keeps ShrinksHeld (hatch registry lookups slot) := by
  refine .bind .get fun held => ?_
  split
  · exact .throw _
  · exact .bind (.modify (shrinks_removeHatched _)) fun _ => keeps_bearPet registry lookups _

theorem keeps_addPiece (lookups : ItemLookups) (tid : Tid) :
    Keeps ShrinksHeld (addItem lookups tid (.count 1)) := by
  intro held
  rw [Effect.final, addItem_apply]
  cases hadded : added lookups tid (.count 1) held with
  | none => exact refl_of ShrinksHeld held
  | some result =>
    obtain ⟨hvalue, hdata⟩ := added_frame hadded
    have heggs : result.2.value.eggs = held.value.eggs := by rw [hvalue]
    have hcharacters : result.2.data.characters = held.data.characters := by rw [hdata]
    have hrecords : result.2.data.eggs = held.data.eggs := by rw [hdata]
    refine ⟨heggs ▸ List.Subset.refl _, hcharacters, fun uid egg hegg => ⟨egg, ?_, rfl⟩,
      fun hid => added_identified hid hadded⟩
    rw [← hrecords]
    exact hegg

theorem keeps_linkPet (lookups : BirthLookups) (birth : Birth) (createdItemUid : Uid) :
    Keeps Shrinks (linkPet lookups birth createdItemUid) := by
  rw [linkPet]
  split
  · exact .pure _
  · refine .adaptExcept (keeps_mutable fun data pet _ => ?_) _
    exact ⟨fun _ character h => ⟨character, h, List.Subset.refl _⟩, fun _ egg h => ⟨egg, h, rfl⟩, fun hid => ⟨hid.items⟩⟩

theorem keeps_handleRequestPetBirth (lookups : BirthLookups) (caller : Uid) (slot : UInt32) :
    Keeps Shrinks (handleRequestPetBirth registry lookups caller slot) := by
  refine .bind (keeps_access _ (keeps_hatch registry lookups slot)) fun birth => ?_
  refine .bind (keeps_access _ (keeps_addPiece lookups.item _)) fun createdItemUid => ?_
  split
  · exact .pure _
  · refine .bind (keeps_linkPet lookups birth createdItemUid) fun _ => ?_
    exact .bind (.adaptExcept (keeps_immutable _ _) _) fun item => .pure _

end Shrink

/-! ## Incubation -/

section Incubation

variable {registry : PetRegistry} {lookups : IncubateLookups} {caller : Uid} {command : IncubateEgg} {data : DataDirector}

/-- An incubation that succeeds has put a new egg into the slot, and otherwise nothing has changed. -/
theorem incubated_or_same : (handleIncubateEgg registry lookups caller command).final data = data ∨
    ∃ character uid, characterStorage.find lookups.character caller data = some character ∧
      (registry.eggs command.itemTid).isSome = true ∧ eggStorage.fresh lookups.created data = some uid ∧
      (handleIncubateEgg registry lookups caller command).final data =
        characterStorage.write caller { character with eggs := character.eggs ++ [uid] }
          (eggStorage.write uid (incubatedEgg lookups command uid) data) := by
  rw [handleIncubateEgg, final_access]
  cases hfind : characterStorage.find lookups.character caller data with
  | none => exact .inl rfl
  | some character =>
  have hcharacter := (find_eq_some.1 hfind).2.2
  dsimp only
  rw [incubateEgg, final_bind, getEggInfo]
  cases hegg : registry.eggs command.itemTid with
  | none => exact .inl (write_self hcharacter)
  | some info =>
  dsimp only [template, pure_apply]
  rw [final_bind, createOr]
  cases hfresh : eggStorage.fresh lookups.created data with
  | none => exact .inl (write_self hcharacter)
  | some uid => exact .inr ⟨character, uid, rfl, rfl, rfl, rfl⟩

/-- An incubation into a free slot keeps the slots distinct. -/
theorem slotsDistinct_incubate (hdistinct : SlotsDistinct data) (hfree : SlotFree registry lookups caller command data) :
    SlotsDistinct ((handleIncubateEgg registry lookups caller command).final data) := by
  obtain hsame | ⟨character, created, hfind, hknown, hfresh, hafter⟩ := @incubated_or_same registry lookups caller command data
  · rw [hsame]
    exact hdistinct
  rw [hafter]
  have hfree := hfree (Option.isSome_iff_exists.2 ⟨character, hfind⟩) hknown created hfresh
  intro owner value hvalue first hfirst second hsecond egg hegg other hother hslot
  have hegg : update data.eggs created (some (incubatedEgg lookups command created)) first = some egg := hegg
  have hother : update data.eggs created (some (incubatedEgg lookups command created)) second = some other := hother
  -- Who had the eggs before, apart from the new one.
  obtain ⟨old, hold, hlisted, hnew⟩ : ∃ old, data.characters owner = some old ∧
      (∀ uid ∈ value.eggs, uid ≠ created → uid ∈ old.eggs) ∧
        (created ∈ value.eggs → owner = caller ∨ created ∈ old.eggs) := by
    have hvalue : update data.characters caller
      (some { character with eggs := character.eggs ++ [created] }) owner = some value := hvalue
    by_cases hcaller : owner = caller
    · subst hcaller
      rw [update_self] at hvalue
      cases hvalue
      refine ⟨character, (find_eq_some.1 hfind).2.2, fun uid huid hne => ?_, fun _ => .inl rfl⟩
      exact (List.mem_append.1 huid).resolve_right fun h => hne (List.mem_singleton.1 h)
    · rw [update_of_ne hcaller] at hvalue
      exact ⟨value, hvalue, fun _ huid _ => huid, .inr⟩
  by_cases hleft : first = created
  · by_cases hright : second = created
    · exact hleft.trans hright.symm
    · subst hleft
      rw [update_self] at hegg
      rw [update_of_ne hright] at hother
      cases hegg
      exact absurd hslot.symm (hfree owner old hold (hnew hfirst) second (hlisted second hsecond hright) other hother)
  · by_cases hright : second = created
    · subst hright
      rw [update_self] at hother
      rw [update_of_ne hleft] at hegg
      cases hother
      exact absurd hslot (hfree owner old hold (hnew hsecond) first (hlisted first hfirst hleft) egg hegg)
    · rw [update_of_ne hleft] at hegg
      rw [update_of_ne hright] at hother
      exact hdistinct owner old hold first (hlisted first hfirst hleft) second (hlisted second hsecond hright) egg hegg
        other hother hslot

theorem identified_incubate (hid : data.Identified) :
    ((handleIncubateEgg registry lookups caller command).final data).Identified := by
  obtain hsame | ⟨character, created, -, -, -, hafter⟩ := @incubated_or_same registry lookups caller command data
  · rw [hsame]
    exact hid
  · rw [hafter]
    exact ⟨hid.items⟩

end Incubation

/-! ## All commands -/

section Run

variable {registry : PetRegistry} {data : DataDirector}

/-- Eggs in slots of their own, and items with their own uids. -/
structure Tended (data : DataDirector) : Prop where
  items : data.Identified
  slots : SlotsDistinct data

theorem Tended.shrinks {after : DataDirector} (h : Tended data) (hshrinks : Shrinks data after) : Tended after :=
  ⟨hshrinks.items h.items, h.slots.shrinks hshrinks⟩

theorem tended_step (h : Tended data) (input : Input) (hfits : InputFits registry data input) :
    Tended (step registry data input) := by
  obtain ⟨caller, command⟩ := input
  cases command with
  | incubateEgg command lookups => exact ⟨identified_incubate h.items, slotsDistinct_incubate h.slots hfits⟩
  | boostIncubateEgg command lookups =>
    exact h.shrinks (keeps_access _ (keeps_boostIncubateEgg registry lookups command) data)
  | requestPetBirth slot lookups => exact h.shrinks (keeps_handleRequestPetBirth registry lookups caller slot data)

theorem hatchesOne_of_fits (h : Tended data) (input : Input) (hfits : InputFits registry data input) :
    HatchesOne registry data input := by
  obtain ⟨caller, command⟩ := input
  cases command with
  | incubateEgg command lookups => trivial
  | boostIncubateEgg command lookups => trivial
  | requestPetBirth slot lookups => exact hatches_of_fits h.items hfits

end Run

/-- In a run whose commands fit, each birth hatches one egg or changes nothing, and the slots are always distinct. -/
theorem births_hatch_one (registry : PetRegistry) (data : DataDirector) (inputs : List Input) (hid : data.Identified)
    (hslots : SlotsDistinct data) (hfits : Guarded (step registry) (InputFits registry) data inputs) :
    Guarded (step registry)
      (fun data input => HatchesOne registry data input ∧ SlotsDistinct (step registry data input)) data inputs := by
  have htended : Tended data := ⟨hid, hslots⟩
  have hpreserved (data : DataDirector) (input : Input) (h : Tended data) (hfits : InputFits registry data input) :
      Tended (step registry data input) := tended_step h input hfits
  refine Guarded.imp hpreserved (fun data input h hfits => ?_) htended hfits
  exact ⟨hatchesOne_of_fits h input hfits, (tended_step h input hfits).slots⟩

/-- A character with the item of an egg. -/
def eggKeeper : DataDirector where
  characters uid := if uid = 1 then some { uid := 1, inventory := [5] } else none
  items uid := if uid = 5 then some { uid := 5, tid := 30, count := 1 } else none

theorem eggKeeper_identified : eggKeeper.Identified := by
  refine ⟨fun uid item hitem => ?_⟩
  have hitem : (if uid = 5 then some ({ uid := 5, tid := 30, count := 1 } : Item) else none) = some item := hitem
  split at hitem
  · next huid =>
      cases hitem
      exact huid.symm
  · cases hitem

/-- The egg is incubated. -/
def incubation : Input := (1, .incubateEgg ⟨5, 30, 1⟩ { created := some 8 })

/-- The egg hatches, as soon as it is ripe or before. -/
def hatchingAt (now : TimePoint) : Input :=
  (1, .requestPetBirth 1 { createdPet := some 60, item := { created := some 61 }, now := now })

theorem births_hatch_one_eggKeeper : Guarded (step hatchery)
    (fun data input => HatchesOne hatchery data input ∧ SlotsDistinct (step hatchery data input)) eggKeeper
    [incubation, hatchingAt ⟨1000⟩] := by
  refine births_hatch_one hatchery eggKeeper _ eggKeeper_identified ?_ ⟨?_, ?_, trivial⟩
  · intro owner character hcharacter first hfirst second hsecond egg hegg
    cases hegg
  · intro _ _ created _ owner character _ _ other _ egg hegg
    cases hegg
  · rintro character ⟨⟩ eggs ⟨⟩
    refine .inr ⟨{ tid := 30, hatchDuration := 1000, hatchablePets := [40] }, ?_, 40, rfl, ⟨4⟩, rfl, rfl, .inr ⟨?_, 60, rfl, rfl, ?_⟩⟩
    · exact ⟨⟨_, rfl, rfl, rfl, rfl, by decide⟩, by decide, ⟨_, rfl, rfl⟩, by decide, rfl⟩
    · rintro ⟨uid, huid, -⟩
      cases huid
    · exact ⟨_, rfl, by decide, by decide, rfl⟩

/-- An egg hatches before its time. -/
theorem unripe_hatches : ¬Guarded (step hatchery)
    (fun data input => HatchesOne hatchery data input ∧ SlotsDistinct (step hatchery data input)) eggKeeper
    [incubation, hatchingAt ⟨999⟩] := by
  rintro ⟨-, ⟨hhatches, -⟩, -⟩
  have hhatches : Hatches hatchery { createdPet := some 60, item := { created := some 61 }, now := ⟨999⟩ } 1 1
    (step hatchery eggKeeper incubation) := hhatches
  obtain ⟨reply, after, hok⟩ : ∃ reply after,
      handleRequestPetBirth hatchery { createdPet := some 60, item := { created := some 61 }, now := ⟨999⟩ } 1 1
        (step hatchery eggKeeper incubation) = .ok reply after := ⟨_, _, rfl⟩
  rw [Hatches, hok] at hhatches
  obtain ⟨character, -, hatching, info, hhatchable, -⟩ := hhatches
  obtain ⟨egg, hegg, -, -, htid, hripe⟩ := hhatchable.egg
  have hegg : update (fun _ => none) 8 (some (incubatedEgg { created := some 8 } ⟨5, 30, 1⟩ 8)) hatching.uid =
    some egg := hegg
  by_cases huid : hatching.uid = 8
  · rw [huid, update_self] at hegg
    cases hegg
    have hknown := hhatchable.known
    rw [← htid] at hknown
    cases hknown
    exact absurd hripe (by decide)
  · rw [update_of_ne huid] at hegg
    cases hegg

end Alicia.Incubator
