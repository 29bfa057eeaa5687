import Alicia.Possession.Payment
import Alicia.Protocol.CommonStructures
import Alicia.Registry.Pets

/-!
# One crystal, one boost

An egg is put into a slot, boosted, and hatched.  Each command reaches the eggs of the character through their records, and
names the slot and the items as the client likes.

A boost of an egg is paid for with one piece of a boost item.  The item is named by its uid and consumed by its type, what
the consumption says is not looked at, and every egg in the slot is boosted.
-/

namespace Alicia.Incubator

open Transition Effect Data Possession Registry Function List Option
open Chrono (TimePoint)
open DataDirector (characterStorage itemStorage eggStorage petStorage)

/-- Eight hours, in nanoseconds. -/
def boostDuration : Int64 := 8 * 3600 * 1000000000

/-- `duration_cast<seconds>`, cast to 32 bits. -/
def toSeconds (duration : Int64) : UInt32 := (duration / 1000000000).toUInt64.toUInt32

/-- `BuildProtocolEgg`. -/
def buildProtocolEgg (now : TimePoint) (egg : Egg) (hatchDuration : Int64) : Protocol.Egg :=
  let totalHatchingDuration := now.sinceEpoch - egg.incubatedAt.sinceEpoch
  let totalBoostedDuration := Int64.ofNat egg.boostsUsed.toNat * boostDuration
  let totalHatchingProgress := totalHatchingDuration + totalBoostedDuration
  let remainingHatchingProgress := hatchDuration - totalHatchingProgress
  { uid := egg.itemUid
    itemTid := egg.itemTid
    remainingHatchingTime := toSeconds remainingHatchingProgress
    timeRemaining := toSeconds remainingHatchingProgress
    boostPreviewValue := toSeconds (totalHatchingProgress + boostDuration)
    hatchingProgress := toSeconds totalHatchingProgress }

/-- A template of the registry, which throws. -/
def template {S α : Type} (lookup : Except String α) : Effect S Failure α :=
  match lookup with
  | .ok info => pure info
  | .error what => throw (.thrown what)

/-- `CreateX`, whose record is used unless the creation has failed. -/
def createOr {V : Type} (storage : Storage V) (failure : Failure) (allocated : Option Uid) (value : Uid → V) :
    Effect (Held Character) Failure Uid := fun held =>
  match storage.fresh allocated held.data with
  | none => .error failure held
  | some uid => .ok uid { held with data := storage.write uid (value uid) held.data }

/-! ## Incubation -/

structure IncubateLookups where
  character : Bool := true
  created : Option Uid := none
  now : TimePoint := .epoch

structure IncubateEgg where
  itemUid : Uid
  itemTid : Tid
  incubatorSlot : UInt32

structure IncubateEggOK where
  incubatorSlot : UInt32
  egg : Protocol.Egg

section Incubation

variable (registry : PetRegistry) (lookups : IncubateLookups)

def incubatedEgg (command : IncubateEgg) (uid : Uid) : Egg :=
  { uid := uid
    itemUid := command.itemUid
    itemTid := command.itemTid
    incubatedAt := lookups.now
    incubatorSlot := command.incubatorSlot
    boostsUsed := 0 }

/-- The access to the character.  `GetEggInfo` throws for an unknown item, so the check after it never fails. -/
def incubateEgg (command : IncubateEgg) : Effect (Held Character) Failure IncubateEggOK := do
  let eggTemplate ← template (registry.getEggInfo command.itemTid)
  let uid ← createOr eggStorage (.thrown "Failed to create egg for user") lookups.created (incubatedEgg lookups command)
  modify fun held => { held with value := { held.value with eggs := held.value.eggs ++ [uid] } }
  return ⟨command.incubatorSlot,
    buildProtocolEgg lookups.now (incubatedEgg lookups command uid) eggTemplate.hatchDuration⟩

def handleIncubateEgg (caller : Uid) (command : IncubateEgg) : Effect DataDirector Failure IncubateEggOK :=
  characterStorage.access (.thrown "Value of the record is unavailable") lookups.character caller
    (incubateEgg registry lookups command)

end Incubation

/-! ## Boosts -/

structure BoostLookups where
  character : Bool := true
  item : Bool := true
  inventory : Uid → Bool := fun _ => true
  eggs : Uid → Bool := fun _ => true
  now : TimePoint := .epoch

structure BoostIncubateEgg where
  itemUid : Uid
  incubatorSlot : UInt32

structure BoostIncubateEggOK where
  item : Item
  incubatorSlot : UInt32
  egg : Protocol.Egg := {}

def boost (egg : Egg) : Egg := { egg with boostsUsed := egg.boostsUsed + 1 }

section Boosts

variable (registry : PetRegistry) (lookups : BoostLookups)

/-- The loop over the eggs: every one in the slot is boosted. -/
def boostEggs (slot : UInt32) : List Uid → Protocol.Egg → Effect (Held Character) Failure Protocol.Egg
  | [], shown => return shown
  | uid :: rest, shown => do
    let held ← get
    match held.data.eggs uid with
    | none => boostEggs slot rest shown
    | some egg =>
      if egg.incubatorSlot = slot then do
        let eggTemplate ← template (registry.getEggInfo egg.itemTid)
        modify fun held => { held with data := eggStorage.write uid (boost egg) held.data }
        boostEggs slot rest (buildProtocolEgg lookups.now (boost egg) eggTemplate.hatchDuration)
      else boostEggs slot rest shown

/-- The access to the character. -/
def boostIncubateEgg (command : BoostIncubateEgg) : Effect (Held Character) Failure BoostIncubateEggOK := do
  let held ← get
  match itemStorage.cached lookups.item command.itemUid held.data with
  | none => throw (.thrown "Item not found")
  | some item =>
    let consumption := consumeItem lookups.inventory item.tid 1 held
    set consumption.2
    let consumed ← get
    match eggStorage.cachedAll lookups.eggs consumed.data consumed.value.eggs with
    | none => throw (.thrown "Egg not found")
    | some _ =>
      let shown ← boostEggs registry lookups command.incubatorSlot consumed.value.eggs {}
      return {
        item := { uid := item.uid, tid := item.tid, count := consumption.1.remainingItemCount }
        incubatorSlot := command.incubatorSlot
        egg := shown }

def handleBoostIncubateEgg (caller : Uid) (command : BoostIncubateEgg) :
    Effect DataDirector Failure BoostIncubateEggOK :=
  characterStorage.access (.thrown "Value of the record is unavailable") lookups.character caller
    (boostIncubateEgg registry lookups command)

end Boosts

/-! ## Births -/

/-- What the lookups of a birth find.  The draw is taken modulo the number of pets that may hatch. -/
structure BirthLookups where
  character : Bool := true
  eggs : Uid → Bool := fun _ => true
  draw : Nat := 0
  pets : Uid → Bool := fun _ => true
  createdPet : Option Uid := none
  item : ItemLookups := {}
  pet : Bool := true
  createdItem : Bool := true
  now : TimePoint := .epoch

/-- What is known of the egg that hatches. -/
structure Hatching where
  uid : Uid := invalidUid
  itemUid : Uid := invalidUid
  tid : Tid := invalidTid

/-- The pet that is born, or would be if the character did not have one. -/
structure Birth where
  hatching : Hatching
  petAlreadyExists : Bool
  petItemTid : Tid
  petUid : Uid := invalidUid
  pet : Pet := {}

/-- `PetBirthInfo`. -/
structure PetBirthInfo where
  characterUid : Uid
  itemUid : Uid
  pet : Pet
  eggItem : Item := {}

def pityItemTid : Tid := 46018

/-- The last egg in the slot. -/
def hatchingEgg (slot : UInt32) (eggs : List Egg) : Hatching :=
  eggs.foldl (fun found egg => if egg.incubatorSlot = slot then ⟨egg.uid, egg.itemUid, egg.itemTid⟩ else found) {}

/-- The egg and its item are removed, from the lists and from the records. -/
def removeHatched (hatching : Hatching) (held : Held Character) : Held Character where
  value := { held.value with
    eggs := held.value.eggs.erase hatching.uid
    inventory := held.value.inventory.erase hatching.itemUid }
  data := itemStorage.erase hatching.itemUid (eggStorage.erase hatching.uid held.data)

def newPet (now : TimePoint) (petId : UInt32) (uid : Uid) : Pet := { uid := uid, petId := petId, birthDate := now }

def pushPet (uid : Uid) (held : Held Character) : Held Character :=
  { held with value := { held.value with pets := held.value.pets ++ [uid] } }

section Births

variable (registry : PetRegistry) (lookups : BirthLookups)

/-- A pet is drawn, and born if the character does not have it.  The records of the pets are used unchecked. -/
def bearPet (hatching : Hatching) : Effect (Held Character) Failure Birth := do
  let eggTemplate ← template (registry.getEggInfo hatching.tid)
  match eggTemplate.hatchablePets[lookups.draw % eggTemplate.hatchablePets.length]? with
  | none => throw .undefined
  | some petItemTid =>
    let petTemplate ← template (registry.getPetInfo petItemTid)
    let held ← get
    match petStorage.cachedAll lookups.pets held.data held.value.pets with
    | none => throw .undefined
    | some pets =>
      if pets.any fun pet => pet.petId = petTemplate.petId then
        return ⟨hatching, true, petItemTid, invalidUid, {}⟩
      else do
        let uid ← createOr petStorage (.thrown "Failed to create pet for user") lookups.createdPet
          (newPet lookups.now petTemplate.petId)
        modify (pushPet uid)
        return ⟨hatching, false, petItemTid, uid, newPet lookups.now petTemplate.petId invalidUid⟩

/-- The first access to the character. -/
def hatch (slot : UInt32) : Effect (Held Character) Failure Birth := do
  let held ← get
  match eggStorage.cachedAll lookups.eggs held.data held.value.eggs with
  | none => throw (.thrown "Egg records not available")
  | some eggs =>
    modify (removeHatched (hatchingEgg slot eggs))
    bearPet registry lookups (hatchingEgg slot eggs)

/-- A new pet gets the item that is created for it. -/
def linkPet (birth : Birth) (createdItemUid : Uid) : Effect DataDirector Failure PUnit :=
  if birth.petAlreadyExists then pure ⟨⟩
  else (petStorage.mutable lookups.pet birth.petUid fun pet => { pet with itemUid := createdItemUid }).adaptExcept .thrown

def itemTidToCreate (birth : Birth) : Tid := if birth.petAlreadyExists then pityItemTid else birth.petItemTid

def handleRequestPetBirth (caller : Uid) (slot : UInt32) : Effect DataDirector Failure PetBirthInfo := do
  let birth ← characterStorage.access (.thrown "Value of the record is unavailable") lookups.character caller
    (hatch registry lookups slot)
  let createdItemUid ← characterStorage.access (.thrown "Value of the record is unavailable") true caller
    (addItem lookups.item (itemTidToCreate birth) (.count 1))
  if createdItemUid = invalidUid then
    return ⟨caller, birth.hatching.itemUid, birth.pet, {}⟩
  else do
    linkPet lookups birth createdItemUid
    let item ← (itemStorage.immutable lookups.createdItem createdItemUid).adaptExcept .thrown
    return ⟨caller, birth.hatching.itemUid, birth.pet, { uid := item.uid, tid := item.tid, count := item.count }⟩

end Births

/-! ## Runs -/

/-- A command with what its lookups find. -/
inductive Command where
  | incubateEgg (command : IncubateEgg) (lookups : IncubateLookups)
  | boostIncubateEgg (command : BoostIncubateEgg) (lookups : BoostLookups)
  | requestPetBirth (slot : UInt32) (lookups : BirthLookups)

/-- A command of a character. -/
abbrev Input := Uid × Command

/-- The records after a command, with or without an answer. -/
def step (registry : PetRegistry) (data : DataDirector) : Input → DataDirector
  | (caller, .incubateEgg command lookups) => (handleIncubateEgg registry lookups caller command).final data
  | (caller, .boostIncubateEgg command lookups) => (handleBoostIncubateEgg registry lookups caller command).final data
  | (caller, .requestPetBirth slot lookups) => (handleRequestPetBirth registry lookups caller slot).final data

/-! ## What a boost is for -/

/-- The boosts that were used on an egg. -/
def boostsOf (eggs : Table Egg) (uid : Uid) : Nat :=
  match eggs uid with
  | none => 0
  | some egg => egg.boostsUsed.toNat

/-- The boosts that were used on the eggs of a character. -/
def totalBoosts (character : Character) (data : DataDirector) : Nat :=
  ∑ uid ∈ character.eggs.toFinset, boostsOf data.eggs uid

/-- The eggs of the character have one boost more. -/
def Boosted (caller : Uid) (data after : DataDirector) : Prop :=
  ∃ before ∈ data.characters caller, ∃ character ∈ after.characters caller,
    totalBoosts character after = totalBoosts before data + 1

/-- One piece of a boost item that the character owns is consumed, and no other item differs. -/
def Spent (isBoost : Tid → Bool) (caller : Uid) (data after : DataDirector) : Prop :=
  ∃ before ∈ data.characters caller, ∃ uid ∈ before.inventory, ∃ item ∈ data.items uid, isBoost item.tid = true ∧
    ∃ held, Consumed 1 uid item ⟨before, data⟩ held ∧
      after.items = held.data.items ∧ after.characters caller = some held.value

/-- A boost is used exactly if one is paid for, and otherwise nothing is changed. -/
structure BoostPaid (isBoost : Tid → Bool) (caller : Uid) (data after : DataDirector) : Prop where
  once : Boosted caller data after ↔ Spent isBoost caller data after
  otherwise : ¬Boosted caller data after → after = data

section Condition

variable (registry : PetRegistry)

/-- The eggs of a list that are boosted: those in the slot, before the first one whose template is not known. -/
def boosting (slot : UInt32) (eggs : Table Egg) : List Uid → List Uid
  | [] => []
  | uid :: rest =>
    match eggs uid with
    | none => boosting slot eggs rest
    | some egg =>
      if egg.incubatorSlot = slot then
        match registry.eggs egg.itemTid with
        | none => []
        | some _ => uid :: boosting slot eggs rest
      else boosting slot eggs rest

/-- The eggs of a character that a command boosts. -/
def boostedEggs (lookups : BoostLookups) (slot : UInt32) (held : Held Character) : List Uid :=
  if (eggStorage.cachedAll lookups.eggs held.data held.value.eggs).isSome then
    boosting registry slot held.data.eggs held.value.eggs
  else []

/-- The condition: no egg is boosted and no item of the type is found, or one egg is, and the item found is a boost item
with a piece left. -/
def BoostFits (isBoost : Tid → Bool) (lookups : BoostLookups) (caller : Uid) (command : BoostIncubateEgg)
    (data : DataDirector) : Prop :=
  ∀ character ∈ characterStorage.find lookups.character caller data,
    ∀ item ∈ itemStorage.cached lookups.item command.itemUid data,
      Lacks lookups.inventory item.tid ⟨character, data⟩ ∧
          boostedEggs registry lookups command.incubatorSlot ⟨character, data⟩ = [] ∨
        ∃ uid owned egg, Finds lookups.inventory item.tid ⟨character, data⟩ uid owned ∧
          isBoost item.tid = true ∧ 1 ≤ owned.count ∧
          boostedEggs registry lookups command.incubatorSlot ⟨character, data⟩ = [egg] ∧
          boostsOf data.eggs egg + 1 < 2 ^ 32

end Condition

/-! ## The loop over the eggs -/

/-- An egg of a table is boosted. -/
def boostRecord (eggs : Table Egg) (uid : Uid) : Table Egg := update eggs uid ((eggs uid).map boost)

def boostRecords (uids : List Uid) (eggs : Table Egg) : Table Egg := uids.foldl boostRecord eggs

/-- The eggs of a list are boosted. -/
def boostHeld (uids : List Uid) (held : Held Character) : Held Character :=
  { held with data := { held.data with eggs := boostRecords uids held.data.eggs } }

section Loop

variable {registry : PetRegistry} {slot : UInt32} {eggs : Table Egg}

/-- The eggs that are boosted depend on the slots and the items of the eggs. -/
theorem boosting_congr {eggs' : Table Egg}
    (hkind : ∀ uid, (eggs' uid).map (fun egg => (egg.incubatorSlot, egg.itemTid)) =
      (eggs uid).map fun egg => (egg.incubatorSlot, egg.itemTid)) (uids : List Uid) :
    boosting registry slot eggs' uids = boosting registry slot eggs uids := by
  induction uids with
  | nil => rfl
  | cons uid rest ih =>
    have hegg := hkind uid
    rw [boosting, boosting, ih]
    cases hold : eggs uid with
    | none =>
      rw [hold] at hegg
      rw [map_eq_none_iff.1 hegg]
    | some egg =>
      rw [hold] at hegg
      obtain ⟨egg', hnew, hsame⟩ := map_eq_some_iff.1 hegg
      obtain ⟨hslot, htid⟩ := Prod.mk.inj hsame
      rw [hnew]
      dsimp only
      rw [hslot, htid]

theorem boosting_boostRecord (uid : Uid) (uids : List Uid) :
    boosting registry slot (boostRecord eggs uid) uids = boosting registry slot eggs uids := by
  refine boosting_congr (fun other => ?_) uids
  by_cases hsame : other = uid
  · subst hsame
    rw [boostRecord, update_self, Option.map_map]
    rfl
  · rw [boostRecord, update_of_ne hsame]

theorem mem_boosting {uid : Uid} {uids : List Uid} (h : uid ∈ boosting registry slot eggs uids) :
    uid ∈ uids ∧ (eggs uid).isSome = true := by
  induction uids with
  | nil => cases h
  | cons other rest ih =>
    have hrest (hmem : uid ∈ boosting registry slot eggs rest) : uid ∈ other :: rest ∧ (eggs uid).isSome = true :=
      ⟨mem_cons_of_mem other (ih hmem).1, (ih hmem).2⟩
    rw [boosting] at h
    cases hegg : eggs other with
    | none =>
      rw [hegg] at h
      exact hrest h
    | some egg =>
      rw [hegg] at h
      dsimp only at h
      split at h
      · cases htemplate : registry.eggs egg.itemTid with
        | none =>
          rw [htemplate] at h
          cases h
        | some info =>
          rw [htemplate] at h
          obtain rfl | hmem := mem_cons.1 h
          · exact ⟨mem_cons_self, isSome_iff_exists.2 ⟨egg, hegg⟩⟩
          · exact hrest hmem
      · exact hrest h

theorem length_boosting_le (uids : List Uid) : (boosting registry slot eggs uids).length ≤ uids.length := by
  induction uids with
  | nil => exact Nat.le_refl _
  | cons uid rest ih =>
    rw [boosting]
    split
    · exact Nat.le_succ_of_le ih
    · split
      · split
        · exact Nat.zero_le _
        · exact Nat.succ_le_succ ih
      · exact Nat.le_succ_of_le ih

/-- What the loop does to the records. -/
theorem final_boostEggs (lookups : BoostLookups) (uids : List Uid) (shown : Protocol.Egg) (held : Held Character) :
    (boostEggs registry lookups slot uids shown).final held =
      boostHeld (boosting registry slot held.data.eggs uids) held := by
  induction uids generalizing held shown with
  | nil => rfl
  | cons uid rest ih =>
    rw [boostEggs, final_bind, get_apply, boosting]
    dsimp only
    cases hegg : held.data.eggs uid with
    | none => exact ih shown held
    | some egg =>
      dsimp only
      by_cases hslot : egg.incubatorSlot = slot
      · rw [if_pos hslot, if_pos hslot, PetRegistry.getEggInfo]
        cases htemplate : registry.eggs egg.itemTid with
        | none => rfl
        | some info =>
          have hboost : (eggStorage.write uid (boost egg) held.data).eggs = boostRecord held.data.eggs uid := by
            rw [boostRecord, hegg]
            rfl
          have hrest := ih (buildProtocolEgg lookups.now (boost egg) info.hatchDuration)
            { held with data := eggStorage.write uid (boost egg) held.data }
          dsimp only at hrest
          rw [hboost, boosting_boostRecord] at hrest
          refine hrest.trans ?_
          rw [boostHeld, hboost]
          rfl
      · rw [if_neg hslot, if_neg hslot]
        exact ih shown held

theorem boostsOf_boostRecord {uid : Uid} {egg : Egg} (hegg : eggs uid = some egg) :
    boostsOf (boostRecord eggs uid) = update (boostsOf eggs) uid ((egg.boostsUsed.toNat + 1) % 2 ^ 32) := by
  funext other
  by_cases hsame : other = uid
  · subst hsame
    rw [update_self, boostsOf, boostRecord, update_self, hegg]
    exact UInt32.toNat_add ..
  · rw [update_of_ne hsame, boostsOf, boostRecord, update_of_ne hsame, boostsOf]

/-- Each boost adds one to the total, up to the wrap of the counts. -/
theorem sum_boostRecords {uids : Finset Uid} {boosted : List Uid}
    (h : ∀ uid ∈ boosted, uid ∈ uids ∧ (eggs uid).isSome = true) :
    (∑ uid ∈ uids, boostsOf (boostRecords boosted eggs) uid) % 2 ^ 32 =
      (∑ uid ∈ uids, boostsOf eggs uid + boosted.length) % 2 ^ 32 := by
  induction boosted generalizing eggs with
  | nil => rfl
  | cons uid rest ih =>
    obtain ⟨hmem, hegg⟩ := h uid mem_cons_self
    obtain ⟨egg, hegg⟩ := isSome_iff_exists.1 hegg
    have hrest := @ih (boostRecord eggs uid) fun other hother => by
      refine ⟨(h other (mem_cons_of_mem uid hother)).1, ?_⟩
      by_cases hsame : other = uid
      · subst hsame
        rw [boostRecord, update_self, hegg]
        rfl
      · rw [boostRecord, update_of_ne hsame]
        exact (h other (mem_cons_of_mem uid hother)).2
    have hfirst := sum_update hmem (boostsOf eggs) ((egg.boostsUsed.toNat + 1) % 2 ^ 32)
    have hbefore : boostsOf eggs uid = egg.boostsUsed.toNat := by rw [boostsOf, hegg]
    rw [← boostsOf_boostRecord hegg, hbefore] at hfirst
    rw [boostRecords, foldl_cons, length_cons]
    rw [boostRecords] at hrest
    have hlt := egg.boostsUsed.toNat_lt
    omega

/-- One egg that is boosted counts once, unless its count wraps. -/
theorem sum_boostRecords_one {uids : Finset Uid} {uid : Uid} (hmem : uid ∈ uids) (hegg : (eggs uid).isSome = true) :
    ∑ other ∈ uids, boostsOf (boostRecords [uid] eggs) other = ∑ other ∈ uids, boostsOf eggs other + 1 ↔
      boostsOf eggs uid + 1 < 2 ^ 32 := by
  obtain ⟨egg, hegg⟩ := isSome_iff_exists.1 hegg
  have hsum := sum_update hmem (boostsOf eggs) ((egg.boostsUsed.toNat + 1) % 2 ^ 32)
  have hbefore : boostsOf eggs uid = egg.boostsUsed.toNat := by rw [boostsOf, hegg]
  rw [← boostsOf_boostRecord hegg, hbefore] at hsum
  rw [boostRecords, foldl_cons, foldl_nil, hbefore]
  have hlt := egg.boostsUsed.toNat_lt
  omega

end Loop

/-! ## The command -/

section Command

variable {registry : PetRegistry} {lookups : BoostLookups} {command : BoostIncubateEgg} {isBoost : Tid → Bool}
  {caller : Uid} {data : DataDirector} {character : Character} {item : Item}

variable {held : Held Character}

/-- The item is consumed, and then the eggs are boosted. -/
theorem final_boostIncubateEgg
    (hitem : itemStorage.cached lookups.item command.itemUid held.data = some item) :
    (boostIncubateEgg registry lookups command).final held =
      boostHeld (boostedEggs registry lookups command.incubatorSlot held)
        (consumeItem lookups.inventory item.tid 1 held).2 := by
  have hframe := itemsOnly_consumeItem lookups.inventory item.tid 1 held
  rw [boostIncubateEgg, final_bind, get_apply]
  dsimp only
  rw [hitem]
  dsimp only
  generalize consumeItem lookups.inventory item.tid 1 held = consumption at hframe ⊢
  obtain ⟨verdict, consumed⟩ := consumption
  have heggs : consumed.value.eggs = held.value.eggs := by rw [hframe.character]
  have hrecords : eggStorage.records consumed.data = eggStorage.records held.data := by
    rw [hframe.data]
    rfl
  have hall : (eggStorage.cachedAll lookups.eggs consumed.data consumed.value.eggs).isSome =
      (eggStorage.cachedAll lookups.eggs held.data held.value.eggs).isSome := by
    rw [heggs, Storage.cachedAll_congr hrecords]
  have hrecords : consumed.data.eggs = held.data.eggs := hrecords
  refine (final_bind_ok rfl).trans ?_
  rw [final_bind, get_apply, boostedEggs, ← hall, ← heggs, ← hrecords]
  dsimp only
  cases eggStorage.cachedAll lookups.eggs consumed.data consumed.value.eggs with
  | none => rfl
  | some eggs =>
    dsimp only
    rw [final_bind_pure, final_boostEggs]
    rfl

theorem final_boostIncubateEgg_none
    (hitem : itemStorage.cached lookups.item command.itemUid held.data = none) :
    (boostIncubateEgg registry lookups command).final held = held := by
  rw [boostIncubateEgg, final_bind, get_apply]
  dsimp only
  rw [hitem]
  rfl

/-- Nothing is boosted and nothing is paid. -/
theorem boostPaid_self (isBoost : Tid → Bool) (caller : Uid) (data : DataDirector) :
    BoostPaid isBoost caller data data := by
  have hboosted : ¬Boosted caller data data := by
    rintro ⟨before, hbefore, character, hcharacter, htotal⟩
    cases hbefore.symm.trans hcharacter
    omega
  have hspent : ¬Spent isBoost caller data data := by
    rintro ⟨before, -, uid, -, item, hitem, -, held, hconsumed, hitems, -⟩
    exact hconsumed.ne (by decide) hitem (congrFun hitems.symm uid)
  exact ⟨iff_of_false hboosted hspent, fun _ => rfl⟩

variable {available : Uid → Bool}

theorem consumeItem_changes {tid : Tid} {uid : Uid} (hid : held.data.Identified)
    (hinvalid : held.data.items invalidUid = none) (h : Finds available tid held uid item) :
    (consumeItem available tid 1 held).2.data.items uid ≠ held.data.items uid := by
  by_cases henough : 1 ≤ item.count
  · exact (consumeItem_enough hid hinvalid h henough).2.ne (by decide) h.record
  · have hnone : (consumeItem available tid 1 held).2.data.items uid = none := by
      rw [(consumeItem_short hid hinvalid h henough).2]
      exact update_self ..
    rw [hnone, h.record]
    exact (some_ne_none item).symm

/-- The piece that is paid is one of the item that is found. -/
theorem exists_consumed_iff {tid : Tid} {uid : Uid} (hid : held.data.Identified)
    (hinvalid : held.data.items invalidUid = none) (h : Finds available tid held uid item) :
    (∃ paid ∈ held.value.inventory, ∃ other ∈ held.data.items paid, isBoost other.tid = true ∧
        Consumed 1 paid other held (consumeItem available tid 1 held).2) ↔
      isBoost tid = true ∧ 1 ≤ item.count := by
  constructor
  · rintro ⟨paid, -, other, hother, hboost, hconsumed⟩
    by_cases hsame : uid = paid
    · subst hsame
      cases hother.symm.trans h.record
      rw [h.type] at hboost
      exact ⟨hboost, hconsumed.enough⟩
    · exact absurd (hconsumed.others uid hsame) (consumeItem_changes hid hinvalid h)
  · rintro ⟨hboost, henough⟩
    refine ⟨uid, h.owned, item, h.record, ?_, (consumeItem_enough hid hinvalid h henough).2⟩
    rw [h.type]
    exact hboost

/-- The records after the eggs of a list are boosted and an item is consumed. -/
def boostedData (caller : Uid) (boosted : List Uid) (consumed : Held Character) : DataDirector :=
  characterStorage.write caller (boostHeld boosted consumed).value (boostHeld boosted consumed).data

theorem final_handleBoostIncubateEgg (hfind : characterStorage.find lookups.character caller data = some character)
    (hcached : itemStorage.cached lookups.item command.itemUid data = some item) :
    (handleBoostIncubateEgg registry lookups caller command).final data =
      boostedData caller (boostedEggs registry lookups command.incubatorSlot ⟨character, data⟩)
        (consumeItem lookups.inventory item.tid 1 ⟨character, data⟩).2 := by
  rw [handleBoostIncubateEgg, Storage.final_access, hfind]
  dsimp only
  rw [final_boostIncubateEgg hcached]
  rfl

section Records

variable {boosted : List Uid} {consumed : Held Character} (hcharacter : data.characters caller = some character)
  (hframe : ItemsOnly ⟨character, data⟩ consumed)

include hcharacter hframe

theorem boosted_iff : Boosted caller data (boostedData caller boosted consumed) ↔
    ∑ uid ∈ character.eggs.toFinset, boostsOf (boostRecords boosted data.eggs) uid =
      ∑ uid ∈ character.eggs.toFinset, boostsOf data.eggs uid + 1 := by
  have hafter : (boostedData caller boosted consumed).characters caller = some consumed.value :=
    update_self ..
  have heggs : consumed.value.eggs = character.eggs := by rw [hframe.character]
  have hrecords : consumed.data.eggs = data.eggs := by rw [hframe.data]
  have htotal : totalBoosts consumed.value (boostedData caller boosted consumed) =
      ∑ uid ∈ character.eggs.toFinset, boostsOf (boostRecords boosted data.eggs) uid := by
    rw [← heggs, ← hrecords]
    rfl
  rw [← htotal]
  constructor
  · rintro ⟨before, hbefore, left, hleft, h⟩
    cases hbefore.symm.trans hcharacter
    cases hleft.symm.trans hafter
    exact h
  · intro h
    exact ⟨character, hcharacter, consumed.value, hafter, h⟩

theorem spent_iff : Spent isBoost caller data (boostedData caller boosted consumed) ↔
    ∃ paid ∈ character.inventory, ∃ other ∈ data.items paid, isBoost other.tid = true ∧
      Consumed 1 paid other ⟨character, data⟩ consumed := by
  have hafter : (boostedData caller boosted consumed).characters caller = some consumed.value :=
    update_self ..
  constructor
  · rintro ⟨before, hbefore, paid, hpaid, other, hother, hboost, held, hconsumed, hitems, hvalue⟩
    cases hbefore.symm.trans hcharacter
    have hvalue : consumed.value = held.value := some_inj.1 (hafter.symm.trans hvalue)
    have hitems : consumed.data.items = held.data.items := hitems
    have hdata : consumed.data = held.data := by
      rw [hframe.data, hitems]
      exact hconsumed.data.symm
    have hsame : consumed = held := by
      cases consumed
      cases held
      cases hvalue
      cases hdata
      rfl
    rw [hsame]
    exact ⟨paid, hpaid, other, hother, hboost, hconsumed⟩
  · rintro ⟨paid, hpaid, other, hother, hboost, hconsumed⟩
    exact ⟨character, hcharacter, paid, hpaid, other, hother, hboost, consumed, hconsumed, rfl, hafter⟩

end Records

theorem boostedData_nil (hcharacter : data.characters caller = some character) :
    boostedData caller [] ⟨character, data⟩ = data := Storage.write_self hcharacter

/-- The eggs that are boosted are eggs of the character that have records. -/
theorem mem_boostedEggs {slot : UInt32} {uid : Uid}
    (h : uid ∈ boostedEggs registry lookups slot held) :
    uid ∈ held.value.eggs.toFinset ∧ (held.data.eggs uid).isSome = true := by
  rw [boostedEggs] at h
  split at h
  · obtain ⟨hmem, hegg⟩ := mem_boosting h
    exact ⟨mem_toFinset.2 hmem, hegg⟩
  · cases h

variable (registry) in
/-- The total of the boosts tells how many eggs were boosted. -/
theorem total_boosted (slot : UInt32) (lookups : BoostLookups) (character : Character) (data : DataDirector) :
    (∑ uid ∈ character.eggs.toFinset,
        boostsOf (boostRecords (boostedEggs registry lookups slot ⟨character, data⟩) data.eggs) uid) % 2 ^ 32 =
      (∑ uid ∈ character.eggs.toFinset, boostsOf data.eggs uid +
        (boostedEggs registry lookups slot ⟨character, data⟩).length) % 2 ^ 32 :=
  sum_boostRecords fun _ huid => mem_boostedEggs huid

variable (registry) in
theorem length_boostedEggs_le (slot : UInt32) (lookups : BoostLookups) (held : Held Character) :
    (boostedEggs registry lookups slot held).length ≤ held.value.eggs.length := by
  rw [boostedEggs]
  split
  · exact length_boosting_le _
  · exact Nat.zero_le _

/-- Without an item, no egg may be boosted. -/
theorem boostPaid_lacks {tid : Tid} (slot : UInt32)
    (hcharacter : data.characters caller = some character) (hshort : character.eggs.length < 2 ^ 32)
    (hlacks : Lacks available tid ⟨character, data⟩) :
    BoostPaid isBoost caller data (boostedData caller (boostedEggs registry lookups slot ⟨character, data⟩)
        (consumeItem available tid 1 ⟨character, data⟩).2) →
      boostedEggs registry lookups slot ⟨character, data⟩ = [] := by
  rw [consumeItem_lacks hlacks]
  have hframe := ItemsOnly.refl ⟨character, data⟩
  have hspent : ¬Spent isBoost caller data (boostedData caller
      (boostedEggs registry lookups slot ⟨character, data⟩) ⟨character, data⟩) := by
    rw [spent_iff hcharacter hframe]
    rintro ⟨paid, -, other, hother, -, hconsumed⟩
    exact hconsumed.ne (by decide) hother rfl
  rintro ⟨honce, hotherwise⟩
  have hsame := congrArg DataDirector.eggs (hotherwise fun h => hspent (honce.1 h))
  have hsame : boostRecords (boostedEggs registry lookups slot ⟨character, data⟩) data.eggs = data.eggs := hsame
  have htotal := total_boosted registry slot lookups character data
  have hlength := length_boostedEggs_le registry slot lookups ⟨character, data⟩
  rw [hsame] at htotal
  refine eq_nil_of_length_eq_zero ?_
  dsimp only at hlength
  omega

section Fits

variable (hid : data.Identified) (hinvalid : data.items invalidUid = none)
  (hcharacter : data.characters caller = some character)

include hid hinvalid hcharacter

/-- With an item to consume, a boost is paid for exactly if the item is a boost item with a piece, and one egg gets it. -/
theorem boostPaid_finds {tid : Tid} {uid : Uid} (slot : UInt32)
    (hfinds : Finds available tid ⟨character, data⟩ uid item) :
    BoostPaid isBoost caller data (boostedData caller (boostedEggs registry lookups slot ⟨character, data⟩)
        (consumeItem available tid 1 ⟨character, data⟩).2) ↔
      (isBoost tid = true ∧ 1 ≤ item.count) ∧
        ∑ uid ∈ character.eggs.toFinset,
            boostsOf (boostRecords (boostedEggs registry lookups slot ⟨character, data⟩) data.eggs) uid =
          ∑ uid ∈ character.eggs.toFinset, boostsOf data.eggs uid + 1 := by
  have hframe := itemsOnly_consumeItem available tid 1 ⟨character, data⟩
  have hchanged := consumeItem_changes hid hinvalid hfinds
  have hspent : Spent isBoost caller data (boostedData caller
      (boostedEggs registry lookups slot ⟨character, data⟩) (consumeItem available tid 1 ⟨character, data⟩).2) ↔
        isBoost tid = true ∧ 1 ≤ item.count :=
    (spent_iff hcharacter hframe).trans (exists_consumed_iff hid hinvalid hfinds)
  rw [← boosted_iff hcharacter hframe, ← hspent]
  constructor
  · rintro ⟨honce, hotherwise⟩
    have hboosted := by_contra fun h => hchanged (congrFun (congrArg DataDirector.items (hotherwise h)) uid)
    exact ⟨honce.1 hboosted, hboosted⟩
  · rintro ⟨hspent, hboosted⟩
    exact ⟨iff_of_true hboosted hspent, fun h => absurd hboosted h⟩

end Fits

end Command

/-- A boost is paid for if it fits; and it fits if it is paid for, for fewer than `2 ^ 32` eggs. -/
theorem boosts_paid (registry : PetRegistry) (isBoost : Tid → Bool) (lookups : BoostLookups) (caller : Uid)
    (command : BoostIncubateEgg) (data : DataDirector) (hid : data.Identified)
    (hinvalid : data.items invalidUid = none) :
    (BoostFits registry isBoost lookups caller command data →
        BoostPaid isBoost caller data ((handleBoostIncubateEgg registry lookups caller command).final data)) ∧
      ((∀ character ∈ data.characters caller, character.eggs.length < 2 ^ 32) →
        BoostPaid isBoost caller data ((handleBoostIncubateEgg registry lookups caller command).final data) →
          BoostFits registry isBoost lookups caller command data) := by
  constructor
  · intro hfits
    cases hfind : characterStorage.find lookups.character caller data with
    | none =>
      rw [handleBoostIncubateEgg, Storage.final_access, hfind]
      exact boostPaid_self isBoost caller data
    | some character =>
    have hcharacter : data.characters caller = some character := (Storage.find_eq_some.1 hfind).2.2
    cases hcached : itemStorage.cached lookups.item command.itemUid data with
    | none =>
      have hsame : (handleBoostIncubateEgg registry lookups caller command).final data =
          characterStorage.write caller character data := by
        rw [handleBoostIncubateEgg, Storage.final_access, hfind]
        dsimp only
        rw [final_boostIncubateEgg_none hcached]
      rw [hsame, Storage.write_self hcharacter]
      exact boostPaid_self isBoost caller data
    | some item =>
    rw [final_handleBoostIncubateEgg hfind hcached]
    obtain ⟨hlacks, hnone⟩ | ⟨uid, owned, egg, hfinds, hboost, henough, hone, hroom⟩ :=
      hfits character hfind item hcached
    · rw [hnone, consumeItem_lacks hlacks, boostedData_nil hcharacter]
      exact boostPaid_self isBoost caller data
    · refine (boostPaid_finds hid hinvalid hcharacter _ hfinds).2 ⟨⟨hboost, henough⟩, ?_⟩
      have hegg : egg ∈ boostedEggs registry lookups command.incubatorSlot ⟨character, data⟩ :=
        hone ▸ List.mem_singleton_self egg
      obtain ⟨hmem, hrecord⟩ := mem_boostedEggs hegg
      rw [hone]
      exact (sum_boostRecords_one hmem hrecord).2 hroom
  · intro hshort hpaid character hfind item hcached
    have hcharacter : data.characters caller = some character := (Storage.find_eq_some.1 hfind).2.2
    rw [final_handleBoostIncubateEgg hfind hcached] at hpaid
    have hshort := hshort character hcharacter
    obtain hlacks | ⟨uid, owned, hfinds⟩ := lacks_or_finds lookups.inventory item.tid ⟨character, data⟩
    · exact .inl ⟨hlacks, boostPaid_lacks _ hcharacter hshort hlacks hpaid⟩
    · obtain ⟨⟨hboost, henough⟩, htotal⟩ := (boostPaid_finds hid hinvalid hcharacter _ hfinds).1 hpaid
      have hcount := total_boosted registry command.incubatorSlot lookups character data
      have hlength := length_boostedEggs_le registry command.incubatorSlot lookups ⟨character, data⟩
      dsimp only at hlength
      have hsingle : (boostedEggs registry lookups command.incubatorSlot ⟨character, data⟩).length = 1 := by
        rw [htotal] at hcount
        omega
      obtain ⟨egg, hone⟩ := List.length_eq_one_iff.1 hsingle
      have hegg : egg ∈ boostedEggs registry lookups command.incubatorSlot ⟨character, data⟩ :=
        hone ▸ List.mem_singleton_self egg
      obtain ⟨hmem, hrecord⟩ := mem_boostedEggs hegg
      rw [hone] at htotal
      exact .inr ⟨uid, owned, egg, hfinds, hboost, henough, hone, (sum_boostRecords_one hmem hrecord).1 htotal⟩

/-- One kind of egg. -/
def hatchery : PetRegistry where
  eggs tid := if tid = 30 then some { tid := 30, hatchDuration := 1000, hatchablePets := [40] } else none
  pets tid := if tid = 40 then some ⟨4⟩ else none

/-- Two characters with an egg each, of whom one has crystals. -/
def nursery : DataDirector where
  characters uid :=
    if uid = 1 then some { uid := 1, inventory := [3], eggs := [8] }
    else if uid = 2 then some { uid := 2, eggs := [9] }
    else none
  items uid := if uid = 3 then some { uid := 3, tid := 50, count := 2 } else none
  eggs uid := if uid = 8 ∨ uid = 9 then some { uid := uid, itemUid := 5, itemTid := 30, incubatorSlot := 1 } else none

theorem nursery_identified : nursery.Identified := by
  refine ⟨fun uid item hitem => ?_⟩
  have hitem : (if uid = 3 then some ({ uid := 3, tid := 50, count := 2 } : Item) else none) = some item := hitem
  split at hitem
  · next huid =>
      cases hitem
      exact huid.symm
  · cases hitem

theorem boosts_paid_nursery : BoostPaid (· = 50) 1 nursery
    ((handleBoostIncubateEgg hatchery {} 1 ⟨3, 1⟩).final nursery) := by
  refine (boosts_paid hatchery (· = 50) {} 1 ⟨3, 1⟩ nursery nursery_identified rfl).1 ?_
  rintro character ⟨⟩ item ⟨⟩
  exact .inr ⟨3, { uid := 3, tid := 50, count := 2 }, 8, ⟨rfl, rfl, rfl⟩, rfl, by decide, rfl, by decide⟩

/-- A crystal of another character is not consumed, but the egg is boosted. -/
theorem foreign_item_boosts : ¬BoostPaid (· = 50) 2 nursery
    ((handleBoostIncubateEgg hatchery {} 2 ⟨3, 1⟩).final nursery) := by
  rintro ⟨honce, -⟩
  have hboosted : Boosted 2 nursery ((handleBoostIncubateEgg hatchery {} 2 ⟨3, 1⟩).final nursery) :=
    ⟨_, rfl, _, rfl, by decide +kernel⟩
  obtain ⟨before, hbefore, paid, hpaid, -⟩ := honce.1 hboosted
  cases hbefore
  cases hpaid

end Alicia.Incubator
