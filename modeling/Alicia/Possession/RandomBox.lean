import Alicia.Possession.Payment

/-!
# Random boxes

A box is opened in two accesses to the character.  The first one grants carrots or a package.  The second one looks up
the item that the client names and consumes an item of its type, whatever that is, and whether or not there is one.
-/

namespace Alicia.Possession

open Transition Effect Data Function Storage
open DataDirector (characterStorage itemStorage)

structure Package where
  packageId : UInt32 := 0
  count : UInt32 := 0
  tid : Tid := 0

/-- What the two draws may give, for the packages of the registry. -/
inductive BoxOutcome (packages : List Package) where
  | carrots (roll : Fin 81)
  | package (index : Fin packages.length)

inductive BoxReward where
  | carrots (carrotAmount : UInt32)
  | package (package : Package)

def BoxOutcome.reward {packages : List Package} : BoxOutcome packages → BoxReward
  | .carrots roll => .carrots ((20 + UInt32.ofNat roll.val) * 10)
  | .package index => .package (packages.get index)

structure BoxLookups where
  character : Bool := true
  item : ItemLookups := {}
  box : Bool := true
  consumed : Uid → Bool := fun _ => true
  listed : Uid → Bool := fun _ => true

structure OpenRandomBoxOK where
  unk0 : UInt32 := 0
  unk1 : UInt32 := 0
  packageId : UInt32 := 0
  carrotsObtained : UInt32 := 0
  newBalance : UInt32 := 0
  items : List Item := []

def addCarrots (carrotAmount : UInt32) (character : Character) : Character :=
  { character with carrots := (character.carrots.toUInt32 + carrotAmount).toInt32 }

/-- The first access: the uid of the item that was added, and the beginning of the response. -/
def grantReward (lookups : BoxLookups) : BoxReward → Effect (Held Character) Failure (Uid × OpenRandomBoxOK)
  | .carrots carrotAmount => do
    modify fun held => { held with value := addCarrots carrotAmount held.value }
    let held ← get
    return (invalidUid, { carrotsObtained := carrotAmount, newBalance := held.value.carrots.toUInt32 })
  | .package package => do
    let uid ← addItem lookups.item package.tid (.count package.count)
    return (uid, { packageId := package.packageId })

/-- The second access. -/
def payBox (lookups : BoxLookups) (itemUid : Uid) (response : OpenRandomBoxOK) :
    Effect (Held Character) Failure OpenRandomBoxOK := do
  let held ← get
  match itemStorage.find lookups.box itemUid held.data with
  | none => throw (.thrown "Value of the record is unavailable")
  | some item =>
    let consumption := consumeItem lookups.consumed item.tid 1 held
    set consumption.2
    match itemStorage.cachedAll lookups.listed consumption.2.data consumption.2.value.inventory with
    | none => throw .undefined
    | some items =>
      return { response with unk0 := itemUid, unk1 := consumption.1.remainingItemCount, items := items }

section Handler

variable (lookups : BoxLookups) (reward : BoxReward) (caller itemUid : Uid)

def grantBox : Effect DataDirector Failure (Uid × OpenRandomBoxOK) :=
  characterStorage.access (.thrown "Value of the record is unavailable") lookups.character caller
    (grantReward lookups reward)

def payForBox (response : OpenRandomBoxOK) : Effect DataDirector Failure OpenRandomBoxOK :=
  characterStorage.access (.thrown "Value of the record is unavailable") lookups.character caller
    (payBox lookups itemUid response)

/-- `HandleOpenRandomBox`, for the reward that is drawn. -/
def handleOpenRandomBox : Effect DataDirector Failure OpenRandomBoxOK := do
  let granted ← grantBox lookups reward caller
  payForBox lookups caller itemUid granted.2

end Handler

/-! ## The purpose of a box -/

/-- The reward, in exact numbers. -/
def Rewards (lookups : BoxLookups) (uid : Uid) (held after : Held Character) : BoxReward → Prop
  | .carrots carrotAmount =>
    after.value = addCarrots carrotAmount held.value ∧
      after.value.carrots.toInt = held.value.carrots.toInt + carrotAmount.toNat ∧ after.data = held.data
  | .package package =>
    uid ≠ invalidUid ∧ ∃ item, Received lookups.item.now package.tid (.count package.count) held uid item after

/-- The reward is granted to the character, by the first access. -/
def Granted (lookups : BoxLookups) (reward : BoxReward) (caller : Uid) (data middle : DataDirector) : Prop :=
  ∃ character granted after, data.characters caller = some character ∧
    (grantBox lookups reward caller).returned data = some granted ∧
    Rewards lookups granted.1 ⟨character, data⟩ after reward ∧
    middle = characterStorage.write caller after.value after.data

/-- One piece of a box that the character owned is gone, and nothing else. -/
def BoxConsumed (isBox : Tid → Bool) (caller : Uid) (data middle after : DataDirector) : Prop :=
  ∃ character, data.characters caller = some character ∧ ∃ uid ∈ character.inventory,
    (∃ item, data.items uid = some item ∧ isBox item.tid = true ∧ 1 ≤ item.count) ∧
    ∃ current item held, middle.characters caller = some current ∧ middle.items uid = some item ∧
      Consumed 1 uid item ⟨current, middle⟩ held ∧ after = characterStorage.write caller held.value held.data

/-- The reward is granted and paid for, or nothing happens; and nothing happens if the command fails. -/
def BoxPaid (isBox : Tid → Bool) (lookups : BoxLookups) (reward : BoxReward) (caller itemUid : Uid)
    (data : DataDirector) : Prop :=
  let middle := (grantBox lookups reward caller).final data
  match handleOpenRandomBox lookups reward caller itemUid data with
  | .ok _ after =>
    Granted lookups reward caller data middle ∧ BoxConsumed isBox caller data middle after ∨
      middle = data ∧ after = data
  | .error _ after => middle = data ∧ after = data

/-! ## The condition -/

section Condition

variable (lookups : BoxLookups) (held : Held Character)

/-- The package's item cannot be created, which ends the process. -/
def Fails : BoxReward → Prop
  | .carrots _ => False
  | .package package =>
    getItem lookups.item package.tid held = invalidUid ∧ itemStorage.fresh lookups.item.created held.data = none

/-- There is room for the reward. -/
def GrantsAll : BoxReward → Prop
  | .carrots carrotAmount => held.value.carrots.toInt + carrotAmount.toNat < 2 ^ 31
  | .package package =>
    if getItem lookups.item package.tid held = invalidUid then
      (itemStorage.fresh lookups.item.created held.data).isSome = true
    else
      ∃ item ∈ itemStorage.cached lookups.item.existing (getItem lookups.item package.tid held) held.data,
        Fits lookups.item.now (.count package.count) item

/-- The reward is empty, or the item that it should go to cannot be had. -/
def GrantsNothing : BoxReward → Prop
  | .carrots carrotAmount => carrotAmount = 0
  | .package package =>
    getItem lookups.item package.tid held ≠ invalidUid ∧
      ∀ item ∈ itemStorage.cached lookups.item.existing (getItem lookups.item package.tid held) held.data,
        package.count = 0

/-- The item that the reward creates, if it does. -/
def createdUids : BoxReward → List Uid
  | .carrots _ => []
  | .package package => (createdBy lookups.item package.tid held).toList

/-- The pieces that the reward adds to an item of the character. -/
def addedPieces (uid : Uid) : BoxReward → UInt32
  | .carrots _ => 0
  | .package package => if getItem lookups.item package.tid held = uid then package.count else 0

/-- An item pays for the box: it is of the named item's type, which is a box's. -/
structure Payable (isBox : Tid → Bool) (reward : BoxReward) (itemUid uid : Uid) (item : Item) : Prop where
  box : ∃ named ∈ itemStorage.find lookups.box itemUid held.data,
    isBox named.tid = true ∧ Finds lookups.consumed named.tid held uid item
  piece : 1 ≤ item.count
  created : ∀ other ∈ createdUids lookups held reward, lookups.consumed other = true
  listed : ∀ other ∈ held.value.inventory ++ createdUids lookups held reward,
    (other = uid → item.count + addedPieces lookups held uid reward ≠ 1) → lookups.listed other = true

def Unpayable (itemUid : Uid) : Prop :=
  ∀ named ∈ itemStorage.find lookups.box itemUid held.data, Lacks lookups.consumed named.tid held

end Condition

/-- The condition: the creation fails, the reward can be granted and paid for, or neither can be. -/
def BoxReady (isBox : Tid → Bool) (lookups : BoxLookups) (reward : BoxReward) (caller itemUid : Uid)
    (data : DataDirector) : Prop :=
  ∀ character ∈ characterStorage.find lookups.character caller data,
    Fails lookups ⟨character, data⟩ reward ∨
      GrantsAll lookups ⟨character, data⟩ reward ∧
          (∃ uid item, Payable lookups ⟨character, data⟩ isBox reward itemUid uid item) ∨
      GrantsNothing lookups ⟨character, data⟩ reward ∧ Unpayable lookups ⟨character, data⟩ itemUid

/-- The uid of a new record is not in use. -/
def Unnamed (lookups : BoxLookups) (caller itemUid : Uid) (data : DataDirector) : Prop :=
  ∀ uid ∈ lookups.item.created, uid ≠ itemUid ∧
    ∀ character ∈ characterStorage.find lookups.character caller data, uid ∉ character.inventory

/-! ## What the accesses do -/

/-- What the first access adds, and what it leaves, unless the process ends. -/
def rewarded (lookups : BoxLookups) (held : Held Character) : BoxReward → Option (Uid × Held Character)
  | .carrots carrotAmount => some (invalidUid, { held with value := addCarrots carrotAmount held.value })
  | .package package => added lookups.item package.tid (.count package.count) held

section Accesses

variable {lookups : BoxLookups} {reward : BoxReward} {caller itemUid uid : Uid} {data : DataDirector}
  {held after : Held Character} {character : Character}

theorem grantReward_ok (h : rewarded lookups held reward = some (uid, after)) :
    ∃ response, grantReward lookups reward held = .ok (uid, response) after := by
  cases reward with
  | carrots carrotAmount =>
    cases h
    exact ⟨_, rfl⟩
  | package package =>
    have hadd : addItem lookups.item package.tid (.count package.count) held = .ok uid after := by
      rw [addItem_apply, show added lookups.item package.tid (.count package.count) held = _ from h]
    exact ⟨_, bind_ok hadd _⟩

theorem grantReward_fails (h : rewarded lookups held reward = none) :
    grantReward lookups reward held = .error .terminated held := by
  cases reward with
  | carrots carrotAmount => cases h
  | package package =>
    have hadd : addItem lookups.item package.tid (.count package.count) held = .error .terminated held := by
      rw [addItem_apply, show added lookups.item package.tid (.count package.count) held = _ from h]
    exact bind_error hadd _

theorem payBox_missing (response : OpenRandomBoxOK) (h : itemStorage.find lookups.box itemUid held.data = none) :
    payBox lookups itemUid response held = .error (.thrown "Value of the record is unavailable") held := by
  rw [payBox, bind_apply, get_apply]
  dsimp only
  rw [h]
  rfl

theorem payBox_found (response : OpenRandomBoxOK) {named : Item}
    (h : itemStorage.find lookups.box itemUid held.data = some named) :
    payBox lookups itemUid response held =
      match itemStorage.cachedAll lookups.listed (consumeItem lookups.consumed named.tid 1 held).2.data
          (consumeItem lookups.consumed named.tid 1 held).2.value.inventory with
      | none => .error .undefined (consumeItem lookups.consumed named.tid 1 held).2
      | some items =>
        .ok { response with
          unk0 := itemUid
          unk1 := (consumeItem lookups.consumed named.tid 1 held).1.remainingItemCount
          items := items } (consumeItem lookups.consumed named.tid 1 held).2 := by
  rw [payBox, bind_apply, get_apply]
  dsimp only
  rw [h]
  dsimp only
  rw [bind_ok (show (set (consumeItem lookups.consumed named.tid 1 held).2 : Effect (Held Character) Failure PUnit)
    held = .ok ⟨⟩ (consumeItem lookups.consumed named.tid 1 held).2 from rfl)]
  cases itemStorage.cachedAll lookups.listed (consumeItem lookups.consumed named.tid 1 held).2.data
    (consumeItem lookups.consumed named.tid 1 held).2.value.inventory with
  | none => rfl
  | some items => rfl

end Accesses

/-! ## What a reward leaves -/

section Rewarded

variable {lookups : BoxLookups} {reward : BoxReward} {uid : Uid} {held after : Held Character}

theorem addCarrots_zero (character : Character) : addCarrots 0 character = character := by
  have hzero : (character.carrots.toUInt32 + 0).toInt32 = character.carrots := by
    rw [UInt32.add_zero]
    rfl
  rw [addCarrots, hzero]

/-- The ways in which a reward is granted. -/
theorem rewarded_cases (h : rewarded lookups held reward = some (uid, after)) :
    (∃ carrotAmount, reward = .carrots carrotAmount ∧ uid = invalidUid ∧
        after = { held with value := addCarrots carrotAmount held.value }) ∨
      ∃ package, reward = .package package ∧
        ((getItem lookups.item package.tid held = invalidUid ∧
            itemStorage.fresh lookups.item.created held.data = some uid ∧
            after = pushInventory uid
              (writeItem uid (newItem lookups.item.now package.tid (.count package.count) uid) held)) ∨
          getItem lookups.item package.tid held ≠ invalidUid ∧
            ((itemStorage.cached lookups.item.existing (getItem lookups.item package.tid held) held.data = none ∧
                uid = invalidUid ∧ after = held) ∨
              ∃ item, itemStorage.cached lookups.item.existing (getItem lookups.item package.tid held) held.data =
                  some item ∧ uid = getItem lookups.item package.tid held ∧
                after = writeItem (getItem lookups.item package.tid held)
                  (growItem lookups.item.now (.count package.count) item) held)) := by
  cases reward with
  | carrots carrotAmount =>
    cases h
    exact .inl ⟨carrotAmount, rfl, rfl, rfl⟩
  | package package =>
    have hadded : added lookups.item package.tid (.count package.count) held = some (uid, after) := h
    refine .inr ⟨package, rfl, ?_⟩
    rw [added] at hadded
    by_cases hfound : getItem lookups.item package.tid held = invalidUid
    · rw [if_pos hfound] at hadded
      obtain ⟨created, hfresh, hresult⟩ := Option.map_eq_some_iff.1 hadded
      cases hresult
      exact .inl ⟨hfound, hfresh, rfl⟩
    · rw [if_neg hfound] at hadded
      refine .inr ⟨hfound, ?_⟩
      cases hcached : itemStorage.cached lookups.item.existing (getItem lookups.item package.tid held) held.data with
      | none =>
        rw [hcached] at hadded
        cases hadded
        exact .inl ⟨rfl, rfl, rfl⟩
      | some item =>
        rw [hcached] at hadded
        cases hadded
        exact .inr ⟨item, rfl, rfl, rfl⟩

theorem createdUids_of_new {package : Package} (hnew : getItem lookups.item package.tid held = invalidUid)
    (hfresh : itemStorage.fresh lookups.item.created held.data = some uid) :
    createdUids lookups held (.package package) = [uid] := by
  rw [createdUids, createdBy, if_pos hnew, hfresh]
  rfl

theorem createdUids_of_found {package : Package} (hfound : getItem lookups.item package.tid held ≠ invalidUid) :
    createdUids lookups held (.package package) = [] := by
  rw [createdUids, createdBy, if_neg hfound]
  rfl

theorem extends_rewarded (hid : held.data.Identified) (h : rewarded lookups held reward = some (uid, after))
    (hnew : ∀ other ∈ createdUids lookups held reward, other ∉ held.value.inventory) :
    Extends held after (createdUids lookups held reward) := by
  obtain ⟨carrotAmount, rfl, -, rfl⟩ | ⟨package, rfl, hcases⟩ := rewarded_cases h
  · exact ⟨(List.append_nil _).symm, fun _ _ => rfl, fun _ h => absurd h List.not_mem_nil⟩
  · obtain ⟨hnone, hfresh, rfl⟩ | ⟨hfound, ⟨-, -, rfl⟩ | ⟨item, hcached, -, rfl⟩⟩ := hcases
    · rw [createdUids_of_new hnone hfresh] at hnew ⊢
      have hunlisted := hnew uid (List.mem_singleton_self uid)
      refine ⟨rfl, fun other hother => ?_, fun other hother => ?_⟩
      · have hne : other ≠ uid := fun hsame => hother (List.mem_singleton.2 hsame)
        rw [typeOf, items_create, update_of_ne hne]
        rfl
      · cases List.mem_singleton.1 hother
        refine ⟨?_, hunlisted⟩
        rw [items_create, update_self]
        rfl
    · rw [createdUids_of_found hfound]
      exact extends_self _
    · rw [createdUids_of_found hfound]
      refine ⟨(List.append_nil _).symm, fun other hother => ?_, fun _ h => absurd h List.not_mem_nil⟩
      have hrecord : held.data.items (getItem lookups.item package.tid held) = some item :=
        records_of_cached hcached
      by_cases hsame : other = getItem lookups.item package.tid held
      · subst hsame
        have hgrown : (writeItem (getItem lookups.item package.tid held)
            (growItem lookups.item.now (.count package.count) item) held).data.items
              (getItem lookups.item package.tid held) = some (growItem lookups.item.now (.count package.count) item) :=
          update_self ..
        rw [typeOf, hgrown, typeOf, hrecord]
        exact congrArg some (growItem_tid ..)
      · exact congrArg (Option.map Item.tid) (update_of_ne hsame ..)

theorem rewarded_identified (hid : held.data.Identified) (h : rewarded lookups held reward = some (uid, after)) :
    after.data.Identified := by
  cases reward with
  | carrots carrotAmount =>
    cases h
    exact hid
  | package package => exact added_identified hid h

theorem rewarded_invalid (hinvalid : held.data.items invalidUid = none)
    (h : rewarded lookups held reward = some (uid, after)) : after.data.items invalidUid = none := by
  obtain ⟨carrotAmount, rfl, -, rfl⟩ | ⟨package, rfl, hcases⟩ := rewarded_cases h
  · exact hinvalid
  · obtain ⟨-, hfresh, rfl⟩ | ⟨hfound, ⟨-, -, rfl⟩ | ⟨item, -, -, rfl⟩⟩ := hcases
    · obtain ⟨-, hvalid, -⟩ := fresh_eq_some.1 hfresh
      rw [items_create, update_of_ne hvalid.symm]
      exact hinvalid
    · exact hinvalid
    · exact (update_of_ne hfound.symm ..).trans hinvalid

/-- An item of the character after a reward that is granted. -/
theorem record_rewarded (hinvalid : held.data.items invalidUid = none) (hgrants : GrantsAll lookups held reward)
    (h : rewarded lookups held reward = some (uid, after))
    {other : Uid} {item : Item} (hitem : held.data.items other = some item) :
    after.data.items other = some { item with count := item.count + addedPieces lookups held other reward } := by
  obtain ⟨carrotAmount, rfl, -, rfl⟩ | ⟨package, rfl, hcases⟩ := rewarded_cases h
  · rw [addedPieces, UInt32.add_zero]
    exact hitem
  · rw [addedPieces]
    obtain ⟨hnone, hfresh, rfl⟩ | ⟨hfound, ⟨hmissing, -, -⟩ | ⟨grown, hcached, -, rfl⟩⟩ := hcases
    · obtain ⟨-, -, hempty⟩ := fresh_eq_some.1 hfresh
      have hempty : held.data.items uid = none := hempty
      have hne : other ≠ uid := by
        rintro rfl
        cases hempty.symm.trans hitem
      rw [items_create, update_of_ne hne, hnone]
      have hother : invalidUid ≠ other := by
        rintro rfl
        cases hinvalid.symm.trans hitem
      rw [if_neg hother, UInt32.add_zero]
      exact hitem
    · rw [GrantsAll, if_neg hfound, hmissing] at hgrants
      obtain ⟨item, hitem, -⟩ := hgrants
      cases hitem
    · have hrecord : held.data.items (getItem lookups.item package.tid held) = some grown :=
        records_of_cached hcached
      by_cases hsame : getItem lookups.item package.tid held = other
      · subst hsame
        cases hrecord.symm.trans hitem
        rw [if_pos rfl]
        exact update_self ..
      · rw [if_neg hsame, UInt32.add_zero]
        exact (update_of_ne (Ne.symm hsame) ..).trans hitem

theorem growItem_zero (now : Chrono.TimePoint) (item : Item) : growItem now (.count 0) item = item := by
  rw [growItem, UInt32.add_zero]

theorem toInt_addCarrots {carrotAmount : UInt32} {character : Character} :
    (addCarrots carrotAmount character).carrots.toInt = character.carrots.toInt + carrotAmount.toNat ↔
      character.carrots.toInt + carrotAmount.toNat < 2 ^ 31 := by
  have hbits : (addCarrots carrotAmount character).carrots.toInt =
      (character.carrots.toInt + carrotAmount.toNat).bmod (2 ^ 32) := by
    have hsum : (addCarrots carrotAmount character).carrots = character.carrots + carrotAmount.toInt32 := rfl
    have hsigned : carrotAmount.toInt32.toInt = (carrotAmount.toNat : Int).bmod (2 ^ 32) :=
      BitVec.toInt_eq_toNat_bmod _
    rw [hsum, Int32.toInt_add, hsigned, Int.add_bmod_bmod]
  have hmin := character.carrots.le_toInt
  have hmax := (addCarrots carrotAmount character).carrots.toInt_lt
  constructor
  · intro h
    omega
  · intro h
    rw [hbits]
    exact Int.bmod_eq_of_le (by omega) (by omega)

end Rewarded

section Middle

variable {lookups : BoxLookups} {reward : BoxReward} {caller uid : Uid} {data : DataDirector} {character : Character}
  {after : Held Character} (hcharacter : data.characters caller = some character)
  (h : rewarded lookups ⟨character, data⟩ reward = some (uid, after))

include hcharacter h

/-- A reward changes nothing exactly if it is empty or cannot be had. -/
theorem middle_eq_iff : characterStorage.write caller after.value after.data = data ↔
    GrantsNothing lookups ⟨character, data⟩ reward := by
  have hself : characterStorage.write caller character data = data := write_self hcharacter
  obtain ⟨carrotAmount, rfl, -, rfl⟩ | ⟨package, rfl, hcases⟩ := rewarded_cases h
  · rw [GrantsNothing]
    constructor
    · intro hsame
      have hrecord := congrArg (fun data : DataDirector => data.characters caller) hsame
      have hcarrots : some (addCarrots carrotAmount character) = some character :=
        ((update_self ..).symm.trans hrecord).trans hcharacter
      have hbalance : (character.carrots.toUInt32 + carrotAmount).toInt32 = character.carrots :=
        congrArg Character.carrots (Option.some_inj.1 hcarrots)
      have hbits : character.carrots.toUInt32 + carrotAmount = character.carrots.toUInt32 :=
        congrArg Int32.toUInt32 hbalance
      grind
    · rintro rfl
      rw [addCarrots_zero]
      exact hself
  · rw [GrantsNothing]
    obtain ⟨hnone, hfresh, rfl⟩ | ⟨hfound, ⟨hmissing, -, rfl⟩ | ⟨item, hcached, -, rfl⟩⟩ := hcases
    · refine iff_of_false (fun hsame => ?_) fun hfound => hfound.1 hnone
      obtain ⟨-, -, hempty⟩ := fresh_eq_some.1 hfresh
      have hempty : data.items uid = none := hempty
      have hrecord := congrArg (fun data : DataDirector => data.items uid) hsame
      have hitem := (update_self ..).symm.trans (hrecord.trans hempty)
      exact Option.some_ne_none _ hitem
    · refine iff_of_true hself ⟨hfound, fun item hitem => ?_⟩
      cases hmissing.symm.trans hitem
    · have hrecord : data.items (getItem lookups.item package.tid ⟨character, data⟩) = some item :=
        records_of_cached hcached
      constructor
      · intro hsame
        refine ⟨hfound, fun other hother => ?_⟩
        cases hcached.symm.trans hother
        have hgrown := congrArg
          (fun after : DataDirector => after.items (getItem lookups.item package.tid ⟨character, data⟩)) hsame
        have hcounts : some (growItem lookups.item.now (.count package.count) item) = some item :=
          ((update_self ..).symm.trans hgrown).trans hrecord
        have hcount : item.count + package.count = item.count := congrArg Item.count (Option.some_inj.1 hcounts)
        grind
      · rintro ⟨-, hzero⟩
        have hcount : package.count = 0 := hzero item hcached
        have hwrite : itemStorage.write (getItem lookups.item package.tid ⟨character, data⟩) item data = data :=
          write_self hrecord
        rw [hcount, growItem_zero, writeItem, hwrite]
        exact hself

omit hcharacter in
theorem returned_grantBox (hfind : characterStorage.find lookups.character caller data = some character) :
    ∃ response, grantBox lookups reward caller data =
      .ok (uid, response) (characterStorage.write caller after.value after.data) := by
  obtain ⟨response, hresponse⟩ := grantReward_ok h
  exact ⟨response, access_ok _ hfind hresponse⟩

/-- A reward is granted exactly if there is room for it. -/
theorem granted_iff (hid : data.Identified)
    (hfind : characterStorage.find lookups.character caller data = some character) :
    Granted lookups reward caller data (characterStorage.write caller after.value after.data) ↔
      GrantsAll lookups ⟨character, data⟩ reward := by
  obtain ⟨response, hgrant⟩ := returned_grantBox h hfind
  have hreturned : (grantBox lookups reward caller).returned data = some (uid, response) := returned_ok hgrant
  have hiff : Granted lookups reward caller data (characterStorage.write caller after.value after.data) ↔
      ∃ after', Rewards lookups uid ⟨character, data⟩ after' reward ∧
        characterStorage.write caller after.value after.data = characterStorage.write caller after'.value after'.data := by
    constructor
    · rintro ⟨other, granted, after', hother, hgranted, hrewards, hsame⟩
      cases hcharacter.symm.trans hother
      cases hreturned.symm.trans hgranted
      exact ⟨after', hrewards, hsame⟩
    · rintro ⟨after', hrewards, hsame⟩
      exact ⟨character, _, after', hcharacter, hreturned, hrewards, hsame⟩
  rw [hiff]
  obtain ⟨carrotAmount, rfl, rfl, rfl⟩ | ⟨package, rfl, hcases⟩ := rewarded_cases h
  · rw [GrantsAll, ← toInt_addCarrots]
    constructor
    · rintro ⟨after', ⟨hvalue, hcarrots, -⟩, -⟩
      rw [hvalue] at hcarrots
      exact hcarrots
    · intro hcarrots
      exact ⟨⟨addCarrots carrotAmount character, data⟩, ⟨rfl, hcarrots, rfl⟩, rfl⟩
  · have hadded : added lookups.item package.tid (.count package.count) ⟨character, data⟩ = some (uid, after) := h
    rw [GrantsAll]
    obtain ⟨hnone, hfresh, rfl⟩ | ⟨hfound, ⟨hmissing, rfl, rfl⟩ | ⟨item, hcached, rfl, rfl⟩⟩ := hcases
    · rw [if_pos hnone, hfresh]
      refine iff_of_true ⟨_, ?_, rfl⟩ rfl
      obtain ⟨-, hvalid, -⟩ := fresh_eq_some.1 hfresh
      have hitem := @find_write _ itemStorage _ hvalid
        (newItem lookups.item.now package.tid (.count package.count) uid) data
      exact ⟨hvalid, _, (received_iff hid hadded hitem).2 fun hfound => absurd hnone hfound⟩
    · rw [if_neg hfound, hmissing]
      constructor
      · rintro ⟨after', ⟨hvalid, -⟩, -⟩
        exact absurd rfl hvalid
      · rintro ⟨item, hitem, -⟩
        cases hitem
    · have hrecord : data.items (getItem lookups.item package.tid ⟨character, data⟩) = some item :=
        records_of_cached hcached
      rw [if_neg hfound, hcached]
      constructor
      · rintro ⟨after', ⟨-, other, hreceived⟩, hsame⟩
        refine ⟨item, rfl, ?_⟩
        have hadds := hreceived.adds
        have hbefore : (⟨character, data⟩ : Held Character).data.items
          (getItem lookups.item package.tid ⟨character, data⟩) = some item := hrecord
        rw [hbefore] at hadds
        have hrecords := congrArg
          (fun after : DataDirector => after.items (getItem lookups.item package.tid ⟨character, data⟩)) hsame
        have hafter : after'.data.items (getItem lookups.item package.tid ⟨character, data⟩) = some other := by
          rw [hreceived.records]
          exact update_self ..
        have hgrown : some (growItem lookups.item.now (.count package.count) item) = some other :=
          ((update_self ..).symm.trans hrecords).trans hafter
        cases hgrown
        exact adds_growItem.1 hadds
      · rintro ⟨other, hother, hfits⟩
        cases hother
        refine ⟨_, ⟨hfound, growItem lookups.item.now (.count package.count) item, ?_⟩, rfl⟩
        have hitem := @find_write _ itemStorage _ hfound
          (growItem lookups.item.now (.count package.count) item) data
        refine (received_iff hid hadded hitem).2 fun _ other hother => ?_
        cases hrecord.symm.trans hother
        exact hfits

omit hcharacter in
/-- The second access, after a reward. -/
theorem handleOpenRandomBox_cases (hfind : characterStorage.find lookups.character caller data = some character)
    (itemUid : Uid) {middle : DataDirector} (hmiddle : characterStorage.write caller after.value after.data = middle) :
    (itemStorage.find lookups.box itemUid middle = none ∧
        ∃ failure, handleOpenRandomBox lookups reward caller itemUid data = .error failure middle) ∨
      ∃ named held, itemStorage.find lookups.box itemUid middle = some named ∧
        (consumeItem lookups.consumed named.tid 1 ⟨after.value, middle⟩).2 = held ∧
        (((itemStorage.cachedAll lookups.listed held.data held.value.inventory).isSome = false ∧
            ∃ failure, handleOpenRandomBox lookups reward caller itemUid data =
              .error failure (characterStorage.write caller held.value held.data)) ∨
          (itemStorage.cachedAll lookups.listed held.data held.value.inventory).isSome = true ∧
            ∃ response, handleOpenRandomBox lookups reward caller itemUid data =
              .ok response (characterStorage.write caller held.value held.data)) := by
  obtain ⟨begun, hgrant⟩ := returned_grantBox h hfind
  obtain ⟨hvalid, havailable, -⟩ := find_eq_some.1 hfind
  have hagain : characterStorage.find lookups.character caller middle = some after.value := by
    rw [havailable, ← hmiddle]
    exact find_write hvalid _ _
  have hhandler : handleOpenRandomBox lookups reward caller itemUid data =
      payForBox lookups caller itemUid begun middle := by
    rw [← hmiddle]
    exact bind_ok hgrant _
  rw [hhandler]
  cases hbox : itemStorage.find lookups.box itemUid middle with
  | none =>
    have hpay := payBox_missing begun (show itemStorage.find lookups.box itemUid
      (⟨after.value, middle⟩ : Held Character).data = none from hbox)
    have hsame : characterStorage.write caller after.value middle = middle := by
      rw [← hmiddle, write_write]
    have hresult := access_error (.thrown "Value of the record is unavailable") hagain hpay
    dsimp only at hresult
    rw [hsame] at hresult
    exact .inl ⟨rfl, _, hresult⟩
  | some named =>
    refine .inr ⟨named, _, rfl, rfl, ?_⟩
    have hpay := payBox_found begun (show itemStorage.find lookups.box itemUid
      (⟨after.value, middle⟩ : Held Character).data = some named from hbox)
    cases hlisted : itemStorage.cachedAll lookups.listed
        (consumeItem lookups.consumed named.tid 1 ⟨after.value, middle⟩).2.data
        (consumeItem lookups.consumed named.tid 1 ⟨after.value, middle⟩).2.value.inventory with
    | none =>
      rw [hlisted] at hpay
      exact .inl ⟨rfl, _, access_error _ hagain hpay⟩
    | some items =>
      rw [hlisted] at hpay
      exact .inr ⟨rfl, _, access_ok _ hagain hpay⟩

end Middle

end Alicia.Possession
