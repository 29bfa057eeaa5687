import Alicia.Data.Director
import Alicia.Transition.Run
import Mathlib.Algebra.Order.Ring.Int

/-!
# The item system

`AddItem` runs while the caller holds the character.  An item of a type that the character already
has grows in place, and another one gets a record of its own.  The function is `noexcept`, so an
exception in it ends the process.

`Received` says what an addition is for, with exact numbers: a count grows by the amount, and the
time at which an item expires moves by the duration.
-/

namespace Alicia.Possession

open Transition Data Function Option Storage
open Chrono (TimePoint Seconds)
open DataDirector (itemStorage)

/-- How a handler ends if it does not return. -/
inductive Failure where
  | thrown (what : String)
  | terminated
  /-- A list of records was used that the code did not get. -/
  | undefined
  deriving DecidableEq

/-- What is added of an item: a number of pieces, or time. -/
inductive Amount where
  | count (pieces : UInt32)
  | duration (time : Seconds)
  deriving DecidableEq

/-- What the lookups of an addition find, and the time at which it happens. -/
structure ItemLookups where
  inventory : Uid → Bool := fun _ => true
  equipment : Uid → Bool := fun _ => true
  existing : Bool := true
  created : Option Uid := none
  now : TimePoint := .epoch

/-- The uid of the first item of a type in a list, unless a record of the list is unavailable. -/
def searchItems (available : Uid → Bool) (tid : Tid) (data : DataDirector) (uids : List Uid) : Uid :=
  match itemStorage.cachedAll available data uids with
  | none => invalidUid
  | some items =>
    ((items.find? fun item => item.tid = tid && item.uid ≠ invalidUid).map Item.uid).getD invalidUid

/-- `ItemSystem::GetItem`. -/
def getItem (lookups : ItemLookups) (tid : Tid) (held : Held Character) : Uid :=
  let found := searchItems lookups.inventory tid held.data held.value.inventory
  if found ≠ invalidUid then found
  else searchItems lookups.equipment tid held.data held.value.characterEquipment

/-- `ItemSystem::HasItem`. -/
def hasItem (inventory equipment : Uid → Bool) (tid : Tid) (held : Held Character) : Bool :=
  let hasItemWithTid (available : Uid → Bool) (uids : List Uid) : Bool :=
    match itemStorage.cachedAll available held.data uids with
    | none => false
    | some items => items.any fun item => item.tid = tid
  hasItemWithTid inventory held.value.inventory ||
    hasItemWithTid equipment held.value.characterEquipment

/-- `ItemSystem::HasItemInstance`. -/
def hasItemInstance (character : Character) (uid : Uid) : Bool :=
  character.inventory.contains uid || character.characterEquipment.contains uid

/-- A new item. -/
def newItem (now : TimePoint) (tid : Tid) : Amount → Uid → Item
  | .count pieces, uid => { uid := uid, tid := tid, count := pieces, duration := 0, createdAt := now }
  | .duration time, uid => { uid := uid, tid := tid, count := 1, duration := time, createdAt := now }

/-- `createdAt + duration`. -/
def expiresAt (item : Item) : TimePoint :=
  ⟨item.createdAt.sinceEpoch + item.duration * 1000000000⟩

/-- An item that the character has grows.  An expired one starts again. -/
def growItem (now : TimePoint) : Amount → Item → Item
  | .count pieces, item => { item with count := item.count + pieces }
  | .duration time, item =>
    if (expiresAt item).sinceEpoch ≤ now.sinceEpoch then
      { item with createdAt := now, duration := time }
    else { item with duration := item.duration + time }

/-- Append an item to the inventory. -/
def pushInventory (uid : Uid) (held : Held Character) : Held Character :=
  { held with value := { held.value with inventory := held.value.inventory ++ [uid] } }

/-- Replace the value of an item. -/
def writeItem (uid : Uid) (item : Item) (held : Held Character) : Held Character :=
  { held with data := itemStorage.write uid item held.data }

/-- `ItemSystem::AddItem`. -/
def addItem (lookups : ItemLookups) (tid : Tid) (amount : Amount) :
    Effect (Held Character) Failure Uid := do
  let held ← get
  let uid := getItem lookups tid held
  if uid = invalidUid then
    match itemStorage.fresh lookups.created held.data with
    | none => throw .terminated
    | some created =>
      modify (writeItem created (newItem lookups.now tid amount created))
      modify (pushInventory created)
      return created
  match itemStorage.cached lookups.existing uid held.data with
  | none => return invalidUid
  | some item =>
    modify (writeItem uid (growItem lookups.now amount item))
    return uid

/-! ## What an addition is for -/

/-- The time at which an item expires, without wrapping. -/
def expiry (item : Item) : Int :=
  item.createdAt.sinceEpoch.toInt + item.duration.toInt * 1000000000

/-- The amount is added to an item, or makes a new one. -/
def Adds (now : TimePoint) : Amount → Option Item → Item → Prop
  | .count pieces, none, item =>
    item.count = pieces ∧ item.duration = 0 ∧ item.createdAt = now
  | .count pieces, some before, item =>
    item.count.toNat = before.count.toNat + pieces.toNat ∧
      item.duration = before.duration ∧ item.createdAt = before.createdAt
  | .duration time, none, item =>
    item.count = 1 ∧ expiry item = now.sinceEpoch.toInt + time.toInt * 1000000000
  | .duration time, some before, item =>
    item.count = before.count ∧
      expiry item = max (expiry before) now.sinceEpoch.toInt + time.toInt * 1000000000

/-- The character has an item of the type which has the amount more than before, and nothing else
has changed. -/
structure Received (now : TimePoint) (tid : Tid) (amount : Amount) (before : Held Character)
    (uid : Uid) (item : Item) (after : Held Character) : Prop where
  type : item.tid = tid
  adds : Adds now amount (before.data.items uid) item
  owned : uid ∈ after.value.inventory ++ after.value.characterEquipment
  records : after.data = itemStorage.write uid item before.data
  character : after.value = before.value ∨
    before.data.items uid = none ∧ after = pushInventory uid { before with data := after.data }

/-- The amount fits beside what the item already has. -/
def Fits (now : TimePoint) : Amount → Item → Prop
  | .count pieces, item => item.count.toNat + pieces.toNat < 2 ^ 32
  | .duration time, item =>
    if expiry item ≤ now.sinceEpoch.toInt then (expiresAt item).sinceEpoch ≤ now.sinceEpoch
    else ¬(expiresAt item).sinceEpoch ≤ now.sinceEpoch ∧
      (item.duration + time).toInt = item.duration.toInt + time.toInt

instance (now : TimePoint) : ∀ amount item,
    Decidable (Fits now amount item)
  | .count _, _ => Nat.decLt _ _
  | .duration time, item =>
    inferInstanceAs (Decidable (
      if expiry item ≤ now.sinceEpoch.toInt then (expiresAt item).sinceEpoch ≤ now.sinceEpoch
      else ¬(expiresAt item).sinceEpoch ≤ now.sinceEpoch ∧
        (item.duration + time).toInt = item.duration.toInt + time.toInt))

theorem exists_toInt_add (first second : Int64) :
    ∃ k : Int, (first + second).toInt = first.toInt + second.toInt - k * (2 ^ 64 : Nat) := by
  rw [Int64.toInt_add]
  exact ⟨_, Int.bmod_eq_self_sub_bdiv_mul _ _⟩

theorem exists_expiresAt (item : Item) :
    ∃ k : Int, (expiresAt item).sinceEpoch.toInt = expiry item - k * (2 ^ 64 : Nat) := by
  obtain ⟨k, hk⟩ := exists_toInt_add item.createdAt.sinceEpoch (item.duration * 1000000000)
  have hl := Int.bmod_eq_self_sub_bdiv_mul (item.duration.toInt * 1000000000) (2 ^ 64)
  have hmul : (item.duration * 1000000000).toInt = Int.bmod (item.duration.toInt * 1000000000) (2 ^ 64) :=
    Int64.toInt_mul _ _
  refine ⟨k + Int.bdiv (item.duration.toInt * 1000000000) (2 ^ 64), ?_⟩
  have hexpires : (expiresAt item).sinceEpoch.toInt = _ := hk
  rw [expiry]
  omega

variable {amount : Amount}

theorem adds_growItem {now : TimePoint} {item : Item} :
    Adds now amount (some item) (growItem now amount item) ↔ Fits now amount item := by
  cases amount with
  | count pieces =>
    have h := UInt32.toNat_add item.count pieces
    have hlt := item.count.toNat_lt
    have hlt' := pieces.toNat_lt
    constructor
    · rintro ⟨hcount, -, -⟩
      have hcount : (item.count + pieces).toNat = _ := hcount
      show _ < _
      omega
    · intro hfits
      have hfits : _ < _ := hfits
      refine ⟨?_, rfl, rfl⟩
      show (item.count + pieces).toNat = _
      omega
  | duration time =>
    obtain ⟨k, hk⟩ := exists_expiresAt item
    obtain ⟨l, hl⟩ := exists_toInt_add item.duration time
    have hnow := now.sinceEpoch.toInt_lt
    have hnow' := now.sinceEpoch.le_toInt
    have hend := (expiresAt item).sinceEpoch.toInt_lt
    have hend' := (expiresAt item).sinceEpoch.le_toInt
    have hstart := item.createdAt.sinceEpoch.toInt_lt
    have hstart' := item.createdAt.sinceEpoch.le_toInt
    have hduration := item.duration.toInt_lt
    have hduration' := item.duration.le_toInt
    have hexpiry : expiry item =
      item.createdAt.sinceEpoch.toInt + item.duration.toInt * 1000000000 := rfl
    rw [growItem]
    by_cases hover : (expiresAt item).sinceEpoch ≤ now.sinceEpoch
    · have hover' := Int64.le_iff_toInt_le.1 hover
      rw [if_pos hover]
      -- The item starts again, which is right if it is really over.
      have hadds : Adds now (.duration time) (some item)
          { item with createdAt := now, duration := time } ↔ item.count = item.count ∧
            now.sinceEpoch.toInt + time.toInt * 1000000000 =
              max (expiry item) now.sinceEpoch.toInt + time.toInt * 1000000000 := Iff.rfl
      rw [hadds, Fits]
      by_cases hlate : expiry item ≤ now.sinceEpoch.toInt
      · rw [if_pos hlate, max_eq_right hlate]
        simp [hover]
      · rw [if_neg hlate, max_eq_left (by omega)]
        constructor
        · intro h
          omega
        · rintro ⟨hnot, -⟩
          exact absurd hover hnot
    · have hover' := mt Int64.le_iff_toInt_le.2 hover
      rw [if_neg hover]
      have hadds : Adds now (.duration time) (some item)
          { item with duration := item.duration + time } ↔ item.count = item.count ∧
            item.createdAt.sinceEpoch.toInt + (item.duration + time).toInt * 1000000000 =
              max (expiry item) now.sinceEpoch.toInt + time.toInt * 1000000000 := Iff.rfl
      rw [hadds, Fits]
      by_cases hlate : expiry item ≤ now.sinceEpoch.toInt
      · rw [if_pos hlate, max_eq_right hlate]
        constructor
        · rintro ⟨-, h⟩
          omega
        · intro h
          exact absurd h hover
      · rw [if_neg hlate, max_eq_left (by omega)]
        constructor
        · rintro ⟨-, h⟩
          exact ⟨hover, by omega⟩
        · rintro ⟨-, h⟩
          exact ⟨rfl, by omega⟩

/-! ## What the code does -/

/-- The uid that `AddItem` returns, and what it leaves, unless the process ends. -/
def added (lookups : ItemLookups) (tid : Tid) (amount : Amount) (held : Held Character) :
    Option (Uid × Held Character) :=
  let uid := getItem lookups tid held
  if uid = invalidUid then
    (itemStorage.fresh lookups.created held.data).map fun created =>
      (created, pushInventory created (writeItem created (newItem lookups.now tid amount created) held))
  else
    match itemStorage.cached lookups.existing uid held.data with
    | none => some (invalidUid, held)
    | some item => some (uid, writeItem uid (growItem lookups.now amount item) held)

theorem addItem_apply (lookups : ItemLookups) (tid : Tid) (amount : Amount)
    (held : Held Character) : addItem lookups tid amount held =
      match added lookups tid amount held with
      | some (uid, after) => .ok uid after
      | none => .error .terminated held := by
  rw [addItem, Effect.bind_apply, Effect.get_apply, added]
  dsimp only
  by_cases hfound : getItem lookups tid held = invalidUid
  · rw [if_pos hfound, if_pos hfound]
    cases itemStorage.fresh lookups.created held.data with
    | none => rfl
    | some created => rfl
  · rw [if_neg hfound, if_neg hfound]
    cases itemStorage.cached lookups.existing (getItem lookups tid held) held.data with
    | none => rfl
    | some item => rfl

/-- There is room for the amount in the item which the search finds. -/
def Grows (lookups : ItemLookups) (tid : Tid) (amount : Amount) (held : Held Character) : Prop :=
  getItem lookups tid held ≠ invalidUid →
    ∀ item ∈ held.data.items (getItem lookups tid held), Fits lookups.now amount item

instance (lookups : ItemLookups) (tid : Tid) (amount : Amount) (held : Held Character) :
    Decidable (Grows lookups tid amount held) :=
  @instDecidableForall _ _ _ (Option.decidableForallMem _)

variable {tid : Tid}

/-- The search finds an item of the list that has the type. -/
theorem searchItems_spec {available : Uid → Bool} {data : DataDirector} {uids : List Uid}
    (hid : data.Identified) (h : searchItems available tid data uids ≠ invalidUid) :
    searchItems available tid data uids ∈ uids ∧
      ∃ item, data.items (searchItems available tid data uids) = some item ∧ item.tid = tid := by
  rw [searchItems] at h ⊢
  cases hcached : itemStorage.cachedAll available data uids with
  | none =>
    rw [hcached] at h
    exact absurd rfl h
  | some items =>
    rw [hcached] at h
    dsimp only at h ⊢
    cases hfind : items.find? fun item => item.tid = tid && item.uid ≠ invalidUid with
    | none =>
      rw [hfind] at h
      exact absurd rfl h
    | some item =>
      obtain ⟨uid, huid, hrecord⟩ :=
        mem_cachedAll hcached (List.mem_of_find?_eq_some hfind)
      have hmatch := List.find?_some hfind
      simp only [Bool.and_eq_true, decide_eq_true_eq] at hmatch
      show item.uid ∈ uids ∧ ∃ other, data.items item.uid = some other ∧ other.tid = tid
      rw [hid.items uid item hrecord]
      exact ⟨huid, item, hrecord, hmatch.1⟩

variable {lookups : ItemLookups} {held : Held Character}

/-- The item which the search finds is the character's and has the type. -/
theorem getItem_spec (hid : held.data.Identified) (h : getItem lookups tid held ≠ invalidUid) :
    getItem lookups tid held ∈ held.value.inventory ++ held.value.characterEquipment ∧
      ∃ item, held.data.items (getItem lookups tid held) = some item ∧ item.tid = tid := by
  rw [getItem] at h ⊢
  by_cases hfound : searchItems lookups.inventory tid held.data held.value.inventory ≠ invalidUid
  · rw [if_pos hfound] at h ⊢
    obtain ⟨hmem, hitem⟩ := searchItems_spec hid h
    exact ⟨List.mem_append_left _ hmem, hitem⟩
  · rw [if_neg hfound] at h ⊢
    obtain ⟨hmem, hitem⟩ := searchItems_spec hid h
    exact ⟨List.mem_append_right _ hmem, hitem⟩

@[simp] theorem growItem_tid (now : TimePoint) (amount : Amount) (item : Item) :
    (growItem now amount item).tid = item.tid := by
  cases amount with
  | count pieces => rfl
  | duration time =>
    rw [growItem]
    split <;> rfl

@[simp] theorem newItem_tid (now : TimePoint) (tid : Tid) (amount : Amount) (uid : Uid) :
    (newItem now tid amount uid).tid = tid := by
  cases amount <;> rfl

theorem adds_newItem (now : TimePoint) (tid : Tid) (amount : Amount) (uid : Uid) :
    Adds now amount none (newItem now tid amount uid) := by
  cases amount with
  | count pieces => exact ⟨rfl, rfl, rfl⟩
  | duration time => exact ⟨rfl, rfl⟩

/-- An addition whose result is available is what it is for exactly if the item that grows is the
right one. -/
theorem received_iff {after : Held Character} {uid : Uid} {item : Item} {available : Bool}
    (hid : held.data.Identified) (hadded : added lookups tid amount held = some (uid, after))
    (hitem : itemStorage.find available uid after.data = some item) :
    Received lookups.now tid amount held uid item after ↔ Grows lookups tid amount held := by
  obtain ⟨hvalid, -, hitem⟩ := find_eq_some.1 hitem
  rw [added] at hadded
  by_cases hfound : getItem lookups tid held = invalidUid
  · -- The item is new.
    rw [if_pos hfound] at hadded
    obtain ⟨created, hfresh, hresult⟩ := map_eq_some_iff.1 hadded
    obtain ⟨-, -, hnone⟩ := fresh_eq_some.1 hfresh
    cases hresult
    have hnew : newItem lookups.now tid amount uid = item := by
      have h : update held.data.items uid (some (newItem lookups.now tid amount uid)) uid =
        some item := hitem
      rw [update_self] at h
      exact some_inj.1 h
    cases hnew
    refine ⟨fun _ h => absurd hfound h, fun _ => ⟨newItem_tid .., ?_, ?_, rfl, .inr ⟨hnone, rfl⟩⟩⟩
    · have h : held.data.items uid = none := hnone
      rw [h]
      exact adds_newItem ..
    · apply List.mem_append_left
      apply List.mem_append_right
      exact List.mem_singleton_self uid
  · rw [if_neg hfound] at hadded
    cases hcached : itemStorage.cached lookups.existing (getItem lookups tid held) held.data with
    | none =>
      rw [hcached] at hadded
      cases hadded
      exact absurd rfl hvalid
    | some before =>
      rw [hcached] at hadded
      cases hadded
      have hbefore : held.data.items (getItem lookups tid held) = some before :=
        records_of_cached hcached
      have hgrown : growItem lookups.now amount before = item := by
        have h : update held.data.items (getItem lookups tid held)
          (some (growItem lookups.now amount before)) (getItem lookups tid held) = some item := hitem
        rw [update_self] at h
        exact some_inj.1 h
      cases hgrown
      obtain ⟨howned, other, hother, htype⟩ := getItem_spec hid hfound
      cases hbefore.symm.trans hother
      rw [Grows, hbefore]
      constructor
      · intro h _ item hitem
        cases hitem
        have hadds := h.adds
        rw [hbefore] at hadds
        exact adds_growItem.1 hadds
      · intro h
        refine ⟨(growItem_tid ..).trans htype, ?_, howned, rfl, .inl rfl⟩
        rw [hbefore]
        exact adds_growItem.2 (h hfound before rfl)

/-- An addition leaves every item record with its own uid. -/
theorem added_identified {after : Held Character} {uid : Uid} (hid : held.data.Identified)
    (hadded : added lookups tid amount held = some (uid, after)) : after.data.Identified := by
  have hwrite : ∀ key item, item.uid = key → (itemStorage.write key item held.data).Identified := by
    intro key item hitem
    refine ⟨fun other value hvalue => ?_⟩
    have hvalue : update held.data.items key (some item) other = some value := hvalue
    by_cases hkey : other = key
    · subst hkey
      rw [update_self] at hvalue
      cases hvalue
      exact hitem
    · rw [update_of_ne hkey] at hvalue
      exact hid.items other value hvalue
  rw [added] at hadded
  by_cases hfound : getItem lookups tid held = invalidUid
  · rw [if_pos hfound] at hadded
    obtain ⟨created, -, hresult⟩ := map_eq_some_iff.1 hadded
    cases hresult
    exact hwrite _ _ (by cases amount <;> rfl)
  · rw [if_neg hfound] at hadded
    cases hcached : itemStorage.cached lookups.existing (getItem lookups tid held) held.data with
    | none =>
      rw [hcached] at hadded
      cases hadded
      exact hid
    | some before =>
      rw [hcached] at hadded
      cases hadded
      refine hwrite _ _ ?_
      have hbefore := hid.items _ before (records_of_cached hcached)
      cases amount with
      | count pieces => exact hbefore
      | duration time =>
        rw [growItem]
        split <;> exact hbefore

/-- An addition changes the inventory of the character and the records of items only. -/
theorem added_frame {start : Held Character} {uid : Uid}
    (h : added lookups tid amount start = some (uid, held)) :
    held.value = { start.value with inventory := held.value.inventory } ∧
      held.data = { start.data with items := held.data.items } := by
  rw [added] at h
  by_cases hfound : getItem lookups tid start = invalidUid
  · rw [if_pos hfound] at h
    obtain ⟨created, -, hresult⟩ := map_eq_some_iff.1 h
    cases hresult
    exact ⟨rfl, rfl⟩
  · rw [if_neg hfound] at h
    cases hcached : itemStorage.cached lookups.existing (getItem lookups tid start) start.data with
    | none =>
      rw [hcached] at h
      cases h
      exact ⟨rfl, rfl⟩
    | some before =>
      rw [hcached] at h
      cases h
      exact ⟨rfl, rfl⟩

end Alicia.Possession
