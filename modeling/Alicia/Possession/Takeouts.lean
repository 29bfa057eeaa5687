import Alicia.Possession.Deliveries
import Alicia.Possession.Stacks

/-!
# Takeouts are atomic

A stored item is either taken out in full or left alone.  Its reference is gone before the record is asked for, goods
without a template are lost, and records of the goods that are not available are used all the same, so this holds for
the takeouts that can be made in full.  The answer is OK once at most for each stored item, however often it is asked
for.
-/

namespace Alicia.Possession

open Transition Effect Data Registry Function Storage
open DataDirector (characterStorage itemStorage storageItemStorage)

/-- An attempt to take a stored item out. -/
structure Takeout where
  lookups : StorageLookups := {}
  caller : Uid
  storageItemUid : Uid

variable (registry : ItemRegistry)

def takeout (input : Takeout) : Effect DataDirector Failure GiftReply :=
  handleGetItemFromStorage registry input.lookups input.caller input.storageItemUid

def takeoutStep (data : DataDirector) (input : Takeout) : DataDirector :=
  (takeout registry input).final data

/-- One reference to the stored item leaves the lists of a character, and its carrots are added. -/
structure Redeemed (uid : Uid) (stored : StorageItem) (before after : Character) : Prop where
  lists : ∃ removed ∈ removeStored uid before,
    after.gifts = removed.gifts ∧ after.purchases = removed.purchases
  carrots : after.carrots.toInt = before.carrots.toInt + stored.carrots.toInt

/-- The stored item is taken out with its goods and carrots, or nothing is changed. -/
structure Atomic (data : DataDirector) (input : Takeout) : Prop where
  takesOut : TakesOut registry input.lookups input.caller input.storageItemUid data
  redeemed : ∀ after, takeout registry input data = .ok .ok after →
    ∃ before ∈ data.characters input.caller, ∃ stored ∈ data.storageItems input.storageItemUid,
      ∃ character ∈ after.characters input.caller, Redeemed input.storageItemUid stored before character

/-- The condition: the stored item and its goods can be had, and there is room for the carrots. -/
structure Collectable (data : DataDirector) (input : Takeout) : Prop where
  available : Available registry input.lookups input.caller input.storageItemUid data
  room : ∀ character ∈ characterStorage.find input.lookups.character input.caller data,
    (removeStored input.storageItemUid character).isSome = true →
      ∀ stored ∈ storageItemStorage.cached input.lookups.storageItem input.storageItemUid data,
        -2 ^ 31 ≤ character.carrots.toInt + stored.carrots.toInt ∧
          character.carrots.toInt + stored.carrots.toInt < 2 ^ 31

/-- The attempt gets the contents of the stored item. -/
def delivers (uid : Uid) (data : DataDirector) (input : Takeout) : Bool :=
  (takeout registry input).returned data = some .ok && input.storageItemUid = uid

variable {registry}

/-! ## What additions leave alone -/

/-- The stored items, the references to them and the carrots are as they were. -/
structure SameStores (before after : Held Character) : Prop where
  carrots : after.value.carrots = before.value.carrots
  gifts : after.value.gifts = before.value.gifts
  purchases : after.value.purchases = before.value.purchases
  storageItems : after.data.storageItems = before.data.storageItems

instance : Std.Refl SameStores := ⟨fun _ => ⟨rfl, rfl, rfl, rfl⟩⟩

instance : IsTrans (Held Character) SameStores :=
  ⟨fun _ _ _ first second => ⟨second.carrots.trans first.carrots, second.gifts.trans first.gifts,
    second.purchases.trans first.purchases, second.storageItems.trans first.storageItems⟩⟩

theorem keeps_addItem (lookups : ItemLookups) (tid : Tid) (amount : Amount) :
    Effect.Keeps SameStores (addItem lookups tid amount) := by
  intro held
  rw [final_addItem]
  cases hadded : added lookups tid amount held with
  | none => exact refl_of SameStores held
  | some result =>
    obtain ⟨hvalue, hdata⟩ := added_frame hadded
    have hcarrots : result.2.value.carrots = held.value.carrots := by rw [hvalue]
    have hgifts : result.2.value.gifts = held.value.gifts := by rw [hvalue]
    have hpurchases : result.2.value.purchases = held.value.purchases := by rw [hvalue]
    have hstorageItems : result.2.data.storageItems = held.data.storageItems := by rw [hdata]
    exact ⟨hcarrots, hgifts, hpurchases, hstorageItems⟩

variable (registry) in
theorem keeps_addStored (lookups : Nat → ItemLookups) (n : Nat) (goods : List StoredGood) :
    Effect.Keeps SameStores (addStored registry lookups n goods) := by
  induction goods generalizing n with
  | nil => exact Keeps.pure _
  | cons good rest ih =>
    unfold addStored
    cases registry good.tid with
    | none => exact ih (n + 1)
    | some template =>
      refine Keeps.bind (keeps_addItem _ _ _) fun uid => ?_
      exact Keeps.bind (ih (n + 1)) fun uids => Keeps.pure _

/-- The carrots of a stored item are added, and the references and the stored items are as they were. -/
structure Collected (stored : StorageItem) (before after : Held Character) : Prop where
  carrots : after.value.carrots = before.value.carrots + stored.carrots
  gifts : after.value.gifts = before.value.gifts
  purchases : after.value.purchases = before.value.purchases
  storageItems : after.data.storageItems = before.data.storageItems

variable {lookups : StorageLookups} {held : Held Character}

theorem collected_of_ok {stored : StorageItem} {after : Held Character} {result : PUnit}
    (h : collectStored registry lookups stored held = .ok result after) :
    Collected stored held after := by
  obtain ⟨uids, middle, hadd, hall⟩ := exists_of_collectStored h
  have hkeeps := keeps_addStored registry lookups.item 0 stored.items held
  rw [final_ok hadd] at hkeeps
  rw [collectStored_ok hadd hall] at h
  cases h
  exact ⟨congrArg (· + stored.carrots) hkeeps.carrots, hkeeps.gifts, hkeeps.purchases, hkeeps.storageItems⟩

/-- The storage items are the same even if the collection fails. -/
theorem collectStored_error_storageItems {stored : StorageItem} {left : Held Character}
    {failure : Failure} (h : collectStored registry lookups stored held = .error failure left) :
    left.data.storageItems = held.data.storageItems := by
  have hkeeps := keeps_addStored registry lookups.item 0 stored.items held
  rw [collectStored, bind_apply] at h
  cases hadd : addStored registry lookups.item 0 stored.items held with
  | error failure left =>
    rw [hadd] at h
    cases h
    rw [final_error hadd] at hkeeps
    exact hkeeps.storageItems
  | ok uids middle =>
    rw [hadd] at h
    dsimp only at h
    rw [bind_apply, get_apply] at h
    dsimp only at h
    rw [final_ok hadd] at hkeeps
    split at h
    · cases h
      exact hkeeps.storageItems
    · cases h

theorem removeStored_carrots {uid : Uid} {character removed : Character}
    (h : removeStored uid character = some removed) : removed.carrots = character.carrots := by
  rw [removeStored] at h
  split at h
  · cases h
    rfl
  · split at h
    · cases h
      rfl
    · cases h

/-! ## One takeout -/

variable (registry) in
/-- How an attempt can end. -/
inductive Ends (data : DataDirector) (input : Takeout) : EStateM.Result Failure DataDirector GiftReply → Prop
  | absent (hfind : characterStorage.find input.lookups.character input.caller data = none) :
      Ends data input (.error (.thrown "Value of the record is unavailable") data)
  | unlisted {before : Character}
      (hfind : characterStorage.find input.lookups.character input.caller data = some before)
      (hremove : removeStored input.storageItemUid before = none) : Ends data input (.ok .cancel data)
  | unavailable {before removed : Character}
      (hfind : characterStorage.find input.lookups.character input.caller data = some before)
      (hremove : removeStored input.storageItemUid before = some removed)
      (hcached : storageItemStorage.cached input.lookups.storageItem input.storageItemUid data = none) :
      Ends data input (.ok .cancel (characterStorage.write input.caller removed data))
  | broken {before removed : Character} {stored : StorageItem} {failure : Failure} {left : Held Character}
      (hfind : characterStorage.find input.lookups.character input.caller data = some before)
      (hremove : removeStored input.storageItemUid before = some removed)
      (hcached : storageItemStorage.cached input.lookups.storageItem input.storageItemUid data = some stored)
      (hcollect : collectStored registry input.lookups stored
        ⟨removed, characterStorage.write input.caller removed data⟩ = .error failure left) :
      Ends data input (.error failure (characterStorage.write input.caller left.value left.data))
  | collected {before removed : Character} {stored : StorageItem} {held : Held Character}
      (hfind : characterStorage.find input.lookups.character input.caller data = some before)
      (hremove : removeStored input.storageItemUid before = some removed)
      (hcached : storageItemStorage.cached input.lookups.storageItem input.storageItemUid data = some stored)
      (hcollect : collectStored registry input.lookups stored
        ⟨removed, characterStorage.write input.caller removed data⟩ = .ok ⟨⟩ held) :
      Ends data input (.ok .ok (storageItemStorage.erase input.storageItemUid
        (characterStorage.write input.caller held.value held.data)))

variable (data : DataDirector)

variable (registry) in
theorem takeout_ends (input : Takeout) :
    Ends registry data input (takeout registry input data) := by
  rw [takeout, handleGetItemFromStorage_apply]
  cases hfind : characterStorage.find input.lookups.character input.caller data with
  | none => exact .absent hfind
  | some before =>
  dsimp only
  cases hremove : removeStored input.storageItemUid before with
  | none => exact .unlisted hfind hremove
  | some removed =>
  dsimp only
  rw [afterRemoval_apply _ _ _ _ (find_eq_some.1 hfind).1]
  cases hcached : storageItemStorage.cached input.lookups.storageItem input.storageItemUid data with
  | none => exact .unavailable hfind hremove hcached
  | some stored =>
  dsimp only
  cases hcollect : collectStored registry input.lookups stored
      ⟨removed, characterStorage.write input.caller removed data⟩ with
  | error failure left => exact .broken hfind hremove hcached hcollect
  | ok result held => exact .collected hfind hremove hcached hcollect

variable (registry) in
/-- The record of a stored item is there before its contents are delivered, and not after. -/
theorem delivers_stored (uid : Uid) (data : DataDirector) (input : Takeout) :
    stored uid (takeoutStep registry data input) + (delivers registry uid data input).toNat ≤ stored uid data := by
  have hends := takeout_ends registry data input
  rw [takeoutStep, delivers, final, returned]
  generalize takeout registry input data = result at hends ⊢
  cases hends with
  | absent => exact Nat.le_refl _
  | unlisted => exact Nat.le_refl _
  | unavailable => exact Nat.le_refl _
  | broken hfind hremove hcached hcollect =>
    have hsame := collectStored_error_storageItems hcollect
    have hsame : stored uid _ = stored uid data := congrArg (fun items => (items uid).isSome.toNat) hsame
    exact hsame.le
  | @collected _ _ good held hfind hremove hcached hcollect =>
    have hsame : held.data.storageItems = data.storageItems := (collected_of_ok hcollect).storageItems
    have hrecord : data.storageItems input.storageItemUid = some good := records_of_cached hcached
    have hstores : (storageItemStorage.erase input.storageItemUid
        (characterStorage.write input.caller held.value held.data)).storageItems =
          update data.storageItems input.storageItemUid none :=
      congrArg (fun items : Table StorageItem => update items input.storageItemUid none) hsame
    by_cases huid : input.storageItemUid = uid
    · subst huid
      simp [stored, hstores, hrecord]
    · simp [stored, hstores, huid, update_of_ne (Ne.symm huid)]

/-- The addition of carrots is exact if the sum fits. -/
theorem toInt_add_iff (a b : Int32) :
    (a + b).toInt = a.toInt + b.toInt ↔ -2 ^ 31 ≤ a.toInt + b.toInt ∧ a.toInt + b.toInt < 2 ^ 31 := by
  rw [Int32.toInt_add]
  have hlow := Int.le_bmod (x := a.toInt + b.toInt) (m := 2 ^ 32) (by decide)
  have hhigh := Int.bmod_lt (x := a.toInt + b.toInt) (m := 2 ^ 32) (by decide)
  constructor
  · intro h
    rw [h] at hlow hhigh
    omega
  · rintro ⟨hle, hlt⟩
    exact Int.bmod_eq_of_le (by omega) (by omega)

theorem collectStored_of_addable {stored : StorageItem} (hid : held.data.Identified)
    (h : Addable registry lookups 0 held [] stored.items) :
    ∃ after, collectStored registry lookups stored held = .ok ⟨⟩ after := by
  obtain ⟨-, uids, after, hadd, hall⟩ := (addable_iff hid).1 h
  exact ⟨_, collectStored_ok hadd hall⟩

/-- A stored item that is collected is redeemed exactly if there is room for its carrots. -/
theorem redeemed_iff {uid : Uid} {stored : StorageItem} {before removed after : Character}
    (hremove : removeStored uid before = some removed) (hcarrots : after.carrots = removed.carrots + stored.carrots)
    (hgifts : after.gifts = removed.gifts) (hpurchases : after.purchases = removed.purchases) :
    Redeemed uid stored before after ↔ -2 ^ 31 ≤ before.carrots.toInt + stored.carrots.toInt ∧
      before.carrots.toInt + stored.carrots.toInt < 2 ^ 31 := by
  rw [removeStored_carrots hremove] at hcarrots
  rw [← toInt_add_iff, ← hcarrots]
  exact ⟨fun h => h.carrots, fun h => ⟨⟨removed, hremove, hgifts, hpurchases⟩, h⟩⟩

/-- An attempt is atomic exactly if its stored item is collectable. -/
theorem atomic_iff (input : Takeout) (hid : data.Identified) :
    Atomic registry data input ↔ Collectable registry data input := by
  have hends := takeout_ends registry data input
  constructor
  · rintro ⟨htakes, hredeemed⟩
    have havailable := (takesOut_iff hid).1 htakes
    refine ⟨havailable, fun before hbefore hlisted stored hstored => ?_⟩
    obtain ⟨removed, hremove⟩ := Option.isSome_iff_exists.1 hlisted
    obtain ⟨_, hstored', haddable⟩ := havailable before hbefore removed hremove
    cases hstored.symm.trans hstored'
    obtain ⟨held, hcollect⟩ := collectStored_of_addable (write_identified hid) haddable
    generalize hresult : takeout registry input data = result at hends
    cases hends with
    | absent hfind => cases hfind.symm.trans hbefore
    | unlisted hfind hunlisted =>
      cases hfind.symm.trans hbefore
      cases hunlisted.symm.trans hremove
    | unavailable hfind _ hcached => cases hcached.symm.trans hstored
    | broken hfind hremove' hcached hbroken =>
      cases hfind.symm.trans hbefore
      cases hremove'.symm.trans hremove
      cases hcached.symm.trans hstored
      cases hbroken.symm.trans hcollect
    | collected hfind hremove' hcached hcollect' =>
      cases hfind.symm.trans hbefore
      cases hremove'.symm.trans hremove
      cases hcached.symm.trans hstored
      cases hcollect'.symm.trans hcollect
      obtain ⟨_, hfirst, _, hsecond, _, hthird, h⟩ := hredeemed _ hresult
      cases hfirst.symm.trans (find_eq_some.1 hbefore).2.2
      cases hsecond.symm.trans (records_of_cached hstored)
      cases hthird.symm.trans (update_self ..)
      have hcollected := collected_of_ok hcollect
      exact (redeemed_iff hremove hcollected.carrots hcollected.gifts hcollected.purchases).1 h
  · rintro ⟨havailable, hroom⟩
    refine ⟨(takesOut_iff hid).2 havailable, fun after hok => ?_⟩
    rw [hok] at hends
    generalize hresult : EStateM.Result.ok GiftReply.ok after = result at hends
    cases hends with
    | collected hfind hremove hcached hcollect =>
      cases hresult
      have hcollected := collected_of_ok hcollect
      refine ⟨_, (find_eq_some.1 hfind).2.2, _, records_of_cached hcached, _,
        update_self .., ?_⟩
      refine (redeemed_iff hremove hcollected.carrots hcollected.gifts hcollected.purchases).2 ?_
      exact hroom _ hfind (Option.isSome_iff_exists.2 ⟨_, hremove⟩) _ hcached
    | _ => cases hresult

/-! ## All takeouts -/

theorem takeoutStep_identified (input : Takeout) (hid : data.Identified) :
    (takeoutStep registry data input).Identified :=
  @giftStep_identified registry (fun _ => none) data
    (input.caller, .getItemFromStorage input.storageItemUid input.lookups) hid

/-- A character whose stored item holds two saddles and carrots. -/
def storeroom : DataDirector where
  characters := fun uid => if uid = 2 then some { uid := 2, name := [66], carrots := 5, purchases := [41] } else none
  storageItems := fun uid => if uid = 41 then some { uid := 41, carrots := 10, items := [⟨7, 2, 0⟩] } else none

theorem storeroom_identified : storeroom.Identified := ⟨fun _ _ h => by cases h⟩

end Alicia.Possession
