import Alicia.Possession.Gifts
import Alicia.Possession.Purchases

/-!
# Gifts are delivered once

`Sends` and `TakesOut` say what the two commands are for: a gift is paid for and stored without
being added to the recipient, and a takeout adds the stored goods.  Every gift that passes the checks
of `SendGift` is added to the recipient at once, so only a run in which each one is turned away, or
has no effect, keeps to this.
-/

namespace Alicia.Possession

open Transition Effect Data Registry Function Storage DataDirector Keeps
open Chrono (TimePoint Seconds)
open DataDirector (characterStorage itemStorage storageItemStorage)

variable (registry : ItemRegistry) (shop : ShopList)

/-! ## What the commands are for -/

/-- Each stored good is received in full. -/
def Delivered (lookups : Nat → ItemLookups) : Nat → Held Character → List StoredGood → Prop
  | _, _, [] => True
  | n, held, good :: rest =>
    match registry good.tid with
    | none => False
    | some template =>
      match addItem (lookups n) good.tid (storedAmount template good) held with
      | .ok uid after =>
        uid ≠ invalidUid ∧
          (∃ item, Received (lookups n).now good.tid (storedAmount template good) held uid item
            after) ∧
          Delivered lookups (n + 1) after rest
      | .error _ _ => False

/-- The stored item is removed with its record, and its goods are received. -/
def TakenOut (lookups : StorageLookups) (caller uid : Uid) (data after : DataDirector) : Prop :=
  ∃ character removed stored held,
    data.characters caller = some character ∧ removeStored uid character = some removed ∧
      data.storageItems uid = some stored ∧
      Delivered registry lookups.item 0 ⟨removed, characterStorage.write caller removed data⟩
        stored.items ∧
      collectStored registry lookups stored ⟨removed, characterStorage.write caller removed data⟩ =
        .ok ⟨⟩ held ∧
      after = storageItemStorage.erase uid (characterStorage.write caller held.value held.data)

/-- A takeout takes the stored item out, or changes nothing. -/
def TakesOut (lookups : StorageLookups) (caller uid : Uid) (data : DataDirector) : Prop :=
  match handleGetItemFromStorage registry lookups caller uid data with
  | .ok .ok after => TakenOut registry lookups caller uid data after
  | .ok .cancel after => after = data
  | .error (.thrown _) after => after = data
  | .error _ _ => False

/-- The gift is paid for with its exact price and stored, and the recipient has no more than before. -/
structure Sent (caller : Uid) (command : SendGift) (gift : Gift) (data after : DataDirector) : Prop where
  sent : ∃ price range, offer gift.goods command.order.priceId = some (price, range) ∧
    (∃ before paid, data.characters caller = some before ∧ after.characters caller = some paid ∧
      (balance gift.goods.moneyType paid).toInt =
        (balance gift.goods.moneyType before).toInt - price ∧
      0 ≤ (balance gift.goods.moneyType paid).toInt) ∧
    ∃ uid stored good, data.storageItems uid = none ∧
      after.storageItems = update data.storageItems uid (some stored) ∧
      (after.characters gift.recipientUid).map Character.gifts =
        (data.characters gift.recipientUid).map (fun recipient => recipient.gifts ++ [uid]) ∧
      stored.items = [good] ∧ good.tid = gift.template.tid ∧
      storedAmount gift.template good = boughtAmount gift.template range
  items : after.items = data.items
  inventory : (after.characters gift.recipientUid).map Character.inventory =
    (data.characters gift.recipientUid).map Character.inventory

/-- A gift is sent, or nothing is changed. -/
def Sends (lookups : SendGiftLookups) (caller : Uid) (command : SendGift) (data : DataDirector) :
    Prop :=
  match handleSendGift registry shop lookups caller command data with
  | .ok .ok after =>
    ∃ gift, (checkGift registry shop lookups caller command).returned data = some (some gift) ∧
      Sent caller command gift data after
  | .ok .cancel after => after = data
  | .error (.thrown _) after => after = data
  | .error _ _ => False

/-- The commands do what they are for. -/
def Delivers (data : DataDirector) : GiftInput → Prop
  | (caller, .sendGift command lookups) => Sends registry shop lookups caller command data
  | (caller, .getItemFromStorage uid lookups) => TakesOut registry lookups caller uid data

/-! ## When they do it -/

/-- Every good can be added, and all the records are there at the end. -/
def Addable (lookups : StorageLookups) : Nat → Held Character → List Uid → List StoredGood → Prop
  | _, held, uids, [] => (itemStorage.cachedAll lookups.added held.data uids).isSome = true
  | n, held, uids, good :: rest =>
    ∃ template ∈ registry good.tid,
      ∃ result ∈ added (lookups.item n) good.tid (storedAmount template good) held,
        (result.1 ≠ invalidUid ∧ Grows (lookups.item n) good.tid (storedAmount template good) held) ∧
          Addable lookups (n + 1) result.2 (uids ++ [result.1]) rest

instance Addable.decidable (lookups : StorageLookups) :
    ∀ (n : Nat) (held : Held Character) (uids : List Uid) (goods : List StoredGood),
      Decidable (Addable registry lookups n held uids goods)
  | _, held, uids, [] =>
    inferInstanceAs (Decidable ((itemStorage.cachedAll lookups.added held.data uids).isSome = true))
  | n, held, uids, good :: rest =>
    have (result : Uid × Held Character) :
        Decidable (Addable registry lookups (n + 1) result.2 (uids ++ [result.1]) rest) :=
      Addable.decidable lookups (n + 1) result.2 (uids ++ [result.1]) rest
    inferInstanceAs (Decidable (∃ template ∈ registry good.tid,
      ∃ result ∈ added (lookups.item n) good.tid (storedAmount template good) held,
        (result.1 ≠ invalidUid ∧ Grows (lookups.item n) good.tid (storedAmount template good) held) ∧
          Addable registry lookups (n + 1) result.2 (uids ++ [result.1]) rest))

/-- A stored item that the character has is available, and its goods can be added. -/
def Available (lookups : StorageLookups) (caller uid : Uid) (data : DataDirector) : Prop :=
  ∀ character ∈ characterStorage.find lookups.character caller data,
    ∀ removed ∈ removeStored uid character,
      ∃ stored ∈ storageItemStorage.cached lookups.storageItem uid data,
        Addable registry lookups 0 ⟨removed, characterStorage.write caller removed data⟩ [] stored.items

instance (lookups : StorageLookups) (caller uid : Uid) (data : DataDirector) :
    Decidable (Available registry lookups caller uid data) :=
  @Option.decidableForallMem _ _ (fun _ => @Option.decidableForallMem _ _
    (fun _ => Option.decidableExistsMem _) _) _

/-- What a gift that is paid for would have to be without a breach: nothing that the recipient can
notice, or nothing at all if delivering it throws. -/
def Unnoticed (lookups : SendGiftLookups) (caller : Uid) (gift : Gift) (price : Int) (range : UInt32)
    (data paid : DataDirector) : Prop :=
  match characterStorage.find lookups.recipientAgain gift.recipientUid paid with
  | none => paid = data
  | some recipient =>
    match added lookups.item gift.template.tid (boughtAmount gift.template range)
        ⟨recipient, paid⟩ with
    | none => False
    | some (itemUid, held) =>
      match storageItemStorage.fresh lookups.storageItem held.data with
      | none => characterStorage.write gift.recipientUid held.value held.data = data
      | some _ =>
        ∃ item ∈ itemStorage.find lookups.bought itemUid held.data,
          (∃ sender ∈ data.characters caller, Affords gift.goods.moneyType price sender) ∧
            held.data.items = data.items ∧ held.value.inventory = recipient.inventory ∧
            item.tid = gift.template.tid ∧
            storedAmount gift.template (storedGood item) = boughtAmount gift.template range

/-- The records when a gift is paid for. -/
def paidData (caller : Uid) (gift : Gift) (price : Int) (sender : Character) (data : DataDirector) :
    DataDirector :=
  characterStorage.write caller
    (debit gift.goods.moneyType (Int32.ofInt price) ⟨sender, data⟩).value data

/-- The condition under which `SendGift` does what it is for: the gift is turned away before it is paid
for, or goes unnoticed. -/
def TurnedAway (lookups : SendGiftLookups) (caller : Uid) (command : SendGift)
    (data : DataDirector) : Prop :=
  ∀ gift, (checkGift registry shop lookups caller command).returned data = some (some gift) →
    ∀ sender ∈ characterStorage.find lookups.senderAgain caller data,
      ∀ price ∈ offer gift.goods command.order.priceId,
        Unnoticed lookups caller gift price.1 price.2 data (paidData caller gift price.1 sender data)

/-- The condition under which a command does what it is for. -/
def Harmless (data : DataDirector) : GiftInput → Prop
  | (caller, .sendGift command lookups) => TurnedAway registry shop lookups caller command data
  | (caller, .getItemFromStorage uid lookups) => Available registry lookups caller uid data

variable {registry shop}

/-! ## Takeouts -/

/-- The record of an added item is there, unless none was added. -/
theorem added_record {lookups : ItemLookups} {tid : Tid} {amount : Amount}
    {held after : Held Character} {uid : Uid} (h : added lookups tid amount held = some (uid, after))
    (hvalid : uid ≠ invalidUid) :
    ∃ item, itemStorage.find true uid after.data = some item := by
  rw [added] at h
  by_cases hfound : getItem lookups tid held = invalidUid
  · rw [if_pos hfound] at h
    obtain ⟨created, -, hresult⟩ := Option.map_eq_some_iff.1 h
    cases hresult
    exact ⟨_, find_eq_some.2 ⟨hvalid, rfl, update_self ..⟩⟩
  · rw [if_neg hfound] at h
    cases hcached : itemStorage.cached lookups.existing (getItem lookups tid held) held.data with
    | none =>
      rw [hcached] at h
      cases h
      exact absurd rfl hvalid
    | some before =>
      rw [hcached] at h
      cases h
      exact ⟨_, find_eq_some.2 ⟨hvalid, rfl, update_self ..⟩⟩

/-- An addition is received exactly if the item that grows has room. -/
theorem exists_received_iff {lookups : ItemLookups} {tid : Tid} {amount : Amount}
    {held after : Held Character} {uid : Uid} (hid : held.data.Identified)
    (hadded : added lookups tid amount held = some (uid, after)) (hvalid : uid ≠ invalidUid) :
    (∃ item, Received lookups.now tid amount held uid item after) ↔
      Grows lookups tid amount held := by
  obtain ⟨item, hfind⟩ := added_record hadded hvalid
  constructor
  · rintro ⟨other, hreceived⟩
    have hother : after.data.items uid = some other := by
      rw [hreceived.records]
      exact update_self ..
    cases hother.symm.trans (find_eq_some.1 hfind).2.2
    exact (received_iff hid hadded hfind).1 hreceived
  · intro hgrows
    exact ⟨item, (received_iff hid hadded hfind).2 hgrows⟩

/-- The goods of a stored item are delivered and their records are there exactly if each of them can
be added. -/
theorem addable_iff {lookups : StorageLookups} {goods : List StoredGood} {n : Nat}
    {held : Held Character} {before : List Uid} (hid : held.data.Identified) :
    Addable registry lookups n held before goods ↔
      Delivered registry lookups.item n held goods ∧
        ∃ uids after, addStored registry lookups.item n goods held = .ok uids after ∧
          (itemStorage.cachedAll lookups.added after.data (before ++ uids)).isSome = true := by
  induction goods generalizing n held before with
  | nil =>
    constructor
    · intro h
      refine ⟨trivial, [], held, rfl, ?_⟩
      rw [List.append_nil]
      exact h
    · rintro ⟨-, uids, after, hok, h⟩
      cases hok
      rw [List.append_nil] at h
      exact h
  | cons good rest ih =>
    rw [Addable, Delivered, addStored]
    cases htemplate : registry good.tid with
    | none => simp
    | some template =>
      dsimp only
      rw [bind_apply, addItem_apply]
      cases hadded : added (lookups.item n) good.tid (storedAmount template good) held with
      | none => simp [hadded]
      | some result =>
        obtain ⟨uid, after⟩ := result
        have hafter := added_identified hid hadded
        dsimp only
        rw [bind_apply]
        constructor
        · rintro ⟨_, htemplate', result, hresult, ⟨hvalid, hgrows⟩, hrest⟩
          cases htemplate'
          cases hadded.symm.trans hresult
          obtain ⟨hdelivered, uids, last, hok, hall⟩ := (ih hafter).1 hrest
          refine ⟨⟨hvalid, (exists_received_iff hid hadded hvalid).2 hgrows, hdelivered⟩,
            uid :: uids, last, ?_, ?_⟩
          · rw [hok]
            rfl
          · rw [List.append_assoc] at hall
            exact hall
        · rintro ⟨⟨hvalid, hreceived, hdelivered⟩, uids, last, hok, hall⟩
          refine ⟨template, rfl, (uid, after), hadded,
            ⟨hvalid, (exists_received_iff hid hadded hvalid).1 hreceived⟩, ?_⟩
          cases hrest : addStored registry lookups.item (n + 1) rest after with
          | error failure left =>
            rw [hrest] at hok
            cases hok
          | ok further final =>
            rw [hrest] at hok
            cases hok
            refine (ih hafter).2 ⟨hdelivered, further, last, hrest, ?_⟩
            rw [List.append_assoc]
            exact hall

theorem collectStored_ok {lookups : StorageLookups} {stored : StorageItem}
    {held after : Held Character} {uids : List Uid}
    (hadd : addStored registry lookups.item 0 stored.items held = .ok uids after)
    (hall : (itemStorage.cachedAll lookups.added after.data uids).isSome = true) :
    collectStored registry lookups stored held = .ok ⟨⟩ { after with
      value := { after.value with carrots := after.value.carrots + stored.carrots } } := by
  rw [collectStored, bind_apply, hadd]
  dsimp only
  rw [bind_apply, get_apply]
  dsimp only
  rw [if_neg (by simp [Option.isNone_iff_eq_none, ← Option.isSome_iff_ne_none, hall])]
  rfl

/-- A takeout that completes has added all goods, and their records were there. -/
theorem exists_of_collectStored {lookups : StorageLookups} {stored : StorageItem}
    {held after : Held Character} {result : PUnit}
    (h : collectStored registry lookups stored held = .ok result after) :
    ∃ uids middle, addStored registry lookups.item 0 stored.items held = .ok uids middle ∧
      (itemStorage.cachedAll lookups.added middle.data uids).isSome = true := by
  rw [collectStored, bind_apply] at h
  cases hadd : addStored registry lookups.item 0 stored.items held with
  | error failure left =>
    rw [hadd] at h
    cases h
  | ok uids middle =>
    rw [hadd] at h
    dsimp only at h
    rw [bind_apply, get_apply] at h
    dsimp only at h
    refine ⟨uids, middle, rfl, ?_⟩
    by_cases hall : (itemStorage.cachedAll lookups.added middle.data uids).isNone = true
    · rw [if_pos hall] at h
      cases h
    · exact Option.isSome_iff_ne_none.2 (by simpa using hall)

/-- Additions never throw an exception that can be caught. -/
theorem addStored_error {lookups : Nat → ItemLookups} {goods : List StoredGood} {n : Nat}
    {held left : Held Character} {failure : Failure}
    (h : addStored registry lookups n goods held = .error failure left) : failure = .terminated := by
  induction goods generalizing n held with
  | nil => cases h
  | cons good rest ih =>
    rw [addStored] at h
    cases htemplate : registry good.tid with
    | none =>
      rw [htemplate] at h
      exact ih h
    | some template =>
      rw [htemplate] at h
      dsimp only at h
      rw [bind_apply, addItem_apply] at h
      cases hadded : added (lookups n) good.tid (storedAmount template good) held with
      | none =>
        rw [hadded] at h
        cases h
        rfl
      | some result =>
        rw [hadded] at h
        dsimp only at h
        rw [bind_apply] at h
        cases hrest : addStored registry lookups (n + 1) rest result.2 with
        | ok uids after =>
          rw [hrest] at h
          cases h
        | error failure left =>
          rw [hrest] at h
          cases h
          exact ih hrest

theorem collectStored_error {lookups : StorageLookups} {stored : StorageItem}
    {held left : Held Character} {failure : Failure}
    (h : collectStored registry lookups stored held = .error failure left) :
    ∀ what, failure ≠ .thrown what := by
  intro what hthrown
  subst hthrown
  rw [collectStored, bind_apply] at h
  cases hadd : addStored registry lookups.item 0 stored.items held with
  | error failure left =>
    rw [hadd] at h
    cases h
    cases addStored_error hadd
  | ok uids middle =>
    rw [hadd] at h
    dsimp only at h
    rw [bind_apply, get_apply] at h
    dsimp only at h
    split at h <;> cases h

theorem removeStored_ne {uid : Uid} {character removed : Character}
    (h : removeStored uid character = some removed) : removed ≠ character := by
  intro hsame
  subst hsame
  rw [removeStored] at h
  split at h
  · next hgift =>
    have hgifts := congrArg Character.gifts (Option.some_inj.1 h)
    have hlength := congrArg List.length hgifts
    have hpos := List.length_pos_of_mem hgift
    dsimp only at hlength
    rw [List.length_erase_of_mem hgift] at hlength
    omega
  · split at h
    · next hpurchase =>
      have hpurchases := congrArg Character.purchases (Option.some_inj.1 h)
      have hlength := congrArg List.length hpurchases
      have hpos := List.length_pos_of_mem hpurchase
      dsimp only at hlength
      rw [List.length_erase_of_mem hpurchase] at hlength
      omega
    · cases h

/-- What the handler does after it has removed the stored item, or tried to. -/
def afterRemoval (registry : ItemRegistry) (lookups : StorageLookups) (caller uid : Uid)
    (removed : Bool) : Effect DataDirector Failure GiftReply := do
  match storageItemStorage.cached lookups.storageItem uid (← get) with
  | none => return .cancel
  | some stored =>
    if removed = false then
      return .cancel
    characterStorage.access (.thrown "Value of the record is unavailable") true caller
      (collectStored registry lookups stored)
    modify (storageItemStorage.erase uid)
    return .ok

theorem handleGetItemFromStorage_apply (lookups : StorageLookups) (caller uid : Uid)
    (data : DataDirector) : handleGetItemFromStorage registry lookups caller uid data =
      match characterStorage.find lookups.character caller data with
      | none => .error (.thrown "Value of the record is unavailable") data
      | some character =>
        match removeStored uid character with
        | none => .ok .cancel data
        | some removed =>
          afterRemoval registry lookups caller uid true
            (characterStorage.write caller removed data) := by
  rw [handleGetItemFromStorage, bind_apply, adaptExcept_apply,
    mutableGet_apply]
  cases hfind : characterStorage.find lookups.character caller data with
  | none => rfl
  | some character =>
    dsimp only
    cases hremoved : removeStored uid character with
    | some removed => rfl
    | none =>
      dsimp only
      rw [write_self (find_eq_some.1 hfind).2.2, bind_apply,
        get_apply]
      dsimp only
      cases storageItemStorage.cached lookups.storageItem uid data <;> rfl

theorem afterRemoval_apply (lookups : StorageLookups) (caller uid : Uid) (removed : Character)
    {data : DataDirector} (hcaller : caller ≠ invalidUid) :
    afterRemoval registry lookups caller uid true (characterStorage.write caller removed data) =
      match storageItemStorage.cached lookups.storageItem uid data with
      | none => .ok .cancel (characterStorage.write caller removed data)
      | some stored =>
        match collectStored registry lookups stored
            ⟨removed, characterStorage.write caller removed data⟩ with
        | .ok _ held => .ok .ok
            (storageItemStorage.erase uid (characterStorage.write caller held.value held.data))
        | .error failure left => .error failure
            (characterStorage.write caller left.value left.data) := by
  have hcached : storageItemStorage.cached lookups.storageItem uid
      (characterStorage.write caller removed data) =
        storageItemStorage.cached lookups.storageItem uid data := rfl
  rw [afterRemoval, bind_apply, get_apply]
  dsimp only
  rw [hcached]
  cases storageItemStorage.cached lookups.storageItem uid data with
  | none => rfl
  | some stored =>
    dsimp only
    rw [if_neg (by decide), bind_apply, Storage.access, find_write hcaller]
    dsimp only
    cases collectStored registry lookups stored
      ⟨removed, characterStorage.write caller removed data⟩ <;> rfl

theorem write_identified {caller : Uid} {character : Character} {data : DataDirector}
    (hid : data.Identified) : (characterStorage.write caller character data).Identified :=
  ⟨hid.items⟩

/-- A takeout does what it is for exactly if the stored item is available and its goods can be
added. -/
theorem takesOut_iff {lookups : StorageLookups} {caller uid : Uid} {data : DataDirector}
    (hid : data.Identified) :
    TakesOut registry lookups caller uid data ↔ Available registry lookups caller uid data := by
  rw [TakesOut, handleGetItemFromStorage_apply, Available]
  cases hfind : characterStorage.find lookups.character caller data with
  | none => simp
  | some character =>
  obtain ⟨hcaller, -, hcharacter⟩ := find_eq_some.1 hfind
  have hcharacter : data.characters caller = some character := hcharacter
  dsimp only
  cases hremove : removeStored uid character with
  | none => simp [hremove]
  | some removed =>
  dsimp only
  rw [afterRemoval_apply lookups caller uid removed hcaller]
  cases hcached : storageItemStorage.cached lookups.storageItem uid data with
  | none =>
    dsimp only
    constructor
    · intro hsame
      have hremoved : (characterStorage.write caller removed data).characters caller =
        some removed := update_self ..
      rw [hsame, hcharacter] at hremoved
      exact absurd (Option.some_inj.1 hremoved).symm (removeStored_ne hremove)
    · intro h
      obtain ⟨stored, hstored, -⟩ := h character rfl removed hremove
      cases hstored
  | some stored =>
    have haddable : Addable registry lookups 0
        ⟨removed, characterStorage.write caller removed data⟩ [] stored.items ↔ _ :=
      addable_iff (write_identified hid)
    have hright : (∀ other ∈ some character, ∀ changed ∈ removeStored uid other,
        ∃ stored' ∈ some stored, Addable registry lookups 0
          ⟨changed, characterStorage.write caller changed data⟩ [] stored'.items) ↔
        Addable registry lookups 0 ⟨removed, characterStorage.write caller removed data⟩ []
          stored.items := by
      simp [hremove]
    rw [hright, haddable]
    dsimp only
    cases hcollect : collectStored registry lookups stored
        ⟨removed, characterStorage.write caller removed data⟩ with
    | error failure left =>
      have hnot := collectStored_error hcollect
      dsimp only
      constructor
      · intro h
        cases failure with
        | thrown what => exact absurd rfl (hnot what)
        | terminated => cases h
        | undefined => cases h
      · rintro ⟨-, uids, after, hok, hall⟩
        rw [collectStored_ok hok hall] at hcollect
        cases hcollect
    | ok result held =>
      dsimp only
      constructor
      · rintro ⟨character', removed', stored', held', h1, h2, h3, hdelivered, hok, -⟩
        cases hcharacter.symm.trans h1
        cases hremove.symm.trans h2
        have hstored : data.storageItems uid = some stored := records_of_cached hcached
        cases hstored.symm.trans h3
        exact ⟨hdelivered, exists_of_collectStored hcollect⟩
      · rintro ⟨hdelivered, -⟩
        exact ⟨character, removed, stored, held, hcharacter, hremove,
          records_of_cached hcached, hdelivered, hcollect, rfl⟩

/-! ## Sending -/

/-- The checks of a gift change nothing. -/
theorem checkGift_final (lookups : SendGiftLookups) (caller : Uid) (command : SendGift) :
    Effect.Keeps Eq (checkGift registry shop lookups caller command) := by
  refine bind (keeps_immutable _ _) fun sender => ?_
  refine bind ?_ fun recipientUid => ?_
  · cases lookups.recipientUid with
    | none => exact throw _
    | some uid => exact pure _
  split
  · exact pure _
  split
  · exact pure _
  split
  · exact pure _
  split
  · exact pure _
  refine bind (keeps_immutable _ _) fun recipient => ?_
  refine bind get fun data => ?_
  split <;> exact pure _

theorem giftCost_of_some {goods : Goods} {priceId : UInt16} {price : Int} {range : UInt32}
    (h : offer goods priceId = some (price, range)) :
    ∃ cost : UInt32, giftCost goods priceId = (some cost, range) ∧
      cost.toInt32 = Int32.ofInt price := by
  rw [offer] at h
  rw [giftCost]
  by_cases hprices : goods.setType = 0
  · rw [if_pos hprices] at h ⊢
    obtain ⟨item, hitem, hresult⟩ := Option.map_eq_some_iff.1 h
    cases hresult
    rw [hitem]
    refine ⟨_, rfl, ?_⟩
    rw [Int32.ofInt_toInt]
    rfl
  · rw [if_neg hprices] at h ⊢
    by_cases hset : goods.setType = 1
    · rw [if_pos hset] at h ⊢
      cases h
      refine ⟨_, rfl, ?_⟩
      rw [Int32.ofInt_eq_ofNat, ← UInt32.toInt32_ofNat', UInt32.ofNat_toNat]
    · rw [if_neg hset] at h
      cases h

theorem giftCost_of_none {goods : Goods} {priceId : UInt16} (h : offer goods priceId = none) :
    (giftCost goods priceId).1 = none := by
  rw [offer] at h
  rw [giftCost]
  by_cases hprices : goods.setType = 0
  · rw [if_pos hprices] at h ⊢
    rw [Option.map_eq_none_iff.1 h]
  · rw [if_neg hprices] at h ⊢
    by_cases hset : goods.setType = 1
    · rw [if_pos hset] at h
      cases h
    · rw [if_neg hset]

/-- The deduction from an unsigned copy of the balance is the one of the signed balance. -/
theorem payGift_eq (moneyType : MoneyType) {cost : UInt32} {amount : Int32}
    (hcost : cost.toInt32 = amount) (held : Held Character) :
    payGift moneyType cost held.value = (debit moneyType amount held).value := by
  have hsub : ∀ funds : Int32, (funds.toUInt32 - cost).toInt32 = funds - amount := by
    intro funds
    subst hcost
    rfl
  cases moneyType with
  | carrots =>
    rw [payGift, hsub]
    rfl
  | cash =>
    rw [payGift, hsub]
    rfl

theorem deliverGift_apply (lookups : SendGiftLookups) (command : SendGift) (gift : Gift)
    (range : UInt32) (start : Held Character) :
    deliverGift lookups command gift range start =
      match added lookups.item gift.template.tid (boughtAmount gift.template range) start with
      | none => .error .terminated start
      | some (itemUid, held) =>
        match storageItemStorage.fresh lookups.storageItem held.data with
        | none => .error (.thrown "Value of the record is unavailable") held
        | some uid =>
          match itemStorage.find lookups.bought itemUid held.data with
          | none => .error (.thrown "Value of the record is unavailable")
              (writeStorageItem uid (giftStorageItem command gift gift.goods.bonusGameMoney
                lookups.item.now [] uid) held)
          | some item => .ok ⟨⟩
              (pushGift uid (writeStorageItem uid (giftStorageItem command gift
                gift.goods.bonusGameMoney lookups.item.now [storedGood item] uid) held)) := by
  rw [deliverGift, bind_apply, addItem_apply]
  cases added lookups.item gift.template.tid (boughtAmount gift.template range) start with
  | none => rfl
  | some result =>
    obtain ⟨itemUid, held⟩ := result
    dsimp only
    rw [bind_apply, get_apply]
    dsimp only
    cases storageItemStorage.fresh lookups.storageItem held.data with
    | none => rfl
    | some uid =>
      dsimp only
      cases itemStorage.find lookups.bought itemUid held.data <;> rfl

theorem handleSendGift_checked {lookups : SendGiftLookups} {caller : Uid} {command : SendGift}
    {data : DataDirector} {gift : Gift}
    (hcheck : checkGift registry shop lookups caller command data = .ok (some gift) data) :
    handleSendGift registry shop lookups caller command data =
      match characterStorage.find lookups.senderAgain caller data,
          offer gift.goods command.order.priceId with
      | some sender, some (price, range) =>
        match characterStorage.find lookups.recipientAgain gift.recipientUid
            (paidData caller gift price sender data) with
        | none => .error (.thrown "Value of the record is unavailable")
            (paidData caller gift price sender data)
        | some recipient =>
          match deliverGift lookups command gift range
              ⟨recipient, paidData caller gift price sender data⟩ with
          | .ok _ held => .ok .ok
              (characterStorage.write gift.recipientUid held.value held.data)
          | .error failure left => .error failure
              (characterStorage.write gift.recipientUid left.value left.data)
      | none, _ => .error (.thrown "Value of the record is unavailable") data
      | some _, none => .error (.thrown "bad optional access") data := by
  rw [handleSendGift, bind_apply, adaptExcept_apply, hcheck]
  dsimp only
  cases hoffer : offer gift.goods command.order.priceId with
  | none =>
    have hcost := giftCost_of_none hoffer
    generalize giftCost gift.goods command.order.priceId = costs at hcost
    obtain ⟨cost, range⟩ := costs
    cases hcost
    dsimp only
    rw [bind_apply, adaptExcept_apply, immutable_apply]
    cases characterStorage.find lookups.senderAgain caller data <;> rfl
  | some offered =>
    obtain ⟨price, range⟩ := offered
    obtain ⟨cost, hcost, hamount⟩ := giftCost_of_some hoffer
    rw [hcost]
    dsimp only
    rw [bind_apply, adaptExcept_apply, immutable_apply]
    cases hsender : characterStorage.find lookups.senderAgain caller data with
    | none => rfl
    | some sender =>
      obtain ⟨hcaller, -, hrecord⟩ := find_eq_some.1 hsender
      have hagain : characterStorage.find true caller data = some sender :=
        find_eq_some.2 ⟨hcaller, rfl, hrecord⟩
      dsimp only
      rw [bind_apply, adaptExcept_apply, mutable_apply, hagain]
      dsimp only
      rw [payGift_eq gift.goods.moneyType hamount ⟨sender, data⟩]
      rw [bind_apply, Storage.access, paidData]
      cases characterStorage.find lookups.recipientAgain gift.recipientUid
          (characterStorage.write caller
            (debit gift.goods.moneyType (Int32.ofInt price) ⟨sender, data⟩).value data) with
      | none => rfl
      | some recipient =>
        dsimp only
        cases deliverGift lookups command gift range ⟨recipient, characterStorage.write caller
          (debit gift.goods.moneyType (Int32.ofInt price) ⟨sender, data⟩).value data⟩ <;> rfl

theorem debit_value_inventory (moneyType : MoneyType) (amount : Int32) (held : Held Character) :
    (debit moneyType amount held).value.inventory = held.value.inventory := by
  cases moneyType <;> rfl

theorem debit_value_gifts (moneyType : MoneyType) (amount : Int32) (held : Held Character) :
    (debit moneyType amount held).value.gifts = held.value.gifts := by
  cases moneyType <;> rfl

section Paid

variable {lookups : SendGiftLookups} {caller : Uid} {command : SendGift} {data : DataDirector}
  {gift : Gift} {price : Int} {range : UInt32} {sender recipient : Character}
  {held : Held Character} {itemUid uid : Uid} {item : Item}

/-- The recipient has the lists that it had before the payment. -/
theorem recipient_lists (hsender : data.characters caller = some sender)
    (hrecipient : (paidData caller gift price sender data).characters gift.recipientUid =
      some recipient) :
    (data.characters gift.recipientUid).map Character.inventory = some recipient.inventory ∧
      (data.characters gift.recipientUid).map Character.gifts = some recipient.gifts := by
  have h : update data.characters caller
      (some (debit gift.goods.moneyType (Int32.ofInt price) ⟨sender, data⟩).value)
        gift.recipientUid = some recipient := hrecipient
  by_cases hself : gift.recipientUid = caller
  · rw [hself, update_self] at h
    cases h
    rw [hself, hsender, debit_value_inventory, debit_value_gifts]
    exact ⟨rfl, rfl⟩
  · rw [update_of_ne hself] at h
    rw [h]
    exact ⟨rfl, rfl⟩

/-- The records after a gift was stored. -/
def storedData (gift : Gift) (uid : Uid) (stored : StorageItem) (held : Held Character) :
    DataDirector :=
  characterStorage.write gift.recipientUid (pushGift uid (writeStorageItem uid stored held)).value
    (pushGift uid (writeStorageItem uid stored held)).data

/-- The sender has the balance that the debit left, also if the gift went to the sender. -/
theorem sender_balance
    (hrecipient : (paidData caller gift price sender data).characters gift.recipientUid =
      some recipient)
    (hadded : added lookups.item gift.template.tid (boughtAmount gift.template range)
      ⟨recipient, paidData caller gift price sender data⟩ = some (itemUid, held))
    (stored : StorageItem) :
    ((storedData gift uid stored held).characters caller).map (balance gift.goods.moneyType) =
      some (balance gift.goods.moneyType
        (debit gift.goods.moneyType (Int32.ofInt price) ⟨sender, data⟩).value) := by
  obtain ⟨hvalue, hdata⟩ := added_frame hadded
  have hcharacters := congrArg characters hdata
  show ((update held.data.characters gift.recipientUid _) caller).map _ = _
  have hpaid : (paidData caller gift price sender data).characters caller =
    some (debit gift.goods.moneyType (Int32.ofInt price) ⟨sender, data⟩).value :=
    update_self ..
  by_cases hself : caller = gift.recipientUid
  · rw [← hself] at hrecipient ⊢
    cases hpaid.symm.trans hrecipient
    rw [update_self]
    show some (balance gift.goods.moneyType { held.value with gifts := held.value.gifts ++ [uid] }) = _
    rw [hvalue]
    cases gift.goods.moneyType <;> rfl
  · rw [update_of_ne hself, hcharacters, hpaid]
    rfl

/-- The gift is sent exactly if the price was affordable, the recipient has no more than before, and the
gift that is stored is what was paid for. -/
theorem sent_iff (hsender : data.characters caller = some sender)
    (hoffer : offer gift.goods command.order.priceId = some (price, range))
    (hrecipient : (paidData caller gift price sender data).characters gift.recipientUid =
      some recipient)
    (hadded : added lookups.item gift.template.tid (boughtAmount gift.template range)
      ⟨recipient, paidData caller gift price sender data⟩ = some (itemUid, held))
    (hfresh : storageItemStorage.fresh lookups.storageItem held.data = some uid)
    {stored : StorageItem} (hstored : stored.items = [storedGood item]) :
    Sent caller command gift data (storedData gift uid stored held) ↔
      Affords gift.goods.moneyType price sender ∧ held.data.items = data.items ∧
        held.value.inventory = recipient.inventory ∧ item.tid = gift.template.tid ∧
        storedAmount gift.template (storedGood item) = boughtAmount gift.template range := by
  obtain ⟨hvalue, hdata⟩ := added_frame hadded
  have hcharacters := congrArg characters hdata
  have hstorage := congrArg storageItems hdata
  obtain ⟨hinventory, hgifts⟩ := recipient_lists hsender hrecipient
  have hstorage : held.data.storageItems = data.storageItems := hstorage
  have hnone : data.storageItems uid = none := by
    rw [← hstorage]
    exact (fresh_eq_some.1 hfresh).2.2
  have hitems : (storedData gift uid stored held).items = held.data.items := rfl
  have hstores : (storedData gift uid stored held).storageItems =
      update data.storageItems uid (some stored) := by
    rw [← hstorage]
    rfl
  have hafter : (storedData gift uid stored held).characters gift.recipientUid =
    some { held.value with gifts := held.value.gifts ++ [uid] } := update_self ..
  have hbalance : ((storedData gift uid stored held).characters caller).map
      (balance gift.goods.moneyType) = _ := sender_balance hrecipient hadded stored
  have hpaid : Paid gift.goods.moneyType price ⟨sender, data⟩
      (debit gift.goods.moneyType (Int32.ofInt price) ⟨sender, data⟩) ↔ _ := paid_iff
  constructor
  · rintro ⟨⟨price', range', hoffer', ⟨before, paid, hbefore, hpaidCaller, hexact, hnonneg⟩, uid',
      stored', good, hnone', hstores', -, hgood, htid, hamount⟩, hsame, hkept⟩
    cases hoffer.symm.trans hoffer'
    cases hsender.symm.trans hbefore
    rw [hpaidCaller] at hbalance
    have hbalance := Option.some_inj.1 hbalance
    rw [hbalance] at hexact hnonneg
    have huid : uid' = uid := by
      by_contra hne
      have h := congrFun (hstores.symm.trans hstores') uid'
      rw [update_of_ne hne, update_self, hnone'] at h
      cases h
    subst huid
    have hrecord := congrFun (hstores.symm.trans hstores') uid'
    rw [update_self, update_self] at hrecord
    cases hrecord
    rw [hstored] at hgood
    cases hgood
    rw [hafter, hinventory] at hkept
    refine ⟨(hpaid.1 ⟨hexact, hnonneg, ?_⟩).1, hitems.symm.trans hsame, Option.some_inj.1 hkept, htid,
      hamount⟩
    rw [debit, balance_setBalance]
  · rintro ⟨haffords, hsame, hkept, htid, hamount⟩
    obtain ⟨hexact, hnonneg, -⟩ := hpaid.2 ⟨haffords, rfl⟩
    obtain ⟨paid, hpaidCaller, hpaidBalance⟩ := Option.map_eq_some_iff.1 hbalance
    refine ⟨⟨price, range, hoffer, ⟨sender, paid, hsender, hpaidCaller, ?_, ?_⟩, uid, stored,
      storedGood item, hnone, hstores, ?_, hstored, htid, hamount⟩, hitems.trans hsame, ?_⟩
    · rw [hpaidBalance]
      exact hexact
    · rw [hpaidBalance]
      exact hnonneg
    · have hmap : (data.characters gift.recipientUid).map (fun other => other.gifts ++ [uid]) =
          ((data.characters gift.recipientUid).map Character.gifts).map (· ++ [uid]) := by
        rw [Option.map_map]
        rfl
      rw [hmap, hgifts, hafter, hvalue]
      rfl
    · rw [hafter, hinventory]
      exact congrArg some hkept

end Paid

/-- `SendGift` does what it is for exactly if the gift is turned away or goes unnoticed. -/
theorem sends_iff {lookups : SendGiftLookups} {caller : Uid} {command : SendGift}
    {data : DataDirector} :
    Sends registry shop lookups caller command data ↔
      TurnedAway registry shop lookups caller command data := by
  have hkept : data = (checkGift registry shop lookups caller command).final data :=
    checkGift_final lookups caller command data
  rw [final] at hkept
  cases hcheck : checkGift registry shop lookups caller command data with
  | error what after =>
    rw [hcheck] at hkept
    have hnone := returned_error hcheck
    have hsend : handleSendGift registry shop lookups caller command data =
        .error (.thrown what) after := by
      rw [handleSendGift, bind_apply, adaptExcept_apply, hcheck]
    rw [Sends, hsend, TurnedAway, hnone]
    simp [← hkept]
  | ok checked after =>
    rw [hcheck] at hkept
    dsimp only at hkept
    subst hkept
    have hreturned := returned_ok hcheck
    cases checked with
    | none =>
      have hsend : handleSendGift registry shop lookups caller command data =
          .ok .cancel data := by
        rw [handleSendGift, bind_apply, adaptExcept_apply, hcheck]
        rfl
      rw [Sends, hsend, TurnedAway, hreturned]
      simp
    | some gift =>
      rw [Sends, handleSendGift_checked hcheck, TurnedAway, hreturned]
      have hright : (∀ gift', some (some gift) = some (some gift') →
          ∀ sender ∈ characterStorage.find lookups.senderAgain caller data,
            ∀ price ∈ offer gift'.goods command.order.priceId,
              Unnoticed lookups caller gift' price.1 price.2 data
                (paidData caller gift' price.1 sender data)) ↔
          ∀ sender ∈ characterStorage.find lookups.senderAgain caller data,
            ∀ price ∈ offer gift.goods command.order.priceId,
              Unnoticed lookups caller gift price.1 price.2 data
                (paidData caller gift price.1 sender data) := by
        constructor
        · intro h
          exact h gift rfl
        · intro h gift' hgift
          cases hgift
          exact h
      rw [hright]
      cases hsender : characterStorage.find lookups.senderAgain caller data with
      | none => simp
      | some sender =>
      cases hoffer : offer gift.goods command.order.priceId with
      | none => simp
      | some offered =>
      obtain ⟨price, range⟩ := offered
      have hone : (∀ sender' ∈ some sender, ∀ price' ∈ some (price, range),
          Unnoticed lookups caller gift price'.1 price'.2 data
            (paidData caller gift price'.1 sender' data)) ↔
          Unnoticed lookups caller gift price range data
            (paidData caller gift price sender data) := by
        simp
      rw [hone, Unnoticed]
      dsimp only
      have hrecord : data.characters caller = some sender := (find_eq_some.1 hsender).2.2
      cases hrecipient : characterStorage.find lookups.recipientAgain gift.recipientUid
          (paidData caller gift price sender data) with
      | none => exact Iff.rfl
      | some recipient =>
      dsimp only
      rw [deliverGift_apply]
      cases hadded : added lookups.item gift.template.tid (boughtAmount gift.template range)
          ⟨recipient, paidData caller gift price sender data⟩ with
      | none => exact Iff.rfl
      | some result =>
      obtain ⟨itemUid, held⟩ := result
      dsimp only
      cases hfresh : storageItemStorage.fresh lookups.storageItem held.data with
      | none => exact Iff.rfl
      | some uid =>
      dsimp only
      cases hfind : itemStorage.find lookups.bought itemUid held.data with
      | none =>
        refine iff_of_false (fun hsame => ?_) (fun h => ?_)
        rotate_left
        · obtain ⟨item, hitem, -⟩ := h
          cases hitem
        -- The storage item without goods stays behind.
        have hstored := congrFun (congrArg storageItems hsame) uid
        have hnone : data.storageItems uid = none := by
          have h := (fresh_eq_some.1 hfresh).2.2
          rw [← h]
          have hstorage := congrArg storageItems (added_frame hadded).2
          exact congrFun hstorage.symm uid
        rw [hnone] at hstored
        have hwritten : some _ = (none : Option StorageItem) :=
          (update_self uid _ _).symm.trans hstored
        cases hwritten
      | some item =>
        have hsent : Sent caller command gift data (storedData gift uid
            (giftStorageItem command gift gift.goods.bonusGameMoney lookups.item.now
              [storedGood item] uid) held) ↔ _ :=
          sent_iff hrecord hoffer (find_eq_some.1 hrecipient).2.2 hadded hfresh rfl
        have hsender' : (∃ sender' ∈ data.characters caller,
            Affords gift.goods.moneyType price sender') ↔
              Affords gift.goods.moneyType price sender := by
          rw [hrecord]
          simp
        constructor
        · rintro ⟨gift', hgift, h⟩
          cases hgift
          obtain ⟨haffords, hrest⟩ := hsent.1 h
          exact ⟨item, rfl, hsender'.2 haffords, hrest⟩
        · rintro ⟨item', hitem, haffords, hrest⟩
          cases hitem
          exact ⟨gift, rfl, hsent.2 ⟨hsender'.1 haffords, hrest⟩⟩

/-! ## Runs -/

/-- Records that carry their own uids still do so. -/
def KeepsUids (data after : DataDirector) : Prop := data.Identified → after.Identified

instance : Std.Refl KeepsUids := ⟨fun _ h => h⟩

instance : IsTrans DataDirector KeepsUids := ⟨fun _ _ _ first second h => second (first h)⟩

theorem keepsUids_addItem (lookups : ItemLookups) (tid : Tid) (amount : Amount)
    (held : Held Character) : KeepsUids held.data ((addItem lookups tid amount).final held).data := by
  rw [final, addItem_apply]
  cases hadded : added lookups tid amount held with
  | none => exact fun hid => hid
  | some result =>
    intro hid
    exact added_identified hid hadded

theorem keepsUids_deliver (lookups : SendGiftLookups) (command : SendGift) (gift : Gift)
    (range : UInt32) (start : Held Character) :
    KeepsUids start.data ((deliverGift lookups command gift range).final start).data := by
  intro hid
  rw [final, deliverGift_apply]
  cases hadded : added lookups.item gift.template.tid (boughtAmount gift.template range) start with
  | none => exact hid
  | some result =>
    have hheld := added_identified hid hadded
    dsimp only
    cases storageItemStorage.fresh lookups.storageItem result.2.data with
    | none => exact hheld
    | some uid =>
      dsimp only
      cases itemStorage.find lookups.bought result.1 result.2.data with
      | none => exact ⟨hheld.items⟩
      | some item => exact ⟨hheld.items⟩

theorem keepsUids_collect (lookups : StorageLookups) (stored : StorageItem) (held : Held Character) :
    KeepsUids held.data ((collectStored registry lookups stored).final held).data := by
  -- The additions keep the uids, by induction on the goods.
  have hadd : ∀ (goods : List StoredGood) (n : Nat) (held : Held Character),
      KeepsUids held.data ((addStored registry lookups.item n goods).final held).data := by
    intro goods
    induction goods with
    | nil =>
      intro n held hid
      exact hid
    | cons good rest ih =>
      intro n held
      rw [addStored]
      cases registry good.tid with
      | none => exact ih (n + 1) held
      | some template =>
        dsimp only
        have hitem := keepsUids_addItem (lookups.item n) good.tid (storedAmount template good) held
        rw [final_bind]
        rw [final] at hitem
        cases hresult : addItem (lookups.item n) good.tid (storedAmount template good) held with
        | error failure left =>
          rw [hresult] at hitem
          exact hitem
        | ok uid after =>
          rw [hresult] at hitem
          dsimp only
          rw [final_bind_pure]
          exact fun hid => ih (n + 1) after (hitem hid)
  intro hid
  have hgoods := hadd stored.items 0 held hid
  rw [collectStored, final_bind]
  rw [final] at hgoods
  cases hresult : addStored registry lookups.item 0 stored.items held with
  | error failure left =>
    rw [hresult] at hgoods
    exact hgoods
  | ok uids after =>
    rw [hresult] at hgoods
    dsimp only
    rw [final_bind, get_apply]
    dsimp only
    split <;> exact hgoods

/-- Every command leaves the item records with their own uids. -/
theorem giftStep_identified (data : DataDirector) (input : GiftInput) (hid : data.Identified) :
    (giftStep registry shop data input).Identified := by
  obtain ⟨caller, command⟩ := input
  have hkeeps : Effect.Keeps KeepsUids (handleGift registry shop caller command) := by
    cases command with
    | sendGift command lookups =>
      refine bind (adaptExcept (fun data => ?_) _) fun checked => ?_
      · have h : data = (checkGift registry shop lookups caller command).final data :=
          checkGift_final lookups caller command data
        rw [← h]
        exact fun hid => hid
      cases checked with
      | none => exact pure _
      | some gift =>
        refine bind (adaptExcept (keeps_immutable _ _) _)
          fun sender => ?_
        split
        · exact throw _
        · refine bind (adaptExcept (keeps_mutable
            fun data value _ hid => write_identified hid) _) fun _ => ?_
          refine bind (keeps_access fun data value _ hid => ?_) fun _ =>
            pure _
          exact write_identified (keepsUids_deliver lookups command gift _ ⟨value, data⟩ hid)
    | getItemFromStorage uid lookups =>
      refine bind (adaptExcept (fun data => ?_) _) fun removed => ?_
      · rw [final, mutableGet_apply]
        cases characterStorage.find lookups.character caller data with
        | none => exact fun hid => hid
        | some character => exact fun hid => write_identified hid
      refine bind get fun data => ?_
      split
      · exact pure _
      split
      · exact pure _
      refine bind (keeps_access fun data value _ hid =>
        write_identified (keepsUids_collect lookups _ ⟨value, data⟩ hid)) fun _ => ?_
      exact bind (modify fun data hid => ⟨hid.items⟩) fun _ =>
        pure _
  exact hkeeps data hid

theorem delivers_iff (data : DataDirector) (input : GiftInput) (hid : data.Identified) :
    Delivers registry shop data input ↔ Harmless registry shop data input := by
  obtain ⟨caller, command⟩ := input
  cases command with
  | sendGift command lookups => exact sends_iff
  | getItemFromStorage uid lookups => exact takesOut_iff hid

/-! ## Each gift once -/

/-- Whether a storage item is there. -/
def stored (uid : Uid) (data : DataDirector) : Nat := (data.storageItems uid).isSome.toNat

variable (registry shop) in
/-- The input is a gift that is stored as the storage item. -/
def storesGift (uid : Uid) (data : DataDirector) (input : GiftInput) : Bool :=
  match input.2 with
  | .sendGift _ _ =>
    (handleGift registry shop input.1 input.2).returned data = some .ok &&
      (data.storageItems uid).isNone && ((giftStep registry shop data input).storageItems uid).isSome
  | .getItemFromStorage _ _ => false

variable (registry shop) in
/-- The input takes the storage item out. -/
def takesGift (uid : Uid) (data : DataDirector) (input : GiftInput) : Bool :=
  match input.2 with
  | .sendGift _ _ => false
  | .getItemFromStorage other _ =>
    (handleGift registry shop input.1 input.2).returned data = some .ok && other = uid

theorem collectStored_storageItems {lookups : StorageLookups} {good : StorageItem}
    {held after : Held Character} {result : PUnit}
    (h : collectStored registry lookups good held = .ok result after) :
    after.data.storageItems = held.data.storageItems := by
  have hadd : ∀ (goods : List StoredGood) (n : Nat) (held after : Held Character) (uids : List Uid),
      addStored registry lookups.item n goods held = .ok uids after →
        after.data.storageItems = held.data.storageItems := by
    intro goods
    induction goods with
    | nil =>
      intro n held after uids hok
      cases hok
      rfl
    | cons good rest ih =>
      intro n held after uids hok
      rw [addStored] at hok
      cases htemplate : registry good.tid with
      | none =>
        rw [htemplate] at hok
        exact ih _ _ _ _ hok
      | some template =>
        rw [htemplate] at hok
        obtain ⟨uid, middle, hitem, hok⟩ := bind_eq_ok.1 hok
        obtain ⟨others, last, hrest, hok⟩ := bind_eq_ok.1 hok
        cases hok
        rw [addItem_apply] at hitem
        cases hadded : added (lookups.item n) good.tid (storedAmount template good) held with
        | none =>
          rw [hadded] at hitem
          cases hitem
        | some result =>
          rw [hadded] at hitem
          cases hitem
          have hstorage := congrArg storageItems (added_frame hadded).2
          exact (ih _ _ _ _ hrest).trans hstorage
  obtain ⟨uids, middle, hok, hrest⟩ := bind_eq_ok.1 h
  rw [bind_apply, get_apply] at hrest
  dsimp only at hrest
  have hkept := hadd _ _ _ _ _ hok
  split at hrest
  · cases hrest
  · cases hrest
    exact hkept

/-- A command that does what it is for stores a gift, takes one out, or leaves the storage alone. -/
theorem stored_balance (uid : Uid) (data : DataDirector) (input : GiftInput)
    (h : Delivers registry shop data input) :
    stored uid (giftStep registry shop data input) + (takesGift registry shop uid data input).toNat =
      stored uid data + (storesGift registry shop uid data input).toNat := by
  obtain ⟨caller, command⟩ := input
  cases command with
  | sendGift command lookups =>
    have h : Sends registry shop lookups caller command data := h
    rw [Sends] at h
    cases hsend : handleSendGift registry shop lookups caller command data with
    | error failure after =>
      have hstep : giftStep registry shop data (caller, .sendGift command lookups) = after :=
        final_error hsend
      have hreply : (handleSendGift registry shop lookups caller command).returned data = none :=
        returned_error hsend
      rw [hsend] at h
      cases failure with
      | thrown what =>
        have hsame : after = data := h
        simp [storesGift, takesGift, handleGift, hreply, hstep, hsame]
      | terminated => cases h
      | undefined => cases h
    | ok reply after =>
      have hstep : giftStep registry shop data (caller, .sendGift command lookups) = after :=
        final_ok hsend
      have hreply : (handleSendGift registry shop lookups caller command).returned data =
        some reply := returned_ok hsend
      rw [hsend] at h
      cases reply with
      | cancel =>
        have hsame : after = data := h
        simp [storesGift, takesGift, handleGift, hreply, hstep, hsame]
      | ok =>
        obtain ⟨gift, -, hsent⟩ := h
        obtain ⟨price, range, -, -, new, item, good, hnone, hstores, -⟩ := hsent.sent
        have htaken : takesGift registry shop uid data (caller, .sendGift command lookups) =
          false := rfl
        rw [htaken, hstep]
        by_cases hnew : uid = new
        · subst hnew
          simp [stored, storesGift, handleGift, hreply, hstep, hstores, hnone]
        · have hkept : after.storageItems uid = data.storageItems uid := by
            rw [hstores, update_of_ne hnew]
          cases hrecord : data.storageItems uid <;>
            simp [stored, storesGift, handleGift, hreply, hstep, hkept, hrecord]
  | getItemFromStorage other lookups =>
    have h : TakesOut registry lookups caller other data := h
    rw [TakesOut] at h
    have hstored : storesGift registry shop uid data (caller, .getItemFromStorage other lookups) =
      false := rfl
    rw [hstored]
    cases htake : handleGetItemFromStorage registry lookups caller other data with
    | error failure after =>
      have hstep : giftStep registry shop data (caller, .getItemFromStorage other lookups) = after :=
        final_error htake
      have hreply : (handleGetItemFromStorage registry lookups caller other).returned data = none :=
        returned_error htake
      rw [htake] at h
      cases failure with
      | thrown what =>
        have hsame : after = data := h
        simp [takesGift, handleGift, hreply, hstep, hsame]
      | terminated => cases h
      | undefined => cases h
    | ok reply after =>
      have hstep : giftStep registry shop data (caller, .getItemFromStorage other lookups) = after :=
        final_ok htake
      have hreply : (handleGetItemFromStorage registry lookups caller other).returned data =
        some reply := returned_ok htake
      rw [htake] at h
      cases reply with
      | cancel =>
        have hsame : after = data := h
        simp [takesGift, handleGift, hreply, hstep, hsame]
      | ok =>
        obtain ⟨character, removed, item, held, -, -, hitem, -, hcollect, hafter⟩ := h
        have hkept : held.data.storageItems = data.storageItems :=
          collectStored_storageItems hcollect
        have hstores : after.storageItems = update data.storageItems other none := by
          rw [hafter, ← hkept]
          rfl
        rw [hstep]
        by_cases hother : other = uid
        · subst hother
          simp [stored, takesGift, handleGift, hreply, hstores, hitem]
        · have hsame : after.storageItems uid = data.storageItems uid := by
            rw [hstores, update_of_ne (Ne.symm hother)]
          simp [stored, takesGift, handleGift, hreply, hother, hsame]

variable (registry shop) in
/-- The commands of a run do what they are for exactly if each one is harmless, and then a gift that is
stored is taken out once or is still stored. -/
theorem gifts_delivered (data : DataDirector) (inputs : List GiftInput) (hid : data.Identified) :
    (Guarded (giftStep registry shop) (Delivers registry shop) data inputs ↔
        Guarded (giftStep registry shop) (Harmless registry shop) data inputs) ∧
      (Guarded (giftStep registry shop) (Delivers registry shop) data inputs → ∀ uid,
        stored uid (run (giftStep registry shop) data inputs) +
            occurrences (giftStep registry shop) (takesGift registry shop uid) data inputs =
          stored uid data +
            occurrences (giftStep registry shop) (storesGift registry shop uid) data inputs) := by
  refine ⟨guarded_congr (fun data input hid _ => giftStep_identified data input hid) delivers_iff hid, ?_⟩
  intro hdelivers uid
  exact hdelivers.balance (stored uid) (stored_balance uid)

/-- The gifts of another player, and a saddle that is stored. -/
def giftBox : DataDirector where
  characters := fun uid =>
    if uid = 1 then some { uid := 1, name := [65], carrots := 50 }
    else if uid = 2 then some { uid := 2, name := [66], gifts := [41] }
    else none
  storageItems := fun uid => if uid = 41 then some { uid := 41, items := [⟨7, 2, 0⟩] } else none

theorem giftBox_identified : giftBox.Identified := ⟨fun _ _ h => by cases h⟩

theorem turnedAway_of_check {lookups : SendGiftLookups} {caller : Uid} {command : SendGift}
    {data : DataDirector}
    (h : ((checkGift registry shop lookups caller command).returned data).map Option.isSome ≠
      some true) : TurnedAway registry shop lookups caller command data := by
  intro gift hgift
  rw [hgift] at h
  exact absurd rfl h

/-- A gift to oneself is refused, a stored gift is taken out, and the next gift of the same kind is
refused, because the recipient has one now. -/
theorem gifts_delivered_giftBox : Guarded (giftStep wares priceList) (Delivers wares priceList) giftBox
    [(1, .sendGift ⟨[65], [], ⟨1, false, 1⟩⟩ { recipientUid := some 1 }),
      (2, .getItemFromStorage 41 { item := fun _ => { created := some 11 } }),
      (1, .sendGift ⟨[66], [], ⟨1, false, 1⟩⟩ { recipientUid := some 2 })] :=
  (gifts_delivered wares priceList giftBox _ giftBox_identified).1.2
    ⟨turnedAway_of_check (by decide +kernel), (by decide +kernel : Available wares _ _ _ _),
      turnedAway_of_check (by decide +kernel), trivial⟩

/-- The inventory of a recipient is the same after a gift. -/
theorem inventory_of_sends {lookups : SendGiftLookups} {caller : Uid} {command : SendGift}
    {data : DataDirector} (h : Sends registry shop lookups caller command data)
    (hok : (handleSendGift registry shop lookups caller command).returned data = some .ok) :
    ((handleSendGift registry shop lookups caller command).final data).items = data.items := by
  rw [returned] at hok
  rw [final]
  rw [Sends] at h
  cases hsend : handleSendGift registry shop lookups caller command data with
  | error failure after =>
    rw [hsend] at hok
    cases hok
  | ok reply after =>
    rw [hsend] at h hok
    cases hok
    obtain ⟨gift, -, hsent⟩ := h
    exact hsent.items

/-- A gift that is answered with OK is in the inventory of the recipient before it is taken out. -/
theorem gift_arrives_at_once : ¬Guarded (giftStep wares priceList) (Delivers wares priceList) giftBox
    [(1, .sendGift ⟨[66], [], ⟨1, false, 1⟩⟩
      { recipientUid := some 2, item := { created := some 11 }, storageItem := some 42 })] := by
  rintro ⟨h, -⟩
  have hsends : Sends wares priceList
      { recipientUid := some 2, item := { created := some 11 }, storageItem := some 42 } 1
      ⟨[66], [], ⟨1, false, 1⟩⟩ giftBox := h
  have hsame := inventory_of_sends hsends (by decide +kernel)
  exact absurd (congrFun hsame 11) (by decide +kernel)

end Alicia.Possession
