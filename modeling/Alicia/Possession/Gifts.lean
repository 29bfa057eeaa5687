import Alicia.Possession.Shop

/-!
# Gifts

`SendGift` charges the sender, adds the item to the recipient, and stores a copy of the item among
the recipient's gifts.  `GetItemFromStorage` takes a stored item out and adds its goods.
-/

namespace Alicia.Possession

open Transition Data Registry
open Chrono (TimePoint Seconds)
open DataDirector (characterStorage itemStorage storageItemStorage)

/-- The replies to these commands. -/
inductive GiftReply where
  | ok
  | cancel
  deriving DecidableEq

structure SendGift where
  recipientCharacterName : Text
  message : Text := []
  order : ShopOrder
  deriving DecidableEq

/-- What the lookups and creations of a gift find.  `recipientUid` is the answer of
`RetrieveCharacterUidByName`, which makes a pattern of the name and may throw. -/
structure SendGiftLookups where
  sender : Bool := true
  recipientUid : Option Uid := none
  recipient : Bool := true
  ownedInventory : Uid → Bool := fun _ => true
  ownedEquipment : Uid → Bool := fun _ => true
  senderAgain : Bool := true
  recipientAgain : Bool := true
  item : ItemLookups := {}
  storageItem : Option Uid := none
  bought : Bool := true

/-- A gift that passed the checks of `SendGift`. -/
structure Gift where
  recipientUid : Uid
  senderName : Text
  goods : Goods
  template : ItemTemplate

/-- The checks of `HandleSendGift`, which end with a cancel if there is no gift. -/
def checkGift (registry : ItemRegistry) (shop : ShopList) (lookups : SendGiftLookups) (caller : Uid)
    (command : SendGift) : Effect DataDirector String (Option Gift) := do
  let sender ← characterStorage.immutable lookups.sender caller
  let recipientUid ← Effect.ofOption "regex error" lookups.recipientUid
  if command.recipientCharacterName = sender.name then
    return none
  match shop command.order.goodsSq with
  | none => return none
  | some goods =>
  if recipientUid = invalidUid then
    return none
  match registry goods.itemUid with
  | none => return none
  | some template =>
    let recipient ← characterStorage.immutable lookups.recipient recipientUid
    if hasItem lookups.ownedInventory lookups.ownedEquipment goods.itemUid ⟨recipient, ← get⟩ then
      return none
    return some ⟨recipientUid, sender.name, goods, template⟩

/-- The cost, which is absent when the goods have no such price, and the price range. -/
def giftCost (goods : Goods) (priceId : UInt16) : Option UInt32 × UInt32 :=
  if goods.setType = 0 then
    match goods.items.find? (·.priceId = priceId.toUInt32) with
    | none => (none, 0)
    | some price => (some price.goodsPrice.toUInt32, price.priceRange)
  else if goods.setType = 1 then (some goods.setPrice, 1)
  else (none, 0)

/-- Deduct the cost of a gift from a balance, which is signed. -/
def payGift (moneyType : MoneyType) (cost : UInt32) (character : Character) : Character :=
  match moneyType with
  | .carrots => { character with carrots := (character.carrots.toUInt32 - cost).toInt32 }
  | .cash => { character with cash := (character.cash.toUInt32 - cost).toInt32 }

/-- The storage item of a gift, of which `items` are stored. -/
def giftStorageItem (command : SendGift) (gift : Gift) (bonus : UInt32) (now : TimePoint)
    (items : List StoredGood) (uid : Uid) : StorageItem where
  uid := uid
  goodsSq := command.order.goodsSq
  priceId := command.order.priceId.toUInt32
  carrots := bonus.toInt32
  duration := 604800
  createdAt := now
  sender := gift.senderName
  message := command.message
  items := items

/-- The stored copy of an item. -/
def storedGood (item : Item) : StoredGood :=
  { tid := item.tid, count := item.count, duration := item.duration }

/-- Append a stored item to the gifts. -/
def pushGift (uid : Uid) (held : Held Character) : Held Character :=
  { held with value := { held.value with gifts := held.value.gifts ++ [uid] } }

/-- Replace the value of a storage item. -/
def writeStorageItem (uid : Uid) (stored : StorageItem) (held : Held Character) : Held Character :=
  { held with data := storageItemStorage.write uid stored held.data }

/-- Add the item of a gift to the recipient and store it as a gift. -/
def deliverGift (lookups : SendGiftLookups) (command : SendGift) (gift : Gift) (range : UInt32) :
    Effect (Held Character) Failure PUnit := do
  let itemUid ← addItem lookups.item gift.template.tid (boughtAmount gift.template range)
  let held ← get
  match storageItemStorage.fresh lookups.storageItem held.data with
  | none => throw (.thrown "Value of the record is unavailable")
  | some uid =>
    let stored := giftStorageItem command gift gift.goods.bonusGameMoney lookups.item.now
    match itemStorage.find lookups.bought itemUid held.data with
    | none =>
      modify (writeStorageItem uid (stored [] uid))
      throw (.thrown "Value of the record is unavailable")
    | some item =>
      modify (writeStorageItem uid (stored [storedGood item] uid))
      modify (pushGift uid)

def handleSendGift (registry : ItemRegistry) (shop : ShopList) (lookups : SendGiftLookups)
    (caller : Uid) (command : SendGift) : Effect DataDirector Failure GiftReply := do
  match ← (checkGift registry shop lookups caller command).adaptExcept .thrown with
  | none => return .cancel
  | some gift =>
    let (cost, range) := giftCost gift.goods command.order.priceId
    let _ ← (characterStorage.immutable lookups.senderAgain caller).adaptExcept .thrown
    match cost with
    | none => throw (.thrown "bad optional access")
    | some cost =>
      (characterStorage.mutable true caller
        (payGift gift.goods.moneyType cost)).adaptExcept .thrown
      characterStorage.access (.thrown "Value of the record is unavailable")
        lookups.recipientAgain gift.recipientUid (deliverGift lookups command gift range)
      return .ok

/-- What the lookups of a takeout find.  The `n`-th item is added with the lookups `item n`. -/
structure StorageLookups where
  character : Bool := true
  storageItem : Bool := true
  item : Nat → ItemLookups := fun _ => {}
  added : Uid → Bool := fun _ => true

/-- Remove a stored item from the gifts, or else from the purchases, if it is in one of them. -/
def removeStored (uid : Uid) (character : Character) : Option Character :=
  if uid ∈ character.gifts then some { character with gifts := character.gifts.erase uid }
  else if uid ∈ character.purchases then
    some { character with purchases := character.purchases.erase uid }
  else none

/-- What is added for a stored good. -/
def storedAmount (template : ItemTemplate) (good : StoredGood) : Amount :=
  if template.type = .temporary then .duration good.duration else .count good.count

/-- Add stored goods.  One that the registry does not know is skipped. -/
def addStored (registry : ItemRegistry) (lookups : Nat → ItemLookups) :
    Nat → List StoredGood → Effect (Held Character) Failure (List Uid)
  | _, [] => pure []
  | n, good :: rest => do
    match registry good.tid with
    | none => addStored registry lookups (n + 1) rest
    | some template =>
      let uid ← addItem (lookups n) good.tid (storedAmount template good)
      let uids ← addStored registry lookups (n + 1) rest
      return uid :: uids

/-- Add the goods and the carrots of a stored item.  The records of the goods are used unchecked. -/
def collectStored (registry : ItemRegistry) (lookups : StorageLookups) (stored : StorageItem) :
    Effect (Held Character) Failure PUnit := do
  let uids ← addStored registry lookups.item 0 stored.items
  let held ← get
  if (itemStorage.cachedAll lookups.added held.data uids).isNone then
    throw .undefined
  set ({ held with value := { held.value with carrots := held.value.carrots + stored.carrots } } :
    Held Character)

def handleGetItemFromStorage (registry : ItemRegistry) (lookups : StorageLookups)
    (caller storageItemUid : Uid) : Effect DataDirector Failure GiftReply := do
  let removed ← (characterStorage.mutableGet lookups.character caller fun character =>
    match removeStored storageItemUid character with
    | none => (false, character)
    | some removed => (true, removed)).adaptExcept .thrown
  match storageItemStorage.cached lookups.storageItem storageItemUid (← get) with
  | none => return .cancel
  | some stored =>
    if removed = false then
      return .cancel
    characterStorage.access (.thrown "Value of the record is unavailable") true caller
      (collectStored registry lookups stored)
    modify (storageItemStorage.erase storageItemUid)
    return .ok

/-- A command with what its lookups find. -/
inductive GiftCommand where
  | sendGift (command : SendGift) (lookups : SendGiftLookups)
  | getItemFromStorage (storageItemUid : Uid) (lookups : StorageLookups)

def handleGift (registry : ItemRegistry) (shop : ShopList) (caller : Uid) :
    GiftCommand → Effect DataDirector Failure GiftReply
  | .sendGift command lookups => handleSendGift registry shop lookups caller command
  | .getItemFromStorage uid lookups => handleGetItemFromStorage registry lookups caller uid

/-- A command of a character. -/
abbrev GiftInput := Uid × GiftCommand

def giftStep (registry : ItemRegistry) (shop : ShopList) (data : DataDirector) (input : GiftInput) :
    DataDirector :=
  (handleGift registry shop input.1 input.2).final data

end Alicia.Possession
