import Alicia.Possession.Equipment
import Alicia.Possession.ItemSystem
import Mathlib.Data.List.Sort

/-!
# The shop

`BuyOwnItem` handles a list of orders while it holds the character.  An order is charged before what
it buys is created or looked up.  When the response is on its way, bought slot expansions are used
and bought equipment is worn, by the handlers of the commands that do this.
-/

namespace Alicia.Possession

open Transition Data Registry
open Chrono (TimePoint Seconds)
open DataDirector (characterStorage itemStorage horseStorage)

/-- The currency of a good. -/
inductive MoneyType where
  | carrots
  | cash
  deriving DecidableEq

/-- `Goods::Item`, one of the prices of a good. -/
structure GoodsItem where
  priceId : UInt32 := 0
  priceRange : UInt32 := 0
  goodsPrice : Int32 := 0

/-- `ShopList::Goods`.  The code calls the type identifier of the item `itemUid`. -/
structure Goods where
  setType : UInt32 := 0
  moneyType : MoneyType := .carrots
  itemUid : Tid := 0
  setPrice : UInt32 := 0
  bonusGameMoney : UInt32 := 0
  items : List GoodsItem := []

/-- The goods by their sequence numbers. -/
abbrev ShopList := UInt32 → Option Goods

structure ShopOrder where
  goodsSq : UInt32
  equipImmediately : Bool := false
  priceId : UInt16 := 0
  deriving DecidableEq

/-- The results that the handler gives. -/
inductive OrderStatus where
  | success
  | unknownError
  | outOfMoney
  | notAvailable
  deriving DecidableEq

structure OrderResult where
  order : ShopOrder
  result : OrderStatus
  deriving DecidableEq

/-- The item of a purchase, which expires at `expiresAt`. -/
structure PurchasedItem where
  uid : Uid
  tid : Tid
  count : UInt32
  expiresAt : TimePoint := .epoch
  deriving DecidableEq

structure Purchase where
  equipImmediately : Bool
  item : PurchasedItem
  deriving DecidableEq

/-- `BuildProtocolItem`. -/
def buildProtocolItem (item : Item) : PurchasedItem :=
  { uid := item.uid, tid := item.tid, count := item.count, expiresAt := expiresAt item }

/-- What an order adds to the response and to the lists that are handled after it. -/
structure OrderReport where
  result : OrderStatus
  purchase : Option Purchase := none
  newEquipment : Option Uid := none
  expandMountSlot : Option (UInt8 × Uid) := none
  deriving DecidableEq

/-- What the lookups and creations of an order find. -/
structure OrderLookups where
  ownedInventory : Uid → Bool := fun _ => true
  ownedEquipment : Uid → Bool := fun _ => true
  horse : Option Uid := none
  item : ItemLookups := {}
  bought : Bool := true

/-- The cost and the price range of a good for an order. -/
def orderCost (goods : Goods) (priceId : UInt16) : Except OrderStatus (Int32 × UInt32) :=
  if goods.setType = 0 then
    match goods.items.find? (·.priceId = priceId.toUInt32) with
    | none => .error .notAvailable
    | some price => .ok (price.goodsPrice, price.priceRange)
  else if goods.setType = 1 then .ok (goods.setPrice.toInt32, 1)
  else .error .unknownError

/-- The balance of a currency. -/
def balance : MoneyType → Character → Int32
  | .carrots, character => character.carrots
  | .cash, character => character.cash

/-- Replace the balance of a currency. -/
def setBalance (amount : Int32) : MoneyType → Held Character → Held Character
  | .carrots, held => { held with value := { held.value with carrots := amount } }
  | .cash, held => { held with value := { held.value with cash := amount } }

def debit (moneyType : MoneyType) (cost : Int32) (held : Held Character) : Held Character :=
  setBalance (balance moneyType held.value - cost) moneyType held

def refund (moneyType : MoneyType) (cost : Int32) (held : Held Character) : Held Character :=
  setBalance (balance moneyType held.value + cost) moneyType held

/-- A horse from the shop. -/
def shopHorse (template : ItemTemplate) (parts : MountPartSetInfo) (now : TimePoint) (uid : Uid) :
    Horse where
  uid := uid
  tid := template.tid
  dateOfBirth := now
  mountCondition := { stamina := 4000 }
  growthPoints := 0
  clazz := 1
  tendency := 1
  luckState := 4
  grade := (template.mountAbility.map MountAbility.grade).getD 0
  stats :=
    match template.mountAbility with
    | none => {}
    | some ability =>
      { agility := ability.agility, ambition := ability.ambition, courage := ability.courage,
        endurance := ability.endurance, rush := ability.rush }
  parts := ⟨parts.skinId, parts.faceId, parts.maneId, parts.tailId⟩
  appearance := ⟨parts.scale, parts.legLength, parts.legVolume, parts.bodyLength, parts.bodyVolume⟩
  emblemUid := parts.emblemId

/-- Append a horse to the horses, with its record. -/
def pushHorse (uid : Uid) (horse : Horse) (held : Held Character) : Held Character where
  value := { held.value with horses := held.value.horses ++ [uid] }
  data := horseStorage.write uid horse held.data

/-- The item of a template that is bought: time of a temporary one, and pieces of another one. -/
def boughtAmount (template : ItemTemplate) (priceRange : UInt32) : Amount :=
  if template.type = .temporary then .duration (Int64.ofNat (priceRange.toNat * 3600))
  else .count priceRange

/-- Buy a horse that is paid for, or give the money back. -/
def buyHorse (lookups : OrderLookups) (moneyType : MoneyType) (cost : Int32)
    (template : ItemTemplate) (parts : MountPartSetInfo) :
    Effect (Held Character) Failure OrderReport := do
  match horseStorage.fresh lookups.horse (← get).data with
  | none =>
    modify (refund moneyType cost)
    return { result := .unknownError }
  | some uid =>
    modify (pushHorse uid (shopHorse template parts lookups.item.now uid))
    return { result := .success, purchase := some ⟨false, ⟨uid, template.tid, 1, .epoch⟩⟩ }

/-- Buy an item that is paid for.  `owned` says whether the character had one. -/
def buyItem (lookups : OrderLookups) (order : ShopOrder) (template : ItemTemplate)
    (priceRange : UInt32) (owned : Bool) : Effect (Held Character) Failure OrderReport := do
  let uid ← addItem lookups.item template.tid (boughtAmount template priceRange)
  match itemStorage.find lookups.bought uid (← get).data with
  | none => throw (.thrown "Value of the record is unavailable")
  | some item =>
    return {
      result := .success
      purchase := some ⟨order.equipImmediately, buildProtocolItem item⟩
      newEquipment := if order.equipImmediately && !owned then some uid else none
      expandMountSlot := template.prerequisiteLevel.map (·, uid) }

/-- One order of the loop in `HandleBuyOwnItem`. -/
def buyOrder (registry : ItemRegistry) (shop : ShopList) (lookups : OrderLookups)
    (order : ShopOrder) : Effect (Held Character) Failure OrderReport := do
  match shop order.goodsSq with
  | none => return { result := .unknownError }
  | some goods =>
  match orderCost goods order.priceId with
  | .error status => return { result := status }
  | .ok (cost, priceRange) =>
  match registry goods.itemUid with
  | none => throw (.thrown "bad optional access")
  | some template =>
    let held ← get
    let owned := hasItem lookups.ownedInventory lookups.ownedEquipment template.tid held
    if balance goods.moneyType held.value < cost then
      return { result := .outOfMoney }
    modify (debit goods.moneyType cost)
    match template.mountPartSetInfo with
    | some parts => buyHorse lookups goods.moneyType cost template parts
    | none => buyItem lookups order template priceRange owned

/-- The loop over the orders. -/
def buyOrders (registry : ItemRegistry) (shop : ShopList) :
    List (ShopOrder × OrderLookups) → Effect (Held Character) Failure (List OrderReport)
  | [] => pure []
  | (order, lookups) :: rest => do
    let report ← buyOrder registry shop lookups order
    let reports ← buyOrders registry shop rest
    return report :: reports

/-- Which records are available to `HandleExpandMountSlot`. -/
structure SlotLookups where
  character : Bool := true
  item : Bool := true
  characterAgain : Bool := true

def handleExpandMountSlot (registry : ItemRegistry) (lookups : SlotLookups) (caller itemUid : Uid) :
    Effect DataDirector String Reply := do
  let character ← characterStorage.immutable lookups.character caller
  if !hasItemInstance character itemUid then
    return .cancel
  let item ← itemStorage.immutable lookups.item itemUid
  match (registry item.tid).bind ItemTemplate.prerequisiteLevel with
  | none => return .cancel
  | some prerequisiteLevel =>
    if prerequisiteLevel ≠ character.horseSlotCount then
      return .cancel
    characterStorage.mutable lookups.characterAgain caller fun character =>
      { character with horseSlotCount := character.horseSlotCount + 1 }
    return .ok

/-- What is done with purchases after the response. -/
inductive FollowUp where
  | expandMountSlot (itemUid : Uid)
  | wearEquipment (equipmentUid : Uid)
  deriving DecidableEq

structure FollowUpLookups where
  slot : SlotLookups := {}
  wear : EquipmentLookups := {}

def followUp (registry : ItemRegistry) (lookups : FollowUpLookups) (caller : Uid) :
    FollowUp → Effect DataDirector String Reply
  | .expandMountSlot uid => handleExpandMountSlot registry lookups.slot caller uid
  | .wearEquipment uid => handleWearEquipment registry lookups.wear caller uid

/-- The slot expansions in the order of their levels, and then the equipment. -/
def followUpsOf (reports : List OrderReport) : List FollowUp :=
  ((reports.filterMap OrderReport.expandMountSlot).insertionSort fun first second =>
    first.1 ≤ second.1).map (fun slot => .expandMountSlot slot.2) ++
    (reports.filterMap OrderReport.newEquipment).map .wearEquipment

/-- What is done with the purchases, the `n`-th with the lookups `lookups n`. -/
def handleFollowUps (registry : ItemRegistry) (lookups : Nat → FollowUpLookups) (caller : Uid) :
    Nat → List FollowUp → Effect DataDirector Failure PUnit
  | _, [] => pure ⟨⟩
  | n, next :: rest => do
    let reply ← (followUp registry (lookups n) caller next).adaptExcept .thrown
    if reply = .undefined then
      throw .undefined
    handleFollowUps registry lookups caller (n + 1) rest

structure BuyOwnItemOK where
  orderResults : List OrderResult
  purchases : List Purchase
  newCarrots : UInt32
  newCash : UInt32
  deriving DecidableEq

/-- A command of the character `caller`, with what its lookups find. -/
structure BuyOwnItem where
  caller : Uid
  orders : List (ShopOrder × OrderLookups)
  character : Bool := true
  followUps : Nat → FollowUpLookups := fun _ => {}

/-- The response, once the orders are handled. -/
def buyOwnItemOK (orders : List ShopOrder) (reports : List OrderReport) (character : Character) :
    BuyOwnItemOK where
  orderResults := (orders.zip reports).map fun entry => ⟨entry.1, entry.2.result⟩
  purchases := reports.filterMap OrderReport.purchase
  newCarrots := character.carrots.toUInt32
  newCash := character.cash.toUInt32

def handleBuyOwnItem (registry : ItemRegistry) (shop : ShopList) (command : BuyOwnItem) :
    Effect DataDirector Failure BuyOwnItemOK := do
  let (response, followUps) ←
    characterStorage.access (.thrown "Value of the record is unavailable") command.character
      command.caller do
        let reports ← buyOrders registry shop command.orders
        let held ← get
        return (buyOwnItemOK (command.orders.map Prod.fst) reports held.value, followUpsOf reports)
  handleFollowUps registry command.followUps command.caller 0 followUps
  return response

end Alicia.Possession
