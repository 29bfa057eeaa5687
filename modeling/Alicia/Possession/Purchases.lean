import Alicia.Possession.Shop

/-!
# Purchases are transactions

`Settled` says what a list of orders is for: an order fails and changes nothing, or it is paid for
with the exact price, from a balance that does not become negative, and its purchase is received.

The loop keeps to this as long as the price fits the balance and the item or its record is there when
it is looked up after the debit.  Otherwise an order may throw when it is already paid for.
-/

namespace Alicia.Possession

open Transition Effect Data Registry Storage Effect Int32 Function Keeps
open Chrono (TimePoint Seconds)
open DataDirector (characterStorage itemStorage horseStorage)

variable (registry : ItemRegistry) (shop : ShopList)

/-! ## What orders are for -/

/-- The price and the price range of an order. -/
def offer (goods : Goods) (priceId : UInt16) : Option (Int × UInt32) :=
  if goods.setType = 0 then
    (goods.items.find? (·.priceId = priceId.toUInt32)).map fun price =>
      (price.goodsPrice.toInt, price.priceRange)
  else if goods.setType = 1 then some (goods.setPrice.toNat, 1)
  else none

/-- The price is taken from the balance of a currency, which is not negative then. -/
structure Paid (moneyType : MoneyType) (price : Int) (before after : Held Character) : Prop where
  exact : (balance moneyType after.value).toInt = (balance moneyType before.value).toInt - price
  nonneg : 0 ≤ (balance moneyType after.value).toInt
  others : after = setBalance (balance moneyType after.value) moneyType before

/-- The character has a new horse of a type, and nothing else has changed. -/
structure HorseReceived (tid : Tid) (before : Held Character) (uid : Uid) (after : Held Character) :
    Prop where
  fresh : before.data.horses uid = none
  horse : ∃ horse, horse.uid = uid ∧ horse.tid = tid ∧ after = pushHorse uid horse before

/-- What the order buys at a time is paid for and received, and the purchase names it. -/
inductive Bought (now : TimePoint) (order : ShopOrder) (before : Held Character)
    (purchase : Purchase) (after : Held Character) : Prop
  | horse {goods : Goods} {price : Int} {range : UInt32} {template : ItemTemplate}
      {paid : Held Character} (goods_eq : shop order.goodsSq = some goods)
      (price_eq : offer goods order.priceId = some (price, range))
      (template_eq : registry goods.itemUid = some template)
      (isHorse : template.mountPartSetInfo.isSome = true)
      (paid_for : Paid goods.moneyType price before paid)
      (received : HorseReceived template.tid paid purchase.item.uid after)
      (purchase_eq : purchase.item = ⟨purchase.item.uid, template.tid, 1, .epoch⟩)
  | item {goods : Goods} {price : Int} {range : UInt32} {template : ItemTemplate}
      {paid : Held Character} {uid : Uid} {item : Item} (goods_eq : shop order.goodsSq = some goods)
      (price_eq : offer goods order.priceId = some (price, range))
      (template_eq : registry goods.itemUid = some template)
      (isItem : template.mountPartSetInfo = none)
      (paid_for : Paid goods.moneyType price before paid)
      (received : Received now template.tid (boughtAmount template range) paid uid item after)
      (purchase_eq : purchase = ⟨order.equipImmediately, buildProtocolItem item⟩)

/-- The order fails and changes nothing, or succeeds and buys the purchase of its one entry. -/
def Handled (order : ShopOrder) (lookups : OrderLookups) (before : Held Character)
    (report : OrderReport) (after : Held Character) : Prop :=
  match report.result, report.purchase with
  | .success, some purchase => Bought registry shop lookups.item.now order before purchase after
  | .success, none => False
  | _, none => after = before
  | _, some _ => False

/-- The loop handles one order after the other. -/
def Settled : Held Character → List (ShopOrder × OrderLookups) → Prop
  | _, [] => True
  | held, (order, lookups) :: rest =>
    match buyOrder registry shop lookups order held with
    | .ok report after =>
      Handled registry shop order lookups held report after ∧ Settled after rest
    | .error _ _ => True

/-- The price of an order in a currency, if it was successful. -/
def priceIn (moneyType : MoneyType) (order : ShopOrder) (report : OrderReport) : Int :=
  match report.result, shop order.goodsSq with
  | .success, some goods =>
    if goods.moneyType = moneyType then ((offer goods order.priceId).map Prod.fst).getD 0 else 0
  | _, _ => 0

/-- The sum of the prices of the successful orders of a currency. -/
def spent (moneyType : MoneyType) (orders : List ShopOrder) (reports : List OrderReport) : Int :=
  (List.zipWith (priceIn shop moneyType) orders reports).sum

/-- The response tells what the loop did, and what followed it left the purchases and the balances
alone, which are lower than before by what was spent. -/
def Completed (command : BuyOwnItem) (data : DataDirector) (response : BuyOwnItemOK)
    (after : DataDirector) : Prop :=
  ∃ before reports held final,
    characterStorage.find command.character command.caller data = some before ∧
      buyOrders registry shop command.orders ⟨before, data⟩ = .ok reports held ∧
      response = buyOwnItemOK (command.orders.map Prod.fst) reports held.value ∧
      after.items = held.data.items ∧ after.horses = held.data.horses ∧
      after.characters command.caller = some final ∧
      ∀ moneyType, (balance moneyType final).toInt = (balance moneyType before).toInt -
        spent shop moneyType (command.orders.map Prod.fst) reports

/-- The command settles its orders, and completes, or throws and leaves the records as they were. -/
structure Transacts (command : BuyOwnItem) (data : DataDirector) : Prop where
  settled : ∀ before ∈ characterStorage.find command.character command.caller data,
    Settled registry shop ⟨before, data⟩ command.orders
  outcome :
    match handleBuyOwnItem registry shop command data with
    | .ok response after => Completed registry shop command data response after
    | .error (.thrown _) after => after = data
    | .error _ _ => False

/-! ## When they are settled -/

/-- The balance after the price is representable and not negative. -/
def Affords (moneyType : MoneyType) (price : Int) (character : Character) : Prop :=
  0 ≤ (balance moneyType character).toInt - price ∧
    (balance moneyType character).toInt - price < 2 ^ 31

instance (moneyType : MoneyType) (price : Int) (character : Character) :
    Decidable (Affords moneyType price character) := instDecidableAnd

/-- The item of an order can be added, and its record is there afterwards. -/
def Obtains (lookups : OrderLookups) (tid : Tid) (amount : Amount) (paid : Held Character) : Prop :=
  ∃ result ∈ added lookups.item tid amount paid,
    (itemStorage.find lookups.bought result.1 result.2.data).isSome = true ∧
      Grows lookups.item tid amount paid

instance (lookups : OrderLookups) (tid : Tid) (amount : Amount) (paid : Held Character) :
    Decidable (Obtains lookups tid amount paid) :=
  @Option.decidableExistsMem _ _ (fun _ => instDecidableAnd) _

/-- What a template that costs `price` needs to be bought. -/
def Buys (lookups : OrderLookups) (moneyType : MoneyType) (price : Int) (range : UInt32)
    (held : Held Character) (template : ItemTemplate) : Prop :=
  if template.mountPartSetInfo.isSome then
    (horseStorage.fresh lookups.horse held.data).isSome → Affords moneyType price held.value
  else
    Affords moneyType price held.value ∧
      Obtains lookups template.tid (boughtAmount template range)
        (debit moneyType (Int32.ofInt price) held)

instance (lookups : OrderLookups) (moneyType : MoneyType) (price : Int) (range : UInt32)
    (held : Held Character) (template : ItemTemplate) :
    Decidable (Buys lookups moneyType price range held template) :=
  inferInstanceAs (Decidable (if _ = true then (_ = true → Affords ..) else Affords .. ∧ Obtains ..))

/-- The registry knows the item of an offer, and if the balance is not below the cost it can be
bought. -/
def Sound (order : ShopOrder) (lookups : OrderLookups) (held : Held Character) : Prop :=
  ∀ goods ∈ shop order.goodsSq, ∀ price ∈ offer goods order.priceId,
    ∃ template ∈ registry goods.itemUid,
      ¬balance goods.moneyType held.value < Int32.ofInt price.1 →
        Buys lookups goods.moneyType price.1 price.2 held template

instance (order : ShopOrder) (lookups : OrderLookups) (held : Held Character) :
    Decidable (Sound registry shop order lookups held) :=
  @Option.decidableForallMem _ _ (fun _ =>
    @Option.decidableForallMem _ _ (fun _ => Option.decidableExistsMem _) _) _

/-- What an item whose record is not there after the debit leaves behind. -/
def unobtained (lookups : OrderLookups) (tid : Tid) (amount : Amount) (paid : Held Character) :
    Option (Held Character) :=
  ((added lookups.item tid amount paid).filter fun result =>
    (itemStorage.find lookups.bought result.1 result.2.data).isNone).map Prod.snd

/-- The state in which an order throws.  The item is not in the registry, or it is paid for and not
available then. -/
def abandoned (order : ShopOrder) (lookups : OrderLookups) (held : Held Character) :
    Option (Held Character) := do
  let goods ← shop order.goodsSq
  let price ← offer goods order.priceId
  match registry goods.itemUid with
  | none => some held
  | some template =>
    if balance goods.moneyType held.value < Int32.ofInt price.1 ||
      template.mountPartSetInfo.isSome then none
    else
      unobtained lookups template.tid (boughtAmount template price.2)
        (debit goods.moneyType (Int32.ofInt price.1) held)

/-- The handlers that follow do not throw, or nothing is different from the start then. -/
def FollowUpsSettle (command : BuyOwnItem) (data : DataDirector) (reports : List OrderReport)
    (held : Held Character) : Prop :=
  match handleFollowUps registry command.followUps command.caller 0 (followUpsOf reports)
      (characterStorage.write command.caller held.value held.data) with
  | .ok _ _ => True
  | .error (.thrown _) after => after = data
  | .error _ _ => False

/-- Each order in turn is sound, and so are the handlers that follow.  An order that is not may only
throw where nothing is different from the start. -/
def OrdersSettle (command : BuyOwnItem) (data : DataDirector) :
    List OrderReport → Held Character → List (ShopOrder × OrderLookups) → Prop
  | reports, held, [] => FollowUpsSettle registry command data reports held
  | reports, held, (order, lookups) :: rest =>
    if Sound registry shop order lookups held then
      OrdersSettle command data
        (reports ++ ((buyOrder registry shop lookups order).returned held).toList)
        ((buyOrder registry shop lookups order).final held) rest
    else
      ∃ left ∈ abandoned registry shop order lookups held,
        characterStorage.write command.caller left.value left.data = data

/-- The condition under which a command is a transaction. -/
def Settles (command : BuyOwnItem) (data : DataDirector) : Prop :=
  ∀ character ∈ characterStorage.find command.character command.caller data,
    OrdersSettle registry shop command data [] ⟨character, data⟩ command.orders

variable {registry shop}

/-! ## Money -/

@[simp] theorem balance_setBalance (amount : Int32) (moneyType : MoneyType)
    (held : Held Character) : balance moneyType (setBalance amount moneyType held).value = amount := by
  cases moneyType <;> rfl

@[simp] theorem setBalance_setBalance (first second : Int32) (moneyType : MoneyType)
    (held : Held Character) :
    setBalance second moneyType (setBalance first moneyType held) = setBalance second moneyType held := by
  cases moneyType <;> rfl

@[simp] theorem setBalance_balance (moneyType : MoneyType) (held : Held Character) :
    setBalance (balance moneyType held.value) moneyType held = held := by
  cases moneyType <;> rfl

@[simp] theorem setBalance_data (amount : Int32) (moneyType : MoneyType) (held : Held Character) :
    (setBalance amount moneyType held).data = held.data := by
  cases moneyType <;> rfl

variable {moneyType : MoneyType}

theorem balance_setBalance_of_ne {other : MoneyType} (hne : other ≠ moneyType) (amount : Int32)
    (held : Held Character) :
    balance other (setBalance amount moneyType held).value = balance other held.value := by
  cases moneyType <;> cases other <;> first | rfl | exact absurd rfl hne

@[simp] theorem debit_data (moneyType : MoneyType) (cost : Int32) (held : Held Character) :
    (debit moneyType cost held).data = held.data := setBalance_data ..

/-- A refund gives back what was taken. -/
theorem refund_debit (moneyType : MoneyType) (cost : Int32) (held : Held Character) :
    refund moneyType cost (debit moneyType cost held) = held := by
  rw [refund, debit, balance_setBalance, setBalance_setBalance]
  rw [Int32.sub_add_cancel, setBalance_balance]

/-- The price is paid exactly if the debit is affordable. -/
theorem paid_iff {price : Int} {held paid : Held Character} :
    Paid moneyType price held paid ↔
      Affords moneyType price held.value ∧ paid = debit moneyType (ofInt price) held := by
  have hlt := (balance moneyType held.value).toInt_lt
  have hle := (balance moneyType held.value).le_toInt
  have hsub : (balance moneyType held.value - ofInt price).toInt =
      ((balance moneyType held.value).toInt - price).bmod (2 ^ 32) := by
    rw [toInt_sub, toInt_ofInt, Int.sub_bmod_bmod]
    rfl
  constructor
  · rintro ⟨hexact, hnonneg, hothers⟩
    have hbound := (balance moneyType paid.value).toInt_lt
    refine ⟨⟨by omega, by omega⟩, ?_⟩
    rw [hothers, debit]
    congr 1
    apply toInt_inj.1
    rw [hsub, hexact]
    exact (Int.bmod_eq_of_le (by omega) (by omega)).symm
  · rintro ⟨⟨hnonneg, hbound⟩, rfl⟩
    have hexact : (balance moneyType (debit moneyType (ofInt price) held).value).toInt =
        (balance moneyType held.value).toInt - price := by
      rw [debit, balance_setBalance, hsub]
      exact Int.bmod_eq_of_le (by omega) (by omega)
    refine ⟨hexact, by omega, ?_⟩
    rw [debit, balance_setBalance]

theorem orderCost_of_some {goods : Goods} {priceId : UInt16} {price : Int} {range : UInt32}
    (h : offer goods priceId = some (price, range)) :
    orderCost goods priceId = .ok (ofInt price, range) := by
  rw [offer] at h
  rw [orderCost]
  by_cases hprices : goods.setType = 0
  · rw [if_pos hprices] at h ⊢
    obtain ⟨item, hitem, hresult⟩ := Option.map_eq_some_iff.1 h
    cases hresult
    rw [hitem, ofInt_toInt]
  · rw [if_neg hprices] at h ⊢
    by_cases hset : goods.setType = 1
    · rw [if_pos hset] at h ⊢
      cases h
      have hcost : ofInt goods.setPrice.toNat = goods.setPrice.toInt32 := by
        rw [ofInt_eq_ofNat, ← UInt32.toInt32_ofNat', UInt32.ofNat_toNat]
      rw [hcost]
    · rw [if_neg hset] at h
      cases h

theorem orderCost_of_none {goods : Goods} {priceId : UInt16} (h : offer goods priceId = none) :
    ∃ status, orderCost goods priceId = .error status ∧ status ≠ .success := by
  rw [offer] at h
  rw [orderCost]
  by_cases hprices : goods.setType = 0
  · rw [if_pos hprices] at h ⊢
    rw [Option.map_eq_none_iff.1 h]
    exact ⟨.notAvailable, rfl, by decide⟩
  · rw [if_neg hprices] at h ⊢
    by_cases hset : goods.setType = 1
    · rw [if_pos hset] at h
      cases h
    · rw [if_neg hset]
      exact ⟨.unknownError, rfl, by decide⟩

/-! ## One order -/

variable (registry shop) in
/-- How the handling of an order ends. -/
inductive Ending (order : ShopOrder) (lookups : OrderLookups) (held : Held Character) : Prop
  | handled {report : OrderReport} {after : Held Character}
      (sound : Sound registry shop order lookups held)
      (ok : buyOrder registry shop lookups order held = .ok report after)
      (handled : Handled registry shop order lookups held report after)
      (identified : after.data.Identified)
  | mishandled {report : OrderReport} {after : Held Character}
      (unsound : ¬Sound registry shop order lookups held)
      (kept : abandoned registry shop order lookups held = none)
      (ok : buyOrder registry shop lookups order held = .ok report after)
      (mishandled : ¬Handled registry shop order lookups held report after)
  | thrown {what : String} {left : Held Character}
      (unsound : ¬Sound registry shop order lookups held)
      (left_eq : abandoned registry shop order lookups held = some left)
      (error : buyOrder registry shop lookups order held = .error (.thrown what) left)
  | terminated {left : Held Character}
      (unsound : ¬Sound registry shop order lookups held)
      (kept : abandoned registry shop order lookups held = none)
      (error : buyOrder registry shop lookups order held = .error .terminated left)

theorem handled_failed {order : ShopOrder} {lookups : OrderLookups} {held : Held Character}
    {status : OrderStatus} (h : status ≠ .success) :
    Handled registry shop order lookups held { result := status } held := by
  cases status with
  | success => exact absurd rfl h
  | unknownError => rfl
  | outOfMoney => rfl
  | notAvailable => rfl

theorem buyHorse_apply (lookups : OrderLookups) (moneyType : MoneyType) (cost : Int32)
    (template : ItemTemplate) (parts : MountPartSetInfo) (paid : Held Character) :
    buyHorse lookups moneyType cost template parts paid =
      match horseStorage.fresh lookups.horse paid.data with
      | none => .ok { result := .unknownError } (refund moneyType cost paid)
      | some uid => .ok { result := .success, purchase := some ⟨false, ⟨uid, template.tid, 1, .epoch⟩⟩ }
          (pushHorse uid (shopHorse template parts lookups.item.now uid) paid) := by
  rw [buyHorse, bind_apply, get_apply]
  dsimp only
  cases horseStorage.fresh lookups.horse paid.data <;> rfl

theorem buyItem_apply (lookups : OrderLookups) (order : ShopOrder) (template : ItemTemplate)
    (range : UInt32) (owned : Bool) (paid : Held Character) :
    buyItem lookups order template range owned paid =
      match added lookups.item template.tid (boughtAmount template range) paid with
      | none => .error .terminated paid
      | some (uid, left) =>
        match itemStorage.find lookups.bought uid left.data with
        | none => .error (.thrown "Value of the record is unavailable") left
        | some item => .ok
            { result := .success
              purchase := some ⟨order.equipImmediately, buildProtocolItem item⟩
              newEquipment := if order.equipImmediately && !owned then some uid else none
              expandMountSlot := template.prerequisiteLevel.map (·, uid) } left := by
  rw [buyItem, bind_apply, addItem_apply]
  cases added lookups.item template.tid (boughtAmount template range) paid with
  | none => rfl
  | some result =>
    dsimp only
    rw [bind_apply, get_apply]
    dsimp only
    cases itemStorage.find lookups.bought result.1 result.2.data <;> rfl

variable {after : Held Character}

/-- What was bought was affordable. -/
theorem Bought.affords {now : TimePoint} {order : ShopOrder} {held : Held Character}
    {purchase : Purchase} {goods : Goods} {price : Int} {range : UInt32}
    (h : Bought registry shop now order held purchase after)
    (hgoods : shop order.goodsSq = some goods)
    (hoffer : offer goods order.priceId = some (price, range)) :
    Affords goods.moneyType price held.value := by
  cases h with
  | horse goods_eq price_eq template_eq isHorse paid_for received purchase_eq =>
    cases goods_eq.symm.trans hgoods
    cases price_eq.symm.trans hoffer
    exact (paid_iff.1 paid_for).1
  | item goods_eq price_eq template_eq isItem paid_for received purchase_eq =>
    cases goods_eq.symm.trans hgoods
    cases price_eq.symm.trans hoffer
    exact (paid_iff.1 paid_for).1

/-- The purchase tells which item was received. -/
theorem Bought.received {now : TimePoint} {order : ShopOrder} {held : Held Character}
    {goods : Goods} {price : Int} {range : UInt32} {template : ItemTemplate} {available : Bool}
    {uid : Uid} {item : Item}
    (h : Bought registry shop now order held ⟨order.equipImmediately, buildProtocolItem item⟩ after)
    (hgoods : shop order.goodsSq = some goods)
    (hoffer : offer goods order.priceId = some (price, range))
    (htemplate : registry goods.itemUid = some template) (hparts : template.mountPartSetInfo = none)
    (hid : after.data.Identified) (hfind : itemStorage.find available uid after.data = some item) :
    Received now template.tid (boughtAmount template range)
      (debit goods.moneyType (ofInt price) held) uid item after := by
  cases h with
  | horse goods_eq price_eq template_eq isHorse paid_for received purchase_eq =>
    cases goods_eq.symm.trans hgoods
    cases template_eq.symm.trans htemplate
    rw [hparts] at isHorse
    cases isHorse
  | @item _ _ _ _ paid other received_item goods_eq price_eq template_eq isItem paid_for received
      purchase_eq =>
      cases goods_eq.symm.trans hgoods
      cases price_eq.symm.trans hoffer
      cases template_eq.symm.trans htemplate
      obtain ⟨-, rfl⟩ := paid_iff.1 paid_for
      have huid : item.uid = uid := hid.items uid item (find_eq_some.1 hfind).2.2
      have hreceived : after.data.items other = some received_item := by
        rw [received.records]
        exact update_self ..
      have hother : received_item.uid = other := hid.items other received_item hreceived
      have hsame : item.uid = received_item.uid :=
        congrArg (fun purchase => purchase.item.uid) purchase_eq
      have hkey : other = uid := hother.symm.trans (hsame.symm.trans huid)
      subst hkey
      have hitem : some received_item = some item :=
        hreceived.symm.trans (find_eq_some.1 hfind).2.2
      cases hitem
      exact received

section Affordable

variable {order : ShopOrder} {lookups : OrderLookups} {held : Held Character} {goods : Goods}
  {price : Int} {range : UInt32} {template : ItemTemplate}
  (hgoods : shop order.goodsSq = some goods)
  (hoffer : offer goods order.priceId = some (price, range))
  (htemplate : registry goods.itemUid = some template)

include hgoods hoffer htemplate

theorem sound_iff : Sound registry shop order lookups held ↔
    (¬balance goods.moneyType held.value < ofInt price →
      Buys lookups goods.moneyType price range held template) := by
  simp [Sound, hgoods, hoffer, htemplate]

theorem abandoned_eq : abandoned registry shop order lookups held =
    if balance goods.moneyType held.value < ofInt price ||
      template.mountPartSetInfo.isSome then none
    else unobtained lookups template.tid (boughtAmount template range)
      (debit goods.moneyType (ofInt price) held) := by
  simp [abandoned, hgoods, hoffer, htemplate]

theorem buyOrder_affordable (hcost : ¬balance goods.moneyType held.value < ofInt price) :
    buyOrder registry shop lookups order held =
      (match template.mountPartSetInfo with
        | some parts => buyHorse lookups goods.moneyType (ofInt price) template parts
        | none => buyItem lookups order template range
            (hasItem lookups.ownedInventory lookups.ownedEquipment template.tid held))
        (debit goods.moneyType (ofInt price) held) := by
  simp only [buyOrder, hgoods, orderCost_of_some hoffer, htemplate]
  rw [bind_apply, get_apply]
  dsimp only
  rw [if_neg hcost, bind_apply]
  cases template.mountPartSetInfo <;> rfl

/-- What the horse of an affordable order ends in. -/
theorem horse_ending (hid : held.data.Identified) {parts : MountPartSetInfo}
    (hparts : template.mountPartSetInfo = some parts)
    (hcost : ¬balance goods.moneyType held.value < ofInt price) :
    Ending registry shop order lookups held := by
  have hbuy : buyOrder registry shop lookups order held = _ :=
    buyOrder_affordable hgoods hoffer htemplate hcost
  rw [hparts] at hbuy
  have hsound : Sound registry shop order lookups held ↔ _ := sound_iff hgoods hoffer htemplate
  have habandoned : abandoned registry shop order lookups held = _ :=
    abandoned_eq hgoods hoffer htemplate
  rw [hparts] at habandoned
  simp only [Option.isSome_some, Bool.or_true, if_true] at habandoned
  have hbuys : Buys lookups goods.moneyType price range held template ↔
      ((horseStorage.fresh lookups.horse held.data).isSome →
        Affords goods.moneyType price held.value) := by
    rw [Buys, hparts]
    exact Iff.rfl
  have hhorse := buyHorse_apply lookups goods.moneyType (ofInt price) template parts
    (debit goods.moneyType (ofInt price) held)
  rw [debit_data] at hhorse
  cases hfresh : horseStorage.fresh lookups.horse held.data with
  | none =>
    rw [hfresh, refund_debit] at hhorse
    refine .handled (hsound.2 fun _ => hbuys.2 fun h => ?_) (hbuy.trans hhorse)
      (handled_failed (by decide)) hid
    rw [hfresh] at h
    cases h
  | some uid =>
    rw [hfresh] at hhorse
    by_cases haffords : Affords goods.moneyType price held.value
    · refine .handled (hsound.2 fun _ => hbuys.2 fun _ => haffords) (hbuy.trans hhorse)
        (Bought.horse hgoods hoffer htemplate (hparts ▸ rfl) (paid_iff.2 ⟨haffords, rfl⟩)
          ⟨?_, _, rfl, rfl, rfl⟩ rfl) ⟨fun key item hitem => hid.items key item ?_⟩
      · rw [debit_data]
        exact (fresh_eq_some.1 hfresh).2.2
      · rw [← debit_data goods.moneyType (ofInt price) held]
        exact hitem
    · refine .mishandled (fun h => haffords ?_) habandoned (hbuy.trans hhorse) fun hbought => ?_
      · exact hbuys.1 (hsound.1 h hcost) (hfresh ▸ rfl)
      · exact haffords (hbought.affords hgoods hoffer)

/-- What another item of an affordable order ends in. -/
theorem item_ending (hid : held.data.Identified) (hparts : template.mountPartSetInfo = none)
    (hcost : ¬balance goods.moneyType held.value < ofInt price) :
    Ending registry shop order lookups held := by
  have hbuy : buyOrder registry shop lookups order held = _ :=
    buyOrder_affordable hgoods hoffer htemplate hcost
  rw [hparts] at hbuy
  have hsound : Sound registry shop order lookups held ↔ _ := sound_iff hgoods hoffer htemplate
  have habandoned : abandoned registry shop order lookups held = _ :=
    abandoned_eq hgoods hoffer htemplate
  rw [hparts] at habandoned
  simp only [hcost, decide_false, Option.isSome_none, Bool.or_false, Bool.false_eq_true,
    if_false] at habandoned
  have hbuys : Buys lookups goods.moneyType price range held template ↔
      Affords goods.moneyType price held.value ∧
        Obtains lookups template.tid (boughtAmount template range)
          (debit goods.moneyType (ofInt price) held) := by
    rw [Buys, hparts]
    exact Iff.rfl
  have hidPaid : (debit goods.moneyType (ofInt price) held).data.Identified := by
    rw [debit_data]
    exact hid
  have hitem := buyItem_apply lookups order template range
    (hasItem lookups.ownedInventory lookups.ownedEquipment template.tid held)
    (debit goods.moneyType (ofInt price) held)
  rw [unobtained] at habandoned
  rw [Obtains] at hbuys
  generalize hpaid : debit goods.moneyType (ofInt price) held = paid at *
  cases hadded : added lookups.item template.tid (boughtAmount template range) paid with
  | none =>
    rw [hadded] at hitem habandoned hbuys
    refine .terminated (fun h => ?_) habandoned (hbuy.trans hitem)
    obtain ⟨result, hresult, -⟩ := (hbuys.1 (hsound.1 h hcost)).2
    cases hresult
  | some result =>
    obtain ⟨uid, left⟩ := result
    rw [hadded] at hitem habandoned hbuys
    cases hfind : itemStorage.find lookups.bought uid left.data with
    | none =>
      simp only [hfind] at hitem
      refine .thrown (fun h => ?_) ?_ (hbuy.trans hitem)
      · obtain ⟨result, hresult, hsome, -⟩ := (hbuys.1 (hsound.1 h hcost)).2
        cases hresult
        rw [hfind] at hsome
        cases hsome
      · rw [habandoned, Option.filter_some_pos (by rw [hfind]; rfl)]
        rfl
    | some item =>
      simp only [hfind] at hitem
      have hreceived := received_iff hidPaid hadded hfind
      by_cases hgood : Affords goods.moneyType price held.value ∧
          Grows lookups.item template.tid (boughtAmount template range) paid
      · obtain ⟨haffords, hgrows⟩ := hgood
        refine .handled (hsound.2 fun _ => hbuys.2 ⟨haffords, ⟨uid, left⟩, rfl, ?_, hgrows⟩)
          (hbuy.trans hitem) (Bought.item hgoods hoffer htemplate hparts
            (paid_iff.2 ⟨haffords, hpaid.symm⟩) (hreceived.2 hgrows) rfl)
          (added_identified hidPaid hadded)
        rw [hfind]
        rfl
      · refine .mishandled (fun h => hgood ?_) ?_ (hbuy.trans hitem) fun hbought => hgood ?_
        · obtain ⟨haffords, result, -, -, hgrows⟩ := hbuys.1 (hsound.1 h hcost)
          exact ⟨haffords, hgrows⟩
        · rw [habandoned, Option.filter_some_neg (by rw [hfind]; rfl)]
          rfl
        · have h := hbought.received hgoods hoffer htemplate hparts
            (added_identified hidPaid hadded) hfind
          rw [hpaid] at h
          exact ⟨hbought.affords hgoods hoffer, hreceived.1 h⟩

end Affordable

theorem buyOrder_ending {order : ShopOrder} {lookups : OrderLookups} {held : Held Character}
    (hid : held.data.Identified) :
    Ending registry shop order lookups held := by
  cases hgoods : shop order.goodsSq with
  | none =>
    have hhandled : Handled registry shop order lookups held { result := .unknownError } held :=
      handled_failed (by decide)
    refine .handled ?_ ?_ hhandled hid
    · simp [Sound, hgoods]
    · simp only [buyOrder, hgoods]
      rfl
  | some goods =>
  cases hoffer : offer goods order.priceId with
  | none =>
    obtain ⟨status, hstatus, hfailed⟩ := orderCost_of_none hoffer
    have hhandled : Handled registry shop order lookups held { result := status } held :=
      handled_failed hfailed
    refine .handled ?_ ?_ hhandled hid
    · simp [Sound, hgoods, hoffer]
    · simp only [buyOrder, hgoods, hstatus]
      rfl
  | some price =>
  obtain ⟨price, range⟩ := price
  cases htemplate : registry goods.itemUid with
  | none =>
    have herror : buyOrder registry shop lookups order held =
        .error (.thrown "bad optional access") held := by
      simp only [buyOrder, hgoods, orderCost_of_some hoffer, htemplate]
      rfl
    refine .thrown ?_ ?_ herror
    · simp [Sound, hgoods, hoffer, htemplate]
    · simp [abandoned, hgoods, hoffer, htemplate]
  | some template =>
  by_cases hcost : balance goods.moneyType held.value < ofInt price
  · have hhandled : Handled registry shop order lookups held { result := .outOfMoney } held :=
      handled_failed (by decide)
    refine .handled ((sound_iff hgoods hoffer htemplate).2 fun h => absurd hcost h) ?_ hhandled hid
    simp only [buyOrder, hgoods, orderCost_of_some hoffer, htemplate]
    rw [bind_apply, get_apply]
    dsimp only
    rw [if_pos hcost]
    rfl
  · cases hparts : template.mountPartSetInfo with
    | none => exact item_ending hgoods hoffer htemplate hid hparts hcost
    | some parts => exact horse_ending hgoods hoffer htemplate hid hparts hcost

/-! ## The loop -/

theorem buyOrders_cons (order : ShopOrder) (lookups : OrderLookups)
    (rest : List (ShopOrder × OrderLookups)) (held : Held Character) :
    buyOrders registry shop ((order, lookups) :: rest) held =
      match buyOrder registry shop lookups order held with
      | .ok report after =>
        match buyOrders registry shop rest after with
        | .ok reports last => .ok (report :: reports) last
        | .error failure left => .error failure left
      | .error failure left => .error failure left := by
  rw [buyOrders, bind_apply]
  cases buyOrder registry shop lookups order held with
  | error failure left => rfl
  | ok report after =>
    dsimp only
    rw [bind_apply]
    cases buyOrders registry shop rest after <;> rfl

variable (registry shop) in
/-- How a command ends whose loop ends so, when it started with `data`. -/
def EndSettles (command : BuyOwnItem) (data : DataDirector) (reports : List OrderReport) :
    EStateM.Result Failure (Held Character) (List OrderReport) → Prop
  | .ok further after => FollowUpsSettle registry command data (reports ++ further) after
  | .error (.thrown _) left => characterStorage.write command.caller left.value left.data = data
  | .error _ _ => False

variable {command : BuyOwnItem} {data : DataDirector} {reports : List OrderReport}

/-- The orders of a loop are settled exactly if each one is sound, or the one that throws leaves
nothing different from the start. -/
theorem ordersSettle_iff {orders : List (ShopOrder × OrderLookups)} {held : Held Character}
    (hid : held.data.Identified) :
    Settled registry shop held orders ∧
        EndSettles registry command data reports (buyOrders registry shop orders held) ↔
      OrdersSettle registry shop command data reports held orders := by
  induction orders generalizing reports held with
  | nil =>
    show True ∧ FollowUpsSettle registry command data (reports ++ []) held ↔ _
    rw [List.append_nil, true_and]
    exact Iff.rfl
  | cons entry rest ih =>
    obtain ⟨order, lookups⟩ := entry
    have hending : Ending registry shop order lookups held := buyOrder_ending hid
    cases hending with
    | @handled report after sound ok handled identified =>
      rw [OrdersSettle, if_pos sound, returned_ok ok, final_ok ok,
        ← ih identified, Settled, buyOrders_cons, ok]
      dsimp only
      refine and_congr (and_iff_right handled) ?_
      cases buyOrders registry shop rest after with
      | error failure left => cases failure <;> exact Iff.rfl
      | ok further last =>
        dsimp only [EndSettles]
        rw [Option.toList_some, List.append_assoc, List.singleton_append]
    | mishandled unsound kept ok mishandled =>
      rw [OrdersSettle, if_neg unsound, kept, Settled, ok]
      simp [mishandled]
    | thrown unsound left_eq error =>
      rw [OrdersSettle, if_neg unsound, left_eq, Settled, buyOrders_cons, error]
      simp [EndSettles]
    | terminated unsound kept error =>
      rw [OrdersSettle, if_neg unsound, kept, Settled, buyOrders_cons, error]
      simp [EndSettles]

/-! ## The balances -/

variable {before : Held Character}

theorem Received.balance_eq {now : TimePoint} {tid : Tid} {amount : Amount} {uid : Uid}
    {item : Item} (h : Received now tid amount before uid item after) (moneyType : MoneyType) :
    balance moneyType after.value = balance moneyType before.value := by
  obtain hsame | ⟨-, hpush⟩ := h.character
  · rw [hsame]
  · rw [hpush]
    cases moneyType <;> rfl

theorem HorseReceived.balance_eq {tid : Tid} {uid : Uid} (h : HorseReceived tid before uid after)
    (moneyType : MoneyType) :
    balance moneyType after.value = balance moneyType before.value := by
  obtain ⟨horse, -, -, rfl⟩ := h.horse
  cases moneyType <;> rfl

theorem Paid.balance_eq {other : MoneyType} {price : Int} (h : Paid moneyType price before after) :
    (balance other after.value).toInt =
      (balance other before.value).toInt - if moneyType = other then price else 0 := by
  by_cases hother : moneyType = other
  · subst hother
    rw [if_pos rfl]
    exact h.exact
  · rw [if_neg hother, h.others, balance_setBalance_of_ne (Ne.symm hother)]
    omega

/-- A handled order takes its price from the balance of its currency, if it is successful. -/
theorem Handled.balance_eq {order : ShopOrder} {lookups : OrderLookups} {report : OrderReport}
    (h : Handled registry shop order lookups before report after) (moneyType : MoneyType) :
    (balance moneyType after.value).toInt =
      (balance moneyType before.value).toInt - priceIn shop moneyType order report := by
  obtain ⟨result, purchase, newEquipment, slot⟩ := report
  cases result with
  | success =>
    cases purchase with
    | none => cases h
    | some purchase =>
      have h : Bought registry shop lookups.item.now order before purchase after := h
      cases h with
      | horse goods_eq price_eq template_eq isHorse paid_for received purchase_eq =>
        simp only [priceIn, goods_eq, price_eq, Option.map_some, Option.getD_some]
        rw [received.balance_eq, paid_for.balance_eq]
      | item goods_eq price_eq template_eq isItem paid_for received purchase_eq =>
        simp only [priceIn, goods_eq, price_eq, Option.map_some, Option.getD_some]
        rw [received.balance_eq, paid_for.balance_eq]
  | unknownError | outOfMoney | notAvailable =>
    cases purchase with
    | some purchase => cases h
    | none =>
      have hsame : after = before := h
      rw [hsame, priceIn, Int.sub_zero]

/-- Settled orders take the sum of the prices of the successful ones. -/
theorem Settled.balance_eq {orders : List (ShopOrder × OrderLookups)} {held : Held Character}
    (h : Settled registry shop held orders)
    (hbuy : buyOrders registry shop orders held = .ok reports after) (moneyType : MoneyType) :
    (balance moneyType after.value).toInt = (balance moneyType held.value).toInt -
      spent shop moneyType (orders.map Prod.fst) reports := by
  induction orders generalizing held reports with
  | nil =>
    cases hbuy
    simp [spent]
  | cons entry rest ih =>
    obtain ⟨order, lookups⟩ := entry
    rw [buyOrders_cons] at hbuy
    rw [Settled] at h
    cases hfirst : buyOrder registry shop lookups order held with
    | error failure left =>
      rw [hfirst] at hbuy
      cases hbuy
    | ok report middle =>
      rw [hfirst] at hbuy h
      dsimp only at hbuy h
      cases hrest : buyOrders registry shop rest middle with
      | error failure left =>
        rw [hrest] at hbuy
        cases hbuy
      | ok further last =>
        rw [hrest] at hbuy
        cases hbuy
        have hone := h.1.balance_eq moneyType
        have hmore := ih h.2 hrest
        have hsum : spent shop moneyType (((order, lookups) :: rest).map Prod.fst)
            (report :: further) = priceIn shop moneyType order report +
              spent shop moneyType (rest.map Prod.fst) further := List.sum_cons
        omega

/-! ## What follows the response -/

/-- The balances and the records of items and horses are the same. -/
structure SameGoods (data after : DataDirector) : Prop where
  items : after.items = data.items
  horses : after.horses = data.horses
  balances : ∀ uid moneyType,
    (after.characters uid).map (balance moneyType) = (data.characters uid).map (balance moneyType)

instance : Std.Refl SameGoods := ⟨fun _ => ⟨rfl, rfl, fun _ _ => rfl⟩⟩

instance : IsTrans DataDirector SameGoods where
  trans _ _ _ first second := by
    refine ⟨second.items.trans first.items, second.horses.trans first.horses, fun uid moneyType => ?_⟩
    exact (second.balances uid moneyType).trans (first.balances uid moneyType)

/-- A change of a character that leaves the balances alone. -/
theorem sameGoods_mutable (available : Bool) (uid : Uid) {change : Character → Character}
    (hchange : ∀ character moneyType,
      balance moneyType (change character) = balance moneyType character) :
    Effect.Keeps SameGoods (characterStorage.mutable available uid change) := by
  refine keeps_mutable fun data character hfind => ⟨rfl, rfl, fun other moneyType => ?_⟩
  show ((update data.characters uid (some (change character))) other).map _ = _
  by_cases hother : other = uid
  · subst hother
    have hcharacter : data.characters other = some character := (find_eq_some.1 hfind).2.2
    rw [update_self, hcharacter]
    exact congrArg some (hchange character moneyType)
  · rw [update_of_ne hother]

theorem sameGoods_broadcast (lookups : EquipmentLookups) (caller : Uid) :
    Effect.Keeps SameGoods (broadcastEquipmentUpdate lookups caller) := by
  refine bind (keeps_immutable _ _) fun character => ?_
  refine bind get fun data => ?_
  split
  · exact pure _
  · split <;> exact pure _

theorem sameGoods_wear (lookups : EquipmentLookups) (caller uid : Uid) :
    Effect.Keeps SameGoods (handleWearEquipment registry lookups caller uid) := by
  refine bind (keeps_immutable _ _) fun character => ?_
  split
  · refine bind (sameGoods_mutable _ _ fun character moneyType => ?_) fun _ =>
      sameGoods_broadcast _ _
    rw [mountHorse]
    split
    · rfl
    · cases moneyType <;> rfl
  · split
    · refine bind (keeps_immutable _ _) fun item => ?_
      split
      · exact throw _
      · have hpart : ∀ template, Effect.Keeps SameGoods
            (wearPart registry lookups caller uid template character) := by
          intro template
          refine bind get fun data => ?_
          split
          · exact pure _
          · refine bind (sameGoods_mutable _ _ fun character moneyType => ?_) fun _ =>
              sameGoods_broadcast _ _
            cases moneyType <;> rfl
        dsimp only
        split
        · exact bind (throw _) fun _ => hpart _
        · exact hpart _
    · exact pure _

theorem sameGoods_expandMountSlot (lookups : SlotLookups) (caller uid : Uid) :
    Effect.Keeps SameGoods (handleExpandMountSlot registry lookups caller uid) := by
  refine bind (keeps_immutable _ _) fun character => ?_
  split
  · exact pure _
  · refine bind (keeps_immutable _ _) fun item => ?_
    split
    · exact pure _
    · split
      · exact pure _
      · refine bind (sameGoods_mutable _ _ fun character moneyType => ?_) fun _ =>
          pure _
        cases moneyType <;> rfl

theorem sameGoods_followUps (lookups : Nat → FollowUpLookups) (caller : Uid) (n : Nat)
    (followUps : List FollowUp) :
    Effect.Keeps SameGoods (handleFollowUps registry lookups caller n followUps) := by
  induction followUps generalizing n with
  | nil => exact pure _
  | cons next rest ih =>
    refine bind ?_ fun reply => ?_
    · apply adaptExcept
      cases next with
      | expandMountSlot uid => exact sameGoods_expandMountSlot _ _ _
      | wearEquipment uid => exact sameGoods_wear _ _ _
    · dsimp only
      split
      · exact bind (throw _) fun _ => ih (n + 1)
      · exact ih (n + 1)

/-! ## The command -/

theorem handleBuyOwnItem_apply (command : BuyOwnItem) (data : DataDirector) :
    handleBuyOwnItem registry shop command data =
      match characterStorage.find command.character command.caller data with
      | none => .error (.thrown "Value of the record is unavailable") data
      | some before =>
        match buyOrders registry shop command.orders ⟨before, data⟩ with
        | .error failure left =>
          .error failure (characterStorage.write command.caller left.value left.data)
        | .ok reports held =>
          match handleFollowUps registry command.followUps command.caller 0 (followUpsOf reports)
              (characterStorage.write command.caller held.value held.data) with
          | .error failure left => .error failure left
          | .ok _ after =>
            .ok (buyOwnItemOK (command.orders.map Prod.fst) reports held.value) after := by
  rw [handleBuyOwnItem, bind_apply, access]
  cases characterStorage.find command.character command.caller data with
  | none => rfl
  | some before =>
    dsimp only
    rw [bind_apply]
    cases buyOrders registry shop command.orders ⟨before, data⟩ with
    | error failure left => rfl
    | ok reports held =>
      dsimp only
      rw [bind_apply, get_apply]
      dsimp only
      rw [pure_apply]
      dsimp only
      rw [bind_apply]
      cases handleFollowUps registry command.followUps command.caller 0 (followUpsOf reports)
        (characterStorage.write command.caller held.value held.data) <;> rfl

/-- What follows the response of settled orders completes the command. -/
theorem completed {after : DataDirector} {before : Character} {held : Held Character}
    {reply : PUnit}
    (hfind : characterStorage.find command.character command.caller data = some before)
    (hsettled : Settled registry shop ⟨before, data⟩ command.orders)
    (hbuy : buyOrders registry shop command.orders ⟨before, data⟩ = .ok reports held)
    (hfollow : handleFollowUps registry command.followUps command.caller 0 (followUpsOf reports)
      (characterStorage.write command.caller held.value held.data) = .ok reply after) :
    Completed registry shop command data
      (buyOwnItemOK (command.orders.map Prod.fst) reports held.value) after := by
  have hsame : SameGoods _ ((handleFollowUps registry command.followUps command.caller 0
      (followUpsOf reports)).final (characterStorage.write command.caller held.value held.data)) :=
    sameGoods_followUps command.followUps command.caller 0 (followUpsOf reports) _
  rw [final_ok hfollow] at hsame
  have hwritten : (characterStorage.write command.caller held.value held.data).characters
      command.caller = some held.value := update_self ..
  have hbalances := hsame.balances command.caller
  rw [hwritten] at hbalances
  obtain ⟨final, hfinal, hcarrots⟩ := Option.map_eq_some_iff.1 (hbalances .carrots)
  refine ⟨before, reports, held, final, hfind, hbuy, rfl, hsame.items, hsame.horses, hfinal, ?_⟩
  intro moneyType
  have hbalance : balance moneyType final = balance moneyType held.value := by
    have h := hbalances moneyType
    rw [hfinal] at h
    exact Option.some_inj.1 h
  rw [hbalance]
  exact hsettled.balance_eq hbuy moneyType

variable (registry shop) in
/-- A command is a transaction exactly if each of its orders is sound when it is handled and the
handlers that follow do not throw. -/
theorem purchases_transact (command : BuyOwnItem) (data : DataDirector) (hid : data.Identified) :
    Transacts registry shop command data ↔ Settles registry shop command data := by
  have happly : handleBuyOwnItem registry shop command data = _ :=
    handleBuyOwnItem_apply command data
  cases hfind : characterStorage.find command.character command.caller data with
  | none =>
    rw [hfind] at happly
    constructor
    · intro _ character hcharacter
      rw [hfind] at hcharacter
      cases hcharacter
    · intro _
      refine ⟨fun character hcharacter => ?_, ?_⟩
      · rw [hfind] at hcharacter
        cases hcharacter
      · rw [happly]
  | some before =>
    rw [hfind] at happly
    dsimp only at happly
    have hsettles : Settles registry shop command data ↔
        Settled registry shop ⟨before, data⟩ command.orders ∧
          EndSettles registry command data []
            (buyOrders registry shop command.orders ⟨before, data⟩) := by
      rw [ordersSettle_iff hid, Settles, hfind]
      simp
    have htransacts : Transacts registry shop command data ↔
        Settled registry shop ⟨before, data⟩ command.orders ∧
          match handleBuyOwnItem registry shop command data with
          | .ok response after => Completed registry shop command data response after
          | .error (.thrown _) after => after = data
          | .error _ _ => False := by
      constructor
      · rintro ⟨hsettled, houtcome⟩
        exact ⟨hsettled before hfind, houtcome⟩
      · rintro ⟨hsettled, houtcome⟩
        refine ⟨fun character hcharacter => ?_, houtcome⟩
        cases hfind.symm.trans hcharacter
        exact hsettled
    rw [hsettles, htransacts]
    refine and_congr_right fun hsettled => ?_
    cases hbuy : buyOrders registry shop command.orders ⟨before, data⟩ with
    | error failure left =>
      rw [hbuy] at happly
      rw [happly]
      cases failure <;> exact Iff.rfl
    | ok reports held =>
      rw [hbuy] at happly
      dsimp only at happly
      rw [EndSettles, FollowUpsSettle, List.nil_append]
      cases hfollow : handleFollowUps registry command.followUps command.caller 0
        (followUpsOf reports) (characterStorage.write command.caller held.value held.data) with
      | error failure left =>
        rw [hfollow] at happly
        rw [happly]
        cases failure <;> exact Iff.rfl
      | ok reply after =>
        rw [hfollow] at happly
        rw [happly]
        exact iff_of_true (completed hfind hsettled hbuy hfollow) trivial

/-- A customer with a saddle. -/
def customer : Character :=
  { uid := 1, carrots := 100, cash := 10, inventory := [11], mountUid := 21 }

def market : DataDirector where
  characters := fun uid => if uid = 1 then some customer else none
  items := fun uid => if uid = 11 then some { uid := 11, tid := 7, count := 1 } else none

/-- Saddles and horses. -/
def wares : ItemRegistry := fun tid =>
  if tid = 7 then some { tid := 7, mountPartSlot := some 2 }
  else if tid = 8 then some { tid := 8, mountPartSetInfo := some {} }
  else none

/-- Goods 1 is a saddle, goods 2 a horse for cash, and the item of goods 3 is not known. -/
def priceList : ShopList := fun goodsSq =>
  if goodsSq = 1 then some { itemUid := 7, items := [⟨1, 2, 30⟩] }
  else if goodsSq = 2 then some { itemUid := 8, moneyType := .cash, items := [⟨1, 1, 5⟩] }
  else if goodsSq = 3 then some { itemUid := 9, items := [⟨1, 1, 5⟩] }
  else none

theorem market_identified : market.Identified := by
  refine ⟨fun uid item hitem => ?_⟩
  have hitem : (if uid = 11 then some { uid := 11, tid := 7, count := 1 } else none) = some item := hitem
  split at hitem
  · cases hitem
    exact Eq.symm ‹_›
  · cases hitem

theorem followUpsSettle_of_completes {held : Held Character}
    (h : (handleFollowUps registry command.followUps command.caller 0
      (followUpsOf reports)).Completes (characterStorage.write command.caller held.value held.data))
    :
    FollowUpsSettle registry command data reports held := by
  obtain ⟨reply, after, hfollow⟩ := completes_iff.1 h
  rw [FollowUpsSettle, hfollow]
  trivial

/-- Two saddles are bought, and a horse; a price that does not exist fails. -/
theorem purchases_transact_market : Transacts wares priceList
    ⟨1, [(⟨1, false, 1⟩, {}), (⟨1, false, 4⟩, {}), (⟨2, false, 1⟩, { horse := some 31 }),
      (⟨1, false, 1⟩, {})], true, fun _ => {}⟩ market := by
  refine (purchases_transact wares priceList _ market market_identified).2 fun character hcharacter => ?_
  have hcustomer : some customer = some character := hcharacter
  cases hcustomer
  rw [OrdersSettle, if_pos (by decide +kernel), OrdersSettle, if_pos (by decide +kernel),
    OrdersSettle, if_pos (by decide +kernel), OrdersSettle, if_pos (by decide +kernel)]
  exact followUpsSettle_of_completes (by decide +kernel)

/-- A transaction that throws leaves the records as they were. -/
theorem unchanged_of_thrown (h : Transacts registry shop command data)
    (hthrown : (handleBuyOwnItem registry shop command).returned data = none) :
    (handleBuyOwnItem registry shop command).final data = data := by
  have houtcome := h.outcome
  rw [returned] at hthrown
  rw [final]
  cases hhandle : handleBuyOwnItem registry shop command data with
  | ok response after =>
    rw [hhandle] at hthrown
    cases hthrown
  | error failure after =>
    rw [hhandle] at houtcome
    cases failure with
    | thrown what => exact houtcome
    | terminated => cases houtcome
    | undefined => cases houtcome

/-- A saddle is paid for when the next order throws, because its item is not known. -/
theorem unknown_item_keeps_money : ¬Transacts wares priceList
    ⟨1, [(⟨1, false, 1⟩, {}), (⟨3, false, 1⟩, {})], true, fun _ => {}⟩ market := by
  intro h
  have hsame := unchanged_of_thrown h (by decide +kernel)
  have hcarrots := congrArg (fun data => (data.characters 1).map Character.carrots) hsame
  exact absurd hcarrots (by decide +kernel)

end Alicia.Possession
