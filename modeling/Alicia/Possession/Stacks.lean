import Alicia.Possession.ItemSystem
import Mathlib.Algebra.BigOperators.Group.Finset.Piecewise

/-!
# Stacks of items

`AddItem` is meant to keep one item for each type that it has created, and to make a count grow by what
is added.  The search for the item that grows gives up a list when one record of it is not available, so
an unrelated record decides whether a second item of the type is created.
-/

namespace Alicia.Possession

open Transition Data Function List
open DataDirector (itemStorage)

/-! ## Taking items away -/

/-- `ItemSystem::ConsumeVerdict`. -/
structure ConsumeVerdict where
  itemConsumed : Bool := false
  itemUid : Uid := invalidUid
  remainingItemCount : UInt32 := 0
  deriving DecidableEq

/-- The removal of an item from the inventory, and of its record. -/
def removeUid (uid : Uid) (held : Held Character) : Held Character where
  value := { held.value with inventory := held.value.inventory.filter (· ≠ uid) }
  data := itemStorage.erase uid held.data

/-- An item loses some pieces, if it has as many. -/
def consume (count : UInt32) (item : Item) : Item :=
  if count ≤ item.count then { item with count := item.count - count } else item

/-- The verdict about an item of the type. -/
def verdictOf (count : UInt32) (item : Item) : ConsumeVerdict :=
  if count ≤ item.count then ⟨true, item.uid, item.count - count⟩ else ⟨false, item.uid, 0⟩

/-- The loop of `ConsumeItem` over the records of a list. -/
def consumeFrom (tid : Tid) (count : UInt32) : List Uid → Held Character → ConsumeVerdict × Held Character
  | [], held => ({}, held)
  | uid :: rest, held =>
    match held.data.items uid with
    | none => consumeFrom tid count rest held
    | some item =>
      if item.tid = tid then
        let verdict := verdictOf count item
        let consumed := writeItem uid (consume count item) held
        if verdict.itemUid ≠ invalidUid then
          if verdict.remainingItemCount = 0 then
            ({ verdict with itemUid := invalidUid }, removeUid verdict.itemUid consumed)
          else (verdict, consumed)
        else consumeFrom tid count rest consumed
      else consumeFrom tid count rest held

/-- `ItemSystem::ConsumeItem`. -/
def consumeItem (available : Uid → Bool) (tid : Tid) (count : UInt32) (held : Held Character) :
    ConsumeVerdict × Held Character :=
  match itemStorage.cachedAll available held.data held.value.inventory with
  | none => ({}, held)
  | some _ => consumeFrom tid count held.value.inventory held

/-- `ItemSystem::RemoveItem`. -/
def removeItem (available : Uid → Bool) (tid : Tid) (held : Held Character) : Held Character :=
  let uid := searchItems available tid held.data held.value.inventory
  if uid ≠ invalidUid then removeUid uid held else held

/-! ## Runs -/

/-- A use of the item system. -/
inductive StockInput where
  | add (lookups : ItemLookups) (tid : Tid) (amount : Amount)
  | consume (available : Uid → Bool) (tid : Tid) (count : UInt32)
  | remove (available : Uid → Bool) (tid : Tid)

/-- The character, the records, and the items that `AddItem` has created. -/
structure Stock where
  held : Held Character
  created : List Uid := []

/-- The item that an addition creates. -/
def createdBy (lookups : ItemLookups) (tid : Tid) (held : Held Character) : Option Uid :=
  if getItem lookups tid held = invalidUid then itemStorage.fresh lookups.created held.data else none

def stockStep (stock : Stock) : StockInput → Stock
  | .add lookups tid amount =>
    ⟨(addItem lookups tid amount).final stock.held,
      stock.created ++ (createdBy lookups tid stock.held).toList⟩
  | .consume available tid count => { stock with held := (consumeItem available tid count stock.held).2 }
  | .remove available tid => { stock with held := removeItem available tid stock.held }

/-- The items of a character. -/
def owned (held : Held Character) : List Uid := held.value.inventory ++ held.value.characterEquipment

/-- The type of an item, if it has a record. -/
def typeOf (held : Held Character) (uid : Uid) : Option Tid := (held.data.items uid).map Item.tid

/-- No two items that `AddItem` has created have one type. -/
def Stock.Distinct (stock : Stock) : Prop :=
  ∀ first ∈ owned stock.held, ∀ second ∈ owned stock.held, first ∈ stock.created →
    second ∈ stock.created → (typeOf stock.held first).isSome = true →
      typeOf stock.held first = typeOf stock.held second → first = second

instance (stock : Stock) : Decidable stock.Distinct :=
  @List.decidableBAll _ _ (fun _ => List.decidableBAll _ _) _

/-- The pieces of a type in one item. -/
def countIn (items : Table Item) (tid : Tid) (uid : Uid) : Nat :=
  match items uid with
  | none => 0
  | some item => if item.tid = tid then item.count.toNat else 0

/-- The pieces of a type that a character has. -/
def total (tid : Tid) (held : Held Character) : Nat :=
  ∑ uid ∈ (owned held).toFinset, countIn held.data.items tid uid

/-- No type has two items afterwards, and the addition of some pieces returns and adds just these. -/
def Stacks (stock : Stock) (input : StockInput) : Prop :=
  (stockStep stock input).Distinct ∧
    match input with
    | .add lookups tid (.count pieces) =>
      (addItem lookups tid (.count pieces)).Completes stock.held ∧
        total tid (stockStep stock input).held = total tid stock.held + pieces.toNat
    | _ => True

/-- All records of a list are available, and one has the type. -/
def Findable (available : Uid → Bool) (tid : Tid) (data : DataDirector) (uids : List Uid) : Prop :=
  (∀ uid ∈ uids, available uid = true ∧ (data.items uid).isSome = true) ∧
    ∃ uid ∈ uids, uid ≠ invalidUid ∧ ∃ item, data.items uid = some item ∧ item.tid = tid

/-- An item of the type can be found in the inventory or in the equipment. -/
def Searchable (lookups : ItemLookups) (tid : Tid) (held : Held Character) : Prop :=
  Findable lookups.inventory tid held.data held.value.inventory ∨
    Findable lookups.equipment tid held.data held.value.characterEquipment

/-- The condition on an addition. -/
structure Suits (stock : Stock) (lookups : ItemLookups) (tid : Tid) (amount : Amount) : Prop where
  /-- An item that `AddItem` has created can be found, unless no other is created. -/
  found : (∃ uid ∈ owned stock.held, uid ∈ stock.created ∧ typeOf stock.held uid = some tid) →
    (itemStorage.fresh lookups.created stock.held.data).isSome = true →
      Searchable lookups tid stock.held
  /-- The creation of an item succeeds. -/
  creates : ¬Searchable lookups tid stock.held → ∀ pieces, amount = .count pieces →
    (itemStorage.fresh lookups.created stock.held.data).isSome = true
  /-- The item that is found stays available, and the count does not overflow. -/
  fits : Searchable lookups tid stock.held → ∀ pieces, amount = .count pieces → pieces ≠ 0 →
    lookups.existing = true ∧ ∀ item ∈ stock.held.data.items (getItem lookups tid stock.held),
      Fits lookups.now amount item

def Suited (stock : Stock) : StockInput → Prop
  | .add lookups tid amount => Suits stock lookups tid amount
  | _ => True

/-! ## The search -/

theorem cached_eq_some {available : Bool} {uid : Uid} {data : DataDirector} {item : Item} :
    itemStorage.cached available uid data = some item ↔
      available = true ∧ data.items uid = some item := by
  rw [Storage.cached]
  split
  · next havailable => exact (and_iff_right havailable).symm
  · next havailable =>
      refine iff_of_false ?_ fun h => havailable h.1
      intro hnone
      cases hnone

theorem mem_cachedAll_of_record {available : Uid → Bool} {data : DataDirector} {uids : List Uid}
    {items : List Item} (h : itemStorage.cachedAll available data uids = some items) {uid : Uid}
    (huid : uid ∈ uids) {item : Item} (hitem : data.items uid = some item) : item ∈ items :=
  Storage.mem_cachedAll_of_records h huid hitem

theorem searchItems_ne_iff {available : Uid → Bool} {tid : Tid} {data : DataDirector}
    {uids : List Uid} (hid : data.Identified) :
    searchItems available tid data uids ≠ invalidUid ↔ Findable available tid data uids := by
  constructor
  · intro h
    obtain ⟨hmem, hitem⟩ := searchItems_spec hid h
    refine ⟨?_, _, hmem, h, hitem⟩
    have hall : (itemStorage.cachedAll available data uids).isSome = true := by
      rw [searchItems] at h
      cases hcached : itemStorage.cachedAll available data uids with
      | none =>
        rw [hcached] at h
        exact absurd rfl h
      | some items => rfl
    intro uid huid
    obtain ⟨item, hitem⟩ := Option.isSome_iff_exists.1 (Storage.cachedAll_isSome.1 hall uid huid)
    obtain ⟨havailable, hrecord⟩ := cached_eq_some.1 hitem
    exact ⟨havailable, hrecord ▸ rfl⟩
  · rintro ⟨hall, uid, huid, hvalid, item, hitem, htype⟩
    have hcomplete : (itemStorage.cachedAll available data uids).isSome = true := by
      rw [Storage.cachedAll_isSome]
      intro other hother
      obtain ⟨havailable, hrecord⟩ := hall other hother
      obtain ⟨value, hvalue⟩ := Option.isSome_iff_exists.1 hrecord
      rw [cached_eq_some.2 ⟨havailable, hvalue⟩]
      rfl
    obtain ⟨items, hitems⟩ := Option.isSome_iff_exists.1 hcomplete
    have hfound : (items.find? fun item => item.tid = tid && item.uid ≠ invalidUid).isSome = true := by
      refine List.find?_isSome.2 ⟨item, mem_cachedAll_of_record hitems huid hitem, ?_⟩
      rw [hid.items uid item hitem, Bool.and_eq_true, decide_eq_true_eq, decide_eq_true_eq]
      exact ⟨htype, hvalid⟩
    obtain ⟨found, hfound⟩ := Option.isSome_iff_exists.1 hfound
    have hmatch := List.find?_some hfound
    rw [Bool.and_eq_true, decide_eq_true_eq, decide_eq_true_eq] at hmatch
    rw [searchItems, hitems]
    dsimp only
    rw [hfound]
    exact hmatch.2

theorem getItem_eq_iff {lookups : ItemLookups} {tid : Tid} {held : Held Character}
    (hid : held.data.Identified) :
    getItem lookups tid held = invalidUid ↔ ¬Searchable lookups tid held := by
  rw [getItem, Searchable, ← searchItems_ne_iff hid, ← searchItems_ne_iff hid, not_or, not_not, not_not]
  split
  · next hfound => exact iff_of_false hfound fun h => hfound h.1
  · next hfound => exact (and_iff_right (not_not.1 hfound)).symm

/-! ## The pieces of a type -/

/-- The pieces of one item. -/
def pieces (tid : Tid) (item : Item) : Nat := if item.tid = tid then item.count.toNat else 0

theorem countIn_update (items : Table Item) (tid : Tid) (uid : Uid) (item : Item) :
    countIn (update items uid (some item)) tid =
      update (countIn items tid) uid (pieces tid item) := by
  funext other
  by_cases hother : other = uid
  · subst hother
    rw [countIn, update_self, update_self]
    rfl
  · rw [countIn, update_of_ne hother, update_of_ne hother]
    rfl

/-- Writing an item replaces its pieces. -/
theorem sum_update {uids : Finset Uid} {uid : Uid} (huid : uid ∈ uids) (count : Uid → Nat) (n : Nat) :
    ∑ other ∈ uids, update count uid n other + count uid = ∑ other ∈ uids, count other + n := by
  rw [Finset.sum_update_of_mem huid, ← Finset.add_sum_erase uids count huid, Finset.sdiff_singleton_eq_erase]
  omega

/-- A new item adds its pieces. -/
theorem total_create {held : Held Character} {uid : Uid} (hnone : held.data.items uid = none)
    {tid : Tid} {item : Item} (hitem : item.tid = tid) :
    total tid (pushInventory uid (writeItem uid item held)) = total tid held + item.count.toNat := by
  have howned : (owned (pushInventory uid (writeItem uid item held))).toFinset =
      insert uid (owned held).toFinset := by
    ext other
    rw [mem_toFinset, Finset.mem_insert, mem_toFinset, owned, owned, pushInventory, writeItem]
    simp only [mem_append, mem_singleton]
    tauto
  have hzero : countIn held.data.items tid uid = 0 := by
    rw [countIn, hnone]
  have hpieces : pieces tid item = item.count.toNat := if_pos hitem
  have hsum := sum_update (Finset.mem_insert_self uid (owned held).toFinset)
    (countIn held.data.items tid) (pieces tid item)
  rw [← countIn_update, hzero, Nat.add_zero, hpieces,
    Finset.sum_insert_of_eq_zero_if_notMem fun _ => hzero] at hsum
  rw [total, howned]
  exact hsum

/-- An item of the character that grows adds what it has grown by. -/
theorem total_write {held : Held Character} {uid : Uid} (huid : uid ∈ owned held) {tid : Tid}
    {item grown : Item} (hrecord : held.data.items uid = some item) (hitem : item.tid = tid)
    (hgrown : grown.tid = tid) :
    total tid (writeItem uid grown held) + item.count.toNat = total tid held + grown.count.toNat := by
  have hcount : countIn held.data.items tid uid = item.count.toNat := by
    rw [countIn, hrecord]
    exact if_pos hitem
  have hpieces : pieces tid grown = grown.count.toNat := if_pos hgrown
  have hsum := sum_update (mem_toFinset.2 huid) (countIn held.data.items tid) (pieces tid grown)
  rw [← countIn_update, hcount, hpieces] at hsum
  exact hsum

/-! ## What stays of the items -/

/-- The character has no new items, and every record that is left is of the same item. -/
structure Remains (before after : Held Character) : Prop where
  owned : ∀ uid ∈ owned after, uid ∈ owned before
  records : ∀ uid item, after.data.items uid = some item →
    ∃ old, before.data.items uid = some old ∧ old.tid = item.tid ∧ old.uid = item.uid

namespace Remains

theorem refl (held : Held Character) : Remains held held :=
  ⟨fun _ h => h, fun _ item h => ⟨item, h, rfl, rfl⟩⟩

theorem trans {first second third : Held Character} (h : Remains first second)
    (hnext : Remains second third) : Remains first third := by
  refine ⟨fun uid huid => h.owned uid (hnext.owned uid huid), ?_⟩
  intro uid item hitem
  obtain ⟨middle, hmiddle, htype, huid⟩ := hnext.records uid item hitem
  obtain ⟨old, hold, htypeOld, huidOld⟩ := h.records uid middle hmiddle
  exact ⟨old, hold, htypeOld.trans htype, huidOld.trans huid⟩

/-- An item is written with its type and uid. -/
theorem write {held : Held Character} {uid : Uid} {item written : Item}
    (hitem : held.data.items uid = some item) (htype : written.tid = item.tid)
    (huid : written.uid = item.uid) : Remains held (writeItem uid written held) := by
  refine ⟨fun _ h => h, ?_⟩
  intro other value hvalue
  have hvalue : update held.data.items uid (some written) other = some value := hvalue
  by_cases hother : other = uid
  · subst hother
    rw [update_self] at hvalue
    cases hvalue
    exact ⟨item, hitem, htype.symm, huid.symm⟩
  · rw [update_of_ne hother] at hvalue
    exact ⟨value, hvalue, rfl, rfl⟩

theorem remove (uid : Uid) (held : Held Character) : Remains held (removeUid uid held) := by
  constructor
  · intro other hother
    rcases mem_append.1 hother with hinventory | hequipment
    · exact mem_append_left _ (mem_filter.1 hinventory).1
    · exact mem_append_right _ hequipment
  · intro other value hvalue
    have hvalue : update held.data.items uid none other = some value := hvalue
    by_cases hother : other = uid
    · subst hother
      rw [update_self] at hvalue
      cases hvalue
    · rw [update_of_ne hother] at hvalue
      exact ⟨value, hvalue, rfl, rfl⟩

variable {before after : Held Character}

theorem identified (h : Remains before after) (hid : before.data.Identified) : after.data.Identified := by
  refine ⟨fun uid item hitem => ?_⟩
  obtain ⟨old, hold, -, huid⟩ := h.records uid item hitem
  rw [← huid]
  exact hid.items uid old hold

theorem typeOf_eq (h : Remains before after) {uid : Uid} {tid : Tid} (htype : typeOf after uid = some tid) :
    typeOf before uid = some tid := by
  obtain ⟨item, hitem, rfl⟩ := Option.map_eq_some_iff.1 htype
  obtain ⟨old, hold, htype, -⟩ := h.records uid item hitem
  rw [typeOf, hold, ← htype]
  rfl

theorem distinct (h : Remains before after) {created : List Uid}
    (hdistinct : Stock.Distinct ⟨before, created⟩) : Stock.Distinct ⟨after, created⟩ := by
  intro first hfirst second hsecond hfirstCreated hsecondCreated hrecord hsame
  obtain ⟨tid, htid⟩ := Option.isSome_iff_exists.1 hrecord
  have hfirstType := h.typeOf_eq htid
  have hsecondType := h.typeOf_eq (hsame.symm.trans htid)
  refine hdistinct first (h.owned first hfirst) second (h.owned second hsecond) hfirstCreated
    hsecondCreated ?_ (hfirstType.trans hsecondType.symm)
  exact Option.isSome_iff_exists.2 ⟨tid, hfirstType⟩

end Remains

theorem remains_consumeFrom (tid : Tid) (count : UInt32) (uids : List Uid) (held : Held Character) :
    Remains held (consumeFrom tid count uids held).2 := by
  induction uids generalizing held with
  | nil => exact .refl held
  | cons uid rest ih =>
    rw [consumeFrom]
    cases hitem : held.data.items uid with
    | none => exact ih held
    | some item =>
      have hconsumed : Remains held (writeItem uid (consume count item) held) := by
        refine .write hitem ?_ ?_
        · rw [consume]
          split <;> rfl
        · rw [consume]
          split <;> rfl
      dsimp only
      split
      · split
        · split
          · exact hconsumed.trans (.remove _ _)
          · exact hconsumed
        · exact hconsumed.trans (ih _)
      · exact ih held

theorem remains_consumeItem (available : Uid → Bool) (tid : Tid) (count : UInt32) (held : Held Character) :
    Remains held (consumeItem available tid count held).2 := by
  rw [consumeItem]
  cases itemStorage.cachedAll available held.data held.value.inventory with
  | none => exact .refl held
  | some items => exact remains_consumeFrom tid count held.value.inventory held

theorem remains_removeItem (available : Uid → Bool) (tid : Tid) (held : Held Character) :
    Remains held (removeItem available tid held) := by
  rw [removeItem]
  split
  · exact .remove _ held
  · exact .refl held

/-! ## Additions -/

section Additions

variable {lookups : ItemLookups} {tid : Tid} {amount : Amount} {held : Held Character} {uid : Uid}

theorem added_new (hid : held.data.Identified) (hnot : ¬Searchable lookups tid held) :
    added lookups tid amount held = (itemStorage.fresh lookups.created held.data).map fun created =>
      (created, pushInventory created (writeItem created (newItem lookups.now tid amount created) held)) :=
  if_pos ((getItem_eq_iff hid).2 hnot)

theorem createdBy_new (hid : held.data.Identified) (hnot : ¬Searchable lookups tid held) :
    createdBy lookups tid held = itemStorage.fresh lookups.created held.data :=
  if_pos ((getItem_eq_iff hid).2 hnot)

theorem createdBy_found (hid : held.data.Identified) (hfound : Searchable lookups tid held) :
    createdBy lookups tid held = none :=
  if_neg fun h => (getItem_eq_iff hid).1 h hfound

/-- An item that is found grows, if its record is still available. -/
theorem added_found (hid : held.data.Identified) (hfound : Searchable lookups tid held) :
    ∃ item, held.data.items (getItem lookups tid held) = some item ∧ item.tid = tid ∧
      getItem lookups tid held ∈ owned held ∧
        added lookups tid amount held =
          if lookups.existing = true then
            some (getItem lookups tid held,
              writeItem (getItem lookups tid held) (growItem lookups.now amount item) held)
          else some (invalidUid, held) := by
  have hne : getItem lookups tid held ≠ invalidUid := fun h => (getItem_eq_iff hid).1 h hfound
  obtain ⟨howned, item, hitem, htype⟩ := getItem_spec hid hne
  refine ⟨item, hitem, htype, howned, ?_⟩
  rw [added, if_neg hne]
  by_cases hexisting : lookups.existing = true
  · rw [cached_eq_some.2 ⟨hexisting, hitem⟩, if_pos hexisting]
  · have hnone : itemStorage.cached lookups.existing (getItem lookups tid held) held.data = none :=
      if_neg hexisting
    rw [hnone, if_neg hexisting]

theorem final_addItem (lookups : ItemLookups) (tid : Tid) (amount : Amount) (held : Held Character) :
    (addItem lookups tid amount).final held =
      ((added lookups tid amount held).map Prod.snd).getD held := by
  have happly := addItem_apply lookups tid amount held
  cases hadded : added lookups tid amount held with
  | none =>
    rw [hadded] at happly
    exact Effect.final_error happly
  | some result =>
    rw [hadded] at happly
    exact Effect.final_ok happly

theorem completes_addItem (lookups : ItemLookups) (tid : Tid) (amount : Amount) (held : Held Character) :
    (addItem lookups tid amount).Completes held ↔ (added lookups tid amount held).isSome = true := by
  rw [Effect.Completes, addItem_apply]
  cases added lookups tid amount held with
  | none => exact iff_of_false id Bool.false_ne_true
  | some result => exact iff_of_true trivial rfl

variable {stock : Stock}

theorem items_create (uid : Uid) (item : Item) (held : Held Character) :
    (pushInventory uid (writeItem uid item held)).data.items =
      update held.data.items uid (some item) := rfl

/-- A second item of a type is created, exactly if one that `AddItem` has created is there. -/
theorem distinct_create (hdistinct : stock.Distinct) (hnone : stock.held.data.items uid = none)
    {item : Item} (hitem : item.tid = tid) :
    Stock.Distinct ⟨pushInventory uid (writeItem uid item stock.held), stock.created ++ [uid]⟩ ↔
      ¬∃ other ∈ owned stock.held, other ∈ stock.created ∧ typeOf stock.held other = some tid := by
  have htype : typeOf (pushInventory uid (writeItem uid item stock.held)) uid = some tid := by
    rw [typeOf, items_create, update_self, ← hitem]
    rfl
  have hother : ∀ other ≠ uid, typeOf (pushInventory uid (writeItem uid item stock.held)) other =
      typeOf stock.held other := by
    intro other hne
    rw [typeOf, items_create, update_of_ne hne]
    rfl
  have howned : ∀ other, other ∈ owned (pushInventory uid (writeItem uid item stock.held)) ↔
      other = uid ∨ other ∈ owned stock.held := by
    intro other
    rw [owned, owned, pushInventory, writeItem]
    simp only [mem_append, mem_singleton]
    tauto
  have hcreated : ∀ other, other ∈ stock.created ++ [uid] ↔ other = uid ∨ other ∈ stock.created := by
    intro other
    rw [mem_append, mem_singleton, or_comm]
  constructor
  · rintro hafter ⟨other, hmem, hmade, hsame⟩
    have hne : other ≠ uid := by
      rintro rfl
      rw [typeOf, hnone] at hsame
      cases hsame
    refine hne (hafter other ((howned _).2 (.inr hmem)) uid ((howned _).2 (.inl rfl))
      ((hcreated _).2 (.inr hmade)) ((hcreated _).2 (.inl rfl)) ?_ ?_)
    · rw [hother other hne, hsame]
      rfl
    · rw [hother other hne, hsame, htype]
  · intro hnot first hfirst second hsecond hfirstMade hsecondMade hrecord hsame
    have hold : ∀ other, other ≠ uid → other ∈ owned (pushInventory uid (writeItem uid item stock.held)) →
        other ∈ stock.created ++ [uid] → other ∈ owned stock.held ∧ other ∈ stock.created :=
      fun other hne hmem hmade =>
        ⟨((howned _).1 hmem).resolve_left hne, ((hcreated _).1 hmade).resolve_left hne⟩
    by_cases hfirstNew : first = uid
    · by_cases hsecondNew : second = uid
      · exact hfirstNew.trans hsecondNew.symm
      · obtain ⟨hmem, hmade⟩ := hold second hsecondNew hsecond hsecondMade
        rw [hfirstNew, htype, hother second hsecondNew] at hsame
        exact absurd ⟨second, hmem, hmade, hsame.symm⟩ hnot
    · obtain ⟨hmem, hmade⟩ := hold first hfirstNew hfirst hfirstMade
      rw [hother first hfirstNew] at hrecord hsame
      by_cases hsecondNew : second = uid
      · rw [hsecondNew, htype] at hsame
        exact absurd ⟨first, hmem, hmade, hsame⟩ hnot
      · obtain ⟨hmemSecond, hmadeSecond⟩ := hold second hsecondNew hsecond hsecondMade
        rw [hother second hsecondNew] at hsame
        exact hdistinct first hmem second hmemSecond hmade hmadeSecond hrecord hsame

/-- What an addition is meant to leave, told by what it returns. -/
theorem stacks_add (stock : Stock) (lookups : ItemLookups) (tid : Tid) (amount : Amount) :
    Stacks stock (.add lookups tid amount) ↔
      (stockStep stock (.add lookups tid amount)).Distinct ∧ ∀ pieces, amount = .count pieces →
        (added lookups tid amount stock.held).isSome = true ∧
          total tid (stockStep stock (.add lookups tid amount)).held =
            total tid stock.held + pieces.toNat := by
  cases amount with
  | count pieces =>
    rw [Stacks, completes_addItem]
    refine and_congr_right fun _ => ⟨fun h other hother => ?_, fun h => h pieces rfl⟩
    cases hother
    exact h
  | duration time => exact and_congr_right fun _ => iff_of_true trivial fun pieces h => nomatch h

theorem stacks_new (hid : stock.held.data.Identified) (hdistinct : stock.Distinct)
    (hnot : ¬Searchable lookups tid stock.held) :
    Stacks stock (.add lookups tid amount) ↔ Suits stock lookups tid amount := by
  rw [stacks_add, stockStep, final_addItem, added_new hid hnot, createdBy_new hid hnot]
  cases hfresh : itemStorage.fresh lookups.created stock.held.data with
  | none =>
    have hsame : Stock.Distinct ⟨stock.held, stock.created ++ []⟩ := by
      rw [append_nil]
      exact hdistinct
    constructor
    · rintro ⟨-, hcount⟩
      refine ⟨fun _ hfresh' => ?_, fun _ pieces hpieces => ?_, fun hfound => absurd hfound hnot⟩
      · rw [hfresh] at hfresh'
        cases hfresh'
      · cases (hcount pieces hpieces).1
    · rintro ⟨-, hcreates, -⟩
      refine ⟨hsame, fun pieces hpieces => ?_⟩
      have hcreated := hcreates hnot pieces hpieces
      rw [hfresh] at hcreated
      cases hcreated
  | some uid =>
    obtain ⟨-, -, hnone⟩ := Storage.fresh_eq_some.1 hfresh
    have hcreate := @distinct_create tid uid stock hdistinct hnone
      (newItem lookups.now tid amount uid) (newItem_tid ..)
    have htotal : ∀ pieces, amount = .count pieces →
        total tid (pushInventory uid (writeItem uid (newItem lookups.now tid amount uid) stock.held)) =
          total tid stock.held + pieces.toNat := by
      rintro pieces rfl
      exact total_create hnone rfl
    constructor
    · rintro ⟨hafter, -⟩
      have hothers := hcreate.1 hafter
      exact ⟨fun hthere => absurd hthere hothers, fun _ _ _ => hfresh ▸ rfl,
        fun hfound => absurd hfound hnot⟩
    · rintro ⟨hfound, -, -⟩
      refine ⟨hcreate.2 fun hthere => hnot (hfound hthere (hfresh ▸ rfl)), fun pieces hpieces => ?_⟩
      exact ⟨rfl, htotal pieces hpieces⟩

theorem stacks_found (hid : stock.held.data.Identified) (hdistinct : stock.Distinct)
    (hfound : Searchable lookups tid stock.held) :
    Stacks stock (.add lookups tid amount) ↔ Suits stock lookups tid amount := by
  obtain ⟨item, hitem, htype, howned, hadded⟩ := @added_found lookups tid amount stock.held hid hfound
  have hsuits : Suits stock lookups tid amount ↔ ∀ pieces, amount = .count pieces → pieces ≠ 0 →
      lookups.existing = true ∧ Fits lookups.now amount item := by
    constructor
    · intro h pieces hpieces hne
      obtain ⟨hexisting, hfits⟩ := h.fits hfound pieces hpieces hne
      exact ⟨hexisting, hfits item hitem⟩
    · intro h
      refine ⟨fun _ _ => hfound, fun hnot => absurd hfound hnot, fun _ pieces hpieces hne => ?_⟩
      obtain ⟨hexisting, hfits⟩ := h pieces hpieces hne
      refine ⟨hexisting, fun other hother => ?_⟩
      cases hitem.symm.trans hother
      exact hfits
  rw [stacks_add, hsuits, stockStep, final_addItem, hadded, createdBy_found hid hfound]
  by_cases hexisting : lookups.existing = true
  · rw [if_pos hexisting]
    have hremains : Remains stock.held
        (writeItem (getItem lookups tid stock.held) (growItem lookups.now amount item) stock.held) := by
      refine .write hitem (growItem_tid ..) ?_
      cases amount with
      | count pieces => rfl
      | duration time =>
        rw [growItem]
        split <;> rfl
    have hafter : Stock.Distinct ⟨writeItem (getItem lookups tid stock.held)
        (growItem lookups.now amount item) stock.held, stock.created ++ []⟩ := by
      rw [append_nil]
      exact hremains.distinct hdistinct
    refine (and_iff_right hafter).trans (forall_congr' fun pieces => forall_congr' fun hpieces => ?_)
    subst hpieces
    have htotal := @total_write _ _ howned tid item (growItem lookups.now (.count pieces) item)
      hitem htype htype
    have hgrown : (growItem lookups.now (.count pieces) item).count.toNat =
        (item.count.toNat + pieces.toNat) % 2 ^ 32 := UInt32.toNat_add item.count pieces
    have hfits : Fits lookups.now (.count pieces) item ↔
        item.count.toNat + pieces.toNat < 4294967296 := Iff.rfl
    have hcount := item.count.toNat_lt
    have hzero : pieces ≠ 0 ↔ pieces.toNat ≠ 0 := by
      rw [Ne, ← UInt32.toNat_inj, UInt32.toNat_zero]
    rw [hfits, hzero]
    rw [hgrown] at htotal
    constructor
    · rintro ⟨-, hsum⟩ -
      have hsum : total tid (writeItem (getItem lookups tid stock.held)
        (growItem lookups.now (.count pieces) item) stock.held) = total tid stock.held + pieces.toNat := hsum
      exact ⟨hexisting, by omega⟩
    · intro h
      refine ⟨rfl, ?_⟩
      show total tid (writeItem (getItem lookups tid stock.held)
        (growItem lookups.now (.count pieces) item) stock.held) = total tid stock.held + pieces.toNat
      by_cases hnone : pieces.toNat = 0
      · omega
      · have hroom := (h hnone).2
        omega
  · rw [if_neg hexisting]
    have hafter : Stock.Distinct ⟨stock.held, stock.created ++ []⟩ := by
      rw [append_nil]
      exact hdistinct
    refine (and_iff_right hafter).trans (forall_congr' fun pieces => forall_congr' fun _ => ?_)
    have hzero : total tid stock.held = total tid stock.held + pieces.toNat ↔ ¬pieces ≠ 0 := by
      rw [not_not, ← UInt32.toNat_inj, UInt32.toNat_zero]
      omega
    constructor
    · rintro ⟨-, hsame⟩ hne
      exact absurd hne (hzero.1 hsame)
    · intro h
      exact ⟨rfl, hzero.2 fun hne => hexisting (h hne).1⟩

theorem stacks_iff (hid : stock.held.data.Identified) (hdistinct : stock.Distinct) (input : StockInput) :
    Stacks stock input ↔ Suited stock input := by
  cases input with
  | add lookups tid amount =>
    by_cases hfound : Searchable lookups tid stock.held
    · exact stacks_found hid hdistinct hfound
    · exact stacks_new hid hdistinct hfound
  | consume available tid count =>
    have hafter : (stockStep stock (.consume available tid count)).Distinct :=
      (remains_consumeItem available tid count stock.held).distinct hdistinct
    exact iff_of_true ⟨hafter, trivial⟩ trivial
  | remove available tid =>
    have hafter : (stockStep stock (.remove available tid)).Distinct :=
      (remains_removeItem available tid stock.held).distinct hdistinct
    exact iff_of_true ⟨hafter, trivial⟩ trivial

end Additions

theorem stockStep_identified {stock : Stock} (hid : stock.held.data.Identified) (input : StockInput) :
    (stockStep stock input).held.data.Identified := by
  cases input with
  | add lookups tid amount =>
    rw [stockStep, final_addItem]
    cases hadded : added lookups tid amount stock.held with
    | none => exact hid
    | some result => exact added_identified hid hadded
  | consume available tid count => exact (remains_consumeItem available tid count stock.held).identified hid
  | remove available tid => exact (remains_removeItem available tid stock.held).identified hid

/-- Along a run no type gets two items and every addition adds what it is asked to, exactly if each
addition finds the item that is there, and can create one or make it grow. -/
theorem additions_stack (start : Stock) (hid : start.held.data.Identified) (hdistinct : start.Distinct)
    (inputs : List StockInput) :
    Guarded stockStep Stacks start inputs ↔ Guarded stockStep Suited start inputs :=
  @guarded_congr Stock StockInput stockStep Stacks Suited
    (fun stock => stock.held.data.Identified ∧ stock.Distinct)
    (fun _ input hinv hstacks => ⟨stockStep_identified hinv.1 input, hstacks.1⟩)
    (fun _ input hinv => stacks_iff hinv.1 hinv.2 input) start inputs ⟨hid, hdistinct⟩

/-- A character with one item. -/
def keeper : Stock :=
  { held :=
      { value := { uid := 1, inventory := [3] }
        data := { items := update (fun _ => none) 3 (some { uid := 3, tid := 7, count := 1 }) } } }

theorem keeper_identified : keeper.held.data.Identified := by
  refine ⟨fun uid item hitem => ?_⟩
  have hitem : update (fun _ => none) 3 (some { uid := 3, tid := 7, count := 1 }) uid =
    some item := hitem
  by_cases huid : uid = 3
  · subst huid
    rw [update_self] at hitem
    cases hitem
    rfl
  · rw [update_of_ne huid] at hitem
    cases hitem

theorem additions_stack_keeper :
    Guarded stockStep Stacks keeper [.add {} 7 (.count 2), .consume (fun _ => true) 7 1] := by
  refine (additions_stack keeper keeper_identified (by decide) _).2 ⟨?_, trivial, trivial⟩
  have hfound : Searchable {} 7 keeper.held :=
    .inl ⟨List.forall_mem_singleton.2 ⟨rfl, rfl⟩, 3, List.mem_singleton_self 3, by decide, _, rfl, rfl⟩
  refine ⟨fun _ _ => hfound, fun hnot => absurd hfound hnot, fun _ pieces hpieces _ => ⟨rfl, ?_⟩⟩
  cases hpieces
  intro item hitem
  cases hitem
  exact (by decide : Fits .epoch (.count 2) { uid := 3, tid := 7, count := 1 })

/-- The item of another type is not available when the second addition is made. -/
theorem unavailable_duplicates :
    ¬(run stockStep keeper [.add { created := some 5 } 9 (.count 1),
      .add { inventory := (· ≠ 3), created := some 6 } 9 (.count 1)]).Distinct := by
  decide

end Alicia.Possession
