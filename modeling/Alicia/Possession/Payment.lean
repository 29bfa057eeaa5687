import Alicia.Possession.Stacks
import Mathlib.Data.List.Find

/-!
# Payments

`ConsumeItem` is meant to take all the pieces or to leave everything as it was.  The remaining count of
a refused consumption stays zero, so an item that has too few pieces is deleted.

An item pays for something if it is the first one of its type in the inventory and has the pieces.  What is found does not
change when other items are added, and the records that remain can be listed.
-/

namespace Alicia.Possession

open Transition Data Storage List Option Function
open DataDirector (characterStorage itemStorage)

/-- The first item of a type in the inventory. -/
def firstOfType (tid : Tid) (held : Held Character) : Option Uid :=
  held.value.inventory.find? fun uid => typeOf held uid = some tid

/-- The pieces of an item are gone, and with the last one the item.  No other item differs. -/
structure Consumed (count : UInt32) (uid : Uid) (item : Item) (held after : Held Character) : Prop where
  enough : count ≤ item.count
  record : after.data.items uid =
    if item.count = count then none else some { item with count := item.count - count }
  others : ∀ other, other ≠ uid → after.data.items other = held.data.items other
  inventory : after.value.inventory =
    if item.count = count then held.value.inventory.filter (· ≠ uid) else held.value.inventory
  character : after.value = { held.value with inventory := after.value.inventory }
  data : after.data = { held.data with items := after.data.items }

/-- Nothing is taken, or all the pieces are. -/
structure AllOrNothing (tid : Tid) (count : UInt32) (held : Held Character)
    (result : ConsumeVerdict × Held Character) : Prop where
  refused : result.1.itemConsumed = false → result.2 = held
  consumed : result.1.itemConsumed = true → ∃ uid item, firstOfType tid held = some uid ∧
    held.data.items uid = some item ∧ Consumed count uid item held result.2

/-- The condition: the first item of the type has as many pieces, if the records can be had. -/
def Suffices (available : Uid → Bool) (tid : Tid) (count : UInt32) (held : Held Character) : Prop :=
  (itemStorage.cachedAll available held.data held.value.inventory).isSome = true →
    ∀ uid item, firstOfType tid held = some uid → held.data.items uid = some item → count ≤ item.count

variable {tid : Tid} {count : UInt32} {held : Held Character} {uid : Uid} {item : Item}

/-! ## The loop -/

theorem find?_skip {uids : List Uid} (h : typeOf held uid ≠ some tid) :
    (uid :: uids).find? (fun uid => typeOf held uid = some tid) =
      uids.find? fun uid => typeOf held uid = some tid :=
  List.find?_cons_of_neg fun heq => h (of_decide_eq_true heq)

theorem find?_found {uids : List Uid} (h : typeOf held uid = some tid) :
    (uid :: uids).find? (fun uid => typeOf held uid = some tid) = some uid := by
  refine List.find?_cons_of_pos ?_
  exact decide_eq_true h

/-- Items of other types are passed over. -/
theorem consumeFrom_none {uids : List Uid} (h : uids.find? (fun uid => typeOf held uid = some tid) = none) :
    consumeFrom tid count uids held = ({}, held) := by
  induction uids with
  | nil => rfl
  | cons first rest ih =>
    have hfirst : typeOf held first ≠ some tid := by
      intro htype
      exact List.find?_eq_none.1 h first mem_cons_self (decide_eq_true htype)
    rw [find?_skip hfirst] at h
    rw [consumeFrom]
    cases hitem : held.data.items first with
    | none => exact ih h
    | some other =>
      have htype : other.tid ≠ tid := by
        intro heq
        rw [typeOf, hitem] at hfirst
        exact hfirst (congrArg some heq)
      dsimp only
      rw [if_neg htype]
      exact ih h

/-- What the loop does to the first item of the type. -/
theorem consumeFrom_some {uids : List Uid} (h : uids.find? (fun uid => typeOf held uid = some tid) = some uid)
    (hitem : held.data.items uid = some item) (huid : item.uid = uid) (hvalid : uid ≠ invalidUid) :
    consumeFrom tid count uids held =
      let consumed := writeItem uid (consume count item) held
      if (verdictOf count item).remainingItemCount = 0 then
        ({ verdictOf count item with itemUid := invalidUid }, removeUid uid consumed)
      else (verdictOf count item, consumed) := by
  have hverdict : (verdictOf count item).itemUid = uid := by
    rw [verdictOf]
    split
    · exact huid
    · exact huid
  induction uids with
  | nil => cases h
  | cons first rest ih =>
    by_cases hfirst : typeOf held first = some tid
    · have hsame : first = uid := Option.some.inj ((find?_found hfirst).symm.trans h)
      subst hsame
      have htype : item.tid = tid := by
        rw [typeOf, hitem] at hfirst
        exact Option.some.inj hfirst
      rw [consumeFrom, hitem]
      dsimp only
      rw [if_pos htype, hverdict, if_pos hvalid]
    · rw [find?_skip hfirst] at h
      rw [consumeFrom]
      cases hother : held.data.items first with
      | none => exact ih h
      | some other =>
        have htype : other.tid ≠ tid := by
          intro heq
          rw [typeOf, hother] at hfirst
          exact hfirst (congrArg some heq)
        dsimp only
        rw [if_neg htype]
        exact ih h

/-! ## What is taken -/

theorem mem_of_firstOfType (h : firstOfType tid held = some uid) : uid ∈ held.value.inventory :=
  mem_of_find?_eq_some h

theorem record_of_firstOfType (h : firstOfType tid held = some uid) :
    ∃ item, held.data.items uid = some item ∧ item.tid = tid := by
  have htype := List.find?_some h
  exact map_eq_some_iff.1 (of_decide_eq_true htype)

/-- An item with enough pieces loses them. -/
theorem consumed_of_le (h : count ≤ item.count) :
    Consumed count uid item held
      (if item.count - count = 0 then removeUid uid (writeItem uid (consume count item) held)
        else writeItem uid (consume count item) held) := by
  have hconsume : consume count item = { item with count := item.count - count } := if_pos h
  have hzero : item.count - count = 0 ↔ item.count = count := by
    rw [← UInt32.toNat_inj, UInt32.toNat_sub_of_le _ _ h, ← UInt32.toNat_inj, UInt32.toNat_zero]
    have hle : count.toNat ≤ item.count.toNat := h
    omega
  by_cases hlast : item.count = count
  · rw [if_pos (hzero.2 hlast)]
    refine ⟨h, ?_, fun other hother => ?_, ?_, rfl, rfl⟩
    · rw [if_pos hlast]
      exact update_self ..
    · exact (update_of_ne hother ..).trans (update_of_ne hother ..)
    · rw [if_pos hlast]
      rfl
  · rw [if_neg fun hcount => hlast (hzero.1 hcount), hconsume]
    refine ⟨h, ?_, fun other hother => update_of_ne hother .., ?_, rfl, rfl⟩
    · rw [if_neg hlast]
      exact update_self ..
    · rw [if_neg hlast]
      rfl

/-- An item with too few pieces is deleted. -/
theorem ne_of_removeUid (hmem : uid ∈ held.value.inventory) (written : Item) :
    removeUid uid (writeItem uid written held) ≠ held := by
  intro hsame
  rw [← hsame] at hmem
  exact of_decide_eq_true (mem_filter.1 hmem).2 rfl

/-! ## What a consumption leaves alone -/

/-- Only the inventory and the items differ. -/
structure ItemsOnly (held after : Held Character) : Prop where
  character : after.value = { held.value with inventory := after.value.inventory }
  data : after.data = { held.data with items := after.data.items }

namespace ItemsOnly

theorem refl (held : Held Character) : ItemsOnly held held := ⟨rfl, rfl⟩

theorem trans {first second third : Held Character} (h : ItemsOnly first second) (hnext : ItemsOnly second third) :
    ItemsOnly first third := by
  constructor
  · rw [hnext.character, h.character]
  · rw [hnext.data, h.data]

end ItemsOnly

theorem itemsOnly_consumeFrom (tid : Tid) (count : UInt32) (uids : List Uid) (held : Held Character) :
    ItemsOnly held (consumeFrom tid count uids held).2 := by
  induction uids generalizing held with
  | nil => exact .refl held
  | cons uid rest ih =>
    rw [consumeFrom]
    cases held.data.items uid with
    | none => exact ih held
    | some item =>
      have hwritten : ItemsOnly held (writeItem uid (consume count item) held) := ⟨rfl, rfl⟩
      dsimp only
      split
      · split
        · split
          · exact hwritten.trans ⟨rfl, rfl⟩
          · exact hwritten
        · exact hwritten.trans (ih _)
      · exact ih held

theorem itemsOnly_consumeItem (available : Uid → Bool) (tid : Tid) (count : UInt32) (held : Held Character) :
    ItemsOnly held (consumeItem available tid count held).2 := by
  rw [consumeItem]
  cases itemStorage.cachedAll available held.data held.value.inventory with
  | none => exact .refl held
  | some items => exact itemsOnly_consumeFrom tid count held.value.inventory held

/-! ## The outcomes of a consumption -/

section Payment

variable {available : Uid → Bool}

/-- No item of the type is found. -/
def Lacks (available : Uid → Bool) (tid : Tid) (held : Held Character) : Prop :=
  (itemStorage.cachedAll available held.data held.value.inventory).isSome = true → firstOfType tid held = none

/-- An item is found. -/
structure Finds (available : Uid → Bool) (tid : Tid) (held : Held Character) (uid : Uid) (item : Item) : Prop where
  available : (itemStorage.cachedAll available held.data held.value.inventory).isSome = true
  first : firstOfType tid held = some uid
  record : held.data.items uid = some item

theorem lacks_or_finds (available : Uid → Bool) (tid : Tid) (held : Held Character) :
    Lacks available tid held ∨ ∃ uid item, Finds available tid held uid item := by
  by_cases hall : (itemStorage.cachedAll available held.data held.value.inventory).isSome = true
  · cases hfirst : firstOfType tid held with
    | none => exact .inl fun _ => hfirst
    | some uid =>
      obtain ⟨item, hitem, -⟩ := record_of_firstOfType hfirst
      exact .inr ⟨uid, item, hall, hfirst, hitem⟩
  · exact .inl fun h => absurd h hall

theorem Lacks.not_finds (h : Lacks available tid held) : ¬Finds available tid held uid item := by
  intro hfinds
  cases hfinds.first.symm.trans (h hfinds.available)

namespace Finds

variable (h : Finds available tid held uid item)

include h

theorem unique {uid' : Uid} {item' : Item} (h' : Finds available tid held uid' item') : uid' = uid ∧ item' = item := by
  have huid := some_inj.1 (h'.first.symm.trans h.first)
  subst huid
  exact ⟨rfl, some_inj.1 (h'.record.symm.trans h.record)⟩

theorem type : item.tid = tid := by
  obtain ⟨other, hother, htype⟩ := record_of_firstOfType h.first
  cases h.record.symm.trans hother
  exact htype

theorem owned : uid ∈ held.value.inventory := mem_of_firstOfType h.first

end Finds

theorem consumeItem_lacks (h : Lacks available tid held) (count : UInt32) :
    consumeItem available tid count held = ({}, held) := by
  rw [consumeItem]
  cases hall : itemStorage.cachedAll available held.data held.value.inventory with
  | none => rfl
  | some items =>
    rw [Lacks, hall] at h
    exact consumeFrom_none (h rfl)

section Found

variable (hid : held.data.Identified) (hinvalid : held.data.items invalidUid = none)
  (h : Finds available tid held uid item)

include hid hinvalid h

theorem consumeItem_finds (count : UInt32) : consumeItem available tid count held =
    let consumed := writeItem uid (consume count item) held
    if (verdictOf count item).remainingItemCount = 0 then
      ({ verdictOf count item with itemUid := invalidUid }, removeUid uid consumed)
    else (verdictOf count item, consumed) := by
  have hvalid : uid ≠ invalidUid := by
    rintro rfl
    cases hinvalid.symm.trans h.record
  have hall := h.available
  rw [consumeItem]
  cases hcached : itemStorage.cachedAll available held.data held.value.inventory with
  | none =>
    rw [hcached] at hall
    cases hall
  | some items => exact consumeFrom_some h.first h.record (hid.items uid item h.record) hvalid

theorem consumeItem_enough (henough : count ≤ item.count) :
    (consumeItem available tid count held).1.itemConsumed = true ∧
      Consumed count uid item held (consumeItem available tid count held).2 := by
  have hverdict : verdictOf count item = ⟨true, item.uid, item.count - count⟩ := if_pos henough
  have hconsumed := @consumed_of_le count held uid item henough
  rw [consumeItem_finds hid hinvalid h, hverdict]
  dsimp only
  split
  · next hzero =>
      rw [if_pos hzero] at hconsumed
      exact ⟨rfl, hconsumed⟩
  · next hzero =>
      rw [if_neg hzero] at hconsumed
      exact ⟨rfl, hconsumed⟩

theorem consumeItem_short (hshort : ¬count ≤ item.count) :
    (consumeItem available tid count held).1.itemConsumed = false ∧
      (consumeItem available tid count held).2 = removeUid uid (writeItem uid (consume count item) held) := by
  have hverdict : verdictOf count item = ⟨false, item.uid, 0⟩ := if_neg hshort
  rw [consumeItem_finds hid hinvalid h, hverdict]
  exact ⟨rfl, rfl⟩

end Found

/-- Pieces that are taken are missed. -/
theorem Consumed.ne {after : Held Character} (h : Consumed count uid item held after) (hcount : count ≠ 0)
    (hitem : held.data.items uid = some item) : after.data.items uid ≠ held.data.items uid := by
  rw [h.record, hitem]
  have hle : count.toNat ≤ item.count.toNat := h.enough
  have hpositive : count.toNat ≠ 0 := fun hzero => hcount (UInt32.toNat_inj.1 hzero)
  split
  · exact fun hnone => some_ne_none _ hnone.symm
  · intro hsame
    have hcounts := congrArg (fun item : Item => item.count.toNat) (some_inj.1 hsame)
    dsimp only at hcounts
    rw [UInt32.toNat_sub_of_le _ _ h.enough] at hcounts
    omega

end Payment

/-- A consumption takes all the pieces or nothing, exactly if the first item of the type has as many. -/
theorem consume_all_or_nothing {held : Held Character} (hid : held.data.Identified)
    (hinvalid : held.data.items invalidUid = none) (available : Uid → Bool) (tid : Tid) (count : UInt32) :
    AllOrNothing tid count held (consumeItem available tid count held) ↔ Suffices available tid count held := by
  obtain hlacks | ⟨uid, item, hfinds⟩ := lacks_or_finds available tid held
  · rw [consumeItem_lacks hlacks]
    refine iff_of_true ⟨fun _ => rfl, fun h => Bool.noConfusion h⟩ fun hall uid item hfirst _ => ?_
    cases (hlacks hall).symm.trans hfirst
  · have hsuffices : Suffices available tid count held ↔ count ≤ item.count := by
      constructor
      · intro h
        exact h hfinds.available uid item hfinds.first hfinds.record
      · intro h hall other otherItem hother hotherItem
        obtain ⟨-, rfl⟩ := hfinds.unique ⟨hall, hother, hotherItem⟩
        exact h
    rw [hsuffices]
    by_cases henough : count ≤ item.count
    · obtain ⟨hverdict, hconsumed⟩ := consumeItem_enough hid hinvalid hfinds henough
      refine iff_of_true ⟨fun h => ?_, fun _ => ⟨uid, item, hfinds.first, hfinds.record, hconsumed⟩⟩ henough
      cases hverdict.symm.trans h
    · refine iff_of_false (fun h => ?_) henough
      obtain ⟨hverdict, hremoved⟩ := consumeItem_short hid hinvalid hfinds henough
      exact ne_of_removeUid hfinds.owned _ (hremoved.symm.trans (h.refused hverdict))

theorem consume_all_or_nothing_keeper :
    AllOrNothing 7 1 keeper.held (consumeItem (fun _ => true) 7 1 keeper.held) := by
  refine (consume_all_or_nothing keeper_identified rfl _ 7 1).2 fun _ uid item hfirst hitem => ?_
  cases (show firstOfType 7 keeper.held = some 3 by decide).symm.trans hfirst
  cases hitem
  decide

/-- An item with one piece is deleted when two are asked for. -/
theorem refused_deletes : ¬AllOrNothing 7 2 keeper.held (consumeItem (fun _ => true) 7 2 keeper.held) := by
  intro h
  have hsame := congrArg (fun held : Held Character => held.value.inventory) (h.refused (by decide))
  exact absurd hsame (by decide)

/-! ## The access to a character -/

section Access

variable {caller : Uid} {data : DataDirector} {after : Held Character} {character : Character}

theorem access_ok {α : Type} {consumer : Effect (Held Character) Failure α} (unavailable : Failure) {available : Bool}
    {a : α} (hfind : characterStorage.find available caller data = some character)
    (h : consumer ⟨character, data⟩ = .ok a after) :
    characterStorage.access unavailable available caller consumer data =
      .ok a (characterStorage.write caller after.value after.data) := by
  rw [access, hfind]
  dsimp only
  rw [h]

theorem access_error {α : Type} {consumer : Effect (Held Character) Failure α} (unavailable : Failure)
    {failure : Failure} {available : Bool} (hfind : characterStorage.find available caller data = some character)
    (h : consumer ⟨character, data⟩ = .error failure after) :
    characterStorage.access unavailable available caller consumer data =
      .error failure (characterStorage.write caller after.value after.data) := by
  rw [access, hfind]
  dsimp only
  rw [h]

end Access

/-! ## What is found -/

/-- Some new items are in the inventory, and the types of the others are as they were. -/
structure Extends (before after : Held Character) (uids : List Uid) : Prop where
  inventory : after.value.inventory = before.value.inventory ++ uids
  types : ∀ uid ∉ uids, typeOf after uid = typeOf before uid
  created : ∀ uid ∈ uids, (after.data.items uid).isSome = true ∧ uid ∉ before.value.inventory

theorem typeOf_isSome {held : Held Character} {uid : Uid} :
    (typeOf held uid).isSome = (held.data.items uid).isSome := isSome_map

theorem cached_isSome {available : Bool} {data : DataDirector} {uid : Uid} :
    (itemStorage.cached available uid data).isSome = true ↔ available = true ∧ (data.items uid).isSome = true := by
  unfold cached
  cases available <;> simp [itemStorage]

theorem Extends.finds_iff {before after : Held Character} {uids : List Uid} (h : Extends before after uids)
    {available : Uid → Bool} {tid : Tid} {uid : Uid} (hmem : uid ∈ before.value.inventory) {item : Item} :
    Finds available tid after uid item ↔ (∀ other ∈ uids, available other = true) ∧ after.data.items uid = some item ∧
      ∃ earlier, Finds available tid before uid earlier := by
  have hold (other : Uid) (hother : other ∈ before.value.inventory) : other ∉ uids :=
    fun hnew => (h.created other hnew).2 hother
  have hsame (other : Uid) (hother : other ∈ before.value.inventory) :
      (after.data.items other).isSome = (before.data.items other).isSome := by
    rw [← typeOf_isSome, h.types other (hold other hother), typeOf_isSome]
  have hfirst : firstOfType tid after = (firstOfType tid before).or
      (uids.find? fun other => typeOf after other = some tid) := by
    rw [firstOfType, h.inventory, List.find?_append, firstOfType]
    congr 1
    refine List.find?_congr fun other hother => ?_
    rw [h.types other (hold other hother)]
  constructor
  · intro hfinds
    have hall := cachedAll_isSome.1 hfinds.available
    rw [h.inventory] at hall
    have hbefore : firstOfType tid before = some uid := by
      have huid := hfinds.first
      rw [hfirst] at huid
      cases hfound : firstOfType tid before with
      | some other =>
        rw [hfound] at huid
        exact huid
      | none =>
        -- the first one would be a new item
        rw [hfound] at huid
        exact absurd hmem (h.created uid (mem_of_find?_eq_some huid)).2
    obtain ⟨earlier, hearlier, -⟩ := record_of_firstOfType hbefore
    refine ⟨fun other hother => ?_, hfinds.record, earlier, ?_, hbefore, hearlier⟩
    · exact (cached_isSome.1 (hall other (mem_append_right _ hother))).1
    · refine cachedAll_isSome.2 fun other hother => cached_isSome.2 ?_
      obtain ⟨havailable, hrecord⟩ := cached_isSome.1 (hall other (mem_append_left _ hother))
      exact ⟨havailable, hsame other hother ▸ hrecord⟩
  · rintro ⟨hcreated, hrecord, earlier, hearlier⟩
    refine ⟨cachedAll_isSome.2 fun other hother => cached_isSome.2 ?_, ?_, hrecord⟩
    · rw [h.inventory] at hother
      obtain hold | hnew := mem_append.1 hother
      · obtain ⟨havailable, hother'⟩ := cached_isSome.1 (cachedAll_isSome.1 hearlier.available other hold)
        exact ⟨havailable, (hsame other hold).trans hother'⟩
      · exact ⟨hcreated other hnew, (h.created other hnew).1⟩
    · rw [hfirst, hearlier.first]
      rfl

theorem extends_self (held : Held Character) : Extends held held [] where
  inventory := (append_nil _).symm
  types _ _ := rfl
  created _ h := absurd h not_mem_nil

/-- Finding an item depends on the items and the inventory alone. -/
theorem Finds.congr {available : Uid → Bool} {tid : Tid} {held held' : Held Character} {uid : Uid} {item : Item}
    (hitems : held'.data.items = held.data.items) (hinventory : held'.value.inventory = held.value.inventory) :
    Finds available tid held' uid item ↔ Finds available tid held uid item := by
  have hextends : Extends held held' [] := by
    refine ⟨hinventory.trans (append_nil _).symm, fun other _ => ?_, fun _ h => absurd h not_mem_nil⟩
    rw [typeOf, hitems]
    rfl
  constructor
  · intro h
    have howned := h.owned
    rw [hinventory] at howned
    obtain ⟨-, hrecord, earlier, hearlier⟩ := (hextends.finds_iff howned).1 h
    rw [hitems, hearlier.record] at hrecord
    cases hrecord
    exact hearlier
  · intro h
    refine (hextends.finds_iff h.owned).2 ⟨fun _ h => absurd h not_mem_nil, ?_, item, h⟩
    rw [hitems]
    exact h.record

/-- The records that are listed after a payment. -/
theorem listed_iff {held after : Held Character} {uid : Uid} {item : Item} {available listed : Uid → Bool} {tid : Tid}
    (hfinds : Finds available tid held uid item) (hconsumed : Consumed 1 uid item held after) :
    (itemStorage.cachedAll listed after.data after.value.inventory).isSome = true ↔
      ∀ other ∈ held.value.inventory, (other = uid → item.count ≠ 1) → listed other = true := by
  have hall := cachedAll_isSome.1 hfinds.available
  rw [cachedAll_isSome, hconsumed.inventory]
  constructor
  · intro h other hother hlast
    refine (cached_isSome.1 (h other ?_)).1
    split
    · next hcount => exact mem_filter.2 ⟨hother, decide_eq_true fun hsame => hlast hsame hcount⟩
    · exact hother
  · intro h other hother
    have hkept : other ∈ held.value.inventory ∧ (other = uid → item.count ≠ 1) := by
      split at hother
      · exact ⟨(mem_filter.1 hother).1, fun hsame => absurd hsame (of_decide_eq_true (mem_filter.1 hother).2)⟩
      · next hcount => exact ⟨hother, fun _ => hcount⟩
    refine cached_isSome.2 ⟨h other hkept.1 hkept.2, ?_⟩
    by_cases hsame : other = uid
    · subst hsame
      rw [hconsumed.record, if_neg (hkept.2 rfl)]
      rfl
    · rw [hconsumed.others other hsame]
      exact (cached_isSome.1 (hall other hkept.1)).2

end Alicia.Possession
