import Alicia.Possession.Equipment
import Mathlib.Data.List.Perm.Basic

/-!
# Equipping conserves possessions

Equipping moves uids between lists and neither makes nor loses one.  It does so in the steps that
are `Orderly`: the uid of the command has to be where the code expects it, once, and the records
that the code uses unchecked have to be available.
-/

namespace Alicia.Possession

open Transition Effect Data Registry Function Storage List
open DataDirector (characterStorage itemStorage horseStorage)

/-- The same items in inventory and equipment, and the same horses in the list and as the mount. -/
structure SamePossessions (before after : Character) : Prop where
  items : (after.inventory ++ after.characterEquipment).Perm
    (before.inventory ++ before.characterEquipment)
  horses : (after.mountUid :: after.horses).Perm (before.mountUid :: before.horses)

theorem SamePossessions.refl (character : Character) : SamePossessions character character :=
  ⟨.refl _, .refl _⟩

theorem SamePossessions.trans {first second third : Character} (h : SamePossessions first second)
    (h' : SamePossessions second third) : SamePossessions first third :=
  ⟨h'.items.trans h.items, h'.horses.trans h.horses⟩

/-! ## Moves -/

variable {character : Character}

theorem mountHorse_same {horseUid : Uid} (h : horseUid ∈ character.horses) :
    SamePossessions character (mountHorse horseUid character) := by
  unfold mountHorse
  by_cases hmounted : character.mountUid = horseUid
  · rw [if_pos hmounted]
    exact .refl character
  · rw [if_neg hmounted]
    refine ⟨.refl _, ?_⟩
    have hmem : horseUid ∈ character.horses ++ [character.mountUid] := mem_append_left _ h
    exact (perm_cons_erase hmem).symm.trans perm_append_comm

variable {uid : Uid}

/-- A list with one occurrence of an element, which is taken out. -/
theorem filter_ne_perm {uids : List Uid} (h : uids.count uid = 1) :
    (uids.filter (· ≠ uid) ++ [uid]).Perm uids := by
  have hequal : uids.filter (· = uid) = [uid] := by
    rw [filter_eq, h]
    rfl
  have hsplit := filter_append_perm (· = uid) uids
  rw [hequal] at hsplit
  refine perm_append_comm.trans ?_
  simpa using hsplit

theorem unequip_same {itemUid : Uid} (h : character.characterEquipment.count itemUid = 1) :
    SamePossessions character (unequip itemUid character) := by
  have hmem : itemUid ∈ character.characterEquipment := count_pos_iff.1 (by omega)
  refine ⟨?_, .refl _⟩
  unfold unequip
  rw [if_pos hmem, append_assoc]
  exact (perm_append_comm.trans (filter_ne_perm h)).append_left _

theorem equip_same {itemUid : Uid} {replaced : List Uid} (h : character.inventory.count itemUid = 1)
    (hreplaced : replaced = character.characterEquipment.filter (· ∈ replaced)) :
    SamePossessions character (equip itemUid replaced character) := by
  refine ⟨?_, .refl _⟩
  show (character.inventory.filter (· ≠ itemUid) ++ replaced ++
    (character.characterEquipment.filter (· ∉ replaced) ++ [itemUid])).Perm _
  have hinventory := filter_ne_perm h
  have hequipment : (replaced ++ character.characterEquipment.filter (· ∉ replaced)).Perm
      character.characterEquipment := by
    have hsplit := filter_append_perm (· ∈ replaced) character.characterEquipment
    rw [← hreplaced] at hsplit
    simpa using hsplit
  have hmove : (replaced ++ (character.characterEquipment.filter (· ∉ replaced) ++ [itemUid])).Perm
      ([itemUid] ++ (replaced ++ character.characterEquipment.filter (· ∉ replaced))) := by
    rw [← append_assoc]
    exact perm_append_comm
  rw [append_assoc]
  refine (hmove.append_left _).trans ?_
  rw [← append_assoc]
  exact hinventory.append hequipment

/-! ## Slots -/

variable (registry : ItemRegistry)

/-- What the registry knows about an item. -/
def templateOf (data : DataDirector) (uid : Uid) : Option ItemTemplate :=
  (data.items uid).bind fun item => registry item.tid

/-- Two items are parts of one kind and occupy a common slot. -/
def Collide (first second : Option ItemTemplate) : Prop :=
  slotsMeet (first.bind ItemTemplate.characterPartSlot)
      (second.bind ItemTemplate.characterPartSlot) = true ∨
    slotsMeet (first.bind ItemTemplate.mountPartSlot)
      (second.bind ItemTemplate.mountPartSlot) = true

/-- No two equipped items of a character collide. -/
def SlotsFree (data : DataDirector) : Prop :=
  ∀ uid character, data.characters uid = some character →
    character.characterEquipment.Pairwise fun first second =>
      ¬Collide (templateOf registry data first) (templateOf registry data second)

/-- Comparing the parts of the new item's kind finds every collision, as it has one kind. -/
theorem isReplaced_of_collide {equipped : ItemTemplate} {equipment : Option ItemTemplate}
    (h : Collide equipment (some equipped)) : isReplaced equipped equipment = true := by
  unfold isReplaced
  obtain hcharacter | hmount := h
  · cases hslot : equipped.characterPartSlot with
    | none =>
      rw [Option.bind_some, hslot] at hcharacter
      cases hequipment : equipment.bind ItemTemplate.characterPartSlot <;>
        simp [slotsMeet, hequipment] at hcharacter
    | some slot =>
      rw [Option.bind_some, hslot] at hcharacter
      simpa using hcharacter
  · cases hslot : equipped.characterPartSlot with
    | none => simpa using hmount
    | some slot =>
      have hnone : equipped.mountPartSlot = none :=
        equipped.exclusive.resolve_left (by simp [hslot])
      rw [Option.bind_some, hnone] at hmount
      cases hequipment : equipment.bind ItemTemplate.mountPartSlot <;>
        simp [slotsMeet, hequipment] at hmount

variable {data : DataDirector}

/-- The replaced uids are those of the items that have to make room. -/
theorem equipmentToReplace_eq {available : Uid → Bool} {uids : List Uid} {equipment : List Item}
    (equipped : ItemTemplate)
    (hrecords : itemStorage.cachedAll available data uids = some equipment)
    (huids : ∀ uid ∈ uids, ∀ item ∈ data.items uid, item.uid = uid) :
    equipmentToReplace registry equipped equipment =
      uids.filter fun uid => isReplaced equipped (templateOf registry data uid) := by
  induction uids generalizing equipment with
  | nil =>
    cases hrecords
    rfl
  | cons uid rest ih =>
    obtain ⟨item, hitem, hrest⟩ := Option.bind_eq_some_iff.1 hrecords
    obtain ⟨records, hothers, rfl⟩ := Option.map_eq_some_iff.1 hrest
    have hstored : data.items uid = some item := by
      unfold Storage.cached at hitem
      split at hitem
      · exact hitem
      · cases hitem
    have hsame : item.uid = uid := huids uid mem_cons_self item hstored
    have hrest := ih hothers fun uid hmem => huids uid (mem_cons_of_mem _ hmem)
    unfold equipmentToReplace at hrest ⊢
    have htemplate : templateOf registry data uid = registry item.tid := by
      rw [templateOf, hstored, Option.bind_some]
    rw [filter_cons, filter_cons, htemplate]
    by_cases hreplaced : isReplaced equipped (registry item.tid) = true
    · rw [if_pos hreplaced, if_pos hreplaced, map_cons, hsame, hrest]
    · rw [if_neg hreplaced, if_neg hreplaced, hrest]

/-! ## Steps -/

/-- The step conserves possessions and leaves no collision, its behaviour is defined, and it changes
no list unless it is answered with OK. -/
structure Keeps (data : DataDirector) (input : EquipmentInput) : Prop where
  conserves : ∀ uid, Option.Rel SamePossessions (data.characters uid)
    ((equipmentStep registry data input).characters uid)
  slotsFree : SlotsFree registry (equipmentStep registry data input)
  defined : (handleEquipment registry input).returned data ≠ some .undefined
  unchanged : (handleEquipment registry input).returned data ≠ some .ok →
    (equipmentStep registry data input).characters = data.characters

/-- The records that the notify after a change takes are available. -/
def Broadcasts (lookups : EquipmentLookups) (data : DataDirector) (equipment : List Uid)
    (mountUid : Uid) : Prop :=
  lookups.characterAgain = true ∧
    (∀ uid ∈ equipment, (itemStorage.cached (lookups.equipmentAgain uid) uid data).isSome = true) ∧
    (horseStorage.cached lookups.mount mountUid data).isSome = true

instance (lookups : EquipmentLookups) (data : DataDirector) (equipment : List Uid)
    (mountUid : Uid) : Decidable (Broadcasts lookups data equipment mountUid) :=
  have := List.decidableBAll (fun uid =>
    (itemStorage.cached (lookups.equipmentAgain uid) uid data).isSome = true) equipment
  inferInstanceAs (Decidable (_ ∧ _ ∧ _))

/-- The item of a command is in the inventory once, and every equipped item can be compared. -/
def Wearable (lookups : EquipmentLookups) (data : DataDirector) (character : Character)
    (uid : Uid) : Prop :=
  ∀ item ∈ itemStorage.find lookups.item uid data, ∀ template ∈ registry item.tid,
    (template.characterPartSlot.isSome || template.mountPartSlot.isSome) = true →
      character.inventory.count uid = 1 ∧
        (∀ other ∈ character.characterEquipment,
          (itemStorage.cached (lookups.equipment other) other data).map Item.uid = some other) ∧
        Broadcasts lookups data
          (uid :: character.characterEquipment.filter fun other =>
            !isReplaced template (templateOf registry data other)) character.mountUid

/-- The condition under which a step conserves possessions.  An item is worn that is in the inventory
once, or taken off that is equipped once, and the records that are used unchecked are available. -/
def Orderly (data : DataDirector) (input : EquipmentInput) : Prop :=
  ∀ character ∈ characterStorage.find input.lookups.character input.caller data,
    match input.command with
    | .wear uid =>
      if uid ∈ character.horses then
        Broadcasts input.lookups data character.characterEquipment uid
      else if uid ∈ character.inventory then Wearable registry input.lookups data character uid
      else True
    | .remove uid =>
      character.characterEquipment.count uid = 1 ∧
        Broadcasts input.lookups data (character.characterEquipment.filter (· ≠ uid))
          character.mountUid

instance (lookups : EquipmentLookups) (data : DataDirector) (character : Character) (uid : Uid) :
    Decidable (Wearable registry lookups data character uid) :=
  have := List.decidableBAll (fun other =>
    (itemStorage.cached (lookups.equipment other) other data).map Item.uid = some other)
      character.characterEquipment
  @Option.decidableForallMem _ _ (fun _ => Option.decidableForallMem _) _

instance (data : DataDirector) : ∀ input, Decidable (Orderly registry data input)
  | ⟨caller, .wear uid, lookups⟩ =>
    inferInstanceAs (Decidable (∀ character ∈ characterStorage.find lookups.character caller data,
      if uid ∈ character.horses then
        Broadcasts lookups data character.characterEquipment uid
      else if uid ∈ character.inventory then Wearable registry lookups data character uid
      else True))
  | ⟨_, .remove _, _⟩ => @Option.decidableForallMem _ _ (fun _ => instDecidableAnd) _

variable {registry}

theorem same_refl (character : Option Character) :
    Option.Rel SamePossessions character character := by
  cases character with
  | none => exact .none
  | some character => exact .some (.refl character)

theorem same_trans {first second third : Option Character}
    (h : Option.Rel SamePossessions first second)
    (h' : Option.Rel SamePossessions second third) : Option.Rel SamePossessions first third := by
  cases h with
  | none => exact h'
  | some hfirst =>
    cases h' with
    | some hsecond => exact .some (hfirst.trans hsecond)

theorem keeps_of_unchanged {input : EquipmentInput} (hfree : SlotsFree registry data)
    (h : (∃ error, handleEquipment registry input data = .error error data) ∨
      handleEquipment registry input data = .ok .cancel data) : Keeps registry data input := by
  have hsame : equipmentStep registry data input = data := by
    obtain ⟨error, herror⟩ | hcancel := h
    · exact final_error herror
    · exact final_ok hcancel
  have hreply : (handleEquipment registry input).returned data ≠ some .undefined := by
    obtain ⟨error, herror⟩ | hcancel := h
    · rw [returned_error herror]
      exact fun hnone => by cases hnone
    · rw [returned_ok hcancel]
      decide
  refine ⟨fun uid => ?_, hsame.symm ▸ hfree, hreply, fun _ => by rw [hsame]⟩
  rw [hsame]
  exact same_refl _

theorem keeps_of_change {input : EquipmentInput} {before : Character}
    (hfree : SlotsFree registry data) (hbefore : data.characters input.caller = some before)
    (after : Character) (h : handleEquipment registry input data =
      .ok .ok (characterStorage.write input.caller after data))
    (hsame : SamePossessions before after)
    (hslots : after.characterEquipment.Pairwise fun first second =>
      ¬Collide (templateOf registry data first) (templateOf registry data second)) :
    Keeps registry data input := by
  have hfinal : equipmentStep registry data input =
      characterStorage.write input.caller after data := final_ok h
  have hcharacters : (equipmentStep registry data input).characters =
      update data.characters input.caller (some after) := by
    rw [hfinal]
    rfl
  refine ⟨fun uid => ?_, fun uid character hcharacter => ?_, ?_, fun hnot => ?_⟩
  · rw [hcharacters]
    by_cases hcaller : uid = input.caller
    · subst hcaller
      rw [update_self, hbefore]
      exact .some hsame
    · rw [update_of_ne hcaller]
      exact same_refl _
  · have htemplates : templateOf registry (equipmentStep registry data input) =
        templateOf registry data := by
      rw [hfinal]
      rfl
    rw [htemplates]
    rw [hcharacters] at hcharacter
    by_cases hcaller : uid = input.caller
    · subst hcaller
      rw [update_self] at hcharacter
      cases hcharacter
      exact hslots
    · rw [update_of_ne hcaller] at hcharacter
      exact hfree uid character hcharacter
  · rw [returned_ok h]
    decide
  · exact absurd (returned_ok h) hnot

variable {lookups : EquipmentLookups} {caller : Uid}

theorem broadcast_ok (hcaller : caller ≠ invalidUid)
    (hcharacter : data.characters caller = some character)
    (h : Broadcasts lookups data character.characterEquipment character.mountUid) :
    broadcastEquipmentUpdate lookups caller data = .ok .ok data := by
  obtain ⟨hagain, hequipment, hmount⟩ := h
  have hfind : characterStorage.find lookups.characterAgain caller data = some character :=
    find_eq_some.2 ⟨hcaller, hagain, hcharacter⟩
  have hall := cachedAll_isSome.2 hequipment
  rw [broadcastEquipmentUpdate, bind_apply, immutable_apply, hfind]
  dsimp only
  rw [bind_apply, get_apply]
  dsimp only
  rw [if_neg (by simp [Option.isNone_iff_eq_none, ← Option.isSome_iff_ne_none, hall]),
    if_neg (by simp [Option.isNone_iff_eq_none, ← Option.isSome_iff_ne_none, hmount])]
  rfl

/-- A change of the caller's lists, with the notify after it. -/
theorem change_ok (change : Character → Character) (available : Bool)
    (hfind : characterStorage.find available caller data = some character)
    (h : Broadcasts lookups data (change character).characterEquipment (change character).mountUid)
    :
    (do characterStorage.mutable available caller change; broadcastEquipmentUpdate lookups caller :
      Effect DataDirector String Reply) data =
        .ok .ok (characterStorage.write caller (change character) data) := by
  obtain ⟨hcaller, -, -⟩ := find_eq_some.1 hfind
  rw [bind_apply, mutable_apply, hfind]
  exact broadcast_ok hcaller (update_self _ _ _) h

theorem mountHorse_mountUid (horseUid : Uid) (character : Character) :
    (mountHorse horseUid character).mountUid = horseUid := by
  unfold mountHorse
  by_cases hmounted : character.mountUid = horseUid
  · rw [if_pos hmounted, hmounted]
  · rw [if_neg hmounted]

theorem mountHorse_equipment (horseUid : Uid) (character : Character) :
    (mountHorse horseUid character).characterEquipment = character.characterEquipment := by
  unfold mountHorse
  split <;> rfl

theorem remove_keeps (hfree : SlotsFree registry data)
    (h : Orderly registry data ⟨caller, .remove uid, lookups⟩) :
    Keeps registry data ⟨caller, .remove uid, lookups⟩ := by
  cases hfind : characterStorage.find lookups.character caller data with
  | none =>
    refine keeps_of_unchanged hfree (.inl ⟨"Value of the record is unavailable", ?_⟩)
    show handleRemoveEquipment lookups caller uid data = _
    rw [handleRemoveEquipment, bind_apply, mutable_apply, hfind]
  | some character =>
    obtain ⟨-, -, hcharacter⟩ := find_eq_some.1 hfind
    obtain ⟨hcount, hbroadcasts⟩ := h character hfind
    have hmem : uid ∈ character.characterEquipment := count_pos_iff.1 (by omega)
    have hequipment : (unequip uid character).characterEquipment =
        character.characterEquipment.filter (· ≠ uid) := if_pos hmem
    refine keeps_of_change hfree hcharacter _
      (change_ok (unequip uid) lookups.character hfind (hequipment ▸ hbroadcasts))
      (unequip_same hcount) ?_
    rw [hequipment]
    exact (hfree caller character hcharacter).filter _

theorem wearHorse_keeps (hfree : SlotsFree registry data)
    (hfind : characterStorage.find lookups.character caller data = some character)
    (hhorse : uid ∈ character.horses) (h : Broadcasts lookups data character.characterEquipment uid)
    :
    Keeps registry data ⟨caller, .wear uid, lookups⟩ := by
  obtain ⟨hcaller, -, hcharacter⟩ := find_eq_some.1 hfind
  have hagain : characterStorage.find true caller data = some character :=
    find_eq_some.2 ⟨hcaller, rfl, hcharacter⟩
  refine keeps_of_change hfree hcharacter (mountHorse uid character) ?_
    (mountHorse_same hhorse) ?_
  · show handleWearEquipment registry lookups caller uid data = _
    rw [handleWearEquipment, bind_apply, immutable_apply, hfind]
    dsimp only
    rw [if_pos hhorse]
    refine change_ok (mountHorse uid) true hagain ?_
    rw [mountHorse_equipment, mountHorse_mountUid]
    exact h
  · rw [mountHorse_equipment]
    exact hfree caller character hcharacter

/-- The equipment after an item was worn has no collision. -/
theorem equip_slots {item : Item} {template : ItemTemplate} (hitem : data.items uid = some item)
    (htemplate : registry item.tid = some template)
    (hslots : character.characterEquipment.Pairwise fun first second =>
      ¬Collide (templateOf registry data first) (templateOf registry data second)) :
    (character.characterEquipment.filter (fun other =>
        !isReplaced template (templateOf registry data other)) ++ [uid]).Pairwise
      fun first second =>
        ¬Collide (templateOf registry data first) (templateOf registry data second) := by
  refine pairwise_append.2 ⟨hslots.filter _, pairwise_singleton _ _, ?_⟩
  intro other hother same hsame hcollide
  rw [mem_singleton.1 hsame] at hcollide
  have hequipped : templateOf registry data uid = some template := by
    rw [templateOf, hitem, Option.bind_some, htemplate]
  rw [hequipped] at hcollide
  obtain ⟨-, hkept⟩ := mem_filter.1 hother
  rw [isReplaced_of_collide hcollide] at hkept
  cases hkept

/-- An item is worn only if it is a part that the registry knows. -/
theorem wearItem_cases (registry : ItemRegistry) (lookups : EquipmentLookups) (caller uid : Uid)
    (character : Character) (data : DataDirector) :
    (∃ error, wearItem registry lookups caller uid character data = .error error data) ∨
      ∃ item template, itemStorage.find lookups.item uid data = some item ∧
        registry item.tid = some template ∧
        (template.characterPartSlot.isSome || template.mountPartSlot.isSome) = true ∧
        wearItem registry lookups caller uid character data =
          wearPart registry lookups caller uid template character data := by
  rw [wearItem, bind_apply, immutable_apply]
  cases hitem : itemStorage.find lookups.item uid data with
  | none => exact .inl ⟨_, rfl⟩
  | some item =>
    dsimp only
    cases htemplate : registry item.tid with
    | none => exact .inl ⟨_, rfl⟩
    | some template =>
      dsimp only
      by_cases hnone : (template.characterPartSlot.isNone && template.mountPartSlot.isNone) = true
      · rw [if_pos hnone]
        exact .inl ⟨_, rfl⟩
      · rw [if_neg hnone]
        refine .inr ⟨item, template, rfl, htemplate, ?_, rfl⟩
        cases hfirst : template.characterPartSlot <;>
          cases hsecond : template.mountPartSlot <;> simp [hfirst, hsecond] at hnone ⊢

theorem wearPart_ok {template : ItemTemplate} {equipment : List Item}
    (hagain : characterStorage.find true caller data = some character)
    (hequipment : itemStorage.cachedAll lookups.equipment data character.characterEquipment =
      some equipment) (h : Broadcasts lookups data
      (equip uid (equipmentToReplace registry template equipment) character).characterEquipment
      character.mountUid) :
    wearPart registry lookups caller uid template character data =
      .ok .ok (characterStorage.write caller
        (equip uid (equipmentToReplace registry template equipment) character) data) := by
  rw [wearPart, bind_apply, get_apply]
  dsimp only
  rw [hequipment]
  exact change_ok _ true hagain h

theorem wearItem_keeps (hfree : SlotsFree registry data)
    (hfind : characterStorage.find lookups.character caller data = some character)
    (hhorse : uid ∉ character.horses) (hinventory : uid ∈ character.inventory)
    (h : Wearable registry lookups data character uid) :
    Keeps registry data ⟨caller, .wear uid, lookups⟩ := by
  obtain ⟨hcaller, -, hcharacter⟩ := find_eq_some.1 hfind
  have hstart : handleEquipment registry ⟨caller, .wear uid, lookups⟩ data =
      wearItem registry lookups caller uid character data := by
    show handleWearEquipment registry lookups caller uid data = _
    rw [handleWearEquipment, bind_apply, immutable_apply, hfind]
    dsimp only
    rw [if_neg hhorse, if_pos hinventory]
  obtain ⟨error, herror⟩ | ⟨item, template, hitem, htemplate, hpart, hwear⟩ :=
    wearItem_cases registry lookups caller uid character data
  · exact keeps_of_unchanged hfree (.inl ⟨error, hstart.trans herror⟩)
  obtain ⟨hcount, hrecords, hbroadcasts⟩ := h item hitem template htemplate hpart
  obtain ⟨-, -, hrecord⟩ := find_eq_some.1 hitem
  have huids : ∀ other ∈ character.characterEquipment, ∀ found ∈ data.items other,
      found.uid = other := by
    intro other hother found hfound
    have hsame := hrecords other hother
    have hstored : itemStorage.records data other = some found := hfound
    unfold Storage.cached at hsame
    split at hsame
    · rw [hstored, Option.map_some, Option.some.injEq] at hsame
      exact hsame
    · cases hsame
  have hall : (itemStorage.cachedAll lookups.equipment data
      character.characterEquipment).isSome = true := by
    refine cachedAll_isSome.2 fun other hother => ?_
    rw [← Option.isSome_map (f := Item.uid), hrecords other hother, Option.isSome_some]
  obtain ⟨equipment, hequipment⟩ := Option.isSome_iff_exists.1 hall
  have hreplaced := equipmentToReplace_eq registry template hequipment huids
  have hkept : character.characterEquipment.filter
      (· ∉ equipmentToReplace registry template equipment) =
      character.characterEquipment.filter fun other =>
        !isReplaced template (templateOf registry data other) := by
    refine filter_congr fun other hother => ?_
    rw [hreplaced]
    simp [hother]
  have hafter : (equip uid (equipmentToReplace registry template equipment)
      character).characterEquipment = character.characterEquipment.filter (fun other =>
        !isReplaced template (templateOf registry data other)) ++ [uid] :=
    congrArg (· ++ [uid]) hkept
  have hagain : characterStorage.find true caller data = some character :=
    find_eq_some.2 ⟨hcaller, rfl, hcharacter⟩
  refine keeps_of_change hfree hcharacter _
    (hstart.trans (hwear.trans (wearPart_ok hagain hequipment ?_)))
    (equip_same hcount ?_) ?_
  · rw [hafter]
    refine ⟨hbroadcasts.1, fun other hother => hbroadcasts.2.1 other ?_, hbroadcasts.2.2⟩
    exact perm_append_comm.mem_iff.1 hother
  · rw [hreplaced]
    refine filter_congr fun other hother => ?_
    simp [hother]
  · rw [hafter]
    exact equip_slots hrecord htemplate (hfree caller character hcharacter)

/-- An orderly step conserves possessions. -/
theorem orderly_keeps (data : DataDirector) (input : EquipmentInput)
    (hfree : SlotsFree registry data) (h : Orderly registry data input) :
    Keeps registry data input := by
  obtain ⟨caller, command, lookups⟩ := input
  cases command with
  | remove uid => exact remove_keeps hfree h
  | wear uid =>
    cases hfind : characterStorage.find lookups.character caller data with
    | none =>
      refine keeps_of_unchanged hfree (.inl ⟨"Value of the record is unavailable", ?_⟩)
      show handleWearEquipment registry lookups caller uid data = _
      rw [handleWearEquipment, bind_apply, immutable_apply, hfind]
    | some character =>
      have horderly := h character hfind
      dsimp only at horderly
      by_cases hhorse : uid ∈ character.horses
      · rw [if_pos hhorse] at horderly
        exact wearHorse_keeps hfree hfind hhorse horderly
      rw [if_neg hhorse] at horderly
      by_cases hinventory : uid ∈ character.inventory
      · rw [if_pos hinventory] at horderly
        exact wearItem_keeps hfree hfind hhorse hinventory horderly
      · refine keeps_of_unchanged hfree (.inr ?_)
        show handleWearEquipment registry lookups caller uid data = _
        rw [handleWearEquipment, bind_apply, immutable_apply, hfind]
        dsimp only
        rw [if_neg hhorse, if_neg hinventory]
        rfl

/-! ## Runs -/

/-- What each step keeps is kept by the run. -/
theorem run_same {inputs : List EquipmentInput}
    (h : Guarded (equipmentStep registry) (Keeps registry) data inputs) (uid : Uid) :
    Option.Rel SamePossessions (data.characters uid)
      ((run (equipmentStep registry) data inputs).characters uid) := by
  induction inputs generalizing data with
  | nil => exact same_refl _
  | cons input rest ih => exact same_trans (h.1.conserves uid) (ih h.2)

variable (registry)

/-- In a run of orderly steps, from equipment without collisions, possessions are conserved. -/
theorem equipping_conserves (data : DataDirector) (inputs : List EquipmentInput)
    (hfree : SlotsFree registry data)
    (h : Guarded (equipmentStep registry) (Orderly registry) data inputs) :
    Guarded (equipmentStep registry) (Keeps registry) data inputs ∧
      ∀ uid, Option.Rel SamePossessions (data.characters uid)
        ((run (equipmentStep registry) data inputs).characters uid) := by
  have hkeeps := h.imp
    (fun data input hfree horderly => (orderly_keeps data input hfree horderly).slotsFree)
    orderly_keeps hfree
  exact ⟨hkeeps, run_same hkeeps⟩

/-- A character with two saddles, of which one is worn, and two horses. -/
def rider : Character :=
  { uid := 1, inventory := [11], characterEquipment := [12], horses := [21], mountUid := 22 }

def stable : DataDirector where
  characters := fun uid => if uid = 1 then some rider else none
  items := fun uid => if uid = 11 ∨ uid = 12 then some { uid := uid, tid := 7 } else none
  horses := fun uid => if uid = 21 ∨ uid = 22 then some { uid := uid } else none

/-- Type identifier 7 is a saddle. -/
def saddles : ItemRegistry := fun tid =>
  if tid = 7 then some { tid := 7, mountPartSlot := some 1 } else none

theorem stable_slotsFree : SlotsFree saddles stable := by
  intro uid character hcharacter
  have hrider : (if uid = 1 then some rider else none) = some character := hcharacter
  split at hrider
  · cases hrider
    exact pairwise_singleton _ _
  · cases hrider

/-- A saddle replaces another one, is taken off, and the mount is changed. -/
theorem equipping_conserves_stable :
    let inputs : List EquipmentInput := [⟨1, .wear 11, {}⟩, ⟨1, .wear 99, {}⟩,
      ⟨1, .wear 12, { item := false }⟩, ⟨1, .remove 11, {}⟩, ⟨1, .wear 21, {}⟩]
    Guarded (equipmentStep saddles) (Keeps saddles) stable inputs ∧
      ∀ uid, Option.Rel SamePossessions (stable.characters uid)
        ((run (equipmentStep saddles) stable inputs).characters uid) :=
  equipping_conserves saddles stable _ stable_slotsFree (by decide +kernel)

theorem same_length {before after : Option Character} (h : Option.Rel SamePossessions before after) :
    after.map (fun character => (character.inventory ++ character.characterEquipment).length) =
      before.map fun character => (character.inventory ++ character.characterEquipment).length := by
  cases h with
  | none => rfl
  | some hsame => exact congrArg some hsame.items.length_eq

/-- Taking off an item that the character does not have puts it into the inventory. -/
theorem removal_invents_item :
    ¬Guarded (equipmentStep saddles) (Keeps saddles) stable [⟨1, .remove 99, {}⟩] := by
  intro hkeeps
  have hlength := same_length (hkeeps.1.conserves 1)
  exact absurd hlength (by decide +kernel)

end Alicia.Possession
