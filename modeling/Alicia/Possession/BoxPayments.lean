import Alicia.Possession.RandomBox

/-!
# Boxes are paid for

A reward and its payment are told by the box that the command names.  They happen together if the reward can be granted in
full and an item of the type of a box can pay, and neither happens if the reward is empty and nothing can pay.
-/

namespace Alicia.Possession

open Transition Effect Data Function Storage Option
variable {held : Held Character}

open DataDirector (characterStorage itemStorage)

section Paid

variable {isBox : Tid → Bool} {lookups : BoxLookups} {reward : BoxReward} {caller itemUid uid : Uid}
  {data middle after : DataDirector} {item : Item}

/-- A consumption changes the middle state. -/
theorem BoxConsumed.changes (h : BoxConsumed isBox caller data middle after) :
    ∃ character, data.characters caller = some character ∧ ∃ uid ∈ character.inventory,
      (∃ item, data.items uid = some item ∧ isBox item.tid = true ∧ 1 ≤ item.count) ∧
      ∃ item, middle.items uid = some item ∧ 1 ≤ item.count ∧ after.items uid ≠ middle.items uid := by
  obtain ⟨character, hcharacter, uid, huid, howned, current, item, held, -, hitem, hconsumed, rfl⟩ := h
  exact ⟨character, hcharacter, uid, huid, howned, item, hitem, hconsumed.enough, hconsumed.ne (by decide) hitem⟩

theorem boxPaid_error {failure : Failure} (hmiddle : (grantBox lookups reward caller).final data = middle)
    (hresult : handleOpenRandomBox lookups reward caller itemUid data = .error failure after) :
    BoxPaid isBox lookups reward caller itemUid data ↔ middle = data ∧ after = data := by
  rw [BoxPaid]
  simp only [hmiddle, hresult]

theorem boxPaid_ok {response : OpenRandomBoxOK} (hmiddle : (grantBox lookups reward caller).final data = middle)
    (hresult : handleOpenRandomBox lookups reward caller itemUid data = .ok response after) :
    BoxPaid isBox lookups reward caller itemUid data ↔
      Granted lookups reward caller data middle ∧ BoxConsumed isBox caller data middle after ∨
        middle = data ∧ after = data := by
  rw [BoxPaid]
  simp only [hmiddle, hresult]

/-- A box that nothing is paid for. -/
theorem boxPaid_idle (hmiddle : (grantBox lookups reward caller).final data = middle)
    (hresult : (∃ failure, handleOpenRandomBox lookups reward caller itemUid data = .error failure middle) ∨
      ∃ response, handleOpenRandomBox lookups reward caller itemUid data = .ok response middle) :
    BoxPaid isBox lookups reward caller itemUid data ↔ middle = data := by
  obtain ⟨failure, hresult⟩ | ⟨response, hresult⟩ := hresult
  · rw [boxPaid_error hmiddle hresult]
    exact and_self_iff
  · rw [boxPaid_ok hmiddle hresult]
    constructor
    · rintro (⟨-, hconsumed⟩ | ⟨hsame, -⟩)
      · obtain ⟨_, _, _, _, _, _, _, _, hne⟩ := hconsumed.changes
        exact absurd rfl hne
      · exact hsame
    · exact fun hsame => .inr ⟨hsame, hsame⟩

/-- A box that one piece of an item is paid for. -/
theorem boxPaid_consumed {current : Character}
    (hmiddle : (grantBox lookups reward caller).final data = middle)
    (hcurrent : middle.characters caller = some current) (hitem : middle.items uid = some item)
    (hconsumed : Consumed 1 uid item ⟨current, middle⟩ held) {listed : Bool}
    (hresult : (listed = false ∧ ∃ failure, handleOpenRandomBox lookups reward caller itemUid data =
        .error failure (characterStorage.write caller held.value held.data)) ∨
      listed = true ∧ ∃ response, handleOpenRandomBox lookups reward caller itemUid data =
        .ok response (characterStorage.write caller held.value held.data)) :
    BoxPaid isBox lookups reward caller itemUid data ↔
      listed = true ∧ Granted lookups reward caller data middle ∧
        ∃ character, data.characters caller = some character ∧ uid ∈ character.inventory ∧
          ∃ item, data.items uid = some item ∧ isBox item.tid = true ∧ 1 ≤ item.count := by
  have hne : (characterStorage.write caller held.value held.data).items uid ≠ middle.items uid :=
    hconsumed.ne (by decide) hitem
  have hchanged : ¬(middle = data ∧ characterStorage.write caller held.value held.data = data) := by
    rintro ⟨hsame, hafter⟩
    rw [hafter, hsame] at hne
    exact hne rfl
  obtain ⟨rfl, failure, hresult⟩ | ⟨rfl, response, hresult⟩ := hresult
  · rw [boxPaid_error hmiddle hresult]
    exact iff_of_false hchanged fun h => Bool.false_ne_true h.1
  · rw [boxPaid_ok hmiddle hresult, or_iff_left hchanged, and_iff_right rfl]
    refine and_congr_right fun _ => ?_
    constructor
    · intro hpaid
      obtain ⟨character, hcharacter, other, hother, howned, _, -, -, hdiffers⟩ := hpaid.changes
      have hsame : other = uid := by
        by_contra hother
        exact hdiffers (hconsumed.others other hother)
      subst hsame
      exact ⟨character, hcharacter, hother, howned⟩
    · rintro ⟨character, hcharacter, huid, howned⟩
      exact ⟨character, hcharacter, uid, huid, howned, current, item, held, hcurrent, hitem, hconsumed, rfl⟩

/-- A box that an item with no pieces is deleted for. -/
theorem not_boxPaid_short (hmiddle : (grantBox lookups reward caller).final data = middle)
    (hitem : middle.items uid = some item) (hshort : ¬1 ≤ item.count)
    (hrecords : held.data.items = update middle.items uid none)
    (hresult : (∃ failure, handleOpenRandomBox lookups reward caller itemUid data =
        .error failure (characterStorage.write caller held.value held.data)) ∨
      ∃ response, handleOpenRandomBox lookups reward caller itemUid data =
        .ok response (characterStorage.write caller held.value held.data)) :
    ¬BoxPaid isBox lookups reward caller itemUid data := by
  have hafter : (characterStorage.write caller held.value held.data).items = update middle.items uid none :=
    hrecords
  have hgone : (characterStorage.write caller held.value held.data).items uid = none := by
    rw [hafter, update_self]
  have hchanged : ¬(middle = data ∧ characterStorage.write caller held.value held.data = data) := by
    rintro ⟨hsame, hback⟩
    rw [hback, ← hsame, hitem] at hgone
    cases hgone
  obtain ⟨failure, hresult⟩ | ⟨response, hresult⟩ := hresult
  · rw [boxPaid_error hmiddle hresult]
    exact hchanged
  · rw [boxPaid_ok hmiddle hresult, or_iff_left hchanged]
    rintro ⟨-, hpaid⟩
    obtain ⟨-, -, other, -, -, found, hfound, hpiece, hdiffers⟩ := hpaid.changes
    by_cases hsame : other = uid
    · subst hsame
      cases hitem.symm.trans hfound
      exact hshort hpiece
    · rw [hafter, update_of_ne hsame] at hdiffers
      exact hdiffers rfl

end Paid

/-! ## The condition is exact -/

section Ready

variable {isBox : Tid → Bool} {lookups : BoxLookups} {reward : BoxReward} {caller itemUid : Uid} {data : DataDirector}
  {character : Character}

theorem rewarded_eq_none :
    rewarded lookups held reward = none ↔ Fails lookups held reward := by
  cases reward with
  | carrots carrotAmount => exact iff_of_false (some_ne_none _) id
  | package package =>
    have hrewarded : rewarded lookups held (.package package) =
      added lookups.item package.tid (.count package.count) held := rfl
    rw [hrewarded, added, Fails]
    by_cases hfound : getItem lookups.item package.tid held = invalidUid
    · rw [if_pos hfound, map_eq_none_iff]
      exact (and_iff_right hfound).symm
    · rw [if_neg hfound]
      refine iff_of_false ?_ fun h => hfound h.1
      cases itemStorage.cached lookups.item.existing (getItem lookups.item package.tid held) held.data with
      | none => exact some_ne_none _
      | some item => exact some_ne_none _

theorem boxPaid_unavailable (hfind : characterStorage.find lookups.character caller data = none) :
    BoxPaid isBox lookups reward caller itemUid data := by
  have hgrant : grantBox lookups reward caller data =
      .error (.thrown "Value of the record is unavailable") data := by
    rw [grantBox, Storage.access, hfind]
  rw [boxPaid_error (final_error hgrant) (bind_error hgrant _)]
  exact ⟨rfl, rfl⟩

theorem boxPaid_fails (hfind : characterStorage.find lookups.character caller data = some character)
    (h : rewarded lookups ⟨character, data⟩ reward = none) : BoxPaid isBox lookups reward caller itemUid data := by
  obtain ⟨-, -, hcharacter⟩ := find_eq_some.1 hfind
  have hself : characterStorage.write caller character data = data := write_self hcharacter
  have hgrant : grantBox lookups reward caller data = .error .terminated data := by
    have hresult := access_error (.thrown "Value of the record is unavailable") hfind (grantReward_fails h)
    dsimp only at hresult
    rw [hself] at hresult
    exact hresult
  rw [boxPaid_error (final_error hgrant) (bind_error hgrant _)]
  exact ⟨rfl, rfl⟩

/-- There is room for the pieces that are added to an item. -/
theorem piece_rewarded (hinvalid : held.data.items invalidUid = none)
    (hgrants : GrantsAll lookups held reward) {uid : Uid} {item : Item}
    (hitem : held.data.items uid = some item) (hpiece : 1 ≤ item.count) :
    1 ≤ item.count + addedPieces lookups held uid reward := by
  cases reward with
  | carrots carrotAmount =>
    rw [addedPieces, UInt32.add_zero]
    exact hpiece
  | package package =>
    rw [addedPieces]
    by_cases hsame : getItem lookups.item package.tid held = uid
    · rw [if_pos hsame]
      have hvalid : getItem lookups.item package.tid held ≠ invalidUid := by
        intro hnone
        rw [← hsame, hnone, hinvalid] at hitem
        cases hitem
      rw [GrantsAll, if_neg hvalid] at hgrants
      obtain ⟨other, hother, hfits⟩ := hgrants
      have hrecord := records_of_cached hother
      rw [hsame] at hrecord
      cases hitem.symm.trans hrecord
      have hroom : item.count.toNat + package.count.toNat < 2 ^ 32 := hfits
      have hone : 1 ≤ item.count.toNat := UInt32.le_iff_toNat_le.1 hpiece
      rw [UInt32.le_iff_toNat_le, UInt32.toNat_add]
      have htoNat : (1 : UInt32).toNat = 1 := rfl
      omega
    · rw [if_neg hsame, UInt32.add_zero]
      exact hpiece

/-- What is found after a reward, in an item that the character had. -/
theorem finds_rewarded {after : Held Character} (hid : held.data.Identified) {uid : Uid}
    (h : rewarded lookups held reward = some (uid, after))
    (hnew : ∀ other ∈ createdUids lookups held reward, other ∉ held.value.inventory)
    (middle : DataDirector) (hmiddle : middle.items = after.data.items) {available : Uid → Bool}
    {tid : Tid} {other : Uid} (hmem : other ∈ held.value.inventory) {item : Item} :
    Finds available tid ⟨after.value, middle⟩ other item ↔
      (∀ created ∈ createdUids lookups held reward, available created = true) ∧ middle.items other = some item ∧
        ∃ earlier, Finds available tid held other earlier := by
  have hcongr : Finds available tid ⟨after.value, middle⟩ other item ↔ Finds available tid after other item :=
    Finds.congr hmiddle rfl
  rw [hcongr, (extends_rewarded hid h hnew).finds_iff hmem, hmiddle]

theorem mem_createdUids {uid : Uid} (h : uid ∈ createdUids lookups held reward) :
    uid ∈ lookups.item.created ∧ held.data.items uid = none := by
  cases reward with
  | carrots carrotAmount => cases h
  | package package =>
    have hcreated := mem_toList.1 h
    rw [createdBy] at hcreated
    split at hcreated
    · obtain ⟨hallocated, -, hempty⟩ := fresh_eq_some.1 hcreated
      exact ⟨hallocated, hempty⟩
    · cases hcreated

section Exact

variable (hid : data.Identified) (hinvalid : data.items invalidUid = none)
  (hfind : characterStorage.find lookups.character caller data = some character) {uid : Uid} {after : Held Character}
  (h : rewarded lookups ⟨character, data⟩ reward = some (uid, after))

include hid hinvalid hfind h

/-- The outcomes after a reward. -/
theorem boxPaid_cases (isBox : Tid → Bool) (itemUid : Uid) {middle : DataDirector}
    (hmiddle : characterStorage.write caller after.value after.data = middle) :
    ((∀ named ∈ itemStorage.find lookups.box itemUid middle, Lacks lookups.consumed named.tid ⟨after.value, middle⟩) ∧
        (BoxPaid isBox lookups reward caller itemUid data ↔ middle = data)) ∨
      ∃ named uid item, itemStorage.find lookups.box itemUid middle = some named ∧
        Finds lookups.consumed named.tid ⟨after.value, middle⟩ uid item ∧
        (BoxPaid isBox lookups reward caller itemUid data ↔ 1 ≤ item.count ∧
          (∀ other ∈ after.value.inventory, (other = uid → item.count ≠ 1) → lookups.listed other = true) ∧
          Granted lookups reward caller data middle ∧ uid ∈ character.inventory ∧
            ∃ item, data.items uid = some item ∧ isBox item.tid = true ∧ 1 ≤ item.count) := by
  obtain ⟨-, -, hcharacter⟩ := find_eq_some.1 hfind
  have hcharacter : data.characters caller = some character := hcharacter
  obtain ⟨response, hgrant⟩ := returned_grantBox h hfind
  rw [hmiddle] at hgrant
  have hfinal := final_ok hgrant
  have hcurrent : middle.characters caller = some after.value := by
    rw [← hmiddle]
    exact update_self ..
  have hself : characterStorage.write caller after.value middle = middle := write_self hcurrent
  have hid' : middle.Identified := by
    rw [← hmiddle]
    exact ⟨(rewarded_identified hid h).items⟩
  have hinvalid' : middle.items invalidUid = none := by
    rw [← hmiddle]
    exact rewarded_invalid hinvalid h
  obtain ⟨hmissing, failure, hresult⟩ | ⟨named, held, hnamed, hheld, hresult⟩ :=
    handleOpenRandomBox_cases h hfind itemUid hmiddle
  · refine .inl ⟨fun named hnamed => ?_, boxPaid_idle hfinal (.inl ⟨failure, hresult⟩)⟩
    cases hmissing.symm.trans hnamed
  · obtain hlacks | ⟨uid, item, hfinds⟩ := lacks_or_finds lookups.consumed named.tid ⟨after.value, middle⟩
    · rw [consumeItem_lacks hlacks] at hheld
      rw [← hheld] at hresult
      dsimp only at hresult
      rw [hself] at hresult
      refine .inl ⟨fun other hother => ?_, boxPaid_idle hfinal ?_⟩
      · cases hnamed.symm.trans hother
        exact hlacks
      · obtain ⟨-, hresult⟩ | ⟨-, hresult⟩ := hresult
        · exact .inl hresult
        · exact .inr hresult
    · refine .inr ⟨named, uid, item, hnamed, hfinds, ?_⟩
      by_cases henough : 1 ≤ item.count
      · obtain ⟨-, hconsumed⟩ := consumeItem_enough hid' hinvalid' hfinds henough
        rw [hheld] at hconsumed
        rw [boxPaid_consumed hfinal hcurrent hfinds.record hconsumed hresult, listed_iff hfinds hconsumed,
          and_iff_right henough]
        refine and_congr_right fun _ => and_congr_right fun _ => ?_
        constructor
        · rintro ⟨other, hother, howned⟩
          cases hcharacter.symm.trans hother
          exact howned
        · exact fun howned => ⟨character, hcharacter, howned⟩
      · obtain ⟨-, hremoved⟩ := consumeItem_short hid' hinvalid' hfinds henough
        have hrecords : held.data.items = update middle.items uid none := by
          rw [← hheld, hremoved]
          exact update_idem ..
        refine iff_of_false (not_boxPaid_short hfinal hfinds.record henough hrecords ?_) fun h => henough h.1
        obtain ⟨-, hresult⟩ | ⟨-, hresult⟩ := hresult
        · exact .inl hresult
        · exact .inr hresult

omit hid hinvalid h in
/-- Without a change the second access has the character and the records of the first one. -/
theorem unchanged_middle (hsame : characterStorage.write caller after.value after.data = data) :
    after.value = character := by
  obtain ⟨-, -, hcharacter⟩ := find_eq_some.1 hfind
  have hrecord := congrArg (fun data : DataDirector => data.characters caller) hsame
  exact some_inj.1 (((update_self ..).symm.trans hrecord).trans hcharacter)

theorem boxPaid_of_nothing (hnothing : GrantsNothing lookups ⟨character, data⟩ reward)
    (hunpayable : Unpayable lookups ⟨character, data⟩ itemUid) : BoxPaid isBox lookups reward caller itemUid data := by
  obtain ⟨-, -, hcharacter⟩ := find_eq_some.1 hfind
  have hmiddle := (middle_eq_iff hcharacter h).2 hnothing
  have hvalue := unchanged_middle hfind hmiddle
  obtain ⟨-, hiff⟩ | ⟨named, uid, item, hnamed, hfinds, -⟩ := boxPaid_cases hid hinvalid hfind h isBox itemUid hmiddle
  · exact hiff.2 rfl
  · rw [hvalue] at hfinds
    exact absurd hfinds (hunpayable named hnamed).not_finds

theorem boxPaid_of_payable (hgrants : GrantsAll lookups ⟨character, data⟩ reward) {uid : Uid} {item : Item}
    (hpayable : Payable lookups ⟨character, data⟩ isBox reward itemUid uid item) :
    BoxPaid isBox lookups reward caller itemUid data := by
  obtain ⟨-, -, hcharacter⟩ := find_eq_some.1 hfind
  obtain ⟨named, hnamed, hbox, hfinds⟩ := hpayable.box
  obtain ⟨hvalid, havailable, hrecord⟩ := find_eq_some.1 hnamed
  -- the records of the inventory are there, so a new item is not listed yet
  have hnew : ∀ other ∈ createdUids lookups ⟨character, data⟩ reward, other ∉ character.inventory := by
    intro other hother hlisted
    have hsome := (cached_isSome.1 (cachedAll_isSome.1 hfinds.available other hlisted)).2
    have hnone : data.items other = none := (mem_createdUids hother).2
    rw [hnone] at hsome
    cases hsome
  have hnamed' := record_rewarded hinvalid hgrants h hrecord
  have hitem' := record_rewarded hinvalid hgrants h hfinds.record
  have hfound : Finds lookups.consumed named.tid ⟨after.value, characterStorage.write caller after.value after.data⟩ uid
      { item with count := item.count + addedPieces lookups ⟨character, data⟩ uid reward } :=
    (finds_rewarded hid h hnew (characterStorage.write caller after.value after.data) rfl hfinds.owned).2 ⟨hpayable.created, hitem', item, hfinds⟩
  have hlookup : itemStorage.find lookups.box itemUid (characterStorage.write caller after.value after.data) =
      some { named with count := named.count + addedPieces lookups ⟨character, data⟩ itemUid reward } :=
    find_eq_some.2 ⟨hvalid, havailable, hnamed'⟩
  obtain ⟨hlacks, -⟩ | ⟨other, uid', item', hother, hfinds', hiff⟩ :=
    boxPaid_cases hid hinvalid hfind h isBox itemUid rfl
  · exact absurd hfound (hlacks _ hlookup).not_finds
  · cases hlookup.symm.trans hother
    obtain ⟨rfl, rfl⟩ := hfound.unique hfinds'
    refine hiff.2 ⟨piece_rewarded hinvalid hgrants hfinds.record hpayable.piece, ?_,
      (granted_iff hcharacter h hid hfind).2 hgrants, hfinds.owned, item, hfinds.record, ?_, hpayable.piece⟩
    · rw [(extends_rewarded hid h hnew).inventory]
      exact hpayable.listed
    · rw [hfinds.type]
      exact hbox

theorem ready_of_boxPaid (hunnamed : Unnamed lookups caller itemUid data)
    (hpaid : BoxPaid isBox lookups reward caller itemUid data) :
    GrantsAll lookups ⟨character, data⟩ reward ∧
        (∃ uid item, Payable lookups ⟨character, data⟩ isBox reward itemUid uid item) ∨
      GrantsNothing lookups ⟨character, data⟩ reward ∧ Unpayable lookups ⟨character, data⟩ itemUid := by
  obtain ⟨-, -, hcharacter⟩ := find_eq_some.1 hfind
  obtain ⟨hlacks, hiff⟩ | ⟨named, uid', item', hnamed, hfinds, hiff⟩ :=
    boxPaid_cases hid hinvalid hfind h isBox itemUid rfl
  · have hmiddle := hiff.1 hpaid
    refine .inr ⟨(middle_eq_iff hcharacter h).1 hmiddle, fun named hnamed => ?_⟩
    rw [hmiddle, unchanged_middle hfind hmiddle] at hlacks
    exact hlacks named hnamed
  · obtain ⟨-, hlisted, hgranted, howned, item, hitem, hbox, hpiece⟩ := hiff.1 hpaid
    have hgrants := (granted_iff hcharacter h hid hfind).1 hgranted
    have hnew : ∀ other ∈ createdUids lookups ⟨character, data⟩ reward, other ∉ character.inventory :=
      fun other hother => (hunnamed other (mem_createdUids hother).1).2 character hfind
    have hextends := extends_rewarded hid h hnew
    obtain ⟨hcreated, hrecord, earlier, hearlier⟩ := (finds_rewarded hid h hnew (characterStorage.write caller after.value after.data) rfl howned).1 hfinds
    cases hitem.symm.trans hearlier.record
    have hcount := some_inj.1 (hrecord.symm.trans (record_rewarded hinvalid hgrants h hitem))
    -- the named item was there before the reward
    obtain ⟨hvalid, havailable, hnamedRecord⟩ := find_eq_some.1 hnamed
    have hnotCreated : itemUid ∉ createdUids lookups ⟨character, data⟩ reward :=
      fun hmem => (hunnamed itemUid (mem_createdUids hmem).1).1 rfl
    have htype := hextends.types itemUid hnotCreated
    have hnamedType : typeOf after itemUid = some named.tid := congrArg (Option.map Item.tid) hnamedRecord
    rw [hnamedType] at htype
    obtain ⟨before, hbefore, hbeforeType⟩ := map_eq_some_iff.1 htype.symm
    refine .inl ⟨hgrants, uid', item, ⟨before, find_eq_some.2 ⟨hvalid, havailable, hbefore⟩, ?_, ?_⟩, hpiece,
      hcreated, ?_⟩
    · rw [hbeforeType, ← hearlier.type]
      exact hbox
    · rw [hbeforeType]
      exact hearlier
    · rw [hcount, hextends.inventory] at hlisted
      exact hlisted

end Exact

/-- A box is paid for if it is ready; and it is ready if it is paid for and the uid of a new record is not in use. -/
theorem box_paid (isBox : Tid → Bool) (lookups : BoxLookups) {packages : List Package} (outcome : BoxOutcome packages)
    (caller itemUid : Uid) (data : DataDirector) (hid : data.Identified) (hinvalid : data.items invalidUid = none) :
    (BoxReady isBox lookups outcome.reward caller itemUid data →
        BoxPaid isBox lookups outcome.reward caller itemUid data) ∧
      (Unnamed lookups caller itemUid data → BoxPaid isBox lookups outcome.reward caller itemUid data →
        BoxReady isBox lookups outcome.reward caller itemUid data) := by
  constructor
  · intro hready
    cases hfind : characterStorage.find lookups.character caller data with
    | none => exact boxPaid_unavailable hfind
    | some character =>
      cases hrewarded : rewarded lookups ⟨character, data⟩ outcome.reward with
      | none => exact boxPaid_fails hfind hrewarded
      | some result =>
        obtain hfails | ⟨hgrants, uid, item, hpayable⟩ | ⟨hnothing, hunpayable⟩ := hready character hfind
        · cases hrewarded.symm.trans (rewarded_eq_none.2 hfails)
        · exact boxPaid_of_payable hid hinvalid hfind hrewarded hgrants hpayable
        · exact boxPaid_of_nothing hid hinvalid hfind hrewarded hnothing hunpayable
  · intro hunnamed hpaid character hfind
    cases hrewarded : rewarded lookups ⟨character, data⟩ outcome.reward with
    | none => exact .inl (rewarded_eq_none.1 hrewarded)
    | some result => exact .inr (ready_of_boxPaid hid hinvalid hfind hrewarded hunnamed hpaid)

/-- One package, and the draw of 200 carrots. -/
def fewCarrots : BoxOutcome [{ packageId := 1001, count := 3, tid := 41007 }] := .carrots 0

/-- A character with one box. -/
def boxKeeper : DataDirector where
  characters uid := if uid = 1 then some { uid := 1, inventory := [3] } else none
  items uid := if uid = 3 then some { uid := 3, tid := 7, count := 1 } else none

theorem boxKeeper_identified : boxKeeper.Identified := by
  refine ⟨fun uid item hitem => ?_⟩
  have hitem : (if uid = 3 then some ({ uid := 3, tid := 7, count := 1 } : Item) else none) = some item := hitem
  split at hitem
  · next huid =>
      cases hitem
      exact huid.symm
  · cases hitem

theorem box_paid_keeper : BoxPaid (· = 7) {} fewCarrots.reward 1 3 boxKeeper := by
  refine (box_paid (· = 7) {} fewCarrots 1 3 boxKeeper boxKeeper_identified rfl).1 ?_
  rintro character ⟨⟩
  have hfinds : Finds (fun _ => true) 7 ⟨{ uid := 1, inventory := [3] }, boxKeeper⟩ 3 { uid := 3, tid := 7, count := 1 } :=
    ⟨rfl, rfl, rfl⟩
  have hroom : (0 : Int32).toInt + (200 : UInt32).toNat < 2 ^ 31 := by decide
  refine .inr (.inl ⟨hroom, 3, { uid := 3, tid := 7, count := 1 }, ⟨_, rfl, rfl, hfinds⟩, by decide, ?_, ?_⟩)
  · exact fun _ _ => rfl
  · exact fun _ _ _ => rfl

/-- Without an item the carrots are granted before the command fails. -/
theorem unpaid_granted : ¬BoxPaid (· = 7) {} fewCarrots.reward 1 0 boxKeeper := by
  have hresult : handleOpenRandomBox {} fewCarrots.reward 1 0 boxKeeper =
      .error (.thrown "Value of the record is unavailable")
        ((handleOpenRandomBox {} fewCarrots.reward 1 0).final boxKeeper) := rfl
  rw [boxPaid_error rfl hresult]
  rintro ⟨hsame, -⟩
  have hcarrots := congrArg (fun data : DataDirector => (data.characters 1).map Character.carrots) hsame
  exact absurd hcarrots (by decide +kernel)

end Ready

end Alicia.Possession
