import Alicia.Magic.Offers

/-!
# The fairness of the eggs

The runs of commands in which each offer, answer and pickup meets the condition are those along which the
eggs are fair.  What is carried along is that the event items of a race have different serials.
-/

namespace Alicia.Magic

open Std (ExtTreeMap)
open Transition Data List

/-- Each event item has a serial of its own, and what was given had one too. -/
structure Numbered (race : RaceInstance) : Prop where
  fresh : ∀ (uid : Uid) (racer : Racer), race.racers[uid]? = some racer →
    ∀ item ∈ racer.eventItems, item.serial < race.created.length
  unique : ∀ (uid other : Uid) (racer otherRacer : Racer), race.racers[uid]? = some racer →
    race.racers[other]? = some otherRacer → ∀ item ∈ racer.eventItems, ∀ otherItem ∈ otherRacer.eventItems,
      item.serial = otherItem.serial → uid = other ∧ item = otherItem
  gifts : ∀ gift ∈ race.gifts, gift.serial < race.created.length

/-- A race in which nothing has happened to eggs. -/
structure NoEggs (race : RaceInstance) : Prop where
  offered : race.offered = []
  created : race.created = []
  gifts : race.gifts = []
  eventItems : ∀ (uid : Uid) (racer : Racer), race.racers[uid]? = some racer → racer.eventItems = []

theorem NoEggs.fair {race : RaceInstance} (h : NoEggs race) : Fair race := by
  refine ⟨fun uid => ?_, fun uid => ?_, ?_, fun gift hgift => ?_, fun gift hgift => ?_⟩
  · rw [h.offered]
    exact Nat.zero_le 1
  · rw [h.created]
    exact Nat.zero_le _
  · rw [h.gifts]
    exact nodup_nil
  · rw [h.gifts] at hgift
    cases hgift
  · rw [h.gifts] at hgift
    cases hgift

theorem NoEggs.numbered {race : RaceInstance} (h : NoEggs race) : Numbered race := by
  refine ⟨fun uid racer hracer item hitem => ?_, fun uid _ racer _ hracer _ item hitem => ?_, fun gift hgift => ?_⟩
  · rw [h.eventItems uid racer hracer] at hitem
    cases hitem
  · rw [h.eventItems uid racer hracer] at hitem
    cases hitem
  · rw [h.gifts] at hgift
    cases hgift

/-! ## What nothing happens to -/

section Same

variable {before after : RaceInstance}

theorem SameEggs.racer (h : SameEggs before after) {uid : Uid} {racer : Racer}
    (hracer : after.racers[uid]? = some racer) :
    ∃ old, before.racers[uid]? = some old ∧ old.eventItems = racer.eventItems := by
  have hitems := h.eventItems uid
  rw [hracer] at hitems
  exact Option.map_eq_some_iff.1 hitems.symm

theorem SameEggs.fair (h : SameEggs before after) (hfair : Fair before) : Fair after := by
  refine ⟨?_, ?_, ?_, ?_, ?_⟩
  · rw [h.offered]
    exact hfair.offered
  · rw [h.created, h.offered]
    exact hfair.answered
  · rw [h.gifts]
    exact hfair.given
  · rw [h.gifts]
    intro gift hgift uid racer hracer
    obtain ⟨old, hold, hitems⟩ := h.racer hracer
    rw [← hitems]
    exact hfair.gone gift hgift uid old hold
  · rw [h.gifts]
    exact hfair.new

theorem SameEggs.numbered (h : SameEggs before after) (hnumbered : Numbered before) : Numbered after := by
  refine ⟨?_, ?_, ?_⟩
  · intro uid racer hracer
    obtain ⟨old, hold, hitems⟩ := h.racer hracer
    rw [← hitems, h.created]
    exact hnumbered.fresh uid old hold
  · intro uid other racer otherRacer hracer hother
    obtain ⟨old, hold, hitems⟩ := h.racer hracer
    obtain ⟨oldOther, holdOther, hotherItems⟩ := h.racer hother
    rw [← hitems, ← hotherItems]
    exact hnumbered.unique uid other old oldOther hold holdOther
  · rw [h.gifts, h.created]
    exact hnumbered.gifts

theorem SameEggs.symm (h : SameEggs before after) : SameEggs after before :=
  ⟨h.data.symm, h.offered.symm, h.created.symm, h.gifts.symm, fun uid => (h.eventItems uid).symm⟩

end Same

variable {oid : UInt16}

/-! ## Offers, answers and pickups -/

section Steps

variable {race : RaceInstance} {uid : Uid}

theorem fair_offered_iff (hfair : Fair race) :
    Fair { race with offered := race.offered ++ [uid] } ↔ uid ∉ race.offered := by
  constructor
  · intro h hmem
    have hcount : (race.offered ++ [uid]).count uid ≤ 1 := h.offered uid
    have hpos := count_pos_iff.2 hmem
    rw [count_append, count_singleton_self] at hcount
    omega
  · intro hnew
    refine ⟨fun other => ?_, fun other => ?_, hfair.given, hfair.gone, hfair.new⟩
    · show (race.offered ++ [uid]).count other ≤ 1
      rw [count_append]
      by_cases hother : uid = other
      · subst hother
        rw [count_eq_zero.2 hnew, count_singleton_self]
      · rw [count_singleton, if_neg (by simpa using hother)]
        exact hfair.offered other
    · refine (hfair.answered other).trans ?_
      show race.offered.count other ≤ (race.offered ++ [uid]).count other
      rw [count_append]
      exact Nat.le_add_right _ _

theorem numbered_offered (hnumbered : Numbered race) : Numbered { race with offered := race.offered ++ [uid] } :=
  ⟨hnumbered.fresh, hnumbered.unique, hnumbered.gifts⟩

variable {itemType : UInt32}

/-- The event items of a racer behind the creation of one. -/
theorem racer_withEventItem {other : Uid} {racer : Racer}
    (hracer : (withEventItem uid itemType race).racers[other]? = some racer) :
    ∃ old, race.racers[other]? = some old ∧ ∀ item ∈ racer.eventItems, item ∈ old.eventItems ∨
      other = uid ∧ item = ⟨race.nextItemDeckOid, itemType, race.created.length⟩ := by
  have hlookup := (getElem?_updateRacer uid other _ race).symm.trans hracer
  by_cases hother : other = uid
  · rw [if_pos hother] at hlookup
    obtain ⟨old, hold, rfl⟩ := Option.map_eq_some_iff.1 hlookup
    refine ⟨old, hold, fun item hitem => ?_⟩
    rcases mem_append.1 hitem with hitem | hitem
    · exact .inl hitem
    · exact .inr ⟨hother, mem_singleton.1 hitem⟩
  · rw [if_neg hother] at hlookup
    exact ⟨racer, hlookup, fun _ hitem => .inl hitem⟩

theorem fair_withEventItem_iff (hfair : Fair race) (hnumbered : Numbered race) :
    Fair (withEventItem uid itemType race) ↔ race.created.count uid < race.offered.count uid := by
  have hcount : (race.created ++ [uid]).count uid = race.created.count uid + 1 := by
    rw [count_append, count_singleton_self]
  constructor
  · intro h
    have hanswered : (race.created ++ [uid]).count uid ≤ race.offered.count uid := h.answered uid
    omega
  · intro hopen
    refine ⟨hfair.offered, fun other => ?_, hfair.given, ?_, hfair.new⟩
    · show (race.created ++ [uid]).count other ≤ race.offered.count other
      by_cases hother : uid = other
      · subst hother
        omega
      · rw [count_append, count_singleton, if_neg (by simpa using hother)]
        exact hfair.answered other
    · intro gift hgift other racer hracer item hitem
      obtain ⟨old, hold, hitems⟩ := racer_withEventItem hracer
      rcases hitems item hitem with hitem | ⟨-, rfl⟩
      · exact hfair.gone gift hgift other old hold item hitem
      · exact (hnumbered.gifts gift hgift).ne'

theorem numbered_withEventItem (hnumbered : Numbered race) :
    Numbered (withEventItem uid itemType race) := by
  have hlength : (withEventItem uid itemType race).created.length = race.created.length + 1 :=
    length_append
  refine ⟨?_, ?_, ?_⟩
  · intro other racer hracer item hitem
    obtain ⟨old, hold, hitems⟩ := racer_withEventItem hracer
    rw [hlength]
    rcases hitems item hitem with hitem | ⟨-, rfl⟩
    · exact (hnumbered.fresh other old hold item hitem).trans (Nat.lt_succ_self _)
    · exact Nat.lt_succ_self _
  · intro first second racer otherRacer hracer hother item hitem otherItem hotherItem hserial
    obtain ⟨old, hold, hitems⟩ := racer_withEventItem hracer
    obtain ⟨oldOther, holdOther, hotherItems⟩ := racer_withEventItem hother
    -- the new item has a serial that none of the others has
    rcases hitems item hitem with hitem | ⟨hfirst, rfl⟩
    · rcases hotherItems otherItem hotherItem with hotherItem | ⟨-, rfl⟩
      · exact hnumbered.unique first second old oldOther hold holdOther item hitem otherItem hotherItem hserial
      · exact absurd hserial (hnumbered.fresh first old hold item hitem).ne
    · rcases hotherItems otherItem hotherItem with hotherItem | ⟨hsecond, rfl⟩
      · exact absurd hserial (hnumbered.fresh second oldOther holdOther otherItem hotherItem).ne'
      · exact ⟨hfirst.trans hsecond.symm, rfl⟩
  · intro gift hgift
    rw [hlength]
    exact (hnumbered.gifts gift hgift).trans (Nat.lt_succ_self _)

/-- The event items of a racer behind the removal of one. -/
theorem racer_withoutEventItem {other : Uid} {racer : Racer}
    (hracer : (withoutEventItem uid oid race).racers[other]? = some racer) :
    ∃ old, race.racers[other]? = some old ∧ ∀ item ∈ racer.eventItems,
      item ∈ old.eventItems ∧ (other = uid → item.oid ≠ oid) := by
  have hlookup := (getElem?_updateRacer uid other _ race).symm.trans hracer
  by_cases hother : other = uid
  · rw [if_pos hother] at hlookup
    obtain ⟨old, hold, rfl⟩ := Option.map_eq_some_iff.1 hlookup
    refine ⟨old, hold, fun item hitem => ?_⟩
    obtain ⟨hmem, hoid⟩ := mem_filter.1 hitem
    exact ⟨hmem, fun _ => of_decide_eq_true hoid⟩
  · rw [if_neg hother] at hlookup
    exact ⟨racer, hlookup, fun _ hitem => ⟨hitem, fun h => absurd h hother⟩⟩

theorem fair_withoutEventItem (hfair : Fair race) : Fair (withoutEventItem uid oid race) := by
  refine ⟨hfair.offered, hfair.answered, hfair.given, ?_, hfair.new⟩
  intro gift hgift other racer hracer item hitem
  obtain ⟨old, hold, hitems⟩ := racer_withoutEventItem hracer
  exact hfair.gone gift hgift other old hold item (hitems item hitem).1

theorem numbered_withoutEventItem (hnumbered : Numbered race) :
    Numbered (withoutEventItem uid oid race) := by
  refine ⟨?_, ?_, hnumbered.gifts⟩
  · intro other racer hracer item hitem
    obtain ⟨old, hold, hitems⟩ := racer_withoutEventItem hracer
    exact hnumbered.fresh other old hold item (hitems item hitem).1
  · intro first second racer otherRacer hracer hother item hitem otherItem hotherItem
    obtain ⟨old, hold, hitems⟩ := racer_withoutEventItem hracer
    obtain ⟨oldOther, holdOther, hotherItems⟩ := racer_withoutEventItem hother
    exact hnumbered.unique first second old oldOther hold holdOther item (hitems item hitem).1 otherItem
      (hotherItems otherItem hotherItem).1

section Gift

variable {racer : Racer} {item : EventItem} {data : DataDirector} {wasOwned : Bool}
  (hracer : race.racers[uid]? = some racer) (hitem : item ∈ racer.eventItems)

include hracer hitem

theorem numbered_withGift (hnumbered : Numbered race) :
    Numbered (withGift data ⟨item.serial, uid, wasOwned⟩ race) := by
  refine ⟨hnumbered.fresh, hnumbered.unique, fun gift hgift => ?_⟩
  rcases mem_append.1 hgift with hgift | hgift
  · exact hnumbered.gifts gift hgift
  · rw [mem_singleton.1 hgift]
    exact hnumbered.fresh uid racer hracer item hitem

/-- An egg was given, and its event item is gone. -/
theorem fair_given_iff (hfair : Fair race) (hnumbered : Numbered race) :
    Fair (withoutEventItem uid item.oid (withGift data ⟨item.serial, uid, wasOwned⟩ race)) ↔
      wasOwned = false := by
  constructor
  · intro h
    exact h.new ⟨item.serial, uid, wasOwned⟩ (mem_append_right _ (mem_singleton.2 rfl))
  · intro hnew
    refine ⟨hfair.offered, hfair.answered, ?_, ?_, ?_⟩
    · show ((race.gifts ++ [(⟨item.serial, uid, wasOwned⟩ : Gift)]).map Gift.serial).Nodup
      rw [map_append, nodup_append, map_singleton]
      refine ⟨hfair.given, nodup_singleton _, fun first hfirst second hsecond => ?_⟩
      obtain ⟨gift, hgift, rfl⟩ := mem_map.1 hfirst
      rw [mem_singleton.1 hsecond]
      exact (hfair.gone gift hgift uid racer hracer item hitem).symm
    · intro gift hgift other otherRacer hother otherItem hotherItem
      obtain ⟨old, hold, hitems⟩ := racer_withoutEventItem hother
      obtain ⟨hmem, hoid⟩ := hitems otherItem hotherItem
      rcases mem_append.1 hgift with hgift | hgift
      · exact hfair.gone gift hgift other old hold otherItem hmem
      · rw [mem_singleton.1 hgift]
        intro hserial
        obtain ⟨hsame, rfl⟩ := hnumbered.unique other uid old racer hold hracer otherItem hmem item hitem hserial
        exact hoid hsame rfl
    · intro gift hgift
      rcases mem_append.1 hgift with hgift | hgift
      · exact hfair.new gift hgift
      · rw [mem_singleton.1 hgift]
        exact hnew

/-- An egg was given, and its event item is still there. -/
theorem not_fair_stuck : ¬Fair (withGift data ⟨item.serial, uid, wasOwned⟩ race) := fun h =>
  h.gone ⟨item.serial, uid, wasOwned⟩ (mem_append_right _ (mem_singleton.2 rfl)) uid racer hracer
    item hitem rfl

end Gift

end Steps

/-! ## Runs -/

theorem getRacer_racers {around : Surroundings} {client : ClientId} {race : RaceInstance} {uid : Uid}
    {racer : Racer} (h : around.getRacer client race = .ok (uid, racer)) : race.racers[uid]? = some racer := by
  rw [Surroundings.getRacer] at h
  cases hcontext : around.getClientContext client with
  | error failure =>
    rw [hcontext] at h
    cases h
  | ok context =>
    rw [hcontext] at h
    change (if context.roomUid = invalidUid then _ else _) = _ at h
    split at h
    · cases h
    · split at h
      · cases h
      · cases hracer : race.racers[context.characterUid]? with
        | none =>
          rw [hracer] at h
          cases h
        | some found =>
          rw [hracer] at h
          cases h
          exact hracer

theorem findEventItem_spec {racer : Racer} {item : EventItem}
    (h : findEventItem racer oid = some item) : item ∈ racer.eventItems ∧ item.oid = oid := by
  obtain ⟨hfind, -⟩ := Option.filter_eq_some_iff.1 h
  have hoid := List.find?_some hfind
  exact ⟨mem_of_find?_eq_some hfind, of_decide_eq_true hoid⟩

section Run

variable {registry : Registry} {race : RaceInstance} {input : EggInput}

/-- A command is as expected exactly where the condition holds. -/
theorem answers_iff (hfair : Fair race) (hnumbered : Numbered race) :
    Answers registry race input ↔ EggSound registry race input := by
  obtain ⟨around, command⟩ := input
  cases command with
  | loadingComplete client lookups =>
    refine Iff.trans ?_ (and_iff_left trivial).symm
    show (∀ uid racer character, Offers registry around client lookups race uid racer character → _) ↔
      Fair ((handleLoadingComplete registry around client lookups).final race)
    cases @loadingOutcome registry around client lookups race with
    | same h hnone =>
      exact iff_of_true (fun uid racer character hoffers => absurd hoffers (hnone uid racer character))
        (h.fair hfair)
    | offered uid racer character hoffers h =>
      have hiff : Fair ((handleLoadingComplete registry around client lookups).final race) ↔
          uid ∉ race.offered := ⟨fun hafter => (fair_offered_iff hfair).1 (h.symm.fair hafter),
            fun hnew => h.fair ((fair_offered_iff hfair).2 hnew)⟩
      rw [hiff]
      refine ⟨fun hall => hall uid racer character hoffers, fun hnew uid' racer' character' hoffers' => ?_⟩
      cases hoffers.invoker.symm.trans hoffers'.invoker
      exact hnew
  | gameCreateClientItem client unk1 lookups =>
    refine Iff.trans ?_ (and_iff_left trivial).symm
    show (∀ uid racer egg, Creates registry around client unk1 lookups race uid racer egg → _) ↔
      Fair ((handleGameCreateClientItem registry around client unk1 lookups).final race)
    have houtcome := @createOutcome registry around client unk1 lookups race
    generalize (handleGameCreateClientItem registry around client unk1 lookups).final race = after at houtcome ⊢
    cases houtcome with
    | same hnone =>
      exact iff_of_true (fun uid racer egg hcreates => absurd hcreates (hnone uid racer egg)) hfair
    | created uid racer egg hcreates =>
      rw [fair_withEventItem_iff hfair hnumbered]
      refine ⟨fun hall => hall uid racer egg hcreates, fun hopen uid' racer' egg' hcreates' => ?_⟩
      cases hcreates.invoker.symm.trans hcreates'.invoker
      exact hopen
  | userRaceItemGet client command lookups =>
    show (∀ uid racer item egg, Gives registry around client command lookups race uid racer item egg → _) ↔
      Fair ((handleUserRaceItemGet registry around client command lookups).final race) ∧
        (¬(handleUserRaceItemGet registry around client command lookups).Completes race →
          SameEggs race ((handleUserRaceItemGet registry around client command lookups).final race))
    cases @pickupOutcome registry around client command lookups race with
    | same h hnone =>
      exact iff_of_true (fun uid racer item egg hgives => absurd hgives (hnone uid racer item egg))
        ⟨h.fair hfair, fun _ => h⟩
    | removed uid h hcompletes hnone =>
      exact iff_of_true (fun uid racer item egg hgives => absurd hgives (hnone uid racer item egg))
        ⟨h.fair (fair_withoutEventItem hfair), fun hnot => absurd hcompletes hnot⟩
    | given uid racer item egg data hgives hreachable hcompletes h =>
      obtain ⟨hitem, hoid⟩ := findEventItem_spec hgives.eventItem
      have hiff := @fair_given_iff race uid racer item data (owns egg.tid uid race.data)
        (getRacer_racers hgives.invoker) hitem hfair hnumbered
      rw [hoid] at hiff
      refine Iff.trans ?_ (and_iff_left fun hnot => absurd hcompletes hnot).symm
      constructor
      · intro hall
        exact h.fair (hiff.2 (hall uid racer item egg hgives).1)
      · intro hafter uid' racer' item' egg' hgives'
        cases hgives.invoker.symm.trans hgives'.invoker
        cases hgives.eventItem.symm.trans hgives'.eventItem
        cases hgives.eggInfo.symm.trans hgives'.eggInfo
        exact ⟨hiff.1 (h.symm.fair hafter), hreachable⟩
    | stuck uid racer item egg data hgives hreachable h =>
      have hitem := (findEventItem_spec hgives.eventItem).1
      refine iff_of_false (fun hall => hreachable (hall uid racer item egg hgives).2) fun hafter => ?_
      exact not_fair_stuck (getRacer_racers hgives.invoker) hitem (h.symm.fair hafter.1)

theorem numbered_step (hnumbered : Numbered race) : Numbered (eggStep registry race input) := by
  obtain ⟨around, command⟩ := input
  cases command with
  | loadingComplete client lookups =>
    show Numbered ((handleLoadingComplete registry around client lookups).final race)
    cases @loadingOutcome registry around client lookups race with
    | same h hnone => exact h.numbered hnumbered
    | offered uid racer character hoffers h => exact h.numbered (numbered_offered hnumbered)
  | gameCreateClientItem client unk1 lookups =>
    show Numbered ((handleGameCreateClientItem registry around client unk1 lookups).final race)
    have houtcome := @createOutcome registry around client unk1 lookups race
    generalize (handleGameCreateClientItem registry around client unk1 lookups).final race = after at houtcome ⊢
    cases houtcome with
    | same hnone => exact hnumbered
    | created uid racer egg hcreates => exact numbered_withEventItem hnumbered
  | userRaceItemGet client command lookups =>
    show Numbered ((handleUserRaceItemGet registry around client command lookups).final race)
    cases @pickupOutcome registry around client command lookups race with
    | same h hnone => exact h.numbered hnumbered
    | removed uid h hcompletes hnone => exact h.numbered (numbered_withoutEventItem hnumbered)
    | given uid racer item egg data hgives hreachable hcompletes h =>
      exact h.numbered (numbered_withoutEventItem (numbered_withGift (getRacer_racers hgives.invoker)
        (findEventItem_spec hgives.eventItem).1 hnumbered))
    | stuck uid racer item egg data hgives hreachable h =>
      exact h.numbered (numbered_withGift (getRacer_racers hgives.invoker)
        (findEventItem_spec hgives.eventItem).1 hnumbered)

/-- From a race in which nothing has happened to eggs, the commands are as expected all along exactly if
each of them meets the condition. -/
theorem eggs_fair (registry : Registry) {start : RaceInstance} (hstart : NoEggs start)
    (inputs : List EggInput) :
    Guarded (eggStep registry) (EggSound registry) start inputs ↔
      Guarded (eggStep registry) (Answers registry) start inputs := by
  symm
  refine @guarded_congr _ _ _ _ _ (fun race => Fair race ∧ Numbered race) ?_ ?_ start inputs
    ⟨hstart.fair, hstart.numbered⟩
  · rintro race input ⟨hfair, hnumbered⟩ hgood
    exact ⟨((answers_iff hfair hnumbered).1 hgood).1, numbered_step hnumbered⟩
  · rintro race input ⟨hfair, hnumbered⟩
    exact answers_iff hfair hnumbered

end Run

/-- A race of one racer, whose character is old enough for eggs. -/
def hatchery : RaceInstance where
  racers := (∅ : ExtTreeMap Uid Racer).insert 100 { oid := 1 }
  data := {
    characters := fun uid => if uid = 100 then some { uid := 100, level := 20, mountUid := 7 } else none
    horses := fun uid => if uid = 7 then some { uid := 7 } else none }

theorem noEggs_hatchery : NoEggs hatchery := by
  refine ⟨rfl, rfl, rfl, fun uid racer hracer => ?_⟩
  have hlookup := (Collection.getElem?_insert_self_or_ne _ _ _ _).symm.trans hracer
  split at hlookup
  · cases hlookup
    rfl
  · cases hlookup

/-- The loading of the racer. -/
def hatching : EggInput where
  around := {
    clients := [(5, { characterUid := 100, roomUid := 1, isAuthenticated := true })]
    players := some [(100, 5)] }
  command := .loadingComplete 5 {}

theorem eggs_fair_hatchery : Guarded (eggStep {}) (EggSound {}) hatchery [hatching] :=
  (eggs_fair {} noEggs_hatchery [hatching]).2
    ⟨fun _ _ _ _ hmem => absurd hmem List.not_mem_nil, trivial⟩

/-- A racer who completes the loading again is offered another egg. -/
theorem eggs_offered_twice : ¬Guarded (eggStep {}) (EggSound {}) hatchery [hatching, hatching] := by
  rintro ⟨-, ⟨hfair, -⟩, -⟩
  exact absurd (hfair.offered 100) (by decide +kernel)

end Alicia.Magic
