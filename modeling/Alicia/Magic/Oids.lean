import Alicia.Magic.Races
import Alicia.Magic.Fairness
import Alicia.Magic.Frames

/-!
# Object ids

The item decks and the event items of a race share one counter of sixteen bits, and the racers have another
one, which goes on from race to race.  Neither is checked for an overflow where an event item or a racer is
added, so all ids are different as long as the counters have not come round to the invalid id.
-/

namespace Alicia.Magic

open Std (ExtTreeMap)
open Transition Effect Data RaceTracker List Option Collection
open DataDirector (characterStorage)
open Possession (hasItem)
open Race (TeamColor Instant)

/-! ## The system -/

/-- What happens to the races of a room. -/
inductive TrackerInput where
  | start (lookups : StartLookups)
  | magic (input : MagicInput)
  | egg (input : EggInput)

def trackerStep (registry : Registry) (tracker : RaceTracker) : TrackerInput → RaceTracker
  | .start lookups => startRace lookups tracker
  | .magic input => tracker.setRace (magicStep registry tracker.race input)
  | .egg input => tracker.setRace (eggStep registry tracker.race input)

/-- A room before its first race. -/
def RaceTracker.opened (race : RaceInstance) : RaceTracker := { race := race.clear }

/-! ## The purpose of the ids -/

/-- The objects of a race have different ids, and so have the racers, and none is the invalid one.  The decks
are kept by their ids. -/
structure DistinctOids (race : RaceInstance) : Prop where
  decks : invalidEntityOid ∉ race.itemDecks
  items : ∀ (uid : Uid) (racer : Racer), race.racers[uid]? = some racer → ∀ item ∈ racer.eventItems,
    item.oid ≠ invalidEntityOid ∧ item.oid ∉ race.itemDecks
  own : ∀ (uid : Uid) (racer : Racer), race.racers[uid]? = some racer →
    (racer.eventItems.map EventItem.oid).Nodup
  apart : ∀ (uid other : Uid) (racer rival : Racer), race.racers[uid]? = some racer →
    race.racers[other]? = some rival → uid ≠ other →
      ∀ item ∈ racer.eventItems, ∀ another ∈ rival.eventItems, item.oid ≠ another.oid
  racers : ∀ (uid : Uid) (racer : Racer), race.racers[uid]? = some racer → racer.oid ≠ invalidEntityOid
  unique : ∀ (uid other : Uid) (racer rival : Racer), race.racers[uid]? = some racer →
    race.racers[other]? = some rival → racer.oid = rival.oid → uid = other

/-- A character that races again has the id that it had. -/
def KeepsOids (registry : Registry) (tracker : RaceTracker) (inputs : List TrackerInput) : Prop :=
  ∀ first second third, inputs = first ++ (second ++ third) → ∀ (uid : Uid) (racer again : Racer),
    (run (trackerStep registry) tracker first).race.racers[uid]? = some racer →
      (run (trackerStep registry) tracker (first ++ second)).race.racers[uid]? = some again →
        again.oid = racer.oid

/-! ## The condition -/

/-- The ids that a counter has come past, the invalid one included. -/
def countOf (next : UInt16) : Nat := if next = 0 then 65536 else next.toNat

/-- The condition: there are ids left for the decks of a race, for the characters that are new to the room,
and for an event item. -/
def Fits (registry : Registry) (tracker : RaceTracker) : TrackerInput → Prop
  | .start lookups => lookups.decks.length < 65536 ∧ (lookups.prepared = true →
      (lookups.players.filter fun player => player.1 ∉ tracker.characterOids).length +
        countOf tracker.nextCharacterOid ≤ 65536)
  | .egg ⟨around, .gameCreateClientItem client unk1 lookups⟩ => ∀ uid racer egg,
      Creates registry around client unk1 lookups tracker.race uid racer egg → tracker.race.nextItemDeckOid ≠ 0
  | _ => True

/-! ## What stays -/

/-- The racers and the decks have the ids that they had, and no event item is new. -/
structure SameOids (before after : RaceInstance) : Prop where
  next : after.nextItemDeckOid = before.nextItemDeckOid
  decks : ∀ oid, oid ∈ after.itemDecks ↔ oid ∈ before.itemDecks
  racers : ∀ (uid : Uid) (racer : Racer), after.racers[uid]? = some racer →
    ∃ old, before.racers[uid]? = some old ∧ racer.oid = old.oid ∧ racer.eventItems.Sublist old.eventItems

/-- The ids are as they were, if the deck is one of the race. -/
def SameOidsWith (deckId : UInt16) (before after : RaceInstance) : Prop :=
  deckId ∈ before.itemDecks → SameOids before after

namespace SameOids

instance : Std.Refl SameOids :=
  ⟨fun _ => ⟨rfl, fun _ => Iff.rfl, fun _ racer h => ⟨racer, h, rfl, List.Sublist.refl _⟩⟩⟩

instance : IsTrans RaceInstance SameOids := by
  refine ⟨fun _ _ _ h hnext => ⟨hnext.next.trans h.next, fun oid => (hnext.decks oid).trans (h.decks oid),
    fun uid racer hracer => ?_⟩⟩
  obtain ⟨middle, hmiddle, hoid, hsub⟩ := hnext.racers uid racer hracer
  obtain ⟨old, hold, hsame, hsubset⟩ := h.racers uid middle hmiddle
  exact ⟨old, hold, hoid.trans hsame, hsub.trans hsubset⟩

instance : Unsent SameOids :=
  ⟨fun _ _ => ⟨rfl, fun _ => Iff.rfl, fun _ racer h => ⟨racer, h, rfl, List.Sublist.refl _⟩⟩⟩

instance (deckId : UInt16) : Std.Refl (SameOidsWith deckId) := ⟨fun race _ => refl_of SameOids race⟩

instance (deckId : UInt16) : IsTrans RaceInstance (SameOidsWith deckId) :=
  ⟨fun _ _ _ h hnext hdeck => trans_of SameOids (h hdeck) (hnext (((h hdeck).decks deckId).2 hdeck))⟩

instance (deckId : UInt16) : Unsent (SameOidsWith deckId) := ⟨fun race sent _ => Unsent.sent race sent⟩

/-- A racer who keeps its id, and gets no event item. -/
theorem updateRacer {uid : Uid} {change : Racer → Racer}
    (h : ∀ racer, (change racer).oid = racer.oid ∧ (change racer).eventItems.Sublist racer.eventItems) :
    Keeps SameOids (updateRacer uid change) := by
  intro race
  refine ⟨rfl, fun _ => Iff.rfl, fun other racer hracer => ?_⟩
  have hupdate := (getElem?_updateRacer uid other change race).symm.trans hracer
  split at hupdate
  · obtain ⟨old, hold, rfl⟩ := map_eq_some_iff.1 hupdate
    exact ⟨old, hold, h old⟩
  · exact ⟨racer, hupdate, rfl, List.Sublist.refl _⟩

/-- Nothing about the ids of the racer is changed. -/
theorem update {uid : Uid} {change : Racer → Racer}
    (h : ∀ racer, (change racer).oid = racer.oid ∧ (change racer).eventItems = racer.eventItems) :
    Keeps SameOids (Magic.updateRacer uid change) :=
  updateRacer fun racer => ⟨(h racer).1, (h racer).2 ▸ List.Sublist.refl _⟩

theorem within {α : Type} {x : Handling α} (h : Keeps SameOids x) (deckId : UInt16) :
    Keeps (SameOidsWith deckId) x := fun race _ => h race

instance : Frame SameOids where
  update _ _ h := updateRacer fun racer => ⟨(h racer).oid, (h racer).eventItems⟩
  map change h race := by
    refine ⟨rfl, fun _ => Iff.rfl, fun uid racer hracer => ?_⟩
    obtain ⟨old, hold, rfl⟩ := Option.map_eq_some_iff.1 (ExtTreeMap.getElem?_map.symm.trans hracer)
    exact ⟨old, hold, (h uid old).oid, (h uid old).eventItems⟩
  others _ _ _ _ := ⟨rfl, fun _ => Iff.rfl, fun _ racer h => ⟨racer, h, rfl, List.Sublist.refl _⟩⟩

instance : Uncounted SameOids where
  count _ _ := ⟨rfl, fun _ => Iff.rfl, fun _ racer h => ⟨racer, h, rfl, List.Sublist.refl _⟩⟩

/-! ### Gauges -/

variable {registry : Registry} {around : Surroundings} {client : ClientId} {uid : Uid} {racer : Racer}

theorem regenerate_objects (registry : Registry) (now raceStart : Instant) (starPointsMax : UInt32) (racer : Racer) :
    (regenerate registry now raceStart starPointsMax racer).oid = racer.oid ∧
      (regenerate registry now raceStart starPointsMax racer).eventItems = racer.eventItems := by
  rw [regenerate]
  dsimp only
  split
  · exact ⟨rfl, rfl⟩
  · exact ⟨rfl, rfl⟩

/-- The racer is replaced by one with the same objects. -/
theorem set_racer {race : RaceInstance} {other : Racer} (h : race.racers[uid]? = some racer)
    (hsame : other.oid = racer.oid ∧ other.eventItems = racer.eventItems) :
    SameOids race (race.updateRacer uid fun _ => other) := by
  refine ⟨rfl, fun _ => Iff.rfl, fun which now hnow => ?_⟩
  rw [getElem?_updateRacer] at hnow
  split at hnow
  · next hwhich =>
      obtain ⟨old, hold, rfl⟩ := map_eq_some_iff.1 hnow
      rw [hwhich] at hold ⊢
      cases h.symm.trans hold
      exact ⟨_, h, hsame.1, hsame.2 ▸ List.Sublist.refl _⟩
  · exact ⟨now, hnow, rfl, List.Sublist.refl _⟩

theorem tickMagicGauge : Keeps SameOids (tickMagicGauge registry around) := by
  refine .bind .get fun race => ?_
  split
  · exact .pure _
  refine .bind (keeps_ask _) fun players => .forM (fun player now => ?_) _
  obtain ⟨uid, client⟩ := player
  rw [final_bind_ok (get_apply _)]
  cases hracer : now.racers[uid]? with
  | none => exact refl_of SameOids now
  | some racer =>
    dsimp only
    have hset := set_racer hracer
      (regenerate_objects registry around.now race.raceStart race.starPointsMax racer)
    rw [Magic.updateRacer, final_bind_ok (modify_apply _ _)]
    exact trans_of SameOids hset (keeps_queueCommand _ _ _ _)

/-! ### Pickups -/

variable {command : UserRaceItemGet} {lookups : PickupLookups} {deck : ItemDeck}

theorem pickRandomItemFromDeck (deckId : UInt16) (deck : ItemDeck) (itemIndex : Nat) :
    Keeps (SameOidsWith deckId) (pickRandomItemFromDeck deckId deck itemIndex) := by
  refine .bind (.modify fun race hdeck => ?_) fun _ => .pure _
  refine ⟨rfl, fun oid => ?_, fun _ racer h => ⟨racer, h, rfl, List.Sublist.refl _⟩⟩
  rw [ExtTreeMap.mem_insert, Std.LawfulEqCmp.compare_eq_iff_eq]
  exact ⟨fun h => h.elim (fun heq => heq ▸ hdeck) id, .inr⟩

theorem getDeckInMode {gameMode : GameModeInfo} : Keeps (SameOidsWith command.itemDeckId)
    (getDeckInMode registry around client uid racer deck command lookups gameMode) := by
  rw [Magic.getDeckInMode]
  split
  · refine .bind (SameOids.within ?_ _) fun _ =>
      .bind (keeps_queueCommand _ _ _) fun _ => .pure _
    exact update fun _ => ⟨rfl, rfl⟩
  split
  · exact .bind (SameOids.within Frame.takeMagicItem _) fun _ =>
      .bind (pickRandomItemFromDeck _ _ _) fun _ =>
      .bind (keeps_broadcastExcept _ _ _) fun _ => .pure _
  · exact .pure _

theorem getDeck : Keeps (SameOidsWith command.itemDeckId)
    (getDeck registry around client uid racer deck command lookups) :=
  .bind (SameOids.within (.modify (Frame.coolDown _ _ _)) _) fun _ =>
    .bind (keeps_ask _) fun _ => .bind (keeps_ask _) fun _ =>
    .bind getDeckInMode fun _ => keeps_broadcast _ _

theorem handleUserRaceItemGet :
    Keeps SameOids (handleUserRaceItemGet registry around client command lookups) := by
  refine .bind (keeps_ask _) ?_
  rintro ⟨uid, racer⟩
  dsimp only
  split
  · exact Frame.getEventItem
  intro race
  rw [final_bind_ok (get_apply _)]
  cases hdeck : race.itemDecks[command.itemDeckId]? with
  | none => exact refl_of SameOids race
  | some deck =>
    dsimp only
    split
    · exact refl_of SameOids race
    · exact getDeck race (ExtTreeMap.isSome_getElem?_iff_mem.1 (isSome_of_mem hdeck))

/-- A command about magic. -/
theorem handle (input : MagicInput) : Keeps SameOids (input.handle registry) := by
  obtain ⟨around, command⟩ := input
  cases command with
  | requestMagicItem client characterOid roll => exact Frame.handleRequestMagicItem
  | userRaceItemGet client command lookups => exact handleUserRaceItemGet
  | useMagicItem client command => exact Frame.handleUseMagicItem
  | activateSkillEffect client command => exact Frame.handleActivateSkillEffect
  | gaugeTick => exact tickMagicGauge
  | itemStrip uid => exact Frame.stripHeldMagicItem

end SameOids

/-! ## Counters -/

section Counters

variable {next : UInt16}

theorem countOf_succ (h : next ≠ 0) : countOf (next + 1) = countOf next + 1 := by
  have hlt := next.toNat_lt
  have hsum : (next + 1).toNat = (next.toNat + 1) % 65536 := UInt16.toNat_add next 1
  have hzero : (next + 1).toNat = (0 : UInt16).toNat ↔ next + 1 = 0 := UInt16.toNat_inj
  rw [countOf, countOf, if_neg h]
  by_cases hwrap : next + 1 = 0
  · rw [if_pos hwrap]
    have hnone : (next + 1).toNat = 0 := hzero.2 hwrap
    omega
  · rw [if_neg hwrap]
    have hsome : (next + 1).toNat ≠ 0 := fun hnone => hwrap (hzero.1 hnone)
    omega

theorem toNat_lt_countOf (h : next ≠ 0) : 0 < next.toNat ∧ next.toNat < countOf (next + 1) := by
  have hpos : next.toNat ≠ 0 := fun hzero => h (UInt16.toNat_inj.1 hzero)
  have hcount : countOf next = next.toNat := if_neg h
  rw [countOf_succ h, hcount]
  omega

/-- A counter that has not come round. -/
theorem ne_zero_of_lt (h : countOf next < 65536) : next ≠ 0 := by
  rintro rfl
  exact Nat.lt_irrefl _ h

theorem ne_of_lt_countOf {oid : UInt16} (hlt : oid.toNat < countOf next) (h : next ≠ 0) : oid ≠ next := by
  rintro rfl
  rw [countOf, if_neg h] at hlt
  exact Nat.lt_irrefl _ hlt

end Counters

/-! ## Objects -/

/-- The objects have ids that the counter has come past, and different ones. -/
structure Labelled (race : RaceInstance) : Prop where
  decks : ∀ oid ∈ race.itemDecks, 0 < oid.toNat ∧ oid.toNat < countOf race.nextItemDeckOid
  items : ∀ (uid : Uid) (racer : Racer), race.racers[uid]? = some racer → ∀ item ∈ racer.eventItems,
    0 < item.oid.toNat ∧ item.oid.toNat < countOf race.nextItemDeckOid ∧ item.oid ∉ race.itemDecks
  own : ∀ (uid : Uid) (racer : Racer), race.racers[uid]? = some racer →
    (racer.eventItems.map EventItem.oid).Nodup
  apart : ∀ (uid other : Uid) (racer rival : Racer), race.racers[uid]? = some racer →
    race.racers[other]? = some rival → uid ≠ other →
      ∀ item ∈ racer.eventItems, ∀ another ∈ rival.eventItems, item.oid ≠ another.oid

section Objects

variable {before after : RaceInstance}

theorem Labelled.same (h : Labelled before) (hsame : SameOids before after) : Labelled after := by
  refine ⟨fun oid hoid => ?_, fun uid racer hracer item hitem => ?_, fun uid racer hracer => ?_,
    fun uid other racer rival hracer hrival hne item hitem another hanother => ?_⟩
  · rw [hsame.next]
    exact h.decks oid ((hsame.decks oid).1 hoid)
  · obtain ⟨old, hold, -, hsub⟩ := hsame.racers uid racer hracer
    rw [hsame.next, hsame.decks]
    exact h.items uid old hold item (hsub.subset hitem)
  · obtain ⟨old, hold, -, hsub⟩ := hsame.racers uid racer hracer
    exact (h.own uid old hold).sublist (hsub.map _)
  · obtain ⟨old, hold, -, hsub⟩ := hsame.racers uid racer hracer
    obtain ⟨older, holder, -, hsubset⟩ := hsame.racers other rival hrival
    exact h.apart uid other old older hold holder hne item (hsub.subset hitem) another (hsubset.subset hanother)

/-- A race without racers has no event items. -/
theorem labelled_of_empty {race : RaceInstance} (hracers : race.racers = ∅)
    (hdecks : ∀ oid ∈ race.itemDecks, 0 < oid.toNat ∧ oid.toNat < countOf race.nextItemDeckOid) :
    Labelled race := by
  have hnone : ∀ (uid : Uid) (racer : Racer), race.racers[uid]? ≠ some racer := by
    intro uid racer hracer
    rw [hracers, ExtTreeMap.getElem?_empty] at hracer
    cases hracer
  exact ⟨hdecks, fun uid racer hracer => absurd hracer (hnone uid racer),
    fun uid racer hracer => absurd hracer (hnone uid racer),
    fun uid _ racer _ hracer => absurd hracer (hnone uid racer)⟩

/-- An event item gets the next id. -/
theorem Labelled.withEventItem (h : Labelled before) (hnext : before.nextItemDeckOid ≠ 0) (uid : Uid)
    (itemType : UInt32) : Labelled (withEventItem uid itemType before) := by
  obtain ⟨hpos, hlt⟩ := toNat_lt_countOf hnext
  have hcount := countOf_succ hnext
  -- What is there already has other ids.
  have hold : ∀ (other : Uid) (racer : Racer), before.racers[other]? = some racer →
      ∀ item ∈ racer.eventItems, item.oid ≠ before.nextItemDeckOid := fun other racer hracer item hitem =>
    ne_of_lt_countOf (h.items other racer hracer item hitem).2.1 hnext
  have hracers : ∀ (other : Uid) (racer : Racer),
      (Magic.withEventItem uid itemType before).racers[other]? = some racer →
        ∃ old, before.racers[other]? = some old ∧ (racer.eventItems = old.eventItems ∨ other = uid ∧
          racer.eventItems = old.eventItems ++ [⟨before.nextItemDeckOid, itemType, before.created.length⟩]) := by
    intro other racer hracer
    have hupdate := (getElem?_updateRacer uid other _ before).symm.trans hracer
    split at hupdate
    · next hsame =>
        obtain ⟨old, hold, rfl⟩ := map_eq_some_iff.1 hupdate
        exact ⟨old, hold, .inr ⟨hsame, rfl⟩⟩
    · exact ⟨racer, hupdate, .inl rfl⟩
  have hitems : ∀ (other : Uid) (racer : Racer),
      (Magic.withEventItem uid itemType before).racers[other]? = some racer → ∀ item ∈ racer.eventItems,
        (∃ old, before.racers[other]? = some old ∧ item ∈ old.eventItems) ∨
          other = uid ∧ item.oid = before.nextItemDeckOid := by
    intro other racer hracer item hitem
    obtain ⟨old, hold, hsame | ⟨huid, hsame⟩⟩ := hracers other racer hracer
    · exact .inl ⟨old, hold, hsame ▸ hitem⟩
    · rw [hsame] at hitem
      rcases mem_append.1 hitem with hitem | hitem
      · exact .inl ⟨old, hold, hitem⟩
      · cases mem_singleton.1 hitem
        exact .inr ⟨huid, rfl⟩
  have hnewDeck : before.nextItemDeckOid ∉ before.itemDecks := fun hmem =>
    ne_of_lt_countOf (h.decks _ hmem).2 hnext rfl
  refine ⟨fun oid hoid => ?_, fun other racer hracer item hitem => ?_, fun other racer hracer => ?_,
    fun first second racer rival hracer hrival hne item hitem another hanother => ?_⟩
  · have hbound := h.decks oid hoid
    show 0 < oid.toNat ∧ oid.toNat < countOf (before.nextItemDeckOid + 1)
    omega
  · show 0 < item.oid.toNat ∧ item.oid.toNat < countOf (before.nextItemDeckOid + 1) ∧ item.oid ∉ before.itemDecks
    rcases hitems other racer hracer item hitem with ⟨old, hracerOld, hmem⟩ | ⟨-, hoid⟩
    · obtain ⟨hsome, hbound, hdeck⟩ := h.items other old hracerOld item hmem
      exact ⟨hsome, by omega, hdeck⟩
    · rw [hoid]
      exact ⟨hpos, hlt, hnewDeck⟩
  · obtain ⟨old, hracerOld, hsame | ⟨-, hsame⟩⟩ := hracers other racer hracer
    · rw [hsame]
      exact h.own other old hracerOld
    · rw [hsame, map_append]
      refine List.Nodup.append (h.own other old hracerOld) (nodup_singleton _) ?_
      intro oid hmem hnew
      obtain ⟨item, hitem, rfl⟩ := mem_map.1 hmem
      exact hold other old hracerOld item hitem (mem_singleton.1 hnew)
  · rcases hitems first racer hracer item hitem with ⟨one, hone, hmem⟩ | ⟨hfirst, hoid⟩
    · rcases hitems second rival hrival another hanother with ⟨two, htwo, hanotherMem⟩ | ⟨-, hoid⟩
      · exact h.apart first second one two hone htwo hne item hmem another hanotherMem
      · rw [hoid]
        exact hold first one hone item hmem
    · rcases hitems second rival hrival another hanother with ⟨two, htwo, hanotherMem⟩ | ⟨hsecond, -⟩
      · rw [hoid]
        exact (hold second two htwo another hanotherMem).symm
      · exact absurd (hfirst.trans hsecond.symm) hne

/-- The decks of a race get the ids from one on. -/
theorem labelled_addItemDecks (decks : List ItemDeck) {race : RaceInstance} (hracers : race.racers = ∅)
    (hcount : decks.length + countOf race.nextItemDeckOid ≤ 65536) (h : Labelled race) :
    ((decks.forM addItemDeck).final race).racers = ∅ ∧ Labelled ((decks.forM addItemDeck).final race) := by
  induction decks generalizing race with
  | nil => exact ⟨hracers, h⟩
  | cons deck rest ih =>
    have hcons : ((deck :: rest).forM addItemDeck : Handling PUnit) =
      (addItemDeck deck >>= fun _ => rest.forM addItemDeck) := rfl
    rw [length_cons] at hcount
    have hnext : race.nextItemDeckOid ≠ 0 := ne_zero_of_lt (by omega)
    have hsucc := countOf_succ hnext
    rw [hcons]
    by_cases hmem : race.nextItemDeckOid ∈ race.itemDecks
    · have hthrown : addItemDeck deck race =
          .error (.thrown "Item is already added to the race map") race := by
        rw [addItemDeck, bind_ok (get_apply _), if_pos hmem]
        rfl
      rw [final_bind_error hthrown]
      exact ⟨hracers, h⟩
    · have hadded : addItemDeck deck race = .ok ⟨⟩ { race with
          itemDecks := race.itemDecks.insert race.nextItemDeckOid deck
          nextItemDeckOid := race.nextItemDeckOid + 1 } := by
        rw [addItemDeck, bind_ok (get_apply _), if_neg hmem]
        rfl
      rw [final_bind_ok hadded]
      refine ih hracers (by show rest.length + countOf (race.nextItemDeckOid + 1) ≤ 65536; omega)
        (labelled_of_empty hracers fun oid hoid => ?_)
      show 0 < oid.toNat ∧ oid.toNat < countOf (race.nextItemDeckOid + 1)
      rcases ExtTreeMap.mem_insert.1 hoid with hsame | hoid
      · cases Std.LawfulEqCmp.compare_eq_iff_eq.1 hsame
        exact toNat_lt_countOf hnext
      · have hbound := h.decks oid hoid
        omega

end Objects

/-! ## Racers -/

/-- The racers have the ids of their characters. -/
def Mapped (tracker : RaceTracker) : Prop :=
  ∀ (uid : Uid) (racer : Racer), tracker.race.racers[uid]? = some racer →
    tracker.characterOids[uid]? = some racer.oid

/-- The characters have ids that the counter has come past, and different ones. -/
structure Assigned (tracker : RaceTracker) : Prop where
  bound : ∀ (uid : Uid) (oid : UInt16), tracker.characterOids[uid]? = some oid →
    0 < oid.toNat ∧ oid.toNat < countOf tracker.nextCharacterOid
  unique : ∀ (uid other : Uid) (oid : UInt16), tracker.characterOids[uid]? = some oid →
    tracker.characterOids[other]? = some oid → uid = other

/-- No character loses its id. -/
def OidsStay (before after : RaceTracker) : Prop :=
  ∀ (uid : Uid) (oid : UInt16), before.characterOids[uid]? = some oid → after.characterOids[uid]? = some oid

section Racers

variable {tracker : RaceTracker} {uid : Uid} {team : TeamColor}

theorem oidsStay_assignOid (uid : Uid) : OidsStay tracker (tracker.assignOid uid) := by
  intro other oid hother
  rw [assignOid]
  split
  · exact hother
  · next hnone =>
      refine (getElem?_insert_self_or_ne _ _ _ _).trans ((if_neg ?_).trans hother)
      rintro rfl
      cases hnone.symm.trans hother

theorem characterOids_assignOid (uid : Uid) :
    (tracker.assignOid uid).characterOids[uid]? = some ((tracker.assignOid uid).oidOf uid) := by
  have hsome : ((tracker.assignOid uid).characterOids[uid]?).isSome = true := by
    rw [assignOid]
    split
    · next oid hoid => exact hoid ▸ rfl
    · rw [getElem?_insert_self_or_ne, if_pos rfl]
      rfl
  obtain ⟨oid, hoid⟩ := isSome_iff_exists.1 hsome
  rw [oidOf, hoid]
  rfl

/-- The tracker with a racer. -/
def RaceTracker.withRacer (tracker : RaceTracker) (uid : Uid) (team : TeamColor) : RaceTracker :=
  (tracker.assignOid uid).setRace { tracker.race with
    racers := tracker.race.racers.insert uid
      { oid := (tracker.assignOid uid).oidOf uid, state := .loading, team := team } }

theorem race_assignOid (uid : Uid) : (tracker.assignOid uid).race = tracker.race := by
  rw [assignOid]
  split
  · rfl
  · rfl

/-- A racer is added, or it is one and nothing is changed. -/
theorem addRacer_apply (uid : Uid) (team : TeamColor) (tracker : RaceTracker) :
    addRacer uid team tracker = .error (.thrown "Character is already a racer") tracker ∨
      uid ∉ tracker.race.racers ∧ addRacer uid team tracker = .ok ⟨⟩ (tracker.withRacer uid team) := by
  rw [addRacer, bind_ok (get_apply _)]
  by_cases hmem : uid ∈ tracker.race.racers
  · rw [if_pos hmem]
    exact .inl rfl
  · rw [if_neg hmem, bind_ok (modify_apply _ _), modify_apply, race_assignOid]
    exact .inr ⟨hmem, rfl⟩

theorem mapped_withRacer (h : Mapped tracker) : Mapped (tracker.withRacer uid team) := by
  intro other racer hracer
  have hinsert := (getElem?_insert_self_or_ne _ _ _ _).symm.trans hracer
  split at hinsert
  · next hsame =>
      cases hinsert
      rw [hsame]
      exact characterOids_assignOid uid
  · exact oidsStay_assignOid uid other racer.oid (h other racer hinsert)

/-- A new character gets the next id. -/
theorem assigned_assignOid (h : Assigned tracker) (hnext : uid ∉ tracker.characterOids → tracker.nextCharacterOid ≠ 0) :
    Assigned (tracker.assignOid uid) := by
  rw [assignOid]
  split
  · exact h
  next hnone =>
  have hnext : tracker.nextCharacterOid ≠ 0 := by
    refine hnext fun hmem => ?_
    have hsome := ExtTreeMap.isSome_getElem?_iff_mem.2 hmem
    rw [hnone] at hsome
    cases hsome
  have hcases : ∀ (other : Uid) (oid : UInt16),
      (tracker.characterOids.insert uid tracker.nextCharacterOid)[other]? = some oid →
        other = uid ∧ oid = tracker.nextCharacterOid ∨ tracker.characterOids[other]? = some oid := by
    intro other oid hother
    rw [getElem?_insert_self_or_ne] at hother
    split at hother
    · next hsame =>
        cases hother
        exact .inl ⟨hsame, rfl⟩
    · exact .inr hother
  refine ⟨fun other oid hother => ?_, fun first second oid hfirst hsecond => ?_⟩
  · show 0 < oid.toNat ∧ oid.toNat < countOf (tracker.nextCharacterOid + 1)
    rcases hcases other oid hother with ⟨-, rfl⟩ | hother
    · exact toNat_lt_countOf hnext
    · have hbound := h.bound other oid hother
      have hsucc := countOf_succ hnext
      omega
  · rcases hcases first oid hfirst with ⟨hone, hoid⟩ | hfirst
    · rcases hcases second oid hsecond with ⟨htwo, -⟩ | hsecond
      · exact hone.trans htwo.symm
      · exact absurd hoid (ne_of_lt_countOf (h.bound second oid hsecond).2 hnext)
    · rcases hcases second oid hsecond with ⟨-, hoid⟩ | hsecond
      · exact absurd hoid (ne_of_lt_countOf (h.bound first oid hfirst).2 hnext)
      · exact h.unique first second oid hfirst hsecond

/-- What the addition of one player carries on is carried on by all of them. -/
theorem addRacers_carries {P : List (Uid × TeamColor) → RaceTracker → Prop}
    (hadd : ∀ player rest tracker, P (player :: rest) tracker →
      P rest (tracker.withRacer player.1 player.2)) (players : List (Uid × TeamColor))
    {tracker : RaceTracker} (h : P players tracker) :
    ∃ rest, P rest ((players.forM fun player => addRacer player.1 player.2).final tracker) := by
  induction players generalizing tracker with
  | nil => exact ⟨[], h⟩
  | cons player rest ih =>
    have hcons : ((player :: rest).forM fun player => addRacer player.1 player.2 : Tracking PUnit) =
      (addRacer player.1 player.2 >>= fun _ => rest.forM fun player => addRacer player.1 player.2) := rfl
    rw [hcons]
    rcases addRacer_apply player.1 player.2 tracker with hthrown | ⟨-, hadded⟩
    · rw [final_bind_error hthrown]
      exact ⟨_, h⟩
    · rw [final_bind_ok hadded]
      exact ih (hadd player rest tracker h)

/-- The players of the room become racers. -/
theorem addRacers_mapped (players : List (Uid × TeamColor)) (h : Mapped tracker) :
    Mapped ((players.forM fun player => addRacer player.1 player.2).final tracker) ∧
      OidsStay tracker ((players.forM fun player => addRacer player.1 player.2).final tracker) := by
  obtain ⟨-, hafter⟩ := addRacers_carries (P := fun _ after => Mapped after ∧ OidsStay tracker after)
    (fun player _ _ hbefore => ⟨mapped_withRacer hbefore.1, fun uid oid hoid =>
      oidsStay_assignOid player.1 uid oid (hbefore.2 uid oid hoid)⟩) players ⟨h, fun _ _ => id⟩
  exact hafter

/-- The characters of the players that are new to the room. -/
def newcomers (players : List (Uid × TeamColor)) (tracker : RaceTracker) : List (Uid × TeamColor) :=
  players.filter fun player => player.1 ∉ tracker.characterOids

theorem newcomers_assignOid (players : List (Uid × TeamColor)) (uid : Uid) :
    (newcomers players (tracker.assignOid uid)).length ≤ (newcomers players tracker).length := by
  refine List.Sublist.length_le (monotone_filter_right players fun player hplayer => ?_)
  have hnew := of_decide_eq_true hplayer
  refine decide_eq_true fun hmem => hnew ?_
  obtain ⟨oid, hoid⟩ := isSome_iff_exists.1 (ExtTreeMap.isSome_getElem?_iff_mem.2 hmem)
  exact ExtTreeMap.isSome_getElem?_iff_mem.1 (isSome_of_mem (oidsStay_assignOid uid player.1 oid hoid))

theorem nextCharacterOid_assignOid (uid : Uid) : (tracker.assignOid uid).nextCharacterOid =
    if uid ∈ tracker.characterOids then tracker.nextCharacterOid else tracker.nextCharacterOid + 1 := by
  rw [assignOid]
  split
  · next oid hoid => rw [if_pos (ExtTreeMap.isSome_getElem?_iff_mem.1 (isSome_of_mem hoid))]
  · next hnone =>
      rw [if_neg]
      intro hmem
      have hsome := ExtTreeMap.isSome_getElem?_iff_mem.2 hmem
      rw [hnone] at hsome
      cases hsome

/-- While there are ids left for the newcomers, all of them get their own. -/
theorem addRacers_assigned (players : List (Uid × TeamColor)) (h : Assigned tracker)
    (hfits : (newcomers players tracker).length + countOf tracker.nextCharacterOid ≤ 65536) :
    Assigned ((players.forM fun player => addRacer player.1 player.2).final tracker) := by
  refine (addRacers_carries (P := fun rest tracker => Assigned tracker ∧
    (newcomers rest tracker).length + countOf tracker.nextCharacterOid ≤ 65536)
    ?_ players ⟨h, hfits⟩).elim fun _ hafter => hafter.1
  rintro player rest tracker ⟨h, hfits⟩
  have hrest : (newcomers rest (tracker.assignOid player.1)).length ≤
    (rest.filter fun player => player.1 ∉ tracker.characterOids).length := newcomers_assignOid rest player.1
  have hnext := @nextCharacterOid_assignOid tracker player.1
  by_cases hknown : player.1 ∈ tracker.characterOids
  · rw [if_pos hknown] at hnext
    rw [newcomers, filter_cons_of_neg (by simpa using hknown)] at hfits
    refine ⟨⟨(assigned_assignOid h fun hnew => absurd hknown hnew).bound,
      (assigned_assignOid h fun hnew => absurd hknown hnew).unique⟩, ?_⟩
    show (newcomers rest (tracker.assignOid player.1)).length +
      countOf (tracker.assignOid player.1).nextCharacterOid ≤ 65536
    rw [hnext]
    exact Nat.le_trans (Nat.add_le_add_right hrest _) hfits
  · rw [if_neg hknown] at hnext
    rw [newcomers, filter_cons_of_pos (by simpa using hknown), length_cons] at hfits
    have hzero : tracker.nextCharacterOid ≠ 0 := ne_zero_of_lt (by omega)
    have hsucc := countOf_succ hzero
    refine ⟨⟨(assigned_assignOid h fun _ => hzero).bound, (assigned_assignOid h fun _ => hzero).unique⟩, ?_⟩
    show (newcomers rest (tracker.assignOid player.1)).length +
      countOf (tracker.assignOid player.1).nextCharacterOid ≤ 65536
    rw [hnext, hsucc]
    omega

/-- A new racer has no event items. -/
theorem labelled_withRacer (h : Labelled tracker.race) : Labelled (tracker.withRacer uid team).race := by
  have hcases : ∀ (other : Uid) (racer : Racer), (tracker.withRacer uid team).race.racers[other]? = some racer →
      racer.eventItems = [] ∨ tracker.race.racers[other]? = some racer := by
    intro other racer hracer
    have hinsert := (getElem?_insert_self_or_ne _ _ _ _).symm.trans hracer
    split at hinsert
    · cases hinsert
      exact .inl rfl
    · exact .inr hinsert
  refine ⟨h.decks, fun other racer hracer item hitem => ?_, fun other racer hracer => ?_,
    fun first second racer rival hracer hrival hne item hitem another hanother => ?_⟩
  · rcases hcases other racer hracer with hnone | hold
    · rw [hnone] at hitem
      cases hitem
    · exact h.items other racer hold item hitem
  · rcases hcases other racer hracer with hnone | hold
    · rw [hnone]
      exact nodup_nil
    · exact h.own other racer hold
  · rcases hcases first racer hracer with hnone | hone
    · rw [hnone] at hitem
      cases hitem
    rcases hcases second rival hrival with hnone | htwo
    · rw [hnone] at hanother
      cases hanother
    exact h.apart first second racer rival hone htwo hne item hitem another hanother

theorem addRacers_labelled (players : List (Uid × TeamColor)) (h : Labelled tracker.race) :
    Labelled ((players.forM fun player => addRacer player.1 player.2).final tracker).race := by
  obtain ⟨-, hafter⟩ := addRacers_carries (P := fun _ after => Labelled after.race)
    (fun _ _ _ hbefore => labelled_withRacer hbefore) players h
  exact hafter

end Racers

/-! ## Steps -/

section Steps

variable {registry : Registry} {tracker : RaceTracker}

/-- The race that is prepared: its decks are there, and no racer yet. -/
theorem prepared_labelled (lookups : StartLookups) (race : RaceInstance) (hfits : lookups.decks.length < 65536) :
    ((prepareRace lookups).final race.clear).racers = ∅ ∧ Labelled ((prepareRace lookups).final race.clear) := by
  rw [prepareRace, final_bind_ok (modify_apply _ _)]
  have hclear : Labelled race.clear := labelled_of_empty rfl fun oid hoid => absurd hoid ExtTreeMap.not_mem_empty
  have hdecks := @labelled_addItemDecks lookups.decks { race.clear with
    gameMode := lookups.gameMode
    mapBlockId := lookups.mapBlockId
    starPointsMax := lookups.starPointsMax } rfl (by
      show lookups.decks.length + countOf 1 ≤ 65536
      have hone : countOf 1 = 1 := by decide
      omega) ⟨hclear.decks, hclear.items, hclear.own, hclear.apart⟩
  have hend : ∀ race, (if lookups.prepared = true then pure ⟨⟩
      else throw (.thrown "Exception while preparing items") : Handling PUnit).final race = race := by
    intro race
    split
    · rfl
    · rfl
  generalize hloop : (lookups.decks.forM addItemDeck : Handling PUnit) = loop at hdecks ⊢
  cases hdone : loop { race.clear with
      gameMode := lookups.gameMode
      mapBlockId := lookups.mapBlockId
      starPointsMax := lookups.starPointsMax } with
  | error failure after =>
    rw [final_error hdone] at hdecks
    rw [final_bind_error hdone]
    exact hdecks
  | ok done after =>
    rw [final_ok hdone] at hdecks
    rw [final_bind_ok hdone, hend]
    exact hdecks

/-- The racers are as they were. -/
def SameRacers (before after : RaceInstance) : Prop := after.racers = before.racers

instance : Std.Refl SameRacers := ⟨fun _ => rfl⟩

instance : IsTrans RaceInstance SameRacers := ⟨fun _ _ _ h hnext => Eq.trans hnext h⟩

theorem prepared_racers (lookups : StartLookups) (race : RaceInstance) :
    ((prepareRace lookups).final race.clear).racers = ∅ := by
  have hkeeps : Keeps SameRacers (prepareRace lookups) := by
    refine .bind (.modify fun _ => rfl) fun _ =>
      .bind (.forM (fun deck => .bind .get fun race => ?_) _)
        fun _ => ?_
    · split
      · exact .throw _
      · exact .modify fun _ => rfl
    · split
      · exact .pure _
      · exact .throw _
  exact hkeeps race.clear

/-- The tracker before the racers are added. -/
def RaceTracker.preparedFor (tracker : RaceTracker) (lookups : StartLookups) : RaceTracker :=
  tracker.clear.setRace ((prepareRace lookups).final tracker.race.clear)

theorem startRace_cases (lookups : StartLookups) (tracker : RaceTracker) :
    startRace lookups tracker = tracker.preparedFor lookups ∨ lookups.prepared = true ∧
      startRace lookups tracker =
        (lookups.players.forM fun player => addRacer player.1 player.2).final (tracker.preparedFor lookups) := by
  rw [startRace, preparedFor]
  have hrace : tracker.clear.race = tracker.race.clear := rfl
  rw [hrace]
  cases hprepare : prepareRace lookups tracker.race.clear with
  | error failure race =>
    rw [final_error hprepare]
    exact .inl rfl
  | ok prepared race =>
    rw [final_ok hprepare]
    refine .inr ⟨?_, rfl⟩
    rw [prepareRace, bind_ok (modify_apply _ _)] at hprepare
    obtain ⟨_, _, -, hend⟩ := bind_eq_ok.1 hprepare
    by_contra hnot
    rw [if_neg hnot] at hend
    cases hend

/-- What holds of every new racer holds of the racers that are added. -/
theorem addRacers_forall {P : Racer → Prop}
    (hnew : ∀ oid team, P { oid := oid, state := .loading, team := team }) (players : List (Uid × TeamColor))
    {tracker : RaceTracker} (h : ∀ (uid : Uid) (racer : Racer), tracker.race.racers[uid]? = some racer → P racer) :
    ∀ (uid : Uid) (racer : Racer),
      ((players.forM fun player => addRacer player.1 player.2).final tracker).race.racers[uid]? = some racer →
        P racer := by
  refine (addRacers_carries
    (P := fun _ after => ∀ (uid : Uid) (racer : Racer), after.race.racers[uid]? = some racer → P racer)
    (fun _ _ _ hbefore uid racer hracer => ?_) players h).elim fun _ hafter => hafter
  have hinsert := (getElem?_insert_self_or_ne _ _ _ _).symm.trans hracer
  split at hinsert
  · cases hinsert
    exact hnew _ _
  · exact hbefore uid racer hinsert

/-- All racers of a race that starts are new. -/
theorem startRace_forall {P : Racer → Prop}
    (hnew : ∀ oid team, P { oid := oid, state := .loading, team := team }) (lookups : StartLookups)
    (tracker : RaceTracker) (uid : Uid) (racer : Racer)
    (h : (startRace lookups tracker).race.racers[uid]? = some racer) : P racer := by
  have hempty : ∀ (uid : Uid) (racer : Racer), (tracker.preparedFor lookups).race.racers[uid]? = some racer →
      P racer := by
    intro uid racer hracer
    have hnone : (tracker.preparedFor lookups).race.racers = ∅ := prepared_racers lookups tracker.race
    rw [hnone, ExtTreeMap.getElem?_empty] at hracer
    cases hracer
  rcases startRace_cases lookups tracker with hstart | ⟨-, hstart⟩
  · rw [hstart] at h
    exact hempty uid racer h
  · rw [hstart] at h
    exact addRacers_forall hnew lookups.players hempty uid racer h

theorem mapped_preparedFor (lookups : StartLookups) : Mapped (tracker.preparedFor lookups) := by
  intro uid racer hracer
  have hnone : (tracker.preparedFor lookups).race.racers = ∅ := prepared_racers lookups tracker.race
  rw [hnone, ExtTreeMap.getElem?_empty] at hracer
  cases hracer

/-- The racers of the next race have the ids of their characters, and those are the old ones. -/
theorem mapped_startRace (lookups : StartLookups) (tracker : RaceTracker) :
    Mapped (startRace lookups tracker) ∧ OidsStay tracker (startRace lookups tracker) := by
  rcases startRace_cases lookups tracker with hstart | ⟨-, hstart⟩
  · rw [hstart]
    exact ⟨mapped_preparedFor lookups, fun _ _ => id⟩
  · rw [hstart]
    exact addRacers_mapped lookups.players (mapped_preparedFor lookups)

theorem mapped_setRace (h : Mapped tracker) {race : RaceInstance} (hsame : SameOids tracker.race race) :
    Mapped (tracker.setRace race) := by
  intro uid racer hracer
  obtain ⟨old, hold, hoid, -⟩ := hsame.racers uid racer hracer
  rw [hoid]
  exact h uid old hold

/-- A command about eggs leaves the ids alone, or an event item gets the next one. -/
theorem egg_cases (race : RaceInstance) (input : EggInput) :
    SameOids race (eggStep registry race input) ∨ ∃ client unk1 lookups uid racer egg,
      input.command = .gameCreateClientItem client unk1 lookups ∧
        Creates registry input.around client unk1 lookups race uid racer egg ∧
          eggStep registry race input = withEventItem uid egg.deckItemId race := by
  obtain ⟨around, command⟩ := input
  cases command with
  | loadingComplete client lookups => exact .inl (Frame.handleLoadingComplete race)
  | userRaceItemGet client command lookups => exact .inl (SameOids.handleUserRaceItemGet race)
  | gameCreateClientItem client unk1 lookups =>
    have houtcome := @createOutcome registry around client unk1 lookups race
    have hstep : eggStep registry race ⟨around, .gameCreateClientItem client unk1 lookups⟩ =
      (handleGameCreateClientItem registry around client unk1 lookups).final race := rfl
    rw [hstep]
    generalize (handleGameCreateClientItem registry around client unk1 lookups).final race = after at houtcome ⊢
    cases houtcome with
    | same hnone => exact .inl (refl_of SameOids race)
    | created uid racer egg hcreates => exact .inr ⟨client, unk1, lookups, uid, racer, egg, rfl, hcreates, rfl⟩

theorem racers_withEventItem {race : RaceInstance} {uid other : Uid} {itemType : UInt32} {racer : Racer}
    (h : (withEventItem uid itemType race).racers[other]? = some racer) :
    ∃ old, race.racers[other]? = some old ∧ racer.oid = old.oid := by
  have hupdate := (getElem?_updateRacer uid other _ race).symm.trans h
  split at hupdate
  · obtain ⟨old, hold, rfl⟩ := map_eq_some_iff.1 hupdate
    exact ⟨old, hold, rfl⟩
  · exact ⟨racer, hupdate, rfl⟩

theorem mapped_step (h : Mapped tracker) (input : TrackerInput) :
    Mapped (trackerStep registry tracker input) ∧ OidsStay tracker (trackerStep registry tracker input) := by
  cases input with
  | start lookups => exact mapped_startRace lookups tracker
  | magic input => exact ⟨mapped_setRace h (SameOids.handle input tracker.race), fun _ _ => id⟩
  | egg input =>
    refine ⟨?_, fun _ _ => id⟩
    rcases @egg_cases registry tracker.race input with hsame | ⟨_, _, _, uid, _, egg, -, -, hcreated⟩
    · exact mapped_setRace h hsame
    · intro other racer hracer
      have hracer : (eggStep registry tracker.race input).racers[other]? = some racer := hracer
      rw [hcreated] at hracer
      obtain ⟨old, hold, hoid⟩ := racers_withEventItem hracer
      rw [hoid]
      exact h other old hold

/-- All ids are given out by the counters. -/
structure Tracked (tracker : RaceTracker) : Prop where
  labelled : Labelled tracker.race
  mapped : Mapped tracker
  assigned : Assigned tracker

theorem tracked_step (tracker : RaceTracker) (input : TrackerInput) (h : Tracked tracker)
    (hfits : Fits registry tracker input) : Tracked (trackerStep registry tracker input) := by
  refine ⟨?_, (mapped_step h.mapped input).1, ?_⟩
  · cases input with
    | start lookups =>
      have hprepared := (prepared_labelled lookups tracker.race hfits.1).2
      show Labelled (startRace lookups tracker).race
      rcases startRace_cases lookups tracker with hstart | ⟨-, hstart⟩
      · rw [hstart]
        exact hprepared
      · rw [hstart]
        exact addRacers_labelled lookups.players hprepared
    | magic input => exact h.labelled.same (SameOids.handle input tracker.race)
    | egg input =>
      show Labelled (eggStep registry tracker.race input)
      rcases @egg_cases registry tracker.race input with
        hsame | ⟨client, unk1, lookups, uid, racer, egg, hcommand, hcreates, hcreated⟩
      · exact h.labelled.same hsame
      · rw [hcreated]
        obtain ⟨around, command⟩ := input
        cases hcommand
        exact h.labelled.withEventItem (hfits uid racer egg hcreates) uid egg.deckItemId
  · cases input with
    | start lookups =>
      have hprepared : Assigned (tracker.preparedFor lookups) := ⟨h.assigned.bound, h.assigned.unique⟩
      show Assigned (startRace lookups tracker)
      rcases startRace_cases lookups tracker with hstart | ⟨hready, hstart⟩
      · rw [hstart]
        exact hprepared
      · rw [hstart]
        exact addRacers_assigned lookups.players hprepared (hfits.2 hready)
    | magic input => exact ⟨h.assigned.bound, h.assigned.unique⟩
    | egg input => exact ⟨h.assigned.bound, h.assigned.unique⟩

theorem distinct_of_tracked (h : Tracked tracker) : DistinctOids tracker.race := by
  have hne : ∀ {oid : UInt16}, 0 < oid.toNat → oid ≠ invalidEntityOid := by
    rintro oid hpos rfl
    exact Nat.lt_irrefl 0 hpos
  refine ⟨fun hmem => hne (h.labelled.decks _ hmem).1 rfl, fun uid racer hracer item hitem => ?_, h.labelled.own,
    h.labelled.apart, fun uid racer hracer => ?_, fun uid other racer rival hracer hrival hsame => ?_⟩
  · obtain ⟨hpos, -, hdeck⟩ := h.labelled.items uid racer hracer item hitem
    exact ⟨hne hpos, hdeck⟩
  · exact hne (h.assigned.bound uid racer.oid (h.mapped uid racer hracer)).1
  · exact h.assigned.unique uid other racer.oid (h.mapped uid racer hracer) (hsame ▸ h.mapped other rival hrival)

theorem tracked_opened (race : RaceInstance) : Tracked (opened race) where
  labelled := labelled_of_empty rfl fun oid hoid => absurd hoid ExtTreeMap.not_mem_empty
  mapped uid racer hracer := by
    cases (ExtTreeMap.getElem?_empty (a := uid)).symm.trans hracer
  assigned := by
    refine ⟨fun uid oid huid => ?_, fun uid other oid huid => ?_⟩
    · cases (ExtTreeMap.getElem?_empty (a := uid)).symm.trans huid
    · cases (ExtTreeMap.getElem?_empty (a := uid)).symm.trans huid

end Steps

/-! ## Runs -/

section Runs

variable {registry : Registry} {tracker : RaceTracker}

theorem mapped_run (h : Mapped tracker) (inputs : List TrackerInput) :
    Mapped (run (trackerStep registry) tracker inputs) ∧
      OidsStay tracker (run (trackerStep registry) tracker inputs) := by
  induction inputs generalizing tracker with
  | nil => exact ⟨h, fun _ _ => id⟩
  | cons input rest ih =>
    obtain ⟨hmapped, hstay⟩ := @mapped_step registry tracker h input
    obtain ⟨hlater, hlaterStay⟩ := ih hmapped
    exact ⟨hlater, fun uid oid hoid => hlaterStay uid oid (hstay uid oid hoid)⟩

/-- Whatever happens, a character keeps its id in the room. -/
theorem keepsOids (h : Mapped tracker) (inputs : List TrackerInput) : KeepsOids registry tracker inputs := by
  rintro first second third - uid racer again hracer hagain
  have hfirst := (@mapped_run registry tracker h first).1
  rw [run_append] at hagain
  obtain ⟨hsecond, hstay⟩ := @mapped_run registry _ hfirst second
  exact Option.some.inj ((hsecond uid again hagain).symm.trans (hstay uid racer.oid (hfirst uid racer hracer)))

/-- As long as there are ids left, all objects and racers of a race have different and valid ones, and a
character has the same id in all races of the room. -/
theorem oids_distinct (registry : Registry) (race : RaceInstance) (inputs : List TrackerInput)
    (h : Guarded (trackerStep registry) (Fits registry) (RaceTracker.opened race) inputs) :
    (∀ first second, inputs = first ++ second →
      DistinctOids (run (trackerStep registry) (RaceTracker.opened race) first).race) ∧
      KeepsOids registry (RaceTracker.opened race) inputs := by
  refine ⟨?_, keepsOids (tracked_opened race).mapped inputs⟩
  rintro first second rfl
  exact distinct_of_tracked ((guarded_append.1 h).1.invariant tracked_step (tracked_opened race))

/-! ### A room with eggs -/

def nestEgg : EggInfo where
  tid := 46018
  deckItemId := 901
  region := 0
  obtainRatio := 1

/-- One region for all maps, with an egg. -/
def nest : Registry where
  region := fun _ => some 0
  eggs := [nestEgg]

/-- The start of a race, and the request for an event item. -/
def hatchStart : TrackerInput := .start { players := [(100, .solo)], decks := [{}] }

def hatchRequest : TrackerInput := .egg ⟨hatching.around, .gameCreateClientItem 5 0 {}⟩

theorem oids_distinct_hatchery :
    (∀ first second, [hatchStart, hatchRequest, hatchRequest] = first ++ second →
      DistinctOids (run (trackerStep nest) (RaceTracker.opened hatchery) first).race) ∧
      KeepsOids nest (RaceTracker.opened hatchery) [hatchStart, hatchRequest, hatchRequest] :=
  oids_distinct nest hatchery [hatchStart, hatchRequest, hatchRequest]
    ⟨⟨by decide, fun _ => by decide +kernel⟩, fun _ _ _ _ => by decide +kernel,
      fun _ _ _ _ => by decide +kernel, trivial⟩

/-- The racer is there, and has no egg. -/
def Hatching (race : RaceInstance) : Prop :=
  race.roomUid = 1 ∧ (characterStorage.find true 100 race.data).map (fun character =>
    hasItem (fun _ => true) (fun _ => true) 46018 ⟨character, race.data⟩) = some false ∧ 100 ∈ race.racers

instance (race : RaceInstance) : Decidable (Hatching race) := inferInstanceAs (Decidable (_ ∧ _ ∧ _))

theorem creates_of_hatching {race : RaceInstance} (h : Hatching race) :
    ∃ racer, Creates nest hatching.around 5 0 {} race 100 racer nestEgg := by
  obtain ⟨hroom, hunowned, hmem⟩ := h
  obtain ⟨racer, hracer⟩ := isSome_iff_exists.1 (ExtTreeMap.isSome_getElem?_iff_mem.2 hmem)
  obtain ⟨character, hcharacter, hitem⟩ := map_eq_some_iff.1 hunowned
  refine ⟨racer, rfl, ?_, ⟨0, rfl, rfl⟩, character, hcharacter, hitem⟩
  have hclient : hatching.around.getClientContext 5 =
    .ok { characterUid := 100, roomUid := 1, isAuthenticated := true } := rfl
  have hinvalid : (1 : UInt32) ≠ invalidUid := by decide
  have hne : ¬((1 : UInt32) ≠ race.roomUid) := fun h => h hroom.symm
  rw [Surroundings.getRacer, hclient]
  dsimp only [bind, Except.bind]
  rw [if_neg hinvalid, if_neg hne, hracer]
  rfl

/-- A request that is served, and the item that it creates. -/
theorem hatched_step {tracker : RaceTracker} (h : Hatching tracker.race) :
    trackerStep nest tracker hatchRequest = tracker.setRace (withEventItem 100 901 tracker.race) ∧
      Hatching (trackerStep nest tracker hatchRequest).race := by
  have hstep : trackerStep nest tracker hatchRequest = tracker.setRace (withEventItem 100 901 tracker.race) := by
    obtain ⟨racer, hcreates⟩ := creates_of_hatching h
    have houtcome := @createOutcome nest hatching.around 5 0 {} tracker.race
    show tracker.setRace ((handleGameCreateClientItem nest hatching.around 5 0 {}).final tracker.race) = _
    generalize (handleGameCreateClientItem nest hatching.around 5 0 {}).final tracker.race = after at houtcome ⊢
    cases houtcome with
    | same hnone => exact absurd hcreates (hnone 100 racer nestEgg)
    | created uid other egg hother =>
      cases hcreates.invoker.symm.trans hother.invoker
      obtain ⟨region, hregion, hegg⟩ := hcreates.selected
      obtain ⟨_, hsame, hselected⟩ := hother.selected
      cases hregion.symm.trans hsame
      cases hegg.symm.trans hselected
      rfl
  refine ⟨hstep, ?_⟩
  rw [hstep]
  refine ⟨h.1, h.2.1, ?_⟩
  exact ExtTreeMap.mem_modify.2 h.2.2

theorem hatched_run {tracker : RaceTracker} (h : Hatching tracker.race) (count : Nat) :
    Hatching (run (trackerStep nest) tracker (List.replicate count hatchRequest)).race ∧
      (run (trackerStep nest) tracker (List.replicate count hatchRequest)).race.nextItemDeckOid =
        tracker.race.nextItemDeckOid + UInt16.ofNat count := by
  induction count with
  | zero => exact ⟨h, (UInt16.add_zero _).symm⟩
  | succ count ih =>
    obtain ⟨hhatching, hnext⟩ := ih
    obtain ⟨hstep, hlater⟩ := hatched_step hhatching
    rw [replicate_succ', run_append]
    refine ⟨hlater, ?_⟩
    show (trackerStep nest _ hatchRequest).race.nextItemDeckOid = _
    rw [hstep]
    show (run (trackerStep nest) tracker (List.replicate count hatchRequest)).race.nextItemDeckOid + 1 = _
    rw [hnext, UInt16.ofNat_add, UInt16.add_assoc]
    rfl

/-- Of 65535 requests for event items in a race with one deck, the last gets the invalid id. -/
theorem oid_invalid : ¬((∀ first second, hatchStart :: List.replicate 65535 hatchRequest = first ++ second →
    DistinctOids (run (trackerStep nest) (RaceTracker.opened hatchery) first).race) ∧
      KeepsOids nest (RaceTracker.opened hatchery) (hatchStart :: List.replicate 65535 hatchRequest)) := by
  rintro ⟨hdistinct, -⟩
  have hall := hdistinct _ [] (List.append_nil _).symm
  have hstarted : Hatching (trackerStep nest (RaceTracker.opened hatchery) hatchStart).race ∧
    (trackerStep nest (RaceTracker.opened hatchery) hatchStart).race.nextItemDeckOid = 2 := by decide +kernel
  obtain ⟨hhatching, hnext⟩ := hatched_run hstarted.1 65534
  rw [run_cons, List.replicate_succ', run_append] at hall
  generalize run (trackerStep nest) (trackerStep nest (RaceTracker.opened hatchery) hatchStart)
    (List.replicate 65534 hatchRequest) = full at hall hhatching hnext
  -- The counter has come round.
  have hzero : full.race.nextItemDeckOid = 0 := by
    rw [hnext, hstarted.2]
    rfl
  have hlast : DistinctOids (trackerStep nest full hatchRequest).race := hall
  rw [(hatched_step hhatching).1] at hlast
  obtain ⟨racer, hracer⟩ := Option.isSome_iff_exists.1 (ExtTreeMap.isSome_getElem?_iff_mem.2 hhatching.2.2)
  have hadded : (withEventItem 100 901 full.race).racers[(100 : Uid)]? =
      some { racer with eventItems := racer.eventItems ++ [⟨0, 901, full.race.created.length⟩] } := by
    refine (getElem?_updateRacer 100 100 _ full.race).trans ?_
    rw [if_pos rfl, hracer, hzero]
    rfl
  exact (hlast.items 100 _ hadded _ (List.mem_append_right _ List.mem_cons_self)).1 rfl

end Runs

end Alicia.Magic
