import Alicia.Magic.Messages

/-!
# What leaves the effects alone

The commands of a race that have nothing to do with spells leave the effects of the racers, their generations
and the rank of the attack as they are.
-/

namespace Alicia.Magic

open Std (ExtTreeMap)
open Transition Effect Data RaceInstance
open Race (Instant)

/-- What spells do to a racer. -/
def Racer.spells (racer : Racer) : Condition × (UInt32 → UInt32) := (racer.toCondition, racer.effectGenerations)

def RaceInstance.spells (race : RaceInstance) (uid : Uid) : Option (Condition × (UInt32 → UInt32)) :=
  (race.racers[uid]?).map Racer.spells

/-- Nothing about the effects of a racer differs. -/
def Calm (before after : RaceInstance) : Prop := ∀ uid, after.spells uid = before.spells uid

namespace Calm

instance : Std.Refl Calm := ⟨fun _ _ => rfl⟩

instance : IsTrans RaceInstance Calm := ⟨fun _ _ _ h hnext uid => (hnext uid).trans (h uid)⟩

instance : Unsent Calm := ⟨fun _ _ _ => rfl⟩

theorem spells_updateRacer {uid : Uid} {change : Racer → Racer}
    {f : Condition × (UInt32 → UInt32) → Condition × (UInt32 → UInt32)}
    (h : ∀ racer, (change racer).spells = f racer.spells) (race : RaceInstance) (other : Uid) :
    (race.updateRacer uid change).spells other =
      if other = uid then (race.spells other).map f else race.spells other := by
  rw [spells, getElem?_updateRacer]
  split
  · rw [spells, Option.map_map, Option.map_map]
    exact congrArg (Option.map · _) (funext h)
  · rfl

theorem update {uid : Uid} {change : Racer → Racer} (h : ∀ racer, (change racer).spells = racer.spells) :
    Keeps Calm (updateRacer uid change) := by
  intro race other
  refine (spells_updateRacer (f := id) h race other).trans ?_
  split
  · exact congrFun Option.map_id _
  · rfl

/-- The racers are not touched. -/
theorem modify {change : RaceInstance → RaceInstance} (h : ∀ race, (change race).racers = race.racers) :
    Keeps Calm (modify change : Handling Unit) :=
  .modify fun race uid => by rw [spells, h race, spells]

variable {registry : Registry} {around : Surroundings} {client : ClientId} {uid : Uid} {racer : Racer}

/-! ### Spells without effects -/

theorem drainGauge {oid : UInt16} : Keeps Calm (drainGauge around uid oid) := by
  refine .bind (update fun _ => rfl) fun _ => ?_
  split
  · exact .pure _
  · exact keeps_queueCommand _ _ _

theorem nextEffectInstanceId (increment : UInt16) : Keeps Calm (nextEffectInstanceId increment) :=
  .bind .get fun _ => .bind (modify fun _ => rfl) fun _ => .pure _

theorem handleRequestMagicItem {characterOid : UInt16} {roll : Roll} :
    Keeps Calm (handleRequestMagicItem registry around client characterOid roll) := by
  refine .bind (keeps_ask _) ?_
  rintro ⟨uid, racer⟩
  dsimp only
  split
  · exact .pure _
  refine .bind (keeps_ask _) fun _ => ?_
  split
  · exact .pure _
  · exact .bind (keeps_ask _) fun _ => .bind (update fun _ => rfl) fun _ =>
      .bind (keeps_queueCommand _ _ _) fun _ => .bind (keeps_queueCommand _ _ _) fun _ =>
      keeps_broadcastExcept _ _ _

theorem stripHeldMagicItem : Keeps Calm (stripHeldMagicItem around uid) := by
  refine .bind .get fun _ => ?_
  split
  · exact .pure _
  split
  · exact .pure _
  · exact .bind (update fun _ => rfl) fun _ => keeps_broadcast _ _

theorem spells_regenerate (registry : Registry) (now raceStart : Instant) (starPointsMax : UInt32) (racer : Racer) :
    (regenerate registry now raceStart starPointsMax racer).spells = racer.spells := by
  rw [regenerate]
  dsimp only
  split
  · rfl
  · rfl

theorem tickMagicGauge : Keeps Calm (tickMagicGauge registry around) := by
  refine .bind .get fun race => ?_
  split
  · exact .pure _
  refine .bind (keeps_ask _) fun players => .forM (fun player now => ?_) _
  obtain ⟨uid, client⟩ := player
  rw [final_bind_ok (get_apply _)]
  cases hracer : now.racers[uid]? with
  | none => exact refl_of Calm now
  | some racer =>
    dsimp only
    rw [Magic.updateRacer, final_bind_ok (modify_apply _ _)]
    have hset : Calm now (now.updateRacer uid fun _ =>
        regenerate registry around.now race.raceStart race.starPointsMax racer) := by
      intro other
      rw [spells, getElem?_updateRacer, spells]
      split
      · next hother =>
          rw [hother, hracer]
          exact congrArg some (spells_regenerate _ _ _ _ racer)
      · rfl
    exact trans_of Calm hset (keeps_queueCommand _ _ _ _)

/-! ### Pickups and eggs -/

variable {command : UserRaceItemGet} {lookups : PickupLookups} {deck : ItemDeck}

theorem giveEgg {tid : Tid} : Keeps Calm (giveEgg uid tid lookups) := by
  intro race
  rw [Magic.giveEgg, final_zoom]
  exact fun _ => rfl

theorem recordGift {itemUid : Uid} {gift : Gift} : Keeps Calm (recordGift itemUid gift) := by
  rw [Magic.recordGift]
  split
  · exact modify fun _ => rfl
  · exact .pure _

theorem getEventItem {item : EventItem} :
    Keeps Calm (getEventItem registry around uid item command lookups) :=
  .bind (keeps_ask _) fun _ => .bind .get fun _ =>
    .bind giveEgg fun _ => .bind recordGift fun _ =>
    .bind (keeps_broadcast _ _) fun _ => .bind (keeps_broadcast _ _) fun _ =>
    update fun _ => rfl

theorem takeMagicItem {characterOid : UInt16} {roll : Roll} :
    Keeps Calm (takeMagicItem registry around client uid racer deck characterOid roll) := by
  rw [Magic.takeMagicItem]
  split
  · exact .pure _
  · exact .bind (keeps_ask _) fun _ => .bind (update fun _ => rfl) fun _ =>
      .bind (keeps_queueCommand _ _ _) fun _ => .bind (update fun _ => rfl) fun _ =>
      .bind (keeps_queueCommand _ _ _) fun _ => .pure _

theorem getDeckInMode {gameMode : GameModeInfo} :
    Keeps Calm (getDeckInMode registry around client uid racer deck command lookups gameMode) := by
  rw [Magic.getDeckInMode]
  split
  · exact .bind (update fun _ => rfl) fun _ => .bind (keeps_queueCommand _ _ _) fun _ =>
      .pure _
  split
  · exact .bind takeMagicItem fun _ =>
      .bind (.bind (modify fun _ => rfl) fun _ => .pure _) fun _ =>
      .bind (keeps_broadcastExcept _ _ _) fun _ => .pure _
  · exact .pure _

theorem coolDown (uid : Uid) (deckId : UInt16) (until_ : Instant) (race : RaceInstance) :
    Calm race (coolDown uid deckId until_ race) := by
  intro other
  rw [spells, Magic.coolDown, ExtTreeMap.getElem?_map, Option.map_map]
  rfl

theorem handleUserRaceItemGet :
    Keeps Calm (handleUserRaceItemGet registry around client command lookups) := by
  refine .bind (keeps_ask _) ?_
  rintro ⟨uid, racer⟩
  dsimp only
  split
  · exact getEventItem
  refine .bind .get fun _ => ?_
  split
  · exact .pure _
  split
  · exact .pure _
  · exact .bind (.modify (coolDown _ _ _)) fun _ => .bind (keeps_ask _) fun _ =>
      .bind (keeps_ask _) fun _ => .bind getDeckInMode fun _ => keeps_broadcast _ _

theorem handleLoadingComplete {lookups : LoadingLookups} :
    Keeps Calm (handleLoadingComplete registry around client lookups) := by
  refine .bind (keeps_ask _) ?_
  rintro ⟨uid, racer⟩
  dsimp only
  refine .bind .get fun _ => .bind (update fun _ => rfl) fun _ =>
    .bind (keeps_ask _) fun _ => .bind (keeps_ask _) fun _ =>
    .bind (update fun _ => rfl) fun _ => .bind (keeps_broadcast _ _) fun _ => ?_
  split
  · exact .pure _
  refine .bind (keeps_ask _) fun _ => ?_
  split
  · exact .bind (keeps_queueCommand _ _ _) fun _ => modify fun _ => rfl
  · exact .pure _

theorem handleGameCreateClientItem {unk1 : UInt32} {lookups : CreateLookups} :
    Keeps Calm (handleGameCreateClientItem registry around client unk1 lookups) := by
  rw [Magic.handleGameCreateClientItem]
  split
  · exact .throw _
  refine .bind (keeps_ask _) ?_
  rintro ⟨uid, racer⟩
  refine .bind (keeps_ask _) fun _ => ?_
  dsimp only
  split
  · exact .pure _
  split
  · exact .throw _
  refine .bind (keeps_ask _) fun _ => .bind .get fun _ => ?_
  split
  · exact .pure _
  · exact .bind .get fun _ => .bind (update fun _ => rfl) fun _ =>
      modify fun _ => rfl

/-- The commands about eggs. -/
theorem handle (command : EggCommand) : Keeps Calm (command.handle registry around) := by
  cases command with
  | loadingComplete client lookups => exact handleLoadingComplete
  | gameCreateClientItem client unk1 lookups => exact handleGameCreateClientItem
  | userRaceItemGet client command lookups => exact handleUserRaceItemGet

end Calm

end Alicia.Magic
