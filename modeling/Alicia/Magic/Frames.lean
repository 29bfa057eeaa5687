import Alicia.Magic.Messages

/-!
# What magic leaves alone

The commands of a race of magic change a racer only in some respects.  A relation that allows for these changes,
and does not depend on what a spell counts and records, holds between the races before and after a command.
-/

namespace Alicia.Magic

open Std (ExtTreeMap)
open Transition Effect Data
open Race (Instant)

/-- A racer keeps its id, gets no event item, and gains no points. -/
structure Tame (before after : Racer) : Prop where
  oid : after.oid = before.oid
  eventItems : after.eventItems.Sublist before.eventItems
  starPointValue : after.starPointValue ≤ before.starPointValue

/-- Nothing that matters has changed. -/
theorem Tame.same {before after : Racer} (hoid : after.oid = before.oid) (hitems : after.eventItems = before.eventItems)
    (hpoints : after.starPointValue = before.starPointValue) : Tame before after :=
  ⟨hoid, hitems ▸ List.Sublist.refl _, hpoints ▸ UInt32.le_refl _⟩

/-- The gauge is emptied. -/
theorem Tame.drained {before after : Racer} (hoid : after.oid = before.oid)
    (hitems : after.eventItems = before.eventItems) (hpoints : after.starPointValue = 0) : Tame before after :=
  ⟨hoid, hitems ▸ List.Sublist.refl _, hpoints ▸ UInt32.zero_le⟩

/-- The relation allows for what magic does. -/
class Frame (R : RaceInstance → RaceInstance → Prop) : Prop extends Unsent R where
  update : ∀ (uid : Uid) (change : Racer → Racer), (∀ racer, Tame racer (change racer)) →
    ∀ race, R race (RaceInstance.updateRacer uid change race)
  map : ∀ (change : Uid → Racer → Racer), (∀ uid racer, Tame racer (change uid racer)) →
    ∀ race : RaceInstance, R race { race with racers := race.racers.map change }
  others : ∀ (race : RaceInstance) data offered gifts,
    R race { race with data := data, offered := offered, gifts := gifts }

/-- The relation does not depend on the count of the effect instances. -/
class Uncounted (R : RaceInstance → RaceInstance → Prop) : Prop where
  count : ∀ (race : RaceInstance) nextEffectInstanceId, R race { race with nextEffectInstanceId := nextEffectInstanceId }

namespace Frame

variable {R : RaceInstance → RaceInstance → Prop} [Frame R] {registry : Registry} {around : Surroundings}
  {client : ClientId} {uid : Uid} {racer : Racer} {slot : SlotInfo} {command : UserRaceItemGet}
  {lookups : PickupLookups} {deck : ItemDeck}

theorem updateRacer {change : Racer → Racer} (h : ∀ racer, Tame racer (change racer)) :
    Keeps R (updateRacer uid change) := Frame.update uid change h

theorem giveEgg {tid : Tid} : Keeps R (giveEgg uid tid lookups) := by
  intro race
  rw [Magic.giveEgg, final_zoom]
  exact Frame.others race _ race.offered race.gifts

theorem coolDown (uid : Uid) (deckId : UInt16) (until_ : Instant) (race : RaceInstance) :
    R race (coolDown uid deckId until_ race) :=
  Frame.map (fun other racer =>
      { racer with
        deckCooldown := Function.update racer.deckCooldown deckId
          (if other = uid then some until_ else none) })
    (fun _ _ => Tame.same rfl rfl rfl) race

variable [Std.Refl R]

theorem recordGift {itemUid : Uid} {gift : Gift} : Keeps R (recordGift itemUid gift) := by
  rw [Magic.recordGift]
  split
  · exact .modify fun race => Frame.others race race.data _ _
  · exact .pure _

variable [IsTrans RaceInstance R]

/-! ### Spells -/

theorem removeEffect {oid : UInt16} {effectId : UInt32} :
    Keeps R (removeEffect around uid oid effectId) := by
  rw [Magic.removeEffect]
  split
  · exact .bind (updateRacer fun _ => Tame.same rfl rfl rfl) fun _ => keeps_broadcast _ _
  · exact .pure _

theorem stripEffectsOnAttack {oid : UInt16} :
    Keeps R (stripEffectsOnAttack registry around uid oid slot) := by
  refine .forM (fun _ => .bind .get fun _ => ?_) _
  split
  · exact removeEffect
  · exact .pure _

theorem drainGauge {oid : UInt16} : Keeps R (drainGauge around uid oid) := by
  refine .bind (updateRacer fun _ => Tame.drained rfl rfl rfl) fun _ => ?_
  split
  · exact .pure _
  · exact keeps_queueCommand _ _ _

theorem scheduleSkillEffect {attackerOid targetOid effectInstanceId : UInt16} :
    Keeps R (scheduleSkillEffect registry around attackerOid targetOid slot effectInstanceId) := by
  refine .bind .get fun race => ?_
  split
  · exact .pure _
  split
  · exact .pure _
  refine .bind (keeps_ask _) fun resolution => .bind (keeps_broadcast _ _) fun _ => ?_
  split
  · exact .pure _
  split
  · exact .pure _
  refine .bind (updateRacer fun _ => Tame.same rfl rfl rfl) fun _ => ?_
  split
  · refine .bind stripEffectsOnAttack fun _ => ?_
    split
    · exact .bind drainGauge fun _ => .pure _
    · exact .pure _
  · exact .pure _

theorem consumeCriticalAura : Keeps R (consumeCriticalAura registry around uid racer slot) := by
  rw [Magic.consumeCriticalAura]
  split
  · exact .pure _
  · exact .bind (.forM (fun _ => removeEffect) _) fun _ => keeps_ask _

omit [Frame R] in
theorem nextEffectInstanceId [Uncounted R] (increment : UInt16) : Keeps R (nextEffectInstanceId increment) :=
  .bind .get fun _ =>
    .bind (.modify fun race => Uncounted.count race _) fun _ => .pure _

theorem applyImmediateMagicEffects {effectInstanceId : UInt16} :
    Keeps R (applyImmediateMagicEffects registry around racer slot effectInstanceId) := by
  rw [Magic.applyImmediateMagicEffects]
  split
  · exact .bind scheduleSkillEffect fun _ => .pure _
  split
  · exact .pure _
  split
  · exact .bind .get fun _ =>
      .forM (fun _ => .bind scheduleSkillEffect fun _ => .pure _) _
  · exact .pure _

theorem handleUseMagicItem [Uncounted R] {command : UseMagicItem} :
    Keeps R (handleUseMagicItem registry around client command) := by
  refine .bind (keeps_ask _) ?_
  rintro ⟨uid, racer⟩
  dsimp only
  split
  · exact .pure _
  split
  · exact .bind (updateRacer fun _ => Tame.same rfl rfl rfl) fun _ => keeps_queueCommand _ _ _
  · exact .bind (keeps_ask _) fun _ => .bind consumeCriticalAura fun _ =>
      .bind .get fun _ => .bind (nextEffectInstanceId _) fun _ =>
      .bind (keeps_queueCommand _ _ _) fun _ => .bind (keeps_broadcastExcept _ _ _) fun _ =>
      .bind applyImmediateMagicEffects fun _ => updateRacer fun _ => Tame.same rfl rfl rfl

theorem handleRequestMagicItem {characterOid : UInt16} {roll : Roll} :
    Keeps R (handleRequestMagicItem registry around client characterOid roll) := by
  refine .bind (keeps_ask _) ?_
  rintro ⟨uid, racer⟩
  dsimp only
  split
  · exact .pure _
  refine .bind (keeps_ask _) fun _ => ?_
  split
  · exact .pure _
  · exact .bind (keeps_ask _) fun _ =>
      .bind (updateRacer fun _ => Tame.drained rfl rfl rfl) fun _ =>
      .bind (keeps_queueCommand _ _ _) fun _ => .bind (keeps_queueCommand _ _ _) fun _ =>
      keeps_broadcastExcept _ _ _

theorem handleActivateSkillEffect {command : ActivateSkillEffect} :
    Keeps R (handleActivateSkillEffect registry around client command) := by
  refine .bind (keeps_ask _) ?_
  rintro ⟨uid, target⟩
  dsimp only
  split
  · exact .pure _
  refine .bind (keeps_ask _) fun slot => ?_
  have hfree : Keeps R
      (Magic.updateRacer uid fun racer => { racer with pendingMagicTarget := none }) :=
    updateRacer fun _ => Tame.same rfl rfl rfl
  refine .ite_bind (keeps_broadcast _ _) (.bind scheduleSkillEffect fun verdict => ?_)
  -- A summon that is reported frees the racer once more.
  have hend : Keeps R (if slot.basicType = MagicType.summon then
      Magic.updateRacer uid fun racer => { racer with pendingMagicTarget := none } else pure ⟨⟩) := by
    split
    · exact hfree
    · exact .pure _
  cases target.pendingMagicTarget with
  | none => exact hend
  | some pending =>
    dsimp only
    split
    · exact .bind (keeps_broadcast _ _) fun _ => .bind hfree fun _ => hend
    · exact hend

theorem stripHeldMagicItem : Keeps R (stripHeldMagicItem around uid) := by
  refine .bind .get fun _ => ?_
  split
  · exact .pure _
  split
  · exact .pure _
  · exact .bind (updateRacer fun _ => Tame.same rfl rfl rfl) fun _ => keeps_broadcast _ _

/-! ### Pickups -/

theorem getEventItem {item : EventItem} : Keeps R (getEventItem registry around uid item command lookups) :=
  .bind (keeps_ask _) fun _ => .bind .get fun _ =>
    .bind giveEgg fun _ => .bind recordGift fun _ =>
    .bind (keeps_broadcast _ _) fun _ => .bind (keeps_broadcast _ _) fun _ =>
    updateRacer fun _ => ⟨rfl, List.filter_sublist, UInt32.le_refl _⟩

theorem takeMagicItem {characterOid : UInt16} {roll : Roll} :
    Keeps R (takeMagicItem registry around client uid racer deck characterOid roll) := by
  rw [Magic.takeMagicItem]
  split
  · exact .pure _
  · exact .bind (keeps_ask _) fun _ =>
      .bind (updateRacer fun _ => Tame.same rfl rfl rfl) fun _ =>
      .bind (keeps_queueCommand _ _ _) fun _ =>
      .bind (updateRacer fun _ => Tame.drained rfl rfl rfl) fun _ =>
      .bind (keeps_queueCommand _ _ _) fun _ => .pure _

/-! ### Eggs -/

theorem handleLoadingComplete {lookups : LoadingLookups} :
    Keeps R (handleLoadingComplete registry around client lookups) := by
  refine .bind (keeps_ask _) ?_
  rintro ⟨uid, racer⟩
  dsimp only
  refine .bind .get fun _ =>
    .bind (updateRacer fun _ => Tame.same rfl rfl rfl) fun _ => .bind (keeps_ask _) fun _ =>
    .bind (keeps_ask _) fun _ => .bind (updateRacer fun _ => Tame.same rfl rfl rfl) fun _ =>
    .bind (keeps_broadcast _ _) fun _ => ?_
  split
  · exact .pure _
  refine .bind (keeps_ask _) fun _ => ?_
  split
  · exact .bind (keeps_queueCommand _ _ _) fun _ =>
      .modify fun race => Frame.others race _ _ race.gifts
  · exact .pure _

end Frame

end Alicia.Magic
