import Alicia.Magic.Expiry

/-!
# The rank of the attack on a racer

A racer keeps one rank for all attacks on it.  An attack is rejected unless its rank is larger, so the rank is
that of the last one; but when that one expires, the rank is cleared, also while an attack of a smaller rank
goes on.
-/

namespace Alicia.Magic

open Std (ExtTreeMap)
open Transition Effect Data Function List Option Bool

/-! ## The slots of the magic table -/

/-- `magic.slotInfo`, in the order of the file. -/
def magicTable : List SlotInfo :=
  [ { type := 2, basicType := 2, criticalType := 3, attackValue := 50, adjustMotionSpeed := 1,
      removeMagic := 1, attackRank := 2, criticalByDarkFire := 1 },
    { type := 3, basicType := 2, skillEffectId := 1, attackValue := 150,
      adjustMotionSpeed := 1, removeMagic := 1, attackRank := 2 },
    { type := 4, basicType := 4, criticalType := 5, skillEffectId := 2, adjustMotionSpeed := 1 },
    { type := 5, basicType := 4, skillEffectId := 3, adjustMotionSpeed := 1 },
    { type := 6, basicType := 6, criticalType := 7, skillEffectId := 5,
      adjustMotionSpeed := 1, replaceEffect := 1 },
    { type := 7, basicType := 6, skillEffectId := 5, adjustMotionSpeed := 1, replaceEffect := 1 },
    { type := 8, basicType := 8, criticalType := 9, skillEffectId := 6,
      adjustMotionSpeed := 1, replaceEffect := 1 },
    { type := 9, basicType := 8, skillEffectId := 7, adjustMotionSpeed := 1, replaceEffect := 1 },
    { type := 10, basicType := 10, criticalType := 11, skillEffectId := 8, attackValue := 50,
      adjustMotionSpeed := 1, removeMagic := 1, attackRank := 1 },
    { type := 11, basicType := 10, skillEffectId := 9, attackValue := 50,
      adjustMotionSpeed := 1, removeMagic := 1, attackRank := 1 },
    { type := 12, basicType := 12, criticalType := 13, skillEffectId := 10,
      attackValue := 50, replaceEffect := 1 },
    { type := 13, basicType := 12, skillEffectId := 11, attackValue := 150, replaceEffect := 1 },
    { type := 14, basicType := 14, criticalType := 15, skillEffectId := 12,
      attackValue := 50, replaceEffect := 1 },
    { type := 15, basicType := 14, skillEffectId := 13, attackValue := 150, replaceEffect := 1 },
    { type := 16, basicType := 16, criticalType := 17, skillEffectId := 14, attackValue := 50,
      adjustMotionSpeed := 1, removeMagic := 1, attackRank := 2 },
    { type := 17, basicType := 16, skillEffectId := 15, attackValue := 150,
      adjustMotionSpeed := 1, removeMagic := 1, attackRank := 2 },
    { type := 18, basicType := 18, criticalType := 19, skillEffectId := 16, attackValue := 150, adjustMotionSpeed := 1,
      removeMagic := 1, removeHotRodding := 1, attackRank := 3, criticalByDarkFire := 1 },
    { type := 19, basicType := 18, skillEffectId := 17, attackValue := 250, adjustMotionSpeed := 1,
      removeMagic := 1, removeHotRodding := 1, attackRank := 3 },
    { type := 20, basicType := 20, criticalType := 21, skillEffectId := 18,
      adjustMotionSpeed := 1, replaceEffect := 1 },
    { type := 21, basicType := 20, skillEffectId := 19, adjustMotionSpeed := 1, replaceEffect := 1 },
    { type := 22, basicType := 22, criticalType := 23, skillEffectId := 20,
      adjustMotionSpeed := 1, replaceEffect := 1 },
    { type := 23, basicType := 22, skillEffectId := 21, adjustMotionSpeed := 1, replaceEffect := 1 },
    { type := 24, basicType := 24, criticalType := 25, skillEffectId := 22,
      adjustMotionSpeed := 1, replaceEffect := 1 },
    { type := 25, basicType := 24, skillEffectId := 23, adjustMotionSpeed := 1, replaceEffect := 1 },
    { type := 27, basicType := 27, skillEffectId := 99999, givePositionalMagic := 1 } ]

/-- What the ranks rely on: one rank for an effect, and none for an effect that can be stripped or consumed. -/
structure Ranking (slots : List SlotInfo) : Prop where
  same : ∀ first ∈ slots, ∀ second ∈ slots, first.skillEffectId = second.skillEffectId →
    first.attackRank = second.attackRank
  stripped : ∀ attack, ∀ active ∈ slots, isStrippedByAttack attack active = true → active.attackRank = 0
  consumed : ∀ slot ∈ slots, slot.skillEffectId ∈ auraEffectIds → slot.attackRank = 0

/-- The effects that are attacks or no attacks, and that can be stripped in any case. -/
def strippedEffectIds : List UInt32 :=
  open SkillEffect in
  [jumpStun, jumpStunCritical, darkFire, darkFireCritical, booster, bufSpeed, bufSpeedCritical, waterShield]

/-- Of the other effects, none of an attack is stripped. -/
theorem weak_of_stripped {attack active : SlotInfo} (h : isStrippedByAttack attack active = true) :
    active.attackValue = 0 ∨ active.skillEffectId ∈ strippedEffectIds := by
  have hids : ∀ {some all : List UInt32}, some ⊆ all → some.contains active.skillEffectId = true →
      active.skillEffectId ∈ all := fun hsub hcontains => hsub (contains_iff_mem.1 hcontains)
  rw [isStrippedByAttack] at h
  split at h
  · cases h
  split at h
  · next hcontains => exact .inr (hids (by decide) hcontains)
  split at h
  · next hcontains => exact .inr (hids (by decide) hcontains)
  split at h
  · next hshield =>
      rw [hshield]
      exact .inr (by decide)
  · exact .inl (of_decide_eq_true (and_eq_true_iff.1 h).2)

theorem ranking_magicTable : Ranking magicTable := by
  refine ⟨by decide +kernel, fun attack active hactive hstripped => ?_, by decide +kernel⟩
  have hweak : ∀ active ∈ magicTable, active.attackValue = 0 ∨ active.skillEffectId ∈ strippedEffectIds →
    active.attackRank = 0 := by decide +kernel
  exact hweak active hactive (weak_of_stripped hstripped)

theorem Ranking.perm {slots others : List SlotInfo} (h : Ranking slots) (hperm : others.Perm slots) :
    Ranking others where
  same first hfirst second hsecond := h.same first (hperm.subset hfirst) second (hperm.subset hsecond)
  stripped attack active hactive := h.stripped attack active (hperm.subset hactive)
  consumed slot hslot := h.consumed slot (hperm.subset hslot)

/-! ## The purpose of the rank -/

/-- The rank is the largest one of the effects that are on, and zero if there is none. -/
structure RankFits (slots : List SlotInfo) (condition : Condition) : Prop where
  upper : ∀ slot ∈ slots, condition.effects slot.skillEffectId = true → slot.attackRank ≤ condition.attackRank
  reached : condition.attackRank = 0 ∨
    ∃ slot ∈ slots, condition.effects slot.skillEffectId = true ∧ slot.attackRank = condition.attackRank

/-- The rank fits for all racers. -/
def RankSound (registry : Registry) (race : RaceInstance) : Prop :=
  ∀ (uid : Uid) (racer : Racer), race.racers[uid]? = some racer → RankFits registry.slotInfo racer.toCondition

/-! ## The condition -/

/-- The condition: when an attack expires whose rank the racer has, no other attack goes on. -/
def Unrivalled (registry : Registry) (scheduled : ScheduledRace) : RoomInput → Prop
  | .command _ (.job index) => ∀ race expiry racer, scheduled.jobs[index]? = some ⟨race, .effectExpiry expiry⟩ →
      scheduled.race.racers[expiry.targetCharacterUid]? = some racer →
        racer.effectGenerations expiry.effectId = expiry.generation → 0 < expiry.attackRank →
          racer.attackRank = expiry.attackRank → ∀ slot ∈ registry.slotInfo, 0 < slot.attackRank →
            slot.skillEffectId ≠ expiry.effectId → racer.effects slot.skillEffectId = false
  | _ => True

variable {effectId : UInt32} {slot : SlotInfo}

/-! ## One racer -/

section Fits

variable {slots : List SlotInfo} {condition : Condition}

theorem rankFits_none (slots : List SlotInfo) : RankFits slots {} :=
  ⟨fun _ _ hon => absurd hon false_ne_true, .inl rfl⟩

/-- What is on besides an effect that ends was on before. -/
theorem on_before {effects : UInt32 → Bool} {which : UInt32}
    (h : update effects effectId false which = true) :
    which ≠ effectId ∧ effects which = true := by
  by_cases hwhich : which = effectId
  · rw [hwhich, update_self] at h
    cases h
  · exact ⟨hwhich, (update_of_ne hwhich _ _).symm.trans h⟩

/-- An effect without a rank ends. -/
theorem RankFits.off (h : RankFits slots condition)
    (hweak : ∀ slot ∈ slots, slot.skillEffectId = effectId → slot.attackRank = 0) :
    RankFits slots { condition with effects := update condition.effects effectId false } := by
  refine ⟨fun slot hslot hon => h.upper slot hslot (on_before hon).2, ?_⟩
  rcases h.reached with hnone | ⟨slot, hslot, hon, hrank⟩
  · exact .inl hnone
  · by_cases hid : slot.skillEffectId = effectId
    · exact .inl (hrank.symm.trans (hweak slot hslot hid))
    · exact .inr ⟨slot, hslot, (update_of_ne hid _ _).trans hon, hrank⟩

/-- An effect begins, with a larger rank if it has one. -/
theorem RankFits.on (h : RankFits slots condition) (hranking : Ranking slots) (hslot : slot ∈ slots)
    (hlt : 0 < slot.attackRank → condition.attackRank < slot.attackRank) :
    RankFits slots
      { condition with
        effects := update condition.effects slot.skillEffectId true
        attackRank := if 0 < slot.attackRank then slot.attackRank else condition.attackRank } := by
  by_cases hrank : 0 < slot.attackRank
  · rw [if_pos hrank]
    refine ⟨fun other hother hon => ?_, .inr ⟨slot, hslot, update_self _ _ _, rfl⟩⟩
    by_cases hid : other.skillEffectId = slot.skillEffectId
    · rw [hranking.same other hother slot hslot hid]
      exact UInt32.le_refl _
    · have hbefore : condition.effects other.skillEffectId = true := (update_of_ne hid _ _).symm.trans hon
      exact UInt32.le_trans (h.upper other hother hbefore) (UInt32.le_of_lt (hlt hrank))
  · rw [if_neg hrank]
    have hzero : slot.attackRank = 0 := UInt32.le_zero_iff.1 (UInt32.not_lt.1 hrank)
    refine ⟨fun other hother hon => ?_, ?_⟩
    · by_cases hid : other.skillEffectId = slot.skillEffectId
      · rw [hranking.same other hother slot hslot hid, hzero]
        exact UInt32.zero_le
      · exact h.upper other hother ((update_of_ne hid _ _).symm.trans hon)
    · rcases h.reached with hnone | ⟨other, hother, hon, hsame⟩
      · exact .inl hnone
      · refine .inr ⟨other, hother, ?_, hsame⟩
        by_cases hid : other.skillEffectId = slot.skillEffectId
        · rw [hid]
          exact update_self _ _ _
        · exact (update_of_ne hid _ _).trans hon

/-- An effect of a rank expires. -/
theorem rankFits_expired_iff (h : RankFits slots condition) {attackRank : UInt32}
    (hknown : ∀ slot ∈ slots, slot.skillEffectId = effectId → slot.attackRank = attackRank) :
    RankFits slots
        { condition with
          effects := update condition.effects effectId false
          attackRank := if 0 < attackRank ∧ condition.attackRank = attackRank then 0 else condition.attackRank } ↔
      (0 < attackRank → condition.attackRank = attackRank → ∀ slot ∈ slots, 0 < slot.attackRank →
        slot.skillEffectId ≠ effectId → condition.effects slot.skillEffectId = false) := by
  by_cases hcleared : 0 < attackRank ∧ condition.attackRank = attackRank
  · rw [if_pos hcleared]
    constructor
    · intro hfits _ _ slot hslot hpos hid
      refine eq_false_iff.2 fun hon => ?_
      have hle := hfits.upper slot hslot ((update_of_ne hid _ _).trans hon)
      exact UInt32.lt_irrefl _ (UInt32.lt_of_lt_of_le hpos hle)
    · intro hothers
      refine ⟨fun slot hslot hon => UInt32.not_lt.1 fun hpos => ?_, .inl rfl⟩
      obtain ⟨hid, hbefore⟩ := on_before hon
      exact absurd ((hothers hcleared.1 hcleared.2 slot hslot hpos hid).symm.trans hbefore) false_ne_true
  · rw [if_neg hcleared]
    refine ⟨fun _ hpos hsame => absurd ⟨hpos, hsame⟩ hcleared, fun _ => ?_⟩
    -- The rank is that of another effect, or there is none.
    by_cases hpos : 0 < attackRank
    · refine ⟨fun slot hslot hon => h.upper slot hslot (on_before hon).2, ?_⟩
      rcases h.reached with hnone | ⟨slot, hslot, hon, hrank⟩
      · exact .inl hnone
      · refine .inr ⟨slot, hslot, (update_of_ne (fun hid => ?_) _ _).trans hon, hrank⟩
        exact hcleared ⟨hpos, hrank.symm.trans (hknown slot hslot hid)⟩
    · have hzero : attackRank = 0 := UInt32.le_zero_iff.1 (UInt32.not_lt.1 hpos)
      exact h.off fun slot hslot hid => (hknown slot hslot hid).trans hzero

end Fits

/-! ## All racers -/

/-- The ranks fit, and a job has the rank of its effect. -/
structure Ranked (registry : Registry) (scheduled : ScheduledRace) : Prop where
  fits : ∀ uid spells, scheduled.race.spells uid = some spells → RankFits registry.slotInfo spells.1
  known : ∀ race expiry, ⟨race, .effectExpiry expiry⟩ ∈ scheduled.jobs → ∀ slot ∈ registry.slotInfo,
    slot.skillEffectId = expiry.effectId → slot.attackRank = expiry.attackRank

theorem rankSound_iff {registry : Registry} {race : RaceInstance} :
    RankSound registry race ↔ ∀ uid spells, race.spells uid = some spells → RankFits registry.slotInfo spells.1 := by
  constructor
  · intro h uid spells hspells
    obtain ⟨racer, hracer, rfl⟩ := map_eq_some_iff.1 hspells
    exact h uid racer hracer
  · intro h uid racer hracer
    exact h uid racer.spells (map_eq_some_iff.2 ⟨racer, hracer, rfl⟩)

section Ranks

variable {registry : Registry} {around : Surroundings} {scheduled : ScheduledRace}

/-- A race in which the ranks fit. -/
theorem Ranked.setRace (h : Ranked registry scheduled) {race : RaceInstance}
    (hfits : ∀ uid spells, race.spells uid = some spells → RankFits registry.slotInfo spells.1) :
    Ranked registry (scheduled.setRace race) := ⟨hfits, h.known⟩

/-- The same race, and no other jobs. -/
theorem Ranked.of_race (h : Ranked registry scheduled) {other : ScheduledRace} (hrace : other.race = scheduled.race)
    (hjobs : other.jobs ⊆ scheduled.jobs) : Ranked registry other :=
  ⟨hrace ▸ h.fits, fun race expiry hjob => h.known race expiry (hjobs hjob)⟩

theorem ranked_onRace {α : Type} {x : Handling α} (h : Keeps Calm x) :
    Keeps (Carries (Ranked registry)) (onRace x) := by
  intro scheduled hranked
  rw [onRace, final_zoom]
  refine hranked.setRace fun uid spells hspells => ?_
  rw [h scheduled.race uid] at hspells
  exact hranked.fits uid spells hspells

theorem ranked_queueJob {task : Task} (h : ∀ expiry, task = .effectExpiry expiry → ∀ slot ∈ registry.slotInfo,
    slot.skillEffectId = expiry.effectId → slot.attackRank = expiry.attackRank) :
    Keeps (Carries (Ranked registry)) (queueJob task) := by
  refine .modify fun scheduled hranked => ⟨hranked.fits, fun race expiry hjob => ?_⟩
  rcases mem_append.1 hjob with hold | hnew
  · exact hranked.known race expiry hold
  · exact h expiry (congrArg Job.task (mem_singleton.1 hnew)).symm

/-- The spells of one racer change. -/
theorem Ranked.update (h : Ranked registry scheduled) (uid : Uid) (change : Racer → Racer)
    {f : Condition × (UInt32 → UInt32) → Condition × (UInt32 → UInt32)}
    (hchange : ∀ racer, (change racer).spells = f racer.spells)
    (hfits : ∀ spells, scheduled.race.spells uid = some spells → RankFits registry.slotInfo spells.1 →
      RankFits registry.slotInfo (f spells).1) :
    Ranked registry (scheduled.setRace (scheduled.race.updateRacer uid change)) := by
  refine h.setRace fun other spells hspells => ?_
  rw [Calm.spells_updateRacer hchange] at hspells
  split at hspells
  · next hother =>
      rw [hother] at hspells
      obtain ⟨old, hold, rfl⟩ := map_eq_some_iff.1 hspells
      exact hfits old hold (h.fits uid old hold)
  · exact h.fits other spells hspells

theorem ranked_removeEffect
    (hweak : ∀ slot ∈ registry.slotInfo, slot.skillEffectId = effectId → slot.attackRank = 0)
    (uid : Uid) (oid : UInt16) :
    Keeps (Carries (Ranked registry)) (Scheduled.removeEffect around uid oid effectId) := by
  intro scheduled hranked
  rw [Scheduled.removeEffect, onRace, final_zoom, Magic.removeEffect]
  split
  · rw [updateRacer, final_bind_ok (modify_apply _ _)]
    have hoff := hranked.update uid
      (fun racer => { racer with
        effects := update racer.effects effectId false
        effectGenerations := update racer.effectGenerations effectId
          (racer.effectGenerations effectId + 1) })
      (f := fun spells => ({ spells.1 with effects := update spells.1.effects effectId false },
        update spells.2 effectId (spells.2 effectId + 1)))
      (fun _ => rfl) fun _ _ hfits => hfits.off hweak
    have hcalm := @keeps_broadcast Calm _ _ _ around (.removeSkillEffect oid effectId)
      (scheduled.race.updateRacer uid fun racer =>
        { racer with
          effects := update racer.effects effectId false
          effectGenerations := update racer.effectGenerations effectId
            (racer.effectGenerations effectId + 1) })
    refine hranked.setRace fun other spells hspells => ?_
    rw [hcalm other] at hspells
    exact hoff.fits other spells hspells
  · exact hranked.setRace hranked.fits

theorem ranked_stripEffectsOnAttack (hranking : Ranking registry.slotInfo) (uid : Uid) (oid : UInt16)
    (attack : SlotInfo) : Keeps (Carries (Ranked registry))
      (Scheduled.stripEffectsOnAttack registry around uid oid attack) := by
  -- Every slot of the loop is one of the table.
  have hloop : ∀ slots : List SlotInfo, slots ⊆ registry.slotInfo → Keeps (Carries (Ranked registry))
      (slots.forM fun slot => do
        if isValidSkillEffectId slot.skillEffectId && isStrippedByAttack attack slot &&
            hasEffect uid slot.skillEffectId (← get).race then
          Scheduled.removeEffect around uid oid slot.skillEffectId) := by
    intro slots hsub
    induction slots with
    | nil => exact .pure _
    | cons slot rest ih =>
      refine .bind (.bind .get fun scheduled => ?_) fun _ =>
        ih fun other hother => hsub (mem_cons_of_mem _ hother)
      split
      · next hstripped =>
          have hslot := hsub mem_cons_self
          have hweak := hranking.stripped attack slot hslot (and_eq_true_iff.1 (and_eq_true_iff.1 hstripped).1).2
          exact ranked_removeEffect (fun other hother hid => (hranking.same other hother slot hslot hid).trans hweak)
            uid oid
      · exact .pure _
  exact hloop registry.slotInfo (List.Subset.refl _)

theorem ranked_consumeCriticalAura (hranking : Ranking registry.slotInfo) (uid : Uid) (racer : Racer)
    (slot : SlotInfo) : Keeps (Carries (Ranked registry))
      (Scheduled.consumeCriticalAura registry around uid racer slot) := by
  have hremove : ∀ effectId ∈ auraEffectIds, Keeps (Carries (Ranked registry))
      (Scheduled.removeEffect around uid racer.oid effectId) := fun effectId haura =>
    ranked_removeEffect (fun other hother hid => hranking.consumed other hother (hid ▸ haura)) uid racer.oid
  have hloop : ∀ effectIds : List UInt32, effectIds ⊆ auraEffectIds → Keeps (Carries (Ranked registry))
      (effectIds.forM fun effectId => Scheduled.removeEffect around uid racer.oid effectId) := by
    intro effectIds hsub
    induction effectIds with
    | nil => exact .pure _
    | cons effectId rest ih =>
      exact .bind (hremove effectId (hsub mem_cons_self)) fun _ =>
        ih fun other hother => hsub (mem_cons_of_mem _ hother)
  rw [Scheduled.consumeCriticalAura]
  split
  · exact .pure _
  · exact .bind (hloop _ filter_sublist.subset) fun _ =>
      .of_final fun scheduled => final_ask _ scheduled

theorem getSlotInfo_mem {type : UInt32} (h : registry.getSlotInfo type = .ok slot) :
    slot ∈ registry.slotInfo := by
  rw [Registry.getSlotInfo] at h
  cases hfind : registry.slotInfo.find? fun slot => slot.type = type with
  | none =>
    rw [hfind] at h
    cases h
  | some found =>
    rw [hfind] at h
    cases h
    exact mem_of_find?_eq_some hfind

theorem reportedSlot_mem {target : Racer} (h : reportedSlot registry target effectId = .ok slot) :
    slot ∈ registry.slotInfo := by
  rw [reportedSlot, Registry.getSlotInfoByEffectId] at h
  cases hfind : registry.slotInfo.find? fun slot => slot.skillEffectId = effectId with
  | none =>
    rw [hfind] at h
    cases h
  | some found =>
    rw [hfind] at h
    dsimp only [bind, Except.bind] at h
    split at h
    · exact getSlotInfo_mem h
    · cases h
      exact mem_of_find?_eq_some hfind

theorem consumeCriticalAura_mem {uid : Uid} {racer : Racer} (hslot : slot ∈ registry.slotInfo) :
    Returns (· ∈ registry.slotInfo) (Scheduled.consumeCriticalAura registry around uid racer slot) := by
  rw [Scheduled.consumeCriticalAura]
  split
  · exact Returns.pure hslot
  · exact Returns.bind _ fun _ => Returns.ask fun _ _ h => getSlotInfo_mem h

/-- An effect that is neither blocked nor a duplicate begins. -/
theorem ranked_started (hranking : Ranking registry.slotInfo) (hslot : slot ∈ registry.slotInfo)
    (h : Ranked registry scheduled) (uid : Uid)
    (hlt : ∀ spells, scheduled.race.spells uid = some spells → 0 < slot.attackRank →
      spells.1.attackRank < slot.attackRank) :
    Ranked registry (scheduled.started uid slot.skillEffectId slot.attackRank) := by
  have hon := h.update uid
    (fun racer => { racer with
      effects := update racer.effects slot.skillEffectId true
      effectGenerations := update racer.effectGenerations slot.skillEffectId
        (racer.effectGenerations slot.skillEffectId + 1)
      attackRank := if 0 < slot.attackRank then slot.attackRank else racer.attackRank })
    (f := fun spells => (
      { effects := update spells.1.effects slot.skillEffectId true
        attackRank := if 0 < slot.attackRank then slot.attackRank else spells.1.attackRank },
      update spells.2 slot.skillEffectId (spells.2 slot.skillEffectId + 1)))
    (fun _ => rfl) fun spells hspells hfits => hfits.on hranking hslot (hlt spells hspells)
  exact ⟨hon.fits, hon.known⟩

theorem ranked_scheduleSkillEffect (hranking : Ranking registry.slotInfo)
    (hslot : slot ∈ registry.slotInfo) (attackerOid targetOid effectInstanceId : UInt16) :
    Keeps (Carries (Ranked registry))
      (Scheduled.scheduleSkillEffect registry around attackerOid targetOid slot effectInstanceId) := by
  intro scheduled h
  rw [Scheduled.scheduleSkillEffect, final_bind_ok (get_apply _)]
  cases hfind : scheduled.race.findRacerByOid targetOid with
  | none => exact h
  | some entry =>
    obtain ⟨uid, target⟩ := entry
    dsimp only
    split
    · exact h
    refine final_ask_bind (fun _ _ => h) fun resolution hresolve => ?_
    have htold := ranked_onRace (@keeps_broadcast Calm _ _ _ around (.addSkillEffect targetOid resolution.effectId
      attackerOid effectInstanceId resolution.isDuplicated resolution.shieldBlocks)) scheduled h
    cases hbroadcast : onRace (broadcast around (.addSkillEffect targetOid resolution.effectId attackerOid
        effectInstanceId resolution.isDuplicated resolution.shieldBlocks)) scheduled with
    | error failure told =>
      rw [final_error hbroadcast] at htold
      rw [final_bind_error hbroadcast]
      exact htold
    | ok done told =>
      rw [final_ok hbroadcast] at htold
      rw [final_bind_ok hbroadcast]
      split
      · exact htold
      split
      · exact htold
      next hblocks hduplicated =>
      obtain ⟨heffectId, hlt⟩ := resolveEffect_applied hresolve (eq_false_iff.2 hblocks)
        (eq_false_iff.2 hduplicated)
      have hsame := spells_told hbroadcast uid
      have hstarted := ranked_started hranking hslot htold uid fun spells hspells hpos => by
        rw [hsame, RaceInstance.spells, findRacerByOid_racers hfind] at hspells
        cases hspells
        exact hlt hpos
      rw [heffectId, final_bind_ok (started_ok told uid slot.skillEffectId slot.attackRank)]
      have hjob : ∀ started : ScheduledRace, Keeps (Carries (Ranked registry)) (do
          queueJob (.effectExpiry (started.expiryOf uid targetOid slot.skillEffectId slot.attackRank))
          return EffectVerdict.applied) := by
        intro started
        refine .bind (ranked_queueJob fun expiry hexpiry other hother hid => ?_) fun _ =>
          .pure _
        cases hexpiry
        exact hranking.same other hother slot hslot hid
      refine @Keeps.bind _ _ _ _ (Carries (Ranked registry)) _ _ _ .get (fun started => ?_) _
        hstarted
      split
      · refine .bind (ranked_stripEffectsOnAttack hranking _ _ _) fun _ => ?_
        split
        · exact .bind (ranked_onRace .drainGauge) fun _ => hjob started
        · exact hjob started
      · exact hjob started

/-! ### Commands -/

theorem ranked_ask {α : Type} (lookup : ScheduledRace → Except Failure α) :
    Keeps (Carries (Ranked registry)) (Effect.ask lookup) :=
  .of_final fun scheduled => final_ask lookup scheduled

theorem ranked_applyImmediateMagicEffects (hranking : Ranking registry.slotInfo)
    (hslot : slot ∈ registry.slotInfo) (racer : Racer) (effectInstanceId : UInt16) :
    Keeps (Carries (Ranked registry))
      (Scheduled.applyImmediateMagicEffects registry around racer slot effectInstanceId) := by
  rw [Scheduled.applyImmediateMagicEffects]
  split
  · exact .bind (ranked_scheduleSkillEffect hranking hslot _ _ _) fun _ => .pure _
  split
  · exact .pure _
  split
  · exact .bind .get fun _ => .forM (fun _ =>
      .bind (ranked_scheduleSkillEffect hranking hslot _ _ _) fun _ => .pure _) _
  · exact .pure _

theorem ranked_handleUseMagicItem (hranking : Ranking registry.slotInfo) (client : ClientId) (command : UseMagicItem) :
    Keeps (Carries (Ranked registry)) (Scheduled.handleUseMagicItem registry around client command) := by
  refine .bind (ranked_ask _) ?_
  rintro ⟨uid, racer⟩
  dsimp only
  split
  · exact .pure _
  split
  · exact .bind (ranked_onRace (.update fun _ => rfl)) fun _ => ranked_onRace (keeps_queueCommand _ _ _)
  refine .bind_returns (ranked_ask _) (Returns.ask fun _ _ h => getSlotInfo_mem h) fun slot hslot =>
    .bind_returns (ranked_consumeCriticalAura hranking _ _ _) (consumeCriticalAura_mem hslot)
      fun slot hslot => ?_
  exact .bind .get fun _ =>
    .bind (ranked_onRace (.nextEffectInstanceId _)) fun _ =>
    .bind (ranked_onRace (keeps_queueCommand _ _ _)) fun _ =>
    .bind (ranked_onRace (keeps_broadcastExcept _ _ _)) fun _ =>
    .bind (ranked_applyImmediateMagicEffects hranking hslot _ _) fun _ =>
    ranked_onRace (.update fun _ => rfl)

theorem ranked_handleActivateSkillEffect (hranking : Ranking registry.slotInfo) (client : ClientId)
    (command : ActivateSkillEffect) :
    Keeps (Carries (Ranked registry)) (Scheduled.handleActivateSkillEffect registry around client command) := by
  refine .bind (ranked_ask _) ?_
  rintro ⟨uid, target⟩
  dsimp only
  split
  · exact .pure _
  refine .bind_returns (ranked_ask _) (Returns.ask fun _ _ h => reportedSlot_mem h)
    fun slot hslot => ?_
  have hstrip : ∀ verdict, Keeps (Carries (Ranked registry))
      (Scheduled.queueHeldMagicItemStrip uid slot verdict) := by
    intro verdict
    refine .bind .get fun _ => ?_
    split
    · exact ranked_queueJob fun _ htask => Task.noConfusion htask
    · exact .pure _
  have hend : ∀ verdict, Keeps (Carries (Ranked registry)) (do
      Scheduled.queueHeldMagicItemStrip uid slot verdict
      if slot.basicType = MagicType.summon then
        onRace (updateRacer uid fun racer => { racer with pendingMagicTarget := none })) := by
    intro verdict
    refine .bind (hstrip verdict) fun _ => ?_
    split
    · exact ranked_onRace (.update fun _ => rfl)
    · exact .pure _
  refine .ite_bind (ranked_onRace (keeps_broadcast _ _))
    (.bind (ranked_scheduleSkillEffect hranking hslot _ _ _) fun verdict => ?_)
  cases target.pendingMagicTarget with
  | none => exact hend verdict
  | some pending =>
    dsimp only
    split
    · exact .bind (ranked_onRace (keeps_broadcast _ _)) fun _ =>
        .bind (ranked_onRace (.update fun _ => rfl)) fun _ => hend verdict
    · exact hend verdict

theorem ranked_handleTeamGauge (client : ClientId) :
    Keeps (Carries (Ranked registry)) (handleTeamGauge around client) := by
  refine .bind (ranked_ask _) fun _ => .bind .get fun scheduled => ?_
  split
  · exact .pure _
  refine .bind (ranked_ask _) ?_
  rintro ⟨uid, racer⟩
  dsimp only
  split
  · exact .throw _
  split
  · exact .pure _
  refine .bind (.modify fun other h => ?_) fun _ => ?_
  · exact h.of_race (race_fillGauge other.tracker racer.team) (List.Subset.refl _)
  split
  · exact ranked_queueJob fun _ htask => Task.noConfusion htask
  · exact .pure _

/-! ### Jobs -/

/-- The spells of a racer whose effect has expired. -/
def expiredSpells (expiry : EffectExpiry) (spells : Condition × (UInt32 → UInt32)) : Condition × (UInt32 → UInt32) :=
  ({ effects := update spells.1.effects expiry.effectId false
     attackRank := if 0 < expiry.attackRank ∧ spells.1.attackRank = expiry.attackRank then 0
       else spells.1.attackRank }, spells.2)

/-- The ranks fit after an expiry if and only if no other attack goes on. -/
theorem rankSound_expired_iff (h : Ranked registry scheduled) {index race : Nat} {expiry : EffectExpiry}
    (hindex : scheduled.jobs[index]? = some ⟨race, .effectExpiry expiry⟩) :
    Unrivalled registry scheduled (.command around (.job index)) ↔
      RankSound registry ((expireEffect around expiry).final scheduled.race) := by
  have hknown := h.known race expiry (mem_of_getElem? hindex)
  rw [rankSound_iff]
  rcases @expireEffect_cases around expiry scheduled.race with ⟨hacts, hcalm⟩ | ⟨hnot, hsame⟩
  · have hspells : ∀ uid, ((expireEffect around expiry).final scheduled.race).spells uid =
        if uid = expiry.targetCharacterUid then (scheduled.race.spells uid).map (expiredSpells expiry)
        else scheduled.race.spells uid := by
      intro uid
      rw [hcalm uid]
      exact Calm.spells_updateRacer (fun _ => rfl) scheduled.race uid
    obtain ⟨racer, hracer, hgeneration⟩ := hacts
    have hfits : RankFits registry.slotInfo racer.toCondition :=
      h.fits _ racer.spells (map_eq_some_iff.2 ⟨racer, hracer, rfl⟩)
    have hexpired := rankFits_expired_iff hfits hknown
    constructor
    · intro hunrivalled uid spells hafter
      rw [hspells] at hafter
      split at hafter
      · next huid =>
          rw [huid, RaceInstance.spells, hracer] at hafter
          cases hafter
          exact hexpired.2 (hunrivalled race expiry racer hindex hracer hgeneration)
      · exact h.fits uid spells hafter
    · intro hall race' expiry' racer' hindex' hracer' _
      cases hindex.symm.trans hindex'
      cases hracer.symm.trans hracer'
      refine hexpired.1 (hall expiry.targetCharacterUid (expiredSpells expiry racer.spells) ?_)
      rw [hspells, if_pos rfl, RaceInstance.spells, hracer]
      rfl
  · rw [hsame]
    refine iff_of_true (fun race' expiry' racer hindex' hracer hgeneration => ?_) h.fits
    cases hindex.symm.trans hindex'
    exact absurd ⟨racer, hracer, hgeneration⟩ hnot

/-! ### Steps -/

theorem takeJob_jobs (index : Nat) {job : Job} (hindex : scheduled.jobs[index]? = some job) :
    (takeJob around index).final scheduled =
      (runJob around job).final { scheduled with jobs := scheduled.jobs.eraseIdx index } := by
  rw [takeJob, final_bind_ok (get_apply _), hindex]
  dsimp only
  rw [final_bind_ok (modify_apply _ _)]

theorem ranked_takeJob (h : Ranked registry scheduled) {index : Nat}
    (hunrivalled : Unrivalled registry scheduled (.command around (.job index))) :
    Ranked registry ((takeJob around index).final scheduled) := by
  cases hindex : scheduled.jobs[index]? with
  | none =>
    rw [takeJob, final_bind_ok (get_apply _), hindex]
    exact h
  | some job =>
    have herased : Ranked registry { scheduled with jobs := scheduled.jobs.eraseIdx index } :=
      h.of_race rfl (eraseIdx_subset)
    obtain ⟨race, task⟩ := job
    rw [takeJob_jobs index hindex]
    cases task with
    | effectExpiry expiry =>
      have hfits := rankSound_iff.1 ((rankSound_expired_iff h hindex).1 hunrivalled)
      show Ranked registry ((onRace (expireEffect around expiry)).final _)
      rw [onRace, final_zoom]
      exact herased.setRace hfits
    | itemStrip uid => exact ranked_onRace .stripHeldMagicItem _ herased
    | teamSpur team =>
      rw [runJob, final_bind_ok (get_apply _)]
      split
      · exact herased
      · exact ranked_queueJob (fun _ htask => Task.noConfusion htask) _ herased
    | gaugeUnlock team => exact herased.of_race (race_updateTeam _ _ _) (List.Subset.refl _)

theorem ranked_startRace (h : Ranked registry scheduled) (lookups : StartLookups) (isTeamMode : Bool) :
    Ranked registry (scheduled.startRace lookups isTeamMode) := by
  refine ⟨rankSound_iff.1 fun uid racer hracer => ?_, h.known⟩
  have hnew := @startRace_forall (fun racer => racer.toCondition = {}) (fun _ _ => rfl) lookups scheduled.tracker
  rw [hnew uid racer hracer]
  exact rankFits_none _

theorem ranked_step (hranking : Ranking registry.slotInfo) (scheduled : ScheduledRace) (input : RoomInput)
    (h : Ranked registry scheduled) (hunrivalled : Unrivalled registry scheduled input) :
    Ranked registry (roomStep registry scheduled input) := by
  cases input with
  | start lookups isTeamMode => exact ranked_startRace h lookups isTeamMode
  | command around command =>
    cases command with
    | requestMagicItem client characterOid roll => exact ranked_onRace .handleRequestMagicItem scheduled h
    | useMagicItem client command => exact ranked_handleUseMagicItem hranking client command scheduled h
    | activateSkillEffect client command => exact ranked_handleActivateSkillEffect hranking client command scheduled h
    | egg command => exact ranked_onRace (.handle command) scheduled h
    | teamGauge client => exact ranked_handleTeamGauge client scheduled h
    | gaugeTick => exact ranked_onRace .tickMagicGauge scheduled h
    | job index => exact ranked_takeJob h hunrivalled

/-- What is expected of a step holds if and only if no other attack goes on. -/
theorem unrivalled_iff (hranking : Ranking registry.slotInfo) (scheduled : ScheduledRace) (input : RoomInput)
    (h : Ranked registry scheduled) :
    Unrivalled registry scheduled input ↔ RankSound registry (roomStep registry scheduled input).race := by
  refine ⟨fun hunrivalled => rankSound_iff.2 (ranked_step hranking scheduled input h hunrivalled).fits, fun hsound => ?_⟩
  cases input with
  | start lookups isTeamMode => trivial
  | command around command =>
    cases command with
    | job index =>
      intro race expiry racer hindex
      have hrace : (roomStep registry scheduled (.command around (.job index))).race =
        (expireEffect around expiry).final scheduled.race := takeJob_expiry hindex
      rw [hrace] at hsound
      exact (@rankSound_expired_iff registry around scheduled h _ _ _ hindex).2 hsound race expiry racer hindex
    | _ => trivial

theorem ranked_opened (registry : Registry) (race : RaceInstance) : Ranked registry (ScheduledRace.opened race) := by
  refine ⟨rankSound_iff.1 fun uid racer hracer => ?_, fun _ _ hjob => absurd hjob not_mem_nil⟩
  exact absurd (ExtTreeMap.getElem?_empty.symm.trans hracer) (some_ne_none _).symm

end Ranks

/-! ## Runs -/

/-- Under the magic table, the rank of a racer is the largest one of the attacks that go on, in the runs in which
no attack expires while one of a smaller rank goes on, and in no others. -/
theorem attackRank_fits_iff (registry : Registry) (hslots : registry.slotInfo.Perm magicTable) (race : RaceInstance)
    (inputs : List RoomInput) :
    Guarded (roomStep registry) (fun scheduled input => RankSound registry (roomStep registry scheduled input).race)
        (ScheduledRace.opened race) inputs ↔
      Guarded (roomStep registry) (Unrivalled registry) (ScheduledRace.opened race) inputs := by
  have hranking : Ranking registry.slotInfo := ranking_magicTable.perm hslots
  exact (guarded_congr (ranked_step hranking) (unrivalled_iff hranking) (ranked_opened registry race)).symm

/-- The registry of the magic table. -/
def magicRegistry : Registry := { slotInfo := magicTable }

/-- The player reports a hit. -/
def hitBy (effectId : UInt32) : RoomInput :=
  .command burning
    (.activateSkillEffect 5 { targetOid := 1, effectId := effectId, attackerOid := 1, effectInstanceId := 0 })

/-- The race after a fire ball. -/
def scorched : ScheduledRace :=
  roomStep magicRegistry (roomStep magicRegistry (ScheduledRace.opened {}) burnStart) (hitBy 0)

theorem unrivalled_scorched : Unrivalled magicRegistry scorched burnOut := by
  have hqueued : scorched.jobs[0]? = some ⟨1, .effectExpiry ⟨100, 1, 0, 1, 2, 1⟩⟩ := by decide +kernel
  have heffects : (scorched.race.racers[(100 : Uid)]?).map (fun racer =>
    magicTable.all fun slot => slot.skillEffectId = 0 || !racer.effects slot.skillEffectId) = some true := by
      decide +kernel
  generalize scorched = scheduled at hqueued heffects ⊢
  intro race expiry racer hjob hracer _ _ _ slot hslot _ hne
  cases hqueued.symm.trans hjob
  obtain ⟨other, hother, hall⟩ := map_eq_some_iff.1 heffects
  cases hother.symm.trans hracer
  have hslotOff := all_eq_true.1 hall slot hslot
  rw [decide_eq_false hne, Bool.false_or, Bool.not_eq_true'] at hslotOff
  exact hslotOff

theorem attackRank_fits_fireBall :
    Guarded (roomStep magicRegistry)
      (fun scheduled input => RankSound magicRegistry (roomStep magicRegistry scheduled input).race)
      (ScheduledRace.opened {}) [burnStart, hitBy 0, burnOut] :=
  (attackRank_fits_iff magicRegistry (List.Perm.refl _) {} [burnStart, hitBy 0, burnOut]).2
    ⟨trivial, trivial, unrivalled_scorched, trivial⟩

/-- The race after an ice wall and a fire ball, which expires first. -/
def frozen : ScheduledRace :=
  roomStep magicRegistry
    (roomStep magicRegistry (roomStep magicRegistry (roomStep magicRegistry (ScheduledRace.opened {}) burnStart) (hitBy 8))
      (hitBy 0))
    (.command burning (.job 1))

/-- The rank is cleared while the effect of the ice wall goes on. -/
theorem attackRank_cleared :
    ¬Guarded (roomStep magicRegistry)
      (fun scheduled input => RankSound magicRegistry (roomStep magicRegistry scheduled input).race)
      (ScheduledRace.opened {}) [burnStart, hitBy 8, hitBy 0, .command burning (.job 1)] := by
  rintro ⟨-, -, -, hsound, -⟩
  have hsound : RankSound magicRegistry frozen.race := hsound
  have hcleared : (frozen.race.racers[(100 : Uid)]?).map (fun racer => (racer.effects 8, racer.attackRank)) =
    some (true, 0) := by decide +kernel
  generalize frozen = scheduled at hsound hcleared
  obtain ⟨racer, hracer, hrank⟩ := Option.map_eq_some_iff.1 hcleared
  obtain ⟨hon, hzero⟩ := Prod.mk.inj hrank
  have hle := (hsound 100 racer hracer).upper
    { type := 10, basicType := 10, criticalType := 11, skillEffectId := 8, attackValue := 50, adjustMotionSpeed := 1,
      removeMagic := 1, attackRank := 1 } (by decide +kernel) hon
  rw [hzero] at hle
  exact absurd hle (by decide)

end Alicia.Magic
