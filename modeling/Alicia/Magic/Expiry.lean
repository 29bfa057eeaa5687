import Alicia.Magic.Oids
import Alicia.Magic.Calm
import Alicia.Magic.Jobs

/-!
# The expiry of effects

An expiry job tells by the generation of the effect whether it was applied again or removed since the job was
queued.  The generations begin at zero in every race, while the jobs of the last one are still queued: one of
them may meet its generation again, and ends an effect that another application has begun.
-/

namespace Alicia.Magic

open Std (ExtTreeMap)
open Transition Effect Data Function ScheduledRace List Effect RaceInstance UInt32
open Race (TeamColor)

/-! ## The purpose of the jobs -/

/-- The job finds its racer with its generation, so it clears the effect. -/
def EffectExpiry.Acts (expiry : EffectExpiry) (race : RaceInstance) : Prop :=
  ∃ racer, race.racers[expiry.targetCharacterUid]? = some racer ∧
    racer.effectGenerations expiry.effectId = expiry.generation

instance (expiry : EffectExpiry) (race : RaceInstance) : Decidable (expiry.Acts race) :=
  match h : race.racers[expiry.targetCharacterUid]? with
  | none => isFalse fun ⟨_, hracer, _⟩ => absurd (h.symm.trans hracer) (Option.some_ne_none _).symm
  | some racer => decidable_of_iff (racer.effectGenerations expiry.effectId = expiry.generation)
      ⟨fun hgeneration => ⟨racer, h, hgeneration⟩, fun ⟨_, hracer, hgeneration⟩ => by
        cases h.symm.trans hracer
        exact hgeneration⟩

namespace ScheduledRace

/-- The job that an input runs. -/
def running (scheduled : ScheduledRace) : RoomInput → Option Job
  | .command _ (.job index) => scheduled.jobs[index]?
  | _ => none

/-- The effect was not applied to the character since the job was queued. -/
def IsLast (scheduled : ScheduledRace) (race : Nat) (expiry : EffectExpiry) : Prop :=
  scheduled.lastApplication expiry.targetCharacterUid expiry.effectId = some (race, expiry.change)

instance (scheduled : ScheduledRace) (race : Nat) (expiry : EffectExpiry) : Decidable (scheduled.IsLast race expiry) :=
  inferInstanceAs (Decidable (_ = _))

end ScheduledRace

/-- A job that clears an effect is that of its last application, and the job of an effect that is on is queued
and clears it. -/
structure ExpirySound (registry : Registry) (scheduled : ScheduledRace) (input : RoomInput) : Prop where
  own : ∀ race expiry, scheduled.running input = some ⟨race, .effectExpiry expiry⟩ →
    expiry.Acts scheduled.race → scheduled.IsLast race expiry
  ends : ∀ race expiry, scheduled.running input = some ⟨race, .effectExpiry expiry⟩ →
    expiry.Acts scheduled.race →
      hasEffect expiry.targetCharacterUid expiry.effectId (roomStep registry scheduled input).race = false
  queued : ∀ uid effectId, hasEffect uid effectId (roomStep registry scheduled input).race = true →
    ∃ race expiry, ⟨race, .effectExpiry expiry⟩ ∈ (roomStep registry scheduled input).jobs ∧
      expiry.targetCharacterUid = uid ∧ expiry.effectId = effectId ∧
        (roomStep registry scheduled input).IsLast race expiry ∧
          expiry.Acts (roomStep registry scheduled input).race

/-! ## The condition -/

/-- The condition: a job that finds its generation is one of this race, whose effect has not changed so often
that the generation has come round. -/
def Timely (scheduled : ScheduledRace) : RoomInput → Prop
  | .command _ (.job index) => ∀ race expiry, scheduled.jobs[index]? = some ⟨race, .effectExpiry expiry⟩ →
      expiry.Acts scheduled.race → race = scheduled.races ∧
        scheduled.changes expiry.targetCharacterUid expiry.effectId < expiry.change + 4294967296
  | _ => True

/-! ## Marks -/

/-- The generations tell the changes of a race, a job has the generation of its application, and an effect that
is on has its job. -/
structure Timed (scheduled : ScheduledRace) : Prop where
  counted : ∀ uid effectId, scheduled.race.generation uid effectId = UInt32.ofNat (scheduled.changes uid effectId)
  earlier : ∀ job ∈ scheduled.jobs, job.race ≤ scheduled.races
  marked : ∀ expiry, ⟨scheduled.races, .effectExpiry expiry⟩ ∈ scheduled.jobs →
    expiry.generation = UInt32.ofNat expiry.change ∧
      expiry.change ≤ scheduled.changes expiry.targetCharacterUid expiry.effectId ∧
        (scheduled.IsLast scheduled.races expiry ∨
          expiry.change < scheduled.changes expiry.targetCharacterUid expiry.effectId)
  covered : ∀ uid effectId, hasEffect uid effectId scheduled.race = true → ∃ expiry,
    ⟨scheduled.races, .effectExpiry expiry⟩ ∈ scheduled.jobs ∧ expiry.targetCharacterUid = uid ∧
      expiry.effectId = effectId ∧ scheduled.IsLast scheduled.races expiry ∧
        expiry.change = scheduled.changes uid effectId

/-- The property stays. -/
def Carries {S : Type} (P : S → Prop) (before after : S) : Prop := P before → P after

instance {S : Type} (P : S → Prop) : Std.Refl (Carries P) := ⟨fun _ => id⟩

variable {α : Type}

instance {S : Type} (P : S → Prop) : IsTrans S (Carries P) := ⟨fun _ _ _ h hnext hP => hnext (h hP)⟩

section Marks

variable {scheduled : ScheduledRace} {race : RaceInstance} {uid : Uid} {effectId : UInt32}

theorem hasEffect_eq (uid : Uid) (effectId : UInt32) (race : RaceInstance) :
    hasEffect uid effectId race = ((race.spells uid).map fun spells => spells.1.effects effectId).getD false := by
  rw [hasEffect, spells]
  cases race.racers[uid]? with
  | none => rfl
  | some racer => rfl

theorem generation_eq (race : RaceInstance) (uid : Uid) (effectId : UInt32) :
    race.generation uid effectId = ((race.spells uid).map fun spells => spells.2 effectId).getD 0 := by
  rw [generation, spells]
  cases race.racers[uid]? with
  | none => rfl
  | some racer => rfl

theorem counted_setRace (h : ∀ uid effectId, scheduled.race.generation uid effectId =
    UInt32.ofNat (scheduled.changes uid effectId)) (race : RaceInstance) (uid : Uid) (effectId : UInt32) :
    (scheduled.setRace race).race.generation uid effectId =
      UInt32.ofNat ((scheduled.setRace race).changes uid effectId) := by
  show race.generation uid effectId = UInt32.ofNat (scheduled.changes uid effectId +
    (race.generation uid effectId - scheduled.race.generation uid effectId).toNat)
  rw [UInt32.ofNat_add, UInt32.ofNat_toNat, ← h, UInt32.add_comm, UInt32.sub_add_cancel]

/-- A race in which effects have ended. -/
theorem Timed.setRace (h : Timed scheduled)
    (hfades : ∀ uid effectId,
      hasEffect uid effectId race = hasEffect uid effectId scheduled.race ∧
          race.generation uid effectId = scheduled.race.generation uid effectId ∨
        hasEffect uid effectId race = false) :
    Timed (scheduled.setRace race) := by
  refine ⟨counted_setRace h.counted race, h.earlier, fun expiry hjob => ?_, fun uid effectId heffect => ?_⟩
  · obtain ⟨hgeneration, hle, hlast⟩ := h.marked expiry hjob
    refine ⟨hgeneration, hle.trans (Nat.le_add_right _ _), ?_⟩
    exact hlast.imp id fun hlt => hlt.trans_le (Nat.le_add_right _ _)
  · rcases hfades uid effectId with ⟨hsame, hgeneration⟩ | hoff
    · obtain ⟨expiry, hjob, huid, heffectId, hlast, hchange⟩ := h.covered uid effectId (hsame ▸ heffect)
      refine ⟨expiry, hjob, huid, heffectId, hlast, hchange.trans ?_⟩
      show _ = scheduled.changes uid effectId + (race.generation uid effectId - _).toNat
      rw [hgeneration, UInt32.sub_self]
      rfl
    · exact absurd (hoff.symm.trans heffect) Bool.false_ne_true

/-- What leaves the effects alone keeps the marks. -/
theorem timed_onRace {x : Handling α} (h : Keeps Calm x) :
    Keeps (Carries Timed) (onRace x) := by
  intro scheduled htimed
  rw [onRace, final_zoom]
  have hcalm := h scheduled.race
  refine htimed.setRace fun uid effectId => .inl ⟨?_, ?_⟩
  · rw [hasEffect_eq, hasEffect_eq, hcalm uid]
  · rw [generation_eq, generation_eq, hcalm uid]

/-- The teams do not matter. -/
theorem Timed.setTracker (h : Timed scheduled) {tracker : RaceTracker} (hrace : tracker.race = scheduled.race) :
    Timed { scheduled with tracker := tracker } := by
  have hsame : race { scheduled with tracker := tracker } = scheduled.race := hrace
  refine ⟨fun uid effectId => ?_, h.earlier, h.marked, fun uid effectId heffect => ?_⟩
  · rw [hsame]
    exact h.counted uid effectId
  · rw [hsame] at heffect
    exact h.covered uid effectId heffect

theorem race_updateTeam (tracker : RaceTracker) (team : TeamColor) (change : TeamInfo → TeamInfo) :
    (tracker.updateTeam team change).race = tracker.race := by
  cases team with
  | red => rfl
  | solo => rfl
  | unknown => rfl
  | blue => rfl

theorem race_fillGauge (tracker : RaceTracker) (team : TeamColor) : (tracker.fillGauge team).1.race = tracker.race := by
  rw [RaceTracker.fillGauge]
  dsimp only
  split
  · exact race_updateTeam _ _ _
  split
  · rw [race_updateTeam]
    exact race_updateTeam _ _ _
  · exact race_updateTeam _ _ _

/-- A job of another kind. -/
theorem timed_queueJob {task : Task} (h : ∀ expiry, task ≠ .effectExpiry expiry) :
    Keeps (Carries Timed) (queueJob task) := by
  refine .modify fun scheduled htimed => ?_
  refine ⟨htimed.counted, fun job hjob => ?_, fun expiry hjob => ?_, fun uid effectId heffect => ?_⟩
  · rcases mem_append.1 hjob with hold | hnew
    · exact htimed.earlier job hold
    · rw [mem_singleton.1 hnew]
  · rcases mem_append.1 hjob with hold | hnew
    · exact htimed.marked expiry hold
    · exact absurd (congrArg Job.task (mem_singleton.1 hnew)).symm (h expiry)
  · obtain ⟨expiry, hjob, hrest⟩ := htimed.covered uid effectId heffect
    exact ⟨expiry, mem_append_left _ hjob, hrest⟩

end Marks

/-! ## Spells -/

section Spells

variable {registry : Registry} {around : Surroundings}

/-- An effect that is removed is off. -/
theorem fades_removed (race : RaceInstance) (uid other : Uid) (effectId which : UInt32) :
    let after := race.updateRacer uid fun racer =>
      { racer with
        effects := update racer.effects effectId false
        effectGenerations := update racer.effectGenerations effectId
          (racer.effectGenerations effectId + 1) }
    hasEffect other which after = hasEffect other which race ∧
        after.generation other which = race.generation other which ∨
      hasEffect other which after = false := by
  intro after
  have hracers : after.racers[other]? = _ := getElem?_updateRacer uid other _ race
  rw [hasEffect, hasEffect, generation, generation, hracers]
  by_cases hother : other = uid
  · rw [if_pos hother]
    cases race.racers[other]? with
    | none => exact .inl ⟨rfl, rfl⟩
    | some racer =>
      by_cases hwhich : which = effectId
      · rw [hwhich]
        refine .inr ?_
        show update racer.effects effectId false effectId = false
        exact update_self _ _ _
      · exact .inl ⟨update_of_ne hwhich _ _, update_of_ne hwhich _ _⟩
  · rw [if_neg hother]
    exact .inl ⟨rfl, rfl⟩

theorem timed_removeEffect (uid : Uid) (oid : UInt16) (effectId : UInt32) :
    Keeps (Carries Timed) (Scheduled.removeEffect around uid oid effectId) := by
  intro scheduled htimed
  rw [Scheduled.removeEffect, onRace, final_zoom, Magic.removeEffect]
  split
  · have hcalm := @keeps_broadcast Calm _ _ _ around (.removeSkillEffect oid effectId)
      (scheduled.race.updateRacer uid fun racer =>
        { racer with
          effects := update racer.effects effectId false
          effectGenerations := update racer.effectGenerations effectId
            (racer.effectGenerations effectId + 1) })
    rw [updateRacer, final_bind_ok (modify_apply _ _)]
    refine htimed.setRace fun other which => ?_
    rw [hasEffect_eq other which (final _ _), generation_eq (final _ _), hcalm other,
      ← hasEffect_eq, ← generation_eq]
    exact fades_removed scheduled.race uid other effectId which
  · exact htimed.setRace fun _ _ => .inl ⟨rfl, rfl⟩

theorem timed_stripEffectsOnAttack (uid : Uid) (oid : UInt16) (attack : SlotInfo) :
    Keeps (Carries Timed) (Scheduled.stripEffectsOnAttack registry around uid oid attack) := by
  refine .forM (fun slot => .bind .get fun _ => ?_) _
  split
  · exact timed_removeEffect _ _ _
  · exact .pure _

theorem timed_consumeCriticalAura (uid : Uid) (racer : Racer) (slot : SlotInfo) :
    Keeps (Carries Timed) (Scheduled.consumeCriticalAura registry around uid racer slot) := by
  rw [Scheduled.consumeCriticalAura]
  split
  · exact .pure _
  · exact .bind (.forM (fun _ => timed_removeEffect _ _ _) _) fun _ =>
      .of_final fun scheduled => final_ask _ scheduled

/-- An application changes its effect, and the others are as they were. -/
theorem startEffect_cells {race : RaceInstance} {uid : Uid} (hmem : (race.spells uid).isSome = true)
    (effectId attackRank : UInt32) (other : Uid) (which : UInt32) :
    let after := (startEffect uid effectId attackRank).final race
    other = uid ∧ which = effectId ∧ after.generation other which = race.generation other which + 1 ∨
      ¬(other = uid ∧ which = effectId) ∧ hasEffect other which after = hasEffect other which race ∧
        after.generation other which = race.generation other which := by
  intro after
  have hracers : after.racers[other]? = _ := getElem?_updateRacer uid other _ race
  rw [hasEffect, hasEffect, generation, generation, hracers]
  by_cases hother : other = uid
  · rw [if_pos hother]
    rw [spells, Option.isSome_map, ← hother] at hmem
    obtain ⟨racer, hracer⟩ := Option.isSome_iff_exists.1 hmem
    rw [hracer]
    by_cases hwhich : which = effectId
    · refine .inl ⟨hother, hwhich, ?_⟩
      rw [hwhich]
      exact update_self effectId _ racer.effectGenerations
    · exact .inr ⟨fun h => hwhich h.2, update_of_ne hwhich _ _, update_of_ne hwhich _ _⟩
  · rw [if_neg hother]
    exact .inr ⟨fun h => hother h.1, rfl, rfl⟩

/-- The job of the application that has been made. -/
def ScheduledRace.expiryOf (scheduled : ScheduledRace) (uid : Uid) (targetOid : UInt16) (effectId attackRank : UInt32) :
    EffectExpiry where
  targetCharacterUid := uid
  targetOid := targetOid
  effectId := effectId
  generation := scheduled.race.generation uid effectId
  attackRank := attackRank
  change := scheduled.changes uid effectId

def ScheduledRace.withJob (job : Job) (scheduled : ScheduledRace) : ScheduledRace :=
  { scheduled with jobs := scheduled.jobs ++ [job] }

/-- The state in which the effect has begun. -/
def ScheduledRace.started (scheduled : ScheduledRace) (uid : Uid) (effectId attackRank : UInt32) : ScheduledRace :=
  (Scheduled.startEffect uid effectId attackRank).final scheduled

theorem started_ok (scheduled : ScheduledRace) (uid : Uid) (effectId attackRank : UInt32) :
    Scheduled.startEffect uid effectId attackRank scheduled = .ok ⟨⟩ (scheduled.started uid effectId attackRank) :=
  rfl

theorem isLast_started {scheduled : ScheduledRace} {uid : Uid} {effectId attackRank : UInt32} (race : Nat)
    (expiry : EffectExpiry) (hother : ¬(expiry.targetCharacterUid = uid ∧ expiry.effectId = effectId)) :
    (scheduled.started uid effectId attackRank).IsLast race expiry ↔ scheduled.IsLast race expiry := by
  rw [ScheduledRace.IsLast, ScheduledRace.IsLast]
  show update scheduled.lastApplication uid (update (scheduled.lastApplication uid) effectId _)
    expiry.targetCharacterUid expiry.effectId = _ ↔ _
  by_cases huid : expiry.targetCharacterUid = uid
  · rw [huid, update_self, update_of_ne fun h => hother ⟨huid, h⟩]
  · rw [update_of_ne huid]

/-- With its job, the application keeps the marks. -/
theorem timed_started {scheduled : ScheduledRace} {uid : Uid} (h : Timed scheduled)
    (hmem : (scheduled.race.spells uid).isSome = true) (targetOid : UInt16) (effectId attackRank : UInt32) :
    Timed ((scheduled.started uid effectId attackRank).withJob ⟨scheduled.races,
      .effectExpiry ((scheduled.started uid effectId attackRank).expiryOf uid targetOid effectId attackRank)⟩) := by
  have hcells := fun other which => startEffect_cells hmem effectId attackRank other which
  have hchanges : ∀ other which, (scheduled.started uid effectId attackRank).changes other which =
      scheduled.changes other which + (((startEffect uid effectId attackRank).final scheduled.race).generation
        other which - scheduled.race.generation other which).toNat := fun _ _ => rfl
  have hcell : (scheduled.started uid effectId attackRank).changes uid effectId = scheduled.changes uid effectId + 1 := by
    rcases hcells uid effectId with ⟨-, -, hgeneration⟩ | ⟨hnot, -⟩
    · rw [hchanges, hgeneration, UInt32.add_comm, UInt32.add_sub_cancel]
      rfl
    · exact absurd ⟨rfl, rfl⟩ hnot
  have hrest : ∀ {other which}, ¬(other = uid ∧ which = effectId) →
      (scheduled.started uid effectId attackRank).changes other which = scheduled.changes other which := by
    intro other which hnot
    rcases hcells other which with ⟨hother, hwhich, -⟩ | ⟨-, -, hgeneration⟩
    · exact absurd ⟨hother, hwhich⟩ hnot
    · rw [hchanges, hgeneration, UInt32.sub_self]
      rfl
  have hcounted : ∀ other which, (scheduled.started uid effectId attackRank).race.generation other which =
      UInt32.ofNat ((scheduled.started uid effectId attackRank).changes other which) :=
    fun other which => counted_setRace h.counted _ other which
  have hself : (scheduled.started uid effectId attackRank).IsLast scheduled.races
      ((scheduled.started uid effectId attackRank).expiryOf uid targetOid effectId attackRank) := by
    rw [ScheduledRace.IsLast]
    show update scheduled.lastApplication uid (update (scheduled.lastApplication uid) effectId _)
      uid effectId = _
    rw [update_self, update_self]
    rfl
  refine ⟨hcounted, fun job hjob => ?_, fun expiry hjob => ?_, fun other which heffect => ?_⟩
  · rcases mem_append.1 hjob with hold | hnew
    · exact h.earlier job hold
    · rw [mem_singleton.1 hnew]
      exact Nat.le_refl _
  · rcases mem_append.1 hjob with hold | hnew
    · obtain ⟨hgeneration, hle, hlast⟩ := h.marked expiry hold
      by_cases hsame : expiry.targetCharacterUid = uid ∧ expiry.effectId = effectId
      · have hlt : expiry.change < (scheduled.started uid effectId attackRank).changes
            expiry.targetCharacterUid expiry.effectId := by
          rw [hsame.1, hsame.2] at hle ⊢
          rw [hcell]
          exact Nat.lt_succ_of_le hle
        exact ⟨hgeneration, hlt.le, .inr hlt⟩
      · refine ⟨hgeneration, (hrest hsame).symm ▸ hle, ?_⟩
        exact hlast.imp (isLast_started _ expiry hsame).2 fun hlt => (hrest hsame).symm ▸ hlt
    · cases mem_singleton.1 hnew
      exact ⟨hcounted uid effectId, Nat.le_refl _, .inl hself⟩
  · rcases hcells other which with ⟨rfl, rfl, -⟩ | ⟨hnot, hsame, -⟩
    · exact ⟨_, mem_append_right _ mem_cons_self, rfl, rfl, hself, rfl⟩
    · have heffect : hasEffect other which ((startEffect uid effectId attackRank).final scheduled.race) = true :=
        heffect
      obtain ⟨expiry, hjob, huid, heffectId, hlast, hchange⟩ := h.covered other which (hsame ▸ heffect)
      refine ⟨expiry, mem_append_left _ hjob, huid, heffectId, ?_, hchange.trans (hrest hnot).symm⟩
      exact (isLast_started _ expiry (by rwa [huid, heffectId])).2 hlast

/-! ### What comes between an application and its job -/

/-- The races are as many. -/
def SameRaces (before after : ScheduledRace) : Prop := after.races = before.races

instance : Std.Refl SameRaces := ⟨fun _ => rfl⟩

instance : IsTrans ScheduledRace SameRaces := ⟨fun _ _ _ h hnext => Eq.trans hnext h⟩

/-- An effect that keeps the marks, and that does not look at the jobs. -/
structure Aside {α : Type} (x : Scheduling α) : Prop where
  timed : Keeps (Carries Timed) x
  jobs : ∀ job, Simulates (ScheduledRace.withJob job) x x
  races : Keeps SameRaces x

theorem Aside.pure (a : α) : Aside (pure a : Scheduling α) :=
  ⟨Keeps.pure a, fun _ => .pure a, .pure a⟩

theorem Aside.bind {α β : Type} {x : Scheduling α} {f : α → Scheduling β} (hx : Aside x) (hf : ∀ a, Aside (f a)) :
    Aside (x >>= f) :=
  ⟨Keeps.bind hx.timed fun a => (hf a).timed, fun job => .bind (hx.jobs job) fun a => (hf a).jobs job,
    .bind hx.races fun a => (hf a).races⟩

theorem onRace_withJob (x : Handling α) (job : Job) :
    Simulates (withJob job) (onRace x) (onRace x) := by
  intro scheduled
  rw [onRace, zoom, zoom]
  have hrace : (scheduled.withJob job).race = scheduled.race := rfl
  rw [hrace]
  cases x scheduled.race with
  | ok a race => rfl
  | error e race => rfl

theorem onRace_races (x : Handling α) : Keeps SameRaces (onRace x) := by
  intro scheduled
  rw [onRace, final_zoom]
  rfl

theorem Aside.onRace {x : Handling α} (h : Keeps Calm x) : Aside (onRace x) :=
  ⟨timed_onRace h, onRace_withJob x, onRace_races x⟩

theorem Aside.stripEffectsOnAttack (uid : Uid) (oid : UInt16) (attack : SlotInfo) :
    Aside (Scheduled.stripEffectsOnAttack registry around uid oid attack) := by
  refine ⟨timed_stripEffectsOnAttack uid oid attack, fun job => .forM (fun slot => ?_) _,
    .forM (fun slot => .bind .get fun _ => ?_) _⟩
  · refine .get_bind fun scheduled => ?_
    have hrace : (scheduled.withJob job).race = scheduled.race := rfl
    rw [hrace]
    split
    · exact onRace_withJob _ job
    · exact .pure _
  · split
    · exact onRace_races _
    · exact .pure _

/-- The job of an application is queued after it. -/
theorem timed_queue_after {x : Scheduling PUnit} (h : Aside x) {scheduled : ScheduledRace} {task : Task}
    (hcompletes : x.Completes scheduled) (htimed : Timed (scheduled.withJob ⟨scheduled.races, task⟩)) :
    Timed ((do
      x
      queueJob task
      return EffectVerdict.applied : Scheduling EffectVerdict).final scheduled) := by
  obtain ⟨done, after, hx⟩ := completes_iff.1 hcompletes
  have hraces : after.races = scheduled.races := final_ok hx ▸ h.races scheduled
  have hafter := h.timed _ htimed
  rw [final_ok ((h.jobs ⟨scheduled.races, task⟩).ok hx), ← hraces] at hafter
  rw [final_bind_ok hx]
  exact hafter

/-! ### Completion -/

theorem completes_onRace {x : Handling α} {scheduled : ScheduledRace} :
    (onRace x).Completes scheduled ↔ x.Completes scheduled.race := by
  rw [Completes, Completes, onRace, zoom]
  cases x scheduled.race with
  | ok a race => exact Iff.rfl
  | error e race => exact Iff.rfl

/-- Where the room exists, all strips are told. -/
theorem completes_scheduled_stripEffectsOnAttack (h : around.Reachable) (uid : Uid) (oid : UInt16) (attack : SlotInfo)
    (scheduled : ScheduledRace) :
    (Scheduled.stripEffectsOnAttack registry around uid oid attack).Completes scheduled := by
  obtain ⟨players, hplayers⟩ := h
  refine completes_forM_of_forall (fun slot scheduled => ?_) _ scheduled
  refine (completes_bind_ok (get_apply scheduled)).2 ?_
  split
  · refine completes_onRace.2 ?_
    rw [Magic.removeEffect]
    split
    · refine (completes_bind_ok (modify_apply _ _)).2 ?_
      exact completes_iff.2 ⟨_, _, broadcast_reachable hplayers⟩
    · exact trivial
  · exact trivial

/-- What a hit takes away. -/
theorem aside_hit {slot : SlotInfo} {uid : Uid} (oid : UInt16) (hreachable : around.Reachable) :
    let hit : Scheduling PUnit := (do
      if 0 < slot.attackValue then
        Scheduled.stripEffectsOnAttack registry around uid oid slot
        if drainsGaugeOnHit slot then onRace (drainGauge around uid oid))
    Aside hit ∧ ∀ scheduled, hit.Completes scheduled := by
  intro hit
  refine ⟨?_, fun scheduled => ?_⟩
  · show Aside (if 0 < slot.attackValue then _ else _)
    split
    · refine Aside.bind (Aside.stripEffectsOnAttack _ _ _) fun _ => ?_
      split
      · exact Aside.onRace .drainGauge
      · exact Aside.pure _
    · exact Aside.pure _
  · show Completes (if 0 < slot.attackValue then _ else _) scheduled
    split
    · obtain ⟨done, after, hstrip⟩ :=
        completes_iff.1 (completes_scheduled_stripEffectsOnAttack hreachable uid oid slot scheduled)
      refine (completes_bind_ok hstrip).2 ?_
      split
      · exact completes_onRace.2 (completes_drainGauge uid oid after.race)
      · exact trivial
    · exact trivial

theorem findRacerByOid_racers {race : RaceInstance} {oid : UInt16} {uid : Uid} {racer : Racer}
    (h : race.findRacerByOid oid = some (uid, racer)) : race.racers[uid]? = some racer :=
  ExtTreeMap.mem_toList_iff_getElem?_eq_some.1 (mem_of_find?_eq_some h)

/-- A broadcast leaves the effects alone. -/
theorem spells_told {message : Message} {scheduled told : ScheduledRace} {done : Unit}
    (h : onRace (broadcast around message) scheduled = .ok done told) (uid : Uid) :
    told.race.spells uid = scheduled.race.spells uid := by
  have hcalm : Calm scheduled.race ((broadcast around message).final scheduled.race) :=
    keeps_broadcast around message scheduled.race
  have hfinal := final_ok h
  rw [onRace, final_zoom] at hfinal
  rw [← hfinal]
  exact hcalm uid

/-- An effect that begins has its job. -/
theorem timed_scheduleSkillEffect {attackerOid targetOid effectInstanceId : UInt16} {slot : SlotInfo} :
    Keeps (Carries Timed)
      (Scheduled.scheduleSkillEffect registry around attackerOid targetOid slot effectInstanceId) := by
  intro scheduled h
  rw [Scheduled.scheduleSkillEffect, final_bind_ok (get_apply _)]
  cases hfind : scheduled.race.findRacerByOid targetOid with
  | none => exact h
  | some entry =>
    obtain ⟨uid, target⟩ := entry
    dsimp only
    split
    · exact h
    refine final_ask_bind (fun _ _ => h) fun resolution hresolve => ?_
    have htold := timed_onRace (@keeps_broadcast Calm _ _ _ around (.addSkillEffect targetOid resolution.effectId
      attackerOid effectInstanceId resolution.isDuplicated resolution.shieldBlocks)) scheduled h
    cases hbroadcast : onRace (broadcast around (.addSkillEffect targetOid resolution.effectId attackerOid
        effectInstanceId resolution.isDuplicated resolution.shieldBlocks)) scheduled with
    | error failure told =>
      rw [final_error hbroadcast] at htold
      rw [final_bind_error hbroadcast]
      exact htold
    | ok done told =>
      rw [final_ok hbroadcast] at htold
      rw [final_bind_ok hbroadcast]
      split
      · exact htold
      split
      · exact htold
      -- Everybody has been told of the effect, so everybody can be told what follows.
      have hreachable : around.Reachable := reachable_of_completes
        (completes_onRace.1 (completes_iff.2 ⟨done, told, hbroadcast⟩))
      obtain ⟨haside, hcompletes⟩ := @aside_hit registry around slot uid targetOid hreachable
      have hmem : (told.race.spells uid).isSome = true := by
        rw [spells_told hbroadcast uid, spells, findRacerByOid_racers hfind]
        rfl
      have hqueued := timed_queue_after haside (hcompletes (told.started uid resolution.effectId slot.attackRank))
        (timed_started htold hmem targetOid resolution.effectId slot.attackRank)
      rw [final_bind_ok (started_ok told uid resolution.effectId slot.attackRank),
        final_bind_ok (get_apply _)]
      by_cases hattack : 0 < slot.attackValue
      · by_cases hdrains : drainsGaugeOnHit slot = true
        · simp only [if_pos hattack, if_pos hdrains, bind_assoc] at hqueued ⊢
          exact hqueued
        · simp only [if_pos hattack, if_neg hdrains, bind_assoc, pure_bind] at hqueued ⊢
          exact hqueued
      · simp only [if_neg hattack, pure_bind] at hqueued ⊢
        exact hqueued

end Spells

/-! ## Steps -/

section Steps

variable {registry : Registry} {around : Surroundings} {scheduled : ScheduledRace}

theorem timed_applyImmediateMagicEffects (racer : Racer) (slot : SlotInfo) (effectInstanceId : UInt16) :
    Keeps (Carries Timed)
      (Scheduled.applyImmediateMagicEffects registry around racer slot effectInstanceId) := by
  rw [Scheduled.applyImmediateMagicEffects]
  split
  · exact .bind timed_scheduleSkillEffect fun _ => .pure _
  split
  · exact .pure _
  split
  · exact .bind .get fun _ => .forM (fun _ =>
      .bind timed_scheduleSkillEffect fun _ => .pure _) _
  · exact .pure _

theorem keeps_askRoom (lookup : ScheduledRace → Except Failure α) :
    Keeps (Carries Timed) (ask lookup) :=
  .of_final fun scheduled => final_ask lookup scheduled

theorem timed_handleUseMagicItem (client : ClientId) (command : UseMagicItem) :
    Keeps (Carries Timed) (Scheduled.handleUseMagicItem registry around client command) := by
  refine .bind (keeps_askRoom _) ?_
  rintro ⟨uid, racer⟩
  dsimp only
  split
  · exact .pure _
  split
  · exact .bind (timed_onRace (.update fun _ => rfl)) fun _ => timed_onRace (keeps_queueCommand _ _ _)
  · exact .bind (keeps_askRoom _) fun _ => .bind (timed_consumeCriticalAura _ _ _) fun _ =>
      .bind .get fun _ =>
      .bind (timed_onRace (.nextEffectInstanceId _)) fun _ =>
      .bind (timed_onRace (keeps_queueCommand _ _ _)) fun _ =>
      .bind (timed_onRace (keeps_broadcastExcept _ _ _)) fun _ =>
      .bind (timed_applyImmediateMagicEffects _ _ _) fun _ => timed_onRace (.update fun _ => rfl)

instance : Unsent SameRacers := ⟨fun _ _ => rfl⟩

/-- The end of an activation, after the verdict. -/
theorem timed_endActivation (uid : Uid) (pending : Option (UInt16 × UInt16)) (slot : SlotInfo) (targetOid : UInt16)
    (verdict : EffectVerdict) :
    Keeps (Carries Timed) (do
      match pending with
      | none => pure ()
      | some (casterOid, effectInstanceId) =>
        if verdict = .applied && 1 < slot.attackRank then
          onRace (broadcast around (.removeMagicTarget effectInstanceId casterOid targetOid))
          onRace (updateRacer uid fun racer => { racer with pendingMagicTarget := none })
      Scheduled.queueHeldMagicItemStrip uid slot verdict
      if slot.basicType = MagicType.summon then
        onRace (updateRacer uid fun racer => { racer with pendingMagicTarget := none })) := by
  have hstrip : Keeps (Carries Timed) (Scheduled.queueHeldMagicItemStrip uid slot verdict) := by
    refine .bind .get fun _ => ?_
    split
    · exact timed_queueJob fun _ => Task.noConfusion
    · exact .pure _
  have hend : Keeps (Carries Timed) (do
      Scheduled.queueHeldMagicItemStrip uid slot verdict
      if slot.basicType = MagicType.summon then
        onRace (updateRacer uid fun racer => { racer with pendingMagicTarget := none })) := by
    refine .bind hstrip fun _ => ?_
    split
    · exact timed_onRace (.update fun _ => rfl)
    · exact .pure _
  cases pending with
  | none => exact hend
  | some pending =>
    dsimp only
    split
    · exact .bind (timed_onRace (keeps_broadcast _ _)) fun _ =>
        .bind (timed_onRace (.update fun _ => rfl)) fun _ => hend
    · exact hend

theorem timed_handleActivateSkillEffect (client : ClientId) (command : ActivateSkillEffect) :
    Keeps (Carries Timed) (Scheduled.handleActivateSkillEffect registry around client command) := by
  refine .bind (keeps_askRoom _) ?_
  rintro ⟨uid, target⟩
  dsimp only
  split
  · exact .pure _
  refine .bind (keeps_askRoom _) fun slot => ?_
  exact .ite_bind (timed_onRace (keeps_broadcast _ _)) (.bind timed_scheduleSkillEffect
    fun verdict => timed_endActivation uid target.pendingMagicTarget slot command.targetOid verdict)

/-! ### Jobs -/

/-- The effect of an acting job goes off, and nothing else about effects and generations changes. -/
theorem endEffect_cells (race : RaceInstance) (uid : Uid) (effectId attackRank : UInt32) (other : Uid) (which : UInt32) :
    let after := (endEffect uid effectId attackRank).final race
    after.generation other which = race.generation other which ∧
      hasEffect other which after =
        (if other = uid ∧ which = effectId then false else hasEffect other which race) := by
  intro after
  have hracers : after.racers[other]? = _ := getElem?_updateRacer uid other _ race
  rw [hasEffect, hasEffect, generation, generation, hracers]
  by_cases hother : other = uid
  · rw [if_pos hother]
    cases race.racers[other]? with
    | none => exact ⟨rfl, (ite_self _).symm⟩
    | some racer =>
      refine ⟨rfl, ?_⟩
      by_cases hwhich : which = effectId
      · rw [if_pos ⟨hother, hwhich⟩, hwhich]
        exact update_self effectId false racer.effects
      · rw [if_neg fun h => hwhich h.2]
        exact update_of_ne hwhich _ _
  · rw [if_neg hother, if_neg fun h => hother h.1]
    exact ⟨rfl, rfl⟩

/-- A job of an expiry acts and ends the effect, or it changes nothing. -/
theorem expireEffect_cases (expiry : EffectExpiry) (race : RaceInstance) :
    expiry.Acts race ∧ Calm ((endEffect expiry.targetCharacterUid expiry.effectId expiry.attackRank).final race)
        ((expireEffect around expiry).final race) ∨
      ¬expiry.Acts race ∧ (expireEffect around expiry).final race = race := by
  rw [expireEffect, final_bind_ok (get_apply _)]
  cases hracer : race.racers[expiry.targetCharacterUid]? with
  | none =>
    refine .inr ⟨?_, rfl⟩
    rintro ⟨racer, hsome, -⟩
    exact absurd (hracer.symm.trans hsome) (Option.some_ne_none _).symm
  | some racer =>
    dsimp only
    split
    · next hgeneration =>
        refine .inr ⟨?_, rfl⟩
        rintro ⟨other, hsome, hacts⟩
        cases hracer.symm.trans hsome
        exact hgeneration hacts
    · next hgeneration =>
        refine .inl ⟨⟨racer, hracer, not_not.1 hgeneration⟩, ?_⟩
        rw [endEffect, updateRacer, final_bind_ok (modify_apply _ _)]
        exact keeps_broadcast around _ _

/-- What a job of an expiry does to the effects. -/
theorem expireEffect_cells (expiry : EffectExpiry) (race : RaceInstance) (other : Uid) (which : UInt32) :
    let after := (expireEffect around expiry).final race
    after.generation other which = race.generation other which ∧
      (expiry.Acts race → hasEffect other which after =
        (if other = expiry.targetCharacterUid ∧ which = expiry.effectId then false
          else hasEffect other which race)) ∧
      (¬expiry.Acts race → hasEffect other which after = hasEffect other which race) := by
  intro after
  rcases @expireEffect_cases around expiry race with ⟨hacts, hcalm⟩ | ⟨hnot, hsame⟩
  · obtain ⟨hgeneration, heffect⟩ :=
      endEffect_cells race expiry.targetCharacterUid expiry.effectId expiry.attackRank other which
    have htold := hcalm other
    refine ⟨?_, fun _ => ?_, fun hnot => absurd hacts hnot⟩
    · rw [generation_eq, htold, ← generation_eq]
      exact hgeneration
    · rw [hasEffect_eq, htold, ← hasEffect_eq]
      exact heffect
  · have hafter : after = race := hsame
    rw [hafter]
    exact ⟨rfl, fun hacts => absurd hacts hnot, fun _ => rfl⟩

variable {expiry : EffectExpiry}

/-- The racer of an effect that is on is there. -/
theorem acts_of_generation {race : RaceInstance}
    (hon : hasEffect expiry.targetCharacterUid expiry.effectId race = true)
    (hgeneration : race.generation expiry.targetCharacterUid expiry.effectId = expiry.generation) :
    expiry.Acts race := by
  rw [hasEffect] at hon
  rw [generation] at hgeneration
  cases hracer : race.racers[expiry.targetCharacterUid]? with
  | none =>
    rw [hracer] at hon
    cases hon
  | some racer =>
    rw [hracer] at hgeneration
    exact ⟨racer, hracer, hgeneration⟩

/-- The job of an effect that is on would clear it. -/
theorem acts_of_covering (h : Timed scheduled)
    (hjob : ⟨scheduled.races, .effectExpiry expiry⟩ ∈ scheduled.jobs)
    (hon : hasEffect expiry.targetCharacterUid expiry.effectId scheduled.race = true)
    (hchange : expiry.change = scheduled.changes expiry.targetCharacterUid expiry.effectId) :
    expiry.Acts scheduled.race := by
  refine acts_of_generation hon ?_
  rw [h.counted, (h.marked expiry hjob).1, hchange]

/-- A job that is taken from the queue leaves the marks, if an effect that is on has another one. -/
theorem timed_eraseIdx (h : Timed scheduled) {index : Nat} {job : Job} (hindex : scheduled.jobs[index]? = some job)
    (hother : ∀ expiry, job = ⟨scheduled.races, .effectExpiry expiry⟩ →
      hasEffect expiry.targetCharacterUid expiry.effectId scheduled.race = true →
        expiry.change ≠ scheduled.changes expiry.targetCharacterUid expiry.effectId) :
    Timed { scheduled with jobs := scheduled.jobs.eraseIdx index } := by
  have hmem : ∀ {other : Job}, other ∈ scheduled.jobs.eraseIdx index → other ∈ scheduled.jobs :=
    fun hother => mem_of_mem_eraseIdx hother
  refine ⟨h.counted, fun other hjob => h.earlier other (hmem hjob), fun expiry hjob => h.marked expiry (hmem hjob),
    fun uid effectId heffect => ?_⟩
  obtain ⟨expiry, hjob, huid, heffectId, hlast, hchange⟩ := h.covered uid effectId heffect
  refine ⟨expiry, ?_, huid, heffectId, hlast, hchange⟩
  obtain ⟨place, hplace⟩ := mem_iff_getElem?.1 hjob
  refine mem_eraseIdx_iff_getElem?.2 ⟨place, ?_, hplace⟩
  rintro rfl
  cases hindex.symm.trans hplace
  rw [← huid, ← heffectId] at heffect hchange
  exact hother expiry rfl heffect hchange

/-- The expiry of an effect. -/
theorem timed_expire (h : Timed scheduled) {index race : Nat}
    (hindex : scheduled.jobs[index]? = some ⟨race, .effectExpiry expiry⟩) :
    Timed ((onRace (expireEffect around expiry)).final { scheduled with jobs := scheduled.jobs.eraseIdx index }) := by
  have hcells := fun other which => @expireEffect_cells around expiry scheduled.race other which
  have hset : Timed (scheduled.setRace ((expireEffect around expiry).final scheduled.race)) := by
    refine h.setRace fun other which => ?_
    obtain ⟨hgeneration, hacts, hnot⟩ := hcells other which
    by_cases hacting : expiry.Acts scheduled.race
    · by_cases hcell : other = expiry.targetCharacterUid ∧ which = expiry.effectId
      · exact .inr ((hacts hacting).trans (if_pos hcell))
      · exact .inl ⟨(hacts hacting).trans (if_neg hcell), hgeneration⟩
    · exact .inl ⟨hnot hacting, hgeneration⟩
  rw [onRace, final_zoom]
  refine timed_eraseIdx hset hindex fun other hjob heffect hchange => ?_
  cases hjob
  obtain ⟨hgeneration, hacts, hnot⟩ := hcells expiry.targetCharacterUid expiry.effectId
  have heffect : hasEffect expiry.targetCharacterUid expiry.effectId
    ((expireEffect around expiry).final scheduled.race) = true := heffect
  have hsame : expiry.change = scheduled.changes expiry.targetCharacterUid expiry.effectId := by
    refine hchange.trans ?_
    show scheduled.changes _ _ + (((expireEffect around expiry).final scheduled.race).generation _ _ - _).toNat = _
    rw [hgeneration, UInt32.sub_self]
    rfl
  by_cases hacting : expiry.Acts scheduled.race
  · rw [hacts hacting, if_pos ⟨rfl, rfl⟩] at heffect
    cases heffect
  · rw [hnot hacting] at heffect
    exact hacting (acts_of_covering h (mem_of_getElem? hindex) heffect hsame)

theorem timed_takeJob (index : Nat) : Keeps (Carries Timed) (takeJob around index) := by
  intro scheduled h
  rw [takeJob, final_bind_ok (get_apply _)]
  cases hindex : scheduled.jobs[index]? with
  | none => exact h
  | some job =>
    obtain ⟨race, task⟩ := job
    dsimp only
    rw [final_bind_ok (modify_apply _ _)]
    cases task with
    | effectExpiry expiry => exact timed_expire h hindex
    | itemStrip uid =>
      exact timed_onRace .stripHeldMagicItem _ (timed_eraseIdx h hindex fun _ hjob => by cases hjob)
    | teamSpur team =>
      have herased := timed_eraseIdx h hindex fun _ hjob => by cases hjob
      rw [runJob, final_bind_ok (get_apply _)]
      split
      · exact herased
      · exact timed_queueJob (fun _ => Task.noConfusion) _ herased
    | gaugeUnlock team =>
      exact (timed_eraseIdx h hindex fun _ hjob => by cases hjob).setTracker (race_updateTeam _ _ _)

theorem timed_handleTeamGauge (client : ClientId) : Keeps (Carries Timed) (handleTeamGauge around client) := by
  refine .bind (keeps_askRoom _) fun _ => .bind .get fun scheduled => ?_
  split
  · exact .pure _
  refine .bind (keeps_askRoom _) ?_
  rintro ⟨uid, racer⟩
  dsimp only
  split
  · exact .throw _
  split
  · exact .pure _
  refine .bind (.modify fun other h => h.setTracker (race_fillGauge _ _)) fun _ => ?_
  split
  · exact timed_queueJob fun _ => Task.noConfusion
  · exact .pure _

/-- The racers of a new race have no effects, and its jobs are yet to come. -/
theorem timed_startRace (lookups : StartLookups) (isTeamMode : Bool) (h : Timed scheduled) :
    Timed (scheduled.startRace lookups isTeamMode) := by
  have hnew := @startRace_forall (fun racer => racer.effects = (fun _ => false) ∧
    racer.effectGenerations = fun _ => 0) (fun _ _ => ⟨rfl, rfl⟩) lookups scheduled.tracker
  refine ⟨fun uid effectId => ?_, fun job hjob => (h.earlier job hjob).trans (Nat.le_succ _), fun expiry hjob => ?_,
    fun uid effectId heffect => ?_⟩
  · show generation (startRace lookups scheduled.tracker).race uid effectId = 0
    rw [generation]
    cases hracer : (startRace lookups scheduled.tracker).race.racers[uid]? with
    | none => rfl
    | some racer => exact congrFun (hnew uid racer hracer).2 effectId
  · exact absurd (h.earlier _ hjob) (Nat.not_succ_le_self _)
  · have heffect : hasEffect uid effectId (startRace lookups scheduled.tracker).race = true := heffect
    rw [hasEffect] at heffect
    cases hracer : (startRace lookups scheduled.tracker).race.racers[uid]? with
    | none =>
      rw [hracer] at heffect
      cases heffect
    | some racer =>
      rw [hracer] at heffect
      have hnone := congrFun (hnew uid racer hracer).1 effectId
      exact absurd (hnone.symm.trans heffect) Bool.false_ne_true

theorem timed_step (scheduled : ScheduledRace) (input : RoomInput) (h : Timed scheduled)
    (htimely : Timely scheduled input) : Timed (roomStep registry scheduled input) := by
  cases input with
  | start lookups isTeamMode => exact timed_startRace lookups isTeamMode h
  | command around command =>
    cases command with
    | requestMagicItem client characterOid roll => exact timed_onRace .handleRequestMagicItem scheduled h
    | useMagicItem client command => exact timed_handleUseMagicItem client command scheduled h
    | activateSkillEffect client command => exact timed_handleActivateSkillEffect client command scheduled h
    | egg command => exact timed_onRace (.handle command) scheduled h
    | teamGauge client => exact timed_handleTeamGauge client scheduled h
    | gaugeTick => exact timed_onRace .tickMagicGauge scheduled h
    | job index => exact timed_takeJob index scheduled h

/-- A job that meets its generation in time is that of the last application. -/
theorem isLast_of_acts (h : Timed scheduled)
    (hjob : ⟨scheduled.races, .effectExpiry expiry⟩ ∈ scheduled.jobs)
    (hacts : expiry.Acts scheduled.race)
    (hlt : scheduled.changes expiry.targetCharacterUid expiry.effectId < expiry.change + 4294967296)
    :
    scheduled.IsLast scheduled.races expiry := by
  obtain ⟨hgeneration, hle, hlast⟩ := h.marked expiry hjob
  obtain ⟨racer, hracer, hmeets⟩ := hacts
  have hcounted := h.counted expiry.targetCharacterUid expiry.effectId
  rw [generation, hracer] at hcounted
  have hwrapped : ofNat expiry.change =
      ofNat (scheduled.changes expiry.targetCharacterUid expiry.effectId) :=
    hgeneration.symm.trans (hmeets.symm.trans hcounted)
  have hmod := congrArg toNat hwrapped
  rw [toNat_ofNat', toNat_ofNat'] at hmod
  exact hlast.resolve_right fun hbefore => by omega

theorem takeJob_expiry {index : Nat} {race : Nat}
    (hindex : scheduled.jobs[index]? = some ⟨race, .effectExpiry expiry⟩) :
    ((takeJob around index).final scheduled).race = (expireEffect around expiry).final scheduled.race := by
  rw [takeJob, final_bind_ok (get_apply _), hindex]
  dsimp only
  rw [final_bind_ok (modify_apply _ _), runJob]
  show ((onRace (expireEffect around expiry)).final _).race = _
  rw [onRace, final_zoom]
  rfl

theorem expirySound_of_timely (scheduled : ScheduledRace) (input : RoomInput) (h : Timed scheduled)
    (htimely : Timely scheduled input) : ExpirySound registry scheduled input := by
  have hafter := @timed_step registry scheduled input h htimely
  refine ⟨fun race expiry hrunning hacts => ?_, fun race expiry hrunning hacts => ?_, fun uid effectId hon => ?_⟩
  · cases input with
    | start lookups isTeamMode => cases hrunning
    | command around command =>
      cases command with
      | job index =>
        obtain ⟨rfl, hlt⟩ := htimely race expiry hrunning hacts
        exact isLast_of_acts h (mem_of_getElem? hrunning) hacts hlt
      | _ => cases hrunning
  · cases input with
    | start lookups isTeamMode => cases hrunning
    | command around command =>
      cases command with
      | job index =>
        have hrace : (roomStep registry scheduled (.command around (.job index))).race =
          (expireEffect around expiry).final scheduled.race := takeJob_expiry hrunning
        obtain ⟨-, hcell, -⟩ :=
          @expireEffect_cells around expiry scheduled.race expiry.targetCharacterUid expiry.effectId
        rw [hrace, hcell hacts, if_pos ⟨rfl, rfl⟩]
      | _ => cases hrunning
  · obtain ⟨expiry, hjob, rfl, rfl, hlast, hchange⟩ := hafter.covered uid effectId hon
    exact ⟨_, expiry, hjob, rfl, rfl, hlast, acts_of_covering hafter hjob hon hchange⟩

theorem timed_opened (race : RaceInstance) : Timed (opened race) := by
  have hnone : ∀ uid : Uid, (opened race).race.racers[uid]? = none :=
    fun uid => ExtTreeMap.getElem?_empty
  refine ⟨fun uid effectId => ?_, fun job hjob => absurd hjob not_mem_nil,
    fun expiry hjob => absurd hjob not_mem_nil, fun uid effectId hon => ?_⟩
  · rw [generation, hnone]
    rfl
  · rw [hasEffect, hnone] at hon
    cases hon

end Steps

/-! ## Runs -/

/-- As long as no job of an earlier race meets its generation, a job clears an effect only if it was not applied
again, and every effect that is on has a job that clears it. -/
theorem effects_expire (registry : Registry) (race : RaceInstance) (inputs : List RoomInput)
    (h : Guarded (roomStep registry) Timely (ScheduledRace.opened race) inputs) :
    Guarded (roomStep registry) (ExpirySound registry) (ScheduledRace.opened race) inputs :=
  h.imp timed_step expirySound_of_timely (timed_opened race)

/-! ### A fire ball -/

def fireBall : SlotInfo where
  type := 2
  basicType := 2
  skillEffectId := 0
  attackValue := 50
  adjustMotionSpeed := 1
  removeMagic := 1
  attackRank := 2

/-- A room with one player, who is hit. -/
def burning : Surroundings where
  clients := [(5, { characterUid := 100, roomUid := 1, isAuthenticated := true })]
  players := some [(100, 5)]

def burnStart : RoomInput := .start { players := [(100, .solo)] } false

def burnHit : RoomInput :=
  .command burning (.activateSkillEffect 5 { targetOid := 1, effectId := 0, attackerOid := 1, effectInstanceId := 0 })

def burnOut : RoomInput := .command burning (.job 0)

theorem effects_expire_burning :
    Guarded (roomStep { slotInfo := [fireBall] }) (ExpirySound { slotInfo := [fireBall] }) (ScheduledRace.opened {})
      [burnStart, burnHit, burnOut] := by
  refine effects_expire { slotInfo := [fireBall] } {} [burnStart, burnHit, burnOut]
    ⟨trivial, trivial, fun race expiry hjob _ => ?_, trivial⟩
  have hqueued : (run (roomStep { slotInfo := [fireBall] }) (ScheduledRace.opened {}) [burnStart, burnHit]).jobs[0]? =
    some ⟨1, .effectExpiry ⟨100, 1, 0, 1, 2, 1⟩⟩ := by decide +kernel
  cases hqueued.symm.trans hjob
  decide +kernel

/-- The job of a hit in one race ends the effect of a hit in the next one. -/
theorem effect_expires_early :
    ¬Guarded (roomStep { slotInfo := [fireBall] }) (ExpirySound { slotInfo := [fireBall] }) (ScheduledRace.opened {})
      [burnStart, burnHit, burnStart, burnHit, burnOut] := by
  rintro ⟨-, -, -, -, hsound, -⟩
  exact absurd (hsound.own 1 ⟨100, 1, 0, 1, 2, 1⟩ (by decide +kernel) (by decide +kernel)) (by decide +kernel)

end Alicia.Magic
