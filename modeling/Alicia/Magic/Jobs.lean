import Alicia.Magic.Races
import Alicia.Transition.Simulation

/-!
# The jobs of a race

What a race leaves to the scheduler: the expiry of an effect, the strip of a held item, and the spur of a team
with the unlock of its gauge.  The scheduler is the same for all races of a room, so a job may run in a later
race than the one that queued it.  The messages about the gauges of the teams are left out.
-/

namespace Alicia.Magic

open Std (ExtTreeMap)
open Transition Effect Data
open Race (TeamColor)

/-! ## Jobs -/

/-- What `QueueEffectExpiry` captures.  `change` is history: how often the effect of the racer had changed in
the race when it was applied. -/
structure EffectExpiry where
  targetCharacterUid : Uid
  targetOid : UInt16
  effectId : UInt32
  generation : UInt32
  attackRank : UInt32
  change : Nat
  deriving DecidableEq

inductive Task where
  | effectExpiry (expiry : EffectExpiry)
  | itemStrip (targetCharacterUid : Uid)
  | teamSpur (team : TeamColor)
  | gaugeUnlock (team : TeamColor)
  deriving DecidableEq

/-- A queued task, and the race that has queued it. -/
structure Job where
  race : Nat
  task : Task
  deriving DecidableEq

/-- The generation of an effect of a racer. -/
def RaceInstance.generation (race : RaceInstance) (uid : Uid) (effectId : UInt32) : UInt32 :=
  match race.racers[uid]? with
  | none => 0
  | some racer => racer.effectGenerations effectId

/-- A room with the jobs of its races.  `races`, `changes` and `lastApplication` are history variables: the
races that were started, how often an effect of a racer has changed in this race, and the last application of
an effect to a character, by its race and change. -/
structure ScheduledRace where
  tracker : RaceTracker := {}
  isTeamMode : Bool := false
  jobs : List Job := []
  races : Nat := 0
  changes : Uid → UInt32 → Nat := fun _ _ => 0
  lastApplication : Uid → UInt32 → Option (Nat × Nat) := fun _ _ => none

abbrev Scheduling := Effect ScheduledRace Failure

def ScheduledRace.race (scheduled : ScheduledRace) : RaceInstance := scheduled.tracker.race

/-- The race is replaced, and the changes of its generations are counted. -/
def ScheduledRace.setRace (race : RaceInstance) (scheduled : ScheduledRace) : ScheduledRace :=
  { scheduled with
    tracker := scheduled.tracker.setRace race
    changes := fun uid effectId => scheduled.changes uid effectId +
      (race.generation uid effectId - scheduled.race.generation uid effectId).toNat }

/-- An effect on the race. -/
def onRace {α : Type} (x : Handling α) : Scheduling α := x.zoom ScheduledRace.race ScheduledRace.setRace

def queueJob (task : Task) : Scheduling Unit :=
  modify fun scheduled => { scheduled with jobs := scheduled.jobs ++ [⟨scheduled.races, task⟩] }

/-! ## Effects of spells -/

namespace Scheduled

variable (registry : Registry) (around : Surroundings)

def removeEffect (uid : Uid) (oid : UInt16) (effectId : UInt32) : Scheduling Unit :=
  onRace (Magic.removeEffect around uid oid effectId)

def stripEffectsOnAttack (uid : Uid) (oid : UInt16) (attack : SlotInfo) : Scheduling Unit :=
  registry.slotInfo.forM fun slot => do
    if isValidSkillEffectId slot.skillEffectId && isStrippedByAttack attack slot &&
        hasEffect uid slot.skillEffectId (← get).race then
      removeEffect around uid oid slot.skillEffectId

/-- The effect begins, and is the last application. -/
def startEffect (uid : Uid) (effectId attackRank : UInt32) : Scheduling Unit := do
  onRace (Magic.startEffect uid effectId attackRank)
  modify fun scheduled =>
    { scheduled with
      lastApplication := Function.update scheduled.lastApplication uid
        (Function.update (scheduled.lastApplication uid) effectId
          (some (scheduled.races, scheduled.changes uid effectId))) }

/-- `ScheduleSkillEffect`. -/
def scheduleSkillEffect (attackerOid targetOid : UInt16) (slot : SlotInfo) (effectInstanceId : UInt16) :
    Scheduling EffectVerdict := do
  match (← get).race.findRacerByOid targetOid with
  | none => return .failed
  | some (targetUid, target) =>
    if !isValidSkillEffectId slot.skillEffectId then return .failed
    else
      let resolution ← Effect.ask fun _ => resolveEffect registry slot target.toCondition
      onRace (broadcast around (.addSkillEffect targetOid resolution.effectId attackerOid effectInstanceId
        resolution.isDuplicated resolution.shieldBlocks))
      if resolution.shieldBlocks then return .shielded
      else if resolution.isDuplicated then return .duplicated
      else
        startEffect targetUid resolution.effectId slot.attackRank
        let started ← get
        if 0 < slot.attackValue then
          stripEffectsOnAttack registry around targetUid targetOid slot
          if drainsGaugeOnHit slot then onRace (drainGauge around targetUid targetOid)
        queueJob (.effectExpiry
          { targetCharacterUid := targetUid
            targetOid := targetOid
            effectId := resolution.effectId
            generation := started.race.generation targetUid resolution.effectId
            attackRank := slot.attackRank
            change := started.changes targetUid resolution.effectId })
        return .applied

def consumeCriticalAura (uid : Uid) (racer : Racer) (slot : SlotInfo) : Scheduling SlotInfo := do
  if !(auraEffectIds.any racer.effects) || slot.criticalType = 0 then return slot
  else
    (auraEffectIds.filter racer.effects).forM fun effectId => removeEffect around uid racer.oid effectId
    Effect.ask fun _ => registry.getSlotInfo slot.criticalType

def applyImmediateMagicEffects (racer : Racer) (slot : SlotInfo) (effectInstanceId : UInt16) :
    Scheduling Unit := do
  if isSelfCast slot.type then
    let _ ← scheduleSkillEffect registry around racer.oid racer.oid slot effectInstanceId
  else if isIceWall slot.type then return ()
  else if isTeamBuff slot.type then
    let buffed := (← get).race.racers.toList.filter fun (_, other) =>
      other.oid = racer.oid || racer.team ≠ .solo && other.team = racer.team
    buffed.forM fun (_, other) => do
      let _ ← scheduleSkillEffect registry around racer.oid other.oid slot effectInstanceId

/-- `HandleUseMagicItem`. -/
def handleUseMagicItem (client : ClientId) (command : UseMagicItem) : Scheduling Unit := do
  let (uid, racer) ← Effect.ask fun scheduled => around.getRacer client scheduled.race
  if command.characterOid ≠ racer.oid then return ()
  else if racer.magicItem.isNone || command.magicItemId = 0 then
    onRace (updateRacer uid fun racer => { racer with magicItem := none })
    onRace (queueCommand around client (.useMagicItemOK command.characterOid 0 [] 0))
  else
    let slot ← Effect.ask fun _ => registry.getSlotInfo command.magicItemId
    let slot ← consumeCriticalAura registry around uid racer slot
    let targetList := resolveMagicTargets (← get).race slot command.targetList
    let effectInstanceId ← onRace <| nextEffectInstanceId <|
      if isIceWall slot.type then UInt16.ofNat command.targetList.length else 1
    onRace (queueCommand around client
      (.useMagicItemOK command.characterOid slot.type targetList effectInstanceId))
    onRace (broadcastExcept around
      (.useMagicItemNotify command.characterOid slot.type targetList effectInstanceId) uid)
    applyImmediateMagicEffects registry around racer slot effectInstanceId
    onRace (updateRacer uid fun racer => { racer with magicItem := none })

/-- The strip of a held item, for a racer who is hit and holds one. -/
def queueHeldMagicItemStrip (uid : Uid) (slot : SlotInfo) (verdict : EffectVerdict) : Scheduling Unit := do
  if verdict = .applied && slot.removeMagic = 1 &&
      (((← get).race.racers[uid]?).bind Racer.magicItem).isSome then
    queueJob (.itemStrip uid)

/-- `HandleActivateSkillEffect`. -/
def handleActivateSkillEffect (client : ClientId) (command : ActivateSkillEffect) : Scheduling Unit := do
  let (uid, target) ← Effect.ask fun scheduled => around.getRacer client scheduled.race
  if command.targetOid ≠ target.oid then return ()
  else
    let slot ← Effect.ask fun _ => reportedSlot registry target command.effectId
    if isIceWall slot.type then onRace (broadcast around (.magicExpire slot.type command.effectInstanceId))
    let verdict ←
      scheduleSkillEffect registry around command.attackerOid command.targetOid slot command.effectInstanceId
    match target.pendingMagicTarget with
    | none => pure ()
    | some (casterOid, effectInstanceId) =>
      if verdict = .applied && 1 < slot.attackRank then
        onRace (broadcast around (.removeMagicTarget effectInstanceId casterOid command.targetOid))
        onRace (updateRacer uid fun racer => { racer with pendingMagicTarget := none })
    queueHeldMagicItemStrip uid slot verdict
    if slot.basicType = MagicType.summon then
      onRace (updateRacer uid fun racer => { racer with pendingMagicTarget := none })

end Scheduled

/-! ## The race beside its jobs -/

namespace Scheduled

variable {registry : Registry} {around : Surroundings}

theorem onRace_simulates {α : Type} (x : Handling α) : Simulates ScheduledRace.race (onRace x) x :=
  .zoom (fun _ _ => rfl) x

/-- What is recorded at the end does not matter to the race. -/
theorem modify_simulates {change : ScheduledRace → ScheduledRace} (h : ∀ scheduled, (change scheduled).race = scheduled.race) :
    Simulates ScheduledRace.race (modify change) (pure ⟨⟩ : Handling PUnit) := by
  intro scheduled
  exact congrArg (EStateM.Result.ok PUnit.unit) (h scheduled).symm

theorem stripEffectsOnAttack_simulates (uid : Uid) (oid : UInt16) (attack : SlotInfo) :
    Simulates ScheduledRace.race (stripEffectsOnAttack registry around uid oid attack)
      (Magic.stripEffectsOnAttack registry around uid oid attack) := by
  refine .forM (fun slot => .get_bind fun scheduled => ?_) _
  split
  · exact onRace_simulates _
  · exact .pure _

theorem startEffect_simulates (uid : Uid) (effectId attackRank : UInt32) :
    Simulates ScheduledRace.race (startEffect uid effectId attackRank)
      (Magic.startEffect uid effectId attackRank) := by
  have hend : Simulates ScheduledRace.race (startEffect uid effectId attackRank)
      (Magic.startEffect uid effectId attackRank >>= fun _ => pure ⟨⟩) :=
    .bind (onRace_simulates _) fun _ => modify_simulates fun _ => rfl
  rwa [bind_pure_unit] at hend

theorem scheduleSkillEffect_simulates (attackerOid targetOid : UInt16) (slot : SlotInfo) (effectInstanceId : UInt16) :
    Simulates ScheduledRace.race
      (scheduleSkillEffect registry around attackerOid targetOid slot effectInstanceId)
      (Magic.scheduleSkillEffect registry around attackerOid targetOid slot effectInstanceId) := by
  refine .get_bind fun scheduled => ?_
  cases scheduled.race.findRacerByOid targetOid with
  | none => exact .pure _
  | some entry =>
  dsimp only
  split
  · exact .pure _
  have hresolve : Simulates ScheduledRace.race
      (Effect.ask fun _ => resolveEffect registry slot entry.2.toCondition)
      (Effect.ask fun _ => resolveEffect registry slot entry.2.toCondition) :=
    .ask fun _ => rfl
  refine .bind hresolve fun resolution =>
    .bind (onRace_simulates _) fun _ => ?_
  split
  · exact .pure _
  split
  · exact .pure _
  refine .bind (startEffect_simulates _ _ _) fun _ => .recall fun started => ?_
  split
  · refine .bind (stripEffectsOnAttack_simulates _ _ _) fun _ => ?_
    split
    · exact .bind (onRace_simulates _) fun _ =>
        .record (fun _ => rfl) (.pure _)
    · exact .record (fun _ => rfl) (.pure _)
  · exact .record (fun _ => rfl) (.pure _)

theorem consumeCriticalAura_simulates (uid : Uid) (racer : Racer) (slot : SlotInfo) :
    Simulates ScheduledRace.race (consumeCriticalAura registry around uid racer slot)
      (Magic.consumeCriticalAura registry around uid racer slot) := by
  rw [consumeCriticalAura, Magic.consumeCriticalAura]
  split
  · exact .pure _
  · exact .bind (.forM (fun _ => onRace_simulates _) _) fun _ =>
      .ask fun _ => rfl

theorem applyImmediateMagicEffects_simulates (racer : Racer) (slot : SlotInfo) (effectInstanceId : UInt16) :
    Simulates ScheduledRace.race
      (applyImmediateMagicEffects registry around racer slot effectInstanceId)
      (Magic.applyImmediateMagicEffects registry around racer slot effectInstanceId) := by
  rw [applyImmediateMagicEffects, Magic.applyImmediateMagicEffects]
  split
  · exact .bind (scheduleSkillEffect_simulates _ _ _ _) fun _ => .pure _
  split
  · exact .pure _
  split
  · exact .get_bind fun _ => .forM (fun _ =>
      .bind (scheduleSkillEffect_simulates _ _ _ _) fun _ => .pure _) _
  · exact .pure _

/-- A use of an item does to the race what it does without the jobs. -/
theorem handleUseMagicItem_simulates (client : ClientId) (command : UseMagicItem) :
    Simulates ScheduledRace.race (handleUseMagicItem registry around client command)
      (Magic.handleUseMagicItem registry around client command) := by
  refine .bind (.ask fun _ => rfl) ?_
  rintro ⟨uid, racer⟩
  dsimp only
  split
  · exact .pure _
  split
  · exact .bind (onRace_simulates _) fun _ => onRace_simulates _
  · exact .bind (.ask fun _ => rfl) fun _ =>
      .bind (consumeCriticalAura_simulates _ _ _) fun _ =>
      .get_bind fun _ =>
      .bind (onRace_simulates _) fun _ => .bind (onRace_simulates _) fun _ =>
      .bind (onRace_simulates _) fun _ =>
      .bind (applyImmediateMagicEffects_simulates _ _ _) fun _ => onRace_simulates _

theorem queueHeldMagicItemStrip_simulates (uid : Uid) (slot : SlotInfo) (verdict : EffectVerdict) :
    Simulates ScheduledRace.race (queueHeldMagicItemStrip uid slot verdict)
      (pure ⟨⟩ : Handling PUnit) := by
  refine .recall fun scheduled => ?_
  split
  · exact modify_simulates fun _ => rfl
  · exact .pure _

theorem handleActivateSkillEffect_simulates (client : ClientId) (command : ActivateSkillEffect) :
    Simulates ScheduledRace.race (handleActivateSkillEffect registry around client command)
      (Magic.handleActivateSkillEffect registry around client command) := by
  refine .bind (.ask fun _ => rfl) ?_
  rintro ⟨uid, target⟩
  dsimp only
  split
  · exact .pure _
  refine .bind (.ask fun _ => rfl) fun slot => ?_
  refine .ite_bind (onRace_simulates _) ?_
  refine .bind (scheduleSkillEffect_simulates _ _ _ _) fun verdict => ?_
  have hend := (queueHeldMagicItemStrip_simulates uid slot verdict).bind
    (f := fun _ => if slot.basicType = MagicType.summon then
      onRace (updateRacer uid fun racer => { racer with pendingMagicTarget := none }) else pure ⟨⟩)
    (g := fun _ => if slot.basicType = MagicType.summon then
      updateRacer uid fun racer => { racer with pendingMagicTarget := none } else pure ⟨⟩)
    (fun _ => by
      split
      · exact onRace_simulates _
      · exact .pure _)
  cases target.pendingMagicTarget with
  | none => exact hend
  | some pending =>
  dsimp only
  split
  · exact .bind (onRace_simulates _) fun _ => .bind (onRace_simulates _) fun _ => hend
  · exact hend

end Scheduled

/-! ## Team gauges -/

/-- The gauge of the red team, and of the other one. -/
def RaceTracker.teamInfo (tracker : RaceTracker) : TeamColor → TeamInfo
  | .red => tracker.redTeam
  | _ => tracker.blueTeam

def RaceTracker.updateTeam (team : TeamColor) (change : TeamInfo → TeamInfo) (tracker : RaceTracker) : RaceTracker :=
  match team with
  | .red => { tracker with redTeam := change tracker.redTeam }
  | _ => { tracker with blueTeam := change tracker.blueTeam }

/-- The racers of the larger team. -/
def RaceTracker.teamSize (tracker : RaceTracker) : UInt32 :=
  let size (team : TeamColor) : UInt32 :=
    UInt32.ofNat (tracker.race.racers.toList.countP fun entry => entry.2.team = team)
  max (size .red) (size .blue)

/-- A boost of the team, and whether the team can spur. -/
def RaceTracker.fillGauge (tracker : RaceTracker) (team : TeamColor) : RaceTracker × Bool :=
  let scale := tracker.teamSize - 1
  let maxPoints := 250 + 150 * scale
  let tracker := tracker.updateTeam team fun info =>
    { info with
      boostCount := info.boostCount + 1
      points := min maxPoints (info.points + 50 + (20 * scale + 10 * scale)) }
  if tracker.redTeam.points < maxPoints && tracker.blueTeam.points < maxPoints then (tracker, false)
  else
    let isTeamSpur := maxPoints ≤ (tracker.teamInfo team).points
    let tracker :=
      { tracker with
        redTeam := { tracker.redTeam with points := 0 }
        blueTeam := { tracker.blueTeam with points := 0 } }
    (if isTeamSpur then
      { tracker with
        redTeam := { tracker.redTeam with boostCount := 0 }
        blueTeam := { tracker.blueTeam with boostCount := 0 } }.updateTeam team fun info =>
          { info with gaugeLocked := true }
    else tracker, isTeamSpur)

/-- `HandleTeamGauge`. -/
def handleTeamGauge (around : Surroundings) (client : ClientId) : Scheduling Unit := do
  let _ ← Effect.ask fun _ => around.getClientContext client
  let scheduled ← get
  if !scheduled.isTeamMode || scheduled.race.gameMode ≠ speedMode then return ()
  else
    let (_, racer) ← Effect.ask fun scheduled => around.getRacer client scheduled.race
    if racer.team ≠ .red && racer.team ≠ .blue then throw (.thrown "Racer is on unrecognised team")
    else if (scheduled.tracker.teamInfo racer.team).gaugeLocked then return ()
    else
      modify fun scheduled => { scheduled with tracker := (scheduled.tracker.fillGauge racer.team).1 }
      if (scheduled.tracker.fillGauge racer.team).2 then queueJob (.teamSpur racer.team)

/-! ## Running a job -/

/-- The end of an effect, and of the attack if no other rank has replaced it. -/
def endEffect (uid : Uid) (effectId attackRank : UInt32) : Handling Unit :=
  updateRacer uid fun racer =>
    { racer with
      effects := Function.update racer.effects effectId false
      attackRank := if 0 < attackRank ∧ racer.attackRank = attackRank then 0 else racer.attackRank }

/-- The job of `QueueEffectExpiry`. -/
def expireEffect (around : Surroundings) (expiry : EffectExpiry) : Handling Unit := do
  match (← get).racers[expiry.targetCharacterUid]? with
  | none => return ()
  | some racer =>
    if racer.effectGenerations expiry.effectId ≠ expiry.generation then return ()
    else
      endEffect expiry.targetCharacterUid expiry.effectId expiry.attackRank
      broadcast around (.removeSkillEffect expiry.targetOid expiry.effectId)

/-- A job of the race.  The spur of a team refers to its racer, who is gone with the race; the unlock refers to
the team, which stays. -/
def runJob (around : Surroundings) (job : Job) : Scheduling Unit :=
  match job.task with
  | .effectExpiry expiry => onRace (expireEffect around expiry)
  | .itemStrip uid => onRace (stripHeldMagicItem around uid)
  | .teamSpur team => do
    if job.race ≠ (← get).races then throw .undefined
    else queueJob (.gaugeUnlock team)
  | .gaugeUnlock team =>
    modify fun scheduled =>
      { scheduled with tracker := scheduled.tracker.updateTeam team fun info => { info with gaugeLocked := false } }

/-! ## Runs -/

/-- What happens in a race. -/
inductive RaceCommand where
  | requestMagicItem (client : ClientId) (characterOid : UInt16) (roll : Roll)
  | useMagicItem (client : ClientId) (command : UseMagicItem)
  | activateSkillEffect (client : ClientId) (command : ActivateSkillEffect)
  | egg (command : EggCommand)
  | teamGauge (client : ClientId)
  | gaugeTick
  | job (index : Nat)

/-- The scheduler runs a job, which is not queued any more. -/
def takeJob (around : Surroundings) (index : Nat) : Scheduling Unit := do
  match (← get).jobs[index]? with
  | none => return ()
  | some job =>
    modify fun scheduled => { scheduled with jobs := scheduled.jobs.eraseIdx index }
    runJob around job

def RaceCommand.handle (registry : Registry) (around : Surroundings) : RaceCommand → Scheduling Unit
  | requestMagicItem client characterOid roll =>
    onRace (handleRequestMagicItem registry around client characterOid roll)
  | useMagicItem client command => Scheduled.handleUseMagicItem registry around client command
  | activateSkillEffect client command => Scheduled.handleActivateSkillEffect registry around client command
  | egg command => onRace (command.handle registry around)
  | teamGauge client => handleTeamGauge around client
  | gaugeTick => onRace (tickMagicGauge registry around)
  | job index => takeJob around index

/-- A race begins, or something happens in it. -/
inductive RoomInput where
  | start (lookups : StartLookups) (isTeamMode : Bool)
  | command (around : Surroundings) (command : RaceCommand)

/-- The next race of the room. -/
def ScheduledRace.startRace (lookups : StartLookups) (isTeamMode : Bool) (scheduled : ScheduledRace) :
    ScheduledRace :=
  { scheduled with
    tracker := Magic.startRace lookups scheduled.tracker
    isTeamMode := isTeamMode
    races := scheduled.races + 1
    changes := fun _ _ => 0 }

def roomStep (registry : Registry) (scheduled : ScheduledRace) : RoomInput → ScheduledRace
  | .start lookups isTeamMode => scheduled.startRace lookups isTeamMode
  | .command around command => (command.handle registry around).final scheduled

/-- A room before its first race. -/
def ScheduledRace.opened (race : RaceInstance) : ScheduledRace := { tracker := { race := race.clear } }

end Alicia.Magic
