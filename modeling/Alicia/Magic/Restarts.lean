import Alicia.Magic.Expiry

/-!
# The start of another race

`Clear` empties the tracker for the next race of a room, by the fields that it names.  The gauges of the teams
and the count of the effect instances are not among them, and the jobs of the race before are still queued.
-/

namespace Alicia.Magic

open Std (ExtTreeMap)
open Transition Effect Data RaceTracker
open Race (TeamColor)

/-! ## The purpose of the tracker -/

/-- A tracker that was just constructed, with the OIDs of the characters. -/
def RaceTracker.renewed (tracker : RaceTracker) : RaceTracker where
  race :=
    { tracker.race with
      racers := ∅
      itemDecks := ∅
      nextItemDeckOid := 1
      nextEffectInstanceId := 0
      offered := []
      created := []
      gifts := [] }
  characterOids := tracker.characterOids
  nextCharacterOid := tracker.nextCharacterOid

/-- The race is as it was, but for what was sent. -/
def SameButSent (before after : RaceInstance) : Prop := ∃ sent, after = { before with sent := sent }

/-- The job changes nothing of the tracker, and what it refers to is there. -/
def Undisturbed (around : Surroundings) (scheduled : ScheduledRace) (index : Nat) : Prop :=
  (∀ after, takeJob around index scheduled ≠ .error .undefined after) ∧
    ∃ race, SameButSent scheduled.race race ∧
      ((takeJob around index).final scheduled).tracker = scheduled.tracker.setRace race

/-- A race starts as with a new tracker, and no job of an earlier race changes it. -/
def StartsFresh (scheduled : ScheduledRace) : RoomInput → Prop
  | .start lookups isTeamMode =>
    let after := (scheduled.startRace lookups isTeamMode).tracker
    after = startRace lookups scheduled.tracker.renewed ∧ after.blueTeam = {} ∧ after.redTeam = {}
  | .command around (.job index) =>
    ∀ job, scheduled.jobs[index]? = some job → job.race ≠ scheduled.races → Undisturbed around scheduled index
  | .command _ _ => True

/-- A task of an earlier race has nothing to do. -/
def Task.Idle (tracker : RaceTracker) : Task → Prop
  | .effectExpiry expiry => ∀ racer, tracker.race.racers[expiry.targetCharacterUid]? = some racer →
      racer.effectGenerations expiry.effectId = expiry.generation →
        racer.effects expiry.effectId = false ∧ ¬(0 < expiry.attackRank ∧ racer.attackRank = expiry.attackRank)
  | .itemStrip uid => ∀ racer, tracker.race.racers[uid]? = some racer → racer.magicItem = none
  | .teamSpur _ => False
  | .gaugeUnlock team => (tracker.teamInfo team).gaugeLocked = false

/-- The race before has left nothing to the gauges and used no effect instance, and its jobs have nothing to do. -/
def Settled (scheduled : ScheduledRace) : RoomInput → Prop
  | .start _ _ =>
    scheduled.tracker.blueTeam = {} ∧ scheduled.tracker.redTeam = {} ∧ scheduled.race.nextEffectInstanceId = 0
  | .command _ (.job index) =>
    ∀ job, scheduled.jobs[index]? = some job → job.race ≠ scheduled.races → job.task.Idle scheduled.tracker
  | .command _ _ => True

/-! ## What a start keeps -/

/-- What `Clear` does not name. -/
structure Uncleared (before after : RaceTracker) : Prop where
  blueTeam : after.blueTeam = before.blueTeam
  redTeam : after.redTeam = before.redTeam
  nextEffectInstanceId : after.race.nextEffectInstanceId = before.race.nextEffectInstanceId

instance : Std.Refl Uncleared := ⟨fun _ => ⟨rfl, rfl, rfl⟩⟩

instance : IsTrans RaceTracker Uncleared :=
  ⟨fun _ _ _ h hnext => ⟨hnext.blueTeam.trans h.blueTeam, hnext.redTeam.trans h.redTeam,
    hnext.nextEffectInstanceId.trans h.nextEffectInstanceId⟩⟩

theorem uncleared_addRacer (uid : Uid) (team : TeamColor) : Keeps Uncleared (addRacer uid team) := by
  intro tracker
  rcases addRacer_apply uid team tracker with hthrown | ⟨-, hadded⟩
  · rw [final_error hthrown]
    exact refl_of Uncleared tracker
  · rw [final_ok hadded, withRacer, assignOid]
    split
    · exact ⟨rfl, rfl, rfl⟩
    · exact ⟨rfl, rfl, rfl⟩

/-- The count of the effect instances goes on. -/
def SameInstances (before after : RaceInstance) : Prop := after.nextEffectInstanceId = before.nextEffectInstanceId

instance : Std.Refl SameInstances := ⟨fun _ => rfl⟩

instance : IsTrans RaceInstance SameInstances := ⟨fun _ _ _ h hnext => Eq.trans hnext h⟩

theorem sameInstances_prepareRace (lookups : StartLookups) : Keeps SameInstances (prepareRace lookups) := by
  refine .bind (.modify fun _ => rfl) fun _ =>
    .bind (.forM (fun deck => .bind .get fun race => ?_) _)
      fun _ => ?_
  · split
    · exact .throw _
    · exact .modify fun _ => rfl
  · split
    · exact .pure _
    · exact .throw _

theorem uncleared_startRace (lookups : StartLookups) (tracker : RaceTracker) :
    Uncleared tracker (startRace lookups tracker) := by
  have hprepared : Uncleared tracker (tracker.preparedFor lookups) :=
    ⟨rfl, rfl, sameInstances_prepareRace lookups tracker.race.clear⟩
  rcases startRace_cases lookups tracker with hstart | ⟨-, hstart⟩
  · rw [hstart]
    exact hprepared
  · rw [hstart]
    exact trans_of Uncleared hprepared
      (Keeps.forM (fun player => uncleared_addRacer player.1 player.2) lookups.players _)

/-- A start sees of the tracker what `Clear` leaves. -/
theorem startRace_congr {first second : RaceTracker} (h : first.clear = second.clear) (lookups : StartLookups) :
    startRace lookups first = startRace lookups second := by
  rw [startRace, startRace, h]

/-- `Clear` makes a new tracker of one whose gauges and instances are as in a new one. -/
theorem clear_renewed {tracker : RaceTracker} (hblue : tracker.blueTeam = {}) (hred : tracker.redTeam = {})
    (hinstances : tracker.race.nextEffectInstanceId = 0) : tracker.renewed.clear = tracker.clear := by
  rw [clear, clear, RaceInstance.clear, RaceInstance.clear, hinstances, hblue, hred]
  rfl

theorem startsFresh_start_iff (scheduled : ScheduledRace) (lookups : StartLookups) (isTeamMode : Bool) :
    StartsFresh scheduled (.start lookups isTeamMode) ↔ Settled scheduled (.start lookups isTeamMode) := by
  have hkept := uncleared_startRace lookups scheduled.tracker
  have hrenewed := uncleared_startRace lookups scheduled.tracker.renewed
  constructor
  · rintro ⟨hsame, hblue, hred⟩
    have hsame : startRace lookups scheduled.tracker = startRace lookups scheduled.tracker.renewed := hsame
    refine ⟨hkept.blueTeam.symm.trans hblue, hkept.redTeam.symm.trans hred, ?_⟩
    exact hkept.nextEffectInstanceId.symm.trans
      ((congrArg (fun tracker => tracker.race.nextEffectInstanceId) hsame).trans hrenewed.nextEffectInstanceId)
  · rintro ⟨hblue, hred, hinstances⟩
    exact ⟨startRace_congr (clear_renewed hblue hred hinstances).symm lookups, hkept.blueTeam.trans hblue,
      hkept.redTeam.trans hred⟩

/-! ## What a job of an earlier race changes -/

instance : Std.Refl SameButSent := ⟨fun race => ⟨race.sent, rfl⟩⟩

instance : IsTrans RaceInstance SameButSent := by
  refine ⟨?_⟩
  rintro race _ _ ⟨_, rfl⟩ ⟨sent, rfl⟩
  exact ⟨sent, rfl⟩

instance : Unsent SameButSent := ⟨fun _ sent => ⟨sent, rfl⟩⟩

section Jobs

variable {around : Surroundings} {scheduled : ScheduledRace} {race told : RaceInstance} {uid : Uid} {racer : Racer}

/-- What was thrown can be caught. -/
def Caught (failure : Failure) : Prop := failure ≠ .undefined

theorem caught_broadcast (message : Message) : Throws Caught (broadcast around message) := by
  refine .bind (.ask fun _ failure hfailure => ?_) fun players =>
    .forM (fun player => ?_) _
  · rw [Surroundings.getPlayers] at hfailure
    cases hplayers : around.players with
    | none =>
      rw [hplayers] at hfailure
      cases hfailure
      exact fun hundefined => by cases hundefined
    | some players =>
      rw [hplayers] at hfailure
      cases hfailure
  · rw [queueCommand]
    split
    · exact .modify _
    · exact .pure _

theorem caught_expireEffect (expiry : EffectExpiry) : Throws Caught (expireEffect around expiry) := by
  refine .bind .get fun race => ?_
  split
  · exact .pure _
  split
  · exact .pure _
  · exact .bind (.modify _) fun _ => caught_broadcast _

theorem caught_stripHeldMagicItem : Throws Caught (stripHeldMagicItem around uid) := by
  refine .bind .get fun race => ?_
  split
  · exact .pure _
  split
  · exact .pure _
  · exact .bind (.modify _) fun _ => caught_broadcast _

/-- A change of a racer that is followed by messages goes unnoticed if the racer stays. -/
theorem sameButSent_update_iff {change : Racer → Racer} (hracer : race.racers[uid]? = some racer)
    (htold : SameButSent (race.updateRacer uid change) told) : SameButSent race told ↔ change racer = racer := by
  obtain ⟨sent, rfl⟩ := htold
  have hcell := getElem?_updateRacer uid uid change race
  rw [if_pos rfl, hracer] at hcell
  constructor
  · rintro ⟨others, hsame⟩
    have hracers := congrArg (fun race => race.racers) hsame
    dsimp only at hracers
    rw [hracers, hracer] at hcell
    exact (Option.some.inj hcell).symm
  · intro hstays
    have hracers : (race.updateRacer uid change).racers = race.racers := by
      refine ExtTreeMap.ext_getElem? fun other => ?_
      rw [getElem?_updateRacer]
      split
      · next hother =>
          rw [hother, hracer]
          exact congrArg some hstays
      · rfl
    refine ⟨sent, ?_⟩
    rw [hracers]
    rfl

theorem sameButSent_expireEffect_iff (expiry : EffectExpiry) (tracker : RaceTracker) :
    SameButSent tracker.race ((expireEffect around expiry).final tracker.race) ↔
      (Task.effectExpiry expiry).Idle tracker := by
  rw [expireEffect, final_bind_ok (get_apply _)]
  cases hracer : tracker.race.racers[expiry.targetCharacterUid]? with
  | none =>
    refine iff_of_true (refl_of SameButSent _) fun _ hsome => ?_
    cases hracer.symm.trans hsome
  | some racer =>
  dsimp only
  split
  · next hgeneration =>
      refine iff_of_true (refl_of SameButSent _) fun other hsome hmeets => ?_
      cases hracer.symm.trans hsome
      exact absurd hmeets hgeneration
  next hgeneration =>
  rw [endEffect, updateRacer, final_bind_ok (modify_apply _ _),
    sameButSent_update_iff hracer (keeps_broadcast around _ _)]
  constructor
  · intro hstays other hsome hmeets
    cases hracer.symm.trans hsome
    have heffects := congrFun (congrArg (fun racer => racer.effects) hstays) expiry.effectId
    have hrank := congrArg (fun racer => racer.attackRank) hstays
    refine ⟨heffects.symm.trans (Function.update_self _ _ _), fun hended => ?_⟩
    have hzero : 0 = racer.attackRank := (if_pos hended).symm.trans hrank
    exact absurd (hzero.trans hended.2) (UInt32.ne_of_lt hended.1)
  · intro hidle
    obtain ⟨heffect, hrank⟩ := hidle racer hracer (not_not.1 hgeneration)
    rw [if_neg hrank, Function.update_eq_self_iff.2 heffect.symm]

theorem sameButSent_stripHeldMagicItem_iff (tracker : RaceTracker) :
    SameButSent tracker.race ((stripHeldMagicItem around uid).final tracker.race) ↔
      (Task.itemStrip uid).Idle tracker := by
  rw [stripHeldMagicItem, final_bind_ok (get_apply _)]
  cases hracer : tracker.race.racers[uid]? with
  | none =>
    refine iff_of_true (refl_of SameButSent _) fun _ hsome => ?_
    cases hracer.symm.trans hsome
  | some racer =>
  dsimp only
  split
  · next hnone =>
      refine iff_of_true (refl_of SameButSent _) fun other hsome => ?_
      cases hracer.symm.trans hsome
      exact Option.isNone_iff_eq_none.1 hnone
  · rw [updateRacer, final_bind_ok (modify_apply _ _),
      sameButSent_update_iff hracer (keeps_broadcast around _ _)]
    constructor
    · intro hstays other hsome
      cases hracer.symm.trans hsome
      exact (congrArg Racer.magicItem hstays).symm
    · intro hidle
      rw [← hidle racer hracer]

theorem takeJob_apply {index : Nat} {job : Job} (hindex : scheduled.jobs[index]? = some job) :
    takeJob around index scheduled =
      runJob around job { scheduled with jobs := scheduled.jobs.eraseIdx index } := by
  rw [takeJob, bind_ok (get_apply _), hindex]
  rfl

/-- A job that is about the race. -/
theorem undisturbed_onRace_iff {index : Nat} {x : Handling Unit} (hcaught : Throws Caught x)
    (htake : takeJob around index scheduled = onRace x { scheduled with jobs := scheduled.jobs.eraseIdx index }) :
    Undisturbed around scheduled index ↔ SameButSent scheduled.race (x.final scheduled.race) := by
  have htracker : ((takeJob around index).final scheduled).tracker =
      scheduled.tracker.setRace (x.final scheduled.race) := by
    rw [final_congr htake, onRace, final_zoom]
    rfl
  constructor
  · rintro ⟨-, race, hsame, hafter⟩
    have hrace : x.final scheduled.race = race := congrArg RaceTracker.race (htracker.symm.trans hafter)
    rwa [hrace]
  · intro hsame
    refine ⟨fun after hthrown => ?_, _, hsame, htracker⟩
    rw [htake] at hthrown
    exact hcaught.zoom _ _ _ hthrown rfl

theorem teamInfo_updateTeam (tracker : RaceTracker) (team : TeamColor) (change : TeamInfo → TeamInfo) :
    (tracker.updateTeam team change).teamInfo team = change (tracker.teamInfo team) := by
  cases team with
  | red => rfl
  | _ => rfl

theorem updateTeam_eq_self {tracker : RaceTracker} {team : TeamColor} {change : TeamInfo → TeamInfo}
    (h : change (tracker.teamInfo team) = tracker.teamInfo team) : tracker.updateTeam team change = tracker := by
  cases team with
  | red => exact congrArg (fun info => { tracker with redTeam := info }) h
  | _ => exact congrArg (fun info => { tracker with blueTeam := info }) h

theorem teamInfo_setRace (tracker : RaceTracker) (race : RaceInstance) (team : TeamColor) :
    (tracker.setRace race).teamInfo team = tracker.teamInfo team := by
  cases team with
  | red => rfl
  | _ => rfl

/-- The unlock of a gauge goes unnoticed if the gauge is not locked. -/
theorem undisturbed_gaugeUnlock_iff {index race : Nat} {team : TeamColor}
    (hindex : scheduled.jobs[index]? = some ⟨race, .gaugeUnlock team⟩) :
    Undisturbed around scheduled index ↔ (scheduled.tracker.teamInfo team).gaugeLocked = false := by
  have htake := @takeJob_apply around scheduled index _ hindex
  have htracker : ((takeJob around index).final scheduled).tracker =
      scheduled.tracker.updateTeam team fun info => { info with gaugeLocked := false } := by
    rw [final_congr htake]
    rfl
  constructor
  · rintro ⟨-, after, -, hafter⟩
    have hteam := congrArg (fun tracker => (tracker.teamInfo team).gaugeLocked) (htracker.symm.trans hafter)
    rw [teamInfo_updateTeam, teamInfo_setRace] at hteam
    exact hteam.symm
  · intro hunlocked
    refine ⟨fun after hthrown => ?_, scheduled.race, refl_of SameButSent _, ?_⟩
    · rw [htake] at hthrown
      cases hthrown
    · rw [htracker, updateTeam_eq_self]
      · rfl
      · rw [← hunlocked]

theorem undisturbed_iff {index : Nat} {job : Job} (hindex : scheduled.jobs[index]? = some job)
    (hearlier : job.race ≠ scheduled.races) :
    Undisturbed around scheduled index ↔ job.task.Idle scheduled.tracker := by
  have htake := @takeJob_apply around scheduled index job hindex
  obtain ⟨race, task⟩ := job
  cases task with
  | effectExpiry expiry =>
    exact (undisturbed_onRace_iff (caught_expireEffect expiry) htake).trans
      (sameButSent_expireEffect_iff expiry scheduled.tracker)
  | itemStrip uid =>
    exact (undisturbed_onRace_iff caught_stripHeldMagicItem htake).trans
      (sameButSent_stripHeldMagicItem_iff scheduled.tracker)
  | teamSpur team =>
    -- the racer is gone with the earlier race
    dsimp only [runJob] at htake
    rw [bind_ok (get_apply _), if_pos hearlier] at htake
    exact iff_of_false (fun h => h.1 _ htake) not_false
  | gaugeUnlock team => exact undisturbed_gaugeUnlock_iff hindex

end Jobs

/-! ## Runs -/

theorem startsFresh_iff (scheduled : ScheduledRace) (input : RoomInput) :
    StartsFresh scheduled input ↔ Settled scheduled input := by
  cases input with
  | start lookups isTeamMode => exact startsFresh_start_iff scheduled lookups isTeamMode
  | command around command =>
    cases command with
    | job index => exact forall_congr' fun job => forall_congr' fun hindex => forall_congr' fun hearlier =>
      undisturbed_iff hindex hearlier
    | _ => exact Iff.rfl

/-- The races of a room start from a fresh tracker, and stay clear of the jobs of earlier races, in exactly the
runs in which every race leaves its gauges and its effect instances as it found them and its jobs find nothing
to do later. -/
theorem races_start_fresh_iff (registry : Registry) (race : RaceInstance) (inputs : List RoomInput) :
    Guarded (roomStep registry) StartsFresh (ScheduledRace.opened race) inputs ↔
      Guarded (roomStep registry) Settled (ScheduledRace.opened race) inputs :=
  @guarded_congr _ _ _ _ _ (fun _ => True) (fun _ _ _ _ => trivial)
    (fun scheduled input _ => startsFresh_iff scheduled input) _ _ trivial

/-! ### A boost of the red team -/

/-- A race of speed between two teams. -/
def teamStart : RoomInput := .start { players := [(100, .red), (200, .blue)], gameMode := speedMode } true

def redBoost : RoomInput := .command burning (.teamGauge 5)

/-- The next race starts with the points of the last one. -/
theorem race_starts_boosted :
    ¬Guarded (roomStep {}) StartsFresh (ScheduledRace.opened {}) [teamStart, redBoost, teamStart] := by
  rintro ⟨-, -, ⟨-, -, hred⟩, -⟩
  have hboosts := congrArg TeamInfo.boostCount hred
  exact absurd hboosts (by decide +kernel)

end Alicia.Magic
