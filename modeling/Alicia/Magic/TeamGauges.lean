import Alicia.Magic.Restarts
import Alicia.Magic.Stars

/-!
# Team gauges

The gauge of a team, as the boosts of its racers fill it: five boosts are a full gauge, whatever the
size of the teams.  The teams stay as they are while the race lasts.

In a speed race between teams, the spurs of the racers fill the gauges of their teams.  A full gauge
is a spur of the team, which empties both gauges and locks the one of the team: a job begins the
spur some time later, and queues the job that releases the lock.

The length of a spur is float arithmetic on the size of the teams, and a parameter here.
-/

namespace Alicia.Magic

open Transition Effect Data RaceTracker
open Race (TeamColor Instant)

/-! ## One gauge -/

def teams : List TeamColor := [.red, .blue]

/-- The points of a full gauge, for teams of up to `n` racers. -/
def fullGauge (n : Nat) : Nat := 250 + 150 * (n - 1)

/-- The points of a boost. -/
def boostPoints (n : Nat) : Nat := 50 + 30 * (n - 1)

/-- Both gauges hold the points of fewer than five boosts each. -/
structure Charged (n : Nat) (boosts : TeamColor → Nat) (tracker : RaceTracker) : Prop where
  size : tracker.teamSize.toNat = n
  racers : 1 ≤ n
  fits : fullGauge n < 2 ^ 32
  boostCount : ∀ team ∈ teams, (tracker.teamInfo team).boostCount.toNat = boosts team
  points : ∀ team ∈ teams, (tracker.teamInfo team).points.toNat = boosts team * boostPoints n
  few : ∀ team ∈ teams, boosts team < 5

variable {team : TeamColor}

theorem fullGauge_eq (n : Nat) : fullGauge n = 5 * boostPoints n := by
  unfold fullGauge boostPoints
  omega

namespace Charged

variable {n : Nat} {boosts : TeamColor → Nat} {tracker : RaceTracker}

theorem scale (h : Charged n boosts tracker) : (tracker.teamSize - 1).toNat = n - 1 := by
  have hone : (1 : UInt32) ≤ tracker.teamSize := by
    rw [UInt32.le_iff_toNat_le, h.size]
    exact h.racers
  rw [UInt32.toNat_sub_of_le _ _ hone, h.size]
  rfl

/-- The points that the code adds and compares with do not overflow. -/
theorem maxPoints (h : Charged n boosts tracker) :
    (250 + 150 * (tracker.teamSize - 1)).toNat = fullGauge n := by
  have hfits := h.fits
  have hscale := h.scale
  unfold fullGauge at hfits ⊢
  simp only [UInt32.toNat_add, UInt32.toNat_mul, hscale, UInt32.reduceToNat]
  omega

theorem added (h : Charged n boosts tracker) (hteam : team ∈ teams) :
    ((tracker.teamInfo team).points + 50 +
      (20 * (tracker.teamSize - 1) + 10 * (tracker.teamSize - 1))).toNat =
        (boosts team + 1) * boostPoints n := by
  have hfits := h.fits
  have hpoints := h.points team hteam
  have hle : (boosts team + 1) * boostPoints n ≤ 5 * boostPoints n :=
    Nat.mul_le_mul_right _ (h.few team hteam)
  rw [Nat.add_mul, Nat.one_mul] at hle ⊢
  rw [fullGauge_eq] at hfits
  have hscale := h.scale
  simp only [UInt32.toNat_add, UInt32.toNat_mul, hscale, hpoints, UInt32.reduceToNat]
  unfold boostPoints at hle hfits ⊢
  omega

/-- The points after a boost, which never are more than those of a full gauge. -/
theorem capped (h : Charged n boosts tracker) (hteam : team ∈ teams) :
    min (250 + 150 * (tracker.teamSize - 1)) ((tracker.teamInfo team).points + 50 +
      (20 * (tracker.teamSize - 1) + 10 * (tracker.teamSize - 1))) =
        (tracker.teamInfo team).points + 50 +
          (20 * (tracker.teamSize - 1) + 10 * (tracker.teamSize - 1)) := by
  have hadded := h.added hteam
  have hle : (boosts team + 1) * boostPoints n ≤ 5 * boostPoints n :=
    Nat.mul_le_mul_right _ (h.few team hteam)
  have hcap := h.maxPoints
  rw [fullGauge_eq] at hcap
  generalize (tracker.teamInfo team).points + 50 +
    (20 * (tracker.teamSize - 1) + 10 * (tracker.teamSize - 1)) = sum at hadded ⊢
  generalize 250 + 150 * (tracker.teamSize - 1) = cap at hcap ⊢
  have hmin : (if cap ≤ sum then cap else sum) = sum := by
    split
    next hcapped =>
      rw [UInt32.le_iff_toNat_le] at hcapped
      exact UInt32.toNat_inj.1 (by omega)
    · rfl
  exact hmin

/-- The gauge of the team with a boost more. -/
def filled (tracker : RaceTracker) (team : TeamColor) : RaceTracker :=
  tracker.updateTeam team fun info =>
    { info with
      boostCount := info.boostCount + 1
      points := info.points + 50 +
        (20 * (tracker.teamSize - 1) + 10 * (tracker.teamSize - 1)) }

/-- Both gauges emptied, and that of the team locked. -/
def spent (tracker : RaceTracker) (team : TeamColor) : RaceTracker :=
  { tracker with
    redTeam := { tracker.redTeam with points := 0, boostCount := 0 }
    blueTeam := { tracker.blueTeam with points := 0, boostCount := 0 } }.updateTeam team fun info =>
      { info with gaugeLocked := true }

/-- The boost fills the gauge if it is the fifth one. -/
theorem full_iff (h : Charged n boosts tracker) (hteam : team ∈ teams) :
    250 + 150 * (tracker.teamSize - 1) ≤ (tracker.teamInfo team).points + 50 +
      (20 * (tracker.teamSize - 1) + 10 * (tracker.teamSize - 1)) ↔ boosts team + 1 = 5 := by
  have hfew := h.few team hteam
  have hboost : 0 < boostPoints n := by
    unfold boostPoints
    omega
  rw [UInt32.le_iff_toNat_le, h.maxPoints, h.added hteam, fullGauge_eq,
    Nat.mul_le_mul_right_iff hboost]
  omega

/-- No gauge is full before the boost. -/
theorem below (h : Charged n boosts tracker) {team : TeamColor} (hteam : team ∈ teams) :
    (tracker.teamInfo team).points < 250 + 150 * (tracker.teamSize - 1) := by
  have hboost : 0 < boostPoints n := by
    unfold boostPoints
    omega
  rw [UInt32.lt_iff_toNat_lt, h.maxPoints, h.points team hteam, fullGauge_eq]
  exact Nat.mul_lt_mul_of_pos_right (h.few team hteam) hboost

theorem fillGauge_eq (h : Charged n boosts tracker) (hteam : team ∈ teams) :
    tracker.fillGauge team =
      if boosts team + 1 = 5 then (spent (filled tracker team) team, true)
      else (filled tracker team, false) := by
  have hcapped := h.capped hteam
  have hfull := h.full_iff hteam
  have hred := @below n boosts tracker h .red (by decide)
  have hblue := @below n boosts tracker h .blue (by decide)
  rcases List.mem_pair.1 hteam with rfl | rfl
  · unfold fillGauge
    dsimp only [updateTeam, teamInfo] at *
    rw [hcapped]
    by_cases hfifth : boosts .red + 1 = 5
    · rw [if_pos hfifth, if_neg (by simp [UInt32.not_lt.2 (hfull.2 hfifth)])]
      exact Prod.ext (if_pos (hfull.2 hfifth)) (decide_eq_true (hfull.2 hfifth))
    · have hlower := UInt32.not_le.1 fun hle => hfifth (hfull.1 hle)
      rw [if_neg hfifth, if_pos (by simp [hlower, hblue])]
      rfl
  · unfold fillGauge
    dsimp only [updateTeam, teamInfo] at *
    rw [hcapped]
    by_cases hfifth : boosts .blue + 1 = 5
    · rw [if_pos hfifth, if_neg (by simp [UInt32.not_lt.2 (hfull.2 hfifth)])]
      exact Prod.ext (if_pos (hfull.2 hfifth)) (decide_eq_true (hfull.2 hfifth))
    · have hlower := UInt32.not_le.1 fun hle => hfifth (hfull.1 hle)
      rw [if_neg hfifth, if_pos (by simp [hlower, hred])]
      rfl

end Charged

section Boosts

variable {n : Nat} {tracker : RaceTracker}

variable {other : TeamColor}

theorem teamInfo_updateTeam_of_mem (hteam : team ∈ teams) (hother : other ∈ teams)
    (change : TeamInfo → TeamInfo) (tracker : RaceTracker) :
    (tracker.updateTeam team change).teamInfo other =
      if other = team then change (tracker.teamInfo other) else tracker.teamInfo other := by
  rcases List.mem_pair.1 hteam with rfl | rfl <;>
    rcases List.mem_pair.1 hother with rfl | rfl <;> rfl

theorem teamSize_updateTeam (team : TeamColor) (change : TeamInfo → TeamInfo)
    (tracker : RaceTracker) : (tracker.updateTeam team change).teamSize = tracker.teamSize := by
  rw [teamSize, teamSize, race_updateTeam]

/-- The gauges hold one boost more. -/
theorem charged_filled {boosts : TeamColor → Nat} (h : Charged n boosts tracker)
    (hteam : team ∈ teams) (hfifth : boosts team + 1 ≠ 5) :
    Charged n (fun other => if team = other then boosts other + 1 else boosts other)
      (Charged.filled tracker team) := by
  have hinfo {other : TeamColor} (hother : other ∈ teams) :
      (Charged.filled tracker team).teamInfo other = _ :=
    teamInfo_updateTeam_of_mem hteam hother _ tracker
  refine ⟨(congrArg UInt32.toNat (teamSize_updateTeam _ _ _)).trans h.size, h.racers, h.fits,
    fun other hother => ?_, fun other hother => ?_, fun other hother => ?_⟩
  · have hcount := h.boostCount other hother
    have hfew := h.few other hother
    rw [hinfo hother]
    by_cases hsame : other = team
    · subst hsame
      simp only [if_true, UInt32.toNat_add, UInt32.reduceToNat, hcount]
      omega
    · simp only [if_neg hsame, if_neg (Ne.symm hsame), hcount]
  · rw [hinfo hother]
    by_cases hsame : other = team
    · subst hsame
      simpa only [if_true] using h.added hother
    · simpa only [if_neg hsame, if_neg (Ne.symm hsame)] using h.points other hother
  · have hfew := h.few other hother
    split
    next hsame =>
      subst hsame
      omega
    · exact hfew

/-- A spur leaves both gauges empty. -/
theorem teamInfo_spent (tracker : RaceTracker) (hteam : team ∈ teams) (hother : other ∈ teams) :
    (Charged.spent tracker team).teamInfo other =
      { gaugeLocked := if other = team then true else (tracker.teamInfo other).gaugeLocked } := by
  rcases List.mem_pair.1 hteam with rfl | rfl <;>
    rcases List.mem_pair.1 hother with rfl | rfl <;> rfl

theorem teamSize_spent (tracker : RaceTracker) (team : TeamColor) :
    (Charged.spent tracker team).teamSize = tracker.teamSize :=
  teamSize_updateTeam team _ _

theorem race_spent (tracker : RaceTracker) (team : TeamColor) :
    (Charged.spent tracker team).race = tracker.race :=
  race_updateTeam _ team _

theorem gaugeLocked_filled (hteam : team ∈ teams) (hother : other ∈ teams) :
    ((Charged.filled tracker team).teamInfo other).gaugeLocked =
      (tracker.teamInfo other).gaugeLocked := by
  rw [Charged.filled, teamInfo_updateTeam_of_mem hteam hother]
  split <;> rfl

end Boosts

/-! ## The same teams -/

/-- The racers are in the same teams of the same race. -/
structure SameTeams (race after : RaceInstance) : Prop where
  roomUid : after.roomUid = race.roomUid
  gameMode : after.gameMode = race.gameMode
  teams : ∀ uid : Uid, (after.racers[uid]?).map Racer.team = (race.racers[uid]?).map Racer.team

instance : Std.Refl SameTeams := ⟨fun _ => ⟨rfl, rfl, fun _ => rfl⟩⟩

instance : IsTrans RaceInstance SameTeams :=
  ⟨fun _ _ _ h hnext => ⟨hnext.roomUid.trans h.roomUid, hnext.gameMode.trans h.gameMode,
    fun uid => (hnext.teams uid).trans (h.teams uid)⟩⟩

instance : Unsent SameTeams := ⟨fun _ _ => ⟨rfl, rfl, fun _ => rfl⟩⟩

theorem sameTeams_updateRacer (uid : Uid) (change : Racer → Racer)
    (h : ∀ racer, (change racer).team = racer.team) (race : RaceInstance) :
    SameTeams race (race.updateRacer uid change) := by
  refine ⟨rfl, rfl, fun other => ?_⟩
  rw [getElem?_updateRacer]
  split
  · cases race.racers[other]? with
    | none => rfl
    | some racer => exact congrArg some (h racer)
  · rfl

theorem sameTeams_handleRequestSpur (registry : Registry) (around : Surroundings)
    (client : ClientId) (command : RequestSpur) :
    Keeps SameTeams (handleRequestSpur registry around client command) := by
  refine .bind (keeps_ask _) fun entry => .bind (keeps_ask _) fun mode => ?_
  split
  · exact .throw _
  · refine .bind (.modify fun race => ?_) fun _ =>
      .bind (keeps_queueCommand _ _ _) fun _ => keeps_queueCommand _ _ _
    refine sameTeams_updateRacer entry.1 _ (fun racer => ?_) race
    rfl

variable {around : Surroundings} {client : ClientId}

theorem getRacer_of_getClientContext {failure : Failure}
    (h : around.getClientContext client = .error failure) (race : RaceInstance) :
    around.getRacer client race = .error failure := by
  rw [Surroundings.getRacer, h]
  rfl

theorem getRacer_eq_ok {race : RaceInstance} {uid : Uid} {racer : Racer} :
    around.getRacer client race = .ok (uid, racer) ↔
      ∃ context, around.getClientContext client = .ok context ∧ context.roomUid ≠ invalidUid ∧
        context.roomUid = race.roomUid ∧ context.characterUid = uid ∧
        race.racers[uid]? = some racer := by
  constructor
  · intro h
    rw [Surroundings.getRacer] at h
    cases hcontext : around.getClientContext client with
    | error failure =>
      rw [hcontext] at h
      cases h
    | ok context =>
      rw [hcontext] at h
      change (if context.roomUid = invalidUid then _ else _) = _ at h
      split at h
      · cases h
      next hroom =>
        split at h
        · cases h
        next hsame =>
          cases hracer : race.racers[context.characterUid]? with
          | none =>
            rw [hracer] at h
            cases h
          | some found =>
            rw [hracer] at h
            cases h
            exact ⟨context, rfl, hroom, not_not.1 hsame, rfl, hracer⟩
  · rintro ⟨context, hcontext, hroom, hsame, rfl, hracer⟩
    rw [Surroundings.getRacer, hcontext]
    change (if context.roomUid = invalidUid then _ else _) = _
    rw [if_neg hroom, if_neg (not_not.2 hsame), hracer]
    rfl

namespace SameTeams

variable {race after : RaceInstance}

theorem symm (h : SameTeams race after) : SameTeams after race :=
  ⟨h.roomUid.symm, h.gameMode.symm, fun uid => (h.teams uid).symm⟩

theorem getRacer (h : SameTeams race after) {uid : Uid} {racer : Racer}
    (hracer : around.getRacer client race = .ok (uid, racer)) :
    ∃ later, around.getRacer client after = .ok (uid, later) ∧ later.team = racer.team := by
  obtain ⟨context, hcontext, hroom, hsame, rfl, hbefore⟩ := getRacer_eq_ok.1 hracer
  obtain ⟨later, hlater, hteam⟩ : ∃ later, after.racers[context.characterUid]? = some later ∧
      later.team = racer.team :=
    Option.map_eq_some_iff.1 ((h.teams _).trans (by rw [hbefore]; rfl))
  exact ⟨later, getRacer_eq_ok.2
    ⟨context, hcontext, hroom, hsame.trans h.roomUid.symm, rfl, hlater⟩, hteam⟩

theorem teamSize (h : SameTeams race after) (tracker : RaceTracker) :
    (tracker.setRace after).teamSize = (tracker.setRace race).teamSize := by
  have hteams : after.racers.map (fun _ racer => racer.team) =
      race.racers.map (fun _ racer => racer.team) := by
    refine Std.ExtTreeMap.ext_getElem? fun uid => ?_
    rw [Std.ExtTreeMap.getElem?_map, Std.ExtTreeMap.getElem?_map]
    exact h.teams uid
  have hlist := congrArg Std.ExtTreeMap.toList hteams
  rw [Std.ExtTreeMap.toList_map, Std.ExtTreeMap.toList_map] at hlist
  have hcount (team : TeamColor) : after.racers.toList.countP (fun entry => entry.2.team = team) =
      race.racers.toList.countP fun entry => entry.2.team = team := by
    have hsame := congrArg (List.countP fun entry => entry.2 = team) hlist
    rwa [List.countP_map, List.countP_map] at hsame
  simp only [RaceTracker.teamSize, RaceTracker.setRace, hcount]

end SameTeams

/-! ## The room of a race -/

/-- The stage of a spur: it is to begin, for teams of that size, or its lock is to be released. -/
inductive SpurTask where
  | start (teamSize : UInt32)
  | unlock
  deriving DecidableEq

/-- A job of a spur, from `due` on.  `spur` is history: the spurs of the race before this one. -/
structure SpurJob where
  spur : Nat
  team : TeamColor
  due : Instant
  task : SpurTask
  deriving DecidableEq

/-- What has happened to the gauges. -/
inductive GaugeEvent where
  | boosted (team : TeamColor)
  | spurred (spur : Nat) (team : TeamColor) (now : Instant)
  | began (spur : Nat) (teamSize : UInt32) (now : Instant)
  | released (spur : Nat) (now : Instant)
  deriving DecidableEq

/-- A room with the tracker of its race, until the room is deleted, and the jobs of its spurs.
`log` is history.  The room is `undefined` after a write through a reference to a gauge that is
gone. -/
structure SpurRoom where
  tracker : Option RaceTracker := none
  isTeamMode : Bool := false
  players : List Uid := []
  jobs : List SpurJob := []
  log : List GaugeEvent := []
  undefined : Bool := false

/-- `SpurStartDelay`, in nanoseconds. -/
def spurStartDelay : Instant := 1500000000

def GaugeEvent.isSpur : GaugeEvent → Bool
  | .spurred _ _ _ => true
  | _ => false

/-- The spurs of either team so far. -/
def spurs (log : List GaugeEvent) : Nat := log.countP GaugeEvent.isSpur

def GaugeEvent.releases (spur : Nat) : GaugeEvent → Bool
  | .released other _ => other = spur
  | _ => false

/-- The boosts of the team after an event. -/
def GaugeEvent.count (team : TeamColor) (boosts : Nat) : GaugeEvent → Nat
  | .boosted other => if other = team then boosts + 1 else boosts
  | .spurred _ _ _ => 0
  | _ => boosts

/-- The counted boosts of the team since the last spur of either team. -/
def boostsSince (team : TeamColor) (log : List GaugeEvent) : Nat :=
  log.foldl (GaugeEvent.count team) 0

namespace SpurRoom

/-- A boost that is counted, with the job that a spur queues. -/
def boost (team : TeamColor) (now : Instant) (tracker : RaceTracker) (room : SpurRoom) : SpurRoom :=
  if (tracker.fillGauge team).2 then
    { room with
      tracker := some (tracker.fillGauge team).1
      jobs := room.jobs ++ [{
        spur := spurs room.log
        team := team
        due := now + spurStartDelay
        task := .start tracker.teamSize }]
      log := room.log ++ [.boosted team, .spurred (spurs room.log) team now] }
  else
    { room with
      tracker := some (tracker.fillGauge team).1
      log := room.log ++ [.boosted team] }

/-- `HandleTeamGauge`. -/
def teamGauge (around : Surroundings) (client : ClientId) (tracker : RaceTracker)
    (room : SpurRoom) : SpurRoom :=
  let unchanged := { room with tracker := some tracker }
  if !room.isTeamMode || tracker.race.gameMode ≠ speedMode then unchanged
  else
    match around.getRacer client tracker.race with
    | .error _ => unchanged
    | .ok (_, racer) =>
      if racer.team ≠ .red && racer.team ≠ .blue then unchanged
      else if (tracker.teamInfo racer.team).gaugeLocked then unchanged
      else room.boost racer.team around.now tracker

/-- The handler of `AcCmdCRRequestSpur`: `HandleRequestSpur`, and `HandleTeamGauge` if it does not
throw. -/
def requestSpur (registry : Registry) (around : Surroundings) (client : ClientId)
    (command : RequestSpur) (room : SpurRoom) : SpurRoom :=
  match room.tracker with
  | none => room
  | some tracker =>
    match handleRequestSpur registry around client command tracker.race with
    | .error _ race => { room with tracker := some (tracker.setRace race) }
    | .ok _ race => room.teamGauge around client (tracker.setRace race)

/-- `HandleLeaveRoom`: the racer remains in the tracker, and the last player deletes the room. -/
def leave (characterUid : Uid) (room : SpurRoom) : SpurRoom :=
  match room.tracker with
  | none => room
  | some tracker =>
    let players := room.players.filter fun player => player ≠ characterUid
    { room with
      players := players
      tracker :=
        if players.isEmpty then none
        else some (tracker.setRace (tracker.race.updateRacer characterUid fun racer =>
          { racer with state := .disconnected })) }

/-- The scheduler runs a job of a spur that is due.  The first job looks the room up, the second one
does not. -/
def runJob (duration : UInt32 → Instant) (index : Nat) (now : Instant) (room : SpurRoom) :
    SpurRoom :=
  match room.jobs[index]? with
  | none => room
  | some job =>
    if now < job.due then room
    else
      let room := { room with jobs := room.jobs.eraseIdx index }
      match job.task, room.tracker with
      | .start _, none => room
      | .start teamSize, some _ =>
        { room with
          jobs := room.jobs ++ [{ job with due := now + duration teamSize, task := .unlock }]
          log := room.log ++ [.began job.spur teamSize now] }
      | .unlock, none => { room with undefined := true }
      | .unlock, some tracker =>
        { room with
          tracker := some (tracker.updateTeam job.team fun info =>
            { info with gaugeLocked := false })
          log := room.log ++ [.released job.spur now] }

end SpurRoom

inductive SpurInput where
  | requestSpur (around : Surroundings) (client : ClientId) (command : RequestSpur)
  | leave (characterUid : Uid)
  | job (index : Nat) (now : Instant)

def spurStep (registry : Registry) (duration : UInt32 → Instant) (room : SpurRoom) :
    SpurInput → SpurRoom
  | .requestSpur around client command => room.requestSpur registry around client command
  | .leave characterUid => room.leave characterUid
  | .job index now => room.runJob duration index now

/-- The timed jobs are those of `HandleTeamGauge` without the times. -/
theorem handleTeamGauge_final (around : Surroundings) (client : ClientId)
    (scheduled : ScheduledRace) (log : List GaugeEvent) :
    let after := ({ isTeamMode := scheduled.isTeamMode, log := log } : SpurRoom).teamGauge around
      client scheduled.tracker
    after.tracker = some ((handleTeamGauge around client).final scheduled).tracker ∧
      ((handleTeamGauge around client).final scheduled).jobs = scheduled.jobs ++
        after.jobs.map fun job => ⟨scheduled.races, .teamSpur job.team⟩ := by
  rw [handleTeamGauge]
  dsimp only [SpurRoom.teamGauge]
  cases hcontext : around.getClientContext client with
  | error failure =>
    have hask : Effect.ask (fun _ : ScheduledRace =>
      (.error failure : Except Failure Race.ClientContext)) scheduled =
        .error failure scheduled := ask_error rfl
    rw [final_bind_error hask, getRacer_of_getClientContext hcontext]
    split <;> simp
  | ok context =>
    have hask : Effect.ask (fun _ : ScheduledRace =>
      (.ok context : Except Failure Race.ClientContext)) scheduled = .ok context scheduled :=
        ask_ok rfl
    rw [final_bind_ok hask, final_bind_ok (get_apply _)]
    have hrace : scheduled.race = scheduled.tracker.race := rfl
    rw [hrace]
    by_cases hmode :
      (!scheduled.isTeamMode || decide (scheduled.tracker.race.gameMode ≠ speedMode)) = true
    · rw [if_pos hmode, if_pos hmode]
      simp
    rw [if_neg hmode, if_neg hmode]
    cases hracer : around.getRacer client scheduled.tracker.race with
    | error failure =>
      have hask : Effect.ask (fun scheduled : ScheduledRace =>
        around.getRacer client scheduled.race) scheduled = .error failure scheduled :=
          ask_error hracer
      rw [final_bind_error hask]
      simp
    | ok entry =>
      obtain ⟨uid, racer⟩ := entry
      have hask : Effect.ask (fun scheduled : ScheduledRace =>
        around.getRacer client scheduled.race) scheduled = .ok (uid, racer) scheduled :=
          ask_ok hracer
      rw [final_bind_ok hask]
      dsimp only
      split
      · simp
      · split
        · simp
        · rw [final_bind_ok (modify_apply _ _), SpurRoom.boost]
          split
          · exact ⟨rfl, rfl⟩
          · exact ⟨rfl, (List.append_nil _).symm⟩

/-! ## Sound gauges -/

/-- How often the lock of a spur was released. -/
def releases (spur : Nat) (log : List GaugeEvent) : Nat := log.countP (GaugeEvent.releases spur)

/-- The jobs of a spur that are to run. -/
def pending (spur : Nat) (jobs : List SpurJob) : Nat := jobs.countP fun job => job.spur = spur

/-- A release is that of a spur, whose stages have taken their time. -/
def ReleasedOnTime (n : Nat) (duration : UInt32 → Instant) (log : List GaugeEvent) : Prop :=
  ∀ spur now, .released spur now ∈ log → ∃ team triggered teamSize begun,
    .spurred spur team triggered ∈ log ∧ .began spur teamSize begun ∈ log ∧ teamSize.toNat = n ∧
      triggered + spurStartDelay ≤ begun ∧ begun + duration teamSize ≤ now

/-- What holds of the gauges after every step. -/
structure GaugesSound (n : Nat) (duration : UInt32 → Instant) (room : SpurRoom) : Prop where
  points : ∀ tracker, room.tracker = some tracker → ∀ team ∈ teams,
    (tracker.teamInfo team).points.toNat =
      (tracker.teamInfo team).boostCount.toNat * boostPoints n ∧
    (tracker.teamInfo team).points.toNat < fullGauge n
  counted : ∀ tracker, room.tracker = some tracker → ∀ team ∈ teams,
    (tracker.teamInfo team).boostCount.toNat = boostsSince team room.log
  locked : ∀ tracker, room.tracker = some tracker → ∀ team ∈ teams,
    (tracker.teamInfo team).gaugeLocked = true ↔
      ∃ spur now, .spurred spur team now ∈ room.log ∧ releases spur room.log = 0
  onTime : ReleasedOnTime n duration room.log
  atMostOnce : ∀ spur, releases spur room.log ≤ 1

/-- The lock of each spur was released once, or will be by its job. -/
def ReleasedOnce (room : SpurRoom) : Prop :=
  ∀ spur team now, .spurred spur team now ∈ room.log →
    releases spur room.log + pending spur room.jobs = 1

/-- The boost of the client is counted for the team. -/
def Counts (registry : Registry) (around : Surroundings) (client : ClientId) (command : RequestSpur)
    (team : TeamColor) (room : SpurRoom) : Prop :=
  ∃ tracker uid racer, room.tracker = some tracker ∧
    (handleRequestSpur registry around client command).Completes tracker.race ∧
    around.getRacer client tracker.race = .ok (uid, racer) ∧ racer.team = team ∧ team ∈ teams ∧
    (tracker.teamInfo team).gaugeLocked = false

/-- The gauges, the jobs of the spurs and what has happened to the gauges are the same. -/
structure SameGauges (room after : SpurRoom) : Prop where
  teamInfo : ∀ tracker, room.tracker = some tracker → ∃ later, after.tracker = some later ∧
    ∀ team ∈ teams, later.teamInfo team = tracker.teamInfo team
  jobs : after.jobs = room.jobs
  log : after.log = room.log

/-- The fifth counted boost is a spur, which empties both gauges, and no other one is. -/
def Boosted (team : TeamColor) (now : Instant) (room after : SpurRoom) : Prop :=
  if boostsSince team room.log + 1 = 5 then
    after.log = room.log ++ [.boosted team, .spurred (spurs room.log) team now] ∧
      ∃ tracker, after.tracker = some tracker ∧ ∀ other ∈ teams,
        (tracker.teamInfo other).points = 0 ∧ (tracker.teamInfo other).boostCount = 0
  else after.log = room.log ++ [.boosted team]

/-- A boost that is not counted changes nothing, and only a counted boost may be a spur. -/
structure BoostSound (registry : Registry) (duration : UInt32 → Instant) (room : SpurRoom)
    (input : SpurInput) : Prop where
  counted : ∀ around client command team, input = .requestSpur around client command →
    Counts registry around client command team room →
      Boosted team around.now room (spurStep registry duration room input)
  uncounted : ∀ around client command, input = .requestSpur around client command →
    (∀ team, ¬Counts registry around client command team room) →
      SameGauges room (spurStep registry duration room input)
  others : (∀ around client command, input ≠ .requestSpur around client command) →
    spurs (spurStep registry duration room input).log = spurs room.log ∧
      ∀ team, boostsSince team (spurStep registry duration room input).log =
        boostsSince team room.log

/-- A speed race between teams of up to `n` racers starts, with empty gauges that are not locked, so
that no job is to release one.  A room has 255 players at most, and no sum of points overflows. -/
structure TeamRaceStarts (n : Nat) (room : SpurRoom) (tracker : RaceTracker) : Prop where
  started : room.tracker = some tracker
  isTeamMode : room.isTeamMode = true
  gameMode : tracker.race.gameMode = speedMode
  size : tracker.teamSize.toNat = n
  racers : 1 ≤ n
  fits : fullGauge n < 2 ^ 32
  teamInfo : ∀ team ∈ teams, tracker.teamInfo team = {}
  jobs : room.jobs = []
  log : room.log = []

end Alicia.Magic
