import Alicia.Magic.TeamGauges

/-!
# Team spurs

The fifth counted boost since the last spur of either team is a spur.  Its lock is released by its
own second job, once its stages have taken their time, as long as the room is there: when the last
player has left, the first job finds no room.
-/

namespace Alicia.Magic

open Transition Data List RaceInstance
open Race (TeamColor Instant)

variable {index : Nat}

theorem perm_cons_eraseIdx {α : Type} {items : List α} {item : α} (h : items[index]? = some item) :
    (item :: items.eraseIdx index).Perm items := by
  induction items generalizing index with
  | nil => cases h
  | cons head rest ih =>
    cases index with
    | zero =>
      cases h
      exact List.Perm.refl _
    | succ index => exact (List.Perm.swap _ _ _).trans ((ih h).cons head)

variable {job : SpurJob}

/-! ## The history -/

section History

variable {log : List GaugeEvent}

theorem boostsSince_append (team : TeamColor) (log : List GaugeEvent) (event : GaugeEvent) :
    boostsSince team (log ++ [event]) = event.count team (boostsSince team log) := by
  simp [boostsSince]

theorem spurs_append (log : List GaugeEvent) (event : GaugeEvent) :
    spurs (log ++ [event]) = spurs log + event.isSpur.toNat := by
  cases event <;> simp [spurs, GaugeEvent.isSpur]

theorem releases_append (spur : Nat) (log : List GaugeEvent) (event : GaugeEvent) :
    releases spur (log ++ [event]) = releases spur log + (event.releases spur).toNat := by
  cases hevent : event.releases spur <;> simp [releases, hevent]

theorem pending_append (spur : Nat) (jobs : List SpurJob) (job : SpurJob) :
    pending spur (jobs ++ [job]) = pending spur jobs + (decide (job.spur = spur)).toNat := by
  by_cases hjob : job.spur = spur <;> simp [pending, hjob]

theorem pending_eraseIdx {jobs : List SpurJob} (h : jobs[index]? = some job) (spur : Nat) :
    pending spur jobs = pending spur (jobs.eraseIdx index) + (decide (job.spur = spur)).toNat := by
  have hcount := (perm_cons_eraseIdx h).countP_eq fun job => decide (job.spur = spur)
  rw [pending, ← hcount, countP_cons]
  by_cases hjob : job.spur = spur <;> simp [pending, hjob]

/-- The jobs of a team that are to run. -/
def waiting (team : TeamColor) (jobs : List SpurJob) : Nat := jobs.countP fun job => job.team = team

theorem waiting_append (team : TeamColor) (jobs : List SpurJob) (job : SpurJob) :
    waiting team (jobs ++ [job]) = waiting team jobs + (decide (job.team = team)).toNat := by
  by_cases hjob : job.team = team <;> simp [waiting, hjob]

theorem waiting_eraseIdx {jobs : List SpurJob} (h : jobs[index]? = some job) (team : TeamColor) :
    waiting team jobs = waiting team (jobs.eraseIdx index) + (decide (job.team = team)).toNat := by
  have hcount := (perm_cons_eraseIdx h).countP_eq fun job => decide (job.team = team)
  rw [waiting, ← hcount, countP_cons]
  by_cases hjob : job.team = team <;> simp [waiting, hjob]

theorem releases_eq_zero {spur : Nat} (h : ∀ now, .released spur now ∉ log) :
    releases spur log = 0 := by
  refine countP_eq_zero.2 fun event hmem => ?_
  cases event with
  | released other now =>
    intro hother
    cases of_decide_eq_true hother
    exact h now hmem
  | _ => exact Bool.false_ne_true

end History

/-! ## Jobs and history agree -/

/-- A job is that of a spur, and does not come before the stages of the spur have taken their
time. -/
def Known (n : Nat) (duration : UInt32 → Instant) (log : List GaugeEvent) (job : SpurJob) : Prop :=
  job.team ∈ teams ∧ ∃ triggered, .spurred job.spur job.team triggered ∈ log ∧
    match job.task with
    | .start teamSize => teamSize.toNat = n ∧ triggered + spurStartDelay ≤ job.due
    | .unlock => ∃ teamSize begun, .began job.spur teamSize begun ∈ log ∧ teamSize.toNat = n ∧
        triggered + spurStartDelay ≤ begun ∧ begun + duration teamSize ≤ job.due

theorem Known.mono {n : Nat} {duration : UInt32 → Instant} {log later : List GaugeEvent}
    (h : Known n duration log job) (hsubset : log ⊆ later) :
    Known n duration later job := by
  obtain ⟨hteam, triggered, hspurred, hstage⟩ := h
  refine ⟨hteam, triggered, hsubset hspurred, ?_⟩
  split at hstage
  · exact hstage
  · obtain ⟨teamSize, begun, hbegan, hdue⟩ := hstage
    exact ⟨teamSize, begun, hsubset hbegan, hdue⟩

theorem ReleasedOnTime.mono {n : Nat} {duration : UInt32 → Instant} {log later : List GaugeEvent}
    (h : ReleasedOnTime n duration log) (hsubset : log ⊆ later)
    (hsame : ∀ spur now, .released spur now ∈ later → .released spur now ∈ log) :
    ReleasedOnTime n duration later := by
  intro spur now hreleased
  obtain ⟨team, triggered, teamSize, begun, hspurred, hbegan, htimes⟩ :=
    h spur now (hsame spur now hreleased)
  exact ⟨team, triggered, teamSize, begun, hsubset hspurred, hsubset hbegan, htimes⟩

/-- The jobs are those of the spurs in the history, and each spur has one job or one release, unless
the room is gone. -/
structure Accounted (n : Nat) (duration : UInt32 → Instant) (room : SpurRoom) : Prop where
  known : ∀ job ∈ room.jobs, Known n duration room.log job
  numbered : ∀ spur team now, .spurred spur team now ∈ room.log → spur < spurs room.log
  unique : ∀ spur team now other later, .spurred spur team now ∈ room.log →
    .spurred spur other later ∈ room.log → other = team
  onTime : ReleasedOnTime n duration room.log
  atMostOnce : ∀ spur, releases spur room.log + pending spur room.jobs ≤ 1
  once : room.tracker.isSome = true → ReleasedOnce room

/-- The race of the room is a speed race between teams, with gauges as the history says. -/
structure RaceKept (n : Nat) (room : SpurRoom) (tracker : RaceTracker) : Prop where
  isTeamMode : room.isTeamMode = true
  gameMode : tracker.race.gameMode = speedMode
  charged : Charged n (fun team => boostsSince team room.log) tracker
  locks : ∀ team ∈ teams, waiting team room.jobs = (tracker.teamInfo team).gaugeLocked.toNat

structure SpurInv (n : Nat) (duration : UInt32 → Instant) (room : SpurRoom) : Prop where
  accounted : Accounted n duration room
  race : ∀ tracker, room.tracker = some tracker → RaceKept n room tracker

/-- What neither triggers a spur nor releases a lock. -/
structure Untouched (n : Nat) (duration : UInt32 → Instant) (room after : SpurRoom) : Prop where
  log : room.log ⊆ after.log
  spurs : spurs after.log = spurs room.log
  spurred : ∀ spur team now, .spurred spur team now ∈ after.log → .spurred spur team now ∈ room.log
  released : ∀ spur now, .released spur now ∈ after.log → .released spur now ∈ room.log
  releases : ∀ spur, releases spur after.log = releases spur room.log
  known : ∀ job ∈ after.jobs, Known n duration after.log job
  pending_le : ∀ spur, pending spur after.jobs ≤ pending spur room.jobs
  pending_eq : after.tracker.isSome = true → room.tracker.isSome = true ∧
    ∀ spur, pending spur after.jobs = pending spur room.jobs

theorem Accounted.untouched {n : Nat} {duration : UInt32 → Instant} {room after : SpurRoom}
    (h : Accounted n duration room) (hsame : Untouched n duration room after) :
    Accounted n duration after where
  known := hsame.known
  numbered spur team now hspurred := by
    rw [hsame.spurs]
    exact h.numbered spur team now (hsame.spurred spur team now hspurred)
  unique spur team now other later hspurred hother :=
    h.unique spur team now other later (hsame.spurred spur team now hspurred)
      (hsame.spurred spur other later hother)
  onTime := h.onTime.mono hsame.log hsame.released
  atMostOnce spur := by
    rw [hsame.releases]
    exact Nat.le_trans (Nat.add_le_add_left (hsame.pending_le spur) _) (h.atMostOnce spur)
  once hpresent spur team now hspurred := by
    obtain ⟨hbefore, hpending⟩ := hsame.pending_eq hpresent
    rw [hsame.releases, hpending]
    exact h.once hbefore spur team now (hsame.spurred spur team now hspurred)

section Steps

variable {n : Nat} {duration : UInt32 → Instant} {room : SpurRoom} {tracker : RaceTracker}

theorem RaceKept.setRace (h : RaceKept n room tracker) {race : RaceInstance}
    (hsame : SameTeams tracker.race race) : RaceKept n room (tracker.setRace race) where
  isTeamMode := h.isTeamMode
  gameMode := hsame.gameMode.trans h.gameMode
  charged :=
    { size := by
        rw [hsame.teamSize tracker]
        exact h.charged.size
      racers := h.charged.racers
      fits := h.charged.fits
      boostCount := fun team hteam => by
        rw [teamInfo_setRace]
        exact h.charged.boostCount team hteam
      points := fun team hteam => by
        rw [teamInfo_setRace]
        exact h.charged.points team hteam
      few := h.charged.few }
  locks team hteam := by
    rw [teamInfo_setRace]
    exact h.locks team hteam

theorem SpurInv.setRace (h : SpurInv n duration room) (htracker : room.tracker = some tracker)
    {race : RaceInstance} (hsame : SameTeams tracker.race race) :
    SpurInv n duration { room with tracker := some (tracker.setRace race) } := by
  have hkept := (h.race tracker htracker).setRace hsame
  constructor
  · exact h.accounted.untouched
      { log := List.Subset.refl _
        spurs := rfl
        spurred := fun _ _ _ => id
        released := fun _ _ => id
        releases := fun _ => rfl
        known := h.accounted.known
        pending_le := fun _ => Nat.le_refl _
        pending_eq := fun _ => ⟨by rw [htracker]; rfl, fun _ => rfl⟩ }
  · intro later hlater
    cases hlater
    exact ⟨hkept.isTeamMode, hkept.gameMode, hkept.charged, hkept.locks⟩

theorem SpurInv.leave (h : SpurInv n duration room) (characterUid : Uid) :
    SpurInv n duration (room.leave characterUid) := by
  unfold SpurRoom.leave
  split
  · exact h
  next tracker htracker =>
    dsimp only
    split
    · refine ⟨h.accounted.untouched
        { log := List.Subset.refl _
          spurs := rfl
          spurred := fun _ _ _ => id
          released := fun _ _ => id
          releases := fun _ => rfl
          known := h.accounted.known
          pending_le := fun _ => Nat.le_refl _
          pending_eq := nofun }, nofun⟩
    · have hset := h.setRace htracker (sameTeams_updateRacer characterUid
        (fun racer => { racer with state := .disconnected }) (fun _ => rfl) tracker.race)
      exact ⟨⟨hset.accounted.known, hset.accounted.numbered, hset.accounted.unique,
        hset.accounted.onTime, hset.accounted.atMostOnce, hset.accounted.once⟩,
        fun later hlater =>
          have hkept := hset.race later hlater
          ⟨hkept.isTeamMode, hkept.gameMode, hkept.charged, hkept.locks⟩⟩

/-- A job that finds no room is dropped. -/
theorem SpurInv.dropped (h : SpurInv n duration room) (hjob : room.jobs[index]? = some job)
    {after : SpurRoom} (htracker : after.tracker = none)
    (hjobs : after.jobs = room.jobs.eraseIdx index) (hlog : after.log = room.log) :
    SpurInv n duration after := by
  refine ⟨h.accounted.untouched ?_, fun tracker hsome => ?_⟩
  · exact
      { log := hlog ▸ List.Subset.refl _
        spurs := congrArg spurs hlog
        spurred := fun _ _ _ hmem => hlog ▸ hmem
        released := fun _ _ hmem => hlog ▸ hmem
        releases := fun spur => congrArg (releases spur) hlog
        known := fun other hother => by
          rw [hlog]
          rw [hjobs] at hother
          exact h.accounted.known other (mem_of_mem_eraseIdx hother)
        pending_le := fun spur => by
          rw [hjobs, pending_eraseIdx hjob spur]
          exact Nat.le_add_right _ _
        pending_eq := fun hsome => by simp [htracker] at hsome }
  · rw [htracker] at hsome
    cases hsome

theorem SpurInv.start (h : SpurInv n duration room) (htracker : room.tracker = some tracker)
    (hjob : room.jobs[index]? = some job) {teamSize : UInt32} (htask : job.task = .start teamSize)
    {now : Instant} (hdue : job.due ≤ now) :
    SpurInv n duration { room with
      jobs := room.jobs.eraseIdx index ++
        [{ job with due := now + duration teamSize, task := .unlock }]
      log := room.log ++ [.began job.spur teamSize now] } := by
  have hkept := h.race tracker htracker
  have hpending (spur : Nat) : pending spur (room.jobs.eraseIdx index ++
      [{ job with due := now + duration teamSize, task := .unlock }]) =
        pending spur room.jobs := by
    rw [pending_append, pending_eraseIdx hjob spur]
  constructor
  · refine h.accounted.untouched
      { log := subset_append_left _ _
        spurs := spurs_append _ _
        spurred := fun spur team now hmem => by simpa using hmem
        released := fun spur now hmem => by simpa using hmem
        releases := fun spur => releases_append _ _ _
        known := fun other hother => ?_
        pending_le := fun spur => Nat.le_of_eq (hpending spur)
        pending_eq := fun _ => ⟨by rw [htracker]; rfl, hpending⟩ }
    rcases mem_append.1 hother with hold | hnew
    · exact (h.accounted.known other (mem_of_mem_eraseIdx hold)).mono
        (subset_append_left _ _)
    · cases mem_singleton.1 hnew
      obtain ⟨hteam, triggered, hspurred, hstage⟩ :=
        h.accounted.known job (mem_of_getElem? hjob)
      rw [htask] at hstage
      exact ⟨hteam, triggered, mem_append_left _ hspurred, teamSize, now, by simp,
        hstage.1, Nat.le_trans hstage.2 hdue, Nat.le_refl _⟩
  · intro later hlater
    cases htracker.symm.trans hlater
    have hboosts (team : TeamColor) : boostsSince team
        (room.log ++ [.began job.spur teamSize now]) = boostsSince team room.log :=
      boostsSince_append _ _ _
    refine ⟨hkept.isTeamMode, hkept.gameMode, ?_, fun team hteam => ?_⟩
    · simpa only [hboosts] using hkept.charged
    · rw [← hkept.locks team hteam, waiting_append, waiting_eraseIdx hjob team]

theorem SpurInv.unlock (h : SpurInv n duration room) (htracker : room.tracker = some tracker)
    (hjob : room.jobs[index]? = some job) (htask : job.task = .unlock) {now : Instant}
    (hdue : job.due ≤ now) :
    SpurInv n duration { room with
      tracker := some (tracker.updateTeam job.team fun info => { info with gaugeLocked := false })
      jobs := room.jobs.eraseIdx index
      log := room.log ++ [.released job.spur now] } := by
  have hkept := h.race tracker htracker
  obtain ⟨hjobTeam, triggered, hspurred, hstage⟩ :=
    h.accounted.known job (mem_of_getElem? hjob)
  rw [htask] at hstage
  obtain ⟨teamSize, begun, hbegan, hsize, htriggered, hbegun⟩ := hstage
  have hbalance (spur : Nat) : releases spur (room.log ++ [.released job.spur now]) +
      pending spur (room.jobs.eraseIdx index) =
        releases spur room.log + pending spur room.jobs := by
    rw [releases_append, pending_eraseIdx hjob spur, GaugeEvent.releases]
    omega
  have hspurred_iff (spur : Nat) (team : TeamColor) (time : Instant) :
      .spurred spur team time ∈ room.log ++ [.released job.spur now] →
        GaugeEvent.spurred spur team time ∈ room.log := by
    intro hmem
    simpa using hmem
  constructor
  · exact
      { known := fun other hother =>
          (h.accounted.known other (mem_of_mem_eraseIdx hother)).mono
            (subset_append_left _ _)
        numbered := fun spur team time hmem => by
          rw [spurs_append]
          exact h.accounted.numbered spur team time (hspurred_iff spur team time hmem)
        unique := fun spur team time other later hmem hother =>
          h.accounted.unique spur team time other later (hspurred_iff spur team time hmem)
            (hspurred_iff spur other later hother)
        onTime := fun spur time hmem => by
          rcases mem_append.1 hmem with hold | hnew
          · obtain ⟨team, first, size, second, hfirst, hsecond, htimes⟩ :=
              h.accounted.onTime spur time hold
            exact ⟨team, first, size, second, mem_append_left _ hfirst,
              mem_append_left _ hsecond, htimes⟩
          · cases mem_singleton.1 hnew
            exact ⟨job.team, triggered, teamSize, begun, mem_append_left _ hspurred,
              mem_append_left _ hbegan, hsize, htriggered, Nat.le_trans hbegun hdue⟩
        atMostOnce := fun spur => (hbalance spur).trans_le (h.accounted.atMostOnce spur)
        once := fun _ spur team time hmem => (hbalance spur).trans
          (h.accounted.once (by rw [htracker]; rfl) spur team time
            (hspurred_iff spur team time hmem)) }
  · intro later hlater
    cases hlater
    have hboosts (team : TeamColor) : boostsSince team (room.log ++ [.released job.spur now]) =
        boostsSince team room.log := boostsSince_append _ _ _
    have hinfo {team : TeamColor} (hteam : team ∈ teams) :=
      teamInfo_updateTeam_of_mem hjobTeam hteam
        (fun info => { info with gaugeLocked := false }) tracker
    refine ⟨hkept.isTeamMode, (congrArg gameMode (race_updateTeam _ _ _)).trans
      hkept.gameMode, ?_, fun team hteam => ?_⟩
    · simp only [hboosts]
      refine ⟨by rw [teamSize_updateTeam, hkept.charged.size], hkept.charged.racers,
        hkept.charged.fits, fun team hteam => ?_, fun team hteam => ?_, hkept.charged.few⟩
      · rw [hinfo hteam, ← hkept.charged.boostCount team hteam]
        split <;> rfl
      · rw [hinfo hteam, ← hkept.charged.points team hteam]
        split <;> rfl
    · have hlocks := hkept.locks team hteam
      rw [waiting_eraseIdx hjob team] at hlocks
      dsimp only
      rw [hinfo hteam]
      by_cases hsame : team = job.team
      · subst hsame
        have hle := Bool.toNat_le (tracker.teamInfo job.team).gaugeLocked
        simp only [decide_true, Bool.toNat_true, if_true, Bool.toNat_false] at hlocks ⊢
        omega
      · rw [if_neg hsame, ← hlocks, decide_eq_false (Ne.symm hsame)]
        rfl

theorem SpurInv.runJob (h : SpurInv n duration room) (index : Nat) (now : Instant) :
    SpurInv n duration (room.runJob duration index now) := by
  unfold SpurRoom.runJob
  split
  · exact h
  next job hjob =>
    split
    · exact h
    next hdue =>
      have hdue := Nat.le_of_not_lt hdue
      dsimp only
      split
      next htask htracker => exact h.dropped hjob htracker rfl rfl
      next teamSize tracker htask htracker => exact h.start htracker hjob htask hdue
      next htask htracker => exact h.dropped hjob htracker rfl rfl
      next tracker htask htracker => exact h.unlock htracker hjob htask hdue

/-! ## Boosts -/

variable {team : TeamColor}

theorem SpurInv.boost (h : SpurInv n duration room) (htracker : room.tracker = some tracker)
    (hteam : team ∈ teams) (hfifth : boostsSince team room.log + 1 ≠ 5) :
    SpurInv n duration { room with
      tracker := some (Charged.filled tracker team)
      log := room.log ++ [.boosted team] } := by
  have hkept := h.race tracker htracker
  constructor
  · exact h.accounted.untouched
      { log := subset_append_left _ _
        spurs := spurs_append _ _
        spurred := fun _ _ _ hmem => by simpa using hmem
        released := fun _ _ hmem => by simpa using hmem
        releases := fun _ => releases_append _ _ _
        known := fun job hjob => (h.accounted.known job hjob).mono (subset_append_left _ _)
        pending_le := fun _ => Nat.le_refl _
        pending_eq := fun _ => ⟨by rw [htracker]; rfl, fun _ => rfl⟩ }
  · intro later hlater
    cases hlater
    refine ⟨hkept.isTeamMode, (congrArg gameMode (race_updateTeam _ _ _)).trans
      hkept.gameMode, ?_, fun other hother => ?_⟩
    · simpa only [boostsSince_append, GaugeEvent.count] using
        charged_filled hkept.charged hteam hfifth
    · rw [gaugeLocked_filled hteam hother]
      exact hkept.locks other hother

/-- A spur has a new number, and is the only one of its team whose lock is to be released. -/
theorem SpurInv.spur (h : SpurInv n duration room) (htracker : room.tracker = some tracker)
    (hteam : team ∈ teams) (hlocked : (tracker.teamInfo team).gaugeLocked = false) (now : Instant) :
    SpurInv n duration { room with
      tracker := some (Charged.spent (Charged.filled tracker team) team)
      jobs := room.jobs ++ [{
        spur := spurs room.log
        team := team
        due := now + spurStartDelay
        task := .start tracker.teamSize }]
      log := room.log ++ [.boosted team, .spurred (spurs room.log) team now] } := by
  have hkept := h.race tracker htracker
  have hlog : room.log ++ [.boosted team, .spurred (spurs room.log) team now] =
      (room.log ++ [.boosted team]) ++ [.spurred (spurs room.log) team now] := by simp
  have hspurs : spurs (room.log ++ [.boosted team, .spurred (spurs room.log) team now]) =
      spurs room.log + 1 := by
    rw [hlog, spurs_append, spurs_append]
    rfl
  have hreleases (spur : Nat) : releases spur (room.log ++
      [.boosted team, .spurred (spurs room.log) team now]) = releases spur room.log := by
    rw [hlog, releases_append, releases_append]
    rfl
  have hspurred {spur : Nat} {other : TeamColor} {time : Instant} (hmem : .spurred spur other time ∈
      room.log ++ [.boosted team, .spurred (spurs room.log) team now]) :
      GaugeEvent.spurred spur other time ∈ room.log ∨ spur = spurs room.log ∧ other = team := by
    simp only [mem_append, mem_cons, reduceCtorEq, GaugeEvent.spurred.injEq,
      not_mem_nil, or_false, false_or] at hmem
    exact hmem.imp id fun hnew => ⟨hnew.1, hnew.2.1⟩
  have hnew : releases (spurs room.log) room.log = 0 := by
    refine releases_eq_zero fun time hmem => ?_
    obtain ⟨other, first, -, -, hfirst, -⟩ := h.accounted.onTime _ time hmem
    exact Nat.lt_irrefl _ (h.accounted.numbered _ other first hfirst)
  have hnone : pending (spurs room.log) room.jobs = 0 := by
    refine countP_eq_zero.2 fun job hjob hsame => ?_
    obtain ⟨-, first, hfirst, -⟩ := h.accounted.known job hjob
    rw [of_decide_eq_true hsame] at hfirst
    exact Nat.lt_irrefl _ (h.accounted.numbered _ _ first hfirst)
  have hbalance (spur : Nat) : releases spur room.log + pending spur (room.jobs ++ [{
      spur := spurs room.log
      team := team
      due := now + spurStartDelay
      task := .start tracker.teamSize }]) =
        if spur = spurs room.log then 1 else releases spur room.log + pending spur room.jobs := by
    rw [pending_append]
    by_cases hsame : spur = spurs room.log
    · subst hsame
      simp [hnew, hnone]
    · simp [hsame, Ne.symm hsame]
  constructor
  · exact
      { known := fun job hjob => by
          rcases mem_append.1 hjob with hold | hadded
          · exact (h.accounted.known job hold).mono (subset_append_left _ _)
          · cases mem_singleton.1 hadded
            exact ⟨hteam, now, by simp, hkept.charged.size, Nat.le_refl _⟩
        numbered := fun spur other time hmem => by
          rw [hspurs]
          rcases hspurred hmem with hold | ⟨rfl, -⟩
          · exact Nat.lt_succ_of_lt (h.accounted.numbered spur other time hold)
          · exact Nat.lt_succ_self _
        unique := fun spur first time second later hfirst hsecond => by
          rcases hspurred hfirst with hbefore | ⟨rfl, rfl⟩
          · rcases hspurred hsecond with hother | ⟨rfl, rfl⟩
            · exact h.accounted.unique spur first time second later hbefore hother
            · exact absurd (h.accounted.numbered _ _ _ hbefore) (Nat.lt_irrefl _)
          · rcases hspurred hsecond with hother | ⟨-, hsame⟩
            · exact absurd (h.accounted.numbered _ _ _ hother) (Nat.lt_irrefl _)
            · exact hsame
        onTime := h.accounted.onTime.mono (subset_append_left _ _)
          fun spur time hmem => by simpa using hmem
        atMostOnce := fun spur => by
          dsimp only
          rw [hreleases, hbalance]
          split
          · exact Nat.le_refl 1
          · exact h.accounted.atMostOnce spur
        once := fun _ spur other time hmem => by
          dsimp only
          rw [hreleases, hbalance]
          split
          · rfl
          next hold =>
            rcases hspurred hmem with hmem | ⟨rfl, -⟩
            · exact h.accounted.once (by rw [htracker]; rfl) spur other time hmem
            · exact absurd rfl hold }
  · intro later hlater
    cases hlater
    have hrace : (Charged.spent (Charged.filled tracker team) team).race = tracker.race :=
      (race_spent _ team).trans (race_updateTeam _ _ _)
    refine ⟨hkept.isTeamMode, (congrArg gameMode hrace).trans hkept.gameMode, ?_,
      fun other hother => ?_⟩
    · have hzero (other : TeamColor) : boostsSince other (room.log ++
          [.boosted team, .spurred (spurs room.log) team now]) = 0 := by
        rw [hlog, boostsSince_append]
        rfl
      simp only [hzero]
      refine ⟨?_, hkept.charged.racers, hkept.charged.fits, fun other hother => ?_,
        fun other hother => ?_, fun _ _ => by decide⟩
      · rw [teamSize_spent, Charged.filled, teamSize_updateTeam, hkept.charged.size]
      · rw [teamInfo_spent _ hteam hother]
        rfl
      · rw [teamInfo_spent _ hteam hother, Nat.zero_mul]
        rfl
    · have hlocks := hkept.locks other hother
      rw [waiting_append, teamInfo_spent _ hteam hother, hlocks]
      by_cases hsame : other = team
      · subst hsame
        simp [hlocked]
      · simp [hsame, Ne.symm hsame, gaugeLocked_filled hteam hother]

/-- What a counted boost does, and that it keeps the invariant. -/
theorem SpurInv.counted (h : SpurInv n duration room) (htracker : room.tracker = some tracker)
    (hteam : team ∈ teams) (hlocked : (tracker.teamInfo team).gaugeLocked = false) (now : Instant) :
    SpurInv n duration (room.boost team now tracker) ∧
      Boosted team now room (room.boost team now tracker) := by
  have hfill := (h.race tracker htracker).charged.fillGauge_eq hteam
  unfold SpurRoom.boost Boosted
  rw [hfill]
  by_cases hfifth : boostsSince team room.log + 1 = 5
  · rw [if_pos hfifth, if_pos hfifth]
    refine ⟨h.spur htracker hteam hlocked now, rfl, _, rfl, fun other hother => ?_⟩
    rw [teamInfo_spent _ hteam hother]
    exact ⟨rfl, rfl⟩
  · rw [if_neg hfifth, if_neg hfifth]
    exact ⟨h.boost htracker hteam hfifth, rfl⟩

/-- A spur of a racer whose gauge is not locked is counted; all else leaves the gauges. -/
theorem teamGauge_cases (room : SpurRoom) (hmode : room.isTeamMode = true)
    (hspeed : tracker.race.gameMode = speedMode) (around : Surroundings) (client : ClientId) :
    (room.teamGauge around client tracker = { room with tracker := some tracker } ∧
      ∀ uid racer, around.getRacer client tracker.race = .ok (uid, racer) → racer.team ∈ teams →
        (tracker.teamInfo racer.team).gaugeLocked = true) ∨
    ∃ uid racer, around.getRacer client tracker.race = .ok (uid, racer) ∧ racer.team ∈ teams ∧
      (tracker.teamInfo racer.team).gaugeLocked = false ∧
      room.teamGauge around client tracker = room.boost racer.team around.now tracker := by
  have hchecks : (!room.isTeamMode || decide (tracker.race.gameMode ≠ speedMode)) = false := by
    simp [hmode, hspeed]
  unfold SpurRoom.teamGauge
  dsimp only
  rw [hchecks, if_neg Bool.false_ne_true]
  cases hracer : around.getRacer client tracker.race with
  | error failure =>
    refine .inl ⟨rfl, fun uid racer hok => ?_⟩
    cases hok
  | ok entry =>
    obtain ⟨uid, racer⟩ := entry
    dsimp only
    split
    next hother =>
      refine .inl ⟨rfl, fun other found hfound hteam => ?_⟩
      cases hfound
      rcases mem_pair.1 hteam with hred | hblue <;> simp_all
    next hother =>
      have hteam : racer.team ∈ teams := by
        simp only [teams, mem_cons, not_mem_nil, or_false]
        by_contra hnone
        rw [not_or] at hnone
        exact hother (by simp [hnone])
      split
      next hlocked =>
        refine .inl ⟨rfl, fun other found hfound _ => ?_⟩
        cases hfound
        exact hlocked
      next hlocked =>
        exact .inr ⟨uid, racer, rfl, hteam, Bool.eq_false_iff.2 hlocked, rfl⟩

theorem counts_iff {registry : Registry} {around : Surroundings} {client : ClientId}
    {command : RequestSpur} (htracker : room.tracker = some tracker) :
    Counts registry around client command team room ↔
      (handleRequestSpur registry around client command).Completes tracker.race ∧
      ∃ uid racer, around.getRacer client tracker.race = .ok (uid, racer) ∧ racer.team = team ∧
        team ∈ teams ∧ (tracker.teamInfo team).gaugeLocked = false := by
  constructor
  · rintro ⟨found, uid, racer, hfound, hcompletes, hrest⟩
    cases htracker.symm.trans hfound
    exact ⟨hcompletes, uid, racer, hrest⟩
  · rintro ⟨hcompletes, uid, racer, hrest⟩
    exact ⟨tracker, uid, racer, htracker, hcompletes, hrest⟩

theorem sameGauges_setRace (htracker : room.tracker = some tracker) (race : RaceInstance) :
    SameGauges room { room with tracker := some (tracker.setRace race) } := by
  refine ⟨fun found hfound => ?_, rfl, rfl⟩
  cases htracker.symm.trans hfound
  exact ⟨_, rfl, fun team _ => teamInfo_setRace tracker race team⟩

/-- What a request comes to: a counted boost, or gauges as they were. -/
theorem SpurInv.requestSpur (h : SpurInv n duration room) (registry : Registry)
    (around : Surroundings) (client : ClientId) (command : RequestSpur) :
    SpurInv n duration (room.requestSpur registry around client command) ∧
      ((∃ team, Counts registry around client command team room ∧
          Boosted team around.now room (room.requestSpur registry around client command)) ∨
        (∀ team, ¬Counts registry around client command team room) ∧
          SameGauges room (room.requestSpur registry around client command)) := by
  unfold SpurRoom.requestSpur
  split
  next hnone =>
    refine ⟨h, .inr ⟨?_, fun tracker hsome => ⟨tracker, hsome, fun _ _ => rfl⟩, rfl, rfl⟩⟩
    rintro team ⟨tracker, -, -, hsome, -⟩
    cases hnone.symm.trans hsome
  next tracker htracker =>
    have hkeeps := sameTeams_handleRequestSpur registry around client command tracker.race
    unfold Effect.final at hkeeps
    split
    next failure race herror =>
      rw [herror] at hkeeps
      refine ⟨h.setRace htracker hkeeps, .inr ⟨fun team hcounts => ?_,
        sameGauges_setRace htracker race⟩⟩
      have hcompletes := ((counts_iff htracker).1 hcounts).1
      rw [Effect.Completes, herror] at hcompletes
      exact hcompletes
    next race hok =>
      rw [hok] at hkeeps
      have hset := h.setRace htracker hkeeps
      have hkept := hset.race _ rfl
      have hcompletes :
          (handleRequestSpur registry around client command).Completes tracker.race := by
        rw [Effect.Completes, hok]
        trivial
      rcases teamGauge_cases room hkept.isTeamMode hkept.gameMode around client with
        ⟨hsame, hlocked⟩ | ⟨uid, racer, hracer, hteam, hlocked, hboost⟩
      · rw [hsame]
        refine ⟨hset, .inr ⟨fun team hcounts => ?_, sameGauges_setRace htracker race⟩⟩
        obtain ⟨-, uid, racer, hracer, rfl, hteam, hunlocked⟩ := (counts_iff htracker).1 hcounts
        obtain ⟨later, hlater, hsameTeam⟩ := hkeeps.getRacer hracer
        have hlock := hlocked uid later hlater (hsameTeam ▸ hteam)
        rw [hsameTeam, teamInfo_setRace, hunlocked] at hlock
        cases hlock
      · obtain ⟨earlier, hearlier, hsameTeam⟩ := hkeeps.symm.getRacer hracer
        have hcounted := hset.counted rfl hteam hlocked around.now
        rw [hboost]
        refine ⟨hcounted.1, .inl ⟨racer.team, (counts_iff htracker).2 ⟨hcompletes, uid, earlier,
          hearlier, hsameTeam, hteam, ?_⟩, hcounted.2⟩⟩
        rwa [teamInfo_setRace] at hlocked

theorem spurInv_spurStep (registry : Registry) (h : SpurInv n duration room) (input : SpurInput) :
    SpurInv n duration (spurStep registry duration room input) := by
  cases input with
  | requestSpur around client command => exact (h.requestSpur registry around client command).1
  | leave characterUid => exact h.leave characterUid
  | job index now => exact h.runJob index now

theorem log_leave (characterUid : Uid) (room : SpurRoom) :
    (room.leave characterUid).log = room.log := by
  unfold SpurRoom.leave
  split <;> rfl

/-- A job triggers no spur and counts no boost. -/
theorem log_runJob (duration : UInt32 → Instant) (index : Nat) (now : Instant) (room : SpurRoom) :
    spurs (room.runJob duration index now).log = spurs room.log ∧
      ∀ team, boostsSince team (room.runJob duration index now).log =
        boostsSince team room.log := by
  unfold SpurRoom.runJob
  split
  · exact ⟨rfl, fun _ => rfl⟩
  · split
    · exact ⟨rfl, fun _ => rfl⟩
    · dsimp only
      split
      · exact ⟨rfl, fun _ => rfl⟩
      · exact ⟨spurs_append _ _, fun _ => boostsSince_append _ _ _⟩
      · exact ⟨rfl, fun _ => rfl⟩
      · exact ⟨spurs_append _ _, fun _ => boostsSince_append _ _ _⟩

theorem Counts.unique {registry : Registry} {around : Surroundings} {client : ClientId}
    {command : RequestSpur} {other : TeamColor}
    (h : Counts registry around client command team room)
    (hother : Counts registry around client command other room) : other = team := by
  obtain ⟨tracker, uid, racer, htracker, -, hracer, rfl, -⟩ := h
  obtain ⟨-, found, later, hlater, rfl, -⟩ := (counts_iff htracker).1 hother
  cases hracer.symm.trans hlater
  rfl

theorem SpurInv.boostSound (h : SpurInv n duration room) (registry : Registry) (input : SpurInput) :
    BoostSound registry duration room input := by
  refine ⟨?_, ?_, fun hother => ?_⟩
  · rintro around client command team rfl hcounts
    rcases (h.requestSpur registry around client command).2 with ⟨other, hothers, hboosted⟩ |
      ⟨hnone, -⟩
    · exact hcounts.unique hothers ▸ hboosted
    · exact absurd hcounts (hnone team)
  · rintro around client command rfl hnone
    rcases (h.requestSpur registry around client command).2 with ⟨team, hcounts, -⟩ | ⟨-, hsame⟩
    · exact absurd hcounts (hnone team)
    · exact hsame
  · cases input with
    | requestSpur around client command => exact absurd rfl (hother around client command)
    | leave characterUid => simp only [spurStep, log_leave, implies_true, and_self]
    | job index now => exact log_runJob duration index now room

/-- A gauge is locked exactly from a spur of the team to the release of its lock. -/
theorem SpurInv.locked_iff (h : SpurInv n duration room) (htracker : room.tracker = some tracker)
    (hteam : team ∈ teams) : (tracker.teamInfo team).gaugeLocked = true ↔
      ∃ spur now, .spurred spur team now ∈ room.log ∧ releases spur room.log = 0 := by
  have hlocks := (h.race tracker htracker).locks team hteam
  constructor
  · intro hlocked
    rw [hlocked] at hlocks
    obtain ⟨job, hjob, hsame⟩ :=
      countP_pos_iff.1 (hlocks ▸ Nat.one_pos : 0 < waiting team room.jobs)
    obtain ⟨-, triggered, hspurred, -⟩ := h.accounted.known job hjob
    have hpending : 0 < pending job.spur room.jobs :=
      countP_pos_iff.2 ⟨job, hjob, decide_eq_true rfl⟩
    have hmost := h.accounted.atMostOnce job.spur
    refine ⟨job.spur, triggered, of_decide_eq_true hsame ▸ hspurred, ?_⟩
    omega
  · rintro ⟨spur, now, hspurred, hreleases⟩
    have honce := h.accounted.once (by rw [htracker]; rfl) spur team now hspurred
    rw [hreleases, Nat.zero_add] at honce
    obtain ⟨job, hjob, hsame⟩ :=
      countP_pos_iff.1 (honce ▸ Nat.one_pos : 0 < pending spur room.jobs)
    obtain ⟨-, triggered, hjobSpurred, -⟩ := h.accounted.known job hjob
    cases of_decide_eq_true hsame
    have hteams := h.accounted.unique _ _ _ _ _ hspurred hjobSpurred
    have hwaiting : 0 < waiting team room.jobs :=
      countP_pos_iff.2 ⟨job, hjob, decide_eq_true hteams⟩
    cases hlocked : (tracker.teamInfo team).gaugeLocked with
    | true => rfl
    | false =>
      rw [hlocks, hlocked] at hwaiting
      cases hwaiting

theorem SpurInv.gaugesSound (h : SpurInv n duration room) : GaugesSound n duration room where
  points tracker htracker team hteam := by
    have hcharged := (h.race tracker htracker).charged
    have hboost : 0 < boostPoints n := by
      unfold boostPoints
      omega
    rw [hcharged.points team hteam, hcharged.boostCount team hteam, fullGauge_eq]
    exact ⟨rfl, Nat.mul_lt_mul_of_pos_right (hcharged.few team hteam) hboost⟩
  counted tracker htracker team hteam := (h.race tracker htracker).charged.boostCount team hteam
  locked _ htracker _ hteam := h.locked_iff htracker hteam
  onTime := h.accounted.onTime
  atMostOnce spur := Nat.le_trans (Nat.le_add_right _ _) (h.accounted.atMostOnce spur)

/-- Nothing has happened yet. -/
theorem TeamRaceStarts.spurInv (h : TeamRaceStarts n room tracker) : SpurInv n duration room := by
  constructor
  · exact
      { known := by simp [h.jobs]
        numbered := by simp [h.log]
        unique := by simp [h.log]
        onTime := by simp [ReleasedOnTime, h.log]
        atMostOnce := by simp [h.log, h.jobs, releases, pending]
        once := by simp [ReleasedOnce, h.log] }
  · intro later hlater
    cases h.started.symm.trans hlater
    have hboosts (team : TeamColor) : boostsSince team room.log = 0 := by rw [h.log]; rfl
    refine ⟨h.isTeamMode, h.gameMode, ?_, fun team hteam => ?_⟩
    · simp only [hboosts]
      refine ⟨h.size, h.racers, h.fits, fun team hteam => ?_, fun team hteam => ?_,
        fun _ _ => by decide⟩
      · rw [h.teamInfo team hteam]
        rfl
      · rw [h.teamInfo team hteam, Nat.zero_mul]
        rfl
    · rw [h.teamInfo team hteam, h.jobs]
      rfl

end Steps

/-! ## All runs -/

/-- After every step of a run that has not left the defined behaviour, the gauges are sound, and as
long as the room is there the lock of each spur was released once or has a job that will do it. -/
structure TeamSpurs (registry : Registry) (n : Nat) (duration : UInt32 → Instant) (start : SpurRoom)
    (inputs : List SpurInput) : Prop where
  gauges : ∀ first second, inputs = first ++ second →
    (run (spurStep registry duration) start first).undefined = false →
      GaugesSound n duration (run (spurStep registry duration) start first) ∧
        ((run (spurStep registry duration) start first).tracker.isSome = true →
          ReleasedOnce (run (spurStep registry duration) start first))
  boosts : Guarded (spurStep registry duration) (fun room input => room.undefined = false →
    BoostSound registry duration room input) start inputs

theorem team_spurs (registry : Registry) {n : Nat} (duration : UInt32 → Instant) {start : SpurRoom}
    {tracker : RaceTracker} (hstarts : TeamRaceStarts n start tracker) (inputs : List SpurInput) :
    TeamSpurs registry n duration start inputs := by
  have hinv : SpurInv n duration start := hstarts.spurInv
  have hpreserved : ∀ room input, SpurInv n duration room → True →
      SpurInv n duration (spurStep registry duration room input) :=
    fun room input h _ => spurInv_spurStep registry h input
  have hall (inputs : List SpurInput) :
      Guarded (spurStep registry duration) (fun _ _ => True) start inputs :=
    Guarded.of_forall (fun _ _ => trivial) start inputs
  have hsound : ∀ room input, SpurInv n duration room → True →
      (room.undefined = false → BoostSound registry duration room input) :=
    fun room input h _ _ => h.boostSound registry input
  constructor
  · rintro first second rfl -
    have hfirst := (hall first).invariant hpreserved hinv
    exact ⟨hfirst.gaugesSound, hfirst.accounted.once⟩
  · exact Guarded.imp hpreserved hsound hinv (hall inputs)

/-! ### A redDuel -/

def redDuelTracker : RaceTracker :=
  startRace { players := [(100, .red), (200, .blue)], gameMode := speedMode } {}

/-- A race of speed between two racers. -/
def redDuel : SpurRoom where
  tracker := some redDuelTracker
  isTeamMode := true
  players := [100, 200]

theorem redDuel_starts : TeamRaceStarts 1 redDuel redDuelTracker where
  started := rfl
  isTeamMode := rfl
  gameMode := rfl
  size := by decide +kernel
  racers := Nat.le_refl 1
  fits := by decide
  teamInfo team hteam := by
    rcases mem_pair.1 hteam with rfl | rfl
    · exact (by decide +kernel : redDuelTracker.redTeam = {})
    · exact (by decide +kernel : redDuelTracker.blueTeam = {})
  jobs := rfl
  log := rfl

def freeSpurs : Registry where
  gameModeInfo _ := some {}

def redSpur : SpurInput :=
  .requestSpur burning 5 { characterOid := 1, activeBoosters := 0, comboBreak := 0 }

theorem team_spurs_duel : TeamSpurs freeSpurs 1 (fun _ => 10000000000) redDuel
    [redSpur, redSpur, redSpur, redSpur, redSpur, .job 0 1500000000, .job 0 11500000000] :=
  team_spurs freeSpurs _ redDuel_starts _

/-- Both racers leave before the spur of the red team begins: its job finds no room, and the lock is
not released. -/
theorem lock_not_released : TeamRaceStarts 1 redDuel redDuelTracker ∧
    ¬ReleasedOnce (run (spurStep freeSpurs fun _ => 10000000000) redDuel
      [redSpur, redSpur, redSpur, redSpur, redSpur, .leave 100, .leave 200,
        .job 0 1500000000]) := by
  refine ⟨redDuel_starts, fun hreleased => ?_⟩
  have honce := hreleased 0 .red 0 (by decide +kernel)
  exact absurd honce (by decide +kernel)

end Alicia.Magic
