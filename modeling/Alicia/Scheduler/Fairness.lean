import Alicia.Collection.Rotation
import Alicia.Scheduler
import Alicia.Transition.Run
import Mathlib.Data.List.Nodup

/-!
# The fairness of a scheduler

The jobs of a scheduler over time.  A tick reads the clock for each job that it looks at, and executes the
first that is due from the iterator on.  A job that is queued while a due one stands behind the iterator comes
before it, so that jobs which queue others can keep it waiting for ever.

A job that waits while it is due comes nearer to the iterator with each job that is executed, as long as
nothing is queued before it.
-/

namespace Alicia.Scheduler

open Transition Cursor List

/-! ## Ticks -/

/-- How a task ends.  Only a `std::exception` is caught. -/
inductive Ending where
  | returned
  | thrown
  | escaped
  deriving DecidableEq

/-- What a task does: it queues jobs for some times, and ends. -/
structure Conduct where
  queued : List Nat := []
  ending : Ending := .returned
  deriving DecidableEq

/-- Where the loop of a tick stops, and when. -/
structure Scan (T : Type) where
  passed : List (Job T)
  ahead : List (Job T)
  now : Nat

/-- The loop of a tick over the jobs from the iterator on.  Before each look at the clock some time passes. -/
def scan {T : Type} (now : Nat) (delays : List Nat) : List (Job T) → Scan T
  | [] => ⟨[], [], now⟩
  | job :: rest =>
    let now := now + delays.headD 0
    if job.due ≤ now then ⟨[], job :: rest, now⟩
    else
      let found := scan now delays.tail rest
      ⟨job :: found.passed, found.ahead, found.now⟩

/-- A scheduler and its history: the times for which jobs were queued, and when each job was executed.  The
task of a job is its place among the queued ones. -/
structure Timeline where
  scheduler : Scheduler Nat := {}
  now : Nat := 0
  queued : List Nat := []
  executed : List (Nat × Nat) := []
  deriving DecidableEq

namespace Timeline

variable (timeline : Timeline)

abbrev jobs : Cursor (Job Nat) := timeline.scheduler.jobs

/-- `Scheduler::Queue`. -/
def queue (due : Nat) : Timeline :=
  { timeline with
    scheduler := timeline.scheduler.queue timeline.queued.length due
    queued := timeline.queued ++ [due] }

/-- The iterator moves to the job that a tick executes. -/
def select (delays : List Nat) : Timeline :=
  let jobs := timeline.jobs.rewind
  let found := scan timeline.now delays jobs.ahead
  { timeline with scheduler := ⟨⟨jobs.behind ++ found.passed, found.ahead⟩⟩, now := found.now }

/-- The job at the iterator is executed, and erased unless something else than a `std::exception` flies. -/
def execute (conduct : Conduct) : Timeline :=
  match timeline.scheduler.current? with
  | none => timeline
  | some serial =>
    let after := conduct.queued.foldl queue
      { timeline with executed := timeline.executed ++ [(serial, timeline.now)] }
    if conduct.ending = .escaped then after else { after with scheduler := after.scheduler.erase }

end Timeline

/-- What happens to a scheduler. -/
inductive SchedulerInput where
  | wait (elapsed : Nat)
  | queue (due : Nat)
  | tick (delays : List Nat) (conduct : Conduct)
  deriving DecidableEq

def schedulerStep (timeline : Timeline) : SchedulerInput → Timeline
  | .wait elapsed => { timeline with now := timeline.now + elapsed }
  | .queue due => timeline.queue due
  | .tick delays conduct => (timeline.select delays).execute conduct

/-! ## The purpose of the scheduler -/

/-- A job is executed at most once, and not before its time. -/
structure Kept (timeline : Timeline) : Prop where
  once : (timeline.executed.map Prod.fst).Nodup
  gone : ∀ entry ∈ timeline.executed, entry.1 ∉ timeline.scheduler.tasks
  inTime : ∀ entry ∈ timeline.executed, ∃ due, timeline.queued[entry.1]? = some due ∧ due ≤ entry.2

/-- A step takes away a job exactly if it executes it. -/
def Removes (timeline : Timeline) (input : SchedulerInput) : Prop :=
  ∀ serial ∈ timeline.scheduler.tasks, serial ∈ (schedulerStep timeline input).scheduler.tasks ↔
    ¬∃ time, (schedulerStep timeline input).executed = timeline.executed ++ [(serial, time)]

/-- While a due job waits, no more jobs are executed than there were when it was due. -/
def Fair (inputs : List SchedulerInput) : Prop :=
  ∀ before during rest, inputs = before ++ during ++ rest →
    ∀ job ∈ (run schedulerStep {} before).jobs.toList, job.due ≤ (run schedulerStep {} before).now →
      job.task ∈ (run schedulerStep {} (before ++ during)).scheduler.tasks →
        (run schedulerStep {} (before ++ during)).executed.length ≤
          (run schedulerStep {} before).executed.length + (run schedulerStep {} before).jobs.toList.length

/-- What is expected of a run. -/
structure Orderly (inputs : List SchedulerInput) : Prop where
  kept : Guarded schedulerStep (fun timeline input => Kept (schedulerStep timeline input) ∧ Removes timeline input)
    {} inputs
  fair : Fair inputs

/-! ## The condition -/

/-- No due job stands behind the iterator, unless this is at the end. -/
def Timeline.Level (timeline : Timeline) : Prop :=
  timeline.jobs.ahead = [] ∨ ∀ job ∈ timeline.jobs.behind, timeline.now < job.due

/-- The condition: jobs are queued while no due job stands behind the iterator, and what a task throws is
caught. -/
def Sane (timeline : Timeline) : SchedulerInput → Prop
  | .wait _ => True
  | .queue _ => timeline.Level
  | .tick delays conduct => (timeline.select delays).scheduler.current?.isSome = true →
      conduct.ending ≠ .escaped ∧ (conduct.queued ≠ [] → (timeline.select delays).Level)

instance (timeline : Timeline) : Decidable timeline.Level :=
  @instDecidableOr _ _ _ (List.decidableBAll _ _)

instance (timeline : Timeline) (input : SchedulerInput) : Decidable (Sane timeline input) :=
  match input with
  | .wait _ => isTrue trivial
  | .queue _ => inferInstanceAs (Decidable timeline.Level)
  | .tick delays conduct => inferInstanceAs (Decidable (_ = true → conduct.ending ≠ .escaped ∧
      (conduct.queued ≠ [] → (timeline.select delays).Level)))

/-! ## The loop of a tick -/

section Scan

variable {T : Type} {now : Nat} {delays : List Nat} {jobs : List (Job T)}

theorem scan_append : (scan now delays jobs).passed ++ (scan now delays jobs).ahead = jobs := by
  induction jobs generalizing now delays with
  | nil => rfl
  | cons job rest ih =>
    rw [scan]
    dsimp only
    split
    · rfl
    · exact congrArg (job :: ·) ih

theorem le_scan_now : now ≤ (scan now delays jobs).now := by
  induction jobs generalizing now delays with
  | nil => exact Nat.le_refl now
  | cons job rest ih =>
    rw [scan]
    dsimp only
    split
    · exact Nat.le_add_right _ _
    · exact Nat.le_trans (Nat.le_add_right _ _) ih

/-- Only jobs that are not due are passed. -/
theorem scan_passed {job : Job T} (h : job ∈ (scan now delays jobs).passed) : now < job.due := by
  induction jobs generalizing now delays with
  | nil => cases h
  | cons first rest ih =>
    rw [scan] at h
    dsimp only at h
    split at h
    · cases h
    · next hearly =>
        rcases mem_cons.1 h with rfl | hrest
        · omega
        · exact Nat.lt_of_le_of_lt (Nat.le_add_right _ _) (ih hrest)

/-- The job at which the loop stops is due. -/
theorem scan_ahead {job : Job T} {rest : List (Job T)} (h : (scan now delays jobs).ahead = job :: rest) :
    job.due ≤ (scan now delays jobs).now := by
  induction jobs generalizing now delays with
  | nil => cases h
  | cons first others ih =>
    rw [scan] at h ⊢
    dsimp only at h ⊢
    split at h
    · next hdue =>
        rw [if_pos hdue]
        cases h
        exact hdue
    · next hearly =>
        rw [if_neg hearly]
        exact ih h

/-- Where no time passes, the loop stops at the first job that is due. -/
theorem scan_nil : (scan now [] jobs).passed = jobs.takeWhile (fun job => !decide (job.due ≤ now)) ∧
    (scan now [] jobs).ahead = jobs.dropWhile fun job => !decide (job.due ≤ now) := by
  induction jobs with
  | nil => exact ⟨rfl, rfl⟩
  | cons job rest ih =>
    have hscan : scan now [] (job :: rest) = if job.due ≤ now then ⟨[], job :: rest, now⟩
        else ⟨job :: (scan now [] rest).passed, (scan now [] rest).ahead, (scan now [] rest).now⟩ := rfl
    rw [hscan]
    by_cases hdue : job.due ≤ now
    · rw [if_pos hdue, takeWhile_cons_of_neg (by simpa using hdue),
        dropWhile_cons_of_neg (by simpa using hdue)]
      exact ⟨rfl, rfl⟩
    · rw [if_neg hdue, takeWhile_cons_of_pos (by simpa using hdue),
        dropWhile_cons_of_pos (by simpa using hdue)]
      exact ⟨congrArg (job :: ·) ih.1, ih.2⟩

end Scan

namespace Timeline

variable {timeline : Timeline}

/-- A tick in which no time passes selects as `Scheduler.select` does. -/
theorem select_nil : (timeline.select []).scheduler = timeline.scheduler.select timeline.now := by
  rw [select, Scheduler.select, seek]
  dsimp only
  rw [scan_nil.1, scan_nil.2]

theorem toList_select (delays : List Nat) : (timeline.select delays).jobs.toList = timeline.jobs.toList := by
  have hscan := @scan_append Nat timeline.now delays timeline.jobs.rewind.ahead
  rw [← toList_rewind timeline.jobs]
  exact (append_assoc ..).trans (congrArg (timeline.jobs.rewind.behind ++ ·) hscan)

theorem tasks_select (delays : List Nat) :
    (timeline.select delays).scheduler.tasks = timeline.scheduler.tasks :=
  congrArg (List.map Job.task) (toList_select delays)

end Timeline

/-! ## The jobs of a run -/

/-- The jobs for some times, counted from `serial` on. -/
def jobsFrom (serial : Nat) : List Nat → List (Job Nat)
  | [] => []
  | due :: rest => ⟨due, serial⟩ :: jobsFrom (serial + 1) rest

/-- What is known of the jobs that wait, of the times for which jobs were queued, and of those executed. -/
structure Tracked (jobs : List (Job Nat)) (queued : List Nat) (executed : List (Nat × Nat)) : Prop where
  distinct : (jobs.map Job.task).Nodup
  due : ∀ job ∈ jobs, queued[job.task]? = some job.due
  once : (executed.map Prod.fst).Nodup
  gone : ∀ entry ∈ executed, entry.1 ∉ jobs.map Job.task
  inTime : ∀ entry ∈ executed, ∃ due, queued[entry.1]? = some due ∧ due ≤ entry.2

def Timeline.Tracked (timeline : Timeline) : Prop :=
  Scheduler.Tracked timeline.jobs.toList timeline.queued timeline.executed

theorem Timeline.Tracked.kept {timeline : Timeline} (h : timeline.Tracked) : Kept timeline :=
  ⟨h.once, h.gone, h.inTime⟩

section Tracked

variable {jobs : List (Job Nat)} {queued : List Nat} {executed : List (Nat × Nat)}

theorem tracked_nil : Tracked [] [] [] :=
  ⟨nodup_nil, fun _ h => absurd h not_mem_nil, nodup_nil,
    fun _ h => absurd h not_mem_nil, fun _ h => absurd h not_mem_nil⟩

theorem Tracked.lt (h : Tracked jobs queued executed) {job : Job Nat} (hjob : job ∈ jobs) :
    job.task < queued.length :=
  (List.getElem?_eq_some_iff.1 (h.due job hjob)).1

/-- A new job has a new serial. -/
theorem Tracked.queue (h : Tracked jobs queued executed) (due : Nat) :
    Tracked (jobs ++ [⟨due, queued.length⟩]) (queued ++ [due]) executed := by
  have hkept : ∀ {serial time : Nat}, queued[serial]? = some time → (queued ++ [due])[serial]? = some time :=
    fun hserial => (List.getElem?_append_left (List.getElem?_eq_some_iff.1 hserial).1).trans hserial
  refine ⟨?_, fun job hjob => ?_, h.once, fun entry hentry hmem => ?_, fun entry hentry => ?_⟩
  · rw [map_append, map_singleton, nodup_append]
    refine ⟨h.distinct, nodup_singleton _, fun serial hserial other hother => ?_⟩
    obtain ⟨job, hjob, rfl⟩ := mem_map.1 hserial
    rw [mem_singleton.1 hother]
    exact Nat.ne_of_lt (h.lt hjob)
  · rcases mem_append.1 hjob with hold | hnew
    · exact hkept (h.due job hold)
    · rw [mem_singleton.1 hnew]
      exact List.getElem?_concat_length
  · rw [map_append, map_singleton] at hmem
    rcases mem_append.1 hmem with hold | hnew
    · exact h.gone entry hentry hold
    · obtain ⟨time, htime, -⟩ := h.inTime entry hentry
      rw [mem_singleton.1 hnew] at htime
      exact Nat.lt_irrefl _ (List.getElem?_eq_some_iff.1 htime).1
  · obtain ⟨time, htime, hle⟩ := h.inTime entry hentry
    exact ⟨time, hkept htime, hle⟩

theorem Tracked.queues (h : Tracked jobs queued executed) (dues : List Nat) :
    Tracked (jobs ++ jobsFrom queued.length dues) (queued ++ dues) executed := by
  induction dues generalizing jobs queued with
  | nil =>
    rw [jobsFrom, append_nil, append_nil]
    exact h
  | cons due rest ih =>
    have hrest := ih (h.queue due)
    rw [length_append, length_singleton, append_assoc, append_assoc] at hrest
    exact hrest

/-- A due job is executed and taken out. -/
theorem Tracked.execute {before after : List (Job Nat)} {job : Job Nat} {now : Nat}
    (h : Tracked (before ++ job :: after) queued executed) (hdue : job.due ≤ now) :
    Tracked (before ++ after) queued (executed ++ [(job.task, now)]) := by
  have hmem : job ∈ before ++ job :: after := mem_append_right _ mem_cons_self
  have hsub : (before ++ after).Sublist (before ++ job :: after) :=
    (sublist_cons_self job after).append_left before
  have hnot : job.task ∉ (before ++ after).map Job.task := by
    have hdistinct := h.distinct
    rw [map_append, map_cons, nodup_middle, nodup_cons, ← map_append] at hdistinct
    exact hdistinct.1
  refine ⟨h.distinct.sublist (hsub.map _), fun other hother => h.due other (hsub.subset hother), ?_, ?_, ?_⟩
  · rw [map_append, map_singleton, nodup_append]
    refine ⟨h.once, nodup_singleton _, fun serial hserial other hother => ?_⟩
    obtain ⟨entry, hentry, rfl⟩ := mem_map.1 hserial
    rw [mem_singleton.1 hother]
    rintro heq
    exact h.gone entry hentry (heq ▸ mem_map_of_mem hmem)
  · intro entry hentry
    rcases mem_append.1 hentry with hold | hnew
    · exact fun hin => h.gone entry hold ((hsub.map _).subset hin)
    · rw [mem_singleton.1 hnew]
      exact hnot
  · intro entry hentry
    rcases mem_append.1 hentry with hold | hnew
    · exact h.inTime entry hold
    · rw [mem_singleton.1 hnew]
      exact ⟨job.due, h.due job hmem, hdue⟩

end Tracked

/-! ## Steps -/

namespace Timeline

variable {timeline : Timeline}

/-- What is queued while the iterator is before a job comes behind that job. -/
theorem foldl_queue {behind : List (Job Nat)} {job : Job Nat} {rest : List (Job Nat)}
    (h : timeline.jobs = ⟨behind, job :: rest⟩) (dues : List Nat) :
    dues.foldl queue timeline = { timeline with
      scheduler := ⟨⟨behind, job :: (rest ++ jobsFrom timeline.queued.length dues)⟩⟩
      queued := timeline.queued ++ dues } := by
  induction dues generalizing timeline rest with
  | nil =>
    obtain ⟨⟨jobs⟩, now, queued, executed⟩ := timeline
    cases (show jobs = _ from h)
    rw [foldl_nil, jobsFrom, append_nil, append_nil]
  | cons due dues ih =>
    have hqueue : (timeline.queue due).jobs = ⟨behind, job :: (rest ++ [⟨due, timeline.queued.length⟩])⟩ := by
      show timeline.jobs.push ⟨due, timeline.queued.length⟩ = _
      rw [h]
      exact if_neg (cons_ne_nil job rest)
    have hqueued : (timeline.queue due).queued = timeline.queued ++ [due] := rfl
    rw [foldl_cons, ih hqueue, jobsFrom, hqueued, length_append, length_singleton,
      append_assoc, append_assoc]
    rfl

/-- A tick executes the job at the iterator. -/
theorem execute_job {behind : List (Job Nat)} {job : Job Nat} {rest : List (Job Nat)} {conduct : Conduct}
    (h : timeline.jobs = ⟨behind, job :: rest⟩) (hending : conduct.ending ≠ .escaped) :
    timeline.execute conduct = { timeline with
      scheduler := ⟨⟨behind, rest ++ jobsFrom timeline.queued.length conduct.queued⟩⟩
      queued := timeline.queued ++ conduct.queued
      executed := timeline.executed ++ [(job.task, timeline.now)] } := by
  have hcurrent : timeline.scheduler.current? = some job.task :=
    congrArg (fun jobs : Cursor (Job Nat) => jobs.current?.map Job.task) h
  have hqueue := @foldl_queue { timeline with executed := timeline.executed ++ [(job.task, timeline.now)] }
    behind job rest h conduct.queued
  rw [execute, hcurrent]
  dsimp only
  rw [if_neg hending, hqueue]
  rfl

theorem execute_none {conduct : Conduct} (h : timeline.jobs.ahead = []) :
    timeline.execute conduct = timeline := by
  have hcurrent : timeline.scheduler.current? = none :=
    congrArg (fun ahead : List (Job Nat) => ahead.head?.map Job.task) h
  rw [execute, hcurrent]

theorem queued_select (delays : List Nat) : (timeline.select delays).queued = timeline.queued := rfl

theorem executed_select (delays : List Nat) : (timeline.select delays).executed = timeline.executed := rfl

theorem le_select_now (delays : List Nat) : timeline.now ≤ (timeline.select delays).now := le_scan_now

theorem Tracked.select (h : timeline.Tracked) (delays : List Nat) : (timeline.select delays).Tracked := by
  rw [Timeline.Tracked, toList_select, queued_select, executed_select]
  exact h

end Timeline

open Timeline

/-- What a tick executes is due. -/
theorem due_of_select {timeline : Timeline} {delays : List Nat} {behind rest : List (Job Nat)} {job : Job Nat}
    (h : (timeline.select delays).jobs = ⟨behind, job :: rest⟩) : job.due ≤ (timeline.select delays).now :=
  scan_ahead (congrArg ahead h)

/-- A tick that executes a job under the condition. -/
structure Executes (timeline : Timeline) (delays : List Nat) (conduct : Conduct) (behind : List (Job Nat))
    (job : Job Nat) (rest : List (Job Nat)) : Prop where
  jobs : (timeline.select delays).jobs = ⟨behind, job :: rest⟩
  ending : conduct.ending ≠ .escaped
  level : conduct.queued ≠ [] → ∀ other ∈ behind, (timeline.select delays).now < other.due

section Step

variable {timeline : Timeline}

/-- Under the condition a tick executes nothing, or a job whose task ends as expected. -/
theorem tick_cases {delays : List Nat} {conduct : Conduct} (hsane : Sane timeline (.tick delays conduct)) :
    (timeline.select delays).jobs.ahead = [] ∨
      ∃ behind job rest, Executes timeline delays conduct behind job rest := by
  rcases hahead : (timeline.select delays).jobs.ahead with _ | ⟨job, rest⟩
  · exact .inl rfl
  · have hjobs : (timeline.select delays).jobs = ⟨(timeline.select delays).jobs.behind, job :: rest⟩ := by
      rw [← hahead]
    have hcurrent : (timeline.select delays).scheduler.current? = some job.task :=
      congrArg (fun jobs : Cursor (Job Nat) => jobs.current?.map Job.task) hjobs
    obtain ⟨hending, hlevel⟩ := hsane (hcurrent ▸ rfl)
    refine .inr ⟨_, job, rest, hjobs, hending, fun hqueued => ?_⟩
    refine (hlevel hqueued).resolve_left fun hend => ?_
    rw [hahead] at hend
    cases hend

variable {delays : List Nat} {conduct : Conduct} {behind rest : List (Job Nat)} {job : Job Nat}

theorem Executes.step (h : Executes timeline delays conduct behind job rest) :
    schedulerStep timeline (.tick delays conduct) = { timeline.select delays with
      scheduler := ⟨⟨behind, rest ++ jobsFrom timeline.queued.length conduct.queued⟩⟩
      queued := timeline.queued ++ conduct.queued
      executed := timeline.executed ++ [(job.task, (timeline.select delays).now)] } :=
  execute_job h.jobs h.ending

theorem Executes.toList (h : Executes timeline delays conduct behind job rest) :
    timeline.jobs.toList = behind ++ job :: rest := by
  rw [← toList_select delays, h.jobs]
  rfl

theorem Executes.tracked (h : Executes timeline delays conduct behind job rest) (htracked : timeline.Tracked) :
    (schedulerStep timeline (.tick delays conduct)).Tracked := by
  rw [h.step, Timeline.Tracked]
  have hbefore : Scheduler.Tracked (behind ++ job :: rest) timeline.queued timeline.executed := by
    rw [← h.toList]
    exact htracked
  have hafter := (hbefore.execute (due_of_select h.jobs)).queues conduct.queued
  rw [append_assoc] at hafter
  exact hafter

theorem step_idle (h : (timeline.select delays).jobs.ahead = []) :
    schedulerStep timeline (.tick delays conduct) = timeline.select delays :=
  execute_none h

theorem tracked_step (htracked : timeline.Tracked) {input : SchedulerInput} (hsane : Sane timeline input) :
    (schedulerStep timeline input).Tracked := by
  cases input with
  | wait elapsed => exact htracked
  | queue due =>
    have hlist : (timeline.queue due).jobs.toList = timeline.jobs.toList ++ [⟨due, timeline.queued.length⟩] :=
      toList_push ..
    show Scheduler.Tracked _ _ _
    rw [show schedulerStep timeline (.queue due) = timeline.queue due from rfl, hlist]
    exact Scheduler.Tracked.queue htracked due
  | tick delays conduct =>
    rcases tick_cases hsane with hidle | ⟨behind, job, rest, h⟩
    · rw [step_idle hidle]
      exact htracked.select delays
    · exact h.tracked htracked

theorem not_appended {α : Type} {list : List α} {x : α} : list ≠ list ++ [x] := by
  intro h
  have hlength := congrArg List.length h
  rw [length_append, length_singleton] at hlength
  omega

theorem removes_step (htracked : timeline.Tracked) {input : SchedulerInput} (hsane : Sane timeline input) :
    Removes timeline input := by
  intro serial hserial
  cases input with
  | wait elapsed => exact iff_of_true hserial fun ⟨_, h⟩ => not_appended h
  | queue due =>
    refine iff_of_true ?_ fun ⟨_, h⟩ => not_appended h
    show serial ∈ (timeline.scheduler.queue timeline.queued.length due).tasks
    rw [tasks_queue]
    exact mem_append_left _ hserial
  | tick delays conduct =>
    rcases tick_cases hsane with hidle | ⟨behind, job, rest, h⟩
    · rw [step_idle hidle, Timeline.tasks_select]
      exact iff_of_true hserial fun ⟨_, h⟩ => not_appended h
    · have hafter := h.tracked htracked
      have hexecuted : (schedulerStep timeline (.tick delays conduct)).executed =
          timeline.executed ++ [(job.task, (timeline.select delays).now)] := by
        rw [h.step]
      by_cases hjob : serial = job.task
      · subst hjob
        refine iff_of_false (hafter.gone (job.task, (timeline.select delays).now) ?_) fun hnot => hnot ⟨_, hexecuted⟩
        rw [hexecuted]
        exact mem_append_right _ (mem_singleton_self _)
      · refine iff_of_true ?_ fun ⟨time, htime⟩ => ?_
        · obtain ⟨other, hother, rfl⟩ := mem_map.1 hserial
          refine mem_map_of_mem ?_
          rw [h.toList] at hother
          rw [h.step]
          show other ∈ behind ++ (rest ++ _)
          rcases mem_append.1 hother with hbehind | hahead
          · exact mem_append_left _ hbehind
          · refine mem_append_right _ (mem_append_left _ ?_)
            refine (mem_cons.1 hahead).resolve_left fun heq => ?_
            exact hjob (congrArg Job.task heq)
        · have hsame := append_cancel_left (hexecuted.symm.trans htime)
          exact hjob (congrArg Prod.fst (singleton_inj.1 hsame)).symm

/-- What was executed stays so. -/
theorem executed_step {input : SchedulerInput} (hsane : Sane timeline input) {entry : Nat × Nat}
    (hentry : entry ∈ timeline.executed) : entry ∈ (schedulerStep timeline input).executed := by
  cases input with
  | wait elapsed => exact hentry
  | queue due => exact hentry
  | tick delays conduct =>
    rcases tick_cases hsane with hidle | ⟨behind, job, rest, h⟩
    · rw [step_idle hidle]
      exact hentry
    · rw [h.step]
      exact mem_append_left _ hentry

/-- The iterator comes no further away from a due job. -/
theorem rank_select {waiting : Job Nat} (hmem : waiting ∈ timeline.jobs.toList) (hdue : waiting.due ≤ timeline.now)
    (delays : List Nat) :
    rank waiting (timeline.select delays).jobs ≤ rank waiting timeline.jobs := by
  have hnot : waiting ∉ (scan timeline.now delays timeline.jobs.rewind.ahead).passed := fun hpassed =>
    Nat.lt_irrefl _ (Nat.lt_of_lt_of_le (scan_passed hpassed) hdue)
  have happend := @scan_append Nat timeline.now delays timeline.jobs.rewind.ahead
  have hmem : waiting ∈ (scan timeline.now delays timeline.jobs.rewind.ahead).ahead ++
      timeline.jobs.rewind.behind := by
    rw [← toList_rewind, toList, ← happend] at hmem
    rcases mem_append.1 hmem with hbehind | hahead
    · exact mem_append_right _ hbehind
    · exact mem_append_left _ ((mem_append.1 hahead).resolve_left hnot)
  have hrank := rank_pass hmem hnot
  rw [happend] at hrank
  have hrewind := rank_rewind waiting timeline.jobs
  have hle : rank waiting (timeline.select delays).jobs ≤ rank waiting timeline.jobs.rewind :=
    Nat.le.intro hrank
  omega

/-- With each job that is executed, the iterator comes nearer to a due job. -/
theorem rank_step {input : SchedulerInput} (hsane : Sane timeline input) {waiting : Job Nat}
    (hmem : waiting ∈ timeline.jobs.toList) (hdue : waiting.due ≤ timeline.now) :
    (∃ time, (waiting.task, time) ∈ (schedulerStep timeline input).executed) ∨
      waiting ∈ (schedulerStep timeline input).jobs.toList ∧ waiting.due ≤ (schedulerStep timeline input).now ∧
        (schedulerStep timeline input).executed.length + rank waiting (schedulerStep timeline input).jobs ≤
          timeline.executed.length + rank waiting timeline.jobs := by
  cases input with
  | wait elapsed => exact .inr ⟨hmem, Nat.le_trans hdue (Nat.le_add_right _ _), Nat.le_refl _⟩
  | queue due =>
    have hlevel : waiting ∈ timeline.jobs.behind → timeline.jobs.ahead = [] := by
      intro hbehind
      refine (show timeline.Level from hsane).resolve_right fun hearly => ?_
      exact absurd hdue (Nat.not_le.2 (hearly waiting hbehind))
    have hrank := rank_push hmem hlevel ⟨due, timeline.queued.length⟩
    refine .inr ⟨?_, hdue, ?_⟩
    · show waiting ∈ (timeline.jobs.push _).toList
      rw [toList_push]
      exact mem_append_left _ hmem
    · show timeline.executed.length + rank waiting (timeline.jobs.push _) ≤ _
      exact Nat.le_of_eq (congrArg _ hrank)
  | tick delays conduct =>
    have hrank := rank_select hmem hdue delays
    have hnow := @le_select_now timeline delays
    rcases tick_cases hsane with hidle | ⟨behind, job, rest, h⟩
    · rw [step_idle hidle, toList_select, executed_select]
      exact .inr ⟨hmem, Nat.le_trans hdue hnow, Nat.add_le_add_left hrank _⟩
    · rw [h.step]
      by_cases hjob : job = waiting
      · subst hjob
        exact .inl ⟨_, mem_append_right _ (mem_singleton_self _)⟩
      · have hother : waiting ∈ behind ∨ waiting ∈ rest := by
          rw [h.toList] at hmem
          rcases mem_append.1 hmem with hbehind | hahead
          · exact .inl hbehind
          · exact .inr ((mem_cons.1 hahead).resolve_left fun heq => hjob heq.symm)
        have herase := @rank_erase _ _ behind rest _ _ hjob
        have hextend : rank waiting
            ⟨behind, rest ++ jobsFrom timeline.queued.length conduct.queued⟩ =
              rank waiting ⟨behind, rest⟩ := by
          rcases hconduct : conduct.queued with _ | ⟨due, dues⟩
          · rw [jobsFrom, append_nil]
          · have hlevel := h.level (by rw [hconduct]; exact cons_ne_nil _ _)
            refine rank_extend (hother.resolve_left fun hbehind => ?_) _
            exact absurd (Nat.le_trans hdue hnow) (Nat.not_le.2 (hlevel waiting hbehind))
        rw [h.jobs] at hrank
        refine .inr ⟨?_, Nat.le_trans hdue hnow, ?_⟩
        · show waiting ∈ behind ++ (rest ++ _)
          rcases hother with hbehind | hrest
          · exact mem_append_left _ hbehind
          · exact mem_append_right _ (mem_append_left _ hrest)
        · show (timeline.executed ++ [(job.task, (timeline.select delays).now)]).length +
            rank waiting ⟨behind, rest ++ jobsFrom timeline.queued.length conduct.queued⟩ ≤ _
          rw [hextend, length_append, length_singleton]
          have herase : rank waiting ⟨behind, rest⟩ + 1 = rank waiting ⟨behind, job :: rest⟩ :=
            herase
          omega

end Step

/-! ## Runs -/

/-- What is executed while a due job waits. -/
theorem executed_while_waiting {timeline : Timeline} {during : List SchedulerInput} (htracked : timeline.Tracked)
    (hsane : Guarded schedulerStep Sane timeline during) {waiting : Job Nat}
    (hmem : waiting ∈ timeline.jobs.toList) (hdue : waiting.due ≤ timeline.now)
    (hwaits : waiting.task ∈ (run schedulerStep timeline during).scheduler.tasks) :
    (run schedulerStep timeline during).executed.length ≤
      timeline.executed.length + rank waiting timeline.jobs := by
  induction during generalizing timeline with
  | nil => exact Nat.le_add_right _ _
  | cons input during ih =>
    obtain ⟨hinput, hrest⟩ := hsane
    have hnext := tracked_step htracked hinput
    rcases rank_step hinput hmem hdue with ⟨time, hexecuted⟩ | ⟨hmem, hdue, hle⟩
    · -- a job that is executed does not wait again
      have hlast : (run schedulerStep (schedulerStep timeline input) during).Tracked ∧
          (waiting.task, time) ∈ (run schedulerStep (schedulerStep timeline input) during).executed := by
        refine @Guarded.invariant _ _ schedulerStep Sane
          (fun later => later.Tracked ∧ (waiting.task, time) ∈ later.executed) ?_ _ _ ⟨hnext, hexecuted⟩ hrest
        intro later input h hsane
        exact ⟨tracked_step h.1 hsane, executed_step hsane h.2⟩
      exact absurd hwaits (hlast.1.gone _ hlast.2)
    · exact Nat.le_trans (ih hnext hrest hmem hdue hwaits) hle

theorem tracked_start : Timeline.Tracked {} := tracked_nil

/-- In a run in which jobs are queued while no due job stands behind the iterator, and no task throws what is not
caught, the jobs are executed once, in time and in turn. -/
theorem jobs_executed_in_turn (inputs : List SchedulerInput) (hsane : Guarded schedulerStep Sane {} inputs) :
    Orderly inputs := by
  have hpreserved : ∀ timeline input, Timeline.Tracked timeline → Sane timeline input →
      (schedulerStep timeline input).Tracked := fun _ _ h hsane => tracked_step h hsane
  constructor
  · exact Guarded.imp hpreserved (fun timeline input h hsane =>
      ⟨(hpreserved timeline input h hsane).kept, removes_step h hsane⟩) tracked_start hsane
  · rintro before during rest rfl job hjob hdue hwaits
    have hbefore := (guarded_append.1 (guarded_append.1 hsane).1).1
    have hduring := (guarded_append.1 (guarded_append.1 hsane).1).2
    have htracked := hbefore.invariant hpreserved tracked_start
    rw [run_append] at hwaits ⊢
    have hle := executed_while_waiting htracked hduring hjob hdue hwaits
    have hlt := Cursor.rank_lt hjob
    omega

/-- A job for later stands before one whose task queues another job. -/
def relay : List SchedulerInput :=
  [.queue 5, .queue 0, .tick [0, 1] { queued := [9], ending := .thrown }, .wait 8, .tick [] {}, .tick [] {}]

theorem jobs_executed_in_turn_relay : Orderly relay := jobs_executed_in_turn relay (by decide)

/-- The jobs of a run each of which queues another keep a due job waiting. -/
theorem due_job_overtaken : ¬Orderly
    [.queue 5, .queue 0, .tick [] { queued := [0] }, .wait 5, .tick [] { queued := [0] },
      .tick [] { queued := [0] }, .tick [] { queued := [0] }] := by
  intro h
  have hfair := h.fair [.queue 5, .queue 0, .tick [] { queued := [0] }, .wait 5]
    [.tick [] { queued := [0] }, .tick [] { queued := [0] }, .tick [] { queued := [0] }] [] rfl ⟨5, 0⟩
    (by decide) (by decide) (by decide)
  exact absurd hfair (by decide)

end Alicia.Scheduler
