import Alicia.Race.P2dIds

/-!
# Map events

A racer activates an event of the map, and a job of the scheduler deactivates it for the same client
when its throttle has ended.  The job looks up where this client is by then: an event is released,
and in its own race, as long as the last job of an event finds its client there.

A race of a room ends when its tracker is cleared for the next one, or with the room.  A broadcast
takes place when its throttle is checked; in a room that is gone it reaches nobody.
-/

namespace Alicia.Race

open Transition List Option

/-- `EventThrottleDuration`. -/
def eventThrottleDuration : Nat := 250000000

/-- An event in one of the races of a room. -/
structure MapEvent where
  room : UInt32
  number : Nat
  eventId : UInt32
  deriving DecidableEq

/-- A job of the scheduler; the code keeps no more of the event than its id. -/
structure ReleaseJob where
  due : Instant
  client : ClientId
  event : MapEvent
  deriving DecidableEq

/-- A broadcast, and the event of the job that sends it. -/
structure EventNotify where
  event : MapEvent
  activates : Bool
  time : Instant
  origin : Option MapEvent := none
  deriving DecidableEq

/-- The handler with the events of its trackers.  The numbers of the races of the rooms and the
broadcasts, newest first, are history variables. -/
structure EventWorld where
  handler : NetworkHandler := {}
  throttledUntil : UInt32 → UInt32 → Option Instant := fun _ _ => none
  number : UInt32 → Nat := fun _ => 0
  jobs : List ReleaseJob := []
  sent : List EventNotify := []
  now : Instant := 0

namespace EventWorld

variable (world : EventWorld)

/-- The event in the present race of a room. -/
def event (room eventId : UInt32) : MapEvent := ⟨room, world.number room, eventId⟩

/-- The room in whose race a client has its racer. -/
def racesIn (client : ClientId) : Option UInt32 :=
  match world.handler.getClientContext client true with
  | .error _ => none
  | .ok context =>
    match world.handler.getRacer context with
    | .error _ => none
    | .ok _ => some context.roomUid

/-- The verdict of `IsEventThrottled`. -/
def isEventThrottled (room eventId : UInt32) : Bool :=
  (world.throttledUntil room eventId).any fun deadline => world.now < deadline

/-- The throttle of an event begins, and the broadcast is sent. -/
def broadcastEvent (room eventId : UInt32) (activates : Bool) (origin : Option MapEvent) :
    EventWorld :=
  { world with
    throttledUntil := fun otherRoom other =>
      if otherRoom = room ∧ other = eventId then some (world.now + eventThrottleDuration)
      else world.throttledUntil otherRoom other
    sent := ⟨world.event room eventId, activates, world.now, origin⟩ :: world.sent }

/-- The clock is read again for the job, after `elapsed`. -/
def handleUserRaceActivateEvent (client : ClientId) (eventId : UInt32) (elapsed : Nat) :
    EventWorld :=
  match world.racesIn client with
  | none => world
  | some room =>
    if world.isEventThrottled room eventId then world
    else
      { world.broadcastEvent room eventId true none with
        jobs := world.jobs ++ [⟨world.now + elapsed + eventThrottleDuration, client,
          world.event room eventId⟩]
        now := world.now + elapsed }

def handleUserRaceDeactivateEvent (client : ClientId) (eventId : UInt32)
    (origin : Option MapEvent) : EventWorld :=
  match world.racesIn client with
  | none => world
  | some room =>
    if world.isEventThrottled room eventId then world
    else world.broadcastEvent room eventId false origin

end EventWorld

/-- The room whose tracker is cleared for a race. -/
def clearedRoom (handler : NetworkHandler) : ServerInput → Option UInt32
  | .command client (.startRace lookups) =>
    if client ∈ handler.connected then
      match handleStartRace lookups client handler, handler.getClientContext client true with
      | .ok .generic _, .ok context => some context.roomUid
      | .ok (.countdown _) _, .ok context => some context.roomUid
      | _, _ => none
    else none
  | _ => none

inductive EventStep where
  /-- Anything else that happens to the race server. -/
  | serve (input : ServerInput)
  | activate (client : ClientId) (eventId : UInt32) (elapsed : Nat)
  | deactivate (client : ClientId) (eventId : UInt32)
  /-- The scheduler runs a job that is due. -/
  | runJob (index : Nat)
  | elapse (duration : Nat)

section Steps

variable (identityHash : IdentityHash)

namespace EventWorld

variable (world : EventWorld)

/-- The race of a room ends: its tracker is cleared or goes with the room. -/
def raceEnds (input : ServerInput) (room : UInt32) : Bool :=
  clearedRoom world.handler input = some room ∨
    (room ∈ world.handler.raceInstances ∧
      room ∉ (serve identityHash world.handler input).raceInstances)

def serveInput (input : ServerInput) : EventWorld :=
  { world with
    handler := serve identityHash world.handler input
    throttledUntil := fun room eventId =>
      if world.raceEnds identityHash input room then none else world.throttledUntil room eventId
    number := fun room =>
      if world.raceEnds identityHash input room then world.number room + 1
      else world.number room }

/-- A job is erased after it ran or threw. -/
def runJob (index : Nat) : EventWorld :=
  match world.jobs[index]? with
  | none => world
  | some job =>
    if job.due ≤ world.now then
      { world.handleUserRaceDeactivateEvent job.client job.event.eventId (some job.event) with
        jobs := world.jobs.eraseIdx index }
    else world

end EventWorld

def stepEvent (world : EventWorld) : EventStep → EventWorld
  | .serve input => world.serveInput identityHash input
  | .activate client eventId elapsed =>
    if client ∈ world.handler.connected then
      world.handleUserRaceActivateEvent client eventId elapsed
    else world
  | .deactivate client eventId =>
    if client ∈ world.handler.connected then
      world.handleUserRaceDeactivateEvent client eventId none
    else world
  | .runJob index => world.runJob index
  | .elapse duration => { world with now := world.now + duration }

end Steps

/-! ## Released events -/

namespace EventWorld

variable (world : EventWorld)

/-- The last broadcast about an event. -/
def lastNotify (event : MapEvent) : Option EventNotify :=
  world.sent.find? fun notify => notify.event = event

/-- The last broadcast about an event is an activation. -/
def IsActive (event : MapEvent) : Prop := (world.lastNotify event).any EventNotify.activates

/-- The client is in the race of the event. -/
def FindsRace (client : ClientId) (event : MapEvent) : Prop :=
  world.racesIn client = some event.room ∧ world.number event.room = event.number

/-- Broadcasts keep their distance, an event without a waiting job is not active, and the jobs send
into their own races. -/
structure EventsReleased : Prop where
  spaced : world.sent.Pairwise fun later earlier =>
    later.event = earlier.event → earlier.time + eventThrottleDuration ≤ later.time
  released : ∀ event, (∀ job ∈ world.jobs, job.event ≠ event) → ¬ world.IsActive event
  confined : ∀ notify ∈ world.sent, ∀ event, notify.origin = some event → notify.event = event

/-- A job that runs finds its client in its race, if it is the last one of an event that is active;
and it finds the client in no other race, or there the event is throttled. -/
structure JobFinds (index : Nat) (job : ReleaseJob) : Prop where
  last : (∀ other ∈ world.jobs.eraseIdx index, other.event ≠ job.event) →
    world.IsActive job.event → world.FindsRace job.client job.event
  other : ∀ room, world.racesIn job.client = some room →
    world.isEventThrottled room job.event.eventId ∨ world.FindsRace job.client job.event

end EventWorld

def ReleasesEvents (world : EventWorld) : EventStep → Prop
  | .runJob index => ∀ job, world.jobs[index]? = some job → job.due ≤ world.now →
      world.JobFinds index job
  | _ => True

/-! ## What the trackers and the jobs know -/

namespace EventWorld

/-- The throttles of the present races are those of their last broadcasts. -/
structure Throttles (world : EventWorld) : Prop where
  current : ∀ notify ∈ world.sent, notify.event.number ≤ world.number notify.event.room
  bound : ∀ notify ∈ world.sent, notify.event.number = world.number notify.event.room →
    ∃ deadline, world.throttledUntil notify.event.room notify.event.eventId = some deadline ∧
      notify.time + eventThrottleDuration ≤ deadline
  last : ∀ event notify, world.lastNotify event = some notify →
    event.number = world.number event.room →
    world.throttledUntil event.room event.eventId = some (notify.time + eventThrottleDuration)
  spaced : world.sent.Pairwise fun later earlier =>
    later.event = earlier.event → earlier.time + eventThrottleDuration ≤ later.time

/-- A job of the event waits, and one of them until the throttle of the activation has ended. -/
structure Waits (world : EventWorld) (event : MapEvent) (notify : EventNotify) : Prop where
  job : ∃ job ∈ world.jobs, job.event = event
  due : notify.time + eventThrottleDuration ≤ world.now ∨ ∃ job ∈ world.jobs,
    job.event = event ∧ notify.time + eventThrottleDuration ≤ job.due

structure Tracked (world : EventWorld) : Prop where
  throttles : world.Throttles
  waits : ∀ event notify, world.lastNotify event = some notify → notify.activates →
    world.Waits event notify
  confined : ∀ notify ∈ world.sent, ∀ event, notify.origin = some event → notify.event = event

variable {world : EventWorld} {room eventId : UInt32}

theorem lastNotify_broadcastEvent (activates : Bool) (origin : Option MapEvent)
    (event : MapEvent) : (world.broadcastEvent room eventId activates origin).lastNotify event =
      if event = world.event room eventId then
        some ⟨world.event room eventId, activates, world.now, origin⟩
      else world.lastNotify event := by
  rw [lastNotify, broadcastEvent, List.find?_cons]
  by_cases hevent : event = world.event room eventId
  · rw [if_pos hevent, decide_eq_true hevent.symm]
  · rw [if_neg hevent, decide_eq_false (Ne.symm hevent)]
    rfl

theorem le_now_of_open (hopen : ¬ world.isEventThrottled room eventId) {deadline : Instant}
    (h : world.throttledUntil room eventId = some deadline) : deadline ≤ world.now := by
  rw [isEventThrottled, h, any_some, decide_eq_true_eq] at hopen
  exact Nat.not_lt.1 hopen

theorem Throttles.broadcastEvent (h : world.Throttles)
    (hopen : ¬ world.isEventThrottled room eventId) (activates : Bool)
    (origin : Option MapEvent) :
    (world.broadcastEvent room eventId activates origin).Throttles := by
  have hearlier : ∀ notify ∈ world.sent, notify.event = world.event room eventId →
      notify.time + eventThrottleDuration ≤ world.now := by
    intro notify hmem hevent
    obtain ⟨deadline, hdeadline, hle⟩ := h.bound notify hmem (by rw [hevent]; rfl)
    rw [hevent] at hdeadline
    exact hle.trans (le_now_of_open hopen hdeadline)
  refine ⟨forall_mem_cons.2 ⟨le_rfl, h.current⟩,
    forall_mem_cons.2 ⟨fun _ => ⟨_, if_pos ⟨rfl, rfl⟩, le_rfl⟩, ?_⟩, ?_,
    pairwise_cons.2 ⟨fun earlier hmem heq => hearlier earlier hmem heq.symm, h.spaced⟩⟩
  · intro notify hmem hnumber
    by_cases hsame : notify.event.room = room ∧ notify.event.eventId = eventId
    · obtain ⟨deadline, hdeadline, hle⟩ := h.bound notify hmem hnumber
      rw [hsame.1, hsame.2] at hdeadline
      exact ⟨_, if_pos hsame,
        (hle.trans (le_now_of_open hopen hdeadline)).trans (Nat.le_add_right ..)⟩
    · obtain ⟨deadline, hdeadline, hle⟩ := h.bound notify hmem hnumber
      exact ⟨deadline, (if_neg hsame).trans hdeadline, hle⟩
  · intro event notify hlast hnumber
    rw [lastNotify_broadcastEvent] at hlast
    by_cases hevent : event = world.event room eventId
    · rw [if_pos hevent] at hlast
      obtain rfl := some.inj hlast
      rw [hevent]
      exact if_pos ⟨rfl, rfl⟩
    · rw [if_neg hevent] at hlast
      refine (if_neg ?_).trans (h.last event notify hlast hnumber)
      rintro ⟨rfl, rfl⟩
      exact hevent (congrArg (MapEvent.mk event.room · event.eventId) hnumber)

/-- A handler sends nothing, or one broadcast about an event that is not throttled. -/
theorem handleUserRaceDeactivateEvent_cases (world : EventWorld) (client : ClientId)
    (eventId : UInt32) (origin : Option MapEvent) :
    (∃ room, world.racesIn client = some room ∧ ¬ world.isEventThrottled room eventId ∧
      world.handleUserRaceDeactivateEvent client eventId origin =
        world.broadcastEvent room eventId false origin) ∨
    (∀ room, world.racesIn client = some room → world.isEventThrottled room eventId) ∧
      world.handleUserRaceDeactivateEvent client eventId origin = world := by
  rw [handleUserRaceDeactivateEvent]
  cases hroom : world.racesIn client with
  | none => exact .inr ⟨nofun, rfl⟩
  | some room =>
    by_cases hthrottled : world.isEventThrottled room eventId = true
    · exact .inr ⟨fun other hother => some.inj hother ▸ hthrottled, if_pos hthrottled⟩
    · exact .inl ⟨room, rfl, hthrottled, if_neg hthrottled⟩

theorem Tracked.deactivate (h : world.Tracked) (client : ClientId) (eventId : UInt32) :
    (world.handleUserRaceDeactivateEvent client eventId none).Tracked := by
  obtain ⟨room, -, hopen, hafter⟩ | ⟨-, hafter⟩ :=
    world.handleUserRaceDeactivateEvent_cases client eventId none
  · rw [hafter]
    refine ⟨h.throttles.broadcastEvent hopen _ _, fun event notify hlast hactivates => ?_,
      forall_mem_cons.2 ⟨nofun, h.confined⟩⟩
    rw [lastNotify_broadcastEvent] at hlast
    split at hlast
    · obtain rfl := some.inj hlast
      cases hactivates
    · obtain ⟨hjob, hdue⟩ := h.waits event notify hlast hactivates
      exact ⟨hjob, hdue⟩
  · rw [hafter]
    exact h

theorem Tracked.activate (h : world.Tracked) (client : ClientId) (eventId : UInt32)
    (elapsed : Nat) : (world.handleUserRaceActivateEvent client eventId elapsed).Tracked := by
  rw [handleUserRaceActivateEvent]
  split
  · exact h
  rename_i room _
  split
  · exact h
  · next hopen =>
      have hthrottles := h.throttles.broadcastEvent hopen true none
      refine ⟨⟨hthrottles.current, hthrottles.bound, hthrottles.last, hthrottles.spaced⟩, ?_,
        forall_mem_cons.2 ⟨nofun, h.confined⟩⟩
      intro event notify hlast hactivates
      have hlast := (lastNotify_broadcastEvent true none event).symm.trans hlast
      split at hlast
      · next hevent =>
          obtain rfl := some.inj hlast
          have hmem := mem_append_right world.jobs (mem_singleton.2
            (rfl : (⟨world.now + elapsed + eventThrottleDuration, client,
              world.event room eventId⟩ : ReleaseJob) = _))
          refine ⟨⟨_, hmem, hevent.symm⟩, .inr ⟨_, hmem, hevent.symm, ?_⟩⟩
          exact Nat.add_le_add_right (Nat.le_add_right ..) _
      · obtain ⟨⟨job, hjob, hevent⟩, hdue⟩ := h.waits event notify hlast hactivates
        refine ⟨⟨job, mem_append_left _ hjob, hevent⟩, hdue.imp ?_ ?_⟩
        · exact fun hle => hle.trans (Nat.le_add_right ..)
        · rintro ⟨later, hmem, hlater⟩
          exact ⟨later, mem_append_left _ hmem, hlater⟩

theorem Tracked.serveInput (identityHash : IdentityHash) (h : world.Tracked)
    (input : ServerInput) : (world.serveInput identityHash input).Tracked := by
  refine ⟨⟨fun notify hmem => ?_, fun notify hmem hnumber => ?_,
    fun event notify hlast hnumber => ?_, h.throttles.spaced⟩,
    fun event notify hlast hactivates => ?_, h.confined⟩
  · refine (h.throttles.current notify hmem).trans ?_
    rw [EventWorld.serveInput]
    dsimp only
    split
    · exact Nat.le_succ _
    · exact le_rfl
  · have hcurrent := h.throttles.current notify hmem
    rw [EventWorld.serveInput] at hnumber ⊢
    dsimp only at hnumber ⊢
    split at hnumber
    · omega
    · next hends =>
        obtain ⟨deadline, hdeadline, hle⟩ := h.throttles.bound notify hmem hnumber
        exact ⟨deadline, (if_neg hends).trans hdeadline, hle⟩
  · have hmem := mem_of_find?_eq_some hlast
    have hevent : notify.event = event := by simpa using List.find?_some hlast
    have hcurrent := h.throttles.current notify hmem
    rw [hevent] at hcurrent
    rw [EventWorld.serveInput] at hnumber ⊢
    dsimp only at hnumber ⊢
    split at hnumber
    · omega
    · next hends => exact (if_neg hends).trans (h.throttles.last event notify hlast hnumber)
  · obtain ⟨hjob, hdue⟩ := h.waits event notify hlast hactivates
    exact ⟨hjob, hdue⟩

theorem Tracked.elapse (h : world.Tracked) (duration : Nat) :
    { world with now := world.now + duration }.Tracked := by
  obtain ⟨hcurrent, hbound, hthrottled, hspaced⟩ := h.throttles
  refine ⟨⟨hcurrent, hbound, hthrottled, hspaced⟩, fun event notify hlast hactivates => ?_,
    h.confined⟩
  obtain ⟨hjob, hdue⟩ := h.waits event notify hlast hactivates
  exact ⟨hjob, hdue.imp_left fun hle => hle.trans (Nat.le_add_right ..)⟩

/-! ## A job runs -/

theorem eq_or_mem_eraseIdx {jobs : List ReleaseJob} {index : Nat} {job other : ReleaseJob}
    (hjob : jobs[index]? = some job) (hother : other ∈ jobs) :
    other = job ∨ other ∈ jobs.eraseIdx index := by
  obtain ⟨hindex, rfl⟩ := List.getElem?_eq_some_iff.1 hjob
  exact mem_cons.1 ((getElem_cons_eraseIdx_perm hindex).mem_iff.2 hother)

/-- The jobs of an event wait on while a job of another event runs. -/
theorem Waits.erase {event : MapEvent} {notify : EventNotify} (h : world.Waits event notify)
    {index : Nat} {job : ReleaseJob} (hjob : world.jobs[index]? = some job)
    (hevent : job.event ≠ event) :
    { world with jobs := world.jobs.eraseIdx index }.Waits event notify := by
  have hstays : ∀ other ∈ world.jobs, other.event = event →
      other ∈ world.jobs.eraseIdx index := by
    intro other hother heq
    refine (eq_or_mem_eraseIdx hjob hother).resolve_left ?_
    rintro rfl
    exact hevent heq
  obtain ⟨⟨other, hother, heq⟩, hdue⟩ := h
  refine ⟨⟨other, hstays other hother heq, heq⟩, hdue.imp_right ?_⟩
  rintro ⟨later, hlater, heq, hle⟩
  exact ⟨later, hstays later hlater heq, heq, hle⟩

/-- A job that finds its client's race either deactivates its event or leaves it to a later job. -/
theorem Tracked.runJob (h : world.Tracked) {index : Nat}
    (hfinds : ∀ job, world.jobs[index]? = some job → job.due ≤ world.now →
      world.JobFinds index job) : (world.runJob index).Tracked := by
  rw [EventWorld.runJob]
  cases hjob : world.jobs[index]? with
  | none => exact h
  | some job =>
    by_cases hdue : job.due ≤ world.now
    swap
    · dsimp only
      rw [if_neg hdue]
      exact h
    dsimp only
    rw [if_pos hdue]
    have hfind := hfinds job hjob hdue
    obtain ⟨room, hroom, hopen, hafter⟩ | ⟨hthrottled, hafter⟩ :=
      world.handleUserRaceDeactivateEvent_cases job.client job.event.eventId (some job.event)
    · -- It sends into its own race, whose other events it leaves alone.
      have hfound := (hfind.other room hroom).resolve_left hopen
      have hevent : world.event room job.event.eventId = job.event := by
        obtain rfl := some.inj (hroom.symm.trans hfound.1)
        exact congrArg (MapEvent.mk job.event.room · job.event.eventId) hfound.2
      rw [hafter]
      obtain ⟨hcurrent, hbound, hlast, hspaced⟩ :=
        h.throttles.broadcastEvent hopen false (some job.event)
      refine ⟨⟨hcurrent, hbound, hlast, hspaced⟩, ?_, forall_mem_cons.2
        ⟨fun event horigin => hevent.trans (some.inj horigin), h.confined⟩⟩
      intro event notify hlast hactivates
      have hlast := (lastNotify_broadcastEvent false (some job.event) event).symm.trans hlast
      split at hlast
      · obtain rfl := some.inj hlast
        cases hactivates
      · next hother =>
          rw [hevent] at hother
          obtain ⟨hjobs, hdues⟩ :=
            (h.waits event notify hlast hactivates).erase hjob (Ne.symm hother)
          exact ⟨hjobs, hdues⟩
    · rw [hafter]
      obtain ⟨hcurrent, hbound, hlast, hspaced⟩ := h.throttles
      refine ⟨⟨hcurrent, hbound, hlast, hspaced⟩, ?_, h.confined⟩
      intro event notify hnotify hactivates
      have hwaits := h.waits event notify hnotify hactivates
      by_cases hevent : job.event = event
      swap
      · exact hwaits.erase hjob hevent
      subst hevent
      by_cases hothers : ∀ other ∈ world.jobs.eraseIdx index, other.event ≠ job.event
      · -- The last job of an activation would run after its throttle has ended.
        have hactive : world.IsActive job.event := by
          rw [IsActive, show world.lastNotify job.event = some notify from hnotify]
          exact hactivates
        obtain ⟨hrace, hnumber⟩ := hfind.last hothers hactive
        have hdeadline := hlast job.event notify hnotify hnumber.symm
        have hlater := hthrottled _ hrace
        rw [isEventThrottled, hdeadline, any_some, decide_eq_true_eq] at hlater
        obtain hle | ⟨later, hmem, heq, hle⟩ := hwaits.due
        · exact absurd hle (Nat.not_le.2 hlater)
        · obtain rfl | herase := eq_or_mem_eraseIdx hjob hmem
          · exact absurd (hle.trans hdue) (Nat.not_le.2 hlater)
          · exact absurd heq (hothers later herase)
      · push Not at hothers
        refine ⟨hothers, hwaits.due.elim .inl ?_⟩
        rintro ⟨later, hmem, heq, hle⟩
        obtain rfl | herase := eq_or_mem_eraseIdx hjob hmem
        · exact .inl (hle.trans hdue)
        · exact .inr ⟨later, herase, heq, hle⟩

theorem Tracked.eventsReleased (h : world.Tracked) : world.EventsReleased := by
  refine ⟨h.throttles.spaced, fun event hnone hactive => ?_, h.confined⟩
  rw [EventWorld.IsActive, Option.any_eq_true] at hactive
  obtain ⟨notify, hlast, hactivates⟩ := hactive
  obtain ⟨job, hjob, hevent⟩ := (h.waits event notify hlast hactivates).job
  exact hnone job hjob hevent

/-- Only a job that finds what it needs keeps the events released. -/
theorem JobFinds.of_runJob {index : Nat} {job : ReleaseJob}
    (hjob : world.jobs[index]? = some job) (hdue : job.due ≤ world.now)
    (h : (world.runJob index).EventsReleased) : world.JobFinds index job := by
  rw [EventWorld.runJob, hjob] at h
  dsimp only at h
  rw [if_pos hdue] at h
  obtain ⟨room, hroom, hopen, hafter⟩ | ⟨hthrottled, hafter⟩ :=
    world.handleUserRaceDeactivateEvent_cases job.client job.event.eventId (some job.event)
  · rw [hafter] at h
    have hevent := h.confined _ (mem_cons_self ..) job.event rfl
    have hfound : world.FindsRace job.client job.event :=
      ⟨hevent ▸ hroom, hevent ▸ rfl⟩
    refine ⟨fun _ _ => hfound, fun other hother => .inr hfound⟩
  · rw [hafter] at h
    exact ⟨fun hothers hactive => absurd hactive (h.released job.event hothers),
      fun other hother => .inl (hthrottled other hother)⟩

end EventWorld

theorem tracked_stepEvent (identityHash : IdentityHash) {world : EventWorld} (step : EventStep)
    (h : world.Tracked) (hgood : ReleasesEvents world step) :
    (stepEvent identityHash world step).Tracked := by
  cases step with
  | serve input => exact h.serveInput identityHash input
  | activate client eventId elapsed =>
    rw [stepEvent]
    split
    · exact h.activate client eventId elapsed
    · exact h
  | deactivate client eventId =>
    rw [stepEvent]
    split
    · exact h.deactivate client eventId
    · exact h
  | runJob index => exact h.runJob hgood
  | elapse duration => exact h.elapse duration

/-- The events of a run are released just as long as each job that runs finds its client in its
race, or finds nothing that is left for it to do. -/
theorem eventsReleased_iff (identityHash : IdentityHash) (handler : NetworkHandler)
    (steps : List EventStep) :
    (∀ first second, steps = first ++ second →
      (run (stepEvent identityHash) { handler } first).EventsReleased) ↔
    Guarded (stepEvent identityHash) ReleasesEvents { handler } steps := by
  have hneeded : ∀ (world : EventWorld) step, world.Tracked →
      (stepEvent identityHash world step).EventsReleased → ReleasesEvents world step := by
    intro world step _ hafter
    cases step with
    | runJob index => exact fun job hjob hdue => .of_runJob hjob hdue hafter
    | _ => trivial
  have hbegins : EventWorld.Tracked { handler } :=
    ⟨⟨nofun, nofun, nofun, .nil⟩, nofun, nofun⟩
  exact (guarded_iff_prefixes (fun _ step h hgood => tracked_stepEvent identityHash step h hgood)
    (fun _ h => h.eventsReleased) hneeded hbegins).symm

/-- The racer disconnects before the job runs, and nothing else deactivates the event. -/
theorem event_left_active : ¬∀ first second, [EventStep.activate 5 7 0, .serve (.disconnect 5 0),
    .elapse eventThrottleDuration, .runJob 0] = first ++ second →
      (run (stepEvent fun _ _ => 0) { handler := racing } first).EventsReleased := by
  intro h
  have hreleased := (h _ [] (List.append_nil _).symm).released ⟨1, 0, 7⟩
  rw [EventWorld.IsActive] at hreleased
  exact hreleased (by decide +kernel) (by decide +kernel)

end Alicia.Race
