import Alicia.Race.Membership

/-!
# The order of a race

What a step of the server does to the race of a room.  The stages follow each other, and a racer only
moves on to a later state, exactly as long as no client starts a race that is running, or reports that a
racer has loaded or finished who has finished or left already.
-/

namespace Alicia.Race

open Std (ExtTreeMap ExtTreeSet)
open Data (Uid invalidUid Character Horse)
open Transition Transition.Effect Option Collection NetworkHandler
open NetworkHandler (removed succeeded closed roomless forgotten asked seated opened)

/-- The race after it has been played on a world. -/
def RaceInstance.left (race : RaceInstance) (world : World) : RaceInstance :=
  { race with
    racers := world.racers
    stage := world.stage
    parameters := world.parameters
    stageTimeout := world.stageTimeout
    raceStart := world.raceStart }

/-- What a step does to the race of a room. -/
inductive RaceChange (handler : NetworkHandler) (roomUid : UInt32) :
    ServerInput → RaceInstance → RaceInstance → Prop where
  | same (input : ServerInput) (race : RaceInstance) : RaceChange handler roomUid input race race
  | dropped (input : ServerInput) (race : RaceInstance) (characterUid : Uid)
      (hother : ∀ client lookups, input ≠ .command client (.startRace lookups)) :
      RaceChange handler roomUid input race (race.modifyRacer characterUid (·.setState .disconnected))
  | restarted (client : ClientId) (lookups : StartLookups) {context : ClientContext}
      {race after : RaceInstance} {room : Room} (hin : client ∈ handler.connected)
      (hstarts : Starts handler client context race room)
      (hroom : context.roomUid = roomUid) (hstage : after.stage = race.stage ∨ after.stage = .loading) :
      RaceChange handler roomUid (.command client (.startRace lookups)) race after
  | loaded (client : ClientId) {context : ClientContext} {race : RaceInstance} {racer : Racer}
      (hin : client ∈ handler.connected) (hrides : Rides handler client context race racer)
      (hroom : context.roomUid = roomUid) :
      RaceChange handler roomUid (.command client .loadingComplete) race
        (race.modifyRacer context.characterUid (·.setState .racing))
  | finished (client : ClientId) (command : UserRaceFinal) {context : ClientContext}
      {race : RaceInstance} {racer : Racer} (hin : client ∈ handler.connected)
      (hrides : Rides handler client context race racer) (hroom : context.roomUid = roomUid) :
      RaceChange handler roomUid (.command client (.userRaceFinal command)) race
        (race.modifyRacer context.characterUid command.apply)
  | ticked (now : Instant) {race : RaceInstance} {world : World}
      (hticked : Ticked now (handler.world roomUid race) world) :
      RaceChange handler roomUid (.tick roomUid now) race (race.left world)

variable (first : Uid)

/-! ## Lookups of races -/

section Lookups

variable {handler : NetworkHandler} {context : ClientContext}

theorem raceInstances_modifyRace (roomUid other : UInt32) (change : RaceInstance → RaceInstance) :
    (handler.modifyRace roomUid change).raceInstances[other]? =
      if other = roomUid then handler.raceInstances[roomUid]?.map change
      else handler.raceInstances[other]? := by
  by_cases hsame : other = roomUid
  · subst hsame
    rw [if_pos rfl, modifyRace]
    cases hrace : handler.raceInstances[other]? with
    | none => exact hrace
    | some race => exact (getElem?_insert_self_or_ne _ _ _ _).trans (if_pos rfl)
  · rw [if_neg hsame, modifyRace]
    split
    · rfl
    · exact (getElem?_insert_self_or_ne _ _ _ _).trans (if_neg hsame)

theorem raceInstances_modifyRoom (roomUid : UInt32) (change : Room → Room) :
    (handler.modifyRoom roomUid change).raceInstances = handler.raceInstances := by
  unfold NetworkHandler.modifyRoom
  split
  · rfl
  · rfl

theorem raceInstances_succeeded (room : Room) :
    (handler.succeeded first context room).raceInstances = handler.raceInstances := by
  unfold succeeded
  split
  · split
    · rfl
    · exact raceInstances_modifyRoom _ _
  · rfl

/-- Closing a room deletes its race at most. -/
theorem raceInstances_closed {roomUid other : UInt32} {race : RaceInstance}
    (h : (handler.closed roomUid).raceInstances[other]? = some race) :
    handler.raceInstances[other]? = some race := by
  unfold closed at h
  split at h
  · exact h
  · split at h
    · exact h
    · rw [closeRoom, getElem?_erase_self_or_ne] at h
      split at h
      · cases h
      · exact h

theorem raceInstances_play (roomUid other : UInt32) (part : World → World) :
    (handler.play roomUid part).raceInstances[other]? =
      if other = roomUid then
        handler.raceInstances[roomUid]?.map fun race => race.left (part (handler.world roomUid race))
      else handler.raceInstances[other]? := by
  by_cases hsame : other = roomUid
  · subst hsame
    rw [if_pos rfl, play]
    cases hrace : handler.raceInstances[other]? with
    | none => exact hrace
    | some race => exact (getElem?_insert_self_or_ne _ _ _ _).trans (if_pos rfl)
  · rw [if_neg hsame, play]
    split
    · rfl
    · exact (getElem?_insert_self_or_ne _ _ _ _).trans (if_neg hsame)

theorem raceInstances_modifyRacer (context : ClientContext) (other : UInt32) (change : Racer → Racer) :
    (handler.modifyRacer context change).raceInstances[other]? =
      if other = context.roomUid then
        handler.raceInstances[context.roomUid]?.map (·.modifyRacer context.characterUid change)
      else handler.raceInstances[other]? := raceInstances_modifyRace _ _ _

/-- A racer of the client's race changes at most. -/
theorem race_of_modifyRacer {change : Racer → Racer} {roomUid : UInt32} {after : RaceInstance}
    (h : (handler.modifyRacer context change).raceInstances[roomUid]? = some after) :
    ∃ race, handler.raceInstances[roomUid]? = some race ∧ (after = race ∨
      context.roomUid = roomUid ∧ after = race.modifyRacer context.characterUid change) := by
  rw [raceInstances_modifyRacer] at h
  split at h
  · next hsame =>
      obtain ⟨race, hrace, rfl⟩ := map_eq_some_iff.1 h
      exact ⟨race, hsame ▸ hrace, .inr ⟨hsame.symm, rfl⟩⟩
  · exact ⟨after, h, .inl rfl⟩

/-- A racer who leaves is disconnected. -/
theorem race_of_leave (client : ClientId) {roomUid : UInt32} {after : RaceInstance}
    (h : ((handleLeaveRoom first client).final handler).raceInstances[roomUid]? = some after) :
    ∃ race, handler.raceInstances[roomUid]? = some race ∧ (after = race ∨
      ∃ characterUid, after = race.modifyRacer characterUid (·.setState .disconnected)) := by
  have hdropped {context : ClientContext}
      (h : (handler.modifyRacer context (·.setState .disconnected)).raceInstances[roomUid]? =
        some after) : ∃ race, handler.raceInstances[roomUid]? = some race ∧ (after = race ∨
      ∃ characterUid, after = race.modifyRacer characterUid (·.setState .disconnected)) := by
    obtain ⟨race, hrace, hafter | ⟨-, hafter⟩⟩ := race_of_modifyRacer h
    · exact ⟨race, hrace, .inl hafter⟩
    · exact ⟨race, hrace, .inr ⟨_, hafter⟩⟩
  have houtcome := handleLeaveRoom_outcome first client handler
  generalize (handleLeaveRoom first client).final handler = left at houtcome h
  cases houtcome with
  | refused hrefused => exact ⟨after, h, .inl rfl⟩
  | deleted context hleaves hroom => exact hdropped h
  | stuck context hleaves room hroom hmaster candidateUid hcandidate hlost =>
    exact @hdropped context h
  | left context hleaves room hroom =>
    have hremoved := @raceInstances_closed ((handler.removed context room).succeeded first context room)
      _ _ _ h
    rw [raceInstances_succeeded] at hremoved
    exact @hdropped context hremoved

end Lookups

/-! ## Steps -/

/-- A race that is there after a step has just been created, or has changed in one of these ways. -/
def Evolved (handler : NetworkHandler) (roomUid : UInt32) (input : ServerInput) (after : RaceInstance) :
    Prop :=
  handler.raceInstances[roomUid]? = none ∧ after = {} ∨
    ∃ race, handler.raceInstances[roomUid]? = some race ∧ RaceChange handler roomUid input race after

section Steps

variable {identityHash : IdentityHash} {handler : NetworkHandler} {roomUid : UInt32}
  {input : ServerInput} {after : RaceInstance}

theorem Evolved.of_same (h : handler.raceInstances[roomUid]? = some after) :
    Evolved handler roomUid input after := .inr ⟨after, h, .same input after⟩

theorem evolved_of_leave (client : ClientId)
    (hother : ∀ client lookups, input ≠ .command client (.startRace lookups))
    (h : ((handleLeaveRoom first client).final handler).raceInstances[roomUid]? = some after) :
    Evolved handler roomUid input after := by
  obtain ⟨race, hrace, rfl | ⟨characterUid, rfl⟩⟩ := race_of_leave first client h
  · exact .of_same hrace
  · exact .inr ⟨race, hrace, .dropped input race characterUid hother⟩

variable {client : ClientId}

theorem evolved_of_enter {lookups : EnterLookups} {command : EnterRoom}
    (h : ((handleEnterRoom identityHash lookups client command).final
      handler).raceInstances[roomUid]? = some after) : Evolved handler roomUid input after := by
  have houtcome := handleEnterRoom_outcome identityHash lookups client command handler
  generalize (handleEnterRoom identityHash lookups client command).final handler = entered
    at houtcome h
  cases houtcome with
  | refused hrefused => exact .of_same h
  | nowhere hright hroom => exact .of_same h
  | turnedAway hright room hroom haccepts => exact .of_same h
  | offline hright room hroom haccepts => exact .of_same h
  | entered hright room hroom haccepts =>
    unfold opened at h
    split at h
    · exact .of_same h
    · next hfresh =>
        rw [raceInstances_modifyRoom, setRace,
          getElem?_insert_self_or_ne] at h
        split at h
        · next hsame =>
            cases h
            rw [hsame]
            exact .inl ⟨Std.ExtTreeMap.getElem?_eq_none hfresh, rfl⟩
        · exact .of_same h

theorem start_stage (parameters : Parameters) (prepared : Bool) (now : Instant) (world : World) :
    (start parameters prepared now world).stage = world.stage ∨
      (start parameters prepared now world).stage = .loading := by
  unfold start
  split
  · exact .inr rfl
  · exact .inl rfl

theorem race_of_startRace {lookups : StartLookups} {inRoom : UInt32} {room : Room}
    (h : (handler.startRace lookups inRoom room).raceInstances[roomUid]? = some after) :
    ∃ race, handler.raceInstances[roomUid]? = some race ∧ (after = race ∨
      inRoom = roomUid ∧ (after.stage = race.stage ∨ after.stage = .loading)) := by
  rw [startRace, raceInstances_play, raceInstances_modifyRace,
    raceInstances_modifyRace] at h
  split at h
  · next hsame =>
      rw [if_pos rfl] at h
      obtain ⟨cleared, hcleared, rfl⟩ := map_eq_some_iff.1 h
      obtain ⟨race, hrace, rfl⟩ := map_eq_some_iff.1 hcleared
      exact ⟨race, hsame ▸ hrace, .inr ⟨hsame.symm, start_stage _ _ _ _⟩⟩
  · exact ⟨after, h, .inl rfl⟩

theorem evolved_of_start {lookups : StartLookups} (hin : client ∈ handler.connected)
    (h : ((handleStartRace lookups client).final handler).raceInstances[roomUid]? = some after) :
    Evolved handler roomUid (.command client (.startRace lookups)) after := by
  have houtcome := handleStartRace_outcome lookups client handler
  generalize (handleStartRace lookups client).final handler = started at houtcome h
  have hevolved {context : ClientContext} {race found : RaceInstance} {room : Room}
      (hstarts : Starts handler client context race room)
      (hfound : handler.raceInstances[roomUid]? = some found)
      (hchanged : after = found ∨
        context.roomUid = roomUid ∧ (after.stage = found.stage ∨ after.stage = .loading)) :
      Evolved handler roomUid (.command client (.startRace lookups)) after := by
    obtain rfl | ⟨hroom, hstage⟩ := hchanged
    · exact .of_same hfound
    · have hsame : race = found :=
        Option.some.inj ((hroom ▸ hstarts.running).symm.trans hfound)
      exact .inr ⟨found, hfound, .restarted client lookups hin (hsame ▸ hstarts) hroom hstage⟩
  cases houtcome with
  | refused => exact .of_same h
  | cancelled context race room hstarts hprepared =>
    obtain ⟨found, hfound, hchanged⟩ := race_of_startRace h
    exact hevolved hstarts hfound hchanged
  | started context race room hstarts hprepared =>
    replace h : ((handler.startRace lookups context.roomUid room).modifyRace context.roomUid
        _).raceInstances[roomUid]? = some after := h
    rw [raceInstances_modifyRace] at h
    split at h
    · next hsame =>
        obtain ⟨begun, hbegun, rfl⟩ := map_eq_some_iff.1 h
        obtain ⟨found, hfound, hchanged⟩ := race_of_startRace hbegun
        refine hevolved hstarts (hsame ▸ hfound) (.inr ⟨hsame.symm, ?_⟩)
        obtain rfl | ⟨-, hstage⟩ := hchanged
        · exact .inl rfl
        · exact hstage
    · obtain ⟨found, hfound, hchanged⟩ := race_of_startRace h
      exact hevolved hstarts hfound hchanged

theorem evolved_of_handle {command : Command} (hin : client ∈ handler.connected)
    (h : (handle identityHash handler client command).raceInstances[roomUid]? = some after) :
    Evolved handler roomUid (.command client command) after := by
  have hsame (h : handler.raceInstances[roomUid]? = some after) :
      Evolved handler roomUid (.command client command) after := .of_same h
  revert h
  cases command with
  | enterRoom lookups command => exact evolved_of_enter
  | leaveRoom first => exact evolved_of_leave first client (by simp)
  | kick first firstClient characterUid =>
    refine (handleKickUser_outcome first firstClient client characterUid handler).elim
      (P := fun changed => changed.raceInstances[roomUid]? = some after → _) hsame ?_
    rintro _ ⟨_, _, _, targetClient, -, -, -, -, -, -, -, -, rfl⟩
    exact evolved_of_leave first targetClient (by simp)
  | readyRace =>
    refine (handleReadyRace_outcome client handler).elim
      (P := fun changed => changed.raceInstances[roomUid]? = some after → _) hsame ?_
    rintro _ ⟨_, _, _, -, -, -, rfl⟩
    exact hsame
  | changeTeam command =>
    refine (handleChangeTeam_outcome client command handler).elim
      (P := fun changed => changed.raceInstances[roomUid]? = some after → _) hsame ?_
    rintro _ ⟨_, _, _, -, -, -, rfl⟩
    exact hsame
  | changeRoomOptions command =>
    refine (handleChangeRoomOptions_outcome client command handler).elim
      (P := fun changed => changed.raceInstances[roomUid]? = some after → _) hsame ?_
    rintro _ ⟨_, _, -, -, rfl⟩
    exact hsame
  | startRace lookups => exact evolved_of_start hin
  | loadingComplete =>
    refine (handleLoadingComplete_outcome client handler).elim
      (P := fun changed => changed.raceInstances[roomUid]? = some after → _) hsame ?_
    rintro _ ⟨context, race, racer, hrides, rfl⟩ h
    obtain ⟨found, hfound, rfl | ⟨hroom, rfl⟩⟩ := race_of_modifyRacer h
    · exact hsame hfound
    · have hrace : race = found := Option.some.inj ((hroom ▸ hrides.running).symm.trans hfound)
      exact .inr ⟨found, hfound, .loaded client hin (hrace ▸ hrides) hroom⟩
  | userRaceFinal command =>
    refine (handleUserRaceFinal_outcome client command handler).elim
      (P := fun changed => changed.raceInstances[roomUid]? = some after → _) hsame ?_
    rintro _ ⟨context, race, racer, hrides, rfl⟩ h
    obtain ⟨found, hfound, rfl | ⟨hroom, rfl⟩⟩ := race_of_modifyRacer h
    · exact hsame hfound
    · have hrace : race = found := Option.some.inj ((hroom ▸ hrides.running).symm.trans hfound)
      exact .inr ⟨found, hfound, .finished client command hin (hrace ▸ hrides) hroom⟩

theorem evolved_of_disconnect (client : ClientId)
    (hother : ∀ client lookups, input ≠ .command client (.startRace lookups))
    (h : ((handleClientDisconnected first client).final handler).raceInstances[roomUid]? = some after)
    :
    Evolved handler roomUid input after := by
  have houtcome := handleClientDisconnected_outcome first client handler
  generalize (handleClientDisconnected first client).final handler = gone at houtcome h
  cases houtcome with
  | unknown hunknown => exact .of_same h
  | idle context hcontext hidle => exact .of_same h
  | failed context hcontext => exact evolved_of_leave first client hother h
  | gone context hcontext => exact evolved_of_leave first client hother h

/-- What a step does to the races. -/
theorem evolved_of_serve
    (h : (serve identityHash handler input).raceInstances[roomUid]? = some after) :
    Evolved handler roomUid input after := by
  cases input with
  | connect client =>
    obtain ⟨-, hkept⟩ := handleClientConnected_rooms client handler
    exact .of_same ((congrArg (·[roomUid]?) hkept).symm.trans h)
  | disconnect client first =>
    rw [serve] at h
    split at h
    · exact evolved_of_disconnect first client (by simp) h
    · exact .of_same h
  | command client command =>
    rw [serve] at h
    split at h
    · next hin => exact evolved_of_handle hin h
    · exact .of_same h
  | tick inRoom now =>
    rw [serve, raceInstances_play] at h
    split at h
    · next hsame =>
        subst hsame
        obtain ⟨race, hrace, rfl⟩ := map_eq_some_iff.1 h
        exact .inr ⟨race, hrace, .ticked now (tick_ticked now _)⟩
    · exact .of_same h
  | createRoom details characterUid => exact .of_same h
  | queuePlayer inRoom characterUid => exact .of_same (raceInstances_modifyRoom inRoom _ ▸ h)
  | dequeuePlayer inRoom characterUid => exact .of_same (raceInstances_modifyRoom inRoom _ ▸ h)
  | grantCode characterUid inRoom now code => exact .of_same h
  | outside records => exact .of_same h

end Steps

/-! ## Stages -/

/-- A race is started only while it waits. -/
def WaitsToStart (handler : NetworkHandler) : ServerInput → Prop
  | .command client (.startRace _) =>
    client ∈ handler.connected → ∀ context ∈ handler.clients[client]?,
      ∀ race ∈ handler.raceInstances[context.roomUid]?, ∀ room ∈ handler.rooms[context.roomUid]?,
        Starts handler client context race room → race.stage = .waiting
  | _ => True

/-- The step moves no race further than to its next stage, and starts only a race that waits. -/
def StepsInOrder (identityHash : IdentityHash) (handler : NetworkHandler) (input : ServerInput) : Prop :=
  ∀ (roomUid : UInt32) (race after : RaceInstance), handler.raceInstances[roomUid]? = some race →
    (serve identityHash handler input).raceInstances[roomUid]? = some after →
    (after.stage = race.stage ∨ after.stage = race.stage.next) ∧
      ∀ client lookups, input = .command client (.startRace lookups) →
        race.stage ≠ .waiting → after = race

theorem stage_modifyRacer (race : RaceInstance) (characterUid : Uid) (change : Racer → Racer) :
    (race.modifyRacer characterUid change).stage = race.stage := by
  unfold RaceInstance.modifyRacer
  split
  · rfl
  · rfl

theorem stepsInOrder_of_waits {identityHash : IdentityHash} {handler : NetworkHandler}
    {input : ServerInput} (hwaits : WaitsToStart handler input) :
    StepsInOrder identityHash handler input := by
  intro roomUid race after hrace hafter
  obtain ⟨hnone, -⟩ | ⟨found, hfound, hchange⟩ := evolved_of_serve hafter
  · cases hnone.symm.trans hrace
  · cases hfound.symm.trans hrace
    cases hchange with
    | same => exact ⟨.inl rfl, fun _ _ _ _ => rfl⟩
    | dropped input race characterUid hother =>
      exact ⟨.inl (stage_modifyRacer _ _ _),
        fun client lookups hinput => absurd hinput (hother client lookups)⟩
    | restarted client lookups hin hstarts hroom hstage =>
      have hwaiting := hwaits hin _ hstarts.owns.connected _ hstarts.running _ hstarts.found hstarts
      refine ⟨hstage.imp_right fun hloading => ?_, fun _ _ _ hnot => absurd hwaiting hnot⟩
      rw [hloading, hwaiting]
      rfl
    | loaded client hin hrides hroom =>
      refine ⟨.inl (stage_modifyRacer _ _ _), fun _ _ hinput => ?_⟩
      cases hinput
    | finished client command hin hrides hroom =>
      refine ⟨.inl (stage_modifyRacer _ _ _), fun _ _ hinput => ?_⟩
      cases hinput
    | ticked now hticked =>
      refine ⟨hticked.stage.imp_right And.right, fun _ _ hinput => ?_⟩
      cases hinput

/-- Along a run in which no running race is started, the stages of every race follow each other, and a
race in progress is never cleared. -/
theorem stages_in_order (identityHash : IdentityHash) (handler : NetworkHandler)
    (inputs : List ServerInput) (hwaits : Guarded (serve identityHash) WaitsToStart handler inputs) :
    Guarded (serve identityHash) (StepsInOrder identityHash) handler inputs :=
  hwaits.mono fun _ _ => stepsInOrder_of_waits

/-- The master starts the race of its room, which is prepared, and loads. -/
def startedRun : List ServerInput :=
  [.outside { characters := (∅ : ExtTreeMap Uid Character).insert 1 {}
              onlineCharacters := (∅ : ExtTreeSet Uid).insert 1
              mapBlocks := (∅ : ExtTreeMap UInt32 MapBlockInfo).insert 0 { waitTime := 1, timeLimit := 9 } },
    .createRoom { maxPlayerCount := 8 } 1, .grantCode 1 1 0 42, .connect 5,
    .command 5 (.enterRoom {} ⟨1, 1, 42⟩), .command 5 (.startRace {})]

/-- A condition on what is found for a client holds if it holds of what a lookup finds. -/
theorem waitsToStart_of_context {handler : NetworkHandler} {client : ClientId} {lookups : StartLookups}
    {roomUid : UInt32} (hroom : handler.clients[client]?.map ClientContext.roomUid = some roomUid)
    (hstage : handler.raceInstances[roomUid]?.map RaceInstance.stage = some .waiting) :
    WaitsToStart handler (.command client (.startRace lookups)) := by
  intro _ context hcontext race hrace _ _ _
  rw [hcontext] at hroom
  cases hroom
  rw [hrace] at hstage
  exact Option.some.inj hstage

theorem stages_in_order_startedRun :
    Guarded (serve fun _ _ => 0) (StepsInOrder fun _ _ => 0) {} startedRun :=
  stages_in_order (fun _ _ => 0) {} startedRun
    ⟨trivial, trivial, trivial, trivial, trivial,
      @waitsToStart_of_context _ _ _ 1 (by decide +kernel) (by decide +kernel), trivial⟩

/-- The master starts the race again while everybody races. -/
theorem restart_not_in_order : ¬Guarded (serve fun _ _ => 0) (StepsInOrder fun _ _ => 0) {}
    (startedRun ++ [.command 5 .loadingComplete, .tick 1 0, .command 5 (.startRace {})]) := by
  intro h
  have hstep := (guarded_append.1 h).2.2.2.1
  have hbefore : (run (serve fun _ _ => 0) {} (startedRun ++
      [.command 5 .loadingComplete, .tick 1 0])).raceInstances[(1 : UInt32)]?.map
        RaceInstance.stage = some .racing := by decide +kernel
  have hafter : (run (serve fun _ _ => 0) {} (startedRun ++ [.command 5 .loadingComplete, .tick 1 0,
      .command 5 (.startRace {})])).raceInstances[(1 : UInt32)]?.map
        RaceInstance.stage = some .loading := by decide +kernel
  obtain ⟨race, hrace, hracing⟩ := Option.map_eq_some_iff.1 hbefore
  obtain ⟨after, hstarted, hloading⟩ := Option.map_eq_some_iff.1 hafter
  obtain ⟨hstage, -⟩ := hstep 1 race after hrace hstarted
  rw [hracing, hloading] at hstage
  revert hstage
  decide

/-! ## Racers -/

def RacerState.rank : RacerState → Nat
  | .loading => 0
  | .racing => 1
  | .finishing => 2
  | .disconnected => 3

/-- The state does not move back, and the course time stays once there is one. -/
structure Racer.AdvancesTo (before after : Racer) : Prop where
  state : before.state.rank ≤ after.state.rank
  courseTime : RacerState.finishing.rank ≤ before.state.rank → after.courseTime = before.courseTime

instance : Std.Refl Racer.AdvancesTo := ⟨fun _ => ⟨Nat.le_refl _, fun _ => rfl⟩⟩

instance : IsTrans Racer Racer.AdvancesTo where
  trans _ _ _ h g := {
    state := h.state.trans g.state
    courseTime := fun hdone =>
      (g.courseTime (hdone.trans h.state)).trans (h.courseTime hdone) }

/-- A racer is reported to have loaded or finished only before it has finished or left. -/
def ReportsForward (handler : NetworkHandler) : ServerInput → Prop
  | .command client .loadingComplete => underway client
  | .command client (.userRaceFinal _) => underway client
  | _ => True
where
  underway (client : ClientId) : Prop :=
    client ∈ handler.connected → ∀ context ∈ handler.clients[client]?,
      ∀ race ∈ handler.raceInstances[context.roomUid]?,
        ∀ racer ∈ race.racers[context.characterUid]?,
          Rides handler client context race racer → racer.state = .loading ∨ racer.state = .racing

/-- The step clears the tracker of the room. -/
def ClearsTracker (handler : NetworkHandler) (roomUid : UInt32) : ServerInput → Prop
  | .command client (.startRace _) => client ∈ handler.connected ∧ ∃ context race room,
      Starts handler client context race room ∧ context.roomUid = roomUid
  | _ => False

def NetworkHandler.racer (handler : NetworkHandler) (roomUid : UInt32) (uid : Uid) : Option Racer :=
  handler.raceInstances[roomUid]?.bind fun race => race.racers[uid]?

section Racers

variable {handler : NetworkHandler} {roomUid : UInt32} {input : ServerInput}

theorem racers_modifyRacer (race : RaceInstance) (characterUid : Uid) (change : Racer → Racer)
    (uid : Uid) : (race.modifyRacer characterUid change).racers[uid]? =
      if uid = characterUid then race.racers[characterUid]?.map change else race.racers[uid]? := by
  by_cases hsame : uid = characterUid
  · subst hsame
    rw [if_pos rfl, RaceInstance.modifyRacer]
    cases hracer : race.racers[uid]? with
    | none => exact hracer
    | some racer => exact (getElem?_insert_self_or_ne _ _ _ _).trans (if_pos rfl)
  · rw [if_neg hsame, RaceInstance.modifyRacer]
    split
    · rfl
    · exact (getElem?_insert_self_or_ne _ _ _ _).trans (if_neg hsame)

/-- A change that advances the racer it is made to advances every racer. -/
theorem advances_modifyRacer {race : RaceInstance} {characterUid : Uid} {change : Racer → Racer}
    (hchange : ∀ racer, race.racers[characterUid]? = some racer → racer.AdvancesTo (change racer))
    {uid : Uid} {last : Racer} (h : (race.modifyRacer characterUid change).racers[uid]? = some last) :
    ∃ first, race.racers[uid]? = some first ∧ first.AdvancesTo last := by
  rw [racers_modifyRacer] at h
  split at h
  · next hsame =>
      obtain ⟨first, hfirst, rfl⟩ := map_eq_some_iff.1 h
      exact ⟨first, hsame ▸ hfirst, hchange first hfirst⟩
  · exact ⟨last, h, refl_of Racer.AdvancesTo last⟩

theorem advances_disconnected (racer : Racer) : racer.AdvancesTo (racer.setState .disconnected) := by
  refine ⟨?_, fun _ => rfl⟩
  show racer.state.rank ≤ 3
  cases racer.state <;> decide

theorem advances_dropUnloaded (racer : Racer) : racer.AdvancesTo (dropUnloaded racer) := by
  unfold dropUnloaded
  split
  · exact advances_disconnected racer
  · exact refl_of Racer.AdvancesTo racer

/-- A racer that is underway may be written to, if its state is not moved back. -/
theorem advances_of_underway {before after : Racer}
    (hbefore : before.state = .loading ∨ before.state = .racing)
    (hafter : RacerState.racing.rank ≤ after.state.rank) : before.AdvancesTo after := by
  have hrank : before.state.rank ≤ RacerState.racing.rank := by
    obtain h | h := hbefore
    · rw [h]
      decide
    · rw [h]
  refine ⟨hrank.trans hafter, fun hdone => ?_⟩
  exact absurd (hdone.trans hrank) (by decide)

theorem advances_of_raceChange {race after : RaceInstance}
    (hchange : RaceChange handler roomUid input race after) (hforward : ReportsForward handler input)
    (hkept : ¬ClearsTracker handler roomUid input) {uid : Uid} {last : Racer}
    (h : after.racers[uid]? = some last) :
    ∃ first, race.racers[uid]? = some first ∧ first.AdvancesTo last := by
  cases hchange with
  | same => exact ⟨last, h, refl_of Racer.AdvancesTo last⟩
  | dropped input race characterUid hother =>
    exact advances_modifyRacer (fun racer _ => advances_disconnected racer) h
  | restarted client lookups hin hstarts hroom hstage =>
    exact absurd ⟨hin, _, _, _, hstarts, hroom⟩ hkept
  | loaded client hin hrides hroom =>
    refine advances_modifyRacer (fun racer hracer => ?_) h
    cases hrides.riding.symm.trans hracer
    exact advances_of_underway
      (hforward hin _ hrides.owns.connected _ hrides.running _ hracer hrides) (Nat.le_refl _)
  | finished client command hin hrides hroom =>
    refine advances_modifyRacer (fun racer hracer => ?_) h
    cases hrides.riding.symm.trans hracer
    exact advances_of_underway
      (hforward hin _ hrides.owns.connected _ hrides.running _ hracer hrides)
      (show RacerState.racing.rank ≤ RacerState.finishing.rank by decide)
  | ticked now hticked =>
    obtain hracers | ⟨-, hracers⟩ := hticked.racers
    · exact ⟨last, (congrArg (·[uid]?) hracers).symm.trans h, refl_of Racer.AdvancesTo last⟩
    · replace h : (race.racers.map fun _ => dropUnloaded)[uid]? = some last := by
        rw [← h]
        exact congrArg (·[uid]?) hracers.symm
      rw [ExtTreeMap.getElem?_map] at h
      obtain ⟨first, hfirst, rfl⟩ := map_eq_some_iff.1 h
      exact ⟨first, hfirst, advances_dropUnloaded first⟩

theorem advances_of_serve {identityHash : IdentityHash} (hforward : ReportsForward handler input)
    (hkept : ¬ClearsTracker handler roomUid input) {uid : Uid} {last : Racer}
    (h : (serve identityHash handler input).racer roomUid uid = some last) :
    ∃ first, handler.racer roomUid uid = some first ∧ first.AdvancesTo last := by
  obtain ⟨after, hafter, hlast⟩ := bind_eq_some_iff.1 h
  obtain ⟨-, rfl⟩ | ⟨race, hrace, hchange⟩ := evolved_of_serve hafter
  · rw [show ({} : RaceInstance).racers = ∅ from rfl, ExtTreeMap.getElem?_empty] at hlast
    cases hlast
  · obtain ⟨first, hfirst, hadvances⟩ := advances_of_raceChange hchange hforward hkept hlast
    exact ⟨first, bind_eq_some_iff.2 ⟨race, hrace, hfirst⟩, hadvances⟩

end Racers

/-- Along a run that does not clear the tracker of a room, and in which no racer is reported to have
loaded or finished after it has finished or left, every racer of the room only advances. -/
theorem racers_only_advance (identityHash : IdentityHash) (roomUid : UInt32) (handler : NetworkHandler)
    (inputs : List ServerInput)
    (hgood : Guarded (serve identityHash)
      (fun handler input => ReportsForward handler input ∧ ¬ClearsTracker handler roomUid input)
      handler inputs) (uid : Uid) (last : Racer)
    (h : (run (serve identityHash) handler inputs).racer roomUid uid = some last) :
    ∃ first, handler.racer roomUid uid = some first ∧ first.AdvancesTo last := by
  induction inputs generalizing handler with
  | nil => exact ⟨last, h, refl_of Racer.AdvancesTo last⟩
  | cons input rest ih =>
    obtain ⟨⟨hforward, hkept⟩, hrest⟩ := hgood
    obtain ⟨middle, hmiddle, hlater⟩ := ih _ hrest h
    obtain ⟨first, hfirst, hsooner⟩ := advances_of_serve hforward hkept hmiddle
    exact ⟨first, hfirst, trans_of Racer.AdvancesTo hsooner hlater⟩

theorem underway_of_racer {handler : NetworkHandler} {client : ClientId} {context : ClientContext}
    (hcontext : handler.clients[client]? = some context)
    (hracer : ∀ racer ∈ handler.racer context.roomUid context.characterUid,
      racer.state = .loading ∨ racer.state = .racing) : ReportsForward.underway handler client := by
  intro _ other hother race hrace racer hfound _
  cases hcontext.symm.trans hother
  exact hracer racer (bind_eq_some_iff.2 ⟨race, hrace, hfound⟩)

/-- The racer loads and finishes. -/
theorem racers_only_advance_startedRun :
    ∃ first, (run (serve fun _ _ => 0) {} startedRun).racer 1 1 = some first ∧
      first.AdvancesTo { state := .finishing, team := .solo, courseTime := 7 } := by
  refine racers_only_advance (fun _ _ => 0) 1 _
    [.command 5 .loadingComplete, .command 5 (.userRaceFinal { courseTime := 7 })] ?_ 1 _
    (by decide +kernel)
  refine ⟨⟨@underway_of_racer _ _ ⟨1, 1, true⟩ (by decide +kernel) ?_, id⟩,
    ⟨@underway_of_racer _ _ ⟨1, 1, true⟩ (by decide +kernel) ?_, id⟩, trivial⟩
  · exact @of_decide_eq_true _ (Option.decidableForallMem _) (by decide +kernel)
  · exact @of_decide_eq_true _ (Option.decidableForallMem _) (by decide +kernel)

/-- A racer who has finished reports that it has loaded, and races again. -/
theorem finisher_races_again : ¬∀ last,
    (run (serve fun _ _ => 0) {} (startedRun ++ [.command 5 (.userRaceFinal { courseTime := 7 }),
      .command 5 .loadingComplete])).racer 1 1 = some last →
    ∃ first, (run (serve fun _ _ => 0) {} (startedRun ++
      [.command 5 (.userRaceFinal { courseTime := 7 })])).racer 1 1 = some first ∧
      first.AdvancesTo last := by
  intro h
  obtain ⟨first, hfirst, hadvances⟩ := h { state := .racing, team := .solo, courseTime := 7 }
    (by decide +kernel)
  have hfinished : first = { state := .finishing, team := .solo, courseTime := 7 } :=
    Option.some.inj (hfirst.symm.trans (by decide +kernel))
  have hstate := hadvances.state
  rw [hfinished] at hstate
  revert hstate
  decide

end Alicia.Race
