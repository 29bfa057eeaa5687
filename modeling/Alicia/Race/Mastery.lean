import Alicia.Race.Order

/-!
# The master of a room

Every race has a room with players, and while the race waits the master is one of them, as long as the
successor of a master who leaves can be looked up, and every race ends with its master or one of its
racers in the room.
-/

namespace Alicia.Race

open Std (ExtTreeMap ExtTreeSet)
open Data (Uid invalidUid Character Horse)
open Transition Transition.Effect Option Std Collection NetworkHandler Room
open NetworkHandler (removed Found succeeded closed roomless forgotten asked seated opened)

/-- The room has players, and while its race waits the master is one of them. -/
structure Headed (race : RaceInstance) (room : Room) : Prop where
  populated : room.players ≠ ∅
  master : race.stage = .waiting → room.details.masterUid ∈ room.players

/-- Every race has a room, which is headed. -/
def Led (handler : NetworkHandler) : Prop :=
  ∀ (roomUid : UInt32) (race : RaceInstance), handler.raceInstances[roomUid]? = some race →
    ∃ room, handler.rooms[roomUid]? = some room ∧ Headed race room

/-! ## Conditions -/

/-- The successor of a master who leaves, while the race waits or as the last player, can be looked up. -/
def SuccessorFound (handler : NetworkHandler) (first : Uid) (client : ClientId) : Prop :=
  ∀ context race room, Leaves handler client context →
    handler.raceInstances[context.roomUid]? = some race →
    handler.rooms[context.roomUid]? = some room →
    room.details.masterUid = context.characterUid →
    race.stage = .waiting ∨ (room.removePlayer context.characterUid).players = ∅ →
    ∀ candidateUid, (handler.removed context room).candidate first context.roomUid = some candidateUid →
      (handler.removed context room).Found candidateUid

/-- The master of a room may kick the character, which the client plays. -/
structure Kicks (handler : NetworkHandler) (client : ClientId) (firstClient : ClientId)
    (characterUid : Uid) (targetClient : ClientId) : Prop where
  allowed : ∃ context room target, Owns handler client context ∧
    handler.rooms[context.roomUid]? = some room ∧ context.characterUid = room.details.masterUid ∧
    characterUid ≠ context.characterUid ∧ room.hasPlayer characterUid ∧
    handler.getCharacter characterUid = .ok target ∧ target.role ≠ .gameMaster
  found : handler.findClientId firstClient characterUid = some targetClient

/-- The master or one of the racers is in the room. -/
def EndsWithRacer (world : World) (room : Room) : Prop :=
  room.details.masterUid ∈ room.players ∨
    ∃ entry ∈ world.racers.toList, recordUid world entry.1 ∈ room.players

/-- A master who leaves has a successor who is found, and a race ends with its master or a racer in the
room. -/
def KeepsMaster (handler : NetworkHandler) : ServerInput → Prop
  | .command client (.leaveRoom first) =>
    client ∈ handler.connected → SuccessorFound handler first client
  | .command client (.kick first firstClient characterUid) =>
    client ∈ handler.connected → ∀ targetClient,
      Kicks handler client firstClient characterUid targetClient →
        SuccessorFound handler first targetClient
  | .disconnect client first => client ∈ handler.connected → SuccessorFound handler first client
  | .tick roomUid now =>
    ∀ race room, handler.raceInstances[roomUid]? = some race → handler.rooms[roomUid]? = some room →
      Stops now (handler.world roomUid race) → LookupsSucceed (handler.world roomUid race) →
        EndsWithRacer (handler.world roomUid race) room
  | _ => True

variable {room : Room} {uid : Uid} {race : RaceInstance} {roomUid : UInt32}

/-! ## Changes that keep the master -/

section Retaining

variable {handler after : NetworkHandler}

/-- The players stay in the room, and so does its master. -/
structure Retains (before after : Room) : Prop where
  players : ∀ uid, uid ∈ before.players → uid ∈ after.players
  master : after.details.masterUid = before.details.masterUid

instance : Std.Refl Retains := ⟨fun _ => ⟨fun _ => id, rfl⟩⟩

theorem mem_players_iff : uid ∈ room.players ↔ ∃ player,
    room.players[uid]? = some player := by
  rw [← ExtTreeMap.isSome_getElem?_iff_mem, isSome_iff_exists]

theorem players_ne_empty (h : uid ∈ room.players) : room.players ≠ ∅ := by
  intro hempty
  rw [hempty] at h
  exact ExtTreeMap.not_mem_empty h

theorem exists_player (h : room.players ≠ ∅) : ∃ uid, uid ∈ room.players := by
  cases hmin : room.players.minKey? with
  | none => exact absurd (ExtTreeMap.minKey?_eq_none_iff.1 hmin) h
  | some uid => exact ⟨uid, ExtTreeMap.minKey?_mem hmin⟩

theorem Headed.retains {later : RaceInstance} {before after : Room} (h : Headed race before)
    (hroom : Retains before after) (hstage : later.stage = .waiting → race.stage = .waiting) :
    Headed later after where
  populated := by
    obtain ⟨uid, huid⟩ := exists_player h.populated
    exact players_ne_empty (hroom.players uid huid)
  master hwaiting := by
    rw [hroom.master]
    exact hroom.players _ (h.master (hstage hwaiting))

/-- No race is new, none waits that did not, and no room loses a player or its master. -/
theorem Led.retains (h : Led handler)
    (hraces : ∀ (roomUid : UInt32) (later : RaceInstance), after.raceInstances[roomUid]? = some later →
      ∃ race, handler.raceInstances[roomUid]? = some race ∧
        (later.stage = .waiting → race.stage = .waiting))
    (hrooms : ∀ (roomUid : UInt32) (room : Room), handler.rooms[roomUid]? = some room →
      ∃ later, after.rooms[roomUid]? = some later ∧ Retains room later) : Led after := by
  intro roomUid later hlater
  obtain ⟨race, hrace, hstage⟩ := hraces roomUid later hlater
  obtain ⟨room, hroom, hheaded⟩ := h roomUid race hrace
  obtain ⟨changed, hchanged, hretains⟩ := hrooms roomUid room hroom
  exact ⟨changed, hchanged, hheaded.retains hretains hstage⟩

theorem races_refl (handler : NetworkHandler) (roomUid : UInt32) (later : RaceInstance)
    (h : handler.raceInstances[roomUid]? = some later) :
    ∃ race, handler.raceInstances[roomUid]? = some race ∧
      (later.stage = .waiting → race.stage = .waiting) := ⟨later, h, id⟩

theorem rooms_refl (handler : NetworkHandler) (roomUid : UInt32) (room : Room)
    (h : handler.rooms[roomUid]? = some room) :
    ∃ later, handler.rooms[roomUid]? = some later ∧ Retains room later :=
  ⟨room, h, refl_of Retains room⟩

/-- A room is replaced by one that retains its players. -/
theorem rooms_setRoom_retains {inRoom : UInt32} {found changed : Room}
    (hfound : handler.rooms[inRoom]? = some found) (hchanged : Retains found changed)
    (roomUid : UInt32) (room : Room) (h : handler.rooms[roomUid]? = some room) :
    ∃ later, (handler.setRoom inRoom changed).rooms[roomUid]? = some later ∧ Retains room later := by
  rw [rooms_setRoom]
  split
  · next hsame =>
      subst hsame
      cases hfound.symm.trans h
      exact ⟨changed, rfl, hchanged⟩
  · exact rooms_refl handler roomUid room h

theorem Led.setRoom (h : Led handler) {changed : Room} (hroom : handler.rooms[roomUid]? = some room)
    (hchanged : Retains room changed) :
    Led (handler.setRoom roomUid changed) :=
  h.retains (races_refl handler) (rooms_setRoom_retains hroom hchanged)

theorem Led.modifyRoom (h : Led handler) {change : Room → Room}
    (hchange : ∀ room, Retains room (change room)) (roomUid : UInt32) :
    Led (handler.modifyRoom roomUid change) := by
  unfold NetworkHandler.modifyRoom
  split
  · exact h
  · next room hroom => exact h.setRoom hroom (hchange room)

theorem Led.modifyRacer (h : Led handler) (context : ClientContext) (change : Racer → Racer) :
    Led (handler.modifyRacer context change) := by
  refine h.retains (fun roomUid later hlater => ?_) fun roomUid room hroom => ?_
  · obtain ⟨race, hrace, rfl | ⟨-, rfl⟩⟩ := race_of_modifyRacer hlater
    · exact ⟨later, hrace, id⟩
    · exact ⟨race, hrace, fun hwaiting => (stage_modifyRacer _ _ _).symm.trans hwaiting⟩
  · rw [rooms_modifyRacer]
    exact rooms_refl handler roomUid room hroom

theorem retains_modifyPlayer {changed : Room} {characterUid : Uid}
    {change : Player → Player} (h : room.modifyPlayer characterUid change = .ok changed) :
    Retains room changed := by
  unfold modifyPlayer at h
  split at h
  · cases h
  · cases h
    refine ⟨fun uid huid => ?_, rfl⟩
    exact ExtTreeMap.mem_insert.2 (.inr huid)

theorem retains_queuePlayer (characterUid : Uid) (room : Room) :
    Retains room (room.queuePlayer characterUid).2 := by
  unfold queuePlayer
  split
  · exact refl_of Retains room
  · exact ⟨fun _ => id, rfl⟩

end Retaining

/-! ## Leaving -/

section Leaving

variable {handler : NetworkHandler} {client : ClientId} {context : ClientContext}

theorem rooms_removed (room : Room) (roomUid : UInt32) :
    (handler.removed context room).rooms[roomUid]? =
      if roomUid = context.roomUid then some (room.removePlayer context.characterUid)
      else handler.rooms[roomUid]? := by
  rw [removed, rooms_setRoom, rooms_modifyRacer]

theorem race_of_removed {later : RaceInstance}
    (h : (handler.removed context room).raceInstances[roomUid]? = some later) :
    ∃ race, handler.raceInstances[roomUid]? = some race ∧ later.stage = race.stage := by
  obtain ⟨race, hrace, rfl | ⟨-, rfl⟩⟩ := @race_of_modifyRacer handler context _ _ _ h
  · exact ⟨later, hrace, rfl⟩
  · exact ⟨race, hrace, stage_modifyRacer _ _ _⟩

/-- A player other than the one who leaves stays. -/
theorem mem_removePlayer {characterUid : Uid} (h : uid ∈ room.players) (hother : uid ≠ characterUid)
    : uid ∈ (room.removePlayer characterUid).players := by
  obtain ⟨player, hplayer⟩ := mem_players_iff.1 h
  refine mem_players_iff.2 ⟨player, ?_⟩
  rw [removePlayer, getElem?_erase_self_or_ne, if_neg hother, hplayer]

theorem frontPlayer_mem {first : Uid} (h : room.frontPlayer first = some uid) :
    uid ∈ room.players := by
  unfold frontPlayer at h
  split at h
  · next hfirst =>
      cases h
      exact hfirst
  · exact ExtTreeMap.minKey?_mem h

theorem frontPlayer_isSome (first : Uid) (h : uid ∈ room.players) :
    ∃ candidateUid, room.frontPlayer first = some candidateUid := by
  unfold frontPlayer
  split
  · exact ⟨first, rfl⟩
  · cases hmin : room.players.minKey? with
    | none => exact absurd (ExtTreeMap.minKey?_eq_none_iff.1 hmin) (players_ne_empty h)
    | some minimum => exact ⟨minimum, rfl⟩

theorem candidate_of_waiting (hrace : handler.raceInstances[roomUid]? = some race)
    (hroom : handler.rooms[roomUid]? = some room) (hwaiting : race.stage = .waiting) (first : Uid) :
    handler.candidate first roomUid = room.frontPlayer first := by
  rw [candidate, hrace]
  dsimp only
  rw [if_pos hwaiting, hroom, bind_some]

theorem rooms_succeeded_other (first : Uid) (room : Room) (hother : roomUid ≠ context.roomUid) :
    (handler.succeeded first context room).rooms[roomUid]? = handler.rooms[roomUid]? := by
  unfold succeeded
  split
  · split
    · rfl
    · rw [rooms_modifyRoom, if_neg hother]
  · rfl

/-- The room that is left has its other players, and a master among them if its race waits. -/
theorem headed_succeeded (first : Uid) (hrace : handler.raceInstances[context.roomUid]? = some race)
    (hheaded : Headed race room) :
    ∃ later, ((handler.removed context room).succeeded first context room).rooms[context.roomUid]? =
        some later ∧ later.players = (room.removePlayer context.characterUid).players ∧
      (later.players ≠ ∅ → Headed race later) := by
  have hremoved : (handler.removed context room).rooms[context.roomUid]? =
      some (room.removePlayer context.characterUid) := (rooms_removed _ _).trans (if_pos rfl)
  have hstage : ∃ later, (handler.removed context room).raceInstances[context.roomUid]? = some later ∧
      later.stage = race.stage := by
    refine ⟨_, (raceInstances_modifyRacer _ _ _).trans ((if_pos rfl).trans (congrArg _ hrace)), ?_⟩
    exact stage_modifyRacer _ _ _
  obtain ⟨later, hlater, hsame⟩ := hstage
  unfold succeeded
  by_cases hmaster : room.details.masterUid = context.characterUid
  · rw [if_pos hmaster]
    cases hcandidate : (handler.removed context room).candidate first context.roomUid with
    | none =>
      refine ⟨_, hremoved, rfl, fun hplayers => ⟨hplayers, fun hwaiting => ?_⟩⟩
      rw [candidate_of_waiting hlater hremoved (hsame.trans hwaiting)] at hcandidate
      obtain ⟨uid, huid⟩ := exists_player hplayers
      obtain ⟨candidateUid, hfront⟩ := frontPlayer_isSome first huid
      cases hcandidate.symm.trans hfront
    | some candidateUid =>
      refine ⟨(room.removePlayer context.characterUid).setMaster candidateUid, ?_, rfl,
        fun hplayers => ⟨hplayers, fun hwaiting => ?_⟩⟩
      · exact (rooms_modifyRoom _ _ _).trans ((if_pos rfl).trans (congrArg _ hremoved))
      · rw [candidate_of_waiting hlater hremoved (hsame.trans hwaiting)] at hcandidate
        exact frontPlayer_mem hcandidate
  · rw [if_neg hmaster]
    refine ⟨_, hremoved, rfl, fun hplayers => ⟨hplayers, fun hwaiting => ?_⟩⟩
    exact mem_removePlayer (hheaded.master hwaiting) hmaster

/-- An empty room is closed, any other is left alone. -/
theorem rooms_closed (hroom : handler.rooms[roomUid]? = some room) :
    handler.closed roomUid = if room.players = ∅ then handler.closeRoom roomUid else handler := by
  rw [closed, hroom]
  dsimp only
  by_cases hplayers : room.players = ∅
  · rw [if_pos hplayers, if_neg]
    exact not_not.2 (ExtTreeMap.eq_empty_iff_size_eq_zero.1 hplayers)
  · rw [if_neg hplayers, if_pos]
    exact fun hsize => hplayers (ExtTreeMap.eq_empty_iff_size_eq_zero.2 hsize)

theorem led_left (h : Led handler) (first : Uid)
    (hroom : handler.rooms[context.roomUid]? = some room) :
    Led (((handler.removed context room).succeeded first context room).closed context.roomUid) := by
  intro roomUid later hlater
  have hsucceeded := @raceInstances_closed ((handler.removed context room).succeeded first context room)
    _ _ _ hlater
  rw [raceInstances_succeeded] at hsucceeded
  obtain ⟨race, hrace, hstage⟩ := race_of_removed hsucceeded
  obtain ⟨found, hfound, hheaded⟩ := h roomUid race hrace
  by_cases hsame : roomUid = context.roomUid
  · subst hsame
    cases hroom.symm.trans hfound
    obtain ⟨last, hlast, hplayers, hled⟩ := headed_succeeded first hrace hheaded
    rw [rooms_closed hlast] at hlater ⊢
    split at hlater
    · rw [closeRoom, getElem?_erase_self_or_ne, if_pos rfl] at hlater
      cases hlater
    · next hpopulated =>
        rw [if_neg hpopulated]
        exact ⟨last, hlast, (hled hpopulated).populated,
          fun hwaiting => (hled hpopulated).master (hstage.symm.trans hwaiting)⟩
  · have hrooms : (((handler.removed context room).succeeded first context room).closed
        context.roomUid).rooms[roomUid]? = handler.rooms[roomUid]? := by
      refine Eq.trans ?_ ((rooms_succeeded_other first room hsame).trans
        ((rooms_removed room roomUid).trans (if_neg hsame)))
      unfold closed
      split
      · rfl
      · split
        · rfl
        · exact (getElem?_erase_self_or_ne _ _ _).trans (if_neg hsame)
    exact ⟨found, hrooms.trans hfound, hheaded.populated,
      fun hwaiting => hheaded.master (hstage.symm.trans hwaiting)⟩

/-- A successor who is not found leaves a race that runs, and its room populated. -/
theorem led_removed (h : Led handler)
    (hrunning : ∀ race, handler.raceInstances[context.roomUid]? = some race →
      race.stage ≠ .waiting ∧ (room.removePlayer context.characterUid).players ≠ ∅) :
    Led (handler.removed context room) := by
  intro roomUid later hlater
  obtain ⟨race, hrace, hstage⟩ := race_of_removed hlater
  obtain ⟨found, hfound, hheaded⟩ := h roomUid race hrace
  rw [rooms_removed]
  split
  · next hsame =>
      subst hsame
      obtain ⟨hnot, hpopulated⟩ := hrunning race hrace
      exact ⟨_, rfl, hpopulated, fun hwaiting => absurd (hstage.symm.trans hwaiting) hnot⟩
  · exact ⟨found, hfound, hheaded.populated,
      fun hwaiting => hheaded.master (hstage.symm.trans hwaiting)⟩

theorem led_leave (h : Led handler) (first : Uid) (client : ClientId)
    (hsuccessor : SuccessorFound handler first client) :
    Led ((handleLeaveRoom first client).final handler) := by
  have houtcome := handleLeaveRoom_outcome first client handler
  generalize (handleLeaveRoom first client).final handler = after at houtcome
  cases houtcome with
  | refused hrefused => exact h
  | deleted context hleaves hroom => exact h.modifyRacer context _
  | stuck context hleaves room hroom hmaster candidateUid hcandidate hlost =>
    refine led_removed h fun race hrace => not_or.1 fun hneeded => hlost ?_
    exact hsuccessor context race room hleaves hrace hroom hmaster hneeded candidateUid hcandidate
  | left context hleaves room hroom => exact led_left h first hroom

end Leaving

/-! ## Entering -/

section Entering

variable {identityHash : IdentityHash} {lookups : EnterLookups} {client : ClientId}
  {command : EnterRoom} {handler : NetworkHandler}

theorem led_asked (h : Led handler) (hroom : handler.rooms[command.roomUid]? = some room)
    (hretains : Retains room (room.addPlayer client command.characterUid lookups.coin).2) :
    Led (handler.asked identityHash lookups client command room) := by
  have hauthenticated : Led (handler.authenticated identityHash lookups.now client command) :=
    h.retains (races_refl handler) (rooms_refl handler)
  exact hauthenticated.setRoom hroom hretains

/-- The race of a room that had none is led by the player who has entered. -/
theorem led_opened (h : Led handler) (hroom : handler.rooms[command.roomUid]? = some room)
    (hmember : command.characterUid ∈ room.players) : Led (handler.opened command) := by
  unfold opened
  split
  · exact h
  · intro roomUid later hlater
    rw [raceInstances_modifyRoom, setRace,
      getElem?_insert_self_or_ne] at hlater
    split at hlater
    · next hsame =>
        subst hsame
        refine ⟨room.setMaster command.characterUid, ?_, players_ne_empty hmember, fun _ => hmember⟩
        exact (rooms_modifyRoom _ _ _).trans ((if_pos rfl).trans (congrArg _ hroom))
    · next hother =>
        obtain ⟨found, hfound, hheaded⟩ := h roomUid later hlater
        exact ⟨found, (rooms_modifyRoom _ _ _).trans ((if_neg hother).trans hfound), hheaded⟩

theorem led_enter (h : Led handler) :
    Led ((handleEnterRoom identityHash lookups client command).final handler) := by
  have hstays {room : Room} (haccepts : ¬room.Accepts command.characterUid) :
      Retains room (room.addPlayer client command.characterUid lookups.coin).2 := by
    obtain ⟨-, hplayers, hdetails⟩ := addPlayer_of_not_accepts haccepts client lookups.coin
    refine ⟨fun uid huid => ?_, by rw [hdetails]⟩
    rw [hplayers]
    exact huid
  have hgrows {room : Room} (haccepts : room.Accepts command.characterUid) :
      Retains room (room.addPlayer client command.characterUid lookups.coin).2 := by
    rw [addPlayer_of_accepts haccepts]
    exact ⟨fun uid huid => ExtTreeMap.mem_insert.2 (.inr huid), rfl⟩
  have hseated {room : Room} (hroom : handler.rooms[command.roomUid]? = some room)
      (haccepts : room.Accepts command.characterUid) :
      Led (handler.seated identityHash lookups client command room) := by
    have hasked : Led (handler.asked identityHash lookups client command room) :=
      led_asked h hroom (hgrows haccepts)
    exact hasked.retains (races_refl _) (rooms_refl _)
  have houtcome := handleEnterRoom_outcome identityHash lookups client command handler
  generalize (handleEnterRoom identityHash lookups client command).final handler = after at houtcome
  cases houtcome with
  | refused hrefused => exact h.retains (races_refl handler) (rooms_refl handler)
  | nowhere hright hroom => exact h.retains (races_refl handler) (rooms_refl handler)
  | turnedAway hright room hroom haccepts => exact led_asked h hroom (hstays haccepts)
  | offline hright room hroom haccepts => exact hseated hroom haccepts
  | entered hright room hroom haccepts =>
    refine led_opened (hseated hroom haccepts) ((rooms_setRoom _ _ _).trans (if_pos rfl)) ?_
    rw [addPlayer_of_accepts haccepts]
    exact ExtTreeMap.mem_insert_self

end Entering

/-! ## Races -/

section Racing

variable {handler : NetworkHandler}

theorem led_startRace (h : Led handler) (lookups : StartLookups) (inRoom : UInt32) (room : Room) :
    Led (handler.startRace lookups inRoom room) := by
  refine h.retains (fun roomUid later hlater => ?_) fun roomUid found hfound => ?_
  · obtain ⟨race, hrace, rfl | ⟨-, hstage⟩⟩ := race_of_startRace hlater
    · exact ⟨later, hrace, id⟩
    · refine ⟨race, hrace, fun hwaiting => ?_⟩
      obtain hstage | hstage := hstage
      · exact hstage.symm.trans hwaiting
      · cases hwaiting.symm.trans hstage
  · refine ⟨found, ?_, refl_of Retains found⟩
    refine rooms_play_start _ _ _ ?_
    rw [rooms_modifyRace]
    exact hfound

theorem led_addRacers (h : Led handler) (lookups : StartLookups) {inRoom : UInt32} {found : Room}
    (hfound : handler.rooms[inRoom]? = some found)
    (hsame : Retains found (room.setRoomPlaying true)) :
    Led (handler.addRacers lookups inRoom room) := by
  have hadded (racers : ExtTreeMap Uid Racer) (bonusCourseType : BonusCourseType) :
      Led (handler.modifyRace inRoom fun race =>
        { race with bonusCourseType := bonusCourseType, racers := racers }) := by
    refine h.retains (fun roomUid later hlater => ?_) fun roomUid room hroom => ?_
    · rw [raceInstances_modifyRace] at hlater
      split at hlater
      · next hsame =>
          obtain ⟨race, hrace, rfl⟩ := map_eq_some_iff.1 hlater
          exact ⟨race, hsame ▸ hrace, id⟩
      · exact ⟨later, hlater, id⟩
    · rw [rooms_modifyRace]
      exact rooms_refl handler roomUid room hroom
  refine (hadded _ _).setRoom ?_ hsame
  rw [rooms_modifyRace]
  exact hfound

theorem led_start (h : Led handler) (lookups : StartLookups) (client : ClientId) :
    Led ((handleStartRace lookups client).final handler) := by
  have houtcome := handleStartRace_outcome lookups client handler
  generalize (handleStartRace lookups client).final handler = after at houtcome
  cases houtcome with
  | refused => exact h
  | cancelled context race room hstarts hprepared => exact led_startRace h lookups _ room
  | started context race room hstarts hprepared =>
    have hretains : Retains room (room.setRoomPlaying true) := ⟨fun _ => id, rfl⟩
    refine led_addRacers (led_startRace h lookups _ room) lookups ?_ hretains
    refine rooms_play_start _ _ _ ?_
    rw [rooms_modifyRace]
    exact hstarts.found

theorem mem_settled {before after : Room} (h : Settled before after) (uid : Uid) :
    uid ∈ after.players ↔ uid ∈ before.players := by
  have hplayer := congrArg Option.isSome (h.players uid)
  rw [isSome_map, isSome_map] at hplayer
  rw [← ExtTreeMap.isSome_getElem?_iff_mem, ← ExtTreeMap.isSome_getElem?_iff_mem, hplayer]

theorem mem_standings {world : World} :
    uid ∈ standings world ↔ ∃ entry ∈ world.racers.toList, recordUid world entry.1 = uid := by
  rw [standings, ((List.perm_insertionSort _ _).map Prod.snd).mem_iff, List.map_map, List.mem_map]
  rfl

/-- The racer who is elected is in the room, and one is if one can be. -/
theorem elected_mem {world : World} (hpopulated : room.players ≠ ∅)
    (hends : EndsWithRacer world room) :
    (electMaster room (standings world)).getD room.details.masterUid ∈ room.players := by
  have hcount : ¬room.getPlayerCount < 1 := by
    intro hfew
    exact hpopulated (ExtTreeMap.eq_empty_iff_size_eq_zero.2 (Nat.lt_one_iff.1 hfew))
  rw [electMaster, if_neg hcount]
  cases helected : (standings world).find? room.hasPlayer with
  | some uid => exact ExtTreeMap.contains_iff_mem.1 (List.find?_some helected)
  | none =>
    obtain hmaster | ⟨entry, hentry, hmember⟩ := hends
    · exact hmaster
    · exact absurd (ExtTreeMap.contains_iff_mem.2 hmember)
        (List.find?_eq_none.1 helected _ (mem_standings.2 ⟨entry, hentry, rfl⟩))

/-- A tick leaves a room headed, if a race that ends has its master or a racer in the room. -/
theorem headed_tick {now : Instant} {world : World} {later : Room} (hheaded : Headed race room)
    (hstage : world.stage = race.stage) (hroom : world.room = some room)
    (hlater : (tick now world).room = some later) (hsettled : Settled room later)
    (hends : Stops now world → LookupsSucceed world → EndsWithRacer world room) :
    Headed (race.left (tick now world)) later := by
  have hticked := tick_ticked now world
  have hpopulated : later.players ≠ ∅ := by
    obtain ⟨uid, huid⟩ := exists_player hheaded.populated
    exact players_ne_empty ((mem_settled hsettled uid).2 huid)
  refine ⟨hpopulated, fun hwaiting => ?_⟩
  obtain hbefore | ⟨hstops, hdone, hstopped⟩ := hticked.ended hwaiting
  · obtain hsame | hstops := hticked.room
    · cases hlater.symm.trans (hsame.trans hroom)
      exact hheaded.master (hstage.symm.trans hbefore)
    · cases hbefore.symm.trans hstops.1
  · have hmaster := stop_master hroom hdone
    rw [World.master?, ← hstopped, hlater] at hmaster
    have helected : later.details.masterUid =
        (electMaster room (standings world)).getD room.details.masterUid := Option.some.inj hmaster
    rw [mem_settled hsettled, helected]
    exact elected_mem hheaded.populated (hends hstops ((stop_completes world).1 hdone))

theorem led_tick (h : Led handler) (inRoom : UInt32) (now : Instant)
    (hends : ∀ race room, handler.raceInstances[inRoom]? = some race →
      handler.rooms[inRoom]? = some room → Stops now (handler.world inRoom race) →
      LookupsSucceed (handler.world inRoom race) → EndsWithRacer (handler.world inRoom race) room) :
    Led (handler.play inRoom (tick now)) := by
  intro roomUid later hlater
  rw [raceInstances_play] at hlater
  unfold play
  cases hrace : handler.raceInstances[inRoom]? with
  | none =>
    rw [hrace, map_none] at hlater
    split at hlater
    · cases hlater
    · exact h roomUid later hlater
  | some race =>
    obtain ⟨room, hroom, hheaded⟩ := h inRoom race hrace
    obtain ⟨changed, hchanged, hsettled⟩ :=
      (tick_ticked now (handler.world inRoom race)).some room hroom
    dsimp only
    rw [rooms_setWorld_some hchanged, getElem?_insert_self_or_ne]
    rw [hrace] at hlater
    split at hlater
    · next hsame =>
        cases hlater
        rw [if_pos hsame]
        exact ⟨changed, rfl, headed_tick hheaded rfl hroom hchanged hsettled (hends race room hrace hroom)⟩
    · next hother =>
        rw [if_neg hother]
        exact h roomUid later hlater

end Racing

/-! ## Runs -/

section Runs

variable {identityHash : IdentityHash} {handler : NetworkHandler}

theorem led_disconnect (h : Led handler) (first : Uid) (client : ClientId)
    (hsuccessor : SuccessorFound handler first client) :
    Led ((handleClientDisconnected first client).final handler) := by
  have houtcome := handleClientDisconnected_outcome first client handler
  generalize (handleClientDisconnected first client).final handler = after at houtcome
  cases houtcome with
  | unknown hunknown => exact h
  | idle context hcontext hidle => exact h.retains (races_refl handler) (rooms_refl handler)
  | failed context hcontext => exact led_leave h first client hsuccessor
  | gone context hcontext =>
    exact (led_leave h first client hsuccessor).retains (races_refl _) (rooms_refl _)

theorem led_handle (h : Led handler) {client : ClientId} {command : Command}
    (hin : client ∈ handler.connected) (hkeeps : KeepsMaster handler (.command client command)) :
    Led (handle identityHash handler client command) := by
  cases command with
  | enterRoom lookups command => exact led_enter h
  | leaveRoom first => exact led_leave h first client (hkeeps hin)
  | kick first firstClient characterUid =>
    refine (handleKickUser_outcome first firstClient client characterUid handler).elim (P := Led) h ?_
    rintro _ ⟨context, room, target, targetClient, howns, hroom, hmaster, hother, hplayer, htarget,
      hrole, hfound, rfl⟩
    refine led_leave h first targetClient (hkeeps hin targetClient ⟨?_, hfound⟩)
    exact ⟨context, room, target, howns, hroom, hmaster, hother, hplayer, htarget, hrole⟩
  | readyRace =>
    refine (handleReadyRace_outcome client handler).elim (P := Led) h ?_
    rintro _ ⟨_, _, _, -, hroom, hmodified, rfl⟩
    exact h.setRoom hroom (retains_modifyPlayer hmodified)
  | changeTeam command =>
    refine (handleChangeTeam_outcome client command handler).elim (P := Led) h ?_
    rintro _ ⟨_, _, _, -, hroom, hmodified, rfl⟩
    exact h.setRoom hroom (retains_modifyPlayer hmodified)
  | changeRoomOptions command =>
    refine (handleChangeRoomOptions_outcome client command handler).elim (P := Led) h ?_
    rintro _ ⟨_, _, -, hroom, rfl⟩
    exact h.setRoom hroom ⟨fun _ => id, rfl⟩
  | startRace lookups => exact led_start h lookups client
  | loadingComplete =>
    refine (handleLoadingComplete_outcome client handler).elim (P := Led) h ?_
    rintro _ ⟨context, _, _, -, rfl⟩
    exact h.modifyRacer context _
  | userRaceFinal command =>
    refine (handleUserRaceFinal_outcome client command handler).elim (P := Led) h ?_
    rintro _ ⟨context, _, _, -, rfl⟩
    exact h.modifyRacer context _

/-- A new room replaces none, or keeps the players and the master of the one that it replaces. -/
theorem led_createRoom (h : Led handler) (details : Details) (characterUid : Uid) :
    Led (handler.createRoom details characterUid) := by
  refine h.retains (races_refl handler) fun roomUid room hroom => ?_
  unfold createRoom
  rw [rooms_setRoom]
  split
  · next hsame =>
      subst hsame
      refine ⟨_, rfl, ?_⟩
      rw [hroom]
      have hqueued := retains_queuePlayer characterUid { (some room).getD { uid := handler.sequencedId + 1 }
        with details := { details with masterUid := room.details.masterUid } }
      exact ⟨hqueued.players, hqueued.master⟩
  · exact rooms_refl handler roomUid room hroom

theorem led_serve (identityHash : IdentityHash) (handler : NetworkHandler) (input : ServerInput)
    (h : Led handler) (hkeeps : KeepsMaster handler input) :
    Led (serve identityHash handler input) := by
  cases input with
  | connect client =>
    obtain ⟨hrooms, hraces⟩ := handleClientConnected_rooms client handler
    refine h.retains (fun roomUid later hlater => ?_) fun roomUid room hroom => ?_
    · exact ⟨later, (congrArg (·[roomUid]?) hraces).symm.trans hlater, id⟩
    · exact ⟨room, (congrArg (·[roomUid]?) hrooms).trans hroom, refl_of Retains room⟩
  | disconnect client first =>
    rw [serve]
    split
    · next hin =>
        exact (led_disconnect h first client (hkeeps hin)).retains (races_refl _) (rooms_refl _)
    · exact h
  | command client command =>
    rw [serve]
    split
    · next hin => exact led_handle h hin hkeeps
    · exact h
  | tick roomUid now => exact led_tick h roomUid now hkeeps
  | createRoom details characterUid => exact led_createRoom h details characterUid
  | queuePlayer roomUid characterUid => exact h.modifyRoom (retains_queuePlayer characterUid) roomUid
  | dequeuePlayer roomUid characterUid =>
    have hretains (room : Room) : Retains room (room.dequeuePlayer characterUid).2 :=
      ⟨fun _ => id, rfl⟩
    exact h.modifyRoom hretains roomUid
  | grantCode characterUid roomUid now code => exact h.retains (races_refl handler) (rooms_refl handler)
  | outside records => exact h.retains (races_refl handler) (rooms_refl handler)

theorem led_empty : Led {} := by
  intro roomUid race hrace
  rw [show ({} : NetworkHandler).raceInstances = ∅ from rfl, ExtTreeMap.getElem?_empty] at hrace
  cases hrace

/-- After a run in which every master who leaves has a successor who is found, and every race ends with
its master or a racer in the room, the master of every room with players is one of them while its race
waits. -/
theorem master_is_player (identityHash : IdentityHash) (inputs : List ServerInput)
    (hkeeps : Guarded (serve identityHash) KeepsMaster {} inputs) (roomUid : UInt32)
    (race : RaceInstance) (room : Room)
    (hrace : (run (serve identityHash) {} inputs).raceInstances[roomUid]? = some race)
    (hroom : (run (serve identityHash) {} inputs).rooms[roomUid]? = some room)
    (hwaiting : race.stage = .waiting) : room.details.masterUid ∈ room.players := by
  obtain ⟨found, hfound, hheaded⟩ :=
    hkeeps.invariant (led_serve identityHash) led_empty roomUid race hrace
  cases hroom.symm.trans hfound
  exact hheaded.master hwaiting

/-- A room with one player, whose race waits. -/
def waitingRun : List ServerInput :=
  [.outside { characters := (∅ : ExtTreeMap Uid Character).insert 1 { uid := 1, mountUid := 7 }
                |>.insert 2 { uid := 2 }
              horses := (∅ : ExtTreeMap Uid Horse).insert 7 { uid := 7 }
              onlineCharacters := (∅ : ExtTreeSet Uid).insert 1 |>.insert 2
              mapBlocks := (∅ : ExtTreeMap UInt32 MapBlockInfo).insert 0 { waitTime := 1, timeLimit := 9 } },
    .createRoom { maxPlayerCount := 8 } 1, .grantCode 1 1 0 42, .connect 5,
    .command 5 (.enterRoom {} ⟨1, 1, 42⟩)]

theorem master_is_player_waitingRun : ∃ race room,
    (run (serve fun _ _ => 0) {} waitingRun).raceInstances[(1 : UInt32)]? = some race ∧
    (run (serve fun _ _ => 0) {} waitingRun).rooms[(1 : UInt32)]? = some room ∧
    room.details.masterUid ∈ room.players := by
  have hstage : (run (serve fun _ _ => 0) {} waitingRun).raceInstances[(1 : UInt32)]?.map
      RaceInstance.stage = some .waiting := by decide +kernel
  have hfound : (run (serve fun _ _ => 0) {} waitingRun).rooms[(1 : UInt32)]?.isSome = true := by
    decide +kernel
  obtain ⟨race, hrace, hwaiting⟩ := Option.map_eq_some_iff.1 hstage
  obtain ⟨room, hroom⟩ := Option.isSome_iff_exists.1 hfound
  refine ⟨race, room, hrace, hroom, ?_⟩
  exact master_is_player (fun _ _ => 0) waitingRun
    ⟨trivial, trivial, trivial, trivial, trivial, trivial⟩ 1 race room hrace hroom hwaiting

/-- A second player enters while the only racer races, the racer leaves as master, and the race ends. -/
def abandonedRun : List ServerInput :=
  waitingRun ++ [.command 5 (.startRace {}), .command 5 .loadingComplete, .tick 1 0,
    .grantCode 2 1 0 43, .connect 6, .command 6 (.enterRoom {} ⟨2, 1, 43⟩), .command 5 (.leaveRoom 0),
    .tick 1 100000000000, .tick 1 200000000000]

theorem abandonedRun_leaderless : ¬∀ race room,
    (run (serve fun _ _ => 0) {} abandonedRun).raceInstances[(1 : UInt32)]? = some race →
    (run (serve fun _ _ => 0) {} abandonedRun).rooms[(1 : UInt32)]? = some room →
    room.players ≠ ∅ → race.stage = .waiting → room.details.masterUid ∈ room.players := by
  intro h
  have hstage : (run (serve fun _ _ => 0) {} abandonedRun).raceInstances[(1 : UInt32)]?.map
      RaceInstance.stage = some .waiting := by decide +kernel
  have hmembers : (run (serve fun _ _ => 0) {} abandonedRun).rooms[(1 : UInt32)]?.map
      (fun room => (room.getPlayerCount, decide (room.details.masterUid ∈ room.players))) =
        some (1, false) := by decide +kernel
  obtain ⟨race, hrace, hwaiting⟩ := Option.map_eq_some_iff.1 hstage
  obtain ⟨room, hroom, hfacts⟩ := Option.map_eq_some_iff.1 hmembers
  obtain ⟨hcount, houtside⟩ := Prod.mk.inj hfacts
  refine of_decide_eq_false houtside (h race room hrace hroom (fun hempty => ?_) hwaiting)
  rw [Room.getPlayerCount, hempty] at hcount
  revert hcount
  decide

end Runs

end Alicia.Race
