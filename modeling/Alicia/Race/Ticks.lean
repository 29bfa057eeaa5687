import Alicia.Race.Rewards

/-!
# What a tick of a race changes

A tick moves the stage to the next one at most.  Only the end of a race changes the room: the ready
states of its players and its master.
-/

namespace Alicia.Race

open Data (Uid invalidUid Character Horse)
open Transition Transition.Effect ScoreInfo Keeps

def Stage.next : Stage → Stage
  | .waiting => .loading
  | .loading => .racing
  | .racing => .finishing
  | .finishing => .waiting

/-- Only the master and the ready states of the players differ. -/
structure Settled (before after : Room) : Prop where
  details : { after.details with masterUid := before.details.masterUid } = before.details
  queued : after.queuedPlayers = before.queuedPlayers
  players : ∀ uid : Uid, (after.players[uid]?.map fun player => (player.clientId, player.team)) =
    before.players[uid]?.map fun player => (player.clientId, player.team)

instance : Std.Refl Settled := ⟨fun _ => ⟨rfl, rfl, fun _ => rfl⟩⟩

instance : IsTrans Room Settled where
  trans a b c h g := by
    refine ⟨?_, g.queued.trans h.queued, fun uid => (g.players uid).trans (h.players uid)⟩
    rw [← h.details, ← g.details]

/-- What the end of a race leaves alone. -/
structure SameRace (before after : World) : Prop where
  stage : after.stage = before.stage
  parameters : after.parameters = before.parameters
  racers : after.racers = before.racers
  none : before.room = none → after.room = none
  some : ∀ room, before.room = some room → ∃ later, after.room = some later ∧ Settled room later

instance : Std.Refl SameRace :=
  ⟨fun _ => ⟨rfl, rfl, rfl, id, fun room hroom => ⟨room, hroom, refl_of Settled room⟩⟩⟩

instance : IsTrans World SameRace where
  trans a b c h g := by
    refine ⟨g.stage.trans h.stage, g.parameters.trans h.parameters, g.racers.trans h.racers,
      g.none ∘ h.none, fun room hroom => ?_⟩
    obtain ⟨middle, hmiddle, hfirst⟩ := h.some room hroom
    obtain ⟨later, hlater, hsecond⟩ := g.some middle hmiddle
    exact ⟨later, hlater, trans_of Settled hfirst hsecond⟩

variable {change : Room → Room}

/-- A change of the room alone. -/
theorem SameRace.of_room {world : World} (h : ∀ room, Settled room (change room)) :
    SameRace world { world with room := world.room.map change } := by
  refine ⟨rfl, rfl, rfl, fun hroom => ?_, fun room hroom => ⟨change room, ?_, h room⟩⟩
  · exact congrArg (Option.map change) hroom
  · exact congrArg (Option.map change) hroom

theorem settled_setMaster (room : Room) (uid : Uid) : Settled room (room.setMaster uid) :=
  ⟨rfl, rfl, fun _ => rfl⟩

theorem settled_setRoomPlaying (room : Room) (isPlaying : Bool) :
    Settled room (room.setRoomPlaying isPlaying) := ⟨rfl, rfl, fun _ => rfl⟩

theorem settled_setReady (room : Room) (uid : Uid) (ready : Bool) :
    Settled room (room.setReady uid ready) := by
  refine ⟨rfl, rfl, fun other => ?_⟩
  show ((room.players.modify uid fun player => { player with isReady := ready })[other]?.map _) = _
  rw [Std.ExtTreeMap.getElem?_modify]
  split
  · next hsame =>
      rw [Std.LawfulEqCmp.eq_of_compare hsame]
      cases room.players[other]? <;> rfl
  · rfl

/-! ## The end of a race -/

theorem queueCommand_sameRace (clientId : ClientId) (notify : Notify) :
    Keeps SameRace (queueCommand clientId notify) :=
  fun _ => ⟨rfl, rfl, rfl, id, fun room hroom => ⟨room, hroom, refl_of Settled room⟩⟩

theorem scoreRacer_sameRace (uid : Uid) (racer : Racer) : Keeps SameRace (scoreRacer uid racer) := by
  intro world
  have hcredit (rewarded : Character) : SameRace world (credit uid rewarded world) :=
    ⟨rfl, rfl, rfl, id, fun room hroom => ⟨room, hroom, refl_of Settled room⟩⟩
  rw [final, scoreRacer_apply]
  cases available world uid with
  | none => exact refl_of SameRace world
  | some character =>
    dsimp only
    cases availableHorse world character.mountUid with
    | none => exact hcredit _
    | some horse => exact hcredit _

theorem scoreBoard_sameRace (racers : List (Uid × Racer)) : Keeps SameRace (scoreBoard racers) := by
  induction racers with
  | nil => exact .pure _
  | cons entry rest ih =>
    exact (scoreRacer_sameRace entry.1 entry.2).bind fun _ => ih.bind fun _ => .pure _

theorem modifyRoom_sameRace (h : ∀ room, Settled room (change room)) :
    Keeps SameRace (modifyRoom change) := fun _ => SameRace.of_room h

variable {room : Room}

theorem setMaster_sameRace {world : World} (hroom : world.room = some room) (uid : Uid) :
    SameRace world { world with room := some (room.setMaster uid) } := by
  have hsame : SameRace world { world with room := world.room.map fun room => room.setMaster uid } :=
    SameRace.of_room fun room => settled_setMaster room uid
  rwa [hroom] at hsame

theorem assignMaster_sameRace (scores : List ScoreInfo) : Keeps SameRace (assignMaster scores) := by
  intro world
  unfold assignMaster
  split
  · cases hroom : world.room with
    | none =>
      rw [final_bind_error (by rw [getRoom_apply, hroom])]
      exact refl_of SameRace world
    | some room =>
      rw [final_bind_ok (by rw [getRoom_apply, hroom])]
      cases electMaster room (scores.map uid) with
      | none => exact refl_of SameRace world
      | some newMasterUid =>
        exact trans_of SameRace (setMaster_sameRace hroom newMasterUid)
          (announceMaster_keeps queueCommand_sameRace newMasterUid _)
  · exact refl_of SameRace world

/-- What `settlePlayers` writes keeps the relation. -/
theorem settlePlayers_keeps_of {R : World → World → Prop} [Std.Refl R] [IsTrans World R]
    (hqueue : ∀ clientId notify, Keeps R (queueCommand clientId notify))
    (hplaying : Keeps R (modifyRoom fun room => room.setRoomPlaying false))
    (hready : ∀ uid, Keeps R (modifyRoom fun room => room.setReady uid false)) :
    Keeps R settlePlayers := by
  refine (of_final getRoom_final).bind fun room => hplaying.bind fun _ => ?_
  refine forM (fun entry => ?_) _
  refine (hready entry.1).bind fun _ => ?_
  exact (of_final (accessCharacter_final entry.1)).bind fun _ => hqueue _ _

theorem settlePlayers_sameRace : Keeps SameRace settlePlayers :=
  settlePlayers_keeps_of queueCommand_sameRace
    (modifyRoom_sameRace fun room => settled_setRoomPlaying room false)
    fun uid => modifyRoom_sameRace fun room => settled_setReady room uid false

theorem stop_sameRace : Keeps SameRace stop := by
  refine get.bind fun world => (scoreBoard_sameRace _).bind fun scores => ?_
  refine (broadcast_keeps queueCommand_sameRace _).bind fun _ => ?_
  exact (assignMaster_sameRace _).bind fun _ => settlePlayers_sameRace

/-! ## The master after a race -/

/-- The master of the room, if it exists. -/
def World.master? (world : World) : Option Uid := world.room.map fun room => room.details.masterUid

/-- The master stays. -/
def SameMaster (before after : World) : Prop := after.master? = before.master?

instance : Std.Refl SameMaster := ⟨fun _ => rfl⟩

instance : IsTrans World SameMaster := ⟨fun _ _ _ h g => Eq.trans g h⟩

theorem modifyRoom_sameMaster (h : ∀ room, (change room).details.masterUid = room.details.masterUid)
    :
    Keeps SameMaster (modifyRoom change) := by
  intro world
  show (world.room.map change).map _ = world.room.map _
  cases world.room with
  | none => rfl
  | some room => exact congrArg some (h room)

theorem settlePlayers_sameMaster : Keeps SameMaster settlePlayers :=
  settlePlayers_keeps_of (fun _ _ _ => rfl)
    (modifyRoom_sameMaster fun _ => rfl) fun _ => modifyRoom_sameMaster fun _ => rfl

/-- Announcing the master does not change it. -/
theorem announceMaster_sameMaster (uid : Uid) : Keeps SameMaster (announceMaster uid) :=
  announceMaster_keeps (fun _ _ _ => rfl) uid

variable {world : World} {scores : List ScoreInfo}

theorem assignMaster_master (hroom : world.room = some room) :
    ((assignMaster scores).final world).master? =
      some ((electMaster room (scores.map uid)).getD room.details.masterUid) := by
  have hmaster : world.master? = some room.details.masterUid := by rw [World.master?, hroom]; rfl
  unfold assignMaster
  split
  · rw [final_bind_ok (by rw [getRoom_apply, hroom])]
    cases electMaster room (scores.map uid) with
    | none => exact hmaster
    | some newMasterUid => exact announceMaster_sameMaster newMasterUid _
  · next hscores =>
      rw [not_not.1 hscores]
      refine hmaster.trans (congrArg some ?_)
      rw [List.map_nil, electMaster]
      split
      · rfl
      · rfl

/-- What is left of `Stop` once the score board is complete and was sent. -/
theorem stop_final {scored : World} (hroom : world.room = some room)
    (hscores : scoreBoard world.racers.toList world = .ok scores scored) :
    stop.final world =
      (do assignMaster (sortScores (winningTeam world) scores); settlePlayers : Action Unit).final
        { scored with sent := scored.sent ++ room.players.toList.map fun entry =>
            (entry.2.clientId, .raceResult (sortScores (winningTeam world) scores)) } := by
  have hlookups : SameLookups world scored := final_ok hscores ▸ scoreBoard_sameLookups _ world
  have hbroadcast := broadcast_apply (.raceResult (sortScores (winningTeam world) scores)) scored
  rw [hlookups.room, hroom] at hbroadcast
  rw [stop, final_bind_ok (get_apply world), final_bind_ok hscores, final_bind_ok hbroadcast]

theorem stop_master_of_board {scored : World} (hroom : world.room = some room)
    (hscores : scoreBoard world.racers.toList world = .ok scores scored) :
    (stop.final world).master? = some ((electMaster room
      ((sortScores (winningTeam world) scores).map uid)).getD
        room.details.masterUid) := by
  have hlookups : SameLookups world scored := final_ok hscores ▸ scoreBoard_sameLookups _ world
  rw [stop_final hroom hscores]
  refine Eq.trans (after _ (fun _ => settlePlayers_sameMaster) _) (assignMaster_master ?_)
  exact hlookups.room.trans hroom

/-- `Stop` that returns has elected a master among the racers, if one of them is in the room. -/
theorem stop_master (hroom : world.room = some room) (hdone : stop.Completes world) :
    (stop.final world).master? =
      some ((electMaster room (standings world)).getD room.details.masterUid) := by
  obtain ⟨world', after, hget, hboard⟩ := completes_bind.1 hdone
  cases hget
  obtain ⟨scores, scored, hscores, -⟩ := completes_bind.1 hboard
  rw [stop_master_of_board hroom hscores, sortScores_uids _ hscores]
  rfl

/-! ## Ticks -/

/-- What a tick does to a race. -/
structure Ticked (now : Instant) (before after : World) : Prop where
  stage : after.stage = before.stage ∨ before.stage ≠ .waiting ∧ after.stage = before.stage.next
  parameters : after.parameters = before.parameters
  racers : after.racers = before.racers ∨
    before.stage = .loading ∧ after.racers = before.racers.map fun _ => dropUnloaded
  room : after.room = before.room ∨ Stops now before
  none : before.room = none → after.room = none
  some : ∀ room, before.room = some room → ∃ later, after.room = some later ∧ Settled room later
  ended : after.stage = .waiting → before.stage = .waiting ∨
    Stops now before ∧ stop.Completes before ∧ after.room = (stop.final before).room

variable {now : Instant}

theorem Ticked.of_room {before after : World}
    (stage : after.stage = before.stage ∨ before.stage ≠ .waiting ∧ after.stage = before.stage.next)
    (parameters : after.parameters = before.parameters) (racers : after.racers = before.racers ∨
      before.stage = .loading ∧ after.racers = before.racers.map fun _ => dropUnloaded)
    (room : after.room = before.room) (ended : after.stage = .waiting → before.stage = .waiting) :
    Ticked now before after where
  stage := stage
  parameters := parameters
  racers := racers
  room := .inl room
  none := room.trans
  some found hfound := ⟨found, room.trans hfound, refl_of Settled found⟩
  ended h := .inl (ended h)

theorem ticked_refl (now : Instant) (world : World) : Ticked now world world :=
  .of_room (.inl rfl) rfl (.inl rfl) rfl id

/-- A broadcast only sends. -/
theorem broadcast_final (notify : Notify) (world : World) :
    ∃ sent, (broadcast notify).final world = { world with sent := sent } := by
  have happly := broadcast_apply notify world
  cases hroom : world.room with
  | none =>
    rw [hroom] at happly
    exact ⟨world.sent, final_error happly⟩
  | some room =>
    rw [hroom] at happly
    exact ⟨_, final_ok happly⟩

theorem tickLoading_ticked (hstage : world.stage = .loading) :
    Ticked now world ((tickLoading now).final world) := by
  rw [tickLoading, final_bind_ok (get_apply world)]
  split
  · rw [final_bind_ok (modify_apply _ _)]
    have hdropped : Ticked now world { world with racers := world.racers.map fun _ => dropUnloaded } :=
      .of_room (.inl rfl) rfl (.inr ⟨hstage, rfl⟩) rfl id
    cases hmap : getMapBlockInfo { world with racers := world.racers.map fun _ => dropUnloaded } with
    | error failure after =>
      rw [final_bind_error hmap, ← final_error hmap, getMapBlockInfo_final]
      exact hdropped
    | ok mapBlock after =>
      rw [final_bind_ok hmap, ← final_ok hmap, getMapBlockInfo_final,
        final_bind_ok (modify_apply _ _)]
      obtain ⟨sent, hsent⟩ := broadcast_final
        (.raceCountdown (now + seconds mapBlock.waitTime.toNat)) _
      rw [hsent]
      refine .of_room (.inr ?_) rfl (.inr ⟨hstage, rfl⟩) rfl fun hwaiting => ?_
      · rw [hstage]
        exact ⟨by decide, rfl⟩
      · cases hwaiting
  · exact ticked_refl now world

/-- The commands that are queued are the only thing that differs. -/
def OnlySent (before after : World) : Prop := ∃ sent, after = { before with sent := sent }

instance : Std.Refl OnlySent := ⟨fun world => ⟨world.sent, rfl⟩⟩

instance : IsTrans World OnlySent where
  trans a b c h g := by
    obtain ⟨first, rfl⟩ := h
    obtain ⟨second, rfl⟩ := g
    exact ⟨second, rfl⟩

theorem announceFinal_onlySent : Keeps OnlySent announceFinal := by
  refine (of_final getRoom_final).bind fun room => get.bind fun world => ?_
  refine forM (fun entry => ?_) _
  split
  · exact fun world => ⟨_, rfl⟩
  · exact pure _

theorem tickRacing_ticked (hstage : world.stage = .racing) :
    Ticked now world ((tickRacing now).final world) := by
  rw [tickRacing, final_bind_ok (get_apply world)]
  split
  · rw [final_bind_ok (modify_apply _ _)]
    have hkeeps : Keeps OnlySent
        (if timeoutReached world.stageTimeout now then announceFinal else pure ()) := by
      split
      · exact announceFinal_onlySent
      · exact .pure _
    obtain ⟨sent, hsent⟩ := hkeeps (enterFinishing now world)
    rw [hsent]
    refine .of_room (.inr ?_) rfl (.inl rfl) rfl fun hwaiting => ?_
    · rw [hstage]
      exact ⟨by decide, rfl⟩
    · cases hwaiting
  · exact ticked_refl now world

theorem stop_ticked (hstops : Stops now world) :
    Ticked now world (tick now world) := by
  have hsame := stop_sameRace world
  rw [hstops.tick_eq]
  by_cases hdone : stop.Completes world
  · obtain ⟨done, stopped, hstopped⟩ := completes_iff.1 hdone
    rw [final_ok hstopped] at hsame
    rw [final_bind_ok hstopped]
    exact {
      stage := .inr (by rw [hstops.1]; exact ⟨by decide, rfl⟩)
      parameters := hsame.parameters
      racers := .inl hsame.racers
      room := .inr hstops
      none := hsame.none
      some := hsame.some
      ended := fun _ => .inr ⟨hstops, hdone, by rw [final_ok hstopped]; rfl⟩ }
  · rw [final_bind_of_not_completes hdone]
    exact {
      stage := .inl hsame.stage
      parameters := hsame.parameters
      racers := .inl hsame.racers
      room := .inr hstops
      none := hsame.none
      some := hsame.some
      ended := fun hwaiting => .inl (hsame.stage.symm.trans hwaiting) }

theorem tick_ticked (now : Instant) (world : World) : Ticked now world (tick now world) := by
  by_cases hstops : Stops now world
  · exact stop_ticked hstops
  · rw [tick, tickStage, final_bind_ok (get_apply world)]
    cases hstage : world.stage with
    | waiting => exact ticked_refl now world
    | loading => exact tickLoading_ticked hstage
    | racing => exact tickRacing_ticked hstage
    | finishing =>
      have hstays : ¬(allRacersFinished world || timeoutReached world.stageTimeout now) = true :=
        fun h => hstops ⟨hstage, h⟩
      show Ticked now world ((tickFinishing now).final world)
      rw [tickFinishing, final_bind_ok (get_apply world), if_neg hstays]
      exact ticked_refl now world

end Alicia.Race
