import Alicia.Race.Outcomes
import Alicia.Race.Ticks

/-!
# The players of the rooms

What the handlers and the race thread do to a value of a player that readiness does not bear on: its
client, or its team.  Only entering and leaving a room, and a change of the team, concern such values.
-/

namespace Alicia.Race

open Std (ExtTreeMap ExtTreeSet)
open Data (Uid invalidUid)
open Transition Transition.Effect NetworkHandler Option Collection Room
open NetworkHandler (removed succeeded closed roomless forgotten asked seated opened)

/-- A value of a player that its client and its team determine. -/
class Lasting {β : Type} (value : Room.Player → β) : Prop where
  same : ∀ first second : Room.Player, first.clientId = second.clientId → first.team = second.team →
    value first = value second

instance : Lasting Room.Player.clientId := ⟨fun _ _ hclient _ => hclient⟩

instance : Lasting Room.Player.team := ⟨fun _ _ _ hteam => hteam⟩

/-- The value of the player that the character is in the room. -/
def shownIn {β : Type} (value : Room.Player → β) (room : Room) (uid : Uid) : Option β :=
  room.players[uid]?.map value

variable {room : Room} (roomUid : UInt32)

def NetworkHandler.shown {β : Type} (value : Room.Player → β) (handler : NetworkHandler) (roomUid : UInt32)
    (uid : Uid) : Option β :=
  handler.rooms[roomUid]?.bind fun room => shownIn value room uid

section Shown

variable {β : Type} {value : Room.Player → β} {handler : NetworkHandler} {context : ClientContext}

theorem shown_setRoom (other : UInt32) (room : Room) (uid : Uid) :
    (handler.setRoom roomUid room).shown value other uid =
      if other = roomUid then shownIn value room uid else handler.shown value other uid := by
  unfold shown
  rw [rooms_setRoom]
  split
  · rfl
  · rfl

theorem shown_of_rooms {before after : NetworkHandler} (h : after.rooms = before.rooms)
    (roomUid : UInt32) (uid : Uid) : after.shown value roomUid uid = before.shown value roomUid uid := by
  unfold shown
  rw [h]

/-- Whether a character is in a room does not depend on the value that is shown. -/
theorem isSome_shown {γ : Type} (other : Player → γ) (roomUid : UInt32) (uid : Uid) :
    (handler.shown value roomUid uid).isSome = (handler.shown other roomUid uid).isSome := by
  unfold shown
  cases handler.rooms[roomUid]? with
  | none => rfl
  | some room =>
    rw [bind_some, bind_some, shownIn, shownIn, isSome_map, isSome_map]

/-- A change of a room that leaves its players where they are. -/
theorem shown_setRoom_same {roomUid : UInt32} {room changed : Room}
    (hroom : handler.rooms[roomUid]? = some room)
    (h : ∀ uid, shownIn value changed uid = shownIn value room uid) (other : UInt32) (uid : Uid) :
    (handler.setRoom roomUid changed).shown value other uid = handler.shown value other uid := by
  rw [shown_setRoom]
  split
  · next hsame =>
      rw [h, hsame, shown, hroom]
      rfl
  · rfl

theorem shown_modifyRoom {change : Room → Room}
    (h : ∀ room uid, shownIn value (change room) uid = shownIn value room uid)
    (roomUid other : UInt32) (uid : Uid) :
    (handler.modifyRoom roomUid change).shown value other uid = handler.shown value other uid := by
  unfold NetworkHandler.modifyRoom
  cases hroom : handler.rooms[roomUid]? with
  | none => rfl
  | some room => exact shown_setRoom_same hroom (h room) other uid

theorem shown_succeeded (first : Uid) (room : Room) (roomUid : UInt32) (uid : Uid) :
    (handler.succeeded first context room).shown value roomUid uid = handler.shown value roomUid uid := by
  unfold succeeded
  split
  · split
    · rfl
    · next candidateUid _ =>
        exact @shown_modifyRoom β value handler (·.setMaster candidateUid) (fun _ _ => rfl) _ _ _
  · rfl

/-- Nobody is in a room that is deleted. -/
theorem shown_closed (other : UInt32) (uid : Uid) :
    (handler.closed roomUid).shown value other uid = handler.shown value other uid := by
  unfold closed
  cases hroom : handler.rooms[roomUid]? with
  | none => rfl
  | some room =>
    dsimp only
    split
    · rfl
    · next hempty =>
        have hplayers : room.players = ∅ := by
          exact Std.ExtTreeMap.eq_empty_iff_size_eq_zero.2 (not_not.1 hempty)
        show ((handler.rooms.erase roomUid)[other]?.bind _) = _
        rw [getElem?_erase_self_or_ne, shown]
        split
        · next hsame =>
            rw [hsame, hroom, bind_some, shownIn, hplayers, Std.ExtTreeMap.getElem?_empty]
            rfl
        · rfl

theorem shown_removed (hroom : handler.rooms[context.roomUid]? = some room) (roomUid : UInt32)
    (uid : Uid) : (handler.removed context room).shown value roomUid uid =
      if roomUid = context.roomUid ∧ uid = context.characterUid then none
      else handler.shown value roomUid uid := by
  rw [removed, shown_setRoom]
  by_cases hsame : roomUid = context.roomUid
  · rw [if_pos hsame, shownIn, removePlayer, getElem?_erase_self_or_ne]
    by_cases huid : uid = context.characterUid
    · rw [if_pos huid, if_pos ⟨hsame, huid⟩]
      rfl
    · rw [if_neg huid, if_neg fun h => huid h.2, hsame, shown, hroom]
      rfl
  · rw [if_neg hsame, if_neg fun h => hsame h.1]
    exact shown_of_rooms (rooms_modifyRacer _ _) _ _

theorem clientId_apply (command : ChangeTeam) (player : Player) :
    (command.apply player).clientId = player.clientId := by
  unfold ChangeTeam.apply
  split
  · rfl
  · rfl
  · rfl

/-- What a change of one player leaves, if it does not bear on the value. -/
theorem shownIn_modifyPlayer {changed : Room} {characterUid : Uid}
    {change : Player → Player} (hchange : ∀ player, value (change player) = value player)
    (h : room.modifyPlayer characterUid change = .ok changed) (uid : Uid) :
    shownIn value changed uid = shownIn value room uid := by
  unfold modifyPlayer at h
  cases hplayer : room.players[characterUid]? with
  | none =>
    rw [hplayer] at h
    cases h
  | some player =>
    rw [hplayer] at h
    cases h
    rw [shownIn, getElem?_insert_self_or_ne]
    split
    · next hsame =>
        rw [hsame, shownIn, hplayer]
        exact congrArg some (hchange player)
    · rfl

/-- A change of the team leaves the clients of the players. -/
theorem clientId_changeTeam (client : ClientId) (command : ChangeTeam) (roomUid : UInt32) (uid : Uid) :
    ((handleChangeTeam client command).final handler).shown Player.clientId roomUid uid =
      handler.shown Player.clientId roomUid uid := by
  refine (handleChangeTeam_outcome client command handler).elim
    (P := fun after => after.shown Player.clientId roomUid uid = handler.shown Player.clientId roomUid uid)
    rfl ?_
  rintro _ ⟨_, _, _, -, hroom, hmodified, rfl⟩
  exact shown_setRoom_same hroom (shownIn_modifyPlayer (clientId_apply command) hmodified) roomUid uid

theorem shownIn_queuePlayer (characterUid : Uid) (room : Room) (uid : Uid) :
    shownIn value (room.queuePlayer characterUid).2 uid = shownIn value room uid := by
  unfold queuePlayer
  split
  · rfl
  · rfl

theorem shown_createRoom (details : Details) (characterUid : Uid) (roomUid : UInt32) (uid : Uid) :
    (handler.createRoom details characterUid).shown value roomUid uid = handler.shown value roomUid uid := by
  refine (shown_setRoom (handler.sequencedId + 1) roomUid _ uid).trans ?_
  split
  · next hsame =>
      rw [shownIn_queuePlayer, hsame, shown]
      cases handler.rooms[handler.sequencedId + 1]? with
      | none =>
        show (∅ : ExtTreeMap Uid Player)[uid]?.map _ = none
        rw [Std.ExtTreeMap.getElem?_empty]
        rfl
      | some room => rfl
  · rfl

/-! ## Races -/

theorem start_room (parameters : Parameters) (prepared : Bool) (now : Instant) (world : World) :
    (start parameters prepared now world).room = world.room := by
  unfold start
  split
  · rfl
  · rfl

theorem rooms_play_start (parameters : Parameters) (prepared : Bool) (now : Instant)
    {roomUid other : UInt32} (hroom : handler.rooms[other]? = some room) :
    (handler.play roomUid (start parameters prepared now)).rooms[other]? = some room := by
  unfold play
  cases handler.raceInstances[roomUid]? with
  | none => exact hroom
  | some race =>
    have hstart := start_room parameters prepared now (handler.world roomUid race)
    cases hfound : handler.rooms[roomUid]? with
    | none => exact (congrArg (·[other]?)
        (rooms_setWorld_none (hstart.trans hfound))).trans hroom
    | some found =>
      refine (congrArg (·[other]?)
        (rooms_setWorld_some (hstart.trans hfound))).trans ?_
      rw [getElem?_insert_self_or_ne]
      split
      · next hsame => rw [← hfound, ← hsame, hroom]
      · exact hroom

variable [Lasting value]

theorem shownIn_settled {before after : Room} (h : Settled before after) (uid : Uid) :
    shownIn value after uid = shownIn value before uid := by
  have hplayers := h.players uid
  unfold shownIn
  cases hafter : after.players[uid]? with
  | none =>
    rw [hafter] at hplayers
    rw [map_eq_none_iff.1 hplayers.symm]
  | some later =>
    rw [hafter] at hplayers
    obtain ⟨player, hplayer, hsame⟩ := map_eq_some_iff.1 hplayers.symm
    rw [hplayer]
    exact congrArg some
      (Lasting.same later player (congrArg Prod.fst hsame).symm (congrArg Prod.snd hsame).symm)

/-- A part of a race that settles its room at most. -/
theorem shown_play {part : World → World} (hnone : ∀ world, world.room = none → (part world).room = none)
    (hsome : ∀ world room, world.room = some room →
      ∃ later, (part world).room = some later ∧ Settled room later)
    (roomUid other : UInt32) (uid : Uid) :
    (handler.play roomUid part).shown value other uid = handler.shown value other uid := by
  unfold play
  cases handler.raceInstances[roomUid]? with
  | none => rfl
  | some race =>
    cases hroom : handler.rooms[roomUid]? with
    | none =>
      have hrooms : (part (handler.world roomUid race)).room = none := hnone _ hroom
      exact shown_of_rooms (rooms_setWorld_none hrooms) other uid
    | some room =>
      obtain ⟨later, hlater, hsettled⟩ := hsome (handler.world roomUid race) room hroom
      exact (shown_of_rooms (rooms_setWorld_some hlater) other uid).trans
        (shown_setRoom_same hroom (shownIn_settled hsettled) other uid)

theorem shown_tick (now : Instant) (other : UInt32) (uid : Uid) :
    (handler.play roomUid (tick now)).shown value other uid = handler.shown value other uid :=
  shown_play (fun world => (tick_ticked now world).none) (fun world => (tick_ticked now world).some)
    roomUid other uid

theorem shown_startRace (lookups : StartLookups) (roomUid : UInt32) (room : Room) (other : UInt32)
    (uid : Uid) :
    (handler.startRace lookups roomUid room).shown value other uid = handler.shown value other uid := by
  have hplayed := fun world => start_room (raceParameters room) lookups.prepared lookups.now world
  refine (shown_play (fun world hroom => (hplayed world).trans hroom)
    (fun world found hfound => ⟨found, (hplayed world).trans hfound, refl_of Settled found⟩)
    roomUid other uid).trans ?_
  exact shown_of_rooms (rooms_modifyRace _ _) other uid

theorem shown_handleStartRace (lookups : StartLookups) (client : ClientId) (roomUid : UInt32) (uid : Uid) :
    ((handleStartRace lookups client).final handler).shown value roomUid uid =
      handler.shown value roomUid uid := by
  have houtcome := handleStartRace_outcome lookups client handler
  generalize (handleStartRace lookups client).final handler = after at houtcome
  cases houtcome with
  | refused => rfl
  | cancelled context race room hstarts hprepared => exact shown_startRace lookups context.roomUid room roomUid uid
  | started context race room hstarts hprepared =>
    refine (@shown_setRoom_same β value _ _ room (room.setRoomPlaying true) ?_ (fun _ => rfl) _ _).trans
      ((shown_of_rooms (rooms_modifyRace _ _) roomUid uid).trans
        (shown_startRace lookups context.roomUid room roomUid uid))
    rw [rooms_modifyRace]
    refine rooms_play_start _ _ _ ?_
    rw [rooms_modifyRace]
    exact hstarts.found

end Shown

/-! ## Entering -/

section Entering

variable {β : Type} {value : Room.Player → β} {identityHash : IdentityHash} {lookups : EnterLookups}
  {client : ClientId} {command : EnterRoom} {handler : NetworkHandler}

/-- The player that enters the room. -/
def newPlayer (lookups : EnterLookups) (client : ClientId) (room : Room) : Room.Player where
  clientId := client
  team := room.nextTeam lookups.coin

/-- A room that turns a player away is not changed as far as its players go. -/
theorem shown_asked (hroom : handler.rooms[command.roomUid]? = some room)
    (haccepts : ¬room.Accepts command.characterUid) (roomUid : UInt32) (uid : Uid) :
    (handler.asked identityHash lookups client command room).shown value roomUid uid =
      handler.shown value roomUid uid := by
  obtain ⟨-, hplayers, -⟩ := addPlayer_of_not_accepts haccepts client lookups.coin
  refine @shown_setRoom_same β value (handler.authenticated identityHash lookups.now client command) _ room _
    hroom (fun other => ?_) roomUid uid
  rw [shownIn, hplayers]
  rfl

theorem shown_seated (hroom : handler.rooms[command.roomUid]? = some room)
    (haccepts : room.Accepts command.characterUid) (roomUid : UInt32) (uid : Uid) :
    (handler.seated identityHash lookups client command room).shown value roomUid uid =
      if roomUid = command.roomUid ∧ uid = command.characterUid then
        some (value (newPlayer lookups client room))
      else handler.shown value roomUid uid := by
  refine (shown_setRoom command.roomUid roomUid _ uid).trans ?_
  rw [addPlayer_of_accepts haccepts]
  by_cases hsame : roomUid = command.roomUid
  · rw [if_pos hsame, shownIn, getElem?_insert_self_or_ne]
    by_cases huid : uid = command.characterUid
    · rw [if_pos huid, if_pos ⟨hsame, huid⟩]
      rfl
    · rw [if_neg huid, if_neg fun h => huid h.2, hsame, shown, hroom]
      rfl
  · rw [if_neg hsame, if_neg fun h => hsame h.1]
    exact shown_of_rooms rfl roomUid uid

theorem shown_opened (uid : Uid) :
    (handler.opened command).shown value roomUid uid = handler.shown value roomUid uid := by
  unfold opened
  split
  · rfl
  · exact @shown_modifyRoom β value (handler.setRace command.roomUid {}) (·.setMaster command.characterUid)
      (fun _ _ => rfl) _ _ _

/-- A character that a room accepts is not in it. -/
theorem shown_of_accepts (hroom : handler.rooms[command.roomUid]? = some room)
    (haccepts : room.Accepts command.characterUid) :
    handler.shown value command.roomUid command.characterUid = none := by
  rw [shown, hroom, bind_some, shownIn,
    Std.ExtTreeMap.getElem?_eq_none haccepts.2]
  rfl

end Entering

/-! ## Steps -/

/-- Whoever is in a room before and after has the value that it had. -/
def Lasts {β : Type} (value : Room.Player → β) (before after : NetworkHandler) : Prop :=
  ∀ roomUid uid, after.shown value roomUid uid = before.shown value roomUid uid ∨
    after.shown value roomUid uid = none ∨ before.shown value roomUid uid = none

section Lasts

variable {β : Type} {value : Room.Player → β}

theorem Lasts.of_eq {before after : NetworkHandler}
    (h : ∀ roomUid uid, after.shown value roomUid uid = before.shown value roomUid uid) :
    Lasts value before after := fun roomUid uid => .inl (h roomUid uid)

theorem lasts_leave (first : Uid) (client : ClientId) (handler : NetworkHandler) :
    Lasts value handler ((handleLeaveRoom first client).final handler) := by
  have houtcome := handleLeaveRoom_outcome first client handler
  generalize (handleLeaveRoom first client).final handler = after at houtcome
  -- the player that leaves is in no room, and the others are as they were
  have hremoved (context : ClientContext) (room : Room) (hroom : handler.rooms[context.roomUid]? = some room) :
      Lasts value handler (handler.removed context room) := by
    intro roomUid uid
    rw [shown_removed hroom]
    split
    · exact .inr (.inl rfl)
    · exact .inl rfl
  cases houtcome with
  | refused h => exact .of_eq fun _ _ => rfl
  | deleted context hleaves hroom => exact .of_eq (shown_of_rooms (rooms_modifyRacer _ _))
  | stuck context hleaves room hroom hmaster candidateUid hcandidate hlost => exact hremoved context room hroom
  | left context hleaves room hroom =>
    have hsame (roomUid : UInt32) (uid : Uid) :
        ((((handler.removed context room).succeeded first context room).closed context.roomUid).roomless client
          context).shown value roomUid uid = (handler.removed context room).shown value roomUid uid :=
      (shown_closed context.roomUid roomUid uid).trans (shown_succeeded first room roomUid uid)
    intro roomUid uid
    rw [hsame]
    exact hremoved context room hroom roomUid uid

theorem lasts_disconnect (first : Uid) (client : ClientId) (handler : NetworkHandler) :
    Lasts value handler ((handleClientDisconnected first client).final handler) := by
  have houtcome := handleClientDisconnected_outcome first client handler
  generalize (handleClientDisconnected first client).final handler = after at houtcome
  cases houtcome with
  | unknown h => exact .of_eq fun _ _ => rfl
  | idle context h hidle => exact .of_eq fun _ _ => rfl
  | failed context h => exact lasts_leave first client handler
  | gone context h => exact lasts_leave first client handler

theorem lasts_enter (identityHash : IdentityHash) (lookups : EnterLookups) (client : ClientId)
    (command : EnterRoom) (handler : NetworkHandler) :
    Lasts value handler ((handleEnterRoom identityHash lookups client command).final handler) := by
  have houtcome := handleEnterRoom_outcome identityHash lookups client command handler
  generalize (handleEnterRoom identityHash lookups client command).final handler = after at houtcome
  have hseated (room : Room) (hroom : handler.rooms[command.roomUid]? = some room)
      (haccepts : room.Accepts command.characterUid) :
      Lasts value handler (handler.seated identityHash lookups client command room) := by
    intro roomUid uid
    rw [shown_seated hroom haccepts]
    split
    · next hsame =>
        rw [hsame.1, hsame.2]
        exact .inr (.inr (shown_of_accepts hroom haccepts))
    · exact .inl rfl
  cases houtcome with
  | refused h => exact .of_eq fun _ _ => rfl
  | nowhere h hroom => exact .of_eq fun _ _ => rfl
  | turnedAway h room hroom haccepts => exact .of_eq (shown_asked hroom haccepts)
  | offline h room hroom haccepts => exact hseated room hroom haccepts
  | entered h room hroom haccepts =>
    intro roomUid uid
    rw [shown_opened]
    exact hseated room hroom haccepts roomUid uid

variable [Lasting value] {handler : NetworkHandler}

/-- Only a change of the team concerns a player that stays in its room. -/
theorem lasts_handle (identityHash : IdentityHash) (client : ClientId) {command : Command}
    (hcommand : ∀ change, command ≠ .changeTeam change) :
    Lasts value handler (handle identityHash handler client command) := by
  cases command with
  | enterRoom lookups command => exact lasts_enter identityHash lookups client command handler
  | leaveRoom first => exact lasts_leave first client handler
  | kick first firstClient characterUid =>
    refine (handleKickUser_outcome first firstClient client characterUid handler).elim
      (P := Lasts value handler) (.of_eq fun _ _ => rfl) ?_
    rintro _ ⟨_, _, _, targetClient, -, -, -, -, -, -, -, -, rfl⟩
    exact lasts_leave first targetClient handler
  | readyRace =>
    refine (handleReadyRace_outcome client handler).elim
      (P := Lasts value handler) (.of_eq fun _ _ => rfl) ?_
    rintro _ ⟨_, _, _, -, hroom, hmodified, rfl⟩
    exact .of_eq (shown_setRoom_same hroom
      (shownIn_modifyPlayer (fun player => Lasting.same player.toggleReady player rfl rfl) hmodified))
  | changeTeam change => exact absurd rfl (hcommand change)
  | changeRoomOptions command =>
    refine (handleChangeRoomOptions_outcome client command handler).elim
      (P := Lasts value handler) (.of_eq fun _ _ => rfl) ?_
    rintro _ ⟨_, _, -, hroom, rfl⟩
    exact .of_eq (shown_setRoom_same hroom fun _ => rfl)
  | startRace lookups => exact .of_eq (shown_handleStartRace lookups client)
  | loadingComplete =>
    refine (handleLoadingComplete_outcome client handler).elim
      (P := Lasts value handler) (.of_eq fun _ _ => rfl) ?_
    rintro _ ⟨context, _, _, -, rfl⟩
    exact .of_eq (shown_of_rooms (rooms_modifyRacer _ _))
  | userRaceFinal command =>
    refine (handleUserRaceFinal_outcome client command handler).elim
      (P := Lasts value handler) (.of_eq fun _ _ => rfl) ?_
    rintro _ ⟨context, _, _, -, rfl⟩
    exact .of_eq (shown_of_rooms (rooms_modifyRacer _ _))

theorem lasts_serve (identityHash : IdentityHash) {input : ServerInput}
    (hinput : ∀ client change, input ≠ .command client (.changeTeam change)) :
    Lasts value handler (serve identityHash handler input) := by
  cases input with
  | connect client =>
    refine .of_eq (shown_of_rooms ?_)
    rw [serve, handleClientConnected]
    split <;> rfl
  | disconnect client first =>
    rw [serve]
    split
    · exact lasts_disconnect first client handler
    · exact .of_eq fun _ _ => rfl
  | command client command =>
    rw [serve]
    split
    · refine lasts_handle identityHash client fun change hchange => ?_
      exact hinput client change (congrArg (ServerInput.command client) hchange)
    · exact .of_eq fun _ _ => rfl
  | tick roomUid now => exact .of_eq (shown_tick roomUid now)
  | createRoom details characterUid => exact .of_eq (shown_createRoom details characterUid)
  | queuePlayer roomUid characterUid =>
    exact .of_eq (shown_modifyRoom (shownIn_queuePlayer characterUid) roomUid)
  | dequeuePlayer roomUid characterUid =>
    exact .of_eq (@shown_modifyRoom β value handler (fun room => (room.dequeuePlayer characterUid).2)
      (fun _ _ => rfl) roomUid)
  | grantCode characterUid roomUid now code => exact .of_eq fun _ _ => rfl
  | outside records => exact .of_eq fun _ _ => rfl

end Lasts

end Alicia.Race
