import Alicia.Race.Players

/-!
# The teams of the players

`HandleChangeTeam` writes the team of a player before it asks whether the race waits, and answers with the
color that the client has sent.  The teams that the clients are told are those of the room exactly as long
as neither matters.
-/

namespace Alicia.Race

open Std (ExtTreeMap ExtTreeSet)
open Data (Uid invalidUid)
open Transition Transition.Effect NetworkHandler Option

/-- The team of a character in a room. -/
abbrev NetworkHandler.team (handler : NetworkHandler) (roomUid : UInt32) (uid : Uid) : Option Room.Team :=
  handler.shown Room.Player.team roomUid uid

theorem teamColor_injective {first second : Room.Team} (h : teamColor first = teamColor second) :
    first = second := by
  cases first <;> cases second <;> first | rfl | cases h

/-! ## One command -/

/-- The color is that of a team. -/
def ChangeTeam.isTeam (command : ChangeTeam) : Bool :=
  command.teamColor = .red || command.teamColor = .blue

section Apply

variable (command : ChangeTeam) (player : Room.Player)

/-- The player has the color that was named. -/
theorem teamColor_changed : teamColor (command.apply player).team = command.teamColor ↔
    command.isTeam = true ∨ command.teamColor = teamColor player.team := by
  obtain ⟨characterOid, color⟩ := command
  cases color with
  | red => exact iff_of_true rfl (.inl rfl)
  | blue => exact iff_of_true rfl (.inl rfl)
  | solo => exact eq_comm.trans (or_iff_right Bool.false_ne_true).symm
  | unknown => exact eq_comm.trans (or_iff_right Bool.false_ne_true).symm

/-- The player has the team that it had. -/
theorem team_changed : (command.apply player).team = player.team ↔
    (command.isTeam = true → command.teamColor = teamColor player.team) := by
  obtain ⟨characterOid, color⟩ := command
  cases color with
  | red => exact ⟨fun h _ => congrArg teamColor h, fun h => teamColor_injective (h rfl)⟩
  | blue => exact ⟨fun h _ => congrArg teamColor h, fun h => teamColor_injective (h rfl)⟩
  | solo => exact iff_of_true rfl fun h => absurd h Bool.false_ne_true
  | unknown => exact iff_of_true rfl fun h => absurd h Bool.false_ne_true

end Apply

section Command

variable {handler : NetworkHandler} {client : ClientId} {command : ChangeTeam} {context : ClientContext}
  {room : Room} {player : Room.Player}

/-- The player that the command names in the room of the client. -/
structure Names (handler : NetworkHandler) (client : ClientId) (command : ChangeTeam) (context : ClientContext)
    (room : Room) (player : Room.Player) : Prop where
  owns : Owns handler client context
  found : handler.rooms[context.roomUid]? = some room
  plays : room.players[command.characterOid]? = some player

/-- The race of the client's room is found, and waits. -/
def NetworkHandler.waits (handler : NetworkHandler) (context : ClientContext) : Bool :=
  match handler.getRaceInstance context with
  | .error _ => false
  | .ok race => race.stage = .waiting

/-- `AcCmdCRChangeTeamOK` is sent. -/
def acknowledged (client : ClientId) (command : ChangeTeam) (handler : NetworkHandler) : Bool :=
  ((handleChangeTeam client command).returned handler).getD false

/-- The room with the team that the command names. -/
def changedRoom (command : ChangeTeam) (room : Room) (player : Room.Player) : Room :=
  { room with players := room.players.insert command.characterOid (command.apply player) }

theorem handleChangeTeam_apply (h : Names handler client command context room player) :
    handleChangeTeam client command handler =
      (ask (·.getRaceInstance context) >>= fun race => pure (decide (race.stage = .waiting)) : Handling Bool)
        (handler.setRoom context.roomUid (changedRoom command room player)) := by
  have hcontext : handler.getClientContext client true = .ok context :=
    getClientContext_eq_ok.2 ⟨h.owns.connected, fun _ => h.owns.authenticated⟩
  have hchanged : (ask fun _ => room.modifyPlayer command.characterOid command.apply : Handling Room) handler =
      .ok (changedRoom command room player) handler := by
    refine ask_ok ?_
    rw [Room.modifyPlayer, h.plays]
    rfl
  rw [handleChangeTeam, bind_ok (ask_context hcontext), bind_ok (ask_room h.found), bind_ok hchanged,
    bind_ok (modify_apply _ _)]

theorem handleChangeTeam_final (h : Names handler client command context room player) :
    (handleChangeTeam client command).final handler =
      handler.setRoom context.roomUid (changedRoom command room player) := by
  rw [final_congr (handleChangeTeam_apply h)]
  exact final_ask_bind_of fun _ => rfl

/-- The answer depends on the race alone. -/
theorem acknowledged_eq (h : Names handler client command context room player) :
    acknowledged client command handler = handler.waits context := by
  have hrace : (handler.setRoom context.roomUid (changedRoom command room player)).getRaceInstance context =
      handler.getRaceInstance context := rfl
  have happly := handleChangeTeam_apply h
  generalize handler.setRoom context.roomUid (changedRoom command room player) = changed at happly hrace
  unfold acknowledged waits
  rw [← hrace]
  cases hfound : changed.getRaceInstance context with
  | error failure =>
    rw [returned_error (happly.trans (ask_bind_error (getRaceInstance · context) hfound _))]
    rfl
  | ok race =>
    rw [returned_ok (happly.trans (bind_ok (ask_race hfound) _))]
    rfl

/-- Whoever names nobody changes nothing. -/
theorem handleChangeTeam_unnamed (h : ∀ context room player, ¬Names handler client command context room player) :
    ∃ failure, handleChangeTeam client command handler = .error failure handler := by
  cases hcontext : handler.getClientContext client true with
  | error failure => exact ⟨failure, ask_bind_error (NetworkHandler.getClientContext · client true) hcontext _⟩
  | ok context =>
    cases hroom : handler.getRoom context.roomUid with
    | error failure =>
      refine ⟨failure, ?_⟩
      rw [handleChangeTeam, bind_ok (ask_context hcontext)]
      exact ask_bind_error (NetworkHandler.getRoom · context.roomUid) hroom _
    | ok room =>
      cases hplayer : room.players[command.characterOid]? with
      | some player => exact absurd ⟨owns_of_ok hcontext, getRoom_eq_ok.1 hroom, hplayer⟩ (h context room player)
      | none =>
        refine ⟨"Room player does not exist", ?_⟩
        rw [handleChangeTeam, bind_ok (ask_context hcontext), bind_ok (ask_room (getRoom_eq_ok.1 hroom))]
        refine ask_bind_error (fun _ => room.modifyPlayer command.characterOid command.apply) ?_ _
        rw [Room.modifyPlayer, hplayer]

theorem team_changeTeam (h : Names handler client command context room player) (roomUid : UInt32) (uid : Uid) :
    ((handleChangeTeam client command).final handler).team roomUid uid =
      if roomUid = context.roomUid ∧ uid = command.characterOid then some (command.apply player).team
      else handler.team roomUid uid := by
  unfold team
  rw [handleChangeTeam_final h, shown_setRoom]
  by_cases hroom : roomUid = context.roomUid
  · rw [if_pos hroom, shownIn, changedRoom, Collection.getElem?_insert_self_or_ne]
    by_cases huid : uid = command.characterOid
    · rw [if_pos huid, if_pos ⟨hroom, huid⟩]
      rfl
    · rw [if_neg huid, if_neg fun h => huid h.2, hroom, shown, h.found]
      rfl
  · rw [if_neg hroom, if_neg fun h => hroom h.1]

theorem team_named (h : Names handler client command context room player) :
    handler.team context.roomUid command.characterOid = some player.team := by
  rw [team, shown, h.found, bind_some, shownIn, h.plays]
  rfl

/-- A command that is not acknowledged leaves the teams of all players unchanged; one that is changes the team
of the character that it names, to the color that is announced. -/
structure Faithful (handler : NetworkHandler) (client : ClientId) (command : ChangeTeam) : Prop where
  refused : acknowledged client command handler = false →
    ∀ roomUid uid, ((handleChangeTeam client command).final handler).team roomUid uid = handler.team roomUid uid
  acknowledged : acknowledged client command handler = true → ∃ context, Owns handler client context ∧
    (∀ roomUid uid, ¬(roomUid = context.roomUid ∧ uid = command.characterOid) →
      ((handleChangeTeam client command).final handler).team roomUid uid = handler.team roomUid uid) ∧
    (((handleChangeTeam client command).final handler).team context.roomUid command.characterOid).map teamColor =
      some command.teamColor

/-- The condition on a command that names a player.  While the race waits, the color is that of a team; without a
race that waits, it is not; or the player has the color already. -/
def Fits (handler : NetworkHandler) (client : ClientId) (command : ChangeTeam) : Prop :=
  ∀ context room player, Names handler client command context room player →
    command.isTeam = handler.waits context ∨ command.teamColor = teamColor player.team

theorem faithful_iff : Faithful handler client command ↔ Fits handler client command := by
  by_cases hnames : ∃ context room player, Names handler client command context room player
  · obtain ⟨context, room, player, hnames⟩ := hnames
    have hfits : Fits handler client command ↔
        command.isTeam = handler.waits context ∨ command.teamColor = teamColor player.team := by
      refine ⟨fun h => h context room player hnames, fun h other found named hother => ?_⟩
      cases hnames.owns.connected.symm.trans hother.owns.connected
      cases hnames.found.symm.trans hother.found
      cases hnames.plays.symm.trans hother.plays
      exact h
    have hteam := team_changeTeam hnames
    rw [hfits]
    cases hwaits : handler.waits context with
    | false =>
      have hrefused : acknowledged client command handler = false := (acknowledged_eq hnames).trans hwaits
      have hkept : (command.isTeam = false ∨ command.teamColor = teamColor player.team) ↔
          (command.apply player).team = player.team := by
        rw [team_changed, ← Bool.not_eq_true]
        exact Decidable.imp_iff_not_or.symm
      rw [hkept]
      constructor
      · intro h
        have hsame := h.refused hrefused context.roomUid command.characterOid
        rw [hteam, if_pos ⟨rfl, rfl⟩, team_named hnames] at hsame
        exact Option.some.inj hsame
      · intro h
        refine ⟨fun _ roomUid uid => ?_, fun hacknowledged => ?_⟩
        · rw [hteam]
          split
          · next hsame => rw [hsame.1, hsame.2, team_named hnames, h]
          · rfl
        · cases hrefused.symm.trans hacknowledged
    | true =>
      have hanswered : acknowledged client command handler = true := (acknowledged_eq hnames).trans hwaits
      rw [← teamColor_changed]
      constructor
      · intro h
        obtain ⟨other, hother, -, hcolor⟩ := h.acknowledged hanswered
        cases hnames.owns.connected.symm.trans hother.connected
        rw [hteam, if_pos ⟨rfl, rfl⟩] at hcolor
        exact Option.some.inj hcolor
      · intro h
        refine ⟨fun hrefused => ?_, fun _ => ⟨context, hnames.owns, fun roomUid uid hother => ?_, ?_⟩⟩
        · cases hanswered.symm.trans hrefused
        · rw [hteam, if_neg hother]
        · rw [hteam, if_pos ⟨rfl, rfl⟩]
          exact congrArg some h
  · have hnone : ∀ context room player, ¬Names handler client command context room player :=
      fun context room player h => hnames ⟨context, room, player, h⟩
    obtain ⟨failure, hfailure⟩ := handleChangeTeam_unnamed hnone
    refine iff_of_true ⟨fun _ roomUid uid => ?_, fun hacknowledged => ?_⟩
      fun context room player h => absurd h (hnone context room player)
    · rw [final_error hfailure]
    · rw [acknowledged, returned_error hfailure] at hacknowledged
      cases hacknowledged

end Command

/-! ## What the clients are told -/

/-- What the clients of the players of the rooms have been told about the teams, by the room, the player and the
character in question. -/
abbrev Sight := UInt32 → Uid → Uid → Option TeamColor

/-- News about a room, for the clients of some of its players. -/
def Sight.tell (sight : Sight) (roomUid : UInt32) (hears : Uid → Bool) (news : Uid → Option TeamColor) : Sight :=
  fun other member uid =>
    if other = roomUid ∧ hears member = true then (news uid).or (sight other member uid)
    else sight other member uid

/-- The color of a character in `AcCmdCREnterRoomOK`. -/
def EnterRoomOK.color (response : EnterRoomOK) (uid : Uid) : Option TeamColor :=
  (response.racers.find? fun racer => racer.uid = uid).map fun racer => teamColor racer.team

/-- `AcCmdCREnterRoomOK` tells a client all teams, and `AcCmdCREnterRoomNotify` tells the others its own. -/
def Sight.enter (sight : Sight) (characterUid : Uid) (response : EnterRoomOK) : Sight :=
  (sight.tell response.uid (fun member => member = characterUid) response.color).tell response.uid
    (fun member => member ≠ characterUid) fun uid => if uid = characterUid then response.color uid else none

/-- `AcCmdCRChangeTeamOK` goes to the client, `AcCmdCRChangeTeamNotify` to those of all players of its room but its
own. -/
def Sight.change (sight : Sight) (handler : NetworkHandler) (client : ClientId) (context : ClientContext)
    (command : ChangeTeam) : Sight :=
  sight.tell context.roomUid
    (fun member => member ≠ context.characterUid ||
      handler.shown Room.Player.clientId context.roomUid member = some client)
    fun uid => if uid = command.characterOid then some command.teamColor else none

/-- Only players of one room see each other. -/
def Sight.among (sight : Sight) (handler : NetworkHandler) : Sight := fun roomUid member uid =>
  if (handler.team roomUid member).isSome = true ∧ (handler.team roomUid uid).isSome = true then
    sight roomUid member uid
  else none

/-- A server, and what its clients see. -/
structure Watched where
  handler : NetworkHandler := {}
  sight : Sight := fun _ _ _ => none

/-- What the clients see once an input has been answered. -/
def told (identityHash : IdentityHash) (state : Watched) : ServerInput → Sight
  | .command client (.enterRoom lookups command) =>
    if client ∈ state.handler.connected then
      match (handleEnterRoom identityHash lookups client command).returned state.handler with
      | some (.ok response) => state.sight.enter command.characterUid response
      | _ => state.sight
    else state.sight
  | .command client (.changeTeam command) =>
    match state.handler.clients[client]? with
    | none => state.sight
    | some context =>
      if client ∈ state.handler.connected ∧ acknowledged client command state.handler = true then
        state.sight.change state.handler client context command
      else state.sight
  | _ => state.sight

def watch (identityHash : IdentityHash) (state : Watched) (input : ServerInput) : Watched :=
  let handler := serve identityHash state.handler input
  ⟨handler, (told identityHash state input).among handler⟩

/-- The color that a client sees is that of the team in the room. -/
def Agrees (handler : NetworkHandler) (sight : Sight) : Prop :=
  ∀ roomUid member uid color, sight roomUid member uid = some color →
    (handler.team roomUid uid).map teamColor = some color

/-- The condition on the commands that change a team: they fit, and the player of the sender's character is the
sender's. -/
def Heeds (state : Watched) : ServerInput → Prop
  | .command client (.changeTeam command) => client ∈ state.handler.connected →
      Fits state.handler client command ∧ ∀ context, Owns state.handler client context → ∀ other,
        state.handler.shown Room.Player.clientId context.roomUid context.characterUid = some other → other = client
  | _ => True

/-! ## Rooms that are entered -/

section Entering

variable {identityHash : IdentityHash} {lookups : EnterLookups} {client : ClientId} {command : EnterRoom}
  {handler after : NetworkHandler} {response : EnterRoomOK}

/-- The racers are the players, in their order. -/
theorem describeRacers_eq_ok {room : Room} {players : List (Uid × Room.Player)} {racers : List RoomRacer}
    (h : describeRacers lookups room handler players = .ok racers) :
    racers.map (fun racer => (racer.uid, racer.team)) = players.map fun entry => (entry.1, entry.2.team) := by
  induction players generalizing racers with
  | nil =>
    cases h
    rfl
  | cons entry rest ih =>
    obtain ⟨uid, player⟩ := entry
    rw [describeRacers] at h
    split at h
    · cases h
    · cases h
    · cases hrest : describeRacers lookups room handler rest with
      | error failure =>
        rw [hrest] at h
        cases h
      | ok others =>
        rw [hrest] at h
        cases h
        rw [List.map_cons, List.map_cons, ih hrest]

theorem color_of_ok (h : enterRoomOK lookups command handler = .ok response) : response.uid = command.roomUid ∧
    ∀ uid, response.color uid = (handler.team command.roomUid uid).map teamColor := by
  rw [enterRoomOK] at h
  cases hroom : handler.rooms[command.roomUid]? with
  | none =>
    rw [NetworkHandler.getRoom, hroom] at h
    cases h
  | some room =>
    rw [NetworkHandler.getRoom, hroom] at h
    dsimp only at h
    cases hracers : describeRacers lookups room handler room.players.toList with
    | error failure =>
      rw [hracers] at h
      cases h
    | ok racers =>
      rw [hracers] at h
      cases h
      refine ⟨rfl, fun uid => ?_⟩
      have hfind := congrArg (fun entries => (entries.find? fun entry => entry.1 = uid).map Prod.snd)
        (describeRacers_eq_ok hracers)
      rw [List.find?_map, List.find?_map, map_map, map_map] at hfind
      have hplayer := Collection.map_snd_find?_toList room.players uid
      rw [NetworkHandler.team, NetworkHandler.shown, hroom, bind_some, shownIn, ← hplayer,
        map_map, map_map]
      refine Eq.trans ?_ ((congrArg (Option.map teamColor) hfind).trans ?_)
      · rw [map_map]
        rfl
      · rw [map_map]
        rfl

/-- The answer to a client that enters a room describes the room as it is then. -/
theorem handleEnterRoom_eq_ok
    (h : handleEnterRoom identityHash lookups client command handler = .ok (.ok response) after) :
    response.uid = command.roomUid ∧
      ∀ uid, response.color uid = (after.team command.roomUid uid).map teamColor := by
  obtain ⟨_, _, hget, hstart⟩ := bind_eq_ok.1 h
  cases hget
  obtain ⟨_, _, -, hasked⟩ := bind_eq_ok.1 hstart
  split at hasked
  · cases hasked
  · obtain ⟨isOvercrowded, _, -, hadded⟩ := bind_eq_ok.1 hasked
    split at hadded
    · cases hadded
    · obtain ⟨_, _, -, hjoined⟩ := bind_eq_ok.1 hadded
      obtain ⟨_, _, -, honline⟩ := bind_eq_ok.1 hjoined
      obtain ⟨_, _, -, hcreated⟩ := bind_eq_ok.1 honline
      obtain ⟨_, _, -, hlogged⟩ := bind_eq_ok.1 hcreated
      obtain ⟨_, _, hresponse, hreturned⟩ := bind_eq_ok.1 hlogged
      obtain ⟨hfound, rfl⟩ := ask_eq_ok.1 hresponse
      cases hreturned
      exact color_of_ok hfound

end Entering

/-! ## Steps -/

section Steps

variable {identityHash : IdentityHash} {state : Watched} {handler : NetworkHandler} {sight : Sight}

theorem Agrees.among (h : ∀ roomUid member uid color, sight roomUid member uid = some color →
      (handler.team roomUid uid).isSome = true → (handler.team roomUid uid).map teamColor = some color) :
    Agrees handler (sight.among handler) := by
  intro roomUid member uid color hcolor
  unfold Sight.among at hcolor
  split at hcolor
  · next hplayers => exact h roomUid member uid color hcolor hplayers.2
  · cases hcolor

/-- Where the teams last, what was seen is still right for whoever is in the room. -/
theorem Agrees.lasts (h : Agrees state.handler state.sight)
    (hlasts : Lasts Room.Player.team state.handler handler) {roomUid : UInt32} {member uid : Uid}
    {color : TeamColor} (hcolor : state.sight roomUid member uid = some color)
    (hplayer : (handler.team roomUid uid).isSome = true) :
    (handler.team roomUid uid).map teamColor = some color := by
  have hbefore := h roomUid member uid color hcolor
  obtain hsame | hgone | hnew := hlasts roomUid uid
  · rw [team, hsame]
    exact hbefore
  · rw [team, hgone] at hplayer
    cases hplayer
  · rw [team, hnew] at hbefore
    cases hbefore

/-- A step that tells nothing. -/
theorem Agrees.silent (h : Agrees state.handler state.sight)
    (hlasts : Lasts Room.Player.team state.handler handler) : Agrees handler (state.sight.among handler) :=
  .among fun _ _ _ _ hcolor hplayer => h.lasts hlasts hcolor hplayer

theorem agrees_enter (h : Agrees state.handler state.sight) {lookups : EnterLookups} {client : ClientId}
    {command : EnterRoom} {response : EnterRoomOK}
    (hresponse : (handleEnterRoom identityHash lookups client command).returned state.handler = some (.ok response))
    (hlasts : Lasts Room.Player.team state.handler
      ((handleEnterRoom identityHash lookups client command).final state.handler)) :
    Agrees ((handleEnterRoom identityHash lookups client command).final state.handler)
      ((state.sight.enter command.characterUid response).among
        ((handleEnterRoom identityHash lookups client command).final state.handler)) := by
  cases hhandled : handleEnterRoom identityHash lookups client command state.handler with
  | error failure after =>
    rw [returned_error hhandled] at hresponse
    cases hresponse
  | ok reply after =>
    rw [returned_ok hhandled] at hresponse
    cases hresponse
    rw [final_ok hhandled] at hlasts ⊢
    obtain ⟨hroom, hcolors⟩ := handleEnterRoom_eq_ok hhandled
    refine .among fun roomUid member uid color hcolor hplayer => ?_
    unfold Sight.enter at hcolor
    -- the notify comes on top of the answer, and both are right about the room
    have hnews {news : Uid → Option TeamColor} {hears : Uid → Bool} {sight : Sight}
        (hright : ∀ uid color, news uid = some color → response.color uid = some color)
        (hbefore : sight roomUid member uid = some color → (after.team roomUid uid).map teamColor = some color)
        (htold : sight.tell response.uid hears news roomUid member uid = some color) :
        (after.team roomUid uid).map teamColor = some color := by
      unfold Sight.tell at htold
      split at htold
      · next hears =>
          rw [or_eq_some_iff] at htold
          obtain hnew | ⟨-, hold⟩ := htold
          · rw [hears.1, hroom, ← hcolors]
            exact hright uid color hnew
          · exact hbefore hold
      · exact hbefore htold
    refine hnews (fun uid color hnew => ?_) (hnews (fun _ _ hnew => hnew) fun hold => h.lasts hlasts hold hplayer) hcolor
    split at hnew
    · exact hnew
    · cases hnew

/-- An acknowledged command is told to every player of the room. -/
theorem agrees_change (h : Agrees state.handler state.sight) {client : ClientId} {command : ChangeTeam}
    {context : ClientContext} (hcontext : state.handler.clients[client]? = some context)
    (hacknowledged : acknowledged client command state.handler = true) (hfits : Fits state.handler client command)
    (hown : ∀ other, state.handler.shown Room.Player.clientId context.roomUid context.characterUid = some other →
      other = client) :
    Agrees ((handleChangeTeam client command).final state.handler)
      ((state.sight.change state.handler client context command).among
        ((handleChangeTeam client command).final state.handler)) := by
  obtain ⟨other, howns, hothers, hannounced⟩ := (faithful_iff.2 hfits).acknowledged hacknowledged
  cases hcontext.symm.trans howns.connected
  intro roomUid member uid color hcolor
  unfold Sight.among at hcolor
  split at hcolor
  · next hplayers =>
      unfold Sight.change Sight.tell at hcolor
      by_cases hnamed : roomUid = context.roomUid ∧ uid = command.characterOid
      · obtain ⟨rfl, rfl⟩ := hnamed
        have hears : (decide (member ≠ context.characterUid) || decide (state.handler.shown Room.Player.clientId
            context.roomUid member = some client)) = true := by
          by_cases hmember : member = context.characterUid
          · subst hmember
            have hplayer := hplayers.1
            rw [isSome_shown Room.Player.clientId, clientId_changeTeam] at hplayer
            obtain ⟨other, hother⟩ := isSome_iff_exists.1 hplayer
            rw [hother, hown other hother, decide_eq_true rfl, Bool.or_true]
          · rw [decide_eq_true hmember, Bool.true_or]
        rw [if_pos ⟨rfl, hears⟩] at hcolor
        dsimp only at hcolor
        rw [if_pos rfl] at hcolor
        cases hcolor
        exact hannounced
      · rw [hothers roomUid uid hnamed]
        refine h roomUid member uid color ?_
        split at hcolor
        · next hroom =>
            dsimp only at hcolor
            rw [if_neg fun huid => hnamed ⟨hroom.1, huid⟩] at hcolor
            exact hcolor
        · exact hcolor
  · cases hcolor

theorem agrees_watch (identityHash : IdentityHash) (state : Watched) (input : ServerInput)
    (h : Agrees state.handler state.sight) (hheeds : Heeds state input) :
    Agrees (watch identityHash state input).handler (watch identityHash state input).sight := by
  have hsilent (hinput : ∀ client change, input ≠ .command client (.changeTeam change)) :
      Agrees (serve identityHash state.handler input) (state.sight.among (serve identityHash state.handler input)) :=
    h.silent (lasts_serve identityHash hinput)
  cases input with
  | command client command =>
    by_cases hin : client ∈ state.handler.connected
    · cases command with
      | enterRoom lookups command =>
        have hlasts : Lasts Room.Player.team state.handler
            ((handleEnterRoom identityHash lookups client command).final state.handler) :=
          lasts_enter identityHash lookups client command state.handler
        rw [watch, told, serve, if_pos hin, if_pos hin]
        dsimp only [handle]
        split
        · next response hresponse => exact agrees_enter h hresponse hlasts
        · exact h.silent hlasts
      | changeTeam command =>
        obtain ⟨hfits, hown⟩ := hheeds hin
        rw [watch, told, serve, if_pos hin]
        dsimp only [handle]
        -- without an answer the teams are as they were
        have hrefused (hanswer : acknowledged client command state.handler = false) :=
          h.silent (Lasts.of_eq ((faithful_iff.2 hfits).refused hanswer))
        cases hcontext : state.handler.clients[client]? with
        | none =>
          refine hrefused (Bool.eq_false_iff.2 fun hanswer => ?_)
          obtain ⟨context, howns, -⟩ := (faithful_iff.2 hfits).acknowledged hanswer
          cases hcontext.symm.trans howns.connected
        | some context =>
          dsimp only
          split
          · next hanswer =>
              obtain ⟨other, howns, -⟩ := (faithful_iff.2 hfits).acknowledged hanswer.2
              cases hcontext.symm.trans howns.connected
              exact agrees_change h hcontext hanswer.2 hfits (hown context howns)
          · next hanswer => exact hrefused (Bool.eq_false_iff.2 fun hacknowledged => hanswer ⟨hin, hacknowledged⟩)
      | _ => exact hsilent fun _ _ hchange => by cases hchange
    · have hnothing : serve identityHash state.handler (.command client command) = state.handler := if_neg hin
      have htold : told identityHash state (.command client command) = state.sight := by
        cases command with
        | enterRoom lookups command => exact if_neg hin
        | changeTeam command =>
          rw [told]
          split
          · rfl
          · exact if_neg fun hanswer => hin hanswer.1
        | _ => rfl
      rw [watch, htold, hnothing]
      exact h.silent (.of_eq fun _ _ => rfl)
  | _ => exact hsilent fun _ _ hchange => by cases hchange

end Steps

/-! ## Runs -/

/-- What the clients see is what the rooms hold, what their next races begin with, and what `CanRoomStart` counts, for
whoever sees all players. -/
structure InStep (state : Watched) : Prop where
  seen : Agrees state.handler state.sight
  raced : ∀ roomUid room, state.handler.rooms[roomUid]? = some room → ∀ member uid color,
    state.sight roomUid member uid = some color → (loadingRacers room)[uid]?.map Racer.team = some color
  counted : ∀ roomUid room, state.handler.rooms[roomUid]? = some room → ∀ member,
    (∀ uid ∈ room.players, (state.sight roomUid member uid).isSome = true) → ∀ team,
      room.teamCount team =
        (room.players.keys.filter fun uid => state.sight roomUid member uid = some (teamColor team)).length

theorem InStep.of_agrees {state : Watched} (h : Agrees state.handler state.sight) : InStep state where
  seen := h
  raced roomUid room hroom member uid color hcolor := by
    have hteam := h roomUid member uid color hcolor
    rw [NetworkHandler.team, NetworkHandler.shown, hroom, bind_some, shownIn, map_map] at hteam
    rw [loadingRacers, ExtTreeMap.getElem?_map, map_map]
    exact hteam
  counted roomUid room hroom member hall team := by
    rw [Room.teamCount, ← ExtTreeMap.map_fst_toList_eq_keys, List.filter_map, List.length_map]
    refine congrArg List.length (List.filter_congr fun entry hentry => ?_)
    obtain ⟨uid, player⟩ := entry
    have hplayer := ExtTreeMap.mem_toList_iff_getElem?_eq_some.1 hentry
    obtain ⟨color, hcolor⟩ := isSome_iff_exists.1
      (hall uid (ExtTreeMap.isSome_getElem?_iff_mem.1 (isSome_of_mem hplayer)))
    have hteam := h roomUid member uid color hcolor
    rw [NetworkHandler.team, NetworkHandler.shown, hroom, bind_some, shownIn, hplayer] at hteam
    cases hteam
    rw [Function.comp_apply, hcolor]
    exact decide_eq_decide.2 ⟨fun h => h ▸ rfl, fun h => teamColor_injective (Option.some.inj h)⟩

/-- A command is faithful to the teams exactly if it fits, and in a run of such commands the clients see the teams. -/
theorem teams_told (identityHash : IdentityHash) (inputs : List ServerInput) (handler : NetworkHandler)
    (client : ClientId) (command : ChangeTeam) :
    (Faithful handler client command ↔ Fits handler client command) ∧
      (Guarded (watch identityHash) Heeds {} inputs → InStep (run (watch identityHash) {} inputs)) := by
  refine ⟨faithful_iff, fun hguarded => .of_agrees ?_⟩
  exact @Guarded.invariant _ _ _ _ (fun state => Agrees state.handler state.sight) (agrees_watch identityHash) _ _
    (fun _ _ _ _ hcolor => by cases hcolor) hguarded

/-! Two players of a room of teams; the second one changes its team before the race, and during it. -/

def twoTeams : List ServerInput :=
  [.outside { characters := ((∅ : ExtTreeMap Uid Data.Character).insert 1 {}).insert 2 {}
              onlineCharacters := ((∅ : ExtTreeSet Uid).insert 1).insert 2 },
    .createRoom { maxPlayerCount := 8, teamMode := .team } 1, .grantCode 1 1 0 42, .connect 5,
    .command 5 (.enterRoom {} ⟨1, 1, 42⟩), .grantCode 2 1 0 43, .connect 6,
    .command 6 (.enterRoom {} ⟨2, 1, 43⟩)]

def changeToRed : ServerInput := .command 6 (.changeTeam ⟨2, .red⟩)

theorem twoTeams_seated : (run (watch fun _ _ => 0) {} twoTeams).handler.clients[(6 : ClientId)]? = some ⟨2, 1, true⟩ ∧
    (run (watch fun _ _ => 0) {} twoTeams).handler.waits ⟨2, 1, true⟩ = true ∧
    (run (watch fun _ _ => 0) {} twoTeams).handler.shown Room.Player.clientId 1 2 = some 6 := by
  decide +kernel

/-- While the race waits, the change is told to both. -/
theorem teams_told_waiting : InStep (run (watch fun _ _ => 0) {} (twoTeams ++ [changeToRed])) := by
  refine (teams_told (fun _ _ => 0) _ {} 0 ⟨0, .red⟩).2 (guarded_append.2 ⟨?_, fun _ => ?_, trivial⟩)
  · exact ⟨trivial, trivial, trivial, trivial, trivial, trivial, trivial, trivial, trivial⟩
  · obtain ⟨hclient, hwaits, hseat⟩ := twoTeams_seated
    refine ⟨fun context room player hnames => .inl ?_, fun context howns other hother => ?_⟩
    · cases hclient.symm.trans hnames.owns.connected
      exact hwaits.symm
    · cases hclient.symm.trans howns.connected
      cases hseat.symm.trans hother
      rfl

def racingTeams : List ServerInput := twoTeams ++ [.command 6 .readyRace, .command 5 (.startRace {})]

/-- During the race the team changes without an answer, and the other client sees the old one. -/
theorem refused_change : ¬Faithful (run (serve fun _ _ => 0) {} racingTeams) 6 ⟨2, .red⟩ ∧
    ¬InStep (run (watch fun _ _ => 0) {} (racingTeams ++ [changeToRed])) := by
  constructor
  · intro h
    have hkept := h.refused (by decide +kernel) 1 2
    revert hkept
    decide +kernel
  · intro h
    have hseen := h.seen 1 1 2 .blue (by decide +kernel)
    revert hseen
    decide +kernel

end Alicia.Race
