import Alicia.Race.Stages

/-!
# Rewards of a race

`Stop` credits one racer after the other and can throw at any lookup.  The throw leaves the stage
at `finishing`, so the next tick runs `Stop` again from the first racer.  A race credits each racer
at most once if every `Stop` either fails at its first character lookup or does not fail at all.
-/

namespace Alicia.Race

open Data (Uid invalidUid Character Horse)
open Transition Transition.Effect List ScoreInfo Keeps

/-! ## Lookups -/

/-- The character record that a lookup of `uid` finds. -/
def available (world : World) (uid : Uid) : Option Character :=
  if uid = invalidUid then none else world.characters[uid]?

def availableHorse (world : World) (uid : Uid) : Option Horse :=
  if uid = invalidUid then none else world.horses[uid]?

theorem accessCharacter_apply (uid : Uid) (world : World) :
    accessCharacter uid world = match available world uid with
      | some character => .ok character world
      | none => .error accessCharacter.unavailable world := by
  unfold accessCharacter available
  cases h : world.characters[uid]? with
  | none => simp [bind_apply, h]
  | some character =>
    by_cases huid : uid = invalidUid
    · subst huid
      simp [bind_apply, h]
    · simp [bind_apply, h, huid]

theorem accessHorse_apply (uid : Uid) (world : World) :
    accessHorse uid world = match availableHorse world uid with
      | some horse => .ok horse world
      | none => .error accessHorse.unavailable world := by
  unfold accessHorse availableHorse
  cases h : world.horses[uid]? with
  | none => simp [bind_apply, h]
  | some horse =>
    by_cases huid : uid = invalidUid
    · subst huid
      simp [bind_apply, h]
    · simp [bind_apply, h, huid]

theorem getRoom_apply (world : World) :
    getRoom world = match world.room with
      | some room => .ok room world
      | none => .error "Room does not exist" world := by
  unfold getRoom
  cases h : world.room with
  | none => simp [bind_apply, h]
  | some room => simp [bind_apply, h]

/-! ## What `Stop` leaves alone

Only `scoreRacer` changes the credits, and nothing in `Stop` changes the stage. -/

/-- The stage with its timeout and the credits stay as they are. -/
structure SameCredits (before after : World) : Prop where
  stage : after.stage = before.stage
  timeout : after.stageTimeout = before.stageTimeout
  credits : after.credits = before.credits

instance : Std.Refl SameCredits := ⟨fun _ => ⟨rfl, rfl, rfl⟩⟩

instance : IsTrans World SameCredits :=
  ⟨fun _ _ _ h g => ⟨g.stage.trans h.stage, g.timeout.trans h.timeout,
    g.credits.trans h.credits⟩⟩

theorem accessCharacter_final (uid : Uid) (world : World) :
    (accessCharacter uid).final world = world := by
  rw [final, accessCharacter_apply]
  cases available world uid <;> rfl

theorem getRoom_final (world : World) : getRoom.final world = world := by
  rw [final, getRoom_apply]
  cases world.room <;> rfl

theorem getUserByCharacterUid_final (uid : Uid) (world : World) :
    (getUserByCharacterUid uid).final world = world := by
  unfold getUserByCharacterUid final
  rw [bind_apply, get_apply]
  by_cases h : uid ∈ world.onlineCharacters
  · simp [h]
  · simp [h]

variable {R : World → World → Prop}

theorem broadcast_keeps [Std.Refl R] [IsTrans World R]
    (hqueue : ∀ clientId notify, Keeps R (queueCommand clientId notify)) (notify : Notify) :
    Keeps R (broadcast notify) :=
  (of_final getRoom_final).bind fun _ => forM (fun _ => hqueue _ _) _

theorem announceMaster_keeps [Std.Refl R] [IsTrans World R]
    (hqueue : ∀ clientId notify, Keeps R (queueCommand clientId notify)) (uid : Uid) :
    Keeps R (announceMaster uid) := by
  unfold announceMaster
  split
  · exact (of_final (getUserByCharacterUid_final uid)).bind fun _ => broadcast_keeps hqueue _
  · exact pure _

theorem assignMaster_keeps [Std.Refl R] [IsTrans World R]
    (hqueue : ∀ clientId notify, Keeps R (queueCommand clientId notify))
    (hroom : ∀ room, Keeps R (setRoom room)) (scores : List ScoreInfo) :
    Keeps R (assignMaster scores) := by
  unfold assignMaster
  split
  · refine (of_final getRoom_final).bind fun room => ?_
    split
    · exact pure _
    · exact (hroom _).bind fun _ => announceMaster_keeps hqueue _
  · exact pure _

theorem settlePlayer_keeps [Std.Refl R] [IsTrans World R]
    (hqueue : ∀ clientId notify, Keeps R (queueCommand clientId notify))
    (hroom : ∀ change, Keeps R (modifyRoom change)) (uid : Uid) (player : Room.Player) :
    Keeps R (settlePlayer uid player) :=
  (hroom _).bind fun _ => (of_final (accessCharacter_final uid)).bind fun _ => hqueue _ _

theorem settlePlayers_keeps [Std.Refl R] [IsTrans World R]
    (hqueue : ∀ clientId notify, Keeps R (queueCommand clientId notify))
    (hroom : ∀ change, Keeps R (modifyRoom change)) : Keeps R settlePlayers :=
  (of_final getRoom_final).bind fun _ => (hroom _).bind fun _ =>
    forM (fun _ => settlePlayer_keeps hqueue hroom _ _) _

theorem queueCommand_sameCredits (clientId : ClientId) (notify : Notify) :
    Keeps SameCredits (queueCommand clientId notify) := fun _ => ⟨rfl, rfl, rfl⟩

theorem setRoom_sameCredits (room : Room) : Keeps SameCredits (setRoom room) :=
  fun _ => ⟨rfl, rfl, rfl⟩

theorem modifyRoom_sameCredits (change : Room → Room) :
    Keeps SameCredits (modifyRoom change) := fun _ => ⟨rfl, rfl, rfl⟩

/-! ## The score board -/

/-- Both records that the score of a racer needs are available. -/
def Mounted (world : World) (uid : Uid) : Prop :=
  ((available world uid).bind fun character => availableHorse world character.mountUid).isSome

instance (world : World) (uid : Uid) : Decidable (Mounted world uid) :=
  inferInstanceAs (Decidable (_ = true))

/-- What one racer's score does: it is one credit, unless the character is unavailable. -/
theorem scoreRacer_apply (uid : Uid) (racer : Racer) (world : World) :
    scoreRacer uid racer world = match available world uid with
      | none => .error accessCharacter.unavailable world
      | some character =>
        let score := racerScore world racer
        let rewarded := rewardCharacter world.levelInfo score character
        match availableHorse world character.mountUid with
        | none => .error accessHorse.unavailable (credit uid rewarded world)
        | some horse =>
          .ok (mountScore (characterScore score character rewarded) horse)
            (credit uid rewarded world) := by
  simp only [scoreRacer, bind_apply, get_apply, accessCharacter_apply]
  cases hc : available world uid with
  | none => rfl
  | some character =>
    have hmount : ∀ score, availableHorse
        (credit uid (rewardCharacter world.levelInfo score character) world)
        (rewardCharacter world.levelInfo score character).mountUid =
          availableHorse world character.mountUid := fun _ => rfl
    simp only [modify_apply, accessHorse_apply, hmount]
    cases availableHorse world character.mountUid <;> rfl

variable {uid : Uid} {world after : World}

theorem scoreRacer_eq_ok {racer : Racer} {score : ScoreInfo}
    (h : scoreRacer uid racer world = .ok score after) :
    ∃ character horse, available world uid = some character ∧
      score = mountScore (characterScore (racerScore world racer) character
        (rewardCharacter world.levelInfo (racerScore world racer) character)) horse ∧
      after = credit uid (rewardCharacter world.levelInfo (racerScore world racer) character)
        world := by
  rw [scoreRacer_apply] at h
  cases hc : available world uid with
  | none =>
    simp only [hc] at h
    cases h
  | some character =>
    simp only [hc] at h
    cases hh : availableHorse world character.mountUid with
    | none =>
      simp only [hh] at h
      cases h
    | some horse =>
      simp only [hh, EStateM.Result.ok.injEq] at h
      exact ⟨character, horse, rfl, h.1.symm, h.2.symm⟩

/-- What a lookup inside `Stop` can tell of two states of the race. -/
structure SameLookups (before after : World) : Prop where
  stage : after.stage = before.stage
  timeout : after.stageTimeout = before.stageTimeout
  room : after.room = before.room
  horses : after.horses = before.horses
  online : after.onlineCharacters = before.onlineCharacters
  bonus : after.bonusCourseType = before.bonusCourseType
  records : ∀ uid, (available after uid).map (fun c => (c.uid, c.mountUid)) =
    (available before uid).map fun c => (c.uid, c.mountUid)

instance : Std.Refl SameLookups := ⟨fun _ => ⟨rfl, rfl, rfl, rfl, rfl, rfl, fun _ => rfl⟩⟩

instance : IsTrans World SameLookups :=
  ⟨fun _ _ _ h g => ⟨g.stage.trans h.stage, g.timeout.trans h.timeout, g.room.trans h.room,
    g.horses.trans h.horses, g.online.trans h.online, g.bonus.trans h.bonus,
    fun uid => (g.records uid).trans (h.records uid)⟩⟩

theorem available_credit {character : Character} (h : available world uid = some character)
    (rewarded : Character) (other : Uid) :
    available (credit uid rewarded world) other =
      if other = uid then some rewarded else available world other := by
  have huid : uid ≠ invalidUid := by
    rintro rfl
    simp [available] at h
  simp only [available, credit, Std.ExtTreeMap.getElem?_insert,
    Std.LawfulEqCmp.compare_eq_iff_eq]
  by_cases hother : other = uid
  · subst hother
    simp [huid]
  · simp [hother, Ne.symm hother]

theorem credit_sameLookups {character : Character} (score : ScoreInfo)
    (h : available world uid = some character) :
    SameLookups world (credit uid (rewardCharacter world.levelInfo score character) world) := by
  refine ⟨rfl, rfl, rfl, rfl, rfl, rfl, fun other => ?_⟩
  rw [available_credit h]
  by_cases hother : other = uid
  · subst hother
    simp [h, rewardCharacter]
  · simp [hother]

theorem scoreRacer_sameLookups (uid : Uid) (racer : Racer) :
    Keeps SameLookups (scoreRacer uid racer) := by
  intro world
  rw [final, scoreRacer_apply]
  cases hc : available world uid with
  | none => exact refl_of SameLookups world
  | some character =>
    cases hh : availableHorse world character.mountUid with
    | none => simpa only [hh] using credit_sameLookups _ hc
    | some horse => simpa only [hh] using credit_sameLookups _ hc

theorem scoreBoard_sameLookups (racers : List (Uid × Racer)) :
    Keeps SameLookups (scoreBoard racers) := by
  induction racers with
  | nil => exact .pure _
  | cons entry rest ih =>
    exact (scoreRacer_sameLookups entry.1 entry.2).bind fun _ =>
      ih.bind fun _ => .pure _

variable {before : World}

theorem SameLookups.mounted (h : SameLookups before after) (uid : Uid) :
    Mounted after uid ↔ Mounted before uid := by
  have hrecords := h.records uid
  unfold Mounted
  cases hb : available before uid with
  | none =>
    rw [hb] at hrecords
    simp only [Option.map_none, Option.map_eq_none_iff] at hrecords
    simp [hrecords]
  | some c =>
    rw [hb] at hrecords
    simp only [Option.map_some, Option.map_eq_some_iff, Prod.mk.injEq] at hrecords
    obtain ⟨d, hd, -, hmount⟩ := hrecords
    simp [hd, hmount, availableHorse, h.horses]

theorem scoreRacer_completes (uid : Uid) (racer : Racer) (world : World) :
    (scoreRacer uid racer).Completes world ↔ Mounted world uid := by
  unfold Completes Mounted
  rw [scoreRacer_apply]
  cases available world uid with
  | none => simp
  | some character =>
    simp only [Option.bind_some]
    cases availableHorse world character.mountUid <;> simp

variable {racers : List (Uid × Racer)}

/-- The score board is complete exactly when every racer and its mount can be looked up. -/
theorem scoreBoard_completes :
    (scoreBoard racers).Completes world ↔ ∀ entry ∈ racers, Mounted world entry.1 := by
  induction racers generalizing world with
  | nil => simp [scoreBoard, Completes]
  | cons entry rest ih =>
    rw [forall_mem_cons, scoreBoard, completes_bind,
      ← scoreRacer_completes entry.1 entry.2, completes_iff]
    constructor
    · rintro ⟨score, after, hscore, hrest⟩
      obtain ⟨scores, last, hscores, -⟩ := completes_bind.1 hrest
      have hsame : SameLookups world after := final_ok hscore ▸ scoreRacer_sameLookups _ _ world
      refine ⟨⟨score, after, hscore⟩, fun other hother => (hsame.mounted other.1).1 ?_⟩
      exact ih.1 (completes_iff.2 ⟨scores, last, hscores⟩) other hother
    · rintro ⟨⟨score, after, hscore⟩, hrest⟩
      have hsame : SameLookups world after := final_ok hscore ▸ scoreRacer_sameLookups _ _ world
      have hdone : (scoreBoard rest).Completes after :=
        ih.2 fun other hother => (hsame.mounted other.1).2 (hrest other hother)
      obtain ⟨scores, last, hscores⟩ := completes_iff.1 hdone
      exact ⟨score, after, hscore, completes_bind.2 ⟨scores, last, hscores, trivial⟩⟩

/-- The racers that a score board credits are an initial part of the list of racers. -/
theorem scoreBoard_credits (racers : List (Uid × Racer)) (world : World) :
    ∃ credited, credited <+: racers.map Prod.fst ∧
      ((scoreBoard racers).final world).credits = world.credits ++ credited := by
  induction racers generalizing world with
  | nil => exact ⟨[], nil_prefix, (append_nil _).symm⟩
  | cons entry rest ih =>
    obtain ⟨uid, racer⟩ := entry
    have hscore := scoreRacer_apply uid racer world
    cases hc : available world uid with
    | none =>
      rw [hc] at hscore
      refine ⟨[], nil_prefix, ?_⟩
      rw [scoreBoard, final_bind_error hscore, append_nil]
    | some character =>
      rw [hc] at hscore
      cases hh : availableHorse world character.mountUid with
      | none =>
        simp only [hh] at hscore
        refine ⟨[uid], by simp, ?_⟩
        rw [scoreBoard, final_bind_error hscore]
        rfl
      | some horse =>
        simp only [hh] at hscore
        obtain ⟨credited, hprefix, hcredits⟩ := ih
          (credit uid (rewardCharacter world.levelInfo (racerScore world racer) character) world)
        refine ⟨uid :: credited, ?_, ?_⟩
        · simpa using hprefix
        · rw [scoreBoard, final_bind_ok hscore, final_bind_pure, hcredits]
          simp [credit]

/-- A score board whose first character is available credits at least that racer. -/
theorem scoreBoard_credits_head (racer : Racer) (rest : List (Uid × Racer))
    (h : (available world uid).isSome) :
    ∃ credited, ((scoreBoard ((uid, racer) :: rest)).final world).credits =
      world.credits ++ uid :: credited := by
  obtain ⟨character, hc⟩ := Option.isSome_iff_exists.1 h
  have hscore := scoreRacer_apply uid racer world
  rw [hc] at hscore
  cases hh : availableHorse world character.mountUid with
  | none =>
    simp only [hh] at hscore
    refine ⟨[], ?_⟩
    rw [scoreBoard, final_bind_error hscore]
    rfl
  | some horse =>
    simp only [hh] at hscore
    obtain ⟨credited, -, hcredits⟩ := scoreBoard_credits rest
      (credit uid (rewardCharacter world.levelInfo (racerScore world racer) character) world)
    refine ⟨credited, ?_⟩
    rw [scoreBoard, final_bind_ok hscore, final_bind_pure, hcredits]
    simp [credit]

/-! ## When `Stop` completes -/

/-- The `uid` member of the record that a lookup finds. -/
def recordUid (world : World) (uid : Uid) : Uid :=
  ((available world uid).map Character.uid).getD invalidUid

/-- The racers' record uids in the order of the sorted score board. -/
def standings (world : World) : List Uid :=
  let ranked := world.racers.toList.map fun entry =>
    (priority (winningTeam world) (racerScore world entry.2), recordUid world entry.1)
  (ranked.insertionSort fun a b => a.1 ≤ b.1).map Prod.snd

/-- Every lookup which `Stop` makes finds what it looks for. -/
def LookupsSucceed (world : World) : Prop :=
  (∀ entry ∈ world.racers.toList, Mounted world entry.1) ∧
    match world.room with
    | none => False
    | some room =>
      (∀ newMasterUid ∈ electMaster room (standings world),
        newMasterUid = invalidUid ∨ newMasterUid ∈ world.onlineCharacters) ∧
      ∀ entry ∈ room.players.toList, (available world entry.1).isSome

instance (world : World) : Decidable (LookupsSucceed world) := by
  unfold LookupsSucceed
  cases world.room with
  | none => infer_instance
  | some room =>
    -- A search over all 32-bit identifiers would be found first.
    have hmaster : Decidable (∀ newMasterUid ∈ electMaster room (standings world),
        newMasterUid = invalidUid ∨ newMasterUid ∈ world.onlineCharacters) :=
      Option.decidableForallMem _
    infer_instance

theorem levelUp_and_connected (bitset : UInt32) :
    (bitset ||| levelUp) &&& connected = bitset &&& connected := by
  have hdisjoint : levelUp.toBitVec &&& connected.toBitVec = 0#32 := by decide
  rw [← UInt32.toBitVec_inj]
  simp only [UInt32.toBitVec_and, UInt32.toBitVec_or, BitVec.and_or_distrib_right, hdisjoint,
    BitVec.or_zero]

theorem priority_congr {a b : ScoreInfo} (winner : TeamColor) (hteam : a.teamColor = b.teamColor)
    (htime : a.courseTime = b.courseTime)
    (hbits : a.bitset &&& connected = b.bitset &&& connected) :
    priority winner a = priority winner b := by
  unfold priority
  rw [hteam, htime, hbits]

/-- What a record adds to a score does not move it on the score board. -/
theorem priority_recorded (winner : TeamColor) (score : ScoreInfo) (before after : Character)
    (horse : Horse) :
    priority winner (mountScore (characterScore score before after) horse) =
      priority winner score := by
  refine priority_congr winner rfl rfl ?_
  simp only [mountScore, characterScore]
  split
  · exact levelUp_and_connected score.bitset
  · rfl

theorem SameLookups.recordUid_eq (h : SameLookups before after) (uid : Uid) :
    recordUid after uid = recordUid before uid := by
  have hrecords := congrArg (Option.map Prod.fst) (h.records uid)
  simp only [Option.map_map, Function.comp_def] at hrecords
  simp only [recordUid]
  rw [hrecords]

theorem priority_racerScore_congr (hbonus : after.bonusCourseType = before.bonusCourseType)
    (winner : TeamColor) (racer : Racer) :
    priority winner (racerScore after racer) = priority winner (racerScore before racer) := by
  have hbits : bonusBits after racer = bonusBits before racer := by
    unfold bonusBits
    rw [hbonus]
  exact priority_congr winner rfl rfl (by simp only [racerScore, hbits])

variable {scores : List ScoreInfo}

/-- A complete score board ranks every racer as the racer and its record say. -/
theorem scoreBoard_ranks (winner : TeamColor) (h : scoreBoard racers world = .ok scores after) :
    scores.map (fun score => (priority winner score, score.uid)) =
      racers.map fun entry =>
        (priority winner (racerScore world entry.2), recordUid world entry.1) := by
  induction racers generalizing world scores after with
  | nil =>
    cases h
    rfl
  | cons entry rest ih =>
    obtain ⟨uid, racer⟩ := entry
    obtain ⟨score, middle, hscore, hrest⟩ := bind_eq_ok.1 h
    obtain ⟨others, last, hothers, hpure⟩ := bind_eq_ok.1 hrest
    have hsame : SameLookups world middle := final_ok hscore ▸ scoreRacer_sameLookups _ _ world
    obtain ⟨character, horse, hc, rfl, -⟩ := scoreRacer_eq_ok hscore
    cases hpure
    rw [map_cons, map_cons, ih hothers, priority_recorded]
    have hhead : recordUid world uid = character.uid := by
      simp [recordUid, hc]
    rw [hhead]
    refine congrArg₂ List.cons rfl (map_congr_left fun other _ => ?_)
    rw [priority_racerScore_congr hsame.bonus, hsame.recordUid_eq]

theorem sortScores_uids (winner : TeamColor) (h : scoreBoard racers world = .ok scores after) :
    (sortScores winner scores).map ScoreInfo.uid =
      ((racers.map fun entry =>
        (priority winner (racerScore world entry.2), recordUid world entry.1)).insertionSort
          fun a b => a.1 ≤ b.1).map Prod.snd := by
  have hsort := map_insertionSort (fun a b => priority winner a ≤ priority winner b)
    (fun a b => a.1 ≤ b.1) (fun score => (priority winner score, score.uid)) scores
    fun _ _ _ _ => Iff.rfl
  rw [← scoreBoard_ranks winner h, sortScores, ← hsort, map_map]
  rfl

theorem queueCommands_apply (players : List (Uid × Room.Player)) (notify : Notify)
    (world : World) :
    players.forM (fun entry => queueCommand entry.2.clientId notify) world =
      .ok ⟨⟩ { world with
        sent := world.sent ++ players.map fun entry => (entry.2.clientId, notify) } := by
  induction players generalizing world with
  | nil =>
    rw [map_nil, append_nil]
    rfl
  | cons entry rest ih =>
    have hstep := ih { world with sent := world.sent ++ [(entry.2.clientId, notify)] }
    rw [map_cons, append_cons]
    exact hstep

theorem broadcast_apply (notify : Notify) (world : World) :
    broadcast notify world = match world.room with
      | none => .error "Room does not exist" world
      | some room => .ok ⟨⟩ { world with
          sent := world.sent ++
            room.players.toList.map fun entry => (entry.2.clientId, notify) } := by
  simp only [broadcast, bind_apply, getRoom_apply]
  cases world.room with
  | none => rfl
  | some room => exact queueCommands_apply _ _ _

theorem announceMaster_completes (hroom : world.room.isSome) :
    (announceMaster uid).Completes world ↔ uid = invalidUid ∨ uid ∈ world.onlineCharacters := by
  obtain ⟨room, hroom⟩ := Option.isSome_iff_exists.1 hroom
  unfold announceMaster
  by_cases huid : uid = invalidUid
  · simp [huid, Completes]
  · by_cases honline : uid ∈ world.onlineCharacters
    · simp [huid, honline, Completes, getUserByCharacterUid, bind_apply, broadcast_apply, hroom]
    · simp [huid, honline, Completes, getUserByCharacterUid, bind_apply]

variable {room : Room}

theorem assignMaster_completes (hroom : world.room = some room) :
    (assignMaster scores).Completes world ↔
      ∀ newMasterUid ∈ electMaster room (scores.map ScoreInfo.uid),
        newMasterUid = invalidUid ∨ newMasterUid ∈ world.onlineCharacters := by
  unfold assignMaster
  by_cases hscores : scores = []
  · simp [hscores, electMaster, Completes]
  · have hget : getRoom world = .ok room world := by simp [getRoom_apply, hroom]
    simp only [ne_eq, hscores, not_false_eq_true, if_true]
    rw [completes_bind_ok hget]
    cases helect : electMaster room (scores.map ScoreInfo.uid) with
    | none => simp [Completes]
    | some newMasterUid =>
      have hset : setRoom (room.setMaster newMasterUid) world =
          .ok ⟨⟩ { world with room := some (room.setMaster newMasterUid) } := rfl
      rw [completes_bind_ok hset, announceMaster_completes rfl]
      simp

/-- The players whom the room holds, and the records and users, are as they were. -/
structure SamePlayers (before after : World) : Prop where
  players : after.room.map Room.players = before.room.map Room.players
  characters : after.characters = before.characters
  online : after.onlineCharacters = before.onlineCharacters

instance : Std.Refl SamePlayers := ⟨fun _ => ⟨rfl, rfl, rfl⟩⟩

instance : IsTrans World SamePlayers :=
  ⟨fun _ _ _ h g => ⟨g.players.trans h.players, g.characters.trans h.characters,
    g.online.trans h.online⟩⟩

theorem queueCommand_samePlayers (clientId : ClientId) (notify : Notify) :
    Keeps SamePlayers (queueCommand clientId notify) := fun _ => ⟨rfl, rfl, rfl⟩

/-- Both ways in which `assignMaster` can end leave the players in their room. -/
theorem assignMaster_samePlayers (scores : List ScoreInfo) :
    Keeps SamePlayers (assignMaster scores) := by
  intro world
  unfold assignMaster
  split
  · cases hroom : world.room with
    | none =>
      rw [final_bind_error (by rw [getRoom_apply, hroom])]
      exact refl_of SamePlayers world
    | some room =>
      rw [final_bind_ok (by rw [getRoom_apply, hroom])]
      cases electMaster room (scores.map uid) with
      | none => exact refl_of SamePlayers world
      | some newMasterUid =>
        have hset : SamePlayers world
            { world with room := some (room.setMaster newMasterUid) } :=
          ⟨by rw [hroom]; rfl, rfl, rfl⟩
        exact trans_of SamePlayers hset
          (announceMaster_keeps queueCommand_samePlayers newMasterUid _)
  · exact refl_of SamePlayers world

/-- The character records are as they were. -/
def SameCharacters (before after : World) : Prop :=
  after.characters = before.characters

instance : Std.Refl SameCharacters := ⟨fun _ => rfl⟩

instance : IsTrans World SameCharacters := ⟨fun _ _ _ h g => Eq.trans g h⟩

theorem SameCharacters.available_eq (h : SameCharacters before after) (uid : Uid) :
    available after uid = available before uid := by
  unfold available
  rw [h]

theorem settlePlayer_completes {player : Room.Player} :
    (settlePlayer uid player).Completes world ↔ (available world uid).isSome := by
  have hset : modifyRoom (fun room => room.setReady uid false) world =
      .ok ⟨⟩ { world with room := world.room.map fun room => room.setReady uid false } := rfl
  have hsame : available { world with
      room := world.room.map fun room => room.setReady uid false } uid = available world uid := rfl
  rw [settlePlayer, completes_bind_ok hset, completes_bind, ← hsame]
  simp only [accessCharacter_apply]
  cases available { world with room := world.room.map fun room => room.setReady uid false } uid with
  | none => simp
  | some character => simp [queueCommand, Completes]

theorem settlePlayer_sameCharacters (entry : Uid × Room.Player) :
    Keeps SameCharacters (settlePlayer entry.1 entry.2) :=
  settlePlayer_keeps (fun _ _ _ => rfl) (fun _ _ => rfl) _ _

theorem settlePlayers_completes (hroom : world.room = some room) :
    settlePlayers.Completes world ↔
      ∀ entry ∈ room.players.toList, (available world entry.1).isSome := by
  have hget : getRoom world = .ok room world := by rw [getRoom_apply, hroom]
  have hset : modifyRoom (fun room => room.setRoomPlaying false) world =
      .ok ⟨⟩ { world with room := world.room.map fun room => room.setRoomPlaying false } := rfl
  rw [settlePlayers, completes_bind_ok hget, completes_bind_ok hset,
    completes_forM settlePlayer_sameCharacters]
  · simp only [settlePlayer_completes]
    rfl
  · intro entry before after hsame
    rw [settlePlayer_completes, settlePlayer_completes, hsame.available_eq]

theorem SamePlayers.settlePlayers_completes (h : SamePlayers before after)
    (hroom : before.room = some room) :
    settlePlayers.Completes after ↔
      ∀ entry ∈ room.players.toList, (available before entry.1).isSome := by
  have hsome := h.players
  simp only [hroom, Option.map_some, Option.map_eq_some_iff] at hsome
  obtain ⟨newRoom, hnew, hplayers⟩ := hsome
  have hcharacters : SameCharacters before after := h.characters
  rw [Race.settlePlayers_completes hnew, hplayers]
  simp only [hcharacters.available_eq]

theorem assignThenSettle_completes (hroom : world.room = some room) :
    (do assignMaster scores; settlePlayers : Action Unit).Completes world ↔
      (∀ newMasterUid ∈ electMaster room (scores.map ScoreInfo.uid),
        newMasterUid = invalidUid ∨ newMasterUid ∈ world.onlineCharacters) ∧
      ∀ entry ∈ room.players.toList, (available world entry.1).isSome := by
  rw [completes_bind_of_keeps (assignMaster_samePlayers scores)
    fun _ _ hsame => hsame.settlePlayers_completes hroom, assignMaster_completes hroom]

/-- The part of `Stop` after the score board, in a room that exists. -/
theorem afterScores_completes {sorted : List ScoreInfo} (hroom : world.room = some room) :
    (do broadcast (.raceResult sorted); assignMaster scores; settlePlayers : Action Unit).Completes
        world ↔
      (∀ newMasterUid ∈ electMaster room (scores.map ScoreInfo.uid),
        newMasterUid = invalidUid ∨ newMasterUid ∈ world.onlineCharacters) ∧
      ∀ entry ∈ room.players.toList, (available world entry.1).isSome := by
  have hsend := broadcast_apply (.raceResult sorted) world
  simp only [hroom] at hsend
  exact (completes_bind_ok hsend).trans (assignThenSettle_completes hroom)

theorem SameLookups.isSome_available (h : SameLookups before after) (uid : Uid) :
    (available after uid).isSome = (available before uid).isSome := by
  simpa using congrArg Option.isSome (h.records uid)

/-- `Stop` returns exactly when every lookup that it makes succeeds. -/
theorem stop_completes (world : World) : stop.Completes world ↔ LookupsSucceed world := by
  have hget : (get : Action World) world = .ok world world := rfl
  rw [stop, completes_bind_ok hget, LookupsSucceed, ← scoreBoard_completes]
  by_cases hboard : (scoreBoard world.racers.toList).Completes world
  · obtain ⟨scores, scored, hscores⟩ := completes_iff.1 hboard
    have hsame : SameLookups world scored := final_ok hscores ▸ scoreBoard_sameLookups _ world
    rw [completes_bind_ok hscores, and_iff_right hboard]
    cases hroom : world.room with
    | none =>
      have hsend := broadcast_apply (.raceResult (sortScores (winningTeam world) scores)) scored
      rw [hsame.room, hroom] at hsend
      simp [completes_bind, hsend]
    | some room =>
      rw [afterScores_completes (hsame.room.trans hroom), sortScores_uids _ hscores, hsame.online]
      simp only [hsame.isSome_available]
      rfl
  · constructor
    · intro h
      obtain ⟨scores, scored, hscores, -⟩ := completes_bind.1 h
      exact absurd (completes_iff.2 ⟨scores, scored, hscores⟩) hboard
    · exact fun h => absurd h.1 hboard

/-! ## Credits over a run -/

/-- The tick runs `Stop`. -/
def Stops (now : Instant) (world : World) : Prop :=
  world.stage = .finishing ∧
    (allRacersFinished world || timeoutReached world.stageTimeout now) = true

/-- `Stop` throws at its first character lookup, or has nobody to credit. -/
def FirstLookupFails (world : World) : Prop :=
  world.racers.toList.head?.all fun entry => (available world entry.1).isNone

/-- A tick which runs `Stop` credits nobody or does all that `Stop` has to do. -/
def Settles (world : World) : Input → Prop
  | .tick now => Stops now world → FirstLookupFails world ∨ LookupsSucceed world
  | .start .. => True
  | .outside _ => True

instance (now : Instant) (world : World) : Decidable (Stops now world) :=
  inferInstanceAs (Decidable (_ ∧ _))

instance (world : World) : Decidable (FirstLookupFails world) :=
  inferInstanceAs (Decidable (_ = true))

instance (world : World) (input : Input) : Decidable (Settles world input) := by
  cases input <;> unfold Settles <;> infer_instance

/-- What every command and every change of the room keeps, the end of a race keeps after its scores. -/
theorem stop_after {R : World → World → Prop} [Std.Refl R] [IsTrans World R]
    (hqueue : ∀ clientId notify, Keeps R (queueCommand clientId notify))
    (hroom : ∀ room, Keeps R (setRoom room)) (hmodify : ∀ change, Keeps R (modifyRoom change))
    (world : World) : R ((scoreBoard world.racers.toList).final world) (stop.final world) := by
  have hrest (scores : List ScoreInfo) : Keeps R (do
      broadcast (.raceResult (sortScores (winningTeam world) scores))
      assignMaster (sortScores (winningTeam world) scores)
      settlePlayers) :=
    (broadcast_keeps hqueue _).bind fun _ =>
      (assignMaster_keeps hqueue hroom _).bind fun _ => settlePlayers_keeps hqueue hmodify
  exact after (scoreBoard world.racers.toList) hrest world

theorem stop_after_scoreBoard (world : World) :
    SameCredits ((scoreBoard world.racers.toList).final world) (stop.final world) :=
  stop_after queueCommand_sameCredits setRoom_sameCredits modifyRoom_sameCredits world

theorem stop_stage (world : World) : (stop.final world).stage = world.stage :=
  (stop_after_scoreBoard world).stage.trans (scoreBoard_sameLookups _ world).stage

theorem stop_timeout (world : World) : (stop.final world).stageTimeout = world.stageTimeout :=
  (stop_after_scoreBoard world).timeout.trans (scoreBoard_sameLookups _ world).timeout

theorem stop_credits (world : World) :
    ∃ credited, credited <+: world.racers.keys ∧
      (stop.final world).credits = world.credits ++ credited := by
  obtain ⟨credited, hprefix, hcredits⟩ := scoreBoard_credits world.racers.toList world
  refine ⟨credited, ?_, (stop_after_scoreBoard world).credits.trans hcredits⟩
  rwa [Std.ExtTreeMap.map_fst_toList_eq_keys] at hprefix

theorem stop_credits_of_firstLookupFails (h : FirstLookupFails world) :
    (stop.final world).credits = world.credits := by
  rw [(stop_after_scoreBoard world).credits]
  unfold FirstLookupFails at h
  cases hracers : world.racers.toList with
  | nil => rfl
  | cons entry rest =>
    rw [hracers] at h
    simp only [List.head?_cons, Option.all_some, Option.isNone_iff_eq_none] at h
    have hscore := scoreRacer_apply entry.1 entry.2 world
    rw [h] at hscore
    rw [scoreBoard, final_bind_error hscore]

variable {now : Instant}

theorem Stops.tick_eq (h : Stops now world) :
    tick now world = (do stop; modify fun world => { world with stage := .waiting } :
      Action Unit).final world := by
  unfold tick tickStage
  rw [final_bind_ok (get_apply world), h.1]
  unfold tickFinishing
  rw [final_bind_ok (get_apply world), if_pos h.2]

/-- A tick which runs `Stop` and can look up its first racer credits that racer, whatever fails
later and whoever was credited before. -/
theorem tick_credits_head (hstops : Stops now world) {entry : Uid × Racer}
    {rest : List (Uid × Racer)} (hracers : world.racers.toList = entry :: rest)
    (havailable : (available world entry.1).isSome) :
    ∃ credited, (tick now world).credits = world.credits ++ entry.1 :: credited := by
  obtain ⟨credited, hcredits⟩ := scoreBoard_credits_head entry.2 rest havailable
  have hstop : (stop.final world).credits = world.credits ++ entry.1 :: credited := by
    rw [(stop_after_scoreBoard world).credits, hracers]
    exact hcredits
  refine ⟨credited, ?_⟩
  rw [hstops.tick_eq, ← hstop]
  by_cases hdone : stop.Completes world
  · obtain ⟨u, stopped, hstopped⟩ := completes_iff.1 hdone
    rw [final_bind_ok hstopped, final_ok hstopped]
    rfl
  · rw [final_bind_of_not_completes hdone]

/-- A stage's tick that does not enter the finishing stage and credits nobody. -/
structure StaysOut (before after : World) : Prop where
  stage : after.stage = .finishing → before.stage = .finishing
  credits : after.credits = before.credits

instance : Std.Refl StaysOut := ⟨fun _ => ⟨id, rfl⟩⟩

instance : IsTrans World StaysOut :=
  ⟨fun _ _ _ h g => ⟨h.stage ∘ g.stage, g.credits.trans h.credits⟩⟩

theorem getMapBlockInfo_final (world : World) : getMapBlockInfo.final world = world := by
  unfold getMapBlockInfo final
  cases h : world.mapBlock with
  | none => simp [bind_apply, h]
  | some mapBlock => simp [bind_apply, h]

theorem tickLoading_staysOut (now : Instant) : Keeps StaysOut (tickLoading now) := by
  refine Keeps.get.bind fun world => ?_
  split
  · refine (Keeps.modify fun _ => ⟨id, rfl⟩).bind fun _ => ?_
    refine (Keeps.of_final getMapBlockInfo_final).bind fun mapBlock => ?_
    refine (Keeps.modify fun _ => ⟨by simp, rfl⟩).bind fun _ => ?_
    exact broadcast_keeps (fun _ _ _ => ⟨id, rfl⟩) _
  · exact Keeps.pure _

theorem announceFinal_sameCredits : Keeps SameCredits announceFinal := by
  refine (of_final getRoom_final).bind fun room => get.bind fun world => ?_
  refine forM (fun entry => ?_) _
  split
  · exact queueCommand_sameCredits _ _
  · exact pure _

/-- Nobody was credited twice since the stage became `finishing`, and nobody was credited at all
while the stage is still `finishing`. -/
structure Unpaid (world : World) : Prop where
  nodup : world.credits.Nodup
  finishing : world.stage = .finishing → world.credits = []

theorem keys_nodup (world : World) : world.racers.keys.Nodup :=
  Std.ExtTreeMap.nodup_keys

theorem tickFinishing_unpaid (h : Unpaid world) (hstage : world.stage = .finishing)
    (hsettles : Settles world (.tick now)) :
    Unpaid ((tickFinishing now).final world) := by
  have hget : (get : Action World) world = .ok world world := rfl
  rw [tickFinishing, final_bind_ok hget]
  by_cases hstop : (allRacersFinished world || timeoutReached world.stageTimeout now) = true
  · rw [if_pos hstop]
    by_cases hdone : stop.Completes world
    · obtain ⟨u, stopped, hstopped⟩ := completes_iff.1 hdone
      obtain ⟨credited, hprefix, hcredits⟩ := stop_credits world
      rw [final_ok hstopped, h.finishing hstage, nil_append] at hcredits
      have hnodup : credited.Nodup := (keys_nodup world).sublist hprefix.sublist
      rw [final_bind_ok hstopped]
      exact ⟨hcredits ▸ hnodup, fun hwaiting => by cases hwaiting⟩
    · have hfails : FirstLookupFails world :=
        (hsettles ⟨hstage, hstop⟩).resolve_right fun hs => hdone ((stop_completes world).2 hs)
      rw [final_bind_of_not_completes hdone]
      have hcredits := stop_credits_of_firstLookupFails hfails
      exact ⟨hcredits ▸ h.nodup, fun _ => hcredits.trans (h.finishing hstage)⟩
  · rw [if_neg hstop]
    exact h

theorem tickRacing_unpaid (h : Unpaid world) :
    Unpaid ((tickRacing now).final world) := by
  have hget : (get : Action World) world = .ok world world := rfl
  rw [tickRacing, final_bind_ok hget]
  split
  · have henter : (modify (enterFinishing now) : Action Unit) world =
        .ok ⟨⟩ (enterFinishing now world) := rfl
    rw [final_bind_ok henter]
    have hsame : Keeps SameCredits
        (if timeoutReached world.stageTimeout now then announceFinal else pure ()) := by
      split
      · exact announceFinal_sameCredits
      · exact .pure _
    have hcredits : ((if timeoutReached world.stageTimeout now then announceFinal
        else pure () : Action Unit).final (enterFinishing now world)).credits = [] :=
      (hsame (enterFinishing now world)).credits
    exact ⟨hcredits ▸ nodup_nil, fun _ => hcredits⟩
  · exact h

theorem StaysOut.unpaid (hstays : StaysOut before after) (h : Unpaid before) : Unpaid after :=
  ⟨hstays.credits ▸ h.nodup, fun hstage => hstays.credits.trans (h.finishing (hstays.stage hstage))⟩

/-- One step of a race, by the stage that it is in. -/
theorem step_unpaid (world : World) (input : Input) (h : Unpaid world)
    (hsettles : Settles world input) : Unpaid (step world input) := by
  cases input with
  | start parameters prepared now =>
    unfold step start
    cases prepared with
    | true => exact ⟨h.nodup, fun hstage => by cases hstage⟩
    | false => exact ⟨h.nodup, h.finishing⟩
  | outside surroundings => exact ⟨h.nodup, h.finishing⟩
  | tick now =>
    have hget : (get : Action World) world = .ok world world := rfl
    change Unpaid ((tickStage now).final world)
    unfold tickStage
    rw [final_bind_ok hget]
    cases hstage : world.stage with
    | waiting => exact h
    | loading => exact (tickLoading_staysOut now world).unpaid h
    | racing => exact tickRacing_unpaid h
    | finishing => exact tickFinishing_unpaid h hstage hsettles

theorem created_unpaid (surroundings : Surroundings) : Unpaid (created surroundings) :=
  ⟨nodup_nil, fun hstage => by cases hstage⟩

/-- In a race whose ticks all settle, no racer is credited twice between the moment at which the
stage becomes `finishing` and the moment at which it leaves that stage. -/
theorem race_credits_once (surroundings : Surroundings) (inputs : List Input)
    (hsettles : Guarded step Settles (created surroundings) inputs) :
    (run step (created surroundings) inputs).credits.Nodup :=
  (hsettles.invariant step_unpaid (created_unpaid surroundings)).nodup

/-- Two racers with one character record missing: `missing` is the character that is not loaded. -/
def duel (state : RacerState) (missing : Uid) : Surroundings where
  racers := .insertMany ∅ [(1, { state := state, courseTime := 60000 }),
    (2, { state := state, courseTime := 61000 })]
  characters := .erase
    (.insertMany ∅ [(1, { uid := 1, mountUid := 11 }), (2, { uid := 2, mountUid := 12 })]) missing
  horses := .insertMany ∅ [(11, { uid := 11 }), (12, { uid := 12 })]
  room := some { uid := 7, players := .insertMany ∅ [(1, { clientId := 0 }), (2, { clientId := 1 })] }
  onlineCharacters := .insertMany ∅ [1, 2]
  mapBlock := some { timeLimit := 300, waitTime := 5 }

/-- The race starts, both racers load and finish, and the finishing stage is ticked twice. -/
def duelInputs (missing : Uid) : List Input :=
  [.start {} true 0, .tick 1, .outside (duel .finishing missing), .tick 2, .tick 3, .tick 4]

theorem race_credits_once_duel :
    (run step (created (duel .racing 3)) (duelInputs 3)).credits.Nodup :=
  race_credits_once (duel .racing 3) (duelInputs 3) (by decide +kernel)

/-- While the second racer's record is missing, every tick credits the first racer once more. -/
theorem first_racer_credited_twice :
    ¬(run step (created (duel .racing 2)) (duelInputs 2)).credits.Nodup := by
  decide +kernel

/-- The condition cannot be dropped: a tick that does not settle is followed by a second credit of
the same racer when the next tick finds that racer's record again. -/
theorem unsettled_tick_repeats (h : ¬Settles world (.tick now)) :
    ¬(run step world
      [.tick now, .outside world.toSurroundings, .tick now]).credits.Nodup := by
  simp only [Settles, Classical.not_imp, not_or] at h
  obtain ⟨hstops, hfirst, hlookups⟩ := h
  have hfailed : tick now world = stop.final world := by
    rw [hstops.tick_eq]
    exact final_bind_of_not_completes fun hdone => hlookups ((stop_completes world).1 hdone)
  cases hracers : world.racers.toList with
  | nil =>
    refine absurd ?_ hfirst
    simp [FirstLookupFails, hracers]
  | cons entry rest =>
    have havailable : (available world entry.1).isSome := by
      rw [FirstLookupFails, hracers] at hfirst
      simpa [Option.isSome_iff_ne_none] using hfirst
    obtain ⟨first, hcredits⟩ := tick_credits_head hstops hracers havailable
    have hagain : Stops now { tick now world with toSurroundings := world.toSurroundings } := by
      rw [hfailed]
      exact ⟨(stop_stage world).trans hstops.1, (stop_timeout world).symm ▸ hstops.2⟩
    obtain ⟨second, hmore⟩ := tick_credits_head hagain hracers havailable
    intro hnodup
    change (tick now { tick now world with
      toSurroundings := world.toSurroundings }).credits.Nodup at hnodup
    rw [hmore] at hnodup
    change ((tick now world).credits ++ entry.1 :: second).Nodup at hnodup
    rw [hcredits] at hnodup
    have hdisjoint := (nodup_append.1 hnodup).2.2
    exact hdisjoint entry.1 (by simp) entry.1 (by simp) rfl

end Alicia.Race
