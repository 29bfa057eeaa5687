import Alicia.Collection.Sorting
import Alicia.Race.Ticks

/-!
# The result board

The board that `Stop` sends is a ranking of the racers with their scores.  What its order says is
read off the racers: the winning team first, and in each team the connected finishers by their
course times, then those without a time, then the disconnected.
-/

namespace Alicia.Race

open Data (Uid Character Horse)
open Transition Transition.Effect List ScoreInfo

/-! ## Racers -/

def Racer.Connected (racer : Racer) : Prop := racer.state ≠ .disconnected

/-- A connected racer with a course time. -/
def Racer.Finished (racer : Racer) : Prop :=
  racer.Connected ∧ racer.courseTime ≠ invalidCourseTime

instance (racer : Racer) : Decidable racer.Connected := inferInstanceAs (Decidable (_ ≠ _))

instance (racer : Racer) : Decidable racer.Finished := inferInstanceAs (Decidable (_ ∧ _))

/-- The racer may stand in front of another one of the same team. -/
structure Racer.Precedes (first second : Racer) : Prop where
  finished : second.Finished → first.Finished ∧ first.courseTime ≤ second.courseTime
  connected : second.Connected → first.Connected

theorem lt_invalidCourseTime (time : UInt32) :
    time < invalidCourseTime ↔ time ≠ invalidCourseTime := by
  have hlt := time.toNat_lt
  rw [UInt32.lt_iff_toNat_lt, ne_eq, ← UInt32.toNat_inj]
  change time.toNat < 4294967295 ↔ ¬ time.toNat = 4294967295
  omega

/-- The priority of a racer's score. -/
def Racer.priority (winner : TeamColor) (racer : Racer) : ℕ ×ₗ ℕ ×ₗ ℕ :=
  toLex (if racer.team ≠ winner then 1 else 0,
    toLex (if ¬ racer.Connected then 2 else if racer.courseTime ≠ invalidCourseTime then 0 else 1,
      (if racer.Connected then racer.courseTime else invalidCourseTime).toNat))

variable (world : World)

theorem bonusBits_mem (racer : Racer) :
    bonusBits world racer ∈ [0, 2048, 4096, (6144 : UInt32)] := by
  unfold bonusBits
  split
  · decide
  · cases world.bonusCourseType <;> decide

theorem racerScore_connected (racer : Racer) :
    (racerScore world racer).bitset &&& connected ≠ 0 ↔ racer.Connected := by
  have hbits : ∀ bits ∈ [0, 2048, 4096, (6144 : UInt32)],
      (connected ||| bits) &&& connected ≠ 0 ∧
        (0 ||| bits) &&& connected = 0 := by
    simp only [forall_mem_cons, not_mem_nil, false_imp_iff, implies_true]
    decide
  obtain ⟨hset, hclear⟩ := hbits _ (bonusBits_mem world racer)
  rw [racerScore]
  dsimp only
  by_cases hconnected : racer.state ≠ .disconnected
  · rw [if_pos hconnected]
    exact iff_of_true hset hconnected
  · rw [if_neg hconnected]
    exact iff_of_false (not_not.2 hclear) hconnected

/-- The bit of a new level is not set before the reward. -/
theorem racerScore_levelUp (racer : Racer) :
    (racerScore world racer).bitset &&& levelUp = 0 ∧
      ((racerScore world racer).bitset ||| levelUp) &&& levelUp ≠ 0 := by
  have hbits : ∀ state ∈ [connected, 0], ∀ bits ∈ [0, 2048, 4096, (6144 : UInt32)],
      (state ||| bits) &&& levelUp = 0 ∧
        ((state ||| bits) ||| levelUp) &&& levelUp ≠ 0 := by
    simp only [forall_mem_cons, not_mem_nil, false_imp_iff, implies_true]
    decide
  refine hbits _ ?_ _ (bonusBits_mem world racer)
  split
  · exact mem_cons_self
  · exact mem_cons_of_mem _ mem_cons_self

theorem priority_racerScore (winner : TeamColor) (racer : Racer) :
    priority winner (racerScore world racer) = racer.priority winner := by
  have htime : (racerScore world racer).courseTime =
      if racer.Connected then racer.courseTime else invalidCourseTime := rfl
  unfold priority Racer.priority
  simp only [racerScore_connected, htime, lt_invalidCourseTime]
  by_cases hconnected : racer.Connected <;> simp [hconnected, racerScore]

theorem eq_winner_of_priority_le {winner : TeamColor} {first second : Racer}
    (h : first.priority winner ≤ second.priority winner) (hsecond : second.team = winner) :
    first.team = winner := by
  by_contra hne
  rw [Racer.priority, Racer.priority, if_pos hne, if_neg (not_not.2 hsecond), Prod.Lex.le_iff] at h
  dsimp only [ofLex_toLex] at h
  obtain h | ⟨h, -⟩ := h <;> exact absurd h (by decide)

theorem precedes_of_priority_le {winner : TeamColor} {first second : Racer}
    (h : first.priority winner ≤ second.priority winner) (hteam : first.team = second.team) :
    first.Precedes second := by
  rw [Racer.priority, Racer.priority, hteam, Prod.Lex.le_iff] at h
  have hrank := (h.resolve_left (lt_irrefl _)).2
  dsimp only [ofLex_toLex] at hrank
  rw [Prod.Lex.le_iff] at hrank
  dsimp only [ofLex_toLex] at hrank
  constructor
  · intro hfinished
    rw [if_neg (not_not.2 hfinished.1), if_pos hfinished.2, if_pos hfinished.1] at hrank
    obtain ⟨hzero, htime⟩ := hrank.resolve_left (Nat.not_lt_zero _)
    by_cases hconnected : first.Connected
    · rw [if_neg (not_not.2 hconnected)] at hzero
      rw [if_pos hconnected] at htime
      exact ⟨⟨hconnected, fun hinvalid => absurd (hzero.symm.trans (if_neg (not_not.2 hinvalid)))
        (by decide)⟩, UInt32.le_iff_toNat_le.2 htime⟩
    · rw [if_pos hconnected] at hzero
      exact absurd hzero (by decide)
  · intro hsecond
    by_contra hconnected
    rw [if_pos hconnected, if_neg (not_not.2 hsecond)] at hrank
    split at hrank <;> omega

/-! ## The winning team -/

/-- What the loop has picked: the first one of the best finishers. -/
theorem foldl_pick (entries : List (Uid × Racer)) (best : UInt32 × TeamColor) :
    (entries.foldl winningTeam.pick best = best ∨ ∃ entry ∈ entries, entry.2.Finished ∧
      entries.foldl winningTeam.pick best = (entry.2.courseTime, entry.2.team)) ∧
    (entries.foldl winningTeam.pick best).1 ≤ best.1 ∧
    ∀ entry ∈ entries, entry.2.Finished →
      (entries.foldl winningTeam.pick best).1 ≤ entry.2.courseTime := by
  induction entries generalizing best with
  | nil => exact ⟨.inl rfl, UInt32.le_refl _, nofun⟩
  | cons entry entries ih =>
    obtain ⟨hpicked, hle, hbest⟩ := ih (winningTeam.pick best entry)
    rw [foldl_cons]
    by_cases hpick : entry.2.Finished ∧ entry.2.courseTime < best.1
    · have hstep : winningTeam.pick best entry = (entry.2.courseTime, entry.2.team) :=
        if_pos ⟨hpick.1.1, hpick.1.2, hpick.2⟩
      rw [hstep] at hpicked hle hbest ⊢
      refine ⟨.inr ?_, UInt32.le_trans hle (UInt32.le_of_lt hpick.2), ?_⟩
      · obtain hsame | ⟨other, hmem, hother⟩ := hpicked
        · exact ⟨entry, mem_cons_self, hpick.1, hsame⟩
        · exact ⟨other, mem_cons_of_mem _ hmem, hother⟩
      · exact forall_mem_cons.2 ⟨fun _ => hle, hbest⟩
    · have hstep : winningTeam.pick best entry = best :=
        if_neg fun h => hpick ⟨⟨h.1, h.2.1⟩, h.2.2⟩
      rw [hstep] at hpicked hle hbest ⊢
      refine ⟨hpicked.imp_right ?_, hle, forall_mem_cons.2 ⟨fun hfinished => ?_, hbest⟩⟩
      · rintro ⟨other, hmem, hother⟩
        exact ⟨other, mem_cons_of_mem _ hmem, hother⟩
      · exact UInt32.le_trans hle (UInt32.not_lt.1 fun hlt => hpick ⟨hfinished, hlt⟩)

/-- In a team race with a finisher, a best one is of the winning team. -/
theorem exists_winner {world : World} (hteam : world.parameters.teamMode = .team)
    {entry : Uid × Racer} (hmem : entry ∈ world.racers.toList) (hfinished : entry.2.Finished) :
    ∃ best ∈ world.racers.toList, best.2.Finished ∧ best.2.team = winningTeam world ∧
      ∀ other ∈ world.racers.toList, other.2.Finished →
        best.2.courseTime ≤ other.2.courseTime := by
  obtain ⟨hpicked, -, hbest⟩ := foldl_pick world.racers.toList (invalidCourseTime, .solo)
  rw [winningTeam, if_pos hteam]
  obtain hnone | ⟨best, hbestMem, hbestFinished, heq⟩ := hpicked
  · have hle := hbest entry hmem hfinished
    rw [hnone] at hle
    exact absurd ((lt_invalidCourseTime _).2 hfinished.2) (UInt32.not_lt.2 hle)
  · rw [heq] at hbest ⊢
    exact ⟨best, hbestMem, hbestFinished, rfl, hbest⟩

/-! ## The scores -/

variable {scores : List ScoreInfo}

theorem scoreBoard_available {racers : List (Uid × Racer)} {world after : World}
    (h : scoreBoard racers world = .ok scores after) {uid : Uid} (hnot : uid ∉ racers.map Prod.fst)
    : available after uid = available world uid := by
  induction racers generalizing world scores with
  | nil =>
    cases h
    rfl
  | cons entry rest ih =>
    obtain ⟨other, racer⟩ := entry
    obtain ⟨score, middle, hscore, hrest⟩ := bind_eq_ok.1 h
    obtain ⟨others, last, hothers, hpure⟩ := bind_eq_ok.1 hrest
    obtain ⟨character, horse, hc, -, rfl⟩ := scoreRacer_eq_ok hscore
    cases hpure
    rw [map_cons, mem_cons, not_or] at hnot
    rw [ih hothers hnot.2, available_credit hc, if_neg hnot.1]

/-- A racer with its score. -/
structure Ranked where
  uid : Uid
  racer : Racer
  score : ScoreInfo

/-- The character of a ranked racer before and after the race. -/
structure Rewarded (levelInfo : List CharacterLevelInfo) (ranked : Ranked)
    (old new : Character) : Prop where
  uid : ranked.score.uid = old.uid
  experience : new.experience = old.experience + ranked.score.experience
  level : new.level = max old.level (getLevelForExp levelInfo new.experience)
  le : old.level ≤ new.level
  levelUp : ranked.score.bitset &&& ScoreInfo.levelUp ≠ 0 ↔ old.level < new.level

theorem rewarded_rewardCharacter (uid : Uid) (racer : Racer) (character : Character) (horse : Horse)
    :
    Rewarded world.levelInfo ⟨uid, racer, mountScore (characterScore (racerScore world racer)
      character (rewardCharacter world.levelInfo (racerScore world racer) character)) horse⟩
      character (rewardCharacter world.levelInfo (racerScore world racer) character) := by
  obtain ⟨hclear, hset⟩ := racerScore_levelUp world racer
  by_cases hrise : getLevelForExp world.levelInfo
      (character.experience + (racerScore world racer).experience) > character.level
  · have hlevel : (rewardCharacter world.levelInfo (racerScore world racer) character).level =
        getLevelForExp world.levelInfo
          (character.experience + (racerScore world racer).experience) := if_pos hrise
    refine ⟨rfl, rfl, ?_, ?_, ?_⟩
    · rw [hlevel]
      exact (if_pos (UInt32.le_of_lt hrise)).symm
    · rw [hlevel]
      exact UInt32.le_of_lt hrise
    · rw [hlevel]
      refine iff_of_true ?_ hrise
      rw [← hlevel] at hrise
      rw [mountScore, characterScore]
      dsimp only
      rw [if_pos hrise]
      exact hset
  · have hlevel : (rewardCharacter world.levelInfo (racerScore world racer) character).level =
        character.level := if_neg hrise
    refine ⟨rfl, rfl, ?_, ?_, ?_⟩
    · rw [hlevel]
      have hle := UInt32.not_lt.1 hrise
      refine Eq.symm (ite_eq_right_iff.2 fun hge => ?_)
      exact UInt32.le_antisymm hle hge
    · rw [hlevel]
      exact UInt32.le_refl _
    · rw [hlevel]
      refine iff_of_false ?_ (UInt32.lt_irrefl _)
      rw [mountScore, characterScore]
      dsimp only
      rw [hlevel, if_neg (UInt32.lt_irrefl _)]
      exact not_not.2 hclear

/-- Every racer has its score on a complete board, in the order of the racers. -/
theorem scoreBoard_scores {racers : List (Uid × Racer)} {world after : World}
    (hnodup : (racers.map Prod.fst).Nodup) (h : scoreBoard racers world = .ok scores after) :
    ∃ ranking : List Ranked, ranking.map (fun ranked => (ranked.uid, ranked.racer)) = racers ∧
      ranking.map Ranked.score = scores ∧ ∀ ranked ∈ ranking,
        (∀ winner, priority winner ranked.score = ranked.racer.priority winner) ∧
        ∃ old new, available world ranked.uid = some old ∧ available after ranked.uid = some new ∧
          Rewarded world.levelInfo ranked old new := by
  induction racers generalizing world scores with
  | nil =>
    cases h
    exact ⟨[], rfl, rfl, nofun⟩
  | cons entry rest ih =>
    obtain ⟨uid, racer⟩ := entry
    obtain ⟨score, middle, hscore, hrest⟩ := bind_eq_ok.1 h
    obtain ⟨others, last, hothers, hpure⟩ := bind_eq_ok.1 hrest
    obtain ⟨character, horse, hc, rfl, rfl⟩ := scoreRacer_eq_ok hscore
    cases hpure
    obtain ⟨hnot, hnodup⟩ := nodup_cons.1 hnodup
    obtain ⟨ranking, hracers, hscores, hranked⟩ := ih hnodup hothers
    refine ⟨⟨uid, racer, _⟩ :: ranking, by rw [map_cons, hracers],
      by rw [map_cons, hscores], forall_mem_cons.2 ⟨⟨fun winner => ?_, ?_⟩, ?_⟩⟩
    · rw [priority_recorded, priority_racerScore]
    · refine ⟨character, _, hc, ?_, rewarded_rewardCharacter world uid racer character horse⟩
      rw [scoreBoard_available hothers hnot, available_credit hc, if_pos rfl]
    · intro ranked hmem
      obtain ⟨hpriority, old, new, hold, hnew, hrewarded⟩ := hranked ranked hmem
      refine ⟨hpriority, old, new, ?_, hnew, hrewarded⟩
      rw [available_credit hc] at hold
      split at hold
      · next heq =>
          refine absurd ?_ hnot
          rw [← hracers, map_map, ← heq]
          exact mem_map_of_mem hmem
      · exact hold

/-! ## The board that is sent -/

/-- The command is for every player of the room. -/
def SentToRoom (room : Room) (notify : Notify) (world : World) : Prop :=
  ∀ entry ∈ room.players.toList, (entry.2.clientId, notify) ∈ world.sent

/-- What the board of a race says, and what `Stop` does by it. -/
structure ResultBoard (world after : World) (ranking : List Ranked) : Prop where
  racers : (ranking.map fun ranked => (ranked.uid, ranked.racer)).Perm world.racers.toList
  winner : world.parameters.teamMode = .team → (∃ ranked ∈ ranking, ranked.racer.Finished) →
    ∃ best ∈ ranking, best.racer.Finished ∧
      (∀ other ∈ ranking, other.racer.Finished →
        best.racer.courseTime ≤ other.racer.courseTime) ∧
      ranking.Pairwise fun first second =>
        second.racer.team = best.racer.team → first.racer.team = best.racer.team
  order : ranking.Pairwise fun first second =>
    first.racer.team = second.racer.team → first.racer.Precedes second.racer
  levels : ∀ ranked ∈ ranking, ∃ old new, available world ranked.uid = some old ∧
    available after ranked.uid = some new ∧ Rewarded world.levelInfo ranked old new
  sent : ∀ room, world.room = some room →
    SentToRoom room (.raceResult (ranking.map Ranked.score)) after
  master : ∀ room, world.room = some room → after.master? =
    some (((ranking.map fun ranked => ranked.score.uid).find? room.hasPlayer).getD
      room.details.masterUid)

theorem electMaster_eq (room : Room) (standings : List Uid) :
    electMaster room standings = standings.find? room.hasPlayer := by
  rw [electMaster]
  split
  · next hcount =>
      have hempty : room.players = ∅ :=
        Std.ExtTreeMap.eq_empty_iff_size_eq_zero.2 (Nat.lt_one_iff.1 hcount)
      refine (List.find?_eq_none.2 fun uid _ => ?_).symm
      rw [Room.hasPlayer, hempty]
      exact Bool.false_ne_true
  · rfl

/-- More commands are sent. -/
def SentMore (before after : World) : Prop := before.sent ⊆ after.sent

instance : Std.Refl SentMore := ⟨fun _ => List.Subset.refl _⟩

instance : IsTrans World SentMore := ⟨fun _ _ _ h g => List.Subset.trans h g⟩

theorem queueCommand_sentMore (clientId : ClientId) (notify : Notify) :
    Keeps SentMore (queueCommand clientId notify) := fun _ => subset_append_left _ _

theorem stop_sameCharacters {world scored : World}
    (hscores : scoreBoard world.racers.toList world = .ok scores scored) :
    SameCharacters scored (stop.final world) := by
  rw [← final_ok hscores]
  exact stop_after (fun _ _ _ => rfl) (fun _ _ => rfl) (fun _ _ => rfl) world

/-- The ranking of the racers is sorted by the priority. -/
theorem pairwise_ranking (winner : TeamColor) (racers : List Ranked) :
    (racers.insertionSort fun first second =>
      first.racer.priority winner ≤ second.racer.priority winner).Pairwise fun first second =>
        first.racer.priority winner ≤ second.racer.priority winner := by
  have htotal : Std.Total fun first second : Ranked =>
      first.racer.priority winner ≤ second.racer.priority winner := ⟨fun _ _ => le_total _ _⟩
  have htrans : IsTrans Ranked fun first second =>
      first.racer.priority winner ≤ second.racer.priority winner := ⟨fun _ _ _ => le_trans⟩
  exact pairwise_insertionSort _ racers

/-- `Stop` with all records ranks the racers, for a comparator that is a strict weak order. -/
theorem stop_ranks (world : World) (h : ∀ entry ∈ world.racers.toList, Mounted world entry.1) :
    (∃ ranking, ResultBoard world (stop.final world) ranking) ∧
      ∀ winner, Collection.StrictWeak fun first second =>
        decide (priority winner first < priority winner second) := by
  refine ⟨?_, fun winner => Collection.strictWeak_of_key (priority winner) fun _ _ =>
    decide_eq_true_iff⟩
  obtain ⟨scores, scored, hscores⟩ := completes_iff.1 (scoreBoard_completes.2 h)
  have hnodup : (world.racers.toList.map Prod.fst).Nodup := by
    rw [Std.ExtTreeMap.map_fst_toList_eq_keys]
    exact Std.ExtTreeMap.nodup_keys
  obtain ⟨racers, hracers, hboard, hranked⟩ := scoreBoard_scores hnodup hscores
  have hperm := List.perm_insertionSort (fun first second : Ranked =>
    first.racer.priority (winningTeam world) ≤ second.racer.priority (winningTeam world)) racers
  have hsorted := pairwise_ranking (winningTeam world) racers
  have hmap := List.map_insertionSort (fun first second : Ranked =>
      first.racer.priority (winningTeam world) ≤ second.racer.priority (winningTeam world))
    (fun first second => priority (winningTeam world) first ≤ priority (winningTeam world) second)
    Ranked.score racers fun first hfirst second hsecond => by
      rw [(hranked first hfirst).1, (hranked second hsecond).1]
  rw [hboard] at hmap
  change _ = sortScores (winningTeam world) scores at hmap
  generalize racers.insertionSort (fun first second : Ranked =>
    first.racer.priority (winningTeam world) ≤ second.racer.priority (winningTeam world)) =
      ranking at hperm hsorted hmap
  have hentries : (ranking.map fun ranked => (ranked.uid, ranked.racer)).Perm
      world.racers.toList := hracers ▸ hperm.map _
  have hsame := stop_sameCharacters hscores
  refine ⟨ranking, hentries, ?_, ?_, ?_, ?_, ?_⟩
  · rintro hteam ⟨ranked, hmem, hfinished⟩
    obtain ⟨best, hbest, hbestFinished, hwinner, hfirst⟩ := exists_winner hteam
      (hentries.subset (List.mem_map_of_mem hmem)) hfinished
    obtain ⟨first, hfirstMem, rfl⟩ := List.mem_map.1 (hentries.symm.subset hbest)
    refine ⟨first, hfirstMem, hbestFinished, fun other hother hotherFinished =>
      hfirst _ (hentries.subset (List.mem_map_of_mem hother)) hotherFinished, ?_⟩
    rw [hwinner]
    exact hsorted.imp eq_winner_of_priority_le
  · exact hsorted.imp precedes_of_priority_le
  · intro ranked hmem
    obtain ⟨-, old, new, hold, hnew, hrewarded⟩ := hranked ranked (hperm.subset hmem)
    exact ⟨old, new, hold, (hsame.available_eq _).trans hnew, hrewarded⟩
  · intro room hroom entry hentry
    rw [stop_final hroom hscores, hmap]
    have hkeeps : Keeps SentMore (do
        assignMaster (sortScores (winningTeam world) scores); settlePlayers : Action Unit) :=
      (assignMaster_keeps queueCommand_sentMore (fun _ _ => List.Subset.refl _) _).bind fun _ =>
        settlePlayers_keeps queueCommand_sentMore fun _ _ => List.Subset.refl _
    exact hkeeps _ (List.mem_append_right _ (List.mem_map_of_mem hentry))
  · intro room hroom
    rw [stop_master_of_board hroom hscores, electMaster_eq, ← hmap, List.map_map]
    rfl

/-- A team race with a finisher and a racer who has disconnected. -/
def teamRace : World where
  parameters := { teamMode := .team }
  racers := .ofList ([(1, { team := .blue }),
    (2, { state := .finishing, team := .red, courseTime := 60000 })] : List (Uid × Racer))
  characters := .ofList
    ([(1, { uid := 1, mountUid := 3 }), (2, { uid := 2, mountUid := 4 })] : List (Uid × Character))
  horses := .ofList ([(3, {}), (4, {})] : List (Uid × Horse))

theorem stop_ranks_teamRace : ∃ ranking, ResultBoard teamRace (stop.final teamRace) ranking :=
  (stop_ranks teamRace (by decide +kernel)).1

end Alicia.Race
