import Alicia.Collection.Maps
import Alicia.Matchmaking.System
import Alicia.Transition.Run
import Mathlib.Data.List.MinMax

/-!
# The results of matchmaking

Every entry that is made is taken from the queue once, by a search or by its character, so no call is answered
twice, and none that was dequeued.  Whether a result fits the entry that is erased for it depends on the interleaving,
since a search decides by the entry that it has read; and whether the room has a place depends on the characters that
are queued in it, whom `Matchmake` does not count.
-/

namespace Alicia.Matchmaking

open Std (ExtTreeMap)
open Data (Uid invalidUid)
open Transition List MatchmakingSystem

/-! ## The purpose of matchmaking -/

/-- The room is as the entry asks, open to everybody, not playing, and has a place. -/
structure Eligible (entry : Entry) (room : Room) : Prop where
  gameMode : resolveRoomGameMode entry.gameMode = some room.details.gameMode
  teamMode : resolveRoomTeamMode entry.teamMode = some room.details.teamMode
  password : room.details.password = []
  isPlaying : room.isPlaying = false
  isRoomFull : room.isRoomFull = false

/-- The result is right for the entry that was erased: it has waited for the time, or the room is one that it asks
for, with the most players. -/
def Answer.Fits (answer : Answer) : Prop :=
  match answer.result.verdict with
  | .noRoom => answer.entry.queuedAt + matchmakingQueueTimeout ≤ answer.time
  | .makeRoom => False
  | .foundRoom => ∃ room ∈ answer.rooms, room.uid = answer.result.roomUid ∧ Eligible answer.entry room ∧
      ∀ other ∈ answer.rooms, Eligible answer.entry other → other.players.size ≤ room.players.size

/-- Every delivered result answers a call of its own, which was not dequeued, and is right for its entry. -/
structure ResultsSound (system : MatchmakingSystem) : Prop where
  queued : ∀ answer ∈ system.delivered, answer.entry.ticket < system.tickets
  once : (system.delivered.map fun answer => answer.entry.ticket).Nodup
  kept : ∀ answer ∈ system.delivered, answer.entry.ticket ∉ system.dequeued
  fits : ∀ answer ∈ system.delivered, answer.Fits

/-! ## The condition -/

/-- The rooms have valid uids, and those with the most players among the ones that `Matchmake` considers have a
place beside their queued players. -/
def Roomy (entry : Entry) (rooms : List Room) : Prop :=
  ∀ room ∈ rooms, isCandidate entry room.getRoomSnapshot = true → room.uid ≠ invalidUid ∧
    ((∀ other ∈ rooms, isCandidate entry other.getRoomSnapshot = true → other.players.size ≤ room.players.size) →
      room.isRoomFull = false)

/-- What the search erases, if that is next, is the entry that it has read, or asks for the same modes where a room
was found, and the room has a place. -/
def Search.Unraced (system : MatchmakingSystem) (search : Search) : Prop :=
  match search.stage with
  | .expired entry => ∀ erased ∈ system.matchmakingQueue[search.characterUid]?, erased = entry
  | .found entry rooms _ => ∀ erased ∈ system.matchmakingQueue[search.characterUid]?,
      erased.gameMode = entry.gameMode ∧ erased.teamMode = entry.teamMode ∧ Roomy entry rooms
  | _ => True

/-- The condition under which a step keeps the results right. -/
def Unraced (system : MatchmakingSystem) : Input → Prop
  | .advance index _ _ => ∀ search ∈ system.searches[index]?, search.Unraced system
  | _ => True

instance (entry : Entry) (rooms : List Room) : Decidable (Roomy entry rooms) :=
  inferInstanceAs (Decidable (∀ room ∈ rooms, isCandidate entry room.getRoomSnapshot = true → _))

instance (system : MatchmakingSystem) : (search : Search) → Decidable (search.Unraced system)
  | ⟨_, _, _, .expired _⟩ => Option.decidableForallMem _
  | ⟨_, _, _, .found _ _ _⟩ => Option.decidableForallMem _
  | ⟨_, _, _, .scheduled _⟩ | ⟨_, _, _, .read _⟩ | ⟨_, _, _, .searching _⟩ | ⟨_, _, _, .erased _⟩ => isTrue trivial

instance (system : MatchmakingSystem) : (input : Input) → Decidable (Unraced system input)
  | .advance _ _ _ => Option.decidableForallMem _
  | .queue _ _ _ | .dequeue _ | .elapse _ => isTrue trivial

variable {room : Room}

/-! ## The choice of a room -/

section Choice

variable {entry : Entry} {rooms : List Room}

theorem isCandidate_iff : isCandidate entry room.getRoomSnapshot = true ↔
    resolveRoomGameMode entry.gameMode = some room.details.gameMode ∧
      resolveRoomTeamMode entry.teamMode = some room.details.teamMode ∧ room.details.password = [] ∧
      room.isPlaying = false ∧ room.players.size < room.details.maxPlayerCount.toNat := by
  simp only [isCandidate, Bool.and_eq_true, Bool.not_eq_true']
  constructor
  · rintro ⟨⟨⟨hpassword, hplaying⟩, hgame, hteam⟩, hplace⟩
    exact ⟨(of_decide_eq_true hgame).symm, (of_decide_eq_true hteam).symm, of_decide_eq_true hpassword, hplaying,
      of_decide_eq_true hplace⟩
  · rintro ⟨hgame, hteam, hpassword, hplaying, hplace⟩
    exact ⟨⟨⟨decide_eq_true hpassword, hplaying⟩, decide_eq_true hgame.symm, decide_eq_true hteam.symm⟩,
      decide_eq_true hplace⟩

/-- A room that is as the entry asks is considered. -/
theorem Eligible.isCandidate (h : Eligible entry room) :
    isCandidate entry room.getRoomSnapshot = true := by
  have hplace : room.players.size < room.details.maxPlayerCount.toNat := by
    have hfull := h.isRoomFull
    rw [Room.isRoomFull, decide_eq_false_iff_not] at hfull
    omega
  exact isCandidate_iff.2 ⟨h.gameMode, h.teamMode, h.password, h.isPlaying, hplace⟩

theorem eligible_of_isCandidate (h : Matchmaking.isCandidate entry room.getRoomSnapshot = true)
    (hplace : room.isRoomFull = false) : Eligible entry room := by
  obtain ⟨hgame, hteam, hpassword, hplaying, -⟩ := isCandidate_iff.1 h
  exact ⟨hgame, hteam, hpassword, hplaying, hplace⟩

/-- The rooms that are considered. -/
def candidates (entry : Entry) (rooms : List Room) : List Room :=
  rooms.filter fun room => isCandidate entry room.getRoomSnapshot

theorem mem_candidates :
    room ∈ candidates entry rooms ↔ room ∈ rooms ∧ isCandidate entry room.getRoomSnapshot = true :=
  mem_filter

/-- A room that comes last. -/
theorem candidates_concat (entry : Entry) (rooms : List Room) (room : Room) :
    candidates entry (rooms ++ [room]) =
      if isCandidate entry room.getRoomSnapshot then candidates entry rooms ++ [room] else candidates entry rooms := by
  rw [candidates, filter_append, filter_singleton]
  cases isCandidate entry room.getRoomSnapshot with
  | false => exact append_nil _
  | true => rfl

/-- What is selected if this room is the best one. -/
def selectionOf : Option Room → Uid × Nat
  | none => (invalidUid, 0)
  | some room => (room.uid, room.players.size)

/-- The scan over the rooms keeps the first of those with the most players, unless a room has the invalid uid. -/
theorem select_eq_argmax (hvalid : ∀ room ∈ candidates entry rooms, room.uid ≠ invalidUid) :
    (rooms.map Room.getRoomSnapshot).foldl (select entry) (invalidUid, 0) =
      selectionOf ((candidates entry rooms).argmax fun room => room.players.size) := by
  induction rooms using List.reverseRecOn with
  | nil => rfl
  | append_singleton rooms room ih =>
    rw [candidates_concat] at hvalid ⊢
    rw [map_append, foldl_append, map_singleton, foldl_cons, foldl_nil]
    cases hcandidate : isCandidate entry room.getRoomSnapshot with
    | false =>
      rw [hcandidate, if_neg Bool.false_ne_true] at hvalid
      rw [ih hvalid, if_neg Bool.false_ne_true, select, hcandidate]
      rfl
    | true =>
      rw [hcandidate, if_pos rfl] at hvalid
      have hbefore : ∀ other ∈ candidates entry rooms, other.uid ≠ invalidUid :=
        fun other hother => hvalid other (mem_append_left _ hother)
      rw [ih hbefore, if_pos rfl, argmax_concat, select, hcandidate]
      cases hbest : (candidates entry rooms).argmax fun room => room.players.size with
      | none => rfl
      | some best =>
        have huid := hbefore best (argmax_mem hbest)
        by_cases hmore : best.players.size < room.players.size
        · have hselect : (true && (decide ((selectionOf (some best)).1 = invalidUid) ||
              decide ((selectionOf (some best)).2 < room.getRoomSnapshot.playerCount))) = true := by
            rw [Bool.true_and, Bool.or_eq_true]
            exact .inr (decide_eq_true hmore)
          rw [if_pos hselect]
          dsimp only
          rw [if_pos hmore]
          rfl
        · have hselect : ¬(true && (decide ((selectionOf (some best)).1 = invalidUid) ||
              decide ((selectionOf (some best)).2 < room.getRoomSnapshot.playerCount))) = true := by
            rw [Bool.true_and, Bool.or_eq_true]
            exact not_or.2 ⟨fun h => huid (of_decide_eq_true h), fun h => hmore (of_decide_eq_true h)⟩
          rw [if_neg hselect]
          dsimp only
          rw [if_neg hmore]

/-- A room that is matched has the most players among those that are considered. -/
theorem matchmake_spec {roomUid : Uid} (hvalid : ∀ room ∈ candidates entry rooms, room.uid ≠ invalidUid)
    (h : matchmake entry (rooms.map Room.getRoomSnapshot) = some roomUid) :
    ∃ room ∈ candidates entry rooms, room.uid = roomUid ∧
      ∀ other ∈ candidates entry rooms, other.players.size ≤ room.players.size := by
  rw [matchmake, select_eq_argmax hvalid] at h
  cases hbest : (candidates entry rooms).argmax fun room => room.players.size with
  | none =>
    rw [hbest] at h
    cases h
  | some best =>
    rw [hbest] at h
    have hmem := argmax_mem hbest
    have huid : ¬(selectionOf (some best)).1 = invalidUid := hvalid best hmem
    rw [if_neg huid] at h
    cases h
    exact ⟨best, hmem, rfl, (argmax_eq_some_iff.1 hbest).2.1⟩

/-- A room that is matched is right for the entry, if the rooms have places. -/
theorem fits_of_matchmake {roomUid : Uid} (hroomy : Roomy entry rooms)
    (h : matchmake entry (rooms.map Room.getRoomSnapshot) = some roomUid) :
    ∃ room ∈ rooms, room.uid = roomUid ∧ Eligible entry room ∧
      ∀ other ∈ rooms, Eligible entry other → other.players.size ≤ room.players.size := by
  have hvalid : ∀ room ∈ candidates entry rooms, room.uid ≠ invalidUid := by
    intro room hroom
    obtain ⟨hmem, hcandidate⟩ := mem_candidates.1 hroom
    exact (hroomy room hmem hcandidate).1
  obtain ⟨room, hroom, huid, hmost⟩ := matchmake_spec hvalid h
  obtain ⟨hmem, hcandidate⟩ := mem_candidates.1 hroom
  have hplace := (hroomy room hmem hcandidate).2 fun other hother hcounts => hmost other (mem_candidates.2 ⟨hother, hcounts⟩)
  exact ⟨room, hmem, huid, eligible_of_isCandidate hcandidate hplace,
    fun other hother heligible => hmost other (mem_candidates.2 ⟨hother, heligible.isCandidate⟩)⟩

end Choice

/-! ## The account of the tickets -/

/-- The ticket of a search that has erased an entry. -/
def Search.ticket? (search : Search) : Option Nat :=
  match search.stage with
  | .erased answer => some answer.entry.ticket
  | _ => none

namespace MatchmakingSystem

/-- How often a ticket has left the queue: for a result that is on its way, by a result, or by its character. -/
def uses (system : MatchmakingSystem) (ticket : Nat) : Nat :=
  (system.searches.filterMap Search.ticket?).count ticket +
    (system.delivered.map fun answer => answer.entry.ticket).count ticket + system.dequeued.count ticket

end MatchmakingSystem

/-- The entries of a queue have tickets of their own, and a ticket leaves the queue once. -/
structure Accounted (queue : ExtTreeMap Uid Entry) (tickets : Nat) (uses : Nat → Nat) : Prop where
  once : ∀ ticket, uses ticket ≤ 1
  unused : ∀ ticket, tickets ≤ ticket → uses ticket = 0
  queued : ∀ (uid : Uid) (entry : Entry), queue[uid]? = some entry → entry.ticket < tickets ∧ uses entry.ticket = 0
  own : ∀ (uid other : Uid) (entry another : Entry), queue[uid]? = some entry → queue[other]? = some another →
    entry.ticket = another.ticket → uid = other

section Accounts

variable {queue : ExtTreeMap Uid Entry} {tickets : Nat} {uses : Nat → Nat} {uid : Uid} {entry : Entry}

/-- A new entry. -/
theorem Accounted.insert (h : Accounted queue tickets uses) (hentry : entry.ticket = tickets) :
    Accounted (queue.insert uid entry) (tickets + 1) uses := by
  refine ⟨h.once, fun ticket hticket => h.unused ticket (by omega), fun other another hother => ?_,
    fun first second entry₁ entry₂ hfirst hsecond hsame => ?_⟩
  · rw [Collection.getElem?_insert_self_or_ne] at hother
    split at hother
    · cases hother
      exact ⟨by omega, h.unused _ (by omega)⟩
    · obtain ⟨hlt, hunused⟩ := h.queued other another hother
      exact ⟨by omega, hunused⟩
  · rw [Collection.getElem?_insert_self_or_ne] at hfirst hsecond
    split at hfirst
    · next hone =>
        cases hfirst
        split at hsecond
        · next htwo => exact hone.trans htwo.symm
        · have hlt := (h.queued second entry₂ hsecond).1
          omega
    · split at hsecond
      · cases hsecond
        have hlt := (h.queued first entry₁ hfirst).1
        omega
      · exact h.own first second entry₁ entry₂ hfirst hsecond hsame

variable {after : Nat → Nat}

/-- An entry that leaves the queue. -/
theorem Accounted.erase (h : Accounted queue tickets uses) (hentry : queue[uid]? = some entry)
    (hafter : ∀ ticket, after ticket = uses ticket + if ticket = entry.ticket then 1 else 0) :
    Accounted (queue.erase uid) tickets after := by
  obtain ⟨hlt, hunused⟩ := h.queued uid entry hentry
  have hleft : ∀ (other : Uid) (another : Entry), (queue.erase uid)[other]? = some another →
      other ≠ uid ∧ queue[other]? = some another := by
    intro other another hother
    rw [Collection.getElem?_erase_self_or_ne] at hother
    split at hother
    · cases hother
    · next hne => exact ⟨hne, hother⟩
  refine ⟨fun ticket => ?_, fun ticket hticket => ?_, fun other another hother => ?_,
    fun first second entry₁ entry₂ hfirst hsecond hsame => ?_⟩
  · rw [hafter]
    split
    · next hticket =>
        rw [hticket, hunused]
    · exact h.once ticket
  · rw [hafter, h.unused ticket hticket, if_neg (by omega)]
  · obtain ⟨hne, hbefore⟩ := hleft other another hother
    obtain ⟨hanother, hnone⟩ := h.queued other another hbefore
    refine ⟨hanother, ?_⟩
    rw [hafter, hnone, if_neg fun hsame => hne (h.own other uid another entry hbefore hentry hsame)]
  · exact h.own first second entry₁ entry₂ (hleft first entry₁ hfirst).2 (hleft second entry₂ hsecond).2 hsame

theorem Accounted.congr (h : Accounted queue tickets uses)
    (hafter : ∀ ticket, after ticket = uses ticket) : Accounted queue tickets after := by
  rwa [funext hafter]

/-- A use that is forgotten. -/
theorem Accounted.mono (h : Accounted queue tickets uses)
    (hafter : ∀ ticket, after ticket ≤ uses ticket) : Accounted queue tickets after := by
  refine ⟨fun ticket => (hafter ticket).trans (h.once ticket), fun ticket hticket => ?_, fun uid entry hentry => ?_,
    h.own⟩
  · exact Nat.le_zero.1 (h.unused ticket hticket ▸ hafter ticket)
  · obtain ⟨hlt, hnone⟩ := h.queued uid entry hentry
    exact ⟨hlt, Nat.le_zero.1 (hnone ▸ hafter entry.ticket)⟩

end Accounts

section Lists

variable {α β : Type} [DecidableEq β] {xs : List α} {index : Nat} {x : α}

theorem count_filterMap_cons (f : α → Option β) (x : α) (rest : List α) (b : β) :
    ((x :: rest).filterMap f).count b = (f x).toList.count b + (rest.filterMap f).count b := by
  rw [filterMap_cons]
  cases f x with
  | none => exact (Nat.zero_add _).symm
  | some c => exact @count_append _ _ b [c] _

/-- What is counted when an element is replaced. -/
theorem count_filterMap_set (f : α → Option β) (h : xs[index]? = some x) (y : α) (b : β) :
    ((xs.set index y).filterMap f).count b + (f x).toList.count b =
      (xs.filterMap f).count b + (f y).toList.count b := by
  induction xs generalizing index with
  | nil => cases h
  | cons first rest ih =>
    cases index with
    | zero =>
      cases h
      rw [set_cons_zero, count_filterMap_cons, count_filterMap_cons]
      omega
    | succ index =>
      have hrest := ih h
      rw [set_cons_succ, count_filterMap_cons, count_filterMap_cons]
      omega

/-- What is counted when an element is removed. -/
theorem count_filterMap_eraseIdx (f : α → Option β) (h : xs[index]? = some x) (b : β) :
    ((xs.eraseIdx index).filterMap f).count b + (f x).toList.count b = (xs.filterMap f).count b := by
  induction xs generalizing index with
  | nil => cases h
  | cons first rest ih =>
    cases index with
    | zero =>
      cases h
      rw [eraseIdx_cons_zero, count_filterMap_cons]
      omega
    | succ index =>
      have hrest := ih h
      rw [eraseIdx_cons_succ, count_filterMap_cons, count_filterMap_cons]
      omega

end Lists

/-- A ticket by itself. -/
theorem count_one (first ticket : Nat) : [first].count ticket = if ticket = first then 1 else 0 := by
  rw [count_singleton]
  by_cases hsame : ticket = first
  · rw [if_pos hsame, hsame, if_pos (beq_self_eq_true first)]
  · rw [if_neg hsame, if_neg fun hbeq => hsame (beq_iff_eq.1 hbeq).symm]

section Steps

variable {system : MatchmakingSystem} {index : Nat} {search : Search}

/-- The account of a system. -/
def Balanced (system : MatchmakingSystem) : Prop :=
  Accounted system.matchmakingQueue system.tickets system.uses

theorem uses_search (characterUid : Uid) (gameMode teamMode : UInt8) (system : MatchmakingSystem) (ticket : Nat) :
    (system.search characterUid gameMode teamMode).uses ticket = system.uses ticket := by
  rw [uses, uses, search]
  dsimp only
  rw [filterMap_append]
  exact congrArg (fun erased : List Nat => erased.count ticket + _ + _) (append_nil _)

/-- A search that goes on changes the account by its own ticket. -/
theorem uses_goOn (hindex : system.searches[index]? = some search) (stage : Stage) (ticket : Nat) :
    (system.goOn index search stage).uses ticket + search.ticket?.toList.count ticket =
      system.uses ticket + (Search.ticket? { search with stage := stage }).toList.count ticket := by
  have hset := count_filterMap_set Search.ticket? hindex { search with stage := stage } ticket
  rw [uses, uses, goOn]
  dsimp only
  omega

theorem uses_finish (hindex : system.searches[index]? = some search) (ticket : Nat) :
    (system.finish index).uses ticket + search.ticket?.toList.count ticket = system.uses ticket := by
  have herase := count_filterMap_eraseIdx Search.ticket? hindex ticket
  rw [uses, uses, finish]
  dsimp only
  omega

/-- A search that has erased nothing, and erases nothing. -/
theorem balanced_goOn (h : Balanced system) (hindex : system.searches[index]? = some search)
    (hnone : search.ticket? = none) {stage : Stage} (hstage : Search.ticket? { search with stage := stage } = none) :
    Balanced (system.goOn index search stage) := by
  refine .congr h fun ticket => ?_
  have huses := uses_goOn hindex stage ticket
  rw [hnone, hstage] at huses
  exact huses

theorem balanced_finish (h : Balanced system) (hindex : system.searches[index]? = some search) :
    Balanced (system.finish index) := by
  refine .mono h fun ticket => ?_
  have huses := uses_finish hindex ticket
  omega

theorem balanced_eraseFor (h : Balanced system) (hindex : system.searches[index]? = some search)
    (hnone : search.ticket? = none) (result : Result) (rooms : List Room) :
    Balanced (system.eraseFor index search result rooms) := by
  rw [eraseFor]
  cases hentry : system.matchmakingQueue[search.characterUid]? with
  | none => exact balanced_finish h hindex
  | some erased =>
    refine .erase h hentry fun ticket => ?_
    have huses := @uses_goOn
      { system with matchmakingQueue := system.matchmakingQueue.erase search.characterUid } index search hindex
      (.erased ⟨result, erased, system.now, rooms⟩) ticket
    rw [hnone] at huses
    exact huses.trans (congrArg (system.uses ticket + ·) (count_one erased.ticket ticket))

theorem balanced_search (h : Balanced system) (characterUid : Uid) (gameMode teamMode : UInt8) :
    Balanced (system.search characterUid gameMode teamMode) :=
  .congr h (uses_search characterUid gameMode teamMode system)

theorem balanced_queue (h : Balanced system) (characterUid : Uid) (gameMode teamMode : UInt8) :
    Balanced (system.queue characterUid gameMode teamMode).2 := by
  rw [queue]
  split
  · exact h
  · have hinserted : Balanced { system with
          matchmakingQueue := system.matchmakingQueue.insert characterUid
            ⟨system.now, gameMode, teamMode, system.tickets⟩
          tickets := system.tickets + 1 } :=
      .insert h rfl
    exact balanced_search hinserted characterUid gameMode teamMode

theorem balanced_dequeue (h : Balanced system) (characterUid : Uid) : Balanced (system.dequeue characterUid).2 := by
  rw [dequeue]
  cases hentry : system.matchmakingQueue[characterUid]? with
  | none => exact h
  | some entry =>
    refine .erase h hentry fun ticket => ?_
    show _ + (system.dequeued ++ [entry.ticket]).count ticket = _
    rw [count_append, count_one, uses]
    exact (Nat.add_assoc _ _ _).symm

/-- A result is delivered, or lost with its ticket. -/
theorem balanced_deliver (h : Balanced system) (hindex : system.searches[index]? = some search) {answer : Answer}
    (hstage : search.stage = .erased answer) (isOnline : Bool) :
    Balanced (if isOnline then
      { system.finish index with delivered := (system.finish index).delivered ++ [answer] } else system.finish index) := by
  split
  · refine .congr h fun ticket => ?_
    have huses := uses_finish hindex ticket
    have hticket : search.ticket? = some answer.entry.ticket := by rw [Search.ticket?, hstage]
    have hdelivered : (((system.finish index).delivered ++ [answer]).map fun answer => answer.entry.ticket).count ticket =
        ((system.finish index).delivered.map fun answer => answer.entry.ticket).count ticket +
          [answer.entry.ticket].count ticket := by
      rw [map_append, count_append]
      rfl
    rw [hticket, uses] at huses
    rw [uses]
    dsimp only [Option.toList] at huses ⊢
    omega
  · exact balanced_finish h hindex

theorem balanced_advance (h : Balanced system) (index : Nat) (rooms : List Room) (isOnline : Bool) :
    Balanced (system.advance index rooms isOnline) := by
  rw [advance]
  cases hindex : system.searches[index]? with
  | none => exact h
  | some search =>
    obtain ⟨characterUid, gameMode, teamMode, stage⟩ := search
    cases stage with
    | scheduled due =>
      dsimp only
      split
      · exact h
      cases system.matchmakingQueue[characterUid]? with
      | none => exact balanced_finish h hindex
      | some entry => exact balanced_goOn h hindex rfl rfl
    | read entry =>
      dsimp only
      split
      · exact balanced_goOn h hindex rfl rfl
      · exact balanced_goOn h hindex rfl rfl
    | expired entry => exact balanced_eraseFor h hindex rfl _ _
    | searching entry =>
      dsimp only
      cases matchmake entry (rooms.map Room.getRoomSnapshot) with
      | none => exact balanced_search (balanced_finish h hindex) characterUid gameMode teamMode
      | some roomUid => exact balanced_goOn h hindex rfl rfl
    | found entry rooms roomUid => exact balanced_eraseFor h hindex rfl _ _
    | erased answer => exact balanced_deliver h hindex rfl isOnline

theorem balanced_step (system : MatchmakingSystem) (input : Input) (h : Balanced system) :
    Balanced (step system input) := by
  cases input with
  | queue characterUid gameMode teamMode => exact balanced_queue h characterUid gameMode teamMode
  | dequeue characterUid => exact balanced_dequeue h characterUid
  | advance index rooms isOnline => exact balanced_advance h index rooms isOnline
  | elapse duration => exact h

theorem balanced_empty : Balanced {} := by
  refine ⟨fun ticket => ?_, fun ticket _ => rfl, fun uid entry hentry => ?_, fun first second _ _ hfirst => ?_⟩
  · exact Nat.zero_le 1
  · cases ExtTreeMap.getElem?_empty.symm.trans hentry
  · cases ExtTreeMap.getElem?_empty.symm.trans hfirst

/-! ## What a search knows -/

/-- What a search has found out: the entry has expired, the room was matched, or the result is right. -/
def Stage.Informed (now : Race.Instant) : Stage → Prop
  | .expired entry => entry.queuedAt + matchmakingQueueTimeout ≤ now
  | .found entry rooms roomUid => matchmake entry (rooms.map Room.getRoomSnapshot) = some roomUid
  | .erased answer => answer.Fits
  | _ => True

/-- What a search knows stays true. -/
theorem Stage.Informed.later {stage : Stage} {now later : Race.Instant} (h : stage.Informed now) (hle : now ≤ later) :
    stage.Informed later := by
  cases stage with
  | expired entry => exact Nat.le_trans h hle
  | _ => exact h

structure Informed (system : MatchmakingSystem) : Prop where
  searches : ∀ search ∈ system.searches, search.stage.Informed system.now
  delivered : ∀ answer ∈ system.delivered, answer.Fits

theorem informed_goOn (h : Informed system) {stage : Stage} (hstage : stage.Informed system.now) :
    Informed (system.goOn index search stage) := by
  refine ⟨fun other hother => ?_, h.delivered⟩
  rcases mem_or_eq_of_mem_set hother with hmem | rfl
  · exact h.searches other hmem
  · exact hstage

theorem informed_finish (h : Informed system) : Informed (system.finish index) :=
  ⟨fun other hother => h.searches other (mem_of_mem_eraseIdx hother), h.delivered⟩

theorem informed_search (h : Informed system) (characterUid : Uid) (gameMode teamMode : UInt8) :
    Informed (system.search characterUid gameMode teamMode) := by
  refine ⟨fun other hother => ?_, h.delivered⟩
  rcases mem_append.1 hother with hmem | hnew
  · exact h.searches other hmem
  · cases mem_singleton.1 hnew
    exact trivial

/-- The entry is erased for a result that is right for whatever entry is there. -/
theorem informed_eraseFor (h : Informed system) {result : Result} {rooms : List Room}
    (hfits : ∀ erased, system.matchmakingQueue[search.characterUid]? = some erased →
      Answer.Fits ⟨result, erased, system.now, rooms⟩) :
    Informed (system.eraseFor index search result rooms) := by
  rw [eraseFor]
  cases hentry : system.matchmakingQueue[search.characterUid]? with
  | none => exact informed_finish h
  | some erased =>
    have hremoved : Informed { system with
        matchmakingQueue := system.matchmakingQueue.erase search.characterUid } := ⟨h.searches, h.delivered⟩
    exact informed_goOn hremoved (hfits erased hentry)

theorem eligible_of_modes {entry erased : Entry} (hgame : erased.gameMode = entry.gameMode)
    (hteam : erased.teamMode = entry.teamMode) : Eligible erased room ↔ Eligible entry room := by
  constructor
  · intro h
    exact ⟨hgame ▸ h.gameMode, hteam ▸ h.teamMode, h.password, h.isPlaying, h.isRoomFull⟩
  · intro h
    exact ⟨hgame.symm ▸ h.gameMode, hteam.symm ▸ h.teamMode, h.password, h.isPlaying, h.isRoomFull⟩

/-- The time that is compared is the one since the entry was queued. -/
theorem expired_of_le_sub {now queuedAt : Nat} (h : matchmakingQueueTimeout ≤ now - queuedAt) :
    queuedAt + matchmakingQueueTimeout ≤ now := by
  have hpositive : 0 < matchmakingQueueTimeout := by decide
  omega

theorem informed_advance (h : Informed system) (index : Nat) (rooms : List Room) (isOnline : Bool)
    (hunraced : Unraced system (.advance index rooms isOnline)) :
    Informed (system.advance index rooms isOnline) := by
  rw [advance]
  cases hindex : system.searches[index]? with
  | none => exact h
  | some search =>
    have hknown := h.searches search (mem_of_getElem? hindex)
    have hsafe := hunraced search hindex
    obtain ⟨characterUid, gameMode, teamMode, stage⟩ := search
    cases stage with
    | scheduled due =>
      dsimp only
      split
      · exact h
      cases system.matchmakingQueue[characterUid]? with
      | none => exact informed_finish h
      | some entry => exact informed_goOn h trivial
    | read entry =>
      dsimp only
      split
      · next hexpired => exact informed_goOn h (expired_of_le_sub hexpired)
      · exact informed_goOn h trivial
    | expired entry =>
      refine informed_eraseFor h fun erased herased => ?_
      rw [hsafe erased herased]
      exact hknown
    | searching entry =>
      dsimp only
      cases hmatch : matchmake entry (rooms.map Room.getRoomSnapshot) with
      | none => exact informed_search (informed_finish h) characterUid gameMode teamMode
      | some roomUid => exact informed_goOn h hmatch
    | found entry seen roomUid =>
      refine informed_eraseFor h fun erased herased => ?_
      obtain ⟨hgame, hteam, hroomy⟩ := hsafe erased herased
      obtain ⟨room, hroom, huid, heligible, hmost⟩ := fits_of_matchmake hroomy hknown
      exact ⟨room, hroom, huid, (eligible_of_modes hgame hteam).2 heligible,
        fun other hother hright => hmost other hother ((eligible_of_modes hgame hteam).1 hright)⟩
    | erased answer =>
      have hfinished := @informed_finish system index h
      dsimp only
      split
      · refine ⟨hfinished.searches, fun other hother => ?_⟩
        rcases mem_append.1 hother with hmem | hnew
        · exact h.delivered other hmem
        · cases mem_singleton.1 hnew
          exact hknown
      · exact hfinished

theorem informed_step (system : MatchmakingSystem) (input : Input) (h : Informed system)
    (hunraced : Unraced system input) : Informed (step system input) := by
  cases input with
  | queue characterUid gameMode teamMode =>
    show Informed (system.queue characterUid gameMode teamMode).2
    rw [queue]
    split
    · exact h
    · have hinserted : Informed { system with
          matchmakingQueue := system.matchmakingQueue.insert characterUid
            ⟨system.now, gameMode, teamMode, system.tickets⟩
          tickets := system.tickets + 1 } := ⟨h.searches, h.delivered⟩
      exact informed_search hinserted characterUid gameMode teamMode
  | dequeue characterUid =>
    show Informed (system.dequeue characterUid).2
    rw [dequeue]
    cases system.matchmakingQueue[characterUid]? with
    | none => exact h
    | some entry => exact ⟨h.searches, h.delivered⟩
  | advance index rooms isOnline => exact informed_advance h index rooms isOnline hunraced
  | elapse duration =>
    exact ⟨fun search hsearch => (h.searches search hsearch).later (Nat.le_add_right _ _), h.delivered⟩

theorem informed_empty : Informed {} :=
  ⟨fun _ hsearch => absurd hsearch not_mem_nil, fun _ hanswer => absurd hanswer not_mem_nil⟩

/-- A balanced account makes every result the only one of a call that was not dequeued. -/
theorem resultsSound_of_balanced (hbalanced : Balanced system) (hinformed : Informed system) :
    ResultsSound system := by
  have hcounted : ∀ answer ∈ system.delivered,
      0 < (system.delivered.map fun answer => answer.entry.ticket).count answer.entry.ticket :=
    fun answer hanswer => count_pos_iff.2 (mem_map_of_mem hanswer)
  refine ⟨fun answer hanswer => ?_, nodup_iff_count_le_one.2 fun ticket => ?_, fun answer hanswer hdequeued => ?_,
    hinformed.delivered⟩
  · by_contra hfresh
    have hnone := hbalanced.unused answer.entry.ticket (Nat.le_of_not_lt hfresh)
    have hpositive := hcounted answer hanswer
    rw [uses] at hnone
    omega
  · have honce := hbalanced.once ticket
    rw [uses] at honce
    omega
  · have honce := hbalanced.once answer.entry.ticket
    have hpositive := hcounted answer hanswer
    have htaken := count_pos_iff.2 hdequeued
    rw [uses] at honce
    omega

end Steps

/-! ## Runs -/

/-- As long as a search erases the entry that it has read, or one with the same modes for a room, and the fullest
of the rooms that it considers have a place beside their queued players, every result is the only one of a call
that was not dequeued, and right for its entry. -/
theorem results_sound (inputs : List Input) (h : Guarded step Unraced {} inputs) : ResultsSound (run step {} inputs) :=
  resultsSound_of_balanced (run_invariant balanced_step balanced_empty inputs)
    (h.invariant informed_step informed_empty)

/-! ### A quick game -/

def quickRoom : Room where
  uid := 7
  details := { maxPlayerCount := 2, gameMode := .speed }

/-- A character is queued for a race of speed, and its search finds the room. -/
def quickSearch (room : Room) : List Input :=
  [.queue 100 1 1, .elapse matchmakingInterval, .advance 0 [] true, .advance 0 [] true, .advance 0 [room] true]

theorem results_sound_quick :
    ResultsSound (run step {} (quickSearch quickRoom ++ [.advance 0 [] true, .advance 0 [] true])) := by
  refine results_sound (quickSearch quickRoom ++ [.advance 0 [] true, .advance 0 [] true]) ?_
  decide +kernel

/-! ### A room that is reserved -/

/-- The only place is kept for a character that is about to enter. -/
def reservedRoom : Room where
  uid := 7
  details := { maxPlayerCount := 1, gameMode := .speed }
  queuedPlayers := (∅ : Std.ExtTreeSet Uid).insert 200

theorem found_room_full :
    ¬ResultsSound (run step {} (quickSearch reservedRoom ++ [.advance 0 [] true, .advance 0 [] true])) := by
  intro h
  have hdelivered : (run step {} (quickSearch reservedRoom ++ [.advance 0 [] true, .advance 0 [] true])).delivered =
      [⟨{ verdict := .foundRoom, roomUid := 7 }, ⟨0, 1, 1, 0⟩, matchmakingInterval, [reservedRoom]⟩] := by
    decide +kernel
  have hfits := h.fits
  rw [hdelivered] at hfits
  obtain ⟨room, hroom, -, heligible, -⟩ := hfits _ List.mem_cons_self
  cases List.mem_singleton.1 hroom
  have hfull : reservedRoom.isRoomFull = true := by decide +kernel
  exact absurd (hfull.symm.trans heligible.isRoomFull) (by decide)

end Alicia.Matchmaking
