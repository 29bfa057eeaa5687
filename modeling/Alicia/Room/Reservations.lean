import Alicia.Collection.Maps
import Alicia.Room
import Alicia.Transition.Run

/-!
# Reservations

A place in a room is reserved for a character until it comes.  Whether a place can be reserved depends on the players
and on the reservations, but whether a character is added depends on the players only.
-/

namespace Alicia.Room

open Std (ExtTreeMap ExtTreeSet)
open Transition
open Data (Uid)

/-- A call of the room that is about its places. -/
inductive PlaceCall where
  | queuePlayer (characterUid : Uid)
  | dequeuePlayer (characterUid : Uid)
  | addPlayer (clientId : ClientId) (characterUid : Uid) (coin : Bool)
  | removePlayer (characterUid : Uid)
  deriving DecidableEq

/-- The room after a call. -/
def placeStep (room : Room) : PlaceCall → Room
  | .queuePlayer characterUid => (room.queuePlayer characterUid).2
  | .dequeuePlayer characterUid => (room.dequeuePlayer characterUid).2
  | .addPlayer clientId characterUid coin => (room.addPlayer clientId characterUid coin).2
  | .removePlayer characterUid => room.removePlayer characterUid

/-- A room without players and reservations. -/
def opened (uid : UInt32) (details : Details) : Room where
  uid := uid
  details := details

/-- The places that are taken or reserved do not exceed the maximum, and who has a reservation is accepted. -/
structure Reserves (room : Room) : Prop where
  places : room.players.size + room.queuedPlayers.size ≤ room.details.maxPlayerCount.toNat
  accepted : ∀ characterUid ∈ room.queuedPlayers, ∀ clientId coin,
    (room.addPlayer clientId characterUid coin).1 = .ok true

/-- Nobody gets a reservation for a room that they are in, and who comes without a reservation finds a place that
is not reserved, or none. -/
def Orderly (room : Room) : PlaceCall → Prop
  | .queuePlayer characterUid => room.isRoomFull = true ∨ characterUid ∉ room.players
  | .addPlayer _ characterUid _ =>
    characterUid ∈ room.queuedPlayers ∨ room.isRoomFull = false ∨ characterUid ∈ room.players ∨
      room.details.maxPlayerCount.toNat ≤ room.players.size
  | _ => True

section Places

variable {room : Room} {characterUid : Uid}

theorem addPlayer_ok_iff (clientId : ClientId) (coin : Bool) :
    (room.addPlayer clientId characterUid coin).1 = .ok true ↔ room.Accepts characterUid := by
  constructor
  · intro hok
    by_contra hnot
    exact (addPlayer_of_not_accepts hnot clientId coin).1 hok
  · intro haccepts
    rw [addPlayer_of_accepts haccepts]

theorem isRoomFull_eq_false :
    room.isRoomFull = false ↔
      room.players.size + room.queuedPlayers.size < room.details.maxPlayerCount.toNat :=
  decide_eq_false_iff_not.trans Nat.not_le

theorem size_queued_erase (h : characterUid ∈ room.queuedPlayers) :
    (room.queuedPlayers.erase characterUid).size + 1 = room.queuedPlayers.size := by
  have hpos : room.queuedPlayers.size ≠ 0 := by
    intro hzero
    rw [ExtTreeSet.eq_empty_iff_size_eq_zero.2 hzero] at h
    exact absurd h ExtTreeSet.not_mem_empty
  rw [ExtTreeSet.size_erase, if_pos (ExtTreeSet.contains_iff_mem.2 h)]
  omega

theorem size_players_insert (h : characterUid ∉ room.players) (player : Player) :
    (room.players.insert characterUid player).size = room.players.size + 1 := by
  rw [ExtTreeMap.size_insert, if_neg (mt ExtTreeMap.contains_iff_mem.1 h)]

/-- The reservations are kept where the places suffice and nobody has a reservation and a place. -/
theorem reserves_iff : room.Reserves ↔
    room.players.size + room.queuedPlayers.size ≤ room.details.maxPlayerCount.toNat ∧
      ∀ characterUid ∈ room.queuedPlayers, characterUid ∉ room.players := by
  constructor
  · rintro ⟨hplaces, haccepted⟩
    exact ⟨hplaces, fun uid hqueued => ((addPlayer_ok_iff 0 false).1 (haccepted uid hqueued 0 false)).2⟩
  · rintro ⟨hplaces, hapart⟩
    refine ⟨hplaces, fun uid hqueued clientId coin => (addPlayer_ok_iff clientId coin).2 ⟨?_, hapart uid hqueued⟩⟩
    have hreserved := size_queued_erase hqueued
    omega

theorem reserves_opened (uid : UInt32) (details : Details) : (opened uid details).Reserves :=
  reserves_iff.2 ⟨Nat.zero_le _, fun _ hqueued => absurd hqueued ExtTreeSet.not_mem_empty⟩

/-! ### One call -/

theorem reserves_queuePlayer_iff (h : room.Reserves) :
    (room.queuePlayer characterUid).2.Reserves ↔ room.Orderly (.queuePlayer characterUid) := by
  obtain ⟨hplaces, hapart⟩ := reserves_iff.1 h
  rw [queuePlayer, Orderly]
  cases hfull : room.isRoomFull with
  | true =>
    rw [if_pos rfl]
    exact iff_of_true h (.inl rfl)
  | false =>
    rw [if_neg Bool.false_ne_true, reserves_iff]
    have hroom := isRoomFull_eq_false.1 hfull
    constructor
    · exact fun hnext => .inr (hnext.2 characterUid ExtTreeSet.mem_insert_self)
    · rintro (htrue | hout)
      · cases htrue
      · refine ⟨?_, fun uid hqueued => ?_⟩
        · have hsize := @ExtTreeSet.size_insert_le _ _ room.queuedPlayers _ characterUid
          dsimp only
          omega
        · rcases ExtTreeSet.mem_insert.1 hqueued with hsame | hqueued
          · rwa [← Std.LawfulEqCmp.compare_eq_iff_eq.1 hsame]
          · exact hapart uid hqueued

theorem reserves_dequeuePlayer (h : room.Reserves) : (room.dequeuePlayer characterUid).2.Reserves := by
  obtain ⟨hplaces, hapart⟩ := reserves_iff.1 h
  refine reserves_iff.2 ⟨?_, fun uid hqueued => hapart uid (ExtTreeSet.mem_of_mem_erase hqueued)⟩
  have hsize := @ExtTreeSet.size_erase_le _ _ room.queuedPlayers _ characterUid
  exact Nat.le_trans (Nat.add_le_add_left hsize _) hplaces

theorem reserves_removePlayer (h : room.Reserves) : (room.removePlayer characterUid).Reserves := by
  obtain ⟨hplaces, hapart⟩ := reserves_iff.1 h
  refine reserves_iff.2 ⟨?_, fun uid hqueued hplayer => hapart uid hqueued (ExtTreeMap.mem_of_mem_erase hplayer)⟩
  have hsize := @ExtTreeMap.size_erase_le _ _ _ room.players _ characterUid
  exact Nat.le_trans (Nat.add_le_add_right hsize _) hplaces

theorem reserves_addPlayer_iff (h : room.Reserves) (clientId : ClientId) (coin : Bool) :
    (room.addPlayer clientId characterUid coin).2.Reserves ↔
      room.Orderly (.addPlayer clientId characterUid coin) := by
  obtain ⟨hplaces, hapart⟩ := reserves_iff.1 h
  rw [addPlayer, Orderly]
  by_cases htaken : room.details.maxPlayerCount.toNat ≤ room.players.size
  · rw [if_pos htaken]
    exact iff_of_true h (.inr (.inr (.inr htaken)))
  rw [if_neg htaken]
  dsimp only
  by_cases hplayer : characterUid ∈ room.players
  · rw [if_pos hplayer]
    exact iff_of_true (@reserves_dequeuePlayer room characterUid h) (.inr (.inr (.inl hplayer)))
  rw [if_neg hplayer, reserves_iff]
  dsimp only
  rw [size_players_insert hplayer]
  have hdisjoint : ∀ uid ∈ room.queuedPlayers.erase characterUid,
      uid ∉ room.players.insert characterUid { clientId := clientId, team := room.nextTeam coin } := by
    intro uid hqueued hinserted
    obtain ⟨hne, hqueued⟩ := ExtTreeSet.mem_erase.1 hqueued
    rcases ExtTreeMap.mem_insert.1 hinserted with hsame | hplayer
    · exact hne hsame
    · exact hapart uid hqueued hplayer
  by_cases hqueued : characterUid ∈ room.queuedPlayers
  · have hsize := size_queued_erase hqueued
    exact iff_of_true ⟨by omega, hdisjoint⟩ (.inl hqueued)
  · rw [ExtTreeSet.size_erase, if_neg (mt ExtTreeSet.contains_iff_mem.1 hqueued), isRoomFull_eq_false]
    constructor
    · exact fun hnext => .inr (.inl (by omega))
    · rintro (hreserved | hfree | hmember | hfull)
      · exact absurd hreserved hqueued
      · exact ⟨by omega, hdisjoint⟩
      · exact absurd hmember hplayer
      · exact absurd hfull htaken

theorem reserves_placeStep_iff (h : room.Reserves) (call : PlaceCall) :
    (room.placeStep call).Reserves ↔ room.Orderly call := by
  cases call with
  | queuePlayer characterUid => exact reserves_queuePlayer_iff h
  | dequeuePlayer characterUid => exact iff_of_true (reserves_dequeuePlayer h) trivial
  | addPlayer clientId characterUid coin => exact reserves_addPlayer_iff h clientId coin
  | removePlayer characterUid => exact iff_of_true (reserves_removePlayer h) trivial

end Places

/-- All along a run of the calls, the places suffice and the reservations are honoured, exactly if every call is
orderly. -/
theorem reserves_run_iff (uid : UInt32) (details : Details) (calls : List PlaceCall) :
    (∀ first second, calls = first ++ second → (run placeStep (opened uid details) first).Reserves) ↔
      Guarded placeStep Orderly (opened uid details) calls :=
  (@guarded_iff_prefixes _ _ placeStep Orderly Reserves Reserves
    (fun _ call h horderly => (reserves_placeStep_iff h call).2 horderly) (fun _ h => h)
    (fun _ call h hnext => (reserves_placeStep_iff h call).1 hnext) (opened uid details) calls
    (reserves_opened uid details)).symm

/-! ### A place for two -/

/-- The place that is reserved for character 1 goes to character 2. -/
theorem reserved_place_taken :
    ¬∀ first second, [PlaceCall.queuePlayer 1, .addPlayer 7 2 false] = first ++ second →
      (run placeStep (opened 1 { maxPlayerCount := 1 }) first).Reserves := by
  intro h
  have hplaces := (h _ [] (List.append_nil _).symm).places
  exact absurd hplaces (by decide +kernel)

end Alicia.Room
