import Alicia.Protocol.Stream

/-!
# The result of a race

What a client sends when it has finished a race.  The sector times come behind their count, and
`Read` takes as many whole laps of them as the count has.  So it is in step with the client only if
the count is one of whole laps: otherwise it takes the sector times that it left for the members
behind them.
-/

namespace Alicia.Protocol

open Transition Source LittleEndian

/-! ## The command -/

/-- The times of the sectors of a lap in milliseconds. -/
structure LapRecord where
  sector1Ms : UInt32 := 0
  sector2Ms : UInt32 := 0
  sector3Ms : UInt32 := 0
  deriving DecidableEq

instance : Readable LapRecord := ⟨do
  return {
    sector1Ms := ← take
    sector2Ms := ← take
    sector3Ms := ← take }⟩

instance : Writable LapRecord :=
  ⟨fun lap => concat [put lap.sector1Ms, put lap.sector2Ms, put lap.sector3Ms]⟩

instance (lap : LapRecord) : source.RoundTrips (put lap) take lap := by
  change source.RoundTrips (concat [put lap.sector1Ms, put lap.sector2Ms, put lap.sector3Ms])
    (do return { sector1Ms := ← take, sector2Ms := ← take, sector3Ms := ← take }) lap
  infer_instance

namespace RaceResult

/-- The members in front of the sector times. -/
structure Head where
  member1 : UInt8 := 0
  gainedClassProgress : UInt32 := 0
  member3 : UInt32 := 0
  member4 : UInt32 := 0
  member5 : UInt32 := 0
  member6 : UInt32 := 0
  member7 : UInt32 := 0
  member8 : UInt32 := 0
  member9 : UInt32 := 0
  deriving DecidableEq

/-- The members behind the sector times. -/
structure Tail where
  member11 : UInt8 := 0
  member12 : UInt32 := 0
  member13 : UInt16 := 0
  member14 : UInt8 := 0
  deriving DecidableEq

end RaceResult

open RaceResult

structure AcCmdCRRaceResult extends Head, Tail where
  lapRecords : List LapRecord := []
  deriving DecidableEq

namespace AcCmdCRRaceResult

def sectorsPerLap : Nat := 3

/-- `Read`.  What it asserts is that the count is at most 32, as the client sends it. -/
def read : Reader AcCmdCRRaceResult := do
  let head : Head := {
    member1 := ← take
    gainedClassProgress := ← take
    member3 := ← take
    member4 := ← take
    member5 := ← take
    member6 := ← take
    member7 := ← take
    member8 := ← take
    member9 := ← take }
  let size : UInt8 ← take
  let lapRecords ← many take (size.toNat / sectorsPerLap)
  let tail : Tail := {
    member11 := ← take
    member12 := ← take
    member13 := ← take
    member14 := ← take }
  return { head, tail with lapRecords := lapRecords.1 }

end AcCmdCRRaceResult

/-! ## Numbers -/

theorem writeNumber_ofBytes {width : Nat} {bytes : List Byte} (h : bytes.length = width) :
    writeNumber width (ofBytes bytes) = some bytes := by
  subst h
  exact congrArg some (toBytes_ofBytes bytes)

theorem exists_put_uint8 {bytes : List Byte} (h : bytes.length = 1) :
    ∃ n : UInt8, put n = some bytes := by
  have hlt := ofBytes_lt bytes
  rw [h] at hlt
  exact ⟨.ofNat _, by rw [← writeNumber_ofBytes h, ← UInt8.toNat_ofNat_of_lt' hlt]; rfl⟩

theorem exists_put_uint16 {bytes : List Byte} (h : bytes.length = 2) :
    ∃ n : UInt16, put n = some bytes := by
  have hlt := ofBytes_lt bytes
  rw [h] at hlt
  exact ⟨.ofNat _, by rw [← writeNumber_ofBytes h, ← UInt16.toNat_ofNat_of_lt' hlt]; rfl⟩

theorem exists_put_uint32 {bytes : List Byte} (h : bytes.length = 4) :
    ∃ n : UInt32, put n = some bytes := by
  have hlt := ofBytes_lt bytes
  rw [h] at hlt
  exact ⟨.ofNat _, by rw [← writeNumber_ofBytes h, ← UInt32.toNat_ofNat_of_lt' hlt]; rfl⟩

namespace RaceResult

/-! ## What `Read` takes -/

/-- The parts in front of the sector times. -/
def Head.parts (head : Head) (size : UInt8) : List Written :=
  [put head.member1, put head.gainedClassProgress, put head.member3, put head.member4,
    put head.member5, put head.member6, put head.member7, put head.member8,
    put head.member9, put size]

/-- The parts behind the sector times. -/
def Tail.parts (tail : Tail) : List Written :=
  [put tail.member11, put tail.member12, put tail.member13, put tail.member14]

/-- `Read` is in step with laps of which there are as many as the count has. -/
theorem roundTrips_read (head : Head) {size : UInt8} {laps : List LapRecord} (tail : Tail)
    (h : laps.length = size.toNat / AcCmdCRRaceResult.sectorsPerLap) :
    source.RoundTrips (concat (head.parts size ++ concat (laps.map put) :: tail.parts))
      AcCmdCRRaceResult.read { head, tail with lapRecords := laps } := by
  have hlaps : source.RoundTrips (concat (laps.map put))
      (many take (size.toNat / AcCmdCRRaceResult.sectorsPerLap)) ⟨laps, h⟩ := .many ⟨laps, h⟩
  unfold Head.parts Tail.parts AcCmdCRRaceResult.read
  simp only [List.cons_append, List.nil_append]
  infer_instance

/-! ## What the client writes -/

/-- A well-formed payload of the client. -/
structure Payload where
  head : Head := {}
  sectors : List UInt32 := []
  tail : Tail := {}
  length_le : sectors.length ≤ 32

/-- The count of the sector times in the payload. -/
def Payload.size (payload : Payload) : UInt8 := .ofNat payload.sectors.length

def Payload.bytes (payload : Payload) : Written :=
  concat (payload.head.parts payload.size ++ concat (payload.sectors.map put) :: payload.tail.parts)

/-- The whole laps of some sector times. -/
def laps : List UInt32 → List LapRecord
  | first :: second :: third :: rest => ⟨first, second, third⟩ :: laps rest
  | _ => []

def word (time : UInt32) : List Byte := LittleEndian.toBytes 4 time.toNat

/-- Less than three sector times are no lap. -/
theorem div_three_of_short {sectors : List UInt32}
    (h : ∀ first second third rest, sectors = first :: second :: third :: rest → False) :
    sectors.length / 3 = 0 := by
  match sectors with
  | [] => rfl
  | [first] => exact Nat.div_eq_of_lt (by simp)
  | [first, second] => exact Nat.div_eq_of_lt (by simp)
  | first :: second :: third :: rest => exact (h first second third rest rfl).elim

theorem length_laps (sectors : List UInt32) : (laps sectors).length = sectors.length / 3 := by
  fun_induction laps sectors with
  | case1 first second third rest ih =>
    simp only [List.length_cons, ih]
    omega
  | case2 sectors hshort =>
    rw [div_three_of_short hshort, List.length_nil]

theorem concat_laps (sectors : List UInt32) : concat ((laps sectors).map put) =
    some ((sectors.take (3 * (sectors.length / 3))).flatMap word) := by
  fun_induction laps sectors with
  | case1 first second third rest ih =>
    have hcount : 3 * ((first :: second :: third :: rest).length / 3) =
        3 * (rest.length / 3) + 1 + 1 + 1 := by
      simp only [List.length_cons]
      omega
    have hlap : put (LapRecord.mk first second third) =
        some (word first ++ (word second ++ (word third ++ []))) := rfl
    rw [hcount, List.map_cons, concat, ih, hlap]
    simp only [List.take_succ_cons, List.flatMap_cons, List.append_nil]
    rfl
  | case2 sectors hshort =>
    rw [div_three_of_short hshort]
    rfl

theorem Payload.size_toNat (payload : Payload) : payload.size.toNat = payload.sectors.length :=
  UInt8.toNat_ofNat_of_lt' (Nat.lt_of_le_of_lt payload.length_le (by decide))

theorem length_words (sectors : List UInt32) :
    (sectors.flatMap word).length = 4 * sectors.length := by
  induction sectors with
  | nil => rfl
  | cons first rest ih =>
    rw [List.flatMap_cons, List.length_append, ih, word, toBytes_length,
      List.length_cons]
    omega

/-- Any bytes of the right number are members behind the sector times. -/
theorem exists_tail {bytes : List Byte} (h : bytes.length = 8) :
    ∃ tail : Tail, concat tail.parts = some bytes := by
  obtain ⟨member11, h11⟩ := @exists_put_uint8 (bytes.take 1) (by simp [h])
  obtain ⟨member12, h12⟩ := @exists_put_uint32 ((bytes.drop 1).take 4) (by simp [h])
  obtain ⟨member13, h13⟩ := @exists_put_uint16 ((bytes.drop 5).take 2) (by simp [h])
  obtain ⟨member14, h14⟩ := @exists_put_uint8 (bytes.drop 7) (by simp [h])
  refine ⟨⟨member11, member12, member13, member14⟩, ?_⟩
  have hbytes : bytes.take 1 ++ ((bytes.drop 1).take 4 ++
      ((bytes.drop 5).take 2 ++ (bytes.drop 7 ++ []))) = bytes := by
    match bytes, h with
    | [_, _, _, _, _, _, _, _], _ => rfl
  rw [Tail.parts, h11, h12, h13, h14]
  exact congrArg some hbytes

theorem exists_parts (head : Head) (size : UInt8) : ∃ front : List Byte, ∀ middle back tail,
    concat (Tail.parts tail) = some back →
      concat (head.parts size ++ some middle :: tail.parts) = some (front ++ (middle ++ back)) := by
  obtain ⟨front, hfront⟩ : ∃ front, concat (head.parts size) = some front := ⟨_, rfl⟩
  refine ⟨front, fun middle back tail hback => ?_⟩
  have hrest : concat (some middle :: tail.parts) = some (middle ++ back) :=
    concat_cons_eq_some.2 ⟨middle, back, rfl, hback, rfl⟩
  rw [concat_append, hfront, hrest]
  rfl

/-! ## In step with the client -/

theorem length_laps_size (payload : Payload) :
    (laps payload.sectors).length = payload.size.toNat / AcCmdCRRaceResult.sectorsPerLap := by
  rw [payload.size_toNat]
  exact length_laps payload.sectors

/-- `Read` leaves as many bytes as the incomplete lap has: it takes the bytes of this lap, and then
of the members behind it, for these members. -/
theorem read_leaves (payload : Payload) {stream : SourceStream}
    (hstream : some (source.rest stream) = payload.bytes) : ∃ command after,
      AcCmdCRRaceResult.read stream = .ok command after ∧
        (source.rest after).length = 4 * (payload.sectors.length % 3) := by
  obtain ⟨front, hfront⟩ := exists_parts payload.head payload.size
  obtain ⟨back, hback⟩ : ∃ back, concat payload.tail.parts = some back := ⟨_, rfl⟩
  have hlength : back.length = 8 := (Option.some.inj (congrArg (Option.map List.length) hback)).symm
  have hsectors : concat (payload.sectors.map put) = some (payload.sectors.flatMap word) :=
    concat_map_some word payload.sectors
  have hsplit := List.take_append_drop (3 * (payload.sectors.length / 3)) payload.sectors
  have hmore := @List.length_drop _ (3 * (payload.sectors.length / 3)) payload.sectors
  have hlaps := concat_laps payload.sectors
  generalize payload.sectors.take (3 * (payload.sectors.length / 3)) = whole at hsplit hlaps
  generalize payload.sectors.drop (3 * (payload.sectors.length / 3)) = more at hsplit hmore
  have hleft : (more.flatMap word ++ back).length = 4 * more.length + 8 := by
    rw [List.length_append, length_words, hlength]
  generalize hbehind : more.flatMap word ++ back = behind at hleft
  have hrest : source.rest stream = front ++ (whole.flatMap word ++ behind) := by
    rw [Payload.bytes, hsectors, hfront _ _ _ hback] at hstream
    rw [Option.some.inj hstream, ← hsplit, List.flatMap_append, List.append_assoc, hbehind]
  obtain ⟨tail, htail⟩ := @exists_tail (behind.take 8) (by rw [List.length_take, hleft]; omega)
  have hread := (roundTrips_read payload.head tail (length_laps_size payload)).decodes
    (front ++ (whole.flatMap word ++ behind.take 8)) (by rw [hlaps]; exact hfront _ _ _ htail)
    stream (behind.drop 8) (by rw [hrest]; simp only [List.append_assoc, List.take_append_drop])
  refine ⟨_, _, hread, ?_⟩
  rw [source.rest_advance, hrest]
  simp only [List.length_drop, List.length_append, List.length_take, hleft, hmore]
  omega

/-- `Read` returns what the client wrote, with the whole laps of its sector times, and leaves
nothing. -/
def InStep (payload : Payload) : Prop :=
  ∀ stream, some (source.rest stream) = payload.bytes → ∃ command after,
    AcCmdCRRaceResult.read stream = .ok command after ∧ command.toHead = payload.head ∧
      command.lapRecords = laps payload.sectors ∧ command.toTail = payload.tail ∧
      source.rest after = []

/-- `Read` is in step with the client exactly if the count is one of whole laps. -/
theorem in_step_iff (payload : Payload) : InStep payload ↔ 3 ∣ payload.sectors.length := by
  have hsectors : concat (payload.sectors.map put) = some (payload.sectors.flatMap word) :=
    concat_map_some word payload.sectors
  constructor
  · intro h
    obtain ⟨front, hfront⟩ := exists_parts payload.head payload.size
    obtain ⟨back, hback⟩ : ∃ back, concat payload.tail.parts = some back := ⟨_, rfl⟩
    have hstream : some (source.rest ⟨front ++ (payload.sectors.flatMap word ++ back), 0⟩) =
        payload.bytes := by
      rw [Payload.bytes, hsectors, hfront _ _ _ hback]
      rfl
    obtain ⟨_, _, hread, -, -, -, hnothing⟩ := h _ hstream
    obtain ⟨_, _, hagain, hleaves⟩ := read_leaves payload hstream
    cases hread.symm.trans hagain
    rw [hnothing, List.length_nil] at hleaves
    omega
  · intro hwhole stream hstream
    have hall : payload.sectors.take (3 * (payload.sectors.length / 3)) = payload.sectors :=
      List.take_of_length_le (Nat.mul_div_cancel' hwhole).ge
    have hlaps := concat_laps payload.sectors
    rw [hall, ← hsectors] at hlaps
    rw [Payload.bytes, ← hlaps] at hstream
    have hread := (roundTrips_read payload.head payload.tail (length_laps_size payload)).decodes _
      hstream.symm stream [] (List.append_nil _).symm
    exact ⟨_, _, hread, rfl, rfl, rfl, (source.rest_advance ..).trans (List.drop_length ..)⟩

/-- A racer who has passed the first sector only. -/
def firstSector : Payload := ⟨{}, [30000], { member12 := 7 }, by decide⟩

theorem first_sector_shifts : ¬InStep firstSector := by
  intro h
  obtain ⟨_, _, hread, -, -, htail, -⟩ := h ⟨firstSector.bytes.getD [], 0⟩ rfl
  cases hread
  cases congrArg Tail.member12 htail

end RaceResult

end Alicia.Protocol
