import Alicia.Collection.Rotation
import Alicia.Data.Definitions
import Alicia.Data.Reading
import Alicia.Text.Regex
import Alicia.Transition.Eventually

/-!
# The start of the breeding market

`Initialize` goes round the list of the stallion files, looks up the records of a stallion, of its
horse and of its owner, and takes the stallion off the list when it gets all three.  The ticks of the
data director come between any two of its lookups.

A record that cannot be retrieved is asked for once and never reported as lost, so its stallion stays
on the list.
-/

namespace Alicia.Breeding

open Data Transition Cursor List
open Filter (Eventually atTop)

/-! ## The stallion files -/

/-- An entry of the directory of the stallion files. -/
structure DirectoryEntry where
  isRegularFile : Bool := true
  stem : Text
  extension : Text

/-- `isspace` in the default locale. -/
def isSpace (b : UInt8) : Bool := b = 32 || 9 ≤ b && b ≤ 13

/-- `std::stoul`, which throws if there is no number or too large a one.  A minus sign negates the
number as an unsigned one. -/
def stoul (text : Text) : Option Nat :=
  let text := text.dropWhile isSpace
  let negative := text.head? = some 45
  let digits := (if negative ∨ text.head? = some 43 then text.tail else text).takeWhile Regex.isDigit
  let value := digits.foldl (fun value b => 10 * value + (b.toNat - 48)) 0
  if digits = [] ∨ 2 ^ 64 ≤ value then none
  else some (if negative then (2 ^ 64 - value) % 2 ^ 64 else value)

/-- `.json` -/
def jsonExtension : Text := [46, 106, 115, 111, 110]

/-- `FileDataSource::ListRegisteredStallions`.  There may be no such directory. -/
def listRegisteredStallions (directory : Option (List DirectoryEntry)) : List Uid :=
  (directory.getD []).filterMap fun entry =>
    if entry.isRegularFile ∧ entry.extension = jsonExtension then
      (stoul entry.stem).map UInt32.ofNat
    else none

/-! ## The loop -/

/-- What the loop does next. -/
inductive StartupPhase where
  /-- Look up the stallion at the iterator, if there is one. -/
  | stallion
  /-- Look up the horse of the stallion. -/
  | horse (stallionUid horseUid ownerUid : Uid)
  /-- Look up the owner. -/
  | owner (stallionUid horseUid ownerUid : Uid) (found : Bool)
  | returned
  deriving DecidableEq

/-- The market during `Initialize`, with the storages of the records that it needs. -/
structure Startup where
  stallions : Data.World Uid Stallion
  horses : Data.World Uid Horse
  characters : Data.World Uid Character
  stallionUids : Cursor Uid
  registrations : List (Uid × Uid) := []
  phase : StartupPhase := .stallion

/-- `_horseRegistrations.try_emplace`, which leaves an existing entry alone. -/
def tryEmplace (horseUid stallionUid : Uid) (registrations : List (Uid × Uid)) : List (Uid × Uid) :=
  if horseUid ∈ registrations.map Prod.fst then registrations
  else registrations ++ [(horseUid, stallionUid)]

namespace Startup

/-- The part of the loop up to the next lookup. -/
def advance (startup : Startup) : Startup :=
  match startup.phase with
  | .stallion =>
    let uids := startup.stallionUids.rewind
    match uids.current? with
    | none => { startup with phase := .returned }
    | some stallionUid =>
      let stallions := DataStorage.get stallionUid true startup.stallions
      match stallions.record? stallionUid with
      | none => { startup with stallions := stallions, stallionUids := uids.next }
      | some stallion =>
        { startup with
          stallions := stallions
          stallionUids := uids
          phase := .horse stallionUid stallion.horseUid stallion.ownerUid }
  | .horse stallionUid horseUid ownerUid =>
    let horses := DataStorage.get horseUid true startup.horses
    { startup with
      horses := horses
      phase := .owner stallionUid horseUid ownerUid (horses.record? horseUid).isSome }
  | .owner stallionUid horseUid ownerUid found =>
    let characters := DataStorage.get ownerUid true startup.characters
    if found && (characters.record? ownerUid).isSome then
      { startup with
        characters := characters
        stallionUids := startup.stallionUids.erase
        registrations := tryEmplace horseUid stallionUid startup.registrations
        phase := .stallion }
    else
      { startup with
        characters := characters
        stallionUids := startup.stallionUids.next
        phase := .stallion }
  | .returned => startup

end Startup

/-- The data sources of the three storages. -/
structure StartupSources where
  stallions : Data.Source Uid Stallion
  horses : Data.Source Uid Horse
  characters : Data.Source Uid Character

/-- A step of the loop, or a tick of one of the storages. -/
inductive StartupInput where
  | advance
  | tickStallions (now : Nat) (leaves : Uid → Stallion → Stallion)
  | tickHorses (now : Nat) (leaves : Uid → Horse → Horse)
  | tickCharacters (now : Nat) (leaves : Uid → Character → Character)

def startupStep (sources : StartupSources) (startup : Startup) : StartupInput → Startup
  | .advance => startup.advance
  | .tickStallions now leaves =>
    { startup with
      stallions := DataStorage.tick (sources.stallions.listeners now leaves) startup.stallions }
  | .tickHorses now leaves =>
    { startup with
      horses := DataStorage.tick (sources.horses.listeners now leaves) startup.horses }
  | .tickCharacters now leaves =>
    { startup with
      characters := DataStorage.tick (sources.characters.listeners now leaves) startup.characters }

/-- The market when `Initialize` is called. -/
def Startup.opened (sources : StartupSources) (listed : List Uid) : Startup where
  stallions := start sources.stallions.records
  horses := start sources.horses.records
  characters := start sources.characters.records
  stallionUids := { ahead := listed }

/-- The market after the first inputs of a schedule. -/
def Startup.after (sources : StartupSources) (listed : List Uid) (schedule : Nat → StartupInput) :
    Nat → Startup
  | 0 => .opened sources listed
  | n + 1 => startupStep sources (after sources listed schedule n) (schedule n)

/-- The loop goes on and every storage is ticked, again and again. -/
structure FairSchedule (schedule : Nat → StartupInput) : Prop where
  advance : ∀ n, ∃ m, n ≤ m ∧ schedule m = .advance
  stallions : ∀ n, ∃ m, n ≤ m ∧ ∃ now leaves, schedule m = .tickStallions now leaves
  horses : ∀ n, ∃ m, n ≤ m ∧ ∃ now leaves, schedule m = .tickHorses now leaves
  characters : ∀ n, ∃ m, n ≤ m ∧ ∃ now leaves, schedule m = .tickCharacters now leaves

/-! ## What the market should hold -/

variable {sources : StartupSources} {listed : List Uid} {schedule : Nat → StartupInput}
variable {startup : Startup} {uid : Uid} {stallion : Stallion}

/-- The records of the horse and of the owner of a stallion can be retrieved. -/
def Backed (sources : StartupSources) (stallion : Stallion) : Prop :=
  (sources.horses.read stallion.horseUid).isSome = true ∧
    (sources.characters.read stallion.ownerUid).isSome = true

/-- The record of a stallion, of its horse and of its owner can be retrieved. -/
def Retrievable (sources : StartupSources) (uid : Uid) : Prop :=
  ∃ stallion, sources.stallions.read uid = some stallion ∧ Backed sources stallion

/-- The registrations are those of the listed stallions that can be retrieved, and there is one for
each of their horses. -/
structure Registers (sources : StartupSources) (listed : List Uid)
    (registrations : List (Uid × Uid)) : Prop where
  nodup : (registrations.map Prod.fst).Nodup
  sound : ∀ entry ∈ registrations, entry.2 ∈ listed ∧ ∃ stallion,
    sources.stallions.read entry.2 = some stallion ∧ Backed sources stallion ∧
      stallion.horseUid = entry.1
  complete : ∀ uid ∈ listed, ∀ stallion, sources.stallions.read uid = some stallion →
    Backed sources stallion → stallion.horseUid ∈ registrations.map Prod.fst

/-! ## The invariant -/

variable {horseUid stallionUid : Uid}

theorem mem_tryEmplace {registrations : List (Uid × Uid)} {entry : Uid × Uid}
    (h : entry ∈ tryEmplace horseUid stallionUid registrations) :
    entry ∈ registrations ∨ entry = (horseUid, stallionUid) := by
  unfold tryEmplace at h
  split at h
  · exact .inl h
  · simpa using h

theorem keys_tryEmplace (horseUid stallionUid : Uid) (registrations : List (Uid × Uid)) {key : Uid} :
    key ∈ (tryEmplace horseUid stallionUid registrations).map Prod.fst ↔
      key ∈ registrations.map Prod.fst ∨ key = horseUid := by
  unfold tryEmplace
  split
  · next hmem => exact ⟨.inl, fun h => h.elim id fun heq => heq ▸ hmem⟩
  · simp

theorem nodup_tryEmplace {registrations : List (Uid × Uid)} (h : (registrations.map Prod.fst).Nodup)
    :
    ((tryEmplace horseUid stallionUid registrations).map Prod.fst).Nodup := by
  unfold tryEmplace
  split
  · exact h
  · next hnot =>
      rw [map_append, nodup_append]
      refine ⟨h, nodup_singleton horseUid, fun key hkey other hother heq => hnot ?_⟩
      rw [map_singleton, mem_singleton] at hother
      have hsame : key = horseUid := heq.trans hother
      exact hsame ▸ hkey

/-- The stallion at the iterator has this horse and this owner. -/
structure Visiting (sources : StartupSources) (uids : Cursor Uid)
    (stallionUid horseUid ownerUid : Uid) : Prop where
  current : uids.current? = some stallionUid
  read : ∃ stallion, sources.stallions.read stallionUid = some stallion ∧
    stallion.horseUid = horseUid ∧ stallion.ownerUid = ownerUid

/-- What the loop knows where it is. -/
def Placed (sources : StartupSources) (uids : Cursor Uid) : StartupPhase → Prop
  | .stallion => True
  | .horse stallionUid horseUid ownerUid => Visiting sources uids stallionUid horseUid ownerUid
  | .owner stallionUid horseUid ownerUid found =>
    Visiting sources uids stallionUid horseUid ownerUid ∧
      (found = true → (sources.horses.read horseUid).isSome = true)
  | .returned => uids.toList = []

/-- The invariant: a listed stallion is still on the list, or it can be retrieved and its horse is
registered. -/
structure StartupSound (sources : StartupSources) (listed : List Uid) (startup : Startup) : Prop where
  stallions : Reading sources.stallions startup.stallions
  horses : Reading sources.horses startup.horses
  characters : Reading sources.characters startup.characters
  placed : Placed sources startup.stallionUids startup.phase
  remaining : ∀ uid ∈ startup.stallionUids.toList, uid ∈ listed
  settled : ∀ uid ∈ listed, uid ∈ startup.stallionUids.toList ∨ ∃ stallion,
    sources.stallions.read uid = some stallion ∧ Backed sources stallion ∧
      stallion.horseUid ∈ startup.registrations.map Prod.fst
  nodup : (startup.registrations.map Prod.fst).Nodup
  sound : ∀ entry ∈ startup.registrations, entry.2 ∈ listed ∧ ∃ stallion,
    sources.stallions.read entry.2 = some stallion ∧ Backed sources stallion ∧
      stallion.horseUid = entry.1

theorem sound_opened (sources : StartupSources) (listed : List Uid) :
    StartupSound sources listed (.opened sources listed) where
  stallions := .start _
  horses := .start _
  characters := .start _
  placed := trivial
  remaining _ h := h
  settled _ h := .inl h
  nodup := nodup_nil
  sound := nofun

/-- A record that is available can be retrieved. -/
theorem read_isSome {K V : Type} [Ord K] [Std.TransOrd K] [DecidableEq K] [Inhabited V]
    {source : Data.Source K V} {world : Data.World K V} {key : K} (h : Reading source world)
    (hrecord : (world.record? key).isSome = true) : (source.read key).isSome = true := by
  obtain ⟨value, hvalue⟩ := Option.isSome_iff_exists.1 hrecord
  rw [h.read_eq hvalue]
  rfl

theorem StartupSound.advance_stallion (h : StartupSound sources listed startup) (hphase : startup.phase = .stallion) :
    StartupSound sources listed startup.advance := by
  unfold Startup.advance
  rw [hphase]
  dsimp only
  cases hcurrent : startup.stallionUids.rewind.current? with
  | none =>
    exact { h with placed := current?_rewind.1 hcurrent }
  | some stallionUid =>
    dsimp only
    cases hrecord : (DataStorage.get stallionUid true startup.stallions).record? stallionUid with
    | none =>
      refine { h with stallions := h.stallions.get _, placed := trivial, remaining := ?_, settled := ?_ }
      · simpa using h.remaining
      · simpa using h.settled
    | some stallion =>
      have hread := (h.stallions.get stallionUid).read_eq hrecord
      refine { h with
        stallions := h.stallions.get _
        placed := ⟨hcurrent, stallion, hread, rfl, rfl⟩
        remaining := ?_
        settled := ?_ }
      · simpa using h.remaining
      · simpa using h.settled

variable {ownerUid : Uid}

theorem StartupSound.advance_horse (h : StartupSound sources listed startup)
    (hphase : startup.phase = .horse stallionUid horseUid ownerUid) :
    StartupSound sources listed startup.advance := by
  have hplaced := h.placed
  rw [hphase] at hplaced
  unfold Startup.advance
  rw [hphase]
  exact { h with
    horses := h.horses.get _
    placed := ⟨hplaced, read_isSome (h.horses.get _)⟩ }

theorem StartupSound.advance_owner (h : StartupSound sources listed startup) {found : Bool}
    (hphase : startup.phase = .owner stallionUid horseUid ownerUid found) :
    StartupSound sources listed startup.advance := by
  have hplaced := h.placed
  rw [hphase] at hplaced
  obtain ⟨⟨hcurrent, stallion, hread, rfl, rfl⟩, hfound⟩ := hplaced
  unfold Startup.advance
  rw [hphase]
  dsimp only
  split
  · next hboth =>
      rw [Bool.and_eq_true] at hboth
      have hbacked : Backed sources stallion :=
        ⟨hfound hboth.1, read_isSome (h.characters.get _) hboth.2⟩
      refine {
        stallions := h.stallions
        horses := h.horses
        characters := h.characters.get _
        placed := trivial
        remaining := fun uid hmem => h.remaining uid (erase_subset hmem)
        settled := fun uid hlisted => ?_
        nodup := nodup_tryEmplace h.nodup
        sound := fun entry hentry => ?_ }
      · have hregistered : stallion.horseUid ∈
            (tryEmplace stallion.horseUid stallionUid startup.registrations).map Prod.fst :=
          (keys_tryEmplace ..).2 (.inr rfl)
        obtain hmem | ⟨other, hother, hother', hkey⟩ := h.settled uid hlisted
        · obtain rfl | hmem := mem_of_erase hcurrent hmem
          · exact .inr ⟨stallion, hread, hbacked, hregistered⟩
          · exact .inl hmem
        · exact .inr ⟨other, hother, hother', (keys_tryEmplace ..).2 (.inl hkey)⟩
      · obtain hentry | rfl := mem_tryEmplace hentry
        · exact h.sound entry hentry
        · exact ⟨h.remaining _ (mem_of_current hcurrent), stallion, hread, hbacked, rfl⟩
  · refine { h with
      characters := h.characters.get _
      placed := trivial
      remaining := ?_
      settled := ?_ }
    · simpa using h.remaining
    · simpa using h.settled

theorem StartupSound.step (h : StartupSound sources listed startup) (input : StartupInput) :
    StartupSound sources listed (startupStep sources startup input) := by
  cases input with
  | tickStallions now leaves => exact { h with stallions := h.stallions.tick now leaves }
  | tickHorses now leaves => exact { h with horses := h.horses.tick now leaves }
  | tickCharacters now leaves => exact { h with characters := h.characters.tick now leaves }
  | advance =>
    show StartupSound sources listed startup.advance
    cases hphase : startup.phase with
    | stallion => exact h.advance_stallion hphase
    | owner stallionUid horseUid ownerUid found => exact h.advance_owner hphase
    | horse stallionUid horseUid ownerUid => exact h.advance_horse hphase
    | returned =>
      rw [Startup.advance, hphase]
      exact h

/-! ## The loop goes on -/

/-- The states of a market that is started under a fair schedule. -/
structure StartupRun (sources : StartupSources) (listed : List Uid)
    (schedule : Nat → StartupInput) (run : Nat → Startup) : Prop where
  fair : FairSchedule schedule
  opened : run 0 = .opened sources listed
  sound : ∀ n, StartupSound sources listed (run n)
  step : ∀ n, run (n + 1) = startupStep sources (run n) (schedule n)

theorem startupRun (fair : FairSchedule schedule) :
    StartupRun sources listed schedule (.after sources listed schedule) where
  fair := fair
  opened := rfl
  step _ := rfl
  sound n := by
    induction n with
    | zero => exact sound_opened sources listed
    | succ n ih => exact ih.step (schedule n)

theorem stallions_step (input : StartupInput) : ReadStep sources.stallions startup.stallions
    (startupStep sources startup input).stallions := by
  cases input with
  | tickStallions now leaves => exact .tick now leaves
  | tickHorses now leaves => exact .same
  | tickCharacters now leaves => exact .same
  | advance =>
    show ReadStep _ _ startup.advance.stallions
    unfold Startup.advance
    split
    · dsimp only
      split
      · exact .same
      · next stallionUid hcurrent =>
          split
          · exact .get stallionUid
          · exact .get stallionUid
    · exact .same
    · dsimp only
      split
      · exact .same
      · exact .same
    · exact .same

theorem horses_step (input : StartupInput) : ReadStep sources.horses startup.horses
    (startupStep sources startup input).horses := by
  cases input with
  | tickStallions now leaves => exact .same
  | tickHorses now leaves => exact .tick now leaves
  | tickCharacters now leaves => exact .same
  | advance =>
    show ReadStep _ _ startup.advance.horses
    unfold Startup.advance
    split
    · dsimp only
      split
      · exact .same
      · split
        · exact .same
        · exact .same
    · next stallionUid horseUid ownerUid hphase => exact .get horseUid
    · dsimp only
      split
      · exact .same
      · exact .same
    · exact .same

theorem characters_step (input : StartupInput) : ReadStep sources.characters startup.characters
    (startupStep sources startup input).characters := by
  cases input with
  | tickStallions now leaves => exact .same
  | tickHorses now leaves => exact .same
  | tickCharacters now leaves => exact .tick now leaves
  | advance =>
    show ReadStep _ _ startup.advance.characters
    unfold Startup.advance
    split
    · dsimp only
      split
      · exact .same
      · split
        · exact .same
        · exact .same
    · exact .same
    · next stallionUid horseUid ownerUid found hphase =>
        dsimp only
        split
        · exact .get ownerUid
        · exact .get ownerUid
    · exact .same

theorem advance_of_horse (hphase : startup.phase = .horse stallionUid horseUid ownerUid) :
    startup.advance.stallionUids = startup.stallionUids ∧
      startup.advance.phase = .owner stallionUid horseUid ownerUid
        (startup.horses.record? horseUid).isSome ∧ startup.advance.horses.Asked horseUid := by
  rw [Startup.advance, hphase]
  dsimp only
  exact ⟨rfl, by rw [record?_get], asked_get _ _⟩

theorem advance_of_owner {found : Bool}
    (hphase : startup.phase = .owner stallionUid horseUid ownerUid found) :
    startup.advance.phase = .stallion ∧ startup.advance.characters.Asked ownerUid ∧
      startup.advance.stallionUids =
        if found && (startup.characters.record? ownerUid).isSome then startup.stallionUids.erase
        else startup.stallionUids.next := by
  rw [Startup.advance, hphase]
  dsimp only
  rw [record?_get]
  split
  · exact ⟨rfl, asked_get _ _, rfl⟩
  · exact ⟨rfl, asked_get _ _, rfl⟩

/-- The lookup of the stallion at the iterator. -/
theorem advance_of_stallion (hphase : startup.phase = .stallion)
    (hcurrent : startup.stallionUids.rewind.current? = some uid) :
    startup.advance.stallions.Asked uid ∧
      match startup.stallions.record? uid with
      | none => startup.advance.phase = .stallion ∧
          startup.advance.stallionUids = startup.stallionUids.rewind.next
      | some stallion => startup.advance.phase = .horse uid stallion.horseUid stallion.ownerUid ∧
          startup.advance.stallionUids = startup.stallionUids.rewind := by
  rw [Startup.advance, hphase]
  dsimp only
  rw [hcurrent]
  dsimp only
  rw [record?_get]
  cases startup.stallions.record? uid with
  | none => exact ⟨asked_get _ _, rfl, rfl⟩
  | some stallion => exact ⟨asked_get _ _, rfl, rfl⟩

theorem loop_of_tick {input : StartupInput} (h : input ≠ .advance) :
    (startupStep sources startup input).stallionUids = startup.stallionUids ∧
      (startupStep sources startup input).phase = startup.phase := by
  cases input with
  | advance => exact absurd rfl h
  | tickStallions now leaves => exact ⟨rfl, rfl⟩
  | tickHorses now leaves => exact ⟨rfl, rfl⟩
  | tickCharacters now leaves => exact ⟨rfl, rfl⟩

namespace StartupRun

variable {run : Nat → Startup} (h : StartupRun sources listed schedule run) {n : Nat}

include h

theorem stallions : ReadRun sources.stallions fun n => (run n).stallions where
  reading n := (h.sound n).stallions
  step n := h.step n ▸ stallions_step (schedule n)
  ticked n := by
    obtain ⟨m, hm, now, leaves, hinput⟩ := h.fair.stallions n
    refine ⟨m, hm, now, leaves, ?_⟩
    rw [h.step, hinput]
    rfl

theorem horses : ReadRun sources.horses fun n => (run n).horses where
  reading n := (h.sound n).horses
  step n := h.step n ▸ horses_step (schedule n)
  ticked n := by
    obtain ⟨m, hm, now, leaves, hinput⟩ := h.fair.horses n
    refine ⟨m, hm, now, leaves, ?_⟩
    rw [h.step, hinput]
    rfl

theorem characters : ReadRun sources.characters fun n => (run n).characters where
  reading n := (h.sound n).characters
  step n := h.step n ▸ characters_step (schedule n)
  ticked n := by
    obtain ⟨m, hm, now, leaves, hinput⟩ := h.fair.characters n
    refine ⟨m, hm, now, leaves, ?_⟩
    rw [h.step, hinput]
    rfl

/-- The loop advances again, from where it is. -/
theorem exists_advance (n : Nat) : ∃ m, n ≤ m ∧ run (m + 1) = (run m).advance ∧
    (run m).stallionUids = (run n).stallionUids ∧ (run m).phase = (run n).phase := by
  obtain ⟨later, hlater, hadvance⟩ := h.fair.advance n
  obtain ⟨distance, rfl⟩ := Nat.exists_eq_add_of_le hlater
  induction distance generalizing n with
  | zero =>
    have hnow : schedule n = .advance := hadvance
    exact ⟨n, Nat.le_refl n, by rw [h.step, hnow]; rfl, rfl, rfl⟩
  | succ distance ih =>
    by_cases hnow : schedule n = .advance
    · exact ⟨n, Nat.le_refl n, by rw [h.step, hnow]; rfl, rfl, rfl⟩
    · obtain ⟨huids, hphase⟩ := @loop_of_tick sources (run n) _ hnow
      rw [← h.step] at huids hphase
      obtain ⟨m, hm, hnext, hsame, hsame'⟩ := ih (n + 1) (by omega)
        (by rw [← hadvance, Nat.add_right_comm]; rfl)
      exact ⟨m, by omega, hnext, hsame.trans huids, hsame'.trans hphase⟩

omit h in
variable (run) in
/-- At this moment the loop goes on with the lookup of a stallion. -/
structure Looks (m : Nat) : Prop where
  advance : run (m + 1) = (run m).advance
  phase : (run m).phase = .stallion

omit h in
variable (run) in
/-- At this moment the loop looks up a certain stallion. -/
structure Visits (uid : Uid) (m : Nat) : Prop extends Looks run m where
  current : (run m).stallionUids.rewind.current? = some uid

theorem exists_looks (hphase : (run n).phase = .stallion) :
    ∃ m, n ≤ m ∧ Looks run m ∧ (run m).stallionUids = (run n).stallionUids := by
  obtain ⟨m, hm, hadvance, huids, hsame⟩ := h.exists_advance n
  exact ⟨m, hm, ⟨hadvance, hsame.trans hphase⟩, huids⟩

omit h in
variable (run) in
/-- Between the lookup of a stallion and the next one the loop passes the stallion or erases it. -/
structure Round (uid : Uid) (m later : Nat) : Prop where
  lt : m < later
  looks : Looks run later
  cursor : (run later).stallionUids = (run m).stallionUids.rewind.next ∨
    (run later).stallionUids = (run m).stallionUids.rewind.erase
  asked : ∀ stallion, (run m).stallions.record? uid = some stallion →
    (run later).horses.Asked stallion.horseUid ∧ (run later).characters.Asked stallion.ownerUid
  erased : ∀ stallion, (run m).stallions.record? uid = some stallion →
    ((run m).horses.record? stallion.horseUid).isSome = true →
    ((run m).characters.record? stallion.ownerUid).isSome = true →
    (run later).stallionUids = (run m).stallionUids.rewind.erase

theorem exists_round {uid : Uid} {m : Nat} (visits : Visits run uid m) :
    ∃ later, Round run uid m later := by
  obtain ⟨-, hlookup⟩ := advance_of_stallion visits.phase visits.current
  rw [← visits.advance] at hlookup
  cases hrecord : (run m).stallions.record? uid with
  | none =>
    rw [hrecord] at hlookup
    obtain ⟨later, hlater, hlooks, huids⟩ := h.exists_looks hlookup.1
    refine ⟨later, by omega, hlooks, .inl (huids.trans hlookup.2), ?_, ?_⟩
    · intro stallion hsome
      rw [hrecord] at hsome
      cases hsome
    · intro stallion hsome
      rw [hrecord] at hsome
      cases hsome
  | some stallion =>
    rw [hrecord] at hlookup
    obtain ⟨first, hfirst, hhorse, huids, hphase⟩ := h.exists_advance (m + 1)
    obtain ⟨hkeep, hfound, haskedHorse⟩ := advance_of_horse (hphase.trans hlookup.1)
    rw [← hhorse] at hkeep hfound haskedHorse
    obtain ⟨second, hsecond, howner, huids', hphase'⟩ := h.exists_advance (first + 1)
    obtain ⟨hnext, haskedOwner, hcursor⟩ := advance_of_owner (hphase'.trans hfound)
    rw [← howner] at hnext haskedOwner hcursor
    obtain ⟨later, hlater, hlooks, hsame⟩ := h.exists_looks hnext
    have hcurrent : (run second).stallionUids = (run m).stallionUids.rewind :=
      huids'.trans (hkeep.trans (huids.trans hlookup.2))
    rw [hcurrent] at hcursor
    refine ⟨later, by omega, hlooks, ?_, ?_, ?_⟩
    · rw [hsame, hcursor]
      split
      · exact .inr rfl
      · exact .inl rfl
    · intro other hother
      cases hrecord.symm.trans hother
      exact ⟨h.horses.asked_of_le (by omega) haskedHorse,
        h.characters.asked_of_le (by omega) haskedOwner⟩
    · intro other hother hhorseRecord hownerRecord
      cases hrecord.symm.trans hother
      have hhorses := h.horses.available_of_le (by omega : m ≤ first) hhorseRecord
      have hcharacters := h.characters.available_of_le (by omega : m ≤ second) hownerRecord
      rw [hsame, hcursor, hhorses, hcharacters]
      rfl

omit h in
/-- As long as the list is not empty, a lookup visits the stallion at the iterator. -/
theorem Looks.visits {m : Nat} (looks : Looks run m) (hlist : (run m).stallionUids.toList ≠ []) :
    ∃ uid, uid ∈ (run m).stallionUids.toList ∧ Visits run uid m := by
  cases hcurrent : (run m).stallionUids.rewind.current? with
  | none => exact absurd (current?_rewind.1 hcurrent) hlist
  | some uid =>
    have hmem := mem_of_current hcurrent
    rw [toList_rewind] at hmem
    exact ⟨uid, hmem, looks, hcurrent⟩

/-- A stallion that remains on the list is visited: in every round there is one stallion less
before it. -/
theorem exists_visit {uid : Uid} {m : Nat} (looks : Looks run m)
    (hremains : ∀ later, uid ∈ (run later).stallionUids.toList) :
    ∃ later, m ≤ later ∧ Visits run uid later := by
  generalize hrank : Cursor.rank uid (run m).stallionUids = rank
  induction rank using Nat.strong_induction_on generalizing m with
  | _ rank ih =>
    obtain ⟨other, -, visits⟩ := looks.visits (ne_nil_of_mem (hremains m))
    by_cases hother : other = uid
    · exact ⟨m, Nat.le_refl m, hother ▸ visits⟩
    · obtain ⟨later, round⟩ := h.exists_round visits
      have hmem : uid ∈ (run m).stallionUids.rewind.toList := by simpa using hremains m
      have hless : Cursor.rank uid (run later).stallionUids + 1 = rank := by
        rw [← hrank, ← Cursor.rank_rewind uid (run m).stallionUids]
        obtain hnext | herased := round.cursor
        · rw [hnext]
          exact Cursor.rank_next hmem visits.current hother
        · rw [herased]
          exact Cursor.rank_erased visits.current hother
      obtain ⟨visit, hvisit, hvisits⟩ := ih _ (by omega) round.looks rfl
      have hlater := round.lt
      exact ⟨visit, by omega, hvisits⟩

/-- As long as the list is not empty, there is always another lookup. -/
theorem exists_looks_after (hlist : ∀ n, (run n).stallionUids.toList ≠ []) (n : Nat) :
    ∃ m, n ≤ m ∧ Looks run m := by
  induction n with
  | zero =>
    have hphase : (run 0).phase = .stallion := by rw [h.opened]; rfl
    obtain ⟨m, -, looks, -⟩ := h.exists_looks hphase
    exact ⟨m, Nat.zero_le m, looks⟩
  | succ n ih =>
    obtain ⟨m, hm, looks⟩ := ih
    obtain ⟨uid, -, visits⟩ := looks.visits (hlist m)
    obtain ⟨later, round⟩ := h.exists_round visits
    have hlater := round.lt
    exact ⟨later, by omega, round.looks⟩

/-! ## The list becomes empty -/

theorem shrinks (uid : Uid) (n : Nat) (hmem : uid ∈ (run (n + 1)).stallionUids.toList) :
    uid ∈ (run n).stallionUids.toList := by
  rw [h.step] at hmem
  by_cases hinput : schedule n = .advance
  · rw [hinput] at hmem
    change uid ∈ (run n).advance.stallionUids.toList at hmem
    unfold Startup.advance at hmem
    split at hmem
    · dsimp only at hmem
      split at hmem
      · exact hmem
      · split at hmem
        · simpa using hmem
        · simpa using hmem
    · exact hmem
    · dsimp only at hmem
      split at hmem
      · exact erase_subset hmem
      · simpa using hmem
    · exact hmem
  · rwa [(loop_of_tick hinput).1] at hmem

omit h in
variable (run) in
/-- All the records of a stallion are available. -/
def Ready (uid : Uid) (n : Nat) : Prop :=
  ∃ stallion, (run n).stallions.record? uid = some stallion ∧
    ((run n).horses.record? stallion.horseUid).isSome = true ∧
      ((run n).characters.record? stallion.ownerUid).isSome = true

/-- The records of a stallion that remains on the list become available, if they can. -/
theorem eventually_ready {uid : Uid} (hretrievable : Retrievable sources uid)
    (hremains : ∀ n, uid ∈ (run n).stallionUids.toList) : ∀ᶠ n in atTop, Ready run uid n := by
  obtain ⟨stallion, hread, hhorse, howner⟩ := hretrievable
  have hlist : ∀ n, (run n).stallionUids.toList ≠ [] := fun n => ne_nil_of_mem (hremains n)
  -- The first visit asks for the stallion.
  obtain ⟨m, -, looks⟩ := h.exists_looks_after hlist 0
  obtain ⟨first, -, visits⟩ := h.exists_visit looks hremains
  have hasked := (advance_of_stallion visits.phase visits.current).1
  rw [← visits.advance] at hasked
  have hstallion := h.stallions.eventually_available hasked (by rw [hread]; rfl)
  -- A visit after that asks for the horse and the owner.
  obtain ⟨available, havailable⟩ := Filter.eventually_atTop.1 hstallion
  obtain ⟨m, hm, looks⟩ := h.exists_looks_after hlist available
  obtain ⟨second, hsecond, visits⟩ := h.exists_visit looks hremains
  have hrecord : ∀ n, available ≤ n → (run n).stallions.record? uid = some stallion := by
    intro n hn
    obtain ⟨other, hother⟩ := Option.isSome_iff_exists.1 (havailable n hn)
    rw [hother, ← (h.stallions.reading n).read_eq hother, hread]
  obtain ⟨later, round⟩ := h.exists_round visits
  obtain ⟨haskedHorse, haskedOwner⟩ := round.asked stallion (hrecord second (by omega))
  have hhorses := h.horses.eventually_available haskedHorse hhorse
  have hcharacters := h.characters.eventually_available haskedOwner howner
  filter_upwards [hhorses, hcharacters, Filter.eventually_ge_atTop available]
    with n hhorses hcharacters hn
  exact ⟨stallion, hrecord n hn, hhorses, hcharacters⟩

/-- When everything on the list is ready, every round erases a stallion. -/
theorem exists_empty (hretrievable : ∀ uid ∈ listed, Retrievable sources uid) :
    ∃ n, (run n).stallionUids.toList = [] := by
  by_contra hnever
  have hlist : ∀ n, (run n).stallionUids.toList ≠ [] := fun n hn => hnever ⟨n, hn⟩
  have hready : ∀ᶠ n in atTop, ∀ uid ∈ listed,
      uid ∈ (run n).stallionUids.toList → Ready run uid n := by
    refine eventually_forall_mem fun uid huid => ?_
    obtain hremains | hgone :=
      @forall_or_eventually_not (fun n => uid ∈ (run n).stallionUids.toList) (h.shrinks uid)
    · exact (h.eventually_ready (hretrievable uid huid) hremains).mono fun n hn _ => hn
    · exact hgone.mono fun n hn hmem => absurd hmem hn
  obtain ⟨first, hfirst⟩ := Filter.eventually_atTop.1 hready
  have hdrains : ∀ length m, first ≤ m → Looks run m →
      (run m).stallionUids.toList.length = length → False := by
    intro length
    induction length with
    | zero => exact fun m _ _ hlength => hlist m (length_eq_zero_iff.1 hlength)
    | succ length ih =>
      intro m hm looks hlength
      obtain ⟨uid, hmem, visits⟩ := looks.visits (hlist m)
      obtain ⟨stallion, hrecord, hhorse, howner⟩ :=
        hfirst m hm uid ((h.sound m).remaining uid hmem) hmem
      obtain ⟨later, round⟩ := h.exists_round visits
      have hlater := round.lt
      have hshorter := length_erase visits.current
      rw [toList_rewind, ← round.erased stallion hrecord hhorse howner] at hshorter
      exact ih later (by omega) round.looks (by omega)
  obtain ⟨m, hm, looks⟩ := h.exists_looks_after hlist first
  exact hdrains _ m hm looks rfl

theorem exists_returned (hretrievable : ∀ uid ∈ listed, Retrievable sources uid) :
    ∃ n, (run n).phase = .returned := by
  obtain ⟨n, hempty⟩ := h.exists_empty hretrievable
  have hplaced := (h.sound n).placed
  have hnowhere : ∀ uid, (run n).stallionUids.current? ≠ some uid := by
    intro uid hcurrent
    have hmem := mem_of_current hcurrent
    rw [hempty] at hmem
    cases hmem
  cases hphase : (run n).phase with
  | returned => exact ⟨n, hphase⟩
  | horse stallionUid horseUid ownerUid =>
    rw [hphase] at hplaced
    exact absurd hplaced.current (hnowhere stallionUid)
  | owner stallionUid horseUid ownerUid found =>
    rw [hphase] at hplaced
    exact absurd hplaced.1.current (hnowhere stallionUid)
  | stallion =>
    obtain ⟨m, -, looks, huids⟩ := h.exists_looks hphase
    refine ⟨m + 1, ?_⟩
    have hnone : (run m).stallionUids.rewind.current? = none :=
      current?_rewind.2 (by rw [huids, hempty])
    rw [looks.advance, Startup.advance, looks.phase]
    dsimp only
    rw [hnone]

end StartupRun

theorem StartupSound.registers (h : StartupSound sources listed startup) (hphase : startup.phase = .returned) :
    (∀ uid ∈ listed, Retrievable sources uid) ∧
      Registers sources listed startup.registrations := by
  have hempty := h.placed
  rw [hphase] at hempty
  have hsettled : ∀ uid ∈ listed, ∃ stallion, sources.stallions.read uid = some stallion ∧
      Backed sources stallion ∧ stallion.horseUid ∈ startup.registrations.map Prod.fst := by
    intro uid huid
    refine (h.settled uid huid).resolve_left fun hmem => ?_
    rw [show startup.stallionUids.toList = [] from hempty] at hmem
    cases hmem
  refine ⟨fun uid huid => ?_, h.nodup, h.sound, fun uid huid stallion hread _ => ?_⟩
  · obtain ⟨stallion, hread, hbacked, -⟩ := hsettled uid huid
    exact ⟨stallion, hread, hbacked⟩
  · obtain ⟨other, hother, -, hkey⟩ := hsettled uid huid
    cases hread.symm.trans hother
    exact hkey

/-- The market starts under a fair schedule, with the right registrations, exactly if the records of
every stallion with a file can be retrieved. -/
theorem initialize_iff (sources : StartupSources) (directory : Option (List DirectoryEntry))
    (fair : FairSchedule schedule) :
    (∃ n, (Startup.after sources (listRegisteredStallions directory) schedule n).phase = .returned ∧
        Registers sources (listRegisteredStallions directory)
          (Startup.after sources (listRegisteredStallions directory) schedule n).registrations) ↔
      ∀ uid ∈ listRegisteredStallions directory, Retrievable sources uid := by
  have run := @startupRun sources (listRegisteredStallions directory) schedule fair
  constructor
  · rintro ⟨n, hphase, -⟩
    exact ((run.sound n).registers hphase).1
  · intro hretrievable
    obtain ⟨n, hphase⟩ := run.exists_returned hretrievable
    exact ⟨n, hphase, ((run.sound n).registers hphase).2⟩

/-- The loop and the storages take turns. -/
def inTurn (n : Nat) : StartupInput :=
  match n % 4 with
  | 0 => .advance
  | 1 => .tickStallions 0 fun _ => id
  | 2 => .tickHorses 0 fun _ => id
  | _ => .tickCharacters 0 fun _ => id

theorem fair_inTurn : FairSchedule inTurn := by
  have hturn : ∀ n turn, turn < 4 → (4 * n + turn) % 4 = turn := by omega
  refine ⟨fun n => ⟨4 * n, by omega, ?_⟩, fun n => ⟨4 * n + 1, by omega, 0, fun _ => id, ?_⟩,
    fun n => ⟨4 * n + 2, by omega, 0, fun _ => id, ?_⟩,
    fun n => ⟨4 * n + 3, by omega, 0, fun _ => id, ?_⟩⟩
  · simp [inTurn]
  · simp [inTurn, hturn]
  · simp [inTurn, hturn]
  · simp [inTurn, hturn]

/-- The files of one stallion, of its horse and of its owner, some of which can be read. -/
def stable (readable : Bool) : StartupSources where
  stallions := {
    records := fun uid => if uid = 7 then some { uid := 7, horseUid := 10, ownerUid := 1 } else none
    readable := fun _ => readable }
  horses := { records := fun uid => if uid = 10 then some { uid := 10 } else none }
  characters := { records := fun uid => if uid = 1 then some { uid := 1 } else none }

/-- A directory with the file of the stallion: `7.json`. -/
def stallionFile : Option (List DirectoryEntry) := some [{ stem := [55], extension := jsonExtension }]

theorem listed_stallionFile : listRegisteredStallions stallionFile = [7] := rfl

/-- The market of one stallion starts. -/
theorem initialize_stable :
    ∃ n, (Startup.after (stable true) (listRegisteredStallions stallionFile) inTurn n).phase =
        .returned ∧
      Registers (stable true) (listRegisteredStallions stallionFile)
        (Startup.after (stable true) (listRegisteredStallions stallionFile) inTurn n).registrations := by
  refine (initialize_iff (stable true) stallionFile fair_inTurn).2 fun uid huid => ?_
  cases List.mem_singleton.1 (listed_stallionFile ▸ huid)
  exact ⟨_, rfl, rfl, rfl⟩

/-- The market does not start if the file of the stallion is damaged. -/
theorem damaged_stallion : FairSchedule inTurn ∧
    ¬∃ n, (Startup.after (stable false) (listRegisteredStallions stallionFile) inTurn n).phase =
        .returned ∧
      Registers (stable false) (listRegisteredStallions stallionFile)
        (Startup.after (stable false) (listRegisteredStallions stallionFile) inTurn n).registrations := by
  refine ⟨fair_inTurn, ?_⟩
  rintro ⟨n, hphase, -⟩
  have run := @startupRun (stable false) (listRegisteredStallions stallionFile) _ fair_inTurn
  obtain ⟨stallion, hread, -⟩ := ((run.sound n).registers hphase).1 7 (by
    rw [listed_stallionFile]
    exact List.mem_singleton_self 7)
  cases hread

end Alicia.Breeding
