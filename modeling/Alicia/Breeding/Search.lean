import Alicia.Breeding.Market
import Alicia.Collection.Sorting
import Alicia.Protocol.CommonStructures
import Alicia.Registry.Appearance
import Mathlib.Data.Finset.Card
import Mathlib.Data.Int.ConditionallyCompleteOrder
import Mathlib.Order.WithBot

/-!
# The search of the breeding market

A search collects the registrations that match its filter, sorts them, and answers with a page of
eight.  The page number of the client becomes an index that is clamped to the number of pages, which
is one more than the last index.

`SearchLookups` says which records are available during the search.
-/

namespace Alicia.Breeding

open Data Registry UInt32 List Bool
open Collection (Sorter StrictWeak strictWeak_of_key chunk chunkCount)
open Chrono (TimePoint)
open DataDirector (characterStorage horseStorage stallionStorage)

/-- `BreedingMarket::SnapshotOrder`. -/
inductive SnapshotOrder where
  | lineageDescending
  | timeLeftDescending
  | feeDescending
  | pregnancyChanceAscending
  | pregnancyChanceDescending
  | feeAscending
  | timeLeftAscending
  | lineageAscending
  deriving DecidableEq

/-- `SnapshotFilter::Stat`. -/
inductive PreferredStat where
  | none
  | agility
  | ambition
  | rush
  | endurance
  | courage
  deriving DecidableEq

/-- `BreedingMarket::SnapshotFilter`.  The sets are lists here. -/
structure SnapshotFilter where
  grade : UInt8
  coats : List Tid := []
  manes : List Tid := []
  tails : List Tid := []
  firstPreferredStat : PreferredStat := .none
  secondPreferred : PreferredStat := .none

/-- The records that are available during a search. -/
structure SearchLookups where
  stallion : Uid → Bool := fun _ => true
  horse : Uid → Bool := fun _ => true
  owner : Uid → Bool := fun _ => true

/-- The records of a registration, if both are available. -/
def listing (lookups : SearchLookups) (data : DataDirector) (entry : Uid × Uid) :
    Option (Horse × Stallion) :=
  match horseStorage.find (lookups.horse entry.1) entry.1 data,
    stallionStorage.find (lookups.stallion entry.2) entry.2 data with
  | some horse, some stallion => some (horse, stallion)
  | _, _ => none

/-! ## The filter -/

def requiredSharePercentPerStat : UInt32 := 38

def totalStats (stats : Horse.Stats) : UInt32 :=
  stats.agility + stats.courage + stats.rush + stats.endurance + stats.ambition

def statValue (stats : Horse.Stats) : PreferredStat → UInt32
  | .agility => stats.agility
  | .ambition => stats.ambition
  | .rush => stats.rush
  | .endurance => stats.endurance
  | .courage => stats.courage
  | .none => 0

/-- A stat that is preferred twice has to have twice the share. -/
def requiredSharePercent (filter : SnapshotFilter) (stat : PreferredStat) : UInt32 :=
  (if filter.firstPreferredStat = stat then requiredSharePercentPerStat else 0) +
    if filter.secondPreferred = stat then requiredSharePercentPerStat else 0

def meetsShare (filter : SnapshotFilter) (stats : Horse.Stats) (stat : PreferredStat) : Bool :=
  stat = .none ||
    requiredSharePercent filter stat * totalStats stats ≤ statValue stats stat * 100

/-- A filter by a set, which lets everything pass if it is empty. -/
def passes (selected : List Tid) (tid : Tid) : Bool :=
  selected.isEmpty || selected.contains tid

/-- The horse of a registration matches the filter.  Manes and tails are filtered by their shape. -/
def isMatch (registry : AppearanceRegistry) (filter : SnapshotFilter) (horse : Horse) : Bool :=
  (filter.grade = 0 || horse.grade.toUInt8 = filter.grade) &&
    passes filter.coats horse.parts.skinTid &&
    passes filter.manes (UInt32.ofInt (registry.getMane horse.parts.maneTid).shape) &&
    passes filter.tails (UInt32.ofInt (registry.getTail horse.parts.tailTid).shape) &&
    (filter.firstPreferredStat = .none && filter.secondPreferred = .none ||
      meetsShare filter horse.stats filter.firstPreferredStat &&
        meetsShare filter horse.stats filter.secondPreferred)

/-! ## The snapshot -/

/-- The comparison of two registrations whose records are available. -/
def precedes (order : SnapshotOrder) (first second : Horse × Stallion) : Bool :=
  match order with
  | .lineageDescending => second.1.lineage.toNat < first.1.lineage.toNat
  | .lineageAscending => first.1.lineage.toNat < second.1.lineage.toNat
  | .timeLeftDescending => second.2.expiresAt.sinceEpoch < first.2.expiresAt.sinceEpoch
  | .timeLeftAscending => first.2.expiresAt.sinceEpoch < second.2.expiresAt.sinceEpoch
  | .feeDescending => second.2.breedingCharge.toNat < first.2.breedingCharge.toNat
  | .feeAscending => first.2.breedingCharge.toNat < second.2.breedingCharge.toNat
  -- A horse that has bred less often has the higher chance.
  | .pregnancyChanceDescending => first.1.breedingCount.toNat < second.1.breedingCount.toNat
  | .pregnancyChanceAscending => second.1.breedingCount.toNat < first.1.breedingCount.toNat

/-- The comparator of the sort. -/
def compareRegistrations (lookups : SearchLookups) (data : DataDirector) (order : SnapshotOrder)
    (first second : Uid × Uid) : Bool :=
  match listing lookups data first, listing lookups data second with
  | none, _ => false
  | some _, none => true
  | some first, some second => precedes order first second

/-- The registrations that match the filter, in the order of the map. -/
def matching (registry : AppearanceRegistry) (lookups : SearchLookups) (filter : SnapshotFilter)
    (market : Market) : List (Uid × Uid) :=
  market.registrations.filter fun entry =>
    (listing lookups market.data entry).any fun records => isMatch registry filter records.1

def collectMarketSnapshot (sorter : Sorter (Uid × Uid)) (registry : AppearanceRegistry)
    (lookups : SearchLookups) (order : SnapshotOrder) (filter : SnapshotFilter) (market : Market) :
    List (Uid × Uid) :=
  sorter.sort (compareRegistrations lookups market.data order)
    (matching registry lookups filter market)

/-! ## The answer -/

/-- `AcCmdCRSearchStallion`. -/
structure SearchStallion where
  page : UInt32 := 0
  grade : UInt8 := 0
  order : Int8 := 0
  firstRequiredStat : UInt8 := 255
  secondRequiredStat : UInt8 := 255
  filterCoats : List Tid := []
  filterManes : List Tid := []
  filterTails : List Tid := []

def convertProtocolStallionOrderToSnapshotOrder (order : Int8) : SnapshotOrder :=
  match order.toInt with
  | -5 => .lineageDescending
  | -4 => .timeLeftDescending
  | -3 => .feeDescending
  | -1 => .pregnancyChanceAscending
  | 1 => .pregnancyChanceDescending
  | 3 => .feeAscending
  | 4 => .timeLeftAscending
  | 5 => .lineageAscending
  | _ => .timeLeftDescending

def convertProtocolStallionStatToSnapshotStat (stat : UInt8) : PreferredStat :=
  match stat.toNat with
  | 0 => .agility
  | 1 => .ambition
  | 2 => .rush
  | 3 => .endurance
  | 4 => .courage
  | _ => .none

namespace SearchStallion

variable (command : SearchStallion)

def snapshotFilter : SnapshotFilter where
  grade := command.grade
  coats := command.filterCoats
  manes := command.filterManes
  tails := command.filterTails
  firstPreferredStat := convertProtocolStallionStatToSnapshotStat command.firstRequiredStat
  secondPreferred := convertProtocolStallionStatToSnapshotStat command.secondRequiredStat

def snapshotOrder : SnapshotOrder := convertProtocolStallionOrderToSnapshotOrder command.order

end SearchStallion

def stallionsPerPage : Nat := 8

/-- The index of the page, for a number of pages.  `command.page - 1` wraps for page zero. -/
def pageIndex (page : UInt32) (pageCount : Nat) : Nat :=
  max 0 (min pageCount (page - 1).toNat)

/-- `RanchCommandSearchStallionOK::Stallion`. -/
structure FoundStallion where
  owner : Text := []
  uid : UInt32
  tid : UInt32
  name : Text
  grade : UInt8
  breedFee : UInt32
  pregnancyChance : UInt32
  expiresAt : TimePoint
  stats : Protocol.Horse.Stats
  parts : Protocol.Horse.Parts
  appearance : Protocol.Horse.Appearance
  lineage : UInt8

/-- `RanchCommandSearchStallionOK`. -/
structure SearchStallionOK where
  page : UInt32
  pageCount : UInt32
  stallions : List FoundStallion := []

def buildProtocolHorseParts (parts : Horse.Parts) : Protocol.Horse.Parts where
  skinId := parts.skinTid.toUInt8
  maneId := parts.maneTid.toUInt8
  tailId := parts.tailTid.toUInt8
  faceId := parts.faceTid.toUInt8

def maxAppearanceValue : UInt8 := 10

def buildProtocolHorseAppearance (appearance : Horse.Appearance) : Protocol.Horse.Appearance where
  scale := min appearance.scale.toUInt8 maxAppearanceValue
  legLength := min appearance.legLength.toUInt8 maxAppearanceValue
  legVolume := min appearance.legVolume.toUInt8 maxAppearanceValue
  bodyLength := min appearance.bodyLength.toUInt8 maxAppearanceValue
  bodyVolume := min appearance.bodyVolume.toUInt8 maxAppearanceValue

def buildProtocolHorseStats (stats : Horse.Stats) : Protocol.Horse.Stats where
  agility := stats.agility
  ambition := stats.ambition
  rush := stats.rush
  endurance := stats.endurance
  courage := stats.courage

/-- What the answer says about a registration, if its records are available. -/
def foundStallion (lookups : SearchLookups) (data : DataDirector) (entry : Uid × Uid) :
    Option FoundStallion :=
  (listing lookups data entry).map fun (horse, stallion) =>
    { owner := ((characterStorage.find (lookups.owner stallion.ownerUid) stallion.ownerUid data).map
        Character.name).getD []
      uid := horse.uid
      tid := horse.tid
      name := horse.name
      grade := horse.grade.toUInt8
      breedFee := stallion.breedingCharge
      pregnancyChance := horse.breedingCount
      expiresAt := stallion.expiresAt
      stats := buildProtocolHorseStats horse.stats
      parts := buildProtocolHorseParts horse.parts
      appearance := buildProtocolHorseAppearance horse.appearance
      lineage := horse.lineage.toUInt8 }

/-- `RanchDirector::HandleSearchStallion`.  It is undefined to read a page behind the last one. -/
def handleSearchStallion (sorter : Sorter (Uid × Uid)) (registry : AppearanceRegistry)
    (lookups : SearchLookups) (command : SearchStallion) (market : Market) :
    Option SearchStallionOK :=
  let registrations := collectMarketSnapshot sorter registry lookups command.snapshotOrder
    command.snapshotFilter market
  let pageCount := chunkCount stallionsPerPage registrations
  let index := pageIndex command.page pageCount
  let response : SearchStallionOK :=
    { page := UInt32.ofNat (index + 1), pageCount := UInt32.ofNat pageCount }
  if pageCount = 0 then some response
  else if index < pageCount then
    some { response with
      stallions := (chunk stallionsPerPage index registrations).filterMap
        (foundStallion lookups market.data) }
  else none

/-! ## What a filter asks for -/

/-- In how many of the two slots a stat is preferred. -/
def SnapshotFilter.slots (filter : SnapshotFilter) (stat : PreferredStat) : Nat :=
  [filter.firstPreferredStat, filter.secondPreferred].count stat

def statSum (stats : Horse.Stats) : Nat :=
  stats.agility.toNat + stats.courage.toNat + stats.rush.toNat + stats.endurance.toNat +
    stats.ambition.toNat

/-- The horse is of the grade, the coat and the shapes of the filter, and has 38 percent of its
stats for each slot in which a stat is preferred. -/
structure Suits (registry : AppearanceRegistry) (filter : SnapshotFilter) (horse : Horse) :
    Prop where
  grade : filter.grade ≠ 0 → horse.grade.toNat = filter.grade.toNat
  coat : filter.coats ≠ [] → horse.parts.skinTid ∈ filter.coats
  mane : filter.manes ≠ [] →
    UInt32.ofInt (registry.getMane horse.parts.maneTid).shape ∈ filter.manes
  tail : filter.tails ≠ [] →
    UInt32.ofInt (registry.getTail horse.parts.tailTid).shape ∈ filter.tails
  shares : ∀ stat, stat ≠ .none →
    38 * filter.slots stat * statSum horse.stats ≤ 100 * (statValue horse.stats stat).toNat

/-- The numbers of the horse fit the arithmetic of the filter. -/
structure Modest (horse : Horse) : Prop where
  grade : horse.grade.toNat < 2 ^ 8
  stats : 100 * statSum horse.stats < 2 ^ 32

section Filter

variable {filter : SnapshotFilter} {stats : Horse.Stats}

theorem passes_iff {selected : List Tid} {tid : Tid} :
    passes selected tid = true ↔ (selected ≠ [] → tid ∈ selected) := by
  rw [passes, or_eq_true, List.isEmpty_iff, List.contains_iff_mem]
  exact Decidable.or_iff_not_imp_left

theorem grade_iff {grade : UInt32} {wanted : UInt8} (hgrade : grade.toNat < 2 ^ 8) :
    grade.toUInt8 = wanted ↔ grade.toNat = wanted.toNat := by
  rw [← UInt8.toNat_inj, toNat_toUInt8, Nat.mod_eq_of_lt hgrade]

theorem requiredSharePercent_eq (filter : SnapshotFilter) (stat : PreferredStat) :
    (requiredSharePercent filter stat).toNat = 38 * filter.slots stat := by
  unfold requiredSharePercent SnapshotFilter.slots
  by_cases hfirst : filter.firstPreferredStat = stat <;>
    by_cases hsecond : filter.secondPreferred = stat <;>
      simp [hfirst, hsecond, requiredSharePercentPerStat]

theorem slots_le (filter : SnapshotFilter) (stat : PreferredStat) : filter.slots stat ≤ 2 :=
  count_le_length

theorem totalStats_eq (hstats : 100 * statSum stats < 2 ^ 32) :
    (totalStats stats).toNat = statSum stats := by
  unfold statSum at hstats ⊢
  simp only [totalStats, UInt32.toNat_add]
  omega

theorem statValue_le (stats : Horse.Stats) (stat : PreferredStat) :
    (statValue stats stat).toNat ≤ statSum stats := by
  unfold statSum
  cases stat <;> simp [statValue] <;> omega

theorem meetsShare_iff (hstats : 100 * statSum stats < 2 ^ 32) {stat : PreferredStat}
    (hstat : stat ≠ .none) : meetsShare filter stats stat = true ↔
      38 * filter.slots stat * statSum stats ≤ 100 * (statValue stats stat).toNat := by
  have hslots := slots_le filter stat
  have hvalue := statValue_le stats stat
  have hrequired : 38 * filter.slots stat * statSum stats ≤ 38 * 2 * statSum stats := by gcongr
  have hleft : (requiredSharePercent filter stat * totalStats stats).toNat =
      38 * filter.slots stat * statSum stats := by
    rw [UInt32.toNat_mul, requiredSharePercent_eq, totalStats_eq hstats]
    exact Nat.mod_eq_of_lt (by omega)
  have hright : (statValue stats stat * 100).toNat = 100 * (statValue stats stat).toNat := by
    rw [UInt32.toNat_mul, show (100 : UInt32).toNat = 100 from rfl, Nat.mul_comm]
    exact Nat.mod_eq_of_lt (by omega)
  rw [meetsShare, decide_eq_false hstat, Bool.false_or, decide_eq_true_iff, UInt32.le_iff_toNat_le,
    hleft, hright]

/-- Stats that are not preferred have any share. -/
theorem share_of_not_preferred {stat : PreferredStat} (hfirst : filter.firstPreferredStat ≠ stat)
    (hsecond : filter.secondPreferred ≠ stat) : filter.slots stat = 0 := by
  simp [SnapshotFilter.slots, hfirst, hsecond]

theorem shares_iff (hstats : 100 * statSum stats < 2 ^ 32) :
    (filter.firstPreferredStat = .none && filter.secondPreferred = .none ||
      meetsShare filter stats filter.firstPreferredStat &&
        meetsShare filter stats filter.secondPreferred) = true ↔
      ∀ stat, stat ≠ .none →
        38 * filter.slots stat * statSum stats ≤ 100 * (statValue stats stat).toNat := by
  have hnone : meetsShare filter stats .none = true := rfl
  constructor
  · intro hmeets stat hstat
    have hboth : meetsShare filter stats filter.firstPreferredStat = true ∧
        meetsShare filter stats filter.secondPreferred = true := by
      simp only [Bool.or_eq_true, Bool.and_eq_true, decide_eq_true_eq] at hmeets
      obtain ⟨hfirst, hsecond⟩ | hboth := hmeets
      · rw [hfirst, hsecond]
        exact ⟨hnone, hnone⟩
      · exact hboth
    by_cases hfirst : filter.firstPreferredStat = stat
    · exact (meetsShare_iff hstats hstat).1 (hfirst ▸ hboth.1)
    by_cases hsecond : filter.secondPreferred = stat
    · exact (meetsShare_iff hstats hstat).1 (hsecond ▸ hboth.2)
    · rw [share_of_not_preferred hfirst hsecond]
      omega
  · intro hshares
    have hmeets : ∀ stat, meetsShare filter stats stat = true := by
      intro stat
      by_cases hstat : stat = .none
      · rw [hstat, hnone]
      · exact (meetsShare_iff hstats hstat).2 (hshares stat hstat)
    rw [hmeets, hmeets, Bool.and_true, Bool.or_true]

/-- For horses with modest numbers the filter means what it asks for. -/
theorem isMatch_iff_suits {registry : AppearanceRegistry} {horse : Horse} (h : Modest horse) :
    isMatch registry filter horse = true ↔ Suits registry filter horse := by
  have hgrade : (filter.grade = 0 || horse.grade.toUInt8 = filter.grade) = true ↔
      (filter.grade ≠ 0 → horse.grade.toNat = filter.grade.toNat) := by
    rw [or_eq_true, decide_eq_true_iff, decide_eq_true_iff, grade_iff h.grade]
    exact Decidable.or_iff_not_imp_left
  rw [isMatch, and_eq_true, and_eq_true, and_eq_true, and_eq_true, hgrade,
    passes_iff, passes_iff, passes_iff, shares_iff h.stats]
  constructor
  · rintro ⟨⟨⟨⟨hgrade, hcoat⟩, hmane⟩, htail⟩, hshares⟩
    exact ⟨hgrade, hcoat, hmane, htail, hshares⟩
  · rintro ⟨hgrade, hcoat, hmane, htail, hshares⟩
    exact ⟨⟨⟨⟨hgrade, hcoat⟩, hmane⟩, htail⟩, hshares⟩

end Filter

/-! ## What a search answers -/

section Search

variable {sorter : Sorter (Uid × Uid)} {registry : AppearanceRegistry} {lookups : SearchLookups}
variable {market : Market} {command : SearchStallion}

/-- The key by which an order sorts.  Registrations without available records come last. -/
def sortKey (order : SnapshotOrder) : Option (Horse × Stallion) → WithTop ℤ
  | none => ⊤
  | some (horse, stallion) =>
    match order with
    | .lineageDescending => ↑(-(horse.lineage.toNat : ℤ))
    | .lineageAscending => ↑(horse.lineage.toNat : ℤ)
    | .timeLeftDescending => ↑(-stallion.expiresAt.sinceEpoch.toInt)
    | .timeLeftAscending => ↑stallion.expiresAt.sinceEpoch.toInt
    | .feeDescending => ↑(-(stallion.breedingCharge.toNat : ℤ))
    | .feeAscending => ↑(stallion.breedingCharge.toNat : ℤ)
    | .pregnancyChanceDescending => ↑(horse.breedingCount.toNat : ℤ)
    | .pregnancyChanceAscending => ↑(-(horse.breedingCount.toNat : ℤ))

theorem precedes_iff (order : SnapshotOrder) (first second : Horse × Stallion) :
    precedes order first second = true ↔
      sortKey order (some first) < sortKey order (some second) := by
  cases order <;>
    simp only [precedes, sortKey, decide_eq_true_eq, WithTop.coe_lt_coe, Int64.lt_iff_toInt_lt] <;>
    omega

/-- The comparator of every order is a strict weak order, whatever is available. -/
theorem compare_strictWeak (lookups : SearchLookups) (data : DataDirector) (order : SnapshotOrder) :
    StrictWeak (compareRegistrations lookups data order) := by
  apply strictWeak_of_key fun entry => sortKey order (listing lookups data entry)
  intro first second
  unfold compareRegistrations
  cases listing lookups data first with
  | none => simp [sortKey]
  | some records =>
    cases listing lookups data second with
    | none =>
      have hlt : sortKey order (some records) < ⊤ := by
        cases order <;> exact WithTop.coe_lt_top _
      exact iff_of_true rfl hlt
    | some others => exact precedes_iff order records others

variable (sorter registry lookups market command) in
/-- The snapshot of a search. -/
def snapshot : List (Uid × Uid) :=
  collectMarketSnapshot sorter registry lookups command.snapshotOrder command.snapshotFilter market

variable (sorter registry lookups market command) in
/-- The search for another page. -/
def answerOf (page : UInt32) : Option SearchStallionOK :=
  handleSearchStallion sorter registry lookups { command with page := page } market

variable (sorter registry lookups market command) in
/-- The number of its pages. -/
def pageCount : Nat := chunkCount stallionsPerPage (snapshot sorter registry lookups market command)

variable (registry lookups market command) in
/-- The list is a sorted permutation of the registrations that match the filter. -/
structure Selects (items : List (Uid × Uid)) : Prop where
  perm : items.Perm (matching registry lookups command.snapshotFilter market)
  nodup : items.Nodup
  sorted : items.Pairwise fun first second =>
    compareRegistrations lookups market.data command.snapshotOrder second first = false
  suits : ∀ entry ∈ market.registrations, ∀ horse stallion,
    listing lookups market.data entry = some (horse, stallion) → Modest horse →
      (entry ∈ items ↔ Suits registry command.snapshotFilter horse)

variable (sorter registry lookups market command) in
/-- What a search does.  It sorts the registrations that match the filter by a strict weak order,
its index is one of a page, and the pages from the first to the last are the snapshot. -/
structure Searches : Prop where
  strictWeak : ∀ order, StrictWeak (compareRegistrations lookups market.data order)
  selects : Selects registry lookups market command
    (snapshot sorter registry lookups market command)
  index : snapshot sorter registry lookups market command ≠ [] →
    pageIndex command.page (pageCount sorter registry lookups market command) <
      pageCount sorter registry lookups market command
  pages : ∃ responses : List SearchStallionOK,
    (List.range (pageCount sorter registry lookups market command)).map
        (fun index => answerOf sorter registry lookups market command (UInt32.ofNat (index + 1))) =
      responses.map some ∧
    (∀ response ∈ responses,
      response.pageCount.toNat = pageCount sorter registry lookups market command) ∧
    (responses.flatMap SearchStallionOK.stallions).map some =
      (snapshot sorter registry lookups market command).map (foundStallion lookups market.data)

theorem snapshot_perm : (snapshot sorter registry lookups market command).Perm
    (matching registry lookups command.snapshotFilter market) :=
  sorter.perm _ _ (compare_strictWeak lookups market.data command.snapshotOrder)

theorem length_registrations_le (hkeys : (market.registrations.map Prod.fst).Nodup) :
    market.registrations.length ≤ 2 ^ 32 := by
  have hnodup : ((market.registrations.map Prod.fst).map UInt32.toNat).Nodup :=
    hkeys.map fun first second => UInt32.toNat_inj.1
  have hsubset : ((market.registrations.map Prod.fst).map UInt32.toNat).toFinset ⊆
      Finset.range (2 ^ 32) := by
    intro value hvalue
    obtain ⟨uid, -, rfl⟩ := mem_map.1 (mem_toFinset.1 hvalue)
    exact Finset.mem_range.2 uid.toNat_lt
  have hcard := Finset.card_le_card hsubset
  rw [toFinset_card_of_nodup hnodup, Finset.card_range, length_map,
    length_map] at hcard
  exact hcard

theorem length_matching_le (hkeys : (market.registrations.map Prod.fst).Nodup)
    (filter : SnapshotFilter) : (matching registry lookups filter market).length ≤ 2 ^ 32 :=
  (length_filter_le _ _).trans (length_registrations_le hkeys)

/-- A page number has its index, if it is one of a page. -/
theorem pageIndex_lt_iff {page : UInt32} {count : Nat} (hpositive : 0 < count)
    (hcount : count < 2 ^ 32) :
    pageIndex page count < count ↔ 1 ≤ page.toNat ∧ page.toNat - 1 < count := by
  have hpage := page.toNat_lt
  have hone : (1 : UInt32).toNat = 1 := rfl
  rw [pageIndex, UInt32.toNat_sub, hone]
  omega

theorem pageIndex_of_lt {index count : Nat} (hindex : index < count) (hcount : count < 2 ^ 32) :
    pageIndex (UInt32.ofNat (index + 1)) count = index := by
  have hone : (1 : UInt32).toNat = 1 := rfl
  rw [pageIndex, UInt32.toNat_sub, hone, UInt32.toNat_ofNat']
  omega

theorem pageCount_lt {items : List (Uid × Uid)} (hlength : items.length ≤ 2 ^ 32) :
    chunkCount stallionsPerPage items < 2 ^ 32 - 1 := by
  by_contra hle
  have hlast := (@Collection.lt_chunkCount_iff _ stallionsPerPage (2 ^ 32 - 2) items (by decide)).1
    (by omega)
  have hsize : stallionsPerPage = 8 := rfl
  omega

theorem mem_matching {filter : SnapshotFilter} {entry : Uid × Uid} :
    entry ∈ matching registry lookups filter market ↔ entry ∈ market.registrations ∧
      ∃ records, listing lookups market.data entry = some records ∧
        isMatch registry filter records.1 = true := by
  rw [matching, mem_filter, Option.any_eq_true]

theorem selects_snapshot (hkeys : (market.registrations.map Prod.fst).Nodup) :
    Selects registry lookups market command
      (snapshot sorter registry lookups market command) where
  perm := snapshot_perm
  nodup := snapshot_perm.nodup_iff.2 (hkeys.of_map.filter _)
  sorted := sorter.sorted _ _ (compare_strictWeak lookups market.data command.snapshotOrder)
  suits := by
    intro entry hentry horse stallion hlisting hmodest
    rw [snapshot_perm.mem_iff, mem_matching, hlisting, ← isMatch_iff_suits hmodest]
    constructor
    · rintro ⟨-, records, hrecords, hmatch⟩
      cases hrecords
      exact hmatch
    · intro hmatch
      exact ⟨hentry, _, rfl, hmatch⟩

/-- Everything in the snapshot is answered. -/
theorem filterMap_found {items : List (Uid × Uid)}
    (havailable : ∀ entry ∈ items, (listing lookups market.data entry).isSome = true) :
    (items.filterMap (foundStallion lookups market.data)).map some =
      items.map (foundStallion lookups market.data) := by
  induction items with
  | nil => rfl
  | cons entry rest ih =>
    obtain ⟨records, hrecords⟩ :=
      Option.isSome_iff_exists.1 (havailable entry mem_cons_self)
    have hfound : ∃ found, foundStallion lookups market.data entry = some found :=
      ⟨_, by rw [foundStallion, hrecords]; rfl⟩
    obtain ⟨found, hfound⟩ := hfound
    have hrest := ih fun other hother => havailable other (mem_cons_of_mem entry hother)
    simp [hfound, hrest]

/-- The answer for any page, in terms of the snapshot. -/
theorem answerOf_eq (page : UInt32) :
    answerOf sorter registry lookups market command page =
      let index := pageIndex page (pageCount sorter registry lookups market command)
      let response : SearchStallionOK :=
        { page := ofNat (index + 1)
          pageCount := ofNat (pageCount sorter registry lookups market command) }
      if pageCount sorter registry lookups market command = 0 then some response
      else if index < pageCount sorter registry lookups market command then
        some { response with
          stallions := (chunk stallionsPerPage index
            (snapshot sorter registry lookups market command)).filterMap
              (foundStallion lookups market.data) }
      else none := rfl

/-- The answer for a page is its chunk of the snapshot. -/
def pageAnswer (sorter : Sorter (Uid × Uid)) (registry : AppearanceRegistry)
    (lookups : SearchLookups) (market : Market) (command : SearchStallion) (index : Nat) :
    SearchStallionOK where
  page := UInt32.ofNat (index + 1)
  pageCount := UInt32.ofNat (pageCount sorter registry lookups market command)
  stallions := (chunk stallionsPerPage index
    (snapshot sorter registry lookups market command)).filterMap (foundStallion lookups market.data)

theorem answerOf_page {index : Nat}
    (hcount : pageCount sorter registry lookups market command < 2 ^ 32)
    (hindex : index < pageCount sorter registry lookups market command) :
    answerOf sorter registry lookups market command (ofNat (index + 1)) =
      some (pageAnswer sorter registry lookups market command index) := by
  have hpositive : pageCount sorter registry lookups market command ≠ 0 := by omega
  rw [answerOf_eq, pageIndex_of_lt hindex hcount, if_neg hpositive, if_pos hindex]
  rfl

theorem pages_snapshot (hcount : pageCount sorter registry lookups market command < 2 ^ 32)
    (havailable : ∀ entry ∈ market.registrations,
      (listing lookups market.data entry).isSome = true) :
    ∃ responses : List SearchStallionOK,
      (List.range (pageCount sorter registry lookups market command)).map
          (fun index => answerOf sorter registry lookups market command
            (ofNat (index + 1))) =
        responses.map some ∧
      (∀ response ∈ responses,
        response.pageCount.toNat = pageCount sorter registry lookups market command) ∧
      (responses.flatMap SearchStallionOK.stallions).map some =
        (snapshot sorter registry lookups market command).map
          (foundStallion lookups market.data) := by
  refine ⟨(List.range (pageCount sorter registry lookups market command)).map
    (pageAnswer sorter registry lookups market command), ?_, ?_, ?_⟩
  · rw [map_map]
    apply map_congr_left
    intro index hindex
    exact answerOf_page hcount (mem_range.1 hindex)
  · intro response hresponse
    obtain ⟨index, -, rfl⟩ := mem_map.1 hresponse
    exact toNat_ofNat_of_lt' hcount
  · have hitems : ∀ entry ∈ snapshot sorter registry lookups market command,
        (listing lookups market.data entry).isSome = true := by
      intro entry hentry
      exact havailable entry (mem_matching.1 (snapshot_perm.mem_iff.1 hentry)).1
    have hchunks := @Collection.flatMap_chunk _ stallionsPerPage
      (snapshot sorter registry lookups market command) (by decide)
    rw [← filterMap_found hitems, flatMap_map]
    conv_rhs => rw [← hchunks, filterMap_flatMap]
    rfl

/-- There is the page that the command asks for, or nothing matches. -/
def HasPage (registry : AppearanceRegistry) (lookups : SearchLookups) (market : Market)
    (command : SearchStallion) : Prop :=
  matching registry lookups command.snapshotFilter market = [] ∨
    1 ≤ command.page.toNat ∧ (command.page.toNat - 1) * stallionsPerPage <
      (matching registry lookups command.snapshotFilter market).length

variable (sorter) in
/-- A search answers as it should exactly if there is such a page as it asks for, or no page. -/
theorem search_stallion_iff (hkeys : (market.registrations.map Prod.fst).Nodup)
    (havailable : ∀ entry ∈ market.registrations,
      (listing lookups market.data entry).isSome = true) :
    Searches sorter registry lookups market command ↔
      HasPage registry lookups market command := by
  have hperm : (snapshot sorter registry lookups market command).Perm _ := snapshot_perm
  have hcount : pageCount sorter registry lookups market command < 2 ^ 32 - 1 :=
    pageCount_lt (hperm.length_eq.trans_le (length_matching_le hkeys _))
  have hindex : (snapshot sorter registry lookups market command ≠ [] →
      pageIndex command.page (pageCount sorter registry lookups market command) <
        pageCount sorter registry lookups market command) ↔
      HasPage registry lookups market command := by
    have hempty : snapshot sorter registry lookups market command = [] ↔
        matching registry lookups command.snapshotFilter market = [] := by
      rw [← List.length_eq_zero_iff, hperm.length_eq, List.length_eq_zero_iff]
    rw [HasPage, ← hempty, ← hperm.length_eq,
      ← Collection.lt_chunkCount_iff (n := stallionsPerPage) (by decide),
      Decidable.or_iff_not_imp_left]
    refine forall_congr' fun hsome => pageIndex_lt_iff ?_ (by omega)
    exact Nat.pos_of_ne_zero fun hzero =>
      hsome ((Collection.chunkCount_eq_zero_iff (n := stallionsPerPage) (by decide)).1 hzero)
  constructor
  · intro h
    exact hindex.1 h.index
  · intro h
    exact ⟨compare_strictWeak lookups market.data, selects_snapshot hkeys, hindex.2 h,
      pages_snapshot (by omega) havailable⟩

end Search

/-- A market with one registration. -/
def paddocked : Market where
  data := {
    horses := fun uid => if uid = 10 then some { uid := 10, grade := 4 } else none
    stallions := fun uid => if uid = 100 then
      some { uid := 100, horseUid := 10, ownerUid := 1, breedingCharge := 4000 } else none }
  registrations := [(10, 100)]

/-- A registry without any parts. -/
def bald : AppearanceRegistry where
  coats := ∅
  possibleCoats := []
  manes := []
  tails := []
  coats_mem := by simp
  manes_nodup := List.nodup_nil
  tails_nodup := List.nodup_nil

theorem paddocked_available :
    ∀ entry ∈ paddocked.registrations, (listing {} paddocked.data entry).isSome = true := by
  intro entry hentry
  cases mem_singleton.1 hentry
  rfl

/-- The first page of all registrations. -/
theorem search_stallion_first :
    Searches (.stable _) bald {} paddocked { page := 1 } ↔
      HasPage bald {} paddocked { page := 1 } :=
  search_stallion_iff (.stable _) (List.nodup_singleton 10) paddocked_available

/-- The second page of a market with one page, and the page zero, are read behind the last one. -/
theorem page_behind_last :
    ((paddocked.registrations.map Prod.fst).Nodup ∧
      ∀ entry ∈ paddocked.registrations, (listing {} paddocked.data entry).isSome = true) ∧
    ¬Searches (.stable _) bald {} paddocked { page := 2 } ∧
      ¬Searches (.stable _) bald {} paddocked { page := 0 } := by
  have hlength : ∀ command, (matching bald {} command.snapshotFilter paddocked).length = 1 →
    Searches (.stable _) bald {} paddocked command → pageIndex command.page 1 < 1 := by
    intro command hone h
    have hlength := h.selects.perm.length_eq.trans hone
    have hcount : pageCount (.stable _) bald {} paddocked command = 1 := by
      rw [pageCount, chunkCount, hlength]
      rfl
    have hindex := h.index (List.length_pos_iff.1 (hlength.symm ▸ Nat.one_pos))
    rwa [hcount] at hindex
  refine ⟨⟨List.nodup_singleton 10, paddocked_available⟩, fun h => ?_, fun h => ?_⟩
  · exact absurd (hlength _ (by decide) h) (by decide)
  · exact absurd (hlength _ (by decide) h) (by decide)

end Alicia.Breeding
