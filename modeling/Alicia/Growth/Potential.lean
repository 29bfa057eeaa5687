import Alicia.Registry.Horses
import Mathlib.Data.List.Basic

/-!
# The growth of a potential

A potential rises to the level that the class progress of its horse gives it, and every level on the way draws
points for its value.  The level is written back together with the points, so a rise without points is lost, and
the cap of the value takes from a value that was above it.
-/

namespace Alicia.Growth

open Registry UInt32 List Prod
open Data (Horse)

variable {registry : HorseRegistry} {raffle : Raffle} {horse : Horse}

/-- There is a growth type that takes part in the raffles. -/
def Eligible (registry : HorseRegistry) : Prop := ∃ entry ∈ registry.potentialGrowth, entry.1 ≤ maxPotentialPoints

/-! ## One raffle -/

/-- A column is read of every growth type that takes part. -/
theorem tickets_spec {columnIndex : Nat} (h : columnIndex < 10) : ∃ tickets,
    registry.tickets columnIndex = some tickets ∧
      tickets.map fst = (registry.potentialGrowth.filter fun entry => entry.1 ≤ maxPotentialPoints).map fst := by
  rw [HorseRegistry.tickets]
  induction registry.potentialGrowth.filter fun entry => entry.1 ≤ maxPotentialPoints with
  | nil => exact ⟨[], rfl, rfl⟩
  | cons entry rest ih =>
    obtain ⟨tickets, htickets, hpoints⟩ := ih
    refine ⟨(entry.1, entry.2.weights[columnIndex]) :: tickets, ?_, ?_⟩
    · rw [mapM_cons, htickets, Vector.getElem?_eq_getElem h]
      rfl
    · rw [map_cons, map_cons, hpoints]

/-- The points that a level draws. -/
def drawn (registry : HorseRegistry) (raffle : Raffle) (level : UInt32) : UInt32 :=
  (registry.drawnPoints raffle level).getD 0

theorem drawnPoints_spec (heligible : Eligible registry) {level : UInt32} (hlow : 1 ≤ level) (hhigh : level ≤ 10) :
    registry.drawnPoints raffle level = some (drawn registry raffle level) ∧
      (drawn registry raffle level).toNat ≤ 15 := by
  have hcolumn : (level - 1).toNat < 10 := by
    have hten : level.toNat ≤ 10 := UInt32.le_iff_toNat_le.1 hhigh
    have hone : 1 ≤ level.toNat := UInt32.le_iff_toNat_le.1 hlow
    rw [UInt32.toNat_sub_of_le _ _ hlow]
    exact Nat.lt_of_lt_of_le (Nat.sub_lt hone Nat.one_pos) hten
  obtain ⟨tickets, htickets, hpoints⟩ := @tickets_spec registry _ hcolumn
  have hnonempty : tickets.map snd ≠ [] := by
    obtain ⟨entry, hentry, hsmall⟩ := heligible
    intro hnone
    rw [map_eq_nil_iff.1 hnone] at hpoints
    have hmem : entry ∈ registry.potentialGrowth.filter fun entry => entry.1 ≤ maxPotentialPoints :=
      mem_filter.2 ⟨hentry, decide_eq_true hsmall⟩
    exact ne_nil_of_mem hmem (map_eq_nil_iff.1 hpoints.symm)
  have hsmall : ∀ points ∈ tickets.map fst, points.toNat ≤ 15 := by
    intro points hmem
    rw [hpoints] at hmem
    obtain ⟨entry, hentry, rfl⟩ := mem_map.1 hmem
    exact UInt32.le_iff_toNat_le.1 (of_decide_eq_true (mem_filter.1 hentry).2)
  have hlt := raffle.draw_lt level _ hnonempty
  rw [length_map, ← length_map fst] at hlt
  have hdraw : registry.drawnPoints raffle level = some (tickets.map fst)[raffle.draw level (tickets.map snd)] := by
    rw [HorseRegistry.drawnPoints, htickets]
    exact List.getElem?_eq_getElem hlt
  have hdrawn : drawn registry raffle level = (tickets.map fst)[raffle.draw level (tickets.map snd)] := by
    rw [drawn, hdraw, Option.getD_some]
  refine ⟨hdrawn ▸ hdraw, ?_⟩
  exact hdrawn ▸ hsmall _ (getElem_mem hlt)

/-! ## The rise -/

/-- The level that the rise ends at. -/
def topLevel (registry : HorseRegistry) (horse : Horse) : UInt32 := min (registry.targetLevel horse.clazzProgress) 11

/-- The loop ends at the top, with the points of every level on the way.  The points fit. -/
theorem growLevels_spec (heligible : Eligible registry) (targetLevel level gainedPoints : UInt32) (hlow : 1 ≤ level)
    (hfits : gainedPoints.toNat + 15 * (11 - level.toNat) < 4294967296) :
    ∃ points, registry.growLevels raffle targetLevel level gainedPoints =
        some (max level (min targetLevel 11), points) ∧
      gainedPoints.toNat ≤ points.toNat ∧ points.toNat ≤ gainedPoints.toNat + 15 * (11 - level.toNat) ∧
      (points = gainedPoints ↔ ∀ next, level ≤ next → next < min targetLevel 11 → drawn registry raffle next = 0) := by
  have heleven : (11 : UInt32).toNat = 11 := rfl
  fun_induction registry.growLevels raffle targetLevel level gainedPoints with
  | case1 level gainedPoints h ih =>
    have htarget : level.toNat < targetLevel.toNat := UInt32.lt_iff_toNat_lt.1 h.1
    have hten : level.toNat ≤ 10 := UInt32.le_iff_toNat_le.1 h.2
    have hone : 1 ≤ level.toNat := UInt32.le_iff_toNat_le.1 hlow
    have hnext : (level + 1).toNat = level.toNat + 1 := by
      rw [UInt32.toNat_add]
      exact Nat.mod_eq_of_lt (by omega : level.toNat + 1 < 4294967296)
    obtain ⟨hdrawn, hsmall⟩ := @drawnPoints_spec _ raffle heligible _ hlow h.2
    have hsum : (gainedPoints + drawn registry raffle level).toNat =
        gainedPoints.toNat + (drawn registry raffle level).toNat := by
      rw [UInt32.toNat_add]
      exact Nat.mod_eq_of_lt (by omega)
    obtain ⟨points, hpoints, hge, hle, hzero⟩ := ih (drawn registry raffle level)
      (UInt32.le_iff_toNat_le.2 (by rw [hnext]; exact Nat.le_add_left 1 _)) (by omega)
    refine ⟨points, ?_, by omega, by omega, ?_⟩
    · rw [hdrawn, Option.bind_eq_bind, Option.bind_some, hpoints]
      refine congrArg (fun level => some (level, points)) (UInt32.toNat_inj.1 ?_)
      rw [UInt32.toNat_max, UInt32.toNat_max, UInt32.toNat_min, hnext, heleven]
      omega
    · constructor
      · rintro hsame next hlevel htop
        have hnone : (drawn registry raffle level).toNat = 0 := by
          rw [hsame] at hge
          omega
        have hnone : drawn registry raffle level = 0 := UInt32.toNat_inj.1 hnone
        by_cases hfirst : next = level
        · rw [hfirst, hnone]
        · refine hzero.1 (by rw [hsame, hnone, UInt32.add_zero]) next (UInt32.le_iff_toNat_le.2 ?_) htop
          have hle := UInt32.le_iff_toNat_le.1 hlevel
          have hne : next.toNat ≠ level.toNat := fun h => hfirst (UInt32.toNat_inj.1 h)
          omega
      · intro hall
        have hnone : drawn registry raffle level = 0 := by
          refine hall level (UInt32.le_refl _) (UInt32.lt_iff_toNat_lt.2 ?_)
          rw [UInt32.toNat_min, heleven]
          omega
        rw [hnone, UInt32.add_zero] at hzero
        refine hzero.2 fun next hlevel htop => hall next (UInt32.le_iff_toNat_le.2 ?_) htop
        have hle := UInt32.le_iff_toNat_le.1 hlevel
        omega
  | case2 level gainedPoints h =>
    have htop : (min targetLevel 11).toNat ≤ level.toNat := by
      rw [UInt32.toNat_min, heleven]
      have hstop : ¬(level.toNat < targetLevel.toNat ∧ level.toNat ≤ 10) := fun hgo =>
        h ⟨UInt32.lt_iff_toNat_lt.2 hgo.1, UInt32.le_iff_toNat_le.2 hgo.2⟩
      omega
    refine ⟨gainedPoints, ?_, Nat.le_refl _, Nat.le_add_right _ _, ?_⟩
    · refine congrArg (fun level => some (level, gainedPoints)) (UInt32.toNat_inj.1 ?_)
      rw [UInt32.toNat_max, Nat.max_eq_left htop]
    · refine ⟨fun _ next hlevel hnext => ?_, fun _ => rfl⟩
      have hle := UInt32.le_iff_toNat_le.1 hlevel
      have hlt := UInt32.lt_iff_toNat_lt.1 hnext
      omega

/-- The potential has levels to rise. -/
def Rising (registry : HorseRegistry) (horse : Horse) : Prop :=
  horse.potential.type ≠ 0 ∧ max horse.potential.level 1 < topLevel registry horse

theorem one_le_targetLevel (registry : HorseRegistry) (clazzProgress : UInt32) :
    1 ≤ (registry.targetLevel clazzProgress).toNat := by
  have hfold : ∀ (levels : List PotentialLevel) (targetLevel : UInt32), 1 ≤ targetLevel.toNat →
      1 ≤ (levels.foldl (fun targetLevel potentialLevel =>
        if potentialLevel.requiredClassProgression ≤ clazzProgress then max targetLevel potentialLevel.level
        else targetLevel) targetLevel).toNat := by
    intro levels
    induction levels with
    | nil => exact fun _ h => h
    | cons potentialLevel rest ih =>
      intro targetLevel h
      refine ih _ ?_
      dsimp only
      split
      · exact toNat_max _ _ ▸ Nat.le_trans h (Nat.le_max_left _ _)
      · exact h
  exact hfold registry.potentialLevels 1 (Nat.le_refl 1)

theorem one_le_topLevel (registry : HorseRegistry) (horse : Horse) : 1 ≤ (topLevel registry horse).toNat := by
  rw [topLevel, toNat_min]
  exact Nat.le_min.2 ⟨one_le_targetLevel registry horse.clazzProgress, by decide⟩

theorem toNat_start (horse : Horse) : (max horse.potential.level 1).toNat = max horse.potential.level.toNat 1 :=
  toNat_max _ _

theorem rising_iff : Rising registry horse ↔ horse.potential.type ≠ 0 ∧
    horse.potential.level.toNat < (topLevel registry horse).toNat ∧ 1 < (topLevel registry horse).toNat := by
  rw [Rising, lt_iff_toNat_lt, toNat_start, Nat.max_lt]

/-- Every level on the way draws nothing. -/
def Fruitless (registry : HorseRegistry) (raffle : Raffle) (horse : Horse) : Prop :=
  ∀ next, max horse.potential.level 1 ≤ next → next < topLevel registry horse → drawn registry raffle next = 0

/-- What the function returns: the points of the levels up to the top. -/
theorem applyPotentialGrowth_spec (heligible : Eligible registry) (htype : horse.potential.type ≠ 0) :
    ∃ points : UInt32, points.toNat ≤ 150 ∧ (points = 0 ↔ Fruitless registry raffle horse) ∧
      registry.applyPotentialGrowth raffle horse = some (if points = 0 then (0, horse) else
        (points, { horse with potential := { horse.potential with
          value := min (horse.potential.value + points) maxPotentialValue
          level := max (max horse.potential.level 1) (topLevel registry horse) } })) := by
  have hone : 1 ≤ (max horse.potential.level 1).toNat := toNat_start horse ▸ Nat.le_max_right _ _
  have hzero : (0 : UInt32).toNat = 0 := rfl
  obtain ⟨points, hpoints, -, hle, hfruitless⟩ := @growLevels_spec _ raffle heligible
    (registry.targetLevel horse.clazzProgress) (max horse.potential.level 1) 0 (le_iff_toNat_le.2 hone) (by omega)
  refine ⟨points, by omega, hfruitless, ?_⟩
  rw [HorseRegistry.applyPotentialGrowth, if_neg htype, hpoints]
  dsimp only [Option.bind_eq_bind, Option.bind_some]
  split
  · rfl
  · rfl

/-- Without a level to rise nothing changes. -/
theorem applyPotentialGrowth_still (heligible : Eligible registry) (h : ¬Rising registry horse) :
    registry.applyPotentialGrowth raffle horse = some (0, horse) := by
  by_cases htype : horse.potential.type = 0
  · exact if_pos htype
  · obtain ⟨points, -, hfruitless, happly⟩ := @applyPotentialGrowth_spec _ raffle _ heligible htype
    have hnone : points = 0 := hfruitless.2 fun next hle hlt =>
      absurd ⟨htype, UInt32.lt_of_le_of_lt hle hlt⟩ h
    rw [happly, if_pos hnone]

/-! ## When the growth is sound -/

/-- What the growth of a horse has to make of it. -/
structure Grown (registry : HorseRegistry) (horse grown : Horse) : Prop where
  level : horse.potential.level ≤ grown.potential.level
  value : horse.potential.value ≤ grown.potential.value
  capped : horse.potential.value ≤ maxPotentialValue → grown.potential.value ≤ maxPotentialValue
  risen : horse.potential.type ≠ 0 →
    grown.potential.level = max horse.potential.level (topLevel registry horse)
  settled : ∀ raffle, registry.applyPotentialGrowth raffle grown = some (0, grown)

/-- A horse of level 0 has more than one level to rise.  A value that is to grow is not above the cap, and one of
the levels on the way draws points. -/
structure Growable (registry : HorseRegistry) (raffle : Raffle) (horse : Horse) : Prop where
  still : horse.potential.type ≠ 0 → ¬Rising registry horse → 1 ≤ horse.potential.level
  value : Rising registry horse → horse.potential.value ≤ maxPotentialValue
  drawn : Rising registry horse → ¬Fruitless registry raffle horse

theorem grown_still (heligible : Eligible registry) (h : ¬Rising registry horse)
    (hlevel : horse.potential.type ≠ 0 → 1 ≤ horse.potential.level) : Grown registry horse horse where
  level := UInt32.le_refl _
  value := UInt32.le_refl _
  capped := id
  risen htype := by
    have hone : 1 ≤ horse.potential.level.toNat := UInt32.le_iff_toNat_le.1 (hlevel htype)
    have hstill : ¬(horse.potential.level.toNat < (topLevel registry horse).toNat ∧
        1 < (topLevel registry horse).toNat) := fun hlt => h (rising_iff.2 ⟨htype, hlt⟩)
    refine UInt32.toNat_inj.1 ?_
    rw [UInt32.toNat_max]
    omega
  settled raffle := applyPotentialGrowth_still heligible h

/-- A rise that draws points ends at the top and stays there. -/
theorem grown_risen (heligible : Eligible registry) (h : Rising registry horse)
    (hvalue : horse.potential.value ≤ maxPotentialValue) {points : UInt32} (hpoints : points.toNat ≤ 150) :
    Grown registry horse { horse with potential := { horse.potential with
      value := min (horse.potential.value + points) maxPotentialValue
      level := max (max horse.potential.level 1) (topLevel registry horse) } } := by
  obtain ⟨htype, hlevel, hone⟩ := rising_iff.1 h
  have hcap : horse.potential.value.toNat ≤ 100 := UInt32.le_iff_toNat_le.1 hvalue
  have hmax : maxPotentialValue.toNat = 100 := rfl
  have hsum : (horse.potential.value + points).toNat = horse.potential.value.toNat + points.toNat := by
    rw [UInt32.toNat_add]
    exact Nat.mod_eq_of_lt (by omega)
  have htop : max (max horse.potential.level 1) (topLevel registry horse) = topLevel registry horse := by
    refine UInt32.toNat_inj.1 ?_
    rw [UInt32.toNat_max, toNat_start]
    omega
  refine ⟨?_, ?_, fun _ => Std.min_le_right, fun _ => ?_, fun raffle => ?_⟩
  · exact htop.symm ▸ UInt32.le_iff_toNat_le.2 (Nat.le_of_lt hlevel)
  · rw [UInt32.le_iff_toNat_le, UInt32.toNat_min, hsum, hmax]
    omega
  · refine htop.trans (UInt32.toNat_inj.1 ?_)
    rw [UInt32.toNat_max]
    omega
  · refine applyPotentialGrowth_still heligible fun hrising => ?_
    have hlt := (rising_iff.1 hrising).2.1
    dsimp only at hlt
    rw [htop] at hlt
    exact absurd hlt (Nat.lt_irrefl _)

/-- The growth completes without a read outside the columns, and is sound. -/
def Sound (registry : HorseRegistry) (raffle : Raffle) (horse : Horse) : Prop :=
  ∃ gainedPoints grown, registry.applyPotentialGrowth raffle horse = some (gainedPoints, grown) ∧
    Grown registry horse grown

theorem growable_of_sound (heligible : Eligible registry) (h : Sound registry raffle horse) :
    Growable registry raffle horse := by
  obtain ⟨gainedPoints, grown, hgrown, hsound⟩ := h
  by_cases hrising : Rising registry horse
  · obtain ⟨points, -, hfruitless, happly⟩ := @applyPotentialGrowth_spec _ raffle _ heligible hrising.1
    have hnone : points ≠ 0 := by
      intro hnone
      rw [if_pos hnone] at happly
      cases happly.symm.trans hgrown
      obtain ⟨htype, hlevel, -⟩ := rising_iff.1 hrising
      have hrisen := congrArg UInt32.toNat (hsound.risen htype)
      rw [UInt32.toNat_max] at hrisen
      omega
    rw [if_neg hnone] at happly
    cases happly.symm.trans hgrown
    exact ⟨fun _ hstill => absurd hrising hstill, fun _ => UInt32.le_trans hsound.value Std.min_le_right,
      fun _ hdrawn => hnone (hfruitless.2 hdrawn)⟩
  · cases (@applyPotentialGrowth_still _ raffle _ heligible hrising).symm.trans hgrown
    refine ⟨fun htype _ => ?_, fun h => absurd h hrising, fun h => absurd h hrising⟩
    have hrisen := congrArg UInt32.toNat (hsound.risen htype)
    have htop := one_le_topLevel registry horse
    rw [UInt32.toNat_max] at hrisen
    exact UInt32.le_iff_toNat_le.2 (Nat.le_trans htop (hrisen ▸ Nat.le_max_right _ _))

theorem sound_of_growable (heligible : Eligible registry) (h : Growable registry raffle horse) :
    Sound registry raffle horse := by
  by_cases hrising : Rising registry horse
  · obtain ⟨points, hsmall, hfruitless, happly⟩ := @applyPotentialGrowth_spec _ raffle _ heligible hrising.1
    rw [if_neg fun hnone => h.drawn hrising (hfruitless.1 hnone)] at happly
    exact ⟨_, _, happly, grown_risen heligible hrising (h.value hrising) hsmall⟩
  · exact ⟨0, horse, applyPotentialGrowth_still heligible hrising,
      grown_still heligible hrising fun htype => h.still htype hrising⟩

/-- The growth of a potential is sound exactly for the horses whose level is above 0 or rises, whose value is not
above the cap when they rise, and which draw points when they do. -/
theorem potentialGrowth_sound_iff (registry : HorseRegistry) (raffle : Raffle) (horse : Horse)
    (heligible : Eligible registry) : Sound registry raffle horse ↔ Growable registry raffle horse :=
  ⟨growable_of_sound heligible, sound_of_growable heligible⟩

/-! ### One level to rise -/

/-- One growth type of two points, and a second level from 100 on. -/
def smallRegistry : HorseRegistry where
  potentialGrowth := [(2, { type := 2, weights := Vector.replicate 10 1 })]
  potentialLevels := [{ level := 2, requiredClassProgression := 100 }]

def firstTicket : Raffle where
  draw _ _ := 0
  draw_lt _ _ h := List.length_pos_iff.2 h

/-- A horse on its way to the second level. -/
def risingHorse (value : UInt32) : Horse where
  clazzProgress := 150
  potential := { type := 1, level := 1, value := value }

theorem smallRegistry_eligible : Eligible smallRegistry := ⟨_, mem_cons_self, by decide⟩

theorem rising_risingHorse (value : UInt32) : Rising smallRegistry (risingHorse value) :=
  ⟨(by decide : (1 : UInt32) ≠ 0), (by decide : max 1 1 < topLevel smallRegistry (risingHorse 0))⟩

theorem potentialGrowth_sound_small : Sound smallRegistry firstTicket (risingHorse 50) := by
  refine (potentialGrowth_sound_iff smallRegistry firstTicket (risingHorse 50) smallRegistry_eligible).2
    ⟨fun _ hstill => absurd (rising_risingHorse 50) hstill, fun _ => by decide, fun _ hnone => ?_⟩
  exact absurd (hnone 1 (by decide) (by decide)) (by decide)

/-- A value of 200, as a random potential may have, falls to 100. -/
theorem potential_lowered : ¬Sound smallRegistry firstTicket (risingHorse 200) := by
  intro h
  have hvalue := (growable_of_sound smallRegistry_eligible h).value (rising_risingHorse 200)
  exact absurd hvalue (by decide)

end Alicia.Growth
