import Alicia.Magic.Messages
import Alicia.Number.Sampling
import Mathlib.Algebra.Order.Ring.Nat

/-!
# The gauge and its ticks

The gauge of a racer fills by itself.  A tick counts the whole intervals since the last one that counted any, and
counts from its own time on.  How full the gauge gets depends on the times of the ticks, unless what they cut off
stays below one interval.
-/

namespace Alicia.Magic

open Std (ExtTreeMap)
open Sampling List
open Transition Effect Data
open Race (Instant)

/-! ## One racer -/

section Racer

variable (registry : Registry) (raceStart : Instant) (starPointsMax : UInt32)

/-- The interval of a tick, in nanoseconds. -/
def tickInterval : Nat := registry.regenInfo.intervalMs * 1000000

/-- The time that the gauge counts from. -/
def gaugeAnchor (racer : Racer) : Instant := racer.lastGaugeUpdate.getD raceStart

/-- What an interval is worth.  A racer who holds an item gets nothing, unless the set allows for it. -/
def gain (racer : Racer) : Nat :=
  if racer.magicItem.isNone || racer.activeSetEffect = .gaugeWhileHolding then (gainedPerTick registry racer).toNat
  else 0

/-- A gauge with more points in it, up to the limit. -/
def fill (limit value points : Nat) : Nat := if value < limit then min limit (value + points) else value

theorem fill_zero (limit value : Nat) : fill limit value 0 = value := by
  rw [fill]
  split <;> omega

theorem fill_fill (limit value first second : Nat) :
    fill limit (fill limit value first) second = fill limit value (first + second) := by
  rw [fill, fill, fill]
  by_cases hbelow : value < limit
  · rw [if_pos hbelow, if_pos hbelow]
    split <;> omega
  · rw [if_neg hbelow, if_neg hbelow, if_neg hbelow]

/-- What a tick does not change decides what an interval is worth. -/
theorem gain_regenerate (now : Instant) (racer : Racer) :
    gain registry (regenerate registry now raceStart starPointsMax racer) = gain registry racer := by
  rw [regenerate]
  dsimp only
  split
  · rfl
  · rfl

theorem gaugeAnchor_regenerate (now : Instant) (racer : Racer) :
    gaugeAnchor raceStart (regenerate registry now raceStart starPointsMax racer) =
      if (now - gaugeAnchor raceStart racer) / tickInterval registry = 0 then gaugeAnchor raceStart racer else now := by
  rw [regenerate]
  dsimp only
  split
  · next hnone => exact (if_pos hnone).symm
  · next hsome => exact (if_neg hsome).symm

/-- Points that fit are not wrapped around. -/
theorem toNat_filled {limit value gained : UInt32} {count : Nat} (hbelow : value < limit)
    (hfits : limit.toNat + gained.toNat * count < 4294967296) :
    (min limit (value + gained * UInt32.ofNat count)).toNat =
      min limit.toNat (value.toNat + gained.toNat * count) := by
  have hlt := UInt32.lt_iff_toNat_lt.1 hbelow
  have hpoints : (gained * UInt32.ofNat count).toNat = gained.toNat * count := by
    rw [UInt32.toNat_mul, UInt32.toNat_ofNat', Nat.mul_mod_mod]
    exact Nat.mod_eq_of_lt (by omega)
  rw [UInt32.toNat_min, UInt32.toNat_add, hpoints, Nat.mod_eq_of_lt (by omega)]

/-- A tick fills the gauge by the whole intervals since the last one. -/
theorem starPointValue_regenerate (now : Instant) (racer : Racer)
    (hfits : starPointsMax.toNat + gain registry racer *
      ((now - gaugeAnchor raceStart racer) / tickInterval registry) < 4294967296) :
    (regenerate registry now raceStart starPointsMax racer).starPointValue.toNat =
      fill starPointsMax.toNat racer.starPointValue.toNat
        (gain registry racer * ((now - gaugeAnchor raceStart racer) / tickInterval registry)) := by
  rw [gaugeAnchor, tickInterval] at hfits ⊢
  rw [regenerate]
  dsimp only
  split
  · next hnone => rw [hnone, Nat.mul_zero, fill_zero]
  dsimp only
  rw [gain] at hfits ⊢
  by_cases hregen : racer.magicItem.isNone || racer.activeSetEffect = .gaugeWhileHolding
  · rw [if_pos hregen] at hfits ⊢
    rw [hregen, Bool.true_and, fill]
    by_cases hbelow : racer.starPointValue < starPointsMax
    · rw [if_pos (decide_eq_true hbelow), if_pos (UInt32.lt_iff_toNat_lt.1 hbelow), toNat_filled hbelow hfits]
    · rw [if_neg fun h => hbelow (of_decide_eq_true h), if_neg fun h => hbelow (UInt32.lt_iff_toNat_lt.2 h)]
  · rw [if_neg hregen, Nat.zero_mul, fill_zero, Bool.eq_false_iff.2 hregen, Bool.false_and, if_neg Bool.false_ne_true]

/-- The racer after some ticks. -/
def regenerations (racer : Racer) (times : List Instant) : Racer :=
  times.foldl (fun racer now => regenerate registry now raceStart starPointsMax racer) racer

/-- The ticks fill the gauge by the intervals that they count. -/
theorem starPointValue_regenerations (times : List Instant) : ∀ racer : Racer,
    starPointsMax.toNat + gain registry racer *
      counted (tickInterval registry) (gaugeAnchor raceStart racer) times < 4294967296 →
    (regenerations registry raceStart starPointsMax racer times).starPointValue.toNat =
      fill starPointsMax.toNat racer.starPointValue.toNat
        (gain registry racer * counted (tickInterval registry) (gaugeAnchor raceStart racer) times) := by
  induction times with
  | nil =>
    intro racer _
    rw [counted, Nat.mul_zero, fill_zero]
    rfl
  | cons now times ih =>
    intro racer hfits
    rw [counted_cons, Nat.mul_add] at hfits ⊢
    have hfirst := starPointValue_regenerate registry raceStart starPointsMax now racer (by omega)
    have hlater := ih (regenerate registry now raceStart starPointsMax racer)
    rw [gain_regenerate, gaugeAnchor_regenerate, hfirst, fill_fill] at hlater
    exact hlater (by omega)

end Racer

/-- The count of intervals matters unless an interval is worth nothing or the gauge is full by then. -/
theorem fill_eq_min_iff {limit value points count whole : Nat} (hle : count ≤ whole) :
    fill limit value (points * count) = min limit (value + points * whole) ↔
      value ≤ limit ∧ (points = 0 ∨ limit ≤ value + points * count ∨ count = whole) := by
  have hmul := Nat.mul_le_mul_left points hle
  have hsame : points * count = points * whole ↔ count = whole ∨ points = 0 := mul_eq_mul_left_iff
  rw [fill]
  split
  · omega
  · omega

/-! ## A race and its ticks -/

section Ticks

variable {registry : Registry} {around : Surroundings} {uid : Uid} {race : RaceInstance} {racer : Racer}

def gaugeStep (registry : Registry) (race : RaceInstance) (around : Surroundings) : RaceInstance :=
  (tickMagicGauge registry around).final race

/-- A tick during the race comes to a racer: the room exists, and the racer is among its players. -/
structure Ticks (raceStart : Instant) (uid : Uid) (around : Surroundings) : Prop where
  started : raceStart < around.now
  players : ∃ players, around.players = some players ∧ (players.map Prod.fst).Nodup ∧ uid ∈ players.map Prod.fst

/-- A tick regenerates the gauge of the racer, and leaves the start and the limit of the race. -/
theorem gaugeStep_racer (htick : Ticks race.raceStart uid around) (hracer : race.racers[uid]? = some racer) :
    (gaugeStep registry race around).racers[uid]? =
        some (regenerate registry around.now race.raceStart race.starPointsMax racer) ∧
      (gaugeStep registry race around).raceStart = race.raceStart ∧
      (gaugeStep registry race around).starPointsMax = race.starPointsMax := by
  obtain ⟨hstarted, players, hplayers, hnodup, hmem⟩ := htick
  have hask : Effect.ask (fun _ => around.getPlayers) race = .ok players race :=
    ask_ok (by rw [Surroundings.getPlayers, hplayers])
  rw [gaugeStep, tickMagicGauge, final_bind_ok (get_apply _), if_neg (Nat.not_le.2 hstarted),
    final_bind_ok hask]
  -- what the loop has come to, by the players that are left
  let P (rest : List (Uid × ClientId)) (now : RaceInstance) : Prop :=
    (rest.map Prod.fst).Nodup ∧ now.raceStart = race.raceStart ∧ now.starPointsMax = race.starPointsMax ∧
      now.racers[uid]? = some (if uid ∈ rest.map Prod.fst then racer
        else regenerate registry around.now race.raceStart race.starPointsMax racer)
  have hstart : P players race := ⟨hnodup, rfl, rfl, (if_pos hmem).symm ▸ hracer⟩
  refine (fun h : P [] _ => ⟨h.2.2.2.trans (congrArg some (if_neg not_mem_nil)), h.2.1, h.2.2.1⟩)
    (@final_forM_of_step _ _ _ _ P ?_ players race hstart)
  rintro ⟨other, client⟩ rest now ⟨hnodup, hstart, hmax, hnow⟩
  rw [map_cons, nodup_cons] at hnodup
  dsimp only
  rw [bind_ok (get_apply _)]
  cases hother : now.racers[other]? with
  | none =>
    refine ⟨now, rfl, hnodup.2, hstart, hmax, hnow.trans (congrArg some (if_congr ?_ rfl rfl))⟩
    rw [map_cons, mem_cons]
    refine or_iff_right fun hsame : uid = other => ?_
    rw [← hsame, hnow] at hother
    cases hother
  | some found =>
    dsimp only
    rw [updateRacer, bind_ok (modify_apply _ _), queueCommand_apply]
    refine ⟨_, rfl, hnodup.2, hstart, hmax, ?_⟩
    refine (getElem?_updateRacer other uid _ now).trans ?_
    split
    · next hsame =>
        rw [hsame] at hnow ⊢
        rw [map_cons, if_pos mem_cons_self, hother] at hnow
        cases hnow
        rw [hother, if_neg hnodup.1]
        rfl
    · next hne =>
        refine hnow.trans (congrArg some (if_congr ?_ rfl rfl))
        rw [map_cons, mem_cons]
        exact or_iff_right hne

theorem run_gaugeStep (registry : Registry) (uid : Uid) (ticks : List Surroundings) : ∀ {race : RaceInstance}
    {racer : Racer}, (∀ around ∈ ticks, Ticks race.raceStart uid around) → race.racers[uid]? = some racer →
    (run (gaugeStep registry) race ticks).racers[uid]? =
      some (regenerations registry race.raceStart race.starPointsMax racer (ticks.map Surroundings.now)) := by
  induction ticks with
  | nil => exact fun _ hracer => hracer
  | cons around ticks ih =>
    intro race racer hticks hracer
    obtain ⟨htick, hlater⟩ := forall_mem_cons.1 hticks
    obtain ⟨hregenerated, hstart, hmax⟩ := @gaugeStep_racer registry _ _ _ _ htick hracer
    have hrun := ih (hstart.symm ▸ hlater) hregenerated
    rw [hstart, hmax] at hrun
    rw [run_cons, hrun]
    rfl

/-! ## The gauge after the last tick -/

/-- The gauge after some ticks is that of the whole time from where it counts to a time, up to the limit. -/
def Regenerates (registry : Registry) (race : RaceInstance) (uid : Uid) (racer : Racer) (ticks : List Surroundings)
    (last : Instant) : Prop :=
  ∃ after, (run (gaugeStep registry) race ticks).racers[uid]? = some after ∧
    after.starPointValue.toNat = min race.starPointsMax.toNat (racer.starPointValue.toNat +
      gain registry racer * ((last - gaugeAnchor race.raceStart racer) / tickInterval registry))

/-- The gauge is not above the limit, and no whole interval is missing that would show: an interval is worth
nothing, the gauge is full without it, or what the ticks cut off is less than one. -/
structure Unmissed (registry : Registry) (race : RaceInstance) (racer : Racer) (times : List Instant) (last : Instant) :
    Prop where
  limit : racer.starPointValue ≤ race.starPointsMax
  shown : gain registry racer = 0 ∨
    race.starPointsMax.toNat ≤ racer.starPointValue.toNat + gain registry racer *
      counted (tickInterval registry) (gaugeAnchor race.raceStart racer) times ∨
    lost (tickInterval registry) (gaugeAnchor race.raceStart racer) last times < tickInterval registry

/-- Whatever the times of the ticks, the gauge after the last one is that of the whole time exactly where no interval
is missed. -/
theorem regenerates_iff (registry : Registry) (race : RaceInstance) (uid : Uid) (racer : Racer)
    (earlier : List Surroundings) (last : Surroundings) (hinterval : 0 < tickInterval registry)
    (hracer : race.racers[uid]? = some racer) (hticks : ∀ around ∈ earlier ++ [last], Ticks race.raceStart uid around)
    (hsorted : (gaugeAnchor race.raceStart racer :: (earlier ++ [last]).map Surroundings.now).Pairwise (· ≤ ·))
    (hfits : race.starPointsMax.toNat + gain registry racer *
      ((last.now - gaugeAnchor race.raceStart racer) / tickInterval registry) < 4294967296) :
    Regenerates registry race uid racer (earlier ++ [last]) last.now ↔
      Unmissed registry race racer ((earlier ++ [last]).map Surroundings.now) last.now := by
  have hlast : ∀ time ∈ gaugeAnchor race.raceStart racer :: (earlier ++ [last]).map Surroundings.now,
      time ≤ last.now := by
    rw [List.map_append, ← List.cons_append, List.pairwise_append] at hsorted
    intro time htime
    rw [List.map_append, ← List.cons_append] at htime
    rcases List.mem_append.1 htime with hearlier | hlast
    · exact hsorted.2.2 time hearlier last.now List.mem_cons_self
    · exact Nat.le_of_eq (List.mem_singleton.1 hlast)
  have hle := counted_le hinterval hsorted hlast
  have hvalue := starPointValue_regenerations registry race.raceStart race.starPointsMax
    ((earlier ++ [last]).map Surroundings.now) racer
    (Nat.lt_of_le_of_lt (Nat.add_le_add_left (Nat.mul_le_mul_left _ hle) _) hfits)
  have hrun := run_gaugeStep registry uid (earlier ++ [last]) hticks hracer
  have hexact : Regenerates registry race uid racer (earlier ++ [last]) last.now ↔
      fill race.starPointsMax.toNat racer.starPointValue.toNat (gain registry racer *
          counted (tickInterval registry) (gaugeAnchor race.raceStart racer)
            ((earlier ++ [last]).map Surroundings.now)) =
        min race.starPointsMax.toNat (racer.starPointValue.toNat + gain registry racer *
          ((last.now - gaugeAnchor race.raceStart racer) / tickInterval registry)) := by
    rw [← hvalue]
    constructor
    · rintro ⟨after, hafter, hsame⟩
      cases hrun.symm.trans hafter
      exact hsame
    · exact fun hsame => ⟨_, hrun, hsame⟩
  rw [hexact, fill_eq_min_iff hle, counted_eq_iff hinterval hsorted hlast, ← UInt32.le_iff_toNat_le]
  exact ⟨fun ⟨hlimit, hshown⟩ => ⟨hlimit, hshown⟩, fun ⟨hlimit, hshown⟩ => ⟨hlimit, hshown⟩⟩

end Ticks

/-! ### One racer, and ticks after a second -/

/-- A racer with an empty gauge, in a race that starts at zero. -/
def fresh : RaceInstance where
  starPointsMax := 40000
  racers := (∅ : ExtTreeMap Uid Racer).insert 100 { oid := 1 }

/-- A tick at a time in milliseconds. -/
def tickAt (milliseconds : Nat) : Surroundings where
  players := some [(100, 5)]
  now := milliseconds * 1000000

theorem ticks_tickAt {milliseconds : Nat} (h : 0 < milliseconds) : Ticks 0 100 (tickAt milliseconds) :=
  ⟨Nat.mul_pos h (by decide), [(100, 5)], rfl, by decide, by decide⟩

theorem regenerates_fresh : Regenerates {} fresh 100 { oid := 1 } [tickAt 200, tickAt 400] 400000000 := by
  refine (regenerates_iff {} fresh 100 { oid := 1 } [tickAt 200] (tickAt 400) (by decide)
    ExtTreeMap.getElem?_insert_self ?_ (by decide) (by decide +kernel)).2 ⟨by decide, .inr (.inr (by decide))⟩
  exact List.forall_mem_cons.2 ⟨ticks_tickAt (by decide), List.forall_mem_singleton.2 (ticks_tickAt (by decide))⟩

/-- A tick after 300 ms cuts off 100 ms. -/
theorem tick_cuts_off : ¬Regenerates {} fresh 100 { oid := 1 } [tickAt 300, tickAt 400] 400000000 := by
  rintro ⟨after, hafter, hvalue⟩
  have hfilled : ((run (gaugeStep {}) fresh [tickAt 300, tickAt 400]).racers[(100 : Uid)]?).map
      Racer.starPointValue = some 1000 := by decide +kernel
  rw [hafter] at hfilled
  rw [Option.some.inj hfilled] at hvalue
  exact absurd hvalue (by decide +kernel)

end Alicia.Magic
