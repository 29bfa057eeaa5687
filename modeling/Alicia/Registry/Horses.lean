import Alicia.Data.Definitions
import Mathlib.Data.Rat.Defs

/-!
# The horse registry: progression

A horse rises in class by the experience of its races, and its potential grows with the class.
-/

namespace Alicia.Registry

open Data (Horse)

structure LevelUpPoints where
  base : Int32 := 6650
  exp10 : Int32 := 13250
  exp20 : Int32 := 16550

/-- The experience for a level from level 1 on.  Levels 1 to 10 cost `base`, 11 to 20 cost `exp10`, and 21 to 30
cost `exp20`. -/
def LevelUpPoints.getCumulativeClassExp (points : LevelUpPoints) (level : UInt32) : UInt32 :=
  if level ≤ 1 then 0
  else
    let base := points.base.toUInt32
    let exp10 := points.exp10.toUInt32
    let exp20 := points.exp20.toUInt32
    let transitions := level - 1
    let total := min transitions 10 * base
    let total := if 10 < transitions then total + min (transitions - 10) 10 * exp10 else total
    if 20 < transitions then total + (transitions - 20) * exp20 else total

def maxClass : UInt32 := 30

/-- The growth points for a level: `level == MaxClass ? 2 : 1`. -/
def levelGrowthPoints (level : UInt32) : UInt32 := if level = maxClass then 2 else 1

/-- The loop of `ApplyClassProgress`: the level and the growth points after it. -/
def LevelUpPoints.advance (points : LevelUpPoints) (clazzProgress level growthPoints : UInt32) : UInt32 × UInt32 :=
  if level < maxClass ∧ points.getCumulativeClassExp (level + 1) ≤ clazzProgress then
    points.advance clazzProgress (level + 1) (growthPoints + levelGrowthPoints (level + 1))
  else (level, growthPoints)
termination_by (maxClass - level).toNat
decreasing_by
  have hlevel : level.toNat < 30 := UInt32.lt_iff_toNat_lt.1 (by rename_i h; exact h.1)
  have hmax : maxClass.toNat = 30 := rfl
  have hone : (1 : UInt32).toNat = 1 := rfl
  rw [UInt32.toNat_sub, UInt32.toNat_sub, UInt32.toNat_add, hmax, hone]
  omega

def LevelUpPoints.applyClassProgress (points : LevelUpPoints) (horse : Horse) (gainedExp : UInt32) : Horse :=
  let level := max horse.clazz 1
  if maxClass ≤ level then horse
  else
    let clazzProgress := horse.clazzProgress + gainedExp
    let (clazz, growthPoints) := points.advance clazzProgress level horse.growthPoints
    { horse with clazzProgress := clazzProgress, clazz := clazz, growthPoints := growthPoints }

/-! ## Potential -/

structure PotentialGrowth where
  type : UInt32 := 0
  weights : Vector ℚ 10

structure PotentialLevel where
  level : UInt32 := 0
  /-- The class progress that this level takes. -/
  requiredClassProgression : UInt32 := 0

structure HorseRegistry where
  /-- By the type, in the order of the map. -/
  potentialGrowth : List (UInt32 × PotentialGrowth) := []
  potentialLevels : List PotentialLevel := []

def maxTransitionLevel : UInt32 := 10

def maxPotentialValue : UInt32 := 100

def maxPotentialPoints : UInt32 := 15

/-- The raffle of each level: the number of the ticket that is drawn, which is a number of one of its weights. -/
structure Raffle where
  draw : UInt32 → List ℚ → Nat
  draw_lt : ∀ level weights, weights ≠ [] → draw level weights < weights.length

namespace HorseRegistry

variable (registry : HorseRegistry)

def targetLevel (clazzProgress : UInt32) : UInt32 :=
  registry.potentialLevels.foldl (fun targetLevel potentialLevel =>
    if potentialLevel.requiredClassProgression ≤ clazzProgress then max targetLevel potentialLevel.level
    else targetLevel) 1

/-- The tickets of a raffle: the points and the weight of every growth type that is not too large.  `none` is a
read outside the columns. -/
def tickets (columnIndex : Nat) : Option (List (UInt32 × ℚ)) :=
  (registry.potentialGrowth.filter fun entry => entry.1 ≤ maxPotentialPoints).mapM fun entry =>
    (entry.2.weights[columnIndex]?).map fun weight => (entry.1, weight)

/-- The points of the ticket that is drawn on the way from a level to the next. -/
def drawnPoints (raffle : Raffle) (level : UInt32) : Option UInt32 :=
  (registry.tickets (level - 1).toNat).bind fun tickets =>
    (tickets.map Prod.fst)[raffle.draw level (tickets.map Prod.snd)]?

/-- The loop of `ApplyPotentialGrowth`: the level and the points after it. -/
def growLevels (raffle : Raffle) (targetLevel level gainedPoints : UInt32) : Option (UInt32 × UInt32) :=
  if level < targetLevel ∧ level ≤ maxTransitionLevel then do
    let points ← registry.drawnPoints raffle level
    growLevels raffle targetLevel (level + 1) (gainedPoints + points)
  else some (level, gainedPoints)
termination_by (11 - level).toNat
decreasing_by
  have hlevel : level.toNat ≤ 10 := UInt32.le_iff_toNat_le.1 (by rename_i h; exact h.2)
  have heleven : (11 : UInt32).toNat = 11 := rfl
  have hone : (1 : UInt32).toNat = 1 := rfl
  rw [UInt32.toNat_sub, UInt32.toNat_sub, UInt32.toNat_add, heleven, hone]
  omega

/-- The points that are gained, and the horse. -/
def applyPotentialGrowth (raffle : Raffle) (horse : Horse) : Option (UInt32 × Horse) :=
  if horse.potential.type = 0 then some (0, horse)
  else do
    let (level, gainedPoints) ← registry.growLevels raffle (registry.targetLevel horse.clazzProgress)
      (max horse.potential.level 1) 0
    if gainedPoints = 0 then return (0, horse)
    else
      return (gainedPoints, { horse with potential := { horse.potential with
        value := min (horse.potential.value + gainedPoints) maxPotentialValue
        level := level } })

end HorseRegistry

end Alicia.Registry
