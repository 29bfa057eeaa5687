import Alicia.Data.Definitions

/-!
# The breeding registry

The parameters of the success roll, the bonus of a breeding, and the tables of the failure cards.
-/

namespace Alicia.Registry

open Data (Tid)

structure FailureCardProbEntry where
  moneySpent : UInt32 := 0
  probA : Int32 := 0
  probB : Int32 := 0
  probC : Int32 := 0

structure FailureCardGradeRange where
  grade : UInt32 := 0
  minId : UInt32 := 0
  maxId : UInt32 := 0

structure FailureCardReward where
  itemTid : Tid := 0
  itemCount : UInt32 := 0
  gameMoney : UInt32 := 0
  deriving DecidableEq

structure FailureCardTable where
  gradeRanges : List FailureCardGradeRange := []
  rewards : UInt32 → Option FailureCardReward := fun _ => none

/-- The parameters of the success roll and of the failure cards. -/
structure BreedingParams where
  successDecayPerBreeding : Int32 := 2
  minSuccessRate : Int32 := 4
  chanceCardChance : Int32 := 15

structure BreedingBonusBand where
  minGrade : UInt32 := 0
  maxGrade : UInt32 := 0
  activationChance : Int32 := 0

structure BreedingBonusEntry where
  id : UInt8 := 0
  /-- A bonus of type 0 is for the success rate, and one of type 1 for the grade of the foal. -/
  type : UInt8 := 0
  value : UInt8 := 0
  ratioSmall : Int32 := 0
  ratioBig : Int32 := 0

structure BreedingRegistry where
  failureCardProbs : List FailureCardProbEntry := []
  normalCard : FailureCardTable := {}
  chanceCard : FailureCardTable := {}
  params : BreedingParams := {}
  smallGradeBand : BreedingBonusBand := {}
  bigGradeBand : BreedingBonusBand := {}
  bonusEntries : List BreedingBonusEntry := []
  /-- `HorseRegistry::GetGradeInfo`, of which the success roll uses `pregnantValue`. -/
  pregnantValue : UInt32 → Option Int32 := fun _ => none

namespace BreedingRegistry

/-- The first entry for the money that was spent, or the last one.  The table is not empty. -/
def getFailureCardProb (registry : BreedingRegistry) (moneySpent : UInt32) : FailureCardProbEntry :=
  match registry.failureCardProbs.find? fun entry => moneySpent ≤ entry.moneySpent with
  | some entry => entry
  | none => registry.failureCardProbs.getLast?.getD {}

end BreedingRegistry

/-- `GetNormalCardGradeRange` and `GetChanceCardGradeRange`. -/
def FailureCardTable.getGradeRange (table : FailureCardTable) (grade : UInt32) :
    Option FailureCardGradeRange :=
  table.gradeRanges.find? fun range => range.grade = grade

end Alicia.Registry
