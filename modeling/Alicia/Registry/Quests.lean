import Alicia.Data.Definitions

/-!
# The quest registry

The quests, their rewards, and the items for the points of a daily quest group.
-/

namespace Alicia.Registry

open Data (Tid)

/-- The underlying value of a `Quest::GameModeFlag`. -/
structure GameModeFlag where
  raw : UInt32
  deriving DecidableEq

namespace GameModeFlag
def none : GameModeFlag := ⟨0⟩
def any : GameModeFlag := ⟨111⟩
end GameModeFlag

/-- `Quest::Function`. -/
inductive QuestFunction where
  | unknown
  | true
  | runMap
  | teamWin
  | perfectJump
  | fireballAttack
  | collectDropItem
  | glidingDistanceValue
  | clearMission
  | prizeWinnerForLowLevel
  | prizeWinnerInMapForLowLevel
  deriving DecidableEq

/-- `registry::Quest`. -/
structure QuestTemplate where
  gameModeFlag : GameModeFlag := .none
  successValue : UInt32 := 0
  function : QuestFunction := .unknown
  functionValue : UInt32 := 0
  rewardId : UInt32 := 0
  rewardPoint : UInt32 := 0
  rewardExp : UInt32 := 0
  rewardGameMoney : UInt32 := 0

structure QuestRewardItem where
  tid : Tid
  count : UInt32
  deriving DecidableEq

structure QuestReward where
  carrots : UInt32 := 0
  items : List QuestRewardItem := []
  deriving DecidableEq

structure QuestRegistry where
  /-- `GetQuest`. -/
  quests : UInt32 → Option QuestTemplate := fun _ => none
  /-- `GetQuestReward`. -/
  rewards : UInt32 → Option QuestReward := fun _ => none
  /-- `GetQuestRewardPoints`, the items for each number of points. -/
  rewardPoints : List (UInt32 × List QuestRewardItem) := []

end Alicia.Registry
