import Alicia.Data.Director
import Alicia.Transition.Run

/-!
# The reward system

`CreateReward` creates the record of a reward.  `ClaimReward` reads the reward, grants its carrots and marks it as claimed.  Each of these accesses
locks its record for itself, so calls of several threads interleave between them.  `claimReward` is
the call alone, and `Call.advance` one of its accesses.
-/

namespace Alicia.Reward

open Transition Effect Data
open Chrono (TimePoint)
open DataDirector (characterStorage rewardStorage)

/-- `RewardSystem::CreateReward`: the uid of the claim, and the records afterwards. -/
def createReward (created : Option Uid) (now : TimePoint) (characterUid : Uid) (type : RewardType)
    (carrots : UInt32) (data : DataDirector) : Uid × DataDirector :=
  match rewardStorage.fresh created data with
  | none => (invalidUid, data)
  | some uid =>
    (uid, rewardStorage.write uid
      { claimUid := uid, characterUid := characterUid, type := type, carrots := carrots,
        createdAt := now } data)

/-- Which records a call finds, and the time of the claim. -/
structure ClaimLookups where
  reward : Bool := true
  character : Bool := true
  rewardAgain : Bool := true
  now : TimePoint := .epoch

/-- Grant the carrots of a reward. -/
def grantCarrots (carrots : UInt32) (character : Character) : Character :=
  { character with carrots := character.carrots + carrots.toInt32 }

/-- Update the status of a reward. -/
def markClaimed (now : TimePoint) (reward : Data.Reward) : Data.Reward :=
  { reward with isClaimed := true, claimedAt := now }

/-- `RewardSystem::ClaimReward`. -/
def claimReward (lookups : ClaimLookups) (claimUid characterUid : Uid) :
    Effect DataDirector String Bool := do
  if claimUid = invalidUid ∨ characterUid = invalidUid then
    return false
  match rewardStorage.find lookups.reward claimUid (← get) with
  | none => return false
  | some reward =>
  if reward.isClaimed then
    return false
  if reward.characterUid ≠ characterUid then
    return false
  if reward.carrots > 0 then
    match characterStorage.find lookups.character characterUid (← get) with
    | none => return false
    | some character =>
      modify (characterStorage.write characterUid (grantCarrots reward.carrots character))
      rewardStorage.mutable lookups.rewardAgain claimUid (markClaimed lookups.now)
      return true
  else
    rewardStorage.mutable lookups.rewardAgain claimUid (markClaimed lookups.now)
    return true

/-! ## One access at a time -/

/-- How far a call is. -/
inductive Phase where
  | called
  /-- The reward was found to be claimable, and has carrots. -/
  | granting (carrots : UInt32)
  /-- The carrots are granted, or there are none. -/
  | marking
  | returned (claimed : Bool)
  | thrown (what : String)
  deriving DecidableEq

/-- A call of `ClaimReward`. -/
structure Call where
  claimUid : Uid
  characterUid : Uid
  phase : Phase := .called
  deriving DecidableEq

/-- The checks, up to the access to the reward. -/
def checkReward (available : Bool) (claimUid characterUid : Uid) (data : DataDirector) : Phase :=
  if claimUid = invalidUid ∨ characterUid = invalidUid then .returned false
  else
    match rewardStorage.find available claimUid data with
    | none => .returned false
    | some reward =>
      if reward.isClaimed then .returned false
      else if reward.characterUid ≠ characterUid then .returned false
      else if reward.carrots > 0 then .granting reward.carrots
      else .marking

/-- The next access of a call, at the time `now`: its phase and the records afterwards. -/
def Call.advance (available : Bool) (now : TimePoint) (call : Call) (data : DataDirector) :
    Phase × DataDirector :=
  match call.phase with
  | .called => (checkReward available call.claimUid call.characterUid data, data)
  | .granting carrots =>
    match characterStorage.find available call.characterUid data with
    | none => (.returned false, data)
    | some character =>
      (.marking, characterStorage.write call.characterUid (grantCarrots carrots character) data)
  | .marking =>
    match rewardStorage.find available call.claimUid data with
    | none => (.thrown "Value of the record is unavailable", data)
    | some reward => (.returned true, rewardStorage.write call.claimUid (markClaimed now reward) data)
  | .returned claimed => (.returned claimed, data)
  | .thrown what => (.thrown what, data)

/-- How a call ends that no other call interrupts. -/
def Call.finish (lookups : ClaimLookups) (call : Call) (data : DataDirector) : Phase × DataDirector :=
  let checked := call.advance lookups.reward lookups.now data
  match checked.1 with
  | .granting carrots =>
    let granted := { call with phase := .granting carrots }.advance lookups.character lookups.now data
    { call with phase := granted.1 }.advance lookups.rewardAgain lookups.now granted.2
  | phase => { call with phase := phase }.advance lookups.rewardAgain lookups.now data

/-- The phase of a call that ended. -/
def phaseOf (result : EStateM.Result String DataDirector Bool) : Phase × DataDirector :=
  match result with
  | .ok claimed data => (.returned claimed, data)
  | .error what data => (.thrown what, data)

/-- The accesses of a call, one after the other, are the call. -/
theorem finish_eq (lookups : ClaimLookups) (claimUid characterUid : Uid) (data : DataDirector) :
    Call.finish lookups ⟨claimUid, characterUid, .called⟩ data =
      phaseOf (claimReward lookups claimUid characterUid data) := by
  rw [Call.finish, claimReward]
  dsimp only [Call.advance]
  rw [checkReward]
  by_cases hinvalid : claimUid = invalidUid ∨ characterUid = invalidUid
  · rw [if_pos hinvalid, if_pos hinvalid]
    rfl
  rw [if_neg hinvalid, if_neg hinvalid, bind_apply, get_apply]
  dsimp only
  cases hreward : rewardStorage.find lookups.reward claimUid data with
  | none => rfl
  | some reward =>
    dsimp only
    by_cases hclaimed : reward.isClaimed = true
    · rw [if_pos hclaimed, if_pos hclaimed]
      rfl
    rw [if_neg hclaimed, if_neg hclaimed]
    by_cases htarget : reward.characterUid ≠ characterUid
    · rw [if_pos htarget, if_pos htarget]
      rfl
    rw [if_neg htarget, if_neg htarget]
    by_cases hcarrots : reward.carrots > 0
    · rw [if_pos hcarrots, if_pos hcarrots, bind_apply, get_apply]
      dsimp only
      cases characterStorage.find lookups.character characterUid data with
      | none => rfl
      | some character =>
        dsimp only
        rw [bind_apply, modify_apply]
        dsimp only
        rw [bind_apply, Storage.mutable_apply]
        cases rewardStorage.find lookups.rewardAgain claimUid (characterStorage.write characterUid
          (grantCarrots reward.carrots character) data) <;> rfl
    · rw [if_neg hcarrots, if_neg hcarrots, bind_apply, Storage.mutable_apply]
      dsimp only
      cases rewardStorage.find lookups.rewardAgain claimUid data <;> rfl

/-! ## Many calls -/

/-- Carrots that were added to a character. -/
structure Grant where
  claimUid : Uid
  characterUid : Uid
  carrots : UInt32
  deriving DecidableEq

/-- The records, and the calls of all threads so far.  The last two fields are the history: the
records at the start, and the carrots that were added since. -/
structure World where
  data : DataDirector
  calls : List Call := []
  start : DataDirector
  grants : List Grant := []

def World.opened (data : DataDirector) : World := { data := data, start := data }

/-- A thread calls `ClaimReward`, or the scheduler lets a call make its next access. -/
inductive Input where
  | call (claimUid characterUid : Uid)
  | advance (index : Nat) (available : Bool) (now : TimePoint)

/-- The carrots that the next access of a call adds. -/
def granted (available : Bool) (call : Call) (data : DataDirector) : List Grant :=
  match call.phase with
  | .granting carrots =>
    if (characterStorage.find available call.characterUid data).isSome then
      [⟨call.claimUid, call.characterUid, carrots⟩]
    else []
  | _ => []

def step (world : World) : Input → World
  | .call claimUid characterUid => { world with calls := world.calls ++ [⟨claimUid, characterUid, .called⟩] }
  | .advance index available now =>
    match world.calls[index]? with
    | none => world
    | some call =>
      let next := call.advance available now world.data
      { world with
        data := next.2
        calls := world.calls.set index { call with phase := next.1 }
        grants := granted available call world.data ++ world.grants }

end Alicia.Reward
