import Alicia.Data.Definitions
import Alicia.Transition.Effect
import Mathlib.Algebra.Order.Ring.Int
import Mathlib.Data.List.Basic

/-!
# The moderation of chat messages

What `ProcessChatMessage` says about a message: it is a command, its sender is muted, a word in it is
prevented, or it may be passed on.  The function is `noexcept`, so an exception in it ends the process.
-/

namespace Alicia.Chat

open Data
open Chrono (TimePoint Seconds)

/-- How a handler ends if it does not return. -/
inductive Failure where
  | thrown (what : String)
  | terminated
  /-- A list of records was used that the code did not get. -/
  | undefined
  deriving DecidableEq

/-! ## Words -/

/-- A word of the moderation; `occursIn` is `regex_search` with its expression. -/
structure Word where
  isPrevented : Bool
  occursIn : Text → Bool

/-- `ModerationSystem::Moderate`, for whether the message is prevented. -/
def moderate (input : Text) : List Word → Bool
  | [] => false
  | word :: words =>
    if !word.occursIn input then moderate input words
    else if !word.isPrevented then moderate input words
    else true

/-! ## Infractions -/

/-- `std::chrono::seconds::max()`. -/
def permanent : Seconds := 9223372036854775807

/-- `createdAt + duration`, which wraps. -/
def expiresAt (infraction : Infraction) : TimePoint :=
  ⟨infraction.createdAt.sinceEpoch + infraction.duration * 1000000000⟩

/-- Whether an infraction counts no more. -/
def isExpired (now : TimePoint) (infraction : Infraction) : Bool :=
  infraction.duration ≠ permanent && decide ((expiresAt infraction).sinceEpoch < now.sinceEpoch)

/-- `InfractionSystem::Verdict`, as far as it is asked for. -/
structure InfractionVerdict where
  mutedUntil : Option TimePoint := none
  preventServerJoining : Bool := false
  deriving DecidableEq

/-- What an infraction adds to the verdict. -/
def InfractionVerdict.add (now : TimePoint) (verdict : InfractionVerdict) (infraction : Infraction) :
    InfractionVerdict :=
  if isExpired now infraction then verdict
  else if infraction.punishment = .mute then { verdict with mutedUntil := some (expiresAt infraction) }
  else if infraction.punishment = .ban then { verdict with preventServerJoining := true }
  else verdict

/-- An infraction counts without a limit, or up to the end of its duration. -/
def Unexpired (now : TimePoint) (infraction : Infraction) : Prop :=
  infraction.duration = permanent ∨
    now.sinceEpoch.toInt ≤ infraction.createdAt.sinceEpoch.toInt + infraction.duration.toInt * 1000000000

instance (now : TimePoint) (infraction : Infraction) : Decidable (Unexpired now infraction) :=
  inferInstanceAs (Decidable (_ ∨ _))

/-! ## Messages -/

/-- An infraction of a user, and whether its record is available. -/
structure UserInfraction extends Infraction where
  available : Bool := true

/-- The rest of the server.  `answer` is the result of `ProcessCommandMessage`, if it does not throw. -/
structure World where
  now : TimePoint := .epoch
  words : List Word := []
  userName : Uid → Text := fun _ => []
  isOnline : Uid → Bool := fun _ => true
  userAvailable : Text → Bool := fun _ => true
  infractions : Text → List UserInfraction := fun _ => []
  answer : Uid → Text → Option (List Text) := fun _ _ => some []

namespace World

variable (world : World)

/-- `CheckOutstandingPunishments`, for the user of a character. -/
def checkOutstandingPunishments (userName : Text) : Except Failure InfractionVerdict :=
  if !world.userAvailable userName then
    .error (.thrown "Couldn't check outstanding infractions, user not available")
  else if (world.infractions userName).all (·.available) then
    .ok (((world.infractions userName).map UserInfraction.toInfraction).foldl
      (InfractionVerdict.add world.now) {})
  else .error .undefined

end World

end Alicia.Chat
