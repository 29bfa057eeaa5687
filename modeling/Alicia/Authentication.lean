import Alicia.Text

/-!
# The authentication service

Requests wait in a queue until the backend answers the first one; a verdict carries the user name
and not the token.  The token of a verdict is a history variable of the model: it is the token with
which the backend was asked, and the code does not keep it.
-/

namespace Alicia.Authentication

/-- A request for the backend. -/
structure Request where
  userName : Text
  userToken : Text
  deriving DecidableEq

structure Verdict where
  userName : Text
  isAuthenticated : Bool
  askedToken : Text
  deriving DecidableEq

structure Service where
  queue : List Request := []
  verdicts : List Verdict := []
  hasVerdicts : Bool := false
  deriving DecidableEq

namespace Service

/-- `QueueAuthentication`. -/
def queueAuthentication (service : Service) (userName userToken : Text) : Service :=
  { service with queue := service.queue ++ [⟨userName, userToken⟩] }

/-- The verdict on a request that the backend answered. -/
def verdictOn (request : Request) (answer : Bool) : Verdict :=
  ⟨request.userName, answer, request.userToken⟩

/-- `Tick`, for the backend's answer; without one the request stays at the front. -/
def tick (service : Service) (answer : Option Bool) : Service :=
  match service.queue, answer with
  | request :: rest, some isAuthenticated =>
    { queue := rest
      verdicts := service.verdicts ++ [verdictOn request isAuthenticated]
      hasVerdicts := true }
  | _, _ => service

/-- `PollAuthenticationVerdicts`, for the service that is left. -/
def poll (service : Service) : Service :=
  if service.verdicts = [] then service
  else { service with verdicts := [], hasVerdicts := false }

end Service

end Alicia.Authentication
