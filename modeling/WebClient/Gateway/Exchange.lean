import WebClient.Client.World
import WebClient.Reply.Envelope

/-!
# Exchange — the one way to the backend

Every call carries the token of the moment.  Whatever becomes of it, the caller gets a `Reply`, and
the user is told what has to be told:

* data, and nothing is said;
* a failure on the way, always said;
* a refusal, said unless the call is quiet;
* missing or expired credentials: the session is cleared first, and its end is said once, by the
  call that cleared it.
-/

namespace WebClient

/-- The backend's API as the client knows it. -/
structure Gateway where
  /-- The URL that paths are put behind; it does not end in a slash. -/
  base : String
  convention : Convention
  deriving DecidableEq, Repr

namespace Gateway

def ofUrl (url : String) (convention : Convention) : Gateway :=
  ⟨Text.dropTrailing '/' url, convention⟩

def networkFailed : String := "network request failed"

def requestFailed : String := "request failed"

def loginRequired : String := "please log in first"

def sessionExpired : String := "your session has expired, please log in again"

def transportFailure : Activity World Reply := do
  toast .error networkFailed
  return .failure (.transport networkFailed)

/-- Deals with a call that was refused for want of valid credentials.  A call that carried a token
speaks only if it was the one that ended the session. -/
def handleUnauthorized (hadToken : Bool) : Activity World Reply := do
  let cleared ← clearSession
  let message := if hadToken then sessionExpired else loginRequired
  if cleared || !hadToken then toast .warning message
  return .failure (.unauthorized message)

def refusalMessage (failure : Failure) : String :=
  if Text.isAllBlank failure.message then requestFailed else failure.message

def handleRefusal (quiet : Bool) (failure : Failure) : Activity World Reply := do
  let message := refusalMessage failure
  if !quiet then toast .error message
  return .failure { failure with message }

/-- The reply in what became of a request; nothing if it cannot be understood. -/
def reply? (g : Gateway) : Outcome → Option Reply
  | .dropped => none
  | .answered status body => (g.convention.normalize status body).toOption

/-- Deals with what became of the request of a call. -/
def settle (g : Gateway) (quiet hadToken : Bool) (outcome : Outcome) : Activity World Reply :=
  match g.reply? outcome with
  | none => transportFailure
  | some (.success message data) => pure (.success message data)
  | some (.failure failure) =>
    if failure.isUnauthorized then handleUnauthorized hadToken else handleRefusal quiet failure

def call (g : Gateway) (call : Call) : Activity World Reply := do
  let token := (← currentSession).token?
  match call.request? g.base token with
  | none => transportFailure
  | some request =>
    let outcome ← Activity.send request
    g.settle call.quiet token.isSome outcome

def carryOut (g : Gateway) : Rendering → Workflow World (Except ViewError View)
  | .done result => pure result
  | .fetch calls next => .gather (calls.map g.call) fun replies => g.carryOut (next replies)

end Gateway
end WebClient
