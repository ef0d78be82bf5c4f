import WebClient.Router.State

/-!
# Event — what the client tells whatever draws it

Events are published in order: messages to the user, changes of the login, changes of the page, and
redirects.
-/

namespace WebClient

/-- The weight of a message to the user. -/
inductive ToastLevel where
  | info
  | success
  | warning
  | error
  deriving DecidableEq, Repr

def ToastLevel.name : ToastLevel → String
  | .info => "info"
  | .success => "success"
  | .warning => "warning"
  | .error => "error"

/-- An event. -/
inductive Event where
  /-- A passing message to the user. -/
  | toast (level : ToastLevel) (message : String)
  /-- The login changed. -/
  | sessionChanged (authenticated : Bool) (username : Option String)
  /-- The page changed. -/
  | viewChanged (view : ViewState)
  | redirected (source target : String)
  deriving BEq, Repr

namespace Event

def ofSession (session : Session) : Event := .sessionChanged session.isSome session.username?

def toJson : Event → Json
  | .toast level message =>
    .object [("event", .string "toast"), ("level", .string level.name),
      ("message", .string message)]
  | .sessionChanged authenticated username =>
    .object [("event", .string "session_changed"), ("authenticated", .bool authenticated),
      ("username", Json.ofText? username)]
  | .viewChanged view => .object [("event", .string "view_changed"), ("view", view.toJson)]
  | .redirected source target =>
    .object [("event", .string "redirected"), ("from", .string source), ("to", .string target)]

end Event
end WebClient
