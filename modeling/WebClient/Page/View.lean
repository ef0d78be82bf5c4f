import WebClient.Account.Basic
import WebClient.Gateway.Call
import WebClient.Reply.Basic

/-!
# View — pages, and how they come about

A page turns the place that a route matched into a `View`: a structured description that whatever
draws the client renders.  On its way a page may call the backend, several calls at a time; that is
the only thing it can do, so a page is a `Rendering`: a result, or calls and what follows from their
replies.
-/

namespace WebClient

/-- The structured description of a page. -/
structure View where
  kind : String
  title : String
  data : Json := .object []
  deriving BEq, Repr, Inhabited

def View.toJson (v : View) : Json :=
  .object [("kind", .string v.kind), ("title", .string v.title), ("data", v.data)]

/-- Why a page has no view. -/
inductive ViewError where
  | unauthorized
  | api (failure : Failure)
  | missingParam (name : String)
  deriving DecidableEq, Repr

namespace ViewError

def message : ViewError → String
  | .unauthorized => "login required"
  | .api failure => failure.message
  | .missingParam name => "missing route parameter `" ++ name ++ "`"

def ofFailure (failure : Failure) : ViewError :=
  if failure.isUnauthorized then .unauthorized else .api failure

end ViewError

/-- What a page is told. -/
structure PageContext where
  path : String
  /-- The captures of the route. -/
  params : Dict String
  /-- The query parameters of the location. -/
  query : Dict String
  /-- The session at the time when the route was checked. -/
  session : Session

namespace PageContext

def param (ctx : PageContext) (name : String) : Except ViewError String :=
  match Dict.get? ctx.params name with
  | some value => .ok value
  | none => .error (.missingParam name)

def lookup (ctx : PageContext) (name : String) : Option String :=
  (Dict.get? ctx.params name).or (Dict.get? ctx.query name)

end PageContext

/-- A page in the making: finished, or waiting for the replies to calls that are made together. -/
inductive Rendering where
  | done (result : Except ViewError View)
  | fetch (calls : List Call) (next : List Reply → Rendering)

abbrev Page := PageContext → Rendering

end WebClient
