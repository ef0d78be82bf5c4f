import WebClient.Json.Printer

/-!
# Call — what a page asks of the backend

A call names a path below the base of the backend's API, and says how to ask.
-/

namespace WebClient

/-- The HTTP methods that the client uses. -/
inductive Method where
  | get
  | post
  | put
  | delete
  deriving DecidableEq, Repr, Inhabited

/-- What a call sends along. -/
inductive RequestBody where
  /-- Sent as compact JSON text. -/
  | json (value : Json)
  /-- Sent as it is. -/
  | text (content : String)
  deriving BEq, Repr

def RequestBody.content : RequestBody → String
  | .json value => value.compact
  | .text content => content

/-- A call of the backend. -/
structure Call where
  path : String
  method : Method := .get
  body : Option RequestBody := none
  headers : List (String × String) := []
  /-- Whether a refusal by the backend goes without a message to the user. -/
  quiet : Bool := false
  deriving BEq, Repr

namespace Call

def get (path : String) : Call := { path }

def post (path : String) (value : Json) : Call :=
  { path, method := .post, body := some (.json value) }

def put (path : String) (value : Json) : Call :=
  { path, method := .put, body := some (.json value) }

def delete (path : String) : Call := { path, method := .delete }

def bare (method : Method) (path : String) : Call := { path, method }

def silent (call : Call) : Call := { call with quiet := true }

end Call
end WebClient
