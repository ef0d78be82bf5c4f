import WebClient.Gateway.Call
import WebClient.Gateway.Headers
import WebClient.Url.Parse

/-!
# Wire — requests and answers

A call becomes a request when its path is put behind the base of the backend's API and the header is
built.  The backend is seen from outside only: what becomes of a request may depend on the request
and on all requests before it.
-/

namespace WebClient

/-- A request as it is sent. -/
structure Request where
  method : Method
  url : Url
  headers : Dict String
  body : String
  deriving Repr

/-- What becomes of a request. -/
inductive Outcome where
  /-- No answer arrived, or only a part of one. -/
  | dropped
  /-- An answer with a status and a body, read as text. -/
  | answered (status : Nat) (body : String)
  deriving DecidableEq, Repr

/-- A backend: what becomes of a request, given the requests before it, oldest first. -/
abbrev Backend := List Request → Request → Outcome

def Backend.unreachable : Backend := fun _ _ => .dropped

/-- The text of the URL that a path denotes below a base. -/
def endpoint (base path : String) : String :=
  if path.toList.head? = some '/' then base ++ path else base ++ "/" ++ path

/-- The request of a call, if its URL is one that requests can be made for. -/
def Call.request? (call : Call) (base : String) (token : Option String) : Option Request :=
  match Url.parse (endpoint base call.path) with
  | .error _ => none
  | .ok url =>
    if url.isHttp then
      some {
        method := call.method
        url
        headers := Headers.build call.headers token
        body := (call.body.map RequestBody.content).getD "" }
    else none

end WebClient
