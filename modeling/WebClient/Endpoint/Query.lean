import WebClient.Gateway.Call
import WebClient.Text.Percent

/-!
# Query — paths with query parameters

Typed endpoints write their parameters into the query of the path.  Parameters that are absent are
left out, empty ones are kept.
-/

namespace WebClient
namespace Endpoint

/-- A path with a form-encoded query; without parameters the path alone. -/
def withQuery (path : String) (pairs : List (String × String)) : String :=
  if pairs.isEmpty then path else path ++ "?" ++ .ofList (Text.formQuery pairs)

def present (pairs : List (String × Option String)) : List (String × String) :=
  pairs.filterMap fun (name, value?) => value?.map fun value => (name, value)

def text (n : Int) : String := toString n

def object (members : List (String × Json)) : Json := .object (Dict.ofList members)

end Endpoint
end WebClient
