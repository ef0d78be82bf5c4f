import WebClient.Text.Dict
import WebClient.Number.Binary64

/-!
# Json — JSON values

An integer that fits 64 bits, signed or unsigned, is an integer; every other number is a double.
The members of an object are a list.  In a *canonical* value that list is ascending by key without
repetition; a text read member by member, or a record written in the order of its fields, is a value
that need not be canonical.

* `canonical` sorts the members of every object; of two members with one key the later wins.
* `find?` reads a member; in a canonical value there is at most one.
-/

namespace WebClient

/-- A JSON value. -/
inductive Json where
  | null
  | bool (value : Bool)
  | int (value : Int)
  | float (value : Binary64)
  | string (value : String)
  | array (items : List Json)
  | object (members : List (String × Json))
  deriving BEq, Repr, Inhabited

namespace Json

def minInt64 : Int := -9223372036854775808

def maxInt64 : Int := 9223372036854775807

/-- Whether an integer is a signed 64-bit integer. -/
def isInt64 (n : Int) : Bool := minInt64 ≤ n && n ≤ maxInt64

mutual
/-- The value with the members of every object ascending by key, the later of two equal keys
winning. -/
def canonical : Json → Json
  | .array items => .array (canonicalItems items)
  | .object members => .object (Dict.ofList (canonicalMembers members))
  | other => other

def canonicalItems : List Json → List Json
  | [] => []
  | item :: rest => item.canonical :: canonicalItems rest

/-- Every member value made canonical, in the given order. -/
def canonicalMembers : List (String × Json) → List (String × Json)
  | [] => []
  | (key, value) :: rest => (key, value.canonical) :: canonicalMembers rest
end

def find? (value : Json) (key : String) : Option Json :=
  match value with
  | .object members => Dict.get? members key
  | _ => none

def string? : Json → Option String
  | .string s => some s
  | _ => none

def bool? : Json → Option Bool
  | .bool b => some b
  | _ => none

def int64? : Json → Option Int
  | .int n => if isInt64 n then some n else none
  | _ => none

def ofText? : Option String → Json
  | some s => .string s
  | none => .null

def ofInt? : Option Int → Json
  | some n => .int n
  | none => .null

def ofTexts (d : Dict String) : Json := .object (d.map fun (key, value) => (key, .string value))

end Json
end WebClient
