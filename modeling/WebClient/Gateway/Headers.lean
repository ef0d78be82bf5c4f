import WebClient.Text.Blank
import WebClient.Text.Dict

/-!
# Headers — the header fields of a call

Every call says that it sends JSON, unless the caller says otherwise, and carries the token of the
session.  A caller cannot set the credentials: a field called `authorization`, in any letter case,
is skipped.  A field whose name or value cannot stand in a header is skipped as a whole.
-/

namespace WebClient
namespace Headers

def isNameChar (c : Char) : Bool :=
  c.isAlphanum || "!#$%&'*+-.^_|~".toList.contains c || c.toNat == 0x60

/-- Whether a text is a header name: a non-empty HTTP token. -/
def isName (name : String) : Bool := !name.toList.isEmpty && name.toList.all isNameChar

/-- The characters of a header value: no control characters but the tab. -/
def isValueChar (c : Char) : Bool := c == '\t' || (0x20 ≤ c.toNat && c.toNat != 0x7F)

def isValue (value : String) : Bool := value.toList.all isValueChar

/-- The name of the field that carries the credentials. -/
def authorization : String := "authorization"

def base : Dict String := [("content-type", "application/json")]

def add (fields : Dict String) (field : String × String) : Dict String :=
  let name := Text.lowerAscii field.1
  if name = authorization then fields
  else if isName field.1 && isValue field.2 then Dict.put name field.2 fields
  else fields

def bearer (token : String) : String := "Bearer " ++ token

/-- Adds the credentials of a token, if they can stand in a header. -/
def addToken (fields : Dict String) : Option String → Dict String
  | none => fields
  | some token =>
    if isValue (bearer token) then Dict.put authorization (bearer token) fields else fields

/-- The header of a call: names in lower case with their values. -/
def build (callerFields : List (String × String)) (token : Option String) : Dict String :=
  addToken (callerFields.foldl add base) token

end Headers
end WebClient
