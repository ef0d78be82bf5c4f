import WebClient.Text.Blank
import WebClient.Json.Reader
import WebClient.Reply.Basic

/-!
# Envelope — the two ways in which backends word their answers

One family of backends answers `{success, message?, data?}`, the other `{code, message?, data?}`
with 200 for success and 401 for missing credentials.  A client either speaks one convention or
decides for each answer by the fields present.

`normalize` maps an HTTP answer to a `Reply`; an answer that is no envelope is an error, except that
a body that is no JSON under status 401 still means missing credentials.
-/

namespace WebClient

open Json (Decoded Field)

/-- The wording that a client expects of its backend. -/
inductive Convention where
  /-- `{success, message?, data?}` -/
  | successFlag
  /-- `{code, message?, data?}` -/
  | statusCode
  /-- Decide for each answer. -/
  | auto
  deriving DecidableEq, Repr, Inhabited

namespace Convention

def name : Convention → String
  | .successFlag => "success_flag"
  | .statusCode => "status_code"
  | .auto => "auto"

def ofName? (name : String) : Option Convention :=
  match name with
  | "success_flag" => some .successFlag
  | "status_code" => some .statusCode
  | "auto" => some .auto
  | _ => none

/-- Reads a convention as people write it: blanks around it, its case, hyphens for underscores and
the short names do not matter.  On failure the text is returned in the form that was looked up. -/
def parse (text : String) : Except String Convention :=
  let tidy := (Text.lowerAscii (Text.trim text)).map fun c => if c = '-' then '_' else c
  match tidy with
  | "success_flag" | "success" | "a" => .ok .successFlag
  | "status_code" | "code" | "b" => .ok .statusCode
  | "auto" => .ok .auto
  | other => .error other

/-- What is said about a text that names no convention. -/
def unknownMessage (tidy : String) : String := "unknown response convention '" ++ tidy ++ "'"

end Convention

/-- Why a body is no envelope. -/
inductive EnvelopeError where
  | invalidJson
  | notAnObject
  | unknownEnvelope
  /-- The field that the convention asks for is missing, or some field has the wrong type. -/
  | missingField (expected : String)
  deriving DecidableEq, Repr

namespace EnvelopeError

def message : EnvelopeError → String
  | .invalidJson => "response body is not valid JSON"
  | .notAnObject => "response body is not a JSON object"
  | .unknownEnvelope => "response envelope has neither a `success` flag nor a numeric `code`"
  | .missingField expected => "expected a `" ++ expected ++ "` field in the response envelope"

end EnvelopeError

namespace Envelope

def successCode : Int := 200

def decodeAny (value : Json) : Decoded Json := .ok value

/-- The fields of an envelope that starts with `lead`. -/
def fields (lead : Field) : List Field :=
  [lead, .of "message" (Json.decodeOptional Json.decodeText),
   .of "data" (Json.decodeOptional decodeAny)]

/-- The parts of an envelope: its leading field, message and data. -/
structure Parts (α : Type) where
  lead : α
  message : Option String
  data : Option Json

/-- Reads an envelope whose leading field is called `name`. -/
def decodeParts {α : Type} (name : String) (decode : Json → Decoded α)
    (members : List (String × Json)) : Decoded (Parts α) := do
  Json.scan (fields (.of name decode)) [] members
  let lead ← Json.required members name decode
  let message ← Json.optional members ["message"] (Json.decodeOptional Json.decodeText) none
  let data ← Json.optional members ["data"] (Json.decodeOptional decodeAny) none
  return { lead, message, data }

/-- The reply in an envelope with a success flag.  A failure's code is the HTTP status, unless that
says success. -/
def ofSuccessFlag (status : Nat) (members : List (String × Json)) : Except EnvelopeError Reply :=
  match decodeParts "success" Json.decodeBool members with
  | .error _ => .error (.missingField "success")
  | .ok parts =>
    let message := parts.message.getD ""
    if parts.lead then .ok (.success parts.message parts.data)
    else if (status : Int) = Failure.unauthorizedCode then .ok (.failure (.unauthorized message))
    else
      let code : Option Int := if 200 ≤ status && status < 300 then none else some status
      .ok (.failure (.application code message))

/-- The reply in an envelope with a status code. -/
def ofStatusCode (members : List (String × Json)) : Except EnvelopeError Reply :=
  match decodeParts "code" Json.decodeInt members with
  | .error _ => .error (.missingField "code")
  | .ok parts =>
    let message := parts.message.getD ""
    if parts.lead = successCode then .ok (.success parts.message parts.data)
    else if parts.lead = Failure.unauthorizedCode then .ok (.failure (.unauthorized message))
    else .ok (.failure (.application (some parts.lead) message))

/-- The convention that an object follows: a Boolean `success` decides before an integral `code`. -/
def detect? (members : List (String × Json)) : Option Convention :=
  if ((Dict.get? members "success").bind Json.bool?).isSome then some .successFlag
  else if ((Dict.get? members "code").bind Json.int64?).isSome then some .statusCode
  else none

end Envelope

namespace Convention

def read (convention : Convention) (status : Nat) (members : List (String × Json)) :
    Except EnvelopeError Reply :=
  match convention with
  | .successFlag => Envelope.ofSuccessFlag status members
  | .statusCode => Envelope.ofStatusCode members
  | .auto =>
    match Envelope.detect? members with
    | some .successFlag => Envelope.ofSuccessFlag status members
    | some .statusCode => Envelope.ofStatusCode members
    | _ => .error .unknownEnvelope

def normalize (convention : Convention) (status : Nat) (body : String) :
    Except EnvelopeError Reply :=
  match Json.parse? body with
  | none =>
    if (status : Int) = Failure.unauthorizedCode then
      .ok (.failure (.unauthorized (Text.trim body)))
    else .error .invalidJson
  | some (.object members) => convention.read status members
  | some _ => .error .notAnObject

end Convention
end WebClient
