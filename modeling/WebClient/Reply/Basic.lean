import WebClient.Json.Decode

/-!
# Reply — what a call to the backend comes to

Whatever way the backend words its answers, a call comes to one `Reply`: data, or a failure of one
of three kinds.
-/

namespace WebClient

open Json (Decoded Field)

/-- Why a call produced no data. -/
inductive FailureKind where
  /-- The backend was not reached, or its answer could not be understood. -/
  | transport
  /-- The backend refused the request. -/
  | application
  /-- The credentials are missing or no longer valid. -/
  | unauthorized
  deriving DecidableEq, Repr, Inhabited

namespace FailureKind

def name : FailureKind → String
  | .transport => "transport"
  | .application => "application"
  | .unauthorized => "unauthorized"

def title : FailureKind → String
  | .transport => "Transport"
  | .application => "Application"
  | .unauthorized => "Unauthorized"

def ofName? (name : String) : Option FailureKind :=
  match name with
  | "transport" => some .transport
  | "application" => some .application
  | "unauthorized" => some .unauthorized
  | _ => none

end FailureKind

/-- A call that produced no data. -/
structure Failure where
  kind : FailureKind
  /-- The code of the envelope or the HTTP status, when there is one. -/
  code : Option Int := none
  message : String
  deriving DecidableEq, Repr, Inhabited

namespace Failure

def unauthorizedCode : Int := 401

/-- A failure on the way to the backend or back. -/
def transport (message : String) : Failure := ⟨.transport, none, message⟩

def application (code : Option Int) (message : String) : Failure :=
  ⟨.application, code, message⟩

def unauthorized (message : String) : Failure := ⟨.unauthorized, some unauthorizedCode, message⟩

/-- Whether credentials are missing or no longer valid. -/
def isUnauthorized (f : Failure) : Bool := f.kind == .unauthorized

def display (f : Failure) : String := f.kind.title ++ ": " ++ f.message

def toJson (f : Failure) : Json :=
  .object <|
    [("kind", .string f.kind.name)] ++ (f.code.map fun code => ("code", Json.int code)).toList ++
      [("message", .string f.message)]

def decodeKind (value : Json) : Decoded FailureKind :=
  match value.string?.bind FailureKind.ofName? with
  | some kind => .ok kind
  | none => .error (.mismatch value "a failure kind")

def fields : List Field :=
  [.of "kind" decodeKind, .of "code" (Json.decodeOptional Json.decodeInt),
   .of "message" Json.decodeText]

def decode : Json → Decoded Failure
  | .object members => do
    Json.scan fields [] members
    let kind ← Json.required members "kind" decodeKind
    let code ← Json.optional members ["code"] (Json.decodeOptional Json.decodeInt) none
    let message ← Json.required members "message" Json.decodeText
    return { kind, code, message }
  | value => .error (.mismatch value "struct ApiFailure")

end Failure

/-- What a call comes to. -/
inductive Reply where
  | success (message : Option String) (data : Option Json)
  | failure (failure : Failure)
  deriving BEq, Repr, Inhabited

namespace Reply

def isSuccess : Reply → Bool
  | .success _ _ => true
  | .failure _ => false

/-- Whether the call was refused for want of valid credentials. -/
def isUnauthorized : Reply → Bool
  | .success _ _ => false
  | .failure f => f.isUnauthorized

def failure? : Reply → Option Failure
  | .success _ _ => none
  | .failure f => some f

def message? : Reply → Option String
  | .success message _ => message
  | .failure f => some f.message

def data? : Reply → Option Json
  | .success _ data => data
  | .failure _ => none

/-- The data of a successful call, `null` when the backend sent none. -/
def result : Reply → Except Failure Json
  | .success _ data => .ok (data.getD .null)
  | .failure f => .error f

/-- The data of a successful call, read by `decode`.  Data of another shape counts as a failure on
the way: the backend answered with something unexpected. -/
def decodeData {α : Type} (decode : Json → Decoded α) (reply : Reply) : Except Failure α :=
  match reply.result with
  | .error f => .error f
  | .ok value =>
    match decode value with
    | .ok data => .ok data
    | .error e => .error (.transport ("unexpected response payload: " ++ e.message))

end Reply
end WebClient
