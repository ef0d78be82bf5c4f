import WebClient.Text.Quoted
import WebClient.Json.Printer

/-!
# Decode — reading records out of JSON values

A record is read from the members of an object.  Members are looked at in the order in which the
value holds them: a known field may appear once only, and its value must have the field's type.
Only then are missing fields reported, in the order of the record.

Some records may also be written as an array of their fields in order; then the first missing or
ill-typed item is reported, and at the end any item too many.
-/

namespace WebClient

/-- Why a value is not of the expected shape. -/
inductive DecodeError where
  | missingField (name : String)
  | duplicateField (name : String)
  /-- The value found, and what was expected instead. -/
  | mismatch (found : Json) (expected : String)
  | wrongLength (length : Nat) (expected : String)
  deriving BEq, Repr

namespace DecodeError

def describe : Json → String
  | .null => "null"
  | .bool b => if b then "boolean `true`" else "boolean `false`"
  | .int n => "integer `" ++ toString n ++ "`"
  | .float x => "floating point `" ++ String.ofList x.positional ++ "`"
  | .string s => "string " ++ Text.quote s
  | .array _ => "sequence"
  | .object _ => "map"

/-- An integer that only its size makes unfit is an invalid value, not of an invalid type. -/
def isOversized : Json → Bool
  | .int n => !Json.isInt64 n
  | _ => false

def message : DecodeError → String
  | .missingField name => "missing field `" ++ name ++ "`"
  | .duplicateField name => "duplicate field `" ++ name ++ "`"
  | .mismatch found expected =>
    let kind := if isOversized found && expected == "i64" then "value" else "type"
    "invalid " ++ kind ++ ": " ++ describe found ++ ", expected " ++ expected
  | .wrongLength length expected =>
    "invalid length " ++ toString length ++ ", expected " ++ expected

end DecodeError

namespace Json

abbrev Decoded (α : Type) := Except DecodeError α

def decodeInt (value : Json) : Decoded Int :=
  match value.int64? with
  | some n => .ok n
  | none => .error (.mismatch value "i64")

def decodeText (value : Json) : Decoded String :=
  match value.string? with
  | some s => .ok s
  | none => .error (.mismatch value "a string")

def decodeBool (value : Json) : Decoded Bool :=
  match value.bool? with
  | some b => .ok b
  | none => .error (.mismatch value "a boolean")

/-- Reads `null` as nothing, and any other value by `decode`. -/
def decodeOptional {α : Type} (decode : Json → Decoded α) : Json → Decoded (Option α)
  | .null => .ok none
  | value => (decode value).map some

/-! ## Records as objects -/

/-- A field of a record: its name, other names that it goes by, and the test of its value. -/
structure Field where
  name : String
  aliases : List String
  check : Json → Decoded Unit

/-- A field known by `name`, whose value `decode` reads. -/
def Field.of {α : Type} (name : String) (decode : Json → Decoded α)
    (aliases : List String := []) : Field :=
  ⟨name, aliases, fun value => (decode value).map fun _ => ()⟩

def Field.answersTo (f : Field) (key : String) : Bool := f.name == key || f.aliases.contains key

/-- Looks at members in order; `seen` holds the names of the fields met so far. -/
def scan (fields : List Field) : List String → List (String × Json) → Decoded Unit
  | _, [] => .ok ()
  | seen, (key, value) :: rest =>
    match fields.find? (·.answersTo key) with
    | none => scan fields seen rest
    | some f =>
      if seen.contains f.name then .error (.duplicateField f.name)
      else
        match f.check value with
        | .error e => .error e
        | .ok () => scan fields (f.name :: seen) rest

/-- The first member that denotes one of the names. -/
def member? (names : List String) (members : List (String × Json)) : Option Json :=
  (members.find? fun entry => names.contains entry.1).map (·.2)

def required {α : Type} (members : List (String × Json)) (name : String)
    (decode : Json → Decoded α) : Decoded α :=
  match member? [name] members with
  | some value => decode value
  | none => .error (.missingField name)

def optional {α : Type} (members : List (String × Json)) (names : List String)
    (decode : Json → Decoded α) (default : α) : Decoded α :=
  match member? names members with
  | some value => decode value
  | none => .ok default

def extras (fields : List Field) (members : List (String × Json)) : Dict Json :=
  Dict.ofList <| (members.filter fun entry => !fields.any (·.answersTo entry.1)).map
    fun (key, value) => (key, value.canonical)

/-! ## Records as arrays -/

/-- Reads the item at a position that has to be filled. -/
def itemAt {α : Type} (items : List Json) (index : Nat) (expected : String)
    (decode : Json → Decoded α) : Decoded α :=
  match items[index]? with
  | some value => decode value
  | none => .error (.wrongLength index expected)

/-- Reads the item at a position that may be missing. -/
def itemAt? {α : Type} (items : List Json) (index : Nat) (decode : Json → Decoded α)
    (default : α) : Decoded α :=
  match items[index]? with
  | some value => decode value
  | none => .ok default

/-- Refuses more items than a record has fields. -/
def noMoreThan (items : List Json) (count : Nat) : Decoded Unit :=
  if items.length ≤ count then .ok ()
  else .error (.wrongLength items.length "fewer elements in array")

end Json
end WebClient
