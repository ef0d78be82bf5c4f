import WebClient.Text.Hex
import WebClient.Json.Number

/-!
# Reader — JSON texts

`read?` reads a whole text into a value that keeps the members of objects as written, repeated keys
included; `parse?` makes that value canonical.  Arrays and objects may be nested 127 deep.

Readers take a character list and return what they read with the rest, or nothing.
Nesting is bounded by the first argument of `value?`, so it is the structural argument; loops over
items run on the length of the rest.
-/

namespace WebClient
namespace Json

/-- A character list without the blanks that JSON allows between tokens. -/
def skipBlanks : List Char → List Char :=
  List.dropWhile fun c => c == ' ' || c == '\n' || c == '\t' || c == '\r'

/-! ## Strings -/

/-- The code unit that four hexadecimal digits denote. -/
def codeUnit? (a b c d : Char) : Option Nat := do
  let high := (← Text.hexValue? a) * 16 + (← Text.hexValue? b)
  let low := (← Text.hexValue? c) * 16 + (← Text.hexValue? d)
  some (high * 256 + low)

/-- The character that a one-letter escape stands for. -/
def shortEscape? (c : Char) : Option Char :=
  match c with
  | '"' => some '"'
  | '\\' => some '\\'
  | '/' => some '/'
  | 'b' => some '\x08'
  | 'f' => some '\x0c'
  | 'n' => some '\n'
  | 'r' => some '\r'
  | 't' => some '\t'
  | _ => none

/-- Whether a code unit is the first half of a surrogate pair. -/
def isHighHalf (unit : Nat) : Bool := 0xD800 ≤ unit && unit < 0xDC00

/-- Whether a code unit is the second half of a surrogate pair. -/
def isLowHalf (unit : Nat) : Bool := 0xDC00 ≤ unit && unit < 0xE000

/-- The character that a surrogate pair denotes. -/
def ofHalves (high low : Nat) : Char :=
  Char.ofNat (0x10000 + (high - 0xD800) * 0x400 + (low - 0xDC00))

/-- Reads a string after its opening quote.  `acc` holds the characters read so far, last first.
A lone surrogate half and an unescaped control character are refused. -/
def stringBody? (acc : List Char) : List Char → Option (String × List Char)
  | [] => none
  | '"' :: rest => some (String.ofList acc.reverse, rest)
  | '\\' :: 'u' :: a :: b :: c :: d :: rest =>
    match codeUnit? a b c d with
    | none => none
    | some unit =>
      if isLowHalf unit then none
      else if isHighHalf unit then
        match rest with
        | '\\' :: 'u' :: e :: f :: g :: h :: rest' =>
          match codeUnit? e f g h with
          | none => none
          | some low =>
            if isLowHalf low then stringBody? (ofHalves unit low :: acc) rest' else none
        | _ => none
      else stringBody? (Char.ofNat unit :: acc) rest
  | '\\' :: c :: rest =>
    match shortEscape? c with
    | none => none
    | some d => stringBody? (d :: acc) rest
  | c :: rest => if c.toNat < 0x20 || c == '\\' then none else stringBody? (c :: acc) rest

/-! ## Numbers -/

/-- The decimal digits at the front of a character list, and the rest. -/
def digits (cs : List Char) : List Nat × List Char :=
  ((cs.takeWhile Char.isDigit).map fun c => c.toNat - 0x30, cs.dropWhile Char.isDigit)

/-- Reads the digits before the point: a lone zero, or digits that do not begin with one. -/
def whole? (cs : List Char) : Option (List Nat × List Char) :=
  match digits cs with
  | ([], _) => none
  | ([0], rest) => some ([0], rest)
  | (0 :: _ :: _, _) => none
  | (ds, rest) => some (ds, rest)

def fraction? : List Char → Option (List Nat × List Char)
  | '.' :: rest =>
    match digits rest with
    | ([], _) => none
    | (ds, rest') => some (ds, rest')
  | cs => some ([], cs)

def exponentSign : List Char → Bool × List Char
  | '+' :: rest => (false, rest)
  | '-' :: rest => (true, rest)
  | cs => (false, cs)

def exponent? (cs : List Char) : Option (Option (Bool × List Nat) × List Char) :=
  match cs with
  | [] => some (none, [])
  | c :: rest =>
    if c == 'e' || c == 'E' then
      let (negative, after) := exponentSign rest
      match digits after with
      | ([], _) => none
      | (ds, rest') => some (some (negative, ds), rest')
    else some (none, cs)

def number? (negative : Bool) (cs : List Char) : Option (Json × List Char) := do
  let (whole, rest) ← whole? cs
  let (fraction, rest) ← fraction? rest
  let (exponent, rest) ← exponent? rest
  let value ← Literal.value? ⟨negative, whole, fraction, exponent⟩
  some (value, rest)

/-! ## Values -/

def word? (word : List Char) (cs : List Char) : Option (List Char) :=
  if word.isPrefixOf cs then some (cs.drop word.length) else none

/-- Reads the items of an array after one item has been read: a comma and an item, or the end. -/
def moreItems? (item? : List Char → Option (Json × List Char)) :
    Nat → List Json → List Char → Option (Json × List Char)
  | 0, _, _ => none
  | fuel + 1, acc, cs =>
    match skipBlanks cs with
    | ']' :: rest => some (.array acc.reverse, rest)
    | ',' :: rest =>
      match item? (skipBlanks rest) with
      | none => none
      | some (item, rest') => moreItems? item? fuel (item :: acc) rest'
    | _ => none

/-- Reads one member: a key, a colon and a value. -/
def oneMember? (item? : List Char → Option (Json × List Char)) (cs : List Char) :
    Option ((String × Json) × List Char) :=
  match skipBlanks cs with
  | '"' :: rest =>
    match stringBody? [] rest with
    | none => none
    | some (key, rest') =>
      match skipBlanks rest' with
      | ':' :: after =>
        match item? (skipBlanks after) with
        | none => none
        | some (value, rest'') => some ((key, value), rest'')
      | _ => none
  | _ => none

/-- Reads the members of an object after one member has been read. -/
def moreMembers? (item? : List Char → Option (Json × List Char)) :
    Nat → List (String × Json) → List Char → Option (Json × List Char)
  | 0, _, _ => none
  | fuel + 1, acc, cs =>
    match skipBlanks cs with
    | '}' :: rest => some (.object acc.reverse, rest)
    | ',' :: rest =>
      match oneMember? item? rest with
      | none => none
      | some (entry, rest') => moreMembers? item? fuel (entry :: acc) rest'
    | _ => none

def arrayBody? (item? : List Char → Option (Json × List Char)) (cs : List Char) :
    Option (Json × List Char) :=
  match skipBlanks cs with
  | ']' :: rest => some (.array [], rest)
  | start =>
    match item? start with
    | none => none
    | some (item, rest) => moreItems? item? (rest.length + 1) [item] rest

def objectBody? (item? : List Char → Option (Json × List Char)) (cs : List Char) :
    Option (Json × List Char) :=
  match skipBlanks cs with
  | '}' :: rest => some (.object [], rest)
  | start =>
    match oneMember? item? start with
    | none => none
    | some (entry, rest) => moreMembers? item? (rest.length + 1) [entry] rest

/-- Reads a value that is neither an array nor an object. -/
def scalar? (cs : List Char) : Option (Json × List Char) :=
  match cs with
  | '"' :: rest => (stringBody? [] rest).map fun (s, rest') => (.string s, rest')
  | '-' :: rest => number? true rest
  | 'n' :: _ => (word? ['n', 'u', 'l', 'l'] cs).map fun rest => (.null, rest)
  | 't' :: _ => (word? ['t', 'r', 'u', 'e'] cs).map fun rest => (.bool true, rest)
  | 'f' :: _ => (word? ['f', 'a', 'l', 's', 'e'] cs).map fun rest => (.bool false, rest)
  | _ => number? false cs

/-- Reads a value in which arrays and objects are nested at most `depth` deep. -/
def value? : Nat → List Char → Option (Json × List Char)
  | 0, cs =>
    match cs with
    | '[' :: _ => none
    | '{' :: _ => none
    | _ => scalar? cs
  | depth + 1, cs =>
    match cs with
    | '[' :: rest => arrayBody? (value? depth) rest
    | '{' :: rest => objectBody? (value? depth) rest
    | _ => scalar? cs

def maxDepth : Nat := 127

/-- Reads a whole text, keeping the members of objects as written. -/
def read? (text : String) : Option Json :=
  match value? maxDepth (skipBlanks text.toList) with
  | none => none
  | some (value, rest) => if (skipBlanks rest).isEmpty then some value else none

def parse? (text : String) : Option Json := (read? text).map canonical

end Json
end WebClient
