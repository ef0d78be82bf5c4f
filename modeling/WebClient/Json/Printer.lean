import WebClient.Text.Hex
import WebClient.Json.Basic
import WebClient.Number.Shortest

/-!
# Printer — JSON texts of values

`compact` writes no blanks; `pretty` puts every item and member on a line of its own, indented by
two blanks per level.  Members are written in the order in which the value holds them.

A string escapes the quote, the backslash and the control characters below U+0020, the usual ones
by a letter, the others as `\u00xx` with lower-case digits.
-/

namespace WebClient
namespace Json

/-- One character of a string, escaped where it has to be. -/
def escapeChar (c : Char) : List Char :=
  match c with
  | '"' => ['\\', '"']
  | '\\' => ['\\', '\\']
  | '\n' => ['\\', 'n']
  | '\r' => ['\\', 'r']
  | '\t' => ['\\', 't']
  | '\x08' => ['\\', 'b']
  | '\x0c' => ['\\', 'f']
  | c =>
    if c.toNat < 0x20 then ['\\', 'u', '0', '0', Text.hexLower (c.toNat / 16),
      Text.hexLower (c.toNat % 16)]
    else [c]

def quoted (s : String) : List Char := '"' :: (s.toList.flatMap escapeChar ++ ['"'])

def intChars (n : Int) : List Char :=
  if n < 0 then '-' :: Nat.toDigits 10 n.natAbs else Nat.toDigits 10 n.natAbs

/-- A value that is neither an array nor an object. -/
def scalarChars : Json → List Char
  | .null => ['n', 'u', 'l', 'l']
  | .bool true => ['t', 'r', 'u', 'e']
  | .bool false => ['f', 'a', 'l', 's', 'e']
  | .int n => intChars n
  | .float x => x.layout
  | .string s => quoted s
  | _ => []

/-! ## Compact -/

mutual
def compactChars : Json → List Char
  | .array items => '[' :: (compactItems items ++ [']'])
  | .object members => '{' :: (compactMembers members ++ ['}'])
  | other => scalarChars other

def compactItems : List Json → List Char
  | [] => []
  | [item] => item.compactChars
  | item :: rest => item.compactChars ++ ',' :: compactItems rest

def compactMembers : List (String × Json) → List Char
  | [] => []
  | [(key, value)] => quoted key ++ ':' :: value.compactChars
  | (key, value) :: rest => quoted key ++ ':' :: (value.compactChars ++ ',' :: compactMembers rest)
end

def compact (value : Json) : String := .ofList value.compactChars

/-! ## Indented -/

/-- A line break and the indentation of a level. -/
def newline (level : Nat) : List Char := '\n' :: List.replicate (2 * level) ' '

mutual
/-- The characters of a value whose own line is indented to `level`. -/
def prettyChars (level : Nat) : Json → List Char
  | .array [] => ['[', ']']
  | .array (item :: rest) =>
    '[' :: (prettyItems (level + 1) (item :: rest) ++ newline level ++ [']'])
  | .object [] => ['{', '}']
  | .object (entry :: rest) =>
    '{' :: (prettyMembers (level + 1) (entry :: rest) ++ newline level ++ ['}'])
  | other => scalarChars other

def prettyItems (level : Nat) : List Json → List Char
  | [] => []
  | [item] => newline level ++ prettyChars level item
  | item :: rest => newline level ++ prettyChars level item ++ ',' :: prettyItems level rest

def prettyMembers (level : Nat) : List (String × Json) → List Char
  | [] => []
  | [(key, value)] => newline level ++ quoted key ++ ':' :: ' ' :: prettyChars level value
  | (key, value) :: rest =>
    newline level ++ quoted key ++ ':' :: ' ' ::
      (prettyChars level value ++ ',' :: prettyMembers level rest)
end

/-- The text of a value with one line per item and member. -/
def pretty (value : Json) : String := .ofList (value.prettyChars 0)

end Json
end WebClient
