import WebClient.Text.Hex
import WebClient.Text.Pieces

/-!
# Table — what is said of ranges of code points

Properties of characters are written as lines of words between single blanks.  A word is a code
point, or the first and the last of a range joined by a hyphen, in hexadecimal; what is said of them
follows at once.  `300-36f` is a range of which nothing further is said, `94d:9` says `:9` of one
code point.

* `Table.ofLines` reads the lines, given a reader for what is said.
* `Table.find?` looks a code point up.
-/

namespace WebClient
namespace Unicode

/-- What is said of the code points from `first` to `last`. -/
structure Row (α : Type) where
  first : Nat
  last : Nat
  value : α

/-- A property of code points; of code points without a row it says nothing. -/
abbrev Table (α : Type) := List (Row α)

variable {α : Type}

namespace Row

/-- Whether a code point is in the range of a row. -/
def holds (row : Row α) (code : Nat) : Bool := row.first ≤ code && code ≤ row.last

/-- Whether a character belongs to the range that a word begins with. -/
def isRangeChar (c : Char) : Bool := c == '-' || (Text.hexValue? c).isSome

def read? (value? : List Char → Option α) (word : List Char) : Option (Row α) := do
  let (firstDigits, lastDigits) := Text.cutAt '-' (word.takeWhile isRangeChar)
  let first ← Text.number? 16 firstDigits
  let last ← Text.number? 16 (lastDigits.getD firstDigits)
  let value ← value? (word.dropWhile isRangeChar)
  some { first, last, value }

end Row

namespace Table

/-- Reads lines of words; words that cannot be read are no rows. -/
def ofLines (value? : List Char → Option α) (lines : List String) : Table α :=
  lines.flatMap fun line => (Text.pieces ' ' line.toList).filterMap (Row.read? value?)

def row? (table : Table α) (code : Nat) : Option (Row α) :=
  List.find? (fun row => row.holds code) table

def find? (table : Table α) (code : Nat) : Option α := (table.row? code).map Row.value

def holds (table : Table α) (code : Nat) : Bool := List.any table fun row => row.holds code

end Table

/-- Reads code points between commas after a colon; nothing between them is no code point. -/
def readCodes? : List Char → Option (List Nat)
  | [':'] => some []
  | ':' :: codes => (Text.pieces ',' codes).mapM (Text.number? 16)
  | _ => none

end Unicode
end WebClient
