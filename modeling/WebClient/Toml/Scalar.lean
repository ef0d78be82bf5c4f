import WebClient.Json.Number
import WebClient.Text.Hex
import WebClient.Toml.Basic

/-!
# Scalar — texts, numbers and dates in TOML

Readers take a character list and return what they read with the rest, or nothing.

* Texts stand in double quotes, where backslashes escape, or in single quotes, where nothing does.
  Either kind of quote tripled makes a text that may run over several lines; a line break directly
  after the opening is dropped, and every other one counts as a line feed.
* Digits may be set apart by single underscores.  Integers have 64 bits; whole digits have no
  leading zero.
* A date exists in the calendar, and a time has hours, minutes and seconds; a minute may have a
  leap second.
-/

namespace WebClient
namespace Toml

/-- The characters that may stand in a line: all but the control characters other than the tab. -/
def isPlain (c : Char) : Bool := c == '\t' || (0x20 ≤ c.toNat && c.toNat != 0x7F)

def isSpace (c : Char) : Bool := c == ' ' || c == '\t'

def lineBreak? : List Char → Option (List Char)
  | '\n' :: rest => some rest
  | '\r' :: '\n' :: rest => some rest
  | _ => none

/-- Whether only blanks stand before the next line break. -/
def endsLine (cs : List Char) : Bool := (lineBreak? (cs.dropWhile isSpace)).isSome

/-! ## Texts -/

/-- The character that a one-letter escape stands for. -/
def shortEscape? (c : Char) : Option Char :=
  match c with
  | '"' => some '"'
  | '\\' => some '\\'
  | 'b' => some '\x08'
  | 'f' => some '\x0c'
  | 'n' => some '\n'
  | 'r' => some '\r'
  | 't' => some '\t'
  | _ => none

/-- The character with the number that hexadecimal digits denote, if there is one. -/
def codePoint? (digits : List Char) : Option Char := do
  let n ← digits.foldlM (fun n c => (Text.hexValue? c).map (n * 16 + ·)) 0
  if n.isValidChar then some (Char.ofNat n) else none

/-- Reads a text after its opening double quote.  `acc` holds the characters read, last first. -/
def basicBody? (acc : List Char) : List Char → Option (String × List Char)
  | [] => none
  | '"' :: rest => some (.ofList acc.reverse, rest)
  | '\\' :: 'u' :: a :: b :: c :: d :: rest =>
    match codePoint? [a, b, c, d] with
    | none => none
    | some char => basicBody? (char :: acc) rest
  | '\\' :: 'U' :: a :: b :: c :: d :: e :: f :: g :: h :: rest =>
    match codePoint? [a, b, c, d, e, f, g, h] with
    | none => none
    | some char => basicBody? (char :: acc) rest
  | '\\' :: c :: rest =>
    match shortEscape? c with
    | none => none
    | some char => basicBody? (char :: acc) rest
  | c :: rest => if isPlain c && c != '\\' then basicBody? (c :: acc) rest else none

/-- What closes a text over several lines: up to two quotes beyond the closing three belong to the
text. -/
def closing (quote : Char) (acc : List Char) (cs : List Char) : String × List Char :=
  let extra := min 2 (cs.takeWhile (· == quote)).length
  (.ofList (acc.reverse ++ List.replicate extra quote), cs.drop extra)

/-- Reads a text over several lines after its opening.  A backslash at the end of a line drops the
line break and the white space around it; `skipping` says that such white space is being dropped. -/
def basicLines? (skipping : Bool) (acc : List Char) : List Char → Option (String × List Char)
  | [] => none
  | '"' :: '"' :: '"' :: rest => some (closing '"' acc rest)
  | '\r' :: '\n' :: rest => basicLines? skipping (if skipping then acc else '\n' :: acc) rest
  | '\n' :: rest => basicLines? skipping (if skipping then acc else '\n' :: acc) rest
  | '\\' :: 'u' :: a :: b :: c :: d :: rest =>
    match codePoint? [a, b, c, d] with
    | none => none
    | some char => basicLines? false (char :: acc) rest
  | '\\' :: 'U' :: a :: b :: c :: d :: e :: f :: g :: h :: rest =>
    match codePoint? [a, b, c, d, e, f, g, h] with
    | none => none
    | some char => basicLines? false (char :: acc) rest
  | '\\' :: c :: rest =>
    match shortEscape? c with
    | some char => basicLines? false (char :: acc) rest
    | none => if endsLine (c :: rest) then basicLines? true acc rest else none
  | c :: rest =>
    if skipping && isSpace c then basicLines? true acc rest
    else if isPlain c && c != '\\' then basicLines? false (c :: acc) rest
    else none

/-- Reads a text after its opening single quote. -/
def literalBody? (acc : List Char) : List Char → Option (String × List Char)
  | [] => none
  | '\'' :: rest => some (.ofList acc.reverse, rest)
  | c :: rest => if isPlain c then literalBody? (c :: acc) rest else none

/-- Reads a text over several lines after its three single quotes. -/
def literalLines? (acc : List Char) : List Char → Option (String × List Char)
  | [] => none
  | '\'' :: '\'' :: '\'' :: rest => some (closing '\'' acc rest)
  | '\r' :: '\n' :: rest => literalLines? ('\n' :: acc) rest
  | '\n' :: rest => literalLines? ('\n' :: acc) rest
  | c :: rest => if isPlain c then literalLines? (c :: acc) rest else none

def string? : List Char → Option (String × List Char)
  | '"' :: '"' :: '"' :: rest => basicLines? false [] ((lineBreak? rest).getD rest)
  | '"' :: rest => basicBody? [] rest
  | '\'' :: '\'' :: '\'' :: rest => literalLines? [] ((lineBreak? rest).getD rest)
  | '\'' :: rest => literalBody? [] rest
  | _ => none

/-! ## Numbers -/

def digit? (base : Nat) (c : Char) : Option Nat := (Text.hexValue? c).filter (· < base)

/-- Reads the digits that follow a digit; an underscore has to stand between two digits. -/
def moreDigits? (base : Nat) : List Char → Option (List Nat × List Char)
  | [] => some ([], [])
  | '_' :: c :: rest =>
    match digit? base c with
    | none => none
    | some d => (moreDigits? base rest).map fun (ds, rest) => (d :: ds, rest)
  | c :: rest =>
    match digit? base c with
    | none => if c == '_' then none else some ([], c :: rest)
    | some d => (moreDigits? base rest).map fun (ds, rest) => (d :: ds, rest)

def digits? (base : Nat) : List Char → Option (List Nat × List Char)
  | [] => none
  | c :: rest =>
    match digit? base c with
    | none => none
    | some d => (moreDigits? base rest).map fun (ds, rest) => (d :: ds, rest)

def ofDigits (base : Nat) (digits : List Nat) : Nat := digits.foldl (fun n d => n * base + d) 0

/-- The integer of a sign and a magnitude, if it has 64 bits. -/
def integer? (negative : Bool) (magnitude : Nat) : Option Toml :=
  let n : Int := if negative then -(magnitude : Int) else magnitude
  if Json.isInt64 n then some (.integer n) else none

/-- Reads an integer of a base other than ten, after the letter of the base. -/
def basedInteger? (base : Nat) (cs : List Char) : Option (Toml × List Char) := do
  let (digits, rest) ← digits? base cs
  let value ← integer? false (ofDigits base digits)
  some (value, rest)

/-- Reads whole digits: a zero, or digits that do not begin with one. -/
def whole? : List Char → Option (List Nat × List Char)
  | '0' :: rest => some ([0], rest)
  | cs => digits? 10 cs

/-- Reads an exponent after its letter: whether it is negative, and its digits. -/
def exponent? : List Char → Option ((Bool × List Nat) × List Char)
  | '+' :: rest => (digits? 10 rest).map fun (ds, rest) => ((false, ds), rest)
  | '-' :: rest => (digits? 10 rest).map fun (ds, rest) => ((true, ds), rest)
  | cs => (digits? 10 cs).map fun (ds, rest) => ((false, ds), rest)

/-- Reads an exponent if there is one; without one it is zero. -/
def exponentPart? : List Char → Option (Int × List Char)
  | 'e' :: rest => signed (exponent? rest)
  | 'E' :: rest => signed (exponent? rest)
  | cs => some (0, cs)
where
  /-- The value of a read exponent. -/
  signed (read : Option ((Bool × List Nat) × List Char)) : Option (Int × List Char) :=
    read.map fun ((negative, digits), rest) =>
      let n := ofDigits 10 digits
      (if negative then -(n : Int) else n, rest)

/-- Whether `significand * 10 ^ exponent`, with a significand of so many digits, rounds to a
double. -/
def isDouble (significand : Nat) (exponent : Int) : Bool :=
  let size := (Nat.toDigits 10 significand).length + exponent
  if significand = 0 || size ≤ 308 then true
  else if 310 ≤ size then false
  else if 0 ≤ exponent then
    (Binary64.ofRatio? false (significand * Nat.pow 10 exponent.toNat) 1).isSome
  else (Binary64.ofRatio? false significand (Nat.pow 10 (-exponent).toNat)).isSome

/-- A number with a fraction or an exponent.  A positive one must not be too large. -/
def float? (negative : Bool) (whole fraction : List Nat) (exponent : Int) : Option Toml :=
  let significand := ofDigits 10 (whole ++ fraction)
  if negative || isDouble significand (exponent - fraction.length) then some .float else none

def decimal? (negative : Bool) (cs : List Char) : Option (Toml × List Char) :=
  match cs with
  | 'i' :: 'n' :: 'f' :: rest => some (.float, rest)
  | 'n' :: 'a' :: 'n' :: rest => some (.float, rest)
  | _ => do
    let (whole, rest) ← whole? cs
    match rest with
    | '.' :: rest =>
      let (fraction, rest) ← digits? 10 rest
      let (exponent, rest) ← exponentPart? rest
      let value ← float? negative whole fraction exponent
      some (value, rest)
    | c :: _ =>
      if c == 'e' || c == 'E' then
        let (exponent, rest) ← exponentPart? rest
        let value ← float? negative whole [] exponent
        some (value, rest)
      else
        let value ← integer? negative (ofDigits 10 whole)
        some (value, rest)
    | [] =>
      let value ← integer? negative (ofDigits 10 whole)
      some (value, rest)

def number? : List Char → Option (Toml × List Char)
  | '0' :: 'x' :: rest => basedInteger? 16 rest
  | '0' :: 'o' :: rest => basedInteger? 8 rest
  | '0' :: 'b' :: rest => basedInteger? 2 rest
  | '+' :: rest => decimal? false rest
  | '-' :: rest => decimal? true rest
  | cs => decimal? false cs

/-! ## Dates and times -/

/-- Reads a number of exactly `width` digits that lies in a range. -/
def field? (width low high : Nat) (cs : List Char) : Option (Nat × List Char) :=
  let written := cs.take width
  if written.length = width && written.all Char.isDigit then
    let n := ofDigits 10 (written.map fun c => c.toNat - 0x30)
    if low ≤ n && n ≤ high then some (n, cs.drop width) else none
  else none

def mark? (c : Char) : List Char → Option (List Char)
  | d :: rest => if c = d then some rest else none
  | [] => none

def isLeapYear (year : Nat) : Bool := year % 4 = 0 && (year % 100 != 0 || year % 400 = 0)

def daysInMonth (year month : Nat) : Nat :=
  if month = 2 then if isLeapYear year then 29 else 28
  else if [4, 6, 9, 11].contains month then 30
  else 31

def date? (cs : List Char) : Option (List Char) := do
  let (year, rest) ← field? 4 0 9999 cs
  let (month, rest) ← field? 2 1 12 (← mark? '-' rest)
  let (_, rest) ← field? 2 1 (daysInMonth year month) (← mark? '-' rest)
  some rest

/-- Drops a fraction of a second if there is one. -/
def dropFraction : List Char → List Char
  | '.' :: c :: rest => if c.isDigit then rest.dropWhile Char.isDigit else '.' :: c :: rest
  | cs => cs

def time? (cs : List Char) : Option (List Char) := do
  let (_, rest) ← field? 2 0 23 cs
  let (_, rest) ← field? 2 0 59 (← mark? ':' rest)
  let (_, rest) ← field? 2 0 60 (← mark? ':' rest)
  some (dropFraction rest)

/-- Drops the hours and minutes of an offset from universal time. -/
def offsetTime? (cs : List Char) : Option (List Char) := do
  let (_, rest) ← field? 2 0 23 cs
  let (_, rest) ← field? 2 0 59 (← mark? ':' rest)
  some rest

/-- Drops an offset from universal time if there is one. -/
def dropOffset (cs : List Char) : List Char :=
  match cs with
  | 'Z' :: rest => rest
  | 'z' :: rest => rest
  | '+' :: rest => (offsetTime? rest).getD cs
  | '-' :: rest => (offsetTime? rest).getD cs
  | _ => cs

def dropTime (cs : List Char) : List Char :=
  match cs with
  | c :: rest =>
    if c == 'T' || c == 't' || c == ' ' then ((time? rest).map dropOffset).getD cs else cs
  | [] => []

def dateTime? (cs : List Char) : Option (Toml × List Char) :=
  match date? cs with
  | some rest => some (.dateTime, dropTime rest)
  | none => (time? cs).map fun rest => (.dateTime, rest)

end Toml
end WebClient
