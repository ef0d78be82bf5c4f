import WebClient.Toml.Scalar

/-!
# Reader — TOML documents

A document is read statement by statement, and each statement is put into effect at once: what a
document must not say twice is refused where it is said again.

* `Toml.parse?` reads a whole document.
* Arrays and inline tables may be nested 79 deep, and a key may have 79 names.

Nesting is bounded by the first argument of `value?`; loops run on the length of the rest.
-/

namespace WebClient
namespace Toml

/-- A character list without blanks at its front. -/
def skipSpaces : List Char → List Char := List.dropWhile isSpace

/-- Drops a comment if there is one, up to the end of its line. -/
def dropComment : List Char → List Char
  | '#' :: rest => rest.dropWhile isPlain
  | cs => cs

/-- Drops blanks, a comment and the end of the line, which have to be all that is left of it. -/
def lineEnd? (cs : List Char) : Option (List Char) :=
  match dropComment (skipSpaces cs) with
  | [] => some []
  | rest => lineBreak? rest

/-- Drops what may stand between the items of an array: blanks, line breaks, and comments up to the
end of their lines.  The first argument says whether a comment has begun. -/
def skipGaps : Bool → List Char → List Char
  | _, [] => []
  | _, '\r' :: '\n' :: rest => skipGaps false rest
  | _, '\n' :: rest => skipGaps false rest
  | true, c :: rest => if isPlain c then skipGaps true rest else c :: rest
  | false, c :: rest =>
    if isSpace c then skipGaps false rest
    else if c == '#' then skipGaps true rest
    else c :: rest

/-! ## Keys -/

def isBareChar (c : Char) : Bool := c.isAlphanum || c == '-' || c == '_'

def name? : List Char → Option (String × List Char)
  | '"' :: rest => basicBody? [] rest
  | '\'' :: rest => literalBody? [] rest
  | cs =>
    let bare := cs.takeWhile isBareChar
    if bare.isEmpty then none else some (.ofList bare, cs.dropWhile isBareChar)

/-- Reads at most so many names with dots between them, and the blanks around them. -/
def names? : Nat → List Char → Option (Key × List Char)
  | 0, _ => none
  | count + 1, cs =>
    match name? (skipSpaces cs) with
    | none => none
    | some (name, rest) =>
      match skipSpaces rest with
      | '.' :: rest => (names? count rest).map fun (key, rest) =>
          (⟨name :: key.above, key.name⟩, rest)
      | rest => some (⟨[], name⟩, rest)

/-- How many names a key may have, and how deep arrays and inline tables may be nested. -/
def maxDepth : Nat := 79

def key? (cs : List Char) : Option (Key × List Char) := names? maxDepth cs

def binding? (item? : List Char → Option (Toml × List Char)) (cs : List Char) :
    Option ((Key × Toml) × List Char) :=
  match key? cs with
  | some (key, '=' :: rest) => (item? (skipSpaces rest)).map fun (value, rest) =>
      ((key, value), rest)
  | _ => none

/-! ## Values -/

/-- Reads the items of an array after one item has been read. -/
def moreItems? (item? : List Char → Option (Toml × List Char)) :
    Nat → List Toml → List Char → Option (Toml × List Char)
  | 0, _, _ => none
  | fuel + 1, acc, cs =>
    match skipGaps false cs with
    | ']' :: rest => some (.array acc.reverse, rest)
    | ',' :: rest =>
      match skipGaps false rest with
      | ']' :: rest => some (.array acc.reverse, rest)
      | start =>
        match item? start with
        | none => none
        | some (item, rest) => moreItems? item? fuel (item :: acc) rest
    | _ => none

def arrayBody? (item? : List Char → Option (Toml × List Char)) (cs : List Char) :
    Option (Toml × List Char) :=
  match skipGaps false cs with
  | ']' :: rest => some (.array [], rest)
  | start =>
    match item? start with
    | none => none
    | some (item, rest) => moreItems? item? (rest.length + 1) [item] rest

/-- Reads the bindings of an inline table after one has been read. -/
def moreBindings? (item? : List Char → Option (Toml × List Char)) :
    Nat → Dict Toml → List Char → Option (Toml × List Char)
  | 0, _, _ => none
  | fuel + 1, entries, cs =>
    match skipSpaces cs with
    | '}' :: rest => some (.table .inline entries, rest)
    | ',' :: rest =>
      match binding? item? rest with
      | none => none
      | some ((key, value), rest) =>
        match assign key value entries with
        | none => none
        | some entries => moreBindings? item? fuel entries rest
    | _ => none

/-- Reads an inline table after its opening brace. -/
def inlineBody? (item? : List Char → Option (Toml × List Char)) (cs : List Char) :
    Option (Toml × List Char) :=
  match skipSpaces cs with
  | '}' :: rest => some (.table .inline [], rest)
  | start =>
    match binding? item? start with
    | none => none
    | some ((key, value), rest) =>
      match assign key value [] with
      | none => none
      | some entries => moreBindings? item? (rest.length + 1) entries rest

/-- Reads a value that is neither an array nor an inline table. -/
def scalar? (cs : List Char) : Option (Toml × List Char) :=
  match cs with
  | 't' :: 'r' :: 'u' :: 'e' :: rest => some (.boolean true, rest)
  | 'f' :: 'a' :: 'l' :: 's' :: 'e' :: rest => some (.boolean false, rest)
  | '"' :: _ => (string? cs).map fun (value, rest) => (.text value, rest)
  | '\'' :: _ => (string? cs).map fun (value, rest) => (.text value, rest)
  | _ => (dateTime? cs).or (number? cs)

/-- Reads a value in which arrays and inline tables are nested at most `depth` deep. -/
def value? : Nat → List Char → Option (Toml × List Char)
  | 0, cs =>
    match cs with
    | '[' :: _ => none
    | '{' :: _ => none
    | _ => scalar? cs
  | depth + 1, cs =>
    match cs with
    | '[' :: rest => arrayBody? (value? depth) rest
    | '{' :: rest => inlineBody? (value? depth) rest
    | _ => scalar? cs

/-! ## Documents -/

namespace Document

/-- Puts one statement into effect; returns the document and what follows the statement's line. -/
def statement? (doc : Document) (cs : List Char) : Option (Document × List Char) := do
  match cs with
  | '[' :: '[' :: start =>
    match key? start with
    | some (key, ']' :: ']' :: rest) => some (← doc.openElement key, ← lineEnd? rest)
    | _ => none
  | '[' :: start =>
    match key? start with
    | some (key, ']' :: rest) => some (← doc.openTable key, ← lineEnd? rest)
    | _ => none
  | _ =>
    let ((key, value), rest) ← binding? (value? maxDepth) cs
    some (← doc.bind key value, ← lineEnd? rest)

/-- Puts all statements into effect; lines without one are skipped. -/
def statements? : Nat → Document → List Char → Option Document
  | 0, _, _ => none
  | fuel + 1, doc, cs =>
    match skipSpaces cs with
    | [] => some doc
    | start =>
      match lineEnd? start with
      | some rest => statements? fuel doc rest
      | none =>
        match doc.statement? start with
        | none => none
        | some (doc, rest) => statements? fuel doc rest

end Document

/-- A character list without the mark that may stand at the front of a file. -/
def dropMark : List Char → List Char
  | '\uFEFF' :: rest => rest
  | cs => cs

def parse? (text : String) : Option (Dict Toml) :=
  let cs := dropMark text.toList
  (Document.statements? (cs.length + 1) {} cs).map (·.root)

end Toml
end WebClient
