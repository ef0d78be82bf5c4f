import WebClient.Text.Dict

/-!
# Toml — what a TOML document says

A document is a table, and grows statement by statement: a header opens a table or the next element
of an array of tables, an assignment binds a key in the table opened last.

What may be added to a table later depends on how it came to be, its `Origin`:

* a table with a header of its own cannot be opened again, and dotted keys do not reach into it;
* a table that a longer header implies may still get its own header;
* a table that dotted keys imply is reached by dotted keys and longer headers only;
* an inline table is complete.

Of numbers with a fraction and of dates only the kind is kept, because no setting is one.
-/

namespace WebClient

/-- How a table came to be. -/
inductive Toml.Origin where
  /-- By a header of its own; the document itself counts as such a table. -/
  | header
  /-- By a header of a table below it. -/
  | implied
  /-- By dotted keys. -/
  | dotted
  /-- Written between braces. -/
  | inline
  deriving DecidableEq, Repr

/-- A value in a TOML document. -/
inductive Toml where
  | text (value : String)
  | integer (value : Int)
  | boolean (value : Bool)
  | float
  | dateTime
  | array (items : List Toml)
  | table (origin : Toml.Origin) (entries : List (String × Toml))
  /-- Tables under one name, each opened by a header in double brackets; there is at least one. -/
  | tables (elements : List (List (String × Toml)))
  deriving Repr

namespace Toml

/-- A name below a path of names. -/
structure Key where
  above : List String
  name : String
  deriving DecidableEq, Repr

def Key.path (key : Key) : List String := key.above ++ [key.name]

/-- Follows names from a table and changes the table at the end, which has to allow it.  Missing
tables are made on the way; of an array of tables the last element is followed.  `byDots` says
whether the names are those of a dotted key rather than a header. -/
def follow (byDots : Bool) (change : Origin → Dict Toml → Option (Dict Toml)) :
    Origin → List String → Dict Toml → Option (Dict Toml)
  | origin, [], entries => change origin entries
  | _, name :: path, entries =>
    match Dict.get? entries name with
    | none =>
      let origin : Origin := if byDots then .dotted else .implied
      (follow byDots change origin path []).map fun inner =>
        Dict.put name (.table origin inner) entries
    | some (.table origin inner) =>
      if origin = .inline || (byDots && origin = .header) then none
      else
        (follow byDots change origin path inner).map fun inner =>
          Dict.put name (.table origin inner) entries
    | some (.tables elements) =>
      (follow byDots change .header path (elements.getLast?.getD [])).map fun inner =>
        Dict.put name (.tables (elements.dropLast ++ [inner])) entries
    | some _ => none

/-- Binds a key in a table.  The name has to be free, and a table reached by dotted keys has to be
one that dotted keys made. -/
def assign (key : Key) (value : Toml) (entries : Dict Toml) : Option (Dict Toml) :=
  follow true
    (fun origin inner =>
      if !key.above.isEmpty && origin != .dotted then none
      else if (Dict.get? inner key.name).isSome then none
      else some (Dict.put key.name value inner))
    .header key.above entries

/-- A document in the making. -/
structure Document where
  root : Dict Toml := []
  /-- The path of the table opened last. -/
  current : List String := []

namespace Document

def openTable (doc : Document) (key : Key) : Option Document :=
  let opened (_ : Origin) (inner : Dict Toml) : Option (Dict Toml) :=
    match Dict.get? inner key.name with
    | none => some (Dict.put key.name (.table .header []) inner)
    | some (.table .implied entries) => some (Dict.put key.name (.table .header entries) inner)
    | some _ => none
  (follow false opened .header key.above doc.root).map fun root => ⟨root, key.path⟩

/-- Opens the next element of an array of tables. -/
def openElement (doc : Document) (key : Key) : Option Document :=
  let opened (_ : Origin) (inner : Dict Toml) : Option (Dict Toml) :=
    match Dict.get? inner key.name with
    | none => some (Dict.put key.name (.tables [[]]) inner)
    | some (.tables elements) => some (Dict.put key.name (.tables (elements ++ [[]])) inner)
    | some _ => none
  (follow false opened .header key.above doc.root).map fun root => ⟨root, key.path⟩

def bind (doc : Document) (key : Key) (value : Toml) : Option Document :=
  (follow false (fun _ entries => assign key value entries) .header doc.current doc.root).map
    fun root => { doc with root }

end Document

/-! ## Looking at values -/

def text? : Toml → Option String
  | .text value => some value
  | _ => none

/-- The value of an integer that is not negative. -/
def natural? : Toml → Option Nat
  | .integer value => if 0 ≤ value then some value.toNat else none
  | _ => none

def boolean? : Toml → Option Bool
  | .boolean value => some value
  | _ => none

/-- Whether a value is an array or a table without anything in it. -/
def isEmpty : Toml → Bool
  | .array items => items.isEmpty
  | .table _ entries => entries.isEmpty
  | .tables elements => elements.isEmpty
  | _ => false

/-- The name that a value chooses: a text, or a table in which that one name is bound to something
empty. -/
def choice? : Toml → Option String
  | .text name => some name
  | .table _ [(name, value)] => if value.isEmpty then some name else none
  | _ => none

end Toml
end WebClient
