import WebClient.Store.Address

/-!
# Target — the database that an address leads to

A database is a file, or it is kept in memory and ends with its connection.  A name that begins with
`file:` is a URI: after an authority, which may only be this machine, it has a path, options after a
question mark, and a fragment that says nothing.  Where the address itself asks for a file system
layer or declares its file immutable, a name is always a path.

* `Target.ofOptions?` is the database that the options of an address lead to.
* `Target.file?` is the path of its file.
-/

namespace WebClient

/-- What a database is opened for, from the least to the most. -/
inductive Access where
  | readOnly
  /-- Reading and writing a file that is there. -/
  | existing
  /-- Reading and writing a file, which is created if it is missing. -/
  | create
  /-- A database in memory. -/
  | memory
  deriving DecidableEq, Repr

namespace Access

def ofName? : String → Option Access
  | "ro" => some .readOnly
  | "rw" => some .existing
  | "rwc" => some .create
  | "memory" => some .memory
  | _ => none

def rank : Access → Nat
  | .readOnly => 0
  | .existing => 1
  | .create => 2
  | .memory => 3

/-- Whether a URI may ask for an access where another is given: for less, or for memory. -/
def admits (given wanted : Access) : Bool := wanted = .memory || wanted.rank ≤ given.rank

end Access

/-- A database to be opened. -/
structure Target where
  path : String
  access : Access
  /-- The file is declared never to change. -/
  immutable : Bool := false
  /-- The file system layer asked for. -/
  layer : Option String := none
  deriving DecidableEq, Repr

namespace Target

def memoryLayer : String := "memdb"

def layers : List String := ["unix", "unix-none", "unix-dotfile", "unix-excl", memoryLayer]

/-- Whether the layer asked for is one of those that there are. -/
def hasLayer (target : Target) : Bool := target.layer.all fun layer => layers.contains layer

/-- The path of the file; nothing for a database in memory. -/
def file? (target : Target) : Option String :=
  if target.access = .memory || target.path = "" || target.path = ":memory:" ||
      target.layer = some memoryLayer then none
  else some target.path

/-! ## Names that are URIs -/

/-- What follows the authority of a URI; nothing if that is another machine. -/
def afterAuthority? : List Char → Option (List Char)
  | '/' :: '/' :: rest =>
    let authority := rest.takeWhile (· != '/')
    if authority.isEmpty || authority = "localhost".toList then some (rest.dropWhile (· != '/'))
    else none
  | rest => some rest

/-- A part of a URI with its percent triplets decoded; a zero byte ends it. -/
def uriText (part : List Char) : String :=
  .ofList (Text.decodeLossy ((Text.percentDecode (Text.utf8 part)).takeWhile (· != 0)))

/-- The options of a URI, in order; those without a name say nothing. -/
def uriOptions (query : List Char) : List (String × String) :=
  ((Text.pieces '&' query).map fun piece =>
    let (name, value?) := Text.cutAt '=' piece
    (uriText name, uriText (value?.getD []))).filter fun option => option.1 != ""

/-- Whether a switch is on: a number other than zero, or one of three words in either case. -/
def isOn (value : String) : Bool :=
  let cs := value.toList
  match Text.number? 10 (cs.takeWhile Char.isDigit) with
  | some 0 | none => ["on", "yes", "true"].contains (.ofList (cs.map Char.toLower))
  | some _ => true

/-- Takes one option of a URI into account; unknown ones say nothing. -/
def withOption (target : Target) : String × String → Option Target
  | ("mode", name) => do
    let wanted ← Access.ofName? name
    if target.access.admits wanted then some { target with access := wanted } else none
  | ("cache", name) => if ["shared", "private"].contains name then some target else none
  | ("vfs", layer) => some { target with layer := some layer }
  | _ => some target

/-- The database that a URI leads to, from what follows its scheme. -/
def ofUri? (access : Access) (uri : List Char) : Option Target := do
  let located ← afterAuthority? uri
  let (path, query?) := Text.cutAt '?' (Text.cutAt '#' located).1
  let options := uriOptions (query?.getD [])
  let immutable := (options.lookup "immutable").any isOn
  options.foldlM withOption { path := uriText path, access, immutable }

/-! ## Addresses -/

/-- The database that the options of an address lead to. -/
def ofOptions? (options : Address.Options) : Option Target :=
  let access : Access := if options.readOnly then .readOnly else .create
  let name := (options.file.getD "").toList
  if options.immutable || options.layer.isSome then
    some ⟨.ofList (name.takeWhile (· != '\x00')), access, options.immutable, options.layer⟩
  else if name.contains '\x00' then none
  else if "file:".toList.isPrefixOf name then ofUri? access (name.drop 5)
  else some { path := .ofList name, access }

end Target
end WebClient
