import WebClient.Text.Blank
import WebClient.Text.Percent

/-!
# Address — where a session database is

The database of a client is named by a URL `sqlite://path?options` or by a plain path.

* `Address.normalize` turns a setting into a URL.
* `Address.path?` is the path whose parent directory is created before the database is opened.
* `Address.options?` is what the driver reads from the URL: there the path is percent-decoded.
-/

namespace WebClient
namespace Address

def default : String := "sqlite://./data/session.db"

def contains (needle : List Char) : List Char → Bool
  | [] => needle.isEmpty
  | c :: rest => needle.isPrefixOf (c :: rest) || contains needle rest

/-- The URL that a setting denotes: an empty setting means the default, a URL itself, and anything
else is a path, in which backslashes are slashes. -/
def normalize (setting : String) : String :=
  let trimmed := (Text.trim setting).toList
  if trimmed.isEmpty then default
  else if "sqlite:".toList.isPrefixOf trimmed || contains "://".toList trimmed then
    .ofList trimmed
  else "sqlite://" ++ .ofList (trimmed.map fun c => if c = '\\' then '/' else c)

/-- Drops a prefix as often as it stands at the front; `fuel` bounds how often. -/
def dropRepeated (lead : List Char) : Nat → List Char → List Char
  | 0, cs => cs
  | fuel + 1, cs =>
    if lead.isPrefixOf cs then dropRepeated lead fuel (cs.drop lead.length) else cs

/-- What follows the scheme, however often that is repeated. -/
def afterScheme (url : List Char) : List Char :=
  let rest := dropRepeated "sqlite://".toList url.length url
  dropRepeated "sqlite:".toList rest.length rest

/-- The path of the database file, as far as its parent directory is concerned. -/
def path? (url : String) : Option String :=
  let cs := url.toList
  if "sqlite::memory:".toList.isPrefixOf cs || !"sqlite:".toList.isPrefixOf cs then none
  else
    let path := (Text.cutAt '?' (afterScheme cs)).1
    if path.isEmpty then none else some (.ofList path)

/-! ## Parent directories -/

/-- Drops slashes, and components that stand for the directory itself, from the front of a reversed
path; a component that begins the path is kept. -/
def dropTrivial : List Char → List Char
  | [] => []
  | '/' :: rest => dropTrivial rest
  | '.' :: '/' :: rest => dropTrivial ('/' :: rest)
  | path => path
termination_by path => path.length

/-- The directory that a path is in; nothing for the root, the empty path for a single name. -/
def parent? (path : String) : Option String :=
  let cs := path.toList
  let isAbsolute := cs.head? = some '/'
  let named := dropTrivial cs.reverse
  if named.isEmpty then if isAbsolute || cs.isEmpty then none else some ""
  else
    let above := (dropTrivial (named.dropWhile (· != '/'))).reverse
    if above.isEmpty && isAbsolute then some "/" else some (.ofList above)

/-! ## What the driver reads -/

/-- How a database is to be opened. -/
structure Options where
  /-- The file, or nothing for a database in memory. -/
  file : Option String
  readOnly : Bool := false
  immutable : Bool := false
  /-- The file system layer asked for. -/
  layer : Option String := none
  deriving DecidableEq, Repr

def Options.add (options : Options) : String × String → Option Options
  | ("mode", "ro") => some { options with readOnly := true }
  | ("mode", "rw") => some options
  | ("mode", "rwc") => some options
  | ("mode", "memory") => some { options with file := none }
  | ("cache", "private") => some options
  | ("cache", "shared") => some options
  | ("immutable", "true") => some { options with immutable := true }
  | ("immutable", "1") => some { options with immutable := true }
  | ("immutable", "false") => some { options with immutable := false }
  | ("immutable", "0") => some { options with immutable := false }
  | ("vfs", layer) => some { options with layer := some layer }
  | _ => none

/-- The options in a URL; nothing if one of them is unknown or the path is no text.  The empty path
stands for a database of its own, like one in memory. -/
def options? (url : String) : Option Options := do
  let (path, query?) := Text.cutAt '?' (afterScheme url.toList)
  let decoded ← Text.decode? (Text.percentDecode (Text.utf8 path))
  let file : Option String :=
    if path = ":memory:".toList || path.isEmpty then none else some (.ofList decoded)
  (Text.formPairs (query?.getD [])).foldlM Options.add { file }

end Address
end WebClient
