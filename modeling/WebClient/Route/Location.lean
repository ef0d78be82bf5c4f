import WebClient.Text.Percent
import WebClient.Text.Dict

/-!
# Location — where a client is asked to go

A location is written `path?query#fragment`.  The fragment is dropped, the path brought to the form
`/a/b` without empty segments, and the query read as form-encoded pairs.
-/

namespace WebClient

/-- A path in normal form, and query parameters. -/
structure Location where
  path : String
  query : Dict String
  deriving DecidableEq, Repr

namespace Location

/-- The parts of a written location: its path as written, and its query text. -/
def split (raw : List Char) : List Char × List Char :=
  let (path, query?) := Text.cutAt '?' (Text.cutAt '#' raw).1
  (path, query?.getD [])

/-- A path with its non-empty segments, a slash before each, or the single slash. -/
def normalPath (path : List Char) : List Char :=
  '/' :: Text.joined '/' (Text.segmentLists path)

/-- Reads a written location.  Of two query parameters with one name the later wins. -/
def parse (raw : String) : Location :=
  let (path, query) := split raw.toList
  ⟨.ofList (normalPath path), Dict.ofList (Text.formPairs query)⟩

end Location
end WebClient
