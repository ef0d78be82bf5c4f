import WebClient.Page.View

/-!
# State — what the router knows

A router keeps the history of locations, the page that is shown, and the number of the latest
resolution.  Every change is made under the router's lock; each function here is one such section:
resolutions that overlap interleave between them, never inside.

* `begin` starts a resolution: it takes the next number and shows a loading page.
* `publish` shows the page of a resolution, unless a later one has begun.
* `push`, `replace` and `pop?` change the history; no location is entered twice in a row.
-/

namespace WebClient

/-- The page that is shown. -/
inductive ViewState where
  | idle
  | loading (path : String) (generation : Nat)
  | rendered (path : String) (view : View)
  | error (path message : String)
  deriving BEq, Repr, Inhabited

namespace ViewState

def toJson : ViewState → Json
  | .idle => .object [("state", .string "idle")]
  | .loading path generation =>
    .object [("state", .string "loading"), ("path", .string path), ("generation", .int generation)]
  | .rendered path view =>
    .object [("state", .string "rendered"), ("path", .string path), ("view", view.toJson)]
  | .error path message =>
    .object [("state", .string "error"), ("path", .string path), ("message", .string message)]

def path? : ViewState → Option String
  | .idle => none
  | .loading path _ => some path
  | .rendered path _ => some path
  | .error path _ => some path

end ViewState

/-- What the router knows. -/
structure RouterState where
  /-- Locations as they were asked for, oldest first. -/
  history : List String := []
  /-- The number of the latest resolution. -/
  generation : Nat := 0
  view : ViewState := .idle
  deriving BEq, Repr, Inhabited

namespace RouterState

def current? (s : RouterState) : Option String := s.history.getLast?

/-- Enters a location, unless it is the current one. -/
def push (s : RouterState) (location : String) : RouterState :=
  if s.current? = some location then s else { s with history := s.history ++ [location] }

/-- Lets the target of a redirect take the place of the location that caused it. -/
def replace (s : RouterState) (source target : String) : RouterState :=
  if s.current? = some source then { s with history := s.history.dropLast }.push target
  else s.push target

/-- Leaves the current location for the one before, if there is one. -/
def pop? (s : RouterState) : Option (String × RouterState) :=
  if s.history.length < 2 then none
  else
    let left : RouterState := { s with history := s.history.dropLast }
    left.current?.map fun location => (location, left)

def begin (s : RouterState) (path : String) : RouterState :=
  { s with generation := s.generation + 1, view := .loading path (s.generation + 1) }

def isLatest (s : RouterState) (generation : Nat) : Bool := s.generation == generation

/-- Shows the page of a resolution, if that is the latest. -/
def publish (s : RouterState) (generation : Nat) (view : ViewState) : RouterState :=
  if s.isLatest generation then { s with view } else s

end RouterState
end WebClient
