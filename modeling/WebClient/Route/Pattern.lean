import WebClient.Text.Pieces
import WebClient.Text.Dict

/-!
# Pattern — the shapes of paths

A pattern is a path whose segments may capture: `:name` captures one segment, a trailing `*name`
captures all that remain, joined by slashes, possibly none.

* `Pattern.parse` reads a pattern or says what is wrong with it.
* `Pattern.match?` gives the captures of a path; of two captures with one name the later wins.
* `Pattern.ranksBefore` orders patterns with captures from specific to general.
-/

namespace WebClient

/-- A segment of a pattern. -/
inductive Segment where
  | literal (text : String)
  | param (name : String)
  | rest (name : String)
  deriving DecidableEq, Repr

/-- What is wrong with a written pattern. -/
inductive PatternFault where
  | noLeadingSlash
  | namelessParam
  | namelessRest
  | restNotLast
  deriving DecidableEq, Repr

/-- A pattern that was refused, and why. -/
structure PatternError where
  pattern : String
  fault : PatternFault
  deriving DecidableEq, Repr

namespace PatternFault

def message : PatternFault → String
  | .noLeadingSlash => "must start with '/'"
  | .namelessParam => "parameter without a name"
  | .namelessRest => "wildcard without a name"
  | .restNotLast => "wildcard must be the last segment"

end PatternFault

def PatternError.message (e : PatternError) : String :=
  "invalid route pattern '" ++ e.pattern ++ "': " ++ e.fault.message

/-- A pattern, as written and as read. -/
structure Pattern where
  text : String
  segments : List Segment
  deriving DecidableEq, Repr

namespace Pattern

/-- Reads one segment; `isLast` says whether no other follows. -/
def parseSegment (isLast : Bool) (segment : List Char) : Except PatternFault Segment :=
  match segment with
  | [':'] => .error .namelessParam
  | ':' :: name => .ok (.param (.ofList name))
  | ['*'] => .error .namelessRest
  | '*' :: name => if isLast then .ok (.rest (.ofList name)) else .error .restNotLast
  | literal => .ok (.literal (.ofList literal))

def parseSegments : List (List Char) → Except PatternFault (List Segment)
  | [] => .ok []
  | segment :: rest => do
    let first ← parseSegment rest.isEmpty segment
    let others ← parseSegments rest
    return first :: others

def parse (text : String) : Except PatternError Pattern :=
  match text.toList with
  | '/' :: _ =>
    match parseSegments (Text.segmentLists text.toList) with
    | .ok segments => .ok ⟨text, segments⟩
    | .error fault => .error ⟨text, fault⟩
  | _ => .error ⟨text, .noLeadingSlash⟩

def isLiteral : Segment → Bool
  | .literal _ => true
  | _ => false

def isExact (p : Pattern) : Bool := p.segments.all isLiteral

/-- The number of segments that stand for themselves. -/
def literalCount (p : Pattern) : Nat := p.segments.countP isLiteral

/-- Whether the pattern ends in a capture of all that remains. -/
def hasRest (p : Pattern) : Bool :=
  match p.segments.getLast? with
  | some (.rest _) => true
  | _ => false

/-- Whether `p` comes before `q` or ties with it: more literal segments first, then more segments,
then patterns that do not capture the rest. -/
def ranksBefore (p q : Pattern) : Bool :=
  if p.literalCount != q.literalCount then q.literalCount < p.literalCount
  else if p.segments.length != q.segments.length then q.segments.length < p.segments.length
  else !p.hasRest || q.hasRest

/-- The captures of a list of path segments, in order. -/
def captures? : List Segment → List String → Option (List (String × String))
  | [], [] => some []
  | [], _ :: _ => none
  | .literal text :: segments, part :: parts =>
    if text = part then captures? segments parts else none
  | .literal _ :: _, [] => none
  | .param name :: segments, part :: parts =>
    (captures? segments parts).map ((name, part) :: ·)
  | .param _ :: _, [] => none
  | .rest name :: _, parts => some [(name, Text.slashed parts)]

def match? (p : Pattern) (path : String) : Option (Dict String) :=
  (captures? p.segments (Text.segments path)).map Dict.ofList

end Pattern
end WebClient
