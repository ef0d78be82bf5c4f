import WebClient.Text.Blank
import WebClient.Url.Host

/-!
# Parse — URLs as browsers read them

A text is read as a URL without a base.  Schemes with rules of their own are `http`, `https`, `ws`,
`wss`, `ftp` and `file`; for them a backslash is a slash and a host is required (but by `file`).

* `Url.parse` reads a text or says why it is no URL.
-/

namespace WebClient

/-- A URL taken apart.  Path, query and fragment are in their percent-encoded form. -/
structure Url where
  scheme : String
  /-- User name and password, as written. -/
  credentials : String := ""
  host : Option Host := none
  /-- The port, if it is not the scheme's own. -/
  port : Option Nat := none
  path : String := ""
  query : Option String := none
  fragment : Option String := none
  deriving DecidableEq, Repr

namespace Url

/-! ## Characters -/

/-- Percent-encodes the characters that `keep` does not keep. -/
def encode (keep : Char → Bool) (cs : List Char) : List Char :=
  cs.flatMap fun c => if keep c then [c] else (Text.utf8 [c]).flatMap Text.percentTriplet

/-- Printable ASCII characters other than those listed. -/
def isPlainBut (listed : List Char) (c : Char) : Bool :=
  0x20 < c.toNat && c.toNat < 0x7F && !listed.contains c

/-- The characters that stand for themselves in a path. -/
def keepsInPath (c : Char) : Bool :=
  isPlainBut ['"', '#', '<', '>', '?', '\x60', '\x7b', '\x7d'] c

/-- The characters that stand for themselves in a query. -/
def keepsInQuery (isSpecial : Bool) (c : Char) : Bool :=
  isPlainBut (if isSpecial then ['"', '#', '<', '>', '\x27'] else ['"', '#', '<', '>']) c

/-- The characters that stand for themselves in a fragment. -/
def keepsInFragment (c : Char) : Bool := isPlainBut ['"', '<', '>', '\x60'] c

/-- The text without control characters and spaces at its ends, and without tabs and line breaks. -/
def tidy (cs : List Char) : List Char :=
  let isEdge (c : Char) : Bool := c.toNat ≤ 0x20
  let trimmed := ((cs.dropWhile isEdge).reverse.dropWhile isEdge).reverse
  trimmed.filter fun c => c != '\t' && c != '\n' && c != '\r'

/-! ## Schemes -/

def isSchemeChar (c : Char) : Bool := c.isAlphanum || c == '+' || c == '-' || c == '.'

/-- The scheme in lower case, and what follows its colon. -/
def scheme? (cs : List Char) : Option (List Char × List Char) :=
  match cs.takeWhile isSchemeChar, cs.dropWhile isSchemeChar with
  | first :: others, ':' :: rest =>
    if first.isAlpha then some ((first :: others).map Char.toLower, rest) else none
  | _, _ => none

/-- The port that a special scheme has by default; nothing for `file` and other schemes. -/
def defaultPort? (scheme : String) : Option Nat :=
  match scheme with
  | "http" | "ws" => some 80
  | "https" | "wss" => some 443
  | "ftp" => some 21
  | _ => none

def isSpecialScheme (scheme : String) : Bool := scheme == "file" || (defaultPort? scheme).isSome

def isSlash (isSpecial : Bool) (c : Char) : Bool := c == '/' || (isSpecial && c == '\\')

def endsAuthority (isSpecial : Bool) (c : Char) : Bool :=
  isSlash isSpecial c || c == '?' || c == '#'

/-! ## Paths -/

/-- Whether a segment stands for the directory that it is in. -/
def isSingleDot (segment : List Char) : Bool :=
  segment == ['.'] || segment.map Char.toLower == ['%', '2', 'e']

/-- Whether a segment stands for the directory above. -/
def isDoubleDot (segment : List Char) : Bool :=
  match segment.map Char.toLower with
  | ['.', '.'] => true
  | ['.', '%', '2', 'e'] => true
  | ['%', '2', 'e', '.'] => true
  | ['%', '2', 'e', '%', '2', 'e'] => true
  | _ => false

/-- The pieces of a path between slashes of either kind. -/
def pathPieces (isSpecial : Bool) (cs : List Char) : List (List Char) :=
  Text.pieces '/' (cs.map fun c => if isSlash isSpecial c then '/' else c)

/-- Resolves dot segments; the first argument holds the segments before, last first.  A dot segment
at the end leaves an empty segment. -/
def resolveDots : List (List Char) → List (List Char) → List (List Char)
  | before, [] => before.reverse
  | before, [segment] =>
    if isDoubleDot segment then ([] :: before.drop 1).reverse
    else if isSingleDot segment then ([] :: before).reverse
    else (segment :: before).reverse
  | before, segment :: rest =>
    if isDoubleDot segment then resolveDots (before.drop 1) rest
    else if isSingleDot segment then resolveDots before rest
    else resolveDots (segment :: before) rest

/-- The segments of a path as written after its first slash. -/
def pathSegments (isSpecial : Bool) (cs : List Char) : List (List Char) :=
  resolveDots [] ((pathPieces isSpecial cs).map (encode keepsInPath))

def pathText (segments : List (List Char)) : List Char := segments.flatMap ('/' :: ·)

/-- The path of a URL that has an authority, from what follows the authority. -/
def hierarchicalPath (isSpecial : Bool) : List Char → List Char
  | [] => if isSpecial then ['/'] else []
  | c :: rest =>
    if isSlash isSpecial c then pathText (pathSegments isSpecial rest)
    else pathText (pathSegments isSpecial (c :: rest))

/-! ## Authority -/

/-- What stands before and after the last `@`, if there is one. -/
def cutAtLastAt (cs : List Char) : Option (List Char × List Char) :=
  if cs.contains '@' then
    let reversed := cs.reverse
    some (((reversed.dropWhile (· != '@')).drop 1).reverse,
      (reversed.takeWhile (· != '@')).reverse)
  else none

/-- The host text up to the first colon outside of brackets, and the rest. -/
def cutHost (inBrackets : Bool) : List Char → List Char × List Char
  | [] => ([], [])
  | c :: rest =>
    if c == ':' && !inBrackets then ([], c :: rest)
    else
      let inside := if c == '[' then true else if c == ']' then false else inBrackets
      let (host, after) := cutHost inside rest
      (c :: host, after)

/-- Reads a port, and gives what follows its digits.  No digits are no port; what follows is nothing
or begins with a backslash, which ends an authority even where it is no slash. -/
def port? (cs : List Char) : Except UrlError (Option Nat × List Char) :=
  let digits := cs.takeWhile Char.isDigit
  let rest := cs.dropWhile Char.isDigit
  let value := Text.number? 10 digits
  if value.any (65535 < ·) || rest.head?.any (· != '\\') then .error .invalidPort
  else .ok (if digits.isEmpty then none else value, rest)

/-- Whether credentials hold a user name or a password. -/
def hasCredentials (cs : List Char) : Bool := !cs.isEmpty && cs != [':']

/-- An authority taken apart. -/
structure Authority where
  credentials : List Char := []
  host : Option Host := none
  port : Option Nat := none
  /-- What follows the port, up to where the authority ended. -/
  rest : List Char := []

def hostAndPort (scheme : String) (credentials cs : List Char) : Except UrlError Authority :=
  let isSpecial := isSpecialScheme scheme
  let (hostText, portText) := cutHost false cs
  if hostText.isEmpty then
    if isSpecial || !portText.isEmpty || hasCredentials credentials then .error .emptyHost
    else .ok { credentials }
  else
    match (if isSpecial then Host.parse hostText else Host.parseOpaque hostText) with
    | .error e => .error e
    | .ok host =>
      (port? (portText.drop 1)).map fun (port, rest) =>
        { credentials, rest
          host := some host
          port := if port = defaultPort? scheme then none else port }

/-- Reads the authority of a URL of a scheme other than `file`. -/
def authority (scheme : String) (cs : List Char) (isFollowed : Bool) :
    Except UrlError Authority :=
  let (credentials, cs') := (cutAtLastAt cs).getD ([], cs)
  if cs.head? = some '@' && cs'.isEmpty && credentials.isEmpty && isFollowed then
    .error .emptyHost
  else hostAndPort scheme credentials cs'

/-! ## URLs -/

/-- The parts of what follows the scheme or the authority: path, query and fragment. -/
def splitTail (cs : List Char) : List Char × Option (List Char) × Option (List Char) :=
  let (beforeFragment, fragment) := Text.cutAt '#' cs
  let (path, query) := Text.cutAt '?' beforeFragment
  (path, query, fragment)

/-- Puts a URL together from a path reader and what follows the authority. -/
def withTail (url : Url) (readPath : List Char → List Char) (cs : List Char) : Url :=
  let (path, query, fragment) := splitTail cs
  { url with
    path := .ofList (readPath path)
    query := query.map fun q =>
      .ofList (encode (keepsInQuery (isSpecialScheme url.scheme)) q)
    fragment := fragment.map fun f => .ofList (encode keepsInFragment f) }

/-- Reads what follows the two slashes of a URL of a scheme other than `file`. -/
def afterSlashes (scheme : String) (cs : List Char) : Except UrlError Url :=
  let isSpecial := isSpecialScheme scheme
  let authorityText := cs.takeWhile fun c => !endsAuthority isSpecial c
  let rest := cs.dropWhile fun c => !endsAuthority isSpecial c
  (authority scheme authorityText (!rest.isEmpty)).map fun a =>
    let url : Url :=
      { scheme, credentials := .ofList a.credentials, host := a.host, port := a.port }
    url.withTail (hierarchicalPath isSpecial) (a.rest ++ rest)

/-- Whether a text is a letter followed by a colon or a bar. -/
def isDriveLetter : List Char → Bool
  | [letter, mark] => letter.isAlpha && (mark == ':' || mark == '|')
  | _ => false

/-- Reads a `file` URL from what follows its colon. -/
def afterFile (cs : List Char) : Except UrlError Url :=
  match cs with
  | a :: b :: rest =>
    if isSlash true a && isSlash true b then
      let hostText := rest.takeWhile fun c => !endsAuthority true c
      let after := rest.dropWhile fun c => !endsAuthority true c
      let url : Url := { scheme := "file" }
      if hostText.isEmpty then .ok (url.withTail (hierarchicalPath true) after)
      else if isDriveLetter hostText then .ok (url.withTail (hierarchicalPath true) rest)
      else
        match Host.parse hostText with
        | .error e => .error e
        | .ok (.domain "localhost") => .ok (url.withTail (hierarchicalPath true) after)
        | .ok host => .ok ({ url with host := some host }.withTail (hierarchicalPath true) after)
    else .ok ({ scheme := "file" : Url }.withTail (hierarchicalPath true) cs)
  | _ => .ok ({ scheme := "file" : Url }.withTail (hierarchicalPath true) cs)

/-- Reads a URL of a scheme without rules of its own from what follows its colon. -/
def afterOther (scheme : String) (cs : List Char) : Except UrlError Url :=
  match cs with
  | '/' :: '/' :: rest => afterSlashes scheme rest
  | '/' :: _ => .ok ({ scheme : Url }.withTail (hierarchicalPath false) cs)
  | _ => .ok ({ scheme : Url }.withTail (encode fun c => 0x20 ≤ c.toNat && c.toNat < 0x7F) cs)

def parseChars (cs : List Char) : Except UrlError Url :=
  match scheme? (tidy cs) with
  | none => .error .relative
  | some (schemeChars, rest) =>
    let scheme := String.ofList schemeChars
    if scheme == "file" then afterFile rest
    else if isSpecialScheme scheme then afterSlashes scheme (rest.dropWhile (isSlash true))
    else afterOther scheme rest

def parse (text : String) : Except UrlError Url := parseChars text.toList

def isHttp (url : Url) : Bool := url.scheme == "http" || url.scheme == "https"

end Url
end WebClient
