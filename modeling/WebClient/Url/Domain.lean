import WebClient.Text.Pieces
import WebClient.Text.Percent
import WebClient.Unicode.Direction
import WebClient.Unicode.Joining
import WebClient.Unicode.Mark
import WebClient.Unicode.Normal
import WebClient.Url.Mapping
import WebClient.Url.Punycode

/-!
# Domain — names of hosts in all scripts

A domain is percent-decoded and mapped, brought to normal form and cut into labels.  A label in
Punycode is decoded; what it stands for has to be what the mapping would leave.  Then every label is
checked, in the script that it is read in:

* it holds no ASCII characters that delimit the parts of a URL;
* it does not begin with a mark;
* invisible joiners stand only where they change how letters are drawn;
* if any label of the domain holds characters that run from right to left, every label keeps its
  characters together.

A domain that passes is written in ASCII.
-/

namespace WebClient
namespace Domain

/-! ## Labels -/

def isAscii (c : Char) : Bool := c.toNat < 0x80

/-- ASCII characters that have no place in a domain: controls, the space, and `#%/:<>?@[\]^|`. -/
def isForbidden (c : Char) : Bool :=
  c.toNat ≤ 0x20 || c.toNat == 0x7F || "#%/:<>?@[\\]^|".toList.contains c

def codedStart : List Char := ['x', 'n', '-', '-']

/-- Labels in Punycode are read up to this length, without what they begin with. -/
def maxCoded : Nat := 2000

/-- Labels with other than ASCII characters are written up to this length. -/
def maxUncoded : Nat := 1000

/-- Whether a text is one that mapping and normal form leave alone. -/
def isStable (label : List Char) : Bool :=
  label.all (fun c => mapChar? c == some [c]) && Unicode.normalize label == label

/-- The label that is read where `label` is written; Punycode is all ASCII. -/
def reading? (label : List Char) : Option (List Char) :=
  if codedStart.isPrefixOf label then do
    let coded := label.drop codedStart.length
    let decoded ←
      if coded.all isAscii && coded.length ≤ maxCoded then Punycode.decode? coded else none
    if !decoded.all isAscii && isStable decoded then some decoded else none
  else some label

def toAscii (label : List Char) : List Char :=
  if label.all isAscii then label else codedStart ++ Punycode.encode label

/-! ## Checks -/

def nonJoiner : Char := '\u200c'

def joiner : Char := '\u200d'

/-- Whether a joiner has an effect between what stands before it, last first, and what follows:
after a sign that takes a vowel away, and if it keeps letters apart also between letters that would
hang together. -/
def joinerFits (isNonJoiner : Bool) (before after : List Char) : Bool :=
  match before with
  | [] => false
  | previous :: _ =>
    Unicode.isVirama previous ||
      (isNonJoiner && Unicode.meets (·.joinsNext) before && Unicode.meets (·.joinsPrevious) after)

/-- Whether every joiner in a text has an effect; `before` is what precedes the text, last first. -/
def joinersFit (before : List Char) : List Char → Bool
  | [] => true
  | c :: after =>
    (if c == nonJoiner || c == joiner then joinerFits (c == nonJoiner) before after else true) &&
      joinersFit (c :: before) after

/-- Whether a label, as it is read, is well formed by itself. -/
def isLabel (label : List Char) : Bool :=
  !label.any isForbidden &&
    (label.all isAscii ||
      (!label.head?.any Unicode.isMark && joinersFit [] label && label.length ≤ maxUncoded))

/-- Whether labels may stand side by side: as soon as one runs from right to left, all have to keep
their characters together. -/
def areCompatible (labels : List (List Char)) : Bool :=
  !labels.any (fun label => label.any Unicode.runsLeft) || labels.all Unicode.isOneWay

/-! ## Domains -/

/-- What a text becomes by mapping, in normal form; nothing if a character has no place in a
domain. -/
def mapped? (cs : List Char) : Option (List Char) :=
  (cs.mapM mapChar?).map fun images => Unicode.normalize images.flatten

/-- The domain in ASCII, if the text is a domain. -/
def parse? (cs : List Char) : Option (List Char) := do
  let decoded ← Text.decode? (Text.percentDecode (Text.utf8 cs))
  let mapped ← mapped? decoded
  let written := Text.pieces '.' mapped
  let labels ← written.mapM reading?
  if labels.all isLabel && areCompatible labels then
    some (Text.joined '.' (written.map toAscii))
  else none

end Domain
end WebClient
