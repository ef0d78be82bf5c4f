import WebClient.Unicode.Combining
import WebClient.Unicode.Decomposition

/-!
# Normal — one way to write a text

Texts that mean the same have one normal form: everything is decomposed, the marks after a character
are put in the order of their classes, and what can be written as one character is composed again.

* `normalize` brings a text to its normal form.
-/

namespace WebClient
namespace Unicode

/-- A code point with its combining class. -/
structure Placed where
  code : Nat
  placement : Nat

def Placed.of (code : Nat) : Placed := ⟨code, combiningClass code⟩

/-! ## The order of marks -/

/-- Puts a mark behind the marks of lower classes that a text begins with. -/
def insertMark (mark : Placed) : List Placed → List Placed
  | [] => [mark]
  | next :: rest =>
    if next.placement != 0 && next.placement < mark.placement then next :: insertMark mark rest
    else mark :: next :: rest

/-- Puts the marks after each character in the order of their classes; marks of one class keep their
order. -/
def orderMarks : List Placed → List Placed
  | [] => []
  | p :: rest =>
    if p.placement = 0 then p :: orderMarks rest else insertMark p (orderMarks rest)

/-! ## Composing -/

/-- A text on its way from left to right. -/
structure Composer where
  /-- What is finished, last first. -/
  finished : List Nat := []
  /-- The character that marks may still be composed with. -/
  starter : Option Nat := none
  /-- The marks after it that were not, last first. -/
  marks : List Placed := []

namespace Composer

def written (s : Composer) : List Nat :=
  s.marks.map Placed.code ++ s.starter.toList ++ s.finished

/-- Whether nothing stands between the starter and a code point that comes next: neither a character
nor a mark of the same class or a higher one. -/
def reaches (s : Composer) (p : Placed) : Bool :=
  match s.marks with
  | [] => true
  | mark :: _ => mark.placement < p.placement

def write (s : Composer) (p : Placed) : Composer :=
  if p.placement = 0 then { finished := s.written, starter := some p.code }
  else
    match s.starter with
    | none => { s with finished := p.code :: s.finished }
    | some _ => { s with marks := p :: s.marks }

def step (s : Composer) (p : Placed) : Composer :=
  match s.starter.bind fun starter => if s.reaches p then compose? starter p.code else none with
  | some code => { s with starter := some code }
  | none => s.write p

end Composer

def composeAll (text : List Placed) : List Nat := (text.foldl Composer.step {}).written.reverse

/-- The normal form of a text.  A text without characters from U+0300 on has its own. -/
def normalize (cs : List Char) : List Char :=
  if cs.all fun c => c.toNat < 0x300 then cs
  else
    let parts := cs.flatMap fun c => (decompose c.toNat).map Placed.of
    (composeAll (orderMarks parts)).map Char.ofNat

end Unicode
end WebClient
