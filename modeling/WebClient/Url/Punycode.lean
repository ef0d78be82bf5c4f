/-!
# Punycode — domain labels in ASCII clothes

A label that begins with `xn--` stands for a label with other than ASCII characters.  The ASCII
characters of that label come first, followed by a hyphen if there are any; the rest are generalised
variable-length integers that say where further characters are inserted.

* `decode?` reads what follows `xn--`.
* `encode` writes it.
-/

namespace WebClient
namespace Punycode

/-! ## Digits and weights -/

/-- The value of a digit: letters are 0 to 25, decimal digits 26 to 35. -/
def digitValue? (c : Char) : Option Nat :=
  let n := c.toNat
  if 0x61 ≤ n && n ≤ 0x7A then some (n - 0x61)
  else if 0x41 ≤ n && n ≤ 0x5A then some (n - 0x41)
  else if 0x30 ≤ n && n ≤ 0x39 then some (n - 0x30 + 26)
  else none

def digitOf (value : Nat) : Char :=
  if value < 26 then Char.ofNat (0x61 + value) else Char.ofNat (0x30 + (value - 26))

/-- The threshold of the digit at weight position `k`. -/
def threshold (k bias : Nat) : Nat :=
  if k ≤ bias then 1 else if bias + 26 ≤ k then 26 else k - bias

/-- Thresholds are positive, so that every further digit makes what is left smaller. -/
theorem threshold_pos (k bias : Nat) : 0 < threshold k bias := by
  unfold threshold
  split
  · omega
  · split <;> omega

/-- Divides by 35 until at most 455 is left; counts 36 for each division. -/
def shrink : Nat → Nat → Nat × Nat
  | 0, delta => (delta, 0)
  | steps + 1, delta =>
    if 455 < delta then
      let (rest, k) := shrink steps (delta / 35)
      (rest, k + 36)
    else (delta, 0)

def adapt (delta count : Nat) (isFirst : Bool) : Nat :=
  let halved := if isFirst then delta / 700 else delta / 2
  let (rest, k) := shrink 64 (halved + halved / count)
  k + 36 * rest / (rest + 38)

/-! ## Reading -/

/-- A decoder between digits. -/
structure State where
  output : List Nat
  codePoint : Nat := 128
  /-- The insertion position, counted over all code points. -/
  index : Nat := 0
  bias : Nat := 72
  /-- The integer being read: its value so far, weight and weight position, if one is begun. -/
  value : Nat := 0
  weight : Nat := 1
  position : Nat := 36
  isBetween : Bool := true

def insertAt (output : List Nat) (position codePoint : Nat) : List Nat :=
  output.take position ++ codePoint :: output.drop position

/-- Positions and weights are numbers of 32 bits. -/
def limit : Nat := 0x100000000

def step (s : State) (c : Char) : Option State := do
  let digit ← digitValue? c
  let value := s.value + digit * s.weight
  let t := threshold s.position s.bias
  if limit ≤ s.index + value then none
  else if digit < t then
    let count := s.output.length + 1
    let index := s.index + value
    let codePoint := s.codePoint + index / count
    if codePoint < 0x110000 && !(0xD800 ≤ codePoint && codePoint < 0xE000) then
      some {
        output := insertAt s.output (index % count) codePoint
        codePoint
        index := index % count + 1
        bias := adapt value count (s.index == 0 && s.codePoint == 128) }
    else none
  else
    let weight := s.weight * (36 - t)
    if limit ≤ weight then none
    else some { s with value, weight, position := s.position + 36, isBetween := false }

/-- The characters of a label after `xn--`.  A hyphen that nothing precedes is not a digit. -/
def decode? (label : List Char) : Option (List Char) := do
  let reversed := label.reverse
  let basic := ((reversed.dropWhile (· != '-')).drop 1).reverse
  let digits := if basic.isEmpty then label else (reversed.takeWhile (· != '-')).reverse
  let start : State := { output := basic.map Char.toNat }
  let final ← digits.foldlM step start
  if final.isBetween then some (final.output.map Char.ofNat) else none

/-! ## Writing -/

/-- The digits of an integer, from weight position `k` on. -/
def digitsOf (bias k value : Nat) : List Char :=
  let t := threshold k bias
  if value < t then [digitOf value]
  else digitOf (t + (value - t) % (36 - t)) :: digitsOf bias (k + 36) ((value - t) / (36 - t))
termination_by value
decreasing_by
  have := threshold_pos k bias
  exact Nat.lt_of_le_of_lt (Nat.div_le_self _ _) (by omega)

/-- An encoder between code points. -/
structure Writer where
  /-- The digits written, in groups, last first. -/
  groups : List (List Char) := []
  delta : Nat := 0
  bias : Nat := 72
  /-- How many code points have been written. -/
  count : Nat

/-- Passes one code point of the label, when those below `code` have been written. -/
def Writer.pass (basicCount code : Nat) (w : Writer) (c : Nat) : Writer :=
  if c < code then { w with delta := w.delta + 1 }
  else if c = code then
    { groups := digitsOf w.bias 36 w.delta :: w.groups
      bias := adapt w.delta (w.count + 1) (w.count == basicCount)
      count := w.count + 1 }
  else w

/-- Writes all occurrences of code points in ascending order; `next` follows the one before. -/
def writeAll (label : List Nat) (basicCount : Nat) : Nat → List Nat → Writer → Writer
  | _, [], w => w
  | next, code :: codes, w =>
    let start := { w with delta := w.delta + (code - next) * (w.count + 1) }
    let passed := label.foldl (Writer.pass basicCount code) start
    writeAll label basicCount (code + 1) codes { passed with delta := passed.delta + 1 }

def isBasic (code : Nat) : Bool := code < 128

def encode (label : List Char) : List Char :=
  let codes := label.map Char.toNat
  let basic := label.filter fun c => isBasic c.toNat
  let further := (codes.filter fun c => !isBasic c).mergeSort fun a b => decide (a ≤ b)
  let writer := writeAll codes basic.length 128 further.eraseDups { count := basic.length }
  basic ++ (if basic.isEmpty then [] else ['-']) ++ writer.groups.reverse.flatten

end Punycode
end WebClient
