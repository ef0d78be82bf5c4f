import WebClient.Json.Basic

/-!
# Number — the value of a number literal

A literal is a sign, whole digits, and optionally a fraction and an exponent.  Without fraction and
exponent it is an integer if it fits 64 bits; `-0` and everything else is a double.

The double is computed as follows.  The digits are gathered into a 64-bit significand until the next
digit would overflow it: of the whole digits left out only the count matters, fraction digits left
out do not matter at all.  The significand is rounded to a double, then multiplied or divided by the
double nearest to a power of ten; exponents below -308 are taken in steps of 308.  A literal whose
value is too large for a double has no value.
-/

namespace WebClient
namespace Json

/-- A number as written; digits are values from 0 to 9. -/
structure Literal where
  negative : Bool
  whole : List Nat
  fraction : List Nat
  /-- Sign and digits of the exponent. -/
  exponent : Option (Bool × List Nat)

namespace Literal

/-- The least number that needs more than 64 bits. -/
def wordLimit : Nat := 18446744073709551616

/-- Appends digits to a number while it stays below `wordLimit`; also counts those appended. -/
def gather : Nat → List Nat → Nat × Nat
  | n, [] => (n, 0)
  | n, digit :: rest =>
    if n * 10 + digit < wordLimit then
      let (total, count) := gather (n * 10 + digit) rest
      (total, count + 1)
    else (n, 0)

def ofDigits (digits : List Nat) : Nat := digits.foldl (fun n digit => n * 10 + digit) 0

/-- Divides by `1e308` until the exponent is at least -308 or the number is zero. -/
def reduceExponent : Nat → Binary64 → Int → Binary64 × Int
  | 0, x, exponent => (x, exponent)
  | steps + 1, x, exponent =>
    if -308 ≤ exponent || x.isZero then (x, exponent)
    else
      match Binary64.powerOfTen? 308 with
      | none => (x, exponent)
      | some power => reduceExponent steps ((x.over? power).getD x) (exponent + 308)

/-- The double near `significand * 10 ^ exponent`, computed by one product or quotient. -/
def scale? (negative : Bool) (significand : Nat) (exponent : Int) : Option Binary64 := do
  let start ← Binary64.ofNat? negative significand
  if 308 < exponent then
    if start.isZero then some start else none
  else if 0 ≤ exponent then
    start.times? (← Binary64.powerOfTen? exponent.toNat)
  else
    let (x, rest) := reduceExponent 4 start exponent
    if x.isZero then some x
    else x.over? (← Binary64.powerOfTen? (-rest).toNat)

/-- The greatest exponent that is read as a number. -/
def exponentLimit : Nat := 2147483647

def float? (l : Literal) : Option Binary64 :=
  let (start, takenWhole) := gather 0 l.whole
  let (significand, takenFraction) := gather start l.fraction
  let shift : Int := ((l.whole.length - takenWhole : Nat) : Int) - (takenFraction : Int)
  match l.exponent with
  | none => scale? l.negative significand shift
  | some (negative, digits) =>
    let size := ofDigits digits
    if exponentLimit < size then
      if significand != 0 && !negative then none else some (Binary64.zero l.negative)
    else scale? l.negative significand (if negative then shift - size else shift + size)

/-- The value of a literal, if it is not too large. -/
def value? (l : Literal) : Option Json :=
  let n := ofDigits l.whole
  if l.fraction.isEmpty && l.exponent.isNone && n < wordLimit then
    if !l.negative then some (.int n)
    else if n = 0 then some (.float (Binary64.zero true))
    else if n ≤ minInt64.natAbs then some (.int (-(n : Int)))
    else (Binary64.ofNat? true n).map .float
  else l.float?.map .float

end Literal
end Json
end WebClient
