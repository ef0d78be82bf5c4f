/-!
# Binary64 — finite 64-bit floating-point numbers, exactly

A finite double is a sign and the value `significand * 2 ^ exponent`, in the one form in which the
significand is below `2 ^ 53` and the exponent is as small as the format allows.  Rounding and
arithmetic are done in natural numbers, so that every result can be computed inside a proof.

* `ofRatio?` rounds a ratio of natural numbers to the nearest double, ties to the even significand;
  it fails where the rounded magnitude exceeds the largest double.
* `times?` and `over?` are the rounded product and quotient.
-/

namespace WebClient

/-- A finite double. -/
structure Binary64 where
  negative : Bool
  significand : Nat
  exponent : Int
  deriving DecidableEq, Repr, Inhabited

namespace Binary64

/-- The least exponent, that of zero and of the subnormal numbers. -/
def minExponent : Int := -1074

def maxExponent : Int := 971

/-- The least significand of a number that is not subnormal, `2 ^ 52`. -/
def leastNormal : Nat := 4503599627370496

def zero (negative : Bool) : Binary64 := ⟨negative, 0, minExponent⟩

def isZero (x : Binary64) : Bool := x.significand == 0

/-- `num / den`, to the nearest natural number, a half to the even neighbour. -/
def roundDiv (num den : Nat) : Nat :=
  let quotient := num / den
  let twice := 2 * (num % den)
  if den < twice || (twice == den && quotient % 2 == 1) then quotient + 1 else quotient

/-- A positive ratio scaled by `2 ^ (-exponent)`, as numerator and denominator. -/
def scaled (num den : Nat) (exponent : Int) : Nat × Nat :=
  if 0 ≤ exponent then (num, den * Nat.pow 2 exponent.toNat)
  else (num * Nat.pow 2 (-exponent).toNat, den)

/-- The exponent at which `num / den` has a 53-bit integral part, or the least one. -/
def fittingExponent (num den : Nat) : Int :=
  let guess : Int := (num.log2 : Int) - (den.log2 : Int) - 52
  let (n, d) := scaled num den guess
  max minExponent (if n / d < leastNormal then guess - 1 else guess)

/-- The double nearest to `num / den`, or nothing if its magnitude is too large. -/
def ofRatio? (negative : Bool) (num den : Nat) : Option Binary64 :=
  if num = 0 then some (zero negative)
  else
    let exponent := fittingExponent num den
    let (n, d) := scaled num den exponent
    let significand := roundDiv n d
    let carried : Nat × Int :=
      if significand = 2 * leastNormal then (leastNormal, exponent + 1) else (significand, exponent)
    if maxExponent < carried.2 then none
    else if carried.1 = 0 then some (zero negative)
    else some ⟨negative, carried.1, carried.2⟩

def ofNat? (negative : Bool) (n : Nat) : Option Binary64 := ofRatio? negative n 1

/-- The magnitude as a numerator and a denominator. -/
def ratio (x : Binary64) : Nat × Nat :=
  if 0 ≤ x.exponent then (x.significand * Nat.pow 2 x.exponent.toNat, 1)
  else (x.significand, Nat.pow 2 (-x.exponent).toNat)

def times? (x y : Binary64) : Option Binary64 :=
  let (a, b) := x.ratio
  let (c, d) := y.ratio
  ofRatio? (x.negative != y.negative) (a * c) (b * d)

/-- The rounded quotient; nothing if the divisor is zero or the quotient too large. -/
def over? (x y : Binary64) : Option Binary64 :=
  let (a, b) := x.ratio
  let (c, d) := y.ratio
  if y.isZero then none else ofRatio? (x.negative != y.negative) (a * d) (b * c)

/-- The double nearest to a power of ten, for exponents up to 308. -/
def powerOfTen? (k : Nat) : Option Binary64 := ofNat? false (Nat.pow 10 k)

end Binary64
end WebClient
