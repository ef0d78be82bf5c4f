import WebClient.Number.Binary64

/-!
# Shortest — the fewest decimal digits that read back

A double is written with the fewest decimal digits that round back to it, and of those numbers with
the nearest.  The candidates on a decimal grid are the two grid points around the value; grids are
tried from coarse to fine, and seventeen digits always suffice.

Two layouts are needed.

* `layout` is positional for values from `1e-5` to below `1e16` and scientific elsewhere; a whole
  number keeps a trailing `.0`.
* `positional` never uses an exponent.
-/

namespace WebClient
namespace Binary64

/-- A decimal number `digits * 10 ^ power`. -/
structure Decimal where
  digits : Nat
  power : Int
  deriving DecidableEq, Repr

/-- The number of decimal digits of a natural number. -/
def digitCount (n : Nat) : Nat := (Nat.toDigits 10 n).length

/-- The decimal exponent of the leading digit of a positive ratio. -/
def magnitude (num den : Nat) : Int :=
  if den ≤ num then (digitCount (num / den) : Int) - 1 else -(digitCount (den / num) : Int)

/-- The reals that round to a double: bounds in quarters of the last place, and whether the bounds
themselves belong to it. -/
def neighbourhood (x : Binary64) : Nat × Nat × Bool :=
  let m := x.significand
  let below := if m = leastNormal && minExponent < x.exponent then 4 * m - 1 else 4 * m - 2
  (below, 4 * m + 2, m % 2 == 0)

/-- The point of the grid `10 ^ power` that is nearest to `x` among those that round to `x`. -/
def onGrid? (x : Binary64) (power : Int) : Option Nat :=
  let (low, high, closed) := x.neighbourhood
  -- Everything is measured in quarters of the last place, times `unit / grid` to clear fractions.
  let (unit, step) :=
    let quarter := x.exponent - 2
    let twos :=
      if 0 ≤ quarter then (Nat.pow 2 quarter.toNat, 1) else (1, Nat.pow 2 (-quarter).toNat)
    let tens := if 0 ≤ power then (Nat.pow 10 power.toNat, 1) else (1, Nat.pow 10 (-power).toNat)
    (twos.1 * tens.2, tens.1 * twos.2)
  let value := 4 * x.significand * unit
  let inside (c : Nat) : Bool :=
    let p := c * step
    if closed then low * unit ≤ p && p ≤ high * unit else low * unit < p && p < high * unit
  let floor := value / step
  let distanceUp := (floor + 1) * step - value
  let distanceDown := value - floor * step
  match inside floor && floor != 0, inside (floor + 1) with
  | true, true =>
    if distanceDown < distanceUp || (distanceDown == distanceUp && floor % 2 == 0) then some floor
    else some (floor + 1)
  | true, false => some floor
  | false, true => some (floor + 1)
  | false, false => none

def searchGrids (x : Binary64) : Nat → Int → Decimal
  | 0, power => ⟨(x.onGrid? power).getD 0, power⟩
  | tries + 1, power =>
    match x.onGrid? power with
    | some digits => ⟨digits, power⟩
    | none => searchGrids x tries (power - 1)

/-- The shortest decimal that reads back as the positive magnitude of `x`. -/
def shortest (x : Binary64) : Decimal :=
  let (num, den) := x.ratio
  searchGrids x 17 (magnitude num den + 1)

def digitChars (n : Nat) : List Char := Nat.toDigits 10 n

/-- A decimal written without an exponent; a whole number gets a trailing `.0`. -/
def pointed (digits : List Char) (power : Int) : List Char :=
  let whole := (digits.length : Int) + power
  if 0 ≤ power then digits ++ List.replicate power.toNat '0' ++ ['.', '0']
  else if 0 < whole then digits.take whole.toNat ++ '.' :: digits.drop whole.toNat
  else '0' :: '.' :: (List.replicate (-whole).toNat '0' ++ digits)

/-- A decimal written with one digit before the point and an exponent. -/
def scientific (digits : List Char) (power : Int) : List Char :=
  let exponent := (digits.length : Int) + power - 1
  let mantissa :=
    match digits with
    | first :: second :: rest => first :: '.' :: second :: rest
    | other => other
  mantissa ++ 'e' :: (toString exponent).toList

def signed (x : Binary64) (magnitude : List Char) : List Char :=
  if x.negative then '-' :: magnitude else magnitude

/-- The number in the fewest digits, positional from `1e-5` to below `1e16`. -/
def layout (x : Binary64) : List Char :=
  x.signed <|
    if x.isZero then ['0', '.', '0']
    else
      let d := x.shortest
      let digits := digitChars d.digits
      let point := (digits.length : Int) + d.power
      if -5 < point && point ≤ 16 then pointed digits d.power else scientific digits d.power

/-- The number in the fewest digits, always positional. -/
def positional (x : Binary64) : List Char :=
  x.signed <|
    if x.isZero then ['0', '.', '0']
    else
      let d := x.shortest
      pointed (digitChars d.digits) d.power

end Binary64
end WebClient
