/-!
# Hex — hexadecimal digits

Digits are read in either case and written in the case that the format asks for.  `number?` reads
the digits of every base up to 16.
-/

namespace WebClient
namespace Text

/-- The value of a hexadecimal digit of either case. -/
def hexValue? (c : Char) : Option Nat :=
  let n := c.toNat
  if 0x30 ≤ n && n ≤ 0x39 then some (n - 0x30)
  else if 0x41 ≤ n && n ≤ 0x46 then some (n - 0x41 + 10)
  else if 0x61 ≤ n && n ≤ 0x66 then some (n - 0x61 + 10)
  else none

/-- The number that digits denote in a base of at most 16; nothing if a digit is too large. -/
def number? (base : Nat) (digits : List Char) : Option Nat :=
  digits.foldlM (fun n c =>
    match hexValue? c with
    | some d => if d < base then some (n * base + d) else none
    | none => none) 0

/-- The digit of a number below 16, in upper case. -/
def hexUpper (n : Nat) : Char :=
  if n < 10 then Char.ofNat (0x30 + n) else Char.ofNat (0x41 + (n - 10))

/-- The digit of a number below 16, in lower case. -/
def hexLower (n : Nat) : Char :=
  if n < 10 then Char.ofNat (0x30 + n) else Char.ofNat (0x61 + (n - 10))

theorem hexValue?_hexUpper {n : Nat} (h : n < 16) : hexValue? (hexUpper n) = some n := by
  have all : ∀ m ∈ List.range 16, hexValue? (hexUpper m) = some m := by decide
  exact all n (List.mem_range.mpr h)

theorem hexValue?_hexLower {n : Nat} (h : n < 16) : hexValue? (hexLower n) = some n := by
  have all : ∀ m ∈ List.range 16, hexValue? (hexLower m) = some m := by decide
  exact all n (List.mem_range.mpr h)

end Text
end WebClient
