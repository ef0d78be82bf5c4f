import WebClient.Text.Hex
import WebClient.Text.Utf8
import WebClient.Text.Pieces

/-!
# Percent — percent triplets and form encoding

`application/x-www-form-urlencoded` writes a list of key/value pairs as `k=v&k=v`.  Letters, digits
and `*-._` stand for themselves, a space is written `+`, every other byte of the UTF-8 text is
written `%XX`.

* `formEncode` writes one key or value, `formQuery` a list of pairs.
* `formPairs` reads a list of pairs back; it never fails: a percent sign that two hexadecimal digits
  do not follow stands for itself, and malformed UTF-8 becomes U+FFFD.
-/

namespace WebClient
namespace Text

/-- A byte as a percent sign and two upper-case hexadecimal digits. -/
def percentTriplet (b : UInt8) : List Char :=
  ['%', hexUpper (b.toNat / 16), hexUpper (b.toNat % 16)]

/-- Bytes with every percent triplet replaced by the byte that it names. -/
def percentDecode : List UInt8 → List UInt8
  | [] => []
  | [b] => [b]
  | [b, c] => [b, c]
  | b :: high :: low :: rest =>
    if b = 0x25 then
      match hexValue? (Char.ofNat high.toNat), hexValue? (Char.ofNat low.toNat) with
      | some h, some l => UInt8.ofNat (h * 16 + l) :: percentDecode rest
      | _, _ => b :: percentDecode (high :: low :: rest)
    else b :: percentDecode (high :: low :: rest)

/-! ## Form encoding -/

/-- The bytes that form encoding leaves alone: letters, digits and `*-._`. -/
def isFormSafe (b : UInt8) : Bool :=
  let n := b.toNat
  (0x30 ≤ n && n ≤ 0x39) || (0x41 ≤ n && n ≤ 0x5A) || (0x61 ≤ n && n ≤ 0x7A) ||
    n == 0x2A || n == 0x2D || n == 0x2E || n == 0x5F

def formByte (b : UInt8) : List Char :=
  if isFormSafe b then [Char.ofNat b.toNat]
  else if b = 0x20 then ['+']
  else percentTriplet b

def formEncodeChars (cs : List Char) : List Char := (utf8 cs).flatMap formByte

def formEncode (s : String) : String := .ofList (formEncodeChars s.toList)

def formQuery (pairs : List (String × String)) : List Char :=
  joined '&' (pairs.map fun (key, value) =>
    formEncodeChars key.toList ++ '=' :: formEncodeChars value.toList)

/-- One key or value read back from its written form. -/
def formDecode (cs : List Char) : String :=
  let bytes := (utf8 cs).map fun b => if b = 0x2B then 0x20 else b
  .ofList (decodeLossy (percentDecode bytes))

/-- The pairs of a query text, in order; empty pieces between `&` are no pairs. -/
def formPairs (query : List Char) : List (String × String) :=
  ((pieces '&' query).filter fun piece => !piece.isEmpty).map fun piece =>
    let (key, value?) := cutAt '=' piece
    (formDecode key, formDecode (value?.getD []))

end Text
end WebClient
