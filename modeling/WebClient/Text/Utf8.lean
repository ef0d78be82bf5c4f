/-!
# Utf8 — texts as bytes and back

Encoding is core's.  Decoding comes in two forms over one scanner: `decodeLossy` writes U+FFFD for
each longest malformed stretch that begins a well-formed character, `decode?` refuses malformed
input.

The scanner reads one byte at a time.  Between bytes it is either at a character's start or inside
a character, where it knows how many bytes are still needed and in which range the next one must
lie; the ranges shut out overlong forms, surrogates and code points above U+10FFFF.
-/

namespace WebClient
namespace Text

def utf8 (cs : List Char) : List UInt8 := cs.flatMap String.utf8EncodeChar

def utf8Bytes (s : String) : List UInt8 := utf8 s.toList

namespace Utf8

/-- A character of which the first bytes have been read. -/
structure Started where
  /-- How many bytes are still needed, at least one. -/
  needed : Nat
  /-- The bits read so far. -/
  code : Nat
  /-- The range of the next byte. -/
  lower : Nat
  upper : Nat

/-- What a byte at the start of a character means. -/
inductive Lead where
  | char (c : Char)
  | started (p : Started)
  | malformed

def lead (byte : UInt8) : Lead :=
  let b := byte.toNat
  if b < 0x80 then .char (Char.ofNat b)
  else if b < 0xC2 then .malformed
  else if b < 0xE0 then .started ⟨1, b - 0xC0, 0x80, 0xBF⟩
  else if b < 0xF0 then
    .started ⟨2, b - 0xE0, if b = 0xE0 then 0xA0 else 0x80, if b = 0xED then 0x9F else 0xBF⟩
  else if b < 0xF5 then
    .started ⟨3, b - 0xF0, if b = 0xF0 then 0x90 else 0x80, if b = 0xF4 then 0x8F else 0xBF⟩
  else .malformed

/-- Scans bytes into characters; `none` stands for a malformed stretch. -/
def scan : Option Started → List UInt8 → List (Option Char)
  | none, [] => []
  | some _, [] => [none]
  | none, byte :: rest =>
    match lead byte with
    | .char c => some c :: scan none rest
    | .started p => scan (some p) rest
    | .malformed => none :: scan none rest
  | some p, byte :: rest =>
    if p.lower ≤ byte.toNat && byte.toNat ≤ p.upper then
      let code := p.code * 64 + (byte.toNat - 0x80)
      if p.needed ≤ 1 then some (Char.ofNat code) :: scan none rest
      else scan (some ⟨p.needed - 1, code, 0x80, 0xBF⟩) rest
    else
      none ::
        match lead byte with
        | .char c => some c :: scan none rest
        | .started q => scan (some q) rest
        | .malformed => none :: scan none rest

end Utf8

/-- The characters of a byte list, with U+FFFD for every malformed stretch. -/
def decodeLossy (bytes : List UInt8) : List Char :=
  (Utf8.scan none bytes).map fun c? => c?.getD '\uFFFD'

/-- The characters of a byte list, or nothing if it is not UTF-8. -/
def decode? (bytes : List UInt8) : Option (List Char) := (Utf8.scan none bytes).mapM id

end Text
end WebClient
