/-!
# Blank — white space around a text, and the ASCII case map

Settings, environment values and message texts are compared after the white space around them has
been cut off.  "White space" is the Unicode property `White_Space`; the case map touches the
letters `A`–`Z` only.

* `isBlank` decides the property.
* `trim` cuts blanks off both ends, `isAllBlank` holds of a text that `trim` empties.
* `lowerAscii` maps `A`–`Z` to `a`–`z` and keeps every other character.
-/

namespace WebClient
namespace Text

/-- The characters with the Unicode property `White_Space`. -/
def isBlank (c : Char) : Bool :=
  let n := c.toNat
  (0x09 ≤ n && n ≤ 0x0D) || n == 0x20 || n == 0x85 || n == 0xA0 || n == 0x1680 ||
    (0x2000 ≤ n && n ≤ 0x200A) || n == 0x2028 || n == 0x2029 || n == 0x202F || n == 0x205F ||
    n == 0x3000

/-- A character list without the blanks at its two ends. -/
def trimBlanks (cs : List Char) : List Char :=
  ((cs.dropWhile isBlank).reverse.dropWhile isBlank).reverse

def trim (s : String) : String := .ofList (trimBlanks s.toList)

def isAllBlank (s : String) : Bool := s.toList.all isBlank

/-- The character with `A`–`Z` mapped to `a`–`z`. -/
def lowerAsciiChar (c : Char) : Char := c.toLower

def lowerAscii (s : String) : String := .ofList (s.toList.map lowerAsciiChar)

/-- The text without any trailing occurrence of `c`. -/
def dropTrailing (c : Char) (s : String) : String :=
  .ofList (s.toList.reverse.dropWhile (· == c)).reverse

end Text
end WebClient
