import WebClient.Text.Hex

/-!
# Quoted — a text inside a message

Where a message shows a text that it complains about, the text stands in double quotes, with quotes,
backslashes and everything that does not show on paper escaped.
-/

namespace WebClient
namespace Text

/-- Ranges of characters that do not show: controls, format characters, separators other than the
space, combining marks, private use and noncharacters. -/
def hiddenRanges : List (Nat × Nat) :=
  [(0x00, 0x1F), (0x7F, 0xA0), (0xAD, 0xAD), (0x300, 0x36F), (0x483, 0x489), (0x591, 0x5BD),
   (0x600, 0x605), (0x610, 0x61A), (0x61C, 0x61C), (0x64B, 0x65F), (0x6DD, 0x6DD),
   (0x93C, 0x93C), (0x94D, 0x94D), (0x1680, 0x1680), (0x180E, 0x180E), (0x1AB0, 0x1AFF),
   (0x1DC0, 0x1DFF), (0x2000, 0x200F), (0x2028, 0x202F), (0x205F, 0x206F), (0x20D0, 0x20FF),
   (0x3000, 0x3000), (0x302A, 0x302F), (0x3099, 0x309A), (0xD800, 0xF8FF), (0xFE00, 0xFE0F),
   (0xFE20, 0xFE2F), (0xFEFF, 0xFEFF), (0xFFF0, 0xFFFB), (0xFFFE, 0xFFFF), (0x1FFFE, 0x1FFFF),
   (0xE0000, 0x10FFFF)]

/-- Whether a character is written by its number. -/
def isHidden (c : Char) : Bool :=
  hiddenRanges.any fun (low, high) => low ≤ c.toNat && c.toNat ≤ high

def quoteChar (c : Char) : List Char :=
  match c with
  | '"' => ['\\', '"']
  | '\\' => ['\\', '\\']
  | '\n' => ['\\', 'n']
  | '\r' => ['\\', 'r']
  | '\t' => ['\\', 't']
  | '\x00' => ['\\', '0']
  | c =>
    if isHidden c then '\\' :: 'u' :: '\x7b' :: (Nat.toDigits 16 c.toNat ++ ['\x7d'])
    else [c]

def quote (s : String) : String :=
  .ofList ('"' :: (s.toList.flatMap quoteChar ++ ['"']))

end Text
end WebClient
