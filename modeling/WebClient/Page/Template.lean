import WebClient.Text.Percent

/-!
# Template — paths with placeholders

A template is a text with placeholders `{name}`.  Expanding it replaces each placeholder by the
form-encoded value of its name and copies all else; what follows an opening brace up to the next
closing one is a name, even if it is empty or holds further opening braces, and an opening brace
that no closing one follows is copied like everything after it.
-/

namespace WebClient
namespace Template

/-- Expands a template.  The first argument holds the characters of the name being read, last first,
or nothing outside of placeholders; the error is the first name without a value. -/
def expandFrom (lookup : String → Option String) :
    Option (List Char) → List Char → Except String (List Char)
  | none, [] => .ok []
  | some name, [] => .ok ('{' :: name.reverse)
  | none, c :: rest =>
    if c = '{' then expandFrom lookup (some []) rest
    else (expandFrom lookup none rest).map (c :: ·)
  | some name, c :: rest =>
    if c = '}' then
      match lookup (.ofList name.reverse) with
      | none => .error (.ofList name.reverse)
      | some value =>
        (expandFrom lookup none rest).map (Text.formEncodeChars value.toList ++ ·)
    else expandFrom lookup (some (c :: name)) rest

def expand (lookup : String → Option String) (template : String) : Except String String :=
  (expandFrom lookup none template.toList).map String.ofList

end Template
end WebClient
