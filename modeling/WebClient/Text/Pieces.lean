/-!
# Pieces — cutting a text at separator characters

Paths, queries and lists of words are cut at single characters.  Everything works on lists of
characters, so that laws are inductions on the list.

* `pieces sep` cuts at every `sep`: there is always one piece more than there are separators.
* `cutAt sep` cuts at the first `sep` only.
* `segments` are the non-empty pieces between slashes; `slashed` writes segments back.
-/

namespace WebClient
namespace Text

/-- The pieces of a character list between the occurrences of `sep`. -/
def pieces (sep : Char) : List Char → List (List Char)
  | [] => [[]]
  | c :: cs =>
    if c = sep then [] :: pieces sep cs
    else
      match pieces sep cs with
      | [] => [[c]]
      | piece :: rest => (c :: piece) :: rest

/-- What stands before the first `sep`, and what stands after it if it occurs at all. -/
def cutAt (sep : Char) : List Char → List Char × Option (List Char)
  | [] => ([], none)
  | c :: cs =>
    if c = sep then ([], some cs)
    else
      let (before, after) := cutAt sep cs
      (c :: before, after)

/-- The pieces, each joined to the next by one `sep`. -/
def joined (sep : Char) : List (List Char) → List Char
  | [] => []
  | [piece] => piece
  | piece :: rest => piece ++ sep :: joined sep rest

/-- The non-empty pieces of a path between its slashes. -/
def segmentLists (path : List Char) : List (List Char) :=
  (pieces '/' path).filter fun piece => !piece.isEmpty

def segments (path : String) : List String :=
  (segmentLists path.toList).map String.ofList

def joinWith (sep : Char) (parts : List String) : String :=
  .ofList (joined sep (parts.map String.toList))

def slashed (parts : List String) : String := joinWith '/' parts

theorem pieces_ne_nil (sep : Char) (cs : List Char) : pieces sep cs ≠ [] := by
  induction cs with
  | nil => simp [pieces]
  | cons c cs _ =>
    unfold pieces
    split
    · simp
    · split <;> simp

end Text
end WebClient
