/-!
# Dict — finite maps from texts, in key order

A `Dict α` is an association list that `put` keeps strictly ascending by key.  Texts are ordered by
code point, which is the order of their UTF-8 bytes.

* `put` binds a key, taking the place of an earlier binding of the same key.
* `remove` drops a key, `get?` reads one, `ofList` binds pairs from left to right, so that the later
  of two equal keys wins.
-/

namespace WebClient

universe u

abbrev Dict (α : Type u) := List (String × α)

namespace Dict

variable {α : Type u}

def get? : Dict α → String → Option α
  | [], _ => none
  | (k, v) :: rest, key => if k = key then some v else get? rest key

/-- Binds `key` to `value`; an earlier binding of `key` is replaced. -/
def put (key : String) (value : α) : Dict α → Dict α
  | [] => [(key, value)]
  | (k, v) :: rest =>
    if key < k then (key, value) :: (k, v) :: rest
    else if key = k then (key, value) :: rest
    else (k, v) :: put key value rest

def remove (key : String) (d : Dict α) : Dict α := d.filter fun entry => entry.1 != key

def putAll (d : Dict α) (pairs : List (String × α)) : Dict α :=
  pairs.foldl (fun acc pair => put pair.1 pair.2 acc) d

/-- The map of a list of pairs; the later of two equal keys wins. -/
def ofList (pairs : List (String × α)) : Dict α := putAll [] pairs

@[simp]
theorem get?_nil (key : String) : get? ([] : Dict α) key = none := rfl

theorem get?_cons (k : String) (v : α) (rest : Dict α) (key : String) :
    get? ((k, v) :: rest) key = if k = key then some v else get? rest key := rfl

/-- A bound key is found, and no other key changes. -/
theorem get?_put (d : Dict α) (key : String) (value : α) (other : String) :
    get? (put key value d) other = if key = other then some value else get? d other := by
  induction d with
  | nil => simp [put, get?_cons]
  | cons entry rest ih =>
    obtain ⟨k, v⟩ := entry
    unfold put
    split
    · simp only [get?_cons]
    · split
      · rename_i hk
        subst hk
        by_cases h : key = other <;> simp [get?_cons, h]
      · rename_i hk
        rw [get?_cons, get?_cons, ih]
        by_cases ho : k = other
        · subst ho
          simp [hk]
        · simp [ho]

/-- A removed key is not found, and no other key changes. -/
theorem get?_remove (d : Dict α) (key other : String) :
    get? (remove key d) other = if key = other then none else get? d other := by
  induction d with
  | nil => simp [remove]
  | cons entry rest ih =>
    obtain ⟨k, v⟩ := entry
    by_cases hk : k = key
    · subst hk
      have : remove k ((k, v) :: rest) = remove k rest := by simp [remove]
      rw [this, ih, get?_cons]
      by_cases ho : k = other <;> simp [ho]
    · have : remove key ((k, v) :: rest) = (k, v) :: remove key rest := by simp [remove, hk]
      rw [this, get?_cons, get?_cons, ih]
      by_cases ho : k = other
      · subst ho
        simp [Ne.symm hk]
      · simp [ho]

end Dict
end WebClient
