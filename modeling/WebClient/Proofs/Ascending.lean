import Mathlib.Data.List.Induction
import Mathlib.Data.String.Basic
import WebClient.Text.Dict

/-!
# Ascending — maps in the form that `put` keeps

A map whose keys ascend strictly is the only list that stands for its bindings.  Every map made by
`Dict.ofList` ascends (`Dict.ascending_ofList`), and a list that ascends is the map of itself
(`Dict.ofList_eq_self`): binding its pairs anew changes nothing.  What is found in a map of pairs is
what the last pair of a key says (`Dict.get?_ofList`).
-/

namespace WebClient
namespace Dict

universe u

variable {α : Type u} {d : Dict α} {key : String} {value : α} {entry : String × α}

/-! ## Lookups -/

theorem get?_append (d d' : Dict α) (key : String) :
    get? (d ++ d') key = (get? d key).or (get? d' key) := by
  induction d with
  | nil => rfl
  | cons entry d ih =>
      rcases entry with ⟨k, v⟩
      rw [List.cons_append, get?_cons, get?_cons, ih]
      split <;> rfl

theorem get?_eq_none_iff : get? d key = none ↔ ∀ entry ∈ d, entry.1 ≠ key := by
  induction d with
  | nil => simp
  | cons entry d ih =>
      rcases entry with ⟨k, v⟩
      by_cases hk : k = key <;> simp [get?_cons, hk, ih]

theorem get?_map {β : Type u} (f : α → β) (d : Dict α) (key : String) :
    get? (d.map fun entry => (entry.1, f entry.2)) key = (get? d key).map f := by
  induction d with
  | nil => rfl
  | cons entry d ih =>
      rcases entry with ⟨k, v⟩
      rw [List.map_cons, get?_cons, get?_cons, ih]
      split <;> rfl

/-! ## Maps that ascend -/

/-- The keys ascend strictly. -/
def Ascending (d : Dict α) : Prop := d.Pairwise fun before after => before.1 < after.1

theorem mem_of_mem_put (h : entry ∈ put key value d) : entry = (key, value) ∨ entry ∈ d := by
  induction d with
  | nil => exact .inl (List.mem_singleton.1 h)
  | cons first rest ih =>
      unfold put at h
      split at h
      · exact List.mem_cons.1 h
      · split at h
        · exact (List.mem_cons.1 h).imp_right (List.mem_cons_of_mem _)
        · rcases List.mem_cons.1 h with rfl | hrest
          · exact .inr List.mem_cons_self
          · exact (ih hrest).imp_right (List.mem_cons_of_mem _)

theorem Ascending.put (h : d.Ascending) : (put key value d).Ascending := by
  induction d with
  | nil => exact List.pairwise_singleton _ _
  | cons first rest ih =>
      rcases List.pairwise_cons.1 h with ⟨hfirst, hrest⟩
      unfold Dict.put
      -- The pair goes in front, takes the place of the first one, or goes somewhere behind it.
      split
      · rename_i hlt
        refine List.pairwise_cons.2 ⟨?_, h⟩
        intro other hother
        rcases List.mem_cons.1 hother with rfl | hother
        · exact hlt
        · exact hlt.trans (hfirst other hother)
      · split
        · rename_i heq
          exact List.pairwise_cons.2 ⟨heq ▸ hfirst, hrest⟩
        · rename_i hnotLt hne
          refine List.pairwise_cons.2 ⟨?_, ih hrest⟩
          intro other hother
          rcases mem_of_mem_put hother with rfl | hother
          · exact lt_of_le_of_ne (not_lt.1 hnotLt) (Ne.symm hne)
          · exact hfirst other hother

theorem Ascending.putAll (h : d.Ascending) (pairs : List (String × α)) :
    (putAll d pairs).Ascending := by
  induction pairs generalizing d with
  | nil => exact h
  | cons pair pairs ih => exact ih h.put

theorem ascending_ofList (pairs : List (String × α)) : (ofList pairs).Ascending :=
  Ascending.putAll .nil pairs

theorem Ascending.map {β : Type u} (h : d.Ascending) (f : α → β) :
    Ascending (d.map fun entry => (entry.1, f entry.2)) := List.pairwise_map.2 h

/-- Every entry of an ascending map is the one that is found under its key. -/
theorem Ascending.get?_of_mem (h : d.Ascending) (hentry : entry ∈ d) :
    get? d entry.1 = some entry.2 := by
  induction d with
  | nil => cases hentry
  | cons first rest ih =>
      rcases first with ⟨k, v⟩
      rcases List.pairwise_cons.1 h with ⟨hfirst, hrest⟩
      rcases List.mem_cons.1 hentry with rfl | hentry
      · simp [get?_cons]
      · have hother : k ≠ entry.1 := (hfirst entry hentry).ne
        simpa [get?_cons, hother] using ih hrest hentry

theorem mem_of_get? (h : get? d key = some value) : (key, value) ∈ d := by
  induction d with
  | nil => cases h
  | cons entry d ih =>
      rcases entry with ⟨k, v⟩
      by_cases hk : k = key
      · simp only [get?_cons, hk, if_true, Option.some.injEq] at h
        rw [hk, h]
        exact List.mem_cons_self
      · exact List.mem_cons_of_mem _ (ih (by simpa [get?_cons, hk] using h))

theorem mem_of_mem_putAll {pairs : List (String × α)} (h : entry ∈ putAll d pairs) :
    entry ∈ d ∨ entry ∈ pairs := by
  induction pairs generalizing d with
  | nil => exact .inl h
  | cons pair pairs ih =>
      rcases ih h with hput | hrest
      · rcases mem_of_mem_put hput with rfl | hd
        · exact .inr List.mem_cons_self
        · exact .inl hd
      · exact .inr (List.mem_cons_of_mem _ hrest)

theorem mem_of_mem_ofList {pairs : List (String × α)} (h : entry ∈ ofList pairs) :
    entry ∈ pairs :=
  (mem_of_mem_putAll h).resolve_left List.not_mem_nil

/-- What is found under a key is bound by the last pair of that key. -/
theorem get?_putAll_eq (d : Dict α) (pairs : List (String × α)) (key : String) :
    get? (putAll d pairs) key =
      ((pairs.reverse.find? (·.1 = key)).map (·.2)).or (get? d key) := by
  induction pairs using List.reverseRecOn with
  | nil => rfl
  | append_singleton pairs pair ih =>
      rw [putAll, List.foldl_append, List.foldl_cons, List.foldl_nil, get?_put]
      rw [putAll] at ih
      by_cases hkey : pair.1 = key
      · simp [hkey]
      · simp [hkey, ih]

theorem get?_ofList (pairs : List (String × α)) (key : String) :
    get? (ofList pairs) key = (pairs.reverse.find? (·.1 = key)).map (·.2) := by
  rw [ofList, get?_putAll_eq, get?_nil, Option.or_none]

theorem put_of_greatest (h : ∀ other ∈ d, other.1 < key) :
    put key value d = d ++ [(key, value)] := by
  induction d with
  | nil => rfl
  | cons first rest ih =>
      -- Neither smaller than the first key nor equal to it: the pair goes behind.
      have hfirst : first.1 < key := h first List.mem_cons_self
      have hrest : put key value rest = rest ++ [(key, value)] :=
        ih fun other hother => h other (List.mem_cons_of_mem _ hother)
      simp [put, hfirst.not_gt, hfirst.ne', hrest]

theorem putAll_eq_append {pairs : List (String × α)} (h : (d ++ pairs).Pairwise
    fun before after => before.1 < after.1) : putAll d pairs = d ++ pairs := by
  induction pairs generalizing d with
  | nil => simp [putAll]
  | cons pair pairs ih =>
      have hlast : put pair.1 pair.2 d = d ++ [pair] :=
        put_of_greatest fun other hother =>
          (List.pairwise_append.1 h).2.2 other hother pair List.mem_cons_self
      calc
        putAll d (pair :: pairs) = putAll (d ++ [pair]) pairs := by
              rw [← hlast]
              rfl
        _ = (d ++ [pair]) ++ pairs := ih (by simpa using h)
        _ = d ++ pair :: pairs := by simp

/-- A list whose keys ascend is the map of itself. -/
theorem ofList_eq_self (h : d.Ascending) : ofList d = d :=
  putAll_eq_append (d := []) h

end Dict
end WebClient
