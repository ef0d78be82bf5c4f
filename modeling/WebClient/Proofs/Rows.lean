import Mathlib.Data.List.Sort
import WebClient.Proofs.Ascending
import WebClient.Proofs.ByteOrder
import WebClient.Proofs.Mirror
import WebClient.Store.Table

/-!
# Rows — a table read as a map

The rows of a table stand in the order in which they were added.  Read in the order of their keys
they are the map of the changes that were executed: what a statement makes of the rows is what the
change makes of the map (`Table.ordered_execute`), and so it is with a whole transaction that is
committed (`Table.ordered_of_transact`).
-/

namespace WebClient

/-! ## Maps and their entries -/

namespace Dict

universe u

variable {α : Type u} {d d' : Dict α} {key : String} {value : α}

/-- Where no key is bound twice, what is found under a key is its entry. -/
theorem get?_eq_some_iff (hkeys : (d.map (·.1)).Nodup) :
    get? d key = some value ↔ (key, value) ∈ d := by
  induction d with
  | nil => simp
  | cons entry rest ih =>
      rcases entry with ⟨k, v⟩
      rcases List.nodup_cons.1 hkeys with ⟨hfirst, hrest⟩
      rw [get?_cons]
      by_cases hk : k = key
      · subst hk
        have hother : (k, value) ∉ rest := fun hmem => hfirst (List.mem_map.2 ⟨_, hmem, rfl⟩)
        simp [hother, eq_comm]
      · have hother : (key, value) ≠ (k, v) := fun heq => hk (congrArg Prod.fst heq).symm
        simp [hk, hother, ih hrest]

theorem Ascending.nodup_keys (h : d.Ascending) : (d.map (·.1)).Nodup :=
  List.pairwise_map.2 (h.imp fun hlt => hlt.ne)

/-- A map that ascends is known by what is found in it. -/
theorem Ascending.ext (h : d.Ascending) (h' : d'.Ascending)
    (hget : ∀ key, get? d key = get? d' key) :
    d = d' := by
  have hirrefl : Std.Irrefl fun before after : String × α => before.1 < after.1 :=
    ⟨fun entry => lt_irrefl entry.1⟩
  have hantisymm : Std.Antisymm fun before after : String × α => before.1 < after.1 :=
    ⟨fun _ _ hlt hgt => absurd hgt (lt_asymm hlt)⟩
  refine List.Pairwise.eq_of_mem_iff h h' fun entry => ?_
  rw [← get?_eq_some_iff h.nodup_keys, ← get?_eq_some_iff h'.nodup_keys, hget]

theorem Ascending.remove (h : d.Ascending) (key : String) : (remove key d).Ascending :=
  h.filter _

end Dict

theorem Change.ascending_apply {entries : Dict String} (h : entries.Ascending) (change : Change) :
    (Change.apply entries change).Ascending := by
  rcases change with ⟨key, value⟩
  cases value with
  | none => exact h.remove key
  | some value => exact h.put

theorem Change.ascending_applyAll {entries : Dict String} (h : entries.Ascending)
    (changes : List Change) : (Change.applyAll changes entries).Ascending := by
  induction changes generalizing entries with
  | nil => exact h
  | cons change changes ih => exact ih (Change.ascending_apply h change)

/-! ## Tables -/

namespace Table

variable {table table' : Table}

theorem isSome_get? (rows : List (String × String)) (key : String) :
    (Dict.get? rows key).isSome = hasKey rows key := by
  induction rows with
  | nil => rfl
  | cons row rest ih =>
      rcases row with ⟨k, v⟩
      rw [hasKey] at ih
      by_cases hk : k = key <;> simp [hasKey, Dict.get?_cons, hk, ih]

theorem get?_revalued (key value : String) (rows : List (String × String)) (other : String) :
    Dict.get? (revalued key value rows) other =
      (Dict.get? rows other).map fun old => if key = other then value else old := by
  induction rows with
  | nil => rfl
  | cons row rest ih =>
      rcases row with ⟨k, v⟩
      rw [revalued] at ih
      by_cases hk : k = key
      · subst hk
        by_cases hother : k = other <;> simp [revalued, Dict.get?_cons, hother, ih]
      · by_cases hother : k = other
        · subst hother
          simp [revalued, Dict.get?_cons, hk, Ne.symm hk]
        · simp [revalued, Dict.get?_cons, hk, hother, ih]

/-- A statement changes what is found under its key, and nothing else. -/
theorem select?_execute (table : Table) (change : Change) (key : String) :
    (table.execute change).select? key =
      if change.1 = key then change.2 else table.select? key := by
  rcases change with ⟨changed, value⟩
  cases value with
  | none => exact Dict.get?_remove table.rows changed key
  | some value =>
      have hexecute : table.execute (changed, some value) = table.upsert changed value := rfl
      have hfound := isSome_get? table.rows changed
      -- The row of the key is changed in place if there is one, and added otherwise.
      rw [hexecute]
      unfold upsert select?
      by_cases hkey : changed = key
      · subst hkey
        split
        · rename_i hrow
          rcases Option.isSome_iff_exists.1 (hfound.trans hrow) with ⟨old, hold⟩
          simp [get?_revalued, hold]
        · rename_i hrow
          have hnone : Dict.get? table.rows changed = none := by simpa [hrow] using hfound
          simp [Dict.get?_append, Dict.get?_cons, hnone]
      · split
        · simp [get?_revalued, hkey]
        · simp [Dict.get?_append, Dict.get?_cons, hkey]

theorem perm_ordered (table : Table) : table.ordered.Perm table.rows :=
  List.mergeSort_perm _ _

theorem nodup_ordered (table : Table) : (table.ordered.map (·.1)).Nodup :=
  (table.perm_ordered.map _).nodup_iff.2 table.unique

/-- Read in the order of its keys, a table is a map that ascends. -/
theorem ascending_ordered (table : Table) : table.ordered.Ascending := by
  have hle : ∀ a b : String × String, keyLe a b = true ↔ a.1 ≤ b.1 := by
    intro a b
    rw [keyLe, decide_eq_true_iff, Text.utf8Bytes_le_iff]
  have hsorted : table.ordered.Pairwise fun a b => keyLe a b = true := by
    refine List.pairwise_mergeSort (fun a b c hab hbc => ?_) (fun a b => ?_) _
    · rw [hle] at hab hbc ⊢
      exact hab.trans hbc
    · rw [Bool.or_eq_true, hle, hle]
      exact le_total a.1 b.1
  -- No key has two rows, so that each key stands strictly before the next.
  have hdistinct : table.ordered.Pairwise fun a b => a.1 ≠ b.1 :=
    List.pairwise_map.1 table.nodup_ordered
  exact hsorted.imp₂ (fun a b hab hne => lt_of_le_of_ne ((hle a b).1 hab) hne) hdistinct

/-- The order of the rows does not matter for what is found. -/
theorem get?_ordered (table : Table) (key : String) :
    Dict.get? table.ordered key = table.select? key := by
  refine Option.ext fun value => ?_
  change Dict.get? table.ordered key = some value ↔ Dict.get? table.rows key = some value
  rw [Dict.get?_eq_some_iff table.nodup_ordered, Dict.get?_eq_some_iff table.unique]
  exact table.perm_ordered.mem_iff

/-- What a statement makes of the rows is what its change makes of the map. -/
theorem ordered_execute (table : Table) (change : Change) :
    (table.execute change).ordered = Change.apply table.ordered change := by
  -- Both ascend, and so it is enough to look up every key.
  refine (table.execute change).ascending_ordered.ext
    (Change.ascending_apply table.ascending_ordered change) fun key => ?_
  rw [get?_ordered, select?_execute, Change.get?_apply, get?_ordered]

theorem ordered_of_executeAll {refuses : Nat → Bool} {place : Nat} {changes : List Change}
    (h : executeAll refuses place changes table = .ok table') :
    table'.ordered = Change.applyAll changes table.ordered := by
  induction changes generalizing place table with
  | nil =>
      cases h
      rfl
  | cons change changes ih =>
      unfold executeAll at h
      split at h
      · cases h
      · rw [ih h, ordered_execute]
        rfl

/-- A transaction that is committed makes of the rows what its changes make of the map. -/
theorem ordered_of_transact {faults : TransactionFaults} {changes : List Change}
    (h : table.transact faults changes = .ok table') :
    table'.ordered = Change.applyAll changes table.ordered := by
  unfold transact at h
  split at h
  · cases h
  · cases hexecuted : executeAll faults.atStatement 0 changes table with
    | error e => simp [hexecuted, bind, Except.bind] at h
    | ok executed =>
        simp only [hexecuted, bind, Except.bind] at h
        split at h
        · cases h
        · cases h
          exact ordered_of_executeAll hexecuted

theorem executeAll_undisturbed (place : Nat) (changes : List Change) (table : Table) :
    ∃ table', executeAll (fun _ => false) place changes table = .ok table' := by
  induction changes generalizing place table with
  | nil => exact ⟨table, rfl⟩
  | cons change changes ih => exact ih (place + 1) (table.execute change)

/-- A transaction is committed, if nothing goes wrong. -/
theorem transact_undisturbed (table : Table) (changes : List Change) :
    ∃ table', table.transact {} changes = .ok table' := by
  rcases executeAll_undisturbed 0 changes table with ⟨table', hexecuted⟩
  refine ⟨table', ?_⟩
  simp [transact, hexecuted, bind, Except.bind]

end Table
end WebClient
