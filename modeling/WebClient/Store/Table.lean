import WebClient.Store.Basic
import WebClient.Text.Utf8

/-!
# Table — the rows of a session database

A database keeps its entries as the rows of one table, in the order in which they were added.  The
key of a row is a primary key: no two rows have the same one.

* `Table.upsert` adds a row or changes the one of its key in place; `Table.delete` drops a row.
* `Table.ordered` lists the rows by the bytes of their keys.
* `Table.transact` executes a batch of changes, statement by statement.  A statement that is refused
  ends the transaction, and then nothing of it is kept.
-/

namespace WebClient

/-- The rows of a table, each a key and its value. -/
structure Table where
  rows : List (String × String) := []
  unique : (rows.map (·.1)).Nodup := by exact List.nodup_nil
  deriving DecidableEq, Repr

/-- What goes wrong in a transaction. -/
structure TransactionFaults where
  /-- Why the transaction cannot begin, if it cannot. -/
  atBegin : Option String := none
  /-- Whether the statement at a place is refused. -/
  atStatement : Nat → Bool := fun _ => false
  atCommit : Bool := false

namespace TransactionFaults

/-- In a database that is only to be read every statement is refused. -/
def readOnly (faults : TransactionFaults) : TransactionFaults :=
  { faults with atStatement := fun _ => true }

end TransactionFaults

namespace Table

def empty : Table := {}

def hasKey (rows : List (String × String)) (key : String) : Bool := rows.any (·.1 == key)

theorem not_mem_keys {rows : List (String × String)} {key : String} (h : hasKey rows key = false) :
    key ∉ rows.map (·.1) := by
  intro hmem
  rcases List.mem_map.1 hmem with ⟨row, hrow, rfl⟩
  have hfound : hasKey rows row.1 = true := List.any_eq_true.2 ⟨row, hrow, beq_self_eq_true _⟩
  rw [h] at hfound
  cases hfound

/-- The rows with another value for a key. -/
def revalued (key value : String) (rows : List (String × String)) : List (String × String) :=
  rows.map fun row => if row.1 = key then (key, value) else row

theorem map_fst_revalued (key value : String) (rows : List (String × String)) :
    (revalued key value rows).map (·.1) = rows.map (·.1) := by
  rw [revalued, List.map_map]
  refine List.map_congr_left fun row _ => ?_
  by_cases h : row.1 = key <;> simp [h]

/-- Adds a row; if there is one of the key, it gets the value instead. -/
def upsert (table : Table) (key value : String) : Table :=
  if h : hasKey table.rows key then
    { rows := revalued key value table.rows
      unique := by
        rw [map_fst_revalued]
        exact table.unique }
  else
    { rows := table.rows ++ [(key, value)]
      unique := by
        rw [List.map_append, List.map_singleton]
        refine List.nodup_append.2 ⟨table.unique, by simp, ?_⟩
        rintro other hother _ hkey rfl
        exact not_mem_keys (by simpa using h) (List.mem_singleton.1 hkey ▸ hother) }

def delete (table : Table) (key : String) : Table where
  rows := table.rows.filter (·.1 != key)
  unique := table.unique.sublist (List.filter_sublist.map _)

def select? (table : Table) (key : String) : Option String := Dict.get? table.rows key

/-- Whether a key stands before another or is the same, byte by byte. -/
def keyLe (a b : String × String) : Bool := decide (Text.utf8Bytes a.1 ≤ Text.utf8Bytes b.1)

/-- The rows, ordered by the bytes of their keys. -/
def ordered (table : Table) : Dict String := table.rows.mergeSort keyLe

/-- The rows of a table are read in the order of their keys. -/
instance : Coe Table (Dict String) := ⟨ordered⟩

def ofEntries (entries : List (String × String)) : Table :=
  entries.foldl (fun table entry => table.upsert entry.1 entry.2) empty

/-- Executes the statement of one change. -/
def execute (table : Table) : Change → Table
  | (key, some value) => table.upsert key value
  | (key, none) => table.delete key

/-- Executes statements in order, from a place in the transaction on. -/
def executeAll (refuses : Nat → Bool) : Nat → List Change → Table → Except StorageError Table
  | _, [], table => .ok table
  | place, change :: rest, table =>
    if refuses place then .error change.refusal
    else executeAll refuses (place + 1) rest (table.execute change)

/-- The table after a transaction that has been committed, or why it has not. -/
def transact (table : Table) (faults : TransactionFaults) (changes : List Change) :
    Except StorageError Table :=
  match faults.atBegin with
  | some cause => .error (.beginFailed cause)
  | none => do
    let table ← executeAll faults.atStatement 0 changes table
    if faults.atCommit then .error .commitFailed else .ok table

end Table
end WebClient
