import WebClient.Text.Dict

/-!
# Store — texts that outlive the client

A store binds keys to texts.  Writes come in batches that are applied as a whole or not at all; a
batch binds and removes keys in order, so that the last change of a key decides.

A store may fail.  Which operations fail is said by a `FaultPlan`, a function of the number of
operations before; the plan of a working store lets every operation succeed.
-/

namespace WebClient

/-- Why an operation on a store failed. -/
inductive StorageError where
  | createDirectory (parent url : String)
  | invalidUrl (url : String)
  | openFailed (url : String)
  | migrateFailed
  | readFailed (key : String)
  | writeFailed (key : String)
  | deleteFailed (key : String)
  /-- A transaction did not begin; the database says why. -/
  | beginFailed (cause : String)
  | commitFailed
  deriving DecidableEq, Repr

def StorageError.message : StorageError → String
  | .createDirectory parent url =>
    "failed to create parent directory '" ++ parent ++ "' for database url '" ++ url ++ "'"
  | .invalidUrl url => "invalid sqlite url '" ++ url ++ "'"
  | .openFailed url => "failed to open session database '" ++ url ++ "'"
  | .migrateFailed => "failed to migrate session database"
  | .readFailed key => "failed to read session key '" ++ key ++ "'"
  | .writeFailed key => "failed to write session key '" ++ key ++ "'"
  | .deleteFailed key => "failed to delete session key '" ++ key ++ "'"
  | .beginFailed cause => cause
  | .commitFailed => "failed to commit session write"

/-- The change of one key: a new text, or nothing to remove the key. -/
abbrev Change := String × Option String

namespace Change

def apply (entries : Dict String) : Change → Dict String
  | (key, some value) => Dict.put key value entries
  | (key, none) => Dict.remove key entries

def applyAll (changes : List Change) (entries : Dict String) : Dict String :=
  changes.foldl apply entries

def removals (keys : List String) : List Change := keys.map fun key => (key, none)

/-- The error of a batch that fails at its first change. -/
def refusal : Change → StorageError
  | (key, some _) => .writeFailed key
  | (key, none) => .deleteFailed key

end Change

/-! ## The keys under which a client keeps its session -/

namespace SessionKey

def token : String := "auth_token"

def user : String := "current_user"

def seller : String := "seller_profile"

def all : List String := [token, user, seller]

end SessionKey

/-- Which operations fail, by the number of operations before. -/
structure FaultPlan where
  /-- Whether a read of a key fails. -/
  read : Nat → String → Bool
  /-- Whether a batch of changes fails. -/
  write : Nat → Bool

def FaultPlan.none : FaultPlan := ⟨fun _ _ => false, fun _ => false⟩

/-- A store: its entries, its faults and how many operations it has seen. -/
structure Store where
  entries : Dict String
  faults : FaultPlan := .none
  clock : Nat := 0

namespace Store

def working (entries : Dict String) : Store := { entries }

/-- The store after one more operation that changed nothing. -/
def tick (store : Store) : Store := { store with clock := store.clock + 1 }

def read (store : Store) (key : String) : Except StorageError (Option String) :=
  if store.faults.read store.clock key then .error (.readFailed key)
  else .ok (Dict.get? store.entries key)

/-- Whether a batch of changes would fail now.  A batch without changes never fails. -/
def refuses (store : Store) (changes : List Change) : Bool :=
  !changes.isEmpty && store.faults.write store.clock

/-- Applies a batch of changes, if it does not fail. -/
def write (store : Store) (changes : List Change) : Store :=
  if store.refuses changes then store.tick
  else { store.tick with entries := Change.applyAll changes store.entries }

end Store
end WebClient
