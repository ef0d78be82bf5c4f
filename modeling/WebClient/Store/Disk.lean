import WebClient.Store.Table
import WebClient.Store.Target

/-!
# Disk — directories and database files

A disk is seen from a working directory.  A place on it is a list of names: a relative path starts
from the working directory, an absolute one from the name `/`, and `..` leads up.  The path of a
database is read as a text: there `..` takes back the name before it, whatever that names.  Names
and paths have a longest length.

* `Disk.createDirectories` creates a directory and those that it is in, unless a file is in the way.
* `Disk.prepare` makes ready for a database setting, `Disk.connect` opens the database of a URL.
* `Disk.readFile` reads any other file.
* A `Connection` reads and writes the entries of a store: of a database, or of a map in memory.
-/

namespace WebClient

abbrev Place := List String

/-- What a file holds. -/
inductive FileContent where
  /-- Bytes that are no session database; an empty file may become one. -/
  | bytes (content : List UInt8)
  | database (table : Table)
  deriving DecidableEq, Repr

/-- The directories and files of a disk; the working directory itself is not listed. -/
structure Disk where
  directories : List Place := []
  files : List (Place × FileContent) := []
  deriving DecidableEq

namespace Place

def follow (place : Place) (component : String) : Place :=
  if component = "" || component = "." then place
  else if component = ".." then
    match place.getLast? with
    | none => [".."]
    | some ".." => place ++ [".."]
    | some "/" => place
    | some _ => place.dropLast
  else place ++ [component]

/-- The components of a path text, as they are followed one after the other. -/
def components (path : String) : Place × List String :=
  let parts := Text.segments path
  (if path.toList.head? = some '/' then ["/"] else [], parts)

def ofPath (path : String) : Place :=
  let (start, parts) := components path
  parts.foldl follow start

/-- The length of a place written as a path, in bytes. -/
def size (place : Place) : Nat := place.foldl (fun n name => n + name.utf8ByteSize + 1) 0

/-- Whether a place is known to be a directory without being listed. -/
def isGiven (place : Place) : Bool :=
  place = [] || place = ["/"] || place.all (· = "..")

/-- Whether a place lies below the working directory. -/
def isBelow (place : Place) : Bool :=
  match place.head? with
  | some ".." | some "/" | none => false
  | some _ => true

end Place

namespace Disk

/-- The longest name of a file or directory, in bytes. -/
def longestName : Nat := 255

def longestPath : Nat := 4095

/-- The longest path of a database file, in bytes, as seen from the working directory. -/
def longestDatabasePath : Nat := 488

/-- What is added to the name of a database file for the journal beside it, in bytes. -/
def journalMark : Nat := 8

def isDirectory (disk : Disk) (place : Place) : Bool :=
  place.isGiven || disk.directories.contains place

def file? (disk : Disk) (place : Place) : Option FileContent := disk.files.lookup place

def setFile (disk : Disk) (place : Place) (content : FileContent) : Disk :=
  { disk with files := (place, content) :: disk.files.filter fun file => file.1 != place }

/-- Follows components, creating the directories that are missing; the disk is returned in any case,
with whether all went well. -/
def createAlong (disk : Disk) (place : Place) : List String → Bool × Disk
  | [] => (true, disk)
  | component :: rest =>
    let next := place.follow component
    if disk.isDirectory next then disk.createAlong next rest
    else if (disk.file? next).isSome || longestName < component.utf8ByteSize then (false, disk)
    else { disk with directories := disk.directories ++ [next] }.createAlong next rest

def createDirectories (disk : Disk) (path : String) : Bool × Disk :=
  if longestPath < path.utf8ByteSize || path.toList.contains '\x00' then (false, disk)
  else
    let (start, parts) := Place.components path
    disk.createAlong start parts

def ensureParent (disk : Disk) (url : String) : Except StorageError Unit × Disk :=
  match (Address.path? url).bind Address.parent? with
  | none => (.ok (), disk)
  | some parent =>
    if parent = "" then (.ok (), disk)
    else
      let (created, disk) := disk.createDirectories parent
      (if created then .ok () else .error (.createDirectory parent url), disk)

/-- The URL that a setting denotes, after the directory of its file has been created. -/
def prepare (disk : Disk) (setting : String) : Except StorageError String × Disk :=
  let url := Address.normalize setting
  let (result, disk) := disk.ensureParent url
  (result.map fun _ => url, disk)

/-- Follows components that have to be directories. -/
def walk (disk : Disk) (place : Place) : List String → Option Place
  | [] => some place
  | component :: rest =>
    let next := place.follow component
    if disk.isDirectory next then disk.walk next rest else none

/-- The place of a file whose directory exists and that is no directory itself. -/
def locate? (disk : Disk) (path : String) : Option Place := do
  let (start, parts) := Place.components path
  let name ← parts.getLast?
  let directory ← disk.walk start parts.dropLast
  if path.toList.getLast? = some '/' || name = "." || name = ".." then none
  else if disk.isDirectory (directory.follow name) then none
  else some (directory.follow name)

end Disk

/-- What reading a file as plain bytes comes to. -/
inductive FileRead where
  | missing
  /-- A directory, or a file that is in use as a database. -/
  | unreadable
  | bytes (content : List UInt8)
  deriving DecidableEq, Repr

/-- Where the entries of an open store are. -/
inductive Residence where
  /-- In a map of the process, without a database. -/
  | map (entries : Dict String)
  /-- In a database that ends with its connection. -/
  | memory (table : Table)
  | file (place : Place)
  deriving DecidableEq, Repr

/-- An open store. -/
structure Connection where
  residence : Residence
  readOnly : Bool := false
  deriving DecidableEq, Repr

namespace Disk

/-- The place of a database file that can be opened or created. -/
def databasePlace? (disk : Disk) (path : String) : Option Place :=
  let place := Place.ofPath path
  if place.isGiven || place.getLast? = some ".." || place.any (longestName < ·.utf8ByteSize) ||
      longestDatabasePath < place.size || !disk.isDirectory place.dropLast ||
      disk.isDirectory place then none
  else some place

/-- Whether the name of a database file leaves room for the journal beside it. -/
def hasJournal (place : Place) : Bool :=
  (place.getLast?.getD "").utf8ByteSize + journalMark ≤ longestName

/-- Opens a database file, and creates its table if it has none. -/
def connectFile (disk : Disk) (url path : String) (target : Target) :
    Except StorageError Connection × Disk :=
  let readOnly := target.access = .readOnly || target.immutable
  match disk.databasePlace? path with
  | none => (.error (.openFailed url), disk)
  | some place =>
    match disk.file? place with
    | some (.database _) => (.ok ⟨.file place, readOnly⟩, disk)
    | some (.bytes content) =>
      if readOnly || !content.isEmpty || !hasJournal place then (.error .migrateFailed, disk)
      else (.ok ⟨.file place, false⟩, disk.setFile place (.database .empty))
    | none =>
      if target.access != .create then (.error (.openFailed url), disk)
      else if readOnly || !hasJournal place then
        (.error .migrateFailed, disk.setFile place (.bytes []))
      else (.ok ⟨.file place, false⟩, disk.setFile place (.database .empty))

def connectTarget (disk : Disk) (url : String) (target : Target) :
    Except StorageError Connection × Disk :=
  if !target.hasLayer then (.error (.openFailed url), disk)
  else
    match target.file? with
    | some path => disk.connectFile url path target
    | none =>
      if target.access = .readOnly then (.error .migrateFailed, disk)
      else (.ok ⟨.memory .empty, false⟩, disk)

def readFile (disk : Disk) (path : String) : FileRead :=
  if disk.isDirectory (Place.ofPath path) then .unreadable
  else
    match (disk.locate? path).bind disk.file? with
    | none => .missing
    | some (.bytes content) => .bytes content
    | some (.database _) => .unreadable

def connect (disk : Disk) (url : String) : Except StorageError Connection × Disk :=
  match disk.ensureParent url with
  | (.error e, disk) => (.error e, disk)
  | (.ok (), disk) =>
    match Address.options? url with
    | none => (.error (.invalidUrl url), disk)
    | some options =>
      match Target.ofOptions? options with
      | none => (.error (.openFailed url), disk)
      | some target => disk.connectTarget url target

end Disk

namespace Connection

/-- A store that is kept in a map, with nothing in it. -/
def inMemory : Connection := ⟨.map [], false⟩

/-- The table of a database; a file that holds none counts as empty. -/
def tableAt (disk : Disk) (place : Place) : Table :=
  match disk.file? place with
  | some (.database table) => table
  | _ => .empty

/-- The entries of a store, ascending by key. -/
def entries (connection : Connection) (disk : Disk) : Dict String :=
  match connection.residence with
  | .map entries => entries
  | .memory table => table.ordered
  | .file place => (tableAt disk place).ordered

def get? (connection : Connection) (disk : Disk) (key : String) : Option String :=
  match connection.residence with
  | .map entries => Dict.get? entries key
  | .memory table => table.select? key
  | .file place => (tableAt disk place).select? key

/-- What goes wrong in a transaction of this connection, given what goes wrong by itself. -/
def faults (connection : Connection) (faults : TransactionFaults) : TransactionFaults :=
  if connection.readOnly then faults.readOnly else faults

/-- Applies a batch of changes, if nothing goes wrong: to a map one after the other, to a database
in one transaction. -/
def attempt (connection : Connection) (disk : Disk) (faults : TransactionFaults)
    (changes : List Change) : Except StorageError (Connection × Disk) :=
  match connection.residence with
  | .map entries =>
    .ok ({ connection with residence := .map (Change.applyAll changes entries) }, disk)
  | .memory table => do
    let table ← table.transact (connection.faults faults) changes
    return ({ connection with residence := .memory table }, disk)
  | .file place => do
    let table ← (tableAt disk place).transact (connection.faults faults) changes
    return (connection, disk.setFile place (.database table))

/-- Applies a batch of changes; a database that is only to be read refuses the first of them. -/
def write (connection : Connection) (disk : Disk) (changes : List Change) :
    Except StorageError (Connection × Disk) :=
  connection.attempt disk {} changes

/-- The entries as a store that a client can keep its session in. -/
def store (connection : Connection) (disk : Disk) : Store where
  entries := connection.entries disk
  faults := { FaultPlan.none with write := fun _ => connection.readOnly }

/-- Brings the database to the entries that a store has come to. -/
def save (connection : Connection) (disk : Disk) (entries : Dict String) : Disk :=
  match connection.residence with
  | .map _ | .memory _ => disk
  | .file place => disk.setFile place (.database (.ofEntries entries))

end Connection
end WebClient
