import WebClient.Account.Codec
import WebClient.Command.Line
import WebClient.Store.Disk

/-!
# Tools — looking after a session database

* `show` lists every entry of the database; of the token only the beginning is shown, unless it is
  to be revealed.
* `whoami` says who is logged in.
* `clear` removes the session and leaves all other entries.
-/

namespace WebClient
namespace Tools

def databaseOption : OptionSpec where
  name := "database-url"
  valueName := some "DATABASE_URL"
  about := "[default: " ++ Address.default ++ "]"

def revealFlag : OptionSpec where
  name := "reveal"
  about := "Print the token in full instead of a prefix"

def program : ProgramSpec where
  name := "tools"
  options := [databaseOption]
  commands :=
    [ { name := "show", about := "Lists every persisted key", options := [revealFlag] },
      { name := "whoami", about := "Prints the persisted user" },
      { name := "clear", about := "Erases the persisted session" } ]

def mask (token : String) : String := .ofList (token.toList.take 4) ++ "..."

/-- How an entry is shown.  `updated` tells when a key was changed. -/
def entryLine (updated : String → String) (reveal : Bool) (entry : String × String) : String :=
  let value := if entry.1 == SessionKey.token && !reveal then mask entry.2 else entry.2
  entry.1 ++ " = " ++ value ++ " (updated " ++ updated entry.1 ++ ")"

def showEntries (updated : String → String) (reveal : Bool) (entries : Dict String) :
    List String :=
  if entries.isEmpty then ["no persisted session"]
  else entries.map (entryLine updated reveal)

def describe (user : User) : String :=
  "user_id=" ++ toString user.id ++ " username=" ++ user.username ++ " role=" ++ user.role.name

/-- Says who is logged in by the entries of a database. -/
def whoami (entries : Dict String) : Output :=
  match Dict.get? entries SessionKey.user with
  | none => .lines ["not logged in"]
  | some text =>
    match decodeStored? User.decode text with
    | some user => .lines [describe user]
    | none => .failed

def perform (updated : String → String) (invocation : Invocation) (url : String)
    (connection : Connection) (disk : Disk) : Output × Disk :=
  let entries := connection.entries disk
  match invocation.command with
  | "show" => (.lines (showEntries updated (invocation.given.has revealFlag.name) entries), disk)
  | "whoami" => (whoami entries, disk)
  | _ =>
    match connection.write disk (Change.removals SessionKey.all) with
    | .error _ => (.failed, disk)
    | .ok (_, disk) => (.lines ["cleared persisted session in " ++ url], disk)

def run (updated : String → String) (words : List String) (disk : Disk) : Output × Disk :=
  match program.read words with
  | .error refusal => (.ofRefusal refusal, disk)
  | .ok invocation =>
    let setting := (invocation.program.value? databaseOption.name).getD Address.default
    match disk.prepare setting with
    | (.error _, disk) => (.failed, disk)
    | (.ok url, disk) =>
      match disk.connect url with
      | (.error _, disk) => (.failed, disk)
      | (.ok connection, disk) => perform updated invocation url connection disk

end Tools
end WebClient
