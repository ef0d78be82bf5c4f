import WebClient.Command.Console
import WebClient.Command.Tools

/-!
# Main — the programs on a real disk

The first word chooses the program, `console` or `tools`; all others are the words of its command
line.  What a run may look at is brought onto a `Disk` before it, and what has changed there is
written back after it.

A session database is kept as one JSON object of texts.  Nothing here talks to a network: the
backend counts as unreachable.
-/

namespace WebClient
namespace Main

/-- The variables of the environment that settings look at. -/
def variableNames : List String :=
  ["APP__API_BASE_URL", "APP__CONVENTION", "APP__PRODUCT", "APP__DATABASE_URL",
   "APP__REQUEST_TIMEOUT_SECS", "APP__RESTORE_USER_ON_START"]

def environment : IO (Dict String) := do
  let pairs ← variableNames.filterMapM fun key => do
    return (← IO.getEnv key).map fun value => (key, value)
  return Dict.ofList pairs

def entriesOf? (bytes : List UInt8) : Option (Dict String) := do
  let text ← Text.decode? bytes
  match ← Json.parse? (.ofList text) with
  | .object members => members.mapM fun (key, value) => value.string?.map fun s => (key, s)
  | _ => none

def contentOf (bytes : List UInt8) : FileContent :=
  match entriesOf? bytes with
  | some entries => .database (.ofEntries entries)
  | none => .bytes bytes

def bring (disk : Disk) (path : String) : IO Disk := do
  try
    let bytes ← IO.FS.readBinFile path
    let (_, disk) := disk.createDirectories (Text.joinWith '/' (Text.segments path).dropLast)
    return disk.setFile (Place.ofPath path) (contentOf bytes.toList)
  catch _ => return disk

def pathOf : Place → String
  | "/" :: names => "/" ++ Text.slashed names
  | names => Text.slashed names

def writeBack (disk : Disk) : IO Unit := do
  for directory in disk.directories do
    IO.FS.createDirAll (pathOf directory)
  for (place, content) in disk.files do
    match content with
    | .database table => IO.FS.writeFile (pathOf place) (Json.ofTexts table.ordered).compact
    | .bytes _ => pure ()

/-- Brings the database of a setting onto a disk. -/
def bringDatabase (disk : Disk) (setting : String) : IO Disk :=
  let target := (Address.options? (Address.normalize setting)).bind Target.ofOptions?
  match target.bind (·.file?) with
  | some path => bring disk path
  | none => return disk

def finish (output : Output) (disk : Disk) : IO UInt32 := do
  writeBack disk
  IO.print output.text
  return output.code.toUInt32

def console (words : List String) : IO UInt32 := do
  let environment ← environment
  let given := (Console.program.read words).toOption.map (·.program)
  let config := given.bind (·.value? Console.configOption.name)
  let disk ← bring {} (config.getD Settings.defaultFile)
  let disk ←
    match Settings.load disk config environment with
    | .ok settings => bringDatabase disk settings.databaseUrl
    | .error _ => pure disk
  let (output, _, disk) := Console.run Backend.unreachable environment words disk
  finish output disk

def tools (words : List String) : IO UInt32 := do
  let given := (Tools.program.read words).toOption.map (·.program)
  let setting := (given.bind (·.value? Tools.databaseOption.name)).getD Address.default
  let disk ← bringDatabase {} setting
  let (output, disk) := Tools.run (fun _ => "unknown") words disk
  finish output disk

end Main
end WebClient

def main (words : List String) : IO UInt32 :=
  match words with
  | "console" :: rest => WebClient.Main.console rest
  | "tools" :: rest => WebClient.Main.tools rest
  | _ => return 2
