import WebClient.Client.Coordinator
import WebClient.Command.Line
import WebClient.Settings.Load

/-!
# Console — a client without a screen

Each run restores the session, carries out one command and prints the events as lines of JSON; after
that `open` prints the page, and `whoami` the user.

* `open` goes to a location;
* `login` and `register` fail if the backend does not accept them;
* `logout` ends the session;
* `whoami` asks the backend who is logged in.
-/

namespace WebClient
namespace Console

def configOption : OptionSpec where
  name := "config"
  valueName := some "CONFIG"
  accepts path := !path.isEmpty
  about := "Settings file; \x60client.toml\x60 in the working directory when omitted"

def baseOption : OptionSpec where
  name := "api-base-url"
  valueName := some "API_BASE_URL"

def productOption : OptionSpec where
  name := "product"
  valueName := some "PRODUCT"
  accepts text := (Product.parse text).toOption.isSome

def passwordOption : OptionSpec where
  name := "password"
  valueName := some "PASSWORD"
  isRequired := true

def program : ProgramSpec where
  name := "console"
  about := "Drives the client from a terminal. Views and events are printed as JSON lines on " ++
    "stdout; logs go to stderr"
  options := [configOption, baseOption, productOption]
  commands :=
    [ { name := "open", about := "Resolves a location, e.g. \x60/product/42\x60"
        operands := ["PATH"] },
      { name := "login", options := [passwordOption], operands := ["USERNAME"] },
      { name := "register", options := [passwordOption], operands := ["USERNAME", "EMAIL"] },
      { name := "logout" },
      { name := "whoami"
        about := "Prints the persisted identity, re-checked against the backend" } ]

/-- The settings with those of the command line put in. -/
def withOptions (given : Given) (s : Settings) : Settings :=
  let s := { s with apiBaseUrl := (given.value? baseOption.name).getD s.apiBaseUrl }
  match (given.value? productOption.name).bind fun text => (Product.parse text).toOption with
  | some product => { s with product }
  | none => s

/-! ## Commands -/

/-- What a command comes to: whether it failed, and lines to be printed. -/
structure Report where
  hasFailed : Bool := false
  /-- Whether the events are printed before the lines. -/
  showsEvents : Bool := true
  lines : List String := []

def reportOf (reply : Reply) : Report := { hasFailed := !reply.isSuccess }

def notLoggedIn : String := "not logged in"

/-- Says who is logged in, after asking the backend. -/
def whoami (client : Client) (restored : Session) : Workflow World Report := do
  if restored.isNone then return { showsEvents := false, lines := [notLoggedIn] }
  let _ ← client.refreshCurrentUser
  match (← currentSession).user? with
  | some user => return { lines := [user.toJson.pretty] }
  | none => return { lines := [notLoggedIn] }

def perform (client : Client) (invocation : Invocation) (restored : Session) :
    Workflow World Report := do
  let given := invocation.given
  let password := (given.value? passwordOption.name).getD ""
  match invocation.command with
  | "open" =>
    let page ← client.navigate (given.operand 0)
    return { lines := [page.toJson.pretty] }
  | "login" => return reportOf (← client.login (given.operand 0) password)
  | "register" => return reportOf (← client.register (given.operand 0) (given.operand 1) password)
  | "logout" =>
    client.logout
    return {}
  | _ => whoami client restored

/-- Restores the session and carries out a command. -/
def session (client : Client) (invocation : Invocation) : Workflow World Report := do
  perform client invocation (← loadPersisted)

/-- The output of a report, given the events of the run. -/
def Report.output (report : Report) (events : List Event) : Output :=
  let printed := if report.showsEvents then events.map fun event => event.toJson.compact else []
  if report.hasFailed then .failed (printed ++ report.lines) else .lines (printed ++ report.lines)

/-- Makes the client of given settings, with its database. -/
def openClient (settings : Settings) (disk : Disk) : Option (Client × Connection) × Disk :=
  match disk.prepare settings.databaseUrl with
  | (.error _, disk) => (none, disk)
  | (.ok url, disk) =>
    match disk.connect url with
    | (.error _, disk) => (none, disk)
    | (.ok connection, disk) =>
      ((Client.make settings).toOption.map fun client => (client, connection), disk)

/-- Runs the program against a backend; also gives the requests that were sent. -/
def run (backend : Backend) (environment : Dict String) (words : List String) (disk : Disk) :
    Output × List Request × Disk :=
  match program.read words with
  | .error refusal => (.ofRefusal refusal, [], disk)
  | .ok invocation =>
    match Settings.load disk (invocation.program.value? configOption.name) environment with
    | .error _ => (.failed, [], disk)
    | .ok settings =>
      match openClient (withOptions invocation.program settings) disk with
      | (none, disk) => (.failed, [], disk)
      | (some (client, connection), disk) =>
        let start : Wired World := ⟨.fresh (connection.store disk), []⟩
        let (report, finish) := (session client invocation).run backend start
        (report.output finish.state.events, finish.sent,
          connection.save disk finish.state.login.store.entries)

end Console
end WebClient
