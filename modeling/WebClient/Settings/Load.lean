import WebClient.Settings.Basic
import WebClient.Store.Disk
import WebClient.Text.Utf8
import WebClient.Toml.Reader

/-!
# Load — settings from a file and from the environment

Settings are read from a TOML file, if there is one, and may then be replaced one by one by
variables of the environment.  Without a name for the file `client.toml` is looked for, and need
not exist.

* In the file, settings that are absent keep their default and names that are no settings are
  ignored; products and conventions are written exactly.
* In the environment, products and conventions are written as people write them.
-/

namespace WebClient

/-! ## The file -/

namespace Settings

/-- Reads one setting; an absent one has its default. -/
def entry {α : Type} (entries : Dict Toml) (name : String) (read : Toml → Option α)
    (default : α) : Option α :=
  match Dict.get? entries name with
  | none => some default
  | some value => read value

/-- The settings in a document; nothing if one of them has the wrong type. -/
def ofToml? (entries : Dict Toml) : Option Settings := do
  let default : Settings := {}
  let convention? (value : Toml) := value.choice?.bind Convention.ofName?
  let product? (value : Toml) := value.choice?.bind Product.ofName?
  let apiBaseUrl ← entry entries "api_base_url" Toml.text? default.apiBaseUrl
  let convention ← entry entries "convention" convention? default.convention
  let product ← entry entries "product" product? default.product
  let databaseUrl ← entry entries "database_url" Toml.text? default.databaseUrl
  let requestTimeoutSeconds ←
    entry entries "request_timeout_secs" Toml.natural? default.requestTimeoutSeconds
  let homePath ← entry entries "home_path" Toml.text? default.homePath
  let loginPath ← entry entries "login_path" Toml.text? default.loginPath
  let restoreUserOnStart ←
    entry entries "restore_user_on_start" Toml.boolean? default.restoreUserOnStart
  some {
    apiBaseUrl, convention, product, databaseUrl, requestTimeoutSeconds, homePath, loginPath
    restoreUserOnStart }

def defaultFile : String := "client.toml"

def ofFile (path : String) : FileRead → Except ClientError Settings
  | .missing => .error (.settingsRead path)
  | .unreadable => .error (.settingsRead path)
  | .bytes content =>
    match Text.decode? content with
    | none => .error (.settingsRead path)
    | some text =>
      match (Toml.parse? (.ofList text)).bind ofToml? with
      | none => .error (.settingsParse path)
      | some settings => .ok settings

/-- The settings in a file; the file that is looked for without a name may be missing. -/
def read (disk : Disk) (named : Option String) : Except ClientError Settings :=
  match named with
  | some path => ofFile path (disk.readFile path)
  | none =>
    match disk.readFile defaultFile with
    | .missing => .ok {}
    | found => ofFile defaultFile found

end Settings

/-! ## The environment -/

/-- Why a text is no number. -/
inductive NumeralFault where
  | empty
  | invalidDigit
  | tooLarge
  deriving DecidableEq, Repr

def NumeralFault.message : NumeralFault → String
  | .empty => "cannot parse integer from empty string"
  | .invalidDigit => "invalid digit found in string"
  | .tooLarge => "number too large to fit in target type"

namespace Numeral

/-- Appends digits to a number that has to stay within 64 bits; the first fault counts. -/
def append : Nat → List Char → Except NumeralFault Nat
  | n, [] => .ok n
  | n, c :: rest =>
    if !c.isDigit then .error .invalidDigit
    else if Json.Literal.wordLimit ≤ n * 10 + (c.toNat - 0x30) then .error .tooLarge
    else append (n * 10 + (c.toNat - 0x30)) rest

/-- Reads an unsigned number of 64 bits; it may have a plus sign. -/
def parse (text : String) : Except NumeralFault Nat :=
  match text.toList with
  | [] => .error .empty
  | ['+'] => .error .invalidDigit
  | '+' :: rest => append 0 rest
  | cs => append 0 cs

end Numeral

namespace Settings

def saysYes (text : String) : Bool :=
  ["1", "true", "yes", "on"].contains (Text.lowerAscii (Text.trim text))

def refuse {α : Type} (key message : String) : Except ClientError α :=
  .error (.invalidSetting key message)

/-- Takes one variable of the environment into account, if it is set. -/
def override (environment : Dict String) (key : String)
    (set : Settings → String → Except ClientError Settings) (s : Settings) :
    Except ClientError Settings :=
  match Dict.get? environment key with
  | none => .ok s
  | some value => set s value

def setConvention (key : String) (s : Settings) (text : String) : Except ClientError Settings :=
  match Convention.parse text with
  | .ok convention => .ok { s with convention }
  | .error tidy => refuse key (Convention.unknownMessage tidy)

def setProduct (key : String) (s : Settings) (text : String) : Except ClientError Settings :=
  match Product.parse text with
  | .ok product => .ok { s with product }
  | .error tidy => refuse key (Product.unknownMessage tidy)

def setTimeout (key : String) (s : Settings) (text : String) : Except ClientError Settings :=
  match Numeral.parse text with
  | .ok seconds => .ok { s with requestTimeoutSeconds := seconds }
  | .error fault => refuse key fault.message

/-- Takes all variables of the environment into account. -/
def overrideAll (environment : Dict String) (s : Settings) : Except ClientError Settings := do
  let s ← override environment "APP__API_BASE_URL"
    (fun s url => .ok { s with apiBaseUrl := url }) s
  let s ← override environment "APP__CONVENTION" (setConvention "APP__CONVENTION") s
  let s ← override environment "APP__PRODUCT" (setProduct "APP__PRODUCT") s
  let s ← override environment "APP__DATABASE_URL"
    (fun s url => .ok { s with databaseUrl := url }) s
  let s ← override environment "APP__REQUEST_TIMEOUT_SECS"
    (setTimeout "APP__REQUEST_TIMEOUT_SECS") s
  override environment "APP__RESTORE_USER_ON_START"
    (fun s text => .ok { s with restoreUserOnStart := saysYes text }) s

/-- The settings of a client: from a file, then from the environment; the base URL of the API has to
be one. -/
def load (disk : Disk) (named : Option String) (environment : Dict String) :
    Except ClientError Settings := do
  let settings ← overrideAll environment (← read disk named)
  let _ ← settings.apiBase
  return settings

end Settings
end WebClient
