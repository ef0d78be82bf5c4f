import WebClient.Reply.Envelope
import WebClient.Route.Pattern
import WebClient.Store.Address
import WebClient.Url.Parse

/-!
# Settings — what a client is told before it starts

The base URL of the backend's API has to be a URL; white space around it and slashes at its end do
not matter.
-/

namespace WebClient

/-- The site whose pages a client shows. -/
inductive Product where
  | blog
  | shop
  deriving DecidableEq, Repr, Inhabited

namespace Product

def title : Product → String
  | .blog => "Blog"
  | .shop => "Shop"

def ofName? (name : String) : Option Product :=
  match name with
  | "blog" => some .blog
  | "shop" => some .shop
  | _ => none

/-- Reads a product as people write it: blanks around it and its case do not matter.  On failure the
text is returned in the form that was looked up. -/
def parse (text : String) : Except String Product :=
  match Text.lowerAscii (Text.trim text) with
  | "blog" => .ok .blog
  | "shop" | "ecommerce" | "marketplace" => .ok .shop
  | other => .error other

/-- What is said about a text that names no product. -/
def unknownMessage (tidy : String) : String := "unknown product '" ++ tidy ++ "'"

end Product

/-- The settings of a client. -/
structure Settings where
  apiBaseUrl : String := "http://127.0.0.1:8080/api"
  convention : Convention := .auto
  product : Product := .shop
  databaseUrl : String := Address.default
  requestTimeoutSeconds : Nat := 30
  homePath : String := "/"
  loginPath : String := "/login"
  /-- Whether a restored session is checked against the backend. -/
  restoreUserOnStart : Bool := false
  deriving DecidableEq, Repr, Inhabited

/-- Why a client cannot be made. -/
inductive ClientError where
  | invalidBaseUrl (url : String) (reason : UrlError)
  | settingsRead (path : String)
  | settingsParse (path : String)
  | invalidSetting (key message : String)
  | invalidPattern (error : PatternError)
  deriving DecidableEq, Repr

def ClientError.message : ClientError → String
  | .invalidBaseUrl url reason => "invalid api base url '" ++ url ++ "': " ++ reason.message
  | .settingsRead path => "failed to read settings file '" ++ path ++ "'"
  | .settingsParse path => "invalid settings file '" ++ path ++ "'"
  | .invalidSetting key message => "invalid value for " ++ key ++ ": " ++ message
  | .invalidPattern error => error.message

namespace Settings

/-- The base URL of the API, ready to have a path put behind it. -/
def apiBase (s : Settings) : Except ClientError String :=
  let trimmed := Text.dropTrailing '/' (Text.trim s.apiBaseUrl)
  match Url.parse trimmed with
  | .ok _ => .ok trimmed
  | .error reason => .error (.invalidBaseUrl s.apiBaseUrl reason)

def requestTimeout (s : Settings) : Nat := max s.requestTimeoutSeconds 1

end Settings
end WebClient
