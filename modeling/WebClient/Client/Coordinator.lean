import WebClient.Endpoint.Auth
import WebClient.Router.Navigate
import WebClient.Settings.Basic
import WebClient.Site.Blog
import WebClient.Site.Shop

/-!
# Coordinator — one client, from start to logout

A client is its settings and a router over the pages of a site.  Its operations join the login, the
gateway and the router:

* `start` restores the session and opens the first page;
* `login` and `register` establish a session if the backend issues a token;
* `logout` ends the session whatever the backend says, and leaves pages that are not public;
* `refreshCurrentUser` reads the identity behind the token again.
-/

namespace WebClient

/-- A client. -/
structure Client where
  settings : Settings
  router : Router

namespace Client

def tableOf (product : Product) : Except PatternError (RouteTable Page) :=
  match product with
  | .blog => Declaration.table Site.Blog.declarations .notFound
  | .shop => Declaration.table Site.Shop.declarations .notFound

def withTable (settings : Settings) (table : RouteTable Page) : Except ClientError Client :=
  settings.apiBase.map fun base =>
    { settings
      router :=
        { table
          loginPath := settings.loginPath
          gateway := Gateway.ofUrl base settings.convention } }

/-- A client over declared pages; they are read before anything else. -/
def withDeclarations (settings : Settings) (declarations : List Declaration) (notFound : Page) :
    Except ClientError Client :=
  match Declaration.table declarations notFound with
  | .error e => .error (.invalidPattern e)
  | .ok table => withTable settings table

def make (settings : Settings) : Except ClientError Client :=
  match tableOf settings.product with
  | .error e => .error (.invalidPattern e)
  | .ok table => withTable settings table

def gateway (client : Client) : Gateway := client.router.gateway

def call (client : Client) (call : Call) : Workflow World Reply :=
  Workflow.single (client.gateway.call call)

def calls (client : Client) (calls : List Call) : Workflow World (List Reply) :=
  Workflow.all (calls.map client.gateway.call)

/-- Enters a location into the history and resolves it. -/
def navigate (client : Client) (location : String) : Workflow World ViewState :=
  client.router.navigate location

/-- Goes back to the location before the current one. -/
def back (client : Client) : Workflow World (Option ViewState) := client.router.back

/-- Reads the identity behind the token again; says whether the session was updated. -/
def refreshCurrentUser (client : Client) : Workflow World Bool := do
  let reply ← client.call Endpoint.Auth.currentUser
  match reply.identity with
  | .ok identity => updateUser identity.user identity.seller
  | .error _ => return false

/-- Restores the session, checks it if the settings say so, and opens the first page. -/
def start (client : Client) (initial : Option String) : Workflow World ViewState := do
  let session ← loadPersisted
  if session.isSome && client.settings.restoreUserOnStart then
    let _ ← client.refreshCurrentUser
  client.navigate (initial.getD client.settings.homePath)

def noToken : String := "login response carried no token"

/-- Turns an answer down that the backend meant as a success. -/
def reject (message : String) : Workflow World Reply := do
  toast .error message
  return .failure (.transport message)

/-- Establishes a session, says so and opens the home page. -/
def welcome (client : Client) (payload : AuthPayload) (message : String) : Workflow World Unit := do
  setAuthenticated payload.session
  toast .success message
  let _ ← client.navigate client.settings.homePath

def login (client : Client) (username password : String) : Workflow World Reply := do
  let reply ← client.call (Endpoint.Auth.login username password)
  if !reply.isSuccess then return reply
  match reply.authPayload with
  | .ok (some payload) =>
    client.welcome payload "logged in"
    return reply
  | .ok none => reject noToken
  | .error failure => reject failure.message

/-- Asks for an account.  If the answer carries a session the user is logged in, else sent to the
login page. -/
def register (client : Client) (username email password : String) : Workflow World Reply := do
  let reply ← client.call (Endpoint.Auth.register username email password)
  if !reply.isSuccess then return reply
  match reply.authPayload with
  | .ok (some payload) => client.welcome payload "account created"
  | .ok none =>
    toast .success "account created, please log in"
    let _ ← client.navigate client.settings.loginPath
  | .error _ =>
    let _ ← client.navigate client.settings.loginPath
  return reply

/-- The path of the page on which visitors ask for an account. -/
def registerPath : String := "/register"

/-- Whether a path may stay open after a logout. -/
def isPublic (client : Client) (path : String) : Bool :=
  path == "/" || path == client.settings.homePath || path == client.settings.loginPath ||
    path == registerPath

def currentLocation : Workflow World (Option String) :=
  modifyGet fun w => (w.router.current?, w)

/-- Whether the location is one to leave after a logout. -/
def mustLeave (client : Client) (location : Option String) : Bool :=
  location.any fun raw => !client.isPublic (Location.parse raw).path

/-- Tells the backend, as well as that goes, ends the session, and leaves a page that is not
public. -/
def logout (client : Client) : Workflow World Unit := do
  if (← currentSession).isSome then
    let _ ← client.call Endpoint.Auth.logout
  let _ ← clearSession (m := Workflow World)
  if client.mustLeave (← currentLocation) then
    let _ ← client.navigate client.settings.homePath

end Client
end WebClient
