import WebClient.Gateway.Exchange
import WebClient.Page.Kinds
import WebClient.Route.Location
import WebClient.Route.Table

/-!
# Navigate — from a location to a page

A resolution takes a number, looks at the session once, finds the route and checks it: a route that
asks for a login sends others to the login page, a route with a guard sends users of other roles
elsewhere with a warning.  Then the page is carried out and shown.  Nobody is sent away from the
place that they would be sent to.

Resolutions overlap.  Whatever a superseded resolution comes to is dropped.

A redirect starts over with its target; after four redirects the page counts as failed.
-/

namespace WebClient

/-- What a router needs to know beside its state. -/
structure Router where
  table : RouteTable Page
  loginPath : String
  gateway : Gateway

/-- What one resolution comes to. -/
inductive Resolution where
  | done (view : ViewState)
  | redirect (target : String)
  deriving BEq, Repr

namespace Router

def loadFailed : String := "failed to load page"

def maxRedirects : Nat := 4

/-! ## Sections under the router's lock -/

/-- Starts a resolution: takes its number, then tells of the loading page. -/
def begin (path : String) : Workflow World Nat := do
  let router ← modifyGet fun w =>
    let router := w.router.begin path
    (router, { w with router })
  publish (.viewChanged router.view)
  return router.generation

/-- Shows a page, unless a later resolution has begun; returns the page shown afterwards. -/
def present (generation : Nat) (view : ViewState) : Workflow World ViewState := do
  let (isLatest, shown) ← modifyGet fun w =>
    let router := w.router.publish generation view
    ((w.router.isLatest generation, router.view), { w with router })
  if isLatest then publish (.viewChanged shown)
  return shown

/-- Looks whether a resolution is still the latest; if not, gives the page that is shown. -/
def superseded? (generation : Nat) : Workflow World (Option ViewState) :=
  modifyGet fun w =>
    (if w.router.isLatest generation then none else some w.router.view, w)

def enter (location : String) : Workflow World Unit :=
  modify fun w => { w with router := w.router.push location }

/-- Lets the target of a redirect take its source's place in the history. -/
def reroute (source target : String) : Workflow World Unit :=
  modify fun w => { w with router := w.router.replace source target }

/-- Leaves the current location; gives the one before. -/
def leave : Workflow World (Option String) :=
  modifyGet fun w =>
    match w.router.pop? with
    | none => (none, w)
    | some (location, router) => (some location, { w with router })

/-! ## One resolution -/

/-- What the table says about a path: the page, its captures, and the checks to be made. -/
structure Match where
  page : Page
  params : Dict String
  requiresAuth : Bool
  guard : Option RoleGuard

/-- Finds the page of a path; a path without a route is open to everyone. -/
def find (router : Router) (path : String) : Match :=
  match router.table.resolve path with
  | some (route, params) => ⟨route.handler, params, route.requiresAuth, route.guard⟩
  | none => ⟨router.table.notFound, [], false, none⟩

/-- What the checks of a route decide. -/
inductive Admission where
  | admitted
  | toLogin
  /-- Turned away by a guard. -/
  | turnedAway (guard : RoleGuard)
  deriving DecidableEq, Repr

def admission (router : Router) (path : String) (found : Match) (session : Session) : Admission :=
  if found.requiresAuth && session.isNone && path != router.loginPath then .toLogin
  else
    match found.guard with
    | none => .admitted
    | some guard =>
      if !guard.admits session.user? && path != guard.redirect then .turnedAway guard
      else .admitted

/-- Sends a resolution to the login page, unless it is superseded. -/
def sendToLogin (router : Router) (generation : Nat) : Workflow World Resolution := do
  match ← superseded? generation with
  | some view => return .done view
  | none => return .redirect router.loginPath

/-- Sends a resolution where a guard says, with the guard's warning, unless it is superseded. -/
def turnAway (guard : RoleGuard) (generation : Nat) : Workflow World Resolution := do
  match ← superseded? generation with
  | some view => return .done view
  | none =>
    toast .warning guard.message
    return .redirect guard.redirect

def conclude (router : Router) (path : String) (generation : Nat) :
    Except ViewError View → Workflow World Resolution
  | .ok view => return .done (← present generation (.rendered path view))
  | .error .unauthorized =>
    if path != router.loginPath then router.sendToLogin generation
    else return .done (← present generation (.error path loadFailed))
  | .error _ => return .done (← present generation (.error path loadFailed))

def resolveOnce (router : Router) (raw : String) : Workflow World Resolution := do
  let location := Location.parse raw
  let generation ← begin location.path
  let session ← currentSession
  let found := router.find location.path
  match router.admission location.path found session with
  | .toLogin => router.sendToLogin generation
  | .turnedAway guard => turnAway guard generation
  | .admitted =>
    let ctx : PageContext := ⟨location.path, found.params, location.query, session⟩
    let result ← router.gateway.carryOut (found.page ctx)
    router.conclude location.path generation result

/-! ## Navigation -/

/-- Resolves a location and follows up to `hops - 1` redirects; one more redirect is an error. -/
def resolveWithin (router : Router) : Nat → String → Workflow World ViewState
  | 0, target => do
    let generation ← begin target
    present generation (.error target loadFailed)
  | hops + 1, target => do
    match ← router.resolveOnce target with
    | .done view => return view
    | .redirect next =>
      publish (.redirected target next)
      reroute target next
      router.resolveWithin hops next

/-- Resolves a location without entering it into the history. -/
def resolve (router : Router) (location : String) : Workflow World ViewState :=
  router.resolveWithin maxRedirects location

/-- Enters a location into the history and resolves it. -/
def navigate (router : Router) (location : String) : Workflow World ViewState := do
  enter location
  router.resolve location

/-- Goes back to the location before the current one, if there is one. -/
def back (router : Router) : Workflow World (Option ViewState) := do
  match ← leave with
  | none => return none
  | some location => return some (← router.resolve location)

end Router
end WebClient
