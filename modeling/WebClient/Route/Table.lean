import WebClient.Account.Basic
import WebClient.Route.Pattern

/-!
# Table — which route serves a path

A route gives a pattern a handler, and may ask for a login or for one of several roles.  A table is
searched in a fixed order: routes without captures in the order of declaration, then routes with
captures from specific to general.

What a handler is, is left open: `η` is the type of handlers.
-/

namespace WebClient

/-- The roles that a page admits, and where everyone else is sent with what message. -/
structure RoleGuard where
  roles : List Role
  redirect : String
  message : String
  deriving DecidableEq, Repr

/-- Whether the guard admits a user; nobody is never admitted. -/
def RoleGuard.admits (guard : RoleGuard) : Option User → Bool
  | none => false
  | some user => guard.roles.contains user.role

/-- A page of the client. -/
structure Route (η : Type) where
  name : String
  pattern : Pattern
  handler : η
  requiresAuth : Bool := false
  guard : Option RoleGuard := none

namespace Route

variable {η : Type}

def protect (route : Route η) : Route η := { route with requiresAuth := true }

/-- The route, open to logged-in visitors of the guard's roles only. -/
def restrict (route : Route η) (guard : RoleGuard) : Route η :=
  { route with requiresAuth := true, guard := some guard }

end Route

/-- Routes in the order in which they are tried. -/
structure RouteTable (η : Type) where
  /-- Routes without captures, as declared. -/
  exact : List (Route η)
  /-- Routes with captures, from specific to general. -/
  capturing : List (Route η)
  /-- The handler of paths that no route matches. -/
  notFound : η

namespace RouteTable

variable {η : Type}

/-- Orders declared routes.  Routes of equal rank keep their order. -/
def ofRoutes (routes : List (Route η)) (notFound : η) : RouteTable η where
  exact := routes.filter fun route => route.pattern.isExact
  capturing := (routes.filter fun route => !route.pattern.isExact).mergeSort
    fun a b => a.pattern.ranksBefore b.pattern
  notFound := notFound

/-- The first route without captures that matches. -/
def findExact? (table : RouteTable η) (path : String) : Option (Route η) :=
  table.exact.find? fun route => (route.pattern.match? path).isSome

/-- The first route with captures that matches, and its captures. -/
def findCapturing? (table : RouteTable η) (path : String) : Option (Route η × Dict String) :=
  table.capturing.findSome? fun route =>
    (route.pattern.match? path).map fun params => (route, params)

/-- The route that serves a path, and its captures. -/
def resolve (table : RouteTable η) (path : String) : Option (Route η × Dict String) :=
  match table.findExact? path with
  | some route => some (route, [])
  | none => table.findCapturing? path

end RouteTable
end WebClient
