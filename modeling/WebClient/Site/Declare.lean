import WebClient.Page.Kinds
import WebClient.Route.Table

/-!
# Declare — writing down the pages of a site

A site is a list of declarations: a name, a pattern text, a page and what is asked of visitors.
Declarations become a table if every pattern is well formed; otherwise the first bad pattern is
reported.
-/

namespace WebClient

/-- A route before its pattern has been read. -/
structure Declaration where
  name : String
  pattern : String
  page : Page
  requiresAuth : Bool := false
  guard : Option RoleGuard := none

namespace Declaration

def protect (d : Declaration) : Declaration := { d with requiresAuth := true }

/-- The page, open to logged-in visitors of the guard's roles only. -/
def restrict (d : Declaration) (guard : RoleGuard) : Declaration :=
  { d with requiresAuth := true, guard := some guard }

def toRoute (d : Declaration) : Except PatternError (Route Page) :=
  (Pattern.parse d.pattern).map fun pattern =>
    { name := d.name, pattern, handler := d.page, requiresAuth := d.requiresAuth, guard := d.guard }

def table (declarations : List Declaration) (notFound : Page) :
    Except PatternError (RouteTable Page) :=
  (declarations.mapM toRoute).map fun routes => RouteTable.ofRoutes routes notFound

end Declaration

/-- A source whose data a page cannot do without. -/
def source (key template : String) : Source := ⟨key, template, false⟩

def optionalSource (key template : String) : Source := ⟨key, template, true⟩

def fetchPage (kind title : String) (sources : List Source) : Page :=
  FetchPage.render ⟨kind, title, sources⟩

namespace Site

def adminOnly : RoleGuard := ⟨[.admin], "/", "administrator access required"⟩

def loginPage : Declaration := ⟨"login", "/login", .static "login" "Log in", false, none⟩

/-- The page on which visitors ask for an account. -/
def registerPage : Declaration :=
  ⟨"register", "/register", .static "register" "Sign up", false, none⟩

end Site
end WebClient
