import WebClient.Page.Template
import WebClient.Page.View

/-!
# Kinds — the kinds of pages that the client has

* `Page.static` needs no data: it shows the captures and query parameters that it is given.
* `Page.notFound` stands for every path that no route claims.
* `FetchPage` puts a view together from the replies to several calls made at once.  The view exists
  only if every required source has answered; an optional source that fails shows as `null`.
-/

namespace WebClient

namespace Page

/-- A page without data of its own.  A query parameter hides a capture of the same name. -/
def static (kind title : String) : Page := fun ctx =>
  let data := Dict.putAll (Dict.ofList ctx.params) ctx.query
  .done (.ok ⟨kind, title, Json.ofTexts data⟩)

def notFoundView (path : String) : View :=
  ⟨"not_found", "Page not found", .object [("path", .string path)]⟩

def notFound : Page := fun ctx => .done (.ok (notFoundView ctx.path))

end Page

/-- One call of a page, and the name of its data in the view. -/
structure Source where
  key : String
  template : String
  isOptional : Bool := false
  deriving DecidableEq, Repr

/-- A page made of the data of several calls. -/
structure FetchPage where
  kind : String
  title : String
  sources : List Source
  deriving DecidableEq, Repr

namespace FetchPage

/-- The path that each source asks for, or the first name without a value. -/
def paths (page : FetchPage) (ctx : PageContext) : Except String (List String) :=
  page.sources.mapM fun source => Template.expand ctx.lookup source.template

/-- Of two failures a missing login is the one to report, else the first. -/
def firstError : Option ViewError → ViewError → ViewError
  | none, error => error
  | some _, .unauthorized => .unauthorized
  | some earlier, _ => earlier

/-- Takes one reply into account: the data so far, and the error so far. -/
def addReply (state : Dict Json × Option ViewError) (answer : Source × Reply) :
    Dict Json × Option ViewError :=
  match answer.2.result with
  | .ok value => (Dict.put answer.1.key value state.1, state.2)
  | .error failure =>
    if answer.1.isOptional then (Dict.put answer.1.key .null state.1, state.2)
    else (state.1, some (firstError state.2 (ViewError.ofFailure failure)))

/-- The result of a page whose sources have answered, in the order of the sources. -/
def assemble (page : FetchPage) (replies : List Reply) : Except ViewError View :=
  match (page.sources.zip replies).foldl addReply ([], none) with
  | (_, some error) => .error error
  | (data, none) => .ok ⟨page.kind, page.title, .object data⟩

/-- The page: all templates are expanded before the first call is made. -/
def render (page : FetchPage) : Page := fun ctx =>
  match page.paths ctx with
  | .error name => .done (.error (.missingParam name))
  | .ok paths => .fetch (paths.map Call.get) fun replies => .done (page.assemble replies)

end FetchPage
end WebClient
