import Mathlib.Data.List.Forall2
import WebClient.Client.Coordinator
import WebClient.Proofs.Pool

/-!
# RestrictedArea — pages that only one role gets to see

Both sites keep whole areas for one role: whatever stands below `/admin`, and in the shop whatever
stands below `/seller`.

* `RouteTable.mem_of_resolve` and `Declaration.mem_table`: the route that serves a path is one that
  is declared, and matches it; `Declaration.find_cases` says so of whatever a path finds.
* `Declaration.Keeps` says that a declaration leaves an area alone or guards its page; the
  declarations of a site keep its areas, and one of them claims each area as a whole.
* `restricted_area_serves_its_role_only`: a hop into such an area carries out the page for a visitor
  of the role, and turns everybody else back without asking the backend anything.
-/

namespace WebClient

/-! ## Who serves a path -/

namespace RouteTable

variable {η : Type} {routes : List (Route η)} {notFound : η} {path : String}

theorem mem_of_resolve {table : RouteTable η} {route : Route η} {params : Dict String}
    (h : table.resolve path = some (route, params)) :
    (route ∈ table.exact ∨ route ∈ table.capturing) ∧ (route.pattern.match? path).isSome := by
  unfold resolve at h
  split at h
  · rename_i exact hexact
    cases h
    exact ⟨.inl (List.mem_of_find?_eq_some hexact),
      List.find?_some (p := fun r : Route η => (r.pattern.match? path).isSome) hexact⟩
  · rcases List.exists_of_findSome?_eq_some h with ⟨found, hfound, hmatch⟩
    rcases Option.map_eq_some_iff.1 hmatch with ⟨captures, hcaptures, heq⟩
    cases heq
    exact ⟨.inr hfound, by simp [hcaptures]⟩

theorem exists_resolve {table : RouteTable η} {route : Route η}
    (hroute : route ∈ table.exact ∨ route ∈ table.capturing)
    (hmatch : (route.pattern.match? path).isSome) :
    ∃ found params, table.resolve path = some (found, params) := by
  unfold resolve
  cases hexact : table.findExact? path with
  | some found => exact ⟨found, [], rfl⟩
  | none =>
      -- Then the route is one with captures, and at the latest the search ends with it.
      have hcapturing : route ∈ table.capturing := by
        refine hroute.resolve_left fun hmem => ?_
        exact List.find?_eq_none.1 hexact route hmem hmatch
      have hfound : (table.findCapturing? path).isSome := by
        refine List.findSome?_isSome_iff.2 ⟨route, hcapturing, ?_⟩
        simpa using hmatch
      rcases Option.isSome_iff_exists.1 hfound with ⟨⟨found, params⟩, heq⟩
      exact ⟨found, params, heq⟩

theorem mem_ofRoutes {route : Route η} :
    route ∈ (ofRoutes routes notFound).exact ∨ route ∈ (ofRoutes routes notFound).capturing ↔
      route ∈ routes := by
  simp only [ofRoutes, List.mem_mergeSort, List.mem_filter]
  cases route.pattern.isExact <;> simp

end RouteTable

/-! ## Patterns of an area -/

namespace Pattern

variable {p : Pattern} {path first : String}

/-- A pattern of a path begins with its first segment, or with a capture. -/
theorem head?_of_match? (h : (p.match? path).isSome)
    (hfirst : (Text.segments path).head? = some first) :
    p.segments.head? = some (.literal first) ∨
      ∃ segment ∈ p.segments.head?, isLiteral segment = false := by
  rcases List.head?_eq_some_iff.1 hfirst with ⟨rest, hparts⟩
  rw [match?, hparts, Option.isSome_map] at h
  cases hsegments : p.segments with
  | nil => simp [hsegments, captures?] at h
  | cons segment segments =>
      cases segment with
      | literal text =>
          by_cases htext : text = first
          · exact .inl (by simp [htext])
          · simp [hsegments, captures?, htext] at h
      | param name => exact .inr ⟨.param name, rfl, rfl⟩
      | rest name => exact .inr ⟨.rest name, rfl, rfl⟩

/-- A literal segment and a capture of all that remains claim every path that begins with it. -/
theorem match?_of_shell {name : String} (hshell : p.segments = [.literal first, .rest name])
    (hfirst : (Text.segments path).head? = some first) : (p.match? path).isSome := by
  rcases List.head?_eq_some_iff.1 hfirst with ⟨rest, hparts⟩
  simp [match?, hparts, hshell, captures?]

end Pattern

/-! ## Results for every element -/

section Results

variable {ε α β : Type} {f : α → Except ε β} {as : List α} {bs : List β}

theorem Except.forall₂_of_mapM (h : as.mapM f = .ok bs) :
    List.Forall₂ (fun a b => f a = .ok b) as bs := by
  induction as generalizing bs with
  | nil =>
      cases h
      exact .nil
  | cons a as ih =>
      rw [List.mapM_cons] at h
      cases hfirst : f a with
      | error fault => simp [hfirst, bind, Except.bind] at h
      | ok b =>
          cases hrest : as.mapM f with
          | error fault => simp [hfirst, hrest, bind, Except.bind] at h
          | ok others =>
              simp only [hfirst, hrest, bind, Except.bind, pure, Except.pure, Except.ok.injEq] at h
              exact h ▸ .cons hfirst (ih hrest)

theorem Except.mem_of_mapM (h : as.mapM f = .ok bs) {b : β} :
    b ∈ bs ↔ ∃ a ∈ as, f a = .ok b := by
  have hpairs := forall₂_of_mapM h
  clear h
  induction hpairs with
  | nil => simp
  | cons hfirst hrest ih => simp [ih, hfirst, eq_comm]

end Results

/-! ## Declarations -/

namespace Declaration

variable {declarations : List Declaration} {notFound : Page} {table : RouteTable Page}
  {area : String} {guard : RoleGuard}

/-- Whether no path of an area gets to the page but through a guard. -/
def Keeps (area : String) (guard : RoleGuard) (d : Declaration) : Bool :=
  match Pattern.parse d.pattern with
  | .error _ => true
  | .ok pattern =>
    match pattern.segments.head? with
    | none => true
    | some (.literal text) => text != area || (d.requiresAuth && decide (d.guard = some guard))
    | some _ => false

/-- Whether a declaration claims an area as a whole. -/
def Claims (area : String) (d : Declaration) : Bool :=
  match Pattern.parse d.pattern with
  | .ok ⟨_, [.literal text, .rest _]⟩ => text == area
  | _ => false

/-- Whether the pattern of a declaration matches a path. -/
def Serves (path : String) (d : Declaration) : Bool :=
  match Pattern.parse d.pattern with
  | .error _ => false
  | .ok pattern => (pattern.match? path).isSome

theorem toRoute_eq_ok {d : Declaration} {route : Route Page} (h : d.toRoute = .ok route) :
    Pattern.parse d.pattern = .ok route.pattern ∧ route.handler = d.page ∧
      route.requiresAuth = d.requiresAuth ∧ route.guard = d.guard := by
  cases hpattern : Pattern.parse d.pattern with
  | error e => simp [toRoute, hpattern, Except.map] at h
  | ok pattern =>
      simp only [toRoute, hpattern, Except.map, Except.ok.injEq] at h
      subst h
      exact ⟨rfl, rfl, rfl, rfl⟩

theorem exists_routes (h : Declaration.table declarations notFound = .ok table) :
    ∃ routes, declarations.mapM toRoute = .ok routes ∧
      table = RouteTable.ofRoutes routes notFound := by
  cases hroutes : declarations.mapM toRoute with
  | error e => simp [Declaration.table, hroutes, Except.map] at h
  | ok routes =>
      refine ⟨routes, rfl, ?_⟩
      simpa [Declaration.table, hroutes, Except.map, eq_comm] using h

/-- The routes of a declared table are the declared ones. -/
theorem mem_table (h : Declaration.table declarations notFound = .ok table) {route : Route Page} :
    route ∈ table.exact ∨ route ∈ table.capturing ↔
      ∃ d ∈ declarations, d.toRoute = .ok route := by
  rcases exists_routes h with ⟨routes, hroutes, rfl⟩
  rw [RouteTable.mem_ofRoutes, Except.mem_of_mapM hroutes]

/-- What a router finds for a path is declared for it; if nothing is, it is the page of paths that
are not found, and open to all. -/
theorem find_cases {router : Router}
    (h : Declaration.table declarations notFound = .ok router.table) (path : String) :
    router.find path = ⟨notFound, [], false, none⟩ ∨
      ∃ d ∈ declarations, d.Serves path = true ∧ (router.find path).page = d.page ∧
        (router.find path).requiresAuth = d.requiresAuth ∧ (router.find path).guard = d.guard := by
  unfold Router.find
  cases hresolve : router.table.resolve path with
  | none =>
      rcases exists_routes h with ⟨routes, -, htable⟩
      exact .inl (by rw [htable]; rfl)
  | some found =>
      rcases found with ⟨route, params⟩
      rcases RouteTable.mem_of_resolve hresolve with ⟨hmem, hmatch⟩
      rcases (mem_table h).1 hmem with ⟨d, hd, hroute⟩
      rcases toRoute_eq_ok hroute with ⟨hpattern, hdeclared⟩
      exact .inr ⟨d, hd, by simp [Serves, hpattern, hmatch], hdeclared⟩

/-- A route that is declared so, for a path of the area, is guarded. -/
theorem Keeps.guards {d : Declaration} (h : d.Keeps area guard) {route : Route Page}
    (hroute : d.toRoute = .ok route) {path : String}
    (hmatch : (route.pattern.match? path).isSome)
    (harea : (Text.segments path).head? = some area) :
    route.requiresAuth = true ∧ route.guard = some guard := by
  rcases toRoute_eq_ok hroute with ⟨hpattern, -, hauth, hguard⟩
  rw [hauth, hguard]
  rcases route.pattern.head?_of_match? hmatch harea with hhead | ⟨segment, hhead, hcaptures⟩
  · simpa [Keeps, hpattern, hhead] using h
  · -- No page of the site begins with a capture.
    cases segment with
    | literal text => simp [Pattern.isLiteral] at hcaptures
    | param name => simp [Keeps, hpattern, Option.mem_def.1 hhead] at h
    | rest name => simp [Keeps, hpattern, Option.mem_def.1 hhead] at h

theorem Claims.exists_route {d : Declaration} (h : d.Claims area) :
    ∃ route, d.toRoute = .ok route ∧
      ∀ path, (Text.segments path).head? = some area → (route.pattern.match? path).isSome := by
  unfold Claims at h
  split at h
  · rename_i text literal name hpattern
    have hliteral : literal = area := by simpa using h
    refine ⟨_, by rw [toRoute, hpattern]; rfl, fun path harea => ?_⟩
    exact Pattern.match?_of_shell (by rw [hliteral]) harea
  · cases h

/-- A site whose declarations keep an area, and claim it, has a guarded page for each of its
paths. -/
theorem resolve_area (h : Declaration.table declarations notFound = .ok table)
    (hkeeps : ∀ d ∈ declarations, d.Keeps area guard) (hclaims : ∃ d ∈ declarations, d.Claims area)
    {path : String} (harea : (Text.segments path).head? = some area) :
    ∃ route params, table.resolve path = some (route, params) ∧ route.requiresAuth = true ∧
      route.guard = some guard := by
  have hserved : ∃ route params, table.resolve path = some (route, params) := by
    rcases hclaims with ⟨d, hd, hclaim⟩
    rcases Claims.exists_route hclaim with ⟨shell, hshell, hmatch⟩
    exact RouteTable.exists_resolve ((mem_table h).2 ⟨d, hd, hshell⟩) (hmatch path harea)
  rcases hserved with ⟨route, params, hresolve⟩
  rcases RouteTable.mem_of_resolve hresolve with ⟨hmem, hmatch⟩
  rcases (mem_table h).1 hmem with ⟨d, hd, hroute⟩
  exact ⟨route, params, hresolve, Keeps.guards (hkeeps d hd) hroute hmatch harea⟩

end Declaration

/-! ## The areas of the sites -/

namespace Site

/-- The areas of a site, each with the only role that gets to see it. -/
def restrictedAreas : Product → List (String × Role)
  | .blog => [("admin", .admin)]
  | .shop => [("admin", .admin), ("seller", .seller)]

def declarations : Product → List Declaration
  | .blog => Blog.declarations
  | .shop => Shop.declarations

/-- That a site keeps an area for a role, behind a guard that sends nobody into the area. -/
structure Restricts (declarations : List Declaration) (area : String) (role : Role)
    (guard : RoleGuard) : Prop where
  roles : guard.roles = [role]
  outside : (Text.segments guard.redirect).head? ≠ some area
  keeps : ∀ d ∈ declarations, d.Keeps area guard
  claims : ∃ d ∈ declarations, d.Claims area

theorem exists_guard {product : Product} {area : String} {role : Role}
    (h : (area, role) ∈ restrictedAreas product) :
    ∃ guard, Restricts (declarations product) area role guard := by
  cases product with
  | blog =>
      simp only [restrictedAreas, List.mem_singleton, Prod.mk.injEq] at h
      rcases h with ⟨rfl, rfl⟩
      exact ⟨adminOnly, rfl, by decide +kernel, by decide +kernel, by decide +kernel⟩
  | shop =>
      simp only [restrictedAreas, List.mem_cons, List.not_mem_nil, or_false, Prod.mk.injEq] at h
      rcases h with ⟨rfl, rfl⟩ | ⟨rfl, rfl⟩
      · exact ⟨adminOnly, rfl, by decide +kernel, by decide +kernel, by decide +kernel⟩
      · exact ⟨Shop.sellersOnly, rfl, by decide +kernel, by decide +kernel, by decide +kernel⟩

end Site

theorem Client.tableOf_eq (product : Product) :
    tableOf product = Declaration.table (Site.declarations product) .notFound := by
  cases product <;> rfl

theorem Client.table_of_make {settings : Settings} {client : Client}
    (h : make settings = .ok client) :
    Declaration.table (Site.declarations settings.product) .notFound =
      .ok client.router.table := by
  rw [← tableOf_eq]
  unfold make at h
  split at h
  · cases h
  · rename_i table hof
    rw [hof]
    unfold withTable at h
    cases hbase : settings.apiBase with
    | error e => simp [hbase, Except.map] at h
    | ok base =>
        simp only [hbase, Except.map, Except.ok.injEq] at h
        rw [← h]

/-! ## A hop into an area -/

/-- A resolution that asks the backend nothing and comes to a redirect, unless it finds at some
moment that it is superseded: then it comes to the page that is shown, and changes nothing. -/
def Workflow.Refuses (generation : Nat) : Workflow World Resolution → Prop
  | .done (.redirect _) => True
  | .done (.done _) => False
  | .atomic update next => ∀ w, (next w).Refuses generation ∨
      w.router.generation ≠ generation ∧ update w = w ∧ next w = .done (.done w.router.view)
  | .gather _ _ => False

namespace Router

variable {router : Router} {path : String} {guard : RoleGuard} {session : Session}
  {generation : Nat}

/-- Turns a visitor back who may not see a guarded page: to the login page whoever is not logged in,
unless this is the login page, and all others where the guard says. -/
def turnBack (router : Router) (path : String) (guard : RoleGuard) (session : Session)
    (generation : Nat) : Workflow World Resolution :=
  if session.isNone && path != router.loginPath then router.sendToLogin generation
  else turnAway guard generation

/-- Whoever looks whether it is superseded, and goes on to a redirect if not, refuses. -/
theorem superseded?_refuses {next : Workflow World Resolution} (h : next.Refuses generation) :
    (superseded? generation >>= fun view? =>
      match view? with
      | some view => pure (.done view)
      | none => next).Refuses generation := by
  intro w
  by_cases hlatest : w.router.generation = generation
  · left
    simpa [RouterState.isLatest, hlatest, bind, Workflow.bind] using h
  · right
    refine ⟨hlatest, rfl, ?_⟩
    simp [RouterState.isLatest, hlatest, Workflow.bind, pure]

theorem turnBack_refuses : (router.turnBack path guard session generation).Refuses generation := by
  unfold turnBack
  split
  · exact superseded?_refuses trivial
  · exact superseded?_refuses fun w => .inl trivial

theorem admits_iff {role : Role} (hroles : guard.roles = [role]) :
    guard.admits session.user? = true ↔ session.map (·.user.role) = some role := by
  cases session with
  | none => simp [RoleGuard.admits, Session.user?]
  | some auth => simp [RoleGuard.admits, Session.user?, hroles]

/-- What is decided about a visitor of a guarded page that is not where its guard sends people. -/
theorem admission_of_guarded {found : Match} {role : Role} (hauth : found.requiresAuth = true)
    (hguard : found.guard = some guard) (hroles : guard.roles = [role])
    (hpath : path ≠ guard.redirect) :
    router.admission path found session =
      if session.map (·.user.role) = some role then .admitted
      else if session.isNone && path != router.loginPath then .toLogin
      else .turnedAway guard := by
  have hadmits : guard.admits session.user? = decide (session.map (·.user.role) = some role) := by
    rw [Bool.eq_iff_iff, admits_iff hroles, decide_eq_true_iff]
  cases session with
  | none => simp [admission, hauth, hguard, hadmits, hpath]
  | some auth =>
      by_cases hrole : auth.user.role = role <;>
        simp [admission, hauth, hguard, hadmits, hpath, hrole]

/-- A hop to a guarded page. -/
theorem resolveOnce_of_guarded {raw : String} {route : Route Page} {params : Dict String}
    {role : Role} (hresolve : router.table.resolve (Location.parse raw).path = some (route, params))
    (hauth : route.requiresAuth = true) (hguard : route.guard = some guard)
    (hroles : guard.roles = [role]) (hpath : (Location.parse raw).path ≠ guard.redirect) :
    router.resolveOnce raw = (do
      let location := Location.parse raw
      let generation ← begin location.path
      let session ← currentSession
      if session.map (·.user.role) = some role then
        let ctx : PageContext := ⟨location.path, params, location.query, session⟩
        let result ← router.gateway.carryOut (route.handler ctx)
        router.conclude location.path generation result
      else router.turnBack location.path guard session generation) := by
  have hfind : router.find (Location.parse raw).path =
      ⟨route.handler, params, route.requiresAuth, route.guard⟩ := by simp [find, hresolve]
  unfold resolveOnce
  refine congrArg (begin _ >>= ·) (funext fun generation => ?_)
  refine congrArg (currentSession >>= ·) (funext fun session => ?_)
  rw [hfind]
  dsimp only
  rw [admission_of_guarded hauth hguard hroles hpath]
  by_cases hrole : session.map (·.user.role) = some role
  · simp only [hrole, if_true]
  · rw [if_neg hrole, if_neg hrole, turnBack]
    by_cases hlogin : (session.isNone && (Location.parse raw).path != router.loginPath) = true
    · simp only [hlogin, if_true]
    · simp only [hlogin]
      rfl

end Router

/-- Let a location, however it is written, lead into an area of a site that is kept for a role, and
let the settings of the client be any.  The location has a route, and a hop to it looks at the
session once:

* the page of the route is carried out if that is a session of a user with just this role, and is
  told of this session;
* otherwise, be it without a session, with another role, or at the login location itself, the page
  is not carried out, the backend is not asked, and the hop comes to a redirect, or to the page that
  is shown if it is superseded. -/
theorem restricted_area_serves_its_role_only {settings : Settings} {client : Client}
    (hmake : Client.make settings = .ok client) {area : String} {role : Role}
    (harea : (area, role) ∈ Site.restrictedAreas settings.product) (raw : String)
    (hfirst : (Text.segments (Location.parse raw).path).head? = some area) :
    let location := Location.parse raw
    let router := client.router
    ∃ route params guard, router.table.resolve location.path = some (route, params) ∧
      router.resolveOnce raw = (do
        let generation ← Router.begin location.path
        let session ← currentSession
        if session.map (·.user.role) = some role then
          let ctx : PageContext := ⟨location.path, params, location.query, session⟩
          let result ← router.gateway.carryOut (route.handler ctx)
          router.conclude location.path generation result
        else router.turnBack location.path guard session generation) ∧
      ∀ session generation,
        (router.turnBack location.path guard session generation).Refuses generation := by
  intro location router
  rcases Site.exists_guard harea with ⟨guard, hguard⟩
  rcases Declaration.resolve_area (Client.table_of_make hmake) hguard.keeps hguard.claims
      hfirst with ⟨route, params, hresolve, hauth, hroute⟩
  -- Nobody is at the place where the guard would send them, for that is outside of the area.
  have hpath : location.path ≠ guard.redirect := by
    intro hsame
    exact hguard.outside (hsame ▸ hfirst)
  exact ⟨route, params, guard, hresolve,
    Router.resolveOnce_of_guarded hresolve hauth hroute hguard.roles hpath,
    fun session generation => Router.turnBack_refuses⟩

/-- Below the login page of a shop whose sellers log in among their products. -/
theorem seller_login_is_restricted :
    ∃ client, Client.make { loginPath := "/seller/login" } = .ok client ∧
      ∃ route params guard,
        client.router.table.resolve "/seller/login" = some (route, params) ∧
        client.router.resolveOnce "//seller//login/?next=1#top" = (do
          let generation ← Router.begin "/seller/login"
          let session ← currentSession
          if session.map (·.user.role) = some .seller then
            let ctx : PageContext := ⟨"/seller/login", params, [("next", "1")], session⟩
            let result ← client.gateway.carryOut (route.handler ctx)
            client.router.conclude "/seller/login" generation result
          else client.router.turnBack "/seller/login" guard session generation) := by
  have hmade : (Client.make { loginPath := "/seller/login" }).toBool = true := by decide +kernel
  have hlocation : Location.parse "//seller//login/?next=1#top" =
      ⟨"/seller/login", [("next", "1")]⟩ := by decide +kernel
  cases hmake : Client.make { loginPath := "/seller/login" } with
  | error e => simp [hmake, Except.toBool] at hmade
  | ok client =>
      have hfirst : (Text.segments (Location.parse "//seller//login/?next=1#top").path).head? =
          some "seller" := by decide +kernel
      have hseller : ("seller", Role.seller) ∈ Site.restrictedAreas .shop := by decide
      have hhop := restricted_area_serves_its_role_only hmake hseller
        "//seller//login/?next=1#top" hfirst
      rw [hlocation] at hhop
      rcases hhop with ⟨route, params, guard, hresolve, hhop, -⟩
      exact ⟨client, rfl, route, params, guard, hresolve, hhop⟩

end WebClient
