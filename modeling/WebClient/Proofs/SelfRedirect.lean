import Mathlib.Data.Fintype.EquivFin
import WebClient.Proofs.Redirects

/-!
# SelfRedirect — redirects that lead to the page they come from

A hop sends nobody from a path to the same path.  But the path is in normal form, and the target of
a redirect is compared with it as it is written in the settings or in a guard: a target with a slash
too many, a query or a fragment can stand for the very page that is left.

* `Router.Refers` says where the page of a location can refer a visitor to, and `Router.sends_iff`
  that a hop is sent there, unless the target is the path as it stands.
* `Router.LeadsElsewhere` says of a target that every redirect to it is to another page.
* `redirect_leads_elsewhere_iff`: a target leads elsewhere if it is in normal form, or if its own
  page does not refer to it; only in normal form it does so whatever the router.
-/

namespace WebClient

/-- Some role is always left over. -/
theorem Role.exists_notMem (roles : List Role) : ∃ role, role ∉ roles := by
  have hother : Function.Injective Role.other := fun _ _ => Role.other.inj
  have hmany : Infinite Role := .of_injective Role.other hother
  simpa using Infinite.exists_notMem_finset roles.toFinset

namespace Router

variable {router : Router} {source asked target : String}

/-! ## Where a page refers to -/

/-- Where a visitor can be referred to at the page of a location. -/
inductive Refers (router : Router) (source : String) : String → Prop where
  /-- The page asks for a login. -/
  | needsLogin (hauth : (router.find (Location.parse source).path).requiresAuth = true) :
      Refers router source router.loginPath
  /-- The page has a guard, and no guard admits everybody. -/
  | hasGuard {guard : RoleGuard}
      (hguard : (router.find (Location.parse source).path).guard = some guard) :
      Refers router source guard.redirect
  /-- The page is carried out for somebody who is let in, and finds that a login is needed. -/
  | refused {session : Session} {turns : Turns World}
      (hlogin : router.MeetsLogin (Location.parse source).path session)
      (hrole : router.MeetsRole (Location.parse source).path session)
      (hrefused : (router.gateway.carryOut ((router.find (Location.parse source).path).page
        ⟨(Location.parse source).path, (router.find (Location.parse source).path).params,
          (Location.parse source).query, session⟩)).Comes turns (.error .unauthorized)) :
      Refers router source router.loginPath

/-- A hop that sees a session, and is not superseded, receives the visitor. -/
theorem sends_of_receives {session : Session} {turns : Turns World}
    (h : router.Receives (Location.parse source) 1 session turns (.redirect target)) :
    router.Sends source target := by
  let seen : World := { login := { session, store := .working [] } }
  exact ⟨_, comes_resolveOnce_iff.2 ⟨.fresh (.working []), .fresh (.working []), seen, turns, rfl,
    h⟩⟩

theorem sends_of_refers (h : router.Refers source target)
    (haway : (Location.parse source).path ≠ target) : router.Sends source target := by
  let latest : World := { World.fresh (.working []) with router := { generation := 1 } }
  cases h with
  | needsLogin hauth =>
      have hlogin : ¬ router.MeetsLogin (Location.parse source).path none :=
        fun hmeets => (hmeets hauth).elim nofun haway
      exact sends_of_receives (.sentToLogin (w := latest) hlogin rfl)
  | @hasGuard guard hguard =>
      rcases Role.exists_notMem guard.roles with ⟨role, hrole⟩
      let stranger : AuthSession := ⟨"token", { id := 1, username := "stranger", role }, none⟩
      have hlogin : router.MeetsLogin (Location.parse source).path (some stranger) :=
        fun _ => .inl rfl
      have hclosed : ¬ router.MeetsRole (Location.parse source).path (some stranger) := by
        intro hmeets
        rcases hmeets guard hguard with ⟨auth, hauth, hadmitted⟩ | hhere
        · have hsame : stranger = auth := Option.some.inj hauth
          subst hsame
          exact hrole hadmitted
        · exact haway hhere
      have hturned : router.Receives (Location.parse source) 1 (some stranger)
          [(latest, latest), (latest, latest.emit (.toast .warning guard.message))]
          (.redirect guard.redirect) := .turnedAway hlogin hguard hclosed rfl
      exact sends_of_receives hturned
  | @refused session turns hlogin hrole hrefused =>
      have hshown : (router.conclude (Location.parse source).path 1 (.error .unauthorized)).Comes
          [(latest, latest)] (.redirect router.loginPath) := by
        simp only [conclude, bne_iff_ne, ne_eq, haway, not_false_eq_true, if_true]
        exact comes_sendToLogin_iff.2 ⟨latest, rfl, .inl ⟨rfl, rfl⟩⟩
      exact sends_of_receives (.served hlogin hrole hrefused hshown)

/-- A hop is sent to where the page refers to, unless it is the path as it stands. -/
theorem sends_iff : router.Sends source target ↔
    router.Refers source target ∧ (Location.parse source).path ≠ target := by
  refine ⟨fun hsends => ⟨?_, hsends.sendsAway.ne⟩, fun h => sends_of_refers h.1 h.2⟩
  rcases hsends with ⟨turns, hcomes⟩
  rcases comes_resolveOnce_iff.1 hcomes with ⟨w, w', seen, rest, -, hreceives⟩
  cases hreceives with
  | @served turns shown result resolution hlogin hrole hserved hshown =>
      have hconcluded : (router.conclude (Location.parse source).path (w.router.generation + 1)
          result).Ends fun resolution => resolution = .redirect target →
            result = .error .unauthorized ∧ router.loginPath = target :=
        conclude_ends (fun _ => nofun) fun hresult _ hsent => ⟨hresult, by cases hsent; rfl⟩
      rcases hshown.ends hconcluded rfl with ⟨rfl, rfl⟩
      exact .refused hlogin hrole hserved
  | sentToLogin hlogin _ => exact .needsLogin (Classical.not_imp.1 hlogin).1
  | turnedAway _ hguard _ _ => exact .hasGuard hguard

/-- A page that is open to all, and needs no login for what it shows, refers nobody elsewhere. -/
theorem not_refers_of_open
    (hauth : (router.find (Location.parse source).path).requiresAuth = false)
    (hguard : (router.find (Location.parse source).path).guard = none)
    (hpage : ∀ ctx, ¬ ((router.find (Location.parse source).path).page ctx).CanEnd
      (.error .unauthorized)) : ¬ router.Refers source target := by
  intro hrefers
  cases hrefers with
  | needsLogin hclosed => cases hauth.symm.trans hclosed
  | hasGuard hsome => cases hguard.symm.trans hsome
  | refused _ _ hrefused => exact hpage _ (hrefused.ends (Gateway.carryOut_ends _ _))

/-! ## Redirects that lead to another page -/

/-- Whether every redirect to a target that a resolution follows, among any other tasks, is to
another page than the one that it comes from. -/
def LeadsElsewhere (router : Router) (target : String) : Prop :=
  ∀ (p : Pool World ViewState) (i : Nat) (asked source : String) (moves : List Move),
    p.tasks[i]? = some (router.resolve asked) →
      (source, target) ∈ (p.turns i moves).redirects →
        (Location.parse source).path ≠ (Location.parse target).path

/-- A redirect that a hop can come to is told of in some run of a resolution among other tasks. -/
theorem tells_of_sends (h : router.Sends asked target) :
    ∃ (p : Pool World ViewState) (moves : List Move),
      p.tasks[0]? = some (router.resolve asked) ∧
        (asked, target) ∈ (p.turns 0 moves).redirects := by
  rcases h with ⟨first, hfirst⟩
  have hhops : ∃ hops, router.resolve asked =
      router.resolveOnce asked >>= router.follow hops asked := ⟨3, rfl⟩
  rcases hhops with ⟨hops, hresolve⟩
  -- With its next turn it tells of the redirect; then it goes on in some way.
  let rest : Workflow World ViewState := do
    reroute asked target
    router.resolveWithin hops target
  let w : World := .fresh (.working [])
  rcases rest.exists_comes w with ⟨last, view, hlast⟩
  have hfollow : (router.follow hops asked (.redirect target)).Comes
      ((w, w.emit (.redirected asked target)) :: last) view := .atomic hlast
  have hwhole : (router.resolve asked).Comes
      (first ++ (w, w.emit (.redirected asked target)) :: last) view := by
    rw [hresolve]
    exact Workflow.comes_bind_iff.2 ⟨first, _, _, rfl, hfirst, hfollow⟩
  have htold : (asked, target) ∈
      Turns.redirects (first ++ (w, w.emit (.redirected asked target)) :: last) := by
    simp [Turns.redirects_append, Turns.redirects_tell]
  rcases Pool.exists_moves hwhole w with ⟨moves, hmoves⟩
  rw [← hmoves] at htold
  exact ⟨_, moves, rfl, htold⟩

/-- It is enough to look at each hop for itself. -/
theorem leadsElsewhere_iff_sends : router.LeadsElsewhere target ↔
    ∀ source, router.Sends source target →
      (Location.parse source).path ≠ (Location.parse target).path := by
  constructor
  · intro helsewhere source hsends
    rcases tells_of_sends hsends with ⟨p, moves, htask, htold⟩
    exact helsewhere p 0 source source moves htask htold
  · intro hhops p i asked source moves htask htold
    exact hhops source ((Pool.follows_turns htask moves).sends_of_mem htold)

/-- A target leads elsewhere if it is in normal form, or its own page does not refer to it. -/
theorem leadsElsewhere_iff : router.LeadsElsewhere target ↔ Location.IsNormal target ∨
    ∀ source, (Location.parse source).path = (Location.parse target).path →
      ¬ router.Refers source target := by
  rw [leadsElsewhere_iff_sends]
  constructor
  · intro helsewhere
    by_cases hnormal : Location.IsNormal target
    · exact .inl hnormal
    · right
      intro source hsame hrefers
      -- The path is in normal form and the target is not.
      have haway : (Location.parse source).path ≠ target := hsame ▸ hnormal
      exact helsewhere source (sends_of_refers hrefers haway) hsame
  · rintro (hnormal | hown) source hsends hsame
    · exact (sends_iff.1 hsends).2 (hsame.trans hnormal)
    · exact hown source hsame (sends_iff.1 hsends).1

/-- A router with one page, for every path, that asks for a login. -/
def barred (loginPath : String) : Router where
  table :=
    { exact := []
      capturing := [⟨"any", ⟨"/*place", [.rest "place"]⟩, .static "any" "Any", true, none⟩]
      notFound := .notFound }
  loginPath := loginPath
  gateway := ⟨"http://localhost/api", .auto⟩

theorem requiresAuth_barred (loginPath path : String) :
    ((barred loginPath).find path).requiresAuth = true := by
  simp [find, barred, RouteTable.resolve, RouteTable.findExact?, RouteTable.findCapturing?,
    Pattern.match?, Pattern.captures?]

end Router

/-- A target can be followed from the very page that it stands for exactly if it is not written in
normal form and this page refers to it: as the login page, since the page asks for a login or can
find from the backend that one is needed, or as the redirect of its guard.  A target that is written
in normal form always leads to another page, whatever there is in the table, the settings and the
guards, and whatever sessions are seen and replies are given on the way; any other target does not,
in some router. -/
theorem redirect_leads_elsewhere_iff (target : String) :
    (∀ router : Router, router.LeadsElsewhere target ↔ Location.IsNormal target ∨
        ∀ source, (Location.parse source).path = (Location.parse target).path →
          ¬ router.Refers source target) ∧
      (Location.IsNormal target ↔ ∀ router : Router, router.LeadsElsewhere target) := by
  refine ⟨fun router => router.leadsElsewhere_iff, ?_, ?_⟩
  · exact fun hnormal router => router.leadsElsewhere_iff.2 (.inl hnormal)
  · intro helsewhere
    rcases (Router.barred target).leadsElsewhere_iff.1 (helsewhere _) with hnormal | hown
    · exact hnormal
    · exact absurd (.needsLogin (Router.requiresAuth_barred target _)) (hown target rfl)

/-- A redirect to a login page in normal form; and a login page that is written otherwise, which
leads elsewhere as long as it is open, and does not in some other router. -/
theorem old_page_is_left_for_another :
    let start : Pool World ViewState := ⟨[Client.gated.router.resolve "//old/?page=2#top"],
      { login := { store := .working [] } }⟩
    let moves : List Move := List.replicate 9 ⟨0, 0, .dropped⟩
    let written : Router := { Client.gated.router with loginPath := "/login/?next=#form" }
    (start.turns 0 moves).redirects = [("//old/?page=2#top", "/login")] ∧
      (Location.parse "//old/?page=2#top").path ≠ (Location.parse "/login").path ∧
      written.LeadsElsewhere "/login/?next=#form" ∧
      ∃ router : Router, ¬ router.LeadsElsewhere "/login/?next=#form" := by
  intro start moves written
  have hnormal : Location.IsNormal "/login" := by decide +kernel
  have hwritten : ¬ Location.IsNormal "/login/?next=#form" := by decide +kernel
  have htold : (start.turns 0 moves).redirects = [("//old/?page=2#top", "/login")] := by
    decide +kernel
  refine ⟨htold, ?_, ?_, ?_⟩
  · exact (redirect_leads_elsewhere_iff "/login").2.1 hnormal Client.gated.router start 0
      "//old/?page=2#top" "//old/?page=2#top" moves rfl (htold ▸ List.mem_cons_self)
  · refine ((redirect_leads_elsewhere_iff "/login/?next=#form").1 written).2 (.inr ?_)
    intro source hsame
    have hpath : (Location.parse source).path = "/login" := hsame.trans (by decide +kernel)
    refine Router.not_refers_of_open ?_ ?_ ?_ <;> rw [hpath]
    · rfl
    · rfl
    · exact fun ctx => nofun
  · exact not_forall.1 (mt (redirect_leads_elsewhere_iff "/login/?next=#form").2.2 hwritten)

/-- A router whose login page asks for a login, and is known to it with a slash at the end. -/
def Router.trailing : Router where
  table :=
    { exact := [Route.protect ⟨"login", ⟨"/login", [.literal "login"]⟩, .static "login" "Log in",
        false, none⟩]
      capturing := []
      notFound := .notFound }
  loginPath := "/login/"
  gateway := ⟨"http://localhost/api", .auto⟩

/-- Whoever asks for the login page is sent from the login page to the login page until the limit of
redirects is reached, and never gets to log in. -/
theorem login_page_is_left_for_itself :
    let start : Pool World ViewState := ⟨[Router.trailing.resolve "/login"],
      { login := { store := .working [] } }⟩
    let moves : List Move := List.replicate 28 ⟨0, 0, .dropped⟩
    (start.turns 0 moves).redirects =
        [("/login", "/login/"), ("/login/", "/login/"), ("/login/", "/login/"),
          ("/login/", "/login/")] ∧
      (start.run moves).state.router.view == .error "/login/" Router.loadFailed ∧
      (Location.parse "/login").path = (Location.parse "/login/").path ∧
      ¬ Router.trailing.LeadsElsewhere "/login/" := by
  intro start moves
  have htold : (start.turns 0 moves).redirects =
      [("/login", "/login/"), ("/login/", "/login/"), ("/login/", "/login/"),
        ("/login/", "/login/")] := by
    decide +kernel
  have hsame : (Location.parse "/login").path = (Location.parse "/login/").path := by
    decide +kernel
  refine ⟨htold, by decide +kernel, hsame, fun helsewhere => ?_⟩
  exact helsewhere start 0 "/login" "/login" moves rfl (htold ▸ List.mem_cons_self) hsame

end WebClient
