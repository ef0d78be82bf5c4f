import WebClient.Proofs.Redirects

/-!
# ShortChains — how many redirects a site can send a visitor through

The guards of both sites send people home or to the log-in form, and the settings say which page
counts as the login page.  At home nobody is asked for anything, and neither is who wants to log in.

* `Site.Welcomes` is what the declarations of both sites have in common.
* `Router.distance` counts the redirects that are still possible from a location on;
  `distance_lt` says that it falls with every redirect.
* `site_redirects_at_most_twice` is what follows for every visitor, in every order of turns.
-/

namespace WebClient

/-! ## Home and the log-in form -/

namespace Site

/-- What a site has to offer for its chains of redirects to be short: its guards send people home or
to the log-in form, home is open to all, and the form is shown without asking anybody. -/
structure Welcomes (declarations : List Declaration) : Prop where
  guards : ∀ d ∈ declarations, ∀ guard ∈ d.guard, guard.redirect = "/" ∨ guard.redirect = "/login"
  home : ∀ d ∈ declarations, d.Serves "/" = true → d.requiresAuth = false ∧ d.guard = none
  form : ∀ d ∈ declarations, d.Serves "/login" = true → d = loginPage

theorem eq_of_filter {declarations : List Declaration} {picks : Declaration → Bool}
    {only : Declaration} (h : declarations.filter picks = [only]) :
    ∀ d ∈ declarations, picks d = true → d = only := by
  intro d hd hpicked
  exact List.mem_singleton.1 (h ▸ List.mem_filter.2 ⟨hd, hpicked⟩)

theorem welcomes (product : Product) : Welcomes (declarations product) := by
  have hguards : ∀ d ∈ declarations product,
      d.guard.all fun guard => guard.redirect == "/" || guard.redirect == "/login" := by
    cases product <;> decide +kernel
  refine ⟨fun d hd guard hguard => ?_, ?_, ?_⟩
  · simpa [Option.mem_def.1 hguard] using hguards d hd
  · cases product <;> decide +kernel
  · cases product with
    | blog => exact eq_of_filter (by rfl)
    | shop => exact eq_of_filter (by rfl)

end Site

namespace Router

variable {router : Router} {product : Product} {path asked target : String}

/-- How many redirects are still possible from a location on. -/
def distance (router : Router) (location : String) : Nat :=
  if location = router.loginPath ∨ location = "/login" then 0
  else if location = "/" then 1
  else 2

/-- Nobody is sent away from the login page, if it has no guard. -/
theorem not_sendsAway_login (hguard : (router.find router.loginPath).guard = none) :
    ¬ router.SendsAway router.loginPath target := by
  intro h
  cases h with
  | needsLogin _ haway => exact haway rfl
  | refused _ _ haway => exact haway rfl
  | lacksRole hclosed _ => cases hguard.symm.trans hclosed

section Site

variable (hsite : Declaration.table (Site.declarations product) .notFound = .ok router.table)

include hsite

theorem distance_le_one_of_sendsAway (h : router.SendsAway path target) :
    router.distance target ≤ 1 := by
  have hlogin : router.distance router.loginPath = 0 := by simp [distance]
  cases h with
  | needsLogin _ _ => omega
  | refused _ _ _ => omega
  | @lacksRole guard hguard haway =>
      rcases Declaration.find_cases hsite path with hnone | ⟨d, hd, -, -, -, hdeclared⟩
      · rw [hnone] at hguard
        cases hguard
      · rcases (Site.welcomes product).guards d hd guard (hdeclared.symm.trans hguard) with
          hhome | hform
        · rw [hhome]
          unfold distance
          split
          · exact Nat.zero_le 1
          · exact Nat.le_of_eq (if_pos rfl)
        · simp [distance, hform]

/-- Nobody is sent away from the log-in form. -/
theorem not_sendsAway_form : ¬ router.SendsAway "/login" target := by
  have hopen : (router.find "/login").requiresAuth = false ∧ (router.find "/login").guard = none ∧
      ∀ ctx, ∃ view, (router.find "/login").page ctx = .done (.ok view) := by
    rcases Declaration.find_cases hsite "/login" with hnone | ⟨d, hd, hserves, hpage, hauth, hguard⟩
    · rw [hnone]
      exact ⟨rfl, rfl, fun ctx => ⟨_, rfl⟩⟩
    · cases (Site.welcomes product).form d hd hserves
      rw [hpage, hauth, hguard]
      exact ⟨rfl, rfl, fun ctx => ⟨_, rfl⟩⟩
  rcases hopen with ⟨hauth, hguard, hpage⟩
  intro h
  cases h with
  | needsLogin hclosed _ => cases hauth.symm.trans hclosed
  | lacksRole hclosed _ => cases hguard.symm.trans hclosed
  | refused ctx hrefused _ =>
      rcases hpage ctx with ⟨view, hview⟩
      rw [hview] at hrefused
      cases hrefused

/-- From home people are sent to the login page only. -/
theorem eq_loginPath_of_sendsAway_home (h : router.SendsAway "/" target) :
    target = router.loginPath := by
  cases h with
  | needsLogin _ _ => rfl
  | refused _ _ _ => rfl
  | @lacksRole guard hclosed _ =>
      rcases Declaration.find_cases hsite "/" with hnone | ⟨d, hd, hserves, -, -, hguard⟩
      · rw [hnone] at hclosed
        cases hclosed
      · have hopen := ((Site.welcomes product).home d hd hserves).2
        cases (hopen.symm.trans hguard.symm).trans hclosed

/-- Every redirect brings a visitor nearer to a place where he can stay. -/
theorem distance_lt (hguard : (router.find router.loginPath).guard = none)
    (hnormal : Location.IsNormal router.loginPath) (asked target : String)
    (h : router.SendsAway (Location.parse asked).path target) :
    router.distance target < router.distance asked := by
  have hnear := distance_le_one_of_sendsAway hsite h
  have hlogin : asked ≠ router.loginPath := by
    rintro rfl
    rw [hnormal] at h
    exact not_sendsAway_login hguard h
  have hform : asked ≠ "/login" := by
    rintro rfl
    have hpath : (Location.parse "/login").path = "/login" := by decide +kernel
    rw [hpath] at h
    exact not_sendsAway_form hsite h
  by_cases hhome : asked = "/"
  · subst hhome
    have hpath : (Location.parse "/").path = "/" := by decide +kernel
    rw [hpath] at h
    rw [eq_loginPath_of_sendsAway_home hsite h]
    simp [distance, hlogin]
  · have hfar : router.distance asked = 2 := by simp [distance, hlogin, hform, hhome]
    omega

end Site

theorem distance_le_two (router : Router) (location : String) : router.distance location ≤ 2 := by
  unfold distance
  split_ifs <;> omega

end Router

/-- Let a router have the table of one of the sites, and let its login page be any location in
normal form whose route, if there is one, has no guard.

* Whatever location is resolved, among any other tasks and in any order of turns, and so for any
  sessions that are seen on the way and any replies, at most two redirects are followed.
* So the limit of redirects is never reached: any limit that lets through two redirects gives the
  very same resolution. -/
theorem site_redirects_at_most_twice {product : Product} {router : Router}
    (htable : Client.tableOf product = .ok router.table)
    (hnormal : Location.IsNormal router.loginPath)
    (hguard : (router.find router.loginPath).guard = none) (raw : String) :
    (∀ (p : Pool World ViewState) (i : Nat) (moves : List Move),
        p.tasks[i]? = some (router.resolve raw) → (p.turns i moves).redirects.length ≤ 2) ∧
      ∀ hops, 2 < hops → router.resolveWithin hops raw = router.resolve raw := by
  rw [Client.tableOf_eq] at htable
  have hfalls := Router.distance_lt htable hguard hnormal
  have hdistance := router.distance_le_two raw
  refine ⟨fun p i moves htask => ?_, fun hops hhops => ?_⟩
  · exact ((Pool.follows_turns htask moves).length_le hfalls).trans hdistance
  · have hlimit : router.distance raw < Router.maxRedirects :=
      lt_of_le_of_lt hdistance (by decide)
    exact Router.resolveWithin_eq_of_falls hfalls (by omega) hlimit

/-- A shop whose visitors log in at their cart. -/
def Router.atCart : Router where
  table := (Client.tableOf .shop).toOption.getD ⟨[], [], .notFound⟩
  loginPath := "/cart"
  gateway := ⟨"http://localhost/api", .auto⟩

/-- A reader asks for a page for administrators, and the backend refuses everything: the guard sends
the reader home, and home to the cart. -/
theorem reader_is_redirected_twice :
    let start : Pool World ViewState :=
      ⟨[Router.atCart.resolve "//admin/users?page=2"], .alices⟩
    let refusal : Outcome := .answered 401 "\x7b\"success\":false,\"message\":\"log in\"\x7d"
    let moves : List Move := (List.range 60).map fun n => ⟨0, n % 3, refusal⟩
    (start.turns 0 moves).redirects = [("//admin/users?page=2", "/"), ("/", "/cart")] ∧
      (∀ moves, (start.turns 0 moves).redirects.length ≤ 2) ∧
      Router.atCart.resolveWithin 3 "//admin/users?page=2" =
        Router.atCart.resolve "//admin/users?page=2" := by
  intro start refusal moves
  have hmade : (Client.tableOf .shop).toBool = true := by decide +kernel
  have htable : Client.tableOf .shop = .ok Router.atCart.table := by
    cases hof : Client.tableOf .shop with
    | error e => simp [hof, Except.toBool] at hmade
    | ok table => simp [Router.atCart, hof, Except.toOption]
  have hnormal : Location.IsNormal Router.atCart.loginPath := by decide +kernel
  have hguard : (Router.atCart.find Router.atCart.loginPath).guard = none := by decide +kernel
  have hshort := site_redirects_at_most_twice htable hnormal hguard "//admin/users?page=2"
  exact ⟨by decide +kernel, fun moves => hshort.1 start 0 moves rfl, hshort.2 3 (by decide)⟩

end WebClient
