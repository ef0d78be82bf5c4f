import WebClient.Proofs.Itinerary

/-!
# Departure — where a logout leaves a client

A logout ends the session and goes home, unless the current location is one of a few that count as
public.  Which these are is decided by their paths, and not by what their routes ask for.

* `RouterState.RendersCurrent` says that a page that has been rendered is that of the current
  location; every operation keeps it.
* `Client.logout_meets` says what a logout does: nothing to the router where the location is public,
  and elsewhere what going home without a session does.
* `protected_page_is_left`: a page of a route that asks for a login is open after a logout only at
  the login location, or at a home location that has not been left.
-/

namespace WebClient

/-! ## What is rendered -/

/-- Whether a page that has been rendered is the page of the current location. -/
def RouterState.RendersCurrent (s : RouterState) : Prop :=
  ∀ path view, s.view = .rendered path view →
    ∃ raw, s.current? = some raw ∧ (Location.parse raw).path = path

theorem World.Heads.current? {w : World} {told : List (String × String)} {behind : List String}
    {asked target : String} (h : w.Heads told behind asked target) :
    w.router.current? = some target := by
  rcases h.history with ⟨kept, -, hhistory⟩
  simp [RouterState.current?, hhistory]

namespace Router

variable {router : Router} {S : Session → Prop} {final path : String}

/-- A page is rendered for a visitor who may see it. -/
theorem ShowsLast.of_rendered {view : View} (h : router.ShowsLast S final (.rendered path view)) :
    (Location.parse final).path = path ∧ ∃ session, S session ∧ router.Shows session path := by
  rcases h with ⟨hpath, hsession⟩ | ⟨herror, -⟩
  · have hfinal : (Location.parse final).path = path := (Option.some.inj hpath).symm
    exact ⟨hfinal, hfinal ▸ hsession⟩
  · cases herror

theorem ShowsLast.rendersCurrent {w : World} {told : List (String × String)}
    {behind : List String} {asked : String} (h : router.ShowsLast S final w.router.view)
    (hheads : w.Heads told behind asked final) : w.router.RendersCurrent := by
  intro path view hview
  rw [hview] at h
  exact ⟨final, hheads.current?, h.of_rendered.1⟩

/-- Without a session, the only page that asks for a login and is shown is the login page. -/
theorem Shows.eq_loginPath (h : router.Shows none path)
    (hauth : (router.find path).requiresAuth = true) : path = router.loginPath := by
  by_contra hpath
  simp [Shows, admission, hauth, hpath] at h

end Router

theorem Client.keeps_rendersCurrent (client : Client) :
    client.KeepsRouter RouterState.RendersCurrent where
  navigate location := by
    refine .of_each fun before _ => ?_
    exact (Router.navigate_ends (S := fun _ => True) trivial client.router before trivial
      location).mono (fun _ hw => hw) fun _ _ ⟨_, hheads, hshows⟩ => hshows.rendersCurrent hheads
  back := by
    refine .of_each fun before hbefore => ?_
    rcases Nat.lt_or_ge before.router.history.length 2 with hshort | hlong
    · refine (Router.back_stays client.router before hshort).mono (fun _ hw => hw) fun _ w hw => ?_
      exact hw ▸ hbefore
    · rcases RouterState.exists_two hlong with ⟨older, location, current, hhistory⟩
      exact (Router.back_ends client.router before hhistory).mono (fun _ hw => hw)
        fun _ _ ⟨_, hheads, hshows⟩ => hshows.rendersCurrent hheads

/-! ## Logging out -/

theorem clearSession_meets (before : World) :
    (clearSession : Workflow World Bool).Meets before.SameRoute fun _ w =>
      before.SameRoute w ∧ w.login.session = none := by
  refine .bind (Q := fun _ w => before.SameRoute w ∧ w.login.session = none)
    (.modifyGet fun w hw => ⟨⟨hw.1, hw.2⟩, rfl⟩) fun previous => ?_
  cases previous with
  | none => exact .pure fun _ hw => hw
  | some auth =>
      refine .bind (.modifyGet fun w hw => ⟨⟨hw.1.1, ?_⟩, hw.2⟩) fun _ => .pure fun _ hw => hw
      simpa [World.redirects_emit, Event.ofSession, Event.redirect?] using hw.1.2

namespace Client

/-- Where a logout leaves off that has found `before`: the session is over, and from a location to
leave the client has gone home, where it is shown what may be seen without a session. -/
def Departs (client : Client) (before w : World) : Prop :=
  w.login.session = none ∧
    (client.mustLeave before.router.current? = false → w.router = before.router) ∧
    (client.mustLeave before.router.current? = true →
      ∃ final, w.Heads before.redirects (before.router.behind client.settings.homePath)
          client.settings.homePath final ∧
        client.router.ShowsLast (· = none) final w.router.view)

/-- Going home without a session ends without one. -/
theorem goHome_meets (client : Client) (before : World)
    (hleave : client.mustLeave before.router.current? = true) :
    (client.navigate client.settings.homePath).Meets
      (fun w => before.SameRoute w ∧ w.login.session = none) fun _ => client.Departs before := by
  refine .of_each fun first ⟨hroute, hfirst⟩ => ?_
  have hends := Router.navigate_ends (S := (· = none)) rfl client.router first hfirst
    client.settings.homePath
  have hsession : (client.navigate client.settings.homePath).Keeps fun w => w.login.session = none :=
    .of_clearing (S := (· = none))
      (Router.navigate_guarantees (A := (· = .change .clear)) rfl client.router _) rfl
  refine (hends.and hsession).mono ?_ ?_
  · rintro w rfl
    exact ⟨rfl, hfirst⟩
  · rintro _ w ⟨hgone, hnone⟩
    rw [hroute.1, hroute.2] at hgone
    exact ⟨hnone, fun hstay => absurd (hstay.symm.trans hleave) (by decide), fun _ => hgone⟩

theorem depart_meets (client : Client) (before : World) :
    client.depart.Meets before.SameRoute fun _ => client.Departs before := by
  refine .bind (clearSession_meets before) fun _ => ?_
  refine .bind (Q := fun location w => location = before.router.current? ∧
    before.SameRoute w ∧ w.login.session = none) (.modifyGet fun w hw => ?_) fun location => ?_
  · exact ⟨congrArg RouterState.current? hw.1.1, hw⟩
  · refine .of_each fun first ⟨hlocation, hfirst⟩ => ?_
    subst hlocation
    split
    · rename_i hmust
      exact .bind (.mono (goHome_meets client before hmust) (fun w hw => hw ▸ hfirst)
        fun _ _ hw => hw) fun _ => .pure fun _ hw => hw
    · rename_i hstay
      refine .pure fun w hw => ?_
      subst hw
      exact ⟨hfirst.2, fun _ => hfirst.1.1, fun hmust => absurd hmust hstay⟩

theorem logout_meets (client : Client) (before : World) :
    client.logout.Meets (· = before) fun _ => client.Departs before := by
  -- Whatever the backend answers, nothing happens to the router before the session is cleared.
  rw [logout_eq_bind]
  refine .bind (Q := fun _ => before.SameRoute) (.modifyGet ?_) fun session => ?_
  · rintro w rfl
    exact World.SameRoute.refl w
  · split
    · refine .bind (Q := fun _ => before.SameRoute) ?_ fun _ => depart_meets client before
      refine .of_sameRoute (call_guarantees trivial client _) fun w w' hroute hw => ?_
      exact ⟨hroute.1.trans hw.1, hroute.2.trans hw.2⟩
    · exact depart_meets client before

end Client

/-! ## Public places -/

/-- Whether a declaration does not ask for a login at a path. -/
def Declaration.Spares (path : String) (d : Declaration) : Bool :=
  match Pattern.parse d.pattern with
  | .error _ => true
  | .ok pattern => !d.requiresAuth || (pattern.match? path).isNone

/-- Where no declaration asks for a login, the site does not. -/
theorem Declaration.requiresAuth_of_spares {declarations : List Declaration} {notFound : Page}
    {router : Router} (h : Declaration.table declarations notFound = .ok router.table)
    {path : String} (hspares : ∀ d ∈ declarations, d.Spares path) :
    (router.find path).requiresAuth = false := by
  rcases find_cases h path with hnone | ⟨d, hd, hserves, -, hauth, -⟩
  · rw [hnone]
  · have hspared := hspares d hd
    rw [hauth]
    unfold Serves at hserves
    split at hserves
    · cases hserves
    · rename_i pattern hpattern
      simpa [Spares, hpattern, Option.isSome_iff_ne_none.1 hserves] using hspared

theorem Site.spares_public (product : Product) :
    ∀ path ∈ ["/", Client.registerPath], ∀ d ∈ declarations product, d.Spares path := by
  cases product <;> decide +kernel

theorem Client.settings_of_make {settings : Settings} {client : Client}
    (h : make settings = .ok client) :
    client.settings = settings ∧ client.router.loginPath = settings.loginPath := by
  unfold make at h
  split at h
  · cases h
  · unfold withTable at h
    cases hbase : settings.apiBase with
    | error e => simp [hbase, Except.map] at h
    | ok base =>
        simp only [hbase, Except.map, Except.ok.injEq] at h
        exact h ▸ ⟨rfl, rfl⟩

/-- Of the locations that are not left, only that of the home page and that of the login page can ask
for a login. -/
theorem Client.of_not_mustLeave {settings : Settings} {client : Client}
    (hmake : make settings = .ok client) {raw : String} (h : client.mustLeave (some raw) = false)
    (hauth : (client.router.find (Location.parse raw).path).requiresAuth = true) :
    (Location.parse raw).path = settings.homePath ∨
      (Location.parse raw).path = settings.loginPath := by
  have hpublic : ∀ path ∈ ["/", registerPath], (Location.parse raw).path ≠ path := by
    rintro path hpath heq
    rw [heq, Declaration.requiresAuth_of_spares (table_of_make hmake)
      (Site.spares_public settings.product path hpath)] at hauth
    cases hauth
  have hroot := hpublic "/" (by simp)
  have hregister := hpublic registerPath (by simp)
  refine or_iff_not_imp_left.2 ?_
  simpa [mustLeave, isPublic, hroot, hregister, (settings_of_make hmake).1] using h

/-- Let a client of either site, with any settings, carry out any operations one after the other and
then log out, whatever the backend answers.  Then there is no session.  From a public location the
client has not moved; from any other it has gone home, or where it was sent from there.  A page of a
route that asks for a login is open only at the login location, to which anybody may go, or at the
home location, if the client was there and has stayed. -/
theorem protected_page_is_left {settings : Settings} {client : Client}
    (hmake : Client.make settings = .ok client) (backend : Backend) (s : Wired World)
    (hs : s.state.router = {}) (ops : List Operation) (hops : ∀ op ∈ ops, op.EntersHistory) :
    let w := (client.inTurn backend ops s).state
    let w' := (client.inTurn backend (ops ++ [.logout]) s).state
    w'.login.session = none ∧
      (client.mustLeave w.router.current? = false → w'.router = w.router) ∧
      (client.mustLeave w.router.current? = true → ∃ final, w'.Heads w.redirects
        (w.router.behind settings.homePath) settings.homePath final) ∧
      ∀ path view, w'.router.view = .rendered path view →
        (client.router.find path).requiresAuth = true →
          path = settings.loginPath ∨ path = settings.homePath ∧ w'.router = w.router := by
  intro w w'
  have hdeparts : client.Departs w w' := by
    simp only [w, w', Client.inTurn_concat]
    exact Client.logout_meets client _ backend _ rfl
  rcases hdeparts with ⟨hsession, hstays, hleaves⟩
  rcases Client.settings_of_make hmake with ⟨hsettings, hlogin⟩
  rw [hsettings] at hleaves
  refine ⟨hsession, hstays, fun hmust => ?_, fun path view hview hauth => ?_⟩
  · rcases hleaves hmust with ⟨final, hheads, -⟩
    exact ⟨final, hheads⟩
  · cases hmust : client.mustLeave w.router.current? with
    | true =>
        rcases hleaves hmust with ⟨final, -, hshows⟩
        rw [hview] at hshows
        rcases hshows.of_rendered.2 with ⟨session, rfl, hshown⟩
        exact .inl ((hshown.eq_loginPath hauth).trans hlogin)
    | false =>
        -- The page was there before, and it is that of the current location.
        have hsame := hstays hmust
        have hcurrent : w.router.RendersCurrent := by
          refine Client.inTurn_keepsRouter backend client.keeps_rendersCurrent hops ?_
          intro path view hidle
          rw [hs] at hidle
          cases hidle
        rcases hcurrent path view (hsame ▸ hview) with ⟨raw, hraw, rfl⟩
        rw [hraw] at hmust
        rcases Client.of_not_mustLeave hmake hmust hauth with hhome | hloginPath
        · exact .inr ⟨hhome, hsame⟩
        · exact .inl hloginPath

/-! ### A backend that grants everything -/

/-- The path of the page that has been rendered. -/
def ViewState.renderedPath? : ViewState → Option String
  | .rendered path _ => some path
  | .idle | .loading _ _ | .error _ _ => none

/-- Answers every request as a login of Alice. -/
def Backend.granting : Backend := fun _ _ =>
  .answered 200 (Json.object [("success", .bool true),
    ("data", .object [("token", .string "a"), ("user", AuthSession.alices.user.toJson)])]).compact

theorem Client.exists_of_make {settings : Settings} {P : Client → Bool}
    (h : (make settings).toOption.any P) : ∃ client, make settings = .ok client ∧ P client := by
  cases hmake : make settings with
  | error e => simp [hmake, Except.toOption] at h
  | ok client => exact ⟨client, rfl, by simpa [hmake, Except.toOption] using h⟩

/-- Whether Alice, who logs in, opens a page that asks for a login, and logs out, is left without a
session and with the page. -/
def Client.leavesOpen (client : Client) (location : String) : Bool :=
  let w := (client.inTurn Backend.granting
    [.login "alice" "secret", .navigate location, .logout] ⟨World.fresh (.working []), []⟩).state
  w.login.session.isNone && (w.router.view.renderedPath? == some location &&
    (client.router.find location).requiresAuth)

/-- Where a page that asks for a login is the login page, or the home page, it stays open. -/
theorem protected_page_stays_open :
    (∃ client, Client.make { product := .blog, loginPath := "/notifications" } = .ok client ∧
      client.leavesOpen "/notifications") ∧
    ∃ client, Client.make { product := .blog, homePath := "/notifications" } = .ok client ∧
      client.leavesOpen "/notifications" :=
  ⟨Client.exists_of_make (by decide +kernel), Client.exists_of_make (by decide +kernel)⟩

/-- Alice leaves her orders for a home page that asks for a login too, and is sent on. -/
theorem protected_home_is_left :
    let ops : List Operation := [.login "alice" "secret", .navigate "/orders"]
    ∃ client, Client.make { homePath := "/cart" } = .ok client ∧
      (∀ op ∈ ops, op.EntersHistory) ∧
      let w := (client.inTurn Backend.granting (ops ++ [.logout])
        ⟨World.fresh (.working []), []⟩).state
      w.login.session = none ∧ w.router.view.renderedPath? = some "/login" ∧
        ∀ path view, w.router.view = .rendered path view →
          (client.router.find path).requiresAuth = false := by
  intro ops
  have hrun : (Client.make { homePath := "/cart" }).toOption.any fun client =>
      let s : Wired World := ⟨World.fresh (.working []), []⟩
      let w := (client.inTurn Backend.granting (ops ++ [.logout]) s).state
      w.router.view.renderedPath? == some "/login" &&
        (w.router.history != (client.inTurn Backend.granting ops s).state.router.history &&
          !(client.router.find "/login").requiresAuth) := by decide +kernel
  rcases Client.exists_of_make hrun with ⟨client, hmake, hclient⟩
  have hops : ∀ op ∈ ops, op.EntersHistory := by simp [ops, Operation.EntersHistory]
  have h := protected_page_is_left hmake Backend.granting ⟨World.fresh (.working []), []⟩ rfl ops
    hops
  simp only [Bool.and_eq_true, beq_iff_eq, bne_iff_ne, Bool.not_eq_eq_eq_not, Bool.not_true]
    at hclient
  refine ⟨client, hmake, hops, h.1, hclient.1, fun path view hview => ?_⟩
  by_contra hauth
  rcases h.2.2.2 path view hview (by simpa using hauth) with rfl | ⟨-, hsame⟩
  · exact hauth hclient.2.2
  · exact hclient.2.1 (congrArg RouterState.history hsame)

end WebClient
