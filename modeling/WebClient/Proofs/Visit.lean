import WebClient.Proofs.LateRedirect
import WebClient.Proofs.RestrictedArea
import WebClient.Proofs.Turns

/-!
# Visit — who gets to see a page, and what becomes of everybody else

A hop of a resolution looks at the session once and decides by what it has seen: whether the page
asks for a login that is not there, then whether its guard admits the user.  Whoever stands where he
would be sent to is let in.

* `Route.Built` are the routes that can be declared: a guard comes with the need to log in.
* `Router.MeetsLogin` and `Router.MeetsRole` say what is asked of a session, and
  `Router.admission_cases` that this decides.
* `Router.Receives` says how a visitor is received after the look at the session, turn by turn, and
  `Router.comes_resolveOnce_iff` that these are the turns of a hop.
* `visitors_are_received_by_what_was_seen` puts such a hop among other tasks.
-/

namespace WebClient

/-! ## What is asked of a visitor -/

namespace Route

variable {η : Type} {route : Route η}

/-- Routes as they can be declared: open, for visitors who are logged in, or for some roles. -/
inductive Built : Route η → Prop where
  | plain (name : String) (pattern : Pattern) (handler : η) : Built { name, pattern, handler }
  | protect {route : Route η} (h : route.Built) : route.protect.Built
  | restrict {route : Route η} (h : route.Built) (guard : RoleGuard) : (route.restrict guard).Built

theorem Built.requiresAuth_of_guard (h : route.Built) (hguard : route.guard.isSome = true) :
    route.requiresAuth = true := by
  cases h with
  | plain name pattern handler => cases hguard
  | protect h => rfl
  | restrict h guard => rfl

end Route

theorem RoleGuard.admits_eq_true_iff {guard : RoleGuard} {session : Session} :
    guard.admits session.user? = true ↔
      ∃ auth, session = some auth ∧ auth.user.role ∈ guard.roles := by
  cases session with
  | none => simp [RoleGuard.admits, Session.user?]
  | some auth => simp [RoleGuard.admits, Session.user?]

namespace Router

variable {router : Router} {path : String} {session : Session} {guard : RoleGuard}

/-- Whether there is a login where the page of a path asks for one.  The login page itself does not
ask. -/
def MeetsLogin (router : Router) (path : String) (session : Session) : Prop :=
  (router.find path).requiresAuth = true → session.isSome = true ∨ path = router.loginPath

/-- Whether the user has one of the roles that the guard of a path admits, if there is a guard.  The
page that it sends people to is open to all. -/
def MeetsRole (router : Router) (path : String) (session : Session) : Prop :=
  ∀ guard, (router.find path).guard = some guard →
    (∃ auth, session = some auth ∧ auth.user.role ∈ guard.roles) ∨ path = guard.redirect

theorem meetsLogin_iff : router.MeetsLogin path session ↔
    ((router.find path).requiresAuth && session.isNone && path != router.loginPath) = false := by
  unfold MeetsLogin
  cases (router.find path).requiresAuth <;> cases session <;> simp

theorem admits_or_iff : (∃ auth, session = some auth ∧ auth.user.role ∈ guard.roles) ∨
    path = guard.redirect ↔ (!guard.admits session.user? && path != guard.redirect) = false := by
  rw [← RoleGuard.admits_eq_true_iff]
  cases guard.admits session.user? <;> simp

/-- The look at a session decides by these two questions, the login first. -/
theorem admission_cases (router : Router) (path : String) (session : Session) :
    let decision := router.admission path (router.find path) session
    (decision = .toLogin ∧ ¬ router.MeetsLogin path session) ∨
      (∃ guard, decision = .turnedAway guard ∧ router.MeetsLogin path session ∧
        (router.find path).guard = some guard ∧ ¬ router.MeetsRole path session) ∨
      decision = .admitted ∧ router.MeetsLogin path session ∧ router.MeetsRole path session := by
  intro decision
  by_cases hlogin : router.MeetsLogin path session
  · have hopen := meetsLogin_iff.1 hlogin
    right
    cases hguard : (router.find path).guard with
    | none =>
        have hrole : router.MeetsRole path session :=
          fun guard hsome => nomatch hguard.symm.trans hsome
        exact .inr ⟨by simp [decision, admission, hopen, hguard], hlogin, hrole⟩
    | some guard =>
        have hrole : router.MeetsRole path session ↔
            (!guard.admits session.user? && path != guard.redirect) = false := by
          rw [← admits_or_iff]
          simp [MeetsRole, hguard]
        by_cases hmeets : router.MeetsRole path session
        · exact .inr ⟨by simp [decision, admission, hopen, hguard, hrole.1 hmeets], hlogin, hmeets⟩
        · have hrefused : (!guard.admits session.user? && path != guard.redirect) = true :=
            eq_true_of_ne_false (mt hrole.2 hmeets)
          exact .inl ⟨guard, by simp [decision, admission, hopen, hguard, hrefused], hlogin, rfl,
            hmeets⟩
  · have hclosed : ((router.find path).requiresAuth && session.isNone &&
        path != router.loginPath) = true := eq_true_of_ne_false (mt meetsLogin_iff.2 hlogin)
    exact .inl ⟨by simp [decision, admission, hclosed], hlogin⟩

end Router

/-! ## The turns of a hop -/

theorem comes_publish_iff {event : Event} {turns : Turns World} {a : Unit} :
    (publish event : Workflow World Unit).Comes turns a ↔ ∃ w, turns = [(w, w.emit event)] := by
  refine Workflow.comes_modifyGet_iff.trans ?_
  simp

namespace Router

variable {router : Router} {path raw : String} {generation : Nat} {session : Session}
  {turns : Turns World} {resolution : Resolution}

/-- The two turns in which a resolution takes its number and tells of the loading page. -/
def beginning (path : String) (w w' : World) : Turns World :=
  [(w, { w with router := w.router.begin path }),
    (w', w'.emit (.viewChanged (.loading path (w.router.generation + 1))))]

theorem comes_begin_iff : (begin path).Comes turns generation ↔
    ∃ w w', turns = beginning path w w' ∧ generation = w.router.generation + 1 := by
  unfold begin
  constructor
  · intro h
    rcases Workflow.comes_bind_iff.1 h with ⟨first, a, rest, rfl, hfirst, hrest⟩
    rcases Workflow.comes_modifyGet_iff.1 hfirst with ⟨w, rfl, rfl⟩
    rcases Workflow.comes_bind_iff.1 hrest with ⟨second, b, last, rfl, hsecond, hlast⟩
    rcases comes_publish_iff.1 hsecond with ⟨w', rfl⟩
    rcases Workflow.comes_pure_iff.1 hlast with ⟨rfl, rfl⟩
    exact ⟨w, w', rfl, rfl⟩
  · rintro ⟨w, w', rfl, rfl⟩
    exact .atomic (.atomic (.done _))

/-- Who looks whether it is superseded goes on by what it finds. -/
theorem comes_superseded?_bind_iff {α : Type} {f : Option ViewState → Workflow World α} {a : α} :
    (superseded? generation >>= f).Comes turns a ↔
      ∃ w rest, turns = (w, w) :: rest ∧
        (w.router.generation = generation ∧ (f none).Comes rest a ∨
          w.router.generation ≠ generation ∧ (f (some w.router.view)).Comes rest a) := by
  refine Workflow.comes_atomic_iff.trans ?_
  constructor
  · rintro ⟨w, rest, rfl, h⟩
    refine ⟨w, rest, rfl, ?_⟩
    by_cases hlatest : w.router.generation = generation
    · exact .inl ⟨hlatest, by simpa [RouterState.isLatest, hlatest, Workflow.bind] using h⟩
    · exact .inr ⟨hlatest, by simpa [RouterState.isLatest, hlatest, Workflow.bind] using h⟩
  · rintro ⟨w, rest, rfl, ⟨hlatest, h⟩ | ⟨hlatest, h⟩⟩
    · exact ⟨w, rest, rfl, by simpa [RouterState.isLatest, hlatest, Workflow.bind] using h⟩
    · exact ⟨w, rest, rfl, by simpa [RouterState.isLatest, hlatest, Workflow.bind] using h⟩

theorem comes_sendToLogin_iff : (router.sendToLogin generation).Comes turns resolution ↔
    ∃ w, turns = [(w, w)] ∧
      (w.router.generation = generation ∧ resolution = .redirect router.loginPath ∨
        w.router.generation ≠ generation ∧ resolution = .done w.router.view) := by
  refine comes_superseded?_bind_iff.trans ?_
  simp only [Workflow.comes_pure_iff]
  constructor
  · rintro ⟨w, rest, rfl, ⟨hlatest, rfl, rfl⟩ | ⟨hlate, rfl, rfl⟩⟩
    · exact ⟨w, rfl, .inl ⟨hlatest, rfl⟩⟩
    · exact ⟨w, rfl, .inr ⟨hlate, rfl⟩⟩
  · rintro ⟨w, rfl, ⟨hlatest, rfl⟩ | ⟨hlate, rfl⟩⟩
    · exact ⟨w, [], rfl, .inl ⟨hlatest, rfl, rfl⟩⟩
    · exact ⟨w, [], rfl, .inr ⟨hlate, rfl, rfl⟩⟩

theorem comes_turnAway_iff {guard : RoleGuard} :
    (turnAway guard generation).Comes turns resolution ↔
      ∃ w, (w.router.generation = generation ∧ resolution = .redirect guard.redirect ∧
          ∃ w', turns = [(w, w), (w', w'.emit (.toast .warning guard.message))]) ∨
        w.router.generation ≠ generation ∧ resolution = .done w.router.view ∧
          turns = [(w, w)] := by
  refine comes_superseded?_bind_iff.trans ?_
  constructor
  · rintro ⟨w, rest, rfl, ⟨hlatest, h⟩ | ⟨hlate, h⟩⟩
    · rcases Workflow.comes_bind_iff.1 h with ⟨first, a, last, rfl, hfirst, hlast⟩
      rcases comes_publish_iff.1 hfirst with ⟨w', rfl⟩
      rcases Workflow.comes_pure_iff.1 hlast with ⟨rfl, rfl⟩
      exact ⟨w, .inl ⟨hlatest, rfl, w', rfl⟩⟩
    · rcases Workflow.comes_pure_iff.1 h with ⟨rfl, rfl⟩
      exact ⟨w, .inr ⟨hlate, rfl, rfl⟩⟩
  · rintro ⟨w, ⟨hlatest, rfl, w', rfl⟩ | ⟨hlate, rfl, rfl⟩⟩
    · exact ⟨w, _, rfl, .inl ⟨hlatest, .atomic (.done _)⟩⟩
    · exact ⟨w, [], rfl, .inr ⟨hlate, .done _⟩⟩

/-- How a visitor is received who was seen with a session: the turns that follow on the look, and
what the hop comes to. -/
inductive Receives (router : Router) (location : Location) (generation : Nat) (session : Session) :
    Turns World → Resolution → Prop where
  /-- The page is carried out for the session that was seen, and what it comes to is shown. -/
  | served {served shown : Turns World} {result : Except ViewError View} {resolution : Resolution}
      (hlogin : router.MeetsLogin location.path session)
      (hrole : router.MeetsRole location.path session)
      (hserved : (router.gateway.carryOut ((router.find location.path).page
        ⟨location.path, (router.find location.path).params, location.query, session⟩)).Comes
          served result)
      (hshown : (router.conclude location.path generation result).Comes shown resolution) :
      Receives router location generation session (served ++ shown) resolution
  /-- Without a login that the page asks for, nothing is told. -/
  | sentToLogin {w : World} (hlogin : ¬ router.MeetsLogin location.path session)
      (hlatest : w.router.generation = generation) :
      Receives router location generation session [(w, w)] (.redirect router.loginPath)
  /-- Without a role that the page asks for, there is one warning. -/
  | turnedAway {w w' : World} {guard : RoleGuard}
      (hlogin : router.MeetsLogin location.path session)
      (hguard : (router.find location.path).guard = some guard)
      (hrole : ¬ router.MeetsRole location.path session)
      (hlatest : w.router.generation = generation) :
      Receives router location generation session
        [(w, w), (w', w'.emit (.toast .warning guard.message))] (.redirect guard.redirect)
  /-- Whoever is not let in and has been superseded goes on with the page that is shown. -/
  | superseded {w : World}
      (hrefused : ¬ (router.MeetsLogin location.path session ∧
        router.MeetsRole location.path session))
      (hlate : w.router.generation ≠ generation) :
      Receives router location generation session [(w, w)] (.done w.router.view)

/-- The turns of a hop and what it comes to: it starts, looks at the session once, and receives the
visitor by what it has seen. -/
def Visit (router : Router) (raw : String) (turns : Turns World) (resolution : Resolution) : Prop :=
  ∃ w w' seen rest,
    turns = beginning (Location.parse raw).path w w' ++ (seen, seen) :: rest ∧
      router.Receives (Location.parse raw) (w.router.generation + 1) seen.login.session rest
        resolution

/-- After the look at the session, a hop receives the visitor by what it has seen. -/
theorem comes_receive_iff {location : Location} :
    (match router.admission location.path (router.find location.path) session with
      | .toLogin => router.sendToLogin generation
      | .turnedAway guard => turnAway guard generation
      | .admitted => router.gateway.carryOut ((router.find location.path).page
          ⟨location.path, (router.find location.path).params, location.query, session⟩) >>=
            router.conclude location.path generation).Comes turns resolution ↔
      router.Receives location generation session turns resolution := by
  constructor
  · intro h
    rcases router.admission_cases location.path session with
      ⟨hdecision, hlogin⟩ | ⟨guard, hdecision, hlogin, hguard, hrole⟩ | ⟨hdecision, hlogin, hrole⟩
    · rw [hdecision] at h
      rcases comes_sendToLogin_iff.1 h with ⟨w, rfl, ⟨hlatest, rfl⟩ | ⟨hlate, rfl⟩⟩
      · exact .sentToLogin hlogin hlatest
      · exact .superseded (fun hmeets => hlogin hmeets.1) hlate
    · rw [hdecision] at h
      rcases comes_turnAway_iff.1 h with ⟨w, ⟨hlatest, rfl, w', rfl⟩ | ⟨hlate, rfl, rfl⟩⟩
      · exact .turnedAway hlogin hguard hrole hlatest
      · exact .superseded (fun hmeets => hrole hmeets.2) hlate
    · rw [hdecision] at h
      rcases Workflow.comes_bind_iff.1 h with ⟨served, result, shown, rfl, hserved, hshown⟩
      exact .served hlogin hrole hserved hshown
  · intro h
    rcases router.admission_cases location.path session with
      ⟨hdecision, hclosed⟩ | ⟨guard, hdecision, hopen, hfound, hclosed⟩ | ⟨hdecision, hopen, hrole⟩
    · rw [hdecision]
      cases h with
      | served hlogin _ _ _ => exact absurd hlogin hclosed
      | @sentToLogin w hlogin hlatest =>
          exact comes_sendToLogin_iff.2 ⟨w, rfl, .inl ⟨hlatest, rfl⟩⟩
      | turnedAway hlogin _ _ _ => exact absurd hlogin hclosed
      | @superseded w hrefused hlate => exact comes_sendToLogin_iff.2 ⟨w, rfl, .inr ⟨hlate, rfl⟩⟩
    · rw [hdecision]
      cases h with
      | served _ hrole _ _ => exact absurd hrole hclosed
      | sentToLogin hlogin _ => exact absurd hopen hlogin
      | @turnedAway w w' other _ hguard _ hlatest =>
          cases hfound.symm.trans hguard
          exact comes_turnAway_iff.2 ⟨w, .inl ⟨hlatest, rfl, w', rfl⟩⟩
      | @superseded w hrefused hlate => exact comes_turnAway_iff.2 ⟨w, .inr ⟨hlate, rfl, rfl⟩⟩
    · rw [hdecision]
      cases h with
      | served _ _ hserved hshown =>
          exact Workflow.comes_bind_iff.2 ⟨_, _, _, rfl, hserved, hshown⟩
      | sentToLogin hlogin _ => exact absurd hopen hlogin
      | turnedAway _ _ hclosed _ => exact absurd hrole hclosed
      | superseded hrefused _ => exact absurd ⟨hopen, hrole⟩ hrefused

theorem comes_resolveOnce_iff :
    (router.resolveOnce raw).Comes turns resolution ↔ router.Visit raw turns resolution := by
  constructor
  · intro h
    rcases Workflow.comes_bind_iff.1 h with ⟨first, generation, rest, rfl, hfirst, hrest⟩
    rcases comes_begin_iff.1 hfirst with ⟨w, w', rfl, rfl⟩
    rcases Workflow.comes_bind_iff.1 hrest with ⟨look, session, last, rfl, hlook, hlast⟩
    rcases Workflow.comes_modifyGet_iff.1 hlook with ⟨seen, rfl, rfl⟩
    exact ⟨w, w', seen, last, rfl, comes_receive_iff.1 hlast⟩
  · rintro ⟨w, w', seen, rest, rfl, h⟩
    refine Workflow.comes_bind_iff.2 ⟨_, _, _, rfl, comes_begin_iff.2 ⟨w, w', rfl, rfl⟩, ?_⟩
    exact .atomic (comes_receive_iff.2 h)

theorem find_requiresAuth
    (hbuilt : ∀ route, route ∈ router.table.exact ∨ route ∈ router.table.capturing → route.Built)
    (hguard : (router.find path).guard.isSome = true) :
    (router.find path).requiresAuth = true := by
  unfold find at hguard ⊢
  cases hresolve : router.table.resolve path with
  | none => simp [hresolve] at hguard
  | some found =>
      rcases found with ⟨route, params⟩
      have hroute := (RouteTable.mem_of_resolve hresolve).1
      have hfound : route.guard.isSome = true := by simpa [hresolve] using hguard
      exact (hbuilt route hroute).requiresAuth_of_guard hfound

/-- Where a guarded page asks for a login, whoever has none does not get to see the warning. -/
theorem Receives.of_logged_out {location : Location} {rest : Turns World}
    (hauth : (router.find location.path).requiresAuth = true)
    (haway : location.path ≠ router.loginPath)
    (h : router.Receives location generation none rest resolution) :
    ∃ w, rest = [(w, w)] ∧
      (w.router.generation = generation ∧ resolution = .redirect router.loginPath ∨
        w.router.generation ≠ generation ∧ resolution = .done w.router.view) := by
  have hclosed : ¬ router.MeetsLogin location.path none := by
    intro hmeets
    rcases hmeets hauth with hsession | hpath
    · cases hsession
    · exact haway hpath
  cases h with
  | served hlogin _ _ _ => exact absurd hlogin hclosed
  | @sentToLogin w _ hlatest => exact ⟨w, rfl, .inl ⟨hlatest, rfl⟩⟩
  | turnedAway hlogin _ _ _ => exact absurd hlogin hclosed
  | @superseded w _ hlate => exact ⟨w, rfl, .inr ⟨hlate, rfl⟩⟩

end Router

/-- Let a location be resolved among any tasks, in any order of turns, over a table of any routes
that can be declared.

* The turns of a hop are always those of a visit or the first of them: the page is carried out for
  the session that was seen, if that has what the page asks for; otherwise no page is carried out,
  and unless the hop is superseded it comes to a redirect, to the login page and without a word if a
  login is missing, else to where the guard says and with the guard's warning.
* A redirect is told of after all that, with the next turn, whatever others have done meanwhile.
* So whoever is not logged in and stands before a guarded page other than the login page is sent to
  the login page, and never gets to see the warning. -/
theorem visitors_are_received_by_what_was_seen (router : Router)
    (hbuilt : ∀ route, route ∈ router.table.exact ∨ route ∈ router.table.capturing → route.Built)
    (raw : String) (hops : Nat) {α : Type} (next : ViewState → Workflow World α)
    (p : Pool World α) (i : Nat)
    (htask : p.tasks[i]? = some (router.resolveWithin (hops + 1) raw >>= next))
    (moves : List Move) :
    ((∃ more resolution, router.Visit raw (p.turns i moves ++ more) resolution) ∨
      ∃ seen rest resolution, moves = seen ++ rest ∧ router.Visit raw (p.turns i seen) resolution ∧
        (p.run seen).tasks[i]? = some (router.follow hops raw resolution >>= next) ∧
        ∀ target, resolution = .redirect target →
          ∀ (others : List Move) (m : Move), (∀ m' ∈ others, m'.task ≠ i) → m.task = i →
            (p.run (seen ++ others ++ [m])).state =
              (p.run (seen ++ others)).state.emit (.redirected raw target)) ∧
      ∀ generation rest resolution, (router.find (Location.parse raw).path).guard.isSome = true →
        (Location.parse raw).path ≠ router.loginPath →
        router.Receives (Location.parse raw) generation none rest resolution →
        ∃ w, rest = [(w, w)] ∧
          (w.router.generation = generation ∧ resolution = .redirect router.loginPath ∨
            w.router.generation ≠ generation ∧ resolution = .done w.router.view) := by
  refine ⟨?_, fun generation rest resolution hguard haway h =>
    h.of_logged_out (Router.find_requiresAuth hbuilt hguard) haway⟩
  rw [Router.resolveWithin_succ, Workflow.bind_assoc] at htask
  rcases Pool.turns_cases htask moves with ⟨left, -, hmore⟩ | ⟨seen, rest, resolution, rfl, hseen,
    hnext⟩
  · rcases left.exists_comes p.state with ⟨more, resolution, hleft⟩
    exact .inl ⟨more, resolution, Router.comes_resolveOnce_iff.1 (hmore more resolution hleft)⟩
  · refine .inr ⟨seen, rest, resolution, rfl, Router.comes_resolveOnce_iff.1 hseen, hnext, ?_⟩
    rintro target rfl others m hothers rfl
    have hwaits : (p.run (seen ++ others)).tasks[m.task]? =
        some (router.follow hops raw (.redirect target) >>= next) := by
      rw [Pool.run_append, Pool.tasks_run_of_ne hothers, hnext]
    have hlast : p.run (seen ++ others ++ [m]) = (p.run (seen ++ others)).step m := by
      rw [Pool.run_append, Pool.run_cons, Pool.run_nil]
    rw [hlast]
    exact (Pool.step_self hwaits rfl).2

/-- A router with a page for administrators. -/
def Router.vault : Router where
  table :=
    { exact := [Route.restrict ⟨"vault", ⟨"/vault", [.literal "vault"]⟩, .static "vault" "Vault",
        false, none⟩ ⟨[.admin], "/", "administrators only"⟩]
      capturing := []
      notFound := .notFound }
  loginPath := "/login"
  gateway := ⟨"http://localhost/api", .auto⟩

/-- A reader asks for the page for administrators while somebody else is reading it. -/
theorem reader_before_the_vault :
    let asks : Workflow World ViewState := Router.vault.resolveWithin 4 "//vault/?door=2" >>= pure
    let p : Pool World ViewState :=
      ⟨[pure .idle, asks], { login := { session := some .alices, store := .working [] } }⟩
    let moves : List Move := [1, 1, 0, 1, 1, 1, 1].map fun i => { task := i }
    ((∃ more resolution, Router.vault.Visit "//vault/?door=2" (p.turns 1 moves ++ more) resolution) ∨
      ∃ seen rest resolution, moves = seen ++ rest ∧
        Router.vault.Visit "//vault/?door=2" (p.turns 1 seen) resolution) ∧
      (p.run moves).state.events ==
        [.viewChanged (.loading "/vault" 1), .toast .warning "administrators only",
          .redirected "//vault/?door=2" "/"] := by
  intro asks p moves
  have hbuilt : ∀ route, route ∈ Router.vault.table.exact ∨ route ∈ Router.vault.table.capturing →
      route.Built := by
    rintro route (hroute | hroute)
    · rw [List.mem_singleton.1 hroute]
      exact .restrict (.plain "vault" _ _) _
    · cases hroute
  have hvisit := (visitors_are_received_by_what_was_seen Router.vault hbuilt "//vault/?door=2" 3 pure
    p 1 rfl moves).1
  refine ⟨?_, by decide +kernel⟩
  rcases hvisit with hmore | ⟨seen, rest, resolution, hmoves, hseen, -⟩
  · exact .inl hmore
  · exact .inr ⟨seen, rest, resolution, hmoves, hseen⟩

end WebClient
