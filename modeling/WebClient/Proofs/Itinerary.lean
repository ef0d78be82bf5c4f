import WebClient.Proofs.LateRedirect
import WebClient.Proofs.RestrictedArea
import WebClient.Proofs.SessionNews

/-!
# Itinerary — where a client stands after operations one after the other

A location that is asked for is entered into the history, and each redirect lets its target take the
place of its source.  What is shown in the end belongs to the location that was resolved last, and
that is the current one.

* `Workflow.Meets` are the triples of workflows that are performed by themselves.
* `World.Heads` says where a resolution is on its way to, with the history behind it and the
  redirects that have led there; `World.Arrives` says that it has come to its page.
* `RouterState.IsOpen` says of a router that it shows the page of its current location, or the error
  page in its place.
* `Client.KeepsRouter` is what has to be shown of going to a location and of going back, for all
  operations to keep something of the router.
* `current_location_is_shown` carries the first two along any sequence of operations.
-/

namespace WebClient

/-! ## Workflows by themselves -/

namespace Workflow

variable {α β : Type}

/-- By itself, from any state with `P`, the workflow ends with a result and in a state with `Q`. -/
def Meets (workflow : Workflow World α) (P : World → Prop) (Q : α → World → Prop) : Prop :=
  ∀ (backend : Backend) (s : Wired World), P s.state →
    Q (workflow.run backend s).1 (workflow.run backend s).2.state

/-- By itself, the workflow keeps what holds. -/
def Keeps (workflow : Workflow World α) (P : World → Prop) : Prop := workflow.Meets P fun _ => P

/-- What every schedule of a workflow keeps, its run by itself keeps. -/
theorem Guarantees.run {R : World → World → Prop} {workflow : Workflow World α}
    (h : workflow.Guarantees R) (hrefl : ∀ w, R w w)
    (htrans : ∀ w w' w'', R w w' → R w' w'' → R w w'') (backend : Backend) (s : Wired World) :
    R s.state (workflow.run backend s).2.state := by
  rcases Pool.exists_schedule backend workflow s with ⟨moves, hmoves⟩
  have htasks : ∀ task ∈ [workflow], task.Guarantees R := by simpa using h
  have hkept := @Pool.run_induction _ _ R hrefl (R s.state) ⟨[workflow], s.state⟩ htasks
    (fun w w' hstep hw => htrans _ _ _ hw hstep) (hrefl s.state) moves
  rwa [hmoves] at hkept

namespace Meets

variable {P P' : World → Prop} {Q Q' : α → World → Prop} {R : β → World → Prop}
  {workflow : Workflow World α}

theorem pure {a : α} (h : ∀ w, P w → Q a w) : (Pure.pure a : Workflow World α).Meets P Q :=
  fun _ s hs => h s.state hs

theorem modifyGet {f : World → α × World} (h : ∀ w, P w → Q (f w).1 (f w).2) :
    (MonadStateOf.modifyGet f : Workflow World α).Meets P Q :=
  fun _ s hs => h s.state hs

theorem bind {f : α → Workflow World β} (h : workflow.Meets P Q)
    (hf : ∀ a, (f a).Meets (Q a) R) : (workflow >>= f).Meets P R := by
  intro backend s hs
  change R ((workflow.bind f).run backend s).1 ((workflow.bind f).run backend s).2.state
  rw [Workflow.run_bind]
  exact hf _ backend _ (h backend s hs)

theorem mono (h : workflow.Meets P Q) (hpre : ∀ w, P' w → P w)
    (hpost : ∀ a w, Q a w → Q' a w) : workflow.Meets P' Q' :=
  fun backend s hs => hpost _ _ (h backend s (hpre _ hs))

/-- A result that is not looked at makes no difference. -/
theorem ignore {I : World → Prop} (h : workflow.Meets P fun _ => I) :
    (do let _ ← workflow : Workflow World Unit).Meets P fun _ => I :=
  h.bind fun _ => .pure fun _ hw => hw

/-- A triple may be shown for each state to begin with. -/
theorem of_each (h : ∀ first, P first → workflow.Meets (· = first) Q) : workflow.Meets P Q :=
  fun backend s hs => h s.state hs backend s rfl

/-- Two triples of one workflow hold together. -/
theorem and {P₂ : World → Prop} {Q₂ : α → World → Prop} (h : workflow.Meets P Q)
    (h₂ : workflow.Meets P₂ Q₂) :
    workflow.Meets (fun w => P w ∧ P₂ w) fun a w => Q a w ∧ Q₂ a w :=
  fun backend s hs => ⟨h backend s hs.1, h₂ backend s hs.2⟩

/-- What holds without a session as well, is kept by a workflow that does nothing to the login but
end the session. -/
theorem of_clearing {S : Session → Prop} (h : workflow.Guarantees (World.Step (· = .change .clear)))
    (hnone : S none) : workflow.Keeps fun w => S w.login.session := by
  intro backend s hs
  refine (h.mono (fun w w' hstep => ?_)).run (R := fun w w' => S w.login.session →
    S w'.login.session) (fun _ => id) (fun _ _ _ hfirst hsecond => hsecond ∘ hfirst) backend s hs
  cases hstep with
  | stay => exact id
  | emit event => exact id
  | login step hclear =>
      cases hclear
      exact fun _ => hnone
  | router step => exact id

/-- A workflow off the route keeps whatever is about the router and the redirects. -/
theorem of_sameRoute (h : workflow.Guarantees World.SameRoute)
    (hkeep : ∀ w w', World.SameRoute w w' → P w → P w') : workflow.Keeps P := by
  intro backend s hs
  refine hkeep s.state _ (h.run World.SameRoute.refl ?_ backend s) hs
  exact fun w w' w'' hfirst hsecond =>
    ⟨hsecond.1.trans hfirst.1, hsecond.2.trans hfirst.2⟩

end Meets
end Workflow

/-! ## The history -/

/-- Whether a location is written as its path is normalized, without a query. -/
def Location.IsNormal (raw : String) : Prop := (Location.parse raw).path = raw

instance (raw : String) : Decidable (Location.IsNormal raw) :=
  inferInstanceAs (Decidable (_ = _))

/-- Whether redirects lead from one location to another. -/
def Leads : String → List (String × String) → String → Prop
  | asked, [], final => asked = final
  | asked, (source, target) :: hops, final => source = asked ∧ Leads target hops final

theorem Leads.concat {asked target next : String} {hops : List (String × String)}
    (h : Leads asked hops target) : Leads asked (hops ++ [(target, next)]) next := by
  induction hops generalizing asked with
  | nil => exact ⟨h.symm, rfl⟩
  | cons hop hops ih => exact ⟨h.1, ih h.2⟩

namespace RouterState

variable {s : RouterState} {kept : List String} {source target location : String}

/-- The history behind a location once that is entered. -/
def behind (s : RouterState) (location : String) : List String :=
  if s.current? = some location then s.history.dropLast else s.history

/-- Whether the page that is shown belongs to the current location. -/
def IsOpen (s : RouterState) : Prop :=
  ∃ raw, s.current? = some raw ∧ s.view.path? = some (Location.parse raw).path

theorem behind_isInit (s : RouterState) (location : String) : s.behind location <+: s.history := by
  unfold behind
  split
  · exact s.history.dropLast_prefix
  · exact List.prefix_rfl

theorem push_history (s : RouterState) (location : String) :
    (s.push location).history = s.behind location ++ [location] := by
  unfold push behind
  split
  · rename_i hcurrent
    exact (List.dropLast_append_getLast? location hcurrent).symm
  · rfl

theorem replace_history (h : s.history = kept ++ [source]) (target : String) :
    ∃ kept', kept' <+: kept ∧ (s.replace source target).history = kept' ++ [target] := by
  have hcurrent : s.current? = some source := by simp [current?, h]
  have hdrop : s.history.dropLast = kept := by simp [h]
  unfold replace
  rw [if_pos hcurrent, push_history, hdrop]
  exact ⟨_, behind_isInit { s with history := kept } target, rfl⟩

theorem pop?_of_two {older : List String} {current : String}
    (h : s.history = older ++ [location, current]) :
    s.pop? = some (location, { s with history := older ++ [location] }) := by
  have hdrop : s.history.dropLast = older ++ [location] := by
    rw [h, List.append_cons, List.dropLast_concat]
  have hlength : ¬ s.history.length < 2 := by simp [h]
  simp [pop?, hlength, hdrop, current?]

theorem exists_two (h : 2 ≤ s.history.length) :
    ∃ older location current, s.history = older ++ [location, current] := by
  rcases List.eq_nil_or_concat s.history with hnil | ⟨entries, current, hcurrent⟩
  · simp [hnil] at h
  · rcases List.eq_nil_or_concat entries with rfl | ⟨older, location, rfl⟩
    · simp [hcurrent] at h
    · exact ⟨older, location, current, by simp [hcurrent]⟩

theorem pop?_of_short (h : s.history.length < 2) : s.pop? = none := if_pos h

end RouterState

/-- Steps that leave the history alone and tell of no redirect. -/
def World.SameTrail (w w' : World) : Prop :=
  w'.router.history = w.router.history ∧ w'.redirects = w.redirects

/-- The router is on its way: since `told` was told, redirects have led from the location that was
asked for to `target`, and that is the last entry of the history, with nothing behind it but what
was there before. -/
structure World.Heads (w : World) (told : List (String × String)) (behind : List String)
    (asked target : String) : Prop where
  redirects : ∃ hops, w.redirects = told ++ hops ∧ Leads asked hops target
  history : ∃ kept, kept <+: behind ∧ w.router.history = kept ++ [target]

/-- The router has come to the page of the location that redirects have led to. -/
structure World.Arrives (w : World) (told : List (String × String)) (behind : List String)
    (asked final : String) : Prop extends w.Heads told behind asked final where
  shown : w.router.view.path? = some (Location.parse final).path

namespace World

variable {told : List (String × String)} {behind : List String} {asked target : String}
  {before w w' : World}

theorem redirects_emit (w : World) (event : Event) :
    (w.emit event).redirects = w.redirects ++ event.redirect?.toList := by
  cases h : event.redirect? <;> simp [redirects, emit, h]

theorem SameTrail.tell (h : before.SameTrail w) {event : Event} (hevent : event.redirect? = none) :
    before.SameTrail (w.emit event) := by
  have hredirects : (w.emit event).redirects = w.redirects := by simp [redirects_emit, hevent]
  exact ⟨h.1, hredirects.trans h.2⟩

theorem Heads.trail (h : w.Heads told behind asked target) (htrail : w.SameTrail w') :
    w'.Heads told behind asked target where
  redirects := htrail.2 ▸ h.redirects
  history := htrail.1 ▸ h.history

theorem Heads.start (hhistory : w.router.history = behind ++ [asked]) :
    w.Heads w.redirects behind asked asked where
  redirects := ⟨[], (List.append_nil _).symm, rfl⟩
  history := ⟨behind, List.prefix_rfl, hhistory⟩

/-- A redirect is told of, and its target takes the place of its source. -/
theorem Heads.redirect (h : w.Heads told behind asked target) (next : String) :
    let w := w.emit (.redirected target next)
    World.Heads { w with router := w.router.replace target next } told behind asked next := by
  intro w'
  rcases h.redirects with ⟨hops, hredirects, hleads⟩
  rcases h.history with ⟨kept, hkept, hhistory⟩
  rcases RouterState.replace_history hhistory next with ⟨kept', hkept', hhistory'⟩
  refine ⟨⟨hops ++ [(target, next)], ?_, hleads.concat⟩, ⟨kept', hkept'.trans hkept, hhistory'⟩⟩
  calc
    w'.redirects = w.redirects ++ [(target, next)] := w.redirects_emit _
    _ = told ++ (hops ++ [(target, next)]) := by rw [hredirects, List.append_assoc]

theorem Arrives.isOpen (h : w.Arrives told behind asked target) : w.router.IsOpen := by
  rcases h.history with ⟨kept, -, hhistory⟩
  exact ⟨target, by simp [RouterState.current?, hhistory], h.shown⟩

end World

/-! ## One resolution -/

/-- Whether the router sends visitors to a location: it is the login page, or where the guard of a
route says. -/
inductive Router.SendsTo (router : Router) : String → Prop where
  | login : SendsTo router router.loginPath
  | guard {route : Route Page} {guard : RoleGuard}
      (hroute : route ∈ router.table.exact ∨ route ∈ router.table.capturing)
      (hguard : route.guard = some guard) : SendsTo router guard.redirect

/-- Whether whoever is sent away is sent to a path that is written as it is normalized. -/
structure Router.SendsToNormal (router : Router) : Prop where
  login : Location.IsNormal router.loginPath
  guards : ∀ route, route ∈ router.table.exact ∨ route ∈ router.table.capturing →
    ∀ guard, route.guard = some guard → Location.IsNormal guard.redirect

theorem Router.SendsTo.isNormal {router : Router} {target : String} (h : router.SendsTo target)
    (hnormal : router.SendsToNormal) : Location.IsNormal target := by
  cases h with
  | login => exact hnormal.login
  | guard hroute hguard => exact hnormal.guards _ hroute _ hguard

/-- Whether visitors with this session get to see the page of a path. -/
def Router.Shows (router : Router) (session : Session) (path : String) : Prop :=
  router.admission path (router.find path) session = .admitted

/-- Where the resolution of a path for a session leaves off: its page is shown, and may be seen, or
the visitor is sent away. -/
def Resolution.LeavesOff (router : Router) (session : Session) (path : String) :
    Resolution → World → Prop
  | .done _, w => w.router.view.path? = some path ∧ router.Shows session path
  | .redirect next, _ => router.SendsTo next

namespace Router

variable {router : Router} {before : World} {generation : Nat} {path : String} {session : Session}

theorem sendsTo_of_turnedAway {guard : RoleGuard}
    (hguard : router.admission path (router.find path) session = .turnedAway guard) :
    router.SendsTo guard.redirect := by
  have hfound : (router.find path).guard = some guard := by
    unfold admission at hguard
    grind
  unfold find at hfound
  cases hresolve : router.table.resolve path with
  | none => simp [hresolve] at hfound
  | some found =>
      rcases found with ⟨route, params⟩
      have hroute : route.guard = some guard := by simpa [hresolve] using hfound
      exact .guard (RouteTable.mem_of_resolve hresolve).1 hroute

/-- The states of a resolution that holds the last number, with the history and the redirects as
they were before. -/
def Holds (before : World) (generation : Nat) (w : World) : Prop :=
  before.SameTrail w ∧ w.router.generation = generation

theorem Holds.sameRoute {w w' : World} (h : Holds before generation w)
    (hroute : World.SameRoute w w') : Holds before generation w' := by
  rcases h with ⟨⟨hhistory, hredirects⟩, hgeneration⟩
  unfold Holds World.SameTrail
  rw [hroute.1, hroute.2]
  exact ⟨⟨hhistory, hredirects⟩, hgeneration⟩

theorem begin_meets (before : World) (path : String) :
    (begin path).Meets (· = before) fun generation w =>
      Holds before generation w ∧ w.login = before.login := by
  rintro _ _ rfl
  exact ⟨⟨World.SameTrail.tell ⟨rfl, rfl⟩ rfl, rfl⟩, rfl⟩

theorem present_meets (before : World) (generation : Nat) (view : ViewState) :
    (present generation view).Meets (Holds before generation) fun _ w =>
      before.SameTrail w ∧ w.router.view = view := by
  -- Nobody else has started a resolution, so that the page is shown.
  refine .bind (Q := fun result w => result = (true, view) ∧ before.SameTrail w ∧
    w.router.view = view) (.modifyGet ?_) fun result => ?_
  · rintro w ⟨htrail, rfl⟩
    rw [RouterState.publish_of_latest rfl]
    exact ⟨by simp [RouterState.isLatest], htrail, rfl⟩
  · rcases result with ⟨isLatest, shown⟩
    cases isLatest with
    | false => exact .pure fun w hw => absurd hw.1 (by simp)
    | true =>
        refine .bind (Q := fun _ w => before.SameTrail w ∧ w.router.view = view) (.modifyGet ?_)
          fun _ => .pure fun w hw => hw
        rintro w ⟨-, htrail, hview⟩
        exact ⟨htrail.tell rfl, hview⟩

theorem superseded?_meets (before : World) (generation : Nat) :
    (superseded? generation).Meets (Holds before generation) fun shown w =>
      shown = none ∧ before.SameTrail w := by
  rintro backend s ⟨htrail, rfl⟩
  have hlatest : s.state.router.isLatest s.state.router.generation = true := by
    simp [RouterState.isLatest]
  exact ⟨if_pos hlatest, htrail⟩

theorem sendToLogin_meets (router : Router) (before : World) (generation : Nat) (session : Session)
    (path : String) :
    (router.sendToLogin generation).Meets (Holds before generation) fun resolution w =>
      before.SameTrail w ∧ resolution.LeavesOff router session path w := by
  refine .bind (superseded?_meets before generation) fun shown => ?_
  cases shown with
  | none => exact .pure fun w hw => ⟨hw.2, .login⟩
  | some view => exact .pure fun w hw => absurd hw.1 (by simp)

theorem turnAway_meets {guard : RoleGuard} (h : router.SendsTo guard.redirect) (before : World)
    (generation : Nat) (session : Session) (path : String) :
    (turnAway guard generation).Meets (Holds before generation) fun resolution w =>
      before.SameTrail w ∧ resolution.LeavesOff router session path w := by
  refine .bind (superseded?_meets before generation) fun shown => ?_
  cases shown with
  | none =>
      exact .bind (.modifyGet fun w hw => hw.2.tell rfl) fun _ => .pure fun w hw => ⟨hw, h⟩
  | some view => exact .pure fun w hw => absurd hw.1 (by simp)

theorem conclude_meets (h : router.Shows session path) (before : World) (generation : Nat)
    (result : Except ViewError View) :
    (router.conclude path generation result).Meets (Holds before generation) fun resolution w =>
      before.SameTrail w ∧ resolution.LeavesOff router session path w := by
  have hpresent : ∀ view : ViewState, view.path? = some path →
      (do return .done (← present generation view) : Workflow World Resolution).Meets
        (Holds before generation) fun resolution w =>
          before.SameTrail w ∧ resolution.LeavesOff router session path w := by
    intro view hview
    refine .bind (present_meets before generation view) fun _ => .pure fun w hw => ⟨hw.1, ?_, h⟩
    exact (congrArg ViewState.path? hw.2).trans hview
  unfold conclude
  split
  · exact hpresent _ rfl
  · split
    · exact sendToLogin_meets router before generation session path
    · exact hpresent _ rfl
  · exact hpresent _ rfl

/-- A resolution by itself leaves the history alone and tells of no redirect; it shows a page of its
location that the visitor may see, or asks for a redirect. -/
theorem resolveOnce_meets (router : Router) (before : World) (raw : String) :
    (router.resolveOnce raw).Meets (· = before) fun resolution w =>
      before.SameTrail w ∧
        resolution.LeavesOff router before.login.session (Location.parse raw).path w := by
  refine .bind (begin_meets before _) fun generation => ?_
  refine .bind (Q := fun session w => session = before.login.session ∧ Holds before generation w)
    (.modifyGet fun w hw => ⟨congrArg Login.session hw.2, hw.1⟩) fun session => ?_
  refine .of_each fun first hfirst => ?_
  rcases hfirst with ⟨rfl, hholds⟩
  refine .mono (P := Holds before generation) ?_ (fun w hw => hw ▸ hholds) fun _ _ hw => hw
  dsimp only
  split
  · exact sendToLogin_meets router before generation _ _
  · rename_i guard hguard
    exact turnAway_meets (sendsTo_of_turnedAway hguard) before generation _ _
  · rename_i hadmitted
    refine .bind (.of_sameRoute (Gateway.carryOut_guarantees trivial _ _)
      fun _ _ hroute hw => hw.sameRoute hroute) fun result => ?_
    exact conclude_meets hadmitted before generation result

/-- What is shown once a location has been resolved last, by visitors whose sessions are all in `S`:
a page of the location, which one of them may see, or the error page after too many redirects. -/
def ShowsLast (router : Router) (S : Session → Prop) (final : String) (view : ViewState) : Prop :=
  (view.path? = some (Location.parse final).path ∧
      ∃ session, S session ∧ router.Shows session (Location.parse final).path) ∨
    (view = .error final loadFailed ∧ router.SendsTo final)

/-- A location that is resolved by itself is followed to its end: what is shown is that of the
location that was resolved last, which has taken the place of all that led there. -/
theorem resolveWithin_meets {S : Session → Prop} (hnone : S none) (told : List (String × String))
    (behind : List String) (asked : String) {hops : Nat} {target : String}
    (htarget : hops = 0 → router.SendsTo target) :
    (router.resolveWithin hops target).Meets
      (fun w => w.Heads told behind asked target ∧ S w.login.session) fun _ w =>
        ∃ final, w.Heads told behind asked final ∧ router.ShowsLast S final w.router.view := by
  induction hops generalizing target with
  | zero =>
      refine .of_each fun first hfirst => ?_
      refine .mono (.bind (begin_meets first target) fun generation =>
        .mono (present_meets first generation (.error target loadFailed)) (fun _ hw => hw.1)
          fun _ _ hw => hw) (fun _ hw => hw) ?_
      rintro _ w ⟨htrail, hview⟩
      exact ⟨target, hfirst.1.trail htrail, .inr ⟨hview, htarget rfl⟩⟩
  | succ hops ih =>
      refine .of_each fun first hfirst => ?_
      have hsession : (router.resolveOnce target).Keeps fun w => S w.login.session :=
        .of_clearing (resolveOnce_guarantees (A := (· = .change .clear)) rfl (fun _ => trivial)
          (fun _ _ => trivial) router target) hnone
      refine .bind (.mono ((resolveOnce_meets router first target).and hsession) ?_ fun _ _ => id)
        fun resolution => ?_
      · rintro w rfl
        exact ⟨rfl, hfirst.2⟩
      · cases resolution with
        | done view =>
            refine .pure fun w hw => ⟨target, hfirst.1.trail hw.1.1, .inl ⟨hw.1.2.1, ?_⟩⟩
            exact ⟨first.login.session, hfirst.2, hw.1.2.2⟩
        | redirect next =>
            refine .of_each fun w hw => ?_
            refine .bind (Q := fun _ told => told = w.emit (.redirected target next))
              (.modifyGet ?_) fun _ => ?_
            · rintro _ rfl
              rfl
            · refine .bind (Q := fun _ w => w.Heads told behind asked next ∧ S w.login.session)
                (.modifyGet ?_) fun _ => ih fun _ => hw.1.2
              rintro _ rfl
              exact ⟨(hfirst.1.trail hw.1.1).redirect next, hw.2⟩

theorem navigate_ends {S : Session → Prop} (hnone : S none) (router : Router) (before : World)
    (hbefore : S before.login.session) (location : String) :
    (router.navigate location).Meets (· = before) fun _ w =>
      ∃ final, w.Heads before.redirects (before.router.behind location) location final ∧
        router.ShowsLast S final w.router.view := by
  refine .bind (.modifyGet ?_) fun _ => resolveWithin_meets hnone _ _ location nofun
  rintro w rfl
  exact ⟨.start (w.router.push_history location), hbefore⟩

theorem back_ends (router : Router) (before : World) {older : List String}
    {location current : String} (hhistory : before.router.history = older ++ [location, current]) :
    router.back.Meets (· = before) fun _ w =>
      ∃ final, w.Heads before.redirects older location final ∧
        router.ShowsLast (fun _ => True) final w.router.view := by
  refine .bind (Q := fun left w => left = some location ∧
    w.Heads before.redirects older location location) (.modifyGet ?_) fun left => ?_
  · rintro w rfl
    rw [RouterState.pop?_of_two hhistory]
    exact ⟨rfl, .start rfl⟩
  · cases left with
    | none => exact .pure fun w hw => absurd hw.1 (by simp)
    | some previous =>
        refine .of_each fun first hfirst => ?_
        cases hfirst.1
        refine .bind (.mono (resolveWithin_meets trivial _ _ location nofun) ?_ fun _ _ hw => hw)
          fun _ => .pure fun _ hw => hw
        rintro w rfl
        exact ⟨hfirst.2, trivial⟩

/-- The error page after too many redirects names the location as it is written. -/
theorem ShowsLast.arrives {S : Session → Prop} {final asked : String}
    {told : List (String × String)} {behind : List String} {w : World}
    (h : router.ShowsLast S final w.router.view) (hnormal : router.SendsToNormal)
    (hheads : w.Heads told behind asked final) : w.Arrives told behind asked final where
  toHeads := hheads
  shown := by
    rcases h with ⟨hpath, -⟩ | ⟨hview, hsends⟩
    · exact hpath
    · have hfinal : (Location.parse final).path = final := hsends.isNormal hnormal
      rw [hview, hfinal]
      rfl

theorem navigate_meets (h : router.SendsToNormal) (before : World) (location : String) :
    (router.navigate location).Meets (· = before) fun _ w =>
      ∃ final, w.Arrives before.redirects (before.router.behind location) location final :=
  (navigate_ends (S := fun _ => True) trivial router before trivial location).mono (fun _ hw => hw)
    fun _ _ ⟨final, hheads, hshows⟩ => ⟨final, hshows.arrives h hheads⟩

theorem back_meets (h : router.SendsToNormal) (before : World) {older : List String}
    {location current : String} (hhistory : before.router.history = older ++ [location, current]) :
    router.back.Meets (· = before) fun _ w =>
      ∃ final, w.Arrives before.redirects older location final :=
  (back_ends router before hhistory).mono (fun _ hw => hw)
    fun _ _ ⟨final, hheads, hshows⟩ => ⟨final, hshows.arrives h hheads⟩

theorem back_stays (router : Router) (before : World) (hshort : before.router.history.length < 2) :
    router.back.Meets (· = before) fun _ w => w = before := by
  refine .bind (Q := fun left w => left = none ∧ w = before) (.modifyGet ?_) fun left => ?_
  · rintro w rfl
    rw [RouterState.pop?_of_short hshort]
    exact ⟨rfl, rfl⟩
  · cases left with
    | none => exact .pure fun w hw => hw.2
    | some previous => exact fun backend s hs => absurd hs.1 (by simp)

end Router

/-! ## Operations one after the other -/

/-- Whether the client keeps what is said of its router whenever it goes to a location or back. -/
structure Client.KeepsRouter (client : Client) (I : RouterState → Prop) : Prop where
  navigate : ∀ location, (client.navigate location).Keeps fun w => I w.router
  back : client.back.Keeps fun w => I w.router

namespace Workflow.Keeps

variable {α β : Type} {P : World → Prop} {I : RouterState → Prop} {workflow : Workflow World α}

theorem pure (a : α) : (Pure.pure a : Workflow World α).Keeps P := Meets.pure fun _ hw => hw

theorem bind {f : α → Workflow World β} (h : workflow.Keeps P) (hf : ∀ a, (f a).Keeps P) :
    (workflow >>= f).Keeps P :=
  Meets.bind h hf

/-- What is off the route does not move the router. -/
theorem router (h : workflow.Guarantees World.SameRoute) : workflow.Keeps fun w => I w.router :=
  .of_sameRoute h fun w w' hroute hw => by
    rw [hroute.1]
    exact hw

end Workflow.Keeps

namespace Client

variable {client : Client} {I : RouterState → Prop}

namespace KeepsRouter

theorem start (h : client.KeepsRouter I) (initial : Option String) :
    (client.start initial).Keeps fun w => I w.router := by
  refine .bind (.router (loadPersisted_guarantees trivial trivial fun _ _ => trivial))
    fun session => ?_
  dsimp only
  split
  · exact .bind (.router (refreshCurrentUser_guarantees trivial (fun _ _ => trivial) client))
      fun _ => h.navigate _
  · exact h.navigate _

theorem tell {event : Event} (hevent : event.redirect? = none) :
    (publish event : Workflow World Unit).Keeps fun w => I w.router :=
  .router (tell_guarantees event hevent)

theorem call (client : Client) (call : Call) :
    (client.call call).Keeps fun w => I w.router :=
  .router (call_guarantees trivial client call)

theorem welcome (h : client.KeepsRouter I) (payload : AuthPayload) (message : String) :
    (client.welcome payload message).Keeps fun w => I w.router :=
  .bind (.router (setAuthenticated_guarantees _ trivial)) fun _ =>
    .bind (tell rfl) fun _ => .bind (h.navigate _) fun _ => .pure _

theorem login (h : client.KeepsRouter I) (username password : String) :
    (client.login username password).Keeps fun w => I w.router := by
  have hreject : ∀ message, (reject message).Keeps fun w => I w.router :=
    fun message => .bind (tell rfl) fun _ => .pure _
  refine .bind (call client _) fun reply => ?_
  split
  · exact .pure _
  · split
    · exact .bind (h.welcome _ _) fun _ => .pure _
    · exact hreject _
    · exact hreject _

theorem register (h : client.KeepsRouter I) (username email password : String) :
    (client.register username email password).Keeps fun w => I w.router := by
  refine .bind (call client _) fun reply => ?_
  dsimp only
  split
  · exact .pure _
  · split
    · exact .bind (h.welcome _ _) fun _ => .pure _
    · exact .bind (tell rfl) fun _ => .bind (h.navigate _) fun _ => .pure _
    · exact .bind (h.navigate _) fun _ => .pure _

theorem depart (h : client.KeepsRouter I) : client.depart.Keeps fun w => I w.router := by
  refine .bind (.router (clearSession_guarantees trivial)) fun _ => ?_
  refine .bind (.router (.modifyGet fun _ => World.SameRoute.refl _)) fun location => ?_
  split
  · exact .bind (h.navigate _) fun _ => .pure _
  · exact .pure _

theorem logout (h : client.KeepsRouter I) : client.logout.Keeps fun w => I w.router := by
  rw [logout_eq_bind]
  refine .bind (.router currentSession_guarantees) fun session => ?_
  split
  · exact .bind (call client _) fun _ => h.depart
  · exact h.depart

end KeepsRouter
end Client

/-- Whether an operation enters into the history what it resolves. -/
def Operation.EntersHistory : Operation → Prop
  | .resolve _ => False
  | _ => True

/-- Whether an operation opens a location, whatever the backend answers. -/
def Operation.Opens : Operation → Prop
  | .start _ | .navigate _ => True
  | _ => False

/-- What going to a location and going back keep of the router, every operation keeps that enters
into the history what it resolves. -/
theorem Operation.keepsRouter {client : Client} {I : RouterState → Prop}
    (h : client.KeepsRouter I) {op : Operation} (hop : op.EntersHistory) :
    (op.perform client).Keeps fun w => I w.router := by
  cases op with
  | start initial => exact (h.start initial).ignore
  | login username password => exact (h.login username password).ignore
  | register username email password => exact (h.register username email password).ignore
  | logout => exact h.logout
  | refresh =>
      exact (Workflow.Keeps.router (Client.refreshCurrentUser_guarantees trivial
        (fun _ _ => trivial) client)).ignore
  | navigate location => exact (h.navigate location).ignore
  | resolve location => exact hop.elim
  | back => exact h.back.ignore
  | call call => exact (Client.KeepsRouter.call client call).ignore
  | calls calls =>
      exact (Workflow.Keeps.router (Client.calls_guarantees trivial client calls)).ignore
  | change c =>
      cases c with
      | establish auth => exact .router (setAuthenticated_guarantees auth trivial)
      | identify user seller =>
          exact (Workflow.Keeps.router (updateUser_guarantees user seller trivial)).ignore
      | clear => exact (Workflow.Keeps.router (clearSession_guarantees trivial)).ignore
  | load =>
      exact (Workflow.Keeps.router
        (loadPersisted_guarantees trivial trivial fun _ _ => trivial)).ignore

namespace Client

variable {client : Client}

theorem navigate_opens (h : client.router.SendsToNormal) (location : String) :
    (client.navigate location).Meets (fun _ => True) fun _ w => w.router.IsOpen :=
  .of_each fun before _ => (Router.navigate_meets h before location).mono (fun _ hw => hw)
    fun _ _ ⟨_, harrives⟩ => harrives.isOpen

theorem start_opens (h : client.router.SendsToNormal) (initial : Option String) :
    (client.start initial).Meets (fun _ => True) fun _ w => w.router.IsOpen := by
  -- Whatever becomes of the session, a location is opened after it.
  refine .bind (Q := fun _ _ => True) (fun _ _ _ => trivial) fun session => ?_
  dsimp only
  split
  · exact .bind (Q := fun _ _ => True) (fun _ _ _ => trivial) fun _ => navigate_opens h _
  · exact navigate_opens h _

/-- The router is as it was at first, or shows the page of its current location. -/
theorem keeps_isOpen (h : client.router.SendsToNormal) (first : RouterState) :
    client.KeepsRouter fun router => router = first ∨ router.IsOpen where
  navigate location := (navigate_opens h location).mono (fun _ _ => trivial) fun _ _ => .inr
  back := by
    refine .of_each fun before hbefore => ?_
    rcases Nat.lt_or_ge before.router.history.length 2 with hshort | hlong
    · refine (Router.back_stays client.router before hshort).mono (fun _ hw => hw) fun _ w hw => ?_
      exact hw ▸ hbefore
    · rcases RouterState.exists_two hlong with ⟨older, location, current, hhistory⟩
      exact (Router.back_meets h before hhistory).mono (fun _ hw => hw)
        fun _ _ ⟨_, harrives⟩ => .inr harrives.isOpen

end Client

/-- Such an operation leaves the page of its location on show, or of one that it is sent to. -/
theorem Operation.opens {client : Client} (h : client.router.SendsToNormal) {op : Operation}
    (hop : op.Opens) : (op.perform client).Meets (fun _ => True) fun _ w => w.router.IsOpen := by
  cases op with
  | start initial => exact (Client.start_opens h initial).ignore
  | navigate location => exact (Client.navigate_opens h location).ignore
  | _ => exact hop.elim

namespace Client

variable {client : Client} {s : Wired World} (backend : Backend)

theorem inTurn_append (ops ops' : List Operation) :
    client.inTurn backend (ops ++ ops') s =
      client.inTurn backend ops' (client.inTurn backend ops s) :=
  List.foldl_append

theorem inTurn_keepsRouter {I : RouterState → Prop} (h : client.KeepsRouter I)
    {ops : List Operation} (hops : ∀ op ∈ ops, op.EntersHistory) (hs : I s.state.router) :
    I (client.inTurn backend ops s).state.router := by
  induction ops using List.reverseRecOn with
  | nil => exact hs
  | append_singleton ops op ih =>
      rcases List.forall_mem_append.1 hops with ⟨hearlier, hop⟩
      rw [inTurn_concat]
      exact Operation.keepsRouter h (hop op (by simp)) backend _ (ih hearlier)

theorem inTurn_settled (h : client.router.SendsToNormal) {first : RouterState}
    {ops : List Operation} (hops : ∀ op ∈ ops, op.EntersHistory)
    (hs : s.state.router = first ∨ s.state.router.IsOpen) :
    (client.inTurn backend ops s).state.router = first ∨
      (client.inTurn backend ops s).state.router.IsOpen :=
  inTurn_keepsRouter backend (keeps_isOpen h first) hops hs

/-- A router that shows the page of its current location goes on doing so. -/
theorem inTurn_isOpen (h : client.router.SendsToNormal) {ops : List Operation}
    (hops : ∀ op ∈ ops, op.EntersHistory) (hs : s.state.router.IsOpen) :
    (client.inTurn backend ops s).state.router.IsOpen := by
  have hfirst : s.state.router = s.state.router ∨ s.state.router.IsOpen := .inl rfl
  rcases inTurn_settled backend h hops hfirst with hsame | hopen
  · exact hsame ▸ hs
  · exact hopen

end Client

/-- Take a client that sends nobody away to a path that is not normalized, and let it carry out any
operations one after the other, whatever the backend answers.  Once a location has been opened, the
page that is shown is that of the current location.  To go to a location, or back to one, leaves of
the history what stood behind that location, or a part of its beginning; the location that redirects
have led to in the end comes after that, and it is the one whose page is shown.  A location that has
redirected on the way stands behind it only if it stood there before. -/
theorem current_location_is_shown (client : Client) (h : client.router.SendsToNormal)
    (backend : Backend) (s : Wired World) (hs : s.state.router = {}) (ops : List Operation)
    (hops : ∀ op ∈ ops, op.EntersHistory) :
    let w := (client.inTurn backend ops s).state
    ((∀ seen, seen <+: ops → (client.inTurn backend seen s).state.router.history ≠ [] →
          w.router.IsOpen) ∧
        ((∃ op ∈ ops, op.Opens) → w.router.IsOpen)) ∧
      (∀ location, w.router.behind location <+: w.router.history ∧
        ∃ final, (client.inTurn backend (ops ++ [.navigate location]) s).state.Arrives w.redirects
          (w.router.behind location) location final) ∧
      (w.router.history.length < 2 → (client.inTurn backend (ops ++ [.back]) s).state = w) ∧
      ∀ older location current, w.router.history = older ++ [location, current] →
        ∃ final, (client.inTurn backend (ops ++ [.back]) s).state.Arrives w.redirects older location
          final := by
  intro w
  refine ⟨⟨?_, ?_⟩, ?_, ?_, ?_⟩
  · rintro seen ⟨rest, rfl⟩ hopened
    rcases List.forall_mem_append.1 hops with ⟨hseen, hrest⟩
    have hopen : (client.inTurn backend seen s).state.router.IsOpen := by
      rcases Client.inTurn_settled backend h hseen (.inl hs) with hfirst | hopen
      · exact absurd (by rw [hfirst]) hopened
      · exact hopen
    simpa [w, Client.inTurn_append] using Client.inTurn_isOpen backend h hrest hopen
  · rintro ⟨op, hmem, hop⟩
    rcases List.append_of_mem hmem with ⟨before, after, rfl⟩
    have hafter : ∀ op ∈ after, op.EntersHistory := fun op hop => hops op (by simp [hop])
    have hopen := Operation.opens h hop backend (client.inTurn backend before s) trivial
    rw [← Client.inTurn_concat] at hopen
    have hlast := Client.inTurn_isOpen backend h hafter hopen
    rwa [← Client.inTurn_append, List.append_assoc] at hlast
  · intro location
    refine ⟨w.router.behind_isInit location, ?_⟩
    rw [Client.inTurn_concat]
    exact (Router.navigate_meets h w location).ignore backend _ rfl
  · intro hshort
    rw [Client.inTurn_concat]
    exact (Router.back_stays client.router w hshort).ignore backend _ rfl
  · intro older location current hhistory
    rw [Client.inTurn_concat]
    exact (Router.back_meets h w hhistory).ignore backend _ rfl

/-- A visitor opens a page, asks for one that needs a login, and goes back from the login page. -/
theorem gated_itinerary_is_shown :
    let s : Wired World := ⟨World.fresh (.working []), []⟩
    let ops : List Operation := [.start (some "/news?page=2")]
    let asked := Client.gated.inTurn Backend.unreachable (ops ++ [.navigate "/old"]) s
    Client.gated.router.SendsToNormal ∧ (∀ op ∈ ops, op.EntersHistory) ∧
      asked.state.router.history = ["/news?page=2", "/login"] ∧
      (∃ final, asked.state.Arrives [] ["/news?page=2"] "/old" final) ∧
      ∃ final, (Client.gated.inTurn Backend.unreachable (ops ++ [.navigate "/old"] ++ [.back])
        s).state.Arrives [("/old", "/login")] [] "/news?page=2" final := by
  intro s ops asked
  have hnormal : Client.gated.router.SendsToNormal := by
    refine ⟨by decide +kernel, ?_⟩
    rintro route (hroute | hroute) guard hguard
    · rw [List.mem_singleton.1 hroute] at hguard
      cases hguard
    · cases hroute
  have hops : ∀ op ∈ ops ++ [.navigate "/old"], op.EntersHistory := by
    simp [ops, Operation.EntersHistory]
  have hstart : ∀ op ∈ ops, op.EntersHistory := fun op hop => hops op (by simp [hop])
  have hhistory : asked.state.router.history = ["/news?page=2", "/login"] := by decide +kernel
  have hbefore : (Client.gated.inTurn Backend.unreachable ops s).state.redirects = [] ∧
      (Client.gated.inTurn Backend.unreachable ops s).state.router.behind "/old" =
        ["/news?page=2"] := by decide +kernel
  have hredirects : asked.state.redirects = [("/old", "/login")] := by decide +kernel
  refine ⟨hnormal, hstart, hhistory, ?_, ?_⟩
  · have hgo := current_location_is_shown Client.gated hnormal Backend.unreachable s rfl ops hstart
    rcases (hgo.2.1 "/old").2 with ⟨final, harrives⟩
    rw [hbefore.1, hbefore.2] at harrives
    exact ⟨final, harrives⟩
  · have hback := current_location_is_shown Client.gated hnormal Backend.unreachable s rfl
      (ops ++ [.navigate "/old"]) hops
    have hsplit : (Client.gated.inTurn Backend.unreachable (ops ++ [.navigate "/old"])
        s).state.router.history = [] ++ ["/news?page=2", "/login"] := by decide +kernel
    rcases hback.2.2.2 [] "/news?page=2" "/login" hsplit with ⟨final, harrives⟩
    rw [hredirects] at harrives
    exact ⟨final, harrives⟩

end WebClient
