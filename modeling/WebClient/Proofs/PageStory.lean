import WebClient.Proofs.Fairness
import WebClient.Proofs.LateRedirect
import WebClient.Proofs.Turns

/-!
# PageStory — what a resolution tells about pages

A resolution that is by itself tells of its pages in one order: each location of a chain of
redirects loads, is left by a redirect or is the last, and the last one is followed by its page.

* `World.lifecycle` are the events about pages; messages and the login are left out.
* `Router.story` is what a chain of redirects tells.
* `Router.resolveOnce_leads` is about one hop, `Router.resolveWithin_leads` about the chain, by
  induction on the redirects that are left.
* `undisturbed_resolution_tells_its_story` adds that the resolution comes to an end.
-/

namespace WebClient

/-! ## Events about pages -/

/-- The events about pages, oldest first. -/
def World.lifecycle (w : World) : List Event := w.events.filter fun event => !event.isAside

@[simp]
theorem World.lifecycle_emit (w : World) (event : Event) :
    (w.emit event).lifecycle = w.lifecycle ++ if event.isAside then [] else [event] := by
  cases h : event.isAside <;> simp [lifecycle, emit, h]

theorem World.lifecycle_setRouter (w : World) (router : RouterState) :
    { w with router }.lifecycle = w.lifecycle := rfl

theorem leads_publish_iff {event : Event} {w w' : World} {a : Unit} :
    (publish event : Workflow World Unit).Leads w a w' ↔ w' = w.emit event := by
  refine Workflow.leads_modifyGet_iff.trans ?_
  simp

/-- Steps that tell of no page and change nothing of the router. -/
def World.SamePages (w w' : World) : Prop := w'.router = w.router ∧ w'.lifecycle = w.lifecycle

theorem World.SamePages.trans {w w' w'' : World} (h : w.SamePages w') (h' : w'.SamePages w'') :
    w.SamePages w'' :=
  ⟨h'.1.trans h.1, h'.2.trans h.2⟩

instance : World.AdmitsCalls World.SamePages fun _ => True where
  stay := ⟨rfl, rfl⟩
  mention event h := ⟨rfl, by simp [h]⟩
  login _ _ := ⟨rfl, rfl⟩

/-- Whether a page is one that a resolution of a path ends with. -/
def ViewState.EndsAt (path : String) (view : ViewState) : Prop :=
  (∃ page, view = .rendered path page) ∨ view = .error path Router.loadFailed

/-! ## One hop -/

/-- The states of a hop that began in `before`, holds the last number, and has told of no page but
the one that is loading. -/
structure World.Loading (before : World) (path : String) (w : World) : Prop where
  generation : w.router.generation = before.router.generation + 1
  lifecycle : w.lifecycle =
    before.lifecycle ++ [.viewChanged (.loading path (before.router.generation + 1))]

theorem World.Loading.samePages {before w w' : World} {path : String}
    (h : before.Loading path w) (hsame : w.SamePages w') : before.Loading path w' where
  generation := by rw [hsame.1, h.generation]
  lifecycle := by rw [hsame.2, h.lifecycle]

/-- What a hop has done about pages: it shows the last page and has told of it, or it is still
loading and is to be redirected. -/
def Resolution.Concludes (before : World) (path : String) : Resolution → World → Prop
  | .done view, w => view.EndsAt path ∧ w.router.view = view ∧ w.lifecycle = before.lifecycle ++
      [.viewChanged (.loading path (before.router.generation + 1)), .viewChanged view]
  | .redirect _, w => before.Loading path w

namespace Router

variable {router : Router} {before w w' : World} {path : String} {generation : Nat}
  {resolution : Resolution}

theorem begin_leads (h : (begin path).Leads w generation w') :
    generation = w.router.generation + 1 ∧ w.Loading path w' := by
  unfold begin at h
  rcases Workflow.leads_bind_iff.1 h with ⟨taken, started, hstart, hrest⟩
  rcases Workflow.leads_modifyGet_iff.1 hstart with ⟨rfl, rfl⟩
  rcases Workflow.leads_bind_iff.1 hrest with ⟨_, told, htell, hlast⟩
  rcases leads_publish_iff.1 htell with rfl
  rcases Workflow.leads_pure_iff.1 hlast with ⟨rfl, rfl⟩
  refine ⟨rfl, rfl, ?_⟩
  simp [Event.isAside, World.lifecycle_setRouter, RouterState.begin]

/-- The page of a resolution that nobody has superseded is shown, and told of. -/
theorem present_leads {view shown : ViewState} (h : (present generation view).Leads w shown w')
    (hlatest : w.router.generation = generation) :
    shown = view ∧ w' = { w with router := { w.router with view } }.emit (.viewChanged view) := by
  unfold present at h
  rcases Workflow.leads_bind_iff.1 h with ⟨result, published, hpublish, hrest⟩
  rcases Workflow.leads_modifyGet_iff.1 hpublish with ⟨rfl, rfl⟩
  subst hlatest
  simp only [RouterState.publish_of_latest rfl, RouterState.isLatest, beq_self_eq_true,
    if_true] at hrest
  rcases Workflow.leads_bind_iff.1 hrest with ⟨_, told, htell, hlast⟩
  rcases leads_publish_iff.1 htell with rfl
  exact Workflow.leads_pure_iff.1 hlast

theorem present_concludes {view : ViewState}
    (h : (do return .done (← present generation view) : Workflow World Resolution).Leads w
      resolution w')
    (hloading : before.Loading path w) (hgeneration : generation = before.router.generation + 1)
    (hends : view.EndsAt path) : resolution.Concludes before path w' := by
  rcases Workflow.leads_bind_iff.1 h with ⟨shown, presented, hpresent, hlast⟩
  rcases Workflow.leads_pure_iff.1 hlast with ⟨rfl, rfl⟩
  rcases present_leads hpresent (hloading.generation.trans hgeneration.symm) with ⟨rfl, rfl⟩
  refine ⟨hends, rfl, ?_⟩
  simp [Event.isAside, World.lifecycle_setRouter, hloading.lifecycle]

theorem superseded?_leads {seen : Option ViewState} (h : (superseded? generation).Leads w seen w')
    (hlatest : w.router.generation = generation) : seen = none ∧ w' = w := by
  rcases Workflow.leads_modifyGet_iff.1 h with ⟨rfl, rfl⟩
  simp [RouterState.isLatest, hlatest]

theorem sendToLogin_leads {router : Router}
    (h : (router.sendToLogin generation).Leads w resolution w')
    (hlatest : w.router.generation = generation) :
    resolution = .redirect router.loginPath ∧ w' = w := by
  rcases Workflow.leads_bind_iff.1 h with ⟨seen, looked, hlook, hrest⟩
  rcases superseded?_leads hlook hlatest with ⟨rfl, rfl⟩
  exact Workflow.leads_pure_iff.1 hrest

theorem turnAway_leads {guard : RoleGuard} (h : (turnAway guard generation).Leads w resolution w')
    (hlatest : w.router.generation = generation) :
    resolution = .redirect guard.redirect ∧ w' = w.emit (.toast .warning guard.message) := by
  rcases Workflow.leads_bind_iff.1 h with ⟨seen, looked, hlook, hrest⟩
  rcases superseded?_leads hlook hlatest with ⟨rfl, rfl⟩
  rcases Workflow.leads_bind_iff.1 hrest with ⟨_, warned, hwarn, hlast⟩
  rcases leads_publish_iff.1 hwarn with rfl
  exact Workflow.leads_pure_iff.1 hlast

theorem conclude_leads {router : Router} {result : Except ViewError View}
    (h : (router.conclude path generation result).Leads w resolution w')
    (hloading : before.Loading path w) (hgeneration : generation = before.router.generation + 1) :
    resolution.Concludes before path w' := by
  unfold conclude at h
  split at h
  · exact present_concludes h hloading hgeneration (.inl ⟨_, rfl⟩)
  · split at h
    · rcases sendToLogin_leads h (hloading.generation.trans hgeneration.symm) with ⟨rfl, rfl⟩
      exact hloading
    · exact present_concludes h hloading hgeneration (.inr rfl)
  · exact present_concludes h hloading hgeneration (.inr rfl)

/-- A hop tells of the loading page, and of the page that it ends with unless it is redirected. -/
theorem resolveOnce_leads {router : Router} {raw : String}
    (h : (router.resolveOnce raw).Leads w resolution w') :
    resolution.Concludes w (Location.parse raw).path w' := by
  rcases Workflow.leads_bind_iff.1 h with ⟨generation, begun, hbegin, hrest⟩
  rcases begin_leads hbegin with ⟨hgeneration, hloading⟩
  rcases Workflow.leads_bind_iff.1 hrest with ⟨session, looked, hlook, hlast⟩
  rcases Workflow.leads_modifyGet_iff.1 hlook with ⟨rfl, rfl⟩
  have hlatest := hloading.generation.trans hgeneration.symm
  dsimp only at hlast
  split at hlast
  · rcases sendToLogin_leads hlast hlatest with ⟨rfl, rfl⟩
    exact hloading
  · rcases turnAway_leads hlast hlatest with ⟨rfl, rfl⟩
    exact hloading.samePages ⟨rfl, by simp [Event.isAside]⟩
  · -- While a page is carried out, nobody but the backend is asked.
    rcases Workflow.leads_bind_iff.1 hlast with ⟨result, carried, hcarry, hconclude⟩
    have hsame : World.SamePages looked carried :=
      hcarry.guaranteed (fun _ => ⟨rfl, rfl⟩) (fun _ _ _ => .trans)
        (Gateway.carryOut_guarantees trivial _ _)
    exact conclude_leads hconclude (hloading.samePages hsame) hgeneration

/-! ## Chains of redirects -/

/-- The path that loads for a location after so many redirects.  The last redirect's target is not
read any more. -/
def placeOf (hop : Nat) (target : String) : String :=
  if hop < maxRedirects then (Location.parse target).path else target

/-- What a chain of redirects tells until its last location loads, beginning with one that is
reached after `hop` redirects and loads under a number. -/
def story (hop number : Nat) (target : String) : List String → List Event
  | [] => [.viewChanged (.loading (placeOf hop target) number)]
  | next :: rest =>
    .viewChanged (.loading (placeOf hop target) number) :: .redirected target next ::
      story (hop + 1) (number + 1) next rest

theorem follow_leads {router : Router} {hops : Nat} {target next : String} {view : ViewState}
    (h : (router.follow hops target (.redirect next)).Leads w view w') :
    ∃ rerouted : World, rerouted.router.generation = w.router.generation ∧
      rerouted.lifecycle = w.lifecycle ++ [.redirected target next] ∧
      (router.resolveWithin hops next).Leads rerouted view w' := by
  rcases Workflow.leads_bind_iff.1 h with ⟨_, told, htell, hrest⟩
  rcases leads_publish_iff.1 htell with rfl
  rcases Workflow.leads_bind_iff.1 hrest with ⟨_, rerouted, hreroute, hlast⟩
  rcases Workflow.leads_modifyGet_iff.1 hreroute with ⟨-, rfl⟩
  -- The history is changed, and the count of resolutions is not.
  have hcount : (w.router.replace target next).generation = w.router.generation :=
    (World.Admits.router (R := World.SamePage) (w := w) (.replace target next) trivial).1
  refine ⟨{ w.emit (.redirected target next) with router := w.router.replace target next }, hcount,
    ?_, hlast⟩
  exact w.lifecycle_emit (.redirected target next)

/-- From a location that is reached after `hop` redirects on, at most `hops` redirects follow. -/
theorem resolveWithin_leads {router : Router} (hop hops : Nat) {target : String} {view : ViewState}
    (hhops : hop + hops = maxRedirects) (h : (router.resolveWithin hops target).Leads w view w') :
    ∃ targets : List String, targets.length ≤ hops ∧
      w'.lifecycle =
        w.lifecycle ++ story hop (w.router.generation + 1) target targets ++ [.viewChanged view] ∧
      view.EndsAt (placeOf (hop + targets.length) (targets.getLastD target)) ∧
      (targets.length = hops → view = .error (targets.getLastD target) loadFailed) ∧
      w'.router.view = view := by
  -- On the redirects that are left; what follows on one loads under the next number.
  induction hops generalizing hop target w with
  | zero =>
      have hlast : placeOf hop target = target := by simp [placeOf, ← hhops]
      rcases Workflow.leads_bind_iff.1 h with ⟨generation, begun, hbegin, hrest⟩
      rcases begin_leads hbegin with ⟨rfl, hloading⟩
      rcases present_leads hrest hloading.generation with ⟨rfl, rfl⟩
      refine ⟨[], Nat.le_refl 0, ?_, .inr (by simp [hlast]), fun _ => rfl, rfl⟩
      simp [Event.isAside, World.lifecycle_setRouter, hloading.lifecycle, story, hlast]
  | succ hops ih =>
      have hread : placeOf hop target = (Location.parse target).path := if_pos (by omega)
      rw [resolveWithin_succ] at h
      rcases Workflow.leads_bind_iff.1 h with ⟨resolution, once, honce, hfollow⟩
      have hconcludes := resolveOnce_leads honce
      cases resolution with
      | done shown =>
          rcases Workflow.leads_pure_iff.1 hfollow with ⟨rfl, rfl⟩
          rcases hconcludes with ⟨hends, hview, hlifecycle⟩
          refine ⟨[], Nat.zero_le _, ?_, by simpa [hread] using hends, (fun h => nomatch h), hview⟩
          simp [story, hread, hlifecycle]
      | redirect next =>
          rcases follow_leads hfollow with ⟨rerouted, hcount, htold, hlast⟩
          rcases ih (hop + 1) (by omega) hlast with
            ⟨targets, hlength, hlifecycle, hends, hlimit, hview⟩
          have hnumber := hcount.trans hconcludes.generation
          refine ⟨next :: targets, Nat.succ_le_succ hlength, ?_, ?_, ?_, hview⟩
          · rw [hlifecycle]
            simp [htold, hconcludes.lifecycle, story, hread, hnumber]
          · rw [List.length_cons, List.getLastD_cons]
            rwa [Nat.add_right_comm] at hends
          · intro hall
            rw [List.getLastD_cons]
            exact hlimit (Nat.succ.inj hall)

end Router

/-! ## The story of a resolution -/

/-- Let a location be resolved while nothing else happens but that the backend answers, with
whatever and in any order.

* The resolution comes to an end in every schedule that keeps giving it turns.
* When it has ended there was a chain of at most four redirects, be it through a cycle.  What has
  been told about pages since is the story of this chain: its locations load under consecutive
  numbers, with the redirects between them, and then comes the page.
* That is a rendered page or a failure, of the path that loaded last; after four redirects it is the
  failure, of the last target as it is written.
* The page that was returned, the page that is shown and the page that was told of last are one. -/
theorem undisturbed_resolution_tells_its_story (router : Router) (asked : String) (w : World) :
    let start : Pool World ViewState := ⟨[router.resolve asked], w⟩
    (∀ schedule : Schedule, schedule.FairTo 0 →
        ∃ n view, (start.run (schedule.upTo n)).tasks = [.done view]) ∧
      ∀ moves view, (start.run moves).tasks = [.done view] →
        ∃ targets : List String, targets.length ≤ 4 ∧
          (start.run moves).state.lifecycle =
            w.lifecycle ++ Router.story 0 (w.router.generation + 1) asked targets ++
              [.viewChanged view] ∧
          view.EndsAt (Router.placeOf targets.length (targets.getLastD asked)) ∧
          (targets.length = 4 → view = .error (targets.getLastD asked) Router.loadFailed) ∧
          (start.run moves).state.router.view = view := by
  intro start
  refine ⟨fun schedule hfair => ?_, fun moves view hdone => ?_⟩
  · rcases Pool.ends_fairly (p := start) rfl hfair with ⟨n, view, hdone⟩
    have hlength := Pool.length_tasks_run start (schedule.upTo n)
    rcases List.length_eq_one_iff.1 hlength with ⟨task, htasks⟩
    rw [htasks] at hdone
    exact ⟨n, view, by rw [htasks, Option.some.inj hdone]⟩
  · have hleads := Pool.leads_of_only hdone
    have hstory := Router.resolveWithin_leads 0 Router.maxRedirects (Nat.zero_add _) hleads
    simp only [Nat.zero_add] at hstory
    exact hstory

/-- A router with two pages for administrators that send everybody else to each other. -/
def Router.revolving : Router where
  table :=
    { exact :=
        [⟨"in", ⟨"/in", [.literal "in"]⟩, .static "in" "In", true, some ⟨[.admin], "out?", "no"⟩⟩,
          ⟨"out", ⟨"/out", [.literal "out"]⟩, .static "out" "Out", true,
            some ⟨[.admin], "/in", "no"⟩⟩]
      capturing := []
      notFound := .notFound }
  loginPath := "/login"
  gateway := ⟨"http://localhost/api", .auto⟩

/-- Whoever goes round in a circle is stopped after four redirects. -/
example :
    let w : World := { login := { session := some .alices, store := .working [] } }
    let final := ((Router.revolving.resolve "/out").run Backend.unreachable ⟨w, []⟩).2.state
    final.lifecycle == Router.story 0 1 "/out" ["/in", "out?", "/in", "out?"] ++
      [.viewChanged (.error "out?" Router.loadFailed)] := by
  decide +kernel

end WebClient
