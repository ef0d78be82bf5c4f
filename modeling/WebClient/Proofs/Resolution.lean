import Mathlib.Data.List.Induction
import WebClient.Proofs.CallTurns

/-!
# Resolution — which page stays when resolutions overlap

A resolution is handed a number when it starts, and shows its page when it has one.  Any number of
resolutions overlap, and each may be redirected and start over with a number of its own.

* `Workflow.Enters` says that a task is about to enter one of the two sections that concern the
  page, and `Pool.journal` lists the sections that a schedule enters.
* `Workflow.Orderly` is what all tasks of a client are: they hold the last number that they were
  handed, and come to a page once for it.  `Workflow.Orderly.step_cases` lists what a turn can be.
* `Resolved` is what every turn keeps, and `latest_resolution_is_shown` what follows from it.
-/

namespace WebClient

/-! ## Sections that concern the page -/

/-- A section under the router's lock in which a resolution starts or comes to its page. -/
inductive PageSection where
  /-- A resolution starts, and is handed a number. -/
  | began (path : String) (generation : Nat)
  /-- The resolution that was handed a number has a page to show. -/
  | presented (generation : Nat) (view : ViewState)

namespace PageSection

/-- The number that is handed out. -/
def handed? : PageSection → Option Nat
  | .began _ generation => some generation
  | .presented _ _ => none

/-- The number of the resolution that has a page to show. -/
def shown? : PageSection → Option Nat
  | .began _ _ => none
  | .presented generation _ => some generation

def toSection : PageSection → RouterState.Section
  | .began path _ => .begin path
  | .presented generation view => .publish generation view

end PageSection

/-- Whether a page has been resolved, with whatever success. -/
def ViewState.IsResolved : ViewState → Prop
  | .rendered _ _ | .error _ _ => True
  | .idle | .loading _ _ => False

/-- Steps that leave the page and the count of resolutions alone. -/
def World.SamePage (w w' : World) : Prop :=
  w'.router.generation = w.router.generation ∧ w'.router.view = w.router.view

/-- The sections that are about the history only. -/
def RouterState.Section.KeepsPage : RouterState.Section → Prop
  | .begin _ | .publish _ _ => False
  | .push _ | .replace _ _ | .leave => True

namespace RouterState

variable {router : RouterState} {generation : Nat} {view : ViewState}

theorem publish_of_latest (h : router.generation = generation) (view : ViewState) :
    router.publish generation view = { router with view } := by
  simp [publish, isLatest, h]

theorem publish_of_superseded (h : router.generation ≠ generation) (view : ViewState) :
    router.publish generation view = router := by
  simp [publish, isLatest, h]

theorem generation_publish (router : RouterState) (generation : Nat) (view : ViewState) :
    (router.publish generation view).generation = router.generation := by
  unfold publish
  split <;> rfl

theorem push_samePage (router : RouterState) (location : String) :
    (router.push location).generation = router.generation ∧
      (router.push location).view = router.view := by
  unfold push
  split <;> exact ⟨rfl, rfl⟩

/-- Which page is shown, and for which number, can be told from what becomes of all states. -/
theorem eq_of_publish_eq {generation' : Nat} {view' : ViewState}
    (h : ∀ router : RouterState, router.publish generation view =
      router.publish generation' view') : generation = generation' ∧ view = view' := by
  have hshown : ∀ old, ({ generation, view := old } : RouterState).publish generation' view' =
      { generation, view } := fun old => (h _).symm.trans (publish_of_latest rfl view)
  by_cases hsame : generation = generation'
  · have hview := congrArg RouterState.view (hshown .idle)
    rw [publish_of_latest hsame] at hview
    exact ⟨hsame, hview.symm⟩
  · -- Otherwise every page would be the one that is shown.
    have hall : ∀ old, old = view := by
      intro old
      have hview := congrArg RouterState.view (hshown old)
      rwa [publish_of_superseded hsame] at hview
    exact absurd ((hall .idle).trans (hall (.error "" "")).symm) ViewState.noConfusion

end RouterState

instance : World.AdmitsRedirects World.SamePage (fun _ => True) RouterState.Section.KeepsPage where
  stay := ⟨rfl, rfl⟩
  tell _ _ := ⟨rfl, rfl⟩
  emit _ := ⟨rfl, rfl⟩
  login _ _ := ⟨rfl, rfl⟩
  router {w} step h := by
    -- Of the sections of the router, those about the history are left.
    cases step with
    | begin path => exact h.elim
    | publish generation view => exact h.elim
    | push location => exact w.router.push_samePage location
    | replace source target =>
        unfold World.SamePage RouterState.Section.apply RouterState.replace
        dsimp only
        split <;> exact RouterState.push_samePage _ target
    | leave =>
        unfold World.SamePage RouterState.Section.apply RouterState.pop?
        dsimp only
        split
        · exact ⟨rfl, rfl⟩
        · cases h : RouterState.current? { w.router with history := w.router.history.dropLast } <;>
            simp

/-! ## Tasks at such a section -/

namespace Workflow

variable {σ α β γ : Type}

theorem bind_assoc (workflow : Workflow σ α) (f : α → Workflow σ β) (g : β → Workflow σ γ) :
    workflow >>= f >>= g = workflow >>= fun a => f a >>= g := by
  change (workflow.bind f).bind g = workflow.bind fun a => (f a).bind g
  induction workflow with
  | done a => rfl
  | atomic update next ih => exact congrArg (Workflow.atomic update) (funext ih)
  | gather activities next ih => exact congrArg (Workflow.gather activities) (funext ih)

theorem bind_pure (workflow : Workflow σ α) : workflow >>= pure = workflow := by
  change workflow.bind .done = workflow
  induction workflow with
  | done a => rfl
  | atomic update next ih => exact congrArg (Workflow.atomic update) (funext ih)
  | gather activities next ih => exact congrArg (Workflow.gather activities) (funext ih)

/-- What the next turn makes of the state, if it is an atomic step. -/
def update? : Workflow σ α → Option (σ → σ)
  | .atomic update _ => some update
  | .done _ => none
  | .gather _ _ => none

/-- Whether a task is about to enter a section, given what the router knows. -/
def Enters (router : RouterState) (task : Workflow World α) : PageSection → Prop
  | .began path generation =>
    generation = router.generation + 1 ∧
      ∃ next : Nat → Workflow World α, task = Router.begin path >>= next
  | .presented generation view =>
    ∃ next : ViewState → Workflow World α, task = Router.present generation view >>= next

theorem Enters.update?_eq {router : RouterState} {task : Workflow World α} {entered : PageSection}
    (h : task.Enters router entered) :
    task.update? = some fun w => { w with router := entered.toSection.apply w.router } := by
  cases entered with
  | began path generation =>
      rcases h with ⟨-, next, rfl⟩
      rfl
  | presented generation view =>
      rcases h with ⟨next, rfl⟩
      rfl

/-- A task is about to enter one section at most. -/
theorem Enters.unique {router : RouterState} {task : Workflow World α} {s s' : PageSection}
    (h : task.Enters router s) (h' : task.Enters router s') : s = s' := by
  -- Two sections that do the same to every router are the same.
  have hupdate := Option.some.inj (h.update?_eq.symm.trans h'.update?_eq)
  have hsame : ∀ r : RouterState, s.toSection.apply r = s'.toSection.apply r := by
    intro r
    let w : World := { login := { store := .working [] }, router := r }
    exact congrArg World.router (congrFun hupdate w)
  cases s with
  | began path generation =>
      cases s' with
      | began path' generation' =>
          have hpath : path = path' := by
            have hview := congrArg RouterState.view (hsame {})
            injection hview
          rw [hpath, h.1, h'.1]
      | presented generation' view' =>
          -- Starting counts up, and showing a page does not.
          have hcount : 1 = 0 := (congrArg RouterState.generation (hsame {})).trans
            (RouterState.generation_publish {} generation' view')
          cases hcount
  | presented generation view =>
      cases s' with
      | began path' generation' =>
          have hcount : 1 = 0 := (congrArg RouterState.generation (hsame {})).symm.trans
            (RouterState.generation_publish {} generation view)
          cases hcount
      | presented generation' view' =>
          rcases RouterState.eq_of_publish_eq hsame with ⟨rfl, rfl⟩
          rfl

/-- What is about to happen at such a section would not leave every page alone. -/
theorem Enters.not_samePage {router : RouterState} {task : Workflow World α} {s : PageSection}
    (h : task.Enters router s) {update : World → World} (hupdate : task.update? = some update) :
    ¬ ∀ w, World.SamePage w (update w) := by
  intro hkeeps
  rw [h.update?_eq] at hupdate
  cases hupdate
  cases s with
  | began path generation =>
      -- Starting counts up.
      have hcount : 1 = 0 := (hkeeps (World.fresh (.working []))).1
      cases hcount
  | presented generation view =>
      -- The page that is shown replaces any other.
      have hview : ∀ old, view = old := by
        intro old
        let w : World :=
          { login := { store := .working [] }, router := { generation, view := old } }
        have hkept : (w.router.publish generation view).view = old := (hkeeps w).2
        rwa [RouterState.publish_of_latest rfl] at hkept
      exact absurd ((hview .idle).symm.trans (hview (.error "" ""))) ViewState.noConfusion

/-! ## Turns at such a section -/

section Turns

variable {part : Nat} {outcome : Outcome} {w : World}

/-- A task that starts a resolution is handed the next number, and tells of the loading page. -/
theorem begin_step (path : String) (next : Nat → Workflow World α) :
    (Router.begin path >>= next).step part outcome w =
      (publish (.viewChanged (.loading path (w.router.generation + 1))) >>= fun _ =>
          next (w.router.generation + 1),
        { w with router := w.router.begin path }) := rfl

/-- The page of the latest resolution is shown, and told of. -/
theorem present_step_latest {generation : Nat} (h : w.router.generation = generation)
    (view : ViewState) (next : ViewState → Workflow World α) :
    (Router.present generation view >>= next).step part outcome w =
      (publish (.viewChanged view) >>= fun _ => next view,
        { w with router := { w.router with view } }) := by
  have hturn : (Router.present generation view >>= next).step part outcome w =
      ((do
          if w.router.isLatest generation then
            publish (.viewChanged (w.router.publish generation view).view)
          return (w.router.publish generation view).view : Workflow World ViewState) >>= next,
        { w with router := w.router.publish generation view }) := rfl
  have hlatest : w.router.isLatest generation = true := by simp [RouterState.isLatest, h]
  rw [hturn, hlatest, RouterState.publish_of_latest h]
  rfl

/-- A superseded resolution changes nothing, tells of nothing, and goes on with the page that is
shown. -/
theorem present_step_superseded {generation : Nat} (h : w.router.generation ≠ generation)
    (view : ViewState) (next : ViewState → Workflow World α) :
    (Router.present generation view >>= next).step part outcome w = (next w.router.view, w) := by
  have hturn : (Router.present generation view >>= next).step part outcome w =
      ((do
          if w.router.isLatest generation then
            publish (.viewChanged (w.router.publish generation view).view)
          return (w.router.publish generation view).view : Workflow World ViewState) >>= next,
        { w with router := w.router.publish generation view }) := rfl
  have hlatest : w.router.isLatest generation = false := by simp [RouterState.isLatest, h]
  rw [hturn, hlatest, RouterState.publish_of_superseded h]
  rfl

end Turns

/-! ## Tasks that show pages in order -/

/-- A task that holds at most one number, the last that it was handed, and that has a page to show
for that number once at most. -/
inductive Orderly : Option Nat → Workflow World α → Prop where
  | done (held : Option Nat) (a : α) : Orderly held (.done a)
  | begin {held : Option Nat} {path : String} {next : Nat → Workflow World α}
      (h : ∀ generation, Orderly (some generation) (next generation)) :
      Orderly held (Router.begin path >>= next)
  | present {generation : Nat} {view : ViewState} {next : ViewState → Workflow World α}
      (hresolved : view.IsResolved) (h : ∀ shown, Orderly none (next shown)) :
      Orderly (some generation) (Router.present generation view >>= next)
  | atomic {held : Option Nat} {update : World → World} {next : World → Workflow World α}
      (hkeeps : ∀ w, World.SamePage w (update w)) (h : ∀ w, Orderly held (next w)) :
      Orderly held (.atomic update next)
  | gather {held : Option Nat} {activities : List (Activity World Reply)}
      {next : List Reply → Workflow World α}
      (hkeeps : ∀ activity ∈ activities, activity.Guarantees World.SamePage)
      (h : ∀ replies, Orderly held (next replies)) : Orderly held (.gather activities next)

namespace Orderly

variable {held : Option Nat}

theorem quiet_bind {workflow : Workflow World α} {f : α → Workflow World β}
    (h : workflow.Guarantees World.SamePage) (hf : ∀ a, (f a).Orderly held) :
    (workflow >>= f).Orderly held := by
  change (workflow.bind f).Orderly held
  induction workflow with
  | done a => exact hf a
  | atomic update next ih => exact .atomic h.1 fun w => ih w (h.2 w)
  | gather activities next ih => exact .gather h.1 fun replies => ih replies (h.2 replies)

theorem quiet {workflow : Workflow World α} (h : workflow.Guarantees World.SamePage) :
    workflow.Orderly held := by
  have hbind : (workflow >>= pure).Orderly held := quiet_bind h fun a => .done held a
  rwa [bind_pure] at hbind

/-- One after the other: what follows may be handed numbers of its own. -/
theorem bind {workflow : Workflow World α} {f : α → Workflow World β}
    (h : workflow.Orderly held) (hf : ∀ held a, (f a).Orderly held) :
    (workflow >>= f).Orderly held := by
  induction h with
  | done held a => exact hf held a
  | begin h ih =>
      rw [bind_assoc]
      exact .begin ih
  | present hresolved h ih =>
      rw [bind_assoc]
      exact .present hresolved ih
  | atomic hkeeps h ih => exact .atomic hkeeps ih
  | gather hkeeps h ih => exact .gather hkeeps ih

/-- All that a turn of such a task can be: it starts a resolution, it comes to show the page of the
number that it holds, or it leaves the page alone. -/
theorem step_cases {task : Workflow World α} (h : task.Orderly held) (part : Nat)
    (outcome : Outcome) (w : World) :
    let turn := task.step part outcome w
    (∃ path, task.Enters w.router (.began path (w.router.generation + 1)) ∧
        turn.1.Orderly (some (w.router.generation + 1)) ∧
        turn.2.router = w.router.begin path) ∨
      (∃ generation view, held = some generation ∧ view.IsResolved ∧
        task.Enters w.router (.presented generation view) ∧ turn.1.Orderly none ∧
        turn.2.router = w.router.publish generation view) ∨
      ((∀ s, ¬ task.Enters w.router s) ∧ turn.1.Orderly held ∧ World.SamePage w turn.2) := by
  cases h with
  | done held a =>
      refine .inr (.inr ⟨fun s hs => ?_, .done held a, rfl, rfl⟩)
      cases hs.update?_eq
  | @begin _ path next h =>
      refine .inl ⟨path, ⟨rfl, next, rfl⟩, ?_, rfl⟩
      -- The event that follows in a turn of its own is a quiet one.
      rw [begin_step]
      exact .quiet_bind (publish_guarantees _) fun _ => h _
  | @present generation view next hresolved h =>
      refine .inr (.inl ⟨generation, view, rfl, hresolved, ⟨next, rfl⟩, ?_⟩)
      by_cases hlatest : w.router.generation = generation
      · rw [present_step_latest hlatest, RouterState.publish_of_latest hlatest]
        exact ⟨.quiet_bind (publish_guarantees _) fun _ => h view, rfl⟩
      · rw [present_step_superseded hlatest, RouterState.publish_of_superseded hlatest]
        exact ⟨h _, rfl⟩
  | atomic hkeeps h =>
      exact .inr (.inr ⟨fun s hs => hs.not_samePage rfl hkeeps, h w, hkeeps w⟩)
  | @gather _ activities next hkeeps h =>
      refine .inr (.inr ⟨fun s hs => ?_, ?_⟩)
      · cases hs.update?_eq
      · rcases Guarantees.gather_step hkeeps (fun _ => ⟨rfl, rfl⟩) part outcome w with
          ⟨replies, hturn⟩ | ⟨activities', hactivities, hrest, hstep⟩
        · rw [hturn]
          exact ⟨h replies, rfl, rfl⟩
        · rw [hrest]
          exact ⟨.gather hactivities h, hstep⟩

end Orderly
end Workflow

/-! ## Every operation is such a task -/

section Operations

variable {held : Option Nat}

namespace Router

theorem conclude_orderly (router : Router) (path : String) (generation : Nat)
    (result : Except ViewError View) :
    (router.conclude path generation result).Orderly (some generation) := by
  have hpresent : ∀ view : ViewState, view.IsResolved →
      (do return .done (← present generation view) : Workflow World Resolution).Orderly
        (some generation) :=
    fun view hresolved => .present hresolved fun shown => .done none _
  unfold conclude
  split
  · exact hpresent _ trivial
  · split
    · exact .quiet (sendToLogin_guarantees router generation)
    · exact hpresent _ trivial
  · exact hpresent _ trivial

theorem resolveOnce_orderly (router : Router) (raw : String) :
    (router.resolveOnce raw).Orderly held := by
  -- The number is taken, the session looked at, and then the guard decides.
  refine .begin fun generation => .quiet_bind currentSession_guarantees fun session => ?_
  dsimp only
  split
  · exact .quiet (sendToLogin_guarantees router generation)
  · exact .quiet (turnAway_guarantees _ generation)
  · exact .quiet_bind (Gateway.carryOut_guarantees trivial _ _) fun result =>
      conclude_orderly router _ generation result

theorem resolveWithin_orderly (router : Router) (hops : Nat) (target : String) :
    (router.resolveWithin hops target).Orderly held := by
  -- A redirect starts over with one hop less, and is handed a number of its own.
  induction hops generalizing held target with
  | zero =>
      -- No hop is left, and the page is an error.
      refine .begin fun generation => ?_
      rw [← Workflow.bind_pure (present generation _)]
      exact .present trivial fun shown => .done none shown
  | succ hops ih =>
      refine .bind (resolveOnce_orderly router target) fun held resolution => ?_
      cases resolution with
      | done view => exact .done held view
      | redirect next =>
          exact .quiet_bind (publish_guarantees _) fun _ =>
            .quiet_bind (reroute_guarantees _ _ trivial) fun _ => ih next

theorem navigate_orderly (router : Router) (location : String) :
    (router.navigate location).Orderly held :=
  .quiet_bind (enter_guarantees location trivial) fun _ => resolveWithin_orderly router _ location

theorem back_orderly (router : Router) : router.back.Orderly held := by
  refine .quiet_bind (leave_guarantees trivial) fun location => ?_
  cases location with
  | none => exact .done held none
  | some location =>
      exact .bind (resolveWithin_orderly router _ location) fun held view => .done held (some view)

end Router

namespace Client

variable (client : Client)

theorem refreshCurrentUser_quiet : client.refreshCurrentUser.Guarantees World.SamePage :=
  refreshCurrentUser_guarantees trivial (fun _ _ => trivial) client

theorem start_orderly (initial : Option String) : (client.start initial).Orderly held := by
  have hload : (loadPersisted : Workflow World Session).Guarantees World.SamePage :=
    loadPersisted_guarantees trivial trivial fun _ _ => trivial
  refine .quiet_bind hload fun session => ?_
  dsimp only
  split
  · exact .quiet_bind client.refreshCurrentUser_quiet fun _ =>
      Router.navigate_orderly client.router _
  · exact Router.navigate_orderly client.router _

theorem welcome_orderly (payload : AuthPayload) (message : String) :
    (client.welcome payload message).Orderly held :=
  .quiet_bind (setAuthenticated_guarantees _ trivial) fun _ =>
    .quiet_bind (publish_guarantees _) fun _ =>
      .bind (Router.navigate_orderly client.router _) fun held _ => .done held ()

theorem login_orderly (username password : String) :
    (client.login username password).Orderly held := by
  have hreject : ∀ message, (reject message).Orderly held :=
    fun message => .quiet_bind (publish_guarantees _) fun _ => .done held _
  refine .quiet_bind (call_guarantees trivial client _) fun reply => ?_
  split
  · exact .done held reply
  · split
    · exact .bind (client.welcome_orderly _ _) fun held _ => .done held reply
    · exact hreject _
    · exact hreject _

theorem register_orderly (username email password : String) :
    (client.register username email password).Orderly held := by
  have hnavigate : ∀ (reply : Reply) (location : String), (do
      let _ ← client.navigate location
      return reply : Workflow World Reply).Orderly held :=
    fun reply location =>
      .bind (Router.navigate_orderly client.router location) fun held _ => .done held reply
  refine .quiet_bind (call_guarantees trivial client _) fun reply => ?_
  dsimp only
  split
  · exact .done held reply
  · split
    · exact .bind (client.welcome_orderly _ _) fun held _ => .done held reply
    · exact .quiet_bind (publish_guarantees _) fun _ => hnavigate reply _
    · exact hnavigate reply _

theorem logout_orderly : client.logout.Orderly held := by
  have hleave : (do
      let _ ← clearSession (m := Workflow World)
      if client.mustLeave (← currentLocation) then
        let _ ← client.navigate client.settings.homePath : Workflow World Unit).Orderly held := by
    refine .quiet_bind (clearSession_guarantees trivial) fun _ => ?_
    refine .quiet_bind (.modifyGet fun _ => ⟨rfl, rfl⟩) fun location => ?_
    split
    · exact .bind (Router.navigate_orderly client.router _) fun held _ => .done held ()
    · exact .done held ()
  refine .quiet_bind currentSession_guarantees fun session => ?_
  dsimp only
  split
  · exact .quiet_bind (call_guarantees trivial client _) fun _ => hleave
  · exact hleave

end Client

/-- Every operation shows pages in order. -/
theorem Operation.orderly (client : Client) (op : Operation) :
    (op.perform client).Orderly held := by
  have hend : ∀ {α : Type} (held : Option Nat) (_ : α),
      (pure () : Workflow World Unit).Orderly held := fun held _ => .done held ()
  cases op with
  | start initial => exact .bind (client.start_orderly initial) hend
  | login username password => exact .bind (client.login_orderly username password) hend
  | register username email password =>
      exact .bind (client.register_orderly username email password) hend
  | logout => exact client.logout_orderly
  | refresh => exact .bind (.quiet client.refreshCurrentUser_quiet) hend
  | navigate location => exact .bind (Router.navigate_orderly client.router location) hend
  | resolve location => exact .bind (Router.resolveWithin_orderly client.router _ location) hend
  | back => exact .bind (Router.back_orderly client.router) hend
  | call call => exact .bind (.quiet (Client.call_guarantees trivial client call)) hend
  | calls calls => exact .bind (.quiet (Client.calls_guarantees trivial client calls)) hend
  | change c =>
      cases c with
      | establish auth => exact .quiet (setAuthenticated_guarantees auth trivial)
      | identify user seller =>
          exact .bind (.quiet (updateUser_guarantees user seller trivial)) hend
      | clear => exact .bind (.quiet (clearSession_guarantees trivial)) hend
  | load =>
      exact .bind (.quiet (loadPersisted_guarantees trivial trivial fun _ _ => trivial)) hend

end Operations

/-! ## The sections of a schedule -/

/-- The sections that concern the page, oldest first, each with the task that entered it. -/
abbrev Journal := List (Nat × PageSection)

namespace Journal

variable {journal : Journal}

/-- The numbers that were handed out. -/
def handed (journal : Journal) : List Nat := journal.filterMap fun entry => entry.2.handed?

/-- The numbers of the resolutions that came to show a page. -/
def shown (journal : Journal) : List Nat := journal.filterMap fun entry => entry.2.shown?

theorem handed_concat (i : Nat) (s : PageSection) :
    handed (journal ++ [(i, s)]) = journal.handed ++ s.handed?.toList := by
  cases hs : s.handed? <;> simp [handed, hs]

theorem shown_concat (i : Nat) (s : PageSection) :
    shown (journal ++ [(i, s)]) = journal.shown ++ s.shown?.toList := by
  cases hs : s.shown? <;> simp [shown, hs]

theorem mem_handed {i : Nat} {path : String} {generation : Nat}
    (h : (i, .began path generation) ∈ journal) : generation ∈ journal.handed :=
  List.mem_filterMap.2 ⟨_, h, rfl⟩

theorem exists_of_mem_shown {generation : Nat} (h : generation ∈ journal.shown) :
    ∃ i view, (i, .presented generation view) ∈ journal := by
  rcases List.mem_filterMap.1 h with ⟨⟨i, s⟩, hentry, hshown⟩
  cases s with
  | began path other => cases hshown
  | presented other view =>
      cases hshown
      exact ⟨i, view, hentry⟩

end Journal

namespace Pool

variable {α : Type}

open Classical in
/-- The section that a turn enters, if it is one that concerns the page. -/
noncomputable def entered? (p : Pool World α) (m : Move) : Option PageSection :=
  p.tasks[m.task]?.bind fun task =>
    if h : ∃ s, task.Enters p.state.router s then some h.choose else none

/-- The sections that the turns of a schedule enter. -/
noncomputable def journal (p : Pool World α) : List Move → Journal
  | [] => []
  | m :: moves => ((p.entered? m).map fun s => (m.task, s)).toList ++ (p.step m).journal moves

variable {p : Pool World α} {m : Move} {task : Workflow World α} {s : PageSection}

theorem entered?_eq_some (htask : p.tasks[m.task]? = some task)
    (h : task.Enters p.state.router s) : p.entered? m = some s := by
  have hsome : ∃ s, task.Enters p.state.router s := ⟨s, h⟩
  simp only [entered?, htask, Option.bind_some]
  rw [dif_pos hsome, hsome.choose_spec.unique h]

theorem entered?_eq_none (h : ∀ task, p.tasks[m.task]? = some task →
    ∀ s, ¬ task.Enters p.state.router s) : p.entered? m = none := by
  unfold entered?
  cases htask : p.tasks[m.task]? with
  | none => rfl
  | some task =>
      have hnone : ¬ ∃ s, task.Enters p.state.router s := fun ⟨s, hs⟩ => h task htask s hs
      exact dif_neg hnone

theorem journal_concat (moves : List Move) (m : Move) :
    p.journal (moves ++ [m]) =
      p.journal moves ++ (((p.run moves).entered? m).map fun s => (m.task, s)).toList := by
  induction moves generalizing p with
  | nil => simp [journal]
  | cons first moves ih => simp [journal, ih]

end Pool

/-! ## What every turn keeps -/

/-- What the numbers in a journal are, when `count` have been handed out and each task holds the one
that `held` gives. -/
structure Journal.Tallies (journal : Journal) (count : Nat) (held : Nat → Option Nat) : Prop where
  handed : journal.handed = List.range' 1 count
  distinct : ∀ i j path path' generation, (i, .began path generation) ∈ journal →
    (j, .began path' generation) ∈ journal → i = j
  /-- A number that is held was handed to its task, and has not come to a page yet. -/
  holder : ∀ i generation, held i = some generation →
    (∃ path, (i, .began path generation) ∈ journal) ∧ generation ∉ journal.shown
  owner : ∀ i generation view, (i, .presented generation view) ∈ journal →
    ∃ path, (i, .began path generation) ∈ journal
  once : journal.shown.Nodup

/-- How the page that is shown came about. -/
structure Journal.Explains (journal : Journal) (router : RouterState) : Prop where
  idle : router.view = .idle ↔ router.generation = 0
  loading : ∀ path generation, router.view = .loading path generation →
    generation = router.generation
  resolved : router.view.IsResolved → ∃ i, (i, .presented router.generation router.view) ∈ journal

namespace Journal

variable {journal : Journal} {count : Nat} {held : Nat → Option Nat} {i : Nat}

theorem Tallies.start : Tallies [] 0 fun _ => none where
  handed := rfl
  distinct _ _ _ _ _ h := by cases h
  holder _ _ h := by cases h
  owner _ _ _ h := by cases h
  once := List.nodup_nil

/-- The numbers handed out so far are those up to the count. -/
theorem Tallies.began_le (h : Tallies journal count held) {path : String} {generation : Nat}
    (hbegan : (i, .began path generation) ∈ journal) : 1 ≤ generation ∧ generation ≤ count := by
  have hmem : generation ∈ journal.handed := mem_handed hbegan
  rw [h.handed, List.mem_range'_1] at hmem
  omega

theorem Tallies.shown_le (h : Tallies journal count held) {generation : Nat}
    (hshown : generation ∈ journal.shown) : generation ≤ count := by
  rcases exists_of_mem_shown hshown with ⟨i, view, hpresented⟩
  rcases h.owner _ _ _ hpresented with ⟨path, hbegan⟩
  exact (h.began_le hbegan).2

theorem Tallies.begin (h : Tallies journal count held) (i : Nat) (path : String) :
    Tallies (journal ++ [(i, .began path (count + 1))]) (count + 1)
      fun j => if j = i then some (count + 1) else held j := by
  have hshown : shown (journal ++ [(i, .began path (count + 1))]) = journal.shown := by
    simp [shown_concat, PageSection.shown?]
  have hbegan : ∀ {j : Nat} {path' : String} {generation : Nat},
      (j, PageSection.began path' generation) ∈ journal ++ [(i, .began path (count + 1))] →
        (j, .began path' generation) ∈ journal ∧ generation ≤ count ∨
          j = i ∧ generation = count + 1 := by
    intro j path' generation hmem
    rcases List.mem_append.1 hmem with hold | hnew
    · exact .inl ⟨hold, (h.began_le hold).2⟩
    · simp only [List.mem_singleton, Prod.mk.injEq, PageSection.began.injEq] at hnew
      exact .inr ⟨hnew.1, hnew.2.2⟩
  refine ⟨?_, ?_, ?_, ?_, hshown ▸ h.once⟩
  · rw [handed_concat, h.handed, List.range'_concat]
    simp [PageSection.handed?, Nat.add_comm]
  · intro j j' path₁ path₂ generation hj hj'
    -- The new number is greater than all before, so both entries are old or both are the new one.
    rcases hbegan hj with ⟨hold, hle⟩ | ⟨hi, hnew⟩
    · rcases hbegan hj' with ⟨hold', -⟩ | ⟨-, hnew'⟩
      · exact h.distinct j j' _ _ _ hold hold'
      · omega
    · rcases hbegan hj' with ⟨-, hle'⟩ | ⟨hi', -⟩
      · omega
      · exact hi.trans hi'.symm
  · intro j generation hheld
    rw [hshown]
    by_cases hj : j = i
    · subst hj
      have hnew : count + 1 = generation := by simpa using hheld
      subst hnew
      refine ⟨⟨path, by simp⟩, fun hmem => ?_⟩
      have hle := h.shown_le hmem
      omega
    · have hold : held j = some generation := by simpa [hj] using hheld
      rcases h.holder j generation hold with ⟨⟨path', hmem⟩, hpending⟩
      exact ⟨⟨path', List.mem_append_left _ hmem⟩, hpending⟩
  · intro j generation view hpresented
    have hold : (j, .presented generation view) ∈ journal := by simpa using hpresented
    rcases h.owner j generation view hold with ⟨path', hmem⟩
    exact ⟨path', List.mem_append_left _ hmem⟩

theorem Tallies.present (h : Tallies journal count held) {generation : Nat}
    (hheld : held i = some generation) (view : ViewState) :
    Tallies (journal ++ [(i, .presented generation view)]) count
      fun j => if j = i then none else held j := by
  rcases h.holder i generation hheld with ⟨⟨path, hbegan⟩, hpending⟩
  have hshown : shown (journal ++ [(i, .presented generation view)]) =
      journal.shown ++ [generation] := by
    simp [shown_concat, PageSection.shown?]
  have hold : ∀ {j : Nat} {path' : String} {generation' : Nat},
      (j, PageSection.began path' generation') ∈ journal ++ [(i, .presented generation view)] →
        (j, .began path' generation') ∈ journal := by
    intro j path' generation' hmem
    simpa using hmem
  refine ⟨?_, fun j j' _ _ _ hj hj' => h.distinct j j' _ _ _ (hold hj) (hold hj'), ?_, ?_, ?_⟩
  · rw [handed_concat, h.handed]
    simp [PageSection.handed?]
  · intro j generation' hheld'
    by_cases hj : j = i
    · simp [hj] at hheld'
    · -- Another task holds another number: no number was handed to two tasks.
      have hother : held j = some generation' := by simpa [hj] using hheld'
      rcases h.holder j generation' hother with ⟨⟨path', hbegan'⟩, hpending'⟩
      refine ⟨⟨path', List.mem_append_left _ hbegan'⟩, ?_⟩
      rw [hshown]
      intro hmem
      rcases List.mem_append.1 hmem with hmem | hmem
      · exact hpending' hmem
      · have hsame : generation' = generation := by simpa using hmem
        exact hj (h.distinct j i _ _ _ (hsame ▸ hbegan') hbegan)
  · intro j generation' view' hpresented
    rcases List.mem_append.1 hpresented with hpresented | hpresented
    · rcases h.owner j generation' view' hpresented with ⟨path', hbegan'⟩
      exact ⟨path', List.mem_append_left _ hbegan'⟩
    · -- The owner of the entry just made is who holds the number.
      simp only [List.mem_singleton, Prod.mk.injEq, PageSection.presented.injEq] at hpresented
      rcases hpresented with ⟨rfl, rfl, -⟩
      exact ⟨path, List.mem_append_left _ hbegan⟩
  · rw [hshown]
    refine List.nodup_append.2 ⟨h.once, by simp, ?_⟩
    rintro other hother _ hnew rfl
    exact hpending (List.mem_singleton.1 hnew ▸ hother)

variable {router router' : RouterState}

theorem Explains.start : Explains [] {} where
  idle := by simp
  loading _ _ h := by cases h
  resolved h := h.elim

theorem Explains.congr (h : Explains journal router)
    (hgeneration : router'.generation = router.generation) (hview : router'.view = router.view) :
    Explains journal router' where
  idle := by rw [hgeneration, hview, h.idle]
  loading := by rw [hgeneration, hview]; exact h.loading
  resolved := by rw [hgeneration, hview]; exact h.resolved

/-- Whatever page there was gives way to the loading page. -/
theorem Explains.begin (router : RouterState) (path : String) :
    Explains journal (router.begin path) where
  idle := by simp [RouterState.begin]
  loading path' generation h := by
    injection h with _ hgeneration
    exact hgeneration.symm
  resolved h := h.elim

theorem Explains.present (h : Explains journal router) {generation : Nat} {view : ViewState}
    (hpositive : 1 ≤ generation) (hresolved : view.IsResolved) (i : Nat) :
    Explains (journal ++ [(i, .presented generation view)]) (router.publish generation view) := by
  by_cases hlatest : router.generation = generation
  · -- The page is of the current number, and a number was handed out before.
    rw [RouterState.publish_of_latest hlatest]
    refine ⟨iff_of_false ?_ (by simp only; omega), ?_, fun _ => ⟨i, by simp [hlatest]⟩⟩
    · rintro rfl
      exact hresolved
    · rintro path number rfl
      exact hresolved.elim
  · rw [RouterState.publish_of_superseded hlatest]
    refine ⟨h.idle, h.loading, fun hshown => ?_⟩
    rcases h.resolved hshown with ⟨j, hpresented⟩
    exact ⟨j, List.mem_append_left _ hpresented⟩

end Journal

/-- What is known of a pool after the sections in `journal`, when each task holds the number that
`held` gives. -/
structure Resolved {α : Type} (p : Pool World α) (journal : Journal) (held : Nat → Option Nat) :
    Prop where
  orderly : ∀ (i : Nat) (task : Workflow World α), p.tasks[i]? = some task → task.Orderly (held i)
  tallies : journal.Tallies p.state.router.generation held
  explains : journal.Explains p.state.router

namespace Resolved

variable {α : Type} {p p' : Pool World α} {journal : Journal} {held : Nat → Option Nat} {i : Nat}
  {task : Workflow World α}

theorem start {w : World} {tasks : List (Workflow World α)}
    (horderly : ∀ task ∈ tasks, task.Orderly none) (hrouter : w.router = {}) :
    Resolved ⟨tasks, w⟩ [] fun _ => none where
  orderly i task htask := horderly task (List.mem_of_getElem? htask)
  tallies := by rw [hrouter]; exact .start
  explains := by rw [hrouter]; exact .start

/-- Every task but the one that has had its turn is where it was. -/
theorem orderly_set (h : Resolved p journal held) {number : Option Nat}
    (htasks : p'.tasks = p.tasks.set i task) (htask : task.Orderly number) (j : Nat)
    (other : Workflow World α) (hother : p'.tasks[j]? = some other) :
    other.Orderly (if j = i then number else held j) := by
  rw [htasks] at hother
  by_cases hj : j = i
  · subst hj
    rcases List.getElem?_eq_some_iff.1 hother with ⟨_, hget⟩
    rw [List.getElem_set_self] at hget
    rw [if_pos rfl, ← hget]
    exact htask
  · rw [List.getElem?_set_ne (Ne.symm hj)] at hother
    rw [if_neg hj]
    exact h.orderly j other hother

/-- A turn that leaves the page alone. -/
theorem quiet (h : Resolved p journal held) (htasks : p'.tasks = p.tasks.set i task)
    (htask : task.Orderly (held i)) (hpage : World.SamePage p.state p'.state) :
    Resolved p' journal held where
  orderly j other hother := by
    have hset := h.orderly_set htasks htask j other hother
    by_cases hj : j = i
    · subst hj
      simpa using hset
    · simpa [hj] using hset
  tallies := by rw [hpage.1]; exact h.tallies
  explains := h.explains.congr hpage.1 hpage.2

/-- A turn that starts a resolution. -/
theorem begin (h : Resolved p journal held) {path : String}
    (htasks : p'.tasks = p.tasks.set i task)
    (htask : task.Orderly (some (p.state.router.generation + 1)))
    (hrouter : p'.state.router = p.state.router.begin path) :
    Resolved p' (journal ++ [(i, .began path (p.state.router.generation + 1))])
      fun j => if j = i then some (p.state.router.generation + 1) else held j where
  orderly := h.orderly_set htasks htask
  tallies := by rw [hrouter]; exact h.tallies.begin i path
  explains := by rw [hrouter]; exact .begin _ path

/-- A turn that comes to show the page of a number that is held. -/
theorem present (h : Resolved p journal held) {generation : Nat} {view : ViewState}
    (hheld : held i = some generation) (hresolved : view.IsResolved)
    (htasks : p'.tasks = p.tasks.set i task) (htask : task.Orderly none)
    (hrouter : p'.state.router = p.state.router.publish generation view) :
    Resolved p' (journal ++ [(i, .presented generation view)])
      fun j => if j = i then none else held j where
  orderly := h.orderly_set htasks htask
  tallies := by
    rw [hrouter, RouterState.generation_publish]
    exact h.tallies.present hheld view
  explains := by
    rcases h.tallies.holder i generation hheld with ⟨⟨path, hbegan⟩, -⟩
    rw [hrouter]
    exact h.explains.present (h.tallies.began_le hbegan).1 hresolved i

/-- Every turn is one of these. -/
theorem step (h : Resolved p journal held) (m : Move) :
    ∃ held', Resolved (p.step m)
      (journal ++ ((p.entered? m).map fun s => (m.task, s)).toList) held' := by
  cases htask : p.tasks[m.task]? with
  | none =>
      have hidle : p.step m = p := by simp [Pool.step, htask]
      have hnone : p.entered? m = none := Pool.entered?_eq_none (by simp [htask])
      exact ⟨held, by simpa [hidle, hnone] using h⟩
  | some task =>
      have hstep := Pool.step_eq htask
      have htasks := congrArg Pool.tasks hstep
      have hstate := congrArg Pool.state hstep
      -- The task of this turn goes on, and what it may do is known from its order.
      rcases (h.orderly _ task htask).step_cases m.part m.outcome p.state with
        ⟨path, henters, hrest, hrouter⟩ | ⟨generation, view, hheld, hresolved, henters, hrest,
          hrouter⟩ | ⟨hnone, hrest, hpage⟩
      · rw [Pool.entered?_eq_some htask henters]
        exact ⟨_, h.begin htasks hrest (hstate ▸ hrouter)⟩
      · rw [Pool.entered?_eq_some htask henters]
        exact ⟨_, h.present hheld hresolved htasks hrest (hstate ▸ hrouter)⟩
      · have hentered : p.entered? m = none := by
          refine Pool.entered?_eq_none ?_
          intro other hother
          rw [htask] at hother
          cases hother
          exact hnone
        rw [hentered]
        exact ⟨held, by simpa using h.quiet htasks hrest (hstate ▸ hpage)⟩

/-- What every schedule keeps. -/
theorem run {w : World} {tasks : List (Workflow World α)}
    (horderly : ∀ task ∈ tasks, task.Orderly none) (hrouter : w.router = {}) (moves : List Move) :
    ∃ held, Resolved ((⟨tasks, w⟩ : Pool World α).run moves)
      ((⟨tasks, w⟩ : Pool World α).journal moves) held := by
  induction moves using List.reverseRecOn with
  | nil => exact ⟨_, start horderly hrouter⟩
  | append_singleton moves m ih =>
      rcases ih with ⟨held, h⟩
      rw [Pool.journal_concat, Pool.run_append]
      exact h.step m

/-- Turns that are not in the journal leave the page alone. -/
theorem samePage_of_not_entered (h : Resolved p journal held) {m : Move}
    (hnone : p.entered? m = none) : World.SamePage p.state (p.step m).state := by
  cases htask : p.tasks[m.task]? with
  | none =>
      have hidle : p.step m = p := by simp [Pool.step, htask]
      rw [hidle]
      exact ⟨rfl, rfl⟩
  | some task =>
      rw [Pool.step_eq htask]
      rcases (h.orderly _ task htask).step_cases m.part m.outcome p.state with
        ⟨path, henters, -⟩ | ⟨generation, view, -, -, henters, -⟩ | ⟨-, -, hpage⟩
      · cases hnone.symm.trans (Pool.entered?_eq_some htask henters)
      · cases hnone.symm.trans (Pool.entered?_eq_some htask henters)
      · exact hpage

end Resolved

/-! ## Resolutions that overlap -/

/-- Let any operations of a client be under way at once, over a router that has just been made, and
follow them for any number of turns.

* The numbers handed out are 1, 2, 3 and so on, up to the current one, and whoever starts a
  resolution goes on with the next of them.
* No page is shown exactly until the first of them is handed out; a page that is loading has the
  current number; a resolved page was shown by the task that was handed the current number.
* Each number comes to a page once at most, and in the task that was handed it.  Turns that neither
  hand out a number nor come to a page leave the page alone.
* A superseded resolution that comes to its page changes nothing of the shared state, tells of
  nothing, and goes on with the page that is shown. -/
theorem latest_resolution_is_shown (client : Client) (ops : List Operation) (login : Login)
    (events : List Event) (moves : List Move) :
    let start := client.pool ops { login, events }
    let p := start.run moves
    let journal := start.journal moves
    let router := p.state.router
    journal.handed = List.range' 1 router.generation ∧
      (∀ (m : Move) (path : String) (next : Nat → Workflow World Unit),
        p.tasks[m.task]? = some (Router.begin path >>= next) →
        (p.step m).state.router.generation = router.generation + 1 ∧
          (p.step m).tasks[m.task]? =
            some (publish (.viewChanged (.loading path (router.generation + 1))) >>= fun _ =>
              next (router.generation + 1))) ∧
      (router.view = .idle ↔ journal.handed = []) ∧
      (∀ path generation, router.view = .loading path generation →
        generation = router.generation) ∧
      (router.view.IsResolved → ∃ i path, (i, .began path router.generation) ∈ journal ∧
        (i, .presented router.generation router.view) ∈ journal) ∧
      journal.shown.Nodup ∧
      (∀ i generation view, (i, .presented generation view) ∈ journal →
        ∃ path, (i, .began path generation) ∈ journal) ∧
      (∀ m, p.entered? m = none → World.SamePage p.state (p.step m).state) ∧
      (∀ (m : Move) (generation : Nat) (view : ViewState) (next : ViewState → Workflow World Unit),
        p.tasks[m.task]? = some (Router.present generation view >>= next) →
        generation ≠ router.generation →
        (p.step m).state = p.state ∧ (p.step m).tasks[m.task]? = some (next router.view)) := by
  intro start p journal router
  have horderly : ∀ task ∈ start.tasks, task.Orderly none := by
    intro task htask
    rcases List.mem_map.1 htask with ⟨op, -, rfl⟩
    exact op.orderly client
  rcases Resolved.run (w := start.state) horderly rfl moves with ⟨held, h⟩
  have hhanded : journal.handed = List.range' 1 router.generation := h.tallies.handed
  refine ⟨hhanded, ?_, ?_, h.explains.loading, ?_, h.tallies.once, h.tallies.owner,
    fun m => h.samePage_of_not_entered, ?_⟩
  · intro m path next htask
    have hstep := Pool.step_self htask (Workflow.begin_step path next)
    exact ⟨by rw [hstep.2]; rfl, hstep.1⟩
  · rw [hhanded, List.range'_eq_nil_iff]
    exact h.explains.idle
  · intro hresolved
    rcases h.explains.resolved hresolved with ⟨i, hpresented⟩
    rcases h.tallies.owner _ _ _ hpresented with ⟨path, hbegan⟩
    exact ⟨i, path, hbegan, hpresented⟩
  · intro m generation view next htask hsuperseded
    have hturn : (Router.present generation view >>= next).step m.part m.outcome p.state =
        (next router.view, p.state) :=
      Workflow.present_step_superseded hsuperseded.symm view next
    have hstep := Pool.step_self htask hturn
    exact ⟨hstep.2, hstep.1⟩

/-- A page that is resolved later than it was asked for does not replace the one asked for since. -/
example :
    let p := (Client.pageless.pool [.resolve "/a", .resolve "/b"] (.fresh (.working []))).run
      ([0, 0, 0, 1, 1, 1, 1, 1, 0].map fun i => { task := i })
    p.state.router.generation = 2 ∧ p.state.router.view.path? = some "/b" ∧
      p.state.events.length = 3 := by
  decide +kernel

end WebClient
