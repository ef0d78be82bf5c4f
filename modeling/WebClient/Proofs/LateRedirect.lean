import WebClient.Proofs.Resolution

/-!
# LateRedirect — redirects that come too late

A resolution that has to be redirected looks whether it is superseded, and then acts in turns of
their own: it tells of the redirect, changes the history and starts over.  A resolution that began
in between is taken over by the one before it.

* `World.SameRoute` are the steps that leave no trace on the way that pages take.
* `Workflow.Starts` says that a task starts a resolution with one of its next turns, whatever
  happens meanwhile and without looking whether it is superseded.
* `Workflow.Course` is what every navigation is: it starts a resolution, or it holds a number and
  leaves no trace once that is superseded.  `Workflow.Course.step_cases` lists what a turn can be.
* `late_redirect_is_dropped_iff` says which superseded navigations act no more, and
  `late_redirect_takes_over` is a run of one that does.
-/

namespace WebClient

/-! ## Traces -/

/-- The redirects told of so far, oldest first. -/
def World.redirects (w : World) : List (String × String) := w.events.filterMap (·.redirect?)

/-- Steps that leave no trace on the way that pages take: they change nothing of the router, be it
the history, the count of resolutions or the page, and tell of no redirect. -/
def World.SameRoute (w w' : World) : Prop := w'.router = w.router ∧ w'.redirects = w.redirects

theorem World.SameRoute.refl (w : World) : World.SameRoute w w := ⟨rfl, rfl⟩

instance : World.Admits World.SameRoute (fun _ => True) (fun _ => False) where
  stay := .refl _
  tell event h := ⟨rfl, by simp [World.redirects, World.emit, h]⟩
  login _ _ := ⟨rfl, rfl⟩
  router _ h := h.elim

/-- Numbers are only counted up. -/
theorem World.Step.generation_le {A : Login.Section → Prop} {w w' : World} (h : World.Step A w w') :
    w.router.generation ≤ w'.router.generation := by
  have hpage : ∀ step : RouterState.Section, step.KeepsPage →
      (step.apply w.router).generation = w.router.generation :=
    fun step hstep => (World.Admits.router (R := World.SamePage) (w := w) step hstep).1
  cases h with
  | stay | emit | login => exact Nat.le_refl _
  | router step =>
      cases step with
      | begin path => exact Nat.le_succ _
      | publish generation view =>
          exact Nat.le_of_eq (w.router.generation_publish generation view).symm
      | push location => exact Nat.le_of_eq (hpage (.push location) trivial).symm
      | replace source target => exact Nat.le_of_eq (hpage (.replace source target) trivial).symm
      | leave => exact Nat.le_of_eq (hpage .leave trivial).symm

/-! ## The course of a navigation -/

namespace Workflow

variable {α β : Type}

/-- A task that starts a resolution with one of its next turns, whatever happens meanwhile. -/
inductive Starts : Workflow World α → Prop where
  | begin (path : String) (next : Nat → Workflow World α) : Starts (Router.begin path >>= next)
  | move {update : World → World} {next : World → Workflow World α}
      (hkeeps : ∀ w, World.SamePage w (update w)) (h : ∀ w, Starts (next w)) :
      Starts (.atomic update next)

/-- How far a navigation has come. -/
inductive Phase where
  /-- It starts a resolution, whatever happens meanwhile. -/
  | starting
  /-- It holds the number of the resolution that it started last. -/
  | holding (generation : Nat)

/-- A task that starts resolutions one after the other, and looks whether the last one is superseded
before it goes over to the next. -/
inductive Course : Phase → Workflow World α → Prop where
  | begin {path : String} {next : Nat → Workflow World α}
      (h : ∀ generation, Course (.holding generation) (next generation)) :
      Course .starting (Router.begin path >>= next)
  | move {update : World → World} {next : World → Workflow World α}
      (hkeeps : ∀ w, World.SamePage w (update w)) (h : ∀ w, Course .starting (next w)) :
      Course .starting (.atomic update next)
  | done (generation : Nat) (a : α) : Course (.holding generation) (.done a)
  | heed {generation : Nat} {update : World → World} {next : World → Workflow World α}
      (phase : World → Phase) (hphase : ∀ w, phase w = .starting ∨ phase w = .holding generation)
      (hlate : ∀ w, generation < w.router.generation →
        World.SameRoute w (update w) ∧ phase w = .holding generation)
      (h : ∀ w, Course (phase w) (next w)) : Course (.holding generation) (.atomic update next)
  | gather {generation : Nat} {activities : List (Activity World Reply)}
      {next : List Reply → Workflow World α}
      (hkeeps : ∀ activity ∈ activities, activity.Guarantees World.SameRoute)
      (h : ∀ replies, Course (.holding generation) (next replies)) :
      Course (.holding generation) (.gather activities next)

namespace Course

variable {generation : Nat}

theorem starts {phase : Phase} {task : Workflow World α} (h : task.Course phase)
    (hphase : phase = .starting) : task.Starts := by
  induction h with
  | begin h ih => exact .begin _ _
  | move hkeeps h ih => exact .move hkeeps fun w => ih w rfl
  | done generation a => cases hphase
  | heed phase hphase' hlate h ih => cases hphase
  | gather hkeeps h ih => cases hphase

theorem quiet_bind {workflow : Workflow World α} {f : α → Workflow World β}
    (h : workflow.Guarantees World.SameRoute) (hf : ∀ a, (f a).Course (.holding generation)) :
    (workflow >>= f).Course (.holding generation) := by
  change (workflow.bind f).Course (.holding generation)
  induction workflow with
  | done a => exact hf a
  | atomic update next ih =>
      exact .heed (fun _ => .holding generation) (fun _ => .inr rfl) (fun w _ => ⟨h.1 w, rfl⟩)
        fun w => ih w (h.2 w)
  | gather activities next ih => exact .gather h.1 fun replies => ih replies (h.2 replies)

/-- All that a turn of a navigation can be: it starts a resolution and is handed the next number; or
it goes on as it was or to a start, and leaves no trace if it holds a number that is superseded. -/
theorem step_cases {phase : Phase} {task : Workflow World α} (h : task.Course phase) (part : Nat)
    (outcome : Outcome) (w : World) :
    let turn := task.step part outcome w
    (phase = .starting ∧ turn.1.Course (.holding (w.router.generation + 1)) ∧
        ∃ path, task.Enters w.router (.began path (w.router.generation + 1))) ∨
      ∃ phase', turn.1.Course phase' ∧ (phase' = .starting ∨ phase' = phase) ∧
        ∀ generation, phase = .holding generation → generation < w.router.generation →
          World.SameRoute w turn.2 ∧ phase' = phase := by
  cases h with
  | @begin path next h =>
      refine .inl ⟨rfl, ?_, path, rfl, next, rfl⟩
      rw [begin_step]
      exact quiet_bind (tell_guarantees _ rfl) fun _ => h _
  | move hkeeps h => exact .inr ⟨.starting, h w, .inl rfl, fun _ hphase => nomatch hphase⟩
  | done generation a =>
      exact .inr ⟨_, .done generation a, .inr rfl, fun _ _ _ => ⟨.refl w, rfl⟩⟩
  | @heed generation update next phase hphase hlate h =>
      refine .inr ⟨phase w, h w, hphase w, fun other hholding hsuperseded => ?_⟩
      cases hholding
      exact hlate w hsuperseded
  | @gather generation activities next hkeeps h =>
      refine .inr ⟨.holding generation, ?_, .inr rfl, fun _ _ _ => ?_⟩
      · rcases Guarantees.gather_step hkeeps World.SameRoute.refl part outcome w with
          ⟨replies, hturn⟩ | ⟨activities', hactivities, hrest, -⟩
        · rw [hturn]
          exact h replies
        · rw [hrest]
          exact .gather hactivities h
      · rcases Guarantees.gather_step hkeeps World.SameRoute.refl part outcome w with
          ⟨replies, hturn⟩ | ⟨activities', -, -, hstep⟩
        · rw [hturn]
          exact ⟨.refl w, rfl⟩
        · exact ⟨hstep, rfl⟩

/-- A task that holds a number looks before it starts: where that is superseded it does not. -/
theorem not_starts {task : Workflow World α} (h : task.Course (.holding generation)) :
    ¬ task.Starts := by
  intro hstarts
  let w : World :=
    { login := { store := .working [] }, router := { generation := generation + 1 } }
  have hlate : generation < w.router.generation := Nat.lt_succ_self generation
  -- In a world where its number is superseded no turn brings it to a start.
  induction hstarts with
  | begin path next =>
      rcases h.step_cases 0 .dropped w with ⟨hphase, -⟩ | ⟨_, -, -, hquiet⟩
      · cases hphase
      · have hcount := congrArg RouterState.generation (hquiet generation rfl hlate).1.1
        exact Nat.succ_ne_self _ hcount
  | move hkeeps hnext ih =>
      rcases h.step_cases 0 .dropped w with ⟨hphase, -⟩ | ⟨phase', hrest, -, hquiet⟩
      · cases hphase
      · rcases hquiet generation rfl hlate with ⟨-, rfl⟩
        exact ih w hrest

end Course
end Workflow

/-! ## Every navigation is on such a course -/

namespace Router

variable {α : Type} {generation : Nat}

/-- Who looks whether it is superseded may start over if it is not. -/
theorem superseded?_course {f : Option ViewState → Workflow World α}
    (hsuperseded : ∀ view, (f (some view)).Course (.holding generation))
    (hlatest : (f none).Course .starting) :
    (superseded? generation >>= f).Course (.holding generation) := by
  refine .heed (fun w => if w.router.isLatest generation then .starting else .holding generation)
    (fun w => ?_) (fun w hlate => ?_) fun w => ?_
  · split
    · exact .inl rfl
    · exact .inr rfl
  · have hold : w.router.isLatest generation = false := by
      simp [RouterState.isLatest, Nat.ne_of_gt hlate]
    simp [hold, World.SameRoute.refl]
  · cases hold : w.router.isLatest generation with
    | false => simpa [hold, Workflow.bind] using hsuperseded _
    | true => simpa [hold, Workflow.bind] using hlatest

theorem present_course {view : ViewState} {f : ViewState → Workflow World α}
    (hf : ∀ shown, (f shown).Course (.holding generation)) :
    (present generation view >>= f).Course (.holding generation) := by
  refine .heed (fun _ => .holding generation) (fun _ => .inr rfl) (fun w hlate => ?_) fun w => ?_
  · refine ⟨⟨?_, rfl⟩, rfl⟩
    exact RouterState.publish_of_superseded (Nat.ne_of_gt hlate) view
  · -- Of the two ways to go on only one tells of the page, and neither touches the router.
    change ((do
        if w.router.isLatest generation then
          publish (.viewChanged (w.router.publish generation view).view)
        return (w.router.publish generation view).view : Workflow World ViewState) >>=
      f).Course (.holding generation)
    cases w.router.isLatest generation with
    | false => exact hf _
    | true => exact .quiet_bind (tell_guarantees _ rfl) fun _ => hf _

section Hop

variable {router : Router} {f : Resolution → Workflow World α}
  (hdone : ∀ generation view, (f (.done view)).Course (.holding generation))
  (hredirect : ∀ target, (f (.redirect target)).Course .starting)

include hdone hredirect

theorem sendToLogin_course :
    (router.sendToLogin generation >>= f).Course (.holding generation) := by
  unfold sendToLogin
  rw [Workflow.bind_assoc]
  exact superseded?_course (fun view => hdone generation view) (hredirect _)

theorem turnAway_course (guard : RoleGuard) :
    (turnAway guard generation >>= f).Course (.holding generation) := by
  -- The warning is given after the look.
  unfold turnAway
  rw [Workflow.bind_assoc]
  exact superseded?_course (fun view => hdone generation view)
    (.move (fun _ => ⟨rfl, rfl⟩) fun _ => hredirect _)

theorem conclude_course (path : String) (result : Except ViewError View) :
    (router.conclude path generation result >>= f).Course (.holding generation) := by
  have hshow : ∀ view, ((do
      return .done (← present generation view) : Workflow World Resolution) >>= f).Course
      (.holding generation) := by
    intro view
    rw [Workflow.bind_assoc]
    exact present_course fun shown => hdone generation shown
  unfold conclude
  split
  · exact hshow _
  · split
    · exact sendToLogin_course hdone hredirect
    · exact hshow _
  · exact hshow _

/-- Whatever the checks and the page come to, a redirect is followed only after a look at whether it
is superseded. -/
theorem resolveOnce_course (raw : String) : (router.resolveOnce raw >>= f).Course .starting := by
  unfold resolveOnce
  rw [Workflow.bind_assoc]
  -- The number is taken first; the session and the backend are asked without touching the router.
  refine .begin fun generation => ?_
  rw [Workflow.bind_assoc]
  refine .quiet_bind currentSession_guarantees fun session => ?_
  dsimp only
  split
  · exact sendToLogin_course hdone hredirect
  · exact turnAway_course hdone hredirect _
  · rw [Workflow.bind_assoc]
    refine .quiet_bind (Gateway.carryOut_guarantees trivial _ _) fun result => ?_
    exact conclude_course hdone hredirect _ result

end Hop

/-- What follows on one hop of a resolution. -/
def follow (router : Router) (hops : Nat) (target : String) : Resolution → Workflow World ViewState
  | .done view => return view
  | .redirect next => do
    publish (.redirected target next)
    reroute target next
    router.resolveWithin hops next

theorem resolveWithin_succ (router : Router) (hops : Nat) (target : String) :
    router.resolveWithin (hops + 1) target =
      router.resolveOnce target >>= router.follow hops target := rfl

/-- From the telling of a redirect on nothing is looked at until the next resolution has begun. -/
theorem follow_course {router : Router} {hops : Nat} {next : String}
    {f : ViewState → Workflow World α} (target : String)
    (h : (router.resolveWithin hops next >>= f).Course .starting) :
    (router.follow hops target (.redirect next) >>= f).Course .starting := by
  have htell : ∀ w, World.SamePage w (w.emit (.redirected target next)) := fun _ => ⟨rfl, rfl⟩
  have hreroute : ∀ w : World, World.SamePage w
      { w with router := w.router.replace target next } :=
    fun w => World.Admits.router (R := World.SamePage) (.replace target next) trivial
  exact .move htell fun _ => .move hreroute fun _ => h

theorem resolveWithin_course {router : Router} (hops : Nat) (target : String)
    {f : ViewState → Workflow World α}
    (hf : ∀ generation view, (f view).Course (.holding generation)) :
    (router.resolveWithin hops target >>= f).Course .starting := by
  induction hops generalizing target with
  | zero =>
      unfold resolveWithin
      rw [Workflow.bind_assoc]
      exact .begin fun generation => present_course (hf generation)
  | succ hops ih =>
      rw [resolveWithin_succ, Workflow.bind_assoc]
      exact resolveOnce_course (fun generation view => hf generation view)
        (fun next => follow_course target (ih next)) target

theorem navigate_course (router : Router) (location : String) {f : ViewState → Workflow World α}
    (hf : ∀ generation view, (f view).Course (.holding generation)) :
    (router.navigate location >>= f).Course .starting := by
  have henter : ∀ w : World, World.SamePage w { w with router := w.router.push location } :=
    fun w => World.Admits.router (R := World.SamePage) (.push location) trivial
  exact .move henter fun _ => resolveWithin_course maxRedirects location hf

end Router

/-! ## Navigations among other operations -/

/-- Whether the page that is shown is one of a task: the task was handed the current number, and the
page is loading for that number or was shown for it. -/
def Journal.PageIs (journal : Journal) (router : RouterState) (k : Nat) : Prop :=
  (∃ path, (k, .began path router.generation) ∈ journal) ∧
    ((∃ path, router.view = .loading path router.generation) ∨
      (k, .presented router.generation router.view) ∈ journal)

theorem Journal.exists_of_mem_handed {journal : Journal} {generation : Nat}
    (h : generation ∈ journal.handed) : ∃ k path, (k, .began path generation) ∈ journal := by
  rcases List.mem_filterMap.1 h with ⟨⟨k, s⟩, hentry, hhanded⟩
  cases s with
  | began path other =>
      cases hhanded
      exact ⟨k, path, hentry⟩
  | presented other view => cases hhanded

namespace Pool

variable {α : Type} {p : Pool World α} {m : Move}

/-- A turn that hands out a number counts up. -/
theorem generation_of_entered? {path : String} {generation : Nat}
    (h : p.entered? m = some (.began path generation)) :
    generation = p.state.router.generation + 1 ∧
      (p.step m).state.router.generation = p.state.router.generation + 1 := by
  cases htask : p.tasks[m.task]? with
  | none =>
      have hnone : p.entered? m = none := entered?_eq_none (by simp [htask])
      cases hnone.symm.trans h
  | some task =>
      by_cases henters : ∃ s, task.Enters p.state.router s
      · rcases henters with ⟨s, hs⟩
        cases (entered?_eq_some htask hs).symm.trans h
        rcases hs with ⟨hnumber, next, rfl⟩
        refine ⟨hnumber, ?_⟩
        rw [(step_self htask (Workflow.begin_step path next)).2]
        rfl
      · have hnone : p.entered? m = none := by
          refine entered?_eq_none fun other hother s hs => ?_
          cases htask.symm.trans hother
          exact henters ⟨s, hs⟩
        cases hnone.symm.trans h

end Pool

/-- A task that starts a resolution leaves a trace when it is left to go on. -/
theorem Workflow.Starts.exists_trace {α : Type} {task : Workflow World α} (h : task.Starts)
    {p : Pool World α} {i : Nat} (htask : p.tasks[i]? = some task) :
    ∃ since, ¬ World.SameRoute (p.run since).state ((p.run since).step { task := i }).state := by
  -- It is given its turns alone until it begins, and then the count has changed.
  induction h generalizing p with
  | begin path next =>
      refine ⟨[], fun hsame => ?_⟩
      have hstep := Pool.step_self (m := { task := i }) htask (Workflow.begin_step path next)
      have hcount := congrArg RouterState.generation hsame.1
      rw [Pool.run_nil, hstep.2] at hcount
      exact Nat.succ_ne_self _ hcount
  | @move update next hkeeps h ih =>
      have hturn : (Workflow.atomic update next).step 0 .dropped p.state =
          (next p.state, update p.state) := rfl
      rcases ih _ (Pool.step_self (m := { task := i }) htask hturn).1 with ⟨since, htrace⟩
      exact ⟨{ task := i } :: since, htrace⟩

namespace Client

variable {client : Client} {ops : List Operation} {w : World} {i : Nat} {location : String}

theorem exists_resolved (client : Client) (ops : List Operation) {w : World}
    (hrouter : w.router = {}) (moves : List Move) :
    ∃ held, Resolved ((client.pool ops w).run moves) ((client.pool ops w).journal moves) held := by
  refine Resolved.run (w := w) (fun task htask => ?_) hrouter moves
  rcases List.mem_map.1 htask with ⟨op, -, rfl⟩
  exact op.orderly client

/-- However far a navigation has come, a number that it holds is one that it was handed. -/
theorem exists_course (hop : ops[i]? = some (.navigate location)) (moves : List Move) :
    ∃ task phase, ((client.pool ops w).run moves).tasks[i]? = some task ∧ task.Course phase ∧
      ∀ generation, phase = .holding generation →
        ∃ path, (i, .began path generation) ∈ (client.pool ops w).journal moves := by
  induction moves using List.reverseRecOn with
  | nil =>
      refine ⟨(Operation.navigate location).perform client, .starting, by simp [pool, hop], ?_,
        fun _ hphase => nomatch hphase⟩
      exact Router.navigate_course client.router location fun generation view =>
        .done generation ()
  | append_singleton moves m ih =>
      rcases ih with ⟨task, phase, htask, hcourse, hheld⟩
      rw [Pool.journal_concat, Pool.run_append, Pool.run_cons, Pool.run_nil]
      -- Entries of the journal stay, so that only a turn of the navigation itself needs a look.
      by_cases hm : m.task = i
      · subst hm
        have hstep := Pool.step_self (m := m) htask rfl
        rcases hcourse.step_cases m.part m.outcome ((client.pool ops w).run moves).state with
          ⟨-, hrest, path, henters⟩ | ⟨phase', hrest, hphase, -⟩
        · rw [Pool.entered?_eq_some htask henters]
          refine ⟨_, _, hstep.1, hrest, fun generation hholding => ⟨path, ?_⟩⟩
          cases hholding
          exact List.mem_append_right _ (List.mem_singleton.2 rfl)
        · refine ⟨_, phase', hstep.1, hrest, fun generation hholding => ?_⟩
          rcases hphase with hstarting | hsame
          · cases hstarting.symm.trans hholding
          · rcases hheld generation (hsame ▸ hholding) with ⟨path, hmem⟩
            exact ⟨path, List.mem_append_left _ hmem⟩
      · refine ⟨task, phase, by rw [Pool.tasks_step_of_ne hm, htask], hcourse, ?_⟩
        intro generation hholding
        rcases hheld generation hholding with ⟨path, hmem⟩
        exact ⟨path, List.mem_append_left _ hmem⟩

/-- A navigation that holds a superseded number, and was handed no later one. -/
structure Superseded (client : Client) (ops : List Operation) (w : World) (i : Nat)
    (moves : List Move) : Prop where
  course : ∃ task generation, ((client.pool ops w).run moves).tasks[i]? = some task ∧
    task.Course (.holding generation) ∧
    generation < ((client.pool ops w).run moves).state.router.generation
  numbers : ∀ path generation, (i, .began path generation) ∈ (client.pool ops w).journal moves →
    generation < ((client.pool ops w).run moves).state.router.generation

namespace Superseded

variable {moves : List Move}

/-- It leaves no trace, and goes on to hold the number. -/
theorem turn (h : Superseded client ops w i moves) {m : Move} (hm : m.task = i) :
    let p := (client.pool ops w).run moves
    World.SameRoute p.state (p.step m).state ∧
      ∃ task generation, (p.step m).tasks[i]? = some task ∧ task.Course (.holding generation) ∧
        generation < p.state.router.generation := by
  intro p
  subst hm
  rcases h.course with ⟨task, generation, htask, hcourse, hlate⟩
  have hstep := Pool.step_self (m := m) htask rfl
  rcases hcourse.step_cases m.part m.outcome p.state with
    ⟨hphase, -⟩ | ⟨phase', hrest, -, hquiet⟩
  · cases hphase
  · rcases hquiet generation rfl hlate with ⟨hsame, rfl⟩
    rw [hstep.2]
    exact ⟨hsame, _, generation, hstep.1, hrest, hlate⟩

theorem step (h : Superseded client ops w i moves) (m : Move) :
    Superseded client ops w i (moves ++ [m]) := by
  have hle : ((client.pool ops w).run moves).state.router.generation ≤
      (((client.pool ops w).run moves).step m).state.router.generation :=
    (pool_step moves m).generation_le
  have hrun : (client.pool ops w).run (moves ++ [m]) = ((client.pool ops w).run moves).step m := by
    rw [Pool.run_append, Pool.run_cons, Pool.run_nil]
  refine ⟨?_, fun path generation hmem => ?_⟩
  · -- Its number stays the same, and the count only grows.
    rw [hrun]
    by_cases hm : m.task = i
    · rcases (h.turn hm).2 with ⟨task, generation, htask, hcourse, hlate⟩
      exact ⟨task, generation, htask, hcourse, Nat.lt_of_lt_of_le hlate hle⟩
    · rcases h.course with ⟨task, generation, htask, hcourse, hlate⟩
      exact ⟨task, generation, by rw [Pool.tasks_step_of_ne hm, htask], hcourse,
        Nat.lt_of_lt_of_le hlate hle⟩
  · rw [hrun]
    rw [Pool.journal_concat] at hmem
    rcases List.mem_append.1 hmem with hold | hnew
    · exact Nat.lt_of_lt_of_le (h.numbers path generation hold) hle
    · -- The entry is of this turn, which then would have left a trace.
      cases hentered : ((client.pool ops w).run moves).entered? m with
      | none => simp [hentered] at hnew
      | some s =>
          have hentry : i = m.task ∧ PageSection.began path generation = s := by
            simpa [hentered] using hnew
          rcases hentry with ⟨hm, rfl⟩
          have hsame := (h.turn hm.symm).1.1
          have hcount := (Pool.generation_of_entered? hentered).2
          rw [hsame] at hcount
          exact absurd hcount (Nat.succ_ne_self _).symm

theorem run (h : Superseded client ops w i moves) (since : List Move) :
    Superseded client ops w i (moves ++ since) := by
  induction since using List.reverseRecOn with
  | nil => simpa using h
  | append_singleton since m ih =>
      rw [← List.append_assoc]
      exact ih.step m

/-- The page that is shown is one of another task. -/
theorem exists_page (h : Superseded client ops w i moves) (hrouter : w.router = {}) :
    ∃ k, k ≠ i ∧ ((client.pool ops w).journal moves).PageIs
      ((client.pool ops w).run moves).state.router k := by
  rcases exists_resolved client ops hrouter moves with ⟨held, hresolved⟩
  let p := (client.pool ops w).run moves
  let journal := (client.pool ops w).journal moves
  have hpositive : 0 < p.state.router.generation := by
    rcases h.course with ⟨_, generation, -, -, hlate⟩
    exact Nat.zero_lt_of_lt hlate
  have hhanded : p.state.router.generation ∈ journal.handed := by
    have hall : journal.handed = List.range' 1 p.state.router.generation :=
      hresolved.tallies.handed
    rw [hall, List.mem_range'_1]
    omega
  rcases Journal.exists_of_mem_handed hhanded with ⟨k, path, hbegan⟩
  have hother : k ≠ i := by
    rintro rfl
    exact Nat.lt_irrefl _ (h.numbers path _ hbegan)
  refine ⟨k, hother, ⟨path, hbegan⟩, ?_⟩
  -- There is a page, for a number was handed out; who shows a resolved one was handed its number.
  have hshown : p.state.router.view.IsResolved →
      (k, .presented p.state.router.generation p.state.router.view) ∈ journal := by
    intro hview
    rcases hresolved.explains.resolved hview with ⟨k', hpresented⟩
    rcases hresolved.tallies.owner _ _ _ hpresented with ⟨path', hbegan'⟩
    rw [hresolved.tallies.distinct _ _ _ _ _ hbegan hbegan']
    exact hpresented
  cases hview : p.state.router.view with
  | idle => exact absurd (hresolved.explains.idle.1 hview) (Nat.ne_of_gt hpositive)
  | loading path generation =>
      have hcurrent : generation = p.state.router.generation :=
        hresolved.explains.loading path generation hview
      exact .inl ⟨path, by rw [← hcurrent]⟩
  | rendered path view => exact .inr (hview ▸ hshown (hview ▸ trivial))
  | error path message => exact .inr (hview ▸ hshown (hview ▸ trivial))

/-- A number that is held is superseded when another task is handed one. -/
theorem of_begin {m : Move} (hother : m.task ≠ i) {path : String} {next : Nat → Workflow World Unit}
    (hbegins : ((client.pool ops w).run moves).tasks[m.task]? = some (Router.begin path >>= next))
    (hrouter : w.router = {}) {task : Workflow World Unit} {generation : Nat}
    (htask : ((client.pool ops w).run (moves ++ [m])).tasks[i]? = some task)
    (hcourse : task.Course (.holding generation))
    (hheld : ∃ path, (i, .began path generation) ∈ (client.pool ops w).journal (moves ++ [m])) :
    Superseded client ops w i (moves ++ [m]) := by
  let p := (client.pool ops w).run moves
  have hcount : ((client.pool ops w).run (moves ++ [m])).state.router.generation =
      p.state.router.generation + 1 := by
    rw [Pool.run_append, Pool.run_cons, Pool.run_nil,
      (Pool.step_self hbegins (Workflow.begin_step path next)).2]
    rfl
  have hbefore : ∀ path' number,
      (i, .began path' number) ∈ (client.pool ops w).journal (moves ++ [m]) →
        number < p.state.router.generation + 1 := by
    intro path' number hmem
    have hentered : p.entered? m = some (.began path (p.state.router.generation + 1)) :=
      Pool.entered?_eq_some hbegins ⟨rfl, next, rfl⟩
    rw [Pool.journal_concat] at hmem
    rcases List.mem_append.1 hmem with hold | hnew
    · rcases exists_resolved client ops hrouter moves with ⟨held, hresolved⟩
      exact Nat.lt_succ_of_le (hresolved.tallies.began_le hold).2
    · -- The last entry is of the other task.
      have hentry : (i, PageSection.began path' number) =
          (m.task, .began path (p.state.router.generation + 1)) := by
        simpa [p, hentered] using hnew
      exact absurd (congrArg Prod.fst hentry).symm hother
  rcases hheld with ⟨path', hmem⟩
  exact ⟨⟨task, generation, htask, hcourse, hcount ▸ hbefore path' generation hmem⟩,
    fun path' number hmem => hcount ▸ hbefore path' number hmem⟩

end Superseded
end Client

/-! ## Redirects that come too late -/

/-- Let a navigation be under way among any operations of a client, over a router that has just been
made, and let another task be handed the next number.  However all of them go on, the navigation
leaves no trace any more, and the page that is shown is always one of another task, exactly if at
that moment it was not already on its way to start a resolution: then it had not yet looked whether
it is superseded, and will find that it is. -/
theorem late_redirect_is_dropped_iff (client : Client) (ops : List Operation) (login : Login)
    (events : List Event) (moves : List Move) {i : Nat} {location : String}
    (hop : ops[i]? = some (.navigate location)) {m : Move} (hother : m.task ≠ i) {path : String}
    {next : Nat → Workflow World Unit}
    (hbegins : ((client.pool ops { login, events }).run moves).tasks[m.task]? =
      some (Router.begin path >>= next)) :
    let start := client.pool ops { login, events }
    let p := start.run (moves ++ [m])
    ∃ task, p.tasks[i]? = some task ∧
      ((∀ since,
          (∀ turn : Move, turn.task = i →
            World.SameRoute (p.run since).state ((p.run since).step turn).state) ∧
          ∃ k, k ≠ i ∧
            (start.journal (moves ++ [m] ++ since)).PageIs (p.run since).state.router k) ↔
        ¬ task.Starts) := by
  intro start p
  rcases @Client.exists_course client ops { login, events } i location hop (moves ++ [m]) with
    ⟨task, phase, htask, hcourse, hheld⟩
  refine ⟨task, htask, fun hdropped hstarts => ?_, fun hwaits since => ?_⟩
  · -- Left to go on, it would take a number.
    rcases hstarts.exists_trace htask with ⟨since, htrace⟩
    exact htrace ((hdropped since).1 { task := i } rfl)
  · cases phase with
    | starting => exact absurd (hcourse.starts rfl) hwaits
    | holding generation =>
        have hsuperseded :
            Client.Superseded client ops { login, events } i (moves ++ [m] ++ since) :=
          (Client.Superseded.of_begin hother hbegins rfl htask hcourse
            (hheld generation rfl)).run since
        have hrun : start.run (moves ++ [m] ++ since) = p.run since := Pool.run_append ..
        rw [← hrun]
        exact ⟨fun turn hturn => (hsuperseded.turn hturn).1, hsuperseded.exists_page rfl⟩

/-- A client with one page that asks for a login. -/
def Client.gated : Client where
  settings := {}
  router :=
    { table :=
        { exact := [⟨"old", ⟨"/old", [.literal "old"]⟩, .static "old" "Old", true, none⟩]
          capturing := []
          notFound := .notFound }
      loginPath := "/login"
      gateway := ⟨"http://localhost/api", .auto⟩ }

/-- A navigation to a page that asks for a login has found that it is the latest, and has not acted
yet, when a later one is handed its number and shows its page.  Then it tells of the redirect, puts
the login page behind the later page in the history, takes a number and shows the login page. -/
theorem late_redirect_takes_over :
    let start := Client.gated.pool [.navigate "/old", .navigate "/new"] (.fresh (.working []))
    let p := start.run ([0, 0, 0, 0, 0, 1, 1, 1, 1, 1, 1].map fun i => { task := i })
    let q := p.run ([0, 0, 0, 0, 0, 0, 0].map fun i => { task := i })
    (p.state.router.history = ["/old", "/new"] ∧ p.state.router.generation = 2 ∧
        p.state.redirects = [] ∧ p.state.router.view.path? = some "/new") ∧
      q.state.router.history = ["/old", "/new", "/login"] ∧ q.state.router.generation = 3 ∧
        q.state.redirects = [("/old", "/login")] ∧ q.state.router.view.path? = some "/login" := by
  decide +kernel

theorem Router.begins_hop (router : Router) (raw : String) {α : Type}
    (f : Resolution → Workflow World α) :
    ∃ next, router.resolveOnce raw >>= f = begin (Location.parse raw).path >>= next := by
  unfold resolveOnce
  rw [Workflow.bind_assoc]
  exact ⟨_, rfl⟩

/-- The same navigation, one turn earlier when the later one is handed its number. -/
theorem unchecked_redirect_is_dropped :
    let start := Client.gated.pool [.navigate "/old", .navigate "/new"] (.fresh (.working []))
    let moves : List Move := [0, 0, 0, 0, 1].map fun i => { task := i }
    let p := start.run (moves ++ [{ task := 1 }])
    ∀ since,
      (∀ turn : Move, turn.task = 0 →
        World.SameRoute (p.run since).state ((p.run since).step turn).state) ∧
      ∃ k, k ≠ 0 ∧ (start.journal (moves ++ [{ task := 1 }] ++ since)).PageIs
        (p.run since).state.router k := by
  intro start moves p
  let router := Client.gated.router
  let finish : ViewState → Workflow World Unit := fun _ => pure ()
  have hlater : (start.run moves).tasks[1]? =
      some (router.resolveOnce "/new" >>= router.follow 3 "/new" >>= finish) := rfl
  have hearlier : p.tasks[0]? = some (router.sendToLogin 1 >>= router.follow 3 "/old" >>= finish) :=
    rfl
  rw [Workflow.bind_assoc] at hlater hearlier
  rcases router.begins_hop "/new" _ with ⟨next, hnext⟩
  rw [hnext] at hlater
  rcases late_redirect_is_dropped_iff Client.gated [.navigate "/old", .navigate "/new"]
      { store := .working [] } [] moves (i := 0) rfl (m := { task := 1 }) (by decide) hlater with
    ⟨task, htask, hdropped⟩
  cases hearlier.symm.trans htask
  have hdone : ∀ generation view, (finish view).Course (.holding generation) :=
    fun generation _ => .done generation ()
  have hcourse : (router.sendToLogin 1 >>= fun resolution =>
      router.follow 3 "/old" resolution >>= finish).Course (.holding 1) :=
    Router.sendToLogin_course hdone fun target =>
      Router.follow_course "/old" (Router.resolveWithin_course 3 target hdone)
  exact hdropped.2 hcourse.not_starts

end WebClient
