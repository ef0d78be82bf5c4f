import WebClient.Concurrent.Workflow

/-!
# Pool — tasks that take turns on one state

`Workflow.run` performs one workflow while nothing else happens.  In a pool any number of workflows
are under way at once: a schedule says whose turn it is, and each turn performs one atomic step or
lets one answer arrive.  Every order of steps is some schedule.

* `Pool.run` follows a schedule.
* `Pool.At` says which activity is under way at a place; turns of others leave it where it is.
* `Workflow.Guarantees R` says that every atomic step of a task is one that `R` allows;
  `Pool.run_induction` carries what `R` keeps along every schedule.
* `Pool.exists_schedule` finds the sequential run among the schedules.
-/

namespace WebClient

/-- Whose turn it is: a task, one of the activities that the task waits for, and what becomes of the
request if that activity waits for an answer. -/
structure Move where
  task : Nat
  part : Nat := 0
  outcome : Outcome := .dropped
  deriving DecidableEq, Repr

/-- Whether a move is a turn of a certain part of a certain task. -/
def Move.Of (m : Move) (i j : Nat) : Prop := m.task = i ∧ m.part = j

instance (m : Move) (i j : Nat) : Decidable (m.Of i j) :=
  inferInstanceAs (Decidable (m.task = i ∧ m.part = j))

/-! ## Turns of activities -/

namespace Activity

variable {σ α β : Type}

/-- One turn: an atomic step, or the arrival of an answer. -/
def step (outcome : Outcome) : Activity σ α → σ → Activity σ α × σ
  | .done a, s => (.done a, s)
  | .atomic update next, s => (next s, update s)
  | .exchange _ next, s => (next outcome, s)

/-- The result of an activity that has finished. -/
def result? : Activity σ α → Option α
  | .done a => some a
  | .atomic _ _ => none
  | .exchange _ _ => none

/-- The results of activities that have all finished. -/
def results? : List (Activity σ α) → Option (List α)
  | [] => some []
  | activity :: rest =>
    match activity.result?, results? rest with
    | some a, some as => some (a :: as)
    | _, _ => none

/-- Every atomic step of the activity is one that `R` allows. -/
def Guarantees (R : σ → σ → Prop) : Activity σ α → Prop
  | .done _ => True
  | .atomic update next => (∀ s, R s (update s)) ∧ ∀ s, (next s).Guarantees R
  | .exchange _ next => ∀ o, (next o).Guarantees R

theorem results?_eq_none {activities : List (Activity σ α)} {j : Nat} {activity : Activity σ α}
    (hj : activities[j]? = some activity) (hgoing : activity.result? = none) :
    results? activities = none := by
  -- The first activity that goes on keeps the whole list from having results.
  induction activities generalizing j with
  | nil => simp at hj
  | cons first rest ih =>
      cases j with
      | zero =>
          have hfirst : first = activity := by simpa using hj
          simp [results?, hfirst, hgoing]
      | succ j =>
          have hrest : results? rest = none := ih (by simpa using hj)
          simp [results?, hrest]

theorem results?_map_done (results : List α) :
    results? (results.map (.done : α → Activity σ α)) = some results := by
  induction results with
  | nil => rfl
  | cons a rest ih => simp [results?, result?, ih]

namespace Guarantees

variable {R R' : σ → σ → Prop}

theorem pure (a : α) : (Pure.pure a : Activity σ α).Guarantees R := trivial

theorem bind {activity : Activity σ α} {f : α → Activity σ β} (h : activity.Guarantees R)
    (hf : ∀ a, (f a).Guarantees R) : (activity >>= f).Guarantees R := by
  change (activity.bind f).Guarantees R
  induction activity with
  | done a => exact hf a
  | atomic update next ih => exact ⟨h.1, fun s => ih s (h.2 s)⟩
  | exchange request next ih => exact fun o => ih o (h o)

theorem modifyGet {f : σ → α × σ} (h : ∀ s, R s (f s).2) :
    (MonadStateOf.modifyGet f : Activity σ α).Guarantees R :=
  ⟨h, fun _ => trivial⟩

theorem send (request : Request) : (Activity.send request : Activity σ Outcome).Guarantees R :=
  fun _ => trivial

theorem mono {activity : Activity σ α} (h : activity.Guarantees R)
    (himp : ∀ s s', R s s' → R' s s') : activity.Guarantees R' := by
  induction activity with
  | done a => trivial
  | atomic update next ih => exact ⟨fun s => himp _ _ (h.1 s), fun s => ih s (h.2 s)⟩
  | exchange request next ih => exact fun o => ih o (h o)

/-- A turn is a step that `R` allows, and what remains gives the same guarantee. -/
theorem step {activity : Activity σ α} (h : activity.Guarantees R) (hrefl : ∀ s, R s s)
    (outcome : Outcome) (s : σ) :
    R s (activity.step outcome s).2 ∧ (activity.step outcome s).1.Guarantees R := by
  cases activity with
  | done a => exact ⟨hrefl s, trivial⟩
  | atomic update next => exact ⟨h.1 s, h.2 s⟩
  | exchange request next => exact ⟨hrefl s, h outcome⟩

end Guarantees
end Activity

/-! ## Turns of workflows -/

namespace Workflow

variable {σ α β : Type}

/-- One turn: an atomic step, or a turn of one of the activities that are waited for.  When all of
them have finished, the turn takes their results. -/
def step (part : Nat) (outcome : Outcome) : Workflow σ α → σ → Workflow σ α × σ
  | .done a, s => (.done a, s)
  | .atomic update next, s => (next s, update s)
  | .gather activities next, s =>
    match Activity.results? activities with
    | some replies => (next replies, s)
    | none =>
      match activities[part]? with
      | none => (.gather activities next, s)
      | some activity =>
        let (activity, s) := activity.step outcome s
        (.gather (activities.set part activity) next, s)

/-- Every atomic step of the workflow is one that `R` allows. -/
def Guarantees (R : σ → σ → Prop) : Workflow σ α → Prop
  | .done _ => True
  | .atomic update next => (∀ s, R s (update s)) ∧ ∀ s, (next s).Guarantees R
  | .gather activities next =>
    (∀ activity ∈ activities, activity.Guarantees R) ∧ ∀ replies, (next replies).Guarantees R

theorem single_bind (activity : Activity σ Reply) (next : Reply → Workflow σ α) :
    Workflow.single activity >>= next =
      .gather [activity] fun replies => next (replies.headD default) := rfl

theorem single_bind_pure (activity : Activity σ Reply) :
    Workflow.single activity >>= pure = Workflow.single activity := rfl

theorem step_gather {activities : List (Activity σ Reply)} {next : List Reply → Workflow σ α}
    {j : Nat} {activity : Activity σ Reply} (hj : activities[j]? = some activity)
    (hgoing : activity.result? = none) (outcome : Outcome) (s : σ) :
    (Workflow.gather activities next).step j outcome s =
      (.gather (activities.set j (activity.step outcome s).1) next,
        (activity.step outcome s).2) := by
  have hnone : Activity.results? activities = none := Activity.results?_eq_none hj hgoing
  simp [step, hnone, hj]

theorem step_gather_done {activities : List (Activity σ Reply)} {next : List Reply → Workflow σ α}
    {replies : List Reply} (h : Activity.results? activities = some replies) (j : Nat)
    (outcome : Outcome) (s : σ) :
    (Workflow.gather activities next).step j outcome s = (next replies, s) := by
  simp [step, h]

namespace Guarantees

variable {R R' : σ → σ → Prop}

theorem pure (a : α) : (Pure.pure a : Workflow σ α).Guarantees R := trivial

theorem bind {workflow : Workflow σ α} {f : α → Workflow σ β} (h : workflow.Guarantees R)
    (hf : ∀ a, (f a).Guarantees R) : (workflow >>= f).Guarantees R := by
  -- What follows is hung below every leaf of the tree.
  change (workflow.bind f).Guarantees R
  induction workflow with
  | done a => exact hf a
  | atomic update next ih => exact ⟨h.1, fun s => ih s (h.2 s)⟩
  | gather activities next ih => exact ⟨h.1, fun replies => ih replies (h.2 replies)⟩

theorem modifyGet {f : σ → α × σ} (h : ∀ s, R s (f s).2) :
    (MonadStateOf.modifyGet f : Workflow σ α).Guarantees R :=
  ⟨h, fun _ => trivial⟩

theorem all {activities : List (Activity σ Reply)}
    (h : ∀ activity ∈ activities, activity.Guarantees R) :
    (Workflow.all activities).Guarantees R :=
  ⟨h, fun _ => trivial⟩

theorem single {activity : Activity σ Reply} (h : activity.Guarantees R) :
    (Workflow.single activity).Guarantees R :=
  ⟨by simpa using h, fun _ => trivial⟩

theorem mono {workflow : Workflow σ α} (h : workflow.Guarantees R)
    (himp : ∀ s s', R s s' → R' s s') : workflow.Guarantees R' := by
  induction workflow with
  | done a => trivial
  | atomic update next ih => exact ⟨fun s => himp _ _ (h.1 s), fun s => ih s (h.2 s)⟩
  | gather activities next ih =>
      refine ⟨fun activity hmem => (h.1 activity hmem).mono himp, fun replies => ?_⟩
      exact ih replies (h.2 replies)

/-- A turn of activities that are waited for takes their results, or is a step of one of them. -/
theorem gather_step {activities : List (Activity σ Reply)} {next : List Reply → Workflow σ α}
    (h : ∀ activity ∈ activities, activity.Guarantees R) (hrefl : ∀ s, R s s) (part : Nat)
    (outcome : Outcome) (s : σ) :
    let turn := (Workflow.gather activities next).step part outcome s
    (∃ replies, turn = (next replies, s)) ∨
      ∃ activities', (∀ activity ∈ activities', activity.Guarantees R) ∧
        turn.1 = .gather activities' next ∧ R s turn.2 := by
  cases hresults : Activity.results? activities with
  | some replies => exact .inl ⟨replies, step_gather_done hresults part outcome s⟩
  | none =>
      cases hpart : activities[part]? with
      | none =>
          have hidle : (Workflow.gather activities next).step part outcome s =
              (.gather activities next, s) := by simp [Workflow.step, hresults, hpart]
          rw [hidle]
          exact .inr ⟨activities, h, rfl, hrefl s⟩
      | some activity =>
          have hactivity := (h activity (List.mem_of_getElem? hpart)).step hrefl outcome s
          have hturn : (Workflow.gather activities next).step part outcome s =
              (.gather (activities.set part (activity.step outcome s).1) next,
                (activity.step outcome s).2) := by simp [Workflow.step, hresults, hpart]
          rw [hturn]
          refine .inr ⟨_, ?_, rfl, hactivity.1⟩
          intro other hother
          rcases List.mem_or_eq_of_mem_set hother with hother | rfl
          · exact h other hother
          · exact hactivity.2

theorem step {workflow : Workflow σ α} (h : workflow.Guarantees R) (hrefl : ∀ s, R s s)
    (part : Nat) (outcome : Outcome) (s : σ) :
    R s (workflow.step part outcome s).2 ∧ (workflow.step part outcome s).1.Guarantees R := by
  cases workflow with
  | done a => exact ⟨hrefl s, trivial⟩
  | atomic update next => exact ⟨h.1 s, h.2 s⟩
  | gather activities next =>
      rcases gather_step h.1 hrefl part outcome s with
        ⟨replies, hturn⟩ | ⟨activities', hactivities, hrest, hstep⟩
      · rw [hturn]
        exact ⟨hrefl s, h.2 replies⟩
      · rw [hrest]
        exact ⟨hstep, hactivities, h.2⟩

end Guarantees
end Workflow

/-! ## Pools -/

/-- Tasks under way on one shared state. -/
structure Pool (σ α : Type) where
  tasks : List (Workflow σ α)
  state : σ

namespace Pool

variable {σ α : Type}

/-- One move; a task that does not exist has no turn. -/
def step (p : Pool σ α) (m : Move) : Pool σ α :=
  match p.tasks[m.task]? with
  | none => p
  | some task =>
    let (task, state) := task.step m.part m.outcome p.state
    { tasks := p.tasks.set m.task task, state }

/-- Follows a schedule. -/
def run (p : Pool σ α) (moves : List Move) : Pool σ α := moves.foldl step p

/-- Which activity is under way at a place: as a part of a task that waits for it. -/
def At (p : Pool σ α) (i j : Nat) (activity : Activity σ Reply) : Prop :=
  ∃ activities next,
    p.tasks[i]? = some (.gather activities next) ∧ activities[j]? = some activity

@[simp]
theorem run_nil (p : Pool σ α) : p.run [] = p := rfl

@[simp]
theorem run_cons (p : Pool σ α) (m : Move) (moves : List Move) :
    p.run (m :: moves) = (p.step m).run moves := rfl

@[simp]
theorem run_append (p : Pool σ α) (moves moves' : List Move) :
    p.run (moves ++ moves') = (p.run moves).run moves' := by
  simp [run]

/-- What a move does to the task whose turn it is. -/
theorem step_eq {p : Pool σ α} {m : Move} {task : Workflow σ α}
    (h : p.tasks[m.task]? = some task) :
    p.step m =
      { tasks := p.tasks.set m.task (task.step m.part m.outcome p.state).1
        state := (task.step m.part m.outcome p.state).2 } := by
  simp [step, h]

theorem step_self {p : Pool σ α} {m : Move} {task task' : Workflow σ α} {s : σ}
    (h : p.tasks[m.task]? = some task)
    (hturn : task.step m.part m.outcome p.state = (task', s)) :
    (p.step m).tasks[m.task]? = some task' ∧ (p.step m).state = s := by
  have hlt : m.task < p.tasks.length := (List.getElem?_eq_some_iff.1 h).1
  rw [step_eq h, hturn]
  exact ⟨List.getElem?_set_self hlt, rfl⟩

theorem step_absent {p : Pool σ α} {m : Move} (h : p.tasks[m.task]? = none) : p.step m = p := by
  simp [step, h]

theorem step_idle {p : Pool σ α} {m : Move} {task : Workflow σ α}
    (h : p.tasks[m.task]? = some task)
    (hturn : task.step m.part m.outcome p.state = (task, p.state)) : p.step m = p := by
  rcases List.getElem?_eq_some_iff.1 h with ⟨hlt, hget⟩
  have hsame : p.tasks.set m.task task = p.tasks := by
    rw [← hget]
    exact List.set_getElem_self hlt
  rw [step_eq h, hturn, hsame]

@[simp]
theorem length_tasks_step (p : Pool σ α) (m : Move) :
    (p.step m).tasks.length = p.tasks.length := by
  unfold step
  split <;> simp

@[simp]
theorem length_tasks_run (p : Pool σ α) (moves : List Move) :
    (p.run moves).tasks.length = p.tasks.length := by
  induction moves generalizing p with
  | nil => rfl
  | cons m moves ih => simp [ih]

theorem tasks_step_of_ne {p : Pool σ α} {m : Move} {i : Nat} (h : m.task ≠ i) :
    (p.step m).tasks[i]? = p.tasks[i]? := by
  unfold step
  split
  · rfl
  · exact List.getElem?_set_ne h

theorem tasks_run_of_ne {p : Pool σ α} {moves : List Move} {i : Nat}
    (h : ∀ m ∈ moves, m.task ≠ i) : (p.run moves).tasks[i]? = p.tasks[i]? := by
  induction moves generalizing p with
  | nil => rfl
  | cons m moves ih =>
      have hrest : ∀ m' ∈ moves, m'.task ≠ i := fun m' hm' => h m' (List.mem_cons_of_mem m hm')
      calc
        ((p.step m).run moves).tasks[i]? = (p.step m).tasks[i]? := ih hrest
        _ = p.tasks[i]? := tasks_step_of_ne (h m List.mem_cons_self)

/-- A task that has turns has a first one. -/
theorem exists_first_turn {i : Nat} {moves : List Move} (h : ∃ m ∈ moves, m.task = i) :
    ∃ others m rest, moves = others ++ m :: rest ∧ (∀ m' ∈ others, m'.task ≠ i) ∧ m.task = i := by
  have hfound : (moves.find? (·.task = i)).isSome := by
    simpa [List.find?_isSome] using h
  rcases Option.isSome_iff_exists.1 hfound with ⟨m, hm⟩
  rcases List.find?_eq_some_iff_append.1 hm with ⟨htask, others, rest, rfl, hothers⟩
  exact ⟨others, m, rest, rfl, by simpa using hothers, by simpa using htask⟩

/-- A task that is not where it was has had a turn. -/
theorem exists_turn_of_ne {p : Pool σ α} {i : Nat} {moves : List Move}
    (h : (p.run moves).tasks[i]? ≠ p.tasks[i]?) :
    ∃ others m rest, moves = others ++ m :: rest ∧ (∀ m' ∈ others, m'.task ≠ i) ∧ m.task = i := by
  refine exists_first_turn (Classical.byContradiction fun hnone => ?_)
  exact h (tasks_run_of_ne fun m hm htask => hnone ⟨m, hm, htask⟩)

/-! ## Activities at their places -/

theorem At.step_self {p : Pool σ α} {i j : Nat} {activity : Activity σ Reply} {m : Move}
    (h : p.At i j activity) (hgoing : activity.result? = none) (hm : m.Of i j) :
    (p.step m).At i j (activity.step m.outcome p.state).1 ∧
      (p.step m).state = (activity.step m.outcome p.state).2 := by
  rcases h with ⟨activities, next, htask, hpart⟩
  rcases hm with ⟨rfl, rfl⟩
  have hstep : (Workflow.gather activities next).step m.part m.outcome p.state = _ :=
    Workflow.step_gather hpart hgoing m.outcome p.state
  rw [step_eq htask, hstep]
  refine ⟨⟨activities.set m.part (activity.step m.outcome p.state).1, next, ?_, ?_⟩, rfl⟩
  · have hlt : m.task < p.tasks.length := (List.getElem?_eq_some_iff.1 htask).1
    simp [hlt]
  · have hlt : m.part < activities.length := (List.getElem?_eq_some_iff.1 hpart).1
    simp [hlt]

theorem At.step_other {p : Pool σ α} {i j : Nat} {activity : Activity σ Reply} {m : Move}
    (h : p.At i j activity) (hgoing : activity.result? = none) (hm : ¬ m.Of i j) :
    (p.step m).At i j activity := by
  rcases h with ⟨activities, next, htask, hpart⟩
  -- In the same task the activity cannot be swept away by the taking of results: it goes on.
  by_cases htaskEq : m.task = i
  · subst htaskEq
    have hpartNe : m.part ≠ j := fun hj => hm ⟨rfl, hj⟩
    have hnone : Activity.results? activities = none := Activity.results?_eq_none hpart hgoing
    have hlt : m.task < p.tasks.length := (List.getElem?_eq_some_iff.1 htask).1
    rw [step_eq htask]
    cases hother : activities[m.part]? with
    | none =>
        refine ⟨activities, next, ?_, hpart⟩
        simp [Workflow.step, hnone, hother, hlt]
    | some other =>
        refine ⟨activities.set m.part (other.step m.outcome p.state).1, next, ?_, ?_⟩
        · simp [Workflow.step, hnone, hother, hlt]
        · rw [List.getElem?_set_ne hpartNe, hpart]
  · exact ⟨activities, next, by rw [tasks_step_of_ne htaskEq, htask], hpart⟩

theorem At.run_others {p : Pool σ α} {i j : Nat} {activity : Activity σ Reply}
    {moves : List Move} (h : p.At i j activity) (hgoing : activity.result? = none)
    (hmoves : ∀ m ∈ moves, ¬ m.Of i j) : (p.run moves).At i j activity := by
  induction moves generalizing p with
  | nil => exact h
  | cons m moves ih =>
      have hstep := h.step_other hgoing (hmoves m List.mem_cons_self)
      exact ih hstep fun m' hm' => hmoves m' (List.mem_cons_of_mem m hm')

/-! ## Tasks that wait for one activity -/

section Single

variable {p : Pool σ α} {i : Nat} {activity : Activity σ Reply} {next : Reply → Workflow σ α}
  {m : Move}

theorem single_step (h : p.tasks[i]? = some (Workflow.single activity >>= next))
    (hgoing : activity.result? = none) (hm : m.Of i 0) :
    (p.step m).tasks[i]? =
        some (Workflow.single (activity.step m.outcome p.state).1 >>= next) ∧
      (p.step m).state = (activity.step m.outcome p.state).2 := by
  rcases hm with ⟨rfl, hpart⟩
  have hturn : (Workflow.single activity >>= next).step m.part m.outcome p.state =
      (Workflow.single (activity.step m.outcome p.state).1 >>= next,
        (activity.step m.outcome p.state).2) := by
    rw [hpart]
    exact Workflow.step_gather (List.getElem?_cons_zero) hgoing m.outcome p.state
  exact step_self h hturn

theorem single_idle (h : p.tasks[i]? = some (Workflow.single activity >>= next))
    (hgoing : activity.result? = none) (hm : m.task = i) (hpart : m.part ≠ 0) : p.step m = p := by
  subst hm
  -- A task that waits for one activity has no other part that could take a turn.
  have hnone : Activity.results? [activity] = none := Activity.results?_eq_none (j := 0) rfl hgoing
  have hout : [activity][m.part]? = none := by
    rw [List.getElem?_eq_none_iff, List.length_singleton]
    omega
  have hturn : (Workflow.single activity >>= next).step m.part m.outcome p.state =
      (Workflow.single activity >>= next, p.state) := by
    simp [Workflow.single_bind, Workflow.step, hnone, hout]
  exact step_idle h hturn

theorem single_run_others (h : p.tasks[i]? = some (Workflow.single activity >>= next))
    (hgoing : activity.result? = none) {moves : List Move} (hmoves : ∀ m ∈ moves, ¬ m.Of i 0) :
    (p.run moves).tasks[i]? = some (Workflow.single activity >>= next) := by
  induction moves generalizing p with
  | nil => exact h
  | cons m moves ih =>
      refine ih ?_ fun m' hm' => hmoves m' (List.mem_cons_of_mem m hm')
      by_cases htask : m.task = i
      · have hpart : m.part ≠ 0 := fun hpart => hmoves m List.mem_cons_self ⟨htask, hpart⟩
        rw [single_idle h hgoing htask hpart]
        exact h
      · rw [tasks_step_of_ne htask, h]

theorem single_done {reply : Reply}
    (h : p.tasks[i]? = some (Workflow.single (.done reply) >>= next)) (hm : m.task = i) :
    (p.step m).tasks[i]? = some (next reply) ∧ (p.step m).state = p.state := by
  subst hm
  have hresults : Activity.results? [(.done reply : Activity σ Reply)] = some [reply] := rfl
  have hturn : (Workflow.single (.done reply) >>= next).step m.part m.outcome p.state =
      (next reply, p.state) := by
    rw [Workflow.single_bind, Workflow.step_gather_done hresults]
    rfl
  exact step_self h hturn

end Single

/-! ## What every schedule keeps -/

section Guarantees

variable {R : σ → σ → Prop} (hrefl : ∀ s, R s s)

include hrefl

theorem step_guarantees {p : Pool σ α} (h : ∀ task ∈ p.tasks, task.Guarantees R) (m : Move) :
    R p.state (p.step m).state ∧ ∀ task ∈ (p.step m).tasks, task.Guarantees R := by
  cases htask : p.tasks[m.task]? with
  | none =>
      have hstep : p.step m = p := by simp [step, htask]
      rw [hstep]
      exact ⟨hrefl _, h⟩
  | some task =>
      have hturn := (h task (List.mem_of_getElem? htask)).step hrefl m.part m.outcome p.state
      rw [step_eq htask]
      refine ⟨hturn.1, ?_⟩
      intro other hother
      rcases List.mem_or_eq_of_mem_set hother with hother | rfl
      · exact h other hother
      · exact hturn.2

theorem run_guarantees {p : Pool σ α} (h : ∀ task ∈ p.tasks, task.Guarantees R)
    (moves : List Move) : ∀ task ∈ (p.run moves).tasks, task.Guarantees R := by
  induction moves generalizing p with
  | nil => exact h
  | cons m moves ih => exact ih (step_guarantees hrefl h m).2

/-- A task gives its guarantee on, whatever becomes of the others. -/
theorem run_guarantees_at {p : Pool σ α} {i : Nat}
    (h : ∀ task, p.tasks[i]? = some task → task.Guarantees R) (moves : List Move) :
    ∀ task, (p.run moves).tasks[i]? = some task → task.Guarantees R := by
  induction moves generalizing p with
  | nil => exact h
  | cons m moves ih =>
      refine ih fun task htask => ?_
      by_cases hm : m.task = i
      · subst hm
        cases hbefore : p.tasks[m.task]? with
        | none => simp [step, hbefore] at htask
        | some before =>
            rw [(step_self hbefore rfl).1] at htask
            exact Option.some.inj htask ▸ ((h before hbefore).step hrefl _ _ _).2
      · exact h task ((tasks_step_of_ne hm).symm.trans htask)

/-- What every allowed step keeps holds after every schedule. -/
theorem run_induction {Inv : σ → Prop} {p : Pool σ α} (h : ∀ task ∈ p.tasks, task.Guarantees R)
    (hkeep : ∀ s s', R s s' → Inv s → Inv s') (hp : Inv p.state) (moves : List Move) :
    Inv (p.run moves).state := by
  induction moves generalizing p with
  | nil => exact hp
  | cons m moves ih =>
      have hstep := step_guarantees hrefl h m
      exact ih hstep.2 (hkeep _ _ hstep.1 hp)

end Guarantees

/-! ## The sequential run is a schedule -/

section Sequential

variable (backend : Backend)

private def waiting (activities : List (Activity σ Reply)) (next : List Reply → Workflow σ α)
    (s : σ) : Pool σ α :=
  ⟨[.gather activities next], s⟩

private theorem waiting_step {pre post : List (Activity σ Reply)}
    {next : List Reply → Workflow σ α} {activity : Activity σ Reply}
    (hgoing : activity.result? = none) (o : Outcome) (s : σ) :
    (waiting (pre ++ activity :: post) next s).step ⟨0, pre.length, o⟩ =
      waiting (pre ++ (activity.step o s).1 :: post) next (activity.step o s).2 := by
  have hj : (pre ++ activity :: post)[pre.length]? = some activity := by simp
  have htask : (waiting (pre ++ activity :: post) next s).tasks[(⟨0, pre.length, o⟩ : Move).task]? =
      some (.gather (pre ++ activity :: post) next) := rfl
  rw [step_eq htask]
  simp [waiting, Workflow.step_gather hj hgoing]

private theorem exists_schedule_launch (activity : Activity σ Reply)
    (pre post : List (Activity σ Reply)) (next : List Reply → Workflow σ α) (w : Wired σ) :
    ∃ moves, (waiting (pre ++ activity :: post) next w.state).run moves =
      waiting (pre ++ (activity.launch backend w).1 :: post) next
        (activity.launch backend w).2.state := by
  induction activity generalizing w with
  | done a => exact ⟨[], rfl⟩
  | atomic update rest ih =>
      rcases ih w.state { w with state := update w.state } with ⟨moves, hmoves⟩
      refine ⟨⟨0, pre.length, .dropped⟩ :: moves, ?_⟩
      rw [run_cons, waiting_step rfl]
      exact hmoves
  | exchange request rest ih =>
      refine ⟨[⟨0, pre.length, backend w.sent request⟩], ?_⟩
      rw [run_cons, waiting_step rfl]
      rfl

private theorem exists_schedule_finish (activity : Activity σ Reply)
    (pre post : List (Activity σ Reply)) (next : List Reply → Workflow σ α) (w : Wired σ) :
    ∃ moves, (waiting (pre ++ activity :: post) next w.state).run moves =
      waiting (pre ++ .done (activity.run backend w).1 :: post) next
        (activity.run backend w).2.state := by
  induction activity generalizing w with
  | done a => exact ⟨[], rfl⟩
  | atomic update rest ih =>
      rcases ih w.state { w with state := update w.state } with ⟨moves, hmoves⟩
      refine ⟨⟨0, pre.length, .dropped⟩ :: moves, ?_⟩
      rw [run_cons, waiting_step rfl]
      exact hmoves
  | exchange request rest ih =>
      rcases ih (backend w.sent request) { w with sent := w.sent ++ [request] } with ⟨moves, hmoves⟩
      refine ⟨⟨0, pre.length, backend w.sent request⟩ :: moves, ?_⟩
      rw [run_cons, waiting_step rfl]
      exact hmoves

private theorem exists_schedule_launchAll (activities pre : List (Activity σ Reply))
    (next : List Reply → Workflow σ α) (w : Wired σ) :
    ∃ moves, (waiting (pre ++ activities) next w.state).run moves =
      waiting (pre ++ (Activity.launchAll backend activities w).1) next
        (Activity.launchAll backend activities w).2.state := by
  induction activities generalizing pre w with
  | nil => exact ⟨[], rfl⟩
  | cons activity activities ih =>
      rcases exists_schedule_launch backend activity pre activities next w with ⟨moves, hmoves⟩
      rcases ih (pre ++ [(activity.launch backend w).1]) (activity.launch backend w).2 with
        ⟨moves', hmoves'⟩
      refine ⟨moves ++ moves', ?_⟩
      rw [run_append, hmoves]
      simpa [Activity.launchAll] using hmoves'

private theorem exists_schedule_runAll (activities : List (Activity σ Reply)) (results : List Reply)
    (next : List Reply → Workflow σ α) (w : Wired σ) :
    ∃ moves, (waiting (results.map .done ++ activities) next w.state).run moves =
      waiting ((results ++ (Activity.runAll backend activities w).1).map .done) next
        (Activity.runAll backend activities w).2.state := by
  induction activities generalizing results w with
  | nil => exact ⟨[], by simp [Activity.runAll]⟩
  | cons activity activities ih =>
      rcases exists_schedule_finish backend activity (results.map .done) activities next w with
        ⟨moves, hmoves⟩
      rcases ih (results ++ [(activity.run backend w).1]) (activity.run backend w).2 with
        ⟨moves', hmoves'⟩
      refine ⟨moves ++ moves', ?_⟩
      rw [run_append, hmoves]
      simpa [Activity.runAll] using hmoves'

/-- Whatever a workflow comes to while nothing else happens, some schedule of its pool comes to. -/
theorem exists_schedule (workflow : Workflow σ α) (w : Wired σ) :
    ∃ moves, (⟨[workflow], w.state⟩ : Pool σ α).run moves =
      ⟨[.done (workflow.run backend w).1], (workflow.run backend w).2.state⟩ := by
  induction workflow generalizing w with
  | done a => exact ⟨[], rfl⟩
  | atomic update next ih =>
      rcases ih w.state { w with state := update w.state } with ⟨moves, hmoves⟩
      exact ⟨⟨0, 0, .dropped⟩ :: moves, hmoves⟩
  | gather activities next ih =>
      let launched := Activity.launchAll backend activities w
      let finished := Activity.runAll backend launched.1 launched.2
      rcases exists_schedule_launchAll backend activities [] next w with ⟨launching, hlaunching⟩
      rcases exists_schedule_runAll backend launched.1 [] next launched.2 with
        ⟨finishing, hfinishing⟩
      rcases ih finished.1 finished.2 with ⟨moves, hmoves⟩
      refine ⟨launching ++ finishing ++ ⟨0, 0, .dropped⟩ :: moves, ?_⟩
      have hresults : Activity.results? (finished.1.map (.done : Reply → Activity σ Reply)) =
          some finished.1 := Activity.results?_map_done _
      have hwaiting : (⟨[.gather activities next], w.state⟩ : Pool σ α).run
          (launching ++ finishing) = waiting (finished.1.map .done) next finished.2.state := by
        rw [run_append]
        refine (congrArg (fun p => run p finishing) hlaunching).trans ?_
        simpa [launched, finished] using hfinishing
      have htaken : (waiting (finished.1.map .done) next finished.2.state).step ⟨0, 0, .dropped⟩ =
          ⟨[next finished.1], finished.2.state⟩ := by
        simp [step, waiting, Workflow.step_gather_done hresults]
      rw [run_append, hwaiting, run_cons, htaken, hmoves]
      rfl

end Sequential
end Pool
end WebClient
