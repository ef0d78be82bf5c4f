import WebClient.Proofs.Resolution

/-!
# Turns — what one task does, whatever others do

A task of a pool finds a state in each of its turns and leaves one.  What it finds next may be
anything, since others have turns in between; a task that is by itself finds what it has left.

* `Workflow.Comes` says which turns lead a task to which result, and `Workflow.Ends` what its result
  can be in any case.
* `Pool.turns` are the turns of a task in a run: `Pool.turns_cases` says that they are the turns of
  its workflow, up to the moment when it is over or up to now.
* `Workflow.Leads` says where a task leads that is by itself, and to what result;
  `Pool.leads_of_only` that the only task of a pool is by itself.
* `Pool.exists_moves`: among other tasks, a task can have any turns that lead it to a result.
-/

namespace WebClient

/-- Turns of a task: in each, the state that it finds and the state that it leaves. -/
abbrev Turns (σ : Type) := List (σ × σ)

/-! ## The turns that lead to a result -/

namespace Workflow

variable {σ α β : Type}

/-- Whether a task that has these turns comes to this result, and has come to it in the last of
them. -/
inductive Comes : Workflow σ α → Turns σ → α → Prop where
  | done (a : α) : Comes (.done a) [] a
  | atomic {update : σ → σ} {next : σ → Workflow σ α} {s : σ} {turns : Turns σ} {a : α}
      (h : Comes (next s) turns a) : Comes (.atomic update next) ((s, update s) :: turns) a
  | gather {activities : List (Activity σ Reply)} {next : List Reply → Workflow σ α} {s s' : σ}
      {part : Nat} {outcome : Outcome} {task : Workflow σ α} {turns : Turns σ} {a : α}
      (hturn : (Workflow.gather activities next).step part outcome s = (task, s'))
      (h : Comes task turns a) : Comes (.gather activities next) ((s, s') :: turns) a

variable {turns : Turns σ} {a b : α} {update : σ → σ} {next : σ → Workflow σ α}

theorem comes_pure_iff : (pure a : Workflow σ α).Comes turns b ↔ turns = [] ∧ b = a := by
  constructor
  · intro h
    cases h with
    | done => exact ⟨rfl, rfl⟩
  · rintro ⟨rfl, rfl⟩
    exact .done _

theorem comes_atomic_iff :
    (Workflow.atomic update next).Comes turns a ↔
      ∃ s rest, turns = (s, update s) :: rest ∧ (next s).Comes rest a := by
  constructor
  · intro h
    cases h with
    | atomic h => exact ⟨_, _, rfl, h⟩
  · rintro ⟨s, rest, rfl, h⟩
    exact .atomic h

theorem comes_modifyGet_iff {f : σ → α × σ} :
    (MonadStateOf.modifyGet f : Workflow σ α).Comes turns a ↔
      ∃ s, turns = [(s, (f s).2)] ∧ a = (f s).1 := by
  refine comes_atomic_iff.trans ?_
  constructor
  · rintro ⟨s, rest, rfl, h⟩
    rcases comes_pure_iff.1 h with ⟨rfl, rfl⟩
    exact ⟨s, rfl, rfl⟩
  · rintro ⟨s, rfl, rfl⟩
    exact ⟨s, [], rfl, .done _⟩

/-- As long as a task goes on, what follows on it waits. -/
theorem step_bind (workflow : Workflow σ α) (f : α → Workflow σ β)
    (hgoing : ∀ a, workflow ≠ .done a) (part : Nat) (outcome : Outcome) (s : σ) :
    (workflow >>= f).step part outcome s =
      ((workflow.step part outcome s).1 >>= f, (workflow.step part outcome s).2) := by
  cases workflow with
  | done a => exact absurd rfl (hgoing a)
  | atomic update next => rfl
  | gather activities next =>
      change (Workflow.gather activities fun replies => (next replies).bind f).step part outcome s =
        (((Workflow.gather activities next).step part outcome s).1.bind f, _)
      simp only [step]
      cases Activity.results? activities with
      | some replies => rfl
      | none => cases activities[part]? <;> rfl

/-- A sequence has the turns of its parts, one after the other. -/
theorem comes_bind_iff {workflow : Workflow σ α} {f : α → Workflow σ β} {b : β} :
    (workflow >>= f).Comes turns b ↔
      ∃ first a rest, turns = first ++ rest ∧ workflow.Comes first a ∧ (f a).Comes rest b := by
  constructor
  · intro h
    generalize hwhole : workflow >>= f = whole at h
    -- The induction is on the turns; as long as the first part goes on, they are turns of it.
    induction h generalizing workflow with
    | done b =>
        cases workflow with
        | done a =>
            have hrest : f a = .done b := hwhole
            exact ⟨[], a, [], rfl, .done a, hrest ▸ .done b⟩
        | atomic update next => cases hwhole
        | gather activities next => cases hwhole
    | atomic h ih =>
        cases workflow with
        | done a =>
            have hrest : f a = .atomic _ _ := hwhole
            exact ⟨[], a, _, rfl, .done a, hrest ▸ .atomic h⟩
        | atomic update next =>
            cases hwhole
            rcases ih rfl with ⟨first, a, rest, rfl, hfirst, hrest⟩
            exact ⟨_ :: first, a, rest, rfl, .atomic hfirst, hrest⟩
        | gather activities next => cases hwhole
    | @gather activities next s s' part outcome task turns b hturn h ih =>
        cases workflow with
        | done a =>
            have hrest : f a = .gather activities next := hwhole
            exact ⟨[], a, _, rfl, .done a, hrest ▸ .gather hturn h⟩
        | atomic update next => cases hwhole
        | gather activities' next' =>
            cases hwhole
            have hstep : (task, s') = _ :=
              hturn.symm.trans (step_bind (.gather activities next') f nofun part outcome s)
            rcases Prod.mk.inj hstep with ⟨htask, rfl⟩
            rcases ih htask.symm with ⟨first, a, rest, rfl, hfirst, hrest⟩
            exact ⟨_ :: first, a, rest, rfl, .gather rfl hfirst, hrest⟩
  · rintro ⟨first, a, rest, rfl, hfirst, hrest⟩
    induction hfirst with
    | done a => exact hrest
    | atomic h ih => exact .atomic (ih hrest)
    | @gather activities next s s' part outcome task turns a hturn h ih =>
        have hstep := step_bind (.gather activities next) f nofun part outcome s
        rw [hturn] at hstep
        exact .gather hstep (ih hrest)

/-- What a task guarantees of its steps holds in each of its turns. -/
theorem Comes.guaranteed {R : σ → σ → Prop} {workflow : Workflow σ α}
    (h : workflow.Comes turns a) (hrefl : ∀ s, R s s) (hguarantees : workflow.Guarantees R) :
    ∀ turn ∈ turns, R turn.1 turn.2 := by
  induction h with
  | done a => exact nofun
  | @atomic update next s turns a h ih =>
      exact List.forall_mem_cons.2 ⟨hguarantees.1 s, ih (hguarantees.2 s)⟩
  | @gather activities next s s' part outcome task turns a hturn h ih =>
      have hstep := hguarantees.step hrefl part outcome s
      rw [hturn] at hstep
      exact List.forall_mem_cons.2 ⟨hstep.1, ih hstep.2⟩

/-! ## What a result can be -/

/-- Whether every result of a task is in `Q`, whatever it finds and whatever it is replied. -/
def Ends (Q : α → Prop) : Workflow σ α → Prop
  | .done a => Q a
  | .atomic _ next => ∀ s, (next s).Ends Q
  | .gather _ next => ∀ replies, (next replies).Ends Q

namespace Ends

variable {Q Q' : α → Prop} {workflow : Workflow σ α}

theorem of_forall (h : ∀ a, Q a) : workflow.Ends Q := by
  induction workflow with
  | done a => exact h a
  | atomic update next ih => exact fun s => ih s
  | gather activities next ih => exact fun replies => ih replies

theorem mono (h : workflow.Ends Q) (himp : ∀ a, Q a → Q' a) : workflow.Ends Q' := by
  induction workflow with
  | done a => exact himp a h
  | atomic update next ih => exact fun s => ih s (h s)
  | gather activities next ih => exact fun replies => ih replies (h replies)

theorem bind {P : β → Prop} {f : α → Workflow σ β} (h : workflow.Ends Q)
    (hf : ∀ a, Q a → (f a).Ends P) : (workflow >>= f).Ends P := by
  change (workflow.bind f).Ends P
  induction workflow with
  | done a => exact hf a h
  | atomic update next ih => exact fun s => ih s (h s)
  | gather activities next ih => exact fun replies => ih replies (h replies)

/-- What comes first may come to anything. -/
theorem after {P : β → Prop} {f : α → Workflow σ β} (hf : ∀ a, (f a).Ends P) :
    (workflow >>= f).Ends P :=
  bind (of_forall (Q := fun _ => True) fun _ => trivial) fun a _ => hf a

/-- What follows on a task matters for the results only that the task can have. -/
theorem bind_congr {f g : α → Workflow σ β} (h : workflow.Ends Q) (hfg : ∀ a, Q a → f a = g a) :
    workflow >>= f = workflow >>= g := by
  change workflow.bind f = workflow.bind g
  induction workflow with
  | done a => exact hfg a h
  | atomic update next ih =>
      exact congrArg (Workflow.atomic update) (funext fun s => ih s (h s))
  | gather activities next ih =>
      exact congrArg (Workflow.gather activities) (funext fun replies => ih replies (h replies))

theorem step (h : workflow.Ends Q) (part : Nat) (outcome : Outcome) (s : σ) :
    (workflow.step part outcome s).1.Ends Q := by
  cases workflow with
  | done a => exact h
  | atomic update next => exact h s
  | gather activities next =>
      simp only [Workflow.step]
      split
      · exact h _
      · split <;> exact h

end Ends

theorem Comes.ends {Q : α → Prop} {workflow : Workflow σ α} (h : workflow.Comes turns a)
    (hends : workflow.Ends Q) : Q a := by
  induction h with
  | done a => exact hends
  | @atomic update next s turns a h ih => exact ih (hends s)
  | @gather activities next s s' part outcome task turns a hturn h ih =>
      have hstep := hends.step part outcome s
      rw [hturn] at hstep
      exact ih hstep

end Workflow

/-! ## Turns in a pool -/

namespace Pool

variable {σ α β : Type} {p : Pool σ α} {i : Nat} {workflow : Workflow σ β}
  {next : β → Workflow σ α}

/-- The turns of a task in a run. -/
def turns (p : Pool σ α) (i : Nat) : List Move → Turns σ
  | [] => []
  | m :: moves =>
    (if m.task = i then [(p.state, (p.step m).state)] else []) ++ (p.step m).turns i moves

theorem turns_append (p : Pool σ α) (i : Nat) (moves moves' : List Move) :
    p.turns i (moves ++ moves') = p.turns i moves ++ (p.run moves).turns i moves' := by
  induction moves generalizing p with
  | nil => rfl
  | cons m moves ih => simp [turns, ih]

/-- A task that is over changes nothing. -/
theorem turns_of_done {a : α} (hdone : p.tasks[i]? = some (.done a)) (moves : List Move) :
    ∀ turn ∈ p.turns i moves, turn.2 = turn.1 := by
  induction moves generalizing p with
  | nil => exact nofun
  | cons m moves ih =>
      by_cases hm : m.task = i
      · subst hm
        have hidle : p.step m = p := step_idle hdone rfl
        simpa [turns, hidle] using ih hdone
      · simpa [turns, hm] using ih ((tasks_step_of_ne hm).trans hdone)

/-- In a run, either a task has had turns of its first part only, and whatever leads the part from
there to a result, completes them; or at some moment the part has come to its result. -/
theorem turns_cases (htask : p.tasks[i]? = some (workflow >>= next)) (moves : List Move) :
    (∃ left : Workflow σ β, (p.run moves).tasks[i]? = some (left >>= next) ∧
        ∀ more b, left.Comes more b → workflow.Comes (p.turns i moves ++ more) b) ∨
      ∃ seen rest b, moves = seen ++ rest ∧ workflow.Comes (p.turns i seen) b ∧
        (p.run seen).tasks[i]? = some (next b) := by
  -- Move by move, with what is left of the part: the turns of others leave it as it is.
  induction moves generalizing p workflow with
  | nil => exact .inl ⟨workflow, htask, fun more b h => h⟩
  | cons m moves ih =>
      by_cases hm : m.task = i
      · subst hm
        by_cases hdone : ∃ b, workflow = .done b
        · rcases hdone with ⟨b, rfl⟩
          exact .inr ⟨[], m :: moves, b, rfl, .done b, htask⟩
        · have hstep := Workflow.step_bind workflow next (not_exists.1 hdone) m.part m.outcome
            p.state
          have hself := step_self htask hstep
          have hfound : ∀ turns b, (workflow.step m.part m.outcome p.state).1.Comes turns b →
              workflow.Comes ((p.state, (p.step m).state) :: turns) b := by
            intro turns b h
            rw [hself.2]
            cases workflow with
            | done b => exact absurd ⟨b, rfl⟩ hdone
            | atomic update next => exact .atomic h
            | gather activities next => exact .gather rfl h
          rcases ih hself.1 with ⟨left, hleft, hmore⟩ | ⟨seen, rest, b, rfl, hseen, hnext⟩
          · refine .inl ⟨left, hleft, fun more b h => ?_⟩
            simpa [turns] using hfound _ b (hmore more b h)
          · exact .inr ⟨m :: seen, rest, b, rfl, by simpa [turns] using hfound _ b hseen, hnext⟩
      · have hother : (p.step m).tasks[i]? = some (workflow >>= next) :=
          (tasks_step_of_ne hm).trans htask
        rcases ih hother with ⟨left, hleft, hmore⟩ | ⟨seen, rest, b, rfl, hseen, hnext⟩
        · exact .inl ⟨left, hleft, by simpa [turns, hm] using hmore⟩
        · exact .inr ⟨m :: seen, rest, b, rfl, by simpa [turns, hm] using hseen, hnext⟩

end Pool

/-- There are turns that lead a task to a result. -/
theorem Workflow.exists_comes {σ α : Type} (workflow : Workflow σ α) (s : σ) :
    ∃ turns a, workflow.Comes turns a := by
  rcases Pool.exists_schedule Backend.unreachable workflow ⟨s, []⟩ with ⟨moves, hmoves⟩
  have htask : (⟨[workflow], s⟩ : Pool σ α).tasks[0]? = some (workflow >>= pure) := by
    simp [Workflow.bind_pure]
  rcases Pool.turns_cases htask moves with ⟨left, hleft, hmore⟩ | ⟨seen, rest, a, -, hseen, -⟩
  · rw [hmoves, Workflow.bind_pure] at hleft
    have hdone : .done (workflow.run Backend.unreachable ⟨s, []⟩).1 = left := by simpa using hleft
    exact ⟨_, _, hmore [] (workflow.run Backend.unreachable ⟨s, []⟩).1 (hdone ▸ .done _)⟩
  · exact ⟨_, a, hseen⟩

/-! ## A task by itself -/

/-- Whether turns follow on each other: each finds the state that the one before it has left. -/
def Chained {σ : Type} : σ → Turns σ → σ → Prop
  | s, [], s' => s' = s
  | s, turn :: rest, s' => turn.1 = s ∧ Chained turn.2 rest s'

theorem chained_append {σ : Type} {s s' : σ} {first rest : Turns σ} :
    Chained s (first ++ rest) s' ↔ ∃ middle, Chained s first middle ∧ Chained middle rest s' := by
  induction first generalizing s with
  | nil => simp [Chained]
  | cons turn first ih => simp [Chained, ih, and_assoc]

namespace Workflow

variable {σ α β : Type} {workflow : Workflow σ α} {f : α → Workflow σ β} {s s' : σ} {a b : α}

/-- Whether a task that is by itself leads from one state to another, and comes to this result. -/
def Leads (workflow : Workflow σ α) (s : σ) (a : α) (s' : σ) : Prop :=
  ∃ turns, workflow.Comes turns a ∧ Chained s turns s'

theorem leads_pure_iff : (pure a : Workflow σ α).Leads s b s' ↔ b = a ∧ s' = s := by
  constructor
  · rintro ⟨turns, hcomes, hchained⟩
    rcases comes_pure_iff.1 hcomes with ⟨rfl, rfl⟩
    exact ⟨rfl, hchained⟩
  · rintro ⟨rfl, rfl⟩
    exact ⟨[], .done _, rfl⟩

theorem leads_modifyGet_iff {f : σ → α × σ} :
    (MonadStateOf.modifyGet f : Workflow σ α).Leads s a s' ↔ a = (f s).1 ∧ s' = (f s).2 := by
  constructor
  · rintro ⟨turns, hcomes, hchained⟩
    rcases comes_modifyGet_iff.1 hcomes with ⟨found, rfl, rfl⟩
    rcases hchained with ⟨rfl, rfl⟩
    exact ⟨rfl, rfl⟩
  · rintro ⟨rfl, rfl⟩
    exact ⟨_, comes_modifyGet_iff.2 ⟨s, rfl, rfl⟩, rfl, rfl⟩

/-- A sequence leads where its parts lead, one after the other. -/
theorem leads_bind_iff {b : β} :
    (workflow >>= f).Leads s b s' ↔
      ∃ a middle, workflow.Leads s a middle ∧ (f a).Leads middle b s' := by
  constructor
  · rintro ⟨turns, hcomes, hchained⟩
    rcases comes_bind_iff.1 hcomes with ⟨first, a, rest, rfl, hfirst, hrest⟩
    rcases chained_append.1 hchained with ⟨middle, hbefore, hafter⟩
    exact ⟨a, middle, ⟨first, hfirst, hbefore⟩, rest, hrest, hafter⟩
  · rintro ⟨a, middle, ⟨first, hfirst, hbefore⟩, rest, hrest, hafter⟩
    exact ⟨first ++ rest, comes_bind_iff.2 ⟨first, a, rest, rfl, hfirst, hrest⟩,
      chained_append.2 ⟨middle, hbefore, hafter⟩⟩

/-- What a task guarantees of its steps, and what can be put together, holds from end to end. -/
theorem Leads.guaranteed {R : σ → σ → Prop} (h : workflow.Leads s a s') (hrefl : ∀ s, R s s)
    (htrans : ∀ s s' s'', R s s' → R s' s'' → R s s'') (hguarantees : workflow.Guarantees R) :
    R s s' := by
  rcases h with ⟨turns, hcomes, hchained⟩
  have hturns := hcomes.guaranteed hrefl hguarantees
  clear hcomes
  induction turns generalizing s with
  | nil =>
      have hsame : s' = s := hchained
      exact hsame ▸ hrefl s
  | cons turn turns ih =>
      rcases List.forall_mem_cons.1 hturns with ⟨hturn, hrest⟩
      rcases hchained with ⟨rfl, hchained⟩
      exact htrans _ _ _ hturn (ih hchained hrest)

end Workflow

namespace Pool

variable {σ α : Type}

theorem chained_turns {p : Pool σ α} (honly : p.tasks.length ≤ 1) (moves : List Move) :
    Chained p.state (p.turns 0 moves) (p.run moves).state := by
  induction moves generalizing p with
  | nil => rfl
  | cons m moves ih =>
      have hrest := ih (p := p.step m) (by simpa using honly)
      by_cases hm : m.task = 0
      · simpa [turns, hm, Chained] using hrest
      · have hnone : p.tasks[m.task]? = none := by
          rw [List.getElem?_eq_none_iff]
          omega
        have hidle : p.step m = p := step_absent hnone
        simpa [turns, hm, hidle] using hidle ▸ hrest

theorem run_of_done {a : α} {s : σ} (moves : List Move) :
    (⟨[.done a], s⟩ : Pool σ α).run moves = ⟨[.done a], s⟩ := by
  induction moves with
  | nil => rfl
  | cons m moves ih =>
      have hidle : (⟨[.done a], s⟩ : Pool σ α).step m = ⟨[.done a], s⟩ := by
        cases htask : [Workflow.done a][m.task]? with
        | none => exact step_absent htask
        | some task =>
            have hdone : task = .done a := by simpa using List.mem_of_getElem? htask
            subst hdone
            exact step_idle htask rfl
      rw [run_cons, hidle, ih]

/-- When the only task of a pool has come to a result, it has come to it by itself. -/
theorem leads_of_only {workflow : Workflow σ α} {s : σ} {moves : List Move} {a : α}
    (h : ((⟨[workflow], s⟩ : Pool σ α).run moves).tasks = [.done a]) :
    workflow.Leads s a ((⟨[workflow], s⟩ : Pool σ α).run moves).state := by
  have honly : (⟨[workflow], s⟩ : Pool σ α).tasks.length ≤ 1 := Nat.le_refl 1
  have htask : (⟨[workflow], s⟩ : Pool σ α).tasks[0]? = some (workflow >>= pure) := by
    simp [Workflow.bind_pure]
  rcases turns_cases htask moves with ⟨left, hleft, hmore⟩ | ⟨seen, rest, b, rfl, hseen, hdone⟩
  · rw [h, Workflow.bind_pure] at hleft
    have hdone : .done a = left := by simpa using hleft
    refine ⟨_, ?_, chained_turns honly moves⟩
    simpa using hmore [] a (hdone ▸ .done a)
  · -- What comes after the result changes nothing.
    have hover : (⟨[workflow], s⟩ : Pool σ α).run seen =
        ⟨[.done b], ((⟨[workflow], s⟩ : Pool σ α).run seen).state⟩ := by
      have hlength := length_tasks_run (⟨[workflow], s⟩ : Pool σ α) seen
      rcases List.length_eq_one_iff.1 hlength with ⟨task, htasks⟩
      rw [htasks] at hdone
      have htaskEq : task = .done b := Option.some.inj hdone
      rw [← htaskEq, ← htasks]
    have hrest : (⟨[workflow], s⟩ : Pool σ α).run (seen ++ rest) =
        (⟨[workflow], s⟩ : Pool σ α).run seen := by
      rw [run_append, hover, run_of_done]
    rw [hrest, hover] at h
    have hsame : b = a := by simpa using h
    rw [hrest]
    exact ⟨_, hsame ▸ hseen, chained_turns honly seen⟩

end Pool

/-! ## Any turns, among other tasks -/

section Imposing

variable {σ α : Type}

/-- A task that leaves states one after the other, whatever it finds. -/
def Workflow.imposing (a : α) : List σ → Workflow σ α
  | [] => .done a
  | s :: rest => .atomic (fun _ => s) fun _ => imposing a rest

namespace Pool

/-- A turn of the other task, and then one of a task that finds what the other has left. -/
theorem turns_imposing (workflow others : Workflow σ α) (s found : σ) (part : Nat)
    (outcome : Outcome) (moves : List Move) :
    (⟨[workflow, .atomic (fun _ => found) fun _ => others], s⟩ : Pool σ α).turns 0
        (⟨1, 0, .dropped⟩ :: ⟨0, part, outcome⟩ :: moves) =
      (found, (workflow.step part outcome found).2) ::
        (⟨[(workflow.step part outcome found).1, others],
          (workflow.step part outcome found).2⟩ : Pool σ α).turns 0 moves :=
  rfl

/-- Any turns that lead a task to a result can be had, next to a task that leaves the states that it
has to find. -/
theorem exists_moves {workflow : Workflow σ α} {turns : Turns σ} {a : α}
    (h : workflow.Comes turns a) (s : σ) :
    ∃ moves, (⟨[workflow, .imposing a (turns.map Prod.fst)], s⟩ : Pool σ α).turns 0 moves =
      turns := by
  induction h generalizing s with
  | done a => exact ⟨[], rfl⟩
  | @atomic update next found turns a h ih =>
      rcases ih (update found) with ⟨moves, hmoves⟩
      exact ⟨⟨1, 0, .dropped⟩ :: ⟨0, 0, .dropped⟩ :: moves, congrArg (_ :: ·) hmoves⟩
  | @gather activities next found left part outcome task turns a hturn h ih =>
      rcases ih left with ⟨moves, hmoves⟩
      refine ⟨⟨1, 0, .dropped⟩ :: ⟨0, part, outcome⟩ :: moves, ?_⟩
      refine (turns_imposing _ _ s found part outcome moves).trans ?_
      rw [hturn]
      exact congrArg (_ :: ·) hmoves

end Pool

end Imposing

end WebClient
