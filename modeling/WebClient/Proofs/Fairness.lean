import Mathlib.Data.Nat.Find
import WebClient.Proofs.Pool

/-!
# Fairness — tasks that keep being given turns come to an end

A schedule that never ends gives a task turns again and again, in all of its parts.  Then the task
comes to a result, whatever becomes of its requests and whatever others do in between: there is no
waiting for each other and no endless loop.

* `Pool.At.ends_fairly` is about one activity that is waited for, `Pool.gather_ends_fairly` about
  all of them, and `Pool.ends_fairly` about the task.
-/

namespace WebClient

/-- An endless schedule. -/
abbrev Schedule := Nat → Move

namespace Schedule

variable {schedule : Schedule} {i : Nat}

/-- The first moves of a schedule. -/
def upTo (schedule : Schedule) (n : Nat) : List Move := (List.range n).map schedule

/-- What is left of a schedule after its first moves. -/
def after (schedule : Schedule) (n : Nat) : Schedule := fun k => schedule (n + k)

theorem upTo_add (schedule : Schedule) (n k : Nat) :
    schedule.upTo (n + k) = schedule.upTo n ++ (schedule.after n).upTo k := by
  simp [upTo, after, List.range_add, Function.comp_def]

theorem upTo_succ (schedule : Schedule) (n : Nat) :
    schedule.upTo (n + 1) = schedule.upTo n ++ [schedule n] := by
  simp [upTo, List.range_succ]

/-- Where the first moves are cut, there are again first moves. -/
theorem eq_upTo_of_append {n : Nat} {seen rest : List Move} (h : schedule.upTo n = seen ++ rest) :
    seen = schedule.upTo seen.length := by
  have hlength : n = seen.length + rest.length := by
    simpa [upTo] using congrArg List.length h
  rw [hlength, upTo_add] at h
  exact ((List.append_inj h (by simp [upTo])).1).symm

/-- All parts of a task are given turns again and again. -/
def FairTo (schedule : Schedule) (i : Nat) : Prop :=
  ∀ part n, ∃ k, n ≤ k ∧ (schedule k).Of i part

theorem FairTo.after (h : schedule.FairTo i) (n : Nat) : (schedule.after n).FairTo i := by
  intro part m
  rcases h part (n + m) with ⟨k, hle, hof⟩
  refine ⟨k - n, by omega, ?_⟩
  have hsame : n + (k - n) = k := by omega
  simpa [Schedule.after, hsame] using hof

/-- What happens in a schedule happens there for a first time. -/
theorem exists_first {P : Move → Prop} (h : ∃ k, P (schedule k)) :
    ∃ n, P (schedule n) ∧ ∀ m ∈ schedule.upTo n, ¬ P m := by
  classical
  refine ⟨Nat.find h, Nat.find_spec h, fun m hm => ?_⟩
  rcases List.mem_map.1 hm with ⟨k, hk, rfl⟩
  exact Nat.find_min h (List.mem_range.1 hk)

end Schedule

namespace Activity

variable {σ α : Type}

theorem exists_results? {activities : List (Activity σ α)}
    (h : ∀ activity ∈ activities, ∃ a, activity = .done a) :
    ∃ results, results? activities = some results := by
  induction activities with
  | nil => exact ⟨[], rfl⟩
  | cons activity rest ih =>
      rcases List.forall_mem_cons.1 h with ⟨⟨a, rfl⟩, hrest⟩
      rcases ih hrest with ⟨results, hresults⟩
      exact ⟨a :: results, by simp [results?, result?, hresults]⟩

end Activity

namespace Pool

variable {σ α : Type} {p : Pool σ α} {i j : Nat} {schedule : Schedule}

theorem run_upTo_add (p : Pool σ α) (schedule : Schedule) (n k : Nat) :
    p.run (schedule.upTo (n + k)) = (p.run (schedule.upTo n)).run ((schedule.after n).upTo k) := by
  rw [Schedule.upTo_add, run_append]

theorem run_upTo_succ (p : Pool σ α) (schedule : Schedule) (n : Nat) :
    p.run (schedule.upTo (n + 1)) = (p.run (schedule.upTo n)).step (schedule n) := by
  rw [Schedule.upTo_succ, run_append, run_cons, run_nil]

/-- A task is left alone until it has its next turn. -/
theorem exists_turn (hfair : schedule.FairTo i) (p : Pool σ α) :
    ∃ n, (schedule n).task = i ∧ (p.run (schedule.upTo n)).tasks[i]? = p.tasks[i]? := by
  have hsome : ∃ k, (schedule k).task = i := by
    rcases hfair 0 0 with ⟨k, -, hof⟩
    exact ⟨k, hof.1⟩
  rcases Schedule.exists_first (P := fun m => m.task = i) hsome with ⟨n, hn, hothers⟩
  exact ⟨n, hn, tasks_run_of_ne hothers⟩

/-! ## Activities that are waited for -/

theorem At.exists_turn {activity : Activity σ Reply} (h : p.At i j activity)
    (hgoing : activity.result? = none) (hfair : schedule.FairTo i) :
    ∃ n outcome s, (p.run (schedule.upTo n)).At i j (activity.step outcome s).1 := by
  have hsome : ∃ k, (schedule k).Of i j := by
    rcases hfair j 0 with ⟨k, -, hof⟩
    exact ⟨k, hof⟩
  rcases Schedule.exists_first (P := fun m => m.Of i j) hsome with ⟨n, hn, hothers⟩
  have hstep := ((h.run_others hgoing hothers).step_self hgoing hn).1
  exact ⟨n + 1, _, _, by rwa [run_upTo_succ]⟩

theorem At.ends_fairly {activity : Activity σ Reply} (h : p.At i j activity)
    (hfair : schedule.FairTo i) :
    ∃ n reply, (p.run (schedule.upTo n)).At i j (.done reply) := by
  -- Each turn goes one node down the tree, and what is left of the schedule is fair again.
  induction activity generalizing p schedule with
  | done reply => exact ⟨0, reply, h⟩
  | atomic update next ih =>
      rcases h.exists_turn rfl hfair with ⟨n, outcome, s, hnext⟩
      rcases ih s hnext (hfair.after n) with ⟨k, reply, hdone⟩
      exact ⟨n + k, reply, by rwa [run_upTo_add]⟩
  | exchange request next ih =>
      rcases h.exists_turn rfl hfair with ⟨n, outcome, s, hnext⟩
      rcases ih outcome hnext (hfair.after n) with ⟨k, reply, hdone⟩
      exact ⟨n + k, reply, by rwa [run_upTo_add]⟩

variable {activities : List (Activity σ Reply)} {next : List Reply → Workflow σ α}

/-- One turn leads a task that waits over to what follows, or it still waits for as many activities,
and of these the ones that had finished have the same results. -/
theorem gather_step (h : p.tasks[i]? = some (.gather activities next)) (m : Move) :
    (∃ replies, (p.step m).tasks[i]? = some (next replies)) ∨
      ∃ activities', (p.step m).tasks[i]? = some (.gather activities' next) ∧
        activities'.length = activities.length ∧
        ∀ (j : Nat) (reply : Reply), activities[j]? = some (.done reply) →
          activities'[j]? = some (.done reply) := by
  by_cases hm : m.task = i
  · subst hm
    cases hresults : Activity.results? activities with
    | some replies =>
        have hstep := step_self h (Workflow.step_gather_done hresults m.part m.outcome p.state)
        exact .inl ⟨replies, hstep.1⟩
    | none =>
        cases hpart : activities[m.part]? with
        | none =>
            have hidle : p.step m = p := by
              refine step_idle h ?_
              simp [Workflow.step, hresults, hpart]
            exact .inr ⟨activities, by rw [hidle, h], rfl, fun _ _ hdone => hdone⟩
        | some activity =>
            have hstep := step_self (m := m) h rfl
            refine .inr ⟨activities.set m.part (activity.step m.outcome p.state).1, ?_, by simp,
              fun j reply hdone => ?_⟩
            · simpa [Workflow.step, hresults, hpart] using hstep.1
            · by_cases hj : m.part = j
              · -- Whoever has finished does nothing in his turn.
                subst hj
                have hlt := (List.getElem?_eq_some_iff.1 hdone).1
                have hsame : activity = .done reply := Option.some.inj (hpart.symm.trans hdone)
                simp [hsame, Activity.step, hlt]
              · rw [List.getElem?_set_ne hj, hdone]
  · exact .inr ⟨activities, by rw [tasks_step_of_ne hm, h], rfl, fun _ _ hdone => hdone⟩

/-- After any turns a task that waited has gone over to what follows at some moment, or it still
waits, as after one turn. -/
theorem gather_run (h : p.tasks[i]? = some (.gather activities next)) (moves : List Move) :
    (∃ seen rest replies, moves = seen ++ rest ∧ (p.run seen).tasks[i]? = some (next replies)) ∨
      ∃ activities', (p.run moves).tasks[i]? = some (.gather activities' next) ∧
        activities'.length = activities.length ∧
        ∀ (j : Nat) (reply : Reply), activities[j]? = some (.done reply) →
          activities'[j]? = some (.done reply) := by
  induction moves generalizing p activities with
  | nil => exact .inr ⟨activities, h, rfl, fun _ _ hdone => hdone⟩
  | cons m moves ih =>
      rcases gather_step h m with ⟨replies, hnext⟩ | ⟨activities', hrest, hlength, hkeeps⟩
      · exact .inl ⟨[m], moves, replies, rfl, hnext⟩
      · rcases ih hrest with ⟨seen, rest, replies, rfl, hnext⟩ |
          ⟨activities'', hrest', hlength', hkeeps'⟩
        · exact .inl ⟨m :: seen, rest, replies, rfl, hnext⟩
        · exact .inr ⟨activities'', hrest', hlength'.trans hlength,
            fun j reply hdone => hkeeps' j reply (hkeeps j reply hdone)⟩

/-- One after the other the activities finish, unless the task goes over before. -/
theorem gather_finishes (h : p.tasks[i]? = some (.gather activities next))
    (hfair : schedule.FairTo i) (j : Nat) (hj : j ≤ activities.length) :
    (∃ n replies, (p.run (schedule.upTo n)).tasks[i]? = some (next replies)) ∨
      ∃ n activities', (p.run (schedule.upTo n)).tasks[i]? = some (.gather activities' next) ∧
        activities'.length = activities.length ∧
        ∀ k < j, ∃ reply, activities'[k]? = some (.done reply) := by
  -- While one activity is waited for, those before it keep their results (`gather_run`).
  induction j with
  | zero => exact .inr ⟨0, activities, h, rfl, fun _ hk => absurd hk (Nat.not_lt_zero _)⟩
  | succ j ih =>
      rcases ih (Nat.le_of_succ_le hj) with hnext | ⟨n, activities', hwaits, hlength, hdone⟩
      · exact .inl hnext
      · have hlt : j < activities'.length := by omega
        have hat : (p.run (schedule.upTo n)).At i j activities'[j] :=
          ⟨activities', next, hwaits, List.getElem?_eq_getElem hlt⟩
        rcases hat.ends_fairly (hfair.after n) with ⟨k, reply, others, next', htask, hfinished⟩
        rcases gather_run hwaits ((schedule.after n).upTo k) with
          ⟨seen, rest, replies, hcut, hnext⟩ | ⟨activities'', hwaits', hlength', hkeeps⟩
        · refine .inl ⟨n + seen.length, replies, ?_⟩
          rwa [run_upTo_add, ← Schedule.eq_upTo_of_append hcut]
        · have hsame : Workflow.gather activities'' next = .gather others next' :=
            Option.some.inj (hwaits'.symm.trans htask)
          injection hsame with hsame _
          refine .inr ⟨n + k, activities'', by rwa [run_upTo_add], hlength'.trans hlength, ?_⟩
          intro k' hk'
          rcases Nat.lt_succ_iff_lt_or_eq.1 hk' with hearlier | rfl
          · rcases hdone k' hearlier with ⟨reply', hreply'⟩
            exact ⟨reply', hkeeps k' reply' hreply'⟩
          · exact ⟨reply, hsame ▸ hfinished⟩

theorem gather_ends_fairly (h : p.tasks[i]? = some (.gather activities next))
    (hfair : schedule.FairTo i) :
    ∃ n replies, (p.run (schedule.upTo n)).tasks[i]? = some (next replies) := by
  rcases gather_finishes h hfair activities.length (Nat.le_refl _) with
    hnext | ⟨n, activities', hwaits, hlength, hdone⟩
  · exact hnext
  · have hall : ∀ activity ∈ activities', ∃ reply, activity = .done reply := by
      intro activity hmem
      rcases List.getElem_of_mem hmem with ⟨k, hk, rfl⟩
      rcases hdone k (hlength ▸ hk) with ⟨reply, hreply⟩
      exact ⟨reply, by simpa [hk] using hreply⟩
    rcases Activity.exists_results? hall with ⟨replies, hresults⟩
    rcases exists_turn (hfair.after n) (p.run (schedule.upTo n)) with ⟨k, rfl, hsame⟩
    have hstep := step_self (hsame.trans hwaits) (Workflow.step_gather_done hresults _ _ _)
    refine ⟨n + (k + 1), replies, ?_⟩
    rw [run_upTo_add, run_upTo_succ]
    exact hstep.1

/-! ## Tasks -/

/-- A task that keeps being given turns comes to a result. -/
theorem ends_fairly {workflow : Workflow σ α} (h : p.tasks[i]? = some workflow)
    (hfair : schedule.FairTo i) :
    ∃ n a, (p.run (schedule.upTo n)).tasks[i]? = some (.done a) := by
  induction workflow generalizing p schedule with
  | done a => exact ⟨0, a, h⟩
  | atomic update next ih =>
      rcases exists_turn hfair p with ⟨n, rfl, hsame⟩
      have hstep := step_self (m := schedule n) (hsame.trans h) rfl
      rw [← run_upTo_succ] at hstep
      rcases ih _ hstep.1 (hfair.after (n + 1)) with ⟨k, a, hdone⟩
      exact ⟨n + 1 + k, a, by rwa [run_upTo_add]⟩
  | gather activities next ih =>
      rcases gather_ends_fairly h hfair with ⟨n, replies, hnext⟩
      rcases ih replies hnext (hfair.after n) with ⟨k, a, hdone⟩
      exact ⟨n + k, a, by rwa [run_upTo_add]⟩

end Pool
end WebClient
