import Mathlib.Data.List.Chain
import WebClient.Proofs.Itinerary

/-!
# HistoryShape — what the history looks like while operations overlap

A location is entered, left, or exchanged for the target of a redirect, and each of these is a step
of its own.  Whatever other operations do between two such steps, a redirect that comes late among
them, the history keeps its shape.

* `HistoryStep` lists what one step can make of the entries of a history, and
  `Client.historyStep` says that every turn of every operation is one of these.
* `HistoryStep.isChain`, `HistoryStep.length_le` and `HistoryStep.ne_nil` are what such a step
  keeps, and `Client.isChain_history` and `Client.history_ne_nil` what every schedule keeps.
* `history_keeps_shape` puts this together, and says what becomes of an operation that goes back.
-/

namespace WebClient

/-! ## Steps of a history -/

/-- What one step can make of the entries of a history. -/
inductive HistoryStep (entries : List String) : List String → Prop where
  | stay : HistoryStep entries entries
  /-- A location is entered that is not the last entry. -/
  | enter (location : String) (h : entries.getLast? ≠ some location) :
      HistoryStep entries (entries ++ [location])
  /-- The last entry is taken away, and there is one before it. -/
  | leave (h : 2 ≤ entries.length) : HistoryStep entries entries.dropLast
  /-- A location takes the place of the last entry, and is not the entry before it. -/
  | exchange (location : String) (hne : entries ≠ [])
      (h : entries.dropLast.getLast? ≠ some location) :
      HistoryStep entries (entries.dropLast ++ [location])

/-- A history does not have the same location twice in a row, if its beginning does not and the last
location is new. -/
theorem isChain_concat {entries : List String} {location : String}
    (hchain : entries.IsChain (· ≠ ·)) (h : entries.getLast? ≠ some location) :
    (entries ++ [location]).IsChain (· ≠ ·) := by
  refine hchain.append (List.isChain_singleton location) ?_
  rintro last hlast _ ⟨⟩ rfl
  exact h hlast

namespace HistoryStep

variable {entries entries' : List String}

theorem isChain (h : HistoryStep entries entries') (hchain : entries.IsChain (· ≠ ·)) :
    entries'.IsChain (· ≠ ·) := by
  cases h with
  | stay => exact hchain
  | enter location hlast => exact isChain_concat hchain hlast
  | leave hlength => exact hchain.dropLast
  | exchange location hne hlast => exact isChain_concat hchain.dropLast hlast

theorem length_le (h : HistoryStep entries entries') : entries'.length ≤ entries.length + 1 := by
  cases h with
  | stay => exact Nat.le_succ _
  | enter location hlast => exact Nat.le_of_eq List.length_append
  | leave hlength =>
      rw [List.length_dropLast]
      omega
  | exchange location hne hlast =>
      rw [List.length_append, List.length_dropLast, List.length_singleton]
      omega

/-- What is taken away leaves something behind. -/
theorem ne_nil (h : HistoryStep entries entries') (hne : entries ≠ []) : entries' ≠ [] := by
  cases h with
  | stay => exact hne
  | enter location hlast => exact List.append_ne_nil_of_left_ne_nil hne _
  | leave hlength =>
      refine List.ne_nil_of_length_pos ?_
      rw [List.length_dropLast]
      omega
  | exchange location hne hlast =>
      exact List.append_ne_nil_of_right_ne_nil _ (List.cons_ne_nil _ _)

end HistoryStep

/-! ## Sections of the router -/

namespace RouterState

theorem push_historyStep (s : RouterState) (location : String) :
    HistoryStep s.history (s.push location).history := by
  unfold push
  split
  · exact .stay
  · rename_i hcurrent
    exact .enter location hcurrent

theorem replace_historyStep (s : RouterState) (source target : String) :
    HistoryStep s.history (s.replace source target).history := by
  unfold replace
  split
  · rename_i hcurrent
    have hne : s.history ≠ [] := by
      intro hnil
      simp [current?, hnil] at hcurrent
    unfold push
    split
    · -- The entry before the source is the target already, so that nothing comes in its place.
      rename_i htarget
      refine .leave ?_
      have hbefore : s.history.dropLast ≠ [] := by
        intro hnil
        simp [current?, hnil] at htarget
      have hpositive := List.length_pos_of_ne_nil hbefore
      rw [List.length_dropLast] at hpositive
      omega
    · rename_i htarget
      exact .exchange target hne htarget
  · exact s.push_historyStep target

theorem leave_historyStep (s : RouterState) :
    HistoryStep s.history (Section.leave.apply s).history := by
  rcases Nat.lt_or_ge s.history.length 2 with hshort | hlong
  · have hstay : Section.leave.apply s = s := by simp [Section.apply, pop?_of_short hshort]
    rw [hstay]
    exact .stay
  · rcases exists_two hlong with ⟨older, location, current, hhistory⟩
    have hleft : (Section.leave.apply s).history = s.history.dropLast := by
      simp [Section.apply, pop?_of_two hhistory, hhistory]
    rw [hleft]
    exact .leave hlong

theorem Section.historyStep (step : Section) (s : RouterState) :
    HistoryStep s.history (step.apply s).history := by
  cases step with
  | begin path => exact .stay
  | publish generation view =>
      unfold apply RouterState.publish
      dsimp only
      split <;> exact .stay
  | push location => exact s.push_historyStep location
  | replace source target => exact s.replace_historyStep source target
  | leave => exact s.leave_historyStep

end RouterState

/-! ## Turns of operations -/

theorem World.Step.historyStep {A : Login.Section → Prop} {w w' : World} (h : World.Step A w w') :
    HistoryStep w.router.history w'.router.history := by
  cases h with
  | stay => exact .stay
  | emit event => exact .stay
  | login step hstep => exact .stay
  | router step => exact step.historyStep w.router

namespace Client

/-- Every turn of every operation is such a step. -/
theorem historyStep (client : Client) (ops : List Operation) (w : World) (moves : List Move)
    (m : Move) :
    let p := (client.pool ops w).run moves
    HistoryStep p.state.router.history (p.step m).state.router.history :=
  (pool_step moves m).historyStep

variable {client : Client} {ops : List Operation} {w : World}

theorem isChain_history (h : w.router.history.IsChain (· ≠ ·)) (moves : List Move) :
    ((client.pool ops w).run moves).state.router.history.IsChain (· ≠ ·) := by
  have hkeep (s s' : World) (hstep : World.Step (Allows ops) s s')
      (hs : s.router.history.IsChain (· ≠ ·)) : s'.router.history.IsChain (· ≠ ·) :=
    hstep.historyStep.isChain hs
  exact Pool.run_induction (fun _ => .stay) (client.pool_guarantees []) hkeep h moves

theorem history_ne_nil {moves : List Move}
    (h : ((client.pool ops w).run moves).state.router.history ≠ []) (later : List Move) :
    (((client.pool ops w).run moves).run later).state.router.history ≠ [] := by
  have hkeep (s s' : World) (hstep : World.Step (Allows ops) s s')
      (hs : s.router.history ≠ []) : s'.router.history ≠ [] := hstep.historyStep.ne_nil hs
  exact Pool.run_induction (fun _ => .stay) (client.pool_guarantees moves) hkeep h later

end Client

/-! ## Going back -/

theorem Workflow.modifyGet_bind_step {σ α β : Type} (f : σ → α × σ) (next : α → Workflow σ β)
    (part : Nat) (outcome : Outcome) (s : σ) :
    ((modifyGet f : Workflow σ α) >>= next).step part outcome s = (next (f s).1, (f s).2) := rfl

/-- One turn takes the last entry, if it is not the only one, and goes on with the one before. -/
theorem Router.leave_step {α : Type} (part : Nat) (outcome : Outcome)
    (next : Option String → Workflow World α) (w : World) :
    (Router.leave >>= next).step part outcome w =
      (next (w.router.pop?.map (·.1)),
        { w with router := RouterState.Section.leave.apply w.router }) := by
  rw [Router.leave, Workflow.modifyGet_bind_step]
  cases hpop : w.router.pop? with
  | none => simp [RouterState.Section.apply, hpop]
  | some left => simp [RouterState.Section.apply, hpop]

/-- Going back is to leave the current location and to resolve the one before, if there is one. -/
theorem Operation.perform_back (client : Client) :
    Operation.back.perform client = Router.leave >>= fun
      | none => pure ()
      | some location => (Operation.resolve location).perform client := by
  change (Router.leave >>= _) >>= _ = _
  rw [Workflow.bind_assoc]
  refine congrArg (Router.leave >>= ·) (funext fun left => ?_)
  cases left with
  | none => rfl
  | some location => exact Workflow.bind_assoc (client.router.resolve location) _ _

/-! ## Operations that overlap -/

/-- Let any operations of a client be under way at once, over a router that has just been made, and
follow them for any number of turns.

* The history does not have the same location twice in a row.
* Each turn leaves the history as it is, enters a location that is not its last entry, takes away
  the last of several entries or exchanges it; so there is never more than one entry more.
* Once there are entries there are always some, and with them a current location.
* Whoever goes back changes nothing and is done, if there is one entry or none; otherwise the last
  entry is taken away, and the location before it is the current one and is resolved. -/
theorem history_keeps_shape (client : Client) (ops : List Operation) (login : Login)
    (events : List Event) (moves : List Move) :
    let p := (client.pool ops { login, events }).run moves
    let entries := p.state.router.history
    entries.IsChain (· ≠ ·) ∧
      (∀ m, HistoryStep entries (p.step m).state.router.history ∧
        (p.step m).state.router.history.length ≤ entries.length + 1) ∧
      (entries ≠ [] → ∀ later, (p.run later).state.router.history ≠ [] ∧
        (p.run later).state.router.current?.isSome) ∧
      ∀ m, p.tasks[m.task]? = some (Operation.back.perform client) →
        (entries.length < 2 →
          (p.step m).state = p.state ∧ (p.step m).tasks[m.task]? = some (pure ())) ∧
        (2 ≤ entries.length → ∃ location,
          (p.step m).state.router.history = entries.dropLast ∧
            (p.step m).state.router.current? = some location ∧
            (p.step m).tasks[m.task]? = some ((Operation.resolve location).perform client)) := by
  intro p entries
  refine ⟨Client.isChain_history List.isChain_nil moves, fun m => ?_, fun hne later => ?_,
    fun m htask => ?_⟩
  · have hstep := client.historyStep ops { login, events } moves m
    exact ⟨hstep, hstep.length_le⟩
  · have hlater := Client.history_ne_nil hne later
    exact ⟨hlater, by simpa [RouterState.current?] using hlater⟩
  · rw [Operation.perform_back] at htask
    have hstep := Pool.step_self htask (Router.leave_step m.part m.outcome _ p.state)
    rw [RouterState.Section.apply] at hstep
    refine ⟨fun hshort => ?_, fun hlong => ?_⟩
    · have hpop : p.state.router.pop? = none := RouterState.pop?_of_short hshort
      rw [hpop] at hstep
      exact ⟨hstep.2, hstep.1⟩
    · rcases RouterState.exists_two hlong with ⟨older, location, current, hhistory⟩
      rw [RouterState.pop?_of_two hhistory] at hstep
      have hdrop : entries.dropLast = older ++ [location] := by simp [entries, hhistory]
      rw [hdrop, hstep.2]
      exact ⟨location, rfl, by simp [RouterState.current?], hstep.1⟩

/-- Two that go back at once over two entries: the one that comes second leaves the last entry. -/
theorem second_departure_changes_nothing :
    let p := (Client.pageless.pool [.navigate "/a", .navigate "/b", .back, .back]
      (.fresh (.working []))).run ([0, 1, 2].map fun i => { task := i })
    p.state.router.history = ["/a"] ∧ (p.step { task := 3 }).state = p.state ∧
      (p.step { task := 3 }).tasks[3]? = some (pure ()) := by
  intro p
  have hhistory : p.state.router.history = ["/a"] := by decide +kernel
  have htask : p.tasks[3]? = some (Operation.back.perform Client.pageless) := rfl
  have hshort : p.state.router.history.length < 2 := by
    rw [hhistory]
    decide
  have hshape := history_keeps_shape Client.pageless
    [.navigate "/a", .navigate "/b", .back, .back] { store := .working [] } []
    ([0, 1, 2].map fun i => { task := i })
  exact ⟨hhistory, (hshape.2.2.2 { task := 3 } htask).1 hshort⟩

end WebClient
