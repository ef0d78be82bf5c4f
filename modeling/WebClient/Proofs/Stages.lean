import WebClient.Proofs.CallTurns

/-!
# Stages — how far a rejected call is

A call that is going to be rejected is followed by its `Stage`: each turn of its task is a turn of
the stage (`Stage.step_task`), and how many turns it has had says how far it is (`Stage.Paced`).  On
the way it may publish news of the login; `World.news` are all that there have been.
-/

namespace WebClient

/-! ## News of the login -/

/-- Whether an event tells of the login: that it changed, or that a call was rejected. -/
def Event.isLoginNews : Event → Bool
  | .sessionChanged _ _ => true
  | .toast .warning message => message == Gateway.sessionExpired || message == Gateway.loginRequired
  | _ => false

namespace World

variable {w : World} {event : Event}

/-- What has been told of the login, oldest first. -/
def news (w : World) : List Event := w.events.filter Event.isLoginNews

theorem news_emit (h : event.isLoginNews = true) : (w.emit event).news = w.news ++ [event] := by
  simp [news, emit, h]

end World

/-- The end of a session. -/
def Event.signedOut : Event := .ofSession none

/-- The message to the user whose call was rejected. -/
def Event.rejected (hadToken : Bool) : Event :=
  .toast .warning (if hadToken then Gateway.sessionExpired else Gateway.loginRequired)

theorem Event.isLoginNews_rejected (hadToken : Bool) :
    (Event.rejected hadToken).isLoginNews = true := by
  cases hadToken <;> decide

/-! ## Stages of a rejected call -/

/-- How far a rejected call is. -/
inductive Stage where
  /-- It has not read the token. -/
  | ready
  /-- It waits for the answer. -/
  | sent
  /-- It has the answer, and has not dealt with it. -/
  | answered
  /-- It has ended the session, and has not told of that. -/
  | ending
  /-- It has a warning to give. -/
  | warning
  /-- It has come to an end, and its caller has not noticed. -/
  | settled
  | returned
  deriving DecidableEq, Repr

namespace Stage

/-- What is left of the task that makes the call. -/
def task (g : Gateway) (call : Call) (token : Option String) : Stage → Workflow World Reply
  | .ready => .single (g.call call)
  | .sent => .single (g.sent call token)
  | .answered => .single (Gateway.handleUnauthorized token.isSome)
  | .ending => .single (Gateway.ending token.isSome)
  | .warning => .single (Gateway.warning token.isSome)
  | .settled => .single (.done (Gateway.rejection token.isSome))
  | .returned => .done (Gateway.rejection token.isSome)

/-- How many turns are left at most. -/
def rank : Stage → Nat
  | .ready => 6
  | .sent => 5
  | .answered => 4
  | .ending => 3
  | .warning => 2
  | .settled => 1
  | .returned => 0

/-- Whether the answer has not been dealt with. -/
def Unhandled (stage : Stage) : Prop := 4 ≤ stage.rank

instance (stage : Stage) : Decidable stage.Unhandled :=
  inferInstanceAs (Decidable (4 ≤ stage.rank))

/-- The next stage, and what becomes of the shared state on the way there. -/
def advance (hadToken : Bool) (w : World) : Stage → Stage × World
  | .ready => (.sent, w)
  | .sent => (.answered, w)
  | .answered =>
    (if w.login.session.isSome then .ending else if hadToken then .settled else .warning,
      { w with login := w.login.clear })
  | .ending => (.warning, w.emit .signedOut)
  | .warning => (.settled, w.emit (.rejected hadToken))
  | .settled => (.returned, w)
  | .returned => (.returned, w)

/-- A move of the task; but for the last turn it has to be the turn of the only part. -/
def turn (hadToken : Bool) (part : Nat) (w : World) (stage : Stage) : Stage × World :=
  if part = 0 ∨ stage = .settled then stage.advance hadToken w else (stage, w)

section Tasks

variable {g : Gateway} {call : Call} {token : Option String} {p : Pool World Reply} {m : Move}
  {stage : Stage}

theorem step_single {activity : Activity World Reply}
    (htask : p.tasks[m.task]? = some (.single activity)) (hgoing : activity.result? = none)
    (hpart : m.part = 0) :
    (p.step m).tasks[m.task]? = some (.single (activity.step m.outcome p.state).1) ∧
      (p.step m).state = (activity.step m.outcome p.state).2 := by
  rw [← Workflow.single_bind_pure] at htask
  exact Pool.single_step htask hgoing ⟨rfl, hpart⟩

theorem step_idle (htask : p.tasks[m.task]? = some (stage.task g call token))
    (hsendable : g.Sendable call) (hpart : m.part ≠ 0) (hsettled : stage ≠ .settled) :
    p.step m = p := by
  have hsingle : ∀ activity : Activity World Reply, activity.result? = none →
      p.tasks[m.task]? = some (.single activity) → p.step m = p := by
    intro activity hgoing hactivity
    rw [← Workflow.single_bind_pure] at hactivity
    exact Pool.single_idle hactivity hgoing rfl hpart
  cases stage with
  | ready => exact hsingle _ Gateway.result?_call htask
  | sent => exact hsingle _ (Gateway.result?_sent hsendable) htask
  | answered => exact hsingle _ (Gateway.result?_handleUnauthorized _) htask
  | ending => exact hsingle _ rfl htask
  | warning => exact hsingle _ rfl htask
  | settled => exact absurd rfl hsettled
  | returned => exact Pool.step_idle htask rfl

/-- The task of a rejected call makes the turns of its stage. -/
theorem step_task (htask : p.tasks[m.task]? = some (stage.task g call token))
    (hsendable : g.Sendable call) (hread : stage = .ready → m.part = 0 → p.state.token? = token)
    (hrejects : stage = .sent → m.part = 0 → g.Rejects m.outcome) :
    (p.step m).tasks[m.task]? =
        some ((stage.turn token.isSome m.part p.state).1.task g call token) ∧
      (p.step m).state = (stage.turn token.isSome m.part p.state).2 := by
  by_cases hgoes : m.part = 0 ∨ stage = .settled
  case neg =>
    rcases not_or.1 hgoes with ⟨hpart, hsettled⟩
    have hsame : stage.turn token.isSome m.part p.state = (stage, p.state) := if_neg hgoes
    rw [step_idle htask hsendable hpart hsettled, hsame]
    exact ⟨htask, rfl⟩
  have hturn : stage.turn token.isSome m.part p.state = stage.advance token.isSome p.state :=
    if_pos hgoes
  have hpart : stage ≠ .settled → m.part = 0 := hgoes.resolve_right
  rw [hturn]
  -- One case for each stage: what the activity of the stage does is said by its own turn lemma.
  cases stage with
  | ready =>
      have hstep := step_single htask Gateway.result?_call (hpart (by decide))
      rw [Gateway.call_step, hread rfl (hpart (by decide))] at hstep
      exact hstep
  | sent =>
      have hstep := step_single htask (Gateway.result?_sent hsendable) (hpart (by decide))
      rw [Gateway.sent_step hsendable,
        Gateway.settle_of_rejects (hrejects rfl (hpart (by decide)))] at hstep
      exact hstep
  | answered =>
      have hstep := step_single htask (Gateway.result?_handleUnauthorized _) (hpart (by decide))
      rw [Gateway.handleUnauthorized_step] at hstep
      -- Who clears a session goes on to tell of it; who finds none is silent, or asks to log in.
      cases hsession : p.state.login.session <;> cases htoken : token.isSome <;>
        simpa [advance, task, hsession, htoken, Gateway.cleared] using hstep
  | ending =>
      have hstep := step_single htask rfl (hpart (by decide))
      rw [Gateway.ending_step] at hstep
      exact hstep
  | warning =>
      have hstep := step_single htask rfl (hpart (by decide))
      rw [Gateway.warning_step] at hstep
      exact hstep
  | settled =>
      have hdone : p.tasks[m.task]? =
          some (.single (.done (Gateway.rejection token.isSome)) >>= pure) := htask
      exact Pool.single_done hdone rfl
  | returned => exact Pool.step_self htask rfl

end Tasks

/-! ## How far the turns have come -/

/-- How many turns of the only part of a task a schedule has. -/
def turns (moves : List Move) (i : Nat) : Nat := moves.countP fun m => m.Of i 0

theorem turns_concat (moves : List Move) (m : Move) (i : Nat) :
    turns (moves ++ [m]) i = turns moves i + if m.Of i 0 then 1 else 0 := by
  simp [turns, List.countP_singleton]

/-- A stage that can have been reached in `k` turns: every turn takes the call further, and the
answer is dealt with in the third. -/
def Paced (k : Nat) (stage : Stage) : Prop := stage.rank ≤ 6 - k ∧ (k < 3 → stage.rank = 6 - k)

theorem Paced.unhandled_iff {k : Nat} {stage : Stage} (h : Paced k stage) :
    stage.Unhandled ↔ k < 3 := by
  unfold Paced at h
  unfold Unhandled
  omega

theorem Paced.of_ready {k : Nat} (h : Paced k .ready) : k = 0 := by
  simp only [Paced, rank] at h
  omega

theorem Paced.of_sent {k : Nat} (h : Paced k .sent) : k = 1 := by
  simp only [Paced, rank] at h
  omega

/-- A turn brings the end nearer, by exactly one turn as long as the answer is not there. -/
theorem rank_advance (hadToken : Bool) (w : World) (stage : Stage) :
    (stage.advance hadToken w).1.rank ≤ stage.rank - 1 ∧
      (5 ≤ stage.rank → (stage.advance hadToken w).1.rank = stage.rank - 1) := by
  cases stage with
  | answered =>
      refine ⟨?_, fun h => absurd h (by decide)⟩
      cases hsession : w.login.session <;> cases hadToken <;> simp [advance, hsession, rank]
  | ready | sent | ending | warning | settled | returned => simp [advance, rank]

theorem Paced.turn {k : Nat} {stage : Stage} (h : Paced k stage) (hadToken : Bool) (part : Nat)
    (w : World) :
    Paced (k + if part = 0 then 1 else 0) (stage.turn hadToken part w).1 := by
  unfold Paced at h ⊢
  have hadvance := stage.rank_advance hadToken w
  by_cases hgoes : part = 0 ∨ stage = .settled
  · have hturn : stage.turn hadToken part w = stage.advance hadToken w := if_pos hgoes
    rw [hturn]
    rcases hgoes with hpart | rfl
    · rw [if_pos hpart]
      omega
    · -- A call that is settled has had its first three turns already.
      have hlate : 3 ≤ k := by
        have hearly : k < 3 → 1 = 6 - k := h.2
        omega
      simp only [advance, rank]
      omega
  · have hpart : part ≠ 0 := fun hpart => hgoes (.inl hpart)
    have hturn : stage.turn hadToken part w = (stage, w) := if_neg hgoes
    simpa [hturn, hpart] using h

theorem unhandled_of_turn {stage : Stage} {hadToken : Bool} {part : Nat} {w : World}
    (h : (stage.turn hadToken part w).1.Unhandled) : stage.Unhandled := by
  unfold turn at h
  split at h
  · have hadvance := (stage.rank_advance hadToken w).1
    unfold Unhandled at h ⊢
    omega
  · exact h

end Stage
end WebClient
