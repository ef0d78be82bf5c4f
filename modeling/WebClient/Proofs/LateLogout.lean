import WebClient.Proofs.CallEnds
import WebClient.Proofs.StaleReply

/-!
# LateLogout — logouts that end another session

A logout looks whether there is a session, tells the backend, and ends whatever session there is once
that has been dealt with.  While it waits for the backend, others may log in.

* `Farewell` is a logout in a run, up to the turn in which it ends the session; every logout that gets
  turns comes to that turn (`Client.exists_farewell`).
* `departing_session_is_callers_iff`: the session that a logout ends is the one under which it was
  called, unless another session has taken over.
-/

namespace WebClient

/-- A logout in a run: its place, the moves up to the turn in which it ends the session, and that
turn. -/
structure Farewell (client : Client) (p : Pool World Unit) where
  task : Nat
  waits : p.tasks[task]? = some client.logout
  moves : List Move
  comes : (p.run moves).tasks[task]? = some client.depart
  erase : Move
  erase_of : erase.task = task

namespace Farewell

variable {client : Client} {p : Pool World Unit} (f : Farewell client p)

/-- The token of the session under which the logout was called. -/
def callers (_ : Farewell client p) : Option String := p.state.token?

/-- The pool in which the session is about to be ended. -/
def due : Pool World Unit := p.run f.moves

/-- The pool in which the session has been ended. -/
def after : Pool World Unit := f.due.step f.erase

/-- A logout that ends the session as soon as it comes to that. -/
def atOnce {i : Nat} {moves : List Move} (waits : p.tasks[i]? = some client.logout)
    (comes : (p.run moves).tasks[i]? = some client.depart) : Farewell client p :=
  ⟨i, waits, moves, comes, { task := i }, rfl⟩

theorem after_login : f.after.state.login = f.due.state.login.clear := by
  have htask : f.due.tasks[f.erase.task]? = some client.depart := f.erase_of ▸ f.comes
  rw [after, Pool.step_eq htask]
  rfl

end Farewell

namespace Client

variable {client : Client} {p : Pool World Unit} {i : Nat} {moves : List Move}

/-- What a logout goes on with when it has looked at the session. -/
theorem logout_step (part : Nat) (outcome : Outcome) (w : World) :
    client.logout.step part outcome w =
      (if w.login.session.isSome then
        Workflow.single (client.gateway.call Endpoint.Auth.logout) >>= fun _ => client.depart
      else client.depart, w) := rfl

/-- A logout that has had its first turn comes to its departure in at most six turns more. -/
theorem exists_depart (hbegun : p.tasks[i]? = some (if p.state.login.session.isSome then
      Workflow.single (client.gateway.call Endpoint.Auth.logout) >>= fun _ => client.depart
      else client.depart)) (hturns : 6 ≤ moves.countP (·.Of i 0)) :
    ∃ seen rest, moves = seen ++ rest ∧ (p.run seen).tasks[i]? = some client.depart ∧
      seen.countP (·.Of i 0) ≤ 6 := by
  split at hbegun
  · rcases Pool.single_ends hbegun (client.gateway.call_endsWithin _) hturns with
      ⟨seen, rest, _, hmoves, htask, hcount⟩
    exact ⟨seen, rest, hmoves, htask, hcount⟩
  · exact ⟨[], moves, rfl, hbegun, Nat.zero_le 6⟩

/-- A logout that gets turns ends the session in its eighth turn or before. -/
theorem exists_farewell (hwaits : p.tasks[i]? = some client.logout)
    (hturns : 8 ≤ moves.countP (·.Of i 0)) :
    ∃ f : Farewell client p, f.task = i ∧ f.moves ++ [f.erase] <+: moves := by
  -- One turn looks at the session, at most six are the request's, and one more is the departure.
  rcases Pool.exists_next_turn (i := i) (Nat.lt_of_lt_of_le (by decide) hturns) with
    ⟨others, look, rest, rfl, hothers, hlook, hcount⟩
  have hstill : (p.run others).tasks[i]? = some client.logout :=
    (Pool.tasks_run_of_ne hothers).trans hwaits
  have hlooked := Pool.step_self (hlook ▸ hstill) (logout_step look.part look.outcome _)
  rw [hlook, ← hlooked.2] at hlooked
  rcases exists_depart hlooked.1 (show 6 ≤ rest.countP (·.Of i 0) by omega) with
    ⟨seen, rest, rfl, hdepart, hseen⟩
  have hsplit : (seen ++ rest).countP (·.Of i 0) =
      seen.countP (·.Of i 0) + rest.countP (·.Of i 0) := List.countP_append
  rcases Pool.exists_next_turn (show 0 < rest.countP (·.Of i 0) by omega) with
    ⟨others', erase, rest, rfl, hothers', herase, -⟩
  have hcomes : (p.run (others ++ look :: seen ++ others')).tasks[i]? = some client.depart := by
    simpa using (Pool.tasks_run_of_ne hothers').trans hdepart
  exact ⟨⟨i, hwaits, others ++ look :: seen ++ others', hcomes, erase, herase⟩, rfl,
    ⟨rest, by simp⟩⟩

/-- A logout that reaches nobody comes to its departure in five turns, whatever others do while its
request is under way. -/
theorem depart_of_dropped {others : List Move} (hwaits : p.tasks[i]? = some client.logout)
    (hsession : p.state.login.session.isSome)
    (hsendable : client.gateway.Sendable Endpoint.Auth.logout)
    (hothers : ∀ m ∈ others, m.task ≠ i) :
    (p.run (List.replicate 2 { task := i } ++ others ++ List.replicate 3 { task := i })).tasks[i]? =
      some client.depart := by
  have hof : (⟨i, 0, .dropped⟩ : Move).Of i 0 := ⟨rfl, rfl⟩
  have hlooked := (Pool.step_self (m := ⟨i, 0, .dropped⟩) hwaits (logout_step _ _ _)).1
  rw [if_pos hsession] at hlooked
  have hread := (Pool.single_step hlooked Gateway.result?_call hof).1
  rw [Gateway.call_step] at hread
  have hpending := (Pool.tasks_run_of_ne hothers).trans hread
  have hdropped := (Pool.single_step hpending (Gateway.result?_sent hsendable) hof).1
  rw [Gateway.sent_step hsendable] at hdropped
  have htold := (Pool.single_step hdropped rfl hof).1
  have htaken := (Pool.single_done (m := ⟨i, 0, .dropped⟩) htold rfl).1
  simpa [List.replicate] using htaken

end Client

/-- Let any operations be under way at once, over any store and with any answers, and let a logout be
called.  It comes to the turn in which it ends the session, as long as it gets turns, and then ends
the session that is current, in memory and in the store.  That is the session under which the logout
was called, or none, exactly as long as no session with another token has taken over since; while no
operation establishes a session, that is always so. -/
theorem departing_session_is_callers_iff (client : Client) (ops : List Operation) (w : World)
    (earlier : List Move) :
    let p := (client.pool ops w).run earlier
    (∀ i moves, p.tasks[i]? = some client.logout → 8 ≤ moves.countP (·.Of i 0) →
        ∃ f : Farewell client p, f.task = i ∧ f.moves ++ [f.erase] <+: moves) ∧
      ∀ f : Farewell client p,
        f.after.state.login = f.due.state.login.clear ∧
          ((∀ auth, f.due.state.login.session = some auth → some auth.token = f.callers) ↔
            ∀ token, some token ≠ f.callers → ¬ p.TakenOver f.moves token) ∧
          ((∀ op ∈ ops, ¬ op.Establishes) →
            ∀ auth, f.due.state.login.session = some auth → some auth.token = f.callers) := by
  intro p
  refine ⟨fun i moves hwaits hturns => Client.exists_farewell hwaits hturns, fun f => ?_⟩
  refine ⟨f.after_login, Pool.session_kept_iff earlier f.moves, ?_⟩
  intro hops auth hauth
  exact Pool.session_kept_of_no_establishing hops earlier f.moves hauth

/-! ### A login while a logout is pending -/

/-- An answer that lets Bob in. -/
def bobsWelcome : Outcome :=
  .answered 200 (Json.object [("success", .bool true),
    ("data", .object [("token", .string "b"), ("user", AuthSession.bobs.user.toJson)])]).compact

/-- Bob logs in, in the second task. -/
def bobsLogin : List Move :=
  [{ task := 1 }, { task := 1, outcome := bobsWelcome }, { task := 1 }, { task := 1 }]

/-- Alice's logout, and Bob's login before it turns out that the logout has reached nobody. -/
def lateMoves : List Move :=
  List.replicate 2 { task := 0 } ++ bobsLogin ++ List.replicate 3 { task := 0 }

theorem depart_after_lateMoves :
    (((Client.pageless.pool [.logout, .login "bob" "secret"] .alices).run []).run
      lateMoves).tasks[0]? = some Client.pageless.depart :=
  Client.depart_of_dropped rfl rfl (by decide +kernel) (by decide)

/-- The place of Alice's logout among them. -/
def lateFarewell : Farewell Client.pageless
    ((Client.pageless.pool [.logout, .login "bob" "secret"] .alices).run []) :=
  .atOnce rfl depart_after_lateMoves

/-- The logout was called under Alice's session, and yet Bob's is gone from memory and store. -/
theorem late_logout_ends_other_session :
    lateFarewell.callers = some AuthSession.alices.token ∧
      lateFarewell.due.state.token? = some AuthSession.bobs.token ∧
      Dict.get? lateFarewell.due.state.login.store.entries SessionKey.token = some "b" ∧
      lateFarewell.after.state.token? = none ∧
      lateFarewell.after.state.login.store.entries = [] := by
  decide +kernel

theorem late_logout_is_taken_over :
    let p := (Client.pageless.pool [.logout, .login "bob" "secret"] .alices).run []
    let moves := lateFarewell.moves ++ [lateFarewell.erase, { task := 0 }, { task := 0 }]
    p.tasks[0]? = some Client.pageless.logout ∧ 8 ≤ moves.countP (·.Of 0 0) ∧
      (∃ f : Farewell Client.pageless p, f.task = 0 ∧ f.moves ++ [f.erase] <+: moves) ∧
      ¬ ∀ token, some token ≠ lateFarewell.callers → ¬ p.TakenOver lateFarewell.moves token := by
  intro p moves
  have h := departing_session_is_callers_iff Client.pageless
    [.logout, .login "bob" "secret"] .alices []
  have hwaits : p.tasks[0]? = some Client.pageless.logout := rfl
  have hturns : 8 ≤ moves.countP (·.Of 0 0) := by decide
  refine ⟨hwaits, hturns, h.1 0 moves hwaits hturns, fun hnone => ?_⟩
  -- Otherwise Bob's session, which is due to be ended, would carry Alice's token.
  have hcallers := (h.2 lateFarewell).2.1.2 hnone
  have hdue : lateFarewell.due.state.login.session.map (·.token) = some "b" := by decide +kernel
  rcases Option.map_eq_some_iff.1 hdue with ⟨auth, hauth, htoken⟩
  have halices : lateFarewell.callers = some "a" := rfl
  have hother : some auth.token = lateFarewell.callers := hcallers auth hauth
  exact absurd (hother.trans halices) (by simp [htoken])

end WebClient
