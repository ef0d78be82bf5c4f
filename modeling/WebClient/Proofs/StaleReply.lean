import Mathlib.Data.List.Induction
import WebClient.Proofs.CallTurns

/-!
# StaleReply — answers that arrive when another session is current

An answer is about the session whose token the request carried, but it is dealt with under whatever
session is current then.  Two things a client does with answers change the session: a rejected call
clears it, and a refresh installs the identity that it was sent.

* `Pool.TakenOver` says that a session with a certain token was made current in a stretch of a run
  and has stayed.  `Pool.takenOver_iff` shows that there is no other way for a token to be current
  that was not current before.
* `erased_session_is_callers_iff`: the session that a rejected call erases is the one that the call
  was made under, unless another session has taken over.
* `refreshed_session_is_askers_iff`: the same of the session that a refresh gives an identity.
-/

namespace WebClient

/-! ## How a token becomes current -/

/-- What a step on the login makes of the token: it keeps it, drops it, or establishes a session. -/
theorem Login.Section.token_apply (step : Login.Section) (login : Login) :
    (step.apply login).session.token? = login.session.token? ∨
      (step.apply login).session.token? = none ∨ step.Establishes := by
  cases step with
  | change c =>
      cases c with
      | establish auth => exact .inr (.inr trivial)
      | identify user seller =>
          -- Another identity is written beside the token that is there.
          refine .inl ?_
          cases hsession : login.session <;>
            simp [apply, SessionChange.apply, Login.updateIdentity, Login.establish, hsession,
              Session.token?]
      | clear => exact .inr (.inl rfl)
  | assign session =>
      cases session with
      | none => exact .inr (.inl rfl)
      | some auth => exact .inr (.inr trivial)
  | purge => exact .inl rfl
  | read => exact .inl rfl

theorem World.Step.establishes {A : Login.Section → Prop} {w w' : World} {token : String}
    (h : World.Step A w w') (hnew : w'.token? = some token) (hold : w.token? ≠ some token) :
    ∃ step, A step ∧ step.Establishes ∧ w'.login = step.apply w.login := by
  cases h with
  | stay => exact absurd hnew hold
  | emit event => exact absurd hnew hold
  | router step => exact absurd hnew hold
  | login step hstep =>
      refine ⟨step, hstep, ?_, rfl⟩
      have hnew' : (step.apply w.login).session.token? = some token := hnew
      rcases step.token_apply w.login with hkept | hdropped | hestablishes
      · exact absurd (hkept.symm.trans hnew') hold
      · simp [hdropped] at hnew'
      · exact hestablishes

/-- What was not so before a run and is so after it has come about in some move of the run, and has
stayed since. -/
theorem Pool.exists_switch {σ α : Type} {p : Pool σ α} {P : σ → Prop} (moves : List Move)
    (hbefore : ¬ P p.state) (hafter : P (p.run moves).state) :
    ∃ before m since, moves = before ++ m :: since ∧ ¬ P (p.run before).state ∧
      ∀ seen, seen <+: since → P (((p.run before).step m).run seen).state := by
  -- Backwards along the run: either the last move brought it about, or it was so before.
  induction moves using List.reverseRecOn with
  | nil => exact absurd hafter hbefore
  | append_singleton moves m ih =>
      by_cases hlast : P (p.run moves).state
      · rcases ih hlast with ⟨before, m', since, rfl, hnot, hstays⟩
        refine ⟨before, m', since ++ [m], by simp, hnot, ?_⟩
        intro seen hseen
        rcases List.prefix_concat_iff.1 hseen with rfl | hseen
        · simpa using hafter
        · exact hstays seen hseen
      · refine ⟨moves, m, [], rfl, hlast, ?_⟩
        intro seen hseen
        rw [List.prefix_nil.1 hseen]
        simpa using hafter

/-- In the run of `moves` some step made a session with this token current, and since then no move
has made it another. -/
def Pool.TakenOver {α : Type} (p : Pool World α) (moves : List Move) (token : String) : Prop :=
  ∃ before m since step,
    moves = before ++ m :: since ∧
      Login.Section.Establishes step ∧
      ((p.run before).step m).state.login = step.apply (p.run before).state.login ∧
      ∀ seen, seen <+: since → (((p.run before).step m).run seen).state.token? = some token

/-- A token that was not current before a run of operations is current after it exactly if a session
with this token has taken over. -/
theorem Pool.takenOver_iff {client : Client} {ops : List Operation} {w : World}
    {earlier moves : List Move} {token : String}
    (hold : ((client.pool ops w).run earlier).state.token? ≠ some token) :
    (((client.pool ops w).run earlier).run moves).state.token? = some token ↔
      ((client.pool ops w).run earlier).TakenOver moves token := by
  constructor
  · intro hnew
    rcases Pool.exists_switch (P := fun w : World => w.token? = some token) moves hold hnew with
      ⟨before, m, since, rfl, hnot, hstays⟩
    have hstep : World.Step (Client.Allows ops)
        (((client.pool ops w).run earlier).run before).state
        ((((client.pool ops w).run earlier).run before).step m).state := by
      simpa using client.pool_step (earlier ++ before) m
    rcases hstep.establishes (hstays [] List.nil_prefix) hnot with ⟨step, _, hestablishes, hlogin⟩
    exact ⟨before, m, since, step, rfl, hestablishes, hlogin, hstays⟩
  · rintro ⟨before, m, since, step, rfl, _, _, hstays⟩
    simpa using hstays since (List.prefix_refl since)

theorem Pool.token_of_no_establishing {client : Client} {ops : List Operation} {w : World}
    (hops : ∀ op ∈ ops, ¬ op.Establishes) (earlier moves : List Move) {token : String}
    (hnew : (((client.pool ops w).run earlier).run moves).state.token? = some token) :
    ((client.pool ops w).run earlier).state.token? = some token := by
  -- What every step keeps: a token that is current now was current at the beginning.
  have hkeep : ∀ s s' : World, World.Step (Client.Allows ops) s s' →
      (s.token? = some token → ((client.pool ops w).run earlier).state.token? = some token) →
      s'.token? = some token → ((client.pool ops w).run earlier).state.token? = some token := by
    intro s s' hstep hs hs'
    by_cases hold : s.token? = some token
    · exact hs hold
    · rcases hstep.establishes hs' hold with ⟨step, ⟨op, hop, hallows⟩, hestablishes, _⟩
      exact absurd (hallows hestablishes) (hops op hop)
  exact Pool.run_induction (fun _ => .stay) (client.pool_guarantees earlier) hkeep id moves hnew

/-- After a stretch of a run the session, if there is one, has the token that was current before it,
exactly as long as no session with another token has taken over. -/
theorem Pool.session_kept_iff {client : Client} {ops : List Operation} {w : World}
    (earlier moves : List Move) :
    (∀ auth, (((client.pool ops w).run earlier).run moves).state.login.session = some auth →
        some auth.token = ((client.pool ops w).run earlier).state.token?) ↔
      ∀ token, some token ≠ ((client.pool ops w).run earlier).state.token? →
        ¬ ((client.pool ops w).run earlier).TakenOver moves token := by
  constructor
  · intro hkept token hother htaken
    have hcurrent := (Pool.takenOver_iff (Ne.symm hother)).2 htaken
    rcases Option.map_eq_some_iff.1 hcurrent with ⟨auth, hauth, rfl⟩
    exact hother (hkept auth hauth)
  · intro hnone auth hauth
    by_contra hother
    have hcurrent : (((client.pool ops w).run earlier).run moves).state.token? =
        some auth.token := by simp [World.token?, Session.token?, hauth]
    exact hnone auth.token hother ((Pool.takenOver_iff (Ne.symm hother)).1 hcurrent)

theorem Pool.session_kept_of_no_establishing {client : Client} {ops : List Operation} {w : World}
    (hops : ∀ op ∈ ops, ¬ op.Establishes) (earlier moves : List Move) {auth : AuthSession}
    (hauth : (((client.pool ops w).run earlier).run moves).state.login.session = some auth) :
    some auth.token = ((client.pool ops w).run earlier).state.token? := by
  have hcurrent : (((client.pool ops w).run earlier).run moves).state.token? =
      some auth.token := by simp [World.token?, Session.token?, hauth]
  exact (Pool.token_of_no_establishing hops earlier moves hcurrent).symm

/-! ## Rejected calls -/

/-- A call in a run that is rejected: its place, its turns, and the moves of all others in between.
It reads the token, is answered, and comes to clear the session. -/
structure Rejection {α : Type} (g : Gateway) (p : Pool World α) where
  call : Call
  sendable : g.Sendable call
  task : Nat
  part : Nat
  waits : p.At task part (g.call call)
  read : Move
  read_of : read.Of task part
  pending : List Move
  pending_of : ∀ m ∈ pending, ¬ m.Of task part
  answer : Move
  answer_of : answer.Of task part
  rejects : g.Rejects answer.outcome
  queued : List Move
  queued_of : ∀ m ∈ queued, ¬ m.Of task part
  erase : Move
  erase_of : erase.Of task part

namespace Rejection

variable {α : Type} {g : Gateway} {p : Pool World α} (r : Rejection g p)

/-- The token that the call carries. -/
def carried (_ : Rejection g p) : Option String := p.state.token?

/-- All moves up to the clearing of the session. -/
def moves : List Move := r.read :: r.pending ++ r.answer :: r.queued

/-- The pool in which the session is about to be cleared. -/
def due : Pool World α := p.run r.moves

/-- The pool in which the session has been cleared. -/
def after : Pool World α := r.due.step r.erase

theorem due_at :
    r.due.At r.task r.part (Gateway.handleUnauthorized r.carried.isSome) := by
  -- The token is read once and for all in the first turn; others leave the call in its place.
  have hsending := (r.waits.step_self Gateway.result?_call r.read_of).1
  simp only [Gateway.call_step] at hsending
  have hgoing : (g.sent r.call p.state.token?).result? = none := Gateway.result?_sent r.sendable
  have hwaiting := hsending.run_others hgoing r.pending_of
  have hanswered := (hwaiting.step_self hgoing r.answer_of).1
  rw [Gateway.sent_step r.sendable, Gateway.settle_of_rejects r.rejects] at hanswered
  have hqueued := hanswered.run_others (Gateway.result?_handleUnauthorized _) r.queued_of
  simpa [due, moves, carried] using hqueued

theorem after_login : r.after.state.login = r.due.state.login.clear := by
  have hstate := (r.due_at.step_self (Gateway.result?_handleUnauthorized _) r.erase_of).2
  rw [Gateway.handleUnauthorized_step] at hstate
  simp [after, hstate]

end Rejection

/-- A rejected call clears the session that is current then, in memory and in the store.  That is
the session under which the call was made, or none, exactly as long as no session with another token
has taken over; while no operation of the pool establishes a session, that is always so. -/
theorem erased_session_is_callers_iff (client : Client) (ops : List Operation) (w : World)
    (earlier : List Move) (r : Rejection client.gateway ((client.pool ops w).run earlier)) :
    r.after.state.login = r.due.state.login.clear ∧
      ((∀ auth, r.due.state.login.session = some auth → some auth.token = r.carried) ↔
        ∀ token, some token ≠ r.carried →
          ¬ ((client.pool ops w).run earlier).TakenOver r.moves token) ∧
      ((∀ op ∈ ops, ¬ op.Establishes) →
        ∀ auth, r.due.state.login.session = some auth → some auth.token = r.carried) := by
  refine ⟨r.after_login, Pool.session_kept_iff earlier r.moves, ?_⟩
  intro hops auth hauth
  exact Pool.session_kept_of_no_establishing hops earlier r.moves hauth

/-! ### A login while a call is pending -/

/-- Alice's call is rejected; before the rejection is dealt with, Bob logs in. -/
def lateRejection : Rejection Client.pageless.gateway
    ((Client.pageless.pool [.call (.get "/cart"), .change (.establish .bobs)] .alices).run []) where
  call := .get "/cart"
  sendable := by decide +kernel
  task := 0
  part := 0
  waits := ⟨_, _, rfl, rfl⟩
  read := { task := 0 }
  read_of := by decide
  pending := [{ task := 1 }]
  pending_of := by decide
  answer := { task := 0, outcome := .answered 401 "" }
  answer_of := by decide
  rejects := by decide +kernel
  queued := []
  queued_of := by decide
  erase := { task := 0 }
  erase_of := by decide

/-- The call carried Alice's token, and yet Bob's session is gone from memory and store. -/
theorem late_rejection_erases_other_session :
    lateRejection.carried = some AuthSession.alices.token ∧
      lateRejection.due.state.login.session = some .bobs ∧
      Dict.get? lateRejection.due.state.login.store.entries SessionKey.token = some "b" ∧
      lateRejection.after.state.login.session = none ∧
      lateRejection.after.state.login.store.entries = [] :=
  ⟨rfl, rfl, rfl, rfl, rfl⟩

theorem late_rejection_is_taken_over :
    ¬ ∀ token, some token ≠ lateRejection.carried →
      ¬ ((Client.pageless.pool [.call (.get "/cart"), .change (.establish .bobs)]
        .alices).run []).TakenOver lateRejection.moves token := by
  intro hnone
  -- Otherwise Bob's session, which is due to be cleared, would carry Alice's token.
  have hcallers := (erased_session_is_callers_iff _ _ _ _ lateRejection).2.1.2 hnone
  exact absurd (hcallers .bobs rfl) (by decide)

/-! ## Refreshed identities -/

/-- The identity that an answer holds. -/
def Gateway.identity? (g : Gateway) (outcome : Outcome) : Option IdentityPayload :=
  match g.reply? outcome with
  | some (.success message data) => (Reply.success message data).identity.toOption
  | _ => none

theorem Gateway.exists_of_identity? {g : Gateway} {outcome : Outcome} {identity : IdentityPayload}
    (h : g.identity? outcome = some identity) :
    ∃ message data, g.reply? outcome = some (.success message data) ∧
      (Reply.success message data).identity = .ok identity := by
  unfold identity? at h
  split at h
  · rename_i message data hreply
    refine ⟨message, data, hreply, ?_⟩
    cases hidentity : (Reply.success message data).identity with
    | error e => simp [hidentity, Except.toOption] at h
    | ok found => simpa [hidentity, Except.toOption] using h
  · cases h

/-- What a refresh makes of the answer. -/
def Client.takeIdentity (reply : Reply) : Workflow World Bool :=
  match reply.identity with
  | .ok identity => updateUser identity.user identity.seller
  | .error _ => return false

/-- A refresh in a run whose answer holds an identity: its place, its turns, and the moves of all
others in between.  It reads the token, is answered, takes the answer, and comes to install the
identity. -/
structure Refreshment {α : Type} (client : Client) (p : Pool World α) where
  sendable : client.gateway.Sendable Endpoint.Auth.currentUser
  task : Nat
  andThen : Bool → Workflow World α
  waits : p.tasks[task]? = some (client.refreshCurrentUser >>= andThen)
  read : Move
  read_of : read.Of task 0
  pending : List Move
  pending_of : ∀ m ∈ pending, ¬ m.Of task 0
  answer : Move
  answer_of : answer.Of task 0
  identity : IdentityPayload
  identifies : client.gateway.identity? answer.outcome = some identity
  arrived : List Move
  arrived_of : ∀ m ∈ arrived, m.task ≠ task
  take : Move
  take_of : take.task = task
  queued : List Move
  queued_of : ∀ m ∈ queued, m.task ≠ task
  install : Move
  install_of : install.task = task

namespace Refreshment

variable {α : Type} {client : Client} {p : Pool World α} (r : Refreshment client p)

/-- The token that the identity was asked for with. -/
def carried (_ : Refreshment client p) : Option String := p.state.token?

/-- All moves up to the installation of the identity. -/
def moves : List Move :=
  r.read :: r.pending ++ r.answer :: r.arrived ++ r.take :: r.queued

/-- The pool in which the identity is about to be installed. -/
def due : Pool World α := p.run r.moves

/-- The pool in which the identity has been installed, if there was a session. -/
def after : Pool World α := r.due.step r.install

theorem due_task :
    r.due.tasks[r.task]? =
      some (updateUser r.identity.user r.identity.seller >>= r.andThen) := by
  -- As for a rejected call, but the task itself takes the answer before it installs the identity.
  rcases Gateway.exists_of_identity? r.identifies with ⟨message, data, hreply, hidentity⟩
  have hwaits : p.tasks[r.task]? = some (Workflow.single (client.gateway.call
      Endpoint.Auth.currentUser) >>= fun reply => Client.takeIdentity reply >>= r.andThen) :=
    r.waits
  have hgoing : (client.gateway.sent Endpoint.Auth.currentUser p.state.token?).result? = none :=
    Gateway.result?_sent r.sendable
  have hsending := (Pool.single_step hwaits Gateway.result?_call r.read_of).1
  simp only [Gateway.call_step] at hsending
  have hwaiting := Pool.single_run_others hsending hgoing r.pending_of
  have hanswered := (Pool.single_step hwaiting hgoing r.answer_of).1
  rw [Gateway.sent_step r.sendable, Gateway.settle_of_success hreply] at hanswered
  have harrived := (Pool.tasks_run_of_ne r.arrived_of).trans hanswered
  have htaken := (Pool.single_done harrived r.take_of).1
  have hqueued := (Pool.tasks_run_of_ne r.queued_of).trans htaken
  simpa [due, moves, Client.takeIdentity, hidentity] using hqueued

theorem after_login :
    r.after.state.login = r.due.state.login.updateIdentity r.identity.user r.identity.seller := by
  have htask : r.due.tasks[r.install.task]? = _ := r.install_of ▸ r.due_task
  rw [after, Pool.step_eq htask]
  rfl

end Refreshment

/-- An identity that a refresh was sent is installed beside the token that is current then; without
a session nothing changes.  That token is the one that the identity was asked for with exactly as
long as no session with another token has taken over; while no operation of the pool establishes a
session, that is always so. -/
theorem refreshed_session_is_askers_iff (client : Client) (ops : List Operation) (w : World)
    (earlier : List Move) (r : Refreshment client ((client.pool ops w).run earlier)) :
    r.after.state.login = r.due.state.login.updateIdentity r.identity.user r.identity.seller ∧
      ((∀ auth, r.due.state.login.session = some auth → some auth.token = r.carried) ↔
        ∀ token, some token ≠ r.carried →
          ¬ ((client.pool ops w).run earlier).TakenOver r.moves token) ∧
      ((∀ op ∈ ops, ¬ op.Establishes) →
        ∀ auth, r.due.state.login.session = some auth → some auth.token = r.carried) := by
  refine ⟨r.after_login, Pool.session_kept_iff earlier r.moves, ?_⟩
  intro hops auth hauth
  exact Pool.session_kept_of_no_establishing hops earlier r.moves hauth

/-! ### A login while a refresh is pending -/

/-- The answer that tells who Alice is. -/
def alicesAnswer : Outcome :=
  .answered 200 (Json.object [("success", .bool true),
    ("data", .object [("user", AuthSession.alices.user.toJson)])]).compact

/-- Alice's identity is asked for; before it is installed, Bob logs in. -/
def lateRefreshment : Refreshment Client.pageless
    ((Client.pageless.pool [.refresh, .change (.establish .bobs)] .alices).run []) where
  sendable := by decide +kernel
  task := 0
  andThen := fun _ => pure ()
  waits := rfl
  read := { task := 0 }
  read_of := by decide
  pending := [{ task := 1 }]
  pending_of := by decide
  answer := { task := 0, outcome := alicesAnswer }
  answer_of := by decide
  identity := (Client.pageless.gateway.identity? alicesAnswer).get (by decide +kernel)
  identifies := (Option.some_get _).symm
  arrived := []
  arrived_of := by decide
  take := { task := 0 }
  take_of := rfl
  queued := []
  queued_of := by decide
  install := { task := 0 }
  install_of := rfl

/-- Alice's identity stands beside Bob's token, in memory and in the store. -/
theorem late_refreshment_mixes_sessions :
    lateRefreshment.carried = some AuthSession.alices.token ∧
      lateRefreshment.after.state.token? = some AuthSession.bobs.token ∧
      lateRefreshment.after.state.login.session.username? = some AuthSession.alices.user.username ∧
      lateRefreshment.after.state.login.store.entries =
        [(SessionKey.token, AuthSession.bobs.token),
          (SessionKey.user, AuthSession.alices.user.toJson.compact)] := by
  decide +kernel

theorem late_refreshment_is_taken_over :
    ¬ ∀ token, some token ≠ lateRefreshment.carried →
      ¬ ((Client.pageless.pool [.refresh, .change (.establish .bobs)] .alices).run []).TakenOver
        lateRefreshment.moves token := by
  intro hnone
  have haskers := (refreshed_session_is_askers_iff _ _ _ _ lateRefreshment).2.1.2 hnone
  have hcurrent : lateRefreshment.due.state.login.session.map (·.token) = some "b" := by
    decide +kernel
  rcases Option.map_eq_some_iff.1 hcurrent with ⟨auth, hauth, htoken⟩
  have hcarried : lateRefreshment.carried = some "a" := rfl
  have hother : some auth.token = lateRefreshment.carried := haskers auth hauth
  exact absurd (hother.trans hcarried) (by simp [htoken])

end WebClient
