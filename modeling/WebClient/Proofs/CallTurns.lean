import WebClient.Proofs.Operation

/-!
# CallTurns — a call to the backend, turn by turn

A call reads the token, waits for the answer to its request, and deals with the answer.  This module
names what is left of a call after each of its turns, so that a call under way in a pool can be
followed without looking into it.

* `Gateway.sent` is a call that has read its token.
* `Gateway.Rejects` says of an answer that it refuses a call for want of valid credentials; the call
  then clears the session in one turn (`Gateway.handleUnauthorized_step`).
* Whoever ends a session goes on as `Gateway.ending`; who has only a warning left, as
  `Gateway.warning`.
-/

namespace WebClient

/-- The token of the moment. -/
def World.token? (w : World) : Option String := w.login.session.token?

namespace Gateway

variable {g : Gateway} {call : Call} {token : Option String} {outcome : Outcome} {w : World}

/-! ## Sending -/

/-- A call that has read its token. -/
def sent (g : Gateway) (call : Call) (token : Option String) : Activity World Reply :=
  match call.request? g.base token with
  | none => transportFailure
  | some request => do
    let outcome ← Activity.send request
    g.settle call.quiet token.isSome outcome

/-- Whether a request can be made for a call. -/
def Sendable (g : Gateway) (call : Call) : Prop := (call.request? g.base none).isSome

instance (g : Gateway) (call : Call) : Decidable (g.Sendable call) :=
  inferInstanceAs (Decidable ((call.request? g.base none).isSome = true))

/-- Whether a request can be made does not hang on the token. -/
theorem Sendable.exists_request (h : g.Sendable call) (token : Option String) :
    ∃ request, call.request? g.base token = some request := by
  -- The token goes into a header; whether there is a request is a matter of the address.
  unfold Sendable Call.request? at h
  unfold Call.request?
  split at h
  · simp at h
  · split at h
    · rename_i url _ hhttp
      simp [hhttp]
    · simp at h

/-- A call reads the token first. -/
theorem call_eq_bind (g : Gateway) (call : Call) :
    g.call call = Activity.bind currentSession fun session => g.sent call session.token? := by
  refine congrArg (Activity.bind currentSession) (funext fun session => ?_)
  unfold sent
  cases hrequest : call.request? g.base session.token? <;> simp only [hrequest]

theorem call_eq_atomic (g : Gateway) (call : Call) :
    g.call call = .atomic id fun w => g.sent call w.token? := by
  have hread : ∀ f : Session → Activity World Reply,
      Activity.bind currentSession f = .atomic id fun w => f w.login.session := fun _ => rfl
  exact (g.call_eq_bind call).trans (hread _)

theorem call_step : (g.call call).step outcome w = (g.sent call w.token?, w) := by
  rw [call_eq_atomic]
  rfl

theorem result?_call : (g.call call).result? = none := rfl

theorem sent_step (h : g.Sendable call) :
    (g.sent call token).step outcome w = (g.settle call.quiet token.isSome outcome, w) := by
  rcases h.exists_request token with ⟨request, hrequest⟩
  simp only [sent, hrequest]
  rfl

theorem result?_sent (h : g.Sendable call) : (g.sent call token).result? = none := by
  rcases h.exists_request token with ⟨request, hrequest⟩
  simp only [sent, hrequest]
  rfl

/-! ## Rejected calls -/

/-- Whether an answer refuses a call for want of valid credentials. -/
def Rejects (g : Gateway) (outcome : Outcome) : Prop :=
  ∃ failure, g.reply? outcome = some (.failure failure) ∧ failure.isUnauthorized = true

instance (g : Gateway) (outcome : Outcome) : Decidable (g.Rejects outcome) :=
  match hreply : g.reply? outcome with
  | some (.failure failure) =>
    if hkind : failure.isUnauthorized then .isTrue ⟨failure, hreply, hkind⟩
    else .isFalse fun ⟨other, hother, hkind'⟩ => by
      rw [hreply] at hother
      cases hother
      exact hkind hkind'
  | some (.success _ _) => .isFalse fun ⟨_, hother, _⟩ => by simp [hreply] at hother
  | none => .isFalse fun ⟨_, hother, _⟩ => by simp [hreply] at hother

/-- What a rejected call comes to. -/
def rejection (hadToken : Bool) : Reply :=
  .failure (.unauthorized (if hadToken then sessionExpired else loginRequired))

/-- A rejected call that has a warning left to give. -/
def warning (hadToken : Bool) : Activity World Reply := do
  toast .warning (if hadToken then sessionExpired else loginRequired)
  return rejection hadToken

/-- A rejected call that has ended a session and not told of it. -/
def ending (hadToken : Bool) : Activity World Reply := do
  announce none
  warning hadToken

/-- A rejected call that has cleared the session, given the session that there was. -/
def cleared (hadToken : Bool) : Session → Activity World Reply
  | some _ => ending hadToken
  | none => if hadToken then .done (rejection hadToken) else warning hadToken

theorem settle_of_rejects (h : g.Rejects outcome) (quiet hadToken : Bool) :
    g.settle quiet hadToken outcome = handleUnauthorized hadToken := by
  rcases h with ⟨failure, hreply, hkind⟩
  simp [settle, hreply, hkind]

theorem settle_of_success {message : Option String} {data : Option Json}
    (h : g.reply? outcome = some (.success message data)) (quiet hadToken : Bool) :
    g.settle quiet hadToken outcome = .done (.success message data) := by
  simp only [settle, h]
  rfl

/-- A rejected call clears whatever session there is, in memory and in the store. -/
theorem handleUnauthorized_step (hadToken : Bool) :
    (handleUnauthorized hadToken).step outcome w =
      (cleared hadToken w.login.session, { w with login := w.login.clear }) := by
  rcases w with ⟨⟨session, store⟩, router, events⟩
  cases session <;> cases hadToken <;> rfl

theorem result?_handleUnauthorized (hadToken : Bool) :
    (handleUnauthorized hadToken).result? = none := rfl

theorem ending_step (hadToken : Bool) :
    (ending hadToken).step outcome w = (warning hadToken, w.emit (.ofSession none)) := rfl

theorem warning_step (hadToken : Bool) :
    (warning hadToken).step outcome w =
      (.done (rejection hadToken),
        w.emit (.toast .warning (if hadToken then sessionExpired else loginRequired))) := rfl

end Gateway

/-! ## A client to try things on -/

/-- A client without pages. -/
def Client.pageless : Client where
  settings := {}
  router :=
    { table := ⟨[], [], .notFound⟩
      loginPath := "/login"
      gateway := ⟨"http://localhost/api", .auto⟩ }

/-- The session of one user. -/
def AuthSession.alices : AuthSession := { token := "a", user := { id := 1, username := "alice" } }

/-- The session of another user. -/
def AuthSession.bobs : AuthSession := { token := "b", user := { id := 2, username := "bob" } }

/-- A client with a session that is in its store as well. -/
def World.alices : World := { login := Login.establish { store := .working [] } .alices }

end WebClient
