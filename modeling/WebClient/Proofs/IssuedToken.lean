import WebClient.Proofs.Restore
import WebClient.Proofs.StaleReply

/-!
# IssuedToken — which tokens a client takes over

A session comes into memory by a login, by a registration, or from the store.  A load refuses a
stored session with an empty token, while an answer to a login is taken as it is.

* `Workflow.Promises H R` is what a task guarantees as long as all answers that it hears are in `H`;
  `Pool.promises_run` carries it along every schedule, whatever other tasks hear.
* A `BlankTakeover` is a login or registration that has taken an empty token from an answer.
* `blank_token_is_current_iff`: there is no other way for an empty token to become current, and a
  session with such a token is lost at the next start.
-/

namespace WebClient

/-! ## Promises -/

namespace Activity

variable {σ α β : Type}

/-- What the activity promises as long as it hears only answers in `H`: every atomic step is one that
`R` allows, and the result is in `Q`. -/
def Promises (H : Outcome → Prop) (R : σ → σ → Prop) (Q : α → Prop) : Activity σ α → Prop
  | .done a => Q a
  | .atomic update next => (∀ s, R s (update s)) ∧ ∀ s, (next s).Promises H R Q
  | .exchange _ next => ∀ o, H o → (next o).Promises H R Q

namespace Promises

variable {H : Outcome → Prop} {R : σ → σ → Prop} {Q : α → Prop} {Q' : β → Prop}
  {activity : Activity σ α}

theorem of_guarantees (h : activity.Guarantees R) (hresult : ∀ a, Q a) :
    activity.Promises H R Q := by
  induction activity with
  | done a => exact hresult a
  | atomic update next ih => exact ⟨h.1, fun s => ih s (h.2 s)⟩
  | exchange request next ih => exact fun o _ => ih o (h o)

theorem bind {f : α → Activity σ β} (h : activity.Promises H R Q)
    (hf : ∀ a, Q a → (f a).Promises H R Q') : (activity >>= f).Promises H R Q' := by
  change (activity.bind f).Promises H R Q'
  induction activity with
  | done a => exact hf a h
  | atomic update next ih => exact ⟨h.1, fun s => ih s (h.2 s)⟩
  | exchange request next ih => exact fun o ho => ih o (h o ho)

theorem step (h : activity.Promises H R Q) (hrefl : ∀ s, R s s) (outcome : Outcome) (s : σ) :
    R s (activity.step outcome s).2 ∧
      (H outcome → (activity.step outcome s).1.Promises H R Q) := by
  cases activity with
  | done a => exact ⟨hrefl s, fun _ => h⟩
  | atomic update next => exact ⟨h.1 s, fun _ => h.2 s⟩
  | exchange request next => exact ⟨hrefl s, h outcome⟩

/-- Activities that have all finished have kept their promises about the results. -/
theorem results {activities : List (Activity σ α)} {results : List α}
    (h : ∀ activity ∈ activities, activity.Promises H R Q)
    (hresults : results? activities = some results) :
    results.length = activities.length ∧ ∀ a ∈ results, Q a := by
  induction activities generalizing results with
  | nil =>
      cases hresults
      exact ⟨rfl, nofun⟩
  | cons first rest ih =>
      cases first with
      | done a =>
          cases hrest : results? rest with
          | none => simp [results?, hrest] at hresults
          | some as =>
              have hcons : a :: as = results := by simpa [results?, hrest, result?] using hresults
              subst hcons
              have htail := ih (fun activity hmem => h activity (List.mem_cons_of_mem _ hmem)) hrest
              exact ⟨by simp [htail.1], List.forall_mem_cons.2 ⟨h _ List.mem_cons_self, htail.2⟩⟩
      | atomic update next => simp [results?, result?] at hresults
      | exchange request next => simp [results?, result?] at hresults

end Promises
end Activity

namespace Workflow

variable {σ α β : Type}

/-- What the workflow promises as long as it hears only answers in `H`: every atomic step is one that
`R` allows. -/
def Promises (H : Outcome → Prop) (R : σ → σ → Prop) : Workflow σ α → Prop
  | .done _ => True
  | .atomic update next => (∀ s, R s (update s)) ∧ ∀ s, (next s).Promises H R
  | .gather activities next =>
    ∃ Q : Reply → Prop, (∀ activity ∈ activities, activity.Promises H R Q) ∧
      ∀ replies, replies.length = activities.length → (∀ reply ∈ replies, Q reply) →
        (next replies).Promises H R

namespace Promises

variable {H : Outcome → Prop} {R : σ → σ → Prop} {workflow : Workflow σ α}

theorem of_guarantees (h : workflow.Guarantees R) : workflow.Promises H R := by
  induction workflow with
  | done a => trivial
  | atomic update next ih => exact ⟨h.1, fun s => ih s (h.2 s)⟩
  | gather activities next ih =>
      refine ⟨fun _ => True, fun activity hmem => ?_, fun replies _ _ => ih replies (h.2 replies)⟩
      exact .of_guarantees (h.1 activity hmem) fun _ => trivial

theorem bind {f : α → Workflow σ β} (h : workflow.Promises H R)
    (hf : ∀ a, (f a).Promises H R) : (workflow >>= f).Promises H R := by
  change (workflow.bind f).Promises H R
  induction workflow with
  | done a => exact hf a
  | atomic update next ih => exact ⟨h.1, fun s => ih s (h.2 s)⟩
  | gather activities next ih =>
      rcases h with ⟨Q, hactivities, hnext⟩
      exact ⟨Q, hactivities, fun replies hlength hreplies =>
        ih replies (hnext replies hlength hreplies)⟩

/-- What follows on one activity may rely on what that promises of its result. -/
theorem single {activity : Activity σ Reply} {Q : Reply → Prop} {next : Reply → Workflow σ α}
    (h : activity.Promises H R Q) (hnext : ∀ reply, Q reply → (next reply).Promises H R) :
    (Workflow.single activity >>= next).Promises H R := by
  rw [Workflow.single_bind]
  refine ⟨Q, by simpa using h, ?_⟩
  intro replies hlength hreplies
  rcases List.length_eq_one_iff.1 hlength with ⟨reply, rfl⟩
  exact hnext reply (hreplies reply List.mem_cons_self)

/-- A turn is a step that was promised, whatever answer arrives in it; what is left keeps the promise
if the answer is in `H`. -/
theorem step (h : workflow.Promises H R) (hrefl : ∀ s, R s s) (part : Nat) (outcome : Outcome)
    (s : σ) :
    R s (workflow.step part outcome s).2 ∧
      (H outcome → (workflow.step part outcome s).1.Promises H R) := by
  cases workflow with
  | done a => exact ⟨hrefl s, fun _ => trivial⟩
  | atomic update next => exact ⟨h.1 s, fun _ => h.2 s⟩
  | gather activities next =>
      rcases h with ⟨Q, hactivities, hnext⟩
      cases hresults : Activity.results? activities with
      | some replies =>
          have hkept := Activity.Promises.results hactivities hresults
          rw [step_gather_done hresults]
          exact ⟨hrefl s, fun _ => hnext replies hkept.1 hkept.2⟩
      | none =>
          cases hpart : activities[part]? with
          | none =>
              have hidle : (Workflow.gather activities next).step part outcome s =
                  (.gather activities next, s) := by simp [Workflow.step, hresults, hpart]
              rw [hidle]
              exact ⟨hrefl s, fun _ => ⟨Q, hactivities, hnext⟩⟩
          | some activity =>
              have hturn :=
                (hactivities activity (List.mem_of_getElem? hpart)).step hrefl outcome s
              simp only [Workflow.step, hresults, hpart]
              refine ⟨hturn.1, fun ho => ⟨Q, ?_, by simpa using hnext⟩⟩
              intro other hother
              rcases List.mem_or_eq_of_mem_set hother with hother | rfl
              · exact hactivities other hother
              · exact hturn.2 ho

end Promises
end Workflow

namespace Pool

variable {σ α : Type} {H : Outcome → Prop} {R : σ → σ → Prop} {p : Pool σ α} {i : Nat}

/-- A task that has heard only answers in `H` keeps its promise, whatever other tasks do and hear. -/
theorem promises_run (hrefl : ∀ s, R s s) (h : ∀ task, p.tasks[i]? = some task → task.Promises H R)
    {moves : List Move} (hheard : ∀ m ∈ moves, m.task = i → H m.outcome) :
    ∀ task, (p.run moves).tasks[i]? = some task → task.Promises H R := by
  induction moves generalizing p with
  | nil => exact h
  | cons m moves ih =>
      rcases List.forall_mem_cons.1 hheard with ⟨hfirst, hrest⟩
      refine ih (fun task htask => ?_) hrest
      by_cases hm : m.task = i
      · subst hm
        cases hbefore : p.tasks[m.task]? with
        | none => simp [step, hbefore] at htask
        | some before =>
            have hturn := (h before hbefore).step hrefl m.part m.outcome p.state
            rw [(step_self hbefore rfl).1] at htask
            exact Option.some.inj htask ▸ hturn.2 (hfirst rfl)
      · exact h task ((tasks_step_of_ne hm).symm.trans htask)

/-- A turn of a task that has heard only answers in `H` is a step that it promises to take. -/
theorem promises_turn (hrefl : ∀ s, R s s) {m : Move}
    (h : ∀ task, p.tasks[m.task]? = some task → task.Promises H R) {moves : List Move}
    (hheard : ∀ m' ∈ moves, m'.task = m.task → H m'.outcome) :
    R (p.run moves).state ((p.run moves).step m).state := by
  cases htask : (p.run moves).tasks[m.task]? with
  | none =>
      have hstep : (p.run moves).step m = p.run moves := by simp [step, htask]
      rw [hstep]
      exact hrefl _
  | some task =>
      rw [step_eq htask]
      exact ((promises_run hrefl h hheard task htask).step hrefl _ _ _).1

end Pool

/-! ## Tokens in answers -/

/-- The session data that an answer to a login or registration holds. -/
def Gateway.payload? (g : Gateway) (outcome : Outcome) : Option AuthPayload :=
  (g.reply? outcome).bind fun reply => reply.authPayload.toOption.join

/-- Whether an operation asks the backend for a token. -/
def Operation.AsksForToken : Operation → Prop
  | .login _ _ | .register _ _ _ => True
  | _ => False

/-- Whether a step on the login makes this session current, whatever session there was before. -/
def Login.Section.Installs (auth : AuthSession) : Login.Section → Prop
  | .change (.establish new) => new = auth
  | .assign session => session = some auth
  | _ => False

theorem Login.Section.Installs.establishes {step : Login.Section} {auth : AuthSession}
    (h : step.Installs auth) : step.Establishes := by
  cases step with
  | change c =>
      cases c with
      | establish new => trivial
      | identify user seller => exact h.elim
      | clear => exact h.elim
  | assign session =>
      cases h
      trivial
  | purge => exact h.elim
  | read => exact h.elim

theorem World.Step.installs {A : Login.Section → Prop} {w w' : World} {auth : AuthSession}
    (h : World.Step A w w') (hnew : w'.login.session = some auth)
    (hold : w.token? ≠ some auth.token) :
    ∃ step, A step ∧ step.Installs auth ∧ w'.login = step.apply w.login := by
  have htoken : w'.token? = some auth.token := by simp [World.token?, Session.token?, hnew]
  rcases h.establishes htoken hold with ⟨step, hstep, hestablishes, hlogin⟩
  refine ⟨step, hstep, ?_, hlogin⟩
  rw [hlogin] at hnew
  cases step with
  | change c =>
      cases c with
      | establish new => exact Option.some.inj hnew
      | identify user seller => exact hestablishes.elim
      | clear => exact hestablishes.elim
  | assign session => exact hnew
  | purge => exact hestablishes.elim
  | read => exact hestablishes.elim

namespace Gateway

variable {H : Outcome → Prop} {R : World → World → Prop} {A : Login.Section → Prop}
  {B : RouterState.Section → Prop} [admits : World.Admits R A B]

/-- A call that succeeds returns what the gateway reads in an answer that was heard. -/
def Returns (g : Gateway) (H : Outcome → Prop) (reply : Reply) : Prop :=
  reply.isSuccess = true → ∃ outcome, H outcome ∧ g.reply? outcome = some reply

include admits

theorem transportFailure_promises (g : Gateway) :
    transportFailure.Promises H R (g.Returns H) :=
  .bind (.of_guarantees (mention_activity_guarantees _ rfl) fun _ => trivial) fun _ _ => nofun

theorem handleRefusal_promises (g : Gateway) (quiet : Bool) (failure : Failure) :
    (handleRefusal quiet failure).Promises H R (g.Returns H) := by
  cases quiet with
  | true => exact nofun
  | false =>
      exact .bind (.of_guarantees (mention_activity_guarantees _ rfl) fun _ => trivial)
        fun _ _ => nofun

theorem handleUnauthorized_promises (g : Gateway) (hclear : A (.change .clear))
    (hadToken : Bool) : (handleUnauthorized hadToken).Promises H R (g.Returns H) := by
  have hwarn : ∀ message, (toast .warning message : Activity World Unit).Promises H R fun _ => True :=
    fun _ => .of_guarantees (mention_activity_guarantees _ rfl) fun _ => trivial
  refine .bind (.of_guarantees (clearSession_activity_guarantees hclear) fun _ => trivial)
    fun cleared _ => ?_
  cases hadToken with
  | false => cases cleared <;> exact .bind (hwarn _) fun _ _ => nofun
  | true =>
      cases cleared with
      | false => exact nofun
      | true => exact .bind (hwarn _) fun _ _ => nofun

theorem call_promises (g : Gateway) (hclear : A (.change .clear)) (call : Call) :
    (g.call call).Promises H R (g.Returns H) := by
  refine .bind (.of_guarantees currentSession_activity_guarantees fun _ => trivial)
    fun session _ => ?_
  dsimp only
  split
  · exact transportFailure_promises g
  · intro outcome houtcome
    change (g.settle _ _ outcome).Promises H R (g.Returns H)
    unfold settle
    split
    · exact transportFailure_promises g
    · rename_i hreply
      exact fun _ => ⟨outcome, houtcome, hreply⟩
    · split
      · exact handleUnauthorized_promises g hclear _
      · exact handleRefusal_promises g _ _

end Gateway

/-! ## Where an empty token can come from -/

namespace Client

/-- Whether an answer to a login or registration issues this session. -/
def Issues (client : Client) (outcome : Outcome) (auth : AuthSession) : Prop :=
  ∃ payload, client.gateway.payload? outcome = some payload ∧ payload.session = auth

section Promises

variable {H : Outcome → Prop} {auth : AuthSession} (client : Client)
  (hissues : ∀ outcome, H outcome → ¬ client.Issues outcome auth)

include hissues

/-- Whoever has heard no answer that issues a session takes another one over. -/
theorem session_ne_of_returns {reply : Reply} {payload : AuthPayload}
    (hreply : client.gateway.Returns H reply) (hsuccess : reply.isSuccess = true)
    (hpayload : reply.authPayload = .ok (some payload)) : payload.session ≠ auth := by
  rcases hreply hsuccess with ⟨outcome, houtcome, hread⟩
  intro hsession
  refine hissues outcome houtcome ⟨payload, ?_, hsession⟩
  simp [Gateway.payload?, hread, hpayload, Except.toOption]

theorem welcome_promises {reply : Reply} {payload : AuthPayload}
    (hreply : client.gateway.Returns H reply) (hsuccess : reply.isSuccess = true)
    (hpayload : reply.authPayload = .ok (some payload)) (message : String) :
    (client.welcome payload message).Promises H (World.Step fun step => ¬ step.Installs auth) :=
  .of_guarantees (welcome_guarantees id client payload
    (session_ne_of_returns client hissues hreply hsuccess hpayload) message)

theorem login_promises (username password : String) :
    (client.login username password).Promises H
      (World.Step fun step => ¬ step.Installs auth) := by
  refine .single (client.gateway.call_promises id _) fun reply hreply => ?_
  split
  · exact .of_guarantees (.pure _)
  · rename_i hsuccess
    split
    · rename_i payload hpayload
      refine .bind (welcome_promises client hissues hreply ?_ hpayload _) fun _ =>
        .of_guarantees (.pure _)
      simpa using hsuccess
    · exact .of_guarantees (reject_guarantees _)
    · exact .of_guarantees (reject_guarantees _)

theorem register_promises (username email password : String) :
    (client.register username email password).Promises H
      (World.Step fun step => ¬ step.Installs auth) := by
  have hnavigate : ∀ location,
      (client.navigate location).Guarantees (World.Step fun step => ¬ step.Installs auth) :=
    fun location => Router.navigate_guarantees id client.router location
  refine .single (client.gateway.call_promises id _) fun reply hreply => ?_
  dsimp only
  split
  · exact .of_guarantees (.pure _)
  · rename_i hsuccess
    split
    · rename_i payload hpayload
      refine .bind (welcome_promises client hissues hreply ?_ hpayload _) fun _ =>
        .of_guarantees (.pure _)
      simpa using hsuccess
    · exact .of_guarantees (.bind (publish_guarantees _) fun _ =>
        .bind (hnavigate _) fun _ => .pure _)
    · exact .of_guarantees (.bind (hnavigate _) fun _ => .pure _)

end Promises
end Client

/-- An operation that has heard no answer that issues a session with an empty token does not make
that session current: it does not come from the store either. -/
theorem Operation.promises (client : Client) (op : Operation) {auth : AuthSession}
    (hblank : auth.token = "") (hop : op ≠ .change (.establish auth)) :
    (op.perform client).Promises (fun outcome => op.AsksForToken → ¬ client.Issues outcome auth)
      (World.Step fun step => ¬ step.Installs auth) := by
  have hassign : ∀ session : Session, session.token? ≠ some "" →
      ¬ Login.Section.Installs auth (.assign session) := by
    rintro session htoken rfl
    exact htoken (congrArg some hblank)
  -- What establishes nothing cannot make this session current.
  have hother : ¬ op.Establishes → (op.perform client).Promises
      (fun outcome => op.AsksForToken → ¬ client.Issues outcome auth)
      (World.Step fun step => ¬ step.Installs auth) := by
    intro hnot
    exact .of_guarantees ((op.guarantees client).mono fun w w' hstep =>
      hstep.mono fun step hallows hinstalls => hnot (hallows hinstalls.establishes))
  cases op with
  | start initial =>
      exact .of_guarantees (.bind (Client.start_guarantees id (fun _ _ => id) id id hassign client
        initial) fun _ => .pure _)
  | login username password =>
      exact .bind (Client.login_promises client (fun _ houtcome => houtcome trivial) username
        password) fun _ => .of_guarantees (.pure _)
  | register username email password =>
      exact .bind (Client.register_promises client (fun _ houtcome => houtcome trivial) username
        email password) fun _ => .of_guarantees (.pure _)
  | load =>
      exact .of_guarantees (.bind (loadPersisted_guarantees id id hassign) fun _ => .pure _)
  | change c =>
      cases c with
      | establish new =>
          have hnew : new ≠ auth := fun hsame => hop (hsame ▸ rfl)
          exact .of_guarantees (setAuthenticated_guarantees new hnew)
      | identify user seller => exact hother id
      | clear => exact hother id
  | logout | refresh | navigate _ | resolve _ | back | call _ | calls _ => exact hother id

theorem Operation.AsksForToken.not_loads {op : Operation} (h : op.AsksForToken) : ¬ op.Loads := by
  cases op with
  | login username password => exact id
  | register username email password => exact id
  | _ => exact h.elim

/-! ## Empty tokens at the next start -/

/-- A stored session with an empty token counts as broken state. -/
theorem Store.Works.verdict_of_blank {store : Store} {auth : AuthSession} (hworks : store.Works)
    (hholds : store.Holds auth) (hblank : auth.token = "") : store.verdict = .broken := by
  have htoken : store.read SessionKey.token = .ok (some "") := by
    rw [hworks.read_eq, hholds _ (by decide)]
    exact congrArg (Except.ok ∘ some) hblank
  have huser : store.tick.read SessionKey.user = .ok (some auth.user.toJson.compact) := by
    rw [hworks.tick.read_eq]
    exact congrArg Except.ok (hholds _ (by decide))
  simp [Store.verdict, htoken, huser, StoredSession.judge]

/-- The next start finds no session, and removes what was stored. -/
theorem Store.Works.purged_of_blank {store : Store} {auth : AuthSession} (hworks : store.Works)
    (hholds : store.Holds auth) (hblank : auth.token = "") :
    store.restored = none ∧
      ∀ key ∈ SessionKey.all, Dict.get? store.loaded.entries key = none := by
  have hbroken := hworks.verdict_of_blank hholds hblank
  have hkept : store.refusesPurge = false := by
    have hjudged : store.judged.faults = store.faults := by
      unfold Store.judged
      split <;> rfl
    simp [Store.refusesPurge, Store.refuses, hjudged, hworks.write]
  refine ⟨by simp [Store.restored, hbroken], fun key hkey => ?_⟩
  rw [Store.entries_loaded_of_broken hbroken, hkept]
  simp [Login.get?_purgeChanges, hkey]

/-! ## Runs -/

/-- A login or registration in the run of `moves` that has taken an empty token from an answer: it
has heard the answer, established its session, and no move since has made the token another. -/
structure BlankTakeover (client : Client) (ops : List Operation) (w : World) (moves : List Move) where
  before : List Move
  take : Move
  since : List Move
  moves_eq : moves = before ++ take :: since
  op : Operation
  op_eq : ops[take.task]? = some op
  asks : op.AsksForToken
  answer : Move
  answer_mem : answer ∈ before
  answer_of : answer.task = take.task
  payload : AuthPayload
  issued : client.gateway.payload? answer.outcome = some payload
  blank : payload.token = ""
  taken : (((client.pool ops w).run before).step take).state.login =
    ((client.pool ops w).run before).state.login.establish payload.session
  stays : ∀ seen, seen <+: since →
    (((client.pool ops w).run before).step take |>.run seen).state.token? = some ""

namespace Client

variable {client : Client} {ops : List Operation} {w : World} {before : List Move} {m : Move}
  {op : Operation} {auth : AuthSession}

/-- In a pool of operations only moves of operations do anything. -/
theorem pool_step_of_none (h : ops[m.task]? = none) :
    ((client.pool ops w).run before).step m = (client.pool ops w).run before := by
  have htask : ((client.pool ops w).run before).tasks[m.task]? = none := by
    rw [List.getElem?_eq_none_iff] at h ⊢
    simpa [pool] using h
  simp [Pool.step, htask]

/-- What an operation promises, its moves in a pool keep, as long as it has heard nothing else. -/
theorem pool_promises_turn {H : Outcome → Prop} {A : Login.Section → Prop}
    (hop : ops[m.task]? = some op) (h : (op.perform client).Promises H (World.Step A))
    (hheard : ∀ m' ∈ before, m'.task = m.task → H m'.outcome) :
    World.Step A ((client.pool ops w).run before).state
      (((client.pool ops w).run before).step m).state := by
  refine Pool.promises_turn (fun _ => .stay) (fun task htask => ?_) hheard
  have hperform : op.perform client = task := by simpa [pool, hop] using htask
  exact hperform ▸ h

/-- A session with an empty token that becomes current in a move has been issued to the operation
whose move it is. -/
theorem exists_answer_of_blank (hblank : auth.token = "")
    (hops : ∀ auth, .change (.establish auth) ∈ ops → auth.token ≠ "")
    (hop : ops[m.task]? = some op)
    (hold : ((client.pool ops w).run before).state.token? ≠ some auth.token)
    (hnew : (((client.pool ops w).run before).step m).state.login.session = some auth) :
    ∃ answer ∈ before, answer.task = m.task ∧ op.AsksForToken ∧
      client.Issues answer.outcome auth := by
  by_contra hnone
  push Not at hnone
  have hchange : op ≠ .change (.establish auth) := by
    rintro rfl
    exact hops auth (List.mem_of_getElem? hop) hblank
  have hturn := pool_promises_turn (w := w) hop (op.promises client hblank hchange) hnone
  rcases hturn.installs hnew hold with ⟨step, hspares, hinstalls, -⟩
  exact hspares hinstalls

/-- An operation that asks for a token makes a session current by establishing it. -/
theorem login_of_asks (hop : ops[m.task]? = some op) (hasks : op.AsksForToken)
    (hold : ((client.pool ops w).run before).state.token? ≠ some auth.token)
    (hnew : (((client.pool ops w).run before).step m).state.login.session = some auth) :
    (((client.pool ops w).run before).step m).state.login =
      ((client.pool ops w).run before).state.login.establish auth := by
  have hpromises := Workflow.Promises.of_guarantees (H := fun _ => True)
    (op.guarantees_of_not_loads client hasks.not_loads)
  have hturn : World.Step (fun step => ∃ change, step = .change change)
      ((client.pool ops w).run before).state (((client.pool ops w).run before).step m).state :=
    pool_promises_turn hop hpromises fun _ _ _ => trivial
  rcases hturn.installs hnew hold with ⟨step, ⟨change, rfl⟩, hinstalls, hlogin⟩
  cases change with
  | establish new =>
      cases hinstalls
      exact hlogin
  | identify user seller => exact hinstalls.elim
  | clear => exact hinstalls.elim

theorem exists_blankTakeover {moves : List Move} (hw : w.token? ≠ some "")
    (hops : ∀ auth, .change (.establish auth) ∈ ops → auth.token ≠ "")
    (hblank : ((client.pool ops w).run moves).state.token? = some "") :
    Nonempty (BlankTakeover client ops w moves) := by
  -- Some move has made the token empty, and its task must have taken the session over.
  rcases Pool.exists_switch (p := client.pool ops w) (P := fun w : World => w.token? = some "")
    moves hw hblank with ⟨before, m, since, rfl, hnot, hstays⟩
  have hnow : (((client.pool ops w).run before).step m).state.token? = some "" :=
    hstays [] List.nil_prefix
  rcases Option.map_eq_some_iff.1 hnow with ⟨auth, hauth, htoken⟩
  have hold : ((client.pool ops w).run before).state.token? ≠ some auth.token := htoken ▸ hnot
  cases hop : ops[m.task]? with
  | none => exact absurd (pool_step_of_none hop ▸ hnow) hnot
  | some op =>
      rcases exists_answer_of_blank htoken hops hop hold hauth with
        ⟨answer, hmem, hof, hasks, payload, hissued, rfl⟩
      exact ⟨⟨before, m, since, rfl, op, hop, hasks, answer, hmem, hof, payload, hissued, htoken,
        login_of_asks hop hasks hold hauth, hstays⟩⟩

end Client

/-- Let any operations be under way at once, over any store and with any answers, and let none of
them be told from outside to establish a session with an empty token.  Then a session with an empty
token is current exactly if a login or registration has taken it over from an answer, and nobody has
replaced or ended it since; while no answer to a login or registration issues an empty token, there
is none.  A working store that was given such a session is purged of it at the next start, while a
session that can be read back, and its token is not empty then, is found again. -/
theorem blank_token_is_current_iff (client : Client) (ops : List Operation) (w : World)
    (hw : w.token? ≠ some "") (hops : ∀ auth, .change (.establish auth) ∈ ops → auth.token ≠ "")
    (moves : List Move) :
    let w' := ((client.pool ops w).run moves).state
    ((∃ auth, w'.login.session = some auth ∧ auth.token = "") ↔
        Nonempty (BlankTakeover client ops w moves)) ∧
      ((∀ m ∈ moves, ∀ op, ops[m.task]? = some op → op.AsksForToken →
          ∀ payload, client.gateway.payload? m.outcome = some payload → payload.token ≠ "") →
        ∀ auth, w'.login.session = some auth → auth.token ≠ "") ∧
      ∀ (login : Login) (auth : AuthSession) (backend : Backend), login.store.Works →
        let store := (login.establish auth).store
        let load := (loadPersisted : Workflow World Session).run backend ⟨World.fresh store, []⟩
        (auth.token = "" → load.1 = none ∧
            ∀ key ∈ SessionKey.all, Dict.get? load.2.state.login.store.entries key = none) ∧
          (auth.ReadsBack → load.1 = some auth ∧
            load.2.state.login.store.entries = store.entries) := by
  intro w'
  have hiff : (∃ auth, w'.login.session = some auth ∧ auth.token = "") ↔
      Nonempty (BlankTakeover client ops w moves) := by
    constructor
    · rintro ⟨auth, hauth, hblank⟩
      refine Client.exists_blankTakeover hw hops ?_
      simp [World.token?, Session.token?, w', hauth, hblank]
    · rintro ⟨t⟩
      have htoken : w'.token? = some "" := by
        simpa [w', t.moves_eq] using t.stays t.since List.prefix_rfl
      exact Option.map_eq_some_iff.1 htoken
  refine ⟨hiff, ?_, ?_⟩
  · intro hissued auth hauth hblank
    rcases hiff.1 ⟨auth, hauth, hblank⟩ with ⟨t⟩
    have hanswer : t.answer ∈ t.before ++ t.take :: t.since :=
      List.mem_append_left _ t.answer_mem
    rw [← t.moves_eq] at hanswer
    exact hissued t.answer hanswer t.op (t.answer_of ▸ t.op_eq) t.asks t.payload t.issued t.blank
  · intro login auth backend hworks store load
    have hload : load = _ := run_loadPersisted backend ⟨World.fresh store, []⟩
    have hstore : store.Works := by
      simp only [store, Login.establish, hworks.write_eq]
      exact ⟨hworks.read, hworks.write⟩
    have hholds : store.Holds auth := hworks.holds_establish auth
    rw [hload]
    refine ⟨fun hblank => hstore.purged_of_blank hholds hblank, fun hreads => ?_⟩
    refine ⟨hstore.restored_eq hholds hreads, ?_⟩
    change store.loaded.entries = store.entries
    rw [Store.loaded_of_found (hstore.verdict_eq hholds hreads)]
    rfl

/-- An answer that issues an empty token. -/
def blankAnswer : Outcome :=
  .answered 200 (Json.object [("success", .bool true),
    ("data", .object [("token", .string ""), ("user", AuthSession.alices.user.toJson)])]).compact

/-- Alice logs in, is answered, and her session is established. -/
def blankLogin : List Move :=
  [{ task := 0 }, { task := 0, outcome := blankAnswer }, { task := 0 }, { task := 0 }]

/-- Alice's token is empty, in memory and in the store, and the next start loses her session. -/
theorem blank_login_is_lost :
    let w := ((Client.pageless.pool [.login "alice" "secret"] (.fresh (.working []))).run
      blankLogin).state
    let load := (loadPersisted : Workflow World Session).run Backend.unreachable
      ⟨World.fresh w.login.store, []⟩
    w.login.session.map (fun auth => (auth.token, auth.user.username)) = some ("", "alice") ∧
      Dict.get? w.login.store.entries SessionKey.token = some "" ∧
      load.1.isNone = true ∧ load.2.state.login.store.entries = [] := by
  decide +kernel

theorem blank_login_is_takeover :
    Nonempty (BlankTakeover Client.pageless [.login "alice" "secret"] (.fresh (.working []))
      blankLogin) := by
  have hops : ∀ auth, .change (.establish auth) ∈ [Operation.login "alice" "secret"] →
      auth.token ≠ "" := by simp
  have h := blank_token_is_current_iff .pageless [.login "alice" "secret"] (.fresh (.working []))
    (by decide) hops blankLogin
  refine h.1.1 (Option.map_eq_some_iff.1 ?_)
  have hblank : ((Client.pageless.pool [.login "alice" "secret"] (.fresh (.working []))).run
      blankLogin).state.token? = some "" := by decide +kernel
  exact hblank

end WebClient
