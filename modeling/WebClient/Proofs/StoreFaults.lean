import WebClient.Proofs.CallTurns

/-!
# StoreFaults — a store that fails goes unnoticed

The session lives in memory; the store only follows.  Two clients that differ in nothing but their
stores, and in which of the operations on them fail, go through the same sessions, return the same
answers and publish the same events, step by step.

* `Workflow.Respects E` says of a workflow that it cannot tell states apart that `E` relates:
  it goes on in the same way from both, and leaves them related.
* `Workflow.Respects.run` and `Pool.Related.run` carry that to the run of a workflow by itself and
  to every schedule of a pool.
* `World.SameButStore` relates clients that differ in their stores, and `store_faults_go_unnoticed`
  is about any sequence, and any schedule, of operations on the session.
-/

namespace WebClient

variable {σ α β : Type} {E : σ → σ → Prop}

/-! ## Activities that cannot tell states apart -/

namespace Activity

/-- From related states the activity goes on in the same way, and leaves them related. -/
def Respects (E : σ → σ → Prop) : Activity σ α → Prop
  | .done _ => True
  | .atomic update next =>
    (∀ s s', E s s' → E (update s) (update s') ∧ next s = next s') ∧ ∀ s, (next s).Respects E
  | .exchange _ next => ∀ outcome, (next outcome).Respects E

namespace Respects

variable {activity : Activity σ α}

theorem pure (a : α) : (Pure.pure a : Activity σ α).Respects E := trivial

theorem bind {f : α → Activity σ β} (h : activity.Respects E) (hf : ∀ a, (f a).Respects E) :
    (activity >>= f).Respects E := by
  change (activity.bind f).Respects E
  induction activity with
  | done a => exact hf a
  | atomic update next ih =>
      refine ⟨fun s s' hs => ?_, fun s => ih s (h.2 s)⟩
      rcases h.1 s s' hs with ⟨hupdate, hnext⟩
      exact ⟨hupdate, congrArg (Activity.bind · f) hnext⟩
  | exchange request next ih => exact fun outcome => ih outcome (h outcome)

theorem modifyGet {f : σ → α × σ} (h : ∀ s s', E s s' → (f s).1 = (f s').1 ∧ E (f s).2 (f s').2) :
    (MonadStateOf.modifyGet f : Activity σ α).Respects E :=
  ⟨fun s s' hs => ⟨(h s s' hs).2, congrArg Activity.done (h s s' hs).1⟩, fun _ => trivial⟩

theorem send (request : Request) : (Activity.send request : Activity σ Outcome).Respects E :=
  fun _ => trivial

theorem step (h : activity.Respects E) {s s' : σ} (hs : E s s') (outcome : Outcome) :
    (activity.step outcome s).1 = (activity.step outcome s').1 ∧
      E (activity.step outcome s).2 (activity.step outcome s').2 ∧
      (activity.step outcome s).1.Respects E := by
  cases activity with
  | done a => exact ⟨rfl, hs, trivial⟩
  | atomic update next =>
      rcases h.1 s s' hs with ⟨hupdate, hnext⟩
      exact ⟨hnext, hupdate, h.2 s⟩
  | exchange request next => exact ⟨rfl, hs, h outcome⟩

end Respects
end Activity

/-- Related states, after the same requests. -/
def Wired.Related (E : σ → σ → Prop) (s s' : Wired σ) : Prop :=
  E s.state s'.state ∧ s.sent = s'.sent

namespace Activity

variable {s s' : Wired σ} {activity : Activity σ α} (backend : Backend)

theorem Respects.run (h : activity.Respects E) (hs : s.Related E s') :
    (activity.run backend s).1 = (activity.run backend s').1 ∧
      (activity.run backend s).2.Related E (activity.run backend s').2 := by
  induction activity generalizing s s' with
  | done a => exact ⟨rfl, hs⟩
  | atomic update next ih =>
      rcases h.1 _ _ hs.1 with ⟨hupdate, hnext⟩
      unfold Activity.run
      rw [← hnext]
      exact ih s.state (h.2 s.state) ⟨hupdate, hs.2⟩
  | exchange request next ih =>
      unfold Activity.run
      rw [← hs.2]
      exact ih _ (h _) ⟨hs.1, rfl⟩

theorem Respects.launch (h : activity.Respects E) (hs : s.Related E s') :
    (activity.launch backend s).1 = (activity.launch backend s').1 ∧
      (activity.launch backend s).1.Respects E ∧
      (activity.launch backend s).2.Related E (activity.launch backend s').2 := by
  induction activity generalizing s s' with
  | done a => exact ⟨rfl, trivial, hs⟩
  | atomic update next ih =>
      rcases h.1 _ _ hs.1 with ⟨hupdate, hnext⟩
      unfold Activity.launch
      rw [← hnext]
      exact ih s.state (h.2 s.state) ⟨hupdate, hs.2⟩
  | exchange request next ih =>
      unfold Activity.launch
      rw [← hs.2]
      exact ⟨rfl, h _, hs.1, rfl⟩

variable {activities : List (Activity σ α)}

theorem Respects.launchAll (h : ∀ activity ∈ activities, activity.Respects E)
    (hs : s.Related E s') :
    (launchAll backend activities s).1 = (launchAll backend activities s').1 ∧
      (∀ activity ∈ (launchAll backend activities s).1, activity.Respects E) ∧
      (launchAll backend activities s).2.Related E (launchAll backend activities s').2 := by
  induction activities generalizing s s' with
  | nil => exact ⟨rfl, h, hs⟩
  | cons activity activities ih =>
      rcases List.forall_mem_cons.1 h with ⟨hfirst, hrest⟩
      rcases hfirst.launch backend hs with ⟨hsame, hlaunched, hrelated⟩
      rcases ih hrest hrelated with ⟨hsames, hall, hrelated'⟩
      have hboth := congr (congrArg List.cons hsame) hsames
      exact ⟨hboth, List.forall_mem_cons.2 ⟨hlaunched, hall⟩, hrelated'⟩

theorem Respects.runAll (h : ∀ activity ∈ activities, activity.Respects E)
    (hs : s.Related E s') :
    (runAll backend activities s).1 = (runAll backend activities s').1 ∧
      (runAll backend activities s).2.Related E (runAll backend activities s').2 := by
  induction activities generalizing s s' with
  | nil => exact ⟨rfl, hs⟩
  | cons activity activities ih =>
      rcases List.forall_mem_cons.1 h with ⟨hfirst, hrest⟩
      rcases hfirst.run backend hs with ⟨hsame, hrelated⟩
      rcases ih hrest hrelated with ⟨hsames, hrelated'⟩
      have hboth := congr (congrArg List.cons hsame) hsames
      exact ⟨hboth, hrelated'⟩

end Activity

/-! ## Workflows that cannot tell states apart -/

namespace Workflow

/-- From related states the workflow goes on in the same way, and leaves them related. -/
def Respects (E : σ → σ → Prop) : Workflow σ α → Prop
  | .done _ => True
  | .atomic update next =>
    (∀ s s', E s s' → E (update s) (update s') ∧ next s = next s') ∧ ∀ s, (next s).Respects E
  | .gather activities next =>
    (∀ activity ∈ activities, activity.Respects E) ∧ ∀ replies, (next replies).Respects E

namespace Respects

variable {workflow : Workflow σ α}

theorem pure (a : α) : (Pure.pure a : Workflow σ α).Respects E := trivial

theorem bind {f : α → Workflow σ β} (h : workflow.Respects E) (hf : ∀ a, (f a).Respects E) :
    (workflow >>= f).Respects E := by
  change (workflow.bind f).Respects E
  induction workflow with
  | done a => exact hf a
  | atomic update next ih =>
      refine ⟨fun s s' hs => ?_, fun s => ih s (h.2 s)⟩
      rcases h.1 s s' hs with ⟨hupdate, hnext⟩
      exact ⟨hupdate, congrArg (Workflow.bind · f) hnext⟩
  | gather activities next ih => exact ⟨h.1, fun replies => ih replies (h.2 replies)⟩

theorem modifyGet {f : σ → α × σ} (h : ∀ s s', E s s' → (f s).1 = (f s').1 ∧ E (f s).2 (f s').2) :
    (MonadStateOf.modifyGet f : Workflow σ α).Respects E :=
  ⟨fun s s' hs => ⟨(h s s' hs).2, congrArg Workflow.done (h s s' hs).1⟩, fun _ => trivial⟩

theorem single {activity : Activity σ Reply} (h : activity.Respects E) :
    (Workflow.single activity).Respects E :=
  ⟨by simpa using h, fun _ => trivial⟩

/-- By itself the workflow comes to the same result from related states, and sends the same
requests. -/
theorem run (backend : Backend) {s s' : Wired σ} (h : workflow.Respects E)
    (hs : s.Related E s') :
    (workflow.run backend s).1 = (workflow.run backend s').1 ∧
      (workflow.run backend s).2.Related E (workflow.run backend s').2 := by
  induction workflow generalizing s s' with
  | done a => exact ⟨rfl, hs⟩
  | atomic update next ih =>
      rcases h.1 _ _ hs.1 with ⟨hupdate, hnext⟩
      unfold Workflow.run
      rw [← hnext]
      exact ih s.state (h.2 s.state) ⟨hupdate, hs.2⟩
  | gather activities next ih =>
      rcases Activity.Respects.launchAll backend h.1 hs with
        ⟨hlaunched, hall, hrelated⟩
      rcases Activity.Respects.runAll backend hall hrelated with
        ⟨hreplies, hrelated'⟩
      -- The same activities are under way, so the same replies come in.
      have hrun : ∀ s : Wired σ, (Workflow.gather activities next).run backend s =
          (next (Activity.runAll backend (Activity.launchAll backend activities s).1
            (Activity.launchAll backend activities s).2).1).run backend
            (Activity.runAll backend (Activity.launchAll backend activities s).1
              (Activity.launchAll backend activities s).2).2 := fun _ => rfl
      rw [hrun s, hrun s', ← hlaunched, ← hreplies]
      exact ih _ (h.2 _) hrelated'

theorem step (part : Nat) (outcome : Outcome) {s s' : σ} (h : workflow.Respects E) (hs : E s s') :
    (workflow.step part outcome s).1 = (workflow.step part outcome s').1 ∧
      E (workflow.step part outcome s).2 (workflow.step part outcome s').2 ∧
      (workflow.step part outcome s).1.Respects E := by
  cases workflow with
  | done a => exact ⟨rfl, hs, trivial⟩
  | atomic update next =>
      rcases h.1 s s' hs with ⟨hupdate, hnext⟩
      exact ⟨hnext, hupdate, h.2 s⟩
  | gather activities next =>
      cases hresults : Activity.results? activities with
      | some replies =>
          rw [step_gather_done hresults, step_gather_done hresults]
          exact ⟨rfl, hs, h.2 replies⟩
      | none =>
          cases hpart : activities[part]? with
          | none => simpa [Workflow.step, hresults, hpart] using ⟨hs, h⟩
          | some activity =>
              have hmem := List.mem_of_getElem? hpart
              rcases (h.1 activity hmem).step hs outcome with ⟨hsame, hrelated, hrest⟩
              simp only [Workflow.step, hresults, hpart, hsame]
              refine ⟨trivial, hrelated, ?_, h.2⟩
              intro other hother
              rcases List.mem_or_eq_of_mem_set hother with hother | rfl
              · exact h.1 other hother
              · exact hsame ▸ hrest

end Respects
end Workflow

namespace Pool

variable {p p' : Pool σ α}

/-- The same tasks, none of which can tell the states apart that they are under way on. -/
structure Related (E : σ → σ → Prop) (p p' : Pool σ α) : Prop where
  tasks : p.tasks = p'.tasks
  state : E p.state p'.state
  respects : ∀ task ∈ p.tasks, task.Respects E

theorem Related.step (h : p.Related E p') (m : Move) : (p.step m).Related E (p'.step m) := by
  rcases h with ⟨htasks, hstate, hrespects⟩
  cases htask : p.tasks[m.task]? with
  | none =>
      have hsame : p.step m = p := by simp [Pool.step, htask]
      have hsame' : p'.step m = p' := by simp [Pool.step, ← htasks, htask]
      rw [hsame, hsame']
      exact ⟨htasks, hstate, hrespects⟩
  | some task =>
      rcases (hrespects task (List.mem_of_getElem? htask)).step m.part m.outcome
        hstate with ⟨hturn, hrelated, hrest⟩
      rw [step_eq htask, step_eq (htasks ▸ htask)]
      refine ⟨by rw [hturn, htasks], hrelated, ?_⟩
      intro other hother
      rcases List.mem_or_eq_of_mem_set hother with hother | rfl
      · exact hrespects other hother
      · exact hrest

/-- Under every schedule the tasks stay the same, turn by turn, on related states. -/
theorem Related.run (h : p.Related E p') (moves : List Move) :
    (p.run moves).Related E (p'.run moves) := by
  induction moves generalizing p p' with
  | nil => exact h
  | cons m moves ih => exact ih (h.step m)

end Pool

/-! ## Clients that differ in their stores -/

/-- Clients that differ in nothing but what their stores hold, and in how these fail. -/
structure World.SameButStore (w w' : World) : Prop where
  session : w.login.session = w'.login.session
  router : w.router = w'.router
  events : w.events = w'.events

namespace SessionChange

/-- The session that a change leaves, given the one before. -/
def next (session : Session) : SessionChange → Session
  | .establish auth => some auth
  | .identify user seller => session.map fun auth => { auth with user, seller }
  | .clear => none

/-- What a change tells: the session that it leaves, if there was one before or is one now. -/
def news (session : Session) (change : SessionChange) : List Event :=
  if session.isSome || (change.next session).isSome then [.ofSession (change.next session)] else []

theorem session_apply (login : Login) (change : SessionChange) :
    (change.apply login).session = change.next login.session := by
  cases change with
  | establish auth => rfl
  | identify user seller =>
      cases hsession : login.session <;>
        simp [apply, next, Login.updateIdentity, Login.establish, hsession]
  | clear => rfl

end SessionChange

section Respects

open World (SameButStore)

theorem World.SameButStore.emit {w w' : World} (h : SameButStore w w') (event : Event) :
    SameButStore (w.emit event) (w'.emit event) :=
  ⟨h.session, h.router, congrArg (· ++ [event]) h.events⟩

theorem publish_activity_respects (event : Event) :
    (publish event : Activity World Unit).Respects SameButStore :=
  .modifyGet fun _ _ h => ⟨rfl, h.emit event⟩

theorem publish_respects (event : Event) :
    (publish event : Workflow World Unit).Respects SameButStore :=
  .modifyGet fun _ _ h => ⟨rfl, h.emit event⟩

theorem setAuthenticated_respects (auth : AuthSession) :
    (setAuthenticated auth : Workflow World Unit).Respects SameButStore :=
  .bind (.modifyGet fun _ _ h => ⟨rfl, rfl, h.router, h.events⟩) fun _ => publish_respects _

theorem updateUser_respects (user : User) (seller : Option SellerProfile) :
    (updateUser user seller : Workflow World Bool).Respects SameButStore := by
  refine .bind (.modifyGet fun w w' h => ?_) fun session => ?_
  · have hsession : ((SessionChange.identify user seller).apply w.login).session =
        ((SessionChange.identify user seller).apply w'.login).session := by
      rw [SessionChange.session_apply, SessionChange.session_apply, h.session]
    exact ⟨hsession, hsession, h.router, h.events⟩
  · cases session with
    | none => exact .pure _
    | some auth => exact .bind (publish_respects _) fun _ => .pure _

theorem clearSession_activity_respects :
    (clearSession : Activity World Bool).Respects SameButStore := by
  refine .bind (.modifyGet fun _ _ h => ⟨h.session, rfl, h.router, h.events⟩) fun previous => ?_
  cases previous with
  | none => exact .pure _
  | some auth => exact .bind (publish_activity_respects _) fun _ => .pure _

theorem clearSession_respects : (clearSession : Workflow World Bool).Respects SameButStore := by
  refine .bind (.modifyGet fun _ _ h => ⟨h.session, rfl, h.router, h.events⟩) fun previous => ?_
  cases previous with
  | none => exact .pure _
  | some auth => exact .bind (publish_respects _) fun _ => .pure _

namespace Gateway

theorem transportFailure_respects : transportFailure.Respects SameButStore :=
  .bind (publish_activity_respects _) fun _ => .pure _

theorem handleUnauthorized_respects (hadToken : Bool) :
    (handleUnauthorized hadToken).Respects SameButStore := by
  refine .bind clearSession_activity_respects fun cleared => ?_
  dsimp only
  split
  · exact .bind (publish_activity_respects _) fun _ => .pure _
  · exact .pure _

theorem handleRefusal_respects (quiet : Bool) (failure : Failure) :
    (handleRefusal quiet failure).Respects SameButStore := by
  cases quiet with
  | true => exact .pure _
  | false => exact .bind (publish_activity_respects _) fun _ => .pure _

theorem call_respects (g : Gateway) (call : Call) : (g.call call).Respects SameButStore := by
  refine .bind (.modifyGet fun _ _ h => ⟨h.session, h⟩) fun session => ?_
  dsimp only
  split
  · exact transportFailure_respects
  · refine .bind (.send _) fun outcome => ?_
    unfold settle
    split
    · exact transportFailure_respects
    · exact .pure _
    · split
      · exact handleUnauthorized_respects _
      · exact handleRefusal_respects _ _

end Gateway
end Respects

/-! ## Operations on the session -/

/-- What changes the session: by itself, or with a call that the backend may reject. -/
inductive SessionOperation where
  | change (change : SessionChange)
  | call (call : Call)

/-- What such an operation returns. -/
inductive SessionAnswer where
  | nothing
  /-- Whether there was a session. -/
  | present (session : Bool)
  | reply (reply : Reply)

/-- What a change returns, given the session before. -/
def SessionChange.answer (session : Session) : SessionChange → SessionAnswer
  | .establish _ => .nothing
  | .identify _ _ | .clear => .present session.isSome

def SessionOperation.perform (g : Gateway) : SessionOperation → Workflow World SessionAnswer
  | .change (.establish auth) => do
    setAuthenticated auth
    return .nothing
  | .change (.identify user seller) => return .present (← updateUser user seller)
  | .change .clear => return .present (← clearSession)
  | .call c => return .reply (← Workflow.single (g.call c))

/-- What can be seen of a client after an operation, whatever its store holds. -/
structure Observation where
  answer : SessionAnswer
  session : Session
  events : List Event
  /-- The requests that the backend has been sent. -/
  sent : List Request

/-- Carries operations out in turn, each by itself, and takes down what can be seen after each. -/
def Gateway.observe (g : Gateway) (backend : Backend) :
    List SessionOperation → Wired World → List Observation
  | [], _ => []
  | op :: ops, s =>
    let (answer, s) := (op.perform g).run backend s
    ⟨answer, s.state.login.session, s.state.events, s.sent⟩ :: g.observe backend ops s

/-- The pool of such operations. -/
def Gateway.sessionPool (g : Gateway) (ops : List SessionOperation) (w : World) :
    Pool World SessionAnswer :=
  ⟨ops.map (·.perform g), w⟩

/-- A client with another store. -/
def World.over (w : World) (store : Store) : World := { w with login := { w.login with store } }

theorem SessionOperation.perform_respects (g : Gateway) (op : SessionOperation) :
    (op.perform g).Respects World.SameButStore := by
  cases op with
  | change c =>
      cases c with
      | establish auth => exact .bind (setAuthenticated_respects auth) fun _ => .pure _
      | identify user seller => exact .bind (updateUser_respects user seller) fun _ => .pure _
      | clear => exact .bind clearSession_respects fun _ => .pure _
  | call call => exact .bind (.single (g.call_respects call)) fun _ => .pure _

/-- A change is made in memory, answered and told of, whatever the store makes of it. -/
theorem SessionOperation.run_change (g : Gateway) (backend : Backend) (change : SessionChange)
    (s : Wired World) :
    ((SessionOperation.change change).perform g).run backend s =
      (change.answer s.state.login.session,
        { s with
          state :=
            { s.state with
              login := change.apply s.state.login
              events := s.state.events ++ change.news s.state.login.session } }) := by
  rcases s with ⟨⟨⟨session, store⟩, router, events⟩, sent⟩
  -- Without a session before or after, nothing is told.
  have hquiet : ∀ (answer : SessionAnswer) (login : Login),
      (answer, (⟨⟨login, router, events⟩, sent⟩ : Wired World)) =
        (answer, ⟨⟨login, router, events ++ []⟩, sent⟩) := by simp
  cases change with
  | establish auth => cases session <;> rfl
  | identify user seller =>
      cases session with
      | none => exact hquiet _ _
      | some auth => rfl
  | clear =>
      cases session with
      | none => exact hquiet _ _
      | some auth => rfl

theorem Gateway.observe_related (g : Gateway) (backend : Backend) (ops : List SessionOperation)
    {s s' : Wired World} (hs : s.Related World.SameButStore s') :
    g.observe backend ops s = g.observe backend ops s' := by
  induction ops generalizing s s' with
  | nil => rfl
  | cons op ops ih =>
      rcases (op.perform_respects g).run backend hs with ⟨hanswer, hrelated⟩
      simp only [observe, hanswer, hrelated.1.session, hrelated.1.events, hrelated.2, ih hrelated]

/-- Let two clients differ in nothing but their stores: in what these hold, and in which operations
on them fail.  Carried out one after the other, operations on the session return the same answers,
leave the same session in memory, publish the same events and send the same requests, one by one.
Under way at once, they take the same turns under every schedule: after each turn the tasks of both
clients have come equally far, with the same session and the same events.  And over every store a
change is made in memory, answered and told of. -/
theorem store_faults_go_unnoticed (g : Gateway) (backend : Backend) (ops : List SessionOperation)
    (w : World) (store store' : Store) :
    (∀ sent, g.observe backend ops ⟨w.over store, sent⟩ =
        g.observe backend ops ⟨w.over store', sent⟩) ∧
      (∀ moves,
        let p := (g.sessionPool ops (w.over store)).run moves
        let p' := (g.sessionPool ops (w.over store')).run moves
        p.tasks = p'.tasks ∧ p.state.login.session = p'.state.login.session ∧
          p.state.events = p'.state.events) ∧
      ∀ (change : SessionChange) (sent : List Request),
        let session := w.login.session
        let ended := ((SessionOperation.change change).perform g).run backend ⟨w.over store, sent⟩
        ended.1 = change.answer session ∧ ended.2.state.login.session = change.next session ∧
          ended.2.state.events = w.events ++ change.news session := by
  have hsame : World.SameButStore (w.over store) (w.over store') := ⟨rfl, rfl, rfl⟩
  refine ⟨fun sent => g.observe_related backend ops ⟨hsame, rfl⟩, fun moves => ?_,
    fun change sent => ?_⟩
  · have hpools : (g.sessionPool ops (w.over store)).Related World.SameButStore
        (g.sessionPool ops (w.over store')) := by
      refine ⟨rfl, hsame, fun task htask => ?_⟩
      rcases List.mem_map.1 htask with ⟨op, -, rfl⟩
      exact op.perform_respects g
    have hrun := hpools.run moves
    exact ⟨hrun.tasks, hrun.state.session, hrun.state.events⟩
  · dsimp only
    rw [SessionOperation.run_change]
    exact ⟨rfl, change.session_apply _, rfl⟩

/-- The stores themselves do drift apart. -/
example :
    let saved (faults : FaultPlan) : Dict String :=
      (Login.establish { store := { entries := [], faults } } .alices).store.entries
    Dict.get? (saved .none) SessionKey.token = some "a" ∧
      saved { FaultPlan.none with write := fun _ => true } = [] := by
  decide

end WebClient
