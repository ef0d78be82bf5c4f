import WebClient.Proofs.Errands
import WebClient.Proofs.Itinerary
import WebClient.Proofs.PayloadShape

/-!
# LoginOutcome — what a login comes to

A login either establishes the session that the backend has issued and goes home, or leaves
everything but the login as it was, and the login as well unless its own request was rejected.

* `Session.EndsIf` says what rejections make of a session; `Gateway.RejectsSome` looks for one among
  the requests of a run.
* `Workflow.RejectionEnds` says of a workflow that nothing but the rejection of one of its requests
  ends the session; going to a location is such a workflow.
* `login_establishes_what_is_issued`: which of the two it is, and what then holds.
-/

namespace WebClient

/-! ## Sessions under rejections -/

/-- What rejections make of a session: it is over if there was one, and as before otherwise. -/
structure Session.EndsIf (rejected : Prop) (before after : Session) : Prop where
  ended : rejected → after = none
  kept : ¬ rejected → after = before

namespace Session.EndsIf

variable {rejected rejected' : Prop} {before between after : Session}

theorem of_eq (h : after = before) : EndsIf False before after := ⟨False.elim, fun _ => h⟩

theorem trans (h : EndsIf rejected before between) (h' : EndsIf rejected' between after) :
    EndsIf (rejected ∨ rejected') before after where
  ended := by
    intro hsome
    by_cases hlater : rejected'
    · exact h'.ended hlater
    · have hearlier : rejected := hsome.resolve_right hlater
      rw [h'.kept hlater, h.ended hearlier]
  kept := by
    intro hnone
    rcases not_or.1 hnone with ⟨hearlier, hlater⟩
    rw [h'.kept hlater, h.kept hearlier]

end Session.EndsIf

namespace Gateway

/-- Whether one of some requests is rejected, given the requests that were sent before. -/
def RejectsSome (g : Gateway) (backend : Backend) : List Request → List Request → Prop
  | _, [] => False
  | sent, request :: rest =>
    g.Rejects (backend sent request) ∨ g.RejectsSome backend (sent ++ [request]) rest

theorem rejectsSome_append (g : Gateway) (backend : Backend) (sent asked more : List Request) :
    g.RejectsSome backend sent (asked ++ more) ↔
      g.RejectsSome backend sent asked ∨ g.RejectsSome backend (sent ++ asked) more := by
  induction asked generalizing sent with
  | nil => simp [RejectsSome]
  | cons request asked ih => simp [RejectsSome, ih, or_assoc]

/-- From one state to a later one: some requests were sent, and if one of them was rejected then
the session is over, and otherwise it is as before. -/
def RejectionEnds (g : Gateway) (backend : Backend) (s s' : Wired World) : Prop :=
  ∃ asked, s'.sent = s.sent ++ asked ∧
    Session.EndsIf (g.RejectsSome backend s.sent asked) s.state.login.session
      s'.state.login.session

variable {g : Gateway} {backend : Backend} {s s' s'' : Wired World}

theorem RejectionEnds.of_same (hsent : s'.sent = s.sent)
    (hsession : s'.state.login.session = s.state.login.session) :
    g.RejectionEnds backend s s' :=
  ⟨[], by simp [hsent], .of_eq hsession⟩

theorem RejectionEnds.trans (h : g.RejectionEnds backend s s')
    (h' : g.RejectionEnds backend s' s'') : g.RejectionEnds backend s s'' := by
  rcases h with ⟨asked, hsent, hends⟩
  rcases h' with ⟨more, hsent', hends'⟩
  refine ⟨asked ++ more, by rw [hsent', hsent, List.append_assoc], ?_⟩
  rw [rejectsSome_append, ← hsent]
  exact hends.trans hends'

end Gateway

/-! ## Calls that have been answered -/

namespace Activity

/-- What is left of an activity sends nothing, and ends the session if it has been rejected. -/
def Settles (activity : Activity World Reply) (rejected : Prop) : Prop :=
  ∀ (backend : Backend) (s : Wired World), (activity.run backend s).2.sent = s.sent ∧
    Session.EndsIf rejected s.state.login.session (activity.run backend s).2.state.login.session

/-- The same of activities that are finished one after the other. -/
def SettleInTurn (activities : List (Activity World Reply)) (rejected : Prop) : Prop :=
  ∀ (backend : Backend) (s : Wired World), (runAll backend activities s).2.sent = s.sent ∧
    Session.EndsIf rejected s.state.login.session
      (runAll backend activities s).2.state.login.session

variable {activity : Activity World Reply} {activities : List (Activity World Reply)}
  {rejected rejected' : Prop}

theorem settles_done (reply : Reply) : (Activity.done reply).Settles False :=
  fun _ _ => ⟨rfl, .of_eq rfl⟩

theorem launchAll_cons (backend : Backend) (activity : Activity World Reply)
    (activities : List (Activity World Reply)) (s : Wired World) :
    let launched := activity.launch backend s
    let rest := launchAll backend activities launched.2
    launchAll backend (activity :: activities) s = (launched.1 :: rest.1, rest.2) := rfl

theorem settleInTurn_nil : SettleInTurn [] False := fun _ _ => ⟨rfl, .of_eq rfl⟩

theorem Settles.cons (h : activity.Settles rejected) (hrest : SettleInTurn activities rejected') :
    SettleInTurn (activity :: activities) (rejected ∨ rejected') := by
  intro backend s
  rcases h backend s with ⟨hsent, hends⟩
  rcases hrest backend (activity.run backend s).2 with ⟨hsent', hends'⟩
  exact ⟨hsent'.trans hsent, hends.trans hends'⟩

end Activity

theorem run_tell (events : List Event) (reply : Reply) (backend : Backend) (s : Wired World) :
    ((tell events reply).run backend s).2 =
      { s with state := { s.state with events := s.state.events ++ events } } := by
  induction events generalizing s with
  | nil => simp [tell, Activity.run]
  | cons event rest ih =>
      let told : Wired World := { s with state := s.state.emit event }
      calc
        ((tell (event :: rest) reply).run backend s).2 = ((tell rest reply).run backend told).2 :=
              rfl
        _ = { s with state := { s.state with events := s.state.events ++ event :: rest } } := by
              rw [ih]
              simp [told, World.emit]

namespace Gateway

variable {g : Gateway} {outcome : Outcome}

theorem handleUnauthorized_settles (hadToken : Bool) :
    (handleUnauthorized hadToken).Settles True := by
  rintro backend ⟨⟨⟨session, store⟩, router, events⟩, sent⟩
  have hrun : ((handleUnauthorized hadToken).run backend
      ⟨⟨⟨session, store⟩, router, events⟩, sent⟩).2.sent = sent ∧
      ((handleUnauthorized hadToken).run backend
        ⟨⟨⟨session, store⟩, router, events⟩, sent⟩).2.state.login.session = none := by
    cases session <;> cases hadToken <;> exact ⟨rfl, rfl⟩
  exact ⟨hrun.1, fun _ => hrun.2, fun h => absurd trivial h⟩

theorem settle_settles (quiet hadToken : Bool) :
    (g.settle quiet hadToken outcome).Settles (g.Rejects outcome) := by
  by_cases hrejects : g.Rejects outcome
  · rw [settle_of_rejects hrejects, eq_true hrejects]
    exact handleUnauthorized_settles hadToken
  · rw [settle_eq_tell hrejects, eq_false hrejects]
    intro backend s
    rw [run_tell]
    exact ⟨rfl, .of_eq rfl⟩

/-- A call that has been launched has sent its request, if one can be made, and has looked at
nothing but the token. -/
theorem launch_call (g : Gateway) (call : Call) (backend : Backend) (s : Wired World) :
    let launched := (g.call call).launch backend s
    launched.2.sent = s.sent ++ (call.request? g.base s.state.token?).toList ∧
      launched.2.state.login = s.state.login ∧
      launched.1.Settles (g.Rejects (g.outcomeOf call backend s)) := by
  intro launched
  have hlaunched : launched = (g.sent call s.state.token?).launch backend s := by
    simp only [launched, call_eq_atomic, Activity.launch, id]
  cases hrequest : call.request? g.base s.state.token? with
  | none =>
      have hfails : launched = (.done (.failure (.transport networkFailed)),
          { s with state := s.state.emit (.toast .error networkFailed) }) := by
        rw [hlaunched, sent, hrequest]
        rfl
      have hnot : ¬ g.Rejects (g.outcomeOf call backend s) := by
        rw [outcomeOf, hrequest]
        exact not_rejects_dropped
      rw [hfails, eq_false hnot]
      exact ⟨by simp, rfl, Activity.settles_done _⟩
  | some request =>
      have hsent : launched = (g.settle call.quiet s.state.token?.isSome (backend s.sent request),
          { s with sent := s.sent ++ [request] }) := by
        rw [hlaunched, sent, hrequest]
        rfl
      have houtcome : g.outcomeOf call backend s = backend s.sent request := by
        rw [outcomeOf, hrequest, Option.elim_some]
      rw [hsent, houtcome]
      exact ⟨rfl, rfl, settle_settles _ _⟩

theorem rejectsSome_request? (g : Gateway) (call : Call) (backend : Backend) (s : Wired World) :
    g.RejectsSome backend s.sent (call.request? g.base s.state.token?).toList ↔
      g.Rejects (g.outcomeOf call backend s) := by
  cases hrequest : call.request? g.base s.state.token? with
  | none => simp [RejectsSome, outcomeOf, hrequest, not_rejects_dropped]
  | some request => simp [RejectsSome, outcomeOf, hrequest]

/-- Calls that are launched together send their requests, and are then finished in turn. -/
theorem launchAll_calls (g : Gateway) (backend : Backend) (calls : List Call) (s : Wired World) :
    ∃ asked,
      let launched := Activity.launchAll backend (calls.map g.call) s
      launched.2.sent = s.sent ++ asked ∧ launched.2.state.login = s.state.login ∧
        Activity.SettleInTurn launched.1 (g.RejectsSome backend s.sent asked) := by
  induction calls generalizing s with
  | nil => exact ⟨[], by simp [Activity.launchAll], rfl, Activity.settleInTurn_nil⟩
  | cons call calls ih =>
      have hfirst := g.launch_call call backend s
      have hothers := ih ((g.call call).launch backend s).2
      rw [List.map_cons, Activity.launchAll_cons]
      -- From here on nothing is asked of the first launch but what `launch_call` says of it.
      generalize (g.call call).launch backend s = launched at hfirst hothers
      rcases hfirst with ⟨hsent, hlogin, hsettles⟩
      rcases hothers with ⟨more, hsent', hlogin', hrest⟩
      refine ⟨(call.request? g.base s.state.token?).toList ++ more, ?_, hlogin'.trans hlogin, ?_⟩
      · rw [← List.append_assoc, ← hsent]
        exact hsent'
      · rw [rejectsSome_append, rejectsSome_request?, ← hsent]
        exact hsettles.cons hrest

end Gateway

/-! ## Workflows -/

/-- By itself, the workflow ends the session only by the rejection of a request. -/
def Workflow.RejectionEnds {α : Type} (g : Gateway) (workflow : Workflow World α) : Prop :=
  ∀ (backend : Backend) (s : Wired World), g.RejectionEnds backend s (workflow.run backend s).2

namespace Workflow.RejectionEnds

variable {α β : Type} {g : Gateway} {workflow : Workflow World α}

theorem pure (a : α) : (Pure.pure a : Workflow World α).RejectionEnds g :=
  fun _ _ => .of_same rfl rfl

theorem modifyGet {f : World → α × World}
    (h : ∀ w, (f w).2.login.session = w.login.session) :
    (MonadStateOf.modifyGet f : Workflow World α).RejectionEnds g :=
  fun _ s => .of_same rfl (h s.state)

theorem bind {f : α → Workflow World β} (h : workflow.RejectionEnds g)
    (hf : ∀ a, (f a).RejectionEnds g) : (workflow >>= f).RejectionEnds g := by
  intro backend s
  change g.RejectionEnds backend s ((workflow.bind f).run backend s).2
  rw [Workflow.run_bind]
  exact (h backend s).trans (hf _ backend _)

theorem gather (calls : List Call) {next : List Reply → Workflow World α}
    (h : ∀ replies, (next replies).RejectionEnds g) :
    (Workflow.gather (calls.map g.call) next).RejectionEnds g := by
  intro backend s
  let launched := Activity.launchAll backend (calls.map g.call) s
  let finished := Activity.runAll backend launched.1 launched.2
  have hcalls : g.RejectionEnds backend s finished.2 := by
    rcases g.launchAll_calls backend calls s with ⟨asked, hsent, hlogin, hsettle⟩
    rcases hsettle backend launched.2 with ⟨hfinished, hends⟩
    exact ⟨asked, hfinished.trans hsent, hlogin ▸ hends⟩
  exact hcalls.trans (h finished.1 backend finished.2)

theorem tell (event : Event) : (publish event : Workflow World Unit).RejectionEnds g :=
  modifyGet fun _ => rfl

end Workflow.RejectionEnds

namespace Gateway

theorem carryOut_rejectionEnds (g : Gateway) (rendering : Rendering) :
    (g.carryOut rendering).RejectionEnds g := by
  induction rendering with
  | done result => exact .pure result
  | fetch calls next ih => exact .gather calls ih

end Gateway

namespace Router

open Workflow (RejectionEnds)

variable {router : Router} {g : Gateway}

theorem begin_rejectionEnds (path : String) : (begin path).RejectionEnds g :=
  .bind (.modifyGet fun _ => rfl) fun _ => .bind (.tell _) fun _ => .pure _

theorem present_rejectionEnds (generation : Nat) (view : ViewState) :
    (present generation view).RejectionEnds g := by
  refine .bind (.modifyGet fun _ => rfl) fun result => ?_
  rcases result with ⟨isLatest, shown⟩
  cases isLatest with
  | true => exact .bind (.tell _) fun _ => .pure _
  | false => exact .pure _

theorem superseded?_rejectionEnds (generation : Nat) : (superseded? generation).RejectionEnds g :=
  .modifyGet fun _ => rfl

theorem sendToLogin_rejectionEnds (generation : Nat) :
    (router.sendToLogin generation).RejectionEnds g := by
  refine .bind (superseded?_rejectionEnds generation) fun view? => ?_
  cases view? <;> exact .pure _

theorem turnAway_rejectionEnds (guard : RoleGuard) (generation : Nat) :
    (turnAway guard generation).RejectionEnds g := by
  refine .bind (superseded?_rejectionEnds generation) fun view? => ?_
  cases view? with
  | some view => exact .pure _
  | none => exact .bind (.tell _) fun _ => .pure _

theorem conclude_rejectionEnds (path : String) (generation : Nat)
    (result : Except ViewError View) :
    (router.conclude path generation result).RejectionEnds g := by
  unfold conclude
  split
  · exact .bind (present_rejectionEnds _ _) fun _ => .pure _
  · split
    · exact sendToLogin_rejectionEnds generation
    · exact .bind (present_rejectionEnds _ _) fun _ => .pure _
  · exact .bind (present_rejectionEnds _ _) fun _ => .pure _

theorem resolveOnce_rejectionEnds (router : Router) (raw : String) :
    (router.resolveOnce raw).RejectionEnds router.gateway := by
  refine .bind (begin_rejectionEnds _) fun generation => ?_
  refine .bind (.modifyGet fun _ => rfl) fun session => ?_
  dsimp only
  -- Only an admitted visitor has calls made.
  split
  · exact sendToLogin_rejectionEnds generation
  · exact turnAway_rejectionEnds _ generation
  · exact .bind (router.gateway.carryOut_rejectionEnds _) fun result =>
      conclude_rejectionEnds _ generation result

theorem resolveWithin_rejectionEnds (router : Router) (hops : Nat) (target : String) :
    (router.resolveWithin hops target).RejectionEnds router.gateway := by
  induction hops generalizing target with
  | zero => exact .bind (begin_rejectionEnds _) fun _ => present_rejectionEnds _ _
  | succ hops ih =>
      refine .bind (resolveOnce_rejectionEnds router target) fun resolution => ?_
      cases resolution with
      | done view => exact .pure view
      | redirect next =>
          exact .bind (.tell _) fun _ => .bind (.modifyGet fun _ => rfl) fun _ => ih next

theorem navigate_rejectionEnds (router : Router) (location : String) :
    (router.navigate location).RejectionEnds router.gateway :=
  .bind (.modifyGet fun _ => rfl) fun _ => resolveWithin_rejectionEnds router _ location

end Router

/-! ## Logging in -/

namespace Gateway

variable {g : Gateway} {call : Call} {backend : Backend} {s : Wired World}

/-- The state in which the request of a call, if one can be made, has been sent. -/
def asking (g : Gateway) (call : Call) (s : Wired World) : Wired World :=
  { s with sent := s.sent ++ (call.request? g.base s.state.token?).toList }

theorem sent_run_call (g : Gateway) (call : Call) (backend : Backend) (s : Wired World) :
    ((g.call call).run backend s).2.sent = (g.asking call s).sent := by
  rcases g.launch_call call backend s with ⟨hsent, -, hsettles⟩
  rw [← Activity.run_launch]
  exact (hsettles backend _).1.trans hsent

/-- A call that succeeds has sent its request and done nothing else. -/
theorem run_call_of_success {message : Option String} {data : Option Json}
    (h : g.reply? (g.outcomeOf call backend s) = some (.success message data)) :
    (g.call call).run backend s = (.success message data, g.asking call s) := by
  have hrun : (g.call call).run backend s = (g.sent call s.state.token?).run backend s := by
    simp only [call_eq_atomic, Activity.run, id]
  rw [hrun, sent]
  cases hrequest : call.request? g.base s.state.token? with
  | none =>
      rw [outcomeOf, hrequest] at h
      cases h
  | some request =>
      rw [outcomeOf, hrequest, Option.elim_some] at h
      have hsettle := settle_of_success h call.quiet s.state.token?.isSome
      rw [asking, hrequest]
      calc
        Activity.run backend (do
            let outcome ← Activity.send request
            g.settle call.quiet s.state.token?.isSome outcome) s
            = (g.settle call.quiet s.state.token?.isSome (backend s.sent request)).run backend
                { s with sent := s.sent ++ [request] } := rfl
        _ = (.success message data, { s with sent := s.sent ++ [request] }) := by
              rw [hsettle]
              rfl

end Gateway

/-- The state of a client whose user has just been welcomed: the session is established and written
to the store, and both have been told. -/
def World.welcomed (w : World) (auth : AuthSession) (message : String) : World :=
  let established : World := { w with login := w.login.establish auth }
  (established.emit (.ofSession (some auth))).emit (.toast .success message)

namespace Client

variable {client : Client} {backend : Backend} {s : Wired World}

/-- What a login does with the reply to its call. -/
def receive (client : Client) (reply : Reply) : Workflow World Reply := do
  if !reply.isSuccess then return reply
  match reply.authPayload with
  | .ok (some payload) =>
    client.welcome payload "logged in"
    return reply
  | .ok none => reject noToken
  | .error failure => reject failure.message

theorem run_login (client : Client) (username password : String) (backend : Backend)
    (s : Wired World) :
    (client.login username password).run backend s =
      (client.receive ((client.gateway.call
        (Endpoint.Auth.login username password)).run backend s).1).run backend
          ((client.gateway.call (Endpoint.Auth.login username password)).run backend s).2 := by
  have hbind : client.login username password =
      (client.call (Endpoint.Auth.login username password)).bind client.receive := rfl
  have hcall : (client.call (Endpoint.Auth.login username password)).run backend s =
      (client.gateway.call (Endpoint.Auth.login username password)).run backend s :=
    Workflow.run_single backend s _
  rw [hbind, Workflow.run_bind, hcall]

/-- Whoever is welcomed is taken home. -/
theorem run_receive_of_payload (client : Client) (backend : Backend) (s : Wired World)
    {reply : Reply} {payload : AuthPayload} (hsuccess : reply.isSuccess = true)
    (hpayload : reply.authPayload = .ok (some payload)) :
    (client.receive reply).run backend s =
      (reply, ((client.navigate client.settings.homePath).run backend
        { s with state := s.state.welcomed payload.session "logged in" }).2) := by
  have hreceive : client.receive reply =
      (client.welcome payload "logged in").bind fun _ => .done reply := by
    simp only [receive, hsuccess, hpayload]
    rfl
  let welcomed : Wired World := { s with state := s.state.welcomed payload.session "logged in" }
  have hwelcome : ((client.welcome payload "logged in").run backend s).2 =
      ((client.navigate client.settings.homePath).run backend welcomed).2 :=
    -- Establishing the session and telling of it are steps that nothing is answered to.
    Workflow.run_ignore backend welcomed _
  rw [hreceive, Workflow.run_bind, hwelcome]
  rfl

theorem receive_of_failure {reply : Reply} (h : reply.isSuccess = false) :
    client.receive reply = .done reply := by
  simp only [receive, h]
  rfl

theorem exists_receive_of_no_payload (client : Client) {reply : Reply}
    (h : ∀ payload, reply.authPayload ≠ .ok (some payload)) (hsuccess : reply.isSuccess = true) :
    ∃ message, client.receive reply = reject message := by
  cases hpayload : reply.authPayload with
  | error failure => exact ⟨failure.message, by simp [receive, hsuccess, hpayload]⟩
  | ok payload? =>
      cases payload? with
      | none => exact ⟨noToken, by simp [receive, hsuccess, hpayload]⟩
      | some payload => exact absurd hpayload (h payload)

end Client

/-! ## The two outcomes -/

/-- A login that has established a session, from the moment when its request was answered: the user
was welcomed and went home, and has the session unless a request on the way there was rejected. -/
structure Client.Admits (client : Client) (backend : Backend) (auth : AuthSession)
    (s s' : Wired World) : Prop where
  goesHome : s' = ((client.navigate client.settings.homePath).run backend
    { s with state := s.state.welcomed auth "logged in" }).2
  /-- The home location is entered into the history, and redirects may have led on from there. -/
  arrives : ∃ final, s'.state.Heads s.state.redirects
    (s.state.router.behind client.settings.homePath) client.settings.homePath final
  session : ∃ asked, s'.sent = s.sent ++ asked ∧
    Session.EndsIf (client.gateway.RejectsSome backend s.sent asked) (some auth)
      s'.state.login.session

/-- A login that has established nothing: the router is as it was, no success was told of, and
session and store are as they were, unless the request of the login was rejected. -/
structure World.StaysOut (rejected : Prop) (w w' : World) : Prop where
  router : w'.router = w.router
  events : ∃ told, w'.events = w.events ++ told ∧
    ∀ message, Event.toast .success message ∉ told
  kept : ¬ rejected → w'.login = w.login
  ended : rejected → w.login.Ended w'.login

theorem World.redirects_welcomed (w : World) (auth : AuthSession) (message : String) :
    (w.welcomed auth message).redirects = w.redirects := by
  simp only [welcomed, redirects_emit, Event.ofSession, Event.redirect?, Option.toList_none,
    List.append_nil]
  rfl

theorem Client.admits_of_goesHome (client : Client) (backend : Backend) (auth : AuthSession)
    (s : Wired World) :
    client.Admits backend auth s ((client.navigate client.settings.homePath).run backend
      { s with state := s.state.welcomed auth "logged in" }).2 where
  goesHome := rfl
  arrives := by
    have hends := Router.navigate_ends (S := fun _ => True) trivial client.router
      (s.state.welcomed auth "logged in") trivial client.settings.homePath
    rcases hends backend { s with state := s.state.welcomed auth "logged in" } rfl with
      ⟨final, hheads, -⟩
    rw [World.redirects_welcomed] at hheads
    exact ⟨final, hheads⟩
  session := client.router.navigate_rejectionEnds _ backend _

namespace Gateway

variable {g : Gateway} {call : Call} {backend : Backend} {s : Wired World}

/-- A call succeeds only if its answer does, and then with the same data. -/
theorem reply?_of_success {message : Option String} {data : Option Json}
    (h : ((g.call call).run backend s).1 = .success message data) :
    g.reply? (g.outcomeOf call backend s) = some (.success message data) := by
  rw [call_verdict, verdict] at h
  split at h
  · cases h
  · rename_i hreply
    exact h ▸ hreply
  · split at h <;> cases h

/-- A failure is unauthorized exactly if the answer was a rejection. -/
theorem kind_verdict_iff {hadToken : Bool} {outcome : Outcome} {failure : Failure}
    (h : g.verdict hadToken outcome = .failure failure) :
    failure.kind = .unauthorized ↔ g.Rejects outcome := by
  cases hreply : g.reply? outcome with
  | none =>
      simp only [verdict, hreply, Reply.failure.injEq] at h
      simp [← h, Failure.transport, Rejects, hreply]
  | some reply =>
      cases reply with
      | success message data => simp [verdict, hreply] at h
      | failure found =>
          simp only [verdict, hreply] at h
          split at h
          · rename_i hkind
            cases h
            exact iff_of_true rfl ⟨found, hreply, hkind⟩
          · rename_i hkind
            cases h
            refine iff_of_false ?_ ?_
            · simpa [Failure.isUnauthorized] using hkind
            · rintro ⟨other, hother, hunauthorized⟩
              cases hreply.symm.trans hother
              exact hkind hunauthorized

/-- A call that fails tells of no success, and ends the session only if it was rejected. -/
theorem staysOut_of_failure {failure : Failure}
    (h : ((g.call call).run backend s).1 = .failure failure) :
    World.StaysOut (g.Rejects (g.outcomeOf call backend s)) s.state
      ((g.call call).run backend s).2.state := by
  have hrejects := kind_verdict_iff ((g.call_verdict call backend s).symm.trans h)
  rcases (g.call_ensures call s.state.login).run backend rfl with
    ⟨login, told, hstate, haccounts⟩
  rw [h, List.nil_append] at haccounts
  rcases haccounts with ⟨-, haccounts⟩
  rw [hstate, ← hrejects]
  -- What was told, and whether the login ended, hangs on the kind of the failure alone.
  cases hkind : failure.kind with
  | transport =>
      simp only [hkind] at haccounts
      rcases haccounts with ⟨-, rfl, rfl⟩
      exact ⟨rfl, ⟨_, rfl, by simp⟩, fun _ => rfl, nofun⟩
  | application =>
      simp only [hkind] at haccounts
      rcases haccounts with ⟨rfl, rfl⟩
      exact ⟨rfl, ⟨_, rfl, by split <;> simp⟩, fun _ => rfl, nofun⟩
  | unauthorized =>
      simp only [hkind] at haccounts
      rcases haccounts with ⟨-, hended, rfl⟩
      refine ⟨rfl, ⟨_, rfl, ?_⟩, fun hnot => absurd rfl hnot, fun _ => hended⟩
      split <;> simp [Event.ofSession]

end Gateway

namespace Client

variable {client : Client} {username password : String} {backend : Backend} {s : Wired World}

/-- A login whose answer issues a session. -/
theorem login_of_issued {auth : AuthSession} {message : Option String}
    {members : List (String × Json)}
    (hreply : client.gateway.reply? (client.gateway.outcomeOf
      (Endpoint.Auth.login username password) backend s) =
        some (.success message (some (.object members))))
    (hheld : auth.HeldBy members) :
    (client.login username password).run backend s =
      (.success message (some (.object members)),
        ((client.navigate client.settings.homePath).run backend
          { client.gateway.asking (Endpoint.Auth.login username password) s with
            state := s.state.welcomed auth "logged in" }).2) := by
  let payload : AuthPayload := ⟨auth.token, auth.user, auth.seller⟩
  have hpayload : (Reply.success message (some (.object members))).authPayload =
      .ok (some payload) := by
    refine (Reply.authPayload_eq_some_iff ?_).2 ⟨members, rfl, hheld⟩
    rintro _ ⟨⟩
    exact Gateway.ascending_of_reply? hreply
  have hreceive := client.run_receive_of_payload backend
    (client.gateway.asking (Endpoint.Auth.login username password) s) rfl hpayload
  rw [run_login, Gateway.run_call_of_success hreply]
  exact hreceive

/-- A login whose answer succeeds without issuing a session. -/
theorem login_of_no_session {message : Option String} {data : Option Json}
    (hreply : client.gateway.reply? (client.gateway.outcomeOf
      (Endpoint.Auth.login username password) backend s) = some (.success message data))
    (hnone : ∀ members auth, data = some (.object members) → ¬ AuthSession.HeldBy members auth) :
    ∃ refusal, (client.login username password).run backend s =
      (.failure (.transport refusal),
        { client.gateway.asking (Endpoint.Auth.login username password) s with
          state := s.state.emit (.toast .error refusal) }) := by
  have hpayload : ∀ payload,
      (Reply.success message data).authPayload ≠ .ok (some payload) := by
    intro payload hpayload
    rcases Reply.exists_of_authPayload hpayload with ⟨members, rfl, hdecode⟩
    have hkeys := Gateway.ascending_of_reply? hreply
    exact hnone members _ rfl ((AuthPayload.decodeMembers_eq_ok_iff hkeys).1 hdecode)
  rcases client.exists_receive_of_no_payload hpayload rfl with ⟨refusal, hreceive⟩
  refine ⟨refusal, ?_⟩
  rw [run_login, Gateway.run_call_of_success hreply, hreceive]
  rfl

theorem login_of_failure {failure : Failure}
    (h : ((client.gateway.call (Endpoint.Auth.login username password)).run backend s).1 =
      .failure failure) :
    (client.login username password).run backend s =
      (.failure failure, ((client.gateway.call
        (Endpoint.Auth.login username password)).run backend s).2) := by
  rw [run_login, h, receive_of_failure rfl]
  rfl

end Client

/-- A login comes to one of two things, whatever the session, the state of the router and the
backend.  If its answer tells of success and holds a session, then it returns that answer,
establishes that session and goes home.  Otherwise it fails and leaves the client where it was. -/
theorem login_establishes_what_is_issued (client : Client) (username password : String)
    (backend : Backend) (s : Wired World) :
    let call := Endpoint.Auth.login username password
    let outcome := client.gateway.outcomeOf call backend s
    let asked := client.gateway.asking call s
    let ended := (client.login username password).run backend s
    (∀ auth, client.gateway.Issues outcome auth →
      ended.1.isSuccess = true ∧ client.gateway.reply? outcome = some ended.1 ∧
        client.Admits backend auth asked ended.2) ∧
    ((∀ auth, ¬ client.gateway.Issues outcome auth) →
      ended.1.isSuccess = false ∧ ended.2.sent = asked.sent ∧
        World.StaysOut (client.gateway.Rejects outcome) s.state ended.2.state) := by
  intro call outcome asked ended
  constructor
  · rintro auth ⟨message, members, hreply, hheld⟩
    have hended : ended = (.success message (some (.object members)),
        ((client.navigate client.settings.homePath).run backend
          { asked with state := s.state.welcomed auth "logged in" }).2) :=
      Client.login_of_issued hreply hheld
    rw [hended]
    exact ⟨rfl, hreply, client.admits_of_goesHome backend auth asked⟩
  · intro hnone
    cases hcalled : ((client.gateway.call call).run backend s).1 with
    | failure failure =>
        have hended : ended = (.failure failure, ((client.gateway.call call).run backend s).2) :=
          Client.login_of_failure hcalled
        rw [hended]
        dsimp only
        exact ⟨rfl, client.gateway.sent_run_call call backend s,
          Gateway.staysOut_of_failure hcalled⟩
    | success message data =>
        -- The backend meant a success, but there is no session in it.
        have hreply : client.gateway.reply? outcome = some (.success message data) :=
          Gateway.reply?_of_success hcalled
        have hunheld : ∀ members auth, data = some (.object members) →
            ¬ AuthSession.HeldBy members auth := by
          rintro members auth rfl hheld
          exact hnone auth ⟨message, members, hreply, hheld⟩
        rcases Client.login_of_no_session hreply hunheld with ⟨refusal, hrun⟩
        have hended : ended = (.failure (.transport refusal),
            { asked with state := s.state.emit (.toast .error refusal) }) := hrun
        rw [hended]
        have hnot : ¬ client.gateway.Rejects outcome := by
          rintro ⟨failure, hfailure, -⟩
          cases hreply.symm.trans hfailure
        exact ⟨rfl, rfl, rfl, ⟨_, rfl, by simp⟩, fun _ => rfl, fun h => absurd h hnot⟩

/-! ### A seller with one profile, and with two -/

/-- An answer of success with this data. -/
def answerWith (data : Json) : Json := .object [("data", data), ("success", .bool true)]

/-- Alice's account, with her shop under each of some names. -/
def shopMembers (names : List String) : List (String × Json) :=
  names.map (fun name => (name, alicesShop)) ++ [("token", .string "a"), ("user", alicesAccount)]

/-- A backend that answers every request with Alice's account. -/
def Backend.ofShop (names : List String) : Backend := fun _ _ =>
  .answered 200 (answerWith (.object (shopMembers names))).compact

theorem Backend.reply?_ofShop {names : List String} (h : names = ["seller"] ∨ names = sellerNames)
    (sent : List Request) (request : Request) :
    Client.pageless.gateway.reply? (ofShop names sent request) =
      some (.success none (some (.object (shopMembers names)))) := by
  have hparse : Json.parse? (answerWith (.object (shopMembers names))).compact =
      some (answerWith (.object (shopMembers names))) := by
    rcases h with rfl | rfl <;>
      rw [Json.parse?, Json.read?_compact (by decide) (by decide)] <;> rfl
  have hnormal : Convention.auto.normalize 200
      (answerWith (.object (shopMembers names))).compact =
        .ok (.success none (some (.object (shopMembers names)))) := by
    rw [Convention.normalize, hparse]
    rfl
  change (Convention.auto.normalize 200 _).toOption = _
  rw [hnormal]
  rfl

theorem Backend.reply?_login_ofShop {names : List String}
    (h : names = ["seller"] ∨ names = sellerNames) (s : Wired World) :
    Client.pageless.gateway.reply? (Client.pageless.gateway.outcomeOf
      (Endpoint.Auth.login "alice" "secret") (ofShop names) s) =
        some (.success none (some (.object (shopMembers names)))) := by
  have hsendable : Client.pageless.gateway.Sendable (Endpoint.Auth.login "alice" "secret") := by
    decide +kernel
  rcases hsendable.exists_request s.state.token? with ⟨request, hrequest⟩
  rw [Gateway.outcomeOf, hrequest, Option.elim_some]
  exact reply?_ofShop h s.sent request

theorem heldBy_shopMembers : AuthSession.delivered.HeldBy (shopMembers ["seller"]) where
  token := rfl
  user := ⟨alicesAccount, rfl, rfl⟩
  seller :=
    { once := by decide
      read := by
        intro name hname value hvalue
        simp only [sellerNames, List.mem_cons, List.not_mem_nil, or_false] at hname
        rcases hname with rfl | rfl
        · cases hvalue
          exact .inr ⟨_, rfl, rfl⟩
        · cases hvalue
      missing := by
        intro hnone
        cases hnone "seller" (by decide) }

/-- An account with a shop is logged in if the shop has one name; under both names it is one too
many, and whoever was logged in before still is. -/
theorem shop_is_named_once :
    ((Client.pageless.login "alice" "secret").run (.ofShop ["seller"])
      ⟨.alices, []⟩).1.isSuccess = true ∧
    ((Client.pageless.login "alice" "secret").run (.ofShop sellerNames)
      ⟨.alices, []⟩).1.isSuccess = false ∧
    ((Client.pageless.login "alice" "secret").run (.ofShop sellerNames)
      ⟨.alices, []⟩).2.state.login = World.alices.login := by
  have hone := Backend.reply?_login_ofShop (.inl rfl) ⟨.alices, []⟩
  have htwo := Backend.reply?_login_ofShop (.inr rfl) ⟨.alices, []⟩
  have hissued := (login_establishes_what_is_issued .pageless "alice" "secret"
    (.ofShop ["seller"]) ⟨.alices, []⟩).1 .delivered ⟨none, _, hone, heldBy_shopMembers⟩
  have hturned := (login_establishes_what_is_issued .pageless "alice" "secret"
    (.ofShop sellerNames) ⟨.alices, []⟩).2 (by
      rintro auth ⟨message, members, hreply, hheld⟩
      cases htwo.symm.trans hreply
      exact absurd (hheld.seller.once "seller" (by decide) "seller_profile" (by decide) rfl rfl)
        (by decide))
  have hnot : ¬ Client.pageless.gateway.Rejects (Client.pageless.gateway.outcomeOf
      (Endpoint.Auth.login "alice" "secret") (.ofShop sellerNames) ⟨.alices, []⟩) := by
    rintro ⟨failure, hfailure, -⟩
    cases htwo.symm.trans hfailure
  exact ⟨hissued.1, hturned.1, hturned.2.2.kept hnot⟩

end WebClient
