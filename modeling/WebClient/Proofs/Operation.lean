import WebClient.Client.Coordinator
import WebClient.Proofs.Pool

/-!
# Operation — all that a client does, and what one step of it can be

Whatever is under way, the shared state changes in few ways: a section under the session's lock, a
step on the store alone, a section under the router's lock, or the publication of an event.  The
relation `World.Step` lists them, and `Operation.guarantees` shows that every atomic step of every
operation of a client is one of them.

* `SessionChange` are the three changes that hold the session's lock over memory and store.
* `Login.Section` adds what loading does to the login, and `RouterState.Section` are the sections of
  the router's lock.
* `World.Admits` is what a relation has to allow for the same to be shown of other relations.
* `Operation.Establishes` marks the operations that can make a new session current.
-/

namespace WebClient

/-! ## Sections -/

/-- A change of the session, in memory and in the store, under one lock. -/
inductive SessionChange where
  | establish (auth : AuthSession)
  | identify (user : User) (seller : Option SellerProfile)
  | clear

namespace SessionChange

/-- What the change makes of a login. -/
def apply (login : Login) : SessionChange → Login
  | .establish auth => login.establish auth
  | .identify user seller => login.updateIdentity user seller
  | .clear => login.clear

/-- The operation that makes the change, and tells of it. -/
def perform : SessionChange → Workflow World Unit
  | .establish auth => setAuthenticated auth
  | .identify user seller => do let _ ← updateUser (m := Workflow World) user seller
  | .clear => do let _ ← clearSession (m := Workflow World)

end SessionChange

/-- One step on a login. -/
inductive Login.Section where
  | change (change : SessionChange)
  | assign (session : Session)
  | purge
  | read

namespace Login.Section

/-- What the step makes of a login. -/
def apply (login : Login) : Login.Section → Login
  | .change c => c.apply login
  | .assign session => login.assign session
  | .purge => login.purge
  | .read => login.noteRead

/-- Whether the step makes a session current, whatever session there was before. -/
def Establishes : Login.Section → Prop
  | .change (.establish _) => True
  | .assign (some _) => True
  | _ => False

end Login.Section

/-- One section under the router's lock that changes what the router knows. -/
inductive RouterState.Section where
  | begin (path : String)
  | publish (generation : Nat) (view : ViewState)
  | push (location : String)
  | replace (source target : String)
  | leave

/-- What the section makes of the router's state. -/
def RouterState.Section.apply (router : RouterState) : RouterState.Section → RouterState
  | .begin path => router.begin path
  | .publish generation view => router.publish generation view
  | .push location => router.push location
  | .replace source target => router.replace source target
  | .leave => (router.pop?.map (·.2)).getD router

/-- One step of the shared state; of the steps on the login only those in `A`. -/
inductive World.Step (A : Login.Section → Prop) (w : World) : World → Prop where
  | stay : Step A w w
  | emit (event : Event) : Step A w (w.emit event)
  | login (step : Login.Section) (h : A step) : Step A w { w with login := step.apply w.login }
  | router (step : RouterState.Section) : Step A w { w with router := step.apply w.router }

theorem World.Step.mono {A A' : Login.Section → Prop} {w w' : World} (h : World.Step A w w')
    (himp : ∀ step, A step → A' step) : World.Step A' w w' := by
  cases h with
  | stay => exact .stay
  | emit event => exact .emit event
  | login step hstep => exact .login step (himp step hstep)
  | router step => exact .router step

/-- Where a redirect leads from and to, if that is what an event tells. -/
def Event.redirect? : Event → Option (String × String)
  | .redirected source target => some (source, target)
  | .toast _ _ | .sessionChanged _ _ | .viewChanged _ => none

/-- Whether an event is about something else than pages: a message to the user, or the login. -/
def Event.isAside : Event → Bool
  | .toast _ _ | .sessionChanged _ _ => true
  | .viewChanged _ | .redirected _ _ => false

theorem Event.redirect?_of_isAside {event : Event} (h : event.isAside = true) :
    event.redirect? = none := by
  cases event with
  | toast level message => rfl
  | sessionChanged authenticated username => rfl
  | viewChanged view => cases h
  | redirected source target => cases h

/-- A relation that allows what calls and changes of the login do: to change nothing, to tell of
anything but pages, and to take a step on the login that is in `A`. -/
class World.AdmitsCalls (R : World → World → Prop) (A : outParam (Login.Section → Prop)) :
    Prop where
  stay {w : World} : R w w
  mention {w : World} (event : Event) (h : event.isAside = true) : R w (w.emit event)
  login {w : World} (step : Login.Section) (h : A step) :
    R w { w with login := step.apply w.login }

/-- A relation that allows as well to tell of anything but a redirect, and to take a section under
the router's lock that is in `B`. -/
class World.Admits (R : World → World → Prop) (A : outParam (Login.Section → Prop))
    (B : outParam (RouterState.Section → Prop)) : Prop extends World.AdmitsCalls R A where
  tell {w : World} (event : Event) (h : event.redirect? = none) : R w (w.emit event)
  router {w : World} (step : RouterState.Section) (h : B step) :
    R w { w with router := step.apply w.router }
  mention event h := tell event (Event.redirect?_of_isAside h)

/-- A relation that allows the telling of redirects as well. -/
class World.AdmitsRedirects (R : World → World → Prop) (A : outParam (Login.Section → Prop))
    (B : outParam (RouterState.Section → Prop)) : Prop extends World.Admits R A B where
  emit {w : World} (event : Event) : R w (w.emit event)

instance (A : Login.Section → Prop) : World.AdmitsRedirects (World.Step A) A fun _ => True where
  stay := .stay
  tell event _ := .emit event
  emit event := .emit event
  login step h := .login step h
  router step _ := .router step

/-! ## Operations -/

/-- What can be asked of a client. -/
inductive Operation where
  | start (initial : Option String)
  | login (username password : String)
  | register (username email password : String)
  | logout
  | refresh
  | navigate (location : String)
  | resolve (location : String)
  | back
  | call (call : Call)
  | calls (calls : List Call)
  | change (change : SessionChange)
  | load

namespace Operation

/-- Carries an operation out; what it comes to is not looked at. -/
def perform (client : Client) : Operation → Workflow World Unit
  | .start initial => do let _ ← client.start initial
  | .login username password => do let _ ← client.login username password
  | .register username email password => do let _ ← client.register username email password
  | .logout => client.logout
  | .refresh => do let _ ← client.refreshCurrentUser
  | .navigate location => do let _ ← client.navigate location
  | .resolve location => do let _ ← client.router.resolve location
  | .back => do let _ ← client.back
  | .call c => do let _ ← client.call c
  | .calls cs => do let _ ← client.calls cs
  | .change c => c.perform
  | .load => do let _ ← loadPersisted (m := Workflow World)

/-- Whether an operation can make a new session current. -/
def Establishes : Operation → Prop
  | .start _ | .login _ _ | .register _ _ _ | .load | .change (.establish _) => True
  | _ => False

/-- The steps on the login that an operation may take. -/
def Allows (op : Operation) (step : Login.Section) : Prop := step.Establishes → op.Establishes

end Operation

/-- Operations of a client, all under way at once. -/
def Client.pool (client : Client) (ops : List Operation) (w : World) : Pool World Unit :=
  ⟨ops.map (·.perform client), w⟩

/-! ## Every step of every operation -/

theorem publish_guarantees {R : World → World → Prop} {A : Login.Section → Prop}
    {B : RouterState.Section → Prop} [admits : World.AdmitsRedirects R A B] (event : Event) :
    (publish event : Workflow World Unit).Guarantees R :=
  .modifyGet fun _ => admits.emit event

section Guarantees

variable {R : World → World → Prop} {A : Login.Section → Prop} [admits : World.AdmitsCalls R A]

include admits

theorem mention_activity_guarantees (event : Event) (h : event.isAside = true) :
    (publish event : Activity World Unit).Guarantees R :=
  .modifyGet fun _ => admits.mention event h

theorem mention_guarantees (event : Event) (h : event.isAside = true) :
    (publish event : Workflow World Unit).Guarantees R :=
  .modifyGet fun _ => admits.mention event h

theorem clearSession_activity_guarantees (hclear : A (.change .clear)) :
    (clearSession : Activity World Bool).Guarantees R := by
  refine .bind (.modifyGet fun _ => admits.login (.change .clear) hclear) fun previous => ?_
  -- Only the end of a session that was there is told.
  cases previous with
  | none => exact .pure _
  | some auth => exact .bind (mention_activity_guarantees _ rfl) fun _ => .pure _

theorem clearSession_guarantees (hclear : A (.change .clear)) :
    (clearSession : Workflow World Bool).Guarantees R := by
  refine .bind (.modifyGet fun _ => admits.login (.change .clear) hclear) fun previous => ?_
  cases previous with
  | none => exact .pure _
  | some auth => exact .bind (mention_guarantees _ rfl) fun _ => .pure _

theorem setAuthenticated_guarantees (auth : AuthSession)
    (hestablish : A (.change (.establish auth))) :
    (setAuthenticated auth : Workflow World Unit).Guarantees R :=
  .bind (.modifyGet fun _ => admits.login (.change (.establish auth)) hestablish) fun _ =>
    mention_guarantees _ rfl

theorem updateUser_guarantees (user : User) (seller : Option SellerProfile)
    (hidentify : A (.change (.identify user seller))) :
    (updateUser user seller : Workflow World Bool).Guarantees R := by
  refine .bind (.modifyGet fun _ => admits.login (.change (.identify user seller)) hidentify)
    fun session => ?_
  cases session with
  | none => exact .pure _
  | some auth => exact .bind (mention_guarantees _ rfl) fun _ => .pure _

theorem adopt_guarantees (session : Session) (hassign : A (.assign session)) :
    (adopt session : Workflow World Session).Guarantees R := by
  refine .bind (.modifyGet fun _ => admits.login (.assign session) hassign) fun _ => ?_
  cases session with
  | none => exact .pure _
  | some auth => exact .bind (mention_guarantees _ rfl) fun _ => .pure _

theorem readKey_guarantees (key : String) (hread : A .read) :
    (readKey key : Workflow World _).Guarantees R :=
  .modifyGet fun _ => admits.login .read hread

theorem discardStored_guarantees (hpurge : A .purge) (hassign : A (.assign none)) :
    (discardStored : Workflow World Session).Guarantees R :=
  .bind (.modifyGet fun _ => admits.login .purge hpurge) fun _ =>
    adopt_guarantees none hassign

/-- Loading makes no session current whose token is empty. -/
theorem loadPersisted_guarantees (hread : A .read) (hpurge : A .purge)
    (hassign : ∀ session : Session, session.token? ≠ some "" → A (.assign session)) :
    (loadPersisted : Workflow World Session).Guarantees R := by
  -- A read that fails ends in the purge, and so do entries that are no session.
  have hnone : A (.assign none) := hassign none (by decide)
  have hdiscard : (discardStored : Workflow World Session).Guarantees R :=
    discardStored_guarantees hpurge hnone
  refine .bind (readKey_guarantees _ hread) fun token => ?_
  cases token with
  | error e => exact hdiscard
  | ok token =>
      refine .bind (readKey_guarantees _ hread) fun user => ?_
      cases user with
      | error e => exact hdiscard
      | ok user =>
          dsimp only
          cases hverdict : StoredSession.judge token user with
          | absent => exact adopt_guarantees none hnone
          | broken => exact hdiscard
          | found token user =>
              have htoken : token ≠ "" := (StoredSession.judge_eq_found_iff.1 hverdict).2.1
              exact .bind (readKey_guarantees _ hread) fun seller =>
                adopt_guarantees _ (hassign _ (by simpa [Session.token?] using htoken))

/-! ### Calls -/

theorem currentSession_activity_guarantees :
    (currentSession : Activity World Session).Guarantees R :=
  .modifyGet fun _ => admits.stay

theorem currentSession_guarantees :
    (currentSession : Workflow World Session).Guarantees R :=
  .modifyGet fun _ => admits.stay

namespace Gateway

theorem transportFailure_guarantees : transportFailure.Guarantees R :=
  .bind (mention_activity_guarantees _ rfl) fun _ => .pure _

theorem handleRefusal_guarantees (quiet : Bool) (failure : Failure) :
    (handleRefusal quiet failure).Guarantees R := by
  cases quiet with
  | true => exact .pure _
  | false => exact .bind (mention_activity_guarantees _ rfl) fun _ => .pure _

theorem handleUnauthorized_guarantees (hclear : A (.change .clear)) (hadToken : Bool) :
    (handleUnauthorized hadToken).Guarantees R := by
  refine .bind (clearSession_activity_guarantees hclear) fun cleared => ?_
  -- A warning comes from whoever ended a session, and from whoever had no token.
  cases hadToken with
  | false =>
      cases cleared <;> exact .bind (mention_activity_guarantees _ rfl) fun _ => .pure _
  | true =>
      cases cleared with
      | false => exact .pure _
      | true => exact .bind (mention_activity_guarantees _ rfl) fun _ => .pure _

theorem settle_guarantees (hclear : A (.change .clear)) (g : Gateway) (quiet hadToken : Bool)
    (outcome : Outcome) : (g.settle quiet hadToken outcome).Guarantees R := by
  unfold settle
  split
  · exact transportFailure_guarantees
  · exact .pure _
  · split
    · exact handleUnauthorized_guarantees hclear hadToken
    · exact handleRefusal_guarantees quiet _

theorem call_guarantees (hclear : A (.change .clear)) (g : Gateway) (call : Call) :
    (g.call call).Guarantees R := by
  refine .bind currentSession_activity_guarantees fun session => ?_
  dsimp only
  split
  · exact transportFailure_guarantees
  · exact .bind (.send _) fun outcome => settle_guarantees hclear g _ _ outcome

theorem carryOut_guarantees (hclear : A (.change .clear)) (g : Gateway) (page : Rendering) :
    (g.carryOut page).Guarantees R := by
  -- A page asks for its calls in rounds, and the induction is on the rounds.
  induction page with
  | done result => exact .pure _
  | fetch calls next ih =>
      refine ⟨?_, fun replies => ih replies⟩
      intro activity hactivity
      rcases List.mem_map.1 hactivity with ⟨call, _, rfl⟩
      exact call_guarantees hclear g call

end Gateway

namespace Client

theorem call_guarantees (hclear : A (.change .clear)) (client : Client) (call : Call) :
    (client.call call).Guarantees R :=
  .single (Gateway.call_guarantees hclear _ call)

theorem calls_guarantees (hclear : A (.change .clear)) (client : Client) (calls : List Call) :
    (client.calls calls).Guarantees R := by
  refine .all ?_
  intro activity hactivity
  rcases List.mem_map.1 hactivity with ⟨call, _, rfl⟩
  exact Gateway.call_guarantees hclear _ call

theorem refreshCurrentUser_guarantees (hclear : A (.change .clear))
    (hidentify : ∀ user seller, A (.change (.identify user seller))) (client : Client) :
    client.refreshCurrentUser.Guarantees R := by
  refine .bind (call_guarantees hclear client _) fun reply => ?_
  split
  · exact updateUser_guarantees _ _ (hidentify _ _)
  · exact .pure _

end Client
end Guarantees

/-! ### Steps of a resolution -/

section Guarantees

variable {R : World → World → Prop} {A : Login.Section → Prop} {B : RouterState.Section → Prop}
  [admits : World.Admits R A B]

include admits

theorem tell_guarantees (event : Event) (h : event.redirect? = none) :
    (publish event : Workflow World Unit).Guarantees R :=
  .modifyGet fun _ => admits.tell event h

namespace Router

theorem superseded?_guarantees (generation : Nat) :
    (superseded? generation).Guarantees R :=
  .modifyGet fun _ => admits.stay

theorem enter_guarantees (location : String) (hpush : B (.push location)) :
    (enter location).Guarantees R :=
  .modifyGet fun _ => admits.router (.push location) hpush

theorem reroute_guarantees (source target : String) (hreplace : B (.replace source target)) :
    (reroute source target).Guarantees R :=
  .modifyGet fun _ => admits.router (.replace source target) hreplace

theorem leave_guarantees (hleave : B .leave) : leave.Guarantees R := by
  refine .modifyGet fun w => ?_
  -- With fewer than two entries nobody goes back, and the router is left alone.
  cases hpop : w.router.pop? with
  | none => exact admits.stay
  | some popped =>
      rcases popped with ⟨location, router⟩
      have hleft : RouterState.Section.leave.apply w.router = router := by
        simp [RouterState.Section.apply, hpop]
      simpa [hleft] using admits.router (w := w) .leave hleave

theorem sendToLogin_guarantees (router : Router) (generation : Nat) :
    (router.sendToLogin generation).Guarantees R := by
  refine .bind (superseded?_guarantees generation) fun view => ?_
  cases view <;> exact .pure _

theorem turnAway_guarantees (guard : RoleGuard) (generation : Nat) :
    (turnAway guard generation).Guarantees R := by
  refine .bind (superseded?_guarantees generation) fun view => ?_
  cases view with
  | none => exact .bind (tell_guarantees _ rfl) fun _ => .pure _
  | some view => exact .pure _

/-! ### One hop -/

theorem begin_guarantees (path : String) (hbegin : B (.begin path)) :
    (begin path).Guarantees R :=
  .bind (.modifyGet fun _ => admits.router (.begin path) hbegin) fun _ =>
    .bind (tell_guarantees _ rfl) fun _ => .pure _

theorem present_guarantees (generation : Nat) (view : ViewState)
    (hpublish : B (.publish generation view)) : (present generation view).Guarantees R := by
  refine .bind (.modifyGet fun _ => admits.router (.publish generation view) hpublish)
    fun result => ?_
  -- A superseded resolution tells of nothing.
  rcases result with ⟨isLatest, shown⟩
  cases isLatest with
  | false => exact .pure _
  | true => exact .bind (tell_guarantees _ rfl) fun _ => .pure _

theorem conclude_guarantees (hpublish : ∀ generation view, B (.publish generation view))
    (router : Router) (path : String) (generation : Nat) (result : Except ViewError View) :
    (router.conclude path generation result).Guarantees R := by
  have hpresent : ∀ view, (do return .done (← present generation view) :
      Workflow World Resolution).Guarantees R :=
    fun view => .bind (present_guarantees generation view (hpublish _ _)) fun _ => .pure _
  unfold conclude
  split
  · exact hpresent _
  · split
    · exact sendToLogin_guarantees router generation
    · exact hpresent _
  · exact hpresent _

theorem resolveOnce_guarantees (hclear : A (.change .clear)) (hbegin : ∀ path, B (.begin path))
    (hpublish : ∀ generation view, B (.publish generation view)) (router : Router)
    (raw : String) : (router.resolveOnce raw).Guarantees R := by
  refine .bind (begin_guarantees _ (hbegin _)) fun generation => ?_
  refine .bind currentSession_guarantees fun session => ?_
  dsimp only
  split
  · exact sendToLogin_guarantees router generation
  · exact turnAway_guarantees _ generation
  · exact .bind (Gateway.carryOut_guarantees hclear _ _) fun result =>
      conclude_guarantees hpublish router _ generation result

end Router

end Guarantees

section Guarantees

variable {A : Login.Section → Prop}

/-! ### Pages -/

namespace Router

theorem resolveWithin_guarantees (hclear : A (.change .clear)) (router : Router) (hops : Nat)
    (target : String) : (router.resolveWithin hops target).Guarantees (World.Step A) := by
  induction hops generalizing target with
  | zero =>
      exact .bind (begin_guarantees _ trivial) fun generation =>
        present_guarantees generation _ trivial
  | succ hops ih =>
      refine .bind (resolveOnce_guarantees hclear (fun _ => trivial) (fun _ _ => trivial) router
        target) fun resolution => ?_
      cases resolution with
      | done view => exact .pure _
      | redirect next =>
          exact .bind (publish_guarantees _) fun _ =>
            .bind (reroute_guarantees _ _ trivial) fun _ => ih next

theorem navigate_guarantees (hclear : A (.change .clear)) (router : Router) (location : String) :
    (router.navigate location).Guarantees (World.Step A) :=
  .bind (enter_guarantees location trivial) fun _ =>
    resolveWithin_guarantees hclear router _ location

theorem back_guarantees (hclear : A (.change .clear)) (router : Router) :
    router.back.Guarantees (World.Step A) := by
  refine .bind (leave_guarantees trivial) fun location => ?_
  cases location with
  | none => exact .pure _
  | some location =>
      exact .bind (resolveWithin_guarantees hclear router _ location) fun _ => .pure _

end Router

/-! ### Clients -/

namespace Client

theorem start_guarantees (hclear : A (.change .clear))
    (hidentify : ∀ user seller, A (.change (.identify user seller))) (hread : A .read)
    (hpurge : A .purge)
    (hassign : ∀ session : Session, session.token? ≠ some "" → A (.assign session))
    (client : Client) (initial : Option String) : (client.start initial).Guarantees (World.Step A) := by
  have hnavigate : ∀ location, (client.navigate location).Guarantees (World.Step A) :=
    fun location => Router.navigate_guarantees hclear client.router location
  refine .bind (loadPersisted_guarantees hread hpurge hassign) fun session => ?_
  dsimp only
  split
  · exact .bind (refreshCurrentUser_guarantees hclear hidentify client) fun _ => hnavigate _
  · exact hnavigate _

theorem welcome_guarantees (hclear : A (.change .clear)) (client : Client) (payload : AuthPayload)
    (hestablish : A (.change (.establish payload.session))) (message : String) :
    (client.welcome payload message).Guarantees (World.Step A) :=
  .bind (setAuthenticated_guarantees _ hestablish) fun _ =>
    .bind (publish_guarantees _) fun _ =>
      .bind (Router.navigate_guarantees hclear client.router _) fun _ => .pure _

theorem reject_guarantees (message : String) : (reject message).Guarantees (World.Step A) :=
  .bind (publish_guarantees _) fun _ => .pure _

theorem login_guarantees (hclear : A (.change .clear))
    (hestablish : ∀ auth, A (.change (.establish auth))) (client : Client)
    (username password : String) :
    (client.login username password).Guarantees (World.Step A) := by
  refine .bind (call_guarantees hclear client _) fun reply => ?_
  split
  · exact .pure _
  · split
    · exact .bind (welcome_guarantees hclear client _ (hestablish _) _) fun _ => .pure _
    · exact reject_guarantees _
    · exact reject_guarantees _

theorem register_guarantees (hclear : A (.change .clear))
    (hestablish : ∀ auth, A (.change (.establish auth))) (client : Client)
    (username email password : String) :
    (client.register username email password).Guarantees (World.Step A) := by
  have hnavigate : ∀ location, (client.navigate location).Guarantees (World.Step A) :=
    fun location => Router.navigate_guarantees hclear client.router location
  refine .bind (call_guarantees hclear client _) fun reply => ?_
  dsimp only
  split
  · exact .pure _
  · split
    · exact .bind (welcome_guarantees hclear client _ (hestablish _) _) fun _ => .pure _
    · exact .bind (publish_guarantees _) fun _ => .bind (hnavigate _) fun _ => .pure _
    · exact .bind (hnavigate _) fun _ => .pure _

/-- What a logout has left to do when it has told the backend. -/
def depart (client : Client) : Workflow World Unit := do
  let _ ← clearSession (m := Workflow World)
  if client.mustLeave (← currentLocation) then
    let _ ← client.navigate client.settings.homePath

/-- A logout tells the backend if there is a session, and whatever comes of that, it departs. -/
theorem logout_eq_bind (client : Client) :
    client.logout = Workflow.bind currentSession fun session =>
      if session.isSome then Workflow.bind (client.call Endpoint.Auth.logout) fun _ => client.depart
      else client.depart := rfl

theorem depart_guarantees (hclear : A (.change .clear)) (client : Client) :
    client.depart.Guarantees (World.Step A) := by
  refine .bind (clearSession_guarantees hclear) fun _ => ?_
  refine .bind (.modifyGet fun _ => .stay) fun location => ?_
  split
  · exact .bind (Router.navigate_guarantees hclear client.router _) fun _ => .pure _
  · exact .pure _

theorem logout_guarantees (hclear : A (.change .clear)) (client : Client) :
    client.logout.Guarantees (World.Step A) := by
  rw [logout_eq_bind]
  refine .bind currentSession_guarantees fun session => ?_
  split
  · exact .bind (call_guarantees hclear client _) fun _ => depart_guarantees hclear client
  · exact depart_guarantees hclear client

end Client
end Guarantees

/-- Every atomic step of an operation is one of `World.Step`, and only operations that say so make
a new session current. -/
theorem Operation.guarantees (client : Client) (op : Operation) :
    (op.perform client).Guarantees (World.Step op.Allows) := by
  -- None of these makes a session current where there was none, so that every operation may.
  have hclear : op.Allows (.change .clear) := fun h => h.elim
  have hidentify : ∀ user seller, op.Allows (.change (.identify user seller)) :=
    fun _ _ h => h.elim
  have hread : op.Allows .read := fun h => h.elim
  have hpurge : op.Allows .purge := fun h => h.elim
  cases op with
  | start initial =>
      exact .bind (Client.start_guarantees hclear hidentify hread hpurge (fun _ _ _ => trivial)
        client initial) fun _ => .pure _
  | login username password =>
      exact .bind (Client.login_guarantees hclear (fun _ _ => trivial) client username password)
        fun _ => .pure _
  | register username email password =>
      exact .bind (Client.register_guarantees hclear (fun _ _ => trivial) client username email
        password) fun _ => .pure _
  | logout => exact Client.logout_guarantees hclear client
  | refresh =>
      exact .bind (Client.refreshCurrentUser_guarantees hclear hidentify client) fun _ => .pure _
  | navigate location =>
      exact .bind (Router.navigate_guarantees hclear client.router location) fun _ => .pure _
  | resolve location =>
      exact .bind (Router.resolveWithin_guarantees hclear client.router _ location) fun _ =>
        .pure _
  | back => exact .bind (Router.back_guarantees hclear client.router) fun _ => .pure _
  | call call => exact .bind (Client.call_guarantees hclear client call) fun _ => .pure _
  | calls calls => exact .bind (Client.calls_guarantees hclear client calls) fun _ => .pure _
  | change c =>
      cases c with
      | establish auth => exact setAuthenticated_guarantees auth fun _ => trivial
      | identify user seller =>
          exact .bind (updateUser_guarantees user seller (hidentify user seller)) fun _ => .pure _
      | clear => exact .bind (clearSession_guarantees hclear) fun _ => .pure _
  | load =>
      exact .bind (loadPersisted_guarantees hread hpurge fun _ _ _ => trivial) fun _ => .pure _

/-- Whether an operation reads the session back from the store. -/
def Operation.Loads : Operation → Prop
  | .start _ | .load => True
  | _ => False

/-- An operation that reads nothing back takes no step on the login but changes of the session. -/
theorem Operation.guarantees_of_not_loads (client : Client) {op : Operation} (h : ¬ op.Loads) :
    (op.perform client).Guarantees (World.Step fun step => ∃ change, step = .change change) := by
  cases op with
  | start initial => exact absurd trivial h
  | load => exact absurd trivial h
  | login username password =>
      exact .bind (Client.login_guarantees ⟨_, rfl⟩ (fun _ => ⟨_, rfl⟩) client username password)
        fun _ => .pure _
  | register username email password =>
      exact .bind (Client.register_guarantees ⟨_, rfl⟩ (fun _ => ⟨_, rfl⟩) client username email
        password) fun _ => .pure _
  | logout => exact Client.logout_guarantees ⟨_, rfl⟩ client
  | refresh =>
      exact .bind (Client.refreshCurrentUser_guarantees ⟨_, rfl⟩ (fun _ _ => ⟨_, rfl⟩) client)
        fun _ => .pure _
  | navigate location =>
      exact .bind (Router.navigate_guarantees ⟨_, rfl⟩ client.router location) fun _ => .pure _
  | resolve location =>
      exact .bind (Router.resolveWithin_guarantees ⟨_, rfl⟩ client.router _ location) fun _ =>
        .pure _
  | back => exact .bind (Router.back_guarantees ⟨_, rfl⟩ client.router) fun _ => .pure _
  | call call => exact .bind (Client.call_guarantees ⟨_, rfl⟩ client call) fun _ => .pure _
  | calls calls => exact .bind (Client.calls_guarantees ⟨_, rfl⟩ client calls) fun _ => .pure _
  | change c =>
      cases c with
      | establish auth => exact setAuthenticated_guarantees auth ⟨_, rfl⟩
      | identify user seller =>
          exact .bind (updateUser_guarantees user seller ⟨_, rfl⟩) fun _ => .pure _
      | clear => exact .bind (clearSession_guarantees ⟨_, rfl⟩) fun _ => .pure _

/-! ## Pools of operations -/

namespace Client

variable {client : Client} {ops : List Operation} {w : World}

/-- What some operation of a pool may do to the login. -/
def Allows (ops : List Operation) (step : Login.Section) : Prop := ∃ op ∈ ops, op.Allows step

theorem pool_guarantees (moves : List Move) :
    ∀ task ∈ ((client.pool ops w).run moves).tasks, task.Guarantees (World.Step (Allows ops)) := by
  refine Pool.run_guarantees (fun _ => .stay) ?_ moves
  intro task htask
  rcases List.mem_map.1 htask with ⟨op, hop, rfl⟩
  exact (op.guarantees client).mono fun w w' hstep => hstep.mono fun step h => ⟨op, hop, h⟩

/-- Every move of a pool of operations is one of the listed steps. -/
theorem pool_step (moves : List Move) (m : Move) :
    World.Step (Allows ops) ((client.pool ops w).run moves).state
      (((client.pool ops w).run moves).step m).state :=
  (Pool.step_guarantees (fun _ => .stay) (pool_guarantees moves) m).1

end Client
end WebClient
