import WebClient.Proofs.CallTurns
import WebClient.Proofs.Restore

/-!
# SessionNews — what is told of the login, and what is the case

Whoever draws the client learns of its login from events only.  `World.told` is what the last of
them said.  Operations that come one after the other keep it true, with one exception: a load that
finds nothing in the store ends a session that is in memory and says nothing.

* `World.Notices` is what an operation does to the session and to what is told of it.
* `Client.HasDropped` says that a load has ended a session and none has been established since.
* `told_is_current_iff` follows any sequence of operations.
-/

namespace WebClient

/-! ## What was told -/

/-- Whether somebody is logged in, and who. -/
abbrev LoginStatus := Bool × Option String

def Session.status (session : Session) : LoginStatus := (session.isSome, session.username?)

/-- What an event says of the login. -/
def Event.status? : Event → Option LoginStatus
  | .sessionChanged authenticated username => some (authenticated, username)
  | .toast _ _ => none
  | .viewChanged _ => none
  | .redirected _ _ => none

/-- What was told last; before that, nobody counts as logged in. -/
def Event.lastStatus (events : List Event) : LoginStatus :=
  (events.filterMap Event.status?).getLast?.getD (Session.status none)

/-- What a subscriber has been told last of the login. -/
def World.told (w : World) : LoginStatus := Event.lastStatus w.events

theorem Event.lastStatus_concat (events : List Event) (event : Event) :
    lastStatus (events ++ [event]) = event.status?.getD (lastStatus events) := by
  unfold lastStatus
  cases hstatus : event.status? <;> simp [hstatus]

theorem World.told_emit (w : World) (event : Event) :
    (w.emit event).told = event.status?.getD w.told :=
  Event.lastStatus_concat w.events event

/-- How the session and what is told of it change together. -/
inductive World.Notices (w w' : World) : Prop where
  | quiet (hsession : w'.login.session = w.login.session) (htold : w'.told = w.told)
  /-- A session came or went, and that was told. -/
  | news (htold : w'.told = w'.login.session.status)
      (hsome : w.login.session.isSome = true ∨ w'.login.session.isSome = true)

/-- A load that ended a session, and told nobody. -/
structure World.Drops (w w' : World) : Prop where
  before : w.login.session.isSome = true
  after : w'.login.session = none
  told : w'.told = w.told

theorem World.Notices.toast {w : World} (level : ToastLevel) (message : String) :
    w.Notices (w.emit (.toast level message)) :=
  .quiet rfl (World.told_emit w _)

/-! ## One operation -/

section Runs

variable (backend : Backend) (s : Wired World)

theorem Workflow.run_single (activity : Activity World Reply) :
    (Workflow.single activity).run backend s = activity.run backend s := by
  rw [← Activity.run_launch]
  rfl

/-- A result that is not looked at makes no difference. -/
theorem Workflow.run_ignore {α : Type} (workflow : Workflow World α) :
    ((do let _ ← workflow : Workflow World Unit).run backend s).2 = (workflow.run backend s).2 :=
  congrArg Prod.snd (Workflow.run_bind backend workflow _ s)

namespace Gateway

theorem notices_transportFailure :
    s.state.Notices (transportFailure.run backend s).2.state := .toast _ _

theorem notices_handleRefusal (quiet : Bool) (failure : Failure) :
    s.state.Notices ((handleRefusal quiet failure).run backend s).2.state := by
  cases quiet with
  | true => exact .quiet rfl rfl
  | false => exact .toast _ _

/-- Clearing a session is told, and clearing none is not. -/
theorem notices_handleUnauthorized (hadToken : Bool) :
    s.state.Notices ((handleUnauthorized hadToken).run backend s).2.state := by
  rcases s with ⟨⟨⟨session, store⟩, router, events⟩, sent⟩
  cases session with
  | some auth =>
      let w : World := { login := Login.clear ⟨some auth, store⟩, router, events }
      have hrun : ((handleUnauthorized hadToken).run backend
          ⟨⟨⟨some auth, store⟩, router, events⟩, sent⟩).2.state =
          (w.emit (.ofSession none)).emit
            (.toast .warning (if hadToken then sessionExpired else loginRequired)) := by
        cases hadToken <;> rfl
      -- The end of the session is told first; the toast that follows says nothing of the login.
      rw [hrun]
      exact .news ((World.told_emit _ _).trans (World.told_emit w _)) (.inl rfl)
  | none =>
      -- There is no session to clear, and only those who had no token are told to log in.
      cases hadToken with
      | true => exact .quiet rfl rfl
      | false => exact .quiet rfl (World.told_emit ⟨_, router, events⟩ _)

theorem notices_settle (g : Gateway) (quiet hadToken : Bool) (outcome : Outcome) :
    s.state.Notices ((g.settle quiet hadToken outcome).run backend s).2.state := by
  unfold settle
  split
  · exact notices_transportFailure backend s
  · exact .quiet rfl rfl
  · split
    · exact notices_handleUnauthorized backend s hadToken
    · exact notices_handleRefusal backend s quiet _

theorem notices_call (g : Gateway) (call : Call) :
    s.state.Notices ((g.call call).run backend s).2.state := by
  -- Reading the token and sending the request leave the world alone.
  have hread : (currentSession : Activity World Session).run backend s =
      (s.state.login.session, s) := rfl
  rw [call_eq_bind, Activity.run_bind, hread]
  dsimp only
  unfold sent
  cases hrequest : call.request? g.base s.state.login.session.token? with
  | none => exact notices_transportFailure backend s
  | some request =>
      let waiting : Wired World := { s with sent := s.sent ++ [request] }
      let settled := g.settle call.quiet s.state.login.session.token?.isSome
        (backend s.sent request)
      change waiting.state.Notices (settled.run backend waiting).2.state
      exact notices_settle backend waiting g _ _ _

end Gateway

theorem SessionChange.notices (change : SessionChange) :
    s.state.Notices (change.perform.run backend s).2.state := by
  rcases s with ⟨⟨⟨session, store⟩, router, events⟩, sent⟩
  -- All three tell of the session that they leave behind.
  have hnews : ∀ login : Login, (World.emit ⟨login, router, events⟩ (.ofSession login.session)).told
      = login.session.status := fun login => World.told_emit _ _
  cases change with
  | establish auth => exact .news (hnews (Login.establish ⟨session, store⟩ auth)) (.inr rfl)
  | identify user seller =>
      cases session with
      | none => exact .quiet rfl rfl
      | some auth =>
          exact .news (hnews (Login.establish ⟨some auth, store⟩ { auth with user, seller }))
            (.inl rfl)
  | clear =>
      cases session with
      | none => exact .quiet rfl rfl
      | some auth => exact .news (hnews (Login.clear ⟨some auth, store⟩)) (.inl rfl)

/-- A load tells of a session that it finds; one that it ends goes untold. -/
theorem notices_or_drops_loadPersisted :
    let w' := ((loadPersisted : Workflow World Session).run backend s).2.state
    s.state.Notices w' ∧ (w'.login.session = none → s.state.login.session = none) ∨
      s.state.Drops w' := by
  rw [run_loadPersisted]
  rcases s with ⟨⟨⟨session, store⟩, router, events⟩, sent⟩
  intro w'
  have hw' : w' = ⟨⟨store.restored, store.loaded⟩, router, events ++ store.restored.news⟩ := rfl
  rw [hw']
  cases hrestored : store.restored with
  | some auth =>
      have htold := World.told_emit ⟨⟨some auth, store.loaded⟩, router, events⟩
        (.ofSession (some auth))
      exact .inl ⟨.news htold (.inr rfl), nofun⟩
  | none =>
      -- Nothing is told of an empty session, whether or not there was one in memory.
      have hsilent : events ++ Session.news none = events := List.append_nil events
      rw [hsilent]
      cases session with
      | none => exact .inl ⟨.quiet rfl rfl, fun _ => rfl⟩
      | some auth => exact .inr ⟨rfl, rfl, rfl⟩

end Runs

/-- Operations on the session, and calls. -/
def Operation.IsElementary : Operation → Prop
  | .load | .change _ | .call _ => True
  | _ => False

theorem Operation.notices_or_drops (client : Client) (backend : Backend) (s : Wired World)
    {op : Operation} (h : op.IsElementary) :
    let w' := ((op.perform client).run backend s).2.state
    s.state.Notices w' ∧
        (op = .load → w'.login.session = none → s.state.login.session = none) ∨
      op = .load ∧ s.state.Drops w' := by
  cases op with
  | load =>
      have hload := notices_or_drops_loadPersisted backend s
      have hrun : ((Operation.load.perform client).run backend s).2 =
          ((loadPersisted : Workflow World Session).run backend s).2 :=
        Workflow.run_ignore backend s _
      rw [hrun]
      simpa using hload
  | change change => exact .inl ⟨change.notices backend s, Operation.noConfusion⟩
  | call call =>
      have hrun : (((Operation.call call).perform client).run backend s).2 =
          ((client.gateway.call call).run backend s).2 :=
        (Workflow.run_ignore backend s _).trans
          (congrArg Prod.snd (Workflow.run_single backend s _))
      rw [hrun]
      exact .inl ⟨Gateway.notices_call backend s _ call, Operation.noConfusion⟩
  | start _ | login _ _ | register _ _ _ | logout | refresh | navigate _ | resolve _ | back
  | calls _ => exact h.elim

/-! ## Operations one after the other -/

namespace Client

variable {client : Client} {backend : Backend} {s : Wired World} {ops : List Operation}

/-- Carries operations out in turn, each by itself. -/
def inTurn (client : Client) (backend : Backend) (ops : List Operation) (s : Wired World) :
    Wired World :=
  ops.foldl (fun s op => ((op.perform client).run backend s).2) s

theorem inTurn_concat (op : Operation) :
    client.inTurn backend (ops ++ [op]) s =
      ((op.perform client).run backend (client.inTurn backend ops s)).2 := by
  simp [inTurn]

/-- A load has ended a session, and since then there has been none. -/
def HasDropped (client : Client) (backend : Backend) (ops : List Operation) (s : Wired World) :
    Prop :=
  ∃ before after, ops = before ++ .load :: after ∧
    (client.inTurn backend before s).state.login.session.isSome = true ∧
    ∀ upTo, upTo <+: after →
      (client.inTurn backend (before ++ .load :: upTo) s).state.login.session = none

theorem HasDropped.session_eq (h : client.HasDropped backend ops s) :
    (client.inTurn backend ops s).state.login.session = none := by
  rcases h with ⟨before, after, rfl, -, hnone⟩
  exact hnone after List.prefix_rfl

theorem hasDropped_concat_iff (op : Operation) :
    client.HasDropped backend (ops ++ [op]) s ↔
      (client.inTurn backend (ops ++ [op]) s).state.login.session = none ∧
        (client.HasDropped backend ops s ∨
          op = .load ∧ (client.inTurn backend ops s).state.login.session.isSome = true) := by
  constructor
  · intro h
    refine ⟨h.session_eq, ?_⟩
    rcases h with ⟨before, after, hops, hsome, hnone⟩
    -- The load that ended the session is the last operation or an earlier one.
    rcases List.eq_nil_or_concat after with rfl | ⟨after, last, rfl⟩
    · rcases List.append_inj' hops rfl with ⟨rfl, hop⟩
      exact .inr ⟨List.singleton_injective hop, hsome⟩
    · have hsplit : ops ++ [op] = (before ++ .load :: after) ++ [last] := by simpa using hops
      rcases List.append_inj' hsplit rfl with ⟨rfl, -⟩
      refine .inl ⟨before, after, rfl, hsome, ?_⟩
      intro upTo hupTo
      exact hnone upTo (hupTo.trans (by simp))
  · -- One more operation without a session does not undo it; a load may be what does it.
    rintro ⟨hlast, ⟨before, after, rfl, hsome, hnone⟩ | ⟨rfl, hsome⟩⟩
    · refine ⟨before, after ++ [op], by simp, hsome, ?_⟩
      intro upTo hupTo
      rcases List.prefix_concat_iff.1 hupTo with rfl | hupTo
      · simpa using hlast
      · exact hnone upTo hupTo
    · refine ⟨ops, [], rfl, hsome, ?_⟩
      intro upTo hupTo
      rw [List.prefix_nil.1 hupTo]
      exact hlast

/-- Either what was told last is the case, or a load has ended the session that was told of. -/
theorem told_or_dropped (client : Client) (backend : Backend)
    (h : s.state.told = s.state.login.session.status) (hops : ∀ op ∈ ops, op.IsElementary) :
    let w := (client.inTurn backend ops s).state
    (w.told = w.login.session.status ∧ ¬ client.HasDropped backend ops s) ∨
      (w.told.1 = true ∧ client.HasDropped backend ops s) := by
  -- The last operation decides, over what the ones before it left.
  induction ops using List.reverseRecOn with
  | nil =>
      refine .inl ⟨h, ?_⟩
      rintro ⟨before, after, hops, -⟩
      simp at hops
  | append_singleton ops op ih =>
      rcases List.forall_mem_append.1 hops with ⟨hearlier, hop⟩
      have hstep := op.notices_or_drops client backend (client.inTurn backend ops s)
        (hop op (by simp))
      rw [← inTurn_concat] at hstep
      rw [hasDropped_concat_iff]
      have hdropped : client.HasDropped backend ops s →
          (client.inTurn backend ops s).state.login.session = none := HasDropped.session_eq
      generalize (client.inTurn backend ops s).state = w at ih hstep hdropped ⊢
      generalize (client.inTurn backend (ops ++ [op]) s).state = w' at hstep ⊢
      dsimp only at ih ⊢
      rcases hstep with ⟨⟨hsession, htold⟩ | ⟨htold, hsome⟩, hload⟩ | ⟨rfl, hdrops⟩
      · -- Nothing has changed, for better or worse.
        rw [hsession, htold]
        rcases ih hearlier with ⟨hagree, hkept⟩ | ⟨hold, hlost⟩
        · refine .inl ⟨hagree, ?_⟩
          rintro ⟨hnone, hlost | ⟨-, hsome⟩⟩
          · exact hkept hlost
          · simp [hnone] at hsome
        · exact .inr ⟨hold, hdropped hlost, .inl hlost⟩
      · -- What is told now makes up for whatever went untold before.
        refine .inl ⟨htold, ?_⟩
        rintro ⟨hnone, hlost | ⟨rfl, hwas⟩⟩
        · simp [hnone, hdropped hlost] at hsome
        · simp [hload rfl hnone] at hwas
      · -- The session that ends was told of: otherwise there would have been none to end.
        rcases ih hearlier with ⟨hagree, -⟩ | ⟨-, hlost⟩
        · refine .inr ⟨?_, hdrops.after, .inr ⟨rfl, hdrops.before⟩⟩
          rw [hdrops.told, hagree]
          exact hdrops.before
        · exact absurd hdrops.before (by simp [hdropped hlost])

end Client

/-- After any sequence of loads, changes of the session and calls, over any store, what was told
last of the login is the case exactly as long as no load has ended a session untold, with none
established since; then somebody is told to be logged in, and nobody is.  A session that is in
memory has always been told of. -/
theorem told_is_current_iff (client : Client) (backend : Backend) (store : Store)
    (ops : List Operation) (hops : ∀ op ∈ ops, op.IsElementary) :
    let s : Wired World := ⟨World.fresh store, []⟩
    let w := (client.inTurn backend ops s).state
    (w.told = w.login.session.status ↔ ¬ client.HasDropped backend ops s) ∧
      (client.HasDropped backend ops s → w.told.1 = true ∧ w.login.session = none) ∧
      (w.login.session.isSome = true → w.told = w.login.session.status) ∧
      (.load ∉ ops → w.told = w.login.session.status) := by
  intro s w
  have hstart : s.state.told = s.state.login.session.status := rfl
  have hcases := client.told_or_dropped backend hstart hops
  have hstale : client.HasDropped backend ops s → w.told.1 = true ∧ w.login.session = none := by
    intro hlost
    rcases hcases with ⟨-, hkept⟩ | ⟨hold, -⟩
    · exact absurd hlost hkept
    · exact ⟨hold, hlost.session_eq⟩
  have hagree : ¬ client.HasDropped backend ops s → w.told = w.login.session.status := by
    intro hkept
    rcases hcases with ⟨hagree, -⟩ | ⟨-, hlost⟩
    · exact hagree
    · exact absurd hlost hkept
  refine ⟨⟨?_, hagree⟩, hstale, ?_, ?_⟩
  · intro hcurrent hlost
    rcases hstale hlost with ⟨hold, hnone⟩
    rw [hcurrent, hnone] at hold
    cases hold
  · intro hsome
    refine hagree fun hlost => ?_
    simp [(hstale hlost).2] at hsome
  · intro hload
    refine hagree ?_
    rintro ⟨before, after, rfl, -⟩
    exact hload (by simp)

/-- Alice's session cannot be written, and a load then finds nothing. -/
def unsavedLogin : List Operation := [.change (.establish .alices), .load]

/-- A store whose writes all fail. -/
def Store.unwritable : Store where
  entries := []
  faults := { FaultPlan.none with write := fun _ => true }

/-- Nobody is logged in, and the last that was told is that Alice is. -/
theorem load_drops_session_untold :
    let w := (Client.pageless.inTurn Backend.unreachable unsavedLogin
      ⟨World.fresh .unwritable, []⟩).state
    w.told = (true, some "alice") ∧ w.login.session.status = (false, none) := by
  decide +kernel

theorem unsavedLogin_hasDropped :
    Client.pageless.HasDropped Backend.unreachable unsavedLogin ⟨World.fresh .unwritable, []⟩ := by
  have hops : ∀ op ∈ unsavedLogin, op.IsElementary := by
    simp [unsavedLogin, Operation.IsElementary]
  have h := told_is_current_iff .pageless Backend.unreachable .unwritable unsavedLogin hops
  by_contra hkept
  exact absurd (h.1.2 hkept) (by decide +kernel)

end WebClient
