import WebClient.Proofs.Mirror

/-!
# CallEnds — the four ways in which a call can end

A call ends with data, with a failure on the way, with a refusal, or without valid credentials.
What it has done to the session and the store, and what it has told the user, follows from the reply
alone, as long as nobody else changes the session meanwhile.

* `Reply.Accounts` says for each of the four replies what the call has done and told.
* `Activity.Ensures` is what holds when an activity ends, whatever it is answered and whatever
  others do to the page meanwhile; `Activity.EndsWithin` bounds its turns.
* Both are carried to the run of an activity by itself (`Activity.Ensures.run`) and to every place
  in a pool (`Pool.At.ends`).
* `call_ends_in_one_of_four_ways` is about all calls, by themselves and among others.
-/

namespace WebClient

/-! ## Activities under others -/

namespace Activity

variable {α : Type}

/-- Whatever the state and the answers, the activity has ended after so many turns. -/
inductive EndsWithin {σ : Type} : Nat → Activity σ α → Prop where
  | done (n : Nat) (a : α) : EndsWithin n (.done a)
  | atomic {n : Nat} {update : σ → σ} {next : σ → Activity σ α}
      (hnext : ∀ s, EndsWithin n (next s)) : EndsWithin (n + 1) (.atomic update next)
  | exchange {n : Nat} {request : Request} {next : Outcome → Activity σ α}
      (hnext : ∀ outcome, EndsWithin n (next outcome)) : EndsWithin (n + 1) (.exchange request next)

/-- Begin an activity with a login and with some events told: if nobody else touches the login, then
the activity only changes the login and tells of events, and `Q` holds at its end of its result, of
the login, and of all that has been told. -/
inductive Ensures (Q : α → Login → List Event → Prop) :
    Activity World α → Login → List Event → Prop where
  | done {a : α} {login : Login} {told : List Event} (hend : Q a login told) :
      Ensures Q (.done a) login told
  | atomic {update : World → World} {next : World → Activity World α} {login : Login}
      {told : List Event} (login' : Login) (news : List Event)
      (hupdate : ∀ w : World, w.login = login →
        update w = { w with login := login', events := w.events ++ news })
      (hnext : ∀ w : World, w.login = login → Ensures Q (next w) login' (told ++ news)) :
      Ensures Q (.atomic update next) login told
  | exchange {request : Request} {next : Outcome → Activity World α} {login : Login}
      {told : List Event} (hnext : ∀ outcome, Ensures Q (next outcome) login told) :
      Ensures Q (.exchange request next) login told

theorem eq_done_of_result? {σ : Type} {activity : Activity σ α} {a : α}
    (h : activity.result? = some a) : activity = .done a := by
  cases activity with
  | done b => exact congrArg Activity.done (Option.some.inj h)
  | atomic update next => simp [result?] at h
  | exchange request next => simp [result?] at h

theorem EndsWithin.done_of_zero {σ : Type} {activity : Activity σ α}
    (h : activity.EndsWithin 0) : ∃ a, activity = .done a := by
  cases h with
  | done n a => exact ⟨a, rfl⟩

theorem EndsWithin.step {σ : Type} {activity : Activity σ α} {n : Nat}
    (h : activity.EndsWithin (n + 1)) (outcome : Outcome) (s : σ) :
    (activity.step outcome s).1.EndsWithin n := by
  cases h with
  | done n a => exact .done _ a
  | atomic hnext => exact hnext s
  | exchange hnext => exact hnext outcome

variable {Q : α → Login → List Event → Prop} {activity : Activity World α} {login : Login}
  {told : List Event}

theorem Ensures.of_step (hgoing : activity.result? = none) (login' : Login) (news : List Event)
    (h : ∀ outcome (w : World), w.login = login →
      (activity.step outcome w).2 = { w with login := login', events := w.events ++ news } ∧
        (activity.step outcome w).1.Ensures Q login' (told ++ news)) :
    activity.Ensures Q login told := by
  cases activity with
  | done a => simp [result?] at hgoing
  | atomic update next =>
      exact .atomic login' news (fun w hw => (h .dropped w hw).1) fun w hw => (h .dropped w hw).2
  | exchange request next =>
      -- The arrival of an answer changes nothing in any state, so look at some state.
      refine .exchange fun outcome => ?_
      rcases h outcome { login } rfl with ⟨hstay, hrest⟩
      have hsame : login = login' ∧ [] = news := by simpa [Activity.step] using hstay
      rcases hsame with ⟨rfl, rfl⟩
      simpa [Activity.step] using hrest

theorem Ensures.step {w : World} (h : activity.Ensures Q w.login told) (outcome : Outcome) :
    ∃ login news,
      (activity.step outcome w).2 = { w with login, events := w.events ++ news } ∧
        (activity.step outcome w).1.Ensures Q login (told ++ news) := by
  -- Only an atomic step tells of anything.
  have hstay : w = { w with events := w.events ++ [] } := by simp
  have hnothing : told = told ++ [] := by simp
  cases h with
  | done hend => exact ⟨w.login, [], hstay, hnothing ▸ .done hend⟩
  | atomic login' news hupdate hnext => exact ⟨login', news, hupdate w rfl, hnext w rfl⟩
  | exchange hnext => exact ⟨w.login, [], hstay, hnothing ▸ hnext outcome⟩

/-- By itself an activity ends as it ensures, with everything but login and events as it was. -/
theorem Ensures.run (h : activity.Ensures Q login told) (backend : Backend) {s : Wired World}
    (hs : s.state.login = login) :
    ∃ login' news,
      (activity.run backend s).2.state =
          { s.state with login := login', events := s.state.events ++ news } ∧
        Q (activity.run backend s).1 login' (told ++ news) := by
  induction h generalizing s with
  | @done a login told hend =>
      subst hs
      exact ⟨s.state.login, [], by simp [Activity.run], by simpa [Activity.run] using hend⟩
  | @atomic update next login told login' news hupdate hnext ih =>
      let after : Wired World := { s with state := update s.state }
      have hafter : after.state.login = login' := congrArg World.login (hupdate s.state hs)
      rcases ih s.state hs hafter with ⟨login'', news', hstate, hend⟩
      refine ⟨login'', news ++ news', ?_, by simpa [Activity.run] using hend⟩
      calc
        ((next s.state).run backend after).2.state
            = { after.state with login := login'', events := after.state.events ++ news' } :=
              hstate
        _ = { s.state with login := login'', events := s.state.events ++ (news ++ news') } := by
              simp [after, hupdate s.state hs]
  | @exchange request next login told hnext ih =>
      exact ih (backend s.sent request) (s := { s with sent := s.sent ++ [request] }) hs

end Activity

namespace Pool

variable {α : Type}

/-- Whether, in a run, only the activity at a place changes the login. -/
def Undisturbed (p : Pool World α) (i j : Nat) : List Move → Prop
  | [] => True
  | m :: moves =>
    (m.Of i j ∨ (p.step m).state.login = p.state.login) ∧ (p.step m).Undisturbed i j moves

theorem Undisturbed.earlier {p : Pool World α} {i j : Nat} {seen moves : List Move}
    (h : p.Undisturbed i j moves) (hseen : seen <+: moves) : p.Undisturbed i j seen := by
  induction moves generalizing p seen with
  | nil => exact (List.prefix_nil.1 hseen) ▸ h
  | cons m moves ih =>
      cases seen with
      | nil => trivial
      | cons m' seen =>
          rcases List.cons_prefix_cons.1 hseen with ⟨rfl, hrest⟩
          exact ⟨h.1, ih h.2 hrest⟩

/-- The events that a run adds in the turns of the activity at a place. -/
def published (p : Pool World α) (i j : Nat) : List Move → List Event
  | [] => []
  | m :: moves =>
    (if m.Of i j then (p.step m).state.events.drop p.state.events.length else []) ++
      (p.step m).published i j moves

theorem At.ended {p : Pool World α} {i j : Nat} {reply : Reply} (h : p.At i j (.done reply))
    (moves : List Move) :
    ∃ seen reply', seen <+: moves ∧ (p.run seen).At i j (.done reply') ∧
      ∀ Q told, (Activity.done reply).Ensures Q p.state.login told → p.Undisturbed i j seen →
        Q reply' (p.run seen).state.login (told ++ p.published i j seen) := by
  refine ⟨[], reply, List.nil_prefix, h, fun Q told hensures _ => ?_⟩
  cases hensures with
  | done hend => simpa [published] using hend

/-- An activity that has as many turns as it may need ends in one of them; and if nobody else has
touched the login until then, it ends as it ensures. -/
theorem At.ends {p : Pool World α} {i j n : Nat} {activity : Activity World Reply}
    {moves : List Move} (h : p.At i j activity) (hends : activity.EndsWithin n)
    (hturns : n ≤ moves.countP (·.Of i j)) :
    ∃ seen reply, seen <+: moves ∧ (p.run seen).At i j (.done reply) ∧
      ∀ Q told, activity.Ensures Q p.state.login told → p.Undisturbed i j seen →
        Q reply (p.run seen).state.login (told ++ p.published i j seen) := by
  -- A turn of its own brings the activity nearer to its end; a turn of somebody else leaves it
  -- where it is.
  induction moves generalizing p activity n with
  | nil =>
      rcases (Nat.le_zero.1 hturns ▸ hends).done_of_zero with ⟨reply, rfl⟩
      exact h.ended []
  | cons m moves ih =>
      cases hresult : activity.result? with
      | some reply =>
          have hdone : activity = .done reply := Activity.eq_done_of_result? hresult
          subst hdone
          exact h.ended _
      | none =>
          by_cases hm : m.Of i j
          · cases n with
            | zero =>
                rcases hends.done_of_zero with ⟨reply, rfl⟩
                exact h.ended _
            | succ n =>
                have hown := h.step_self hresult hm
                have hleft : n ≤ moves.countP (·.Of i j) := by simpa [hm] using hturns
                rcases ih hown.1 (hends.step m.outcome p.state) hleft with
                  ⟨seen, reply, hseen, hdone, hkeeps⟩
                refine ⟨m :: seen, reply, List.cons_prefix_cons.2 ⟨rfl, hseen⟩, hdone, ?_⟩
                intro Q told hensures hundisturbed
                rcases hensures.step m.outcome with ⟨login, news, hstate, hrest⟩
                rw [← hown.2] at hstate
                have hlogin : (p.step m).state.login = login := by rw [hstate]
                have hnews : (p.step m).state.events.drop p.state.events.length = news := by
                  simp [hstate]
                have hend := hkeeps Q (told ++ news) (hlogin ▸ hrest) hundisturbed.2
                simpa [published, hm, hnews] using hend
          · have hother := h.step_other hresult hm
            have hleft : n ≤ moves.countP (·.Of i j) := by simpa [hm] using hturns
            rcases ih hother hends hleft with ⟨seen, reply, hseen, hdone, hkeeps⟩
            refine ⟨m :: seen, reply, List.cons_prefix_cons.2 ⟨rfl, hseen⟩, hdone, ?_⟩
            intro Q told hensures hundisturbed
            have hlogin : (p.step m).state.login = p.state.login :=
              hundisturbed.1.resolve_left hm
            have hend := hkeeps Q told (hlogin ▸ hensures) hundisturbed.2
            simpa [published, hm] using hend

/-- A task that waits for one activity goes on with its result, at the latest when it has had as many
turns as that may need and one more. -/
theorem single_ends {σ α : Type} {p : Pool σ α} {i n : Nat} {activity : Activity σ Reply}
    {next : Reply → Workflow σ α} {moves : List Move}
    (h : p.tasks[i]? = some (Workflow.single activity >>= next)) (hends : activity.EndsWithin n)
    (hturns : n + 1 ≤ moves.countP (·.Of i 0)) :
    ∃ seen rest reply, moves = seen ++ rest ∧ (p.run seen).tasks[i]? = some (next reply) ∧
      seen.countP (·.Of i 0) ≤ n + 1 := by
  induction moves generalizing p activity n with
  | nil => simp at hturns
  | cons m moves ih =>
      by_cases hm : m.task = i
      · cases hresult : activity.result? with
        | some reply =>
            have hdone : activity = .done reply := Activity.eq_done_of_result? hresult
            subst hdone
            refine ⟨[m], moves, reply, rfl, (single_done h hm).1, ?_⟩
            exact Nat.le_trans List.countP_le_length (Nat.le_add_left 1 n)
        | none =>
            by_cases hpart : m.part = 0
            · have hof : m.Of i 0 := ⟨hm, hpart⟩
              have hleft : n ≤ moves.countP (·.Of i 0) := by simpa [hof] using hturns
              cases n with
              | zero =>
                  rcases hends.done_of_zero with ⟨reply, rfl⟩
                  simp [Activity.result?] at hresult
              | succ n =>
                  have hown := (single_step h hresult hof).1
                  rcases ih hown (hends.step m.outcome p.state) hleft with
                    ⟨seen, rest, reply, rfl, htask, hcount⟩
                  exact ⟨m :: seen, rest, reply, rfl, htask, by simpa [hof] using hcount⟩
            · have hof : ¬ m.Of i 0 := fun hof => hpart hof.2
              have hleft : n + 1 ≤ moves.countP (·.Of i 0) := by simpa [hof] using hturns
              have hstays : (p.step m).tasks[i]? = some (Workflow.single activity >>= next) := by
                rw [single_idle h hresult hm hpart]
                exact h
              rcases ih hstays hends hleft with ⟨seen, rest, reply, rfl, htask, hcount⟩
              exact ⟨m :: seen, rest, reply, rfl, htask, by simpa [hof] using hcount⟩
      · have hof : ¬ m.Of i 0 := fun hof => hm hof.1
        have hleft : n + 1 ≤ moves.countP (·.Of i 0) := by simpa [hof] using hturns
        rcases ih ((tasks_step_of_ne hm).trans h) hends hleft with
          ⟨seen, rest, reply, rfl, htask, hcount⟩
        exact ⟨m :: seen, rest, reply, rfl, htask, by simpa [hof] using hcount⟩

/-- A task that is to have a turn has a next one. -/
theorem exists_next_turn {i : Nat} {moves : List Move} (h : 0 < moves.countP (·.Of i 0)) :
    ∃ others m rest, moves = others ++ m :: rest ∧ (∀ m' ∈ others, m'.task ≠ i) ∧ m.task = i ∧
      moves.countP (·.Of i 0) ≤ rest.countP (·.Of i 0) + 1 := by
  rcases List.countP_pos_iff.1 h with ⟨own, hown, hof⟩
  rcases exists_first_turn ⟨own, hown, (of_decide_eq_true hof).1⟩ with
    ⟨others, m, rest, rfl, hnone, htask⟩
  refine ⟨others, m, rest, rfl, hnone, htask, ?_⟩
  have hcount : others.countP (·.Of i 0) = 0 := by
    refine List.countP_eq_zero.2 fun m' hm' hof => hnone m' hm' ?_
    exact (of_decide_eq_true hof).1
  rw [List.countP_append, hcount, List.countP_cons]
  split <;> omega

end Pool

/-! ## What a call answers for -/

/-- What the end of a session comes to: nobody is logged in, and the store has lost every trace of
the session unless it refused to. -/
structure Login.Ended (before after : Login) : Prop where
  session : after.session = none
  gone : before.store.refuses Login.purgeChanges = false →
    ∀ key ∈ SessionKey.all, Dict.get? after.store.entries key = none
  refused : before.store.refuses Login.purgeChanges = true →
    after.store.entries = before.store.entries
  others : ∀ key, key ∉ SessionKey.all →
    Dict.get? after.store.entries key = Dict.get? before.store.entries key

/-- The four ways in which a call ends: what it has made of the login and what it has told, by what
it returns. -/
def Reply.Accounts (quiet : Bool) (before after : Login) (told : List Event) : Reply → Prop
  | .success _ _ => after = before ∧ told = []
  | .failure f =>
    Text.isAllBlank f.message = false ∧
      match f.kind with
      | .transport =>
        f = .transport Gateway.networkFailed ∧ after = before ∧
          told = [.toast .error Gateway.networkFailed]
      | .application =>
        after = before ∧ told = if quiet then [] else [.toast .error f.message]
      | .unauthorized =>
        .failure f = Gateway.rejection before.session.isSome ∧ before.Ended after ∧
          told = (if before.session.isSome then [.ofSession none] else []) ++
            [.toast .warning f.message]

theorem Login.ended_clear (login : Login) : login.Ended login.clear := by
  cases hrefused : login.store.refuses Login.purgeChanges with
  | true =>
      have hentries : login.clear.store.entries = login.store.entries := by
        simp [Login.clear, Store.write, hrefused, Store.tick]
      exact
        { session := rfl
          gone := fun h => absurd (hrefused.symm.trans h) (by decide)
          refused := fun _ => hentries
          others := fun _ _ => by rw [hentries] }
  | false =>
      have hentries : login.clear.store.entries =
          Change.applyAll Login.purgeChanges login.store.entries := by
        simp [Login.clear, Store.write, hrefused]
      exact
        { session := rfl
          gone := fun _ key hkey => by rw [hentries, Login.get?_purgeChanges, if_pos hkey]
          refused := fun h => absurd (hrefused.symm.trans h) (by decide)
          others := fun key hkey => by rw [hentries, Login.get?_purgeChanges, if_neg hkey] }

/-! ## Failures in envelopes -/

/-- No envelope with a success flag tells of a failure on the way. -/
theorem Envelope.kind_of_ofSuccessFlag {status : Nat} {members : List (String × Json)}
    {failure : Failure} (h : ofSuccessFlag status members = .ok (.failure failure)) :
    failure.kind ≠ .transport := by
  unfold ofSuccessFlag at h
  grind [Failure.unauthorized, Failure.application]

theorem Envelope.kind_of_ofStatusCode {members : List (String × Json)} {failure : Failure}
    (h : ofStatusCode members = .ok (.failure failure)) : failure.kind ≠ .transport := by
  unfold ofStatusCode at h
  grind [Failure.unauthorized, Failure.application]

theorem Convention.kind_of_read {convention : Convention} {status : Nat}
    {members : List (String × Json)} {failure : Failure}
    (h : convention.read status members = .ok (.failure failure)) : failure.kind ≠ .transport := by
  cases convention with
  | successFlag => exact Envelope.kind_of_ofSuccessFlag h
  | statusCode => exact Envelope.kind_of_ofStatusCode h
  | auto =>
      simp only [read] at h
      split at h
      · exact Envelope.kind_of_ofSuccessFlag h
      · exact Envelope.kind_of_ofStatusCode h
      · cases h

/-- An answer that is understood is never a failure on the way. -/
theorem Convention.kind_of_normalize {convention : Convention} {status : Nat} {body : String}
    {failure : Failure} (h : convention.normalize status body = .ok (.failure failure)) :
    failure.kind ≠ .transport := by
  unfold normalize at h
  split at h
  · split at h
    · cases h
      simp [Failure.unauthorized]
    · cases h
  · exact kind_of_read h
  · cases h

/-! ## Calls -/

/-- There is a token exactly if there is a session. -/
theorem World.isSome_token? (w : World) : w.token?.isSome = w.login.session.isSome :=
  Option.isSome_map

namespace Gateway

variable {g : Gateway} {call : Call} {login : Login}

/-- What a call returns, given whether it carried a token and what became of its request. -/
def verdict (g : Gateway) (hadToken : Bool) (outcome : Outcome) : Reply :=
  match g.reply? outcome with
  | none => .failure (.transport networkFailed)
  | some (.success message data) => .success message data
  | some (.failure failure) =>
    if failure.isUnauthorized then rejection hadToken
    else .failure { failure with message := refusalMessage failure }

/-- What becomes of the request of a call; one that cannot be made is as good as dropped. -/
def outcomeOf (g : Gateway) (call : Call) (backend : Backend) (s : Wired World) : Outcome :=
  (call.request? g.base s.state.token?).elim .dropped (backend s.sent)

theorem settle_verdict (quiet hadToken : Bool) (outcome : Outcome) (backend : Backend)
    (s : Wired World) :
    ((g.settle quiet hadToken outcome).run backend s).1 = g.verdict hadToken outcome := by
  cases hreply : g.reply? outcome with
  | none =>
      simp only [settle, verdict, hreply]
      rfl
  | some reply =>
      cases reply with
      | success message data =>
          simp only [settle, verdict, hreply]
          rfl
      | failure failure =>
          simp only [settle, verdict, hreply]
          split
          · rcases s with ⟨⟨⟨session, store⟩, router, events⟩, sent⟩
            cases session <;> cases hadToken <;> rfl
          · cases quiet <;> rfl

theorem call_verdict (g : Gateway) (call : Call) (backend : Backend) (s : Wired World) :
    ((g.call call).run backend s).1 =
      g.verdict s.state.login.session.isSome (g.outcomeOf call backend s) := by
  rw [call_eq_atomic, Activity.run, ← World.isSome_token?]
  cases hrequest : call.request? g.base s.state.token? with
  | none =>
      simp only [sent, outcomeOf, hrequest, Option.elim_none]
      rfl
  | some request =>
      simp only [sent, outcomeOf, hrequest, Option.elim_some]
      exact settle_verdict call.quiet _ _ backend { s with sent := s.sent ++ [request] }

theorem kind_of_reply? {outcome : Outcome} {failure : Failure}
    (h : g.reply? outcome = some (.failure failure)) : failure.kind ≠ .transport := by
  cases outcome with
  | dropped => simp [reply?] at h
  | answered status body =>
      unfold reply? at h
      cases hnormal : g.convention.normalize status body with
      | error e => simp [hnormal, Except.toOption] at h
      | ok reply =>
          have hreply : reply = .failure failure := by simpa [hnormal, Except.toOption] using h
          exact Convention.kind_of_normalize (hreply ▸ hnormal)

theorem isAllBlank_refusalMessage (failure : Failure) :
    Text.isAllBlank (refusalMessage failure) = false := by
  unfold refusalMessage
  split
  · decide
  · rename_i hblank
    simpa using hblank

theorem transportFailure_ensures (quiet : Bool) :
    transportFailure.Ensures (fun reply => reply.Accounts quiet login) login [] :=
  .atomic login [.toast .error networkFailed] (fun w hw => by rw [← hw]; rfl) fun _ _ =>
    .done ⟨by decide, rfl, rfl, rfl⟩

theorem handleRefusal_ensures (quiet : Bool) {failure : Failure}
    (hkind : failure.kind = .application) :
    (handleRefusal quiet failure).Ensures (fun reply => reply.Accounts quiet login) login [] := by
  have haccounts : ∀ told,
      told = (if quiet then [] else [.toast .error (refusalMessage failure)] : List Event) →
        (Reply.failure { failure with message := refusalMessage failure }).Accounts quiet login
          login told := by
    intro told htold
    simp only [Reply.Accounts, hkind]
    exact ⟨isAllBlank_refusalMessage failure, trivial, htold⟩
  cases quiet with
  | true => exact .done (haccounts _ rfl)
  | false =>
      exact .atomic login [.toast .error (refusalMessage failure)] (fun w hw => by rw [← hw]; rfl)
        fun _ _ => .done (haccounts _ rfl)

theorem rejection_accounts (quiet : Bool) {told : List Event}
    (htold : told = (if login.session.isSome then [.ofSession none] else []) ++
      [.toast .warning (if login.session.isSome then sessionExpired else loginRequired)]) :
    (rejection login.session.isSome).Accounts quiet login login.clear told := by
  have hspoken : ∀ hadToken : Bool,
      Text.isAllBlank (if hadToken then sessionExpired else loginRequired) = false := by decide
  exact ⟨hspoken _, rfl, login.ended_clear, htold⟩

theorem warning_ensures (login : Login) (quiet : Bool) {told : List Event}
    (htold : told = if login.session.isSome then [.ofSession none] else []) :
    (warning login.session.isSome).Ensures (fun reply => reply.Accounts quiet login)
      login.clear told := by
  refine .of_step rfl login.clear
    [.toast .warning (if login.session.isSome then sessionExpired else loginRequired)]
    fun outcome w hw => ?_
  rw [warning_step]
  exact ⟨by rw [← hw]; rfl, .done (rejection_accounts quiet (by rw [htold]))⟩

/-- A rejected call clears the session; only if there was one is there an end to be told of. -/
theorem handleUnauthorized_ensures (quiet : Bool) :
    (handleUnauthorized login.session.isSome).Ensures
      (fun reply => reply.Accounts quiet login) login [] := by
  refine .of_step (result?_handleUnauthorized _) login.clear [] fun outcome w hw => ?_
  rw [handleUnauthorized_step, hw]
  refine ⟨by simp, ?_⟩
  have hwarning := warning_ensures login quiet rfl
  cases hsession : login.session with
  | none => simpa [cleared, hsession] using hwarning
  | some auth =>
      refine .of_step rfl login.clear [.ofSession none] fun outcome w' hw' => ?_
      simp only [cleared, Option.isSome_some, ending_step]
      exact ⟨by rw [← hw']; rfl, by simpa [hsession] using hwarning⟩

theorem settle_ensures (quiet : Bool) (outcome : Outcome) :
    (g.settle quiet login.session.isSome outcome).Ensures
      (fun reply => reply.Accounts quiet login) login [] := by
  unfold settle
  split
  · exact transportFailure_ensures quiet
  · exact .done ⟨rfl, rfl⟩
  · rename_i failure hreply
    split
    · exact handleUnauthorized_ensures quiet
    · rename_i hkind
      have happlication : failure.kind = .application := by
        cases hcases : failure.kind with
        | transport => exact absurd hcases (kind_of_reply? hreply)
        | application => rfl
        | unauthorized => exact absurd (by simp [Failure.isUnauthorized, hcases]) hkind
      exact handleRefusal_ensures quiet happlication

theorem sent_ensures (g : Gateway) (call : Call) (w : World) :
    (g.sent call w.token?).Ensures (fun reply => reply.Accounts call.quiet w.login) w.login [] := by
  unfold sent
  split
  · exact transportFailure_ensures call.quiet
  · exact .exchange fun outcome => w.isSome_token? ▸ settle_ensures call.quiet outcome

theorem call_ensures (g : Gateway) (call : Call) (login : Login) :
    (g.call call).Ensures (fun reply => reply.Accounts call.quiet login) login [] := by
  rw [call_eq_atomic]
  refine .atomic login [] ?_ ?_
  · rintro w rfl
    simp
  · rintro w rfl
    exact g.sent_ensures call w

theorem handleUnauthorized_endsWithin (hadToken : Bool) :
    (handleUnauthorized hadToken).EndsWithin 3 := by
  refine .atomic ?_
  rintro ⟨⟨session, store⟩, router, events⟩
  cases session with
  | none =>
      cases hadToken with
      | false => exact .atomic fun _ => .done _ _
      | true => exact .done _ _
  | some auth => cases hadToken <;> exact .atomic fun _ => .atomic fun _ => .done _ _

theorem settle_endsWithin (quiet hadToken : Bool) (outcome : Outcome) :
    (g.settle quiet hadToken outcome).EndsWithin 3 := by
  unfold settle
  split
  · exact .atomic fun _ => .done _ _
  · exact .done _ _
  · split
    · exact handleUnauthorized_endsWithin hadToken
    · cases quiet with
      | true => exact .done _ _
      | false => exact .atomic fun _ => .done _ _

theorem sent_endsWithin (g : Gateway) (call : Call) (token : Option String) :
    (g.sent call token).EndsWithin 4 := by
  unfold sent
  split
  · exact .atomic fun _ => .done _ _
  · exact .exchange fun outcome => settle_endsWithin call.quiet _ outcome

theorem call_endsWithin (g : Gateway) (call : Call) : (g.call call).EndsWithin 5 := by
  rw [call_eq_atomic]
  exact .atomic fun w => g.sent_endsWithin call w.token?

end Gateway

/-- A call that nobody disturbs ends in one of four ways.  By itself it returns what its request has
come to, changes nothing but the login, and tells of nothing but what its reply accounts for.  In a
pool, among any number of other tasks, it ends in one of its first five turns, and if nobody else
has changed the login until then, its reply accounts for what it has told in its turns and for the
login that it leaves. -/
theorem call_ends_in_one_of_four_ways (g : Gateway) (call : Call) :
    (∀ (backend : Backend) (s : Wired World),
      let ended := (g.call call).run backend s
      ended.1 = g.verdict s.state.login.session.isSome (g.outcomeOf call backend s) ∧
        ∃ login told, ended.2.state = { s.state with login, events := s.state.events ++ told } ∧
          ended.1.Accounts call.quiet s.state.login login told) ∧
    ∀ (α : Type) (p : Pool World α) (i j : Nat) (moves : List Move),
      p.At i j (g.call call) → 5 ≤ moves.countP (·.Of i j) →
        ∃ seen reply, seen <+: moves ∧ (p.run seen).At i j (.done reply) ∧
          (p.Undisturbed i j seen →
            reply.Accounts call.quiet p.state.login (p.run seen).state.login
              (p.published i j seen)) := by
  refine ⟨?_, ?_⟩
  · intro backend s
    refine ⟨g.call_verdict call backend s, ?_⟩
    simpa using (g.call_ensures call s.state.login).run backend rfl
  · intro α p i j moves hcall hturns
    rcases hcall.ends (g.call_endsWithin call) hturns with ⟨seen, reply, hseen, hdone, hkeeps⟩
    refine ⟨seen, reply, hseen, hdone, fun hundisturbed => ?_⟩
    simpa using hkeeps _ [] (g.call_ensures call p.state.login) hundisturbed

/-- A call by Alice, and a task that has something else to say. -/
def aliceCalls : Pool World Reply :=
  ⟨[Client.pageless.call (.get "/cart"), do toast .info "saved"; return default], .alices⟩

/-- The call is rejected, and the other task speaks between two of its turns. -/
def rejectedAmidst : List Move :=
  [{ task := 0 }, { task := 0, outcome := .answered 401 "" }, { task := 0 }, { task := 1 },
    { task := 0 }, { task := 0 }]

theorem rejected_call_accounts :
    aliceCalls.At 0 0 (Client.pageless.gateway.call (.get "/cart")) ∧
      5 ≤ rejectedAmidst.countP (·.Of 0 0) ∧ aliceCalls.Undisturbed 0 0 rejectedAmidst ∧
      ∃ seen reply, seen <+: rejectedAmidst ∧ (aliceCalls.run seen).At 0 0 (.done reply) ∧
        reply.Accounts false aliceCalls.state.login (aliceCalls.run seen).state.login
          (aliceCalls.published 0 0 seen) := by
  have hcall : aliceCalls.At 0 0 (Client.pageless.gateway.call (.get "/cart")) :=
    ⟨_, _, rfl, rfl⟩
  have hturns : 5 ≤ rejectedAmidst.countP (·.Of 0 0) := by decide
  have hundisturbed : aliceCalls.Undisturbed 0 0 rejectedAmidst :=
    ⟨.inl (by decide), .inl (by decide), .inl (by decide), .inr rfl, .inl (by decide),
      .inl (by decide), trivial⟩
  rcases (call_ends_in_one_of_four_ways _ _).2 Reply aliceCalls 0 0 rejectedAmidst hcall hturns with
    ⟨seen, reply, hseen, hdone, haccounts⟩
  exact ⟨hcall, hturns, hundisturbed, seen, reply, hseen, hdone,
    haccounts (hundisturbed.earlier hseen)⟩

end WebClient
