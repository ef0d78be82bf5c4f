import Mathlib.Algebra.Order.Group.Multiset
import Mathlib.Logic.Function.Iterate
import Mathlib.Tactic.Abel
import WebClient.Proofs.CallEnds
import WebClient.Proofs.Stages

/-!
# Errands — calls that are made together

Calls that are made together read the same token, if none of them deals with an answer before all
have begun.  From then on each goes its own way: what it returns and what it tells hangs on its own
answer alone, but for the end of the session, which is told by the first call that is rejected.

* `Gateway.settle_eq_tell` says what is left of a call that has been answered.
* An `Errand` is such a call at a certain stage; `Errand.step_activity` follows one of its turns.
* `Group` is what all turns keep: how often the session has been cleared, and that what has been
  told and what is still to be told is always the same (`Group.step`).
-/

namespace WebClient

/-- Tells of some events and returns. -/
def tell : List Event → Reply → Activity World Reply
  | [], reply => .done reply
  | event :: rest, reply => do
    publish event
    tell rest reply

/-! ## What is left of a call that has been answered -/

namespace Gateway

variable {g : Gateway} {call : Call} {token : Option String} {outcome : Outcome} {w : World}

/-- What a call tells of its own answer, whatever becomes of other calls. -/
def ownNews (g : Gateway) (quiet hadToken : Bool) (outcome : Outcome) : List Event :=
  match g.reply? outcome with
  | none => [.toast .error networkFailed]
  | some (.success _ _) => []
  | some (.failure failure) =>
    if failure.isUnauthorized then if hadToken then [] else [.rejected false]
    else if quiet then [] else [.toast .error (refusalMessage failure)]

/-- What a rejected call has to tell once it has cleared the session, given the session that there
was. -/
def newsOfEnd (hadToken : Bool) (session : Session) : List Event :=
  if session.isSome then [.signedOut, .rejected hadToken]
  else if hadToken then [] else [.rejected false]

theorem cleared_eq_tell (hadToken : Bool) (session : Session) :
    cleared hadToken session = tell (newsOfEnd hadToken session) (rejection hadToken) := by
  cases session <;> cases hadToken <;> rfl

theorem handleRefusal_eq_tell (quiet : Bool) (failure : Failure) :
    handleRefusal quiet failure =
      tell (if quiet then [] else [.toast .error (refusalMessage failure)])
        (.failure { failure with message := refusalMessage failure }) := by
  cases quiet <;> rfl

theorem verdict_of_rejects (h : g.Rejects outcome) (hadToken : Bool) :
    g.verdict hadToken outcome = rejection hadToken := by
  rcases h with ⟨failure, hreply, hkind⟩
  simp [verdict, hreply, hkind]

theorem ownNews_of_rejects (h : g.Rejects outcome) (quiet hadToken : Bool) :
    g.ownNews quiet hadToken outcome = if hadToken then [] else [.rejected false] := by
  rcases h with ⟨failure, hreply, hkind⟩
  simp [ownNews, hreply, hkind]

/-- A call that is not rejected has only to tell of its own answer. -/
theorem settle_eq_tell (h : ¬ g.Rejects outcome) (quiet hadToken : Bool) :
    g.settle quiet hadToken outcome =
      tell (g.ownNews quiet hadToken outcome) (g.verdict hadToken outcome) := by
  cases hreply : g.reply? outcome with
  | none =>
      simp only [settle, ownNews, verdict, hreply]
      rfl
  | some reply =>
      cases reply with
      | success message data =>
          simp only [settle, ownNews, verdict, hreply]
          rfl
      | failure failure =>
          have hkind : failure.isUnauthorized = false := by
            cases hcases : failure.isUnauthorized with
            | false => rfl
            | true => exact absurd ⟨failure, hreply, hcases⟩ h
          simp only [settle, ownNews, verdict, hreply, hkind]
          exact handleRefusal_eq_tell quiet failure

theorem not_rejects_dropped : ¬ g.Rejects .dropped := by
  rintro ⟨failure, hreply, -⟩
  cases hreply

theorem length_ownNews_le (g : Gateway) (quiet hadToken : Bool) (outcome : Outcome) :
    (g.ownNews quiet hadToken outcome).length ≤ 1 := by
  unfold ownNews
  grind

theorem length_newsOfEnd_le (hadToken : Bool) (session : Session) :
    (newsOfEnd hadToken session).length ≤ 2 := by
  cases session <;> cases hadToken <;> simp [newsOfEnd]

/-- Whether a request can be made does not hang on the token. -/
theorem request?_of_not_sendable (h : ¬ g.Sendable call) (token : Option String) :
    call.request? g.base token = none := by
  unfold Sendable Call.request? at h
  unfold Call.request?
  split at h
  · rfl
  · split at h
    · exact absurd rfl h
    · rename_i hhttp
      simp [hhttp]

end Gateway

/-! ## A call of a group -/

/-- How far a call of a group is. -/
inductive Errand.Stage where
  /-- It has not read the token. -/
  | ready
  /-- It waits for the answer. -/
  | sent
  /-- It has been rejected, and has not cleared the session. -/
  | rejected
  /-- It has still to tell of some events, and nothing else to do. -/
  | telling (owed : List Event)

/-- A call of a group: what becomes of its request, and how far it is. -/
structure Errand where
  call : Call
  outcome : Outcome
  stage : Errand.Stage := .ready

namespace Errand

variable {g : Gateway} {token : Option String} {hadToken : Bool} {e : Errand} {w : World}

/-- What a call has to deal with; a request that cannot be made is as good as dropped. -/
def arrived (g : Gateway) (e : Errand) : Outcome :=
  if g.Sendable e.call then e.outcome else .dropped

def reply (g : Gateway) (hadToken : Bool) (e : Errand) : Reply := g.verdict hadToken (e.arrived g)

def news (g : Gateway) (hadToken : Bool) (e : Errand) : List Event :=
  g.ownNews e.call.quiet hadToken (e.arrived g)

def Rejected (g : Gateway) (e : Errand) : Prop := g.Rejects (e.arrived g)

instance (g : Gateway) (e : Errand) : Decidable (e.Rejected g) :=
  inferInstanceAs (Decidable (g.Rejects (e.arrived g)))

/-- What is left of the call. -/
def activity (g : Gateway) (token : Option String) (e : Errand) : Activity World Reply :=
  match e.stage with
  | .ready => g.call e.call
  | .sent => g.sent e.call token
  | .rejected => Gateway.handleUnauthorized token.isSome
  | .telling owed => tell owed (e.reply g token.isSome)

/-- The next stage, and what becomes of the shared state on the way there. -/
def advance (g : Gateway) (hadToken : Bool) (w : World) (e : Errand) : Stage × World :=
  match e.stage with
  | .ready => (if g.Sendable e.call then .sent else .telling (e.news g hadToken), w)
  | .sent => (if e.Rejected g then .rejected else .telling (e.news g hadToken), w)
  | .rejected =>
    (.telling (Gateway.newsOfEnd hadToken w.login.session), { w with login := w.login.clear })
  | .telling [] => (.telling [], w)
  | .telling (event :: owed) => (.telling owed, w.emit event)

/-- The call after its next turn. -/
def next (g : Gateway) (hadToken : Bool) (w : World) (e : Errand) : Errand :=
  { e with stage := (e.advance g hadToken w).1 }

/-- The call before its first turn. -/
def restart (e : Errand) : Errand := { e with stage := .ready }

-- What becomes of a call does not depend on how far it is.

theorem arrived_next : (e.next g hadToken w).arrived g = e.arrived g := rfl

theorem arrived_restart : e.restart.arrived g = e.arrived g := rfl

theorem rejected_next : (e.next g hadToken w).Rejected g ↔ e.Rejected g := by
  rw [Rejected, Rejected, arrived_next]

theorem rejected_restart : e.restart.Rejected g ↔ e.Rejected g := by
  rw [Rejected, Rejected, arrived_restart]

theorem reply_restart (hadToken : Bool) : e.restart.reply g hadToken = e.reply g hadToken := by
  rw [reply, reply, arrived_restart]

/-- What a stage says of the answer to come. -/
def Sound (g : Gateway) (e : Errand) : Prop :=
  (e.stage = .sent → g.Sendable e.call) ∧ (e.stage = .rejected → e.Rejected g)

theorem sent_of_not_sendable (h : ¬ g.Sendable e.call) (token : Option String) :
    g.sent e.call token = tell (e.news g token.isSome) (e.reply g token.isSome) := by
  have hdropped : e.arrived g = .dropped := if_neg h
  rw [Gateway.sent, Gateway.request?_of_not_sendable h, news, reply, hdropped]
  rfl

theorem Sound.next (h : e.Sound g) (hadToken : Bool) (w : World) :
    (e.next g hadToken w).Sound g := by
  rcases e with ⟨call, outcome, stage⟩
  cases stage with
  | ready =>
      by_cases hsendable : g.Sendable call <;> simp [Sound, Errand.next, advance, hsendable]
  | sent =>
      by_cases hrejected : Rejected g ⟨call, outcome, .sent⟩
      · simp [Sound, Errand.next, advance, hrejected]
        exact hrejected
      · simp [Sound, Errand.next, advance, hrejected]
  | rejected => simp [Sound, Errand.next, advance]
  | telling owed => cases owed <;> simp [Sound, Errand.next, advance]

/-- What a turn makes of a call, and of the shared state. -/
theorem step_activity (h : e.Sound g) (hread : e.stage = .ready → w.token? = token) :
    (e.activity g token).step e.outcome w =
      ((e.next g token.isSome w).activity g token, (e.advance g token.isSome w).2) := by
  rcases e with ⟨call, outcome, stage⟩
  cases stage with
  | ready =>
      have hstep : (g.call call).step outcome w = (g.sent call token, w) := by
        rw [Gateway.call_step, hread rfl]
      by_cases hsendable : g.Sendable call
      · simpa [activity, Errand.next, advance, hsendable] using hstep
      · -- The call fails without a request.
        rw [sent_of_not_sendable (e := ⟨call, outcome, .ready⟩) hsendable] at hstep
        simp only [activity, Errand.next, advance, if_neg hsendable]
        exact hstep
  | sent =>
      have hsendable : g.Sendable call := h.1 rfl
      have harrived : arrived g ⟨call, outcome, .sent⟩ = outcome := if_pos hsendable
      have hstep : (g.sent call token).step outcome w =
          (g.settle call.quiet token.isSome outcome, w) := Gateway.sent_step hsendable
      by_cases hrejected : Rejected g ⟨call, outcome, .sent⟩
      · rw [Gateway.settle_of_rejects (harrived ▸ hrejected)] at hstep
        simp only [activity, Errand.next, advance, if_pos hrejected]
        exact hstep
      · have hsettle : g.settle call.quiet token.isSome outcome =
            tell (news g token.isSome ⟨call, outcome, .sent⟩)
              (reply g token.isSome ⟨call, outcome, .sent⟩) := by
          rw [news, reply, harrived]
          exact Gateway.settle_eq_tell (harrived ▸ hrejected) _ _
        rw [hsettle] at hstep
        simp only [activity, Errand.next, advance, if_neg hrejected]
        exact hstep
  | rejected =>
      have hreply : reply g token.isSome ⟨call, outcome, .rejected⟩ =
          Gateway.rejection token.isSome := Gateway.verdict_of_rejects (h.2 rfl) _
      have hstep : (Gateway.handleUnauthorized token.isSome).step outcome w = _ :=
        Gateway.handleUnauthorized_step token.isSome
      rw [Gateway.cleared_eq_tell, ← hreply] at hstep
      exact hstep
  | telling owed => cases owed <;> rfl

/-! ### What a turn adds up to -/

/-- How many turns are left at most. -/
def Stage.rank : Stage → Nat
  | .ready => 5
  | .sent => 4
  | .rejected => 3
  | .telling owed => owed.length

theorem Stage.eq_of_rank {stage : Stage} (h : stage.rank = 0) : stage = .telling [] := by
  cases stage with
  | ready | sent | rejected => cases h
  | telling owed => rw [List.length_eq_zero_iff.1 h]

/-- What the call has still to tell, as far as that does not hang on other calls. -/
def owed (g : Gateway) (hadToken : Bool) (e : Errand) : List Event :=
  match e.stage with
  | .telling owed => owed
  | .ready | .sent | .rejected => e.news g hadToken

/-- Whether the call has been rejected and has cleared the session. -/
def hasCleared (g : Gateway) (e : Errand) : Bool :=
  match e.stage with
  | .telling _ => decide (e.Rejected g)
  | .ready | .sent | .rejected => false

/-- What rejected calls have still to tell of the end of the session: nothing until one is rejected,
and nothing once the session has been cleared. -/
def debt (anyRejected : Bool) (session : Session) : List Event :=
  if session.isSome && anyRejected then [.signedOut, .rejected true] else []

theorem not_rejected_of_not_sendable (h : ¬ g.Sendable e.call) : ¬ e.Rejected g := by
  have hdropped : e.arrived g = .dropped := if_neg h
  rw [Rejected, hdropped]
  exact Gateway.not_rejects_dropped

theorem rank_next (g : Gateway) (hadToken : Bool) (w : World) (e : Errand) :
    (e.next g hadToken w).stage.rank ≤ e.stage.rank - 1 := by
  have hnews : (e.news g hadToken).length ≤ 1 := Gateway.length_ownNews_le _ _ _ _
  have hend := Gateway.length_newsOfEnd_le hadToken w.login.session
  rcases e with ⟨call, outcome, stage⟩
  cases stage with
  | ready | sent =>
      simp only [next, advance]
      split
      · decide
      · exact Nat.le_trans hnews (by decide)
  | rejected => exact hend
  | telling owed => cases owed <;> simp [next, advance, Stage.rank]

theorem next_ne_ready (g : Gateway) (hadToken : Bool) (w : World) (e : Errand) :
    (e.next g hadToken w).stage ≠ .ready := by
  rcases e with ⟨call, outcome, stage⟩
  cases stage with
  | ready => by_cases h : g.Sendable call <;> simp [next, advance, h]
  | sent => by_cases h : Rejected g ⟨call, outcome, .sent⟩ <;> simp [next, advance, h]
  | rejected => simp [next, advance]
  | telling owed => cases owed <;> simp [next, advance]

/-- A turn may clear the session, and may tell of something; what is told and what is still owed add
up as before. -/
theorem advance_adds_up {anyRejected : Bool} (h : e.Sound g)
    (hsession : w.login.session.isSome → hadToken = true)
    (hany : e.stage = .rejected → anyRejected = true) :
    ∃ told k, (e.advance g hadToken w).2 =
        { w with login := Login.clear^[k] w.login, events := w.events ++ told } ∧
      k + (if e.hasCleared g then 1 else 0) =
        (if (e.next g hadToken w).hasCleared g then 1 else 0) ∧
      told ++ ((e.next g hadToken w).owed g hadToken ++
          debt anyRejected (Login.clear^[k] w.login).session) =
        e.owed g hadToken ++ debt anyRejected w.login.session := by
  rcases e with ⟨call, outcome, stage⟩
  -- For the turns that neither clear the session nor tell of something.
  have hstay : w = { w with login := Login.clear^[0] w.login, events := w.events ++ [] } := by simp
  cases stage with
  | ready =>
      refine ⟨[], 0, hstay, ?_, ?_⟩
      · by_cases hsendable : g.Sendable call
        · simp [next, advance, hasCleared, hsendable]
        · have hnot : ¬ Rejected g (next g hadToken w ⟨call, outcome, .ready⟩) :=
            not_rejected_of_not_sendable hsendable
          simp only [next, advance, if_neg hsendable] at hnot ⊢
          simp [hasCleared, hnot]
      · by_cases hsendable : g.Sendable call <;> simp [next, advance, owed, hsendable]
        all_goals rfl
  | sent =>
      refine ⟨[], 0, hstay, ?_, ?_⟩
      · by_cases hrejected : Rejected g ⟨call, outcome, .sent⟩
        · simp [next, advance, hasCleared, hrejected]
        · have hnot : ¬ Rejected g (next g hadToken w ⟨call, outcome, .sent⟩) :=
            fun hlater => hrejected (rejected_next.1 hlater)
          simp only [next, advance, if_neg hrejected] at hnot ⊢
          simp [hasCleared, hnot]
      · by_cases hrejected : Rejected g ⟨call, outcome, .sent⟩ <;>
          simp [next, advance, owed, hrejected]
        all_goals rfl
  | rejected =>
      have hrejected : Rejected g ⟨call, outcome, .rejected⟩ := h.2 rfl
      have hnext : Rejected g (next g hadToken w ⟨call, outcome, .rejected⟩) :=
        rejected_next.2 hrejected
      have hnews : news g hadToken ⟨call, outcome, .rejected⟩ =
          if hadToken then [] else [.rejected false] := Gateway.ownNews_of_rejects hrejected _ _
      refine ⟨[], 1, by simp [advance], ?_, ?_⟩
      · simp only [next, advance] at hnext ⊢
        simp [hasCleared, hnext]
      · have hnow : owed g hadToken ⟨call, outcome, .rejected⟩ =
            if hadToken then [] else [.rejected false] := hnews
        have hafter : owed g hadToken (next g hadToken w ⟨call, outcome, .rejected⟩) =
            Gateway.newsOfEnd hadToken w.login.session := rfl
        have hgone : (Login.clear^[1] w.login).session = none := rfl
        rw [hany rfl, hnow, hafter, hgone]
        -- Whoever finds a session is the one to tell of its end.
        cases hcurrent : w.login.session with
        | none => simp [Gateway.newsOfEnd, debt]
        | some auth =>
            have htoken : hadToken = true := hsession (by rw [hcurrent]; rfl)
            simp [Gateway.newsOfEnd, debt, htoken]
  | telling owed =>
      cases owed with
      | nil => exact ⟨[], 0, hstay, Nat.zero_add _, rfl⟩
      | cons event owed =>
          refine ⟨[event], 0, rfl, ?_, rfl⟩
          simp only [next, advance]
          simp [hasCleared]
          rfl

/-- Whether any of the calls is going to be rejected. -/
def anyRejected (g : Gateway) (asked : List Errand) : Bool :=
  asked.any fun e => decide (e.Rejected g)

/-- All that calls tell which are made together. -/
def allNews (g : Gateway) (w : World) (asked : List Errand) : List Event :=
  asked.flatMap (·.news g w.token?.isSome) ++ debt (anyRejected g asked) w.login.session

end Errand

/-! ## A group of calls -/

/-- Calls that are made together, after some turns: what the calls are at, and what the shared state
has come to.

* No call has got further than its request while another has not begun.
* The session has been cleared once for each rejected call that has dealt with its answer.
* What has been told and what is still to be told are what there is to tell. -/
structure Group (g : Gateway) (w : World) (asked : List Errand) (seen : List Nat)
    (errands : List Errand) (w' : World) : Prop where
  calls : errands.map Errand.restart = asked
  sound : ∀ e ∈ errands, e.Sound g
  begun : ∀ i e, errands[i]? = some e → (e.stage = .ready ↔ i ∉ seen)
  paced : ∀ i e, errands[i]? = some e → e.stage.rank ≤ 5 - seen.count i
  early : (∃ e ∈ errands, e.stage = .ready) →
    ∀ e ∈ errands, e.stage = .ready ∨ e.stage = .sent ∨ ¬ g.Sendable e.call
  state : ∃ news, w' =
      { w with
        login := Login.clear^[errands.countP (·.hasCleared g)] w.login
        events := w.events ++ news } ∧
    (news ++ (errands.flatMap (·.owed g w.token?.isSome) ++
      Errand.debt (Errand.anyRejected g asked) w'.login.session)).Perm (Errand.allNews g w asked)

theorem Login.session_iterate_clear (k : Nat) (login : Login) :
    (Login.clear^[k] login).session = if k = 0 then login.session else none := by
  cases k with
  | zero => rfl
  | succ k =>
      rw [Function.iterate_succ_apply']
      rfl

/-- What one of many tells now is no longer owed. -/
theorem perm_of_told {α : Type} {news told before behind owed owed' debt debt' : List α}
    (h : told ++ (owed' ++ debt') = owed ++ debt) :
    (news ++ told ++ (before ++ (owed' ++ behind) ++ debt')).Perm
      (news ++ (before ++ (owed ++ behind) ++ debt)) := by
  have hsum : (told : Multiset α) + (owed' + debt') = owed + debt := by
    simp only [Multiset.coe_add, h]
  rw [← Multiset.coe_eq_coe]
  simp only [← Multiset.coe_add]
  calc
    (news : Multiset α) + told + (before + (owed' + behind) + debt')
        = news + before + behind + (told + (owed' + debt')) := by abel
    _ = news + before + behind + (owed + debt) := by rw [hsum]
    _ = news + (before + (owed + behind) + debt) := by abel

namespace Group

variable {g : Gateway} {w w' : World} {asked errands : List Errand} {seen : List Nat}

theorem start (g : Gateway) (w : World) (hasked : ∀ e ∈ asked, e.stage = .ready) :
    Group g w asked [] asked w := by
  have hrestart : ∀ e ∈ asked, e.restart = e := by
    intro e he
    rcases e with ⟨call, outcome, stage⟩
    cases hasked _ he
    rfl
  have howed : ∀ e ∈ asked, e.owed g w.token?.isSome = e.news g w.token?.isSome := by
    intro e he
    rw [Errand.owed, hasked e he]
  have hcount : asked.countP (·.hasCleared g) = 0 := by
    refine List.countP_eq_zero.2 fun e he => ?_
    rw [Errand.hasCleared, hasked e he]
    simp
  refine
    { calls := (List.map_congr_left hrestart).trans (List.map_id' asked)
      sound := fun e he => ?_
      begun := fun i e hi => ?_
      paced := fun i e hi => ?_
      early := fun _ e he => .inl (hasked e he)
      state := ⟨[], by simp [hcount], ?_⟩ }
  · simp [Errand.Sound, hasked e he]
  · simp [hasked e (List.mem_of_getElem? hi)]
  · simp [hasked e (List.mem_of_getElem? hi), Errand.Stage.rank]
  · rw [List.nil_append, List.flatMap_congr howed]
    exact List.Perm.refl _

theorem countP_hasCleared_of_ready (h : Group g w asked seen errands w')
    (hready : ∃ e ∈ errands, e.stage = .ready) : errands.countP (·.hasCleared g) = 0 := by
  refine List.countP_eq_zero.2 fun e he => ?_
  -- Only a call whose request could be made can have been rejected.
  rcases h.early hready e he with hstage | hstage | hsendable
  · simp [Errand.hasCleared, hstage]
  · simp [Errand.hasCleared, hstage]
  · have hnot := Errand.not_rejected_of_not_sendable hsendable
    unfold Errand.hasCleared
    split <;> simp [hnot]

/-- All calls read the same token. -/
theorem token_of_ready (h : Group g w asked seen errands w')
    (hready : ∃ e ∈ errands, e.stage = .ready) : w'.token? = w.token? := by
  rcases h.state with ⟨news, rfl, -⟩
  simp [World.token?, h.countP_hasCleared_of_ready hready]

theorem had_token (h : Group g w asked seen errands w')
    (hsession : w'.login.session.isSome = true) : w.token?.isSome = true := by
  rcases h.state with ⟨news, rfl, -⟩
  rw [World.isSome_token?]
  simp only [Login.session_iterate_clear] at hsession
  split at hsession
  · exact hsession
  · cases hsession

theorem any_rejected (h : Group g w asked seen errands w') {e : Errand} (he : e ∈ errands)
    (hrejected : e.Rejected g) : Errand.anyRejected g asked = true := by
  refine List.any_eq_true.2 ⟨e.restart, ?_, decide_eq_true hrejected⟩
  rw [← h.calls]
  exact List.mem_map_of_mem he

/-- At the place of the call that had the turn stands its next stage, and all other places are as
they were. -/
theorem set_cases {j i : Nat} {e' other : Errand} (hi : (errands.set j e')[i]? = some other) :
    (i = j ∧ other = e') ∨ (i ≠ j ∧ errands[i]? = some other) := by
  rw [List.getElem?_set] at hi
  split at hi
  · rename_i hij
    split at hi
    · exact .inl ⟨hij.symm, (Option.some.inj hi).symm⟩
    · cases hi
  · rename_i hij
    exact .inr ⟨Ne.symm hij, hi⟩

section Step

variable {j : Nat} {e : Errand}

theorem exists_split (hj : errands[j]? = some e) :
    ∃ before behind, errands = before ++ e :: behind ∧
      ∀ e', errands.set j e' = before ++ e' :: behind := by
  rcases List.getElem?_eq_some_iff.1 hj with ⟨hlt, rfl⟩
  have hset : ∀ e', errands.set j e' = errands.take j ++ e' :: errands.drop (j + 1) := by
    intro e'
    rw [List.set_eq_take_append_cons_drop, if_pos hlt]
  exact ⟨errands.take j, errands.drop (j + 1), by rw [← hset, List.set_getElem_self], hset⟩

/-- Nobody deals with an answer in its turn while another call has not begun. -/
theorem early_step (h : Group g w asked seen errands w') (hj : errands[j]? = some e)
    (htogether : j ∈ seen → g.Sendable e.call → ∀ i < errands.length, i ∈ seen) :
    (∃ late ∈ errands.set j (e.next g w.token?.isSome w'), late.stage = .ready) →
      ∀ other ∈ errands.set j (e.next g w.token?.isSome w'),
        other.stage = .ready ∨ other.stage = .sent ∨ ¬ g.Sendable other.call := by
  rintro ⟨late, hlate, hready⟩ other hother
  -- The call that has not begun is another one.
  have hlate' : late ∈ errands := by
    rcases List.mem_or_eq_of_mem_set hlate with hlate | rfl
    · exact hlate
    · exact absurd hready (Errand.next_ne_ready _ _ _ _)
  rcases List.mem_or_eq_of_mem_set hother with hother | rfl
  · exact h.early ⟨late, hlate', hready⟩ other hother
  · by_cases hsendable : g.Sendable e.call
    · -- So this one had not begun either, and has just made its request.
      have hnot : j ∉ seen := by
        intro hseen
        rcases List.getElem?_of_mem hlate' with ⟨i, hi⟩
        have hlt : i < errands.length := (List.getElem?_eq_some_iff.1 hi).1
        exact (h.begun i late hi).1 hready (htogether hseen hsendable i hlt)
      have hstage : e.stage = .ready := (h.begun j e hj).2 hnot
      refine .inr (.inl ?_)
      simp [Errand.next, Errand.advance, hstage, hsendable]
    · exact .inr (.inr hsendable)

/-- A turn of one call adds to what has been told what it takes from what is owed. -/
theorem state_step (h : Group g w asked seen errands w') (hj : errands[j]? = some e) :
    ∃ news, (e.advance g w.token?.isSome w').2 =
        { w with
          login := Login.clear^[(errands.set j (e.next g w.token?.isSome w')).countP
            (·.hasCleared g)] w.login
          events := w.events ++ news } ∧
      (news ++ ((errands.set j (e.next g w.token?.isSome w')).flatMap
          (·.owed g w.token?.isSome) ++
        Errand.debt (Errand.anyRejected g asked)
          (e.advance g w.token?.isSome w').2.login.session)).Perm (Errand.allNews g w asked) := by
  have he : e ∈ errands := List.mem_of_getElem? hj
  rcases exists_split hj with ⟨before, behind, herrands, hset⟩
  rcases h.state with ⟨news, hstate, hperm⟩
  have hany : e.stage = .rejected → Errand.anyRejected g asked = true :=
    fun hstage => h.any_rejected he ((h.sound e he).2 hstage)
  rcases Errand.advance_adds_up (h.sound e he) h.had_token hany with
    ⟨told, k, hafter, hcleared, hsum⟩
  have hlogin : (e.advance g w.token?.isSome w').2.login = Login.clear^[k] w'.login := by
    rw [hafter]
  have hcount : (errands.set j (e.next g w.token?.isSome w')).countP (·.hasCleared g) =
      k + errands.countP (·.hasCleared g) := by
    rw [hset, herrands]
    simp only [List.countP_append, List.countP_cons]
    omega
  refine ⟨news ++ told, ?_, ?_⟩
  · rw [hcount, Function.iterate_add_apply, hafter, hstate]
    simp
  · rw [herrands, List.flatMap_append, List.flatMap_cons] at hperm
    rw [hset, List.flatMap_append, List.flatMap_cons, hlogin]
    exact (perm_of_told hsum).trans hperm

/-- Every turn of one of the calls keeps what a group keeps. -/
theorem step (h : Group g w asked seen errands w') (hj : errands[j]? = some e)
    (htogether : j ∈ seen → g.Sendable e.call → ∀ i < errands.length, i ∈ seen) :
    Group g w asked (seen ++ [j]) (errands.set j (e.next g w.token?.isSome w'))
      (e.advance g w.token?.isSome w').2 := by
  refine
    { calls := ?_
      sound := fun other hother => ?_
      begun := fun i other hi => ?_
      paced := fun i other hi => ?_
      early := h.early_step hj htogether
      state := h.state_step hj }
  · rcases exists_split hj with ⟨before, behind, herrands, hset⟩
    rw [← h.calls, hset, herrands, List.map_append, List.map_append, List.map_cons, List.map_cons]
    rfl
  · rcases List.mem_or_eq_of_mem_set hother with hother | rfl
    · exact h.sound other hother
    · exact (h.sound e (List.mem_of_getElem? hj)).next _ _
  · rcases set_cases hi with ⟨rfl, rfl⟩ | ⟨hij, hi⟩
    · simp [Errand.next_ne_ready]
    · simpa [hij] using h.begun i other hi
  · rcases set_cases hi with ⟨rfl, rfl⟩ | ⟨hij, hi⟩
    · have hpace := h.paced i e hj
      have hrank := Errand.rank_next g w.token?.isSome w' e
      simp only [List.count_append, List.count_singleton, beq_self_eq_true, if_true]
      omega
    · simpa [List.count_append, List.count_singleton, Ne.symm hij] using h.paced i other hi

end Step

/-- A turn at the place of a call that is over, or of none, changes nothing. -/
theorem pass (h : Group g w asked seen errands w') {j : Nat}
    (hover : ∀ e, errands[j]? = some e → e.stage = .telling [])
    (htogether : ∀ e, errands[j]? = some e → j ∈ seen → g.Sendable e.call →
      ∀ i < errands.length, i ∈ seen) :
    Group g w asked (seen ++ [j]) errands w' := by
  cases hj : errands[j]? with
  | some e =>
      have hstep := h.step hj (htogether e hj)
      have hstage := hover e hj
      rcases List.getElem?_eq_some_iff.1 hj with ⟨hlt, hget⟩
      rcases e with ⟨call, outcome, stage⟩
      cases hstage
      simpa [Errand.next, Errand.advance, ← hget] using hstep
  | none =>
      have hother : ∀ {i : Nat} {e : Errand}, errands[i]? = some e → i ≠ j := by
        rintro i e hi rfl
        simp [hj] at hi
      refine { h with begun := fun i e hi => ?_, paced := fun i e hi => ?_ }
      · simpa [hother hi] using h.begun i e hi
      · simpa [List.count_append, List.count_singleton, Ne.symm (hother hi)] using h.paced i e hi

/-- Once the session of rejected calls has been cleared, nothing is left to tell of its end. -/
theorem debt_of_over (g : Gateway) (asked : List Errand) (login : Login) :
    Errand.debt (Errand.anyRejected g asked)
      (Login.clear^[asked.countP fun e => decide (e.Rejected g)] login).session = [] := by
  rw [Login.session_iterate_clear]
  cases hany : Errand.anyRejected g asked with
  | false => simp [Errand.debt]
  | true =>
      rcases List.any_eq_true.1 hany with ⟨e, he, hrejected⟩
      have hcount : 0 < asked.countP fun e => decide (e.Rejected g) :=
        List.countP_pos_iff.2 ⟨e, he, hrejected⟩
      rw [if_neg (by omega)]
      rfl

/-- What a group has come to when all its calls are over. -/
theorem of_over (h : Group g w asked seen errands w')
    (hover : ∀ e ∈ errands, e.stage = .telling []) :
    errands.map (·.reply g w.token?.isSome) = asked.map (·.reply g w.token?.isSome) ∧
      ∃ news, w' =
          { w with
            login := Login.clear^[asked.countP fun e => decide (e.Rejected g)] w.login
            events := w.events ++ news } ∧
        news.Perm (Errand.allNews g w asked) := by
  have hreplies : errands.map (·.reply g w.token?.isSome) =
      asked.map (·.reply g w.token?.isSome) := by
    rw [← h.calls, List.map_map]
    simp only [Function.comp_def, Errand.reply_restart]
  have hcleared : errands.countP (·.hasCleared g) =
      asked.countP fun e => decide (e.Rejected g) := by
    rw [← h.calls, List.countP_map]
    refine List.countP_congr fun e he => ?_
    rw [Errand.hasCleared, hover e he, Function.comp_apply, decide_eq_decide.2 e.rejected_restart]
  have howed : errands.flatMap (·.owed g w.token?.isSome) = [] := by
    refine List.flatMap_eq_nil_iff.2 fun e he => ?_
    rw [Errand.owed, hover e he]
  rcases h.state with ⟨news, rfl, hnews⟩
  rw [hcleared] at hnews ⊢
  rw [howed, debt_of_over] at hnews
  exact ⟨hreplies, news, rfl, by simpa using hnews⟩

end Group

/-! ## Requests -/

/-- The request whose answer an activity waits for. -/
def Activity.pending? {σ α : Type} : Activity σ α → Option Request
  | .exchange request _ => some request
  | .done _ | .atomic _ _ => none

namespace Pool

variable {σ α : Type} {p : Pool σ α}

/-- The request whose answer a move brings. -/
def answered? (p : Pool σ α) (m : Move) : Option Request :=
  match p.tasks[m.task]? with
  | some (.gather activities _) => activities[m.part]?.bind Activity.pending?
  | _ => none

/-- The requests that a part of a task makes and gets answers to in a run. -/
def exchanges (p : Pool σ α) (i j : Nat) : List Move → List Request
  | [] => []
  | m :: moves =>
    (if m.Of i j then (p.answered? m).toList else []) ++ (p.step m).exchanges i j moves

theorem exchanges_concat (p : Pool σ α) (i j : Nat) (moves : List Move) (m : Move) :
    p.exchanges i j (moves ++ [m]) =
      p.exchanges i j moves ++ if m.Of i j then ((p.run moves).answered? m).toList else [] := by
  induction moves generalizing p with
  | nil => simp [exchanges]
  | cons first rest ih => simp [exchanges, ih]

end Pool

namespace Errand

variable {g : Gateway} {token : Option String} {e : Errand}

/-- The requests of the call that have been answered. -/
def requests (g : Gateway) (token : Option String) (e : Errand) : List Request :=
  match e.stage with
  | .ready | .sent => []
  | .rejected | .telling _ => (e.call.request? g.base token).toList

/-- A call makes its request once, with the token that it has read. -/
theorem requests_next (h : e.Sound g) (hadToken : Bool) (w : World) :
    (e.next g hadToken w).requests g token =
      e.requests g token ++ (e.activity g token).pending?.toList := by
  rcases e with ⟨call, outcome, stage⟩
  cases stage with
  | ready =>
      have hpending : (g.call call).pending? = none := by rw [Gateway.call_eq_atomic]; rfl
      by_cases hsendable : g.Sendable call
      · simp [next, advance, requests, activity, hsendable, hpending]
      · simp [next, advance, requests, activity, hsendable, hpending,
          Gateway.request?_of_not_sendable hsendable]
  | sent =>
      rcases (h.1 rfl : g.Sendable call).exists_request token with ⟨request, hrequest⟩
      have hpending : (g.sent call token).pending? = some request := by
        simp only [Gateway.sent, hrequest]
        rfl
      by_cases hrejected : Rejected g ⟨call, outcome, .sent⟩ <;>
        simp [next, advance, requests, activity, hrejected, hpending, hrequest]
  | rejected =>
      have hpending : (Gateway.handleUnauthorized token.isSome).pending? = none := rfl
      simp [next, advance, requests, activity, hpending]
  | telling owed =>
      have hpending : (tell owed (reply g token.isSome ⟨call, outcome, .telling owed⟩)).pending? =
          none := by cases owed <;> rfl
      cases owed <;> simp [next, advance, requests, activity, hpending]

/-- The calls of a group before their first turns, with what becomes of their requests. -/
def ofCalls (answer : Nat → Outcome) (calls : List Call) : List Errand :=
  calls.mapIdx fun i call => { call, outcome := answer i }

/-- What is left of a task that makes the calls together. -/
def waiting {α : Type} (g : Gateway) (token : Option String) (finish : List Reply → α)
    (errands : List Errand) : Workflow World α :=
  .gather (errands.map (·.activity g token)) fun replies => .done (finish replies)

theorem results?_of_over {errands : List Errand} (h : ∀ e ∈ errands, e.stage = .telling []) :
    Activity.results? (errands.map (·.activity g token)) =
      some (errands.map (·.reply g token.isSome)) := by
  have hdone : errands.map (·.activity g token) =
      (errands.map (·.reply g token.isSome)).map .done := by
    rw [List.map_map]
    refine List.map_congr_left fun e he => ?_
    simp [activity, h e he, tell]
  rw [hdone, Activity.results?_map_done]

theorem result?_activity (h : e.Sound g) (hgoing : e.stage ≠ .telling []) :
    (e.activity g token).result? = none := by
  rcases e with ⟨call, outcome, stage⟩
  cases stage with
  | ready => rfl
  | sent => exact Gateway.result?_sent (h.1 rfl)
  | rejected => rfl
  | telling owed =>
      cases owed with
      | nil => exact absurd rfl hgoing
      | cons event owed => rfl

/-- The task that makes the calls of a group. -/
def pool {α : Type} (g : Gateway) (w : World) (finish : List Reply → α) (answer : Nat → Outcome)
    (calls : List Call) : Pool World α :=
  ⟨[waiting g w.token? finish (ofCalls answer calls)], w⟩

theorem getElem?_ofCalls (answer : Nat → Outcome) (calls : List Call) (i : Nat) :
    (ofCalls answer calls)[i]? =
      calls[i]?.map fun call => { call, outcome := answer i, stage := .ready } := by
  rw [ofCalls, List.getElem?_mapIdx]

theorem ready_of_mem_ofCalls (answer : Nat → Outcome) (calls : List Call) :
    ∀ e ∈ ofCalls answer calls, e.stage = .ready := by
  intro e he
  rcases List.getElem?_of_mem he with ⟨i, hi⟩
  rw [getElem?_ofCalls] at hi
  rcases Option.map_eq_some_iff.1 hi with ⟨call, -, rfl⟩
  rfl

end Errand

/-! ## Orders of turns -/

/-- The turn of a call of a group, which brings the answer if the call waits for it. -/
def Move.bringing (answer : Nat → Outcome) (i : Nat) : Move :=
  { task := 0, part := i, outcome := answer i }

namespace Errand

variable {α : Type} {g : Gateway} {token : Option String} {finish : List Reply → α}
  {errands : List Errand} {w : World} {answer : Nat → Outcome} {j : Nat}

/-- A pool whose only task waits for a group of calls, or has finished with their replies. -/
inductive Leaves (g : Gateway) (token : Option String) (finish : List Reply → α)
    (errands : List Errand) (w : World) : Pool World α → Prop where
  | underway : Leaves g token finish errands w ⟨[waiting g token finish errands], w⟩
  | finished (ended : ∀ e ∈ errands, e.stage = .telling []) :
      Leaves g token finish errands w
        ⟨[.done (finish (errands.map (·.reply g token.isSome)))], w⟩

theorem answered?_waiting :
    (⟨[waiting g token finish errands], w⟩ : Pool World α).answered? (Move.bringing answer j) =
      errands[j]?.bind fun e => (e.activity g token).pending? := by
  simp [Pool.answered?, waiting, Move.bringing, List.getElem?_map, Option.bind_map]

theorem results?_of_going (hsound : ∀ e ∈ errands, e.Sound g)
    (hgoing : ¬ ∀ e ∈ errands, e.stage = .telling []) :
    Activity.results? (errands.map (·.activity g token)) = none := by
  simp only [not_forall] at hgoing
  rcases hgoing with ⟨e, he, hstage⟩
  rcases List.getElem?_of_mem he with ⟨i, hi⟩
  exact Activity.results?_eq_none (by rw [List.getElem?_map, hi]; rfl)
    (result?_activity (hsound e he) hstage)

/-- When all calls are over, the next turn takes their replies. -/
theorem Leaves.step_of_over {p : Pool World α} (h : Leaves g token finish errands w p)
    (hover : ∀ e ∈ errands, e.stage = .telling []) (answer : Nat → Outcome) (j : Nat) :
    p.step (Move.bringing answer j) =
        ⟨[.done (finish (errands.map (·.reply g token.isSome)))], w⟩ ∧
      p.answered? (Move.bringing answer j) = none := by
  cases h with
  | finished =>
      have htask : (⟨[.done (finish (errands.map (·.reply g token.isSome)))], w⟩ :
          Pool World α).tasks[(Move.bringing answer j).task]? = some (.done _) := rfl
      exact ⟨Pool.step_idle htask rfl, rfl⟩
  | underway =>
      refine ⟨?_, ?_⟩
      · have htask : (⟨[waiting g token finish errands], w⟩ : Pool World α).tasks[(Move.bringing
            answer j).task]? = some (waiting g token finish errands) := rfl
        rw [Pool.step_eq htask, waiting, Workflow.step_gather_done (results?_of_over hover)]
        rfl
      · rw [answered?_waiting]
        cases hj : errands[j]? with
        | none => rfl
        | some e => simp [activity, hover e (List.mem_of_getElem? hj), tell, Activity.pending?]

/-- A turn of the task is a turn of one of the calls; or it changes none of them, and then it is at
the place of none that goes on. -/
theorem Leaves.step {p : Pool World α} (h : Leaves g token finish errands w p)
    (hsound : ∀ e ∈ errands, e.Sound g)
    (houtcome : ∀ e, errands[j]? = some e → e.outcome = answer j)
    (hread : ∀ e, errands[j]? = some e → e.stage = .ready → w.token? = token) :
    (∃ e, errands[j]? = some e ∧
      Leaves g token finish (errands.set j (e.next g token.isSome w))
        (e.advance g token.isSome w).2 (p.step (Move.bringing answer j)) ∧
      p.answered? (Move.bringing answer j) = (e.activity g token).pending?) ∨
    (Leaves g token finish errands w (p.step (Move.bringing answer j)) ∧
      (∀ e, errands[j]? = some e → e.stage = .telling []) ∧
      p.answered? (Move.bringing answer j) = none) := by
  by_cases hover : ∀ e ∈ errands, e.stage = .telling []
  · have hstep := h.step_of_over hover answer j
    rw [hstep.1]
    exact .inr ⟨.finished hover, fun e he => hover e (List.mem_of_getElem? he), hstep.2⟩
  · cases h with
    | finished ended => exact absurd ended hover
    | underway =>
        have hnone : Activity.results? (errands.map (·.activity g token)) = none :=
          results?_of_going hsound hover
        have htask : (⟨[waiting g token finish errands], w⟩ : Pool World α).tasks[(Move.bringing
            answer j).task]? = some (waiting g token finish errands) := rfl
        cases hj : errands[j]? with
        | none =>
            refine .inr ⟨?_, fun e he => by simp at he, by simp [answered?_waiting, hj]⟩
            have hidle : (waiting g token finish errands).step j (answer j) w =
                (waiting g token finish errands, w) := by
              simp [waiting, Workflow.step, hnone, hj]
            rw [Pool.step_idle htask hidle]
            exact .underway
        | some e =>
            refine .inl ⟨e, rfl, ?_, by simp [answered?_waiting, hj]⟩
            have hturn := step_activity (hsound e (List.mem_of_getElem? hj)) (hread e hj)
            rw [houtcome e hj] at hturn
            have hstep : (waiting g token finish errands).step j (answer j) w =
                (waiting g token finish (errands.set j (e.next g token.isSome w)),
                  (e.advance g token.isSome w).2) := by
              simp [waiting, Workflow.step, hnone, hj, hturn, List.map_set]
            rw [Pool.step_eq htask]
            simp only [Move.bringing, hstep]
            exact .underway

end Errand

section Places

variable {g : Gateway} {w w' : World} {answer : Nat → Outcome} {calls : List Call}
  {seen : List Nat} {errands : List Errand} {i : Nat} {e : Errand}

theorem Group.length_eq (h : Group g w (Errand.ofCalls answer calls) seen errands w') :
    errands.length = calls.length := by
  have hlength := congrArg List.length h.calls
  simpa [Errand.ofCalls] using hlength

theorem Group.place (h : Group g w (Errand.ofCalls answer calls) seen errands w')
    (hi : errands[i]? = some e) : calls[i]? = some e.call ∧ e.outcome = answer i := by
  have hrestart : (Errand.ofCalls answer calls)[i]? = some e.restart := by
    rw [← h.calls, List.getElem?_map, hi]
    rfl
  rw [Errand.getElem?_ofCalls] at hrestart
  rcases Option.map_eq_some_iff.1 hrestart with ⟨call, hcall, hsame⟩
  cases e
  cases hsame
  exact ⟨hcall, rfl⟩

end Places

/-- An order of turns for calls that are made together: no call is given an answer before all have
begun, and each has as many turns as it may need. -/
structure Gateway.Together (g : Gateway) (calls : List Call) (order : List Nat) : Prop where
  begun : ∀ before i after call, order = before ++ i :: after → calls[i]? = some call →
    g.Sendable call → i ∈ before → ∀ j < calls.length, j ∈ before
  complete : ∀ i < calls.length, 5 ≤ order.count i

namespace Gateway.Together

variable {α : Type} {g : Gateway} {calls : List Call} {order : List Nat}

/-- After the calls have begun one after the other, their turns may come in any order. -/
theorem of_begun {later : List Nat} (h : ∀ i < calls.length, 4 ≤ later.count i) :
    g.Together calls (List.range calls.length ++ later) where
  begun := by
    intro before i after call horder hcall _ hmem j hj
    have hbefore : before <+: List.range calls.length ++ later := ⟨i :: after, horder.symm⟩
    by_cases hlength : calls.length ≤ before.length
    · have hall : List.range calls.length <+: before :=
        List.prefix_of_prefix_length_le (List.prefix_append _ _) hbefore (by simpa using hlength)
      exact hall.subset (List.mem_range.2 hj)
    · -- Otherwise the call would begin twice.
      have hearly : before ++ [i] <+: List.range calls.length := by
        refine List.prefix_of_prefix_length_le (⟨after, by simpa using horder.symm⟩)
          (List.prefix_append _ later) ?_
        rw [List.length_append, List.length_singleton, List.length_range]
        omega
      have hnodup : (before ++ [i]).Nodup := List.nodup_range.sublist hearly.sublist
      exact absurd rfl ((List.nodup_append.1 hnodup).2.2 i hmem i (List.mem_singleton.2 rfl))
  complete := by
    intro i hi
    have hbegins : (List.range calls.length).count i = 1 :=
      List.count_eq_one_of_mem List.nodup_range (List.mem_range.2 hi)
    have hlater := h i hi
    rw [List.count_append, hbegins]
    omega

/-- A group of calls is followed along every order of their turns. -/
theorem exists_errands (h : g.Together calls order) (w : World) (finish : List Reply → α)
    (answer : Nat → Outcome) {seen : List Nat} (hseen : seen <+: order) :
    ∃ errands w', Group g w (Errand.ofCalls answer calls) seen errands w' ∧
      Errand.Leaves g w.token? finish errands w'
        ((Errand.pool g w finish answer calls).run (seen.map (Move.bringing answer))) ∧
      ∀ i e, errands[i]? = some e →
        (Errand.pool g w finish answer calls).exchanges 0 i (seen.map (Move.bringing answer)) =
          e.requests g w.token? := by
  -- Turn by turn from the beginning, so that the token read is the one at the beginning.
  induction seen using List.reverseRecOn with
  | nil =>
      have hready := Errand.ready_of_mem_ofCalls answer calls
      refine ⟨Errand.ofCalls answer calls, w, .start g w hready, .underway, fun i e hi => ?_⟩
      simp [Pool.exchanges, Errand.requests, hready e (List.mem_of_getElem? hi)]
  | append_singleton seen j ih =>
      rcases hseen with ⟨after, horder⟩
      have hsplit : order = seen ++ j :: after := by simpa using horder.symm
      rcases ih ⟨j :: after, hsplit.symm⟩ with ⟨errands, w', hgroup, hleaves, hrequests⟩
      have htogether : ∀ e, errands[j]? = some e → j ∈ seen → g.Sendable e.call →
          ∀ i < errands.length, i ∈ seen := by
        intro e he hseen hsendable i hi
        exact h.begun seen j after e.call hsplit (hgroup.place he).1 hsendable hseen i
          (hgroup.length_eq ▸ hi)
      have hread : ∀ e, errands[j]? = some e → e.stage = .ready → w'.token? = w.token? :=
        fun e he hstage => hgroup.token_of_ready ⟨e, List.mem_of_getElem? he, hstage⟩
      rw [List.map_append, List.map_singleton, Pool.run_append, Pool.run_cons, Pool.run_nil]
      simp only [Pool.exchanges_concat]
      rcases hleaves.step hgroup.sound (fun e he => (hgroup.place he).2) hread with
        ⟨e, hj, hleaves', hanswered⟩ | ⟨hleaves', hover, hanswered⟩
      · refine ⟨_, _, hgroup.step hj (htogether e hj), hleaves', fun i other hi => ?_⟩
        rw [hanswered]
        by_cases hij : j = i
        · subst hij
          have hlt : j < errands.length := (List.getElem?_eq_some_iff.1 hj).1
          rw [List.getElem?_set_self hlt] at hi
          cases hi
          rw [Errand.requests_next (hgroup.sound e (List.mem_of_getElem? hj)), hrequests j e hj]
          simp [Move.Of, Move.bringing]
        · rw [List.getElem?_set_ne hij] at hi
          simpa [Move.Of, Move.bringing, hij] using hrequests i other hi
      · refine ⟨errands, w', hgroup.pass hover htogether, hleaves', fun i other hi => ?_⟩
        simpa [hanswered] using hrequests i other hi

/-- Whatever the order of their turns, calls that are made together come to the same replies and to
the same login, and tell of the same events; each makes its request once, with the token that was
current at the beginning. -/
theorem ends (h : g.Together calls order) (w : World) (finish : List Reply → α)
    (answer : Nat → Outcome) (last : Nat) :
    let asked := Errand.ofCalls answer calls
    let p := Errand.pool g w finish answer calls
    let moves := (order ++ [last]).map (Move.bringing answer)
    ∃ news, p.run moves =
        ⟨[.done (finish (asked.map (·.reply g w.token?.isSome)))],
          { w with
            login := Login.clear^[asked.countP fun e => decide (e.Rejected g)] w.login
            events := w.events ++ news }⟩ ∧
      news.Perm (Errand.allNews g w asked) ∧
      ∀ i call, calls[i]? = some call →
        p.exchanges 0 i moves = (call.request? g.base w.token?).toList := by
  intro asked p moves
  rcases h.exists_errands w finish answer (List.prefix_refl order) with
    ⟨errands, w', hgroup, hleaves, hrequests⟩
  have hover : ∀ e ∈ errands, e.stage = .telling [] := by
    intro e he
    rcases List.getElem?_of_mem he with ⟨i, hi⟩
    have hlt : i < calls.length := hgroup.length_eq ▸ (List.getElem?_eq_some_iff.1 hi).1
    have hpace := hgroup.paced i e hi
    have henough := h.complete i hlt
    exact Errand.Stage.eq_of_rank (by omega)
  have hlast := hleaves.step_of_over hover answer last
  rcases hgroup.of_over hover with ⟨hreplies, news, rfl, hnews⟩
  refine ⟨news, ?_, hnews, fun i call hi => ?_⟩
  · simp only [p, moves, List.map_append, List.map_singleton, Pool.run_append, Pool.run_cons,
      Pool.run_nil, hlast.1, hreplies, asked]
  · have hlt : i < errands.length := hgroup.length_eq ▸ (List.getElem?_eq_some_iff.1 hi).1
    have hi' : errands[i]? = some errands[i] := List.getElem?_eq_getElem hlt
    have hcall : errands[i].call = call :=
      Option.some.inj ((hgroup.place hi').1.symm.trans hi)
    simp only [p, moves, List.map_append, List.map_singleton, Pool.exchanges_concat, hlast.2,
      hrequests i _ hi', Errand.requests, hover _ (List.mem_of_getElem? hi'), hcall]
    simp

end Gateway.Together

end WebClient
