import Mathlib.Data.List.Induction
import WebClient.Proofs.Stages

/-!
# Expiry — one announcement, however many calls are rejected

Calls that were made under one session may all be rejected.  The first of them to deal with its
answer ends the session, and it alone tells of that; the others find no session to end.  A call that
was made without a token ends nothing, and asks to log in.

A pool of such calls is simulated by a list of stages (`Tracks`), and what has been published is
read off the stages (`Announced`, `Asked`).

* `RejectedCalls` describes the runs: calls made under one session, all rejected, in any order, amid
  tasks that leave the session and its news alone.
* `expiry_announced_once` says what such a run publishes and what the calls return.
-/

namespace WebClient

/-! ## What has been published -/

/-- What the caller that has ended the session has told of, by how many calls have yet to tell of
the end and how many have yet to warn. -/
inductive Told (old : List Event) : Nat → Nat → List Event → Prop where
  | untold : Told old 1 0 old
  | unwarned : Told old 0 1 (old ++ [.signedOut])
  | warned : Told old 0 0 (old ++ [.signedOut, .rejected true])

/-- Calls that were made under a session: either none of them has been dealt with, or one of them
has ended the session. -/
inductive Announced (auth : AuthSession) (old : List Event) (stages : List Stage) (w : World) :
    Prop where
  | before (session : w.login.session = some auth) (unhandled : ∀ stage ∈ stages, stage.Unhandled)
      (news : w.news = old)
  | after (session : w.login.session = none) (handled : ∃ stage ∈ stages, ¬ stage.Unhandled)
      (told : Told old (stages.count .ending) (stages.count .warning) w.news)

/-- Calls that were made without a token: each has asked to log in once it has come to an end. -/
structure Asked (old : List Event) (stages : List Stage) (w : World) : Prop where
  session : w.login.session = none
  ending : stages.count .ending = 0
  news : w.news = old ++
    List.replicate (stages.count .settled + stages.count .returned) (.rejected false)

section Turns

variable {stages : List Stage} {i : Nat} {stage : Stage}

theorem Stage.count_set (hi : stages[i]? = some stage) (next counted : Stage) :
    (stages.set i next).count counted + (if stage = counted then 1 else 0) =
      stages.count counted + if next = counted then 1 else 0 := by
  rcases List.getElem?_eq_some_iff.1 hi with ⟨hlt, rfl⟩
  -- `List.count_set` subtracts; the stage that is left was counted, so nothing is cut off.
  have hcount := List.count_set (b := counted) (a := next) hlt
  have hpos : stages[i] = counted → 0 < stages.count counted := by
    intro hcounted
    exact List.count_pos_iff.2 (hcounted ▸ List.getElem_mem hlt)
  simp only [beq_iff_eq] at hcount
  by_cases hstage : stages[i] = counted
  · have hpos' := hpos hstage
    rw [if_pos hstage] at hcount ⊢
    omega
  · rw [if_neg hstage] at hcount ⊢
    omega

theorem Stage.set_self (hi : stages[i]? = some stage) : stages.set i stage = stages := by
  rcases List.getElem?_eq_some_iff.1 hi with ⟨hlt, rfl⟩
  exact List.set_getElem_self hlt

theorem Stage.handled_set (hadToken : Bool) (part : Nat) (w : World)
    (hhandled : ∃ stage ∈ stages, ¬ stage.Unhandled) (hi : stages[i]? = some stage) :
    ∃ other ∈ stages.set i (stage.turn hadToken part w).1, ¬ other.Unhandled := by
  rcases hhandled with ⟨other, hmem, hother⟩
  rcases List.getElem?_of_mem hmem with ⟨j, hj⟩
  -- The call that goes on may be the one that has been dealt with, and then it stays so.
  by_cases hij : i = j
  · subst hij
    have hsame : stage = other := Option.some.inj (hi.symm.trans hj)
    subst hsame
    have hlt : i < stages.length := (List.getElem?_eq_some_iff.1 hi).1
    exact ⟨_, List.mem_set hlt _, fun h => hother (Stage.unhandled_of_turn h)⟩
  · refine ⟨other, ?_, hother⟩
    have hkept : (stages.set i (stage.turn hadToken part w).1)[j]? = some other := by
      rw [List.getElem?_set_ne hij, hj]
    exact List.mem_of_getElem? hkept

/-- A rejected call that finds no session, and has neither ended one nor a warning to give, tells of
nothing. -/
theorem Stage.advance_silent {w : World} (hsession : w.login.session = none)
    (hending : stage ≠ .ending) (hwarning : stage ≠ .warning) :
    (stage.advance true w).1 ≠ .ending ∧ (stage.advance true w).1 ≠ .warning ∧
      (stage.advance true w).2.login.session = none ∧ (stage.advance true w).2.news = w.news := by
  cases stage with
  | answered => simp [advance, hsession, Login.clear, World.news]
  | ready | sent | settled | returned => simp [advance, hsession]
  | ending => exact absurd rfl hending
  | warning => exact absurd rfl hwarning

/-- A call that goes on while none has been dealt with: the first that deals with its answer ends
the session. -/
theorem Announced.advance_before {auth : AuthSession} {old : List Event} {w : World}
    (session : w.login.session = some auth) (unhandled : ∀ other ∈ stages, other.Unhandled)
    (news : w.news = old) (hi : stages[i]? = some stage) :
    Announced auth old (stages.set i (stage.advance true w).1) (stage.advance true w).2 := by
  have hothers : ∀ next : Stage, next.Unhandled → ∀ other ∈ stages.set i next,
      other.Unhandled := by
    intro next hnext other hother
    rcases List.mem_or_eq_of_mem_set hother with hother | rfl
    · exact unhandled other hother
    · exact hnext
  have habsent : ∀ other : Stage, ¬ other.Unhandled → stages.count other = 0 :=
    fun other hother => List.count_eq_zero.2 fun hmem => hother (unhandled other hmem)
  have hstage : stage.Unhandled := unhandled stage (List.mem_of_getElem? hi)
  -- Reading the token and being answered leave all unhandled; dealing with the answer does not.
  cases stage with
  | ready => exact .before session (hothers .sent (by decide)) news
  | sent => exact .before session (hothers .answered (by decide)) news
  | answered =>
      have hends : (stages.set i .ending).count .ending = 1 := by
        simpa [habsent .ending (by decide)] using Stage.count_set hi .ending .ending
      have hwarns : (stages.set i .ending).count .warning = 0 := by
        simpa [habsent .warning (by decide)] using Stage.count_set hi .ending .warning
      have hlt : i < stages.length := (List.getElem?_eq_some_iff.1 hi).1
      have hadvance : Stage.answered.advance true w =
          (.ending, { w with login := w.login.clear }) := by
        simp [Stage.advance, session]
      rw [hadvance]
      refine .after rfl ⟨.ending, List.mem_set hlt _, by decide⟩ ?_
      rw [hends, hwarns]
      exact news ▸ .untold
  | ending | warning | settled | returned => exact absurd hstage (by decide)

theorem Told.of_ending {old news : List Event} {endings warnings : Nat}
    (h : Told old endings warnings news) (hpos : 0 < endings) :
    endings = 1 ∧ warnings = 0 ∧ news = old := by
  cases h with
  | untold => exact ⟨rfl, rfl, rfl⟩
  | unwarned | warned => exact absurd hpos (by decide)

theorem Told.of_warning {old news : List Event} {endings warnings : Nat}
    (h : Told old endings warnings news) (hpos : 0 < warnings) :
    endings = 0 ∧ warnings = 1 ∧ news = old ++ [.signedOut] := by
  cases h with
  | unwarned => exact ⟨rfl, rfl, rfl⟩
  | untold | warned => exact absurd hpos (by decide)

/-- A call that goes on after the end of the session: only who has ended it tells of that. -/
theorem Told.advance {old : List Event} {w : World}
    (told : Told old (stages.count .ending) (stages.count .warning) w.news)
    (session : w.login.session = none) (hi : stages[i]? = some stage) :
    Told old ((stages.set i (stage.advance true w).1).count .ending)
        ((stages.set i (stage.advance true w).1).count .warning) (stage.advance true w).2.news ∧
      (stage.advance true w).2.login.session = none := by
  have hends := Stage.count_set hi (stage.advance true w).1 .ending
  have hwarns := Stage.count_set hi (stage.advance true w).1 .warning
  have hmem : stage ∈ stages := List.mem_of_getElem? hi
  -- At most one call is at a stage that publishes; if it is this one, it says what there is to tell.
  by_cases hending : stage = .ending
  · subst hending
    rcases told.of_ending (List.count_pos_iff.2 hmem) with ⟨hendings, hwarnings, hnews⟩
    have hends' : (stages.set i .warning).count .ending = 0 := by
      simpa [Stage.advance, hendings] using hends
    have hwarns' : (stages.set i .warning).count .warning = 1 := by
      simpa [Stage.advance, hwarnings] using hwarns
    have hnews' : (w.emit .signedOut).news = old ++ [.signedOut] := by
      rw [World.news_emit rfl, hnews]
    refine ⟨?_, session⟩
    simp only [Stage.advance]
    rw [hends', hwarns', hnews']
    exact .unwarned
  by_cases hwarning : stage = .warning
  · subst hwarning
    rcases told.of_warning (List.count_pos_iff.2 hmem) with ⟨hendings, hwarnings, hnews⟩
    have hends' : (stages.set i .settled).count .ending = 0 := by
      simpa [Stage.advance, hendings] using hends
    have hwarns' : (stages.set i .settled).count .warning = 0 := by
      simpa [Stage.advance, hwarnings] using hwarns
    have hnews' : (w.emit (.rejected true)).news = old ++ [.signedOut, .rejected true] := by
      rw [World.news_emit (Event.isLoginNews_rejected true), hnews]
      simp
    refine ⟨?_, session⟩
    simp only [Stage.advance]
    rw [hends', hwarns', hnews']
    exact .warned
  · have hsilent := Stage.advance_silent session hending hwarning
    rw [if_neg hending, if_neg hsilent.1] at hends
    rw [if_neg hwarning, if_neg hsilent.2.1] at hwarns
    have hends' : (stages.set i (stage.advance true w).1).count .ending =
        stages.count .ending := by omega
    have hwarns' : (stages.set i (stage.advance true w).1).count .warning =
        stages.count .warning := by omega
    refine ⟨?_, hsilent.2.2.1⟩
    rw [hends', hwarns', hsilent.2.2.2]
    exact told

theorem Announced.turn {auth : AuthSession} {old : List Event} {w : World}
    (h : Announced auth old stages w) (hi : stages[i]? = some stage) (part : Nat) :
    Announced auth old (stages.set i (stage.turn true part w).1) (stage.turn true part w).2 := by
  by_cases hgoes : part = 0 ∨ stage = .settled
  · have hturn : stage.turn true part w = stage.advance true w := if_pos hgoes
    cases h with
    | before session unhandled news =>
        rw [hturn]
        exact .advance_before session unhandled news hi
    | after session handled told =>
        have hhandled := Stage.handled_set true part w handled hi
        rw [hturn] at hhandled ⊢
        exact .after (told.advance session hi).2 hhandled (told.advance session hi).1
  · have hturn : stage.turn true part w = (stage, w) := if_neg hgoes
    rw [hturn, Stage.set_self hi]
    exact h

theorem Asked.turn {old : List Event} {w : World} (h : Asked old stages w)
    (hi : stages[i]? = some stage) (part : Nat) :
    Asked old (stages.set i (stage.turn false part w).1) (stage.turn false part w).2 := by
  by_cases hgoes : part = 0 ∨ stage = .settled
  case neg =>
    have hturn : stage.turn false part w = (stage, w) := if_neg hgoes
    rw [hturn, Stage.set_self hi]
    exact h
  have hturn : stage.turn false part w = stage.advance false w := if_pos hgoes
  have hmem : stage ∈ stages := List.mem_of_getElem? hi
  have hends := Stage.count_set hi (stage.advance false w).1 .ending
  have hsettles := Stage.count_set hi (stage.advance false w).1 .settled
  have hreturns := Stage.count_set hi (stage.advance false w).1 .returned
  rw [hturn]
  -- But for the warning, no turn changes how many calls have come to an end.
  have hquiet : (stage.advance false w).2.login.session = none →
      (stage.advance false w).2.news = w.news →
      (stages.set i (stage.advance false w).1).count .ending = 0 →
      (stages.set i (stage.advance false w).1).count .settled +
          (stages.set i (stage.advance false w).1).count .returned =
        stages.count .settled + stages.count .returned →
      Asked old (stages.set i (stage.advance false w).1) (stage.advance false w).2 := by
    intro hsession hnews hending hover
    exact ⟨hsession, hending, by rw [hnews, h.news, hover]⟩
  cases stage with
  | ready | sent | settled | returned =>
      refine hquiet h.session rfl ?_ ?_
      · simpa [Stage.advance, h.ending] using hends
      · simp [Stage.advance] at hsettles hreturns ⊢
        omega
  | answered =>
      simp only [Stage.advance, h.session] at hquiet hends hsettles hreturns ⊢
      refine hquiet rfl rfl ?_ ?_
      · simpa [h.ending] using hends
      · simp at hsettles hreturns ⊢
        omega
  | ending => exact absurd h.ending (Nat.ne_of_gt (List.count_pos_iff.2 hmem))
  | warning =>
      have hover : (stages.set i .settled).count .settled +
          (stages.set i .settled).count .returned =
            stages.count .settled + stages.count .returned + 1 := by
        simp [Stage.advance] at hsettles hreturns
        omega
      refine ⟨h.session, ?_, ?_⟩
      · simpa [Stage.advance, h.ending] using hends
      · simp only [Stage.advance]
        rw [World.news_emit (Event.isLoginNews_rejected false), h.news, hover,
          List.replicate_succ', List.append_assoc]

end Turns

/-! ## Pools of rejected calls -/

/-- The first tasks of a pool make these calls, and are at these stages. -/
def Tracks (g : Gateway) (calls : List Call) (token : Option String) (p : Pool World Reply)
    (stages : List Stage) : Prop :=
  stages.length = calls.length ∧
    ∀ (i : Nat) (call : Call) (stage : Stage),
      calls[i]? = some call → stages[i]? = some stage →
        p.tasks[i]? = some (stage.task g call token)

namespace Tracks

variable {g : Gateway} {calls : List Call} {token : Option String} {p : Pool World Reply}
  {stages : List Stage} {m : Move}

theorem start (others : List (Workflow World Reply)) (w : World) :
    Tracks g calls token ⟨calls.map (fun call => .single (g.call call)) ++ others, w⟩
      (calls.map fun _ => .ready) := by
  refine ⟨by simp, ?_⟩
  intro i call stage hcall hstage
  have hlt : i < calls.length := (List.getElem?_eq_some_iff.1 hcall).1
  rcases List.mem_map.1 (List.mem_of_getElem? hstage) with ⟨_, _, rfl⟩
  rw [List.getElem?_append_left (by simpa using hlt), List.getElem?_map, hcall]
  rfl

theorem step_other (h : Tracks g calls token p stages) (hm : calls.length ≤ m.task) :
    Tracks g calls token (p.step m) stages := by
  refine ⟨h.1, ?_⟩
  intro i call stage hcall hstage
  have hlt : i < calls.length := (List.getElem?_eq_some_iff.1 hcall).1
  rw [Pool.tasks_step_of_ne (by omega)]
  exact h.2 i call stage hcall hstage

theorem step_call (h : Tracks g calls token p stages) {stage : Stage}
    (hstage : stages[m.task]? = some stage) (hsendable : ∀ call ∈ calls, g.Sendable call)
    (hread : stage = .ready → m.part = 0 → p.state.token? = token)
    (hrejects : stage = .sent → m.part = 0 → g.Rejects m.outcome) :
    Tracks g calls token (p.step m)
        (stages.set m.task (stage.turn token.isSome m.part p.state).1) ∧
      (p.step m).state = (stage.turn token.isSome m.part p.state).2 := by
  have hlt : m.task < stages.length := (List.getElem?_eq_some_iff.1 hstage).1
  have hcall : calls[m.task]? = some (calls.get ⟨m.task, h.1 ▸ hlt⟩) :=
    List.getElem?_eq_getElem (h.1 ▸ hlt)
  have hmem : calls.get ⟨m.task, h.1 ▸ hlt⟩ ∈ calls := List.getElem_mem _
  have hstep := Stage.step_task (h.2 _ _ _ hcall hstage) (hsendable _ hmem) hread hrejects
  refine ⟨⟨by simpa using h.1, ?_⟩, hstep.2⟩
  intro i call stage' hcall' hstage'
  by_cases hi : m.task = i
  · subst hi
    have hsame : calls.get ⟨m.task, h.1 ▸ hlt⟩ = call := Option.some.inj (hcall.symm.trans hcall')
    rw [List.getElem?_set_self hlt] at hstage'
    rw [hstep.1, Option.some.inj hstage', hsame]
  · rw [List.getElem?_set_ne hi] at hstage'
    rw [Pool.tasks_step_of_ne hi]
    exact h.2 i call stage' hcall' hstage'

end Tracks

/-- Whether something holds of every move of a schedule, given the moves before it. -/
def Throughout (moves : List Move) (P : List Move → Move → Prop) : Prop :=
  ∀ before m after, moves = before ++ m :: after → P before m

theorem throughout_iff {moves : List Move} {P : List Move → Move → Prop} :
    Throughout moves P ↔ ∀ k : Fin moves.length, P (moves.take k) (moves.get k) := by
  constructor
  · intro h k
    refine h _ _ (moves.drop (k + 1)) ?_
    rw [List.get_eq_getElem, List.getElem_cons_drop, List.take_append_drop]
  · rintro h before m after rfl
    have hk : before.length < (before ++ m :: after).length := by simp
    simpa using h ⟨before.length, hk⟩

instance {moves : List Move} {P : List Move → Move → Prop} [∀ before m, Decidable (P before m)] :
    Decidable (Throughout moves P) :=
  decidable_of_iff _ throughout_iff.symm

/-- The pool of tasks that make these calls, and of others. -/
def callPool (g : Gateway) (calls : List Call) (others : List (Workflow World Reply)) (w : World) :
    Pool World Reply :=
  ⟨calls.map (fun call => .single (g.call call)) ++ others, w⟩

/-- A run of calls that are made under one session, or all without a token, and are all rejected.
The other tasks of the pool change neither the session nor its news. -/
structure RejectedCalls (g : Gateway) (calls : List Call) (others : List (Workflow World Reply))
    (w : World) (moves : List Move) : Prop where
  sendable : ∀ call ∈ calls, g.Sendable call
  together : Throughout moves fun before m =>
    m.task < calls.length → m.part = 0 → Stage.turns before m.task = 0 →
      ((callPool g calls others w).run before).state.token? = w.token?
  rejected : Throughout moves fun before m =>
    m.task < calls.length → m.part = 0 → Stage.turns before m.task = 1 → g.Rejects m.outcome
  undisturbed : Throughout moves fun before m =>
    calls.length ≤ m.task →
      let p := (callPool g calls others w).run before
      (p.step m).state.login.session = p.state.login.session ∧
        (p.step m).state.news = p.state.news
  complete : ∀ i < calls.length, 6 ≤ Stage.turns moves i

/-- What the turns of rejected calls keep, and what does not hang on more than the session and its
news. -/
structure Kept (hadToken : Bool) (Phase : List Stage → World → Prop) : Prop where
  turn : ∀ {stages : List Stage} {w : World} {i : Nat} {stage : Stage}, Phase stages w →
    stages[i]? = some stage → ∀ part,
      Phase (stages.set i (stage.turn hadToken part w).1) (stage.turn hadToken part w).2
  same : ∀ {stages : List Stage} {w w' : World}, Phase stages w →
    w'.login.session = w.login.session → w'.news = w.news → Phase stages w'

theorem Announced.start {auth : AuthSession} {w : World} (calls : List Call)
    (hw : w.login.session = some auth) :
    Announced auth w.news (calls.map fun _ => .ready) w := by
  refine .before hw ?_ rfl
  intro stage hmem
  rcases List.mem_map.1 hmem with ⟨_, _, rfl⟩
  decide

theorem Asked.start {w : World} (calls : List Call) (hw : w.login.session = none) :
    Asked w.news (calls.map fun _ => .ready) w := by
  refine ⟨hw, ?_, ?_⟩ <;> simp [List.map_const', List.count_replicate]

theorem Announced.kept (auth : AuthSession) (old : List Event) :
    Kept true (Announced auth old) where
  turn h hi part := h.turn hi part
  same h hsession hnews := by
    cases h with
    | before session unhandled news =>
        exact .before (hsession.trans session) unhandled (hnews.trans news)
    | after session handled told =>
        exact .after (hsession.trans session) handled (hnews ▸ told)

theorem Asked.kept (old : List Event) : Kept false (Asked old) where
  turn h hi part := h.turn hi part
  same h hsession hnews := ⟨hsession.trans h.session, h.ending, hnews.trans h.news⟩

namespace RejectedCalls

variable {g : Gateway} {calls : List Call} {others : List (Workflow World Reply)} {w : World}
  {moves : List Move}

/-- At every moment of the run the calls are at certain stages, as far as their turns have taken
them. -/
theorem exists_stages (h : RejectedCalls g calls others w moves)
    {Phase : List Stage → World → Prop} (hkept : Kept w.token?.isSome Phase)
    (hstart : Phase (calls.map fun _ => .ready) w) {seen : List Move} (hseen : seen <+: moves) :
    ∃ stages, Tracks g calls w.token? ((callPool g calls others w).run seen) stages ∧
      (∀ (i : Nat) (stage : Stage), stages[i]? = some stage →
        Stage.Paced (Stage.turns seen i) stage) ∧
      Phase stages ((callPool g calls others w).run seen).state := by
  -- The induction is on the moves seen so far; what carries it is that the stages follow the tasks
  -- and that the turns had say how far each stage is.
  induction seen using List.reverseRecOn with
  | nil =>
      refine ⟨calls.map fun _ => .ready, Tracks.start others w, ?_, hstart⟩
      intro i stage hstage
      rcases List.mem_map.1 (List.mem_of_getElem? hstage) with ⟨_, _, rfl⟩
      exact ⟨Nat.le_refl 6, fun _ => rfl⟩
  | append_singleton seen m ih =>
      rcases hseen with ⟨after, hmoves⟩
      have hsplit : moves = seen ++ m :: after := by simpa using hmoves.symm
      rcases ih ⟨m :: after, hsplit.symm⟩ with ⟨stages, htracks, hpaced, hphase⟩
      rw [Pool.run_append, Pool.run_cons, Pool.run_nil]
      by_cases hm : m.task < calls.length
      · have hlt : m.task < stages.length := htracks.1.symm ▸ hm
        have hstage : stages[m.task]? = some stages[m.task] := List.getElem?_eq_getElem hlt
        have hpace := hpaced _ _ hstage
        have hread : stages[m.task] = .ready → m.part = 0 →
            ((callPool g calls others w).run seen).state.token? = w.token? := by
          intro hready hpart
          rw [hready] at hpace
          exact h.together _ _ _ hsplit hm hpart hpace.of_ready
        have hrejects : stages[m.task] = .sent → m.part = 0 → g.Rejects m.outcome := by
          intro hsent hpart
          rw [hsent] at hpace
          exact h.rejected _ _ _ hsplit hm hpart hpace.of_sent
        rcases htracks.step_call hstage h.sendable hread hrejects with ⟨htracks', hstate⟩
        refine ⟨_, htracks', ?_, ?_⟩
        · intro i stage hi
          rw [Stage.turns_concat]
          by_cases htask : m.task = i
          · subst htask
            rw [List.getElem?_set_self hlt] at hi
            rw [← Option.some.inj hi]
            simpa [Move.Of] using hpace.turn _ m.part _
          · rw [List.getElem?_set_ne htask] at hi
            simpa [Move.Of, htask] using hpaced i stage hi
        · rw [hstate]
          exact hkept.turn hphase hstage m.part
      · have hother := h.undisturbed _ _ _ hsplit (Nat.le_of_not_lt hm)
        refine ⟨stages, htracks.step_other (Nat.le_of_not_lt hm), ?_,
          hkept.same hphase hother.1 hother.2⟩
        intro i stage hi
        have hlt : i < calls.length := htracks.1 ▸ (List.getElem?_eq_some_iff.1 hi).1
        have htask : m.task ≠ i := by omega
        rw [Stage.turns_concat]
        simpa [Move.Of, htask] using hpaced i stage hi

theorem exists_returned (h : RejectedCalls g calls others w moves)
    {Phase : List Stage → World → Prop} (hkept : Kept w.token?.isSome Phase)
    (hstart : Phase (calls.map fun _ => .ready) w) :
    (∀ i < calls.length, ((callPool g calls others w).run moves).tasks[i]? =
        some (.done (Gateway.rejection w.token?.isSome))) ∧
      Phase (List.replicate calls.length .returned)
        ((callPool g calls others w).run moves).state := by
  rcases h.exists_stages hkept hstart (List.prefix_refl moves) with
    ⟨stages, htracks, hpaced, hphase⟩
  have hreturned : stages = List.replicate calls.length .returned := by
    refine List.eq_replicate_iff.2 ⟨htracks.1, ?_⟩
    intro stage hmem
    rcases List.getElem?_of_mem hmem with ⟨i, hi⟩
    have hlt : i < calls.length := htracks.1 ▸ (List.getElem?_eq_some_iff.1 hi).1
    have hrank := (hpaced i stage hi).1
    have henough := h.complete i hlt
    cases stage with
    | returned => rfl
    | ready | sent | answered | ending | warning | settled =>
        simp only [Stage.rank] at hrank
        omega
  subst hreturned
  refine ⟨?_, hphase⟩
  intro i hi
  exact htracks.2 i calls[i] .returned (List.getElem?_eq_getElem hi) (by simp [hi])

/-- The session of the calls is gone as soon as one of them has been dealt with, and not before. -/
theorem session_none_iff (h : RejectedCalls g calls others w moves) {auth : AuthSession}
    (hw : w.login.session = some auth) {seen : List Move} (hseen : seen <+: moves) :
    ((callPool g calls others w).run seen).state.login.session = none ↔
      ∃ i < calls.length, 3 ≤ Stage.turns seen i := by
  have hkept : Kept w.token?.isSome (Announced auth w.news) := by
    simpa [World.token?, Session.token?, hw] using Announced.kept auth w.news
  rcases h.exists_stages hkept (.start calls hw) hseen with ⟨stages, htracks, hpaced, hphase⟩
  cases hphase with
  | before session unhandled news =>
      refine ⟨fun hnone => by simp [session] at hnone, ?_⟩
      rintro ⟨i, hi, hturns⟩
      have hlt : i < stages.length := htracks.1.symm ▸ hi
      have hpace := hpaced i _ (List.getElem?_eq_getElem hlt)
      have hearly := hpace.unhandled_iff.1 (unhandled _ (List.getElem_mem hlt))
      omega
  | after session handled told =>
      refine ⟨fun _ => ?_, fun _ => session⟩
      rcases handled with ⟨stage, hmem, hstage⟩
      rcases List.getElem?_of_mem hmem with ⟨i, hi⟩
      have hlt : i < stages.length := (List.getElem?_eq_some_iff.1 hi).1
      refine ⟨i, htracks.1 ▸ hlt, ?_⟩
      have hlate := mt (hpaced i stage hi).unhandled_iff.2 hstage
      omega

theorem returned (h : RejectedCalls g calls others w moves) :
    ∀ i < calls.length, ((callPool g calls others w).run moves).tasks[i]? =
      some (.done (Gateway.rejection w.token?.isSome)) := by
  -- That they return does not hang on what they publish.
  have hkept : Kept w.token?.isSome fun _ _ => True :=
    ⟨fun _ _ _ => trivial, fun _ _ _ => trivial⟩
  exact (h.exists_returned hkept trivial).1

theorem news_of_session (h : RejectedCalls g calls others w moves) {auth : AuthSession}
    (hw : w.login.session = some auth) (hcalls : calls ≠ []) :
    ((callPool g calls others w).run moves).state.news =
      w.news ++ [.signedOut, .rejected true] := by
  have hkept : Kept w.token?.isSome (Announced auth w.news) := by
    simpa [World.token?, Session.token?, hw] using Announced.kept auth w.news
  have hlen : calls.length ≠ 0 := fun hlen => hcalls (List.length_eq_zero_iff.1 hlen)
  cases (h.exists_returned hkept (.start calls hw)).2 with
  | before session unhandled news =>
      -- All have returned, so there is one that has been dealt with.
      have hreturned : Stage.returned ∈ List.replicate calls.length Stage.returned :=
        List.mem_replicate.2 ⟨hlen, rfl⟩
      exact absurd (unhandled _ hreturned) (by decide)
  | after session handled told =>
      -- None is left to tell of the end or to warn, so all has been told.
      simp only [List.count_replicate, beq_iff_eq, reduceCtorEq, if_false] at told
      generalize ((callPool g calls others w).run moves).state.news = news at told
      cases told with
      | warned => rfl

theorem news_of_no_session (h : RejectedCalls g calls others w moves)
    (hw : w.login.session = none) :
    ((callPool g calls others w).run moves).state.news =
      w.news ++ List.replicate calls.length (.rejected false) := by
  have hkept : Kept w.token?.isSome (Asked w.news) := by
    simpa [World.token?, Session.token?, hw] using Asked.kept w.news
  have hnews := (h.exists_returned hkept (.start calls hw)).2.news
  simpa [List.count_replicate] using hnews

end RejectedCalls

/-- Every call of such a run returns that it was rejected.  Calls that were made under a session
together publish one end of the session and one warning that it has expired; the session is gone as
soon as the first of them is dealt with.  Calls that were made without a token publish one request
to log in each, and nothing else. -/
theorem expiry_announced_once {g : Gateway} {calls : List Call}
    {others : List (Workflow World Reply)} {w : World} {moves : List Move}
    (h : RejectedCalls g calls others w moves) :
    (∀ i < calls.length, ((callPool g calls others w).run moves).tasks[i]? =
        some (.done (Gateway.rejection w.login.session.isSome))) ∧
      (w.login.session.isSome → calls ≠ [] →
        ((callPool g calls others w).run moves).state.news =
            w.news ++ [.signedOut, .rejected true] ∧
          ∀ seen, seen <+: moves →
            (((callPool g calls others w).run seen).state.login.session = none ↔
              ∃ i < calls.length, 3 ≤ Stage.turns seen i)) ∧
      (w.login.session = none →
        ((callPool g calls others w).run moves).state.news =
          w.news ++ List.replicate calls.length (.rejected false)) := by
  have hhadToken : w.token?.isSome = w.login.session.isSome := Option.isSome_map
  have hreturned : ∀ i < calls.length, ((callPool g calls others w).run moves).tasks[i]? =
      some (.done (Gateway.rejection w.login.session.isSome)) := hhadToken ▸ h.returned
  refine ⟨hreturned, ?_, h.news_of_no_session⟩
  intro hsession hcalls
  rcases Option.isSome_iff_exists.1 hsession with ⟨auth, hw⟩
  exact ⟨h.news_of_session hw hcalls, fun seen hseen => h.session_none_iff hw hseen⟩

/-- Alice's session, over a store that refuses every change. -/
def World.stuck : World :=
  { login :=
      { session := some .alices
        store :=
          { entries := [(SessionKey.token, "a")]
            faults := ⟨fun _ _ => false, fun _ => true⟩ } } }

/-- Two calls are answered in the order opposite to that in which they were sent, and take turns in
dealing with their rejections; a third task has something else to say. -/
def crossedRejections : List Move :=
  [{ task := 0 }, { task := 1 }, { task := 2 },
    { task := 1, outcome := .answered 401 "" }, { task := 0, outcome := .answered 401 "" },
    { task := 1 }, { task := 0 }, { task := 0 }, { task := 1 }, { task := 1 },
    { task := 0 }, { task := 1 }, { task := 0 }, { task := 1 }]

theorem crossed_rejections_announced_once :
    RejectedCalls Client.pageless.gateway [.get "/cart", .get "/orders"]
        [do toast .info "saved"; return default] .stuck crossedRejections ∧
      ((callPool Client.pageless.gateway [.get "/cart", .get "/orders"]
        [do toast .info "saved"; return default] .stuck).run crossedRejections).state.news =
          [.signedOut, .rejected true] := by
  have h : RejectedCalls Client.pageless.gateway [.get "/cart", .get "/orders"]
      [do toast .info "saved"; return default] .stuck crossedRejections := {
    sendable := by decide +kernel
    together := by decide +kernel
    rejected := by decide +kernel
    undisturbed := by
      refine throughout_iff.2 fun k hk => ?_
      have hthird : k = ⟨2, by decide⟩ := by
        revert k
        decide
      subst hthird
      exact ⟨rfl, rfl⟩
    complete := by decide }
  exact ⟨h, ((expiry_announced_once h).2.1 rfl (by simp)).1⟩

end WebClient
