import Mathlib.Data.List.Induction
import WebClient.Proofs.CallTurns

/-!
# Mirror — what the store holds of a session

A change of the session changes memory and then writes the store, under one lock.  The write may
fail, and then memory is ahead of the store until a later write succeeds.  What the store holds is
always the image of one session as a whole: the one that was in memory after the last change whose
write succeeded.

* `Session.image` says which texts stand for a session.
* A `Ledger` follows a login and remembers that session; `Ledger.Mirrors` relates it to the store.
* `store_mirrors_saved_session` carries this along every schedule of changes.
-/

namespace WebClient

/-! ## Images -/

/-- The text that stands for a session under a key, if any does. -/
def Session.image (session : Session) (key : String) : Option String :=
  match session with
  | none => none
  | some auth =>
    if key = SessionKey.token then some auth.token
    else if key = SessionKey.user then some auth.user.toJson.compact
    else if key = SessionKey.seller then auth.seller.map fun profile => profile.toJson.compact
    else none

theorem Change.get?_apply (entries : Dict String) (change : Change) (key : String) :
    Dict.get? (Change.apply entries change) key =
      if change.1 = key then change.2 else Dict.get? entries key := by
  rcases change with ⟨changed, value⟩
  cases value with
  | none => exact Dict.get?_remove entries changed key
  | some value => exact Dict.get?_put entries changed value key

theorem Change.get?_applyAll (token user seller : Option String) (entries : Dict String)
    (key : String) :
    Dict.get? (Change.applyAll [(SessionKey.token, token), (SessionKey.user, user),
        (SessionKey.seller, seller)] entries) key =
      if key = SessionKey.token then token else if key = SessionKey.user then user
      else if key = SessionKey.seller then seller else Dict.get? entries key := by
  -- The later of two changes of a key would win, but the keys are distinct.
  have hdistinct : SessionKey.token ≠ SessionKey.user ∧ SessionKey.token ≠ SessionKey.seller ∧
      SessionKey.user ≠ SessionKey.seller := by decide
  simp only [Change.applyAll, List.foldl_cons, List.foldl_nil, Change.get?_apply]
  grind

theorem Login.get?_imageOf (auth : AuthSession) (entries : Dict String) (key : String) :
    Dict.get? (Change.applyAll (Login.imageOf auth) entries) key =
      if key ∈ SessionKey.all then Session.image (some auth) key else Dict.get? entries key := by
  rw [Login.imageOf, Change.get?_applyAll]
  simp only [SessionKey.all, Session.image, List.mem_cons, List.not_mem_nil, or_false]
  grind

theorem Login.get?_purgeChanges (entries : Dict String) (key : String) :
    Dict.get? (Change.applyAll Login.purgeChanges entries) key =
      if key ∈ SessionKey.all then none else Dict.get? entries key := by
  rw [Login.purgeChanges, Change.removals, SessionKey.all, List.map_cons, List.map_cons,
    List.map_cons, List.map_nil, Change.get?_applyAll]
  simp only [List.mem_cons, List.not_mem_nil, or_false]
  grind

/-! ## Changes with a store that may fail -/

/-- Whether a change writes the store; without a session there is no identity to write. -/
def SessionChange.writes (login : Login) : SessionChange → Bool
  | .establish _ => true
  | .identify _ _ => login.session.isSome
  | .clear => true

/-- A change that writes the store writes one batch, and that leaves the image of the session that
the change makes current. -/
theorem SessionChange.exists_batch {login : Login} {change : SessionChange}
    (h : change.writes login = true) :
    ∃ batch, (change.apply login).store = login.store.write batch ∧ batch ≠ [] ∧
      ∀ entries key, Dict.get? (Change.applyAll batch entries) key =
        if key ∈ SessionKey.all then (change.apply login).session.image key
        else Dict.get? entries key := by
  cases change with
  | establish auth => exact ⟨_, rfl, List.cons_ne_nil _ _, Login.get?_imageOf auth⟩
  | identify user seller =>
      rcases Option.isSome_iff_exists.1 h with ⟨auth, hauth⟩
      have happly : SessionChange.apply login (.identify user seller) =
          login.establish { auth with user, seller } := by
        simp [apply, Login.updateIdentity, hauth]
      rw [happly]
      exact ⟨_, rfl, List.cons_ne_nil _ _, Login.get?_imageOf _⟩
  | clear => exact ⟨_, rfl, List.cons_ne_nil _ _, Login.get?_purgeChanges⟩

theorem SessionChange.apply_of_not_writes {login : Login} {change : SessionChange}
    (h : change.writes login = false) : change.apply login = login := by
  cases change with
  | establish auth => exact absurd h (by simp [writes])
  | identify user seller =>
      have hnone : login.session = none := by simpa [writes] using h
      simp [apply, Login.updateIdentity, hnone]
  | clear => exact absurd h (by simp [writes])

/-- A login, and what is remembered of the changes that it has been through. -/
structure Ledger where
  login : Login
  /-- The session as it was after the last change whose write succeeded. -/
  saved : Session := none
  /-- Whether the last write succeeded, if there was one. -/
  current : Bool := true

namespace Ledger

/-- One change of the session. -/
def step (ledger : Ledger) (change : SessionChange) : Ledger :=
  let login := change.apply ledger.login
  if change.writes ledger.login then
    if ledger.login.store.faults.write ledger.login.store.clock then
      { ledger with login, current := false }
    else { login, saved := login.session, current := true }
  else { ledger with login }

def run (ledger : Ledger) (changes : List SessionChange) : Ledger := changes.foldl step ledger

/-- The store holds the image of the saved session, and otherwise what it held at first. -/
structure Mirrors (first : Dict String) (ledger : Ledger) : Prop where
  keys : ∀ key ∈ SessionKey.all,
    Dict.get? ledger.login.store.entries key = ledger.saved.image key
  others : ∀ key, key ∉ SessionKey.all →
    Dict.get? ledger.login.store.entries key = Dict.get? first key
  current : ledger.current = true → ledger.saved = ledger.login.session

variable {first : Dict String} {ledger : Ledger}

theorem run_login (changes : List SessionChange) :
    (ledger.run changes).login = changes.foldl SessionChange.apply ledger.login := by
  induction changes generalizing ledger with
  | nil => rfl
  | cons change changes ih =>
      have hstep : (ledger.step change).login = change.apply ledger.login := by
        unfold step
        split
        · split <;> rfl
        · rfl
      calc
        ((ledger.step change).run changes).login
            = changes.foldl SessionChange.apply (ledger.step change).login := ih
        _ = changes.foldl SessionChange.apply (change.apply ledger.login) := by rw [hstep]

theorem Mirrors.start {login : Login} (hsession : login.session = none)
    (hkeys : ∀ key ∈ SessionKey.all, Dict.get? login.store.entries key = none) :
    Mirrors login.store.entries { login } where
  keys := hkeys
  others _ _ := rfl
  current _ := hsession.symm

theorem Mirrors.step (h : Mirrors first ledger) (change : SessionChange) :
    Mirrors first (ledger.step change) := by
  cases hwrites : change.writes ledger.login with
  | false =>
      have hsame : ledger.step change = ledger := by
        simp [Ledger.step, hwrites, SessionChange.apply_of_not_writes hwrites]
      rw [hsame]
      exact h
  | true =>
      rcases SessionChange.exists_batch hwrites with ⟨batch, hstore, hbatch, himage⟩
      have hnonempty : batch.isEmpty = false := by simpa using hbatch
      cases hfails : ledger.login.store.faults.write ledger.login.store.clock with
      | true =>
          -- The batch is refused as a whole, so the store goes on holding what was saved.
          have hentries : (change.apply ledger.login).store.entries =
              ledger.login.store.entries := by
            simp [hstore, Store.write, Store.refuses, hnonempty, hfails, Store.tick]
          have hstep : ledger.step change =
              { ledger with login := change.apply ledger.login, current := false } := by
            simp [Ledger.step, hwrites, hfails]
          rw [hstep]
          refine ⟨?_, ?_, fun hcurrent => absurd hcurrent (by simp)⟩
          · intro key hkey
            simpa [hentries] using h.keys key hkey
          · intro key hkey
            simpa [hentries] using h.others key hkey
      | false =>
          -- The batch is applied as a whole, over whatever session's image was there.
          have hentries : (change.apply ledger.login).store.entries =
              Change.applyAll batch ledger.login.store.entries := by
            simp [hstore, Store.write, Store.refuses, hfails]
          have hstep : ledger.step change =
              { login := change.apply ledger.login
                saved := (change.apply ledger.login).session
                current := true } := by
            simp [Ledger.step, hwrites, hfails]
          rw [hstep]
          refine ⟨?_, ?_, fun _ => rfl⟩
          · intro key hkey
            simp only [hentries, himage]
            rw [if_pos hkey]
          · intro key hkey
            simp only [hentries, himage]
            rw [if_neg hkey]
            exact h.others key hkey

theorem Mirrors.run (h : Mirrors first ledger) (changes : List SessionChange) :
    Mirrors first (ledger.run changes) := by
  induction changes generalizing ledger with
  | nil => exact h
  | cons change changes ih => exact ih (h.step change)

end Ledger

/-! ## Changes in any order -/

/-- Steps that leave the login alone. -/
def World.SameLogin (w w' : World) : Prop := w'.login = w.login

theorem publish_sameLogin (event : Event) :
    (publish event : Workflow World Unit).Guarantees World.SameLogin :=
  .modifyGet fun _ => rfl

/-- The first turn of a change makes it; what is left only tells of it. -/
theorem SessionChange.perform_step (change : SessionChange) (part : Nat) (outcome : Outcome)
    (w : World) :
    ∃ rest, change.perform.step part outcome w =
        (rest, { w with login := change.apply w.login }) ∧
      rest.Guarantees World.SameLogin := by
  have htell : ∀ previous told : Session, (do
      if previous.isSome then announce told
      return previous.isSome : Workflow World Bool).Guarantees World.SameLogin := by
    intro previous told
    cases previous with
    | none => exact .pure _
    | some auth => exact .bind (publish_sameLogin _) fun _ => .pure _
  cases change with
  | establish auth => exact ⟨_, rfl, publish_sameLogin _⟩
  | identify user seller =>
      let session := (w.login.updateIdentity user seller).session
      exact ⟨_, rfl, .bind (htell session session) fun _ => .pure _⟩
  | clear => exact ⟨_, rfl, .bind (htell w.login.session none) fun _ => .pure _⟩

/-- The pool of tasks that make these changes. -/
def changePool (changes : List SessionChange) (w : World) : Pool World Unit :=
  ⟨changes.map SessionChange.perform, w⟩

/-- The tasks that have had a turn, in the order of their first turns. -/
def begun (moves : List Move) : List Nat := (moves.map Move.task).eraseDups

/-- The changes that have been made, in the order in which they were made: each in the first turn of
its task. -/
def made (changes : List SessionChange) (moves : List Move) : List SessionChange :=
  (begun moves).filterMap fun i => changes[i]?

theorem begun_concat (moves : List Move) (m : Move) :
    begun (moves ++ [m]) =
      if m.task ∈ begun moves then begun moves else begun moves ++ [m.task] := by
  have hconcat : ∀ (tasks : List Nat) (i : Nat), (tasks ++ [i]).eraseDups =
      if i ∈ tasks.eraseDups then tasks.eraseDups else tasks.eraseDups ++ [i] := by
    intro tasks i
    by_cases hi : i ∈ tasks <;>
      simp [List.eraseDups_append, List.removeAll, List.eraseDups_cons, hi]
  simpa [begun] using hconcat (moves.map Move.task) m.task

theorem made_concat (changes : List SessionChange) (moves : List Move) (m : Move) :
    made changes (moves ++ [m]) =
      if m.task ∈ begun moves then made changes moves
      else made changes moves ++ changes[m.task]?.toList := by
  unfold made
  rw [begun_concat]
  split
  · rfl
  · cases hchange : changes[m.task]? <;> simp [hchange]

/-- Where the task of a change is: at its start, or past the change. -/
def ChangeTask (p : Pool World Unit) (moves : List Move) (i : Nat) (change : SessionChange) :
    Prop :=
  if i ∈ begun moves then ∃ task, p.tasks[i]? = some task ∧ task.Guarantees World.SameLogin
  else p.tasks[i]? = some change.perform

theorem ChangeTask.step_other {p : Pool World Unit} {moves : List Move} {i : Nat}
    {change : SessionChange} (h : ChangeTask p moves i change) {m : Move} (hm : m.task ≠ i) :
    ChangeTask (p.step m) (moves ++ [m]) i change := by
  have hbegun : i ∈ begun (moves ++ [m]) ↔ i ∈ begun moves := by
    rw [begun_concat]
    split
    · rfl
    · simp [Ne.symm hm]
  unfold ChangeTask at h ⊢
  simpa only [hbegun, Pool.tasks_step_of_ne hm] using h

theorem ChangeTask.step_begun {p : Pool World Unit} {moves : List Move} {change : SessionChange}
    {m : Move} (h : ChangeTask p moves m.task change) (hm : m.task ∈ begun moves) :
    ChangeTask (p.step m) (moves ++ [m]) m.task change ∧
      (p.step m).state.login = p.state.login := by
  unfold ChangeTask at h ⊢
  rw [if_pos hm] at h
  rcases h with ⟨task, htask, hguarantees⟩
  have hturn := hguarantees.step (fun _ => rfl) m.part m.outcome p.state
  have hstep := Pool.step_self htask rfl
  rw [begun_concat, if_pos hm, if_pos hm]
  exact ⟨⟨_, hstep.1, hturn.2⟩, hstep.2 ▸ hturn.1⟩

theorem ChangeTask.step_first {p : Pool World Unit} {moves : List Move} {change : SessionChange}
    {m : Move} (h : ChangeTask p moves m.task change) (hm : m.task ∉ begun moves) :
    ChangeTask (p.step m) (moves ++ [m]) m.task change ∧
      (p.step m).state.login = change.apply p.state.login := by
  unfold ChangeTask at h ⊢
  rw [if_neg hm] at h
  rcases change.perform_step m.part m.outcome p.state with ⟨rest, hturn, hguarantees⟩
  have hstep := Pool.step_self h hturn
  rw [begun_concat, if_neg hm, if_pos (by simp)]
  exact ⟨⟨rest, hstep.1, hguarantees⟩, by rw [hstep.2]⟩

/-- The login of a pool of changes is what the changes make of it in the order in which they are
made. -/
theorem changePool_run (changes : List SessionChange) (w : World) (moves : List Move) :
    ((changePool changes w).run moves).state.login =
        (made changes moves).foldl SessionChange.apply w.login ∧
      ∀ (i : Nat) (change : SessionChange), changes[i]? = some change →
        ChangeTask ((changePool changes w).run moves) moves i change := by
  -- Each task is either at its start or past its change; only a first turn touches the login.
  induction moves using List.reverseRecOn with
  | nil =>
      refine ⟨rfl, ?_⟩
      intro i change hi
      have hstart : (changePool changes w).tasks[i]? = some change.perform := by
        simp [changePool, hi]
      simpa [ChangeTask, begun] using hstart
  | append_singleton moves m ih =>
      rcases ih with ⟨hlogin, htasks⟩
      have hlength : ((changePool changes w).run moves).tasks.length = changes.length := by
        simp [changePool]
      rw [Pool.run_append, Pool.run_cons, Pool.run_nil, made_concat]
      generalize (changePool changes w).run moves = p at hlogin htasks hlength ⊢
      cases hchange : changes[m.task]? with
      | none =>
          -- There is no such task, and nothing happens.
          have htask : p.tasks[m.task]? = none := by
            rw [List.getElem?_eq_none_iff] at hchange ⊢
            omega
          have hsame : p.step m = p := by simp [Pool.step, htask]
          refine ⟨by simpa [hsame] using hlogin, ?_⟩
          intro i change hi
          have hne : m.task ≠ i := by
            rintro rfl
            simp [hchange] at hi
          exact (htasks i change hi).step_other hne
      | some change =>
          have hothers : ∀ (i : Nat) (other : SessionChange), changes[i]? = some other →
              m.task ≠ i → ChangeTask (p.step m) (moves ++ [m]) i other :=
            fun i other hi hne => (htasks i other hi).step_other hne
          have hall : ChangeTask (p.step m) (moves ++ [m]) m.task change →
              ∀ (i : Nat) (other : SessionChange), changes[i]? = some other →
                ChangeTask (p.step m) (moves ++ [m]) i other := by
            intro hself i other hi
            by_cases hne : m.task = i
            · subst hne
              have hsame : change = other := Option.some.inj (hchange.symm.trans hi)
              exact hsame ▸ hself
            · exact hothers i other hi hne
          by_cases hm : m.task ∈ begun moves
          · rcases (htasks _ _ hchange).step_begun hm with ⟨hself, hkept⟩
            rw [if_pos hm]
            exact ⟨hkept.trans hlogin, hall hself⟩
          · rcases (htasks _ _ hchange).step_first hm with ⟨hself, hmade⟩
            rw [if_neg hm]
            refine ⟨?_, hall hself⟩
            calc
              (p.step m).state.login = change.apply p.state.login := hmade
              _ = change.apply ((made changes moves).foldl SessionChange.apply w.login) := by
                    rw [hlogin]
              _ = (made changes moves ++ (some change).toList).foldl SessionChange.apply
                    w.login := by simp

/-- Begin without a session, over a store that has none of the keys of a session, and let changes be
made in any order, any of their writes failing.  At every moment the store holds the image of the
session as it was after the last change whose write succeeded, as a whole; that is the current
session if the last write succeeded.  No other key of the store ever changes. -/
theorem store_mirrors_saved_session (changes : List SessionChange) (w : World)
    (hsession : w.login.session = none)
    (hkeys : ∀ key ∈ SessionKey.all, Dict.get? w.login.store.entries key = none)
    (moves : List Move) :
    let ledger : Ledger := Ledger.run { login := w.login } (made changes moves)
    let login := ((changePool changes w).run moves).state.login
    login = ledger.login ∧
      (∀ key ∈ SessionKey.all, Dict.get? login.store.entries key = ledger.saved.image key) ∧
      (ledger.current = true → ledger.saved = login.session) ∧
      ∀ key, key ∉ SessionKey.all →
        Dict.get? login.store.entries key = Dict.get? w.login.store.entries key := by
  intro ledger login
  -- The schedule only decides the order of the changes; the rest is about a list of changes.
  have hlogin : login = ledger.login := by
    rw [Ledger.run_login]
    exact (changePool_run changes w moves).1
  have hmirrors : ledger.Mirrors w.login.store.entries :=
    (Ledger.Mirrors.start hsession hkeys).run _
  rw [hlogin]
  exact ⟨rfl, hmirrors.keys, hmirrors.current, hmirrors.others⟩

/-- A store that works but for the second write, with a key that is none of a session's. -/
def World.faulty : World :=
  { login :=
      { store := { entries := [("theme", "dark")], faults := ⟨fun _ _ => false, (· == 1)⟩ } } }

/-- The session of a user with a shop. -/
def AuthSession.shops : AuthSession := { AuthSession.alices with seller := some { id := some 7 } }

/-- A seller logs in; then Bob, who is none, logs in, and his session is not written. -/
theorem faulty_store_mirrors_saved_session :
    World.faulty.login.session = none ∧
      (∀ key ∈ SessionKey.all, Dict.get? World.faulty.login.store.entries key = none) ∧
      let login := ((changePool [.establish .bobs, .establish .shops] .faulty).run
        [{ task := 1 }, { task := 0 }, { task := 0 }, { task := 1 }]).state.login
      login.session = some .bobs ∧
        (∀ key ∈ SessionKey.all,
          Dict.get? login.store.entries key = Session.image (some .shops) key) ∧
        Dict.get? login.store.entries "theme" = some "dark" := by
  have hkeys : ∀ key ∈ SessionKey.all, Dict.get? World.faulty.login.store.entries key = none := by
    decide
  have h := store_mirrors_saved_session [.establish .bobs, .establish .shops] .faulty rfl hkeys
    [{ task := 1 }, { task := 0 }, { task := 0 }, { task := 1 }]
  exact ⟨rfl, hkeys, rfl, h.2.1, h.2.2.2 "theme" (by decide)⟩

end WebClient
