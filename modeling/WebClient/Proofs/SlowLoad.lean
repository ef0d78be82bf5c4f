import WebClient.Proofs.CallTurns
import WebClient.Proofs.Restore

/-!
# SlowLoad — loads that others overtake

A load reads the store key by key, and makes what it has read the current session in the end.  Every
other change of the session is made at once, in memory and in the store, and may fall between two
turns of the load.

* `Login.Agrees` says that memory and store tell of the same session.
* `Loading` is a load in a run, up to the turn in which it makes a session current; every load that
  finishes has been one (`Pool.exists_loading`).
* `loaded_session_is_stored_iff`: what was loaded stays in memory beside a store that tells of
  another session exactly as long as the store had been overtaken and nobody changes the session
  after that.
-/

namespace WebClient

/-! ## Working stores in a run -/

theorem Store.faults_write (store : Store) (changes : List Change) :
    (store.write changes).faults = store.faults := by
  unfold Store.write
  split <;> rfl

theorem Login.Section.faults_apply (step : Login.Section) (login : Login) :
    (step.apply login).store.faults = login.store.faults := by
  cases step with
  | change c =>
      cases c with
      | establish auth => exact Store.faults_write _ _
      | identify user seller =>
          cases hsession : login.session with
          | none => simp [apply, SessionChange.apply, Login.updateIdentity, hsession]
          | some auth =>
              simp [apply, SessionChange.apply, Login.updateIdentity, hsession, Login.establish,
                Store.faults_write]
      | clear => exact Store.faults_write _ _
  | assign session => rfl
  | purge => exact Store.faults_write _ _
  | read => rfl

/-- Nobody breaks a store. -/
theorem World.Step.works {A : Login.Section → Prop} {w w' : World} (h : World.Step A w w')
    (hworks : w.login.store.Works) : w'.login.store.Works := by
  cases h with
  | stay => exact hworks
  | emit event => exact hworks
  | router step => exact hworks
  | login step hstep =>
      have hfaults := step.faults_apply w.login
      exact ⟨hfaults ▸ hworks.read, hfaults ▸ hworks.write⟩

theorem Client.pool_works {client : Client} {ops : List Operation} {w : World}
    (hworks : w.login.store.Works) (moves : List Move) :
    ((client.pool ops w).run moves).state.login.store.Works := by
  have hkeep (s s' : World) (hstep : World.Step (Client.Allows ops) s s')
      (hs : s.login.store.Works) : s'.login.store.Works := hstep.works hs
  exact Pool.run_induction (fun _ => .stay) (client.pool_guarantees []) hkeep hworks moves

/-! ## Memory and store -/

/-- The session that the texts under the three keys stand for, if they are those of a session. -/
def Session.ofTexts (token user seller : Option String) : Session :=
  match StoredSession.judge token user with
  | .found token user => some { token, user, seller := StoredSession.seller? (.ok seller) }
  | .absent | .broken => none

theorem Session.of_ofTexts {token user seller : Option String} {auth : AuthSession}
    (h : Session.ofTexts token user seller = some auth) :
    token = some auth.token ∧
      ∃ text, user = some text ∧ decodeStored? User.decode text = some auth.user := by
  unfold ofTexts at h
  split at h
  · rename_i found account hfound
    cases h
    rcases StoredSession.judge_eq_found_iff.1 hfound with ⟨htoken, -, huser⟩
    exact ⟨htoken, huser⟩
  · cases h
  · cases h

/-- The seller has no say in who the session is of. -/
theorem Session.ofTexts_identity (token user seller seller' : Option String) :
    (ofTexts token user seller).map (fun auth => (auth.token, auth.user)) =
      (ofTexts token user seller').map fun auth => (auth.token, auth.user) := by
  unfold ofTexts
  cases StoredSession.judge token user <;> rfl

/-- The text that the store of a pool holds under a key. -/
def Pool.stored {α : Type} (p : Pool World α) (key : String) : Option String :=
  Dict.get? p.state.login.store.entries key

/-- Reading leaves everything where it is. -/
theorem Pool.stored_of_noteRead {α : Type} {p q : Pool World α}
    (h : q.state.login = p.state.login.noteRead) (key : String) : q.stored key = p.stored key := by
  rw [Pool.stored, h]
  rfl

theorem Store.Works.restored_eq_ofTexts {store : Store} (h : store.Works) :
    store.restored = Session.ofTexts (Dict.get? store.entries SessionKey.token)
      (Dict.get? store.entries SessionKey.user) (Dict.get? store.entries SessionKey.seller) := by
  have hentries : store.tick.entries = store.entries := rfl
  simp only [Store.restored, Store.verdict, h.read_eq, h.tick.read_eq, h.tick.tick.read_eq,
    hentries, Session.ofTexts]
  cases StoredSession.judge (Dict.get? store.entries SessionKey.token)
    (Dict.get? store.entries SessionKey.user) <;> rfl

theorem Store.Works.restored_tick {store : Store} (h : store.Works) :
    store.tick.restored = store.restored := by
  rw [h.restored_eq_ofTexts, h.tick.restored_eq_ofTexts]
  rfl

/-- Whether memory and store tell of the same session: the store holds the texts of the session in
memory, or is read back as that. -/
def Login.Agrees (login : Login) : Prop :=
  (∀ key ∈ SessionKey.all, Dict.get? login.store.entries key = login.session.image key) ∨
    login.store.restored = login.session

theorem Login.Agrees.token_stored {login : Login} (h : login.Agrees) (hworks : login.store.Works)
    {auth : AuthSession} (hauth : login.session = some auth) :
    Dict.get? login.store.entries SessionKey.token = some auth.token := by
  rcases h with himage | hrestored
  · rw [himage SessionKey.token (by decide), hauth]
    rfl
  · rw [hworks.restored_eq_ofTexts] at hrestored
    exact (Session.of_ofTexts (hrestored.trans hauth)).1

/-- A change of the session leaves memory and store in agreement, unless it changes nothing. -/
theorem SessionChange.agrees_apply {login : Login} (hworks : login.store.Works)
    (change : SessionChange) :
    change.apply login = login ∨ (change.apply login).Agrees := by
  cases hwrites : change.writes login with
  | false => exact .inl (SessionChange.apply_of_not_writes hwrites)
  | true =>
      rcases SessionChange.exists_batch hwrites with ⟨batch, hstore, -, himage⟩
      refine .inr (.inl fun key hkey => ?_)
      rw [hstore, hworks.write_eq]
      exact (himage _ key).trans (if_pos hkey)

/-! ## Turns of a load -/

namespace LoadPersisted

/-- What is left of a load when the verdict is known. -/
def afterVerdict : StoredSession.Verdict → Workflow World Session
  | .absent => adopt none
  | .broken => discardStored
  | .found token user => do
    let seller := StoredSession.seller? (← readKey SessionKey.seller)
    adopt (some { token, user, seller })

/-- What is left of a load that has read the token. -/
def afterToken (token : Option String) : Workflow World Session := do
  match ← readKey SessionKey.user with
  | .error _ => discardStored
  | .ok user => afterVerdict (StoredSession.judge token user)

theorem loadPersisted_eq_bind :
    (loadPersisted : Workflow World Session) = Workflow.bind (readKey SessionKey.token) fun
      | .error _ => discardStored
      | .ok token => afterToken token := by
  refine congrArg (Workflow.bind (readKey SessionKey.token)) (funext fun read => ?_)
  cases read with
  | error e => rfl
  | ok token =>
      refine congrArg (Workflow.bind (readKey SessionKey.user)) (funext fun read => ?_)
      cases read with
      | error e => rfl
      | ok user =>
          dsimp only
          cases StoredSession.judge token user <;> rfl

end LoadPersisted

namespace Pool

variable {α : Type} {p : Pool World α} {i : Nat} {m : Move}

theorem read_turn {key : String} {g : Except StorageError (Option String) → Workflow World Session}
    {f : Session → Workflow World α}
    (h : p.tasks[i]? = some (Workflow.bind (Workflow.bind (readKey key) g) f)) (hm : m.task = i)
    (hworks : p.state.login.store.Works) :
    (p.step m).tasks[i]? = some (Workflow.bind (g (.ok (p.stored key))) f) ∧
      (p.step m).state.login = p.state.login.noteRead := by
  subst hm
  have hturn := step_self h (show (Workflow.bind (Workflow.bind (readKey key) g) f).step m.part
    m.outcome p.state = (Workflow.bind (g (p.state.login.store.read key)) f,
      { p.state with login := p.state.login.noteRead }) from rfl)
  rw [hworks.read_eq] at hturn
  exact ⟨hturn.1, by rw [hturn.2]⟩

theorem discard_turn {f : Session → Workflow World α}
    (h : p.tasks[i]? = some (Workflow.bind discardStored f)) (hm : m.task = i) :
    (p.step m).tasks[i]? = some (Workflow.bind (adopt none) f) ∧
      (p.step m).state.login = p.state.login.purge := by
  subst hm
  have hturn := step_self h (show (Workflow.bind discardStored f).step m.part m.outcome p.state =
    (Workflow.bind (adopt none) f, { p.state with login := p.state.login.purge }) from rfl)
  exact ⟨hturn.1, by rw [hturn.2]⟩

theorem adopt_turn {session : Session} {f : Session → Workflow World α}
    (h : p.tasks[i]? = some (Workflow.bind (adopt session) f)) (hm : m.task = i) :
    (p.step m).tasks[i]? = some (Workflow.bind (do
        if session.isSome then announce session
        return session : Workflow World Session) f) ∧
      (p.step m).state.login = p.state.login.assign session := by
  subst hm
  have hturn := step_self h (show (Workflow.bind (adopt session) f).step m.part m.outcome p.state =
    (Workflow.bind (do
        if session.isSome then announce session
        return session : Workflow World Session) f,
      { p.state with login := p.state.login.assign session }) from rfl)
  exact ⟨hturn.1, by rw [hturn.2]⟩

/-- Unless there is no session, the turn after the verdict leads to the last one. -/
theorem verdict_turn {verdict : StoredSession.Verdict} {f : Session → Workflow World α}
    (hverdict : verdict ≠ .absent)
    (h : p.tasks[i]? = some (Workflow.bind (LoadPersisted.afterVerdict verdict) f))
    (hm : m.task = i) (hworks : p.state.login.store.Works) :
    ∃ session, (p.step m).tasks[i]? = some (Workflow.bind (adopt session) f) := by
  cases verdict with
  | absent => exact absurd rfl hverdict
  | broken => exact ⟨none, (discard_turn h hm).1⟩
  | found token user => exact ⟨_, (read_turn h hm hworks).1⟩

end Pool

/-! ## Loads in a run -/

/-- Whether, in a run, nobody but one task changes the login. -/
def Pool.LeftTo {α : Type} (p : Pool World α) (i : Nat) : List Move → Prop
  | [] => True
  | m :: moves =>
    (m.task = i ∨ (p.step m).state.login = p.state.login) ∧ (p.step m).LeftTo i moves

namespace Pool

variable {α : Type} {p : Pool World α} {i : Nat}

theorem leftTo_append {moves moves' : List Move} :
    p.LeftTo i (moves ++ moves') ↔ p.LeftTo i moves ∧ (p.run moves).LeftTo i moves' := by
  induction moves generalizing p with
  | nil => simp [LeftTo]
  | cons m moves ih => simp [LeftTo, ih, and_assoc]

theorem LeftTo.login_run {moves : List Move} (h : p.LeftTo i moves)
    (hothers : ∀ m ∈ moves, m.task ≠ i) : (p.run moves).state.login = p.state.login := by
  induction moves generalizing p with
  | nil => rfl
  | cons m moves ih =>
      rcases List.forall_mem_cons.1 hothers with ⟨hm, hrest⟩
      exact (ih h.2 hrest).trans (h.1.resolve_left hm)

/-- A turn of the task, and the moves of others after it. -/
theorem LeftTo.login_turn {m : Move} {others : List Move} (h : p.LeftTo i (m :: others))
    (hothers : ∀ m ∈ others, m.task ≠ i) :
    (p.run (m :: others)).state.login = (p.step m).state.login :=
  h.2.login_run hothers

end Pool

/-- A load in a run: its place, its turns, and the moves of all others in between.  It reads the
token, then the user; what these come to decides whether a third turn reads the seller, purges the
store, or is left out; and in the end it makes a session current. -/
structure Loading {α : Type} (p : Pool World α) where
  task : Nat
  andThen : Session → Workflow World α
  waits : p.tasks[task]? = some (loadPersisted >>= andThen)
  first : Move
  first_of : first.task = task
  between : List Move
  between_of : ∀ m ∈ between, m.task ≠ task
  second : Move
  second_of : second.task = task
  judged : List Move
  judged_of : ∀ m ∈ judged, m.task ≠ task
  third : Option Move
  third_of : ∀ m ∈ third, m.task = task
  third_isNone : third = none ↔
    StoredSession.judge (p.stored SessionKey.token)
      ((p.run (first :: between)).stored SessionKey.user) = .absent
  settled : List Move
  settled_of : ∀ m ∈ settled, m.task ≠ task
  last : Move
  last_of : last.task = task

namespace Loading

variable {α : Type} {p : Pool World α} (l : Loading p)

/-- The pool in which the user is about to be read. -/
def asked : Pool World α := p.run (l.first :: l.between)

/-- The pool in which both texts have been read. -/
def known : Pool World α := l.asked.run (l.second :: l.judged)

/-- The session that the load makes current: the token that was stored at the first read, with the
user that was stored at the second and the seller that was stored at the third. -/
def loaded : Session :=
  .ofTexts (p.stored SessionKey.token) (l.asked.stored SessionKey.user)
    (l.known.stored SessionKey.seller)

/-- All moves up to the last turn. -/
def moves : List Move :=
  (l.first :: l.between) ++ ((l.second :: l.judged) ++ (l.third.toList ++ l.settled))

/-- The pool in which the session is about to be made current. -/
def due : Pool World α := p.run l.moves

/-- The pool in which the session has been made current. -/
def after : Pool World α := l.due.step l.last

theorem due_eq : l.due = l.known.run (l.third.toList ++ l.settled) := by
  simp [due, moves, known, asked]

theorem exists_third (h : StoredSession.judge (p.stored SessionKey.token)
      (l.asked.stored SessionKey.user) ≠ .absent) :
    ∃ m, l.third = some m ∧ m.task = l.task := by
  cases hthird : l.third with
  | none => exact absurd (l.third_isNone.1 hthird) h
  | some m => exact ⟨m, rfl, l.third_of m hthird⟩

section Turns

variable (hworks : ∀ moves, (p.run moves).state.login.store.Works)

include hworks

theorem works_asked (moves : List Move) : (l.asked.run moves).state.login.store.Works := by
  simpa [asked] using hworks (l.first :: l.between ++ moves)

theorem works_known (moves : List Move) : (l.known.run moves).state.login.store.Works := by
  simpa [known] using l.works_asked hworks (l.second :: l.judged ++ moves)

theorem first_turn :
    (p.step l.first).tasks[l.task]? = some (Workflow.bind
        (LoadPersisted.afterToken (p.stored SessionKey.token)) l.andThen) ∧
      (p.step l.first).state.login = p.state.login.noteRead := by
  have hp : p.state.login.store.Works := hworks []
  have hwaits := l.waits
  rw [LoadPersisted.loadPersisted_eq_bind] at hwaits
  exact Pool.read_turn hwaits l.first_of hp

theorem second_turn :
    (l.asked.step l.second).tasks[l.task]? = some (Workflow.bind
        (LoadPersisted.afterVerdict (StoredSession.judge (p.stored SessionKey.token)
          (l.asked.stored SessionKey.user))) l.andThen) ∧
      (l.asked.step l.second).state.login = l.asked.state.login.noteRead := by
  have hnow : l.asked.state.login.store.Works := l.works_asked hworks []
  have hasked : l.asked.tasks[l.task]? = _ :=
    (Pool.tasks_run_of_ne l.between_of).trans (l.first_turn hworks).1
  exact Pool.read_turn hasked l.second_of hnow

theorem known_task :
    l.known.tasks[l.task]? = some (Workflow.bind
      (LoadPersisted.afterVerdict (StoredSession.judge (p.stored SessionKey.token)
        (l.asked.stored SessionKey.user))) l.andThen) :=
  (Pool.tasks_run_of_ne l.judged_of).trans (l.second_turn hworks).1

/-- The turn that the verdict asks for, if it asks for one, leaves the store as the load takes it to
be: what was loaded agrees with it, as long as it was what stood in the store before. -/
theorem third_turn :
    (l.known.run l.third.toList).tasks[l.task]? =
        some (Workflow.bind (adopt l.loaded) l.andThen) ∧
      (l.loaded = l.known.state.login.store.restored →
        ((l.known.run l.third.toList).state.login.assign l.loaded).Agrees) := by
  have hnow : l.known.state.login.store.Works := l.works_known hworks []
  have htask := l.known_task hworks
  cases hverdict : StoredSession.judge (p.stored SessionKey.token)
      (l.asked.stored SessionKey.user) with
  | absent =>
      -- No turn is taken: the last one comes next.
      have hthird : l.third = none := l.third_isNone.2 hverdict
      have hloaded : l.loaded = none := by simp [loaded, Session.ofTexts, hverdict]
      rw [hverdict] at htask
      rw [hthird, hloaded]
      exact ⟨htask, fun hrestored => .inr hrestored.symm⟩
  | broken =>
      rcases l.exists_third (by simp [hverdict]) with ⟨m, hthird, hm⟩
      have hloaded : l.loaded = none := by simp [loaded, Session.ofTexts, hverdict]
      rw [hverdict] at htask
      have hturn := Pool.discard_turn htask hm
      rw [hthird, hloaded]
      refine ⟨hturn.1, fun _ => .inl fun key hkey => ?_⟩
      -- Nothing is left under the keys, which is the image of no session.
      change Dict.get? (l.known.step m).state.login.store.entries key = none
      rw [hturn.2, Login.purge, hnow.write_eq]
      exact (Login.get?_purgeChanges _ key).trans (if_pos hkey)
  | found token user =>
      rcases l.exists_third (by simp [hverdict]) with ⟨m, hthird, hm⟩
      have hloaded : l.loaded = some ⟨token, user,
          StoredSession.seller? (.ok (l.known.stored SessionKey.seller))⟩ := by
        simp [loaded, Session.ofTexts, hverdict]
      rw [hverdict] at htask
      have hturn := Pool.read_turn htask hm hnow
      rw [hthird]
      -- Reading the seller leaves the entries alone, and they are read back as before.
      refine ⟨hloaded ▸ hturn.1, fun hrestored => .inr ?_⟩
      change (l.known.step m).state.login.store.restored = l.loaded
      rw [hturn.2, hrestored]
      exact hnow.restored_tick

theorem due_task : l.due.tasks[l.task]? = some (Workflow.bind (adopt l.loaded) l.andThen) := by
  rw [l.due_eq, Pool.run_append, Pool.tasks_run_of_ne l.settled_of]
  exact (l.third_turn hworks).1

/-- The last turn makes what was loaded the current session, whatever the store holds by then. -/
theorem last_turn :
    l.after.tasks[l.task]? = some (Workflow.bind (do
        if l.loaded.isSome then announce l.loaded
        return l.loaded : Workflow World Session) l.andThen) ∧
      l.after.state.login = l.due.state.login.assign l.loaded :=
  Pool.adopt_turn (l.due_task hworks) l.last_of

/-! ### Loads that are not overtaken -/

theorem asked_login (h : p.LeftTo l.task (l.first :: l.between)) :
    l.asked.state.login = p.state.login.noteRead :=
  (h.login_turn l.between_of).trans (l.first_turn hworks).2

theorem known_login (h : l.asked.LeftTo l.task (l.second :: l.judged)) :
    l.known.state.login = l.asked.state.login.noteRead :=
  (h.login_turn l.judged_of).trans (l.second_turn hworks).2

/-- Token and user come from one session, if nobody changes it between their turns. -/
theorem loaded_identity (h : p.LeftTo l.task (l.first :: l.between)) :
    l.loaded.map (fun auth => (auth.token, auth.user)) =
      p.state.login.store.restored.map fun auth => (auth.token, auth.user) := by
  have hp : p.state.login.store.Works := hworks []
  rw [hp.restored_eq_ofTexts, loaded, Pool.stored_of_noteRead (l.asked_login hworks h)]
  exact Session.ofTexts_identity ..

theorem loaded_eq_restored (h : p.LeftTo l.task (l.first :: l.between ++ l.second :: l.judged)) :
    l.loaded = p.state.login.store.restored ∧
      l.loaded = l.known.state.login.store.restored := by
  have hp : p.state.login.store.Works := hworks []
  rcases Pool.leftTo_append.1 h with ⟨hfirst, hsecond⟩
  have hasked := l.asked_login hworks hfirst
  have hknown := l.known_login hworks hsecond
  have hloaded : l.loaded = p.state.login.store.restored := by
    rw [hp.restored_eq_ofTexts, loaded, Pool.stored_of_noteRead hknown,
      Pool.stored_of_noteRead hasked, Pool.stored_of_noteRead hasked]
    rfl
  refine ⟨hloaded, ?_⟩
  rw [hloaded, hknown, hasked]
  exact (hp.tick.restored_tick.trans hp.restored_tick).symm

/-- A load that nobody overtakes makes the stored session the current one, and memory and store
agree. -/
theorem after_agrees (h : p.LeftTo l.task l.moves) :
    l.after.state.login.Agrees ∧ l.loaded = p.state.login.store.restored := by
  rw [moves, ← List.append_assoc, Pool.leftTo_append] at h
  rcases h with ⟨hknown, hrest⟩
  have hsettled := (Pool.leftTo_append.1 hrest).2
  have hloaded := l.loaded_eq_restored hworks hknown
  have hdue : l.due.state.login = (l.known.run l.third.toList).state.login := by
    rw [l.due_eq, Pool.run_append]
    refine Pool.LeftTo.login_run ?_ l.settled_of
    simpa [known, asked] using hsettled
  rw [(l.last_turn hworks).2, hdue]
  exact ⟨(l.third_turn hworks).2 hloaded.2, hloaded.1⟩

end Turns
end Loading

/-! ## Finding a load in a run -/

namespace Pool

variable {α : Type} {p : Pool World α} {i : Nat} {moves : List Move}

/-- A task that is not at its end, and comes to it, has had a turn. -/
theorem exists_turn_of_done {task : Workflow World α} {a : α} (h : p.tasks[i]? = some task)
    (hgoing : task ≠ .done a) (hdone : (p.run moves).tasks[i]? = some (.done a)) :
    ∃ others m rest, moves = others ++ m :: rest ∧ (∀ m' ∈ others, m'.task ≠ i) ∧ m.task = i ∧
      (p.run others).tasks[i]? = some task ∧
      (((p.run others).step m).run rest).tasks[i]? = some (.done a) := by
  -- Had no move been one of the task, it would still be where it was.
  have hne : (p.run moves).tasks[i]? ≠ p.tasks[i]? := fun hsame =>
    hgoing (Option.some.inj ((h.symm.trans hsame.symm).trans hdone))
  rcases exists_turn_of_ne hne with ⟨others, m, rest, rfl, hothers, hm⟩
  exact ⟨others, m, rest, rfl, hothers, hm, (tasks_run_of_ne hothers).trans h, by simpa using hdone⟩

variable {andThen : Session → Workflow World α} {a : α}
  (hworks : ∀ moves, (p.run moves).state.login.store.Works)

include hworks

/-- What is left of a load, once the verdict is known, takes one turn or two. -/
theorem exists_settling {verdict : StoredSession.Verdict}
    (hwaits : p.tasks[i]? = some (Workflow.bind (LoadPersisted.afterVerdict verdict) andThen))
    (hdone : (p.run moves).tasks[i]? = some (.done a)) :
    ∃ (judged : List Move) (third : Option Move) (settled : List Move) (last : Move)
      (since : List Move),
      moves = judged ++ (third.toList ++ settled) ++ last :: since ∧
        (∀ m ∈ judged, m.task ≠ i) ∧ (∀ m ∈ third, m.task = i) ∧
        (third = none ↔ verdict = .absent) ∧ (∀ m ∈ settled, m.task ≠ i) ∧ last.task = i := by
  have hgoing : Workflow.bind (LoadPersisted.afterVerdict verdict) andThen ≠ .done a := by
    cases verdict <;> nofun
  rcases exists_turn_of_done hwaits hgoing hdone with
    ⟨judged, m, rest, rfl, hjudged, hm, hstill, hrest⟩
  by_cases hverdict : verdict = .absent
  · exact ⟨judged, none, [], m, rest, by simp, hjudged, nofun, by simp [hverdict], nofun, hm⟩
  · -- This turn purges the store or reads the seller, and the last one is still to come.
    rcases verdict_turn hverdict hstill hm (hworks judged) with ⟨session, hnext⟩
    rcases exists_turn_of_done hnext nofun hrest with ⟨settled, last, since, rfl, hsettled, hlast, -⟩
    exact ⟨judged, some m, settled, last, since, by simp, hjudged, by simpa using hm,
      by simpa using hverdict, hsettled, hlast⟩

/-- A load that has been finished has taken its turns. -/
theorem exists_loading (hwaits : p.tasks[i]? = some (loadPersisted >>= andThen))
    (hdone : (p.run moves).tasks[i]? = some (.done a)) :
    ∃ earlier since, ∃ l : Loading (p.run earlier), l.task = i ∧ l.andThen = andThen ∧
      moves = earlier ++ l.moves ++ l.last :: since := by
  have hload := hwaits
  rw [LoadPersisted.loadPersisted_eq_bind] at hload
  rcases exists_turn_of_done hload nofun hdone with
    ⟨earlier, first, rest, rfl, hearlier, hfirst, hstill, hdone⟩
  have hasked := (read_turn hstill hfirst (hworks earlier)).1
  rcases exists_turn_of_done hasked nofun hdone with
    ⟨between, second, rest, rfl, hbetween, hsecond, hstill, hdone⟩
  have hreached (more : List Move) : ((p.run earlier).step first).run more =
      p.run (earlier ++ first :: more) := by simp
  have hknown := (read_turn hstill hsecond (hreached between ▸ hworks _)).1
  rcases exists_settling (fun more => by simpa using hworks (earlier ++ first :: between ++ second :: more))
      hknown hdone with
    ⟨judged, third, settled, last, since, rfl, hjudged, hthird, hnone, hsettled, hlast⟩
  refine ⟨earlier, since, ⟨i, andThen, (tasks_run_of_ne hearlier).trans hwaits, first, hfirst, between,
    hbetween, second, hsecond, judged, hjudged, third, hthird, hnone, settled, hsettled, last, hlast⟩,
    rfl, rfl, ?_⟩
  simp [Loading.moves]

end Pool

/-! ## After the load -/

/-- A step that does nothing to the login but changing the session leaves the login as it was, or
brings memory and store to agree. -/
theorem World.Step.agrees {first : Login} {w w' : World}
    (h : World.Step (fun step => ∃ change, step = .change change) w w')
    (hworks : w.login.store.Works) (hlogin : w.login = first ∨ w.login.Agrees) :
    w'.login = first ∨ w'.login.Agrees := by
  cases h with
  | stay => exact hlogin
  | emit event => exact hlogin
  | router step => exact hlogin
  | login step hstep =>
      rcases hstep with ⟨change, rfl⟩
      rcases change.agrees_apply hworks with hsame | hagrees
      · rw [← hsame] at hlogin
        exact hlogin
      · exact .inr hagrees

theorem Pool.agrees_run {α : Type} {p : Pool World α}
    (h : ∀ task ∈ p.tasks, task.Guarantees (World.Step fun step => ∃ change, step = .change change))
    (hworks : p.state.login.store.Works) (moves : List Move) :
    (p.run moves).state.login = p.state.login ∨ (p.run moves).state.login.Agrees := by
  have hkeep (w w' : World) (hstep : World.Step (fun step => ∃ change, step = .change change) w w')
      (hw : w.login.store.Works ∧ (w.login = p.state.login ∨ w.login.Agrees)) :
      w'.login.store.Works ∧ (w'.login = p.state.login ∨ w'.login.Agrees) :=
    ⟨hstep.works hw.1, hstep.agrees hw.1 hw.2⟩
  exact (Pool.run_induction (fun _ => .stay) h hkeep ⟨hworks, .inl rfl⟩ moves).2

/-- A load that has made its session current only tells of it. -/
theorem Loading.after_guarantees {client : Client} {ops : List Operation} {w : World}
    {earlier : List Move} (l : Loading ((client.pool ops w).run earlier))
    (hworks : w.login.store.Works) (hlast : l.andThen = fun _ => pure ())
    (hothers : ∀ j op, ops[j]? = some op → op.Loads → j = l.task) :
    ∀ task ∈ l.after.tasks,
      task.Guarantees (World.Step fun step => ∃ change, step = .change change) := by
  intro task htask
  rcases List.mem_iff_getElem?.1 htask with ⟨j, hj⟩
  by_cases hjl : j = l.task
  · subst hjl
    have hafter := (l.last_turn fun more => by
      simpa using Client.pool_works hworks (earlier ++ more)).1
    rw [hlast] at hafter
    cases hj.symm.trans hafter
    refine .bind ?_ fun _ => .pure _
    cases l.loaded with
    | none => exact .pure _
    | some auth => exact .bind (tell_guarantees _ rfl) fun _ => .pure _
  · have hrun : l.after = (client.pool ops w).run (earlier ++ l.moves ++ [l.last]) := by
      simp [Loading.after, Loading.due]
    rw [hrun] at hj
    refine Pool.run_guarantees_at (fun _ => .stay) (fun task htask => ?_) _ task hj
    have hop : (ops[j]?).map (·.perform client) = some task := by simpa [Client.pool] using htask
    rcases Option.map_eq_some_iff.1 hop with ⟨op, hget, rfl⟩
    exact op.guarantees_of_not_loads client fun hloads => hjl (hothers j op hget hloads)

/-- Let a load be under way beside any operations that load nothing themselves, over a store that
works, and let it be finished.  In its last turn it has overruled whoever changed the session before,
and made current the token that its first read found with the user that its second read found.  After
the run memory and store agree exactly if they agreed after that turn, or if the login has been changed
since.  They agree after that turn, and the session is the one that was stored at first, if nobody else
has changed the login from the first turn to the last; and token and user are those of one stored
session if nobody else has changed it between their turns. -/
theorem loaded_session_is_stored_iff (client : Client) (ops : List Operation) (w : World)
    (hworks : w.login.store.Works) (i : Nat) (hload : ops[i]? = some .load)
    (hothers : ∀ j op, ops[j]? = some op → op.Loads → j = i) (moves : List Move)
    (hfinished : ((client.pool ops w).run moves).tasks[i]? = some (.done ())) :
    ∃ earlier since, ∃ l : Loading ((client.pool ops w).run earlier),
      l.task = i ∧ moves = earlier ++ l.moves ++ l.last :: since ∧
        l.after.state.login = l.due.state.login.assign l.loaded ∧
        (∀ auth, l.loaded = some auth →
          ((client.pool ops w).run earlier).stored SessionKey.token = some auth.token ∧
            ∃ text, l.asked.stored SessionKey.user = some text ∧
              decodeStored? User.decode text = some auth.user) ∧
        (((client.pool ops w).run moves).state.login.Agrees ↔
          l.after.state.login.Agrees ∨
            ((client.pool ops w).run moves).state.login ≠ l.after.state.login) ∧
        (((client.pool ops w).run earlier).LeftTo i l.moves → l.after.state.login.Agrees ∧
          l.loaded = ((client.pool ops w).run earlier).state.login.store.restored) ∧
        (((client.pool ops w).run earlier).LeftTo i (l.first :: l.between) →
          l.loaded.map (fun auth => (auth.token, auth.user)) =
            ((client.pool ops w).run earlier).state.login.store.restored.map
              fun auth => (auth.token, auth.user)) := by
  have hpool (more : List Move) : ((client.pool ops w).run more).state.login.store.Works :=
    Client.pool_works hworks more
  have hwaits : (client.pool ops w).tasks[i]? =
      some (loadPersisted >>= fun _ => pure () : Workflow World Unit) := by
    simp [Client.pool, hload, Operation.perform]
  rcases Pool.exists_loading hpool hwaits hfinished with ⟨earlier, since, l, rfl, hlast, rfl⟩
  have hlater (more : List Move) :
      (((client.pool ops w).run earlier).run more).state.login.store.Works := by
    simpa using hpool (earlier ++ more)
  refine ⟨earlier, since, l, rfl, rfl, (l.last_turn hlater).2, fun _ => Session.of_ofTexts, ?_,
    l.after_agrees hlater, l.loaded_identity hlater⟩
  have hrun : (client.pool ops w).run (earlier ++ l.moves ++ l.last :: since) =
      l.after.run since := by
    simp [Loading.after, Loading.due]
  have hafter : l.after.state.login.store.Works := by
    simpa [Loading.after, Loading.due] using hlater (l.moves ++ [l.last])
  -- From here on nobody loads, and every change that is made brings memory and store together.
  have hchanges := Pool.agrees_run (l.after_guarantees hworks hlast hothers) hafter since
  rw [hrun]
  constructor
  · intro hagrees
    by_cases hsame : (l.after.run since).state.login = l.after.state.login
    · exact .inl (hsame ▸ hagrees)
    · exact .inr hsame
  · rintro (hagrees | hchanged)
    · rcases hchanges with hsame | hagain
      · exact hsame ▸ hagrees
      · exact hagain
    · exact hchanges.resolve_left hchanged

/-! ### A login during a load -/

/-- Alice's session stands in the store. -/
def World.alicesStart : World := .fresh World.alices.login.store

/-- A load, and a login of Bob. -/
def loadAndLogin : List Operation := [.load, .change (.establish .bobs)]

/-- The login falls between the reads of the token and of the user. -/
def overtakenLoad : List Move :=
  [{ task := 0 }, { task := 1 }, { task := 1 }] ++ List.replicate 4 { task := 0 }

/-- When both are done, there is Alice's token with Bob as its user in memory, and Bob's session in
the store. -/
theorem overtaken_load_mixes_sessions :
    let p := (Client.pageless.pool loadAndLogin .alicesStart).run overtakenLoad
    p.tasks[0]? = some (.done ()) ∧ p.tasks[1]? = some (.done ()) ∧
      p.state.login.session.map (fun auth => (auth.token, auth.user.username)) =
        some ("a", "bob") ∧
      p.state.login.store.restored.map (fun auth => (auth.token, auth.user.username)) =
        some ("b", "bob") :=
  ⟨rfl, rfl, by decide +kernel, by decide +kernel⟩

theorem overtaken_load_is_finished :
    World.alicesStart.login.store.Works ∧ loadAndLogin[0]? = some .load ∧
      (∀ j op, loadAndLogin[j]? = some op → op.Loads → j = 0) ∧
      ((Client.pageless.pool loadAndLogin .alicesStart).run overtakenLoad).tasks[0]? =
        some (.done ()) ∧
      ∃ earlier, ∃ l : Loading ((Client.pageless.pool loadAndLogin .alicesStart).run earlier),
        ¬ ((Client.pageless.pool loadAndLogin .alicesStart).run earlier).LeftTo 0 l.moves ∧
          ¬ l.after.state.login.Agrees := by
  have hworks : World.alicesStart.login.store.Works := ⟨fun _ _ => rfl, fun _ => rfl⟩
  have hothers : ∀ j op, loadAndLogin[j]? = some op → op.Loads → j = 0 := by
    intro j op hop hloads
    match j with
    | 0 => rfl
    | 1 => cases hop; exact hloads.elim
    | j + 2 => cases hop
  have hdone : ((Client.pageless.pool loadAndLogin .alicesStart).run overtakenLoad).tasks[0]? =
      some (.done ()) := rfl
  -- Memory has Alice's token, and the store has Bob's.
  have hapart : ¬ ((Client.pageless.pool loadAndLogin .alicesStart).run
      overtakenLoad).state.login.Agrees := by
    intro hagrees
    have hmemory : ((Client.pageless.pool loadAndLogin .alicesStart).run
        overtakenLoad).state.login.session.map (·.token) = some "a" := by decide +kernel
    have hstore : Dict.get? ((Client.pageless.pool loadAndLogin .alicesStart).run
        overtakenLoad).state.login.store.entries SessionKey.token = some "b" := by decide +kernel
    rcases Option.map_eq_some_iff.1 hmemory with ⟨auth, hauth, htoken⟩
    have hstored := hagrees.token_stored (Client.pool_works hworks _) hauth
    exact absurd (hstore.symm.trans hstored) (by simp [htoken])
  rcases loaded_session_is_stored_iff Client.pageless loadAndLogin .alicesStart hworks 0 rfl hothers
    overtakenLoad hdone with ⟨earlier, since, l, -, -, -, -, hiff, hleft, -⟩
  have hafter : ¬ l.after.state.login.Agrees := fun hagrees => hapart (hiff.2 (.inl hagrees))
  exact ⟨hworks, rfl, hothers, hdone, earlier, l, fun h => hafter (hleft h).1, hafter⟩

end WebClient
