import WebClient.Proofs.Rows
import WebClient.Store.Disk

/-!
# SessionStores — a map and a database, asked the same

A session is kept in a map of the process or in a database.  Asked for the same in the same order
they answer the same, except that a database may refuse a batch of changes, as a whole.

* `OpenStore.answers` are the answers of an open store to a list of calls.
* `Change.latest?` is what the last change of a key says.
* `Disk.connect_again`: a file that has been opened is opened again as it is.
* `OpenStore.answer_cases` compares one answer with the answer of a map, `OpenStore.answers_mapped`
  all of them; `session_stores_agree` says what follows for what is read.
-/

namespace WebClient

/-! ## Calls and answers -/

/-- What is asked of a store. -/
inductive StoreCall where
  | write (changes : List Change)
  | remove (keys : List String)
  | get (key : String)
  | entries

/-- The changes that a call asks for. -/
def StoreCall.changes : StoreCall → List Change
  | .write changes => changes
  | .remove keys => Change.removals keys
  | .get _ | .entries => []

/-- What a store answers. -/
inductive StoreAnswer where
  | written
  | refused (error : StorageError)
  | value (value : Option String)
  | listing (entries : Dict String)
  deriving DecidableEq

/-- Whether a call has been turned down. -/
def StoreAnswer.isRefused : StoreAnswer → Bool
  | .refused _ => true
  | .written | .value _ | .listing _ => false

/-- The calls that have not been turned down, with their answers. -/
def StoreAnswer.kept (answers : List (StoreCall × StoreAnswer)) : List (StoreCall × StoreAnswer) :=
  answers.filter fun answer => !answer.2.isRefused

/-- The changes that have been made, by the answers to their calls. -/
def StoreAnswer.accepted (answers : List (StoreCall × StoreAnswer)) : List Change :=
  (kept answers).flatMap fun answer => answer.1.changes

/-- What the last change of a key says, if there is one. -/
def Change.latest? (changes : List Change) (key : String) : Option (Option String) :=
  (changes.reverse.find? (·.1 = key)).map (·.2)

/-- An open store, and the disk that it is on. -/
structure OpenStore where
  connection : Connection
  disk : Disk

namespace OpenStore

/-- A store that is kept in a map. -/
def mapped (entries : Dict String) : OpenStore := ⟨⟨.map entries, false⟩, {}⟩

def entries (store : OpenStore) : Dict String := store.connection.entries store.disk

def get? (store : OpenStore) (key : String) : Option String :=
  store.connection.get? store.disk key

/-- Makes a batch of changes; a store that refuses it stays as it is. -/
def attempt (store : OpenStore) (faults : TransactionFaults) (changes : List Change) :
    StoreAnswer × OpenStore :=
  match store.connection.attempt store.disk faults changes with
  | .ok (connection, disk) => (.written, ⟨connection, disk⟩)
  | .error error => (.refused error, store)

/-- What a store answers, and what becomes of it. -/
def answer (store : OpenStore) (faults : TransactionFaults) : StoreCall → StoreAnswer × OpenStore
  | .write changes => store.attempt faults changes
  | .remove keys => store.attempt faults (Change.removals keys)
  | .get key => (.value (store.get? key), store)
  | .entries => (.listing store.entries, store)

/-- The answers to calls, each with what goes wrong meanwhile. -/
def answers (store : OpenStore) :
    List (StoreCall × TransactionFaults) → List (StoreCall × StoreAnswer) × OpenStore
  | [] => ([], store)
  | (call, faults) :: rest =>
    let (answer, store) := store.answer faults call
    let (answers, store) := store.answers rest
    ((call, answer) :: answers, store)

/-- Stores as they can be opened: in a map, or on a disk by a URL. -/
inductive Opened : OpenStore → Prop where
  | map (disk : Disk) : Opened ⟨.inMemory, disk⟩
  | database {disk disk' : Disk} {url : String} {connection : Connection}
      (h : disk.connect url = (.ok connection, disk')) : Opened ⟨connection, disk'⟩

end OpenStore

/-! ## Opening a file again -/

namespace Disk

/-- Whether there is a database at a place. -/
def hasDatabase (disk : Disk) (place : Place) : Prop :=
  ∃ table, disk.file? place = some (.database table)

variable {disk disk' later : Disk} {place : Place} {parts : List String} {path url : String}
  {target : Target} {connection : Connection}

theorem isDirectory_mono (h : disk.directories ⊆ disk'.directories)
    (hplace : disk.isDirectory place = true) : disk'.isDirectory place = true := by
  unfold isDirectory at hplace ⊢
  rw [Bool.or_eq_true, List.contains_iff_mem] at hplace ⊢
  exact hplace.imp_right fun hmem => h hmem

theorem directories_subset_createAlong (disk : Disk) (place : Place) (parts : List String) :
    disk.directories ⊆ (disk.createAlong place parts).2.directories := by
  induction parts generalizing disk place with
  | nil => exact List.Subset.refl _
  | cons component rest ih =>
      unfold createAlong
      dsimp only
      split
      · exact ih disk _
      · split
        · exact List.Subset.refl _
        · exact List.Subset.trans (List.subset_append_left _ _)
            (ih { disk with directories := disk.directories ++ [place.follow component] } _)

/-- Where directories have been created, there is nothing left to create. -/
theorem createAlong_again (h : disk.createAlong place parts = (true, disk'))
    (hlater : disk'.directories ⊆ later.directories) :
    later.createAlong place parts = (true, later) := by
  induction parts generalizing disk place with
  | nil => rfl
  | cons component rest ih =>
      have hkept := directories_subset_createAlong disk place (component :: rest)
      rw [h] at hkept
      unfold createAlong at h ⊢
      dsimp only at h ⊢
      split at h
      · rename_i hnext
        rw [if_pos (isDirectory_mono (List.Subset.trans hkept hlater) hnext)]
        exact ih h
      · split at h
        · cases h
        · -- It is a directory from now on.
          have hcreated := directories_subset_createAlong
            { disk with directories := disk.directories ++ [place.follow component] }
            (place.follow component) rest
          rw [h] at hcreated
          have hmem : place.follow component ∈ later.directories :=
            hlater (hcreated (List.mem_append_right _ (List.mem_singleton.2 rfl)))
          have hnext : later.isDirectory (place.follow component) = true := by
            simp [isDirectory, hmem]
          rw [if_pos hnext]
          exact ih h

theorem createDirectories_again (h : disk.createDirectories path = (true, disk'))
    (hlater : disk'.directories ⊆ later.directories) :
    later.createDirectories path = (true, later) := by
  unfold createDirectories at h ⊢
  split at h
  · cases h
  · rename_i hlength
    rw [if_neg hlength]
    exact createAlong_again h hlater

theorem ensureParent_again (h : disk.ensureParent url = (.ok (), disk'))
    (hlater : disk'.directories ⊆ later.directories) :
    later.ensureParent url = (.ok (), later) := by
  unfold ensureParent at h ⊢
  split at h
  · rfl
  · rename_i parent _
    by_cases hempty : parent = ""
    · rw [if_pos hempty]
    · rw [if_neg hempty] at h ⊢
      cases hcreate : disk.createDirectories parent with
      | mk created disk₁ =>
          rw [hcreate] at h
          cases created with
          | false => cases h
          | true =>
              cases h
              rw [createDirectories_again hcreate hlater]
              rfl

theorem databasePlace?_congr (hlater : later.directories = disk.directories) (path : String) :
    later.databasePlace? path = disk.databasePlace? path := by
  have hdirectory : later.isDirectory = disk.isDirectory := by
    funext place
    unfold isDirectory
    rw [hlater]
  unfold databasePlace?
  rw [hdirectory]

theorem file?_setFile (disk : Disk) (place : Place) (content : FileContent) :
    (disk.setFile place content).file? place = some content := by
  simp [file?, setFile]

theorem hasDatabase_setFile (disk : Disk) (place : Place) (table : Table) :
    (disk.setFile place (.database table)).hasDatabase place :=
  ⟨table, disk.file?_setFile place _⟩

theorem connectFile_of_hasDatabase (hplace : disk.databasePlace? path = some place)
    (h : disk.hasDatabase place) :
    disk.connectFile url path target =
      (.ok ⟨.file place, target.access = .readOnly || target.immutable⟩, disk) := by
  rcases h with ⟨table, htable⟩
  simp only [connectFile, hplace, htable]

theorem connectFile_ok (h : disk.connectFile url path target = (.ok connection, disk')) :
    disk'.directories = disk.directories ∧ ∃ place, disk.databasePlace? path = some place ∧
      connection = ⟨.file place, target.access = .readOnly || target.immutable⟩ ∧
      disk'.hasDatabase place := by
  cases hplace : disk.databasePlace? path with
  | none => simp [connectFile, hplace] at h
  | some place =>
      simp only [connectFile, hplace] at h
      split at h
      · rename_i table htable
        cases h
        exact ⟨rfl, place, rfl, rfl, table, htable⟩
      · split at h
        · cases h
        · rename_i hwritable
          cases h
          simp only [Bool.or_eq_true, not_or, Bool.not_eq_true] at hwritable
          exact ⟨rfl, place, rfl, by rw [hwritable.1.1.1, hwritable.1.1.2]; rfl,
            disk.hasDatabase_setFile place _⟩
      · split at h
        · cases h
        · split at h
          · cases h
          · rename_i hwritable
            cases h
            simp only [Bool.or_eq_true, not_or, Bool.not_eq_true] at hwritable
            exact ⟨rfl, place, rfl, by rw [hwritable.1.1, hwritable.1.2]; rfl,
              disk.hasDatabase_setFile place _⟩

/-- Whoever opens a database opens an empty one of his own, or a file. -/
theorem connect_ok (h : disk.connect url = (.ok connection, disk')) :
    connection = ⟨.memory .empty, false⟩ ∨
      ∃ place, connection.residence = .file place ∧ disk'.hasDatabase place := by
  unfold connect at h
  split at h
  · cases h
  · split at h
    · cases h
    · split at h
      · cases h
      · rename_i target _
        unfold connectTarget at h
        split at h
        · cases h
        · split at h
          · rcases connectFile_ok h with ⟨-, place, -, rfl, hdatabase⟩
            exact .inr ⟨place, rfl, hdatabase⟩
          · split at h <;> cases h
            exact .inl rfl

/-- A database file that has been opened is opened again as it was, whatever has been written to it
since. -/
theorem connect_again (h : disk.connect url = (.ok connection, disk'))
    (hfile : connection.residence = .file place) (hlater : later.directories = disk'.directories)
    (hdatabase : later.hasDatabase place) : later.connect url = (.ok connection, later) := by
  unfold connect at h ⊢
  split at h
  · cases h
  · rename_i disk₁ hparent
    split at h
    · cases h
    · rename_i options hoptions
      split at h
      · cases h
      · rename_i target htarget
        unfold connectTarget at h
        split at h
        · cases h
        · rename_i hlayer
          split at h
          · rename_i path hpath
            rcases connectFile_ok h with ⟨hdirectories, found, hplace, rfl, -⟩
            cases hfile
            rw [hdirectories] at hlater
            rw [ensureParent_again hparent (hlater ▸ List.Subset.refl _)]
            simp only [connectTarget, hlayer, hpath]
            exact connectFile_of_hasDatabase
              ((databasePlace?_congr hlater path).trans hplace) hdatabase
          · split at h <;> cases h
            cases hfile

end Disk

/-! ## What a store answers -/

/-- After a list of changes a key is bound as its last change says, if there is one. -/
theorem Change.get?_latest? (changes : List Change) (entries : Dict String) (key : String) :
    Dict.get? (Change.applyAll changes entries) key =
      (Change.latest? changes key).getD (Dict.get? entries key) := by
  -- From the last change backwards, since the last one of a key decides.
  induction changes using List.reverseRecOn with
  | nil => rfl
  | append_singleton changes change ih =>
      rw [Change.applyAll, List.foldl_append, List.foldl_cons, List.foldl_nil, Change.get?_apply]
      by_cases hkey : change.1 = key
      · simp [Change.latest?, hkey]
      · rw [Change.applyAll] at ih
        simp [Change.latest?, hkey, ih]

namespace OpenStore

variable {store after : OpenStore}

theorem get?_eq (store : OpenStore) (key : String) :
    store.get? key = Dict.get? store.entries key := by
  rcases store with ⟨⟨residence, readOnly⟩, disk⟩
  cases residence with
  | map entries => rfl
  | memory table => exact (table.get?_ordered key).symm
  | file place => exact ((Connection.tableAt disk place).get?_ordered key).symm

/-- A store goes on as a store: on its file, if it is on one. -/
structure Continues (before after : OpenStore) : Prop where
  readOnly : after.connection.readOnly = before.connection.readOnly
  file : ∀ place, before.connection.residence = .file place → before.disk.hasDatabase place →
    after.connection = before.connection ∧
      after.disk.directories = before.disk.directories ∧ after.disk.hasDatabase place

theorem Continues.refl (store : OpenStore) : store.Continues store :=
  ⟨rfl, fun _ _ hdatabase => ⟨rfl, rfl, hdatabase⟩⟩

theorem Continues.trans {first second third : OpenStore} (h : first.Continues second)
    (h' : second.Continues third) : first.Continues third := by
  refine ⟨h'.readOnly.trans h.readOnly, fun place hfile hdatabase => ?_⟩
  rcases h.file place hfile hdatabase with ⟨hconnection, hdirectories, hdatabase'⟩
  rcases h'.file place (hconnection ▸ hfile) hdatabase' with
    ⟨hconnection', hdirectories', hdatabase''⟩
  exact ⟨hconnection'.trans hconnection, hdirectories'.trans hdirectories, hdatabase''⟩

/-- A batch of changes is made as a whole, or it is refused and nothing changes. -/
theorem attempt_cases (store : OpenStore) (faults : TransactionFaults) (changes : List Change) :
    (∃ after, store.attempt faults changes = (.written, after) ∧
      after.entries = Change.applyAll changes store.entries ∧ store.Continues after) ∨
    ∃ error, store.attempt faults changes = (.refused error, store) := by
  -- A map takes every batch, and a database executes it in a transaction.
  rcases store with ⟨⟨residence, readOnly⟩, disk⟩
  cases residence with
  | map entries => exact .inl ⟨_, rfl, rfl, rfl, fun place hfile => by cases hfile⟩
  | memory table =>
      cases htransact : table.transact
          ((⟨.memory table, readOnly⟩ : Connection).faults faults) changes with
      | error e =>
          refine .inr ⟨e, ?_⟩
          simp [attempt, Connection.attempt, htransact, bind, Except.bind]
      | ok table' =>
          refine .inl ⟨⟨⟨.memory table', readOnly⟩, disk⟩, ?_, Table.ordered_of_transact htransact,
            rfl, fun place hfile => by cases hfile⟩
          simp [attempt, Connection.attempt, htransact, bind, Except.bind, pure, Except.pure]
  | file place =>
      cases htransact : (Connection.tableAt disk place).transact
          ((⟨.file place, readOnly⟩ : Connection).faults faults) changes with
      | error e =>
          refine .inr ⟨e, ?_⟩
          simp [attempt, Connection.attempt, htransact, bind, Except.bind]
      | ok table =>
          refine .inl ⟨⟨⟨.file place, readOnly⟩, disk.setFile place (.database table)⟩, ?_, ?_, ?_⟩
          · simp [attempt, Connection.attempt, htransact, bind, Except.bind, pure, Except.pure]
          · simp only [entries, Connection.entries, Connection.tableAt, Disk.file?_setFile]
            exact Table.ordered_of_transact htransact
          · refine ⟨rfl, fun found hfile _ => ?_⟩
            cases hfile
            exact ⟨rfl, rfl, disk.hasDatabase_setFile place table⟩

/-- A call is answered as the map of the entries answers it, or it is refused and changes
nothing. -/
theorem answer_cases (store : OpenStore) (faults : TransactionFaults) (call : StoreCall) :
    (∃ answer after, store.answer faults call = (answer, after) ∧ answer.isRefused = false ∧
      after.entries = Change.applyAll call.changes store.entries ∧ store.Continues after ∧
      (mapped store.entries).answer {} call = (answer, mapped after.entries)) ∨
    ∃ error, store.answer faults call = (.refused error, store) := by
  cases call with
  | write changes =>
      rcases store.attempt_cases faults changes with ⟨after, hattempt, hentries, hfile⟩ | hrefused
      · exact .inl ⟨_, _, hattempt, rfl, hentries, hfile, by rw [hentries]; rfl⟩
      · exact .inr hrefused
  | remove keys =>
      rcases store.attempt_cases faults (Change.removals keys) with
        ⟨after, hattempt, hentries, hfile⟩ | hrefused
      · exact .inl ⟨_, _, hattempt, rfl, hentries, hfile, by rw [hentries]; rfl⟩
      · exact .inr hrefused
  | get key =>
      refine .inl ⟨_, _, rfl, rfl, rfl, Continues.refl store, ?_⟩
      rw [get?_eq]
      rfl
  | entries => exact .inl ⟨_, _, rfl, rfl, rfl, Continues.refl store, rfl⟩

theorem answers_cons {call : StoreCall} {faults : TransactionFaults} {answer : StoreAnswer}
    (h : store.answer faults call = (answer, after))
    (rest : List (StoreCall × TransactionFaults)) :
    store.answers ((call, faults) :: rest) =
      ((call, answer) :: (after.answers rest).1, (after.answers rest).2) := by
  simp only [answers, h]

/-- Calls are answered as the map of the entries answers those that are not refused. -/
theorem answers_mapped (store : OpenStore) (calls : List (StoreCall × TransactionFaults)) :
    (mapped store.entries).answers
        ((StoreAnswer.kept (store.answers calls).1).map fun answer => (answer.1, {})) =
      (StoreAnswer.kept (store.answers calls).1, mapped (store.answers calls).2.entries) ∧
    (store.answers calls).2.entries =
      Change.applyAll (StoreAnswer.accepted (store.answers calls).1) store.entries ∧
    store.Continues (store.answers calls).2 := by
  induction calls generalizing store with
  | nil => exact ⟨rfl, rfl, Continues.refl store⟩
  | cons first rest ih =>
      rcases first with ⟨call, faults⟩
      rcases store.answer_cases faults call with
        ⟨answer, after, hanswer, hkept, hentries, hfile, hmapped⟩ | ⟨error, hrefused⟩
      · rw [answers_cons hanswer]
        rcases ih after with ⟨hrest, hall, hfile'⟩
        have hkeep : StoreAnswer.kept ((call, answer) :: (after.answers rest).1) =
            (call, answer) :: StoreAnswer.kept (after.answers rest).1 := by
          simp [StoreAnswer.kept, hkept]
        refine ⟨?_, ?_, hfile.trans hfile'⟩
        · rw [hkeep, List.map_cons, answers_cons hmapped, hrest]
        · rw [hall, hentries, StoreAnswer.accepted, StoreAnswer.accepted, hkeep, List.flatMap_cons,
            Change.applyAll, Change.applyAll, Change.applyAll, List.foldl_append]
      · -- The calls that follow find the store as it was.
        rw [answers_cons hrefused]
        exact ih store

/-- A store that is not only to be read makes a batch of changes, if nothing goes wrong. -/
theorem attempt_undisturbed (hwritable : store.connection.readOnly = false)
    (changes : List Change) :
    (store.attempt {} changes).1 = .written := by
  rcases store with ⟨⟨residence, readOnly⟩, disk⟩
  cases hwritable
  cases residence with
  | map entries => rfl
  | memory table =>
      rcases table.transact_undisturbed changes with ⟨table', htransact⟩
      simp [attempt, Connection.attempt, Connection.faults, htransact, bind, Except.bind, pure,
        Except.pure]
  | file place =>
      rcases (Connection.tableAt disk place).transact_undisturbed changes with ⟨table, htransact⟩
      simp [attempt, Connection.attempt, Connection.faults, htransact, bind, Except.bind, pure,
        Except.pure]

theorem answer_undisturbed (hwritable : store.connection.readOnly = false) (call : StoreCall) :
    (store.answer {} call).1.isRefused = false := by
  cases call with
  | write changes => exact congrArg StoreAnswer.isRefused (attempt_undisturbed hwritable changes)
  | remove keys =>
      exact congrArg StoreAnswer.isRefused
        (attempt_undisturbed hwritable (Change.removals keys))
  | get key => rfl
  | entries => rfl

/-- Where nothing goes wrong, a store that is not only to be read refuses nothing. -/
theorem kept_of_undisturbed {calls : List (StoreCall × TransactionFaults)}
    (hwritable : store.connection.readOnly = false) (hcalls : ∀ call ∈ calls, call.2 = {}) :
    StoreAnswer.kept (store.answers calls).1 = (store.answers calls).1 := by
  induction calls generalizing store with
  | nil => rfl
  | cons first rest ih =>
      rcases first with ⟨call, faults⟩
      rcases List.forall_mem_cons.1 hcalls with ⟨rfl, hrest⟩
      have hanswered := answer_undisturbed hwritable call
      rcases store.answer_cases {} call with
        ⟨answer, after, hanswer, hkept, -, hcontinues, -⟩ | ⟨error, hrefused⟩
      · rw [answers_cons hanswer]
        have hafter := ih (hcontinues.readOnly.trans hwritable) hrest
        simpa [StoreAnswer.kept, hkept] using hafter
      · rw [hrefused] at hanswered
        cases hanswered

/-- The entries of a store that has been opened ascend. -/
theorem Opened.ascending (h : store.Opened) : store.entries.Ascending := by
  cases h with
  | map disk => exact List.Pairwise.nil
  | database hconnect =>
      rcases Disk.connect_ok hconnect with rfl | ⟨place, hfile, -⟩
      · exact Table.ascending_ordered _
      · rw [entries, Connection.entries]
        dsimp only
        rw [hfile]
        exact Table.ascending_ordered _

end OpenStore

/-! ## Maps and databases -/

/-- A store answers as a map would that is asked for the same, without the batches that the store
refuses; and if nothing goes wrong, it refuses none.

A key is bound as the last change of it says that was made, the entries are those keys in the order
of their bytes, a refused batch changes nothing, and a file that is closed is opened again as it
is. -/
theorem session_stores_agree {store after : OpenStore}
    {calls : List (StoreCall × TransactionFaults)} {answers : List (StoreCall × StoreAnswer)}
    (hopen : store.Opened) (hrun : store.answers calls = (answers, after)) :
    ((OpenStore.mapped store.entries).answers
        ((StoreAnswer.kept answers).map fun answer => (answer.1, {}))).1 =
      StoreAnswer.kept answers ∧
    (store.connection.readOnly = false → (∀ call ∈ calls, call.2 = {}) →
      StoreAnswer.kept answers = answers) ∧
    (∀ key, after.get? key =
      (Change.latest? (StoreAnswer.accepted answers) key).getD (store.get? key)) ∧
    (∀ key value, (key, value) ∈ after.entries ↔ after.get? key = some value) ∧
    after.entries.Pairwise
      (fun before behind => Text.utf8Bytes before.1 < Text.utf8Bytes behind.1) ∧
    (∀ call faults, (after.answer faults call).1.isRefused = true →
      (after.answer faults call).2 = after) ∧
    ∀ (disk : Disk) url place, disk.connect url = (.ok store.connection, store.disk) →
      store.connection.residence = .file place →
      after.disk.connect url = (.ok after.connection, after.disk) := by
  rcases store.answers_mapped calls with ⟨hmapped, hentries, hcontinues⟩
  rw [hrun] at hmapped hentries hcontinues
  have hascending : after.entries.Ascending := by
    rw [hentries]
    exact Change.ascending_applyAll hopen.ascending _
  refine ⟨congrArg Prod.fst hmapped, fun hwritable hcalls => ?_, fun key => ?_, fun key value => ?_,
    hascending.imp fun hlt => Text.utf8Bytes_lt_iff.2 hlt, fun call faults hrefused => ?_,
    fun disk url place hconnect hfile => ?_⟩
  · have hkept := OpenStore.kept_of_undisturbed hwritable hcalls
    rwa [hrun] at hkept
  · rw [OpenStore.get?_eq, OpenStore.get?_eq, hentries, Change.get?_latest?]
  · rw [OpenStore.get?_eq, Dict.get?_eq_some_iff hascending.nodup_keys]
  · rcases after.answer_cases faults call with ⟨answer, _, hanswer, hkept, -⟩ | ⟨error, hanswer⟩
    · rw [hanswer, hkept] at hrefused
      cases hrefused
    · rw [hanswer]
  · have hdatabase : store.disk.hasDatabase place := by
      rcases Disk.connect_ok hconnect with hmemory | ⟨found, hfound, hdatabase⟩
      · rw [hmemory] at hfile
        cases hfile
      · cases hfound.symm.trans hfile
        exact hdatabase
    rcases hcontinues.file place hfile hdatabase with ⟨hsame, hdirectories, hkept⟩
    rw [hsame]
    exact Disk.connect_again hconnect hfile hdirectories hkept

/-- The disk on which a database has just been created. -/
def Disk.withSession : Disk where
  directories := [["data"]]
  files := [(["data", "session.db"], .database .empty)]

/-- A batch that binds a key and removes it again, and a batch that is not committed. -/
def refusedOverwrite : List (StoreCall × TransactionFaults) :=
  [(.write [("b", some "1"), ("a", some "2"), ("b", none)], {}),
    (.write [("b", some "3"), ("a", some "3")], { atCommit := true }),
    (.remove ["c", "b"], {}), (.entries, {})]

/-- Of the refused batch nothing is kept, in the file that is opened again as little as before. -/
theorem session_file_after_a_refused_overwrite :
    let store : OpenStore := ⟨⟨.file ["data", "session.db"], false⟩, .withSession⟩
    let (answers, after) := store.answers refusedOverwrite
    ({} : Disk).connect "sqlite://data/session.db" = (.ok store.connection, store.disk) ∧
      answers.map (·.2) = [.written, .refused .commitFailed, .written, .listing [("a", "2")]] ∧
      after.get? "a" = some "2" ∧ after.get? "b" = none ∧
      after.disk.connect "sqlite://data/session.db" = (.ok after.connection, after.disk) := by
  have hconnect : ({} : Disk).connect "sqlite://data/session.db" =
      (.ok ⟨.file ["data", "session.db"], false⟩, .withSession) := by decide +kernel
  rcases session_stores_agree (.database hconnect)
      (rfl : OpenStore.answers _ refusedOverwrite = _) with ⟨-, -, hget, -, -, -, hagain⟩
  exact ⟨hconnect, by decide +kernel, (hget "a").trans (by decide +kernel),
    (hget "b").trans (by decide +kernel), hagain _ _ _ hconnect rfl⟩

end WebClient
