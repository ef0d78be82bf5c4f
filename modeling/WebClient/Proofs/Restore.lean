import WebClient.Client.World
import WebClient.Proofs.AccountReadBack
import WebClient.Proofs.Mirror
import WebClient.Reply.Envelope

/-!
# Restore — what a client finds when it starts again

Loading reads three keys, one after the other, and each read may fail.  `Store.verdict` says what
the reads of token and user come to, and `run_loadPersisted` says what loading makes of it.

* A session that came from a backend and went into a working store is found again, by every later
  load (`established_session_is_restored`).
* A read that fails counts as broken state, and broken state is removed:
  `load_keeps_stored_session_iff` tells when a session that is in the store survives a load.
-/

namespace WebClient

namespace Store

/-- What the keys of token and user say, read one after the other.  A read that fails counts as
broken state. -/
def verdict (store : Store) : StoredSession.Verdict :=
  match store.read SessionKey.token, store.tick.read SessionKey.user with
  | .ok token, .ok user => StoredSession.judge token user
  | _, _ => .broken

/-- The session that loading comes to. -/
def restored (store : Store) : Session :=
  match store.verdict with
  | .found token user =>
    some { token, user, seller := StoredSession.seller? (store.tick.tick.read SessionKey.seller) }
  | _ => none

/-- The store when the verdict is known: the user is not asked for if the token cannot be read. -/
def judged (store : Store) : Store :=
  match store.read SessionKey.token with
  | .error _ => store.tick
  | .ok _ => store.tick.tick

/-- The store after loading. -/
def loaded (store : Store) : Store :=
  match store.verdict with
  | .absent => store.judged
  | .broken => store.judged.write Login.purgeChanges
  | .found _ _ => store.judged.tick

end Store

/-! ## Running an operation by itself -/

/-- The shared state with another login, after more events. -/
def Wired.update (s : Wired World) (login : Login) (events : List Event) : Wired World :=
  { s with state := { s.state with login, events := s.state.events ++ events } }

/-- What is told of a session that was found. -/
def Session.news (session : Session) : List Event :=
  if session.isSome then [.ofSession session] else []

section Runs

variable (backend : Backend) (s : Wired World)

theorem Wired.update_nil (login : Login) :
    s.update login [] = { s with state := { s.state with login } } := by
  simp [update]

theorem Wired.update_update (login login' : Login) (events : List Event) :
    (s.update login []).update login' events = s.update login' events := by
  simp [update]

theorem run_readKey_bind {α : Type} (key : String)
    (f : Except StorageError (Option String) → Workflow World α) :
    (readKey key >>= f).run backend s =
      (f (s.state.login.store.read key)).run backend (s.update s.state.login.noteRead []) := by
  rw [Wired.update_nil]
  rfl

theorem run_adopt (session : Session) :
    (adopt session : Workflow World Session).run backend s =
      (session, s.update (s.state.login.assign session) session.news) := by
  cases session with
  | none =>
      rw [show Session.news none = [] from rfl, Wired.update_nil]
      rfl
  | some auth => rfl

theorem run_discardStored :
    (discardStored : Workflow World Session).run backend s =
      (none, s.update (s.state.login.purge.assign none) []) := by
  rw [Wired.update_nil]
  rfl

/-- Loading makes the session found the current one, purges broken state, and tells of a session. -/
theorem run_loadPersisted :
    (loadPersisted : Workflow World Session).run backend s =
      (s.state.login.store.restored,
        s.update ⟨s.state.login.store.restored, s.state.login.store.loaded⟩
          s.state.login.store.restored.news) := by
  rcases s with ⟨⟨⟨session, store⟩, router, events⟩, sent⟩
  unfold loadPersisted
  rw [run_readKey_bind]
  dsimp only
  cases htoken : store.read SessionKey.token with
  | error e =>
      -- The user is not asked for.
      have hverdict : store.verdict = .broken := by simp [Store.verdict, htoken]
      simp only [Store.restored, Store.loaded, Store.judged, hverdict, htoken]
      rw [run_discardStored, Wired.update_update]
      rfl
  | ok token =>
      dsimp only
      rw [run_readKey_bind, Wired.update_update]
      change Workflow.run backend (match store.tick.read SessionKey.user with
        | .error _ => _
        | .ok _ => _) _ = _
      cases huser : store.tick.read SessionKey.user with
      | error e =>
          have hverdict : store.verdict = .broken := by simp [Store.verdict, htoken, huser]
          simp only [Store.restored, Store.loaded, Store.judged, hverdict, htoken]
          rw [run_discardStored, Wired.update_update]
          rfl
      | ok user =>
          -- Both reads went well, and what they gave decides.
          have hverdict : store.verdict = StoredSession.judge token user := by
            simp [Store.verdict, htoken, huser]
          simp only [Store.restored, Store.loaded, Store.judged, hverdict, htoken]
          cases StoredSession.judge token user with
          | absent =>
              dsimp only
              rw [run_adopt, Wired.update_update]
              rfl
          | broken =>
              dsimp only
              rw [run_discardStored, Wired.update_update]
              rfl
          | found token user =>
              dsimp only
              -- The seller is asked for last, and whatever comes of it the session stays.
              rw [run_readKey_bind, run_adopt, Wired.update_update, Wired.update_update]
              rfl

end Runs

/-! ## What backends deliver -/

/-- Whether a value stands in the data of a successful answer, however the backend words it. -/
def Json.Delivered (value : Json) : Prop :=
  ∃ (convention : Convention) (status : Nat) (body : String) (message : Option String)
    (data : Json), convention.normalize status body = .ok (.success message (some data)) ∧
      value.PartOf data

theorem Envelope.data_mem {α : Type} {name : String} {decode : Json → Json.Decoded α}
    {members : List (String × Json)} {parts : Parts α} {data : Json}
    (h : decodeParts name decode members = .ok parts) (hdata : parts.data = some data) :
    ∃ entry ∈ members, entry.2 = data := by
  simp only [decodeParts, Json.Decoded.bind_eq_ok_iff] at h
  obtain ⟨_, _, _, _, _, _, found, hfound, hparts⟩ := h
  cases hparts
  subst hdata
  rcases Json.exists_of_optional hfound with hnone | ⟨entry, hentry, hvalue⟩
  · cases hnone
  · exact ⟨entry, hentry, Except.ok.inj (Json.exists_of_decodeOptional hvalue)⟩

theorem Convention.data_mem {convention : Convention} {status : Nat}
    {members : List (String × Json)} {message : Option String} {data : Json}
    (h : convention.read status members = .ok (.success message (some data))) :
    ∃ entry ∈ members, entry.2 = data := by
  -- Either form is decoded in parts, and the data is one of the parts.
  have hflag : Envelope.ofSuccessFlag status members = .ok (.success message (some data)) →
      ∃ entry ∈ members, entry.2 = data := by
    intro hread
    unfold Envelope.ofSuccessFlag at hread
    split at hread
    · cases hread
    · rename_i parts hparts
      have hdata : parts.data = some data := by grind
      exact Envelope.data_mem hparts hdata
  have hcode : Envelope.ofStatusCode members = .ok (.success message (some data)) →
      ∃ entry ∈ members, entry.2 = data := by
    intro hread
    unfold Envelope.ofStatusCode at hread
    split at hread
    · cases hread
    · rename_i parts hparts
      have hdata : parts.data = some data := by grind
      exact Envelope.data_mem hparts hdata
  cases convention with
  | successFlag => exact hflag h
  | statusCode => exact hcode h
  | auto =>
      -- Which of the two forms it is goes by the names of the members.
      unfold Convention.read at h
      split at h
      · exact hflag h
      · exact hcode h
      · split at h
        · exact hflag h
        · exact hcode h
        · cases h

theorem Json.Delivered.depth_le {value : Json} (h : value.Delivered) :
    value.depth ≤ maxDepth := by
  rcases h with ⟨convention, status, body, message, data, hreply, hpart⟩
  unfold Convention.normalize at hreply
  split at hreply
  · split at hreply <;> cases hreply
  · rename_i members hparse
    -- The body was read as a text, and texts are nested no deeper than the reader goes.
    rcases Convention.data_mem hreply with ⟨entry, hentry, hdata⟩
    have hwhole : value.PartOf (.object members) := .member hentry (hdata ▸ hpart)
    exact hwhole.depth_le.trans (depth_of_parse? hparse)
  · cases hreply

/-! ## Stores that work -/

/-- Every operation on the store succeeds. -/
structure Store.Works (store : Store) : Prop where
  read : ∀ time key, store.faults.read time key = false
  write : ∀ time, store.faults.write time = false

namespace Store

variable {store : Store}

theorem Works.tick (h : store.Works) : store.tick.Works := ⟨h.read, h.write⟩

theorem Works.read_eq (h : store.Works) (key : String) :
    store.read key = .ok (Dict.get? store.entries key) := by
  simp [Store.read, h.read]

theorem Works.write_eq (h : store.Works) (changes : List Change) :
    store.write changes =
      { store.tick with entries := Change.applyAll changes store.entries } := by
  simp [Store.write, Store.refuses, h.write]

end Store

/-- A session that is read from its own image. -/
structure AuthSession.ReadsBack (auth : AuthSession) : Prop where
  token : auth.token ≠ ""
  user : decodeStored? User.decode auth.user.toJson.compact = some auth.user
  seller : ∀ profile ∈ auth.seller,
    decodeStored? SellerProfile.decode profile.toJson.compact = some profile

/-- Whether a store holds the image of a session. -/
def Store.Holds (store : Store) (auth : AuthSession) : Prop :=
  ∀ key ∈ SessionKey.all, Dict.get? store.entries key = Session.image (some auth) key

section Restored

variable {store : Store} {auth : AuthSession}

theorem Store.Works.holds_establish {login : Login} (h : login.store.Works) (auth : AuthSession) :
    (login.establish auth).store.Holds auth := by
  intro key hkey
  simp only [Login.establish, h.write_eq, Login.get?_imageOf]
  rw [if_pos hkey]

theorem Store.Works.verdict_eq (hworks : store.Works) (hholds : store.Holds auth)
    (h : auth.ReadsBack) : store.verdict = .found auth.token auth.user := by
  have htoken : store.read SessionKey.token = .ok (some auth.token) := by
    rw [hworks.read_eq, hholds _ (by decide)]
    rfl
  have huser : store.tick.read SessionKey.user = .ok (some auth.user.toJson.compact) := by
    rw [hworks.tick.read_eq]
    exact congrArg Except.ok (hholds _ (by decide))
  simp [Store.verdict, htoken, huser, StoredSession.judge, h.token, h.user]

theorem Store.Works.restored_eq (hworks : store.Works) (hholds : store.Holds auth)
    (h : auth.ReadsBack) : store.restored = some auth := by
  have hseller : StoredSession.seller? (store.tick.tick.read SessionKey.seller) = auth.seller := by
    have himage : Dict.get? store.entries SessionKey.seller =
        auth.seller.map fun profile => profile.toJson.compact := hholds _ (by decide)
    rw [hworks.tick.tick.read_eq]
    change StoredSession.seller? (.ok (Dict.get? store.entries SessionKey.seller)) = _
    rw [himage]
    -- No entry is written for a missing profile, and a missing entry is read as no profile.
    cases hprofile : auth.seller with
    | none => rfl
    | some profile => exact h.seller profile hprofile
  simp only [Store.restored, hworks.verdict_eq hholds h, hseller]

end Restored

/-- A session that is found leaves the entries alone. -/
theorem Store.loaded_of_found {store : Store} {token : String} {user : User}
    (h : store.verdict = .found token user) : store.loaded = store.tick.tick.tick := by
  have hread : ∃ found, store.read SessionKey.token = .ok found := by
    cases htoken : store.read SessionKey.token with
    | error e => simp [Store.verdict, htoken] at h
    | ok found => exact ⟨found, rfl⟩
  rcases hread with ⟨found, htoken⟩
  simp [Store.loaded, Store.judged, h, htoken]

/-! ## Sessions across restarts -/

/-- The same client, or one that has just been made over its store. -/
def Wired.resumed (s : Wired World) (restart : Bool) : Wired World :=
  if restart then ⟨World.fresh s.state.login.store, []⟩ else s

/-- Loads the session once more. -/
def loadAgain (backend : Backend) (s : Wired World) (restart : Bool) : Wired World :=
  ((loadPersisted : Workflow World Session).run backend (s.resumed restart)).2

theorem Wired.resumed_store (s : Wired World) (restart : Bool) :
    (s.resumed restart).state.login.store = s.state.login.store := by
  cases restart <;> rfl

section Restarts

variable {auth : AuthSession}

/-- Loads neither disturb the image of a session nor break the store. -/
theorem holds_loadAgain (backend : Backend) (h : auth.ReadsBack) {s : Wired World}
    (hworks : s.state.login.store.Works) (hholds : s.state.login.store.Holds auth)
    (restarts : List Bool) :
    let store := (restarts.foldl (loadAgain backend) s).state.login.store
    store.Works ∧ store.Holds auth ∧ store.entries = s.state.login.store.entries := by
  induction restarts generalizing s with
  | nil => exact ⟨hworks, hholds, rfl⟩
  | cons restart restarts ih =>
      -- Three reads went by, and nothing was written.
      have hstore : (loadAgain backend s restart).state.login.store =
          s.state.login.store.tick.tick.tick := by
        simp only [loadAgain, run_loadPersisted, Wired.resumed_store]
        exact Store.loaded_of_found (hworks.verdict_eq hholds h)
      have hnext := ih (s := loadAgain backend s restart)
        (by rw [hstore]; exact hworks.tick.tick.tick) (by rw [hstore]; exact hholds)
      have hentries : (loadAgain backend s restart).state.login.store.entries =
          s.state.login.store.entries := by rw [hstore]; rfl
      exact ⟨hnext.1, hnext.2.1, hnext.2.2.trans hentries⟩

/-- A session that was decoded from what a backend delivered, and that a working store was given,
comes back as it was: from the first load of a new client and from every further one, with or
without restarts in between.  The loads leave the entries of the store as they are. -/
theorem established_session_is_restored (backend : Backend) (auth : AuthSession) (s : Wired World)
    (hworks : s.state.login.store.Works) (htoken : auth.token ≠ "")
    (huser : ∃ value, Json.Delivered value ∧ User.decode value = .ok auth.user)
    (hseller : ∀ profile ∈ auth.seller,
      ∃ value, Json.Delivered value ∧ SellerProfile.decode value = .ok profile)
    (huserExtra : Json.membersAreIntegral auth.user.extra = true)
    (hsellerExtra : ∀ profile ∈ auth.seller, Json.membersAreIntegral profile.extra = true)
    (restarts : List Bool) (restart : Bool) :
    let established := ((setAuthenticated auth : Workflow World Unit).run backend s).2
    let later := restarts.foldl (loadAgain backend) (established.resumed true)
    let load := (loadPersisted : Workflow World Session).run backend (later.resumed restart)
    load.1 = some auth ∧ load.2.state.login.session = some auth ∧
      load.2.state.login.store.entries = established.state.login.store.entries := by
  intro established later load
  have hreads : auth.ReadsBack := by
    refine ⟨htoken, ?_, ?_⟩
    · rcases huser with ⟨value, hvalue, hdecode⟩
      exact User.decodeStored?_compact hdecode hvalue.depth_le huserExtra
    · intro profile hprofile
      rcases hseller profile hprofile with ⟨value, hvalue, hdecode⟩
      exact SellerProfile.decodeStored?_compact hdecode hvalue.depth_le
        (hsellerExtra profile hprofile)
  -- The store works and holds the image of the session; loads keep that, whatever is in memory.
  have hstart : established.state.login = s.state.login.establish auth := rfl
  have hlater := holds_loadAgain backend hreads (s := established.resumed true)
    (by
      rw [Wired.resumed_store, hstart, Login.establish, hworks.write_eq]
      exact ⟨hworks.read, hworks.write⟩)
    (by
      rw [Wired.resumed_store, hstart]
      exact hworks.holds_establish auth) restarts
  rw [Wired.resumed_store] at hlater
  have hload : load = _ := run_loadPersisted backend (later.resumed restart)
  rw [Wired.resumed_store] at hload
  have hrestored : later.state.login.store.restored = some auth :=
    hlater.1.restored_eq hlater.2.1 hreads
  have hloaded := Store.loaded_of_found (hlater.1.verdict_eq hlater.2.1 hreads)
  rw [hload]
  refine ⟨hrestored, hrestored, ?_⟩
  change later.state.login.store.loaded.entries = established.state.login.store.entries
  rw [hloaded]
  exact hlater.2.2

end Restarts

/-- Alice's account, with fields that the client does not know. -/
def alicesAccount : Json :=
  .object [("id", .int 1), ("limits", .array [.int (-1), .int 18446744073709551615, .null]),
    ("role", .string "editor"), ("username", .string "alice")]

def alicesShop : Json := .object [("rating", .int 5), ("shop_name", .string "\"A\" & co")]

/-- An answer that carries both. -/
def alicesLogin : Json :=
  .object [("data", .object [("seller", alicesShop), ("user", alicesAccount)]),
    ("success", .bool true)]

/-- The session that Alice gets. -/
def AuthSession.delivered : AuthSession where
  token := "a"
  user :=
    { id := 1, username := "alice", role := .other "editor"
      extra := [("limits", .array [.int (-1), .int 18446744073709551615, .null])] }
  seller := some { shopName := some "\"A\" & co", extra := [("rating", .int 5)] }

theorem alicesLogin_delivers {entry : String × Json}
    (h : entry ∈ [("seller", alicesShop), ("user", alicesAccount)]) : entry.2.Delivered := by
  have hparse : Json.parse? alicesLogin.compact = some alicesLogin.canonical := by
    rw [Json.parse?, Json.read?_compact (by decide) (by decide)]
    rfl
  refine ⟨.auto, 200, alicesLogin.compact, none, _, ?_, .member h .whole⟩
  rw [Convention.normalize, hparse]
  rfl

/-- Alice's session is the same after a restart, after another load, and after a second restart. -/
theorem alices_session_is_restored :
    let s : Wired World := ⟨World.fresh (.working [("theme", "dark")]), []⟩
    let established :=
      ((setAuthenticated .delivered : Workflow World Unit).run Backend.unreachable s).2
    let later := [false, true].foldl (loadAgain Backend.unreachable) (established.resumed true)
    let load := (loadPersisted : Workflow World Session).run Backend.unreachable later
    load.1 = some .delivered ∧ load.2.state.login.session = some .delivered ∧
      load.2.state.login.store.entries = established.state.login.store.entries := by
  refine established_session_is_restored _ _ _ ⟨fun _ _ => rfl, fun _ => rfl⟩ (by decide)
    ⟨alicesAccount, alicesLogin_delivers (.tail _ (.head _)), rfl⟩ ?_ (by decide) ?_ [false, true]
    false
  · rintro profile ⟨⟩
    exact ⟨alicesShop, alicesLogin_delivers (.head _), rfl⟩
  · rintro profile ⟨⟩
    decide

/-! ## Reads that fail -/

section FailingReads

variable {store : Store} {token text : String} {user : User}

/-- Whether the read of a key fails that comes after `earlier` other operations. -/
def Store.failsAfter (store : Store) (earlier : Nat) (key : String) : Bool :=
  store.faults.read (store.clock + earlier) key

/-- Whether loading cannot read the token or the user. -/
def Store.isBlind (store : Store) : Bool :=
  store.failsAfter 0 SessionKey.token || store.failsAfter 1 SessionKey.user

/-- Whether the store would refuse the purge that follows a failed read. -/
def Store.refusesPurge (store : Store) : Bool :=
  store.judged.refuses Login.purgeChanges

theorem Store.not_fails_of_read {key : String} {found : Option String}
    (h : store.read key = .ok found) : store.faults.read store.clock key = false := by
  unfold Store.read at h
  split at h
  · cases h
  · rename_i hfine
    exact Bool.eq_false_of_not_eq_true hfine

theorem Store.verdict_of_isBlind (h : store.isBlind = true) : store.verdict = .broken := by
  unfold Store.verdict
  split
  · rename_i htoken huser
    have hsighted : store.isBlind = false :=
      Bool.or_eq_false_iff.2 ⟨not_fails_of_read htoken, not_fails_of_read huser⟩
    exact absurd h (by simp [hsighted])
  · rfl

theorem Store.verdict_of_sighted (h : store.isBlind = false)
    (htoken : Dict.get? store.entries SessionKey.token = some token) (hnonempty : token ≠ "")
    (huser : Dict.get? store.entries SessionKey.user = some text)
    (hdecode : decodeStored? User.decode text = some user) :
    store.verdict = .found token user := by
  have hsighted : store.failsAfter 0 SessionKey.token = false ∧
      store.failsAfter 1 SessionKey.user = false := by simpa [Store.isBlind] using h
  have hreadToken : store.read SessionKey.token = .ok (some token) := by
    have hfine : store.faults.read store.clock SessionKey.token = false := hsighted.1
    simp [Store.read, hfine, htoken]
  have hreadUser : store.tick.read SessionKey.user = .ok (some text) := by
    have hfine : store.faults.read (store.clock + 1) SessionKey.user = false := hsighted.2
    simp [Store.read, Store.tick, hfine, huser]
  simp [Store.verdict, hreadToken, hreadUser, StoredSession.judge, hnonempty, hdecode]

theorem Store.entries_loaded_of_broken (h : store.verdict = .broken) :
    store.loaded.entries =
      if store.refusesPurge then store.entries
      else Change.applyAll Login.purgeChanges store.entries := by
  have hjudged : store.judged.entries = store.entries := by
    unfold Store.judged
    split <;> rfl
  simp only [Store.loaded, h, Store.refusesPurge]
  by_cases hrefuses : store.judged.refuses Login.purgeChanges = true
  · simpa [Store.write, Store.tick, hrefuses] using hjudged
  · simp [Store.write, hrefuses, hjudged]

end FailingReads

/-- Let the store hold a token and a user that can be made out, and let any reads fail.  A failing
read of the token or of the user ends the session, while a failing read of the seller profile costs
only the profile.  The stored session stays exactly if token and user could both be read or the
store refuses to be purged; otherwise all of it is gone, and nothing else. -/
theorem load_keeps_stored_session_iff (backend : Backend) (s : Wired World) {token text : String}
    {user : User} (htoken : Dict.get? s.state.login.store.entries SessionKey.token = some token)
    (hnonempty : token ≠ "")
    (huser : Dict.get? s.state.login.store.entries SessionKey.user = some text)
    (hdecode : decodeStored? User.decode text = some user) :
    let store := s.state.login.store
    let load := (loadPersisted : Workflow World Session).run backend s
    let entries := load.2.state.login.store.entries
    (load.1 =
        if store.isBlind then none
        else some { token, user,
                    seller := StoredSession.seller? (store.tick.tick.read SessionKey.seller) }) ∧
      (entries = store.entries ↔ store.isBlind = false ∨ store.refusesPurge = true) ∧
      (entries ≠ store.entries → ∀ key, Dict.get? entries key =
        if key ∈ SessionKey.all then none else Dict.get? store.entries key) := by
  intro store load entries
  have hload : load = _ := run_loadPersisted backend s
  have hresult : load.1 = store.restored := by rw [hload]
  have hentries : entries = store.loaded.entries := by
    change load.2.state.login.store.entries = _
    rw [hload]
    rfl
  rw [hresult, hentries]
  cases hblind : store.isBlind with
  | false =>
      have hfound := Store.verdict_of_sighted hblind htoken hnonempty huser hdecode
      have hkept : store.loaded.entries = store.entries := by
        rw [Store.loaded_of_found hfound]
        rfl
      simp [Store.restored, hfound, hkept]
  | true =>
      have hbroken := Store.verdict_of_isBlind hblind
      rw [Store.entries_loaded_of_broken hbroken]
      refine ⟨by simp [Store.restored, hbroken], ?_⟩
      cases hrefuses : store.refusesPurge with
      | true => simp
      | false =>
          -- The token was there, and is not any more.
          have hgone : Change.applyAll Login.purgeChanges store.entries ≠ store.entries := by
            intro hsame
            have hnone := Login.get?_purgeChanges store.entries SessionKey.token
            rw [hsame, htoken, if_pos (by decide)] at hnone
            cases hnone
          simpa [hgone] using Login.get?_purgeChanges store.entries

/-- Alice's session in a store that cannot read one of the keys, and whose reads and writes are fine
otherwise. -/
def Store.forgetful (key : String) : Store where
  entries := World.alices.login.store.entries
  faults := ⟨fun _ asked => asked == key, fun _ => false⟩

/-- One failing read of the token, and the session is gone for good. -/
theorem failing_read_purges_session :
    let load := (loadPersisted : Workflow World Session).run Backend.unreachable
      ⟨World.fresh (.forgetful SessionKey.token), []⟩
    Dict.get? (Store.forgetful SessionKey.token).entries SessionKey.token = some "a" ∧
      ((Dict.get? (Store.forgetful SessionKey.token).entries SessionKey.user).bind
        (decodeStored? User.decode)).isSome = true ∧
      load.2.state.login.store.entries = [] := by
  decide +kernel

theorem failing_read_of_seller_keeps_session :
    let store := Store.forgetful SessionKey.seller
    let load := (loadPersisted : Workflow World Session).run Backend.unreachable
      ⟨World.fresh store, []⟩
    load.1 = some .alices ∧ load.2.state.login.store.entries = store.entries := by
  intro store load
  have huser : decodeStored? User.decode AuthSession.alices.user.toJson.compact =
      some AuthSession.alices.user := by
    rw [decodeStored?, Json.read?_compact (by decide) (by decide)]
    rfl
  have h := load_keeps_stored_session_iff Backend.unreachable ⟨World.fresh store, []⟩
    (show Dict.get? store.entries SessionKey.token = some "a" from rfl) (by decide) rfl huser
  exact ⟨h.1, h.2.1.2 (.inl rfl)⟩

end WebClient
