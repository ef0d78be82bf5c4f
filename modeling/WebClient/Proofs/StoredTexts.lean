import WebClient.Proofs.Restore

/-!
# StoredTexts — what loading makes of the texts in a working store

Any texts may stand under the three keys of a session, and each of the keys may be missing.

* `AuthSession.StoredIn` says which session entries hold, without reading them in order, and
  `Store.Works.restored_eq_some_iff` that loading finds that session and no other.
* `Store.Works.loaded_cases`: a load leaves a store as it is, or takes what is left of a session.
* `load_purges_unless_lone_profile`: where no session is found, the store is left without any of the
  three keys exactly if it did not hold a seller profile and nothing else of a session.
-/

namespace WebClient

/-- Whether entries hold this session: a token that is not empty, a text that the user is read from,
and the seller profile as far as one can be read. -/
structure AuthSession.StoredIn (entries : Dict String) (auth : AuthSession) : Prop where
  token : Dict.get? entries SessionKey.token = some auth.token
  nonempty : auth.token ≠ ""
  user : ∃ text, Dict.get? entries SessionKey.user = some text ∧
    decodeStored? User.decode text = some auth.user
  seller : auth.seller =
    (Dict.get? entries SessionKey.seller).bind (decodeStored? SellerProfile.decode)

/-- Whether a seller profile is all that entries hold of a session. -/
structure Session.OnlyProfileIn (entries : Dict String) : Prop where
  token : Dict.get? entries SessionKey.token = none
  user : Dict.get? entries SessionKey.user = none
  seller : (Dict.get? entries SessionKey.seller).isSome

instance (entries : Dict String) : Decidable (Session.OnlyProfileIn entries) :=
  decidable_of_iff ((Dict.get? entries SessionKey.token).isNone ∧
      (Dict.get? entries SessionKey.user).isNone ∧ (Dict.get? entries SessionKey.seller).isSome)
    ⟨fun h => ⟨by simpa using h.1, by simpa using h.2.1, h.2.2⟩,
      fun h => ⟨by simpa using h.token, by simpa using h.user, h.seller⟩⟩

theorem StoredSession.judge_eq_absent_iff {token user : Option String} :
    judge token user = .absent ↔ token = none ∧ user = none := by
  constructor
  · intro h
    unfold judge at h
    split at h
    · exact ⟨rfl, rfl⟩
    · -- With both texts there is a session, or what is there is broken.
      split at h
      · cases h
      · split at h <;> cases h
    · cases h
  · rintro ⟨rfl, rfl⟩
    rfl

namespace Store

variable {store : Store}

theorem Works.verdict_eq_judge (h : store.Works) :
    store.verdict = StoredSession.judge (Dict.get? store.entries SessionKey.token)
      (Dict.get? store.entries SessionKey.user) := by
  have huser : store.tick.read SessionKey.user =
      .ok (Dict.get? store.entries SessionKey.user) := h.tick.read_eq _
  simp [verdict, h.read_eq, huser]

theorem Works.seller?_eq (h : store.Works) :
    StoredSession.seller? (store.tick.tick.read SessionKey.seller) =
      (Dict.get? store.entries SessionKey.seller).bind
        (decodeStored? SellerProfile.decode) := by
  have hread : store.tick.tick.read SessionKey.seller =
      .ok (Dict.get? store.entries SessionKey.seller) := h.tick.tick.read_eq _
  rw [hread]
  cases Dict.get? store.entries SessionKey.seller <;> rfl

/-- Loading finds the session that the entries hold, and no other. -/
theorem Works.restored_eq_some_iff (h : store.Works) {auth : AuthSession} :
    store.restored = some auth ↔ auth.StoredIn store.entries := by
  constructor
  · intro hrestored
    unfold restored at hrestored
    split at hrestored
    · rename_i token user hverdict
      cases hrestored
      rw [h.verdict_eq_judge, StoredSession.judge_eq_found_iff] at hverdict
      exact ⟨hverdict.1, hverdict.2.1, hverdict.2.2, h.seller?_eq⟩
    · cases hrestored
  · intro hstored
    have hverdict : store.verdict = .found auth.token auth.user := by
      rw [h.verdict_eq_judge, StoredSession.judge_eq_found_iff]
      exact ⟨hstored.token, hstored.nonempty, hstored.user⟩
    simp only [restored, hverdict, h.seller?_eq, ← hstored.seller]

/-- A load leaves the entries of a working store as they are if there is a session, or neither token
nor user.  Otherwise it takes all three keys. -/
theorem Works.loaded_cases (h : store.Works) :
    store.loaded.entries = store.entries ∧
        (store.restored.isSome ∨ Dict.get? store.entries SessionKey.token = none ∧
          Dict.get? store.entries SessionKey.user = none) ∨
      store.loaded.entries = Change.applyAll Login.purgeChanges store.entries ∧
        store.restored = none ∧ ¬ (Dict.get? store.entries SessionKey.token = none ∧
          Dict.get? store.entries SessionKey.user = none) := by
  have hjudge := h.verdict_eq_judge
  cases hverdict : store.verdict with
  | found token user =>
      rw [loaded_of_found hverdict]
      exact .inl ⟨rfl, .inl (by simp [restored, hverdict])⟩
  | absent =>
      have hnone := StoredSession.judge_eq_absent_iff.1 (hjudge.symm.trans hverdict)
      have hjudged : store.loaded = store.tick.tick := by
        simp [loaded, judged, hverdict, h.read_eq]
      rw [hjudged]
      exact .inl ⟨rfl, .inr hnone⟩
  | broken =>
      refine .inr ⟨?_, by simp [restored, hverdict], fun hnone => ?_⟩
      · have hwrite : store.tick.tick.faults.write store.tick.tick.clock = false := h.write _
        have hpermits : store.refusesPurge = false := by
          simp [refusesPurge, judged, h.read_eq, refuses, hwrite]
        rw [entries_loaded_of_broken hverdict, hpermits]
        rfl
      · -- Where neither is there, nothing is broken.
        rw [hjudge, StoredSession.judge_eq_absent_iff.2 hnone] at hverdict
        cases hverdict

end Store

/-- Let a store that works hold anything.  The session in memory is what loading finds: the session
of a token that is there and not empty, a user that is there and readable, and a seller profile if
one is there and readable; and no session otherwise.  Other keys are not touched, and with a session
nothing is.  Without a session, none of the three keys is left exactly if a seller profile was not
all that was there of a session; if it was, it stays. -/
theorem load_purges_unless_lone_profile (backend : Backend) (s : Wired World)
    (hworks : s.state.login.store.Works) :
    let stored := s.state.login.store.entries
    let load := (loadPersisted : Workflow World Session).run backend s
    let entries := load.2.state.login.store.entries
    load.2.state.login.session = load.1 ∧
      (∀ auth, load.1 = some auth ↔ auth.StoredIn stored) ∧
      (∀ key, key ∉ SessionKey.all → Dict.get? entries key = Dict.get? stored key) ∧
      (load.1 ≠ none → entries = stored) ∧
      (load.1 = none →
        ((∀ key ∈ SessionKey.all, Dict.get? entries key = none) ↔
          ¬ Session.OnlyProfileIn stored) ∧
        (Session.OnlyProfileIn stored → entries = stored)) := by
  intro stored load entries
  let store := s.state.login.store
  have hload : load = _ := run_loadPersisted backend s
  have hresult : load.1 = store.restored := by rw [hload]
  have hmemory : load.2.state.login.session = store.restored := by
    rw [hload]
    rfl
  have hentries : entries = store.loaded.entries := by
    change load.2.state.login.store.entries = _
    rw [hload]
    rfl
  rw [hmemory, hresult, hentries]
  have hkeys : SessionKey.token ∈ SessionKey.all ∧ SessionKey.user ∈ SessionKey.all ∧
      SessionKey.seller ∈ SessionKey.all := by decide
  refine ⟨rfl, fun auth => hworks.restored_eq_some_iff, ?_⟩
  rcases hworks.loaded_cases with ⟨hkept, hreason⟩ | ⟨hpurged, hnone, htrace⟩
  · -- Nothing was written.  Without a session, the profile is all that can be there.
    rw [hkept]
    refine ⟨fun _ _ => rfl, fun _ => rfl, fun hnone => ⟨?_, fun _ => rfl⟩⟩
    have habsent := hreason.resolve_left (by simp [store, hnone])
    constructor
    · intro hgone honly
      have hseller := honly.seller
      rw [hgone _ hkeys.2.2] at hseller
      cases hseller
    · intro hnot key hkey
      simp only [SessionKey.all, List.mem_cons, List.not_mem_nil, or_false] at hkey
      rcases hkey with rfl | rfl | rfl
      · exact habsent.1
      · exact habsent.2
      · refine Option.not_isSome_iff_eq_none.1 fun hseller => hnot ⟨habsent.1, habsent.2, hseller⟩
  · -- All three keys were removed, and a token or a user was among them.
    rw [hpurged]
    refine ⟨fun key hkey => ?_, fun hsome => absurd hnone hsome, fun _ => ⟨?_, fun honly => ?_⟩⟩
    · rw [Login.get?_purgeChanges, if_neg hkey]
    · refine iff_of_true (fun key hkey => ?_) fun honly => htrace ⟨honly.token, honly.user⟩
      rw [Login.get?_purgeChanges, if_pos hkey]
    · exact absurd ⟨honly.token, honly.user⟩ htrace

/-- A user without a token, a seller profile that goes with it, and a setting of somebody else: only
the setting is left. -/
theorem half_written_session_is_purged :
    let stored : Dict String :=
      [("current_user", "\x7b\x22id\x22:1,\x22username\x22:\x22alice\x22\x7d"),
       ("seller_profile", "\x7b\x7d"), ("theme", "dark")]
    let load := (loadPersisted : Workflow World Session).run Backend.unreachable
      ⟨World.fresh (.working stored), []⟩
    (Store.working stored).Works ∧ load.1 = none ∧
      (∀ key ∈ SessionKey.all, Dict.get? load.2.state.login.store.entries key = none) ∧
      Dict.get? load.2.state.login.store.entries "theme" = some "dark" := by
  intro stored load
  have hworks : (Store.working stored).Works := ⟨fun _ _ => rfl, fun _ => rfl⟩
  have h := load_purges_unless_lone_profile Backend.unreachable
    ⟨World.fresh (.working stored), []⟩ hworks
  have hnone : load.1 = none := by
    refine Option.eq_none_iff_forall_ne_some.2 fun auth hauth => ?_
    -- There is no token.
    cases ((h.2.1 auth).1 hauth).token
  have hprofile : ¬ Session.OnlyProfileIn stored := by decide
  exact ⟨hworks, hnone, (h.2.2.2.2 hnone).1.2 hprofile, h.2.2.1 "theme" (by decide)⟩

/-- A seller profile by itself is no session, but it is not removed either. -/
theorem lone_profile_outlives_load :
    let load := (loadPersisted : Workflow World Session).run Backend.unreachable
      ⟨World.fresh (.working [("seller_profile", "\x7b\x22id\x22:1\x7d")]), []⟩
    load.1 = none ∧ load.2.state.login.session = none ∧
      Dict.get? load.2.state.login.store.entries SessionKey.seller =
        some "\x7b\x22id\x22:1\x7d" := by
  refine ⟨rfl, rfl, rfl⟩

end WebClient
