import WebClient.Proofs.Itinerary
import WebClient.Proofs.Visit

/-!
# Redirects — where a resolution can be sent

Where a hop can be sent from a path is written in the table: to the login page, if the page asks for
a login or can find that it needs one, and to where the guard of the page says.  The session that is
seen and the replies of the backend only choose among these.

* `Turns.redirects` are the redirects that a task has told of in its turns.
* `Router.SendsAway` says where a path can be left for, and `Router.resolveOnce_ends` that a hop
  comes to no other redirect; `Router.Sends` are the redirects that it does come to.
* `Router.Follows` are the chains of such redirects; `Pool.follows_turns` says that what a
  resolution has told of among other tasks is one of them.
* If a rank of locations falls with each redirect, it bounds the length of these chains
  (`Router.Follows.length_le`), and a limit beyond it is never reached
  (`Router.resolveWithin_eq_of_falls`).
-/

namespace WebClient

/-! ## Redirects that are told of -/

/-- Steps that tell of no redirect. -/
def World.SameRedirects (w w' : World) : Prop := w'.redirects = w.redirects

instance : World.Admits World.SameRedirects (fun _ => True) (fun _ => True) where
  stay := rfl
  tell event h := by simp [World.SameRedirects, World.redirects_emit, h]
  login _ _ := rfl
  router _ _ := rfl

/-- The redirects that are told of in some turns. -/
def Turns.redirects (turns : Turns World) : List (String × String) :=
  turns.flatMap fun turn => turn.2.redirects.drop turn.1.redirects.length

namespace Turns

theorem redirects_append (first rest : Turns World) :
    redirects (first ++ rest) = first.redirects ++ rest.redirects :=
  List.flatMap_append

theorem redirects_of_same {turns : Turns World}
    (h : ∀ turn ∈ turns, World.SameRedirects turn.1 turn.2) : turns.redirects = [] := by
  refine List.flatMap_eq_nil_iff.2 fun turn hturn => ?_
  rw [h turn hturn, List.drop_length]

theorem redirects_tell (w : World) (source target : String) (rest : Turns World) :
    redirects ((w, w.emit (.redirected source target)) :: rest) =
      (source, target) :: rest.redirects := by
  simp [redirects, World.redirects_emit, Event.redirect?]

end Turns

/-! ## Where a path can be left for -/

/-- Whether a page can come to a result, whatever it is replied. -/
def Rendering.CanEnd (result : Except ViewError View) : Rendering → Prop
  | .done found => found = result
  | .fetch _ next => ∃ replies, (next replies).CanEnd result

theorem Gateway.carryOut_ends (g : Gateway) (page : Rendering) :
    (g.carryOut page).Ends fun result => page.CanEnd result := by
  induction page with
  | done result => rfl
  | fetch calls next ih =>
      exact fun replies => (ih replies).mono fun result hresult => ⟨replies, hresult⟩

namespace Router

variable {router : Router} {path asked target : String} {told : List (String × String)}

/-- Where a resolution of a path can be sent, whatever is seen and replied. -/
inductive SendsAway (router : Router) (path : String) : String → Prop where
  | needsLogin (hauth : (router.find path).requiresAuth = true) (haway : path ≠ router.loginPath) :
      SendsAway router path router.loginPath
  | lacksRole {guard : RoleGuard} (hguard : (router.find path).guard = some guard)
      (haway : path ≠ guard.redirect) : SendsAway router path guard.redirect
  | refused (ctx : PageContext)
      (hrefused : ((router.find path).page ctx).CanEnd (.error .unauthorized))
      (haway : path ≠ router.loginPath) : SendsAway router path router.loginPath

/-- Nobody is sent to the path as it stands. -/
theorem SendsAway.ne (h : router.SendsAway path target) : path ≠ target := by
  cases h with
  | needsLogin _ haway => exact haway
  | lacksRole _ haway => exact haway
  | refused _ _ haway => exact haway

theorem sendsAway_of_not_meetsLogin {session : Session} (h : ¬ router.MeetsLogin path session) :
    router.SendsAway path router.loginPath := by
  rcases Classical.not_imp.1 h with ⟨hauth, hclosed⟩
  exact .needsLogin hauth fun hpath => hclosed (.inr hpath)

theorem sendsAway_of_not_meetsRole {session : Session} {guard : RoleGuard}
    (hguard : (router.find path).guard = some guard) (h : ¬ router.MeetsRole path session) :
    router.SendsAway path guard.redirect := by
  refine .lacksRole hguard fun hpath => h fun other hother => ?_
  cases hguard.symm.trans hother
  exact .inr hpath

/-! ### One hop -/

theorem sendToLogin_ends {generation : Nat} {Q : Resolution → Prop}
    (hdone : ∀ view, Q (.done view)) (hlogin : Q (.redirect router.loginPath)) :
    (router.sendToLogin generation).Ends Q := by
  refine .after fun seen => ?_
  cases seen with
  | none => exact hlogin
  | some view => exact hdone view

theorem turnAway_ends {generation : Nat} {guard : RoleGuard} {Q : Resolution → Prop}
    (hdone : ∀ view, Q (.done view)) (hguard : Q (.redirect guard.redirect)) :
    (turnAway guard generation).Ends Q := by
  refine .after fun seen => ?_
  cases seen with
  | none => exact .after fun _ => hguard
  | some view => exact hdone view

theorem conclude_ends {generation : Nat} {result : Except ViewError View} {Q : Resolution → Prop}
    (hdone : ∀ view, Q (.done view))
    (hlogin : result = .error .unauthorized → path ≠ router.loginPath →
      Q (.redirect router.loginPath)) :
    (router.conclude path generation result).Ends Q := by
  have hpresent : ∀ view, (do return .done (← present generation view) :
      Workflow World Resolution).Ends Q :=
    fun view => .after fun shown => hdone shown
  unfold conclude
  split
  · exact hpresent _
  · split
    · rename_i haway
      exact sendToLogin_ends hdone (hlogin rfl (by simpa using haway))
    · exact hpresent _
  · exact hpresent _

/-- A hop is done, or comes to a redirect by which its path can be left. -/
theorem resolveOnce_ends (router : Router) (raw : String) :
    (router.resolveOnce raw).Ends fun resolution =>
      ∀ target, resolution = .redirect target →
        router.SendsAway (Location.parse raw).path target := by
  have hdone : ∀ view target, Resolution.done view = .redirect target →
      router.SendsAway (Location.parse raw).path target := fun _ _ h => nomatch h
  have hsent : ∀ {next}, router.SendsAway (Location.parse raw).path next →
      ∀ target, Resolution.redirect next = .redirect target →
        router.SendsAway (Location.parse raw).path target := by
    rintro next haway _ ⟨⟩
    exact haway
  refine .after fun generation => ?_
  refine .after fun session => ?_
  dsimp only
  rcases router.admission_cases (Location.parse raw).path session with
    ⟨hdecision, hlogin⟩ | ⟨guard, hdecision, -, hguard, hrole⟩ | ⟨hdecision, -⟩
  · rw [hdecision]
    exact sendToLogin_ends hdone (hsent (sendsAway_of_not_meetsLogin hlogin))
  · rw [hdecision]
    exact turnAway_ends hdone (hsent (sendsAway_of_not_meetsRole hguard hrole))
  · rw [hdecision]
    refine .bind (Gateway.carryOut_ends _ _) fun result hresult => ?_
    exact conclude_ends hdone fun herror haway => hsent (.refused _ (herror ▸ hresult) haway)

/-- Whether a hop from a location can come to a redirect, among any other tasks. -/
def Sends (router : Router) (asked target : String) : Prop :=
  ∃ turns, (router.resolveOnce asked).Comes turns (.redirect target)

theorem Sends.sendsAway (h : router.Sends asked target) :
    router.SendsAway (Location.parse asked).path target :=
  h.elim fun _ hcomes => hcomes.ends (router.resolveOnce_ends asked) target rfl

/-! ### Chains -/

/-- The chains of redirects that a resolution can follow from a location on. -/
inductive Follows (router : Router) : String → List (String × String) → Prop where
  | stop (asked : String) : Follows router asked []
  | redirect {asked target : String} {told : List (String × String)}
      (hsends : router.Sends asked target) (hrest : Follows router target told) :
      Follows router asked ((asked, target) :: told)

namespace Follows

/-- A chain may break off anywhere. -/
theorem of_append {rest : List (String × String)} (h : router.Follows asked (told ++ rest)) :
    router.Follows asked told := by
  induction told generalizing asked with
  | nil => exact .stop asked
  | cons redirect told ih =>
      cases h with
      | redirect hsends hrest => exact .redirect hsends (ih hrest)

theorem sends_of_mem {source : String} (h : router.Follows asked told)
    (hmem : (source, target) ∈ told) : router.Sends source target := by
  induction h with
  | stop asked => cases hmem
  | redirect hsends hrest ih =>
      rcases List.mem_cons.1 hmem with hfirst | hmem
      · cases hfirst
        exact hsends
      · exact ih hmem

/-- If a rank falls with every redirect, there are no more redirects than that. -/
theorem length_le {rank : String → Nat}
    (hfalls : ∀ asked target, router.SendsAway (Location.parse asked).path target →
      rank target < rank asked)
    (h : router.Follows asked told) : told.length ≤ rank asked := by
  induction h with
  | stop asked => exact Nat.zero_le _
  | @redirect asked target told hsends hrest ih =>
      exact Nat.succ_le_of_lt (lt_of_le_of_lt ih (hfalls asked target hsends.sendsAway))

end Follows

theorem resolveOnce_tells_nothing {raw : String} {turns : Turns World} {resolution : Resolution}
    (h : (router.resolveOnce raw).Comes turns resolution) : turns.redirects = [] :=
  Turns.redirects_of_same (h.guaranteed (fun _ => rfl)
    (resolveOnce_guarantees trivial (fun _ => trivial) (fun _ _ => trivial) router raw))

/-- What a resolution tells of is a chain of redirects. -/
theorem follows_of_comes {hops : Nat} {turns : Turns World} {view : ViewState}
    (h : (router.resolveWithin hops asked).Comes turns view) :
    router.Follows asked turns.redirects := by
  induction hops generalizing asked turns with
  | zero =>
      have hnothing : (router.resolveWithin 0 asked).Guarantees World.SameRedirects :=
        .bind (begin_guarantees _ trivial) fun generation =>
          present_guarantees generation _ trivial
      rw [Turns.redirects_of_same (h.guaranteed (fun _ => rfl) hnothing)]
      exact .stop asked
  | succ hops ih =>
      rw [resolveWithin_succ] at h
      rcases Workflow.comes_bind_iff.1 h with ⟨first, resolution, rest, rfl, hfirst, hrest⟩
      rw [Turns.redirects_append, resolveOnce_tells_nothing hfirst, List.nil_append]
      cases resolution with
      | done shown =>
          rcases Workflow.comes_pure_iff.1 hrest with ⟨rfl, -⟩
          exact .stop asked
      | redirect next =>
          -- The redirect is told of, the history is changed, and the resolution starts over.
          rcases Workflow.comes_bind_iff.1 hrest with ⟨tell, _, later, rfl, htell, hlater⟩
          rcases comes_publish_iff.1 htell with ⟨w, rfl⟩
          rcases Workflow.comes_bind_iff.1 hlater with ⟨change, _, last, rfl, hchange, hlast⟩
          rcases Workflow.comes_modifyGet_iff.1 hchange with ⟨w', rfl, -⟩
          have hsilent : Turns.redirects [(w', { w' with router := w'.router.replace asked next })]
              = [] := Turns.redirects_of_same (by simp [World.SameRedirects, World.redirects])
          have htold : Turns.redirects ([(w, w.emit (.redirected asked next))] ++
              ([(w', { w' with router := w'.router.replace asked next })] ++ last)) =
                (asked, next) :: Turns.redirects last := by
            rw [List.singleton_append, Turns.redirects_tell, Turns.redirects_append, hsilent,
              List.nil_append]
          exact htold ▸ .redirect ⟨first, hfirst⟩ (ih hlast)

/-- A limit that is beyond a rank that falls with every redirect is never reached: it makes no
difference which one it is. -/
theorem resolveWithin_eq_of_falls {rank : String → Nat}
    (hfalls : ∀ asked target, router.SendsAway (Location.parse asked).path target →
      rank target < rank asked) {hops hops' : Nat} (h : rank asked < hops)
    (h' : rank asked < hops') :
    router.resolveWithin hops asked = router.resolveWithin hops' asked := by
  induction hops generalizing asked hops' with
  | zero => exact absurd h (Nat.not_lt_zero _)
  | succ hops ih =>
      cases hops' with
      | zero => exact absurd h' (Nat.not_lt_zero _)
      | succ hops' =>
          rw [resolveWithin_succ, resolveWithin_succ]
          refine (router.resolveOnce_ends asked).bind_congr fun resolution hsends => ?_
          cases resolution with
          | done view => rfl
          | redirect next =>
              have hrank : rank next < rank asked := hfalls asked next (hsends next rfl)
              have hrest : router.resolveWithin hops next = router.resolveWithin hops' next :=
                ih (by omega) (by omega)
              simp only [follow, hrest]

end Router

/-- What a resolution tells of among other tasks, is a chain of redirects. -/
theorem Pool.follows_turns {router : Router} {hops : Nat} {asked : String}
    {p : Pool World ViewState} {i : Nat}
    (htask : p.tasks[i]? = some (router.resolveWithin hops asked)) (moves : List Move) :
    router.Follows asked (p.turns i moves).redirects := by
  rw [← Workflow.bind_pure (router.resolveWithin hops asked)] at htask
  rcases turns_cases htask moves with ⟨left, -, hmore⟩ | ⟨seen, rest, view, rfl, hseen, hdone⟩
  · -- The resolution is still going on, and whatever completes it completes the chain.
    rcases left.exists_comes p.state with ⟨more, view, hleft⟩
    have hwhole := Router.follows_of_comes (hmore more view hleft)
    rw [Turns.redirects_append] at hwhole
    exact hwhole.of_append
  · have hover : ((p.run seen).turns i rest).redirects = [] :=
      Turns.redirects_of_same fun turn hturn =>
        congrArg World.redirects (turns_of_done hdone rest turn hturn)
    rw [turns_append, Turns.redirects_append, hover, List.append_nil]
    exact Router.follows_of_comes hseen

end WebClient
