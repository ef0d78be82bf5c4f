import WebClient.Page.Kinds
import WebClient.Proofs.Ascending
import WebClient.Proofs.Errands
import WebClient.Proofs.RestrictedArea

/-!
# ReplyOrder — a page does not depend on the order of its replies

A page makes all its calls with the same token.  In whatever order their answers arrive, the page
comes to the same result, the login to the same state, and the same events are published.

* `FetchPage.Decided` says what the result of a page is, by the replies of its sources;
  `FetchPage.assemble_decided` shows that this is how a page is assembled.
* `page_is_the_same_in_every_order` puts this together with what a group of calls comes to.
-/

namespace WebClient

theorem Reply.not_isSuccess_of_isUnauthorized {reply : Reply} (h : reply.isUnauthorized = true) :
    ¬ reply.isSuccess = true := by
  cases reply with
  | success message data => cases h
  | failure failure => simp [isSuccess]

namespace FetchPage

variable {page : FetchPage} {answer : Source × Reply} {answers : List (Source × Reply)}
  {state : Dict Json × Option ViewError} {failure : Failure}

/-! ## The result of a page -/

/-- What a view shows of a reply. -/
def shown (reply : Reply) : Json :=
  match reply.result with
  | .ok value => value
  | .error _ => .null

/-- Why a required source has failed, if it has. -/
def failure? (answer : Source × Reply) : Option Failure :=
  if answer.1.isOptional then none else answer.2.failure?

/-- Whether a required source asks for a login. -/
def isBarred (answer : Source × Reply) : Bool := !answer.1.isOptional && answer.2.isUnauthorized

/-- What the result of a page is, by the replies of its sources: a view if every required source has
succeeded; otherwise that a login is missing, if a required source says so, and else the failure of
the first required source that has failed. -/
structure Decided (page : FetchPage) (answers : List (Source × Reply))
    (result : Except ViewError View) : Prop where
  ok_iff : (∃ view, result = .ok view) ↔
    ∀ answer ∈ answers, answer.1.isOptional = false → answer.2.isSuccess = true
  /-- Each source has its data under its key, and of equal keys the last one counts. -/
  view : ∀ view, result = .ok view → view.kind = page.kind ∧ view.title = page.title ∧
    ∃ data : Dict Json, view.data = .object data ∧ data.Ascending ∧
      ∀ key, Dict.get? data key =
        (answers.reverse.find? (·.1.key = key)).map fun answer => shown answer.2
  unauthorized_iff : result = .error .unauthorized ↔
    ∃ answer ∈ answers, answer.1.isOptional = false ∧ answer.2.isUnauthorized = true
  failed_iff : ∀ failure, result = .error (.api failure) ↔
    (∀ answer ∈ answers, answer.1.isOptional = false → answer.2.isUnauthorized = false) ∧
      ∃ before source after, answers = before ++ (source, .failure failure) :: after ∧
        source.isOptional = false ∧
        ∀ answer ∈ before, answer.1.isOptional = false → answer.2.isSuccess = true

theorem addReply_of_failure (h : failure? answer = some failure) :
    addReply state answer = (state.1, some (firstError state.2 (ViewError.ofFailure failure))) := by
  rcases answer with ⟨source, reply⟩
  unfold failure? at h
  split at h
  · cases h
  · rename_i hrequired
    cases reply with
    | success message data => cases h
    | failure f =>
        cases h
        exact if_neg hrequired

theorem addReply_of_none (h : failure? answer = none) :
    addReply state answer = (Dict.put answer.1.key (shown answer.2) state.1, state.2) := by
  rcases answer with ⟨source, reply⟩
  cases reply with
  | success message data => rfl
  | failure f =>
      have hoptional : source.isOptional = true := by
        cases hcases : source.isOptional with
        | true => rfl
        | false => simp [failure?, hcases, Reply.failure?] at h
      simp [addReply, Reply.result, shown, hoptional]

theorem isBarred_eq (answer : Source × Reply) :
    isBarred answer = (failure? answer).any (·.isUnauthorized) := by
  rcases answer with ⟨source, reply⟩
  cases reply <;> cases hoptional : source.isOptional <;>
    simp [isBarred, failure?, Reply.isUnauthorized, Reply.failure?, hoptional]

/-- A missing login is reported before all else, and of other failures the first. -/
theorem error_of_replies (answers : List (Source × Reply)) (state : Dict Json × Option ViewError) :
    (answers.foldl addReply state).2 =
      if state.2 = some .unauthorized ∨ answers.any isBarred then some .unauthorized
      else state.2.or ((answers.findSome? failure?).map .api) := by
  -- Any state to begin with, since later replies find the error of the earlier ones.
  induction answers generalizing state with
  | nil =>
      rcases state with ⟨data, error⟩
      by_cases h : error = some .unauthorized <;> simp [h]
  | cons answer rest ih =>
      rw [List.foldl_cons, ih]
      cases hfailure : failure? answer with
      | none =>
          have hbarred : isBarred answer = false := by
            rw [isBarred_eq, hfailure]
            rfl
          rw [addReply_of_none hfailure, List.any_cons, hbarred, Bool.false_or,
            List.findSome?_cons, hfailure]
      | some failure =>
          have hbarred : isBarred answer = failure.isUnauthorized := by
            rw [isBarred_eq, hfailure]
            rfl
          rw [addReply_of_failure hfailure, List.any_cons, hbarred, List.findSome?_cons, hfailure]
          -- A missing login replaces what was reported before; all else leaves it.
          cases hkind : failure.isUnauthorized with
          | true =>
              have hfirst : ∀ error : Option ViewError,
                  firstError error (ViewError.ofFailure failure) = .unauthorized := by
                intro error
                cases error <;> simp [ViewError.ofFailure, hkind, firstError]
              simp [hfirst]
          | false =>
              have hfirst : ∀ error : Option ViewError,
                  firstError error (ViewError.ofFailure failure) = error.getD (.api failure) := by
                intro error
                cases error <;> simp [ViewError.ofFailure, hkind, firstError]
              rw [hfirst, Bool.false_or]
              rcases state with ⟨data, error⟩
              cases error with
              | none => by_cases hrest : rest.any isBarred = true <;> simp [hrest]
              | some earlier => rfl

theorem data_of_replies (h : ∀ answer ∈ answers, failure? answer = none)
    (state : Dict Json × Option ViewError) :
    (answers.foldl addReply state).1 =
      Dict.putAll state.1 (answers.map fun answer => (answer.1.key, shown answer.2)) := by
  induction answers generalizing state with
  | nil => rfl
  | cons answer rest ih =>
      rcases List.forall_mem_cons.1 h with ⟨hfirst, hrest⟩
      rw [List.foldl_cons, addReply_of_none hfirst, ih hrest]
      rfl

theorem isBarred_iff (answer : Source × Reply) :
    isBarred answer = true ↔ answer.1.isOptional = false ∧ answer.2.isUnauthorized = true := by
  simp [isBarred]

theorem failure?_eq_some_iff (answer : Source × Reply) :
    failure? answer = some failure ↔ answer.1.isOptional = false ∧ answer.2 = .failure failure := by
  rcases answer with ⟨source, reply⟩
  cases reply <;> cases hoptional : source.isOptional <;>
    simp [failure?, Reply.failure?, hoptional]

theorem failure?_eq_none_iff (answer : Source × Reply) :
    failure? answer = none ↔ (answer.1.isOptional = false → answer.2.isSuccess = true) := by
  rcases answer with ⟨source, reply⟩
  cases reply <;> cases hoptional : source.isOptional <;>
    simp [failure?, Reply.failure?, Reply.isSuccess, hoptional]

/-- The failure of the first required source that has failed. -/
theorem findSome?_failure?_iff :
    answers.findSome? failure? = some failure ↔
      ∃ before source after, answers = before ++ (source, .failure failure) :: after ∧
        source.isOptional = false ∧
        ∀ answer ∈ before, answer.1.isOptional = false → answer.2.isSuccess = true := by
  rw [List.findSome?_eq_some_iff]
  constructor
  · rintro ⟨before, ⟨source, reply⟩, after, rfl, hfailure, hbefore⟩
    rcases (failure?_eq_some_iff _).1 hfailure with ⟨hrequired, rfl⟩
    exact ⟨before, source, after, rfl, hrequired,
      fun answer hmem => (failure?_eq_none_iff answer).1 (hbefore answer hmem)⟩
  · rintro ⟨before, source, after, rfl, hrequired, hbefore⟩
    exact ⟨before, _, after, rfl, (failure?_eq_some_iff _).2 ⟨hrequired, rfl⟩,
      fun answer hmem => (failure?_eq_none_iff answer).2 (hbefore answer hmem)⟩

/-- A page is assembled as its replies decide. -/
theorem assemble_decided (page : FetchPage) (replies : List Reply) :
    page.Decided (page.sources.zip replies) (page.assemble replies) := by
  have herror := error_of_replies (page.sources.zip replies) ([], none)
  have hdata : (∀ answer ∈ page.sources.zip replies, failure? answer = none) → _ :=
    fun h => data_of_replies h ([], none)
  unfold assemble
  generalize page.sources.zip replies = answers at herror hdata ⊢
  generalize answers.foldl addReply ([], none) = final at herror hdata ⊢
  rcases final with ⟨data, error⟩
  simp only [reduceCtorEq, false_or, Option.none_or] at herror hdata
  -- Either a login is missing, or the first failure of a required source counts, or there is none.
  by_cases hbarred : answers.any isBarred = true
  · rw [if_pos hbarred] at herror
    subst herror
    rcases List.any_eq_true.1 hbarred with ⟨answer, hmem, hanswer⟩
    rcases (isBarred_iff answer).1 hanswer with ⟨hrequired, hunauthorized⟩
    exact
      { ok_iff := ⟨by simp, fun hall => absurd (hall answer hmem hrequired)
          (Reply.not_isSuccess_of_isUnauthorized hunauthorized)⟩
        view := by simp
        unauthorized_iff := ⟨fun _ => ⟨answer, hmem, hrequired, hunauthorized⟩, fun _ => rfl⟩
        failed_iff := fun failure => ⟨by simp, fun hnone => absurd hunauthorized
          (by simp [hnone.1 answer hmem hrequired])⟩ }
  have hnone : ∀ answer ∈ answers, answer.1.isOptional = false →
      answer.2.isUnauthorized = false := by
    intro answer hmem hrequired
    cases hunauthorized : answer.2.isUnauthorized with
    | false => rfl
    | true =>
        have hanswer := (isBarred_iff answer).2 ⟨hrequired, hunauthorized⟩
        exact absurd (List.any_eq_true.2 ⟨answer, hmem, hanswer⟩) hbarred
  rw [if_neg hbarred] at herror
  have hnobody : ¬ ∃ answer ∈ answers, answer.1.isOptional = false ∧
      answer.2.isUnauthorized = true := by
    rintro ⟨answer, hmem, hrequired, hunauthorized⟩
    exact absurd hunauthorized (by simp [hnone answer hmem hrequired])
  cases hfirst : answers.findSome? failure? with
  | some failure =>
      rw [hfirst] at herror
      subst herror
      rcases findSome?_failure?_iff.1 hfirst with ⟨before, source, after, rfl, hrequired, -⟩
      exact
        { ok_iff := ⟨by simp, fun hall => by
            simpa [Reply.isSuccess] using hall (source, .failure failure) (by simp) hrequired⟩
          view := by simp
          unauthorized_iff := ⟨by simp, fun hsome => absurd hsome hnobody⟩
          failed_iff := fun other => by
            rw [← findSome?_failure?_iff, hfirst]
            simpa using fun _ => hnone }
  | none =>
      rw [hfirst] at herror
      subst herror
      have hall : ∀ answer ∈ answers, failure? answer = none := List.findSome?_eq_none_iff.1 hfirst
      exact
        { ok_iff := ⟨fun _ answer hmem => (failure?_eq_none_iff answer).1 (hall answer hmem),
            fun _ => ⟨_, rfl⟩⟩
          view := by
            rintro view hview
            cases hview
            refine ⟨rfl, rfl, data, rfl, ?_, fun key => ?_⟩
            · rw [hdata hall]
              exact Dict.ascending_ofList _
            · rw [hdata hall, ← Dict.ofList, Dict.get?_ofList, ← List.map_reverse, List.find?_map,
                Option.map_map]
              rfl
          unauthorized_iff := ⟨by simp, fun hsome => absurd hsome hnobody⟩
          failed_iff := fun other => by
            rw [← findSome?_failure?_iff, hfirst]
            simp }

end FetchPage

/-! ## All orders -/

/-- A page whose templates have all been expanded makes its calls together. -/
theorem Gateway.pool_carryOut (g : Gateway) {page : FetchPage} {ctx : PageContext}
    {paths : List String} (hpaths : page.paths ctx = .ok paths) (answer : Nat → Outcome)
    (w : World) :
    (⟨[g.carryOut (page.render ctx)], w⟩ : Pool World (Except ViewError View)) =
      Errand.pool g w page.assemble answer (paths.map Call.get) := by
  have hcalls : (Errand.ofCalls answer (paths.map Call.get)).map (·.activity g w.token?) =
      (paths.map Call.get).map g.call := by
    refine List.ext_getElem? fun i => ?_
    rw [List.getElem?_map, Errand.getElem?_ofCalls, Option.map_map, List.getElem?_map (f := g.call)]
    rfl
  rw [Errand.pool, Errand.waiting, hcalls, FetchPage.render, hpaths]
  rfl

theorem Call.of_request? {call : Call} {base : String} {token : Option String} {request : Request}
    (h : call.request? base token = some request) :
    request.method = call.method ∧ request.headers = Headers.build call.headers token := by
  unfold request? at h
  split at h
  · cases h
  · split at h
    · cases h
      exact ⟨rfl, rfl⟩
    · cases h

/-- A page makes one GET call for each source, all with the token that is current at the beginning.
Whatever the order in which the answers arrive and are dealt with, the page comes to the same
result, the login to the same session and store, and the same events are published; the result is
the one that the replies decide. -/
theorem page_is_the_same_in_every_order {page : FetchPage} {ctx : PageContext} {g : Gateway}
    {paths : List String} {order : List Nat} (hpaths : page.paths ctx = .ok paths)
    (horder : g.Together (paths.map Call.get) order) (w : World) (answer : Nat → Outcome)
    (last : Nat) :
    let p : Pool World (Except ViewError View) := ⟨[g.carryOut (page.render ctx)], w⟩
    let moves := (order ++ [last]).map (Move.bringing answer)
    let asked := Errand.ofCalls answer (paths.map Call.get)
    let replies := asked.map (·.reply g w.token?.isSome)
    List.Forall₂ (fun source path => Template.expand ctx.lookup source.template = .ok path)
      page.sources paths ∧
    (∀ i path, paths[i]? = some path →
      p.exchanges 0 i moves = ((Call.get path).request? g.base w.token?).toList ∧
      ∀ request ∈ p.exchanges 0 i moves,
        request.method = .get ∧ request.headers = Headers.build [] w.token?) ∧
    (∃ news, p.run moves =
        ⟨[.done (page.assemble replies)],
          { w with
            login := Login.clear^[asked.countP fun e => decide (e.Rejected g)] w.login
            events := w.events ++ news }⟩ ∧
      news.Perm (Errand.allNews g w asked)) ∧
    page.Decided (page.sources.zip replies) (page.assemble replies) := by
  intro p moves asked replies
  have hp : p = Errand.pool g w page.assemble answer (paths.map Call.get) :=
    g.pool_carryOut hpaths answer w
  rcases horder.ends w page.assemble answer last with ⟨news, hrun, hnews, hrequests⟩
  refine ⟨Except.forall₂_of_mapM hpaths, fun i path hi => ?_, ⟨news, hp ▸ hrun, hnews⟩,
    page.assemble_decided replies⟩
  have hcall : (paths.map Call.get)[i]? = some (Call.get path) := by
    rw [List.getElem?_map, hi]
    rfl
  have hexchanges : p.exchanges 0 i moves = ((Call.get path).request? g.base w.token?).toList :=
    hp ▸ hrequests i _ hcall
  refine ⟨hexchanges, fun request hrequest => ?_⟩
  rw [hexchanges, Option.mem_toList] at hrequest
  exact Call.of_request? hrequest

/-- A page whose coupons are not needed. -/
def FetchPage.checkout : FetchPage where
  kind := "checkout"
  title := "Checkout"
  sources := [⟨"cart", "/cart", false⟩, ⟨"addresses", "/addresses", false⟩,
    ⟨"coupons", "/coupons", true⟩]

def PageContext.ofCheckout : PageContext := ⟨"/checkout", [], [], none⟩

/-- The first of three requests is lost, the others are refused. -/
def refusedLater (i : Nat) : Outcome := if i = 0 then .dropped else .answered 401 ""

/-- Three calls begin one after the other, and are dealt with last to first. -/
def lastFirst : List Nat := List.range 3 ++ [2, 2, 2, 2, 1, 1, 1, 1, 0, 0, 0, 0]

/-- The calls of the page, before their first turns. -/
def checkoutCalls : List Errand :=
  Errand.ofCalls refusedLater (["/cart", "/addresses", "/coupons"].map Call.get)

theorem allNews_checkoutCalls :
    Errand.allNews Client.pageless.gateway .alices checkoutCalls =
      [.toast .error Gateway.networkFailed, .signedOut, .rejected true] := by
  have hcart : Errand.news Client.pageless.gateway true ⟨.get "/cart", .dropped, .ready⟩ =
      [.toast .error Gateway.networkFailed] := by
    rw [Errand.news, Errand.arrived, ite_self]
    rfl
  have hsilent : ∀ path ∈ ["/addresses", "/coupons"],
      Errand.news Client.pageless.gateway true ⟨.get path, .answered 401 "", .ready⟩ = [] := by
    intro path hpath
    refine Gateway.ownNews_of_rejects ?_ false true
    revert path
    decide +kernel
  have hcalls : checkoutCalls = [⟨.get "/cart", .dropped, .ready⟩,
      ⟨.get "/addresses", .answered 401 "", .ready⟩, ⟨.get "/coupons", .answered 401 "", .ready⟩] :=
    rfl
  have hany : Errand.anyRejected Client.pageless.gateway checkoutCalls = true := by decide +kernel
  have htoken : World.alices.token?.isSome = true := rfl
  rw [Errand.allNews, hany, hcalls, htoken]
  simp only [List.flatMap_cons, List.flatMap_nil, hcart, hsilent "/addresses" (by simp),
    hsilent "/coupons" (by simp)]
  rfl

/-- A lost request and two refusals: the refusals end the session, once, and the missing login is
what the page reports. -/
theorem checkout_of_expired_session :
    let p : Pool World (Except ViewError View) :=
      ⟨[Client.pageless.gateway.carryOut (FetchPage.checkout.render .ofCheckout)], .alices⟩
    let ended := p.run ((lastFirst ++ [0]).map (Move.bringing refusedLater))
    FetchPage.checkout.paths .ofCheckout = .ok ["/cart", "/addresses", "/coupons"] ∧
      Client.pageless.gateway.Together
        (["/cart", "/addresses", "/coupons"].map Call.get) lastFirst ∧
      ended.tasks = [.done (.error .unauthorized)] ∧ ended.state.login.session = none ∧
      ended.state.events.Perm
        [.toast .error Gateway.networkFailed, .signedOut, .rejected true] := by
  have hpaths : FetchPage.checkout.paths .ofCheckout = .ok ["/cart", "/addresses", "/coupons"] := by
    decide +kernel
  have horder : Client.pageless.gateway.Together
      (["/cart", "/addresses", "/coupons"].map Call.get) lastFirst :=
    Gateway.Together.of_begun (by decide)
  rcases page_is_the_same_in_every_order hpaths horder .alices refusedLater 0 with
    ⟨-, -, ⟨news, hrun, hnews⟩, hdecided⟩
  refine ⟨hpaths, horder, ?_, ?_, ?_⟩
  · rw [hrun, hdecided.unauthorized_iff.2 (by decide +kernel)]
  · rw [hrun]
    exact (Login.session_iterate_clear _ _).trans (if_neg (by decide +kernel))
  · rw [hrun]
    exact allNews_checkoutCalls ▸ hnews

end WebClient
