import WebClient.Proofs.Placeholders
import WebClient.Proofs.ReplyOrder
import WebClient.Site.Declare

/-!
# OptionalSources — what a page can do without

A page expands the templates of all its sources before it makes a call.  An optional source whose
call fails shows as `null`; but one whose template has a placeholder without a value fails the page,
like any other source.

* `Rendering.ComesTo` says what a page comes to if its calls are answered in some way, and
  `FetchPage.comesTo_of_run` that this is what a run of the page comes to.
* `FetchPage.SparesOptional` are the pages, and the places that they are asked for, where no
  optional source can fail the page.
* `optional_sources_are_spared_iff`: those where the templates of the optional sources can be
  expanded, or that of a required one cannot.
-/

namespace WebClient

/-! ## What a page comes to -/

/-- What a rendering comes to if the calls that it makes are answered so. -/
inductive Rendering.ComesTo (replies : List Reply) : Rendering → Except ViewError View → Prop
  | done (result : Except ViewError View) : ComesTo replies (.done result) result
  | fetch {calls : List Call} {next : List Reply → Rendering} {result : Except ViewError View}
      (h : next replies = .done result) : ComesTo replies (.fetch calls next) result

/-- The answers to calls that are made together while nothing else happens. -/
def Gateway.repliesTo (g : Gateway) (backend : Backend) (w : Wired World) (calls : List Call) :
    List Reply :=
  let (launched, w) := Activity.launchAll backend (calls.map g.call) w
  (Activity.runAll backend launched w).1

theorem Activity.length_launchAll {σ α : Type} (backend : Backend)
    (activities : List (Activity σ α)) (w : Wired σ) :
    (launchAll backend activities w).1.length = activities.length := by
  induction activities generalizing w with
  | nil => rfl
  | cons activity activities ih => exact congrArg (· + 1) (ih _)

theorem Activity.length_runAll {σ α : Type} (backend : Backend)
    (activities : List (Activity σ α)) (w : Wired σ) :
    (runAll backend activities w).1.length = activities.length := by
  induction activities generalizing w with
  | nil => rfl
  | cons activity activities ih => exact congrArg (· + 1) (ih _)

theorem Gateway.length_repliesTo (g : Gateway) (backend : Backend) (w : Wired World)
    (calls : List Call) : (g.repliesTo backend w calls).length = calls.length := by
  rw [repliesTo, Activity.length_runAll, Activity.length_launchAll, List.length_map]

/-! ## Sources -/

/-- Whether every placeholder of a source has a value. -/
def Source.Expands (ctx : PageContext) (source : Source) : Prop :=
  ∃ path, Template.expand ctx.lookup source.template = .ok path

instance (ctx : PageContext) (source : Source) : Decidable (source.Expands ctx) :=
  match h : Template.expand ctx.lookup source.template with
  | .ok path => isTrue ⟨path, h⟩
  | .error _ => isFalse fun ⟨_, hpath⟩ => nomatch h.symm.trans hpath

/-- The first failure is the one that is reported. -/
theorem Except.mapM_eq_error {ε α β : Type} {f : α → Except ε β} {before after : List α} {a : α}
    {e : ε} (hbefore : ∀ b ∈ before, ∃ c, f b = .ok c) (ha : f a = .error e) :
    (before ++ a :: after).mapM f = .error e := by
  induction before with
  | nil =>
      rw [List.nil_append, List.mapM_cons, ha]
      rfl
  | cons b before ih =>
      rcases hbefore b List.mem_cons_self with ⟨c, hc⟩
      rw [List.cons_append, List.mapM_cons, hc,
        ih fun other hother => hbefore other (List.mem_cons_of_mem _ hother)]
      rfl

namespace FetchPage

variable {page : FetchPage} {ctx : PageContext} {replies : List Reply}
  {result : Except ViewError View}

/-- What an optional source is to contribute: its data, or nothing if it has failed in any way. -/
def contribution (ctx : PageContext) (answer : Source × Reply) : Json :=
  if answer.1.Expands ctx then shown answer.2 else .null

/-- Whether no optional source can fail the page: however its calls are answered, it has a view
exactly if each required source has a path and an answer with data, and in that view the optional
sources that have failed in any way are `null`, and all others have their data. -/
structure SparesOptional (page : FetchPage) (ctx : PageContext) : Prop where
  ok_iff : ∀ replies : List Reply, replies.length = page.sources.length →
    ((∃ view, (page.render ctx).ComesTo replies (.ok view)) ↔
      ∀ answer ∈ page.sources.zip replies, answer.1.isOptional = false →
        answer.1.Expands ctx ∧ answer.2.isSuccess = true)
  view : ∀ replies : List Reply, replies.length = page.sources.length →
    ∀ view, (page.render ctx).ComesTo replies (.ok view) →
      view.kind = page.kind ∧ view.title = page.title ∧
      ∃ data : Dict Json, view.data = .object data ∧ data.Ascending ∧
        ∀ key, Dict.get? data key =
          ((page.sources.zip replies).reverse.find? (·.1.key = key)).map (contribution ctx)

/-- With a path for every source, a page comes to what it is assembled to. -/
theorem comesTo_iff_of_paths {paths : List String} (h : page.paths ctx = .ok paths) :
    (page.render ctx).ComesTo replies result ↔ result = page.assemble replies := by
  rw [render, h]
  constructor
  · rintro (_ | hresult)
    cases hresult
    rfl
  · rintro rfl
    exact .fetch rfl

/-- Without a path for one of them it fails, and makes no call. -/
theorem comesTo_iff_of_error {name : String} (h : page.paths ctx = .error name) :
    (page.render ctx).ComesTo replies result ↔ result = .error (.missingParam name) := by
  rw [render, h]
  constructor
  · rintro ⟨⟩
    rfl
  · rintro rfl
    exact .done _

theorem exists_paths_iff :
    (∃ paths, page.paths ctx = .ok paths) ↔ ∀ source ∈ page.sources, source.Expands ctx :=
  Except.exists_mapM_iff

/-- If one of its sources has no path, a page has no view. -/
theorem not_comesTo_ok {source : Source} (hsource : source ∈ page.sources)
    (h : ¬ source.Expands ctx) (view : View) :
    ¬ (page.render ctx).ComesTo replies (.ok view) := by
  intro hview
  cases hpaths : page.paths ctx with
  | ok paths => exact h (exists_paths_iff.1 ⟨paths, hpaths⟩ source hsource)
  | error name => simp [comesTo_iff_of_error hpaths] at hview

/-- Of as many replies as there are sources, one is for this source. -/
theorem exists_answer {source : Source} (hsource : source ∈ page.sources)
    (hlength : replies.length = page.sources.length) :
    ∃ reply, (source, reply) ∈ page.sources.zip replies := by
  rcases List.mem_iff_getElem.1 hsource with ⟨i, hi, rfl⟩
  have hplace : i < (page.sources.zip replies).length := by
    rw [List.length_zip, hlength, Nat.min_self]
    exact hi
  have hanswer := List.getElem_mem hplace
  rw [List.getElem_zip] at hanswer
  exact ⟨_, hanswer⟩

/-- The first source without a path fails all of them. -/
theorem paths_eq_error {before after : List Source} {source : Source} {name : String}
    (hsources : page.sources = before ++ source :: after)
    (hbefore : ∀ earlier ∈ before, earlier.Expands ctx)
    (hsource : Template.expand ctx.lookup source.template = .error name) :
    page.paths ctx = .error name := by
  rw [paths, hsources]
  exact Except.mapM_eq_error hbefore hsource

theorem sparesOptional_of_expands (h : ∀ source ∈ page.sources, source.Expands ctx) :
    page.SparesOptional ctx := by
  rcases exists_paths_iff.2 h with ⟨paths, hpaths⟩
  have hsource : ∀ replies : List Reply, ∀ answer ∈ page.sources.zip replies,
      answer.1.Expands ctx := fun replies answer hanswer => h _ (List.of_mem_zip hanswer).1
  constructor
  · intro replies hlength
    have hdecided := (page.assemble_decided replies).ok_iff
    simp only [comesTo_iff_of_paths hpaths, eq_comm (b := page.assemble replies)]
    rw [hdecided]
    refine forall₂_congr fun answer hanswer => ?_
    simp [hsource replies answer hanswer]
  · intro replies hlength view hview
    rw [comesTo_iff_of_paths hpaths] at hview
    rcases (page.assemble_decided replies).view view hview.symm with
      ⟨hkind, htitle, data, hdata, hascending, hget⟩
    refine ⟨hkind, htitle, data, hdata, hascending, fun key => ?_⟩
    rw [hget key]
    cases hfind : (page.sources.zip replies).reverse.find? (·.1.key = key) with
    | none => rfl
    | some answer =>
        have hanswer := List.mem_reverse.1 (List.mem_of_find?_eq_some hfind)
        simp [contribution, hsource replies answer hanswer]

/-- A required source without a path is a reason of its own to have no view. -/
theorem sparesOptional_of_required {source : Source} (hsource : source ∈ page.sources)
    (hrequired : source.isOptional = false) (h : ¬ source.Expands ctx) :
    page.SparesOptional ctx := by
  constructor
  · intro replies hlength
    refine iff_of_false (fun ⟨view, hview⟩ => not_comesTo_ok hsource h view hview) fun hall => ?_
    rcases exists_answer hsource hlength with ⟨reply, hanswer⟩
    exact h (hall _ hanswer hrequired).1
  · intro replies hlength view hview
    exact absurd hview (not_comesTo_ok hsource h view)

theorem not_sparesOptional {source : Source} (hsource : source ∈ page.sources)
    (h : ¬ source.Expands ctx)
    (hrequired : ∀ other ∈ page.sources, other.isOptional = false → other.Expands ctx) :
    ¬ page.SparesOptional ctx := by
  intro hspares
  -- All calls could succeed, and the page would still have no view.
  let replies : List Reply := page.sources.map fun _ => .success none none
  have hall : ∀ answer ∈ page.sources.zip replies, answer.1.isOptional = false →
      answer.1.Expands ctx ∧ answer.2.isSuccess = true := by
    intro answer hanswer hanswerRequired
    have hmem := List.of_mem_zip hanswer
    rcases List.mem_map.1 hmem.2 with ⟨other, -, hreply⟩
    exact ⟨hrequired _ hmem.1 hanswerRequired, by rw [← hreply]; rfl⟩
  rcases (hspares.ok_iff replies (List.length_map _)).2 hall with ⟨view, hview⟩
  exact not_comesTo_ok hsource h view hview

theorem sparesOptional_iff :
    page.SparesOptional ctx ↔
      (∀ source ∈ page.sources, source.isOptional = true → source.Expands ctx) ∨
        ∃ source ∈ page.sources, source.isOptional = false ∧ ¬ source.Expands ctx := by
  -- Only if all required sources have paths does it matter whether the optional ones do.
  by_cases hrequired : ∃ source ∈ page.sources, source.isOptional = false ∧ ¬ source.Expands ctx
  · rcases hrequired with ⟨source, hsource, hisRequired, h⟩
    exact iff_of_true (sparesOptional_of_required hsource hisRequired h)
      (.inr ⟨source, hsource, hisRequired, h⟩)
  · have hall : ∀ source ∈ page.sources, source.isOptional = false → source.Expands ctx := by
      intro source hsource hisRequired
      by_contra h
      exact hrequired ⟨source, hsource, hisRequired, h⟩
    rw [or_iff_left hrequired]
    constructor
    · intro hspares source hsource _
      by_contra h
      exact not_sparesOptional hsource h hall hspares
    · intro hoptional
      refine sparesOptional_of_expands fun source hsource => ?_
      cases hkind : source.isOptional with
      | true => exact hoptional source hsource hkind
      | false => exact hall source hsource hkind

/-- What a run of a page comes to. -/
theorem comesTo_of_run (page : FetchPage) (ctx : PageContext) (g : Gateway) (backend : Backend)
    (w : Wired World) :
    (page.render ctx).ComesTo (g.repliesTo backend w (page.render ctx).calls)
      ((g.carryOut (page.render ctx)).run backend w).1 := by
  cases hpaths : page.paths ctx with
  | error name =>
      rw [comesTo_iff_of_error hpaths, render, hpaths]
      rfl
  | ok paths =>
      rw [comesTo_iff_of_paths hpaths, render, hpaths]
      rfl

end FetchPage

/-- However the calls of a page are answered, no optional source can fail it, and those that fail
are `null` in its view, exactly if all optional sources can be asked for, or a required one cannot.

A page that is run while nothing else happens comes to what the answers to its calls make of it, one
answer for each source if all can be asked for.  But the first source with a placeholder that has no
value, optional or not, fails the page before any call is made. -/
theorem optional_sources_are_spared_iff (page : FetchPage) (ctx : PageContext) :
    (page.SparesOptional ctx ↔
      (∀ source ∈ page.sources, source.isOptional = true → source.Expands ctx) ∨
        ∃ source ∈ page.sources, source.isOptional = false ∧ ¬ source.Expands ctx) ∧
    (∀ (g : Gateway) (backend : Backend) (w : Wired World),
      let replies := g.repliesTo backend w (page.render ctx).calls
      (page.render ctx).ComesTo replies ((g.carryOut (page.render ctx)).run backend w).1 ∧
        ((∀ source ∈ page.sources, source.Expands ctx) →
          replies.length = page.sources.length)) ∧
    ∀ before source after name, page.sources = before ++ source :: after →
      (∀ earlier ∈ before, earlier.Expands ctx) →
      Template.expand ctx.lookup source.template = .error name →
        ∀ (g : Gateway) (backend : Backend) (w : Wired World),
          (g.carryOut (page.render ctx)).run backend w = (.error (.missingParam name), w) := by
  refine ⟨FetchPage.sparesOptional_iff, fun g backend w => ?_, ?_⟩
  · refine ⟨page.comesTo_of_run ctx g backend w, fun hall => ?_⟩
    rcases FetchPage.exists_fetch_iff.2 hall with ⟨calls, next, hrender⟩
    rw [Gateway.length_repliesTo, hrender]
    exact (FetchPage.forall₂_of_fetch hrender).length_eq.symm
  · intro before source after name hsources hbefore hsource g backend w
    rw [FetchPage.render, FetchPage.paths_eq_error hsources hbefore hsource]
    rfl

/-- A product and its reviews, both of which can be asked for: if the reviews are refused for want
of a login, the product is shown, and `null` for the reviews. -/
theorem refused_reviews_are_null :
    let page : FetchPage := ⟨"product", "Product",
      [source "product" "/product?id=\x7bid\x7d",
        optionalSource "reviews" "/reviews?product_id=\x7bid\x7d"]⟩
    let ctx : PageContext := ⟨"/product/7", [("id", "7")], [], none⟩
    let replies : List Reply :=
      [.success none (some (.string "cup")), .failure (.unauthorized "login required")]
    ∃ view, (page.render ctx).ComesTo replies (.ok view) ∧ ∃ data : Dict Json,
      view.data = .object data ∧ Dict.get? data "product" = some (.string "cup") ∧
        Dict.get? data "reviews" = some .null := by
  intro page ctx replies
  have hoptional : ∀ source ∈ page.sources, source.isOptional = true → source.Expands ctx := by
    decide +kernel
  have hspares : page.SparesOptional ctx :=
    (optional_sources_are_spared_iff page ctx).1.2 (.inl hoptional)
  have hanswers : ∀ answer ∈ page.sources.zip replies, answer.1.isOptional = false →
      answer.1.Expands ctx ∧ answer.2.isSuccess = true := by decide +kernel
  rcases (hspares.ok_iff replies rfl).2 hanswers with ⟨view, hview⟩
  rcases hspares.view replies rfl view hview with ⟨-, -, data, hdata, -, hget⟩
  refine ⟨view, hview, data, hdata, (hget "product").trans ?_, (hget "reviews").trans ?_⟩
  · rfl
  · rfl

/-- A page with nothing but optional reviews, asked for without a product: it has no view. -/
theorem unfilled_reviews_fail_page :
    let page : FetchPage := ⟨"product", "Product",
      [optionalSource "reviews" "/reviews?product_id=\x7bid\x7d"]⟩
    let ctx : PageContext := ⟨"/product", [], [], none⟩
    page.render ctx = .done (.error (.missingParam "id")) ∧ ¬ page.SparesOptional ctx := by
  intro page ctx
  have hpaths : page.paths ctx = .error "id" := by decide +kernel
  have hreviews : ∀ source ∈ page.sources, ¬ source.Expands ctx := by decide +kernel
  refine ⟨by rw [FetchPage.render, hpaths], ?_⟩
  exact FetchPage.not_sparesOptional List.mem_cons_self (hreviews _ List.mem_cons_self)
    (by decide +kernel)

end WebClient
