import WebClient.Proofs.Ascending
import WebClient.Proofs.Captures
import WebClient.Site.Blog

/-!
# NamedValues — which value a name stands for on a page

A name can have been captured by the route and stand in the query as well.  Templates are filled
with what was captured; a static page shows what stands in the query.

* `PageContext.Ordered` are the contexts whose maps are maps: those that pages are given
  (`PageContext.ordered_of_match?`).
* `static_shows_lookup_iff`: a static page shows the value that templates are filled with exactly if
  the query does not have another value under the name of a capture.
-/

namespace WebClient

/-- What is found in a map when others have been put into it. -/
theorem Dict.get?_putAll_of_ascending {α : Type} {pairs : Dict α} (h : pairs.Ascending)
    (d : Dict α) (key : String) :
    get? (putAll d pairs) key = (get? pairs key).or (get? d key) := by
  rw [get?_putAll_eq, ← get?_ofList, ofList_eq_self h]

namespace PageContext

/-- Whether captures and query parameters are maps. -/
structure Ordered (ctx : PageContext) : Prop where
  params : ctx.params.Ascending
  query : ctx.query.Ascending

/-- What the router tells a page. -/
theorem ordered_of_match? {pattern : Pattern} {raw : String} {params : Dict String}
    (h : pattern.match? (Location.parse raw).path = some params) (session : Session) :
    Ordered ⟨(Location.parse raw).path, params, (Location.parse raw).query, session⟩ := by
  rcases Option.map_eq_some_iff.1 h with ⟨captures, -, rfl⟩
  exact ⟨Dict.ascending_ofList captures, Dict.ascending_ofList _⟩

/-- The lookup with the query first gives the same value exactly if no capture has another one. -/
theorem query_first_eq_lookup_iff {ctx : PageContext} {name : String} :
    (Dict.get? ctx.query name).or (Dict.get? ctx.params name) = ctx.lookup name ↔
      ∀ captured queried, Dict.get? ctx.params name = some captured →
        Dict.get? ctx.query name = some queried → queried = captured := by
  -- Each is one of the two values or the other, so that they can differ only if there are two.
  unfold lookup
  cases Dict.get? ctx.params name with
  | none => simp
  | some captured => cases Dict.get? ctx.query name <;> simp

end PageContext

/-- A static page always has a view.  Its data are the captures and the query parameters; under a
name stands the value in the query, and the captured one only if there is none in the query.  That
is the value that templates are filled with exactly if the name has not both been captured and been
given another value in the query. -/
theorem static_shows_lookup_iff (kind title : String) {ctx : PageContext} (hctx : ctx.Ordered) :
    ∃ data : Dict Json,
      Page.static kind title ctx = .done (.ok ⟨kind, title, .object data⟩) ∧ data.Ascending ∧
      ∀ name,
        Dict.get? data name =
          ((Dict.get? ctx.query name).or (Dict.get? ctx.params name)).map Json.string ∧
        (Dict.get? data name = (ctx.lookup name).map Json.string ↔
          ∀ captured queried, Dict.get? ctx.params name = some captured →
            Dict.get? ctx.query name = some queried → queried = captured) := by
  let texts : Dict String := Dict.putAll (Dict.ofList ctx.params) ctx.query
  have htexts : texts.Ascending := (Dict.ascending_ofList ctx.params).putAll ctx.query
  refine ⟨texts.map fun entry => (entry.1, Json.string entry.2), rfl, htexts.map Json.string, ?_⟩
  intro name
  -- The query is put into the captures, and what is put last counts.
  have hfound : Dict.get? texts name =
      (Dict.get? ctx.query name).or (Dict.get? ctx.params name) := by
    rw [Dict.get?_putAll_of_ascending hctx.query, Dict.ofList_eq_self hctx.params]
  have hinj : Function.Injective (Option.map Json.string) :=
    Option.map_injective fun _ _ h => Json.string.inj h
  rw [Dict.get?_map, hfound, ← PageContext.query_first_eq_lookup_iff]
  exact ⟨rfl, hinj.eq_iff⟩

/-- A query that names the captured page again, and a tab: the page is shown as it was captured. -/
theorem static_shows_what_agrees :
    let location := Location.parse "/admin/users?page=users&tab="
    let pattern : Pattern := ⟨"/admin/*page", [.literal "admin", .rest "page"]⟩
    let ctx : PageContext := ⟨location.path, [("page", "users")], location.query, none⟩
    pattern.match? location.path = some ctx.params ∧
      ∃ data : Dict Json,
        Page.static "admin" "Administration" ctx =
          .done (.ok ⟨"admin", "Administration", .object data⟩) ∧
        Dict.get? data "page" = (ctx.lookup "page").map Json.string ∧
        Dict.get? data "tab" = some (.string "") := by
  intro location pattern ctx
  have hmatch : pattern.match? location.path = some ctx.params := by decide +kernel
  have hpage : Dict.get? location.query "page" = some "users" := by decide +kernel
  have htab : (Dict.get? ctx.query "tab").or (Dict.get? ctx.params "tab") = some "" := by
    decide +kernel
  rcases static_shows_lookup_iff "admin" "Administration"
    (PageContext.ordered_of_match? hmatch none) with ⟨data, hview, -, hdata⟩
  refine ⟨hmatch, data, hview, (hdata "page").2.2 ?_, (hdata "tab").1.trans ?_⟩
  · intro captured queried hcaptured hqueried
    rw [hpage] at hqueried
    exact Option.some.inj (hqueried.symm.trans hcaptured)
  · rw [htab]
    rfl

/-- The administration, asked for by a location whose query has the name of the capture: the route
has captured one page, and templates would be filled with it, but another one is shown. -/
theorem query_hides_capture :
    let location := Location.parse "/admin/settings?page=users"
    let admin := Site.Blog.declarations.find? fun d => d.name == "admin"
    let params := admin.bind fun d => (Pattern.parse d.pattern).toOption.bind
      fun pattern => pattern.match? location.path
    let ctx : PageContext := ⟨location.path, params.getD [], location.query, none⟩
    admin.map (·.pattern) = some "/admin/*page" ∧ params = some [("page", "settings")] ∧
      ctx.lookup "page" = some "settings" ∧
      admin.map (fun d => d.page ctx) =
        some (.done (.ok ⟨"admin", "Administration", .object [("page", .string "users")]⟩)) := by
  intro location admin params ctx
  have hparams : params = some [("page", "settings")] := by decide +kernel
  have hquery : location.query = [("page", "users")] := by decide +kernel
  have hadmin : admin.map (fun d => d.page ctx) =
      some (Page.static "admin" "Administration" ctx) := rfl
  have hdata : Dict.putAll (Dict.ofList [("page", "settings")]) [("page", "users")] =
      [("page", "users")] := by decide +kernel
  refine ⟨by decide +kernel, hparams, by decide +kernel, ?_⟩
  rw [hadmin, Page.static]
  simp only [ctx, hparams, hquery, Option.getD_some, hdata]
  rfl

end WebClient
