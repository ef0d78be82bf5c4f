import WebClient.Endpoint.Blog
import WebClient.Endpoint.Shop
import WebClient.Proofs.AppendedQuery
import WebClient.Proofs.FormReadBack
import WebClient.Proofs.Ascending

/-!
# WrittenQuery — typed endpoints ask for what they are given

An endpoint writes its parameters into the query of a path.  The path is read as a location or put
behind the base of the backend and read as a URL; either way the parameters are what they were.

* `Endpoint.ReadBack` says what is read of a path with parameters, as a location and as a URL.
* `Call.Queries` says what a call with parameters asks for; `Endpoint.queries_withQuery` shows it of
  every call that is written so.
* `written_query_is_read_back` puts this together.
-/

namespace WebClient

/-- The URL with these parameters as its query; without parameters it stays as it is. -/
def Url.withPairs (pairs : List (String × String)) (url : Url) : Url :=
  if pairs.isEmpty then url else url.appended (Text.formQuery pairs)

/-- Whether a call asks for what a bare call asks for, with these parameters. -/
structure Call.Queries (call bare : Call) (pairs : List (String × String)) : Prop where
  /-- The requests differ in nothing but the query of the URL. -/
  request_eq : ∀ base token, call.request? base token =
    (bare.request? base token).map fun request =>
      { request with url := request.url.withPairs pairs }
  /-- Where the bare URL ends with its path, the query is read as the parameters. -/
  pairs_eq : ∀ base token request, bare.request? base token = some request →
    request.url.EndsWithPath →
      ∃ asked, call.request? base token = some asked ∧
        Text.formPairs (asked.url.query.getD "").toList = pairs

namespace Endpoint

/-- What is read of a path with parameters behind it. -/
structure ReadBack (path : String) (pairs : List (String × String)) : Prop where
  /-- As a location it has the path that it has without them, -/
  path_eq : (Location.parse (withQuery path pairs)).path = (Location.parse path).path
  /-- and its query is the map of the parameters: of equal names the last one counts. -/
  ascending_query : (Location.parse (withQuery path pairs)).query.Ascending
  get?_query : ∀ name, Dict.get? (Location.parse (withQuery path pairs)).query name =
    (pairs.reverse.find? (·.1 = name)).map (·.2)
  /-- As a URL it has what was written for its query, whatever the path ends in, -/
  query_eq : pairs ≠ [] → ∀ url, Url.parse (withQuery path pairs) = .ok url →
    url.query = some (.ofList (Text.formQuery pairs)) ∧ url.fragment = none
  /-- and all else as it is without the parameters, if the path does not end in a blank; no URL that
  requests can be made for is lost. -/
  parse_eq : pairs ≠ [] → ∀ url, Url.parse path = .ok url →
    Url.NoBlankEnd path.toList →
      Url.parse (withQuery path pairs) =
          .ok { url with query := some (.ofList (Text.formQuery pairs)) } ∨
        Url.parse (withQuery path pairs) = .error .emptyHost ∧ url.isHttp = false
  /-- What was written is read as the parameters. -/
  pairs_eq : Text.formPairs (Text.formQuery pairs) = pairs

variable {path : String} {pairs : List (String × String)}

theorem withQuery_nil (path : String) : withQuery path [] = path := rfl

theorem withQuery_of_ne_nil (path : String) (h : pairs ≠ []) :
    withQuery path pairs = path ++ "?" ++ .ofList (Text.formQuery pairs) :=
  if_neg (by simpa using h)

theorem toList_withQuery (path : String) (h : pairs ≠ []) :
    (withQuery path pairs).toList = path.toList ++ '?' :: Text.formQuery pairs := by
  simp [withQuery_of_ne_nil path h]

theorem split_withQuery (h : Url.Markless path.toList) (pairs : List (String × String)) :
    Location.split (withQuery path pairs).toList = (path.toList, Text.formQuery pairs) := by
  by_cases hpairs : pairs = []
  · subst hpairs
    simp [withQuery_nil, Location.split, Text.cutAt_of_not_mem h.2, Text.cutAt_of_not_mem h.1,
      Text.formQuery, Text.joined]
  · have hquery := (Text.plainQuery_formQuery pairs).not_mem
    rw [toList_withQuery path hpairs, Location.split_query h hquery]

theorem location_withQuery (h : Url.Markless path.toList) (pairs : List (String × String)) :
    Location.parse (withQuery path pairs) =
      ⟨(Location.parse path).path, Dict.ofList pairs⟩ := by
  have hsplit := split_withQuery h pairs
  have hbare := split_withQuery h []
  rw [withQuery_nil] at hbare
  simp only [Location.parse, hsplit, hbare, Text.formPairs_formQuery]

theorem formPairs_withPairs {url : Url} (h : url.EndsWithPath) (pairs : List (String × String)) :
    Text.formPairs ((url.withPairs pairs).query.getD "").toList = pairs := by
  by_cases hpairs : pairs = []
  · subst hpairs
    simp [Url.withPairs, h.1, Text.formPairs, Text.pieces]
  · simp [Url.withPairs, hpairs, Url.appended_of_none h.1 h.2, Text.formPairs_formQuery]

/-- A call whose path has been written with parameters. -/
theorem queries_withQuery (call : Call) (hend : Url.NoBlankEnd path.toList)
    (pairs : List (String × String)) :
    Call.Queries { call with path := withQuery path pairs } { call with path } pairs := by
  have hrequest : ∀ base token,
      ({ call with path := withQuery path pairs } : Call).request? base token =
        (({ call with path } : Call).request? base token).map fun request =>
          { request with url := request.url.withPairs pairs } := by
    intro base token
    by_cases hpairs : pairs = []
    · subst hpairs
      exact Option.map_id'.symm
    · rw [withQuery_of_ne_nil path hpairs,
        call.request?_query base token path hend (Text.plainQuery_formQuery pairs)]
      simp [Url.withPairs, hpairs]
  refine ⟨hrequest, fun base token request hbare hends => ?_⟩
  refine ⟨{ request with url := request.url.withPairs pairs }, ?_, formPairs_withPairs hends pairs⟩
  rw [hrequest, hbare, Option.map_some]

/-- A URL whose text goes up to its path, read with parameters behind it. -/
theorem parse_withQuery {url : Url} (hread : Url.parse path = .ok url)
    (hmarks : Url.Markless path.toList) (hend : Url.NoBlankEnd path.toList)
    (hpairs : pairs ≠ []) :
    Url.parse (withQuery path pairs) =
        .ok { url with query := some (.ofList (Text.formQuery pairs)) } ∨
      Url.parse (withQuery path pairs) = .error .emptyHost ∧ url.isHttp = false := by
  rw [Url.parse] at hread ⊢
  rw [toList_withQuery path hpairs]
  refine (Url.parseChars_query (Text.plainQuery_formQuery pairs) hend).imp (fun hsame => ?_)
    (fun hfail => ⟨hfail.1, hfail.2 url hread⟩)
  have hends := Url.endsWithPath_parseChars hmarks hread
  rw [hsame, hread, Except.map, Url.appended_of_none hends.1 hends.2]

theorem readBack (h : Url.Markless path.toList) (pairs : List (String × String)) :
    ReadBack path pairs := by
  have hlocation := location_withQuery h pairs
  constructor
  · rw [hlocation]
  · rw [hlocation]
    exact Dict.ascending_ofList pairs
  · intro name
    rw [hlocation]
    exact Dict.get?_ofList pairs name
  · intro hpairs url hread
    rw [Url.parse, toList_withQuery path hpairs] at hread
    exact Url.query_of_parseChars h (Text.plainQuery_formQuery pairs) hread
  · intro hpairs url hread hend
    exact parse_withQuery hread h hend hpairs
  · exact Text.formPairs_formQuery pairs

end Endpoint

/-- Whatever parameters are written behind a path that has neither a question mark nor a number
sign, they are read back, as a location and as a URL; the path stays what it is.

So a call whose path is written with parameters asks for what it would ask for without them, and for
them: a search for the keyword, and a list of products for the category, the keyword and the page
that there are. -/
theorem written_query_is_read_back :
    (∀ (path : String) (pairs : List (String × String)), Url.Markless path.toList →
      Endpoint.ReadBack path pairs) ∧
    (∀ (call : Call) (path : String) (pairs : List (String × String)),
      Url.NoBlankEnd path.toList →
        Call.Queries { call with path := Endpoint.withQuery path pairs } { call with path }
          pairs) ∧
    (∀ keyword, (Endpoint.Blog.search keyword).Queries (.get "/search") [("q", keyword)]) ∧
    ∀ category keyword page, (Endpoint.Shop.products category keyword page).Queries
      (.get "/products") (Endpoint.present [("category_id", category.map Endpoint.text),
        ("keyword", keyword), ("page", page.map Endpoint.text)]) := by
  refine ⟨fun path pairs hmarks => Endpoint.readBack hmarks pairs,
    fun call path pairs hend => Endpoint.queries_withQuery call hend pairs, ?_, ?_⟩
  · intro keyword
    exact Endpoint.queries_withQuery (.get "/search") (by decide) _
  · intro category keyword page
    exact Endpoint.queries_withQuery (.get "/products") (by decide) _

/-- Empty names, equal names, and a keyword full of marks: the location has the last value of each
name, and the search asks for the keyword. -/
theorem marks_arrive_in_queries :
    let keyword := "a&b=c#+% ?é"
    let pairs := [("q", "x"), ("", ""), ("q", keyword)]
    let read := Location.parse (Endpoint.withQuery "/search//" pairs)
    read.path = "/search" ∧ Dict.get? read.query "q" = some keyword ∧
      Dict.get? read.query "" = some "" ∧ Dict.get? read.query "b" = none ∧
      (∀ url, Url.parse (Endpoint.withQuery "http://[::1]/search//" pairs) = .ok url →
        url.query = some "q=x&=&q=a%26b%3Dc%23%2B%25+%3F%C3%A9" ∧ url.fragment = none) ∧
      ∃ asked, (Endpoint.Blog.search keyword).request? "http://localhost/api" none = some asked ∧
        Text.formPairs (asked.url.query.getD "").toList = [("q", keyword)] := by
  intro keyword pairs read
  rcases written_query_is_read_back with ⟨hwritten, -, hsearch, -⟩
  have hmarks : Url.Markless "/search//".toList := by decide +kernel
  have hbase : Url.Markless "http://[::1]/search//".toList := by decide +kernel
  have hread := hwritten "/search//" pairs hmarks
  have hwhole : (Location.parse "/search//").path = "/search" := by decide +kernel
  have hquery : String.ofList (Text.formQuery pairs) = "q=x&=&q=a%26b%3Dc%23%2B%25+%3F%C3%A9" := by
    decide +kernel
  have hbare : ∃ request ∈ (Call.get "/search").request? "http://localhost/api" none,
      request.url.EndsWithPath := by decide +kernel
  rcases hbare with ⟨request, hrequest, hends⟩
  refine ⟨hread.path_eq.trans hwhole, hread.get?_query "q", hread.get?_query "",
    hread.get?_query "b", fun url hurl => ?_,
    (hsearch keyword).pairs_eq _ none request hrequest hends⟩
  have hparts := (hwritten _ pairs hbase).query_eq (by decide) url hurl
  rwa [hquery] at hparts

end WebClient
