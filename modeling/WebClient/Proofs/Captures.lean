import WebClient.Proofs.RequestPath
import WebClient.Proofs.Rows

/-!
# Captures — what a pattern says about a path

A pattern is written like a path, and what it captures can be put back: with a value in the place of
each name, the pattern reads as the path that it matched.

* `Pattern.WellFormed` says which texts are patterns, and `Pattern.parse_eq_ok_iff` that these are
  the ones that are accepted, each segment being read by itself (`Segment.ofText`).
* `Pattern.Fills` puts values in the places of names; `Pattern.Captures` are the maps that have one
  value for each name and fill the pattern to a given path.
* `match_is_filling`: where no name is used twice, matching finds exactly these maps, and no path
  has two of them.
-/

namespace WebClient

/-! ## Patterns as written -/

/-- A segment of a pattern, read by itself. -/
def Segment.ofText (segment : String) : Segment :=
  match segment.toList with
  | ':' :: name => .param (.ofList name)
  | '*' :: name => .rest (.ofList name)
  | _ => .literal segment

/-- The name under which a segment captures. -/
def Segment.name? : Segment → Option String
  | .literal _ => none
  | .param name | .rest name => some name

namespace Pattern

/-- The names of all captures, in order. -/
def names (p : Pattern) : List String := p.segments.filterMap Segment.name?

/-- Which texts are patterns. -/
structure WellFormed (text : String) : Prop where
  rooted : text.toList.head? = some '/'
  named : ∀ segment ∈ Text.segments text, ∀ mark name, segment.toList = mark :: name →
    mark = ':' ∨ mark = '*' → name ≠ []
  restIsLast : ∀ before segment after, Text.segments text = before ++ segment :: after →
    segment.toList.head? = some '*' → after = []

variable {written : List (List Char)} {cs : List Char} {segments : List Segment}
  {parts : List String}

/-- One segment is read if it is not a mark alone, and captures all that remains only at the end. -/
theorem parseSegment_eq_ok_iff {isLast : Bool} {segment : Segment} :
    parseSegment isLast cs = .ok segment ↔
      (cs ≠ [':'] ∧ cs ≠ ['*']) ∧ (cs.head? = some '*' → isLast = true) ∧
        segment = Segment.ofText (.ofList cs) := by
  unfold parseSegment Segment.ofText
  rw [String.toList_ofList]
  split
  · simp
  · rename_i name hname
    have hne : name ≠ [] := hname
    simp [hne, eq_comm]
  · simp
  · rename_i name hname
    have hne : name ≠ [] := hname
    cases isLast <;> simp [hne, eq_comm]
  · rename_i _ hparam _ hrest
    have hunmarked : ∀ mark name, cs = mark :: name → mark ≠ ':' ∧ mark ≠ '*' := by
      rintro mark name rfl
      refine ⟨?_, ?_⟩
      · rintro rfl
        exact hparam name rfl
      · rintro rfl
        exact hrest name rfl
    cases cs with
    | nil => simp [eq_comm]
    | cons mark name =>
        have hmark := hunmarked mark name rfl
        simp [hmark.1, hmark.2, eq_comm]

/-- Whether no segment but the last begins with a star. -/
def StarIsLast : List (List Char) → Prop
  | [] => True
  | segment :: written => (segment.head? = some '*' → written = []) ∧ StarIsLast written

theorem parseSegments_eq_ok_iff :
    parseSegments written = .ok segments ↔
      (∀ segment ∈ written, segment ≠ [':'] ∧ segment ≠ ['*']) ∧ StarIsLast written ∧
        segments = written.map fun segment => Segment.ofText (.ofList segment) := by
  induction written generalizing segments with
  | nil => simp [parseSegments, StarIsLast, eq_comm]
  | cons segment written ih =>
      unfold parseSegments
      constructor
      · intro h
        cases hfirst : parseSegment written.isEmpty segment with
        | error fault => simp [hfirst, bind, Except.bind] at h
        | ok first =>
            cases hothers : parseSegments written with
            | error fault => simp [hfirst, hothers, bind, Except.bind] at h
            | ok others =>
                simp only [hfirst, hothers, bind, Except.bind, pure, Except.pure,
                  Except.ok.injEq] at h
                subst h
                rcases parseSegment_eq_ok_iff.1 hfirst with ⟨hnamed, hlast, rfl⟩
                rcases ih.1 hothers with ⟨hothersNamed, hothersLast, rfl⟩
                refine ⟨List.forall_mem_cons.2 ⟨hnamed, hothersNamed⟩, ⟨?_, hothersLast⟩, rfl⟩
                exact fun hstar => List.isEmpty_iff.1 (hlast hstar)
      · rintro ⟨hnamed, ⟨hlast, hothersLast⟩, rfl⟩
        rcases List.forall_mem_cons.1 hnamed with ⟨hfirstNamed, hothersNamed⟩
        have hfirst := parseSegment_eq_ok_iff.2
          ⟨hfirstNamed, fun hstar => List.isEmpty_iff.2 (hlast hstar), rfl⟩
        have hothers := ih.2 ⟨hothersNamed, hothersLast, rfl⟩
        simp [hfirst, hothers, bind, Except.bind, pure, Except.pure]

theorem starIsLast_iff :
    StarIsLast written ↔ ∀ before segment after, written = before ++ segment :: after →
      segment.head? = some '*' → after = [] := by
  induction written with
  | nil => simp [StarIsLast]
  | cons first written ih =>
      constructor
      · rintro ⟨hfirst, hothers⟩ before segment after hsplit hstar
        rcases List.cons_eq_append_iff.1 hsplit with ⟨rfl, hcons⟩ | ⟨before', rfl, hwritten⟩
        · cases hcons
          exact hfirst hstar
        · exact ih.1 hothers before' segment after hwritten hstar
      · intro h
        refine ⟨h [] first written rfl, ih.2 ?_⟩
        intro before segment after hsplit
        exact h (first :: before) segment after (congrArg (first :: ·) hsplit)

theorem wellFormed_iff {text : String} :
    WellFormed text ↔
      text.toList.head? = some '/' ∧
        (∀ segment ∈ Text.segmentLists text.toList, segment ≠ [':'] ∧ segment ≠ ['*']) ∧
          StarIsLast (Text.segmentLists text.toList) := by
  constructor
  · intro h
    refine ⟨h.rooted, ?_, starIsLast_iff.2 ?_⟩
    · intro segment hsegment
      have hnamed := h.named _ (List.mem_map_of_mem hsegment)
      rw [String.toList_ofList] at hnamed
      refine ⟨?_, ?_⟩
      · rintro rfl
        exact hnamed ':' [] rfl (.inl rfl) rfl
      · rintro rfl
        exact hnamed '*' [] rfl (.inr rfl) rfl
    · intro before segment after hsplit hstar
      have hsegments : Text.segments text =
          before.map String.ofList ++ .ofList segment :: after.map String.ofList := by
        simp [Text.segments, hsplit]
      exact List.map_eq_nil_iff.1 (h.restIsLast _ _ _ hsegments (by rwa [String.toList_ofList]))
  · rintro ⟨hrooted, hnamed, hlast⟩
    refine ⟨hrooted, ?_, ?_⟩
    · intro segment hsegment mark name hname hmark
      rcases List.mem_map.1 hsegment with ⟨written, hwritten, rfl⟩
      rw [String.toList_ofList] at hname
      rintro rfl
      rcases hmark with rfl | rfl
      · exact (hnamed written hwritten).1 hname
      · exact (hnamed written hwritten).2 hname
    · intro before segment after hsplit hstar
      rcases List.map_eq_append_iff.1 hsplit with ⟨before', tail, hwritten, -, htail⟩
      rcases List.map_eq_cons_iff.1 htail with ⟨segment', after', rfl, rfl, rfl⟩
      rw [String.toList_ofList] at hstar
      rw [starIsLast_iff.1 hlast before' segment' after' hwritten hstar]
      rfl

/-- A text is read as a pattern exactly if it is one, segment by segment. -/
theorem parse_eq_ok_iff {text : String} {p : Pattern} :
    parse text = .ok p ↔
      WellFormed text ∧ p = ⟨text, (Text.segments text).map Segment.ofText⟩ := by
  have hmap : (Text.segments text).map Segment.ofText =
      (Text.segmentLists text.toList).map fun segment => Segment.ofText (.ofList segment) :=
    List.map_map
  rw [wellFormed_iff, hmap]
  unfold parse
  split
  · rename_i tail hroot
    cases hsegments : parseSegments (Text.segmentLists text.toList) with
    | ok segments =>
        rcases parseSegments_eq_ok_iff.1 hsegments with ⟨hnamed, hlast, rfl⟩
        have hrooted : text.toList.head? = some '/' := by
          rw [hroot]
          rfl
        exact ⟨fun h => ⟨⟨hrooted, hnamed, hlast⟩, (Except.ok.inj h).symm⟩,
          fun h => congrArg Except.ok h.2.symm⟩
    | error fault =>
        refine iff_of_false (by simp) ?_
        rintro ⟨⟨-, hnamed, hlast⟩, -⟩
        cases hsegments.symm.trans (parseSegments_eq_ok_iff.2 ⟨hnamed, hlast, rfl⟩)
  · rename_i hroot
    refine iff_of_false (by simp) ?_
    rintro ⟨⟨hrooted, -, -⟩, -⟩
    exact hroot _ (List.eq_cons_of_mem_head? hrooted)

/-! ## Values in the places of names -/

end Pattern

/-- One non-empty segment of a path. -/
def Text.IsSegment (part : String) : Prop := part ≠ "" ∧ '/' ∉ part.toList

theorem Text.isSegment_of_mem_segments {path part : String} (h : part ∈ Text.segments path) :
    Text.IsSegment part := by
  refine ⟨?_, ?_⟩
  · rintro rfl
    exact Text.ne_empty_of_mem_segments h rfl
  · rcases List.mem_map.1 h with ⟨piece, hpiece, rfl⟩
    rw [String.toList_ofList]
    exact Text.not_mem_of_mem_pieces (List.mem_filter.1 hpiece).1

namespace Pattern

/-- What segments of a pattern become when each name makes place for its value.  The value of a
single segment is one segment; that of all that remains is any number of them, joined by slashes. -/
inductive Fills (params : Dict String) : List Segment → List String → Prop where
  | nil : Fills params [] []
  | literal {segments : List Segment} {parts : List String} (text : String)
      (hrest : Fills params segments parts) :
      Fills params (.literal text :: segments) (text :: parts)
  | param {segments : List Segment} {parts : List String} {name value : String}
      (hvalue : Dict.get? params name = some value) (hsegment : Text.IsSegment value)
      (hrest : Fills params segments parts) :
      Fills params (.param name :: segments) (value :: parts)
  | rest {segments : List Segment} {parts remaining : List String} {name : String}
      (hvalue : Dict.get? params name = some (Text.slashed remaining))
      (hsegments : ∀ part ∈ remaining, Text.IsSegment part)
      (hrest : Fills params segments parts) :
      Fills params (.rest name :: segments) (remaining ++ parts)

/-- The maps that have one value for each name of a pattern, none else, and fill it to a path. -/
structure Captures (p : Pattern) (path : String) (params : Dict String) : Prop where
  ascending : params.Ascending
  mem_keys : ∀ name, name ∈ params.map (·.1) ↔ name ∈ p.names
  fills : Fills params p.segments (Text.segments path)

section Matching

variable {segments : List Segment} {parts : List String} {captures : List (String × String)}
  {params : Dict String}

/-- Every name captures once, in order. -/
theorem names_of_captures (h : captures? segments parts = some captures)
    (hlast : RestIsLast segments) :
    captures.map (·.1) = segments.filterMap Segment.name? := by
  induction segments generalizing parts captures with
  | nil =>
      cases parts with
      | nil =>
          cases h
          rfl
      | cons part parts => cases h
  | cons segment segments ih =>
      cases segment with
      | literal text =>
          cases parts with
          | nil => cases h
          | cons part parts =>
              unfold captures? at h
              split at h
              · exact ih h hlast
              · cases h
      | param name =>
          cases parts with
          | nil => cases h
          | cons part parts =>
              rcases Option.map_eq_some_iff.1 h with ⟨others, hothers, rfl⟩
              simpa [Segment.name?] using ih hothers hlast
      | rest name =>
          have hnil : segments = [] := hlast
          cases h
          simp [hnil, Segment.name?]

/-- What is captured, put back in the places of the names, gives the path. -/
theorem fills_of_captures (h : captures? segments parts = some captures)
    (hlast : RestIsLast segments) (hparts : ∀ part ∈ parts, Text.IsSegment part)
    (hvalues : ∀ name value, (name, value) ∈ captures → Dict.get? params name = some value) :
    Fills params segments parts := by
  induction segments generalizing parts captures with
  | nil =>
      cases parts with
      | nil => exact .nil
      | cons part parts => cases h
  | cons segment segments ih =>
      cases segment with
      | literal text =>
          cases parts with
          | nil => cases h
          | cons part parts =>
              unfold captures? at h
              split at h
              · rename_i heq
                subst heq
                exact .literal text (ih h hlast (List.forall_mem_cons.1 hparts).2 hvalues)
              · cases h
      | param name =>
          cases parts with
          | nil => cases h
          | cons part parts =>
              rcases Option.map_eq_some_iff.1 h with ⟨others, hothers, rfl⟩
              rcases List.forall_mem_cons.1 hparts with ⟨hpart, hparts⟩
              refine .param (hvalues name part List.mem_cons_self) hpart ?_
              exact ih hothers hlast hparts fun name value hvalue =>
                hvalues name value (List.mem_cons_of_mem _ hvalue)
      | rest name =>
          have hnil : segments = [] := hlast
          subst hnil
          cases h
          simpa using Fills.rest (hvalues name _ List.mem_cons_self) hparts .nil

/-- A path that a pattern is filled to is matched, with the values that it was filled with. -/
theorem captures_of_fills (h : Fills params segments parts) (hlast : RestIsLast segments) :
    ∃ captures, captures? segments parts = some captures ∧
      ∀ name value, (name, value) ∈ captures → Dict.get? params name = some value := by
  induction h with
  | nil => exact ⟨[], rfl, fun name value hvalue => nomatch hvalue⟩
  | literal text hrest ih =>
      rcases ih hlast with ⟨captures, hcaptures, hvalues⟩
      exact ⟨captures, by simp [captures?, hcaptures], hvalues⟩
  | @param segments parts name value hvalue hsegment hrest ih =>
      rcases ih hlast with ⟨captures, hcaptures, hvalues⟩
      refine ⟨(name, value) :: captures, by simp [captures?, hcaptures], ?_⟩
      intro name' value' hmem
      rcases List.mem_cons.1 hmem with hfirst | hmem
      · cases hfirst
        exact hvalue
      · exact hvalues name' value' hmem
  | @rest segments parts remaining name hvalue hsegments hrest ih =>
      -- Nothing follows, so that the rest of the path is what remains.
      have hnil : segments = [] := hlast
      subst hnil
      cases hrest
      refine ⟨[(name, Text.slashed remaining)], by simp [captures?], ?_⟩
      intro name' value' hmem
      cases List.mem_singleton.1 hmem
      exact hvalue

end Matching
end Pattern

/-- A map made of pairs with different keys has just these pairs. -/
theorem Dict.get?_ofList_eq_some_iff {α : Type} {pairs : List (String × α)}
    (hkeys : (pairs.map (·.1)).Nodup) {key : String} {value : α} :
    Dict.get? (Dict.ofList pairs) key = some value ↔ (key, value) ∈ pairs := by
  have hmem : ∀ {value : α}, Dict.get? (Dict.ofList pairs) key = some value →
      (key, value) ∈ pairs := fun h => Dict.mem_of_mem_ofList (Dict.mem_of_get? h)
  refine ⟨hmem, fun h => ?_⟩
  -- Some pair with this key is in the map, and there is no other.
  rcases Option.isSome_iff_exists.1 (Dict.get?_putAll h []) with ⟨found, hfound⟩
  have hfirst := (Dict.get?_eq_some_iff hkeys).2 h
  have hsame := (Dict.get?_eq_some_iff hkeys).2 (hmem hfound)
  cases hfirst.symm.trans hsame
  exact hfound

namespace Pattern

variable {p : Pattern} {path : String} {params params' : Dict String}

/-- Matching finds the map of captures, if no name is used twice. -/
theorem match?_eq_some_iff (hlast : RestIsLast p.segments) (hnames : p.names.Nodup) :
    p.match? path = some params ↔ p.Captures path params := by
  have hget : ∀ {captures : List (String × String)},
      captures? p.segments (Text.segments path) = some captures → ∀ name value,
        Dict.get? (Dict.ofList captures) name = some value ↔ (name, value) ∈ captures :=
    fun hcaptures name value =>
      Dict.get?_ofList_eq_some_iff ((names_of_captures hcaptures hlast).symm ▸ hnames)
  constructor
  · intro h
    rcases Option.map_eq_some_iff.1 h with ⟨captures, hcaptures, rfl⟩
    have hkeys : captures.map (·.1) = p.names := names_of_captures hcaptures hlast
    refine ⟨Dict.ascending_ofList captures, fun name => ?_, ?_⟩
    · rw [← hkeys]
      constructor
      · intro hname
        rcases List.mem_map.1 hname with ⟨entry, hentry, rfl⟩
        exact List.mem_map_of_mem (Dict.mem_of_mem_ofList hentry)
      · intro hname
        rcases List.mem_map.1 hname with ⟨⟨name, value⟩, hentry, rfl⟩
        exact List.mem_map_of_mem (Dict.mem_of_get? ((hget hcaptures name value).2 hentry))
    · exact fills_of_captures hcaptures hlast (fun part => Text.isSegment_of_mem_segments)
        fun name value => (hget hcaptures name value).2
  · intro h
    rcases captures_of_fills h.fills hlast with ⟨captures, hcaptures, hvalues⟩
    refine Option.map_eq_some_iff.2 ⟨captures, hcaptures, ?_⟩
    refine (Dict.ascending_ofList captures).ext h.ascending fun name => Option.ext fun value => ?_
    rw [hget hcaptures]
    refine ⟨hvalues name value, fun hvalue => ?_⟩
    -- The name is one of the pattern's, so that it captured something: its value.
    have hname : name ∈ captures.map (·.1) := by
      rw [names_of_captures hcaptures hlast]
      exact (h.mem_keys name).1 (List.mem_map_of_mem (Dict.mem_of_get? hvalue))
    rcases List.mem_map.1 hname with ⟨⟨name, captured⟩, hcaptured, rfl⟩
    cases hvalue.symm.trans (hvalues name captured hcaptured)
    exact hcaptured

end Pattern

/-! ## Matching is filling in -/

/-- A text is accepted as a pattern exactly if it is well-formed.  If no name is used twice in it,
it matches a path exactly if the path is what becomes of it when each name makes place for its
value, and what it then captures are these values: no others fill it to this path. -/
theorem match_is_filling :
    (∀ text : String, (∃ p, Pattern.parse text = .ok p) ↔ Pattern.WellFormed text) ∧
      ∀ (text : String) (p : Pattern), Pattern.parse text = .ok p →
        p = ⟨text, (Text.segments text).map Segment.ofText⟩ ∧
          (p.names.Nodup → ∀ path : String,
            (∀ params, p.match? path = some params ↔ p.Captures path params) ∧
              ∀ params params', p.Captures path params → p.Captures path params' →
                params = params') := by
  refine ⟨fun text => ?_, fun text p hparse => ⟨(Pattern.parse_eq_ok_iff.1 hparse).2, ?_⟩⟩
  · simp [Pattern.parse_eq_ok_iff]
  · intro hnames path
    have hmatch : ∀ params, p.match? path = some params ↔ p.Captures path params := fun params =>
      Pattern.match?_eq_some_iff (Pattern.restIsLast_of_parse hparse) hnames
    refine ⟨hmatch, fun params params' h h' => ?_⟩
    exact Option.some.inj (((hmatch params).2 h).symm.trans ((hmatch params').2 h'))

/-- A pattern of a shop's pages and the maps that fill it to two paths; what follows a capture of
all that remains keeps a text from being a pattern. -/
theorem seller_pages_are_filled :
    (∃ p, Pattern.parse "/seller/:shop/*page" = .ok p ∧ p.names = ["shop", "page"] ∧
      p.Captures "/seller//7/orders/open/" [("page", "orders/open"), ("shop", "7")] ∧
        p.Captures "/seller/7" [("page", ""), ("shop", "7")]) ∧
      ¬ Pattern.WellFormed "/admin/*rest/edit" := by
  refine ⟨⟨⟨"/seller/:shop/*page", [.literal "seller", .param "shop", .rest "page"]⟩, ?_⟩, ?_⟩
  · have hparse : Pattern.parse "/seller/:shop/*page" =
        .ok ⟨"/seller/:shop/*page", [.literal "seller", .param "shop", .rest "page"]⟩ := by
      rfl
    have hmatch := (match_is_filling.2 _ _ hparse).2 (by decide)
    refine ⟨hparse, rfl, ((hmatch _).1 _).1 ?_, ((hmatch _).1 _).1 ?_⟩
    · decide +kernel
    · decide +kernel
  · refine fun h => ?_
    rcases (match_is_filling.1 "/admin/*rest/edit").2 h with ⟨p, hparse⟩
    have hrefused : Pattern.parse "/admin/*rest/edit" =
        .error ⟨"/admin/*rest/edit", .restNotLast⟩ := by
      rfl
    cases hrefused.symm.trans hparse

end WebClient
