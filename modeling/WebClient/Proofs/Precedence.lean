import Mathlib.Data.List.Permutation
import Mathlib.Data.Prod.Lex
import WebClient.Proofs.RestrictedArea

/-!
# Precedence — which of the routes that match a path serves it

Many routes may match one path.  A table looks for a route without captures first, in the order of
declaration, and then for one with captures, in an order that is made once, when the table is made.

* `Pattern.generality` is what patterns with captures are ordered by: `Pattern.ranksBefore` compares
  it, and so it is total and transitive.
* `List.filter_mergeSort`: sorting keeps the order of elements that tie with each other.
* `RouteTable.Chosen` says which of the declared routes is the one to serve a path, without a table;
  there is at most one (`RouteTable.Chosen.unique`).
* `most_specific_route_is_chosen`: this is the route that a table resolves the path to, and in
  whatever order the routes are declared, only its equals can take its place.
-/

namespace WebClient

/-! ## The order of patterns -/

namespace Pattern

/-- What patterns with captures are ordered by.  The least is the most specific: the one with the
most literal segments, among those the one with the most segments, and among those one that does not
capture the rest. -/
def generality (p : Pattern) : ℕᵒᵈ ×ₗ ℕᵒᵈ ×ₗ Bool :=
  toLex (OrderDual.toDual p.literalCount, toLex (OrderDual.toDual p.segments.length, p.hasRest))

theorem ranksBefore_iff {p q : Pattern} :
    p.ranksBefore q = true ↔ p.generality ≤ q.generality := by
  simp only [generality, Prod.Lex.toLex_le_toLex, OrderDual.toDual_lt_toDual,
    OrderDual.toDual_inj, ranksBefore, bne_iff_ne]
  by_cases hliteral : p.literalCount = q.literalCount
  · by_cases hlength : p.segments.length = q.segments.length
    · cases p.hasRest <;> cases q.hasRest <;> simp [hliteral, hlength]
    · simp [hliteral, hlength]
  · simp [hliteral]

theorem ranksBefore_trans (p q r : Pattern) (hpq : p.ranksBefore q = true)
    (hqr : q.ranksBefore r = true) : p.ranksBefore r = true :=
  ranksBefore_iff.2 ((ranksBefore_iff.1 hpq).trans (ranksBefore_iff.1 hqr))

theorem ranksBefore_total (p q : Pattern) : (p.ranksBefore q || q.ranksBefore p) = true := by
  rw [Bool.or_eq_true, ranksBefore_iff, ranksBefore_iff]
  exact le_total _ _

end Pattern

/-! ## Sorting -/

/-- Sorting keeps the order of elements that tie with each other. -/
theorem List.filter_mergeSort {α : Type} {le : α → α → Bool} {picks : α → Bool}
    (htrans : ∀ a b c, le a b = true → le b c = true → le a c = true)
    (htotal : ∀ a b, (le a b || le b a) = true)
    (hties : ∀ a b, picks a = true → picks b = true → le a b = true) (l : List α) :
    (l.mergeSort le).filter picks = l.filter picks := by
  have hordered : (l.filter picks).Pairwise fun a b => le a b = true := by
    refine List.pairwise_of_forall_mem_list fun a ha b hb => ?_
    exact hties a b (List.of_mem_filter ha) (List.of_mem_filter hb)
  -- What is picked stands in the sorted list in this order, and nothing else is picked there.
  have hkept : (l.filter picks).Sublist ((l.mergeSort le).filter picks) := by
    simpa using (List.sublist_mergeSort htrans htotal hordered List.filter_sublist).filter picks
  have hlength : (l.filter picks).length = ((l.mergeSort le).filter picks).length :=
    ((List.mergeSort_perm l le).filter picks).length_eq.symm
  exact (hkept.eq_of_length hlength).symm

namespace RouteTable

variable {η : Type} {routes routes' : List (Route η)} {notFound : η} {path : String}
  {route route' : Route η} {params params' : Dict String}

/-! ## The route to be chosen -/

/-- Whether a route without captures matches a path. -/
def matchesExactly (path : String) (route : Route η) : Bool :=
  route.pattern.isExact && (route.pattern.match? path).isSome

/-- Whether a route with captures, just as general as some pattern, matches a path. -/
def matchesLike (path : String) (p : Pattern) (route : Route η) : Bool :=
  !route.pattern.isExact && (route.pattern.match? path).isSome &&
    decide (route.pattern.generality = p.generality)

/-- Which of the declared routes is to serve a path, with what captures: the first one without
captures that matches; if none of these matches, the first of the least general ones that match. -/
inductive Chosen (routes : List (Route η)) (path : String) : Route η → Dict String → Prop where
  | exact {route : Route η} (hfirst : routes.find? (matchesExactly path) = some route) :
      Chosen routes path route []
  | capturing {route : Route η} {params : Dict String}
      (hnone : routes.find? (matchesExactly path) = none)
      (hmatch : route.pattern.match? path = some params)
      (hleast : ∀ other ∈ routes, (other.pattern.match? path).isSome = true →
        route.pattern.generality ≤ other.pattern.generality)
      (hfirst : routes.find? (matchesLike path route.pattern) = some route) :
      Chosen routes path route params

theorem Chosen.mem (h : Chosen routes path route params) :
    route ∈ routes ∧ (route.pattern.match? path).isSome = true := by
  cases h with
  | exact hfirst =>
      have hmatches := List.find?_some hfirst
      simp only [matchesExactly, Bool.and_eq_true] at hmatches
      exact ⟨List.mem_of_find?_eq_some hfirst, hmatches.2⟩
  | capturing hnone hmatch hleast hfirst =>
      exact ⟨List.mem_of_find?_eq_some hfirst, by rw [hmatch]; rfl⟩

/-- There is at most one route to be chosen. -/
theorem Chosen.unique (h : Chosen routes path route params)
    (h' : Chosen routes path route' params') : route = route' ∧ params = params' := by
  cases h with
  | exact hfirst =>
      cases h' with
      | exact hfirst' => exact ⟨Option.some.inj (hfirst.symm.trans hfirst'), rfl⟩
      | capturing hnone' _ _ _ => cases hfirst.symm.trans hnone'
  | capturing hnone hmatch hleast hfirst =>
      cases h' with
      | exact hfirst' => cases hfirst'.symm.trans hnone
      | capturing hnone' hmatch' hleast' hfirst' =>
          -- Each is at most as general as the other, so that both are the first of one kind.
          have hle := hleast route' (List.mem_of_find?_eq_some hfirst') (by rw [hmatch']; rfl)
          have hge := hleast' route (List.mem_of_find?_eq_some hfirst) (by rw [hmatch]; rfl)
          have hlike : (matchesLike path route.pattern : Route η → Bool) =
              matchesLike path route'.pattern := by
            unfold matchesLike
            rw [le_antisymm hle hge]
          have hsame : route = route' := Option.some.inj (hfirst.symm.trans (hlike ▸ hfirst'))
          subst hsame
          exact ⟨rfl, Option.some.inj (hmatch.symm.trans hmatch')⟩

/-! ## The route that is found -/

theorem findExact?_ofRoutes (routes : List (Route η)) (notFound : η) (path : String) :
    (ofRoutes routes notFound).findExact? path = routes.find? (matchesExactly path) := by
  simp only [findExact?, ofRoutes, List.find?_filter]
  congr 1
  funext route
  simp [matchesExactly]

theorem not_exact_of_find?_eq_none (h : routes.find? (matchesExactly path) = none)
    (hroute : route ∈ routes) (hmatch : (route.pattern.match? path).isSome = true) :
    route.pattern.isExact = false := by
  have hmatches := List.find?_eq_none.1 h route hroute
  simpa [matchesExactly, hmatch] using hmatches

/-- The routes with captures are tried from specific to general. -/
theorem pairwise_capturing (routes : List (Route η)) (notFound : η) :
    (ofRoutes routes notFound).capturing.Pairwise fun a b =>
      a.pattern.generality ≤ b.pattern.generality := by
  have hordered : (ofRoutes routes notFound).capturing.Pairwise fun a b =>
      a.pattern.ranksBefore b.pattern = true :=
    List.pairwise_mergeSort
      (fun a b c => Pattern.ranksBefore_trans a.pattern b.pattern c.pattern)
      (fun a b => Pattern.ranksBefore_total a.pattern b.pattern) _
  exact hordered.imp Pattern.ranksBefore_iff.1

/-- Routes with captures that are just as general as each other are tried as they are declared. -/
theorem find?_capturing (routes : List (Route η)) (notFound : η) (path : String) (p : Pattern) :
    (ofRoutes routes notFound).capturing.find? (matchesLike path p) =
      routes.find? (matchesLike path p) := by
  have hties : ∀ a b : Route η, matchesLike path p a = true → matchesLike path p b = true →
      a.pattern.ranksBefore b.pattern = true := by
    intro a b ha hb
    simp only [matchesLike, Bool.and_eq_true, decide_eq_true_eq] at ha hb
    exact Pattern.ranksBefore_iff.2 (ha.2.trans hb.2.symm).le
  have hcaptures : (fun route : Route η => matchesLike path p route && !route.pattern.isExact) =
      matchesLike path p := by
    funext route
    unfold matchesLike
    cases route.pattern.isExact <;> simp
  have hsorted : (ofRoutes routes notFound).capturing.filter (matchesLike path p) =
      (routes.filter fun route => !route.pattern.isExact).filter (matchesLike path p) :=
    List.filter_mergeSort
      (fun a b c => Pattern.ranksBefore_trans a.pattern b.pattern c.pattern)
      (fun a b => Pattern.ranksBefore_total a.pattern b.pattern) hties _
  rw [← List.head?_filter, ← List.head?_filter, hsorted, List.filter_filter, hcaptures]

/-- What is found among the routes with captures is the first of them that matches. -/
theorem exists_of_findCapturing? {table : RouteTable η}
    (h : table.findCapturing? path = some (route, params)) :
    ∃ before after, table.capturing = before ++ route :: after ∧
      route.pattern.match? path = some params ∧
      ∀ other ∈ before, other.pattern.match? path = none := by
  rcases List.findSome?_eq_some_iff.1 h with ⟨before, found, after, hsplit, hfound, hbefore⟩
  rcases Option.map_eq_some_iff.1 hfound with ⟨captures, hmatch, heq⟩
  cases heq
  exact ⟨before, after, hsplit, hmatch, fun other hother => by simpa using hbefore other hother⟩

/-- Of the routes with captures that match, the one that is found is the first of the least general
ones. -/
theorem chosen_of_findCapturing? (hnone : routes.find? (matchesExactly path) = none)
    (h : (ofRoutes routes notFound).findCapturing? path = some (route, params)) :
    Chosen routes path route params := by
  rcases exists_of_findCapturing? h with ⟨before, after, hsplit, hmatch, hbefore⟩
  have hroute : route.pattern.isExact = false := by
    have hmem : route ∈ (ofRoutes routes notFound).capturing := by simp [hsplit]
    simp only [ofRoutes, List.mem_mergeSort, List.mem_filter] at hmem
    simpa using hmem.2
  refine .capturing hnone hmatch (fun other hother hsome => ?_) ?_
  · -- Whatever else matches comes behind it in the order in which routes are tried.
    have hcapturing : other ∈ before ++ route :: after := by
      rw [← hsplit]
      simp [ofRoutes, hother, not_exact_of_find?_eq_none hnone hother hsome]
    have hordered := pairwise_capturing routes notFound
    rw [hsplit] at hordered
    rcases List.mem_append.1 hcapturing with hearly | hlate
    · simp [hbefore other hearly] at hsome
    · rcases List.mem_cons.1 hlate with rfl | hafter
      · exact le_refl _
      · exact (List.pairwise_cons.1 (List.pairwise_append.1 hordered).2.1).1 other hafter
  · have hunpicked : before.find? (matchesLike path route.pattern) = none := by
      refine List.find?_eq_none.2 fun other hother => ?_
      simp [matchesLike, hbefore other hother]
    rw [← find?_capturing routes notFound, hsplit, List.find?_append, hunpicked,
      List.find?_cons_of_pos (by simp [matchesLike, hroute, hmatch])]
    rfl

theorem chosen_of_resolve
    (h : (ofRoutes routes notFound).resolve path = some (route, params)) :
    Chosen routes path route params := by
  unfold resolve at h
  rw [findExact?_ofRoutes] at h
  split at h
  · rename_i found hfound
    cases h
    exact .exact hfound
  · rename_i hnone
    exact chosen_of_findCapturing? hnone h

theorem resolve_eq_none_iff : (ofRoutes routes notFound).resolve path = none ↔
    ∀ route ∈ routes, route.pattern.match? path = none := by
  constructor
  · intro hnone route hroute
    by_contra hmatch
    have hsome := Option.isSome_iff_ne_none.2 hmatch
    have hdeclared : route ∈ (ofRoutes routes notFound).exact ∨
        route ∈ (ofRoutes routes notFound).capturing := mem_ofRoutes.2 hroute
    rcases exists_resolve hdeclared hsome with ⟨found, params, hfound⟩
    cases hnone.symm.trans hfound
  · intro hunmatched
    by_contra hsome
    rcases Option.ne_none_iff_exists'.1 hsome with ⟨⟨route, params⟩, hfound⟩
    have hchosen := (chosen_of_resolve hfound).mem
    simp [hunmatched route hchosen.1] at hchosen

theorem resolve_eq_some_iff : (ofRoutes routes notFound).resolve path = some (route, params) ↔
    Chosen routes path route params := by
  refine ⟨chosen_of_resolve, fun h => ?_⟩
  cases hfound : (ofRoutes routes notFound).resolve path with
  | none =>
      have hmatch := h.mem.2
      simp [resolve_eq_none_iff.1 hfound route h.mem.1] at hmatch
  | some found =>
      rcases found with ⟨route', params'⟩
      rcases (chosen_of_resolve hfound).unique h with ⟨rfl, rfl⟩
      rfl

/-! ## Other orders of declaration -/

/-- Whether two routes match a path, and only the order of declaration decides between them. -/
def AreEquals (path : String) (route route' : Route η) : Prop :=
  (route.pattern.match? path).isSome = true ∧ (route'.pattern.match? path).isSome = true ∧
    (route.pattern.isExact = true ∧ route'.pattern.isExact = true ∨
      route.pattern.isExact = false ∧ route'.pattern.isExact = false ∧
        route.pattern.generality = route'.pattern.generality)

theorem find?_matchesExactly_of_perm (hperm : routes.Perm routes')
    (hnone : routes.find? (matchesExactly path) = none) :
    routes'.find? (matchesExactly path) = none :=
  List.find?_eq_none.2 fun route hroute => List.find?_eq_none.1 hnone route (hperm.mem_iff.2 hroute)

/-- Whatever the order of declaration, the routes that are chosen are equals. -/
theorem Chosen.areEquals (hperm : routes.Perm routes') (h : Chosen routes path route params)
    (h' : Chosen routes' path route' params') : AreEquals path route route' := by
  refine ⟨h.mem.2, h'.mem.2, ?_⟩
  cases h with
  | exact hfirst =>
      cases h' with
      | exact hfirst' =>
          have hmatches := List.find?_some hfirst
          have hmatches' := List.find?_some hfirst'
          simp only [matchesExactly, Bool.and_eq_true] at hmatches hmatches'
          exact .inl ⟨hmatches.1, hmatches'.1⟩
      | capturing hnone' _ _ _ =>
          cases hfirst.symm.trans (find?_matchesExactly_of_perm hperm.symm hnone')
  | capturing hnone hmatch hleast hfirst =>
      cases h' with
      | exact hfirst' => cases hfirst'.symm.trans (find?_matchesExactly_of_perm hperm hnone)
      | capturing hnone' hmatch' hleast' hfirst' =>
          have hmem := hperm.mem_iff.2 (List.mem_of_find?_eq_some hfirst')
          have hmem' := hperm.mem_iff.1 (List.mem_of_find?_eq_some hfirst)
          have hsome : (route.pattern.match? path).isSome = true := by simp [hmatch]
          have hsome' : (route'.pattern.match? path).isSome = true := by simp [hmatch']
          refine .inr ⟨not_exact_of_find?_eq_none hnone' hmem' hsome,
            not_exact_of_find?_eq_none hnone hmem hsome', ?_⟩
          exact le_antisymm (hleast route' hmem hsome') (hleast' route hmem' hsome)

end RouteTable

/-- Let any routes be declared, and let a path be resolved by their table.

* There is no route for the path exactly if no pattern matches it.
* Otherwise it is served by the first declared route without captures that matches; if none of these
  does, by the least general route with captures that matches, the first declared one of these, with
  the captures of its own match.
* Declared in another order, the routes serve the same paths, and one route can take the place of
  another only if both have no captures, or both have some and are just as general. -/
theorem most_specific_route_is_chosen {η : Type} (routes : List (Route η)) (notFound : η)
    (path : String) :
    let table := RouteTable.ofRoutes routes notFound
    (table.resolve path = none ↔ ∀ route ∈ routes, route.pattern.match? path = none) ∧
      (∀ route params, table.resolve path = some (route, params) ↔
        RouteTable.Chosen routes path route params) ∧
      ∀ routes' : List (Route η), routes.Perm routes' →
        let table' := RouteTable.ofRoutes routes' notFound
        (table'.resolve path = none ↔ table.resolve path = none) ∧
          ∀ route params route' params', table.resolve path = some (route, params) →
            table'.resolve path = some (route', params') →
            RouteTable.AreEquals path route route' := by
  intro table
  refine ⟨RouteTable.resolve_eq_none_iff, fun route params => RouteTable.resolve_eq_some_iff, ?_⟩
  intro routes' hperm table'
  refine ⟨?_, fun route params route' params' h h' => ?_⟩
  · rw [RouteTable.resolve_eq_none_iff, RouteTable.resolve_eq_none_iff]
    exact forall_congr' fun route => imp_congr_left hperm.mem_iff.symm
  · exact (RouteTable.chosen_of_resolve h).areEquals hperm (RouteTable.chosen_of_resolve h')

/-- Three routes with captures for one path, one of them more general than the others. -/
def Route.rivals : List (Route Nat) :=
  [⟨"all", ⟨"/*all", [.rest "all"]⟩, 0, false, none⟩,
    ⟨"first", ⟨"/a/:y", [.literal "a", .param "y"]⟩, 1, false, none⟩,
    ⟨"second", ⟨"/:x/b", [.param "x", .literal "b"]⟩, 2, false, none⟩]

/-- Of two routes that are just as general the one that is declared first serves the path, with its
own captures. -/
theorem rivals_take_turns :
    ∃ route route' : Route Nat, route.handler = 1 ∧ route'.handler = 2 ∧
      Route.rivals.Perm Route.rivals.reverse ∧
      (RouteTable.ofRoutes Route.rivals 0).resolve "a//b" = some (route, [("y", "b")]) ∧
      (RouteTable.ofRoutes Route.rivals.reverse 0).resolve "a//b" = some (route', [("x", "a")]) ∧
      RouteTable.AreEquals "a//b" route route' := by
  have hperm : Route.rivals.Perm Route.rivals.reverse := (List.reverse_perm _).symm
  have hfirst : ((RouteTable.ofRoutes Route.rivals 0).resolve "a//b").map
      (fun found => (found.1.handler, found.2)) = some (1, [("y", "b")]) := by cbv
  have hsecond : ((RouteTable.ofRoutes Route.rivals.reverse 0).resolve "a//b").map
      (fun found => (found.1.handler, found.2)) = some (2, [("x", "a")]) := by cbv
  rcases Option.map_eq_some_iff.1 hfirst with ⟨⟨route, params⟩, hroute, heq⟩
  rcases Option.map_eq_some_iff.1 hsecond with ⟨⟨route', params'⟩, hroute', heq'⟩
  rcases Prod.mk.inj heq with ⟨hhandler, rfl⟩
  rcases Prod.mk.inj heq' with ⟨hhandler', rfl⟩
  exact ⟨route, route', hhandler, hhandler', hperm, hroute, hroute',
    ((most_specific_route_is_chosen Route.rivals 0 "a//b").2.2 _ hperm).2 _ _ _ _ hroute hroute'⟩

end WebClient
