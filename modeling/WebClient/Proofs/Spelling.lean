import Mathlib.Data.List.TakeWhile
import WebClient.Proofs.AppendedQuery
import WebClient.Proofs.Itinerary

/-!
# Spelling — many ways to write a location, and one normal form

A location may be written with slashes that separate nothing, with a query and with a fragment.
What counts for the choice of a page are the segments of its path, and the normal form is a way to
write these that is the same for all.

* `Location.writtenPath` is the path of a location as it is written, `Location.InNormalForm` says
  what its normal form looks like.
* `Text.segmentLists_slash`: the segments of a path are those before and those behind any slash.
* `Location.inNormalForm_iff`: a path in normal form is one that is read as it is written.
* `every_spelling_has_one_normal_form`: locations have the same normal form exactly if their paths
  have the same segments, and then all patterns and tables say the same about them.
-/

namespace WebClient

/-! ## Segments and slashes -/

namespace Text

variable {cs before after : List Char} {parts : List (List Char)}

theorem cutAt_fst (sep : Char) (cs : List Char) : (cutAt sep cs).1 = cs.takeWhile (· != sep) := by
  induction cs with
  | nil => rfl
  | cons c cs ih => by_cases hc : c = sep <;> simp [cutAt, hc, ih]

/-- A slash ends a segment, and another one may begin behind it. -/
theorem segmentLists_slash (before after : List Char) :
    segmentLists (before ++ '/' :: after) = segmentLists before ++ segmentLists after := by
  simp only [segmentLists, pieces_append, List.filter_append]

/-- One slash separates as well as many. -/
theorem segmentLists_slashes (before after : List Char) (n : Nat) :
    segmentLists (before ++ List.replicate (n + 1) '/' ++ after) =
      segmentLists before ++ segmentLists after := by
  induction n generalizing before with
  | zero => simpa using segmentLists_slash before after
  | succ n ih =>
      have hslash : before ++ List.replicate (n + 2) '/' ++ after =
          (before ++ ['/']) ++ List.replicate (n + 1) '/' ++ after := by
        simp [List.replicate_succ]
      have hlast : segmentLists (before ++ ['/']) = segmentLists before :=
        (segmentLists_slash before []).trans (List.append_nil _)
      rw [hslash, ih, hlast]

theorem of_mem_segmentLists {segment : List Char} (h : segment ∈ segmentLists cs) :
    segment ≠ [] ∧ '/' ∉ segment ∧ segment ⊆ cs := by
  rcases List.mem_filter.1 h with ⟨hpiece, hne⟩
  exact ⟨by simpa using hne, not_mem_of_mem_pieces hpiece, fun c => mem_of_mem_pieces hpiece⟩

/-- Segments that are joined by slashes are found again. -/
theorem segmentLists_joined (h : ∀ part ∈ parts, part ≠ [] ∧ '/' ∉ part) :
    segmentLists (joined '/' parts) = parts := by
  by_cases hnil : parts = []
  · subst hnil
    rfl
  · rw [segmentLists, pieces_joined hnil fun part hpart => (h part hpart).2,
      List.filter_eq_self.2 fun part hpart => by simpa using (h part hpart).1]

theorem segmentLists_normalPath (cs : List Char) :
    segmentLists (Location.normalPath cs) = segmentLists cs := by
  have hroot : segmentLists (Location.normalPath cs) = _ :=
    segmentLists_slash [] (joined '/' (segmentLists cs))
  rw [hroot, segmentLists_joined fun part hpart =>
    ⟨(of_mem_segmentLists hpart).1, (of_mem_segmentLists hpart).2.1⟩]
  rfl

/-- Wherever pieces are told apart, a slash stands before those that remain. -/
theorem exists_joined_append (firsts : List (List Char)) (hne : parts ≠ []) :
    ∃ before, '/' :: joined '/' (firsts ++ parts) = before ++ '/' :: joined '/' parts := by
  induction firsts with
  | nil => exact ⟨[], rfl⟩
  | cons first firsts ih =>
      rcases ih with ⟨before, hbefore⟩
      refine ⟨'/' :: first ++ before, ?_⟩
      rw [List.cons_append, joined_cons first (List.append_ne_nil_of_right_ne_nil _ hne), hbefore]
      simp

end Text

/-! ## The normal form -/

namespace Location

/-- The path of a location as it is written: what stands before a query and a fragment. -/
def writtenPath (raw : String) : String :=
  .ofList (raw.toList.takeWhile fun c => c != '?' && c != '#')

/-- What the normal form of a path looks like. -/
structure InNormalForm (path : String) : Prop where
  rooted : path.toList.head? = some '/'
  /-- No segment is empty, -/
  filled : ∀ before after, path.toList ≠ before ++ '/' :: '/' :: after
  /-- and none is missing behind the last slash, unless there is no segment at all. -/
  closed : ∀ before, path.toList = before ++ ['/'] → path = "/"
  markless : Url.Markless path.toList

variable {path : String} {cs : List Char}

theorem split_fst (cs : List Char) : (split cs).1 = cs.takeWhile fun c => c != '?' && c != '#' := by
  simp only [split, Text.cutAt_fst, List.takeWhile_takeWhile, Bool.decide_and, Bool.decide_eq_true]

theorem markless_writtenPath (raw : String) : Url.Markless (writtenPath raw).toList := by
  rw [writtenPath, String.toList_ofList]
  exact ⟨fun hmark => by simpa using List.mem_takeWhile_imp hmark,
    fun hhash => by simpa using List.mem_takeWhile_imp hhash⟩

theorem path_parse (raw : String) :
    (parse raw).path = .ofList (normalPath (writtenPath raw).toList) := by
  rw [writtenPath, String.toList_ofList, ← split_fst]
  rfl

/-- Behind a slash of the normal form there is a segment. -/
theorem nil_not_mem_pieces (hsegments : Text.segmentLists cs ≠ []) {before after : List Char}
    (h : normalPath cs = before ++ '/' :: after) : [] ∉ Text.pieces '/' after := by
  have hslash : ∀ part ∈ Text.segmentLists cs, '/' ∉ part := fun part hpart =>
    (Text.of_mem_segmentLists hpart).2.1
  have hpieces : [] :: Text.segmentLists cs = Text.pieces '/' before ++ Text.pieces '/' after := by
    calc [] :: Text.segmentLists cs
        = [] :: Text.pieces '/' (Text.joined '/' (Text.segmentLists cs)) := by
          rw [Text.pieces_joined hsegments hslash]
      _ = Text.pieces '/' (normalPath cs) := by simp [normalPath, Text.pieces]
      _ = Text.pieces '/' before ++ Text.pieces '/' after := by rw [h, Text.pieces_append]
  -- The empty piece is the one before the first slash, and that is not behind any.
  rcases List.exists_cons_of_ne_nil (Text.pieces_ne_nil '/' before) with ⟨first, others, hfirst⟩
  rw [hfirst, List.cons_append, List.cons.injEq] at hpieces
  intro hmem
  have hsegment : [] ∈ Text.segmentLists cs := hpieces.2 ▸ List.mem_append_right others hmem
  exact (Text.of_mem_segmentLists hsegment).1 rfl

theorem inNormalForm_normalPath (h : Url.Markless cs) :
    InNormalForm (.ofList (normalPath cs)) := by
  by_cases hsegments : Text.segmentLists cs = []
  · have hslash : normalPath cs = ['/'] := by simp [normalPath, hsegments, Text.joined]
    rw [hslash]
    refine ⟨rfl, fun before after hbefore => ?_, fun _ _ => rfl, by decide⟩
    have hlength : 1 = before.length + (after.length + 2) := by
      simpa using congrArg List.length hbefore
    omega
  · refine ⟨?_, ?_, ?_, ?_⟩
    · rw [String.toList_ofList]
      rfl
    · intro before after hbefore
      rw [String.toList_ofList] at hbefore
      exact nil_not_mem_pieces hsegments hbefore (by simp [Text.pieces])
    · intro before hbefore
      rw [String.toList_ofList] at hbefore
      exact absurd (nil_not_mem_pieces hsegments hbefore) (by simp [Text.pieces])
    · rw [String.toList_ofList]
      have hchars : ∀ c ∈ normalPath cs, c = '/' ∨ c ∈ cs := by
        intro c hc
        rcases List.mem_cons.1 hc with hslash | hjoined
        · exact .inl hslash
        · refine (Text.mem_of_mem_joined hjoined).imp_right ?_
          rintro ⟨segment, hsegment, hmem⟩
          exact (Text.of_mem_segmentLists hsegment).2.2 hmem
      exact ⟨fun hmark => (hchars _ hmark).elim (by decide) h.1,
        fun hhash => (hchars _ hhash).elim (by decide) h.2⟩

namespace InNormalForm

variable (h : InNormalForm path)

include h

/-- Between its slashes, and behind the last, no piece is empty. -/
theorem nil_not_mem {rest : List Char} (hroot : path.toList = '/' :: rest) (hne : rest ≠ []) :
    [] ∉ Text.pieces '/' rest := by
  intro hmem
  rcases List.append_of_mem hmem with ⟨firsts, others, hpieces⟩
  rcases Text.exists_joined_append firsts (List.cons_ne_nil [] others) with ⟨before, hbefore⟩
  rw [← hpieces, Text.joined_pieces, ← hroot] at hbefore
  cases others with
  | nil =>
      have hslash := congrArg String.toList (h.closed before hbefore)
      rw [hroot] at hslash
      exact hne (List.cons.inj hslash).2
  | cons next others =>
      rw [Text.joined_cons [] (List.cons_ne_nil next others)] at hbefore
      exact h.filled before _ hbefore

theorem normalPath_eq : normalPath path.toList = path.toList := by
  rcases List.head?_eq_some_iff.1 h.rooted with ⟨rest, hroot⟩
  have hsegments : Text.segmentLists path.toList = Text.segmentLists rest := by
    rw [hroot]
    exact Text.segmentLists_slash [] rest
  rw [normalPath, hsegments, hroot]
  by_cases hne : rest = []
  · subst hne
    rfl
  · have hpieces : Text.segmentLists rest = Text.pieces '/' rest := by
      refine List.filter_eq_self.2 fun piece hpiece => ?_
      have hfilled : piece ≠ [] := fun hnil => h.nil_not_mem hroot hne (hnil ▸ hpiece)
      simpa using hfilled
    rw [hpieces, Text.joined_pieces]

theorem parse_eq : parse path = ⟨path, []⟩ := by
  have hsplit : split path.toList = (path.toList, []) := by
    simp [split, Text.cutAt_of_not_mem h.markless.1, Text.cutAt_of_not_mem h.markless.2]
  rw [parse, hsplit]
  simp only [h.normalPath_eq, String.ofList_toList]
  rfl

end InNormalForm

theorem inNormalForm_parse (raw : String) : InNormalForm (parse raw).path := by
  rw [path_parse]
  exact inNormalForm_normalPath (markless_writtenPath raw)

/-- A path is in normal form exactly if it is read as it is written. -/
theorem inNormalForm_iff : InNormalForm path ↔ IsNormal path := by
  constructor
  · intro h
    rw [IsNormal, h.parse_eq]
  · intro h
    have hread : (parse path).path = path := h
    exact hread ▸ inNormalForm_parse path

/-! ## Spellings -/

theorem segments_parse (raw : String) :
    Text.segments (parse raw).path = Text.segments (writtenPath raw) := by
  rw [path_parse, Text.segments, String.toList_ofList, Text.segmentLists_normalPath]
  rfl

/-- Which segments a path has is all that its normal form tells. -/
theorem path_eq_iff {raw raw' : String} :
    (parse raw).path = (parse raw').path ↔
      Text.segments (writtenPath raw) = Text.segments (writtenPath raw') := by
  constructor
  · intro h
    rw [← segments_parse raw, h, segments_parse raw']
  · intro h
    have hsegments : Text.segmentLists (writtenPath raw).toList =
        Text.segmentLists (writtenPath raw').toList :=
      List.map_injective_iff.2 (fun _ _ => String.ofList_inj.1) h
    rw [path_parse, path_parse, normalPath, normalPath, hsegments]

/-- A query and a fragment are no part of the path. -/
theorem writtenPath_append {path : String} (h : Url.Markless path.toList) {tail : String}
    (htail : ∀ c ∈ tail.toList.head?, c = '?' ∨ c = '#') : writtenPath (path ++ tail) = path := by
  have hpath : ∀ c ∈ path.toList, (c != '?' && c != '#') = true := by
    intro c hc
    have hmark : c ≠ '?' := fun heq => h.1 (heq ▸ hc)
    have hhash : c ≠ '#' := fun heq => h.2 (heq ▸ hc)
    simp [hmark, hhash]
  have hnone : tail.toList.takeWhile (fun c => c != '?' && c != '#') = [] := by
    cases hchars : tail.toList with
    | nil => rfl
    | cons c rest =>
        rcases htail c (by rw [hchars]; rfl) with rfl | rfl <;> simp
  rw [writtenPath, String.toList_append, List.takeWhile_append_of_pos hpath, hnone, List.append_nil,
    String.ofList_toList]

end Location

/-! ## Patterns and tables -/

theorem Pattern.match?_congr {path path' : String} (h : Text.segments path = Text.segments path')
    (p : Pattern) : p.match? path = p.match? path' := by
  rw [match?, match?, h]

theorem RouteTable.resolve_congr {η : Type} {path path' : String}
    (h : Text.segments path = Text.segments path') (table : RouteTable η) :
    table.resolve path = table.resolve path' := by
  simp only [resolve, findExact?, findCapturing?, Pattern.match?_congr h]

/-- The path that is read from a location is in normal form: it begins with a slash, has no empty
segments, no slash at its end unless it is a single slash, and no mark of a query or a fragment.
Read again it stays as it is, and has no query.  The paths in normal form are just those that are
read as they are written.

Every pattern and every table say the same about the path of a location as it is written and about
its normal form.  The normal forms of two locations are the same exactly if their paths have the
same segments.  So a query and a fragment do not matter, nor whether one slash or several separate
two segments or stand at the ends. -/
theorem every_spelling_has_one_normal_form :
    (∀ raw : String, Location.InNormalForm (Location.parse raw).path ∧
      Location.parse (Location.parse raw).path = ⟨(Location.parse raw).path, []⟩) ∧
    (∀ path : String, Location.InNormalForm path ↔ Location.IsNormal path) ∧
    (∀ (raw : String) (p : Pattern),
      p.match? (Location.writtenPath raw) = p.match? (Location.parse raw).path) ∧
    (∀ (raw : String) (η : Type) (table : RouteTable η),
      table.resolve (Location.writtenPath raw) = table.resolve (Location.parse raw).path) ∧
    (∀ raw raw' : String, (Location.parse raw).path = (Location.parse raw').path ↔
      Text.segments (Location.writtenPath raw) = Text.segments (Location.writtenPath raw')) ∧
    (∀ path tail : String, Url.Markless path.toList →
      (∀ c ∈ tail.toList.head?, c = '?' ∨ c = '#') →
        Location.writtenPath (path ++ tail) = path) ∧
    ∀ (before after : String) (n : Nat),
      Text.segments (before ++ .ofList (List.replicate (n + 1) '/') ++ after) =
        Text.segments before ++ Text.segments after := by
  refine ⟨fun raw => ?_, fun path => Location.inNormalForm_iff, fun raw p => ?_,
    fun raw η table => ?_, fun raw raw' => Location.path_eq_iff,
    fun path tail hpath htail => Location.writtenPath_append hpath htail, fun before after n => ?_⟩
  · have hnormal := Location.inNormalForm_parse raw
    exact ⟨hnormal, hnormal.parse_eq⟩
  · exact Pattern.match?_congr (Location.segments_parse raw).symm p
  · exact RouteTable.resolve_congr (Location.segments_parse raw).symm table
  · simp only [Text.segments, String.toList_append, String.toList_ofList, Text.segmentLists_slashes,
      List.map_append]

/-- An article, asked for with slashes to spare, a query and a fragment: it is the same one. -/
theorem article_is_found_by_any_spelling :
    let raw := "//article///7/?tab=a//b#/x?y"
    let article : Pattern := ⟨"/article/:id", [.literal "article", .param "id"]⟩
    Location.InNormalForm "/article/7" ∧ (Location.parse raw).path = "/article/7" ∧
      (Location.parse raw).path = (Location.parse "article/7").path ∧
      article.match? "//article///7/" = some [("id", "7")] := by
  intro raw article
  rcases every_spelling_has_one_normal_form with ⟨-, hnormal, hmatch, -, hsame, htail, -⟩
  have hwritten : Location.writtenPath raw = "//article///7/" :=
    htail "//article///7/" "?tab=a//b#/x?y" (by decide) (by simp)
  have hpath : (Location.parse raw).path = "/article/7" := by decide +kernel
  refine ⟨(hnormal "/article/7").2 (by decide +kernel), hpath, (hsame raw "article/7").2 ?_, ?_⟩
  · rw [hwritten]
    decide +kernel
  · rw [← hwritten, hmatch raw article, hpath]
    decide +kernel

end WebClient
