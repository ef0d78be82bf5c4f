import WebClient.Proofs.OptionalSources

/-!
# Substitution — templates are filled once, from left to right

Expansion scans a template character by character, and values are put into its result as it goes.
What it does can be said without the scanner: the template is cut at its placeholders, and each of
them makes place for its value.

* `Template.Layout.template_injective`: a template has no more than one cut, so that it is clear
  what its placeholders are.
* `Template.expand_filled`: there are no placeholders in a template that has been filled, whatever
  the values.
* `FetchPage.exists_first_missing`: of the sources that have no path the first one fails the page.
* `template_is_filled_in_one_pass` puts this together.
-/

namespace WebClient

/-- Up to the first separator, and behind it, texts can be compared by themselves. -/
theorem Text.eq_of_append_cons {sep : Char} {before before' after after' : List Char}
    (hbefore : sep ∉ before) (hbefore' : sep ∉ before')
    (h : before ++ sep :: after = before' ++ sep :: after') : before = before' ∧ after = after' := by
  have hcut := congrArg (cutAt sep) h
  simpa [cutAt_append hbefore, cutAt_append hbefore', cutAt] using hcut

namespace Template

/-! ## The cut of a template -/

theorem Hole.written_append (hole : Hole) (rest : List Char) :
    hole.written ++ rest = hole.text ++ '{' :: (hole.name.toList ++ '}' :: rest) := by
  simp [written]

/-- A placeholder is found again, whatever follows it. -/
theorem Hole.written_inj {hole hole' : Hole} {rest rest' : List Char}
    (h : hole.written ++ rest = hole'.written ++ rest') : hole = hole' ∧ rest = rest' := by
  rw [written_append, written_append] at h
  rcases Text.eq_of_append_cons hole.plain hole'.plain h with ⟨htext, hrest⟩
  rcases Text.eq_of_append_cons hole.named hole'.named hrest with ⟨hname, hrest⟩
  refine ⟨?_, hrest⟩
  cases hole
  cases hole'
  cases htext
  cases String.toList_inj.1 hname
  rfl

/-- Up to an opening brace there is nothing to drop. -/
theorem dropWhile_plain {before : List Char} (h : '{' ∉ before) (after : List Char) :
    (before ++ after).dropWhile (· != '{') = after.dropWhile (· != '{') := by
  refine List.dropWhile_append_of_pos fun c hc => ?_
  simpa using fun heq : c = '{' => h (heq ▸ hc)

/-- What begins with a placeholder has a brace that is closed. -/
theorem Hole.closes (hole : Hole) (rest : List Char) :
    '}' ∈ (hole.written ++ rest).dropWhile (· != '{') := by
  rw [written_append, dropWhile_plain hole.plain]
  simp

theorem holes_inj {holes holes' : List Hole} {tail tail' : List Char}
    (hunclosed : '}' ∉ tail.dropWhile (· != '{')) (hunclosed' : '}' ∉ tail'.dropWhile (· != '{'))
    (h : holes.flatMap Hole.written ++ tail = holes'.flatMap Hole.written ++ tail') :
    holes = holes' ∧ tail = tail' := by
  induction holes generalizing holes' with
  | nil =>
      cases holes' with
      | nil => exact ⟨rfl, h⟩
      | cons hole' holes' =>
          rw [List.flatMap_cons, List.append_assoc] at h
          have htail : tail = hole'.written ++ (holes'.flatMap Hole.written ++ tail') := h
          exact absurd (hole'.closes _) (htail ▸ hunclosed)
  | cons hole holes ih =>
      rw [List.flatMap_cons, List.append_assoc] at h
      cases holes' with
      | nil =>
          have htail : hole.written ++ (holes.flatMap Hole.written ++ tail) = tail' := h
          exact absurd (hole.closes _) (htail ▸ hunclosed')
      | cons hole' holes' =>
          rw [List.flatMap_cons, List.append_assoc] at h
          rcases Hole.written_inj h with ⟨rfl, hrest⟩
          rcases ih hrest with ⟨rfl, rfl⟩
          exact ⟨rfl, rfl⟩

/-- There is only one way to cut a template at its placeholders. -/
theorem Layout.template_injective : Function.Injective Layout.template := by
  intro layout layout' h
  rcases holes_inj layout.unclosed layout'.unclosed (String.ofList_inj.1 h) with ⟨hholes, htail⟩
  cases layout
  cases layout'
  cases hholes
  cases htail
  rfl

theorem Layout.existsUnique_template (template : String) :
    ∃! layout : Layout, layout.template = template := by
  rcases exists_template template with ⟨layout, rfl⟩
  exact ⟨layout, rfl, fun other hother => template_injective hother⟩

/-! ## Templates that have been filled -/

theorem brace_not_mem_filled (lookup : String → Option String) (hole : Hole) :
    '{' ∉ hole.filled lookup := by
  intro hmem
  rcases List.mem_append.1 hmem with htext | hvalue
  · exact hole.plain htext
  · exact absurd (Text.keepsInPath_formEncodeChars hvalue).1 (by decide)

/-- No brace of a value opens a placeholder: expanding what has been filled changes nothing. -/
theorem expand_filled (layout : Layout) (lookup lookup' : String → Option String) :
    expand lookup' (layout.filled lookup) = .ok (layout.filled lookup) := by
  have hplain : '{' ∉ layout.holes.flatMap (Hole.filled lookup) := by
    intro hmem
    rcases List.mem_flatMap.1 hmem with ⟨hole, -, hfilled⟩
    exact brace_not_mem_filled lookup hole hfilled
  have hunclosed : '}' ∉
      (layout.holes.flatMap (Hole.filled lookup) ++ layout.tail).dropWhile (· != '{') := by
    rw [dropWhile_plain hplain]
    exact layout.unclosed
  rw [expand, Layout.filled, String.toList_ofList, expandFrom_tail hunclosed]
  rfl

end Template

/-! ## Pages -/

theorem Source.exists_error {ctx : PageContext} {source : Source} (h : ¬ source.Expands ctx) :
    ∃ name, Template.expand ctx.lookup source.template = .error name := by
  cases hexpand : Template.expand ctx.lookup source.template with
  | ok path => exact absurd ⟨path, hexpand⟩ h
  | error name => exact ⟨name, rfl⟩

/-- If some source of a page has no path, there is a first one. -/
theorem FetchPage.exists_first_missing {page : FetchPage} {ctx : PageContext} {source : Source}
    (hsource : source ∈ page.sources) (h : ¬ source.Expands ctx) :
    ∃ before first after name, page.sources = before ++ first :: after ∧
      (∀ earlier ∈ before, earlier.Expands ctx) ∧
      Template.expand ctx.lookup first.template = .error name := by
  have hfound : (page.sources.find? fun source => ¬ source.Expands ctx).isSome := by
    simpa [List.find?_isSome] using ⟨source, hsource, h⟩
  rcases Option.isSome_iff_exists.1 hfound with ⟨first, hfirst⟩
  rcases List.find?_eq_some_iff_append.1 hfirst with ⟨hmissing, before, after, hsplit, hbefore⟩
  rcases Source.exists_error (by simpa using hmissing) with ⟨name, hname⟩
  exact ⟨before, first, after, name, hsplit, by simpa using hbefore, hname⟩

/-- Every template is cut at its placeholders in one way: outside of them there is no opening brace,
but for one that is not closed; their names have no closing brace.

It expands to its text with the form-encoded value of each placeholder in its place, or, if there
are names without a value, to the leftmost of them as the error.  No brace of a value is read as a
placeholder: there are none in what has been filled, so that expanding it again, with whatever
values, changes nothing.

A page with a source whose template fails so, wherever that stands among the sources, comes to the
error of the first such source in no step at all: it makes no call and sends nothing. -/
theorem template_is_filled_in_one_pass :
    (∀ template : String, ∃! layout : Template.Layout, layout.template = template) ∧
      (∀ (ctx : PageContext) (layout : Template.Layout),
        Template.expand ctx.lookup layout.template =
            (match layout.holes.find? fun hole => (ctx.lookup hole.name).isNone with
            | some hole => .error hole.name
            | none => .ok (layout.filled ctx.lookup)) ∧
          ∀ lookup, Template.expand lookup (layout.filled ctx.lookup) =
            .ok (layout.filled ctx.lookup)) ∧
      ∀ (page : FetchPage) (ctx : PageContext), ∀ source ∈ page.sources, ∀ missing,
        Template.expand ctx.lookup source.template = .error missing →
          ∃ before first after name, page.sources = before ++ first :: after ∧
            (∀ earlier ∈ before, earlier.Expands ctx) ∧
            Template.expand ctx.lookup first.template = .error name ∧
            ∀ g : Gateway, g.carryOut (page.render ctx) = pure (.error (.missingParam name)) := by
  refine ⟨Template.Layout.existsUnique_template, fun ctx layout => ?_, ?_⟩
  · exact ⟨Template.expand_template layout, Template.expand_filled layout ctx.lookup⟩
  · intro page ctx source hsource missing hmissing
    have hfails : ¬ source.Expands ctx := by
      rintro ⟨path, hpath⟩
      cases hmissing.symm.trans hpath
    rcases FetchPage.exists_first_missing hsource hfails with
      ⟨before, first, after, name, hsplit, hbefore, hname⟩
    refine ⟨before, first, after, name, hsplit, hbefore, hname, fun g => ?_⟩
    rw [FetchPage.render, FetchPage.paths_eq_error hsplit hbefore hname]
    rfl

/-- A brace in a value, one in a name and one that is not closed; and a page that has no value for a
name in the last of its templates. -/
theorem braces_are_kept_apart :
    let ctx : PageContext := ⟨"/a/7", [("id", "\x7bq\x7d")], [("q\x7b", "é")], none⟩
    let page : FetchPage := ⟨"a", "A", [source "a" "/a/\x7bid\x7d", source "b" "/b/\x7bq\x7d"]⟩
    Template.expand ctx.lookup "/a/\x7bid\x7d?q=\x7bq\x7b\x7d&r=\x7bid" =
        .ok "/a/%7Bq%7D?q=%C3%A9&r=\x7bid" ∧
      ∀ g : Gateway, g.carryOut (page.render ctx) = pure (.error (.missingParam "q")) := by
  intro ctx page
  let layout : Template.Layout :=
    { holes := [{ text := "/a/".toList, name := "id" }, { text := "?q=".toList, name := "q\x7b" }]
      tail := "&r=\x7bid".toList }
  constructor
  · have htemplate : "/a/\x7bid\x7d?q=\x7bq\x7b\x7d&r=\x7bid" = layout.template := by
      decide +kernel
    have hfilled : layout.filled ctx.lookup = "/a/%7Bq%7D?q=%C3%A9&r=\x7bid" := by decide +kernel
    have hvalues : (layout.holes.find? fun hole => (ctx.lookup hole.name).isNone) = none := by
      rfl
    rw [htemplate, (template_is_filled_in_one_pass.2.1 ctx layout).1, hvalues, hfilled]
  · have hmissing : Template.expand ctx.lookup "/b/\x7bq\x7d" = .error "q" := by decide +kernel
    have hexpands : (source "a" "/a/\x7bid\x7d").Expands ctx := by decide +kernel
    rcases template_is_filled_in_one_pass.2.2 page ctx (source "b" "/b/\x7bq\x7d")
      (by decide) "q" hmissing with ⟨before, first, after, name, hsplit, -, hname, hcarry⟩
    have hfirst : first ∈ page.sources := hsplit ▸ List.mem_append_right _ List.mem_cons_self
    rcases List.mem_cons.1 hfirst with rfl | hlast
    · rcases hexpands with ⟨path, hpath⟩
      cases hname.symm.trans hpath
    · cases List.mem_singleton.1 hlast
      cases hname.symm.trans hmissing
      exact hcarry

end WebClient
