import WebClient.Proofs.AppendedQuery
import WebClient.Proofs.FormReadBack

/-!
# QueryTemplate — values cannot break out of the query of a template

A template may have placeholders in the values of its query: `/reviews?product_id={id}`.  Whatever
stands for them, the expanded text has the parameters of the template and no others.

* `Template.QueryTemplate` are the templates of this form; a parameter carries that its own text
  stands for itself.
* `Template.ExpandsTo` says what a text of a template is expanded to, whatever follows it.
* `expanded_query_is_read_back`: read as form data, the query of the expanded template gives each
  parameter with the values themselves in the place of the placeholders.
-/

namespace WebClient
namespace Template

/-- The characters that a template has outside of its placeholders: letters, digits, and `-_=&/`. -/
def isOwnChar (c : Char) : Bool := isWordChar c || ['/', '=', '&'].contains c

theorem of_isOwnChar {c : Char} (h : isOwnChar c = true) :
    (Url.keepsInQuery true c = true ∧ Url.keepsInFragment c = true) ∧
      (c ≠ '+' ∧ c ≠ '%') ∧ c ≠ '{' ∧ c ≠ '?' ∧ c ≠ '#' := by
  have hascii : c.toNat < 128 := by
    rcases Bool.or_eq_true_iff.1 h with hword | hmark
    · exact toNat_lt_of_isWordChar hword
    · exact (by simp : ∀ c ∈ ['/', '=', '&'], c.toNat < 128) c (by simpa using hmark)
  exact Text.of_ascii (p := fun c => isOwnChar c = true →
    (Url.keepsInQuery true c = true ∧ Url.keepsInFragment c = true) ∧
      (c ≠ '+' ∧ c ≠ '%') ∧ c ≠ '{' ∧ c ≠ '?' ∧ c ≠ '#') (by decide +kernel) hascii h

/-- What a name has: no mark of a query. -/
def isNameChar (c : Char) : Bool := isOwnChar c && c != '&' && c != '='

/-- What a value has outside of its placeholders. -/
def isValueChar (c : Char) : Bool := isOwnChar c && c != '&'

/-! ## Templates with placeholders in their query -/

/-- A placeholder with the value itself in its place. -/
def Hole.raw (lookup : String → Option String) (hole : Hole) : List Char :=
  hole.text ++ ((lookup hole.name).getD "").toList

/-- What a template has outside of its placeholders. -/
def Layout.ownText (layout : Layout) : List Char := layout.holes.flatMap Hole.text ++ layout.tail

/-- The template with the values themselves in the places of the placeholders. -/
def Layout.raw (lookup : String → Option String) (layout : Layout) : String :=
  .ofList (layout.holes.flatMap (Hole.raw lookup) ++ layout.tail)

/-- A parameter of a query: its name, and its value with placeholders. -/
structure Parameter where
  name : List Char
  value : Layout
  nameOwn : name.all isNameChar = true := by decide
  valueOwn : value.ownText.all isValueChar = true := by decide

namespace Parameter

theorem name_own (p : Parameter) :
    ∀ c ∈ p.name, isOwnChar c = true ∧ c ≠ '&' ∧ c ≠ '=' := by
  simpa [isNameChar, and_assoc] using p.nameOwn

theorem value_own (p : Parameter) :
    ∀ c ∈ p.value.ownText, isOwnChar c = true ∧ c ≠ '&' := by
  simpa [isValueChar] using p.valueOwn

def written (p : Parameter) : List Char := p.name ++ '=' :: p.value.template.toList

def filled (lookup : String → Option String) (p : Parameter) : List Char :=
  p.name ++ '=' :: (p.value.filled lookup).toList

/-- The parameter that is meant: the values themselves. -/
def pair (lookup : String → Option String) (p : Parameter) : String × String :=
  (.ofList p.name, p.value.raw lookup)

end Parameter

/-- A path with a query whose values have placeholders. -/
structure QueryTemplate where
  path : List Char
  parameters : List Parameter
  pathOwn : path.all isOwnChar = true := by decide

namespace QueryTemplate

theorem path_own (t : QueryTemplate) : ∀ c ∈ t.path, isOwnChar c = true :=
  List.all_eq_true.1 t.pathOwn

/-- The template as it is written. -/
def text (t : QueryTemplate) : String :=
  .ofList (t.path ++ '?' :: Text.joined '&' (t.parameters.map Parameter.written))

def holes (t : QueryTemplate) : List Hole := t.parameters.flatMap fun p => p.value.holes

/-- The query of the expanded template. -/
def query (lookup : String → Option String) (t : QueryTemplate) : List Char :=
  Text.joined '&' (t.parameters.map (Parameter.filled lookup))

/-- The parameters that are meant, in their order. -/
def pairs (lookup : String → Option String) (t : QueryTemplate) : List (String × String) :=
  t.parameters.map (Parameter.pair lookup)

end QueryTemplate

/-! ## Expansion -/

/-- Whether a text of a template is expanded to this one, whatever follows it. -/
def ExpandsTo (lookup : String → Option String) (written filled : List Char) : Prop :=
  ∀ rest, expandFrom lookup none (written ++ rest) = (expandFrom lookup none rest).map (filled ++ ·)

section Expansion

variable {lookup : String → Option String} {written written' filled filled' cs : List Char}

namespace ExpandsTo

theorem plain (h : '{' ∉ cs) : ExpandsTo lookup cs cs := expandFrom_plain h

/-- A text of a template's own characters has no placeholders. -/
theorem own (h : ∀ c ∈ cs, isOwnChar c = true) : ExpandsTo lookup cs cs :=
  plain fun hmem => (of_isOwnChar (h _ hmem)).2.2.1 rfl

theorem append (h : ExpandsTo lookup written filled) (h' : ExpandsTo lookup written' filled') :
    ExpandsTo lookup (written ++ written') (filled ++ filled') := by
  intro rest
  rw [List.append_assoc, h, h']
  cases expandFrom lookup none rest <;> simp [Except.map]

theorem hole {hole : Hole} (h : (lookup hole.name).isSome) :
    ExpandsTo lookup hole.written (hole.filled lookup) := by
  intro rest
  rw [expandFrom_hole, if_pos h]

theorem flatMap {α : Type} {pieces : List α} {f g : α → List Char}
    (h : ∀ piece ∈ pieces, ExpandsTo lookup (f piece) (g piece)) :
    ExpandsTo lookup (pieces.flatMap f) (pieces.flatMap g) := by
  induction pieces with
  | nil => exact plain List.not_mem_nil
  | cons piece pieces ih =>
      have hrest := ih fun other hother => h other (List.mem_cons_of_mem _ hother)
      exact (h piece List.mem_cons_self).append hrest

theorem joined {α : Type} {sep : Char} (hsep : sep ≠ '{') {parts : List α}
    {f g : α → List Char} (h : ∀ part ∈ parts, ExpandsTo lookup (f part) (g part)) :
    ExpandsTo lookup (Text.joined sep (parts.map f)) (Text.joined sep (parts.map g)) := by
  induction parts with
  | nil => exact plain List.not_mem_nil
  | cons part parts ih =>
      have hpart := h part List.mem_cons_self
      have hrest := ih fun other hother => h other (List.mem_cons_of_mem _ hother)
      cases parts with
      | nil => exact hpart
      | cons next parts =>
          -- The separator goes with the part before it.
          have hmark : ExpandsTo lookup [sep] [sep] := plain (by simpa using Ne.symm hsep)
          exact hpart.append (hmark.append hrest)

theorem expand (h : ExpandsTo lookup written filled) :
    expand lookup (.ofList written) = .ok (.ofList filled) := by
  have hall := h []
  rw [List.append_nil] at hall
  rw [Template.expand, String.toList_ofList, hall]
  simp [expandFrom, Except.map]

end ExpandsTo

variable {p : Parameter} {t : QueryTemplate}

theorem Parameter.expandsTo (h : ∀ hole ∈ p.value.holes, (lookup hole.name).isSome) :
    ExpandsTo lookup p.written (p.filled lookup) := by
  have hname : ExpandsTo lookup p.name p.name := ExpandsTo.own fun c hc => (p.name_own c hc).1
  have hmark : ExpandsTo lookup ['='] ['='] := ExpandsTo.plain (by decide)
  have hholes : ExpandsTo lookup (p.value.holes.flatMap Hole.written)
      (p.value.holes.flatMap (Hole.filled lookup)) :=
    ExpandsTo.flatMap fun hole hhole => ExpandsTo.hole (h hole hhole)
  have htail : ExpandsTo lookup p.value.tail p.value.tail :=
    ExpandsTo.own fun c hc => (p.value_own c (List.mem_append_right _ hc)).1
  -- One after the other, as they are written: nothing that has been filled in is scanned again.
  have hall := hname.append (hmark.append (hholes.append htail))
  simpa [written, filled, Layout.template, Layout.filled] using hall

/-- With a value for each placeholder the template is expanded to its path and its query. -/
theorem QueryTemplate.expand_text (h : ∀ hole ∈ t.holes, (lookup hole.name).isSome) :
    expand lookup t.text = .ok (.ofList (t.path ++ '?' :: t.query lookup)) := by
  have hpath : ExpandsTo lookup t.path t.path := ExpandsTo.own t.path_own
  have hmark : ExpandsTo lookup ['?'] ['?'] := ExpandsTo.plain (by decide)
  have hparameters : ∀ p ∈ t.parameters, ExpandsTo lookup p.written (p.filled lookup) :=
    fun p hp => p.expandsTo fun hole hhole => h hole (List.mem_flatMap.2 ⟨p, hp, hhole⟩)
  have hquery := ExpandsTo.joined (by decide : '&' ≠ '{') hparameters
  exact (hpath.append (hmark.append hquery)).expand

/-! ## What is read -/

theorem Hole.readsAs {hole : Hole} (h : ∀ c ∈ hole.text, isOwnChar c = true) :
    Text.ReadsAs (hole.filled lookup) (hole.raw lookup) := by
  have htext : Text.ReadsAs hole.text hole.text :=
    Text.readsAs_self fun c hc => (of_isOwnChar (h c hc)).2.1
  exact htext.append (Text.readsAs_formEncodeChars _)

theorem Parameter.readsAs (p : Parameter) (lookup : String → Option String) :
    Text.ReadsAs (p.value.filled lookup).toList (p.value.raw lookup).toList := by
  -- The template's own text stands for itself, and each value is read from its encoded form.
  have hown : ∀ c ∈ p.value.ownText, isOwnChar c = true := fun c hc => (p.value_own c hc).1
  have hholes : Text.ReadsAs (p.value.holes.flatMap (Hole.filled lookup))
      (p.value.holes.flatMap (Hole.raw lookup)) :=
    Text.ReadsAs.flatMap fun hole hhole => Hole.readsAs fun c hc =>
      hown c (List.mem_append_left _ (List.mem_flatMap.2 ⟨hole, hhole, hc⟩))
  have htail : Text.ReadsAs p.value.tail p.value.tail :=
    Text.readsAs_self fun c hc => (of_isOwnChar (hown c (List.mem_append_right _ hc))).2.1
  rw [Layout.filled, Layout.raw, String.toList_ofList, String.toList_ofList]
  exact hholes.append htail

/-- A character of a value that has been filled in is one of the template's own, or one that form
encoding has written. -/
theorem Parameter.own_or_encoded {c : Char} (hc : c ∈ (p.value.filled lookup).toList) :
    c ∈ p.value.ownText ∨ ∃ cs, c ∈ Text.formEncodeChars cs := by
  rw [Layout.filled, String.toList_ofList] at hc
  rcases List.mem_append.1 hc with hc | hc
  · rcases List.mem_flatMap.1 hc with ⟨hole, hhole, hc⟩
    rcases List.mem_append.1 hc with hc | hc
    · exact .inl (List.mem_append_left _ (List.mem_flatMap.2 ⟨hole, hhole, hc⟩))
    · exact .inr ⟨_, hc⟩
  · exact .inl (List.mem_append_right _ hc)

theorem Parameter.marks_not_mem (p : Parameter) (lookup : String → Option String) :
    '&' ∉ p.name ∧ '=' ∉ p.name ∧ '&' ∉ (p.value.filled lookup).toList := by
  refine ⟨fun hmem => (p.name_own _ hmem).2.1 rfl, fun hmem => (p.name_own _ hmem).2.2 rfl, ?_⟩
  intro hmem
  rcases own_or_encoded hmem with hown | ⟨cs, hencoded⟩
  · exact (p.value_own _ hown).2 rfl
  · exact (Text.marks_not_mem_formEncodeChars cs).1 hencoded

/-- The query is read as the parameters that are meant. -/
theorem QueryTemplate.formPairs_query (t : QueryTemplate) (lookup : String → Option String) :
    Text.formPairs (t.query lookup) = t.pairs lookup := by
  -- All marks are the template's own: no name has one, and no value brings one along.
  let part (p : Parameter) : List Char × List Char := (p.name, (p.value.filled lookup).toList)
  have hmarks : ∀ written ∈ t.parameters.map part,
      '&' ∉ written.1 ∧ '=' ∉ written.1 ∧ '&' ∉ written.2 := by
    intro written hwritten
    rcases List.mem_map.1 hwritten with ⟨p, -, rfl⟩
    exact p.marks_not_mem lookup
  have hname (p : Parameter) : Text.formDecode p.name = .ofList p.name :=
    (Text.readsAs_self fun c hc => (of_isOwnChar (p.name_own c hc).1).2.1).formDecode
  have hvalue (p : Parameter) :
      Text.formDecode (p.value.filled lookup).toList = p.value.raw lookup :=
    (p.readsAs lookup).formDecode.trans String.ofList_toList
  calc Text.formPairs (t.query lookup)
      = Text.formPairs (Text.joined '&'
          ((t.parameters.map part).map fun part => part.1 ++ '=' :: part.2)) := by
        rw [query, List.map_map]
        rfl
    _ = (t.parameters.map part).map fun part => (Text.formDecode part.1, Text.formDecode part.2) :=
        Text.formPairs_joined hmarks
    _ = t.pairs lookup := by
        rw [List.map_map]
        exact List.map_congr_left fun p _ => Prod.ext (hname p) (hvalue p)

theorem QueryTemplate.plainQuery_query (t : QueryTemplate) (lookup : String → Option String) :
    Url.PlainQuery (t.query lookup) := by
  intro c hc
  rcases Text.mem_of_mem_joined hc with rfl | ⟨written, hwritten, hmem⟩
  · decide
  · rcases List.mem_map.1 hwritten with ⟨p, -, rfl⟩
    rcases List.mem_append.1 hmem with hname | hvalue
    · exact (of_isOwnChar (p.name_own c hname).1).1
    · rcases List.mem_cons.1 hvalue with rfl | hvalue
      · decide
      · rcases Parameter.own_or_encoded hvalue with hown | ⟨cs, hencoded⟩
        · exact (of_isOwnChar (p.value_own c hown).1).1
        · exact Text.plainQuery_formEncodeChars cs c hencoded

theorem QueryTemplate.markless_path (t : QueryTemplate) : Url.Markless t.path :=
  ⟨fun hmem => (of_isOwnChar (t.path_own _ hmem)).2.2.2.1 rfl,
    fun hmem => (of_isOwnChar (t.path_own _ hmem)).2.2.2.2 rfl⟩

end Expansion
end Template

/-- Let a template have all its placeholders in the values of its query, and let each of them have a
value.  Then the template is expanded, and the expanded text has the path of the template, the query
that comes of the values, and no fragment.  Read as form data the query gives the parameters of the
template in their order, each with the values themselves in the place of its placeholders; what is
asked for is what the path alone would ask for, with this query behind it. -/
theorem expanded_query_is_read_back (template : Template.QueryTemplate) (ctx : PageContext)
    (hvalues : ∀ hole ∈ template.holes, (ctx.lookup hole.name).isSome) :
    ∃ expanded query, Template.expand ctx.lookup template.text = .ok expanded ∧
      Location.split expanded.toList = (template.path, query) ∧ '#' ∉ expanded.toList ∧
      Text.formPairs query = template.pairs ctx.lookup ∧
      ∀ base token, (Call.get expanded).request? base token =
        ((Call.get (.ofList template.path)).request? base token).map fun request =>
          { request with url := request.url.appended query } := by
  let query := template.query ctx.lookup
  have hpath := template.markless_path
  have hquery : Url.PlainQuery query := template.plainQuery_query ctx.lookup
  have hend : Url.NoBlankEnd (String.ofList template.path).toList := by
    intro c hc
    rw [String.toList_ofList] at hc
    exact Url.lt_of_keepsInQuery
      (Template.of_isOwnChar (template.path_own c (List.mem_of_getLast? hc))).1.1
  have htext : .ofList (template.path ++ '?' :: query) =
      String.ofList template.path ++ "?" ++ String.ofList query := by
    simp [← String.toList_inj]
  refine ⟨_, query, template.expand_text hvalues, ?_, ?_, template.formPairs_query ctx.lookup, ?_⟩
  · rw [String.toList_ofList, Location.split_query hpath hquery.not_mem]
  · rw [String.toList_ofList, List.mem_append]
    exact not_or.2 ⟨hpath.2, hquery.mark.not_mem⟩
  · intro base token
    rw [htext]
    exact (Call.get "").request?_query base token _ hend hquery

/-- Two parameters and three placeholders, with values that look like parameters, like a fragment
and like a placeholder. -/
theorem values_stay_in_their_parameters :
    let template : Template.QueryTemplate :=
      { path := "/reviews".toList
        parameters := [
          { name := "product_id".toList
            value := { holes := [{ text := [], name := "id" }], tail := [] } },
          { name := "tag".toList
            value :=
              { holes :=
                  [{ text := "a-".toList, name := "tag" }, { text := "_".toList, name := "b" }]
                tail := "=z".toList } }] }
    let ctx : PageContext :=
      ⟨"/product", [("id", "7&admin=1#x")], [("b", ""), ("id", "8"), ("tag", "{id}?+% é")], none⟩
    template.text = "/reviews?product_id={id}&tag=a-{tag}_{b}=z" ∧
      ∃ expanded query, Template.expand ctx.lookup template.text = .ok expanded ∧
        Location.split expanded.toList = ("/reviews".toList, query) ∧ '#' ∉ expanded.toList ∧
        Text.formPairs query = [("product_id", "7&admin=1#x"), ("tag", "a-{id}?+% é_=z")] := by
  intro template ctx
  have hvalues : ∀ hole ∈ template.holes, (ctx.lookup hole.name).isSome := by decide +kernel
  have hpairs : template.pairs ctx.lookup =
      [("product_id", "7&admin=1#x"), ("tag", "a-{id}?+% é_=z")] := by decide +kernel
  rcases expanded_query_is_read_back template ctx hvalues with
    ⟨expanded, query, hexpand, hsplit, hhash, hread, -⟩
  exact ⟨by decide +kernel, expanded, query, hexpand, hsplit, hhash, hread.trans hpairs⟩

end WebClient
