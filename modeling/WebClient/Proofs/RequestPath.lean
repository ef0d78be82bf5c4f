import WebClient.Proofs.Ascending
import WebClient.Proofs.ByteOrder
import WebClient.Proofs.RestrictedArea
import WebClient.Proofs.UrlPath

/-!
# RequestPath — which paths a page can be made to ask for

A page puts captures of its location into the templates of its sources.  Captures are any text, and
form encoding keeps them from being more than one segment; but it writes full stops as they are, so
that a capture can be a dot segment.

* `Text.isDots_formEncodeChars`: form encoding makes dot segments of single and double dots only.
* `Pattern.exists_value`: a capture of one segment has a value, and that is a segment of the path.
* `Template.Shape` are the templates whose segments are plain texts or placeholders, and
  `Template.expand_text` is what they expand to.
* `captured_segment_keeps_place_iff`: a request asks for the base followed by the segments of the
  template, each in its place, exactly if no capture in it is a dot segment.
-/

namespace WebClient

/-! ## Form-encoded segments -/

namespace Url

/-- The full stop, as it can be written in a dot segment; letters are in lower case. -/
def IsStop (cs : List Char) : Prop := cs = ['.'] ∨ cs = ['%', '2', 'e']

/-- A dot segment is one full stop or two. -/
theorem exists_stops {segment : List Char} (h : isDots segment = true) :
    ∃ first rest, segment.map Char.toLower = first ++ rest ∧ IsStop first ∧
      (rest = [] ∨ IsStop rest) := by
  rcases Bool.or_eq_true_iff.1 h with hsingle | hdouble
  · rcases Bool.or_eq_true_iff.1 hsingle with hdot | htriplet
    · exact ⟨['.'], [], by rw [beq_iff_eq.1 hdot]; rfl, .inl rfl, .inl rfl⟩
    · exact ⟨['%', '2', 'e'], [], beq_iff_eq.1 htriplet, .inr rfl, .inl rfl⟩
  · unfold isDoubleDot at hdouble
    split at hdouble
    · rename_i hlower
      exact ⟨['.'], ['.'], hlower, .inl rfl, .inr (.inl rfl)⟩
    · rename_i hlower
      exact ⟨['.'], ['%', '2', 'e'], hlower, .inl rfl, .inr (.inr rfl)⟩
    · rename_i hlower
      exact ⟨['%', '2', 'e'], ['.'], hlower, .inr rfl, .inr (.inl rfl)⟩
    · rename_i hlower
      exact ⟨['%', '2', 'e'], ['%', '2', 'e'], hlower, .inr rfl, .inr (.inr rfl)⟩
    · cases hdouble

end Url

namespace Text

/-- Whether a text begins neither with a full stop nor with the triplet of one, in either case. -/
def startsOtherwise : List Char → Bool
  | [c] => c.toLower != '.' && c.toLower != '%'
  | ['%', high, low] => !(high.toLower == '2' && low.toLower == 'e')
  | _ => false

/-- Form encoding writes the full stop as it is, and nothing else so that it reads as one. -/
theorem startsOtherwise_formByte {b : UInt8} (h : b ≠ 0x2E) :
    startsOtherwise (formByte b) = true := by
  have hall : ∀ n ∈ List.range 256, n = 0x2E ∨
      startsOtherwise (formByte (UInt8.ofNat n)) = true := by decide +kernel
  rcases hall b.toNat (List.mem_range.2 b.toNat_lt) with hstop | hother
  · exact absurd (UInt8.toNat_inj.1 hstop) h
  · rwa [UInt8.ofNat_toNat] at hother

theorem formByte_ne_nil (b : UInt8) : formByte b ≠ [] := by
  unfold formByte
  split
  · exact List.cons_ne_nil _ _
  · split
    · exact List.cons_ne_nil _ _
    · exact List.cons_ne_nil _ _

theorem eq_nil_of_flatMap_formByte {bytes : List UInt8}
    (h : (bytes.flatMap formByte).map Char.toLower = []) : bytes = [] := by
  cases bytes with
  | nil => rfl
  | cons b rest =>
      have hall : formByte b ++ rest.flatMap formByte = [] := List.map_eq_nil_iff.1 h
      exact absurd (List.append_eq_nil_iff.1 hall).1 (formByte_ne_nil b)

/-- Where a full stop can be read, it was written as a full stop. -/
theorem exists_stop {bytes : List UInt8} {first rest : List Char} (hfirst : Url.IsStop first)
    (h : (bytes.flatMap formByte).map Char.toLower = first ++ rest) :
    ∃ others, bytes = 0x2E :: others ∧ (others.flatMap formByte).map Char.toLower = rest := by
  cases bytes with
  | nil => rcases hfirst with rfl | rfl <;> cases h
  | cons b others =>
      by_cases hb : b = 0x2E
      · subst hb
        rcases hfirst with rfl | rfl
        · exact ⟨others, rfl, (List.cons.inj h).2⟩
        · cases (List.cons.inj h).1
      · -- Then the text begins in a way that no full stop is written.
        have hother := startsOtherwise_formByte hb
        rw [List.flatMap_cons, List.map_append] at h
        unfold startsOtherwise at hother
        split at hother
        · rename_i c hbyte
          rw [hbyte] at h
          rcases hfirst with rfl | rfl
          · simp [(List.cons.inj h).1] at hother
          · simp [(List.cons.inj h).1] at hother
        · rename_i high low hbyte
          rw [hbyte] at h
          rcases hfirst with rfl | rfl
          · cases (List.cons.inj h).1
          · have hhigh := (List.cons.inj (List.cons.inj h).2).1
            have hlow := (List.cons.inj (List.cons.inj (List.cons.inj h).2).2).1
            simp [hhigh, hlow] at hother
        · cases hother

theorem utf8_inj {cs cs' : List Char} (h : utf8 cs = utf8 cs') : cs = cs' := by
  have hbytes : String.ofList cs = String.ofList cs' := by
    rw [← String.toByteArray_inj, String.toByteArray_ofList, String.toByteArray_ofList]
    exact congrArg List.toByteArray h
  exact String.ofList_injective hbytes

/-- Form encoding makes dot segments of single and double dots only. -/
theorem isDots_formEncodeChars (cs : List Char) :
    Url.isDots (formEncodeChars cs) = true ↔ cs = ['.'] ∨ cs = ['.', '.'] := by
  constructor
  · intro hdots
    rcases Url.exists_stops hdots with ⟨first, rest, htext, hfirst, hrest⟩
    rcases exists_stop hfirst htext with ⟨others, hbytes, hothers⟩
    rcases hrest with rfl | hrest
    · have hnil : others = [] := eq_nil_of_flatMap_formByte hothers
      exact .inl (utf8_inj (by rw [hbytes, hnil]; rfl))
    · rcases exists_stop hrest (hothers.trans (List.append_nil rest).symm) with ⟨last, rfl, hlast⟩
      have hnil : last = [] := eq_nil_of_flatMap_formByte hlast
      exact .inr (utf8_inj (by rw [hbytes, hnil]; rfl))
  · rintro (rfl | rfl)
    · decide +kernel
    · decide +kernel

/-- Form encoding leaves no percent sign alone, and nothing beyond ASCII. -/
theorem toNat_of_isFormSafe {b : UInt8} (h : isFormSafe b = true) :
    b.toNat < 128 ∧ b.toNat ≠ 0x25 := by
  simp only [isFormSafe, Bool.or_eq_true, Bool.and_eq_true, decide_eq_true_eq, beq_iff_eq] at h
  omega

/-- What holds of the characters of each byte holds of all that form encoding writes. -/
theorem of_mem_formEncodeChars {p : Char → Prop} [DecidablePred p]
    (h : ∀ n ∈ List.range 256, (formByte (UInt8.ofNat n)).all fun c => decide (p c))
    {cs : List Char} {c : Char} (hc : c ∈ formEncodeChars cs) : p c := by
  rcases List.mem_flatMap.1 hc with ⟨b, -, hb⟩
  have hbyte := h b.toNat (List.mem_range.2 b.toNat_lt)
  rw [UInt8.ofNat_toNat] at hbyte
  exact of_decide_eq_true (List.all_eq_true.1 hbyte c hb)

theorem keepsInPath_formEncodeChars {cs : List Char} {c : Char} (h : c ∈ formEncodeChars cs) :
    Url.keepsInPath c = true ∧ c ≠ '\\' ∧ c ≠ '/' :=
  of_mem_formEncodeChars (p := fun c => Url.keepsInPath c = true ∧ c ≠ '\\' ∧ c ≠ '/')
    (by decide +kernel) h

theorem formEncodeChars_ne_nil {cs : List Char} (h : cs ≠ []) : formEncodeChars cs ≠ [] := by
  intro hnil
  have hbytes : utf8 cs = [] := eq_nil_of_flatMap_formByte (congrArg (List.map Char.toLower) hnil)
  exact h (utf8_inj hbytes)

end Text

/-! ## Captures -/

theorem Dict.get?_putAll {α : Type} {key : String} {value : α} {pairs : List (String × α)}
    (h : (key, value) ∈ pairs) (d : Dict α) : (Dict.get? (putAll d pairs) key).isSome := by
  -- A later pair may take the value of a key, but not the key.
  have hkept : ∀ (pairs : List (String × α)) (d : Dict α), (Dict.get? d key).isSome →
      (Dict.get? (putAll d pairs) key).isSome := by
    intro pairs
    induction pairs with
    | nil => exact fun d hd => hd
    | cons pair pairs ih =>
        intro d hd
        refine ih _ ?_
        rw [Dict.get?_put]
        split
        · rfl
        · exact hd
  induction pairs generalizing d with
  | nil => cases h
  | cons pair pairs ih =>
      rcases List.mem_cons.1 h with rfl | hrest
      · exact hkept pairs _ (by simp [Dict.get?_put])
      · exact ih hrest _

namespace Pattern

variable {segments : List Segment} {parts : List String} {captures : List (String × String)}
  {name : String}

/-- Whether nothing follows a capture of all that remains. -/
def RestIsLast : List Segment → Prop
  | [] => True
  | .rest _ :: segments => segments = []
  | .literal _ :: segments | .param _ :: segments => RestIsLast segments

theorem restIsLast_of_parseSegments {written : List (List Char)}
    (h : parseSegments written = .ok segments) : RestIsLast segments := by
  induction written generalizing segments with
  | nil =>
      cases h
      trivial
  | cons segment written ih =>
      unfold parseSegments at h
      cases hfirst : parseSegment written.isEmpty segment with
      | error fault => simp [hfirst, bind, Except.bind] at h
      | ok first =>
          cases hothers : parseSegments written with
          | error fault => simp [hfirst, hothers, bind, Except.bind] at h
          | ok others =>
              simp only [hfirst, hothers, bind, Except.bind, pure, Except.pure,
                Except.ok.injEq] at h
              subst h
              have hrest := ih hothers
              cases first with
              | literal text => exact hrest
              | param name => exact hrest
              | rest name =>
                  -- Only the last segment that is written is read as such a capture.
                  have hlast : written = [] := by
                    unfold parseSegment at hfirst
                    split at hfirst
                    · cases hfirst
                    · cases hfirst
                    · cases hfirst
                    · split at hfirst
                      · rename_i hempty
                        exact List.isEmpty_iff.1 hempty
                      · cases hfirst
                    · cases hfirst
                  rw [hlast] at hothers
                  cases hothers
                  rfl

theorem restIsLast_of_parse {text : String} {p : Pattern} (h : parse text = .ok p) :
    RestIsLast p.segments := by
  unfold parse at h
  split at h
  · split at h
    · rename_i hsegments
      cases h
      exact restIsLast_of_parseSegments hsegments
    · cases h
  · cases h

/-- A capture of one segment has a value. -/
theorem exists_capture (h : captures? segments parts = some captures)
    (hlast : RestIsLast segments) (hparam : .param name ∈ segments) :
    ∃ value, (name, value) ∈ captures := by
  -- Matching stops at a capture of all that remains, so that the name must stand before it.
  induction segments generalizing parts captures with
  | nil => cases hparam
  | cons segment segments ih =>
      cases segment with
      | literal text =>
          have hparam' : .param name ∈ segments := by simpa using hparam
          cases parts with
          | nil => cases h
          | cons part parts =>
              unfold captures? at h
              split at h
              · exact ih h hlast hparam'
              · cases h
      | param first =>
          cases parts with
          | nil => cases h
          | cons part parts =>
              rcases Option.map_eq_some_iff.1 h with ⟨others, hothers, rfl⟩
              rcases List.mem_cons.1 hparam with hfirst | hparam'
              · cases hfirst
                exact ⟨part, List.mem_cons_self⟩
              · rcases ih hothers hlast hparam' with ⟨value, hvalue⟩
                exact ⟨value, List.mem_cons_of_mem _ hvalue⟩
      | rest first =>
          have hnil : segments = [] := hlast
          simp [hnil] at hparam

/-- What a name captures is a segment of the path, unless it is the name of all that remains. -/
theorem mem_parts_of_capture (h : captures? segments parts = some captures)
    (hrest : .rest name ∉ segments) {value : String} (hvalue : (name, value) ∈ captures) :
    value ∈ parts := by
  induction segments generalizing parts captures with
  | nil =>
      cases parts with
      | nil =>
          cases h
          cases hvalue
      | cons part parts => cases h
  | cons segment segments ih =>
      have hrest' : .rest name ∉ segments := fun hmem => hrest (List.mem_cons_of_mem _ hmem)
      cases segment with
      | literal text =>
          cases parts with
          | nil => cases h
          | cons part parts =>
              unfold captures? at h
              split at h
              · exact List.mem_cons_of_mem _ (ih h hrest' hvalue)
              · cases h
      | param first =>
          cases parts with
          | nil => cases h
          | cons part parts =>
              rcases Option.map_eq_some_iff.1 h with ⟨others, hothers, rfl⟩
              rcases List.mem_cons.1 hvalue with hfirst | hvalue'
              · cases hfirst
                exact List.mem_cons_self
              · exact List.mem_cons_of_mem _ (ih hothers hrest' hvalue')
      | rest first =>
          cases h
          cases List.mem_singleton.1 hvalue
          exact absurd List.mem_cons_self hrest

/-- The value of a capture of one segment, as pages are told of it. -/
theorem exists_value {text path : String} {p : Pattern} (hparse : parse text = .ok p)
    {params : Dict String} (hmatch : p.match? path = some params)
    (hparam : .param name ∈ p.segments) (hrest : .rest name ∉ p.segments) :
    ∃ value, Dict.get? params name = some value ∧ value ∈ Text.segments path := by
  rcases Option.map_eq_some_iff.1 hmatch with ⟨captures, hcaptures, rfl⟩
  rcases exists_capture hcaptures (restIsLast_of_parse hparse) hparam with ⟨captured, hcaptured⟩
  rcases Option.isSome_iff_exists.1 (Dict.get?_putAll hcaptured []) with ⟨value, hvalue⟩
  have hmem : (name, value) ∈ captures := Dict.mem_of_mem_ofList (Dict.mem_of_get? hvalue)
  exact ⟨value, hvalue, mem_parts_of_capture hcaptures hrest hmem⟩

end Pattern

theorem Text.ne_empty_of_mem_segments {path segment : String} (h : segment ∈ Text.segments path) :
    segment.toList ≠ [] := by
  rcases List.mem_map.1 h with ⟨piece, hpiece, rfl⟩
  simpa using (List.mem_filter.1 hpiece).2

/-! ## Segments put together -/

section Slashed

variable {segments : List String}

theorem Text.pieces_slashed (hne : segments ≠ [])
    (hslash : ∀ segment ∈ segments, '/' ∉ segment.toList) :
    pieces '/' (slashed segments).toList = segments.map String.toList := by
  rw [slashed, joinWith, String.toList_ofList]
  refine pieces_joined (by simpa using hne) fun piece hpiece => ?_
  rcases List.mem_map.1 hpiece with ⟨segment, hsegment, rfl⟩
  exact hslash segment hsegment

theorem Url.plain_slashed (h : ∀ segment ∈ segments, Plain segment.toList) :
    Plain (Text.slashed segments).toList := by
  induction segments with
  | nil => exact plain_nil
  | cons first rest ih =>
      have hfirst := h first List.mem_cons_self
      have hrest := ih fun other hother => h other (List.mem_cons_of_mem _ hother)
      cases rest with
      | nil => simpa [Text.slashed, Text.joinWith, Text.joined] using hfirst
      | cons next rest =>
          have hjoined : (Text.slashed (first :: next :: rest)).toList =
              first.toList ++ '/' :: (Text.slashed (next :: rest)).toList := by
            simp [Text.slashed, Text.joinWith, Text.joined]
          intro c hc
          rw [hjoined] at hc
          rcases List.mem_append.1 hc with hc | hc
          · exact hfirst c hc
          · rcases List.mem_cons.1 hc with rfl | hc
            · decide
            · exact hrest c hc

end Slashed

/-! ## Templates that are paths -/

namespace Template

/-- Letters, digits, the hyphen and the underscore. -/
def isWordChar (c : Char) : Bool := c.isAlphanum || c == '-' || c == '_'

/-- A segment of a template: a text that stands for itself, or a placeholder. -/
inductive Part where
  | literal (text : String)
  | placeholder (name : String)
deriving DecidableEq

namespace Part

/-- The segment as it is written in the template. -/
def written : Part → String
  | .literal text => text
  | .placeholder name => .ofList ('{' :: name.toList ++ ['}'])

/-- The segment in the expanded template. -/
def filled (lookup : String → Option String) : Part → String
  | .literal text => text
  | .placeholder name => Text.formEncode ((lookup name).getD "")

/-- Whether a segment is a text of letters, digits, hyphens and underscores, or a placeholder named
after a capture of one segment. -/
def Fits (pattern : Pattern) : Part → Prop
  | .literal text => text.toList.all isWordChar = true
  | .placeholder name =>
    .param name ∈ pattern.segments ∧ .rest name ∉ pattern.segments ∧ '}' ∉ name.toList

instance (pattern : Pattern) (part : Part) : Decidable (part.Fits pattern) :=
  match part with
  | .literal text =>
    inferInstanceAs (Decidable (text.toList.all isWordChar = true))
  | .placeholder name =>
    inferInstanceAs (Decidable (.param name ∈ pattern.segments ∧ .rest name ∉ pattern.segments ∧
      '}' ∉ name.toList))

end Part

/-- A template that is a path, with or without a slash before it. -/
structure Shape where
  isRooted : Bool
  parts : List Part

namespace Shape

/-- A path with the slash that its template has. -/
def place (shape : Shape) (segments : List String) : String :=
  (if shape.isRooted then "/" else "") ++ Text.slashed segments

/-- The template as it is written. -/
def text (shape : Shape) : String := shape.place (shape.parts.map Part.written)

/-- The segments of the expanded template. -/
def segments (shape : Shape) (lookup : String → Option String) : List String :=
  shape.parts.map (Part.filled lookup)

/-- The expanded template. -/
def filled (shape : Shape) (lookup : String → Option String) : String :=
  shape.place (shape.segments lookup)

/-- Whether all segments fit, and the first of them is not taken for the slash before it. -/
def Fits (shape : Shape) (pattern : Pattern) : Prop :=
  (∀ part ∈ shape.parts, part.Fits pattern) ∧
    (shape.isRooted = true ∨ shape.parts.head? ≠ some (.literal ""))

instance (shape : Shape) (pattern : Pattern) : Decidable (shape.Fits pattern) :=
  inferInstanceAs (Decidable ((∀ part ∈ shape.parts, part.Fits pattern) ∧
    (shape.isRooted = true ∨ shape.parts.head? ≠ some (.literal ""))))

end Shape

/-! ### Expansion -/

variable {lookup : String → Option String}

theorem expandFrom_plain {cs : List Char} (h : '{' ∉ cs) (rest : List Char) :
    expandFrom lookup none (cs ++ rest) = (expandFrom lookup none rest).map (cs ++ ·) := by
  induction cs with
  | nil => cases hrest : expandFrom lookup none rest <;> simp [Except.map, hrest]
  | cons c cs ih =>
      simp only [List.mem_cons, not_or] at h
      rw [List.cons_append, expandFrom, if_neg (Ne.symm h.1), ih h.2]
      cases expandFrom lookup none rest <;> simp [Except.map]

theorem expandFrom_name (before : List Char) {name : List Char} (h : '}' ∉ name)
    (rest : List Char) :
    expandFrom lookup (some before) (name ++ '}' :: rest) =
      match lookup (.ofList (before.reverse ++ name)) with
      | none => .error (.ofList (before.reverse ++ name))
      | some value =>
        (expandFrom lookup none rest).map (Text.formEncodeChars value.toList ++ ·) := by
  -- What has been read of the name is kept last first, until the brace ends it.
  induction name generalizing before with
  | nil =>
      cases hlookup : lookup (.ofList before.reverse) <;> simp [expandFrom, hlookup]
  | cons c name ih =>
      simp only [List.mem_cons, not_or] at h
      rw [List.cons_append, expandFrom, if_neg (Ne.symm h.1), ih (c :: before) h.2]
      simp

/-- Whether a segment has an expansion. -/
def Part.Resolves (lookup : String → Option String) : Part → Prop
  | .literal text => '{' ∉ text.toList
  | .placeholder name => '}' ∉ name.toList ∧ (lookup name).isSome

theorem expandFrom_part {part : Part} (h : part.Resolves lookup) {rest expanded : List Char}
    (hrest : expandFrom lookup none rest = .ok expanded) :
    expandFrom lookup none (part.written.toList ++ rest) =
      .ok ((part.filled lookup).toList ++ expanded) := by
  cases part with
  | literal text =>
      rw [Part.written, expandFrom_plain h, hrest]
      rfl
  | placeholder name =>
      rcases Option.isSome_iff_exists.1 h.2 with ⟨value, hvalue⟩
      have hname : expandFrom lookup (some []) (name.toList ++ '}' :: rest) = _ :=
        expandFrom_name [] h.1 rest
      simpa [Part.written, Part.filled, Text.formEncode, hvalue, hrest, expandFrom, Except.map]
        using hname

theorem expandFrom_parts {parts : List Part} (h : ∀ part ∈ parts, part.Resolves lookup) :
    expandFrom lookup none (Text.slashed (parts.map Part.written)).toList =
      .ok (Text.slashed (parts.map (Part.filled lookup))).toList := by
  induction parts with
  | nil => rfl
  | cons part parts ih =>
      have hpart : part.Resolves lookup := h part List.mem_cons_self
      have hparts := ih fun other hother => h other (List.mem_cons_of_mem _ hother)
      cases parts with
      | nil =>
          have hlast := expandFrom_part hpart (rfl : expandFrom lookup none [] = .ok [])
          simpa [Text.slashed, Text.joinWith, Text.joined] using hlast
      | cons next rest =>
          have hslash : '{' ∉ ['/'] := by decide
          have hrest := expandFrom_part hpart
            (by rw [expandFrom_plain hslash, hparts]; rfl)
          simpa [Text.slashed, Text.joinWith, Text.joined] using hrest

theorem expand_text {shape : Shape} (h : ∀ part ∈ shape.parts, part.Resolves lookup) :
    expand lookup shape.text = .ok (shape.filled lookup) := by
  have hslash : '{' ∉ (if shape.isRooted then "/" else "").toList := by
    cases shape.isRooted <;> decide
  rw [expand, Shape.text, Shape.place, String.toList_append, expandFrom_plain hslash,
    expandFrom_parts h]
  simp [Except.map, Shape.filled, Shape.place, Shape.segments]

/-! ### Expanded segments -/

theorem toNat_lt_of_isWordChar {c : Char} (h : isWordChar c = true) : c.toNat < 128 := by
  -- Upper-case letters, lower-case letters and digits are ranges of characters.
  have hranges : ((decide ('A'.val ≤ c.val ∧ c.val ≤ 'Z'.val) ||
      decide ('a'.val ≤ c.val) && decide (c.val ≤ 'z'.val)) ||
      (decide ('0'.val ≤ c.val) && decide (c.val ≤ '9'.val)) || c == '-' || c == '_') = true := h
  simp only [Bool.or_eq_true, Bool.and_eq_true, decide_eq_true_eq, beq_iff_eq] at hranges
  change c.val.toNat < 128
  rcases hranges with (((⟨-, hle⟩ | ⟨-, hle⟩) | ⟨-, hle⟩) | rfl) | rfl
  · exact Nat.lt_of_le_of_lt hle (by decide)
  · exact Nat.lt_of_le_of_lt hle (by decide)
  · exact Nat.lt_of_le_of_lt hle (by decide)
  · decide
  · decide

theorem of_isWordChar {c : Char} (h : isWordChar c = true) :
    (Url.keepsInPath c = true ∧ c ≠ '\\' ∧ c ≠ '/') ∧ c ≠ '{' ∧ c.toLower ≠ '.' ∧
      c.toLower ≠ '%' := by
  exact Text.of_ascii (p := fun c => isWordChar c = true →
    (Url.keepsInPath c = true ∧ c ≠ '\\' ∧ c ≠ '/') ∧ c ≠ '{' ∧ c.toLower ≠ '.' ∧ c.toLower ≠ '%')
    (by decide +kernel) (toNat_lt_of_isWordChar h) h

section Expanded

variable {pattern : Pattern} {params : Dict String} {part : Part}
  (hvalues : ∀ name, .param name ∈ pattern.segments → .rest name ∉ pattern.segments →
    ∃ value, lookup name = some value ∧ value.toList ≠ [])

theorem keepsInPath_filled (hfits : part.Fits pattern) {c : Char}
    (hc : c ∈ (part.filled lookup).toList) : Url.keepsInPath c = true ∧ c ≠ '\\' ∧ c ≠ '/' := by
  cases part with
  | literal text => exact (of_isWordChar (List.all_eq_true.1 hfits c hc)).1
  | placeholder name =>
      have hencoded : c ∈ Text.formEncodeChars ((lookup name).getD "").toList := by
        simpa [Part.filled, Text.formEncode] using hc
      exact Text.keepsInPath_formEncodeChars hencoded

include hvalues in
theorem resolves_of_fits (hfits : part.Fits pattern) : part.Resolves lookup := by
  cases part with
  | literal text => exact fun hmem => (of_isWordChar (List.all_eq_true.1 hfits _ hmem)).2.1 rfl
  | placeholder name =>
      rcases hvalues name hfits.1 hfits.2.1 with ⟨value, hvalue, -⟩
      exact ⟨hfits.2.2, by simp [hvalue]⟩

include hvalues in
theorem filled_ne_nil (hfits : part.Fits pattern) (hempty : part ≠ .literal "") :
    (part.filled lookup).toList ≠ [] := by
  cases part with
  | literal text =>
      intro hnil
      exact hempty (congrArg Part.literal (String.toList_eq_nil_iff.1 hnil))
  | placeholder name =>
      rcases hvalues name hfits.1 hfits.2.1 with ⟨value, hvalue, hne⟩
      simpa [Part.filled, Text.formEncode, hvalue] using Text.formEncodeChars_ne_nil hne

/-- An expanded segment is a dot segment exactly if it is a placeholder whose value is one. -/
theorem isDots_filled_iff (hfits : part.Fits pattern) :
    Url.isDots (part.filled lookup).toList = true ↔
      ∃ name, part = .placeholder name ∧
        ((lookup name).getD "" = "." ∨ (lookup name).getD "" = "..") := by
  cases part with
  | literal text =>
      refine iff_of_false (fun hdots => ?_) (by simp)
      -- A dot segment begins with a full stop or with its triplet, and a word does not.
      rcases Url.exists_stops hdots with ⟨first, rest, htext, hfirst, -⟩
      cases hchars : text.toList with
      | nil =>
          rw [Part.filled, hchars] at htext
          rcases hfirst with rfl | rfl <;> cases htext
      | cons c cs =>
          have hc := (of_isWordChar (List.all_eq_true.1 hfits c (hchars ▸ List.mem_cons_self))).2.2
          rw [Part.filled, hchars] at htext
          rcases hfirst with rfl | rfl
          · exact hc.1 (List.cons.inj htext).1
          · exact hc.2 (List.cons.inj htext).1
  | placeholder name =>
      have hdots := Text.isDots_formEncodeChars ((lookup name).getD "").toList
      have hstop : ∀ value : String, value.toList = ['.'] ↔ value = "." :=
        fun value => (String.toList_inj : value.toList = ".".toList ↔ value = ".")
      have hstops : ∀ value : String, value.toList = ['.', '.'] ↔ value = ".." :=
        fun value => (String.toList_inj : value.toList = "..".toList ↔ value = "..")
      simp only [Part.filled, Text.formEncode, String.toList_ofList, hdots, Part.placeholder.injEq,
        exists_eq_left', hstop, hstops]

end Expanded
end Template

/-! ## Requests of a page -/

theorem toList_endpoint_nil (base : String) :
    (endpoint base "").toList = base.toList ++ ['/'] := by
  simp [endpoint]

/-- An expanded template is put behind the base with one slash in between. -/
theorem toList_endpoint_filled (base : String) {shape : Template.Shape}
    {lookup : String → Option String}
    (hne : shape.isRooted = true ∨ "" ∉ (shape.segments lookup).head?)
    (hslash : ∀ segment ∈ shape.segments lookup, '/' ∉ segment.toList) :
    (endpoint base (shape.filled lookup)).toList =
      base.toList ++ '/' :: (Text.slashed (shape.segments lookup)).toList := by
  -- Without a slash before it, the template must not seem to have one: then none would be put in.
  cases hrooted : shape.isRooted with
  | true => simp [endpoint, Template.Shape.filled, Template.Shape.place, hrooted]
  | false =>
      have hhead : (Text.slashed (shape.segments lookup)).toList.head? ≠ some '/' := by
        cases hsegments : shape.segments lookup with
        | nil => simp [Text.slashed, Text.joinWith, Text.joined]
        | cons first rest =>
            have hfirst : first ∈ shape.segments lookup := hsegments ▸ List.mem_cons_self
            have hempty : first.toList ≠ [] := by
              intro hnil
              rw [String.toList_eq_nil_iff.1 hnil] at hsegments
              simp [hrooted, hsegments] at hne
            rcases List.exists_cons_of_ne_nil hempty with ⟨c, cs, hchars⟩
            have hc : c ≠ '/' := by
              rintro rfl
              exact hslash first hfirst (hchars ▸ List.mem_cons_self)
            cases rest with
            | nil => simp [Text.slashed, Text.joinWith, Text.joined, hchars, hc]
            | cons next rest => simp [Text.slashed, Text.joinWith, Text.joined, hchars, hc]
      simp [endpoint, Template.Shape.filled, Template.Shape.place, hrooted, hhead]

theorem Except.exists_mapM_iff {ε α β : Type} {f : α → Except ε β} {as : List α} :
    (∃ bs, as.mapM f = .ok bs) ↔ ∀ a ∈ as, ∃ b, f a = .ok b := by
  constructor
  · rintro ⟨bs, h⟩
    have hpairs := forall₂_of_mapM h
    clear h
    induction hpairs with
    | nil => exact List.forall_mem_nil _
    | cons hfirst _ ih => exact List.forall_mem_cons.2 ⟨⟨_, hfirst⟩, ih⟩
  · intro h
    induction as with
    | nil => exact ⟨[], rfl⟩
    | cons a as ih =>
        rcases h a List.mem_cons_self with ⟨b, hfirst⟩
        rcases ih fun other hother => h other (List.mem_cons_of_mem _ hother) with ⟨bs, hrest⟩
        exact ⟨b :: bs, by rw [List.mapM_cons, hfirst, hrest]; rfl⟩

section Requests

variable {pattern : Pattern} {shape : Template.Shape} {lookup : String → Option String}
  (hfits : shape.Fits pattern)
  (hvalues : ∀ name, .param name ∈ pattern.segments → .rest name ∉ pattern.segments →
    ∃ value, lookup name = some value ∧ value.toList ≠ [])

include hfits

theorem Template.Shape.part_of_segment {segment : String} (h : segment ∈ shape.segments lookup) :
    ∃ part ∈ shape.parts, part.Fits pattern ∧ part.filled lookup = segment := by
  rcases List.mem_map.1 h with ⟨part, hpart, hfilled⟩
  exact ⟨part, hpart, hfits.1 part hpart, hfilled⟩

theorem Template.Shape.slash_not_mem_segment {segment : String}
    (h : segment ∈ shape.segments lookup) : '/' ∉ segment.toList := by
  rcases Template.Shape.part_of_segment hfits h with ⟨part, -, hpart, rfl⟩
  exact fun hslash => (Template.keepsInPath_filled hpart hslash).2.2 rfl

theorem Template.Shape.plain_slashed : Url.Plain (Text.slashed (shape.segments lookup)).toList := by
  refine Url.plain_slashed fun segment hsegment c hc => ?_
  rcases Template.Shape.part_of_segment hfits hsegment with ⟨part, -, hpart, rfl⟩
  have hkeeps := Template.keepsInPath_filled hpart hc
  exact ⟨hkeeps.1, hkeeps.2.1⟩

/-- The path of a template has dot segments exactly if a value in it is one. -/
theorem Template.Shape.noDots_iff :
    (∀ segment ∈ Text.pieces '/' (Text.slashed (shape.segments lookup)).toList,
        Url.isDots segment = false) ↔
      ∀ name, .placeholder name ∈ shape.parts →
        (lookup name).getD "" ≠ "." ∧ (lookup name).getD "" ≠ ".." := by
  by_cases hne : shape.segments lookup = []
  · have hparts : shape.parts = [] := List.map_eq_nil_iff.1 hne
    rw [hne, hparts]
    exact iff_of_true (by decide) (by simp)
  · rw [Text.pieces_slashed hne fun segment => slash_not_mem_segment hfits]
    constructor
    · intro hdots name hname
      have hsegment : (Part.placeholder name).filled lookup ∈ shape.segments lookup :=
        List.mem_map_of_mem hname
      have hplain := hdots _ (List.mem_map_of_mem hsegment)
      constructor
      · intro hstop
        have hdot := (isDots_filled_iff (hfits.1 _ hname)).2 ⟨name, rfl, .inl hstop⟩
        exact Bool.noConfusion (hplain.symm.trans hdot)
      · intro hstops
        have hdot := (isDots_filled_iff (hfits.1 _ hname)).2 ⟨name, rfl, .inr hstops⟩
        exact Bool.noConfusion (hplain.symm.trans hdot)
    · intro hnames piece hpiece
      rcases List.mem_map.1 hpiece with ⟨segment, hsegment, rfl⟩
      rcases part_of_segment hfits hsegment with ⟨part, hpart, hpartFits, rfl⟩
      refine Bool.eq_false_iff.2 fun hdots => ?_
      rcases (isDots_filled_iff hpartFits).1 hdots with ⟨name, rfl, hstop | hstops⟩
      · exact (hnames name hpart).1 hstop
      · exact (hnames name hpart).2 hstops

include hvalues

/-- The request for an expanded template. -/
theorem Template.Shape.exists_request {base : String} {root : Url}
    (hroot : Url.parse (endpoint base "") = .ok root) (hhttp : root.isHttp = true)
    (hquery : root.query = none) (hfragment : root.fragment = none) (token : Option String) :
    ∃ request, (Call.get (shape.filled lookup)).request? base token = some request ∧
      { request.url with path := root.path } = root ∧
      (request.url.path = root.path ++ Text.slashed (shape.segments lookup) ↔
        ∀ name, .placeholder name ∈ shape.parts →
          (lookup name).getD "" ≠ "." ∧ (lookup name).getD "" ≠ "..") := by
  have hne : shape.isRooted = true ∨ "" ∉ (shape.segments lookup).head? := by
    refine hfits.2.imp id fun hhead hempty => ?_
    rw [segments, List.head?_map] at hempty
    rcases Option.map_eq_some_iff.1 hempty with ⟨part, hpart, hfilled⟩
    have hfirst : part ≠ .literal "" := fun hliteral => hhead (hliteral ▸ hpart)
    refine filled_ne_nil hvalues (hfits.1 part (List.mem_of_head? hpart)) hfirst ?_
    exact String.toList_eq_nil_iff.2 hfilled
  have hrootChars : Url.parseChars (base.toList ++ ['/']) = .ok root := by
    rw [← toList_endpoint_nil]
    exact hroot
  rcases Url.exists_parse_below hrootChars hhttp hquery hfragment (plain_slashed hfits) with
    ⟨url, hparse, hsame, hpath⟩
  have hurl : Url.parse (endpoint base (shape.filled lookup)) = .ok url := by
    rw [Url.parse, toList_endpoint_filled base hne fun segment => slash_not_mem_segment hfits]
    exact hparse
  have hscheme : url.scheme = root.scheme := by rw [← hsame]
  have hrequests : url.isHttp = true := by
    rw [Url.isHttp, hscheme]
    exact hhttp
  have hrequest : (Call.get (shape.filled lookup)).request? base token =
      some { method := .get, url, headers := Headers.build [] token, body := "" } := by
    simp [Call.request?, Call.get, hurl, hrequests]
  refine ⟨_, hrequest, hsame, ?_⟩
  rw [← noDots_iff hfits, ← hpath, String.ofList_toList]

end Requests

/-- Let a location match a pattern, and let requests be made below any base that has neither query
nor fragment, with `root` for what the base and a slash denote.  Let the template of a source be a
path, with or without a slash before it, whose segments are words or placeholders named after
captures of one segment.

A page of such sources makes its calls.  Whatever other sources a page has: if it makes calls, it
makes one for each source, and the request for such a source is for a URL that is `root` but for its
path.  Its path is that of `root` followed by the segments of the template, every word unchanged and
one segment, never empty, for every placeholder, exactly if no placeholder stands for a single or a
double dot. -/
theorem captured_segment_keeps_place_iff {written : String} {pattern : Pattern}
    (hpattern : Pattern.parse written = .ok pattern) {raw : String} {params : Dict String}
    (hmatch : pattern.match? (Location.parse raw).path = some params) {base : String} {root : Url}
    (hroot : Url.parse (endpoint base "") = .ok root) (hhttp : root.isHttp = true)
    (hquery : root.query = none) (hfragment : root.fragment = none) (page : FetchPage)
    (session : Session) (token : Option String) :
    let location := Location.parse raw
    let ctx : PageContext := ⟨location.path, params, location.query, session⟩
    ((∀ source ∈ page.sources, ∃ shape : Template.Shape,
        source.template = shape.text ∧ shape.Fits pattern) →
      ∃ calls next, page.render ctx = .fetch calls next) ∧
    ∀ calls next, page.render ctx = .fetch calls next →
      List.Forall₂ (fun source call => ∀ shape : Template.Shape,
        source.template = shape.text → shape.Fits pattern →
          (∀ segment ∈ shape.segments ctx.lookup, '/' ∉ segment.toList) ∧
          (∀ name, .placeholder name ∈ shape.parts →
            (Template.Part.placeholder name).filled ctx.lookup ≠ "") ∧
          ∃ request, call.request? base token = some request ∧
            { request.url with path := root.path } = root ∧
            (request.url.path = root.path ++ Text.slashed (shape.segments ctx.lookup) ↔
              ∀ name, .placeholder name ∈ shape.parts →
                Dict.get? params name ≠ some "." ∧ Dict.get? params name ≠ some ".."))
        page.sources calls := by
  intro location ctx
  -- A capture takes precedence over a query parameter of its name.
  have hvalues : ∀ name, .param name ∈ pattern.segments → .rest name ∉ pattern.segments →
      ∃ value, Dict.get? params name = some value ∧ ctx.lookup name = some value ∧
        value.toList ≠ [] := by
    intro name hparam hrest
    rcases Pattern.exists_value hpattern hmatch hparam hrest with ⟨value, hvalue, hsegment⟩
    exact ⟨value, hvalue, by simp [PageContext.lookup, ctx, hvalue],
      Text.ne_empty_of_mem_segments hsegment⟩
  have hlookup : ∀ name, .param name ∈ pattern.segments → .rest name ∉ pattern.segments →
      ∃ value, ctx.lookup name = some value ∧ value.toList ≠ [] := by
    intro name hparam hrest
    rcases hvalues name hparam hrest with ⟨value, -, hvalue⟩
    exact ⟨value, hvalue⟩
  have hexpand : ∀ shape : Template.Shape, shape.Fits pattern →
      Template.expand ctx.lookup shape.text = .ok (shape.filled ctx.lookup) :=
    fun shape hfits => Template.expand_text fun part hpart =>
      Template.resolves_of_fits hlookup (hfits.1 part hpart)
  constructor
  · intro hsources
    have hpaths : ∃ paths, page.paths ctx = .ok paths := by
      refine Except.exists_mapM_iff.2 fun source hsource => ?_
      rcases hsources source hsource with ⟨shape, htemplate, hfits⟩
      exact ⟨_, htemplate ▸ hexpand shape hfits⟩
    rcases hpaths with ⟨paths, hpaths⟩
    exact ⟨paths.map Call.get, fun replies => .done (page.assemble replies),
      by simp [FetchPage.render, hpaths]⟩
  · intro calls next hrender
    cases hpaths : page.paths ctx with
    | error name => simp [FetchPage.render, hpaths] at hrender
    | ok paths =>
        have hcalls : paths.map Call.get = calls := by
          simp only [FetchPage.render, hpaths, Rendering.fetch.injEq] at hrender
          exact hrender.1
        rw [← hcalls, List.forall₂_map_right_iff]
        refine (Except.forall₂_of_mapM hpaths).imp fun source path hpath shape htemplate hfits => ?_
        have hfilled : path = shape.filled ctx.lookup := by
          rw [htemplate, hexpand shape hfits] at hpath
          exact (Except.ok.inj hpath).symm
        refine ⟨fun segment => Template.Shape.slash_not_mem_segment hfits,
          fun name hname hempty => ?_, ?_⟩
        · refine Template.filled_ne_nil hlookup (hfits.1 _ hname) (by simp) ?_
          exact String.toList_eq_nil_iff.2 hempty
        · rcases Template.Shape.exists_request hfits hlookup hroot hhttp hquery hfragment token with
            ⟨request, hrequest, hsame, hplace⟩
          refine ⟨request, hfilled ▸ hrequest, hsame, hplace.trans (forall_congr' fun name => ?_)⟩
          refine imp_congr_right fun hname => ?_
          have hpart := hfits.1 _ hname
          rcases hvalues name hpart.1 hpart.2.1 with ⟨value, hvalue, hlookedUp, -⟩
          simp [hvalue, hlookedUp]

/-- The calls that a page makes first. -/
def Rendering.calls : Rendering → List Call
  | .fetch calls _ => calls
  | .done _ => []

/-- The article whose name is two dots: the blog asks for its whole API, and for the comments of
nobody. -/
theorem dots_reach_other_endpoints :
    let location := Location.parse "/article/.."
    let article := Site.Blog.declarations.find? fun d => d.name == "article"
    let reached : Option (List String) := do
      let d ← article
      let pattern ← (Pattern.parse d.pattern).toOption
      let params ← pattern.match? location.path
      (d.page ⟨location.path, params, location.query, none⟩).calls.mapM fun call =>
        (call.request? "http://localhost/api" none).map (·.url.path)
    article.map (·.pattern) = some "/article/:id" ∧
      reached = some ["/api/", "/api/comments"] := by
  decide +kernel

theorem Except.eq_ok_of_toOption {ε α : Type} {x : Except ε α} {a : α} (h : x.toOption = some a) :
    x = .ok a := by
  cases x with
  | error e => cases h
  | ok b =>
      cases h
      rfl

/-- Dots that are written as triplets in the location are not the dots of a path. -/
theorem written_dots_keep_place :
    ∃ request, (Call.get "/articles/%252e%252e/comments").request? "http://localhost/api" none =
        some request ∧
      request.url.path = "/api/articles/%252e%252e/comments" := by
  let pattern : Pattern := ⟨"/article/:id", [.literal "article", .param "id"]⟩
  let comments : Template.Shape :=
    ⟨true, [.literal "articles", .placeholder "id", .literal "comments"]⟩
  let page : FetchPage := ⟨"comments", "Comments", [source "comments" comments.text]⟩
  let root : Url := { scheme := "http", host := some (.domain "localhost"), path := "/api/" }
  have hpattern : Pattern.parse "/article/:id" = .ok pattern :=
    Except.eq_ok_of_toOption (by decide +kernel)
  have hmatch : pattern.match? (Location.parse "/article/%2e%2e?tab=1").path =
      some [("id", "%2e%2e")] := by decide +kernel
  have hroot : Url.parse (endpoint "http://localhost/api" "") = .ok root :=
    Except.eq_ok_of_toOption (by decide +kernel)
  have hplace :=
    captured_segment_keeps_place_iff hpattern hmatch hroot (by decide) rfl rfl page none none
  have hpaths : page.paths ⟨"/article/%2e%2e", [("id", "%2e%2e")], [("tab", "1")], none⟩ =
      .ok ["/articles/%252e%252e/comments"] := Except.eq_ok_of_toOption (by decide +kernel)
  have hrender : ∃ next, page.render
      ⟨"/article/%2e%2e", [("id", "%2e%2e")], [("tab", "1")], none⟩ =
        .fetch [Call.get "/articles/%252e%252e/comments"] next :=
    ⟨fun replies => .done (page.assemble replies), by simp [FetchPage.render, hpaths]⟩
  rcases hrender with ⟨next, hrender⟩
  rcases List.forall₂_cons.1 (hplace.2 _ next hrender) with ⟨hcall, -⟩
  rcases hcall comments rfl (by decide +kernel) with ⟨-, -, request, hrequest, -, hpath⟩
  refine ⟨request, hrequest, hpath.2 fun name hname => ?_⟩
  have hid : name = "id" := by simpa [comments] using hname
  rw [hid]
  decide

end WebClient
