import WebClient.Proofs.ByteOrder
import WebClient.Proofs.Captures

/-!
# Placeholders — what is read in the place of a placeholder

A page puts captures into the paths that it asks for, and writes them form-encoded.  In a path
nothing but percent triplets is undone: a plus sign there is a plus sign.

* `Text.percentDecode_formEncodeChars`: percent-decoding what form encoding has written gives the
  text back, with a plus sign for every space.
* `Template.Layout` is a template cut at its placeholders.  Every template has one
  (`Template.Layout.exists_template`), and `Template.expand_template` is its expansion: the text
  with each placeholder filled, or the leftmost name without a value.
* `captured_text_arrives_iff`: a placeholder that fills a segment of a path makes one segment, and
  that segment reads as the captured text exactly if the text has no spaces.
-/

namespace WebClient

/-! ## Form encoding, read as part of a path -/

namespace Text

/-- What is read in a path for a character that has been form-encoded. -/
def plusForSpace (c : Char) : Char := if c = ' ' then '+' else c

/-- What is read for a byte. -/
def plusByte (b : UInt8) : UInt8 := if b = 0x20 then 0x2B else b

theorem percentDecode_cons_of_ne {b : UInt8} (h : b ≠ 0x25) (rest : List UInt8) :
    percentDecode (b :: rest) = b :: percentDecode rest := by
  match rest with
  | [] => rfl
  | [_] => rfl
  | _ :: _ :: _ => rw [percentDecode, if_neg h]

theorem ofNat_hexUpper {n : Nat} (h : n < 16) :
    (hexUpper n).toNat ≤ 0x7F ∧
      Char.ofNat (UInt8.ofNat (hexUpper n).toNat).toNat = hexUpper n := by
  have hall : ∀ n ∈ List.range 16, (hexUpper n).toNat ≤ 0x7F ∧
      Char.ofNat (UInt8.ofNat (hexUpper n).toNat).toNat = hexUpper n := by decide
  exact hall n (List.mem_range.2 h)

theorem percentDecode_percentTriplet (b : UInt8) (rest : List UInt8) :
    percentDecode (utf8 (percentTriplet b) ++ rest) = b :: percentDecode rest := by
  have hb : b.toNat < 256 := b.toNat_lt
  have hhigh : b.toNat / 16 < 16 := by omega
  have hlow : b.toNat % 16 < 16 := by omega
  -- The digits are ASCII, so that each is read from a byte of its own.
  have hbytes : utf8 (percentTriplet b) = [0x25, UInt8.ofNat (hexUpper (b.toNat / 16)).toNat,
      UInt8.ofNat (hexUpper (b.toNat % 16)).toNat] := by
    simp only [utf8, percentTriplet, List.flatMap_cons, List.flatMap_nil,
      utf8EncodeChar_of_le (ofNat_hexUpper hhigh).1, utf8EncodeChar_of_le (ofNat_hexUpper hlow).1]
    rfl
  have hvalue : b.toNat / 16 * 16 + b.toNat % 16 = b.toNat := by omega
  rw [hbytes, List.cons_append, List.cons_append, List.cons_append, List.nil_append, percentDecode,
    if_pos rfl, (ofNat_hexUpper hhigh).2, (ofNat_hexUpper hlow).2, hexValue?_hexUpper hhigh,
    hexValue?_hexUpper hlow]
  simp [hvalue]

theorem utf8_ofNat {b : UInt8} (h : b.toNat < 128) : utf8 [Char.ofNat b.toNat] = [b] := by
  have hvalid : b.toNat.isValidChar := .inl (by omega)
  have hchar : (Char.ofNat b.toNat).toNat = b.toNat := by
    rw [Char.ofNat, dif_pos hvalid]
    rfl
  have hencoded := utf8EncodeChar_of_le (c := Char.ofNat b.toNat) (by omega)
  rw [hchar, UInt8.ofNat_toNat] at hencoded
  simp [utf8, hencoded]

/-- A byte that has been written is read as it was, but for the space. -/
theorem percentDecode_formByte (b : UInt8) (rest : List UInt8) :
    percentDecode (utf8 (formByte b) ++ rest) = plusByte b :: percentDecode rest := by
  by_cases hspace : b = 0x20
  · subst hspace
    exact percentDecode_cons_of_ne (by decide) rest
  · have hkept : plusByte b = b := if_neg hspace
    unfold formByte
    split
    · rename_i hsafe
      have hbyte := toNat_of_isFormSafe hsafe
      have hpercent : b ≠ 0x25 := fun heq => hbyte.2 (by rw [heq]; rfl)
      rw [utf8_ofNat hbyte.1, hkept]
      exact percentDecode_cons_of_ne hpercent rest
    · rw [hkept]
      exact percentDecode_percentTriplet b rest

theorem percentDecode_formBytes (bytes : List UInt8) :
    percentDecode (utf8 (bytes.flatMap formByte)) = bytes.map plusByte := by
  induction bytes with
  | nil => rfl
  | cons b bytes ih =>
      have hsplit : utf8 ((b :: bytes).flatMap formByte) =
          utf8 (formByte b) ++ utf8 (bytes.flatMap formByte) := by
        rw [List.flatMap_cons, utf8, List.flatMap_append]
        rfl
      rw [hsplit, percentDecode_formByte, ih, List.map_cons]

theorem map_plusByte_utf8EncodeChar (c : Char) :
    (String.utf8EncodeChar c).map plusByte = String.utf8EncodeChar (plusForSpace c) := by
  by_cases hspace : c = ' '
  · subst hspace
    decide
  · have hkept : plusForSpace c = c := if_neg hspace
    have hbytes : ∀ b ∈ String.utf8EncodeChar c, b ≠ 0x20 :=
      ne_of_mem_utf8EncodeChar (d := ' ') (by decide) hspace
    rw [hkept]
    calc (String.utf8EncodeChar c).map plusByte
        = (String.utf8EncodeChar c).map id := List.map_congr_left fun b hb => if_neg (hbytes b hb)
      _ = String.utf8EncodeChar c := List.map_id _

/-- In a path a plus sign is read where form encoding has written a space, and everything else as it
was. -/
theorem percentDecode_formEncodeChars (cs : List Char) :
    percentDecode (utf8 (formEncodeChars cs)) = utf8 (cs.map plusForSpace) := by
  calc percentDecode (utf8 (formEncodeChars cs))
      = (utf8 cs).map plusByte := percentDecode_formBytes _
    _ = cs.flatMap fun c => (String.utf8EncodeChar c).map plusByte := List.map_flatMap
    _ = cs.flatMap fun c => String.utf8EncodeChar (plusForSpace c) := by
        simp only [map_plusByte_utf8EncodeChar]
    _ = utf8 (cs.map plusForSpace) := (List.flatMap_map ..).symm

theorem map_plusForSpace_eq_iff {cs : List Char} : cs.map plusForSpace = cs ↔ ' ' ∉ cs := by
  constructor
  · intro h hspace
    rw [← h] at hspace
    rcases List.mem_map.1 hspace with ⟨c, -, hc⟩
    unfold plusForSpace at hc
    split at hc
    · cases hc
    · contradiction
  · intro h
    calc cs.map plusForSpace
        = cs.map id := List.map_congr_left fun c hc => if_neg fun (heq : c = ' ') => h (heq ▸ hc)
      _ = cs := List.map_id _

theorem percentDecode_formEncodeChars_iff {cs : List Char} :
    percentDecode (utf8 (formEncodeChars cs)) = utf8 cs ↔ ' ' ∉ cs := by
  rw [percentDecode_formEncodeChars, ← map_plusForSpace_eq_iff]
  exact ⟨utf8_inj, congrArg utf8⟩

/-! ## Pieces and their places -/

variable {sep : Char} {before piece after : List Char}

theorem cutAt_append (h : sep ∉ before) (after : List Char) :
    cutAt sep (before ++ after) = (before ++ (cutAt sep after).1, (cutAt sep after).2) := by
  induction before with
  | nil => rfl
  | cons c before ih =>
      simp only [List.mem_cons, not_or] at h
      simp [cutAt, Ne.symm h.1, ih h.2]

theorem length_pieces (cs : List Char) : (pieces sep cs).length = cs.count sep + 1 := by
  induction cs with
  | nil => rfl
  | cons c cs ih =>
      by_cases hc : c = sep
      · simp [pieces, hc, ih]
      · rcases List.exists_cons_of_ne_nil (pieces_ne_nil sep cs) with ⟨first, rest, hpieces⟩
        rw [pieces_cons_of_ne hc hpieces, List.count_cons_of_ne hc, ← ih, hpieces]
        rfl

/-- What stands between separators or the ends is a piece; it has as many before it as there are
separators before it. -/
theorem getElem?_pieces (hpiece : sep ∉ piece) (hbefore : ∀ c ∈ before.getLast?, c = sep)
    (hafter : ∀ c ∈ after.head?, c = sep) :
    (pieces sep (before ++ (piece ++ after)))[before.count sep]? = some piece := by
  have hhead : (pieces sep (piece ++ after))[0]? = some piece := by
    cases after with
    | nil => rw [List.append_nil, pieces_of_not_mem hpiece]; rfl
    | cons c after =>
        cases hafter c rfl
        rw [pieces_append, pieces_of_not_mem hpiece]
        rfl
  rcases List.eq_nil_or_concat before with rfl | ⟨init, last, rfl⟩
  · exact hhead
  · -- The last separator ends the pieces before it, and there are as many as separators.
    rw [List.concat_eq_append] at hbefore ⊢
    cases hbefore last List.getLast?_concat
    have hplace : (init ++ [sep]).count sep = (pieces sep init).length := by
      rw [length_pieces, List.count_append, List.count_singleton_self]
    rw [List.append_assoc, List.singleton_append, pieces_append, hplace,
      List.getElem?_append_right (Nat.le_refl _), Nat.sub_self]
    exact hhead

end Text

theorem Location.split_append {before : List Char} (hhash : '#' ∉ before) (hmark : '?' ∉ before)
    (after : List Char) :
    split (before ++ after) = (before ++ (split after).1, (split after).2) := by
  simp [split, Text.cutAt_append hhash, Text.cutAt_append hmark]

/-! ## Templates cut at their placeholders -/

namespace Template

/-- A placeholder, with the text before it. -/
structure Hole where
  text : List Char
  name : String
  plain : '{' ∉ text := by decide
  named : '}' ∉ name.toList := by decide

/-- A template: its placeholders, and the text behind the last of them. -/
structure Layout where
  holes : List Hole
  tail : List Char
  /-- A brace in it is not closed. -/
  unclosed : '}' ∉ tail.dropWhile (· != '{') := by decide

/-- A placeholder as it is written, with the text before it. -/
def Hole.written (hole : Hole) : List Char := hole.text ++ '{' :: hole.name.toList ++ ['}']

/-- A placeholder with its value in its place. -/
def Hole.filled (lookup : String → Option String) (hole : Hole) : List Char :=
  hole.text ++ Text.formEncodeChars ((lookup hole.name).getD "").toList

namespace Layout

/-- The template as it is written. -/
def template (layout : Layout) : String :=
  .ofList (layout.holes.flatMap Hole.written ++ layout.tail)

/-- The template with a value in the place of each placeholder. -/
def filled (lookup : String → Option String) (layout : Layout) : String :=
  .ofList (layout.holes.flatMap (Hole.filled lookup) ++ layout.tail)

/-- Whether a placeholder is a whole segment of the path in a template: the path goes as far as it,
and it stands between slashes or the ends of the path. -/
structure FillsSegment (layout : Layout) (before : List Hole) (hole : Hole) (after : List Hole) :
    Prop where
  split : layout.holes = before ++ hole :: after
  inPath : ∀ other ∈ before ++ [hole], '#' ∉ other.text ∧ '?' ∉ other.text
  opens : ∀ c ∈ (before.flatMap Hole.written ++ hole.text).getLast?, c = '/'
  closes : ∀ c ∈ (after.flatMap Hole.written ++ layout.tail).head?, c = '/' ∨ c = '?' ∨ c = '#'

end Layout

/-! ### Expansion -/

variable {lookup : String → Option String}

theorem expandFrom_unclosed {cs : List Char} (before : List Char) (h : '}' ∉ cs) :
    expandFrom lookup (some before) cs = .ok ('{' :: before.reverse ++ cs) := by
  induction cs generalizing before with
  | nil => simp [expandFrom]
  | cons c cs ih =>
      simp only [List.mem_cons, not_or] at h
      rw [expandFrom, if_neg (Ne.symm h.1), ih (c :: before) h.2]
      simp

theorem expandFrom_tail {cs : List Char} (h : '}' ∉ cs.dropWhile (· != '{')) :
    expandFrom lookup none cs = .ok cs := by
  induction cs with
  | nil => rfl
  | cons c cs ih =>
      unfold expandFrom
      by_cases hc : c = '{'
      · subst hc
        have hrest : '}' ∉ cs := fun hmem => h (by simp [hmem])
        rw [if_pos rfl, expandFrom_unclosed [] hrest]
        rfl
      · have hrest : '}' ∉ cs.dropWhile (· != '{') := by simpa [hc] using h
        rw [if_neg hc, ih hrest]
        rfl

theorem expandFrom_hole (hole : Hole) (rest : List Char) :
    expandFrom lookup none (hole.written ++ rest) =
      if (lookup hole.name).isSome then (expandFrom lookup none rest).map (hole.filled lookup ++ ·)
      else .error hole.name := by
  have hwritten : hole.written ++ rest = hole.text ++ '{' :: (hole.name.toList ++ '}' :: rest) := by
    simp [Hole.written]
  have hname : expandFrom lookup (some []) (hole.name.toList ++ '}' :: rest) = _ :=
    expandFrom_name [] hole.named rest
  rw [List.reverse_nil, List.nil_append, String.ofList_toList] at hname
  rw [hwritten, expandFrom_plain hole.plain, expandFrom, if_pos rfl, hname]
  cases hlookup : lookup hole.name with
  | none => rfl
  | some value =>
      cases expandFrom lookup none rest <;> simp [Except.map, Hole.filled, hlookup]

theorem expandFrom_holes (holes : List Hole) {tail : List Char}
    (h : '}' ∉ tail.dropWhile (· != '{')) :
    expandFrom lookup none (holes.flatMap Hole.written ++ tail) =
      match holes.find? fun hole => (lookup hole.name).isNone with
      | some hole => .error hole.name
      | none => .ok (holes.flatMap (Hole.filled lookup) ++ tail) := by
  induction holes with
  | nil => exact expandFrom_tail h
  | cons hole holes ih =>
      rw [List.flatMap_cons, List.append_assoc, expandFrom_hole, ih]
      cases hlookup : lookup hole.name with
      | none => simp [hlookup]
      | some value =>
          cases hfind : holes.find? fun hole => (lookup hole.name).isNone <;>
            simp [hlookup, hfind, Except.map]

/-- A template expands to its text with each placeholder filled; if there are names without a value,
the leftmost of them is the error. -/
theorem expand_template (layout : Layout) :
    expand lookup layout.template =
      match layout.holes.find? fun hole => (lookup hole.name).isNone with
      | some hole => .error hole.name
      | none => .ok (layout.filled lookup) := by
  rw [expand, Layout.template, String.toList_ofList, expandFrom_holes _ layout.unclosed]
  cases layout.holes.find? fun hole => (lookup hole.name).isNone <;> rfl

theorem exists_expand_iff {layout : Layout} :
    (∃ expanded, expand lookup layout.template = .ok expanded) ↔
      ∀ hole ∈ layout.holes, (lookup hole.name).isSome := by
  rw [expand_template]
  cases hfind : layout.holes.find? fun hole => (lookup hole.name).isNone with
  | none =>
      refine iff_of_true ⟨_, rfl⟩ fun hole hhole => ?_
      simpa [Option.isSome_iff_ne_none] using List.find?_eq_none.1 hfind hole hhole
  | some hole =>
      refine iff_of_false (by simp) fun hall => ?_
      have hnone : lookup hole.name = none := by simpa using List.find?_some hfind
      have hsome := hall hole (List.mem_of_find?_eq_some hfind)
      rw [hnone] at hsome
      cases hsome

theorem eq_filled_of_expand {layout : Layout} {expanded : String}
    (h : expand lookup layout.template = .ok expanded) : expanded = layout.filled lookup := by
  rw [expand_template] at h
  split at h
  · cases h
  · exact (Except.ok.inj h).symm

/-! ### Every template -/

/-- Outside of a placeholder a text is a template; inside of one, either a brace closes it and a
template follows, or there is none. -/
theorem exists_holes (cs : List Char) :
    (∃ layout : Layout, layout.holes.flatMap Hole.written ++ layout.tail = cs) ∧
      ('}' ∉ cs ∨ ∃ name, '}' ∉ name ∧ ∃ layout : Layout,
        name ++ '}' :: (layout.holes.flatMap Hole.written ++ layout.tail) = cs) := by
  -- The scanner goes back and forth between the two, so that each needs the other for the rest.
  induction cs with
  | nil => exact ⟨⟨⟨[], [], by decide⟩, rfl⟩, .inl List.not_mem_nil⟩
  | cons c cs ih =>
      rcases ih with ⟨⟨outside, houtside⟩, hinside⟩
      constructor
      · by_cases hc : c = '{'
        · subst hc
          rcases hinside with hunclosed | ⟨name, hname, layout, rfl⟩
          · exact ⟨⟨[], '{' :: cs, by simpa using hunclosed⟩, rfl⟩
          · have hnamed : '}' ∉ (String.ofList name).toList := by rwa [String.toList_ofList]
            refine ⟨⟨⟨[], .ofList name, List.not_mem_nil, hnamed⟩ :: layout.holes, layout.tail,
              layout.unclosed⟩, ?_⟩
            simp [Hole.written]
        · subst houtside
          rcases outside with ⟨_ | ⟨hole, holes⟩, tail, hunclosed⟩
          · exact ⟨⟨[], c :: tail, by simpa [hc] using hunclosed⟩, rfl⟩
          · have hplain : '{' ∉ c :: hole.text :=
              List.not_mem_cons_of_ne_of_not_mem (Ne.symm hc) hole.plain
            exact ⟨⟨⟨c :: hole.text, hole.name, hplain, hole.named⟩ :: holes, tail, hunclosed⟩, rfl⟩
      · by_cases hc : c = '}'
        · exact .inr ⟨[], List.not_mem_nil, outside, by rw [houtside, hc]; rfl⟩
        · rcases hinside with hunclosed | ⟨name, hname, layout, hcs⟩
          · exact .inl (List.not_mem_cons_of_ne_of_not_mem (Ne.symm hc) hunclosed)
          · exact .inr ⟨c :: name, List.not_mem_cons_of_ne_of_not_mem (Ne.symm hc) hname, layout,
              congrArg (c :: ·) hcs⟩

theorem Layout.exists_template (template : String) :
    ∃ layout : Layout, layout.template = template := by
  rcases (exists_holes template.toList).1 with ⟨layout, hlayout⟩
  exact ⟨layout, by rw [Layout.template, hlayout, String.ofList_toList]⟩

/-! ### The segment of a placeholder -/

theorem not_mem_formEncodeChars (cs : List Char) :
    '#' ∉ Text.formEncodeChars cs ∧ '?' ∉ Text.formEncodeChars cs ∧
      '/' ∉ Text.formEncodeChars cs := by
  refine ⟨fun hhash => ?_, fun hmark => ?_, fun hslash => ?_⟩
  · exact absurd (Text.keepsInPath_formEncodeChars hhash).1 (by decide)
  · exact absurd (Text.keepsInPath_formEncodeChars hmark).1 (by decide)
  · exact (Text.keepsInPath_formEncodeChars hslash).2.2 rfl

/-- Values have no slashes of their own. -/
theorem count_filled (lookup : String → Option String) (holes : List Hole) :
    (holes.flatMap (Hole.filled lookup)).count '/' = (holes.flatMap Hole.text).count '/' := by
  induction holes with
  | nil => rfl
  | cons hole holes ih =>
      have hvalue := (not_mem_formEncodeChars ((lookup hole.name).getD "").toList).2.2
      simp only [List.flatMap_cons, Hole.filled, List.count_append, ih,
        List.count_eq_zero_of_not_mem hvalue, Nat.add_zero]

theorem head?_split {cs : List Char} (h : ∀ c ∈ cs.head?, c = '/' ∨ c = '?' ∨ c = '#') :
    ∀ c ∈ (Location.split cs).1.head?, c = '/' := by
  cases cs with
  | nil => exact fun c hc => nomatch hc
  | cons first rest =>
      rcases h first rfl with rfl | rfl | rfl
      · have hsplit : Location.split (['/'] ++ rest) = _ :=
          Location.split_append (by decide) (by decide) rest
        intro c hc
        rw [← List.singleton_append, hsplit] at hc
        exact (Option.some.inj hc).symm
      · simp [Location.split, Text.cutAt]
      · simp [Location.split, Text.cutAt]

namespace Layout.FillsSegment

variable {layout : Layout} {before after : List Hole} {hole : Hole}
  (h : layout.FillsSegment before hole after)

include h

/-- With values for the placeholders before it, a placeholder is still in the path. -/
theorem not_mem_filled {c : Char} (hc : c = '#' ∨ c = '?') :
    c ∉ before.flatMap (Hole.filled lookup) ++ hole.text := by
  have htext : ∀ other ∈ before ++ [hole], c ∉ other.text := by
    intro other hother
    rcases hc with rfl | rfl
    · exact (h.inPath other hother).1
    · exact (h.inPath other hother).2
  intro hmem
  rcases List.mem_append.1 hmem with hbefore | hlast
  · rcases List.mem_flatMap.1 hbefore with ⟨other, hother, hfilled⟩
    rcases List.mem_append.1 hfilled with hown | hvalue
    · exact htext other (List.mem_append_left _ hother) hown
    · have hvalues := not_mem_formEncodeChars ((lookup other.name).getD "").toList
      rcases hc with rfl | rfl
      · exact hvalues.1 hvalue
      · exact hvalues.2.1 hvalue
  · exact htext hole (List.mem_append_right _ List.mem_cons_self) hlast

theorem opens_filled :
    ∀ c ∈ (before.flatMap (Hole.filled lookup) ++ hole.text).getLast?, c = '/' := by
  have hopens := h.opens
  rcases List.eq_nil_or_concat hole.text with hnil | ⟨init, last, htext⟩
  · rcases List.eq_nil_or_concat before with rfl | ⟨others, other, rfl⟩
    · simp [hnil]
    · -- Otherwise another placeholder would end where this one begins.
      have hbrace : ((others.concat other).flatMap Hole.written ++ hole.text).getLast? =
          some '}' := by
        rw [hnil, List.append_nil, List.concat_eq_append, List.flatMap_append,
          List.flatMap_singleton, Hole.written, ← List.append_assoc, List.getLast?_concat]
      exact absurd (hopens '}' hbrace) (by decide)
  · intro c hc
    refine hopens c ?_
    rw [htext, List.concat_eq_append, ← List.append_assoc, List.getLast?_concat] at hc ⊢
    exact hc

theorem closes_filled :
    ∀ c ∈ (after.flatMap (Hole.filled lookup) ++ layout.tail).head?,
      c = '/' ∨ c = '?' ∨ c = '#' := by
  have hcloses := h.closes
  cases after with
  | nil => exact hcloses
  | cons next after =>
      cases htext : next.text with
      | nil =>
          -- Otherwise another placeholder would begin where this one ends.
          simp [Hole.written, htext] at hcloses
      | cons first text =>
          simpa [Hole.written, Hole.filled, htext] using hcloses

/-- A placeholder that fills a segment stands for one segment, in the same place: it is the encoded
value. -/
theorem segment (lookup : String → Option String) :
    (Text.pieces '/' (Location.split (layout.filled lookup).toList).1)[
        (before.flatMap Hole.text ++ hole.text).count '/']? =
      some (Text.formEncodeChars ((lookup hole.name).getD "").toList) := by
  have hvalue := not_mem_formEncodeChars ((lookup hole.name).getD "").toList
  have hchars : (layout.filled lookup).toList =
      (before.flatMap (Hole.filled lookup) ++ hole.text) ++
        (Text.formEncodeChars ((lookup hole.name).getD "").toList ++
          (after.flatMap (Hole.filled lookup) ++ layout.tail)) := by
    simp [Layout.filled, h.split, Hole.filled]
  have hplace : (before.flatMap Hole.text ++ hole.text).count '/' =
      (before.flatMap (Hole.filled lookup) ++ hole.text).count '/' := by
    rw [List.count_append, List.count_append, count_filled]
  -- Neither what stands before the placeholder nor its value ends the path or a segment of it.
  rw [hchars, Location.split_append (h.not_mem_filled (.inl rfl)) (h.not_mem_filled (.inr rfl)),
    Location.split_append hvalue.1 hvalue.2.1, hplace]
  exact Text.getElem?_pieces hvalue.2.2 h.opens_filled (head?_split h.closes_filled)

end Layout.FillsSegment

end Template

/-! ## Pages -/

/-- Every name of a pattern that matches has a value. -/
theorem Pattern.exists_capture_of_name {text path name : String} {p : Pattern}
    (hparse : parse text = .ok p) {params : Dict String} (hmatch : p.match? path = some params)
    (hname : name ∈ p.names) : ∃ value, Dict.get? params name = some value := by
  rcases Option.map_eq_some_iff.1 hmatch with ⟨captures, hcaptures, rfl⟩
  have hkeys := names_of_captures hcaptures (restIsLast_of_parse hparse)
  rw [names, ← hkeys] at hname
  rcases List.mem_map.1 hname with ⟨⟨key, captured⟩, hmem, rfl⟩
  exact Option.isSome_iff_exists.1 (Dict.get?_putAll hmem [])

namespace FetchPage

variable {page : FetchPage} {ctx : PageContext}

/-- A page makes its calls exactly if all its templates can be expanded. -/
theorem exists_fetch_iff :
    (∃ calls next, page.render ctx = .fetch calls next) ↔
      ∀ source ∈ page.sources,
        ∃ path, Template.expand ctx.lookup source.template = .ok path := by
  rw [← Except.exists_mapM_iff]
  change _ ↔ ∃ paths, page.paths ctx = .ok paths
  unfold render
  cases page.paths ctx <;> simp

/-- Each call asks for what the template of its source expands to. -/
theorem forall₂_of_fetch {calls : List Call} {next : List Reply → Rendering}
    (h : page.render ctx = .fetch calls next) :
    List.Forall₂ (fun source call =>
      Template.expand ctx.lookup source.template = .ok call.path) page.sources calls := by
  cases hpaths : page.paths ctx with
  | error name => simp [render, hpaths] at h
  | ok paths =>
      have hcalls : paths.map Call.get = calls := by
        simp only [render, hpaths, Rendering.fetch.injEq] at h
        exact h.1
      rw [← hcalls, List.forall₂_map_right_iff]
      exact Except.forall₂_of_mapM hpaths

end FetchPage

/-- Let a location match a pattern, and let a page be made of it.  The page makes its calls exactly
if every placeholder in the templates of its sources has a value, and then it makes one for each
source.

Wherever in a template a placeholder named after a capture fills a segment of the path, it stands
for one segment of the path that is asked for, in the same place.  Percent-decoded, that segment is
the captured text with plus signs for the spaces in it; so it is the captured text exactly if there
are none, whatever other characters there are. -/
theorem captured_text_arrives_iff {written : String} {pattern : Pattern}
    (hpattern : Pattern.parse written = .ok pattern) {raw : String} {params : Dict String}
    (hmatch : pattern.match? (Location.parse raw).path = some params) (page : FetchPage)
    (session : Session) :
    let location := Location.parse raw
    let ctx : PageContext := ⟨location.path, params, location.query, session⟩
    ((∃ calls next, page.render ctx = .fetch calls next) ↔
      ∀ source ∈ page.sources, ∀ layout : Template.Layout, source.template = layout.template →
        ∀ hole ∈ layout.holes, (ctx.lookup hole.name).isSome) ∧
    ∀ calls next, page.render ctx = .fetch calls next →
      List.Forall₂ (fun source call => ∀ (layout : Template.Layout) before hole after,
        source.template = layout.template → layout.FillsSegment before hole after →
          hole.name ∈ pattern.names →
            ∃ value segment, Dict.get? params hole.name = some value ∧
              (Text.pieces '/' (Location.split call.path.toList).1)[
                (before.flatMap Template.Hole.text ++ hole.text).count '/']? = some segment ∧
              Text.percentDecode (Text.utf8 segment) =
                Text.utf8 (value.toList.map Text.plusForSpace) ∧
              (Text.percentDecode (Text.utf8 segment) = Text.utf8Bytes value ↔
                ' ' ∉ value.toList))
        page.sources calls := by
  intro location ctx
  constructor
  · rw [FetchPage.exists_fetch_iff]
    refine forall₂_congr fun source hsource => ?_
    constructor
    · intro hexpand layout htemplate
      rw [htemplate] at hexpand
      exact Template.exists_expand_iff.1 hexpand
    · intro hall
      rcases Template.Layout.exists_template source.template with ⟨layout, htemplate⟩
      rw [← htemplate]
      exact Template.exists_expand_iff.2 (hall layout htemplate.symm)
  · intro calls next hrender
    refine (FetchPage.forall₂_of_fetch hrender).imp ?_
    intro source call hpath layout before hole after htemplate hfills hname
    rcases Pattern.exists_capture_of_name hpattern hmatch hname with ⟨value, hvalue⟩
    have hlookup : ctx.lookup hole.name = some value := by
      simp [PageContext.lookup, ctx, hvalue]
    have hfilled : call.path = layout.filled ctx.lookup :=
      Template.eq_filled_of_expand (htemplate ▸ hpath)
    have hsegment := hfills.segment ctx.lookup
    rw [hlookup, ← hfilled] at hsegment
    exact ⟨value, _, hvalue, hsegment, Text.percentDecode_formEncodeChars _,
      Text.percentDecode_formEncodeChars_iff⟩

/-- The article whose name is two letters with a space between them: the blog asks for the one whose
name has a plus sign there. -/
theorem space_asks_for_plus :
    let location := Location.parse "/article/a b"
    let article := Site.Blog.declarations.find? fun d => d.name == "article"
    let params := article.bind fun d => (Pattern.parse d.pattern).toOption.bind
      fun pattern => pattern.match? location.path
    let asked : Option (List (Option (List Char) × String)) := do
      let d ← article
      (d.page ⟨location.path, ← params, location.query, none⟩).calls.mapM fun call => do
        let request ← call.request? "http://localhost/api" none
        return ((Text.pieces '/' (Location.split call.path.toList).1)[2]?, request.url.path)
    article.map (·.pattern) = some "/article/:id" ∧
      params = some [("id", "a b")] ∧
      asked = some [(some ['a', '+', 'b'], "/api/articles/a+b"),
        (some ['a', '+', 'b'], "/api/articles/a+b/comments")] ∧
      Text.percentDecode (Text.utf8 ['a', '+', 'b']) = Text.utf8Bytes "a+b" ∧
      Text.utf8Bytes "a+b" ≠ Text.utf8Bytes "a b" := by
  decide +kernel

/-- Percent signs, plus signs and letters beyond ASCII are read as they were captured. -/
theorem percent_and_plus_arrive :
    ∃ segment, (Text.pieces '/' "/articles/50%25%2B%C3%A9/comments".toList)[2]? = some segment ∧
      Text.percentDecode (Text.utf8 segment) = Text.utf8Bytes "50%+é" := by
  let pattern : Pattern := ⟨"/article/:id", [.literal "article", .param "id"]⟩
  let hole : Template.Hole := { text := "/articles/".toList, name := "id" }
  let comments : Template.Layout := { holes := [hole], tail := "/comments".toList }
  let page : FetchPage := ⟨"comments", "Comments", [source "comments" comments.template]⟩
  have hpattern : Pattern.parse "/article/:id" = .ok pattern :=
    Except.eq_ok_of_toOption (by decide +kernel)
  have hmatch : pattern.match? (Location.parse "/article/50%+é?id=x").path =
      some [("id", "50%+é")] := by decide +kernel
  have harrives := (captured_text_arrives_iff hpattern hmatch page none).2
  have hpaths : page.paths ⟨"/article/50%+é", [("id", "50%+é")], [("id", "x")], none⟩ =
      .ok ["/articles/50%25%2B%C3%A9/comments"] := Except.eq_ok_of_toOption (by decide +kernel)
  have hrender : page.render ⟨"/article/50%+é", [("id", "50%+é")], [("id", "x")], none⟩ =
      .fetch [Call.get "/articles/50%25%2B%C3%A9/comments"]
        fun replies => .done (page.assemble replies) := by simp [FetchPage.render, hpaths]
  rcases List.forall₂_cons.1 (harrives _ _ hrender) with ⟨hcall, -⟩
  have hopens : hole.text.getLast? = some '/' := by decide +kernel
  have hcloses : comments.tail.head? = some '/' := by decide +kernel
  have hfills : comments.FillsSegment [] hole [] := by
    refine ⟨rfl, by decide +kernel, ?_, ?_⟩
    · intro c hc
      exact Option.mem_unique hc hopens
    · intro c hc
      exact .inl (Option.mem_unique hc hcloses)
  rcases hcall comments [] hole [] rfl hfills (by decide) with
    ⟨value, segment, hvalue, hsegment, -, hdecoded⟩
  have hid : value = "50%+é" := (Option.some.inj hvalue).symm
  subst hid
  exact ⟨segment, hsegment, hdecoded.2 (by decide)⟩

end WebClient
