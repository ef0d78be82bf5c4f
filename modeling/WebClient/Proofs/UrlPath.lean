import WebClient.Gateway.Wire

/-!
# UrlPath — what a path becomes below a base

A request asks for a path that has been put behind a base.  The whole text is read as a URL, and on
the way dot segments are resolved: the path that is asked for need not be the path that was written.

* `Text.pieces_append` and `Text.pieces_joined`: cutting a text at separators, and putting it
  together.
* `Url.resolveDots_append` reads a path from left to right; `Url.pathText_inj` says that a path is
  its segments.
* `Url.Plain` are the texts that stand for themselves in a path.
* `Url.exists_parse_below`: below a base, a plain path is asked for as it is written exactly if it
  has no dot segments; whatever it is, nothing but the path of the URL changes.
-/

namespace WebClient

/-! ## Cutting texts -/

namespace Text

variable {sep : Char} {cs : List Char}

theorem pieces_cons_of_ne {c : Char} (h : c ≠ sep) {piece : List Char} {rest : List (List Char)}
    (hrest : pieces sep cs = piece :: rest) : pieces sep (c :: cs) = (c :: piece) :: rest := by
  simp [pieces, h, hrest]

theorem pieces_append (before after : List Char) :
    pieces sep (before ++ sep :: after) = pieces sep before ++ pieces sep after := by
  induction before with
  | nil => simp [pieces]
  | cons c before ih =>
      by_cases hc : c = sep
      · simp [pieces, hc, ih]
      · rcases List.exists_cons_of_ne_nil (pieces_ne_nil sep before) with ⟨piece, rest, hpieces⟩
        rw [hpieces] at ih
        rw [pieces_cons_of_ne hc hpieces]
        exact pieces_cons_of_ne hc ih

theorem pieces_of_not_mem (h : sep ∉ cs) : pieces sep cs = [cs] := by
  induction cs with
  | nil => rfl
  | cons c cs ih =>
      simp only [List.mem_cons, not_or] at h
      exact pieces_cons_of_ne (Ne.symm h.1) (ih h.2)

theorem not_mem_of_mem_pieces {piece : List Char} (h : piece ∈ pieces sep cs) : sep ∉ piece := by
  induction cs generalizing piece with
  | nil => simp_all [pieces]
  | cons c cs ih =>
      by_cases hc : c = sep
      · rcases List.mem_cons.1 (by simpa [pieces, hc] using h) with rfl | hrest
        · exact List.not_mem_nil
        · exact ih hrest
      · rcases List.exists_cons_of_ne_nil (pieces_ne_nil sep cs) with ⟨first, rest, hpieces⟩
        rw [pieces_cons_of_ne hc hpieces] at h
        rcases List.mem_cons.1 h with rfl | hrest
        · exact List.not_mem_cons_of_ne_of_not_mem (Ne.symm hc)
            (ih (hpieces ▸ List.mem_cons_self))
        · exact ih (hpieces ▸ List.mem_cons_of_mem _ hrest)

theorem joined_cons (part : List Char) {parts : List (List Char)} (hne : parts ≠ []) :
    joined sep (part :: parts) = part ++ sep :: joined sep parts := by
  rcases List.exists_cons_of_ne_nil hne with ⟨next, rest, rfl⟩
  rfl

theorem pieces_joined {parts : List (List Char)} (hne : parts ≠ [])
    (h : ∀ part ∈ parts, sep ∉ part) : pieces sep (joined sep parts) = parts := by
  induction parts with
  | nil => exact absurd rfl hne
  | cons part parts ih =>
      have hpart : pieces sep part = [part] := pieces_of_not_mem (h part List.mem_cons_self)
      cases parts with
      | nil => exact hpart
      | cons next rest =>
          have hrest : pieces sep (joined sep (next :: rest)) = next :: rest :=
            ih (List.cons_ne_nil _ _) fun other hother => h other (List.mem_cons_of_mem _ hother)
          rw [joined_cons _ (List.cons_ne_nil _ _), pieces_append, hpart, hrest]
          rfl

theorem mem_of_mem_pieces {piece : List Char} {c : Char} (h : piece ∈ pieces sep cs)
    (hc : c ∈ piece) : c ∈ cs := by
  induction cs generalizing piece with
  | nil => simp_all [pieces]
  | cons first cs ih =>
      by_cases hfirst : first = sep
      · rcases List.mem_cons.1 (by simpa [pieces, hfirst] using h) with rfl | hrest
        · cases hc
        · exact List.mem_cons_of_mem _ (ih hrest hc)
      · rcases List.exists_cons_of_ne_nil (pieces_ne_nil sep cs) with ⟨next, rest, hpieces⟩
        rw [pieces_cons_of_ne hfirst hpieces] at h
        rcases List.mem_cons.1 h with rfl | hrest
        · rcases List.mem_cons.1 hc with rfl | hc
          · exact List.mem_cons_self
          · exact List.mem_cons_of_mem _ (ih (hpieces ▸ List.mem_cons_self) hc)
        · exact List.mem_cons_of_mem _ (ih (hpieces ▸ List.mem_cons_of_mem _ hrest) hc)

theorem joined_pieces (cs : List Char) : joined sep (pieces sep cs) = cs := by
  induction cs with
  | nil => rfl
  | cons c cs ih =>
      rcases List.exists_cons_of_ne_nil (pieces_ne_nil sep cs) with ⟨piece, rest, hpieces⟩
      by_cases hc : c = sep
      · have hcut : pieces sep (c :: cs) = [] :: pieces sep cs := by simp [pieces, hc]
        rw [hcut, joined_cons _ (pieces_ne_nil sep cs), ih, hc]
        rfl
      · rw [pieces_cons_of_ne hc hpieces]
        rw [hpieces] at ih
        cases rest with
        | nil => exact congrArg (c :: ·) ih
        | cons next rest =>
            rw [joined_cons _ (List.cons_ne_nil _ _)] at ih ⊢
            exact congrArg (c :: ·) ih

theorem cutAt_of_not_mem (h : sep ∉ cs) : cutAt sep cs = (cs, none) := by
  induction cs with
  | nil => rfl
  | cons c cs ih =>
      simp only [List.mem_cons, not_or] at h
      simp [cutAt, Ne.symm h.1, ih h.2]

theorem not_mem_of_cutAt (h : (cutAt sep cs).2 = none) : sep ∉ cs := by
  induction cs with
  | nil => exact List.not_mem_nil
  | cons c cs ih =>
      by_cases hc : c = sep
      · simp [cutAt, hc] at h
      · exact List.not_mem_cons_of_ne_of_not_mem (Ne.symm hc) (ih (by simpa [cutAt, hc] using h))

/-- Up to a character that ends it, what is taken from a text does not hang on what follows. -/
theorem takeWhile_stop {p : Char → Bool} {stop : Char} (hstop : p stop = false)
    (before after : List Char) :
    (before ++ stop :: after).takeWhile p = before.takeWhile p := by
  induction before with
  | nil => simp [hstop]
  | cons c before ih =>
      by_cases hc : p c = true
      · simp [hc, ih]
      · simp [hc]

theorem dropWhile_stop {p : Char → Bool} {stop : Char} (hstop : p stop = false)
    (before after : List Char) :
    (before ++ stop :: after).dropWhile p = before.dropWhile p ++ stop :: after := by
  induction before with
  | nil => simp [hstop]
  | cons c before ih =>
      by_cases hc : p c = true
      · simp [hc, ih]
      · simp [hc]

end Text

namespace Url

/-! ## Segments -/

/-- Whether a segment stands for a directory. -/
def isDots (segment : List Char) : Bool := isSingleDot segment || isDoubleDot segment

/-- What one more segment makes of the segments before it, last first. -/
def climb (before : List (List Char)) (segment : List Char) : List (List Char) :=
  if isDoubleDot segment then before.drop 1
  else if isSingleDot segment then before
  else segment :: before

variable {before segments : List (List Char)} {segment next : List Char}

theorem resolveDots_cons (before : List (List Char)) (segment : List Char) (hne : segments ≠ []) :
    resolveDots before (segment :: segments) = resolveDots (climb before segment) segments := by
  rcases List.exists_cons_of_ne_nil hne with ⟨next, rest, rfl⟩
  unfold climb
  rw [resolveDots]
  · split
    · rfl
    · split <;> rfl
  · exact List.cons_ne_nil _ _

/-- A path is read from left to right. -/
theorem resolveDots_append (before above : List (List Char)) (hne : segments ≠ []) :
    resolveDots before (above ++ segments) = resolveDots (above.foldl climb before) segments := by
  induction above generalizing before with
  | nil => rfl
  | cons segment above ih =>
      have hrest : above ++ segments ≠ [] := List.append_ne_nil_of_right_ne_nil _ hne
      rw [List.cons_append, resolveDots_cons _ _ hrest, ih]
      rfl

theorem climb_of_noDots (h : isDots segment = false) (before : List (List Char)) :
    climb before segment = segment :: before := by
  rcases Bool.or_eq_false_iff.1 h with ⟨hsingle, hdouble⟩
  simp [climb, hsingle, hdouble]

theorem resolveDots_of_noDots (h : ∀ segment ∈ segments, isDots segment = false)
    (before : List (List Char)) : resolveDots before segments = before.reverse ++ segments := by
  induction segments generalizing before with
  | nil => simp [resolveDots]
  | cons segment segments ih =>
      have hsegment : isDots segment = false := h segment List.mem_cons_self
      cases segments with
      | nil =>
          rcases Bool.or_eq_false_iff.1 hsegment with ⟨hsingle, hdouble⟩
          simp [resolveDots, hsingle, hdouble]
      | cons next rest =>
          rw [resolveDots_cons _ _ (List.cons_ne_nil _ _), climb_of_noDots hsegment,
            ih fun other hother => h other (List.mem_cons_of_mem _ hother)]
          simp

theorem mem_climb (h : segment ∈ climb before next) :
    segment ∈ before ∨ segment = next ∧ isDots segment = false := by
  unfold climb at h
  split at h
  · exact .inl (List.mem_of_mem_drop h)
  · rename_i hdouble
    split at h
    · exact .inl h
    · rename_i hsingle
      rcases List.mem_cons.1 h with rfl | hbefore
      · exact .inr ⟨rfl, by simp [isDots, hsingle, hdouble]⟩
      · exact .inl hbefore

/-- No dot segment is left, and but for an empty one at the end no segment is new. -/
theorem mem_resolveDots (h : segment ∈ resolveDots before segments) :
    segment ∈ before ∨ segment = [] ∨ segment ∈ segments ∧ isDots segment = false := by
  induction segments generalizing before with
  | nil => exact .inl (by simpa [resolveDots] using h)
  | cons first segments ih =>
      cases segments with
      | nil =>
          -- Dots at the end leave an empty segment, for the directory they name.
          unfold resolveDots at h
          split at h
          · rcases List.mem_cons.1 (List.mem_reverse.1 h) with rfl | hbefore
            · exact .inr (.inl rfl)
            · exact .inl (List.mem_of_mem_drop hbefore)
          · rename_i hdouble
            split at h
            · rcases List.mem_cons.1 (List.mem_reverse.1 h) with rfl | hbefore
              · exact .inr (.inl rfl)
              · exact .inl hbefore
            · rename_i hsingle
              rcases List.mem_cons.1 (List.mem_reverse.1 h) with rfl | hbefore
              · exact .inr (.inr ⟨List.mem_cons_self, by simp [isDots, hsingle, hdouble]⟩)
              · exact .inl hbefore
      | cons next rest =>
          rw [resolveDots_cons _ _ (List.cons_ne_nil _ _)] at h
          rcases ih h with hclimbed | hempty | ⟨hmem, hdots⟩
          · rcases mem_climb hclimbed with hbefore | ⟨rfl, hdots⟩
            · exact .inl hbefore
            · exact .inr (.inr ⟨List.mem_cons_self, hdots⟩)
          · exact .inr (.inl hempty)
          · exact .inr (.inr ⟨List.mem_cons_of_mem _ hmem, hdots⟩)

/-! ## Paths as texts -/

theorem pathText_cons (segment : List Char) (segments : List (List Char)) :
    pathText (segment :: segments) = '/' :: segment ++ pathText segments := rfl

theorem pathText_append (segments segments' : List (List Char)) :
    pathText (segments ++ segments') = pathText segments ++ pathText segments' :=
  List.flatMap_append

theorem pathText_eq_joined (hne : segments ≠ []) :
    pathText segments = '/' :: Text.joined '/' segments := by
  induction segments with
  | nil => exact absurd rfl hne
  | cons segment segments ih =>
      cases segments with
      | nil => simp [pathText, Text.joined]
      | cons next rest =>
          rw [pathText_cons, ih (List.cons_ne_nil _ _), Text.joined_cons _ (List.cons_ne_nil _ _)]
          rfl

/-- A path is its segments. -/
theorem pathText_inj {segments' : List (List Char)} (h : ∀ segment ∈ segments, '/' ∉ segment)
    (h' : ∀ segment ∈ segments', '/' ∉ segment) (heq : pathText segments = pathText segments') :
    segments = segments' := by
  -- Cutting a path gives its segments back, after the empty piece before its first slash.
  have hcut : ∀ segments : List (List Char), (∀ segment ∈ segments, '/' ∉ segment) →
      segments = (Text.pieces '/' (pathText segments)).drop 1 := by
    intro segments h
    by_cases hne : segments = []
    · simp [hne, pathText, Text.pieces]
    · simp [pathText_eq_joined hne, Text.pieces, Text.pieces_joined hne h]
  rw [hcut segments h, hcut segments' h', heq]

/-- Below the segments of a base, segments are asked for as they are written exactly if none of them
is a dot segment. -/
theorem pathText_below {above : List (List Char)} (habove : ∀ segment ∈ above, '/' ∉ segment)
    (hsegments : ∀ segment ∈ segments, '/' ∉ segment) (hne : segments ≠ []) :
    pathText (resolveDots [] (above ++ segments)) =
        pathText (resolveDots [] (above ++ [[]])) ++ Text.joined '/' segments ↔
      ∀ segment ∈ segments, isDots segment = false := by
  have hroot : resolveDots [] (above ++ [[]]) = (above.foldl climb []).reverse ++ [[]] := by
    rw [resolveDots_append _ _ (List.cons_ne_nil _ _)]
    exact resolveDots_of_noDots (by decide) _
  have hwritten : pathText (resolveDots [] (above ++ [[]])) ++ Text.joined '/' segments =
      pathText ((above.foldl climb []).reverse ++ segments) := by
    rw [hroot, pathText_append, pathText_append, pathText_eq_joined hne, List.append_assoc]
    rfl
  rw [hwritten]
  constructor
  · intro heq segment hsegment
    -- Read as a list of segments, the path holds the written segment; and it holds no dots.
    have hread : ∀ segment ∈ resolveDots [] (above ++ segments), '/' ∉ segment := by
      intro segment hmem
      rcases mem_resolveDots hmem with hbefore | rfl | ⟨hmem, -⟩
      · cases hbefore
      · exact List.not_mem_nil
      · exact (List.mem_append.1 hmem).elim (habove segment) (hsegments segment)
    have hplace : ∀ segment ∈ (above.foldl climb []).reverse ++ segments, '/' ∉ segment := by
      intro segment hmem
      rcases List.mem_append.1 hmem with hbefore | hmem
      · have hmem' : segment ∈ resolveDots [] (above ++ [[]]) :=
          hroot ▸ List.mem_append_left _ hbefore
        rcases mem_resolveDots hmem' with hnil | rfl | ⟨hmem, -⟩
        · cases hnil
        · exact List.not_mem_nil
        · rcases List.mem_append.1 hmem with hmem | hmem
          · exact habove segment hmem
          · exact List.mem_singleton.1 hmem ▸ List.not_mem_nil
      · exact hsegments segment hmem
    have hmem : segment ∈ resolveDots [] (above ++ segments) := by
      rw [pathText_inj hread hplace heq]
      exact List.mem_append_right _ hsegment
    rcases mem_resolveDots hmem with hnil | rfl | ⟨-, hdots⟩
    · cases hnil
    · rfl
    · exact hdots
  · intro hdots
    rw [resolveDots_append _ _ hne, resolveDots_of_noDots hdots]

/-! ## Characters -/

/-- Texts that stand for themselves in a path, and have slashes of one kind only. -/
def Plain (cs : List Char) : Prop := ∀ c ∈ cs, keepsInPath c = true ∧ c ≠ '\\'

variable {keep : Char → Bool} {cs tail : List Char} {c : Char}

theorem lt_of_keepsInPath (h : keepsInPath c = true) : 0x20 < c.toNat := by
  simp only [keepsInPath, isPlainBut, Bool.and_eq_true, decide_eq_true_eq] at h
  exact h.1.1

theorem Plain.not_mem (h : Plain cs) (hc : keepsInPath c = false) : c ∉ cs := by
  intro hmem
  exact Bool.noConfusion (hc.symm.trans (h c hmem).1)

theorem encode_of_keeps (h : ∀ c ∈ cs, keep c = true) : encode keep cs = cs := by
  induction cs with
  | nil => rfl
  | cons c cs ih =>
      have hrest : encode keep cs = cs :=
        ih fun other hother => h other (List.mem_cons_of_mem _ hother)
      have hencode : encode keep (c :: cs) =
          (if keep c then [c] else (Text.utf8 [c]).flatMap Text.percentTriplet) ++
            encode keep cs := rfl
      rw [hencode, if_pos (h c List.mem_cons_self), hrest]
      rfl

theorem slash_not_mem_percentTriplet (b : UInt8) : '/' ∉ Text.percentTriplet b := by
  have hdigit : ∀ n ∈ List.range 16, Text.hexUpper n ≠ '/' := by decide
  have hb : b.toNat < 256 := b.toNat_lt
  have hhigh := hdigit (b.toNat / 16) (List.mem_range.2 (by omega))
  have hlow := hdigit (b.toNat % 16) (List.mem_range.2 (by omega))
  simp [Text.percentTriplet, hhigh.symm, hlow.symm]

/-- Encoding makes no slashes. -/
theorem slash_not_mem_encode (h : '/' ∉ cs) : '/' ∉ encode keep cs := by
  intro hmem
  rcases List.mem_flatMap.1 hmem with ⟨c, hc, hslash⟩
  split at hslash
  · exact h (List.mem_singleton.1 hslash ▸ hc)
  · rcases List.mem_flatMap.1 hslash with ⟨b, -, hb⟩
    exact slash_not_mem_percentTriplet b hb

theorem pathPieces_plain (h : Plain cs) :
    (pathPieces true cs).map (encode keepsInPath) = Text.pieces '/' cs := by
  have hslash : cs.map (fun c => if isSlash true c then '/' else c) = cs := by
    refine (List.map_congr_left fun c hc => ?_).trans (List.map_id cs)
    by_cases hsame : c = '/'
    · simp [hsame]
    · simp [isSlash, hsame, (h c hc).2]
  rw [pathPieces, hslash]
  refine (List.map_congr_left fun piece hpiece => ?_).trans (List.map_id _)
  exact encode_of_keeps fun c hc => (h c (Text.mem_of_mem_pieces hpiece hc)).1

/-! ## Reading the path of a URL -/

/-- The segments above the last slash of a base do not hang on what follows it. -/
theorem hierarchicalPath_slash (cs : List Char) :
    ∃ above : List (List Char), (∀ segment ∈ above, '/' ∉ segment) ∧
      ∀ tail, Plain tail → hierarchicalPath true (cs ++ '/' :: tail) =
        pathText (resolveDots [] (above ++ Text.pieces '/' tail)) := by
  let written (cs : List Char) : List (List Char) := (pathPieces true cs).map (encode keepsInPath)
  have hwritten : ∀ cs, ∀ segment ∈ written cs, '/' ∉ segment := by
    intro cs segment hsegment
    rcases List.mem_map.1 hsegment with ⟨piece, hpiece, rfl⟩
    exact slash_not_mem_encode (Text.not_mem_of_mem_pieces hpiece)
  have hbelow : ∀ cs tail, Plain tail → pathText (pathSegments true (cs ++ '/' :: tail)) =
      pathText (resolveDots [] (written cs ++ Text.pieces '/' tail)) := by
    intro cs tail htail
    have hpieces : pathPieces true (cs ++ '/' :: tail) =
        pathPieces true cs ++ pathPieces true tail := by
      simpa [pathPieces] using Text.pieces_append _ _
    rw [pathSegments, hpieces, List.map_append, pathPieces_plain htail]
  cases cs with
  | nil =>
      refine ⟨[], by simp, fun tail htail => ?_⟩
      have hpath : hierarchicalPath true ('/' :: tail) = pathText (pathSegments true tail) := rfl
      rw [List.nil_append, hpath, pathSegments, pathPieces_plain htail]
      rfl
  | cons c cs =>
      -- A slash at the front opens the path and is no segment of its own.
      cases hc : isSlash true c with
      | true =>
          refine ⟨written cs, hwritten cs, fun tail htail => ?_⟩
          rw [← hbelow cs tail htail]
          simp [hierarchicalPath, hc]
      | false =>
          refine ⟨written (c :: cs), hwritten (c :: cs), fun tail htail => ?_⟩
          rw [← hbelow (c :: cs) tail htail]
          simp [hierarchicalPath, hc]

/-- A base without what tidying takes from its front and its middle. -/
def tidied (cs : List Char) : List Char :=
  (cs.dropWhile fun c => c.toNat ≤ 0x20).filter fun c => c != '\t' && c != '\n' && c != '\r'

/-- Tidying takes nothing from the end of a text whose last character is no blank. -/
theorem tidy_of_last {last : Char} (hlast : 0x20 < last.toNat) :
    tidy (cs ++ [last]) = tidied (cs ++ [last]) := by
  have hkept : ¬ last.toNat ≤ 0x20 := Nat.not_le.2 hlast
  have hfront : (cs ++ [last]).dropWhile (fun c => decide (c.toNat ≤ 0x20)) =
      cs.dropWhile (fun c => decide (c.toNat ≤ 0x20)) ++ [last] :=
    Text.dropWhile_stop (by simpa using hkept) cs []
  unfold tidy tidied
  simp only [hfront, List.reverse_append, List.reverse_singleton, List.singleton_append]
  rw [List.dropWhile_cons_of_neg (by simpa using hkept), List.reverse_cons, List.reverse_reverse]

/-- What stands before a character that is no blank is tidied in the same way, whatever follows. -/
theorem tidy_stop (cs : List Char) {stop : Char} (h : ∀ c ∈ stop :: tail, 0x20 < c.toNat) :
    tidy (cs ++ stop :: tail) = tidied cs ++ stop :: tail := by
  have hstop : ¬ stop.toNat ≤ 0x20 := Nat.not_le.2 (h stop List.mem_cons_self)
  have hfront : (cs ++ stop :: tail).dropWhile (fun c => decide (c.toNat ≤ 0x20)) =
      cs.dropWhile (fun c => decide (c.toNat ≤ 0x20)) ++ stop :: tail :=
    Text.dropWhile_stop (by simpa using hstop) cs tail
  have hkept : (stop :: tail).filter (fun c => c != '\t' && c != '\n' && c != '\r') =
      stop :: tail := by
    refine List.filter_eq_self.2 fun c hc => ?_
    have hother : ∀ blank ∈ ['\t', '\n', '\r'], c ≠ blank := by
      rintro blank hblank rfl
      have hlow := (by simp : ∀ blank ∈ ['\t', '\n', '\r'], blank.toNat ≤ 0x20) c hblank
      exact absurd (h c hc) (Nat.not_lt.2 hlow)
    simp [hother '\t', hother '\n', hother '\r']
  -- The last character is no blank.
  rcases List.eq_nil_or_concat (stop :: tail) with hnil | ⟨before, last, hlast⟩
  · cases hnil
  · rw [List.concat_eq_append] at hlast
    have hmem : last ∈ stop :: tail := hlast ▸ List.mem_append_right _ List.mem_cons_self
    have htidy : tidy (cs ++ stop :: tail) = tidied (cs ++ stop :: tail) := by
      rw [hlast, ← List.append_assoc]
      exact tidy_of_last (h last hmem)
    rw [htidy, tidied, hfront, List.filter_append, hkept]
    rfl

theorem Plain.lt (h : Plain tail) : ∀ c ∈ '/' :: tail, 0x20 < c.toNat := by
  intro c hc
  rcases List.mem_cons.1 hc with rfl | hc
  · decide
  · exact lt_of_keepsInPath (h c hc).1

/-- A scheme ends before a character that no scheme has. -/
theorem scheme?_stop {stop : Char} (hstop : isSchemeChar stop = false) (hcolon : stop ≠ ':')
    (cs tail : List Char) :
    scheme? (cs ++ stop :: tail) =
      (scheme? cs).map fun (scheme, rest) => (scheme, rest ++ stop :: tail) := by
  have htake := Text.takeWhile_stop (p := isSchemeChar) hstop cs tail
  have hdrop := Text.dropWhile_stop (p := isSchemeChar) hstop cs tail
  unfold scheme?
  rw [htake, hdrop]
  cases cs.takeWhile isSchemeChar with
  | nil => rfl
  | cons first others =>
      cases cs.dropWhile isSchemeChar with
      | nil => simp [hcolon]
      | cons c rest =>
          by_cases hc : c = ':'
          · cases hfirst : first.isAlpha <;> simp [hc, hfirst]
          · simp [hc]

/-- An authority ends before the last slash of a base. -/
theorem exists_afterSlashes_slash (scheme : String) (cs : List Char) :
    ∃ result : Except UrlError (Url × List Char), ∀ tail,
      afterSlashes scheme (cs ++ '/' :: tail) = result.map fun (url, rest) =>
        url.withTail (hierarchicalPath (isSpecialScheme scheme)) (rest ++ '/' :: tail) := by
  let ends : Char → Bool := endsAuthority (isSpecialScheme scheme)
  let text := cs.takeWhile fun c => !ends c
  let rest := cs.dropWhile fun c => !ends c
  refine ⟨(authority scheme text true).map fun a =>
    ({ scheme, credentials := .ofList a.credentials, host := a.host, port := a.port },
      a.rest ++ rest), fun tail => ?_⟩
  have hstop : (!ends '/') = false := by simp [ends, endsAuthority, isSlash]
  have htake : (cs ++ '/' :: tail).takeWhile (fun c => !ends c) = text :=
    Text.takeWhile_stop (p := fun c => !ends c) hstop cs tail
  have hdrop : (cs ++ '/' :: tail).dropWhile (fun c => !ends c) = rest ++ '/' :: tail :=
    Text.dropWhile_stop (p := fun c => !ends c) hstop cs tail
  have hfollowed : (!(rest ++ '/' :: tail).isEmpty) = true := by simp
  unfold afterSlashes
  simp only [ends] at htake hdrop
  simp only [htake, hdrop, hfollowed]
  cases authority scheme text true with
  | error e => rfl
  | ok a => simp [Except.map]

variable {url root : Url} {scheme : String}

theorem scheme_afterSlashes (h : afterSlashes scheme cs = .ok url) : url.scheme = scheme := by
  unfold afterSlashes at h
  dsimp only at h
  generalize authority scheme _ _ = result at h
  cases result with
  | error e => cases h
  | ok a =>
      cases h
      rfl

theorem scheme_afterFile (h : afterFile cs = .ok url) : url.scheme = "file" := by
  unfold afterFile at h
  split at h
  · split at h
    · dsimp only at h
      split at h
      · cases h
        rfl
      · split at h
        · cases h
          rfl
        · split at h
          · cases h
          · cases h
            rfl
          · cases h
            rfl
    · cases h
      rfl
  · cases h
    rfl

theorem scheme_afterOther (h : afterOther scheme cs = .ok url) : url.scheme = scheme := by
  unfold afterOther at h
  split at h
  · exact scheme_afterSlashes h
  · cases h
    rfl
  · cases h
    rfl

/-- A special scheme has no URLs without a host. -/
theorem afterSlashes_nil (hspecial : isSpecialScheme scheme = true) :
    afterSlashes scheme [] = .error .emptyHost := by
  simp [afterSlashes, authority, cutAtLastAt, hostAndPort, cutHost, hspecial, Except.map]

theorem plain_nil : Plain [] := fun _ h => nomatch h

/-- Below a base that requests can be made for, a path is read like an empty one. -/
theorem exists_parse_slash (hroot : parseChars (cs ++ ['/']) = .ok root)
    (hhttp : root.isHttp = true) :
    ∃ url rest, ∀ tail, Plain tail →
      parseChars (cs ++ '/' :: tail) =
        .ok (withTail url (hierarchicalPath true) (rest ++ '/' :: tail)) := by
  have hread := scheme?_stop (by decide : isSchemeChar '/' = false) (by decide) (tidied cs)
  rcases hscheme : scheme? (tidied cs) with _ | ⟨schemeChars, rest⟩
  · simp [parseChars, tidy_stop cs plain_nil.lt, hread, hscheme] at hroot
  · let scheme := String.ofList schemeChars
    have hparse : ∀ tail, Plain tail → parseChars (cs ++ '/' :: tail) =
        if scheme == "file" then afterFile (rest ++ '/' :: tail)
        else if isSpecialScheme scheme then
          afterSlashes scheme ((rest ++ '/' :: tail).dropWhile (isSlash true))
        else afterOther scheme (rest ++ '/' :: tail) := by
      intro tail htail
      simp only [parseChars, tidy_stop cs htail.lt, hread, hscheme]
      rfl
    rw [hparse [] plain_nil] at hroot
    -- Requests are made for two schemes only, and both of them are special.
    have hfile : (scheme == "file") = false := by
      refine Bool.eq_false_iff.2 fun hfile => ?_
      rw [if_pos hfile] at hroot
      simp [isHttp, scheme_afterFile hroot] at hhttp
    have hspecial : isSpecialScheme scheme = true := by
      cases hspecial : isSpecialScheme scheme with
      | true => rfl
      | false =>
          simp only [hfile, hspecial, Bool.false_eq_true, if_false] at hroot
          simp only [isHttp, scheme_afterOther hroot, Bool.or_eq_true, beq_iff_eq] at hhttp
          rcases hhttp with hhttp | hhttp
          all_goals
            rw [hhttp] at hspecial
            exact absurd hspecial (by decide)
    have hslashes : ∀ tail, Plain tail → parseChars (cs ++ '/' :: tail) =
        afterSlashes scheme ((rest ++ '/' :: tail).dropWhile (isSlash true)) := by
      intro tail htail
      rw [hparse tail htail, if_neg (by simp [hfile]), if_pos hspecial]
    -- There is more than slashes before the last one, for there is a host.
    have hhost : (rest.dropWhile (isSlash true)).isEmpty = false := by
      refine Bool.eq_false_iff.2 fun hempty => ?_
      have hnothing : (rest ++ ['/']).dropWhile (isSlash true) = [] := by
        rw [List.dropWhile_append, if_pos hempty]
        rfl
      rw [← hparse [] plain_nil, hslashes [] plain_nil, hnothing,
        afterSlashes_nil hspecial] at hroot
      cases hroot
    have hdrop : ∀ tail, (rest ++ '/' :: tail).dropWhile (isSlash true) =
        rest.dropWhile (isSlash true) ++ '/' :: tail := by
      intro tail
      rw [List.dropWhile_append, if_neg (by simp [hhost])]
    rcases exists_afterSlashes_slash scheme (rest.dropWhile (isSlash true)) with ⟨result, hresult⟩
    rw [← hparse [] plain_nil, hslashes [] plain_nil, hdrop, hresult] at hroot
    cases hok : result with
    | error e => simp [hok, Except.map] at hroot
    | ok parts =>
        refine ⟨parts.1, parts.2, fun tail htail => ?_⟩
        rw [hslashes tail htail, hdrop, hresult, hok, hspecial]
        rfl

theorem splitTail_of_not_mem (hhash : '#' ∉ cs) (hmark : '?' ∉ cs) :
    splitTail cs = (cs, none, none) := by
  simp [splitTail, Text.cutAt_of_not_mem hhash, Text.cutAt_of_not_mem hmark]

/-- Below a base that requests can be made for, and that has no query or fragment, every plain path
makes a URL that differs from that of the base in nothing but its path.  It asks for the path as it
is written exactly if it has no dot segments. -/
theorem exists_parse_below (hroot : parseChars (cs ++ ['/']) = .ok root)
    (hhttp : root.isHttp = true) (hquery : root.query = none) (hfragment : root.fragment = none)
    {tail : List Char} (htail : Plain tail) :
    ∃ url, parseChars (cs ++ '/' :: tail) = .ok url ∧ { url with path := root.path } = root ∧
      (url.path = root.path ++ .ofList tail ↔
        ∀ segment ∈ Text.pieces '/' tail, isDots segment = false) := by
  rcases exists_parse_slash hroot hhttp with ⟨url, rest, hparse⟩
  have hempty := hparse [] plain_nil
  rw [hempty] at hroot
  have hrootEq : withTail url (hierarchicalPath true) (rest ++ ['/']) = root := by
    injection hroot
  -- Neither mark stands in the base, and a plain path brings none along.
  have hhash : '#' ∉ rest ++ ['/'] := by
    refine Text.not_mem_of_cutAt ?_
    rw [← hrootEq] at hfragment
    simpa [withTail, splitTail] using hfragment
  have hmark : '?' ∉ rest ++ ['/'] := by
    refine Text.not_mem_of_cutAt ?_
    rw [← hrootEq] at hquery
    simpa [withTail, splitTail, Text.cutAt_of_not_mem hhash] using hquery
  have hbelow : ∀ tail, Plain tail → withTail url (hierarchicalPath true) (rest ++ '/' :: tail) =
      { url with
        path := .ofList (hierarchicalPath true (rest ++ '/' :: tail))
        query := none
        fragment := none } := by
    intro tail htail
    have hhash' : '#' ∉ rest ++ '/' :: tail := by
      simpa [htail.not_mem (by decide : keepsInPath '#' = false)] using hhash
    have hmark' : '?' ∉ rest ++ '/' :: tail := by
      simpa [htail.not_mem (by decide : keepsInPath '?' = false)] using hmark
    simp [withTail, splitTail_of_not_mem hhash' hmark']
  rcases hierarchicalPath_slash rest with ⟨above, habove, hpath⟩
  have hsegments : ∀ segment ∈ Text.pieces '/' tail, '/' ∉ segment :=
    fun segment => Text.not_mem_of_mem_pieces
  refine ⟨_, hparse tail htail, ?_, ?_⟩
  · rw [← hrootEq, hbelow tail htail, hbelow [] plain_nil]
  · rw [← pathText_below habove hsegments (Text.pieces_ne_nil '/' tail), Text.joined_pieces,
      ← hrootEq, hbelow tail htail, hbelow [] plain_nil, hpath tail htail, hpath [] plain_nil]
    simp only [← String.ofList_append, String.ofList_inj]
    rfl

end Url
end WebClient
