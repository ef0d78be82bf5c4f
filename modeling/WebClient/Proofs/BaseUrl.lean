import Mathlib.Data.List.DropRight
import WebClient.Gateway.Exchange
import WebClient.Proofs.AppendedQuery
import WebClient.Proofs.RequestPath
import WebClient.Settings.Basic

/-!
# BaseUrl — which base URLs are ready to have a path put behind them

The base URL of the settings is read as a URL on its own, and used as a text: a call's path is put
behind it, and the whole is read again.  What ends the base is then read in the middle of a text.

* `Url.directoryPath` is what a path behind a base is below, and `Url.directoryPath_blanks_eq_iff`
  says when it is the path of the base.
* `Url.exists_readings`: what is read of a base when it is read alone, and with a path behind it.
* `Url.Extends` is what a request below a base should be for, and `Url.IsReady` are the bases that
  are ready.
* `base_is_ready_iff`: below the bases that are ready, and no others, a call asks for the path of
  the base followed by its own.
-/

namespace WebClient

/-! ## The last piece of a path -/

namespace Text

variable {sep : Char} {cs tail last : List Char} {parts : List (List Char)}

theorem joined_concat_append (parts : List (List Char)) (last tail : List Char) :
    joined sep (parts ++ [last ++ tail]) = joined sep (parts ++ [last]) ++ tail := by
  induction parts with
  | nil => rfl
  | cons part parts ih =>
      have hne : ∀ last : List Char, parts ++ [last] ≠ [] := fun _ =>
        List.append_ne_nil_of_right_ne_nil _ (List.cons_ne_nil _ _)
      rw [List.cons_append, List.cons_append, joined_cons _ (hne _), joined_cons _ (hne _), ih,
        List.append_assoc]
      rfl

/-- What has no separators becomes a part of the last piece before it. -/
theorem pieces_append_of_not_mem (h : pieces sep cs = parts ++ [last]) (htail : sep ∉ tail) :
    pieces sep (cs ++ tail) = parts ++ [last ++ tail] := by
  have hjoined : joined sep (pieces sep cs) = cs := joined_pieces cs
  rw [← hjoined, h, ← joined_concat_append, pieces_joined (by simp)]
  intro part hpart
  rcases List.mem_append.1 hpart with hbefore | hend
  · exact not_mem_of_mem_pieces (h ▸ List.mem_append_left _ hbefore)
  · rw [List.mem_singleton.1 hend, List.mem_append, not_or]
    exact ⟨not_mem_of_mem_pieces (h ▸ List.mem_append_right _ List.mem_cons_self), htail⟩

/-- Nothing is dropped from a text exactly if it does not end in the character. -/
theorem rdropWhile_eq_self_iff {c : Char} :
    cs.rdropWhile (· == c) = cs ↔ cs.getLast? ≠ some c := by
  rw [List.rdropWhile_eq_self_iff]
  rcases List.eq_nil_or_concat cs with rfl | ⟨before, last, rfl⟩
  · simp
  · simp

theorem toList_dropTrailing (c : Char) (s : String) :
    (dropTrailing c s).toList = s.toList.rdropWhile (· == c) := String.toList_ofList

end Text

namespace Url

variable {above : List (List Char)} {last cs blanks tail : List Char} {url other : Url}
  {scheme : String}

/-- A path ends in a slash exactly if its last segment is empty. -/
theorem getLast?_slash_append (path : List Char) (h : '/' ∉ last) :
    (path ++ '/' :: last).getLast? = some '/' ↔ last = [] := by
  rcases List.eq_nil_or_concat last with rfl | ⟨before, c, rfl⟩
  · simp
  · have hc : c ≠ '/' := by
      rintro rfl
      simp at h
    have hend : path ++ '/' :: before.concat c = (path ++ '/' :: before) ++ [c] := by simp
    rw [hend, List.getLast?_concat]
    simp [hc]

/-- Whether a path ends in two slashes. -/
def EndsInSlashes (path : List Char) : Prop := ['/', '/'] <:+ path

instance (path : List Char) : Decidable (EndsInSlashes path) :=
  inferInstanceAs (Decidable (['/', '/'] <:+ path))

theorem endsInSlashes_concat {path : List Char} :
    EndsInSlashes (path ++ ['/']) ↔ path.getLast? = some '/' := by
  rw [EndsInSlashes, List.suffix_concat_iff, ← List.singleton_suffix_iff_getLast?_eq_some]
  constructor
  · rintro (hnil | ⟨before, hbefore, hsuffix⟩)
    · cases hnil
    · have hone : ['/'] = before :=
        List.append_inj_left' (hbefore : ['/'] ++ ['/'] = before ++ ['/']) rfl
      rwa [← hone] at hsuffix
  · exact fun hsuffix => .inr ⟨['/'], rfl, hsuffix⟩

theorem EndsInSlashes.getLast? {path : List Char} (h : EndsInSlashes path) :
    path.getLast? = some '/' := by
  rcases h with ⟨before, rfl⟩
  simp

/-! ## The path of a base -/

/-- The segments that are written in a path, after its first slash. -/
def writtenSegments (cs : List Char) : List (List Char) :=
  (pathPieces true cs).map (encode keepsInPath)

/-- The path of the directory that segments lead to, without a slash at its end. -/
def directoryPath (segments : List (List Char)) : List Char :=
  pathText (segments.foldl climb []).reverse

theorem slash_not_mem_writtenSegments {segment : List Char} (h : segment ∈ writtenSegments cs) :
    '/' ∉ segment := by
  rcases List.mem_map.1 h with ⟨piece, hpiece, rfl⟩
  exact slash_not_mem_encode (Text.not_mem_of_mem_pieces hpiece)

theorem exists_writtenSegments (cs : List Char) :
    ∃ above last, writtenSegments cs = above ++ [last] := by
  rcases List.eq_nil_or_concat (writtenSegments cs) with hnil | ⟨above, last, h⟩
  · exact absurd (List.map_eq_nil_iff.1 hnil) (Text.pieces_ne_nil _ _)
  · exact ⟨above, last, by rw [h, List.concat_eq_append]⟩

/-- A path leads to a directory; dots at its end leave a slash behind it. -/
theorem pathText_resolveDots (above : List (List Char)) (last : List Char) :
    pathText (resolveDots [] (above ++ [last])) =
      directoryPath (above ++ [last]) ++ if isDots last then ['/'] else [] := by
  have hend : ∀ before, resolveDots before [last] =
      (climb before last).reverse ++ if isDots last then [[]] else [] := by
    intro before
    unfold climb isDots
    rw [resolveDots]
    cases hdouble : isDoubleDot last with
    | true => simp
    | false => cases hsingle : isSingleDot last <;> simp
  rw [resolveDots_append _ _ (List.cons_ne_nil _ _), hend, pathText_append, directoryPath,
    List.foldl_append]
  cases isDots last <;> rfl

theorem directoryPath_of_noDots (h : isDots last = false) (above : List (List Char)) :
    directoryPath (above ++ [last]) = directoryPath above ++ '/' :: last := by
  rw [directoryPath, List.foldl_append, List.foldl_cons, List.foldl_nil, climb_of_noDots h,
    List.reverse_cons, pathText_append]
  simp [pathText, directoryPath]

/-- Dots lead to no longer path. -/
theorem length_directoryPath_of_isDots (h : isDots last = true) (above : List (List Char)) :
    (directoryPath (above ++ [last])).length ≤ (directoryPath above).length := by
  have hshorter : ∀ before : List (List Char),
      (pathText (before.drop 1).reverse).length ≤ (pathText before.reverse).length := by
    intro before
    cases before with
    | nil => exact Nat.le_refl _
    | cons segment before => simp [pathText]
  rw [directoryPath, List.foldl_append, List.foldl_cons, List.foldl_nil]
  unfold climb
  split
  · exact hshorter _
  · rename_i hdouble
    have hsingle : isSingleDot last = true := by simpa [isDots, hdouble] using h
    rw [if_pos hsingle]
    exact Nat.le_refl _

variable {slash : Char}

/-- The path of a base that ends with its path. -/
theorem hierarchicalPath_slash_end (hslash : isSlash true slash = true) (cs : List Char) :
    hierarchicalPath true (slash :: cs) = pathText (resolveDots [] (writtenSegments cs)) :=
  if_pos hslash

/-- Behind a base, a plain path without dots is asked for as it is written, below the directory that
the base leads to. -/
theorem hierarchicalPath_below (hslash : isSlash true slash = true) (cs : List Char)
    (htail : Plain tail) (hdots : ∀ segment ∈ Text.pieces '/' tail, isDots segment = false) :
    hierarchicalPath true (slash :: (cs ++ '/' :: tail)) =
      directoryPath (writtenSegments cs) ++ '/' :: tail := by
  have hne := Text.pieces_ne_nil '/' tail
  have hpieces : pathPieces true (cs ++ '/' :: tail) =
      pathPieces true cs ++ pathPieces true tail := by
    simpa [pathPieces] using Text.pieces_append _ _
  rw [hierarchicalPath_slash_end hslash, writtenSegments, hpieces, List.map_append,
    pathPieces_plain htail, resolveDots_append _ _ hne, resolveDots_of_noDots hdots,
    pathText_append, pathText_eq_joined hne, Text.joined_pieces]
  rfl

/-- Behind a host, a plain path without dots is asked for as it is written. -/
theorem hierarchicalPath_plain (htail : Plain tail)
    (hdots : ∀ segment ∈ Text.pieces '/' tail, isDots segment = false) :
    hierarchicalPath true ('/' :: tail) = '/' :: tail := by
  rw [hierarchicalPath_slash_end rfl, writtenSegments, pathPieces_plain htail,
    resolveDots_of_noDots hdots, List.reverse_nil, List.nil_append,
    pathText_eq_joined (Text.pieces_ne_nil '/' tail), Text.joined_pieces]

theorem encode_eq_nil_iff {keep : Char → Bool} : encode keep cs = [] ↔ cs = [] := by
  have hone : ∀ c : Char, (if keep c then [c] else
      (Text.utf8 [c]).flatMap Text.percentTriplet) ≠ [] := by
    intro c
    split
    · exact List.cons_ne_nil _ _
    · intro hnil
      have hbytes : Text.utf8 [c] = [] := List.eq_nil_iff_forall_not_mem.2 fun b hb =>
        List.cons_ne_nil _ _ (List.flatMap_eq_nil_iff.1 hnil b hb)
      exact List.cons_ne_nil _ _ (Text.utf8_inj hbytes)
  constructor
  · intro h
    refine List.eq_nil_iff_forall_not_mem.2 fun c hc => ?_
    exact hone c (List.flatMap_eq_nil_iff.1 h c hc)
  · rintro rfl
    rfl

theorem exists_pathPieces (h : writtenSegments cs = above ++ [last]) :
    ∃ parts piece, pathPieces true cs = parts ++ [piece] ∧
      parts.map (encode keepsInPath) = above ∧ encode keepsInPath piece = last := by
  rcases List.map_eq_append_iff.1 h with ⟨parts, ends, hpieces, habove, hlast⟩
  rcases List.map_eq_singleton_iff.1 hlast with ⟨piece, rfl, hpiece⟩
  exact ⟨parts, piece, hpieces, habove, hpiece⟩

/-- A base ends in a slash, of either kind, exactly if the last segment that is written in it is
empty. -/
theorem getLast?_slash_iff (hslash : isSlash true slash = true)
    (h : writtenSegments cs = above ++ [last]) :
    (∃ c ∈ (slash :: cs).getLast?, isSlash true c = true) ↔ last = [] := by
  rcases exists_pathPieces h with ⟨parts, piece, hpieces, -, hlast⟩
  have hne : pathPieces true cs ≠ [] := Text.pieces_ne_nil _ _
  have hpiece : '/' ∉ piece :=
    Text.not_mem_of_mem_pieces (hpieces ▸ List.mem_append_right _ List.mem_cons_self)
  -- With slashes of one kind only, the base is the path of its pieces.
  have hpath : (slash :: cs).map (fun c => if isSlash true c then '/' else c) =
      pathText parts ++ '/' :: piece := by
    have hjoined : pathText parts ++ '/' :: piece = pathText (parts ++ [piece]) := by
      simp [pathText]
    rw [hjoined, ← hpieces, pathText_eq_joined hne, pathPieces, Text.joined_pieces,
      List.map_cons, if_pos hslash]
  rw [← hlast, encode_eq_nil_iff, ← getLast?_slash_append (pathText parts) hpiece, ← hpath,
    List.getLast?_map, Option.map_eq_some_iff]
  refine exists_congr fun c => and_congr_right fun _ => ?_
  by_cases hc : isSlash true c = true
  · simp [hc]
  · have hne : c ≠ '/' := by
      rintro rfl
      exact hc rfl
    simp [hc, hne]

/-! ### What ends a base -/

/-- The path of a base is that of the directory it leads to, but for slashes at its end, exactly if
the base does not end in a slash and its path not in two. -/
theorem directoryPath_eq_iff (hslash : isSlash true slash = true) (cs : List Char) :
    directoryPath (writtenSegments cs) =
        (hierarchicalPath true (slash :: cs)).rdropWhile (· == '/') ↔
      (∀ c ∈ (slash :: cs).getLast?, isSlash true c = false) ∧
        ¬ EndsInSlashes (hierarchicalPath true (slash :: cs)) := by
  rcases exists_writtenSegments cs with ⟨above, last, hwritten⟩
  have hlast : '/' ∉ last :=
    slash_not_mem_writtenSegments (hwritten ▸ List.mem_append_right _ List.mem_cons_self)
  have hend : (∀ c ∈ (slash :: cs).getLast?, isSlash true c = false) ↔ last ≠ [] := by
    rw [Ne, ← getLast?_slash_iff hslash hwritten]
    simp
  rw [hierarchicalPath_slash_end hslash, hend, hwritten, pathText_resolveDots]
  cases hdots : isDots last with
  | true =>
      -- The slash that the dots leave behind is dropped, and must be the only one.
      have hne : last ≠ [] := by
        rintro rfl
        cases hdots
      rw [if_pos rfl, List.rdropWhile_concat_pos _ _ _ rfl, eq_comm, Text.rdropWhile_eq_self_iff,
        endsInSlashes_concat]
      exact (and_iff_right hne).symm
  | false =>
      have hpath : (directoryPath (above ++ [last])).getLast? = some '/' ↔ last = [] := by
        rw [directoryPath_of_noDots hdots]
        exact getLast?_slash_append _ hlast
      rw [if_neg Bool.false_ne_true, List.append_nil, eq_comm, Text.rdropWhile_eq_self_iff, Ne,
        hpath]
      exact ⟨fun hne => ⟨hne, fun hslashes => hne (hpath.1 hslashes.getLast?)⟩, And.left⟩

/-- Control characters and spaces, which are left out at the end of a text. -/
def Blanks (cs : List Char) : Prop := ∀ c ∈ cs, c.toNat ≤ 0x20

theorem Blanks.not_mem (h : Blanks cs) {c : Char} (hc : 0x20 < c.toNat) : c ∉ cs :=
  fun hmem => absurd (h c hmem) (Nat.not_le.2 hc)

/-- Blanks are not a part of what a URL is divided by. -/
theorem of_blank {c : Char} (h : c.toNat ≤ 0x20) :
    isSlash true c = false ∧ endsAuthority true c = false ∧ isSchemeChar c = false :=
  Text.of_ascii (p := fun c => c.toNat ≤ 0x20 →
    isSlash true c = false ∧ endsAuthority true c = false ∧ isSchemeChar c = false)
    (by decide +kernel) (Nat.lt_of_le_of_lt h (by decide)) h

/-- The characters that a dot segment is made of. -/
theorem toLower_mem_of_isDots {segment : List Char} (h : isDots segment = true) {c : Char}
    (hc : c ∈ segment) : c.toLower ∈ ['.', '%', '2', 'e'] := by
  rcases exists_stops h with ⟨first, rest, hlower, hfirst, hrest⟩
  have hstop : ∀ cs, IsStop cs → cs ⊆ ['.', '%', '2', 'e'] := by
    rintro cs (rfl | rfl) <;> decide
  have hmem : c.toLower ∈ first ++ rest := hlower ▸ List.mem_map_of_mem hc
  rcases List.mem_append.1 hmem with hmem | hmem
  · exact hstop first hfirst hmem
  · rcases hrest with rfl | hrest
    · cases hmem
    · exact hstop rest hrest hmem

/-- The triplets of blanks are no part of a dot segment. -/
theorem exists_mem_encode_blanks (h : Blanks blanks) (hne : blanks ≠ []) :
    ∃ c ∈ encode keepsInPath blanks, c.toLower ∉ ['.', '%', '2', 'e'] := by
  have hall : ∀ n ∈ List.range 0x21, (encode keepsInPath [Char.ofNat n]).any fun c =>
      decide (c.toLower ∉ ['.', '%', '2', 'e']) := by decide +kernel
  rcases List.exists_cons_of_ne_nil hne with ⟨blank, rest, rfl⟩
  have hblank := hall blank.toNat
    (List.mem_range.2 (Nat.lt_succ_of_le (h blank List.mem_cons_self)))
  rw [Char.ofNat_toNat] at hblank
  rcases List.any_eq_true.1 hblank with ⟨c, hc, hother⟩
  exact ⟨c, encode_append keepsInPath [blank] rest ▸ List.mem_append_left _ hc,
    of_decide_eq_true hother⟩

theorem writtenSegments_blanks (hblanks : Blanks blanks)
    (h : writtenSegments cs = above ++ [last]) :
    writtenSegments (cs ++ blanks) = above ++ [last ++ encode keepsInPath blanks] := by
  rcases exists_pathPieces h with ⟨parts, piece, hpieces, rfl, rfl⟩
  have hsame : blanks.map (fun c => if isSlash true c then '/' else c) = blanks := by
    refine (List.map_congr_left fun c hc => ?_).trans (List.map_id _)
    simp [(of_blank (hblanks c hc)).1]
  have hmore : pathPieces true (cs ++ blanks) = parts ++ [piece ++ blanks] := by
    rw [pathPieces, List.map_append, hsame]
    exact Text.pieces_append_of_not_mem hpieces (hblanks.not_mem (by decide))
  rw [writtenSegments, hmore, List.map_append, List.map_singleton, encode_append]

/-- With blanks at its end, a base leads to a directory whose path is its own, and is longer than
the path without them. -/
theorem directoryPath_blanks (hslash : isSlash true slash = true) (hblanks : Blanks blanks)
    (hne : blanks ≠ []) (cs : List Char) :
    hierarchicalPath true (slash :: (cs ++ blanks)) =
        directoryPath (writtenSegments (cs ++ blanks)) ∧
      (hierarchicalPath true (slash :: cs)).length <
        (directoryPath (writtenSegments (cs ++ blanks))).length := by
  rcases exists_writtenSegments cs with ⟨above, last, hwritten⟩
  rcases exists_mem_encode_blanks hblanks hne with ⟨c, hc, hother⟩
  have hdots : isDots (last ++ encode keepsInPath blanks) = false :=
    Bool.eq_false_iff.2 fun hdots =>
      hother (toLower_mem_of_isDots hdots (List.mem_append_right _ hc))
  have hlonger : 0 < (encode keepsInPath blanks).length := List.length_pos_of_mem hc
  rw [hierarchicalPath_slash_end hslash, hierarchicalPath_slash_end hslash, hwritten,
    writtenSegments_blanks hblanks hwritten, pathText_resolveDots, pathText_resolveDots, hdots,
    directoryPath_of_noDots hdots]
  refine ⟨List.append_nil _, ?_⟩
  -- Without the blanks the last segment is shorter, or dots.
  cases hlast : isDots last with
  | true =>
      have hshort := length_directoryPath_of_isDots hlast above
      simp only [if_true, List.length_append, List.length_cons, List.length_nil]
      omega
  | false =>
      rw [directoryPath_of_noDots hlast]
      simp only [Bool.false_eq_true, if_false, List.length_append, List.length_cons,
        List.length_nil]
      omega

/-- With the blanks at its end, a base leads to the directory whose path is that of the base without
them and without slashes at its end, exactly if the blanks do not change its path, the base does not
end in a slash and its path not in two. -/
theorem directoryPath_blanks_eq_iff (hslash : isSlash true slash = true) (hblanks : Blanks blanks)
    (cs : List Char) :
    directoryPath (writtenSegments (cs ++ blanks)) =
        (hierarchicalPath true (slash :: cs)).rdropWhile (· == '/') ↔
      hierarchicalPath true (slash :: (cs ++ blanks)) = hierarchicalPath true (slash :: cs) ∧
        (∀ c ∈ (slash :: (cs ++ blanks)).getLast?, isSlash true c = false) ∧
        ¬ EndsInSlashes (hierarchicalPath true (slash :: cs)) := by
  by_cases hnil : blanks = []
  · rw [hnil, List.append_nil, directoryPath_eq_iff hslash]
    exact (and_iff_right rfl).symm
  · -- Blanks become a part of the path, so that it is another one.
    rcases directoryPath_blanks hslash hblanks hnil cs with ⟨hsame, hlonger⟩
    refine iff_of_false (fun hpath => ?_) (fun hready => ?_)
    · have hshort := (List.rdropWhile_prefix (p := (· == '/'))
        (hierarchicalPath true (slash :: cs))).length_le
      rw [← hpath] at hshort
      exact Nat.not_lt.2 hshort hlonger
    · rw [hsame] at hready
      exact Nat.ne_of_gt hlonger (congrArg List.length hready.1)

/-! ## The authority of a base -/

/-- A URL that has nothing behind its authority. -/
def ofAuthority (scheme : String) (a : Authority) : Url :=
  { scheme, credentials := .ofList a.credentials, host := a.host, port := a.port }

theorem head?_rest_of_port? {port : Option Nat} {rest : List Char}
    (h : port? cs = .ok (port, rest)) : ∀ c ∈ rest.head?, c = '\\' := by
  unfold port? at h
  dsimp only at h
  split at h
  · cases h
  · rename_i hother
    cases h
    intro c hc
    simp only [Bool.or_eq_true, not_or, Option.any_eq_true] at hother
    by_contra hne
    exact hother.2 ⟨c, hc, by simpa using hne⟩

/-- Credentials end before the host; what is left over begins with a backslash. -/
theorem parts_of_authority {a : Authority} {isFollowed : Bool}
    (h : authority scheme cs isFollowed = .ok a) :
    a.credentials = ((cutAtLastAt cs).getD ([], cs)).1 ∧ ∀ c ∈ a.rest.head?, c = '\\' := by
  unfold authority at h
  generalize (cutAtLastAt cs).getD ([], cs) = cut at h ⊢
  dsimp only at h
  split at h
  · cases h
  · unfold hostAndPort at h
    dsimp only at h
    split at h
    · split at h
      · cases h
      · cases h
        exact ⟨rfl, by simp⟩
    · split at h
      · cases h
      · cases hport : port? ((cutHost false cut.2).2.drop 1) with
        | error e =>
            rw [hport] at h
            cases h
        | ok parts =>
            rw [hport] at h
            cases h
            exact ⟨rfl, head?_rest_of_port? hport⟩

/-- Without backslashes, nothing is left over of an authority. -/
theorem rest_of_authority {a : Authority} {isFollowed : Bool} (hslash : '\\' ∉ cs)
    (h : authority scheme cs isFollowed = .ok a) : a.rest = [] := by
  have hhead := (parts_of_authority h).2
  cases hrest : a.rest with
  | nil => rfl
  | cons c rest =>
      have hc : c = '\\' := hhead c (by simp [hrest])
      have hmem : c ∈ a.rest := hrest ▸ List.mem_cons_self
      exact absurd (rest_subset_of_authority h (hc ▸ hmem)) hslash

/-- What follows the host has no part in the credentials. -/
theorem credentials_append (h : '@' ∉ tail) (cs : List Char) :
    ((cutAtLastAt (cs ++ tail)).getD ([], cs ++ tail)).1 =
      ((cutAtLastAt cs).getD ([], cs)).1 := by
  have hkept : ∀ c ∈ tail.reverse, (c != '@') = true := by
    intro c hc
    have hne : c ≠ '@' := fun hat => h (hat ▸ List.mem_reverse.1 hc)
    simpa using hne
  unfold cutAtLastAt
  by_cases hat : '@' ∈ cs
  · simp [hat, List.dropWhile_append_of_pos hkept]
  · simp [hat, h]

/-- For a special scheme, a text is an authority and what begins with the character that ends it. -/
theorem afterSlashes_append (hspecial : isSpecialScheme scheme = true)
    (hcs : ∀ c ∈ cs, endsAuthority true c = false) (tail : List Char)
    (htail : ∀ c ∈ tail.head?, endsAuthority true c = true) :
    afterSlashes scheme (cs ++ tail) = (authority scheme cs (!tail.isEmpty)).map fun a =>
      withTail (ofAuthority scheme a) (hierarchicalPath true) tail := by
  have hkept : ∀ c ∈ cs, (!endsAuthority true c) = true := fun c hc => by rw [hcs c hc]; rfl
  have htake : tail.takeWhile (fun c => !endsAuthority true c) = [] := by
    cases tail with
    | nil => rfl
    | cons c tail => simp [htail c rfl]
  have hdrop : tail.dropWhile (fun c => !endsAuthority true c) = tail := by
    cases tail with
    | nil => rfl
    | cons c tail => simp [htail c rfl]
  have hslash : '\\' ∉ cs := fun hmem => absurd (hcs _ hmem) (by decide)
  unfold afterSlashes
  dsimp only
  rw [hspecial, List.takeWhile_append_of_pos hkept, List.dropWhile_append_of_pos hkept, htake,
    hdrop, List.append_nil]
  cases hauthority : authority scheme cs (!tail.isEmpty) with
  | error e => rfl
  | ok a =>
      refine congrArg Except.ok ?_
      dsimp only
      rw [rest_of_authority hslash hauthority]
      rfl

/-- What follows an authority of a special scheme does not matter for it. -/
theorem authority_of_special (hspecial : isSpecialScheme scheme = true) (cs : List Char) :
    authority scheme cs true = authority scheme cs false :=
  (authority_followed scheme cs false).resolve_right fun h =>
    absurd (hspecial.symm.trans h.2) (by decide)

theorem exists_scheme? (h : readTidy cs = .ok url) :
    ∃ schemeChars rest, scheme? cs = some (schemeChars, rest) ∧
      url.scheme = .ofList schemeChars := by
  unfold readTidy at h
  split at h
  · cases h
  · rename_i schemeChars rest hscheme
    refine ⟨schemeChars, rest, hscheme, ?_⟩
    dsimp only at h
    split at h
    · rename_i hfile
      rw [scheme_afterFile h, beq_iff_eq.1 hfile]
    · split at h
      · exact scheme_afterSlashes h
      · exact scheme_afterOther h

theorem readTidy_of_special {schemeChars rest : List Char}
    (h : scheme? cs = some (schemeChars, rest)) (hfile : String.ofList schemeChars ≠ "file")
    (hspecial : isSpecialScheme (.ofList schemeChars) = true) :
    readTidy cs = afterSlashes (.ofList schemeChars) (rest.dropWhile (isSlash true)) := by
  unfold readTidy
  rw [h]
  dsimp only
  rw [if_neg (by simpa using hfile), if_pos hspecial]

/-- A URL that requests can be made for is read from the authority on; and so it is with any text
behind it that does not go on with the scheme. -/
theorem exists_readTidy_special (hread : readTidy cs = .ok url) (hhttp : url.isHttp = true) :
    ∃ scheme rest, isSpecialScheme scheme = true ∧ rest ≠ [] ∧ rest <:+ cs ∧
      ∀ tail, (∀ c ∈ tail.head?, isSchemeChar c = false ∧ c ≠ ':') →
        readTidy (cs ++ tail) = afterSlashes scheme (rest ++ tail) := by
  rcases exists_scheme? hread with ⟨schemeChars, rest, hscheme, hsame⟩
  have hscheme' : String.ofList schemeChars = "http" ∨ String.ofList schemeChars = "https" := by
    rw [← hsame]
    simpa [isHttp] using hhttp
  have hfile : String.ofList schemeChars ≠ "file" := by
    rcases hscheme' with h | h <;> rw [h] <;> decide
  have hspecial : isSpecialScheme (.ofList schemeChars) = true := by
    rcases hscheme' with h | h <;> rw [h] <;> decide
  have hbare := readTidy_of_special hscheme hfile hspecial
  -- There is more than slashes behind the scheme, for there is a host.
  have hhost : rest.dropWhile (isSlash true) ≠ [] := by
    intro hnil
    rw [hbare, hnil, afterSlashes_nil hspecial] at hread
    cases hread
  refine ⟨_, _, hspecial, hhost,
    (List.dropWhile_suffix _).trans (suffix_of_scheme? hscheme), fun tail htail => ?_⟩
  cases tail with
  | nil => rw [List.append_nil, List.append_nil, hbare]
  | cons stop tail =>
      rcases htail stop rfl with ⟨hstop, hcolon⟩
      have hmore : scheme? (cs ++ stop :: tail) = some (schemeChars, rest ++ stop :: tail) := by
        rw [scheme?_stop hstop hcolon, hscheme]
        rfl
      rw [readTidy_of_special hmore hfile hspecial, List.dropWhile_append,
        if_neg (by simpa using hhost)]

/-! ## Bases that are ready -/

/-- Whether a URL is that of a base with a path put behind it, after one slash. -/
structure Extends (base : Url) (below : String) (url : Url) : Prop where
  scheme : url.scheme = base.scheme
  host : url.host = base.host
  port : url.port = base.port
  path : url.path = Text.dropTrailing '/' base.path ++ "/" ++ below
  ends : url.EndsWithPath

/-- Whether a text, which denotes a URL when it is read alone, is ready to have a path put behind
it. -/
structure IsReady (base : List Char) (url : Url) : Prop where
  /-- Blanks are left out at the end of a text, but are a part of it in its middle. -/
  whole : readTidy base = .ok url
  /-- A query or a fragment would go on with the path. -/
  ends : url.EndsWithPath
  /-- The slash that is put before a path has to be the only one. -/
  slash : ∀ c ∈ base.getLast?, isSlash true c = false
  /-- Dots at the end of a path leave a slash, which must not be behind another one. -/
  path : ¬ EndsInSlashes url.path.toList

variable {origin origin' : Url} {below : String} {host : List Char}
  {readPath : List Char → List Char}

theorem endsWithPath_withTail_iff : (withTail url readPath cs).EndsWithPath ↔ Markless cs := by
  refine ⟨fun h => ?_, fun h => endsWithPath_withTail h url readPath⟩
  have hhash : '#' ∉ cs := Text.not_mem_of_cutAt (by
    simpa [withTail, splitTail] using h.2)
  have hmark : '?' ∉ cs := Text.not_mem_of_cutAt (by
    simpa [withTail, splitTail, Text.cutAt_of_not_mem hhash] using h.1)
  exact ⟨hmark, hhash⟩

theorem path_withTail (h : Markless cs) :
    (withTail url readPath cs).path = .ofList (readPath cs) := by
  simp [withTail, splitTail_of_not_mem h.2 h.1]

theorem withTail_inj {cs' : List Char} (h : Markless cs) (h' : Markless cs') :
    withTail url readPath cs = withTail url readPath cs' ↔ readPath cs = readPath cs' := by
  simp [withTail, splitTail_of_not_mem h.2 h.1, splitTail_of_not_mem h'.2 h'.1, String.ofList_inj]

theorem extends_withTail_iff {cs' : List Char} (h : Markless cs) (h' : Markless cs') :
    (withTail origin readPath cs).Extends below (withTail origin' readPath cs') ↔
      origin'.scheme = origin.scheme ∧ origin'.host = origin.host ∧ origin'.port = origin.port ∧
        readPath cs' = (readPath cs).rdropWhile (· == '/') ++ '/' :: below.toList := by
  have hpath : (withTail origin' readPath cs').path =
      Text.dropTrailing '/' (withTail origin readPath cs).path ++ "/" ++ below ↔
        readPath cs' = (readPath cs).rdropWhile (· == '/') ++ '/' :: below.toList := by
    rw [path_withTail h, path_withTail h', ← String.toList_inj]
    simp [Text.toList_dropTrailing]
  constructor
  · rintro ⟨hscheme, hhost, hport, hbelow, -⟩
    exact ⟨hscheme, hhost, hport, hpath.1 hbelow⟩
  · rintro ⟨hscheme, hhost, hport, hbelow⟩
    exact ⟨hscheme, hhost, hport, hpath.2 hbelow, endsWithPath_withTail h' _ _⟩

section Below

variable (hspecial : isSpecialScheme scheme = true)
  (hhost : ∀ c ∈ host, endsAuthority true c = false) (hblanks : Blanks blanks)
  (hplain : Plain below.toList)
  (hdots : ∀ segment ∈ Text.pieces '/' below.toList, isDots segment = false)

theorem Markless.append {cs' : List Char} (h : Markless cs) (h' : Markless cs') :
    Markless (cs ++ cs') :=
  ⟨by simp [h.1, h'.1], by simp [h.2, h'.2]⟩

theorem Blanks.markless (hblanks : Blanks blanks) : Markless blanks :=
  ⟨hblanks.not_mem (by decide), hblanks.not_mem (by decide)⟩

include hplain in
theorem markless_below (h : Markless cs) : Markless (cs ++ '/' :: below.toList) := by
  have hmark := hplain.not_mem (by decide : keepsInPath '?' = false)
  have hhash := hplain.not_mem (by decide : keepsInPath '#' = false)
  exact ⟨by simp [h.1, hmark], by simp [h.2, hhash]⟩

include hspecial hhost hblanks hplain hdots

/-- A base that is only a host. -/
theorem extends_iff_of_host (hread : afterSlashes scheme host = .ok url) :
    (∃ other, afterSlashes scheme (host ++ (blanks ++ '/' :: below.toList)) = .ok other ∧
        url.Extends below other) ↔
      afterSlashes scheme (host ++ blanks) = .ok url ∧ url.EndsWithPath ∧
        (∀ last ∈ (host ++ blanks).getLast?, isSlash true last = false) ∧
        ¬ EndsInSlashes url.path.toList := by
  have hall : ∀ c ∈ host ++ blanks, endsAuthority true c = false :=
    List.forall_mem_append.2 ⟨hhost, fun c hc => (of_blank (hblanks c hc)).2.1⟩
  have hbare := afterSlashes_append hspecial hhost [] (by simp)
  have hwhole := afterSlashes_append hspecial hall [] (by simp)
  have hmore := afterSlashes_append hspecial hall ('/' :: below.toList)
    (by simp [endsAuthority, isSlash])
  have hroot := hierarchicalPath_plain hplain hdots
  have hmarks : Markless ('/' :: below.toList) := markless_below hplain (by decide : Markless [])
  simp only [List.append_nil, List.isEmpty_nil, List.isEmpty_cons, Bool.not_true, Bool.not_false,
    List.append_assoc, authority_of_special hspecial] at hbare hwhole hmore
  rw [hwhole, hmore]
  rw [hbare] at hread
  cases hhere : authority scheme host false with
  | error e =>
      rw [hhere] at hread
      cases hread
  | ok a =>
      rw [hhere] at hread
      cases hread
      cases hthere : authority scheme (host ++ blanks) false with
      | error e => simp [Except.map]
      | ok b =>
          have hcredentials : b.credentials = a.credentials := by
            rw [(parts_of_authority hthere).1, (parts_of_authority hhere).1,
              credentials_append (hblanks.not_mem (by decide))]
          -- A host brings no slashes along, and the path of such a base is a single one.
          have hlast : ∀ last ∈ (host ++ blanks).getLast?, isSlash true last = false := by
            intro last hlast
            have hother := hall last (List.mem_of_getLast? hlast)
            simp only [endsAuthority, Bool.or_eq_false_iff] at hother
            exact hother.1.1
          have hpath : ¬ EndsInSlashes (withTail (ofAuthority scheme a) (hierarchicalPath true)
              []).path.toList := by
            rw [path_withTail (by decide), String.toList_ofList]
            decide
          have hsame : withTail (ofAuthority scheme b) (hierarchicalPath true) [] =
              withTail (ofAuthority scheme a) (hierarchicalPath true) [] ↔
                b.host = a.host ∧ b.port = a.port := by
            simp [withTail, ofAuthority, hcredentials]
          have hnone : (hierarchicalPath true []).rdropWhile (· == '/') = [] := rfl
          rw [and_iff_left ⟨endsWithPath_withTail (by decide) _ _, hlast, hpath⟩]
          simp only [Except.map, Except.ok.injEq, exists_eq_left',
            extends_withTail_iff (by decide : Markless []) hmarks, hsame, hroot, hnone]
          simp [ofAuthority]

/-- A base with a path, or with what only looks like one. -/
theorem extends_iff_of_path {c : Char} (hc : endsAuthority true c = true)
    (hread : afterSlashes scheme (host ++ c :: cs) = .ok url) :
    (∃ other,
        afterSlashes scheme (host ++ (c :: (cs ++ blanks) ++ '/' :: below.toList)) = .ok other ∧
          url.Extends below other) ↔
      afterSlashes scheme (host ++ c :: (cs ++ blanks)) = .ok url ∧ url.EndsWithPath ∧
        (∀ last ∈ (c :: (cs ++ blanks)).getLast?, isSlash true last = false) ∧
        ¬ EndsInSlashes url.path.toList := by
  have hends : ∀ tail, ∀ first ∈ (c :: tail).head?, endsAuthority true first = true := by
    intro tail first hfirst
    rwa [← Option.some_inj.1 hfirst]
  have hread' := fun tail => afterSlashes_append hspecial hhost (c :: tail) (hends tail)
  simp only [List.isEmpty_cons, Bool.not_false, authority_of_special hspecial] at hread'
  rw [hread'] at hread
  rw [List.cons_append, hread', hread']
  cases hhere : authority scheme host false with
  | error e =>
      rw [hhere] at hread
      cases hread
  | ok a =>
      rw [hhere] at hread
      cases hread
      simp only [Except.map, Except.ok.injEq, exists_eq_left', endsWithPath_withTail_iff]
      by_cases hmarks : Markless (c :: cs)
      · have hslash : isSlash true c = true := by
          have hmark : c ≠ '?' := fun h => hmarks.1 (h ▸ List.mem_cons_self)
          have hhash : c ≠ '#' := fun h => hmarks.2 (h ▸ List.mem_cons_self)
          simpa [endsAuthority, hmark, hhash] using hc
        have hmarks' : Markless (c :: (cs ++ blanks)) := hmarks.append hblanks.markless
        have hall : Markless (c :: (cs ++ blanks ++ '/' :: below.toList)) :=
          markless_below hplain hmarks'
        rw [extends_withTail_iff hmarks hall, withTail_inj hmarks' hmarks, path_withTail hmarks,
          String.toList_ofList, hierarchicalPath_below hslash _ hplain hdots, List.append_left_inj,
          directoryPath_blanks_eq_iff hslash hblanks]
        simp [hmarks]
      · -- A mark in the base stays one.
        refine iff_of_false (fun hextends => hmarks ?_) (fun hready => hmarks hready.2.1)
        exact (endsWithPath_withTail_iff.1 hextends.ends).subset (by simp)

end Below

/-- When a text is tidied, only blanks are taken from its end. -/
theorem exists_tidied (cs : List Char) :
    ∃ blanks, tidied cs = tidy cs ++ blanks ∧ Blanks blanks := by
  let isEdge (c : Char) : Bool := c.toNat ≤ 0x20
  let isKept (c : Char) : Bool := c != '\t' && c != '\n' && c != '\r'
  have htidied : tidied cs = (cs.dropWhile isEdge).filter isKept := rfl
  have htidy : tidy cs = ((cs.dropWhile isEdge).rdropWhile isEdge).filter isKept := rfl
  refine ⟨((cs.dropWhile isEdge).rtakeWhile isEdge).filter isKept, ?_, fun c hc => ?_⟩
  · rw [htidied, htidy, ← List.filter_append, List.rdropWhile_append_rtakeWhile]
  · have hedge : isEdge c = true := List.mem_rtakeWhile_imp (List.mem_filter.1 hc).1
    exact of_decide_eq_true hedge

/-- A base is read in three ways: alone, with the blanks at its end, and with a path behind it. -/
theorem exists_readings (hparse : parseChars cs = .ok url) (hhttp : url.isHttp = true) :
    ∃ scheme text blanks, isSpecialScheme scheme = true ∧ Blanks blanks ∧
      (tidied cs).getLast? = (text ++ blanks).getLast? ∧
      parseChars cs = afterSlashes scheme text ∧
      readTidy (tidied cs) = afterSlashes scheme (text ++ blanks) ∧
      ∀ tail, Plain tail →
        parseChars (cs ++ '/' :: tail) = afterSlashes scheme (text ++ (blanks ++ '/' :: tail)) := by
  rcases exists_tidied cs with ⟨blanks, htidied, hblanks⟩
  rcases exists_readTidy_special hparse hhttp with
    ⟨scheme, text, hspecial, hne, ⟨front, hfront⟩, hread⟩
  -- Neither the blanks nor the slash behind them go on with the scheme.
  have hstart : ∀ tail, (∀ c ∈ tail.head?, isSchemeChar c = false ∧ c ≠ ':') →
      readTidy (tidied cs ++ tail) = afterSlashes scheme (text ++ (blanks ++ tail)) := by
    intro tail htail
    rw [htidied, List.append_assoc]
    refine hread _ fun c hc => ?_
    cases blanks with
    | nil => exact htail c hc
    | cons blank rest =>
        have hblank : c ∈ blank :: rest := by
          rw [← Option.some_inj.1 hc]
          exact List.mem_cons_self
        exact ⟨(of_blank (hblanks c hblank)).2.2,
          fun hcolon => hblanks.not_mem (by decide) (hcolon ▸ hblank)⟩
  refine ⟨scheme, text, blanks, hspecial, hblanks, ?_, ?_, ?_, fun tail htail => ?_⟩
  · rw [htidied, ← hfront, List.append_assoc, List.getLast?_append_of_ne_nil]
    exact List.append_ne_nil_of_left_ne_nil hne _
  · rw [parseChars_eq, ← List.append_nil (tidy cs), hread [] (by simp), List.append_nil]
  · have hread' := hstart [] (by simp)
    rwa [List.append_nil, List.append_nil] at hread'
  · rw [parseChars_eq, tidy_stop cs htail.lt]
    refine hstart _ fun c hc => ?_
    rw [← Option.some_inj.1 hc]
    decide

/-- Below a base that requests can be made for, a plain path without dots is asked for as it should
be exactly if the base is ready. -/
theorem extends_iff_isReady (hparse : parseChars cs = .ok url) (hhttp : url.isHttp = true)
    (hplain : Plain below.toList)
    (hdots : ∀ segment ∈ Text.pieces '/' below.toList, isDots segment = false) :
    (∃ other, parseChars (cs ++ '/' :: below.toList) = .ok other ∧ url.Extends below other) ↔
      IsReady (tidied cs) url := by
  rcases exists_readings hparse hhttp with
    ⟨scheme, text, blanks, hspecial, hblanks, hlast, hbare, hwhole, hmore⟩
  have hready : IsReady (tidied cs) url ↔ afterSlashes scheme (text ++ blanks) = .ok url ∧
      url.EndsWithPath ∧ (∀ last ∈ (text ++ blanks).getLast?, isSlash true last = false) ∧
        ¬ EndsInSlashes url.path.toList := by
    rw [← hwhole, ← hlast]
    exact ⟨fun ⟨h₁, h₂, h₃, h₄⟩ => ⟨h₁, h₂, h₃, h₄⟩, fun ⟨h₁, h₂, h₃, h₄⟩ => ⟨h₁, h₂, h₃, h₄⟩⟩
  rw [hready, hmore _ hplain]
  rw [hparse] at hbare
  -- The text is a host and what follows it.
  have hhost : ∀ c ∈ text.takeWhile (fun c => !endsAuthority true c),
      endsAuthority true c = false := fun c hc => by simpa using List.mem_takeWhile_imp hc
  rw [← List.takeWhile_append_dropWhile (p := fun c => !endsAuthority true c) (l := text)]
    at hbare ⊢
  cases hrest : text.dropWhile (fun c => !endsAuthority true c) with
  | nil =>
      rw [hrest, List.append_nil] at hbare
      rw [List.append_nil]
      exact extends_iff_of_host hspecial hhost hblanks hplain hdots hbare.symm
  | cons c rest =>
      have hc : endsAuthority true c = true := by
        have hstop := List.head?_dropWhile_not (fun c => !endsAuthority true c) text
        simpa [hrest] using hstop
      rw [hrest] at hbare
      have hpath := extends_iff_of_path hspecial hhost hblanks hplain hdots hc hbare.symm
      simpa using hpath

end Url

/-! ## Requests below a base -/

theorem Settings.apiBase_eq_ok {s : Settings} {base : String} (h : s.apiBase = .ok base) :
    base = Text.dropTrailing '/' (Text.trim s.apiBaseUrl) := by
  unfold apiBase at h
  dsimp only at h
  split at h
  · exact (Except.ok.inj h).symm
  · cases h

/-- The base of a gateway is the base URL of the settings as it has been accepted. -/
theorem Gateway.base_ofUrl {s : Settings} {base : String} (h : s.apiBase = .ok base)
    (convention : Convention) : (ofUrl base convention).base = base := by
  rw [ofUrl, Settings.apiBase_eq_ok h, ← String.toList_inj, Text.toList_dropTrailing,
    Text.toList_dropTrailing, List.rdropWhile_idempotent]

/-- A path of words, as a template without placeholders. -/
def Template.Shape.ofWords (isRooted : Bool) (words : List String) : Template.Shape :=
  ⟨isRooted, words.map .literal⟩

section Words

variable {isRooted : Bool} {words : List String}

theorem Template.Shape.segments_ofWords (lookup : String → Option String) :
    (ofWords isRooted words).segments lookup = words := by
  rw [segments, ofWords, List.map_map]
  exact List.map_id words

theorem Template.Shape.fits_ofWords
    (hwords : ∀ word ∈ words, word ≠ "" ∧ word.toList.all Char.isAlphanum = true)
    (pattern : Pattern) : (ofWords isRooted words).Fits pattern := by
  constructor
  · intro part hpart
    rcases List.mem_map.1 hpart with ⟨word, hword, rfl⟩
    refine List.all_eq_true.2 fun c hc => ?_
    simp [isWordChar, List.all_eq_true.1 (hwords word hword).2 c hc]
  · refine .inr fun hempty => ?_
    have hmem : Part.literal "" ∈ words.map .literal := List.mem_of_head? hempty
    rcases List.mem_map.1 hmem with ⟨word, hword, hliteral⟩
    cases hliteral
    exact (hwords "" hword).1 rfl

end Words

/-- Let a base URL be accepted, and let it be one that requests can be made for; let a call's path
be made of letters and digits, with or without a slash before it.

There is a request for the origin of the base URL whose path is the path of the base URL, without
slashes at its end, followed by one slash and the path of the call, and that has neither a query nor
a fragment, exactly if the base URL is ready. -/
theorem base_is_ready_iff {s : Settings} {base : String} (hbase : s.apiBase = .ok base) {url : Url}
    (hurl : Url.parse base = .ok url) (hhttp : url.isHttp = true) {words : List String}
    (hwords : ∀ word ∈ words, word ≠ "" ∧ word.toList.all Char.isAlphanum = true)
    (isRooted : Bool) (call : Call)
    (hpath : call.path = (if isRooted then "/" else "") ++ Text.slashed words)
    (convention : Convention) (token : Option String) :
    (∃ request, call.request? (Gateway.ofUrl base convention).base token = some request ∧
        url.Extends (Text.slashed words) request.url) ↔
      Url.IsReady (Url.tidied base.toList) url := by
  let shape := Template.Shape.ofWords isRooted words
  let lookup : String → Option String := fun _ => none
  have hsegments : shape.segments lookup = words := Template.Shape.segments_ofWords lookup
  have hfits : shape.Fits ⟨"", []⟩ := Template.Shape.fits_ofWords hwords _
  have hslash : ∀ word ∈ words, '/' ∉ word.toList := fun word hword =>
    Template.Shape.slash_not_mem_segment hfits (hsegments.symm ▸ hword)
  have hplain : Url.Plain (Text.slashed words).toList :=
    hsegments ▸ Template.Shape.plain_slashed hfits
  have hdots : ∀ piece ∈ Text.pieces '/' (Text.slashed words).toList, Url.isDots piece = false :=
    hsegments ▸ (Template.Shape.noDots_iff hfits).2 (by simp [shape, Template.Shape.ofWords])
  have htext : (endpoint base call.path).toList =
      base.toList ++ '/' :: (Text.slashed words).toList := by
    have hfilled : shape.filled lookup = call.path := by
      rw [hpath, Template.Shape.filled, hsegments]
      rfl
    have hempty : "" ∉ (shape.segments lookup).head? := by
      rw [hsegments]
      exact fun hhead => (hwords "" (List.mem_of_head? hhead)).1 rfl
    rw [← hfilled, toList_endpoint_filled base (.inr hempty) (hsegments.symm ▸ hslash), hsegments]
  rw [Gateway.base_ofUrl hbase, ← Url.extends_iff_isReady hurl hhttp hplain hdots]
  constructor
  · rintro ⟨request, hrequest, hextends⟩
    unfold Call.request? at hrequest
    rw [Url.parse, htext] at hrequest
    cases hparse : Url.parseChars (base.toList ++ '/' :: (Text.slashed words).toList) with
    | error e =>
        rw [hparse] at hrequest
        cases hrequest
    | ok other =>
        rw [hparse] at hrequest
        dsimp only at hrequest
        split at hrequest
        · cases hrequest
          exact ⟨other, rfl, hextends⟩
        · cases hrequest
  · rintro ⟨other, hparse, hextends⟩
    have hrequests : other.isHttp = true := by
      rw [Url.isHttp, hextends.scheme]
      exact hhttp
    unfold Call.request?
    rw [Url.parse, htext, hparse]
    exact ⟨_, if_pos hrequests, hextends⟩

/-- White space, slashes and a port that goes without saying do no harm. -/
theorem tidy_base_is_ready :
    let s : Settings := { apiBaseUrl := " http://Localhost:80/api/v1// " }
    s.apiBase.toOption = some "http://Localhost:80/api/v1" ∧
      ∃ request,
        (Call.get "articles/7").request? (Gateway.ofUrl "http://Localhost:80/api/v1" .auto).base
          none = some request ∧
        request.url.host = some (.domain "localhost") ∧ request.url.port = none ∧
        request.url.path = "/api/v1/articles/7" ∧ request.url.EndsWithPath := by
  intro s
  let base : String := "http://Localhost:80/api/v1"
  let url : Url := { scheme := "http", host := some (.domain "localhost"), path := "/api/v1" }
  have hbase : s.apiBase = .ok base := Except.eq_ok_of_toOption (by decide +kernel)
  have hurl : Url.parse base = .ok url := Except.eq_ok_of_toOption (by decide +kernel)
  have hlast : (Url.tidied base.toList).getLast? = some '1' := by decide +kernel
  have hslash : ∀ c ∈ (Url.tidied base.toList).getLast?, Url.isSlash true c = false := by
    intro c hc
    rw [hlast] at hc
    cases hc
    decide
  have hready : Url.IsReady (Url.tidied base.toList) url :=
    ⟨Except.eq_ok_of_toOption (by decide +kernel), by decide, hslash, by decide +kernel⟩
  have hplace := (base_is_ready_iff hbase hurl (by decide) (by decide) false
    (Call.get "articles/7") (by decide +kernel : _ = _ ++ Text.slashed ["articles", "7"]) .auto
    none).2 hready
  rcases hplace with ⟨request, hrequest, hextends⟩
  refine ⟨by decide +kernel, request, hrequest, hextends.host, hextends.port, ?_, hextends.ends⟩
  rw [hextends.path]
  decide +kernel

/-- A base URL with a query is accepted, and takes every path for a part of the query. -/
theorem query_swallows_path :
    let s : Settings := { apiBaseUrl := "http://localhost/api?v=1" }
    let base := "http://localhost/api?v=1"
    let request := (Call.get "/articles").request? (Gateway.ofUrl base s.convention).base none
    s.apiBase.toOption = some base ∧
      (Url.parse base).toOption.map (fun url => (url.isHttp, url.path)) = some (true, "/api") ∧
      request.map (·.url.path) = some "/api" ∧
      request.map (·.url.query) = some (some "v=1/articles") := by
  decide +kernel

end WebClient
