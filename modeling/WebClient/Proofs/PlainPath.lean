import WebClient.Proofs.FormReadBack
import WebClient.Store.Disk

/-!
# PlainPath — database settings that are plain paths

A plain path is put behind the scheme of a URL.  What creates the directory of the file cuts the
rest at a question mark; the driver cuts it there too, and undoes percent triplets.

* `Text.percentDecode_utf8_eq_self_iff`: percent decoding leaves a text alone exactly if there is no
  triplet in it.
* `Address.options?_of_isLiteral` and `Address.isLiteral_of_options?`: for which paths the driver
  opens the file of that path.
* `Address.parent?_eq_some`: the directory of a path is reached by all of its components but the
  last; `Disk.isDirectory_of_ensureParent`: it is there when the database has been made ready for.
* `plain_path_is_opened_iff`: which plain paths name their own file.
-/

namespace WebClient

/-! ## Percent triplets -/

namespace Text

variable {c : Char} {cs : List Char} {b : UInt8} {bytes : List UInt8}

def isHex (c : Char) : Bool := (hexValue? c).isSome

/-- Whether the first two characters are hexadecimal digits. -/
def beginsWithHex : List Char → Bool
  | high :: low :: _ => isHex high && isHex low
  | _ => false

/-- Whether a percent sign is followed by two hexadecimal digits somewhere. -/
def hasTriplet : List Char → Bool
  | [] => false
  | c :: rest => c = '%' && beginsWithHex rest || hasTriplet rest

theorem le_of_isHex (h : isHex c = true) : c.toNat ≤ 0x7F := by
  unfold isHex hexValue? at h
  by_contra hlarge
  dsimp only at h
  rw [if_neg (by simp; omega), if_neg (by simp; omega), if_neg (by simp; omega)] at h
  cases h

theorem utf8_cons (c : Char) (cs : List Char) :
    utf8 (c :: cs) = String.utf8EncodeChar c ++ utf8 cs := rfl

theorem toNat_ofNat_byte (b : UInt8) : (Char.ofNat b.toNat).toNat = b.toNat := by
  have hvalid : b.toNat < 0xD800 := b.toNat_lt.trans (by decide)
  rw [Char.ofNat, dif_pos (.inl hvalid)]
  rfl

theorem exists_percentDecode_triplet {high low : UInt8}
    (hhigh : isHex (Char.ofNat high.toNat) = true) (hlow : isHex (Char.ofNat low.toNat) = true)
    (rest : List UInt8) :
    ∃ b, percentDecode (0x25 :: high :: low :: rest) = b :: percentDecode rest := by
  rcases Option.isSome_iff_exists.1 hhigh with ⟨h, hh⟩
  rcases Option.isSome_iff_exists.1 hlow with ⟨l, hl⟩
  exact ⟨UInt8.ofNat (h * 16 + l), by rw [percentDecode, if_pos rfl, hh, hl]⟩

/-- A percent sign that two hexadecimal digits do not follow stands for itself. -/
theorem percentDecode_mark
    (h : ∀ high low rest, bytes = high :: low :: rest →
      isHex (Char.ofNat high.toNat) = true → isHex (Char.ofNat low.toNat) = false) :
    percentDecode (0x25 :: bytes) = 0x25 :: percentDecode bytes := by
  match bytes with
  | [] => rfl
  | [_] => rfl
  | high :: low :: rest =>
      rw [percentDecode, if_pos rfl]
      have hdigits := h high low rest rfl
      unfold isHex at hdigits
      cases hhigh : hexValue? (Char.ofNat high.toNat) with
      | none => rfl
      | some _ =>
          cases hlow : hexValue? (Char.ofNat low.toNat) with
          | none => rfl
          | some _ => simp [hhigh, hlow] at hdigits

theorem length_percentDecode_le (bytes : List UInt8) :
    (percentDecode bytes).length ≤ bytes.length := by
  fun_induction percentDecode bytes <;> simp_all
  omega

theorem ofNat_byte (h : c.toNat ≤ 0x7F) : Char.ofNat (UInt8.ofNat c.toNat).toNat = c := by
  rw [UInt8.toNat_ofNat_of_lt' (Nat.lt_of_le_of_lt h (by decide)), Char.ofNat_toNat]

/-- A byte that is a hexadecimal digit is a character of its own. -/
theorem exists_of_utf8_eq_cons (h : utf8 cs = b :: bytes)
    (hhex : isHex (Char.ofNat b.toNat) = true) :
    ∃ cs', cs = Char.ofNat b.toNat :: cs' ∧ bytes = utf8 cs' := by
  have hsmall : b.toNat ≤ 0x7F := toNat_ofNat_byte b ▸ le_of_isHex hhex
  cases cs with
  | nil => cases h
  | cons c cs =>
      rw [utf8_cons] at h
      by_cases hc : c.toNat ≤ 0x7F
      · rw [utf8EncodeChar_of_le hc] at h
        cases h
        exact ⟨cs, by rw [ofNat_byte hc], rfl⟩
      · -- The first byte of another character is no ASCII byte.
        rcases List.exists_cons_of_ne_nil (String.utf8EncodeChar_ne_nil (c := c)) with
          ⟨first, others, hencoded⟩
        rw [hencoded] at h
        cases h
        have hlarge := le_of_mem_utf8EncodeChar (Nat.lt_of_not_le hc)
          (hencoded ▸ List.mem_cons_self)
        omega

theorem exists_utf8_of_beginsWithHex (h : beginsWithHex cs = true) :
    ∃ (high low : UInt8) (rest : List Char), utf8 cs = high :: low :: utf8 rest ∧
      isHex (Char.ofNat high.toNat) = true ∧ isHex (Char.ofNat low.toNat) = true := by
  match cs with
  | [] => cases h
  | [_] => cases h
  | high :: low :: rest =>
      rcases Bool.and_eq_true_iff.1 h with ⟨hhigh, hlow⟩
      refine ⟨UInt8.ofNat high.toNat, UInt8.ofNat low.toNat, rest, ?_, ?_, ?_⟩
      · rw [utf8_cons, utf8_cons, utf8EncodeChar_of_le (le_of_isHex hhigh),
          utf8EncodeChar_of_le (le_of_isHex hlow)]
        rfl
      · rwa [ofNat_byte (le_of_isHex hhigh)]
      · rwa [ofNat_byte (le_of_isHex hlow)]

/-- Percent decoding leaves a text alone exactly if there is no triplet in it. -/
theorem percentDecode_utf8_eq_self_iff :
    percentDecode (utf8 cs) = utf8 cs ↔ hasTriplet cs = false := by
  induction cs with
  | nil => exact iff_of_true rfl rfl
  | cons c cs ih =>
      by_cases hc : c = '%'
      · subst hc
        have hbytes : utf8 ('%' :: cs) = 0x25 :: utf8 cs := rfl
        rw [hbytes]
        cases hhex : beginsWithHex cs with
        | true =>
            -- Three bytes become one.
            rcases exists_utf8_of_beginsWithHex hhex with ⟨high, low, rest, heq, hhigh, hlow⟩
            rcases exists_percentDecode_triplet hhigh hlow (utf8 rest) with ⟨b, hdecode⟩
            refine iff_of_false (fun hsame => ?_) (by simp [hasTriplet, hhex])
            have hlength := congrArg List.length hsame
            have hle := length_percentDecode_le (utf8 rest)
            rw [heq, hdecode] at hlength
            simp only [List.length_cons] at hlength
            omega
        | false =>
            rw [percentDecode_mark, List.cons_inj_right, ih]
            · simp [hasTriplet, hhex]
            · intro high low rest heq hhigh
              rcases exists_of_utf8_eq_cons heq hhigh with ⟨cs', rfl, hrest⟩
              by_contra hlow
              rw [Bool.not_eq_false] at hlow
              rcases exists_of_utf8_eq_cons hrest.symm hlow with ⟨cs'', rfl, -⟩
              simp [beginsWithHex, hhigh, hlow] at hhex
      · have hbytes : ∀ b ∈ String.utf8EncodeChar c, b ≠ 0x25 :=
          ne_of_mem_utf8EncodeChar (by decide) hc
        rw [utf8_cons, percentDecode_append_of_ne hbytes, List.append_right_inj, ih]
        simp [hasTriplet, hc]

theorem not_mem_cutAt (sep : Char) (cs : List Char) : sep ∉ (cutAt sep cs).1 := by
  induction cs with
  | nil => exact List.not_mem_nil
  | cons c cs ih =>
      by_cases hc : c = sep
      · simp [cutAt, hc]
      · simpa [cutAt, hc] using ⟨Ne.symm hc, ih⟩

theorem cutAt_fst_prefix (sep : Char) (cs : List Char) : (cutAt sep cs).1 <+: cs := by
  induction cs with
  | nil => exact List.prefix_refl _
  | cons c cs ih =>
      by_cases hc : c = sep
      · simp [cutAt, hc]
      · simpa [cutAt, hc] using ih

/-- The beginning of a text that has all its bytes is the text. -/
theorem eq_of_prefix_of_length_le {before cs : List Char} (hbefore : before <+: cs)
    (hlength : (utf8 cs).length ≤ (utf8 before).length) : before = cs := by
  rcases hbefore with ⟨after, rfl⟩
  rw [utf8_append, List.length_append] at hlength
  cases after with
  | nil => exact (List.append_nil before).symm
  | cons c after =>
      have hbyte : 0 < (String.utf8EncodeChar c).length :=
        List.length_pos_of_ne_nil String.utf8EncodeChar_ne_nil
      rw [utf8_cons, List.length_append] at hlength
      omega

end Text

/-! ## Settings -/

namespace Address

variable {setting path : String} {options options' : Options}

/-- Whether a setting is a plain path: neither empty nor a URL. -/
structure IsPath (setting : String) : Prop where
  nonempty : (Text.trim setting).toList ≠ []
  scheme : "sqlite:".toList.isPrefixOf (Text.trim setting).toList = false
  url : contains "://".toList (Text.trim setting).toList = false

/-- The path that a setting gives, with slashes for backslashes. -/
def given (setting : String) : String :=
  .ofList ((Text.trim setting).toList.map fun c => if c = '\\' then '/' else c)

/-- What follows the scheme in the URL of a path. -/
structure IsPlain (path : String) : Prop where
  nonempty : path ≠ ""
  scheme : "sqlite:".toList.isPrefixOf path.toList = false

theorem normalize_of_isPath (h : IsPath setting) :
    normalize setting = "sqlite://" ++ given setting := by
  unfold normalize
  dsimp only
  rw [if_neg (by simpa using h.nonempty), h.scheme, h.url]
  rfl

theorem isPrefixOf_map_slash {lead : List Char} (hlead : ∀ c ∈ lead, c ≠ '/' ∧ c ≠ '\\')
    (cs : List Char) :
    lead.isPrefixOf (cs.map fun c => if c = '\\' then '/' else c) = lead.isPrefixOf cs := by
  induction lead generalizing cs with
  | nil => simp
  | cons first lead ih =>
      rcases List.forall_mem_cons.1 hlead with ⟨⟨hslash, hback⟩, hrest⟩
      cases cs with
      | nil => rfl
      | cons c cs =>
          rw [List.map_cons, List.isPrefixOf_cons_cons, List.isPrefixOf_cons_cons, ih hrest]
          by_cases hc : c = '\\'
          · simp [hc, beq_eq_false_iff_ne.2 hslash, beq_eq_false_iff_ne.2 hback]
          · simp [hc]

theorem toList_given (setting : String) : (given setting).toList =
    (Text.trim setting).toList.map fun c => if c = '\\' then '/' else c := String.toList_ofList

theorem isPlain_given (h : IsPath setting) : IsPlain (given setting) where
  nonempty := by
    intro heq
    have hchars := toList_given setting
    rw [heq] at hchars
    exact h.nonempty (List.map_eq_nil_iff.1 hchars.symm)
  scheme := by rw [toList_given, isPrefixOf_map_slash (by simp), h.scheme]

theorem dropRepeated_of_not {lead cs : List Char} (h : lead.isPrefixOf cs = false) (fuel : Nat) :
    dropRepeated lead fuel cs = cs := by
  cases fuel <;> simp [dropRepeated, h]

theorem afterScheme_url (h : IsPlain path) :
    afterScheme ("sqlite://" ++ path).toList = path.toList := by
  have hurl : ("sqlite://" ++ path).toList = "sqlite://".toList ++ path.toList :=
    String.toList_append
  -- What begins with the long form of the scheme would begin with the short one.
  have hlong : "sqlite://".toList.isPrefixOf path.toList = false := by
    refine Bool.eq_false_iff.2 fun hlead => ?_
    have hshort : "sqlite:".toList <+: "sqlite://".toList := ⟨['/', '/'], rfl⟩
    have hboth := hshort.trans (List.isPrefixOf_iff_prefix.1 hlead)
    exact Bool.eq_false_iff.1 h.scheme (List.isPrefixOf_iff_prefix.2 hboth)
  have hdropped : dropRepeated "sqlite://".toList ("sqlite://" ++ path).toList.length
      ("sqlite://" ++ path).toList = path.toList := by
    rw [hurl]
    exact dropRepeated_of_not hlong _
  unfold afterScheme
  dsimp only
  rw [hdropped, dropRepeated_of_not h.scheme]

theorem path?_url (h : IsPlain path) :
    path? ("sqlite://" ++ path) =
      if (Text.cutAt '?' path.toList).1.isEmpty then none
      else some (.ofList (Text.cutAt '?' path.toList).1) := by
  have hurl : ("sqlite://" ++ path).toList = "sqlite://".toList ++ path.toList :=
    String.toList_append
  have hmemory : "sqlite::memory:".toList.isPrefixOf ("sqlite://" ++ path).toList = false := by
    rw [hurl]
    rfl
  have hscheme : "sqlite:".toList.isPrefixOf ("sqlite://" ++ path).toList = true := by
    rw [hurl]
    rfl
  unfold path?
  dsimp only
  rw [hmemory, hscheme, afterScheme_url h]
  rfl

theorem path?_eq_some_iff (h : IsPlain path) :
    path? ("sqlite://" ++ path) = some path ↔ '?' ∉ path.toList := by
  rw [path?_url h]
  constructor
  · intro hsome hmark
    split at hsome
    · cases hsome
    · have hbefore := congrArg String.toList (Option.some.inj hsome)
      rw [String.toList_ofList] at hbefore
      rw [← hbefore] at hmark
      exact Text.not_mem_cutAt '?' _ hmark
  · intro hmark
    rw [Text.cutAt_of_not_mem hmark, if_neg (by simpa using h.nonempty), String.ofList_toList]

/-! ## What the driver reads -/

theorem Options.file_of_add {pair : String × String} (h : options.add pair = some options') :
    options'.file = options.file ∨ options'.file = none := by
  unfold add at h
  split at h <;> cases h <;> simp

theorem Options.file_of_foldlM {pairs : List (String × String)}
    (h : pairs.foldlM add options = some options') :
    options'.file = options.file ∨ options'.file = none := by
  induction pairs generalizing options with
  | nil =>
      cases h
      exact .inl rfl
  | cons pair pairs ih =>
      rw [List.foldlM_cons] at h
      rcases Option.bind_eq_some_iff.1 h with ⟨next, hnext, hrest⟩
      rcases ih hrest with hfile | hfile
      · rw [hfile]
        exact file_of_add hnext
      · exact .inr hfile

/-- Whether a path names the same file when it is read as part of a URL. -/
structure IsLiteral (path : String) : Prop where
  unmarked : '?' ∉ path.toList
  noTriplet : Text.hasTriplet path.toList = false
  onDisk : path ≠ ":memory:"

theorem options?_url (h : IsPlain path) {before : List Char} {after : Option (List Char)}
    (hcut : Text.cutAt '?' path.toList = (before, after)) :
    options? ("sqlite://" ++ path) =
      (Text.decode? (Text.percentDecode (Text.utf8 before))).bind fun decoded =>
        (Text.formPairs (after.getD [])).foldlM Options.add
          { file := if before = ":memory:".toList || before.isEmpty then none
              else some (.ofList decoded) } := by
  unfold options?
  rw [afterScheme_url h, hcut]
  rfl

theorem options?_of_isLiteral (h : IsPlain path) (hliteral : IsLiteral path) :
    options? ("sqlite://" ++ path) = some { file := some path } := by
  have hdecoded : Text.decode? (Text.percentDecode (Text.utf8 path.toList)) = some path.toList :=
    Text.decode?_eq_some_iff.2 (Text.percentDecode_utf8_eq_self_iff.2 hliteral.noTriplet)
  have hmemory : path.toList ≠ ":memory:".toList :=
    fun heq => hliteral.onDisk (String.toList_injective heq)
  have hempty : path.toList ≠ [] := fun heq => h.nonempty (String.toList_injective heq)
  have hfile : ¬ (decide (path.toList = ":memory:".toList) || path.toList.isEmpty) = true := by
    rw [Bool.or_eq_true, decide_eq_true_iff, List.isEmpty_iff, not_or]
    exact ⟨hmemory, hempty⟩
  rw [options?_url h (Text.cutAt_of_not_mem hliteral.unmarked), hdecoded, Option.bind_some,
    if_neg hfile, String.ofList_toList]
  rfl

theorem isLiteral_of_options? (h : IsPlain path) {options : Options}
    (hread : options? ("sqlite://" ++ path) = some options) (hfile : options.file = some path) :
    IsLiteral path := by
  rcases hcut : Text.cutAt '?' path.toList with ⟨before, after⟩
  rw [options?_url h hcut] at hread
  rcases Option.bind_eq_some_iff.1 hread with ⟨decoded, hdecoded, hoptions⟩
  have hnamed := (Options.file_of_foldlM hoptions).resolve_right (by simp [hfile])
  dsimp only at hnamed
  rw [hfile] at hnamed
  split at hnamed
  · cases hnamed
  · rename_i hondisk
    have hpath : path.toList = decoded := by
      rw [Option.some.inj hnamed, String.toList_ofList]
    have hbytes := Text.decode?_eq_some_iff.1 hdecoded
    rw [← hpath] at hbytes
    -- What is read is no longer than what stands before the mark, and that begins the path.
    have hbefore : before <+: path.toList := by
      have hfront := Text.cutAt_fst_prefix '?' path.toList
      rwa [hcut] at hfront
    have hwhole : before = path.toList := by
      refine Text.eq_of_prefix_of_length_le hbefore ?_
      rw [← hbytes]
      exact Text.length_percentDecode_le _
    rw [hwhole] at hbytes hondisk
    have hmark : '?' ∉ path.toList := by
      have hfront := Text.not_mem_cutAt '?' path.toList
      rwa [hcut, hwhole] at hfront
    refine ⟨hmark, Text.percentDecode_utf8_eq_self_iff.1 hbytes, ?_⟩
    rintro rfl
    exact hondisk rfl

end Address

/-! ## Directories -/

namespace Place

variable {cs cs' : List Char} {path parent : String}

/-- The components of a path that lead anywhere. -/
def stepLists (cs : List Char) : List (List Char) :=
  (Text.pieces '/' cs).filter fun piece => piece ≠ [] && piece ≠ ['.']

/-- Where a path starts. -/
def start (path : String) : Place := if path.toList.head? = some '/' then ["/"] else []

/-- Where the components of a path lead, all but the last one. -/
def parentOf (path : String) : Place :=
  ((stepLists path.toList).dropLast.map String.ofList).foldl follow (start path)

theorem stepLists_slash (cs cs' : List Char) :
    stepLists (cs ++ '/' :: cs') = stepLists cs ++ stepLists cs' := by
  rw [stepLists, Text.pieces_append, List.filter_append]
  rfl

theorem stepLists_of_not_mem (h : '/' ∉ cs) :
    stepLists cs = if cs = [] ∨ cs = ['.'] then [] else [cs] := by
  rw [stepLists, Text.pieces_of_not_mem h]
  by_cases hempty : cs = [] <;> by_cases hdot : cs = ['.'] <;> simp [hempty, hdot]

theorem ofPath_eq (path : String) :
    ofPath path = ((stepLists path.toList).map String.ofList).foldl follow (start path) := by
  have hfold : ∀ (pieces : List (List Char)) (place : Place),
      ((pieces.filter fun piece => !piece.isEmpty).map String.ofList).foldl follow place =
        ((pieces.filter fun piece => piece ≠ [] && piece ≠ ['.']).map String.ofList).foldl follow
          place := by
    intro pieces
    induction pieces with
    | nil => intro place; rfl
    | cons piece pieces ih =>
        intro place
        by_cases hempty : piece = []
        · simp [hempty, ih]
        · by_cases hdot : piece = ['.']
          · subst hdot
            have hstays : place.follow (String.ofList ['.']) = place := rfl
            simp [hstays, ih]
          · simp [hempty, hdot, ih]
  exact hfold _ _

/-- The last component leads from the parent of a path to its place. -/
theorem ofPath_eq_follow {name : List Char} (h : (stepLists path.toList).getLast? = some name) :
    ofPath path = (parentOf path).follow (.ofList name) := by
  rcases List.getLast?_eq_some_iff.1 h with ⟨init, hsteps⟩
  rw [ofPath_eq, parentOf, hsteps, List.dropLast_concat, List.map_append, List.foldl_append]
  rfl

end Place

namespace Address

variable {cs : List Char} {path parent : String}

theorem dropTrivial_suffix (cs : List Char) : dropTrivial cs <:+ cs := by
  fun_induction dropTrivial cs with
  | case1 => exact List.suffix_refl _
  | case2 rest ih => exact ih.trans (List.suffix_cons _ _)
  | case3 rest ih => exact ih.trans (List.suffix_cons _ _)
  | case4 => exact List.suffix_refl _

/-- What is dropped from the end of a path leads nowhere. -/
theorem stepLists_dropTrivial (cs : List Char) :
    Place.stepLists (dropTrivial cs).reverse = Place.stepLists cs.reverse := by
  have hslash : ∀ rest : List Char, ('/' :: rest).reverse = rest.reverse ++ '/' :: [] :=
    fun rest => List.reverse_cons
  have hdot : ∀ rest : List Char, ('.' :: '/' :: rest).reverse = rest.reverse ++ '/' :: ['.'] := by
    simp
  fun_induction dropTrivial cs with
  | case1 => rfl
  | case2 rest ih =>
      rw [ih, hslash, Place.stepLists_slash]
      exact (List.append_nil _).symm
  | case3 rest ih =>
      rw [ih, hslash, hdot, Place.stepLists_slash, Place.stepLists_slash]
      rfl
  | case4 => rfl

/-- What is left begins with a component that leads somewhere, or is a component by itself. -/
theorem dropTrivial_normal (cs : List Char) :
    (∀ rest, dropTrivial cs ≠ '/' :: rest) ∧ ∀ rest, dropTrivial cs ≠ '.' :: '/' :: rest := by
  fun_induction dropTrivial cs with
  | case1 => simp
  | case2 rest ih => exact ih
  | case3 rest ih => exact ih
  | case4 cs _ hslash hdot => exact ⟨fun rest heq => hslash rest heq, fun rest heq => hdot rest heq⟩

/-- A text is cut at its first slash, if it has one. -/
theorem dropWhile_slash (cs : List Char) :
    ∃ name, '/' ∉ name ∧ (cs = name ∧ cs.dropWhile (· != '/') = [] ∨
      ∃ rest, cs = name ++ '/' :: rest ∧ cs.dropWhile (· != '/') = '/' :: rest) := by
  induction cs with
  | nil => exact ⟨[], List.not_mem_nil, .inl ⟨rfl, rfl⟩⟩
  | cons c cs ih =>
      by_cases hc : c = '/'
      · exact ⟨[], List.not_mem_nil, .inr ⟨cs, by simp [hc], by simp [hc]⟩⟩
      · rcases ih with ⟨name, hname, hcut⟩
        refine ⟨c :: name, List.not_mem_cons_of_ne_of_not_mem (Ne.symm hc) hname, ?_⟩
        have hskip : (c :: cs).dropWhile (· != '/') = cs.dropWhile (· != '/') :=
          List.dropWhile_cons_of_pos (by simpa using hc)
        rw [hskip]
        rcases hcut with ⟨rfl, hnone⟩ | ⟨rest, rfl, hrest⟩
        · exact .inl ⟨rfl, hnone⟩
        · exact .inr ⟨rest, rfl, hrest⟩

/-- Before the last component stands what leads to the directory. -/
theorem stepLists_dropWhile {named : List Char} (hslash : ∀ rest, named ≠ '/' :: rest)
    (hdot : ∀ rest, named ≠ '.' :: '/' :: rest) :
    Place.stepLists (named.dropWhile (· != '/')).reverse =
      (Place.stepLists named.reverse).dropLast := by
  rcases dropWhile_slash named with ⟨name, hname, ⟨rfl, hrest⟩ | ⟨rest, rfl, hrest⟩⟩
  · have hwhole : '/' ∉ named.reverse := by simpa using hname
    rw [hrest, Place.stepLists_of_not_mem hwhole]
    split <;> rfl
  · -- The last component is neither empty nor a dot.
    have hempty : name ≠ [] := by
      rintro rfl
      exact hslash rest rfl
    have hother : name ≠ ['.'] := by
      rintro rfl
      exact hdot rest rfl
    have hlast : Place.stepLists name.reverse = [name.reverse] := by
      rw [Place.stepLists_of_not_mem (by simpa using hname), if_neg (by simp [hempty, hother])]
    rw [hrest, List.reverse_append, List.reverse_cons, List.append_assoc, List.singleton_append,
      Place.stepLists_slash, Place.stepLists_slash, hlast, List.dropLast_concat]
    exact List.append_nil _

/-- What stands above the last component of a path. -/
def above (cs : List Char) : List Char :=
  (dropTrivial ((dropTrivial cs.reverse).dropWhile (· != '/'))).reverse

theorem stepLists_above_eq (cs : List Char) :
    Place.stepLists (above cs) = (Place.stepLists cs).dropLast := by
  have hnormal := dropTrivial_normal cs.reverse
  rw [above, stepLists_dropTrivial, stepLists_dropWhile hnormal.1 hnormal.2, stepLists_dropTrivial,
    List.reverse_reverse]

theorem above_prefix (cs : List Char) : above cs <+: cs := by
  have hsuffix := (dropTrivial_suffix _).trans
    ((List.dropWhile_suffix (· != '/')).trans (dropTrivial_suffix cs.reverse))
  simpa [above] using List.reverse_prefix.2 hsuffix

theorem stepLists_of_dropTrivial_eq_nil (h : dropTrivial cs.reverse = []) :
    Place.stepLists cs = [] := by
  have hsteps := stepLists_dropTrivial cs.reverse
  rw [h, List.reverse_reverse] at hsteps
  exact hsteps.symm

/-- The directory of a path starts where the path starts, and is reached by all of its components
but the last. -/
theorem parent?_eq_some (h : parent? path = some parent) :
    Place.stepLists parent.toList = (Place.stepLists path.toList).dropLast ∧
      Place.start parent = Place.start path := by
  unfold parent? at h
  dsimp only at h
  split at h
  · rename_i hempty
    rw [stepLists_of_dropTrivial_eq_nil (List.isEmpty_iff.1 hempty)]
    split at h
    · cases h
    · rename_i hrelative
      cases h
      simp only [Bool.or_eq_true, decide_eq_true_eq, not_or] at hrelative
      exact ⟨rfl, (if_neg hrelative.1).symm⟩
  · have habove := stepLists_above_eq path.toList
    change (if (above path.toList).isEmpty && _ then _
      else some (String.ofList (above path.toList))) = _ at h
    split at h
    · rename_i hroot
      cases h
      simp only [Bool.and_eq_true, decide_eq_true_eq, List.isEmpty_iff] at hroot
      rw [hroot.1] at habove
      exact ⟨habove, (if_pos hroot.2).symm⟩
    · rename_i hother
      cases h
      rw [String.toList_ofList]
      refine ⟨habove, ?_⟩
      rw [Place.start, Place.start, String.toList_ofList]
      rcases above_prefix path.toList with ⟨rest, hpath⟩
      cases hchars : above path.toList with
      | nil =>
          have hrelative : ¬ path.toList.head? = some '/' := by simpa [hchars] using hother
          rw [if_neg hrelative]
          rfl
      | cons c cs =>
          rw [← hpath, hchars]
          rfl

theorem stepLists_of_parent?_eq_none (h : parent? path = none) :
    Place.stepLists path.toList = [] := by
  unfold parent? at h
  dsimp only at h
  split at h
  · rename_i hempty
    exact stepLists_of_dropTrivial_eq_nil (List.isEmpty_iff.1 hempty)
  · split at h <;> cases h

theorem parentOf_of_parent? (h : parent? path = some parent) :
    Place.ofPath parent = Place.parentOf path := by
  rcases parent?_eq_some h with ⟨hsteps, hstart⟩
  rw [Place.ofPath_eq, Place.parentOf, hsteps, hstart]

end Address

namespace Disk

variable {disk disk' : Disk} {place : Place} {parts : List String} {path setting url : String}

/-- What has been created along a path is there. -/
theorem isDirectory_of_createAlong (h : disk.createAlong place parts = (true, disk'))
    (hplace : disk.isDirectory place = true) :
    disk'.isDirectory (parts.foldl Place.follow place) = true := by
  induction parts generalizing disk place with
  | nil =>
      cases h
      exact hplace
  | cons component rest ih =>
      unfold createAlong at h
      dsimp only at h
      split at h
      · rename_i hthere
        exact ih h hthere
      · split at h
        · cases h
        · exact ih h (by simp [isDirectory])

theorem isDirectory_start (disk : Disk) (path : String) :
    disk.isDirectory (Place.start path) = true := by
  unfold Place.start
  split <;> rfl

theorem isDirectory_of_createDirectories (h : disk.createDirectories path = (true, disk')) :
    disk'.isDirectory (Place.ofPath path) = true := by
  unfold createDirectories at h
  split at h
  · cases h
  · exact isDirectory_of_createAlong h (disk.isDirectory_start path)

/-- After a database URL has been made ready, the directory of its file is there. -/
theorem isDirectory_of_ensureParent (hpath : Address.path? url = some path)
    (h : disk.ensureParent url = (.ok (), disk')) :
    disk'.isDirectory (Place.parentOf path) = true := by
  unfold ensureParent at h
  rw [hpath, Option.bind_some] at h
  cases hparent : Address.parent? path with
  | none =>
      rw [Place.parentOf, Address.stepLists_of_parent?_eq_none hparent]
      exact disk'.isDirectory_start path
  | some parent =>
      rw [← Address.parentOf_of_parent? hparent]
      simp only [hparent] at h
      split at h
      · rename_i hempty
        subst hempty
        rfl
      · rcases hcreated : disk.createDirectories parent with ⟨created, after⟩
        rw [hcreated] at h
        cases created with
        | false => cases h
        | true =>
            cases h
            exact isDirectory_of_createDirectories hcreated

theorem ensureParent_of_prepare (h : (disk.prepare setting).1 = .ok url) :
    disk.ensureParent (Address.normalize setting) = (.ok (), (disk.prepare setting).2) := by
  unfold prepare at h ⊢
  dsimp only at h ⊢
  rcases hensured : disk.ensureParent (Address.normalize setting) with ⟨result, after⟩
  rw [hensured] at h
  cases result with
  | error e => cases h
  | ok _ => rfl

end Disk

/-- A plain path is embedded into a URL, and two readers take it out again.  The one that creates
directories finds the path exactly if there is no question mark in it.  Both find it exactly if
there is no percent triplet either, and the path is not the name for a database in memory; then,
whenever the database has been made ready for, the directory of the file is there: all components of
the path but the last lead to it. -/
theorem plain_path_is_opened_iff (setting : String) (h : Address.IsPath setting) :
    let path := Address.given setting
    let url := Address.normalize setting
    (Address.path? url = some path ↔ '?' ∉ path.toList) ∧
      ((Address.path? url = some path ∧
          ∃ options, Address.options? url = some options ∧ options.file = some path) ↔
        Address.IsLiteral path) ∧
      (Address.IsLiteral path → ∀ disk : Disk, (disk.prepare setting).1 = .ok url →
        (disk.prepare setting).2.isDirectory (Place.parentOf path) = true ∧
          ∀ name, (Place.stepLists path.toList).getLast? = some name →
            Place.ofPath path = (Place.parentOf path).follow (.ofList name)) := by
  intro path url
  have hplain : Address.IsPlain path := Address.isPlain_given h
  have hurl : url = "sqlite://" ++ path := Address.normalize_of_isPath h
  have hmark : Address.path? url = some path ↔ '?' ∉ path.toList :=
    hurl ▸ Address.path?_eq_some_iff hplain
  refine ⟨hmark, ⟨?_, fun hliteral => ⟨hmark.2 hliteral.unmarked, ?_⟩⟩, ?_⟩
  · rintro ⟨-, options, hoptions, hfile⟩
    exact Address.isLiteral_of_options? hplain (hurl ▸ hoptions) hfile
  · exact ⟨_, hurl ▸ Address.options?_of_isLiteral hplain hliteral, rfl⟩
  · intro hliteral disk hprepared
    have hensured := Disk.ensureParent_of_prepare hprepared
    exact ⟨Disk.isDirectory_of_ensureParent (hmark.2 hliteral.unmarked) hensured,
      fun name hname => Place.ofPath_eq_follow hname⟩

/-- Blanks, a percent sign with something else behind it and a backslash do no harm. -/
theorem path_with_blanks_is_opened :
    let setting := " my data\\100%/shop.db"
    Address.IsPath setting ∧ Address.given setting = "my data/100%/shop.db" ∧
      Address.path? (Address.normalize setting) = some "my data/100%/shop.db" ∧
      (∃ options, Address.options? (Address.normalize setting) = some options ∧
        options.file = some "my data/100%/shop.db") ∧
      ((Disk.prepare {} setting).2.isDirectory ["my data", "100%"]) = true := by
  intro setting
  have hpath : Address.IsPath setting := ⟨by decide +kernel, by decide +kernel, by decide +kernel⟩
  have hgiven : Address.given setting = "my data/100%/shop.db" := by decide +kernel
  have hliteral : Address.IsLiteral (Address.given setting) := by
    rw [hgiven]
    exact ⟨by decide +kernel, by decide +kernel, by decide +kernel⟩
  have hopened := (plain_path_is_opened_iff setting hpath).2
  have hboth := hopened.1.2 hliteral
  rw [hgiven] at hboth
  refine ⟨hpath, hgiven, hboth.1, hboth.2, ?_⟩
  have hready : (Disk.prepare {} setting).1 = .ok (Address.normalize setting) := by decide +kernel
  have hdirectory := (hopened.2 hliteral {} hready).1
  rwa [hgiven] at hdirectory

/-- With a percent triplet in its path, a database is looked for in another directory than the one
that has been created for it. -/
theorem triplet_leads_elsewhere :
    let setting := "data%20x/session.db"
    let disk := (Disk.prepare {} setting).2
    Address.IsPath setting ∧
      Address.path? (Address.normalize setting) = some "data%20x/session.db" ∧
      (Address.options? (Address.normalize setting)).map (·.file) =
        some (some "data x/session.db") ∧
      disk.directories = [["data%20x"]] ∧
      (disk.connect (Address.normalize setting)).1 =
        .error (.openFailed "sqlite://data%20x/session.db") := by
  refine ⟨⟨by decide +kernel, by decide +kernel, by decide +kernel⟩, ?_⟩
  decide +kernel

end WebClient
