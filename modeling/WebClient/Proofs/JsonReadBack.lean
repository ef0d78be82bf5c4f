import WebClient.Json.Printer
import WebClient.Proofs.JsonShape

/-!
# JsonReadBack — what is written is read back

The compact text of a value, read again, is that value (`Json.read?_compact`), provided that its
numbers are integers of 64 bits and that it is nested no deeper than texts may be.

Every part of the reader takes exactly what the printer wrote from the front of a longer text, and
leaves what follows: `Json.stringBody?_quoted`, `Json.number?_toDigits`,
`Json.value?_compactChars`.
-/

namespace WebClient
namespace Json

/-! ## Strings -/

/-- A control character that is written by its number. -/
theorem stringBody?_control {c : Char} (hcontrol : c.toNat < 0x20) (acc rest : List Char) :
    stringBody? acc ('\\' :: 'u' :: '0' :: '0' :: Text.hexLower (c.toNat / 16) ::
      Text.hexLower (c.toNat % 16) :: rest) = stringBody? (c :: acc) rest := by
  have hhigh : Text.hexValue? (Text.hexLower (c.toNat / 16)) = some (c.toNat / 16) :=
    Text.hexValue?_hexLower (by omega)
  have hlow : Text.hexValue? (Text.hexLower (c.toNat % 16)) = some (c.toNat % 16) :=
    Text.hexValue?_hexLower (by omega)
  have hunit : codeUnit? '0' '0' (Text.hexLower (c.toNat / 16)) (Text.hexLower (c.toNat % 16)) =
      some c.toNat := by
    have hzero : Text.hexValue? '0' = some 0 := by decide
    simp only [codeUnit?, hzero, hhigh, hlow, Option.bind_eq_bind, Option.bind_some,
      Option.some.injEq]
    omega
  -- The number is far below those of surrogates, so nothing is expected to follow it.
  have hnotLow : isLowHalf c.toNat = false := by
    simp only [isLowHalf, Bool.and_eq_false_iff, decide_eq_false_iff_not]
    omega
  have hnotHigh : isHighHalf c.toNat = false := by
    simp only [isHighHalf, Bool.and_eq_false_iff, decide_eq_false_iff_not]
    omega
  simp [stringBody?, hunit, hnotLow, hnotHigh]

theorem stringBody?_plain {c : Char} (hquote : c ≠ '"') (hbackslash : c ≠ '\\')
    (hprintable : ¬ c.toNat < 0x20) (acc rest : List Char) :
    stringBody? acc (c :: rest) = stringBody? (c :: acc) rest := by
  have hplain : (decide (c.toNat < 0x20) || c == '\\') = false := by
    simpa [hprintable] using hbackslash
  -- All branches of the reader but the last want a quote, a backslash or the end of the text.
  rw [stringBody?.eq_def]
  split
  case h_5 _ heq =>
    obtain ⟨rfl, rfl⟩ := List.cons.inj heq
    rw [hplain]
    rfl
  all_goals simp_all

theorem stringBody?_escapeChar (c : Char) (acc rest : List Char) :
    stringBody? acc (escapeChar c ++ rest) = stringBody? (c :: acc) rest := by
  unfold escapeChar
  -- One case for each letter escape, then the control characters written by number, then the rest.
  split
  · simp [stringBody?, shortEscape?]
  · simp [stringBody?, shortEscape?]
  · simp [stringBody?, shortEscape?]
  · simp [stringBody?, shortEscape?]
  · simp [stringBody?, shortEscape?]
  · simp [stringBody?, shortEscape?]
  · simp [stringBody?, shortEscape?]
  · rename_i hquote hbackslash _ _ _ _ _
    split
    · rename_i hcontrol
      exact stringBody?_control hcontrol acc rest
    · rename_i hprintable
      exact stringBody?_plain hquote hbackslash hprintable acc rest

theorem stringBody?_escaped (cs acc rest : List Char) :
    stringBody? acc (cs.flatMap escapeChar ++ '"' :: rest) =
      some (String.ofList (acc.reverse ++ cs), rest) := by
  -- What was read waits in `acc` in reverse, and the induction lets it grow.
  induction cs generalizing acc with
  | nil => simp [stringBody?]
  | cons c cs ih =>
      calc
        stringBody? acc ((c :: cs).flatMap escapeChar ++ '"' :: rest)
            = stringBody? acc (escapeChar c ++ (cs.flatMap escapeChar ++ '"' :: rest)) := by simp
        _ = stringBody? (c :: acc) (cs.flatMap escapeChar ++ '"' :: rest) :=
              stringBody?_escapeChar c acc _
        _ = some (String.ofList (acc.reverse ++ c :: cs), rest) := by simp [ih]

/-- A string is read back from behind its opening quote. -/
theorem stringBody?_quoted (s : String) (rest : List Char) :
    stringBody? [] ((quoted s).tail ++ rest) = some (s, rest) := by
  simpa [quoted] using stringBody?_escaped s.toList [] rest

/-! ## Numbers -/

/-- Whether a value may end before this text. -/
def EndsValue (rest : List Char) : Prop := ∀ c ∈ rest.head?, c = ',' ∨ c = ']' ∨ c = '}'

theorem endsValue_nil : EndsValue [] := by simp [EndsValue]

theorem endsValue_cons {c : Char} (h : c = ',' ∨ c = ']' ∨ c = '}') (rest : List Char) :
    EndsValue (c :: rest) := by
  simpa [EndsValue] using h

section Numbers

variable {rest : List Char}

theorem digits_toDigits (h : EndsValue rest) (n : Nat) :
    digits (Nat.toDigits 10 n ++ rest) =
      ((Nat.toDigits 10 n).map fun c => c.toNat - 0x30, rest) := by
  have hdigits : ∀ c ∈ Nat.toDigits 10 n, c.isDigit = true := fun c hc =>
    Nat.isDigit_of_mem_toDigits (by decide) (by decide) hc
  -- The digits end with the number: no text that may follow a value begins with one.
  have hstop : rest.takeWhile Char.isDigit = [] ∧ rest.dropWhile Char.isDigit = rest := by
    cases rest with
    | nil => exact ⟨rfl, rfl⟩
    | cons c rest =>
        have hc : c.isDigit = false := by
          rcases h c rfl with rfl | rfl | rfl <;> decide
        simp [hc]
  rw [digits, List.takeWhile_append_of_pos hdigits, List.dropWhile_append_of_pos hdigits, hstop.1,
    hstop.2, List.append_nil]

/-- Only the number zero is written with a leading zero. -/
theorem head?_toDigits {n : Nat} (hn : 0 < n) : (Nat.toDigits 10 n).head? ≠ some '0' := by
  -- All digits but the last are those of `n / 10`, which is positive if there are several.
  induction n using Nat.strongRecOn with
  | _ n ih =>
      rw [Nat.toDigits_eq_if (by decide)]
      split
      · rename_i hlt
        have hsmall : ∀ m < 10, 0 < m → m.digitChar ≠ '0' := by decide
        simpa using hsmall n hlt hn
      · rename_i hge
        have hrest : (Nat.toDigits 10 (n / 10)).head? ≠ some '0' := ih _ (by omega) (by omega)
        cases hdigits : Nat.toDigits 10 (n / 10) with
        | nil => exact absurd hdigits Nat.toDigits_ne_nil
        | cons c cs => simpa [hdigits] using hrest

theorem ofDigits_toDigits (n : Nat) :
    Literal.ofDigits ((Nat.toDigits 10 n).map fun c => c.toNat - 0x30) = n := by
  calc
    Literal.ofDigits ((Nat.toDigits 10 n).map fun c => c.toNat - 0x30)
        = Nat.ofDigitChars 10 (Nat.toDigits 10 n) 0 := by
          simp [Literal.ofDigits, Nat.ofDigitChars, List.foldl_map, Nat.mul_comm]
    _ = n := Nat.ofDigitChars_ten_toDigits

theorem whole?_toDigits (h : EndsValue rest) (n : Nat) :
    whole? (Nat.toDigits 10 n ++ rest) =
      some ((Nat.toDigits 10 n).map (fun c => c.toNat - 0x30), rest) := by
  have hdigit : ∀ c ∈ Nat.toDigits 10 n, 0x30 ≤ c.toNat := by
    intro c hc
    have hc : c.isDigit = true := Nat.isDigit_of_mem_toDigits (by decide) (by decide) hc
    simp only [Char.isDigit, Bool.and_eq_true, decide_eq_true_eq] at hc
    exact hc.1
  unfold whole?
  rw [digits_toDigits h]
  cases hn : Nat.toDigits 10 n with
  | nil => exact absurd hn Nat.toDigits_ne_nil
  | cons c cs =>
      cases cs with
      | nil =>
          -- A single digit may be a zero.
          simp only [List.map_cons, List.map_nil]
          split <;> simp_all
      | cons c' cs =>
          -- With two digits or more the first one is no zero.
          have hpos : 0 < n := by
            rcases Nat.eq_zero_or_pos n with rfl | hpos
            · simp at hn
            · exact hpos
          have hc : c ≠ '0' := by simpa [hn] using head?_toDigits hpos
          have hvalue : c.toNat - 0x30 ≠ 0 := by
            intro hzero
            have hlow : 0x30 ≤ c.toNat := hdigit c (by simp [hn])
            exact hc (Char.toNat_inj.1 (show c.toNat = 48 by omega))
          simp only [List.map_cons]
          split <;> simp_all

theorem fraction?_of_endsValue (h : EndsValue rest) : fraction? rest = some ([], rest) := by
  unfold fraction?
  split
  · exact absurd (h '.' rfl) (by decide)
  · rfl

theorem exponent?_of_endsValue (h : EndsValue rest) : exponent? rest = some (none, rest) := by
  cases rest with
  | nil => rfl
  | cons c rest =>
      have hc : (c == 'e' || c == 'E') = false := by
        rcases h c rfl with rfl | rfl | rfl <;> decide
      simp [exponent?, hc]

/-- A number is read back from its digits, if it has a value at all. -/
theorem number?_toDigits (h : EndsValue rest) (negative : Bool) (n : Nat) :
    number? negative (Nat.toDigits 10 n ++ rest) =
      (Literal.value? ⟨negative, (Nat.toDigits 10 n).map fun c => c.toNat - 0x30, [], none⟩).map
        fun value => (value, rest) := by
  simp only [number?, whole?_toDigits h, fraction?_of_endsValue h, exponent?_of_endsValue h,
    Option.bind_eq_bind, Option.bind_some]
  cases Literal.value? _ <;> rfl

theorem value?_natural {n : Nat} (hn : n < Literal.wordLimit) :
    Literal.value? ⟨false, (Nat.toDigits 10 n).map fun c => c.toNat - 0x30, [], none⟩ =
      some (.int n) := by
  simp [Literal.value?, ofDigits_toDigits, hn]

theorem value?_negative {n : Nat} (hpos : 0 < n) (hn : n ≤ minInt64.natAbs) :
    Literal.value? ⟨true, (Nat.toDigits 10 n).map fun c => c.toNat - 0x30, [], none⟩ =
      some (.int (-(n : Int))) := by
  have hlimit : n < Literal.wordLimit := Nat.lt_of_le_of_lt hn (by decide)
  simp [Literal.value?, ofDigits_toDigits, hlimit, hn, Nat.ne_of_gt hpos]

/-! ## Scalars -/

/-- The characters with which the text of a value can begin. -/
def IsLead (c : Char) : Prop :=
  c.isDigit = true ∨ c ∈ ['-', '"', 'n', 't', 'f', '[', '{']

instance (c : Char) : Decidable (IsLead c) :=
  inferInstanceAs (Decidable (c.isDigit = true ∨ c ∈ ['-', '"', 'n', 't', 'f', '[', '{']))

theorem exists_lead_intChars (n : Int) :
    ∃ c cs, intChars n = c :: cs ∧ (c = '-' ∨ c.isDigit = true) := by
  by_cases hn : n < 0
  · exact ⟨'-', Nat.toDigits 10 n.natAbs, by simp [intChars, hn], .inl rfl⟩
  · cases hdigits : Nat.toDigits 10 n.natAbs with
    | nil => exact absurd hdigits Nat.toDigits_ne_nil
    | cons c cs =>
        have hmem : c ∈ Nat.toDigits 10 n.natAbs := by simp [hdigits]
        have hc : c.isDigit = true := Nat.isDigit_of_mem_toDigits (by decide) (by decide) hmem
        exact ⟨c, cs, by simp [intChars, hn, hdigits], .inr hc⟩

theorem exists_lead {value : Json} (h : value.isIntegral = true) :
    ∃ c cs, value.compactChars = c :: cs ∧ IsLead c := by
  cases value with
  | null => exact ⟨_, _, rfl, .inr (by decide)⟩
  | bool b => cases b <;> exact ⟨_, _, rfl, .inr (by decide)⟩
  | int n =>
      rcases exists_lead_intChars n with ⟨c, cs, hchars, rfl | hdigit⟩
      · exact ⟨_, cs, hchars, .inr (by decide)⟩
      · exact ⟨c, cs, hchars, .inl hdigit⟩
  | float x => cases h
  | string s => exact ⟨_, _, rfl, .inr (by decide)⟩
  | array items => exact ⟨_, _, rfl, .inr (by decide)⟩
  | object members => exact ⟨_, _, rfl, .inr (by decide)⟩

theorem skipBlanks_cons {c : Char} (h : c ∉ [' ', '\n', '\t', '\r']) (cs : List Char) :
    skipBlanks (c :: cs) = c :: cs := by
  have hblank : (c == ' ' || c == '\n' || c == '\t' || c == '\r') = false := by
    simpa [and_assoc] using h
  simp [skipBlanks, hblank]

theorem IsLead.not_blank {c : Char} (h : IsLead c) : c ∉ [' ', '\n', '\t', '\r'] := by
  intro hblank
  simp only [List.mem_cons, List.not_mem_nil, or_false] at hblank
  rcases hblank with rfl | rfl | rfl | rfl <;> exact absurd h (by decide)

theorem IsLead.ne_close {c : Char} (h : IsLead c) : c ≠ ']' := by
  rintro rfl
  exact absurd h (by decide)

theorem skipBlanks_compactChars {value : Json} (h : value.isIntegral = true)
    (rest : List Char) :
    skipBlanks (value.compactChars ++ rest) = value.compactChars ++ rest := by
  rcases exists_lead h with ⟨c, cs, hchars, hlead⟩
  simpa [hchars] using skipBlanks_cons hlead.not_blank (cs ++ rest)

theorem scalar?_digits {c : Char} (hc : c.isDigit = true) (cs : List Char) :
    scalar? (c :: cs) = number? false (c :: cs) := by
  unfold scalar?
  split
  case h_6 => rfl
  all_goals
    rename_i heq
    cases heq
    exact absurd hc (by decide)

theorem scalar?_intChars (h : EndsValue rest) {n : Int} (hn : (Json.int n).isIntegral = true) :
    scalar? (intChars n ++ rest) = some (.int n, rest) := by
  have hrange : minInt64 ≤ n ∧ n < Literal.wordLimit := by
    simpa only [isIntegral, Bool.and_eq_true, decide_eq_true_eq] using hn
  by_cases hneg : n < 0
  · -- The sign is written first, and the digits are those of the absolute value.
    have hbound : n.natAbs ≤ minInt64.natAbs := by
      have hmin := hrange.1
      simp only [minInt64] at hmin ⊢
      omega
    have hvalue := value?_negative (n := n.natAbs) (by omega) hbound
    have hsign : -(n.natAbs : Int) = n := by omega
    rw [hsign] at hvalue
    simp [intChars, hneg, scalar?, number?_toDigits h, hvalue]
  · -- Without a sign the reader goes by the first digit.
    have hbound : n.natAbs < Literal.wordLimit := by omega
    have hsign : (n.natAbs : Int) = n := by omega
    have hvalue := value?_natural hbound
    rw [hsign] at hvalue
    have hread : number? false (Nat.toDigits 10 n.natAbs ++ rest) = some (.int n, rest) := by
      simp [number?_toDigits h, hvalue]
    cases hdigits : Nat.toDigits 10 n.natAbs with
    | nil => exact absurd hdigits Nat.toDigits_ne_nil
    | cons c cs =>
        have hmem : c ∈ Nat.toDigits 10 n.natAbs := by simp [hdigits]
        have hc : c.isDigit = true := Nat.isDigit_of_mem_toDigits (by decide) (by decide) hmem
        rw [hdigits] at hread
        simpa [intChars, hneg, hdigits] using (scalar?_digits hc (cs ++ rest)).trans hread

end Numbers

/-! ## Values -/

/-- Whether a reader reads a value back from the front of whatever text begins with it. -/
def ReadsBack (item? : List Char → Option (Json × List Char)) (value : Json) : Prop :=
  ∀ rest, EndsValue rest → item? (value.compactChars ++ rest) = some (value, rest)

/-- The text of a member. -/
def memberChars (entry : String × Json) : List Char :=
  quoted entry.1 ++ ':' :: entry.2.compactChars

theorem compactItems_cons (item : Json) (rest : List Json) :
    compactItems (item :: rest) =
      item.compactChars ++ rest.flatMap fun other => ',' :: other.compactChars := by
  induction rest generalizing item with
  | nil => simp [compactItems]
  | cons other rest ih => simp [compactItems, ih]

theorem compactMembers_cons (entry : String × Json) (rest : List (String × Json)) :
    compactMembers (entry :: rest) =
      memberChars entry ++ rest.flatMap fun other => ',' :: memberChars other := by
  induction rest generalizing entry with
  | nil => simp [compactMembers, memberChars]
  | cons other rest ih => simp [compactMembers, memberChars, ih]

section Readers

variable {item? : List Char → Option (Json × List Char)}

theorem endsValue_more {α : Type} (f : α → List Char) (others : List α) (close : Char)
    (h : close = ']' ∨ close = '}') (rest : List Char) :
    EndsValue (others.flatMap (fun other => ',' :: f other) ++ close :: rest) := by
  cases others with
  | nil => exact endsValue_cons (.inr h) rest
  | cons other others =>
      rw [List.flatMap_cons, List.cons_append, List.cons_append]
      exact endsValue_cons (.inl rfl) _

theorem length_le_length_more {α : Type} (f : α → List Char) (others : List α) :
    others.length ≤ (others.flatMap fun other => ',' :: f other).length := by
  induction others with
  | nil => exact Nat.le_refl 0
  | cons other others ih =>
      simp only [List.flatMap_cons, List.length_append, List.length_cons]
      omega

/-- The items that follow an item, up to the end of the array. -/
theorem moreItems?_compact {items : List Json} {fuel : Nat}
    (hread : ∀ item ∈ items, ReadsBack item? item ∧ item.isIntegral = true)
    (hfuel : items.length < fuel) (acc : List Json) (rest : List Char) :
    moreItems? item? fuel acc
        (items.flatMap (fun item => ',' :: item.compactChars) ++ ']' :: rest) =
      some (.array (acc.reverse ++ items), rest) := by
  have hclose : skipBlanks (']' :: rest) = ']' :: rest := skipBlanks_cons (by decide) rest
  -- The reader loops on its fuel, the text on the items; what was read waits in `acc`.
  induction items generalizing fuel acc with
  | nil =>
      obtain ⟨fuel, rfl⟩ := Nat.exists_eq_add_one.2 hfuel
      simp [moreItems?, hclose]
  | cons item items ih =>
      obtain ⟨fuel, rfl⟩ := Nat.exists_eq_add_one.2 (Nat.zero_lt_of_lt hfuel)
      rcases List.forall_mem_cons.1 hread with ⟨⟨hitem, hintegral⟩, hitems⟩
      let after := items.flatMap (fun item => ',' :: item.compactChars) ++ ']' :: rest
      have hafter : EndsValue after := endsValue_more compactChars items ']' (.inl rfl) rest
      have hcomma : skipBlanks (',' :: (item.compactChars ++ after)) =
          ',' :: (item.compactChars ++ after) := skipBlanks_cons (by decide) _
      have hskip : skipBlanks (item.compactChars ++ after) = item.compactChars ++ after :=
        skipBlanks_compactChars hintegral after
      have hrest := ih hitems (Nat.lt_of_succ_lt_succ hfuel) (item :: acc)
      calc
        moreItems? item? (fuel + 1) acc
            ((item :: items).flatMap (fun item => ',' :: item.compactChars) ++ ']' :: rest)
            = moreItems? item? (fuel + 1) acc (',' :: (item.compactChars ++ after)) := by
              simp [after]
        _ = moreItems? item? fuel (item :: acc) after := by
              simp [moreItems?, hcomma, hskip, hitem after hafter]
        _ = some (.array (acc.reverse ++ item :: items), rest) := by
              simpa using hrest

theorem arrayBody?_compact {items : List Json}
    (hread : ∀ item ∈ items, ReadsBack item? item ∧ item.isIntegral = true)
    (rest : List Char) :
    arrayBody? item? (compactItems items ++ ']' :: rest) = some (.array items, rest) := by
  cases items with
  | nil =>
      have hclose : skipBlanks (']' :: rest) = ']' :: rest := skipBlanks_cons (by decide) rest
      simp [arrayBody?, compactItems, hclose]
  | cons item items =>
      rcases List.forall_mem_cons.1 hread with ⟨⟨hitem, hintegral⟩, hitems⟩
      let after := items.flatMap (fun item => ',' :: item.compactChars) ++ ']' :: rest
      have hafter : EndsValue after := endsValue_more compactChars items ']' (.inl rfl) rest
      -- Every further item takes a comma, so that the length of the text is fuel enough.
      have hfuel : items.length < after.length + 1 := by
        have hlength : items.length ≤
            (items.flatMap fun item => ',' :: item.compactChars).length :=
          length_le_length_more compactChars items
        simp only [after, List.length_append]
        omega
      have hskip : skipBlanks (item.compactChars ++ after) = item.compactChars ++ after :=
        skipBlanks_compactChars hintegral after
      -- No value begins like the end of an empty array.
      have hnotClose : ∀ tail, item.compactChars ++ after ≠ ']' :: tail := by
        rcases exists_lead hintegral with ⟨c, cs, hchars, hlead⟩
        simp [hchars, hlead.ne_close]
      calc
        arrayBody? item? (compactItems (item :: items) ++ ']' :: rest)
            = arrayBody? item? (item.compactChars ++ after) := by
              simp [compactItems_cons, after]
        _ = moreItems? item? (after.length + 1) [item] after := by
              unfold arrayBody?
              rw [hskip]
              split
              · rename_i hclose
                exact absurd hclose (hnotClose _)
              · rw [hitem after hafter]
        _ = some (.array (item :: items), rest) := by
              simpa using moreItems?_compact hitems hfuel [item] rest

theorem oneMember?_compact {entry : String × Json} (hread : ReadsBack item? entry.2)
    (hintegral : entry.2.isIntegral = true) {rest : List Char} (hrest : EndsValue rest) :
    oneMember? item? (memberChars entry ++ rest) = some (entry, rest) := by
  rcases entry with ⟨key, value⟩
  let after := value.compactChars ++ rest
  -- The reader skips blanks before the key, before the colon and before the value: there are none.
  have hquote : skipBlanks ('"' :: ((quoted key).tail ++ ':' :: after)) =
      '"' :: ((quoted key).tail ++ ':' :: after) := skipBlanks_cons (by decide) _
  have hcolon : skipBlanks (':' :: after) = ':' :: after := skipBlanks_cons (by decide) _
  have hskip : skipBlanks after = after := skipBlanks_compactChars hintegral rest
  calc
    oneMember? item? (memberChars (key, value) ++ rest)
        = oneMember? item? ('"' :: ((quoted key).tail ++ ':' :: after)) := by
          simp [memberChars, quoted, after]
    _ = some ((key, value), rest) := by
          simp [oneMember?, hquote, stringBody?_quoted, hcolon, hskip, after, hread rest hrest]

/-- The members that follow a member, up to the end of the object. -/
theorem moreMembers?_compact {members : List (String × Json)} {fuel : Nat}
    (hread : ∀ entry ∈ members, ReadsBack item? entry.2 ∧ entry.2.isIntegral = true)
    (hfuel : members.length < fuel) (acc : List (String × Json)) (rest : List Char) :
    moreMembers? item? fuel acc
        (members.flatMap (fun entry => ',' :: memberChars entry) ++ '}' :: rest) =
      some (.object (acc.reverse ++ members), rest) := by
  have hclose : skipBlanks ('}' :: rest) = '}' :: rest := skipBlanks_cons (by decide) rest
  -- As for items: the reader loops on its fuel, the text on the members.
  induction members generalizing fuel acc with
  | nil =>
      obtain ⟨fuel, rfl⟩ := Nat.exists_eq_add_one.2 hfuel
      simp [moreMembers?, hclose]
  | cons entry members ih =>
      obtain ⟨fuel, rfl⟩ := Nat.exists_eq_add_one.2 (Nat.zero_lt_of_lt hfuel)
      rcases List.forall_mem_cons.1 hread with ⟨⟨hvalue, hintegral⟩, hmembers⟩
      let after := members.flatMap (fun entry => ',' :: memberChars entry) ++ '}' :: rest
      have hafter : EndsValue after := endsValue_more memberChars members '}' (.inr rfl) rest
      have hcomma : skipBlanks (',' :: (memberChars entry ++ after)) =
          ',' :: (memberChars entry ++ after) := skipBlanks_cons (by decide) _
      have hrest := ih hmembers (Nat.lt_of_succ_lt_succ hfuel) (entry :: acc)
      calc
        moreMembers? item? (fuel + 1) acc
            ((entry :: members).flatMap (fun entry => ',' :: memberChars entry) ++ '}' :: rest)
            = moreMembers? item? (fuel + 1) acc (',' :: (memberChars entry ++ after)) := by
              simp [after]
        _ = moreMembers? item? fuel (entry :: acc) after := by
              simp [moreMembers?, hcomma, oneMember?_compact hvalue hintegral hafter]
        _ = some (.object (acc.reverse ++ entry :: members), rest) := by
              simpa using hrest

theorem objectBody?_compact {members : List (String × Json)}
    (hread : ∀ entry ∈ members, ReadsBack item? entry.2 ∧ entry.2.isIntegral = true)
    (rest : List Char) :
    objectBody? item? (compactMembers members ++ '}' :: rest) = some (.object members, rest) := by
  cases members with
  | nil =>
      have hclose : skipBlanks ('}' :: rest) = '}' :: rest := skipBlanks_cons (by decide) rest
      simp [objectBody?, compactMembers, hclose]
  | cons entry members =>
      rcases List.forall_mem_cons.1 hread with ⟨⟨hvalue, hintegral⟩, hmembers⟩
      let after := members.flatMap (fun entry => ',' :: memberChars entry) ++ '}' :: rest
      have hafter : EndsValue after := endsValue_more memberChars members '}' (.inr rfl) rest
      -- A comma for every further member, as in arrays.
      have hfuel : members.length < after.length + 1 := by
        have hlength : members.length ≤
            (members.flatMap fun entry => ',' :: memberChars entry).length :=
          length_le_length_more memberChars members
        simp only [after, List.length_append]
        omega
      have hquote : skipBlanks (memberChars entry ++ after) = memberChars entry ++ after :=
        skipBlanks_cons (by decide) _
      calc
        objectBody? item? (compactMembers (entry :: members) ++ '}' :: rest)
            = objectBody? item? (memberChars entry ++ after) := by
              simp [compactMembers_cons, after]
        _ = moreMembers? item? (after.length + 1) [entry] after := by
              unfold objectBody?
              rw [hquote]
              split
              · rename_i hclose
                simp [memberChars, quoted] at hclose
              · rw [oneMember?_compact hvalue hintegral hafter]
        _ = some (.object (entry :: members), rest) := by
              simpa using moreMembers?_compact hmembers hfuel [entry] rest

end Readers

theorem value?_of_scalar {cs : List Char} (h : ∀ c ∈ cs.head?, c ≠ '[' ∧ c ≠ '{') (d : Nat) :
    value? d cs = scalar? cs := by
  have harray : ∀ rest, cs ≠ '[' :: rest := by
    rintro rest rfl
    exact (h '[' rfl).1 rfl
  have hobject : ∀ rest, cs ≠ '{' :: rest := by
    rintro rest rfl
    exact (h '{' rfl).2 rfl
  cases d <;> unfold value? <;> split <;> simp_all

/-- A value is read back from the front of a longer text. -/
theorem value?_compactChars (value : Json) (hintegral : value.isIntegral = true) (d : Nat)
    (hdepth : value.depth ≤ d) : ReadsBack (value? d) value := by
  -- An array or object takes one level of `d`, and its parts are read with what is left.
  induction value using Json.induction generalizing d with
  | null =>
      intro rest _
      exact value?_of_scalar (by simp [compactChars, scalarChars]) d
  | bool b =>
      intro rest _
      cases b <;> exact value?_of_scalar (by simp [compactChars, scalarChars]) d
  | int n =>
      intro rest hrest
      -- No number begins with a bracket, so that it is read as a scalar.
      have hhead : ∀ c ∈ (intChars n ++ rest).head?, c ≠ '[' ∧ c ≠ '{' := by
        rcases exists_lead_intChars n with ⟨c, cs, hchars, rfl | hdigit⟩
        · simp [hchars]
        · simp only [hchars, List.cons_append, List.head?_cons, Option.mem_some_iff,
            forall_eq']
          constructor <;> rintro rfl <;> exact absurd hdigit (by decide)
      exact (value?_of_scalar hhead d).trans (scalar?_intChars hrest hintegral)
  | float x => cases hintegral
  | string s =>
      intro rest _
      have hread : scalar? (quoted s ++ rest) = some (.string s, rest) := by
        calc
          scalar? (quoted s ++ rest)
              = (stringBody? [] ((quoted s).tail ++ rest)).map fun found =>
                  (.string found.1, found.2) := rfl
          _ = some (.string s, rest) := by rw [stringBody?_quoted, Option.map_some]
      exact (value?_of_scalar (by simp [compactChars, scalarChars, quoted]) d).trans hread
  | array items ih =>
      intro rest _
      obtain ⟨d, rfl⟩ := Nat.exists_eq_add_one.2 (Nat.zero_lt_of_lt hdepth)
      have hitems : ∀ item ∈ items, ReadsBack (value? d) item ∧ item.isIntegral = true := by
        intro item hitem
        have hitemIntegral := areIntegral_iff.1 hintegral item hitem
        have hitemDepth := depthOfItems_le_iff.1 (Nat.le_of_succ_le_succ hdepth) item hitem
        exact ⟨ih item hitem hitemIntegral d hitemDepth, hitemIntegral⟩
      simpa [compactChars, value?] using arrayBody?_compact hitems rest
  | object members ih =>
      intro rest _
      obtain ⟨d, rfl⟩ := Nat.exists_eq_add_one.2 (Nat.zero_lt_of_lt hdepth)
      have hmembers : ∀ entry ∈ members,
          ReadsBack (value? d) entry.2 ∧ entry.2.isIntegral = true := by
        intro entry hentry
        have hentryIntegral := membersAreIntegral_iff.1 hintegral entry hentry
        have hentryDepth := depthOfMembers_le_iff.1 (Nat.le_of_succ_le_succ hdepth) entry hentry
        exact ⟨ih entry hentry hentryIntegral d hentryDepth, hentryIntegral⟩
      simpa [compactChars, value?] using objectBody?_compact hmembers rest

/-- The compact text of a value is read as that value. -/
theorem read?_compact {value : Json} (hintegral : value.isIntegral = true)
    (hdepth : value.depth ≤ maxDepth) : read? value.compact = some value := by
  have hskip : skipBlanks value.compactChars = value.compactChars := by
    simpa using skipBlanks_compactChars hintegral []
  have hread : value? maxDepth value.compactChars = some (value, []) := by
    simpa using value?_compactChars value hintegral maxDepth hdepth [] endsValue_nil
  have hend : skipBlanks [] = [] := rfl
  simp [read?, compact, hskip, hread, hend]

end Json
end WebClient
