import WebClient.Gateway.Headers
import WebClient.Proofs.ByteOrder
import WebClient.Proofs.Rows

/-!
# HeaderFields — what stands in the header of a call

A caller may hand over any fields, in any letter case, with repetitions and with texts that no
header can hold.  What comes of them is said here without the loop that goes through them.

* `Headers.Stands` says of a field that it can stand in a header, and `Headers.Gives` which value
  the fields give a name in the end.
* `Headers.isValue_iff`: a value that can stand in a header cannot end its line.
* `Headers.get?_foldl_add` carries both along the fields.
* `header_is_determined`: the header holds the credentials of the token, the content type, and the
  last value of every other name, and nothing else.
-/

namespace WebClient

/-! ## Values, byte by byte -/

namespace Text

/-- Whether a byte is a control character of ASCII. -/
def isControlByte (b : UInt8) : Bool := b < 0x20 || b == 0x7F

/-- The byte of the tab. -/
def tabByte : UInt8 := 0x09

/-- Whether a text holds no control characters but tabs, and with that no line breaks. -/
def IsOneLine (s : String) : Prop := ∀ b ∈ utf8Bytes s, isControlByte b = true → b = tabByte

instance (s : String) : Decidable (IsOneLine s) := List.decidableBAll _ _

theorem isControlByte_iff {b : UInt8} :
    isControlByte b = true ↔ b.toNat < 0x20 ∨ b.toNat = 0x7F := by
  simp [isControlByte, UInt8.lt_iff_toNat_lt, ← UInt8.toNat_inj]

/-- Beyond ASCII a character has no byte that is a control character. -/
theorem not_isControlByte_of_large {c : Char} (h : 0x7F < c.toNat) {b : UInt8}
    (hb : b ∈ String.utf8EncodeChar c) : ¬ isControlByte b = true := by
  have hlarge := le_of_mem_utf8EncodeChar h hb
  rw [isControlByte_iff]
  omega

end Text

namespace Headers

theorem isValueChar_iff (c : Char) :
    isValueChar c = true ↔
      ∀ b ∈ String.utf8EncodeChar c, Text.isControlByte b = true → b = Text.tabByte := by
  by_cases hlarge : 0x7F < c.toNat
  · refine iff_of_true ?_ fun b hb hcontrol =>
      absurd hcontrol (Text.not_isControlByte_of_large hlarge hb)
    have hne : c.toNat ≠ 0x7F := Nat.ne_of_gt hlarge
    have hle : 0x20 ≤ c.toNat := by omega
    simp [isValueChar, hle, hne]
  · exact Text.of_ascii (p := fun c => isValueChar c = true ↔
      ∀ b ∈ String.utf8EncodeChar c, Text.isControlByte b = true → b = Text.tabByte)
      (by decide +kernel) (by omega)

/-- What can stand in a header is on one line. -/
theorem isValue_iff (value : String) : isValue value = true ↔ Text.IsOneLine value := by
  simp only [isValue, Text.IsOneLine, Text.utf8Bytes, Text.utf8, List.all_eq_true, isValueChar_iff,
    List.mem_flatMap, forall_exists_index, and_imp]
  exact ⟨fun h b c hc hb => h c hc b hb, fun h c hc b hb => h b c hc hb⟩

/-! ## Fields that can stand in a header -/

/-- Whether a field can stand in a header: its name is a token, and its value is on one line. -/
def Stands (field : String × String) : Prop := isName field.1 = true ∧ Text.IsOneLine field.2

instance (field : String × String) : Decidable (Stands field) :=
  inferInstanceAs (Decidable (_ ∧ _))

/-- Whether none of the fields with a name, in any letter case, can stand in a header. -/
def Omits (fields : List (String × String)) (name : String) : Prop :=
  ∀ field ∈ fields, Text.lowerAscii field.1 = name → ¬ Stands field

/-- Whether this is the value of the last field with a name, in any letter case, that can stand in a
header. -/
def Gives (fields : List (String × String)) (name value : String) : Prop :=
  ∃ before written after, fields = before ++ (written, value) :: after ∧
    Text.lowerAscii written = name ∧ Stands (written, value) ∧ Omits after name

variable {fields : List (String × String)} {field : String × String} {name value : String}

theorem not_gives_nil : ¬ Gives [] name value := by
  rintro ⟨before, written, after, hfields, -⟩
  simp at hfields

theorem omits_concat_iff :
    Omits (fields ++ [field]) name ↔
      Omits fields name ∧ (Text.lowerAscii field.1 = name → ¬ Stands field) := by
  simp only [Omits, List.forall_mem_append, List.forall_mem_singleton]

/-- Of fields that are cut in two places, the last one is where the first cut is, or behind it. -/
theorem cases_last {before after : List (String × String)} {found : String × String}
    (h : fields ++ [field] = before ++ found :: after) :
    (after = [] ∧ field = found) ∨
      ∃ earlier, after = earlier ++ [field] ∧ fields = before ++ found :: earlier := by
  rcases List.eq_nil_or_concat after with rfl | ⟨earlier, last, rfl⟩
  · exact .inl ⟨rfl, List.singleton_inj.1 (List.append_inj' h rfl).2⟩
  · rw [List.concat_eq_append, ← List.cons_append, ← List.append_assoc] at h
    rcases List.append_inj' h rfl with ⟨hfields, hlast⟩
    exact .inr ⟨earlier, by rw [List.concat_eq_append, hlast], hfields⟩

/-- The last field decides, if it can. -/
theorem gives_concat_iff :
    Gives (fields ++ [field]) name value ↔
      if Text.lowerAscii field.1 = name ∧ Stands field then field.2 = value
      else Gives fields name value := by
  split
  · rename_i hfield
    constructor
    · rintro ⟨before, written, after, hfields, -, -, homits⟩
      -- An earlier field cannot be the last of its name, with this one behind it.
      rcases cases_last hfields with ⟨-, hlast⟩ | ⟨earlier, rfl, -⟩
      · rw [hlast]
      · exact absurd hfield.2 ((omits_concat_iff.1 homits).2 hfield.1)
    · rintro rfl
      exact ⟨fields, field.1, [], rfl, hfield.1, hfield.2, nofun⟩
  · rename_i hfield
    have hsilent : Text.lowerAscii field.1 = name → ¬ Stands field :=
      fun hname hstands => hfield ⟨hname, hstands⟩
    constructor
    · rintro ⟨before, written, after, hfields, hname, hstands, homits⟩
      rcases cases_last hfields with ⟨-, rfl⟩ | ⟨earlier, rfl, hearlier⟩
      · exact absurd hstands (hsilent hname)
      · exact ⟨before, written, earlier, hearlier, hname, hstands, (omits_concat_iff.1 homits).1⟩
    · rintro ⟨before, written, after, rfl, hname, hstands, homits⟩
      exact ⟨before, written, after ++ [field], by simp, hname, hstands,
        omits_concat_iff.2 ⟨homits, hsilent⟩⟩

/-! ## The header, field by field -/

variable {header : Dict String}

theorem add_of_not_stands (h : ¬ Stands field) : add header field = header := by
  have hrefused : (isName field.1 && isValue field.2) = false := by
    rw [Bool.eq_false_iff, Ne, Bool.and_eq_true, isValue_iff]
    exact h
  simp [add, hrefused]

theorem add_of_authorization (h : Text.lowerAscii field.1 = authorization) :
    add header field = header := if_pos h

theorem add_of_stands (h : Stands field) (hname : Text.lowerAscii field.1 ≠ authorization) :
    add header field = Dict.put (Text.lowerAscii field.1) field.2 header := by
  have hstands : (isName field.1 && isValue field.2) = true := by
    rw [Bool.and_eq_true, isValue_iff]
    exact h
  simp [add, hname, hstands]

theorem get?_add (hname : name ≠ authorization) :
    Dict.get? (add header field) name =
      if Text.lowerAscii field.1 = name ∧ Stands field then some field.2
      else Dict.get? header name := by
  by_cases hstands : Stands field
  · by_cases hown : Text.lowerAscii field.1 = authorization
    · have hother : Text.lowerAscii field.1 ≠ name := fun h => hname (h.symm.trans hown)
      simp [add_of_authorization hown, hother]
    · simp [add_of_stands hstands hown, Dict.get?_put, hstands]
  · simp [add_of_not_stands hstands, hstands]

/-- What the fields of a caller make of a header. -/
theorem get?_foldl_add (hname : name ≠ authorization) :
    Dict.get? (fields.foldl add header) name = some value ↔
      Gives fields name value ∨ Omits fields name ∧ Dict.get? header name = some value := by
  -- Both sides are decided by the last field first, so the induction takes the fields from there.
  induction fields using List.reverseRecOn with
  | nil => simp [not_gives_nil, Omits]
  | append_singleton fields field ih =>
      rw [List.foldl_append, List.foldl_cons, List.foldl_nil, get?_add hname, gives_concat_iff,
        omits_concat_iff]
      split
      · rename_i hfield
        have hnot : ¬ (Text.lowerAscii field.1 = name → ¬ Stands field) :=
          fun h => h hfield.1 hfield.2
        simp [hnot]
      · rename_i hfield
        have hsilent : Text.lowerAscii field.1 = name → ¬ Stands field :=
          fun hname hstands => hfield ⟨hname, hstands⟩
        rw [ih, and_iff_left hsilent]

/-- No caller sets the credentials. -/
theorem get?_foldl_add_authorization (fields : List (String × String)) (header : Dict String) :
    Dict.get? (fields.foldl add header) authorization = Dict.get? header authorization := by
  induction fields generalizing header with
  | nil => rfl
  | cons field fields ih =>
      rw [List.foldl_cons, ih]
      by_cases hown : Text.lowerAscii field.1 = authorization
      · rw [add_of_authorization hown]
      · by_cases hstands : Stands field
        · rw [add_of_stands hstands hown, Dict.get?_put, if_neg hown]
        · rw [add_of_not_stands hstands]

theorem ascending_foldl_add (h : header.Ascending) (fields : List (String × String)) :
    (fields.foldl add header).Ascending := by
  induction fields generalizing header with
  | nil => exact h
  | cons field fields ih =>
      refine ih ?_
      unfold add
      dsimp only
      split
      · exact h
      · split
        · exact h.put
        · exact h

theorem ascending_build (fields : List (String × String)) (token : Option String) :
    (build fields token).Ascending := by
  have hfields := ascending_foldl_add (List.pairwise_singleton _ _ : base.Ascending) fields
  unfold build addToken
  split
  · exact hfields
  · split
    · exact hfields.put
    · exact hfields

theorem get?_build (hname : name ≠ authorization) (token : Option String) :
    Dict.get? (build fields token) name = Dict.get? (fields.foldl add base) name := by
  unfold build addToken
  split
  · rfl
  · split
    · rw [Dict.get?_put, if_neg (Ne.symm hname)]
    · rfl

theorem get?_build_authorization (token : Option String) :
    Dict.get? (build fields token) authorization = some value ↔
      ∃ t, token = some t ∧ value = bearer t ∧ Text.IsOneLine (bearer t) := by
  have hfields := get?_foldl_add_authorization fields base
  cases token with
  | none =>
      rw [build, addToken, hfields]
      simp [base, Dict.get?, authorization]
  | some t =>
      simp only [build, addToken, isValue_iff]
      split
      · rename_i hbearer
        simp [Dict.get?_put, hbearer, eq_comm]
      · rename_i hbearer
        rw [hfields]
        simp [base, Dict.get?, authorization, hbearer]

/-- A field that is skipped might as well not be there. -/
theorem build_of_skipped (h : ∀ header, add header field = header) (before after token) :
    build (before ++ field :: after) token = build (before ++ after) token := by
  simp [build, List.foldl_append, h]

/-! ## Names in lower case -/

theorem isNameChar_toLower {c : Char} (h : isNameChar c = true) :
    isNameChar (Text.lowerAsciiChar c) = true := by
  by_cases hc : c.toNat < 128
  · have hlower := Text.of_ascii
      (p := fun c => isNameChar (Text.lowerAsciiChar c) = isNameChar c) (by decide +kernel) hc
    exact hlower.trans h
  · -- Only letters of ASCII have another lower case.
    have hsame : Text.lowerAsciiChar c = c := by
      refine dif_neg fun hupper => hc ?_
      exact Nat.lt_of_le_of_lt hupper.2 (by decide)
    rwa [hsame]

theorem stands_lower (h : Stands field) : Stands (Text.lowerAscii field.1, field.2) := by
  refine ⟨?_, h.2⟩
  rcases Bool.and_eq_true_iff.1 h.1 with ⟨hne, hall⟩
  refine Bool.and_eq_true_iff.2 ⟨by simpa [Text.lowerAscii] using hne, List.all_eq_true.2 ?_⟩
  intro c hc
  rw [Text.lowerAscii, String.toList_ofList] at hc
  rcases List.mem_map.1 hc with ⟨written, hwritten, rfl⟩
  exact isNameChar_toLower (List.all_eq_true.1 hall written hwritten)

theorem Gives.stands (h : Gives fields name value) : Stands (name, value) := by
  rcases h with ⟨before, written, after, rfl, rfl, hstands, -⟩
  have hlower := stands_lower hstands
  exact hlower

/-! ## The header as a whole -/

/-- What stands in the header under a name that is not that of the credentials. -/
theorem mem_build_iff (hname : name ≠ authorization) (token : Option String) :
    (name, value) ∈ build fields token ↔
      Gives fields name value ∨ Omits fields name ∧ (name, value) ∈ base := by
  have hkeys := (ascending_build fields token).nodup_keys
  have hbase : (base.map (·.1)).Nodup := List.nodup_singleton _
  rw [← Dict.get?_eq_some_iff hkeys, get?_build hname, get?_foldl_add hname,
    Dict.get?_eq_some_iff hbase]

theorem mem_build_authorization_iff (token : Option String) :
    (authorization, value) ∈ build fields token ↔
      ∃ t, token = some t ∧ value = bearer t ∧ Text.IsOneLine (bearer t) := by
  rw [← Dict.get?_eq_some_iff (ascending_build fields token).nodup_keys, get?_build_authorization]

theorem stands_of_mem_build {token : Option String} (h : (name, value) ∈ build fields token) :
    Stands (name, value) := by
  by_cases hname : name = authorization
  · subst hname
    rcases (mem_build_authorization_iff token).1 h with ⟨t, -, rfl, hline⟩
    exact ⟨(by decide : isName authorization = true), hline⟩
  · rcases (mem_build_iff hname token).1 h with hgives | ⟨-, hbase⟩
    · exact hgives.stands
    · cases List.mem_singleton.1 hbase
      exact ⟨by decide, by decide⟩

/-- A field that can stand in a header, and is not that of the credentials, is not skipped
everywhere: behind a field of its name with another value, it makes a difference. -/
theorem exists_build_ne (h : Stands field) (hname : Text.lowerAscii field.1 ≠ authorization)
    (token : Option String) :
    ∃ before : List (String × String), build (before ++ [field]) token ≠ build before token := by
  have hother : ∃ other, other ≠ field.2 ∧ Text.IsOneLine other := by
    by_cases hempty : field.2 = ""
    · exact ⟨"-", by rw [hempty]; decide, by decide⟩
    · exact ⟨"", Ne.symm hempty, by decide⟩
  rcases hother with ⟨other, hne, hline⟩
  refine ⟨[(field.1, other)], fun heq => hne ?_⟩
  have hstands : Stands (field.1, other) := ⟨h.1, hline⟩
  have hlast : Dict.get? (build ([(field.1, other)] ++ [field]) token)
      (Text.lowerAscii field.1) = some field.2 := by
    rw [get?_build hname, get?_foldl_add hname, gives_concat_iff, if_pos ⟨rfl, h⟩]
    exact .inl rfl
  have honly : Dict.get? (build [(field.1, other)] token)
      (Text.lowerAscii field.1) = some other := by
    rw [get?_build hname, get?_foldl_add hname]
    exact .inl ⟨[], field.1, [], rfl, rfl, hstands, nofun⟩
  rw [heq, honly] at hlast
  exact Option.some.inj hlast

end Headers

/-- Let a call be made with any fields for its header, in any letter case, and with or without a
token.

* The credentials are in the header exactly if there is a token that can stand in it, and they are
  that token, whatever the fields say.
* The content type is the value of the last field of that name that can stand in a header, or that
  of JSON if there is none; and under every other name the header has the value of the last such
  field of the name, or nothing.  No name stands there twice.
* A field that is not about the credentials is skipped wherever it stands exactly if its name is no
  token, or its value has a control byte other than a tab; and so no value that stands in the header
  can end its line. -/
theorem header_is_determined (fields : List (String × String)) (token : Option String) :
    let header := Headers.build fields token
    (∀ value, ("authorization", value) ∈ header ↔
        ∃ t, token = some t ∧ value = "Bearer " ++ t ∧ Text.IsOneLine ("Bearer " ++ t)) ∧
      (∀ value, ("content-type", value) ∈ header ↔
        Headers.Gives fields "content-type" value ∨
          Headers.Omits fields "content-type" ∧ value = "application/json") ∧
      (∀ name, name ≠ "authorization" → name ≠ "content-type" → ∀ value,
        (name, value) ∈ header ↔ Headers.Gives fields name value) ∧
      (header.map (·.1)).Nodup ∧
      (∀ field : String × String, Text.lowerAscii field.1 ≠ "authorization" →
        ((∀ before after, Headers.build (before ++ field :: after) token =
            Headers.build (before ++ after) token) ↔
          Headers.isName field.1 = false ∨
            ∃ b ∈ Text.utf8Bytes field.2, Text.isControlByte b = true ∧ b ≠ Text.tabByte)) ∧
      ∀ entry ∈ header, Headers.isName entry.1 = true ∧
        ∀ b ∈ Text.utf8Bytes entry.2, Text.isControlByte b = true → b = Text.tabByte := by
  intro header
  refine ⟨fun value => Headers.mem_build_authorization_iff token, fun value => ?_, ?_,
    (Headers.ascending_build fields token).nodup_keys, ?_, ?_⟩
  · rw [Headers.mem_build_iff (by decide) token]
    simp [Headers.base]
  · intro name hname htype value
    rw [Headers.mem_build_iff hname token]
    simp [Headers.base, htype]
  · intro field hname
    have hstands : (Headers.isName field.1 = false ∨
        ∃ b ∈ Text.utf8Bytes field.2, Text.isControlByte b = true ∧ b ≠ Text.tabByte) ↔
          ¬ Headers.Stands field := by
      simp [Headers.Stands, Text.IsOneLine, imp_iff_not_or]
    rw [hstands]
    constructor
    · intro hskipped hfield
      rcases Headers.exists_build_ne hfield hname token with ⟨before, hne⟩
      exact hne (by simpa using hskipped before [])
    · intro hfield before after
      exact Headers.build_of_skipped (fun header => Headers.add_of_not_stands hfield) before after
        token
  · rintro ⟨name, value⟩ hentry
    exact Headers.stands_of_mem_build hentry

/-- A caller tries to set the credentials, to break the line, and to say twice what it sends. -/
example :
    Headers.build [("Authorization", "Bearer forged"), ("X-Note", "a\r\nAuthorization: b"),
      ("Content-Type", "text/plain"), ("content-type", "text/html")] (some "tok123") =
        [("authorization", "Bearer tok123"), ("content-type", "text/html")] := by
  decide +kernel

end WebClient
