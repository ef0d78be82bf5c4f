import Mathlib.Data.List.Permutation
import WebClient.Proofs.PayloadShape
import WebClient.Proofs.Rows

/-!
# WrittenAccount — what is written of an account that was read

An account is read from an object with fields that the client knows and with others that it does not
know.  The order of the members does not matter, and an object is known by what is found in its
canonical form (`Json.object_canonical_ext`).

* `Json.canonical_record`: a record with what it passes through is the object that it was read from,
  up to the fields that it knows.
* `User.decode_canonical` and `SellerProfile.decode_canonical`: what is read from an object is read
  from its canonical form as well.
* `accounts_are_written_back`: an account is written as the object that it was read from, but for a
  role that was missing and for what was `null`.
-/

namespace WebClient

open Json (Decoded Field)

/-! ## Lookups -/

namespace Dict

universe u

variable {α : Type u} {d : Dict α} {key : String}

/-- What is found in a map of pairs is what is found from their end. -/
theorem get?_ofList_eq_reverse (pairs : List (String × α)) (key : String) :
    get? (ofList pairs) key = get? pairs.reverse key := by
  induction pairs using List.reverseRecOn with
  | nil => rfl
  | append_singleton pairs pair ih =>
      rcases pair with ⟨k, v⟩
      rw [List.reverse_append, List.reverse_singleton, List.singleton_append, get?_cons, ← ih,
        ofList, putAll, List.foldl_append, List.foldl_cons, List.foldl_nil, get?_put]
      rfl

theorem Ascending.get?_reverse (h : d.Ascending) (key : String) :
    get? d.reverse key = get? d key := by
  rw [← get?_ofList_eq_reverse, ofList_eq_self h]

/-- If all entries of a key have the value that is found, it is found from the end as well. -/
theorem get?_reverse_of_found (h : ∀ entry ∈ d, entry.1 = key → get? d key = some entry.2) :
    get? d.reverse key = get? d key := by
  cases hlast : get? d.reverse key with
  | some value => exact (h _ (List.mem_reverse.1 (mem_of_get? hlast)) rfl).symm
  | none =>
      refine (get?_eq_none_iff.2 fun entry hentry => ?_).symm
      exact get?_eq_none_iff.1 hlast entry (List.mem_reverse.2 hentry)

theorem get?_filter_of_kept {keep : String × α → Bool}
    (h : ∀ entry ∈ d, entry.1 = key → keep entry = true) :
    get? (d.filter keep) key = get? d key := by
  induction d with
  | nil => rfl
  | cons entry d ih =>
      rcases List.forall_mem_cons.1 h with ⟨hentry, hrest⟩
      rcases entry with ⟨k, v⟩
      cases hkeep : keep (k, v) with
      | true => rw [List.filter_cons_of_pos hkeep, get?_cons, get?_cons, ih hrest]
      | false =>
          have hother : k ≠ key := fun hk => by simp [hentry hk] at hkeep
          rw [List.filter_cons_of_neg (by simp [hkeep]), get?_cons, if_neg hother, ih hrest]

theorem get?_filter_of_dropped {keep : String × α → Bool}
    (h : ∀ entry ∈ d, entry.1 = key → keep entry = false) : get? (d.filter keep) key = none := by
  refine get?_eq_none_iff.2 fun entry hentry hkey => ?_
  rcases List.mem_filter.1 hentry with ⟨hmem, hkept⟩
  simp [h entry hmem hkey] at hkept

end Dict

/-! ## Objects and the records in them -/

namespace Json

variable {fields : List Field} {members known settled : List (String × Json)} {key : String}

theorem find?_canonical (members : List (String × Json)) (key : String) :
    (Json.object members).canonical.find? key =
      (Dict.get? members.reverse key).map canonical := by
  change Dict.get? (Dict.ofList (canonicalMembers members)) key = _
  rw [canonicalMembers_eq_map, Dict.get?_ofList_eq_reverse, ← List.map_reverse, Dict.get?_map]

/-- Objects in which the same is found under every name are the same. -/
theorem object_canonical_ext {members members' : List (String × Json)}
    (h : ∀ key, (Json.object members).canonical.find? key =
      (Json.object members').canonical.find? key) :
    (Json.object members).canonical = (Json.object members').canonical :=
  congrArg Json.object ((Dict.ascending_ofList _).ext (Dict.ascending_ofList _) h)

theorem map_canonical_map (found : Option Json) :
    (found.map canonical).map canonical = found.map canonical := by
  cases found with
  | none => rfl
  | some value => exact congrArg some (canonical_canonical value)

theorem get?_extras (fields : List Field) (members : List (String × Json)) (key : String) :
    Dict.get? (extras fields members) key =
      if fields.any (·.answersTo key) then none
      else (Dict.get? members.reverse key).map canonical := by
  rw [extras, Dict.get?_ofList_eq_reverse, ← List.map_reverse, Dict.get?_map, ← List.filter_reverse]
  split
  · rename_i hknown
    rw [Dict.get?_filter_of_dropped]
    · rfl
    · rintro entry - rfl
      simp [hknown]
  · rename_i hunknown
    rw [Dict.get?_filter_of_kept]
    rintro entry - rfl
    simpa using hunknown

/-- What is passed through does not depend on the order of the members. -/
theorem extras_canonical (fields : List Field) (members : List (String × Json)) :
    extras fields (Dict.ofList (canonicalMembers members)) = extras fields members := by
  refine (Dict.ascending_ofList _).ext (Dict.ascending_ofList _) fun key => ?_
  have hfound : Dict.get? (Dict.ofList (canonicalMembers members)) key =
      (Dict.get? members.reverse key).map canonical := find?_canonical members key
  have hextras := get?_extras fields members key
  have hextras' := get?_extras fields (Dict.ofList (canonicalMembers members)) key
  rw [(Dict.ascending_ofList _).get?_reverse, hfound, map_canonical_map] at hextras'
  exact hextras'.trans hextras.symm

/-- A record that is written together with what it passes through is the object that says the same
about the fields of the record, and about others the same as the object that was read. -/
theorem canonical_record (hknown : ∀ entry ∈ known, fields.any (·.answersTo entry.1) = true)
    (hfields : ∀ key, fields.any (·.answersTo key) = true →
      Dict.get? known.reverse key = Dict.get? settled.reverse key)
    (hothers : ∀ key, fields.any (·.answersTo key) = false →
      Dict.get? settled.reverse key = Dict.get? members.reverse key) :
    (Json.object (known ++ extras fields members)).canonical =
      (Json.object settled).canonical := by
  refine object_canonical_ext fun key => ?_
  have hextras : Dict.get? (extras fields members).reverse key =
      Dict.get? (extras fields members) key := (Dict.ascending_ofList _).get?_reverse key
  rw [find?_canonical, find?_canonical, List.reverse_append, Dict.get?_append, hextras, get?_extras]
  cases hkey : fields.any (·.answersTo key) with
  | true => simp [hfields key hkey]
  | false =>
      -- A field that the record does not know is found only where it is passed through.
      have hnone : Dict.get? known.reverse key = none := by
        refine Dict.get?_eq_none_iff.2 fun entry hentry heq => ?_
        rw [← heq, hknown entry (List.mem_reverse.1 hentry)] at hkey
        cases hkey
      simp only [Bool.false_eq_true, if_false, hnone, Option.or_none, map_canonical_map,
        hothers key hkey]

/-! ### Members of known fields -/

theorem exists_field (h : fields.any (·.answersTo key) = true) :
    ∃ f, fields.find? (·.answersTo key) = some f := by
  refine Option.isSome_iff_exists.1 (List.find?_isSome.2 ?_)
  simpa using h

/-- A known field is met once at most, so that all its members are the one that is found. -/
theorem get?_of_scan {seen : List String} (hscan : scan fields seen members = .ok ())
    (hkey : fields.any (·.answersTo key) = true) :
    ∀ entry ∈ members, entry.1 = key → Dict.get? members key = some entry.2 := by
  rintro ⟨name, value⟩ hentry rfl
  cases hfound : Dict.get? members name with
  | none => exact absurd rfl (Dict.get?_eq_none_iff.1 hfound _ hentry)
  | some found =>
      by_contra hne
      rcases exists_field hkey with ⟨f, hf⟩
      have hdistinct : (name, found) ≠ (name, value) :=
        fun heq => hne (congrArg (some ∘ Prod.snd) heq)
      have hapart : Apart fields (name, found) (name, value) :=
        (scan_eq_ok_iff.1 hscan).2.forall (Dict.mem_of_get? hfound) hentry hdistinct
      exact hapart f f hf hf rfl

theorem get?_reverse_of_scan {seen : List String} (hscan : scan fields seen members = .ok ())
    (hkey : fields.any (·.answersTo key) = true) :
    Dict.get? members.reverse key = Dict.get? members key :=
  Dict.get?_reverse_of_found (get?_of_scan hscan hkey)

theorem get?_canonical_of_scan {seen : List String} (hscan : scan fields seen members = .ok ())
    (hkey : fields.any (·.answersTo key) = true) :
    Dict.get? (Dict.ofList (canonicalMembers members)) key =
      (Dict.get? members key).map canonical := by
  rw [← get?_reverse_of_scan hscan hkey]
  exact find?_canonical members key

/-! ### Reading canonical forms -/

/-- Whether what is read from a value is read from its canonical form as well. -/
def ReadsCanonical {α : Type} (decode : Json → Decoded α) : Prop :=
  ∀ value a, decode value = .ok a → decode value.canonical = .ok a

section Readers

variable {α : Type} {decode : Json → Decoded α} {seen : List String}

theorem readsCanonical_int : ReadsCanonical decodeInt := by
  intro value n h
  cases value with
  | int _ => exact h
  | null | bool _ | float _ | string _ | array _ | object _ => cases h

theorem readsCanonical_text : ReadsCanonical decodeText := by
  rintro value text h
  rw [decodeText_eq_ok_iff.1 h]
  rfl

theorem readsCanonical_optional (h : ReadsCanonical decode) :
    ReadsCanonical (decodeOptional decode) := by
  intro value found hfound
  rcases decodeOptional_eq_ok_iff.1 hfound with ⟨rfl, rfl⟩ | ⟨hpresent, a, ha, rfl⟩
  · rfl
  · refine decodeOptional_eq_ok_iff.2 (.inr ⟨?_, a, h value a ha, rfl⟩)
    cases value with
    | null => exact absurd rfl hpresent
    | bool _ | int _ | float _ | string _ | array _ | object _ => simp [canonical]

theorem readsCanonical_check {name : String} (h : ReadsCanonical decode) :
    ReadsCanonical (Field.of name decode).check := by
  intro value _ hcheck
  cases hdecode : decode value with
  | error e => simp [Field.of, hdecode, Except.map] at hcheck
  | ok a => simp [Field.of, h value a hdecode, Except.map]

theorem scan_canonical (hplain : ∀ f ∈ fields, f.aliases = [])
    (hreads : ∀ f ∈ fields, ReadsCanonical f.check)
    (hscan : scan fields seen members = .ok ()) :
    scan fields [] (Dict.ofList (canonicalMembers members)) = .ok () := by
  refine scan_of_checks hplain (Dict.ascending_ofList _) ?_
  intro entry hentry f hfield
  rcases exists_of_mem_canonical hentry with ⟨source, hsource, rfl⟩
  have hcheck := ((scan_eq_ok_iff.1 hscan).1 source hsource f hfield).2
  exact hreads f (List.mem_of_find?_eq_some hfield) source.2 () hcheck

theorem required_canonical {a : α} (hscan : scan fields seen members = .ok ())
    (hkey : fields.any (·.answersTo key) = true) (hreads : ReadsCanonical decode)
    (h : required members key decode = .ok a) :
    required (Dict.ofList (canonicalMembers members)) key decode = .ok a := by
  rcases required_eq_ok_iff.1 h with ⟨value, hvalue, hdecode⟩
  refine required_eq_ok_iff.2 ⟨value.canonical, ?_, hreads value a hdecode⟩
  rw [get?_canonical_of_scan hscan hkey, hvalue]
  rfl

theorem optional_canonical {default a : α} (hscan : scan fields seen members = .ok ())
    (hkey : fields.any (·.answersTo key) = true) (hreads : ReadsCanonical decode)
    (h : optional members [key] decode default = .ok a) :
    optional (Dict.ofList (canonicalMembers members)) [key] decode default = .ok a := by
  unfold optional at h ⊢
  rw [member?_eq_get?] at h ⊢
  rw [get?_canonical_of_scan hscan hkey]
  cases hvalue : Dict.get? members key with
  | none =>
      simp only [hvalue] at h
      exact h
  | some value =>
      simp only [hvalue] at h
      exact hreads value a h

end Readers

/-! ### Fields that are left out -/

def isNull : Json → Bool
  | .null => true
  | _ => false

/-- The members of an object without those of certain names that are `null`. -/
def withoutNull (names : List String) (members : List (String × Json)) : List (String × Json) :=
  members.filter fun entry => !(names.contains entry.1 && entry.2.isNull)

/-- Without what is `null`, the same is found under every other name. -/
theorem get?_withoutNull_of_not_mem {names : List String} (h : key ∉ names) :
    Dict.get? (withoutNull names members).reverse key = Dict.get? members.reverse key := by
  rw [withoutNull, ← List.filter_reverse]
  refine Dict.get?_filter_of_kept ?_
  rintro entry - rfl
  simp [h]

theorem get?_withoutNull {names : List String} {seen : List String}
    (hscan : scan fields seen members = .ok ()) (hkey : fields.any (·.answersTo key) = true)
    (h : key ∈ names) :
    Dict.get? (withoutNull names members).reverse key =
      (Dict.get? members key).filter (!·.isNull) := by
  have hall := get?_of_scan hscan hkey
  rw [withoutNull, ← List.filter_reverse, ← get?_reverse_of_scan hscan hkey]
  rw [← get?_reverse_of_scan hscan hkey] at hall
  cases hfound : Dict.get? members.reverse key with
  | none =>
      refine Dict.get?_filter_of_dropped fun entry hentry heq => ?_
      exact absurd heq (Dict.get?_eq_none_iff.1 hfound entry hentry)
  | some value =>
      -- All members of this name have the value that is found, and share its fate.
      have hsame : ∀ entry ∈ members.reverse, entry.1 = key → entry.2 = value := by
        intro entry hentry heq
        have hentryFound := hall entry (List.mem_reverse.1 hentry) heq
        exact Option.some.inj (hentryFound.symm.trans hfound)
      cases hnull : value.isNull with
      | true =>
          rw [Dict.get?_filter_of_dropped]
          · simp [Option.filter, hnull]
          · intro entry hentry heq
            simp [heq, h, hsame entry hentry heq, hnull]
      | false =>
          rw [Dict.get?_filter_of_kept, hfound]
          · simp [Option.filter, hnull]
          · intro entry hentry heq
            simp [hsame entry hentry heq, hnull]

/-- An optional field is there exactly if it is found and not `null`. -/
theorem map_encode_of_optional {α : Type} {decode : Json → Decoded α} {encode : α → Json}
    {field? : Option α}
    (hdecode : ∀ value a, decode value = .ok a → value = encode a)
    (h : optional members [key] (decodeOptional decode) none = .ok field?) :
    field?.map encode = (Dict.get? members key).filter (!·.isNull) := by
  unfold optional at h
  rw [member?_eq_get?] at h
  cases hvalue : Dict.get? members key with
  | none =>
      simp only [hvalue] at h
      cases h
      rfl
  | some value =>
      simp only [hvalue] at h
      rcases decodeOptional_eq_ok_iff.1 h with ⟨rfl, rfl⟩ | ⟨hpresent, a, ha, rfl⟩
      · rfl
      · obtain rfl := hdecode value a ha
        have hnull : (encode a).isNull = false := by
          cases hencode : encode a with
          | null => exact absurd hencode hpresent
          | bool _ | int _ | float _ | string _ | array _ | object _ => rfl
        simp [Option.filter, hnull]

theorem get?_written {α : Type} (name : String) (encode : α → Json) (field? : Option α)
    (key : String) : Dict.get? (written name encode field?).reverse key =
      if name = key then field?.map encode else none := by
  cases field? <;> simp [written, Dict.get?_cons]

theorem fst_of_mem_written {α : Type} {name : String} {encode : α → Json} {field? : Option α}
    {entry : String × Json} (h : entry ∈ written name encode field?) : entry.1 = name := by
  rcases Option.map_eq_some_iff.1 (Option.mem_toList.1 h) with ⟨a, -, rfl⟩
  rfl

theorem eq_int_of_decodeInt {value : Json} {n : Int} (h : decodeInt value = .ok n) :
    value = .int n := by
  rcases Envelope.exists_int_iff.1 ⟨n, h⟩ with ⟨code, rfl, hfits⟩
  rw [decodeInt_int hfits] at h
  cases h
  rfl

/-- What is to be made of a record that was read: it is written as an object that says what
`settled` says, it is read from that object whatever the order of the members is, and what it passes
through is under none of the names that it knows. -/
structure WrittenBack {α : Type} (decode : Json → Decoded α) (record : α) (written : Json)
    (extra : Dict Json) (settled : List (String × Json)) (names : List String) : Prop where
  same : written.canonical = (Json.object settled).canonical
  read : decode written = .ok record
  readCanonical : decode written.canonical = .ok record
  unknown : ∀ entry ∈ extra, entry.1 ∉ names

theorem any_answersTo_iff (hplain : ∀ f ∈ fields, f.aliases = []) :
    fields.any (·.answersTo key) = true ↔ key ∈ fields.map (·.name) := by
  rw [List.any_eq_true, List.mem_map]
  refine exists_congr fun f => and_congr_right fun hf => ?_
  simp [Field.answersTo, hplain f hf]

theorem PassedThrough.not_mem_names {extra : Dict Json} (h : PassedThrough fields extra)
    (hplain : ∀ f ∈ fields, f.aliases = []) :
    ∀ entry ∈ extra, entry.1 ∉ fields.map (·.name) := by
  intro entry hentry hname
  have hunknown := h.unknown entry hentry
  rw [(any_answersTo_iff hplain).2 hname] at hunknown
  cases hunknown

end Json

/-! ## Users -/

theorem Role.readsCanonical : Json.ReadsCanonical Role.decode := by
  intro value role h
  cases value with
  | string _ => exact h
  | null | bool _ | int _ | float _ | array _ | object _ => cases h

theorem Role.eq_string_of_decode {value : Json} {role : Role} (h : decode value = .ok role) :
    value = .string role.name := by
  cases value with
  | string s =>
      have hrole : ofName s = role := Except.ok.inj h
      rw [← hrole, name_ofName]
  | null | bool _ | int _ | float _ | array _ | object _ => cases h

namespace User

variable {members : List (String × Json)} {u : User} {key : String}

theorem plain_fields : ∀ f ∈ fields, f.aliases = [] := by
  simp [fields, Field.of]

theorem known_iff : fields.any (·.answersTo key) = true ↔
    key = "id" ∨ key = "username" ∨ key = "role" ∨ key = "email" := by
  rw [Json.any_answersTo_iff plain_fields]
  simp [fields, Field.of]

theorem readsCanonical_fields : ∀ f ∈ fields, Json.ReadsCanonical f.check := by
  simp only [fields, List.forall_mem_cons, List.not_mem_nil, false_imp_iff, implies_true, and_true]
  exact ⟨Json.readsCanonical_check Json.readsCanonical_int,
    Json.readsCanonical_check Json.readsCanonical_text,
    Json.readsCanonical_check Role.readsCanonical,
    Json.readsCanonical_check (Json.readsCanonical_optional Json.readsCanonical_text)⟩

/-- The object that a user is written as: the one it was read from, with the role of a reader where
there was no role, and without an email that was `null`. -/
def settled (members : List (String × Json)) : List (String × Json) :=
  Json.withoutNull ["email"] members ++
    if (Dict.get? members "role").isSome then [] else [("role", .string "reader")]

/-- What an object says that a user is read from. -/
structure ReadFrom (members : List (String × Json)) (u : User) : Prop where
  scan : Json.scan fields [] members = .ok ()
  id : Dict.get? members "id" = some (.int u.id)
  username : Dict.get? members "username" = some (.string u.username)
  role : (Dict.get? members "role").getD (.string "reader") = .string u.role.name
  email : u.email.map .string = (Dict.get? members "email").filter (!·.isNull)
  extra : u.extra = Json.extras fields members

theorem readFrom_of_decode (h : decode (.object members) = .ok u) : ReadFrom members u := by
  simp only [decode, decodeMembers, Json.Decoded.bind_eq_ok_iff] at h
  obtain ⟨_, hscan, id, hid, username, hname, role, hrole, email, hemail, hu⟩ := h
  cases hu
  refine ⟨hscan, ?_, ?_, ?_, ?_, rfl⟩
  · rcases Json.required_eq_ok_iff.1 hid with ⟨value, hvalue, hdecode⟩
    rw [hvalue, Json.eq_int_of_decodeInt hdecode]
  · rcases Json.required_eq_ok_iff.1 hname with ⟨value, hvalue, hdecode⟩
    rw [hvalue, Json.decodeText_eq_ok_iff.1 hdecode]
  · unfold Json.optional at hrole
    rw [Json.member?_eq_get?] at hrole
    cases hvalue : Dict.get? members "role" with
    | none =>
        simp only [hvalue] at hrole
        cases hrole
        rfl
    | some value =>
        simp only [hvalue] at hrole
        exact Role.eq_string_of_decode hrole
  · exact Json.map_encode_of_optional (fun _ _ => Json.decodeText_eq_ok_iff.1) hemail

theorem get?_settled (h : ReadFrom members u) (hkey : fields.any (·.answersTo key) = true) :
    Dict.get? (settled members).reverse key =
      if key = "role" then some (.string u.role.name)
      else if key = "email" then u.email.map .string
      else Dict.get? members key := by
  have hrole := h.role
  rw [settled, List.reverse_append, Dict.get?_append]
  -- What is added stands last, and is found first.
  by_cases hemail : key = "email"
  · subst hemail
    rw [Json.get?_withoutNull h.scan hkey (by simp), h.email]
    split <;> simp [Dict.get?_cons]
  · rw [Json.get?_withoutNull_of_not_mem (by simpa using hemail),
      Json.get?_reverse_of_scan h.scan hkey]
    by_cases hkeyRole : key = "role"
    · subst hkeyRole
      cases hfound : Dict.get? members "role" <;> simp_all [Dict.get?_cons]
    · have hother : "role" ≠ key := Ne.symm hkeyRole
      rw [if_neg hkeyRole, if_neg hemail]
      split <;> simp [Dict.get?_cons, hother]

theorem get?_settled_of_unknown (hkey : fields.any (·.answersTo key) = false) :
    Dict.get? (settled members).reverse key = Dict.get? members.reverse key := by
  have hother := (Bool.eq_false_iff.1 hkey).imp known_iff.2
  have hrole : "role" ≠ key := fun heq => hother (by simp [← heq])
  have hemail : key ≠ "email" := fun heq => hother (by simp [heq])
  rw [settled, List.reverse_append, Dict.get?_append,
    Json.get?_withoutNull_of_not_mem (by simpa using hemail)]
  split <;> simp [Dict.get?_cons, hrole]

/-- The fields of the record, as they are written. -/
def written (u : User) : List (String × Json) :=
  [("id", .int u.id), ("username", .string u.username), ("role", .string u.role.name)] ++
    Json.written "email" Json.string u.email

theorem get?_written (h : ReadFrom members u) (key : String)
    (hkey : fields.any (·.answersTo key) = true) :
    Dict.get? u.written.reverse key = Dict.get? (settled members).reverse key := by
  rw [get?_settled h hkey, written, List.reverse_append, Dict.get?_append, Json.get?_written]
  rcases known_iff.1 hkey with rfl | rfl | rfl | rfl
  · simp [Dict.get?_cons, h.id]
  · simp [Dict.get?_cons, h.username]
  · simp [Dict.get?_cons]
  · simp [Dict.get?_cons]

theorem known_written (u : User) :
    ∀ entry ∈ u.written, fields.any (·.answersTo entry.1) = true := by
  refine List.forall_mem_append.2 ⟨?_, fun entry hentry => ?_⟩
  · simp [fields, Field.of, Field.answersTo]
  · rw [Json.fst_of_mem_written hentry]
    decide

theorem toJson_canonical (h : ReadFrom members u) :
    u.toJson.canonical = (Json.object (settled members)).canonical := by
  have hwritten : u.toJson = .object (u.written ++ Json.extras fields members) := by
    rw [← h.extra]
    rfl
  rw [hwritten]
  exact Json.canonical_record u.known_written (get?_written h) fun _ => get?_settled_of_unknown

/-- A user that is read from a value is read from its canonical form as well. -/
theorem decode_canonical {value : Json} (h : decode value = .ok u) :
    decode value.canonical = .ok u := by
  cases value with
  | object members =>
      simp only [decode, decodeMembers, Json.Decoded.bind_eq_ok_iff] at h
      obtain ⟨_, hscan, id, hid, username, hname, role, hrole, email, hemail, hu⟩ := h
      rw [← Json.extras_canonical] at hu
      simp only [Json.canonical, decode, decodeMembers, Json.Decoded.bind_eq_ok_iff]
      exact ⟨(), Json.scan_canonical plain_fields readsCanonical_fields hscan,
        id, Json.required_canonical hscan (by decide) Json.readsCanonical_int hid,
        username, Json.required_canonical hscan (by decide) Json.readsCanonical_text hname,
        role, Json.optional_canonical hscan (by decide) Role.readsCanonical hrole,
        email, Json.optional_canonical hscan (by decide)
          (Json.readsCanonical_optional Json.readsCanonical_text) hemail, hu⟩
  | null | bool _ | int _ | float _ | string _ | array _ => cases h

theorem writtenBack (h : decode (.object members) = .ok u) :
    Json.WrittenBack decode u u.toJson u.extra (settled members)
      ["id", "username", "role", "email"] where
  same := toJson_canonical (readFrom_of_decode h)
  read := decode_toJson (wellFormed_of_decode h)
  readCanonical := decode_canonical (decode_toJson (wellFormed_of_decode h))
  unknown := (wellFormed_of_decode h).extra.not_mem_names plain_fields

end User

/-! ## Seller profiles -/

namespace SellerProfile

variable {members : List (String × Json)} {p : SellerProfile} {key : String}

theorem plain_fields : ∀ f ∈ fields, f.aliases = [] := by
  simp [fields, Field.of]

theorem known_iff : fields.any (·.answersTo key) = true ↔
    key = "id" ∨ key = "shop_name" ∨ key = "status" := by
  rw [Json.any_answersTo_iff plain_fields]
  simp [fields, Field.of]

theorem readsCanonical_fields : ∀ f ∈ fields, Json.ReadsCanonical f.check := by
  have hint := Json.readsCanonical_optional Json.readsCanonical_int
  have htext := Json.readsCanonical_optional Json.readsCanonical_text
  simp only [fields, List.forall_mem_cons, List.not_mem_nil, false_imp_iff, implies_true, and_true]
  exact ⟨Json.readsCanonical_check hint, Json.readsCanonical_check htext,
    Json.readsCanonical_check hint⟩

/-- The object that a seller profile is written as: the one it was read from, without any field that
was `null`. -/
def settled (members : List (String × Json)) : List (String × Json) :=
  Json.withoutNull ["id", "shop_name", "status"] members

/-- What an object says that a seller profile is read from. -/
structure ReadFrom (members : List (String × Json)) (p : SellerProfile) : Prop where
  scan : Json.scan fields [] members = .ok ()
  id : p.id.map .int = (Dict.get? members "id").filter (!·.isNull)
  shopName : p.shopName.map .string = (Dict.get? members "shop_name").filter (!·.isNull)
  status : p.status.map .int = (Dict.get? members "status").filter (!·.isNull)
  extra : p.extra = Json.extras fields members

theorem readFrom_of_decode (h : decode (.object members) = .ok p) : ReadFrom members p := by
  simp only [decode, decodeMembers, Json.Decoded.bind_eq_ok_iff] at h
  obtain ⟨_, hscan, id, hid, shopName, hname, status, hstatus, hp⟩ := h
  cases hp
  exact ⟨hscan, Json.map_encode_of_optional (fun _ _ => Json.eq_int_of_decodeInt) hid,
    Json.map_encode_of_optional (fun _ _ => Json.decodeText_eq_ok_iff.1) hname,
    Json.map_encode_of_optional (fun _ _ => Json.eq_int_of_decodeInt) hstatus, rfl⟩

/-- The fields of the record, as they are written. -/
def written (p : SellerProfile) : List (String × Json) :=
  Json.written "id" Json.int p.id ++ Json.written "shop_name" Json.string p.shopName ++
    Json.written "status" Json.int p.status

theorem get?_written (h : ReadFrom members p) (key : String)
    (hkey : fields.any (·.answersTo key) = true) :
    Dict.get? p.written.reverse key = Dict.get? (settled members).reverse key := by
  have hname := known_iff.1 hkey
  rw [settled, Json.get?_withoutNull h.scan hkey (by simpa using hname)]
  simp only [written, List.reverse_append, Dict.get?_append, Json.get?_written]
  rcases hname with rfl | rfl | rfl
  · simp [h.id]
  · simp [h.shopName]
  · simp [h.status]

theorem known_written (p : SellerProfile) :
    ∀ entry ∈ p.written, fields.any (·.answersTo entry.1) = true := by
  refine List.forall_mem_append.2 ⟨List.forall_mem_append.2 ⟨?_, ?_⟩, ?_⟩
  all_goals
    intro entry hentry
    rw [Json.fst_of_mem_written hentry]
    decide

theorem toJson_canonical (h : ReadFrom members p) :
    p.toJson.canonical = (Json.object (settled members)).canonical := by
  have hwritten : p.toJson = .object (p.written ++ Json.extras fields members) := by
    rw [← h.extra]
    rfl
  rw [hwritten]
  refine Json.canonical_record p.known_written (get?_written h) fun key hkey => ?_
  refine Json.get?_withoutNull_of_not_mem fun hname => ?_
  exact Bool.eq_false_iff.1 hkey (known_iff.2 (by simpa using hname))

/-- A seller profile that is read from a value is read from its canonical form as well. -/
theorem decode_canonical {value : Json} (h : decode value = .ok p) :
    decode value.canonical = .ok p := by
  have hint := Json.readsCanonical_optional Json.readsCanonical_int
  have htext := Json.readsCanonical_optional Json.readsCanonical_text
  cases value with
  | object members =>
      simp only [decode, decodeMembers, Json.Decoded.bind_eq_ok_iff] at h
      obtain ⟨_, hscan, id, hid, shopName, hname, status, hstatus, hp⟩ := h
      rw [← Json.extras_canonical] at hp
      simp only [Json.canonical, decode, decodeMembers, Json.Decoded.bind_eq_ok_iff]
      exact ⟨(), Json.scan_canonical plain_fields readsCanonical_fields hscan,
        id, Json.optional_canonical hscan (by decide) hint hid,
        shopName, Json.optional_canonical hscan (by decide) htext hname,
        status, Json.optional_canonical hscan (by decide) hint hstatus, hp⟩
  | null | bool _ | int _ | float _ | string _ | array _ => cases h

theorem writtenBack (h : decode (.object members) = .ok p) :
    Json.WrittenBack decode p p.toJson p.extra (settled members) ["id", "shop_name", "status"] where
  same := toJson_canonical (readFrom_of_decode h)
  read := decode_toJson (wellFormed_of_decode h)
  readCanonical := decode_canonical (decode_toJson (wellFormed_of_decode h))
  unknown := (wellFormed_of_decode h).extra.not_mem_names plain_fields

end SellerProfile

/-! ## Accounts -/

/-- Whatever object a user is read from, the user is written as that object, with the role of a
reader if there was no role, and without an email that was `null`.  Whatever object a seller profile
is read from, it is written as that object without the fields of its own that were `null`.  Both are
read again from what is written, and pass nothing through that they know. -/
theorem accounts_are_written_back (members : List (String × Json)) :
    (∀ u, User.decode (.object members) = .ok u →
      Json.WrittenBack User.decode u u.toJson u.extra (User.settled members)
        ["id", "username", "role", "email"]) ∧
    (∀ p, SellerProfile.decode (.object members) = .ok p →
      Json.WrittenBack SellerProfile.decode p p.toJson p.extra (SellerProfile.settled members)
        ["id", "shop_name", "status"]) :=
  ⟨fun _ => User.writtenBack, fun _ => SellerProfile.writtenBack⟩

/-- An object with a role that the client does not know and with a badge, read as a user and as a
seller profile.  Only the user knows of an email, and leaves it out. -/
theorem badge_is_written_back :
    let badge : Json := .object [("rank", .null), ("since", .array [.int 2019, .object []])]
    let members : List (String × Json) :=
      [("username", .string "alice"), ("role", .string "editor"), ("email", .null), ("id", .int 7),
       ("badge", badge)]
    let u : User := ⟨7, "alice", .other "editor", none, [("badge", badge)]⟩
    let p : SellerProfile := ⟨some 7, none, none, [("badge", badge), ("email", .null),
      ("role", .string "editor"), ("username", .string "alice")]⟩
    User.decode (.object members) = .ok u ∧ SellerProfile.decode (.object members) = .ok p ∧
      u.toJson.canonical = .object [("badge", badge), ("id", .int 7), ("role", .string "editor"),
        ("username", .string "alice")] ∧
      p.toJson.canonical = (Json.object members).canonical := by
  intro badge members u p
  have huser : User.decode (.object members) = .ok u := by rfl
  have hseller : SellerProfile.decode (.object members) = .ok p := by cbv
  have h := accounts_are_written_back members
  exact ⟨huser, hseller, (h.1 u huser).same.trans (by cbv),
    (h.2 p hseller).same⟩

end WebClient
