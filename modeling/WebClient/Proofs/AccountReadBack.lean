import WebClient.Account.Codec
import WebClient.Proofs.JsonReadBack

/-!
# AccountReadBack — users and seller profiles survive the store

A user that was decoded from whatever value is written as an object from which it is decoded again
(`User.decode_toJson`), and so is a seller profile.  What makes this work is kept as `WellFormed`:
numbers fit 64 bits, the role is the one that its name denotes, and what the client passes through
holds no field that the client knows.

`User.decodeStored?_compact` and `SellerProfile.decodeStored?_compact` add the writing and the
reading of the text.
-/

namespace WebClient

open Json (Decoded Field)

/-! ## Records -/

namespace Json

theorem Decoded.bind_eq_ok_iff {α β : Type} {x : Decoded α} {f : α → Decoded β} {b : β} :
    x >>= f = .ok b ↔ ∃ a, x = .ok a ∧ f a = .ok b := by
  cases x with
  | error e => simp [bind, Except.bind]
  | ok a => simp [bind, Except.bind]

theorem member?_append (names : List String) (before after : List (String × Json)) :
    member? names (before ++ after) = (member? names before).or (member? names after) := by
  simp [member?, List.find?_append, Option.map_or]

/-- What a record passes through: an object in canonical form without any field that the record
knows. -/
structure PassedThrough (fields : List Field) (extra : Dict Json) : Prop where
  ascending : extra.Ascending
  canonical : ∀ entry ∈ extra, entry.2.canonical = entry.2
  unknown : ∀ entry ∈ extra, fields.any (·.answersTo entry.1) = false

variable {fields : List Field} {extra known : Dict Json}

theorem passedThrough_extras (fields : List Field) (members : List (String × Json)) :
    PassedThrough fields (extras fields members) where
  ascending := Dict.ascending_ofList _
  canonical := by
    intro entry hentry
    rcases List.mem_map.1 (Dict.mem_of_mem_ofList hentry) with ⟨source, -, rfl⟩
    exact canonical_canonical source.2
  unknown := by
    intro entry hentry
    rcases List.mem_map.1 (Dict.mem_of_mem_ofList hentry) with ⟨source, hsource, rfl⟩
    simpa using (List.mem_filter.1 hsource).2

section Fields

variable {α : Type} {decode : Json → Decoded α} {members : List (String × Json)} {a : α}

theorem exists_of_member? {names : List String} {value : Json}
    (h : member? names members = some value) : ∃ entry ∈ members, entry.2 = value := by
  rcases Option.map_eq_some_iff.1 h with ⟨entry, hentry, hvalue⟩
  exact ⟨entry, List.mem_of_find?_eq_some hentry, hvalue⟩

theorem exists_of_required {name : String} (h : required members name decode = .ok a) :
    ∃ entry ∈ members, decode entry.2 = .ok a := by
  unfold required at h
  split at h
  · rename_i value hvalue
    rcases exists_of_member? hvalue with ⟨entry, hentry, rfl⟩
    exact ⟨entry, hentry, h⟩
  · cases h

theorem exists_of_optional {names : List String} {default : α}
    (h : optional members names decode default = .ok a) :
    a = default ∨ ∃ entry ∈ members, decode entry.2 = .ok a := by
  unfold optional at h
  split at h
  · rename_i value hvalue
    rcases exists_of_member? hvalue with ⟨entry, hentry, rfl⟩
    exact .inr ⟨entry, hentry, h⟩
  · cases h
    exact .inl rfl

theorem exists_of_decodeOptional {value : Json} (h : decodeOptional decode value = .ok (some a)) :
    decode value = .ok a := by
  unfold decodeOptional at h
  split at h
  · cases h
  · cases hdecode : decode value with
    | error e => simp [hdecode, Except.map] at h
    | ok b => simpa [hdecode, Except.map] using h

/-- The member by which an optional field is written, if it is. -/
def written (name : String) (encode : α → Json) (field? : Option α) : List (String × Json) :=
  (field?.map fun a => (name, encode a)).toList

theorem member?_written_of_ne {name other : String} (h : name ≠ other) (encode : α → Json)
    (field? : Option α) : member? [other] (written name encode field?) = none := by
  cases field? <;> simp [written, member?, h]

/-- An optional field is read back, whether it was written or not. -/
theorem optional_written {name : String} {before after : List (String × Json)} {field? : Option α}
    {encode : α → Json} (hbefore : member? [name] before = none)
    (hafter : member? [name] after = none)
    (hdecode : ∀ a ∈ field?, encode a ≠ .null ∧ decode (encode a) = .ok a) :
    optional (before ++ (written name encode field? ++ after)) [name] (decodeOptional decode) none =
      .ok field? := by
  cases field? with
  | none => simp [optional, written, member?_append, hbefore, hafter]
  | some a =>
      rcases hdecode a rfl with ⟨hpresent, ha⟩
      -- Were it written as `null`, it would be read as if it had not been written.
      have hvalue : decodeOptional decode (encode a) = .ok (some a) := by
        unfold decodeOptional
        split
        · exact absurd ‹_› hpresent
        · rw [ha]
          rfl
      have hmember : member? [name] ((name, encode a) :: after) = some (encode a) := by
        simp [member?]
      simp [optional, written, member?_append, hbefore, hmember, hvalue]

theorem isInt64_of_decodeInt {value : Json} {n : Int} (h : decodeInt value = .ok n) :
    isInt64 n = true := by
  cases value with
  | int m =>
      cases hm : isInt64 m with
      | false => simp [decodeInt, int64?, hm] at h
      | true =>
          have heq : m = n := by simpa [decodeInt, int64?, hm] using h
          exact heq ▸ hm
  | null | bool _ | float _ | string _ | array _ | object _ => cases h

theorem isInt64_of_optional {name : String} {field? : Option Int}
    (h : optional members [name] (decodeOptional decodeInt) none = .ok field?) :
    ∀ n ∈ field?, isInt64 n = true := by
  rintro n rfl
  rcases exists_of_optional h with hnone | ⟨entry, -, hvalue⟩
  · cases hnone
  · exact isInt64_of_decodeInt (exists_of_decodeOptional hvalue)

theorem decodeInt_int {n : Int} (h : isInt64 n = true) : decodeInt (.int n) = .ok n := by
  simp [decodeInt, int64?, h]

end Fields

/-- Nothing that is passed through is nested as deep as the object that it was found in. -/
theorem depth_extras_lt (fields : List Field) (members : List (String × Json)) :
    depthOfMembers (extras fields members) < (Json.object members).depth := by
  -- What is kept is made canonical, which does not nest it any deeper.
  refine Nat.lt_succ_of_le (depthOfMembers_le_iff.2 ?_)
  intro entry hentry
  rcases List.mem_map.1 (Dict.mem_of_mem_ofList hentry) with ⟨source, hsource, rfl⟩
  have hmem : source ∈ members := (List.mem_filter.1 hsource).1
  exact (depth_canonical_le source.2).trans (depthOfMembers_le_iff.1 (Nat.le_refl _) source hmem)

theorem isIntegral_int {n : Int} (h : isInt64 n = true) : (Json.int n).isIntegral = true := by
  have hrange : minInt64 ≤ n ∧ n ≤ maxInt64 := by
    simpa only [isInt64, Bool.and_eq_true, decide_eq_true_eq] using h
  have hlimit : maxInt64 < Literal.wordLimit := by decide
  simp only [isIntegral, Bool.and_eq_true, decide_eq_true_eq]
  omega

theorem written_scalar {α : Type} {name : String} {encode : α → Json} {field? : Option α}
    (h : ∀ a ∈ field?, (encode a).isIntegral = true ∧ (encode a).depth = 0) :
    ∀ entry ∈ written name encode field?, entry.2.isIntegral = true ∧ entry.2.depth = 0 := by
  cases field? with
  | none => simp [written]
  | some a => simpa [written] using h a rfl

/-- The text of a record of scalar fields, with what it passes through, is read as that record. -/
theorem decodeStored?_record {α : Type} (decode : Json → Decoded α)
    (hknown : ∀ entry ∈ known, entry.2.isIntegral = true ∧ entry.2.depth = 0)
    (hextra : membersAreIntegral extra = true) (hdepth : depthOfMembers extra < maxDepth) :
    decodeStored? decode (Json.object (known ++ extra)).compact =
      (decode (.object (known ++ extra))).toOption := by
  have hintegral : (Json.object (known ++ extra)).isIntegral = true := by
    refine membersAreIntegral_iff.2 ?_
    intro entry hentry
    rcases List.mem_append.1 hentry with hentry | hentry
    · exact (hknown entry hentry).1
    · exact membersAreIntegral_iff.1 hextra entry hentry
  -- Only what is passed through is nested at all.
  have hnested : depthOfMembers (known ++ extra) ≤ depthOfMembers extra := by
    refine depthOfMembers_le_iff.2 ?_
    intro entry hentry
    rcases List.mem_append.1 hentry with hentry | hentry
    · exact (hknown entry hentry).2.trans_le (Nat.zero_le _)
    · exact depthOfMembers_le_iff.1 (Nat.le_refl _) entry hentry
  have hbound : (Json.object (known ++ extra)).depth ≤ maxDepth :=
    Nat.succ_le_of_lt (Nat.lt_of_le_of_lt hnested hdepth)
  simp [decodeStored?, read?_compact hintegral hbound]

namespace PassedThrough

theorem scan (h : PassedThrough fields extra) (seen : List String) :
    Json.scan fields seen extra = .ok () := by
  have hunknown := h.unknown
  clear h
  -- No entry answers to a field, so that the fields seen stay the same.
  induction extra generalizing seen with
  | nil => rfl
  | cons entry rest ih =>
      rcases List.forall_mem_cons.1 hunknown with ⟨hentry, hrest⟩
      have hfind : fields.find? (·.answersTo entry.1) = none := by
        simpa using hentry
      simpa [Json.scan, hfind] using ih seen hrest

theorem scan_append (h : PassedThrough fields extra) {seen : List String}
    (hknown : Json.scan fields seen known = .ok ()) :
    Json.scan fields seen (known ++ extra) = .ok () := by
  -- The scan of the known part is followed to its end, where that of the rest begins.
  induction known generalizing seen with
  | nil => exact h.scan seen
  | cons entry rest ih =>
      rw [List.cons_append]
      unfold Json.scan at hknown ⊢
      split at hknown
      · exact ih hknown
      · split at hknown
        · cases hknown
        · rename_i hseen
          rw [if_neg hseen]
          split at hknown
          · cases hknown
          · exact ih hknown

/-- A known field that was not written is not found among what is passed through. -/
theorem member?_eq_none (h : PassedThrough fields extra) {name : String}
    (hname : fields.any (·.answersTo name) = true) : member? [name] extra = none := by
  have hother : ∀ entry ∈ extra, ¬ entry.1 = name := by
    rintro entry hentry rfl
    exact absurd hname (by simp [h.unknown entry hentry])
  simpa [member?] using hother

/-- A known field is read back from between the others, whether it was written or not. -/
theorem optional_written (h : PassedThrough fields extra) {α : Type} {decode : Json → Decoded α}
    {name : String} {before after : List (String × Json)} {field? : Option α} {encode : α → Json}
    (hname : fields.any (·.answersTo name) = true) (hbefore : member? [name] before = none)
    (hafter : member? [name] after = none)
    (hdecode : ∀ a ∈ field?, encode a ≠ .null ∧ decode (encode a) = .ok a) :
    optional (before ++ written name encode field? ++ after ++ extra) [name]
      (decodeOptional decode) none = .ok field? := by
  have hrest : member? [name] (after ++ extra) = none := by
    rw [member?_append, hafter, h.member?_eq_none hname]
    rfl
  simpa using Json.optional_written hbefore hrest hdecode

theorem extras_append (h : PassedThrough fields extra)
    (hknown : ∀ entry ∈ known, fields.any (·.answersTo entry.1) = true) :
    extras fields (known ++ extra) = extra := by
  -- One part is dropped as a whole; the other is kept, and is a canonical map already.
  have hdropped : known.filter (fun entry => !fields.any (·.answersTo entry.1)) = [] := by
    simpa using hknown
  have hkept : extra.filter (fun entry => !fields.any (·.answersTo entry.1)) = extra := by
    simpa using h.unknown
  rw [extras, List.filter_append, hdropped, hkept, List.nil_append,
    map_canonical_eq_self h.canonical, Dict.ofList_eq_self h.ascending]

end PassedThrough
end Json

/-! ## Users -/

theorem Role.ofName_name_of_decode {value : Json} {role : Role} (h : decode value = .ok role) :
    ofName role.name = role := by
  cases value with
  | string s =>
      have hrole : ofName s = role := Except.ok.inj h
      rw [← hrole, name_ofName]
  | null | bool _ | int _ | float _ | array _ | object _ => cases h

namespace User

/-- What decoding makes sure of. -/
structure WellFormed (u : User) : Prop where
  id : Json.isInt64 u.id = true
  role : Role.ofName u.role.name = u.role
  extra : Json.PassedThrough User.fields u.extra

theorem wellFormed_of_decode {value : Json} {u : User} (h : decode value = .ok u) :
    u.WellFormed := by
  cases value with
  | object members =>
      simp only [decode, decodeMembers, Json.Decoded.bind_eq_ok_iff] at h
      obtain ⟨_, _, id, hid, username, _, role, hrole, email, _, hu⟩ := h
      cases hu
      refine ⟨?_, ?_, Json.passedThrough_extras _ _⟩
      · rcases Json.exists_of_required hid with ⟨entry, -, hvalue⟩
        exact Json.isInt64_of_decodeInt hvalue
      · rcases Json.exists_of_optional hrole with rfl | ⟨entry, -, hvalue⟩
        · rfl
        · exact Role.ofName_name_of_decode hvalue
  | null | bool _ | int _ | float _ | string _ | array _ => cases h

theorem decode_toJson {u : User} (h : u.WellFormed) : decode u.toJson = .ok u := by
  rcases u with ⟨id, username, role, email, extra⟩
  rcases h with ⟨hid, hrole, hextra⟩
  replace hid : Json.decodeInt (.int id) = .ok id := Json.decodeInt_int hid
  replace hrole : Role.decode (.string role.name) = .ok role := congrArg Except.ok hrole
  -- Only the email may be missing; the other fields are always written.
  let known : List (String × Json) :=
    [("id", .int id), ("username", .string username), ("role", .string role.name)] ++
      Json.written "email" Json.string email
  -- The fields of the record are accepted one by one, and those passed through are none of them.
  have hscan : Json.scan fields [] (known ++ extra) = .ok () := by
    refine hextra.scan_append ?_
    cases email <;> simp [known, Json.written, Json.scan, fields, Field.of, Field.answersTo, hid,
      hrole, Except.map, Json.decodeOptional, Json.decodeText, Json.string?]
  have hextras : Json.extras fields (known ++ extra) = extra := by
    refine hextra.extras_append ?_
    cases email <;> simp [known, Json.written, fields, Field.of, Field.answersTo]
  have hreadId : Json.required (known ++ extra) "id" Json.decodeInt = .ok id := hid
  have hreadName : Json.required (known ++ extra) "username" Json.decodeText = .ok username := rfl
  have hreadRole : Json.optional (known ++ extra) ["role"] Role.decode .reader = .ok role := hrole
  have hreadEmail : Json.optional (known ++ extra) ["email"]
      (Json.decodeOptional Json.decodeText) none = .ok email := by
    have hbefore : Json.member? ["email"] [("id", Json.int id), ("username", .string username),
        ("role", .string role.name)] = none := rfl
    have hafter : Json.member? ["email"] [] = none := rfl
    simpa [known] using hextra.optional_written (by decide) hbefore hafter
      fun text _ => ⟨Json.noConfusion, (rfl : Json.decodeText (.string text) = .ok text)⟩
  calc
    decode (toJson ⟨id, username, role, email, extra⟩) = decodeMembers (known ++ extra) := rfl
    _ = .ok ⟨id, username, role, email, extra⟩ := by
          simp only [decodeMembers, hscan, hreadId, hreadName, hreadRole, hreadEmail, hextras]
          rfl

theorem depth_extra_lt {value : Json} {u : User} (h : decode value = .ok u) :
    Json.depthOfMembers u.extra < value.depth := by
  cases value with
  | object members =>
      simp only [decode, decodeMembers, Json.Decoded.bind_eq_ok_iff] at h
      obtain ⟨_, _, _, _, _, _, _, _, _, _, hu⟩ := h
      cases hu
      exact Json.depth_extras_lt _ _
  | null | bool _ | int _ | float _ | string _ | array _ => cases h

/-- A user that was decoded from a value that texts can hold is read back from its own text. -/
theorem decodeStored?_compact {value : Json} {u : User} (h : decode value = .ok u)
    (hdepth : value.depth ≤ Json.maxDepth) (hextra : Json.membersAreIntegral u.extra = true) :
    decodeStored? decode u.toJson.compact = some u := by
  have hwellFormed : u.WellFormed := wellFormed_of_decode h
  have hnested : Json.depthOfMembers u.extra < Json.maxDepth :=
    Nat.lt_of_lt_of_le (depth_extra_lt h) hdepth
  -- The fields of the record have values of depth zero, with numbers that fit.
  have hscalars : ∀ entry ∈ [("id", Json.int u.id), ("username", .string u.username),
      ("role", .string u.role.name)] ++ Json.written "email" Json.string u.email,
      entry.2.isIntegral = true ∧ entry.2.depth = 0 := by
    refine List.forall_mem_append.2 ⟨?_, Json.written_scalar fun _ _ => ⟨rfl, rfl⟩⟩
    refine List.forall_mem_cons.2 ⟨⟨Json.isIntegral_int hwellFormed.id, rfl⟩, ?_⟩
    intro entry hentry
    rcases List.mem_pair.1 hentry with rfl | rfl <;> exact ⟨rfl, rfl⟩
  calc
    decodeStored? decode u.toJson.compact = (decode u.toJson).toOption :=
          Json.decodeStored?_record decode hscalars hextra hnested
    _ = some u := by rw [decode_toJson hwellFormed, Except.toOption]

end User

/-! ## Seller profiles -/

namespace SellerProfile

/-- What decoding makes sure of. -/
structure WellFormed (p : SellerProfile) : Prop where
  id : ∀ id ∈ p.id, Json.isInt64 id = true
  status : ∀ status ∈ p.status, Json.isInt64 status = true
  extra : Json.PassedThrough SellerProfile.fields p.extra

theorem wellFormed_of_decode {value : Json} {p : SellerProfile} (h : decode value = .ok p) :
    p.WellFormed := by
  cases value with
  | object members =>
      simp only [decode, decodeMembers, Json.Decoded.bind_eq_ok_iff] at h
      obtain ⟨_, _, id, hid, shopName, _, status, hstatus, hp⟩ := h
      cases hp
      exact ⟨Json.isInt64_of_optional hid, Json.isInt64_of_optional hstatus,
        Json.passedThrough_extras _ _⟩
  | null | bool _ | int _ | float _ | string _ | array _ => cases h

theorem decode_toJson {p : SellerProfile} (h : p.WellFormed) : decode p.toJson = .ok p := by
  rcases p with ⟨id, shopName, status, extra⟩
  rcases h with ⟨hid, hstatus, hextra⟩
  have hdecode : ∀ n, Json.isInt64 n = true →
      Json.int n ≠ .null ∧ Json.decodeInt (.int n) = .ok n :=
    fun n hn => ⟨Json.noConfusion, Json.decodeInt_int hn⟩
  let writtenId := Json.written "id" Json.int id
  let writtenName := Json.written "shop_name" Json.string shopName
  let writtenStatus := Json.written "status" Json.int status
  let members := writtenId ++ writtenName ++ writtenStatus ++ extra
  -- Each of the three fields may be missing, which leaves eight forms of the record.
  have hscan : Json.scan fields [] members = .ok () := by
    refine hextra.scan_append ?_
    cases id <;> cases shopName <;> cases status <;>
      simp_all [writtenId, writtenName, writtenStatus, Json.written, Json.scan, fields, Field.of,
        Field.answersTo, Except.map, Json.decodeOptional, Json.decodeText, Json.string?]
  have hextras : Json.extras fields members = extra := by
    refine hextra.extras_append ?_
    cases id <;> cases shopName <;> cases status <;>
      simp [writtenId, writtenName, writtenStatus, Json.written, fields, Field.of, Field.answersTo]
  have hreadId : Json.optional members ["id"] (Json.decodeOptional Json.decodeInt) none =
      .ok id := by
    have hafter : Json.member? ["id"] (writtenName ++ writtenStatus) = none := by
      simp [Json.member?_append, writtenName, writtenStatus, Json.member?_written_of_ne]
    simpa [members, writtenId] using hextra.optional_written (by decide)
      (show Json.member? ["id"] [] = none from rfl) hafter fun n hn => hdecode n (hid n hn)
  have hreadName : Json.optional members ["shop_name"] (Json.decodeOptional Json.decodeText) none =
      .ok shopName := by
    have hbefore : Json.member? ["shop_name"] writtenId = none :=
      Json.member?_written_of_ne (by decide) _ _
    have hafter : Json.member? ["shop_name"] writtenStatus = none :=
      Json.member?_written_of_ne (by decide) _ _
    exact hextra.optional_written (by decide) hbefore hafter
      fun name _ => ⟨Json.noConfusion, rfl⟩
  have hreadStatus : Json.optional members ["status"] (Json.decodeOptional Json.decodeInt) none =
      .ok status := by
    have hbefore : Json.member? ["status"] (writtenId ++ writtenName) = none := by
      simp [Json.member?_append, writtenId, writtenName, Json.member?_written_of_ne]
    simpa [members, writtenStatus] using hextra.optional_written (by decide) hbefore
      (show Json.member? ["status"] [] = none from rfl) fun n hn => hdecode n (hstatus n hn)
  calc
    decode (toJson ⟨id, shopName, status, extra⟩) = decodeMembers members := rfl
    _ = .ok ⟨id, shopName, status, extra⟩ := by
          simp only [decodeMembers, hscan, hreadId, hreadName, hreadStatus, hextras]
          rfl

theorem depth_extra_lt {value : Json} {p : SellerProfile} (h : decode value = .ok p) :
    Json.depthOfMembers p.extra < value.depth := by
  cases value with
  | object members =>
      simp only [decode, decodeMembers, Json.Decoded.bind_eq_ok_iff] at h
      obtain ⟨_, _, _, _, _, _, _, _, hp⟩ := h
      cases hp
      exact Json.depth_extras_lt _ _
  | null | bool _ | int _ | float _ | string _ | array _ => cases h

/-- A seller profile that was decoded from a value that texts can hold is read back from its own
text. -/
theorem decodeStored?_compact {value : Json} {p : SellerProfile} (h : decode value = .ok p)
    (hdepth : value.depth ≤ Json.maxDepth) (hextra : Json.membersAreIntegral p.extra = true) :
    decodeStored? decode p.toJson.compact = some p := by
  have hwellFormed : p.WellFormed := wellFormed_of_decode h
  have hnested : Json.depthOfMembers p.extra < Json.maxDepth :=
    Nat.lt_of_lt_of_le (depth_extra_lt h) hdepth
  have hscalars : ∀ entry ∈ Json.written "id" Json.int p.id ++
      Json.written "shop_name" Json.string p.shopName ++ Json.written "status" Json.int p.status,
      entry.2.isIntegral = true ∧ entry.2.depth = 0 := by
    have hint : ∀ {name : String} {field? : Option Int}, (∀ n ∈ field?, Json.isInt64 n = true) →
        ∀ entry ∈ Json.written name Json.int field?,
          entry.2.isIntegral = true ∧ entry.2.depth = 0 :=
      fun hrange => Json.written_scalar fun n hn => ⟨Json.isIntegral_int (hrange n hn), rfl⟩
    refine List.forall_mem_append.2 ⟨List.forall_mem_append.2 ⟨hint hwellFormed.id, ?_⟩,
      hint hwellFormed.status⟩
    exact Json.written_scalar fun _ _ => ⟨rfl, rfl⟩
  calc
    decodeStored? decode p.toJson.compact = (decode p.toJson).toOption :=
          Json.decodeStored?_record decode hscalars hextra hnested
    _ = some p := by rw [decode_toJson hwellFormed, Except.toOption]

end SellerProfile
end WebClient
