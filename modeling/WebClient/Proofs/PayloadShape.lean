import Mathlib.Data.List.Pairwise
import WebClient.Proofs.Restore
import WebClient.Proofs.EnvelopeShape
import WebClient.Reply.Payload

/-!
# PayloadShape — which data a session can be established from

The data of an answer to a login is an object with a token, with an account, and with at most one
seller profile, which may go by either of two names.

* `AuthSession.HeldBy` says of an object which session it holds, without reading it in order.
* `AuthPayload.decodeMembers_eq_ok_iff`: that is the session that the object is decoded to.
* `Gateway.Issues` says so of what became of a request; `Reply.authPayload_eq_some_iff` is how the
  client finds out.
-/

namespace WebClient

open Json (Decoded Field)

/-! ## Members under one of several names -/

namespace Json

variable {names : List String} {members : List (String × Json)} {value : Json}

theorem member?_eq_none_iff :
    member? names members = none ↔ ∀ name ∈ names, Dict.get? members name = none := by
  induction members with
  | nil => simp [member?]
  | cons entry rest ih =>
      rcases entry with ⟨key, value⟩
      by_cases hkey : key ∈ names
      · have hfound : member? names ((key, value) :: rest) = some value := by simp [member?, hkey]
        refine iff_of_false (by simp [hfound]) fun hnone => ?_
        simpa [Dict.get?_cons] using hnone key hkey
      · have hskip : member? names ((key, value) :: rest) = member? names rest := by
          simp [member?, hkey]
        rw [hskip, ih]
        refine forall₂_congr fun name hname => ?_
        have hne : key ≠ name := fun heq => hkey (heq ▸ hname)
        rw [Dict.get?_cons, if_neg hne]

theorem exists_get?_of_member? (h : member? names members = some value) :
    ∃ name ∈ names, Dict.get? members name = some value := by
  induction members with
  | nil => simp [member?] at h
  | cons entry rest ih =>
      rcases entry with ⟨key, first⟩
      by_cases hkey : key ∈ names
      · have hvalue : first = value := by simpa [member?, hkey] using h
        exact ⟨key, hkey, by simp [Dict.get?_cons, hvalue]⟩
      · rcases ih (by simpa [member?, hkey] using h) with ⟨name, hname, hvalue⟩
        have hne : key ≠ name := fun heq => hkey (heq ▸ hname)
        exact ⟨name, hname, by rw [Dict.get?_cons, if_neg hne, hvalue]⟩

theorem decodeText_eq_ok_iff {text : String} :
    decodeText value = .ok text ↔ value = .string text := by
  cases value with
  | string found => simp [decodeText, string?]
  | null | bool _ | int _ | float _ | array _ | object _ => simp [decodeText, string?]

theorem decodeOptional_eq_ok_iff {α : Type} {decode : Json → Decoded α} {found : Option α} :
    decodeOptional decode value = .ok found ↔
      value = .null ∧ found = none ∨
        value ≠ .null ∧ ∃ a, decode value = .ok a ∧ found = some a := by
  by_cases hnull : value = .null
  · subst hnull
    simp [decodeOptional, eq_comm]
  · have hdecode : decodeOptional decode value = (decode value).map some := by
      cases value with
      | null => exact absurd rfl hnull
      | bool _ | int _ | float _ | string _ | array _ | object _ => rfl
    rw [hdecode]
    cases decode value <;> simp [hnull, Except.map, eq_comm]

end Json

/-! ## Sessions in objects -/

/-- Whether an object holds this seller profile, or none.  At most one of the members for it is
there, and that is `null` or can be decoded. -/
structure SellerProfile.HeldBy (members : List (String × Json)) (seller : Option SellerProfile) :
    Prop where
  once : ∀ name ∈ sellerNames, ∀ other ∈ sellerNames, (Dict.get? members name).isSome →
    (Dict.get? members other).isSome → name = other
  read : ∀ name ∈ sellerNames, ∀ value, Dict.get? members name = some value →
    value = .null ∧ seller = none ∨
      ∃ profile, SellerProfile.decode value = .ok profile ∧ seller = some profile
  missing : (∀ name ∈ sellerNames, Dict.get? members name = none) → seller = none

/-- Whether an object holds this session. -/
structure AuthSession.HeldBy (members : List (String × Json)) (auth : AuthSession) : Prop where
  token : Dict.get? members "token" = some (.string auth.token)
  user : ∃ value, Dict.get? members "user" = some value ∧ User.decode value = .ok auth.user
  seller : SellerProfile.HeldBy members auth.seller

namespace SellerProfile

variable {members : List (String × Json)} {seller : Option SellerProfile} {value : Json}

theorem decodeOptional_eq_ok_iff :
    Json.decodeOptional decode value = .ok seller ↔
      value = .null ∧ seller = none ∨
        ∃ profile, decode value = .ok profile ∧ seller = some profile := by
  rw [Json.decodeOptional_eq_ok_iff]
  refine or_congr_right (and_iff_right_of_imp ?_)
  rintro ⟨profile, hdecode, -⟩ rfl
  cases hdecode

/-- If at most one of its members is there, the profile that is read is the one that is held. -/
theorem optional_eq_ok_iff
    (honce : ∀ name ∈ sellerNames, ∀ other ∈ sellerNames, (Dict.get? members name).isSome →
      (Dict.get? members other).isSome → name = other) :
    Json.optional members sellerNames (Json.decodeOptional decode) none = .ok seller ↔
      HeldBy members seller := by
  unfold Json.optional
  cases hmember : Json.member? sellerNames members with
  | none =>
      have hnone := Json.member?_eq_none_iff.1 hmember
      constructor
      · rintro ⟨⟩
        refine ⟨honce, fun name hname value hvalue => ?_, fun _ => rfl⟩
        simp [hnone name hname] at hvalue
      · intro hheld
        rw [hheld.missing hnone]
  | some value =>
      rcases Json.exists_get?_of_member? hmember with ⟨name, hname, hvalue⟩
      dsimp only
      rw [decodeOptional_eq_ok_iff]
      constructor
      · intro hread
        -- What was found first is all there is, under whatever name one looks.
        refine ⟨honce, fun other hother found hfound => ?_, fun hnone => ?_⟩
        · have hsame : name = other :=
            honce name hname other hother (by simp [hvalue]) (by simp [hfound])
          subst hsame
          cases hvalue.symm.trans hfound
          exact hread
        · simp [hnone name hname] at hvalue
      · intro hheld
        exact hheld.read name hname value hvalue

end SellerProfile

namespace AuthPayload

variable {members : List (String × Json)} {payload : AuthPayload}

/-- The field that a member of a payload denotes goes by the key of the member. -/
theorem of_find?_fields {key : String} {f : Field}
    (h : fields.find? (·.answersTo key) = some f) :
    key = "token" ∧ f = .of "token" Json.decodeText ∨ key = "user" ∧ f = .of "user" User.decode ∨
      key ∈ sellerNames ∧ f = sellerField := by
  have hanswers : f.answersTo key = true :=
    List.find?_some (p := fun f : Field => f.answersTo key) h
  have hmem := List.mem_of_find?_eq_some h
  simp only [fields, List.mem_cons, List.not_mem_nil, or_false] at hmem
  rcases hmem with rfl | rfl | rfl
  · have hkey : "token" = key := by simpa [Field.answersTo, Field.of] using hanswers
    exact .inl ⟨hkey.symm, rfl⟩
  · have hkey : "user" = key := by simpa [Field.answersTo, Field.of] using hanswers
    exact .inr (.inl ⟨hkey.symm, rfl⟩)
  · have hkey : "seller" = key ∨ key = "seller_profile" := by
      simpa [Field.answersTo, Field.of, sellerField] using hanswers
    refine .inr (.inr ⟨?_, rfl⟩)
    rcases hkey with rfl | rfl <;> simp [sellerNames]

theorem find?_fields_seller {name : String} (h : name ∈ sellerNames) :
    fields.find? (·.answersTo name) = some sellerField := by
  simp only [sellerNames, List.mem_cons, List.not_mem_nil, or_false] at h
  rcases h with rfl | rfl <;> rfl

/-- Two members for the seller profile would be one field met twice. -/
theorem once_of_scan (h : Json.scan fields [] members = .ok ()) :
    ∀ name ∈ sellerNames, ∀ other ∈ sellerNames, (Dict.get? members name).isSome →
      (Dict.get? members other).isSome → name = other := by
  intro name hname other hother hpresent hpresent'
  rcases Option.isSome_iff_exists.1 hpresent with ⟨value, hvalue⟩
  rcases Option.isSome_iff_exists.1 hpresent' with ⟨value', hvalue'⟩
  by_contra hne
  have hdistinct : (name, value) ≠ (other, value') := fun heq => hne (congrArg Prod.fst heq)
  have hpairs := (Json.scan_eq_ok_iff.1 h).2
  have hapart : Json.Apart fields (name, value) (other, value') :=
    hpairs.forall (Dict.mem_of_get? hvalue) (Dict.mem_of_get? hvalue') hdistinct
  exact hapart _ _ (find?_fields_seller hname) (find?_fields_seller hother) rfl

/-- Whoever holds a session can be scanned as a payload. -/
theorem scan_of_heldBy {auth : AuthSession} (hkeys : Dict.Ascending members)
    (h : auth.HeldBy members) : Json.scan fields [] members = .ok () := by
  refine Json.scan_eq_ok_iff.2 ⟨?_, ?_⟩
  · rintro ⟨key, value⟩ hentry f hfield
    have hfound := hkeys.get?_of_mem hentry
    refine ⟨List.not_mem_nil, ?_⟩
    rcases of_find?_fields hfield with ⟨rfl, rfl⟩ | ⟨rfl, rfl⟩ | ⟨hname, rfl⟩
    · cases h.token.symm.trans hfound
      rfl
    · rcases h.user with ⟨account, haccount, hdecode⟩
      cases haccount.symm.trans hfound
      simp [Field.of, hdecode, Except.map]
    · have hread := h.seller.read key hname value hfound
      have hdecode := SellerProfile.decodeOptional_eq_ok_iff.2 hread
      simp [sellerField, Field.of, hdecode, Except.map]
  · -- Fields of two members could be one only if both members are for the seller profile.
    refine hkeys.imp_of_mem fun {entry other} hentry hother hlt f f' hfield hfield' => ?_
    have hpresent : (Dict.get? members entry.1).isSome := by simp [hkeys.get?_of_mem hentry]
    have hpresent' : (Dict.get? members other.1).isSome := by simp [hkeys.get?_of_mem hother]
    have honce : entry.1 ∈ sellerNames → other.1 ∈ sellerNames → entry.1 = other.1 :=
      fun hname hname' => h.seller.once _ hname _ hname' hpresent hpresent'
    have hne := hlt.ne
    rcases of_find?_fields hfield with ⟨hkey, rfl⟩ | ⟨hkey, rfl⟩ | ⟨hname, rfl⟩ <;>
      rcases of_find?_fields hfield' with ⟨hkey', rfl⟩ | ⟨hkey', rfl⟩ | ⟨hname', rfl⟩ <;>
        grind [Field.of, sellerField]

/-- What a payload is read from is an object that holds its session. -/
theorem decodeMembers_eq_ok_iff (hkeys : Dict.Ascending members) :
    decodeMembers members = .ok payload ↔ payload.session.HeldBy members := by
  simp only [decodeMembers, Json.Decoded.bind_eq_ok_iff]
  constructor
  · rintro ⟨_, hscan, token, htoken, user, huser, seller, hseller, ⟨⟩⟩
    rcases Json.required_eq_ok_iff.1 htoken with ⟨value, hvalue, hdecode⟩
    refine ⟨?_, Json.required_eq_ok_iff.1 huser, ?_⟩
    · rw [hvalue, Json.decodeText_eq_ok_iff.1 hdecode]
      rfl
    · exact (SellerProfile.optional_eq_ok_iff (once_of_scan hscan)).1 hseller
  · intro hheld
    refine ⟨(), scan_of_heldBy hkeys hheld, payload.token, ?_, payload.user, ?_, payload.seller, ?_,
      rfl⟩
    · exact Json.required_eq_ok_iff.2 ⟨_, hheld.token, rfl⟩
    · exact Json.required_eq_ok_iff.2 hheld.user
    · exact (SellerProfile.optional_eq_ok_iff hheld.seller.once).2 hheld.seller

end AuthPayload

/-! ## Answers -/

/-- Data that reaches a caller is canonical; so the members of an object have keys that ascend. -/
theorem Convention.ascending_of_normalize {convention : Convention} {status : Nat} {body : String}
    {message : Option String} {members : List (String × Json)}
    (h : convention.normalize status body = .ok (.success message (some (.object members)))) :
    Dict.Ascending members := by
  unfold normalize at h
  split at h
  · split at h <;> cases h
  · rename_i envelope hparse
    rcases data_mem h with ⟨entry, hentry, hdata⟩
    rcases Option.map_eq_some_iff.1 hparse with ⟨value, -, hcanonical⟩
    cases value with
    | object written =>
        injection hcanonical with henvelope
        rw [← henvelope] at hentry
        rcases Json.exists_of_mem_canonical hentry with ⟨source, -, rfl⟩
        exact Json.ascending_of_canonical hdata
    | null | bool _ | int _ | float _ | string _ | array _ => cases hcanonical
  · cases h

theorem Gateway.ascending_of_reply? {g : Gateway} {outcome : Outcome} {message : Option String}
    {members : List (String × Json)}
    (h : g.reply? outcome = some (.success message (some (.object members)))) :
    Dict.Ascending members := by
  cases outcome with
  | dropped => cases h
  | answered status body =>
      have hnormal : g.convention.normalize status body =
          .ok (.success message (some (.object members))) := by
        unfold reply? at h
        cases hcases : g.convention.normalize status body with
        | error e => simp [hcases, Except.toOption] at h
        | ok reply => simpa [hcases, Except.toOption] using h
      exact Convention.ascending_of_normalize hnormal

/-- Without a token in it the data is not decoded at all, and an array has no member of that
name. -/
theorem Reply.exists_of_authPayload {message : Option String} {data : Option Json}
    {payload : AuthPayload} (h : (Reply.success message data).authPayload = .ok (some payload)) :
    ∃ members, data = some (.object members) ∧
      AuthPayload.decodeMembers members = .ok payload := by
  have htoken : ∃ value, (data.getD .null).find? "token" = some value := by
    refine Option.ne_none_iff_exists'.1 fun hnone => ?_
    simp [authPayload, result, hnone] at h
  have hobject : ∃ members, data = some (.object members) := by
    rcases htoken with ⟨value, hvalue⟩
    cases data with
    | none => cases hvalue
    | some data =>
        cases data with
        | object members => exact ⟨members, rfl⟩
        | null | bool _ | int _ | float _ | string _ | array _ => cases hvalue
  rcases hobject with ⟨members, rfl⟩
  refine ⟨members, rfl, ?_⟩
  cases hdecode : AuthPayload.decodeMembers members with
  | error e =>
      simp only [authPayload, result, decodeData, AuthPayload.decode, Option.getD_some, hdecode,
        Except.map] at h
      split at h <;> cases h
  | ok found =>
      simp only [authPayload, result, decodeData, AuthPayload.decode, Option.getD_some, hdecode,
        Except.map] at h
      split at h <;> cases h
      rfl

/-- A payload is found in the data of a successful answer exactly if that is an object which holds
its session. -/
theorem Reply.authPayload_eq_some_iff {message : Option String} {data : Option Json}
    {payload : AuthPayload}
    (hkeys : ∀ members, data = some (.object members) → Dict.Ascending members) :
    (Reply.success message data).authPayload = .ok (some payload) ↔
      ∃ members, data = some (.object members) ∧ payload.session.HeldBy members := by
  constructor
  · intro hpayload
    rcases exists_of_authPayload hpayload with ⟨members, rfl, hdecode⟩
    exact ⟨members, rfl, (AuthPayload.decodeMembers_eq_ok_iff (hkeys members rfl)).1 hdecode⟩
  · rintro ⟨members, rfl, hheld⟩
    have hdecode := (AuthPayload.decodeMembers_eq_ok_iff (hkeys members rfl)).2 hheld
    have htoken : (Json.object members).find? "token" = some (.string payload.token) := hheld.token
    simp [authPayload, result, htoken, Json.string?, decodeData, AuthPayload.decode, hdecode,
      Except.map]

/-- Whether what became of a request is an answer that issues this session: it tells of success, and
its data is an object that holds the session. -/
def Gateway.Issues (g : Gateway) (outcome : Outcome) (auth : AuthSession) : Prop :=
  ∃ message members, g.reply? outcome = some (.success message (some (.object members))) ∧
    auth.HeldBy members

end WebClient
