import WebClient.Proofs.AccountReadBack
import WebClient.Proofs.CallTurns

/-!
# EnvelopeShape — which answers are envelopes, and what becomes of the others

An envelope is an object with the leading field of its family, of the right type, and with a message
that is a text if it is one at all.  `Convention.IsEnvelope` says so of a body, without decoding.

* `Convention.normalize_of_not_envelope`: what an answer that is no envelope is taken for.
* `Convention.exists_normalize_of_envelope`: every envelope is understood.
* `unauthorized_status_recognized_iff`: under status 401, a body that is no envelope is taken for
  missing credentials exactly if it is no JSON at all.
* `auto_agrees_with_fixed_families`: deciding for each answer comes to expecting a flag first, and a
  code if that fails.
-/

namespace WebClient

open Json (Decoded Field)

/-! ## Fields of an object without repeated keys -/

namespace Json

theorem member?_eq_get? (members : List (String × Json)) (name : String) :
    member? [name] members = Dict.get? members name := by
  induction members with
  | nil => rfl
  | cons entry rest ih =>
      rcases entry with ⟨key, value⟩
      by_cases hkey : key = name
      · simp [member?, Dict.get?, hkey]
      · simpa [member?, Dict.get?, hkey] using ih

theorem required_eq_ok_iff {α : Type} {name : String} {decode : Json → Decoded α}
    {members : List (String × Json)} {a : α} :
    required members name decode = .ok a ↔
      ∃ value, Dict.get? members name = some value ∧ decode value = .ok a := by
  unfold required
  rw [member?_eq_get?]
  cases Dict.get? members name with
  | none => simp
  | some value => simp

theorem exists_required_iff {α : Type} {name : String} {decode : Json → Decoded α}
    {members : List (String × Json)} :
    (∃ a, required members name decode = .ok a) ↔
      ∃ value a, Dict.get? members name = some value ∧ decode value = .ok a := by
  simp only [required_eq_ok_iff]
  exact exists_comm

theorem exists_optional_iff {α : Type} {name : String} {decode : Json → Decoded α} {default : α}
    {members : List (String × Json)} :
    (∃ a, optional members [name] decode default = .ok a) ↔
      ∀ value, Dict.get? members name = some value → ∃ a, decode value = .ok a := by
  unfold optional
  rw [member?_eq_get?]
  cases Dict.get? members name with
  | none => simp
  | some value => simp

/-- The members of a canonical object have keys that ascend, so that none is repeated. -/
theorem ascending_of_canonical {value : Json} {members : List (String × Json)}
    (h : value.canonical = .object members) : Dict.Ascending members := by
  cases value with
  | object written =>
      injection h with hmembers
      exact hmembers ▸ Dict.ascending_ofList _
  | null | bool _ | int _ | float _ | string _ | array _ => cases h

theorem ascending_of_parse? {text : String} {members : List (String × Json)}
    (h : parse? text = some (.object members)) : Dict.Ascending members := by
  rcases Option.map_eq_some_iff.1 h with ⟨value, -, hcanonical⟩
  exact ascending_of_canonical hcanonical

variable {fields : List Field} {members : List (String × Json)} {seen : List String}

/-- Whether two members do not denote one field. -/
def Apart (fields : List Field) (entry other : String × Json) : Prop :=
  ∀ f f', fields.find? (·.answersTo entry.1) = some f →
    fields.find? (·.answersTo other.1) = some f' → f.name ≠ f'.name

instance (fields : List Field) : Std.Symm (Apart fields) :=
  ⟨fun _ _ h f f' hfield hfield' => (h f' f hfield' hfield).symm⟩

/-- A scan goes through exactly if no field is met twice and every value passes the test of its
field. -/
theorem scan_eq_ok_iff :
    scan fields seen members = .ok () ↔
      (∀ entry ∈ members, ∀ f, fields.find? (·.answersTo entry.1) = some f →
        f.name ∉ seen ∧ f.check entry.2 = .ok ()) ∧
      members.Pairwise (Apart fields) := by
  induction members generalizing seen with
  | nil => simp [scan]
  | cons entry rest ih =>
      rcases entry with ⟨key, value⟩
      rw [List.forall_mem_cons, List.pairwise_cons]
      cases hfield : fields.find? (·.answersTo key) with
      | none => simpa [scan, Apart, hfield] using ih
      | some f =>
          by_cases hseen : f.name ∈ seen
          · simp [scan, hfield, hseen]
          · cases hcheck : f.check value with
            | error e => simp [scan, hfield, hseen, hcheck]
            | ok _ =>
                have hscan : scan fields seen ((key, value) :: rest) =
                    scan fields (f.name :: seen) rest := by simp [scan, hfield, hseen, hcheck]
                -- A field of the rest must be none that was seen before, and not this one.
                rw [hscan, ih]
                grind [Apart]

/-- Fields that go by one name only, met once each: the scan comes down to the checks. -/
theorem scan_of_checks (hplain : ∀ f ∈ fields, f.aliases = []) (hkeys : Dict.Ascending members)
    (hchecks : ∀ entry ∈ members, ∀ f, fields.find? (·.answersTo entry.1) = some f →
      f.check entry.2 = .ok ()) : scan fields [] members = .ok () := by
  -- A field without other names is called what the member is called.
  have hname : ∀ {key f}, fields.find? (·.answersTo key) = some f → f.name = key := by
    intro key f hfield
    have hanswers : f.answersTo key = true :=
      List.find?_some (p := fun x : Field => x.answersTo key) hfield
    simpa [Field.answersTo, hplain f (List.mem_of_find?_eq_some hfield)] using hanswers
  refine scan_eq_ok_iff.2 ⟨fun entry hentry f hfield => ⟨List.not_mem_nil, ?_⟩, ?_⟩
  · exact hchecks entry hentry f hfield
  · refine hkeys.imp fun {entry other} hlt f f' hfield hfield' => ?_
    rw [hname hfield, hname hfield']
    exact hlt.ne

end Json

/-! ## Envelopes -/

namespace Envelope

variable {members : List (String × Json)}

/-- The message of an object, if it has one, is a text or `null`. -/
def HasReadableMessage (members : List (String × Json)) : Prop :=
  ∀ value, Dict.get? members "message" = some value →
    value = .null ∨ ∃ text, value = .string text

/-- An object with a Boolean `success` and a readable message. -/
def IsFlagged (members : List (String × Json)) : Prop :=
  (∃ flag, Dict.get? members "success" = some (.bool flag)) ∧ HasReadableMessage members

/-- An object with a `code` that fits 64 bits and a readable message. -/
def IsCoded (members : List (String × Json)) : Prop :=
  (∃ code, Dict.get? members "code" = some (.int code) ∧ Json.isInt64 code = true) ∧
    HasReadableMessage members

theorem exists_decode_message_iff {value : Json} :
    (∃ message, Json.decodeOptional Json.decodeText value = .ok message) ↔
      value = .null ∨ ∃ text, value = .string text := by
  cases value with
  | null => exact iff_of_true ⟨none, rfl⟩ (.inl rfl)
  | string text => exact iff_of_true ⟨some text, rfl⟩ (.inr ⟨text, rfl⟩)
  | bool _ | int _ | float _ | array _ | object _ =>
      refine iff_of_false ?_ (by simp)
      rintro ⟨message, hmessage⟩
      cases hmessage

theorem exists_decode_data (value : Json) :
    ∃ data, Json.decodeOptional decodeAny value = .ok data := by
  cases value <;> exact ⟨_, rfl⟩

/-- What is read as an envelope: the leading field is there and can be read, and so can the
message. -/
theorem exists_decodeParts_iff {α : Type} {name : String} {decode : Json → Decoded α}
    (hkeys : Dict.Ascending members) :
    (∃ parts, decodeParts name decode members = .ok parts) ↔
      (∃ value lead, Dict.get? members name = some value ∧ decode value = .ok lead) ∧
        HasReadableMessage members := by
  simp only [decodeParts, Json.Decoded.bind_eq_ok_iff]
  constructor
  · rintro ⟨parts, _, -, lead, hlead, message, hmessage, -⟩
    refine ⟨Json.exists_required_iff.1 ⟨lead, hlead⟩, fun value hvalue => ?_⟩
    exact exists_decode_message_iff.1 (Json.exists_optional_iff.1 ⟨message, hmessage⟩ value hvalue)
  · rintro ⟨hleading, hreadable⟩
    rcases hleading with ⟨value, found, hvalue, hdecoded⟩
    -- The scan meets each of the three fields once at most, and each of them can be read.
    have hscan : Json.scan (fields (.of name decode)) [] members = .ok () := by
      refine Json.scan_of_checks (by simp [fields, Field.of]) hkeys ?_
      intro entry hentry f hfield
      have hfound : Dict.get? members entry.1 = some entry.2 := hkeys.get?_of_mem hentry
      have hmem : f ∈ fields (.of name decode) := List.mem_of_find?_eq_some hfield
      have hanswers : f.answersTo entry.1 = true :=
        List.find?_some (p := fun x : Field => x.answersTo entry.1) hfield
      simp only [fields, List.mem_cons, List.not_mem_nil, or_false] at hmem
      rcases hmem with rfl | rfl | rfl
      · have hkey : name = entry.1 := by simpa [Field.answersTo, Field.of] using hanswers
        rw [← hkey, hvalue] at hfound
        cases hfound
        simp [Field.of, hdecoded, Except.map]
      · have hkey : "message" = entry.1 := by simpa [Field.answersTo, Field.of] using hanswers
        rcases exists_decode_message_iff.2 (hreadable _ (hkey ▸ hfound)) with ⟨message, hmessage⟩
        simp [Field.of, hmessage, Except.map]
      · rcases exists_decode_data entry.2 with ⟨data, hdata⟩
        simp [Field.of, hdata, Except.map]
    rcases Json.exists_required_iff.2 ⟨value, found, hvalue, hdecoded⟩ with ⟨lead, hlead⟩
    rcases Json.exists_optional_iff.2 fun value hvalue =>
      exists_decode_message_iff.2 (hreadable value hvalue) with ⟨message, hmessage⟩
    rcases Json.exists_optional_iff.2 fun value _ => exists_decode_data value with ⟨data, hdata⟩
    exact ⟨⟨lead, message, data⟩, (), hscan, lead, hlead, message, hmessage, data, hdata, rfl⟩

theorem detect?_flagged {flag : Bool} (h : Dict.get? members "success" = some (.bool flag)) :
    detect? members = some .successFlag := by
  simp [detect?, h, Json.bool?]

theorem detect?_coded {code : Int} (h : ∀ flag, Dict.get? members "success" ≠ some (.bool flag))
    (hcode : Dict.get? members "code" = some (.int code)) (hfits : Json.isInt64 code = true) :
    detect? members = some .statusCode := by
  have hflag : (Dict.get? members "success").bind Json.bool? = none := by
    cases hvalue : Dict.get? members "success" with
    | none => rfl
    | some value =>
        cases value with
        | bool flag => exact absurd hvalue (h flag)
        | null | int _ | float _ | string _ | array _ | object _ => rfl
  simp [detect?, hflag, hcode, Json.int64?, hfits]

theorem exists_bool_iff {value : Json} :
    (∃ flag, Json.decodeBool value = .ok flag) ↔ ∃ flag, value = .bool flag := by
  cases value with
  | bool flag => exact iff_of_true ⟨flag, rfl⟩ ⟨flag, rfl⟩
  | null | int _ | float _ | string _ | array _ | object _ =>
      refine iff_of_false ?_ (by simp)
      rintro ⟨flag, hflag⟩
      cases hflag

theorem exists_int_iff {value : Json} :
    (∃ code, Json.decodeInt value = .ok code) ↔
      ∃ code, value = .int code ∧ Json.isInt64 code = true := by
  constructor
  · rintro ⟨code, hcode⟩
    cases value with
    | int n =>
        cases hfits : Json.isInt64 n with
        | true => exact ⟨n, rfl, hfits⟩
        | false => simp [Json.decodeInt, Json.int64?, hfits] at hcode
    | null | bool _ | float _ | string _ | array _ | object _ => cases hcode
  · rintro ⟨code, rfl, hfits⟩
    exact ⟨code, Json.decodeInt_int hfits⟩

theorem isFlagged_iff (hkeys : Dict.Ascending members) :
    IsFlagged members ↔ ∃ parts, decodeParts "success" Json.decodeBool members = .ok parts := by
  rw [exists_decodeParts_iff hkeys]
  refine and_congr_left' ?_
  simp only [exists_and_left, exists_bool_iff]
  exact ⟨fun ⟨flag, h⟩ => ⟨_, h, flag, rfl⟩, fun ⟨_, h, flag, heq⟩ => ⟨flag, heq ▸ h⟩⟩

theorem isCoded_iff (hkeys : Dict.Ascending members) :
    IsCoded members ↔ ∃ parts, decodeParts "code" Json.decodeInt members = .ok parts := by
  rw [exists_decodeParts_iff hkeys]
  refine and_congr_left' ?_
  simp only [exists_and_left, exists_int_iff]
  exact ⟨fun ⟨code, h, hfits⟩ => ⟨_, h, code, rfl, hfits⟩,
    fun ⟨_, h, code, heq, hfits⟩ => ⟨code, heq ▸ h, hfits⟩⟩

theorem exists_ofSuccessFlag (hkeys : Dict.Ascending members) (h : IsFlagged members)
    (status : Nat) : ∃ reply, ofSuccessFlag status members = .ok reply := by
  rcases (isFlagged_iff hkeys).1 h with ⟨parts, hparts⟩
  unfold ofSuccessFlag
  simp only [hparts]
  split_ifs <;> exact ⟨_, rfl⟩

theorem ofSuccessFlag_of_not (hkeys : Dict.Ascending members) (h : ¬ IsFlagged members)
    (status : Nat) : ofSuccessFlag status members = .error (.missingField "success") := by
  unfold ofSuccessFlag
  split
  · rfl
  · rename_i parts hparts
    exact absurd ((isFlagged_iff hkeys).2 ⟨parts, hparts⟩) h

theorem exists_ofStatusCode (hkeys : Dict.Ascending members) (h : IsCoded members) :
    ∃ reply, ofStatusCode members = .ok reply := by
  rcases (isCoded_iff hkeys).1 h with ⟨parts, hparts⟩
  unfold ofStatusCode
  simp only [hparts]
  split_ifs <;> exact ⟨_, rfl⟩

theorem ofStatusCode_of_not (hkeys : Dict.Ascending members) (h : ¬ IsCoded members) :
    ofStatusCode members = .error (.missingField "code") := by
  unfold ofStatusCode
  split
  · rfl
  · rename_i parts hparts
    exact absurd ((isCoded_iff hkeys).2 ⟨parts, hparts⟩) h

end Envelope

/-! ## Bodies -/

namespace Convention

variable {convention : Convention} {members : List (String × Json)} {body : String}

/-- Whether an object is an envelope of the family that a client expects.  A client that decides for
each answer expects a success flag where `success` is a Boolean, and a code elsewhere. -/
def Accepts (convention : Convention) (members : List (String × Json)) : Prop :=
  match convention with
  | .successFlag => Envelope.IsFlagged members
  | .statusCode => Envelope.IsCoded members
  | .auto =>
    Envelope.IsFlagged members ∨
      (∀ flag, Dict.get? members "success" ≠ some (.bool flag)) ∧ Envelope.IsCoded members

/-- Whether a body is the text of such an envelope. -/
def IsEnvelope (convention : Convention) (body : String) : Prop :=
  ∃ members, Json.parse? body = some (.object members) ∧ convention.Accepts members

/-- What a JSON value that is no envelope is reported as. -/
def fault (convention : Convention) : Json → EnvelopeError
  | .object members =>
    match convention with
    | .successFlag => .missingField "success"
    | .statusCode => .missingField "code"
    | .auto =>
      match Envelope.detect? members with
      | some .successFlag => .missingField "success"
      | some .statusCode => .missingField "code"
      | _ => .unknownEnvelope
  | _ => .notAnObject

theorem exists_read (hkeys : Dict.Ascending members) (h : convention.Accepts members)
    (status : Nat) : ∃ reply, convention.read status members = .ok reply := by
  cases convention with
  | successFlag => exact Envelope.exists_ofSuccessFlag hkeys h status
  | statusCode => exact Envelope.exists_ofStatusCode hkeys h
  | auto =>
      unfold read
      rcases h with hflagged | ⟨hunflagged, hcoded⟩
      · rcases hflagged.1 with ⟨flag, hflag⟩
        simpa only [Envelope.detect?_flagged hflag] using
          Envelope.exists_ofSuccessFlag hkeys hflagged status
      · rcases hcoded.1 with ⟨code, hcode, hfits⟩
        simpa only [Envelope.detect?_coded hunflagged hcode hfits] using
          Envelope.exists_ofStatusCode hkeys hcoded

theorem read_of_not_accepts (hkeys : Dict.Ascending members) (h : ¬ convention.Accepts members)
    (status : Nat) :
    convention.read status members = .error (convention.fault (.object members)) := by
  cases convention with
  | successFlag => exact Envelope.ofSuccessFlag_of_not hkeys h status
  | statusCode => exact Envelope.ofStatusCode_of_not hkeys h
  | auto =>
      cases hdetect : Envelope.detect? members with
      | none => simp only [read, fault, hdetect]
      | some family =>
          simp only [read, fault, hdetect]
          cases family with
          | successFlag =>
              exact Envelope.ofSuccessFlag_of_not hkeys (fun hflagged => h (.inl hflagged)) status
          | statusCode =>
              -- A Boolean `success` would have decided for the other family.
              have hplain : ∀ flag, Dict.get? members "success" ≠ some (.bool flag) := by
                intro flag hflag
                rw [Envelope.detect?_flagged hflag] at hdetect
                cases hdetect
              exact Envelope.ofStatusCode_of_not hkeys fun hcoded => h (.inr ⟨hplain, hcoded⟩)
          | auto => rfl

/-- Every envelope is understood, whatever the status. -/
theorem exists_normalize_of_envelope (h : convention.IsEnvelope body) (status : Nat) :
    ∃ reply, convention.normalize status body = .ok reply := by
  rcases h with ⟨members, hparse, haccepts⟩
  simpa only [normalize, hparse] using exists_read (Json.ascending_of_parse? hparse) haccepts status

/-- A body that is JSON but no envelope is reported, whatever the status. -/
theorem normalize_of_not_envelope (h : ¬ convention.IsEnvelope body) {value : Json}
    (hparse : Json.parse? body = some value) (status : Nat) :
    convention.normalize status body = .error (convention.fault value) := by
  cases value with
  | object members =>
      have hrefused : ¬ convention.Accepts members := fun haccepts => h ⟨members, hparse, haccepts⟩
      simpa only [normalize, hparse] using
        read_of_not_accepts (Json.ascending_of_parse? hparse) hrefused status
  | null | bool _ | int _ | float _ | string _ | array _ => simp [normalize, hparse, fault]

/-- A body that is no JSON under status 401 is taken for a rejection in its own words. -/
theorem normalize_of_not_json (hparse : Json.parse? body = none) :
    convention.normalize 401 body = .ok (.failure (.unauthorized (Text.trim body))) := by
  simp [normalize, hparse, Failure.unauthorizedCode]

end Convention

/-! ## Status 401 -/

/-- An answer with status 401 whose body is no envelope is taken for a rejection, so that the
session is cleared, exactly if the body is no JSON at all.  A body that is JSON is reported as what
is wrong with it, and the call counts as failed on the way. -/
theorem unauthorized_status_recognized_iff (g : Gateway) (body : String)
    (h : ¬ g.convention.IsEnvelope body) :
    (g.Rejects (.answered 401 body) ↔ Json.parse? body = none) ∧
      (∀ value, Json.parse? body = some value →
        g.convention.normalize 401 body = .error (g.convention.fault value)) ∧
      ∀ quiet hadToken, g.settle quiet hadToken (.answered 401 body) =
        if (Json.parse? body).isNone then Gateway.handleUnauthorized hadToken
        else Gateway.transportFailure := by
  cases hparse : Json.parse? body with
  | none =>
      have hrejects : g.Rejects (.answered 401 body) :=
        ⟨_, by rw [Gateway.reply?, Convention.normalize_of_not_json hparse]; rfl, rfl⟩
      refine ⟨iff_of_true hrejects rfl, by simp, fun quiet hadToken => ?_⟩
      exact Gateway.settle_of_rejects hrejects quiet hadToken
  | some value =>
      have hnormalize := Convention.normalize_of_not_envelope h hparse 401
      have hreply : g.reply? (.answered 401 body) = none := by
        rw [Gateway.reply?, hnormalize]
        rfl
      refine ⟨iff_of_false ?_ (by simp), ?_, fun quiet hadToken => ?_⟩
      · rintro ⟨failure, hfailure, -⟩
        simp [hreply] at hfailure
      · rintro _ ⟨⟩
        exact hnormalize
      · simp [Gateway.settle, hreply]

/-- What a backend may say under status 401 in words of its own. -/
def expiryNotice : String := (Json.object [("error", .string "token expired")]).compact

theorem parse?_expiryNotice :
    Json.parse? expiryNotice = some (.object [("error", .string "token expired")]) := by
  rw [Json.parse?, expiryNotice, Json.read?_compact rfl (by decide)]
  rfl

theorem expiryNotice_not_envelope : ¬ Convention.auto.IsEnvelope expiryNotice := by
  rintro ⟨members, hparse, haccepts⟩
  rw [parse?_expiryNotice] at hparse
  cases hparse
  -- It has neither of the leading fields.
  rcases haccepts with ⟨⟨flag, hflag⟩, -⟩ | ⟨-, ⟨code, hcode, -⟩, -⟩
  · simp [Dict.get?] at hflag
  · simp [Dict.get?] at hcode

/-- The notice is no envelope, and under status 401 it is reported as a fault of the answer: Alice's
call counts as failed on the way, and she stays logged in with the token that was refused. -/
theorem expiry_notice_is_not_recognized :
    let call := (Client.pageless.gateway.call (.get "/cart")).run
      (fun _ _ => .answered 401 expiryNotice) ⟨.alices, []⟩
    ¬ Convention.auto.IsEnvelope expiryNotice ∧
      Convention.auto.normalize 401 expiryNotice = .error .unknownEnvelope ∧
      call.1.failure?.map (·.kind) = some .transport ∧ call.2.state.token? = some "a" ∧
      Dict.get? call.2.state.login.store.entries SessionKey.token = some "a" := by
  intro call
  refine ⟨expiryNotice_not_envelope, ?_, by decide +kernel⟩
  simp [Convention.normalize, parse?_expiryNotice, Convention.read, Envelope.detect?, Dict.get?]

/-- The same words are recognized as plain text, but not as JSON. -/
theorem plain_words_are_recognized :
    Client.pageless.gateway.Rejects (.answered 401 "token expired") ∧
      ¬ Client.pageless.gateway.Rejects (.answered 401 expiryNotice) := by
  have hplain : Json.parse? "token expired" = none := by
    have hread : (Json.read? "token expired").isNone := by decide +kernel
    simpa [Json.parse?] using hread
  have hnone : ¬ Convention.auto.IsEnvelope "token expired" := by
    rintro ⟨members, hparse, -⟩
    simp [hplain] at hparse
  constructor
  · exact (unauthorized_status_recognized_iff Client.pageless.gateway _ hnone).1.2 hplain
  · intro hrejects
    have hnotJson : Json.parse? expiryNotice = none :=
      (unauthorized_status_recognized_iff Client.pageless.gateway _
        expiryNotice_not_envelope).1.1 hrejects
    simp [parse?_expiryNotice] at hnotJson

/-! ## Deciding for each answer -/

namespace Convention

variable {convention : Convention} {members : List (String × Json)} {body : String} {status : Nat}

theorem accepts_of_read (hkeys : Dict.Ascending members) {reply : Reply}
    (h : convention.read status members = .ok reply) : convention.Accepts members := by
  by_contra hrefused
  rw [read_of_not_accepts hkeys hrefused] at h
  cases h

theorem not_accepts_of_read (hkeys : Dict.Ascending members) {e : EnvelopeError}
    (h : convention.read status members = .error e) : ¬ convention.Accepts members := by
  intro haccepts
  rcases exists_read hkeys haccepts status with ⟨reply, hreply⟩
  rw [hreply] at h
  cases h

theorem fault_of_read (hkeys : Dict.Ascending members) {e : EnvelopeError}
    (h : convention.read status members = .error e) : e = convention.fault (.object members) := by
  rw [read_of_not_accepts hkeys (not_accepts_of_read hkeys h)] at h
  exact (Except.error.inj h).symm

theorem read_auto_of_flagged (h : Envelope.IsFlagged members) :
    auto.read status members = successFlag.read status members := by
  rcases h.1 with ⟨flag, hflag⟩
  simp only [read, Envelope.detect?_flagged hflag]

theorem read_auto_of_coded (hcoded : Envelope.IsCoded members)
    (hunflagged : ¬ Envelope.IsFlagged members) :
    auto.read status members = statusCode.read status members := by
  -- The message can be read, so it is for want of a Boolean `success` that there is no flag.
  have hplain : ∀ flag, Dict.get? members "success" ≠ some (.bool flag) :=
    fun flag hflag => hunflagged ⟨⟨flag, hflag⟩, hcoded.2⟩
  rcases hcoded.1 with ⟨code, hcode, hfits⟩
  simp only [read, Envelope.detect?_coded hplain hcode hfits]

theorem not_accepts_auto (hunflagged : ¬ Envelope.IsFlagged members)
    (huncoded : ¬ Envelope.IsCoded members) : ¬ auto.Accepts members := by
  rintro (hflagged | ⟨-, hcoded⟩)
  · exact hunflagged hflagged
  · exact huncoded hcoded

theorem fault_auto_mem (members : List (String × Json)) :
    auto.fault (.object members) ∈
      [successFlag.fault (.object members), statusCode.fault (.object members),
        .unknownEnvelope] := by
  cases hdetect : Envelope.detect? members with
  | none => simp [fault, hdetect]
  | some family => cases family <;> simp [fault, hdetect]

theorem normalize_of_object (h : Json.parse? body = some (.object members)) :
    convention.normalize status body = convention.read status members := by
  simp only [normalize, h]

/-- Where there is no object, the convention does not matter. -/
theorem normalize_of_no_object (h : ∀ members, Json.parse? body ≠ some (.object members))
    (other : Convention) : convention.normalize status body = other.normalize status body := by
  cases hparse : Json.parse? body with
  | none => simp only [normalize, hparse]
  | some value =>
      cases value with
      | object members => exact absurd hparse (h members)
      | null | bool _ | int _ | float _ | string _ | array _ => simp only [normalize, hparse]

end Convention

/-- A client that decides for each answer agrees with clients that expect one family: it takes an
answer for what a client that expects flags takes it for, or else for what a client that expects
codes takes it for.  What neither of them understands is reported, as one of them reports it or as
of neither family; if it is no object at all, all three report the same. -/
theorem auto_agrees_with_fixed_families (status : Nat) (body : String) :
    let flagged := Convention.successFlag.normalize status body
    let coded := Convention.statusCode.normalize status body
    let decided := Convention.auto.normalize status body
    (∀ reply, flagged = .ok reply → decided = .ok reply) ∧
      (∀ e reply, flagged = .error e → coded = .ok reply → decided = .ok reply) ∧
      ∀ e e', flagged = .error e → coded = .error e' →
        ∃ e'', decided = .error e'' ∧ e'' ∈ [e, e', .unknownEnvelope] ∧
          ((∀ members, Json.parse? body ≠ some (.object members)) → e'' = e ∧ e'' = e') := by
  intro flagged coded decided
  by_cases hobject : ∃ members, Json.parse? body = some (.object members)
  · rcases hobject with ⟨members, hparse⟩
    have hkeys := Json.ascending_of_parse? hparse
    simp only [flagged, coded, decided, Convention.normalize_of_object hparse]
    refine ⟨?_, ?_, ?_⟩
    · intro reply hreply
      have hflagged := Convention.accepts_of_read hkeys hreply
      exact (Convention.read_auto_of_flagged hflagged).trans hreply
    · intro e reply he hreply
      have hunflagged := Convention.not_accepts_of_read hkeys he
      have hcoded := Convention.accepts_of_read hkeys hreply
      exact (Convention.read_auto_of_coded hcoded hunflagged).trans hreply
    · intro e e' he he'
      have hrefused := Convention.not_accepts_auto (Convention.not_accepts_of_read hkeys he)
        (Convention.not_accepts_of_read hkeys he')
      refine ⟨_, Convention.read_of_not_accepts hkeys hrefused status, ?_, ?_⟩
      · rw [Convention.fault_of_read hkeys he, Convention.fault_of_read hkeys he']
        exact Convention.fault_auto_mem members
      · exact fun hnone => absurd hparse (hnone members)
  · have hnone : ∀ members, Json.parse? body ≠ some (.object members) := by
      simpa using hobject
    have hflagged : decided = flagged := Convention.normalize_of_no_object hnone _
    have hcoded : decided = coded := Convention.normalize_of_no_object hnone _
    refine ⟨?_, ?_, ?_⟩
    · intro reply hreply
      exact hflagged.trans hreply
    · intro e reply _ hreply
      exact hcoded.trans hreply
    · intro e e' he he'
      refine ⟨e, hflagged.trans he, by simp, fun _ => ⟨rfl, ?_⟩⟩
      exact Except.error.inj ((hflagged.trans he).symm.trans (hcoded.trans he'))

/-- An answer with the greatest code there is, and with a `success` that is no flag. -/
def borderAnswer : Json := .object [("code", .int Json.maxInt64), ("success", .null)]

theorem border_code_is_decided :
    (∃ e, Convention.successFlag.normalize 200 borderAnswer.compact = .error e) ∧
      Convention.auto.normalize 200 borderAnswer.compact =
        .ok (.failure (.application (some Json.maxInt64) "")) := by
  have hparse : Json.parse? borderAnswer.compact = some borderAnswer := by
    rw [Json.parse?, Json.read?_compact (by decide) (by decide)]
    rfl
  have hflagged : Convention.successFlag.normalize 200 borderAnswer.compact =
      .error (.missingField "success") := by
    rw [Convention.normalize, hparse]
    rfl
  have hcoded : Convention.statusCode.normalize 200 borderAnswer.compact =
      .ok (.failure (.application (some Json.maxInt64) "")) := by
    rw [Convention.normalize, hparse]
    rfl
  exact ⟨⟨_, hflagged⟩, (auto_agrees_with_fixed_families 200 _).2.1 _ _ hflagged hcoded⟩

end WebClient
