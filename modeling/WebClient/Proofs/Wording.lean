import WebClient.Proofs.EnvelopeShape

/-!
# Wording — one reply in the words of either family

A backend that answers with a success flag leaves the code to the status of the answer; one that
answers with a code says it in the envelope.  Apart from that they say the same, and so the client
hears the same.

* `Envelope.Carries` says which message and data an object has; what is left out and what is `null`
  are one thing.
* `Envelope.Worded` says so of a body, with the leading field of its family.
* `Reply.ofCode` is the reply that a code stands for.
* `families_agree`: either family's envelope for a code, a message and data is read as that reply.
-/

namespace WebClient

open Json (Decoded)

namespace Json

/-- An optional field that is left out is read like one that is `null`. -/
theorem optional_eq_decodeOptional {α : Type} (members : List (String × Json)) (name : String)
    (decode : Json → Decoded α) :
    optional members [name] (decodeOptional decode) none =
      decodeOptional decode ((Dict.get? members name).getD .null) := by
  unfold optional
  rw [member?_eq_get?]
  cases Dict.get? members name <;> rfl

theorem decodeOptional_ofText? (text : Option String) :
    decodeOptional decodeText (ofText? text) = .ok text := by
  cases text <;> rfl

theorem decodeBool_bool (flag : Bool) : decodeBool (.bool flag) = .ok flag := rfl

end Json

/-! ## Messages and data -/

namespace Envelope

/-- The data that reaches the caller: `null` is none. -/
def told : Option Json → Option Json
  | some .null => none
  | data => data

/-- Whether an object has this message and this data.  Where there is none, the member is left out
or `null`. -/
structure Carries (members : List (String × Json)) (message : Option String)
    (data : Option Json) : Prop where
  message : (Dict.get? members "message").getD .null = Json.ofText? message
  data : (Dict.get? members "data").getD .null = data.getD .null

variable {members : List (String × Json)} {message : Option String} {data : Option Json}

theorem Carries.hasReadableMessage (h : Carries members message data) :
    HasReadableMessage members := by
  intro value hvalue
  have hmessage := h.message
  rw [hvalue, Option.getD_some] at hmessage
  cases message with
  | none => exact .inl hmessage
  | some text => exact .inr ⟨text, hmessage⟩

theorem decodeOptional_data (data : Option Json) :
    Json.decodeOptional decodeAny (data.getD .null) = .ok (told data) := by
  cases data with
  | none => rfl
  | some value => cases value <;> rfl

/-- What is read in an envelope is its leading field, its message and its data. -/
theorem decodeParts_of_carries {α : Type} {name : String} {decode : Json → Decoded α}
    {value : Json} {lead : α} (hkeys : Dict.Ascending members)
    (hvalue : Dict.get? members name = some value) (hlead : decode value = .ok lead)
    (h : Carries members message data) :
    decodeParts name decode members = .ok ⟨lead, message, told data⟩ := by
  rcases (exists_decodeParts_iff hkeys).2 ⟨⟨value, lead, hvalue, hlead⟩, h.hasReadableMessage⟩ with
    ⟨parts, hparts⟩
  -- The parts can be read; what they are is now a matter of reading them one by one.
  have hread := hparts
  simp only [decodeParts, Json.Decoded.bind_eq_ok_iff, Json.optional_eq_decodeOptional, h.message,
    h.data, Json.decodeOptional_ofText?, decodeOptional_data] at hread
  rcases hread with ⟨_, -, found, hfound, _, ⟨⟩, _, ⟨⟩, ⟨⟩⟩
  rw [Json.required, Json.member?_eq_get?, hvalue] at hfound
  cases hlead.symm.trans hfound
  exact hparts

/-- Whether a body is an envelope with this leading field, and with this message and data. -/
def Worded (name : String) (lead : Json) (message : Option String) (data : Option Json)
    (body : String) : Prop :=
  ∃ members, Json.parse? body = some (.object members) ∧ Dict.get? members name = some lead ∧
    Carries members message data

theorem Worded.exists_parts {α : Type} {name body : String} {decode : Json → Decoded α}
    {lead : Json} {value : α} (h : Worded name lead message data body)
    (hlead : decode lead = .ok value) :
    ∃ members, Json.parse? body = some (.object members) ∧
      decodeParts name decode members = .ok ⟨value, message, told data⟩ := by
  rcases h with ⟨members, hparse, hfound, hcarries⟩
  have hkeys := Json.ascending_of_parse? hparse
  exact ⟨members, hparse, decodeParts_of_carries hkeys hfound hlead hcarries⟩

end Envelope

/-! ## Replies -/

/-- The reply that a code stands for. -/
def Reply.ofCode (code : Int) (message : Option String) (data : Option Json) : Reply :=
  if code = Envelope.successCode then .success message (Envelope.told data)
  else if code = Failure.unauthorizedCode then .failure (.unauthorized (message.getD ""))
  else .failure (.application (some code) (message.getD ""))

namespace Convention

variable {message : Option String} {data : Option Json} {body body' : String}

/-- An envelope with a code is read as what the code stands for, whatever the status. -/
theorem normalize_of_code {code : Int} (hfits : Json.isInt64 code = true)
    (h : Envelope.Worded "code" (.int code) message data body) (status : Nat) :
    statusCode.normalize status body = .ok (.ofCode code message data) := by
  rcases h.exists_parts (Json.decodeInt_int hfits) with ⟨members, hparse, hparts⟩
  simp only [normalize, hparse, read, Envelope.ofStatusCode, hparts, Reply.ofCode]
  split_ifs <;> rfl

/-- An envelope that tells of success is read as success, whatever the status. -/
theorem normalize_of_success (h : Envelope.Worded "success" (.bool true) message data body)
    (status : Nat) :
    successFlag.normalize status body = .ok (.ofCode Envelope.successCode message data) := by
  rcases h.exists_parts (Json.decodeBool_bool _) with ⟨members, hparse, hparts⟩
  simp [normalize, hparse, read, Envelope.ofSuccessFlag, hparts, Reply.ofCode]

/-- An envelope that tells of failure is read as what the status stands for, unless that is one of
success. -/
theorem normalize_of_failure (h : Envelope.Worded "success" (.bool false) message data body)
    {status : Nat} (hstatus : ¬ (200 ≤ status ∧ status ≤ 299)) :
    successFlag.normalize status body = .ok (.ofCode status message data) := by
  rcases h.exists_parts (Json.decodeBool_bool _) with ⟨members, hparse, hparts⟩
  have hcode : (200 ≤ status && status < 300) = false := by
    simp only [Bool.and_eq_false_iff, decide_eq_false_iff_not]
    omega
  -- A status outside of success is not the code of success either.
  have hsuccess : (status : Int) ≠ Envelope.successCode := by
    unfold Envelope.successCode
    omega
  simp only [normalize, hparse, read, Envelope.ofSuccessFlag, hparts, Reply.ofCode, hcode,
    hsuccess, if_false, Bool.false_eq_true]
  split_ifs <;> rfl

/-- Of an envelope with a flag, no more is read than the flag, the message and the data. -/
theorem normalize_flag_congr {flag : Bool}
    (h : Envelope.Worded "success" (.bool flag) message data body)
    (h' : Envelope.Worded "success" (.bool flag) message data body') (status : Nat) :
    successFlag.normalize status body = successFlag.normalize status body' := by
  rcases h.exists_parts (Json.decodeBool_bool flag) with ⟨members, hparse, hparts⟩
  rcases h'.exists_parts (Json.decodeBool_bool flag) with ⟨members', hparse', hparts'⟩
  simp only [normalize, hparse, hparse', read, Envelope.ofSuccessFlag, hparts, hparts']

/-- Of an envelope with a code, no more is read than the code, the message and the data. -/
theorem normalize_code_congr {code : Int}
    (h : Envelope.Worded "code" (.int code) message data body)
    (h' : Envelope.Worded "code" (.int code) message data body') (status : Nat) :
    statusCode.normalize status body = statusCode.normalize status body' := by
  by_cases hfits : Json.isInt64 code = true
  · rw [normalize_of_code hfits h, normalize_of_code hfits h']
  · -- A code that does not fit is the same fault in both.
    have hfault : ∀ {body}, Envelope.Worded "code" (.int code) message data body →
        statusCode.normalize status body = .error (.missingField "code") := by
      rintro body ⟨members, hparse, hcode, -⟩
      have hnot : ¬ Envelope.IsCoded members := by
        rintro ⟨⟨found, hfound, hfound64⟩, -⟩
        cases hcode.symm.trans hfound
        exact hfits hfound64
      rw [normalize_of_object hparse]
      exact Envelope.ofStatusCode_of_not (Json.ascending_of_parse? hparse) hnot
    rw [hfault h, hfault h']

end Convention

/-- The two families of envelopes say the same.  A flag of success is worth the code 200, and a flag
of failure is worth the code that is the status, unless the status is one of success; nothing else
depends on the status.  A message or data that is left out and one that is `null` make no
difference in either family. -/
theorem families_agree (message : Option String) (data : Option Json) :
    (∀ flagged coded, Envelope.Worded "success" (.bool true) message data flagged →
      Envelope.Worded "code" (.int Envelope.successCode) message data coded →
      ∀ status status' : Nat,
        Convention.successFlag.normalize status flagged =
            Convention.statusCode.normalize status' coded ∧
          Convention.successFlag.normalize status flagged =
            .ok (.success message (Envelope.told data))) ∧
    (∀ status : Nat, status < 2 ^ 16 → ¬ (200 ≤ status ∧ status ≤ 299) →
      ∀ flagged coded, Envelope.Worded "success" (.bool false) message data flagged →
        Envelope.Worded "code" (.int status) message data coded →
        ∀ status' : Nat,
          Convention.successFlag.normalize status flagged =
              Convention.statusCode.normalize status' coded ∧
            Convention.successFlag.normalize status flagged =
              .ok (.ofCode status message data)) ∧
    (∀ (flag : Bool) (body body' : String),
      Envelope.Worded "success" (.bool flag) message data body →
      Envelope.Worded "success" (.bool flag) message data body' →
      ∀ status : Nat, Convention.successFlag.normalize status body =
        Convention.successFlag.normalize status body') ∧
    ∀ (code : Int) (body body' : String),
      Envelope.Worded "code" (.int code) message data body →
      Envelope.Worded "code" (.int code) message data body' →
      ∀ status : Nat, Convention.statusCode.normalize status body =
        Convention.statusCode.normalize status body' := by
  refine ⟨?_, ?_, ?_, ?_⟩
  · intro flagged coded hflagged hcoded status status'
    have hcode := Convention.normalize_of_code rfl hcoded status'
    have hflag := Convention.normalize_of_success hflagged status
    exact ⟨hflag.trans hcode.symm, hflag⟩
  · intro status hbound hstatus flagged coded hflagged hcoded status'
    have hfits : Json.isInt64 status = true := by
      have hrange : Json.minInt64 ≤ status ∧ (status : Int) ≤ Json.maxInt64 := by
        unfold Json.minInt64 Json.maxInt64
        omega
      simpa [Json.isInt64] using hrange
    have hcode := Convention.normalize_of_code hfits hcoded status'
    have hflag := Convention.normalize_of_failure hflagged hstatus
    exact ⟨hflag.trans hcode.symm, hflag⟩
  · intro flag body body' h h' status
    exact Convention.normalize_flag_congr h h' status
  · intro code body body' h h' status
    exact Convention.normalize_code_congr h h' status

/-- A refusal with nothing else to say: in an answer with a flag, and in one with a code that spells
out that there is no message and no data. -/
def bareRefusal : Json := .object [("success", .bool false)]

def spelledRefusal (code : Int) : Json :=
  .object [("code", .int code), ("data", .null), ("message", .null)]

/-- Under status 401 both refusals mean that the credentials are missing. -/
theorem refusals_agree :
    Convention.successFlag.normalize 401 bareRefusal.compact =
        Convention.statusCode.normalize 200 (spelledRefusal 401).compact ∧
      Convention.successFlag.normalize 401 bareRefusal.compact =
        .ok (.failure (.unauthorized "")) := by
  have hbare : Envelope.Worded "success" (.bool false) none none bareRefusal.compact := by
    refine ⟨[("success", .bool false)], ?_, rfl, rfl, rfl⟩
    rw [Json.parse?, Json.read?_compact (by decide) (by decide)]
    rfl
  have hspelled : Envelope.Worded "code" (.int (401 : Nat)) none none
      (spelledRefusal 401).compact := by
    refine ⟨[("code", .int 401), ("data", .null), ("message", .null)], ?_, rfl, rfl, rfl⟩
    rw [Json.parse?, Json.read?_compact (by decide) (by decide)]
    rfl
  exact (families_agree none none).2.1 401 (by decide) (by decide) _ _ hbare hspelled 200

end WebClient
