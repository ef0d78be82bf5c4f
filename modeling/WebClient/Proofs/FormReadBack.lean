import WebClient.Proofs.Placeholders

/-!
# FormReadBack — form data is read as what was written

* `Text.decodeLossy_utf8`: decoding the bytes of a text gives the text back; nothing else decodes to
  it (`Text.decode?_eq_some_iff`).
* `Text.ReadsAs` says which text is read in form data, whatever follows.  Form-encoded texts read as
  what they were (`Text.readsAs_formEncodeChars`), and so do plain texts (`Text.readsAs_self`).
* `Text.formPairs_joined` and `Text.formPairs_formQuery`: a query is read as the pairs that it was
  written from, in their order.
-/

namespace WebClient
namespace Text

/-! ## UTF-8 -/

namespace Utf8

variable {p : Started} {b : UInt8} {n d k code lower upper : Nat}

theorem lead_one (h : n < 0x80) : lead (UInt8.ofNat n) = .char (Char.ofNat n) := by
  unfold lead
  dsimp only
  rw [UInt8.toNat_ofNat', Nat.mod_eq_of_lt (by omega), if_pos h]

theorem lead_two (hlow : 2 ≤ n) (hhigh : n < 32) :
    lead (UInt8.ofNat (n + 192)) = .started ⟨1, n, 0x80, 0xBF⟩ := by
  unfold lead
  dsimp only
  rw [UInt8.toNat_ofNat', Nat.mod_eq_of_lt (by omega), if_neg (by omega), if_neg (by omega),
    if_pos (by omega), Nat.add_sub_cancel]

theorem lead_three (h : n < 16) :
    lead (UInt8.ofNat (n + 224)) =
      .started ⟨2, n, if n = 0 then 0xA0 else 0x80, if n = 13 then 0x9F else 0xBF⟩ := by
  unfold lead
  dsimp only
  rw [UInt8.toNat_ofNat', Nat.mod_eq_of_lt (by omega), if_neg (by omega), if_neg (by omega),
    if_neg (by omega), if_pos (by omega), Nat.add_sub_cancel]
  simp

theorem lead_four (h : n < 5) :
    lead (UInt8.ofNat (n + 240)) =
      .started ⟨3, n, if n = 0 then 0x90 else 0x80, if n = 4 then 0x8F else 0xBF⟩ := by
  unfold lead
  dsimp only
  rw [UInt8.toNat_ofNat', Nat.mod_eq_of_lt (by omega), if_neg (by omega), if_neg (by omega),
    if_neg (by omega), if_neg (by omega), if_pos (by omega), Nat.add_sub_cancel]
  simp

theorem scan_lead (h : lead b = .started p) (rest : List UInt8) :
    scan none (b :: rest) = scan (some p) rest := by
  simp [scan, h]

/-- A byte inside of a character adds six bits to it. -/
theorem scan_next (hd : d < 64) (hlower : lower ≤ d + 128) (hupper : d + 128 ≤ upper)
    (rest : List UInt8) :
    scan (some ⟨k + 2, code, lower, upper⟩) (UInt8.ofNat (d + 128) :: rest) =
      scan (some ⟨k + 1, code * 64 + d, 0x80, 0xBF⟩) rest := by
  have hrange : (decide (lower ≤ d + 128) && decide (d + 128 ≤ upper)) = true := by
    simp [hlower, hupper]
  have hmore : ¬ k + 2 ≤ 1 := Nat.not_le.2 (Nat.lt_add_left k Nat.one_lt_two)
  rw [scan, UInt8.toNat_ofNat', Nat.mod_eq_of_lt (by omega), if_pos hrange, if_neg hmore,
    Nat.add_sub_cancel]
  rfl

/-- The last byte of a character ends it. -/
theorem scan_last (hd : d < 64) (hlower : lower ≤ d + 128) (hupper : d + 128 ≤ upper)
    (rest : List UInt8) :
    scan (some ⟨1, code, lower, upper⟩) (UInt8.ofNat (d + 128) :: rest) =
      some (Char.ofNat (code * 64 + d)) :: scan none rest := by
  have hrange : (decide (lower ≤ d + 128) && decide (d + 128 ≤ upper)) = true := by
    simp [hlower, hupper]
  rw [scan, UInt8.toNat_ofNat', Nat.mod_eq_of_lt (by omega), if_pos hrange,
    if_pos (Nat.le_refl 1), Nat.add_sub_cancel]

/-- A character is read from its bytes, whatever follows them. -/
theorem scan_utf8EncodeChar (c : Char) (rest : List UInt8) :
    scan none (String.utf8EncodeChar c ++ rest) = some c :: scan none rest := by
  -- Surrogates are no characters, and the ranges of second bytes shut nothing else out.
  have hvalid : c.toNat < 0xD800 ∨ 0xDFFF < c.toNat ∧ c.toNat < 0x110000 := c.valid
  have hchar : Char.ofNat c.toNat = c := Char.ofNat_toNat c
  have hcode : c.val.toNat = c.toNat := rfl
  unfold String.utf8EncodeChar
  rw [hcode]
  generalize c.toNat = v at hvalid hchar
  subst hchar
  dsimp only
  -- One case for each number of bytes.
  split
  · rename_i hone
    simp [scan, lead_one (Nat.lt_succ_of_le hone)]
  · split
    · have hfirst : v / 64 % 32 = v / 64 := by omega
      have hvalue : v / 64 * 64 + v % 64 = v := by omega
      rw [List.cons_append, List.singleton_append, hfirst,
        scan_lead (lead_two (by omega) (by omega)), scan_last (by omega) (by omega) (by omega),
        hvalue]
    · split
      · have hfirst : v / 4096 % 16 = v / 4096 := by omega
        have hvalue : (v / 4096 * 64 + v / 64 % 64) * 64 + v % 64 = v := by omega
        rw [List.cons_append, List.cons_append, List.singleton_append, hfirst,
          scan_lead (lead_three (by omega)),
          scan_next (by omega) (by split <;> omega) (by split <;> omega),
          scan_last (by omega) (by omega) (by omega), hvalue]
      · have hfirst : v / 262144 % 8 = v / 262144 := by omega
        have hvalue :
            ((v / 262144 * 64 + v / 4096 % 64) * 64 + v / 64 % 64) * 64 + v % 64 = v := by omega
        rw [List.cons_append, List.cons_append, List.cons_append, List.singleton_append, hfirst,
          scan_lead (lead_four (by omega)),
          scan_next (by omega) (by split <;> omega) (by split <;> omega),
          scan_next (by omega) (by omega) (by omega),
          scan_last (by omega) (by omega) (by omega), hvalue]

/-! ### Characters from their bytes -/

section Characters

variable {c : Char} {bytes : List UInt8} {out : List (Option Char)}

theorem scan_ne_nil (p : Started) (bytes : List UInt8) : scan (some p) bytes ≠ [] := by
  induction bytes generalizing p with
  | nil => simp [scan]
  | cons b bytes ih =>
      unfold scan
      split
      · dsimp only
        split
        · simp
        · exact ih _
      · simp

/-- Inside of a character comes one of the bytes that may follow. -/
theorem exists_next_of_scan (h : scan (some p) bytes = some c :: out) :
    ∃ (b : UInt8) (rest : List UInt8), bytes = b :: rest ∧ p.lower ≤ b.toNat ∧ b.toNat ≤ p.upper ∧
      scan (some p) (b :: rest) = some c :: out := by
  cases bytes with
  | nil => simp [scan] at h
  | cons b rest =>
      by_cases hrange : p.lower ≤ b.toNat ∧ b.toNat ≤ p.upper
      · exact ⟨b, rest, rfl, hrange.1, hrange.2, h⟩
      · -- A byte out of range gives no character.
        unfold scan at h
        rw [if_neg (by simpa using hrange)] at h
        cases h

theorem exists_last_of_scan (h : scan (some ⟨1, code, lower, upper⟩) bytes = some c :: out) :
    ∃ (b : UInt8) (rest : List UInt8), bytes = b :: rest ∧ lower ≤ b.toNat ∧ b.toNat ≤ upper ∧
      c = Char.ofNat (code * 64 + (b.toNat - 0x80)) ∧ out = scan none rest := by
  rcases exists_next_of_scan h with ⟨b, rest, rfl, hlower, hupper, hscan⟩
  have hrange : (decide (lower ≤ b.toNat) && decide (b.toNat ≤ upper)) = true := by
    simpa using ⟨hlower, hupper⟩
  unfold scan at hscan
  rw [if_pos hrange, if_pos (Nat.le_refl 1)] at hscan
  simp only [List.cons.injEq, Option.some.injEq] at hscan
  exact ⟨b, rest, rfl, hlower, hupper, hscan.1.symm, hscan.2.symm⟩

theorem exists_more_of_scan (h : scan (some ⟨k + 2, code, lower, upper⟩) bytes = some c :: out) :
    ∃ (b : UInt8) (rest : List UInt8), bytes = b :: rest ∧ lower ≤ b.toNat ∧ b.toNat ≤ upper ∧
      scan (some ⟨k + 1, code * 64 + (b.toNat - 0x80), 0x80, 0xBF⟩) rest = some c :: out := by
  rcases exists_next_of_scan h with ⟨b, rest, rfl, hlower, hupper, hscan⟩
  have hrange : (decide (lower ≤ b.toNat) && decide (b.toNat ≤ upper)) = true := by
    simpa using ⟨hlower, hupper⟩
  have hmore : ¬ k + 2 ≤ 1 := Nat.not_le.2 (Nat.lt_add_left k Nat.one_lt_two)
  unfold scan at hscan
  rw [if_pos hrange, if_neg hmore] at hscan
  exact ⟨b, rest, rfl, hlower, hupper, hscan⟩

theorem lead_eq_char (h : lead b = .char c) : b.toNat < 0x80 ∧ c = Char.ofNat b.toNat := by
  unfold lead at h
  dsimp only at h
  split_ifs at h
  simp_all

theorem lead_eq_started (h : lead b = .started p) :
    (0xC2 ≤ b.toNat ∧ b.toNat < 0xE0 ∧ p = ⟨1, b.toNat - 0xC0, 0x80, 0xBF⟩) ∨
      (0xE0 ≤ b.toNat ∧ b.toNat < 0xF0 ∧ p = ⟨2, b.toNat - 0xE0,
        if b.toNat = 0xE0 then 0xA0 else 0x80, if b.toNat = 0xED then 0x9F else 0xBF⟩) ∨
      (0xF0 ≤ b.toNat ∧ b.toNat < 0xF5 ∧ p = ⟨3, b.toNat - 0xF0,
        if b.toNat = 0xF0 then 0x90 else 0x80, if b.toNat = 0xF4 then 0x8F else 0xBF⟩) := by
  unfold lead at h
  dsimp only at h
  split_ifs at h <;> simp_all

/-- The bytes of a character are determined by it. -/
theorem utf8EncodeChar_ofNat {v : Nat} (hvalid : v < 0xD800 ∨ 0xDFFF < v ∧ v < 0x110000) :
    String.utf8EncodeChar (Char.ofNat v) =
      if v ≤ 0x7F then [UInt8.ofNat v]
      else if v ≤ 0x7FF then [UInt8.ofNat (v / 64 + 192), UInt8.ofNat (v % 64 + 128)]
      else if v ≤ 0xFFFF then
        [UInt8.ofNat (v / 4096 + 224), UInt8.ofNat (v / 64 % 64 + 128), UInt8.ofNat (v % 64 + 128)]
      else [UInt8.ofNat (v / 262144 + 240), UInt8.ofNat (v / 4096 % 64 + 128),
        UInt8.ofNat (v / 64 % 64 + 128), UInt8.ofNat (v % 64 + 128)] := by
  have hcode : (Char.ofNat v).val.toNat = v := by
    rw [Char.ofNat, dif_pos hvalid]
    rfl
  unfold String.utf8EncodeChar
  rw [hcode]
  dsimp only
  split_ifs
  · rfl
  · rw [show v / 64 % 32 = v / 64 by omega]
  · rw [show v / 4096 % 16 = v / 4096 by omega]
  · rw [show v / 262144 % 8 = v / 262144 by omega]

theorem eq_ofNat {n : Nat} (h : b.toNat = n) : b = UInt8.ofNat n := by
  rw [← h]
  exact (UInt8.ofNat_toNat).symm

/-- What is read as a character are its bytes. -/
theorem exists_of_scan (h : scan none bytes = some c :: out) :
    ∃ rest, bytes = String.utf8EncodeChar c ++ rest ∧ out = scan none rest := by
  cases bytes with
  | nil => simp [scan] at h
  | cons b bytes =>
      unfold scan at h
      split at h
      · rename_i d hlead
        simp only [List.cons.injEq, Option.some.injEq] at h
        rcases lead_eq_char hlead with ⟨hb, rfl⟩
        rcases h with ⟨rfl, hout⟩
        refine ⟨bytes, ?_, hout.symm⟩
        rw [utf8EncodeChar_ofNat (by omega), if_pos (by omega), UInt8.ofNat_toNat]
        rfl
      · rename_i p hlead
        -- One case for each number of bytes; each byte is as its place in the code says.
        rcases lead_eq_started hlead with ⟨hlow, hhigh, rfl⟩ | ⟨hlow, hhigh, rfl⟩ |
          ⟨hlow, hhigh, rfl⟩
        · rcases exists_last_of_scan h with ⟨b₁, rest, rfl, h₁, h₁', hc, hout⟩
          obtain ⟨v, hv⟩ : ∃ v, v = (b.toNat - 0xC0) * 64 + (b₁.toNat - 0x80) := ⟨_, rfl⟩
          refine ⟨rest, ?_, hout⟩
          rw [hc, ← hv, utf8EncodeChar_ofNat (by omega), if_neg (by omega), if_pos (by omega),
            ← eq_ofNat (show b.toNat = v / 64 + 192 by omega),
            ← eq_ofNat (show b₁.toNat = v % 64 + 128 by omega)]
          rfl
        · rcases exists_more_of_scan h with ⟨b₁, rest, rfl, h₁, h₁', h⟩
          rcases exists_last_of_scan h with ⟨b₂, rest, rfl, h₂, h₂', hc, hout⟩
          obtain ⟨v, hv⟩ : ∃ v, v = ((b.toNat - 0xE0) * 64 + (b₁.toNat - 0x80)) * 64 +
            (b₂.toNat - 0x80) := ⟨_, rfl⟩
          have hsecond : 0x80 ≤ b₁.toNat ∧ b₁.toNat ≤ 0xBF := by split_ifs at h₁ h₁' <;> omega
          have hlong : 0x7FF < v := by split_ifs at h₁ <;> omega
          have hvalid : v < 0xD800 ∨ 0xDFFF < v ∧ v < 0x110000 := by split_ifs at h₁' <;> omega
          refine ⟨rest, ?_, hout⟩
          rw [hc, ← hv, utf8EncodeChar_ofNat hvalid, if_neg (by omega), if_neg (by omega),
            if_pos (by omega), ← eq_ofNat (show b.toNat = v / 4096 + 224 by omega),
            ← eq_ofNat (show b₁.toNat = v / 64 % 64 + 128 by omega),
            ← eq_ofNat (show b₂.toNat = v % 64 + 128 by omega)]
          rfl
        · rcases exists_more_of_scan h with ⟨b₁, rest, rfl, h₁, h₁', h⟩
          rcases exists_more_of_scan h with ⟨b₂, rest, rfl, h₂, h₂', h⟩
          rcases exists_last_of_scan h with ⟨b₃, rest, rfl, h₃, h₃', hc, hout⟩
          obtain ⟨v, hv⟩ : ∃ v, v = (((b.toNat - 0xF0) * 64 + (b₁.toNat - 0x80)) * 64 +
            (b₂.toNat - 0x80)) * 64 + (b₃.toNat - 0x80) := ⟨_, rfl⟩
          have hsecond : 0x80 ≤ b₁.toNat ∧ b₁.toNat ≤ 0xBF := by split_ifs at h₁ h₁' <;> omega
          have hlong : 0xFFFF < v := by split_ifs at h₁ <;> omega
          have hvalid : v < 0x110000 := by split_ifs at h₁' <;> omega
          refine ⟨rest, ?_, hout⟩
          rw [hc, ← hv, utf8EncodeChar_ofNat (by omega), if_neg (by omega), if_neg (by omega),
            if_neg (by omega), ← eq_ofNat (show b.toNat = v / 262144 + 240 by omega),
            ← eq_ofNat (show b₁.toNat = v / 4096 % 64 + 128 by omega),
            ← eq_ofNat (show b₂.toNat = v / 64 % 64 + 128 by omega),
            ← eq_ofNat (show b₃.toNat = v % 64 + 128 by omega)]
          rfl
      · simp at h

end Characters
end Utf8

theorem scan_utf8 (cs : List Char) : Utf8.scan none (utf8 cs) = cs.map some := by
  induction cs with
  | nil => rfl
  | cons c cs ih =>
      have hbytes : utf8 (c :: cs) = String.utf8EncodeChar c ++ utf8 cs := rfl
      rw [hbytes, Utf8.scan_utf8EncodeChar, ih, List.map_cons]

theorem decodeLossy_utf8 (cs : List Char) : decodeLossy (utf8 cs) = cs := by
  rw [decodeLossy, scan_utf8, List.map_map]
  exact List.map_id _

theorem eq_utf8_of_scan {bytes : List UInt8} {cs : List Char}
    (h : Utf8.scan none bytes = cs.map some) : bytes = utf8 cs := by
  induction cs generalizing bytes with
  | nil =>
      cases bytes with
      | nil => rfl
      | cons b bytes =>
          -- No byte is passed over in silence.
          unfold Utf8.scan at h
          split at h
          · cases h
          · exact absurd h (Utf8.scan_ne_nil _ _)
          · cases h
  | cons c cs ih =>
      rcases Utf8.exists_of_scan h with ⟨rest, rfl, hrest⟩
      rw [ih hrest.symm]
      rfl

theorem mapM_id_eq_some_iff {α : Type} {scanned : List (Option α)} {found : List α} :
    scanned.mapM id = some found ↔ scanned = found.map some := by
  induction scanned generalizing found with
  | nil => cases found <;> simp
  | cons first rest ih =>
      rw [List.mapM_cons]
      cases first with
      | none => cases found <;> simp
      | some a => cases found <;> simp [Option.bind_eq_some_iff, ih, and_comm]

/-- Bytes are decoded to a text exactly if they are its bytes. -/
theorem decode?_eq_some_iff {bytes : List UInt8} {cs : List Char} :
    decode? bytes = some cs ↔ bytes = utf8 cs := by
  rw [decode?, mapM_id_eq_some_iff]
  exact ⟨eq_utf8_of_scan, fun h => h ▸ scan_utf8 cs⟩

theorem utf8_append (cs cs' : List Char) : utf8 (cs ++ cs') = utf8 cs ++ utf8 cs' :=
  List.flatMap_append

/-! ## Form data -/

/-- A byte of form data as it is read before percent triplets are. -/
def spaced (b : UInt8) : UInt8 := if b = 0x2B then 0x20 else b

/-- The bytes that form data stands for. -/
def formBytes (written : List Char) : List UInt8 := percentDecode ((utf8 written).map spaced)

theorem formDecode_eq (written : List Char) :
    formDecode written = .ofList (decodeLossy (formBytes written)) := rfl

/-- Whether form data is read as this text, whatever follows it. -/
def ReadsAs (written text : List Char) : Prop :=
  ∀ rest, formBytes (written ++ rest) = utf8 text ++ formBytes rest

variable {written written' text text' cs : List Char}

theorem ReadsAs.nil : ReadsAs [] [] := fun _ => rfl

theorem ReadsAs.append (h : ReadsAs written text) (h' : ReadsAs written' text') :
    ReadsAs (written ++ written') (text ++ text') := by
  intro rest
  rw [List.append_assoc, h, h', utf8_append, List.append_assoc]

theorem ReadsAs.flatMap {α : Type} {pieces : List α} {f g : α → List Char}
    (h : ∀ piece ∈ pieces, ReadsAs (f piece) (g piece)) :
    ReadsAs (pieces.flatMap f) (pieces.flatMap g) := by
  induction pieces with
  | nil => exact ReadsAs.nil
  | cons piece pieces ih =>
      have hrest := ih fun other hother => h other (List.mem_cons_of_mem _ hother)
      exact (h piece List.mem_cons_self).append hrest

theorem ReadsAs.formDecode (h : ReadsAs written text) : formDecode written = .ofList text := by
  have hnothing : formBytes [] = [] := rfl
  have hbytes := h []
  rw [List.append_nil, hnothing, List.append_nil] at hbytes
  rw [formDecode_eq, hbytes, decodeLossy_utf8]

theorem percentDecode_append_of_ne {bytes : List UInt8} (h : ∀ b ∈ bytes, b ≠ 0x25)
    (rest : List UInt8) : percentDecode (bytes ++ rest) = bytes ++ percentDecode rest := by
  induction bytes with
  | nil => rfl
  | cons b bytes ih =>
      rw [List.cons_append, percentDecode_cons_of_ne (h b List.mem_cons_self),
        ih fun other hother => h other (List.mem_cons_of_mem _ hother), List.cons_append]

/-- A character other than the plus and the percent sign stands for itself. -/
theorem readsAs_char {c : Char} (hplus : c ≠ '+') (hpercent : c ≠ '%') : ReadsAs [c] [c] := by
  intro rest
  have hkept : (String.utf8EncodeChar c).map spaced = String.utf8EncodeChar c := by
    have hbytes := ne_of_mem_utf8EncodeChar (d := '+') (by decide) hplus
    exact (List.map_congr_left fun b hb => if_neg (hbytes b hb)).trans (List.map_id _)
  have hbytes : utf8 ([c] ++ rest) = String.utf8EncodeChar c ++ utf8 rest := rfl
  have htext : utf8 [c] = String.utf8EncodeChar c := List.append_nil _
  rw [formBytes, hbytes, List.map_append, hkept, htext,
    percentDecode_append_of_ne (ne_of_mem_utf8EncodeChar (d := '%') (by decide) hpercent)]
  rfl

theorem readsAs_self (h : ∀ c ∈ cs, c ≠ '+' ∧ c ≠ '%') : ReadsAs cs cs := by
  induction cs with
  | nil => exact ReadsAs.nil
  | cons c cs ih =>
      have hc := h c List.mem_cons_self
      have hcs : ReadsAs cs cs := ih fun other hother => h other (List.mem_cons_of_mem _ hother)
      exact (readsAs_char hc.1 hc.2).append hcs

/-- A byte that has been written is read as it was. -/
theorem formBytes_formByte (b : UInt8) (rest : List Char) :
    formBytes (formByte b ++ rest) = b :: formBytes rest := by
  rw [formBytes, utf8_append, List.map_append, formBytes]
  generalize (utf8 rest).map spaced = tail
  by_cases hspace : b = 0x20
  · subst hspace
    exact percentDecode_cons_of_ne (by decide) tail
  · unfold formByte
    split
    · rename_i hsafe
      have hbyte := toNat_of_isFormSafe hsafe
      have hpercent : b ≠ 0x25 := fun heq => hbyte.2 (by rw [heq]; rfl)
      have hplus : b ≠ 0x2B := by
        rintro rfl
        exact absurd hsafe (by decide)
      rw [utf8_ofNat hbyte.1, List.map_singleton, spaced, if_neg hplus]
      exact percentDecode_cons_of_ne hpercent tail
    · -- No triplet has a plus sign.
      have hall : ∀ n ∈ List.range 256, (utf8 (percentTriplet (UInt8.ofNat n))).map spaced =
          utf8 (percentTriplet (UInt8.ofNat n)) := by decide +kernel
      have hkept := hall b.toNat (List.mem_range.2 b.toNat_lt)
      rw [UInt8.ofNat_toNat] at hkept
      rw [hkept]
      exact percentDecode_percentTriplet b tail

/-- What has been form-encoded is read as it was. -/
theorem readsAs_formEncodeChars (cs : List Char) : ReadsAs (formEncodeChars cs) cs := by
  intro rest
  unfold formEncodeChars
  induction utf8 cs with
  | nil => rfl
  | cons b bytes ih =>
      rw [List.flatMap_cons, List.append_assoc, formBytes_formByte, ih, List.cons_append]

/-! ## Queries -/

theorem marks_not_mem_formEncodeChars (cs : List Char) :
    '&' ∉ formEncodeChars cs ∧ '=' ∉ formEncodeChars cs := by
  have hmarks : ∀ c ∈ formEncodeChars cs, c ≠ '&' ∧ c ≠ '=' :=
    fun c => of_mem_formEncodeChars (p := fun c => c ≠ '&' ∧ c ≠ '=') (by decide +kernel)
  exact ⟨fun hmem => (hmarks _ hmem).1 rfl, fun hmem => (hmarks _ hmem).2 rfl⟩

/-- Keys and values are found again behind the marks that were written, if they have none of their
own. -/
theorem formPairs_joined {parts : List (List Char × List Char)}
    (h : ∀ part ∈ parts, '&' ∉ part.1 ∧ '=' ∉ part.1 ∧ '&' ∉ part.2) :
    formPairs (joined '&' (parts.map fun part => part.1 ++ '=' :: part.2)) =
      parts.map fun part => (formDecode part.1, formDecode part.2) := by
  let written (part : List Char × List Char) : List Char := part.1 ++ '=' :: part.2
  cases hparts : parts with
  | nil => rfl
  | cons first rest =>
      rw [← hparts]
      have hpieces : pieces '&' (joined '&' (parts.map written)) = parts.map written := by
        refine pieces_joined (by simp [hparts]) fun piece hpiece => ?_
        rcases List.mem_map.1 hpiece with ⟨part, hpart, rfl⟩
        simpa [written] using ⟨(h part hpart).1, (h part hpart).2.2⟩
      have hfilter : (parts.map written).filter (fun piece => !piece.isEmpty) =
          parts.map written := by
        refine List.filter_eq_self.2 fun piece hpiece => ?_
        rcases List.mem_map.1 hpiece with ⟨part, -, rfl⟩
        simp [written]
      change formPairs (joined '&' (parts.map written)) = _
      rw [formPairs, hpieces, hfilter, List.map_map]
      refine List.map_congr_left fun part hpart => ?_
      simp [written, cutAt_append (h part hpart).2.1, cutAt]

theorem formPairs_formQuery (pairs : List (String × String)) :
    formPairs (formQuery pairs) = pairs := by
  let encoded (pair : String × String) : List Char × List Char :=
    (formEncodeChars pair.1.toList, formEncodeChars pair.2.toList)
  have hparts : ∀ part ∈ pairs.map encoded, '&' ∉ part.1 ∧ '=' ∉ part.1 ∧ '&' ∉ part.2 := by
    intro part hpart
    rcases List.mem_map.1 hpart with ⟨pair, -, rfl⟩
    exact ⟨(marks_not_mem_formEncodeChars _).1, (marks_not_mem_formEncodeChars _).2,
      (marks_not_mem_formEncodeChars _).1⟩
  have hdecoded : ∀ s : String, formDecode (formEncodeChars s.toList) = s := fun s =>
    (readsAs_formEncodeChars s.toList).formDecode.trans String.ofList_toList
  calc formPairs (formQuery pairs)
      = formPairs (joined '&' ((pairs.map encoded).map fun part => part.1 ++ '=' :: part.2)) := by
        rw [formQuery, List.map_map]
        rfl
    _ = (pairs.map encoded).map fun part => (formDecode part.1, formDecode part.2) :=
        formPairs_joined hparts
    _ = pairs.map id := by
        rw [List.map_map]
        refine List.map_congr_left fun pair _ => ?_
        exact Prod.ext (hdecoded pair.1) (hdecoded pair.2)
    _ = pairs := List.map_id pairs

end Text
end WebClient
