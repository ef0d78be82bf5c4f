import Mathlib.Data.String.Basic
import WebClient.Text.Utf8

/-!
# ByteOrder — the bytes of characters

An ASCII character is one byte, and no byte of any other character is an ASCII byte
(`Text.utf8EncodeChar_of_le`, `Text.le_of_mem_utf8EncodeChar`, `Text.ne_of_mem_utf8EncodeChar`).

Texts are ordered by code point.  That is the order of their UTF-8 bytes (`Text.utf8Bytes_lt_iff`),
since the first byte of a character tells the number of its bytes, and more bytes stand for greater
code points.
-/

namespace WebClient
namespace Text

/-! ## ASCII -/

theorem utf8EncodeChar_of_le {c : Char} (h : c.toNat ≤ 0x7F) :
    String.utf8EncodeChar c = [UInt8.ofNat c.toNat] := by
  have hvalue : c.val.toNat ≤ 0x7F := h
  unfold String.utf8EncodeChar
  exact if_pos hvalue

theorem le_of_mem_utf8EncodeChar {c : Char} (h : 0x7F < c.toNat) {b : UInt8}
    (hb : b ∈ String.utf8EncodeChar c) : 0x80 ≤ b.toNat := by
  have hvalue : 0x7F < c.val.toNat := h
  have hlarge : ∀ n, 0x80 ≤ n → n < 256 → 0x80 ≤ (UInt8.ofNat n).toNat := by
    intro n hlow hhigh
    rwa [UInt8.toNat_ofNat', Nat.mod_eq_of_lt hhigh]
  unfold String.utf8EncodeChar at hb
  dsimp only at hb
  generalize c.val.toNat = v at hvalue hb
  -- One case for each number of bytes.
  rw [if_neg (by omega)] at hb
  split at hb
  · simp only [List.mem_cons, List.not_mem_nil, or_false] at hb
    rcases hb with rfl | rfl <;> exact hlarge _ (by omega) (by omega)
  · split at hb
    · simp only [List.mem_cons, List.not_mem_nil, or_false] at hb
      rcases hb with rfl | rfl | rfl <;> exact hlarge _ (by omega) (by omega)
    · simp only [List.mem_cons, List.not_mem_nil, or_false] at hb
      rcases hb with rfl | rfl | rfl | rfl <;> exact hlarge _ (by omega) (by omega)

/-- Only an ASCII character itself has its byte. -/
theorem ne_of_mem_utf8EncodeChar {c d : Char} (hd : d.toNat < 128) (h : c ≠ d) :
    ∀ b ∈ String.utf8EncodeChar c, b ≠ UInt8.ofNat d.toNat := by
  have hbyte : ∀ n < 128, (UInt8.ofNat n).toNat = n := fun n hn =>
    UInt8.toNat_ofNat_of_lt' (Nat.lt_trans hn (by decide))
  rintro b hb rfl
  by_cases hascii : c.toNat ≤ 0x7F
  · rw [utf8EncodeChar_of_le hascii] at hb
    have hvalue := congrArg UInt8.toNat (List.mem_singleton.1 hb)
    rw [hbyte _ hd, hbyte _ (Nat.lt_succ_of_le hascii)] at hvalue
    exact h (Char.toNat_inj.1 hvalue.symm)
  · have hlarge := le_of_mem_utf8EncodeChar (Nat.lt_of_not_le hascii) hb
    rw [hbyte _ hd] at hlarge
    exact absurd hd (Nat.not_lt.2 hlarge)

/-- What holds of every ASCII character, by looking at each. -/
theorem of_ascii {p : Char → Prop} (h : ∀ n ∈ List.range 128, p (Char.ofNat n)) {c : Char}
    (hc : c.toNat < 128) : p c := by
  have hp := h c.toNat (List.mem_range.2 hc)
  rwa [Char.ofNat_toNat] at hp

/-! ## Order -/

/-- Two byte lists compare by their first bytes, as long as these differ. -/
theorem ofNat_cons_lt {a b : Nat} {as bs : List UInt8} (hle : a ≤ b) (hb : b < 256)
    (hrest : a = b → as < bs) : UInt8.ofNat a :: as < UInt8.ofNat b :: bs := by
  rw [List.cons_lt_cons_iff]
  rcases Nat.lt_or_eq_of_le hle with hlt | rfl
  · left
    rw [UInt8.lt_iff_toNat_lt, UInt8.toNat_ofNat', UInt8.toNat_ofNat',
      Nat.mod_eq_of_lt (by omega), Nat.mod_eq_of_lt (by omega)]
    exact hlt
  · exact .inr ⟨rfl, hrest rfl⟩

/-- Of two characters the smaller one has the smaller bytes, whatever follows. -/
theorem utf8EncodeChar_lt {c d : Char} (h : c < d) (rest rest' : List UInt8) :
    String.utf8EncodeChar c ++ rest < String.utf8EncodeChar d ++ rest' := by
  have hlt : c.val.toNat < d.val.toNat := h
  have hd : d.val.toNat < 0x110000 := by
    have hvalid := d.valid
    unfold UInt32.isValidChar Nat.isValidChar at hvalid
    omega
  unfold String.utf8EncodeChar
  generalize c.val.toNat = v at hlt
  generalize d.val.toNat = w at hlt hd
  -- The cases are the numbers of bytes; where they differ, the first byte decides.
  dsimp only
  repeat' split
  any_goals omega
  any_goals refine ofNat_cons_lt (by omega) (by omega) fun hfirst => ?_
  any_goals omega
  -- Otherwise one byte after the other is looked at, until two differ.
  any_goals refine ofNat_cons_lt (by omega) (by omega) fun hsecond => ?_
  any_goals omega
  any_goals refine ofNat_cons_lt (by omega) (by omega) fun hthird => ?_
  any_goals omega
  any_goals refine ofNat_cons_lt (by omega) (by omega) fun hfourth => ?_
  all_goals omega

theorem utf8_lt {cs ds : List Char} (h : cs < ds) : utf8 cs < utf8 ds := by
  induction ds generalizing cs with
  | nil => exact absurd h (List.not_lt_nil cs)
  | cons d ds ih =>
      cases cs with
      | nil =>
          cases hd : String.utf8EncodeChar d with
          | nil => exact absurd hd String.utf8EncodeChar_ne_nil
          | cons byte bytes => simp [utf8, hd]
      | cons c cs =>
          rcases List.cons_lt_cons_iff.1 h with hlt | ⟨rfl, hrest⟩
          · exact utf8EncodeChar_lt hlt _ _
          · change String.utf8EncodeChar c ++ utf8 cs < String.utf8EncodeChar c ++ utf8 ds
            exact List.append_left_lt (ih hrest)

theorem utf8Bytes_lt_iff {s t : String} : utf8Bytes s < utf8Bytes t ↔ s < t := by
  have hforward : ∀ {s t : String}, s < t → utf8Bytes s < utf8Bytes t :=
    fun h => utf8_lt (String.lt_iff_toList_lt.1 h)
  refine ⟨fun h => ?_, hforward⟩
  rcases lt_trichotomy s t with hlt | rfl | hgt
  · exact hlt
  · exact absurd h (List.lt_irrefl _)
  · exact absurd h (List.lt_asymm (hforward hgt))

theorem utf8Bytes_le_iff {s t : String} : utf8Bytes s ≤ utf8Bytes t ↔ s ≤ t := by
  rw [← not_lt, ← utf8Bytes_lt_iff]
  exact Iff.rfl

end Text
end WebClient
