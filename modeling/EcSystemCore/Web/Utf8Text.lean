import Mathlib.Data.Option.Basic
import EcSystemCore.Adapter.Identity
import EcSystemCore.Protocol.Utf8
import EcSystemCore.Web.JsonText

/-!
# Texts as bytes and as code units

The UTF-8 bytes of a text, which files hold, and its UTF-16 code units, which strings of the
configuration server are.
-/

namespace EcSystemCore.Web

/-! ### Bytes -/

/-- The UTF-8 bytes of a text. -/
def utf8 (text : List Char) : Bytes := text.flatMap String.utf8EncodeChar

@[simp] theorem utf8_nil : utf8 [] = [] := rfl

theorem utf8_cons (c : Char) (text : List Char) :
    utf8 (c :: text) = String.utf8EncodeChar c ++ utf8 text := List.flatMap_cons

theorem utf8_append (front back : List Char) : utf8 (front ++ back) = utf8 front ++ utf8 back :=
  List.flatMap_append

theorem utf8EncodeChar_ascii {c : Char} (hc : c.toNat < 128) :
    String.utf8EncodeChar c = [asciiChar c] := by
  have hle : c.val.toNat ≤ 0x7f := Nat.le_of_lt_succ hc
  simp only [String.utf8EncodeChar, if_pos hle]
  rfl

/-- Every byte of a character outside ASCII is outside ASCII. -/
theorem le_of_mem_utf8EncodeChar {c : Char} (hc : 128 ≤ c.toNat) {byte : UInt8}
    (h : byte ∈ String.utf8EncodeChar c) : 128 ≤ byte.toNat := by
  have hv : 128 ≤ c.val.toNat := hc
  have hbyte : ∀ n, 128 ≤ n % 256 → 128 ≤ (UInt8.ofNat n).toNat := fun n hn => by
    rwa [UInt8.toNat_ofNat']
  unfold String.utf8EncodeChar at h
  generalize c.val.toNat = v at h hv
  dsimp only at h
  split_ifs at h
  · omega
  all_goals
    simp only [List.mem_cons, List.not_mem_nil, or_false] at h
    rcases h with rfl | rfl | rfl | rfl <;> exact hbyte _ (by omega)

/-! ### Code units -/

theorem isLeading_iff (unit : UInt16) :
    isLeading unit = true ↔ 0xd800 ≤ unit.toNat ∧ unit.toNat ≤ 0xdbff := by
  simp [isLeading, UInt16.le_iff_toNat_le]

theorem isTrailing_iff (unit : UInt16) :
    isTrailing unit = true ↔ 0xdc00 ≤ unit.toNat ∧ unit.toNat ≤ 0xdfff := by
  simp [isTrailing, UInt16.le_iff_toNat_le]

/-- The number of a character that is a scalar value. -/
theorem toNat_charOfNat {n : ℕ} (h : n < 0xd800 ∨ 0xdfff < n ∧ n < 0x110000) :
    (Char.ofNat n).toNat = n := by
  have hvalid : n.isValidChar := h
  rw [Char.ofNat, dif_pos hvalid]
  rfl

/-- A character is one unit that is no surrogate, or a surrogate pair. -/
theorem utf16_cases (c : Char) :
    (∃ unit, JsonText.utf16 c = [unit] ∧ isLeading unit = false ∧ isTrailing unit = false ∧
      Char.ofNat unit.toNat = c) ∨
    ∃ leading trailing, JsonText.utf16 c = [leading, trailing] ∧ isLeading leading = true ∧
      isTrailing trailing = true ∧ pairChar leading trailing = c := by
  have hvalid : c.toNat < 0xd800 ∨ 0xdfff < c.toNat ∧ c.toNat < 0x110000 := c.valid
  unfold JsonText.utf16
  split
  case isTrue hlt =>
    have hunit : (UInt16.ofNat c.toNat).toNat = c.toNat := by
      rw [UInt16.toNat_ofNat']
      omega
    refine .inl ⟨_, rfl, ?_, ?_, ?_⟩
    · rw [Bool.eq_false_iff, ne_eq, isLeading_iff, hunit]
      omega
    · rw [Bool.eq_false_iff, ne_eq, isTrailing_iff, hunit]
      omega
    · rw [hunit, Char.ofNat_toNat]
  case isFalse hge =>
    have hfirst : (UInt16.ofNat (0xd800 + (c.toNat - 0x10000) / 0x400)).toNat =
        0xd800 + (c.toNat - 0x10000) / 0x400 := by
      rw [UInt16.toNat_ofNat']
      omega
    have hsecond : (UInt16.ofNat (0xdc00 + (c.toNat - 0x10000) % 0x400)).toNat =
        0xdc00 + (c.toNat - 0x10000) % 0x400 := by
      rw [UInt16.toNat_ofNat']
      omega
    refine .inr ⟨_, _, rfl, ?_, ?_, ?_⟩
    · rw [isLeading_iff, hfirst]
      omega
    · rw [isTrailing_iff, hsecond]
      omega
    · refine Char.toNat_inj.mp ?_
      rw [pairChar, hfirst, hsecond, toNat_charOfNat (by omega)]
      omega

end EcSystemCore.Web
