import EcSystemCore.Protocol.Types

/-!
# Text on the wire

`IsValidUtf8` of `protocol.hpp`, which checks the strings of a BusInfo, and what it
accepts: the UTF-8 encodings of the texts without a NUL (`isValidUtf8_iff`), each
character being a Unicode scalar value and encoded in its shortest form.
-/

namespace EcSystemCore

/-- The byte continues a sequence. -/
def isContinuation (byte : UInt8) : Bool := byte &&& 0xc0 == 0x80

/-- The code point with the bits of one more continuation byte. -/
def appendBits (codePoint : ℕ) (byte : UInt8) : ℕ := codePoint <<< 6 ||| (byte &&& 0x3f).toNat

/-- The code point is not overlong, not too large and not a surrogate. -/
def isScalar (continuationCount codePoint : ℕ) : Bool :=
  !((continuationCount == 1 && codePoint < 0x80) || (continuationCount == 2 && codePoint < 0x800) ||
    (continuationCount == 3 && codePoint < 0x10000) || codePoint > 0x10ffff ||
    (codePoint ≥ 0xd800 && codePoint ≤ 0xdfff))

/-- `IsValidUtf8`. -/
def isValidUtf8 : Bytes → Bool
  | [] => true
  | first :: text =>
    if first = 0 then false
    else if first ≤ 0x7f then isValidUtf8 text
    else if first &&& 0xe0 = 0xc0 then
      match text with
      | b₁ :: text =>
        isContinuation b₁ && isScalar 1 (appendBits (first &&& 0x1f).toNat b₁) &&
          isValidUtf8 text
      | _ => false
    else if first &&& 0xf0 = 0xe0 then
      match text with
      | b₁ :: b₂ :: text =>
        isContinuation b₁ && isContinuation b₂ &&
          isScalar 2 (appendBits (appendBits (first &&& 0x0f).toNat b₁) b₂) &&
          isValidUtf8 text
      | _ => false
    else if first &&& 0xf8 = 0xf0 then
      match text with
      | b₁ :: b₂ :: b₃ :: text =>
        isContinuation b₁ && isContinuation b₂ && isContinuation b₃ &&
          isScalar 3 (appendBits (appendBits (appendBits (first &&& 0x07).toNat b₁) b₂) b₃) &&
          isValidUtf8 text
      | _ => false
    else false

/-! ### The bytes of a sequence in numbers -/

section Numbers

variable (byte : UInt8)

@[elab_as_elim]
theorem forall_byte {motive : UInt8 → Prop} (byte : UInt8)
    (h : ∀ n : Fin 256, motive (.ofFin n)) : motive byte := h byte.toFin

/-- The masks the reader applies, as ranges of the byte's value. -/
theorem byte_masks :
    ((byte &&& 0x3f).toNat = byte.toNat % 64 ∧ (byte &&& 0x1f).toNat = byte.toNat % 32 ∧
      (byte &&& 0x0f).toNat = byte.toNat % 16 ∧ (byte &&& 0x07).toNat = byte.toNat % 8) ∧
    (isContinuation byte = true ↔ 0x80 ≤ byte.toNat ∧ byte.toNat < 0xc0) ∧
    (byte &&& 0xe0 = 0xc0 ↔ 0xc0 ≤ byte.toNat ∧ byte.toNat < 0xe0) ∧
    (byte &&& 0xf0 = 0xe0 ↔ 0xe0 ≤ byte.toNat ∧ byte.toNat < 0xf0) ∧
    (byte &&& 0xf8 = 0xf0 ↔ 0xf0 ≤ byte.toNat ∧ byte.toNat < 0xf8) :=
  forall_byte byte (by decide +kernel)

theorem toNat_low_bits : (byte &&& 0x3f).toNat = byte.toNat % 64 ∧
    (byte &&& 0x1f).toNat = byte.toNat % 32 ∧ (byte &&& 0x0f).toNat = byte.toNat % 16 ∧
    (byte &&& 0x07).toNat = byte.toNat % 8 :=
  (byte_masks byte).1

theorem isContinuation_iff :
    isContinuation byte = true ↔ 0x80 ≤ byte.toNat ∧ byte.toNat < 0xc0 :=
  (byte_masks byte).2.1

theorem startsTwo_iff : byte &&& 0xe0 = 0xc0 ↔ 0xc0 ≤ byte.toNat ∧ byte.toNat < 0xe0 :=
  (byte_masks byte).2.2.1

theorem startsThree_iff : byte &&& 0xf0 = 0xe0 ↔ 0xe0 ≤ byte.toNat ∧ byte.toNat < 0xf0 :=
  (byte_masks byte).2.2.2.1

theorem startsFour_iff : byte &&& 0xf8 = 0xf0 ↔ 0xf0 ≤ byte.toNat ∧ byte.toNat < 0xf8 :=
  (byte_masks byte).2.2.2.2

theorem appendBits_eq (codePoint : ℕ) :
    appendBits codePoint byte = codePoint * 64 + byte.toNat % 64 := by
  have hlow : byte.toNat % 64 < 2 ^ 6 := Nat.mod_lt _ (by decide)
  unfold appendBits
  rw [(toNat_low_bits byte).1, ← Nat.shiftLeft_add_eq_or_of_lt hlow, Nat.shiftLeft_eq]

end Numbers

/-! ### Sequences -/

section Sequences

variable {first b₁ b₂ b₃ : UInt8} (text : Bytes)

variable (first) in
/-- The reader's loop body. -/
theorem isValidUtf8_cons : isValidUtf8 (first :: text) =
    if first = 0 then false
    else if first ≤ 0x7f then isValidUtf8 text
    else if first &&& 0xe0 = 0xc0 then
      match text with
      | b₁ :: text =>
        isContinuation b₁ && isScalar 1 (appendBits (first &&& 0x1f).toNat b₁) &&
          isValidUtf8 text
      | _ => false
    else if first &&& 0xf0 = 0xe0 then
      match text with
      | b₁ :: b₂ :: text =>
        isContinuation b₁ && isContinuation b₂ &&
          isScalar 2 (appendBits (appendBits (first &&& 0x0f).toNat b₁) b₂) &&
          isValidUtf8 text
      | _ => false
    else if first &&& 0xf8 = 0xf0 then
      match text with
      | b₁ :: b₂ :: b₃ :: text =>
        isContinuation b₁ && isContinuation b₂ && isContinuation b₃ &&
          isScalar 3 (appendBits (appendBits (appendBits (first &&& 0x07).toNat b₁) b₂) b₃) &&
          isValidUtf8 text
      | _ => false
    else false :=
  isValidUtf8.eq_def (first :: text)

theorem isValidUtf8_one (h : 0 < first.toNat ∧ first.toNat < 0x80) :
    isValidUtf8 (first :: text) = isValidUtf8 text := by
  have hzero : first ≠ 0 := fun hzero => by simp [hzero] at h
  have hascii : first ≤ 0x7f := UInt8.le_iff_toNat_le.mpr (Nat.le_of_lt_succ h.2)
  rw [isValidUtf8_cons]
  simp only [hzero, hascii, if_true, if_false]

/-- A first byte from `0x80` on is neither NUL nor a character of its own. -/
theorem not_ascii (first : UInt8) (h : 0x80 ≤ first.toNat) : first ≠ 0 ∧ ¬first ≤ 0x7f := by
  refine ⟨fun hzero => by simp [hzero] at h, fun hascii => ?_⟩
  have hle := UInt8.le_iff_toNat_le.mp hascii
  simp at hle
  omega

theorem isValidUtf8_two (h : 0xc0 ≤ first.toNat ∧ first.toNat < 0xe0) :
    isValidUtf8 (first :: b₁ :: text) =
      (isContinuation b₁ && isScalar 1 (first.toNat % 32 * 64 + b₁.toNat % 64) &&
        isValidUtf8 text) := by
  obtain ⟨hzero, hascii⟩ := not_ascii first (by omega)
  rw [isValidUtf8_cons]
  simp only [hzero, hascii, (startsTwo_iff first).mpr h, if_true, if_false, appendBits_eq,
    toNat_low_bits]

theorem isValidUtf8_three (h : 0xe0 ≤ first.toNat ∧ first.toNat < 0xf0) :
    isValidUtf8 (first :: b₁ :: b₂ :: text) =
      (isContinuation b₁ && isContinuation b₂ &&
        isScalar 2 ((first.toNat % 16 * 64 + b₁.toNat % 64) * 64 + b₂.toNat % 64) &&
        isValidUtf8 text) := by
  obtain ⟨hzero, hascii⟩ := not_ascii first (by omega)
  have htwo : ¬first &&& 0xe0 = 0xc0 := by rw [startsTwo_iff]; omega
  rw [isValidUtf8_cons]
  simp only [hzero, hascii, htwo, (startsThree_iff first).mpr h, if_true, if_false,
    appendBits_eq, toNat_low_bits]

theorem isValidUtf8_four (h : 0xf0 ≤ first.toNat ∧ first.toNat < 0xf8) :
    isValidUtf8 (first :: b₁ :: b₂ :: b₃ :: text) =
      (isContinuation b₁ && isContinuation b₂ && isContinuation b₃ &&
        isScalar 3 (((first.toNat % 8 * 64 + b₁.toNat % 64) * 64 + b₂.toNat % 64) * 64 +
          b₃.toNat % 64) &&
        isValidUtf8 text) := by
  obtain ⟨hzero, hascii⟩ := not_ascii first (by omega)
  have htwo : ¬first &&& 0xe0 = 0xc0 := by rw [startsTwo_iff]; omega
  have hthree : ¬first &&& 0xf0 = 0xe0 := by rw [startsThree_iff]; omega
  rw [isValidUtf8_cons]
  simp only [hzero, hascii, htwo, hthree, (startsFour_iff first).mpr h, if_true, if_false,
    appendBits_eq, toNat_low_bits]

/-- No sequence starts with a continuation byte, or with a byte from `0xf8` on. -/
theorem isValidUtf8_stray (h : 0x80 ≤ first.toNat ∧ first.toNat < 0xc0 ∨ 0xf8 ≤ first.toNat) :
    isValidUtf8 (first :: text) = false := by
  obtain ⟨hzero, hascii⟩ := not_ascii first (by omega)
  have htwo : ¬first &&& 0xe0 = 0xc0 := by rw [startsTwo_iff]; omega
  have hthree : ¬first &&& 0xf0 = 0xe0 := by rw [startsThree_iff]; omega
  have hfour : ¬first &&& 0xf8 = 0xf0 := by rw [startsFour_iff]; omega
  rw [isValidUtf8_cons]
  simp only [hzero, hascii, htwo, hthree, hfour, if_false]

/-- A sequence is as long as its first byte says. -/
theorem length_of_isValidUtf8 (h : isValidUtf8 (first :: text) = true) :
    (0xc0 ≤ first.toNat → 1 ≤ text.length) ∧ (0xe0 ≤ first.toNat → 2 ≤ text.length) ∧
      (0xf0 ≤ first.toNat → 3 ≤ text.length) := by
  rw [isValidUtf8_cons] at h
  simp only [startsTwo_iff, startsThree_iff, startsFour_iff] at h
  split_ifs at h with hzero hascii htwo hthree hfour
  · have hle : first.toNat ≤ 127 := UInt8.le_iff_toNat_le.mp hascii
    omega
  · split at h
    · simp only [List.length_cons]
      omega
    · cases h
  · split at h
    · simp only [List.length_cons]
      omega
    · cases h
  · split at h
    · simp only [List.length_cons]
      omega
    · cases h

end Sequences

/-! ### Characters -/

theorem isScalar_iff (continuationCount codePoint : ℕ) :
    isScalar continuationCount codePoint = true ↔
      (continuationCount ≠ 1 ∨ 0x80 ≤ codePoint) ∧ (continuationCount ≠ 2 ∨ 0x800 ≤ codePoint) ∧
        (continuationCount ≠ 3 ∨ 0x10000 ≤ codePoint) ∧ codePoint ≤ 0x10ffff ∧
        (codePoint < 0xd800 ∨ 0xdfff < codePoint) := by
  simp [isScalar, and_assoc]

/-- A character in front is skipped, unless it is NUL. -/
theorem isValidUtf8_char {c : Char} (hc : c.toNat ≠ 0) (text : Bytes) :
    isValidUtf8 (String.utf8EncodeChar c ++ text) = isValidUtf8 text := by
  have hvalid : c.toNat < 0xd800 ∨ 0xdfff < c.toNat ∧ c.toNat < 0x110000 := c.valid
  have hbyte : ∀ n < 256, (UInt8.ofNat n).toNat = n := fun n hn => by
    rw [UInt8.toNat_ofNat', Nat.mod_eq_of_lt hn]
  have hcontinues : ∀ n < 64, isContinuation (.ofNat (n + 128)) = true := fun n hn => by
    rw [isContinuation_iff, hbyte (n + 128) (by omega)]
    omega
  unfold String.utf8EncodeChar
  change c.val.toNat ≠ 0 at hc
  change c.val.toNat < 0xd800 ∨ 0xdfff < c.val.toNat ∧ c.val.toNat < 0x110000 at hvalid
  generalize c.val.toNat = v at *
  have hlast := hbyte (v % 64 + 128) (by omega)
  have hlow : v % 64 < 64 := Nat.mod_lt _ (by decide)
  dsimp only
  split_ifs with h₁ h₂ h₃
  · exact isValidUtf8_one text (by rw [hbyte v (by omega)]; omega)
  · have hfirst := hbyte (v / 64 % 32 + 192) (by omega)
    refine (isValidUtf8_two text (by rw [hfirst]; omega)).trans ?_
    have hscalar : isScalar 1 ((v / 64 % 32 + 192) % 32 * 64 + (v % 64 + 128) % 64) = true := by
      rw [isScalar_iff]
      omega
    rw [hfirst, hlast, hcontinues _ hlow, hscalar]
    rfl
  · have hfirst := hbyte (v / 4096 % 16 + 224) (by omega)
    have hmiddle := hbyte (v / 64 % 64 + 128) (by omega)
    refine (isValidUtf8_three text (by rw [hfirst]; omega)).trans ?_
    have hscalar : isScalar 2 (((v / 4096 % 16 + 224) % 16 * 64 + (v / 64 % 64 + 128) % 64) * 64 +
        (v % 64 + 128) % 64) = true := by
      rw [isScalar_iff]
      omega
    rw [hfirst, hmiddle, hlast, hcontinues _ hlow, hcontinues _ (Nat.mod_lt _ (by decide)), hscalar]
    rfl
  · have hfirst := hbyte (v / 262144 % 8 + 240) (by omega)
    have hsecond := hbyte (v / 4096 % 64 + 128) (by omega)
    have hmiddle := hbyte (v / 64 % 64 + 128) (by omega)
    refine (isValidUtf8_four text (by rw [hfirst]; omega)).trans ?_
    have hscalar : isScalar 3 ((((v / 262144 % 8 + 240) % 8 * 64 + (v / 4096 % 64 + 128) % 64) * 64 +
        (v / 64 % 64 + 128) % 64) * 64 + (v % 64 + 128) % 64) = true := by
      rw [isScalar_iff]
      omega
    rw [hfirst, hsecond, hmiddle, hlast, hcontinues _ hlow, hcontinues _ (Nat.mod_lt _ (by decide)),
      hcontinues _ (Nat.mod_lt _ (by decide)), hscalar]
    rfl

/-- Every scalar value is a character. -/
theorem exists_char {n : ℕ} (h : n < 0xd800 ∨ 0xdfff < n ∧ n ≤ 0x10ffff) :
    ∃ c : Char, c.val.toNat = n := by
  have hlt : n < UInt32.size := by
    unfold UInt32.size
    omega
  have hnat : (UInt32.ofNat n).toNat = n := UInt32.toNat_ofNat_of_lt hlt
  have hvalid : (UInt32.ofNat n).isValidChar := by
    unfold UInt32.isValidChar
    rw [hnat]
    unfold Nat.isValidChar
    omega
  exact ⟨⟨UInt32.ofNat n, hvalid⟩, hnat⟩

/-- A byte is determined by its number. -/
theorem eq_ofNat {byte : UInt8} {n : ℕ} (h : byte.toNat = n) : byte = UInt8.ofNat n := by
  rw [← h, UInt8.ofNat_toNat]

/-- Accepted bytes start with a character. -/
theorem exists_char_of_isValidUtf8 {first : UInt8} {text : Bytes}
    (h : isValidUtf8 (first :: text) = true) :
    ∃ (c : Char) (rest : Bytes), c.toNat ≠ 0 ∧
      first :: text = String.utf8EncodeChar c ++ rest ∧ isValidUtf8 rest = true := by
  have hfirst := first.toNat_lt
  obtain hzero | hone | hnone | htwo | hthree | hfour | hlarge : first.toNat = 0 ∨
      (0 < first.toNat ∧ first.toNat < 0x80) ∨ (0x80 ≤ first.toNat ∧ first.toNat < 0xc0) ∨
      (0xc0 ≤ first.toNat ∧ first.toNat < 0xe0) ∨ (0xe0 ≤ first.toNat ∧ first.toNat < 0xf0) ∨
      (0xf0 ≤ first.toNat ∧ first.toNat < 0xf8) ∨ 0xf8 ≤ first.toNat := by omega
  · rw [eq_ofNat hzero, isValidUtf8_cons] at h
    simp at h
  · rw [isValidUtf8_one text hone] at h
    obtain ⟨c, hc⟩ := exists_char (n := first.toNat) (by omega)
    refine ⟨c, text, by change c.val.toNat ≠ 0; omega, ?_, h⟩
    unfold String.utf8EncodeChar
    dsimp only
    rw [hc, UInt8.ofNat_toNat, if_pos (by omega)]
    rfl
  · rw [isValidUtf8_stray text (.inl hnone)] at h
    cases h
  · obtain ⟨b₁, rest, rfl⟩ := List.exists_cons_of_length_pos ((length_of_isValidUtf8 text h).1 htwo.1)
    rw [isValidUtf8_two rest htwo, Bool.and_eq_true, Bool.and_eq_true, isContinuation_iff,
      isScalar_iff] at h
    generalize hv : first.toNat % 32 * 64 + b₁.toNat % 64 = v at h
    obtain ⟨c, hc⟩ := exists_char (n := v) (by omega)
    have hfirst : first = .ofNat (v / 64 % 32 + 192) := eq_ofNat (by omega)
    have hlast : b₁ = .ofNat (v % 64 + 128) := eq_ofNat (by omega)
    refine ⟨c, rest, by change c.val.toNat ≠ 0; omega, ?_, h.2⟩
    unfold String.utf8EncodeChar
    dsimp only
    rw [hc, ← hfirst, ← hlast, if_neg (by omega), if_pos (by omega)]
    rfl
  · obtain ⟨b₁, text, rfl⟩ := List.exists_cons_of_length_pos
      (Nat.lt_of_lt_of_le Nat.zero_lt_one ((length_of_isValidUtf8 text h).1 (by omega)))
    obtain ⟨b₂, rest, rfl⟩ := List.exists_cons_of_length_pos
      (Nat.le_of_succ_le_succ ((length_of_isValidUtf8 _ h).2.1 hthree.1))
    rw [isValidUtf8_three rest hthree] at h
    simp only [Bool.and_eq_true, isContinuation_iff, isScalar_iff] at h
    generalize hv : (first.toNat % 16 * 64 + b₁.toNat % 64) * 64 + b₂.toNat % 64 = v at h
    obtain ⟨c, hc⟩ := exists_char (n := v) (by omega)
    have hfirst : first = .ofNat (v / 4096 % 16 + 224) := eq_ofNat (by omega)
    have hmiddle : b₁ = .ofNat (v / 64 % 64 + 128) := eq_ofNat (by omega)
    have hlast : b₂ = .ofNat (v % 64 + 128) := eq_ofNat (by omega)
    refine ⟨c, rest, by change c.val.toNat ≠ 0; omega, ?_, h.2⟩
    unfold String.utf8EncodeChar
    dsimp only
    rw [hc, ← hfirst, ← hmiddle, ← hlast, if_neg (by omega), if_neg (by omega), if_pos (by omega)]
    rfl
  · obtain ⟨b₁, text, rfl⟩ := List.exists_cons_of_length_pos
      (Nat.lt_of_lt_of_le Nat.zero_lt_one ((length_of_isValidUtf8 text h).1 (by omega)))
    obtain ⟨b₂, text, rfl⟩ := List.exists_cons_of_length_pos
      (Nat.le_of_succ_le_succ ((length_of_isValidUtf8 _ h).2.1 (by omega)))
    obtain ⟨b₃, rest, rfl⟩ := List.exists_cons_of_length_pos
      (Nat.le_of_succ_le_succ (Nat.le_of_succ_le_succ ((length_of_isValidUtf8 _ h).2.2 hfour.1)))
    rw [isValidUtf8_four rest hfour] at h
    simp only [Bool.and_eq_true, isContinuation_iff, isScalar_iff] at h
    generalize hv : ((first.toNat % 8 * 64 + b₁.toNat % 64) * 64 + b₂.toNat % 64) * 64 +
      b₃.toNat % 64 = v at h
    obtain ⟨c, hc⟩ := exists_char (n := v) (by omega)
    have hfirst : first = .ofNat (v / 262144 % 8 + 240) := eq_ofNat (by omega)
    have hsecond : b₁ = .ofNat (v / 4096 % 64 + 128) := eq_ofNat (by omega)
    have hmiddle : b₂ = .ofNat (v / 64 % 64 + 128) := eq_ofNat (by omega)
    have hlast : b₃ = .ofNat (v % 64 + 128) := eq_ofNat (by omega)
    refine ⟨c, rest, by change c.val.toNat ≠ 0; omega, ?_, h.2⟩
    unfold String.utf8EncodeChar
    dsimp only
    rw [hc, ← hfirst, ← hsecond, ← hmiddle, ← hlast, if_neg (by omega), if_neg (by omega),
      if_neg (by omega)]
    rfl
  · rw [isValidUtf8_stray text (.inr hlarge)] at h
    cases h

/-- **`IsValidUtf8` accepts the encodings of the texts without a NUL**, and nothing else. -/
theorem isValidUtf8_iff (text : Bytes) : isValidUtf8 text = true ↔
    ∃ chars : List Char, (∀ c ∈ chars, c.toNat ≠ 0) ∧
      text = chars.flatMap String.utf8EncodeChar := by
  constructor
  · -- by the length of the text: a character is taken off the front
    induction hlength : text.length using Nat.strongRecOn generalizing text with
    | _ length ih =>
      intro h
      cases text with
      | nil => exact ⟨[], by simp⟩
      | cons first text =>
        obtain ⟨c, rest, hc, htext, hrest⟩ := exists_char_of_isValidUtf8 h
        have hshort : rest.length < length := by
          rw [← hlength, htext, List.length_append]
          have := List.length_pos_of_ne_nil (String.utf8EncodeChar_ne_nil (c := c))
          omega
        obtain ⟨chars, hchars, rfl⟩ := ih _ hshort rest rfl hrest
        refine ⟨c :: chars, ?_, htext⟩
        simpa using ⟨hc, hchars⟩
  · rintro ⟨chars, hchars, rfl⟩
    induction chars with
    | nil => rfl
    | cons c chars ih =>
      rw [List.flatMap_cons, isValidUtf8_char (hchars c List.mem_cons_self)]
      exact ih fun other hother => hchars other (List.mem_cons_of_mem c hother)

/-! ### The clients' libraries -/

/-- The strict UTF-8 decoder of the Java and Python libraries. -/
def decodeUtf8 (encoded : Bytes) : Option String := String.fromUTF8? encoded.toByteArray

theorem decodeUtf8_eq_some_iff {encoded : Bytes} {text : String} :
    decodeUtf8 encoded = some text ↔ encoded = text.toList.flatMap String.utf8EncodeChar := by
  have hbytes : encoded.toByteArray = text.toByteArray ↔
      encoded = text.toList.flatMap String.utf8EncodeChar := by
    rw [← String.utf8Encode_toList, List.utf8Encode]
    exact List.toByteArray_inj
  rw [← hbytes]
  unfold decodeUtf8 String.fromUTF8?
  constructor
  · intro h
    split at h
    · cases h
      rfl
    · cases h
  · intro h
    have hvalid : encoded.toByteArray.IsValidUTF8 := h ▸ text.isValidUTF8
    rw [dif_pos hvalid]
    exact congrArg some (String.toByteArray_inj.mp h)

/-- `strictUtf8` of the Java client, and what the Python client does with a string: the text,
if the bytes are UTF-8 and it has no NUL. -/
def strictUtf8 (encoded : Bytes) : Option String := do
  let value ← decodeUtf8 encoded
  if value.toList.any (·.toNat == 0) then none else some value

/-- The clients accept the same strings as `IsValidUtf8`. -/
theorem strictUtf8_eq_some_iff {encoded : Bytes} {text : String} :
    strictUtf8 encoded = some text ↔
      isValidUtf8 encoded = true ∧ decodeUtf8 encoded = some text := by
  rw [isValidUtf8_iff]
  constructor
  · intro h
    obtain ⟨value, hdecode, hvalue⟩ := Option.bind_eq_some_iff.mp h
    split_ifs at hvalue with hnul
    cases hvalue
    refine ⟨⟨text.toList, fun c hc hzero => hnul ?_, decodeUtf8_eq_some_iff.mp hdecode⟩, hdecode⟩
    exact List.any_eq_true.mpr ⟨c, hc, beq_iff_eq.mpr hzero⟩
  · rintro ⟨⟨chars, hchars, hencoded⟩, hdecode⟩
    -- the bytes determine the characters
    have htext : some text = some (String.ofList chars) := by
      rw [← hdecode, decodeUtf8_eq_some_iff, String.toList_ofList]
      exact hencoded
    cases htext
    have hnul : ¬(String.ofList chars).toList.any (·.toNat == 0) = true := by
      rw [String.toList_ofList, List.any_eq_true]
      rintro ⟨c, hc, hzero⟩
      exact hchars c hc (beq_iff_eq.mp hzero)
    exact Option.bind_eq_some_iff.mpr ⟨_, hdecode, if_neg hnul⟩

end EcSystemCore
