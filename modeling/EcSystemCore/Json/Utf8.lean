import EcSystemCore.Json.MiniJson
import EcSystemCore.Web.Utf8Text

/-!
# UTF-8 in the daemon

The daemon checks UTF-8 with two loops of its own: `IsValidUtf8` of `protocol.hpp` and
`isValidUtf8` of `mini_json.hpp`.  They differ in NUL only, which the first refuses.  So the
second skips what the first accepts (`isValidUtf8_append`), and what it accepts is made of NULs
and of texts the first accepts.
-/

namespace EcSystemCore.Json.Parser

open Web

/-- What the protocol's check accepts, the reader's check skips. -/
theorem isValidUtf8_append {bytes : Bytes} (h : EcSystemCore.isValidUtf8 bytes = true) (text : Bytes) :
    isValidUtf8 (bytes ++ text) = isValidUtf8 text := by
  fun_induction EcSystemCore.isValidUtf8 bytes with
  | case1 => rfl
  | case2 => cases h
  | case3 first bytes hzero hascii ih =>
    rw [List.cons_append, isValidUtf8.eq_def]
    simp only [hascii, if_true]
    exact ih h
  | case4 first hzero hascii htwo b₁ bytes ih =>
    simp only [Bool.and_eq_true] at h
    rw [List.cons_append, isValidUtf8.eq_def]
    simp only [hascii, htwo, if_true, if_false, List.cons_append, h.1.1, h.1.2, Bool.true_and]
    exact ih h.2
  | case5 => cases h
  | case6 first hzero hascii htwo hthree b₁ b₂ bytes ih =>
    simp only [Bool.and_eq_true] at h
    rw [List.cons_append, isValidUtf8.eq_def]
    simp only [hascii, htwo, hthree, if_true, if_false, List.cons_append, h.1.1.1, h.1.1.2, h.1.2,
      Bool.true_and]
    exact ih h.2
  | case7 => cases h
  | case8 first hzero hascii htwo hthree hfour b₁ b₂ b₃ bytes ih =>
    simp only [Bool.and_eq_true] at h
    rw [List.cons_append, isValidUtf8.eq_def]
    simp only [hascii, htwo, hthree, hfour, if_true, if_false, List.cons_append, h.1.1.1.1,
      h.1.1.1.2, h.1.1.2, h.1.2, Bool.true_and]
    exact ih h.2
  | case9 => cases h
  | case10 => cases h

/-- The bytes of characters are UTF-8. -/
theorem isValidUtf8_utf8 (chars : List Char) : isValidUtf8 (utf8 chars) = true := by
  induction chars with
  | nil => rfl
  | cons c chars ih =>
    rw [utf8_cons]
    by_cases hc : c.toNat = 0
    · rw [utf8EncodeChar_ascii (by omega), asciiChar, hc, List.singleton_append,
        isValidUtf8.eq_def]
      simpa using ih
    · have hvalid : EcSystemCore.isValidUtf8 (String.utf8EncodeChar c) = true := by
        have := isValidUtf8_char hc []
        rwa [List.append_nil] at this
      rw [isValidUtf8_append hvalid]
      exact ih

/-- What the reader's check accepts is UTF-8. -/
theorem exists_chars_of_isValidUtf8 {bytes : Bytes} (h : isValidUtf8 bytes = true) :
    ∃ chars, bytes = utf8 chars := by
  -- the bytes of the first character pass the protocol's check too, unless it is a NUL
  have hsplit : ∀ {first : UInt8} {text : Bytes},
      isValidUtf8 (first :: text) = true → ∃ front rest, first :: text = front ++ rest ∧
        front ≠ [] ∧ (front = [0] ∨ EcSystemCore.isValidUtf8 front = true) ∧
        isValidUtf8 rest = true := by
    intro first text hvalid
    rw [isValidUtf8.eq_def] at hvalid
    dsimp only at hvalid
    split_ifs at hvalid with hascii htwo hthree hfour
    · refine ⟨[first], text, rfl, by simp, ?_, hvalid⟩
      by_cases hzero : first = 0
      · exact .inl (by rw [hzero])
      · exact .inr (by simp [EcSystemCore.isValidUtf8, hzero, hascii])
    all_goals
      have hzero : first ≠ 0 := fun hzero => hascii (by simp [hzero])
      split at hvalid
      case h_2 => cases hvalid
      simp only [Bool.and_eq_true] at hvalid
    · rename_i b₁ rest
      refine ⟨[first, b₁], rest, rfl, by simp, .inr ?_, hvalid.2⟩
      simp [EcSystemCore.isValidUtf8, hzero, hascii, htwo, hvalid, -UInt8.toNat_and]
    · rename_i b₁ b₂ rest
      refine ⟨[first, b₁, b₂], rest, rfl, by simp, .inr ?_, hvalid.2⟩
      simp [EcSystemCore.isValidUtf8, hzero, hascii, htwo, hthree, hvalid, -UInt8.toNat_and]
    · rename_i b₁ b₂ b₃ rest
      refine ⟨[first, b₁, b₂, b₃], rest, rfl, by simp, .inr ?_, hvalid.2⟩
      simp [EcSystemCore.isValidUtf8, hzero, hascii, htwo, hthree, hfour, hvalid,
        -UInt8.toNat_and]
  induction hlength : bytes.length using Nat.strongRecOn generalizing bytes with
  | _ length ih =>
    cases bytes with
    | nil => exact ⟨[], rfl⟩
    | cons first text =>
      obtain ⟨front, rest, hbytes, hne, hfront, hrest⟩ := hsplit h
      have hshort : rest.length < length := by
        have hlengths := congrArg List.length hbytes
        have hpos := List.length_pos_of_ne_nil hne
        rw [List.length_append] at hlengths
        omega
      obtain ⟨back, rfl⟩ := ih _ hshort hrest rfl
      obtain ⟨chars, rfl⟩ : ∃ chars, front = utf8 chars := by
        rcases hfront with rfl | hvalid
        · exact ⟨['\x00'], rfl⟩
        · obtain ⟨chars, -, hchars⟩ := (EcSystemCore.isValidUtf8_iff front).mp hvalid
          exact ⟨chars, hchars⟩
      exact ⟨chars ++ back, by rw [hbytes, utf8_append]⟩

/-- Without a NUL byte, both checks agree. -/
theorem isValidUtf8_of_nonzero {bytes : Bytes} (hnonzero : 0 ∉ bytes)
    (h : isValidUtf8 bytes = true) : EcSystemCore.isValidUtf8 bytes = true := by
  obtain ⟨chars, rfl⟩ := exists_chars_of_isValidUtf8 h
  refine (EcSystemCore.isValidUtf8_iff _).mpr ⟨chars, fun c hc hzero => hnonzero ?_, rfl⟩
  refine List.mem_flatMap.mpr ⟨c, hc, ?_⟩
  rw [utf8EncodeChar_ascii (by omega), asciiChar, hzero]
  exact List.mem_singleton_self 0

/-! ### Malformed sequences -/

/-- The bytes that spell a number with one, two or three continuation bytes, whether or not it
is a code point and needs that many. -/
def spell (continuations v : ℕ) : Bytes :=
  match continuations with
  | 1 => [.ofNat (0xc0 + v / 64), .ofNat (0x80 + v % 64)]
  | 2 => [.ofNat (0xe0 + v / 4096), .ofNat (0x80 + v / 64 % 64), .ofNat (0x80 + v % 64)]
  | _ => [.ofNat (0xf0 + v / 262144), .ofNat (0x80 + v / 4096 % 64), .ofNat (0x80 + v / 64 % 64),
      .ofNat (0x80 + v % 64)]

/-- A sequence that is the encoding of no scalar value. -/
inductive Malformed : Bytes → Prop
  | overlongTwo {v : ℕ} (h : v < 0x80) : Malformed (spell 1 v)
  | overlongThree {v : ℕ} (h : v < 0x800) : Malformed (spell 2 v)
  | overlongFour {v : ℕ} (h : v < 0x10000) : Malformed (spell 3 v)
  | surrogate {v : ℕ} (h : 0xd800 ≤ v ∧ v ≤ 0xdfff) : Malformed (spell 2 v)
  | tooLarge {v : ℕ} (h : 0x10ffff < v ∧ v < 0x200000) : Malformed (spell 3 v)
  | truncated {c : Char} {length : ℕ} (hpos : 0 < length)
      (h : length < (String.utf8EncodeChar c).length) :
      Malformed ((String.utf8EncodeChar c).take length)

theorem toNat_ofNat_of_lt {n : ℕ} (h : n < 256) : (UInt8.ofNat n).toNat = n := by
  rw [UInt8.toNat_ofNat', Nat.mod_eq_of_lt h]

section Spelling

variable {continuations v : ℕ}
  (hfits : continuations = 1 ∧ v < 0x800 ∨ continuations = 2 ∧ v < 0x10000 ∨
    continuations = 3 ∧ v < 0x200000)
include hfits

/-- What is spelled with too many bytes, or is no scalar value, is refused. -/
theorem isValidUtf8_spell (h : isScalar continuations v = false) :
    EcSystemCore.isValidUtf8 (spell continuations v) = false := by
  obtain ⟨rfl, hv⟩ | ⟨rfl, hv⟩ | ⟨rfl, hv⟩ := hfits
  · have hlead := toNat_ofNat_of_lt (n := 0xc0 + v / 64) (by omega)
    have hlast := toNat_ofNat_of_lt (n := 0x80 + v % 64) (by omega)
    have hnumber : (0xc0 + v / 64) % 32 * 64 + (0x80 + v % 64) % 64 = v := by omega
    refine (isValidUtf8_two [] (by omega)).trans ?_
    rw [hlead, hlast, hnumber, h, Bool.and_false, Bool.false_and]
  · have hlead := toNat_ofNat_of_lt (n := 0xe0 + v / 4096) (by omega)
    have hmiddle := toNat_ofNat_of_lt (n := 0x80 + v / 64 % 64) (by omega)
    have hlast := toNat_ofNat_of_lt (n := 0x80 + v % 64) (by omega)
    have hnumber : ((0xe0 + v / 4096) % 16 * 64 + (0x80 + v / 64 % 64) % 64) * 64 +
        (0x80 + v % 64) % 64 = v := by omega
    refine (isValidUtf8_three [] (by omega)).trans ?_
    rw [hlead, hmiddle, hlast, hnumber, h, Bool.and_false, Bool.false_and]
  · have hlead := toNat_ofNat_of_lt (n := 0xf0 + v / 262144) (by omega)
    have hsecond := toNat_ofNat_of_lt (n := 0x80 + v / 4096 % 64) (by omega)
    have hmiddle := toNat_ofNat_of_lt (n := 0x80 + v / 64 % 64) (by omega)
    have hlast := toNat_ofNat_of_lt (n := 0x80 + v % 64) (by omega)
    have hnumber : (((0xf0 + v / 262144) % 8 * 64 + (0x80 + v / 4096 % 64) % 64) * 64 +
        (0x80 + v / 64 % 64) % 64) * 64 + (0x80 + v % 64) % 64 = v := by omega
    refine (isValidUtf8_four [] (by omega)).trans ?_
    rw [hlead, hsecond, hmiddle, hlast, hnumber, h, Bool.and_false, Bool.false_and]

theorem nonzero_of_spell : 0 ∉ spell continuations v := by
  have hbyte : ∀ n, 0 < n → n < 256 → (0 : UInt8) ≠ .ofNat n := by
    intro n hpos hn hzero
    rw [← toNat_ofNat_of_lt hn, ← hzero] at hpos
    exact absurd hpos (by decide)
  obtain ⟨rfl, hv⟩ | ⟨rfl, hv⟩ | ⟨rfl, hv⟩ := hfits <;>
    simp only [spell, List.mem_cons, List.not_mem_nil, or_false, not_or]
  · exact ⟨hbyte _ (by omega) (by omega), hbyte _ (by omega) (by omega)⟩
  · exact ⟨hbyte _ (by omega) (by omega), hbyte _ (by omega) (by omega),
      hbyte _ (by omega) (by omega)⟩
  · exact ⟨hbyte _ (by omega) (by omega), hbyte _ (by omega) (by omega),
      hbyte _ (by omega) (by omega), hbyte _ (by omega) (by omega)⟩

end Spelling

/-- A sequence that stops early is refused. -/
theorem isValidUtf8_truncated {c : Char} {length : ℕ} (hpos : 0 < length)
    (h : length < (String.utf8EncodeChar c).length) :
    EcSystemCore.isValidUtf8 ((String.utf8EncodeChar c).take length) = false := by
  rw [Bool.eq_false_iff]
  intro hvalid
  have hbyte : ∀ n, n < 256 → n ≤ (UInt8.ofNat n).toNat := fun n hn => (toNat_ofNat_of_lt hn).ge
  obtain ⟨length, rfl⟩ := Nat.exists_eq_succ_of_ne_zero hpos.ne'
  unfold String.utf8EncodeChar at hvalid h
  generalize c.val.toNat = v at hvalid h
  dsimp only at hvalid h
  split_ifs at hvalid h
  all_goals
    rw [List.take_succ_cons] at hvalid
    simp only [List.length_cons, List.length_nil] at h
  · omega
  · have hlengths := (length_of_isValidUtf8 _ hvalid).1 (le_trans (by omega) (hbyte _ (by omega)))
    rw [List.length_take] at hlengths
    omega
  · have hlengths := (length_of_isValidUtf8 _ hvalid).2.1 (le_trans (by omega) (hbyte _ (by omega)))
    rw [List.length_take] at hlengths
    omega
  · have hlengths := (length_of_isValidUtf8 _ hvalid).2.2 (le_trans (by omega) (hbyte _ (by omega)))
    rw [List.length_take] at hlengths
    omega

/-- The protocol's check refuses a malformed sequence, none of whose bytes is NUL. -/
theorem Malformed.refused {bytes : Bytes} (h : Malformed bytes) :
    EcSystemCore.isValidUtf8 bytes = false ∧ 0 ∉ bytes := by
  have hspell : ∀ {continuations v : ℕ}, (continuations = 1 ∧ v < 0x800 ∨
      continuations = 2 ∧ v < 0x10000 ∨ continuations = 3 ∧ v < 0x200000) →
      ¬isScalar continuations v = true →
      EcSystemCore.isValidUtf8 (spell continuations v) = false ∧ 0 ∉ spell continuations v :=
    fun hfits hscalar =>
      ⟨isValidUtf8_spell hfits (Bool.eq_false_iff.mpr hscalar), nonzero_of_spell hfits⟩
  cases h with
  | truncated hpos h =>
    rename_i c length
    refine ⟨isValidUtf8_truncated hpos h, fun hzero => ?_⟩
    have hlarge : 128 ≤ c.toNat := by
      by_contra hsmall
      rw [utf8EncodeChar_ascii (by omega), List.length_singleton] at h
      omega
    exact absurd (le_of_mem_utf8EncodeChar hlarge (List.mem_of_mem_take hzero)) (by decide)
  | overlongTwo h | overlongThree h | overlongFour h | surrogate h | tooLarge h =>
    refine hspell (by omega) ?_
    rw [isScalar_iff]
    omega

/-- Both checks, on every byte string. -/
theorem isValidUtf8_checks (text : Bytes) :
    (EcSystemCore.isValidUtf8 text = true ↔
      ∃ chars : List Char, (∀ c ∈ chars, c.toNat ≠ 0) ∧ text = utf8 chars) ∧
    (isValidUtf8 text = true ↔ ∃ chars : List Char, text = utf8 chars) ∧
    (Malformed text → EcSystemCore.isValidUtf8 text = false ∧ isValidUtf8 text = false) := by
  refine ⟨isValidUtf8_iff text, ⟨exists_chars_of_isValidUtf8, ?_⟩, fun hmalformed => ?_⟩
  · rintro ⟨chars, rfl⟩
    exact isValidUtf8_utf8 chars
  · obtain ⟨hrefused, hnonzero⟩ := hmalformed.refused
    refine ⟨hrefused, Bool.eq_false_iff.mpr fun hvalid => ?_⟩
    exact Bool.eq_false_iff.mp hrefused (isValidUtf8_of_nonzero hnonzero hvalid)

end EcSystemCore.Json.Parser
