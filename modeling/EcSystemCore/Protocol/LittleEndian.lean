import EcSystemCore.Protocol.Payloads

/-!
# Reading back little-endian integers

What `AppendLe16`, `AppendLe32` and `AppendLe64` write, `ReadLe16`, `ReadLe32` and
`ReadLe64` read back, and they read nothing else: a read at an offset answers `value`
exactly when the bytes from that offset on start with the encoding of `value`
(`readLe16_eq_some_iff` and its companions).  With these, a payload decoder is
inverted field by field.
-/

namespace EcSystemCore

/-! ### Words and their bytes -/

theorem le16_join (b₀ b₁ : UInt8) : le16 (b₀.toUInt16 ||| b₁.toUInt16 <<< 8) = [b₀, b₁] := by
  simp only [le16, List.cons.injEq, and_true]
  refine ⟨?_, ?_⟩ <;>
  · apply UInt8.toBitVec_inj.mp
    ext i hi
    simp
    try grind

theorem le32_join (b₀ b₁ b₂ b₃ : UInt8) :
    le32 (b₀.toUInt32 ||| b₁.toUInt32 <<< 8 ||| b₂.toUInt32 <<< 16 ||| b₃.toUInt32 <<< 24) =
      [b₀, b₁, b₂, b₃] := by
  simp only [le32, List.cons.injEq, and_true]
  refine ⟨?_, ?_, ?_, ?_⟩ <;>
  · apply UInt8.toBitVec_inj.mp
    ext i hi
    simp
    try grind

theorem le64_join (b₀ b₁ b₂ b₃ b₄ b₅ b₆ b₇ : UInt8) :
    le64 (b₀.toUInt64 ||| b₁.toUInt64 <<< 8 ||| b₂.toUInt64 <<< 16 ||| b₃.toUInt64 <<< 24 |||
      b₄.toUInt64 <<< 32 ||| b₅.toUInt64 <<< 40 ||| b₆.toUInt64 <<< 48 |||
      b₇.toUInt64 <<< 56) = [b₀, b₁, b₂, b₃, b₄, b₅, b₆, b₇] := by
  simp only [le64, List.cons.injEq, and_true]
  refine ⟨?_, ?_, ?_, ?_, ?_, ?_, ?_, ?_⟩ <;>
  · apply UInt8.toBitVec_inj.mp
    ext i hi
    simp
    try grind

theorem le16_injective {a b : UInt16} (h : le16 a = le16 b) : a = b := by
  simp only [le16, List.cons.injEq, ← UInt8.toNat_inj, UInt16.toNat_toUInt8,
    UInt16.toNat_shiftRight, Nat.shiftRight_eq_div_pow] at h
  simp only [UInt16.reduceToNat, Nat.reduceMod, Nat.reducePow] at h
  have ha := a.toNat_lt
  have hb := b.toNat_lt
  apply UInt16.toNat_inj.mp
  omega

theorem le32_injective {a b : UInt32} (h : le32 a = le32 b) : a = b := by
  simp only [le32, List.cons.injEq, ← UInt8.toNat_inj, UInt32.toNat_toUInt8,
    UInt32.toNat_shiftRight, Nat.shiftRight_eq_div_pow] at h
  simp only [UInt32.reduceToNat, Nat.reduceMod, Nat.reducePow] at h
  have ha := a.toNat_lt
  have hb := b.toNat_lt
  apply UInt32.toNat_inj.mp
  omega

theorem le64_injective {a b : UInt64} (h : le64 a = le64 b) : a = b := by
  simp only [le64, List.cons.injEq, ← UInt8.toNat_inj, UInt64.toNat_toUInt8,
    UInt64.toNat_shiftRight, Nat.shiftRight_eq_div_pow] at h
  simp only [UInt64.reduceToNat, Nat.reduceMod, Nat.reducePow] at h
  have ha := a.toNat_lt
  have hb := b.toNat_lt
  apply UInt64.toNat_inj.mp
  omega

/-! ### Reads -/

/-- A read answers `value` exactly when the encoding of `value` stands at the offset. -/
theorem readLe16_eq_some_iff {bytes : Bytes} {offset : ℕ} {value : UInt16} :
    readLe16 bytes offset = some value ↔ ∃ rest, bytes.drop offset = le16 value ++ rest := by
  unfold readLe16
  constructor
  · intro h
    split at h
    · rename_i b₀ b₁ rest hdrop
      cases h
      exact ⟨rest, by rw [hdrop, le16_join]; rfl⟩
    · cases h
  · rintro ⟨rest, hdrop⟩
    rw [hdrop]
    exact congrArg some (le16_injective (le16_join _ _))

theorem readLe32_eq_some_iff {bytes : Bytes} {offset : ℕ} {value : UInt32} :
    readLe32 bytes offset = some value ↔ ∃ rest, bytes.drop offset = le32 value ++ rest := by
  unfold readLe32
  constructor
  · intro h
    split at h
    · rename_i b₀ b₁ b₂ b₃ rest hdrop
      cases h
      exact ⟨rest, by rw [hdrop, le32_join]; rfl⟩
    · cases h
  · rintro ⟨rest, hdrop⟩
    rw [hdrop]
    exact congrArg some (le32_injective (le32_join _ _ _ _))

theorem readLe64_eq_some_iff {bytes : Bytes} {offset : ℕ} {value : UInt64} :
    readLe64 bytes offset = some value ↔ ∃ rest, bytes.drop offset = le64 value ++ rest := by
  unfold readLe64
  constructor
  · intro h
    split at h
    · rename_i b₀ b₁ b₂ b₃ b₄ b₅ b₆ b₇ rest hdrop
      cases h
      exact ⟨rest, by rw [hdrop, le64_join]; rfl⟩
    · cases h
  · rintro ⟨rest, hdrop⟩
    rw [hdrop]
    exact congrArg some (le64_injective (le64_join _ _ _ _ _ _ _ _))

/-- After a read, the bytes behind the field are left. -/
theorem drop_of_readLe16 {bytes : Bytes} {offset : ℕ} {value : UInt16}
    (h : readLe16 bytes offset = some value) :
    bytes.drop offset = le16 value ++ bytes.drop (offset + 2) := by
  obtain ⟨rest, hrest⟩ := readLe16_eq_some_iff.mp h
  rw [← List.drop_drop, hrest]
  rfl

theorem drop_of_readLe32 {bytes : Bytes} {offset : ℕ} {value : UInt32}
    (h : readLe32 bytes offset = some value) :
    bytes.drop offset = le32 value ++ bytes.drop (offset + 4) := by
  obtain ⟨rest, hrest⟩ := readLe32_eq_some_iff.mp h
  rw [← List.drop_drop, hrest]
  rfl

theorem drop_of_readLe64 {bytes : Bytes} {offset : ℕ} {value : UInt64}
    (h : readLe64 bytes offset = some value) :
    bytes.drop offset = le64 value ++ bytes.drop (offset + 8) := by
  obtain ⟨rest, hrest⟩ := readLe64_eq_some_iff.mp h
  rw [← List.drop_drop, hrest]
  rfl

/-- Bytes that are long enough start with an integer. -/
theorem exists_le16 {bytes : Bytes} (h : 2 ≤ bytes.length) :
    ∃ value rest, bytes = le16 value ++ rest := by
  match bytes, h with
  | b₀ :: b₁ :: rest, _ => exact ⟨_, rest, by rw [le16_join b₀ b₁]; rfl⟩

theorem exists_le32 {bytes : Bytes} (h : 4 ≤ bytes.length) :
    ∃ value rest, bytes = le32 value ++ rest := by
  match bytes, h with
  | b₀ :: b₁ :: b₂ :: b₃ :: rest, _ => exact ⟨_, rest, by rw [le32_join b₀ b₁ b₂ b₃]; rfl⟩

theorem exists_le64 {bytes : Bytes} (h : 8 ≤ bytes.length) :
    ∃ value rest, bytes = le64 value ++ rest := by
  match bytes, h with
  | b₀ :: b₁ :: b₂ :: b₃ :: b₄ :: b₅ :: b₆ :: b₇ :: rest, _ =>
    exact ⟨_, rest, by rw [le64_join b₀ b₁ b₂ b₃ b₄ b₅ b₆ b₇]; rfl⟩

end EcSystemCore
