import EcSystemCore.Lib.BitField
import EcSystemCore.Protocol.Types

/-!
# Packed process-data images

The PDO helpers of `safety.hpp`.  SOEM places the process data of a SubDevice at
an arbitrary bit of the IO map, so a store of an image must leave the neighbours'
bits of the first and the last byte alone.  `bytesBit_writePackedPdoImage` and
`bytesBit_zeroPackedPdoImage` say that it does, for both branches of the source:
the byte copy of aligned images and the bit loop of all others.

Bit counts are `uint16_t` and start bits `uint8_t` values in the source; sums of
them stay far below `uint32_t`, so they are natural numbers here.
-/

namespace EcSystemCore

open BitField

/-- `ValidateWholeOutputWrite`. -/
def validateWholeOutputWrite (outputBytes offset length : ℕ) : AckStatus :=
  if outputBytes = 0 ∨ outputBytes > kMaximumOutputWrite ∨ offset ≠ 0 ∨
      length ≠ outputBytes then .bounds
  else .ok

/-- `PdoImageByteLength`. -/
def pdoImageByteLength (bitCount : ℕ) : ℕ := (bitCount + 7) / 8

/-- `PdoMappedByteLength`. -/
def pdoMappedByteLength (bitCount startBit : ℕ) : ℕ :=
  if bitCount = 0 ∨ startBit > 7 then 0 else (startBit + bitCount + 7) / 8

/-- `IsValidSoemPdoMetadata`. -/
def isValidSoemPdoMetadata (bitCount byteCount startBit : ℕ) : Bool :=
  if startBit > 7 then false
  else if bitCount = 0 then byteCount = 0 && startBit = 0
  else
    byteCount = (if bitCount > 7 then pdoImageByteLength bitCount else 0) &&
      (bitCount ≤ 7 || startBit = 0)

/-- `HasCanonicalPdoPadding`. -/
def hasCanonicalPdoPadding (bitCount : ℕ) (image : Bytes) : Bool :=
  if image.length ≠ pdoImageByteLength bitCount then false
  else if bitCount = 0 then image.isEmpty
  else if bitCount % 8 = 0 then true
  else image.getLastD 0 &&& (0xff <<< UInt8.ofNat (bitCount % 8)) = 0

/-- One destination byte of `ReadPackedPdoChunk` for an image that does not start at
a byte boundary.  The loop over its bits ends at the last bit of the image. -/
def gatherByte (mapped : Bytes) (startBit bitCount logicalByte : ℕ) : UInt8 :=
  ((List.range 8).takeWhile fun bit => 8 * logicalByte + bit < bitCount).foldl
    (fun byte bit => if bytesBit mapped (startBit + (8 * logicalByte + bit)) then
      byte ||| mask bit else byte) 0

/-- `ReadPackedPdoChunk`: the contents of a destination of `size` bytes, or `none`
where the source answers false. -/
def readPackedPdoChunk (mapped : Bytes) (startBit bitCount logicalByteOffset size : ℕ) :
    Option Bytes :=
  let imageBytes := pdoImageByteLength bitCount
  if startBit > 7 ∨ mapped.length ≠ pdoMappedByteLength bitCount startBit ∨
      logicalByteOffset > imageBytes ∨ size > imageBytes - logicalByteOffset then none
  else if startBit = 0 then
    let copied := (mapped.drop logicalByteOffset).take size
    let usedBits := bitCount % 8
    if usedBits ≠ 0 ∧ size ≠ 0 ∧ logicalByteOffset + size = imageBytes then
      some (copied.dropLast ++ [copied.getLastD 0 &&& (mask usedBits - 1)])
    else some copied
  else
    some ((List.range size).map fun byteIndex =>
      gatherByte mapped startBit bitCount (logicalByteOffset + byteIndex))

/-- `WritePackedPdoImage`: the new contents of the mapped bytes, or `none` where
the source answers false and leaves them alone. -/
def writePackedPdoImage (mapped : Bytes) (startBit bitCount : ℕ) (image : Bytes) :
    Option Bytes :=
  if startBit > 7 ∨ mapped.length ≠ pdoMappedByteLength bitCount startBit ∨
      ¬hasCanonicalPdoPadding bitCount image then none
  else if startBit = 0 ∧ bitCount % 8 = 0 then some (image ++ mapped.drop image.length)
  else some (writeBits mapped startBit bitCount (bytesBit image))

/-- `ZeroPackedPdoImage`: the new contents of the mapped bytes, or `none` where
the source answers false and leaves them alone. -/
def zeroPackedPdoImage (mapped : Bytes) (startBit bitCount : ℕ) : Option Bytes :=
  if startBit > 7 ∨ mapped.length ≠ pdoMappedByteLength bitCount startBit then none
  else if startBit = 0 ∧ bitCount % 8 = 0 then some (List.replicate mapped.length 0)
  else some (writeBits mapped startBit bitCount fun _ => false)

/-- The bits of a SubDevice lie inside its mapped bytes. -/
theorem startBit_add_bitCount_le {bitCount startBit : ℕ} (hstart : startBit ≤ 7)
    (hcount : bitCount ≠ 0) :
    startBit + bitCount ≤ 8 * pdoMappedByteLength bitCount startBit := by
  rw [pdoMappedByteLength, if_neg (by omega)]
  omega

/-- A byte-aligned image is exactly as long as its mapped bytes. -/
theorem pdoMappedByteLength_aligned {bitCount : ℕ} (haligned : bitCount % 8 = 0) :
    pdoMappedByteLength bitCount 0 = bitCount / 8 ∧
      pdoImageByteLength bitCount = bitCount / 8 := by
  unfold pdoMappedByteLength pdoImageByteLength
  by_cases hzero : bitCount = 0
  · simp [hzero]
  · rw [if_neg (by omega)]
    omega

theorem hasCanonicalPdoPadding_length {bitCount : ℕ} {image : Bytes}
    (h : hasCanonicalPdoPadding bitCount image = true) :
    image.length = pdoImageByteLength bitCount := by
  by_contra hne
  simp [hasCanonicalPdoPadding, hne] at h

section Bits

variable {mapped mapped' image : Bytes} {startBit bitCount : ℕ}

/-- What a successful store checked. -/
theorem writePackedPdoImage_eq_some
    (h : writePackedPdoImage mapped startBit bitCount image = some mapped') :
    startBit ≤ 7 ∧ mapped.length = pdoMappedByteLength bitCount startBit ∧
      mapped'.length = mapped.length ∧ hasCanonicalPdoPadding bitCount image = true := by
  unfold writePackedPdoImage at h
  split at h
  · cases h
  · rename_i hchecks
    simp only [not_or, Nat.not_lt, not_not] at hchecks
    obtain ⟨hstart, hlength, hpadding⟩ := hchecks
    refine ⟨hstart, hlength, ?_, hpadding⟩
    split at h
    · rename_i haligned
      obtain ⟨rfl, hmod⟩ := haligned
      have himage := hasCanonicalPdoPadding_length hpadding
      obtain ⟨hmapped, hbytes⟩ := pdoMappedByteLength_aligned hmod
      obtain rfl := Option.some.inj h
      simp [himage, hlength, hmapped, hbytes]
    · obtain rfl := Option.some.inj h
      exact length_writeBits _ _ _ _

/-- **A store writes the image and nothing else.** -/
theorem bytesBit_writePackedPdoImage
    (h : writePackedPdoImage mapped startBit bitCount image = some mapped') {k : ℕ}
    (hk : k < 8 * mapped.length) :
    bytesBit mapped' k =
      if startBit ≤ k ∧ k < startBit + bitCount then bytesBit image (k - startBit)
      else bytesBit mapped k := by
  obtain ⟨hstart, hlength, -, hpadding⟩ := writePackedPdoImage_eq_some h
  unfold writePackedPdoImage at h
  rw [if_neg (by simp [hstart, hlength, hpadding])] at h
  split at h
  · rename_i haligned
    obtain ⟨rfl, hmod⟩ := haligned
    obtain ⟨hmapped, hbytes⟩ := pdoMappedByteLength_aligned hmod
    have himage : image.length = bitCount / 8 :=
      (hasCanonicalPdoPadding_length hpadding).trans hbytes
    obtain rfl := Option.some.inj h
    have hdrop : mapped.drop image.length = [] := by
      rw [List.drop_eq_nil_iff]
      omega
    rw [hdrop, List.append_nil, if_pos (by omega), Nat.sub_zero]
  · obtain rfl := Option.some.inj h
    by_cases hzero : bitCount = 0
    · subst hzero
      simp [writeBits, show ¬(startBit ≤ k ∧ k < startBit) by omega]
    · exact bytesBit_writeBits (hlength ▸ startBit_add_bitCount_le hstart hzero) _ k

/-- What a successful clear checked. -/
theorem zeroPackedPdoImage_eq_some
    (h : zeroPackedPdoImage mapped startBit bitCount = some mapped') :
    startBit ≤ 7 ∧ mapped.length = pdoMappedByteLength bitCount startBit ∧
      mapped'.length = mapped.length := by
  unfold zeroPackedPdoImage at h
  split at h
  · cases h
  · rename_i hchecks
    simp only [not_or, Nat.not_lt, not_not] at hchecks
    refine ⟨hchecks.1, hchecks.2, ?_⟩
    split at h
    · obtain rfl := Option.some.inj h
      exact List.length_replicate
    · obtain rfl := Option.some.inj h
      exact length_writeBits _ _ _ _

/-- **A clear zeroes the field and nothing else.** -/
theorem bytesBit_zeroPackedPdoImage
    (h : zeroPackedPdoImage mapped startBit bitCount = some mapped') {k : ℕ}
    (hk : k < 8 * mapped.length) :
    bytesBit mapped' k =
      if startBit ≤ k ∧ k < startBit + bitCount then false else bytesBit mapped k := by
  obtain ⟨hstart, hlength, -⟩ := zeroPackedPdoImage_eq_some h
  unfold zeroPackedPdoImage at h
  rw [if_neg (by simp [hstart, hlength])] at h
  split at h
  · rename_i haligned
    obtain ⟨rfl, hmod⟩ := haligned
    obtain ⟨hmapped, -⟩ := pdoMappedByteLength_aligned hmod
    obtain rfl := Option.some.inj h
    rw [bytesBit_replicate_zero, if_pos (by omega)]
  · obtain rfl := Option.some.inj h
    by_cases hzero : bitCount = 0
    · subst hzero
      simp [writeBits, show ¬(startBit ≤ k ∧ k < startBit) by omega]
    · exact bytesBit_writeBits (hlength ▸ startBit_add_bitCount_le hstart hzero) _ k

end Bits

end EcSystemCore
