import EcSystemCore.Safety.Pdo

/-!
# Reading packed images in chunks

`ReadPackedPdoChunk` against one bit-level description: logical bit `k` of an
image is bit `startBit + k` of the mapped bytes, and the bits of the last byte
beyond the image are zero.  Both branches of the source produce the stretch of
that image they are asked for, the copy with its mask of the last byte and the
loop over bits, so any division of the image into chunks gives the same image.
-/

namespace EcSystemCore

open BitField

/-- Logical bit `k` of the image a SubDevice has in its mapped bytes; zero beyond
the image. -/
def logicalBit (mapped : Bytes) (startBit bitCount k : ℕ) : Bool :=
  k < bitCount && bytesBit mapped (startBit + k)

/-- Consecutive calls of `ReadPackedPdoChunk` for chunks of the given sizes, the
first at byte `offset` of the image. -/
def readPackedPdoChunks (mapped : Bytes) (startBit bitCount : ℕ) :
    ℕ → List ℕ → Option (List Bytes)
  | _, [] => some []
  | offset, size :: rest => do
      let chunk ← readPackedPdoChunk mapped startBit bitCount offset size
      let chunks ← readPackedPdoChunks mapped startBit bitCount (offset + size) rest
      pure (chunk :: chunks)

section Chunk

variable {mapped : Bytes} {startBit bitCount offset size : ℕ}

/-- The fold over the bits of a destination byte sets those that are set in the
source. -/
theorem byteBit_foldl_mask (source : ℕ → Bool) {bits : List ℕ} (hbits : ∀ bit ∈ bits, bit < 8)
    (byte : UInt8) (j : ℕ) :
    byteBit (bits.foldl (fun byte bit => if source bit then byte ||| mask bit else byte) byte) j =
      (byteBit byte j || (decide (j ∈ bits) && source j)) := by
  induction bits generalizing byte with
  | nil => simp
  | cons bit rest ih =>
    rw [List.foldl_cons, ih fun b hb => hbits b (List.mem_cons_of_mem _ hb)]
    have hmask := byteBit_mask (hbits bit List.mem_cons_self) j
    by_cases hj : j = bit
    · subst hj
      cases hsource : source j <;> simp [byteBit_or, hmask]
    · have hother : byteBit (if source bit then byte ||| mask bit else byte) j =
          byteBit byte j := by
        split <;> simp [byteBit_or, hmask, Ne.symm hj]
      simp [hother, hj]

/-- The bits the loop reaches before it leaves the image. -/
theorem mem_takeWhile_range_iff {n bound j : ℕ} (hj : j < 8) :
    j ∈ (List.range 8).takeWhile (fun bit => n + bit < bound) ↔ n + j < bound := by
  have htake : ∀ m, (List.range m).takeWhile (fun bit => decide (n + bit < bound)) =
      List.range (min m (bound - n)) := by
    intro m
    induction m with
    | zero => simp
    | succ m ih =>
      rw [List.range_succ, List.takeWhile_append, ih, List.length_range, List.length_range]
      by_cases hm : m ≤ bound - n
      · rw [if_pos (by omega)]
        by_cases hlast : n + m < bound
        · rw [List.takeWhile_cons_of_pos (by simpa using hlast), List.takeWhile_nil,
            ← List.range_succ]
          congr 1
          omega
        · rw [List.takeWhile_cons_of_neg (by simpa using hlast), List.append_nil]
          congr 1
          omega
      · rw [if_neg (by omega)]
        congr 1
        omega
  rw [htake, List.mem_range]
  omega

theorem byteBit_gatherByte {logicalByte j : ℕ} (hj : j < 8) :
    byteBit (gatherByte mapped startBit bitCount logicalByte) j =
      logicalBit mapped startBit bitCount (8 * logicalByte + j) := by
  rw [gatherByte, byteBit_foldl_mask
    (fun bit => bytesBit mapped (startBit + (8 * logicalByte + bit)))
    (fun bit hbit => List.mem_range.mp (List.takeWhile_subset _ hbit)), logicalBit]
  have hzero : byteBit 0 j = false := Nat.zero_testBit _
  rw [hzero, Bool.false_or, decide_eq_decide.mpr (mem_takeWhile_range_iff hj)]

/-- The bytes copied from a byte-aligned image, and the mask of its last byte. -/
theorem bytesBit_maskLast {bytes : Bytes} {usedBits : ℕ} (hused : usedBits < 8)
    (hne : bytes ≠ []) {k : ℕ} (hk : k < 8 * bytes.length) :
    bytesBit (bytes.dropLast ++ [bytes.getLastD 0 &&& (mask usedBits - 1)]) k =
      (decide (k < 8 * (bytes.length - 1) + usedBits) && bytesBit bytes k) := by
  have hlast : bytes.dropLast ++ [bytes.getLastD 0] = bytes := by
    rw [List.getLastD_eq_getLast?, List.getLast?_eq_some_getLast hne]
    exact List.dropLast_append_getLast hne
  have hbits := bytesBit_append bytes.dropLast [bytes.getLastD 0] k
  rw [hlast] at hbits
  rw [bytesBit_append, hbits, List.length_dropLast]
  by_cases hfront : k < 8 * (bytes.length - 1)
  · rw [if_pos hfront, if_pos hfront, decide_eq_true (by omega), Bool.true_and]
  · rw [if_neg hfront, if_neg hfront]
    have hbyte : (k - 8 * (bytes.length - 1)) / 8 = 0 := by omega
    simp only [bytesBit, hbyte, List.getD_cons_zero, byteBit_and]
    rw [byteBit_lowMask hused (by omega), Bool.and_comm]
    congr 1
    exact decide_eq_decide.mpr (by omega)

/-- A chunk of a mapped image can be read exactly when it lies inside the image. -/
theorem readPackedPdoChunk_isSome (offset size : ℕ) (hstart : startBit ≤ 7)
    (hmapped : mapped.length = pdoMappedByteLength bitCount startBit)
    (hsize : offset + size ≤ pdoImageByteLength bitCount) :
    (readPackedPdoChunk mapped startBit bitCount offset size).isSome = true := by
  unfold readPackedPdoChunk
  rw [if_neg (by omega)]
  dsimp only
  split_ifs <;> rfl

/-- **One chunk.**  Its bits are the logical bits from its offset on. -/
theorem bytesBit_readPackedPdoChunk {chunk : Bytes}
    (h : readPackedPdoChunk mapped startBit bitCount offset size = some chunk) :
    chunk.length = size ∧
      ∀ k, k < 8 * size →
        bytesBit chunk k = logicalBit mapped startBit bitCount (8 * offset + k) := by
  unfold readPackedPdoChunk at h
  dsimp only at h
  split at h
  · cases h
  rename_i hchecks
  simp only [not_or, Nat.not_lt, not_not] at hchecks
  obtain ⟨hstart, hmapped, hoffset, hsize⟩ := hchecks
  split at h
  · rename_i haligned
    subst haligned
    -- A byte-aligned image has as many bytes as are mapped for it.
    have hbytes : mapped.length = pdoImageByteLength bitCount := by
      rw [hmapped, pdoMappedByteLength, pdoImageByteLength]
      split_ifs <;> omega
    have hlength : ((mapped.drop offset).take size).length = size := by
      rw [List.length_take, List.length_drop]
      omega
    have hcopied : ∀ k, k < 8 * size → bytesBit ((mapped.drop offset).take size) k =
        bytesBit mapped (8 * offset + k) := fun k hk => bytesBit_drop_take mapped offset hk
    split at h
    · rename_i hmask
      obtain ⟨hused, hne, hend⟩ := hmask
      obtain rfl := Option.some.inj h
      have hcopy : (mapped.drop offset).take size ≠ [] := by
        rw [← List.length_pos_iff, hlength]
        omega
      refine ⟨by simp [hlength]; omega, fun k hk => ?_⟩
      rw [bytesBit_maskLast (Nat.mod_lt _ (by decide)) hcopy (by rwa [hlength]), hcopied k hk,
        hlength, logicalBit, Nat.zero_add]
      congr 1
      refine decide_eq_decide.mpr ?_
      unfold pdoImageByteLength at hend
      omega
    · rename_i hmask
      obtain rfl := Option.some.inj h
      refine ⟨hlength, fun k hk => ?_⟩
      rw [hcopied k hk, logicalBit, Nat.zero_add, decide_eq_true, Bool.true_and]
      unfold pdoImageByteLength at hmask hsize hoffset
      omega
  · obtain rfl := Option.some.inj h
    refine ⟨by simp, fun k hk => ?_⟩
    rw [bytesBit_map_range _ hk, byteBit_gatherByte (Nat.mod_lt _ (by decide))]
    congr 1
    omega

/-- **Any division into chunks.**  Every chunk can be read, and together they are
the logical bits from the first offset on. -/
theorem readPackedPdoChunks_spec (hstart : startBit ≤ 7)
    (hmapped : mapped.length = pdoMappedByteLength bitCount startBit) (offset : ℕ)
    (sizes : List ℕ)
    (hsizes : offset + sizes.sum ≤ pdoImageByteLength bitCount) :
    ∃ chunks, readPackedPdoChunks mapped startBit bitCount offset sizes = some chunks ∧
      chunks.map List.length = sizes ∧
      ∀ k, k < 8 * sizes.sum →
        bytesBit chunks.flatten k = logicalBit mapped startBit bitCount (8 * offset + k) := by
  induction sizes generalizing offset with
  | nil => exact ⟨[], rfl, rfl, fun k hk => absurd hk (by simp)⟩
  | cons size rest ih =>
    rw [List.sum_cons] at hsizes
    obtain ⟨chunk, hchunk⟩ := Option.isSome_iff_exists.mp
      (readPackedPdoChunk_isSome offset size hstart hmapped (by omega))
    obtain ⟨hlength, hbits⟩ := bytesBit_readPackedPdoChunk hchunk
    obtain ⟨chunks, hchunks, hlengths, hrest⟩ := ih (offset + size) (by omega)
    refine ⟨chunk :: chunks, by simp [readPackedPdoChunks, hchunk, hchunks],
      by rw [List.map_cons, hlength, hlengths], fun k hk => ?_⟩
    rw [List.flatten_cons, bytesBit_append, hlength]
    rw [List.sum_cons] at hk
    by_cases hfirst : k < 8 * size
    · rw [if_pos hfirst, hbits k hfirst]
    · rw [if_neg hfirst, hrest _ (by omega)]
      congr 1
      omega

end Chunk

/-! ### Canonical images -/

/-- An image is canonical when it has the right length and no bit set beyond its
bit count. -/
theorem hasCanonicalPdoPadding_iff {bitCount : ℕ} {image : Bytes} :
    hasCanonicalPdoPadding bitCount image = true ↔
      image.length = pdoImageByteLength bitCount ∧
        ∀ k, bitCount ≤ k → bytesBit image k = false := by
  have hbeyond : ∀ k, 8 * image.length ≤ k → bytesBit image k = false := by
    intro k hk
    rw [bytesBit, List.getD_eq_default _ _ (by omega)]
    exact Nat.zero_testBit _
  unfold hasCanonicalPdoPadding
  by_cases hlength : image.length = pdoImageByteLength bitCount
  swap
  · simp [hlength]
  rw [if_neg (by simpa using hlength)]
  by_cases hbytes : bitCount % 8 = 0
  · -- Whole bytes: there are no padding bits.
    have hall : ∀ k, bitCount ≤ k → bytesBit image k = false := fun k hk => hbeyond k (by
      rw [hlength, pdoImageByteLength]
      omega)
    by_cases hzero : bitCount = 0
    · have hempty : image = [] := by
        rw [← List.length_eq_zero_iff, hlength, pdoImageByteLength, hzero]
      simp [hzero, hempty, pdoImageByteLength, bytesBit, byteBit]
    · rw [if_neg hzero, if_pos hbytes]
      exact ⟨fun _ => ⟨hlength, hall⟩, fun _ => rfl⟩
  · rw [if_neg fun hzero => hbytes (by simp [hzero]), if_neg hbytes, decide_eq_true_eq]
    have hpositive : image.length = bitCount / 8 + 1 := by
      rw [hlength, pdoImageByteLength]
      omega
    have hlast : image.getLastD 0 = image.getD (bitCount / 8) 0 := by
      rw [List.getLastD_eq_getLast?, List.getLast?_eq_getElem?, hpositive,
        List.getD_eq_getElem?_getD, Nat.add_sub_cancel]
    rw [hlast]
    constructor
    · refine fun hmask => ⟨hlength, fun k hk => ?_⟩
      by_cases hin : k < 8 * image.length
      · have hbit := congrArg (byteBit · (k % 8)) hmask
        simp only [byteBit_and] at hbit
        rw [byteBit_highMask (Nat.mod_lt _ (by decide)) (Nat.mod_lt _ (by decide)),
          decide_eq_true (by omega), Bool.and_true] at hbit
        rw [bytesBit, show k / 8 = bitCount / 8 by omega, hbit]
        exact Nat.zero_testBit _
      · exact hbeyond k (by omega)
    · rintro ⟨-, hzero⟩
      refine eq_of_byteBit fun j hj => ?_
      rw [byteBit_and, byteBit_highMask (Nat.mod_lt _ (by decide)) hj]
      have hbit := hzero (8 * (bitCount / 8) + j)
      rw [bytesBit, show (8 * (bitCount / 8) + j) / 8 = bitCount / 8 by omega,
        show (8 * (bitCount / 8) + j) % 8 = j by omega] at hbit
      have hright : byteBit 0 j = false := Nat.zero_testBit _
      rw [hright]
      by_cases hpad : bitCount % 8 ≤ j
      · rw [hbit (by omega), Bool.false_and]
      · rw [decide_eq_false hpad, Bool.and_false]

/-- Reading back what was written: the logical bits are those of the image. -/
theorem logicalBit_writePackedPdoImage {before mapped image : Bytes} {startBit bitCount : ℕ}
    (h : writePackedPdoImage before startBit bitCount image = some mapped) (k : ℕ) :
    logicalBit mapped startBit bitCount k = bytesBit image k := by
  obtain ⟨hstart, hlength, -, hpadding⟩ := writePackedPdoImage_eq_some h
  by_cases hk : k < bitCount
  · have hfits := startBit_add_bitCount_le hstart (by omega : bitCount ≠ 0)
    rw [logicalBit, decide_eq_true hk, Bool.true_and,
      bytesBit_writePackedPdoImage h (by omega), if_pos (by omega), Nat.add_sub_cancel_left]
  · rw [logicalBit, decide_eq_false hk, Bool.false_and,
      (hasCanonicalPdoPadding_iff.mp hpadding).2 k (by omega)]

/-- **Chunked reads return the image.**  For every mapped region and every division
of the image into consecutive chunks: each chunk is read, together they are the
image whose logical bit `k` is mapped bit `startBit + k`, with zero padding; that
image is canonical, and if the region was last written with an image it is that
image. -/
theorem chunked_reads_return_image (mapped : Bytes) (startBit bitCount : ℕ)
    (hstart : startBit ≤ 7) (hmapped : mapped.length = pdoMappedByteLength bitCount startBit)
    (sizes : List ℕ) (hsizes : sizes.sum = pdoImageByteLength bitCount) :
    ∃ chunks, readPackedPdoChunks mapped startBit bitCount 0 sizes = some chunks ∧
      chunks.map List.length = sizes ∧
      (∀ k, k < bitCount → bytesBit chunks.flatten k = bytesBit mapped (startBit + k)) ∧
      (∀ k, bitCount ≤ k → bytesBit chunks.flatten k = false) ∧
      hasCanonicalPdoPadding bitCount chunks.flatten = true ∧
      ∀ before image, writePackedPdoImage before startBit bitCount image = some mapped →
        chunks.flatten = image := by
  obtain ⟨chunks, hread, hlengths, hbits⟩ :=
    readPackedPdoChunks_spec hstart hmapped 0 sizes (by omega)
  have hlength : chunks.flatten.length = pdoImageByteLength bitCount := by
    rw [List.length_flatten, hlengths, hsizes]
  have hlogical : ∀ k, bytesBit chunks.flatten k = logicalBit mapped startBit bitCount k := by
    intro k
    by_cases hk : k < 8 * sizes.sum
    · rw [hbits k hk, Nat.mul_zero, Nat.zero_add]
    · have hbeyond : ¬k < bitCount := by
        rw [hsizes, pdoImageByteLength] at hk
        omega
      rw [logicalBit, decide_eq_false hbeyond, Bool.false_and, bytesBit,
        List.getD_eq_default _ _ (by omega)]
      exact Nat.zero_testBit _
  have hpadding : ∀ k, bitCount ≤ k → bytesBit chunks.flatten k = false := by
    intro k hk
    rw [hlogical, logicalBit, decide_eq_false (by omega), Bool.false_and]
  refine ⟨chunks, hread, hlengths, fun k hk => ?_, hpadding,
    hasCanonicalPdoPadding_iff.mpr ⟨hlength, hpadding⟩, fun before image hwrite => ?_⟩
  · rw [hlogical, logicalBit, decide_eq_true hk, Bool.true_and]
  · have himage := hasCanonicalPdoPadding_length (writePackedPdoImage_eq_some hwrite).2.2.2
    refine bytes_ext (hlength.trans himage.symm) fun k _ => ?_
    rw [hlogical, logicalBit_writePackedPdoImage hwrite]

/-- Thirteen bits from bit three on, read as two chunks of one byte. -/
theorem chunked_reads_thirteen_bits :
    ∃ chunks, readPackedPdoChunks [0x07, 0x55] 3 13 0 [1, 1] = some chunks ∧
      hasCanonicalPdoPadding 13 chunks.flatten = true := by
  obtain ⟨chunks, hread, -, -, -, hcanonical, -⟩ :=
    chunked_reads_return_image [0x07, 0x55] 3 13 (by decide) (by decide) [1, 1] (by decide)
  exact ⟨chunks, hread, hcanonical⟩

example : readPackedPdoChunks [0x07, 0x55] 3 13 0 [1, 1] = some [[0xa0], [0x0a]] := by decide

end EcSystemCore
