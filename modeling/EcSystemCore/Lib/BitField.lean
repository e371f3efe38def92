import Mathlib.Data.List.Basic
import Mathlib.Data.List.GetD
import Mathlib.Data.UInt
import Mathlib.Tactic.IntervalCases

/-!
# Bit fields in byte buffers

Byte buffers read as little-endian bit strings: bit `k` is bit `k % 8` of byte
`k / 8`.  A buffer is either a list of bytes (`bytesBit`) or a memory, a map from
addresses to bytes (`memoryBit`).  `writeBits` sets a range of bits one by one,
as a packed-field store does; `bytesBit_writeBits` says what every bit is
afterwards, inside the range and outside it.  `load` and `store` move a span of
bytes between the two kinds of buffer, and `memoryBit_store` relates their bits.
-/

namespace BitField

/-- Bit `i` of a byte. -/
def byteBit (b : UInt8) (i : ℕ) : Bool := b.toNat.testBit i

/-- The byte with only bit `i` set. -/
def mask (i : ℕ) : UInt8 := 1 <<< UInt8.ofNat i

/-- The byte with bit `i` set to `v`. -/
def updateByte (b : UInt8) (i : ℕ) (v : Bool) : UInt8 :=
  if v then b ||| mask i else b &&& ~~~mask i

theorem byteBit_mask {i : ℕ} (hi : i < 8) (j : ℕ) : byteBit (mask i) j = decide (i = j) := by
  have hmask : (mask i).toNat = 2 ^ i := by
    interval_cases i <;> rfl
  rw [byteBit, hmask, Nat.testBit_two_pow]

theorem byteBit_not (b : UInt8) {j : ℕ} (hj : j < 8) :
    byteBit (~~~b) j = !byteBit b j := by
  have h : (~~~b.toBitVec).getLsbD j = !b.toBitVec.getLsbD j := by
    rw [BitVec.getLsbD_not]
    simp [hj]
  rwa [← UInt8.toBitVec_not] at h

theorem byteBit_and (a b : UInt8) (j : ℕ) :
    byteBit (a &&& b) j = (byteBit a j && byteBit b j) := by
  simp [byteBit, UInt8.toNat_and, Nat.testBit_and]

theorem byteBit_or (a b : UInt8) (j : ℕ) :
    byteBit (a ||| b) j = (byteBit a j || byteBit b j) := by
  simp [byteBit, UInt8.toNat_or, Nat.testBit_or]

theorem byteBit_updateByte (b : UInt8) {i j : ℕ} (hi : i < 8) (hj : j < 8) (v : Bool) :
    byteBit (updateByte b i v) j = if j = i then v else byteBit b j := by
  unfold updateByte
  cases v with
  | true =>
    rw [if_pos rfl, byteBit_or, byteBit_mask hi]
    by_cases hji : j = i
    · simp [hji]
    · simp [hji, Ne.symm hji]
  | false =>
    rw [if_neg (by simp), byteBit_and, byteBit_not _ hj, byteBit_mask hi]
    by_cases hji : j = i
    · simp [hji]
    · simp [hji, Ne.symm hji]

/-- A byte is determined by its bits. -/
theorem eq_of_byteBit {a b : UInt8} (h : ∀ j, j < 8 → byteBit a j = byteBit b j) : a = b := by
  refine UInt8.toNat_inj.mp (Nat.eq_of_testBit_eq fun j => ?_)
  by_cases hj : j < 8
  · exact h j hj
  · have hpow : 2 ^ 8 ≤ 2 ^ j := Nat.pow_le_pow_right (by decide) (by omega)
    rw [Nat.testBit_lt_two_pow (Nat.lt_of_lt_of_le a.toNat_lt hpow),
      Nat.testBit_lt_two_pow (Nat.lt_of_lt_of_le b.toNat_lt hpow)]

/-- The bits from `i` on, set. -/
theorem byteBit_highMask {i j : ℕ} (hi : i < 8) (hj : j < 8) :
    byteBit (0xff <<< UInt8.ofNat i) j = decide (i ≤ j) := by
  interval_cases i <;> interval_cases j <;> rfl

/-- The bits below `i`, set. -/
theorem byteBit_lowMask {i j : ℕ} (hi : i < 8) (hj : j < 8) :
    byteBit (mask i - 1) j = decide (j < i) := by
  interval_cases i <;> interval_cases j <;> rfl

/-! ### Byte lists -/

/-- Bit `k` of a byte list; bits beyond its end are zero. -/
def bytesBit (bytes : List UInt8) (k : ℕ) : Bool := byteBit (bytes.getD (k / 8) 0) (k % 8)

/-- Set bit `k` of a byte list. -/
def setBit (bytes : List UInt8) (k : ℕ) (v : Bool) : List UInt8 :=
  bytes.set (k / 8) (updateByte (bytes.getD (k / 8) 0) (k % 8) v)

/-- Set the `count` bits from `start` on to the bits `source 0, source 1, …`, in
that order. -/
def writeBits (bytes : List UInt8) (start count : ℕ) (source : ℕ → Bool) : List UInt8 :=
  (List.range count).foldl (fun acc i => setBit acc (start + i) (source i)) bytes

@[simp] theorem length_setBit (bytes : List UInt8) (k : ℕ) (v : Bool) :
    (setBit bytes k v).length = bytes.length :=
  List.length_set

theorem writeBits_succ (bytes : List UInt8) (start count : ℕ) (source : ℕ → Bool) :
    writeBits bytes start (count + 1) source =
      setBit (writeBits bytes start count source) (start + count) (source count) := by
  simp [writeBits, List.range_succ]

@[simp] theorem length_writeBits (bytes : List UInt8) (start count : ℕ) (source : ℕ → Bool) :
    (writeBits bytes start count source).length = bytes.length := by
  induction count with
  | zero => rfl
  | succ count ih => rw [writeBits_succ, length_setBit, ih]

theorem bytesBit_setBit {bytes : List UInt8} {k : ℕ} (hk : k < 8 * bytes.length) (v : Bool)
    (j : ℕ) : bytesBit (setBit bytes k v) j = if j = k then v else bytesBit bytes j := by
  have hlt : k / 8 < bytes.length := by omega
  unfold bytesBit setBit
  by_cases hbyte : j / 8 = k / 8
  · rw [hbyte, List.getD_eq_getElem?_getD, List.getElem?_set_self hlt, Option.getD_some,
      byteBit_updateByte _ (Nat.mod_lt _ (by decide)) (Nat.mod_lt _ (by decide))]
    by_cases hjk : j = k
    · simp [hjk]
    · rw [if_neg hjk, if_neg (by omega)]
  · rw [if_neg (fun h : j = k => hbyte (h ▸ rfl)), List.getD_eq_getElem?_getD,
      List.getElem?_set_ne (Ne.symm hbyte), ← List.getD_eq_getElem?_getD]

/-- **A packed-field store.**  The bits of the field become the source's bits and
every other bit keeps its value. -/
theorem bytesBit_writeBits {bytes : List UInt8} {start count : ℕ}
    (fits : start + count ≤ 8 * bytes.length) (source : ℕ → Bool) (k : ℕ) :
    bytesBit (writeBits bytes start count source) k =
      if start ≤ k ∧ k < start + count then source (k - start) else bytesBit bytes k := by
  induction count with
  | zero => simp [writeBits, show ¬(start ≤ k ∧ k < start) by omega]
  | succ count ih =>
    rw [writeBits_succ, bytesBit_setBit (by rw [length_writeBits]; omega),
      ih (by omega)]
    by_cases hlast : k = start + count
    · simp [hlast]
    · rw [if_neg hlast]
      exact if_congr (by omega) rfl rfl

/-- A byte list is determined by its bits. -/
theorem bytes_ext {a b : List UInt8} (length : a.length = b.length)
    (h : ∀ k, k < 8 * a.length → bytesBit a k = bytesBit b k) : a = b := by
  refine List.ext_getElem length fun i hi hi' => eq_of_byteBit fun j hj => ?_
  have hbit := h (8 * i + j) (by omega)
  simpa [bytesBit, show (8 * i + j) / 8 = i by omega, show (8 * i + j) % 8 = j by omega,
    hi, hi'] using hbit

theorem bytesBit_append (a b : List UInt8) (k : ℕ) :
    bytesBit (a ++ b) k =
      if k < 8 * a.length then bytesBit a k else bytesBit b (k - 8 * a.length) := by
  unfold bytesBit
  by_cases hk : k < 8 * a.length
  · rw [if_pos hk, List.getD_append _ _ _ _ (by omega)]
  · rw [if_neg hk, List.getD_append_right _ _ _ _ (by omega),
      show (k - 8 * a.length) / 8 = k / 8 - a.length by omega,
      show (k - 8 * a.length) % 8 = k % 8 by omega]

/-- The bits of a list of bytes given one by one. -/
theorem bytesBit_map_range (byte : ℕ → UInt8) {size k : ℕ} (hk : k < 8 * size) :
    bytesBit ((List.range size).map byte) k = byteBit (byte (k / 8)) (k % 8) := by
  have hlt : k / 8 < size := by omega
  simp [bytesBit, hlt]

/-- The bits of a stretch of a byte list. -/
theorem bytesBit_drop_take (bytes : List UInt8) (offset : ℕ) {size k : ℕ} (hk : k < 8 * size) :
    bytesBit ((bytes.drop offset).take size) k = bytesBit bytes (8 * offset + k) := by
  have hlt : k / 8 < size := by omega
  simp [bytesBit, List.getD_eq_getElem?_getD, hlt,
    show (8 * offset + k) / 8 = offset + k / 8 by omega,
    show (8 * offset + k) % 8 = k % 8 by omega]

/-- Bits of a list of equal bytes of value zero are zero. -/
theorem bytesBit_replicate_zero (n k : ℕ) : bytesBit (List.replicate n 0) k = false := by
  have hbyte : (List.replicate n (0 : UInt8)).getD (k / 8) 0 = 0 := by
    rw [List.getD_eq_getElem?_getD, List.getElem?_replicate]
    split <;> rfl
  rw [bytesBit, hbyte]
  exact Nat.zero_testBit _

/-! ### Memories -/

/-- Bytes by address. -/
abbrev Memory := ℕ → UInt8

/-- Bit `k` of a memory, counted from address zero. -/
def memoryBit (memory : Memory) (k : ℕ) : Bool := byteBit (memory (k / 8)) (k % 8)

/-- The `length` bytes from `address` on. -/
def load (memory : Memory) (address length : ℕ) : List UInt8 :=
  (List.range length).map fun i => memory (address + i)

/-- Overwrite the bytes from `address` on. -/
def store (memory : Memory) (address : ℕ) (bytes : List UInt8) : Memory := fun a =>
  if address ≤ a ∧ a < address + bytes.length then bytes.getD (a - address) 0 else memory a

@[simp] theorem length_load (memory : Memory) (address length : ℕ) :
    (load memory address length).length = length := by
  simp [load]

theorem bytesBit_load (memory : Memory) {address length k : ℕ} (hk : k < 8 * length) :
    bytesBit (load memory address length) k = memoryBit memory (8 * address + k) := by
  have hlt : k / 8 < length := by omega
  have hbyte : (8 * address + k) / 8 = address + k / 8 := by omega
  have hbit : (8 * address + k) % 8 = k % 8 := by omega
  simp [bytesBit, memoryBit, load, List.getD_eq_getElem?_getD, List.getElem?_map,
    List.getElem?_range hlt, hbyte, hbit]

/-- A memory is determined by its bits. -/
theorem memory_ext {a b : Memory} (h : ∀ k, memoryBit a k = memoryBit b k) : a = b := by
  refine funext fun address => eq_of_byteBit fun j hj => ?_
  have hbit := h (8 * address + j)
  rwa [memoryBit, memoryBit, show (8 * address + j) / 8 = address by omega,
    show (8 * address + j) % 8 = j by omega] at hbit

theorem memoryBit_store (memory : Memory) (address : ℕ) (bytes : List UInt8) (k : ℕ) :
    memoryBit (store memory address bytes) k =
      if 8 * address ≤ k ∧ k < 8 * address + 8 * bytes.length then
        bytesBit bytes (k - 8 * address)
      else memoryBit memory k := by
  unfold memoryBit store bytesBit
  by_cases hin : address ≤ k / 8 ∧ k / 8 < address + bytes.length
  · rw [if_pos hin, if_pos (by omega), show (k - 8 * address) / 8 = k / 8 - address by omega,
      show (k - 8 * address) % 8 = k % 8 by omega]
  · rw [if_neg hin, if_neg (by omega)]

/-- A span whose bits were rewritten in place: what every bit of the memory is
after the span has been stored back. -/
theorem memoryBit_store_load (memory : Memory) (address : ℕ) (source : ℕ → Bool)
    {bytes : List UInt8} {start count : ℕ} (fits : start + count ≤ 8 * bytes.length)
    (rewritten : ∀ k, k < 8 * bytes.length → bytesBit bytes k =
      if start ≤ k ∧ k < start + count then source (k - start)
      else memoryBit memory (8 * address + k)) (k : ℕ) :
    memoryBit (store memory address bytes) k =
      if 8 * address + start ≤ k ∧ k < 8 * address + start + count then
        source (k - (8 * address + start))
      else memoryBit memory k := by
  rw [memoryBit_store]
  by_cases hin : 8 * address ≤ k ∧ k < 8 * address + 8 * bytes.length
  · rw [if_pos hin, rewritten _ (by omega)]
    by_cases hfield : 8 * address + start ≤ k ∧ k < 8 * address + start + count
    · rw [if_pos (by omega), if_pos hfield, Nat.sub_sub]
    · rw [if_neg (by omega), if_neg hfield, Nat.add_sub_cancel' hin.1]
  · rw [if_neg hin, if_neg (by omega)]

end BitField
