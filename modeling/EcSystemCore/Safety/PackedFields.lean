import EcSystemCore.Safety.Pdo

/-!
# Packed fields that share bytes

`WritePackedPdoImage` and `ZeroPackedPdoImage` as operations on a buffer that
several SubDevices are mapped into.  The SubDevices' bit ranges are disjoint, but
the spans of bytes handed to the two functions may overlap.  One call rewrites
the bits of its own range (`memoryBit_exec`); from that follow the contents of
the buffer after any sequence of calls and that calls on different SubDevices
commute.
-/

namespace EcSystemCore

open BitField

/-- Where a SubDevice's process data lies: the address of its first byte, the
first bit in that byte, and the number of bits. -/
structure PdoField where
  address : ℕ
  startBit : ℕ
  bitCount : ℕ
  deriving DecidableEq, Repr

namespace PdoField

/-- The position of the field's first bit in the buffer. -/
def firstBit (field : PdoField) : ℕ := 8 * field.address + field.startBit

/-- Bit `k` of the buffer belongs to the field. -/
def OwnsBit (field : PdoField) (k : ℕ) : Prop :=
  field.firstBit ≤ k ∧ k < field.firstBit + field.bitCount

instance (field : PdoField) (k : ℕ) : Decidable (field.OwnsBit k) :=
  inferInstanceAs (Decidable (_ ∧ _))

/-- The two fields have no bit in common. -/
def Disjoint (a b : PdoField) : Prop := ∀ k, ¬(a.OwnsBit k ∧ b.OwnsBit k)

end PdoField

/-- What is done to a field: `WritePackedPdoImage` with its image, or
`ZeroPackedPdoImage`. -/
inductive PdoStore where
  | write (image : Bytes)
  | zero
  deriving DecidableEq, Repr

namespace PdoStore

/-- The function call on the mapped bytes, `none` where it answers false. -/
def apply (mapped : Bytes) (startBit bitCount : ℕ) : PdoStore → Option Bytes
  | write image => writePackedPdoImage mapped startBit bitCount image
  | zero => zeroPackedPdoImage mapped startBit bitCount

/-- Bit `j` of the field once the store has been made. -/
def bit : PdoStore → ℕ → Bool
  | write image, j => bytesBit image j
  | zero, _ => false

/-- The arguments pass the function's checks; the buffer's contents play no part. -/
def accepts (startBit bitCount length : ℕ) (operation : PdoStore) : Bool :=
  startBit ≤ 7 && length = pdoMappedByteLength bitCount startBit &&
    match operation with
    | write image => hasCanonicalPdoPadding bitCount image
    | zero => true

variable {mapped mapped' : Bytes} {startBit bitCount : ℕ} {operation : PdoStore}

theorem isSome_apply (operation : PdoStore) (mapped : Bytes) (startBit bitCount : ℕ) :
    (operation.apply mapped startBit bitCount).isSome =
      operation.accepts startBit bitCount mapped.length := by
  rw [Bool.eq_iff_iff]
  cases operation with
  | write image =>
    simp only [apply, accepts, writePackedPdoImage, Bool.and_eq_true, decide_eq_true_eq]
    split_ifs <;> grind
  | zero =>
    simp only [apply, accepts, zeroPackedPdoImage, Bool.and_eq_true, decide_eq_true_eq]
    split_ifs <;> grind

theorem apply_eq_some (h : operation.apply mapped startBit bitCount = some mapped') :
    startBit ≤ 7 ∧ mapped.length = pdoMappedByteLength bitCount startBit ∧
      mapped'.length = mapped.length := by
  cases operation with
  | write image =>
    obtain ⟨hstart, hlength, hkept, -⟩ := writePackedPdoImage_eq_some h
    exact ⟨hstart, hlength, hkept⟩
  | zero => exact zeroPackedPdoImage_eq_some h

theorem bytesBit_apply (h : operation.apply mapped startBit bitCount = some mapped') {k : ℕ}
    (hk : k < 8 * mapped.length) :
    bytesBit mapped' k =
      if startBit ≤ k ∧ k < startBit + bitCount then operation.bit (k - startBit)
      else bytesBit mapped k := by
  cases operation with
  | write image => exact bytesBit_writePackedPdoImage h hk
  | zero => exact bytesBit_zeroPackedPdoImage h hk

end PdoStore

namespace PdoField

/-- A call on the `length` bytes from the field's address on: its answer, and the
buffer afterwards. -/
def exec (field : PdoField) (length : ℕ) (operation : PdoStore) (memory : Memory) :
    Bool × Memory :=
  match operation.apply (load memory field.address length) field.startBit field.bitCount with
  | some bytes => (true, store memory field.address bytes)
  | none => (false, memory)

variable {field : PdoField} {length : ℕ} {operation : PdoStore} {memory : Memory}

theorem exec_fst :
    (field.exec length operation memory).1 =
      operation.accepts field.startBit field.bitCount length := by
  have hsome := operation.isSome_apply (load memory field.address length) field.startBit
    field.bitCount
  rw [length_load] at hsome
  rw [← hsome, exec]
  cases operation.apply (load memory field.address length) field.startBit field.bitCount <;> rfl

/-- A call that answers false leaves the buffer as it is. -/
theorem exec_snd_of_rejected (h : (field.exec length operation memory).1 = false) :
    (field.exec length operation memory).2 = memory := by
  unfold exec at h ⊢
  split at h
  · cases h
  · rfl

/-- **One call.**  An accepted call sets the bits of the field and no other bit. -/
theorem memoryBit_exec (h : operation.accepts field.startBit field.bitCount length = true)
    (k : ℕ) :
    memoryBit (field.exec length operation memory).2 k =
      if field.OwnsBit k then operation.bit (k - field.firstBit) else memoryBit memory k := by
  obtain ⟨bytes, hbytes⟩ : ∃ bytes, operation.apply (load memory field.address length)
      field.startBit field.bitCount = some bytes := by
    rw [← Option.isSome_iff_exists, PdoStore.isSome_apply, length_load]
    exact h
  obtain ⟨hstart, hlength, hkept⟩ := PdoStore.apply_eq_some hbytes
  rw [length_load] at hlength hkept
  rw [exec, hbytes]
  by_cases hzero : field.bitCount = 0
  · -- No bytes are mapped at all.
    obtain rfl : bytes = [] := by
      rw [← List.length_eq_zero_iff, hkept, hlength]
      simp [pdoMappedByteLength, hzero]
    rw [if_neg (by unfold OwnsBit; omega), memoryBit_store, if_neg (by simp)]
  · refine memoryBit_store_load memory field.address operation.bit ?_ (fun j hj => ?_) k
    · rw [hkept, hlength]
      exact startBit_add_bitCount_le hstart hzero
    · rw [hkept] at hj
      rw [PdoStore.bytesBit_apply hbytes (by rwa [length_load]), bytesBit_load _ hj]

end PdoField

/-! ### Sequences of calls -/

/-- A call on one SubDevice of a family: which one, the number of bytes handed to
the function, and what is to be done. -/
structure PdoCall (ι : Type*) where
  device : ι
  length : ℕ
  operation : PdoStore

namespace PdoCall

variable {ι : Type*} (fields : ι → PdoField)

/-- The call's answer, and the buffer afterwards. -/
def exec (memory : Memory) (call : PdoCall ι) : Bool × Memory :=
  (fields call.device).exec call.length call.operation memory

/-- The call answers true. -/
def accepted (call : PdoCall ι) : Bool :=
  call.operation.accepts (fields call.device).startBit (fields call.device).bitCount call.length

/-- The buffer after a sequence of calls. -/
def run (memory : Memory) (calls : List (PdoCall ι)) : Memory :=
  calls.foldl (fun memory call => (call.exec fields memory).2) memory

/-- The last accepted call on a SubDevice. -/
def lastStore [DecidableEq ι] (device : ι) (calls : List (PdoCall ι)) : Option PdoStore :=
  (calls.filter fun call => call.accepted fields && call.device = device).getLast?.map
    PdoCall.operation

theorem exec_answer (memory : Memory) (call : PdoCall ι) :
    (call.exec fields memory).1 = call.accepted fields :=
  PdoField.exec_fst

theorem run_concat (memory : Memory) (calls : List (PdoCall ι)) (call : PdoCall ι) :
    run fields memory (calls ++ [call]) = (call.exec fields (run fields memory calls)).2 := by
  simp [run]

/-- One call seen from a bit: its own SubDevice's bits are set, all others stay. -/
theorem memoryBit_exec (memory : Memory) (call : PdoCall ι) (k : ℕ) :
    memoryBit (call.exec fields memory).2 k =
      if call.accepted fields = true ∧ (fields call.device).OwnsBit k then
        call.operation.bit (k - (fields call.device).firstBit)
      else memoryBit memory k := by
  by_cases haccepted : call.accepted fields = true
  · rw [exec, PdoField.memoryBit_exec haccepted]
    simp [haccepted]
  · rw [if_neg fun h => haccepted h.1, exec, PdoField.exec_snd_of_rejected]
    rw [PdoField.exec_fst]
    exact Bool.eq_false_iff.mpr haccepted

section Family

variable {fields} [DecidableEq ι]
  (disjoint : ∀ i j, i ≠ j → (fields i).Disjoint (fields j))
include disjoint

/-- **The contents of a field** after any sequence of calls: the last accepted
store, or what the buffer held before. -/
theorem memoryBit_run (memory : Memory) (calls : List (PdoCall ι)) {device : ι} {k : ℕ}
    (hk : (fields device).OwnsBit k) :
    memoryBit (run fields memory calls) k =
      match lastStore fields device calls with
      | some operation => operation.bit (k - (fields device).firstBit)
      | none => memoryBit memory k := by
  -- From the last call backwards: either it is the accepted one, or it changes nothing here.
  induction calls using List.reverseRecOn with
  | nil => rfl
  | append_singleton calls call ih =>
    rw [run_concat, memoryBit_exec]
    by_cases hlast : call.accepted fields = true ∧ call.device = device
    · obtain ⟨haccepted, rfl⟩ := hlast
      simp [lastStore, haccepted, hk]
    · have hother : ¬(call.accepted fields = true ∧ (fields call.device).OwnsBit k) :=
        fun h => disjoint call.device device (fun heq => hlast ⟨h.1, heq⟩) k ⟨h.2, hk⟩
      have hkept : lastStore fields device (calls ++ [call]) =
          lastStore fields device calls := by
        simp [lastStore, List.filter_append, hlast]
      rw [if_neg hother, ih, hkept]

omit [DecidableEq ι] in
/-- Calls on different SubDevices commute. -/
theorem run_pair_comm (memory : Memory) {a b : PdoCall ι} (hne : a.device ≠ b.device) :
    run fields memory [a, b] = run fields memory [b, a] := by
  refine memory_ext fun k => ?_
  have hnot := disjoint a.device b.device hne k
  simp only [run, List.foldl_cons, List.foldl_nil, memoryBit_exec]
  by_cases ha : a.accepted fields = true ∧ (fields a.device).OwnsBit k
  · simp only [if_pos ha, if_neg fun hb : b.accepted fields = true ∧ (fields b.device).OwnsBit k =>
      hnot ⟨ha.2, hb.2⟩]
  · simp only [if_neg ha]

end Family

/-- A bit outside all fields never changes. -/
theorem memoryBit_run_of_forall_not {k : ℕ} (hk : ∀ i, ¬(fields i).OwnsBit k)
    (memory : Memory) (calls : List (PdoCall ι)) :
    memoryBit (run fields memory calls) k = memoryBit memory k := by
  induction calls generalizing memory with
  | nil => rfl
  | cons call rest ih =>
    exact (ih _).trans ((memoryBit_exec fields memory call k).trans
      (if_neg fun h => hk _ h.2))

/-- **Packed stores keep to their fields.**  Of SubDevices with disjoint bit ranges
in one buffer, which may share bytes: after any sequence of calls a SubDevice's
bits are those of the last image written to it, or zero, and the bits outside all
ranges are as before; calls on different SubDevices commute, with the same
answers in both orders; a call that answers false changes nothing. -/
theorem packed_stores_exact [DecidableEq ι] (fields : ι → PdoField)
    (disjoint : ∀ i j, i ≠ j → (fields i).Disjoint (fields j)) (memory : Memory) :
    (∀ calls device k, (fields device).OwnsBit k →
      memoryBit (run fields memory calls) k =
        match lastStore fields device calls with
        | some operation => operation.bit (k - (fields device).firstBit)
        | none => memoryBit memory k) ∧
    (∀ calls k, (∀ i, ¬(fields i).OwnsBit k) →
      memoryBit (run fields memory calls) k = memoryBit memory k) ∧
    (∀ a b : PdoCall ι, a.device ≠ b.device →
      run fields memory [a, b] = run fields memory [b, a] ∧
        (b.exec fields (a.exec fields memory).2).1 = (b.exec fields memory).1) ∧
    ∀ call : PdoCall ι, (call.exec fields memory).1 = false →
      (call.exec fields memory).2 = memory := by
  refine ⟨fun calls device k hk => memoryBit_run disjoint memory calls hk,
    fun calls k hk => memoryBit_run_of_forall_not fields hk memory calls,
    fun a b hne => ⟨run_pair_comm disjoint memory hne, ?_⟩,
    fun call h => PdoField.exec_snd_of_rejected h⟩
  rw [exec_answer, exec_answer]

/-- Three bits and the thirteen bits behind them, in the same two bytes. -/
def sharedBytes : Bool → PdoField
  | false => ⟨0, 0, 3⟩
  | true => ⟨0, 3, 13⟩

theorem sharedBytes_disjoint (i j : Bool) (h : i ≠ j) :
    (sharedBytes i).Disjoint (sharedBytes j) := by
  rintro k ⟨hi, hj⟩
  cases i <;> cases j <;>
    simp only [PdoField.OwnsBit, PdoField.firstBit, sharedBytes, ne_eq, not_true_eq_false]
      at hi hj h <;> omega

/-- Clearing the thirteen bits leaves the image of the three bits alone. -/
theorem sharedBytes_write_zero :
    memoryBit (run sharedBytes (fun _ => 0xff) [⟨false, 1, .write [5]⟩, ⟨true, 2, .zero⟩]) 2 =
      true :=
  ((packed_stores_exact sharedBytes sharedBytes_disjoint fun _ => 0xff).1 _ false 2
    (by decide)).trans (by decide)

end PdoCall

end EcSystemCore
