import Mathlib.Data.Nat.Notation

/-!
# Cyclic redundancy checks

The remainder of a message, bit by bit, least significant bit first.  A step of the register is
linear in exclusive or (`step_xor`), so eight steps are those of the low byte and the rest moved
down eight places (`byte_eq`): a table of the 256 bytes gives the remainder a byte at a time.
-/

namespace Crc

variable {w : ℕ} (poly : BitVec w)

/-- The register after one bit. -/
def step (register : BitVec w) : BitVec w :=
  if register.getLsbD 0 then poly ^^^ (register >>> 1) else register >>> 1

/-- The register after some bits. -/
def steps : ℕ → BitVec w → BitVec w
  | 0, register => register
  | n + 1, register => steps n (step poly register)

/-- The register after a byte. -/
def byte (register : BitVec w) (value : UInt8) : BitVec w :=
  steps poly 8 (register ^^^ value.toBitVec.setWidth w)

/-- The register after a message. -/
def update (register : BitVec w) (message : List UInt8) : BitVec w :=
  message.foldl (byte poly) register

theorem update_append (register : BitVec w) (front back : List UInt8) :
    update poly register (front ++ back) = update poly (update poly register front) back :=
  List.foldl_append

/-! ### A byte at a time -/

theorem step_xor (a b : BitVec w) : step poly (a ^^^ b) = step poly a ^^^ step poly b := by
  unfold step
  rw [BitVec.getLsbD_xor, BitVec.ushiftRight_xor_distrib]
  cases a.getLsbD 0 <;> cases b.getLsbD 0
  · rfl
  · change poly ^^^ (a >>> 1 ^^^ b >>> 1) = a >>> 1 ^^^ (poly ^^^ b >>> 1)
    ac_rfl
  · change poly ^^^ (a >>> 1 ^^^ b >>> 1) = poly ^^^ a >>> 1 ^^^ b >>> 1
    ac_rfl
  · -- the polynomial comes in twice
    change a >>> 1 ^^^ b >>> 1 = poly ^^^ a >>> 1 ^^^ (poly ^^^ b >>> 1)
    calc a >>> 1 ^^^ b >>> 1
        _ = poly ^^^ poly ^^^ (a >>> 1 ^^^ b >>> 1) := by rw [BitVec.xor_self, BitVec.zero_xor]
        _ = poly ^^^ a >>> 1 ^^^ (poly ^^^ b >>> 1) := by ac_rfl

theorem steps_xor (n : ℕ) (a b : BitVec w) :
    steps poly n (a ^^^ b) = steps poly n a ^^^ steps poly n b := by
  induction n generalizing a b with
  | zero => rfl
  | succ n ih => rw [steps, step_xor, ih, steps, steps]

/-- Clear low bits only move down. -/
theorem steps_of_clear {register : BitVec w} (n : ℕ)
    (h : ∀ i < n, register.getLsbD i = false) : steps poly n register = register >>> n := by
  induction n generalizing register with
  | zero => simp [steps]
  | succ n ih =>
    have hstep : step poly register = register >>> 1 := by
      unfold step
      rw [h 0 (Nat.succ_pos n)]
      rfl
    have hclear : ∀ i < n, (register >>> 1).getLsbD i = false := by
      intro i hi
      rw [BitVec.getLsbD_ushiftRight]
      exact h (1 + i) (by omega)
    rw [steps, hstep, ih hclear, ← BitVec.shiftRight_add, Nat.add_comm]

theorem getLsbD_low (i : ℕ) : (255#w).getLsbD i = (decide (i < w) && decide (i < 8)) := by
  rw [BitVec.getLsbD_ofNat, show (255 : ℕ) = 2 ^ 8 - 1 from rfl, Nat.testBit_two_pow_sub_one]

/-- **A byte at a time.**  Eight steps are those of the low byte, and the rest of the register
moved down eight places. -/
theorem steps_eight (register : BitVec w) :
    steps poly 8 register = steps poly 8 (register &&& 255#w) ^^^ register >>> 8 := by
  have hsplit : register = (register &&& 255#w) ^^^ (register &&& ~~~255#w) := by
    ext i hi
    simp only [BitVec.getElem_xor, BitVec.getElem_and, BitVec.getElem_not]
    cases register[i] <;> cases (255#w)[i] <;> rfl
  have hclear : ∀ i < 8, (register &&& ~~~255#w).getLsbD i = false := by
    intro i hi
    rw [BitVec.getLsbD_and, BitVec.getLsbD_not, getLsbD_low]
    by_cases hw : i < w
    · simp [hi, hw]
    · simp [hw]
  have hhigh : (register &&& ~~~255#w) >>> 8 = register >>> 8 := by
    apply BitVec.eq_of_getLsbD_eq
    intro i hi
    rw [BitVec.getLsbD_ushiftRight, BitVec.getLsbD_ushiftRight, BitVec.getLsbD_and,
      BitVec.getLsbD_not, getLsbD_low]
    by_cases hw : 8 + i < w
    · simp [hw]
    · simp [BitVec.getLsbD_of_ge register (8 + i) (Nat.not_lt.mp hw)]
  calc steps poly 8 register
      _ = steps poly 8 ((register &&& 255#w) ^^^ (register &&& ~~~255#w)) := by rw [← hsplit]
      _ = steps poly 8 (register &&& 255#w) ^^^ (register &&& ~~~255#w) >>> 8 := by
          rw [steps_xor, steps_of_clear poly 8 hclear]
      _ = steps poly 8 (register &&& 255#w) ^^^ register >>> 8 := by rw [hhigh]

theorem byte_eq (register : BitVec w) (value : UInt8) :
    byte poly register value =
      steps poly 8 ((register ^^^ value.toBitVec.setWidth w) &&& 255#w) ^^^ register >>> 8 := by
  have hvalue : (value.toBitVec.setWidth w) >>> 8 = 0#w := by
    apply BitVec.eq_of_getLsbD_eq
    intro i hi
    rw [BitVec.getLsbD_ushiftRight, BitVec.getLsbD_setWidth,
      BitVec.getLsbD_of_ge value.toBitVec (8 + i) (Nat.le_add_right _ _)]
    simp
  rw [byte, steps_eight, BitVec.ushiftRight_xor_distrib, hvalue, BitVec.xor_zero]

end Crc
