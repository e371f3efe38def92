import Mathlib.Algebra.Order.Group.Int
import Mathlib.Data.Int.ModEq
import Mathlib.Tactic.Linarith
import EcSystemCore.Lib.Execution

/-!
# The distributed clock controller

`DistributedClockController` of `dc_sync.hpp`, which steers the worker's cycle to the
reference clock of the bus.  Every cycle it is given the reference time and answers with the
phase error, a correction of the next wake-up, and whether the clock is synchronized or at
fault.

The times are signed 64-bit.  The model computes in ℤ and gives up (`none`) where a result
does not fit, because the source's language leaves an overflow undefined; a divisor is always
positive, so a quotient fits when its dividend does.

`observe` is the same update without the checks, in terms of a `Sample`: whether the
reference advanced as it should, and its phase.  `update_eq` says that the source computes it
and that nothing overflows, as long as the controller is `Bounded`, and `observe_bounded` that
it stays so.
-/

namespace EcSystemCore

open Execution

/-! ### Signed arithmetic -/

/-- The largest `std::int64_t`. -/
def int64Max : ℤ := 2 ^ 63 - 1

/-- A signed 64-bit result. -/
def signed64 (value : ℤ) : Option ℤ :=
  if -2 ^ 63 ≤ value ∧ value ≤ int64Max then some value else none

/-- `std::clamp`. -/
def clampInt (value low high : ℤ) : ℤ :=
  if value < low then low else if high < value then high else value

/-- A `std::uint32_t` counter goes up by one and stays at its maximum. -/
def increment (counter : ℕ) : ℕ := if counter ≠ 2 ^ 32 - 1 then counter + 1 else counter

/-! ### The controller -/

/-- `DistributedClockAdjustment`. -/
structure DistributedClockAdjustment where
  valid : Bool := false
  synchronized : Bool := false
  fault : Bool := false
  phaseErrorNs : ℤ := 0
  correctionNs : ℤ := 0
  deriving DecidableEq, Repr

/-- `DistributedClockController`. -/
structure DistributedClockController where
  cycleNanoseconds : ℤ
  integral : ℤ := 0
  observations : ℕ := 0
  stableCycles : ℕ := 0
  badCyclesAfterLock : ℕ := 0
  invalidAdvanceCycles : ℕ := 0
  previousReference : ℤ := 0
  synchronized : Bool := false
  deriving DecidableEq, Repr

namespace DistributedClockController

/-- The constructor. -/
def new (cycleNanoseconds : ℤ) : DistributedClockController := { cycleNanoseconds }

/-- `Reset`. -/
def reset (controller : DistributedClockController) : DistributedClockController :=
  { controller with
    integral := 0
    observations := 0
    stableCycles := 0
    badCyclesAfterLock := 0
    invalidAdvanceCycles := 0
    previousReference := 0
    synchronized := false }

/-- `roundedCycles` of `Update`. -/
def roundedCycles (cycle advancement : ℤ) : Option ℤ :=
  if advancement > 0 then
    let rounded := advancement.tdiv cycle
    if advancement.tmod cycle ≥ cycle.tdiv 2 ∧ rounded ≠ int64Max then signed64 (rounded + 1)
    else some rounded
  else some 0

/-- `referenceAdvanced` of `Update`. -/
def referenceAdvanced (cycle previousReference reference : ℤ) : Option Bool :=
  if previousReference ≠ 0 then do
    let advancement ←
      if reference > previousReference then signed64 (reference - previousReference) else some 0
    let rounded ← roundedCycles cycle advancement
    if 1 ≤ rounded ∧ rounded ≤ 4 then
      if rounded > int64Max.tdiv cycle then some false
      else do
        let whole ← signed64 (rounded * cycle)
        let difference ← signed64 (advancement - whole)
        let distance ← signed64 |difference|
        some (decide (distance ≤ max 1000 (cycle.tdiv 5)))
    else some false
  else some false

/-- `phase` of `Update`. -/
def phaseError (cycle reference : ℤ) : Option ℤ :=
  let phase := reference.tmod cycle
  if phase > cycle.tdiv 2 then signed64 (phase - cycle) else some phase

/-- `integralLimit` of `Update`. -/
def integralLimit (cycle : ℤ) : Option ℤ :=
  if cycle > int64Max.tdiv 100 then some int64Max else signed64 (cycle * 100)

/-- The new `integral_`. -/
def nextIntegral (cycle integral : ℤ) (advanced : Bool) (phase : ℤ) : Option ℤ := do
  let limit ← integralLimit cycle
  if advanced ∧ phase > 0 then do
    let raised ← signed64 (integral + 1)
    some (min raised limit)
  else if advanced ∧ phase < 0 then do
    let lowered ← signed64 (integral - 1)
    let floor ← signed64 (-limit)
    some (max lowered floor)
  else some integral

/-- `result.correctionNs`. -/
def correction (cycle integral : ℤ) (advanced : Bool) (phase : ℤ) : Option ℤ :=
  if advanced then do
    let maximum := max 1 (cycle.tdiv 10)
    let proportional ← signed64 (-(phase.tdiv 100))
    let sum ← signed64 (proportional - integral.tdiv 1000)
    let minimum ← signed64 (-maximum)
    some (clampInt sum minimum maximum)
  else some 0

/-- `Update`. -/
def update (controller : DistributedClockController) (reference : ℤ) :
    Option (DistributedClockAdjustment × DistributedClockController) :=
  let cycle := controller.cycleNanoseconds
  let observations := increment controller.observations
  if cycle ≤ 0 ∨ reference ≤ 0 then
    some ({ fault := decide (500 ≤ observations) }, { controller with observations })
  else do
    let advanced ← referenceAdvanced cycle controller.previousReference reference
    let invalidAdvanceCycles :=
      if advanced then 0 else increment controller.invalidAdvanceCycles
    let phase ← phaseError cycle reference
    let integral ← nextIntegral cycle controller.integral advanced phase
    let correctionNs ← correction cycle integral advanced phase
    let distance ← signed64 |phase|
    let stableCycles :=
      if advanced ∧ distance ≤ max 1000 (cycle.tdiv 20) then increment controller.stableCycles
      else 0
    -- three bad advances drop the lock before the stable cycles can take it
    let synchronized :=
      decide (20 ≤ stableCycles) || (controller.synchronized && decide (invalidAdvanceCycles < 3))
    let badCyclesAfterLock :=
      if synchronized ∧ distance > cycle.tdiv 4 then increment controller.badCyclesAfterLock
      else 0
    some
      ({ valid := true
         synchronized := synchronized
         fault := decide (3 ≤ invalidAdvanceCycles) || decide (10 ≤ badCyclesAfterLock) ||
           (!synchronized && decide (500 ≤ observations))
         phaseErrorNs := phase
         correctionNs := correctionNs },
       { controller with
         integral := integral
         observations := observations
         stableCycles := stableCycles
         badCyclesAfterLock := badCyclesAfterLock
         invalidAdvanceCycles := invalidAdvanceCycles
         previousReference := reference
         synchronized := synchronized })

/-- One update as a step of the controller. -/
def step (controller : DistributedClockController) (reference : Int64) :
    Option DistributedClockController :=
  (controller.update reference.toInt).map (·.2)

/-- What `RunCyclic` adds to the time of its last wake-up. -/
def wakeUpDelay (cycle : ℤ) (adjustment : DistributedClockAdjustment) : Option ℤ :=
  signed64 (cycle + adjustment.correctionNs)

end DistributedClockController

/-! ### Samples -/

/-- The cycle lengths a configuration may have. -/
structure CycleInRange (cycle : ℤ) : Prop where
  least : 5000000 ≤ cycle
  most : cycle ≤ 1000000000

/-- What a valid update learns from its reference: whether it advanced as it should, and its
phase. -/
structure ClockSample where
  advancing : Bool
  phase : ℤ
  deriving DecidableEq, Repr

namespace ClockSample

variable {cycle : ℤ}

/-- The whole number of cycles in a difference, a remainder of at least half a cycle rounded
up. -/
def wholeCycles (cycle difference : ℤ) : ℤ :=
  difference / cycle + if cycle / 2 ≤ difference % cycle then 1 else 0

/-- The reference has advanced from an earlier one by one to four cycles, up to a fifth of a
cycle. -/
def advances (cycle previous reference : ℤ) : Bool :=
  let whole := wholeCycles cycle (reference - previous)
  decide (1 ≤ whole ∧ whole ≤ 4 ∧ |reference - previous - whole * cycle| ≤ cycle / 5)

/-- The signed distance to the nearest multiple of the cycle. -/
def phaseOf (cycle reference : ℤ) : ℤ :=
  if reference % cycle > cycle / 2 then reference % cycle - cycle else reference % cycle

/-- The sample of a reference, given the latest one before it. -/
def take (cycle : ℤ) (previous : Option ℤ) (reference : ℤ) : ClockSample :=
  ⟨previous.any fun earlier => advances cycle earlier reference, phaseOf cycle reference⟩

/-- The reference advanced and is in phase. -/
def locked (cycle : ℤ) (sample : ClockSample) : Bool :=
  sample.advancing && decide (|sample.phase| ≤ cycle / 20)

/-- The reference did not advance. -/
def stalled (sample : ClockSample) : Bool := !sample.advancing

/-- The reference is out of phase. -/
def far (cycle : ℤ) (sample : ClockSample) : Bool := decide (|sample.phase| > cycle / 4)

theorem phaseOf_modEq (cycle reference : ℤ) : phaseOf cycle reference ≡ reference [ZMOD cycle] := by
  unfold phaseOf
  split
  · exact (Int.sub_modulus_modEq_iff.mpr rfl).trans (Int.mod_modEq _ _)
  · exact Int.mod_modEq _ _

/-- The phase is half a cycle at most. -/
theorem abs_phaseOf_le (hcycle : 0 < cycle) (reference : ℤ) :
    2 * |phaseOf cycle reference| ≤ cycle := by
  have hnonneg := Int.emod_nonneg reference hcycle.ne'
  have hlt := Int.emod_lt_of_pos reference hcycle
  unfold phaseOf
  split <;> rw [abs_eq_max_neg] <;> omega

/-- A reference that has not gone up has not advanced. -/
theorem wholeCycles_nonpos (hcycle : 2 ≤ cycle) {difference : ℤ} (h : difference ≤ 0) :
    wholeCycles cycle difference ≤ 0 := by
  have hpos : 0 < cycle := by omega
  unfold wholeCycles
  obtain rfl | hneg := h.eq_or_lt
  · rw [Int.zero_ediv, Int.zero_emod, if_neg (by omega)]
    rfl
  · have hdiv : difference / cycle < 0 := Int.ediv_neg_of_neg_of_pos hneg hpos
    split <;> omega

end ClockSample

namespace DistributedClockController

open ClockSample

variable {cycle : ℤ} {controller : DistributedClockController}

/-- The latest valid reference. -/
def latest (controller : DistributedClockController) : Option ℤ :=
  if controller.previousReference = 0 then none else some controller.previousReference

/-- The integral follows the sign of the phase, within its limits. -/
def integrate (cycle integral : ℤ) (sample : ClockSample) : ℤ :=
  if sample.advancing ∧ sample.phase > 0 then min (integral + 1) (cycle * 100)
  else if sample.advancing ∧ sample.phase < 0 then max (integral - 1) (-(cycle * 100))
  else integral

/-- The correction, within a tenth of the cycle. -/
def correct (cycle integral : ℤ) (sample : ClockSample) : ℤ :=
  if sample.advancing then
    clampInt (-(sample.phase.tdiv 100) - integral.tdiv 1000) (-max 1 (cycle / 10))
      (max 1 (cycle / 10))
  else 0

/-- A valid update, in terms of its sample. -/
def observe (controller : DistributedClockController) (reference : ℤ) (sample : ClockSample) :
    DistributedClockAdjustment × DistributedClockController :=
  let cycle := controller.cycleNanoseconds
  let observations := increment controller.observations
  let invalidAdvanceCycles :=
    if sample.stalled then increment controller.invalidAdvanceCycles else 0
  let integral := integrate cycle controller.integral sample
  let stableCycles := if sample.locked cycle then increment controller.stableCycles else 0
  let synchronized :=
    decide (20 ≤ stableCycles) || (controller.synchronized && decide (invalidAdvanceCycles < 3))
  let badCyclesAfterLock :=
    if synchronized ∧ sample.far cycle then increment controller.badCyclesAfterLock else 0
  ({ valid := true
     synchronized := synchronized
     fault := decide (3 ≤ invalidAdvanceCycles) || decide (10 ≤ badCyclesAfterLock) ||
       (!synchronized && decide (500 ≤ observations))
     phaseErrorNs := sample.phase
     correctionNs := correct cycle integral sample },
   { controller with
     integral := integral
     observations := observations
     stableCycles := stableCycles
     badCyclesAfterLock := badCyclesAfterLock
     invalidAdvanceCycles := invalidAdvanceCycles
     previousReference := reference
     synchronized := synchronized })

/-- The ranges a controller stays in. -/
structure Bounded (cycle : ℤ) (controller : DistributedClockController) : Prop where
  cycleNanoseconds : controller.cycleNanoseconds = cycle
  previousReference : 0 ≤ controller.previousReference ∧ controller.previousReference < 2 ^ 63
  integral : |controller.integral| ≤ 100 * cycle

/-! ### Nothing overflows -/

theorem signed64_eq {value : ℤ} (h : -2 ^ 63 ≤ value ∧ value ≤ int64Max) :
    signed64 value = some value :=
  if_pos h

theorem roundedCycles_eq (hcycle : 2 ≤ cycle) {advancement : ℤ} (hpos : 0 < advancement)
    (hlt : advancement < 2 ^ 63) :
    roundedCycles cycle advancement = some (wholeCycles cycle advancement) := by
  have hquotient : advancement / cycle < advancement :=
    Int.ediv_lt_self_of_pos_of_ne_one hpos (by omega)
  have hnonneg : 0 ≤ advancement / cycle := Int.ediv_nonneg hpos.le (by omega)
  unfold roundedCycles wholeCycles
  rw [if_pos hpos, Int.tdiv_eq_ediv_of_nonneg hpos.le, Int.tmod_eq_emod_of_nonneg hpos.le,
    Int.tdiv_eq_ediv_of_nonneg (by omega : 0 ≤ cycle)]
  have hbelow : advancement / cycle ≠ int64Max := by
    unfold int64Max
    omega
  dsimp only
  split_ifs with hround hhalf hhalf
  · exact signed64_eq (by unfold int64Max; omega)
  · exact absurd hround.1 hhalf
  · exact absurd ⟨hhalf, hbelow⟩ hround
  · rw [add_zero]

/-- The source's test of the advance. -/
theorem referenceAdvanced_eq (hcycle : CycleInRange cycle) {previous reference : ℤ}
    (hprevious : 0 ≤ previous ∧ previous < 2 ^ 63) (hreference : 0 < reference ∧ reference < 2 ^ 63) :
    referenceAdvanced cycle previous reference =
      some ((if previous = 0 then none else some previous).any fun earlier =>
        advances cycle earlier reference) := by
  obtain ⟨hleast, hmost⟩ := hcycle
  unfold referenceAdvanced
  by_cases hnone : previous = 0
  · rw [if_neg (not_not.mpr hnone), if_pos hnone]
    rfl
  rw [if_pos hnone, if_neg hnone, Option.any_some]
  by_cases hup : reference > previous
  · rw [if_pos hup, signed64_eq (by unfold int64Max; omega)]
    simp only [Option.bind_eq_bind, Option.bind_some]
    rw [roundedCycles_eq (by omega) (by omega) (by omega)]
    simp only [Option.bind_some, advances]
    generalize hwhole : wholeCycles cycle (reference - previous) = whole
    by_cases hrange : 1 ≤ whole ∧ whole ≤ 4
    · have hproduct : whole * cycle ≤ 4 * 1000000000 :=
        mul_le_mul hrange.2 hmost (by omega) (by omega)
      have hproduct_pos : 0 ≤ whole * cycle := mul_nonneg (by omega) (by omega)
      have hfits : ¬whole > int64Max.tdiv cycle := by
        rw [gt_iff_lt, not_lt, Int.tdiv_eq_ediv_of_nonneg (by decide),
          Int.le_ediv_iff_mul_le (by omega)]
        unfold int64Max
        omega
      rw [if_pos hrange, if_neg hfits, signed64_eq (by unfold int64Max; omega)]
      simp only [Option.bind_some]
      rw [signed64_eq (by unfold int64Max; omega)]
      simp only [Option.bind_some]
      rw [signed64_eq (by rw [abs_eq_max_neg]; unfold int64Max; omega)]
      simp only [Option.bind_some, Int.tdiv_eq_ediv_of_nonneg (by omega : 0 ≤ cycle),
        max_eq_right (by omega : (1000 : ℤ) ≤ cycle / 5), hrange, true_and]
    · rw [if_neg hrange]
      refine congrArg some (decide_eq_false ?_).symm
      exact fun h => hrange ⟨h.1, h.2.1⟩
  · have hdown := wholeCycles_nonpos (by omega : 2 ≤ cycle) (by omega : reference - previous ≤ 0)
    rw [if_neg hup]
    simp only [Option.bind_eq_bind, Option.bind_some, roundedCycles, gt_iff_lt, lt_irrefl,
      if_false, advances]
    refine congrArg some (decide_eq_false ?_).symm
    omega

theorem phaseError_eq (hcycle : CycleInRange cycle) {reference : ℤ} (hreference : 0 < reference) :
    phaseError cycle reference = some (phaseOf cycle reference) := by
  obtain ⟨hleast, hmost⟩ := hcycle
  have hnonneg := Int.emod_nonneg reference (by omega : cycle ≠ 0)
  have hlt := Int.emod_lt_of_pos reference (by omega : 0 < cycle)
  unfold phaseError phaseOf
  rw [Int.tmod_eq_emod_of_nonneg hreference.le,
    Int.tdiv_eq_ediv_of_nonneg (by omega : 0 ≤ cycle)]
  dsimp only
  split_ifs
  · exact signed64_eq (by unfold int64Max; omega)
  · rfl

theorem nextIntegral_eq (hcycle : CycleInRange cycle) {integral : ℤ}
    (hintegral : |integral| ≤ 100 * cycle) (sample : ClockSample) :
    nextIntegral cycle integral sample.advancing sample.phase =
      some (integrate cycle integral sample) := by
  obtain ⟨hleast, hmost⟩ := hcycle
  rw [abs_le] at hintegral
  have hlimit : integralLimit cycle = some (cycle * 100) := by
    unfold integralLimit
    rw [if_neg, signed64_eq (by unfold int64Max; omega)]
    rw [Int.tdiv_eq_ediv_of_nonneg (by decide)]
    unfold int64Max
    omega
  unfold nextIntegral integrate
  rw [hlimit]
  simp only [Option.bind_eq_bind, Option.bind_some]
  split_ifs
  · rw [signed64_eq (by unfold int64Max; omega)]
    rfl
  · rw [signed64_eq (by unfold int64Max; omega), Option.bind_some,
      signed64_eq (by unfold int64Max; omega)]
    rfl
  · rfl

/-- The integral stays within its limits. -/
theorem abs_integrate_le (hcycle : CycleInRange cycle) {integral : ℤ}
    (hintegral : |integral| ≤ 100 * cycle) (sample : ClockSample) :
    |integrate cycle integral sample| ≤ 100 * cycle := by
  have hleast := hcycle.least
  rw [abs_le] at hintegral ⊢
  unfold integrate
  split_ifs <;> omega

/-- A truncated quotient is no larger than its dividend. -/
theorem abs_tdiv_le {value bound : ℤ} (divisor : ℤ) (h : |value| ≤ bound) :
    |value.tdiv divisor| ≤ bound := by
  refine le_trans ?_ h
  rw [Int.abs_eq_natAbs, Int.abs_eq_natAbs, Int.natAbs_tdiv]
  exact Int.ofNat_le.mpr (Nat.div_le_self _ _)

theorem correction_eq (hcycle : CycleInRange cycle) {integral : ℤ}
    (hintegral : |integral| ≤ 100 * cycle) {sample : ClockSample}
    (hphase : 2 * |sample.phase| ≤ cycle) :
    correction cycle integral sample.advancing sample.phase =
      some (correct cycle integral sample) := by
  obtain ⟨hleast, hmost⟩ := hcycle
  have hproportional : |sample.phase.tdiv 100| ≤ cycle := abs_tdiv_le 100 (by omega)
  have hsum : |integral.tdiv 1000| ≤ 100 * cycle := abs_tdiv_le 1000 hintegral
  rw [abs_le] at hproportional hsum
  unfold correction correct
  rw [Int.tdiv_eq_ediv_of_nonneg (by omega : 0 ≤ cycle)]
  split_ifs
  · rw [signed64_eq (by unfold int64Max; omega)]
    simp only [Option.bind_eq_bind, Option.bind_some]
    rw [signed64_eq (by unfold int64Max; omega), Option.bind_some,
      signed64_eq (by unfold int64Max; omega)]
    rfl
  · rfl

/-- The correction is at most a tenth of the cycle. -/
theorem abs_correct_le (cycle integral : ℤ) (sample : ClockSample) :
    |correct cycle integral sample| ≤ max 1 (cycle / 10) := by
  rw [abs_le]
  unfold correct clampInt
  split_ifs <;> omega

/-- **A valid update computes what its sample says**, and no intermediate result overflows. -/
theorem update_eq (hcycle : CycleInRange cycle) (h : controller.Bounded cycle) {reference : ℤ}
    (hreference : 0 < reference ∧ reference < 2 ^ 63) :
    controller.update reference =
      some (controller.observe reference (take cycle controller.latest reference)) := by
  obtain ⟨rfl, hprevious, hintegral⟩ := h
  have hleast := hcycle.least
  have hmost := hcycle.most
  have hadvanced : referenceAdvanced controller.cycleNanoseconds controller.previousReference
      reference = some (take _ controller.latest reference).advancing :=
    referenceAdvanced_eq hcycle hprevious hreference
  have hphase : phaseError controller.cycleNanoseconds reference =
      some (take _ controller.latest reference).phase := phaseError_eq hcycle hreference.1
  have habs : 2 * |(take _ controller.latest reference).phase| ≤ controller.cycleNanoseconds :=
    abs_phaseOf_le (by omega) reference
  generalize take controller.cycleNanoseconds controller.latest reference = sample at *
  have hfits : signed64 |sample.phase| = some |sample.phase| :=
    signed64_eq (by unfold int64Max; rw [abs_eq_max_neg] at habs ⊢; omega)
  have hcorrection := correction_eq hcycle (abs_integrate_le hcycle hintegral sample) habs
  have htolerance : max 1000 (controller.cycleNanoseconds.tdiv 20) =
      controller.cycleNanoseconds / 20 := by
    rw [Int.tdiv_eq_ediv_of_nonneg (by omega)]
    omega
  have hfar : controller.cycleNanoseconds.tdiv 4 = controller.cycleNanoseconds / 4 :=
    Int.tdiv_eq_ediv_of_nonneg (by omega)
  have hinvalid : ¬(controller.cycleNanoseconds ≤ 0 ∨ reference ≤ 0) := by omega
  simp only [update, hinvalid, if_false, hadvanced, hphase, nextIntegral_eq hcycle hintegral,
    hcorrection, hfits, htolerance, hfar, Option.bind_eq_bind, Option.bind_some]
  obtain ⟨advancing, phase⟩ := sample
  cases advancing <;>
    simp only [observe, locked, stalled, far, Bool.false_and, Bool.true_and, Bool.not_true,
      Bool.not_false, decide_eq_true_eq, Bool.false_eq_true, false_and, true_and, if_true, if_false]

/-- An invalid reference is only counted. -/
theorem update_invalid (controller : DistributedClockController) {reference : ℤ}
    (hreference : reference ≤ 0) :
    controller.update reference =
      some ({ fault := decide (500 ≤ increment controller.observations) },
        { controller with observations := increment controller.observations }) :=
  if_pos (.inr hreference)

theorem new_bounded (hcycle : CycleInRange cycle) : (new cycle).Bounded cycle :=
  ⟨rfl, ⟨le_rfl, Int.pow_pos (by decide)⟩, by
    have hleast := hcycle.least
    simp only [new, abs_zero]
    omega⟩

/-- **The ranges are kept.** -/
theorem observe_bounded (hcycle : CycleInRange cycle) (h : controller.Bounded cycle) {reference : ℤ}
    (hreference : 0 < reference ∧ reference < 2 ^ 63) (sample : ClockSample) :
    (controller.observe reference sample).2.Bounded cycle where
  cycleNanoseconds := h.cycleNanoseconds
  previousReference := ⟨hreference.1.le, hreference.2⟩
  integral := by
    obtain ⟨rfl, -, hintegral⟩ := h
    exact abs_integrate_le hcycle hintegral sample

end DistributedClockController

end EcSystemCore
