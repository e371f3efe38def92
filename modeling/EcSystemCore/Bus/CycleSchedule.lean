import Mathlib

/-!
# The wake-ups of the cyclic thread

`RunCyclic` sleeps until an absolute time and moves that time on at the end of every cycle: by
the period and the correction of the distributed clock, and by whole periods if that time has
passed.  The code computes in seconds and nanoseconds (`timespec`); here every operation is
related to the time in nanoseconds (`Timespec.total`).
-/

namespace EcSystemCore

/-- `timespec`. -/
structure Timespec where
  tvSec : ℤ
  tvNsec : ℤ
  deriving DecidableEq, Repr

namespace Timespec

/-- The time in nanoseconds. -/
def total (time : Timespec) : ℤ := time.tvSec * 1000000000 + time.tvNsec

/-- The nanoseconds are less than a second. -/
def Normal (time : Timespec) : Prop := 0 ≤ time.tvNsec ∧ time.tvNsec < 1000000000

/-- The loop that carries full seconds. -/
def carry (time : Timespec) : Timespec :=
  if time.tvNsec ≥ 1000000000 then carry ⟨time.tvSec + 1, time.tvNsec - 1000000000⟩ else time
termination_by time.tvNsec.toNat

/-- The loop that borrows seconds. -/
def borrow (time : Timespec) : Timespec :=
  if time.tvNsec < 0 then borrow ⟨time.tvSec - 1, time.tvNsec + 1000000000⟩ else time
termination_by (-time.tvNsec).toNat

/-- `AddToTimespec`. -/
def addToTimespec (time : Timespec) (microseconds : ℤ) : Timespec :=
  carry ⟨time.tvSec + microseconds.tdiv 1000000,
    time.tvNsec + microseconds.tmod 1000000 * 1000⟩

/-- `AddNanoseconds`. -/
def addNanoseconds (time : Timespec) (nanoseconds : ℤ) : Timespec :=
  borrow (carry ⟨time.tvSec + nanoseconds.tdiv 1000000000,
    time.tvNsec + nanoseconds.tmod 1000000000⟩)

/-- `TimespecLess`. -/
def timespecLess (left right : Timespec) : Bool :=
  left.tvSec < right.tvSec ∨ left.tvSec = right.tvSec ∧ left.tvNsec < right.tvNsec

/-- `DifferenceMicros`. -/
def differenceMicros (later earlier : Timespec) : ℕ :=
  let seconds := later.tvSec - earlier.tvSec
  let nanoseconds := later.tvNsec - earlier.tvNsec
  let (seconds, nanoseconds) := if nanoseconds < 0 then (seconds - 1, nanoseconds + 1000000000)
    else (seconds, nanoseconds)
  if seconds < 0 then 0
  else min (seconds.toNat * 1000000 + (nanoseconds.tdiv 1000).toNat) 0xffffffff

theorem carry_spec (time : Timespec) :
    (carry time).total = time.total ∧ (carry time).tvNsec < 1000000000 := by
  fun_induction carry time with
  | case1 time hfull ih =>
    simp only [total] at ih ⊢
    omega
  | case2 time hnot => exact ⟨rfl, not_le.mp hnot⟩

theorem borrow_spec (time : Timespec) (h : time.tvNsec < 1000000000) :
    (borrow time).total = time.total ∧ (borrow time).Normal := by
  fun_induction borrow time with
  | case1 time hneg ih =>
    obtain ⟨htotal, hnormal⟩ := ih (by dsimp only; omega)
    refine ⟨htotal.trans ?_, hnormal⟩
    simp only [total]
    omega
  | case2 time hnot => exact ⟨rfl, not_lt.mp hnot, h⟩

theorem addNanoseconds_spec (time : Timespec) (nanoseconds : ℤ) :
    (time.addNanoseconds nanoseconds).total = time.total + nanoseconds ∧
      (time.addNanoseconds nanoseconds).Normal := by
  have hdivision := Int.mul_tdiv_add_tmod nanoseconds 1000000000
  obtain ⟨hcarried, hless⟩ := carry_spec ⟨time.tvSec + nanoseconds.tdiv 1000000000,
    time.tvNsec + nanoseconds.tmod 1000000000⟩
  obtain ⟨hborrowed, hnormal⟩ := borrow_spec _ hless
  refine ⟨hborrowed.trans (hcarried.trans ?_), hnormal⟩
  simp only [total]
  omega

theorem total_addToTimespec (time : Timespec) (microseconds : ℤ) :
    (time.addToTimespec microseconds).total = time.total + microseconds * 1000 := by
  have hdivision := Int.mul_tdiv_add_tmod microseconds 1000000
  refine (carry_spec _).1.trans ?_
  simp only [total]
  omega

theorem timespecLess_iff {left right : Timespec} (hleft : left.Normal) (hright : right.Normal) :
    timespecLess left right = true ↔ left.total < right.total := by
  obtain ⟨hleft₀, hleft₁⟩ := hleft
  obtain ⟨hright₀, hright₁⟩ := hright
  simp only [timespecLess, total, decide_eq_true_eq]
  omega

/-- The whole microseconds between two times, up to the largest 32-bit number. -/
theorem differenceMicros_eq {later earlier : Timespec} (hlater : later.Normal)
    (hearlier : earlier.Normal) (h : earlier.total < later.total) :
    differenceMicros later earlier =
      min ((later.total - earlier.total) / 1000).toNat 0xffffffff := by
  obtain ⟨hlater₀, hlater₁⟩ := hlater
  obtain ⟨hearlier₀, hearlier₁⟩ := hearlier
  simp only [total] at h ⊢
  unfold differenceMicros
  dsimp only
  split_ifs with hneg hnone hnone
  all_goals
    dsimp only at hnone ⊢
    try rw [Int.tdiv_eq_ediv_of_nonneg (by omega)]
    omega

end Timespec

/-- The largest value of the overrun counter. -/
def maximumOverruns : ℕ := 0xffffffffffffffff

/-- `AtomicSaturatingIncrement` of the overrun counter. -/
def atomicSaturatingIncrement (value amount : ℕ) : ℕ :=
  if value = maximumOverruns then value
  else if amount > maximumOverruns - value then maximumOverruns else value + amount

theorem atomicSaturatingIncrement_min (value amount : ℕ) :
    atomicSaturatingIncrement (min value maximumOverruns) amount =
      min (value + amount) maximumOverruns := by
  unfold atomicSaturatingIncrement
  split_ifs <;> omega

/-- What `RunCyclic` keeps from cycle to cycle: `next` and `cycleOverruns_`. -/
structure CycleSchedule where
  next : Timespec
  overruns : ℕ := 0
  deriving DecidableEq, Repr

namespace CycleSchedule

open Timespec

/-- The end of a cycle of `RunCyclic`, with the correction of the clock and the time it is. -/
def finishCycle (periodUs : ℕ) (schedule : CycleSchedule) (cycle : ℤ × Timespec) : CycleSchedule :=
  let next := schedule.next.addNanoseconds (periodUs * 1000 + cycle.1)
  if timespecLess next cycle.2 then
    let missed := differenceMicros cycle.2 next / periodUs + 1
    { next := next.addToTimespec ↑(min missed (0x7fffffffffffffff / periodUs) * periodUs)
      overruns := atomicSaturatingIncrement schedule.overruns missed }
  else { schedule with next }

/-- The run of the cycles with these corrections and finishing times. -/
def finishCycles (periodUs : ℕ) (schedule : CycleSchedule) (cycles : List (ℤ × Timespec)) :
    CycleSchedule :=
  cycles.foldl (finishCycle periodUs) schedule

variable {periodUs : ℕ}

/-- The end of a cycle moves the wake-up by whole periods, as many as it counts, and past the
time it is. -/
theorem finishCycle_spec (schedule : CycleSchedule) {cycle : ℤ × Timespec}
    (period : 0 < periodUs ∧ periodUs ≤ 1000000) (normal : cycle.2.Normal) :
    ∃ missed : ℕ,
      (schedule.finishCycle periodUs cycle).next.total =
        schedule.next.total + cycle.1 + (1 + missed) * (periodUs * 1000) ∧
      (∀ counted, schedule.overruns = min counted maximumOverruns →
        (schedule.finishCycle periodUs cycle).overruns =
          min (counted + missed) maximumOverruns) ∧
      (cycle.2.total < schedule.next.total + cycle.1 + periodUs * 1000 + 2 ^ 32 * 1000 →
        cycle.2.total ≤ (schedule.finishCycle periodUs cycle).next.total) := by
  obtain ⟨htotal, hnormal⟩ := schedule.next.addNanoseconds_spec (periodUs * 1000 + cycle.1)
  unfold finishCycle
  generalize schedule.next.addNanoseconds (periodUs * 1000 + cycle.1) = regular at htotal hnormal ⊢
  dsimp only
  split_ifs with hless
  · rw [timespecLess_iff hnormal normal] at hless
    have hdelay := differenceMicros_eq normal hnormal hless
    generalize differenceMicros cycle.2 regular = delay at hdelay ⊢
    have hcovered : delay < delay / periodUs * periodUs + periodUs := Nat.lt_div_mul_add period.1
    have hbound := Nat.div_mul_le_self delay periodUs
    rw [← Nat.add_one_mul] at hcovered
    -- the delay has 32 bits, so the bound on the product never applies
    rw [min_eq_left ((Nat.le_div_iff_mul_le period.1).mpr (by rw [Nat.add_one_mul]; omega)),
      total_addToTimespec]
    generalize delay / periodUs + 1 = missed at hcovered ⊢
    refine ⟨missed, ?_, fun counted hcounted => ?_, fun hlate => ?_⟩
    · rw [htotal]
      push_cast
      ring
    · rw [hcounted, atomicSaturatingIncrement_min]
    · omega
  · rw [timespecLess_iff hnormal normal, not_lt] at hless
    refine ⟨0, ?_, fun counted hcounted => hcounted, fun _ => hless⟩
    rw [htotal]
    ring

/-- **No wake-up in the past**: unless a cycle ends 2³² microseconds late, the next one is not
before its end. -/
theorem wakeUp_not_past (schedule : CycleSchedule) (cycle : ℤ × Timespec)
    (period : 0 < periodUs ∧ periodUs ≤ 1000000) (normal : cycle.2.Normal)
    (late : cycle.2.total < schedule.next.total + cycle.1 + periodUs * 1000 + 2 ^ 32 * 1000) :
    cycle.2.total ≤ (schedule.finishCycle periodUs cycle).next.total := by
  obtain ⟨-, -, -, hpast⟩ := finishCycle_spec schedule period normal
  exact hpast late

/-- A cycle of 5 ms that ends 12 ms after its wake-up. -/
theorem wakeUp_not_past_late :
    total ⟨0, 12000000⟩ ≤ (finishCycle 5000 ⟨⟨0, 0⟩, 0⟩ (0, ⟨0, 12000000⟩)).next.total :=
  wakeUp_not_past ⟨⟨0, 0⟩, 0⟩ (0, ⟨0, 12000000⟩) (by decide) ⟨by decide, by decide⟩ (by decide)

end CycleSchedule

end EcSystemCore
