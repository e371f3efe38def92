import EcSystemCore.Bus.DistributedClock
import EcSystemCore.Lib.Streak

/-!
# What the distributed clock's history says about its answers

`record` lists what each update of a run was given: nothing for an invalid reference, a
sample for a valid one.  The controller's counters are streaks of that record (`Tracks`), so
its answers can be read off the record: the clock is synchronized when a run of locked
samples has not been followed by a run of stalled ones (`synchronized_iff`).
-/

namespace EcSystemCore

open Execution Streak

namespace DistributedClockController

open ClockSample

variable {cycle : ℤ} {controller next : DistributedClockController}
  {adjustment : DistributedClockAdjustment} {references : List Int64} {reference : Int64}

/-! ### The record of a run -/

/-- The latest valid reference of a run that starts with `latest`. -/
def latestOf (latest : Option ℤ) (references : List Int64) : Option ℤ :=
  references.foldl (fun latest reference =>
    if 0 < reference.toInt then some reference.toInt else latest) latest

/-- What the updates of a run were given. -/
def record (cycle : ℤ) : Option ℤ → List Int64 → List (Option ClockSample)
  | _, [] => []
  | latest, reference :: references =>
    (if 0 < reference.toInt then some (take cycle latest reference.toInt) else none) ::
      record cycle (latestOf latest [reference]) references

/-- The samples of the valid updates. -/
def samples (cycle : ℤ) (references : List Int64) : List ClockSample :=
  (record cycle none references).filterMap id

/-- An update whose reference did not advance; an invalid one never does. -/
def notAdvanced (update : Option ClockSample) : Bool := update.all stalled

theorem latestOf_concat (latest : Option ℤ) (references : List Int64) (reference : Int64) :
    latestOf latest (references ++ [reference]) =
      if 0 < reference.toInt then some reference.toInt else latestOf latest references := by
  simp [latestOf]

theorem record_concat (cycle : ℤ) (latest : Option ℤ) (references : List Int64)
    (reference : Int64) :
    record cycle latest (references ++ [reference]) =
      record cycle latest references ++
        [if 0 < reference.toInt then
          some (take cycle (latestOf latest references) reference.toInt)
        else none] := by
  induction references generalizing latest with
  | nil => rfl
  | cons first rest ih =>
    rw [List.cons_append, record, ih, record]
    rfl

theorem samples_concat_valid (cycle : ℤ) (references : List Int64)
    (hvalid : 0 < reference.toInt) :
    samples cycle (references ++ [reference]) =
      samples cycle references ++ [take cycle (latestOf none references) reference.toInt] := by
  unfold samples
  rw [record_concat, if_pos hvalid, List.filterMap_append]
  rfl

theorem samples_concat_invalid (cycle : ℤ) (references : List Int64)
    (hinvalid : ¬0 < reference.toInt) :
    samples cycle (references ++ [reference]) = samples cycle references := by
  unfold samples
  rw [record_concat, if_neg hinvalid, List.filterMap_append]
  exact List.append_nil _

/-! ### The counters -/

/-- A counter holds a number of observations, up to its maximum. -/
def saturated (count : ℕ) : ℕ := min count (2 ^ 32 - 1)

theorem increment_saturated (count : ℕ) : increment (saturated count) = saturated (count + 1) := by
  unfold increment saturated
  split_ifs <;> omega

theorem increment_le {counter count : ℕ} (h : counter ≤ count) : increment counter ≤ count + 1 := by
  unfold increment
  split_ifs <;> omega

theorem le_saturated_iff {threshold count : ℕ} (h : threshold ≤ 500) :
    threshold ≤ saturated count ↔ threshold ≤ count := by
  unfold saturated
  omega

/-- A streak goes up by one or is broken. -/
theorem saturated_streak_concat {α : Type} (p : α → Bool) (xs : List α) (x : α) :
    saturated (streak p (xs ++ [x])) =
      if p x = true then increment (saturated (streak p xs)) else 0 := by
  rw [streak_concat]
  split_ifs
  · exact (increment_saturated _).symm
  · rfl

/-- The controller has seen the references. -/
structure Tracks (cycle : ℤ) (references : List Int64) (controller : DistributedClockController) :
    Prop extends controller.Bounded cycle where
  latest : controller.latest = latestOf none references
  observations : controller.observations = saturated references.length
  stableCycles : controller.stableCycles = saturated (streak (locked cycle) (samples cycle references))
  invalidAdvanceCycles :
    controller.invalidAdvanceCycles = saturated (streak stalled (samples cycle references))
  badCyclesAfterLock : controller.badCyclesAfterLock ≤ streak (far cycle) (samples cycle references)
  synchronized :
    controller.synchronized = true ↔ Latched (locked cycle) stalled 20 3 (samples cycle references)

theorem new_tracks (hcycle : CycleInRange cycle) : Tracks cycle [] (new cycle) where
  toBounded := new_bounded hcycle
  latest := rfl
  observations := rfl
  stableCycles := by simp [samples, record, saturated, new]
  invalidAdvanceCycles := by simp [samples, record, saturated, new]
  badCyclesAfterLock := Nat.zero_le _
  synchronized := iff_of_false Bool.false_ne_true (not_latched_nil (by decide))

theorem observe_fault (controller : DistributedClockController) (reference : ℤ)
    (sample : ClockSample) : (controller.observe reference sample).1.fault =
      (decide (3 ≤ (controller.observe reference sample).2.invalidAdvanceCycles) ||
        decide (10 ≤ (controller.observe reference sample).2.badCyclesAfterLock) ||
        (!(controller.observe reference sample).2.synchronized &&
          decide (500 ≤ (controller.observe reference sample).2.observations))) :=
  rfl

theorem observe_synchronized (controller : DistributedClockController) (reference : ℤ)
    (sample : ClockSample) : (controller.observe reference sample).2.synchronized =
      (decide (20 ≤ (controller.observe reference sample).2.stableCycles) ||
        controller.synchronized &&
          decide ((controller.observe reference sample).2.invalidAdvanceCycles < 3)) :=
  rfl

theorem not_stalled_of_locked (sample : ClockSample) (h : locked cycle sample = true) :
    stalled sample = false := by
  unfold stalled
  rw [(Bool.and_eq_true_iff.mp h).1]
  rfl

/-- **A valid update** adds its sample to the record. -/
theorem Tracks.observe (hcycle : CycleInRange cycle) (h : Tracks cycle references controller)
    (hvalid : 0 < reference.toInt) :
    Tracks cycle (references ++ [reference]) (controller.observe reference.toInt
      (take cycle controller.latest reference.toInt)).2 := by
  have hcycleEq := h.cycleNanoseconds
  rw [h.latest]
  have hsamples := samples_concat_valid cycle references hvalid
  have hbounded := observe_bounded hcycle h.toBounded ⟨hvalid, reference.toInt_lt⟩
    (take cycle (latestOf none references) reference.toInt)
  generalize take cycle (latestOf none references) reference.toInt = sample at hsamples hbounded ⊢
  have hstable : (controller.observe reference.toInt sample).2.stableCycles =
      saturated (streak (locked cycle) (samples cycle references ++ [sample])) := by
    rw [saturated_streak_concat, ← h.stableCycles, ← hcycleEq]
    rfl
  have hinvalid : (controller.observe reference.toInt sample).2.invalidAdvanceCycles =
      saturated (streak stalled (samples cycle references ++ [sample])) := by
    rw [saturated_streak_concat, ← h.invalidAdvanceCycles]
    rfl
  refine ⟨hbounded, ?_, ?_, ?_, ?_, ?_, ?_⟩
  · rw [latestOf_concat, if_pos hvalid]
    exact if_neg hvalid.ne'
  · rw [List.length_append]
    exact (congrArg increment h.observations).trans (increment_saturated _)
  · rw [hsamples]
    exact hstable
  · rw [hsamples]
    exact hinvalid
  · have hbad : ∀ synchronized : Bool,
        (if synchronized ∧ far cycle sample = true then increment controller.badCyclesAfterLock
        else 0) ≤ streak (far cycle) (samples cycle references ++ [sample]) := by
      intro synchronized
      rw [streak_concat]
      split_ifs with hboth hfar hfar
      · exact increment_le h.badCyclesAfterLock
      · exact absurd hboth.2 hfar
      · exact Nat.zero_le _
      · exact le_rfl
    rw [hsamples]
    rw [← hcycleEq] at hbad ⊢
    exact hbad _
  · rw [hsamples, latched_concat (by decide) (by decide) not_stalled_of_locked, ← h.synchronized,
      ← le_saturated_iff (by decide : 20 ≤ 500), ← hstable, ← Nat.not_le,
      ← le_saturated_iff (by decide : 3 ≤ 500), ← hinvalid, Nat.not_le]
    rw [observe_synchronized, Bool.or_eq_true, Bool.and_eq_true, decide_eq_true_eq,
      decide_eq_true_eq]

/-- **An invalid update** is only counted. -/
theorem Tracks.skip (h : Tracks cycle references controller) (hinvalid : ¬0 < reference.toInt) :
    Tracks cycle (references ++ [reference])
      { controller with observations := increment controller.observations } := by
  have hsamples := samples_concat_invalid cycle references hinvalid
  refine ⟨⟨h.cycleNanoseconds, h.previousReference, h.integral⟩, ?_, ?_, ?_, ?_, ?_, ?_⟩
  · rw [latestOf_concat, if_neg hinvalid]
    exact h.latest
  · rw [List.length_append]
    exact (congrArg increment h.observations).trans (increment_saturated _)
  · rw [hsamples]
    exact h.stableCycles
  · rw [hsamples]
    exact h.invalidAdvanceCycles
  · rw [hsamples]
    exact h.badCyclesAfterLock
  · rw [hsamples]
    exact h.synchronized

/-- What an update answers and leaves behind. -/
theorem Tracks.update (hcycle : CycleInRange cycle) (h : Tracks cycle references controller)
    (reference : Int64) :
    ∃ adjustment next, controller.update reference.toInt = some (adjustment, next) ∧
      Tracks cycle (references ++ [reference]) next := by
  by_cases hvalid : 0 < reference.toInt
  · exact ⟨_, _, update_eq hcycle h.toBounded ⟨hvalid, reference.toInt_lt⟩, h.observe hcycle hvalid⟩
  · exact ⟨_, _, update_invalid controller (Int.not_lt.mp hvalid), h.skip hvalid⟩

/-- **Every run goes through**, and the controller tracks it. -/
theorem exists_run_tracks (hcycle : CycleInRange cycle) (references : List Int64) :
    ∃ controller, run step (new cycle) references = some controller ∧
      Tracks cycle references controller := by
  induction references using List.reverseRecOn with
  | nil => exact ⟨new cycle, rfl, new_tracks hcycle⟩
  | append_singleton references reference ih =>
    obtain ⟨controller, hrun, htracks⟩ := ih
    obtain ⟨adjustment, next, hupdate, hnext⟩ := htracks.update hcycle reference
    refine ⟨next, (run_concat_eq_some step).mpr ⟨controller, hrun, ?_⟩, hnext⟩
    rw [step, hupdate]
    rfl

/-! ### The ranges of the answers -/

/-- **Nothing overflows and every answer is in range**, whatever references the controller is
given: the phase error is the reference's distance from a multiple of the cycle, the
correction is at most a tenth of the cycle and none without an advance, and the next wake-up
is ahead. -/
theorem adjustment_in_range (hcycle : CycleInRange cycle) (references : List Int64)
    (reference : Int64) :
    ∃ controller adjustment next, run step (new cycle) references = some controller ∧
      controller.update reference.toInt = some (adjustment, next) ∧
      |next.integral| ≤ 100 * cycle ∧
      (adjustment.valid = true →
        (-cycle ≤ 2 * adjustment.phaseErrorNs ∧ 2 * adjustment.phaseErrorNs ≤ cycle) ∧
        adjustment.phaseErrorNs ≡ reference.toInt [ZMOD cycle] ∧
        |adjustment.correctionNs| ≤ max 1 (cycle / 10) ∧
        ((∀ earlier ∈ latestOf none references, advances cycle earlier reference.toInt = false) →
          adjustment.correctionNs = 0)) ∧
      ∃ delay, wakeUpDelay cycle adjustment = some delay ∧ 0 < delay := by
  have hleast := hcycle.least
  have hmost := hcycle.most
  have hdelay : ∀ adjustment : DistributedClockAdjustment,
      |adjustment.correctionNs| ≤ max 1 (cycle / 10) →
        ∃ delay, wakeUpDelay cycle adjustment = some delay ∧ 0 < delay := by
    intro adjustment hcorrection
    rw [abs_le] at hcorrection
    exact ⟨_, signed64_eq (by unfold int64Max; omega), by omega⟩
  obtain ⟨controller, hrun, htracks⟩ := exists_run_tracks hcycle references
  by_cases hvalid : 0 < reference.toInt
  · have hbounded := htracks.toBounded
    have hphase := abs_phaseOf_le (by omega : 0 < cycle) reference.toInt
    have hcorrection := abs_correct_le cycle (integrate cycle controller.integral
      (take cycle controller.latest reference.toInt)) (take cycle controller.latest reference.toInt)
    have hupdate := update_eq hcycle hbounded ⟨hvalid, reference.toInt_lt⟩
    rw [abs_eq_max_neg] at hphase
    rw [← hbounded.cycleNanoseconds] at hcorrection
    refine ⟨controller, _, _, hrun, hupdate,
      (observe_bounded hcycle hbounded ⟨hvalid, reference.toInt_lt⟩ _).integral,
      fun _ => ⟨⟨?_, ?_⟩, phaseOf_modEq cycle reference.toInt, ?_, fun hstalled => ?_⟩,
      hdelay _ ?_⟩
    · change -cycle ≤ 2 * phaseOf cycle reference.toInt
      omega
    · change 2 * phaseOf cycle reference.toInt ≤ cycle
      omega
    · rw [← hbounded.cycleNanoseconds]
      exact hcorrection
    · have hadvancing : (take cycle controller.latest reference.toInt).advancing = false := by
        rw [htracks.latest]
        cases hlatest : latestOf none references with
        | none => rfl
        | some earlier => exact hstalled earlier hlatest
      exact if_neg (by rw [hadvancing]; decide)
    · rw [← hbounded.cycleNanoseconds]
      exact hcorrection
  · refine ⟨controller, _, _, hrun, update_invalid controller (Int.not_lt.mp hvalid),
      htracks.integral, nofun, hdelay _ ?_⟩
    simp only [abs_zero]
    omega

/-- Three cycles and a standstill. -/
theorem adjustment_in_range_standstill :
    ∃ controller adjustment next,
      run step (new 5000000) [5000000, 10000000, 15000000] = some controller ∧
      controller.update (15000000 : Int64).toInt = some (adjustment, next) ∧
      |next.integral| ≤ 100 * 5000000 ∧
      (adjustment.valid = true →
        (-5000000 ≤ 2 * adjustment.phaseErrorNs ∧ 2 * adjustment.phaseErrorNs ≤ 5000000) ∧
        adjustment.phaseErrorNs ≡ (15000000 : Int64).toInt [ZMOD 5000000] ∧
        |adjustment.correctionNs| ≤ max 1 (5000000 / 10) ∧
        ((∀ earlier ∈ latestOf none [5000000, 10000000, 15000000],
            advances 5000000 earlier (15000000 : Int64).toInt = false) →
          adjustment.correctionNs = 0)) ∧
      ∃ delay, wakeUpDelay 5000000 adjustment = some delay ∧ 0 < delay :=
  adjustment_in_range ⟨by decide, by decide⟩ [5000000, 10000000, 15000000] 15000000

/-! ### Synchronization -/

/-- **When a valid update reports that the clock is synchronized**: some twenty valid updates in
a row, up to this one, advanced and were in phase, and no three in a row that did not advance
came behind them. -/
theorem synchronized_iff (hcycle : CycleInRange cycle) (references : List Int64)
    (reference : Int64) (hvalid : 0 < reference.toInt) :
    ∃ controller adjustment next, run step (new cycle) references = some controller ∧
      controller.update reference.toInt = some (adjustment, next) ∧
      (adjustment.synchronized = true ↔
        ∃ past twenty rest, samples cycle (references ++ [reference]) = past ++ twenty ++ rest ∧
          twenty.length = 20 ∧
          (∀ sample ∈ twenty, sample.advancing = true ∧ |sample.phase| ≤ cycle / 20) ∧
          ∀ three, three <:+: rest → three.length = 3 →
            ∃ sample ∈ three, sample.advancing = true) := by
  obtain ⟨controller, hrun, htracks⟩ := exists_run_tracks hcycle references
  have hnext := (htracks.observe hcycle hvalid).synchronized
  refine ⟨controller, _, _, hrun,
    update_eq hcycle htracks.toBounded ⟨hvalid, reference.toInt_lt⟩, hnext.trans ?_⟩
  simp only [Latched, locked, stalled, Bool.and_eq_true, decide_eq_true_eq, Bool.not_eq_false']

/-- References one cycle apart and in phase. -/
def steadyReferences (count : ℕ) : List Int64 :=
  (List.range count).map fun index => Int64.ofNat (5000000 * (index + 1))

theorem synchronized_iff_steady :
    0 < (105000000 : Int64).toInt ∧
    ∃ controller adjustment next,
      run step (new 5000000) (steadyReferences 20) = some controller ∧
      controller.update (105000000 : Int64).toInt = some (adjustment, next) ∧
      (adjustment.synchronized = true ↔
        ∃ past twenty rest, samples 5000000 (steadyReferences 20 ++ [105000000]) =
            past ++ twenty ++ rest ∧
          twenty.length = 20 ∧
          (∀ sample ∈ twenty, sample.advancing = true ∧ |sample.phase| ≤ 5000000 / 20) ∧
          ∀ three, three <:+: rest → three.length = 3 →
            ∃ sample ∈ three, sample.advancing = true) :=
  ⟨by decide, synchronized_iff ⟨by decide, by decide⟩ (steadyReferences 20) 105000000 (by decide)⟩

/-! ### Faults of a synchronized clock -/

/-- The most recent valid update reported that the clock is synchronized. -/
def SynchronizedLast (cycle : ℤ) (references : List Int64) : Prop :=
  ∃ before valid invalid controller adjustment next,
    references = before ++ valid :: invalid ∧ 0 < valid.toInt ∧
      (∀ reference ∈ invalid, ¬0 < reference.toInt) ∧
      run step (new cycle) before = some controller ∧
      controller.update valid.toInt = some (adjustment, next) ∧ adjustment.synchronized = true

/-- The samples of a run do not change with invalid updates. -/
theorem samples_append_invalid (cycle : ℤ) (references : List Int64) {invalid : List Int64}
    (hinvalid : ∀ reference ∈ invalid, ¬0 < reference.toInt) :
    samples cycle (references ++ invalid) = samples cycle references := by
  induction invalid using List.reverseRecOn with
  | nil => rw [List.append_nil]
  | append_singleton invalid reference ih =>
    rw [← List.append_assoc, samples_concat_invalid _ _ (hinvalid reference (by simp))]
    exact ih fun other hother => hinvalid other (by simp [hother])

theorem latched_of_synchronizedLast (hcycle : CycleInRange cycle)
    (h : SynchronizedLast cycle references) :
    Latched (locked cycle) stalled 20 3 (samples cycle references) := by
  obtain ⟨before, valid, invalid, controller, adjustment, next, rfl, hvalid, hinvalid, hrun, hupdate,
    hsynchronized⟩ := h
  obtain ⟨tracked, hrun', htracks⟩ := exists_run_tracks hcycle before
  cases hrun.symm.trans hrun'
  have heq := update_eq hcycle htracks.toBounded ⟨hvalid, valid.toInt_lt⟩
  cases heq.symm.trans hupdate
  rw [List.append_cons before, samples_append_invalid cycle _ hinvalid]
  exact (htracks.observe hcycle hvalid).synchronized.mp hsynchronized

/-- A run of stalled samples is a run of updates that did not advance. -/
theorem streak_stalled_le (cycle : ℤ) (references : List Int64) :
    streak stalled (samples cycle references) ≤
      streak notAdvanced (record cycle none references) := by
  induction references using List.reverseRecOn with
  | nil => exact Nat.zero_le _
  | append_singleton references reference ih =>
    by_cases hvalid : 0 < reference.toInt
    · rw [samples_concat_valid _ _ hvalid, record_concat, if_pos hvalid, streak_concat,
        streak_concat]
      change _ ≤ if stalled _ = true then _ else 0
      split_ifs
      · exact Nat.add_le_add_right ih 1
      · exact le_rfl
    · rw [samples_concat_invalid _ _ hvalid, record_concat, if_neg hvalid, streak_concat]
      exact ih.trans (Nat.le_succ _)

/-- The update is the third in a row whose reference did not advance, or the tenth valid one
in a row that is out of phase. -/
def FaultJustified (cycle : ℤ) (references : List Int64) (reference : Int64) : Prop :=
  3 ≤ streak notAdvanced (record cycle none (references ++ [reference])) ∨
    0 < reference.toInt ∧ 10 ≤ streak (far cycle) (samples cycle (references ++ [reference]))

/-- A valid update of a synchronized clock reports a fault for a reason. -/
theorem justified_of_valid (hcycle : CycleInRange cycle) (h : Tracks cycle references controller)
    (hsynchronized : controller.synchronized = true) (hvalid : 0 < reference.toInt)
    (hfault : (controller.observe reference.toInt
      (take cycle controller.latest reference.toInt)).1.fault = true) :
    FaultJustified cycle references reference := by
  have hnext := h.observe hcycle hvalid
  have hthree : 3 ≤ (controller.observe reference.toInt
      (take cycle controller.latest reference.toInt)).2.invalidAdvanceCycles →
      FaultJustified cycle references reference := by
    rw [hnext.invalidAdvanceCycles, le_saturated_iff (by decide)]
    exact fun hstalled => .inl (hstalled.trans (streak_stalled_le cycle _))
  have hten := hnext.badCyclesAfterLock
  generalize take cycle controller.latest reference.toInt = sample at hfault hthree hten
  rw [observe_fault, Bool.or_eq_true, Bool.or_eq_true, Bool.and_eq_true, Bool.not_eq_true',
    observe_synchronized, hsynchronized, Bool.true_and, Bool.or_eq_false_iff,
    decide_eq_true_eq, decide_eq_true_eq, decide_eq_false_iff_not] at hfault
  obtain (hstalled | hfar) | ⟨⟨-, hlost⟩, -⟩ := hfault
  · exact hthree hstalled
  · exact .inr ⟨hvalid, hfar.trans hten⟩
  · -- the lock is only lost with the third standstill
    exact hthree (Nat.not_lt.mp (of_decide_eq_false hlost))

/-- **When a synchronized clock reports a fault only for a reason**: always on a valid
reference; an invalid one is a fault as soon as five hundred updates have been made, even if
nothing else went wrong. -/
theorem fault_justified_iff (hcycle : CycleInRange cycle) (references : List Int64)
    (hlast : SynchronizedLast cycle references) (reference : Int64) :
    ∃ controller adjustment next, run step (new cycle) references = some controller ∧
      controller.update reference.toInt = some (adjustment, next) ∧
      ((adjustment.fault = true → FaultJustified cycle references reference) ↔
        0 < reference.toInt ∨ references.length + 1 < 500 ∨
          3 ≤ streak notAdvanced (record cycle none (references ++ [reference]))) := by
  obtain ⟨controller, hrun, htracks⟩ := exists_run_tracks hcycle references
  have hsynchronized := htracks.synchronized.mpr (latched_of_synchronizedLast hcycle hlast)
  by_cases hvalid : 0 < reference.toInt
  · refine ⟨controller, _, _, hrun,
      update_eq hcycle htracks.toBounded ⟨hvalid, reference.toInt_lt⟩, ?_⟩
    exact iff_of_true (justified_of_valid hcycle htracks hsynchronized hvalid) (.inl hvalid)
  · refine ⟨controller, _, _, hrun, update_invalid controller (Int.not_lt.mp hvalid), ?_⟩
    rw [htracks.observations, increment_saturated, decide_eq_true_eq,
      le_saturated_iff (by decide : 500 ≤ 500)]
    unfold FaultJustified
    omega

/-- The five hundredth update has no reference: the clock has been in step for all the cycles
before it. -/
theorem fault_of_one_invalid :
    SynchronizedLast 5000000 (steadyReferences 499) ∧
      ((run step (new 5000000) (steadyReferences 499)).bind (·.update 0)).map (·.1.fault) =
        some true ∧
      ¬FaultJustified 5000000 (steadyReferences 499) 0 := by
  have hlast : (run step (new 5000000) (steadyReferences 498)).bind
      (fun controller => (controller.update (2495000000 : Int64).toInt).map (·.1.synchronized)) =
        some true := by decide +kernel
  refine ⟨?_, by decide +kernel, ?_⟩
  · obtain ⟨controller, hrun, hupdate⟩ := Option.bind_eq_some_iff.mp hlast
    obtain ⟨⟨adjustment, next⟩, hupdate, hsynchronized⟩ := Option.map_eq_some_iff.mp hupdate
    exact ⟨steadyReferences 498, 2495000000, [], controller, adjustment, next, by decide +kernel,
      by decide, nofun, hrun, hupdate, hsynchronized⟩
  · rintro (hthree | ⟨hvalid, -⟩)
    · revert hthree
      decide +kernel
    · revert hvalid
      decide

/-- At the hundredth update the same reference is not a fault. -/
theorem fault_justified_iff_early :
    SynchronizedLast 5000000 (steadyReferences 99) ∧
    ∃ controller adjustment next,
      run step (new 5000000) (steadyReferences 99) = some controller ∧
      controller.update (0 : Int64).toInt = some (adjustment, next) ∧
      ((adjustment.fault = true → FaultJustified 5000000 (steadyReferences 99) 0) ↔
        0 < (0 : Int64).toInt ∨ (steadyReferences 99).length + 1 < 500 ∨
          3 ≤ streak notAdvanced (record 5000000 none (steadyReferences 99 ++ [0]))) := by
  have hsynchronized : (run step (new 5000000) (steadyReferences 98)).bind
      (fun controller => (controller.update (495000000 : Int64).toInt).map (·.1.synchronized)) =
        some true := by decide +kernel
  have hlast : SynchronizedLast 5000000 (steadyReferences 99) := by
    obtain ⟨controller, hrun, hupdate⟩ := Option.bind_eq_some_iff.mp hsynchronized
    obtain ⟨⟨adjustment, next⟩, hupdate, hsynchronized⟩ := Option.map_eq_some_iff.mp hupdate
    exact ⟨steadyReferences 98, 495000000, [], controller, adjustment, next, by decide +kernel,
      by decide, nofun, hrun, hupdate, hsynchronized⟩
  exact ⟨hlast, fault_justified_iff ⟨by decide, by decide⟩ (steadyReferences 99) hlast 0⟩

end DistributedClockController

end EcSystemCore
