import EcSystemCore.Bus.Worker

/-!
# What a step of the worker can do to the shared members

`StepFrame` says once what every step of the worker does to the members that other
threads read or write, and `step_frame` that every step obeys it; the invariants
of the systems built on the worker follow from it.  The first of them is
`Ordered`, the order in which epochs travel through a bus: from `safetyEpoch_` to
`observedSafetyEpoch_` to `safetyEpochApplied_`, and from `safetyEpoch_` to
`faultedEpoch_` to `globalFaultedEpoch_`.
-/

namespace EcSystemCore

namespace Bus

variable {config : BusConfig} {latch : UInt64} {env : Env} {bus : Bus} {o : Outcome}

/-- What every step of the worker obeys: the daemon thread's members keep their
values, `outputsPermitted_` is only ever withdrawn, and each epoch is written at
one place of the program. -/
structure StepFrame (latch : UInt64) (bus : Bus) (o : Outcome) : Prop where
  safetyEpoch : o.bus.safetyEpoch = bus.safetyEpoch
  values : o.bus.outputCommands.values = bus.outputCommands.values
  permitted : o.bus.outputsPermitted = true → bus.outputsPermitted = true
  observed : o.bus.observedSafetyEpoch = bus.observedSafetyEpoch ∨
    o.bus.observedSafetyEpoch = bus.safetyEpoch ∧
      (bus.pc = .cycle .loadEpoch ∨ bus.pc = .cycle .loadTransmitEpoch)
  applied : o.bus.safetyEpochApplied = bus.safetyEpochApplied ∨
    o.bus.safetyEpochApplied = bus.observedSafetyEpoch ∧ bus.pc = .cycle .barrierPublish
  faulted : o.bus.faultedEpoch = bus.faultedEpoch ∨
    o.bus.faultedEpoch = bus.locals.faultEpoch ∧ ∃ next, bus.pc = .fault .storeEpoch next
  latch : o.latch = latch ∨
    o.latch = bus.locals.faultEpoch ∧ ∃ next, bus.pc = .fault .storeGlobal next
  /-- `RaiseFault` has just loaded its epoch. -/
  loaded : ∀ next, o.bus.pc = .fault .storeEpoch next →
    o.bus.locals.faultEpoch = bus.safetyEpoch ∧ bus.pc = .fault .loadEpoch next
  /-- `RaiseFault` has just stored its epoch. -/
  stored : ∀ next, o.bus.pc = .fault .storeGlobal next →
    o.bus.locals.faultEpoch = o.bus.faultedEpoch ∧ bus.pc = .fault .storeEpoch next

/-- A step that writes no epoch and does not move inside `RaiseFault`'s stores. -/
theorem StepFrame.quiet (safetyEpoch : o.bus.safetyEpoch = bus.safetyEpoch)
    (values : o.bus.outputCommands.values = bus.outputCommands.values)
    (permitted : o.bus.outputsPermitted = true → bus.outputsPermitted = true)
    (observed : o.bus.observedSafetyEpoch = bus.observedSafetyEpoch)
    (applied : o.bus.safetyEpochApplied = bus.safetyEpochApplied)
    (faulted : o.bus.faultedEpoch = bus.faultedEpoch) (latch_eq : o.latch = latch)
    (pc : ∀ next, o.bus.pc ≠ .fault .storeEpoch next ∧ o.bus.pc ≠ .fault .storeGlobal next) :
    StepFrame latch bus o where
  safetyEpoch := safetyEpoch
  values := values
  permitted := permitted
  observed := .inl observed
  applied := .inl applied
  faulted := .inl faulted
  latch := .inl latch_eq
  loaded := fun next h => absurd h (pc next).1
  stored := fun next h => absurd h (pc next).2

/-- A step that observes the current epoch. -/
theorem StepFrame.observe (safetyEpoch : o.bus.safetyEpoch = bus.safetyEpoch)
    (values : o.bus.outputCommands.values = bus.outputCommands.values)
    (permitted : o.bus.outputsPermitted = true → bus.outputsPermitted = true)
    (observed : o.bus.observedSafetyEpoch = bus.safetyEpoch ∧
      (bus.pc = .cycle .loadEpoch ∨ bus.pc = .cycle .loadTransmitEpoch))
    (applied : o.bus.safetyEpochApplied = bus.safetyEpochApplied)
    (faulted : o.bus.faultedEpoch = bus.faultedEpoch) (latch_eq : o.latch = latch)
    (pc : ∃ pc, o.bus.pc = .cycle pc) : StepFrame latch bus o := by
  obtain ⟨pc, hpc⟩ := pc
  exact ⟨safetyEpoch, values, permitted, .inr observed, .inl applied, .inl faulted,
    .inl latch_eq, by simp [hpc], by simp [hpc]⟩

theorem applyCommand_frame (config : BusConfig) (bus : Bus) :
    ∃ ioMap last, bus.applyCommand config =
      { bus with ioMap := ioMap, lastOutputCommandUs := last } := by
  unfold applyCommand
  split
  · exact ⟨_, _, rfl⟩
  · exact ⟨_, _, rfl⟩

theorem stepRun_frame (pc : RunPc) : StepFrame latch bus (bus.stepRun latch pc) := by
  cases pc with
  | checkLink =>
    simp only [stepRun]
    split
    · split <;> exact .quiet rfl rfl id rfl rfl rfl rfl (by simp [raiseFault])
    · exact .quiet rfl rfl id rfl rfl rfl rfl (by simp)
  | _ => exact .quiet rfl rfl id rfl rfl rfl rfl (by simp [stepRun])

theorem afterFault_ne (next next' : AfterFault) (pc : FaultPc) :
    afterFault next ≠ .fault pc next' := by
  cases next <;> simp [afterFault]

theorem stepFault_frame {next : AfterFault} {pc : FaultPc} (hpc : bus.pc = .fault pc next) :
    StepFrame latch bus (bus.stepFault latch next pc) := by
  cases pc with
  | loadEpoch =>
    refine ⟨rfl, rfl, id, .inl rfl, .inl rfl, .inl rfl, .inl rfl, fun next' h => ?_,
      by simp [stepFault]⟩
    obtain rfl : next = next' := by simpa [stepFault] using h
    exact ⟨rfl, hpc⟩
  | storeEpoch =>
    refine ⟨rfl, rfl, id, .inl rfl, .inl rfl, .inr ⟨rfl, next, hpc⟩, .inl rfl,
      by simp [stepFault], fun next' h => ?_⟩
    obtain rfl : next = next' := by simpa [stepFault] using h
    exact ⟨rfl, hpc⟩
  | storeGlobal =>
    exact ⟨rfl, rfl, id, .inl rfl, .inl rfl, .inl rfl, .inr ⟨rfl, next, hpc⟩,
      by simp [stepFault], by simp [stepFault]⟩
  | revoke =>
    exact .quiet rfl rfl (by simp [stepFault]) rfl rfl rfl rfl (by simp [stepFault])
  | storeReason => exact .quiet rfl rfl id rfl rfl rfl rfl (by simp [stepFault])
  | count =>
    exact .quiet rfl rfl id rfl rfl rfl rfl
      fun _ => ⟨afterFault_ne _ _ _, afterFault_ne _ _ _⟩

theorem afterClose_ne (next : AfterClose) (next' : AfterFault) (pc : FaultPc) :
    afterClose next ≠ .fault pc next' := by
  cases next <;> simp [afterClose]

theorem stepClose_frame (next : AfterClose) (pc : ClosePc) :
    StepFrame latch bus (bus.stepClose latch next pc) := by
  have hafter := fun next' => And.intro (afterClose_ne next next' .storeEpoch)
    (afterClose_ne next next' .storeGlobal)
  cases pc with
  | revoke =>
    exact .quiet rfl rfl (by simp [stepClose]) rfl rfl rfl rfl (by simp [stepClose])
  | storeTopology =>
    simp only [stepClose]
    split
    · exact .quiet rfl rfl id rfl rfl rfl rfl (by simp)
    · exact .quiet rfl rfl id rfl rfl rfl rfl hafter
  | storeClock => exact .quiet rfl rfl id rfl rfl rfl rfl hafter

theorem stepInit_frame (pc : InitPc) : StepFrame latch bus (bus.stepInit config latch env pc) := by
  cases pc with
  | configure =>
    simp only [stepInit]
    split <;> exact .quiet rfl rfl id rfl rfl rfl rfl (by simp)
  | checkGroup =>
    refine .quiet rfl rfl id rfl rfl rfl rfl fun next => ?_
    simp only [stepInit]
    split
    · simp
    · split <;> simp
  | reachOperational =>
    refine .quiet rfl rfl id rfl rfl rfl rfl fun next => ?_
    simp only [stepInit]
    split <;> simp
  | _ => exact .quiet rfl rfl id rfl rfl rfl rfl (by simp [stepInit])

theorem stepCycle_frame {pc : CyclePc} (hpc : bus.pc = .cycle pc) :
    StepFrame latch bus (bus.stepCycle config latch env pc) := by
  cases pc with
  | loadEpoch =>
    simp only [stepCycle]
    split
    · exact .observe rfl rfl id ⟨rfl, .inl hpc⟩ rfl rfl rfl ⟨_, rfl⟩
    · exact .quiet rfl rfl id rfl rfl rfl rfl (by simp)
  | loadTransmitEpoch =>
    simp only [stepCycle]
    split
    · exact .observe rfl rfl id ⟨rfl, .inr hpc⟩ rfl rfl rfl ⟨_, rfl⟩
    · exact .quiet rfl rfl id rfl rfl rfl rfl (by simp)
  | barrierPublish =>
    exact ⟨rfl, rfl, id, .inl rfl, .inr ⟨rfl, hpc⟩, .inl rfl, .inl rfl,
      by simp [stepCycle], by simp [stepCycle]⟩
  | popStoreRead =>
    simp only [stepCycle]
    generalize hpopped : ({ bus with
      pc := _
      outputCommands := _ } : Bus) = popped
    obtain ⟨ioMap, last, happly⟩ := applyCommand_frame config popped
    rw [happly, ← hpopped]
    exact .quiet rfl rfl id rfl rfl rfl rfl (by simp)
  | faultRevoke =>
    exact .quiet rfl rfl (by simp [stepCycle]) rfl rfl rfl rfl (by simp [stepCycle])
  | start | sleep | applyReadClock | freshLoadPermitted | trackClock | endCycle
  | exitCheckLink =>
    simp only [stepCycle]
    split <;> exact .quiet rfl rfl id rfl rfl rfl rfl (by simp [raiseFault, zeroOutputs])
  | _ => exact .quiet rfl rfl id rfl rfl rfl rfl (by simp [stepCycle, raiseFault])

/-- **The frame of a step.** -/
theorem step_frame (h : bus.step config latch env = some o) : StepFrame latch bus o := by
  unfold step at h
  split at h <;> cases h
  · exact stepRun_frame _
  · exact stepFault_frame ‹_›
  · exact stepClose_frame _ _
  · exact stepInit_frame _
  · exact stepCycle_frame ‹_›

/-! ### Zero outputs -/

/-- All outputs of the bus are zero. -/
def AllZero (bus : Bus) : Prop := ∀ device ∈ bus.topology.devices, OutputsZero bus.ioMap device

/-- `ZeroOutputs` on an open context zeroes every SubDevice. -/
theorem outputsZero_of_zeroOutputs (hopen : bus.contextOpen = true)
    {device : SubDevice} (hdevice : device ∈ bus.topology.devices) :
    OutputsZero bus.zeroOutputs.ioMap device := by
  simpa [Bus.zeroOutputs, hopen] using outputsZero_zeroOutputs hdevice

/-- `if (condition) { ZeroOutputs(); … }` keeps the outputs or zeroes them. -/
theorem silenceIf_cases (bus : Bus) (hopen : bus.contextOpen = true) (condition : Bool) :
    (condition = false ∧ (bus.silenceIf condition).ioMap = bus.ioMap) ∨
      ∀ device ∈ bus.topology.devices, OutputsZero (bus.silenceIf condition).ioMap device := by
  cases condition with
  | false => exact .inl ⟨rfl, rfl⟩
  | true => exact .inr fun device hdevice => outputsZero_of_zeroOutputs hopen hdevice

/-! ### The order of epochs -/

/-- The epochs of a bus are ordered along the way they travel. -/
structure Ordered (latch : UInt64) (bus : Bus) : Prop where
  applied_le : bus.safetyEpochApplied ≤ bus.observedSafetyEpoch
  observed_le : bus.observedSafetyEpoch ≤ bus.safetyEpoch
  faulted_le : bus.faultedEpoch ≤ bus.safetyEpoch
  latch_le : latch ≤ bus.faultedEpoch
  /-- Between its load and its first store, `RaiseFault` holds a newer epoch. -/
  loaded : ∀ next, bus.pc = .fault .storeEpoch next →
    bus.faultedEpoch ≤ bus.locals.faultEpoch ∧ bus.locals.faultEpoch ≤ bus.safetyEpoch
  /-- Between its two stores, `RaiseFault` holds the epoch it has stored. -/
  stored : ∀ next, bus.pc = .fault .storeGlobal next →
    bus.locals.faultEpoch = bus.faultedEpoch

namespace Ordered

variable (h : Ordered latch bus) (hstep : bus.step config latch env = some o)
include h hstep

/-- Epochs only move forward. -/
theorem le_of_step : bus.observedSafetyEpoch ≤ o.bus.observedSafetyEpoch ∧
    bus.faultedEpoch ≤ o.bus.faultedEpoch := by
  have hframe := step_frame hstep
  constructor
  · rcases hframe.observed with heq | ⟨heq, -⟩
    · exact heq ▸ UInt64.le_refl _
    · exact heq ▸ h.observed_le
  · rcases hframe.faulted with heq | ⟨heq, next, hpc⟩
    · exact heq ▸ UInt64.le_refl _
    · exact heq ▸ (h.loaded next hpc).1

/-- **The order of epochs is kept.** -/
theorem step : Ordered o.latch o.bus := by
  have hframe := step_frame hstep
  obtain ⟨hobserved, hfaulted⟩ := h.le_of_step hstep
  refine ⟨?_, ?_, ?_, ?_, fun next hpc => ?_, fun next hpc => ?_⟩
  · rcases hframe.applied with heq | ⟨heq, -⟩
    · exact heq ▸ UInt64.le_trans h.applied_le hobserved
    · exact heq ▸ hobserved
  · rw [hframe.safetyEpoch]
    rcases hframe.observed with heq | ⟨heq, -⟩
    · exact heq ▸ h.observed_le
    · exact heq ▸ UInt64.le_refl _
  · rw [hframe.safetyEpoch]
    rcases hframe.faulted with heq | ⟨heq, next, hpc⟩
    · exact heq ▸ h.faulted_le
    · exact heq ▸ (h.loaded next hpc).2
  · rcases hframe.latch with heq | ⟨heq, next, hpc⟩
    · exact heq ▸ UInt64.le_trans h.latch_le hfaulted
    · rw [heq, h.stored next hpc]
      exact hfaulted
  · obtain ⟨hloaded, hbefore⟩ := hframe.loaded next hpc
    have heq : o.bus.faultedEpoch = bus.faultedEpoch :=
      hframe.faulted.resolve_right (by simp [hbefore])
    rw [hloaded, heq, hframe.safetyEpoch]
    exact ⟨h.faulted_le, UInt64.le_refl _⟩
  · exact (hframe.stored next hpc).1

end Ordered

end Bus

end EcSystemCore
