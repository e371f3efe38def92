import EcSystemCore.Bus.WorkerFacts

/-!
# The worker's barrier, latch check and fault

What holds of a worker whatever the daemon thread and the other workers do: the
frame of a cycle that switched epochs carries only zeros (`ZeroAssertion`), where
`RaiseFault` has got to once it has loaded or published its epoch, and which points
of the program an onlooker can see (`step_event`).
-/

namespace EcSystemCore

/-- `RaiseFault` has loaded its epoch. -/
def Pc.pastLoad : Pc → Bool
  | .fault .loadEpoch _ => false
  | .fault _ _ => true
  | _ => false

/-- `RaiseFault` has published its epoch in `globalFaultedEpoch_`. -/
def Pc.pastStore : Pc → Bool
  | .fault .revoke _ | .fault .storeReason _ | .fault .count _ => true
  | _ => false

namespace Bus

variable {config : BusConfig} {latch : UInt64} {env : Env} {bus : Bus} {o : Outcome}

/-! ### Zero frames -/

/-- What the cyclic loop knows of its frame: up to the last command there is no
barrier, and from then on the barrier's frame is zero. -/
def CycleZero (bus : Bus) : CyclePc → Prop
  | .applyLoadEpoch | .applyLoadPermitted | .applyReadClock | .popLoadRead | .popLoadWrite
  | .popCopy | .popStoreRead | .freshReadClock | .freshLoadPermitted | .checkPermitted =>
    bus.locals.epochBarrier = false
  | .loadTransmitEpoch | .recheckPermitted | .checkLatch | .send | .receive =>
    bus.locals.epochBarrier = true → bus.AllZero
  | .faultSend => bus.AllZero
  | _ => True

/-- The cyclic loop runs on an open context, and its barrier frames are zero. -/
def ZeroAssertion (bus : Bus) : Prop :=
  match bus.pc with
  | .cycle .storeFault => True
  | .cycle pc => bus.contextOpen = true ∧ CycleZero bus pc
  | .init .checkGroup | .init .storeClock | .init .storeSafe | .init .reachOperational
  | .init .storeOperational => bus.contextOpen = true
  | _ => True

theorem zeroAssertion_cycle {pc : CyclePc} (hpc : bus.pc = .cycle pc)
    (hopen : bus.contextOpen = true) (h : CycleZero bus pc) : bus.ZeroAssertion := by
  unfold ZeroAssertion
  rw [hpc]
  split
  · trivial
  · rename_i heq
    cases heq
    exact ⟨hopen, h⟩
  all_goals first | exact hopen | trivial

/-- Once zeroed, outputs stay zero under `if (condition) { ZeroOutputs(); … }`. -/
theorem AllZero.silenceIf (h : bus.AllZero) (hopen : bus.contextOpen = true)
    (condition : Bool) : (bus.silenceIf condition).AllZero := by
  rcases silenceIf_cases bus hopen condition with ⟨-, heq⟩ | hzero
  · intro device hdevice
    rw [heq]
    exact h device hdevice
  · exact hzero

theorem zeroAssertion_stepRun (pc : RunPc) : (bus.stepRun latch pc).bus.ZeroAssertion := by
  cases pc with
  | checkLink =>
    simp only [stepRun]
    split
    · split <;> trivial
    · trivial
  | _ => trivial

theorem zeroAssertion_stepFault (next : AfterFault) (pc : FaultPc) :
    (bus.stepFault latch next pc).bus.ZeroAssertion := by
  cases pc with
  | count => cases next <;> trivial
  | _ => trivial

theorem zeroAssertion_stepClose (next : AfterClose) (pc : ClosePc) :
    (bus.stepClose latch next pc).bus.ZeroAssertion := by
  cases pc with
  | revoke => trivial
  | storeTopology =>
    simp only [stepClose]
    split
    · trivial
    · cases next <;> trivial
  | storeClock => cases next <;> trivial

theorem zeroAssertion_stepInit {pc : InitPc} (hpc : bus.pc = .init pc)
    (h : bus.ZeroAssertion) : (bus.stepInit config latch env pc).bus.ZeroAssertion := by
  unfold ZeroAssertion at h
  rw [hpc] at h
  cases pc with
  | storeInitializing | storeFault => trivial
  | configure =>
    simp only [stepInit]
    split
    · trivial
    · exact opened_of_acceptTopology ‹_›
  | checkGroup =>
    simp only [stepInit]
    split
    · trivial
    · split <;> exact h
  | storeClock | storeSafe => exact h
  | reachOperational =>
    simp only [stepInit]
    split
    · exact h
    · trivial
  | storeOperational => exact ⟨h, trivial⟩

theorem zeroAssertion_stepCycle {pc : CyclePc} (hpc : bus.pc = .cycle pc)
    (h : bus.ZeroAssertion) : (bus.stepCycle config latch env pc).bus.ZeroAssertion := by
  unfold ZeroAssertion at h
  rw [hpc] at h
  cases pc with
  | loadEpoch =>
    simp only [stepCycle]
    split
    · exact ⟨h.1, fun _ device hdevice => outputsZero_of_zeroOutputs h.1 hdevice⟩
    · exact ⟨h.1, rfl⟩
  | checkPermitted => exact ⟨h.1, fun hbarrier => absurd (h.2.symm.trans hbarrier) (by simp)⟩
  | loadTransmitEpoch =>
    simp only [stepCycle]
    split
    · exact ⟨h.1, fun _ device hdevice => outputsZero_of_zeroOutputs h.1 hdevice⟩
    · exact h
  | recheckPermitted => exact ⟨h.1, fun hbarrier => (h.2 hbarrier).silenceIf h.1 _⟩
  | checkLatch => exact ⟨h.1, fun hbarrier => (h.2 hbarrier).silenceIf h.1 _⟩
  | popStoreRead =>
    simp only [stepCycle]
    generalize hpopped : ({ bus with
      pc := _
      outputCommands := _ } : Bus) = popped
    obtain ⟨ioMap, last, happly⟩ := applyCommand_frame config popped
    rw [happly, ← hpopped]
    exact h
  | faultRevoke => exact ⟨h.1, fun device hdevice => outputsZero_of_zeroOutputs h.1 hdevice⟩
  | start | sleep | endCycle | exitCheckLink =>
    simp only [stepCycle]
    split
    · first | exact ⟨h.1, trivial⟩ | trivial
    · trivial
  | trackClock =>
    simp only [stepCycle]
    split
    · exact zeroAssertion_cycle rfl h.1
        (iteInduction (motive := CycleZero _) (fun _ => trivial) fun _ => trivial)
    · exact ⟨h.1, trivial⟩
  | checkRunning | checkLink | checkState | receive | barrierLoadEpoch | countMisses =>
    exact zeroAssertion_cycle rfl h.1
      (iteInduction (motive := CycleZero _) (fun _ => trivial) fun _ => trivial)
  | popLoadWrite =>
    exact zeroAssertion_cycle rfl h.1
      (iteInduction (motive := CycleZero _) (fun _ => h.2) fun _ => h.2)
  | applyReadClock | freshLoadPermitted =>
    simp only [stepCycle]
    split <;> exact h
  | barrierPublish => exact ⟨h.1, trivial⟩
  | faultSend | storeFault => trivial
  | _ => exact h

/-- **Barrier frames are zero.** -/
theorem ZeroAssertion.step (h : bus.ZeroAssertion)
    (hstep : bus.step config latch env = some o) : o.bus.ZeroAssertion := by
  unfold Bus.step at hstep
  split at hstep <;> cases hstep
  · exact zeroAssertion_stepRun _
  · exact zeroAssertion_stepFault _ _
  · exact zeroAssertion_stepClose _ _
  · exact zeroAssertion_stepInit ‹_› h
  · exact zeroAssertion_stepCycle ‹_› h

/-! ### What an onlooker sees -/

/-- The point of the program an event comes from. -/
inductive Shows (bus : Bus) : BusEvent → Prop
  | faultCompleted {next : AfterFault} (pc : bus.pc = .fault .count next) :
      Shows bus (.faultCompleted bus.locals.faultEpoch)
  | latchChecked (pc : bus.pc = .cycle .checkLatch) :
      Shows bus (.latchChecked bus.observedSafetyEpoch)
  | exchanged {zero full : Bool} (pc : bus.pc = .cycle .receive) :
      Shows bus (.exchanged bus.observedSafetyEpoch zero full)

theorem stepRun_event (pc : RunPc) : (bus.stepRun latch pc).event = none := by
  cases pc with
  | checkLink =>
    simp only [stepRun]
    split
    · split <;> rfl
    · rfl
  | _ => rfl

theorem stepClose_event (next : AfterClose) (pc : ClosePc) :
    (bus.stepClose latch next pc).event = none := by
  cases pc with
  | storeTopology =>
    simp only [stepClose]
    split <;> rfl
  | _ => rfl

theorem stepInit_event (pc : InitPc) : (bus.stepInit config latch env pc).event = none := by
  cases pc with
  | configure =>
    simp only [stepInit]
    split <;> rfl
  | _ => rfl

theorem stepCycle_event {pc : CyclePc} {event : BusEvent} (hpc : bus.pc = .cycle pc)
    (hevent : (bus.stepCycle config latch env pc).event = some event) : bus.Shows event := by
  have hnone : (bus.stepCycle config latch env pc).event = none → bus.Shows event :=
    fun hnone => by rw [hnone] at hevent; cases hevent
  cases pc with
  | checkLatch =>
    cases hevent
    exact .latchChecked hpc
  | receive =>
    cases hevent
    exact .exchanged hpc
  | start | sleep | loadEpoch | applyReadClock | freshLoadPermitted | loadTransmitEpoch
  | trackClock | endCycle | exitCheckLink =>
    refine hnone ?_
    simp only [stepCycle]
    split <;> rfl
  | _ => exact hnone rfl

/-- **The events of a step.** -/
theorem step_event {event : BusEvent} (hstep : bus.step config latch env = some o)
    (hevent : o.event = some event) : bus.Shows event := by
  unfold Bus.step at hstep
  split at hstep <;> cases hstep
  · rw [stepRun_event] at hevent
    cases hevent
  · rename_i pc next hpc
    cases pc <;> cases hevent
    exact .faultCompleted hpc
  · rw [stepClose_event] at hevent
    cases hevent
  · rw [stepInit_event] at hevent
    cases hevent
  · exact stepCycle_event ‹_› hevent

/-- The way into the transmission and the publication of the barrier. -/
inductive Follows : CyclePc → CyclePc → Prop
  | send : Follows .checkLatch .send
  | barrierLoadEpoch : Follows .receive .barrierLoadEpoch
  | barrierPublish : Follows .barrierLoadEpoch .barrierPublish

theorem cycle_ite {c : Prop} [Decidable c] {a b target : CyclePc}
    (h : Pc.cycle (if c then a else b) = .cycle target) : target = a ∨ target = b := by
  split at h <;> cases h
  · exact .inl rfl
  · exact .inr rfl

theorem stepCycle_follows {pc target : CyclePc}
    (htarget : target = .send ∨ target = .barrierLoadEpoch ∨ target = .barrierPublish)
    (hpc : (bus.stepCycle config latch env pc).bus.pc = .cycle target) : Follows pc target := by
  cases pc with
  | popStoreRead =>
    simp only [stepCycle] at hpc
    generalize hpopped : ({ bus with
      pc := _
      outputCommands := _ } : Bus) = popped at hpc
    obtain ⟨ioMap, last, happly⟩ := applyCommand_frame config popped
    rw [happly, ← hpopped] at hpc
    cases hpc
    simp at htarget
  | checkLatch =>
    cases hpc
    exact .send
  | receive =>
    rcases cycle_ite hpc with rfl | rfl
    · exact .barrierLoadEpoch
    · simp at htarget
  | barrierLoadEpoch =>
    rcases cycle_ite hpc with rfl | rfl
    · exact .barrierPublish
    · simp at htarget
  | start | sleep | loadEpoch | applyReadClock | freshLoadPermitted | loadTransmitEpoch
  | endCycle | exitCheckLink =>
    simp only [stepCycle] at hpc
    split at hpc <;> cases hpc <;> simp at htarget
  | trackClock =>
    simp only [stepCycle] at hpc
    split at hpc
    · rcases cycle_ite hpc with rfl | rfl <;> simp at htarget
    · cases hpc
      simp at htarget
  | checkRunning | checkLink | checkState | popLoadWrite | countMisses =>
    rcases cycle_ite hpc with rfl | rfl <;> simp at htarget
  | faultSend | storeFault => cases hpc
  | _ =>
    cases hpc
    simp at htarget

theorem afterFault_cycle {next : AfterFault} {target : CyclePc}
    (h : afterFault next = .cycle target) : target = .storeFault := by
  cases next <;> cases h
  rfl

theorem afterClose_ne_cycle (next : AfterClose) (target : CyclePc) :
    afterClose next ≠ .cycle target := by
  cases next <;> simp [afterClose]

/-- **The way into the transmission and the publication of the barrier.** -/
theorem step_follows {target : CyclePc} (hstep : bus.step config latch env = some o)
    (htarget : target = .send ∨ target = .barrierLoadEpoch ∨ target = .barrierPublish)
    (hpc : o.bus.pc = .cycle target) :
    ∃ pc, bus.pc = .cycle pc ∧ Follows pc target ∧ o = bus.stepCycle config latch env pc := by
  unfold Bus.step at hstep
  split at hstep <;> cases hstep
  · rename_i pc _
    cases pc with
    | checkLink =>
      simp only [stepRun] at hpc
      split at hpc
      · split at hpc <;> cases hpc
      · cases hpc
    | _ => cases hpc
  · rename_i pc next _
    cases pc with
    | count => simp [afterFault_cycle hpc] at htarget
    | _ => cases hpc
  · rename_i pc next _
    cases pc with
    | revoke => cases hpc
    | storeTopology =>
      simp only [stepClose] at hpc
      split at hpc
      · cases hpc
      · exact absurd hpc (afterClose_ne_cycle _ _)
    | storeClock => exact absurd hpc (afterClose_ne_cycle _ _)
  · rename_i pc _
    cases pc with
    | configure =>
      simp only [stepInit] at hpc
      split at hpc <;> cases hpc
    | checkGroup | reachOperational =>
      simp only [stepInit] at hpc
      repeat' split at hpc
      all_goals cases hpc
    | storeOperational =>
      cases hpc
      simp at htarget
    | _ => cases hpc
  · exact ⟨_, ‹_›, stepCycle_follows htarget hpc, rfl⟩

theorem ZeroAssertion.cycle {pc : CyclePc} (h : bus.ZeroAssertion) (hpc : bus.pc = .cycle pc)
    (hne : pc ≠ .storeFault) : bus.contextOpen = true ∧ CycleZero bus pc := by
  unfold ZeroAssertion at h
  rw [hpc] at h
  cases pc <;> first | exact h | exact absurd rfl hne

/-- The frame whose exchange lets the barrier be published is zero and complete. -/
theorem ZeroAssertion.exchanged (h : bus.ZeroAssertion)
    (hstep : bus.step config latch env = some o) (hpc : o.bus.pc = .cycle .barrierLoadEpoch) :
    o.event = some (.exchanged o.bus.observedSafetyEpoch true true) := by
  obtain ⟨pc, hbefore, hfollows, rfl⟩ := step_follows hstep (by simp) hpc
  cases hfollows
  simp only [stepCycle, Pc.cycle.injEq, ite_eq_left_iff, reduceCtorEq, imp_false, not_not,
    Bool.and_eq_true] at hpc
  have hzero := allOutputsZero_eq_true.mpr ((h.cycle hbefore (by simp)).2 hpc.1)
  simp only [stepCycle, hzero, Option.some.injEq, BusEvent.exchanged.injEq, true_and,
    Bool.and_eq_true]
  exact hpc.2

/-! ### The progress of `RaiseFault` -/

/-- A worker past the load of `RaiseFault` has just loaded its epoch or was past it
already; likewise for the store in `globalFaultedEpoch_`. -/
structure FaultFrame (latch : UInt64) (bus : Bus) (o : Outcome) : Prop where
  loaded : o.bus.pc.pastLoad = true → o.bus.locals.faultEpoch = bus.safetyEpoch ∨
    bus.pc.pastLoad = true ∧ o.bus.locals.faultEpoch = bus.locals.faultEpoch
  stored : o.bus.pc.pastStore = true → o.latch = o.bus.locals.faultEpoch ∨
    bus.pc.pastStore = true ∧ o.bus.locals.faultEpoch = bus.locals.faultEpoch

theorem FaultFrame.outside (h : o.bus.pc.pastLoad = false) : FaultFrame latch bus o := by
  have hstore : o.bus.pc.pastStore = false := by
    revert h
    generalize o.bus.pc = pc
    intro h
    unfold Pc.pastStore
    unfold Pc.pastLoad at h
    split <;> simp_all
  exact ⟨by simp [h], by simp [hstore]⟩

theorem stepFault_faultFrame {next : AfterFault} {pc : FaultPc} (hpc : bus.pc = .fault pc next) :
    FaultFrame latch bus (bus.stepFault latch next pc) := by
  cases pc with
  | loadEpoch => exact ⟨fun _ => .inl rfl, by simp [stepFault, Pc.pastStore]⟩
  | storeEpoch =>
    exact ⟨fun _ => .inr ⟨by simp [hpc, Pc.pastLoad], rfl⟩, by simp [stepFault, Pc.pastStore]⟩
  | storeGlobal => exact ⟨fun _ => .inr ⟨by simp [hpc, Pc.pastLoad], rfl⟩, fun _ => .inl rfl⟩
  | revoke | storeReason =>
    exact ⟨fun _ => .inr ⟨by simp [hpc, Pc.pastLoad], rfl⟩,
      fun _ => .inr ⟨by simp [hpc, Pc.pastStore], rfl⟩⟩
  | count => exact .outside (by cases next <;> rfl)

theorem pastLoad_afterClose (next : AfterClose) : (afterClose next).pastLoad = false := by
  cases next <;> rfl

theorem stepCycle_pastLoad (pc : CyclePc) :
    (bus.stepCycle config latch env pc).bus.pc.pastLoad = false := by
  cases pc with
  | popStoreRead =>
    simp only [stepCycle]
    generalize hpopped : ({ bus with
      pc := _
      outputCommands := _ } : Bus) = popped
    obtain ⟨ioMap, last, happly⟩ := applyCommand_frame config popped
    rw [happly, ← hpopped]
    rfl
  | start | sleep | loadEpoch | applyReadClock | freshLoadPermitted | loadTransmitEpoch
  | trackClock | endCycle | exitCheckLink =>
    simp only [stepCycle]
    split <;> rfl
  | _ => rfl

/-- **How `RaiseFault` progresses.** -/
theorem step_faultFrame (hstep : bus.step config latch env = some o) :
    FaultFrame latch bus o := by
  unfold Bus.step at hstep
  split at hstep <;> cases hstep
  · rename_i pc _
    refine .outside ?_
    cases pc with
    | checkLink =>
      simp only [stepRun]
      split
      · split <;> rfl
      · rfl
    | _ => rfl
  · exact stepFault_faultFrame ‹_›
  · rename_i pc next _
    refine .outside ?_
    cases pc with
    | revoke => rfl
    | storeTopology =>
      simp only [stepClose]
      split
      · rfl
      · exact pastLoad_afterClose next
    | storeClock => exact pastLoad_afterClose next
  · rename_i pc _
    refine .outside ?_
    cases pc with
    | configure | checkGroup | reachOperational =>
      simp only [stepInit]
      repeat' split
      all_goals rfl
    | _ => rfl
  · exact .outside (stepCycle_pastLoad _)

end Bus

end EcSystemCore
