import EcSystemCore.Bus.SingleBusImages

/-!
# What one bus transmits

The single-bus system keeps its invariant in every interleaving (`Inv.step`), and
with it the two results about whole runs: whatever the cyclic loop transmits is
zero or a fresh command of the observed epoch, and what it takes for the epoch
barrier to be published.
-/

namespace EcSystemCore

open BitField Execution

namespace SingleBus

variable {config : BusConfig} {s t : State}

/-- The invariant of the single-bus system. -/
structure Inv (config : BusConfig) (s : State) : Prop where
  ordered : s.bus.Ordered s.latch
  call : CallOk s
  ledger : LedgerOk s
  slots : s.bus.outputCommands.SlotsFrom s.ledger.pushed
  assertion : Assertion config s

theorem inv_start (epoch : UInt64) (linkUp : Bool) : Inv config (start epoch linkUp) where
  ordered := ⟨by simp [start], by simp [start], by simp [start], by simp [start],
    by simp [start], by simp [start]⟩
  call := rfl
  ledger := ⟨UInt64.le_refl _, by simp [start], by simp [start], by simp [start],
    by simp [start]⟩
  slots := SpscQueue.slotsFrom_empty _
  assertion := trivial

/-! ### The worker outside `RunCyclic` -/

section Worker

variable {env : Env}

theorem assertion_stepRun (pc : RunPc) :
    Assertion config (withBus s (s.bus.stepRun s.latch pc).bus) := by
  cases pc with
  | checkLink =>
    simp only [Bus.stepRun]
    split
    · split <;> trivial
    · trivial
  | _ => trivial

theorem assertion_stepFault (next : AfterFault) (pc : FaultPc) :
    Assertion config (withBus s (s.bus.stepFault s.latch next pc).bus) := by
  cases pc with
  | count => cases next <;> trivial
  | _ => trivial

theorem assertion_stepClose (next : AfterClose) (pc : ClosePc) :
    Assertion config (withBus s (s.bus.stepClose s.latch next pc).bus) := by
  cases pc with
  | revoke => trivial
  | storeTopology =>
    simp only [Bus.stepClose]
    split
    · trivial
    · cases next <;> trivial
  | storeClock => cases next <;> trivial

/-- `Initialize` enters the cyclic loop with zero outputs. -/
theorem assertion_stepInit {pc : InitPc} (hpc : s.bus.pc = .init pc) (h : Assertion config s) :
    Assertion config (withBus s (s.bus.stepInit config s.latch env pc).bus) := by
  unfold Assertion at h
  rw [hpc] at h
  cases pc with
  | storeInitializing | storeFault => trivial
  | configure =>
    simp only [Bus.stepInit]
    split
    · trivial
    · rename_i verified haccepted
      refine ⟨opened_of_acceptTopology haccepted, fun device _ k _ => ?_⟩
      exact Nat.zero_testBit _
  | checkGroup =>
    simp only [Bus.stepInit]
    split
    · trivial
    · split <;> exact h
  | storeClock | storeSafe => exact h
  | reachOperational =>
    simp only [Bus.stepInit]
    split
    · exact ⟨h.1, fun device hdevice => Bus.outputsZero_of_zeroOutputs h.1 hdevice⟩
    · trivial
  | storeOperational => exact ⟨h.1, Images.of_allZero (s := withBus s _) h.2, .inl h.2⟩

end Worker

/-! ### The invariant -/

theorem Inv.worker {env : Env} (hs : Inv config s)
    (h : step config s (.worker env) = some t) : Inv config t := by
  obtain ⟨o, hstep, hbus, hlatch, hcall, hledger⟩ := step_worker h
  refine ⟨ordered_worker h hs.ordered, CallOk.worker h hs.call hs.ordered,
    LedgerOk.worker h hs.ledger hs.ordered, ?_, ?_⟩
  · intro index
    rw [hbus, hledger, (Bus.step_frame hstep).values]
    exact hs.slots index
  · have hassertion : Assertion config (withBus s o.bus) := by
      unfold Bus.step at hstep
      split at hstep <;> cases hstep
      · exact assertion_stepRun _
      · exact assertion_stepFault _ _
      · exact assertion_stepClose _ _
      · exact assertion_stepInit ‹_› hs.assertion
      · exact assertion_stepCycle ‹_› hs.ledger hs.ordered hs.slots hs.assertion
    exact hassertion.congr hbus hcall hledger

theorem Inv.begin {call : Call} (hs : Inv config s)
    (h : step config s (.begin call) = some t) : Inv config t := by
  have hinterferes := interferes_begin hs.ledger hs.ordered h
  refine ⟨?_, hs.call.begin h, hs.ledger.begin h, ?_, hinterferes.assertion hs.assertion⟩
  · obtain ⟨-, -, rfl⟩ := step_begin h
    exact hs.ordered
  · have hslots := hs.slots.mono hinterferes.pushed
    obtain ⟨-, -, rfl⟩ := step_begin h
    exact hslots

theorem CallStep.slots (h : CallStep s t) (hcall : CallOk s)
    (hs : s.bus.outputCommands.SlotsFrom s.ledger.pushed) :
    t.bus.outputCommands.SlotsFrom t.ledger.pushed := by
  cases h with
  | pushCopy call =>
    rw [CallOk, call] at hcall
    exact hs.storeValue _ hcall.2
  | _ => exact hs

theorem Inv.daemon (hs : Inv config s) (h : step config s .daemon = some t) : Inv config t := by
  have hstep := step_daemon hs.call h
  exact ⟨hstep.ordered hs.call hs.ledger hs.ordered, hstep.callOk hs.call hs.ordered,
    hstep.ledgerOk hs.call hs.ledger hs.ordered, hstep.slots hs.call hs.slots,
    (interferes_daemon hs.call hs.ledger hs.ordered hstep).assertion hs.assertion⟩

/-- **Every step keeps the invariant.** -/
theorem Inv.step (hs : Inv config s) (label : Label)
    (h : SingleBus.step config s label = some t) : Inv config t := by
  cases label with
  | worker env => exact hs.worker h
  | begin call => exact hs.begin h
  | daemon => exact hs.daemon h

/-- Every run keeps the invariant. -/
theorem inv_run {epoch : UInt64} {linkUp : Bool} {labels : List Label}
    (h : run (SingleBus.step config) (start epoch linkUp) labels = some s) : Inv config s :=
  run_induction _ (fun _ label _ hs hstep => hs.step label hstep) (inv_start epoch linkUp) h

/-! ### What is transmitted -/

/-- An acceptance time that is not stale lies at most the timeout back. -/
theorem within_timeout {now last : UInt64} (h : isStale config.timeoutUs now last = false) :
    last.toNat ≤ now.toNat ∧
      now.toNat - last.toNat ≤ config.outputCommandTimeout.toNat * 1000 := by
  simp only [isStale, Bool.or_eq_false_iff, decide_eq_false_iff_not, UInt64.not_lt] at h
  have hle : last.toNat ≤ now.toNat := UInt64.le_iff_toNat_le.mp h.1.2
  have hdiff := UInt64.le_iff_toNat_le.mp h.2
  rw [UInt64.toNat_sub_of_le _ _ h.1.2, BusConfig.timeoutUs, UInt64.toNat_mul] at hdiff
  exact ⟨hle, hdiff.trans (Nat.mod_le _ _)⟩

/-- **Only zero or fresh outputs of the observed epoch are transmitted.**  In every
interleaving of the worker with the daemon thread, whenever the cyclic loop
transmits, each SubDevice's output bits are all zero or exactly the image of one
queued command for it, of the observed epoch, accepted at most the output-command
timeout before the freshness time read in that cycle. -/
theorem transmitted_zero_or_fresh_command (config : BusConfig) (epoch : UInt64) (linkUp : Bool)
    (labels : List Label) (s : State)
    (reached : run (SingleBus.step config) (start epoch linkUp) labels = some s)
    (transmitting : s.bus.Transmitting) :
    ∀ j device, s.bus.topology.devices[j]? = some device →
      OutputsZero s.bus.ioMap device ∨
        ∃ command ∈ s.ledger.pushed, command.subDeviceIndex.toNat = j + 1 ∧
          HasImage s.bus.ioMap device command.data ∧
          command.epoch = s.bus.observedSafetyEpoch ∧
          ∃ freshness, s.bus.locals.freshness = some freshness ∧
            command.acceptedMonotonicUs.toNat ≤ freshness.toNat ∧
            freshness.toNat - command.acceptedMonotonicUs.toNat ≤
              config.outputCommandTimeout.toNat * 1000 := by
  have hassertion := (inv_run reached).assertion
  unfold Assertion at hassertion
  intro j device hdevice
  rcases transmitting with hpc | hpc
  · rw [hpc] at hassertion
    obtain ⟨-, himages, -, hfresh⟩ := hassertion
    rcases himages j device hdevice with hzero | ⟨command, hmem, hindex, himage, hlast, hepoch⟩
    · exact .inl hzero
    · rcases hfresh j device hdevice with hzero | ⟨now, hnow, hstale⟩
      · exact .inl hzero
      · rw [hlast] at hstale
        exact .inr ⟨command, hmem, hindex, himage, by simpa using hepoch, now, hnow,
          within_timeout hstale⟩
  · rw [hpc] at hassertion
    exact .inl (hassertion.2 device (List.mem_of_getElem? hdevice))

/-- A controller's command on its way to a frame: the worker initializes the bus
and transmits its first barrier frame, the daemon sees the barrier, gives
permission and queues a command, and the worker applies it. -/
def commandRun : List Label :=
  List.replicate 25 (.worker (oneByteEnv 2)) ++
    .begin .safetyBarrierComplete :: List.replicate 2 .daemon ++
    .begin (.setSafety 7 true) :: List.replicate 4 .daemon ++
    .begin (.queueOutput
      { epoch := 7, subDeviceIndex := 1, acceptedMonotonicUs := 900, data := [5] }) ::
    List.replicate 4 .daemon ++ List.replicate 21 (.worker (oneByteEnv 2))

/-- Non-zero outputs are transmitted, and then they are a command's image. -/
theorem commandRun_transmits_command :
    ∃ s device, run (SingleBus.step oneByteConfig) (start 7 true) commandRun = some s ∧
      s.bus.Transmitting ∧ s.bus.topology.devices[0]? = some device ∧
      ∃ command ∈ s.ledger.pushed, HasImage s.bus.ioMap device command.data ∧
        command.epoch = s.bus.observedSafetyEpoch := by
  have hview : (run (SingleBus.step oneByteConfig) (start 7 true) commandRun).map
      (fun s => (s.bus.pc, s.bus.topology.devices,
        allOutputsZero s.bus.ioMap s.bus.topology.devices)) =
      some (.cycle .send, oneByteReport.topology.devices, false) := by
    decide +kernel
  obtain ⟨s, hrun, hs⟩ := Option.map_eq_some_iff.mp hview
  simp only [Prod.mk.injEq] at hs
  obtain ⟨hpc, hdevices, hnonzero⟩ := hs
  have hdevice : s.bus.topology.devices[0]? =
      some { obits := 8, obytes := 1, outputs := some 0, eepMan := 1, eepId := 2 } := by
    rw [hdevices]
    rfl
  refine ⟨s, _, hrun, .inl hpc, hdevice, ?_⟩
  rcases transmitted_zero_or_fresh_command oneByteConfig 7 true commandRun s hrun (.inl hpc)
    0 _ hdevice with hzero | ⟨command, hmem, -, himage, hepoch, -⟩
  · have hall : allOutputsZero s.bus.ioMap s.bus.topology.devices = true := by
      refine allOutputsZero_eq_true.mpr fun device hmem => ?_
      rw [hdevices] at hmem
      obtain rfl := List.mem_singleton.mp hmem
      exact hzero
    rw [hnonzero] at hall
    cases hall
  · exact ⟨command, hmem, himage, hepoch⟩

/-! ### The epoch barrier -/

/-- The points between observing a new epoch and publishing it. -/
def BarrierPending (bus : Bus) : Prop :=
  bus.locals.epochBarrier = true ∧
    (bus.pc = .cycle .loadTransmitEpoch ∨ bus.pc = .cycle .recheckPermitted ∨
      bus.pc = .cycle .checkLatch ∨ bus.pc = .cycle .send ∨ bus.pc = .cycle .receive ∨
      bus.pc = .cycle .barrierLoadEpoch ∨ bus.pc = .cycle .barrierPublish)

/-- The step does not receive a short frame in the cycle that switched
`observedSafetyEpoch_` to `epoch`. -/
def BarrierFrameFull (epoch : UInt64) (s : State) : Label → Prop
  | .worker env =>
    s.bus.pc = .cycle .receive → s.bus.observedSafetyEpoch = epoch →
      s.bus.locals.epochBarrier = true →
        s.bus.locals.sent = true ∧ s.bus.expectedWorkingCounter ≤ env.workingCounter
  | _ => True

instance (epoch : UInt64) (s : State) : (label : Label) →
    Decidable (BarrierFrameFull epoch s label)
  | .worker _ => inferInstanceAs (Decidable (_ → _ → _ → _ ∧ _))
  | .begin _ => isTrue trivial
  | .daemon => isTrue trivial

/-- The barrier of `epoch` is published, or about to be, while it is current. -/
def Published (epoch : UInt64) (bus : Bus) : Prop :=
  bus.observedSafetyEpoch = epoch → BarrierPending bus ∨
    (bus.safetyEpoch = epoch → bus.safetyEpochApplied = epoch)

theorem not_barrierPending {bus : Bus} {pc : CyclePc} (hpc : bus.pc = .cycle pc)
    (h : pc ∉ [.loadTransmitEpoch, .recheckPermitted, .checkLatch, .send, .receive,
      .barrierLoadEpoch, .barrierPublish]) : ¬BarrierPending bus := by
  rintro ⟨-, hpending⟩
  simp only [hpc, Pc.cycle.injEq] at hpending
  simp only [List.mem_cons, List.not_mem_nil, or_false] at h
  exact h hpending

/-- Outside the barrier, a step that observes no epoch keeps it published. -/
theorem Published.quiet {epoch : UInt64} {bus : Bus} {env : Env} {latch : UInt64} {o : Outcome}
    (h : Published epoch bus) (hstep : bus.step config latch env = some o)
    (hpending : ¬BarrierPending bus) (hobserve : bus.pc ≠ .cycle .loadEpoch)
    (hpublish : bus.pc ≠ .cycle .barrierPublish)
    (htransmit : bus.pc ≠ .cycle .loadTransmitEpoch) : Published epoch o.bus := by
  have hframe := Bus.step_frame hstep
  have hobserved := hframe.observed.resolve_right (by simp [hobserve, htransmit])
  have happlied := hframe.applied.resolve_right (by simp [hpublish])
  intro heq
  rw [hobserved] at heq
  rw [happlied, hframe.safetyEpoch]
  exact .inr ((h heq).resolve_left hpending)

/-- The worker keeps the barrier published, as long as the barrier frame of the
epoch is not short. -/
theorem Published.worker {epoch : UInt64} {env : Env} {o : Outcome}
    (h : Published epoch s.bus) (hfull : BarrierFrameFull epoch s (.worker env))
    (hstep : s.bus.step config s.latch env = some o) : Published epoch o.bus := by
  have hcycle : ∀ pc, s.bus.pc = .cycle pc →
      o = s.bus.stepCycle config s.latch env pc := by
    intro pc hpc
    unfold Bus.step at hstep
    rw [hpc] at hstep
    exact (Option.some.inj hstep).symm
  by_cases hpc : ∃ pc, s.bus.pc = .cycle pc
  · obtain ⟨pc, hpc⟩ := hpc
    have ho := hcycle pc hpc
    cases pc with
    | loadEpoch =>
      rw [ho]
      simp only [Bus.stepCycle]
      split
      · exact fun _ => .inl ⟨rfl, .inl rfl⟩
      · exact fun heq => .inr ((h heq).resolve_left (not_barrierPending hpc (by decide)))
    | loadTransmitEpoch =>
      rw [ho]
      simp only [Bus.stepCycle]
      split
      · exact fun _ => .inl ⟨rfl, .inr (.inl rfl)⟩
      · exact fun heq => (h heq).imp_left fun hpending => ⟨hpending.1, .inr (.inl rfl)⟩
    | recheckPermitted =>
      rw [ho]
      exact fun heq => (h heq).imp_left fun hpending =>
        ⟨hpending.1, .inr (.inr (.inl rfl))⟩
    | checkLatch =>
      rw [ho]
      exact fun heq => (h heq).imp_left fun hpending =>
        ⟨hpending.1, .inr (.inr (.inr (.inl rfl)))⟩
    | send =>
      rw [ho]
      exact fun heq => (h heq).imp_left fun hpending =>
        ⟨hpending.1, .inr (.inr (.inr (.inr (.inl rfl))))⟩
    | receive =>
      intro heq
      rw [ho] at heq ⊢
      refine (h heq).imp_left fun hpending => ?_
      obtain ⟨hsent, hcounter⟩ := hfull hpc heq hpending.1
      refine ⟨hpending.1, .inr (.inr (.inr (.inr (.inr (.inl ?_)))))⟩
      simp [Bus.stepCycle, Bus.workingCounterFull, hpending.1, hsent, hcounter]
    | barrierLoadEpoch =>
      intro heq
      rw [ho] at heq ⊢
      rcases h heq with hpending | hpublished
      · by_cases hcurrent : s.bus.safetyEpoch = s.bus.observedSafetyEpoch
        · refine .inl ⟨hpending.1, .inr (.inr (.inr (.inr (.inr (.inr ?_)))))⟩
          simp [Bus.stepCycle, hcurrent]
        · exact .inr fun hsafety => absurd (hsafety.trans heq.symm) hcurrent
      · exact .inr hpublished
    | barrierPublish =>
      rw [ho]
      exact fun heq => .inr fun _ => heq
    | _ =>
      exact h.quiet hstep (not_barrierPending hpc (by decide)) (by simp [hpc]) (by simp [hpc])
        (by simp [hpc])
  · have hne : ∀ pc, s.bus.pc ≠ .cycle pc := fun pc heq => hpc ⟨pc, heq⟩
    exact h.quiet hstep (fun hpending => by simp [BarrierPending, hne] at hpending) (hne _)
      (hne _) (hne _)

/-- The daemon thread keeps the barrier published: it only moves to later epochs. -/
theorem Published.interferes {epoch : UInt64} (h : Published epoch s.bus)
    (hordered : s.bus.Ordered s.latch) (hinterferes : Interferes s t) :
    Published epoch t.bus := by
  have hle := hinterferes.safetyEpoch_le
  rw [hinterferes.bus]
  intro heq
  refine (h heq).imp_right fun hpublished (hcurrent : t.bus.safetyEpoch = epoch) =>
    hpublished ?_
  have hobserved : s.bus.observedSafetyEpoch = epoch := heq
  have := hordered.observed_le
  grind

theorem Published.step {epoch : UInt64} {label : Label} (hs : Inv config s)
    (h : Published epoch s.bus) (hfull : BarrierFrameFull epoch s label)
    (hstep : SingleBus.step config s label = some t) : Published epoch t.bus := by
  cases label with
  | worker env =>
    obtain ⟨o, hworker, hbus, -⟩ := step_worker hstep
    rw [hbus]
    exact h.worker hfull hworker
  | begin call => exact h.interferes hs.ordered (interferes_begin hs.ledger hs.ordered hstep)
  | daemon =>
    exact h.interferes hs.ordered
      (interferes_daemon hs.call hs.ledger hs.ordered (step_daemon hs.call hstep))

/-- The cycle that has just ended transmitted zero outputs with a full working
counter while `epoch` was current and observed, before and after the exchange. -/
structure CleanCycle (epoch : UInt64) (s : State) : Prop where
  ended : s.bus.pc = .cycle .endCycle
  zero : s.sentZero = true
  sent : s.bus.locals.sent = true
  full : s.bus.workingCounterFull = true
  before : s.sentEpoch = epoch
  after : s.bus.safetyEpoch = epoch
  observed : s.bus.observedSafetyEpoch = epoch

instance (epoch : UInt64) (s : State) : Decidable (CleanCycle epoch s) :=
  decidable_of_iff (s.bus.pc = .cycle .endCycle ∧ s.sentZero = true ∧
      s.bus.locals.sent = true ∧ s.bus.workingCounterFull = true ∧ s.sentEpoch = epoch ∧
      s.bus.safetyEpoch = epoch ∧ s.bus.observedSafetyEpoch = epoch)
    ⟨fun ⟨h₁, h₂, h₃, h₄, h₅, h₆, h₇⟩ => ⟨h₁, h₂, h₃, h₄, h₅, h₆, h₇⟩,
      fun ⟨h₁, h₂, h₃, h₄, h₅, h₆, h₇⟩ => ⟨h₁, h₂, h₃, h₄, h₅, h₆, h₇⟩⟩

/-- **A full barrier frame completes the barrier.**  In every run in which no frame
of the cycle that switched to `epoch` is short, the barrier of `epoch` is complete
after every clean cycle of it. -/
theorem barrier_complete_after_full_frame (config : BusConfig) (initial epoch : UInt64)
    (linkUp : Bool) (labels : List Label) (s : State)
    (full : AllSteps (SingleBus.step config) (BarrierFrameFull epoch)
      (start initial linkUp) labels)
    (reached : run (SingleBus.step config) (start initial linkUp) labels = some s)
    (clean : CleanCycle epoch s) : s.bus.safetyBarrierComplete epoch = true := by
  have hinit : Inv config (start initial linkUp) ∧ Published epoch (start initial linkUp).bus :=
    ⟨inv_start initial linkUp, fun heq => .inr fun _ => heq⟩
  have hpublished := run_induction_of_allSteps _
    (P := fun s => Inv config s ∧ Published epoch s.bus)
    (fun _ label _ hs hfull hstep => ⟨hs.1.step label hstep, hs.2.step hs.1 hfull hstep⟩)
    hinit full reached
  have happlied := (hpublished.2 clean.observed).resolve_left
    (not_barrierPending clean.ended (by decide)) clean.after
  simp [Bus.safetyBarrierComplete, happlied]

/-- A worker that exchanges its first frame with `first` and every later one with
`later` as the working counter, up to the end of a cycle. -/
def barrierRun (first later : ℤ) (steps : ℕ) : List Label :=
  List.replicate 21 (.worker (oneByteEnv first)) ++
    List.replicate steps (.worker (oneByteEnv later))

/-- The barrier is complete after a full first frame. -/
theorem barrierRun_full_complete :
    ∃ s, run (SingleBus.step oneByteConfig) (start 7 true) (barrierRun 2 2 25) = some s ∧
      CleanCycle 7 s ∧ s.bus.safetyBarrierComplete 7 = true := by
  have hview : (run (SingleBus.step oneByteConfig) (start 7 true) (barrierRun 2 2 25)).map
      (fun s => decide (CleanCycle 7 s)) = some true := by
    decide +kernel
  obtain ⟨s, hrun, hclean⟩ := Option.map_eq_some_iff.mp hview
  have hclean := of_decide_eq_true hclean
  exact ⟨s, hrun, hclean, barrier_complete_after_full_frame oneByteConfig 7 7 true _ s
    (by decide +kernel) hrun hclean⟩

/-- **A short barrier frame is never made up for.**  The first frame of epoch 7 is
lost, the next cycle exchanges its zero outputs with a full working counter, and the
barrier of epoch 7 is still not complete: only the cycle that switches
`observedSafetyEpoch_` can publish `safetyEpochApplied_`. -/
theorem barrierRun_short_incomplete :
    ∃ s, run (SingleBus.step oneByteConfig) (start 7 true) (barrierRun 0 2 23) = some s ∧
      CleanCycle 7 s ∧ s.bus.safetyBarrierComplete 7 = false := by
  have hview : (run (SingleBus.step oneByteConfig) (start 7 true) (barrierRun 0 2 23)).map
      (fun s => (decide (CleanCycle 7 s), s.bus.safetyBarrierComplete 7)) =
      some (true, false) := by
    decide +kernel
  obtain ⟨s, hrun, hs⟩ := Option.map_eq_some_iff.mp hview
  simp only [Prod.mk.injEq, decide_eq_true_eq] at hs
  exact ⟨s, hrun, hs⟩

end SingleBus

end EcSystemCore
