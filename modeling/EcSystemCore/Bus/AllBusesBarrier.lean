import EcSystemCore.Bus.AllBusesEpochs

/-!
# Enabling outputs only after a zero frame on every bus

`AllBusesOperational` asks every bus whether it has transmitted a zero frame in the
current epoch before outputs may be enabled in it.  The answer is right as long as
each bus is still operational when `SafetyBarrierComplete` reads its state; a worker
that leaves that state between the two reads makes the barrier count as complete.
-/

namespace EcSystemCore

open Execution

namespace AllBuses

variable {busCount : ℕ} {config : ℕ → BusConfig} {s t : State}

/-- Since its `safetyEpoch_` last changed, the bus has exchanged a frame with all
outputs zero and a full working counter while it observed `epoch`. -/
def zeroFrameSince (index : ℕ) (epoch : UInt64) : List Event → Bool
  | [] => false
  | .epochSet i _ :: log => i ≠ index && zeroFrameSince index epoch log
  | .worker i (.exchanged observed zero full) :: log =>
    (i = index && observed = epoch && zero && full) || zeroFrameSince index epoch log
  | .worker _ _ :: log => zeroFrameSince index epoch log

theorem zeroFrameSince_worker {index i : ℕ} {epoch : UInt64} {event : BusEvent}
    {log : List Event} (h : zeroFrameSince index epoch log = true) :
    zeroFrameSince index epoch (.worker i event :: log) = true := by
  cases event <;> simp [zeroFrameSince, h]

/-- The log of a worker's step keeps what was recorded. -/
theorem zeroFrameSince_withOutcome {index i : ℕ} {epoch : UInt64} {o : Outcome}
    (h : zeroFrameSince i epoch s.log = true) :
    zeroFrameSince i epoch (s.withOutcome index o).log = true := by
  unfold State.withOutcome
  dsimp only
  split
  · exact h
  · exact zeroFrameSince_worker h

/-- A call on a bus keeps what was recorded about a bus whose `safetyEpoch_` it does
not change. -/
theorem zeroFrameSince_withBus {index i : ℕ} {epoch : UInt64} {bus : Bus}
    (h : zeroFrameSince i epoch s.log = true)
    (hkeep : i = index → bus.safetyEpoch = (s.bus index).safetyEpoch) :
    zeroFrameSince i epoch (s.withBus index bus).log = true := by
  unfold State.withBus
  dsimp only
  split
  · exact h
  · rename_i hchanged
    have hi : index ≠ i := fun heq => hchanged (hkeep heq.symm)
    simp [zeroFrameSince, h, hi]

/-! ### What `safetyEpochApplied_` says -/

/-- A published epoch that is still current was preceded by its zero frame. -/
structure ZeroOk (s : State) : Prop where
  images : ∀ i, (s.bus i).ZeroAssertion
  exchanged : ∀ i, (s.bus i).pc = .cycle .barrierLoadEpoch ∨
      (s.bus i).pc = .cycle .barrierPublish →
    (s.bus i).safetyEpoch = (s.bus i).observedSafetyEpoch →
    zeroFrameSince i (s.bus i).observedSafetyEpoch s.log = true
  applied : ∀ i, (s.bus i).safetyEpochApplied ≠ 0 →
    (s.bus i).safetyEpochApplied = (s.bus i).safetyEpoch →
    zeroFrameSince i (s.bus i).safetyEpochApplied s.log = true

/-- The exchange of the barrier frame is recorded as a zero frame. -/
theorem zeroFrameSince_receive {index : ℕ} {env : Env} {o : Outcome}
    (h : (s.bus index).ZeroAssertion)
    (hstep : (s.bus index).step (config index) s.latch env = some o)
    (hpc : o.bus.pc = .cycle .barrierLoadEpoch) :
    zeroFrameSince index o.bus.observedSafetyEpoch (s.withOutcome index o).log = true := by
  simp [State.withOutcome, h.exchanged hstep hpc, zeroFrameSince]

namespace ZeroOk

theorem withOutcome (h : ZeroOk s) {index : ℕ} {env : Env} {o : Outcome}
    (hstep : (s.bus index).step (config index) s.latch env = some o) :
    ZeroOk (s.withOutcome index o) := by
  have hframe := Bus.step_frame hstep
  refine ⟨fun i => ?_, fun i hpc heq => ?_, fun i hne heq => ?_⟩
  all_goals by_cases hi : i = index
  · subst hi
    simpa [State.withOutcome] using (h.images i).step hstep
  · simpa [State.withOutcome, hi] using h.images i
  · subst hi
    simp only [State.withOutcome, Function.update_self] at hpc heq ⊢
    rcases hpc with hpc | hpc
    · exact zeroFrameSince_receive (h.images i) hstep hpc
    · obtain ⟨pc, hbefore, hfollows, rfl⟩ := Bus.step_follows hstep (by simp) hpc
      cases hfollows
      exact h.exchanged i (.inl hbefore) heq
  · simp only [State.withOutcome, Function.update_of_ne hi] at hpc heq ⊢
    exact zeroFrameSince_withOutcome (h.exchanged i hpc heq)
  · subst hi
    simp only [State.withOutcome, Function.update_self] at hne heq ⊢
    rw [hframe.safetyEpoch] at heq
    rcases hframe.applied with hsame | ⟨hpublish, hpc⟩
    · rw [hsame] at hne heq ⊢
      exact zeroFrameSince_withOutcome (h.applied i hne heq)
    · rw [hpublish] at hne heq ⊢
      exact zeroFrameSince_withOutcome (h.exchanged i (.inr hpc) heq.symm)
  · simp only [State.withOutcome, Function.update_of_ne hi] at hne heq ⊢
    exact zeroFrameSince_withOutcome (h.applied i hne heq)

/-- A call moves a bus only to an epoch it has neither observed nor applied yet. -/
theorem withBus (h : ZeroOk s) (hepochs : EpochsOk s) {index : ℕ} {bus : Bus} (pc : DaemonPc)
    (hframe : CallFrame s.gate.epoch (s.bus index) bus) :
    ZeroOk { s.withBus index bus with daemon := pc } := by
  -- What the bus holds of the epoch it has after the call, it had as its own before.
  have hkeep : ∀ {epoch}, Held s index epoch → epoch ≠ 0 → epoch = bus.safetyEpoch →
      bus.safetyEpoch = (s.bus index).safetyEpoch := by
    intro epoch hheld hne heq
    rcases hframe.safetyEpoch with hsame | hgate
    · exact hsame
    · exact hgate.trans ((hheld.resolve_left hne).2 (heq.trans hgate)).symm
  refine ⟨fun i => ?_, fun i hpc heq => ?_, fun i hne heq => ?_⟩
  all_goals by_cases hi : i = index
  · subst hi
    simp only [State.withBus, Function.update_self]
    obtain ⟨hio, htopology, hopen⟩ := hframe.images
    rcases hframe.worker with ⟨hpc, hlocals⟩ | ⟨hpc, -⟩
    · have himages := h.images i
      unfold Bus.ZeroAssertion Bus.CycleZero Bus.AllZero at himages ⊢
      rw [hpc, hlocals, hio, htopology, hopen]
      exact himages
    · unfold Bus.ZeroAssertion
      rw [hpc]
      trivial
  · simpa [State.withBus, hi] using h.images i
  · subst hi
    simp only [State.withBus, Function.update_self] at hpc heq ⊢
    rcases hframe.worker with ⟨hsame, -⟩ | ⟨hrun, -⟩
    · have hrunning : (s.bus i).pc ≠ .joined := by
        rw [← hsame]
        rintro hjoined
        simp [hjoined] at hpc
      have hne : bus.safetyEpoch ≠ 0 := by
        rcases hframe.safetyEpoch with hepoch | hepoch <;> rw [hepoch]
        · exact hepochs.ne_zero _ (hepochs.running i hrunning)
        · exact s.gate.epoch_ne_zero
      have hobserved := hframe.observed.resolve_right fun hzero => hne (heq.trans hzero)
      rw [hobserved] at heq ⊢
      have hstay := hkeep (hepochs.observed i) (heq ▸ hne) heq.symm
      exact zeroFrameSince_withBus (h.exchanged i (hsame ▸ hpc) (hstay.symm.trans heq))
        fun _ => hstay
    · simp [hrun] at hpc
  · simp only [State.withBus, Function.update_of_ne hi] at hpc heq ⊢
    exact zeroFrameSince_withBus (h.exchanged i hpc heq) fun h => absurd h hi
  · subst hi
    simp only [State.withBus, Function.update_self] at hne heq ⊢
    rcases hframe.applied with hsame | hzero
    · rw [hsame] at hne heq ⊢
      have hstay := hkeep (hepochs.applied i) hne heq
      exact zeroFrameSince_withBus (h.applied i hne (heq.trans hstay)) fun _ => hstay
    · exact absurd hzero hne
  · simp only [State.withBus, Function.update_of_ne hi] at hne heq ⊢
    exact zeroFrameSince_withBus (h.applied i hne heq) fun h => absurd h hi

end ZeroOk

/-- Every step that brings no epoch back keeps it. -/
theorem ZeroOk.step {label : Label} (h : ZeroOk s) (hepoch : EpochInv s)
    (hstep : AllBuses.step busCount config s label = some t) : ZeroOk t := by
  cases step_effect hstep with
  | worker index env o lt mover moved eq => exact eq ▸ h.withOutcome moved
  | gate next eq =>
    rw [eq]
    exact ⟨h.images, h.exchanged, h.applied⟩
  | call index pc bus status calling moved eq =>
    rw [eq]
    exact h.withBus hepoch.epochs _
      (callFrame_step (hepoch.daemon.call index pc calling) moved).1
  | silent eq =>
    rw [eq]
    exact ⟨h.images, h.exchanged, h.applied⟩

/-! ### What the acknowledgement says -/

/-- The bus is in the gate's epoch and has transmitted its zero frame. -/
def Passed (s : State) (index : ℕ) : Prop :=
  (s.bus index).safetyEpoch = s.gate.epoch ∧
    zeroFrameSince index s.gate.epoch s.log = true

/-- Every bus `AllBusesOperational` is done with has passed. -/
structure EnableOk (busCount : ℕ) (s : State) : Prop where
  checked : ∀ request index verified pc, s.daemon = .check request index verified pc →
    (∀ i < index, Passed s i) ∧ (pc = .loadClock ∨ pc = .loadTopology → Passed s index)
  answered : ∀ request, s.daemon.answer = some (request, .ok) → request.enabled = true →
    request.epoch = s.gate.epoch ∧ ∀ i < busCount, Passed s i

/-- The bus whose state `SafetyBarrierComplete` is about to read is operational. -/
def StaysOperational (s : State) : Label → Prop
  | .daemon _ =>
    match s.daemon with
    | .check _ index _ (.barrier (.barrierLoadState _)) => (s.bus index).state = .operational
    | _ => True
  | _ => True

instance (s : State) (label : Label) : Decidable (StaysOperational s label) := by
  unfold StaysOperational
  split
  · split <;> infer_instance
  · infer_instance

theorem Passed.withOutcome {i index : ℕ} {env : Env} {o : Outcome} (h : Passed s i)
    (hstep : (s.bus index).step (config index) s.latch env = some o) :
    Passed (s.withOutcome index o) i :=
  ⟨(safetyEpoch_withOutcome hstep i).trans h.1, zeroFrameSince_withOutcome h.2⟩

/-- `ApplySafetyToBuses` repeats the epoch of a bus that has passed. -/
theorem Passed.withBus {i index : ℕ} {bus : Bus} {pc : DaemonPc} (h : Passed s i)
    (hframe : CallFrame s.gate.epoch (s.bus index) bus) :
    Passed { s.withBus index bus with daemon := pc } i := by
  have hkeep : i = index → bus.safetyEpoch = (s.bus index).safetyEpoch := by
    rintro rfl
    exact hframe.safetyEpoch.elim id fun hgate => hgate.trans h.1.symm
  refine ⟨?_, zeroFrameSince_withBus h.2 hkeep⟩
  by_cases hi : i = index
  · subst hi
    simpa [State.withBus] using (hkeep rfl).trans h.1
  · simpa [State.withBus, hi] using h.1

/-- A bus whose `safetyEpochApplied_` is the gate's epoch has passed. -/
theorem passed_of_applied {index : ℕ} (hzero : ZeroOk s) (hepochs : EpochsOk s)
    (h : (s.bus index).safetyEpochApplied = s.gate.epoch) : Passed s index := by
  have hne : (s.bus index).safetyEpochApplied ≠ 0 := h ▸ s.gate.epoch_ne_zero
  have hcurrent := ((hepochs.applied index).resolve_left hne).2 h
  exact ⟨hcurrent, h ▸ hzero.applied index hne (h.trans hcurrent.symm)⟩

/-- An enable answered Ok leaves the gate in its epoch. -/
theorem setOutputEnabled_ok_epoch {gate : SafetyGate} {client : ClientId} {epoch : UInt64}
    {healthy : Bool} {now : TimePoint}
    (h : (gate.setOutputEnabled client epoch true healthy now).1.status = .ok) :
    epoch = gate.epoch ∧ healthy = true ∧
      (gate.setOutputEnabled client epoch true healthy now).2.epoch = gate.epoch := by
  obtain ⟨hepoch, hhealthy⟩ := SafetyGate.setOutputEnabled_true_ok h
  refine ⟨hepoch, hhealthy, ?_⟩
  subst hhealthy
  by_cases hauth : (gate.authorize client epoch).status = .ok
  · simp [SafetyGate.setOutputEnabled, hauth, SafetyGate.refreshHeartbeat]
  · simp [SafetyGate.setOutputEnabled, hauth]

/-- Nothing is asked of a daemon thread outside `HandleOutputEnable`. -/
theorem EnableOk.outside
    (hcheck : ∀ request index verified pc, s.daemon ≠ .check request index verified pc)
    (hanswer : s.daemon.answer = none) : EnableOk busCount s :=
  ⟨fun _ _ _ _ h => absurd h (hcheck _ _ _ _), by simp [hanswer]⟩

/-- The verdict of `AllBusesOperational` may be positive once all buses have passed. -/
theorem enableOk_decideEnable {request : EnableRequest} {healthy : Bool} {now : TimePoint}
    (h : healthy = true → ∀ i < busCount, Passed s i) :
    EnableOk busCount (s.decideEnable request healthy now) := by
  refine ⟨by simp [State.decideEnable], fun request' hanswer henabled => ?_⟩
  obtain ⟨rfl, hok⟩ : request = request' ∧ (s.gate.setOutputEnabled request.client
      request.epoch request.enabled healthy now).1.status = .ok := by
    simpa [DaemonPc.answer, State.decideEnable] using hanswer
  rw [henabled] at hok
  obtain ⟨hepoch, hhealthy, hkept⟩ := setOutputEnabled_ok_epoch hok
  have hgate : (s.decideEnable request healthy now).gate.epoch = s.gate.epoch := by
    simpa [State.decideEnable, State.withGate, henabled] using hkept
  refine ⟨hepoch.trans hgate.symm, fun i hi => ?_⟩
  unfold Passed
  rw [hgate]
  exact h hhealthy i hi

/-- One step of `AllBusesOperational`. -/
theorem enableOk_stepCheck {request : EnableRequest} {index : ℕ} {verified : Bool}
    {input : DaemonInput} {pc : CheckPc} (hzero : ZeroOk s) (hepoch : EpochInv s)
    (h : EnableOk busCount s) (hdaemon : s.daemon = .check request index verified pc)
    (hstays : StaysOperational s (.daemon input))
    (hstep : stepCheck busCount config s request index verified input pc = some t) :
    EnableOk busCount t := by
  obtain ⟨hbefore, hhere⟩ := h.checked _ _ _ _ hdaemon
  -- Whatever goes on with the check keeps the buses that have passed.
  have hcontinue : ∀ {index' verified' pc'}, (∀ i < index', Passed s i) →
      (pc' = .loadClock ∨ pc' = .loadTopology → Passed s index') →
      EnableOk busCount { s with daemon := .check request index' verified' pc' } := by
    intro index' verified' pc' hpassed hcurrent
    refine ⟨fun _ _ _ _ heq => ?_, by simp [DaemonPc.answer]⟩
    cases heq
    exact ⟨hpassed, hcurrent⟩
  have hrefuse : EnableOk busCount (s.decideEnable request false input.now) :=
    enableOk_decideEnable (by simp)
  cases pc with
  | loadState =>
    simp only [stepCheck] at hstep
    split at hstep
    · split at hstep <;> cases hstep
      · exact hcontinue hbefore (by simp)
      · exact hrefuse
    · cases hstep
      exact enableOk_decideEnable fun _ i hi => hbefore i (by omega)
  | barrier pc =>
    obtain ⟨⟨bus, status⟩, hcall, hstep⟩ := Option.map_eq_some_iff.mp hstep
    rcases hepoch.daemon.barrier _ _ _ _ hdaemon with rfl | rfl
    · have hoperational : (s.bus index).state = .operational := by
        simpa [StaysOperational, hdaemon] using hstays
      simp only [CallPc.step, hoperational, ↓reduceIte, Option.some.injEq, Prod.mk.injEq]
        at hcall
      obtain ⟨-, rfl⟩ := hcall
      subst hstep
      exact hcontinue hbefore (by simp)
    · simp only [CallPc.step, Option.some.injEq, Prod.mk.injEq] at hcall
      obtain ⟨-, rfl⟩ := hcall
      dsimp only at hstep
      split at hstep
      · simp_all
      · subst hstep
        rename_i happlied
        exact hcontinue hbefore fun _ =>
          passed_of_applied hzero hepoch.epochs (by simpa using happlied)
      · subst hstep
        exact hrefuse
  | loadClock =>
    simp only [stepCheck] at hstep
    split at hstep <;> cases hstep
    · exact hcontinue hbefore fun _ => hhere (.inl rfl)
    · exact hrefuse
  | loadTopology =>
    cases hstep
    refine hcontinue (fun i hi => ?_) (by simp)
    rcases Nat.lt_succ_iff_lt_or_eq.mp hi with hlt | rfl
    · exact hbefore i hlt
    · exact hhere (.inr rfl)

/-- A call of `ApplySafetyToBuses` keeps the answer. -/
theorem EnableOk.withBus {index : ℕ} {bus : Bus} {daemon : DaemonPc} (h : EnableOk busCount s)
    (hframe : CallFrame s.gate.epoch (s.bus index) bus)
    (hcheck : ∀ request index verified pc, daemon ≠ .check request index verified pc)
    (hanswer : daemon.answer = s.daemon.answer) :
    EnableOk busCount { s.withBus index bus with daemon := daemon } := by
  refine ⟨fun _ _ _ _ heq => absurd heq (hcheck _ _ _ _), fun request hok henabled => ?_⟩
  obtain ⟨hepoch, hpassed⟩ := h.answered request (hanswer.symm.trans hok) henabled
  exact ⟨hepoch, fun i hi => (hpassed i hi).withBus hframe⟩

/-- **Every bus is checked before an enable is answered Ok.** -/
theorem EnableOk.step {label : Label} (h : EnableOk busCount s) (hzero : ZeroOk s)
    (hepoch : EpochInv s) (hstays : StaysOperational s label)
    (hstep : AllBuses.step busCount config s label = some t) : EnableOk busCount t := by
  cases label with
  | worker index env =>
    simp only [AllBuses.step] at hstep
    split at hstep
    · obtain ⟨o, hworker, rfl⟩ := Option.map_eq_some_iff.mp hstep
      refine ⟨fun request i verified pc hdaemon => ?_, fun request hanswer henabled => ?_⟩
      · obtain ⟨hbefore, hhere⟩ := h.checked request i verified pc hdaemon
        exact ⟨fun i hi => (hbefore i hi).withOutcome hworker,
          fun hpc => (hhere hpc).withOutcome hworker⟩
      · obtain ⟨hrequest, hpassed⟩ := h.answered request hanswer henabled
        exact ⟨hrequest, fun i hi => (hpassed i hi).withOutcome hworker⟩
    · cases hstep
  | gate op =>
    obtain ⟨hidle, rfl⟩ := step_gate hstep
    exact .outside (by simp [State.withGate, hidle])
      (by simp [DaemonPc.answer, State.withGate, hidle])
  | apply =>
    simp only [AllBuses.step] at hstep
    split at hstep <;> cases hstep
    exact .outside (by simp) rfl
  | call index call =>
    simp only [AllBuses.step] at hstep
    split at hstep
    · obtain ⟨pc, -, rfl⟩ := Option.map_eq_some_iff.mp hstep
      exact .outside (by simp) rfl
    · cases hstep
  | outputEnable request =>
    simp only [AllBuses.step] at hstep
    split at hstep <;> cases hstep
    exact .outside (by simp) rfl
  | daemon input =>
    simp only [AllBuses.step, stepDaemon] at hstep
    split at hstep
    · cases hstep
    · obtain ⟨⟨bus, status⟩, -, rfl⟩ := Option.map_eq_some_iff.mp hstep
      cases status <;> exact .outside (by simp) rfl
    · rename_i index answer hdaemon
      cases hstep
      refine ⟨fun _ _ _ _ hcheck => ?_, fun request hanswer henabled => ?_⟩
      · dsimp only at hcheck
        split at hcheck
        · cases hcheck
        · cases answer <;> cases hcheck
      · have hsame : answer = some (request, .ok) := by
          dsimp only at hanswer
          split at hanswer
          · exact hanswer
          · rwa [DaemonPc.answer_afterApply] at hanswer
        exact h.answered request (by rw [hdaemon]; exact hsame) henabled
    · rename_i index pc answer hdaemon
      obtain ⟨⟨bus, status⟩, hcall, rfl⟩ := Option.map_eq_some_iff.mp hstep
      have hframe := (callFrame_step
        (hepoch.daemon.call index pc (.inr ⟨answer, hdaemon⟩)) hcall).1
      cases status with
      | running next => exact h.withBus hframe (by simp) (by rw [hdaemon]; rfl)
      | returned value => exact h.withBus hframe (by simp) (by rw [hdaemon]; rfl)
    · split at hstep <;> cases hstep
      · exact enableOk_decideEnable (by simp)
      · refine ⟨fun _ _ _ _ heq => ?_, by simp [DaemonPc.answer]⟩
        cases heq
        exact ⟨by simp, by simp⟩
    · exact enableOk_stepCheck hzero hepoch h ‹_› hstays hstep
    · cases hstep
      exact .outside (by simp) rfl

/-- **Outputs are enabled only after a zero frame on every bus.**  In every
interleaving in which the gate uses no epoch twice and every bus is operational when
`SafetyBarrierComplete` reads its state, an `OutputEnable` answered Ok finds every
bus in the request's epoch, with a complete zero frame transmitted since. -/
theorem enable_acknowledged_after_zero_frames (busCount : ℕ) (config : ℕ → BusConfig)
    (gate : SafetyGate) (labels : List Label) (s : State) (request : EnableRequest)
    (conditions : AllSteps (step busCount config)
      (fun s label => EpochFresh busCount config s label ∧ StaysOperational s label)
      (init gate) labels)
    (reached : run (step busCount config) (init gate) labels = some s)
    (acknowledged : s.daemon = .acknowledge request .ok) (enabled : request.enabled = true) :
    ∀ index < busCount, (s.bus index).safetyEpoch = request.epoch ∧
      zeroFrameSince index request.epoch s.log = true := by
  have hinit : EpochInv (init gate) ∧ ZeroOk (init gate) ∧ EnableOk busCount (init gate) :=
    ⟨epochInv_init gate, ⟨fun _ => trivial, by simp [init], by simp [init]⟩,
      .outside (by simp [init]) rfl⟩
  obtain ⟨-, -, henable⟩ : EpochInv s ∧ ZeroOk s ∧ EnableOk busCount s := by
    refine run_induction_of_allSteps _ (P := fun s => EpochInv s ∧ ZeroOk s ∧ EnableOk busCount s)
      ?_ hinit conditions reached
    rintro s label next ⟨hepoch, hzero, henable⟩ ⟨hfresh, hstays⟩ hstep
    exact ⟨hepoch.step hfresh hstep, hzero.step hepoch hstep,
      henable.step hzero hepoch hstays hstep⟩
  obtain ⟨hepoch, hpassed⟩ := henable.answered request (by rw [acknowledged]; rfl) enabled
  intro index hindex
  rw [hepoch]
  exact hpassed index hindex

/-- One bus transmits its zero frame, and the controller's enable is granted. -/
def enableRun : List Label :=
  startBus 0 ++ workerSteps 0 31 2 ++ grantController 1 ++
    .outputEnable ⟨1, 7, true⟩ :: daemonSteps 13

/-- An enable is granted, after the zero frame. -/
theorem enableRun_acknowledged :
    ∃ s, run (step 1 fun _ => oneByteConfig) (init (.new 7 100 100)) enableRun = some s ∧
      s.daemon = .acknowledge ⟨1, 7, true⟩ .ok ∧ zeroFrameSince 0 7 s.log = true := by
  have hview : (run (step 1 fun _ => oneByteConfig) (init (.new 7 100 100)) enableRun).map
      (fun s => s.daemon) = some (.acknowledge ⟨1, 7, true⟩ .ok) := by
    decide +kernel
  obtain ⟨s, hrun, hdaemon⟩ := Option.map_eq_some_iff.mp hview
  exact ⟨s, hrun, hdaemon, (enable_acknowledged_after_zero_frames 1 (fun _ => oneByteConfig)
    (.new 7 100 100) enableRun s ⟨1, 7, true⟩ (by decide +kernel) hrun hdaemon rfl 0
    (by decide)).2⟩

/-- The frames of a bus are lost from the start.  `AllBusesOperational` reads the
state `Operational`, and before `SafetyBarrierComplete` reads it again the worker has
given up after three misses. -/
def lostFramesRun : List Label :=
  startBus 0 ++ workerSteps 0 63 0 ++ grantController 1 ++
    .outputEnable ⟨1, 7, true⟩ :: daemonSteps 2 ++ workerSteps 0 10 0 ++ daemonSteps 9

/-- **A worker that leaves `Operational` between the two reads counts as ready.**  The
enable is answered Ok although no frame of the epoch was complete. -/
theorem lostFramesRun_acknowledged :
    ∃ s, run (step 1 fun _ => oneByteConfig) (init (.new 7 100 100)) lostFramesRun = some s ∧
      s.daemon = .acknowledge ⟨1, 7, true⟩ .ok ∧ (s.bus 0).safetyEpoch = 7 ∧
      zeroFrameSince 0 7 s.log = false := by
  have hview : (run (step 1 fun _ => oneByteConfig) (init (.new 7 100 100)) lostFramesRun).map
      (fun s => (s.daemon, (s.bus 0).safetyEpoch, zeroFrameSince 0 7 s.log)) =
      some (.acknowledge ⟨1, 7, true⟩ .ok, 7, false) := by
    decide +kernel
  obtain ⟨s, hrun, hs⟩ := Option.map_eq_some_iff.mp hview
  simp only [Prod.mk.injEq] at hs
  exact ⟨s, hrun, hs⟩

end AllBuses

end EcSystemCore
