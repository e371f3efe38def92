import EcSystemCore.Bus.AllBusesBarrier

/-!
# The fault latch all buses share

`RaiseFault` leaves the epoch it read in `globalFaultedEpoch_`, where every worker
looks before it transmits and the daemon thread before it enables outputs.  The latch
is a single slot.  It stops all buses as long as no fault of another epoch overwrites
it while its epoch is still in use, and no fault arrives between the daemon's look and
its acknowledgement.
-/

namespace EcSystemCore

open Execution

namespace AllBuses

variable {busCount : ℕ} {config : ℕ → BusConfig} {s t : State}

/-- Some bus has completed a `RaiseFault` that read `epoch`. -/
def faultCompleted (epoch : UInt64) (log : List Event) : Bool :=
  log.any fun
    | .worker _ (.faultCompleted e) => e = epoch
    | _ => false

/-- The bus's last check of `globalFaultedEpoch_` came after a `RaiseFault` in the
epoch it compared with had completed. -/
def checkedAfterFault (index : ℕ) : List Event → Bool
  | [] => false
  | .worker i (.latchChecked observed) :: log =>
    if i = index then faultCompleted observed log else checkedAfterFault index log
  | _ :: log => checkedAfterFault index log

/-- The epoch is the gate's, or a bus has been given it or observes it. -/
def Live (busCount : ℕ) (s : State) (epoch : UInt64) : Prop :=
  epoch = s.gate.epoch ∨ ∃ i < busCount, (s.bus i).safetyEpoch = epoch ∨
    (s.bus i).observedSafetyEpoch = epoch

instance (epoch : UInt64) : Decidable (Live busCount s epoch) :=
  inferInstanceAs (Decidable (_ ∨ _))

/-- `HandleOutputEnable` has looked at the latch and may still answer an enable Ok. -/
def DaemonPc.enabling : DaemonPc → Bool
  | .check request _ _ _ => request.enabled
  | pc =>
    match pc.answer with
    | some (request, .ok) => request.enabled
    | _ => false

/-- A store to `globalFaultedEpoch_` replaces no other epoch that is live, and does
not name the gate's epoch while an enable is on its way. -/
def LatchKept (busCount : ℕ) (s : State) : Label → Prop
  | .worker index _ =>
    match (s.bus index).pc with
    | .fault .storeGlobal _ =>
      (s.latch = (s.bus index).locals.faultEpoch ∨ s.latch = 0 ∨
        ¬Live busCount s s.latch) ∧
      (s.daemon.enabling = true → (s.bus index).locals.faultEpoch ≠ s.gate.epoch)
    | _ => True
  | _ => True

instance (s : State) (label : Label) : Decidable (LatchKept busCount s label) := by
  unfold LatchKept
  split
  · split <;> infer_instance
  · infer_instance

theorem latchKept_elim {index : ℕ} {env : Env} {next : AfterFault}
    (h : LatchKept busCount s (.worker index env))
    (hpc : (s.bus index).pc = .fault .storeGlobal next) :
    (s.latch = (s.bus index).locals.faultEpoch ∨ s.latch = 0 ∨ ¬Live busCount s s.latch) ∧
      (s.daemon.enabling = true → (s.bus index).locals.faultEpoch ≠ s.gate.epoch) := by
  simpa [LatchKept, hpc] using h

/-! ### What the log says -/

theorem faultCompleted_cons_worker {epoch : UInt64} {index : ℕ} {event : BusEvent}
    {log : List Event} (h : faultCompleted epoch (.worker index event :: log) = true) :
    event = .faultCompleted epoch ∨ faultCompleted epoch log = true := by
  unfold faultCompleted at h ⊢
  rw [List.any_cons, Bool.or_eq_true] at h
  refine h.imp_left fun hhead => ?_
  cases event <;> simp_all

/-- A completed fault was recorded before, or this step completes it. -/
theorem faultCompleted_withOutcome {epoch : UInt64} {index : ℕ} {o : Outcome}
    (h : faultCompleted epoch (s.withOutcome index o).log = true) :
    o.event = some (.faultCompleted epoch) ∨ faultCompleted epoch s.log = true := by
  unfold State.withOutcome at h
  dsimp only at h
  split at h
  · exact .inr h
  · rename_i event hevent
    rw [hevent]
    exact (faultCompleted_cons_worker h).imp_left (congrArg some)

theorem faultCompleted_withBus {epoch : UInt64} {index : ℕ} {bus : Bus} :
    faultCompleted epoch (s.withBus index bus).log = faultCompleted epoch s.log := by
  unfold State.withBus
  dsimp only
  split
  · rfl
  · simp [faultCompleted]

theorem checkedAfterFault_withBus {i index : ℕ} {bus : Bus} :
    checkedAfterFault i (s.withBus index bus).log = checkedAfterFault i s.log := by
  unfold State.withBus
  dsimp only
  split <;> rfl

/-- Another bus's steps do not touch a bus's last check. -/
theorem checkedAfterFault_withOutcome {i index : ℕ} {o : Outcome} (hi : i ≠ index) :
    checkedAfterFault i (s.withOutcome index o).log = checkedAfterFault i s.log := by
  unfold State.withOutcome
  dsimp only
  split
  · rfl
  · rename_i event _
    cases event <;> simp [checkedAfterFault, Ne.symm hi]

/-! ### The latch holds the faulted epoch -/

/-- A fault in `epoch` has completed, or a worker has published it. -/
def Faulted (busCount : ℕ) (s : State) (epoch : UInt64) : Prop :=
  faultCompleted epoch s.log = true ∨ ∃ i < busCount,
    (s.bus i).pc.pastStore = true ∧ (s.bus i).locals.faultEpoch = epoch

/-- The latch holds the epoch of every fault in a live epoch, and a worker that
looked at it after the fault transmits zeros. -/
structure LatchOk (busCount : ℕ) (s : State) : Prop where
  mem : ∀ epoch, faultCompleted epoch s.log = true → epoch ∈ s.epochs
  latch : ∀ epoch, Live busCount s epoch → Faulted busCount s epoch → s.latch = epoch
  sent : ∀ i, (s.bus i).pc = .cycle .send → checkedAfterFault i s.log = true →
    (s.bus i).AllZero

theorem pastLoad_of_pastStore {pc : Pc} (h : pc.pastStore = true) : pc.pastLoad = true := by
  unfold Pc.pastStore at h
  split at h <;> first | rfl | cases h

/-- Faults happen in the gate's epochs. -/
theorem LatchOk.mem_of_faulted {epoch : UInt64} (h : LatchOk busCount s) (hepochs : EpochsOk s)
    (hfaulted : Faulted busCount s epoch) : epoch ∈ s.epochs := by
  rcases hfaulted with hlog | ⟨i, -, hpast, rfl⟩
  · exact h.mem epoch hlog
  · exact hepochs.loaded i (pastLoad_of_pastStore hpast)

/-- A worker observes only epochs its bus was given. -/
theorem live_withOutcome {epoch : UInt64} {index : ℕ} {env : Env} {o : Outcome}
    (hstep : (s.bus index).step (config index) s.latch env = some o)
    (h : Live busCount (s.withOutcome index o) epoch) : Live busCount s epoch := by
  refine h.imp_right fun ⟨i, hi, hbus⟩ => ⟨i, hi, ?_⟩
  rw [safetyEpoch_withOutcome hstep] at hbus
  refine hbus.elim .inl fun hobserved => ?_
  by_cases hindex : i = index
  · subst hindex
    simp only [State.withOutcome, Function.update_self] at hobserved
    rcases (Bus.step_frame hstep).observed with heq | ⟨heq, -⟩
    · exact .inr (heq ▸ hobserved)
    · exact .inl (heq ▸ hobserved)
  · simp only [State.withOutcome, Function.update_of_ne hindex] at hobserved
    exact .inr hobserved

/-- A fault completes where `RaiseFault` has published it. -/
theorem pastStore_of_completed {epoch latch : UInt64} {bus : Bus} {env : Env} {o : Outcome}
    {busConfig : BusConfig} (hstep : bus.step busConfig latch env = some o)
    (hevent : o.event = some (.faultCompleted epoch)) :
    bus.pc.pastStore = true ∧ bus.locals.faultEpoch = epoch := by
  cases Bus.step_event hstep hevent with
  | faultCompleted pc => exact ⟨by rw [pc]; rfl, rfl⟩

/-- A worker publishes a fault only by storing it in the latch. -/
theorem faulted_withOutcome {epoch : UInt64} {index : ℕ} {env : Env} {o : Outcome}
    (hindex : index < busCount)
    (hstep : (s.bus index).step (config index) s.latch env = some o)
    (h : Faulted busCount (s.withOutcome index o) epoch) :
    o.latch = epoch ∨ Faulted busCount s epoch := by
  rcases h with hlog | ⟨i, hi, hpast, hepoch⟩
  · refine .inr ?_
    rcases faultCompleted_withOutcome hlog with hevent | hlog
    · exact .inr ⟨index, hindex, pastStore_of_completed hstep hevent⟩
    · exact .inl hlog
  · by_cases hsame : i = index
    · subst hsame
      simp only [State.withOutcome, Function.update_self] at hpast hepoch
      rcases (Bus.step_faultFrame hstep).stored hpast with hlatch | ⟨hbefore, heq⟩
      · exact .inl (hlatch.trans hepoch)
      · exact .inr (.inr ⟨i, hi, hbefore, heq.symm.trans hepoch⟩)
    · simp only [State.withOutcome, Function.update_of_ne hsame] at hpast hepoch
      exact .inr (.inr ⟨i, hi, hpast, hepoch⟩)

/-- The check of the latch silences a bus whose epoch is faulted. -/
theorem allZero_of_checkLatch {index : ℕ} {env : Env} {o : Outcome} (h : LatchOk busCount s)
    (hindex : index < busCount) (hzero : (s.bus index).ZeroAssertion)
    (hstep : (s.bus index).step (config index) s.latch env = some o)
    (hpc : o.bus.pc = .cycle .send)
    (hchecked : checkedAfterFault index (s.withOutcome index o).log = true) :
    o.bus.AllZero := by
  obtain ⟨pc, hbefore, hfollows, rfl⟩ := Bus.step_follows hstep (by simp) hpc
  cases hfollows
  have hcompleted : faultCompleted (s.bus index).observedSafetyEpoch s.log = true := by
    simpa [State.withOutcome, Bus.stepCycle, checkedAfterFault] using hchecked
  have hlatch := h.latch _ (.inr ⟨index, hindex, .inr rfl⟩) (.inl hcompleted)
  have hopen := (hzero.cycle hbefore (by simp)).1
  intro device hdevice
  simpa [Bus.stepCycle, hlatch, Bus.silenceIf] using
    Bus.outputsZero_of_zeroOutputs hopen hdevice

namespace LatchOk

theorem withOutcome {index : ℕ} {env : Env} {o : Outcome} (h : LatchOk busCount s)
    (hepochs : EpochsOk s) (hzero : ZeroOk s) (hindex : index < busCount)
    (hkept : LatchKept busCount s (.worker index env))
    (hstep : (s.bus index).step (config index) s.latch env = some o) :
    LatchOk busCount (s.withOutcome index o) := by
  refine ⟨fun epoch hlog => ?_, fun epoch hlive hfaulted => ?_, fun i hpc hchecked => ?_⟩
  · rcases faultCompleted_withOutcome hlog with hevent | hlog
    · obtain ⟨hpast, rfl⟩ := pastStore_of_completed hstep hevent
      exact hepochs.loaded index (pastLoad_of_pastStore hpast)
    · exact h.mem epoch hlog
  · have hlive := live_withOutcome hstep hlive
    show o.latch = epoch
    rcases faulted_withOutcome hindex hstep hfaulted with hlatch | hfaulted
    · exact hlatch
    have hlatch := h.latch epoch hlive hfaulted
    have hne := hepochs.ne_zero epoch (h.mem_of_faulted hepochs hfaulted)
    rcases (Bus.step_frame hstep).latch with heq | ⟨heq, next, hpc⟩
    · exact heq.trans hlatch
    · rw [heq]
      rcases (latchKept_elim hkept hpc).1 with hsame | hunset | hdead
      · exact hsame.symm.trans hlatch
      · exact absurd (hlatch.symm.trans hunset) hne
      · exact absurd (hlatch ▸ hlive) hdead
  · by_cases hi : i = index
    · subst hi
      simp only [State.withOutcome, Function.update_self] at hpc ⊢
      exact allZero_of_checkLatch h hindex (hzero.images i) hstep hpc hchecked
    · rw [checkedAfterFault_withOutcome hi] at hchecked
      simp only [State.withOutcome, Function.update_of_ne hi] at hpc ⊢
      exact h.sent i hpc hchecked

/-- A new epoch of the gate has not been faulted in. -/
theorem withGate {next : SafetyGate} (h : LatchOk busCount s) (hepochs : EpochsOk s)
    (pc : DaemonPc) (hfresh : next.epoch = s.gate.epoch ∨ next.epoch ∉ s.epochs) :
    LatchOk busCount { s.withGate next with daemon := pc } := by
  refine ⟨fun epoch hlog => mem_epochs_withGate (h.mem epoch hlog),
    fun epoch hlive hfaulted => ?_, h.sent⟩
  have hfaulted : Faulted busCount s epoch := hfaulted
  refine h.latch epoch (hlive.imp_left fun hepoch => ?_) hfaulted
  rcases hfresh with hsame | hnot
  · exact hepoch.trans hsame
  · exact absurd (hepoch ▸ h.mem_of_faulted hepochs hfaulted) hnot

/-- A call publishes no fault and gives a bus only the gate's epoch. -/
theorem withBus {index : ℕ} {bus : Bus} (h : LatchOk busCount s) (hepochs : EpochsOk s)
    (pc : DaemonPc) (hframe : CallFrame s.gate.epoch (s.bus index) bus) :
    LatchOk busCount { s.withBus index bus with daemon := pc } := by
  refine ⟨fun epoch hlog => h.mem epoch (faultCompleted_withBus.symm.trans hlog),
    fun epoch hlive hfaulted => ?_, fun i hpc hchecked => ?_⟩
  · have hfaulted : Faulted busCount s epoch := by
      refine hfaulted.imp (fun hlog => faultCompleted_withBus.symm.trans hlog)
        fun ⟨i, hi, hpast, hepoch⟩ => ⟨i, hi, ?_⟩
      by_cases hindex : i = index
      · subst hindex
        simp only [State.withBus, Function.update_self] at hpast hepoch
        rcases hframe.worker with ⟨hpc, hlocals⟩ | ⟨hpc, -⟩
        · exact ⟨hpc ▸ hpast, hlocals ▸ hepoch⟩
        · rw [hpc] at hpast
          cases hpast
      · simp only [State.withBus, Function.update_of_ne hindex] at hpast hepoch
        exact ⟨hpast, hepoch⟩
    have hne := hepochs.ne_zero epoch (h.mem_of_faulted hepochs hfaulted)
    refine h.latch epoch ?_ hfaulted
    rcases hlive with hgate | ⟨i, hi, hbus⟩
    · exact .inl hgate
    by_cases hindex : i = index
    · subst hindex
      simp only [State.withBus, Function.update_self] at hbus
      rcases hbus with hsafety | hobserved
      · rcases hframe.safetyEpoch with hsame | hgate
        · exact .inr ⟨i, hi, .inl (hsame.symm.trans hsafety)⟩
        · exact .inl (hsafety.symm.trans hgate)
      · rcases hframe.observed with hsame | hunset
        · exact .inr ⟨i, hi, .inr (hsame.symm.trans hobserved)⟩
        · exact absurd (hobserved.symm.trans hunset) hne
    · simp only [State.withBus, Function.update_of_ne hindex] at hbus
      exact .inr ⟨i, hi, hbus⟩
  · have hlast : checkedAfterFault i s.log = true :=
      checkedAfterFault_withBus.symm.trans hchecked
    by_cases hi : i = index
    · subst hi
      simp only [State.withBus, Function.update_self] at hpc ⊢
      obtain ⟨hio, htopology, -⟩ := hframe.images
      rcases hframe.worker with ⟨hsame, -⟩ | ⟨hrun, -⟩
      · have hzero := h.sent i (hsame ▸ hpc) hlast
        unfold Bus.AllZero at hzero ⊢
        rw [hio, htopology]
        exact hzero
      · rw [hrun] at hpc
        cases hpc
    · simp only [State.withBus, Function.update_of_ne hi] at hpc ⊢
      exact h.sent i hpc hlast

/-- **The latch keeps the faulted epoch.** -/
theorem step {label : Label} (h : LatchOk busCount s) (hepoch : EpochInv s) (hzero : ZeroOk s)
    (hfresh : EpochFresh busCount config s label) (hkept : LatchKept busCount s label)
    (hstep : AllBuses.step busCount config s label = some t) : LatchOk busCount t := by
  have hfresh := epochFresh_elim hfresh hstep
  cases step_effect hstep with
  | worker index env o lt mover moved eq =>
    subst mover
    exact eq ▸ h.withOutcome hepoch.epochs hzero lt hkept moved
  | gate next eq =>
    rw [eq] at hfresh ⊢
    exact h.withGate hepoch.epochs _ hfresh
  | call index pc bus status calling moved eq =>
    rw [eq]
    exact h.withBus hepoch.epochs _
      (callFrame_step (hepoch.daemon.call index pc calling) moved).1
  | silent eq =>
    rw [eq]
    exact ⟨h.mem, h.latch, h.sent⟩

end LatchOk

/-! ### The enable under way -/

/-- While an enable is under way the latch does not hold the gate's epoch. -/
structure EnablingOk (s : State) : Prop where
  checking : ∀ request index verified pc, s.daemon = .check request index verified pc →
    request.enabled = true → s.latch ≠ s.gate.epoch
  answering : ∀ request, s.daemon.answer = some (request, .ok) → request.enabled = true →
    request.epoch = s.gate.epoch ∧ s.latch ≠ s.gate.epoch

theorem enabling_of_answer {pc : DaemonPc} {request : EnableRequest}
    (h : pc.answer = some (request, .ok)) (henabled : request.enabled = true) :
    pc.enabling = true := by
  cases pc <;> simp_all [DaemonPc.enabling, DaemonPc.answer]

namespace EnablingOk

theorem outside
    (hcheck : ∀ request index verified pc, s.daemon ≠ .check request index verified pc)
    (hanswer : s.daemon.answer = none) : EnablingOk s :=
  ⟨fun _ _ _ _ h => absurd h (hcheck _ _ _ _), by simp [hanswer]⟩

/-- The daemon thread moves on with the same answer. -/
theorem sameAnswer (h : EnablingOk s)
    (hcheck : ∀ request index verified pc, t.daemon ≠ .check request index verified pc)
    (hanswer : t.daemon.answer = s.daemon.answer) (hlatch : t.latch = s.latch)
    (hgate : t.gate = s.gate) : EnablingOk t := by
  refine ⟨fun _ _ _ _ heq => absurd heq (hcheck _ _ _ _), fun request hok henabled => ?_⟩
  rw [hlatch, hgate]
  exact h.answering request (hanswer.symm.trans hok) henabled

/-- An enable answered Ok names the gate's epoch, which stays. -/
theorem decideEnable {request : EnableRequest} {healthy : Bool} {now : TimePoint}
    (h : request.enabled = true → healthy = true → s.latch ≠ s.gate.epoch) :
    EnablingOk (s.decideEnable request healthy now) := by
  refine ⟨by simp [State.decideEnable], fun request' hanswer henabled => ?_⟩
  obtain ⟨rfl, hok⟩ : request = request' ∧ (s.gate.setOutputEnabled request.client
      request.epoch request.enabled healthy now).1.status = .ok := by
    simpa [DaemonPc.answer, State.decideEnable] using hanswer
  rw [henabled] at hok
  obtain ⟨hepoch, hhealthy, hkept⟩ := setOutputEnabled_ok_epoch hok
  have hgate : (s.decideEnable request healthy now).gate.epoch = s.gate.epoch := by
    simpa [State.decideEnable, State.withGate, henabled] using hkept
  rw [hgate]
  exact ⟨hepoch, h henabled hhealthy⟩

/-- No fault in the gate's epoch arrives while an enable is under way. -/
theorem withOutcome {index : ℕ} {env : Env} {o : Outcome} (h : EnablingOk s)
    (hkept : LatchKept busCount s (.worker index env))
    (hstep : (s.bus index).step (config index) s.latch env = some o) :
    EnablingOk (s.withOutcome index o) := by
  have hlatch : s.daemon.enabling = true → s.latch ≠ s.gate.epoch →
      o.latch ≠ s.gate.epoch := by
    intro henabling hne
    rcases (Bus.step_frame hstep).latch with heq | ⟨heq, next, hpc⟩ <;> rw [heq]
    · exact hne
    · exact (latchKept_elim hkept hpc).2 henabling
  refine ⟨fun request i verified pc hcheck henabled => ?_, fun request hanswer henabled => ?_⟩
  · have hcheck : s.daemon = .check request i verified pc := hcheck
    refine hlatch ?_ (h.checking _ _ _ _ hcheck henabled)
    simpa [hcheck, DaemonPc.enabling] using henabled
  · obtain ⟨hepoch, hne⟩ := h.answering request hanswer henabled
    exact ⟨hepoch, hlatch (enabling_of_answer hanswer henabled) hne⟩

theorem stepCheck {request : EnableRequest} {index : ℕ} {verified : Bool}
    {input : DaemonInput} {pc : CheckPc} (h : EnablingOk s)
    (hdaemon : s.daemon = .check request index verified pc)
    (hstep : AllBuses.stepCheck busCount config s request index verified input pc = some t) :
    EnablingOk t := by
  have hlatch := h.checking _ _ _ _ hdaemon
  have hcontinue : ∀ {index' verified' pc'},
      EnablingOk { s with daemon := .check request index' verified' pc' } := by
    refine ⟨fun _ _ _ _ heq => ?_, by simp [DaemonPc.answer]⟩
    cases heq
    exact hlatch
  have hdecide : ∀ {healthy}, EnablingOk (s.decideEnable request healthy input.now) :=
    decideEnable fun henabled _ => hlatch henabled
  cases pc with
  | loadState =>
    simp only [AllBuses.stepCheck] at hstep
    split at hstep
    · split at hstep <;> cases hstep
      · exact hcontinue
      · exact hdecide
    · cases hstep
      exact hdecide
  | barrier pc =>
    obtain ⟨⟨bus, status⟩, -, hstep⟩ := Option.map_eq_some_iff.mp hstep
    dsimp only at hstep
    split at hstep <;> subst hstep
    · exact hcontinue
    · exact hcontinue
    · exact hdecide
  | loadClock =>
    simp only [AllBuses.stepCheck] at hstep
    split at hstep <;> cases hstep
    · exact hcontinue
    · exact hdecide
  | loadTopology =>
    cases hstep
    exact hcontinue

/-- **The latch stays clear of the gate's epoch** while an enable is under way. -/
theorem step {label : Label} (h : EnablingOk s) (hkept : LatchKept busCount s label)
    (hstep : AllBuses.step busCount config s label = some t) : EnablingOk t := by
  cases label with
  | worker index env =>
    simp only [AllBuses.step] at hstep
    split at hstep
    · obtain ⟨o, hworker, rfl⟩ := Option.map_eq_some_iff.mp hstep
      exact h.withOutcome hkept hworker
    · cases hstep
  | gate op =>
    obtain ⟨hidle, rfl⟩ := step_gate hstep
    exact .outside (by simp [State.withGate, hidle])
      (by simp [DaemonPc.answer, State.withGate, hidle])
  | apply =>
    simp only [AllBuses.step] at hstep
    split at hstep <;> cases hstep
    exact .outside (by simp) rfl
  | call index call =>
    simp only [AllBuses.step] at hstep
    split at hstep
    · obtain ⟨pc, -, rfl⟩ := Option.map_eq_some_iff.mp hstep
      exact .outside (by simp) rfl
    · cases hstep
  | outputEnable request =>
    simp only [AllBuses.step] at hstep
    split at hstep <;> cases hstep
    exact .outside (by simp) rfl
  | daemon input =>
    simp only [AllBuses.step, stepDaemon] at hstep
    split at hstep
    · cases hstep
    · obtain ⟨⟨bus, status⟩, -, rfl⟩ := Option.map_eq_some_iff.mp hstep
      cases status <;> exact .outside (by simp) rfl
    · rename_i index answer hdaemon
      cases hstep
      refine h.sameAnswer (fun _ _ _ _ hcheck => ?_) ?_ rfl rfl
      · dsimp only at hcheck
        split at hcheck
        · cases hcheck
        · cases answer <;> cases hcheck
      · dsimp only
        rw [hdaemon]
        split
        · rfl
        · exact DaemonPc.answer_afterApply answer
    · rename_i index pc answer hdaemon
      obtain ⟨⟨bus, status⟩, -, rfl⟩ := Option.map_eq_some_iff.mp hstep
      refine h.sameAnswer ?_ ?_ rfl rfl
      · cases status <;> simp
      · rw [hdaemon]
        cases status <;> rfl
    · split at hstep <;> cases hstep
      · exact decideEnable (by simp)
      · rename_i hclear
        refine ⟨fun _ _ _ _ _ _ => ?_, by simp [DaemonPc.answer]⟩
        simp only [Bool.or_eq_true, decide_eq_true_eq, not_or] at hclear
        exact hclear.2
    · exact h.stepCheck ‹_› hstep
    · cases hstep
      exact .outside (by simp) rfl

end EnablingOk

/-! ### What a fault stops -/

/-- **A fault silences every bus and stops the enable.**  In every interleaving in
which the gate uses no epoch twice and no store to the latch replaces a live epoch or
names the gate's epoch behind an enable under way: a bus whose last check of the latch
came after a completed fault in the epoch it observes transmits only zeros, and no
enable is answered Ok in an epoch in which a fault has completed. -/
theorem fault_silences_all_buses (busCount : ℕ) (config : ℕ → BusConfig) (gate : SafetyGate)
    (labels : List Label) (s : State)
    (conditions : AllSteps (step busCount config)
      (fun s label => EpochFresh busCount config s label ∧ LatchKept busCount s label)
      (init gate) labels)
    (reached : run (step busCount config) (init gate) labels = some s) :
    (∀ index, (s.bus index).Transmitting → checkedAfterFault index s.log = true →
      (s.bus index).AllZero) ∧
    ∀ request, s.daemon = .acknowledge request .ok → request.enabled = true →
      faultCompleted request.epoch s.log = false := by
  have hinit : EpochInv (init gate) ∧ ZeroOk (init gate) ∧ LatchOk busCount (init gate) ∧
      EnablingOk (init gate) :=
    ⟨epochInv_init gate, ⟨fun _ => trivial, by simp [init], by simp [init]⟩,
      ⟨by simp [init, faultCompleted],
        fun _ _ hfaulted => by simp [init, Faulted, faultCompleted, Pc.pastStore] at hfaulted,
        by simp [init]⟩,
      .outside (by simp [init]) rfl⟩
  obtain ⟨-, hzero, hlatch, henabling⟩ :
      EpochInv s ∧ ZeroOk s ∧ LatchOk busCount s ∧ EnablingOk s := by
    refine run_induction_of_allSteps _
      (P := fun s => EpochInv s ∧ ZeroOk s ∧ LatchOk busCount s ∧ EnablingOk s)
      ?_ hinit conditions reached
    rintro s label next ⟨hepoch, hzero, hlatch, henabling⟩ ⟨hfresh, hkept⟩ hstep
    exact ⟨hepoch.step hfresh hstep, hzero.step hepoch hstep,
      hlatch.step hepoch hzero hfresh hkept hstep, henabling.step hkept hstep⟩
  refine ⟨fun index htransmitting hchecked => ?_, fun request hdaemon henabled => ?_⟩
  · rcases htransmitting with hpc | hpc
    · exact hlatch.sent index hpc hchecked
    · exact ((hzero.images index).cycle hpc (by simp)).2
  · obtain ⟨hepoch, hclear⟩ :=
      henabling.answering request (by rw [hdaemon]; rfl) henabled
    refine Bool.eq_false_iff.mpr fun hcompleted => hclear ?_
    rw [hepoch] at hcompleted
    exact hlatch.latch _ (.inl rfl) (.inl hcompleted)

/-- Two buses run with outputs enabled in epoch 7.  The worker of bus 1 has written a
command to its outputs and is about to look at the latch. -/
def twoBusesRun : List Label :=
  startBus 0 ++ startBus 1 ++ workerSteps 0 30 2 ++ workerSteps 1 30 2 ++ grantController 2 ++
    .outputEnable ⟨1, 7, true⟩ :: daemonSteps 24 ++
    .call 1 (.queueOutput 1
      { epoch := 7, subDeviceIndex := 1, acceptedMonotonicUs := 900, data := [5] }) ::
    daemonSteps 4 ++ workerSteps 1 15 2

/-- Bus 0 loses three frames and completes its `RaiseFault`, and bus 1 looks. -/
def faultRun : List Label := twoBusesRun ++ workerSteps 0 65 0 ++ workerSteps 1 1 2

/-- Bus 1 finds the fault of bus 0 and transmits zeros. -/
theorem faultRun_silences :
    ∃ s, run (step 2 fun _ => oneByteConfig) (init (.new 7 100 100)) faultRun = some s ∧
      (s.bus 1).Transmitting ∧ checkedAfterFault 1 s.log = true ∧ (s.bus 1).AllZero := by
  have hview : (run (step 2 fun _ => oneByteConfig) (init (.new 7 100 100)) faultRun).map
      (fun s => ((s.bus 1).pc, checkedAfterFault 1 s.log)) = some (.cycle .send, true) := by
    decide +kernel
  obtain ⟨s, hrun, hs⟩ := Option.map_eq_some_iff.mp hview
  simp only [Prod.mk.injEq] at hs
  exact ⟨s, hrun, .inl hs.1, hs.2, (fault_silences_all_buses 2 (fun _ => oneByteConfig)
    (.new 7 100 100) faultRun s (by decide +kernel) hrun).1 1 (.inl hs.1) hs.2⟩

/-- Bus 0 completes a `RaiseFault` in epoch 7 and goes on to reinitialize.  The daemon
thread advances to epoch 8 and has given it to bus 0 only, when bus 0 raises its next
fault, in epoch 8.  Then bus 1 looks. -/
def overwrittenLatchRun : List Label :=
  twoBusesRun ++ workerSteps 0 71 0 ++ .gate .invalidate :: .apply :: daemonSteps 2 ++
    workerSteps 0 3 0 ++ workerSteps 1 1 2

/-- **The latch forgets.**  Bus 1 looks at the latch in epoch 7 after the fault in
epoch 7 has completed, finds epoch 8 there, and transmits its command. -/
theorem overwrittenLatchRun_transmits :
    ∃ s, run (step 2 fun _ => oneByteConfig) (init (.new 7 100 100)) overwrittenLatchRun =
        some s ∧
      (s.bus 1).Transmitting ∧ (s.bus 1).observedSafetyEpoch = 7 ∧
      checkedAfterFault 1 s.log = true ∧ ¬(s.bus 1).AllZero := by
  have hview : (run (step 2 fun _ => oneByteConfig) (init (.new 7 100 100))
      overwrittenLatchRun).map (fun s => ((s.bus 1).pc, (s.bus 1).observedSafetyEpoch,
        checkedAfterFault 1 s.log,
        allOutputsZero (s.bus 1).ioMap (s.bus 1).topology.devices)) =
      some (.cycle .send, 7, true, false) := by
    decide +kernel
  obtain ⟨s, hrun, hs⟩ := Option.map_eq_some_iff.mp hview
  simp only [Prod.mk.injEq] at hs
  obtain ⟨hpc, hobserved, hchecked, hnonzero⟩ := hs
  refine ⟨s, hrun, .inl hpc, hobserved, hchecked, fun hzero => ?_⟩
  rw [allOutputsZero_eq_true.mpr hzero] at hnonzero
  cases hnonzero

end AllBuses

end EcSystemCore
