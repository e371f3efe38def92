import EcSystemCore.Bus.AllBuses
import EcSystemCore.Bus.WorkerBarrier

/-!
# Epochs across all buses

As long as the gate uses no epoch twice, a bus that holds the current epoch
anywhere has it as its `safetyEpoch_`: the daemon thread hands an epoch out before a
worker can observe, apply or fault in it (`EpochsOk`).  The effect of a step on the
buses, the gate and the log is one of four (`Effect`), and every invariant of the
system is proved against these.
-/

namespace EcSystemCore

open Execution

namespace AllBuses

variable {busCount : ℕ} {config : ℕ → BusConfig} {s t : State}

/-! ### What a call does to a bus -/

/-- What a call in progress knows: its epoch is the gate's, and from the store of
`Start` on the bus has it. -/
def CallOk (epoch : UInt64) (bus : Bus) : CallPc → Prop
  | .startStoreLink _ e | .startStoreEpoch e | .safetyExchange e _ | .barrierLoadState e
  | .barrierLoadApplied e => e = epoch
  | .stopRevoke restart | .stopStoreRunning restart | .stopJoin restart =>
    ∀ linkUp e, restart = some (linkUp, e) → e = epoch
  | .startStoreApplied | .startRevoke | .startRun => bus.safetyEpoch = epoch
  | _ => True

/-- The frame of a call: it moves a bus only to the gate's epoch, and a worker only
by starting it. -/
structure CallFrame (epoch : UInt64) (bus next : Bus) : Prop where
  safetyEpoch : next.safetyEpoch = bus.safetyEpoch ∨ next.safetyEpoch = epoch
  observed : next.observedSafetyEpoch = bus.observedSafetyEpoch ∨ next.observedSafetyEpoch = 0
  applied : next.safetyEpochApplied = bus.safetyEpochApplied ∨ next.safetyEpochApplied = 0
  worker : (next.pc = bus.pc ∧ next.locals = bus.locals) ∨
    (next.pc = .run .checkRunning ∧ next.safetyEpoch = epoch)
  images : next.ioMap = bus.ioMap ∧ next.topology = bus.topology ∧
    next.contextOpen = bus.contextOpen

theorem CallFrame.refl (epoch : UInt64) (bus : Bus) : CallFrame epoch bus bus :=
  ⟨.inl rfl, .inl rfl, .inl rfl, .inl ⟨rfl, rfl⟩, rfl, rfl, rfl⟩

theorem callFrame_step {latch epoch : UInt64} {bus next : Bus} {pc : CallPc}
    {status : CallPc.Status} (h : CallOk epoch bus pc)
    (hstep : pc.step latch bus = some (next, status)) :
    CallFrame epoch bus next ∧ ∀ pc', status = .running pc' → CallOk epoch next pc' := by
  cases pc with
  | stopJoin restart =>
    simp only [CallPc.step] at hstep
    split at hstep
    · cases hstep
      refine ⟨.refl _ _, fun pc' hrunning => ?_⟩
      split at hrunning
      · cases hrunning
      · cases hrunning
        exact h _ _ rfl
    · cases hstep
  | barrierLoadState e =>
    simp only [CallPc.step] at hstep
    cases hstep
    refine ⟨.refl _ _, fun pc' hrunning => ?_⟩
    split at hrunning
    · cases hrunning
      exact h
    · cases hrunning
  | safetyLoadFaulted e permitted =>
    cases hstep
    refine ⟨.refl _ _, fun pc' hrunning => ?_⟩
    split at hrunning <;> cases hrunning <;> trivial
  | pushLoadRead command write =>
    cases hstep
    refine ⟨.refl _ _, fun pc' hrunning => ?_⟩
    split at hrunning <;> cases hrunning
    trivial
  | startStoreEpoch e =>
    cases hstep
    refine ⟨⟨.inr h, .inl rfl, .inl rfl, .inl ⟨rfl, rfl⟩, rfl, rfl, rfl⟩,
      fun pc' hrunning => ?_⟩
    cases hrunning
    exact h
  | safetyExchange e permitted =>
    cases hstep
    refine ⟨⟨.inr h, .inl rfl, .inl rfl, .inl ⟨rfl, rfl⟩, rfl, rfl, rfl⟩,
      fun pc' hrunning => ?_⟩
    cases hrunning
    trivial
  | startStoreApplied =>
    cases hstep
    refine ⟨⟨.inl rfl, .inr rfl, .inr rfl, .inl ⟨rfl, rfl⟩, rfl, rfl, rfl⟩,
      fun pc' hrunning => ?_⟩
    cases hrunning
    exact h
  | startRun =>
    cases hstep
    exact ⟨⟨.inl rfl, .inl rfl, .inl rfl, .inr ⟨rfl, h⟩, rfl, rfl, rfl⟩,
      fun _ hrunning => nomatch hrunning⟩
  | _ =>
    cases hstep
    refine ⟨⟨.inl rfl, .inl rfl, .inl rfl, .inl ⟨rfl, rfl⟩, rfl, rfl, rfl⟩,
      fun pc' hrunning => ?_⟩
    cases hrunning <;> exact h

/-! ### The effect of a step -/

/-- The daemon thread is inside a call on a bus. -/
def State.Calling (s : State) (index : ℕ) (pc : CallPc) : Prop :=
  s.daemon = .call index pc ∨ ∃ answer, s.daemon = .setSafety index pc answer

/-- What a step does to everything but the daemon thread's position. -/
inductive Effect (busCount : ℕ) (config : ℕ → BusConfig) (s : State) (label : Label)
    (t : State) : Prop
  | worker (index : ℕ) (env : Env) (o : Outcome) (lt : index < busCount)
      (mover : label = .worker index env)
      (moved : (s.bus index).step (config index) s.latch env = some o)
      (eq : t = s.withOutcome index o)
  | gate (next : SafetyGate) (eq : t = { s.withGate next with daemon := t.daemon })
  | call (index : ℕ) (pc : CallPc) (bus : Bus) (status : CallPc.Status)
      (calling : s.Calling index pc) (moved : pc.step s.latch (s.bus index) = some (bus, status))
      (eq : t = { s.withBus index bus with daemon := t.daemon })
  | silent (eq : t = { s with daemon := t.daemon })

theorem effect_decideEnable {label : Label} (request : EnableRequest) (healthy : Bool)
    (now : TimePoint) (h : some (s.decideEnable request healthy now) = some t) :
    Effect busCount config s label t := by
  cases h
  exact .gate _ rfl

theorem effect_stepCheck {label : Label} {request : EnableRequest} {index : ℕ} {verified : Bool}
    {input : DaemonInput} {pc : CheckPc}
    (h : stepCheck busCount config s request index verified input pc = some t) :
    Effect busCount config s label t := by
  cases pc with
  | loadState =>
    simp only [stepCheck] at h
    split at h
    · split at h
      · cases h
        exact .silent rfl
      · exact effect_decideEnable _ _ _ h
    · exact effect_decideEnable _ _ _ h
  | barrier pc =>
    obtain ⟨⟨bus, status⟩, -, h⟩ := Option.map_eq_some_iff.mp h
    dsimp only at h
    split at h
    · subst h
      exact .silent rfl
    · subst h
      exact .silent rfl
    · subst h
      exact .gate _ rfl
  | loadClock =>
    simp only [stepCheck] at h
    split at h
    · cases h
      exact .silent rfl
    · exact effect_decideEnable _ _ _ h
  | loadTopology =>
    cases h
    exact .silent rfl

theorem step_gate {op : GateOp} (h : step busCount config s (.gate op) = some t) :
    s.daemon = .idle ∧ t = s.withGate (s.gate.react op).2 := by
  cases op with
  | setOutputEnabled => cases h
  | _ =>
    simp only [step] at h
    split at h
    · cases h
      exact ⟨‹_›, rfl⟩
    · cases h

/-- **The effect of a step.** -/
theorem step_effect {label : Label} (h : step busCount config s label = some t) :
    Effect busCount config s label t := by
  cases label with
  | worker index env =>
    simp only [step] at h
    split at h
    · obtain ⟨o, hstep, rfl⟩ := Option.map_eq_some_iff.mp h
      exact .worker index env o ‹_› rfl hstep rfl
    · cases h
  | gate op =>
    obtain ⟨-, rfl⟩ := step_gate h
    exact .gate _ rfl
  | apply =>
    simp only [step] at h
    split at h <;> cases h
    exact .silent rfl
  | call index call =>
    simp only [step] at h
    split at h
    · obtain ⟨pc, -, rfl⟩ := Option.map_eq_some_iff.mp h
      exact .silent rfl
    · cases h
  | outputEnable request =>
    simp only [step] at h
    split at h <;> cases h
    exact .silent rfl
  | daemon input =>
    simp only [step, stepDaemon] at h
    split at h
    · cases h
    · obtain ⟨⟨bus, status⟩, hstep, rfl⟩ := Option.map_eq_some_iff.mp h
      exact .call _ _ _ _ (.inl ‹_›) hstep rfl
    · cases h
      exact .silent rfl
    · obtain ⟨⟨bus, status⟩, hstep, rfl⟩ := Option.map_eq_some_iff.mp h
      exact .call _ _ _ _ (.inr ⟨_, ‹_›⟩) hstep rfl
    · split at h
      · exact effect_decideEnable _ _ _ h
      · cases h
        exact .silent rfl
    · exact effect_stepCheck h
    · cases h
      exact .silent rfl

/-! ### The epochs a bus holds -/

/-- A bus that holds the gate's epoch has it as its `safetyEpoch_`. -/
def Held (s : State) (index : ℕ) (epoch : UInt64) : Prop :=
  epoch = 0 ∨ epoch ∈ s.epochs ∧
    (epoch = s.gate.epoch → (s.bus index).safetyEpoch = s.gate.epoch)

/-- Every epoch a bus holds came from the gate, by way of its `safetyEpoch_`. -/
structure EpochsOk (s : State) : Prop where
  ne_zero : ∀ epoch ∈ s.epochs, epoch ≠ 0
  current : s.gate.epoch ∈ s.epochs
  observed : ∀ index, Held s index (s.bus index).observedSafetyEpoch
  applied : ∀ index, Held s index (s.bus index).safetyEpochApplied
  running : ∀ index, (s.bus index).pc ≠ .joined → (s.bus index).safetyEpoch ∈ s.epochs
  loaded : ∀ index, (s.bus index).pc.pastLoad = true →
    (s.bus index).locals.faultEpoch ∈ s.epochs

/-- The daemon thread's calls work with the gate's epoch. -/
structure DaemonOk (s : State) : Prop where
  call : ∀ index pc, s.Calling index pc → CallOk s.gate.epoch (s.bus index) pc
  barrier : ∀ request index verified pc,
    s.daemon = .check request index verified (.barrier pc) →
      pc = .barrierLoadState s.gate.epoch ∨ pc = .barrierLoadApplied s.gate.epoch

/-- The step does not bring an epoch of the gate back. -/
def EpochFresh (busCount : ℕ) (config : ℕ → BusConfig) (s : State) (label : Label) : Prop :=
  ((step busCount config s label).all fun t =>
    t.gate.epoch = s.gate.epoch || t.gate.epoch ∉ s.epochs) = true

instance (label : Label) : Decidable (EpochFresh busCount config s label) :=
  inferInstanceAs (Decidable (_ = _))

theorem epochFresh_elim {label : Label} (hfresh : EpochFresh busCount config s label)
    (h : step busCount config s label = some t) :
    t.gate.epoch = s.gate.epoch ∨ t.gate.epoch ∉ s.epochs := by
  simpa [EpochFresh, h] using hfresh

/-- What a bus holds survives as long as its `safetyEpoch_` stays or becomes the
gate's. -/
theorem Held.mono {index : ℕ} {epoch : UInt64} (h : Held s index epoch)
    (hepochs : t.epochs = s.epochs) (hgate : t.gate.epoch = s.gate.epoch)
    (hbus : (t.bus index).safetyEpoch = (s.bus index).safetyEpoch ∨
      (t.bus index).safetyEpoch = s.gate.epoch) : Held t index epoch := by
  refine h.imp_right fun ⟨hmem, hcurrent⟩ => ⟨hepochs ▸ hmem, fun heq => ?_⟩
  rw [hgate] at heq ⊢
  exact hbus.elim (fun hsame => hsame.trans (hcurrent heq)) id

/-- A step of the gate to an epoch it never had leaves every bus without it. -/
theorem Held.withGate {index : ℕ} {epoch : UInt64} {next : SafetyGate} {pc : DaemonPc}
    (h : Held s index epoch)
    (hfresh : next.epoch = s.gate.epoch ∨ next.epoch ∉ s.epochs) :
    Held { s.withGate next with daemon := pc } index epoch := by
  by_cases hsame : next.epoch = s.gate.epoch
  · exact h.mono (by simp [State.withGate, hsame]) hsame (.inl rfl)
  · have hnot := hfresh.resolve_left hsame
    refine h.imp_right fun ⟨hmem, _⟩ => ⟨?_, fun heq => absurd (heq ▸ hmem) hnot⟩
    simp [State.withGate, hsame, hmem]

theorem mem_epochs_withGate {next : SafetyGate} {epoch : UInt64} (h : epoch ∈ s.epochs) :
    epoch ∈ (s.withGate next).epochs := by
  unfold State.withGate
  dsimp only
  split
  · exact h
  · exact List.mem_cons_of_mem _ h

/-- Workers leave `safetyEpoch_` alone. -/
theorem safetyEpoch_withOutcome {index : ℕ} {env : Env} {o : Outcome}
    (hstep : (s.bus index).step (config index) s.latch env = some o) (i : ℕ) :
    ((s.withOutcome index o).bus i).safetyEpoch = (s.bus i).safetyEpoch := by
  by_cases hi : i = index
  · subst hi
    simpa [State.withOutcome] using (Bus.step_frame hstep).safetyEpoch
  · simp [State.withOutcome, hi]

namespace EpochsOk

/-- A step of a worker. -/
theorem withOutcome (h : EpochsOk s) {index : ℕ} {env : Env} {o : Outcome}
    (hstep : (s.bus index).step (config index) s.latch env = some o) :
    EpochsOk (s.withOutcome index o) := by
  have hframe := Bus.step_frame hstep
  have hfault := Bus.step_faultFrame hstep
  have hrunning : (s.bus index).safetyEpoch ∈ s.epochs := by
    refine h.running index fun hpc => ?_
    simp [Bus.step, hpc] at hstep
  have hkeep := safetyEpoch_withOutcome hstep
  have hmono : ∀ {i epoch}, Held s i epoch → Held (s.withOutcome index o) i epoch :=
    fun hheld => hheld.mono rfl rfl (.inl (hkeep _))
  have hcurrent : Held s index (s.bus index).safetyEpoch := .inr ⟨hrunning, id⟩
  refine ⟨h.ne_zero, h.current, fun i => hmono ?_, fun i => hmono ?_, fun i hpc => ?_,
    fun i hpc => ?_⟩
  all_goals by_cases hi : i = index
  · subst hi
    simp only [State.withOutcome, Function.update_self]
    rcases hframe.observed with heq | ⟨heq, -⟩ <;> rw [heq]
    · exact h.observed i
    · exact hcurrent
  · simpa [State.withOutcome, hi] using h.observed i
  · subst hi
    simp only [State.withOutcome, Function.update_self]
    rcases hframe.applied with heq | ⟨heq, -⟩ <;> rw [heq]
    · exact h.applied i
    · exact h.observed i
  · simpa [State.withOutcome, hi] using h.applied i
  · subst hi
    rw [hkeep]
    exact hrunning
  · rw [hkeep]
    exact h.running i (by simpa [State.withOutcome, hi] using hpc)
  · subst hi
    simp only [State.withOutcome, Function.update_self] at hpc ⊢
    rcases hfault.loaded hpc with heq | ⟨hpast, heq⟩ <;> rw [heq]
    · exact hrunning
    · exact h.loaded i hpast
  · simpa [State.withOutcome, hi] using h.loaded i (by simpa [State.withOutcome, hi] using hpc)

/-- A step of the gate. -/
theorem withGate (h : EpochsOk s) {next : SafetyGate} (pc : DaemonPc)
    (hfresh : next.epoch = s.gate.epoch ∨ next.epoch ∉ s.epochs) :
    EpochsOk { s.withGate next with daemon := pc } := by
  refine ⟨fun epoch hmem => ?_, ?_, fun i => (h.observed i).withGate hfresh,
    fun i => (h.applied i).withGate hfresh, fun i hpc => mem_epochs_withGate (h.running i hpc),
    fun i hpc => mem_epochs_withGate (h.loaded i hpc)⟩
  · simp only [State.withGate] at hmem
    split at hmem
    · exact h.ne_zero epoch hmem
    · rcases List.mem_cons.mp hmem with rfl | hmem
      · exact next.epoch_ne_zero
      · exact h.ne_zero epoch hmem
  · show next.epoch ∈ (s.withGate next).epochs
    unfold State.withGate
    dsimp only
    split
    · rename_i hsame
      exact hsame ▸ h.current
    · exact List.mem_cons_self

/-- A step of a call. -/
theorem withBus (h : EpochsOk s) {index : ℕ} {bus : Bus} (pc : DaemonPc)
    (hframe : CallFrame s.gate.epoch (s.bus index) bus) :
    EpochsOk { s.withBus index bus with daemon := pc } := by
  have hbus : ∀ i, ((s.withBus index bus).bus i).safetyEpoch = (s.bus i).safetyEpoch ∨
      ((s.withBus index bus).bus i).safetyEpoch = s.gate.epoch := by
    intro i
    by_cases hi : i = index
    · subst hi
      simpa [State.withBus] using hframe.safetyEpoch
    · simp [State.withBus, hi]
  have hmono : ∀ {i epoch}, Held s i epoch →
      Held { s.withBus index bus with daemon := pc } i epoch :=
    fun hheld => hheld.mono rfl rfl (hbus _)
  refine ⟨h.ne_zero, h.current, fun i => ?_, fun i => ?_, fun i hpc => ?_, fun i hpc => ?_⟩
  all_goals by_cases hi : i = index
  · subst hi
    simp only [State.withBus, Function.update_self]
    rcases hframe.observed with heq | heq <;> rw [heq]
    · exact hmono (h.observed i)
    · exact .inl rfl
  · simpa [State.withBus, hi] using hmono (h.observed i)
  · subst hi
    simp only [State.withBus, Function.update_self]
    rcases hframe.applied with heq | heq <;> rw [heq]
    · exact hmono (h.applied i)
    · exact .inl rfl
  · simpa [State.withBus, hi] using hmono (h.applied i)
  · subst hi
    simp only [State.withBus, Function.update_self] at hpc ⊢
    rcases hframe.worker with ⟨hsame, -⟩ | ⟨-, heq⟩
    · rcases hframe.safetyEpoch with heq | heq <;> rw [heq]
      · exact h.running i (hsame ▸ hpc)
      · exact h.current
    · exact heq ▸ h.current
  · simpa [State.withBus, hi] using h.running i (by simpa [State.withBus, hi] using hpc)
  · subst hi
    simp only [State.withBus, Function.update_self] at hpc ⊢
    rcases hframe.worker with ⟨hsame, hlocals⟩ | ⟨hrun, -⟩
    · rw [hlocals]
      exact h.loaded i (hsame ▸ hpc)
    · rw [hrun] at hpc
      cases hpc
  · simpa [State.withBus, hi] using h.loaded i (by simpa [State.withBus, hi] using hpc)

theorem silent (h : EpochsOk s) (pc : DaemonPc) : EpochsOk { s with daemon := pc } :=
  ⟨h.ne_zero, h.current, h.observed, h.applied, h.running, h.loaded⟩

end EpochsOk

/-! ### The daemon thread's call -/

theorem CallOk.congr {epoch : UInt64} {bus next : Bus} {pc : CallPc} (h : CallOk epoch bus pc)
    (heq : next.safetyEpoch = bus.safetyEpoch) : CallOk epoch next pc := by
  cases pc <;> first | exact h | exact heq.trans h

/-- Nothing is asked of a daemon thread outside its calls. -/
theorem DaemonOk.outside (hcall : ∀ index pc, ¬s.Calling index pc)
    (hcheck : ∀ request index verified pc,
      s.daemon ≠ .check request index verified (.barrier pc)) : DaemonOk s :=
  ⟨fun index pc h => absurd h (hcall index pc),
    fun request index verified pc h => absurd h (hcheck request index verified pc)⟩

theorem daemonOk_stepCheck {request : EnableRequest} {index : ℕ} {verified : Bool}
    {input : DaemonInput} {pc : CheckPc} (hdaemon : s.daemon = .check request index verified pc)
    (h : DaemonOk s)
    (hstep : stepCheck busCount config s request index verified input pc = some t) :
    DaemonOk t := by
  have houtside : ∀ {u : State} {answer}, u.daemon = .apply 0 answer → DaemonOk u :=
    fun hu => .outside (by simp [State.Calling, hu]) (by simp [hu])
  cases pc with
  | loadState =>
    simp only [stepCheck] at hstep
    split at hstep
    · split at hstep <;> cases hstep
      · refine ⟨by simp [State.Calling], fun _ _ _ pc heq => ?_⟩
        cases heq
        exact .inl rfl
      · exact houtside rfl
    · cases hstep
      exact houtside rfl
  | barrier pc =>
    obtain ⟨⟨bus, status⟩, hcall, hstep⟩ := Option.map_eq_some_iff.mp hstep
    have hbarrier := h.barrier _ _ _ _ hdaemon
    dsimp only at hstep
    split at hstep <;> subst hstep
    · refine ⟨by simp [State.Calling], fun _ _ _ pc' heq => ?_⟩
      cases heq
      rcases hbarrier with rfl | rfl
      · simp only [CallPc.step, Option.some.injEq, Prod.mk.injEq] at hcall
        split at hcall <;> simp_all
      · simp [CallPc.step] at hcall
    · exact .outside (by simp [State.Calling]) (by simp)
    · exact houtside rfl
  | loadClock =>
    simp only [stepCheck] at hstep
    split at hstep <;> cases hstep
    · exact .outside (by simp [State.Calling]) (by simp)
    · exact houtside rfl
  | loadTopology =>
    cases hstep
    exact .outside (by simp [State.Calling]) (by simp)

/-- The daemon thread's calls keep working with the gate's epoch. -/
theorem DaemonOk.step {label : Label} (h : DaemonOk s)
    (hstep : AllBuses.step busCount config s label = some t) : DaemonOk t := by
  cases label with
  | worker index env =>
    simp only [AllBuses.step] at hstep
    split at hstep
    · obtain ⟨o, hworker, rfl⟩ := Option.map_eq_some_iff.mp hstep
      exact ⟨fun i pc hcalling => (h.call i pc hcalling).congr
        (safetyEpoch_withOutcome hworker i), h.barrier⟩
    · cases hstep
  | gate op =>
    obtain ⟨hidle, rfl⟩ := step_gate hstep
    exact .outside (by simp [State.Calling, State.withGate, hidle])
      (by simp [State.withGate, hidle])
  | apply =>
    simp only [AllBuses.step] at hstep
    split at hstep <;> cases hstep
    exact .outside (by simp [State.Calling]) (by simp)
  | call index call =>
    simp only [AllBuses.step] at hstep
    split at hstep
    · obtain ⟨pc, hentry, rfl⟩ := Option.map_eq_some_iff.mp hstep
      refine ⟨fun i pc' hcalling => ?_, by simp⟩
      obtain ⟨rfl, rfl⟩ : index = i ∧ pc = pc' := by simpa [State.Calling] using hcalling
      cases call with
      | start linkUp =>
        obtain rfl := Option.some.inj hentry
        rintro _ _ ⟨⟩
        rfl
      | stop =>
        obtain rfl := Option.some.inj hentry
        rintro _ _ ⟨⟩
      | setLinkUp linkUp =>
        cases linkUp <;> cases hentry <;> exact True.intro
      | queueOutput client command =>
        simp only [BusCall.entry] at hentry
        split at hentry <;> cases hentry
        exact True.intro
    · cases hstep
  | outputEnable request =>
    simp only [AllBuses.step] at hstep
    split at hstep <;> cases hstep
    exact .outside (by simp [State.Calling]) (by simp)
  | daemon input =>
    simp only [AllBuses.step, stepDaemon] at hstep
    split at hstep
    · cases hstep
    · rename_i index pc hdaemon
      obtain ⟨⟨bus, status⟩, hcall, rfl⟩ := Option.map_eq_some_iff.mp hstep
      obtain ⟨-, hnext⟩ := callFrame_step (h.call index pc (.inl hdaemon)) hcall
      cases status with
      | running pc' =>
        refine ⟨fun i pc'' hcalling => ?_, by simp⟩
        obtain ⟨rfl, rfl⟩ : index = i ∧ pc' = pc'' := by
          simpa [State.Calling] using hcalling
        simpa [State.withBus] using hnext _ rfl
      | returned value => exact .outside (by simp [State.Calling]) (by simp)
    · cases hstep
      rename_i index answer hdaemon
      by_cases hlt : index < busCount
      · simp only [hlt, ↓reduceIte]
        refine ⟨fun i pc' hcalling => ?_, by simp⟩
        obtain ⟨rfl, rfl⟩ : index = i ∧ CallPc.setSafety _ _ = pc' := by
          simpa [State.Calling] using hcalling
        exact rfl
      · cases answer <;>
          exact .outside (by simp [State.Calling, hlt, DaemonPc.afterApply])
            (by simp [hlt, DaemonPc.afterApply])
    · rename_i index pc answer hdaemon
      obtain ⟨⟨bus, status⟩, hcall, rfl⟩ := Option.map_eq_some_iff.mp hstep
      obtain ⟨-, hnext⟩ := callFrame_step (h.call index pc (.inr ⟨answer, hdaemon⟩)) hcall
      cases status with
      | running pc' =>
        refine ⟨fun i pc'' hcalling => ?_, by simp⟩
        obtain ⟨rfl, rfl⟩ : index = i ∧ pc' = pc'' := by
          simpa [State.Calling] using hcalling
        simpa [State.withBus] using hnext _ rfl
      | returned value => exact .outside (by simp [State.Calling]) (by simp)
    · split at hstep <;> cases hstep <;>
        exact .outside (by simp [State.Calling, State.decideEnable])
          (by simp [State.decideEnable])
    · exact daemonOk_stepCheck ‹_› h hstep
    · cases hstep
      exact .outside (by simp [State.Calling]) (by simp)

/-- Epochs travel from the gate to the buses. -/
structure EpochInv (s : State) : Prop where
  epochs : EpochsOk s
  daemon : DaemonOk s

theorem epochInv_init (gate : SafetyGate) : EpochInv (init gate) where
  epochs :=
    ⟨by simpa [init] using gate.epoch_ne_zero, by simp [init], fun _ => .inl rfl,
      fun _ => .inl rfl, by simp [init], by simp [init, Pc.pastLoad]⟩
  daemon := .outside (by simp [State.Calling, init]) (by simp [init])

/-- **Epochs travel from the gate to the buses** in every step that brings no epoch
back. -/
theorem EpochInv.step {label : Label} (h : EpochInv s)
    (hfresh : EpochFresh busCount config s label)
    (hstep : AllBuses.step busCount config s label = some t) : EpochInv t := by
  refine ⟨?_, h.daemon.step hstep⟩
  have hfresh := epochFresh_elim hfresh hstep
  cases step_effect hstep with
  | worker index env o lt mover moved eq => exact eq ▸ h.epochs.withOutcome moved
  | gate next eq =>
    rw [eq] at hfresh ⊢
    exact h.epochs.withGate _ hfresh
  | call index pc bus status calling moved eq =>
    rw [eq]
    exact h.epochs.withBus _ (callFrame_step (h.daemon.call index pc calling) moved).1
  | silent eq =>
    rw [eq]
    exact h.epochs.silent _

end AllBuses

end EcSystemCore
