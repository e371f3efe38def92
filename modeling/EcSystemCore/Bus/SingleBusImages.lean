import EcSystemCore.Bus.SingleBusLedger

/-!
# What the worker's outputs are, point by point

The assertion that holds at each point of the worker's program while the daemon
thread interferes.  Every SubDevice's outputs are zero or the image of a queued
command (`Images`); while they may be non-zero the permission is settled
(`Guarded`); and from the freshness check to the transmission every non-zero
image is fresh (`Fresh`).
-/

namespace EcSystemCore

open BitField

namespace SingleBus

variable {config : BusConfig} {s t : State}

/-- Every SubDevice's outputs are zero or the image of a queued command, accepted
at the time the worker noted for the SubDevice.  The command's epoch is the
observed one, except that while commands are being applied (`strict = false`) it
may be a newer one that the worker has yet to observe. -/
def Images (strict : Bool) (s : State) : Prop :=
  ∀ j device, s.bus.topology.devices[j]? = some device →
    OutputsZero s.bus.ioMap device ∨
      ∃ command ∈ s.ledger.pushed, command.subDeviceIndex.toNat = j + 1 ∧
        HasImage s.bus.ioMap device command.data ∧
        s.bus.lastOutputCommandUs (j + 1) = command.acceptedMonotonicUs ∧
        (command.epoch = s.bus.observedSafetyEpoch ∨
          strict = false ∧ s.bus.observedSafetyEpoch < s.bus.safetyEpoch)

/-- Every SubDevice's outputs are zero or were fresh at this cycle's freshness
time. -/
def Fresh (config : BusConfig) (bus : Bus) : Prop :=
  ∀ j device, bus.topology.devices[j]? = some device →
    OutputsZero bus.ioMap device ∨
      ∃ now, bus.locals.freshness = some now ∧
        isStale config.timeoutUs now (bus.lastOutputCommandUs (j + 1)) = false

/-- Outputs are zero unless the permission is settled. -/
def Guarded (s : State) : Prop := s.bus.AllZero ∨ Settled s

/-- The epoch `ApplyOutputCommands` works with is the observed one, or a newer one
has been set since. -/
def LocalEpoch (bus : Bus) : Prop :=
  bus.locals.epoch = bus.observedSafetyEpoch ∨ bus.observedSafetyEpoch < bus.safetyEpoch

/-- The assertion inside `ApplyOutputCommands`. -/
def Applying (s : State) : Prop :=
  Images false s ∧ LocalEpoch s.bus ∧
    ((s.bus.AllZero ∧ s.bus.locals.permitted = false) ∨ Settled s)

/-- The permission is gone for this epoch. -/
def Withdrawn (s : State) : Prop := s.bus.outputsPermitted = false ∧ CannotRise s

/-- The assertion at each point of `RunCyclic`. -/
def CycleAssertion (config : BusConfig) (s : State) : CyclePc → Prop
  | .applyLoadPermitted => Images true s ∧ Guarded s ∧ LocalEpoch s.bus
  | .applyReadClock | .popLoadRead | .popLoadWrite | .popCopy => Applying s
  | .popStoreRead =>
    Applying s ∧ (s.bus.locals.command = default ∨ s.bus.locals.command ∈ s.ledger.pushed)
  | .freshReadClock => Images false s ∧ Guarded s
  | .freshLoadPermitted => Images false s ∧ Guarded s ∧ s.bus.locals.freshness.isSome = true
  | .checkPermitted => Images false s ∧ Guarded s ∧ (Fresh config s.bus ∨ Withdrawn s)
  | .loadTransmitEpoch => Images false s ∧ Guarded s ∧ Fresh config s.bus
  | .recheckPermitted | .checkLatch | .send => Images true s ∧ Guarded s ∧ Fresh config s.bus
  | .faultRevoke | .storeFault => True
  | .faultSend => s.bus.AllZero
  | _ => Images true s ∧ Guarded s

/-- The assertion at each point of the worker's program. -/
def Assertion (config : BusConfig) (s : State) : Prop :=
  match s.bus.pc with
  | .cycle .storeFault => True
  | .cycle pc => s.bus.contextOpen = true ∧ CycleAssertion config s pc
  | .init .checkGroup | .init .storeClock | .init .storeSafe | .init .reachOperational
  | .init .storeOperational => s.bus.contextOpen = true ∧ s.bus.AllZero
  | _ => True

/-! ### Zero outputs satisfy everything -/

theorem Images.of_allZero {strict : Bool} (h : s.bus.AllZero) : Images strict s :=
  fun _ _ hdevice => .inl (h _ (List.mem_of_getElem? hdevice))

theorem Fresh.of_allZero {bus : Bus} (h : bus.AllZero) : Fresh config bus :=
  fun _ _ hdevice => .inl (h _ (List.mem_of_getElem? hdevice))

theorem Images.weaken (h : Images true s) : Images false s := by
  intro j device hdevice
  refine (h j device hdevice).imp_right fun ⟨command, hmem, hindex, himage, hlast, hepoch⟩ =>
    ⟨command, hmem, hindex, himage, hlast, .inl ?_⟩
  simpa using hepoch

/-- Once the current epoch is the observed one, every image belongs to it. -/
theorem Images.strengthen (h : Images false s)
    (hepoch : s.bus.safetyEpoch = s.bus.observedSafetyEpoch) : Images true s := by
  intro j device hdevice
  refine (h j device hdevice).imp_right fun ⟨command, hmem, hindex, himage, hlast, hcommand⟩ =>
    ⟨command, hmem, hindex, himage, hlast, .inl (hcommand.resolve_right ?_)⟩
  rintro ⟨-, hlt⟩
  grind

/-! ### Interference by the daemon thread -/

section Interference

/-- What the assertions need of a step of the daemon thread: it leaves the
worker's own members alone, moves the epoch forward, forgets no command, and keeps
a settled or withdrawn permission so. -/
structure Interferes (s t : State) : Prop where
  bus : t.bus = { s.bus with
    safetyEpoch := t.bus.safetyEpoch
    outputsPermitted := t.bus.outputsPermitted
    linkUp := t.bus.linkUp
    outputCommands := t.bus.outputCommands }
  safetyEpoch_le : s.bus.safetyEpoch ≤ t.bus.safetyEpoch
  pushed : s.ledger.pushed ⊆ t.ledger.pushed
  settled : Settled s → Settled t
  withdrawn : Withdrawn s → Withdrawn t

namespace Interferes

variable (h : Interferes s t)
include h

theorem allZero (hs : s.bus.AllZero) : t.bus.AllZero := by
  rw [h.bus]
  exact hs

theorem fresh (hs : Fresh config s.bus) : Fresh config t.bus := by
  rw [h.bus]
  exact hs

theorem guarded (hs : Guarded s) : Guarded t := Or.imp h.allZero h.settled hs

theorem localEpoch (hs : LocalEpoch s.bus) : LocalEpoch t.bus := by
  have hle := h.safetyEpoch_le
  rw [LocalEpoch, h.bus]
  refine Or.imp_right (fun hlt => ?_) hs
  show s.bus.observedSafetyEpoch < t.bus.safetyEpoch
  grind

theorem images {strict : Bool} (hs : Images strict s) : Images strict t := by
  have hle := h.safetyEpoch_le
  intro j device hdevice
  rw [h.bus] at hdevice ⊢
  refine (hs j device hdevice).imp_right
    fun ⟨command, hmem, hindex, himage, hlast, hepoch⟩ =>
      ⟨command, h.pushed hmem, hindex, himage, hlast, Or.imp_right (fun hlt => ?_) hepoch⟩
  refine ⟨hlt.1, ?_⟩
  have := hlt.2
  show s.bus.observedSafetyEpoch < t.bus.safetyEpoch
  grind

theorem applying (hs : Applying s) : Applying t := by
  refine ⟨h.images hs.1, h.localEpoch hs.2.1, Or.imp (fun hzero => ⟨h.allZero hzero.1, ?_⟩)
    h.settled hs.2.2⟩
  rw [h.bus]
  exact hzero.2

theorem cycleAssertion {pc : CyclePc} (hs : CycleAssertion config s pc) :
    CycleAssertion config t pc := by
  have hlocals : t.bus.locals = s.bus.locals := by rw [h.bus]
  cases pc with
  | applyLoadPermitted => exact ⟨h.images hs.1, h.guarded hs.2.1, h.localEpoch hs.2.2⟩
  | applyReadClock | popLoadRead | popLoadWrite | popCopy => exact h.applying hs
  | popStoreRead =>
    refine ⟨h.applying hs.1, ?_⟩
    rw [hlocals]
    exact hs.2.imp_right fun hmem => h.pushed hmem
  | freshLoadPermitted => exact ⟨h.images hs.1, h.guarded hs.2.1, hlocals ▸ hs.2.2⟩
  | checkPermitted =>
    exact ⟨h.images hs.1, h.guarded hs.2.1, Or.imp h.fresh h.withdrawn hs.2.2⟩
  | loadTransmitEpoch | recheckPermitted | checkLatch | send =>
    exact ⟨h.images hs.1, h.guarded hs.2.1, h.fresh hs.2.2⟩
  | faultRevoke | storeFault => trivial
  | faultSend => exact h.allZero hs
  | _ => exact ⟨h.images hs.1, h.guarded hs.2⟩

/-- **The daemon thread cannot invalidate an assertion of the worker.** -/
theorem assertion (hs : Assertion config s) : Assertion config t := by
  have hpc : t.bus.pc = s.bus.pc := by rw [h.bus]
  have hopen : t.bus.contextOpen = s.bus.contextOpen := by rw [h.bus]
  unfold Assertion at hs ⊢
  rw [hpc, hopen]
  split at hs
  · trivial
  · exact ⟨hs.1, h.cycleAssertion hs.2⟩
  all_goals first | exact ⟨hs.1, h.allZero hs.2⟩ | trivial

end Interferes

end Interference

/-- Beginning a call interferes with nothing. -/
theorem interferes_begin {call : Call} (hledger : LedgerOk s)
    (hordered : s.bus.Ordered s.latch) (h : step config s (.begin call) = some t) :
    Interferes s t := by
  refine ⟨?_, ?_, ?_, fun hs => hs.begin hledger hordered h, fun hs => ⟨?_, ?_⟩⟩
  · obtain ⟨-, -, rfl⟩ := step_begin h
    rfl
  · obtain ⟨-, -, rfl⟩ := step_begin h
    exact UInt64.le_refl _
  · obtain ⟨-, -, rfl⟩ := step_begin h
    cases call with
    | setSafety epoch permitted =>
      simp only [Ledger.record]
      split
      · exact fun _ hmem => hmem
      · split <;> exact fun _ hmem => hmem
    | setLinkUp linkUp => cases linkUp <;> exact fun _ hmem => hmem
    | queueOutput command => exact List.subset_cons_self _ _
    | safetyBarrierComplete => exact fun _ hmem => hmem
  · obtain ⟨-, -, rfl⟩ := step_begin h
    exact hs.1
  · exact hs.2.begin hledger hordered h

/-- Continuing a call interferes with nothing. -/
theorem interferes_daemon (hcall : CallOk s) (hledger : LedgerOk s)
    (hordered : s.bus.Ordered s.latch) (h : CallStep s t) : Interferes s t where
  bus := h.bus_eq
  safetyEpoch_le := by
    rcases h.safetyEpoch_eq hcall with heq | heq
    · exact heq ▸ UInt64.le_refl _
    · exact heq ▸ hledger.safetyEpoch_le
  pushed := by rw [h.ledger_eq]; exact fun _ hmem => hmem
  settled := h.settled hcall hledger hordered
  withdrawn := fun hs => ⟨h.not_permitted hcall hledger hs.2 hs.1, h.cannotRise hcall hs.2⟩

/-! ### The worker's own steps -/

/-- The state once the worker has reached `bus`. -/
def withBus (s : State) (bus : Bus) : State := { s with bus := bus }

theorem Assertion.congr {u : State} (h : Assertion config u) (hbus : t.bus = u.bus)
    (hcall : t.call = u.call) (hledger : t.ledger = u.ledger) : Assertion config t := by
  unfold Assertion CycleAssertion Applying Guarded Withdrawn Settled CannotRise Images at *
  rw [hbus, hcall, hledger]
  exact h

section Worker

variable {env : Env}

/-- Clearing stale SubDevices keeps every image or zeroes it. -/
theorem Images.freshness (h : Images false s) (now : UInt64) (pc : Pc) :
    Images false (withBus s { s.bus with
      pc := pc
      ioMap := enforceFreshness config.timeoutUs now s.bus.lastOutputCommandUs s.bus.ioMap
        s.bus.topology.devices }) := by
  intro j device hdevice
  rcases h j device hdevice with hzero | ⟨command, hmem, hindex, himage, hrest⟩
  · exact .inl hzero.enforceFreshness
  · cases hstale : isStale config.timeoutUs now (s.bus.lastOutputCommandUs (j + 1)) with
    | true => exact .inl (outputsZero_enforceFreshness hdevice hstale)
    | false =>
      exact .inr ⟨command, hmem, hindex, himage.enforceFreshness hdevice hstale, hrest⟩

/-- What a written command was checked for. -/
theorem commandStore_eq_some {bus : Bus} {ioMap : Memory}
    (h : bus.commandStore config = some ioMap) :
    bus.locals.permitted = true ∧ bus.locals.command.epoch = bus.locals.epoch ∧
      bus.locals.command.subDeviceIndex ≠ 0 ∧
      ∃ device,
        bus.topology.devices[bus.locals.command.subDeviceIndex.toNat - 1]? = some device ∧
        writeCommand bus.ioMap device bus.locals.command = some ioMap := by
  unfold Bus.commandStore at h
  simp only at h
  split at h
  · cases h
  · rename_i hchecks
    split at h
    · cases h
    · obtain ⟨device, hdevice, hwrite⟩ := Option.bind_eq_some_iff.mp h
      simp only [Bool.or_eq_true, Bool.not_eq_true', decide_eq_true_eq, not_or, ne_eq,
        Decidable.not_not, Bool.not_eq_false] at hchecks
      exact ⟨hchecks.1.1.1, hchecks.1.1.2, hchecks.1.2, device, hdevice, hwrite⟩

/-- Writing a popped command adds its image and keeps all others. -/
theorem Images.command {ioMap : Memory} (h : Images false s) (hlocal : LocalEpoch s.bus)
    (hcommand : s.bus.locals.command = default ∨ s.bus.locals.command ∈ s.ledger.pushed)
    (hstore : s.bus.commandStore config = some ioMap) :
    Images false (withBus s { s.bus with
      ioMap := ioMap
      lastOutputCommandUs := Function.update s.bus.lastOutputCommandUs
        s.bus.locals.command.subDeviceIndex.toNat
        s.bus.locals.command.acceptedMonotonicUs }) := by
  obtain ⟨-, hepoch, hindex, target, htarget, hwrite⟩ := commandStore_eq_some hstore
  have hpushed : s.bus.locals.command ∈ s.ledger.pushed :=
    hcommand.resolve_left fun hdefault => hindex (by rw [hdefault]; rfl)
  have hpositive : 0 < s.bus.locals.command.subDeviceIndex.toNat := by
    rw [Nat.pos_iff_ne_zero]
    exact fun hzero => hindex (UInt16.toNat_inj.mp hzero)
  intro j device hdevice
  by_cases hj : j = s.bus.locals.command.subDeviceIndex.toNat - 1
  · -- The SubDevice the command is for.
    have hsucc : s.bus.locals.command.subDeviceIndex.toNat = j + 1 := by omega
    have hsame : device = target := by
      rw [← hj] at htarget
      exact Option.some.inj (hdevice.symm.trans htarget)
    refine .inr ⟨_, hpushed, hsucc, hsame ▸ (memoryBit_writeCommand hwrite).1, ?_, ?_⟩
    · simp [withBus, hsucc]
    · exact Or.imp (fun heq => hepoch.trans heq) (fun hlt => ⟨rfl, hlt⟩) hlocal
  · have hdisjoint := s.bus.topology.disjoint_of_ne htarget hdevice (Ne.symm hj)
    have hother : j + 1 ≠ s.bus.locals.command.subDeviceIndex.toNat := by omega
    rcases h j device hdevice with hzero | ⟨command, hmem, hcommandIndex, himage, hlast, hrest⟩
    · exact .inl (hzero.writeCommand hdisjoint hwrite)
    · refine .inr ⟨command, hmem, hcommandIndex, himage.writeCommand hdisjoint hwrite, ?_, hrest⟩
      simpa [withBus, hother] using hlast

/-- Without a permission, non-zero images mean that the permission is gone. -/
theorem Guarded.fresh_or_withdrawn (hledger : LedgerOk s) (hordered : s.bus.Ordered s.latch)
    (himages : Images false s) (hguarded : Guarded s)
    (hpermitted : s.bus.outputsPermitted = false) : Fresh config s.bus ∨ Withdrawn s := by
  rcases hguarded with hzero | hsettled
  · exact .inl (.of_allZero hzero)
  · rcases hsettled with hrisen | hcannot | ⟨hunused, -⟩
    · rw [hpermitted] at hrisen
      cases hrisen
    · exact .inr ⟨hpermitted, hcannot⟩
    · by_cases hlt : s.bus.observedSafetyEpoch < s.ledger.epoch
      · exact .inr ⟨hpermitted, .inl hlt⟩
      · refine .inl fun j device hdevice => (himages j device hdevice).imp_right ?_
        rintro ⟨command, hmem, -, -, -, hepoch⟩
        have hobserved := hordered.observed_le
        have hsafety := hledger.safetyEpoch_le
        have hne := hunused command hmem
        exact absurd hepoch (by grind)

/-- `if (condition) { ZeroOutputs(); … }` before a transmission: images and
freshness stay, or the outputs are zero. -/
theorem silenceIf_assertion {strict : Bool} {condition : Bool} {pc : Pc}
    (hopen : s.bus.contextOpen = true) (himages : Images strict s) (hguarded : Guarded s)
    (hfresh : condition = false → Fresh config s.bus) :
    Images strict (withBus s { s.bus.silenceIf condition with pc := pc }) ∧
      Guarded (withBus s { s.bus.silenceIf condition with pc := pc }) ∧
      Fresh config { s.bus.silenceIf condition with pc := pc } := by
  cases condition with
  | false => exact ⟨himages, hguarded, hfresh rfl⟩
  | true =>
    have hzero : Bus.AllZero { s.bus.silenceIf true with pc := pc } :=
      fun device hdevice => Bus.outputsZero_of_zeroOutputs hopen hdevice
    exact ⟨Images.of_allZero (s := withBus s _) hzero, .inl hzero, .of_allZero hzero⟩

theorem assertion_cycle {bus : Bus} {pc : CyclePc} (hpc : bus.pc = .cycle pc)
    (hopen : bus.contextOpen = true) (h : CycleAssertion config (withBus s bus) pc) :
    Assertion config (withBus s bus) := by
  unfold Assertion withBus
  rw [hpc]
  split
  · trivial
  · rename_i heq
    cases heq
    exact ⟨hopen, h⟩
  all_goals simp_all

/-- **One step of `RunCyclic` leads from assertion to assertion.** -/
theorem assertion_stepCycle {pc : CyclePc} (hpc : s.bus.pc = .cycle pc)
    (hledger : LedgerOk s) (hordered : s.bus.Ordered s.latch)
    (hslots : s.bus.outputCommands.SlotsFrom s.ledger.pushed) (h : Assertion config s) :
    Assertion config (withBus s (s.bus.stepCycle config s.latch env pc).bus) := by
  unfold Assertion at h
  rw [hpc] at h
  cases pc with
  | start | sleep | endCycle =>
    simp only [Bus.stepCycle]
    split
    · exact h
    · trivial
  | checkRunning =>
    simp only [Bus.stepCycle]
    cases s.bus.running <;> exact h
  | checkLink =>
    simp only [Bus.stepCycle]
    cases s.bus.linkUp <;> exact h
  | checkState =>
    simp only [Bus.stepCycle]
    split <;> exact h
  | loadEpoch =>
    simp only [Bus.stepCycle]
    split
    · have hzero : ∀ device ∈ s.bus.topology.devices,
          OutputsZero s.bus.zeroOutputs.ioMap device :=
        fun device hdevice => Bus.outputsZero_of_zeroOutputs h.1 hdevice
      exact ⟨h.1, Images.of_allZero (s := withBus s _) hzero, .inl hzero, .of_allZero hzero⟩
    · exact h
  | applyLoadEpoch =>
    refine ⟨h.1, h.2.1, h.2.2, ?_⟩
    have hle := hordered.observed_le
    show s.bus.safetyEpoch = s.bus.observedSafetyEpoch ∨
      s.bus.observedSafetyEpoch < s.bus.safetyEpoch
    grind
  | applyLoadPermitted =>
    refine ⟨h.1, h.2.1.weaken, h.2.2.2, ?_⟩
    cases hpermitted : s.bus.outputsPermitted with
    | true => exact .inr (.inl hpermitted)
    | false => exact h.2.2.1.imp_left fun hzero => ⟨hzero, hpermitted⟩
  | applyReadClock =>
    obtain ⟨hopen, himages, hlocal, hsettled⟩ := h
    simp only [Bus.stepCycle]
    split
    · rename_i hfirst
      have hpermitted : s.bus.locals.permitted = true := (Bool.and_eq_true_iff.mp hfirst).1
      have hzero : ∀ device ∈ s.bus.topology.devices,
          OutputsZero s.bus.zeroOutputs.ioMap device :=
        fun device hdevice => Bus.outputsZero_of_zeroOutputs hopen hdevice
      exact ⟨hopen, Images.of_allZero (s := withBus s _) hzero, hlocal,
        .inr (hsettled.resolve_left (by simp [hpermitted]))⟩
    · exact ⟨hopen, himages, hlocal, hsettled⟩
  | popLoadRead => exact h
  | popLoadWrite =>
    obtain ⟨hopen, himages, hlocal, hsettled⟩ := h
    simp only [Bus.stepCycle]
    split
    · exact ⟨hopen, himages, hsettled.imp_left And.left⟩
    · exact ⟨hopen, himages, hlocal, hsettled⟩
  | popCopy => exact ⟨h.1, h.2, hslots _⟩
  | popStoreRead =>
    obtain ⟨hopen, ⟨himages, hlocal, hsettled⟩, hcommand⟩ := h
    simp only [Bus.stepCycle, Bus.applyCommand]
    split
    · exact ⟨hopen, himages, hlocal, hsettled⟩
    · rename_i ioMap hstore
      have hstore' : s.bus.commandStore config = some ioMap := hstore
      have hpermitted := (commandStore_eq_some hstore').1
      exact ⟨hopen, himages.command hlocal hcommand hstore', hlocal,
        .inr (hsettled.resolve_left (by simp [hpermitted]))⟩
  | freshReadClock => exact ⟨h.1, h.2.1, h.2.2, rfl⟩
  | freshLoadPermitted =>
    obtain ⟨hopen, himages, hguarded, hsome⟩ := h
    obtain ⟨now, hnow⟩ := Option.isSome_iff_exists.mp hsome
    simp only [Bus.stepCycle]
    split
    · rename_i hpermitted
      refine ⟨hopen, himages.freshness _ _, .inr (.inl hpermitted),
        .inl fun j device hdevice => ?_⟩
      cases hstale : isStale config.timeoutUs (s.bus.locals.freshness.getD 0)
          (s.bus.lastOutputCommandUs (j + 1)) with
      | true => exact .inl (outputsZero_enforceFreshness hdevice hstale)
      | false =>
        rw [hnow, Option.getD_some] at hstale
        exact .inr ⟨now, hnow, hstale⟩
    · rename_i hpermitted
      have hfresh : Fresh config s.bus ∨ Withdrawn s :=
        hguarded.fresh_or_withdrawn hledger hordered himages (by simpa using hpermitted)
      exact ⟨hopen, himages, hguarded, hfresh⟩
  | checkPermitted =>
    obtain ⟨hopen, himages, hguarded, hfresh⟩ := h
    refine ⟨hopen, silenceIf_assertion hopen himages hguarded fun hkept => ?_⟩
    have hpermitted : s.bus.outputsPermitted = true := by simpa using hkept
    exact hfresh.resolve_right fun hwithdrawn => by simp [Withdrawn, hpermitted] at hwithdrawn
  | loadTransmitEpoch =>
    obtain ⟨hopen, himages, hguarded, hfresh⟩ := h
    simp only [Bus.stepCycle]
    split
    · have hzero : ∀ device ∈ s.bus.topology.devices,
          OutputsZero s.bus.zeroOutputs.ioMap device :=
        fun device hdevice => Bus.outputsZero_of_zeroOutputs hopen hdevice
      exact ⟨hopen, Images.of_allZero (s := withBus s _) hzero, .inl hzero, .of_allZero hzero⟩
    · rename_i hepoch
      exact ⟨hopen, himages.strengthen (not_not.mp hepoch), hguarded, hfresh⟩
  | recheckPermitted | checkLatch =>
    exact ⟨h.1, silenceIf_assertion h.1 h.2.1 h.2.2.1 fun _ => h.2.2.2⟩
  | send => exact ⟨h.1, h.2.1, h.2.2.1⟩
  | receive | barrierLoadEpoch =>
    exact assertion_cycle rfl h.1 (iteInduction (motive := CycleAssertion config _)
      (fun _ => h.2) fun _ => h.2)
  | barrierPublish => exact h
  | countMisses =>
    exact assertion_cycle rfl h.1 (iteInduction (motive := CycleAssertion config _)
      (fun _ => trivial) fun _ => h.2)
  | trackClock =>
    simp only [Bus.stepCycle]
    split
    · cases env.clockFault
      · exact h
      · exact ⟨h.1, trivial⟩
    · exact h
  | faultRevoke =>
    exact ⟨h.1, fun device hdevice => Bus.outputsZero_of_zeroOutputs h.1 hdevice⟩
  | faultSend | storeFault => trivial
  | exitCheckLink =>
    simp only [Bus.stepCycle]
    split <;> trivial

end Worker

end SingleBus

end EcSystemCore
