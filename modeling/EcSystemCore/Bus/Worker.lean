import EcSystemCore.Bus.OutputImage
import EcSystemCore.Bus.SpscQueue

/-!
# The bus worker

The thread `EthercatBus::Run` starts, as a machine that makes one atomic access
per step: `Run`, `Initialize`, `RunCyclic`, `ApplyOutputCommands`,
`EnforcePerSubDeviceFreshness`, `CloseContext` and `RaiseFault`.  Between two
atomic accesses the worker touches only its own members, so the local work that
follows an access is part of that access's step, and other threads can be
interleaved at every boundary that they could notice.

What the worker asks of its environment (the clock, SOEM, the distributed-clock
controller) enters a step through `Env`; nothing is assumed about the answers.

Left out are the members that only feed status messages (counters, jitter, the
`faults_` and `reinitializing_` flags, `staleOutput_`), the tables that
`ValidateOutput` reads, and the publication of inputs; no modelled step reads
them.
-/

namespace EcSystemCore

open BitField

/-- `kMaximumOutputCommands`, the capacity of the command queue. -/
def kMaximumOutputCommands : ℕ := 512

/-- Where `Run` stands outside the functions it calls. -/
inductive RunPc where
  | checkRunning | checkLink | storeWaiting | storeStopping
  deriving DecidableEq, Repr

/-- Where `RaiseFault` stands. -/
inductive FaultPc where
  | loadEpoch | storeEpoch | storeGlobal | revoke | storeReason | count
  deriving DecidableEq, Repr

/-- What follows a `RaiseFault`: `Initialize`, the store of the state `Fault`, or
the return from `RunCyclic`. -/
inductive AfterFault where
  | runInitialize | storeFault | leaveCyclic
  deriving DecidableEq, Repr

/-- Where `CloseContext` stands. -/
inductive ClosePc where
  | revoke | storeTopology | storeClock
  deriving DecidableEq, Repr

/-- What follows a `CloseContext`: the rest of `Initialize`, the failure of
`Initialize`, the next round of `Run`, or the end of the thread. -/
inductive AfterClose where
  | runInitialize | giveUp | again | finish
  deriving DecidableEq, Repr

/-- Where `Initialize` stands. -/
inductive InitPc where
  | storeInitializing | configure | checkGroup | storeClock | storeSafe
  | reachOperational | storeOperational | storeFault
  deriving DecidableEq, Repr

/-- Where `RunCyclic` stands, the functions it calls included. -/
inductive CyclePc where
  | start | checkRunning | checkLink | checkState | sleep | loadEpoch
  | applyLoadEpoch | applyLoadPermitted | applyReadClock
  | popLoadRead | popLoadWrite | popCopy | popStoreRead
  | freshReadClock | freshLoadPermitted
  | checkPermitted | loadTransmitEpoch | recheckPermitted | checkLatch
  | send | receive | barrierLoadEpoch | barrierPublish
  | countMisses | trackClock | faultRevoke | faultSend | storeFault
  | endCycle | exitCheckLink
  deriving DecidableEq, Repr

/-- Where the worker stands; `joined` when there is no thread. -/
inductive Pc where
  | joined
  | run (pc : RunPc)
  | fault (pc : FaultPc) (next : AfterFault)
  | close (pc : ClosePc) (next : AfterClose)
  | init (pc : InitPc)
  | cycle (pc : CyclePc)
  deriving DecidableEq, Repr

/-- The local variables of the worker's functions. -/
structure Locals where
  attemptedInitialization : Bool := false
  groupAccepted : Bool := false
  consecutiveWorkingCounterMisses : ℕ := 0
  epochBarrier : Bool := false
  /-- `epoch`, `permitted` and `now` of `ApplyOutputCommands`. -/
  epoch : UInt64 := 0
  permitted : Bool := false
  now : UInt64 := 0
  /-- `read` of `TryPop`, and the command it copies. -/
  read : ℕ := 0
  command : OutputCommand := {}
  /-- The time handed to `EnforcePerSubDeviceFreshness` in this cycle. -/
  freshness : Option UInt64 := none
  /-- `sent > 0`. -/
  sent : Bool := false
  workingCounter : Int := 0
  /-- `epoch` and `reason` of `RaiseFault`. -/
  faultEpoch : UInt64 := 0
  reason : DisableReason := .processDataFault

/-- The members of `EthercatBus`. -/
structure Bus where
  running : Bool := false
  linkUp : Bool := false
  outputsPermitted : Bool := false
  safetyEpoch : UInt64 := 1
  safetyEpochApplied : UInt64 := 0
  observedSafetyEpoch : UInt64 := 0
  outputsWerePermitted : Bool := false
  lastOutputCommandUs : ℕ → UInt64 := fun _ => 0
  faultedEpoch : UInt64 := 0
  outputCommands : SpscQueue OutputCommand := .empty
  /-- `context_.slavelist[1 ..]`. -/
  topology : Topology := {}
  ioMap : Memory := fun _ => 0
  contextAttempted : Bool := false
  contextOpen : Bool := false
  dcConfigured : Bool := false
  expectedWorkingCounter : Int := 0
  state : BusState := .starting
  faultSequence : UInt64 := 0
  faultReason : DisableReason := .processDataFault
  outputTopologyVerified : Bool := false
  distributedClockSynchronized : Bool := false
  pc : Pc := .joined
  locals : Locals := {}

/-- The part of the configuration a bus reads. -/
structure BusConfig where
  interface : InterfaceConfig := {}
  /-- Microseconds. -/
  cyclePeriod : Int := 5000
  /-- Milliseconds. -/
  outputCommandTimeout : UInt64 := 100

/-- `timeoutUs` of the worker's freshness checks. -/
def BusConfig.timeoutUs (config : BusConfig) : UInt64 := config.outputCommandTimeout * 1000

/-- What the environment answers during a step. -/
structure Env where
  /-- `clock_gettime` and `clock_nanosleep` succeed. -/
  clockOk : Bool := true
  /-- `MonotonicMicros()`. -/
  nowMicros : UInt64 := 0
  /-- `ecx_send_processdata` answers a positive number. -/
  sent : Bool := true
  /-- The result of `ecx_receive_processdata`. -/
  workingCounter : Int := 0
  report : SoemReport := {}
  /-- `ecx_statecheck` reports `EC_STATE_OPERATIONAL` within ten attempts. -/
  reachesOperational : Bool := true
  /-- The adjustment the distributed-clock controller answers. -/
  clockSynchronized : Bool := false
  clockFault : Bool := false

/-- What an onlooker can see of a step. -/
inductive BusEvent where
  /-- `RaiseFault` has completed, with the epoch it read. -/
  | faultCompleted (epoch : UInt64)
  /-- The check of `globalFaultedEpoch_` before transmission, with the epoch it
  was compared with. -/
  | latchChecked (observed : UInt64)
  /-- A frame of the cyclic loop has been exchanged under `observed`: whether all
  its output bits were zero and whether its working counter was full. -/
  | exchanged (observed : UInt64) (zero full : Bool)
  deriving DecidableEq, Repr

/-- The outcome of a step: the bus, `globalFaultedEpoch_` and what could be seen. -/
structure Outcome where
  bus : Bus
  latch : UInt64
  event : Option BusEvent := none

namespace Bus

variable (config : BusConfig) (latch : UInt64) (env : Env) (bus : Bus)

/-- `ZeroOutputs`. -/
def zeroOutputs : Bus :=
  { bus with
    ioMap := if bus.contextOpen then EcSystemCore.zeroOutputs bus.ioMap bus.topology.devices
      else bus.ioMap }

/-- `if (condition) { ZeroOutputs(); outputsWerePermitted_ = false; }`. -/
def silenceIf (condition : Bool) : Bus :=
  { bus with
    ioMap := if condition then bus.zeroOutputs.ioMap else bus.ioMap
    outputsWerePermitted := !condition && bus.outputsWerePermitted }

/-- Call `RaiseFault(reason)`. -/
def raiseFault (reason : DisableReason) (next : AfterFault) : Bus :=
  { bus with
    pc := .fault .loadEpoch next
    locals := { bus.locals with reason := reason } }

/-- The IO map once the command just popped has been written, `none` where the pop
loop of `ApplyOutputCommands` skips the command. -/
def commandStore : Option Memory :=
  let command := bus.locals.command
  if !bus.locals.permitted || command.epoch ≠ bus.locals.epoch ||
      command.subDeviceIndex = 0 ||
      bus.topology.devices.length < command.subDeviceIndex.toNat then none
  else if isStale config.timeoutUs bus.locals.now command.acceptedMonotonicUs then none
  else
    bus.topology.devices[command.subDeviceIndex.toNat - 1]?.bind fun device =>
      writeCommand bus.ioMap device command

/-- The body of the pop loop of `ApplyOutputCommands`, for the command just
popped. -/
def applyCommand : Bus :=
  match bus.commandStore config with
  | none => bus
  | some ioMap =>
    { bus with
      ioMap := ioMap
      lastOutputCommandUs := Function.update bus.lastOutputCommandUs
        bus.locals.command.subDeviceIndex.toNat bus.locals.command.acceptedMonotonicUs }

/-- A step of `Run` itself. -/
def stepRun : RunPc → Outcome
  | .checkRunning =>
    ⟨{ bus with pc := .run (if bus.running then .checkLink else .storeStopping) }, latch, none⟩
  | .checkLink =>
    if bus.linkUp then
      let attempted :=
        { bus with locals := { bus.locals with attemptedInitialization := true } }
      if bus.locals.attemptedInitialization then
        ⟨attempted.raiseFault .reinitialization .runInitialize, latch, none⟩
      else ⟨{ attempted with pc := .close .revoke .runInitialize }, latch, none⟩
    else ⟨{ bus with pc := .run .storeWaiting }, latch, none⟩
  | .storeWaiting =>
    ⟨{ bus with state := .waitingForLink, pc := .run .checkRunning }, latch, none⟩
  | .storeStopping =>
    ⟨{ bus with state := .stopping, pc := .close .revoke .finish }, latch, none⟩

/-- Where the worker goes on after a `RaiseFault`. -/
def afterFault : AfterFault → Pc
  | .runInitialize => .close .revoke .runInitialize
  | .storeFault => .cycle .storeFault
  | .leaveCyclic => .close .revoke .again

/-- A step of `RaiseFault`. -/
def stepFault (next : AfterFault) : FaultPc → Outcome
  | .loadEpoch =>
    ⟨{ bus with
        pc := .fault .storeEpoch next
        locals := { bus.locals with faultEpoch := bus.safetyEpoch } }, latch, none⟩
  | .storeEpoch =>
    ⟨{ bus with
        faultedEpoch := bus.locals.faultEpoch
        pc := .fault .storeGlobal next }, latch, none⟩
  | .storeGlobal =>
    ⟨{ bus with pc := .fault .revoke next }, bus.locals.faultEpoch, none⟩
  | .revoke =>
    ⟨{ bus with outputsPermitted := false, pc := .fault .storeReason next }, latch, none⟩
  | .storeReason =>
    ⟨{ bus with faultReason := bus.locals.reason, pc := .fault .count next }, latch, none⟩
  | .count =>
    ⟨{ bus with
        faultSequence := if bus.faultSequence = 0xffffffffffffffff then bus.faultSequence
          else bus.faultSequence + 1
        pc := afterFault next }, latch, some (.faultCompleted bus.locals.faultEpoch)⟩

/-- Where the worker goes on after a `CloseContext`. -/
def afterClose : AfterClose → Pc
  | .runInitialize => .init .storeInitializing
  | .giveUp => .init .storeFault
  | .again => .run .checkRunning
  | .finish => .joined

/-- A step of `CloseContext`. -/
def stepClose (next : AfterClose) : ClosePc → Outcome
  | .revoke =>
    ⟨{ bus with outputsPermitted := false, pc := .close .storeTopology next }, latch, none⟩
  | .storeTopology =>
    let cleared :=
      { bus with
        outputTopologyVerified := false
        outputsWerePermitted := false
        lastOutputCommandUs := fun _ => 0 }
    if bus.contextAttempted then
      ⟨{ cleared.zeroOutputs with
          topology := {}
          contextAttempted := false
          contextOpen := false
          dcConfigured := false
          pc := .close .storeClock next }, latch, none⟩
    else ⟨{ cleared with pc := afterClose next }, latch, none⟩
  | .storeClock =>
    ⟨{ bus with
        distributedClockSynchronized := false
        expectedWorkingCounter := 0
        pc := afterClose next }, latch, none⟩

/-- A step of `Initialize`; `storeFault` is the store `Run` makes when it failed. -/
def stepInit : InitPc → Outcome
  | .storeInitializing =>
    ⟨{ bus with state := .initializing, pc := .init .configure }, latch, none⟩
  | .configure =>
    let opened :=
      { bus with
        ioMap := fun _ => 0
        contextAttempted := true
        contextOpen := env.report.opened
        topology := env.report.topology }
    match acceptTopology config.interface env.report with
    | none => ⟨{ opened with pc := .close .revoke .giveUp }, latch, none⟩
    | some verified =>
      ⟨{ opened with
          outputTopologyVerified := verified
          expectedWorkingCounter := env.report.expectedWorkingCounter
          pc := .init .checkGroup
          locals := { bus.locals with
            groupAccepted := acceptGroup config.interface config.cyclePeriod env.report } },
        latch, none⟩
  | .checkGroup =>
    ⟨{ bus with
        pc := if !bus.locals.groupAccepted then .close .revoke .giveUp
          else if config.interface.distributedClock then .init .storeClock
          else .init .storeSafe }, latch, none⟩
  | .storeClock =>
    ⟨{ bus with
        dcConfigured := true
        distributedClockSynchronized := false
        pc := .init .storeSafe }, latch, none⟩
  | .storeSafe =>
    ⟨{ bus with state := .safeOperational, pc := .init .reachOperational }, latch, none⟩
  | .reachOperational =>
    ⟨{ bus.zeroOutputs with
        pc := if env.reachesOperational then .init .storeOperational
          else .close .revoke .giveUp }, latch, none⟩
  | .storeOperational =>
    ⟨{ bus with state := .operational, pc := .cycle .start }, latch, none⟩
  | .storeFault => ⟨{ bus with state := .fault, pc := .run .checkRunning }, latch, none⟩

/-- The working counter of the current cycle is full. -/
def workingCounterFull : Bool := bus.expectedWorkingCounter ≤ bus.locals.workingCounter

/-- A step of `RunCyclic`. -/
def stepCycle : CyclePc → Outcome
  | .start =>
    if env.clockOk then
      ⟨{ bus with
          pc := .cycle .checkRunning
          locals := { bus.locals with consecutiveWorkingCounterMisses := 0 } }, latch, none⟩
    else ⟨bus.raiseFault .processDataFault .leaveCyclic, latch, none⟩
  | .checkRunning =>
    ⟨{ bus with pc := .cycle (if bus.running then .checkLink else .exitCheckLink) },
      latch, none⟩
  | .checkLink =>
    ⟨{ bus with pc := .cycle (if bus.linkUp then .checkState else .exitCheckLink) },
      latch, none⟩
  | .checkState =>
    ⟨{ bus with pc := .cycle (if bus.state = .operational then .sleep else .exitCheckLink) },
      latch, none⟩
  | .sleep =>
    if env.clockOk then ⟨{ bus with pc := .cycle .loadEpoch }, latch, none⟩
    else ⟨bus.raiseFault .processDataFault .leaveCyclic, latch, none⟩
  | .loadEpoch =>
    let entered := { bus with locals := { bus.locals with freshness := none } }
    if bus.safetyEpoch ≠ bus.observedSafetyEpoch then
      -- The barrier skips the load of `outputsPermitted_` that follows the commands.
      ⟨{ entered.silenceIf true with
          observedSafetyEpoch := bus.safetyEpoch
          pc := .cycle .loadTransmitEpoch
          locals := { entered.locals with epochBarrier := true } }, latch, none⟩
    else
      ⟨{ entered with
          pc := .cycle .applyLoadEpoch
          locals := { entered.locals with epochBarrier := false } }, latch, none⟩
  | .applyLoadEpoch =>
    ⟨{ bus with
        pc := .cycle .applyLoadPermitted
        locals := { bus.locals with epoch := bus.safetyEpoch } }, latch, none⟩
  | .applyLoadPermitted =>
    ⟨{ bus with
        pc := .cycle .applyReadClock
        locals := { bus.locals with permitted := bus.outputsPermitted } }, latch, none⟩
  | .applyReadClock =>
    let timed :=
      { bus with
        pc := .cycle .popLoadRead
        locals := { bus.locals with now := env.nowMicros } }
    if bus.locals.permitted && !bus.outputsWerePermitted then
      ⟨{ timed.zeroOutputs with
          outputsWerePermitted := true
          lastOutputCommandUs := fun index =>
            if 1 ≤ index ∧ index ≤ bus.topology.devices.length then env.nowMicros
            else bus.lastOutputCommandUs index }, latch, none⟩
    else ⟨timed, latch, none⟩
  | .popLoadRead =>
    ⟨{ bus with
        pc := .cycle .popLoadWrite
        locals := { bus.locals with read := bus.outputCommands.readIndex } }, latch, none⟩
  | .popLoadWrite =>
    ⟨{ bus with
        pc := .cycle (if bus.locals.read = bus.outputCommands.writeIndex then .freshReadClock
          else .popCopy) }, latch, none⟩
  | .popCopy =>
    ⟨{ bus with
        pc := .cycle .popStoreRead
        locals := { bus.locals with
          command := bus.outputCommands.values bus.locals.read } }, latch, none⟩
  | .popStoreRead =>
    let popped :=
      { bus with
        pc := .cycle .popLoadRead
        outputCommands := bus.outputCommands.storeRead
          (SpscQueue.next kMaximumOutputCommands bus.locals.read) }
    ⟨popped.applyCommand config, latch, none⟩
  | .freshReadClock =>
    ⟨{ bus with
        pc := .cycle .freshLoadPermitted
        locals := { bus.locals with freshness := some env.nowMicros } }, latch, none⟩
  | .freshLoadPermitted =>
    if bus.outputsPermitted then
      ⟨{ bus with
          pc := .cycle .checkPermitted
          ioMap := enforceFreshness config.timeoutUs (bus.locals.freshness.getD 0)
            bus.lastOutputCommandUs bus.ioMap bus.topology.devices }, latch, none⟩
    else ⟨{ bus with pc := .cycle .checkPermitted }, latch, none⟩
  | .checkPermitted =>
    ⟨{ bus.silenceIf !bus.outputsPermitted with pc := .cycle .loadTransmitEpoch }, latch, none⟩
  | .loadTransmitEpoch =>
    if bus.safetyEpoch ≠ bus.observedSafetyEpoch then
      ⟨{ bus.silenceIf true with
          observedSafetyEpoch := bus.safetyEpoch
          pc := .cycle .recheckPermitted
          locals := { bus.locals with epochBarrier := true } }, latch, none⟩
    else ⟨{ bus with pc := .cycle .recheckPermitted }, latch, none⟩
  | .recheckPermitted =>
    ⟨{ bus.silenceIf !bus.outputsPermitted with pc := .cycle .checkLatch }, latch, none⟩
  | .checkLatch =>
    ⟨{ bus.silenceIf (latch = bus.observedSafetyEpoch) with pc := .cycle .send }, latch,
      some (.latchChecked bus.observedSafetyEpoch)⟩
  | .send =>
    ⟨{ bus with
        pc := .cycle .receive
        locals := { bus.locals with sent := env.sent } }, latch, none⟩
  | .receive =>
    let received :=
      { bus with
        locals := { bus.locals with
          workingCounter := if bus.locals.sent then env.workingCounter else -1 } }
    let full := bus.locals.sent && received.workingCounterFull
    ⟨{ received with
        pc := .cycle (if bus.locals.epochBarrier && full then .barrierLoadEpoch
          else .countMisses) }, latch,
      some (.exchanged bus.observedSafetyEpoch
        (allOutputsZero bus.ioMap bus.topology.devices) full)⟩
  | .barrierLoadEpoch =>
    ⟨{ bus with
        pc := .cycle (if bus.safetyEpoch = bus.observedSafetyEpoch then .barrierPublish
          else .countMisses) }, latch, none⟩
  | .barrierPublish =>
    ⟨{ bus with
        safetyEpochApplied := bus.observedSafetyEpoch
        pc := .cycle .countMisses }, latch, none⟩
  | .countMisses =>
    let misses := if bus.workingCounterFull then 0
      else bus.locals.consecutiveWorkingCounterMisses + 1
    ⟨{ bus with
        pc := .cycle (if 3 ≤ misses then .faultRevoke else .trackClock)
        locals := { bus.locals with consecutiveWorkingCounterMisses := misses } },
      latch, none⟩
  | .trackClock =>
    if bus.workingCounterFull && bus.dcConfigured then
      ⟨{ bus with
          distributedClockSynchronized := env.clockSynchronized
          pc := .cycle (if env.clockFault then .faultRevoke else .endCycle) }, latch, none⟩
    else ⟨{ bus with pc := .cycle .endCycle }, latch, none⟩
  | .faultRevoke =>
    ⟨{ bus.zeroOutputs with outputsPermitted := false, pc := .cycle .faultSend }, latch, none⟩
  | .faultSend => ⟨bus.raiseFault .processDataFault .storeFault, latch, none⟩
  | .storeFault => ⟨{ bus with state := .fault, pc := .close .revoke .again }, latch, none⟩
  | .endCycle =>
    if env.clockOk then ⟨{ bus with pc := .cycle .checkRunning }, latch, none⟩
    else ⟨bus.raiseFault .processDataFault .leaveCyclic, latch, none⟩
  | .exitCheckLink =>
    if bus.linkUp then ⟨{ bus with pc := .close .revoke .again }, latch, none⟩
    else ⟨bus.raiseFault .linkLoss .leaveCyclic, latch, none⟩

/-- One step of the worker, `none` when there is no thread. -/
def step : Option Outcome :=
  match bus.pc with
  | .joined => none
  | .run pc => some (bus.stepRun latch pc)
  | .fault pc next => some (bus.stepFault latch next pc)
  | .close pc next => some (bus.stepClose latch next pc)
  | .init pc => some (bus.stepInit config latch env pc)
  | .cycle pc => some (bus.stepCycle config latch env pc)

/-- The worker is about to call `ecx_send_processdata` in the cyclic loop: the
frame of the cycle, or the zero frame of its fault branch. -/
def Transmitting (bus : Bus) : Prop := bus.pc = .cycle .send ∨ bus.pc = .cycle .faultSend

end Bus

/-! ### A bus for concrete runs -/

/-- A bus with one verified SubDevice that has a single output byte. -/
def oneByteConfig : BusConfig where
  interface := { expectedSubDevices :=
    [{ vendorId := 1, productCode := 2, outputBytes := some 1 }] }

/-- What SOEM reports about that bus. -/
def oneByteReport : SoemReport where
  opened := true
  discovered := 1
  topology :=
    { devices := [{ obits := 8, obytes := 1, outputs := some 0, eepMan := 1, eepId := 2 }]
      disjoint := List.pairwise_singleton _ _ }
  mapped := 1
  outputsWKC := 1
  groupOutputs := some 0
  groupObytes := 1

/-- The environment of that bus: every frame comes back with `workingCounter`. -/
def oneByteEnv (workingCounter : Int) : Env where
  nowMicros := 1000
  workingCounter := workingCounter
  report := oneByteReport

end EcSystemCore
