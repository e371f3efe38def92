import EcSystemCore.Bus.SafetyCalls
import EcSystemCore.Lib.Execution
import EcSystemCore.Safety.GateHistory

/-!
# All workers and the daemon thread

The workers of all configured buses interleaved, access by access, with the daemon
thread.  The daemon thread is cut into the pieces its handlers are made of: an
operation of the safety gate, the loop of `ApplySafetyToBuses`, a call of `Start`,
`Stop`, `SetLinkUp` or `QueueOutput` on one bus, and `HandleOutputEnable` with the
loads of `AllBusesOperational` one by one.  Between requests the pieces may come in
any order, which covers every order the handlers use.

Two members exist only to state properties: `log` records what the workers did and
when a bus's `safetyEpoch_` changed, newest first, and `epochs` the gate's epochs so
far.
-/

namespace EcSystemCore

open Execution

namespace AllBuses

/-- A decoded `OutputEnable` request. -/
structure EnableRequest where
  client : ClientId
  epoch : UInt64
  enabled : Bool
  deriving DecidableEq

/-- Where the loop of `AllBusesOperational` stands at a bus. -/
inductive CheckPc where
  | loadState
  | barrier (pc : CallPc)
  | loadClock
  | loadTopology
  deriving DecidableEq

/-- Where the daemon thread stands. -/
inductive DaemonPc where
  | idle
  /-- A call on one bus. -/
  | call (index : ℕ) (pc : CallPc)
  /-- `ApplySafetyToBuses` at the head of its loop, and the answer that follows it
  in `HandleOutputEnable`. -/
  | apply (index : ℕ) (answer : Option (EnableRequest × AckStatus))
  | setSafety (index : ℕ) (pc : CallPc) (answer : Option (EnableRequest × AckStatus))
  /-- `AllBusesOperational` at its load of `globalFaultedEpoch_`. -/
  | loadLatch (request : EnableRequest)
  | check (request : EnableRequest) (index : ℕ) (anyVerifiedOutputs : Bool) (pc : CheckPc)
  /-- `HandleOutputEnable` queues its acknowledgement. -/
  | acknowledge (request : EnableRequest) (status : AckStatus)
  deriving DecidableEq

/-- The answer `HandleOutputEnable` has decided on. -/
def DaemonPc.answer : DaemonPc → Option (EnableRequest × AckStatus)
  | .apply _ answer | .setSafety _ _ answer => answer
  | .acknowledge request status => some (request, status)
  | _ => none

/-- What follows `ApplySafetyToBuses`. -/
def DaemonPc.afterApply : Option (EnableRequest × AckStatus) → DaemonPc
  | none => .idle
  | some (request, status) => .acknowledge request status

@[simp] theorem DaemonPc.answer_afterApply (answer : Option (EnableRequest × AckStatus)) :
    (DaemonPc.afterApply answer).answer = answer := by
  cases answer <;> rfl

/-- What the log records. -/
inductive Event where
  | worker (index : ℕ) (event : BusEvent)
  /-- The `safetyEpoch_` of a bus took another value. -/
  | epochSet (index : ℕ) (epoch : UInt64)
  deriving DecidableEq, Repr

/-- The buses, the latch they share, and the daemon thread. -/
structure State where
  bus : ℕ → Bus := fun _ => {}
  /-- `globalFaultedEpoch_`. -/
  latch : UInt64 := 0
  gate : SafetyGate
  daemon : DaemonPc := .idle
  log : List Event := []
  epochs : List UInt64 := [gate.epoch]

/-- What a step of the daemon thread takes from outside: whether the adapter of the
bus it looks at is ready (`adapterReady`), and the time. -/
structure DaemonInput where
  adapterReady : Bool := true
  now : TimePoint := 0

/-- A call of the daemon thread on one bus. -/
inductive BusCall where
  | start (linkUp : Bool)
  | stop
  | setLinkUp (linkUp : Bool)
  | queueOutput (client : ClientId) (command : OutputCommand)

/-- Who moves: a worker, or the daemon thread beginning or continuing a piece of
work. -/
inductive Label where
  | worker (index : ℕ) (env : Env)
  | gate (op : GateOp)
  | apply
  | call (index : ℕ) (call : BusCall)
  | outputEnable (request : EnableRequest)
  | daemon (input : DaemonInput)

/-- The first access of a call; `QueueOutput` is reached only with an authorized
write. -/
def BusCall.entry (gate : SafetyGate) : BusCall → Option CallPc
  | .start linkUp => some (.start linkUp gate.epoch)
  | .stop => some .stop
  | .setLinkUp linkUp => some (.setLinkUp linkUp)
  | .queueOutput client command =>
    if (gate.authorizeWrite client command.epoch).status = .ok then
      some (.queueOutput command)
    else none

namespace State

variable (s : State)

/-- The gate has been replaced by its next state. -/
def withGate (gate : SafetyGate) : State :=
  { s with
    gate := gate
    epochs := if gate.epoch = s.gate.epoch then s.epochs else gate.epoch :: s.epochs }

/-- The daemon thread has written to a bus. -/
def withBus (index : ℕ) (bus : Bus) : State :=
  { s with
    bus := Function.update s.bus index bus
    log := if bus.safetyEpoch = (s.bus index).safetyEpoch then s.log
      else .epochSet index bus.safetyEpoch :: s.log }

/-- A worker has moved. -/
def withOutcome (index : ℕ) (outcome : Outcome) : State :=
  { s with
    bus := Function.update s.bus index outcome.bus
    latch := outcome.latch
    log := match outcome.event with
      | none => s.log
      | some event => .worker index event :: s.log }

/-- `AllBusesOperational` has answered `healthy`: `SetOutputEnabled`, then
`ApplySafetyToBuses`. -/
def decideEnable (request : EnableRequest) (healthy : Bool) (now : TimePoint) : State :=
  let (result, gate) :=
    s.gate.setOutputEnabled request.client request.epoch request.enabled healthy now
  { s.withGate gate with daemon := .apply 0 (some (request, result.status)) }

end State

section Step

variable (busCount : ℕ) (config : ℕ → BusConfig) (s : State)

/-- A step of `AllBusesOperational` at one bus. -/
def stepCheck (request : EnableRequest) (index : ℕ) (anyVerifiedOutputs : Bool)
    (input : DaemonInput) : CheckPc → Option State
  | .loadState =>
    if index < busCount then
      if input.adapterReady && (s.bus index).state = .operational then
        let pc := CheckPc.barrier (.safetyBarrierComplete s.gate.epoch)
        some { s with daemon := .check request index anyVerifiedOutputs pc }
      else some (s.decideEnable request false input.now)
    else some (s.decideEnable request anyVerifiedOutputs input.now)
  | .barrier pc =>
    (pc.step s.latch (s.bus index)).map fun (_, status) =>
      match status with
      | .running next =>
        { s with daemon := .check request index anyVerifiedOutputs (.barrier next) }
      | .returned true =>
        { s with daemon := .check request index anyVerifiedOutputs .loadClock }
      | .returned false => s.decideEnable request false input.now
  | .loadClock =>
    if !(config index).interface.distributedClock ||
        (s.bus index).distributedClockSynchronized then
      some { s with daemon := .check request index anyVerifiedOutputs .loadTopology }
    else some (s.decideEnable request false input.now)
  | .loadTopology =>
    let verified := anyVerifiedOutputs || (s.bus index).outputTopologyVerified
    some { s with daemon := .check request (index + 1) verified .loadState }

/-- The daemon thread continues. -/
def stepDaemon (input : DaemonInput) : Option State :=
  match s.daemon with
  | .idle => none
  | .call index pc =>
    (pc.step s.latch (s.bus index)).map fun (bus, status) =>
      { s.withBus index bus with
        daemon := match status with
          | .running next => .call index next
          | .returned _ => .idle }
  | .apply index answer =>
    some { s with
      daemon :=
        if index < busCount then
          .setSafety index (.setSafety s.gate.epoch s.gate.outputsEnabled) answer
        else .afterApply answer }
  | .setSafety index pc answer =>
    (pc.step s.latch (s.bus index)).map fun (bus, status) =>
      { s.withBus index bus with
        daemon := match status with
          | .running next => .setSafety index next answer
          | .returned _ => .apply (index + 1) answer }
  | .loadLatch request =>
    if busCount = 0 || s.latch = s.gate.epoch then
      some (s.decideEnable request false input.now)
    else some { s with daemon := .check request 0 false .loadState }
  | .check request index anyVerifiedOutputs pc =>
    stepCheck busCount config s request index anyVerifiedOutputs input pc
  | .acknowledge _ _ => some { s with daemon := .idle }

/-- One step of the system.  `SetOutputEnabled` is reached only through
`HandleOutputEnable`. -/
def step : Label → Option State
  | .worker index env =>
    if index < busCount then
      ((s.bus index).step (config index) s.latch env).map (s.withOutcome index)
    else none
  | .gate (.setOutputEnabled ..) => none
  | .gate op => if s.daemon = .idle then some (s.withGate (s.gate.react op).2) else none
  | .apply => if s.daemon = .idle then some { s with daemon := .apply 0 none } else none
  | .call index call =>
    if s.daemon = .idle ∧ index < busCount then
      (call.entry s.gate).map fun pc => { s with daemon := .call index pc }
    else none
  | .outputEnable request =>
    if s.daemon = .idle then some { s with daemon := .loadLatch request } else none
  | .daemon input => stepDaemon busCount config s input

end Step

/-- The daemon has been constructed and no worker started. -/
def init (gate : SafetyGate) : State := { gate := gate }

/-! ### Pieces of concrete runs -/

/-- The worker of a one-byte bus takes `count` steps; its frames come back with
`workingCounter`. -/
def workerSteps (index count : ℕ) (workingCounter : ℤ) : List Label :=
  List.replicate count (.worker index (oneByteEnv workingCounter))

/-- The daemon thread takes `count` steps. -/
def daemonSteps (count : ℕ) : List Label := List.replicate count (.daemon {})

/-- `ScanAdapters` starts the worker of a bus whose link is up. -/
def startBus (index : ℕ) : List Label := .call index (.start true) :: daemonSteps 8

/-- Client 1 says `Hello` as a controller. -/
def grantController (busCount : ℕ) : List Label :=
  .gate (.acquire 1 2 0) :: .apply :: daemonSteps (5 * busCount + 1)

end AllBuses

end EcSystemCore
