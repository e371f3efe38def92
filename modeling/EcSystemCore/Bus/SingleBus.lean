import EcSystemCore.Bus.SafetyCalls
import EcSystemCore.Lib.Execution

/-!
# One worker and the daemon thread

The worker of one bus interleaved, access by access, with the daemon thread's
calls on that bus.  The daemon makes its calls as its handlers do: epochs strictly
increase, permission is given for an epoch only after `SafetyBarrierComplete` was
true for it with the bus operational, it is not given again once revoked, and
commands are queued only for the current epoch and only while permission is
given.  `Ledger` records what the daemon has done in the current epoch, and
`Ledger.allows` is that discipline.
-/

namespace EcSystemCore

open BitField Execution

namespace SingleBus

/-- What has become of the permission for the current epoch. -/
inductive Permission where
  | notGiven | given | revoked
  deriving DecidableEq, Repr

/-- What the daemon thread knows about its own calls. -/
structure Ledger where
  epoch : UInt64
  permission : Permission := .notGiven
  /-- `SafetyBarrierComplete(epoch)` was true with the bus operational. -/
  barrierSeen : Bool := false
  /-- The commands handed to `QueueOutput` so far. -/
  pushed : List OutputCommand := []

/-- The calls of the daemon thread. -/
inductive Call where
  | setSafety (epoch : UInt64) (permitted : Bool)
  | setLinkUp (linkUp : Bool)
  | queueOutput (command : OutputCommand)
  | safetyBarrierComplete

namespace Ledger

/-- The discipline of the daemon's handlers. -/
def allows (ledger : Ledger) : Call → Bool
  | .setSafety epoch permitted =>
    if permitted then
      epoch = ledger.epoch && ledger.barrierSeen && ledger.permission ≠ .revoked
    else ledger.epoch ≤ epoch
  | .setLinkUp _ => true
  | .queueOutput command => command.epoch = ledger.epoch && ledger.permission = .given
  | .safetyBarrierComplete => true

/-- Permission is withdrawn, if it had been given. -/
def revoke (ledger : Ledger) : Ledger :=
  { ledger with
    permission := if ledger.permission = .notGiven then .notGiven else .revoked }

/-- The ledger once a call has begun. -/
def record (ledger : Ledger) : Call → Ledger
  | .setSafety epoch permitted =>
    if permitted then { ledger with permission := .given }
    else if epoch = ledger.epoch then ledger.revoke
    else { ledger with epoch := epoch, permission := .notGiven, barrierSeen := false }
  | .setLinkUp linkUp => if linkUp then ledger else ledger.revoke
  | .queueOutput command => { ledger with pushed := command :: ledger.pushed }
  | .safetyBarrierComplete => ledger

end Ledger

/-- The first access of a call. -/
def Call.entry (ledger : Ledger) : Call → CallPc
  | .setSafety epoch permitted => .setSafety epoch permitted
  | .setLinkUp linkUp => .setLinkUp linkUp
  | .queueOutput command => .queueOutput command
  | .safetyBarrierComplete => .safetyBarrierComplete ledger.epoch

/-- The worker, the daemon thread's call in progress, and its ledger. -/
structure State where
  bus : Bus
  /-- `globalFaultedEpoch_`. -/
  latch : UInt64 := 0
  call : Option CallPc := none
  ledger : Ledger
  /-- `safetyEpoch_` and whether all outputs were zero, at the last transmission. -/
  sentEpoch : UInt64 := 0
  sentZero : Bool := false

/-- A bus whose worker has just been started in `epoch`. -/
def start (epoch : UInt64) (linkUp : Bool) : State where
  bus := { running := true, linkUp := linkUp, safetyEpoch := epoch, pc := .run .checkRunning }
  ledger := { epoch := epoch }

/-- Who moves: the worker, or the daemon thread beginning or continuing a call. -/
inductive Label where
  | worker (env : Env)
  | begin (call : Call)
  | daemon

/-- The worker moves. -/
def stepWorker (config : BusConfig) (s : State) (env : Env) : Option State :=
  (s.bus.step config s.latch env).map fun outcome =>
    if s.bus.pc = .cycle .send then
      { s with
        bus := outcome.bus
        latch := outcome.latch
        sentEpoch := s.bus.safetyEpoch
        sentZero := allOutputsZero s.bus.ioMap s.bus.topology.devices }
    else { s with bus := outcome.bus, latch := outcome.latch }

/-- The daemon thread continues its call. -/
def stepCall (s : State) (pc : CallPc) : Option State :=
  (pc.step s.latch s.bus).map fun (bus, status) =>
    match status with
    | .running next => { s with bus := bus, call := some next }
    | .returned value =>
      { s with
        bus := bus
        call := none
        ledger := { s.ledger with
          barrierSeen := s.ledger.barrierSeen ||
            (pc = .barrierLoadApplied s.ledger.epoch && value) } }

/-- One step of the system. -/
def step (config : BusConfig) (s : State) : Label → Option State
  | .worker env => stepWorker config s env
  | .begin call =>
    if s.call.isNone && s.ledger.allows call then
      some { s with
        call := some (call.entry s.ledger)
        ledger := s.ledger.record call }
    else none
  | .daemon => s.call.bind (stepCall s)

end SingleBus

end EcSystemCore
