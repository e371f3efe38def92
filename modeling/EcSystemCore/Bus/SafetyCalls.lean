import EcSystemCore.Bus.Worker

/-!
# The daemon thread's calls on a bus

`EthercatBus::Start`, `Stop`, `SetLinkUp`, `SetSafety`, `SafetyBarrierComplete`
and `QueueOutput`, as the daemon thread runs them: one atomic access per step,
with the worker free to move in between.  `CallPc` is where a call stands,
together with its arguments and what it has loaded.
-/

namespace EcSystemCore

/-- Where a call of the daemon thread stands. -/
inductive CallPc where
  | startStoreLink (linkUp : Bool) (epoch : UInt64)
  | startStoreEpoch (epoch : UInt64)
  | startStoreApplied | startRevoke | startRun
  | stopRevoke (restart : Option (Bool × UInt64))
  | stopStoreRunning (restart : Option (Bool × UInt64))
  | stopJoin (restart : Option (Bool × UInt64))
  | linkRevoke | linkStore (linkUp : Bool)
  | safetyExchange (epoch : UInt64) (permitted : Bool)
  | safetyLoadFaulted (epoch : UInt64) (permitted : Bool)
  | safetyLoadGlobal (epoch : UInt64) (permitted : Bool)
  | safetyStore (epoch : UInt64) (permitted faultLatched : Bool)
  | barrierLoadState (epoch : UInt64) | barrierLoadApplied (epoch : UInt64)
  | pushLoadWrite (command : OutputCommand)
  | pushLoadRead (command : OutputCommand) (write : ℕ)
  | pushCopy (command : OutputCommand) (write : ℕ)
  | pushStoreWrite (write : ℕ)
  deriving DecidableEq

/-- The value of `SafetyBarrierComplete(epoch)` when nothing moves during the call. -/
def Bus.safetyBarrierComplete (bus : Bus) (epoch : UInt64) : Bool :=
  bus.state ≠ .operational || bus.safetyEpochApplied = epoch

namespace CallPc

/-- Call `Start(_, linkUp, epoch)`, which stops a running worker first. -/
def start (linkUp : Bool) (epoch : UInt64) : CallPc := .stopRevoke (some (linkUp, epoch))

/-- Call `Stop()`. -/
def stop : CallPc := .stopRevoke none

/-- Call `SetLinkUp(linkUp)`. -/
def setLinkUp (linkUp : Bool) : CallPc := if linkUp then .linkStore true else .linkRevoke

/-- Call `SetSafety(epoch, permitted)`. -/
def setSafety (epoch : UInt64) (permitted : Bool) : CallPc := .safetyExchange epoch permitted

/-- Call `SafetyBarrierComplete(epoch)`. -/
def safetyBarrierComplete (epoch : UInt64) : CallPc := .barrierLoadState epoch

/-- Call `QueueOutput(command)`. -/
def queueOutput (command : OutputCommand) : CallPc := .pushLoadWrite command

/-- What remains of a call after a step: the next access, or the value it
returned. -/
inductive Status where
  | running (pc : CallPc)
  | returned (value : Bool)
  deriving DecidableEq

/-- One step of a call, `none` while it waits for the worker to end. -/
def step (latch : UInt64) (bus : Bus) : CallPc → Option (Bus × Status)
  | stopRevoke restart =>
    some ({ bus with outputsPermitted := false }, .running (.stopStoreRunning restart))
  | stopStoreRunning restart =>
    some ({ bus with running := false }, .running (.stopJoin restart))
  | stopJoin restart =>
    if bus.pc = .joined then
      some (bus, match restart with
        | none => .returned true
        | some (linkUp, epoch) => .running (.startStoreLink linkUp epoch))
    else none
  | startStoreLink linkUp epoch =>
    some ({ bus with linkUp := linkUp }, .running (.startStoreEpoch epoch))
  | startStoreEpoch epoch =>
    some ({ bus with safetyEpoch := epoch }, .running .startStoreApplied)
  | startStoreApplied =>
    some ({ bus with safetyEpochApplied := 0, observedSafetyEpoch := 0 },
      .running .startRevoke)
  | startRevoke => some ({ bus with outputsPermitted := false }, .running .startRun)
  | startRun =>
    some ({ bus with running := true, pc := .run .checkRunning, locals := {} },
      .returned true)
  | linkRevoke => some ({ bus with outputsPermitted := false }, .running (.linkStore false))
  | linkStore linkUp => some ({ bus with linkUp := linkUp }, .returned true)
  | safetyExchange epoch permitted =>
    some ({ bus with safetyEpoch := epoch }, .running (.safetyLoadFaulted epoch permitted))
  | safetyLoadFaulted epoch permitted =>
    some (bus, .running (if bus.faultedEpoch = epoch then .safetyStore epoch permitted true
      else .safetyLoadGlobal epoch permitted))
  | safetyLoadGlobal epoch permitted =>
    some (bus, .running (.safetyStore epoch permitted (latch = epoch)))
  | safetyStore _ permitted faultLatched =>
    some ({ bus with outputsPermitted := permitted && !faultLatched }, .returned true)
  | barrierLoadState epoch =>
    some (bus, if bus.state = .operational then .running (.barrierLoadApplied epoch)
      else .returned true)
  | barrierLoadApplied epoch => some (bus, .returned (bus.safetyEpochApplied = epoch))
  | pushLoadWrite command =>
    some (bus, .running (.pushLoadRead command bus.outputCommands.writeIndex))
  | pushLoadRead command write =>
    some (bus, if SpscQueue.next kMaximumOutputCommands write = bus.outputCommands.readIndex
      then .returned false else .running (.pushCopy command write))
  | pushCopy command write =>
    some ({ bus with outputCommands := bus.outputCommands.storeValue write command },
      .running (.pushStoreWrite write))
  | pushStoreWrite write =>
    let next := SpscQueue.next kMaximumOutputCommands write
    some ({ bus with outputCommands := bus.outputCommands.storeWrite next }, .returned true)

end CallPc

end EcSystemCore
