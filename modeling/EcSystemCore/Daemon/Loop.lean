import Mathlib.Data.List.Dedup
import Mathlib.Data.List.Sort
import EcSystemCore.Daemon.Handlers
import EcSystemCore.Lib.Execution

/-!
# The event loop

The steps of `Daemon::Run`: adapter scans, bus faults, timeouts, input and status
broadcasts, configuration changes, accepts, reads, flushes, closes and the removal of
closed connections, and the shutdown at the end.  A run is any sequence of them, so
it covers the order in which `Run` and `PollClients` make them; what every system call
answered is part of the label.

Exceptions that leave `Run` end the process and are not steps.
-/

namespace EcSystemCore

/-- `kMaximumClients`. -/
def kMaximumClients : ℕ := 16

/-- `ReadClient` ends a pass that has read this much. -/
def kReadPassBytes : ℕ := 64 * 1024

namespace Daemon

/-! ### Adapter scans -/

/-- `PlannedBinding`. -/
structure PlannedBinding where
  resolution : AdapterResolution
  ready : Bool
  bindingChanged : Bool
  linkLost : Bool
  interfaceName : Bytes
  idPath : Bytes
  linkUp : Bool
  deriving DecidableEq, Repr

/-- What a scan plans for one bus. -/
def plan (identities : List AdapterIdentity) (slot : BusSlot) : PlannedBinding :=
  let runtime := slot.adapter
  let next := resolveAdapter identities slot.mapping.physicalInterface slot.mapping.lock
    runtime.runtimeUnlocked
  let interfaceName := next.identity.elim [] (·.interfaceName)
  let idPath := next.identity.elim [] (·.idPath)
  let linkUp := next.identity.any (·.linkUp)
  { resolution := next
    ready := next.ready
    bindingChanged := interfaceName != runtime.boundInterface || idPath != runtime.boundIdPath ||
      next.state != runtime.resolution.state || next.reason != runtime.resolution.reason
    linkLost := runtime.resolution.identity.any (·.linkUp) && !linkUp
    interfaceName := interfaceName
    idPath := idPath
    linkUp := linkUp }

/-- The last bus whose binding or link a scan finds changed, and why. -/
def safetyChange (planned : List PlannedBinding) : Option (DisableReason × ℕ) :=
  planned.zipIdx.foldl
    (fun change (next, index) =>
      if next.bindingChanged || next.linkLost then
        some (if next.linkLost then .linkLoss else .adapterMismatch, index)
      else change)
    none

/-- Carry out the plan for one bus. -/
def rebind (epoch : UInt64) (slot : BusSlot) (next : PlannedBinding) : BusSlot :=
  let started := slot.adapter.workerStarted
  let (bus, workerStarted) :=
    if !next.ready then (if started then slot.bus.stop else slot.bus, false)
    else if !started || next.bindingChanged then
      ((if started then slot.bus.stop else slot.bus).start next.interfaceName next.linkUp epoch,
        true)
    else (slot.bus.setLinkUp next.linkUp, true)
  { slot with
    bus := bus
    adapter := { slot.adapter with
      workerStarted := workerStarted
      boundInterface := next.interfaceName
      boundIdPath := next.idPath
      resolution := next.resolution } }

/-- A scan that finds a change advances the epoch before it touches a bus; the first scan
does not. -/
def advanceForScan (env : LoopEnv) (initial : Bool) (planned : List PlannedBinding)
    (d : Daemon) : Daemon :=
  match if initial then none else safetyChange planned with
  | none => d
  | some (reason, bus) => d.advanceEpoch env reason (UInt16.ofNat bus)

/-- Carry out the plan for every bus. -/
def rebindAll (planned : List PlannedBinding) (d : Daemon) : Daemon :=
  { d with slots := d.slots.zipWith (rebind d.safety.epoch) planned }

/-- `ScanAdapters`, on the adapters the scanner found. -/
def scanAdapters (env : LoopEnv) (initial : Bool) (identities : List AdapterIdentity)
    (d : Daemon) : Daemon :=
  let planned := d.slots.map (plan identities)
  (d.advanceForScan env initial planned).rebindAll planned

/-! ### Faults and timeouts -/

/-- `HandleBusFaults`. -/
def handleBusFaults (env : LoopEnv) (d : Daemon) : Daemon :=
  let observe (sequence : UInt64) (slot : BusSlot) : BusSlot :=
    { slot with adapter := { slot.adapter with observedFaultSequence := sequence } }
  let handle (d : Daemon) (index : ℕ) : Daemon :=
    let view := env.bus d.tick index
    if (d.slots[index]?).any fun slot =>
        slot.adapter.observedFaultSequence != view.faultSequence then
      let observed := { d.ticked with
        slots := d.slots.modify index (observe view.faultSequence) }
      observed.advanceEpoch env view.faultReason (UInt16.ofNat index)
    else d.ticked
  (List.range d.slots.length).foldl handle d

/-- The part of `HandleSafetyTimeouts` that follows a lease that ran out. -/
def leaseExpired (env : LoopEnv) (d : Daemon) (reason : DisableReason)
    (controller : Option ClientId) : Daemon :=
  ((d.applySafetyToBuses env).broadcastOutputsDisabled env reason
    0xffff).closeHolderAfterWrite controller

/-- `HandleSafetyTimeouts`. -/
def handleSafetyTimeouts (env : LoopEnv) (now : TimePoint) (d : Daemon) : Daemon :=
  let (outputs, checked) := d.react (.expireOutputCommands now)
  if outputs.epochChanged then
    checked.leaseExpired env .outputCommandTimeout d.safety.controllerId
  else
    let (heartbeat, expired) := checked.react (.expire now)
    if heartbeat.epochChanged then
      expired.leaseExpired env .heartbeatTimeout checked.safety.controllerId
    else expired

/-! ### Input snapshots -/

/-- A complete `InputPublicationAccumulator`. -/
structure InputPublication where
  epoch : UInt64
  frames : List Bytes
  totalBytes : ℕ
  deriving DecidableEq, Repr

/-- The part of `DrainInputs` that follows a complete snapshot of one bus. -/
def publishInputs (env : LoopEnv) (now : TimePoint) (d : Daemon)
    (publication : ℕ × InputPublication) : Daemon :=
  let (bus, snapshot) := publication
  let schedule (client : ClientConnection) : ClientConnection :=
    { client with
      nextInputPublication := Function.update client.nextInputPublication bus
        (now + client.inputPeriodMs.toNat * 1000000) }
  let send (d : Daemon) (index : ℕ) : Daemon :=
    if (d.clients[index]?).any fun client =>
        client.helloReceived && client.subscribeInputs && client.isOpen &&
          !decide (now < client.nextInputPublication bus) then
      let scheduled := d.updateClient index schedule
      if snapshot.epoch = d.safety.epoch then
        (scheduled.queueFramesAtomically env index snapshot.frames snapshot.totalBytes).2
      else scheduled
    else d
  (List.range d.clients.length).foldl send d

/-! ### Connections -/

/-- What the kernel says about the peer of an accepted connection; `none` when
`SO_PEERCRED` fails. -/
structure PeerCredentials where
  pid : Int
  uid : UInt32
  gid : UInt32
  groups : List UInt32
  deriving DecidableEq, Repr

/-- The part of `AcceptClients` that follows one accepted descriptor. -/
def acceptClient (env : LoopEnv) (credentials : Option PeerCredentials) (d : Daemon) : Daemon :=
  match credentials with
  | none => d
  | some peer =>
    if d.clients.length ≥ kMaximumClients ∨ peer.pid ≤ 0 ∨
        d.clients.countP (fun client => client.isOpen && client.uid = peer.uid) ≥ 8 then d
    else
      -- the counter skips zero when it wraps
      let id := if d.nextClientId = 0 then 1 else d.nextClientId
      let groups := ((peer.gid :: peer.groups.take 256).mergeSort (· ≤ ·)).dedup
      { d.ticked with
        clients := d.clients ++
          [{ id := id, pid := UInt32.ofInt peer.pid, uid := peer.uid, peerGroups := groups,
             rateUpdated := env.now d.tick }]
        nextClientId := id + 1
        accepted := d.accepted + 1 }

/-- `ConsumeRateToken`. -/
def consumeRateToken (env : LoopEnv) (d : Daemon) (index : ℕ) : Bool × Daemon :=
  match d.clients[index]? with
  | none => (false, d)
  | some client =>
    let now := env.now d.tick
    let tokens := min client.rateCapacity
      (client.rateTokens + (now - client.rateUpdated) * client.rateRefillPerSecond)
    if tokens < 1000000000 then
      let refuse (client : ClientConnection) : ClientConnection :=
        { client with
          rateUpdated := now, rateTokens := tokens, closeAfterWrite := true, refused := true }
      (false,
        ((d.ticked.updateClient index refuse).queueAck env index .error 0 .queueFull 0 true).2)
    else
      let spend (client : ClientConnection) : ClientConnection :=
        { client with rateUpdated := now, rateTokens := tokens - 1000000000 }
      (true, d.ticked.updateClient index spend)

/-- Record that a frame is handed to `HandleFrame`. -/
def recordHandled (frame : Frame) (client : ClientConnection) : ClientConnection :=
  { client with
    handled := client.handled ++ [frame]
    handledAfterRefusal := client.handledAfterRefusal || client.refused }

/-- The frames of one batch, until one is refused or closes the connection. -/
def handleFrames (env : LoopEnv) (index : ℕ) : List Frame → Daemon → Bool × Daemon
  | [], d => (true, d)
  | frame :: rest, d =>
    let (accepted, charged) := d.consumeRateToken env index
    if !accepted then (false, charged)
    else
      let (goesOn, handled) :=
        (charged.updateClient index (recordHandled frame)).handleFrame env index frame
      if !goesOn then (false, handled) else handleFrames env index rest handled

/-- What one `recv` answers; no bytes is the end of the stream. -/
inductive RecvResult where
  | data (bytes : Bytes)
  | interrupted
  | failed
  deriving DecidableEq, Repr

/-- The bytes of one `recv` go through the decoder, and its frames to their handlers:
whether the pass may go on reading. -/
def readBatch (env : LoopEnv) (index : ℕ) (bytes : Bytes) (d : Daemon) : Bool × Daemon :=
  match d.clients[index]? with
  | none => (false, d)
  | some client =>
    let (decoded, frames, decoder) := client.decoder.feed bytes
    let store (client : ClientConnection) : ClientConnection :=
      { client with decoder := decoder, received := client.received ++ bytes }
    let fed := d.updateClient index store
    if !decoded then (false, closeClient env fed index)
    else handleFrames env index frames fed

/-- `ReadClient`: `recv` answers `EAGAIN` when the list is used up, and fails on a
descriptor that was closed. -/
def readClient (env : LoopEnv) (index : ℕ) : ℕ → List RecvResult → Daemon → Daemon
  | _, [], d => d
  | totalRead, result :: rest, d =>
    if !(d.clients[index]?).any (·.isOpen) then closeClient env d index
    else
      match result with
      | .interrupted => readClient env index totalRead rest d
      | .failed => closeClient env d index
      | .data [] => closeClient env d index
      | .data (byte :: bytes) =>
        let total := totalRead + (bytes.length + 1)
        let (goesOn, served) := readBatch env index (byte :: bytes) d
        if !goesOn || kReadPassBytes ≤ total then served
        else readClient env index total rest served

/-- `RemoveClosedClients`. -/
def removeClosedClients (d : Daemon) : Daemon :=
  { d with clients := d.clients.filter (·.isOpen) }

/-! ### Shutdown -/

/-- The end of `Run`: `AdvanceEpoch`, `FlushClientsFor` and `Shutdown`. -/
def stop (env : LoopEnv) (flushes : List (ℕ × List SendResult)) (d : Daemon) : Daemon :=
  let flush (d : Daemon) (flush : ℕ × List SendResult) : Daemon :=
    if (d.clients[flush.1]?).any fun client => client.isOpen && !client.outgoing.isEmpty then
      flushClient env flush.1 flush.2 d
    else d
  let flushed := flushes.foldl flush (d.advanceEpoch env .shutdown 0xffff)
  let halt (slot : BusSlot) : BusSlot :=
    { slot with bus := (slot.bus.setSafety flushed.safety.epoch false false).stop }
  { flushed with
    slots := flushed.slots.map halt
    clients := []
    shutdown := true }

/-! ### Steps -/

/-- The steps of the event loop, and the one thing a worker does to a bus handle. -/
inductive LoopStep where
  | scanAdapters (initial : Bool) (identities : List AdapterIdentity)
  | handleBusFaults
  | handleSafetyTimeouts (now : TimePoint)
  | drainInputs (now : TimePoint) (publications : List (ℕ × InputPublication))
  | broadcastStatus (status : Bytes)
  | broadcastBusInformation (information : List Bytes)
  | configurationChanged
  | acceptClient (credentials : Option PeerCredentials)
  | readClient (index : ℕ) (results : List RecvResult)
  | flushClient (index : ℕ) (results : List SendResult)
  | closeClient (index : ℕ)
  | removeClosedClients
  | workerRevokes (bus : ℕ)
  | stop (flushes : List (ℕ × List SendResult))

/-- What one step does. -/
def perform (env : LoopEnv) (d : Daemon) : LoopStep → Daemon
  | .scanAdapters initial identities =>
    { d.scanAdapters env initial identities with forceAdapterScan := false }
  | .handleBusFaults => d.handleBusFaults env
  | .handleSafetyTimeouts now => d.handleSafetyTimeouts env now
  | .drainInputs now publications => publications.foldl (publishInputs env now) d
  | .broadcastStatus status => broadcastWith (closeClient env) env status d
  | .broadcastBusInformation information =>
    information.foldl (fun d frame => broadcastWith (closeClient env) env frame d) d
  | .configurationChanged => d.advanceEpoch env .reinitialization 0xffff
  | .acceptClient credentials => d.acceptClient env credentials
  | .readClient index results => readClient env index 0 results d
  | .flushClient index results => flushClient env index results d
  | .closeClient index => closeClient env d index
  | .removeClosedClients => d.removeClosedClients
  | .workerRevokes bus =>
    { d with slots := d.slots.modify bus fun slot => { slot with bus := slot.bus.revoke } }
  | .stop flushes => d.stop env flushes

/-- One step with what its environment answered; none is left after the shutdown. -/
def step (d : Daemon) (label : LoopEnv × LoopStep) : Option Daemon :=
  if d.shutdown then none else some (d.perform label.1 label.2)

/-- The daemon its constructor builds; `controllerGid` is the id of the configured
controller group, when the system has one. -/
def start (configuration : DaemonConfig) (initialEpoch : UInt64)
    (controllerGid : Option UInt32) : Daemon :=
  let gids := match controllerGid with
    | none => configuration.controllerGids
    | some gid => ((configuration.controllerGids ++ [gid]).mergeSort (· ≤ ·)).dedup
  { configuration := { configuration with controllerGids := gids }
    safety := .new initialEpoch configuration.heartbeatTimeout
      configuration.outputCommandTimeout
    slots := configuration.interfaces.map fun mapping => { mapping := mapping } }

end Daemon

end EcSystemCore
