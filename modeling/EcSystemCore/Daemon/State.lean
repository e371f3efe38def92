import EcSystemCore.Adapter.Identity
import EcSystemCore.Bus.Handle
import EcSystemCore.Protocol.Framing
import EcSystemCore.Safety.GateHistory

/-!
# The daemon's state

The members of `Daemon` and `ClientConnection` that the event loop reads and
writes.  `buses_`, `adapters_` and `configuration_.interfaces` are vectors of one
length indexed together, so they are one list of slots.

Everything the loop learns from outside (clocks, the workers' atomics, failing
allocations) comes from a `LoopEnv`, one answer per query: `tick` counts the
queries, so no two of them are forced to agree.

Some members of the model are not in the source; they record what happened and
nothing reads them: `advances` and `accepted` of the daemon, and what a connection
has received, handled and been refused.
-/

namespace EcSystemCore

/-- What a bus answers to the daemon thread: what its worker's atomics hold, what
`ValidateOutput` says and whether the command queue has room. -/
structure BusView where
  /-- What the two loads of `SetSafety` find. -/
  faultLatched : Bool := false
  state : BusState := .starting
  safetyBarrierComplete : Bool := true
  distributedClockHealthy : Bool := true
  outputTopologyVerified : Bool := false
  validateOutput : AckStatus := .ok
  queueOutput : Bool := true
  faultSequence : UInt64 := 0
  faultReason : DisableReason := .processDataFault

/-- The environment of the event loop: its answer to each query. -/
structure LoopEnv where
  /-- `steady_clock::now()`. -/
  now : ℕ → TimePoint := fun _ => 0
  /-- `MonotonicMicros()`. -/
  monotonicMicros : ℕ → UInt64 := fun _ => 1
  /-- The allocation of a reply's shared frame throws. -/
  allocationFails : ℕ → Bool := fun _ => false
  globalFaultedEpoch : ℕ → UInt64 := fun _ => 0
  bus : ℕ → ℕ → BusView := fun _ _ => {}

/-- `AdapterRuntime`. -/
structure AdapterRuntime where
  resolution : AdapterResolution := {}
  runtimeUnlocked : Bool := false
  workerStarted : Bool := false
  boundInterface : Bytes := []
  boundIdPath : Bytes := []
  observedFaultSequence : UInt64 := 0
  deriving DecidableEq, Repr

/-- One configured bus: its entry in `configuration_.interfaces`, `buses_` and
`adapters_`. -/
structure BusSlot where
  mapping : InterfaceConfig
  bus : BusHandle := {}
  adapter : AdapterRuntime := {}
  deriving DecidableEq, Repr

/-- `ClientConnection`.  The token bucket counts in billionths of a token, so that
nanoseconds times tokens per second is exact. -/
structure ClientConnection where
  /-- `descriptor >= 0`. -/
  isOpen : Bool := true
  id : ClientId := 0
  pid : UInt32 := 0
  uid : UInt32 := 0
  peerGroups : List UInt32 := []
  helloReceived : Bool := false
  role : ClientRole := .observer
  subscribeInputs : Bool := false
  inputPeriodMs : UInt16 := 100
  nextInputPublication : ℕ → TimePoint := fun _ => 0
  decoder : FrameDecoder := {}
  outgoing : List Bytes := []
  outgoingOffset : ℕ := 0
  outgoingBytes : ℕ := 0
  closeAfterWrite : Bool := false
  rateUpdated : TimePoint := 0
  rateTokens : Int := 500 * 1000000000
  rateCapacity : Int := 500 * 1000000000
  rateRefillPerSecond : Int := 1000
  optionalQueueDrops : ℕ := 0
  firstOptionalDrop : TimePoint := 0
  /-- Recorded: every byte `recv` has returned. -/
  received : Bytes := []
  /-- Recorded: the frames handed to `HandleFrame`. -/
  handled : List Frame := []
  /-- Recorded: the rate limiter has refused a frame. -/
  refused : Bool := false
  /-- Recorded: a frame was handed to `HandleFrame` after one had been refused. -/
  handledAfterRefusal : Bool := false

/-- `Daemon`. -/
structure Daemon where
  configuration : DaemonConfig
  safety : SafetyGate
  slots : List BusSlot
  clients : List ClientConnection := []
  nextClientId : UInt64 := 1
  forceAdapterScan : Bool := false
  nextObserverRescanAllowed : TimePoint := 0
  shutdown : Bool := false
  /-- Queries made to the environment so far. -/
  tick : ℕ := 0
  /-- Recorded: epoch advances so far. -/
  advances : ℕ := 0
  /-- Recorded: connections accepted so far. -/
  accepted : ℕ := 0

namespace Daemon

/-- Change one connection. -/
def updateClient (d : Daemon) (index : ℕ) (f : ClientConnection → ClientConnection) :
    Daemon :=
  { d with clients := d.clients.modify index f }

theorem getElem?_updateClient (d : Daemon) (index : ℕ)
    (f : ClientConnection → ClientConnection) :
    (d.updateClient index f).clients[index]? = d.clients[index]?.map f :=
  List.getElem?_modify_eq f index d.clients

/-- A query has been answered. -/
def ticked (d : Daemon) : Daemon := { d with tick := d.tick + 1 }

/-- An operation of the gate. -/
def react (d : Daemon) (op : GateOp) : GateResult × Daemon :=
  let (result, safety) := d.safety.react op
  (result,
    { d with
      safety := safety
      advances := d.advances + if result.epochChanged then 1 else 0 })

/-- `ApplySafetyToBuses`. -/
def applySafetyToBuses (env : LoopEnv) (d : Daemon) : Daemon :=
  let push (index : ℕ) (slot : BusSlot) : BusSlot :=
    { slot with
      bus := slot.bus.setSafety d.safety.epoch d.safety.outputsEnabled
        (env.bus d.tick index).faultLatched }
  { d with slots := d.slots.mapIdx push, tick := d.tick + 1 }

/-- The fastest input period any open subscriber asked for, zero without one. -/
def fastestPeriodMs (clients : List ClientConnection) : UInt16 :=
  clients.foldl
    (fun fastest client =>
      if !client.helloReceived || !client.subscribeInputs || !client.isOpen then fastest
      else if fastest = 0 || client.inputPeriodMs < fastest then client.inputPeriodMs
      else fastest)
    0

/-- `UpdateInputPublicationDemand`. -/
def updateInputPublicationDemand (d : Daemon) : Daemon :=
  let push (slot : BusSlot) : BusSlot :=
    { slot with bus := slot.bus.setInputPublicationPeriod (fastestPeriodMs d.clients) }
  { d with slots := d.slots.map push }

/-- `FindClient`: the place of the open connection with this id. -/
def findClient (d : Daemon) (id : ClientId) : Option ℕ :=
  d.clients.findIdx? fun client => client.id = id && client.isOpen

/-- `ControllerAuthorized`.  The configured group ids are sorted, so the source's
binary search is membership. -/
def controllerAuthorized (configuration : DaemonConfig) (client : ClientConnection) : Bool :=
  configuration.controllerUids.contains client.uid ||
    client.peerGroups.any configuration.controllerGids.contains

/-- `AllBusesOperational`. -/
def allBusesOperational (env : LoopEnv) (d : Daemon) : Bool :=
  let operational (index : ℕ) (slot : BusSlot) : Bool :=
    let view := env.bus d.tick index
    slot.adapter.resolution.ready && slot.adapter.resolution.identity.any (·.linkUp) &&
      view.state = .operational && view.safetyBarrierComplete && view.distributedClockHealthy
  !d.slots.isEmpty && env.globalFaultedEpoch d.tick != d.safety.epoch &&
    (d.slots.mapIdx operational).all id &&
    (List.range d.slots.length).any fun index => (env.bus d.tick index).outputTopologyVerified

/-- `OutputCapabilityAvailable`. -/
def outputCapabilityAvailable (env : LoopEnv) (d : Daemon) : Bool :=
  (List.range d.slots.length).any fun index => (env.bus d.tick index).outputTopologyVerified

end Daemon

end EcSystemCore
