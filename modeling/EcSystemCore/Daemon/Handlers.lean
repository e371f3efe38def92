import EcSystemCore.Daemon.Queue

/-!
# The request handlers

`HandleFrame` and the nine handlers it dispatches to.  A handler answers whether the
connection may go on reading: `false` means that it has been closed.
-/

namespace EcSystemCore

/-! ### The controller's rate -/

/-- `ControllerRateLimit`. -/
structure ControllerRateLimit where
  burstFrames : UInt32
  framesPerSecond : UInt32
  deriving DecidableEq, Repr

/-- `std::clamp<std::uint64_t>`. -/
def clampUInt64 (value low high : UInt64) : UInt64 :=
  if value < low then low else if high < value then high else value

/-- `CalculateControllerRateLimit`. -/
def calculateControllerRateLimit (outputTargetCount : UInt64) (outputCommandTimeout : Int) :
    ControllerRateLimit :=
  let timeoutMs := if outputCommandTimeout > 0 then UInt64.ofInt outputCommandTimeout else 1
  let refreshesPerSecond := (1000 + timeoutMs - 1) / timeoutMs
  let requiredWrites := if outputTargetCount > 200000 / refreshesPerSecond then 200000
    else outputTargetCount * refreshesPerSecond
  let rateWithHeadroom := if requiredWrites > (200000 - 100) / 2 then 200000
    else requiredWrites * 2 + 100
  let burstWithHeadroom := if outputTargetCount > (10000 - 64) / 3 then 10000
    else outputTargetCount * 3 + 64
  { burstFrames := (clampUInt64 burstWithHeadroom 500 10000).toUInt32
    framesPerSecond := (clampUInt64 rateWithHeadroom 2000 200000).toUInt32 }

/-- Give a connection the controller's token bucket, full. -/
def ClientConnection.setRate (rate : ControllerRateLimit) (client : ClientConnection) :
    ClientConnection :=
  { client with
    rateCapacity := rate.burstFrames.toNat * 1000000000
    rateRefillPerSecond := rate.framesPerSecond.toNat
    rateTokens := rate.burstFrames.toNat * 1000000000 }

/-- What a Hello leaves on its connection. -/
def ClientConnection.greet (hello : HelloPayload) (granted : ClientRole)
    (client : ClientConnection) : ClientConnection :=
  { client with
    helloReceived := true
    role := granted
    subscribeInputs := hello.subscribeInputs
    inputPeriodMs := hello.inputPeriodMs }

namespace Daemon

variable (env : LoopEnv) (d : Daemon) (index : ℕ) (client : ClientConnection) (frame : Frame)

/-- The configured SubDevices that take outputs. -/
def outputTargets : ℕ :=
  (d.slots.map fun slot => slot.mapping.expectedSubDevices.countP fun subDevice =>
    subDevice.outputBytes.getD 0 ≠ 0).sum

/-! ### Hello -/

/-- The role a Hello is granted: the controller's when it asks for it, may have it and
gets the lease. -/
def grantRole (hello : HelloPayload) : ClientRole × Daemon :=
  if hello.role = .controller && controllerAuthorized d.configuration client then
    let (acquisition, acquired) := d.react (.acquire client.id client.pid (env.now d.tick))
    if acquisition.status = .ok then
      let rate := calculateControllerRateLimit (UInt64.ofNat d.outputTargets)
        d.configuration.outputCommandTimeout
      (.controller, (acquired.updateClient index (·.setRate rate)).applySafetyToBuses env)
    else (.observer, acquired)
  else (.observer, d)

/-- The payload of the answer to a Hello. -/
def helloAck (granted : ClientRole) : HelloAckPayload where
  grantedRole := granted
  outputsEnabled := d.safety.outputsEnabled
  heartbeatTimeoutMs := UInt16.ofInt d.configuration.heartbeatTimeout
  epoch := d.safety.epoch
  peerPid := client.pid
  capabilities := if d.outputCapabilityAvailable env then kCapabilities
    else kCapabilities &&& ~~~capabilityOutputs

/-- The part of `HandleHello` between the decoded payload and the answer. -/
def greetClient (hello : HelloPayload) : ClientRole × Daemon :=
  let (granted, decided) := d.grantRole env index client hello
  (granted, (decided.updateClient index (·.greet hello granted)).updateInputPublicationDemand)

/-- `HandleHello`. -/
def handleHello : Bool × Daemon :=
  match decodeHelloPayload frame.payload with
  | none => (false, closeClient env d index)
  | some hello =>
    let (granted, greeted) := d.greetClient env index client hello
    greeted.queueFrame env index
      (encodeFrame .helloAck frame.requestId
        (encodeHelloAckPayload (greeted.helloAck env client granted))) true

/-! ### The controller's requests -/

/-- The answer to a payload that does not decode. -/
def malformed : Bool × Daemon :=
  d.queueAck env index .error frame.requestId .malformed 0 true

/-- `HandleHeartbeat`. -/
def handleHeartbeat : Bool × Daemon :=
  match decodeEpochPayload frame.payload with
  | none => d.malformed env index frame
  | some epoch =>
    let (result, refreshed) := d.react (.heartbeat client.id epoch (env.now d.tick))
    refreshed.queueAck env index .ack frame.requestId result.status 0 true

/-- `HandleOutputEnable`. -/
def handleOutputEnable : Bool × Daemon :=
  match decodeOutputEnablePayload frame.payload with
  | none => d.malformed env index frame
  | some request =>
    let (result, decided) := d.react (.setOutputEnabled client.id request.epoch
      request.enabled (d.allBusesOperational env) (env.now d.tick))
    let (queued, answered) := (decided.applySafetyToBuses env).queueAck env index .ack
      frame.requestId result.status 0 true
    if result.status = .ok && !request.enabled then
      (queued, (answered.broadcastOutputsDisabled env .requested 0xffff).closeAfterWrite index)
    else (queued, answered)

/-- `HandleOutputWrite`. -/
def handleOutputWrite : Bool × Daemon :=
  match decodeOutputWritePayload frame.payload with
  | none => d.malformed env index frame
  | some request =>
    let answer (d : Daemon) (status : AckStatus) : Bool × Daemon :=
      d.queueAck env index .ack frame.requestId status 0 true
    let authorization := d.safety.authorizeWrite client.id request.epoch
    let view := env.bus d.tick request.busIndex.toNat
    if authorization.status ≠ .ok then answer d authorization.status
    else if request.busIndex.toNat ≥ d.slots.length then answer d .badTarget
    else if view.validateOutput ≠ .ok then answer d view.validateOutput
    else if env.monotonicMicros d.tick = 0 then answer d .internalError
    else if !view.queueOutput then answer d .queueFull
    else
      let (refreshed, recorded) :=
        d.react (.recordOutputWrite client.id request.epoch (env.now d.tick))
      answer recorded (if refreshed.status ≠ .ok then refreshed.status else .ok)

/-- `HandleRelease`. -/
def handleRelease : Bool × Daemon :=
  match decodeEpochPayload frame.payload with
  | none => d.malformed env index frame
  | some epoch =>
    let (result, released) := d.react (.release client.id epoch)
    let (queued, answered) :=
      released.queueAck env index .ack frame.requestId result.status 0 true
    if result.epochChanged then
      (queued, ((answered.applySafetyToBuses env).broadcastOutputsDisabled env .requested
        0xffff).closeAfterWrite index)
    else (queued, answered)

/-- Set the run-time unlock of one bus. -/
def unlockAdapter (bus : ℕ) : Daemon :=
  let unlock (slot : BusSlot) : BusSlot :=
    { slot with adapter := { slot.adapter with runtimeUnlocked := true } }
  { d with slots := d.slots.modify bus unlock }

/-- `HandleAdapterUnlock`. -/
def handleAdapterUnlock : Bool × Daemon :=
  match decodeAdapterUnlockPayload frame.payload with
  | none => d.malformed env index frame
  | some request =>
    let authorization := d.safety.authorizeController client.id request.epoch
    if authorization.status ≠ .ok then
      d.queueAck env index .ack frame.requestId authorization.status 0 true
    else if request.busIndex.toNat ≥ d.slots.length then
      d.queueAck env index .ack frame.requestId .badTarget 0 true
    else
      let (queued, answered) := (d.unlockAdapter request.busIndex.toNat).queueAck env index
        .ack frame.requestId .ok 0 true
      (queued,
        { answered.advanceEpoch env .adapterMismatch request.busIndex with
          forceAdapterScan := true })

/-! ### Requests of any client -/

/-- `HandleClearCounters`; the counters themselves are not modelled. -/
def handleClearCounters : Bool × Daemon :=
  if !frame.payload.isEmpty then d.malformed env index frame
  else d.queueAck env index .ack frame.requestId .ok 0 true

/-- `HandleSubscribeInputs`. -/
def handleSubscribeInputs : Bool × Daemon :=
  match decodeSubscribeInputsPayload frame.payload with
  | none => d.malformed env index frame
  | some subscription =>
    let subscribe (client : ClientConnection) : ClientConnection :=
      { client with
        subscribeInputs := subscription.enabled
        inputPeriodMs := subscription.periodMs }
    (d.updateClient index subscribe).updateInputPublicationDemand.queueAck env index .ack
      frame.requestId .ok 0 true

/-- `HandleAdapterRescan`. -/
def handleAdapterRescan : Bool × Daemon :=
  if !frame.payload.isEmpty then d.malformed env index frame
  else
    let now := env.now d.tick
    let noted : Daemon :=
      if now ≥ d.nextObserverRescanAllowed then
        { d with
          forceAdapterScan := true
          nextObserverRescanAllowed := now + 250 * 1000000 }
      else d
    noted.queueAck env index .ack frame.requestId .ok 0 true

/-! ### Dispatch -/

/-- `HandleFrame`, for the connection at `index`. -/
def handleFrame : Bool × Daemon :=
  match d.clients[index]? with
  | none => (false, d)
  | some client =>
    if (frame.requestId = 0 && frame.type ≠ .hello) ||
        frame.type.code > MessageType.adapterRescan.code then
      (false, closeClient env d index)
    else if !client.helloReceived && frame.type ≠ .hello then
      (false, closeClient env d index)
    else if client.helloReceived && frame.type = .hello then
      (false, closeClient env d index)
    else
      match frame.type with
      | .hello => d.handleHello env index client frame
      | .heartbeat => d.handleHeartbeat env index client frame
      | .outputEnable => d.handleOutputEnable env index client frame
      | .outputWrite => d.handleOutputWrite env index client frame
      | .clearCounters => d.handleClearCounters env index frame
      | .releaseControl => d.handleRelease env index client frame
      | .subscribeInputs => d.handleSubscribeInputs env index frame
      | .adapterUnlock => d.handleAdapterUnlock env index client frame
      | .adapterRescan => d.handleAdapterRescan env index frame
      | _ => (false, closeClient env d index)

end Daemon

end EcSystemCore
