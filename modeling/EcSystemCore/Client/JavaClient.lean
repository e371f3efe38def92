import EcSystemCore.Client.CommandFutures
import EcSystemCore.Client.JavaCodec
import EcSystemCore.Lib.Execution

/-!
# The Java client

`SystemCoreClient.java`: calls of any number of threads, and one worker that runs one
transport generation after the other.  A step is one access to what they share.  A call
reads the session, which is an `AtomicReference`; a disable or release then raises the
barrier by `compareAndSet`, which compares references and not values (`stamp`); the call
acquires a slot, checks that the client runs, and offers its command.  A turn of
`processCommands` is one step: what it decides on, apart from the queue, is written by the
worker alone.

The parts of the worker's loop may come in any order, and a session may end at any time: by
an exception, by `forceReconnect` or by `requestReconnect`.  The decoder, the listener, the
health and the retained status, bus and input data are left out; so are frames that change
nothing else.  `log` is what has happened so far.
-/

namespace EcSystemCore.Java

/-! ### Sessions -/

/-- `SessionView`. -/
structure SessionView where
  generation : ℕ
  ready : Bool
  role : ClientRole
  epoch : Int64
  outputsEnabled : Bool
  disableBarrier : Bool
  deriving DecidableEq, Repr

namespace SessionView

/-- `SessionView.disconnected`. -/
def disconnected (generation : ℕ) : SessionView := ⟨generation, false, .observer, 0, false, true⟩

/-- `SessionView.handshaking`. -/
def handshaking (generation : ℕ) : SessionView := ⟨generation, false, .observer, 0, false, true⟩

/-- `withDisableBarrier`. -/
def withDisableBarrier (view : SessionView) : SessionView := { view with disableBarrier := true }

/-- `controllerReady`. -/
def controllerReady (view : SessionView) : Bool := view.ready && view.role = .controller

end SessionView

/-! ### Calls -/

/-- The calls that make a command. -/
inductive ApiCall where
  | setOutputsEnabled (enabled : Bool)
  | writeOutput (busIndex subDeviceIndex offset : ℤ) (data : Bytes)
  | tryWriteOutput (busIndex subDeviceIndex offset : ℤ) (data : Bytes)
  | clearCounters
  | subscribeInputs (enabled : Bool) (periodMillis : ℤ)
  | unlockAdapter (busIndex : ℤ)
  | rescanAdapters
  | releaseControl
  deriving DecidableEq, Repr

namespace ApiCall

/-- The message type of the command. -/
def type : ApiCall → MessageType
  | setOutputsEnabled _ => .outputEnable
  | writeOutput .. | tryWriteOutput .. => .outputWrite
  | clearCounters => .clearCounters
  | subscribeInputs .. => .subscribeInputs
  | unlockAdapter _ => .adapterUnlock
  | rescanAdapters => .adapterRescan
  | releaseControl => .releaseControl

/-- The kind of the command. -/
def kind : ApiCall → CommandKind
  | setOutputsEnabled true => .enable
  | setOutputsEnabled false => .disable
  | writeOutput .. | tryWriteOutput .. => .write
  | releaseControl => .release
  | _ => .generic

/-- The payload of the command; `none` is an `IllegalArgumentException`. -/
def payload (api : ApiCall) (epoch : Int64) : Option Bytes :=
  match api with
  | setOutputsEnabled enabled => encodeOutputEnable epoch enabled
  | writeOutput busIndex subDeviceIndex offset data
  | tryWriteOutput busIndex subDeviceIndex offset data =>
    encodeOutputWrite epoch busIndex subDeviceIndex offset data
  | clearCounters | rescanAdapters => some []
  | subscribeInputs enabled periodMillis => encodeSubscription enabled periodMillis
  | unlockAdapter busIndex => encodeAdapterUnlock epoch busIndex
  | releaseControl => encodeEpoch epoch

/-- Why the call is refused in the session it read; `tryWriteOutput` just returns false. -/
def refusal (api : ApiCall) (view : SessionView) : Option String :=
  match api with
  | setOutputsEnabled enabled =>
    if !view.controllerReady then some "controller session is not ready"
    else if view.disableBarrier then
      some (if enabled then "fresh connection required after output disable"
        else "output disable is already in progress")
    else none
  | writeOutput .. | tryWriteOutput .. =>
    if !view.controllerReady || !view.outputsEnabled || view.disableBarrier then
      some "outputs are not enabled in this generation"
    else none
  | clearCounters | subscribeInputs .. | rescanAdapters =>
    if view.ready then none else some "session is not ready"
  | unlockAdapter _ =>
    if !view.controllerReady || view.outputsEnabled || view.disableBarrier then
      some "adapter unlock requires a disabled controller session"
    else none
  | releaseControl =>
    if !view.controllerReady then some "controller session is not ready"
    else if view.disableBarrier then some "control release is already in progress"
    else none

/-- The call submits its command with a future. -/
def submits : ApiCall → Bool
  | tryWriteOutput .. => false
  | _ => true

end ApiCall

/-- What a call returns. -/
inductive Reply where
  /-- A future that has failed, or false. -/
  | refused (message : String)
  | threw
  | future (future : ℕ)
  | offered (accepted : Bool)
  deriving DecidableEq, Repr

/-- How far a call is: what it does next. -/
inductive Progress where
  /-- `session.get`, once more. -/
  | reading
  /-- `session.compareAndSet`. -/
  | comparing (stamp : ℕ) (view : SessionView)
  /-- `futureSlots.tryAcquire`. -/
  | captured (view : SessionView) (payload : Bytes)
  /-- `running.get`; the command of `tryWriteOutput` has no future. -/
  | created (view : SessionView) (payload : Bytes) (result : Option ℕ)
  /-- `commands.offer`. -/
  | offering (view : SessionView) (payload : Bytes) (result : Option ℕ)
  | returned (reply : Reply)
  deriving DecidableEq, Repr

/-- A call and how far it is. -/
structure Call where
  api : ApiCall
  progress : Progress
  deriving DecidableEq, Repr

/-! ### Transports -/

/-- `OutboundFrame`: the bytes that are left, and the size of the frame. -/
structure OutboundFrame where
  bytes : Bytes
  size : ℕ
  deriving DecidableEq, Repr

/-- `HEARTBEAT_FRAME_BYTES`. -/
def heartbeatFrameBytes : ℕ := kLengthPrefixSize + kEnvelopeSize + 8

/-- `Transport`; its pending requests are in `CommandFutures`. -/
structure Transport where
  outbound : List OutboundFrame := []
  outboundBytes : ℕ := 0
  requestId : UInt32 := 1
  heartbeatRequestId : UInt32 := 0
  handshakeComplete : Bool := false
  deriving DecidableEq, Repr

namespace Transport

/-- `nextRequestId`. -/
def nextRequestId (transport : Transport) : UInt32 × Transport :=
  (transport.requestId, { transport with
    requestId := if transport.requestId = 0xffffffff then 1 else transport.requestId + 1 })

/-- `canEnqueue`. -/
def canEnqueue (transport : Transport) (maximumOutboundBytes size : ℕ) : Bool :=
  transport.outboundBytes + size ≤ maximumOutboundBytes

/-- `canEnqueueCommand`. -/
def canEnqueueCommand (transport : Transport) (maximumOutboundBytes size : ℕ) : Bool :=
  transport.outboundBytes + heartbeatFrameBytes + size ≤ maximumOutboundBytes

/-- `enqueue` of a frame for which there is room. -/
def enqueue (transport : Transport) (bytes : Bytes) : Transport :=
  { transport with
    outbound := transport.outbound ++ [⟨bytes, bytes.length⟩]
    outboundBytes := transport.outboundBytes + bytes.length }

/-- A turn of the loop of `flush` in which `channel.write` takes `written` bytes. -/
def flush (transport : Transport) (written : ℕ) : Option Transport :=
  match transport.outbound with
  | [] => none
  | frame :: frames =>
    if written = 0 ∨ frame.bytes.length < written then none
    else if frame.bytes.length = written then
      some { transport with
        outbound := frames
        outboundBytes := transport.outboundBytes - frame.size }
    else some { transport with
      outbound := { frame with bytes := frame.bytes.drop written } :: frames }

end Transport

/-! ### The client -/

/-- The part of `SystemCoreConfig` that is used here. -/
structure Config where
  requestedRole : ClientRole := .controller
  subscribeInputs : Bool := true
  inputPeriodMillis : ℤ := 100
  maximumQueuedCommands : ℕ := 128
  maximumOutboundBytes : ℕ := 65536
  deriving DecidableEq, Repr

/-- What the worker is doing; its generation is that of the counter. -/
inductive Worker where
  | stopped
  /-- Between two generations. -/
  | waiting
  /-- In `runSession`, before the transport is made. -/
  | connecting
  /-- In the loop of `runSession`. -/
  | serving
  /-- `runSession` is over. -/
  | ended
  /-- In the loop of `failQueuedCommands`. -/
  | failing
  deriving DecidableEq, Repr

/-- What has happened. -/
inductive Event where
  /-- The call has captured a session and goes on to make its command. -/
  | captured (call : ℕ) (view : SessionView)
  /-- A disable or release has raised the barrier. -/
  | raised (generation : ℕ)
  /-- The HelloAck of a generation was accepted. -/
  | greeted (generation : ℕ) (epoch : Int64)
  /-- The command of a call was put on the outbound queue of a generation's transport. -/
  | enqueued (generation : ℕ) (call : ℕ) (api : ApiCall) (frame : Bytes)
  deriving DecidableEq, Repr

/-- `SystemCoreClient`. -/
structure Client extends CommandFutures Int64 where
  running : Bool := false
  closed : Bool := false
  session : SessionView := .disconnected 0
  /-- The number of references that have been stored in `session`. -/
  stamp : ℕ := 0
  generationCounter : ℕ := 0
  worker : Worker := .stopped
  transport : Transport := {}
  lastSeenEpoch : Int64 := 0
  calls : List Call := []
  log : List Event := []
  deriving DecidableEq, Repr

namespace Client

/-- A new client. -/
def create (config : Config) : Client :=
  { CommandFutures.new config.maximumQueuedCommands with }

/-- `outputsEnabled`. -/
def outputsEnabled (client : Client) : Bool :=
  client.session.ready && client.session.role = .controller && client.session.outputsEnabled &&
    !client.session.disableBarrier

/-- `session.set`. -/
def setSession (client : Client) (view : SessionView) : Client :=
  { client with session := view, stamp := client.stamp + 1 }

/-- The call goes on. -/
def setProgress (client : Client) (index : ℕ) (progress : Progress) : Client :=
  { client with calls := client.calls.modify index fun call => { call with progress } }

/-- Other futures. -/
def withFutures (client : Client) (futures : CommandFutures Int64) : Client :=
  { client with toCommandFutures := futures }

/-! ### The steps of a call -/

/-- The session is captured and the payload made. -/
def capture (client : Client) (index : ℕ) (api : ApiCall) (view : SessionView) : Client :=
  match api.payload view.epoch with
  | none => client.setProgress index (.returned .threw)
  | some payload =>
    { client.setProgress index (if api.submits then .captured view payload
        else .created view payload none) with
      log := client.log ++ [.captured index view] }

/-- The call reads the session. -/
def readSession (client : Client) (index : ℕ) (api : ApiCall) : Client :=
  match api.refusal client.session with
  | some message => client.setProgress index (.returned (.refused message))
  | none =>
    if api.kind.safety then
      client.setProgress index (.comparing client.stamp client.session)
    else client.capture index api client.session

/-- `session.compareAndSet`, with the barrier raised. -/
def compareAndSet (client : Client) (index : ℕ) (api : ApiCall) (stamp : ℕ)
    (view : SessionView) : Client :=
  if client.stamp = stamp then
    let raised : Client := { client.setSession view.withDisableBarrier with
      log := client.log ++ [.raised view.generation] }
    raised.capture index api view.withDisableBarrier
  else client.setProgress index .reading

/-- `futureSlots.tryAcquire`. -/
def acquire (client : Client) (index : ℕ) (view : SessionView) (payload : Bytes) : Client :=
  match client.toCommandFutures.create with
  | none => client.setProgress index (.returned (.refused "too many outstanding command futures"))
  | some (future, futures) =>
    (client.withFutures futures).setProgress index (.created view payload (some future))

/-- `running.get`; `tryWriteOutput` also looks for room in the queue. -/
def checkRunning (client : Client) (index : ℕ) (view : SessionView) (payload : Bytes)
    (result : Option ℕ) : Client :=
  match result with
  | some future =>
    if client.running then client.setProgress index (.offering view payload result)
    else (client.withFutures (client.settle future (.failed "client is not running"))).setProgress
      index (.returned (.future future))
  | none =>
    if client.running && client.commands.length < client.capacity then
      client.setProgress index (.offering view payload result)
    else client.setProgress index (.returned (.offered false))

/-- The command of a call. -/
def command (index : ℕ) (api : ApiCall) (view : SessionView) (payload : Bytes)
    (result : Option ℕ) : Command Int64 :=
  ⟨view.generation, view.epoch, api.type, payload, api.kind, result, index⟩

/-- `commands.offer`. -/
def offerCommand (client : Client) (index : ℕ) (api : ApiCall) (view : SessionView)
    (payload : Bytes) (result : Option ℕ) : Client :=
  let (accepted, futures) := client.offer (command index api view payload result)
  match result with
  | none => (client.withFutures futures).setProgress index (.returned (.offered accepted))
  | some future =>
    (client.withFutures (if accepted then futures
      else futures.settle future (.failed "client command queue is full"))).setProgress index
      (.returned (.future future))

/-- The next step of a call. -/
def advance (client : Client) (index : ℕ) (call : Call) : Option Client :=
  match call.progress with
  | .reading => some (client.readSession index call.api)
  | .comparing stamp view => some (client.compareAndSet index call.api stamp view)
  | .captured view payload => some (client.acquire index view payload)
  | .created view payload result => some (client.checkRunning index view payload result)
  | .offering view payload result => some (client.offerCommand index call.api view payload result)
  | .returned _ => none

/-! ### The steps of the worker -/

/-- `runSession`, from the connected channel to its loop. -/
def beginTransport (config : Config) (client : Client) : Client :=
  let hello := encodeHello config.requestedRole config.subscribeInputs config.inputPeriodMillis
    client.lastSeenEpoch
  { client.setSession (.handshaking client.generationCounter) with
    transport := ({} : Transport).enqueue (encodeFrame .hello 0 (hello.getD []))
    worker := .serving }

/-- The command is of the worker's generation and of the session it is in. -/
def isCurrent (client : Client) (command : Command Int64) : Bool :=
  client.transport.handshakeComplete && client.session.ready &&
    command.generation = client.generationCounter &&
    command.generation = client.session.generation && command.epoch = client.session.epoch

/-- A turn of `processCommands`, with a command. -/
def processCommand (config : Config) (client : Client) (command : Command Int64) : Client :=
  if !client.isCurrent command then
    client.withFutures (client.handOver command.result
      (.failed "command invalidated by connection or epoch change"))
  else if command.result.any client.isCancelled then
    client.withFutures (command.result.elim client.toCommandFutures client.retire)
  else
    let (requestId, transport) := client.transport.nextRequestId
    let client := { client with transport }
    let encoded := encodeFrame command.type requestId command.payload
    if !transport.canEnqueueCommand config.maximumOutboundBytes encoded.length then
      client.withFutures (client.handOver command.result (.failed "outbound byte limit reached"))
    else
      { client.withFutures (client.putPending requestId
          ⟨command.kind, command.result, client.generationCounter, command.epoch⟩) with
        transport := transport.enqueue encoded
        log := client.log ++ ((client.calls[command.call]?).map fun call =>
          .enqueued client.generationCounter command.call call.api encoded).toList }

/-- `queueHeartbeatIfDue`, when it is due; `none` is an exception. -/
def queueHeartbeat (config : Config) (client : Client) : Option Client :=
  if !client.session.controllerReady || client.session.generation ≠ client.generationCounter ||
      client.transport.heartbeatRequestId ≠ 0 then some client
  else
    let (requestId, transport) := client.transport.nextRequestId
    let frame := encodeFrame .heartbeat requestId ((encodeEpoch client.session.epoch).getD [])
    if !transport.canEnqueue config.maximumOutboundBytes frame.length then none
    else some { client.withFutures (client.putPending requestId
        ⟨.heartbeat, none, client.generationCounter, client.session.epoch⟩) with
      transport := { transport with heartbeatRequestId := requestId }.enqueue frame }

/-- `updateOutputState`. -/
def updateOutputState (client : Client) (epoch : Int64) (enabled : Bool) : Client :=
  if client.session.generation ≠ client.generationCounter ∨ client.session.epoch ≠ epoch then client
  else client.setSession { client.session with outputsEnabled := enabled }

/-- `processFrame` of the first frame; `none` is an exception. -/
def processHello (config : Config) (client : Client) (frame : Frame) : Option Client := do
  guard (frame.type = .helloAck ∧ frame.requestId = 0)
  let hello ← decodeHelloAck frame.payload
  guard (¬(config.requestedRole = .observer ∧ hello.grantedRole ≠ .observer))
  guard (¬(hello.grantedRole = .controller ∧ hello.outputsEnabled))
  return { client.setSession ⟨client.generationCounter, true, hello.grantedRole, hello.epoch,
      hello.grantedRole = .observer && hello.outputsEnabled, false⟩ with
    transport := { client.transport with handshakeComplete := true }
    lastSeenEpoch := hello.epoch
    log := client.log ++ [.greeted client.generationCounter hello.epoch] }

/-- `processAck`, once the request is no longer pending; the flag is false for an exception. -/
def acknowledge (client : Client) (request : PendingRequest Int64) (payload : Bytes) :
    Bool × Client :=
  match decodeAck payload with
  | none => (false, client)
  | some (status, detail) =>
    if request.generation ≠ client.generationCounter ∨ request.epoch ≠ client.session.epoch then
      (true, client.withFutures (client.handOver request.result
        (.failed "acknowledgement belongs to an invalidated generation")))
    else if request.kind = .heartbeat then (status = .ok, client)
    else
      let client := if request.kind = .enable ∧ status = .ok then
          client.updateOutputState request.epoch true else client
      let client := if request.kind.safety ∧ status = .ok then
          client.updateOutputState request.epoch false else client
      (true, client.withFutures (client.handOver request.result (.acknowledged status detail)))

/-- `processAck`. -/
def processAck (client : Client) (frame : Frame) : Bool × Client :=
  if frame.requestId = 0 then (false, client)
  else
    match client.removePending frame.requestId with
    | none => (false, client)
    | some (request, futures) =>
      let client := client.withFutures futures
      let client := if client.transport.heartbeatRequestId = frame.requestId then
          { client with transport := { client.transport with heartbeatRequestId := 0 } }
        else client
      client.acknowledge request frame.payload

/-- `processFrame`; the flag is false for an exception. -/
def processFrame (config : Config) (client : Client) (frame : Frame) : Bool × Client :=
  if !client.transport.handshakeComplete then
    match client.processHello config frame with
    | none => (false, client)
    | some client => (true, client)
  else
    match frame.type with
    | .helloAck => (false, client)
    | .ack | .error => client.processAck frame
    | .outputsDisabled =>
      if frame.requestId ≠ 0 then (false, client)
      else
        match decodeOutputsDisabled frame.payload with
        | none => (false, client)
        | some disabled => (true, { client.updateOutputState client.session.epoch false with
            lastSeenEpoch := disabled.epoch })
    | _ => (true, client)

/-- The end of `runSession`. -/
def endSession (client : Client) : Client :=
  { client.withFutures (client.failPending "transport generation ended") with
    transport := { client.transport with outbound := [], outboundBytes := 0 }
    worker := .ended }

/-- `invalidateSession`, up to the failing of the queue. -/
def invalidateSession (client : Client) : Client :=
  { (if client.session.generation > client.generationCounter then client
      else client.setSession (.disconnected client.generationCounter)) with worker := .failing }

/-! ### Steps -/

/-- A step of the client. -/
inductive Action where
  /-- A call begins, with reading the session. -/
  | call (api : ApiCall)
  /-- A call takes its next step. -/
  | advance (index : ℕ)
  | cancel (future : ℕ)
  /-- A task of the completion executor is run. -/
  | complete (index : ℕ)
  | start
  /-- `close`, up to the wait for the worker. -/
  | close
  /-- A turn of `failQueuedCommands` in `close`. -/
  | failClosed
  /-- The end of `close`. -/
  | shutdown
  | beginGeneration
  | beginTransport
  /-- A turn of `processCommands`. -/
  | processCommand
  /-- `queueHeartbeatIfDue`, when it is due. -/
  | queueHeartbeat
  | flush (written : ℕ)
  | processFrame (frame : Frame)
  /-- `expireRequests`, when these requests have expired. -/
  | expireRequests (requestIds : List UInt32)
  /-- The session ends for any other reason. -/
  | endSession
  | invalidateSession
  /-- A turn of `failQueuedCommands` in `invalidateSession`. -/
  | failQueued
  | stop
  deriving DecidableEq, Repr

/-- One step; `none` if it is not possible. -/
def step (config : Config) (client : Client) : Action → Option Client
  | .call api =>
    let called : Client := { client with calls := client.calls ++ [⟨api, .reading⟩] }
    some (called.readSession client.calls.length api)
  | .advance index => (client.calls[index]?).bind (client.advance index)
  | .cancel future => some (client.withFutures (client.cancel future))
  | .complete index => (client.runCompletion index).map client.withFutures
  | .start =>
    if client.closed ∨ client.running then none
    else some { client with running := true, worker := .waiting }
  | .close => if client.closed then none else some { client with closed := true, running := false }
  | .failClosed =>
    if client.closed then (client.failCommand "client is closed").map client.withFutures else none
  | .shutdown =>
    if client.closed ∧ client.commands = [] then
      some (client.withFutures { client.toCommandFutures with completionsClosed := true })
    else none
  | .beginGeneration =>
    if client.worker = .waiting ∧ client.running then
      some { client with
        generationCounter := client.generationCounter + 1
        worker := .connecting }
    else none
  | .beginTransport =>
    if client.worker = .connecting then some (client.beginTransport config) else none
  | .processCommand =>
    if client.worker = .serving ∧ client.pending.length < config.maximumQueuedCommands then
      client.poll.map fun (command, futures) =>
        (client.withFutures futures).processCommand config command
    else none
  | .queueHeartbeat =>
    if client.worker = .serving ∧ client.transport.handshakeComplete then
      some ((client.queueHeartbeat config).getD client.endSession)
    else none
  | .flush written =>
    if client.worker = .serving then
      (client.transport.flush written).map fun transport => { client with transport }
    else none
  | .processFrame frame =>
    if client.worker = .serving then
      match client.processFrame config frame with
      | (true, client) => some client
      | (false, client) => some client.endSession
    else none
  | .expireRequests requestIds =>
    if client.worker = .serving then
      some (client.withFutures
        (client.expirePending "daemon request timed out" requestIds)).endSession
    else none
  | .endSession =>
    if client.worker = .connecting ∨ client.worker = .serving then some client.endSession
    else none
  | .invalidateSession =>
    if client.worker = .ended then some client.invalidateSession else none
  | .failQueued =>
    if client.worker = .failing then
      some ((client.failCommand "transport generation ended").elim
        { client with worker := .waiting } client.withFutures)
    else none
  | .stop =>
    if client.worker = .waiting then some { client with running := false, worker := .stopped }
    else none

end Client

end EcSystemCore.Java
