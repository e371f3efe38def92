import EcSystemCore.Client.Assembler
import EcSystemCore.Client.Handshake

/-!
# The C++ client

`Client::Implementation` of `client.cpp`.  Every public call runs under one mutex, so a
life of the client is a sequence of calls (`ClientCall`, `perform`), those of the
background thread among them.

What a call does depends on the kernel and the clock.  Each call takes a script of what it
will see: the results of `send`, `recv` and `poll`, and the outcome of every comparison
with the clock.  A list of results ends where the next one would be `EAGAIN`; a list of
passes of a loop ends where its deadline is found to have passed.  So `nextReconnect_`,
`reconnectBackoff_` and `nextHeartbeat_` are not kept; and allocation does not fail.

A socket is known by its place in the order of their creation.  `log` is what the current
call did to sockets and sessions.
-/

namespace EcSystemCore

/-- `kMaximumClientQueue`. -/
def kMaximumClientQueue : ℕ := 64 * 1024

/-- `kMaximumReceivedInputs`. -/
def kMaximumReceivedInputs : ℕ := 128

/-- `kMaximumReceivedBusInformation`. -/
def kMaximumReceivedBusInformation : ℕ := 64

/-- `kMaximumClientDuration`, in milliseconds as all durations here. -/
def kMaximumClientDuration : ℕ := 60000

/-- `sizeof(sockaddr_un::sun_path)`. -/
def sunPathSize : ℕ := 108

/-- `ErrorForStatus`. -/
def errorForStatus (status : AckStatus) : ClientError :=
  if status = .ok then .none else .serverRejected

/-- `ClientOptions`; the heartbeat period is a member of `CppClient`. -/
structure ClientOptions where
  socketPath : Bytes := ascii "/run/ec-systemcore/ec-systemcore.sock"
  role : ClientRole := .controller
  subscribeInputs : Bool := false
  inputPeriodMs : UInt16 := 100
  connectTimeout : ℕ := 500
  requestTimeout : ℕ := 250
  initialReconnectBackoff : ℕ := 50
  maximumReconnectBackoff : ℕ := 1000
  deriving DecidableEq, Repr

/-- What a call does to a socket, and to the session on it. -/
inductive SocketEvent where
  /-- `socket` returned a descriptor. -/
  | opened (socket : ℕ)
  /-- `Queue` took a frame. -/
  | queued (socket : ℕ) (frame : Bytes)
  /-- `send` took bytes. -/
  | sent (socket : ℕ) (bytes : Bytes)
  /-- A HelloAck was accepted: whether the client was connected, the epochs of the data it
  held, and the epoch of the HelloAck. -/
  | greeted (connected : Bool) (held : List UInt64) (epoch : UInt64)
  /-- `Connect` has succeeded, with this epoch. -/
  | established (socket : ℕ) (epoch : UInt64)
  /-- `InvalidateSession`. -/
  | invalidated (socket : ℕ)
  /-- `close`. -/
  | closed (socket : ℕ)
  deriving DecidableEq, Repr

/-- `Client::Implementation`. -/
structure ClientImplementation extends CppClient, InputAssembler where
  options : ClientOptions := {}
  descriptor : Option ℕ := none
  /-- The number of sockets made so far. -/
  sockets : ℕ := 0
  connected : Bool := false
  nextRequestId : UInt32 := 0
  status : StatusPayload := {}
  decoder : FrameDecoder := {}
  outgoing : List Bytes := []
  outgoingOffset : ℕ := 0
  outgoingBytes : ℕ := 0
  acknowledgements : List (UInt32 × AckStatus) := []
  inputs : List PdoInputPayload := []
  busInformation : List BusInfoPayload := []
  heartbeatRequests : List UInt32 := []
  lastError : ClientError := .none
  lastServerStatus : AckStatus := .ok
  lastErrorMessage : String := ""
  log : List SocketEvent := []
  deriving DecidableEq, Repr

/-- The result of `send`; no bytes means that the connection is closed. -/
inductive SendResult where
  | sent (count : ℕ)
  | interrupted
  | failed
  deriving DecidableEq, Repr

/-- The result of `recv`; no bytes means that the connection is closed. -/
inductive RecvResult where
  | received (bytes : Bytes)
  | interrupted
  | failed
  deriving DecidableEq, Repr

/-- The result of `poll`; `hangup` is one of `POLLERR`, `POLLHUP` and `POLLNVAL`. -/
inductive PollResult where
  | failed
  | interrupted
  | timedOut
  | ready (hangup writable readable : Bool)
  deriving DecidableEq, Repr

/-- What one `PumpUntil` sees. -/
structure Pump where
  sends : List SendResult := []
  /-- Less than a millisecond remains. -/
  expired : Bool := false
  poll : PollResult := .ready false false true
  moreSends : List SendResult := []
  receives : List RecvResult := []
  deriving DecidableEq, Repr

/-- What `connect` and the wait for it see. -/
inductive ConnectResult where
  | connected
  | inProgress (writable : Bool)
  | failed
  deriving DecidableEq, Repr

/-- What one `Connect` sees. -/
structure ConnectScript where
  /-- `now < nextReconnect_`. -/
  backingOff : Bool := false
  socketFails : Bool := false
  connect : ConnectResult := .connected
  socketError : Bool := false
  passes : List Pump := []
  deriving DecidableEq, Repr

/-- What one `Poll` sees. -/
structure PollScript where
  /-- `now >= nextHeartbeat_`. -/
  heartbeatDue : Bool := false
  poll : PollResult := .ready false false true
  sends : List SendResult := []
  receives : List RecvResult := []
  deriving DecidableEq, Repr

namespace ClientImplementation

variable {client next : ClientImplementation}

/-! ### Errors and request ids -/

/-- `Fail`; it returns false. -/
def fail (client : ClientImplementation) (error : ClientError) (message : String)
    (serverStatus : AckStatus := .internalError) : Bool × ClientImplementation :=
  (false, { client with
    lastError := error
    lastServerStatus := serverStatus
    lastErrorMessage := message })

/-- `ClearError`, before a call returns true. -/
def succeed (client : ClientImplementation) : Bool × ClientImplementation :=
  (true, { client with lastError := .none, lastServerStatus := .ok, lastErrorMessage := "" })

/-- `FailForRequestStatus`. -/
def failForRequestStatus (client : ClientImplementation) (status : AckStatus) (message : String) :
    Bool × ClientImplementation :=
  if client.lastError = .timeout ∨ client.lastError = .notConnected ∨
      client.lastError = .socketError ∨ client.lastError = .protocolError ∨
      client.lastError = .outOfMemory then (false, client)
  else client.fail (errorForStatus status) message status

/-- `NextRequestId`. -/
def takeRequestId (client : ClientImplementation) : UInt32 × ClientImplementation :=
  let next := if client.nextRequestId + 1 = 0 then 1 else client.nextRequestId + 1
  (next, { client with nextRequestId := next })

/-- `ValidateOptions`. -/
def validateOptions (client : ClientImplementation) : Bool :=
  let options := client.options
  options.socketPath ≠ [] ∧ options.socketPath.head? = some 0x2f ∧
    options.socketPath.length < sunPathSize ∧
    10 ≤ options.inputPeriodMs ∧ options.inputPeriodMs ≤ 1000 ∧
    0 < options.connectTimeout ∧ options.connectTimeout ≤ kMaximumClientDuration ∧
    0 < options.requestTimeout ∧ options.requestTimeout ≤ kMaximumClientDuration ∧
    0 < options.initialReconnectBackoff ∧
    options.initialReconnectBackoff ≤ kMaximumClientDuration ∧
    options.initialReconnectBackoff ≤ options.maximumReconnectBackoff ∧
    options.maximumReconnectBackoff ≤ kMaximumClientDuration ∧
    0 < client.heartbeatPeriod ∧ client.heartbeatPeriod ≤ kMaximumClientDuration ∧
    0 ∉ options.socketPath

/-! ### The end of a session -/

/-- The epochs of the data the client holds. -/
def held (client : ClientImplementation) : List UInt64 :=
  client.inputs.map (·.epoch) ++ client.busInformation.map (·.epoch) ++
    client.assemblies.map (·.epoch) ++ client.inputImages.map (·.epoch)

/-- `CloseSocket`. -/
def closeSocket (client : ClientImplementation) : ClientImplementation :=
  { client with
    descriptor := none
    log := client.log ++ (client.descriptor.map SocketEvent.closed).toList
    outgoing := []
    outgoingOffset := 0
    outgoingBytes := 0
    decoder := {}
    acknowledgements := []
    expectedHelloRequest := 0
    helloReceived := false
    heartbeatRequests := [] }

/-- `InvalidateSession`. -/
def invalidateSession (client : ClientImplementation) (replacementEpoch : UInt64) :
    ClientImplementation :=
  { client with
    log := client.log ++ (client.descriptor.map SocketEvent.invalidated).toList
    lastSeenEpoch := replacementEpoch
    epoch := 0
    connected := false
    outputsEnabled := false
    controllerGranted := false
    status := {}
    outgoing := []
    outgoingOffset := 0
    outgoingBytes := 0
    acknowledgements := []
    heartbeatRequests := []
    inputs := []
    busInformation := []
    assemblies := []
    assemblyStorage := 0
    inputImages := []
    inputImageStorage := 0 }

/-- `HandleDisconnect`. -/
def handleDisconnect (client : ClientImplementation) : ClientImplementation :=
  let client := { client with
    lastSeenEpoch := if client.epoch ≠ 0 then client.epoch else client.lastSeenEpoch }
  { client.closeSocket with
    connected := false
    controllerGranted := false
    outputsEnabled := false
    epoch := 0
    status := {}
    inputs := []
    busInformation := []
    assemblies := []
    assemblyStorage := 0
    inputImages := []
    inputImageStorage := 0 }

/-! ### Sending -/

/-- A frame goes behind the others. -/
def enqueue (client : ClientImplementation) (socket : ℕ) (frame : Bytes) :
    ClientImplementation :=
  { client with
    outgoing := client.outgoing ++ [frame]
    outgoingBytes := client.outgoingBytes + frame.length
    log := client.log ++ [.queued socket frame] }

/-- `Queue`. -/
def queue (client : ClientImplementation) (frame : Bytes) : Bool × ClientImplementation :=
  match client.descriptor with
  | none => client.fail .outOfMemory "client output queue is full"
  | some socket =>
    if frame = [] ∨ frame.length >
        kMaximumClientQueue - min client.outgoingBytes kMaximumClientQueue then
      client.fail .outOfMemory "client output queue is full"
    else (true, client.enqueue socket frame)

/-- `send` took the next `count` bytes of the first frame. -/
def advance (client : ClientImplementation) (socket : ℕ) (frame : Bytes) (frames : List Bytes)
    (count : ℕ) : ClientImplementation :=
  let client := { client with
    outgoingOffset := client.outgoingOffset + count
    outgoingBytes := client.outgoingBytes - count
    log := client.log ++ [.sent socket ((frame.drop client.outgoingOffset).take count)] }
  if client.outgoingOffset = frame.length then
    { client with outgoing := frames, outgoingOffset := 0 }
  else client

/-- `Flush`; it returns whether there is a descriptor when it stops. -/
def flush (client : ClientImplementation) : List SendResult → Bool × ClientImplementation
  | [] => (client.descriptor.isSome, client)
  | result :: results =>
    match client.descriptor, client.outgoing with
    | none, _ => (false, client)
    | some _, [] => (true, client)
    | some socket, frame :: frames =>
      match result with
      | .interrupted => client.flush results
      | .failed => client.handleDisconnect.fail .socketError "IPC send failed"
      | .sent count =>
        let count := min count (frame.length - client.outgoingOffset)
        if count = 0 then
          client.handleDisconnect.fail .notConnected "IPC connection closed"
        else (client.advance socket frame frames count).flush results

theorem flush_helloReceived {results : List SendResult} (h : client.helloReceived = false) :
    (client.flush results).2.helloReceived = false := by
  induction results generalizing client with
  | nil => exact h
  | cons result results ih =>
    rw [flush]
    split
    · exact h
    · exact h
    · cases result with
      | interrupted => exact ih h
      | failed => rfl
      | sent count =>
        dsimp only
        split_ifs
        · rfl
        · refine ih ?_
          unfold advance
          dsimp only
          split_ifs <;> exact h

/-! ### Receiving -/

/-- An entry at the end of a bounded queue. -/
def pushBounded {α : Type} (maximum : ℕ) (queue : List α) (entry : α) : List α :=
  (if queue.length ≥ maximum then queue.tail else queue) ++ [entry]

/-- `Process` of an Ack or an Error. -/
def processAck (client : ClientImplementation) (requestId : UInt32) (status : AckStatus) :
    Bool × ClientImplementation :=
  if requestId ∈ client.heartbeatRequests then
    let client := { client with heartbeatRequests := client.heartbeatRequests.erase requestId }
    if status ≠ .ok then
      (client.invalidateSession client.epoch).fail .serverRejected "heartbeat was rejected" status
    else (true, client)
  else (true, { client with
    acknowledgements := pushBounded 128 client.acknowledgements (requestId, status)
    lastServerStatus := status })

/-- `Process`. -/
def process (client : ClientImplementation) (frame : Frame) : Bool × ClientImplementation :=
  match frame.type with
  | .helloAck =>
    match client.toCppClient.processHelloAck frame with
    | .error failure => client.fail failure.error failure.message
    | .ok greeted => (true, { client with
        toCppClient := greeted
        log := client.log ++ [.greeted client.connected client.held greeted.epoch] })
  | .status =>
    match if frame.requestId = 0 then decodeStatusPayload frame.payload else none with
    | none => client.fail .protocolError "invalid STATUS payload"
    | some decoded =>
      if client.epoch ≠ 0 ∧ decoded.epoch ≠ client.epoch then
        (false, { client.invalidateSession decoded.epoch with status := decoded })
      else (true, { client with status := decoded })
  | .ack | .error =>
    match decodeAckPayload frame.payload with
    | none => client.fail .protocolError "invalid ACK payload"
    | some (status, _) => client.processAck frame.requestId status
  | .pdoInput =>
    match if frame.requestId = 0 then decodePdoInputPayload frame.payload kMaximumPdoImage
        else none with
    | none => client.fail .protocolError "invalid PDO input payload"
    | some input =>
      if input.epoch ≠ client.epoch then (true, client)
      else (true, { client with
        toInputAssembler := client.toInputAssembler.assembleInput input
        inputs := pushBounded kMaximumReceivedInputs client.inputs input })
  | .busInfo =>
    match if frame.requestId = 0 then decodeBusInfoPayload frame.payload else none with
    | none => client.fail .protocolError "invalid BUS_INFO payload"
    | some information =>
      if information.epoch ≠ client.epoch then (true, client)
      else (true, { client with
        busInformation :=
          pushBounded kMaximumReceivedBusInformation client.busInformation information })
  | .outputsDisabled =>
    match if frame.requestId = 0 then decodeOutputsDisabledPayload frame.payload else none with
    | none => client.fail .protocolError "invalid outputs-disabled payload"
    | some disabled =>
      let client := { client with outputsEnabled := false }
      if disabled.epoch ≠ client.epoch ∨ disabled.reason ≠ .requested then
        (false, client.invalidateSession disabled.epoch)
      else (true, client)
  | _ => client.fail .protocolError "unexpected server frame type"

/-- The loop over the frames of one `recv`; a frame that is not processed ends the session. -/
def processAll (client : ClientImplementation) : List Frame → Bool × ClientImplementation
  | [] => (true, client)
  | frame :: frames =>
    match client.process frame with
    | (true, client) => client.processAll frames
    | (false, client) => (false, client.handleDisconnect)

theorem processAll_false {frames : List Frame} (h : client.processAll frames = (false, next)) :
    next.helloReceived = false := by
  induction frames generalizing client with
  | nil => cases h
  | cons frame frames ih =>
    rw [processAll] at h
    split at h
    · exact ih h
    · cases h
      rfl

/-- `Read`. -/
def read (client : ClientImplementation) : List RecvResult → Bool × ClientImplementation
  | [] => (true, client)
  | .interrupted :: results => client.read results
  | .failed :: _ => client.handleDisconnect.fail .socketError "IPC receive failed"
  | .received bytes :: results =>
    if bytes = [] then client.handleDisconnect.fail .notConnected "IPC connection closed"
    else
      match client.decoder.feed bytes with
      | (false, _, decoder) =>
        { client with decoder }.handleDisconnect.fail .protocolError "invalid IPC frame"
      | (true, frames, decoder) =>
        match { client with decoder }.processAll frames with
        | (true, client) => client.read results
        | (false, client) => (false, client)

theorem read_false {results : List RecvResult} (h : client.read results = (false, next)) :
    next.helloReceived = false := by
  induction results generalizing client with
  | nil => cases h
  | cons result results ih =>
    cases result with
    | interrupted => exact ih h
    | failed =>
      cases h
      rfl
    | received bytes =>
      rw [read] at h
      split at h
      · cases h
        rfl
      · split at h
        · cases h
          rfl
        · split at h
          · exact ih h
          · rename_i heq
            cases h
            exact processAll_false heq

/-- What `PumpUntil` and `Poll` do with the events of `poll`. -/
def serve (client : ClientImplementation) (writable readable : Bool) (sends : List SendResult)
    (receives : List RecvResult) : Bool × ClientImplementation :=
  match if writable then client.flush sends else (true, client) with
  | (false, client) => (false, client)
  | (true, client) => if readable then client.read receives else (true, client)

/-- `PumpUntil`. -/
def pumpUntil (client : ClientImplementation) (pump : Pump) : Bool × ClientImplementation :=
  match client.flush pump.sends with
  | (false, client) => (false, client)
  | (true, client) =>
    if pump.expired then (false, client)
    else
      match pump.poll with
      | .interrupted => (true, client)
      | .failed | .timedOut => (false, client)
      | .ready hangup writable readable =>
        if hangup then (false, client.handleDisconnect)
        else client.serve writable readable pump.moreSends pump.receives

/-- A pass that fails has not received the HelloAck. -/
theorem pumpUntil_false {pump : Pump} (h : client.pumpUntil pump = (false, next))
    (hnot : client.helloReceived = false) : next.helloReceived = false := by
  unfold pumpUntil at h
  have hflush : (client.flush pump.sends).2.helloReceived = false := flush_helloReceived hnot
  split at h
  · rename_i flushed heq
    cases h
    rwa [heq] at hflush
  · rename_i flushed heq
    rw [heq] at hflush
    split at h
    · cases h
      exact hflush
    · split at h
      · cases h
      · cases h
        exact hflush
      · cases h
        exact hflush
      · rename_i hangup writable readable _
        split at h
        · cases h
          rfl
        · unfold serve at h
          split at h
          · rename_i served hserved
            cases h
            cases writable with
            | false => cases hserved
            | true =>
              have hagain : (flushed.flush pump.moreSends).2.helloReceived = false :=
                flush_helloReceived hflush
              rw [if_pos rfl] at hserved
              rwa [hserved] at hagain
          · split at h
            · exact read_false h
            · cases h

/-! ### Requests -/

/-- The loop of `Request`. -/
def await (client : ClientImplementation) (requestId : UInt32) :
    List Pump → AckStatus × ClientImplementation
  | [] => (.internalError, (client.handleDisconnect.fail .timeout "request timed out").2)
  | pass :: passes =>
    match client.acknowledgements.find? (·.1 = requestId) with
    | some acknowledgement => (acknowledgement.2, { client with
        acknowledgements := client.acknowledgements.erase acknowledgement })
    | none =>
      match client.pumpUntil pass with
      | (true, client) => client.await requestId passes
      | (false, client) =>
        (.internalError, (client.handleDisconnect.fail .timeout "request timed out").2)

/-- `Request`. -/
def request (client : ClientImplementation) (frame : Bytes) (requestId : UInt32)
    (passes : List Pump) : AckStatus × ClientImplementation :=
  match client.queue frame with
  | (false, client) => (.internalError, client)
  | (true, client) => client.await requestId passes

/-- A call that makes a request: `onOk` is what it does to the client on an Ok. -/
def requestCall (client : ClientImplementation) (type : MessageType) (payload : Bytes)
    (message : String) (onOk : ClientImplementation → ClientImplementation)
    (passes : List Pump) : Bool × ClientImplementation :=
  let (requestId, client) := client.takeRequestId
  match client.request (encodeFrame type requestId payload) requestId passes with
  | (.ok, client) => (onOk client).succeed
  | (status, client) => client.failForRequestStatus status message

/-- `RequireController`. -/
def requireController (client : ClientImplementation) : Bool :=
  client.connected && client.controllerGranted && client.epoch != 0

/-- The error of `RequireController`. -/
def controllerUnavailable (client : ClientImplementation) : Bool × ClientImplementation :=
  client.fail .notConnected "controller session is unavailable"

/-- A call that makes a request for the controller; the payload carries the epoch. -/
def controllerCall (client : ClientImplementation) (type : MessageType)
    (payload : UInt64 → Bytes) (message : String)
    (onOk : ClientImplementation → ClientImplementation) (passes : List Pump) :
    Bool × ClientImplementation :=
  if client.requireController then
    client.requestCall type (payload client.epoch) message onOk passes
  else client.controllerUnavailable

/-- `EnableOutputs`. -/
def enableOutputs (client : ClientImplementation) (enabled : Bool) (passes : List Pump) :
    Bool × ClientImplementation :=
  client.controllerCall .outputEnable (fun epoch => encodeOutputEnablePayload ⟨epoch, enabled⟩)
    "output enable request was rejected" (fun client => { client with outputsEnabled := enabled })
    passes

/-- `WriteOutput`. -/
def writeOutput (client : ClientImplementation) (busIndex subDeviceIndex : UInt16)
    (offset : UInt32) (data : Bytes) (passes : List Pump) : Bool × ClientImplementation :=
  if client.requireController && client.outputsEnabled then
    let payload := encodeOutputWritePayload ⟨client.epoch, busIndex, subDeviceIndex, offset, data⟩
    if payload = [] then client.fail .invalidArgument "invalid output write"
    else client.requestCall .outputWrite payload "output write was rejected" id passes
  else client.fail .notConnected "outputs are not enabled"

/-- `ReleaseControl`. -/
def releaseControl (client : ClientImplementation) (passes : List Pump) :
    Bool × ClientImplementation :=
  client.controllerCall .releaseControl encodeEpochPayload "release was rejected"
    (fun client => { client with controllerGranted := false, outputsEnabled := false }) passes

/-- `RuntimeUnlockAdapter`. -/
def runtimeUnlockAdapter (client : ClientImplementation) (busIndex : UInt16)
    (passes : List Pump) : Bool × ClientImplementation :=
  client.controllerCall .adapterUnlock
    (fun epoch => encodeAdapterUnlockPayload ⟨epoch, busIndex⟩) "runtime unlock was rejected"
    (fun client => { client with outputsEnabled := false }) passes

/-- `SubscribeInputs`. -/
def subscribeInputs (client : ClientImplementation) (enabled : Bool) (periodMs : UInt16)
    (passes : List Pump) : Bool × ClientImplementation :=
  if client.connected then
    let payload := encodeSubscribeInputsPayload ⟨enabled, periodMs⟩
    if payload = [] then client.fail .invalidArgument "invalid input subscription"
    else client.requestCall .subscribeInputs payload "subscription was rejected"
      (fun client => { client with options := { client.options with
        subscribeInputs := enabled, inputPeriodMs := periodMs } }) passes
  else client.fail .notConnected "client is disconnected"

/-- `EmptyRequest`. -/
def emptyRequest (client : ClientImplementation) (type : MessageType) (passes : List Pump) :
    Bool × ClientImplementation :=
  if client.connected then client.requestCall type [] "request was rejected" id passes
  else client.fail .notConnected "client is disconnected"

/-- `Heartbeat`: `SendHeartbeat` with the wait for its acknowledgement. -/
def heartbeat (client : ClientImplementation) (passes : List Pump) :
    Bool × ClientImplementation :=
  client.controllerCall .heartbeat encodeEpochPayload "heartbeat was rejected" id passes

/-- `SendHeartbeat` without the wait. -/
def sendHeartbeat (client : ClientImplementation) : Bool × ClientImplementation :=
  if client.requireController then
    let (requestId, client) := client.takeRequestId
    if client.heartbeatRequests.length ≥ 16 then
      (client.invalidateSession client.epoch).fail .timeout "heartbeat acknowledgements stalled"
    else
      match client.queue (encodeFrame .heartbeat requestId (encodeEpochPayload client.epoch)) with
      | (false, client) => (false, client)
      | (true, client) => (true, { client with
          heartbeatRequests := client.heartbeatRequests ++ [requestId] })
  else client.controllerUnavailable

/-! ### Connections -/

/-- The loop of `Connect` that waits for the HelloAck. -/
def awaitHello (client : ClientImplementation) : List Pump → ClientImplementation
  | [] => client
  | pass :: passes =>
    if client.helloReceived then client
    else
      match client.pumpUntil pass with
      | (true, client) => client.awaitHello passes
      | (false, client) => client

/-- The Hello of a new socket. -/
def hello (client : ClientImplementation) : HelloPayload :=
  ⟨client.options.role, client.options.subscribeInputs, client.options.inputPeriodMs,
    client.lastSeenEpoch⟩

/-- A new socket. -/
def openSocket (client : ClientImplementation) : ClientImplementation :=
  { client with
    descriptor := some client.sockets
    sockets := client.sockets + 1
    log := client.log ++ [.opened client.sockets] }

/-- The session begins. -/
def establish (client : ClientImplementation) (socket : ℕ) : ClientImplementation :=
  { client with
    connected := true
    log := client.log ++ [.established socket client.epoch] }

/-- `Connect`, after the wait for the HelloAck. -/
def conclude (client : ClientImplementation) (socket : ℕ) : Bool × ClientImplementation :=
  if !client.helloReceived then
    client.closeSocket.fail .timeout "HELLO acknowledgement timed out"
  else if client.options.role = .controller && !client.controllerGranted then
    client.closeSocket.fail .controllerDenied "controller role was denied"
  else (client.establish socket).succeed

/-- `Connect`, from the connected socket on. -/
def greet (client : ClientImplementation) (socket : ℕ) (passes : List Pump) :
    Bool × ClientImplementation :=
  let (requestId, client) := client.takeRequestId
  match client.queue (encodeFrame .hello requestId (encodeHelloPayload client.hello)) with
  | (false, client) => (false, client.closeSocket)
  | (true, client) =>
    ({ client with
      expectedHelloRequest := requestId
      helloReceived := false }.awaitHello passes).conclude socket

/-- `Connect`. -/
def connect (client : ClientImplementation) (script : ConnectScript) :
    Bool × ClientImplementation :=
  if client.connected then (true, client)
  else if !client.validateOptions then client.fail .invalidArgument "invalid client options"
  else if script.backingOff then (false, client)
  else
    let client := client.closeSocket
    if script.socketFails then client.fail .socketError "unable to create IPC socket"
    else
      let socket := client.sockets
      let client := client.openSocket
      match script.connect with
      | .failed => client.closeSocket.fail .socketError "unable to connect to ec-systemcore"
      | .inProgress false => client.closeSocket.fail .timeout "IPC connect timed out"
      | _ =>
        if script.socketError then client.closeSocket.fail .socketError "IPC connect failed"
        else client.greet socket script.passes

/-- `Poll`. -/
def poll (client : ClientImplementation) (script : PollScript) : Bool × ClientImplementation :=
  if !client.connected || client.descriptor.isNone then
    client.fail .notConnected "client is disconnected"
  else
    match if client.controllerGranted && script.heartbeatDue then client.sendHeartbeat
        else (true, client) with
    | (false, client) => (false, client)
    | (true, client) =>
      match script.poll with
      | .interrupted | .timedOut => (true, client)
      | .failed => client.handleDisconnect.fail .socketError "IPC poll failed"
      | .ready hangup writable readable =>
        if hangup then client.handleDisconnect.fail .notConnected "IPC connection closed"
        else client.serve writable readable script.sends script.receives

/-- `MaintainConnection`. -/
def maintainConnection (client : ClientImplementation) (poll : PollScript)
    (connect : ConnectScript) : Bool × ClientImplementation :=
  if client.connected then client.poll poll else client.connect connect

/-- The loop of `Disconnect` that empties the queue. -/
def drainOutgoing (client : ClientImplementation) : List (List SendResult) → ClientImplementation
  | [] => client
  | pass :: passes =>
    if client.outgoing = [] then client
    else
      match client.flush pass with
      | (true, client) => client.drainOutgoing passes
      | (false, client) => client

/-- The end of `Disconnect`. -/
def leave (client : ClientImplementation) : ClientImplementation :=
  { client.closeSocket with
    connected := false
    controllerGranted := false
    outputsEnabled := false
    epoch := 0
    status := {} }

/-- `Disconnect`. -/
def disconnect (client : ClientImplementation) (graceful : Bool)
    (passes : List (List SendResult)) : ClientImplementation :=
  if graceful && client.descriptor.isSome && client.requireController then
    let (disableId, client) := client.takeRequestId
    ((client.queue (encodeFrame .outputEnable disableId
      (encodeOutputEnablePayload ⟨client.epoch, false⟩))).2.drainOutgoing passes).leave
  else client.leave

/-! ### Received data -/

/-- `PopInput`. -/
def popInput (client : ClientImplementation) : Option PdoInputPayload × ClientImplementation :=
  (client.inputs.head?, { client with inputs := client.inputs.tail })

/-- `PopInputImage`. -/
def popInputImage (client : ClientImplementation) : Option PdoImage × ClientImplementation :=
  (client.toInputAssembler.popInputImage.1,
    { client with toInputAssembler := client.toInputAssembler.popInputImage.2 })

/-- `PopBusInfo`. -/
def popBusInfo (client : ClientImplementation) : Option BusInfoPayload × ClientImplementation :=
  (client.busInformation.head?, { client with busInformation := client.busInformation.tail })

end ClientImplementation

/-! ### Calls -/

/-- A call of the client, with what it will see. -/
inductive ClientCall where
  | connect (script : ConnectScript)
  | poll (script : PollScript)
  | maintainConnection (poll : PollScript) (connect : ConnectScript)
  | disconnect (graceful : Bool) (passes : List (List SendResult))
  | heartbeat (passes : List Pump)
  | enableOutputs (enabled : Bool) (passes : List Pump)
  | writeOutput (busIndex subDeviceIndex : UInt16) (offset : UInt32) (data : Bytes)
      (passes : List Pump)
  | releaseControl (passes : List Pump)
  | subscribeInputs (enabled : Bool) (periodMs : UInt16) (passes : List Pump)
  | clearCounters (passes : List Pump)
  | rescanAdapters (passes : List Pump)
  | runtimeUnlockAdapter (busIndex : UInt16) (passes : List Pump)
  | popInput
  | popInputImage
  | popBusInfo
  deriving DecidableEq, Repr

/-- What a call returns. -/
inductive ClientReply where
  | none
  | result (value : Bool)
  | input (input : Option PdoInputPayload)
  | image (image : Option PdoImage)
  | busInfo (information : Option BusInfoPayload)
  deriving DecidableEq, Repr

/-- The reply of a call that returns a flag. -/
def ClientReply.ofResult (outcome : Bool × ClientImplementation) :
    ClientReply × ClientImplementation :=
  (.result outcome.1, outcome.2)

namespace ClientImplementation

/-- One call. -/
def call (client : ClientImplementation) : ClientCall → ClientReply × ClientImplementation
  | .connect script => ClientReply.ofResult (client.connect script)
  | .poll script => ClientReply.ofResult (client.poll script)
  | .maintainConnection poll connect => ClientReply.ofResult (client.maintainConnection poll connect)
  | .disconnect graceful passes => (.none, client.disconnect graceful passes)
  | .heartbeat passes => ClientReply.ofResult (client.heartbeat passes)
  | .enableOutputs enabled passes => ClientReply.ofResult (client.enableOutputs enabled passes)
  | .writeOutput busIndex subDeviceIndex offset data passes =>
    ClientReply.ofResult (client.writeOutput busIndex subDeviceIndex offset data passes)
  | .releaseControl passes => ClientReply.ofResult (client.releaseControl passes)
  | .subscribeInputs enabled periodMs passes =>
    ClientReply.ofResult (client.subscribeInputs enabled periodMs passes)
  | .clearCounters passes => ClientReply.ofResult (client.emptyRequest .clearCounters passes)
  | .rescanAdapters passes => ClientReply.ofResult (client.emptyRequest .adapterRescan passes)
  | .runtimeUnlockAdapter busIndex passes =>
    ClientReply.ofResult (client.runtimeUnlockAdapter busIndex passes)
  | .popInput => (.input client.popInput.1, client.popInput.2)
  | .popInputImage => (.image client.popInputImage.1, client.popInputImage.2)
  | .popBusInfo => (.busInfo client.popBusInfo.1, client.popBusInfo.2)

/-- One call of a life: its reply and its events, and the client after it. -/
def perform (client : ClientImplementation) (call : ClientCall) :
    (ClientReply × List SocketEvent) × ClientImplementation :=
  let outcome := { client with log := [] }.call call
  ((outcome.1, outcome.2.log), outcome.2)

end ClientImplementation

end EcSystemCore
