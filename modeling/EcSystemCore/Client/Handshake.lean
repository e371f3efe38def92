import EcSystemCore.Daemon.BusSync
import EcSystemCore.Protocol.FrameStream
import EcSystemCore.Protocol.Roundtrip

/-!
# The handshake of an observer

What the C++ client and the configuration server's `DaemonClient` do with the answer to
their Hello, next to the answer the daemon gives.  Both refuse an answer that says that
outputs are enabled.  The daemon reports the state of its gate there, whoever asks: while
a controller has outputs enabled, an observer is turned away
(`observer_handshake_iff`).
-/

namespace EcSystemCore

open Execution

/-! ### The C++ client -/

/-- `ClientError`. -/
inductive ClientError where
  | none | invalidArgument | notConnected | controllerDenied | socketError | protocolError
  | timeout | serverRejected | outOfMemory
  deriving DecidableEq, Repr

/-- The error of a call that failed, and its message. -/
structure ClientFailure where
  error : ClientError
  message : String
  deriving DecidableEq, Repr

/-- The members of the C++ client that the answer to its Hello is checked against, and
those it sets. -/
structure CppClient where
  expectedHelloRequest : UInt32 := 0
  heartbeatPeriod : ℕ := 50
  effectiveHeartbeatPeriod : ℕ := 50
  lastSeenEpoch : UInt64 := 0
  epoch : UInt64 := 0
  controllerGranted : Bool := false
  outputsEnabled : Bool := false
  helloReceived : Bool := false
  deriving DecidableEq, Repr

/-- `Process` of a HelloAck. -/
def CppClient.processHelloAck (client : CppClient) (frame : Frame) :
    Except ClientFailure CppClient :=
  match if frame.requestId = client.expectedHelloRequest then decodeHelloAckPayload frame.payload
      else none with
  | none => .error ⟨.protocolError, "invalid HELLO acknowledgement"⟩
  | some acknowledgement =>
    if acknowledgement.outputsEnabled then
      .error ⟨.protocolError, "server resumed outputs during HELLO"⟩
    else
      let heartbeatTimeout := acknowledgement.heartbeatTimeoutMs.toNat
      if heartbeatTimeout ≤ 20 then
        .error ⟨.protocolError, "server heartbeat timeout is unsafe"⟩
      else .ok { client with
        effectiveHeartbeatPeriod := max (min client.heartbeatPeriod (heartbeatTimeout / 3)) 10
        lastSeenEpoch := acknowledgement.epoch
        epoch := acknowledgement.epoch
        controllerGranted := acknowledgement.grantedRole = .controller
        outputsEnabled := false
        helloReceived := true }

/-! ### The configuration server -/

/-- What `parseHelloAck` of the configuration server returns. -/
structure ServerHelloAck where
  grantedRole : UInt8
  outputsEnabled : Bool
  heartbeatTimeoutMs : UInt16
  epoch : UInt64
  peerPid : UInt32
  capabilities : UInt32
  deriving DecidableEq, Repr

/-- `parseHelloAck`, with the message of its `ProtocolError`. -/
def parseHelloAck (payload : Bytes) : Except String ServerHelloAck :=
  match helloAckLayout.read payload with
  | some ((role, outputs, timeout, epoch, peerPid, capabilities), []) =>
    if role > 1 ∨ outputs > 1 then .error "HELLO_ACK boolean/role fields are invalid"
    else if timeout = 0 then .error "HELLO_ACK heartbeat timeout must be non-zero"
    else if epoch = 0 then .error "HELLO_ACK epoch must be non-zero"
    else .ok ⟨role, outputs != 0, timeout, epoch, peerPid, capabilities⟩
  | _ => .error "HELLO_ACK payload must be 20 bytes"

/-- The members of the `DaemonClient` that its handshake uses. -/
structure DaemonClient where
  lastEpoch : UInt64 := 0
  helloComplete : Bool := false
  deriving DecidableEq, Repr

/-- `#handleFrame` before the handshake is complete. -/
def DaemonClient.handleFirstFrame (client : DaemonClient) (frame : Frame) :
    Except String DaemonClient :=
  if frame.type ≠ .helloAck ∨ frame.requestId ≠ 0 then
    .error "HELLO_ACK must be the daemon's first frame"
  else do
    let hello ← parseHelloAck frame.payload
    if hello.grantedRole ≠ 0 ∨ hello.outputsEnabled then
      .error "daemon granted unsafe controller authority to configuration"
    else .ok { client with lastEpoch := hello.epoch, helloComplete := true }

/-! ### The daemon's answer -/

section Encoded

variable {hello : HelloAckPayload} (timeout : hello.heartbeatTimeoutMs ≠ 0) (epoch : hello.epoch ≠ 0)

include timeout epoch

theorem decodeHelloAckPayload_encode :
    decodeHelloAckPayload (encodeHelloAckPayload hello) = some hello := by
  rw [decodeHelloAckPayload_eq, encodeHelloAckPayload_eq]
  refine (helloAckLayout.roundTrips helloAckFields).decode_encode hello ?_
  rw [← encodeHelloAckPayload_eq]
  simp [encodeHelloAckPayload, timeout, epoch]

theorem parseHelloAck_encode :
    parseHelloAck (encodeHelloAckPayload hello) =
      .ok ⟨hello.grantedRole.code, hello.outputsEnabled, hello.heartbeatTimeoutMs, hello.epoch,
        hello.peerPid, hello.capabilities⟩ := by
  have hwritten : encodeHelloAckPayload hello = helloAckLayout.write (hello.grantedRole.code,
      boolCode hello.outputsEnabled, hello.heartbeatTimeoutMs, hello.epoch, hello.peerPid,
      hello.capabilities) ++ [] := by
    simp [encodeHelloAckPayload, timeout, epoch, helloAckLayout]
  have hcodes : ¬(hello.grantedRole.code > 1 ∨ boolCode hello.outputsEnabled > 1) := by
    cases hello.grantedRole <;> cases hello.outputsEnabled <;> decide
  have houtputs : (boolCode hello.outputsEnabled != 0) = hello.outputsEnabled :=
    (boolCode_eq_iff.mp rfl).2
  unfold parseHelloAck
  rw [hwritten, Layout.read_write]
  dsimp only
  rw [if_neg hcodes, if_neg timeout, if_neg epoch, houtputs]

end Encoded

namespace Daemon

variable {d : Daemon}

/-- The frame that answers a Hello. -/
def helloAckFrame (env : LoopEnv) (d : Daemon) (index : ℕ) (client : ClientConnection)
    (frame : Frame) (hello : HelloPayload) : Frame :=
  let (granted, greeted) := d.greetClient env index client hello
  ⟨.helloAck, frame.requestId, encodeHelloAckPayload (greeted.helloAck env client granted)⟩

theorem Reads.configuration {d d' : Daemon} {index : ℕ} (h : Reads index d d') :
    d'.configuration = d.configuration := by
  induction h with
  | refl => rfl
  | tail _ hstep ih =>
    rw [← ih]
    cases hstep with
    | moves hmoves => exact hmoves.configuration
    | notes => rfl
    | greets _ _ _ _ _ _ decides => exact decides.configuration

/-- The configuration stays what it was at the start. -/
theorem configuration_of_run {configuration : DaemonConfig} {initialEpoch : UInt64}
    {controllerGid : Option UInt32} {labels : List (LoopEnv × LoopStep)}
    (reached : run Daemon.step (start configuration initialEpoch controllerGid) labels = some d)
    (running : d.shutdown = false) :
    d.configuration.heartbeatTimeout = configuration.heartbeatTimeout := by
  refine run_induction Daemon.step (P := fun m => m.shutdown = false →
    m.configuration.heartbeatTimeout = configuration.heartbeatTimeout) ?_ (fun _ => rfl) reached
    running
  intro m label m' hm hstep hrunning
  have hkept : m'.configuration = m.configuration := by
    cases step_outcome hstep with
    | moves hmoves => exact hmoves.configuration
    | scans env initial identities =>
      exact (advanceForScan_moves env initial (m.slots.map (plan identities)) m).configuration
    | reads env index results => exact (readClient_reads env 0 results).configuration
    | accepts => rfl
    | removes => rfl
    | stops _ _ _ _ _ _ _ _ shutdown => cases hrunning.symm.trans shutdown
  rw [hkept]
  exact hm (running_of_step hstep)

/-- The answer to an observer: the gate as it is, and the configured timeout. -/
theorem helloAckFrame_of_observer (env : LoopEnv) (index : ℕ) (client : ClientConnection)
    (frame : Frame) {hello : HelloPayload} (observer : hello.role = .observer) :
    ∃ capabilities, helloAckFrame env d index client frame hello =
      ⟨.helloAck, frame.requestId, encodeHelloAckPayload ⟨.observer, d.safety.outputsEnabled,
        .ofInt d.configuration.heartbeatTimeout, d.safety.epoch, client.pid, capabilities⟩⟩ := by
  have hgranted : d.grantRole env index client hello = (.observer, d) := by
    unfold grantRole
    rw [observer]
    rfl
  unfold helloAckFrame greetClient
  rw [hgranted]
  exact ⟨_, rfl⟩

/-- **When an observer completes its handshake.**  In any state the event loop reaches, the
daemon answers a Hello for the observer's role with a HelloAck.  The C++ client that sent
the Hello accepts it, and so does the `DaemonClient`, which uses the request id 0, exactly
when no outputs are enabled. -/
theorem observer_handshake_iff (configuration : DaemonConfig) (initialEpoch : UInt64)
    (controllerGid : Option UInt32) (labels : List (LoopEnv × LoopStep)) (d : Daemon)
    (reached : run Daemon.step (start configuration initialEpoch controllerGid) labels = some d)
    (running : d.shutdown = false)
    (timeout : 100 ≤ configuration.heartbeatTimeout ∧ configuration.heartbeatTimeout ≤ 5000)
    (env : LoopEnv) (index : ℕ) (client : ClientConnection) (frame : Frame)
    (hello : HelloPayload) (decoded : decodeHelloPayload frame.payload = some hello)
    (observer : hello.role = .observer) :
    d.handleHello env index client frame =
        (d.greetClient env index client hello).2.queueFrame env index
          (helloAckFrame env d index client frame hello).encode true ∧
      (∀ receiver : CppClient, receiver.expectedHelloRequest = frame.requestId →
        ((∃ next, receiver.processHelloAck (helloAckFrame env d index client frame hello) =
            .ok next ∧ next.helloReceived = true) ↔ d.safety.outputsEnabled = false)) ∧
      (frame.requestId = 0 → ∀ receiver : DaemonClient,
        ((∃ next, receiver.handleFirstFrame (helloAckFrame env d index client frame hello) =
            .ok next ∧ next.helloComplete = true) ↔ d.safety.outputsEnabled = false)) := by
  obtain ⟨capabilities, hack⟩ := helloAckFrame_of_observer env index client frame observer (d := d)
  rw [configuration_of_run reached running] at hack
  have hms : (UInt16.ofInt configuration.heartbeatTimeout).toNat =
      configuration.heartbeatTimeout.toNat := by
    obtain ⟨ms, hnat⟩ := Int.eq_ofNat_of_zero_le (Int.le_trans (by decide) timeout.1)
    rw [hnat] at timeout ⊢
    have hlt : ms < UInt16.size := by
      unfold UInt16.size
      omega
    have hmod : ((ms : ℤ) % 2 ^ 16).toNat = ms := by omega
    rw [UInt16.ofInt, hmod, UInt16.toNat_ofNat', Nat.mod_eq_of_lt hlt]
    rfl
  have hepoch := d.safety.epoch_ne_zero
  have htimeout : UInt16.ofInt configuration.heartbeatTimeout ≠ 0 := by
    intro hzero
    rw [hzero] at hms
    have hnat : (0 : UInt16).toNat = 0 := rfl
    omega
  refine ⟨?_, fun receiver hrequest => ?_, fun hzero receiver => ?_⟩
  · unfold handleHello
    rw [decoded]
    rfl
  · rw [hack]
    unfold CppClient.processHelloAck
    rw [if_pos hrequest.symm, decodeHelloAckPayload_encode htimeout hepoch]
    have hsafe : ¬(UInt16.ofInt configuration.heartbeatTimeout).toNat ≤ 20 := by omega
    dsimp only
    cases d.safety.outputsEnabled with
    | true => simp
    | false => simp [hsafe]
  · rw [hack]
    unfold DaemonClient.handleFirstFrame
    rw [if_neg (by simp [hzero]), parseHelloAck_encode htimeout hepoch]
    cases d.safety.outputsEnabled with
    | true => simp [bind, Except.bind]
    | false => simp [bind, Except.bind, ClientRole.code]

/-- The Hello of an observer, with the request id the `DaemonClient` uses. -/
def observerHelloFrame : Frame := ⟨.hello, 0, encodeHelloPayload {}⟩

/-- A controller enables outputs, and another client connects. -/
def secondClientSteps : List (LoopEnv × LoopStep) :=
  enableSteps ++ [(healthyEnv, .acceptClient (some ⟨42, 1000, 1000, []⟩))]

/-- The message of a failed call. -/
def failureMessage {α : Type} : Except ClientFailure α → Option String
  | .ok _ => none
  | .error failure => some failure.message

/-- The message of a refused frame. -/
def refusalMessage {α : Type} : Except String α → Option String
  | .ok _ => none
  | .error message => some message

/-- While the controller has outputs enabled, both clients refuse the answer to the Hello of
an observer. -/
theorem secondClient_refused : ∃ d client,
    run step (start oneBusConfig 7 none) secondClientSteps = some d ∧
      d.clients[1]? = some client ∧ client.helloReceived = false ∧
      decodeHelloPayload observerHelloFrame.payload = some {} ∧
      failureMessage (CppClient.processHelloAck {}
          (helloAckFrame healthyEnv d 1 client observerHelloFrame {})) =
        some "server resumed outputs during HELLO" ∧
      refusalMessage (DaemonClient.handleFirstFrame {}
          (helloAckFrame healthyEnv d 1 client observerHelloFrame {})) =
        some "daemon granted unsafe controller authority to configuration" := by
  have hview : (run step (start oneBusConfig 7 none) secondClientSteps).bind (fun d =>
      (d.clients[1]?).map fun client => (client.helloReceived,
        failureMessage (CppClient.processHelloAck {}
          (helloAckFrame healthyEnv d 1 client observerHelloFrame {})),
        refusalMessage (DaemonClient.handleFirstFrame {}
          (helloAckFrame healthyEnv d 1 client observerHelloFrame {})))) =
      some (false, some "server resumed outputs during HELLO",
        some "daemon granted unsafe controller authority to configuration") := by
    decide +kernel
  obtain ⟨d, hrun, hclients⟩ := Option.bind_eq_some_iff.mp hview
  obtain ⟨client, hclient, hanswers⟩ := Option.map_eq_some_iff.mp hclients
  simp only [Prod.mk.injEq] at hanswers
  exact ⟨d, client, hrun, hclient, hanswers.1, by decide +kernel, hanswers.2⟩

/-- Before the controller comes, the observer completes its handshake. -/
theorem firstObserver_accepted : ∃ d client,
    run step (start oneBusConfig 7 none) [(healthyEnv, .acceptClient (some ⟨42, 1000, 1000, []⟩))] =
        some d ∧ d.clients[0]? = some client ∧
      (∃ next, CppClient.processHelloAck {}
          (helloAckFrame healthyEnv d 0 client observerHelloFrame {}) = .ok next ∧
        next.helloReceived = true) ∧
      ∃ next, DaemonClient.handleFirstFrame {}
          (helloAckFrame healthyEnv d 0 client observerHelloFrame {}) = .ok next ∧
        next.helloComplete = true := by
  have hview : (run step (start oneBusConfig 7 none)
      [(healthyEnv, .acceptClient (some ⟨42, 1000, 1000, []⟩))]).bind (fun d =>
      (d.clients[0]?).map fun _ => (d.shutdown, d.safety.outputsEnabled)) =
      some (false, false) := by
    decide +kernel
  obtain ⟨d, hrun, hclients⟩ := Option.bind_eq_some_iff.mp hview
  obtain ⟨client, hclient, hflags⟩ := Option.map_eq_some_iff.mp hclients
  obtain ⟨hrunning, hdisabled⟩ := Prod.mk.inj hflags
  obtain ⟨_, hcpp, hserver⟩ := observer_handshake_iff oneBusConfig 7 none _ d hrun hrunning
    (by decide) healthyEnv 0 client observerHelloFrame {} (by decide +kernel) rfl
  exact ⟨d, client, hrun, hclient, (hcpp {} rfl).mpr hdisabled, (hserver rfl {}).mpr hdisabled⟩

end Daemon

end EcSystemCore
