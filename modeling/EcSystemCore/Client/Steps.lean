import EcSystemCore.Client.Moves
import EcSystemCore.Protocol.Roundtrip

/-!
# What a call of the C++ client does

A call is made of the moves of `Client/Moves.lean` and of a few steps of its own, each
taken in a state that the call has checked: a request is queued while the client is
connected and carries the epoch of the session; a socket is opened when there is none, and
its first frame is a Hello; the session begins when the HelloAck has come and nothing ended
it since; outputs are enabled by a request whose session went on until its acknowledgement
(`Step`).  `steps_call` says that every call is made of these steps.  What holds in every
life of the client is then proved step by step.
-/

namespace EcSystemCore

open Execution Relation

/-! ### Frames -/

/-- The bytes of a Hello. -/
def IsHello (frame : Bytes) : Prop :=
  ∃ requestId hello, frame = encodeFrame .hello requestId (encodeHelloPayload hello)

/-- The bytes of another message. -/
def IsRequest (frame : Bytes) : Prop :=
  ∃ type requestId payload, frame = encodeFrame type requestId payload ∧ type ≠ .hello

/-- The epoch in a payload of the messages that carry one. -/
def epochOf (type : MessageType) (payload : Bytes) : Option UInt64 :=
  match type with
  | .heartbeat | .releaseControl => decodeEpochPayload payload
  | .outputEnable => (decodeOutputEnablePayload payload).map (·.epoch)
  | .outputWrite => (decodeOutputWritePayload payload).map (·.epoch)
  | .adapterUnlock => (decodeAdapterUnlockPayload payload).map (·.epoch)
  | _ => none

/-- The epoch in the bytes of a frame. -/
def carriedEpoch (bytes : Bytes) : Option UInt64 :=
  match parseFrame bytes with
  | .item frame _ => epochOf frame.type frame.payload
  | _ => none

theorem carriedEpoch_encodeFrame {type : MessageType} {requestId : UInt32} {payload : Bytes}
    {epoch : UInt64} (h : carriedEpoch (encodeFrame type requestId payload) = some epoch) :
    epochOf type payload = some epoch := by
  by_cases hfits : Frame.Fits ⟨type, requestId, payload⟩
  · have hparse := parseFrame_encode hfits []
    rw [List.append_nil] at hparse
    unfold carriedEpoch at h
    rw [show encodeFrame type requestId payload = Frame.encode ⟨type, requestId, payload⟩ from rfl,
      hparse] at h
    exact h
  · have hnil : encodeFrame type requestId payload = [] :=
      not_not.mp fun hne => hfits (Frame.encode_ne_nil_iff.mp hne)
    rw [hnil] at h
    cases h

/-- A decoded value is the one that was encoded. -/
theorem eq_of_decode {α : Type} {encode : α → Bytes} {decode : Bytes → Option α}
    (h : RoundTrips encode decode) {sent received : α} (hnil : decode [] = none)
    (hdecode : decode (encode sent) = some received) : received = sent := by
  have hne : encode sent ≠ [] := by
    intro hempty
    rw [hempty, hnil] at hdecode
    cases hdecode
  rw [h.decode_encode sent hne] at hdecode
  exact (Option.some.inj hdecode).symm

/-- The frames that are built with an epoch, or without one. -/
inductive BuiltWith (epoch : UInt64) : Bytes → Prop
  | heartbeat (requestId : UInt32) :
      BuiltWith epoch (encodeFrame .heartbeat requestId (encodeEpochPayload epoch))
  | releaseControl (requestId : UInt32) :
      BuiltWith epoch (encodeFrame .releaseControl requestId (encodeEpochPayload epoch))
  | outputEnable (requestId : UInt32) (enabled : Bool) : BuiltWith epoch
      (encodeFrame .outputEnable requestId (encodeOutputEnablePayload ⟨epoch, enabled⟩))
  | outputWrite (requestId : UInt32) (busIndex subDeviceIndex : UInt16) (offset : UInt32)
      (data : Bytes) : BuiltWith epoch (encodeFrame .outputWrite requestId
        (encodeOutputWritePayload ⟨epoch, busIndex, subDeviceIndex, offset, data⟩))
  | adapterUnlock (requestId : UInt32) (busIndex : UInt16) : BuiltWith epoch
      (encodeFrame .adapterUnlock requestId (encodeAdapterUnlockPayload ⟨epoch, busIndex⟩))
  | subscribeInputs (requestId : UInt32) (payload : Bytes) :
      BuiltWith epoch (encodeFrame .subscribeInputs requestId payload)
  | clearCounters (requestId : UInt32) :
      BuiltWith epoch (encodeFrame .clearCounters requestId [])
  | adapterRescan (requestId : UInt32) :
      BuiltWith epoch (encodeFrame .adapterRescan requestId [])

namespace BuiltWith

variable {epoch other : UInt64} {frame : Bytes}

/-- A frame carries no other epoch than the one it was built with. -/
theorem carries (h : BuiltWith epoch frame) (hcarried : carriedEpoch frame = some other) :
    other = epoch := by
  have hepoch : RoundTrips encodeEpochPayload decodeEpochPayload := by
    rw [encodeEpochPayload_eq, decodeEpochPayload_eq]
    exact Layout.roundTrips ..
  have henable : RoundTrips encodeOutputEnablePayload decodeOutputEnablePayload := by
    rw [encodeOutputEnablePayload_eq, decodeOutputEnablePayload_eq]
    exact Layout.roundTrips ..
  have hwrite : RoundTrips encodeOutputWritePayload decodeOutputWritePayload := by
    rw [encodeOutputWritePayload_eq, decodeOutputWritePayload_eq]
    exact Layout.roundTrips ..
  have hunlock : RoundTrips encodeAdapterUnlockPayload decodeAdapterUnlockPayload := by
    rw [encodeAdapterUnlockPayload_eq, decodeAdapterUnlockPayload_eq]
    exact Layout.roundTrips ..
  cases h with
  | heartbeat => exact eq_of_decode hepoch rfl (carriedEpoch_encodeFrame hcarried)
  | releaseControl => exact eq_of_decode hepoch rfl (carriedEpoch_encodeFrame hcarried)
  | outputEnable =>
    obtain ⟨received, hreceived, rfl⟩ :=
      Option.map_eq_some_iff.mp (carriedEpoch_encodeFrame hcarried)
    rw [eq_of_decode henable rfl hreceived]
  | outputWrite =>
    obtain ⟨received, hreceived, rfl⟩ :=
      Option.map_eq_some_iff.mp (carriedEpoch_encodeFrame hcarried)
    rw [eq_of_decode hwrite rfl hreceived]
  | adapterUnlock =>
    obtain ⟨received, hreceived, rfl⟩ :=
      Option.map_eq_some_iff.mp (carriedEpoch_encodeFrame hcarried)
    rw [eq_of_decode hunlock rfl hreceived]
  | subscribeInputs => cases carriedEpoch_encodeFrame hcarried
  | clearCounters => cases carriedEpoch_encodeFrame hcarried
  | adapterRescan => cases carriedEpoch_encodeFrame hcarried

theorem isRequest (h : BuiltWith epoch frame) : IsRequest frame := by
  cases h <;> exact ⟨_, _, _, rfl, nofun⟩

end BuiltWith

/-- A Hello carries no epoch of a session. -/
theorem IsHello.carriedEpoch {frame : Bytes} (h : IsHello frame) : carriedEpoch frame = none := by
  obtain ⟨requestId, hello, rfl⟩ := h
  cases hcarried : EcSystemCore.carriedEpoch
    (encodeFrame .hello requestId (encodeHelloPayload hello)) with
  | none => rfl
  | some epoch => cases carriedEpoch_encodeFrame hcarried

/-- The frames a call builds: their message and the arguments of the call in it. -/
def ClientCall.Builds : ClientCall → Bytes → Prop
  | .connect _, frame => IsHello frame
  | .poll _, frame => ∃ requestId epoch,
      frame = encodeFrame .heartbeat requestId (encodeEpochPayload epoch)
  | .maintainConnection _ _, frame => IsHello frame ∨ ∃ requestId epoch,
      frame = encodeFrame .heartbeat requestId (encodeEpochPayload epoch)
  | .disconnect _ _, frame => ∃ requestId epoch,
      frame = encodeFrame .outputEnable requestId (encodeOutputEnablePayload ⟨epoch, false⟩)
  | .heartbeat _, frame => ∃ requestId epoch,
      frame = encodeFrame .heartbeat requestId (encodeEpochPayload epoch)
  | .enableOutputs enabled _, frame => ∃ requestId epoch,
      frame = encodeFrame .outputEnable requestId (encodeOutputEnablePayload ⟨epoch, enabled⟩)
  | .writeOutput busIndex subDeviceIndex offset data _, frame => ∃ requestId epoch,
      frame = encodeFrame .outputWrite requestId
        (encodeOutputWritePayload ⟨epoch, busIndex, subDeviceIndex, offset, data⟩)
  | .releaseControl _, frame => ∃ requestId epoch,
      frame = encodeFrame .releaseControl requestId (encodeEpochPayload epoch)
  | .subscribeInputs enabled periodMs _, frame => ∃ requestId,
      frame = encodeFrame .subscribeInputs requestId
        (encodeSubscribeInputsPayload ⟨enabled, periodMs⟩)
  | .clearCounters _, frame => ∃ requestId, frame = encodeFrame .clearCounters requestId []
  | .rescanAdapters _, frame => ∃ requestId, frame = encodeFrame .adapterRescan requestId []
  | .runtimeUnlockAdapter busIndex _, frame => ∃ requestId epoch,
      frame = encodeFrame .adapterUnlock requestId
        (encodeAdapterUnlockPayload ⟨epoch, busIndex⟩)
  | .popInput, _ => False
  | .popInputImage, _ => False
  | .popBusInfo, _ => False

namespace ClientImplementation

/-! ### Steps -/

/-- There is no socket and no session. -/
structure Idle (client : ClientImplementation) : Prop where
  descriptor : client.descriptor = none
  connected : client.connected = false
  outgoing : client.outgoing = []
  outgoingOffset : client.outgoingOffset = 0
  helloReceived : client.helloReceived = false

/-- The Hello of a new socket. -/
def helloFrame (client : ClientImplementation) : Bytes :=
  encodeFrame .hello client.openSocket.takeRequestId.1
    (encodeHelloPayload client.openSocket.takeRequestId.2.hello)

theorem isHello_helloFrame (client : ClientImplementation) : IsHello client.helloFrame :=
  ⟨_, _, rfl⟩

/-- A new socket, with its Hello queued, waits for the HelloAck. -/
def introduce (client : ClientImplementation) : ClientImplementation :=
  { client.openSocket.takeRequestId.2.enqueue client.sockets client.helloFrame with
    expectedHelloRequest := client.openSocket.takeRequestId.1
    helloReceived := false }

theorem introduce_log (client : ClientImplementation) : client.introduce.log =
    client.log ++ [.opened client.sockets, .queued client.sockets client.helloFrame] :=
  List.append_assoc _ _ _

/-- A step of a call that builds only certain frames. -/
inductive Step (builds : Bytes → Prop) : ClientImplementation → ClientImplementation → Prop
  | move {before after : ClientImplementation} (h : Move before after) : Step builds before after
  | closed {client : ClientImplementation} (h : client.connected = false) :
      Step builds client client.closeSocket
  | opened {client : ClientImplementation} (h : Idle client) :
      Step builds client client.openSocket
  | introduced {client : ClientImplementation} (h : Idle client) (hne : client.helloFrame ≠ [])
      (hbuilds : builds client.helloFrame) : Step builds client client.introduce
  | established {client waited : ClientImplementation} (h : Idle client)
      (hne : client.helloFrame ≠ []) (hbuilds : builds client.helloFrame) (hlives : Lives client.introduce waited)
      (hreceived : waited.helloReceived = true) :
      Step builds client (waited.establish client.sockets)
  | requested {client : ClientImplementation} {socket : ℕ} {frame : Bytes} (hne : frame ≠ [])
      (hdescriptor : client.descriptor = some socket) (hconnected : client.connected = true)
      (hframe : BuiltWith client.epoch frame) (hbuilds : builds frame) :
      Step builds client (client.enqueue socket frame)
  | enabled {client acknowledged : ClientImplementation} {socket : ℕ} {frame : Bytes}
      (hne : frame ≠ []) (hdescriptor : client.descriptor = some socket)
      (hrequire : client.requireController = true)
      (hframe : BuiltWith client.epoch frame) (hbuilds : builds frame)
      (hlives : Lives (client.enqueue socket frame) acknowledged) (enabled : Bool) :
      Step builds client { acknowledged with outputsEnabled := enabled }
  | released (client : ClientImplementation) :
      Step builds client { client with controllerGranted := false, outputsEnabled := false }
  | left (client : ClientImplementation) : Step builds client client.leave

/-- What a call does. -/
abbrev Steps (builds : Bytes → Prop) := ReflTransGen (Step builds)

variable {builds : Bytes → Prop} {client next : ClientImplementation}

theorem Moves.steps (h : Moves client next) : Steps builds client next :=
  ReflTransGen.mono (fun _ _ => .move) _ _ h

theorem Quiet.steps (h : Quiet client next) : Steps builds client next := h.lives.moves.steps

theorem steps_fail (h : Steps builds client next) (error : ClientError) (message : String)
    (status : AckStatus) : Steps builds client (next.fail error message status).2 :=
  h.trans (quiet_fail next error message status).steps

theorem steps_succeed (h : Steps builds client next) : Steps builds client next.succeed.2 :=
  h.trans (Quiet.steps (quiet_bookkeeping ..))

theorem steps_handleDisconnect (h : Steps builds client next) :
    Steps builds client next.handleDisconnect :=
  h.tail (.move (.disconnected next))

/-! ### Requests -/

theorem steps_failForRequestStatus (h : Steps builds client next) (status : AckStatus)
    (message : String) : Steps builds client (next.failForRequestStatus status message).2 := by
  unfold failForRequestStatus
  split_ifs
  · exact h
  · exact steps_fail h _ _ _

/-- What follows a request whose session went on until its acknowledgement. -/
def Follows (builds : Bytes → Prop) (client : ClientImplementation)
    (onOk : ClientImplementation → ClientImplementation) : Prop :=
  ∀ socket frame acknowledged, frame ≠ [] → client.descriptor = some socket →
    BuiltWith client.epoch frame → builds frame → Lives (client.enqueue socket frame) acknowledged →
    Steps builds client (onOk acknowledged)

/-- A change to the acknowledged client is a step of its own. -/
theorem follows_of_step (client : ClientImplementation) (hconnected : client.connected = true)
    {onOk : ClientImplementation → ClientImplementation}
    (h : ∀ client, Steps builds client (onOk client)) : Follows builds client onOk :=
  fun _ _ _ hne hdescriptor hframe hbuilds hlives =>
    (ReflTransGen.single (.requested hne hdescriptor hconnected hframe hbuilds)).trans
      (hlives.moves.steps.trans (h _))

theorem steps_requestCall (hconnected : client.connected = true) (type : MessageType)
    (payload : Bytes)
    (hframe : ∀ requestId, BuiltWith client.epoch (encodeFrame type requestId payload))
    (hbuilds : ∀ requestId, builds (encodeFrame type requestId payload)) (message : String)
    {onOk : ClientImplementation → ClientImplementation}
    (honOk : Follows builds client.takeRequestId.2 onOk) (passes : List Pump) :
    Steps builds client (client.requestCall type payload message onOk passes).2 := by
  have htake : Quiet client client.takeRequestId.2 := quiet_bookkeeping ..
  refine htake.steps.trans ?_
  unfold requestCall request
  dsimp only
  rcases queue_cases client.takeRequestId.2 (encodeFrame type client.takeRequestId.1 payload) with
    ⟨socket, hdescriptor, hne, heq⟩ | ⟨failed, heq, hquiet⟩
  · rw [heq]
    dsimp only
    split
    · rename_i acknowledged hok
      exact steps_succeed (honOk _ _ _ hne hdescriptor (hframe _) (hbuilds _) (lives_of_await_ok hok))
    · rename_i status answered _ hother
      have hmoves := moves_await (client.takeRequestId.2.enqueue socket
        (encodeFrame type client.takeRequestId.1 payload)) client.takeRequestId.1 passes
      rw [hother] at hmoves
      refine steps_failForRequestStatus (.trans (.single ?_) hmoves.steps) _ _
      exact .requested hne hdescriptor hconnected (hframe _) (hbuilds _)
  · rw [heq]
    exact steps_failForRequestStatus hquiet.steps _ _

theorem steps_controllerCall (client : ClientImplementation) (type : MessageType)
    (payload : UInt64 → Bytes)
    (hframe : ∀ requestId epoch, BuiltWith epoch (encodeFrame type requestId (payload epoch)))
    (hbuilds : ∀ requestId epoch, builds (encodeFrame type requestId (payload epoch)))
    (message : String) {onOk : ClientImplementation → ClientImplementation}
    (honOk : ∀ client : ClientImplementation, client.requireController = true →
      Follows builds client onOk) (passes : List Pump) :
    Steps builds client (client.controllerCall type payload message onOk passes).2 := by
  unfold controllerCall
  split_ifs with hrequire
  · exact steps_requestCall (connected_of_requireController hrequire) type _
      (fun requestId => hframe requestId client.epoch)
      (fun requestId => hbuilds requestId client.epoch) message
      (honOk client.takeRequestId.2 hrequire) passes
  · exact steps_fail .refl _ _ _

theorem steps_writeOutput (client : ClientImplementation) {busIndex subDeviceIndex : UInt16}
    {offset : UInt32} {data : Bytes}
    (hbuilds : ∀ requestId epoch, builds (encodeFrame .outputWrite requestId
      (encodeOutputWritePayload ⟨epoch, busIndex, subDeviceIndex, offset, data⟩)))
    (passes : List Pump) :
    Steps builds client (client.writeOutput busIndex subDeviceIndex offset data passes).2 := by
  unfold writeOutput
  split
  · rename_i hrequire
    have hconnected : client.connected = true :=
      connected_of_requireController (Bool.and_eq_true_iff.mp hrequire).1
    dsimp only
    split
    · exact steps_fail .refl _ _ _
    · exact steps_requestCall hconnected .outputWrite _
        (fun requestId => .outputWrite requestId busIndex subDeviceIndex offset data)
        (fun requestId => hbuilds requestId client.epoch) _
        (follows_of_step client.takeRequestId.2 hconnected fun _ => .refl) passes
  · exact steps_fail .refl _ _ _

theorem steps_subscribeInputs (client : ClientImplementation) {enabled : Bool} {periodMs : UInt16}
    (hbuilds : ∀ requestId, builds (encodeFrame .subscribeInputs requestId
      (encodeSubscribeInputsPayload ⟨enabled, periodMs⟩))) (passes : List Pump) :
    Steps builds client (client.subscribeInputs enabled periodMs passes).2 := by
  unfold subscribeInputs
  split
  · rename_i hconnected
    dsimp only
    split
    · exact steps_fail .refl _ _ _
    · refine steps_requestCall hconnected .subscribeInputs _
        (fun requestId => .subscribeInputs requestId _) hbuilds _
        (follows_of_step client.takeRequestId.2 hconnected fun _ => ?_) passes
      exact Quiet.steps (quiet_bookkeeping ..)
  · exact steps_fail .refl _ _ _

theorem steps_emptyRequest (client : ClientImplementation) (type : MessageType)
    (hframe : ∀ requestId epoch, BuiltWith epoch (encodeFrame type requestId []))
    (hbuilds : ∀ requestId, builds (encodeFrame type requestId [])) (passes : List Pump) :
    Steps builds client (client.emptyRequest type passes).2 := by
  unfold emptyRequest
  split_ifs with hconnected
  · exact steps_requestCall hconnected type _ (fun requestId => hframe requestId client.epoch)
      hbuilds _ (follows_of_step client.takeRequestId.2 hconnected fun _ => .refl) passes
  · exact steps_fail .refl _ _ _

/-- A request that nothing waits for. -/
theorem steps_queue {frame : Bytes} (hconnected : client.connected = true)
    (hframe : BuiltWith client.epoch frame) (hbuilds : builds frame) :
    Steps builds client (client.queue frame).2 := by
  rcases queue_cases client frame with ⟨socket, hdescriptor, hne, heq⟩ | ⟨failed, heq, hquiet⟩
  · rw [heq]
    exact .single (.requested hne hdescriptor hconnected hframe hbuilds)
  · rw [heq]
    exact hquiet.steps

theorem steps_sendHeartbeat (client : ClientImplementation)
    (hbuilds : ∀ requestId epoch, builds (encodeFrame .heartbeat requestId
      (encodeEpochPayload epoch))) : Steps builds client client.sendHeartbeat.2 := by
  unfold sendHeartbeat
  split_ifs with hrequire
  · have htake : Quiet client client.takeRequestId.2 := quiet_bookkeeping ..
    refine htake.steps.trans ?_
    dsimp only
    split_ifs
    · exact steps_fail (.single (.move (.invalidated _ _))) _ _ _
    · have hqueue : Steps builds client.takeRequestId.2 (client.takeRequestId.2.queue
          (encodeFrame .heartbeat client.takeRequestId.1
            (encodeEpochPayload client.takeRequestId.2.epoch))).2 :=
        steps_queue (connected_of_requireController hrequire) (.heartbeat _) (hbuilds _ _)
      split
      · rename_i heq
        rw [heq] at hqueue
        exact hqueue
      · rename_i queued heq
        rw [heq] at hqueue
        have hpending : Quiet queued { queued with heartbeatRequests :=
          queued.heartbeatRequests ++ [client.takeRequestId.1] } := quiet_bookkeeping ..
        exact hqueue.trans hpending.steps
  · exact steps_fail .refl _ _ _

theorem steps_poll (client : ClientImplementation)
    (hbuilds : ∀ requestId epoch, builds (encodeFrame .heartbeat requestId
      (encodeEpochPayload epoch))) (script : PollScript) :
    Steps builds client (client.poll script).2 := by
  unfold poll
  split
  · exact steps_fail .refl _ _ _
  · have hheartbeat : Steps builds client
        (if client.controllerGranted && script.heartbeatDue then client.sendHeartbeat
          else (true, client)).2 := by
      split_ifs
      · exact steps_sendHeartbeat client hbuilds
      · exact .refl
    split
    · rename_i heq
      rw [heq] at hheartbeat
      exact hheartbeat
    · rename_i heq
      rw [heq] at hheartbeat
      refine hheartbeat.trans ?_
      split
      · exact .refl
      · exact .refl
      · exact steps_fail (steps_handleDisconnect .refl) _ _ _
      · split
        · exact steps_fail (steps_handleDisconnect .refl) _ _ _
        · exact (outcome_serve _ _ _ _ _).moves.steps

/-! ### Connections -/

/-- `Connect` closes the socket again. -/
theorem steps_close (h : Steps builds client next) (hconnected : next.connected = false)
    (error : ClientError) (message : String) (status : AckStatus) :
    Steps builds client (next.closeSocket.fail error message status).2 :=
  steps_fail (h.tail (.closed hconnected)) _ _ _

/-- While the client is not connected, no move connects it. -/
theorem Moves.not_connected (h : Moves client next) (hnot : client.connected = false) :
    next.connected = false := by
  induction h with
  | refl => exact hnot
  | tail _ hmove ih =>
    cases hmove with
    | live hlive =>
      cases hlive with
      | quiet hquiet => exact hquiet.connected.trans ih
      | greeted hgreeted => exact hgreeted.connected.trans ih
      | sent _ _ _ _ =>
        unfold advance
        dsimp only
        split_ifs <;> exact ih
    | invalidated => rfl
    | disconnected => rfl

theorem steps_greet (h : Idle client) (hbuilds : builds client.helloFrame)
    (passes : List Pump) :
    Steps builds client (client.openSocket.greet client.sockets passes).2 := by
  unfold greet
  dsimp only
  have hframe : encodeFrame .hello client.openSocket.takeRequestId.1
      (encodeHelloPayload client.openSocket.takeRequestId.2.hello) = client.helloFrame := rfl
  rw [hframe]
  rcases queue_cases client.openSocket.takeRequestId.2 client.helloFrame with
    ⟨socket, hsocket, hne, heq⟩ | ⟨failed, heq, hquiet⟩
  · rw [heq]
    cases hsocket
    change Steps builds client ((client.introduce.awaitHello passes).conclude client.sockets).2
    have hcases : _ ∨ _ := awaitHello_cases (show client.introduce.helloReceived = false from rfl)
      passes
    generalize client.introduce.awaitHello passes = waited at hcases
    have hmoves : Moves client.introduce waited := hcases.elim Lives.moves And.right
    have hwaited : Steps builds client waited := .head (.introduced h hne hbuilds) hmoves.steps
    have hnot : waited.connected = false := hmoves.not_connected h.connected
    unfold conclude
    split_ifs with hreceived hdenied
    · exact steps_close hwaited hnot _ _ _
    · exact steps_close hwaited hnot _ _ _
    · rcases hcases with hlives | ⟨hnone, -⟩
      · exact steps_succeed (.single (.established h hne hbuilds hlives (by simpa using hreceived)))
      · exact absurd (by rw [hnone]; rfl) hreceived
  · rw [heq]
    have htake : Quiet client.openSocket client.openSocket.takeRequestId.2 := quiet_bookkeeping ..
    refine .tail ((ReflTransGen.single (.opened h)).trans
      (htake.steps.trans hquiet.steps)) (.closed ?_)
    exact hquiet.connected.trans h.connected

theorem steps_connect (client : ClientImplementation)
    (hbuilds : ∀ frame, IsHello frame → builds frame) (script : ConnectScript) :
    Steps builds client (client.connect script).2 := by
  unfold connect
  split
  · exact .refl
  rename_i hconnected
  have hnot : client.connected = false := Bool.eq_false_of_not_eq_true hconnected
  have hidle : Idle client.closeSocket := ⟨rfl, hnot, rfl, rfl, rfl⟩
  have hclosed : Steps builds client client.closeSocket := .single (.closed hnot)
  split
  · exact steps_fail .refl _ _ _
  split
  · exact .refl
  refine hclosed.trans ?_
  have hopened : Steps builds client.closeSocket client.closeSocket.openSocket :=
    .single (.opened hidle)
  dsimp only
  split
  · exact steps_fail .refl _ _ _
  split
  · exact steps_close hopened hnot _ _ _
  · exact steps_close hopened hnot _ _ _
  · split
    · exact steps_close hopened hnot _ _ _
    · exact steps_greet hidle (hbuilds _ (isHello_helloFrame _)) _

theorem steps_disconnect (client : ClientImplementation)
    (hbuilds : ∀ requestId epoch, builds (encodeFrame .outputEnable requestId
      (encodeOutputEnablePayload ⟨epoch, false⟩)))
    (graceful : Bool) (passes : List (List SendResult)) :
    Steps builds client (client.disconnect graceful passes) := by
  unfold disconnect
  split_ifs with hgraceful
  · have hconnected := connected_of_requireController (Bool.and_eq_true_iff.mp hgraceful).2
    have htake : Quiet client client.takeRequestId.2 := quiet_bookkeeping ..
    have hqueue : Steps builds client.takeRequestId.2 (client.takeRequestId.2.queue
        (encodeFrame .outputEnable client.takeRequestId.1
          (encodeOutputEnablePayload ⟨client.takeRequestId.2.epoch, false⟩))).2 :=
      steps_queue hconnected (.outputEnable _ _) (hbuilds _ _)
    exact .tail (htake.steps.trans (hqueue.trans (moves_drainOutgoing _ _).steps)) (.left _)
  · exact .single (.left client)

/-! ### Calls -/

theorem quiet_popInput (client : ClientImplementation) : Quiet client client.popInput.2 := by
  refine ⟨rfl, rfl, rfl, rfl, rfl, rfl, rfl, rfl, rfl, id, ?_, id⟩
  intro epoch hepoch
  rcases mem_held.mp hepoch with ⟨input, hmem, rfl⟩ | hrest
  · exact .inl (mem_held.mpr (.inl ⟨input, List.mem_of_mem_tail hmem, rfl⟩))
  · exact .inl (mem_held.mpr (.inr hrest))

theorem quiet_popInputImage (client : ClientImplementation) :
    Quiet client client.popInputImage.2 := by
  refine ⟨rfl, rfl, rfl, rfl, rfl, rfl, rfl, rfl, rfl, id, ?_, id⟩
  have hpopped := client.epochs_held.popInputImage
  intro epoch hepoch
  rcases mem_held.mp hepoch with hinput | hinformation | ⟨assembly, hmem, rfl⟩ | ⟨image, hmem, rfl⟩
  · exact .inl (mem_held.mpr (.inl hinput))
  · exact .inl (mem_held.mpr (.inr (.inl hinformation)))
  · exact hpopped.assemblies assembly hmem
  · exact hpopped.images image hmem

theorem quiet_popBusInfo (client : ClientImplementation) : Quiet client client.popBusInfo.2 := by
  refine ⟨rfl, rfl, rfl, rfl, rfl, rfl, rfl, rfl, rfl, id, ?_, id⟩
  intro epoch hepoch
  rcases mem_held.mp hepoch with hinput | ⟨information, hmem, rfl⟩ | hrest
  · exact .inl (mem_held.mpr (.inl hinput))
  · exact .inl (mem_held.mpr (.inr (.inl ⟨information, List.mem_of_mem_tail hmem, rfl⟩)))
  · exact .inl (mem_held.mpr (.inr (.inr hrest)))

/-- Every call is made of steps. -/
theorem steps_call (client : ClientImplementation) (call : ClientCall) :
    Steps call.Builds client (client.call call).2 := by
  cases call with
  | connect script => exact steps_connect client (fun _ => id) script
  | poll script => exact steps_poll client (fun requestId epoch => ⟨requestId, epoch, rfl⟩) script
  | maintainConnection poll connect =>
    change Steps _ client (client.maintainConnection poll connect).2
    unfold maintainConnection
    split_ifs
    · exact steps_poll client (fun requestId epoch => .inr ⟨requestId, epoch, rfl⟩) poll
    · exact steps_connect client (fun _ => .inl) connect
  | disconnect graceful passes =>
    exact steps_disconnect client (fun requestId epoch => ⟨requestId, epoch, rfl⟩) graceful passes
  | heartbeat passes =>
    exact steps_controllerCall client .heartbeat encodeEpochPayload
      (fun requestId _ => .heartbeat requestId) (fun requestId epoch => ⟨requestId, epoch, rfl⟩) _
      (fun taken hrequire => follows_of_step taken (connected_of_requireController hrequire)
        fun _ => .refl) passes
  | enableOutputs enabled passes =>
    refine steps_controllerCall client .outputEnable
      (fun epoch => encodeOutputEnablePayload ⟨epoch, enabled⟩)
      (fun requestId _ => .outputEnable requestId enabled)
      (fun requestId epoch => ⟨requestId, epoch, rfl⟩) _ (fun taken hrequire => ?_) passes
    exact fun _ _ _ hne hdescriptor hframe hbuilds hlives =>
      .single (.enabled hne hdescriptor hrequire hframe hbuilds hlives enabled)
  | writeOutput busIndex subDeviceIndex offset data passes =>
    exact steps_writeOutput client (fun requestId epoch => ⟨requestId, epoch, rfl⟩) passes
  | releaseControl passes =>
    refine steps_controllerCall client .releaseControl encodeEpochPayload
      (fun requestId _ => .releaseControl requestId)
      (fun requestId epoch => ⟨requestId, epoch, rfl⟩) _ (fun taken hrequire =>
        follows_of_step taken (connected_of_requireController hrequire) fun acknowledged => ?_)
      passes
    exact .single (.released acknowledged)
  | subscribeInputs enabled periodMs passes =>
    exact steps_subscribeInputs client (fun requestId => ⟨requestId, rfl⟩) passes
  | clearCounters passes =>
    exact steps_emptyRequest client .clearCounters (fun requestId _ => .clearCounters requestId)
      (fun requestId => ⟨requestId, rfl⟩) passes
  | rescanAdapters passes =>
    exact steps_emptyRequest client .adapterRescan (fun requestId _ => .adapterRescan requestId)
      (fun requestId => ⟨requestId, rfl⟩) passes
  | runtimeUnlockAdapter busIndex passes =>
    refine steps_controllerCall client .adapterUnlock
      (fun epoch => encodeAdapterUnlockPayload ⟨epoch, busIndex⟩)
      (fun requestId _ => .adapterUnlock requestId busIndex)
      (fun requestId epoch => ⟨requestId, epoch, rfl⟩) _ (fun taken hrequire =>
        follows_of_step taken (connected_of_requireController hrequire) fun acknowledged => ?_)
      passes
    exact (quiet_disabled acknowledged).steps
  | popInput => exact (quiet_popInput client).steps
  | popInputImage => exact (quiet_popInputImage client).steps
  | popBusInfo => exact (quiet_popBusInfo client).steps

/-! ### Lives -/

/-- A new client. -/
def create (options : ClientOptions) (heartbeatPeriod : ℕ) : ClientImplementation :=
  { options, heartbeatPeriod }

/-- What has happened to sockets and sessions in a life of the client. -/
def socketLog (client : ClientImplementation) (calls : List ClientCall) : List SocketEvent :=
  (history perform client calls).flatMap fun entry => entry.2.2

theorem socketLog_cons (client : ClientImplementation) (call : ClientCall)
    (calls : List ClientCall) : client.socketLog (call :: calls) =
      (client.perform call).2.log ++ (client.perform call).2.socketLog calls :=
  List.flatMap_cons

/-- The induction rule for lives, behind the events of an earlier part. -/
theorem history_induction_append {P : List SocketEvent → ClientImplementation → Prop}
    (reset : ∀ log client, P log client → P log { client with log := [] })
    (preserved : ∀ past builds client next, P (past ++ client.log) client →
      Step builds client next → P (past ++ next.log) next)
    {past : List SocketEvent} (init : P past client) (calls : List ClientCall) :
    P (past ++ client.socketLog calls) (final perform client calls) := by
  induction calls generalizing past client with
  | nil =>
    rw [socketLog, history_nil, List.flatMap_nil, List.append_nil]
    exact init
  | cons call calls ih =>
    have hstart : P (past ++ { client with log := [] }.log) { client with log := [] } := by
      rw [List.append_nil]
      exact reset past client init
    have hsteps : ∀ {builds next}, Steps builds { client with log := [] } next →
        P (past ++ next.log) next := by
      intro builds next hsteps
      induction hsteps with
      | refl => exact hstart
      | tail _ hstep hprevious => exact preserved past _ _ _ hprevious hstep
    have hcall : P (past ++ (client.perform call).2.log) (client.perform call).2 :=
      hsteps (steps_call _ call)
    rw [socketLog_cons, ← List.append_assoc]
    exact ih hcall

/-- **The induction rule** for lives: what every step preserves of a client and the events
so far holds after any calls. -/
theorem history_induction {P : List SocketEvent → ClientImplementation → Prop}
    (reset : ∀ log client, P log client → P log { client with log := [] })
    (preserved : ∀ past builds client next, P (past ++ client.log) client →
      Step builds client next → P (past ++ next.log) next)
    (init : P [] client) (calls : List ClientCall) :
    P (client.socketLog calls) (final perform client calls) := by
  have hlife := history_induction_append reset preserved init calls
  rwa [List.nil_append] at hlife

end ClientImplementation

end EcSystemCore
