import EcSystemCore.Client.JavaClient

/-!
# The heartbeat always finds room

The Java client leaves room for one heartbeat frame when it queues a command, and queues a
heartbeat only when none is outstanding.  The room is there again when the frame of the
heartbeat is written, not when the heartbeat is acknowledged: `Reserved` says that it is free
or taken by the frame of the outstanding heartbeat.  A run is therefore followed together
with the place which that frame has in the outbound queue, until it is fully written.
-/

namespace EcSystemCore.Java

theorem length_encodeFrame_le (type : MessageType) (requestId : UInt32) (payload : Bytes) :
    (encodeFrame type requestId payload).length ≤
      kLengthPrefixSize + kEnvelopeSize + payload.length := by
  unfold encodeFrame
  dsimp only
  split_ifs
  · exact Nat.zero_le _
  · simp only [List.length_append, Wire.length_le32, Wire.length_le16, List.length_cons, List.length_nil]
    change _ ≤ 4 + 12 + _
    have : kMagic.length = 4 := rfl
    omega

namespace Transport

variable {transport next : Transport} {maximum : ℕ} {place : Option ℕ} {bytes : Bytes}

/-- The count is exact, and there is room for a heartbeat unless the frame of one is queued:
that of the outstanding heartbeat. -/
structure Reserved (maximum : ℕ) (transport : Transport) (place : Option ℕ) : Prop where
  counted : transport.outboundBytes = (transport.outbound.map OutboundFrame.size).sum
  left : ∀ frame ∈ transport.outbound, frame.bytes.length ≤ frame.size ∧
    (frame.bytes = [] → frame.size = 0)
  requestId : transport.requestId ≠ 0
  free : place = none → transport.outboundBytes + heartbeatFrameBytes ≤ maximum
  taken : ∀ index, place = some index → transport.heartbeatRequestId ≠ 0 ∧
    ∃ frame, transport.outbound[index]? = some frame ∧ frame.size ≤ heartbeatFrameBytes ∧
      transport.outboundBytes + heartbeatFrameBytes ≤ maximum + frame.size

namespace Reserved

theorem outboundBytes_le (h : Reserved maximum transport place) :
    transport.outboundBytes ≤ maximum := by
  cases place with
  | none => exact Nat.le_of_add_right_le (h.free rfl)
  | some index =>
    obtain ⟨-, frame, -, hsize, hbytes⟩ := h.taken index rfl
    omega

theorem nextRequestId_ne_zero (transport : Transport) :
    transport.nextRequestId.2.requestId ≠ 0 := by
  unfold nextRequestId
  dsimp only
  split_ifs with hlast
  · decide
  · intro hzero
    refine hlast ?_
    generalize transport.requestId = requestId at hzero
    grind

theorem of_outbound_eq_nil (hmaximum : heartbeatFrameBytes ≤ maximum)
    (hrequestId : transport.requestId ≠ 0) (hempty : transport.outbound = [])
    (hbytes : transport.outboundBytes = 0) : Reserved maximum transport none where
  counted := by rw [hempty, hbytes]; rfl
  left := by rw [hempty]; exact nofun
  requestId := hrequestId
  free _ := by rw [hbytes, Nat.zero_add]; exact hmaximum
  taken := nofun

theorem nextRequestId (h : Reserved maximum transport place) :
    Reserved maximum transport.nextRequestId.2 place :=
  ⟨h.counted, h.left, nextRequestId_ne_zero transport, h.free, h.taken⟩

/-- A command leaves the room for a heartbeat. -/
theorem enqueue_command (h : Reserved maximum transport place)
    (hroom : transport.canEnqueueCommand maximum bytes.length = true) :
    Reserved maximum (transport.enqueue bytes) place := by
  have hroom := of_decide_eq_true hroom
  refine ⟨?_, fun frame hmem => ?_, h.requestId, fun _ => ?_, fun index hplace => ?_⟩
  · simp [enqueue, h.counted]
  · rcases List.mem_append.mp hmem with hmem | hmem
    · exact h.left frame hmem
    · rw [List.mem_singleton.mp hmem]
      exact ⟨Nat.le_refl _, fun hempty => congrArg List.length hempty⟩
  · change _ + _ + _ ≤ _
    omega
  · obtain ⟨hheartbeat, frame, hframe, hsize, -⟩ := h.taken index hplace
    refine ⟨hheartbeat, frame, ?_, hsize, ?_⟩
    · exact (List.getElem?_append_left (List.getElem?_eq_some_iff.mp hframe).1).trans hframe
    · change _ + _ + _ ≤ _
      omega

/-- A heartbeat takes the room. -/
theorem enqueue_heartbeat (h : Reserved maximum transport none) {requestId : UInt32}
    (hrequestId : requestId ≠ 0) (hsize : bytes.length ≤ heartbeatFrameBytes) :
    Reserved maximum ({ transport with heartbeatRequestId := requestId }.enqueue bytes)
      (some transport.outbound.length) := by
  have hfree := h.free rfl
  refine ⟨?_, fun frame hmem => ?_, h.requestId, nofun, fun index hplace => ?_⟩
  · simp [enqueue, h.counted]
  · rcases List.mem_append.mp hmem with hmem | hmem
    · exact h.left frame hmem
    · rw [List.mem_singleton.mp hmem]
      exact ⟨Nat.le_refl _, fun hempty => congrArg List.length hempty⟩
  · obtain rfl := Option.some.inj hplace
    refine ⟨hrequestId, ⟨bytes, bytes.length⟩, ?_, hsize, ?_⟩
    · exact List.getElem?_concat_length
    · change transport.outboundBytes + bytes.length + heartbeatFrameBytes ≤
        maximum + bytes.length
      omega

/-- Part of the first frame is written. -/
theorem flush {written : ℕ} (h : Reserved maximum transport place)
    (hflush : transport.flush written = some next) :
    Reserved maximum next (if next.outbound.length < transport.outbound.length then
      place.bind (fun index => if index = 0 then none else some (index - 1)) else place) := by
  unfold Transport.flush at hflush
  split at hflush
  · cases hflush
  · rename_i frame frames houtbound
    have hcounted := h.counted
    rw [houtbound, List.map_cons, List.sum_cons] at hcounted
    have hframe := h.left frame (houtbound ▸ List.mem_cons_self)
    have hframes := fun other hmem => h.left other (houtbound ▸ List.mem_cons_of_mem _ hmem)
    split_ifs at hflush with hpossible hall <;> cases hflush
    · -- the frame is fully written
      rw [if_pos (by rw [houtbound]; exact Nat.lt_succ_self _)]
      refine ⟨?_, hframes, h.requestId, fun hplace => ?_, fun index hplace => ?_⟩
      · change transport.outboundBytes - frame.size = (frames.map OutboundFrame.size).sum
        omega
      · change transport.outboundBytes - frame.size + heartbeatFrameBytes ≤ maximum
        cases hindex : place with
        | none =>
          have hfree := h.free hindex
          omega
        | some index =>
          rw [hindex, Option.bind_some] at hplace
          split_ifs at hplace with hzero
          obtain ⟨-, first, hfirst, -, hbytes⟩ := h.taken index hindex
          rw [hzero, houtbound] at hfirst
          obtain rfl := Option.some.inj hfirst
          omega
      · obtain ⟨old, hold, hpred⟩ := Option.bind_eq_some_iff.mp hplace
        split_ifs at hpred with hzero
        cases hpred
        obtain ⟨hheartbeat, other, hother, hsize, hbytes⟩ := h.taken old hold
        obtain ⟨index, rfl⟩ := Nat.exists_eq_succ_of_ne_zero hzero
        rw [houtbound, List.getElem?_cons_succ] at hother
        refine ⟨hheartbeat, other, hother, hsize, ?_⟩
        change transport.outboundBytes - frame.size + heartbeatFrameBytes ≤ _
        omega
    · rw [if_neg (by rw [houtbound]; exact Nat.lt_irrefl _)]
      refine ⟨?_, fun other hmem => ?_, h.requestId, h.free, fun index hplace => ?_⟩
      · exact hcounted
      · rcases List.mem_cons.mp hmem with rfl | hmem
        · refine ⟨?_, fun hempty => ?_⟩
          · change (frame.bytes.drop written).length ≤ frame.size
            rw [List.length_drop]
            omega
          · change frame.bytes.drop written = [] at hempty
            rw [List.drop_eq_nil_iff] at hempty
            omega
        · exact hframes other hmem
      · obtain ⟨hheartbeat, other, hother, hsize, hbytes⟩ := h.taken index hplace
        rw [houtbound] at hother
        refine ⟨hheartbeat, ?_⟩
        cases index with
        | zero =>
          obtain rfl := Option.some.inj hother
          exact ⟨_, rfl, hsize, hbytes⟩
        | succ index => exact ⟨other, hother, hsize, hbytes⟩

/-- In an empty queue there is no heartbeat. -/
theorem ite_outbound_eq_nil (hmaximum : heartbeatFrameBytes ≤ maximum)
    (h : Reserved maximum transport place) :
    Reserved maximum transport (if transport.outbound = [] then none else place) := by
  split_ifs with hempty
  · refine of_outbound_eq_nil hmaximum h.requestId hempty ?_
    rw [h.counted, hempty]
    rfl
  · exact h

/-- The acknowledgement of a heartbeat that is fully written. -/
theorem acknowledged (h : Reserved maximum transport none) :
    Reserved maximum { transport with heartbeatRequestId := 0 } none :=
  ⟨h.counted, h.left, h.requestId, h.free, nofun⟩

end Reserved

end Transport

namespace Client

variable {config : Config} {client next : Client} {action : Action} {place : Option ℕ}

/-! ### Runs -/

/-- The place in the outbound queue of the heartbeat that is not fully written, after a step. -/
def heartbeatPlace (client next : Client) (place : Option ℕ) : Action → Option ℕ
  | .beginTransport => none
  | .queueHeartbeat =>
    if next.transport.outbound.length > client.transport.outbound.length then
      some client.transport.outbound.length
    else if next.transport.outbound = [] then none
    else place
  | .flush _ =>
    if next.transport.outbound.length < client.transport.outbound.length then
      place.bind fun index => if index = 0 then none else some (index - 1)
    else place
  | _ => if next.transport.outbound = [] then none else place

/-- A step of the client, with the place of the heartbeat. -/
def trackedStep (config : Config) (state : Client × Option ℕ) (action : Action) :
    Option (Client × Option ℕ) :=
  (state.1.step config action).map fun next => (next, heartbeatPlace state.1 next state.2 action)

/-- An acknowledgement of the outstanding heartbeat comes after its frame was fully written. -/
def AcknowledgesWritten (state : Client × Option ℕ) : Action → Prop
  | .processFrame frame => frame.type = .ack ∨ frame.type = .error →
      frame.requestId ≠ 0 → frame.requestId = state.1.transport.heartbeatRequestId →
      state.2 = none
  | _ => True

instance (state : Client × Option ℕ) (action : Action) :
    Decidable (AcknowledgesWritten state action) := by
  cases action <;> unfold AcknowledgesWritten <;> infer_instance

@[simp] theorem transport_setSession (view : SessionView) :
    (client.setSession view).transport = client.transport := rfl

@[simp] theorem transport_setProgress (index : ℕ) (progress : Progress) :
    (client.setProgress index progress).transport = client.transport := rfl

@[simp] theorem transport_withFutures (futures : CommandFutures Int64) :
    (client.withFutures futures).transport = client.transport := rfl

theorem transport_capture (index : ℕ) (api : ApiCall) (view : SessionView) :
    (client.capture index api view).transport = client.transport := by
  unfold capture
  split <;> rfl

theorem transport_readSession (index : ℕ) (api : ApiCall) :
    (client.readSession index api).transport = client.transport := by
  unfold readSession
  split
  · rfl
  · split_ifs
    · rfl
    · exact transport_capture _ _ _

/-- The steps of a call leave the transport alone. -/
theorem transport_advance {index : ℕ} {call : Call} (h : client.advance index call = some next) :
    next.transport = client.transport := by
  unfold advance at h
  split at h <;> cases h
  · exact transport_readSession _ _
  · unfold compareAndSet
    split_ifs
    · exact transport_capture _ _ _
    · rfl
  · unfold acquire
    split <;> rfl
  · unfold checkRunning
    split <;> split_ifs <;> rfl
  · unfold offerCommand
    dsimp only
    split <;> rfl

theorem transport_updateOutputState (epoch : Int64) (enabled : Bool) :
    (client.updateOutputState epoch enabled).transport = client.transport := by
  unfold updateOutputState
  split_ifs <;> rfl

theorem transport_acknowledge (request : PendingRequest Int64) (payload : Bytes) :
    (client.acknowledge request payload).2.transport = client.transport := by
  unfold acknowledge
  split
  · rfl
  · dsimp only
    split_ifs <;> simp only [transport_withFutures, transport_updateOutputState]

open Transport

variable {maximum : ℕ}

theorem reserved_beginTransport (hmaximum : 8192 ≤ config.maximumOutboundBytes) :
    Reserved config.maximumOutboundBytes (client.beginTransport config).transport none := by
  have hreserve : heartbeatFrameBytes = 24 := rfl
  have hempty : Reserved config.maximumOutboundBytes {} none :=
    Reserved.of_outbound_eq_nil (by omega) (by decide) rfl rfl
  refine hempty.enqueue_command (decide_eq_true ?_)
  have hlength := length_encodeFrame_le .hello 0 ((encodeHello config.requestedRole
    config.subscribeInputs config.inputPeriodMillis client.lastSeenEpoch).getD [])
  have hpayload : ((encodeHello config.requestedRole config.subscribeInputs
      config.inputPeriodMillis client.lastSeenEpoch).getD []).length ≤ 12 := by
    unfold encodeHello
    by_cases hperiod : 10 ≤ config.inputPeriodMillis ∧ config.inputPeriodMillis ≤ 1000
    · rw [guard, if_pos hperiod]
      exact Nat.le_refl 12
    · rw [guard, if_neg hperiod]
      exact Nat.zero_le 12
  have hlimits : kLengthPrefixSize + kEnvelopeSize = 16 := rfl
  change 0 + heartbeatFrameBytes + _ ≤ _
  omega

theorem reserved_processCommand (command : Command Int64)
    (h : Reserved config.maximumOutboundBytes client.transport place) :
    Reserved config.maximumOutboundBytes (client.processCommand config command).transport place := by
  unfold processCommand
  split_ifs
  · exact h
  · exact h
  · dsimp only
    split_ifs with hroom
    · exact h.nextRequestId
    · refine h.nextRequestId.enqueue_command ?_
      simpa using hroom

/-- While the reserve is kept, a heartbeat that is due finds room. -/
theorem queueHeartbeat_reserved
    (h : Reserved config.maximumOutboundBytes client.transport place) :
    ∃ next, client.queueHeartbeat config = some next ∧
      (next.transport = client.transport ∨
        next.transport.outbound.length = client.transport.outbound.length + 1 ∧
          Reserved config.maximumOutboundBytes next.transport
            (some client.transport.outbound.length)) := by
  unfold queueHeartbeat
  split_ifs with hskip
  · exact ⟨client, rfl, Or.inl rfl⟩
  · simp only [Bool.or_eq_true, not_or, decide_eq_true_eq, not_not] at hskip
    have hplace : place = none := by
      cases place with
      | none => rfl
      | some index => exact absurd hskip.2 (h.taken index rfl).1
    subst hplace
    have hfree := h.free rfl
    have hlength := length_encodeFrame_le .heartbeat client.transport.nextRequestId.1
      ((encodeEpoch client.session.epoch).getD [])
    have hepoch : ((encodeEpoch client.session.epoch).getD []).length ≤ 8 := by
      unfold encodeEpoch
      by_cases hzero : client.session.epoch ≠ 0
      · rw [guard, if_pos hzero]
        exact Nat.le_refl 8
      · rw [guard, if_neg hzero]
        exact Nat.zero_le 8
    have hreserve : heartbeatFrameBytes = kLengthPrefixSize + kEnvelopeSize + 8 := rfl
    dsimp only
    rw [if_neg]
    · exact ⟨_, rfl, Or.inr ⟨List.length_append, h.nextRequestId.enqueue_heartbeat h.requestId
        (by omega)⟩⟩
    · rw [Bool.not_eq_true', Bool.not_eq_false]
      refine decide_eq_true ?_
      change client.transport.outboundBytes + _ ≤ _
      omega

theorem transport_processHello {frame : Frame} (h : client.processHello config frame = some next) :
    next.transport = { client.transport with handshakeComplete := true } := by
  unfold processHello at h
  simp only [Option.bind_eq_bind, Option.bind_eq_some_iff] at h
  obtain ⟨-, -, hello, -, -, -, -, -, h⟩ := h
  cases h
  rfl

theorem reserved_processAck {frame : Frame}
    (h : Reserved maximum client.transport place)
    (hwritten : frame.requestId ≠ 0 → frame.requestId = client.transport.heartbeatRequestId →
      place = none) :
    Reserved maximum (client.processAck frame).2.transport place := by
  unfold processAck
  split_ifs with hzero
  · exact h
  · split
    · exact h
    · rename_i request futures hremoved
      dsimp only
      rw [transport_acknowledge]
      split_ifs with hheartbeat
      · have hplace := hwritten hzero hheartbeat.symm
        subst hplace
        exact h.acknowledged
      · exact h

theorem reserved_processFrame {frame : Frame}
    (h : Reserved config.maximumOutboundBytes client.transport place)
    (hwritten : AcknowledgesWritten (client, place) (.processFrame frame)) :
    Reserved config.maximumOutboundBytes (client.processFrame config frame).2.transport place := by
  unfold processFrame
  split
  · split
    · exact h
    · rename_i hello hhello
      dsimp only
      rw [transport_processHello hhello]
      exact ⟨h.counted, h.left, h.requestId, h.free, h.taken⟩
  · split
    · exact h
    · rename_i htype
      exact reserved_processAck h (hwritten (Or.inl htype))
    · rename_i htype
      exact reserved_processAck h (hwritten (Or.inr htype))
    · split_ifs
      · exact h
      · split
        · exact h
        · dsimp only
          rw [transport_updateOutputState]
          exact h
    · exact h

theorem reserved_endSession (hmaximum : heartbeatFrameBytes ≤ maximum)
    (h : Reserved maximum client.transport place) :
    Reserved maximum client.endSession.transport none :=
  .of_outbound_eq_nil hmaximum h.requestId rfl rfl

/-- **Every step keeps the reserve**, as long as heartbeats are acknowledged when they are
written. -/
theorem reserved_step (hmaximum : 8192 ≤ config.maximumOutboundBytes)
    (h : Reserved config.maximumOutboundBytes client.transport place)
    (hwritten : AcknowledgesWritten (client, place) action)
    (hstep : client.step config action = some next) :
    Reserved config.maximumOutboundBytes next.transport
      (heartbeatPlace client next place action) := by
  have hreserve : heartbeatFrameBytes ≤ config.maximumOutboundBytes :=
    Nat.le_trans (by decide) hmaximum
  have hsame : ∀ {other : Client}, other.transport = client.transport →
      Reserved config.maximumOutboundBytes other.transport
        (if other.transport.outbound = [] then none else place) :=
    fun hother => hother ▸ h.ite_outbound_eq_nil hreserve
  cases action with
  | call api =>
    cases hstep
    exact hsame (transport_readSession _ _)
  | advance index =>
    obtain ⟨call, -, hadvance⟩ := Option.bind_eq_some_iff.mp hstep
    exact hsame (transport_advance hadvance)
  | cancel future =>
    cases hstep
    exact hsame rfl
  | complete index =>
    obtain ⟨futures, -, rfl⟩ := Option.map_eq_some_iff.mp hstep
    exact hsame rfl
  | start =>
    simp only [step] at hstep
    split_ifs at hstep
    cases hstep
    exact hsame rfl
  | close =>
    simp only [step] at hstep
    split_ifs at hstep
    cases hstep
    exact hsame rfl
  | failClosed =>
    simp only [step] at hstep
    split_ifs at hstep
    obtain ⟨futures, -, rfl⟩ := Option.map_eq_some_iff.mp hstep
    exact hsame rfl
  | shutdown =>
    simp only [step] at hstep
    split_ifs at hstep
    cases hstep
    exact hsame rfl
  | beginGeneration =>
    simp only [step] at hstep
    split_ifs at hstep
    cases hstep
    exact hsame rfl
  | beginTransport =>
    simp only [step] at hstep
    split_ifs at hstep
    cases hstep
    exact reserved_beginTransport hmaximum
  | processCommand =>
    simp only [step] at hstep
    split_ifs at hstep
    obtain ⟨⟨command, futures⟩, -, rfl⟩ := Option.map_eq_some_iff.mp hstep
    have hfutures : Reserved config.maximumOutboundBytes
      (client.withFutures futures).transport place := h
    exact (reserved_processCommand command hfutures).ite_outbound_eq_nil hreserve
  | queueHeartbeat =>
    simp only [step] at hstep
    split_ifs at hstep
    obtain ⟨queued, hqueued, hcases⟩ := queueHeartbeat_reserved h
    rw [hqueued] at hstep
    cases hstep
    unfold heartbeatPlace
    dsimp only [Option.getD_some]
    rcases hcases with hunchanged | ⟨hlength, hreserved⟩
    · rw [if_neg (by rw [hunchanged]; exact Nat.lt_irrefl _)]
      exact hsame hunchanged
    · rw [if_pos (by rw [hlength]; exact Nat.lt_succ_self _)]
      exact hreserved
  | flush written =>
    simp only [step] at hstep
    split_ifs at hstep
    obtain ⟨transport, hflush, rfl⟩ := Option.map_eq_some_iff.mp hstep
    exact h.flush hflush
  | processFrame frame =>
    simp only [step] at hstep
    split_ifs at hstep
    have hframe := reserved_processFrame h hwritten
    split at hstep
    · rename_i processed hprocessed
      rw [hprocessed] at hframe
      cases hstep
      exact hframe.ite_outbound_eq_nil hreserve
    · rename_i processed hprocessed
      rw [hprocessed] at hframe
      cases hstep
      exact reserved_endSession hreserve hframe
  | expireRequests requestIds =>
    simp only [step] at hstep
    split_ifs at hstep
    cases hstep
    exact reserved_endSession hreserve h
  | endSession =>
    simp only [step] at hstep
    split_ifs at hstep
    cases hstep
    exact reserved_endSession hreserve h
  | invalidateSession =>
    simp only [step] at hstep
    split_ifs at hstep
    cases hstep
    refine hsame ?_
    unfold invalidateSession
    dsimp only
    split_ifs <;> rfl
  | failQueued =>
    simp only [step] at hstep
    split_ifs at hstep
    cases hstep
    refine hsame ?_
    cases client.failCommand "transport generation ended" <;> rfl
  | stop =>
    simp only [step] at hstep
    split_ifs at hstep
    cases hstep
    exact hsame rfl

theorem sum_size_filter {frames : List OutboundFrame}
    (h : ∀ frame ∈ frames, frame.bytes = [] → frame.size = 0) :
    ((frames.filter fun frame => frame.bytes ≠ []).map OutboundFrame.size).sum =
      (frames.map OutboundFrame.size).sum := by
  induction frames with
  | nil => rfl
  | cons frame frames ih =>
    have hframes := ih fun other hmem => h other (List.mem_cons_of_mem _ hmem)
    rw [List.map_cons, List.sum_cons, ← hframes]
    by_cases hempty : frame.bytes = []
    · rw [List.filter_cons_of_neg (by simpa using hempty), h frame List.mem_cons_self hempty,
        Nat.zero_add]
    · rw [List.filter_cons_of_pos (by simpa using hempty), List.map_cons, List.sum_cons]

/-- **The heartbeat always finds room.**  In every run in which heartbeats are acknowledged
only after their frames were fully written, the byte count is the total size of the frames
with bytes left to write, it is within the limit, and `queueHeartbeatIfDue` does not throw. -/
theorem heartbeat_finds_room (config : Config) (hmaximum : 8192 ≤ config.maximumOutboundBytes)
    (actions : List Action) (state : Client × Option ℕ)
    (hrun : Execution.run (trackedStep config) (create config, none) actions = some state)
    (hwritten : Execution.AllSteps (trackedStep config) AcknowledgesWritten (create config, none)
      actions) :
    state.1.transport.outboundBytes = ((state.1.transport.outbound.filter
        fun frame => frame.bytes ≠ []).map OutboundFrame.size).sum ∧
      state.1.transport.outboundBytes ≤ config.maximumOutboundBytes ∧
      (state.1.queueHeartbeat config).isSome := by
  have hreserved : Reserved config.maximumOutboundBytes state.1.transport state.2 := by
    refine Execution.run_induction_of_allSteps (trackedStep config)
      (P := fun state => Reserved config.maximumOutboundBytes state.1.transport state.2)
      (fun state action next h hguard hstep => ?_) ?_ hwritten hrun
    · obtain ⟨client, hclient, rfl⟩ := Option.map_eq_some_iff.mp hstep
      exact reserved_step hmaximum h hguard hclient
    · exact Reserved.of_outbound_eq_nil (Nat.le_trans (by decide) hmaximum) (show (1 : UInt32) ≠ 0 by decide)
        rfl rfl
  refine ⟨?_, hreserved.outboundBytes_le, ?_⟩
  · rw [hreserved.counted, sum_size_filter fun frame hmem => (hreserved.left frame hmem).2]
  · obtain ⟨next, hnext, -⟩ := queueHeartbeat_reserved hreserved
    rw [hnext]
    rfl

/-- A session in which a heartbeat is written in two parts and acknowledged, and another one is
queued. -/
def twoHeartbeats : List Action :=
  [.start, .beginGeneration, .beginTransport, .flush 28,
    .processFrame ⟨.helloAck, 0, encodeHelloAckPayload
      { grantedRole := .controller, heartbeatTimeoutMs := 100, epoch := 1 }⟩,
    .queueHeartbeat, .flush 10, .flush 14, .processFrame ⟨.ack, 1, encodeAckPayload .ok 0⟩,
    .queueHeartbeat]

theorem twoHeartbeats_acknowledged :
    ((Execution.run (trackedStep {}) (create {}, none) twoHeartbeats).map Prod.snd = some (some 0)) ∧
      Execution.AllSteps (trackedStep {}) AcknowledgesWritten (create {}, none) twoHeartbeats := by
  decide +kernel

theorem heartbeat_finds_room_twice :
    ∃ state, Execution.run (trackedStep {}) (create {}, none) twoHeartbeats = some state ∧
      state.2 = some 0 ∧ (state.1.queueHeartbeat {}).isSome := by
  obtain ⟨hrun, hwritten⟩ := twoHeartbeats_acknowledged
  obtain ⟨state, hstate, hplace⟩ := Option.map_eq_some_iff.mp hrun
  exact ⟨state, hstate, hplace,
    (heartbeat_finds_room {} (by decide) twoHeartbeats state hstate hwritten).2.2⟩

end Client

end EcSystemCore.Java
