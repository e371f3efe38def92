import EcSystemCore.Daemon.Reads
import EcSystemCore.Protocol.FrameStream

/-!
# The frames of a connection are handled in order

What the daemon has handed to `HandleFrame` for a connection, against the frames encoded in
the bytes the connection has sent.  As long as no frame of the connection was refused by
the rate limiter, the frames decoded so far are those handled and, inside a batch, those
still left (`Session.Whole`).  A refused frame ends its batch, and the frames behind it are
gone; the connection is only closed once its error reply has been flushed.  Unless a later
pass finds a token again in the meantime, what was handled is a prefix of the stream
(`handled_prefix_of_stream`); when it does, a frame has been skipped
(`refillSteps_skip_frame`).
-/

namespace EcSystemCore

open Execution

/-- Unless a frame was refused, the frames of the bytes received are those handled and those
left. -/
def Session.Whole (session : Session) (left : List Frame) : Prop :=
  session.refused = false →
    frameParser.drain session.received = (session.handled ++ left, .ok session.decoder.buffer)

/-- Unless one was handled after a refusal, the handled frames are the first of the
stream. -/
def Session.InOrder (session : Session) : Prop :=
  session.handledAfterRefusal = false → session.handled <+: framesOf session.received

/-- What holds of a connection between two steps; nothing is read from a closed one. -/
structure ClientConnection.InOrder (client : ClientConnection) : Prop where
  whole : client.isOpen = true → client.session.Whole []
  order : client.session.InOrder

/-- What holds of the connection whose batch is being handled. -/
structure ClientConnection.Reading (left : List Frame) (client : ClientConnection) : Prop where
  whole : client.session.Whole left
  order : client.session.InOrder

theorem Kept.inOrder {holder : Option ClientId} {client next : ClientConnection}
    (h : Kept holder client next) (hclient : client.InOrder) : next.InOrder where
  whole := by
    intro hopen
    rw [h.session]
    exact hclient.whole (h.isOpen hopen)
  order := by
    rw [h.session]
    exact hclient.order

theorem Kept.reading {holder : Option ClientId} {client next : ClientConnection}
    {left : List Frame} (h : Kept holder client next) (hclient : client.Reading left) :
    next.Reading left := by
  refine ⟨?_, ?_⟩ <;> rw [h.session]
  · exact hclient.whole
  · exact hclient.order

namespace Daemon

variable {d d' : Daemon} {index : ℕ} {left : List Frame}

/-- Every connection is in order. -/
def Streams (d : Daemon) : Prop := ∀ client ∈ d.clients, client.InOrder

/-- The connection at `index` is being read, and the others are in order. -/
def Batch (index : ℕ) (left : List Frame) (d : Daemon) : Prop :=
  ∀ place client, d.clients[place]? = some client →
    if place = index then client.Reading left else client.InOrder

theorem Streams.evolves (h : d.Streams) (hevolves : Evolves d d') : d'.Streams := by
  intro next hnext
  obtain ⟨client, hclient, hkept⟩ := exists_left_of_forall₂ hevolves.clients hnext
  exact hkept.inOrder (h client hclient)

theorem Batch.evolves (h : Batch index left d) (hevolves : Evolves d d') :
    Batch index left d' := by
  intro place next hnext
  obtain ⟨client, hclient, hkept⟩ := getElem?_of_forall₂ hevolves.clients hnext
  have hbefore := h place client hclient
  split
  · rename_i hplace
    rw [if_pos hplace] at hbefore
    exact hkept.reading hbefore
  · rename_i hplace
    rw [if_neg hplace] at hbefore
    exact hkept.inOrder hbefore

/-- A change of the connection that is being read. -/
theorem Batch.modify (h : Batch index left d) {after : List Frame}
    {f : ClientConnection → ClientConnection} (hclients : d'.clients = d.clients.modify index f)
    (changed : ∀ client, d.clients[index]? = some client → client.Reading left →
      (f client).Reading after) : Batch index after d' := by
  intro place next hnext
  rw [hclients, List.getElem?_modify] at hnext
  obtain ⟨client, hclient, rfl⟩ := Option.map_eq_some_iff.mp hnext
  have hbefore := h place client hclient
  by_cases hplace : place = index
  · cases hplace
    rw [if_pos rfl] at hbefore ⊢
    rw [if_pos rfl]
    exact changed client hclient hbefore
  · rw [if_neg hplace] at hbefore ⊢
    rw [if_neg (Ne.symm hplace)]
    exact hbefore

/-- A batch that has been handled to its end, or whose connection was refused or closed. -/
theorem Batch.streams (h : Batch index left d)
    (ended : ∀ client, d.clients[index]? = some client → client.isOpen = true →
      client.refused = false → left = []) : d.Streams := by
  intro client hclient
  obtain ⟨place, hplace⟩ := List.mem_iff_getElem?.mp hclient
  have hbatch := h place client hplace
  by_cases hindex : place = index
  · rw [if_pos hindex] at hbatch
    cases hindex
    refine ⟨fun hopen hrefused => ?_, hbatch.order⟩
    rw [← ended client hplace hopen hrefused]
    exact hbatch.whole hrefused
  · rw [if_neg hindex] at hbatch
    exact hbatch

/-! ### One frame -/

/-- A refused frame. -/
theorem Batch.refused (env : LoopEnv) (h : Batch index left d)
    (hrefused : (d.consumeRateToken env index).1 = false) :
    (d.consumeRateToken env index).2.Streams := by
  cases hclient : d.clients[index]? with
  | none =>
    have hsame : d.consumeRateToken env index = (false, d) := by
      unfold consumeRateToken
      rw [hclient]
    rw [hsame]
    exact h.streams fun client hfound => by cases hclient.symm.trans hfound
  | some client =>
    obtain ⟨f, htrue, -⟩ | ⟨f, -, hmoves, hf⟩ := consumeRateToken_cases env hclient
    · rw [htrue] at hrefused
      cases hrefused
    · have hmarked : Batch index [] (d.ticked.updateClient index f) := by
        refine h.modify rfl fun found _ hreading => ⟨fun hfalse => ?_, ?_⟩
        · rw [(hf found).1] at hfalse
          cases hfalse
        · rw [(hf found).1]
          exact hreading.order
      exact (hmarked.streams fun _ _ _ _ => rfl).evolves hmoves.toEvolves

/-- A frame whose token is paid is the next one of the stream. -/
theorem Batch.charged (env : LoopEnv) {frame : Frame} (h : Batch index (frame :: left) d)
    (haccepted : (d.consumeRateToken env index).1 = true) :
    Batch index left (d.charged env index frame) := by
  obtain ⟨client, hclient⟩ := getElem?_of_accepted haccepted
  obtain ⟨f, hconsume, hf⟩ | ⟨f, hfalse, -⟩ := consumeRateToken_cases env hclient
  · have hspent : Batch index (frame :: left) (d.ticked.updateClient index f) :=
      h.modify rfl fun found _ hreading => by
        refine ⟨?_, ?_⟩ <;> rw [(hf found).1]
        · exact hreading.whole
        · exact hreading.order
    rw [Daemon.charged, hconsume]
    refine hspent.modify rfl fun found _ hreading => ?_
    have hwhole : found.refused = false → frameParser.drain found.received =
        (found.handled ++ [frame] ++ left, .ok found.decoder.buffer) := by
      intro hrefused
      rw [List.append_assoc]
      exact hreading.whole hrefused
    refine ⟨hwhole, fun hnone => ?_⟩
    have hrefused : found.refused = false := (Bool.or_eq_false_iff.mp hnone).2
    have hframes : framesOf found.received = found.handled ++ [frame] ++ left :=
      congrArg Prod.fst (hwhole hrefused)
    rw [show (recordHandled frame found).session.received = found.received from rfl, hframes]
    exact List.prefix_append _ _
  · rw [hfalse] at haccepted
    cases haccepted

/-- Handling a frame leaves the stream alone. -/
theorem Batch.handleFrame (env : LoopEnv) (frame : Frame) (h : Batch index left d) :
    Batch index left (d.handleFrame env index frame).2 := by
  cases hclient : d.clients[index]? with
  | none =>
    have hsame : d.handleFrame env index frame = (false, d) := by
      unfold Daemon.handleFrame
      rw [hclient]
    rw [hsame]
    exact h
  | some client =>
    cases handleFrame_outcome env hclient frame with
    | answered answers => exact h.evolves answers.moves.toEvolves
    | greeted first type decoded decides answers =>
      obtain ⟨f, hf, hgreet⟩ := decides.clients
      refine Batch.evolves (h.modify hf fun found _ hreading => ?_) answers.moves.toEvolves
      refine ⟨?_, ?_⟩ <;> rw [(hgreet found).1]
      · exact hreading.whole
      · exact hreading.order

/-- A frame that ends its batch has closed the connection. -/
theorem handleFrame_closed (env : LoopEnv) (frame : Frame)
    (h : (d.handleFrame env index frame).1 = false) :
    ¬(d.handleFrame env index frame).2.OpenAt index := by
  cases hclient : d.clients[index]? with
  | none =>
    have hsame : d.handleFrame env index frame = (false, d) := by
      unfold Daemon.handleFrame
      rw [hclient]
    rw [hsame]
    rintro ⟨client, hfound, -⟩
    cases hclient.symm.trans hfound
  | some client =>
    cases handleFrame_outcome env hclient frame with
    | answered answers => exact answers.closed h
    | greeted _ _ _ _ answers => exact answers.closed h

/-! ### Batches, passes and steps -/

theorem handleFrames_streams (env : LoopEnv) {frames : List Frame} (h : Batch index frames d) :
    (handleFrames env index frames d).2.Streams := by
  refine handleFrames_rule env (I := Batch index) (Q := fun _ m => m.Streams) ?_ ?_ ?_ ?_ h
  · exact fun m hm => hm.streams fun _ _ _ _ => rfl
  · exact fun m frame rest hm hrefused => hm.refused env hrefused
  · intro m frame rest hm haccepted hstops
    refine ((hm.charged env haccepted).handleFrame env frame).streams fun client hfound hopen => ?_
    exact absurd ⟨client, hfound, hopen⟩ (handleFrame_closed env frame hstops)
  · exact fun m frame rest hm haccepted _ => (hm.charged env haccepted).handleFrame env frame

/-- The bytes of one `recv` continue the stream of an open connection. -/
theorem Streams.readBatch (env : LoopEnv) (bytes : Bytes) (h : d.Streams)
    (hopen : d.OpenAt index) : (readBatch env index bytes d).2.Streams := by
  obtain ⟨client, hclient, hisOpen⟩ := hopen
  have hinOrder := h client (List.mem_of_getElem? hclient)
  have hother : ∀ {left : List Frame} {f : ClientConnection → ClientConnection},
      (f client).Reading left → Batch index left (d.updateClient index f) := by
    intro left f hreading place next hnext
    rw [updateClient, List.getElem?_modify] at hnext
    obtain ⟨found, hfound, rfl⟩ := Option.map_eq_some_iff.mp hnext
    by_cases hplace : place = index
    · cases hplace
      cases hclient.symm.trans hfound
      rw [if_pos rfl, if_pos rfl]
      exact hreading
    · rw [if_neg hplace, if_neg (Ne.symm hplace)]
      exact h found (List.mem_of_getElem? hfound)
  have horder : client.handledAfterRefusal = false →
      client.handled <+: framesOf (client.received ++ bytes) := fun hnone =>
    (hinOrder.order hnone).trans (frameParser.drain_extends _ _)
  unfold Daemon.readBatch
  rw [hclient]
  dsimp only
  cases hfeed : client.decoder.feed bytes with
  | mk decoded result =>
    obtain ⟨frames, decoder⟩ := result
    cases decoded with
    | false =>
      -- the connection is closed, so only the order of what was handled matters
      intro found hfound
      have hclosed := closeClient_not_openAt env (d.updateClient index fun client =>
        { client with decoder := decoder, received := client.received ++ bytes }) index
      obtain ⟨place, hplace⟩ := List.mem_iff_getElem?.mp hfound
      obtain ⟨before, hbefore, hkept⟩ := getElem?_of_forall₂
        (closeClient_moves env (d.updateClient index fun client =>
          { client with decoder := decoder, received := client.received ++ bytes })
            index).clients hplace
      rw [updateClient, List.getElem?_modify] at hbefore
      obtain ⟨old, hold, rfl⟩ := Option.map_eq_some_iff.mp hbefore
      by_cases hindex : place = index
      · cases hindex
        cases hclient.symm.trans hold
        rw [if_pos rfl] at hkept
        refine ⟨fun hopen => absurd ⟨found, hplace, hopen⟩ hclosed, ?_⟩
        rw [hkept.session]
        exact horder
      · rw [if_neg (Ne.symm hindex)] at hkept
        exact hkept.inOrder (h old (List.mem_of_getElem? hold))
    | true =>
      refine handleFrames_streams env (hother ⟨fun hrefused => ?_, horder⟩)
      have hdrain := hinOrder.whole hisOpen hrefused
      rw [List.append_nil] at hdrain
      exact FrameDecoder.feed_drain hdrain hfeed

theorem Streams.readClient (env : LoopEnv) (totalRead : ℕ) (results : List RecvResult)
    (h : d.Streams) : (readClient env index totalRead results d).Streams := by
  induction results generalizing d totalRead with
  | nil => exact h
  | cons result rest ih =>
    have hclose : (closeClient env d index).Streams :=
      h.evolves (closeClient_moves env d index).toEvolves
    unfold Daemon.readClient
    split
    · exact hclose
    · rename_i hopen
      have hopen : d.OpenAt index := by simpa [OpenAt, Option.any_eq_true] using hopen
      cases result with
      | interrupted => exact ih totalRead h
      | failed => exact hclose
      | data bytes =>
        cases bytes with
        | nil => exact hclose
        | cons byte bytes =>
          have hbatch := h.readBatch env (byte :: bytes) hopen
          dsimp only
          split
          · exact hbatch
          · exact ih _ hbatch

theorem Streams.step {label : LoopEnv × LoopStep} (h : d.Streams)
    (hstep : d.step label = some d') : d'.Streams := by
  cases step_outcome hstep with
  | moves hmoves => exact h.evolves hmoves.toEvolves
  | scans env initial identities =>
    have hadvanced := advanceForScan_moves env initial (d.slots.map (plan identities)) d
    have hstreams : (d.advanceForScan env initial (d.slots.map (plan identities))).Streams :=
      h.evolves hadvanced.toEvolves
    exact hstreams
  | reads env index results => exact h.readClient env 0 results
  | @accepts client _ fresh =>
    intro found hfound
    obtain hold | hnew := List.mem_append.mp hfound
    · exact h found hold
    · cases List.mem_singleton.mp hnew
      obtain ⟨-, hdecoder, hreceived, hhandled, -, -⟩ := fresh
      have hempty : frameParser.drain [] = ([], .ok []) := rfl
      constructor
      · intro _ _
        simp [ClientConnection.session, hdecoder, hreceived, hhandled, hempty]
      · intro _
        simp [ClientConnection.session, hhandled]
  | removes => exact fun found hfound => h found (List.mem_of_mem_filter hfound)
  | stops _ _ _ _ _ _ clients =>
    intro found hfound
    rw [clients] at hfound
    cases hfound

section Refill

/-- What decides how a connection's next requests are served. -/
structure RequestView where
  isOpen : Bool := true
  helloReceived : Bool := true
  refused : Bool := false
  decoder : FrameDecoder := {}
  rateTokens : Int
  rateCapacity : Int := 500 * 1000000000
  rateRefillPerSecond : Int := 1000
  rateUpdated : TimePoint := 0
  outgoingBytes : ℕ
  handled : List Frame
  received : Bytes
  deriving DecidableEq

/-- The view of a connection. -/
def requestView (client : ClientConnection) : RequestView where
  isOpen := client.isOpen
  helloReceived := client.helloReceived
  refused := client.refused
  decoder := client.decoder
  rateTokens := client.rateTokens
  rateCapacity := client.rateCapacity
  rateRefillPerSecond := client.rateRefillPerSecond
  rateUpdated := client.rateUpdated
  outgoingBytes := client.outgoingBytes
  handled := client.handled
  received := client.received

/-- The daemon runs with one connection, and this is its view. -/
def Sole (d : Daemon) (view : RequestView) : Prop :=
  d.shutdown = false ∧ d.clients.map requestView = [view]

/-- A request without a payload. -/
def clearRequest (requestId : UInt32) : Frame := ⟨.clearCounters, requestId, []⟩

variable {view : RequestView}

theorem Sole.found (h : d.Sole view) :
    ∃ client, d.clients[0]? = some client ∧ requestView client = view := by
  obtain ⟨client, hclients, hview⟩ := List.map_eq_singleton_iff.mp h.2
  exact ⟨client, by rw [hclients]; rfl, hview⟩

theorem Sole.updateClient (h : d.Sole view) {f : ClientConnection → ClientConnection}
    {after : RequestView} (changed : ∀ client, requestView client = view →
      requestView (f client) = after) : (d.updateClient 0 f).Sole after := by
  obtain ⟨client, hclients, hview⟩ := List.map_eq_singleton_iff.mp h.2
  refine ⟨h.1, ?_⟩
  rw [Daemon.updateClient, hclients]
  exact congrArg (fun x => [x]) (changed client hview)

/-- An acknowledgement is 24 bytes long. -/
theorem length_ackFrame (type : MessageType) (requestId : UInt32) (status : AckStatus) :
    (encodeFrame type requestId (encodeAckPayload status 0)).length = 24 := rfl

theorem Sole.queueAck {env : LoopEnv} (h : d.Sole view) (type : MessageType)
    (requestId : UInt32) (status : AckStatus)
    (allocated : ∀ tick, env.allocationFails tick = false) (isOpen : view.isOpen = true)
    (room : view.outgoingBytes + 24 ≤ kMaximumClientOutputBytes) :
    (d.queueAck env 0 type requestId status 0 true).1 = true ∧
      (d.queueAck env 0 type requestId status 0 true).2.Sole
        { view with outgoingBytes := view.outgoingBytes + 24 } := by
  have hticked : d.ticked.Sole view := h
  obtain ⟨client, hfound, hview⟩ := hticked.found
  have hopen : client.isOpen = true := by
    rw [← hview] at isOpen
    exact isOpen
  have hbytes : client.outgoingBytes = view.outgoingBytes := by
    rw [← hview]
    rfl
  have hroom : client.overfull
      (encodeFrame type requestId (encodeAckPayload status 0)).length = false := by
    rw [length_ackFrame, ClientConnection.overfull, hbytes, decide_eq_false_iff_not]
    omega
  have hempty : (encodeFrame type requestId (encodeAckPayload status 0)).isEmpty = false := by
    rw [← List.length_pos_iff_ne_nil.trans List.isEmpty_eq_false_iff.symm, length_ackFrame]
    omega
  unfold Daemon.queueAck queueFrame queueSharedFrame
  rw [allocated, if_neg (by simp), hfound]
  dsimp only
  rw [hopen, hempty, hroom, if_neg (by simp)]
  refine ⟨rfl, hticked.updateClient fun found hfound => ?_⟩
  rw [← hfound, ← length_ackFrame type requestId status]
  rfl

/-- A clear request is acknowledged. -/
theorem Sole.handleFrame {env : LoopEnv} {requestId : UInt32} (h : d.Sole view) (named : requestId ≠ 0)
    (allocated : ∀ tick, env.allocationFails tick = false) (isOpen : view.isOpen = true)
    (greeted : view.helloReceived = true)
    (room : view.outgoingBytes + 24 ≤ kMaximumClientOutputBytes) :
    (d.handleFrame env 0 (clearRequest requestId)).1 = true ∧
      (d.handleFrame env 0 (clearRequest requestId)).2.Sole
        { view with outgoingBytes := view.outgoingBytes + 24 } := by
  obtain ⟨client, hfound, hview⟩ := h.found
  have hgreeted : client.helloReceived = true := by
    rw [← hview] at greeted
    exact greeted
  have hanswer : d.handleFrame env 0 (clearRequest requestId) =
      d.queueAck env 0 .ack requestId .ok 0 true := by
    unfold Daemon.handleFrame
    rw [hfound]
    simp [clearRequest, hgreeted, named, handleClearCounters, MessageType.code]
  rw [hanswer]
  exact h.queueAck .ack requestId .ok allocated isOpen room

/-- The tokens of the bucket at a time. -/
def tokensAt (view : RequestView) (now : TimePoint) : Int :=
  min view.rateCapacity
    (view.rateTokens + (now - view.rateUpdated) * view.rateRefillPerSecond)

/-- A request that finds a token is handled. -/
theorem Sole.served (h : d.Sole view) (env : LoopEnv) (now : TimePoint) (requestId : UInt32)
    (named : requestId ≠ 0)
    (clock : ∀ tick, env.now tick = now)
    (allocated : ∀ tick, env.allocationFails tick = false) (isOpen : view.isOpen = true)
    (greeted : view.helloReceived = true)
    (room : view.outgoingBytes + 24 ≤ kMaximumClientOutputBytes)
    (paid : 1000000000 ≤ tokensAt view now) :
    (d.consumeRateToken env 0).1 = true ∧
      ((d.charged env 0 (clearRequest requestId)).handleFrame env 0 (clearRequest requestId)).1 =
        true ∧
      ((d.charged env 0 (clearRequest requestId)).handleFrame env 0
        (clearRequest requestId)).2.Sole
        { view with
          rateTokens := tokensAt view now - 1000000000, rateUpdated := now
          outgoingBytes := view.outgoingBytes + 24
          handled := view.handled ++ [clearRequest requestId] } := by
  obtain ⟨client, hfound, hview⟩ := h.found
  have htokens : min client.rateCapacity (client.rateTokens +
      (now - client.rateUpdated) * client.rateRefillPerSecond) = tokensAt view now := by
    rw [← hview]
    rfl
  have hconsume : d.consumeRateToken env 0 = (true, d.ticked.updateClient 0 fun client =>
      { client with rateUpdated := now, rateTokens := tokensAt view now - 1000000000 }) := by
    unfold consumeRateToken
    rw [hfound]
    dsimp only
    rw [clock, htokens, if_neg (by omega)]
  have hcharged : (d.charged env 0 (clearRequest requestId)).Sole
      { view with
        rateTokens := tokensAt view now - 1000000000, rateUpdated := now
        handled := view.handled ++ [clearRequest requestId] } := by
    rw [Daemon.charged, hconsume]
    have hspent : (d.ticked.updateClient 0 fun client => { client with
        rateUpdated := now, rateTokens := tokensAt view now - 1000000000 }).Sole
        { view with rateTokens := tokensAt view now - 1000000000, rateUpdated := now } :=
      Sole.updateClient (d := d.ticked) h fun found hfound => by rw [← hfound]; rfl
    exact hspent.updateClient fun found hfound => by
      simp only [requestView, RequestView.mk.injEq] at hfound
      simp [requestView, recordHandled, hfound]
  exact ⟨by rw [hconsume], hcharged.handleFrame named allocated isOpen greeted room⟩

/-- A request that finds no token is refused, and the connection stays open. -/
theorem Sole.refused {env : LoopEnv} (h : d.Sole view) {now : TimePoint} (clock : ∀ tick, env.now tick = now)
    (allocated : ∀ tick, env.allocationFails tick = false) (isOpen : view.isOpen = true)
    (room : view.outgoingBytes + 24 ≤ kMaximumClientOutputBytes)
    (empty : tokensAt view now < 1000000000) :
    (d.consumeRateToken env 0).1 = false ∧ (d.consumeRateToken env 0).2.Sole
      { view with
        rateTokens := tokensAt view now, rateUpdated := now, refused := true
        outgoingBytes := view.outgoingBytes + 24 } := by
  obtain ⟨client, hfound, hview⟩ := h.found
  have htokens : min client.rateCapacity (client.rateTokens +
      (now - client.rateUpdated) * client.rateRefillPerSecond) = tokensAt view now := by
    rw [← hview]
    rfl
  unfold consumeRateToken
  rw [hfound]
  dsimp only
  rw [clock, htokens, if_pos empty]
  have hmarked : (d.ticked.updateClient 0 fun client => { client with
      rateUpdated := now, rateTokens := tokensAt view now, closeAfterWrite := true,
      refused := true }).Sole
      { view with rateTokens := tokensAt view now, rateUpdated := now, refused := true } :=
    Sole.updateClient (d := d.ticked) h fun found hfound => by rw [← hfound]; rfl
  exact ⟨rfl, (hmarked.queueAck .error 0 .queueFull allocated isOpen room).2⟩

/-- A burst of one request more than there are tokens: all but the last are handled. -/
theorem Sole.burst (env : LoopEnv) (requestId : UInt32) (named : requestId ≠ 0)
    (clock : ∀ tick, env.now tick = 0)
    (allocated : ∀ tick, env.allocationFails tick = false) {tokens queued : ℕ}
    {handled : List Frame} {received : Bytes}
    (few : tokens ≤ 500) (room : queued + 24 * (tokens + 1) ≤ kMaximumClientOutputBytes)
    (h : d.Sole
      { rateTokens := tokens * 1000000000
        outgoingBytes := queued
        handled := handled
        received := received }) :
    (handleFrames env 0 (List.replicate (tokens + 1) (clearRequest requestId)) d).2.Sole
      { rateTokens := 0
        outgoingBytes := queued + 24 * (tokens + 1)
        refused := true
        handled := handled ++ List.replicate tokens (clearRequest requestId)
        received := received } := by
  induction tokens generalizing d queued handled with
  | zero =>
    obtain ⟨hfalse, hsole⟩ := h.refused clock allocated rfl (by dsimp only; omega)
      (by simp [tokensAt])
    rw [List.replicate_one, handleFrames]
    dsimp only
    rw [hfalse]
    simpa [tokensAt] using hsole
  | succ tokens ih =>
    have htokens : tokensAt
        { rateTokens := ((tokens + 1 : ℕ) : Int) * 1000000000
          outgoingBytes := queued
          handled := handled
          received := received } 0 = ((tokens + 1 : ℕ) : Int) * 1000000000 := by
      unfold tokensAt
      dsimp only
      omega
    obtain ⟨htrue, hgoesOn, hsole⟩ := h.served env 0 requestId named clock allocated
      rfl rfl
      (by dsimp only; omega) (by rw [htokens]; omega)
    rw [htokens, show ((tokens + 1 : ℕ) : Int) * 1000000000 - 1000000000 =
      (tokens : Int) * 1000000000 by omega] at hsole
    dsimp only at hsole
    rw [List.replicate_succ, handleFrames]
    dsimp only
    rw [htrue, if_neg (by simp), show (d.consumeRateToken env 0).2.updateClient 0
      (recordHandled (clearRequest requestId)) = d.charged env 0 (clearRequest requestId)
        from rfl, hgoesOn, if_neg (by simp)]
    have hrest := ih (by omega) (by omega) hsole
    rw [List.append_assoc, List.singleton_append, ← List.replicate_succ,
      show queued + 24 + 24 * (tokens + 1) = queued + 24 * (tokens + 1 + 1) by omega] at hrest
    exact hrest

/-- A pass that receives whole frames. -/
theorem Sole.readClient (h : d.Sole view) (env : LoopEnv) (isOpen : view.isOpen = true)
    (between : view.decoder = {}) {bytes : Bytes} {frames : List Frame} (some_bytes : bytes ≠ [])
    (small : bytes.length ≤ kMaximumBufferedInput)
    (whole : frameParser.drain bytes = (frames, .ok [])) :
    ∃ fed : Daemon, fed.Sole { view with received := view.received ++ bytes } ∧
      readClient env 0 0 [.data bytes] d = (handleFrames env 0 frames fed).2 := by
  obtain ⟨client, hfound, hview⟩ := h.found
  have hopen : client.isOpen = true := by
    rw [← hview] at isOpen
    exact isOpen
  have hdecoder : client.decoder = {} := by
    rw [← hview] at between
    exact between
  have hfeed : client.decoder.feed bytes = (true, frames, {}) := by
    rw [hdecoder, FrameDecoder.feed, if_neg (by simp), if_neg (by simp; omega)]
    rw [List.nil_append, whole]
  refine ⟨d.updateClient 0 fun client =>
    { client with decoder := {}, received := client.received ++ bytes }, ?_, ?_⟩
  · refine h.updateClient fun found hfound => ?_
    subst hfound
    simp only [requestView] at between ⊢
    rw [between]
  · obtain ⟨byte, rest, rfl⟩ := List.exists_cons_of_ne_nil some_bytes
    have hbatch : readBatch env 0 (byte :: rest) d = handleFrames env 0 frames
        (d.updateClient 0 fun client =>
          { client with decoder := {}, received := client.received ++ byte :: rest }) := by
      unfold readBatch
      rw [hfound]
      dsimp only
      rw [hfeed]
      rfl
    rw [Daemon.readClient, if_neg (by simp [hfound, hopen])]
    dsimp only
    rw [hbatch]
    split <;> rfl

end Refill

/-- The Hello of an observer. -/
def observerHello : Frame := ⟨.hello, 1, encodeHelloPayload {}⟩

/-- Five hundred requests at once. -/
def burstBytes : Bytes := ((List.replicate 500 (clearRequest 1)).map Frame.encode).flatten

/-- The environment two milliseconds after the start. -/
def laterEnv : LoopEnv where
  now := fun _ => 2000000

/-- An observer connects and gets the answer to its Hello, sends a burst of requests, and
two milliseconds later, before the error reply is flushed, one more. -/
def refillSteps : List (LoopEnv × LoopStep) :=
  [({}, .acceptClient (some ⟨41, 1000, 1000, []⟩)),
    ({}, .readClient 0 [.data observerHello.encode]),
    ({}, .flushClient 0 [.sent 36]),
    ({}, .readClient 0 [.data burstBytes]),
    (laterEnv, .readClient 0 [.data (clearRequest 2).encode])]

end Daemon

end EcSystemCore
