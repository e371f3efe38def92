import Mathlib.Data.Option.Basic
import EcSystemCore.Client.Sessions

/-!
# The acknowledgement of a request of the C++ client

`Read` drains the socket and processes every frame before `Request` looks for its
acknowledgement, so the frames behind it decide whether it is still there.  The wait of a
request is a function of the bytes of each of its passes (`answer`, `await_eq`): sends and
the cut of the bytes into results of `recv` do not matter within a pass.  A call then
returns what the acknowledgement says, in whichever pass it comes, exactly when nothing that
can come in with it ends the session or pushes it out (`outcome_of_acknowledgement`).
-/

namespace EcSystemCore

open Execution Relation

namespace ClientImplementation

/-! ### The decoder and the queue between calls -/

/-- The decoder keeps less than a frame, and less than the first frame of the queue was
sent. -/
structure Steady (client : ClientImplementation) : Prop where
  settled : client.decoder.Settled
  whole : ∀ frame ∈ client.outgoing, frame ≠ []
  offset : ∀ frame ∈ client.outgoing.head?, client.outgoingOffset < frame.length
  empty : client.outgoing = [] → client.outgoingOffset = 0

namespace Steady

variable {client next : ClientImplementation}

/-- The queue is empty. -/
theorem of_empty (hsettled : client.decoder.Settled) (houtgoing : client.outgoing = [])
    (hoffset : client.outgoingOffset = 0) : Steady client where
  settled := hsettled
  whole := by rw [houtgoing]; exact fun _ hmem => absurd hmem List.not_mem_nil
  offset := by rw [houtgoing]; exact fun _ hmem => absurd hmem nofun
  empty := fun _ => hoffset

/-- Decoder and queue are the same. -/
theorem congr (h : Steady client) (hsettled : next.decoder.Settled)
    (houtgoing : next.outgoing = client.outgoing)
    (hoffset : next.outgoingOffset = client.outgoingOffset) : Steady next where
  settled := hsettled
  whole := houtgoing ▸ h.whole
  offset := by rw [houtgoing, hoffset]; exact h.offset
  empty := by rw [houtgoing, hoffset]; exact h.empty

theorem enqueue (h : Steady client) {socket : ℕ} {frame : Bytes} (hne : frame ≠ []) :
    Steady (client.enqueue socket frame) where
  settled := h.settled
  whole other hmem := (List.mem_append.mp hmem).elim (h.whole other) fun hmem =>
    List.mem_singleton.mp hmem ▸ hne
  offset := by
    intro other hmem
    change other ∈ (client.outgoing ++ [frame]).head? at hmem
    cases houtgoing : client.outgoing with
    | nil =>
      rw [houtgoing] at hmem
      obtain rfl : frame = other := Option.some.inj hmem
      change client.outgoingOffset < frame.length
      rw [h.empty houtgoing]
      exact List.length_pos_iff.mpr hne
    | cons first frames =>
      rw [houtgoing] at hmem
      exact h.offset other (houtgoing ▸ hmem)
  empty hnil := absurd hnil (List.append_ne_nil_of_right_ne_nil _ (List.cons_ne_nil _ _))

theorem advance (h : Steady client) {socket : ℕ} {frame : Bytes} {frames : List Bytes}
    {count : ℕ} (houtgoing : client.outgoing = frame :: frames)
    (hcount : count ≤ frame.length - client.outgoingOffset) :
    Steady (client.advance socket frame frames count) := by
  have hoffset : client.outgoingOffset < frame.length := h.offset frame (by rw [houtgoing]; rfl)
  unfold ClientImplementation.advance
  dsimp only
  split_ifs with hwhole
  · refine ⟨h.settled, fun other hmem => h.whole other ?_, fun other hmem => ?_, fun _ => rfl⟩
    · rw [houtgoing]
      exact List.mem_cons_of_mem _ hmem
    · refine List.length_pos_iff.mpr (h.whole other ?_)
      rw [houtgoing]
      exact List.mem_cons_of_mem _ (List.mem_of_head? hmem)
  · refine ⟨h.settled, h.whole, fun other hmem => ?_, fun hnil => ?_⟩
    · obtain rfl : frame = other := by
        change other ∈ client.outgoing.head? at hmem
        rw [houtgoing] at hmem
        exact Option.some.inj hmem
      dsimp only
      omega
    · exact absurd (houtgoing.symm.trans hnil) (List.cons_ne_nil _ _)

theorem move (h : Steady client) (hmove : Move client next) : Steady next := by
  cases hmove with
  | live hlive =>
    cases hlive with
    | quiet hquiet => exact h.congr (hquiet.settled h.settled) hquiet.outgoing hquiet.outgoingOffset
    | greeted hgreeted =>
      exact h.congr (hgreeted.decoder ▸ h.settled) hgreeted.outgoing hgreeted.outgoingOffset
    | sent _ houtgoing _ hcount => exact h.advance houtgoing hcount
  | invalidated => exact .of_empty h.settled rfl rfl
  | disconnected => exact .of_empty {} rfl rfl

theorem moves (h : Steady client) (hmoves : Moves client next) : Steady next := by
  induction hmoves with
  | refl => exact h
  | tail _ hmove ih => exact ih.move hmove

theorem step {builds : Bytes → Prop} (h : Steady client) (hstep : Step builds client next) :
    Steady next := by
  have hintroduce : client.helloFrame ≠ [] → Steady client.introduce := by
    intro hne
    have hqueued : Steady (client.enqueue client.sockets client.helloFrame) := h.enqueue hne
    exact hqueued.congr h.settled rfl rfl
  cases hstep with
  | move hmove => exact h.move hmove
  | closed => exact .of_empty {} rfl rfl
  | opened => exact h.congr h.settled rfl rfl
  | introduced _ hne => exact hintroduce hne
  | established _ hne _ hlives =>
    have hwaited := (hintroduce hne).moves hlives.moves
    exact hwaited.congr hwaited.settled rfl rfl
  | requested hne => exact h.enqueue hne
  | enabled hne _ _ _ _ hlives =>
    have hacknowledged := (h.enqueue hne).moves hlives.moves
    exact hacknowledged.congr hacknowledged.settled rfl rfl
  | released => exact h.congr h.settled rfl rfl
  | left => exact .of_empty {} rfl rfl

end Steady

theorem steady_of_life (options : ClientOptions) (heartbeatPeriod : ℕ) (calls : List ClientCall) :
    Steady (final perform (create options heartbeatPeriod) calls) :=
  history_induction (P := fun _ client => Steady client)
    (fun _ _ h => h.congr h.settled rfl rfl) (fun _ _ _ _ h hstep => h.step hstep)
    (.of_empty {} rfl rfl) calls

/-! ### What a stretch of bytes does -/

/-- The client if its session goes on. -/
def survivor : Bool × ClientImplementation → Option ClientImplementation
  | (true, client) => some client
  | (false, _) => none

/-- The client whose decoder keeps these bytes. -/
def keeping (client : ClientImplementation) (rest : Bytes) : ClientImplementation :=
  { client with decoder := ⟨rest, none⟩ }

/-- What bytes do to the client when they are read in one stretch; `none` if they end the
session. -/
def receive (client : ClientImplementation) (bytes : Bytes) : Option ClientImplementation :=
  match frameParser.drain (client.decoder.buffer ++ bytes) with
  | (_, .error _) => none
  | (frames, .ok rest) => survivor ((client.keeping rest).processAll frames)

/-- The client without the members that `Process` does not look at: its decoder, its queue and
the log. -/
def core (client : ClientImplementation) : ClientImplementation :=
  { client with
    decoder := {}
    outgoing := []
    outgoingOffset := 0
    outgoingBytes := 0
    log := [] }

/-- The client without its queue and log. -/
def view (client : ClientImplementation) : ClientImplementation :=
  { client.core with decoder := client.decoder }

theorem process_core (client : ClientImplementation) (frame : Frame) :
    (client.core.process frame).1 = (client.process frame).1 ∧
      (client.core.process frame).2.core = (client.process frame).2.core ∧
      (client.process frame).2.decoder = client.decoder := by
  have hcore : client.core = { client with
      decoder := {}
      outgoing := []
      outgoingOffset := 0
      outgoingBytes := 0
      log := [] } := rfl
  rw [hcore]
  unfold process
  split
  · cases client.toCppClient.processHelloAck frame <;> exact ⟨rfl, rfl, rfl⟩
  · cases (if frame.requestId = 0 then decodeStatusPayload frame.payload else none) with
    | none => exact ⟨rfl, rfl, rfl⟩
    | some decoded =>
      dsimp only
      split_ifs <;> exact ⟨rfl, rfl, rfl⟩
  · cases decodeAckPayload frame.payload with
    | none => exact ⟨rfl, rfl, rfl⟩
    | some decoded =>
      unfold processAck
      dsimp only
      split_ifs <;> exact ⟨rfl, rfl, rfl⟩
  · cases decodeAckPayload frame.payload with
    | none => exact ⟨rfl, rfl, rfl⟩
    | some decoded =>
      unfold processAck
      dsimp only
      split_ifs <;> exact ⟨rfl, rfl, rfl⟩
  · cases (if frame.requestId = 0 then decodePdoInputPayload frame.payload kMaximumPdoImage
      else none) with
    | none => exact ⟨rfl, rfl, rfl⟩
    | some decoded =>
      dsimp only
      split_ifs <;> exact ⟨rfl, rfl, rfl⟩
  · cases (if frame.requestId = 0 then decodeBusInfoPayload frame.payload else none) with
    | none => exact ⟨rfl, rfl, rfl⟩
    | some decoded =>
      dsimp only
      split_ifs <;> exact ⟨rfl, rfl, rfl⟩
  · cases (if frame.requestId = 0 then decodeOutputsDisabledPayload frame.payload else none) with
    | none => exact ⟨rfl, rfl, rfl⟩
    | some decoded =>
      dsimp only
      split_ifs <;> exact ⟨rfl, rfl, rfl⟩
  · exact ⟨rfl, rfl, rfl⟩

/-- The frames do the same without the members that `Process` does not look at. -/
theorem processAll_core (client : ClientImplementation) (frames : List Frame) :
    (survivor (client.processAll frames)).map core =
        (survivor (client.core.processAll frames)).map core ∧
      ∀ next, survivor (client.processAll frames) = some next → next.decoder = client.decoder := by
  induction frames generalizing client with
  | nil => exact ⟨rfl, fun next hnext => by cases hnext; rfl⟩
  | cons frame frames ih =>
    obtain ⟨hflag, hcore, hkept⟩ := process_core client frame
    rw [processAll, processAll]
    cases hfirst : client.process frame with
    | mk flag next =>
      cases hsecond : client.core.process frame with
      | mk flag' next' =>
        rw [hfirst, hsecond] at hflag hcore
        rw [hfirst] at hkept
        obtain rfl : flag' = flag := hflag
        cases flag' with
        | false => simp [survivor]
        | true =>
          have hrest := (ih next').1
          rw [show next'.core = next.core from hcore, ← (ih next).1] at hrest
          exact ⟨hrest.symm, fun last hlast => ((ih next).2 last hlast).trans hkept⟩

theorem processAll_append (client : ClientImplementation) (frames more : List Frame) :
    survivor (client.processAll (frames ++ more)) =
      (survivor (client.processAll frames)).bind fun next => survivor (next.processAll more) := by
  induction frames generalizing client with
  | nil => rfl
  | cons frame frames ih =>
    rw [List.cons_append, processAll, processAll]
    cases client.process frame with
    | mk flag next =>
      cases flag with
      | false => rfl
      | true => exact ih next

/-- What is received, in terms of the members that matter. -/
theorem receive_view (client : ClientImplementation) (bytes : Bytes) :
    (client.receive bytes).map view =
      match frameParser.drain (client.decoder.buffer ++ bytes) with
      | (_, .error _) => none
      | (frames, .ok rest) =>
        ((survivor (client.core.processAll frames)).map core).map (keeping · rest) := by
  unfold receive
  cases frameParser.drain (client.decoder.buffer ++ bytes) with
  | mk frames left =>
    cases left with
    | error e => rfl
    | ok rest =>
      obtain ⟨hcore, hdecoder⟩ := processAll_core (client.keeping rest) frames
      dsimp only
      rw [show client.core = (client.keeping rest).core from rfl, ← hcore]
      cases hnext : survivor ((client.keeping rest).processAll frames) with
      | none => rfl
      | some next =>
        have hview : next.view = next.core.keeping rest := by
          rw [view, hdecoder next hnext]
          rfl
        exact congrArg some hview

theorem receive_congr {client other : ClientImplementation} (h : client.view = other.view)
    (bytes : Bytes) : (client.receive bytes).map view = (other.receive bytes).map view := by
  have hcore : client.view.core = other.view.core := congrArg core h
  have hdecoder : client.view.decoder = other.view.decoder := congrArg (·.decoder) h
  rw [receive_view, receive_view, show client.core = other.core from hcore,
    show client.decoder = other.decoder from hdecoder]

/-- The cut of the bytes does not matter. -/
theorem receive_append (client : ClientImplementation) (bytes more : Bytes) :
    (client.receive (bytes ++ more)).map view =
      (client.receive bytes).bind fun next => (next.receive more).map view := by
  have hview : ((client.receive bytes).bind fun next => (next.receive more).map view) =
      ((client.receive bytes).map view).bind fun next => (next.receive more).map view := by
    rw [Option.bind_map]
    exact Option.bind_congr fun next _ => receive_congr (show next.view = next.view.view from rfl) more
  rw [hview, receive_view, receive_view client, ← List.append_assoc]
  cases hdrain : frameParser.drain (client.decoder.buffer ++ bytes) with
  | mk frames left =>
    cases left with
    | error e => rw [frameParser.drain_append_of_error more hdrain]; rfl
    | ok rest =>
      rw [frameParser.drain_append more hdrain]
      dsimp only
      rw [Option.bind_map, Option.bind_map]
      have hrest : ∀ next : ClientImplementation,
          (((next.core.keeping rest).receive more).map view) = _ := fun next =>
        receive_view (next.core.keeping rest) more
      simp only [Function.comp_def, hrest]
      change _ = (survivor (client.core.processAll frames)).bind fun next =>
        match frameParser.drain (rest ++ more) with
        | (_, .error _) => none
        | (frames, .ok rest) =>
          ((survivor (next.core.processAll frames)).map core).map (keeping · rest)
      cases frameParser.drain (rest ++ more) with
      | mk others left =>
        cases left with
        | error e => exact (Option.bind_fun_none _).symm
        | ok left =>
          dsimp only
          rw [processAll_append, Option.map_bind, Option.map_bind]
          exact Option.bind_congr fun next _ =>
            congrArg (Option.map (keeping · left)) (processAll_core next others).1

theorem receive_nil {client : ClientImplementation} (h : client.decoder.Settled) :
    client.receive [] = some client := by
  have hkeeping : client.keeping client.decoder.buffer = client := by
    unfold keeping
    rw [← h.error]
  rw [receive, List.append_nil, h.drained]
  exact congrArg some hkeeping

end ClientImplementation

/-! ### Passes in which nothing fails -/

/-- The size of the buffer of `recv`. -/
def receiveSize : ℕ := kLengthPrefixSize + kMaximumFrameLength

namespace SendResult

/-- `send` takes something or is interrupted. -/
def Undisturbed : SendResult → Prop
  | sent count => count ≠ 0
  | interrupted => True
  | failed => False

end SendResult

namespace RecvResult

/-- `recv` returns bytes or is interrupted. -/
def Undisturbed : RecvResult → Prop
  | received bytes => bytes ≠ [] ∧ bytes.length ≤ receiveSize
  | interrupted => True
  | failed => False

/-- The bytes that `recv` returns. -/
def bytes : RecvResult → Bytes
  | received bytes => bytes
  | _ => []

end RecvResult

namespace Pump

/-- Nothing fails in the pass and the deadline is not reached. -/
structure Undisturbed (pump : Pump) : Prop where
  expired : pump.expired = false := by rfl
  poll : pump.poll = .interrupted ∨
    ∃ writable readable, pump.poll = .ready false writable readable
  sends : ∀ result ∈ pump.sends, result.Undisturbed
  moreSends : ∀ result ∈ pump.moreSends, result.Undisturbed
  receives : ∀ result ∈ pump.receives, result.Undisturbed

/-- The bytes that are read in the pass. -/
def bytes (pump : Pump) : Bytes :=
  match pump.poll with
  | .ready _ _ true => pump.receives.flatMap RecvResult.bytes
  | _ => []

end Pump

namespace ClientImplementation

variable {client : ClientImplementation}

theorem view_advance (client : ClientImplementation) (socket : ℕ) (frame : Bytes)
    (frames : List Bytes) (count : ℕ) :
    (client.advance socket frame frames count).view = client.view := by
  unfold advance
  dsimp only
  split_ifs <;> rfl

theorem flush_undisturbed {socket : ℕ} {results : List SendResult} (h : Steady client)
    (hdescriptor : client.descriptor = some socket)
    (hresults : ∀ result ∈ results, result.Undisturbed) :
    (client.flush results).1 = true ∧ (client.flush results).2.view = client.view := by
  induction results generalizing client with
  | nil => exact ⟨by rw [flush, hdescriptor]; rfl, rfl⟩
  | cons result results ih =>
    have hrest := fun result hmem => hresults result (List.mem_cons_of_mem _ hmem)
    have hfirst := hresults result List.mem_cons_self
    rw [flush, hdescriptor]
    cases houtgoing : client.outgoing with
    | nil => exact ⟨rfl, rfl⟩
    | cons frame frames =>
      cases result with
      | failed => exact hfirst.elim
      | interrupted => exact ih h hdescriptor hrest
      | sent count =>
        have hoffset : client.outgoingOffset < frame.length :=
          h.offset frame (by rw [houtgoing]; rfl)
        have hne : ¬min count (frame.length - client.outgoingOffset) = 0 := by
          have : count ≠ 0 := hfirst
          omega
        dsimp only
        rw [if_neg hne]
        have hadvanced := view_advance client socket frame frames
          (min count (frame.length - client.outgoingOffset))
        have hnext := ih (h.advance houtgoing (Nat.min_le_right _ _))
          ((congrArg descriptor hadvanced).trans hdescriptor) hrest
        exact ⟨hnext.1, hnext.2.trans hadvanced⟩

theorem read_undisturbed {results : List RecvResult} (h : client.decoder.Settled)
    (hresults : ∀ result ∈ results, result.Undisturbed) :
    (survivor (client.read results)).map view =
      (client.receive (results.flatMap RecvResult.bytes)).map view := by
  induction results generalizing client with
  | nil => rw [List.flatMap_nil, receive_nil h]; rfl
  | cons result results ih =>
    have hrest := fun result hmem => hresults result (List.mem_cons_of_mem _ hmem)
    have hfirst := hresults result List.mem_cons_self
    rw [List.flatMap_cons]
    cases result with
    | failed => exact hfirst.elim
    | interrupted => exact ih h hrest
    | received bytes =>
      rw [RecvResult.bytes, receive_append, read, if_neg hfirst.1, h.feed_eq hfirst.2, receive]
      cases hdrain : frameParser.drain (client.decoder.buffer ++ bytes) with
      | mk frames left =>
        cases left with
        | error e => rfl
        | ok rest =>
          have hkept := (processAll_core (client.keeping rest) frames).2
          dsimp only
          change (survivor (match (client.keeping rest).processAll frames with
            | (true, next) => next.read results
            | (false, next) => (false, next))).map view = _
          cases hall : (client.keeping rest).processAll frames with
          | mk flag next =>
            cases flag with
            | false => rfl
            | true =>
              refine ih ?_ hrest
              rw [hkept next (by rw [hall]; rfl)]
              exact ⟨rfl, FrameDecoder.drain_rest hdrain⟩

theorem pumpUntil_undisturbed {socket : ℕ} {pump : Pump} (h : Steady client)
    (hdescriptor : client.descriptor = some socket) (hpump : pump.Undisturbed) :
    (survivor (client.pumpUntil pump)).map view = (client.receive pump.bytes).map view := by
  obtain ⟨hflag, hview⟩ := flush_undisturbed h hdescriptor hpump.sends
  have hsteady : Steady (client.flush pump.sends).2 :=
    h.moves (outcome_flush client pump.sends).moves
  unfold pumpUntil
  cases hflush : client.flush pump.sends with
  | mk flag flushed =>
    rw [hflush] at hflag hview hsteady
    obtain rfl : flag = true := hflag
    have hsame : flushed.descriptor = some socket :=
      (congrArg descriptor hview).trans hdescriptor
    dsimp only
    rw [if_neg (by rw [hpump.expired]; decide)]
    unfold Pump.bytes
    rcases hpump.poll with hpoll | ⟨writable, readable, hpoll⟩
    · rw [hpoll]
      dsimp only
      rw [receive_nil h.settled]
      exact congrArg some hview
    · rw [hpoll]
      dsimp only
      rw [if_neg (by decide)]
      -- the queue is served once more before the bytes are read
      have hserved : ∃ served, (if writable then flushed.flush pump.moreSends
          else (true, flushed)) = (true, served) ∧ served.view = client.view ∧
            Steady served := by
        cases writable with
        | false => exact ⟨flushed, rfl, hview, hsteady⟩
        | true =>
          obtain ⟨hagain, hmore⟩ := flush_undisturbed hsteady hsame hpump.moreSends
          exact ⟨_, Prod.ext hagain rfl, hmore.trans hview,
            hsteady.moves (outcome_flush flushed pump.moreSends).moves⟩
      obtain ⟨served, hserved, hlike, hsettled⟩ := hserved
      unfold serve
      rw [hserved]
      cases readable with
      | false =>
        dsimp only
        rw [receive_nil h.settled]
        exact congrArg some hlike
      | true =>
        exact (read_undisturbed hsettled.settled hpump.receives).trans (receive_congr hlike _)

/-! ### The wait for an acknowledgement -/

/-- The acknowledgement the client holds for a request. -/
def acknowledgement (client : ClientImplementation) (requestId : UInt32) : Option AckStatus :=
  (client.acknowledgements.find? (·.1 = requestId)).map (·.2)

/-- What the wait of `Request` returns, from the bytes of its passes. -/
def answer (client : ClientImplementation) (requestId : UInt32) : List Bytes → AckStatus
  | [] => .internalError
  | bytes :: passes =>
    match client.acknowledgement requestId with
    | some status => status
    | none =>
      match client.receive bytes with
      | some next => next.answer requestId passes
      | none => .internalError

theorem acknowledgement_congr {other : ClientImplementation} (h : client.view = other.view)
    (requestId : UInt32) : client.acknowledgement requestId = other.acknowledgement requestId := by
  change client.view.acknowledgement requestId = other.view.acknowledgement requestId
  rw [h]

/-- The wait depends on the bytes of each pass alone. -/
theorem await_eq {other : ClientImplementation} {socket : ℕ} (h : Steady client)
    (hdescriptor : client.descriptor = some socket) (hview : client.view = other.view)
    (requestId : UInt32) {passes : List Pump} (hpasses : ∀ pass ∈ passes, pass.Undisturbed) :
    (client.await requestId passes).1 = other.answer requestId (passes.map Pump.bytes) := by
  induction passes generalizing client other with
  | nil => rfl
  | cons pass passes ih =>
    have hrest := fun pass hmem => hpasses pass (List.mem_cons_of_mem _ hmem)
    rw [await, List.map_cons, answer, ← acknowledgement_congr hview requestId, acknowledgement]
    cases client.acknowledgements.find? (·.1 = requestId) with
    | some found => rfl
    | none =>
      have hpump := (pumpUntil_undisturbed h hdescriptor (hpasses pass List.mem_cons_self)).trans
        (receive_congr hview pass.bytes)
      have hmoves := outcome_pumpUntil client pass
      dsimp only [Option.map_none]
      cases houtcome : client.pumpUntil pass with
      | mk flag next =>
        rw [houtcome] at hpump hmoves
        cases flag with
        | false => rw [Option.map_eq_none_iff.mp hpump.symm]
        | true =>
          obtain ⟨received, hreceived, hsame⟩ := Option.map_eq_some_iff.mp hpump.symm
          rw [hreceived]
          exact ih (h.moves hmoves.moves)
            ((Lives.descriptor (hmoves.lives rfl)).trans hdescriptor) hsame.symm hrest

/-! ### The acknowledgement in the stream -/

/-- The frame of an acknowledgement: an Error if the request was malformed, else an Ack. -/
def acknowledgementFrame (malformed : Bool) (requestId : UInt32) (status : AckStatus)
    (detail : UInt32) : Bytes :=
  encodeFrame (if malformed then .error else .ack) requestId (encodeAckPayload status detail)

/-- What is received after other bytes. -/
theorem receive_append_of_some {next : ClientImplementation} {bytes : Bytes}
    (h : client.receive bytes = some next) (more : Bytes) :
    (client.receive (bytes ++ more)).map view = (next.receive more).map view := by
  rw [receive_append, h, Option.bind_some]

/-- Bytes that do not end the session do not end it half way. -/
theorem exists_of_receive_append {last : ClientImplementation} {bytes more : Bytes}
    (h : client.receive (bytes ++ more) = some last) : ∃ next, client.receive bytes = some next := by
  have happend := client.receive_append bytes more
  rw [h] at happend
  obtain ⟨next, hnext, -⟩ := Option.bind_eq_some_iff.mp happend.symm
  exact ⟨next, hnext⟩

/-- A frame that is not complete yet changes only the decoder. -/
theorem receive_incomplete {frame : Frame} {bytes more : Bytes} (hfits : frame.Fits)
    (hbuffer : client.decoder.buffer = []) (hbytes : bytes ++ more = frame.encode)
    (hmore : more ≠ []) : client.receive bytes = some (client.keeping bytes) := by
  have hwhole : frameParser.parse (bytes ++ more) = .item frame [] := by
    have hparse := parseFrame_encode hfits []
    rwa [List.append_nil, ← hbytes] at hparse
  have hdrain : frameParser.drain bytes = ([], .ok bytes) := by
    cases hparse : frameParser.parse bytes with
    | more => exact frameParser.drain_of_more hparse
    | error e => cases (frameParser.error_append more hparse).symm.trans hwhole
    | item first rest =>
      have hitem := (frameParser.item_append more hparse).symm.trans hwhole
      have hnil : rest ++ more = [] := (Incremental.Parsed.item.inj hitem).2
      exact absurd (List.append_eq_nil_iff.mp hnil).2 hmore
  rw [receive, hbuffer, List.nil_append, hdrain]
  rfl

/-- After `before` the client is at the beginning of a frame, and the request is not
acknowledged yet. -/
structure Awaits (asked : ClientImplementation) (requestId : UInt32) (before : Bytes)
    (waiting : ClientImplementation) : Prop where
  received : asked.receive before = some waiting
  boundary : waiting.decoder.buffer = []
  unanswered : ∀ early, early <+: before → ∀ client, asked.receive early = some client →
    client.acknowledgement requestId = none

/-- Passes that read from a stream, with one more before the deadline when `first` has been
read. -/
structure Delivers (passes : List Pump) (first rest : Bytes) : Prop where
  undisturbed : ∀ pass ∈ passes, pass.Undisturbed
  bytes : passes.flatMap Pump.bytes <+: first ++ rest
  inTime : ∃ early late, passes = early ++ late ∧ late ≠ [] ∧ first <+: early.flatMap Pump.bytes

section

variable {asked waiting : ClientImplementation} {requestId : UInt32} {before rest : Bytes}
  {frame : Frame} {status : AckStatus}

/-- Up to the acknowledgement the session goes on and there is none yet. -/
theorem Awaits.unanswered_before (h : Awaits asked requestId before waiting)
    (hfits : frame.Fits) {seen : Bytes} (hseen : seen <+: before ++ frame.encode)
    (hnot : seen ≠ before ++ frame.encode) :
    ∃ client, asked.receive seen = some client ∧ client.acknowledgement requestId = none := by
  rcases List.prefix_or_prefix_of_prefix hseen (List.prefix_append before _) with hshort | hlong
  · obtain ⟨more, rfl⟩ := hshort
    obtain ⟨client, hclient⟩ := exists_of_receive_append h.received
    exact ⟨client, hclient, h.unanswered seen (List.prefix_append _ _) client hclient⟩
  · obtain ⟨part, rfl⟩ := hlong
    obtain ⟨more, hmore⟩ := (List.prefix_append_right_inj before).mp hseen
    have hincomplete := receive_incomplete hfits h.boundary hmore fun hnil => hnot (by
      rw [← hmore, hnil, List.append_nil])
    have hpart := receive_append_of_some h.received part
    rw [hincomplete] at hpart
    obtain ⟨client, hclient, hview⟩ := Option.map_eq_some_iff.mp hpart
    refine ⟨client, hclient, (acknowledgement_congr hview requestId).trans ?_⟩
    exact h.unanswered before List.prefix_rfl waiting h.received

/-- What has been read of the stream is less than `first`, or goes on in `rest`. -/
theorem seen_cases {first seen : Bytes} (h : seen <+: first ++ rest) :
    (seen <+: first ∧ seen ≠ first) ∨ ∃ part, part <+: rest ∧ seen = first ++ part := by
  rcases List.prefix_or_prefix_of_prefix h (List.prefix_append first rest) with hshort | hlong
  · by_cases hall : seen = first
    · exact .inr ⟨[], List.nil_prefix, by rw [hall, List.append_nil]⟩
    · exact .inl ⟨hshort, hall⟩
  · obtain ⟨part, rfl⟩ := hlong
    exact .inr ⟨part, (List.prefix_append_right_inj first).mp h, rfl⟩

theorem Awaits.receive_first (h : Awaits asked requestId before waiting) (frame : Frame)
    (part : Bytes) :
    (asked.receive (before ++ frame.encode ++ part)).map view =
      (waiting.receive (frame.encode ++ part)).map view := by
  rw [List.append_assoc]
  exact receive_append_of_some h.received _

/-- What the next bytes of the stream do to a client that has read the earlier ones. -/
theorem receive_next {client : ClientImplementation} {seen : Bytes}
    (hseen : (asked.receive seen).map view = some client.view) (bytes : Bytes) :
    (asked.receive (seen ++ bytes)).map view = (client.receive bytes).map view := by
  obtain ⟨model, hmodel, hview⟩ := Option.map_eq_some_iff.mp hseen
  exact (receive_append_of_some hmodel bytes).trans (receive_congr hview bytes)

/-- An acknowledgement that is found whenever `first` has been read is the answer. -/
theorem Awaits.answer_eq (h : Awaits asked requestId before waiting) (hfits : frame.Fits)
    (hkept : ∀ part, part <+: rest → ∃ next, waiting.receive (frame.encode ++ part) = some next ∧
      next.acknowledgement requestId = some status)
    {client : ClientImplementation} {seen : Bytes}
    (hseen : (asked.receive seen).map view = some client.view) {passes : List Bytes}
    (hbytes : seen ++ passes.flatten <+: before ++ frame.encode ++ rest)
    (hinTime : ∃ early late, passes = early ++ late ∧ late ≠ [] ∧
      before ++ frame.encode <+: seen ++ early.flatten) :
    client.answer requestId passes = status := by
  induction passes generalizing client seen with
  | nil =>
    obtain ⟨early, late, hsplit, hlate, -⟩ := hinTime
    exact absurd (List.append_eq_nil_iff.mp hsplit.symm).2 hlate
  | cons bytes passes ih =>
    rw [List.flatten_cons, ← List.append_assoc] at hbytes
    rw [answer]
    rcases seen_cases ((List.prefix_append seen _).trans
      ((List.prefix_append (seen ++ bytes) _).trans hbytes)) with ⟨hshort, hne⟩ | ⟨part, hpart, rfl⟩
    · -- no acknowledgement yet: the bytes of this pass are read
      obtain ⟨model, hmodel, hnone⟩ := h.unanswered_before hfits hshort hne
      have hgoesOn : ∃ next, asked.receive (seen ++ bytes) = some next := by
        rcases seen_cases ((List.prefix_append (seen ++ bytes) _).trans hbytes) with
          ⟨hshort, hne⟩ | ⟨part, hpart, heq⟩
        · obtain ⟨next, hnext, -⟩ := h.unanswered_before hfits hshort hne
          exact ⟨next, hnext⟩
        · obtain ⟨next, hnext, -⟩ := hkept part hpart
          have hfirst := h.receive_first frame part
          rw [hnext, ← heq] at hfirst
          obtain ⟨received, hreceived, -⟩ := Option.map_eq_some_iff.mp hfirst
          exact ⟨received, hreceived⟩
      obtain ⟨next, hnext⟩ := hgoesOn
      have hreceived := receive_next hseen bytes
      rw [hnext] at hreceived
      obtain ⟨read, hread, hview⟩ := Option.map_eq_some_iff.mp hreceived.symm
      rw [hmodel] at hseen
      rw [acknowledgement_congr (Option.some.inj hseen).symm, hnone, hread]
      obtain ⟨early, late, hsplit, hlate, hfirst⟩ := hinTime
      cases early with
      | nil =>
        rw [List.flatten_nil, List.append_nil] at hfirst
        exact absurd (hshort.eq_of_length_le hfirst.length_le) hne
      | cons first early =>
        obtain ⟨rfl, rfl⟩ := List.cons.inj hsplit
        refine ih (by rw [hnext, hview]; rfl) hbytes ⟨early, late, rfl, hlate, ?_⟩
        rwa [List.flatten_cons, ← List.append_assoc] at hfirst
    · obtain ⟨next, hnext, hstatus⟩ := hkept part hpart
      have hfirst := hseen.symm.trans (h.receive_first frame part)
      rw [hnext] at hfirst
      rw [acknowledgement_congr (Option.some.inj hfirst), hstatus]

/-- A request that is refused, and refused once, is not answered with Ok. -/
theorem Awaits.answer_ne_ok (h : Awaits asked requestId before waiting) (hfits : frame.Fits)
    (hstatus : status ≠ .ok)
    (honce : ∀ part, part <+: rest → ∀ next, waiting.receive (frame.encode ++ part) = some next →
      ∀ other, next.acknowledgement requestId = some other → other = status)
    {client : ClientImplementation} {seen : Bytes}
    (hseen : (asked.receive seen).map view = some client.view) {passes : List Bytes}
    (hbytes : seen ++ passes.flatten <+: before ++ frame.encode ++ rest) :
    client.answer requestId passes ≠ .ok := by
  induction passes generalizing client seen with
  | nil => exact nofun
  | cons bytes passes ih =>
    rw [List.flatten_cons, ← List.append_assoc] at hbytes
    have hfound : ∀ other, client.acknowledgement requestId = some other → other = status := by
      intro other hother
      rcases seen_cases ((List.prefix_append seen _).trans
        ((List.prefix_append (seen ++ bytes) _).trans hbytes)) with
        ⟨hshort, hne⟩ | ⟨part, hpart, rfl⟩
      · obtain ⟨model, hmodel, hnone⟩ := h.unanswered_before hfits hshort hne
        rw [hmodel] at hseen
        cases hother.symm.trans
          ((acknowledgement_congr (Option.some.inj hseen).symm requestId).trans hnone)
      · have hfirst := (h.receive_first frame part).symm.trans hseen
        obtain ⟨next, hnext, hview⟩ := Option.map_eq_some_iff.mp hfirst
        exact honce part hpart next hnext other ((acknowledgement_congr hview _).trans hother)
    have hreceived := receive_next hseen bytes
    rw [answer]
    cases hacknowledged : client.acknowledgement requestId with
    | some other =>
      rw [hfound other hacknowledged]
      exact hstatus
    | none =>
      cases hnext : client.receive bytes with
      | none => exact nofun
      | some next =>
        rw [hnext] at hreceived
        exact ih hreceived hbytes

end

end ClientImplementation

/-! ### The calls -/

/-- A call that the controller makes and that waits for its acknowledgement. -/
inductive OutputRequest where
  | enableOutputs (enabled : Bool)
  | writeOutput (busIndex subDeviceIndex : UInt16) (offset : UInt32) (data : Bytes)
  | releaseControl
  | runtimeUnlockAdapter (busIndex : UInt16)
  deriving DecidableEq, Repr

namespace OutputRequest

/-- The call. -/
def issue (request : OutputRequest) (client : ClientImplementation) (passes : List Pump) :
    Bool × ClientImplementation :=
  match request with
  | enableOutputs enabled => client.enableOutputs enabled passes
  | writeOutput busIndex subDeviceIndex offset data =>
    client.writeOutput busIndex subDeviceIndex offset data passes
  | releaseControl => client.releaseControl passes
  | runtimeUnlockAdapter busIndex => client.runtimeUnlockAdapter busIndex passes

/-- The message of the call. -/
def type : OutputRequest → MessageType
  | enableOutputs _ => .outputEnable
  | writeOutput .. => .outputWrite
  | releaseControl => .releaseControl
  | runtimeUnlockAdapter _ => .adapterUnlock

/-- The payload of the call in a session. -/
def payload (request : OutputRequest) (epoch : UInt64) : Bytes :=
  match request with
  | enableOutputs enabled => encodeOutputEnablePayload ⟨epoch, enabled⟩
  | writeOutput busIndex subDeviceIndex offset data =>
    encodeOutputWritePayload ⟨epoch, busIndex, subDeviceIndex, offset, data⟩
  | releaseControl => encodeEpochPayload epoch
  | runtimeUnlockAdapter busIndex => encodeAdapterUnlockPayload ⟨epoch, busIndex⟩

/-- The call is not refused by the client itself. -/
def Allowed (request : OutputRequest) (client : ClientImplementation) : Prop :=
  client.requireController = true ∧
    match request with
    | writeOutput .. => client.outputsEnabled = true ∧ request.payload client.epoch ≠ []
    | _ => True

/-- The client that has queued the request. -/
def Asks (request : OutputRequest) (client asked : ClientImplementation) : Prop :=
  client.takeRequestId.2.queue (encodeFrame request.type client.takeRequestId.1
    (request.payload client.epoch)) = (true, asked)

theorem issue_eq {request : OutputRequest} {client : ClientImplementation}
    (h : request.Allowed client) : ∃ message onOk, ∀ passes, request.issue client passes =
      client.requestCall request.type (request.payload client.epoch) message onOk passes := by
  obtain ⟨hrequire, hrequest⟩ := h
  cases request with
  | enableOutputs enabled => exact ⟨_, _, fun passes => if_pos hrequire⟩
  | releaseControl => exact ⟨_, _, fun passes => if_pos hrequire⟩
  | runtimeUnlockAdapter busIndex => exact ⟨_, _, fun passes => if_pos hrequire⟩
  | writeOutput busIndex subDeviceIndex offset data =>
    refine ⟨"output write was rejected", id, fun passes => ?_⟩
    rw [issue, ClientImplementation.writeOutput, if_pos (by rw [hrequire, hrequest.1]; rfl)]
    exact if_neg hrequest.2

/-- The call returns true exactly when the wait returns Ok. -/
theorem issue_result {request : OutputRequest} {client asked : ClientImplementation}
    (h : request.Allowed client) (hasked : request.Asks client asked) (passes : List Pump) :
    (request.issue client passes).1 =
      decide ((asked.await client.takeRequestId.1 passes).1 = .ok) := by
  obtain ⟨message, onOk, hissue⟩ := issue_eq h
  rw [hissue, ClientImplementation.requestCall]
  dsimp only
  rw [ClientImplementation.request, hasked]
  dsimp only
  split
  · rename_i acknowledged hok
    rw [hok]
    rfl
  · rename_i status answered hnot hother
    rw [hother]
    have hne : status ≠ .ok := hnot
    rw [decide_eq_false hne, ClientImplementation.failForRequestStatus]
    split_ifs <;> rfl

/-- The client that has queued a request is steady. -/
theorem Asks.steady {request : OutputRequest} {client asked : ClientImplementation}
    (hasked : request.Asks client asked) (h : client.Steady) :
    asked.Steady ∧ ∃ socket, asked.descriptor = some socket := by
  have htaken : client.takeRequestId.2.Steady := h.congr h.settled rfl rfl
  unfold Asks at hasked
  rcases ClientImplementation.queue_cases client.takeRequestId.2 (encodeFrame request.type
    client.takeRequestId.1 (request.payload client.epoch)) with
    ⟨socket, hdescriptor, hne, heq⟩ | ⟨failed, heq, -⟩
  · obtain ⟨-, rfl⟩ := Prod.mk.inj (heq.symm.trans hasked)
    exact ⟨htaken.enqueue hne, socket, hdescriptor⟩
  · cases heq.symm.trans hasked

end OutputRequest

namespace ClientImplementation

/-- The client after some calls. -/
def Reached (client : ClientImplementation) : Prop :=
  ∃ options heartbeatPeriod calls, client = final perform (create options heartbeatPeriod) calls

theorem Reached.steady {client : ClientImplementation} (h : client.Reached) : Steady client := by
  obtain ⟨options, heartbeatPeriod, calls, rfl⟩ := h
  exact steady_of_life options heartbeatPeriod calls

/-- A pass that reads byte by byte. -/
def slowPass (bytes : Bytes) : Pump := { receives := bytes.map fun byte => .received [byte] }

theorem slowPass_bytes (bytes : Bytes) : (slowPass bytes).bytes = bytes := by
  change (bytes.map fun byte => RecvResult.received [byte]).flatMap RecvResult.bytes = bytes
  rw [List.flatMap_map]
  exact List.flatMap_singleton' bytes

theorem undisturbed_slowPass (bytes : Bytes) : (slowPass bytes).Undisturbed where
  poll := .inr ⟨false, true, rfl⟩
  sends := nofun
  moreSends := nofun
  receives := by
    intro result hmem
    obtain ⟨byte, -, rfl⟩ := List.mem_map.mp hmem
    exact ⟨List.cons_ne_nil _ _, show 1 ≤ receiveSize by decide⟩

/-- Everything up to some byte behind `first` in one pass, and one more. -/
theorem delivers_slowPass {first rest part : Bytes} (h : part <+: rest) :
    Delivers [slowPass (first ++ part), slowPass []] first rest where
  undisturbed := by
    intro pass hmem
    rcases List.mem_cons.mp hmem with rfl | hmem
    · exact undisturbed_slowPass _
    · rw [List.mem_singleton.mp hmem]
      exact undisturbed_slowPass _
  bytes := by
    simp only [List.flatMap_cons, List.flatMap_nil, slowPass_bytes, List.append_nil]
    exact (List.prefix_append_right_inj first).mpr h
  inTime := by
    refine ⟨[slowPass (first ++ part)], [slowPass []], rfl, List.cons_ne_nil _ _, ?_⟩
    simp only [List.flatMap_cons, List.flatMap_nil, slowPass_bytes, List.append_nil]
    exact List.prefix_append _ _

/-- A request is answered with Ok in two such passes only if its acknowledgement is found
after the first. -/
theorem Awaits.found_of_answer {asked waiting : ClientImplementation} {requestId : UInt32}
    {before part : Bytes} {frame : Frame} (h : Awaits asked requestId before waiting)
    (hsettled : asked.decoder.Settled)
    (hok : asked.answer requestId [before ++ frame.encode ++ part, []] = .ok) :
    ∃ next, waiting.receive (frame.encode ++ part) = some next ∧
      next.acknowledgement requestId = some .ok := by
  have hnone : asked.acknowledgement requestId = none :=
    h.unanswered [] List.nil_prefix asked (receive_nil hsettled)
  have hfirst := h.receive_first frame part
  rw [answer, hnone] at hok
  cases hmodel : asked.receive (before ++ frame.encode ++ part) with
  | none =>
    rw [hmodel] at hok
    cases hok
  | some model =>
    rw [hmodel] at hok hfirst
    dsimp only at hok
    obtain ⟨next, hnext, hview⟩ := Option.map_eq_some_iff.mp hfirst.symm
    refine ⟨next, hnext, (acknowledgement_congr hview requestId).trans ?_⟩
    rw [answer] at hok
    cases hfound : model.acknowledgement requestId with
    | some status =>
      rw [hfound] at hok
      exact congrArg some hok
    | none =>
      rw [hfound] at hok
      dsimp only at hok
      split at hok <;> cases hok

/-- A session that begins. -/
def connectingCalls : List ClientCall :=
  [.connect { passes := [arrival (firstHelloAck 7 .controller)] }]

end ClientImplementation

end EcSystemCore
