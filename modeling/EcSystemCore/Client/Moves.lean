import Mathlib.Logic.Relation
import EcSystemCore.Client.Implementation

/-!
# What the C++ client does while it serves its socket

Everything between the start of a call and its return is made of a few moves: the client
sends a part of its first frame, accepts a HelloAck, ends the session, or does something
that sockets, queue and session do not depend on (`Quiet`).  While a function succeeds the
session goes on (`Live`); when it fails anything may have happened (`Move`).  The facts
about sessions and sockets are proved for the moves; this module shows that the functions
of the client are made of them (`Outcome`).
-/

namespace EcSystemCore.ClientImplementation

open Relation

/-- Sockets, queue and session stay; nothing is enabled; what is received is of the epoch of
the session. -/
structure Quiet (before after : ClientImplementation) : Prop where
  descriptor : after.descriptor = before.descriptor
  sockets : after.sockets = before.sockets
  connected : after.connected = before.connected
  helloReceived : after.helloReceived = before.helloReceived
  epoch : after.epoch = before.epoch
  controllerGranted : after.controllerGranted = before.controllerGranted
  outgoing : after.outgoing = before.outgoing
  outgoingOffset : after.outgoingOffset = before.outgoingOffset
  log : after.log = before.log
  outputsEnabled : after.outputsEnabled = true → before.outputsEnabled = true
  held : ∀ epoch ∈ after.held, epoch ∈ before.held ∨ epoch = before.epoch
  settled : before.decoder.Settled → after.decoder.Settled

/-- A HelloAck was accepted. -/
structure Greeted (before after : ClientImplementation) : Prop where
  descriptor : after.descriptor = before.descriptor
  sockets : after.sockets = before.sockets
  connected : after.connected = before.connected
  helloReceived : after.helloReceived = true
  epoch : after.epoch ≠ 0
  outgoing : after.outgoing = before.outgoing
  outgoingOffset : after.outgoingOffset = before.outgoingOffset
  log : after.log = before.log ++ [.greeted before.connected before.held after.epoch]
  outputsEnabled : after.outputsEnabled = false
  held : after.held = before.held
  decoder : after.decoder = before.decoder

/-- A move with which the session goes on. -/
inductive Live : ClientImplementation → ClientImplementation → Prop
  | quiet {before after : ClientImplementation} (h : Quiet before after) : Live before after
  | greeted {before after : ClientImplementation} (h : Greeted before after) : Live before after
  | sent {client : ClientImplementation} {socket : ℕ} {frame : Bytes} {frames : List Bytes}
      {count : ℕ} (hdescriptor : client.descriptor = some socket)
      (houtgoing : client.outgoing = frame :: frames) (hpos : 0 < count)
      (hcount : count ≤ frame.length - client.outgoingOffset) :
      Live client (client.advance socket frame frames count)

/-- Any move. -/
inductive Move : ClientImplementation → ClientImplementation → Prop
  | live {before after : ClientImplementation} (h : Live before after) : Move before after
  | invalidated (client : ClientImplementation) (replacementEpoch : UInt64) :
      Move client (client.invalidateSession replacementEpoch)
  | disconnected (client : ClientImplementation) : Move client client.handleDisconnect

/-- The session went on. -/
abbrev Lives := ReflTransGen Live

/-- What may have happened. -/
abbrev Moves := ReflTransGen Move

variable {client next : ClientImplementation}

theorem Lives.moves (h : Lives client next) : Moves client next :=
  ReflTransGen.mono (fun _ _ => .live) _ _ h

/-- The outcome of a function that reports whether the session goes on. -/
structure Outcome (client : ClientImplementation) (outcome : Bool × ClientImplementation) :
    Prop where
  moves : Moves client outcome.2
  lives : outcome.1 = true → Lives client outcome.2

namespace Outcome

variable {outcome : Bool × ClientImplementation}

theorem ok (h : Lives client next) : Outcome client (true, next) := ⟨h.moves, fun _ => h⟩

theorem failed (h : Moves client next) : Outcome client (false, next) := ⟨h, nofun⟩

/-- First something with which the session goes on. -/
theorem after (hfirst : Lives client next) (h : Outcome next outcome) : Outcome client outcome :=
  ⟨hfirst.moves.trans h.moves, fun htrue => hfirst.trans (h.lives htrue)⟩

end Outcome

/-! ### The events of moves -/

theorem Live.descriptor (h : Live client next) : next.descriptor = client.descriptor := by
  cases h with
  | quiet h => exact h.descriptor
  | greeted h => exact h.descriptor
  | sent _ _ _ _ =>
    unfold advance
    dsimp only
    split_ifs <;> rfl

theorem Lives.descriptor (h : Lives client next) : next.descriptor = client.descriptor := by
  induction h with
  | refl => rfl
  | tail _ hlive ih => exact hlive.descriptor.trans ih

/-- An event of a session that goes on. -/
inductive Serving : SocketEvent → Prop
  | sent (socket : ℕ) (bytes : Bytes) : Serving (.sent socket bytes)
  | greeted (connected : Bool) (held : List UInt64) (epoch : UInt64) :
      Serving (.greeted connected held epoch)

/-- An event of any move. -/
inductive Moving : SocketEvent → Prop
  | serving {event : SocketEvent} (h : Serving event) : Moving event
  | invalidated (socket : ℕ) : Moving (.invalidated socket)
  | closed (socket : ℕ) : Moving (.closed socket)

theorem advance_log (client : ClientImplementation) (socket : ℕ) (frame : Bytes)
    (frames : List Bytes) (count : ℕ) : (client.advance socket frame frames count).log =
      client.log ++ [.sent socket ((frame.drop client.outgoingOffset).take count)] := by
  unfold advance
  dsimp only
  split_ifs <;> rfl

theorem Live.log (h : Live client next) :
    ∃ events, next.log = client.log ++ events ∧ ∀ event ∈ events, Serving event := by
  cases h with
  | quiet h => exact ⟨[], by rw [h.log, List.append_nil], nofun⟩
  | greeted h => exact ⟨_, h.log, fun _ hmem => List.mem_singleton.mp hmem ▸ .greeted _ _ _⟩
  | sent _ _ _ _ =>
    exact ⟨_, advance_log _ _ _ _ _, fun _ hmem => List.mem_singleton.mp hmem ▸ .sent _ _⟩

theorem Lives.log (h : Lives client next) :
    ∃ events, next.log = client.log ++ events ∧ ∀ event ∈ events, Serving event := by
  induction h with
  | refl => exact ⟨[], (List.append_nil _).symm, nofun⟩
  | tail _ hlive ih =>
    obtain ⟨first, hfirst, hall⟩ := ih
    obtain ⟨second, hsecond, hrest⟩ := hlive.log
    refine ⟨first ++ second, by rw [hsecond, hfirst, List.append_assoc], fun event hmem => ?_⟩
    exact (List.mem_append.mp hmem).elim (hall event) (hrest event)

theorem Move.log (h : Move client next) :
    ∃ events, next.log = client.log ++ events ∧ ∀ event ∈ events, Moving event := by
  cases h with
  | live h =>
    obtain ⟨events, hlog, hall⟩ := h.log
    exact ⟨events, hlog, fun event hmem => .serving (hall event hmem)⟩
  | invalidated =>
    refine ⟨_, rfl, fun event hmem => ?_⟩
    obtain ⟨socket, -, rfl⟩ := Option.map_eq_some_iff.mp (Option.mem_toList.mp hmem)
    exact .invalidated socket
  | disconnected =>
    refine ⟨_, rfl, fun event hmem => ?_⟩
    obtain ⟨socket, -, rfl⟩ := Option.map_eq_some_iff.mp (Option.mem_toList.mp hmem)
    exact .closed socket

theorem Moves.log (h : Moves client next) :
    ∃ events, next.log = client.log ++ events ∧ ∀ event ∈ events, Moving event := by
  induction h with
  | refl => exact ⟨[], (List.append_nil _).symm, nofun⟩
  | tail _ hmove ih =>
    obtain ⟨first, hfirst, hall⟩ := ih
    obtain ⟨second, hsecond, hrest⟩ := hmove.log
    refine ⟨first ++ second, by rw [hsecond, hfirst, List.append_assoc], fun event hmem => ?_⟩
    exact (List.mem_append.mp hmem).elim (hall event) (hrest event)

/-! ### Quiet changes -/

theorem Quiet.lives (h : Quiet client next) : Lives client next := .single (.quiet h)

/-- Options, request ids, acknowledgements, the status and the error of the last call. -/
theorem quiet_bookkeeping (client : ClientImplementation) (options : ClientOptions)
    (nextRequestId : UInt32) (status : StatusPayload) (acknowledgements : List (UInt32 × AckStatus))
    (heartbeatRequests : List UInt32) (lastError : ClientError) (lastServerStatus : AckStatus)
    (lastErrorMessage : String) :
    Quiet client { client with
      options, nextRequestId, status, acknowledgements, heartbeatRequests, lastError
      lastServerStatus, lastErrorMessage } :=
  ⟨rfl, rfl, rfl, rfl, rfl, rfl, rfl, rfl, rfl, id, fun _ => .inl, id⟩

theorem quiet_disabled (client : ClientImplementation) :
    Quiet client { client with outputsEnabled := false } :=
  ⟨rfl, rfl, rfl, rfl, rfl, rfl, rfl, rfl, rfl, nofun, fun _ => .inl, id⟩

theorem quiet_fail (client : ClientImplementation) (error : ClientError) (message : String)
    (status : AckStatus) : Quiet client (client.fail error message status).2 :=
  quiet_bookkeeping ..

theorem moves_fail (h : Moves client next) (error : ClientError) (message : String)
    (status : AckStatus) : Moves client (next.fail error message status).2 :=
  h.trans (quiet_fail next error message status).lives.moves

theorem outcome_fail (h : Moves client next) (error : ClientError) (message : String)
    (status : AckStatus) : Outcome client (next.fail error message status) :=
  .failed (moves_fail h error message status)

theorem moves_handleDisconnect (h : Moves client next) : Moves client next.handleDisconnect :=
  h.tail (.disconnected next)

/-! ### Sending -/

theorem outcome_flush (client : ClientImplementation) (results : List SendResult) :
    Outcome client (client.flush results) := by
  induction results generalizing client with
  | nil => exact ⟨.refl, fun _ => .refl⟩
  | cons result results ih =>
    rw [flush]
    split
    · exact .failed .refl
    · exact .ok .refl
    · rename_i socket frame frames hdescriptor houtgoing
      cases result with
      | interrupted => exact ih client
      | failed => exact outcome_fail (moves_handleDisconnect .refl) _ _ _
      | sent count =>
        dsimp only
        split_ifs with hcount
        · exact outcome_fail (moves_handleDisconnect .refl) _ _ _
        · exact (ih _).after (.single (.sent hdescriptor houtgoing (by omega) (by omega)))

/-! ### Receiving -/

theorem mem_pushBounded {α : Type} {maximum : ℕ} {queue : List α} {entry x : α}
    (h : x ∈ pushBounded maximum queue entry) : x ∈ queue ∨ x = entry := by
  unfold pushBounded at h
  rcases List.mem_append.mp h with h | h
  · split_ifs at h
    · exact .inl (List.mem_of_mem_tail h)
    · exact .inl h
  · exact .inr (List.mem_singleton.mp h)

theorem mem_held {epoch : UInt64} : epoch ∈ client.held ↔
    (∃ input ∈ client.inputs, input.epoch = epoch) ∨
      (∃ information ∈ client.busInformation, information.epoch = epoch) ∨
      (∃ assembly ∈ client.assemblies, assembly.epoch = epoch) ∨
      ∃ image ∈ client.inputImages, image.epoch = epoch := by
  simp only [held, List.mem_append, List.mem_map, or_assoc]

/-- The epochs of the assembler are held. -/
theorem epochs_held (client : ClientImplementation) : client.toInputAssembler.Epochs fun epoch =>
    epoch ∈ client.held ∨ epoch = client.epoch :=
  ⟨fun assembly hmem => .inl (mem_held.mpr (.inr (.inr (.inl ⟨assembly, hmem, rfl⟩)))),
    fun image hmem => .inl (mem_held.mpr (.inr (.inr (.inr ⟨image, hmem, rfl⟩))))⟩

/-- A chunk of the session's epoch is received. -/
theorem quiet_input {input : PdoInputPayload} (h : input.epoch = client.epoch) :
    Quiet client { client with
      toInputAssembler := client.toInputAssembler.assembleInput input
      inputs := pushBounded kMaximumReceivedInputs client.inputs input } := by
  refine ⟨rfl, rfl, rfl, rfl, rfl, rfl, rfl, rfl, rfl, id, ?_, id⟩
  have hassembled : (client.toInputAssembler.assembleInput input).Epochs fun epoch =>
      epoch ∈ client.held ∨ epoch = client.epoch := client.epochs_held.assembleInput (.inr h)
  intro epoch hepoch
  rcases mem_held.mp hepoch with ⟨other, hmem, rfl⟩ | ⟨information, hmem, rfl⟩ |
    ⟨assembly, hmem, rfl⟩ | ⟨image, hmem, rfl⟩
  · rcases mem_pushBounded hmem with hmem | rfl
    · exact .inl (mem_held.mpr (.inl ⟨other, hmem, rfl⟩))
    · exact .inr h
  · exact .inl (mem_held.mpr (.inr (.inl ⟨information, hmem, rfl⟩)))
  · exact hassembled.assemblies assembly hmem
  · exact hassembled.images image hmem

/-- A record of the session's epoch is received. -/
theorem quiet_busInfo {information : BusInfoPayload} (h : information.epoch = client.epoch) :
    Quiet client { client with
      busInformation :=
        pushBounded kMaximumReceivedBusInformation client.busInformation information } := by
  refine ⟨rfl, rfl, rfl, rfl, rfl, rfl, rfl, rfl, rfl, id, ?_, id⟩
  intro epoch hepoch
  rcases mem_held.mp hepoch with hold | ⟨other, hmem, rfl⟩ | hold
  · exact .inl (mem_held.mpr (.inl hold))
  · rcases mem_pushBounded hmem with hmem | rfl
    · exact .inl (mem_held.mpr (.inr (.inl ⟨other, hmem, rfl⟩)))
    · exact .inr h
  · exact .inl (mem_held.mpr (.inr (.inr hold)))

theorem epoch_of_decodeHelloAck {payload : Bytes} {acknowledgement : HelloAckPayload}
    (h : decodeHelloAckPayload payload = some acknowledgement) : acknowledgement.epoch ≠ 0 := by
  simp only [decodeHelloAckPayload, Option.bind_eq_bind, Option.bind_eq_some_iff,
    Option.pure_def, Option.some.injEq] at h
  obtain ⟨_, -, _, -, _, -, _, -, _, -, _, -, epoch, -, _, hepoch, _, -, _, -, rfl⟩ := h
  rintro rfl
  cases hepoch

theorem processHelloAck_ok {cpp greeted : CppClient} {frame : Frame}
    (h : cpp.processHelloAck frame = .ok greeted) :
    greeted.helloReceived = true ∧ greeted.outputsEnabled = false ∧ greeted.epoch ≠ 0 := by
  unfold CppClient.processHelloAck at h
  split at h
  · cases h
  · rename_i acknowledgement hdecode
    split at h
    · cases h
    · dsimp only at h
      split at h
      · cases h
      · cases h
        split_ifs at hdecode
        exact ⟨rfl, rfl, epoch_of_decodeHelloAck hdecode⟩

theorem outcome_processAck (client : ClientImplementation) (requestId : UInt32)
    (status : AckStatus) : Outcome client (client.processAck requestId status) := by
  unfold processAck
  split
  · have hheartbeat : Quiet client { client with
        heartbeatRequests := client.heartbeatRequests.erase requestId } := quiet_bookkeeping ..
    dsimp only
    split_ifs
    · exact outcome_fail (hheartbeat.lives.moves.tail (.invalidated _ _)) _ _ _
    · exact .ok hheartbeat.lives
  · have hacknowledged : Quiet client { client with
        acknowledgements := pushBounded 128 client.acknowledgements (requestId, status)
        lastServerStatus := status } := quiet_bookkeeping ..
    exact .ok hacknowledged.lives

theorem outcome_process (client : ClientImplementation) (frame : Frame) :
    Outcome client (client.process frame) := by
  unfold process
  split
  · -- HelloAck
    split
    · exact outcome_fail .refl _ _ _
    · rename_i greeted hgreeted
      obtain ⟨hreceived, hdisabled, hepoch⟩ := processHelloAck_ok hgreeted
      exact .ok (.single (.greeted
        ⟨rfl, rfl, rfl, hreceived, hepoch, rfl, rfl, rfl, hdisabled, rfl, rfl⟩))
  · -- Status
    split
    · exact outcome_fail .refl _ _ _
    · rename_i decoded _
      split_ifs
      · have hstatus : Quiet (client.invalidateSession decoded.epoch)
            { client.invalidateSession decoded.epoch with status := decoded } := quiet_bookkeeping ..
        exact .failed ((ReflTransGen.single (.invalidated client _)).trans hstatus.lives.moves)
      · have hstatus : Quiet client { client with status := decoded } := quiet_bookkeeping ..
        exact .ok hstatus.lives
  · -- Ack
    split
    · exact outcome_fail .refl _ _ _
    · exact outcome_processAck client _ _
  · -- Error
    split
    · exact outcome_fail .refl _ _ _
    · exact outcome_processAck client _ _
  · -- PdoInput
    split
    · exact outcome_fail .refl _ _ _
    · split_ifs with hepoch
      · exact .ok .refl
      · exact .ok (quiet_input (not_not.mp hepoch)).lives
  · -- BusInfo
    split
    · exact outcome_fail .refl _ _ _
    · split_ifs with hepoch
      · exact .ok .refl
      · exact .ok (quiet_busInfo (not_not.mp hepoch)).lives
  · -- OutputsDisabled
    split
    · exact outcome_fail .refl _ _ _
    · rename_i disabled _
      have hdisabled := quiet_disabled client
      dsimp only
      split_ifs
      · exact .failed (hdisabled.lives.moves.tail (.invalidated _ _))
      · exact .ok hdisabled.lives
  · exact outcome_fail .refl _ _ _

theorem outcome_processAll (client : ClientImplementation) (frames : List Frame) :
    Outcome client (client.processAll frames) := by
  induction frames generalizing client with
  | nil => exact .ok .refl
  | cons frame frames ih =>
    have hprocess := outcome_process client frame
    rw [processAll]
    split
    · rename_i next heq
      rw [heq] at hprocess
      exact (ih next).after (hprocess.lives rfl)
    · rename_i next heq
      rw [heq] at hprocess
      exact .failed (moves_handleDisconnect hprocess.moves)

theorem outcome_read (client : ClientImplementation) (results : List RecvResult) :
    Outcome client (client.read results) := by
  induction results generalizing client with
  | nil => exact .ok .refl
  | cons result results ih =>
    cases result with
    | interrupted => exact ih client
    | failed => exact outcome_fail (moves_handleDisconnect .refl) _ _ _
    | received bytes =>
      rw [read]
      split_ifs
      · exact outcome_fail (moves_handleDisconnect .refl) _ _ _
      split
      · have hreset : Moves client client.handleDisconnect := moves_handleDisconnect .refl
        exact outcome_fail hreset _ _ _
      · rename_i frames decoder hfeed
        have hdecoder : Quiet client { client with decoder } :=
          ⟨rfl, rfl, rfl, rfl, rfl, rfl, rfl, rfl, rfl, id, fun _ => .inl,
            fun _ => FrameDecoder.settled_of_feed hfeed⟩
        have hall := (outcome_processAll { client with decoder } frames).after hdecoder.lives
        split
        · rename_i next heq
          rw [heq] at hall
          exact (ih next).after (hall.lives rfl)
        · rename_i next heq
          rw [heq] at hall
          exact hall

theorem outcome_serve (client : ClientImplementation) (writable readable : Bool)
    (sends : List SendResult) (receives : List RecvResult) :
    Outcome client (client.serve writable readable sends receives) := by
  have hflush : Outcome client (if writable then client.flush sends else (true, client)) := by
    cases writable with
    | true => exact outcome_flush client sends
    | false => exact .ok .refl
  unfold serve
  split
  · rename_i next heq
    rw [heq] at hflush
    exact hflush
  · rename_i next heq
    rw [heq] at hflush
    refine .after (hflush.lives rfl) ?_
    split_ifs
    · exact outcome_read next receives
    · exact .ok .refl

theorem outcome_pumpUntil (client : ClientImplementation) (pump : Pump) :
    Outcome client (client.pumpUntil pump) := by
  have hflush := outcome_flush client pump.sends
  unfold pumpUntil
  split
  · rename_i next heq
    rw [heq] at hflush
    exact hflush
  · rename_i next heq
    rw [heq] at hflush
    refine .after (hflush.lives rfl) ?_
    split_ifs
    · exact .failed .refl
    split
    · exact .ok .refl
    · exact .failed .refl
    · exact .failed .refl
    · split_ifs
      · exact .failed (moves_handleDisconnect .refl)
      · exact outcome_serve next _ _ _ _

/-! ### Requests and the handshake -/

theorem connected_of_requireController (h : client.requireController = true) :
    client.connected = true := by
  simp only [requireController, Bool.and_eq_true] at h
  exact h.1.1

theorem queue_cases (client : ClientImplementation) (frame : Bytes) :
    (∃ socket, client.descriptor = some socket ∧ frame ≠ [] ∧
        client.queue frame = (true, client.enqueue socket frame)) ∨
      ∃ next, client.queue frame = (false, next) ∧ Quiet client next := by
  unfold queue
  split
  · exact .inr ⟨_, rfl, quiet_fail client _ _ _⟩
  · rename_i socket hsocket
    split_ifs with hfull
    · exact .inr ⟨_, rfl, quiet_fail client _ _ _⟩
    · exact .inl ⟨socket, hsocket, fun hnil => hfull (.inl hnil), rfl⟩

/-- The wait for an acknowledgement: it arrives while the session goes on, or the session
is ended. -/
theorem await_cases (client : ClientImplementation) (requestId : UInt32) (passes : List Pump) :
    Lives client (client.await requestId passes).2 ∨
      ((client.await requestId passes).1 = .internalError ∧
        ∃ next, Moves client next ∧ (client.await requestId passes).2 =
          (next.handleDisconnect.fail .timeout "request timed out").2) := by
  induction passes generalizing client with
  | nil => exact .inr ⟨rfl, client, .refl, rfl⟩
  | cons pass passes ih =>
    rw [await]
    split
    · rename_i acknowledgement _
      have hfound : Quiet client { client with
          acknowledgements := client.acknowledgements.erase acknowledgement } := quiet_bookkeeping ..
      exact .inl hfound.lives
    · have hpump := outcome_pumpUntil client pass
      split
      · rename_i next heq
        rw [heq] at hpump
        rcases ih next with hlives | ⟨hstatus, last, hmoves, hlast⟩
        · exact .inl ((hpump.lives rfl).trans hlives)
        · exact .inr ⟨hstatus, last, hpump.moves.trans hmoves, hlast⟩
      · rename_i next heq
        rw [heq] at hpump
        exact .inr ⟨rfl, next, hpump.moves, rfl⟩

theorem moves_await (client : ClientImplementation) (requestId : UInt32) (passes : List Pump) :
    Moves client (client.await requestId passes).2 := by
  rcases await_cases client requestId passes with hlives | ⟨-, next, hmoves, heq⟩
  · exact hlives.moves
  · rw [heq]
    exact moves_fail (moves_handleDisconnect hmoves) _ _ _

theorem lives_of_await_ok {requestId : UInt32} {passes : List Pump}
    (h : client.await requestId passes = (.ok, next)) : Lives client next := by
  rcases await_cases client requestId passes with hlives | ⟨hstatus, -⟩
  · rw [h] at hlives
    exact hlives
  · rw [h] at hstatus
    cases hstatus

/-- The wait for the HelloAck: if it arrives, the session goes on. -/
theorem awaitHello_cases (hnot : client.helloReceived = false) (passes : List Pump) :
    Lives client (client.awaitHello passes) ∨
      (client.awaitHello passes).helloReceived = false ∧
        Moves client (client.awaitHello passes) := by
  induction passes generalizing client with
  | nil => exact .inl .refl
  | cons pass passes ih =>
    rw [awaitHello, if_neg (by rw [hnot]; decide)]
    have hpump := outcome_pumpUntil client pass
    split
    · rename_i next heq
      rw [heq] at hpump
      by_cases hreceived : next.helloReceived = true
      · have hdone : next.awaitHello passes = next := by
          cases passes with
          | nil => rfl
          | cons _ _ => rw [awaitHello, if_pos hreceived]
        rw [hdone]
        exact .inl (hpump.lives rfl)
      · rcases ih (Bool.eq_false_of_not_eq_true hreceived) with hlives | ⟨hnone, hmoves⟩
        · exact .inl ((hpump.lives rfl).trans hlives)
        · exact .inr ⟨hnone, hpump.moves.trans hmoves⟩
    · rename_i next heq
      rw [heq] at hpump
      exact .inr ⟨pumpUntil_false heq hnot, hpump.moves⟩

theorem moves_drainOutgoing (client : ClientImplementation) (passes : List (List SendResult)) :
    Moves client (client.drainOutgoing passes) := by
  induction passes generalizing client with
  | nil => exact .refl
  | cons pass passes ih =>
    rw [drainOutgoing]
    split_ifs
    · exact .refl
    · have hflush := outcome_flush client pass
      split
      · rename_i next heq
        rw [heq] at hflush
        exact hflush.moves.trans (ih next)
      · rename_i next heq
        rw [heq] at hflush
        exact hflush.moves

end EcSystemCore.ClientImplementation
