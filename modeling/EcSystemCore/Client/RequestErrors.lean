import EcSystemCore.Client.Acknowledged

/-!
# Errors of refused requests

`FailForRequestStatus` takes a transport error in `lastError_` for the outcome of the request and
leaves it.  But a request that is answered does not touch `lastError_` (`lastError_of_await`), so
that what it finds there is the error of an earlier call.
-/

namespace EcSystemCore

/-- The errors `FailForRequestStatus` leaves. -/
def ClientError.isTransport (error : ClientError) : Bool :=
  error = .timeout ∨ error = .notConnected ∨ error = .socketError ∨ error = .protocolError ∨
    error = .outOfMemory

namespace ClientImplementation

open Execution

variable {client next : ClientImplementation}

theorem lastError_of_flush {results : List SendResult} (h : client.flush results = (true, next)) :
    next.lastError = client.lastError := by
  induction results generalizing client with
  | nil =>
    obtain ⟨-, rfl⟩ := Prod.mk.inj h
    rfl
  | cons result results ih =>
    rw [flush] at h
    split at h
    · cases h
    · cases h
      rfl
    · cases result with
      | interrupted => exact ih h
      | failed => cases h
      | sent count =>
        dsimp only at h
        split_ifs at h
        · cases h
        · refine (ih h).trans ?_
          unfold advance
          dsimp only
          split_ifs <;> rfl

theorem lastError_of_process {frame : Frame} (h : client.process frame = (true, next)) :
    next.lastError = client.lastError := by
  unfold process processAck at h
  dsimp only at h
  split at h
  all_goals
    repeat' split at h
    all_goals cases h <;> rfl

theorem lastError_of_processAll {frames : List Frame}
    (h : client.processAll frames = (true, next)) : next.lastError = client.lastError := by
  induction frames generalizing client with
  | nil =>
    cases h
    rfl
  | cons frame frames ih =>
    rw [processAll] at h
    split at h
    · rename_i processed hprocess
      exact (ih h).trans (lastError_of_process hprocess)
    · cases h

theorem lastError_of_read {results : List RecvResult} (h : client.read results = (true, next)) :
    next.lastError = client.lastError := by
  induction results generalizing client with
  | nil =>
    cases h
    rfl
  | cons result results ih =>
    cases result with
    | interrupted => exact ih h
    | failed => cases h
    | received bytes =>
      rw [read] at h
      split at h
      · cases h
      · split at h
        · cases h
        · split at h
          · rename_i processed hprocess
            have hsame := lastError_of_processAll hprocess
            exact (ih h).trans hsame
          · cases h

/-- A pass that goes well leaves the error of an earlier call. -/
theorem lastError_of_pumpUntil {pump : Pump} (h : client.pumpUntil pump = (true, next)) :
    next.lastError = client.lastError := by
  unfold pumpUntil at h
  split at h
  · cases h
  · rename_i flushed hflush
    refine Eq.trans ?_ (lastError_of_flush hflush)
    split at h
    · cases h
    · split at h
      · cases h
        rfl
      · cases h
      · cases h
      · rename_i hangup writable readable _
        split at h
        · cases h
        · unfold serve at h
          split at h
          · cases h
          · rename_i served hserved
            have hsends : served.lastError = flushed.lastError := by
              split at hserved
              · exact lastError_of_flush hserved
              · cases hserved
                rfl
            refine Eq.trans ?_ hsends
            split at h
            · exact lastError_of_read h
            · cases h
              rfl

/-- The passes go well until an acknowledgement of the request is there, with this status. -/
def answered (client : ClientImplementation) (requestId : UInt32) (status : AckStatus) :
    List Pump → Bool
  | [] => false
  | pass :: passes =>
    match client.acknowledgements.find? (·.1 = requestId) with
    | some acknowledgement => acknowledgement.2 = status
    | none => (client.pumpUntil pass).1 && (client.pumpUntil pass).2.answered requestId status passes

theorem lastError_of_await {requestId : UInt32} {status : AckStatus} {passes : List Pump}
    (h : client.answered requestId status passes = true) :
    (client.await requestId passes).1 = status ∧
      (client.await requestId passes).2.lastError = client.lastError := by
  induction passes generalizing client with
  | nil => cases h
  | cons pass passes ih =>
    unfold answered at h
    unfold await
    cases hfound : client.acknowledgements.find? (·.1 = requestId) with
    | some acknowledgement =>
      rw [hfound] at h
      exact ⟨of_decide_eq_true h, rfl⟩
    | none =>
      rw [hfound] at h
      obtain ⟨hpass, hrest⟩ := Bool.and_eq_true_iff.mp h
      obtain ⟨hstatus, herror⟩ := ih hrest
      have hpump : client.pumpUntil pass = (true, (client.pumpUntil pass).2) := Prod.ext hpass rfl
      rw [hpump]
      exact ⟨hstatus, herror.trans (lastError_of_pumpUntil hpump)⟩

/-- **A refused request reports its status exactly if no transport error was left behind.** -/
theorem refused_reports_status_iff (client asked : ClientImplementation) (request : OutputRequest)
    (passes : List Pump) (status : AckStatus) (allowed : request.Allowed client)
    (asks : request.Asks client asked) (refused : status ≠ .ok)
    (answer : asked.answered client.takeRequestId.1 status passes = true) :
    ((request.issue client passes).1 = false ∧
      (request.issue client passes).2.lastError = errorForStatus status ∧
      (request.issue client passes).2.lastServerStatus = status) ↔
    client.lastError.isTransport = false := by
  obtain ⟨message, onOk, hissue⟩ := OutputRequest.issue_eq allowed
  obtain ⟨hstatus, herror⟩ := lastError_of_await answer
  have hasked : asked.lastError = client.lastError := by
    rcases queue_cases client.takeRequestId.2 (encodeFrame request.type client.takeRequestId.1
      (request.payload client.epoch)) with ⟨socket, -, -, hqueue⟩ | ⟨failed, hqueue, -⟩
    · obtain ⟨-, rfl⟩ := Prod.mk.inj (hqueue.symm.trans asks)
      rfl
    · cases hqueue.symm.trans asks
  have hcall : request.issue client passes = (asked.await client.takeRequestId.1
      passes).2.failForRequestStatus status message := by
    rw [hissue, requestCall]
    dsimp only
    rw [ClientImplementation.request, asks]
    dsimp only
    split
    · rename_i acknowledged hok
      exact absurd (hstatus.symm.trans (by rw [hok])) refused
    · rename_i other acknowledged hnot hother
      rw [hother] at hstatus ⊢
      cases hstatus
      rfl
  have hrejected : errorForStatus status = .serverRejected := if_neg refused
  rw [hcall, failForRequestStatus, herror, hasked, hrejected, ClientError.isTransport]
  split_ifs with htransport
  · rw [decide_eq_true htransport]
    refine ⟨fun hreported => ?_, fun hfalse => absurd hfalse (by decide)⟩
    rw [← hasked, ← herror, hreported.2.1] at htransport
    simp at htransport
  · rw [decide_eq_false htransport]
    exact ⟨fun _ => rfl, fun _ => ⟨rfl, rfl, rfl⟩⟩

/-- The calls of a controller that tries to write before it has enabled its outputs. -/
def earlyWriteCalls : List ClientCall := connectingCalls ++ [.writeOutput 0 1 0 [5] []]

/-- The daemon answers request 2 with Busy. -/
def busyPasses : List Pump := [arrival (acknowledgementFrame false 2 .busy 0), {}]

/-- The daemon refuses to enable outputs, but the client reports the earlier write. -/
theorem refused_after_early_write :
    (final perform (create {} 50) earlyWriteCalls).requireController = true ∧
      ((final perform (create {} 50) earlyWriteCalls).takeRequestId.2.queue (encodeFrame
        .outputEnable 2 (encodeOutputEnablePayload ⟨7, true⟩))).2.answered 2 .busy busyPasses =
        true ∧
      ((final perform (create {} 50) earlyWriteCalls).enableOutputs true busyPasses).1 = false ∧
      ((final perform (create {} 50) earlyWriteCalls).enableOutputs true busyPasses).2.lastError =
        .notConnected := by
  decide +kernel

theorem refused_reports_status_connected :
    ((final perform (create {} 50) connectingCalls).enableOutputs true busyPasses).2.lastError =
        errorForStatus .busy ∧
      ((final perform (create {} 50) connectingCalls).enableOutputs true
        busyPasses).2.lastServerStatus = .busy := by
  refine ((refused_reports_status_iff (final perform (create {} 50) connectingCalls)
    ((final perform (create {} 50) connectingCalls).takeRequestId.2.queue (encodeFrame
      .outputEnable 2 (encodeOutputEnablePayload ⟨7, true⟩))).2 (.enableOutputs true) busyPasses
    .busy ⟨by decide +kernel, trivial⟩ (by unfold OutputRequest.Asks; decide +kernel) (by decide)
    (by decide +kernel)).mpr (by decide +kernel)).2

end ClientImplementation

end EcSystemCore
