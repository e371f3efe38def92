import EcSystemCore.Daemon.State

/-!
# Reply queues and closing connections

`QueueFrame`, `QueueFramesAtomically`, `FlushClient`, `CloseClient`,
`BroadcastOutputsDisabled` and `AdvanceEpoch`.

Three of them call each other: closing the lease holder broadcasts, a broadcast
queues a frame on every connection, and a connection whose queue is full is
closed.  `queueSharedFrame` and `broadcastWith` take the closing function as an
argument, and `closeClientWithin` bounds the nesting by a counter; `closeClient`
gives it one more than there are connections.  `closeClient_eq` says that this is
enough: the source's equation holds, because a close that broadcasts has dropped the
lease and none of the closes inside can broadcast again.
-/

namespace EcSystemCore

/-- `kMaximumClientOutputBytes`. -/
def kMaximumClientOutputBytes : ℕ := 2 * 1024 * 1024

namespace ClientConnection

/-- What `CloseClient` does to the connection itself. -/
def shut (client : ClientConnection) : ClientConnection :=
  { client with isOpen := false, outgoing := [], outgoingBytes := 0 }

/-- There is no room for that many more bytes. -/
def overfull (client : ClientConnection) (bytes : ℕ) : Bool :=
  bytes > kMaximumClientOutputBytes - min client.outgoingBytes kMaximumClientOutputBytes

/-- Count an optional frame that was dropped. -/
def dropOptional (now : TimePoint) (client : ClientConnection) : ClientConnection :=
  { client with
    firstOptionalDrop := if client.optionalQueueDrops = 0 then now else client.firstOptionalDrop
    optionalQueueDrops := client.optionalQueueDrops + 1 }

/-- The drops have lasted long enough to close the connection. -/
def dropsExceeded (now : TimePoint) (client : ClientConnection) : Bool :=
  client.optionalQueueDrops ≥ 100 || now - client.firstOptionalDrop ≥ 5 * 1000000000

/-- Append one frame to the queue. -/
def enqueue (frame : Bytes) (required : Bool) (client : ClientConnection) : ClientConnection :=
  { client with
    optionalQueueDrops :=
      if !required && client.outgoingBytes < kMaximumClientOutputBytes / 4 then 0
      else client.optionalQueueDrops
    outgoingBytes := client.outgoingBytes + frame.length
    outgoing := client.outgoing ++ [frame] }

/-- Append the frames of one snapshot to the queue. -/
def enqueueAll (frames : List Bytes) (totalBytes : ℕ) (client : ClientConnection) :
    ClientConnection :=
  { client with
    outgoing := client.outgoing ++ frames
    outgoingBytes := client.outgoingBytes + totalBytes }

/-- Account for bytes `send` has taken. -/
def advanceOutput (count : ℕ) (client : ClientConnection) : ClientConnection :=
  let offset := client.outgoingOffset + count
  let finished := offset = (client.outgoing.headD []).length
  { client with
    outgoingBytes := client.outgoingBytes - count
    outgoing := if finished then client.outgoing.tail else client.outgoing
    outgoingOffset := if finished then 0 else offset }

end ClientConnection

namespace Daemon

/-! ### Queueing and closing -/

/-- Drop an optional frame, and close the connection when too many were dropped. -/
def dropFrame (close : Daemon → ℕ → Daemon) (env : LoopEnv) (d : Daemon) (index : ℕ) : Daemon :=
  let now := env.now d.tick
  let next := d.ticked.updateClient index (·.dropOptional now)
  if (next.clients[index]?).any (·.dropsExceeded now) then close next index else next

/-- `QueueFrame` of a shared frame: whether it was queued. -/
def queueSharedFrame (close : Daemon → ℕ → Daemon) (env : LoopEnv) (d : Daemon) (index : ℕ)
    (frame : Bytes) (required : Bool) : Bool × Daemon :=
  match d.clients[index]? with
  | none => (false, d)
  | some client =>
    if !client.isOpen || frame.isEmpty || client.overfull frame.length then
      (false, if required then close d index else dropFrame close env d index)
    else (true, d.updateClient index (·.enqueue frame required))

/-- Queue an optional frame on every connection that has completed its Hello. -/
def broadcastWith (close : Daemon → ℕ → Daemon) (env : LoopEnv) (frame : Bytes) (d : Daemon) :
    Daemon :=
  let send (d : Daemon) (index : ℕ) : Daemon :=
    if (d.clients[index]?).any fun client => client.helloReceived && client.isOpen then
      (queueSharedFrame close env d index frame false).2
    else d
  (List.range d.clients.length).foldl send d

/-- The frame `BroadcastOutputsDisabled` sends. -/
def outputsDisabledFrame (d : Daemon) (reason : DisableReason) (busIndex : UInt16) : Bytes :=
  encodeFrame .outputsDisabled 0
    (encodeOutputsDisabledPayload ⟨reason, busIndex, d.safety.epoch⟩)

/-- `CloseClient` with a bound on its nesting. -/
def closeClientWithin (env : LoopEnv) : ℕ → Daemon → ℕ → Daemon
  | 0, d, _ => d
  | fuel + 1, d, index =>
    match d.clients[index]? with
    | none => d
    | some client =>
      if !client.isOpen then d
      else
        let closed := (d.updateClient index (·.shut)).updateInputPublicationDemand
        if d.safety.controllerId = some client.id then
          let (result, dropped) := closed.react (.disconnect client.id)
          if result.epochChanged then
            let applied := dropped.applySafetyToBuses env
            broadcastWith (closeClientWithin env fuel) env
              (applied.outputsDisabledFrame .disconnect 0xffff) applied
          else dropped
        else closed

/-- `CloseClient`. -/
def closeClient (env : LoopEnv) (d : Daemon) (index : ℕ) : Daemon :=
  closeClientWithin env (d.clients.length + 1) d index

/-- `BroadcastOutputsDisabled`. -/
def broadcastOutputsDisabled (env : LoopEnv) (d : Daemon) (reason : DisableReason)
    (busIndex : UInt16) : Daemon :=
  broadcastWith (closeClient env) env (d.outputsDisabledFrame reason busIndex) d

/-! ### The nesting ends -/

/-- No lease is held. -/
def LeaseFree (d : Daemon) : Prop := d.safety.controllerId = none

/-- Without a lease closing a connection does not change the gate. -/
theorem closeClientWithin_safety {env : LoopEnv} {d : Daemon} (h : d.LeaseFree) (fuel : ℕ)
    (index : ℕ) : (closeClientWithin env fuel d index).safety = d.safety := by
  cases fuel with
  | zero => rfl
  | succ fuel =>
    unfold LeaseFree at h
    unfold closeClientWithin
    split
    · rfl
    · split
      · rfl
      · rw [if_neg (by simp [h])]
        rfl

/-- Without a lease `CloseClient` does not call itself. -/
theorem closeClientWithin_of_leaseFree {env : LoopEnv} {d : Daemon} (h : d.LeaseFree)
    (m n index : ℕ) :
    closeClientWithin env (m + 1) d index = closeClientWithin env (n + 1) d index := by
  unfold LeaseFree at h
  simp only [closeClientWithin, h, reduceCtorEq, if_false]

section Nesting

variable {close close' : Daemon → ℕ → Daemon}
  (same : ∀ {d : Daemon}, d.LeaseFree → ∀ index, close d index = close' d index)
  (stays : ∀ {d : Daemon}, d.LeaseFree → ∀ index, (close d index).safety = d.safety)

include same

theorem queueSharedFrame_congr {env : LoopEnv} {d : Daemon} (h : d.LeaseFree) (index : ℕ) (frame : Bytes)
    (required : Bool) :
    queueSharedFrame close env d index frame required =
      queueSharedFrame close' env d index frame required := by
  have hticked : (d.ticked.updateClient index (·.dropOptional (env.now d.tick))).LeaseFree := h
  simp only [queueSharedFrame, dropFrame, same h, same hticked]

omit same in
include stays in
theorem queueSharedFrame_safety (env : LoopEnv) {d : Daemon} (h : d.LeaseFree) (index : ℕ) (frame : Bytes)
    (required : Bool) :
    (queueSharedFrame close env d index frame required).2.safety = d.safety := by
  have hticked : (d.ticked.updateClient index (·.dropOptional (env.now d.tick))).LeaseFree := h
  unfold queueSharedFrame
  split
  · rfl
  · split
    · cases required with
      | true => exact stays h index
      | false =>
        simp only [dropFrame, Bool.false_eq_true, if_false]
        split
        · exact stays hticked index
        · rfl
    · rfl

omit same in
include stays in
/-- Without a lease a broadcast does not change the gate. -/
theorem broadcastWith_safety (env : LoopEnv) {d : Daemon} (h : d.LeaseFree) (frame : Bytes) :
    (broadcastWith close env frame d).safety = d.safety := by
  unfold broadcastWith
  generalize List.range d.clients.length = indices
  induction indices generalizing d with
  | nil => rfl
  | cons index indices ih =>
    rw [List.foldl_cons]
    split
    · have hqueued := queueSharedFrame_safety stays env h index frame false
      rw [ih (by unfold LeaseFree; rw [hqueued]; exact h), hqueued]
    · exact ih h

include stays in
/-- A broadcast depends on how connections are closed only as far as closing without
a lease goes. -/
theorem broadcastWith_congr {env : LoopEnv} {d : Daemon} (h : d.LeaseFree) (frame : Bytes) :
    broadcastWith close env frame d = broadcastWith close' env frame d := by
  unfold broadcastWith
  -- the loop's invariant: no lease is held
  generalize List.range d.clients.length = indices
  induction indices generalizing d with
  | nil => rfl
  | cons index indices ih =>
    rw [List.foldl_cons, List.foldl_cons]
    split
    · have hqueued := queueSharedFrame_safety stays env h index frame false
      rw [queueSharedFrame_congr same h] at hqueued ⊢
      exact ih (by unfold LeaseFree; rw [hqueued]; exact h)
    · exact ih h

end Nesting

/-- **`CloseClient` satisfies the source's equation**: the bound on its nesting is
never reached. -/
theorem closeClient_eq (env : LoopEnv) (d : Daemon) (index : ℕ) :
    closeClient env d index =
      match d.clients[index]? with
      | none => d
      | some client =>
        if !client.isOpen then d
        else
          let closed := (d.updateClient index (·.shut)).updateInputPublicationDemand
          if d.safety.controllerId = some client.id then
            let (result, dropped) := closed.react (.disconnect client.id)
            if result.epochChanged then
              (dropped.applySafetyToBuses env).broadcastOutputsDisabled env .disconnect 0xffff
            else dropped
          else closed := by
  unfold closeClient
  rw [closeClientWithin]
  cases hclient : d.clients[index]? with
  | none => rfl
  | some client =>
    obtain ⟨k, hk⟩ : ∃ k, d.clients.length = k + 1 :=
      ⟨d.clients.length - 1, by have := (List.getElem?_eq_some_iff.mp hclient).1; omega⟩
    dsimp only
    split
    · rfl
    · split
      · rename_i hheld
        split
        · rename_i hchanged
          rw [hk]
          refine broadcastWith_congr (fun hfree index => ?_)
            (fun hfree index => closeClientWithin_safety hfree _ index) ?_ _
          · exact closeClientWithin_of_leaseFree hfree _ _ _
          · exact congrArg (·.2.controllerId) (SafetyGate.disconnect_of_holder hheld)
        · rfl
      · rfl

/-- `QueueFrame` of a frame that is still to be shared. -/
def queueFrame (env : LoopEnv) (d : Daemon) (index : ℕ) (frame : Bytes) (required : Bool) :
    Bool × Daemon :=
  if env.allocationFails d.tick then
    (false, if required then closeClient env d.ticked index else d.ticked)
  else queueSharedFrame (closeClient env) env d.ticked index frame required

/-- `QueueAck`. -/
def queueAck (env : LoopEnv) (d : Daemon) (index : ℕ) (type : MessageType)
    (requestId : UInt32) (status : AckStatus) (detail : UInt32) (required : Bool) :
    Bool × Daemon :=
  queueFrame env d index (encodeFrame type requestId (encodeAckPayload status detail)) required

/-- `QueueFramesAtomically`. -/
def queueFramesAtomically (env : LoopEnv) (d : Daemon) (index : ℕ) (frames : List Bytes)
    (totalBytes : ℕ) : Bool × Daemon :=
  match d.clients[index]? with
  | none => (false, d)
  | some client =>
    if !client.isOpen || client.overfull totalBytes then
      (false, dropFrame (closeClient env) env d index)
    else (true, d.updateClient index (·.enqueueAll frames totalBytes))

/-! ### Flushing -/

/-- What one `send` answers. -/
inductive SendResult where
  | sent (count : ℕ)
  | interrupted
  | failed
  deriving DecidableEq, Repr

/-- `FlushClient`: `send` answers `EAGAIN` when the list is used up.  It takes no
more than it is given. -/
def flushClient (env : LoopEnv) (index : ℕ) : List SendResult → Daemon → Daemon
  | results, d =>
    match d.clients[index]? with
    | none => d
    | some client =>
      if client.isOpen && !client.outgoing.isEmpty then
        match results with
        | [] => d
        | .interrupted :: rest => flushClient env index rest d
        | .failed :: _ => closeClient env d index
        | .sent count :: rest =>
          let taken := min count ((client.outgoing.headD []).length - client.outgoingOffset)
          if taken = 0 then closeClient env d index
          else flushClient env index rest (d.updateClient index (·.advanceOutput taken))
      else if client.closeAfterWrite && client.outgoing.isEmpty then closeClient env d index
      else d

/-! ### Epoch changes -/

/-- Close the connection once its queue has been sent. -/
def closeAfterWrite (d : Daemon) (index : ℕ) : Daemon :=
  d.updateClient index fun client => { client with closeAfterWrite := true }

/-- The same for the connection that held the lease, if it is still open. -/
def closeHolderAfterWrite (d : Daemon) (controller : Option ClientId) : Daemon :=
  match controller.bind d.findClient with
  | none => d
  | some index => d.closeAfterWrite index

/-- `AdvanceEpoch`. -/
def advanceEpoch (env : LoopEnv) (d : Daemon) (reason : DisableReason) (busIndex : UInt16) :
    Daemon :=
  let applied := (d.react .invalidate).2.applySafetyToBuses env
  (applied.broadcastOutputsDisabled env reason busIndex).closeHolderAfterWrite
    d.safety.controllerId

/-- `AdvanceEpoch` changes the gate by one invalidation. -/
theorem advanceEpoch_safety (env : LoopEnv) (d : Daemon) (reason : DisableReason)
    (busIndex : UInt16) :
    (d.advanceEpoch env reason busIndex).safety = (d.react .invalidate).2.safety := by
  have hfree : ((d.react .invalidate).2.applySafetyToBuses env).LeaseFree := rfl
  have stays : ∀ {m : Daemon}, m.LeaseFree → ∀ index, (closeClient env m index).safety = m.safety :=
    fun hm index => closeClientWithin_safety hm _ index
  have hclosed : ∀ (m : Daemon) (controller : Option ClientId),
      (m.closeHolderAfterWrite controller).safety = m.safety := by
    intro m controller
    unfold closeHolderAfterWrite
    split <;> rfl
  exact (hclosed _ _).trans (broadcastWith_safety stays env hfree _)

end Daemon

end EcSystemCore
