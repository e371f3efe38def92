import EcSystemCore.Lib.Execution
import EcSystemCore.Web.Zip

/-!
# The stream of a ZIP archive

`createStoredZipStream` hands the chunks of the generator to a stream.  The stream pulls one
chunk at a time; its consumer reads chunks, and may cancel.  A pull asks the generator for its
next value, a cancel asks it to return, or closes the files itself if nothing was pulled.

Each point of the generator closes the files that are still open on every way to its end
(`performs_generateStoredZip`), so that every file has been closed when the stream has ended, by
completion, by an error or by a cancel (`ended_stream_has_closed`).
-/

namespace EcSystemCore.Web.Zip

open Coroutine

/-! ### The stream -/

/-- The state of a `ReadableStream`. -/
inductive Status where
  | readable
  | closed
  | errored (error : JsString)
  deriving DecidableEq

/-- The promise of a cancel. -/
inductive Cancel where
  | none
  | pending
  | settled
  deriving DecidableEq

/-- The stream, with the generator behind it. -/
structure Stream where
  generator : Generator Bytes JsString Operation.Answer
  started : Bool
  /-- A pull is pending. -/
  pulling : Bool
  /-- What the pending pull has got from the generator. -/
  got : Option (Reply Bytes JsString)
  /-- The chunks that have not been read. -/
  chunks : List Bytes
  closeRequested : Bool
  status : Status
  cancelled : Cancel
  /-- The files that the cancel has closed itself. -/
  closed : List Handle

/-- What happens to a stream. -/
inductive Event where
  /-- The stream calls `pull`. -/
  | pull
  /-- The operation that the generator awaits is answered. -/
  | answer (response : ∀ operation : Operation, operation.Answer)
  /-- The generator turns to a request that had to wait. -/
  | serve
  /-- `pull` goes on with what it got from the generator. -/
  | receive
  /-- The consumer reads a chunk. -/
  | read
  /-- The consumer cancels the stream. -/
  | cancel
  /-- The files that the cancel closes itself have settled. -/
  | settle

namespace Stream

/-- `controller.error`. -/
def error (s : Stream) (error : JsString) : Stream :=
  if s.status = .readable then { s with status := .errored error, chunks := [] } else s

/-- `controller.enqueue`, where what it throws goes to `controller.error`. -/
def enqueue (s : Stream) (chunk : Bytes) : Stream :=
  if s.status = .readable ∧ s.closeRequested = false then
    { s with chunks := s.chunks ++ [chunk] }
  else s.error (js "Invalid state")

/-- `controller.close`, where what it throws goes to `controller.error`.  The stream closes when
its chunks have been read. -/
def close (s : Stream) : Stream :=
  if s.status = .readable ∧ s.closeRequested = false then
    { s with
      closeRequested := true
      status := if s.chunks = [] then .closed else .readable }
  else s.error (js "Invalid state")

/-- The generator has taken a step; its answer goes to the pull or to the cancel. -/
def take (s : Stream) (answered : Generator.Answered Bytes JsString Operation.Answer) : Stream :=
  match answered.1 with
  | none => { s with generator := answered.2 }
  | some (.next, reply) => { s with generator := answered.2, got := some reply }
  | some (.unwind, _) => { s with generator := answered.2, cancelled := .settled }

/-- The end of `pull`. -/
def resolve (s : Stream) : Reply Bytes JsString → Stream
  | .value chunk => s.enqueue chunk
  | .done => s.close
  | .thrown message => s.error message

end Stream

section

variable (localTime : JsNumber → Option LocalTime) (entries : List OpenZipEntry)

/-- `createStoredZipStream`. -/
def createStoredZipStream : Stream :=
  { generator := .create (generateStoredZip localTime entries)
    started := false
    pulling := false
    got := none
    chunks := []
    closeRequested := false
    status := .readable
    cancelled := .none
    closed := [] }

/-- The stream takes a step. -/
def streamStep (s : Stream) : Event → Option Stream
  | .pull =>
    if s.status = .readable ∧ s.closeRequested = false ∧ s.pulling = false then
      some ({ s with started := true, pulling := true }.take (s.generator.ask .next))
    else none
  | .answer response => (s.generator.answer response).map s.take
  | .serve => s.generator.serve.map s.take
  | .receive => s.got.map ({ s with pulling := false, got := none }.resolve)
  | .read =>
    match s.chunks with
    | [] => none
    | _ :: chunks => some
        { s with
          chunks := chunks
          status := if s.closeRequested = true ∧ chunks = [] then .closed else s.status }
  | .cancel =>
    if s.status = .readable then
      let s := { s with status := .closed, chunks := [], cancelled := .pending }
      if s.started then some (s.take (s.generator.ask .unwind))
      else some { s with closed := s.closed ++ entries.map (·.handle) }
    else none
  | .settle =>
    if s.cancelled = .pending ∧ s.started = false then some { s with cancelled := .settled }
    else none

end

/-! ### Every file is closed -/

/-- The operation closes the file. -/
def Operation.Closes (handle : Handle) : Operation → Prop
  | read _ _ _ => False
  | close other => other = handle
  | closeAll handles => handle ∈ handles

section

variable {openHandles : List Handle} {handle : Handle}

theorem performs_settle (hopen : handle ∈ openHandles) (result : Body) :
    (settle openHandles result).Performs (Operation.Closes handle) := .inl hopen

theorem performs_yielding (hopen : handle ∈ openHandles) (chunk : Bytes) {next : Body}
    (hnext : next.Performs (Operation.Closes handle)) :
    (yielding openHandles chunk next).Performs (Operation.Closes handle) :=
  ⟨hnext, performs_settle hopen _, fun _ => trivial⟩

theorem performs_readFile (hopen : handle ∈ openHandles) (entry : OpenZipEntry) (size : ℕ)
    {next : ℤ → ℕ → Body}
    (hnext : ∀ crc archiveOffset, (next crc archiveOffset).Performs (Operation.Closes handle))
    (fuel : ℕ) (crc : ℤ) (position archiveOffset : ℕ) :
    (readFile openHandles entry size next fuel crc position archiveOffset).Performs
      (Operation.Closes handle) := by
  induction fuel generalizing crc position archiveOffset with
  | zero => exact hnext crc archiveOffset
  | succ fuel ih =>
    unfold readFile
    split
    · refine .inr fun response => ?_
      cases response with
      | error message => exact performs_settle hopen _
      | ok chunk =>
        dsimp only
        split
        · exact performs_settle hopen _
        · exact performs_yielding hopen _ (ih _ _ _)
    · exact hnext crc archiveOffset

/-- What comes behind a file has to close only the other files. -/
theorem performs_closeFile (hopen : handle ∈ openHandles) (entry : OpenZipEntry) (size : ℕ)
    {next : ℤ → ℕ → Body}
    (hnext : handle ≠ entry.handle → ∀ crc archiveOffset,
      (next crc archiveOffset).Performs (Operation.Closes handle))
    (crc : ℤ) (archiveOffset : ℕ) :
    (closeFile openHandles entry size next crc archiveOffset).Performs
      (Operation.Closes handle) := by
  refine performs_yielding hopen _ ?_
  by_cases hentry : handle = entry.handle
  · exact .inl hentry.symm
  · refine .inr fun response => ?_
    cases response with
    | error message => exact performs_settle hopen _
    | ok _ => exact hnext hentry _ _

theorem performs_writeCentral (hopen : handle ∈ openHandles) (entryCount centralOffset : ℕ)
    (centralBytes : ℕ) (central : List CentralEntry) :
    (writeCentral openHandles entryCount centralOffset centralBytes central).Performs
      (Operation.Closes handle) := by
  induction central generalizing centralBytes with
  | nil => exact performs_yielding hopen _ (performs_settle hopen _)
  | cons entry central ih => exact performs_yielding hopen _ (ih _)

theorem performs_writeEntries (localTime : JsNumber → Option LocalTime)
    (hopen : handle ∈ openHandles) (central : List CentralEntry) (archiveOffset : ℕ)
    (entries : List OpenZipEntry) :
    (writeEntries localTime openHandles central archiveOffset entries).Performs
      (Operation.Closes handle) := by
  induction entries generalizing openHandles central archiveOffset with
  | nil => exact performs_writeCentral hopen _ _ _ _
  | cons entry entries ih =>
    unfold writeEntries
    dsimp only
    split
    · exact performs_settle hopen _
    · refine performs_yielding hopen _ (performs_readFile hopen _ _ ?_ _ _ _ _)
      refine performs_closeFile hopen _ _ fun hentry finalCrc nextOffset => ih ?_ _ _
      exact List.mem_filter.mpr ⟨hopen, decide_eq_true hentry⟩

/-- On every way to its end the generator closes the file of each entry. -/
theorem performs_generateStoredZip (localTime : JsNumber → Option LocalTime)
    {entries : List OpenZipEntry} (hentry : handle ∈ entries.map (·.handle)) :
    (generateStoredZip localTime entries).Performs (Operation.Closes handle) := by
  have hopen : handle ∈ (entries.map (·.handle)).eraseDups := List.mem_eraseDups.mpr hentry
  unfold generateStoredZip
  dsimp only
  split
  · exact performs_settle hopen _
  · exact performs_writeEntries localTime hopen _ _ _

end

namespace Stream

/-- The stream has ended: it was cancelled and the cancel has settled, or it was not and has
closed or failed. -/
def Ended (s : Stream) : Prop :=
  s.cancelled = .settled ∨ s.cancelled = .none ∧ s.status ≠ .readable

/-- Close has been called on the file. -/
def HasClosed (s : Stream) (handle : Handle) : Prop :=
  handle ∈ s.closed ∨ s.generator.Performed (Operation.Closes handle)

/-- While a file has not been closed, the stream goes on: it has not started, or its generator
will close the file and has given nothing but values. -/
structure GoesOn (localTime : JsNumber → Option LocalTime) (entries : List OpenZipEntry)
    (handle : Handle) (s : Stream) : Prop where
  generator : s.started = true ∧ s.generator.Owes (Operation.Closes handle) ∨
    s.started = false ∧ s.generator = .create (generateStoredZip localTime entries) ∧
      s.cancelled = .none
  got : ∀ reply, s.got = some reply → ∃ chunk, reply = .value chunk
  closeRequested : s.closeRequested = false
  status : s.status = .readable ∧ s.cancelled = .none ∨ s.cancelled = .pending

section

variable {localTime : JsNumber → Option LocalTime} {entries : List OpenZipEntry} {handle : Handle}
  {s t : Stream}

theorem GoesOn.not_ended (h : GoesOn localTime entries handle s) : ¬ s.Ended := by
  rintro (hended | ⟨hcancelled, hstatus⟩)
  · rcases h.status with ⟨-, hcancelled⟩ | hcancelled
    · cases hended.symm.trans hcancelled
    · cases hended.symm.trans hcancelled
  · rcases h.status with ⟨hreadable, -⟩ | hpending
    · exact hstatus hreadable
    · cases hpending.symm.trans hcancelled

/-- The file has been closed, or the stream goes on. -/
def Minds (localTime : JsNumber → Option LocalTime) (entries : List OpenZipEntry)
    (handle : Handle) (s : Stream) : Prop := s.HasClosed handle ∨ GoesOn localTime entries handle s

/-- A step of the generator of a stream that goes on. -/
theorem minds_take {answered : Generator.Answered Bytes JsString Operation.Answer}
    {log : List Operation}
    (hkeeps : Generator.Keeps (Operation.Closes handle) log answered) (hstarted : s.started = true)
    (hgot : ∀ reply, s.got = some reply → ∃ chunk, reply = .value chunk)
    (hclose : s.closeRequested = false)
    (hstatus : s.status = .readable ∧ s.cancelled = .none ∨ s.cancelled = .pending) :
    Minds localTime entries handle (s.take answered) := by
  obtain ⟨answer, generator⟩ := answered
  have howes := hkeeps.owes
  unfold take
  match answer with
  | none => exact .inr ⟨.inl ⟨hstarted, howes⟩, hgot, hclose, hstatus⟩
  | some (.next, reply) =>
    rcases hkeeps.reply .next reply rfl with hperformed | ⟨-, hvalue⟩
    · exact .inl (.inr hperformed)
    · refine .inr ⟨.inl ⟨hstarted, howes⟩, fun other hother => ?_, hclose, hstatus⟩
      cases hother
      exact hvalue
  | some (.unwind, reply) =>
    rcases hkeeps.reply .unwind reply rfl with hperformed | ⟨hrequest, -⟩
    · exact .inl (.inr hperformed)
    · cases hrequest

theorem hasClosed_take {answered : Generator.Answered Bytes JsString Operation.Answer}
    (h : handle ∈ s.closed ∨ answered.2.Performed (Operation.Closes handle)) :
    (s.take answered).HasClosed handle := by
  unfold take
  split
  · exact h
  · exact h
  · exact h

/-- The end of a pull leaves the generator and the files alone. -/
theorem frame_error (message : JsString) :
    (s.error message).generator = s.generator ∧ (s.error message).closed = s.closed := by
  unfold error
  split
  · exact ⟨rfl, rfl⟩
  · exact ⟨rfl, rfl⟩

theorem frame_resolve (reply : Reply Bytes JsString) :
    (s.resolve reply).generator = s.generator ∧ (s.resolve reply).closed = s.closed := by
  cases reply with
  | value chunk =>
    simp only [resolve, enqueue]
    split
    · exact ⟨rfl, rfl⟩
    · exact frame_error _
  | done =>
    simp only [resolve, close]
    split
    · exact ⟨rfl, rfl⟩
    · exact frame_error _
  | thrown message => exact frame_error message

/-- A file that has been closed stays so. -/
theorem hasClosed_step {event : Event} (h : s.HasClosed handle)
    (hstep : streamStep entries s event = some t) : t.HasClosed handle := by
  -- a step of the generator keeps the operations that it has called
  have hgenerator : ∀ {answered : Generator.Answered Bytes JsString Operation.Answer},
      (s.generator.Owes (Operation.Closes handle) →
        Generator.Keeps (Operation.Closes handle) s.generator.log answered) →
      handle ∈ s.closed ∨ answered.2.Performed (Operation.Closes handle) :=
    fun hkeeps => h.imp_right fun hperformed => (hkeeps (.inl hperformed)).performed hperformed
  cases event with
  | pull =>
    simp only [streamStep] at hstep
    split at hstep
    · cases hstep
      exact hasClosed_take (hgenerator fun howes => Generator.keeps_ask howes .next)
    · cases hstep
  | answer response =>
    obtain ⟨answered, hanswered, rfl⟩ := Option.map_eq_some_iff.mp hstep
    exact hasClosed_take (hgenerator fun howes => Generator.keeps_answer howes hanswered)
  | serve =>
    obtain ⟨answered, hanswered, rfl⟩ := Option.map_eq_some_iff.mp hstep
    exact hasClosed_take (hgenerator fun howes => Generator.keeps_serve howes hanswered)
  | receive =>
    obtain ⟨reply, -, rfl⟩ := Option.map_eq_some_iff.mp hstep
    unfold HasClosed
    rw [(frame_resolve reply).1, (frame_resolve reply).2]
    exact h
  | read =>
    simp only [streamStep] at hstep
    split at hstep
    · cases hstep
    · cases hstep
      exact h
  | cancel =>
    simp only [streamStep] at hstep
    split at hstep
    · split at hstep
      · cases hstep
        exact hasClosed_take (hgenerator fun howes => Generator.keeps_ask howes .unwind)
      · cases hstep
        exact h.imp_left (List.mem_append_left _)
    · cases hstep
  | settle =>
    simp only [streamStep] at hstep
    split at hstep
    · cases hstep
      exact h
    · cases hstep

/-- A stream that goes on does so after a step, or the file has been closed. -/
theorem GoesOn.step (hentry : handle ∈ entries.map (·.handle)) {event : Event}
    (h : GoesOn localTime entries handle s) (hstep : streamStep entries s event = some t) :
    Minds localTime entries handle t := by
  obtain ⟨hgenerator, hgot, hclose, hstatus⟩ := h
  cases event with
  | pull =>
    simp only [streamStep] at hstep
    split at hstep
    · cases hstep
      have hkeeps : Generator.Keeps (Operation.Closes handle) s.generator.log
          (s.generator.ask .next) := by
        rcases hgenerator with ⟨-, howes⟩ | ⟨-, hnew, -⟩
        · exact Generator.keeps_ask howes .next
        · rw [hnew]
          exact Generator.keeps_ask_create (performs_generateStoredZip localTime hentry)
      exact minds_take hkeeps rfl hgot hclose hstatus
    · cases hstep
  | answer response =>
    obtain ⟨answered, hanswered, rfl⟩ := Option.map_eq_some_iff.mp hstep
    rcases hgenerator with ⟨hstarted, howes⟩ | ⟨-, hnew, -⟩
    · exact minds_take (Generator.keeps_answer howes hanswered) hstarted hgot hclose hstatus
    · rw [hnew] at hanswered
      cases hanswered
  | serve =>
    obtain ⟨answered, hanswered, rfl⟩ := Option.map_eq_some_iff.mp hstep
    rcases hgenerator with ⟨hstarted, howes⟩ | ⟨-, hnew, -⟩
    · exact minds_take (Generator.keeps_serve howes hanswered) hstarted hgot hclose hstatus
    · rw [hnew] at hanswered
      cases hanswered
  | receive =>
    obtain ⟨reply, hreply, rfl⟩ := Option.map_eq_some_iff.mp hstep
    obtain ⟨chunk, rfl⟩ := hgot reply hreply
    simp only [resolve, enqueue, error]
    split
    · exact .inr ⟨hgenerator, fun reply hnone => (by cases hnone), hclose, hstatus⟩
    · rename_i hclosed
      -- the chunk comes after a cancel, and nothing happens
      have hnot : s.status ≠ .readable := fun hreadable => hclosed ⟨hreadable, hclose⟩
      rw [if_neg hnot]
      exact .inr ⟨hgenerator, fun reply hnone => (by cases hnone), hclose, hstatus⟩
  | read =>
    simp only [streamStep, hclose, Bool.false_eq_true, false_and, if_false] at hstep
    split at hstep
    · cases hstep
    · cases hstep
      exact .inr ⟨hgenerator, hgot, rfl, hstatus⟩
  | cancel =>
    simp only [streamStep] at hstep
    split at hstep
    · split at hstep
      · rename_i hstarted
        cases hstep
        rcases hgenerator with ⟨-, howes⟩ | ⟨hnew, -⟩
        · exact minds_take (Generator.keeps_ask howes .unwind) hstarted hgot hclose (.inr rfl)
        · cases hnew.symm.trans hstarted
      · cases hstep
        exact .inl (.inl (List.mem_append_right _ hentry))
    · cases hstep
  | settle =>
    simp only [streamStep] at hstep
    split at hstep
    · rename_i hpending
      rcases hgenerator with ⟨hstarted, -⟩ | ⟨-, -, hnone⟩
      · cases hpending.2.symm.trans hstarted
      · cases hpending.1.symm.trans hnone
    · cases hstep

end

end Stream

/-- **A stream that has ended has closed every file.**  This is so for any entries, accepted or
not, whatever the reads and the closes are answered with, and whenever the stream pulls and its
consumer reads or cancels. -/
theorem ended_stream_has_closed (localTime : JsNumber → Option LocalTime)
    (entries : List OpenZipEntry) (events : List Event) (s : Stream)
    (hrun : Execution.run (streamStep entries) (createStoredZipStream localTime entries) events =
      some s)
    (hended : s.Ended) : ∀ entry ∈ entries, s.HasClosed entry.handle := by
  intro entry hentry
  have hmem : entry.handle ∈ entries.map (·.handle) := List.mem_map_of_mem hentry
  have hminds : s.Minds localTime entries entry.handle := by
    refine Execution.run_induction (streamStep entries) ?_ ?_ hrun
    · intro s event t h hstep
      rcases h with hclosed | hgoesOn
      · exact .inl (Stream.hasClosed_step hclosed hstep)
      · exact hgoesOn.step hmem hstep
    · refine .inr ⟨.inr ⟨rfl, rfl, rfl⟩, fun reply hnone => ?_, rfl, .inl ⟨rfl, rfl⟩⟩
      cases hnone
  exact hminds.resolve_right fun hgoesOn => hgoesOn.not_ended hended

/-- The consumer cancels while the first pull is pending: the header of the file is dropped, and
the generator closes the file. -/
theorem ended_stream_has_closed_cancel : ∃ s : Stream,
    Execution.run (streamStep [⟨js "a", .ofInt 1, .ofInt 0, 3⟩])
        (createStoredZipStream (fun _ => none) [⟨js "a", .ofInt 1, .ofInt 0, 3⟩])
        [.pull, .cancel, .receive, .answer fun
          | .read _ _ _ => Except.error (js "EIO")
          | .close _ => Except.ok ()
          | .closeAll _ => ()] = some s ∧
      s.Ended ∧ s.HasClosed 3 := by
  have hsettled : (Execution.run (streamStep [⟨js "a", .ofInt 1, .ofInt 0, 3⟩])
      (createStoredZipStream (fun _ => none) [⟨js "a", .ofInt 1, .ofInt 0, 3⟩])
      [.pull, .cancel, .receive, .answer fun
        | .read _ _ _ => Except.error (js "EIO")
        | .close _ => Except.ok ()
        | .closeAll _ => ()]).map (·.cancelled) = some .settled := by decide +kernel
  obtain ⟨s, hrun, hcancelled⟩ := Option.map_eq_some_iff.mp hsettled
  exact ⟨s, hrun, .inl hcancelled,
    ended_stream_has_closed _ _ _ s hrun (.inl hcancelled) _ List.mem_cons_self⟩

end EcSystemCore.Web.Zip
