import EcSystemCore.Protocol.FrameStream

/-!
# The frame decoder of the configuration server

`FrameDecoder` of `core.ts`, fed by the data events of the server's socket.  An event is
refused when it and what is buffered exceed the limit, before any frame of it is taken off.
So a stream of the daemon's frames is decoded exactly when each event stays under the limit
together with the part of a frame that the events before it left over
(`pushAll_eq_ok_iff`).
-/

namespace EcSystemCore.Web

/-- `IpcFrame`. -/
structure IpcFrame where
  version : ℕ
  type : ℕ
  flags : ℕ
  requestId : ℕ
  payload : Bytes
  deriving DecidableEq, Repr

/-- The frame of the daemon as the server sees it. -/
def ipcFrame (frame : Frame) : IpcFrame :=
  ⟨1, frame.type.code.toNat, 0, frame.requestId.toNat, frame.payload⟩

/-- The body of the loop of `push` on the buffer: `none` when it ends, else a frame and the
bytes it took, or an exception. -/
def ipcTurn (buffer : Bytes) : Option (Except String (IpcFrame × ℕ)) :=
  match readLe32 buffer 0 with
  -- fewer than `FRAME_HEADER_BYTES`
  | none => none
  | some length =>
    if length.toNat < kEnvelopeSize ∨ length.toNat > kMaximumFrameLength then
      some (.error ("unexpected IPC frame length " ++ toString length))
    else
      let frameBytes := kLengthPrefixSize + length.toNat
      if buffer.length < frameBytes then none
      else
        let body := (buffer.take frameBytes).drop kLengthPrefixSize
        if body.take kMagic.length ≠ kMagic then some (.error "invalid IPC frame magic")
        else if body.getD 4 0 ≠ 1 then
          some (.error ("unsupported IPC version " ++ toString (body.getD 4 0)))
        else
          match readLe16 body 6, readLe32 body 8 with
          | some flags, some requestId =>
            if flags ≠ 0 then some (.error ("unsupported IPC flags " ++ toString flags))
            else
              some (.ok (⟨(body.getD 4 0).toNat, (body.getD 5 0).toNat, flags.toNat,
                requestId.toNat, body.drop kEnvelopeSize⟩, frameBytes))
          -- the body has at least `IPC_ENVELOPE_BYTES`
          | _, _ => some (.error "Out of bounds access")

/-- The loop of `push`: the frames or an exception, and the buffer. -/
def ipcLoop : ℕ → Bytes → List IpcFrame → Except String (List IpcFrame) × Bytes
  | 0, buffer, frames => (.ok frames, buffer)
  | fuel + 1, buffer, frames =>
    match ipcTurn buffer with
    | none => (.ok frames, buffer)
    | some (.error message) => (.error message, [])
    | some (.ok (frame, frameBytes)) =>
      ipcLoop fuel (buffer.drop frameBytes) (frames ++ [frame])

/-- `push`. -/
def push (buffer data : Bytes) : Except String (List IpcFrame) × Bytes :=
  if data.length = 0 then (.ok [], buffer)
  else if buffer.length + data.length > kMaximumBufferedInput then
    (.error "IPC receive buffer exceeded its limit", [])
  else ipcLoop ((buffer ++ data).length + 1) (buffer ++ data) []

/-- The data events of a connection: the frames handed on, or the exception that ends it. -/
def pushAll (buffer : Bytes) : List Bytes → Except String (List IpcFrame)
  | [] => .ok []
  | event :: events =>
    match push buffer event with
    | (.error message, _) => .error message
    | (.ok frames, next) => (pushAll next events).map (frames ++ ·)

/-- The bytes of an unfinished frame among the first `received` bytes of a stream of frames. -/
def unfinishedBytes : List Frame → ℕ → ℕ
  | [], received => received
  | frame :: frames, received =>
    if frame.encode.length ≤ received then
      unfinishedBytes frames (received - frame.encode.length)
    else received

/-! ### Turns -/

/-- A turn takes an encoded frame. -/
theorem ipcTurn_encode {frame : Frame} (h : frame.Fits) (rest : Bytes) :
    ipcTurn (frame.encode ++ rest) = some (.ok (ipcFrame frame, frame.encode.length)) := by
  have hlength := Frame.lengthField_toNat h
  have hread : readLe32 (frame.encode ++ rest) 0 = some frame.lengthField := by
    rw [Frame.encode_append h]
    exact readLe32_le32 _ _
  have htotal : kLengthPrefixSize + frame.lengthField.toNat = frame.encode.length := by
    rw [hlength, Frame.encode_length h]
  have hbody : ((frame.encode ++ rest).take frame.encode.length).drop kLengthPrefixSize =
      envelope kMagic kVersion frame.type.code 0 frame.requestId frame.payload := by
    rw [List.take_left, Frame.encode_of_fits h]
    rfl
  have hflags : readLe16 (envelope kMagic kVersion frame.type.code 0 frame.requestId
      frame.payload) 6 = some 0 := readLe16_eq_some_iff.mpr ⟨_, rfl⟩
  have hrequest : readLe32 (envelope kMagic kVersion frame.type.code 0 frame.requestId
      frame.payload) 8 = some frame.requestId := readLe32_eq_some_iff.mpr ⟨_, rfl⟩
  obtain ⟨hmin, hmax⟩ := Frame.validLength h
  simp only [ipcTurn, hread, htotal, hbody, hflags, hrequest]
  rw [if_neg (by omega), if_neg (by simp)]
  rfl

/-- A turn waits for the rest of a frame. -/
theorem ipcTurn_unfinished {frame : Frame} (h : frame.Fits) {left : Bytes}
    (hleft : left <+: frame.encode) (hshort : left.length < frame.encode.length) :
    ipcTurn left = none := by
  unfold ipcTurn
  split
  · rfl
  · rename_i length hread
    obtain ⟨more, hmore⟩ := hleft
    have hwhole : readLe32 frame.encode 0 = some length := by
      rw [← hmore]
      exact readLe32_append more hread
    have hfield : length = frame.lengthField := by
      have henc := Frame.encode_append h []
      rw [List.append_nil] at henc
      rw [henc, readLe32_le32] at hwhole
      exact (Option.some.inj hwhole).symm
    obtain ⟨hmin, hmax⟩ := Frame.validLength h
    have hlength := Frame.encode_length h
    have hfieldLength := Frame.lengthField_toNat h
    subst hfield
    simp only
    rw [if_neg (by omega), if_pos (by omega)]

/-! ### Streams of frames -/

/-- The bytes of a stream of frames. -/
def encodings (frames : List Frame) : Bytes := (frames.map Frame.encode).flatten

theorem encodings_cons (frame : Frame) (frames : List Frame) :
    encodings (frame :: frames) = frame.encode ++ encodings frames := rfl

/-- The bytes are what has come of the first of the frames, and not all of it. -/
def Unfinished : List Frame → Bytes → Prop
  | [], left => left = []
  | frame :: _, left => left <+: frame.encode ∧ left.length < frame.encode.length

/-- What has come of a stream is some of its frames and an unfinished one. -/
theorem exists_unfinished {frames : List Frame} {buffer : Bytes}
    (h : buffer <+: encodings frames) :
    ∃ done rest left, frames = done ++ rest ∧ buffer = encodings done ++ left ∧
      Unfinished rest left := by
  induction frames generalizing buffer with
  | nil => exact ⟨[], [], [], rfl, List.prefix_nil.mp h, rfl⟩
  | cons frame frames ih =>
    rw [encodings_cons] at h
    by_cases hshort : buffer.length < frame.encode.length
    · have hprefix : buffer <+: frame.encode :=
        List.prefix_of_prefix_length_le h (List.prefix_append _ _) hshort.le
      exact ⟨[], frame :: frames, buffer, rfl, rfl, hprefix, hshort⟩
    · have hframe : frame.encode <+: buffer :=
        List.prefix_of_prefix_length_le (List.prefix_append _ _) h (Nat.not_lt.mp hshort)
      obtain ⟨tail, rfl⟩ := hframe
      obtain ⟨done, rest, left, rfl, rfl, hleft⟩ :=
        ih ((List.prefix_append_right_inj frame.encode).mp h)
      refine ⟨frame :: done, rest, left, rfl, ?_, hleft⟩
      rw [encodings_cons, List.append_assoc]

theorem unfinishedBytes_append (done rest : List Frame) (received : ℕ) :
    unfinishedBytes (done ++ rest) ((encodings done).length + received) =
      unfinishedBytes rest received := by
  induction done with
  | nil =>
    rw [show (encodings []).length = 0 from rfl, Nat.zero_add]
    rfl
  | cons frame done ih =>
    rw [encodings_cons, List.length_append, List.cons_append, unfinishedBytes,
      if_pos (by omega), ← ih]
    congr 1
    omega

theorem Unfinished.unfinishedBytes_eq {frames : List Frame} {left : Bytes}
    (h : Unfinished frames left) : unfinishedBytes frames left.length = left.length := by
  cases frames with
  | nil => rfl
  | cons frame frames => exact if_neg (Nat.not_le.mpr h.2)

/-- A frame and a half never exceed the limit. -/
theorem Unfinished.length_le {frames : List Frame} {left : Bytes} (h : Unfinished frames left)
    (fits : ∀ frame ∈ frames, frame.Fits) : left.length ≤ kMaximumBufferedInput := by
  cases frames with
  | nil =>
    rw [show left = [] from h]
    exact Nat.zero_le _
  | cons frame frames =>
    have hfits := fits frame List.mem_cons_self
    have hlength := Frame.encode_length hfits
    have hshort := h.2
    unfold Frame.Fits at hfits
    unfold kMaximumBufferedInput
    omega

/-- The loop takes the whole frames off and keeps the unfinished one. -/
theorem ipcLoop_encodings {done rest : List Frame} {left : Bytes}
    (fits : ∀ frame ∈ done ++ rest, frame.Fits) (hleft : Unfinished rest left) (fuel : ℕ)
    (hfuel : (encodings done ++ left).length < fuel) (frames : List IpcFrame) :
    ipcLoop fuel (encodings done ++ left) frames = (.ok (frames ++ done.map ipcFrame), left) := by
  induction done generalizing fuel frames with
  | nil =>
    obtain ⟨fuel, rfl⟩ : ∃ n, fuel = n + 1 := ⟨fuel - 1, by omega⟩
    have hturn : ipcTurn left = none := by
      cases rest with
      | nil =>
        rw [show left = [] from hleft]
        rfl
      | cons frame rest => exact ipcTurn_unfinished (fits frame (by simp)) hleft.1 hleft.2
    simp [encodings, ipcLoop, hturn]
  | cons frame done ih =>
    obtain ⟨fuel, rfl⟩ : ∃ n, fuel = n + 1 := ⟨fuel - 1, by omega⟩
    have hfits : frame.Fits := fits frame (by simp)
    have hpos := List.length_pos_iff.mpr (Frame.encode_ne_nil_iff.mpr hfits)
    rw [encodings_cons, List.append_assoc] at hfuel ⊢
    rw [List.length_append] at hfuel
    simp only [ipcLoop, ipcTurn_encode hfits, List.drop_left]
    rw [ih (fun other hother => fits other (List.mem_cons_of_mem _ hother)) fuel (by omega)]
    simp

/-! ### Events -/

/-- An event under the limit is decoded, the empty one too. -/
theorem push_encodings {done rest frames : List Frame} {buffer event left : Bytes}
    (fits : ∀ frame ∈ frames, frame.Fits) (hbuffer : Unfinished frames buffer)
    (hframes : frames = done ++ rest) (hjoined : buffer ++ event = encodings done ++ left)
    (hleft : Unfinished rest left)
    (hlimit : buffer.length + event.length ≤ kMaximumBufferedInput) :
    push buffer event = (.ok (done.map ipcFrame), left) := by
  have hloop := ipcLoop_encodings (hframes ▸ fits) hleft ((buffer ++ event).length + 1)
    (by rw [hjoined]; exact Nat.lt_succ_self _) []
  rw [← hjoined] at hloop
  unfold push
  split_ifs with hempty hover
  · -- without new bytes the loop finds the unfinished frame again
    obtain rfl := List.length_eq_zero_iff.mp hempty
    have hsame := @ipcLoop_encodings [] frames buffer fits hbuffer ((buffer ++ []).length + 1)
      (by simp [encodings]) []
    rw [List.append_nil] at hloop hsame
    exact hsame.symm.trans hloop
  · omega
  · exact hloop

theorem map_append_eq_ok_iff {ε α : Type} (front back : List α) (result : Except ε (List α)) :
    result.map (front ++ ·) = .ok (front ++ back) ↔ result = .ok back := by
  cases result with
  | error e => simp [Except.map]
  | ok frames => simp [Except.map]

/-- A property of every element of a list and what stands before it. -/
theorem forall_split_cons_iff {α : Type} {P : List α → α → Prop} (x : α) (xs : List α) :
    (∀ before y after, x :: xs = before ++ y :: after → P before y) ↔
      P [] x ∧ ∀ before y after, xs = before ++ y :: after → P (x :: before) y := by
  constructor
  · intro h
    exact ⟨h [] x xs rfl, fun before y after hxs => h (x :: before) y after (by rw [hxs]; rfl)⟩
  · rintro ⟨hhead, htail⟩ before y after hsplit
    cases before with
    | nil =>
      cases hsplit
      exact hhead
    | cons z before =>
      cases hsplit
      exact htail before y after rfl

theorem pushAll_eq_ok_of_unfinished {frames : List Frame} {buffer : Bytes} {events : List Bytes}
    (fits : ∀ frame ∈ frames, frame.Fits) (hbuffer : Unfinished frames buffer)
    (hstream : buffer ++ events.flatten = encodings frames) :
    pushAll buffer events = .ok (frames.map ipcFrame) ↔
      ∀ before event after, events = before ++ event :: after →
        unfinishedBytes frames (buffer.length + before.flatten.length) + event.length ≤
          kMaximumBufferedInput := by
  induction events generalizing frames buffer with
  | nil =>
    cases frames with
    | nil => simp [pushAll]
    | cons frame frames =>
      -- the whole stream has come, so its first frame cannot be unfinished
      have hlength := congrArg List.length hstream
      have hshort := hbuffer.2
      rw [encodings_cons] at hlength
      simp only [List.flatten_nil, List.append_nil, List.length_append] at hlength
      omega
  | cons event events ih =>
    rw [List.flatten_cons, ← List.append_assoc] at hstream
    rw [forall_split_cons_iff, List.flatten_nil, List.length_nil, Nat.add_zero,
      hbuffer.unfinishedBytes_eq]
    by_cases hlimit : buffer.length + event.length ≤ kMaximumBufferedInput
    · obtain ⟨done, rest, left, hframes, hjoined, hleft⟩ :=
        exists_unfinished ⟨events.flatten, hstream⟩
      have hpush := push_encodings fits hbuffer hframes hjoined hleft hlimit
      have hrest : left ++ events.flatten = encodings rest := by
        have hall : encodings frames = encodings done ++ encodings rest := by
          simp [encodings, hframes]
        rw [hjoined, List.append_assoc, hall] at hstream
        exact List.append_cancel_left hstream
      have hshift : ∀ before : List Bytes,
          unfinishedBytes frames (buffer.length + (event :: before).flatten.length) =
            unfinishedBytes rest (left.length + before.flatten.length) := by
        intro before
        have hlength := congrArg List.length hjoined
        rw [List.length_append, List.length_append] at hlength
        rw [hframes, List.flatten_cons, List.length_append, ← Nat.add_assoc, hlength,
          Nat.add_assoc, unfinishedBytes_append]
      have hmap : frames.map ipcFrame = done.map ipcFrame ++ rest.map ipcFrame := by
        rw [hframes, List.map_append]
      simp only [pushAll, hpush]
      rw [hmap, map_append_eq_ok_iff,
        ih (fun frame hframe => fits frame (hframes ▸ List.mem_append_right done hframe)) hleft
          hrest]
      simp only [hshift, hlimit, true_and]
    · have hbounded := hbuffer.length_le fits
      have hpush : push buffer event = (.error "IPC receive buffer exceeded its limit", []) := by
        unfold push
        rw [if_neg (by omega), if_pos (by omega)]
      simp [pushAll, hpush, hlimit]

/-- **Which streams are decoded.**  A stream of the daemon's frames, split into data events in
any way, is decoded to exactly these frames when every event stays under the limit together
with the unfinished frame before it, and only then. -/
theorem pushAll_eq_ok_iff (frames : List Frame) (fits : ∀ frame ∈ frames, frame.Fits)
    (events : List Bytes) (hstream : events.flatten = encodings frames) :
    pushAll [] events = .ok (frames.map ipcFrame) ↔
      ∀ before event after, events = before ++ event :: after →
        unfinishedBytes frames before.flatten.length + event.length ≤ kMaximumBufferedInput := by
  have hstart : Unfinished frames [] := by
    cases frames with
    | nil => rfl
    | cons frame frames =>
      exact ⟨List.nil_prefix, List.length_pos_iff.mpr
        (Frame.encode_ne_nil_iff.mpr (fits frame List.mem_cons_self))⟩
  simpa using @pushAll_eq_ok_of_unfinished frames [] events fits hstart hstream

/-- An OUTPUTS_DISABLED notice of the daemon. -/
def disabledNotice : Frame :=
  ⟨.outputsDisabled, 0, encodeOutputsDisabledPayload ⟨.requested, 0, 1⟩⟩

theorem disabledNotice_fits : disabledNotice.Fits := by
  unfold Frame.Fits
  decide

/-- A notice cut in two is decoded. -/
theorem pushAll_eq_ok_notice :
    pushAll [] [disabledNotice.encode.take 5, disabledNotice.encode.drop 5] =
      .ok [ipcFrame disabledNotice] := by
  refine (pushAll_eq_ok_iff [disabledNotice] ?_ _ ?_).mpr ?_
  · simpa using disabledNotice_fits
  · simp [encodings]
  · rw [forall_split_cons_iff, forall_split_cons_iff]
    refine ⟨by decide, by decide, ?_⟩
    intro before event after hsplit
    simp at hsplit

/-- Notices that arrive in one event beyond the limit are refused. -/
theorem coalesced_notices_refused :
    (∀ frame ∈ List.replicate 586 disabledNotice, frame.Fits) ∧
      pushAll [] [encodings (List.replicate 586 disabledNotice)] =
        .error "IPC receive buffer exceeded its limit" := by
  refine ⟨fun frame hframe => (List.eq_of_mem_replicate hframe) ▸ disabledNotice_fits, ?_⟩
  have hnotice : disabledNotice.encode.length = 28 := rfl
  have hlengths : ∀ n, (encodings (List.replicate n disabledNotice)).length = n * 28 := by
    intro n
    simp only [encodings, List.map_replicate, List.length_flatten, hnotice,
      List.sum_replicate_nat]
  have hlength := hlengths 586
  have hpush : push [] (encodings (List.replicate 586 disabledNotice)) =
      (.error "IPC receive buffer exceeded its limit", []) := by
    unfold push
    rw [if_neg (by omega), if_pos]
    rw [hlength]
    decide
  simp only [pushAll, hpush]

end EcSystemCore.Web
