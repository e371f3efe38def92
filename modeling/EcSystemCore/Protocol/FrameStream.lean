import EcSystemCore.Protocol.Framing
import EcSystemCore.Protocol.LittleEndian

/-!
# Streams of frames

What a byte stream encodes, stated without a decoder: `Reference` cuts the stream into
encodings of frames and a tail that is not a whole frame yet or is malformed at its front
(`Tail`).  The decoder's loop computes it (`reference_iff`), and so does a
`FrameDecoder` that is fed the stream in pieces no larger than one frame
(`feedAll_decodes`): it never reaches its buffer limit, because what it keeps is shorter
than a frame.
-/

namespace EcSystemCore

open Incremental

/-! ### The reference -/

/-- The length field of a frame is in range. -/
def ValidLength (frameLength : UInt32) : Prop :=
  kEnvelopeSize ≤ frameLength.toNat ∧ frameLength.toNat ≤ kMaximumFrameLength

/-- The fields of a frame behind its length. -/
def envelope (magic : Bytes) (version code : UInt8) (flags : UInt16) (requestId : UInt32)
    (payload : Bytes) : Bytes :=
  magic ++ (version :: code :: (le16 flags ++ (le32 requestId ++ payload)))

/-- What the fixed fields of an envelope say: its message type, or the first thing wrong
with them. -/
def readEnvelope (magic : Bytes) (version code : UInt8) (flags : UInt16) :
    Except FrameError MessageType :=
  if magic ≠ kMagic then .error .invalidMagic
  else if version ≠ kVersion then .error .unsupportedVersion
  else if flags ≠ 0 then .error .reservedFlags
  else
    match MessageType.ofCode? code with
    | none => .error .invalidMessageType
    | some type => .ok type

/-- Bytes with no whole frame at their front: not enough of them yet (`none`), or
malformed. -/
inductive Tail : Bytes → Option FrameError → Prop
  | short {rest : Bytes} (few : rest.length < kLengthPrefixSize) : Tail rest none
  | unfinished {frameLength : UInt32} {body : Bytes} (valid : ValidLength frameLength)
      (few : body.length < frameLength.toNat) : Tail (le32 frameLength ++ body) none
  | invalidLength {frameLength : UInt32} {body : Bytes} (invalid : ¬ValidLength frameLength) :
      Tail (le32 frameLength ++ body) (some .invalidLength)
  | malformed {frameLength : UInt32} {magic : Bytes} {version code : UInt8} {flags : UInt16}
      {requestId : UInt32} {payload : Bytes} {error : FrameError}
      (valid : ValidLength frameLength) (four : magic.length = 4)
      (whole : frameLength.toNat ≤ kEnvelopeSize + payload.length)
      (wrong : readEnvelope magic version code flags = .error error) :
      Tail (le32 frameLength ++ envelope magic version code flags requestId payload) (some error)

/-- The encoding of a frame. -/
def Frame.encode (frame : Frame) : Bytes :=
  encodeFrame frame.type frame.requestId frame.payload

/-- The frame is not too long to be encoded. -/
def Frame.Fits (frame : Frame) : Prop :=
  kEnvelopeSize + frame.payload.length ≤ kMaximumFrameLength

/-- The stream consists of the encodings of `frames` and a tail. -/
def Reference (stream : Bytes) (frames : List Frame) (outcome : Option FrameError) : Prop :=
  ∃ rest, stream = (frames.map Frame.encode).flatten ++ rest ∧ (∀ frame ∈ frames, frame.Fits) ∧
    Tail rest outcome

/-! ### One turn of the loop -/

theorem Frame.encode_of_fits {frame : Frame} (h : frame.Fits) :
    frame.encode = le32 (UInt32.ofNat (kEnvelopeSize + frame.payload.length)) ++
      envelope kMagic kVersion frame.type.code 0 frame.requestId frame.payload := by
  unfold Frame.Fits at h
  unfold Frame.encode encodeFrame envelope
  rw [if_neg (by omega)]
  simp

theorem Frame.encode_ne_nil_iff {frame : Frame} : frame.encode ≠ [] ↔ frame.Fits := by
  constructor
  · intro h
    by_contra hlong
    unfold Frame.Fits at hlong
    unfold Frame.encode encodeFrame at h
    rw [if_pos (by omega)] at h
    exact h rfl
  · intro h
    rw [Frame.encode_of_fits h]
    simp [le32]

theorem readLe32_le32 (value : UInt32) (rest : Bytes) :
    readLe32 (le32 value ++ rest) 0 = some value :=
  readLe32_eq_some_iff.mpr ⟨rest, rfl⟩

/-- The fields of an envelope are read back. -/
theorem decodeEnvelope_envelope (frameLength : UInt32) {magic : Bytes} (version code : UInt8)
    (flags : UInt16) (requestId : UInt32) (payload : Bytes) (four : magic.length = 4) :
    decodeEnvelope (le32 frameLength ++ envelope magic version code flags requestId payload) =
      (readEnvelope magic version code flags).map (⟨·, requestId, payload⟩) := by
  match magic, four with
  | [m₀, m₁, m₂, m₃], _ =>
    have hflags : readLe16 (le32 frameLength ++
        envelope [m₀, m₁, m₂, m₃] version code flags requestId payload) 10 = some flags :=
      readLe16_eq_some_iff.mpr ⟨_, rfl⟩
    have hrequest : readLe32 (le32 frameLength ++
        envelope [m₀, m₁, m₂, m₃] version code flags requestId payload) 12 = some requestId :=
      readLe32_eq_some_iff.mpr ⟨_, rfl⟩
    unfold decodeEnvelope readEnvelope
    rw [hflags, hrequest]
    simp only [le32, envelope, List.cons_append, List.nil_append, kLengthPrefixSize,
      List.drop_succ_cons, List.drop_zero, List.take_succ_cons, List.take_zero,
      List.getElem?_cons_succ, List.getElem?_cons_zero, Option.some.injEq, Option.bind_some,
      ne_eq]
    split_ifs
    · cases MessageType.ofCode? code <;> rfl
    · rfl
    · rfl
    · rfl

/-- A turn on a frame all of whose bytes are there. -/
theorem parseFrame_envelope {frameLength : UInt32} {magic : Bytes} (version code : UInt8)
    (flags : UInt16) (requestId : UInt32) (payload : Bytes) (valid : ValidLength frameLength)
    (four : magic.length = 4) (whole : frameLength.toNat ≤ kEnvelopeSize + payload.length) :
    parseFrame (le32 frameLength ++ envelope magic version code flags requestId payload) =
      match readEnvelope magic version code flags with
      | .error e => .error e
      | .ok type =>
        .item ⟨type, requestId, payload.take (frameLength.toNat - kEnvelopeSize)⟩
          (payload.drop (frameLength.toNat - kEnvelopeSize)) := by
  have hlength : (envelope magic version code flags requestId []).length = kEnvelopeSize := by
    simp [envelope, four, le16, le32, kEnvelopeSize]
  have hsplit : ∀ rest, envelope magic version code flags requestId rest =
      envelope magic version code flags requestId [] ++ rest := by
    simp [envelope]
  have htotal : kLengthPrefixSize + frameLength.toNat = (le32 frameLength ++
      envelope magic version code flags requestId []).length +
        (frameLength.toNat - kEnvelopeSize) := by
    rw [List.length_append, hlength]
    have := valid.1
    simp only [le32, List.length_cons, List.length_nil, kLengthPrefixSize]
    omega
  have hwhole : WholeFrame
      (le32 frameLength ++ envelope magic version code flags requestId payload) frameLength := by
    refine ⟨readLe32_le32 _ _, valid.1, valid.2, ?_⟩
    rw [hsplit payload, List.length_append, List.length_append, hlength]
    simp only [le32, List.length_cons, List.length_nil, kLengthPrefixSize]
    omega
  rw [parseFrame_of_whole hwhole, htotal, hsplit payload, ← List.append_assoc,
    List.take_length_add_append, List.drop_length_add_append, List.append_assoc,
    ← hsplit, decodeEnvelope_envelope _ _ _ _ _ _ four]
  cases readEnvelope magic version code flags <;> rfl

theorem readEnvelope_code (type : MessageType) :
    readEnvelope kMagic kVersion type.code 0 = .ok type := by
  simp [readEnvelope]

/-- The length field of the encoding of a frame. -/
def Frame.lengthField (frame : Frame) : UInt32 :=
  UInt32.ofNat (kEnvelopeSize + frame.payload.length)

theorem Frame.lengthField_toNat {frame : Frame} (h : frame.Fits) :
    frame.lengthField.toNat = kEnvelopeSize + frame.payload.length := by
  apply UInt32.toNat_ofNat_of_lt
  unfold Frame.Fits kMaximumFrameLength at h
  exact h.trans_lt (by decide)

theorem Frame.validLength {frame : Frame} (h : frame.Fits) : ValidLength frame.lengthField := by
  unfold ValidLength
  rw [Frame.lengthField_toNat h]
  exact ⟨Nat.le_add_right _ _, h⟩

/-- What follows an encoded frame stands behind its payload. -/
theorem Frame.encode_append {frame : Frame} (h : frame.Fits) (rest : Bytes) :
    frame.encode ++ rest = le32 frame.lengthField ++
      envelope kMagic kVersion frame.type.code 0 frame.requestId (frame.payload ++ rest) := by
  rw [Frame.encode_of_fits h]
  simp [envelope, Frame.lengthField]

theorem Frame.encode_length {frame : Frame} (h : frame.Fits) :
    frame.encode.length = kLengthPrefixSize + (kEnvelopeSize + frame.payload.length) := by
  rw [Frame.encode_of_fits h]
  simp only [envelope, kMagic, ascii, le16, le32, kLengthPrefixSize, kEnvelopeSize,
    List.length_append, List.length_cons, List.length_nil]
  simp
  omega

/-- A turn takes an encoded frame off the front. -/
theorem parseFrame_encode {frame : Frame} (h : frame.Fits) (rest : Bytes) :
    parseFrame (frame.encode ++ rest) = .item frame rest := by
  have hlength := Frame.lengthField_toNat h
  rw [Frame.encode_append h, parseFrame_envelope _ _ _ _ _ (Frame.validLength h) rfl
    (by rw [hlength]; simp), hlength, readEnvelope_code]
  simp

theorem Tail.parseFrame_eq {rest : Bytes} {outcome : Option FrameError} (h : Tail rest outcome) :
    parseFrame rest = outcome.elim .more .error := by
  cases h with
  | short few =>
    have hread : readLe32 rest 0 = none := by
      cases hread : readLe32 rest 0 with
      | none => rfl
      | some value =>
        obtain ⟨tail, htail⟩ := readLe32_eq_some_iff.mp hread
        have hlong := congrArg List.length htail
        simp only [List.drop_zero, List.length_append, le32, List.length_cons,
          List.length_nil] at hlong
        unfold kLengthPrefixSize at few
        omega
    simp [parseFrame, hread]
  | @unfinished frameLength body valid few =>
    simp only [parseFrame, readLe32_le32, Option.elim_none]
    rw [if_neg (by unfold ValidLength at valid; omega), if_pos]
    simp only [List.length_take, List.length_append, le32, List.length_cons, List.length_nil,
      kLengthPrefixSize]
    omega
  | invalidLength invalid =>
    simp only [parseFrame, readLe32_le32, Option.elim_some]
    rw [if_pos (by unfold ValidLength at invalid; omega)]
  | malformed valid four whole wrong =>
    rw [parseFrame_envelope _ _ _ _ _ valid four whole, wrong]
    rfl

/-- Twelve bytes are an envelope. -/
theorem exists_envelope {body : Bytes} (h : kEnvelopeSize ≤ body.length) :
    ∃ magic version code flags requestId payload, magic.length = 4 ∧
      body = envelope magic version code flags requestId payload := by
  match body, h with
  | m₀ :: m₁ :: m₂ :: m₃ :: version :: code :: f₀ :: f₁ :: r₀ :: r₁ :: r₂ :: r₃ :: payload, _ =>
    obtain ⟨flags, hflags⟩ : ∃ flags, le16 flags = [f₀, f₁] := ⟨_, le16_join f₀ f₁⟩
    obtain ⟨requestId, hrequest⟩ : ∃ requestId, le32 requestId = [r₀, r₁, r₂, r₃] :=
      ⟨_, le32_join r₀ r₁ r₂ r₃⟩
    refine ⟨[m₀, m₁, m₂, m₃], version, code, flags, requestId, payload, rfl, ?_⟩
    unfold envelope
    rw [hflags, hrequest]
    rfl

theorem code_of_ofCode? {code : UInt8} {type : MessageType}
    (h : MessageType.ofCode? code = some type) : type.code = code := by
  unfold MessageType.ofCode? at h
  split at h <;> first | cases h; rfl | cases h

theorem readEnvelope_ok {magic : Bytes} {version code : UInt8} {flags : UInt16}
    {type : MessageType} (h : readEnvelope magic version code flags = .ok type) :
    magic = kMagic ∧ version = kVersion ∧ flags = 0 ∧ code = type.code := by
  unfold readEnvelope at h
  split_ifs at h with hmagic hversion hflags
  split at h
  · cases h
  · rename_i found hfound
    cases h
    exact ⟨of_not_not hmagic, of_not_not hversion, of_not_not hflags,
      (code_of_ofCode? hfound).symm⟩

/-- Every buffer is a tail or starts with an encoded frame. -/
theorem tail_or_encode (buffer : Bytes) :
    (∃ outcome, Tail buffer outcome) ∨
      ∃ frame rest, Frame.Fits frame ∧ buffer = frame.encode ++ rest := by
  by_cases hshort : buffer.length < kLengthPrefixSize
  · exact .inl ⟨none, .short hshort⟩
  obtain ⟨frameLength, body, rfl⟩ := exists_le32 (Nat.not_lt.mp hshort)
  by_cases hvalid : ValidLength frameLength
  swap
  · exact .inl ⟨_, .invalidLength hvalid⟩
  by_cases hfew : body.length < frameLength.toNat
  · exact .inl ⟨none, .unfinished hvalid hfew⟩
  have hwhole := Nat.not_lt.mp hfew
  obtain ⟨magic, version, code, flags, requestId, payload, four, rfl⟩ :=
    exists_envelope (hvalid.1.trans hwhole)
  have hlength : (envelope magic version code flags requestId payload).length =
      kEnvelopeSize + payload.length := by
    simp only [envelope, List.length_append, List.length_cons, four, le16, le32, kEnvelopeSize,
      List.length_nil]
    omega
  rw [hlength] at hwhole
  cases hread : readEnvelope magic version code flags with
  | error e => exact .inl ⟨_, .malformed hvalid four hwhole hread⟩
  | ok type =>
    obtain ⟨rfl, rfl, rfl, rfl⟩ := readEnvelope_ok hread
    have hmin := hvalid.1
    have htaken : (payload.take (frameLength.toNat - kEnvelopeSize)).length =
        frameLength.toNat - kEnvelopeSize := by
      rw [List.length_take]
      omega
    have hfits : Frame.Fits
        ⟨type, requestId, payload.take (frameLength.toNat - kEnvelopeSize)⟩ := by
      unfold Frame.Fits
      rw [htaken]
      have := hvalid.2
      omega
    refine .inr ⟨_, payload.drop (frameLength.toNat - kEnvelopeSize), hfits, ?_⟩
    rw [Frame.encode_of_fits hfits, htaken, Nat.add_sub_cancel' hmin, UInt32.ofNat_toNat]
    simp [envelope]

/-! ### Whole streams -/

/-- The error a drained stream ended in. -/
def errorOf (left : Except FrameError Bytes) : Option FrameError :=
  match left with
  | .ok _ => none
  | .error e => some e

/-- The decoder's loop decodes a reference. -/
theorem drain_encodes (frames : List Frame) (rest : Bytes) (fits : ∀ frame ∈ frames, frame.Fits) :
    frameParser.drain ((frames.map Frame.encode).flatten ++ rest) =
      (frames ++ (frameParser.drain rest).1, (frameParser.drain rest).2) := by
  induction frames with
  | nil => rfl
  | cons frame frames ih =>
    have hparse : frameParser.parse (frame.encode ++
        ((frames.map Frame.encode).flatten ++ rest)) = .item frame _ :=
      parseFrame_encode (fits frame List.mem_cons_self) _
    rw [List.map_cons, List.flatten_cons, List.append_assoc, frameParser.drain_of_item hparse,
      ih fun other hother => fits other (List.mem_cons_of_mem _ hother)]
    rfl

/-- The encodings of frames drain to these frames. -/
theorem drain_flatten_encode (frames : List Frame) (fits : ∀ frame ∈ frames, frame.Fits) :
    frameParser.drain (frames.map Frame.encode).flatten = (frames, .ok []) := by
  have hempty : frameParser.drain [] = ([], .ok []) := rfl
  have hdrain := drain_encodes frames [] fits
  rwa [List.append_nil, hempty, List.append_nil] at hdrain

theorem Tail.drain_eq {rest : Bytes} {outcome : Option FrameError} (h : Tail rest outcome) :
    frameParser.drain rest = ([], outcome.elim (.ok rest) .error) := by
  have hparse : frameParser.parse rest = outcome.elim .more .error := h.parseFrame_eq
  cases outcome with
  | none => exact frameParser.drain_of_more hparse
  | some e => exact frameParser.drain_of_error hparse

theorem exists_reference (stream : Bytes) : ∃ frames outcome, Reference stream frames outcome := by
  induction stream using frameParser.drain_induction with
  | more b hparse | error b e hparse =>
    obtain ⟨outcome, htail⟩ | ⟨frame, rest, hfits, rfl⟩ := tail_or_encode b
    · exact ⟨[], outcome, b, rfl, by simp, htail⟩
    · cases (parseFrame_encode hfits rest).symm.trans hparse
  | item b x rest hparse ih =>
    obtain ⟨outcome, htail⟩ | ⟨frame, tail, hfits, rfl⟩ := tail_or_encode b
    · exact ⟨[], outcome, b, rfl, by simp, htail⟩
    · cases (parseFrame_encode hfits tail).symm.trans hparse
      obtain ⟨frames, outcome, left, rfl, hall, htail⟩ := ih
      refine ⟨x :: frames, outcome, left, by simp, ?_, htail⟩
      intro other hother
      obtain rfl | hother := List.mem_cons.mp hother
      · exact hfits
      · exact hall other hother

/-- **The loop computes the reference.** -/
theorem reference_iff {stream : Bytes} {frames : List Frame} {outcome : Option FrameError} :
    Reference stream frames outcome ↔
      frames = (frameParser.drain stream).1 ∧ outcome = errorOf (frameParser.drain stream).2 := by
  have forward : ∀ {frames outcome}, Reference stream frames outcome →
      frames = (frameParser.drain stream).1 ∧
        outcome = errorOf (frameParser.drain stream).2 := by
    rintro frames outcome ⟨rest, rfl, hfits, htail⟩
    rw [drain_encodes frames rest hfits, htail.drain_eq]
    cases outcome <;> simp [errorOf]
  constructor
  · exact forward
  · rintro ⟨rfl, rfl⟩
    obtain ⟨frames, outcome, href⟩ := exists_reference stream
    obtain ⟨hframes, houtcome⟩ := forward href
    rwa [← hframes, ← houtcome]

/-- What is left of a drained stream is shorter than a frame. -/
theorem length_of_drain_ok {stream rest : Bytes} {frames : List Frame}
    (h : frameParser.drain stream = (frames, .ok rest)) :
    rest.length < kLengthPrefixSize + kMaximumFrameLength := by
  obtain ⟨frames', outcome, tail, rfl, hfits, htail⟩ := exists_reference stream
  rw [drain_encodes frames' tail hfits, htail.drain_eq, Prod.mk.injEq] at h
  cases htail with
  | short few =>
    cases h.2
    exact few.trans (by decide)
  | unfinished valid few =>
    cases h.2
    have := valid.2
    simp only [List.length_append, le32, List.length_cons, List.length_nil, kLengthPrefixSize]
    omega
  | invalidLength => cases h.2
  | malformed => cases h.2

/-- The loop itself has no buffer limit. -/
theorem drain_ne_bufferLimit {stream : Bytes} {frames : List Frame} :
    frameParser.drain stream ≠ (frames, .error .bufferLimit) := by
  obtain ⟨frames', outcome, rest, rfl, hfits, htail⟩ := exists_reference stream
  rw [drain_encodes frames' rest hfits, htail.drain_eq]
  intro h
  cases htail with
  | short | unfinished | invalidLength => cases (Prod.mk.inj h).2
  | @malformed _ magic version code flags _ _ _ _ _ _ wrong =>
    cases (Prod.mk.inj h).2
    unfold readEnvelope at wrong
    split_ifs at wrong
    · cases wrong
    · cases wrong
    · cases wrong
    · cases hcode : MessageType.ofCode? code <;> rw [hcode] at wrong <;> cases wrong

/-! ### Feeding a decoder -/

namespace FrameDecoder

/-- `Reset`. -/
def reset (_ : FrameDecoder) : FrameDecoder := {}

/-- Feed one piece after the other: the frames emitted in all, and the decoder at the end. -/
def feedAll : FrameDecoder → List Bytes → List Frame × FrameDecoder
  | decoder, [] => ([], decoder)
  | decoder, piece :: pieces =>
    let (_, frames, next) := decoder.feed piece
    let (more, last) := next.feedAll pieces
    (frames ++ more, last)

/-- The decoder has seen these bytes and emitted these frames: they are those of the bytes,
with the rest in its buffer, or with the error it stopped at. -/
def Decoded (decoder : FrameDecoder) (seen : Bytes) (frames : List Frame) : Prop :=
  (decoder.error = none ∧ frameParser.drain seen = (frames, .ok decoder.buffer)) ∨
    ∃ e, decoder.error = some e ∧ frameParser.drain seen = (frames, .error e)

/-- A decoder in error emits nothing and stays as it is. -/
theorem feed_of_error {decoder : FrameDecoder} (h : decoder.error ≠ none) (piece : Bytes) :
    decoder.feed piece = (false, [], decoder) := by
  unfold feed
  rw [if_pos (Option.isSome_iff_ne_none.mpr h)]

theorem feedAll_of_error {decoder : FrameDecoder} (h : decoder.error ≠ none)
    (pieces : List Bytes) : decoder.feedAll pieces = ([], decoder) := by
  induction pieces with
  | nil => rfl
  | cons piece pieces ih => simp only [feedAll, feed_of_error h, ih, List.append_nil]

/-- The decoder has not failed, and keeps less than a frame. -/
structure Settled (decoder : FrameDecoder) : Prop where
  error : decoder.error = none := by rfl
  drained : frameParser.drain decoder.buffer = ([], .ok decoder.buffer) := by rfl

/-- What a decoder keeps has no whole frame at its front. -/
theorem drain_rest {stream rest : Bytes} {frames : List Frame}
    (h : frameParser.drain stream = (frames, .ok rest)) :
    frameParser.drain rest = ([], .ok rest) := by
  have happend := frameParser.drain_append [] h
  rw [List.append_nil, List.append_nil, h, Prod.mk.injEq] at happend
  exact Prod.ext (List.self_eq_append_right.mp happend.1) happend.2.symm

theorem settled_of_feed {decoder next : FrameDecoder} {piece : Bytes} {frames : List Frame}
    (h : decoder.feed piece = (true, frames, next)) : next.Settled := by
  unfold feed at h
  split at h
  · cases h
  · rename_i herror
    split at h
    · cases h
    · split at h
      · rename_i hdrain
        cases h
        exact ⟨Option.not_isSome_iff_eq_none.mp herror, drain_rest hdrain⟩
      · cases h

/-- A settled decoder has room for a piece no larger than a frame. -/
theorem Settled.feed_eq {decoder : FrameDecoder} (h : decoder.Settled) {piece : Bytes}
    (small : piece.length ≤ kLengthPrefixSize + kMaximumFrameLength) :
    decoder.feed piece = match frameParser.drain (decoder.buffer ++ piece) with
      | (frames, .ok rest) => (true, frames, ⟨rest, none⟩)
      | (frames, .error e) => (false, frames, ⟨decoder.buffer ++ piece, some e⟩) := by
  obtain ⟨buffer, error⟩ := decoder
  obtain rfl : error = none := h.error
  have hbuffer : buffer.length < _ := length_of_drain_ok h.drained
  have hroom : ¬(piece.length > kMaximumBufferedInput ∨
      buffer.length > kMaximumBufferedInput - piece.length) := by
    unfold kMaximumBufferedInput
    omega
  exact (if_neg Bool.false_ne_true).trans (if_neg hroom)

/-- **One piece.**  The buffer is shorter than a frame and so is the piece, so both fit
below the buffer limit. -/
theorem Decoded.feed {decoder : FrameDecoder} {seen piece : Bytes} {frames : List Frame}
    (h : decoder.Decoded seen frames)
    (small : piece.length ≤ kLengthPrefixSize + kMaximumFrameLength) :
    (decoder.feed piece).2.2.Decoded (seen ++ piece) (frames ++ (decoder.feed piece).2.1) := by
  obtain ⟨herror, hdrain⟩ | ⟨e, herror, hdrain⟩ := h
  · have hbuffer := length_of_drain_ok hdrain
    have happend := frameParser.drain_append piece hdrain
    unfold FrameDecoder.feed
    rw [if_neg (by simp [herror]), if_neg (by unfold kMaximumBufferedInput; omega)]
    split
    · rename_i new rest hnew
      rw [hnew] at happend
      exact .inl ⟨herror, happend⟩
    · rename_i new e hnew
      rw [hnew] at happend
      exact .inr ⟨e, rfl, happend⟩
  · rw [feed_of_error (by simp [herror])]
    rw [List.append_nil]
    exact .inr ⟨e, herror, frameParser.drain_append_of_error piece hdrain⟩

theorem Decoded.feedAll {decoder : FrameDecoder} {seen : Bytes} {frames : List Frame}
    {pieces : List Bytes} (h : decoder.Decoded seen frames)
    (small : ∀ piece ∈ pieces, piece.length ≤ kLengthPrefixSize + kMaximumFrameLength) :
    (decoder.feedAll pieces).2.Decoded (seen ++ pieces.flatten)
      (frames ++ (decoder.feedAll pieces).1) := by
  induction pieces generalizing decoder seen frames with
  | nil => simpa [FrameDecoder.feedAll] using h
  | cons piece pieces ih =>
    have hrest := ih (h.feed (small piece List.mem_cons_self))
      fun other hother => small other (List.mem_cons_of_mem _ hother)
    rw [List.append_assoc, List.append_assoc] at hrest
    exact hrest

/-- **A stream decodes the same however it is cut.**  Fed in pieces no larger than a frame,
a new decoder emits the frames of the reference and ends with its error; the error is never
the buffer limit, and a decoder without one keeps less than a frame; after an error nothing
is emitted any more, until `Reset` makes the decoder a new one; and the encodings of frames,
one after the other, decode to these frames. -/
theorem feedAll_decodes (pieces : List Bytes)
    (small : ∀ piece ∈ pieces, piece.length ≤ 8196) :
    (∀ frames outcome, Reference pieces.flatten frames outcome ↔
      frames = (feedAll {} pieces).1 ∧ outcome = (feedAll {} pieces).2.error) ∧
    (feedAll {} pieces).2.error ≠ some .bufferLimit ∧
    ((feedAll {} pieces).2.error = none → (feedAll {} pieces).2.buffer.length ≤ 8195) ∧
    ((feedAll {} pieces).2.error ≠ none → ∀ later,
      (feedAll {} pieces).2.feedAll later = ([], (feedAll {} pieces).2)) ∧
    (feedAll {} pieces).2.reset = {} ∧
    ∀ frames : List Frame, (∀ frame ∈ frames, frame.encode ≠ []) →
      pieces.flatten = (frames.map Frame.encode).flatten →
      feedAll {} pieces = (frames, {}) := by
  have hstart : Decoded {} [] [] := .inl ⟨rfl, rfl⟩
  have hdecoded := hstart.feedAll small
  rw [List.nil_append, List.nil_append] at hdecoded
  refine ⟨fun frames outcome => ?_, ?_, fun hnone => ?_, fun herror => feedAll_of_error herror,
    rfl, fun frames hfits hflatten => ?_⟩
  · rw [reference_iff]
    obtain ⟨herror, hdrain⟩ | ⟨e, herror, hdrain⟩ := hdecoded <;> rw [hdrain, herror] <;> rfl
  · obtain ⟨herror, -⟩ | ⟨e, herror, hdrain⟩ := hdecoded
    · simp [herror]
    · rw [herror, ne_eq, Option.some.injEq]
      rintro rfl
      exact drain_ne_bufferLimit hdrain
  · obtain ⟨-, hdrain⟩ | ⟨e, herror, -⟩ := hdecoded
    · exact Nat.le_of_lt_succ (length_of_drain_ok hdrain)
    · cases hnone.symm.trans herror
  · have hall : ∀ frame ∈ frames, frame.Fits := fun frame hframe =>
      Frame.encode_ne_nil_iff.mp (hfits frame hframe)
    have hdrains := drain_flatten_encode frames hall
    rw [← hflatten] at hdrains
    obtain ⟨herror, hdrain⟩ | ⟨e, -, hdrain⟩ := hdecoded
    · obtain ⟨hframes, hbuffer⟩ := Prod.mk.inj (hdrain.symm.trans hdrains)
      refine Prod.ext hframes ?_
      generalize (FrameDecoder.feedAll {} pieces).2 = last at herror hbuffer
      cases last
      cases herror
      cases hbuffer
      rfl
    · cases (Prod.mk.inj (hdrain.symm.trans hdrains)).2

/-- A frame that arrives in two pieces. -/
theorem feedAll_two_pieces : (∀ piece ∈ [(encodeFrame .heartbeat 7 [1]).take 9,
      (encodeFrame .heartbeat 7 [1]).drop 9], piece.length ≤ 8196) ∧
    feedAll {} [(encodeFrame .heartbeat 7 [1]).take 9, (encodeFrame .heartbeat 7 [1]).drop 9] =
      ([⟨.heartbeat, 7, [1]⟩], {}) :=
  have hsmall : ∀ piece ∈ [(encodeFrame .heartbeat 7 [1]).take 9,
      (encodeFrame .heartbeat 7 [1]).drop 9], piece.length ≤ 8196 := by decide
  ⟨hsmall, (feedAll_decodes _ hsmall).2.2.2.2.2 [⟨.heartbeat, 7, [1]⟩] (by decide) (by decide)⟩

end FrameDecoder

end EcSystemCore
