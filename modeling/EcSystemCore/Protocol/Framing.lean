import EcSystemCore.Lib.Incremental
import EcSystemCore.Protocol.Payloads

/-!
# Frames and the frame decoder

`EncodeFrame` and `FrameDecoder` of `protocol.hpp`.  The decoder's loop takes one
frame at a time off the front of its buffer; one turn of that loop is
`parseFrame`.  More input never changes what a turn has answered
(`frameParser`), so the frames of a byte stream are those of `framesOf`,
however the stream was cut into pieces (`feed_drain`).
-/

namespace EcSystemCore

open Incremental

/-- `kMagic`. -/
def kMagic : Bytes := ascii "ECSC"

/-- `kVersion`. -/
def kVersion : UInt8 := 1

/-- `kEnvelopeSize`, which is also `kMinimumFrameLength`. -/
def kEnvelopeSize : ℕ := 12

/-- `kLengthPrefixSize`. -/
def kLengthPrefixSize : ℕ := 4

/-- `kMaximumFrameLength`. -/
def kMaximumFrameLength : ℕ := 8192

/-- `kMaximumBufferedInput`. -/
def kMaximumBufferedInput : ℕ := 2 * (kLengthPrefixSize + kMaximumFrameLength)

/-- `Frame`. -/
structure Frame where
  type : MessageType := .error
  requestId : UInt32 := 0
  payload : Bytes := []
  deriving DecidableEq, Repr

/-- `EncodeFrame`; a payload that does not fit gives the empty encoding. -/
def encodeFrame (type : MessageType) (requestId : UInt32) (payload : Bytes) : Bytes :=
  let frameLength := kEnvelopeSize + payload.length
  if frameLength > kMaximumFrameLength then []
  else le32 (UInt32.ofNat frameLength) ++ kMagic ++ [kVersion, type.code] ++ le16 0 ++
    le32 requestId ++ payload

/-- `FrameDecoder::Error`, without `None`. -/
inductive FrameError where
  | bufferLimit | invalidLength | invalidMagic | unsupportedVersion | reservedFlags
  | invalidMessageType
  deriving DecidableEq, Repr

/-- The part of a loop turn that looks inside a frame all of whose bytes are there. -/
def decodeEnvelope (frame : Bytes) : Except FrameError Frame :=
  if (frame.drop kLengthPrefixSize).take 4 ≠ kMagic then .error .invalidMagic
  else if frame[8]? ≠ some kVersion then .error .unsupportedVersion
  else if readLe16 frame 10 ≠ some 0 then .error .reservedFlags
  else
    match readLe32 frame 12, frame[9]?.bind MessageType.ofCode? with
    | none, _ => .error .invalidLength
    | some _, none => .error .invalidMessageType
    | some requestId, some type =>
      .ok ⟨type, requestId, frame.drop (kLengthPrefixSize + kEnvelopeSize)⟩

/-- One turn of the decoder's loop on the unread part of its buffer. -/
def parseFrame (buffer : Bytes) : Parsed UInt8 Frame FrameError :=
  match readLe32 buffer 0 with
  -- fewer than `kLengthPrefixSize` bytes: the loop ends
  | none => .more
  | some frameLength =>
    let totalLength := kLengthPrefixSize + frameLength.toNat
    if frameLength.toNat < kEnvelopeSize ∨ kMaximumFrameLength < frameLength.toNat then
      .error .invalidLength
    else if (buffer.take totalLength).length < totalLength then .more
    else
      match decodeEnvelope (buffer.take totalLength) with
      | .error e => .error e
      | .ok frame => .item frame (buffer.drop totalLength)

/-! ### More input does not change an answer -/

theorem readLe32_append {bytes : Bytes} {value : UInt32} (more : Bytes)
    (h : readLe32 bytes 0 = some value) : readLe32 (bytes ++ more) 0 = some value := by
  unfold readLe32 at h ⊢
  rw [List.drop_zero] at h ⊢
  split at h
  · simpa using h
  · cases h

/-- The frame at the front of a buffer that holds all of it: the length its header
announces, and its bytes. -/
def WholeFrame (buffer : Bytes) (frameLength : UInt32) : Prop :=
  readLe32 buffer 0 = some frameLength ∧ kEnvelopeSize ≤ frameLength.toNat ∧
    frameLength.toNat ≤ kMaximumFrameLength ∧
      kLengthPrefixSize + frameLength.toNat ≤ buffer.length

theorem parseFrame_of_whole {buffer : Bytes} {frameLength : UInt32}
    (h : WholeFrame buffer frameLength) :
    parseFrame buffer =
      match decodeEnvelope (buffer.take (kLengthPrefixSize + frameLength.toNat)) with
      | .error e => .error e
      | .ok frame => .item frame (buffer.drop (kLengthPrefixSize + frameLength.toNat)) := by
  obtain ⟨hread, hmin, hmax, hlen⟩ := h
  simp only [parseFrame, hread]
  rw [if_neg (by omega), if_neg (by simp; omega)]

theorem WholeFrame.append {buffer : Bytes} {frameLength : UInt32}
    (h : WholeFrame buffer frameLength) (more : Bytes) :
    WholeFrame (buffer ++ more) frameLength := by
  obtain ⟨hread, hmin, hmax, hlen⟩ := h
  refine ⟨readLe32_append more hread, hmin, hmax, ?_⟩
  rw [List.length_append]
  omega

/-- A turn ends in one of four ways. -/
theorem parseFrame_cases (buffer : Bytes) :
    parseFrame buffer = .more ∨
    (∃ frameLength, readLe32 buffer 0 = some frameLength ∧
      (frameLength.toNat < kEnvelopeSize ∨ kMaximumFrameLength < frameLength.toNat) ∧
      parseFrame buffer = .error .invalidLength) ∨
    ∃ frameLength, WholeFrame buffer frameLength := by
  unfold parseFrame
  split
  · exact .inl rfl
  · rename_i frameLength hread
    dsimp only
    split
    · rename_i hbad
      exact .inr (.inl ⟨frameLength, hread, hbad, rfl⟩)
    · rename_i hgood
      split
      · exact .inl rfl
      · rename_i hwhole
        rw [List.length_take] at hwhole
        exact .inr (.inr ⟨frameLength, hread, by omega, by omega, by omega⟩)

/-- What a turn says about a whole frame it says about every buffer that starts
with it. -/
theorem parseFrame_append_of_whole {buffer : Bytes} {frameLength : UInt32}
    (h : WholeFrame buffer frameLength) (more : Bytes) :
    parseFrame (buffer ++ more) =
      match parseFrame buffer with
      | .more => .more
      | .error e => .error e
      | .item frame rest => .item frame (rest ++ more) := by
  rw [parseFrame_of_whole h, parseFrame_of_whole (h.append more),
    List.take_append_of_le_length h.2.2.2, List.drop_append_of_le_length h.2.2.2]
  cases decodeEnvelope (buffer.take (kLengthPrefixSize + frameLength.toNat)) <;> rfl

theorem parseFrame_error_append {buffer : Bytes} {e : FrameError} (more : Bytes)
    (h : parseFrame buffer = .error e) : parseFrame (buffer ++ more) = .error e := by
  obtain hmore | ⟨frameLength, hread, hbad, herror⟩ | ⟨frameLength, hwhole⟩ :=
    parseFrame_cases buffer
  · rw [hmore] at h
    cases h
  · rw [← h, herror]
    simp only [parseFrame, readLe32_append more hread]
    rw [if_pos hbad]
  · rw [parseFrame_append_of_whole hwhole, h]

theorem parseFrame_item_append {buffer rest : Bytes} {frame : Frame} (more : Bytes)
    (h : parseFrame buffer = .item frame rest) :
    parseFrame (buffer ++ more) = .item frame (rest ++ more) := by
  obtain hmore | ⟨frameLength, hread, hbad, herror⟩ | ⟨frameLength, hwhole⟩ :=
    parseFrame_cases buffer
  · rw [hmore] at h
    cases h
  · rw [herror] at h
    cases h
  · rw [parseFrame_append_of_whole hwhole, h]

theorem parseFrame_shorter {buffer rest : Bytes} {frame : Frame}
    (h : parseFrame buffer = .item frame rest) : rest.length < buffer.length := by
  obtain hmore | ⟨frameLength, hread, hbad, herror⟩ | ⟨frameLength, hwhole⟩ :=
    parseFrame_cases buffer
  · rw [hmore] at h
    cases h
  · rw [herror] at h
    cases h
  · rw [parseFrame_of_whole hwhole] at h
    obtain ⟨-, hmin, -, hlen⟩ := hwhole
    split at h
    · cases h
    · cases h
      rw [List.length_drop]
      unfold kEnvelopeSize at hmin
      omega

/-- The decoder's loop as an incremental parser. -/
def frameParser : Parser UInt8 Frame FrameError where
  parse := parseFrame
  shorter := parseFrame_shorter
  item_append := parseFrame_item_append
  error_append := parseFrame_error_append

/-- The frames encoded in a byte stream, up to the first malformed one. -/
def framesOf (stream : Bytes) : List Frame := (frameParser.drain stream).1

/-! ### The decoder -/

/-- `FrameDecoder`; `none` is `Error::None`. -/
structure FrameDecoder where
  buffer : Bytes := []
  error : Option FrameError := none
  deriving DecidableEq, Repr

/-- `Feed`: whether it succeeded, the frames it decoded and the decoder after it. -/
def FrameDecoder.feed (decoder : FrameDecoder) (bytes : Bytes) :
    Bool × List Frame × FrameDecoder :=
  if decoder.error.isSome then (false, [], decoder)
  else if bytes.length > kMaximumBufferedInput ∨
      decoder.buffer.length > kMaximumBufferedInput - bytes.length then
    (false, [], { decoder with error := some .bufferLimit })
  else
    match frameParser.drain (decoder.buffer ++ bytes) with
    | (frames, .ok rest) => (true, frames, { decoder with buffer := rest })
    | (frames, .error e) => (false, frames, ⟨decoder.buffer ++ bytes, some e⟩)

/-- **A decoder that never failed has read the stream.**  When the frames of the
bytes seen so far are `frames` with the decoder's buffer left over, a successful
`Feed` adds exactly the frames the new bytes complete. -/
theorem FrameDecoder.feed_drain {decoder next : FrameDecoder} {seen bytes : Bytes}
    {frames new : List Frame}
    (hseen : frameParser.drain seen = (frames, .ok decoder.buffer))
    (hfeed : decoder.feed bytes = (true, new, next)) :
    frameParser.drain (seen ++ bytes) = (frames ++ new, .ok next.buffer) := by
  unfold feed at hfeed
  split at hfeed
  · cases hfeed
  · split at hfeed
    · cases hfeed
    · split at hfeed
      · rename_i hdrain
        cases hfeed
        rw [frameParser.drain_append bytes hseen, hdrain]
      · cases hfeed

end EcSystemCore
