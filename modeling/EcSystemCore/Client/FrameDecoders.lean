import EcSystemCore.Client.CodecAgreement
import EcSystemCore.Protocol.FrameStream

/-!
# The frame decoders of the clients

`FrameDecoder` of `EcscProtocol.java` and of `_protocol.py`, beside the one of `protocol.hpp`.
Both append a piece to their buffer, go over it with an offset, one frame a turn, and then
drop what they have gone over; `feedWith` is that, for the turn of either.  A turn agrees with
the C++ one (`ReadsFrames`) when it stops, takes a frame or fails at the same bytes; then whole
streams are decoded alike, whatever the pieces are (`frame_decoders_agree`).
-/

namespace EcSystemCore

open Incremental

/-- A frame as the Java and the Python decoder return it. -/
structure ReceivedFrame where
  type : ℕ
  requestId : ℕ
  payload : Bytes
  deriving DecidableEq, Repr

/-- The frame in the terms of the clients. -/
def Frame.received (frame : Frame) : ReceivedFrame :=
  ⟨frame.type.code.toNat, frame.requestId.toNat, frame.payload⟩

/-- A turn of a decoder's loop. -/
inductive Turn where
  /-- The loop ends. -/
  | stop
  | frame (frame : ReceivedFrame) (totalBytes : ℕ)
  | throw (message : String)
  deriving DecidableEq, Repr

/-- The loop over the buffer from an offset on: the frames and the offset reached. -/
def decodeLoop (turn : Bytes → ℕ → Turn) (buffer : Bytes) :
    ℕ → ℕ → List ReceivedFrame → Except String (List ReceivedFrame × ℕ)
  | 0, offset, frames => .ok (frames, offset)
  | fuel + 1, offset, frames =>
    match turn buffer offset with
    | .stop => .ok (frames, offset)
    | .throw message => .error message
    | .frame frame totalBytes =>
      decodeLoop turn buffer fuel (offset + totalBytes) (frames ++ [frame])

/-- `feed` of the Java and the Python decoder: the frames or an exception, and the buffer. -/
def feedWith (turn : Bytes → ℕ → Turn) (buffer input : Bytes) :
    Except String (List ReceivedFrame) × Bytes :=
  if (input.length : ℤ) > kMaximumBufferedInput - buffer.length then
    (.error "ECSC input buffer exceeded its limit", [])
  else
    let buffer := buffer ++ input
    match decodeLoop turn buffer (buffer.length + 1) 0 [] with
    | .error message => (.error message, [])
    | .ok (frames, offset) => (.ok frames, buffer.drop offset)

/-! ### The Java decoder -/

namespace Java

/-- `knownMessageType`. -/
def knownMessageType (type : ℕ) : Bool :=
  (0x01 ≤ type && type ≤ 0x09) || (0x80 ≤ type && type ≤ 0x86)

/-- `unsignedByte` of an element of an array. -/
def unsignedByteAt (bytes : Bytes) (offset : ℕ) : ℕ := (bytes.getD offset 0).toNat

/-- `readUnsignedShort`. -/
def readUnsignedShort (bytes : Bytes) (offset : ℕ) : ℕ :=
  unsignedByteAt bytes offset ||| unsignedByteAt bytes (offset + 1) <<< 8

/-- `readUnsignedInt`. -/
def readUnsignedInt (bytes : Bytes) (offset : ℕ) : ℕ :=
  unsignedByteAt bytes offset ||| unsignedByteAt bytes (offset + 1) <<< 8 |||
    unsignedByteAt bytes (offset + 2) <<< 16 ||| unsignedByteAt bytes (offset + 3) <<< 24

/-- A turn of the loop of `feed`. -/
def frameTurn (buffer : Bytes) (offset : ℕ) : Turn :=
  let size := buffer.length
  if size - offset < kLengthPrefixSize then .stop
  else
    let bodyUnsigned := readUnsignedInt buffer offset
    if bodyUnsigned < kEnvelopeSize ∨ bodyUnsigned > kMaximumFrameLength then
      .throw ("invalid ECSC frame length " ++ toString bodyUnsigned)
    else
      let totalBytes := kLengthPrefixSize + bodyUnsigned
      if size - offset < totalBytes then .stop
      else
        let bodyOffset := offset + kLengthPrefixSize
        if (buffer.drop bodyOffset).take kMagic.length ≠ kMagic then .throw "invalid ECSC magic"
        else
          let version := unsignedByteAt buffer (bodyOffset + 4)
          let type := unsignedByteAt buffer (bodyOffset + 5)
          let flags := readUnsignedShort buffer (bodyOffset + 6)
          let requestId := readUnsignedInt buffer (bodyOffset + 8)
          if version ≠ 1 ∨ flags ≠ 0 ∨ !knownMessageType type then
            .throw "unsupported ECSC version, flags, or type"
          else
            let payloadOffset := bodyOffset + kEnvelopeSize
            .frame ⟨type, requestId, (buffer.take (offset + totalBytes)).drop payloadOffset⟩
              totalBytes

/-- `FrameDecoder.feed`. -/
def feed (buffer input : Bytes) : Except String (List ReceivedFrame) × Bytes :=
  feedWith frameTurn buffer input

end Java

/-! ### The Python decoder -/

namespace Python

/-- `_ENVELOPE`, `<4sBBHI`. -/
def envelopeStruct :=
  (Wire.u8.pair (Wire.u8.pair (Wire.u8.pair Wire.u8))).pair
    (Wire.u8.pair (Wire.u8.pair (Wire.u16.pair Wire.u32)))

/-- `known_message_type`. -/
def knownMessageType (messageType : ℕ) : Bool :=
  (0x01 ≤ messageType && messageType ≤ 0x09) || (0x80 ≤ messageType && messageType ≤ 0x86)

/-- A turn of the loop of `feed`; the `struct.error` of `unpack_from` is not reached. -/
def frameTurn (buffer : Bytes) (offset : ℕ) : Turn :=
  if buffer.length - offset < kLengthPrefixSize then .stop
  else
    match unpackFrom Wire.u32 (buffer.drop offset) with
    | none => .throw "unpack_from requires a buffer of at least 4 bytes"
    | some bodySize =>
      if ¬(kEnvelopeSize ≤ bodySize.toNat ∧ bodySize.toNat ≤ kMaximumFrameLength) then
        .throw "invalid ECSC frame length"
      else
        let totalSize := kLengthPrefixSize + bodySize.toNat
        if buffer.length - offset < totalSize then .stop
        else
          match unpackFrom envelopeStruct (buffer.drop (offset + kLengthPrefixSize)) with
          | none => .throw "unpack_from requires a buffer of at least 12 bytes"
          | some ((m₀, m₁, m₂, m₃), version, messageType, flags, requestId) =>
            if [m₀, m₁, m₂, m₃] ≠ kMagic ∨ version ≠ 1 ∨ flags ≠ 0 ∨
                !knownMessageType messageType.toNat then
              .throw "invalid ECSC envelope"
            else
              let payloadOffset := offset + kLengthPrefixSize + kEnvelopeSize
              .frame ⟨messageType.toNat, requestId.toNat,
                (buffer.take (offset + totalSize)).drop payloadOffset⟩ totalSize

/-- `FrameDecoder.feed`. -/
def feed (buffer input : Bytes) : Except String (List ReceivedFrame) × Bytes :=
  feedWith frameTurn buffer input

end Python

/-! ### Turns that agree -/

/-- A turn stops, fails or takes a frame off as its bytes from the offset on ask for: too few
of them, a length out of range, or a whole frame with a sound or an unsound envelope. -/
structure ReadsFrames (turn : Bytes → ℕ → Turn) : Prop where
  short : ∀ passed rest, rest.length < kLengthPrefixSize →
    turn (passed ++ rest) passed.length = .stop
  unfinished : ∀ passed frameLength body, ValidLength frameLength →
    body.length < frameLength.toNat →
      turn (passed ++ (le32 frameLength ++ body)) passed.length = .stop
  invalidLength : ∀ passed frameLength body, ¬ValidLength frameLength →
    ∃ message, turn (passed ++ (le32 frameLength ++ body)) passed.length = .throw message
  whole : ∀ passed frameLength magic version code flags requestId payload,
    ValidLength frameLength → magic.length = 4 →
      frameLength.toNat ≤ kEnvelopeSize + payload.length →
        match readEnvelope magic version code flags with
        | .error _ => ∃ message, turn (passed ++ (le32 frameLength ++
            envelope magic version code flags requestId payload)) passed.length = .throw message
        | .ok type => turn (passed ++ (le32 frameLength ++
            envelope magic version code flags requestId payload)) passed.length =
              .frame ⟨type.code.toNat, requestId.toNat,
                payload.take (frameLength.toNat - kEnvelopeSize)⟩
                (kLengthPrefixSize + frameLength.toNat)

variable {turn : Bytes → ℕ → Turn}

/-- A turn fails on an unsound envelope. -/
theorem ReadsFrames.malformed (hturn : ReadsFrames turn) (passed : Bytes) {frameLength : UInt32}
    {magic : Bytes} {version code : UInt8} {flags : UInt16} (requestId : UInt32)
    (payload : Bytes) {error : FrameError} (valid : ValidLength frameLength)
    (four : magic.length = 4) (whole : frameLength.toNat ≤ kEnvelopeSize + payload.length)
    (wrong : readEnvelope magic version code flags = .error error) :
    ∃ message, turn (passed ++ (le32 frameLength ++
      envelope magic version code flags requestId payload)) passed.length = .throw message := by
  have hwhole := hturn.whole passed frameLength magic version code flags requestId payload
    valid four whole
  rw [wrong] at hwhole
  exact hwhole

/-- A turn takes an encoded frame. -/
theorem ReadsFrames.sound (hturn : ReadsFrames turn) (passed : Bytes) {frame : Frame}
    (rest : Bytes) (h : frame.Fits) :
    turn (passed ++ (frame.encode ++ rest)) passed.length =
      .frame frame.received frame.encode.length := by
  have hlength := Frame.lengthField_toNat h
  have hwhole := hturn.whole passed frame.lengthField kMagic kVersion frame.type.code 0
    frame.requestId (frame.payload ++ rest) (Frame.validLength h) rfl (by rw [hlength]; simp)
  rw [readEnvelope_code] at hwhole
  rw [Frame.encode_length h, Frame.encode_append h, hwhole, hlength]
  simp [Frame.received]

/-- The loop computes what draining the bytes from the offset on computes. -/
theorem ReadsFrames.decodeLoop_eq (hturn : ReadsFrames turn) (rest : Bytes) :
    ∀ (passed : Bytes) (fuel : ℕ) (frames : List ReceivedFrame), rest.length < fuel →
      match frameParser.drain rest with
      | (new, .ok left) => ∃ offset,
          decodeLoop turn (passed ++ rest) fuel passed.length frames =
              .ok (frames ++ new.map Frame.received, offset) ∧
            (passed ++ rest).drop offset = left
      | (_, .error _) => ∃ message,
          decodeLoop turn (passed ++ rest) fuel passed.length frames = .error message := by
  induction rest using frameParser.drain_induction with
  | more rest hparse =>
    intro passed fuel frames hfuel
    obtain ⟨fuel, rfl⟩ : ∃ n, fuel = n + 1 := ⟨fuel - 1, by omega⟩
    have hstop : turn (passed ++ rest) passed.length = .stop := by
      obtain ⟨outcome, htail⟩ | ⟨frame, left, hfits, rfl⟩ := tail_or_encode rest
      · have houtcome := htail.parseFrame_eq.symm.trans hparse
        cases htail with
        | short few => exact hturn.short passed rest few
        | unfinished valid few => exact hturn.unfinished passed _ _ valid few
        | invalidLength => cases houtcome
        | malformed => cases houtcome
      · cases (parseFrame_encode hfits left).symm.trans hparse
    rw [frameParser.drain_of_more hparse]
    exact ⟨passed.length, by simp [decodeLoop, hstop], List.drop_left⟩
  | error rest e hparse =>
    intro passed fuel frames hfuel
    obtain ⟨fuel, rfl⟩ : ∃ n, fuel = n + 1 := ⟨fuel - 1, by omega⟩
    obtain ⟨message, hthrow⟩ : ∃ message,
        turn (passed ++ rest) passed.length = .throw message := by
      obtain ⟨outcome, htail⟩ | ⟨frame, left, hfits, rfl⟩ := tail_or_encode rest
      · have houtcome := htail.parseFrame_eq.symm.trans hparse
        cases htail with
        | short => cases houtcome
        | unfinished => cases houtcome
        | invalidLength invalid => exact hturn.invalidLength passed _ _ invalid
        | malformed valid four whole wrong =>
          exact hturn.malformed passed _ _ valid four whole wrong
      · cases (parseFrame_encode hfits left).symm.trans hparse
    rw [frameParser.drain_of_error hparse]
    exact ⟨message, by simp [decodeLoop, hthrow]⟩
  | item rest frame left hparse ih =>
    intro passed fuel frames hfuel
    obtain ⟨fuel, rfl⟩ : ∃ n, fuel = n + 1 := ⟨fuel - 1, by omega⟩
    obtain ⟨outcome, htail⟩ | ⟨other, tail, hfits, rfl⟩ := tail_or_encode rest
    · have houtcome := htail.parseFrame_eq.symm.trans hparse
      cases outcome <;> cases houtcome
    · cases (parseFrame_encode hfits tail).symm.trans hparse
      -- the rest of the loop runs with the frame among the bytes it has passed
      have hpos := Frame.encode_length hfits
      have hrest := ih (passed ++ frame.encode) fuel (frames ++ [frame.received])
        (by unfold kEnvelopeSize at hpos; rw [List.length_append] at hfuel; omega)
      rw [List.append_assoc, List.length_append] at hrest
      have hloop : decodeLoop turn (passed ++ (frame.encode ++ left)) (fuel + 1)
          passed.length frames =
            decodeLoop turn (passed ++ (frame.encode ++ left)) fuel
              (passed.length + frame.encode.length) (frames ++ [frame.received]) := by
        simp only [decodeLoop, hturn.sound passed left hfits]
      rw [frameParser.drain_of_item hparse, hloop]
      cases hdrain : frameParser.drain left with
      | mk new outcome =>
        rw [hdrain] at hrest
        cases outcome with
        | error e => exact hrest
        | ok remaining => simpa using hrest

/-- A piece is decoded as the C++ decoder decodes it. -/
theorem ReadsFrames.feedWith_eq (hturn : ReadsFrames turn) (buffer input : Bytes) :
    match FrameDecoder.feed ⟨buffer, none⟩ input with
    | (true, frames, next) => next.error = none ∧
        feedWith turn buffer input = (.ok (frames.map Frame.received), next.buffer)
    | (false, _, _) => ∃ message, (feedWith turn buffer input).1 = .error message := by
  have hloop := hturn.decodeLoop_eq (buffer ++ input) [] ((buffer ++ input).length + 1) []
    (Nat.lt_succ_self _)
  by_cases hlimit : input.length > kMaximumBufferedInput ∨
      buffer.length > kMaximumBufferedInput - input.length
  · have hfeed : FrameDecoder.feed ⟨buffer, none⟩ input =
        (false, [], ⟨buffer, some .bufferLimit⟩) := by
      simp [FrameDecoder.feed, hlimit]
    rw [hfeed]
    refine ⟨"ECSC input buffer exceeded its limit", ?_⟩
    unfold feedWith
    rw [if_pos (by omega)]
  · unfold FrameDecoder.feed feedWith
    rw [if_neg (by simp), if_neg hlimit, if_neg (by omega)]
    cases hdrain : frameParser.drain (buffer ++ input) with
    | mk frames outcome =>
      rw [hdrain] at hloop
      cases outcome with
      | error e =>
        obtain ⟨message, hloop⟩ := hloop
        refine ⟨message, ?_⟩
        simp only [List.nil_append, List.length_nil] at hloop
        simp only [hloop]
      | ok left =>
        obtain ⟨offset, hloop, hleft⟩ := hloop
        refine ⟨rfl, ?_⟩
        simp only [List.nil_append, List.length_nil] at hloop hleft
        simp only [hloop, hleft]

/-! ### What the bytes of a frame say -/

theorem unread_le32 (passed body : Bytes) (frameLength : UInt32) :
    (passed ++ (le32 frameLength ++ body)).length - passed.length =
      kLengthPrefixSize + body.length := by
  simp [le32, kLengthPrefixSize]
  omega

theorem readEnvelope_of_known {version code : UInt8} {flags : UInt16}
    (hversion : version.toNat = 1) (hflags : flags.toNat = 0)
    (hcode : (MessageType.ofCode? code).isSome) :
    ∃ type, readEnvelope kMagic version code flags = .ok type := by
  obtain ⟨type, htype⟩ := Option.isSome_iff_exists.mp hcode
  obtain rfl : version = kVersion := UInt8.toNat_inj.mp hversion
  obtain rfl : flags = 0 := UInt16.toNat_inj.mp hflags
  exact ⟨type, by simp [readEnvelope, htype]⟩

/-- `known_message_type` of both clients knows the codes of the C++ enumeration. -/
theorem Java.knownMessageType_eq (code : UInt8) :
    Java.knownMessageType code.toNat = (MessageType.ofCode? code).isSome := by
  have hall : ∀ n < 256, Java.knownMessageType n =
      (MessageType.ofCode? (UInt8.ofNat n)).isSome := by
    decide +kernel
  simpa using hall code.toNat code.toNat_lt

/-! ### The turns of Java -/

namespace Java

theorem unsignedByteAt_append (front rest : Bytes) (index : ℕ) :
    unsignedByteAt (front ++ rest) (front.length + index) = unsignedByteAt rest index := by
  unfold unsignedByteAt
  rw [List.getD_eq_getElem?_getD, List.getD_eq_getElem?_getD,
    List.getElem?_append_right (Nat.le_add_right _ _), Nat.add_sub_cancel_left]

/-- Bits above those of a number are added to it. -/
theorem or_shiftLeft {low width : ℕ} (h : low < 2 ^ width) (high : ℕ) :
    low ||| high <<< width = low + high * 2 ^ width := by
  rw [Nat.or_comm, ← Nat.shiftLeft_add_eq_or_of_lt h, Nat.shiftLeft_eq, Nat.add_comm]

theorem readUnsignedShort_le16 (front rest : Bytes) (value : UInt16) :
    readUnsignedShort (front ++ (le16 value ++ rest)) front.length = value.toNat := by
  have hlow := value.toUInt8.toNat_lt
  have hbytes : readUnsignedShort (front ++ (le16 value ++ rest)) front.length =
      value.toUInt8.toNat ||| (value >>> 8).toUInt8.toNat <<< 8 := by
    unfold readUnsignedShort
    rw [unsignedByteAt_append front _ 1, ← Nat.add_zero front.length,
      unsignedByteAt_append front _ 0]
    rfl
  rw [hbytes, or_shiftLeft hlow]
  simp only [UInt16.toNat_toUInt8, UInt16.toNat_shiftRight, Nat.shiftRight_eq_div_pow,
    UInt16.reduceToNat, Nat.reduceMod, Nat.reducePow]
  have := value.toNat_lt
  omega

theorem readUnsignedInt_le32 (front rest : Bytes) (value : UInt32) :
    readUnsignedInt (front ++ (le32 value ++ rest)) front.length = value.toNat := by
  have hbytes : readUnsignedInt (front ++ (le32 value ++ rest)) front.length =
      value.toUInt8.toNat ||| (value >>> 8).toUInt8.toNat <<< 8 |||
        (value >>> 16).toUInt8.toNat <<< 16 ||| (value >>> 24).toUInt8.toNat <<< 24 := by
    unfold readUnsignedInt
    rw [unsignedByteAt_append front _ 1, unsignedByteAt_append front _ 2,
      unsignedByteAt_append front _ 3, ← Nat.add_zero front.length,
      unsignedByteAt_append front _ 0]
    rfl
  have h₀ := value.toUInt8.toNat_lt
  have h₁ := (value >>> 8).toUInt8.toNat_lt
  have h₂ := (value >>> 16).toUInt8.toNat_lt
  rw [hbytes, @or_shiftLeft _ 8 h₀, @or_shiftLeft _ 16 (by omega), @or_shiftLeft _ 24 (by omega)]
  simp only [UInt32.toNat_toUInt8, UInt32.toNat_shiftRight, Nat.shiftRight_eq_div_pow,
    UInt32.reduceToNat, Nat.reduceMod, Nat.reducePow]
  have := value.toNat_lt
  omega

/-- A turn on a frame all of whose bytes are there. -/
theorem frameTurn_envelope (passed : Bytes) {frameLength : UInt32} {magic : Bytes}
    (version code : UInt8) (flags : UInt16) (requestId : UInt32) (payload : Bytes)
    (valid : ValidLength frameLength) (four : magic.length = 4)
    (whole : frameLength.toNat ≤ kEnvelopeSize + payload.length) :
    frameTurn (passed ++ (le32 frameLength ++
        envelope magic version code flags requestId payload)) passed.length =
      if magic ≠ kMagic then .throw "invalid ECSC magic"
      else if version.toNat ≠ 1 ∨ flags.toNat ≠ 0 ∨ !knownMessageType code.toNat then
        .throw "unsupported ECSC version, flags, or type"
      else .frame ⟨code.toNat, requestId.toNat, payload.take (frameLength.toNat - kEnvelopeSize)⟩
        (kLengthPrefixSize + frameLength.toNat) := by
  obtain ⟨hmin, hmax⟩ := valid
  match magic, four with
  | [m₀, m₁, m₂, m₃], _ =>
    generalize hbuffer : passed ++ (le32 frameLength ++
      envelope [m₀, m₁, m₂, m₃] version code flags requestId payload) = buffer
    have hlength : buffer.length - passed.length = 16 + payload.length := by
      simp [← hbuffer, envelope, le32, le16]
      omega
    have hsize : readUnsignedInt buffer passed.length = frameLength.toNat := by
      rw [← hbuffer]
      exact readUnsignedInt_le32 _ _ _
    have hmagic : (buffer.drop (passed.length + 4)).take kMagic.length = [m₀, m₁, m₂, m₃] := by
      rw [← hbuffer, List.drop_length_add_append]
      rfl
    have hversion : unsignedByteAt buffer (passed.length + 4 + 4) = version.toNat := by
      rw [← hbuffer, Nat.add_assoc, unsignedByteAt_append]
      rfl
    have hcode : unsignedByteAt buffer (passed.length + 4 + 5) = code.toNat := by
      rw [← hbuffer, Nat.add_assoc, unsignedByteAt_append]
      rfl
    have hflags : readUnsignedShort buffer (passed.length + 4 + 6) = flags.toNat := by
      have hread := readUnsignedShort_le16
        (passed ++ (le32 frameLength ++ [m₀, m₁, m₂, m₃, version, code]))
        (le32 requestId ++ payload) flags
      simpa [← hbuffer, envelope, le32, Nat.add_assoc] using hread
    have hrequest : readUnsignedInt buffer (passed.length + 4 + 8) = requestId.toNat := by
      have hread := readUnsignedInt_le32
        (passed ++ (le32 frameLength ++ [m₀, m₁, m₂, m₃, version, code] ++ le16 flags))
        payload requestId
      simpa [← hbuffer, envelope, le32, le16, Nat.add_assoc] using hread
    have hpayload : (buffer.take (passed.length + (4 + frameLength.toNat))).drop
        (passed.length + 4 + 12) = payload.take (frameLength.toNat - 12) := by
      rw [List.drop_take, ← hbuffer, Nat.add_assoc, List.drop_length_add_append]
      unfold kEnvelopeSize at hmin
      rw [show passed.length + (4 + frameLength.toNat) - (passed.length + (4 + 12)) =
        frameLength.toNat - 12 by omega]
      rfl
    unfold kEnvelopeSize at hmin whole
    unfold kMaximumFrameLength at hmax
    simp only [frameTurn, kLengthPrefixSize, kEnvelopeSize, kMaximumFrameLength, hlength, hsize,
      hmagic, hversion, hcode, hflags, hrequest, hpayload]
    rw [if_neg (by omega), if_neg (by omega), if_neg (by omega)]
theorem readsFrames : ReadsFrames frameTurn where
  short passed rest few := by
    unfold kLengthPrefixSize at few
    simp [frameTurn, kLengthPrefixSize, few]
  unfinished passed frameLength body valid few := by
    obtain ⟨hmin, hmax⟩ := valid
    simp only [frameTurn, unread_le32, readUnsignedInt_le32]
    rw [if_neg (by omega), if_neg (by omega), if_pos (by omega)]
  invalidLength passed frameLength body invalid := by
    unfold ValidLength at invalid
    simp only [frameTurn, unread_le32, readUnsignedInt_le32]
    rw [if_neg (by omega), if_pos (by omega)]
    exact ⟨_, rfl⟩
  whole passed frameLength magic version code flags requestId payload valid four whole := by
    rw [frameTurn_envelope passed version code flags requestId payload valid four whole]
    split
    · rename_i hread
      by_cases hmagic : magic = kMagic
      · subst hmagic
        rw [if_neg (not_not_intro rfl)]
        by_cases hfields : version.toNat ≠ 1 ∨ flags.toNat ≠ 0 ∨ !knownMessageType code.toNat
        · exact ⟨_, if_pos hfields⟩
        · push Not at hfields
          obtain ⟨hversion, hflags, hcode⟩ := hfields
          have hcode : (MessageType.ofCode? code).isSome = true := by
            simpa only [knownMessageType_eq, Bool.not_eq_true', ne_eq, Bool.not_eq_false] using hcode
          obtain ⟨type, htype⟩ := readEnvelope_of_known hversion hflags hcode
          cases htype.symm.trans hread
      · exact ⟨_, if_pos hmagic⟩
    · rename_i type hread
      obtain ⟨rfl, rfl, rfl, rfl⟩ := readEnvelope_ok hread
      have hknown : knownMessageType type.code.toNat = true := by
        rw [knownMessageType_eq, MessageType.ofCode?_code]
        rfl
      simp [hknown, kVersion]

end Java

/-! ### The turns of Python -/

namespace Python

theorem knownMessageType_eq (code : UInt8) :
    knownMessageType code.toNat = (MessageType.ofCode? code).isSome :=
  Java.knownMessageType_eq code

theorem unpackFrom_le32 (passed rest : Bytes) (value : UInt32) :
    unpackFrom Wire.u32 ((passed ++ (le32 value ++ rest)).drop passed.length) = some value := by
  rw [List.drop_left]
  exact unpackFrom_write Wire.u32 value rest

/-- A turn on a frame all of whose bytes are there. -/
theorem frameTurn_envelope (passed : Bytes) {frameLength : UInt32} {magic : Bytes}
    (version code : UInt8) (flags : UInt16) (requestId : UInt32) (payload : Bytes)
    (valid : ValidLength frameLength) (four : magic.length = 4)
    (whole : frameLength.toNat ≤ kEnvelopeSize + payload.length) :
    frameTurn (passed ++ (le32 frameLength ++
        envelope magic version code flags requestId payload)) passed.length =
      if magic ≠ kMagic ∨ version ≠ 1 ∨ flags ≠ 0 ∨ !knownMessageType code.toNat then
        .throw "invalid ECSC envelope"
      else .frame ⟨code.toNat, requestId.toNat, payload.take (frameLength.toNat - kEnvelopeSize)⟩
        (kLengthPrefixSize + frameLength.toNat) := by
  obtain ⟨hmin, hmax⟩ := valid
  match magic, four with
  | [m₀, m₁, m₂, m₃], _ =>
    have hsize := unpackFrom_le32 passed
      (envelope [m₀, m₁, m₂, m₃] version code flags requestId payload) frameLength
    generalize hbuffer : passed ++ (le32 frameLength ++
      envelope [m₀, m₁, m₂, m₃] version code flags requestId payload) = buffer at hsize ⊢
    have hlength : buffer.length - passed.length = 16 + payload.length := by
      simp [← hbuffer, envelope, le32, le16]
      omega
    have hfields : unpackFrom envelopeStruct (buffer.drop (passed.length + 4)) =
        some ((m₀, m₁, m₂, m₃), version, code, flags, requestId) := by
      rw [← hbuffer, List.drop_length_add_append]
      exact unpackFrom_write envelopeStruct ((m₀, m₁, m₂, m₃), version, code, flags, requestId)
        payload
    have hpayload : (buffer.take (passed.length + (4 + frameLength.toNat))).drop
        (passed.length + 4 + 12) = payload.take (frameLength.toNat - 12) := by
      rw [List.drop_take, ← hbuffer, Nat.add_assoc, List.drop_length_add_append]
      unfold kEnvelopeSize at hmin
      rw [show passed.length + (4 + frameLength.toNat) - (passed.length + (4 + 12)) =
        frameLength.toNat - 12 by omega]
      rfl
    unfold kEnvelopeSize at hmin whole
    unfold kMaximumFrameLength at hmax
    simp only [frameTurn, kLengthPrefixSize, kEnvelopeSize, kMaximumFrameLength, hlength, hsize,
      hfields, hpayload]
    rw [if_neg (by omega), if_neg (by omega), if_neg (by omega)]

theorem readsFrames : ReadsFrames frameTurn where
  short passed rest few := by
    unfold kLengthPrefixSize at few
    simp [frameTurn, kLengthPrefixSize, few]
  unfinished passed frameLength body valid few := by
    obtain ⟨hmin, hmax⟩ := valid
    simp only [frameTurn, unread_le32, unpackFrom_le32]
    rw [if_neg (by omega), if_neg (by omega), if_pos (by omega)]
  invalidLength passed frameLength body invalid := by
    unfold ValidLength at invalid
    simp only [frameTurn, unread_le32, unpackFrom_le32]
    rw [if_neg (by omega), if_pos (by omega)]
    exact ⟨_, rfl⟩
  whole passed frameLength magic version code flags requestId payload valid four whole := by
    rw [frameTurn_envelope passed version code flags requestId payload valid four whole]
    split
    · rename_i hread
      by_cases hfields : magic ≠ kMagic ∨ version ≠ 1 ∨ flags ≠ 0 ∨ !knownMessageType code.toNat
      · exact ⟨_, if_pos hfields⟩
      · push Not at hfields
        obtain ⟨rfl, rfl, rfl, hcode⟩ := hfields
        have hcode : (MessageType.ofCode? code).isSome = true := by
          simpa only [knownMessageType_eq, Bool.not_eq_true', ne_eq, Bool.not_eq_false] using hcode
        obtain ⟨type, htype⟩ := @readEnvelope_of_known 1 code 0 rfl rfl hcode
        cases htype.symm.trans hread
    · rename_i type hread
      obtain ⟨rfl, rfl, rfl, rfl⟩ := readEnvelope_ok hread
      have hknown : knownMessageType type.code.toNat = true := by
        rw [knownMessageType_eq, MessageType.ofCode?_code]
        rfl
      simp [hknown, kVersion]

end Python

/-! ### Whole streams -/

/-- What the C++ decoder says to each piece up to the first that it refuses (`none`). -/
def FrameDecoder.emitted (decoder : FrameDecoder) : List Bytes → List (Option (List ReceivedFrame))
  | [] => []
  | piece :: pieces =>
    match decoder.feed piece with
    | (true, frames, next) => some (frames.map Frame.received) :: next.emitted pieces
    | (false, _, _) => [none]

/-- What a decoder with the given `feed` says to each piece up to the first on which it throws
(`none`). -/
def emittedBy (feed : Bytes → Bytes → Except String (List ReceivedFrame) × Bytes)
    (buffer : Bytes) : List Bytes → List (Option (List ReceivedFrame))
  | [] => []
  | piece :: pieces =>
    match feed buffer piece with
    | (.ok frames, next) => some frames :: emittedBy feed next pieces
    | (.error _, _) => [none]

theorem ReadsFrames.emittedBy_eq (hturn : ReadsFrames turn) (buffer : Bytes)
    (pieces : List Bytes) :
    emittedBy (feedWith turn) buffer pieces = FrameDecoder.emitted ⟨buffer, none⟩ pieces := by
  induction pieces generalizing buffer with
  | nil => rfl
  | cons piece pieces ih =>
    have hfeed := hturn.feedWith_eq buffer piece
    split at hfeed
    · rename_i frames next hcpp
      obtain ⟨herror, hfeed⟩ := hfeed
      have hnext : next = ⟨next.buffer, none⟩ := by rw [← herror]
      simp only [emittedBy, FrameDecoder.emitted, hfeed, hcpp]
      rw [ih, ← hnext]
    · rename_i frames next hcpp
      obtain ⟨message, hfeed⟩ := hfeed
      have hthrow : feedWith turn buffer piece =
          (.error message, (feedWith turn buffer piece).2) := Prod.ext hfeed rfl
      simp only [emittedBy, FrameDecoder.emitted, hcpp]
      rw [hthrow]

/-- **The three decoders agree.**  On every sequence of pieces they emit the same frames for
each piece before the first that one of them refuses, and they all refuse that one. -/
theorem frame_decoders_agree (pieces : List Bytes) :
    emittedBy Java.feed [] pieces = FrameDecoder.emitted ⟨[], none⟩ pieces ∧
      emittedBy Python.feed [] pieces = FrameDecoder.emitted ⟨[], none⟩ pieces :=
  ⟨Java.readsFrames.emittedBy_eq [] pieces, Python.readsFrames.emittedBy_eq [] pieces⟩

end EcSystemCore
