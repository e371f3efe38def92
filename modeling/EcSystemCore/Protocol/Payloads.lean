import Mathlib.Data.UInt
import EcSystemCore.Protocol.Types

/-!
# The payloads of the ECSC protocol

The little-endian integers of `protocol.hpp` and the payload codecs the daemon
uses: it decodes what clients send (Hello, epoch, OutputEnable, OutputWrite,
SubscribeInputs, AdapterUnlock) and encodes what it answers (HelloAck, Ack,
OutputsDisabled).  An encoder that refuses its value answers with the empty
payload, a decoder that refuses its bytes with `none`.
-/

namespace EcSystemCore

/-! ### Little-endian integers -/

/-- The bytes `AppendLe16` appends. -/
def le16 (value : UInt16) : Bytes := [value.toUInt8, (value >>> 8).toUInt8]

/-- The bytes `AppendLe32` appends. -/
def le32 (value : UInt32) : Bytes :=
  [value.toUInt8, (value >>> 8).toUInt8, (value >>> 16).toUInt8, (value >>> 24).toUInt8]

/-- The bytes `AppendLe64` appends. -/
def le64 (value : UInt64) : Bytes :=
  [value.toUInt8, (value >>> 8).toUInt8, (value >>> 16).toUInt8, (value >>> 24).toUInt8,
    (value >>> 32).toUInt8, (value >>> 40).toUInt8, (value >>> 48).toUInt8,
    (value >>> 56).toUInt8]

/-- `ReadLe16`. -/
def readLe16 (bytes : Bytes) (offset : ℕ) : Option UInt16 :=
  match bytes.drop offset with
  | b₀ :: b₁ :: _ => some (b₀.toUInt16 ||| b₁.toUInt16 <<< 8)
  | _ => none

/-- `ReadLe32`. -/
def readLe32 (bytes : Bytes) (offset : ℕ) : Option UInt32 :=
  match bytes.drop offset with
  | b₀ :: b₁ :: b₂ :: b₃ :: _ =>
    some (b₀.toUInt32 ||| b₁.toUInt32 <<< 8 ||| b₂.toUInt32 <<< 16 ||| b₃.toUInt32 <<< 24)
  | _ => none

/-- `ReadLe64`. -/
def readLe64 (bytes : Bytes) (offset : ℕ) : Option UInt64 :=
  match bytes.drop offset with
  | b₀ :: b₁ :: b₂ :: b₃ :: b₄ :: b₅ :: b₆ :: b₇ :: _ =>
    some (b₀.toUInt64 ||| b₁.toUInt64 <<< 8 ||| b₂.toUInt64 <<< 16 |||
      b₃.toUInt64 <<< 24 ||| b₄.toUInt64 <<< 32 ||| b₅.toUInt64 <<< 40 |||
      b₆.toUInt64 <<< 48 ||| b₇.toUInt64 <<< 56)
  | _ => none

/-- The code of a boolean on the wire. -/
def boolCode (value : Bool) : UInt8 := if value then 1 else 0

/-! ### Hello and its answer -/

/-- `HelloPayload`. -/
structure HelloPayload where
  role : ClientRole := .observer
  subscribeInputs : Bool := false
  inputPeriodMs : UInt16 := 100
  lastSeenEpoch : UInt64 := 0
  deriving DecidableEq, Repr

/-- The wire code of a role. -/
def ClientRole.code : ClientRole → UInt8
  | observer => 0
  | controller => 1

/-- The role of a wire code. -/
def ClientRole.ofCode? : UInt8 → Option ClientRole
  | 0 => some observer
  | 1 => some controller
  | _ => none

/-- `kHelloPayloadSize`. -/
def kHelloPayloadSize : ℕ := 12

/-- `EncodeHelloPayload`. -/
def encodeHelloPayload (hello : HelloPayload) : Bytes :=
  if hello.inputPeriodMs < 10 ∨ hello.inputPeriodMs > 1000 then []
  else [hello.role.code, boolCode hello.subscribeInputs] ++ le16 hello.inputPeriodMs ++
    le64 hello.lastSeenEpoch

/-- `DecodeHelloPayload`. -/
def decodeHelloPayload (payload : Bytes) : Option HelloPayload := do
  guard (payload.length = kHelloPayloadSize)
  let role ← payload[0]?.bind ClientRole.ofCode?
  let subscribe ← payload[1]?
  guard (subscribe ≤ 1)
  let period ← readLe16 payload 2
  guard (10 ≤ period ∧ period ≤ 1000)
  let epoch ← readLe64 payload 4
  return ⟨role, subscribe != 0, period, epoch⟩

/-- `HelloAckPayload`. -/
structure HelloAckPayload where
  grantedRole : ClientRole := .observer
  outputsEnabled : Bool := false
  heartbeatTimeoutMs : UInt16 := 0
  epoch : UInt64 := 0
  peerPid : UInt32 := 0
  capabilities : UInt32 := 0
  deriving DecidableEq, Repr

/-- `EncodeHelloAckPayload`. -/
def encodeHelloAckPayload (hello : HelloAckPayload) : Bytes :=
  if hello.heartbeatTimeoutMs = 0 ∨ hello.epoch = 0 then []
  else [hello.grantedRole.code, boolCode hello.outputsEnabled] ++
    le16 hello.heartbeatTimeoutMs ++ le64 hello.epoch ++ le32 hello.peerPid ++
    le32 hello.capabilities

/-- `kCapabilities`: outputs, inputs, adapter identity and distributed clock. -/
def kCapabilities : UInt32 := 0xf

/-- `CapabilityOutputs`. -/
def capabilityOutputs : UInt32 := 1

/-! ### Requests -/

/-- `EncodeEpochPayload`. -/
def encodeEpochPayload (epoch : UInt64) : Bytes := if epoch = 0 then [] else le64 epoch

/-- `DecodeEpochPayload`. -/
def decodeEpochPayload (payload : Bytes) : Option UInt64 := do
  guard (payload.length = 8)
  let epoch ← readLe64 payload 0
  guard (epoch ≠ 0)
  return epoch

/-- `OutputEnablePayload`. -/
structure OutputEnablePayload where
  epoch : UInt64 := 0
  enabled : Bool := false
  deriving DecidableEq, Repr

/-- `DecodeOutputEnablePayload`. -/
def decodeOutputEnablePayload (payload : Bytes) : Option OutputEnablePayload := do
  guard (payload.length = 9)
  let enabled ← payload[8]?
  guard (enabled ≤ 1)
  let epoch ← readLe64 payload 0
  guard (epoch ≠ 0)
  return ⟨epoch, enabled != 0⟩

/-- `OutputWritePayload`. -/
structure OutputWritePayload where
  epoch : UInt64 := 0
  busIndex : UInt16 := 0
  subDeviceIndex : UInt16 := 0
  offset : UInt32 := 0
  data : Bytes := []
  deriving DecidableEq, Repr

/-- `DecodeOutputWritePayload`. -/
def decodeOutputWritePayload (payload : Bytes) : Option OutputWritePayload := do
  guard (20 ≤ payload.length)
  let epoch ← readLe64 payload 0
  guard (epoch ≠ 0)
  let busIndex ← readLe16 payload 8
  let subDeviceIndex ← readLe16 payload 10
  guard (subDeviceIndex ≠ 0)
  let offset ← readLe32 payload 12
  let length ← readLe16 payload 16
  guard (length ≠ 0 ∧ length.toNat ≤ kMaximumOutputWrite)
  let reserved ← readLe16 payload 18
  guard (reserved = 0 ∧ payload.length = 20 + length.toNat)
  return ⟨epoch, busIndex, subDeviceIndex, offset, payload.drop 20⟩

/-- `SubscribeInputsPayload`. -/
structure SubscribeInputsPayload where
  enabled : Bool := false
  periodMs : UInt16 := 100
  deriving DecidableEq, Repr

/-- `DecodeSubscribeInputsPayload`. -/
def decodeSubscribeInputsPayload (payload : Bytes) : Option SubscribeInputsPayload := do
  guard (payload.length = 4)
  let enabled ← payload[0]?
  guard (enabled ≤ 1 ∧ payload[1]? = some 0)
  let periodMs ← readLe16 payload 2
  guard (10 ≤ periodMs ∧ periodMs ≤ 1000)
  return ⟨enabled != 0, periodMs⟩

/-- `AdapterUnlockPayload`. -/
structure AdapterUnlockPayload where
  epoch : UInt64 := 0
  busIndex : UInt16 := 0
  deriving DecidableEq, Repr

/-- `DecodeAdapterUnlockPayload`. -/
def decodeAdapterUnlockPayload (payload : Bytes) : Option AdapterUnlockPayload := do
  guard (payload.length = 10)
  let epoch ← readLe64 payload 0
  guard (epoch ≠ 0)
  let busIndex ← readLe16 payload 8
  return ⟨epoch, busIndex⟩

/-! ### Answers and notices -/

/-- `EncodeAckPayload`. -/
def encodeAckPayload (status : AckStatus) (detail : UInt32) : Bytes :=
  le16 status.code ++ le16 0 ++ le32 detail

/-- `OutputsDisabledPayload`. -/
structure OutputsDisabledPayload where
  reason : DisableReason := .requested
  busIndex : UInt16 := 0xffff
  epoch : UInt64 := 0
  deriving DecidableEq, Repr

/-- `EncodeOutputsDisabledPayload`. -/
def encodeOutputsDisabledPayload (disabled : OutputsDisabledPayload) : Bytes :=
  if disabled.epoch = 0 then []
  else le16 disabled.reason.code ++ le16 disabled.busIndex ++ le64 disabled.epoch

end EcSystemCore
