import EcSystemCore.Protocol.Roundtrip

/-!
# The payload codec of the Python client

`_protocol.py`.  A `struct.Struct` is the layout that its format names; Python's integers
are unbounded, and an exception is `none`.
-/

namespace EcSystemCore.Python

/-! ### Structs -/

/-- `_HELLO_ACK`, `<BBHQII`. -/
def helloAckStruct :=
  Wire.u8.pair (Wire.u8.pair (Wire.u16.pair (Wire.u64.pair (Wire.u32.pair Wire.u32))))

/-- `_ACK`, `<HHI`. -/
def ackStruct := Wire.u16.pair (Wire.u16.pair Wire.u32)

/-- `_STATUS`, `<BBHHHIIQQQIHBBQ`. -/
def statusStruct :=
  Wire.u8.pair (Wire.u8.pair (Wire.u16.pair (Wire.u16.pair (Wire.u16.pair (Wire.u32.pair
    (Wire.u32.pair (Wire.u64.pair (Wire.u64.pair (Wire.u64.pair (Wire.u32.pair (Wire.u16.pair
      (Wire.u8.pair (Wire.u8.pair Wire.u64)))))))))))))

/-- `_PDO`, `<HHIIHHQQ`. -/
def pdoStruct :=
  Wire.u16.pair (Wire.u16.pair (Wire.u32.pair (Wire.u32.pair (Wire.u16.pair (Wire.u16.pair
    (Wire.u64.pair Wire.u64))))))

/-- `_BUS_INFO`, `<HBBBBH7HQ`. -/
def busInfoStruct :=
  Wire.u16.pair (Wire.u8.pair (Wire.u8.pair (Wire.u8.pair (Wire.u8.pair (Wire.u16.pair
    (Wire.u16.pair (Wire.u16.pair (Wire.u16.pair (Wire.u16.pair (Wire.u16.pair (Wire.u16.pair
      (Wire.u16.pair Wire.u64))))))))))))

/-- The struct of `decode_outputs_disabled`, `<HHQ`. -/
def outputsDisabledStruct := Wire.u16.pair (Wire.u16.pair Wire.u64)

/-- `unpack`, which takes all of the payload. -/
def unpack {α : Type} (format : Layout UInt8 α) (payload : Bytes) : Option α :=
  match format.read payload with
  | some (values, []) => some values
  | _ => none

/-- `unpack_from`, which takes the front of the payload. -/
def unpackFrom {α : Type} (format : Layout UInt8 α) (payload : Bytes) : Option α :=
  (format.read payload).map Prod.fst

/-! ### Encoders -/

/-- The `_u64` check of an epoch that may not be zero. -/
def validEpoch (value : ℤ) : Prop := 1 ≤ value ∧ value ≤ 0xffffffffffffffff

instance (value : ℤ) : Decidable (validEpoch value) := inferInstanceAs (Decidable (_ ∧ _))

/-- `hello`. -/
def hello (role : ℤ) (subscribe : Bool) (periodMs lastSeenEpoch : ℤ) : Option Bytes := do
  guard (0 ≤ role ∧ role ≤ 1)
  guard (10 ≤ periodMs ∧ periodMs ≤ 1000)
  guard (0 ≤ lastSeenEpoch ∧ lastSeenEpoch ≤ 0xffffffffffffffff)
  return [.ofInt role, boolCode subscribe] ++ le16 (.ofInt periodMs) ++ le64 (.ofInt lastSeenEpoch)

/-- `epoch`. -/
def epoch (value : ℤ) : Option Bytes := do
  guard (validEpoch value)
  return le64 (.ofInt value)

/-- `output_enable`. -/
def outputEnable (value : ℤ) (enabled : Bool) : Option Bytes := do
  return (← epoch value) ++ [boolCode enabled]

/-- `MAXIMUM_OUTPUT_WRITE`. -/
def maximumOutputWrite : ℕ := 1024

/-- `output_write`. -/
def outputWrite (value busIndex subdeviceIndex offset : ℤ) (data : Bytes) : Option Bytes := do
  guard (validEpoch value)
  guard (0 ≤ busIndex ∧ busIndex ≤ 0xffff)
  guard (1 ≤ subdeviceIndex ∧ subdeviceIndex ≤ 0xffff)
  guard (0 ≤ offset ∧ offset ≤ 0xffffffff)
  guard (1 ≤ data.length ∧ data.length ≤ maximumOutputWrite)
  return le64 (.ofInt value) ++ le16 (.ofInt busIndex) ++ le16 (.ofInt subdeviceIndex) ++
    le32 (.ofInt offset) ++ le16 (.ofNat data.length) ++ le16 0 ++ data

/-- `subscription`. -/
def subscription (enabled : Bool) (periodMs : ℤ) : Option Bytes := do
  guard (10 ≤ periodMs ∧ periodMs ≤ 1000)
  return [boolCode enabled, 0] ++ le16 (.ofInt periodMs)

/-- `adapter_unlock`. -/
def adapterUnlock (value busIndex : ℤ) : Option Bytes := do
  guard (0 ≤ busIndex ∧ busIndex ≤ 0xffff)
  return (← epoch value) ++ le16 (.ofInt busIndex)

/-! ### Decoders -/

/-- `HelloAck`. -/
structure HelloAck where
  role : ℕ
  outputsEnabled : Bool
  heartbeatTimeoutMs : ℕ
  epoch : ℕ
  peerPid : ℕ
  capabilities : ℕ
  deriving DecidableEq

/-- `decode_hello_ack`. -/
def decodeHelloAck (payload : Bytes) : Option HelloAck := do
  guard (payload.length = helloAckStruct.size)
  let (role, outputs, timeout, value, peerPid, capabilities) ← unpack helloAckStruct payload
  guard (¬(role > 1 ∨ outputs > 1 ∨ timeout = 0 ∨ value = 0))
  return ⟨role.toNat, outputs != 0, timeout.toNat, value.toNat, peerPid.toNat, capabilities.toNat⟩

/-- `decode_ack`. -/
def decodeAck (payload : Bytes) : Option (ℕ × ℕ) := do
  guard (payload.length = ackStruct.size)
  let (status, reserved, detail) ← unpack ackStruct payload
  guard (¬(status > 12 ∨ reserved ≠ 0))
  return (status.toNat, detail.toNat)

/-- The tuple `decode_status` returns. -/
structure Status where
  state : ℕ
  flags : ℕ
  activeAdapters : ℕ
  subdevices : ℕ
  activeFaults : ℕ
  maximumJitter : ℕ
  currentJitter : ℕ
  lostFrames : ℕ
  cycleOverruns : ℕ
  epoch : ℕ
  controllerPid : ℕ
  configuredBuses : ℕ
  scheduling : ℕ
  errors : ℕ
  monotonicTimestamp : ℕ
  deriving DecidableEq

/-- `decode_status`. -/
def decodeStatus (payload : Bytes) : Option Status := do
  guard (payload.length = statusStruct.size)
  let (state, flags, adapters, subdevices, faults, maximumJitter, currentJitter, lostFrames,
    overruns, value, pid, buses, scheduling, errors, timestamp) ← unpack statusStruct payload
  guard (¬(state > 6 ∨ value = 0 ∨ scheduling > 1 ∨ errors &&& 0x80 ≠ 0))
  return ⟨state.toNat, flags.toNat, adapters.toNat, subdevices.toNat, faults.toNat,
    maximumJitter.toNat, currentJitter.toNat, lostFrames.toNat, overruns.toNat, value.toNat,
    pid.toNat, buses.toNat, scheduling.toNat, errors.toNat, timestamp.toNat⟩

/-- The tuple `decode_bus_info` returns. -/
structure BusInfo where
  bus : ℕ
  state : ℕ
  link : ℕ
  lockState : ℕ
  lockReason : ℕ
  subdevices : ℕ
  epoch : ℕ
  strings : List String
  deriving DecidableEq

/-- `MAXIMUM_BUS_INFO`. -/
def maximumBusInfo : ℕ := 2048

/-- The loop of `decode_bus_info` over the strings. -/
def decodeStrings (payload : Bytes) : List UInt16 → ℕ → Option (List String)
  | [], _ => some []
  | length :: lengths, offset => do
      let decoded ← strictUtf8 ((payload.drop offset).take length.toNat)
      let strings ← decodeStrings payload lengths (offset + length.toNat)
      return decoded :: strings

/-- `decode_bus_info`. -/
def decodeBusInfo (payload : Bytes) : Option BusInfo := do
  guard (30 ≤ payload.length ∧ payload.length ≤ maximumBusInfo)
  let (bus, state, link, lockState, lockReason, subdevices, l₀, l₁, l₂, l₃, l₄, l₅, l₆, value) ←
    unpackFrom busInfoStruct payload
  let lengths := [l₀, l₁, l₂, l₃, l₄, l₅, l₆]
  guard (¬(state > 6 ∨ link > 1 ∨ lockState > 4 ∨ lockReason > 9 ∨ value = 0))
  guard (30 + (lengths.map UInt16.toNat).sum = payload.length)
  let strings ← decodeStrings payload lengths 30
  return ⟨bus.toNat, state.toNat, link.toNat, lockState.toNat, lockReason.toNat, subdevices.toNat,
    value.toNat, strings⟩

/-- `PdoChunk`. -/
structure PdoChunk where
  busIndex : ℕ
  subdeviceIndex : ℕ
  offset : ℕ
  totalSize : ℕ
  epoch : ℕ
  cycleSequence : ℕ
  data : Bytes
  deriving DecidableEq

/-- `MAXIMUM_PDO_CHUNK`. -/
def maximumPdoChunk : ℕ := 1024

/-- `decode_pdo`. -/
def decodePdo (payload : Bytes) (maximumTotalSize : ℤ) : Option PdoChunk := do
  guard (¬payload.length < pdoStruct.size)
  let (bus, subdevice, offset, total, length, reserved, value, sequence) ←
    unpackFrom pdoStruct payload
  guard (¬(subdevice = 0 ∨ reserved ≠ 0 ∨ value = 0 ∨ sequence = 0 ∨ total = 0 ∨ length = 0 ∨
    length.toNat > maximumPdoChunk ∨ (total.toNat : ℤ) > maximumTotalSize ∨ offset > total ∨
    (length.toNat : ℤ) > total.toNat - offset.toNat ∨
    payload.length ≠ pdoStruct.size + length.toNat))
  return ⟨bus.toNat, subdevice.toNat, offset.toNat, total.toNat, value.toNat, sequence.toNat,
    payload.drop pdoStruct.size⟩

/-- `decode_outputs_disabled`. -/
def decodeOutputsDisabled (payload : Bytes) : Option (ℕ × ℕ × ℕ) := do
  guard (payload.length = 12)
  let (reason, bus, value) ← unpack outputsDisabledStruct payload
  guard (¬(¬(1 ≤ reason ∧ reason ≤ 10) ∨ value = 0))
  return (reason.toNat, bus.toNat, value.toNat)

end EcSystemCore.Python
