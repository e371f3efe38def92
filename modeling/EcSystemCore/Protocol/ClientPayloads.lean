import EcSystemCore.Protocol.Payloads
import EcSystemCore.Protocol.Utf8

/-!
# The payloads a client writes and reads

The other half of the payload codecs of `protocol.hpp`: the encoders of the requests,
the decoders of the answers, and both directions of the payloads the daemon sends on
its own (Status, BusInfo, PdoInput).
-/

namespace EcSystemCore

/-! ### Enumerators on the wire -/

/-- The status of a wire code, when `IsKnownAckStatus` accepts it. -/
def AckStatus.ofCode? : UInt16 → Option AckStatus
  | 0 => some ok
  | 1 => some malformed
  | 2 => some unauthorized
  | 3 => some busy
  | 4 => some disabled
  | 5 => some badTarget
  | 6 => some bounds
  | 7 => some staleEpoch
  | 8 => some unsupported
  | 9 => some adapterLocked
  | 10 => some topologyMismatch
  | 11 => some queueFull
  | 12 => some internalError
  | _ => none

/-- The reason of a wire code from `Requested` to `OutputCommandTimeout`. -/
def DisableReason.ofCode? : UInt16 → Option DisableReason
  | 1 => some requested
  | 2 => some heartbeatTimeout
  | 3 => some disconnect
  | 4 => some linkLoss
  | 5 => some reinitialization
  | 6 => some shutdown
  | 7 => some epochChange
  | 8 => some adapterMismatch
  | 9 => some processDataFault
  | 10 => some outputCommandTimeout
  | _ => none

/-- The wire code of a bus state. -/
def BusState.code : BusState → UInt8
  | starting => 0
  | waitingForLink => 1
  | initializing => 2
  | safeOperational => 3
  | operational => 4
  | fault => 5
  | stopping => 6

/-- The bus state of a wire code, when `IsKnownBusState` accepts it. -/
def BusState.ofCode? : UInt8 → Option BusState
  | 0 => some starting
  | 1 => some waitingForLink
  | 2 => some initializing
  | 3 => some safeOperational
  | 4 => some operational
  | 5 => some fault
  | 6 => some stopping
  | _ => none

/-- The wire code of a lock state. -/
def AdapterLockState.code : AdapterLockState → UInt8
  | unlocked => 0
  | matched => 1
  | missing => 2
  | mismatch => 3
  | runtimeUnlocked => 4

/-- The lock state of a wire code. -/
def AdapterLockState.ofCode? : UInt8 → Option AdapterLockState
  | 0 => some unlocked
  | 1 => some matched
  | 2 => some missing
  | 3 => some mismatch
  | 4 => some runtimeUnlocked
  | _ => none

/-- The wire code of a lock reason. -/
def AdapterLockReason.code : AdapterLockReason → UInt8
  | none => 0
  | interfaceMissing => 1
  | identityUnavailable => 2
  | idPathMismatch => 3
  | permanentMacMismatch => 4
  | usbSerialMismatch => 5
  | usbVendorMismatch => 6
  | usbProductMismatch => 7
  | nonEthernetInterface => 8
  | pathOnlyIdentity => 9

/-- The lock reason of a wire code. -/
def AdapterLockReason.ofCode? : UInt8 → Option AdapterLockReason
  | 0 => some none
  | 1 => some interfaceMissing
  | 2 => some identityUnavailable
  | 3 => some idPathMismatch
  | 4 => some permanentMacMismatch
  | 5 => some usbSerialMismatch
  | 6 => some usbVendorMismatch
  | 7 => some usbProductMismatch
  | 8 => some nonEthernetInterface
  | 9 => some pathOnlyIdentity
  | _ => Option.none

/-- `protocol::SchedulingMode`. -/
inductive SchedulingMode where
  | other | fifo
  deriving DecidableEq, Repr

/-- The wire code of a scheduling mode. -/
def SchedulingMode.code : SchedulingMode → UInt8
  | other => 0
  | fifo => 1

/-- The scheduling mode of a wire code, when `IsKnownSchedulingMode` accepts it. -/
def SchedulingMode.ofCode? : UInt8 → Option SchedulingMode
  | 0 => some other
  | 1 => some fifo
  | _ => none

/-! ### Requests -/

/-- `EncodeOutputEnablePayload`. -/
def encodeOutputEnablePayload (enable : OutputEnablePayload) : Bytes :=
  let payload := encodeEpochPayload enable.epoch
  if payload = [] then [] else payload ++ [boolCode enable.enabled]

/-- `EncodeOutputWritePayload`. -/
def encodeOutputWritePayload (write : OutputWritePayload) : Bytes :=
  if write.epoch = 0 ∨ write.subDeviceIndex = 0 ∨ write.data = [] ∨
      write.data.length > kMaximumOutputWrite then []
  else le64 write.epoch ++ le16 write.busIndex ++ le16 write.subDeviceIndex ++
    le32 write.offset ++ le16 (.ofNat write.data.length) ++ le16 0 ++ write.data

/-- `EncodeSubscribeInputsPayload`. -/
def encodeSubscribeInputsPayload (subscription : SubscribeInputsPayload) : Bytes :=
  if subscription.periodMs < 10 ∨ subscription.periodMs > 1000 then []
  else [boolCode subscription.enabled, 0] ++ le16 subscription.periodMs

/-- `EncodeAdapterUnlockPayload`. -/
def encodeAdapterUnlockPayload (unlock : AdapterUnlockPayload) : Bytes :=
  let payload := encodeEpochPayload unlock.epoch
  if payload = [] then [] else payload ++ le16 unlock.busIndex

/-! ### Answers and notices -/

/-- `kHelloAckPayloadSize`. -/
def kHelloAckPayloadSize : ℕ := 20

/-- `DecodeHelloAckPayload`. -/
def decodeHelloAckPayload (payload : Bytes) : Option HelloAckPayload := do
  guard (payload.length = kHelloAckPayloadSize)
  let grantedRole ← payload[0]?.bind ClientRole.ofCode?
  let outputsEnabled ← payload[1]?
  guard (outputsEnabled ≤ 1)
  let heartbeatTimeoutMs ← readLe16 payload 2
  guard (heartbeatTimeoutMs ≠ 0)
  let epoch ← readLe64 payload 4
  guard (epoch ≠ 0)
  let peerPid ← readLe32 payload 12
  let capabilities ← readLe32 payload 16
  return ⟨grantedRole, outputsEnabled != 0, heartbeatTimeoutMs, epoch, peerPid, capabilities⟩

/-- `DecodeAckPayload`. -/
def decodeAckPayload (payload : Bytes) : Option (AckStatus × UInt32) := do
  guard (payload.length = 8)
  let rawStatus ← readLe16 payload 0
  let reserved ← readLe16 payload 2
  guard (reserved = 0)
  let detail ← readLe32 payload 4
  let status ← AckStatus.ofCode? rawStatus
  return (status, detail)

/-- `DecodeOutputsDisabledPayload`. -/
def decodeOutputsDisabledPayload (payload : Bytes) : Option OutputsDisabledPayload := do
  guard (payload.length = 12)
  let rawReason ← readLe16 payload 0
  let reason ← DisableReason.ofCode? rawReason
  let busIndex ← readLe16 payload 2
  let epoch ← readLe64 payload 4
  guard (epoch ≠ 0)
  return ⟨reason, busIndex, epoch⟩

/-! ### Status -/

/-- `StatusPayload`. -/
structure StatusPayload where
  aggregateState : UInt8 := 0
  flags : UInt8 := 0
  activeAdapters : UInt16 := 0
  subDevices : UInt16 := 0
  activeFaults : UInt16 := 0
  maximumJitterUs : UInt32 := 0
  currentJitterUs : UInt32 := 0
  lostFrames : UInt64 := 0
  cycleOverruns : UInt64 := 0
  epoch : UInt64 := 0
  controllerPid : UInt32 := 0
  configuredBuses : UInt16 := 0
  schedulingMode : SchedulingMode := .other
  realtimeErrorBits : UInt8 := 0
  monotonicTimestampUs : UInt64 := 0
  deriving DecidableEq, Repr

/-- `kStatusPayloadSize`. -/
def kStatusPayloadSize : ℕ := 56

/-- `EncodeStatusPayload`. -/
def encodeStatusPayload (status : StatusPayload) : Bytes :=
  if BusState.ofCode? status.aggregateState = none ∨ status.epoch = 0 ∨
      status.realtimeErrorBits &&& 0x80 ≠ 0 then []
  else [status.aggregateState, status.flags] ++ le16 status.activeAdapters ++
    le16 status.subDevices ++ le16 status.activeFaults ++ le32 status.maximumJitterUs ++
    le32 status.currentJitterUs ++ le64 status.lostFrames ++ le64 status.cycleOverruns ++
    le64 status.epoch ++ le32 status.controllerPid ++ le16 status.configuredBuses ++
    [status.schedulingMode.code, status.realtimeErrorBits] ++ le64 status.monotonicTimestampUs

/-- `DecodeStatusPayload`. -/
def decodeStatusPayload (payload : Bytes) : Option StatusPayload := do
  guard (payload.length = kStatusPayloadSize)
  let aggregateState ← payload[0]?
  let flags ← payload[1]?
  let activeAdapters ← readLe16 payload 2
  let subDevices ← readLe16 payload 4
  let activeFaults ← readLe16 payload 6
  let maximumJitterUs ← readLe32 payload 8
  let currentJitterUs ← readLe32 payload 12
  let lostFrames ← readLe64 payload 16
  let cycleOverruns ← readLe64 payload 24
  let epoch ← readLe64 payload 32
  let controllerPid ← readLe32 payload 40
  let configuredBuses ← readLe16 payload 44
  let monotonicTimestampUs ← readLe64 payload 48
  let schedulingMode ← payload[46]?.bind SchedulingMode.ofCode?
  let realtimeErrorBits ← payload[47]?
  guard (BusState.ofCode? aggregateState ≠ none ∧ epoch ≠ 0 ∧ realtimeErrorBits &&& 0x80 = 0)
  return ⟨aggregateState, flags, activeAdapters, subDevices, activeFaults, maximumJitterUs,
    currentJitterUs, lostFrames, cycleOverruns, epoch, controllerPid, configuredBuses,
    schedulingMode, realtimeErrorBits, monotonicTimestampUs⟩

/-! ### Bus information -/

/-- `BusInfoPayload`. -/
structure BusInfoPayload where
  busIndex : UInt16 := 0
  state : BusState := .starting
  linkUp : Bool := false
  lockState : AdapterLockState := .unlocked
  lockReason : AdapterLockReason := .none
  subDeviceCount : UInt16 := 0
  logicalName : Bytes := []
  physicalInterface : Bytes := []
  idPath : Bytes := []
  permanentMac : Bytes := []
  usbSerial : Bytes := []
  usbVendorId : Bytes := []
  usbProductId : Bytes := []
  epoch : UInt64 := 0
  deriving DecidableEq, Repr

/-- `kBusInfoHeaderSize`. -/
def kBusInfoHeaderSize : ℕ := 30

/-- `kMaximumBusInfo`. -/
def kMaximumBusInfo : ℕ := 2048

/-- The strings of a BusInfo, in the order of the wire. -/
def BusInfoPayload.strings (information : BusInfoPayload) : List Bytes :=
  [information.logicalName, information.physicalInterface, information.idPath,
    information.permanentMac, information.usbSerial, information.usbVendorId,
    information.usbProductId]

/-- The bus information with the given strings. -/
def BusInfoPayload.ofStrings (busIndex : UInt16) (state : BusState) (linkUp : Bool)
    (lockState : AdapterLockState) (lockReason : AdapterLockReason) (subDeviceCount : UInt16)
    (epoch : UInt64) : List Bytes → Option BusInfoPayload
  | [logicalName, physicalInterface, idPath, permanentMac, usbSerial, usbVendorId,
      usbProductId] =>
      some ⟨busIndex, state, linkUp, lockState, lockReason, subDeviceCount, logicalName,
        physicalInterface, idPath, permanentMac, usbSerial, usbVendorId, usbProductId, epoch⟩
  | _ => none

/-- The first loop of `EncodeBusInfoPayload`: the size of the payload, when no string is too
long or not UTF-8. -/
def addSizes : List Bytes → ℕ → Option ℕ
  | [], totalSize => some totalSize
  | value :: strings, totalSize =>
    if value.length > 0xffff ∨ isValidUtf8 value = false ∨
        value.length > kMaximumBusInfo - min totalSize kMaximumBusInfo then none
    else addSizes strings (totalSize + value.length)

/-- `EncodeBusInfoPayload`. -/
def encodeBusInfoPayload (information : BusInfoPayload) : Bytes :=
  match addSizes information.strings kBusInfoHeaderSize with
  | none => []
  | some totalSize =>
    if information.epoch = 0 ∨ totalSize > kMaximumBusInfo then []
    else le16 information.busIndex ++
      [information.state.code, boolCode information.linkUp, information.lockState.code,
        information.lockReason.code] ++
      le16 information.subDeviceCount ++
      information.strings.flatMap (fun value => le16 (.ofNat value.length)) ++
      le64 information.epoch ++ information.strings.flatten

/-- The first loop of `DecodeBusInfoPayload`: the lengths of `count` strings from `index` on,
which together fill the payload. -/
def readLengths (payload : Bytes) : ℕ → ℕ → ℕ → Option (List UInt16)
  | 0, _, totalSize => if totalSize = payload.length then some [] else none
  | count + 1, index, totalSize => do
      let length ← readLe16 payload (8 + index * 2)
      guard (length.toNat ≤ payload.length - min totalSize payload.length)
      let lengths ← readLengths payload count (index + 1) (totalSize + length.toNat)
      return length :: lengths

/-- The second loop of `DecodeBusInfoPayload`: the strings of these lengths. -/
def readStrings (payload : Bytes) : List UInt16 → ℕ → Option (List Bytes)
  | [], _ => some []
  | length :: lengths, offset => do
      let text := (payload.drop offset).take length.toNat
      guard (isValidUtf8 text = true)
      let strings ← readStrings payload lengths (offset + length.toNat)
      return text :: strings

/-- `DecodeBusInfoPayload`. -/
def decodeBusInfoPayload (payload : Bytes) : Option BusInfoPayload := do
  guard (kBusInfoHeaderSize ≤ payload.length ∧ payload.length ≤ kMaximumBusInfo)
  let busIndex ← readLe16 payload 0
  let state ← payload[2]?.bind BusState.ofCode?
  let linkUp ← payload[3]?
  guard (linkUp ≤ 1)
  let lockState ← payload[4]?.bind AdapterLockState.ofCode?
  let lockReason ← payload[5]?.bind AdapterLockReason.ofCode?
  let subDeviceCount ← readLe16 payload 6
  let epoch ← readLe64 payload 22
  guard (epoch ≠ 0)
  let lengths ← readLengths payload 7 0 kBusInfoHeaderSize
  let strings ← readStrings payload lengths kBusInfoHeaderSize
  BusInfoPayload.ofStrings busIndex state (linkUp != 0) lockState lockReason subDeviceCount epoch
    strings

/-! ### Process data input -/

/-- `PdoInputPayload`. -/
structure PdoInputPayload where
  busIndex : UInt16 := 0
  subDeviceIndex : UInt16 := 0
  offset : UInt32 := 0
  totalSize : UInt32 := 0
  epoch : UInt64 := 0
  cycleSequence : UInt64 := 0
  data : Bytes := []
  deriving DecidableEq, Repr

/-- `kMaximumPdoImage`. -/
def kMaximumPdoImage : ℕ := 1024 * 1024

/-- `EncodePdoInputPayload`. -/
def encodePdoInputPayload (input : PdoInputPayload) : Bytes :=
  if input.subDeviceIndex = 0 ∨ input.epoch = 0 ∨ input.cycleSequence = 0 ∨
      input.totalSize = 0 ∨ input.data = [] ∨ input.data.length > kMaximumPdoChunk ∨
      input.totalSize.toNat > kMaximumPdoImage ∨ input.offset > input.totalSize ∨
      input.data.length > (input.totalSize - input.offset).toNat then []
  else le16 input.busIndex ++ le16 input.subDeviceIndex ++ le32 input.offset ++
    le32 input.totalSize ++ le16 (.ofNat input.data.length) ++ le16 0 ++ le64 input.epoch ++
    le64 input.cycleSequence ++ input.data

/-- `DecodePdoInputPayload`; the source's default for `maximumTotalSize` is
`kMaximumPdoImage`. -/
def decodePdoInputPayload (payload : Bytes) (maximumTotalSize : ℕ) : Option PdoInputPayload := do
  guard (32 ≤ payload.length)
  let busIndex ← readLe16 payload 0
  let subDeviceIndex ← readLe16 payload 2
  let offset ← readLe32 payload 4
  let totalSize ← readLe32 payload 8
  let chunkLength ← readLe16 payload 12
  let reserved ← readLe16 payload 14
  guard (reserved = 0)
  let epoch ← readLe64 payload 16
  let cycleSequence ← readLe64 payload 24
  guard (subDeviceIndex ≠ 0 ∧ epoch ≠ 0 ∧ cycleSequence ≠ 0 ∧ totalSize ≠ 0 ∧
    chunkLength ≠ 0 ∧ chunkLength.toNat ≤ kMaximumPdoChunk ∧
    totalSize.toNat ≤ maximumTotalSize ∧ offset ≤ totalSize ∧
    chunkLength.toNat ≤ (totalSize - offset).toNat ∧
    payload.length = 32 + chunkLength.toNat)
  return ⟨busIndex, subDeviceIndex, offset, totalSize, epoch, cycleSequence, payload.drop 32⟩

end EcSystemCore
