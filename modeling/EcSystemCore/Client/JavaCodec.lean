import EcSystemCore.Protocol.Roundtrip

/-!
# The payload codec of the Java client

`EcscProtocol.java` with the value types of `SystemCoreTypes.java`.  A Java `int` or `long`
that is widened from an unsigned field is an integer here, since no operation of the codec
leaves its range; a `long` read with `getLong` is the signed reading of the 64 bits.  An
exception is `none`.
-/

namespace EcSystemCore.Java

/-! ### Enumerations -/

/-- `ClientRole.wireValue`. -/
def roleWireValue : ClientRole → ℤ
  | .observer => 0
  | .controller => 1

/-- `ClientRole.fromWire`. -/
def roleFromWire (value : ℤ) : Option ClientRole :=
  if value = 0 then some .observer else if value = 1 then some .controller else none

/-- `AckStatus.wireValue`. -/
def ackStatusWireValues : List (AckStatus × ℤ) :=
  [(.ok, 0), (.malformed, 1), (.unauthorized, 2), (.busy, 3), (.disabled, 4), (.badTarget, 5),
    (.bounds, 6), (.staleEpoch, 7), (.unsupported, 8), (.adapterLocked, 9),
    (.topologyMismatch, 10), (.queueFull, 11), (.internalError, 12)]

/-- `BusState.wireValue`. -/
def busStateWireValues : List (BusState × ℤ) :=
  [(.starting, 0), (.waitingForLink, 1), (.initializing, 2), (.safeOperational, 3),
    (.operational, 4), (.fault, 5), (.stopping, 6)]

/-- `AdapterLockState.wireValue`. -/
def lockStateWireValues : List (AdapterLockState × ℤ) :=
  [(.unlocked, 0), (.matched, 1), (.missing, 2), (.mismatch, 3), (.runtimeUnlocked, 4)]

/-- `AdapterLockReason.wireValue`. -/
def lockReasonWireValues : List (AdapterLockReason × ℤ) :=
  [(.none, 0), (.interfaceMissing, 1), (.identityUnavailable, 2), (.idPathMismatch, 3),
    (.permanentMacMismatch, 4), (.usbSerialMismatch, 5), (.usbVendorMismatch, 6),
    (.usbProductMismatch, 7), (.nonEthernetInterface, 8), (.pathOnlyIdentity, 9)]

/-- `DisableReason.wireValue`. -/
def disableReasonWireValues : List (DisableReason × ℤ) :=
  [(.requested, 1), (.heartbeatTimeout, 2), (.disconnect, 3), (.linkLoss, 4),
    (.reinitialization, 5), (.shutdown, 6), (.epochChange, 7), (.adapterMismatch, 8),
    (.processDataFault, 9), (.outputCommandTimeout, 10)]

/-- `fromWire` of the other enumerations: the enumerator with this wire value. -/
def fromWire {α : Type} (wireValues : List (α × ℤ)) (value : ℤ) : Option α :=
  (wireValues.find? fun entry => entry.2 = value).map Prod.fst

/-! ### Byte buffers -/

/-- What is left of a little-endian `ByteBuffer`. -/
abbrev ByteBuffer := StateT Bytes Option

/-- `bytes.get()`. -/
def getByte : ByteBuffer UInt8 := Wire.u8.read

/-- `unsignedByte(bytes.get())`. -/
def getUnsignedByte : ByteBuffer ℤ := fun bytes =>
  (Wire.u8.read bytes).map fun (value, rest) => ((value.toNat : ℤ), rest)

/-- `unsignedShort(bytes.getShort())`. -/
def getUnsignedShort : ByteBuffer ℤ := fun bytes =>
  (Wire.u16.read bytes).map fun (value, rest) => ((value.toNat : ℤ), rest)

/-- `unsignedInt(bytes.getInt())`. -/
def getUnsignedInt : ByteBuffer ℤ := fun bytes =>
  (Wire.u32.read bytes).map fun (value, rest) => ((value.toNat : ℤ), rest)

/-- `bytes.getLong()`. -/
def getLong : ByteBuffer Int64 := fun bytes =>
  (Wire.u64.read bytes).map fun (value, rest) => (value.toInt64, rest)

/-- `bytes.get(destination)` for a destination of this length. -/
def getBytes (length : ℤ) : ByteBuffer Bytes := fun bytes =>
  if length.toNat ≤ bytes.length then some (bytes.take length.toNat, bytes.drop length.toNat)
  else none

section Runs

variable {α β : Type} (rest : Bytes)

theorem run_getByte (value : UInt8) (next : UInt8 → ByteBuffer α) :
    (getByte >>= next).run (value :: rest) = (next value).run rest := rfl

theorem run_getUnsignedByte (value : UInt8) (next : ℤ → ByteBuffer α) :
    (getUnsignedByte >>= next).run (value :: rest) = (next value.toNat).run rest := rfl

theorem run_getUnsignedShort (value : UInt16) (next : ℤ → ByteBuffer α) :
    (getUnsignedShort >>= next).run (le16 value ++ rest) = (next value.toNat).run rest := by
  have hread : getUnsignedShort.run (le16 value ++ rest) = some ((value.toNat : ℤ), rest) := by
    simp [getUnsignedShort, StateT.run]
  rw [StateT.run_bind, hread]
  rfl

theorem run_getUnsignedInt (value : UInt32) (next : ℤ → ByteBuffer α) :
    (getUnsignedInt >>= next).run (le32 value ++ rest) = (next value.toNat).run rest := by
  have hread : getUnsignedInt.run (le32 value ++ rest) = some ((value.toNat : ℤ), rest) := by
    simp [getUnsignedInt, StateT.run]
  rw [StateT.run_bind, hread]
  rfl

theorem run_getLong (value : UInt64) (next : Int64 → ByteBuffer α) :
    (getLong >>= next).run (le64 value ++ rest) = (next value.toInt64).run rest := by
  have hread : getLong.run (le64 value ++ rest) = some (value.toInt64, rest) := by
    simp [getLong, StateT.run]
  rw [StateT.run_bind, hread]
  rfl

theorem run_getBytes {length : ℤ} (h : length.toNat ≤ rest.length) (next : Bytes → ByteBuffer α) :
    (getBytes length >>= next).run rest =
      (next (rest.take length.toNat)).run (rest.drop length.toNat) := by
  have hread : (getBytes length).run rest =
      some (rest.take length.toNat, rest.drop length.toNat) := if_pos h
  rw [StateT.run_bind, hread]
  rfl

theorem run_guard (p : Prop) [Decidable p] (next : Unit → ByteBuffer α) :
    StateT.run (guard p >>= next) rest =
      (guard p : Option Unit).bind fun _ => (next ()).run rest := by
  unfold guard
  split <;> rfl

theorem run_lift (value : Option β) (next : β → ByteBuffer α) :
    StateT.run ((liftM value : ByteBuffer β) >>= next) rest =
      value.bind fun result => (next result).run rest := by
  cases value <;> rfl

theorem run'_eq (buffer : ByteBuffer α) :
    buffer.run' rest = (buffer.run rest).map Prod.fst := rfl

theorem run_pure (value : α) : StateT.run (pure value : ByteBuffer α) rest = some (value, rest) :=
  rfl

end Runs

/-! ### Encoders -/

/-- `encodeHello`. -/
def encodeHello (role : ClientRole) (subscribeInputs : Bool) (periodMillis : ℤ)
    (lastSeenEpoch : Int64) : Option Bytes := do
  guard (10 ≤ periodMillis ∧ periodMillis ≤ 1000)
  return [.ofInt (roleWireValue role), boolCode subscribeInputs] ++ le16 (.ofInt periodMillis) ++
    le64 lastSeenEpoch.toUInt64

/-- `encodeEpoch`. -/
def encodeEpoch (epoch : Int64) : Option Bytes := do
  guard (epoch ≠ 0)
  return le64 epoch.toUInt64

/-- `encodeOutputEnable`. -/
def encodeOutputEnable (epoch : Int64) (enabled : Bool) : Option Bytes := do
  guard (epoch ≠ 0)
  return le64 epoch.toUInt64 ++ [boolCode enabled]

/-- `MAXIMUM_OUTPUT_WRITE`. -/
def maximumOutputWrite : ℕ := 1024

/-- `encodeOutputWrite`. -/
def encodeOutputWrite (epoch : Int64) (busIndex subDeviceIndex offset : ℤ) (data : Bytes) :
    Option Bytes := do
  guard (epoch ≠ 0)
  guard (0 ≤ busIndex ∧ busIndex ≤ 0xffff)
  guard (1 ≤ subDeviceIndex ∧ subDeviceIndex ≤ 0xffff)
  guard (0 ≤ offset ∧ offset ≤ 0xffffffff)
  guard (data ≠ [] ∧ data.length ≤ maximumOutputWrite)
  return le64 epoch.toUInt64 ++ le16 (.ofInt busIndex) ++ le16 (.ofInt subDeviceIndex) ++
    le32 (.ofInt offset) ++ le16 (.ofNat data.length) ++ le16 0 ++ data

/-- `encodeSubscription`. -/
def encodeSubscription (enabled : Bool) (periodMillis : ℤ) : Option Bytes := do
  guard (10 ≤ periodMillis ∧ periodMillis ≤ 1000)
  return [boolCode enabled, 0] ++ le16 (.ofInt periodMillis)

/-- `encodeAdapterUnlock`. -/
def encodeAdapterUnlock (epoch : Int64) (busIndex : ℤ) : Option Bytes := do
  guard (epoch ≠ 0)
  guard (0 ≤ busIndex ∧ busIndex ≤ 0xffff)
  return le64 epoch.toUInt64 ++ le16 (.ofInt busIndex)

/-! ### Decoders -/

/-- `HelloAck`. -/
structure HelloAck where
  grantedRole : ClientRole
  outputsEnabled : Bool
  heartbeatTimeoutMillis : ℤ
  epoch : Int64
  peerPid : ℤ
  capabilities : ℤ
  deriving DecidableEq

/-- `decodeHelloAck`. -/
def decodeHelloAck (payload : Bytes) : Option HelloAck := do
  guard (payload.length = 20)
  let read : ByteBuffer HelloAck := do
    let role ← roleFromWire (← getUnsignedByte)
    let outputs ← getUnsignedByte
    guard (outputs ≤ 1)
    let heartbeat ← getUnsignedShort
    let epoch ← getLong
    let peerPid ← getUnsignedInt
    let capabilities ← getUnsignedInt
    guard (¬(heartbeat = 0 ∨ epoch = 0))
    return ⟨role, outputs ≠ 0, heartbeat, epoch, peerPid, capabilities⟩
  read.run' payload

/-- `decodeAck`. -/
def decodeAck (payload : Bytes) : Option (AckStatus × ℤ) := do
  guard (payload.length = 8)
  let read : ByteBuffer (AckStatus × ℤ) := do
    let status ← fromWire ackStatusWireValues (← getUnsignedShort)
    guard ((← getUnsignedShort) = 0)
    return (status, ← getUnsignedInt)
  read.run' payload

/-- `Status`, without the time of reception. -/
structure Status where
  aggregateState : BusState
  operational : Bool
  outputsEnabled : Bool
  controllerConnected : Bool
  preemptRtAvailable : Bool
  realtimeApplied : Bool
  realtimeRequested : Bool
  timingDegraded : Bool
  reinitializing : Bool
  schedulingMode : SchedulingMode
  realtimeErrorBits : UInt8
  distributedClockUnlocked : Bool
  activeAdapters : ℤ
  subDeviceCount : ℤ
  activeFaults : ℤ
  maximumJitterMicros : ℤ
  currentJitterMicros : ℤ
  lostFrames : Int64
  cycleOverruns : Int64
  epoch : Int64
  controllerPid : ℤ
  configuredBuses : ℤ
  monotonicTimestampMicros : Int64
  deriving DecidableEq

/-- The `k`-th bit of a field of flags is set. -/
def flag (bits : UInt8) (k : UInt8) : Bool := bits &&& (1 <<< k) ≠ 0

/-- `decodeStatus`. -/
def decodeStatus (payload : Bytes) : Option Status := do
  guard (payload.length = 56)
  let read : ByteBuffer Status := do
    let state ← fromWire busStateWireValues (← getUnsignedByte)
    let flags ← getByte
    let activeAdapters ← getUnsignedShort
    let subDevices ← getUnsignedShort
    let faults ← getUnsignedShort
    let maxJitter ← getUnsignedInt
    let currentJitter ← getUnsignedInt
    let lostFrames ← getLong
    let overruns ← getLong
    let epoch ← getLong
    let controllerPid ← getUnsignedInt
    let configuredBuses ← getUnsignedShort
    let scheduling ← getUnsignedByte
    let realtimeErrors ← getByte
    let monotonic ← getLong
    guard (¬(epoch = 0 ∨ scheduling > 1 ∨ realtimeErrors &&& 0x80 ≠ 0))
    return ⟨state, flag flags 0, flag flags 1, flag flags 2, flag flags 3, flag flags 4,
      flag flags 5, flag flags 6, flag flags 7, if scheduling = 1 then .fifo else .other,
      realtimeErrors, flag realtimeErrors 6, activeAdapters, subDevices, faults, maxJitter,
      currentJitter, lostFrames, overruns, epoch, controllerPid, configuredBuses, monotonic⟩
  read.run' payload

/-- `BusInfo`, with the strings of its `AdapterIdentity`. -/
structure BusInfo where
  busIndex : ℤ
  state : BusState
  linkUp : Bool
  lockState : AdapterLockState
  lockReason : AdapterLockReason
  subDeviceCount : ℤ
  strings : List String
  epoch : Int64
  deriving DecidableEq

/-- `MAXIMUM_BUS_INFO`. -/
def maximumBusInfo : ℕ := 2048

/-- The loop of `decodeBusInfo` over the lengths: the lengths and what they add up to. -/
def getLengths : ℕ → ℤ → ByteBuffer (List ℤ × ℤ)
  | 0, expected => return ([], expected)
  | count + 1, expected => do
      let length ← getUnsignedShort
      let (lengths, expected) ← getLengths count (expected + length)
      return (length :: lengths, expected)

/-- The loop of `decodeBusInfo` over the strings. -/
def getTexts : List ℤ → ByteBuffer (List String)
  | [] => return []
  | length :: lengths => do
      let value ← strictUtf8 (← getBytes length)
      let values ← getTexts lengths
      return value :: values

/-- `decodeBusInfo`. -/
def decodeBusInfo (payload : Bytes) : Option BusInfo := do
  guard (¬(payload.length < 30 ∨ payload.length > maximumBusInfo))
  let read : ByteBuffer BusInfo := do
    let busIndex ← getUnsignedShort
    let state ← fromWire busStateWireValues (← getUnsignedByte)
    let link ← getUnsignedByte
    let lockState ← fromWire lockStateWireValues (← getUnsignedByte)
    let lockReason ← fromWire lockReasonWireValues (← getUnsignedByte)
    let subDevices ← getUnsignedShort
    let (lengths, expected) ← getLengths 7 30
    let epoch ← getLong
    guard (¬(link > 1 ∨ epoch = 0 ∨ expected ≠ payload.length))
    let values ← getTexts lengths
    return ⟨busIndex, state, link ≠ 0, lockState, lockReason, subDevices, values, epoch⟩
  read.run' payload

/-- `PdoChunk`. -/
structure PdoChunk where
  busIndex : ℤ
  subDeviceIndex : ℤ
  offset : ℤ
  totalSize : ℤ
  epoch : Int64
  cycleSequence : Int64
  data : Bytes
  deriving DecidableEq

/-- `MAXIMUM_PDO_CHUNK`. -/
def maximumPdoChunk : ℤ := 1024

/-- `Math.toIntExact`. -/
def toIntExact (value : ℤ) : Option ℤ :=
  if -2147483648 ≤ value ∧ value ≤ 2147483647 then some value else none

/-- `decodePdoChunk`. -/
def decodePdoChunk (payload : Bytes) (maximumTotalSize : ℤ) : Option PdoChunk := do
  guard (¬payload.length < 32)
  let read : ByteBuffer PdoChunk := do
    let bus ← getUnsignedShort
    let subDevice ← getUnsignedShort
    let offsetUnsigned ← getUnsignedInt
    let totalUnsigned ← getUnsignedInt
    let chunkLength ← getUnsignedShort
    let reserved ← getUnsignedShort
    let epoch ← getLong
    let sequence ← getLong
    guard (¬(subDevice = 0 ∨ reserved ≠ 0 ∨ epoch = 0 ∨ sequence = 0 ∨ totalUnsigned = 0 ∨
      chunkLength = 0 ∨ chunkLength > maximumPdoChunk ∨ totalUnsigned > maximumTotalSize ∨
      offsetUnsigned > totalUnsigned ∨ chunkLength > totalUnsigned - offsetUnsigned ∨
      payload.length ≠ 32 + chunkLength))
    let data ← getBytes chunkLength
    return ⟨bus, subDevice, ← toIntExact offsetUnsigned, ← toIntExact totalUnsigned, epoch,
      sequence, data⟩
  read.run' payload

/-- `OutputsDisabled`, without the time of reception. -/
structure OutputsDisabled where
  reason : DisableReason
  busIndex : ℤ
  epoch : Int64
  deriving DecidableEq

/-- `decodeOutputsDisabled`. -/
def decodeOutputsDisabled (payload : Bytes) : Option OutputsDisabled := do
  guard (payload.length = 12)
  let read : ByteBuffer OutputsDisabled := do
    let reason ← fromWire disableReasonWireValues (← getUnsignedShort)
    let busIndex ← getUnsignedShort
    let epoch ← getLong
    guard (epoch ≠ 0)
    return ⟨reason, busIndex, epoch⟩
  read.run' payload

end EcSystemCore.Java
