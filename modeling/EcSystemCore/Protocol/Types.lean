import Mathlib.Data.List.Basic

/-!
# The vocabulary of the ECSC protocol

The enumerations of `protocol.hpp` that the daemon, its safety gate and its bus
workers share, each with the numeric code the source gives it.  A code that is
no enumerator has no value here: `ofCode?` is `none` exactly where the source's
`IsKnown…` predicates answer false.
-/

namespace EcSystemCore

/-- The bytes of a C++ string, span or vector. -/
abbrev Bytes := List UInt8

/-- The bytes of an ASCII literal of the source. -/
def ascii (text : String) : Bytes := text.toList.map fun c => UInt8.ofNat c.toNat

/-- `protocol::kMaximumOutputWrite`. -/
def kMaximumOutputWrite : ℕ := 1024

/-- `protocol::kMaximumPdoChunk`. -/
def kMaximumPdoChunk : ℕ := 1024

/-- `protocol::MessageType`. -/
inductive MessageType where
  | hello | heartbeat | outputEnable | outputWrite | clearCounters
  | releaseControl | subscribeInputs | adapterUnlock | adapterRescan
  | helloAck | status | ack | pdoInput | busInfo | error | outputsDisabled
  deriving DecidableEq, Repr

namespace MessageType

/-- The wire code of a message type. -/
def code : MessageType → UInt8
  | hello => 0x01
  | heartbeat => 0x02
  | outputEnable => 0x03
  | outputWrite => 0x04
  | clearCounters => 0x05
  | releaseControl => 0x06
  | subscribeInputs => 0x07
  | adapterUnlock => 0x08
  | adapterRescan => 0x09
  | helloAck => 0x80
  | status => 0x81
  | ack => 0x82
  | pdoInput => 0x83
  | busInfo => 0x84
  | error => 0x85
  | outputsDisabled => 0x86

/-- The message type of a wire code, when `IsKnownMessageType` accepts it. -/
def ofCode? : UInt8 → Option MessageType
  | 0x01 => some hello
  | 0x02 => some heartbeat
  | 0x03 => some outputEnable
  | 0x04 => some outputWrite
  | 0x05 => some clearCounters
  | 0x06 => some releaseControl
  | 0x07 => some subscribeInputs
  | 0x08 => some adapterUnlock
  | 0x09 => some adapterRescan
  | 0x80 => some helloAck
  | 0x81 => some status
  | 0x82 => some ack
  | 0x83 => some pdoInput
  | 0x84 => some busInfo
  | 0x85 => some error
  | 0x86 => some outputsDisabled
  | _ => none

@[simp] theorem ofCode?_code (type : MessageType) : ofCode? type.code = some type := by
  cases type <;> rfl

end MessageType

/-- `protocol::ClientRole`. -/
inductive ClientRole where
  | observer | controller
  deriving DecidableEq, Repr

/-- `protocol::AckStatus`. -/
inductive AckStatus where
  | ok | malformed | unauthorized | busy | disabled | badTarget | bounds
  | staleEpoch | unsupported | adapterLocked | topologyMismatch | queueFull
  | internalError
  deriving DecidableEq, Repr

/-- The wire code of an acknowledgement status. -/
def AckStatus.code : AckStatus → UInt16
  | ok => 0
  | malformed => 1
  | unauthorized => 2
  | busy => 3
  | disabled => 4
  | badTarget => 5
  | bounds => 6
  | staleEpoch => 7
  | unsupported => 8
  | adapterLocked => 9
  | topologyMismatch => 10
  | queueFull => 11
  | internalError => 12

/-- `protocol::DisableReason`. -/
inductive DisableReason where
  | requested | heartbeatTimeout | disconnect | linkLoss | reinitialization
  | shutdown | epochChange | adapterMismatch | processDataFault
  | outputCommandTimeout
  deriving DecidableEq, Repr

/-- The wire code of a disable reason. -/
def DisableReason.code : DisableReason → UInt16
  | requested => 1
  | heartbeatTimeout => 2
  | disconnect => 3
  | linkLoss => 4
  | reinitialization => 5
  | shutdown => 6
  | epochChange => 7
  | adapterMismatch => 8
  | processDataFault => 9
  | outputCommandTimeout => 10

/-- `protocol::AdapterLockState`. -/
inductive AdapterLockState where
  | unlocked | matched | missing | mismatch | runtimeUnlocked
  deriving DecidableEq, Repr

/-- `protocol::AdapterLockReason`. -/
inductive AdapterLockReason where
  | none | interfaceMissing | identityUnavailable | idPathMismatch
  | permanentMacMismatch | usbSerialMismatch | usbVendorMismatch
  | usbProductMismatch | nonEthernetInterface | pathOnlyIdentity
  deriving DecidableEq, Repr

/-- `protocol::BusState`. -/
inductive BusState where
  | starting | waitingForLink | initializing | safeOperational | operational
  | fault | stopping
  deriving DecidableEq, Repr

end EcSystemCore
