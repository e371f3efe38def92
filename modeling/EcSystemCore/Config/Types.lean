import EcSystemCore.Protocol.Types

/-!
# Configuration and adapter records

The plain records of `main.cpp` and `adapter_identity.hpp` that the bus workers
and the daemon share: what an interface mapping asks for, what the daemon is
configured with, and how a network adapter is described.  Defaults are the member
initializers of the source.
-/

namespace EcSystemCore

/-- `ExpectedSubDevice`. -/
structure ExpectedSubDevice where
  vendorId : UInt32 := 0
  productCode : UInt32 := 0
  revision : Option UInt32 := none
  outputBytes : Option UInt32 := none
  inputBytes : Option UInt32 := none
  deriving DecidableEq, Repr

/-- `AdapterIdentityLock`. -/
structure AdapterIdentityLock where
  idPath : Bytes := []
  permanentMac : Option Bytes := none
  usbSerial : Option Bytes := none
  usbVendorId : Option Bytes := none
  usbProductId : Option Bytes := none
  deriving DecidableEq, Repr

/-- `AdapterIdentity`. -/
structure AdapterIdentity where
  interfaceName : Bytes := []
  idPath : Bytes := []
  permanentMac : Option Bytes := none
  usbSerial : Option Bytes := none
  usbVendorId : Option Bytes := none
  usbProductId : Option Bytes := none
  ethernet : Bool := false
  linkUp : Bool := false
  deriving DecidableEq, Repr

/-- `AdapterResolution`. -/
structure AdapterResolution where
  state : AdapterLockState := .missing
  reason : AdapterLockReason := .interfaceMissing
  identity : Option AdapterIdentity := none
  deriving DecidableEq, Repr

/-- `InterfaceConfig`. -/
structure InterfaceConfig where
  logicalName : Bytes := []
  physicalInterface : Bytes := []
  enabled : Bool := true
  lock : Option AdapterIdentityLock := none
  expectedSubDevices : List ExpectedSubDevice := []
  maximumIoMapBytes : ℕ := 256 * 1024
  distributedClock : Bool := false
  distributedClockShiftNs : Int := 0
  allowUnverifiedTopology : Bool := false
  deriving DecidableEq, Repr

/-- `RealtimeConfig`. -/
structure RealtimeConfig where
  requestMemoryLock : Bool := true
  requestFifo : Bool := true
  fifoPriority : Int := 55
  cpuAffinity : Option ℕ := none
  deriving DecidableEq, Repr

/-- `DaemonConfig`.  Periods and timeouts are the counts of their `std::chrono`
durations: microseconds for the cycle, milliseconds for the timeouts. -/
structure DaemonConfig where
  interfaces : List InterfaceConfig := []
  allowRestrictedInterfaces : Bool := false
  cyclePeriod : Int := 5000
  heartbeatTimeout : Int := 250
  outputCommandTimeout : Int := 100
  logDirectory : Bytes := ascii "/var/log/ec-systemcore"
  logCountLimit : ℕ := 10
  freeSpaceThresholdBytes : ℕ := 50 * 1024 * 1024
  realtime : RealtimeConfig := {}
  controllerUids : List UInt32 := [0]
  controllerGids : List UInt32 := []
  controllerGroup : Bytes := ascii "ec-systemcore-controller"
  deriving DecidableEq, Repr

end EcSystemCore
