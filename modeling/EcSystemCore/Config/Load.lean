import Mathlib.Data.List.Dedup
import Mathlib.Data.List.Sort
import EcSystemCore.Bus.Topology
import EcSystemCore.Json.MiniJson
import EcSystemCore.Lib.Checks
import EcSystemCore.Protocol.ClientPayloads

/-!
# Reading the configuration

`LoadConfigText` of `main.cpp`, in the order in which it makes its checks; the error is
the text of the exception.  The parts of the source's one function that read a peer id
list, a lock, a SubDevice and a mapping are functions of their own here.
-/

namespace EcSystemCore

open Checks

/-! ### Names -/

/-- The characters of a logical name, and of a controller group. -/
def isNameByte (c : UInt8) : Bool := isAlnum c || c = asciiChar '_' || c = asciiChar '-'

/-- `IsValidLogicalName`. -/
def isValidLogicalName (name : Bytes) : Bool :=
  name ≠ [] && name.length ≤ 32 && name.all isNameByte

/-- `IFNAMSIZ`. -/
def ifNameSize : ℕ := 16

/-- `IsValidInterfaceName`. -/
def isValidInterfaceName (name : Bytes) : Bool :=
  name ≠ [] && name.length < ifNameSize &&
    name.all fun c => isNameByte c || c = asciiChar '.' || c = asciiChar ':'

/-- `IsRestrictedInterface`. -/
def isRestrictedInterface (name : Bytes) : Bool :=
  name = ascii "eth0" || name = ascii "wlan0" || name = ascii "usb0"

namespace LoadConfig

/-! ### Fields -/

/-- An exception. -/
def failing {α : Type} (message : String) : Except Bytes α := .error (ascii message)

/-- A check that throws. -/
def require (condition : Prop) [Decidable condition] (message : Bytes) : Except Bytes Unit :=
  if condition then .ok () else .error message

/-- `CheckedUint32`, without its fallback, which no caller gives. -/
def checkedUint32 (object : Json) (key : String) : Except Bytes UInt32 :=
  match object.find key with
  | none => failing ("missing required integer field '" ++ key ++ "'")
  | some _ => do
      let integer ← object.integerValue key
      require (0 ≤ integer ∧ integer ≤ 0xffffffff)
        (ascii ("field '" ++ key ++ "' is outside the uint32 range"))
      return .ofNat integer.toNat

/-- `CheckedUint32` of a field that may be missing. -/
def optionalUint32 (object : Json) (key : String) : Except Bytes (Option UInt32) :=
  match object.find key with
  | none => .ok none
  | some _ => (checkedUint32 object key).map some

/-- `RejectUnknownKeys`. -/
def rejectUnknownKeys (object : Json) (accepted : List String) (context : String) :
    Except Bytes Unit :=
  if !object.isObject then failing (context ++ " must be an object")
  else
    match object.members.find? fun member => member.1 ∉ accepted.map ascii with
    | none => .ok ()
    | some (key, _) => .error (ascii ("unknown " ++ context ++ " field '") ++ key ++ ascii "'")

/-- `OptionalString`. -/
def optionalString (object : Json) (key : String) : Except Bytes (Option Bytes) :=
  match object.find key with
  | none => .ok none
  | some (.string text) =>
    if text = [] then failing ("field '" ++ key ++ "' cannot be empty") else .ok (some text)
  | some _ => failing ("field '" ++ key ++ "' must be a string")

/-- `parsePeerIds`; `uid_t` and `gid_t` have 32 bits. -/
def parsePeerIds (root : Json) (key : String) (destination : List UInt32) :
    Except Bytes (List UInt32) :=
  match root.find key with
  | none => .ok destination
  | some (.array values) => do
      require (values.length ≤ 64) (ascii (key ++ " must be a bounded array"))
      let ids ← values.mapM fun value => do
        let integer ← value.integer
        require (0 ≤ integer ∧ integer ≤ 0xffffffff) (ascii (key ++ " contains an invalid ID"))
        return UInt32.ofNat integer.toNat
      return ((destination ++ ids).insertionSort (· ≤ ·)).dedup
  | some _ => failing (key ++ " must be a bounded array")

/-! ### Mappings -/

/-- The adapter lock of a mapping. -/
def loadLock (lock : Json) : Except Bytes AdapterIdentityLock := do
  require lock.isObject (ascii "adapter lock must be an object")
  rejectUnknownKeys lock
    ["id_path", "permanent_mac", "usb_serial", "usb_vendor_id", "usb_product_id"] "adapter lock"
  let parsed : AdapterIdentityLock :=
    { idPath := ← lock.stringValue "id_path"
      permanentMac := ← optionalString lock "permanent_mac"
      usbSerial := ← optionalString lock "usb_serial"
      usbVendorId := ← optionalString lock "usb_vendor_id"
      usbProductId := ← optionalString lock "usb_product_id" }
  validateAdapterLock parsed
  return { parsed with
    permanentMac := parsed.permanentMac.bind normalizeMac
    usbVendorId := parsed.usbVendorId.bind normalizeUsbId
    usbProductId := parsed.usbProductId.bind normalizeUsbId }

/-- The lock of a mapping, if it has one. -/
def optionalLock (entry : Json) : Except Bytes (Option AdapterIdentityLock) :=
  match entry.find "lock" with
  | none => .ok none
  | some lock => (loadLock lock).map some

/-- An entry of `expected_subdevices`. -/
def loadSubDevice (expected : Json) : Except Bytes ExpectedSubDevice := do
  require expected.isObject (ascii "each expected_subdevices entry must be an object")
  rejectUnknownKeys expected
    ["vendor_id", "product_code", "revision", "output_bytes", "input_bytes"] "expected SubDevice"
  let vendorId ← checkedUint32 expected "vendor_id"
  let productCode ← checkedUint32 expected "product_code"
  let revision ← optionalUint32 expected "revision"
  let outputBytes ← optionalUint32 expected "output_bytes"
  require (outputBytes.all fun bytes => bytes.toNat ≤ kMaximumOutputWrite)
    (ascii "expected SubDevice output_bytes exceeds the atomic 1024-byte write bound")
  let inputBytes ← optionalUint32 expected "input_bytes"
  return ⟨vendorId, productCode, revision, outputBytes, inputBytes⟩

/-- The expected topology of a mapping. -/
def loadTopology (entry : Json) : Except Bytes (List ExpectedSubDevice) :=
  match entry.find "expected_subdevices" with
  | none => .ok []
  | some (.array topology) => do
      require (topology.length < ecMaxSlave) (ascii "expected_subdevices must be a bounded array")
      topology.mapM loadSubDevice
  | some _ => failing "expected_subdevices must be a bounded array"

/-- One mapping, after the mappings with the given names. -/
def loadMapping (allowRestrictedInterfaces : Bool) (logicalNames physicalNames : List Bytes)
    (entry : Json) : Except Bytes InterfaceConfig := do
  require entry.isObject (ascii "each interface mapping must be an object")
  rejectUnknownKeys entry
    ["logical_name", "physical_interface", "enabled", "maximum_io_map_bytes",
      "distributed_clock", "distributed_clock_shift_ns", "allow_unverified_topology", "lock",
      "expected_subdevices"] "interface mapping"
  let logicalName ← entry.stringValue "logical_name"
  let physicalInterface ← entry.stringValue "physical_interface"
  let enabled ← entry.boolValue "enabled" true
  require (isValidLogicalName logicalName)
    (ascii "invalid logical_name '" ++ logicalName ++ ascii "'")
  require (isValidInterfaceName physicalInterface)
    (ascii "invalid physical_interface '" ++ physicalInterface ++ ascii "'")
  require (¬(allowRestrictedInterfaces = false ∧ isRestrictedInterface physicalInterface = true))
    (ascii "restricted interface requires allow_restricted_interfaces: " ++ physicalInterface)
  require (logicalName ∉ logicalNames ∧ physicalInterface ∉ physicalNames)
    (ascii "logical and physical interface names must be unique")
  let ioMapLimit ← entry.integerValue "maximum_io_map_bytes" (256 * 1024)
  require (1024 ≤ ioMapLimit ∧ ioMapLimit ≤ kMaximumPdoImage)
    (ascii "maximum_io_map_bytes must be between 1024 and 1048576")
  let distributedClock ← entry.boolValue "distributed_clock" false
  let allowUnverifiedTopology ← entry.boolValue "allow_unverified_topology" false
  let dcShift ← entry.integerValue "distributed_clock_shift_ns" 0
  require (-2147483648 ≤ dcShift ∧ dcShift ≤ 2147483647)
    (ascii "distributed_clock_shift_ns is outside the int32 range")
  let lock ← optionalLock entry
  let expectedSubDevices ← loadTopology entry
  return ⟨logicalName, physicalInterface, enabled, lock, expectedSubDevices, ioMapLimit.toNat,
    distributedClock, dcShift, allowUnverifiedTopology⟩

/-- The loop over the mappings: the enabled ones, after those with the given names. -/
def loadMappings (allowRestrictedInterfaces : Bool) (logicalNames physicalNames : List Bytes) :
    List Json → Except Bytes (List InterfaceConfig)
  | [] => .ok []
  | entry :: entries => do
      let interface ← loadMapping allowRestrictedInterfaces logicalNames physicalNames entry
      let interfaces ← loadMappings allowRestrictedInterfaces
        (interface.logicalName :: logicalNames) (interface.physicalInterface :: physicalNames)
        entries
      return if interface.enabled then interface :: interfaces else interfaces

/-- The entries of `interface_mappings`. -/
def mappingEntries (root : Json) : Except Bytes (List Json) :=
  match root.find "interface_mappings" with
  | some (.array entries) => .ok entries
  | _ => failing "configuration must contain an interface_mappings array"

/-! ### The whole configuration -/

/-- `kDefaultLogDirectory`. -/
def defaultLogDirectory : Bytes := ascii "/var/log/ec-systemcore"

/-- `kMaximumBuses`. -/
def maximumBuses : ℕ := 8

/-- The CPU of the realtime settings, if they have one. -/
def loadCpu (root : Json) : Except Bytes (Option ℕ) :=
  match root.find "realtime_cpu" with
  | none => .ok none
  | some _ => do
      let cpu ← root.integerValue "realtime_cpu"
      require (0 ≤ cpu ∧ cpu ≤ 0xffffffff) (ascii "realtime_cpu is outside the accepted range")
      return some cpu.toNat

/-- The realtime settings. -/
def loadRealtime (root : Json) : Except Bytes RealtimeConfig := do
  let requestMemoryLock ← root.boolValue "realtime_memory_lock" true
  let requestFifo ← root.boolValue "realtime_fifo" true
  let priority ← root.integerValue "realtime_priority" 55
  require (-2147483648 ≤ priority ∧ priority ≤ 2147483647)
    (ascii "realtime_priority is outside the int range")
  let cpuAffinity ← loadCpu root
  return ⟨requestMemoryLock, requestFifo, priority, cpuAffinity⟩

/-- What `LoadConfigText` reads from the root of the configuration. -/
def loadRoot (root : Json) : Except Bytes DaemonConfig := do
  require root.isObject (ascii "configuration root must be an object")
  rejectUnknownKeys root
    ["allow_restricted_interfaces", "cycle_period_us", "heartbeat_timeout_ms",
      "output_command_timeout_ms", "log_directory", "log_count_limit", "free_space_threshold_mb",
      "realtime_memory_lock", "realtime_fifo", "realtime_priority", "realtime_cpu",
      "controller_group", "controller_uids", "controller_gids", "interface_mappings", "nt4_server",
      "nt4_team"] "configuration"
  require ((root.find "nt4_server").isNone ∧ (root.find "nt4_team").isNone)
    (ascii "nt4_server/nt4_team are unsupported; use the ec-systemcore client IPC API")
  let allowRestrictedInterfaces ← root.boolValue "allow_restricted_interfaces" false
  let cyclePeriod ← root.integerValue "cycle_period_us" 5000
  require (5000 ≤ cyclePeriod ∧ cyclePeriod ≤ 1000000)
    (ascii "cycle_period_us must be between 5000 and 1000000")
  let heartbeat ← root.integerValue "heartbeat_timeout_ms" 250
  require (100 ≤ heartbeat ∧ heartbeat ≤ 5000)
    (ascii "heartbeat_timeout_ms must be between 100 and 5000")
  let outputCommandTimeout ← root.integerValue "output_command_timeout_ms" 100
  require (20 ≤ outputCommandTimeout ∧ outputCommandTimeout ≤ heartbeat)
    (ascii "output_command_timeout_ms must be between 20 and heartbeat_timeout_ms")
  require (cyclePeriod * 2 ≤ outputCommandTimeout * 1000)
    (ascii "output_command_timeout_ms must cover at least two cycle_period_us intervals")
  let logDirectory ← root.stringValue "log_directory" defaultLogDirectory
  require (logDirectory = defaultLogDirectory)
    (ascii "log_directory is fixed at /var/log/ec-systemcore")
  let logCount ← root.integerValue "log_count_limit" 10
  require (1 ≤ logCount ∧ logCount ≤ 1000) (ascii "log_count_limit must be between 1 and 1000")
  let freeMegabytes ← root.integerValue "free_space_threshold_mb" 50
  require (0 ≤ freeMegabytes ∧ freeMegabytes ≤ 1024 * 1024)
    (ascii "free_space_threshold_mb is outside the accepted range")
  let realtime ← loadRealtime root
  let controllerGroup ← root.stringValue "controller_group" (ascii "ec-systemcore-controller")
  require (controllerGroup ≠ [] ∧ controllerGroup.length ≤ 255 ∧ controllerGroup.all isNameByte)
    (ascii "controller_group is invalid")
  let controllerUids ← parsePeerIds root "controller_uids" [0]
  let controllerGids ← parsePeerIds root "controller_gids" []
  let entries ← mappingEntries root
  require (entries.length ≤ maximumBuses) (ascii "too many configured EtherCAT buses")
  let interfaces ← loadMappings allowRestrictedInterfaces [] [] entries
  return ⟨interfaces, allowRestrictedInterfaces, cyclePeriod, heartbeat, outputCommandTimeout,
    logDirectory, logCount.toNat, freeMegabytes.toNat * 1024 * 1024, realtime, controllerUids,
    controllerGids, controllerGroup⟩

/-- The limits `LoadConfigText` gives the reader. -/
def limits : Json.Limits where
  maximumBytes := 1024 * 1024
  maximumDepth := 32
  maximumNodes := 8192
  maximumStringBytes := 4096

end LoadConfig

/-- `LoadConfigText`. -/
def loadConfigText (text : Bytes) : Except Bytes DaemonConfig := do
  LoadConfig.loadRoot (← Json.parse text LoadConfig.limits)

/-! ### Names of an accepted configuration -/

namespace LoadConfig

theorem require_bind_eq_ok_iff {α : Type} {condition : Prop} [Decidable condition] {message : Bytes}
    {next : Unit → Except Bytes α} {result : α} :
    (require condition message >>= next) = .ok result ↔ condition ∧ next () = .ok result := by
  unfold require
  split
  case isTrue h => exact (and_iff_right h).symm
  case isFalse h => exact ⟨fun hok => (by cases hok), fun hok => absurd hok.1 h⟩

section

variable {allowRestrictedInterfaces : Bool}

theorem length_of_loadTopology {entry : Json} {topology : List ExpectedSubDevice}
    (h : loadTopology entry = .ok topology) : topology.length < ecMaxSlave := by
  unfold loadTopology at h
  split at h
  · cases h
    decide
  · obtain ⟨hlength, hitems⟩ := require_bind_eq_ok_iff.mp h
    rwa [← (mapM_eq_ok_iff.mp hitems).length_eq]
  · cases h

/-- A mapping's names are new, its interface is not restricted unless that is allowed, and its
topology is bounded. -/
theorem names_of_loadMapping {logicalNames physicalNames : List Bytes} {entry : Json}
    {interface : InterfaceConfig}
    (h : loadMapping allowRestrictedInterfaces logicalNames physicalNames entry = .ok interface) :
    ¬(allowRestrictedInterfaces = false ∧
        isRestrictedInterface interface.physicalInterface = true) ∧
      interface.physicalInterface ∉ physicalNames ∧
      interface.expectedSubDevices.length < ecMaxSlave := by
  unfold loadMapping at h
  simp only [↓require_bind_eq_ok_iff, bind_eq_ok_iff] at h
  obtain ⟨-, -, -, logicalName, -, physicalInterface, -, enabled, -, -, -, hallowed, hnew, ioMapLimit,
    -, -, distributedClock, -, allowUnverifiedTopology, -, dcShift, -, -, lock, -, topology,
    htopology, hinterface⟩ := h
  cases hinterface
  exact ⟨hallowed, hnew.2, length_of_loadTopology htopology⟩

/-- The same of all mappings, by induction over the loop. -/
theorem names_of_loadMappings {logicalNames physicalNames : List Bytes} {entries : List Json}
    {interfaces : List InterfaceConfig}
    (h : loadMappings allowRestrictedInterfaces logicalNames physicalNames entries =
      .ok interfaces) :
    interfaces.length ≤ entries.length ∧ (interfaces.map (·.physicalInterface)).Nodup ∧
    ∀ interface ∈ interfaces, interface.physicalInterface ∉ physicalNames ∧
      interface.expectedSubDevices.length < ecMaxSlave ∧ ¬(allowRestrictedInterfaces = false ∧
        isRestrictedInterface interface.physicalInterface = true) := by
  induction entries generalizing logicalNames physicalNames interfaces with
  | nil =>
    cases h
    exact ⟨Nat.zero_le _, List.nodup_nil, fun _ hinterface => (by cases hinterface)⟩
  | cons entry entries ih =>
    simp only [loadMappings, bind_eq_ok_iff] at h
    obtain ⟨interface, hentry, others, hothers, hinterfaces⟩ := h
    obtain ⟨hallowed, hnew, htopology⟩ := names_of_loadMapping hentry
    obtain ⟨hlength, hnodup, hall⟩ := ih hothers
    have holder : ∀ other ∈ others, other.physicalInterface ∉ physicalNames ∧
        other.expectedSubDevices.length < ecMaxSlave ∧ ¬(allowRestrictedInterfaces = false ∧
          isRestrictedInterface other.physicalInterface = true) := fun other hother =>
      ⟨fun hmem => (hall other hother).1 (List.mem_cons_of_mem _ hmem), (hall other hother).2⟩
    cases Except.ok.inj hinterfaces
    split
    · refine ⟨Nat.succ_le_succ hlength, ?_, ?_⟩
      · rw [List.map_cons, List.nodup_cons]
        refine ⟨fun hmem => ?_, hnodup⟩
        obtain ⟨other, hother, hname⟩ := List.mem_map.mp hmem
        exact (hall other hother).1 (hname ▸ List.mem_cons_self)
      · rintro other (_ | ⟨_, hother⟩)
        · exact ⟨hnew, htopology, hallowed⟩
        · exact holder other hother
    · exact ⟨hlength.trans (Nat.le_succ _), hnodup, holder⟩

end

end LoadConfig

/-- **The interfaces of an accepted configuration are distinct**, and restricted ones are
among them only if the configuration allows that. -/
theorem names_of_loadConfigText {text : Bytes} {configuration : DaemonConfig}
    (h : loadConfigText text = .ok configuration) :
    (configuration.interfaces.map (·.physicalInterface)).Nodup ∧
      (configuration.allowRestrictedInterfaces = false → ∀ interface ∈ configuration.interfaces,
        isRestrictedInterface interface.physicalInterface = false) := by
  simp only [loadConfigText, LoadConfig.loadRoot, ↓LoadConfig.require_bind_eq_ok_iff,
    bind_eq_ok_iff] at h
  obtain ⟨root, -, -, -, -, -, allowed, -, cyclePeriod, -, -, heartbeat, -, -, timeout, -, -, -,
    logDirectory, -, -, logCount, -, -, freeMegabytes, -, -, realtime, -, group, -, -, uids, -, gids,
    -, entries, -, -, interfaces, hinterfaces, hconfiguration⟩ := h
  cases hconfiguration
  obtain ⟨-, hnodup, hall⟩ := LoadConfig.names_of_loadMappings hinterfaces
  refine ⟨hnodup, fun hallowed interface hinterface => ?_⟩
  exact Bool.eq_false_iff.mpr fun hrestricted =>
    (hall interface hinterface).2.2 ⟨hallowed, hrestricted⟩

/-- The buses, SubDevices and timeout of an accepted configuration. -/
theorem sizes_of_loadConfigText {text : Bytes} {configuration : DaemonConfig}
    (h : loadConfigText text = .ok configuration) :
    configuration.interfaces.length ≤ LoadConfig.maximumBuses ∧
      (∀ interface ∈ configuration.interfaces, interface.expectedSubDevices.length < ecMaxSlave) ∧
      20 ≤ configuration.outputCommandTimeout ∧ configuration.outputCommandTimeout ≤ 5000 := by
  simp only [loadConfigText, LoadConfig.loadRoot, ↓LoadConfig.require_bind_eq_ok_iff,
    bind_eq_ok_iff] at h
  obtain ⟨root, -, -, -, -, -, allowed, -, cyclePeriod, -, -, heartbeat, -, hheartbeat, timeout, -,
    htimeout, -, logDirectory, -, -, logCount, -, -, freeMegabytes, -, -, realtime, -, group, -, -,
    uids, -, gids, -, entries, -, hentries, interfaces, hinterfaces, hconfiguration⟩ := h
  cases hconfiguration
  obtain ⟨hlength, -, hall⟩ := LoadConfig.names_of_loadMappings hinterfaces
  exact ⟨hlength.trans hentries, fun interface hinterface => (hall interface hinterface).2.1,
    htimeout.1, htimeout.2.trans hheartbeat.2⟩

end EcSystemCore
