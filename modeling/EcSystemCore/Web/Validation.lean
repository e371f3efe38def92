import EcSystemCore.Lib.Checks
import EcSystemCore.Web.JsValue

/-!
# The checks of the configuration server

`core.ts`: `validateConfig` and what it calls, in the order in which the source makes its
checks.  A `ValidationError` is its message.  The records are those of the source; a
property that the source sets only on some objects is an `Option`.  Numbers of a validated
configuration are integers, so they are `ℤ` here.

Paths are those of a POSIX system.
-/

namespace EcSystemCore.Web

open Checks

/-! ### Records -/

/-- `AdapterLockIdentity`. -/
structure AdapterLockIdentity where
  idPath : JsString
  permanentMac : Option JsString := none
  usbSerial : Option JsString := none
  usbVendorId : Option JsString := none
  usbProductId : Option JsString := none
  deriving DecidableEq

/-- `ExpectedSubDevice`. -/
structure ExpectedSubDevice where
  vendorId : ℤ
  productCode : ℤ
  revision : Option ℤ := none
  outputBytes : Option ℤ := none
  inputBytes : Option ℤ := none
  deriving DecidableEq

/-- `InterfaceMapping`. -/
structure InterfaceMapping where
  logicalName : JsString
  physicalInterface : JsString
  enabled : Bool
  lock : Option AdapterLockIdentity := none
  maximumIoMapBytes : Option ℤ := none
  distributedClock : Option Bool := none
  distributedClockShiftNs : Option ℤ := none
  allowUnverifiedTopology : Option Bool := none
  expectedSubDevices : Option (List ExpectedSubDevice) := none
  deriving DecidableEq

/-- `ConfigurationConfig`. -/
structure ConfigurationConfig where
  allowRestrictedInterfaces : Bool := false
  cyclePeriodUs : ℤ := 5000
  logDirectory : JsString := js "/var/log/ec-systemcore"
  logCountLimit : ℤ := 10
  freeSpaceThresholdMb : ℤ := 50
  controllerGroup : JsString := js "ec-systemcore-controller"
  controllerUids : List ℤ := [0]
  controllerGids : List ℤ := []
  heartbeatTimeoutMs : ℤ := 250
  outputCommandTimeoutMs : ℤ := 100
  interfaceMappings : List InterfaceMapping := []
  realtimeMemoryLock : Option Bool := none
  realtimeFifo : Option Bool := none
  realtimePriority : Option ℤ := none
  realtimeCpu : Option ℤ := none
  deriving DecidableEq

/-- `DEFAULT_CONFIG`. -/
def defaultConfig : ConfigurationConfig := {}

/-! ### Fields -/

/-- The properties of a value that `isRecord` accepts. -/
def record? : JsValue → Option (List (JsString × JsValue))
  | .object properties => some properties
  | _ => none

/-- `isRecord`, or the error. -/
def requireRecord (value : JsValue) (message : JsString) :
    Except JsString (List (JsString × JsValue)) :=
  match record? value with
  | some properties => .ok properties
  | none => .error message

/-- `requireBoolean`. -/
def requireBoolean (value : JsValue) (field : JsString) (fallback : Option Bool := none) :
    Except JsString Bool :=
  match value, fallback with
  | .undefined, some fallback => .ok fallback
  | .bool value, _ => .ok value
  | _, _ => .error (field ++ js " must be a boolean")

/-- The integer of a value that `Number.isInteger` accepts. -/
def integer? : JsValue → Option ℤ
  | .number value => value.integer?
  | _ => none

/-- `requireInteger`. -/
def requireInteger (value : JsValue) (field : JsString) (minimum maximum : ℤ)
    (fallback : Option ℤ := none) : Except JsString ℤ :=
  match value, fallback with
  | .undefined, some fallback => .ok fallback
  | value, _ =>
    match (integer? value).filter fun integer => minimum ≤ integer ∧ integer ≤ maximum with
    | some integer => .ok integer
    | none => .error (field ++ js " must be an integer from " ++ showInteger minimum ++
        js " to " ++ showInteger maximum)

/-- `containsControlCharacters`. -/
def containsControlCharacters (text : JsString) : Bool :=
  text.any fun code => code ≤ 0x1f || code = 0x7f

/-- `requireString`. -/
def requireString (value : JsValue) (field : JsString) (maximumLength : ℕ)
    (fallback : Option JsString := none) : Except JsString JsString :=
  match value, fallback with
  | .undefined, some fallback => .ok fallback
  | .string text, _ =>
    if text.length > maximumLength then
      .error (field ++ js " must be a string of at most " ++ showInteger maximumLength ++
        js " characters")
    else if containsControlCharacters text then
      .error (field ++ js " contains control characters")
    else .ok text
  | _, _ =>
    .error (field ++ js " must be a string of at most " ++ showInteger maximumLength ++
      js " characters")

/-- The field of an element. -/
def elementField (field : JsString) (index : ℕ) : JsString :=
  field ++ js "[" ++ showInteger index ++ js "]"

/-- `[...new Set(ids)].sort((left, right) => left - right)`. -/
def sortedIds (ids : List ℤ) : List ℤ := ids.dedup.insertionSort (· ≤ ·)

/-- `requireIdArray`. -/
def requireIdArray (value : JsValue) (field : JsString) (fallback : List ℤ)
    (includeRoot : Bool := false) : Except JsString (List ℤ) := do
  let selected : JsValue := match value with
    | .undefined => .array (fallback.map fun id => .number (.ofInt id))
    | value => value
  match selected with
  | .array items =>
    if items.length > 64 then
      .error (field ++ js " must be an array with at most 64 entries")
    else do
      let ids ← items.zipIdx.mapM fun (item, index) =>
        requireInteger item (elementField field index) 0 0xffffffff
      return sortedIds (if includeRoot then ids ++ [0] else ids)
  | _ => .error (field ++ js " must be an array with at most 64 entries")

/-- `FORBIDDEN_JSON_KEYS`. -/
def forbiddenKeys : List JsString := ["__proto__", "prototype", "constructor"].map js

/-- `rejectUnknownKeys`. -/
def rejectUnknownKeys (properties : List (JsString × JsValue)) (known : List String)
    (field : JsString) (additionallyAllowed : List String := []) : Except JsString Unit :=
  forM properties fun (key, _) => do
    check (key ∉ forbiddenKeys) (field ++ js " contains a forbidden key")
    check (key ∈ known.map js ∨ key ∈ additionallyAllowed.map js)
      (field ++ js " contains unknown key " ++ key)

/-! ### Adapter locks -/

/-- The digits `normalizeMac` collects, lower case; `none` at a character that is neither
a digit nor a separator. -/
def macDigits : JsString → Option JsString
  | [] => some []
  | c :: text =>
    if isJsXDigit c then (macDigits text).map (lowerUnit c :: ·)
    else if c = jsChar ':' || c = jsChar '-' || isJsSpace c then macDigits text
    else none

/-- The value of a lower-case hexadecimal digit. -/
def hexValue (c : UInt16) : ℕ := if isJsDigit c then c.toNat - 0x30 else c.toNat - 0x61 + 10

/-- `match(/.{2}/g).join(":")`. -/
def colonPairs : JsString → JsString
  | c₀ :: c₁ :: c₂ :: text => c₀ :: c₁ :: jsChar ':' :: colonPairs (c₂ :: text)
  | short => short

/-- `normalizeMac`. -/
def normalizeMac (value : JsValue) (field : JsString) : Except JsString JsString := do
  let text ← requireString value field 64
  match macDigits text with
  | none => .error (field ++ js " must be a unicast MAC address")
  | some hexadecimal =>
    check (hexadecimal.length = 12) (field ++ js " must be a unicast MAC address")
    let firstByte := hexValue (hexadecimal.getD 0 0) * 16 + hexValue (hexadecimal.getD 1 0)
    check (¬(firstByte % 2 ≠ 0 ∨ hexadecimal = js "000000000000" ∨
      hexadecimal = js "ffffffffffff")) (field ++ js " must be a unicast MAC address")
    return colonPairs hexadecimal

/-- `replace(/^0x/i, "")`. -/
def withoutHexMark : JsString → JsString
  | c₀ :: c₁ :: text =>
    if c₀ = jsChar '0' ∧ (c₁ = jsChar 'x' ∨ c₁ = jsChar 'X') then text else c₀ :: c₁ :: text
  | short => short

/-- `normalizeUsbId`. -/
def normalizeUsbId (value : JsValue) (field : JsString) : Except JsString (Option JsString) :=
  match value with
  | .undefined => .ok none
  | value => do
      let raw ← requireString value field 6
      let text := (withoutHexMark (trim raw)).map lowerUnit
      check (text.length = 4 ∧ text.all isJsXDigit)
        (field ++ js " must be a four-digit hexadecimal USB ID")
      return some text

/-- No character outside printable ASCII. -/
def isPrintable (text : JsString) : Bool := text.all fun code => 0x20 ≤ code && code ≤ 0x7e

/-- `KNOWN_LOCK_KEYS`. -/
def knownLockKeys : List String :=
  ["id_path", "permanent_mac", "usb_serial", "usb_vendor_id", "usb_product_id"]

/-- The `permanent_mac` of a lock; an empty one counts as missing. -/
def lockMac (value : JsValue) (field : JsString) : Except JsString (Option JsString) :=
  match value with
  | .undefined => .ok none
  | .string [] => .ok none
  | value => (normalizeMac value field).map some

/-- The `usb_serial` of a lock. -/
def lockSerial (value : JsValue) (field : JsString) : Except JsString (Option JsString) :=
  match value with
  | .undefined => .ok none
  | value => do
      let serial := trim (← requireString value field 256)
      check (serial ≠ [] ∧ isPrintable serial) (field ++ js " must contain printable ASCII")
      return some serial

/-- `validateAdapterLock`. -/
def validateAdapterLock (value : JsValue) (field : JsString) :
    Except JsString AdapterLockIdentity := do
  let lock ← requireRecord value (field ++ js " must be an object")
  rejectUnknownKeys lock knownLockKeys field
  let idPath := trim (← requireString (property lock "id_path") (field ++ js ".id_path") 1024)
  check (idPath ≠ [] ∧ isPrintable idPath)
    (field ++ js ".id_path is not a valid stable device path")
  let permanentMac ← lockMac (property lock "permanent_mac") (field ++ js ".permanent_mac")
  let usbSerial ← lockSerial (property lock "usb_serial") (field ++ js ".usb_serial")
  let usbVendorId ← normalizeUsbId (property lock "usb_vendor_id") (field ++ js ".usb_vendor_id")
  let usbProductId ←
    normalizeUsbId (property lock "usb_product_id") (field ++ js ".usb_product_id")
  return ⟨idPath, permanentMac, usbSerial, usbVendorId, usbProductId⟩

/-! ### Mappings -/

/-- A property that is checked if it is there. -/
def optional {α : Type} (value : JsValue) (validate : JsValue → Except JsString α) :
    Except JsString (Option α) :=
  match value with
  | .undefined => .ok none
  | value => (validate value).map some

/-- `RESTRICTED_INTERFACES`. -/
def restrictedInterfaces : List JsString := ["eth0", "wlan0", "usb0", "lo"].map js

/-- `MAX_EXPECTED_SUBDEVICES`. -/
def maximumExpectedSubDevices : ℕ := 199

/-- `MAX_OUTPUT_WRITE_BYTES`. -/
def maximumOutputWriteBytes : ℤ := 1024

/-- `KNOWN_EXPECTED_SUBDEVICE_KEYS`. -/
def knownSubDeviceKeys : List String :=
  ["vendor_id", "product_code", "revision", "output_bytes", "input_bytes"]

/-- An entry of `expected_subdevices`. -/
def validateSubDevice (value : JsValue) (field : JsString) :
    Except JsString ExpectedSubDevice := do
  let item ← requireRecord value (field ++ js " must be an object")
  rejectUnknownKeys item knownSubDeviceKeys field
  let vendorId ←
    requireInteger (property item "vendor_id") (field ++ js ".vendor_id") 0 0xffffffff
  let productCode ←
    requireInteger (property item "product_code") (field ++ js ".product_code") 0 0xffffffff
  let revision ← optional (property item "revision")
    (requireInteger · (field ++ js ".revision") 0 0xffffffff)
  let outputBytes ← optional (property item "output_bytes")
    (requireInteger · (field ++ js ".output_bytes") 0 maximumOutputWriteBytes)
  let inputBytes ← optional (property item "input_bytes")
    (requireInteger · (field ++ js ".input_bytes") 0 0xffffffff)
  return ⟨vendorId, productCode, revision, outputBytes, inputBytes⟩

/-- The `expected_subdevices` of a mapping. -/
def validateSubDevices (field : JsString) (value : JsValue) :
    Except JsString (List ExpectedSubDevice) :=
  let excess := field ++ js " must contain at most " ++ showInteger maximumExpectedSubDevices ++
    js " entries"
  match value with
  | .array items =>
    if items.length > maximumExpectedSubDevices then .error excess
    else items.zipIdx.mapM fun (item, index) => validateSubDevice item (elementField field index)
  | _ => .error excess

/-- `KNOWN_MAPPING_KEYS`. -/
def knownMappingKeys : List String :=
  ["logical_name", "physical_interface", "enabled", "lock", "maximum_io_map_bytes",
    "distributed_clock", "distributed_clock_shift_ns", "allow_unverified_topology",
    "expected_subdevices"]

/-- `validateMapping`. -/
def validateMapping (value : JsValue) (index : ℕ) (allowRestricted : Bool) :
    Except JsString InterfaceMapping := do
  let field := elementField (js "interface_mappings") index
  let mapping ← requireRecord value (field ++ js " must be an object")
  rejectUnknownKeys mapping knownMappingKeys field
  let logicalName :=
    trim (← requireString (property mapping "logical_name") (field ++ js ".logical_name") 32)
  check (logicalName ≠ [] ∧ logicalName.all isNameUnit) (field ++ js ".logical_name is invalid")
  let physicalInterface := trim (← requireString (property mapping "physical_interface")
    (field ++ js ".physical_interface") 15)
  check (physicalInterface ≠ [] ∧ physicalInterface.all fun c =>
      isNameUnit c || c = jsChar '.' || c = jsChar ':')
    (field ++ js ".physical_interface is invalid")
  check (¬(allowRestricted = false ∧ physicalInterface ∈ restrictedInterfaces))
    (field ++ js (".physical_interface is restricted; explicitly enable restricted " ++
      "interfaces first"))
  let enabled ← requireBoolean (property mapping "enabled") (field ++ js ".enabled") (some true)
  let lock ← optional (property mapping "lock") (validateAdapterLock · (field ++ js ".lock"))
  let maximumIoMapBytes ← optional (property mapping "maximum_io_map_bytes")
    (requireInteger · (field ++ js ".maximum_io_map_bytes") 1024 1048576)
  let distributedClock ← optional (property mapping "distributed_clock")
    (requireBoolean · (field ++ js ".distributed_clock"))
  let distributedClockShiftNs ← optional (property mapping "distributed_clock_shift_ns")
    (requireInteger · (field ++ js ".distributed_clock_shift_ns") (-2147483648) 2147483647)
  let allowUnverifiedTopology ← optional (property mapping "allow_unverified_topology")
    (requireBoolean · (field ++ js ".allow_unverified_topology"))
  let expectedSubDevices ← optional (property mapping "expected_subdevices")
    (validateSubDevices (field ++ js ".expected_subdevices"))
  return ⟨logicalName, physicalInterface, enabled, lock, maximumIoMapBytes, distributedClock,
    distributedClockShiftNs, allowUnverifiedTopology, expectedSubDevices⟩

/-- The loop that rejects names that are used twice, with the names seen so far. -/
def rejectDuplicates :
    List InterfaceMapping → List JsString → List JsString → Except JsString Unit
  | [], _, _ => .ok ()
  | mapping :: mappings, logicalNames, physicalNames => do
      check (mapping.logicalName ∉ logicalNames)
        (js "duplicate logical interface " ++ mapping.logicalName)
      check (mapping.physicalInterface ∉ physicalNames)
        (js "duplicate physical interface " ++ mapping.physicalInterface)
      rejectDuplicates mappings (mapping.logicalName :: logicalNames)
        (mapping.physicalInterface :: physicalNames)

/-- `MAX_INTERFACE_MAPPINGS`. -/
def maximumInterfaceMappings : ℕ := 8

/-- The entries of `interface_mappings`; a missing or null one stands for none. -/
def rawMappings (value : JsValue) : Except JsString (List JsValue) :=
  match value with
  | .undefined | .null => .ok []
  | .array items =>
    if items.length > maximumInterfaceMappings then
      .error (js "interface_mappings must be an array with at most 8 entries")
    else .ok items
  | _ => .error (js "interface_mappings must be an array with at most 8 entries")

/-! ### Paths -/

/-- `isAbsolute`. -/
def isAbsolute (path : JsString) : Bool := path.head? = some (jsChar '/')

/-- One segment of a path, after those kept so far. -/
def pathSegment (kept : List JsString) (segment : JsString) : List JsString :=
  if segment = [] ∨ segment = js "." then kept
  else if segment = js ".." then kept.dropLast
  else kept ++ [segment]

/-- The segments of the normal form of an absolute path. -/
def resolveSegments (path : JsString) : List JsString :=
  (path.splitOn (jsChar '/')).foldl pathSegment []

/-- `resolve` of an absolute path. -/
def resolve (path : JsString) : JsString :=
  jsChar '/' :: (js "/").intercalate (resolveSegments path)

/-! ### The whole configuration -/

/-- `KNOWN_CONFIG_KEYS`. -/
def knownConfigKeys : List String :=
  ["allow_restricted_interfaces", "cycle_period_us", "log_directory", "log_count_limit",
    "free_space_threshold_mb", "interface_mappings", "heartbeat_timeout_ms",
    "output_command_timeout_ms", "realtime_memory_lock", "realtime_fifo", "realtime_priority",
    "realtime_cpu", "controller_group", "controller_uids", "controller_gids"]

/-- `REMOVED_LEGACY_CONFIG_KEYS`. -/
def removedLegacyKeys : List String := ["nt4_server", "nt4_team"]

/-- `validateConfig`. -/
def validateConfig (value : JsValue) (logRoot : JsString := defaultConfig.logDirectory) :
    Except JsString ConfigurationConfig := do
  let config ← requireRecord value (js "configuration must be a JSON object")
  rejectUnknownKeys config knownConfigKeys (js "configuration") removedLegacyKeys
  let allowRestricted ← requireBoolean (property config "allow_restricted_interfaces")
    (js "allow_restricted_interfaces") (some defaultConfig.allowRestrictedInterfaces)
  let mappings ← rawMappings (property config "interface_mappings")
  let interfaceMappings ← mappings.zipIdx.mapM fun (item, index) =>
    validateMapping item index allowRestricted
  rejectDuplicates interfaceMappings [] []
  let logDirectory := trim (← requireString (property config "log_directory")
    (js "log_directory") 4096 (some defaultConfig.logDirectory))
  check (isAbsolute logDirectory ∧ logDirectory ≠ js "/")
    (js "log_directory must be an absolute non-root directory")
  check (resolve logDirectory = resolve logRoot) (js "log_directory must be exactly " ++ logRoot)
  let heartbeatTimeoutMs ← requireInteger (property config "heartbeat_timeout_ms")
    (js "heartbeat_timeout_ms") 100 5000 (some defaultConfig.heartbeatTimeoutMs)
  let cyclePeriodUs ← requireInteger (property config "cycle_period_us")
    (js "cycle_period_us") 5000 1000000 (some defaultConfig.cyclePeriodUs)
  let outputCommandTimeoutMs ← requireInteger (property config "output_command_timeout_ms")
    (js "output_command_timeout_ms") 20 heartbeatTimeoutMs
    (some defaultConfig.outputCommandTimeoutMs)
  check (¬outputCommandTimeoutMs * 1000 < cyclePeriodUs * 2)
    (js "output_command_timeout_ms must cover at least two cycle_period_us intervals")
  let logCountLimit ← requireInteger (property config "log_count_limit")
    (js "log_count_limit") 1 1000 (some defaultConfig.logCountLimit)
  let freeSpaceThresholdMb ← requireInteger (property config "free_space_threshold_mb")
    (js "free_space_threshold_mb") 0 1048576 (some defaultConfig.freeSpaceThresholdMb)
  let controllerGroup := trim (← requireString (property config "controller_group")
    (js "controller_group") 255 (some defaultConfig.controllerGroup))
  let controllerUids ← requireIdArray (property config "controller_uids") (js "controller_uids")
    defaultConfig.controllerUids true
  let controllerGids ← requireIdArray (property config "controller_gids") (js "controller_gids")
    defaultConfig.controllerGids
  check (controllerGroup ≠ [] ∧ controllerGroup.all isNameUnit) (js "controller_group is invalid")
  let realtimeMemoryLock ← optional (property config "realtime_memory_lock")
    (requireBoolean · (js "realtime_memory_lock"))
  let realtimeFifo ← optional (property config "realtime_fifo")
    (requireBoolean · (js "realtime_fifo"))
  let realtimePriority ← optional (property config "realtime_priority")
    (requireInteger · (js "realtime_priority") (-2147483648) 2147483647)
  let realtimeCpu ← optional (property config "realtime_cpu")
    (requireInteger · (js "realtime_cpu") 0 0xffffffff)
  return ⟨allowRestricted, cyclePeriodUs, logDirectory, logCountLimit, freeSpaceThresholdMb,
    controllerGroup, controllerUids, controllerGids, heartbeatTimeoutMs, outputCommandTimeoutMs,
    interfaceMappings, realtimeMemoryLock, realtimeFifo, realtimePriority, realtimeCpu⟩

/-- `hasRemovedLegacyConfigKeys`. -/
def hasRemovedLegacyConfigKeys (value : JsValue) : Bool :=
  match record? value with
  | some config => removedLegacyKeys.any fun key => config.any fun entry => entry.1 = js key
  | none => false

end EcSystemCore.Web
