import EcSystemCore.Web.Validation

/-!
# Validated configurations as values and as text

A `Document` is a value of which `JSON.stringify` leaves nothing out: booleans, integers
that a `double` holds, strings, arrays and objects.  `ConfigurationConfig.document` is the
object that `validateConfig` returns, with its properties in the order in which the source
sets them, and `stringify` is `JSON.stringify(value, null, 2)`.
-/

namespace EcSystemCore.Web

/-- A value of a validated configuration. -/
inductive Document where
  | bool (value : Bool)
  | integer (value : ℤ)
  | string (text : JsString)
  | array (items : List Document)
  | object (members : List (JsString × Document))

namespace Document

/-! ### As a value -/

mutual

/-- The JavaScript value. -/
def toJs : Document → JsValue
  | bool value => .bool value
  | integer value => .number (.ofInt value)
  | string text => .string text
  | array items => .array (itemsToJs items)
  | object members => .object (membersToJs members)

/-- The values of the items of an array. -/
def itemsToJs : List Document → List JsValue
  | [] => []
  | item :: items => item.toJs :: itemsToJs items

/-- The properties of an object. -/
def membersToJs : List (JsString × Document) → List (JsString × JsValue)
  | [] => []
  | (key, value) :: members => (key, value.toJs) :: membersToJs members

end

/-- An object with those of the given properties that are set. -/
def record (fields : List (String × Option Document)) : Document :=
  object (fields.filterMap fun (key, value) => value.map fun value => (js key, value))

/-! ### As text -/

/-- The four lower-case hexadecimal digits of a code unit. -/
def hexDigits (unit : UInt16) : List Char :=
  [unit.toNat / 4096 % 16, unit.toNat / 256 % 16, unit.toNat / 16 % 16, unit.toNat % 16].map
    Nat.digitChar

/-- `UnicodeEscape`. -/
def unicodeEscape (unit : UInt16) : List Char := '\\' :: 'u' :: hexDigits unit

/-- What a code unit that is not part of a pair is written as. -/
def quoteUnit (unit : UInt16) : List Char :=
  if unit = 0x08 then ['\\', 'b']
  else if unit = 0x09 then ['\\', 't']
  else if unit = 0x0a then ['\\', 'n']
  else if unit = 0x0c then ['\\', 'f']
  else if unit = 0x0d then ['\\', 'r']
  else if unit = 0x22 then ['\\', '"']
  else if unit = 0x5c then ['\\', '\\']
  else if unit < 0x20 ∨ isLeading unit ∨ isTrailing unit then unicodeEscape unit
  else [.ofNat unit.toNat]

/-- The characters between the quotes. -/
def quoteUnits : JsString → List Char
  | [] => []
  | [unit] => quoteUnit unit
  | unit :: next :: text =>
    if isLeading unit && isTrailing next then pairChar unit next :: quoteUnits text
    else quoteUnit unit ++ quoteUnits (next :: text)

/-- `QuoteJSONString`. -/
def quote (text : JsString) : List Char := '"' :: quoteUnits text ++ ['"']

/-- A new line, indented. -/
def newLine (indent : ℕ) : List Char := '\n' :: List.replicate indent ' '

/-- The comma in front of further members or items. -/
def comma (more : Bool) : List Char := if more then [','] else []

mutual

/-- `JSON.stringify(value, null, 2)`, of a value in a line with the given indentation. -/
def stringify (indent : ℕ) : Document → List Char
  | bool true => "true".toList
  | bool false => "false".toList
  | integer value => (toString value).toList
  | string text => quote text
  | array [] => ['[', ']']
  | array (item :: items) =>
    '[' :: stringifyItems (indent + 2) (item :: items) ++ newLine indent ++ [']']
  | object [] => ['\x7b', '\x7d']
  | object (member :: members) =>
    '\x7b' :: stringifyMembers (indent + 2) (member :: members) ++ newLine indent ++ ['\x7d']

/-- The items of an array, each in a line of its own. -/
def stringifyItems (indent : ℕ) : List Document → List Char
  | [] => []
  | item :: items =>
    newLine indent ++ stringify indent item ++ comma (!items.isEmpty) ++
      stringifyItems indent items

/-- The members of an object, each in a line of its own. -/
def stringifyMembers (indent : ℕ) : List (JsString × Document) → List Char
  | [] => []
  | (key, value) :: members =>
    newLine indent ++ quote key ++ ':' :: ' ' :: stringify indent value ++
      comma (!members.isEmpty) ++ stringifyMembers indent members

end

end Document

/-! ### Configurations -/

namespace AdapterLockIdentity

/-- The properties of a lock. -/
def fields (lock : AdapterLockIdentity) : List (String × Option Document) :=
  [("id_path", some (.string lock.idPath)),
    ("permanent_mac", lock.permanentMac.map .string),
    ("usb_serial", lock.usbSerial.map .string),
    ("usb_vendor_id", lock.usbVendorId.map .string),
    ("usb_product_id", lock.usbProductId.map .string)]

end AdapterLockIdentity

namespace ExpectedSubDevice

/-- The properties of an entry of `expected_subdevices`. -/
def fields (subDevice : ExpectedSubDevice) : List (String × Option Document) :=
  [("vendor_id", some (.integer subDevice.vendorId)),
    ("product_code", some (.integer subDevice.productCode)),
    ("revision", subDevice.revision.map .integer),
    ("output_bytes", subDevice.outputBytes.map .integer),
    ("input_bytes", subDevice.inputBytes.map .integer)]

end ExpectedSubDevice

namespace InterfaceMapping

/-- The properties of a mapping. -/
def fields (mapping : InterfaceMapping) : List (String × Option Document) :=
  [("logical_name", some (.string mapping.logicalName)),
    ("physical_interface", some (.string mapping.physicalInterface)),
    ("enabled", some (.bool mapping.enabled)),
    ("lock", mapping.lock.map fun lock => .record lock.fields),
    ("maximum_io_map_bytes", mapping.maximumIoMapBytes.map .integer),
    ("distributed_clock", mapping.distributedClock.map .bool),
    ("distributed_clock_shift_ns", mapping.distributedClockShiftNs.map .integer),
    ("allow_unverified_topology", mapping.allowUnverifiedTopology.map .bool),
    ("expected_subdevices", mapping.expectedSubDevices.map fun subDevices =>
      .array (subDevices.map fun subDevice => .record subDevice.fields))]

end InterfaceMapping

namespace ConfigurationConfig

/-- The properties of a configuration. -/
def fields (config : ConfigurationConfig) : List (String × Option Document) :=
  [("allow_restricted_interfaces", some (.bool config.allowRestrictedInterfaces)),
    ("cycle_period_us", some (.integer config.cyclePeriodUs)),
    ("log_directory", some (.string config.logDirectory)),
    ("log_count_limit", some (.integer config.logCountLimit)),
    ("free_space_threshold_mb", some (.integer config.freeSpaceThresholdMb)),
    ("controller_group", some (.string config.controllerGroup)),
    ("controller_uids", some (.array (config.controllerUids.map .integer))),
    ("controller_gids", some (.array (config.controllerGids.map .integer))),
    ("heartbeat_timeout_ms", some (.integer config.heartbeatTimeoutMs)),
    ("output_command_timeout_ms", some (.integer config.outputCommandTimeoutMs)),
    ("interface_mappings", some (.array (config.interfaceMappings.map fun mapping =>
      .record mapping.fields))),
    ("realtime_memory_lock", config.realtimeMemoryLock.map .bool),
    ("realtime_fifo", config.realtimeFifo.map .bool),
    ("realtime_priority", config.realtimePriority.map .integer),
    ("realtime_cpu", config.realtimeCpu.map .integer)]

/-- The configuration as a value. -/
def document (config : ConfigurationConfig) : Document := .record config.fields

/-- `validateConfig` of a configuration. -/
def revalidate (config : ConfigurationConfig) : Except JsString ConfigurationConfig :=
  validateConfig config.document.toJs

/-- The text `#persistConfig` writes. -/
def text (config : ConfigurationConfig) : List Char := config.document.stringify 0 ++ ['\n']

end ConfigurationConfig

end EcSystemCore.Web
