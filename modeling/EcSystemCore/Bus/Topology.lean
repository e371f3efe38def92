import EcSystemCore.Config.Types
import EcSystemCore.Safety.Pdo

/-!
# Discovered topologies

What SOEM reports about the SubDevices of a bus, and the checks
`EthercatBus::Initialize` and `EthercatBus::ValidateTopology` make before the
worker enters its cyclic loop.  A pointer into process data is its distance from
`ioMap_.data()`, `none` for a null pointer.

The SubDevices' output fields are assumed to be pairwise disjoint, as SOEM's
mapper lays them out; `Topology` carries that assumption as a field.
-/

namespace EcSystemCore

/-- `EC_MAXSLAVE`, as SOEM is configured. -/
def ecMaxSlave : ℕ := 200

/-- `AbsoluteIoMapAllocationSize`, the size of `ioMap_`. -/
def absoluteIoMapAllocationSize : ℕ :=
  (ecMaxSlave + 1) * 2 * ((65535 + 7) / 8) + 64 * 1024

/-- The members of `ec_slavet` the daemon reads. -/
structure SubDevice where
  obits : ℕ := 0
  obytes : ℕ := 0
  ostartbit : ℕ := 0
  outputs : Option ℤ := none
  ibits : ℕ := 0
  ibytes : ℕ := 0
  istartbit : ℕ := 0
  inputs : Option ℤ := none
  eepMan : UInt32 := 0
  eepId : UInt32 := 0
  eepRev : UInt32 := 0
  deriving DecidableEq, Repr

/-- `PointerRangeInIoMap`. -/
def pointerRangeInIoMap (pointer : Option ℤ) (length : ℕ) : Bool :=
  match pointer with
  | none => length = 0
  | some p => 0 ≤ p && p ≤ absoluteIoMapAllocationSize &&
      (length = 0 || (length : ℤ) ≤ absoluteIoMapAllocationSize - p)

namespace SubDevice

/-- The number of IO-map bytes the output field touches. -/
def mappedBytes (device : SubDevice) : ℕ :=
  pdoMappedByteLength device.obits device.ostartbit

/-- The output field exists and lies inside the IO map. -/
def hasOutputField (device : SubDevice) : Bool :=
  device.obits ≠ 0 && device.ostartbit ≤ 7 && device.outputs.isSome &&
    pointerRangeInIoMap device.outputs device.mappedBytes

/-- The address of the first byte of the output field. -/
def outputAddress (device : SubDevice) : ℕ := (device.outputs.getD 0).toNat

/-- The position of the first output bit in the IO map. -/
def firstOutputBit (device : SubDevice) : ℕ := 8 * device.outputAddress + device.ostartbit

/-- Bit `k` of the IO map is one of the SubDevice's output bits. -/
def OwnsBit (device : SubDevice) (k : ℕ) : Prop :=
  device.hasOutputField = true ∧ device.firstOutputBit ≤ k ∧
    k < device.firstOutputBit + device.obits

/-- The two SubDevices share no output bit. -/
def Disjoint (a b : SubDevice) : Prop := ∀ k, ¬(a.OwnsBit k ∧ b.OwnsBit k)

end SubDevice

/-! ### `ValidateTopology` -/

/-- `std::to_string` of an unsigned number. -/
def toDecimal (n : ℕ) : Bytes := ascii (toString n)

/-- `"SubDevice " + std::to_string(index) + text`. -/
def subDeviceError (index : ℕ) (text : String) : Bytes :=
  ascii "SubDevice " ++ toDecimal index ++ ascii text

/-- The checks of one SubDevice that do not depend on the configuration. -/
def validateGeometry (index : ℕ) (actual : SubDevice) : Except Bytes Unit :=
  if !isValidSoemPdoMetadata actual.obits actual.obytes actual.ostartbit ||
      !isValidSoemPdoMetadata actual.ibits actual.ibytes actual.istartbit then
    .error (subDeviceError index " exposes inconsistent SOEM PDO metadata")
  else if pdoImageByteLength actual.obits > kMaximumOutputWrite then
    .error (subDeviceError index " output image exceeds the atomic 1024-byte write bound")
  else if !pointerRangeInIoMap actual.outputs
        (pdoMappedByteLength actual.obits actual.ostartbit) ||
      !pointerRangeInIoMap actual.inputs
        (pdoMappedByteLength actual.ibits actual.istartbit) then
    .error (subDeviceError index " exposes PDO pointers outside the bounded IO map")
  else .ok ()

/-- The comparison of one SubDevice with its entry of `expected_subdevices`. -/
def validateExpected (index : ℕ) (actual : SubDevice) (expected : ExpectedSubDevice) :
    Except Bytes Unit :=
  let outputBytes := pdoImageByteLength actual.obits
  let inputBytes := pdoImageByteLength actual.ibits
  if (outputBytes ≠ 0 && expected.outputBytes.isNone) ||
      (inputBytes ≠ 0 && expected.inputBytes.isNone) then
    .error (subDeviceError index
      " requires explicit output_bytes/input_bytes for every mapped PDO direction")
  else if actual.eepMan ≠ expected.vendorId || actual.eepId ≠ expected.productCode ||
      expected.revision.any (actual.eepRev ≠ ·) ||
      expected.outputBytes.any (outputBytes ≠ ·.toNat) ||
      expected.inputBytes.any (inputBytes ≠ ·.toNat) then
    .error (subDeviceError index
      " does not match expected vendor/product/revision/PDO sizes")
  else .ok ()

/-- The loop of `ValidateTopology` over `slavelist[index ..]`.  A configuration
without expected SubDevices compares nothing. -/
def validateSubDevices (expected : List ExpectedSubDevice) :
    ℕ → List SubDevice → Except Bytes Unit
  | _, [] => .ok ()
  | index, actual :: rest => do
      validateGeometry index actual
      if expected.isEmpty then pure ()
      else validateExpected index actual (expected.getD (index - 1) {})
      validateSubDevices expected (index + 1) rest

/-- The number of publication chunks the input images take. -/
def totalInputChunks (devices : List SubDevice) : ℕ :=
  (devices.map fun device =>
    (pdoImageByteLength device.ibits + kMaximumPdoChunk - 1) / kMaximumPdoChunk).sum

/-- `ValidateTopology`: the error text, or whether the output topology is
verified. -/
def validateTopology (config : InterfaceConfig) (devices : List SubDevice) :
    Except Bytes Bool := do
  let expected := config.expectedSubDevices
  if !expected.isEmpty && expected.length ≠ devices.length then
    throw (ascii "expected " ++ toDecimal expected.length ++
      ascii " SubDevices but found " ++ toDecimal devices.length)
  validateSubDevices expected 1 devices
  let outputCapable := devices.any fun device => pdoImageByteLength device.obits ≠ 0
  if outputCapable && expected.isEmpty && !config.allowUnverifiedTopology then
    throw (ascii ("output-capable bus requires expected_subdevices; " ++
      "allow_unverified_topology is input-only and keeps outputs disabled"))
  if totalInputChunks devices > 128 then
    throw (ascii "input PDO image exceeds the coherent 128-chunk publication bound")
  pure (outputCapable && !expected.isEmpty)

/-! ### `Initialize` -/

/-- `slavelist[1 ..]`, the SubDevices of a context. -/
structure Topology where
  devices : List SubDevice := []
  disjoint : devices.Pairwise SubDevice.Disjoint := by exact .nil

/-- What SOEM answers while a bus is being initialized. -/
structure SoemReport where
  /-- `ecx_init` opened the interface. -/
  opened : Bool := false
  /-- The result of `ecx_config_init`. -/
  discovered : Int := 0
  topology : Topology := {}
  /-- The result of `ecx_config_map_group`. -/
  mapped : Int := 0
  outputsWKC : ℕ := 0
  inputsWKC : ℕ := 0
  /-- The output and input ranges of group 0. -/
  groupOutputs : Option ℤ := none
  groupObytes : ℕ := 0
  groupInputs : Option ℤ := none
  groupIbytes : ℕ := 0
  /-- `ecx_configdc` succeeded and the group has a distributed clock. -/
  clockAvailable : Bool := false

/-- The working counter of a complete frame. -/
def SoemReport.expectedWorkingCounter (report : SoemReport) : Int :=
  report.outputsWKC * 2 + report.inputsWKC

/-- The checks of `Initialize` up to and including `ValidateTopology`: `none` where
it gives up, otherwise the verdict on the output topology. -/
def acceptTopology (config : InterfaceConfig) (report : SoemReport) : Option Bool :=
  let devices := report.topology.devices
  if !report.opened then none
  else if report.discovered ≤ 0 || devices.length = 0 || ecMaxSlave ≤ devices.length then none
  else if report.mapped < 0 || report.mapped > config.maximumIoMapBytes ||
      report.mapped > absoluteIoMapAllocationSize then none
  else (validateTopology config devices).toOption

/-- A topology is accepted only of an open interface. -/
theorem opened_of_acceptTopology {interface : InterfaceConfig} {report : SoemReport}
    {verified : Bool} (h : acceptTopology interface report = some verified) :
    report.opened = true := by
  by_contra hclosed
  simp [acceptTopology, hclosed] at h

/-- The checks of `Initialize` between `ValidateTopology` and the state
`SafeOperational`. -/
def acceptGroup (config : InterfaceConfig) (cyclePeriod : Int) (report : SoemReport) : Bool :=
  report.expectedWorkingCounter > 0 &&
    pointerRangeInIoMap report.groupOutputs report.groupObytes &&
    pointerRangeInIoMap report.groupInputs report.groupIbytes &&
    (!config.distributedClock || (report.clockAvailable &&
      0 < cyclePeriod * 1000 && cyclePeriod * 1000 ≤ 0xffffffff))

end EcSystemCore
