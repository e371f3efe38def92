import Mathlib.Data.Finset.Card
import EcSystemCore.Client.JavaCodec
import EcSystemCore.Lib.Keyed
import EcSystemCore.Lib.Reassembly

/-!
# The image assembler of the Java client

`PdoAssembler` of `SystemCoreClient.java`.  A `HashMap` is a list of entries with distinct
keys, and a `BitSet` the set of the places that are set.  An exception ends the use of the
assembler, so that what it leaves behind does not matter.  The time of `System.nanoTime` is
given; the time of reception in a `PdoInput` is left out.
-/

namespace EcSystemCore.Java

open Reassembly

/-- `PdoTarget`. -/
structure PdoTarget where
  bus : ℤ
  subDevice : ℤ
  epoch : Int64
  deriving DecidableEq

/-- `PdoKey`. -/
structure PdoKey where
  bus : ℤ
  subDevice : ℤ
  epoch : Int64
  sequence : Int64
  deriving DecidableEq

def PdoKey.target (key : PdoKey) : PdoTarget := ⟨key.bus, key.subDevice, key.epoch⟩

def PdoChunk.key (chunk : PdoChunk) : PdoKey :=
  ⟨chunk.busIndex, chunk.subDeviceIndex, chunk.epoch, chunk.cycleSequence⟩

def PdoChunk.target (chunk : PdoChunk) : PdoTarget :=
  ⟨chunk.busIndex, chunk.subDeviceIndex, chunk.epoch⟩

/-- `PdoInput`, without the time of reception. -/
structure PdoInput where
  busIndex : ℤ
  subDeviceIndex : ℤ
  cycleSequence : Int64
  epoch : Int64
  data : Bytes
  deriving DecidableEq

/-- `Assembly`. -/
structure Assembly where
  data : Bytes
  present : Finset ℕ
  createdNanos : Int64
  deriving DecidableEq

namespace Assembly

/-- `new Assembly`. -/
def new (size : ℤ) (createdNanos : Int64) : Assembly :=
  ⟨List.replicate size.toNat 0, ∅, createdNanos⟩

/-- One byte of a chunk; `none` if another value has arrived for its place. -/
def put (assembly : Assembly) (destination : ℕ) (byte : UInt8) : Option Assembly :=
  if destination ∈ assembly.present ∧ assembly.data.getD destination 0 ≠ byte then none
  else some { assembly with
    data := assembly.data.set destination byte
    present := insert destination assembly.present }

/-- The loop over the bytes of a chunk. -/
def copy (assembly : Assembly) (destination : ℕ) : Bytes → Option Assembly
  | [] => some assembly
  | byte :: data => (assembly.put destination byte).bind fun assembly =>
    assembly.copy (destination + 1) data

end Assembly

/-- `PdoAssembler`. -/
structure PdoAssembler where
  maximumAssemblies : ℤ
  maximumBytes : ℤ
  assemblies : List (PdoKey × Assembly) := []
  deliveredSequences : List (PdoTarget × Int64) := []
  allocatedBytes : ℤ := 0
  deriving DecidableEq

namespace PdoAssembler

/-- The constructor of `PdoAssembler`. -/
def create (maximumAssemblies maximumBytes : ℤ) : Except String PdoAssembler :=
  if maximumAssemblies ≤ 0 ∨ maximumBytes ≤ 0 then
    .error "PDO assembly limits must be positive"
  else .ok { maximumAssemblies := maximumAssemblies, maximumBytes := maximumBytes }

/-- The loops that remove assemblies. -/
def removeIf (assembler : PdoAssembler) (remove : PdoKey × Assembly → Bool) : PdoAssembler :=
  { assembler with
    assemblies := assembler.assemblies.filter fun entry => !remove entry
    allocatedBytes := assembler.allocatedBytes -
      ((assembler.assemblies.filter remove).map fun entry => (entry.2.data.length : ℤ)).sum }

/-- The assembly of the chunk's image, which is created if there is none. -/
def openAssembly (assembler : PdoAssembler) (chunk : PdoChunk) (nanoTime : Int64) :
    Except String (Assembly × PdoAssembler) :=
  match Keyed.get assembler.assemblies chunk.key with
  | none =>
    if assembler.assemblies.length ≥ assembler.maximumAssemblies ∨
        chunk.totalSize > assembler.maximumBytes - assembler.allocatedBytes then
      .error "PDO assembly limits exceeded"
    else
      let assembly := Assembly.new chunk.totalSize nanoTime
      .ok (assembly, { assembler with
        assemblies := Keyed.insert assembler.assemblies chunk.key assembly
        allocatedBytes := assembler.allocatedBytes + chunk.totalSize })
  | some assembly =>
    if assembly.data.length ≠ chunk.totalSize then
      .error "PDO chunks disagree on total size"
    else .ok (assembly, assembler)

/-- The end of `accept`, for a complete assembly. -/
def deliver (assembler : PdoAssembler) (chunk : PdoChunk) (assembly : Assembly) :
    PdoInput × PdoAssembler :=
  let assembler := { assembler with
    assemblies := Keyed.erase assembler.assemblies chunk.key
    allocatedBytes := assembler.allocatedBytes - assembly.data.length
    deliveredSequences :=
      Keyed.insert assembler.deliveredSequences chunk.target chunk.cycleSequence }
  (⟨chunk.busIndex, chunk.subDeviceIndex, chunk.cycleSequence, chunk.epoch, assembly.data⟩,
    assembler.removeIf fun entry => entry.1.bus = chunk.busIndex ∧
      entry.1.subDevice = chunk.subDeviceIndex ∧ entry.1.epoch = chunk.epoch ∧
      entry.1.sequence.toUInt64 ≤ chunk.cycleSequence.toUInt64)

/-- An image of this or a later cycle has been delivered. -/
def isDelivered (assembler : PdoAssembler) (chunk : PdoChunk) : Bool :=
  (Keyed.get assembler.deliveredSequences chunk.target).any fun delivered =>
    chunk.cycleSequence.toUInt64 ≤ delivered.toUInt64

/-- `accept`. -/
def accept (assembler : PdoAssembler) (chunk : PdoChunk) (nanoTime : Int64) :
    Except String (Option PdoInput × PdoAssembler) :=
  if assembler.isDelivered chunk then .ok (none, assembler)
  else
    match assembler.openAssembly chunk nanoTime with
    | .error message => .error message
    | .ok (assembly, assembler) =>
      match assembly.copy chunk.offset.toNat chunk.data with
      | none => .error "overlapping PDO chunks contain different bytes"
      | some assembly =>
        -- the map has a reference to the assembly
        let assembler := { assembler with
          assemblies := Keyed.insert assembler.assemblies chunk.key assembly }
        if assembly.present.card ≠ assembly.data.length then .ok (none, assembler)
        else
          let (input, assembler) := assembler.deliver chunk assembly
          .ok (some input, assembler)

/-- `expireOlderThan`. -/
def expireOlderThan (assembler : PdoAssembler) (nanoTime maximumAge : Int64) : PdoAssembler :=
  assembler.removeIf fun entry => entry.2.createdNanos - (nanoTime - maximumAge) < 0

end PdoAssembler

end EcSystemCore.Java
