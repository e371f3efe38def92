import EcSystemCore.Bus.Topology
import EcSystemCore.Safety.PackedFields

/-!
# Output images in the IO map

What the worker does to the output bits: `ZeroOutputs`, the store of one command
in `ApplyOutputCommands`, and the clearing of stale SubDevices in
`EnforcePerSubDeviceFreshness`.  Each is characterized by the bits it changes:
the cleared or written SubDevice's own field, and no bit of a disjoint one.
-/

namespace EcSystemCore

open BitField

/-- `OutputCommand`.  `data` holds the first `length` bytes of the source's array,
so its length is the source's `length`. -/
structure OutputCommand where
  epoch : UInt64 := 0
  subDeviceIndex : UInt16 := 0
  offset : UInt32 := 0
  acceptedMonotonicUs : UInt64 := 0
  data : Bytes := []
  deriving DecidableEq, Repr, Inhabited

/-- Clear one SubDevice's outputs: the body of the loop of `ZeroOutputs`. -/
def zeroSubDevice (ioMap : Memory) (device : SubDevice) : Memory :=
  if device.obits ≠ 0 && device.outputs.isSome &&
      pointerRangeInIoMap device.outputs device.mappedBytes then
    match zeroPackedPdoImage (load ioMap device.outputAddress device.mappedBytes)
        device.ostartbit device.obits with
    | some bytes => store ioMap device.outputAddress bytes
    | none => ioMap
  else ioMap

/-- `ZeroOutputs`, for an open context. -/
def zeroOutputs (ioMap : Memory) (devices : List SubDevice) : Memory :=
  devices.foldl zeroSubDevice ioMap

/-- The store of one accepted command in `ApplyOutputCommands`: the new IO map, or
`none` where the source skips the command. -/
def writeCommand (ioMap : Memory) (device : SubDevice) (command : OutputCommand) :
    Option Memory :=
  if device.outputs.isNone ||
      !pointerRangeInIoMap device.outputs device.mappedBytes ||
      validateWholeOutputWrite (pdoImageByteLength device.obits) command.offset.toNat
        command.data.length ≠ .ok then none
  else
    (writePackedPdoImage (load ioMap device.outputAddress device.mappedBytes)
      device.ostartbit device.obits command.data).map (store ioMap device.outputAddress)

/-- The acceptance time `last` is too old at `now`, or unusable. -/
def isStale (timeoutUs now last : UInt64) : Bool :=
  last = 0 || now < last || now - last > timeoutUs

/-- The loop of `EnforcePerSubDeviceFreshness`: clear the SubDevices whose last
command is stale.  `last` is `lastOutputCommandUs_`, indexed from one. -/
def enforceFreshness (timeoutUs now : UInt64) (last : ℕ → UInt64) (ioMap : Memory)
    (devices : List SubDevice) : Memory :=
  (devices.zipIdx 1).foldl
    (fun map entry => if isStale timeoutUs now (last entry.2) then zeroSubDevice map entry.1
      else map) ioMap

/-- The SubDevice's output field. -/
def SubDevice.outputField (device : SubDevice) : PdoField :=
  ⟨device.outputAddress, device.ostartbit, device.obits⟩

/-- All output bits of the SubDevice are zero. -/
def OutputsZero (ioMap : Memory) (device : SubDevice) : Prop :=
  ∀ k, device.OwnsBit k → memoryBit ioMap k = false

/-- The SubDevice's output bits are exactly the image. -/
def HasImage (ioMap : Memory) (device : SubDevice) (image : Bytes) : Prop :=
  device.hasOutputField = true ∧
    ∀ j, j < device.obits → memoryBit ioMap (device.firstOutputBit + j) = bytesBit image j

/-- All output bits of all SubDevices are zero, as a test. -/
def allOutputsZero (ioMap : Memory) (devices : List SubDevice) : Bool :=
  devices.all fun device => !device.hasOutputField ||
    (List.range device.obits).all fun j => !memoryBit ioMap (device.firstOutputBit + j)

theorem allOutputsZero_eq_true {ioMap : Memory} {devices : List SubDevice} :
    allOutputsZero ioMap devices = true ↔ ∀ device ∈ devices, OutputsZero ioMap device := by
  simp only [allOutputsZero, List.all_eq_true, Bool.or_eq_true, Bool.not_eq_true',
    List.mem_range]
  refine forall₂_congr fun device _ => ⟨?_, ?_⟩
  · rintro hzero k ⟨hfield, hle, hlt⟩
    rcases hzero with hnone | hbits
    · simp [hfield] at hnone
    · have := hbits (k - device.firstOutputBit) (by omega)
      rwa [Nat.add_sub_cancel' hle] at this
  · intro hzero
    by_cases hfield : device.hasOutputField = true
    · exact .inr fun j hj => hzero _ ⟨hfield, Nat.le_add_right _ _, by omega⟩
    · exact .inl (by simpa using hfield)

section Bits

variable {ioMap : Memory} {device : SubDevice}

theorem fits_of_hasOutputField (h : device.hasOutputField = true) :
    device.ostartbit ≤ 7 ∧ device.obits ≠ 0 ∧ device.outputs.isSome = true ∧
      pointerRangeInIoMap device.outputs device.mappedBytes = true ∧
      device.ostartbit + device.obits ≤ 8 * device.mappedBytes := by
  simp only [SubDevice.hasOutputField, Bool.and_eq_true, decide_eq_true_eq] at h
  obtain ⟨⟨⟨hbits, hstart⟩, hsome⟩, hrange⟩ := h
  exact ⟨hstart, hbits, hsome, hrange, startBit_add_bitCount_le hstart hbits⟩

theorem ownsBit_iff {k : ℕ} :
    device.OwnsBit k ↔ device.hasOutputField = true ∧ device.outputField.OwnsBit k :=
  Iff.rfl

theorem zeroSubDevice_eq_exec (h : device.hasOutputField = true) :
    zeroSubDevice ioMap device =
      (device.outputField.exec device.mappedBytes .zero ioMap).2 := by
  obtain ⟨-, hbits, hsome, hrange, -⟩ := fits_of_hasOutputField h
  rw [zeroSubDevice, if_pos (by simp [hbits, hsome, hrange]), PdoField.exec]
  change _ = (match zeroPackedPdoImage (load ioMap device.outputAddress device.mappedBytes)
    device.ostartbit device.obits with
    | some bytes => (true, store ioMap device.outputAddress bytes)
    | none => (false, ioMap)).2
  split <;> rfl

/-- **Clearing a SubDevice.**  Its own bits become zero, all others stay. -/
theorem memoryBit_zeroSubDevice (k : ℕ) :
    (device.OwnsBit k → memoryBit (zeroSubDevice ioMap device) k = false) ∧
      (¬device.OwnsBit k → memoryBit (zeroSubDevice ioMap device) k = memoryBit ioMap k) := by
  by_cases hfield : device.hasOutputField = true
  · have haccepts : PdoStore.accepts device.outputField.startBit device.outputField.bitCount
        device.mappedBytes .zero = true := by
      have hstart := (fits_of_hasOutputField hfield).1
      simp [PdoStore.accepts, SubDevice.outputField, SubDevice.mappedBytes, hstart]
    rw [zeroSubDevice_eq_exec hfield, PdoField.memoryBit_exec haccepts, ownsBit_iff]
    exact ⟨fun hown => if_pos hown.2, fun hown => if_neg fun hin => hown ⟨hfield, hin⟩⟩
  · refine ⟨fun hown => absurd hown.1 hfield, fun _ => ?_⟩
    unfold zeroSubDevice
    split
    · rename_i hchecks
      -- The field is missing although the pointer is fine: the start bit is invalid.
      have hstart : ¬device.ostartbit ≤ 7 := fun hle => hfield (by
        simp_all [SubDevice.hasOutputField])
      simp [zeroPackedPdoImage, Nat.not_le.mp hstart]
    · rfl

/-- Clearing a SubDevice leaves every zero output zero. -/
theorem OutputsZero.zeroSubDevice {other : SubDevice} (h : OutputsZero ioMap other)
    (device : SubDevice) : OutputsZero (zeroSubDevice ioMap device) other := by
  intro k hk
  by_cases hown : device.OwnsBit k
  · exact (memoryBit_zeroSubDevice k).1 hown
  · exact ((memoryBit_zeroSubDevice k).2 hown).trans (h k hk)

theorem outputsZero_zeroSubDevice : OutputsZero (zeroSubDevice ioMap device) device :=
  fun k hk => (memoryBit_zeroSubDevice k).1 hk

/-- Clearing a SubDevice keeps the image of a disjoint one. -/
theorem HasImage.zeroSubDevice {other : SubDevice} {image : Bytes}
    (h : HasImage ioMap other image) (disjoint : device.Disjoint other) :
    HasImage (zeroSubDevice ioMap device) other image := by
  refine ⟨h.1, fun j hj => ?_⟩
  have hown : other.OwnsBit (other.firstOutputBit + j) :=
    ⟨h.1, Nat.le_add_right _ _, by omega⟩
  rw [(memoryBit_zeroSubDevice _).2 fun hd => disjoint _ ⟨hd, hown⟩]
  exact h.2 j hj

theorem OutputsZero.zeroOutputs {devices : List SubDevice} (h : OutputsZero ioMap device) :
    OutputsZero (zeroOutputs ioMap devices) device := by
  induction devices generalizing ioMap with
  | nil => exact h
  | cons first rest ih => exact ih (h.zeroSubDevice first)

/-- **`ZeroOutputs` zeroes every SubDevice.** -/
theorem outputsZero_zeroOutputs {devices : List SubDevice} (h : device ∈ devices) :
    OutputsZero (zeroOutputs ioMap devices) device := by
  induction devices generalizing ioMap with
  | nil => cases h
  | cons first rest ih =>
    rcases List.mem_cons.mp h with rfl | hrest
    · exact outputsZero_zeroSubDevice.zeroOutputs
    · exact ih hrest

/-- What a store of a command checked, and what it did. -/
theorem writeCommand_eq_some {ioMap' : Memory} {command : OutputCommand}
    (h : writeCommand ioMap device command = some ioMap') :
    device.hasOutputField = true ∧
      PdoStore.accepts device.ostartbit device.obits device.mappedBytes (.write command.data) =
        true ∧
      ioMap' = (device.outputField.exec device.mappedBytes (.write command.data) ioMap).2 := by
  unfold writeCommand at h
  split at h
  · cases h
  · rename_i hchecks
    obtain ⟨bytes, hwrite, rfl⟩ := Option.map_eq_some_iff.mp h
    obtain ⟨hstart, hlength, -, hpadding⟩ := writePackedPdoImage_eq_some hwrite
    rw [length_load] at hlength
    simp only [Bool.or_eq_true, Bool.not_eq_true', decide_eq_true_eq, not_or,
      ne_eq, not_not, Bool.not_eq_false, Option.isNone_iff_eq_none] at hchecks
    obtain ⟨⟨hsome, hrange⟩, hbounds⟩ := hchecks
    have hbits : device.obits ≠ 0 := by
      rintro hzero
      simp [validateWholeOutputWrite, pdoImageByteLength, hzero] at hbounds
    refine ⟨?_, by simp [PdoStore.accepts, hstart, hlength, hpadding], ?_⟩
    · simp [SubDevice.hasOutputField, hbits, hstart, hrange, Option.isSome_iff_ne_none, hsome]
    · have happly : PdoStore.apply
          (load ioMap device.outputField.address device.mappedBytes)
          device.outputField.startBit device.outputField.bitCount (.write command.data) =
          some bytes := hwrite
      rw [PdoField.exec, happly]
      rfl

/-- **Writing a command.**  The SubDevice's output bits become the command's image
and no other bit changes. -/
theorem memoryBit_writeCommand {ioMap' : Memory} {command : OutputCommand}
    (h : writeCommand ioMap device command = some ioMap') :
    HasImage ioMap' device command.data ∧
      ∀ k, ¬device.OwnsBit k → memoryBit ioMap' k = memoryBit ioMap k := by
  obtain ⟨hfield, haccepts, rfl⟩ := writeCommand_eq_some h
  refine ⟨⟨hfield, fun j hj => ?_⟩, fun k hown => ?_⟩
  · have hin : device.outputField.OwnsBit (device.firstOutputBit + j) :=
      ⟨Nat.le_add_right _ _, Nat.add_lt_add_left hj _⟩
    rw [PdoField.memoryBit_exec haccepts, if_pos hin]
    exact congrArg (bytesBit command.data) (Nat.add_sub_cancel_left _ _)
  · exact (PdoField.memoryBit_exec haccepts k).trans (if_neg fun hin => hown ⟨hfield, hin⟩)

/-- Writing a command keeps a disjoint SubDevice's zero outputs. -/
theorem OutputsZero.writeCommand {ioMap' : Memory} {command : OutputCommand}
    {other : SubDevice} (h : OutputsZero ioMap other) (disjoint : device.Disjoint other)
    (hwrite : writeCommand ioMap device command = some ioMap') : OutputsZero ioMap' other := by
  intro k hk
  rw [(memoryBit_writeCommand hwrite).2 k fun hd => disjoint _ ⟨hd, hk⟩]
  exact h k hk

/-- Writing a command keeps a disjoint SubDevice's image. -/
theorem HasImage.writeCommand {ioMap' : Memory} {command : OutputCommand} {image : Bytes}
    {other : SubDevice} (h : HasImage ioMap other image) (disjoint : device.Disjoint other)
    (hwrite : writeCommand ioMap device command = some ioMap') :
    HasImage ioMap' other image := by
  refine ⟨h.1, fun j hj => ?_⟩
  have hown : other.OwnsBit (other.firstOutputBit + j) :=
    ⟨h.1, Nat.le_add_right _ _, by omega⟩
  rw [(memoryBit_writeCommand hwrite).2 _ fun hd => disjoint _ ⟨hd, hown⟩]
  exact h.2 j hj

/-! ### Freshness -/

theorem SubDevice.Disjoint.symm {a b : SubDevice} (h : a.Disjoint b) : b.Disjoint a :=
  fun k hk => h k hk.symm

/-- Distinct SubDevices of a topology are disjoint. -/
theorem Topology.disjoint_of_ne (topology : Topology) {i j : ℕ} {a b : SubDevice}
    (ha : topology.devices[i]? = some a) (hb : topology.devices[j]? = some b) (hij : i ≠ j) :
    a.Disjoint b := by
  obtain ⟨hi, rfl⟩ := List.getElem?_eq_some_iff.mp ha
  obtain ⟨hj, rfl⟩ := List.getElem?_eq_some_iff.mp hb
  have hpairwise := List.pairwise_iff_getElem.mp topology.disjoint
  rcases Nat.lt_or_gt_of_ne hij with hlt | hgt
  · exact hpairwise i j hi hj hlt
  · exact (hpairwise j i hj hi hgt).symm

section Freshness

variable {timeoutUs now : UInt64} {last : ℕ → UInt64}

/-- The loop keeps whatever clearing any SubDevice of the list would keep. -/
theorem foldl_freshness_induction (P : Memory → Prop) {entries : List (SubDevice × ℕ)}
    (preserved : ∀ map entry, entry ∈ entries →
      isStale timeoutUs now (last entry.2) = true → P map → P (zeroSubDevice map entry.1))
    (init : P ioMap) :
    P (entries.foldl (fun map entry => if isStale timeoutUs now (last entry.2) then
      zeroSubDevice map entry.1 else map) ioMap) := by
  induction entries generalizing ioMap with
  | nil => exact init
  | cons entry rest ih =>
    refine ih (fun map e he => preserved map e (List.mem_cons_of_mem _ he)) ?_
    cases hstale : isStale timeoutUs now (last entry.2) with
    | true => simpa [hstale] using preserved _ _ List.mem_cons_self hstale init
    | false => simpa [hstale] using init

theorem OutputsZero.enforceFreshness {devices : List SubDevice} (h : OutputsZero ioMap device) :
    OutputsZero (enforceFreshness timeoutUs now last ioMap devices) device :=
  foldl_freshness_induction (OutputsZero · device)
    (fun _ entry _ _ hmap => hmap.zeroSubDevice entry.1) h

/-- A SubDevice whose last command is stale is zero afterwards. -/
theorem outputsZero_enforceFreshness {devices : List SubDevice} {j : ℕ}
    (hdevice : devices[j]? = some device) (stale : isStale timeoutUs now (last (j + 1)) = true) :
    OutputsZero (enforceFreshness timeoutUs now last ioMap devices) device := by
  have hmem : (device, j + 1) ∈ devices.zipIdx 1 := by
    rw [List.mk_mem_zipIdx_iff_le_and_getElem?_sub]
    exact ⟨by omega, by simpa using hdevice⟩
  obtain ⟨before, after, hsplit⟩ := List.append_of_mem hmem
  unfold enforceFreshness
  rw [hsplit, List.foldl_append, List.foldl_cons, if_pos stale]
  exact foldl_freshness_induction (OutputsZero · device)
    (fun _ entry _ _ hmap => hmap.zeroSubDevice entry.1) outputsZero_zeroSubDevice

/-- A SubDevice whose last command is fresh keeps its image. -/
theorem HasImage.enforceFreshness {topology : Topology} {j : ℕ} {image : Bytes}
    (h : HasImage ioMap device image) (hdevice : topology.devices[j]? = some device)
    (fresh : isStale timeoutUs now (last (j + 1)) = false) :
    HasImage (enforceFreshness timeoutUs now last ioMap topology.devices) device image := by
  refine foldl_freshness_induction (HasImage · device image)
    (fun map entry hentry hstale hmap => ?_) h
  obtain ⟨hle, hget⟩ := List.mem_zipIdx_iff_le_and_getElem?_sub.mp hentry
  refine hmap.zeroSubDevice (topology.disjoint_of_ne hget hdevice fun heq => ?_)
  have hindex : entry.2 = j + 1 := by omega
  rw [hindex, fresh] at hstale
  exact absurd hstale (by simp)

end Freshness

end Bits

end EcSystemCore
