import Mathlib.Data.List.GetD
import EcSystemCore.Protocol.ClientPayloads

/-!
# The image assembler of the C++ client

`AssembleInput` of `client.cpp`: the chunks of PdoInput messages are collected per bus,
SubDevice, epoch and cycle sequence until every byte of an image has arrived; the image is
then queued for `PopInputImage`.  Both the open assemblies and the queue of images are
bounded in number and in bytes, and the oldest entries go first.
-/

namespace EcSystemCore

/-- `kMaximumPdoAssemblies`. -/
def kMaximumPdoAssemblies : ℕ := 16

/-- `kMaximumPdoImages`. -/
def kMaximumPdoImages : ℕ := 32

/-- `kMaximumPdoAssemblyStorage`. -/
def kMaximumPdoAssemblyStorage : ℕ := 4 * 1024 * 1024

/-- `kMaximumPdoImageQueueStorage`. -/
def kMaximumPdoImageQueueStorage : ℕ := 4 * 1024 * 1024

/-- `PdoAssembly`; `received` marks the bytes that have arrived. -/
structure PdoAssembly where
  busIndex : UInt16 := 0
  subDeviceIndex : UInt16 := 0
  epoch : UInt64 := 0
  cycleSequence : UInt64 := 0
  data : Bytes := []
  received : Bytes := []
  receivedBytes : ℕ := 0
  deriving DecidableEq, Repr

/-- `PdoImage`. -/
structure PdoImage where
  busIndex : UInt16 := 0
  subDeviceIndex : UInt16 := 0
  epoch : UInt64 := 0
  cycleSequence : UInt64 := 0
  data : Bytes := []
  deriving DecidableEq, Repr

namespace PdoAssembly

/-- The bytes an assembly counts for. -/
def storage (assembly : PdoAssembly) : ℕ := assembly.data.length + assembly.received.length

/-- An assembly of the same SubDevice for another image than the chunk's. -/
def isStale (input : PdoInputPayload) (assembly : PdoAssembly) : Bool :=
  assembly.busIndex = input.busIndex ∧ assembly.subDeviceIndex = input.subDeviceIndex ∧
    (assembly.epoch ≠ input.epoch ∨ assembly.cycleSequence ≠ input.cycleSequence ∨
      assembly.data.length ≠ input.totalSize.toNat)

/-- The assembly of the chunk's image. -/
def isFor (input : PdoInputPayload) (assembly : PdoAssembly) : Bool :=
  assembly.busIndex = input.busIndex ∧ assembly.subDeviceIndex = input.subDeviceIndex ∧
    assembly.epoch = input.epoch ∧ assembly.cycleSequence = input.cycleSequence ∧
    assembly.data.length = input.totalSize.toNat

/-- The assembly a chunk opens. -/
def created (input : PdoInputPayload) : PdoAssembly where
  busIndex := input.busIndex
  subDeviceIndex := input.subDeviceIndex
  epoch := input.epoch
  cycleSequence := input.cycleSequence
  data := List.replicate input.totalSize.toNat 0
  received := List.replicate input.totalSize.toNat 0

/-- One byte of a chunk; `none` if another value has arrived for its place. -/
def put (assembly : PdoAssembly) (destination : ℕ) (byte : UInt8) : Option PdoAssembly :=
  if assembly.received.getD destination 0 ≠ 0 ∧ assembly.data.getD destination 0 ≠ byte then none
  else if assembly.received.getD destination 0 = 0 then
    some { assembly with
      data := assembly.data.set destination byte
      received := assembly.received.set destination 1
      receivedBytes := assembly.receivedBytes + 1 }
  else some { assembly with data := assembly.data.set destination byte }

/-- The loop over the bytes of a chunk. -/
def copy (assembly : PdoAssembly) (destination : ℕ) : Bytes → Option PdoAssembly
  | [] => some assembly
  | byte :: data => (assembly.put destination byte).bind fun assembly =>
    assembly.copy (destination + 1) data

/-- The image of a complete assembly. -/
def image (assembly : PdoAssembly) : PdoImage :=
  ⟨assembly.busIndex, assembly.subDeviceIndex, assembly.epoch, assembly.cycleSequence,
    assembly.data⟩

end PdoAssembly

/-- The members of the C++ client that `AssembleInput` works on. -/
structure InputAssembler where
  assemblies : List PdoAssembly := []
  assemblyStorage : ℕ := 0
  inputImages : List PdoImage := []
  inputImageStorage : ℕ := 0
  deriving DecidableEq, Repr

namespace InputAssembler

/-- Removing the assemblies that the chunk's image replaces; the storage is counted anew. -/
def removeStale (assembler : InputAssembler) (input : PdoInputPayload) : InputAssembler :=
  let retained := assembler.assemblies.filter fun assembly => !assembly.isStale input
  { assembler with
    assemblies := retained
    assemblyStorage := (retained.map PdoAssembly.storage).sum }

/-- The oldest assemblies give way until there is room for one of `required` bytes. -/
def evictAssemblies (required : ℕ) : List PdoAssembly → ℕ → List PdoAssembly × ℕ
  | [], storage => ([], storage)
  | front :: assemblies, storage =>
    if assemblies.length + 1 ≥ kMaximumPdoAssemblies ∨
        required > kMaximumPdoAssemblyStorage - min storage kMaximumPdoAssemblyStorage then
      evictAssemblies required assemblies (storage - front.storage)
    else (front :: assemblies, storage)

/-- The assembler with an assembly for the chunk, and the assembly's place; `none` for the
place if the image is too large. -/
def openAssembly (assembler : InputAssembler) (input : PdoInputPayload) :
    InputAssembler × Option ℕ :=
  match assembler.assemblies.findIdx? (PdoAssembly.isFor input) with
  | some index => (assembler, some index)
  | none =>
    let required := input.totalSize.toNat * 2
    let (assemblies, storage) :=
      evictAssemblies required assembler.assemblies assembler.assemblyStorage
    if required > kMaximumPdoAssemblyStorage - min storage kMaximumPdoAssemblyStorage then
      ({ assembler with assemblies := assemblies, assemblyStorage := storage }, none)
    else
      ({ assembler with
        assemblies := assemblies ++ [.created input]
        assemblyStorage := storage + required }, some assemblies.length)

/-- Dropping the assembly at a place. -/
def eraseAssembly (assembler : InputAssembler) (index : ℕ) (assembly : PdoAssembly) :
    InputAssembler :=
  { assembler with
    assemblies := assembler.assemblies.eraseIdx index
    assemblyStorage := assembler.assemblyStorage - assembly.storage }

/-- The oldest images give way until there is room for one of `completedBytes` bytes. -/
def evictImages (completedBytes : ℕ) : List PdoImage → ℕ → List PdoImage × ℕ
  | [], storage => ([], storage)
  | front :: images, storage =>
    if images.length + 1 ≥ kMaximumPdoImages ∨
        completedBytes >
          kMaximumPdoImageQueueStorage - min storage kMaximumPdoImageQueueStorage then
      evictImages completedBytes images (storage - front.data.length)
    else (front :: images, storage)

/-- Queueing the image of a complete assembly. -/
def queueImage (assembler : InputAssembler) (assembly : PdoAssembly) : InputAssembler :=
  let completedBytes := assembly.data.length
  let (images, storage) :=
    evictImages completedBytes assembler.inputImages assembler.inputImageStorage
  if completedBytes > kMaximumPdoImageQueueStorage - min storage kMaximumPdoImageQueueStorage then
    { assembler with inputImages := images, inputImageStorage := storage }
  else
    { assembler with
      inputImages := images ++ [assembly.image]
      inputImageStorage := storage + completedBytes }

/-- `AssembleInput`. -/
def assembleInput (assembler : InputAssembler) (input : PdoInputPayload) : InputAssembler :=
  match (assembler.removeStale input).openAssembly input with
  | (assembler, none) => assembler
  | (assembler, some index) =>
    let assembly := assembler.assemblies.getD index {}
    match assembly.copy input.offset.toNat input.data with
    -- a place would have two values
    | none => assembler.eraseAssembly index assembly
    | some assembly =>
      let assembler := { assembler with assemblies := assembler.assemblies.set index assembly }
      if assembly.receivedBytes ≠ assembly.data.length then assembler
      else (assembler.queueImage assembly).eraseAssembly index assembly

/-! ### The epochs an assembler holds -/

/-- Every assembly and every image has an epoch with the property. -/
structure Epochs (P : UInt64 → Prop) (assembler : InputAssembler) : Prop where
  assemblies : ∀ assembly ∈ assembler.assemblies, P assembly.epoch
  images : ∀ image ∈ assembler.inputImages, P image.epoch

theorem copy_epoch {assembly copied : PdoAssembly} {destination : ℕ} {data : Bytes}
    (h : assembly.copy destination data = some copied) : copied.epoch = assembly.epoch := by
  induction data generalizing assembly destination with
  | nil =>
    cases h
    rfl
  | cons byte data ih =>
    obtain ⟨next, hput, hcopy⟩ := Option.bind_eq_some_iff.mp h
    rw [ih hcopy]
    unfold PdoAssembly.put at hput
    split_ifs at hput <;> cases hput <;> rfl

theorem evictAssemblies_sublist (required : ℕ) (assemblies : List PdoAssembly) (storage : ℕ) :
    (evictAssemblies required assemblies storage).1.Sublist assemblies := by
  induction assemblies generalizing storage with
  | nil => exact .refl _
  | cons front assemblies ih =>
    rw [evictAssemblies]
    split_ifs
    · exact (ih _).cons front
    · exact .refl _

theorem evictImages_sublist (completedBytes : ℕ) (images : List PdoImage) (storage : ℕ) :
    (evictImages completedBytes images storage).1.Sublist images := by
  induction images generalizing storage with
  | nil => exact .refl _
  | cons front images ih =>
    rw [evictImages]
    split_ifs
    · exact (ih _).cons front
    · exact .refl _

section

variable {P : UInt64 → Prop} {assembler : InputAssembler} {input : PdoInputPayload}

theorem Epochs.removeStale (h : assembler.Epochs P) : (assembler.removeStale input).Epochs P :=
  ⟨fun _ hmem => h.assemblies _ (List.mem_of_mem_filter hmem), h.images⟩

theorem Epochs.openAssembly (h : assembler.Epochs P) (hinput : P input.epoch) :
    (assembler.openAssembly input).1.Epochs P := by
  unfold InputAssembler.openAssembly
  split
  · exact h
  · have hevicted := evictAssemblies_sublist (input.totalSize.toNat * 2) assembler.assemblies
      assembler.assemblyStorage
    have hkept := fun assembly hmem => h.assemblies assembly (hevicted.subset hmem)
    dsimp only
    split_ifs
    · exact ⟨hkept, h.images⟩
    · refine ⟨fun assembly hmem => ?_, h.images⟩
      rcases List.mem_append.mp hmem with hmem | hmem
      · exact hkept assembly hmem
      · rw [List.mem_singleton.mp hmem]
        exact hinput

theorem Epochs.eraseAssembly (h : assembler.Epochs P) (index : ℕ) (assembly : PdoAssembly) :
    (assembler.eraseAssembly index assembly).Epochs P :=
  ⟨fun _ hmem => h.assemblies _ (List.mem_of_mem_eraseIdx hmem), h.images⟩

theorem Epochs.queueImage (h : assembler.Epochs P) {assembly : PdoAssembly}
    (hassembly : P assembly.epoch) : (assembler.queueImage assembly).Epochs P := by
  have hevicted := evictImages_sublist assembly.data.length assembler.inputImages
    assembler.inputImageStorage
  have hkept := fun image hmem => h.images image (hevicted.subset hmem)
  unfold InputAssembler.queueImage
  dsimp only
  split_ifs
  · exact ⟨h.assemblies, hkept⟩
  · refine ⟨h.assemblies, fun image hmem => ?_⟩
    rcases List.mem_append.mp hmem with hmem | hmem
    · exact hkept image hmem
    · rw [List.mem_singleton.mp hmem]
      exact hassembly

theorem openAssembly_index_lt {opened : InputAssembler} {index : ℕ}
    (h : assembler.openAssembly input = (opened, some index)) :
    index < opened.assemblies.length := by
  unfold InputAssembler.openAssembly at h
  split at h
  · rename_i found hfound
    cases h
    exact (List.findIdx?_eq_some_iff_getElem.mp hfound).1
  · dsimp only at h
    split_ifs at h
    · cases h
    · cases h
      change _ < (_ ++ [_]).length
      rw [List.length_append]
      exact Nat.lt_succ_self _

/-- A chunk brings no epoch but its own. -/
theorem Epochs.assembleInput (h : assembler.Epochs P) (hinput : P input.epoch) :
    (assembler.assembleInput input).Epochs P := by
  have hopen : ((assembler.removeStale input).openAssembly input).1.Epochs P :=
    h.removeStale.openAssembly hinput
  unfold InputAssembler.assembleInput
  split
  · rename_i heq
    rw [heq] at hopen
    exact hopen
  · rename_i opened index heq
    rw [heq] at hopen
    have hmem : opened.assemblies.getD index {} ∈ opened.assemblies := by
      rw [List.getD_eq_getElem _ _ (openAssembly_index_lt heq)]
      exact List.getElem_mem _
    dsimp only
    split
    · exact hopen.eraseAssembly _ _
    · rename_i copied hcopy
      have hcopied : P copied.epoch := by
        rw [copy_epoch hcopy]
        exact hopen.assemblies _ hmem
      have hset : Epochs P { opened with assemblies := opened.assemblies.set index copied } := by
        refine ⟨fun assembly hassembly => ?_, hopen.images⟩
        rcases List.mem_or_eq_of_mem_set hassembly with hold | rfl
        · exact hopen.assemblies assembly hold
        · exact hcopied
      split_ifs
      · exact hset
      · exact (hset.queueImage hcopied).eraseAssembly _ _

end

/-- `PopInputImage`. -/
def popInputImage (assembler : InputAssembler) : Option PdoImage × InputAssembler :=
  match assembler.inputImages with
  | [] => (none, assembler)
  | image :: images => (some image, { assembler with
      inputImages := images
      inputImageStorage := assembler.inputImageStorage - image.data.length })

theorem Epochs.popInputImage {P : UInt64 → Prop} {assembler : InputAssembler}
    (h : assembler.Epochs P) : assembler.popInputImage.2.Epochs P := by
  unfold InputAssembler.popInputImage
  split
  · exact h
  · rename_i image images himages
    exact ⟨h.assemblies, fun other hmem => h.images other (himages ▸ List.mem_cons_of_mem _ hmem)⟩

end InputAssembler

end EcSystemCore
