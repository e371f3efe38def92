import Mathlib.Algebra.Order.BigOperators.Group.List
import Mathlib.Algebra.Order.Group.Nat
import EcSystemCore.Client.Assembler
import EcSystemCore.Lib.Reassembly
import EcSystemCore.Protocol.Roundtrip

/-!
# The images the C++ client assembles

The assembler is run by a list of chunks and pops.  An assembly lives from the chunk that
creates it, and what it holds is what the chunks of its image since then say;
an image is queued when all of it is held.  The two storage counters are the sums over what
is stored (`Counted`).
-/

namespace EcSystemCore

open Reassembly

/-- What tells one image from another: the SubDevice, the epoch, the cycle and the size. -/
structure ImageKey where
  busIndex : UInt16
  subDeviceIndex : UInt16
  epoch : UInt64
  cycleSequence : UInt64
  size : ℕ
  deriving DecidableEq

/-- The image a chunk belongs to. -/
def PdoInputPayload.imageKey (input : PdoInputPayload) : ImageKey :=
  ⟨input.busIndex, input.subDeviceIndex, input.epoch, input.cycleSequence, input.totalSize.toNat⟩

/-- The piece of the image. -/
def PdoInputPayload.piece (input : PdoInputPayload) : Chunk UInt8 :=
  ⟨input.offset.toNat, input.data⟩

/-- A chunk as `DecodePdoInputPayload` returns it. -/
def PdoInputPayload.Decoded (input : PdoInputPayload) : Prop :=
  ∃ payload maximumTotalSize, decodePdoInputPayload payload maximumTotalSize = some input

/-- A decoded chunk lies within its image. -/
theorem PdoInputPayload.Decoded.fits {input : PdoInputPayload} (h : input.Decoded) :
    input.offset.toNat + input.data.length ≤ input.totalSize.toNat := by
  obtain ⟨payload, maximumTotalSize, hdecode⟩ := h
  have hlayout := congrFun (decodePdoInputPayload_eq maximumTotalSize) payload
  rw [hdecode] at hlayout
  obtain ⟨header, body, hfields, -⟩ :=
    (pdoInputLayout.decode_eq_some_iff _).mp hlayout.symm
  change (if _ then none else _) = _ at hfields
  split_ifs at hfields with hrefused
  simp only [not_or, not_lt, UInt32.not_lt] at hrefused
  obtain ⟨-, -, -, -, -, -, -, hle, hlength⟩ := hrefused
  rw [UInt32.toNat_sub_of_le _ _ hle] at hlength
  have := UInt32.le_iff_toNat_le.mp hle
  omega

namespace PdoAssembly

/-- The image an assembly collects. -/
def imageKey (assembly : PdoAssembly) : ImageKey :=
  ⟨assembly.busIndex, assembly.subDeviceIndex, assembly.epoch, assembly.cycleSequence,
    assembly.data.length⟩

theorem isFor_iff {input : PdoInputPayload} {assembly : PdoAssembly} :
    assembly.isFor input = true ↔ assembly.imageKey = input.imageKey := by
  simp [isFor, imageKey, PdoInputPayload.imageKey]

theorem not_isStale_of_imageKey {input : PdoInputPayload} {assembly : PdoAssembly}
    (h : assembly.imageKey = input.imageKey) : assembly.isStale input = false := by
  obtain ⟨-, -, hepoch, hsequence, hsize⟩ := ImageKey.mk.inj h
  simp [isStale, hepoch, hsequence, hsize]

@[simp] theorem imageKey_created (input : PdoInputPayload) :
    (created input).imageKey = input.imageKey := by
  simp [created, imageKey, PdoInputPayload.imageKey]

@[simp] theorem storage_created (input : PdoInputPayload) :
    (created input).storage = input.totalSize.toNat * 2 := by
  simp [created, storage, Nat.mul_two]

/-- The bytes that have arrived at their places. -/
def heldBytes (assembly : PdoAssembly) : ℕ → Option UInt8 :=
  held assembly.data fun i => assembly.received.getD i 0 ≠ 0

/-- The marks are those of the data field, and `receivedBytes` counts them. -/
structure Marked (assembly : PdoAssembly) : Prop where
  length : assembly.received.length = assembly.data.length
  count : assembly.receivedBytes = assembly.received.countP (· ≠ 0)

theorem marked_created (input : PdoInputPayload) : (created input).Marked where
  length := by simp [created]
  count := by simp [created, List.countP_replicate]

theorem heldBytes_created (input : PdoInputPayload) (i : ℕ) :
    (created input).heldBytes i = none := by
  have habsent : (created input).received.getD i 0 = 0 := by
    simp only [created, List.getD_eq_getElem?_getD, List.getElem?_replicate]
    split_ifs <;> rfl
  exact if_neg (not_not.mpr habsent)

/-- An assembly that has received as many bytes as the image has holds all of it. -/
theorem Marked.heldBytes_eq {assembly : PdoAssembly} (h : assembly.Marked)
    (hcomplete : assembly.receivedBytes = assembly.data.length) (i : ℕ) :
    assembly.heldBytes i = assembly.data[i]? := by
  refine held_eq_getElem? (fun j hj => ?_) i
  have hall := List.countP_eq_length.mp (h.count.symm.trans (hcomplete.trans h.length.symm))
  have hj' : j < assembly.received.length := h.length ▸ hj
  rw [List.getD_eq_getElem _ _ hj']
  exact of_decide_eq_true (hall _ (List.getElem_mem hj'))

theorem put_heldBytes {assembly next : PdoAssembly} {destination : ℕ} {byte : UInt8}
    (hmarked : assembly.Marked) (hplace : destination < assembly.data.length)
    (h : assembly.put destination byte = some next) :
    next.Marked ∧ next.imageKey = assembly.imageKey ∧
      next.heldBytes = Function.update assembly.heldBytes destination (some byte) ∧
      ∀ held, assembly.heldBytes destination = some held → held = byte := by
  have hreceived : destination < assembly.received.length := hmarked.length ▸ hplace
  unfold put at h
  rw [List.getD_eq_getElem _ _ hreceived, List.getD_eq_getElem _ _ hplace] at h
  split_ifs at h with hconflict habsent
  · cases h
    refine ⟨⟨by simp [hmarked.length], ?_⟩, by simp [imageKey], ?_, fun held hheld => ?_⟩
    · change assembly.receivedBytes + 1 = _
      rw [List.countP_set hreceived, hmarked.count]
      simp [habsent]
    · refine held_set hplace byte fun j => ?_
      change (assembly.received.set destination 1).getD j 0 ≠ 0 ↔ _
      by_cases hj : j = destination
      · subst hj
        simp [List.getElem?_set_self hreceived]
      · simp [List.getElem?_set_ne (Ne.symm hj), hj]
    · have hnone : assembly.heldBytes destination = none :=
        if_neg (not_not.mpr ((List.getD_eq_getElem _ _ hreceived).trans habsent))
      rw [hnone] at hheld
      cases hheld
  · cases h
    have hpresent : assembly.received.getD destination 0 ≠ 0 := by
      rwa [List.getD_eq_getElem _ _ hreceived]
    refine ⟨⟨by simp [hmarked.length], hmarked.count⟩, by simp [imageKey], ?_,
      fun held hheld => ?_⟩
    · refine held_set hplace byte fun j => ?_
      by_cases hj : j = destination
      · subst hj
        exact iff_of_true hpresent (Or.inl rfl)
      · exact (or_iff_right hj).symm
    · have hdata : assembly.heldBytes destination = assembly.data[destination]? := if_pos hpresent
      rw [hdata, List.getElem?_eq_getElem hplace, Option.some_inj] at hheld
      exact hheld ▸ not_not.mp fun hne => hconflict ⟨habsent, hne⟩

theorem exists_of_put_eq_none {assembly : PdoAssembly} {destination : ℕ} {byte : UInt8}
    (hplace : destination < assembly.data.length) (h : assembly.put destination byte = none) :
    ∃ held, assembly.heldBytes destination = some held ∧ held ≠ byte := by
  unfold put at h
  split_ifs at h with hconflict
  rw [List.getD_eq_getElem _ _ hplace] at hconflict
  refine ⟨assembly.data[destination], ?_, hconflict.2⟩
  exact (if_pos hconflict.1).trans (List.getElem?_eq_getElem hplace)

/-- The assemblies of an image, as buffers. -/
def buffer (key : ImageKey) : Buffer PdoAssembly UInt8 where
  Valid assembly := assembly.imageKey = key ∧ assembly.Marked
  size assembly := assembly.data.length
  held := heldBytes
  put := put
  put_eq_none hvalid hplace h := exists_of_put_eq_none hplace h
  put_eq_some hvalid hplace h := by
    obtain ⟨hmarked, hkey, hheld, hagree⟩ := put_heldBytes hvalid.2 hplace h
    exact ⟨⟨hkey.trans hvalid.1, hmarked⟩, congrArg ImageKey.size hkey, hheld, hagree⟩

theorem copy_eq (key : ImageKey) (assembly : PdoAssembly) (destination : ℕ) (data : Bytes) :
    assembly.copy destination data = (buffer key).copy assembly destination data := by
  induction data generalizing assembly destination with
  | nil => rfl
  | cons byte data ih =>
    rw [copy, Buffer.copy]
    exact congrArg _ (funext fun next => ih next (destination + 1))

theorem copy_storage {assembly copied : PdoAssembly} {destination : ℕ} {data : Bytes}
    (h : assembly.copy destination data = some copied) : copied.storage = assembly.storage := by
  induction data generalizing assembly destination with
  | nil =>
    cases h
    rfl
  | cons byte data ih =>
    obtain ⟨next, hput, hcopy⟩ := Option.bind_eq_some_iff.mp h
    rw [ih hcopy]
    unfold put at hput
    split_ifs at hput <;> cases hput <;> simp [storage]

end PdoAssembly

/-- The image a queued image is. -/
def PdoImage.imageKey (image : PdoImage) : ImageKey :=
  ⟨image.busIndex, image.subDeviceIndex, image.epoch, image.cycleSequence, image.data.length⟩

namespace InputAssembler

/-! ### Runs -/

/-- What happens to an assembler. -/
inductive Event where
  | chunk (input : PdoInputPayload)
  | pop
  deriving DecidableEq, Repr

def step (assembler : InputAssembler) : Event → InputAssembler
  | .chunk input => assembler.assembleInput input
  | .pop => assembler.popInputImage.2

/-- The assembler of a new client after the events. -/
def run (events : List Event) : InputAssembler := events.foldl step {}

theorem run_concat (events : List Event) (event : Event) :
    run (events ++ [event]) = (run events).step event := by
  rw [run, List.foldl_append]
  rfl

/-- The piece an event brings, and of which image. -/
def Event.piece : Event → Option (ImageKey × Chunk UInt8)
  | .chunk input => some (input.imageKey, input.piece)
  | .pop => none

/-- An assembly of the image is open. -/
def IsOpen (assembler : InputAssembler) (key : ImageKey) : Prop :=
  ∃ assembly ∈ assembler.assemblies, assembly.imageKey = key

/-- An assembly of the image is open after the events. -/
def IsOpenAfter (events : List Event) (key : ImageKey) : Prop := (run events).IsOpen key

/-- The assembly holds what the chunks of its image since its creation say. -/
def Gathered (events : List Event) (assembly : PdoAssembly) : Prop :=
  assembly.Marked ∧ Collects Event.piece IsOpenAfter assembly.imageKey events assembly.heldBytes

/-- The image is made of the chunks that arrived from the creation of its assembly until it
was queued. -/
def Assembled (events : List Event) (image : PdoImage) : Prop :=
  ∃ before since after, events = before ++ since ++ after ∧
    Lifetime Event.piece IsOpenAfter image.imageKey before since ∧
    (run (before ++ since)).inputImages.getLast? = some image ∧
    MadeOf (piecesOf Event.piece image.imageKey since) image.data

theorem Assembled.concat {events : List Event} {image : PdoImage} (h : Assembled events image)
    (event : Event) : Assembled (events ++ [event]) image := by
  obtain ⟨before, since, after, rfl, h⟩ := h
  exact ⟨before, since, after ++ [event], by simp only [List.append_assoc], h⟩

/-- What reaches an assembler holds in every run. -/
structure Consistent (events : List Event) (assembler : InputAssembler) : Prop where
  distinct : assembler.assemblies.Pairwise (·.imageKey ≠ ·.imageKey)
  gathered : ∀ assembly ∈ assembler.assemblies, Gathered events assembly
  assembled : ∀ image ∈ assembler.inputImages, Assembled events image

/-! ### What a chunk does to the assemblies -/

section Chunk

variable {assembler opened : InputAssembler} {input : PdoInputPayload} {index : ℕ}
  {left right : List PdoAssembly} {assembly copied : PdoAssembly}

/-- The assembly the chunk goes to is `assembly`: the open one of its image, or a new one. -/
structure Opens (assembler : InputAssembler) (input : PdoInputPayload) (opened : InputAssembler)
    (left : List PdoAssembly) (assembly : PdoAssembly) (right : List PdoAssembly) : Prop where
  assemblies : opened.assemblies = left ++ assembly :: right
  images : opened.inputImages = assembler.inputImages
  source : (left ++ assembly :: right).Sublist assembler.assemblies ∧
      assembly.imageKey = input.imageKey ∨
    (left ++ right).Sublist assembler.assemblies ∧ assembly = .created input ∧
      ¬assembler.IsOpen input.imageKey

theorem Opens.imageKey (h : assembler.Opens input opened left assembly right) :
    assembly.imageKey = input.imageKey := by
  obtain ⟨-, hkey⟩ | ⟨-, rfl, -⟩ := h.source
  · exact hkey
  · exact PdoAssembly.imageKey_created input

theorem Opens.sublist (h : assembler.Opens input opened left assembly right) :
    (left ++ right).Sublist assembler.assemblies := by
  obtain ⟨hsublist, -⟩ | ⟨hsublist, -, -⟩ := h.source
  · exact (List.Sublist.append_left (List.sublist_cons_self _ _) left).trans hsublist
  · exact hsublist

/-- The other assemblies are of other images. -/
theorem Opens.ne_imageKey (h : assembler.Opens input opened left assembly right)
    (hdistinct : assembler.assemblies.Pairwise (·.imageKey ≠ ·.imageKey))
    {other : PdoAssembly} (hother : other ∈ left ++ right) : other.imageKey ≠ input.imageKey := by
  obtain ⟨hsublist, hkey⟩ | ⟨hsublist, -, hclosed⟩ := h.source
  · have hpairs := List.pairwise_middle (fun {_ _} => Ne.symm) |>.mp (hdistinct.sublist hsublist)
    exact hkey ▸ (List.rel_of_pairwise_cons hpairs hother).symm
  · exact fun hkey => hclosed ⟨other, hsublist.subset hother, hkey⟩

theorem not_isOpen_of_removeStale (h : ¬(assembler.removeStale input).IsOpen input.imageKey) :
    ¬assembler.IsOpen input.imageKey := by
  rintro ⟨assembly, hmem, hkey⟩
  refine h ⟨assembly, List.mem_filter.mpr ⟨hmem, ?_⟩, hkey⟩
  simp [PdoAssembly.not_isStale_of_imageKey hkey]

theorem not_isOpen_of_findIdx?
    (h : assembler.assemblies.findIdx? (PdoAssembly.isFor input) = none) :
    ¬assembler.IsOpen input.imageKey := by
  rintro ⟨assembly, hmem, hkey⟩
  have hnot := List.findIdx?_eq_none_iff.mp h assembly hmem
  rw [PdoAssembly.isFor_iff.mpr hkey] at hnot
  cases hnot

/-- An image that is too large for the storage gets no assembly. -/
theorem openAssembly_dropped (h : (assembler.removeStale input).openAssembly input = (opened, none)) :
    opened.assemblies.Sublist assembler.assemblies ∧
      opened.inputImages = assembler.inputImages ∧ ¬assembler.IsOpen input.imageKey := by
  unfold openAssembly at h
  split at h
  · cases h
  · rename_i hnone
    dsimp only at h
    split_ifs at h
    · cases h
      exact ⟨(evictAssemblies_sublist _ _ _).trans List.filter_sublist, rfl,
        not_isOpen_of_removeStale (not_isOpen_of_findIdx? hnone)⟩
    · cases h

theorem openAssembly_opens
    (h : (assembler.removeStale input).openAssembly input = (opened, some index)) :
    ∃ left assembly right, assembler.Opens input opened left assembly right ∧
      left.length = index := by
  unfold openAssembly at h
  split at h
  · rename_i found hfound
    cases h
    obtain ⟨hlt, hfor, -⟩ := List.findIdx?_eq_some_iff_getElem.mp hfound
    have hsplit : (assembler.removeStale input).assemblies =
        (assembler.removeStale input).assemblies.take index ++
          (assembler.removeStale input).assemblies[index] ::
            (assembler.removeStale input).assemblies.drop (index + 1) := by
      rw [List.getElem_cons_drop, List.take_append_drop]
    refine ⟨_, _, _, ⟨hsplit, rfl, Or.inl ⟨?_, PdoAssembly.isFor_iff.mp hfor⟩⟩,
      List.length_take_of_le hlt.le⟩
    exact hsplit ▸ List.filter_sublist
  · rename_i hnone
    dsimp only at h
    split_ifs at h
    · cases h
    · cases h
      refine ⟨_, .created input, [], ⟨rfl, rfl, Or.inr ⟨?_, rfl, ?_⟩⟩, rfl⟩
      · rw [List.append_nil]
        exact (evictAssemblies_sublist _ _ _).trans List.filter_sublist
      · exact not_isOpen_of_removeStale (not_isOpen_of_findIdx? hnone)

theorem queueImage_inputImages (assembler : InputAssembler) (assembly : PdoAssembly) :
    ∃ kept, kept.Sublist assembler.inputImages ∧
      ((assembler.queueImage assembly).inputImages = kept ∨
        (assembler.queueImage assembly).inputImages = kept ++ [assembly.image]) := by
  refine ⟨_, evictImages_sublist assembly.data.length _ assembler.inputImageStorage, ?_⟩
  unfold queueImage
  dsimp only
  split_ifs
  · exact Or.inl rfl
  · exact Or.inr rfl

theorem queueImage_assemblies (assembler : InputAssembler) (assembly : PdoAssembly) :
    (assembler.queueImage assembly).assemblies = assembler.assemblies := by
  unfold queueImage
  dsimp only
  split_ifs <;> rfl

/-- **What a chunk does.**  It is dropped; or it conflicts with the open assembly of its image,
which goes; or it is copied into the assembly, which stays open or, when complete, becomes an
image. -/
theorem assembleInput_cases (assembler : InputAssembler) (input : PdoInputPayload) :
    ((assembler.assembleInput input).assemblies.Sublist assembler.assemblies ∧
      (assembler.assembleInput input).inputImages = assembler.inputImages ∧
      ¬assembler.IsOpen input.imageKey) ∨
    ∃ opened left assembly right, assembler.Opens input opened left assembly right ∧
      ((assembly.copy input.offset.toNat input.data = none ∧
          (assembler.assembleInput input).assemblies = left ++ right ∧
          (assembler.assembleInput input).inputImages = assembler.inputImages) ∨
        ∃ copied, assembly.copy input.offset.toNat input.data = some copied ∧
          (((assembler.assembleInput input).assemblies = left ++ copied :: right ∧
              (assembler.assembleInput input).inputImages = assembler.inputImages) ∨
            (copied.receivedBytes = copied.data.length ∧
              (assembler.assembleInput input).assemblies = left ++ right ∧
              ∃ kept, kept.Sublist assembler.inputImages ∧
                ((assembler.assembleInput input).inputImages = kept ∨
                  (assembler.assembleInput input).inputImages = kept ++ [copied.image])))) := by
  unfold assembleInput
  split
  · rename_i opened hopened
    exact Or.inl (openAssembly_dropped hopened)
  · rename_i opened index hopened
    obtain ⟨left, assembly, right, hopens, rfl⟩ := openAssembly_opens hopened
    have hget : opened.assemblies.getD left.length {} = assembly := by
      simp [hopens.assemblies]
    have hset : ∀ copied, opened.assemblies.set left.length copied = left ++ copied :: right :=
      fun copied => by simp [hopens.assemblies]
    refine Or.inr ⟨opened, left, assembly, right, hopens, ?_⟩
    dsimp only
    rw [hget]
    split
    · rename_i hcopy
      refine Or.inl ⟨hcopy, ?_, hopens.images⟩
      simp [eraseAssembly, hopens.assemblies, List.eraseIdx_append_of_length_le]
    · rename_i copied hcopy
      refine Or.inr ⟨copied, hcopy, ?_⟩
      split_ifs with hcomplete
      · exact Or.inl ⟨hset copied, hopens.images⟩
      · refine Or.inr ⟨not_not.mp hcomplete, ?_, ?_⟩
        · simp [eraseAssembly, queueImage_assemblies, hset, List.eraseIdx_append_of_length_le]
        · rw [hset, ← hopens.images]
          exact queueImage_inputImages { opened with assemblies := left ++ copied :: right } copied

/-! ### Every run -/

/-- The assembly a chunk was copied into has gathered the chunk too. -/
theorem Opens.gathered {events : List Event}
    (h : (run events).Opens input opened left assembly right)
    (hconsistent : Consistent events (run events)) (hdecoded : input.Decoded)
    (hcopy : assembly.copy input.offset.toNat input.data = some copied) :
    copied.imageKey = input.imageKey ∧ Gathered (events ++ [.chunk input]) copied := by
  have hsize : assembly.data.length = input.totalSize.toNat := congrArg ImageKey.size h.imageKey
  have hfits : input.piece.offset + input.piece.data.length ≤ assembly.data.length :=
    hdecoded.fits.trans_eq hsize.symm
  have hmarked : assembly.Marked := by
    obtain ⟨hsublist, -⟩ | ⟨-, rfl, -⟩ := h.source
    · exact (hconsistent.gathered assembly (hsublist.subset (by simp))).1
    · exact PdoAssembly.marked_created input
  have hvalid : (PdoAssembly.buffer input.imageKey).Valid assembly := ⟨h.imageKey, hmarked⟩
  rw [PdoAssembly.copy_eq input.imageKey] at hcopy
  obtain ⟨⟨hkey, hmarked'⟩, -⟩ := Buffer.copy_eq_some hvalid hfits hcopy
  have hpiece : (Event.chunk input).piece = some (input.imageKey, input.piece) := rfl
  refine ⟨hkey, hmarked', ?_⟩
  rw [hkey]
  obtain ⟨hsublist, hsame⟩ | ⟨-, rfl, hclosed⟩ := h.source
  · have hmem : assembly ∈ (run events).assemblies := hsublist.subset (by simp)
    have hcollects : Collects Event.piece IsOpenAfter input.imageKey events assembly.heldBytes :=
      hsame ▸ (hconsistent.gathered assembly hmem).2
    exact Collects.copy hcollects ⟨assembly, hmem, hsame⟩ hpiece hvalid hfits hcopy
  · exact Collects.copy_new hclosed hpiece (PdoAssembly.heldBytes_created input) hvalid hfits hcopy

/-- The image of a complete assembly is made of the chunks of its lifetime. -/
theorem Gathered.assembled {events : List Event} (h : Gathered events assembly)
    (hcomplete : assembly.receivedBytes = assembly.data.length)
    (hqueued : (run events).inputImages.getLast? = some assembly.image) :
    Assembled events assembly.image := by
  obtain ⟨hmarked, before, since, rfl, hlifetime, hgathers⟩ := h
  exact ⟨before, since, [], (List.append_nil _).symm, hlifetime, hqueued,
    MadeOf.of_gathers hgathers (hmarked.heldBytes_eq hcomplete)⟩

theorem Consistent.chunk {events : List Event} (h : Consistent events (run events))
    (hdecoded : input.Decoded) :
    Consistent (events ++ [.chunk input]) (run (events ++ [.chunk input])) := by
  have hrun : run (events ++ [.chunk input]) = (run events).assembleInput input :=
    run_concat events _
  have himages : ∀ image ∈ (run events).inputImages, Assembled (events ++ [.chunk input]) image :=
    fun image hmem => (h.assembled image hmem).concat _
  have hother : ∀ other ∈ (run events).assemblies, other.imageKey ≠ input.imageKey →
      Gathered (events ++ [.chunk input]) other := fun other hmem hne =>
    ⟨(h.gathered other hmem).1, (h.gathered other hmem).2.concat_of_ne ⟨other, hmem, rfl⟩
      fun _ heq => hne (Prod.mk.inj (Option.some.inj heq)).1.symm⟩
  rcases assembleInput_cases (run events) input with
    ⟨hsublist, hsame, hclosed⟩ | ⟨opened, left, assembly, right, hopens, hcases⟩
  · rw [hrun]
    refine ⟨h.distinct.sublist hsublist, fun other hmem => ?_, hsame ▸ himages⟩
    exact hother other (hsublist.subset hmem) fun hkey =>
      hclosed ⟨other, hsublist.subset hmem, hkey⟩
  · have hothers : ∀ other ∈ left ++ right, Gathered (events ++ [.chunk input]) other :=
      fun other hmem => hother other (hopens.sublist.subset hmem)
        (hopens.ne_imageKey h.distinct hmem)
    have hdistinct := h.distinct.sublist hopens.sublist
    rcases hcases with ⟨-, hassemblies, hsame⟩ |
      ⟨copied, hcopy, ⟨hassemblies, hsame⟩ | ⟨hcomplete, hassemblies, kept, hkept, hqueue⟩⟩
    · rw [hrun]
      exact ⟨hassemblies ▸ hdistinct, hassemblies ▸ hothers, hsame ▸ himages⟩
    · obtain ⟨hkey, hgathered⟩ := hopens.gathered h hdecoded hcopy
      rw [hrun]
      refine ⟨?_, ?_, hsame ▸ himages⟩
      · rw [hassemblies, List.pairwise_middle fun {_ _} => Ne.symm]
        refine List.pairwise_cons.mpr ⟨fun other hmem => ?_, hdistinct⟩
        exact hkey ▸ (hopens.ne_imageKey h.distinct hmem).symm
      · rw [hassemblies]
        intro other hmem
        rcases List.mem_append.mp hmem with hmem | hmem
        · exact hothers other (List.mem_append_left _ hmem)
        · rcases List.mem_cons.mp hmem with rfl | hmem
          · exact hgathered
          · exact hothers other (List.mem_append_right _ hmem)
    · obtain ⟨-, hgathered⟩ := hopens.gathered h hdecoded hcopy
      refine ⟨hrun ▸ hassemblies ▸ hdistinct, hrun ▸ hassemblies ▸ hothers, ?_⟩
      intro image hmem
      rcases hqueue with hqueue | hqueue <;> rw [hrun, hqueue] at hmem
      · exact himages image (hkept.subset hmem)
      · rcases List.mem_append.mp hmem with hmem | hmem
        · exact himages image (hkept.subset hmem)
        · rw [List.mem_singleton.mp hmem]
          refine hgathered.assembled hcomplete ?_
          rw [hrun, hqueue, List.getLast?_concat]

end Chunk

theorem Consistent.pop {events : List Event} (h : Consistent events (run events)) :
    Consistent (events ++ [.pop]) (run (events ++ [.pop])) := by
  have hrun : run (events ++ [.pop]) = (run events).popInputImage.2 := run_concat events _
  have hassemblies : (run (events ++ [.pop])).assemblies = (run events).assemblies := by
    rw [hrun, popInputImage]
    split <;> rfl
  have himages : (run (events ++ [.pop])).inputImages ⊆ (run events).inputImages := by
    rw [hrun, popInputImage]
    split
    · exact List.Subset.refl _
    · rename_i himages
      exact himages ▸ List.subset_cons_self _ _
  refine ⟨hassemblies ▸ h.distinct, fun assembly hmem => ?_, fun image hmem => ?_⟩
  · rw [hassemblies] at hmem
    exact ⟨(h.gathered assembly hmem).1,
      (h.gathered assembly hmem).2.concat_of_ne ⟨assembly, hmem, rfl⟩ nofun⟩
  · exact (h.assembled image (himages hmem)).concat _

/-- The chunks among the events are decoded ones. -/
def Decoded (events : List Event) : Prop :=
  ∀ input, .chunk input ∈ events → input.Decoded

theorem consistent_run {events : List Event} (h : Decoded events) :
    Consistent events (run events) := by
  induction events using List.reverseRecOn with
  | nil => exact ⟨List.Pairwise.nil, nofun, nofun⟩
  | append_singleton events event ih =>
    have hbefore := ih fun input hmem => h input (List.mem_append_left _ hmem)
    cases event with
    | chunk input => exact hbefore.chunk (h input (by simp))
    | pop => exact hbefore.pop

/-! ### The storage counters -/

/-- The counters are the sums over what is stored, and within their limits. -/
structure Counted (assembler : InputAssembler) : Prop where
  assemblies : assembler.assemblyStorage = (assembler.assemblies.map PdoAssembly.storage).sum
  assemblies_le : assembler.assemblyStorage ≤ kMaximumPdoAssemblyStorage
  images : assembler.inputImageStorage = (assembler.inputImages.map (·.data.length)).sum
  images_le : assembler.inputImageStorage ≤ kMaximumPdoImageQueueStorage

theorem evictAssemblies_storage (required : ℕ) {assemblies : List PdoAssembly} {storage : ℕ}
    (h : storage = (assemblies.map PdoAssembly.storage).sum) :
    (evictAssemblies required assemblies storage).2 =
      ((evictAssemblies required assemblies storage).1.map PdoAssembly.storage).sum := by
  induction assemblies generalizing storage with
  | nil => exact h
  | cons front assemblies ih =>
    rw [evictAssemblies]
    split_ifs
    · refine ih ?_
      rw [h, List.map_cons, List.sum_cons, Nat.add_sub_cancel_left]
    · exact h

theorem evictImages_storage (completedBytes : ℕ) {images : List PdoImage} {storage : ℕ}
    (h : storage = (images.map (·.data.length)).sum) :
    (evictImages completedBytes images storage).2 =
      ((evictImages completedBytes images storage).1.map (·.data.length)).sum := by
  induction images generalizing storage with
  | nil => exact h
  | cons front images ih =>
    rw [evictImages]
    split_ifs
    · refine ih ?_
      rw [h, List.map_cons, List.sum_cons, Nat.add_sub_cancel_left]
    · exact h

theorem sum_map_le_of_sublist {α : Type*} {some all : List α} (h : some.Sublist all) (f : α → ℕ) :
    (some.map f).sum ≤ (all.map f).sum :=
  (h.map f).sum_le_sum fun _ _ => Nat.zero_le _

namespace Counted

variable {assembler : InputAssembler} {input : PdoInputPayload} {index : ℕ}
  {assembly : PdoAssembly}

theorem removeStale (h : assembler.Counted) : (assembler.removeStale input).Counted where
  assemblies := rfl
  assemblies_le := (sum_map_le_of_sublist List.filter_sublist _).trans
    (h.assemblies ▸ h.assemblies_le)
  images := h.images
  images_le := h.images_le

theorem openAssembly (h : assembler.Counted) : (assembler.openAssembly input).1.Counted := by
  unfold InputAssembler.openAssembly
  split
  · exact h
  · have hstorage := evictAssemblies_storage (input.totalSize.toNat * 2) h.assemblies
    have hle := sum_map_le_of_sublist (evictAssemblies_sublist (input.totalSize.toNat * 2)
      assembler.assemblies assembler.assemblyStorage) PdoAssembly.storage
    rw [← hstorage, ← h.assemblies] at hle
    have hlimit := hle.trans h.assemblies_le
    dsimp only
    split_ifs with hroom
    · exact ⟨hstorage, hlimit, h.images, h.images_le⟩
    · refine ⟨?_, ?_, h.images, h.images_le⟩
      · simp [hstorage]
      · change _ + _ ≤ _
        omega

theorem set (h : assembler.Counted) (hindex : index < assembler.assemblies.length)
    (hstorage : assembly.storage = (assembler.assemblies.getD index {}).storage) :
    Counted { assembler with assemblies := assembler.assemblies.set index assembly } := by
  refine ⟨?_, h.assemblies_le, h.images, h.images_le⟩
  change assembler.assemblyStorage = ((assembler.assemblies.set index assembly).map _).sum
  rw [List.getD_eq_getElem _ _ hindex] at hstorage
  rw [h.assemblies, List.map_set, hstorage, ← List.getElem_map PdoAssembly.storage,
    List.set_getElem_self]
  rwa [List.length_map]

theorem eraseAssembly (h : assembler.Counted) (hindex : index < assembler.assemblies.length)
    (hstorage : assembly.storage = (assembler.assemblies.getD index {}).storage) :
    (assembler.eraseAssembly index assembly).Counted := by
  have hsum := List.CommMonoid.add_sum_eraseIdx
    (l := assembler.assemblies.map PdoAssembly.storage) (i := index) (by rwa [List.length_map])
  rw [List.getElem_map, ← List.getD_eq_getElem _ {} hindex, ← hstorage, ← h.assemblies,
    List.eraseIdx_map] at hsum
  refine ⟨?_, (Nat.sub_le _ _).trans h.assemblies_le, h.images, h.images_le⟩
  change assembler.assemblyStorage - assembly.storage = _
  exact Nat.sub_eq_of_eq_add' hsum.symm

theorem queueImage (h : assembler.Counted) : (assembler.queueImage assembly).Counted := by
  have hstorage := evictImages_storage assembly.data.length h.images
  have hle := sum_map_le_of_sublist (evictImages_sublist assembly.data.length
    assembler.inputImages assembler.inputImageStorage) (·.data.length)
  rw [← hstorage, ← h.images] at hle
  have hlimit := hle.trans h.images_le
  unfold InputAssembler.queueImage
  dsimp only
  split_ifs with hroom
  · exact ⟨h.assemblies, h.assemblies_le, hstorage, hlimit⟩
  · refine ⟨h.assemblies, h.assemblies_le, ?_, ?_⟩
    · simp [hstorage, PdoAssembly.image]
    · change _ + _ ≤ _
      omega

theorem assembleInput (h : assembler.Counted) : (assembler.assembleInput input).Counted := by
  have hopen : ((assembler.removeStale input).openAssembly input).1.Counted :=
    h.removeStale.openAssembly
  unfold InputAssembler.assembleInput
  split
  · rename_i heq
    rw [heq] at hopen
    exact hopen
  · rename_i opened index heq
    rw [heq] at hopen
    have hindex := openAssembly_index_lt heq
    dsimp only
    split
    · exact hopen.eraseAssembly hindex rfl
    · rename_i copied hcopy
      have hset := hopen.set hindex (PdoAssembly.copy_storage hcopy)
      split_ifs
      · exact hset
      · refine hset.queueImage.eraseAssembly ?_ ?_
        · rwa [queueImage_assemblies, List.length_set]
        · rw [queueImage_assemblies, List.getD_eq_getElem _ _ (by rwa [List.length_set]),
            List.getElem_set_self]

theorem popInputImage (h : assembler.Counted) : assembler.popInputImage.2.Counted := by
  unfold InputAssembler.popInputImage
  split
  · exact h
  · rename_i image images himages
    refine ⟨h.assemblies, h.assemblies_le, ?_, (Nat.sub_le _ _).trans h.images_le⟩
    change assembler.inputImageStorage - image.data.length = _
    rw [h.images, himages, List.map_cons, List.sum_cons, Nat.add_sub_cancel_left]

end Counted

theorem counted_run (events : List Event) : (run events).Counted := by
  induction events using List.reverseRecOn with
  | nil => exact ⟨rfl, Nat.zero_le _, rfl, Nat.zero_le _⟩
  | append_singleton events event ih =>
    rw [run_concat]
    cases event with
    | chunk input => exact ih.assembleInput
    | pop => exact ih.popInputImage

/-- **The images the C++ client queues.**  Whatever decoded chunks arrive and images are popped,
every queued image is made of the chunks of its SubDevice, epoch, cycle and size that arrived
since its assembly was created, which cover it and agree with each other, and the storage
counters are exact and within their limits. -/
theorem queued_images_are_received (events : List Event) (h : Decoded events) :
    (∀ image ∈ (run events).inputImages, Assembled events image) ∧ (run events).Counted :=
  ⟨(consistent_run h).assembled, counted_run events⟩

/-- An image of two bytes in two chunks, the second first. -/
def twoChunks : List Event :=
  [.chunk ⟨0, 1, 1, 2, 1, 1, [7]⟩, .chunk ⟨0, 1, 0, 2, 1, 1, [5]⟩]

theorem decoded_twoChunks : Decoded twoChunks := by
  intro input hmem
  simp only [twoChunks, List.mem_cons, Event.chunk.injEq, List.not_mem_nil, or_false] at hmem
  rcases hmem with rfl | rfl
  · exact ⟨encodePdoInputPayload ⟨0, 1, 1, 2, 1, 1, [7]⟩, 2, by decide +kernel⟩
  · exact ⟨encodePdoInputPayload ⟨0, 1, 0, 2, 1, 1, [5]⟩, 2, by decide +kernel⟩

theorem queued_images_are_received_two_chunks :
    (run twoChunks).inputImages = [⟨0, 1, 1, 1, [5, 7]⟩] ∧
      Assembled twoChunks ⟨0, 1, 1, 1, [5, 7]⟩ := by
  have hqueued : (run twoChunks).inputImages = [⟨0, 1, 1, 1, [5, 7]⟩] := by decide +kernel
  exact ⟨hqueued, (queued_images_are_received twoChunks decoded_twoChunks).1 _ (hqueued ▸ by simp)⟩

end InputAssembler

end EcSystemCore
