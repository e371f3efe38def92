import Mathlib.Algebra.Order.BigOperators.Group.List
import Mathlib.Algebra.Order.Group.Nat
import EcSystemCore.Client.AssembledImages
import EcSystemCore.Client.CodecAgreement
import EcSystemCore.Client.JavaAssembler

/-!
# The images the Java client delivers

The assembler is run by chunks and expiries until the first exception.  Its byte count is
exact and within the limit (`Counted`), an image is made of the chunks of the lifetime of its
assembly, and the images of one SubDevice and epoch come in the order of their cycles.  The
chunks of one image may come in any order (`feed_perm`).
-/

namespace EcSystemCore.Java

open Reassembly

/-! ### Assemblies as buffers -/

namespace Assembly

variable {assembly next : Assembly} {destination : ℕ} {byte : UInt8}

/-- The bytes that have arrived at their places. -/
def heldBytes (assembly : Assembly) : ℕ → Option UInt8 := held assembly.data (· ∈ assembly.present)

/-- Only places of the image are marked. -/
def Marked (assembly : Assembly) : Prop := assembly.present ⊆ Finset.range assembly.data.length

theorem put_heldBytes (hmarked : assembly.Marked) (hplace : destination < assembly.data.length)
    (h : assembly.put destination byte = some next) :
    next.Marked ∧ next.data.length = assembly.data.length ∧
      next.heldBytes = Function.update assembly.heldBytes destination (some byte) ∧
      ∀ held, assembly.heldBytes destination = some held → held = byte := by
  unfold put at h
  rw [List.getD_eq_getElem _ _ hplace] at h
  split_ifs at h with hconflict
  cases h
  refine ⟨?_, List.length_set, held_set hplace byte fun j => Finset.mem_insert,
    fun held hheld => ?_⟩
  · intro j hj
    rw [Finset.mem_range, List.length_set]
    rcases Finset.mem_insert.mp hj with rfl | hj
    · exact hplace
    · exact Finset.mem_range.mp (hmarked hj)
  · unfold heldBytes Reassembly.held at hheld
    split_ifs at hheld with hpresent
    rw [List.getElem?_eq_getElem hplace, Option.some_inj] at hheld
    exact hheld ▸ not_not.mp fun hne => hconflict ⟨hpresent, hne⟩

theorem exists_of_put_eq_none (hplace : destination < assembly.data.length)
    (h : assembly.put destination byte = none) :
    ∃ held, assembly.heldBytes destination = some held ∧ held ≠ byte := by
  unfold put at h
  split_ifs at h with hconflict
  rw [List.getD_eq_getElem _ _ hplace] at hconflict
  refine ⟨assembly.data[destination], ?_, hconflict.2⟩
  exact (if_pos hconflict.1).trans (List.getElem?_eq_getElem hplace)

def buffer : Buffer Assembly UInt8 where
  Valid := Marked
  size assembly := assembly.data.length
  held := heldBytes
  put := put
  put_eq_none _ hplace h := exists_of_put_eq_none hplace h
  put_eq_some hmarked hplace h := put_heldBytes hmarked hplace h

theorem copy_eq (assembly : Assembly) (destination : ℕ) (data : Bytes) :
    assembly.copy destination data = buffer.copy assembly destination data := by
  induction data generalizing assembly destination with
  | nil => rfl
  | cons byte data ih =>
    rw [copy, Buffer.copy]
    exact congrArg _ (funext fun next => ih next (destination + 1))

theorem marked_new (size : ℤ) (createdNanos : Int64) : (new size createdNanos).Marked :=
  Finset.empty_subset _

theorem heldBytes_new (size : ℤ) (createdNanos : Int64) (i : ℕ) :
    (new size createdNanos).heldBytes i = none := by
  unfold heldBytes held
  exact if_neg (Finset.notMem_empty i)

theorem length_new (size : ℤ) (createdNanos : Int64) :
    (new size createdNanos).data.length = size.toNat :=
  List.length_replicate

/-- All places are marked when there are as many marks as places. -/
theorem Marked.complete_iff (h : assembly.Marked) :
    assembly.present.card = assembly.data.length ↔
      ∀ i < assembly.data.length, i ∈ assembly.present := by
  constructor
  · intro hcard i hi
    have hall : assembly.present = Finset.range assembly.data.length :=
      Finset.eq_of_subset_of_card_le h (by rw [Finset.card_range, hcard])
    exact hall ▸ Finset.mem_range.mpr hi
  · intro hall
    have hrange : assembly.present = Finset.range assembly.data.length :=
      h.antisymm fun i hi => hall i (Finset.mem_range.mp hi)
    rw [hrange, Finset.card_range]

theorem Marked.heldBytes_eq (h : assembly.Marked)
    (hcomplete : assembly.present.card = assembly.data.length) (i : ℕ) :
    assembly.heldBytes i = assembly.data[i]? :=
  held_eq_getElem? (h.complete_iff.mp hcomplete) i

theorem Marked.isSome_heldBytes_iff (h : assembly.Marked) {i : ℕ} :
    (assembly.heldBytes i).isSome ↔ i ∈ assembly.present := by
  unfold heldBytes held
  by_cases hi : i ∈ assembly.present
  · rw [if_pos hi]
    exact iff_of_true (by simpa using Finset.mem_range.mp (h hi)) hi
  · rw [if_neg hi]
    exact iff_of_false (by simp) hi

end Assembly

/-! ### Chunks -/

namespace PdoChunk

variable {chunk : PdoChunk}

/-- The piece of the image. -/
def piece (chunk : PdoChunk) : Chunk UInt8 := ⟨chunk.offset.toNat, chunk.data⟩

/-- The chunk is a part of the image with the key. -/
structure PartOf (chunk : PdoChunk) (key : PdoKey) (image : Bytes) : Prop where
  key : chunk.key = key
  size : chunk.totalSize = image.length
  slice : chunk.piece.SliceOf image

/-- A chunk as `decodePdoChunk` returns it, for a maximum that is an `int` and not negative. -/
def Decoded (chunk : PdoChunk) : Prop :=
  ∃ payload, ∃ maximumTotalSize : ℕ, maximumTotalSize ≤ 2147483647 ∧
    decodePdoChunk payload maximumTotalSize = some chunk

/-- A decoded chunk lies within its image. -/
theorem Decoded.fits (h : chunk.Decoded) :
    0 ≤ chunk.totalSize ∧
      chunk.piece.offset + chunk.piece.data.length ≤ chunk.totalSize.toNat := by
  obtain ⟨payload, maximumTotalSize, hmaximum, hdecode⟩ := h
  have hagreement := congrFun (decodePdoChunk_eq maximumTotalSize hmaximum) payload
  rw [hdecode] at hagreement
  obtain ⟨input, hinput, rfl⟩ := Option.map_eq_some_iff.mp hagreement.symm
  exact ⟨Int.natCast_nonneg _, PdoInputPayload.Decoded.fits ⟨payload, maximumTotalSize, hinput⟩⟩

end PdoChunk

namespace PdoAssembler

variable {assembler opened next : PdoAssembler} {chunk : PdoChunk} {nanoTime : Int64}
  {assembly copied : Assembly} {input : Option PdoInput}

/-! ### What a call does -/

theorem openAssembly_eq_ok (h : assembler.openAssembly chunk nanoTime = .ok (assembly, opened)) :
    (Keyed.get assembler.assemblies chunk.key = some assembly ∧
      assembly.data.length = chunk.totalSize ∧ opened = assembler) ∨
    (Keyed.get assembler.assemblies chunk.key = none ∧
      assembler.assemblies.length < assembler.maximumAssemblies ∧
      chunk.totalSize ≤ assembler.maximumBytes - assembler.allocatedBytes ∧
      assembly = .new chunk.totalSize nanoTime ∧
      opened = { assembler with
        assemblies := Keyed.insert assembler.assemblies chunk.key assembly
        allocatedBytes := assembler.allocatedBytes + chunk.totalSize }) := by
  unfold openAssembly at h
  split at h
  · rename_i hnone
    split_ifs at h with hlimits
    obtain ⟨rfl, rfl⟩ := Prod.mk.inj (Except.ok.inj h)
    rw [not_or, not_le, not_lt] at hlimits
    exact Or.inr ⟨hnone, hlimits.1, hlimits.2, rfl, rfl⟩
  · rename_i found hfound
    split_ifs at h with hsize
    obtain ⟨rfl, rfl⟩ := Prod.mk.inj (Except.ok.inj h)
    exact Or.inl ⟨hfound, not_not.mp hsize, rfl⟩

theorem openAssembly_of_get_eq_some
    (hget : Keyed.get assembler.assemblies chunk.key = some assembly)
    (hsize : assembly.data.length = chunk.totalSize) (nanoTime : Int64) :
    assembler.openAssembly chunk nanoTime = .ok (assembly, assembler) := by
  rw [openAssembly, hget]
  exact if_neg (not_not.mpr hsize)

theorem openAssembly_of_get_eq_none (hget : Keyed.get assembler.assemblies chunk.key = none)
    (hroom : ¬(assembler.assemblies.length ≥ assembler.maximumAssemblies ∨
      chunk.totalSize > assembler.maximumBytes - assembler.allocatedBytes)) (nanoTime : Int64) :
    assembler.openAssembly chunk nanoTime = .ok (.new chunk.totalSize nanoTime, { assembler with
      assemblies := Keyed.insert assembler.assemblies chunk.key (.new chunk.totalSize nanoTime)
      allocatedBytes := assembler.allocatedBytes + chunk.totalSize }) := by
  rw [openAssembly, hget]
  exact if_neg hroom

/-- What opening an assembly leaves as it was. -/
theorem openAssembly_frame
    (hopen : assembler.openAssembly chunk nanoTime = .ok (assembly, opened)) :
    opened.deliveredSequences = assembler.deliveredSequences ∧
      opened.maximumAssemblies = assembler.maximumAssemblies ∧
      opened.maximumBytes = assembler.maximumBytes ∧
      ∀ entry ∈ opened.assemblies, entry.1 ≠ chunk.key → entry ∈ assembler.assemblies := by
  rcases openAssembly_eq_ok hopen with ⟨-, -, rfl⟩ | ⟨-, -, -, -, rfl⟩
  · exact ⟨rfl, rfl, rfl, fun _ hmem _ => hmem⟩
  · refine ⟨rfl, rfl, rfl, fun entry hmem hne => ?_⟩
    rcases Keyed.mem_insert.mp hmem with rfl | ⟨hmem, -⟩
    · exact absurd rfl hne
    · exact hmem

theorem exists_of_isDelivered (h : assembler.isDelivered chunk = true) :
    ∃ sequence, Keyed.get assembler.deliveredSequences chunk.target = some sequence ∧
      chunk.cycleSequence.toUInt64 ≤ sequence.toUInt64 := by
  unfold isDelivered at h
  cases hget : Keyed.get assembler.deliveredSequences chunk.target with
  | none =>
    rw [hget] at h
    cases h
  | some sequence =>
    rw [hget] at h
    exact ⟨sequence, rfl, of_decide_eq_true h⟩

theorem lt_of_not_isDelivered (h : assembler.isDelivered chunk = false) {sequence : Int64}
    (hget : Keyed.get assembler.deliveredSequences chunk.target = some sequence) :
    sequence.toUInt64 < chunk.cycleSequence.toUInt64 := by
  rw [isDelivered, hget, Option.any_some, decide_eq_false_iff_not, UInt64.not_le] at h
  exact h

/-- **What a call of `accept` does**, unless it throws: it ignores the chunk, or copies it into
the assembly of its image, which is delivered when it is complete. -/
theorem accept_eq_ok (h : assembler.accept chunk nanoTime = .ok (input, next)) :
    (assembler.isDelivered chunk = true ∧ input = none ∧ next = assembler) ∨
    (assembler.isDelivered chunk = false ∧ ∃ assembly opened copied,
      assembler.openAssembly chunk nanoTime = .ok (assembly, opened) ∧
      assembly.copy chunk.offset.toNat chunk.data = some copied ∧
      ((input = none ∧ next = { opened with
          assemblies := Keyed.insert opened.assemblies chunk.key copied }) ∨
        (copied.present.card = copied.data.length ∧
          (input, next) = Prod.map some id (PdoAssembler.deliver { opened with
            assemblies := Keyed.insert opened.assemblies chunk.key copied } chunk copied)))) := by
  unfold accept at h
  split_ifs at h with hdelivered
  · obtain ⟨rfl, rfl⟩ := Prod.mk.inj (Except.ok.inj h)
    exact Or.inl ⟨hdelivered, rfl, rfl⟩
  · refine Or.inr ⟨eq_false_of_ne_true hdelivered, ?_⟩
    split at h
    · cases h
    · rename_i assembly opened hopened
      dsimp only at h
      split at h
      · cases h
      · rename_i copied hcopy
        refine ⟨assembly, opened, copied, hopened, hcopy, ?_⟩
        split_ifs at h with hcomplete
        · obtain ⟨rfl, rfl⟩ := Prod.mk.inj (Except.ok.inj h)
          exact Or.inl ⟨rfl, rfl⟩
        · exact Or.inr ⟨not_not.mp hcomplete, (Except.ok.inj h).symm⟩

/-! ### The byte count -/

/-- The bytes the entries are counted for. -/
def storage (entries : List (PdoKey × Assembly)) : ℤ :=
  (entries.map fun entry => (entry.2.data.length : ℤ)).sum

theorem storage_perm {entries others : List (PdoKey × Assembly)} (h : entries.Perm others) :
    storage entries = storage others :=
  (h.map _).sum_eq

theorem storage_nonneg (entries : List (PdoKey × Assembly)) : 0 ≤ storage entries := by
  refine List.sum_nonneg fun size hmem => ?_
  obtain ⟨entry, -, rfl⟩ := List.mem_map.mp hmem
  exact Int.natCast_nonneg _

theorem storage_filter (entries : List (PdoKey × Assembly)) (p : PdoKey × Assembly → Bool) :
    storage (entries.filter p) + storage (entries.filter fun entry => !p entry) =
      storage entries := by
  rw [← storage_perm (List.filter_append_perm p entries)]
  simp [storage]

/-- The keys are distinct, the byte count is exact, and the limits are kept. -/
structure Counted (assembler : PdoAssembler) : Prop where
  keys : (assembler.assemblies.map Prod.fst).Nodup
  allocated : assembler.allocatedBytes = storage assembler.assemblies
  bytes_le : assembler.allocatedBytes ≤ assembler.maximumBytes
  count_le : assembler.assemblies.length ≤ assembler.maximumAssemblies

namespace Counted

theorem removeIf (h : assembler.Counted) (remove : PdoKey × Assembly → Bool) :
    (assembler.removeIf remove).Counted where
  keys := Keyed.nodup_keys_filter h.keys _
  allocated := by
    change assembler.allocatedBytes - storage _ =
      storage (assembler.assemblies.filter fun entry => !remove entry)
    rw [h.allocated, ← storage_filter assembler.assemblies remove, add_sub_cancel_left]
  bytes_le := by
    change assembler.allocatedBytes - storage _ ≤ _
    have := storage_nonneg (assembler.assemblies.filter remove)
    have := h.bytes_le
    change _ ≤ assembler.maximumBytes
    omega
  count_le := by
    have := List.length_filter_le (fun entry => !remove entry) assembler.assemblies
    have := h.count_le
    change ((assembler.assemblies.filter _).length : ℤ) ≤ assembler.maximumAssemblies
    omega

/-- An entry is replaced by one of the same size. -/
theorem replace (h : assembler.Counted) {key : PdoKey}
    (hget : Keyed.get assembler.assemblies key = some assembly)
    (hlength : copied.data.length = assembly.data.length) :
    Counted { assembler with assemblies := Keyed.insert assembler.assemblies key copied } := by
  have hperm := Keyed.perm_insert_of_get_eq_some h.keys hget
  refine ⟨Keyed.nodup_keys_insert h.keys, ?_, h.bytes_le, ?_⟩
  · change assembler.allocatedBytes = storage _
    rw [h.allocated, storage_perm hperm]
    simp [storage, Keyed.insert, hlength]
  · have hcount := h.count_le
    rw [hperm.length_eq] at hcount
    exact hcount

/-- An entry is removed. -/
theorem erase (h : assembler.Counted) {key : PdoKey}
    (hget : Keyed.get assembler.assemblies key = some assembly) :
    Counted { assembler with
      assemblies := Keyed.erase assembler.assemblies key
      allocatedBytes := assembler.allocatedBytes - assembly.data.length } := by
  have hperm := Keyed.perm_insert_of_get_eq_some h.keys hget
  have hstorage : assembler.allocatedBytes =
      assembly.data.length + storage (Keyed.erase assembler.assemblies key) :=
    h.allocated.trans (storage_perm hperm)
  have hcount := h.count_le
  rw [hperm.length_eq] at hcount
  have hbytes := h.bytes_le
  refine ⟨Keyed.nodup_keys_filter h.keys _, ?_, ?_, ?_⟩
  · change assembler.allocatedBytes - _ = storage (Keyed.erase assembler.assemblies key)
    omega
  · change assembler.allocatedBytes - _ ≤ assembler.maximumBytes
    omega
  · change ((Keyed.erase assembler.assemblies key).length : ℤ) ≤ assembler.maximumAssemblies
    rw [Keyed.insert, List.length_cons] at hcount
    omega

theorem openAssembly (h : assembler.Counted) (hsize : 0 ≤ chunk.totalSize)
    (hopen : assembler.openAssembly chunk nanoTime = .ok (assembly, opened)) :
    opened.Counted ∧ Keyed.get opened.assemblies chunk.key = some assembly := by
  rcases openAssembly_eq_ok hopen with ⟨hget, -, rfl⟩ | ⟨hnone, hcount, hbytes, rfl, rfl⟩
  · exact ⟨h, hget⟩
  · refine ⟨⟨Keyed.nodup_keys_insert h.keys, ?_, ?_, ?_⟩, Keyed.get_insert_self⟩
    · change assembler.allocatedBytes + chunk.totalSize = storage _
      rw [Keyed.insert, Keyed.erase_of_get_eq_none hnone, h.allocated]
      simp [storage, Assembly.length_new, Int.toNat_of_nonneg hsize, add_comm]
    · change assembler.allocatedBytes + chunk.totalSize ≤ assembler.maximumBytes
      omega
    · change ((Keyed.insert _ _ _).length : ℤ) ≤ assembler.maximumAssemblies
      rw [Keyed.insert, Keyed.erase_of_get_eq_none hnone, List.length_cons]
      omega

theorem deliver (h : assembler.Counted)
    (hget : Keyed.get assembler.assemblies chunk.key = some assembly) :
    (assembler.deliver chunk assembly).2.Counted := by
  obtain ⟨hkeys, hallocated, hbytes, hcount⟩ := h.erase hget
  have hdelivered : Counted { assembler with
      assemblies := Keyed.erase assembler.assemblies chunk.key
      allocatedBytes := assembler.allocatedBytes - assembly.data.length
      deliveredSequences :=
        Keyed.insert assembler.deliveredSequences chunk.target chunk.cycleSequence } :=
    ⟨hkeys, hallocated, hbytes, hcount⟩
  exact hdelivered.removeIf _

end Counted

/-- The assemblies that are left when an image is delivered are of other images, and those of
its target of later cycles. -/
theorem mem_of_mem_deliver {entry : PdoKey × Assembly}
    (h : entry ∈ (PdoAssembler.deliver { opened with
      assemblies := Keyed.insert opened.assemblies chunk.key copied } chunk copied).2.assemblies) :
    entry ∈ opened.assemblies ∧ entry.1 ≠ chunk.key ∧ (entry.1.target = chunk.target →
      chunk.cycleSequence.toUInt64 < entry.1.sequence.toUInt64) := by
  obtain ⟨hmem, hkept⟩ := List.mem_filter.mp h
  change entry ∈ Keyed.erase (Keyed.insert opened.assemblies chunk.key copied) chunk.key at hmem
  rw [Keyed.erase_insert, Keyed.mem_erase] at hmem
  refine ⟨hmem.1, hmem.2, fun htarget => ?_⟩
  obtain ⟨hbus, hsubDevice, hepoch⟩ := PdoTarget.mk.inj htarget
  simpa [hbus, hsubDevice, hepoch] using hkept

/-! ### Runs -/

/-- What happens to an assembler. -/
inductive Event where
  | chunk (chunk : PdoChunk) (nanoTime : Int64)
  | expire (nanoTime maximumAge : Int64)
  deriving DecidableEq

/-- One event, on an assembler and the images it has delivered. -/
def step (state : PdoAssembler × List PdoInput) :
    Event → Except String (PdoAssembler × List PdoInput)
  | .chunk chunk nanoTime =>
    match state.1.accept chunk nanoTime with
    | .error message => .error message
    | .ok (input, assembler) => .ok (assembler, state.2 ++ input.toList)
  | .expire nanoTime maximumAge => .ok (state.1.expireOlderThan nanoTime maximumAge, state.2)

/-- A new assembler after the events, or the first exception. -/
def run (maximumAssemblies maximumBytes : ℤ) (events : List Event) :
    Except String (PdoAssembler × List PdoInput) := do
  let assembler ← create maximumAssemblies maximumBytes
  events.foldlM step (assembler, [])

/-- The piece an event brings, and of which image. -/
def Event.piece : Event → Option (PdoKey × Chunk UInt8)
  | .chunk chunk _ => some (chunk.key, chunk.piece)
  | .expire _ _ => none

end PdoAssembler

/-- The image an input is. -/
def PdoInput.key (input : PdoInput) : PdoKey :=
  ⟨input.busIndex, input.subDeviceIndex, input.epoch, input.cycleSequence⟩

/-- The input of an image. -/
def PdoKey.input (key : PdoKey) (image : Bytes) : PdoInput :=
  ⟨key.bus, key.subDevice, key.sequence, key.epoch, image⟩

namespace PdoAssembler

section Runs

variable (maximumAssemblies maximumBytes : ℤ)

/-- An assembly of the image is open after the events. -/
def IsOpenAfter (events : List Event) (key : PdoKey) : Prop :=
  ∃ state, run maximumAssemblies maximumBytes events = .ok state ∧
    ∃ entry ∈ state.1.assemblies, entry.1 = key

/-- The image is made of the chunks that arrived from the creation of its assembly until it
was delivered. -/
def Assembled (events : List Event) (input : PdoInput) : Prop :=
  ∃ before since after, events = before ++ since ++ after ∧
    Lifetime Event.piece (IsOpenAfter maximumAssemblies maximumBytes) input.key before since ∧
    (∃ assembler delivered,
      run maximumAssemblies maximumBytes (before ++ since) = .ok (assembler, delivered ++ [input])) ∧
    MadeOf (piecesOf Event.piece input.key since) input.data

/-- What holds after every run. -/
structure Consistent (events : List Event) (state : PdoAssembler × List PdoInput) : Prop where
  reached : run maximumAssemblies maximumBytes events = .ok state
  counted : state.1.Counted
  assemblies_limit : state.1.maximumAssemblies = maximumAssemblies
  bytes_limit : state.1.maximumBytes = maximumBytes
  gathered : ∀ entry ∈ state.1.assemblies, entry.2.Marked ∧
    Collects Event.piece (IsOpenAfter maximumAssemblies maximumBytes) entry.1 events
      entry.2.heldBytes
  /- The open assemblies are of later cycles than what was delivered. -/
  later : ∀ entry ∈ state.1.assemblies, ∀ sequence,
    Keyed.get state.1.deliveredSequences entry.1.target = some sequence →
      sequence.toUInt64 < entry.1.sequence.toUInt64
  last : ∀ input ∈ state.2, ∃ sequence,
    Keyed.get state.1.deliveredSequences input.key.target = some sequence ∧
      input.cycleSequence.toUInt64 ≤ sequence.toUInt64
  increasing : state.2.Pairwise fun earlier input => earlier.key.target = input.key.target →
    earlier.cycleSequence.toUInt64 < input.cycleSequence.toUInt64
  assembled : ∀ input ∈ state.2, Assembled maximumAssemblies maximumBytes events input

variable {maximumAssemblies maximumBytes} {opened next : PdoAssembler} {chunk : PdoChunk}
  {nanoTime : Int64} {assembly copied : Assembly} {events : List Event} {event : Event}
  {state after : PdoAssembler × List PdoInput} {delivered : List PdoInput} {image : PdoInput}

theorem run_append (h : run maximumAssemblies maximumBytes events = .ok state)
    (more : List Event) :
    run maximumAssemblies maximumBytes (events ++ more) = more.foldlM step state := by
  unfold run at h ⊢
  cases hcreate : create maximumAssemblies maximumBytes with
  | error message =>
    rw [hcreate] at h
    cases h
  | ok assembler =>
    rw [hcreate] at h
    change events.foldlM step (assembler, []) = _ at h
    change (events ++ more).foldlM step (assembler, []) = _
    rw [List.foldlM_append, h]
    rfl

theorem run_concat (h : run maximumAssemblies maximumBytes events = .ok state) (event : Event) :
    run maximumAssemblies maximumBytes (events ++ [event]) = step state event := by
  rw [run_append h, List.foldlM_cons]
  exact bind_pure _

theorem exists_of_run_concat
    (h : run maximumAssemblies maximumBytes (events ++ [event]) = .ok after) :
    ∃ state, run maximumAssemblies maximumBytes events = .ok state := by
  unfold run at h ⊢
  cases hcreate : create maximumAssemblies maximumBytes with
  | error message =>
    rw [hcreate] at h
    cases h
  | ok assembler =>
    rw [hcreate] at h
    change (events ++ [event]).foldlM step (assembler, []) = _ at h
    rw [List.foldlM_append] at h
    cases hstate : events.foldlM step (assembler, []) with
    | error message =>
      rw [hstate] at h
      cases h
    | ok state => exact ⟨state, hstate⟩

theorem Assembled.concat (h : Assembled maximumAssemblies maximumBytes events image)
    (event : Event) : Assembled maximumAssemblies maximumBytes (events ++ [event]) image := by
  obtain ⟨before, since, after, rfl, h⟩ := h
  exact ⟨before, since, after ++ [event], by simp only [List.append_assoc], h⟩

namespace Consistent

/-- An entry of another image than the event's has gathered what it had. -/
theorem gathered_of_ne (h : Consistent maximumAssemblies maximumBytes events state)
    {entry : PdoKey × Assembly} (hmem : entry ∈ state.1.assemblies)
    (hother : ∀ c, event.piece ≠ some (entry.1, c)) :
    entry.2.Marked ∧ Collects Event.piece (IsOpenAfter maximumAssemblies maximumBytes) entry.1
      (events ++ [event]) entry.2.heldBytes :=
  ⟨(h.gathered entry hmem).1, (h.gathered entry hmem).2.concat_of_ne
    ⟨state, h.reached, entry, hmem, rfl⟩ hother⟩

/-- The assembly a chunk was copied into has gathered the chunk too. -/
theorem gathered_copy (h : Consistent maximumAssemblies maximumBytes events state)
    (hdecoded : chunk.Decoded)
    (hopen : state.1.openAssembly chunk nanoTime = .ok (assembly, opened))
    (hcopy : assembly.copy chunk.offset.toNat chunk.data = some copied) :
    copied.Marked ∧ copied.data.length = assembly.data.length ∧
      Collects Event.piece (IsOpenAfter maximumAssemblies maximumBytes) chunk.key
        (events ++ [.chunk chunk nanoTime]) copied.heldBytes := by
  obtain ⟨hsize, hfits⟩ := hdecoded.fits
  have hpiece : (Event.chunk chunk nanoTime).piece = some (chunk.key, chunk.piece) := rfl
  rw [Assembly.copy_eq] at hcopy
  rcases openAssembly_eq_ok hopen with ⟨hget, hlength, -⟩ | ⟨hnone, -, -, rfl, -⟩
  · have hmem := (Keyed.get_eq_some_iff h.counted.keys).mp hget
    obtain ⟨hmarked, hcollects⟩ := h.gathered _ hmem
    have hfits' : chunk.piece.offset + chunk.piece.data.length ≤ assembly.data.length := by omega
    obtain ⟨hmarked', hlength', -⟩ := Buffer.copy_eq_some hmarked hfits' hcopy
    exact ⟨hmarked', hlength', Collects.copy hcollects ⟨state, h.reached, _, hmem, rfl⟩ hpiece
      hmarked hfits' hcopy⟩
  · have hmarked := Assembly.marked_new chunk.totalSize nanoTime
    rw [← Assembly.length_new chunk.totalSize nanoTime] at hfits
    obtain ⟨hmarked', hlength', -⟩ := Buffer.copy_eq_some hmarked hfits hcopy
    refine ⟨hmarked', hlength', Collects.copy_new ?_ hpiece
      (Assembly.heldBytes_new chunk.totalSize nanoTime) hmarked hfits hcopy⟩
    rintro ⟨other, hreached, entry, hmem, hkey⟩
    cases h.reached.symm.trans hreached
    exact Keyed.get_eq_none_iff.mp hnone entry hmem hkey

theorem removeIf (h : Consistent maximumAssemblies maximumBytes events state)
    (remove : PdoKey × Assembly → Bool)
    (hreached : run maximumAssemblies maximumBytes (events ++ [event]) =
      .ok (state.1.removeIf remove, state.2))
    (hother : ∀ key c, event.piece ≠ some (key, c)) :
    Consistent maximumAssemblies maximumBytes (events ++ [event])
      (state.1.removeIf remove, state.2) where
  reached := hreached
  counted := h.counted.removeIf remove
  assemblies_limit := h.assemblies_limit
  bytes_limit := h.bytes_limit
  gathered entry hmem := h.gathered_of_ne (List.mem_of_mem_filter hmem) (hother entry.1)
  later entry hmem := h.later entry (List.mem_of_mem_filter hmem)
  last := h.last
  increasing := h.increasing
  assembled input hmem := (h.assembled input hmem).concat event

/-- A chunk that is ignored belongs to no open assembly. -/
theorem ignored (h : Consistent maximumAssemblies maximumBytes events state)
    (hdelivered : state.1.isDelivered chunk = true)
    (hreached : run maximumAssemblies maximumBytes (events ++ [.chunk chunk nanoTime]) = .ok state) :
    Consistent maximumAssemblies maximumBytes (events ++ [.chunk chunk nanoTime]) state where
  reached := hreached
  counted := h.counted
  assemblies_limit := h.assemblies_limit
  bytes_limit := h.bytes_limit
  gathered entry hmem := by
    refine h.gathered_of_ne hmem fun c hpiece => ?_
    obtain ⟨hkey, -⟩ := Prod.mk.inj (Option.some.inj hpiece)
    obtain ⟨sequence, hget, hle⟩ := exists_of_isDelivered hdelivered
    have hlater := h.later entry hmem sequence (hkey ▸ hget)
    rw [← hkey] at hlater
    exact UInt64.not_le.mpr hlater hle
  later := h.later
  last := h.last
  increasing := h.increasing
  assembled input hmem := (h.assembled input hmem).concat _

/-- A chunk is copied, and its assembly stays open. -/
theorem chunk_copied (h : Consistent maximumAssemblies maximumBytes events state)
    (hdecoded : chunk.Decoded) (hnot : state.1.isDelivered chunk = false)
    (hopen : state.1.openAssembly chunk nanoTime = .ok (assembly, opened))
    (hcopy : assembly.copy chunk.offset.toNat chunk.data = some copied)
    (hreached : run maximumAssemblies maximumBytes (events ++ [.chunk chunk nanoTime]) =
      .ok ({ opened with assemblies := Keyed.insert opened.assemblies chunk.key copied },
        state.2)) :
    Consistent maximumAssemblies maximumBytes (events ++ [.chunk chunk nanoTime])
      ({ opened with assemblies := Keyed.insert opened.assemblies chunk.key copied },
        state.2) := by
  obtain ⟨hmarked, hlength, hcollects⟩ := h.gathered_copy hdecoded hopen hcopy
  obtain ⟨hcounted, hget⟩ := h.counted.openAssembly hdecoded.fits.1 hopen
  obtain ⟨hdelivered, hassemblies, hbytes, hothers⟩ := openAssembly_frame hopen
  refine ⟨hreached, hcounted.replace hget hlength, hassemblies.trans h.assemblies_limit,
    hbytes.trans h.bytes_limit, fun entry hmem => ?_, fun entry hmem sequence hsequence => ?_,
    hdelivered ▸ h.last, h.increasing, fun input hmem => (h.assembled input hmem).concat _⟩
  · rcases Keyed.mem_insert.mp hmem with rfl | ⟨hmem, hne⟩
    · exact ⟨hmarked, hcollects⟩
    · exact h.gathered_of_ne (hothers entry hmem hne) fun c hpiece =>
        hne (Prod.mk.inj (Option.some.inj hpiece)).1.symm
  · change Keyed.get opened.deliveredSequences _ = _ at hsequence
    rw [hdelivered] at hsequence
    rcases Keyed.mem_insert.mp hmem with rfl | ⟨hmem, hne⟩
    · exact lt_of_not_isDelivered hnot hsequence
    · exact h.later entry (hothers entry hmem hne) sequence hsequence

/-- A chunk completes its assembly, whose image is delivered. -/
theorem image_delivered (h : Consistent maximumAssemblies maximumBytes events state)
    (hdecoded : chunk.Decoded) (hnot : state.1.isDelivered chunk = false)
    (hopen : state.1.openAssembly chunk nanoTime = .ok (assembly, opened))
    (hcopy : assembly.copy chunk.offset.toNat chunk.data = some copied)
    (hcomplete : copied.present.card = copied.data.length)
    (hdeliver : (image, next) = PdoAssembler.deliver
      { opened with assemblies := Keyed.insert opened.assemblies chunk.key copied } chunk copied)
    (hreached : run maximumAssemblies maximumBytes (events ++ [.chunk chunk nanoTime]) =
      .ok (next, state.2 ++ [image])) :
    Consistent maximumAssemblies maximumBytes (events ++ [.chunk chunk nanoTime])
      (next, state.2 ++ [image]) := by
  obtain ⟨hmarked, hlength, hcollects⟩ := h.gathered_copy hdecoded hopen hcopy
  obtain ⟨hcounted, hget⟩ := h.counted.openAssembly hdecoded.fits.1 hopen
  obtain ⟨hdelivered, hassemblies, hbytes, hothers⟩ := openAssembly_frame hopen
  obtain ⟨himage, hnext⟩ := Prod.mk.inj hdeliver
  have hkey : image.key = chunk.key := by rw [himage]; rfl
  have hsequences : next.deliveredSequences =
      Keyed.insert state.1.deliveredSequences chunk.target chunk.cycleSequence := by
    rw [hnext, ← hdelivered]
    rfl
  have hkept := fun entry (hmem : entry ∈ next.assemblies) =>
    mem_of_mem_deliver (hnext ▸ hmem)
  have hearlier : ∀ input ∈ state.2, input.key.target = chunk.target →
      input.cycleSequence.toUInt64 < chunk.cycleSequence.toUInt64 := by
    intro input hmem htarget
    obtain ⟨sequence, hsequence, hle⟩ := h.last input hmem
    exact UInt64.lt_of_le_of_lt hle (lt_of_not_isDelivered hnot (htarget ▸ hsequence))
  refine ⟨hreached, ?_, ?_, ?_, fun entry hmem => ?_, fun entry hmem sequence hsequence => ?_,
    fun input hmem => ?_, ?_, fun input hmem => ?_⟩
  · rw [hnext]
    exact (hcounted.replace hget hlength).deliver Keyed.get_insert_self
  · exact hnext ▸ hassemblies.trans h.assemblies_limit
  · exact hnext ▸ hbytes.trans h.bytes_limit
  · obtain ⟨hold, hne, -⟩ := hkept entry hmem
    exact h.gathered_of_ne (hothers entry hold hne) fun c hpiece =>
      hne (Prod.mk.inj (Option.some.inj hpiece)).1.symm
  · obtain ⟨hold, hne, hlater⟩ := hkept entry hmem
    change Keyed.get next.deliveredSequences _ = _ at hsequence
    rw [hsequences] at hsequence
    by_cases htarget : entry.1.target = chunk.target
    · rw [htarget, Keyed.get_insert_self, Option.some_inj] at hsequence
      exact hsequence ▸ hlater htarget
    · rw [Keyed.get_insert_of_ne htarget] at hsequence
      exact h.later entry (hothers entry hold hne) sequence hsequence
  · change ∃ sequence, Keyed.get next.deliveredSequences _ = _ ∧ _
    rw [hsequences]
    rcases List.mem_append.mp hmem with hmem | hmem
    · by_cases htarget : input.key.target = chunk.target
      · exact ⟨chunk.cycleSequence, htarget ▸ Keyed.get_insert_self,
          UInt64.le_of_lt (hearlier input hmem htarget)⟩
      · rw [Keyed.get_insert_of_ne htarget]
        exact h.last input hmem
    · rw [List.mem_singleton.mp hmem, hkey]
      refine ⟨chunk.cycleSequence, Keyed.get_insert_self, ?_⟩
      rw [himage]
      exact UInt64.le_refl _
  · refine List.pairwise_append.mpr ⟨h.increasing, List.pairwise_singleton _ _, ?_⟩
    intro input hmem last hlast htarget
    rw [List.mem_singleton.mp hlast, hkey] at htarget
    rw [List.mem_singleton.mp hlast, himage]
    exact hearlier input hmem htarget
  · rcases List.mem_append.mp hmem with hmem | hmem
    · exact (h.assembled input hmem).concat _
    · obtain ⟨before, since, hevents, hlifetime, hgathers⟩ := hcollects
      rw [List.mem_singleton.mp hmem]
      refine ⟨before, since, [], by rw [hevents, List.append_nil], hkey ▸ hlifetime,
        ⟨next, state.2, hevents ▸ hreached⟩, ?_⟩
      rw [hkey, himage]
      exact MadeOf.of_gathers hgathers (hmarked.heldBytes_eq hcomplete)

theorem step (h : Consistent maximumAssemblies maximumBytes events state)
    (hdecoded : ∀ chunk nanoTime, event = .chunk chunk nanoTime → chunk.Decoded)
    (hstep : PdoAssembler.step state event = .ok after) :
    Consistent maximumAssemblies maximumBytes (events ++ [event]) after := by
  have hreached := (run_concat h.reached event).trans hstep
  cases event with
  | expire nanoTime maximumAge =>
    cases hstep
    exact h.removeIf _ hreached nofun
  | chunk chunk nanoTime =>
    have hchunk := hdecoded chunk nanoTime rfl
    unfold PdoAssembler.step at hstep
    dsimp only at hstep
    split at hstep
    · cases hstep
    · rename_i input next haccept
      cases hstep
      rcases accept_eq_ok haccept with ⟨hdelivered, rfl, rfl⟩ |
        ⟨hnot, assembly, opened, copied, hopen, hcopy, ⟨rfl, rfl⟩ | ⟨hcomplete, hdeliver⟩⟩
      · rw [Option.toList_none, List.append_nil] at hreached ⊢
        exact h.ignored hdelivered hreached
      · rw [Option.toList_none, List.append_nil] at hreached ⊢
        exact h.chunk_copied hchunk hnot hopen hcopy hreached
      · obtain ⟨rfl, hnext⟩ := Prod.mk.inj hdeliver
        exact h.image_delivered hchunk hnot hopen hcopy hcomplete (Prod.ext rfl hnext) hreached

end Consistent

/-- The chunks among the events are decoded ones. -/
def Decoded (events : List Event) : Prop :=
  ∀ chunk nanoTime, .chunk chunk nanoTime ∈ events → chunk.Decoded

theorem consistent_run (hdecoded : Decoded events)
    (h : run maximumAssemblies maximumBytes events = .ok state) :
    Consistent maximumAssemblies maximumBytes events state := by
  induction events using List.reverseRecOn generalizing state with
  | nil =>
    have hreached := h
    unfold run create at h
    split_ifs at h with hlimits
    · cases h
    · rw [not_or, not_le, not_le] at hlimits
      cases h
      exact ⟨hreached, ⟨List.nodup_nil, rfl, hlimits.2.le, hlimits.1.le⟩, rfl, rfl, nofun, nofun,
        nofun, List.Pairwise.nil, nofun⟩
  | append_singleton events event ih =>
    obtain ⟨middle, hmiddle⟩ := exists_of_run_concat h
    have hbefore := ih (fun chunk nanoTime hmem => hdecoded chunk nanoTime (by simp [hmem])) hmiddle
    refine hbefore.step (fun chunk nanoTime hevent => hdecoded chunk nanoTime (by simp [hevent])) ?_
    rw [← run_concat hmiddle, h]

end Runs

/-! ### The order of the chunks -/

section Order

variable {assembler : PdoAssembler} {chunk other : PdoChunk} {nanoTime : Int64}
  {assembly : Assembly} {delivered : List PdoInput} {key : PdoKey} {image : Bytes}

/-- The events that bring the chunks. -/
def chunkEvents (chunks : List (PdoChunk × Int64)) : List Event :=
  chunks.map fun chunk => .chunk chunk.1 chunk.2

theorem isDelivered_congr (h : chunk.key = other.key) :
    assembler.isDelivered chunk = assembler.isDelivered other := by
  obtain ⟨hbus, hsubDevice, hepoch, hsequence⟩ := PdoKey.mk.inj h
  simp only [isDelivered, PdoChunk.target, hbus, hsubDevice, hepoch, hsequence]

theorem step_of_isDelivered {state : PdoAssembler × List PdoInput}
    (h : state.1.isDelivered chunk = true) : step state (.chunk chunk nanoTime) = .ok state := by
  simp only [step, accept, if_pos h, Option.toList_none, List.append_nil]

/-- What is delivered is not assembled again. -/
theorem foldlM_of_isDelivered {chunks : List (PdoChunk × Int64)}
    {state : PdoAssembler × List PdoInput} (h : ∀ c ∈ chunks, state.1.isDelivered c.1 = true) :
    (chunkEvents chunks).foldlM step state = .ok state := by
  induction chunks with
  | nil => rfl
  | cons c chunks ih =>
    rw [chunkEvents, List.map_cons, List.foldlM_cons, step_of_isDelivered (h c List.mem_cons_self)]
    exact ih fun other hmem => h other (List.mem_cons_of_mem _ hmem)

theorem covered_nil_iff (hmarked : assembly.Marked)
    (hlength : assembly.data.length = image.length) :
    Covered assembly.heldBytes image.length [] ↔
      assembly.present.card = assembly.data.length := by
  rw [hmarked.complete_iff, hlength]
  refine forall₂_congr fun i _ => ?_
  rw [hmarked.isSome_heldBytes_iff]
  simp

/-- Whatever chunk of the image comes next, it goes to an assembly with these bytes. -/
def Collecting (key : PdoKey) (image : Bytes) (delivered : List PdoInput)
    (held : ℕ → Option UInt8) (state : PdoAssembler × List PdoInput) : Prop :=
  state.2 = delivered ∧ ∀ chunk, chunk.PartOf key image → state.1.isDelivered chunk = false ∧
    ∀ nanoTime, ∃ assembly opened,
      state.1.openAssembly chunk nanoTime = .ok (assembly, opened) ∧ assembly.Marked ∧
        assembly.data.length = image.length ∧ Reassembly.AgreesWith assembly.heldBytes image ∧
        assembly.heldBytes = held

/-- The image has been delivered after `delivered`. -/
def Finished (key : PdoKey) (image : Bytes) (delivered : List PdoInput)
    (state : PdoAssembler × List PdoInput) : Prop :=
  state.2 = delivered ++ [key.input image] ∧
    ∀ chunk, chunk.key = key → state.1.isDelivered chunk = true

/-- One chunk of an image: it is copied, and when the assembly is complete, the image is
delivered. -/
theorem Collecting.step {held : ℕ → Option UInt8} {state : PdoAssembler × List PdoInput}
    (h : Collecting key image delivered held state) (hpart : chunk.PartOf key image)
    (nanoTime : Int64) :
    ∃ held' next, PdoAssembler.step state (.chunk chunk nanoTime) = .ok next ∧
      (∀ i, held' i = (chunk.piece.value i).or (held i)) ∧
      (Covered held' image.length [] ∧ Finished key image delivered next ∨
        ¬Covered held' image.length [] ∧ Collecting key image delivered held' next) := by
  obtain ⟨rfl, hcollecting⟩ := h
  obtain ⟨hnot, hopens⟩ := hcollecting chunk hpart
  obtain ⟨assembly, opened, hopen, hmarked, hlength, hagrees, rfl⟩ := hopens nanoTime
  obtain ⟨copied, hcopy, hmarked', hlength', hagrees', hheld⟩ :=
    Buffer.exists_copy_of_sliceOf (B := Assembly.buffer) hmarked hlength hagrees hpart.slice
  change copied.data.length = image.length at hlength'
  rw [← Assembly.copy_eq] at hcopy
  change assembly.copy chunk.offset.toNat chunk.data = some copied at hcopy
  have hstep : PdoAssembler.step state (.chunk chunk nanoTime) =
      if copied.present.card ≠ copied.data.length then
        .ok ({ opened with assemblies := Keyed.insert opened.assemblies chunk.key copied },
          state.2)
      else .ok (Prod.map id (fun input => state.2 ++ [input]) (Prod.swap
        (PdoAssembler.deliver { opened with
          assemblies := Keyed.insert opened.assemblies chunk.key copied } chunk copied))) := by
    rw [PdoAssembler.step, accept, hnot, if_neg Bool.false_ne_true, hopen]
    dsimp only
    rw [hcopy]
    dsimp only
    split_ifs
    · simp only [Option.toList_none, List.append_nil]
    · rfl
  obtain ⟨hdelivered, -⟩ := openAssembly_frame hopen
  by_cases hcomplete : copied.present.card = copied.data.length
  · rw [if_neg (not_not.mpr hcomplete)] at hstep
    refine ⟨copied.heldBytes, _, hstep, hheld,
      Or.inl ⟨(covered_nil_iff hmarked' hlength').mpr hcomplete, ?_, ?_⟩⟩
    · have hdata : copied.data = image := hagrees'.eq hlength' (hmarked'.heldBytes_eq hcomplete)
      rw [← hpart.key, ← hdata]
      rfl
    · intro other hother
      rw [isDelivered_congr (hother.trans hpart.key.symm), isDelivered]
      change (Keyed.get (Keyed.insert _ chunk.target chunk.cycleSequence) chunk.target).any _ = true
      rw [Keyed.get_insert_self]
      exact decide_eq_true (UInt64.le_refl _)
  · rw [if_pos hcomplete] at hstep
    refine ⟨copied.heldBytes, _, hstep, hheld,
      Or.inr ⟨fun hall => hcomplete ((covered_nil_iff hmarked' hlength').mp hall), rfl, ?_⟩⟩
    intro other hother
    have hsame : other.key = chunk.key := hother.key.trans hpart.key.symm
    constructor
    · rw [isDelivered_congr hsame, ← hnot, isDelivered, isDelivered, ← hdelivered]
    · intro time
      refine ⟨copied, _, openAssembly_of_get_eq_some (hsame ▸ Keyed.get_insert_self) ?_ time,
        hmarked', hlength', hagrees', rfl⟩
      rw [hlength', hother.size]

/-- There is no room for the image. -/
def LimitsExceeded (assembler : PdoAssembler) (image : Bytes) : Prop :=
  assembler.assemblies.length ≥ assembler.maximumAssemblies ∨
    image.length > assembler.maximumBytes - assembler.allocatedBytes

/-- Chunks of an image of which nothing is assembled: without room for it, the first one makes
an exception; otherwise the image is delivered once if they cover it. -/
theorem feed_closed (delivered : List PdoInput) {chunks : List (PdoChunk × Int64)}
    (hparts : ∀ c ∈ chunks, c.1.PartOf key image) (hne : chunks ≠ [])
    (hclosed : Keyed.get assembler.assemblies key = none)
    (hnot : ∀ chunk, chunk.key = key → assembler.isDelivered chunk = false) :
    (assembler.LimitsExceeded image ∧
      (chunkEvents chunks).foldlM step (assembler, delivered) =
        .error "PDO assembly limits exceeded") ∨
    (¬assembler.LimitsExceeded image ∧ ∃ last,
      (chunkEvents chunks).foldlM step (assembler, delivered) = .ok last ∧
        ((∀ i < image.length, ∃ c ∈ chunks, (c.1.piece.value i).isSome) ∧
            last.2 = delivered ++ [key.input image] ∨
          ¬(∀ i < image.length, ∃ c ∈ chunks, (c.1.piece.value i).isSome) ∧
            last.2 = delivered)) := by
  obtain ⟨c, chunks, rfl⟩ := List.exists_cons_of_ne_nil hne
  by_cases hlimits : assembler.LimitsExceeded image
  · have hpart := hparts c List.mem_cons_self
    have hopen : assembler.openAssembly c.1 c.2 = .error "PDO assembly limits exceeded" := by
      rw [openAssembly, hpart.key, hclosed, hpart.size]
      exact if_pos hlimits
    refine Or.inl ⟨hlimits, ?_⟩
    rw [chunkEvents, List.map_cons, List.foldlM_cons, step, accept, hnot c.1 hpart.key,
      if_neg Bool.false_ne_true, hopen]
    rfl
  · have hcollecting : Collecting key image delivered (fun _ => none) (assembler, delivered) := by
      refine ⟨rfl, fun chunk hpart => ⟨hnot chunk hpart.key, fun nanoTime =>
        ⟨_, _, openAssembly_of_get_eq_none (hpart.key ▸ hclosed) (hpart.size ▸ hlimits) nanoTime,
          Assembly.marked_new _ _, ?_, ?_, funext (Assembly.heldBytes_new _ _)⟩⟩⟩
      · rw [Assembly.length_new, hpart.size, Int.toNat_natCast]
      · intro i b hheld
        rw [Assembly.heldBytes_new] at hheld
        cases hheld
    obtain ⟨last, hfeed, hcases⟩ := @foldlM_feed _ _ _ (PdoChunk × Int64)
      (fun state c => step state (.chunk c.1 c.2)) (fun c => c.1.piece)
      (fun c => c.1.PartOf key image) (Collecting key image delivered)
      (Finished key image delivered) image.length
      (fun held state c h hpart => Collecting.step h hpart c.2)
      (fun state c h hpart => step_of_isDelivered (h.2 c.1 hpart.key)) _ _ hcollecting c chunks
      hparts
    refine Or.inr ⟨hlimits, last, ?_, ?_⟩
    · rw [chunkEvents, List.foldlM_map]
      exact hfeed
    · rw [covered_map_iff] at hcases
      rcases hcases with ⟨hcovered, hlast⟩ | ⟨hcovered, held, hlast⟩
      · exact Or.inl ⟨hcovered, hlast.1⟩
      · exact Or.inr ⟨hcovered, hlast.1⟩

/-- The order in which the chunks of an image come does not matter. -/
theorem feed_perm {chunks others : List (PdoChunk × Int64)}
    (hclosed : Keyed.get assembler.assemblies key = none)
    (hperm : (chunks.map Prod.fst).Perm (others.map Prod.fst))
    (hparts : ∀ c ∈ chunks, c.1.PartOf key image) :
    ((chunkEvents chunks).foldlM step (assembler, delivered)).map Prod.snd =
      ((chunkEvents others).foldlM step (assembler, delivered)).map Prod.snd := by
  have hmem : ∀ P : PdoChunk → Prop, (∃ c ∈ chunks, P c.1) ↔ ∃ c ∈ others, P c.1 := by
    intro P
    have hexists := fun chunk => and_congr_left' (c := P chunk) (hperm.mem_iff (a := chunk))
    simpa only [List.mem_map, exists_and_right, exists_exists_and_eq_and] using
      exists_congr hexists
  have hothers : ∀ c ∈ others, c.1.PartOf key image := by
    intro c hc
    by_contra hnot
    obtain ⟨c', hc', hnot'⟩ := (hmem fun chunk => ¬chunk.PartOf key image).mpr ⟨c, hc, hnot⟩
    exact hnot' (hparts c' hc')
  by_cases hne : chunks = []
  · subst hne
    rw [List.map_nil, List.nil_perm, List.map_eq_nil_iff] at hperm
    rw [hperm]
  · have hne' : others ≠ [] := by
      rintro rfl
      rw [List.map_nil, List.perm_nil, List.map_eq_nil_iff] at hperm
      exact hne hperm
    obtain ⟨c, hc⟩ := List.exists_mem_of_ne_nil chunks hne
    have hsame : ∀ chunk : PdoChunk, chunk.key = key →
        assembler.isDelivered chunk = assembler.isDelivered c.1 :=
      fun chunk hkey => isDelivered_congr (hkey.trans (hparts c hc).key.symm)
    cases hdelivered : assembler.isDelivered c.1 with
    | true =>
      rw [foldlM_of_isDelivered fun c' hc' => (hsame c'.1 (hparts c' hc').key).trans hdelivered,
        foldlM_of_isDelivered fun c' hc' => (hsame c'.1 (hothers c' hc').key).trans hdelivered]
    | false =>
      have hnot := fun chunk hkey => (hsame chunk hkey).trans hdelivered
      have hcover : (∀ i < image.length, ∃ c ∈ chunks, (c.1.piece.value i).isSome) ↔
          ∀ i < image.length, ∃ c ∈ others, (c.1.piece.value i).isSome :=
        forall₂_congr fun i _ => hmem fun chunk => (chunk.piece.value i).isSome
      rcases feed_closed delivered hparts hne hclosed hnot,
        feed_closed delivered hothers hne' hclosed hnot with
        ⟨⟨h, hfeed⟩ | ⟨h, last, hfeed, hcases⟩, ⟨h', hfeed'⟩ | ⟨h', last', hfeed', hcases'⟩⟩
      · rw [hfeed, hfeed']
      · exact absurd h h'
      · exact absurd h' h
      · rw [hfeed, hfeed']
        refine congrArg Except.ok ?_
        rw [hcover] at hcases
        rcases hcases with ⟨h, hlast⟩ | ⟨h, hlast⟩ <;>
          rcases hcases' with ⟨h', hlast'⟩ | ⟨h', hlast'⟩
        · exact hlast.trans hlast'.symm
        · exact absurd h h'
        · exact absurd h' h
        · exact hlast.trans hlast'.symm

end Order

/-- A chunk, the expiry of its assembly, and then another image in two chunks. -/
def expiredChunk : List Event :=
  [.chunk ⟨0, 1, 0, 2, 1, 1, [1]⟩ 0, .expire 10 1, .chunk ⟨0, 1, 0, 2, 1, 1, [2]⟩ 11,
    .chunk ⟨0, 1, 1, 2, 1, 1, [3]⟩ 12]

theorem decoded_expiredChunk : Decoded expiredChunk := by
  have hdecode : ∀ input ∈ [(⟨0, 1, 0, 2, 1, 1, [1]⟩ : PdoInputPayload), ⟨0, 1, 0, 2, 1, 1, [2]⟩,
      ⟨0, 1, 1, 2, 1, 1, [3]⟩], (PdoChunk.ofPayload input).Decoded := by
    have hall : [(⟨0, 1, 0, 2, 1, 1, [1]⟩ : PdoInputPayload), ⟨0, 1, 0, 2, 1, 1, [2]⟩,
        ⟨0, 1, 1, 2, 1, 1, [3]⟩].all (fun input => decide (decodePdoChunk
          (encodePdoInputPayload input) 2 = some (.ofPayload input))) = true := by
      decide +kernel
    exact fun input hmem => ⟨_, 2, by decide, of_decide_eq_true (List.all_eq_true.mp hall input hmem)⟩
  intro chunk nanoTime hmem
  simp only [expiredChunk, List.mem_cons, Event.chunk.injEq, List.not_mem_nil, or_false,
    reduceCtorEq, false_or] at hmem
  rcases hmem with ⟨rfl, -⟩ | ⟨rfl, -⟩ | ⟨rfl, -⟩
  · exact hdecode ⟨0, 1, 0, 2, 1, 1, [1]⟩ (by simp)
  · exact hdecode ⟨0, 1, 0, 2, 1, 1, [2]⟩ (by simp)
  · exact hdecode ⟨0, 1, 1, 2, 1, 1, [3]⟩ (by simp)

theorem delivered_expiredChunk :
    ∃ assembler, run 1 2 expiredChunk = .ok (assembler, [⟨0, 1, 1, 1, [2, 3]⟩]) := by
  have hdelivered : (run 1 2 expiredChunk).toOption.map Prod.snd = some [⟨0, 1, 1, 1, [2, 3]⟩] := by
    decide +kernel
  cases hresult : run 1 2 expiredChunk with
  | error message =>
    rw [hresult] at hdelivered
    cases hdelivered
  | ok state =>
    rw [hresult] at hdelivered
    exact ⟨state.1, congrArg _ (Prod.ext rfl (Option.some.inj hdelivered))⟩

/-- The chunk whose assembly expired is one of the image's key, and disagrees with the image. -/
theorem expired_chunk_disagrees :
    Decoded expiredChunk ∧ ∃ state input, run 1 2 expiredChunk = .ok state ∧ input ∈ state.2 ∧
      ¬MadeOf (piecesOf Event.piece input.key expiredChunk) input.data := by
  obtain ⟨assembler, hrun⟩ := delivered_expiredChunk
  refine ⟨decoded_expiredChunk, _, ⟨0, 1, 1, 1, [2, 3]⟩, hrun, List.mem_singleton_self _, ?_⟩
  intro h
  have hvalue := h.agree ⟨0, [1]⟩ (by decide +kernel) 0 1 rfl
  cases hvalue

/-- **The images the Java client delivers.**  Until the first exception, whatever decoded chunks
arrive and whenever assemblies expire: the byte count is exact, the limits are kept, the images
of one SubDevice and epoch come in strictly increasing cycles, and each is made of the chunks of
its key that arrived since its assembly was created, which cover it and agree with each other.
The chunks of an image of which nothing is assembled may come in any order. -/
theorem delivered_images_are_received (maximumAssemblies maximumBytes : ℤ) (events : List Event)
    (hdecoded : Decoded events) (state : PdoAssembler × List PdoInput)
    (h : run maximumAssemblies maximumBytes events = .ok state) :
    state.1.allocatedBytes = storage state.1.assemblies ∧
    state.1.allocatedBytes ≤ maximumBytes ∧
    state.1.assemblies.length ≤ maximumAssemblies ∧
    (state.2.Pairwise fun earlier input => earlier.key.target = input.key.target →
      earlier.cycleSequence.toUInt64 < input.cycleSequence.toUInt64) ∧
    (∀ input ∈ state.2, Assembled maximumAssemblies maximumBytes events input) ∧
    ∀ key image chunks others, ¬IsOpenAfter maximumAssemblies maximumBytes events key →
      (∀ c ∈ chunks, c.1.PartOf key image) →
      (chunks.map Prod.fst).Perm (others.map Prod.fst) →
      (run maximumAssemblies maximumBytes (events ++ chunkEvents chunks)).map Prod.snd =
        (run maximumAssemblies maximumBytes (events ++ chunkEvents others)).map Prod.snd := by
  have hconsistent := consistent_run hdecoded h
  refine ⟨hconsistent.counted.allocated, hconsistent.bytes_limit ▸ hconsistent.counted.bytes_le,
    hconsistent.assemblies_limit ▸ hconsistent.counted.count_le, hconsistent.increasing,
    hconsistent.assembled, fun key image chunks others hclosed hparts hperm => ?_⟩
  rw [run_append h, run_append h]
  refine feed_perm (Keyed.get_eq_none_iff.mpr fun entry hmem hkey => ?_) hperm hparts
  exact hclosed ⟨state, h, entry, hmem, hkey⟩

theorem delivered_images_are_received_expired :
    ∃ assembler, run 1 2 expiredChunk = .ok (assembler, [⟨0, 1, 1, 1, [2, 3]⟩]) ∧
      Assembled 1 2 expiredChunk ⟨0, 1, 1, 1, [2, 3]⟩ := by
  obtain ⟨assembler, hrun⟩ := delivered_expiredChunk
  have hall := delivered_images_are_received 1 2 expiredChunk decoded_expiredChunk _ hrun
  exact ⟨assembler, hrun, hall.2.2.2.2.1 _ (List.mem_singleton_self _)⟩

end PdoAssembler

end EcSystemCore.Java
