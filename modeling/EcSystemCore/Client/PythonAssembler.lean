import Mathlib.Data.Rat.Defs
import Mathlib.Data.List.GetD
import EcSystemCore.Client.PythonCodec
import EcSystemCore.Lib.Checks
import EcSystemCore.Lib.Keyed
import EcSystemCore.Lib.Reassembly

/-!
# The image assembler of the Python client

`SystemCoreConfig` and `_PdoAssembler` of `client.py`.  The configuration bounds the bytes of
assemblies below by the size of one image, but an assembly counts for twice the size of its
image: the chunks of an image are assembled just if twice its size is within the bound
(`chunking_delivered_iff`).

A number that may be a `float` is rational here.  A dictionary is a list of entries with
distinct keys.  The time of reception in a `PdoInput` is left out.
-/

namespace EcSystemCore.Python

open Reassembly

/-! ### The configuration -/

/-- `MAXIMUM_PDO_IMAGE`. -/
def maximumPdoImage : ℤ := 1024 * 1024

/-- `SystemCoreConfig`, without the listener; `socketPath` is what `os.fsencode` makes of the
absolute path. -/
structure SystemCoreConfig where
  socketPath : Bytes
  requestedRole : ClientRole := .observer
  subscribeInputs : Bool := false
  inputPeriodMs : ℤ := 100
  minimumReconnectDelay : ℚ := 1 / 4
  maximumReconnectDelay : ℚ := 5
  requestTimeout : ℚ := 2
  maximumQueuedCommands : ℤ := 128
  maximumOutboundBytes : ℤ := 64 * 1024
  maximumPdoImageBytes : ℤ := maximumPdoImage
  maximumPdoAssemblies : ℤ := 32
  maximumPdoAssemblyBytes : ℤ := 4 * 1024 * 1024
  maximumTrackedBuses : ℤ := 32
  maximumTrackedPdoInputs : ℤ := 256
  deriving DecidableEq

/-- `_bounded`; the bounds are given with the texts they have in the message. -/
def boundedBetween (value minimum maximum : ℚ) (minimumText maximumText fieldName : String) :
    Except String Unit :=
  Checks.check (minimum ≤ value ∧ value ≤ maximum)
    (fieldName ++ " must be between " ++ minimumText ++ " and " ++ maximumText)

/-- `_bounded`, for integers. -/
def bounded (value minimum maximum : ℤ) (fieldName : String) : Except String Unit :=
  boundedBetween value minimum maximum (toString minimum) (toString maximum) fieldName

/-- `__post_init__`; that the role is a `ClientRole` is a matter of the type. -/
def SystemCoreConfig.postInit (config : SystemCoreConfig) : Except String Unit := do
  Checks.check (¬(0 ∈ config.socketPath ∨ config.socketPath.length > 107))
    "socket_path must fit the Linux sockaddr_un path limit"
  bounded config.inputPeriodMs 10 1000 "input_period_ms"
  boundedBetween config.minimumReconnectDelay (1 / 1000) 60 "0.001" "60.0"
    "minimum_reconnect_delay"
  boundedBetween config.maximumReconnectDelay (1 / 1000) 60 "0.001" "60.0"
    "maximum_reconnect_delay"
  Checks.check (¬config.maximumReconnectDelay < config.minimumReconnectDelay)
    "maximum_reconnect_delay must be at least the minimum"
  boundedBetween config.requestTimeout (1 / 100) 30 "0.01" "30.0" "request_timeout"
  bounded config.maximumQueuedCommands 1 4096 "maximum_queued_commands"
  bounded config.maximumOutboundBytes 8192 (1024 * 1024) "maximum_outbound_bytes"
  bounded config.maximumPdoImageBytes 1 maximumPdoImage "maximum_pdo_image_bytes"
  bounded config.maximumPdoAssemblies 1 256 "maximum_pdo_assemblies"
  bounded config.maximumPdoAssemblyBytes config.maximumPdoImageBytes (64 * 1024 * 1024)
    "maximum_pdo_assembly_bytes"
  bounded config.maximumTrackedBuses 1 256 "maximum_tracked_buses"
  bounded config.maximumTrackedPdoInputs 1 4096 "maximum_tracked_pdo_inputs"

/-! ### The assembler -/

/-- The keys of `_delivered`. -/
structure PdoTarget where
  busIndex : ℕ
  subdeviceIndex : ℕ
  epoch : ℕ
  deriving DecidableEq

/-- The keys of `_assemblies`. -/
structure PdoKey where
  target : PdoTarget
  cycleSequence : ℕ
  deriving DecidableEq

def PdoChunk.target (chunk : PdoChunk) : PdoTarget :=
  ⟨chunk.busIndex, chunk.subdeviceIndex, chunk.epoch⟩

def PdoChunk.key (chunk : PdoChunk) : PdoKey := ⟨chunk.target, chunk.cycleSequence⟩

/-- `PdoInput`, without the time of reception. -/
structure PdoInput where
  busIndex : ℕ
  subdeviceIndex : ℕ
  cycleSequence : ℕ
  epoch : ℕ
  data : Bytes
  deriving DecidableEq

/-- The values of `_assemblies`. -/
structure Assembly where
  data : Bytes
  present : Bytes
  presentCount : ℕ
  created : ℚ
  deriving DecidableEq

namespace Assembly

def new (size : ℕ) (now : ℚ) : Assembly := ⟨List.replicate size 0, List.replicate size 0, 0, now⟩

/-- One byte of a chunk; `none` if another value has arrived for its place. -/
def put (assembly : Assembly) (destination : ℕ) (value : UInt8) : Option Assembly :=
  if assembly.present.getD destination 0 ≠ 0 ∧ assembly.data.getD destination 0 ≠ value then none
  else
    let marked := if assembly.present.getD destination 0 = 0 then
        { assembly with
          present := assembly.present.set destination 1
          presentCount := assembly.presentCount + 1 }
      else assembly
    some { marked with data := marked.data.set destination value }

/-- The loop over the bytes of a chunk. -/
def copy (assembly : Assembly) (destination : ℕ) : Bytes → Option Assembly
  | [] => some assembly
  | value :: data => (assembly.put destination value).bind fun assembly =>
    assembly.copy (destination + 1) data

end Assembly

/-- `_PdoAssembler`. -/
structure PdoAssembler where
  maximumAssemblies : ℤ
  maximumBytes : ℤ
  assemblies : List (PdoKey × Assembly) := []
  delivered : List (PdoTarget × ℕ) := []
  allocated : ℤ := 0
  deriving DecidableEq

namespace PdoAssembler

/-- The assembler of a transport with the configuration. -/
def new (config : SystemCoreConfig) : PdoAssembler where
  maximumAssemblies := config.maximumPdoAssemblies
  maximumBytes := config.maximumPdoAssemblyBytes

/-- The assembly of the chunk's image, which is created if there is none. -/
def openAssembly (assembler : PdoAssembler) (chunk : PdoChunk) (now : ℚ) :
    Except String (Assembly × PdoAssembler) :=
  let allocation : ℤ := chunk.totalSize * 2
  match Keyed.get assembler.assemblies chunk.key with
  | none =>
    if assembler.assemblies.length ≥ assembler.maximumAssemblies ∨
        allocation > assembler.maximumBytes - assembler.allocated then
      .error "PDO assembly limits exceeded"
    else
      let assembly := Assembly.new chunk.totalSize now
      .ok (assembly, { assembler with
        assemblies := Keyed.insert assembler.assemblies chunk.key assembly
        allocated := assembler.allocated + allocation })
  | some assembly =>
    if assembly.data.length ≠ chunk.totalSize then .error "PDO chunks disagree on total size"
    else .ok (assembly, assembler)

/-- The end of `accept`, for a complete assembly. -/
def deliver (assembler : PdoAssembler) (chunk : PdoChunk) (assembly : Assembly) :
    PdoInput × PdoAssembler :=
  let allocation : ℤ := chunk.totalSize * 2
  let assemblies := Keyed.erase assembler.assemblies chunk.key
  let isOld : PdoKey × Assembly → Bool := fun entry =>
    entry.1.target = chunk.target ∧ entry.1.cycleSequence ≤ chunk.cycleSequence
  (⟨chunk.busIndex, chunk.subdeviceIndex, chunk.cycleSequence, chunk.epoch, assembly.data⟩,
    { assembler with
      assemblies := assemblies.filter fun entry => !isOld entry
      delivered := Keyed.insert assembler.delivered chunk.target chunk.cycleSequence
      allocated := assembler.allocated - allocation -
        ((assemblies.filter isOld).map fun entry => (entry.2.data.length * 2 : ℤ)).sum })

/-- An image of this or a later cycle has been delivered. -/
def isDelivered (assembler : PdoAssembler) (chunk : PdoChunk) : Bool :=
  (Keyed.get assembler.delivered chunk.target).any fun delivered =>
    chunk.cycleSequence ≤ delivered

/-- `accept`. -/
def accept (assembler : PdoAssembler) (chunk : PdoChunk) (now : ℚ) :
    Except String (Option PdoInput × PdoAssembler) :=
  if assembler.isDelivered chunk then .ok (none, assembler)
  else
    match assembler.openAssembly chunk now with
    | .error message => .error message
    | .ok (assembly, assembler) =>
      match assembly.copy chunk.offset chunk.data with
      | none => .error "overlapping PDO chunks contain different bytes"
      | some assembly =>
        -- the dictionary has a reference to the assembly
        let assembler := { assembler with
          assemblies := Keyed.insert assembler.assemblies chunk.key assembly }
        if assembly.presentCount ≠ assembly.data.length then .ok (none, assembler)
        else
          let (input, assembler) := assembler.deliver chunk assembly
          .ok (some input, assembler)

/-- One chunk, on an assembler and the images it has delivered. -/
def step (state : PdoAssembler × List PdoInput) (chunk : PdoChunk × ℚ) :
    Except String (PdoAssembler × List PdoInput) :=
  match state.1.accept chunk.1 chunk.2 with
  | .error message => .error message
  | .ok (input, assembler) => .ok (assembler, state.2 ++ input.toList)

end PdoAssembler

/-! ### Assemblies as buffers -/

namespace Assembly

variable {assembly next : Assembly} {destination : ℕ} {value : UInt8}

/-- The bytes that have arrived at their places. -/
def heldBytes (assembly : Assembly) : ℕ → Option UInt8 :=
  held assembly.data fun i => assembly.present.getD i 0 ≠ 0

/-- The marks are those of the data field, and `presentCount` counts them. -/
structure Marked (assembly : Assembly) : Prop where
  length : assembly.present.length = assembly.data.length
  count : assembly.presentCount = assembly.present.countP (· ≠ 0)

theorem put_heldBytes (hmarked : assembly.Marked) (hplace : destination < assembly.data.length)
    (h : assembly.put destination value = some next) :
    next.Marked ∧ next.data.length = assembly.data.length ∧
      next.heldBytes = Function.update assembly.heldBytes destination (some value) ∧
      ∀ held, assembly.heldBytes destination = some held → held = value := by
  have hpresent : destination < assembly.present.length := hmarked.length ▸ hplace
  have hheld : assembly.heldBytes destination =
      if assembly.present[destination] ≠ 0 then some assembly.data[destination] else none := by
    rw [heldBytes, held, List.getElem?_eq_getElem hplace, List.getD_eq_getElem _ _ hpresent]
  unfold put at h
  rw [List.getD_eq_getElem _ _ hpresent, List.getD_eq_getElem _ _ hplace] at h
  split_ifs at h with hconflict habsent <;> cases h
  · refine ⟨⟨by simp [hmarked.length], ?_⟩, by simp, ?_, fun held hvalue => ?_⟩
    · change assembly.presentCount + 1 = _
      rw [List.countP_set hpresent, hmarked.count]
      simp [habsent]
    · refine held_set hplace value fun j => ?_
      change (assembly.present.set destination 1).getD j 0 ≠ 0 ↔ _
      by_cases hj : j = destination
      · subst hj
        simp [List.getElem?_set_self hpresent]
      · simp [List.getElem?_set_ne (Ne.symm hj), hj]
    · rw [hheld, if_neg (not_not.mpr habsent)] at hvalue
      cases hvalue
  · refine ⟨⟨by simp [hmarked.length], hmarked.count⟩, by simp, ?_, fun held hvalue => ?_⟩
    · refine held_set hplace value fun j => ?_
      by_cases hj : j = destination
      · subst hj
        exact iff_of_true ((List.getD_eq_getElem _ _ hpresent).trans_ne habsent) (Or.inl rfl)
      · exact (or_iff_right hj).symm
    · rw [hheld, if_pos habsent, Option.some_inj] at hvalue
      exact hvalue ▸ not_not.mp fun hne => hconflict ⟨habsent, hne⟩

theorem exists_of_put_eq_none (hplace : destination < assembly.data.length)
    (h : assembly.put destination value = none) :
    ∃ held, assembly.heldBytes destination = some held ∧ held ≠ value := by
  unfold put at h
  split_ifs at h with hconflict
  rw [List.getD_eq_getElem _ _ hplace] at hconflict
  refine ⟨assembly.data[destination], ?_, hconflict.2⟩
  exact (if_pos hconflict.1).trans (List.getElem?_eq_getElem hplace)

def buffer : Buffer Assembly UInt8 where
  Valid := Marked
  size assembly := assembly.data.length
  held := heldBytes
  put := put
  put_eq_none _ hplace h := exists_of_put_eq_none hplace h
  put_eq_some hmarked hplace h := put_heldBytes hmarked hplace h

theorem copy_eq (assembly : Assembly) (destination : ℕ) (data : Bytes) :
    assembly.copy destination data = buffer.copy assembly destination data := by
  induction data generalizing assembly destination with
  | nil => rfl
  | cons value data ih =>
    rw [copy, Buffer.copy]
    exact congrArg _ (funext fun next => ih next (destination + 1))

theorem marked_new (size : ℕ) (now : ℚ) : (new size now).Marked where
  length := by simp [new]
  count := by simp [new, List.countP_replicate]

theorem heldBytes_new (size : ℕ) (now : ℚ) (i : ℕ) : (new size now).heldBytes i = none := by
  have habsent : (new size now).present.getD i 0 = 0 := by
    simp only [new, List.getD_eq_getElem?_getD, List.getElem?_replicate]
    split_ifs <;> rfl
  exact if_neg (not_not.mpr habsent)

/-- All places are held when there are as many marks as places. -/
theorem Marked.complete_iff (h : assembly.Marked) :
    assembly.presentCount = assembly.data.length ↔
      Covered assembly.heldBytes assembly.data.length [] := by
  rw [h.count, ← h.length, List.countP_eq_length, List.forall_mem_iff_getElem]
  refine forall₂_congr fun i hi => ?_
  have hdata : i < assembly.data.length := h.length ▸ hi
  simp [heldBytes, held, List.getElem?_eq_getElem hi, List.getElem?_eq_getElem hdata]

end Assembly

/-! ### Chunks of one image -/

/-- The piece of the image. -/
def PdoChunk.piece (chunk : PdoChunk) : Chunk UInt8 := ⟨chunk.offset, chunk.data⟩

/-- The chunk is a part of the image with the key. -/
structure PdoChunk.PartOf (chunk : PdoChunk) (key : PdoKey) (image : Bytes) : Prop where
  key : chunk.key = key
  size : chunk.totalSize = image.length
  slice : chunk.piece.SliceOf image

/-- The input of an image. -/
def PdoKey.input (key : PdoKey) (image : Bytes) : PdoInput :=
  ⟨key.target.busIndex, key.target.subdeviceIndex, key.cycleSequence, key.target.epoch, image⟩

/-- The image cut into chunks, in any order; they may overlap. -/
structure Chunking (key : PdoKey) (image : Bytes) (chunks : List (PdoChunk × ℚ)) : Prop where
  nonempty : chunks ≠ []
  parts : ∀ c ∈ chunks, c.1.PartOf key image
  covers : ∀ i < image.length, ∃ c ∈ chunks, (c.1.piece.value i).isSome

namespace PdoAssembler

variable {assembler opened : PdoAssembler} {chunk other : PdoChunk} {now : ℚ}
  {assembly : Assembly} {key : PdoKey} {image : Bytes} {state : PdoAssembler × List PdoInput}

theorem isDelivered_congr (h : chunk.key = other.key) :
    assembler.isDelivered chunk = assembler.isDelivered other := by
  obtain ⟨htarget, hsequence⟩ := PdoKey.mk.inj h
  simp only [isDelivered, htarget, hsequence]

theorem step_of_isDelivered (h : state.1.isDelivered chunk = true) :
    step state (chunk, now) = .ok state := by
  simp only [step, accept, if_pos h, Option.toList_none, List.append_nil]

theorem openAssembly_of_get_eq_some
    (hget : Keyed.get assembler.assemblies chunk.key = some assembly)
    (hsize : assembly.data.length = chunk.totalSize) (now : ℚ) :
    assembler.openAssembly chunk now = .ok (assembly, assembler) := by
  rw [openAssembly, hget]
  exact if_neg (not_not.mpr hsize)

theorem openAssembly_delivered (h : assembler.openAssembly chunk now = .ok (assembly, opened)) :
    opened.delivered = assembler.delivered := by
  unfold openAssembly at h
  dsimp only at h
  split at h <;> split_ifs at h <;> cases h <;> rfl

/-- Whatever chunk of the image comes next, it goes to an assembly with these bytes. -/
def Collecting (key : PdoKey) (image : Bytes) (held : ℕ → Option UInt8)
    (state : PdoAssembler × List PdoInput) : Prop :=
  state.2 = [] ∧ ∀ chunk, chunk.PartOf key image → state.1.isDelivered chunk = false ∧
    ∀ now, ∃ assembly opened, state.1.openAssembly chunk now = .ok (assembly, opened) ∧
      assembly.Marked ∧ assembly.data.length = image.length ∧
      Reassembly.AgreesWith assembly.heldBytes image ∧ assembly.heldBytes = held

/-- The image has been delivered, and nothing else. -/
def Finished (key : PdoKey) (image : Bytes) (state : PdoAssembler × List PdoInput) : Prop :=
  state.2 = [key.input image] ∧ ∀ chunk, chunk.key = key → state.1.isDelivered chunk = true

/-- One chunk of an image: it is copied, and when the assembly is complete, the image is
delivered. -/
theorem Collecting.step {held : ℕ → Option UInt8} (h : Collecting key image held state)
    (hpart : chunk.PartOf key image) (now : ℚ) :
    ∃ held' next, PdoAssembler.step state (chunk, now) = .ok next ∧
      (∀ i, held' i = (chunk.piece.value i).or (held i)) ∧
      (Covered held' image.length [] ∧ Finished key image next ∨
        ¬Covered held' image.length [] ∧ Collecting key image held' next) := by
  obtain ⟨hnone, hcollecting⟩ := h
  obtain ⟨hnot, hopens⟩ := hcollecting chunk hpart
  obtain ⟨assembly, opened, hopen, hmarked, hlength, hagrees, rfl⟩ := hopens now
  obtain ⟨copied, hcopy, hmarked', hlength', hagrees', hheld⟩ :=
    Buffer.exists_copy_of_sliceOf (B := Assembly.buffer) hmarked hlength hagrees hpart.slice
  change copied.data.length = image.length at hlength'
  change copied.Marked at hmarked'
  rw [← Assembly.copy_eq] at hcopy
  change assembly.copy chunk.offset chunk.data = some copied at hcopy
  have hstep : PdoAssembler.step state (chunk, now) =
      if copied.presentCount ≠ copied.data.length then
        .ok ({ opened with assemblies := Keyed.insert opened.assemblies chunk.key copied }, [])
      else .ok (Prod.map id (fun input => [input]) (Prod.swap (PdoAssembler.deliver { opened with
        assemblies := Keyed.insert opened.assemblies chunk.key copied } chunk copied))) := by
    rw [PdoAssembler.step, accept, hnot, if_neg Bool.false_ne_true, hopen, hnone]
    dsimp only
    rw [hcopy]
    dsimp only
    split_ifs <;> rfl
  have hcomplete := hmarked'.complete_iff
  rw [hlength'] at hcomplete
  by_cases hcount : copied.presentCount = copied.data.length
  · rw [if_neg (not_not.mpr hcount)] at hstep
    refine ⟨copied.heldBytes, _, hstep, hheld,
      Or.inl ⟨hcomplete.mp (hcount.trans hlength'), ?_, ?_⟩⟩
    · have hdata : copied.data = image := by
        have hall : Covered copied.heldBytes copied.data.length [] :=
          hmarked'.complete_iff.mp hcount
        exact hagrees'.eq hlength' hall.held_eq
      rw [← hpart.key, ← hdata]
      rfl
    · intro other hother
      rw [isDelivered_congr (hother.trans hpart.key.symm), isDelivered]
      change (Keyed.get (Keyed.insert _ chunk.target chunk.cycleSequence) chunk.target).any _ = true
      rw [Keyed.get_insert_self]
      exact decide_eq_true (Nat.le_refl _)
  · rw [if_pos hcount] at hstep
    refine ⟨copied.heldBytes, _, hstep, hheld,
      Or.inr ⟨fun hall => hcount ((hcomplete.mpr hall).trans hlength'.symm), rfl, ?_⟩⟩
    intro other hother
    have hsame : other.key = chunk.key := hother.key.trans hpart.key.symm
    constructor
    · rw [isDelivered_congr hsame, ← hnot, isDelivered, isDelivered, ← openAssembly_delivered hopen]
    · intro time
      refine ⟨copied, _, openAssembly_of_get_eq_some (hsame ▸ Keyed.get_insert_self) ?_ time,
        hmarked', hlength', hagrees', rfl⟩
      rw [hlength', hother.size]

end PdoAssembler

/-! ### The bound -/

/-- A configuration that is accepted allows one assembly. -/
theorem SystemCoreConfig.one_le_maximumPdoAssemblies {config : SystemCoreConfig}
    (h : config.postInit = .ok ()) : 1 ≤ config.maximumPdoAssemblies := by
  simp only [postInit, bounded, boundedBetween, Checks.check_bind_eq_ok_iff] at h
  obtain ⟨-, -, -, -, -, -, -, -, -, hassemblies, -⟩ := h
  exact_mod_cast hassemblies.1

open PdoAssembler in
/-- **Any chunking of an image is assembled**, with every accepted configuration and in any
order, just if twice the size of the image is within the bound for assemblies. -/
theorem chunking_delivered_iff (config : SystemCoreConfig) (hconfig : config.postInit = .ok ())
    (key : PdoKey) (image : Bytes) (chunks : List (PdoChunk × ℚ))
    (hchunks : Chunking key image chunks) :
    (chunks.foldlM step (PdoAssembler.new config, [])).map Prod.snd = .ok [key.input image] ↔
      2 * (image.length : ℤ) ≤ config.maximumPdoAssemblyBytes := by
  obtain ⟨c, chunks, rfl⟩ := List.exists_cons_of_ne_nil hchunks.nonempty
  have hassemblies := config.one_le_maximumPdoAssemblies hconfig
  have hlimits : ∀ chunk : PdoChunk, chunk.PartOf key image →
      (((0 : ℕ) : ℤ) ≥ config.maximumPdoAssemblies ∨
        (chunk.totalSize * 2 : ℤ) > config.maximumPdoAssemblyBytes - 0 ↔
        ¬2 * (image.length : ℤ) ≤ config.maximumPdoAssemblyBytes) := by
    intro chunk hpart
    rw [hpart.size]
    omega
  by_cases hbound : 2 * (image.length : ℤ) ≤ config.maximumPdoAssemblyBytes
  · refine iff_of_true ?_ hbound
    have hcollecting : Collecting key image (fun _ => none) (PdoAssembler.new config, []) := by
      refine ⟨rfl, fun chunk hpart => ⟨rfl, fun now => ⟨.new chunk.totalSize now, _,
        if_neg (fun h => (hlimits chunk hpart).mp h hbound), Assembly.marked_new _ _, ?_, ?_,
        funext (Assembly.heldBytes_new _ _)⟩⟩⟩
      · rw [← hpart.size]
        exact List.length_replicate
      · intro i b hheld
        rw [Assembly.heldBytes_new] at hheld
        cases hheld
    obtain ⟨last, hfeed, ⟨-, hlast⟩ | ⟨hnot, -⟩⟩ := @foldlM_feed _ _ _ (PdoChunk × ℚ) step
      (fun c => c.1.piece) (fun c => c.1.PartOf key image) (Collecting key image)
      (Finished key image) image.length (fun held state c h hpart => Collecting.step h hpart c.2)
      (fun state c h hpart => step_of_isDelivered (h.2 c.1 hpart.key)) _ _ hcollecting c chunks
      hchunks.parts
    · rw [hfeed]
      exact congrArg Except.ok hlast.1
    · exact absurd (covered_map_iff.mpr hchunks.covers) hnot
  · refine iff_of_false (fun h => ?_) hbound
    have hpart := hchunks.parts c List.mem_cons_self
    have hopen : (PdoAssembler.new config).openAssembly c.1 c.2 =
        .error "PDO assembly limits exceeded" := if_pos ((hlimits c.1 hpart).mpr hbound)
    have hnot : (PdoAssembler.new config).isDelivered c.1 = false := rfl
    rw [List.foldlM_cons, step, accept, hnot, if_neg Bool.false_ne_true, hopen] at h
    cases h

/-- Images of one byte, and a small bound for assemblies. -/
def tightConfig (maximumPdoAssemblyBytes : ℤ) : SystemCoreConfig where
  socketPath := [47, 115]
  maximumPdoImageBytes := 1
  maximumPdoAssemblyBytes := maximumPdoAssemblyBytes

def tightKey : PdoKey := ⟨⟨0, 1, 1⟩, 1⟩

def tightChunk : PdoChunk := ⟨0, 1, 0, 1, 1, 1, [7]⟩

theorem postInit_tightConfig :
    (tightConfig 1).postInit = .ok () ∧ (tightConfig 2).postInit = .ok () := by
  decide +kernel

theorem chunking_tightChunk : Chunking tightKey [7] [(tightChunk, 0)] where
  nonempty := List.cons_ne_nil _ _
  parts c hmem := by
    rw [List.mem_singleton.mp hmem]
    refine ⟨rfl, rfl, Nat.le_refl _, fun i b hvalue => ?_⟩
    simpa [PdoChunk.piece, tightChunk, Chunk.value] using hvalue
  covers i hi := by
    rw [Nat.lt_one_iff.mp hi]
    exact ⟨_, List.mem_singleton_self _, rfl⟩

/-- An image of the accepted size is refused at its first chunk. -/
theorem tight_image_refused :
    (tightConfig 1).postInit = .ok () ∧
      (([7] : Bytes).length : ℤ) ≤ (tightConfig 1).maximumPdoImageBytes ∧
      Chunking tightKey [7] [(tightChunk, 0)] ∧
      ([(tightChunk, 0)].foldlM PdoAssembler.step (PdoAssembler.new (tightConfig 1), [])).map
        Prod.snd = .error "PDO assembly limits exceeded" :=
  ⟨postInit_tightConfig.1, by decide, chunking_tightChunk, rfl⟩

theorem chunking_delivered_iff_one_byte :
    ([(tightChunk, 0)].foldlM PdoAssembler.step (PdoAssembler.new (tightConfig 2), [])).map
      Prod.snd = .ok [tightKey.input [7]] :=
  (chunking_delivered_iff (tightConfig 2) postInit_tightConfig.2 tightKey [7] [(tightChunk, 0)]
    chunking_tightChunk).mpr (by decide)

end EcSystemCore.Python
