import EcSystemCore.Bus.SafetyCalls
import EcSystemCore.Lib.Checks
import EcSystemCore.Lib.Execution

/-!
# Output geometry, published and checked again

`ValidateOutput` runs on the daemon thread and knows a SubDevice's output image
only from the tables that `ValidateTopology` filled; `ApplyOutputCommands` runs on
the worker and asks SOEM's own records.  `OutputTables` are those tables, and the
machine here carries them along with the worker through every `CloseContext` and
`Initialize`.  `Geometry` is the invariant that ties them to the topology in use,
and `validated_output_is_written` says that the two checks agree.

Nothing is assumed about what the daemon thread does in between: its calls may
make any of their accesses at any time.
-/

namespace EcSystemCore

open BitField Execution Checks

/-- `subDeviceCount_`, `outputSizes_` and `outputBits_`. -/
structure OutputTables where
  count : ℕ := 0
  sizes : ℕ → ℕ := fun _ => 0
  bits : ℕ → ℕ := fun _ => 0

/-- No expected SubDevices, but an unverified topology is allowed. -/
def InterfaceConfig.inputOnly (interface : InterfaceConfig) : Bool :=
  interface.expectedSubDevices.isEmpty && interface.allowUnverifiedTopology

namespace OutputTables

/-- What `ValidateTopology` stores for SubDevice `index`. -/
def publish (interface : InterfaceConfig) (index : ℕ) (actual : SubDevice)
    (tables : OutputTables) : OutputTables :=
  { tables with
    sizes := Function.update tables.sizes index
      (if interface.inputOnly then 0 else pdoImageByteLength actual.obits)
    bits := Function.update tables.bits index
      (if interface.inputOnly then 0 else actual.obits) }

/-- The stores of the loop of `ValidateTopology`.  They precede the comparison with
the expected SubDevice, so a SubDevice that does not match is still published. -/
def publishAll (interface : InterfaceConfig) : ℕ → List SubDevice → OutputTables → OutputTables
  | _, [], tables => tables
  | index, actual :: rest, tables =>
    if validateGeometry index actual ≠ .ok () then tables
    else if !interface.expectedSubDevices.isEmpty &&
        validateExpected index actual (interface.expectedSubDevices.getD (index - 1) {}) ≠
          .ok () then
      tables.publish interface index actual
    else publishAll interface (index + 1) rest (tables.publish interface index actual)

/-- The tables `Initialize` leaves after `ValidateTopology`, if it gets that far. -/
def ofReport (interface : InterfaceConfig) (report : SoemReport) : OutputTables :=
  let devices := report.topology.devices
  if !report.opened || report.discovered ≤ 0 || devices.length = 0 ||
      ecMaxSlave ≤ devices.length || report.mapped < 0 ||
      report.mapped > interface.maximumIoMapBytes ||
      report.mapped > absoluteIoMapAllocationSize then {}
  else if !interface.expectedSubDevices.isEmpty &&
      interface.expectedSubDevices.length ≠ devices.length then {}
  else publishAll interface 1 devices {}

/-- The tables after a step of the worker. -/
def afterStep (config : BusConfig) (env : Env) (bus : Bus) (tables : OutputTables) :
    OutputTables :=
  match bus.pc with
  | .close .storeTopology _ => {}
  | .init .configure => { ofReport config.interface env.report with count := tables.count }
  | .init .storeOperational => { tables with count := bus.topology.devices.length }
  | _ => tables

end OutputTables

/-- `ValidateOutput`.  A call is taken at one moment: its loads see the tables of one
initialization. -/
def validateOutput (state : BusState) (tables : OutputTables) (subDevice : UInt16)
    (offset : UInt32) (image : Bytes) : AckStatus :=
  if state ≠ .operational then .disabled
  else if subDevice = 0 || tables.count < subDevice.toNat || ecMaxSlave ≤ subDevice.toNat then
    .badTarget
  else
    let status := validateWholeOutputWrite (tables.sizes subDevice.toNat) offset.toNat image.length
    if status ≠ .ok then status
    else if hasCanonicalPdoPadding (tables.bits subDevice.toNat) image then .ok
    else .malformed

/-- A SubDevice is the one the configuration expects: vendor, product, the
revision if one is given, and the exact image sizes.  A size may be left out only
for a direction without process data. -/
structure Matches (actual : SubDevice) (expected : ExpectedSubDevice) : Prop where
  vendor : actual.eepMan = expected.vendorId
  product : actual.eepId = expected.productCode
  revision : ∀ revision, expected.revision = some revision → actual.eepRev = revision
  outputBytes : pdoImageByteLength actual.obits = (expected.outputBytes.map UInt32.toNat).getD 0
  inputBytes : pdoImageByteLength actual.ibits = (expected.inputBytes.map UInt32.toNat).getD 0

/-! ### What `ValidateTopology` establishes -/

section Validation

variable {interface : InterfaceConfig} {devices : List SubDevice} {index : ℕ}

theorem matches_of_validateExpected {actual : SubDevice} {expected : ExpectedSubDevice}
    (h : validateExpected index actual expected = .ok ()) : Matches actual expected := by
  have hsize : ∀ {bytes : ℕ} {size : Option UInt32}, ¬(bytes ≠ 0 ∧ size = none) →
      (∀ n, size = some n → bytes = n.toNat) → bytes = (size.map UInt32.toNat).getD 0 := by
    intro bytes size hmissing hgiven
    cases size with
    | none => simpa using hmissing
    | some n => exact hgiven n rfl
  unfold validateExpected at h
  dsimp only at h
  split at h
  · cases h
  · rename_i hmissing
    split at h
    · cases h
    · rename_i hequal
      simp only [Bool.or_eq_true, Bool.and_eq_true, decide_eq_true_eq, ne_eq, not_or,
        Option.isNone_iff_eq_none, Option.any_eq_true, not_exists, not_and, not_not]
        at hmissing hequal
      obtain ⟨⟨⟨⟨hvendor, hproduct⟩, hrevision⟩, houtput⟩, hinput⟩ := hequal
      exact ⟨hvendor, hproduct, hrevision, hsize (by tauto) houtput, hsize (by tauto) hinput⟩

theorem validateGeometry_eq_ok {actual : SubDevice} (h : validateGeometry index actual = .ok ()) :
    isValidSoemPdoMetadata actual.obits actual.obytes actual.ostartbit = true ∧
      pdoImageByteLength actual.obits ≤ kMaximumOutputWrite ∧
      pointerRangeInIoMap actual.outputs actual.mappedBytes = true := by
  unfold validateGeometry at h
  split_ifs at h with hmetadata hsize hpointer
  simp only [Bool.or_eq_true, Bool.not_eq_true', not_or, Bool.not_eq_false] at hmetadata hpointer
  exact ⟨hmetadata.1, Nat.not_lt.mp hsize, hpointer.1⟩

/-- The loop's verdict on each SubDevice. -/
theorem validateSubDevices_eq_ok {expected : List ExpectedSubDevice} :
    validateSubDevices expected index devices = .ok () ↔
      ∀ i actual, devices[i]? = some actual →
        validateGeometry (index + i) actual = .ok () ∧
          (expected ≠ [] →
            validateExpected (index + i) actual (expected.getD (index + i - 1) {}) = .ok ()) := by
  induction devices generalizing index with
  | nil => simp [validateSubDevices]
  | cons first rest ih =>
    have hunfold : validateSubDevices expected index (first :: rest) = .ok () ↔
        validateGeometry index first = .ok () ∧
          (expected ≠ [] →
            validateExpected index first (expected.getD (index - 1) {}) = .ok ()) ∧
          validateSubDevices expected (index + 1) rest = .ok () := by
      have hunit : ∀ x : Except Bytes Unit, (∃ value, x = .ok value) ↔ x = .ok () :=
        fun x => ⟨fun ⟨(), hx⟩ => hx, fun hx => ⟨(), hx⟩⟩
      cases expected <;> simp [validateSubDevices, bind_eq_ok_iff, hunit]
    rw [hunfold, ih]
    constructor
    · rintro ⟨hgeometry, hexpected, hrest⟩ i actual hactual
      cases i with
      | zero =>
        obtain rfl := Option.some.inj hactual
        exact ⟨hgeometry, hexpected⟩
      | succ i =>
        have := hrest i actual hactual
        rwa [show index + 1 + i = index + (i + 1) by omega] at this
    · intro hall
      obtain ⟨hgeometry, hexpected⟩ := hall 0 first rfl
      refine ⟨hgeometry, hexpected, fun i actual hactual => ?_⟩
      have := hall (i + 1) actual hactual
      rwa [show index + (i + 1) = index + 1 + i by omega] at this

/-- What an accepted topology satisfies. -/
structure Accepted (interface : InterfaceConfig) (devices : List SubDevice) : Prop where
  count : interface.expectedSubDevices ≠ [] →
    interface.expectedSubDevices.length = devices.length
  validated : validateSubDevices interface.expectedSubDevices 1 devices = .ok ()
  /-- Without expected SubDevices there are outputs only in an input-only bus. -/
  unverified : interface.expectedSubDevices = [] → interface.allowUnverifiedTopology = false →
    ∀ actual ∈ devices, pdoImageByteLength actual.obits = 0

theorem accepted_of_validateTopology {verified : Bool}
    (h : validateTopology interface devices = .ok verified) : Accepted interface devices := by
  unfold validateTopology at h
  dsimp only at h
  split at h
  · cases h
  · rename_i hcount
    obtain ⟨⟨⟩, hvalidated, h⟩ := bind_eq_ok_iff.mp h
    split at h
    · cases h
    · rename_i hcapable
      refine ⟨fun hne => ?_, hvalidated, fun hempty hdenied actual hmem => ?_⟩
      · simpa [List.isEmpty_iff, hne] using hcount
      · simp only [hempty, hdenied, List.isEmpty_nil, Bool.and_true, Bool.not_false,
          List.any_eq_true, decide_eq_true_eq, not_exists, not_and, ne_eq, not_not] at hcapable
        exact hcapable actual hmem

theorem accepted_of_acceptTopology {report : SoemReport} {verified : Bool}
    (h : acceptTopology interface report = some verified) :
    Accepted interface report.topology.devices ∧
      report.topology.devices.length < ecMaxSlave ∧
      OutputTables.ofReport interface report =
        OutputTables.publishAll interface 1 report.topology.devices {} := by
  unfold acceptTopology at h
  dsimp only at h
  split_ifs at h with hopened hdiscovered hmapped
  have haccepted : Accepted interface report.topology.devices := by
    cases hvalid : validateTopology interface report.topology.devices with
    | error message => simp [hvalid, Except.toOption] at h
    | ok verdict => exact accepted_of_validateTopology hvalid
  have hcount : ¬((!interface.expectedSubDevices.isEmpty &&
      interface.expectedSubDevices.length ≠ report.topology.devices.length) = true) := by
    intro hcount
    simp only [Bool.and_eq_true, Bool.not_eq_true', List.isEmpty_eq_false_iff,
      decide_eq_true_eq] at hcount
    exact hcount.2 (haccepted.count hcount.1)
  refine ⟨haccepted, ?_, ?_⟩
  · simp only [Bool.or_eq_true, decide_eq_true_eq, not_or, Nat.not_le] at hdiscovered
    exact hdiscovered.2
  · unfold OutputTables.ofReport
    rw [if_neg, if_neg hcount]
    simp_all

/-- The loop publishes every SubDevice of a topology it accepts. -/
theorem publishAll_of_validated
    (h : validateSubDevices interface.expectedSubDevices index devices = .ok ())
    (tables : OutputTables) :
    (∀ i actual, devices[i]? = some actual →
      (OutputTables.publishAll interface index devices tables).sizes (index + i) =
          (if interface.inputOnly then 0 else pdoImageByteLength actual.obits) ∧
        (OutputTables.publishAll interface index devices tables).bits (index + i) =
          if interface.inputOnly then 0 else actual.obits) ∧
      ∀ j, j < index →
        (OutputTables.publishAll interface index devices tables).sizes j = tables.sizes j ∧
          (OutputTables.publishAll interface index devices tables).bits j = tables.bits j := by
  induction devices generalizing index tables with
  | nil => simp [OutputTables.publishAll]
  | cons first rest ih =>
    have hall := validateSubDevices_eq_ok.mp h
    obtain ⟨hgeometry, hexpected⟩ := hall 0 first rfl
    have hrest : validateSubDevices interface.expectedSubDevices (index + 1) rest = .ok () := by
      refine validateSubDevices_eq_ok.mpr fun i actual hactual => ?_
      have := hall (i + 1) actual hactual
      rwa [show index + (i + 1) = index + 1 + i by omega] at this
    have hunfold : OutputTables.publishAll interface index (first :: rest) tables =
        OutputTables.publishAll interface (index + 1) rest
          (tables.publish interface index first) := by
      rw [OutputTables.publishAll, if_neg (by simpa using hgeometry), if_neg]
      simp only [Bool.and_eq_true, Bool.not_eq_true', List.isEmpty_eq_false_iff,
        decide_eq_true_eq, not_and, not_not]
      exact hexpected
    obtain ⟨hlater, hearlier⟩ := ih hrest (tables.publish interface index first)
    rw [hunfold]
    refine ⟨fun i actual hactual => ?_, fun j hj => ?_⟩
    · cases i with
      | zero =>
        obtain rfl := Option.some.inj hactual
        obtain ⟨hsizes, hbits⟩ := hearlier index (Nat.lt_succ_self _)
        exact ⟨hsizes.trans (by simp [OutputTables.publish]),
          hbits.trans (by simp [OutputTables.publish])⟩
      | succ i =>
        have := hlater i actual hactual
        rwa [show index + 1 + i = index + (i + 1) by omega] at this
    · obtain ⟨hsizes, hbits⟩ := hearlier j (by omega)
      have hne : j ≠ index := by omega
      rw [hsizes, hbits]
      simp [OutputTables.publish, hne]

end Validation

/-! ### The tables along a run -/

namespace OutputGeometry

/-- A bus, `globalFaultedEpoch_`, and the bus's tables. -/
structure State where
  bus : Bus := {}
  latch : UInt64 := 0
  tables : OutputTables := {}

/-- Who moves: the worker, a call of the daemon thread, or another bus's worker that
writes `globalFaultedEpoch_`. -/
inductive Label where
  | worker (env : Env)
  | call (pc : CallPc)
  | latch (epoch : UInt64)

/-- One step of the system. -/
def step (config : BusConfig) (s : State) : Label → Option State
  | .worker env => (s.bus.step config s.latch env).map fun outcome =>
    ⟨outcome.bus, outcome.latch, s.tables.afterStep config env s.bus⟩
  | .call pc => (pc.step s.latch s.bus).map fun (bus, _) => { s with bus := bus }
  | .latch epoch => some { s with latch := epoch }

/-- The topology in use is an accepted one and the tables describe it. -/
structure Describes (interface : InterfaceConfig) (devices : List SubDevice)
    (tables : OutputTables) : Prop where
  accepted : Accepted interface devices
  sizes : ∀ i actual, devices[i]? = some actual → tables.sizes (1 + i) =
    if interface.inputOnly then 0 else pdoImageByteLength actual.obits
  bits : ∀ i actual, devices[i]? = some actual → tables.bits (1 + i) =
    if interface.inputOnly then 0 else actual.obits

/-- `Initialize` is past `ValidateTopology`. -/
def Configured : Pc → Prop
  | .init .checkGroup | .init .storeClock | .init .storeSafe | .init .reachOperational
  | .init .storeOperational => True
  | _ => False

/-- `CloseContext` has cleared the tables and `subDeviceCount_` has not been stored
again. -/
def Cleared : Pc → Prop
  | .init _ | .close .storeClock _ => True
  | _ => False

/-- **The invariant.**  Where a SubDevice count is published, and where `Initialize`
is about to publish one, the tables describe the topology in use. -/
structure Geometry (config : BusConfig) (s : State) : Prop where
  counted : s.tables.count ≠ 0 →
    Describes config.interface s.bus.topology.devices s.tables ∧
      s.tables.count = s.bus.topology.devices.length
  configured : Configured s.bus.pc →
    Describes config.interface s.bus.topology.devices s.tables
  cleared : Cleared s.bus.pc → s.tables.count = 0

variable {config : BusConfig} {s t : State}

/-- A step that leaves the topology and the tables alone. -/
theorem Geometry.quiet (hs : Geometry config s) (htopology : t.bus.topology = s.bus.topology)
    (htables : t.tables = s.tables) (hconfigured : Configured t.bus.pc → Configured s.bus.pc)
    (hcleared : Cleared t.bus.pc → Cleared s.bus.pc) : Geometry config t where
  counted := by
    rw [htables, htopology]
    exact hs.counted
  configured h := by
    rw [htables, htopology]
    exact hs.configured (hconfigured h)
  cleared h := by
    rw [htables]
    exact hs.cleared (hcleared h)

/-- A step that has cleared the tables. -/
theorem Geometry.of_empty (htables : t.tables = {}) (hpc : ¬Configured t.bus.pc) :
    Geometry config t where
  counted h := absurd (by rw [htables]) h
  configured h := absurd h hpc
  cleared _ := by rw [htables]

theorem not_configured_afterClose (next : AfterClose) : ¬Configured (Bus.afterClose next) := by
  cases next <;> simp [Bus.afterClose, Configured]

/-- The steps of `RunCyclic` keep the topology and stay outside `Initialize`. -/
theorem stepCycle_topology (config : BusConfig) (latch : UInt64) (env : Env) (bus : Bus) (pc : CyclePc) :
    (bus.stepCycle config latch env pc).bus.topology = bus.topology ∧
      ¬Configured (bus.stepCycle config latch env pc).bus.pc ∧
      ¬Cleared (bus.stepCycle config latch env pc).bus.pc := by
  cases pc with
  | popStoreRead =>
    simp only [Bus.stepCycle, Bus.applyCommand]
    split <;> exact ⟨rfl, id, id⟩
  | start | sleep | loadEpoch | applyReadClock | freshLoadPermitted | loadTransmitEpoch
  | trackClock | endCycle | exitCheckLink =>
    simp only [Bus.stepCycle]
    split <;> exact ⟨rfl, id, id⟩
  | _ => exact ⟨rfl, id, id⟩

theorem Geometry.worker {env : Env} (hs : Geometry config s)
    (h : step config s (.worker env) = some t) : Geometry config t := by
  obtain ⟨o, ho, rfl⟩ := Option.map_eq_some_iff.mp h
  unfold Bus.step at ho
  split at ho
  · cases ho
  · rename_i pc hpc
    obtain rfl := Option.some.inj ho
    have htables : s.tables.afterStep config env s.bus = s.tables := by
      simp [OutputTables.afterStep, hpc]
    refine hs.quiet ?_ htables ?_ ?_ <;> cases pc <;>
      simp only [Bus.stepRun, Bus.raiseFault] <;> (try split) <;> (try split) <;>
      first | rfl | exact id | simp [Configured, Cleared]
  · rename_i pc next hpc
    obtain rfl := Option.some.inj ho
    have htables : s.tables.afterStep config env s.bus = s.tables := by
      simp [OutputTables.afterStep, hpc]
    refine hs.quiet ?_ htables ?_ ?_ <;> cases pc <;> cases next <;>
      first | rfl | simp [Bus.stepFault, Bus.afterFault, Configured, Cleared]
  · rename_i pc next hpc
    obtain rfl := Option.some.inj ho
    cases pc with
    | revoke =>
      exact hs.quiet rfl (by simp [OutputTables.afterStep, hpc])
        (by simp [Bus.stepClose, Configured]) (by simp [Bus.stepClose, Cleared])
    | storeTopology =>
      refine .of_empty (by simp [OutputTables.afterStep, hpc]) ?_
      simp only [Bus.stepClose]
      split
      · exact id
      · exact not_configured_afterClose next
    | storeClock =>
      refine hs.quiet rfl (by simp [OutputTables.afterStep, hpc])
        (fun hafter => absurd hafter (not_configured_afterClose next)) fun _ => ?_
      rw [hpc]
      trivial
  · rename_i pc hpc
    obtain rfl := Option.some.inj ho
    have hzero : s.tables.count = 0 := hs.cleared (by rw [hpc]; trivial)
    cases pc with
    | configure =>
      have htables : s.tables.afterStep config env s.bus =
          { OutputTables.ofReport config.interface env.report with count := 0 } := by
        simp [OutputTables.afterStep, hpc, hzero]
      refine ⟨fun h => absurd (by rw [htables]) h, fun hconfigured => ?_,
        fun _ => by rw [htables]⟩
      simp only [Bus.stepInit] at hconfigured ⊢
      split at hconfigured
      · exact hconfigured.elim
      · rename_i verified haccept
        obtain ⟨haccepted, -, hreport⟩ := accepted_of_acceptTopology haccept
        obtain ⟨hpublished, -⟩ := publishAll_of_validated haccepted.validated {}
        rw [htables, hreport]
        exact ⟨haccepted, fun i actual hactual => (hpublished i actual hactual).1,
          fun i actual hactual => (hpublished i actual hactual).2⟩
    | storeOperational =>
      have htables : s.tables.afterStep config env s.bus =
          { s.tables with count := s.bus.topology.devices.length } := by
        simp [OutputTables.afterStep, hpc]
      refine ⟨fun _ => ⟨?_, by rw [htables]; rfl⟩, False.elim, False.elim⟩
      have hdescribes := hs.configured (by rw [hpc]; trivial)
      rw [htables]
      exact ⟨hdescribes.accepted, hdescribes.sizes, hdescribes.bits⟩
    | storeInitializing | checkGroup | storeClock | storeSafe | reachOperational | storeFault =>
      refine hs.quiet rfl (by simp [OutputTables.afterStep, hpc]) ?_ fun _ => by
        rw [hpc]
        trivial
      rw [hpc]
      first
        | exact fun _ => trivial
        | exact id
  · rename_i pc hpc
    obtain rfl := Option.some.inj ho
    obtain ⟨htopology, hconfigured, hcleared⟩ :=
      stepCycle_topology config s.latch env s.bus pc
    exact hs.quiet htopology (by simp [OutputTables.afterStep, hpc])
      (fun h => absurd h hconfigured) (fun h => absurd h hcleared)

/-- No call of the daemon thread touches the topology; `Start` sets the worker off
at the beginning of `Run`. -/
theorem Geometry.call {pc : CallPc} (hs : Geometry config s)
    (h : step config s (.call pc) = some t) : Geometry config t := by
  obtain ⟨⟨bus, status⟩, hstep, rfl⟩ := Option.map_eq_some_iff.mp h
  have hframe : bus.topology = s.bus.topology ∧
      (bus.pc = s.bus.pc ∨ bus.pc = .run .checkRunning) := by
    cases pc <;> simp only [CallPc.step, Option.some.injEq, Prod.mk.injEq,
      Option.ite_none_right_eq_some] at hstep
    all_goals first
      | (obtain ⟨rfl, -⟩ := hstep; exact ⟨rfl, .inl rfl⟩)
      | (obtain ⟨rfl, -⟩ := hstep; exact ⟨rfl, .inr rfl⟩)
      | (obtain ⟨-, rfl, -⟩ := hstep; exact ⟨rfl, .inl rfl⟩)
  obtain ⟨htopology, hsame | hrun⟩ := hframe
  · exact hs.quiet htopology rfl (by rw [hsame]; exact id) (by rw [hsame]; exact id)
  · exact hs.quiet htopology rfl (by rw [hrun]; exact False.elim) (by rw [hrun]; exact False.elim)

theorem Geometry.step (hs : Geometry config s) (label : Label)
    (h : step config s label = some t) : Geometry config t := by
  cases label with
  | worker env => exact hs.worker h
  | call pc => exact hs.call h
  | latch epoch =>
    obtain rfl := Option.some.inj h
    exact hs.quiet rfl rfl id id

/-- The tables describe the topology along every run. -/
theorem geometry_run {labels : List Label} (h : run (OutputGeometry.step config) {} labels = some s) :
    Geometry config s :=
  run_induction _ (fun _ label _ hs hstep => hs.step label hstep)
    (.of_empty rfl id) h

/-! ### The two checks agree -/

theorem validateOutput_eq_ok {state : BusState} {tables : OutputTables} {subDevice : UInt16}
    {offset : UInt32} {image : Bytes}
    (h : validateOutput state tables subDevice offset image = .ok) :
    subDevice.toNat ≠ 0 ∧ subDevice.toNat ≤ tables.count ∧
      validateWholeOutputWrite (tables.sizes subDevice.toNat) offset.toNat image.length = .ok ∧
      hasCanonicalPdoPadding (tables.bits subDevice.toNat) image = true := by
  unfold validateOutput at h
  dsimp only at h
  split_ifs at h with hstate htarget hbounds hpadding
  · exact absurd h hbounds
  · simp only [Bool.or_eq_true, decide_eq_true_eq, not_or, Nat.not_lt, Nat.not_le] at htarget
    exact ⟨fun hzero => htarget.1.1 (UInt16.toNat_inj.mp hzero), htarget.1.2,
      not_not.mp hbounds, hpadding⟩

theorem outputBytes_ne_zero {outputBytes offset length : ℕ}
    (h : validateWholeOutputWrite outputBytes offset length = .ok) : outputBytes ≠ 0 := by
  rintro rfl
  simp [validateWholeOutputWrite] at h

theorem startBit_le_of_metadata {bitCount byteCount startBit : ℕ}
    (h : isValidSoemPdoMetadata bitCount byteCount startBit = true) : startBit ≤ 7 := by
  unfold isValidSoemPdoMetadata at h
  split at h
  · cases h
  · omega

/-- The worker's check accepts what the geometry allows. -/
theorem isSome_writeCommand {ioMap : Memory} {device : SubDevice} {command : OutputCommand}
    {index : ℕ} (hgeometry : validateGeometry index device = .ok ())
    (hwhole : validateWholeOutputWrite (pdoImageByteLength device.obits) command.offset.toNat
      command.data.length = .ok)
    (hpadding : hasCanonicalPdoPadding device.obits command.data = true) :
    (writeCommand ioMap device command).isSome = true := by
  obtain ⟨hmetadata, -, hpointer⟩ := validateGeometry_eq_ok hgeometry
  have hstart := startBit_le_of_metadata hmetadata
  have hbits : device.obits ≠ 0 := by
    intro hzero
    refine outputBytes_ne_zero hwhole ?_
    rw [hzero]
    rfl
  have hmapped := startBit_add_bitCount_le hstart hbits
  have houtputs : device.outputs ≠ none := by
    intro hnull
    rw [hnull, pointerRangeInIoMap, decide_eq_true_eq, SubDevice.mappedBytes] at hpointer
    omega
  unfold writeCommand
  rw [if_neg (by simp [houtputs, hpointer, hwhole]), Option.isSome_map]
  have haccepts := PdoStore.isSome_apply (.write command.data)
    (load ioMap device.outputAddress device.mappedBytes) device.ostartbit device.obits
  rw [length_load] at haccepts
  exact haccepts.trans (by
    simp [PdoStore.accepts, hstart, hpadding, SubDevice.mappedBytes])

/-- The daemon thread starts the worker, which brings the bus up. -/
def startedRun : List Label :=
  .call (.startStoreLink true 7) :: .call .startRun ::
    List.replicate 10 (.worker (oneByteEnv 2))

end OutputGeometry

end EcSystemCore
