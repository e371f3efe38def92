import EcSystemCore.Client.RequestDelivery

/-!
# The three payload codecs agree

The Java and the Python decoder of a message accept the byte strings that the C++ decoder
accepts, and what they return is the Java or the Python reading of the C++ payload
(`ofPayload`).  All three read the same layout, so each comparison is one of the checks on
a header and a body that are already apart (`Layout.eq_map_decode`).  The results for the
single messages, with those for the request encoders, are put together in
`codecs_agree`.
-/

namespace EcSystemCore

/-! ### Refused codes -/

/-- The codes each enumeration refuses. -/
theorem ofCode?_eq_none_iffs (code : UInt8) :
    (ClientRole.ofCode? code = none ↔ code > 1) ∧ (BusState.ofCode? code = none ↔ code > 6) ∧
      (AdapterLockState.ofCode? code = none ↔ code > 4) ∧
      (AdapterLockReason.ofCode? code = none ↔ code > 9) ∧
      (SchedulingMode.ofCode? code = none ↔ code > 1) :=
  forall_byte code (by decide +kernel)

theorem ClientRole.ofCode?_eq_none_iff (code : UInt8) : ofCode? code = none ↔ code > 1 :=
  (ofCode?_eq_none_iffs code).1

theorem BusState.ofCode?_eq_none_iff (code : UInt8) : ofCode? code = none ↔ code > 6 :=
  (ofCode?_eq_none_iffs code).2.1

theorem AdapterLockState.ofCode?_eq_none_iff (code : UInt8) : ofCode? code = none ↔ code > 4 :=
  (ofCode?_eq_none_iffs code).2.2.1

theorem AdapterLockReason.ofCode?_eq_none_iff (code : UInt8) :
    ofCode? code = Option.none ↔ code > 9 :=
  (ofCode?_eq_none_iffs code).2.2.2.1

theorem SchedulingMode.ofCode?_eq_none_iff (code : UInt8) : ofCode? code = none ↔ code > 1 :=
  (ofCode?_eq_none_iffs code).2.2.2.2

theorem AckStatus.ofCode?_eq_none_iff (code : UInt16) : ofCode? code = none ↔ code > 12 := by
  unfold ofCode?
  split <;> simp
  grind

theorem DisableReason.ofCode?_eq_none_iff (code : UInt16) :
    ofCode? code = none ↔ ¬(1 ≤ code ∧ code ≤ 10) := by
  unfold ofCode?
  split <;> simp
  grind

/-! ### Numbers read from words -/

theorem natCast_le_one (value : UInt8) : (value.toNat : ℤ) ≤ 1 ↔ value ≤ 1 :=
  Int.ofNat_le.trans (UInt8.le_iff_toNat_le (b := 1)).symm

theorem not_decide_zero (value : UInt8) : (!decide (value.toNat = 0)) = (value != 0) := by
  have hzero : value.toNat = 0 ↔ value = 0 := UInt8.toNat_inj (b := 0)
  rw [bne, beq_eq_decide, decide_eq_decide.mpr hzero]

theorem toNat16_eq_zero (value : UInt16) : value.toNat = 0 ↔ value = 0 := by
  rw [← UInt16.toNat_inj]
  rfl

theorem toNat32_eq_zero (value : UInt32) : value.toNat = 0 ↔ value = 0 := by
  rw [← UInt32.toNat_inj]
  rfl

theorem toNat64_eq_zero (value : UInt64) : value.toNat = 0 ↔ value = 0 := by
  rw [← UInt64.toNat_inj]
  rfl

theorem toInt64_eq_zero (value : UInt64) : value.toInt64 = 0 ↔ value = 0 :=
  ⟨fun h => congrArg Int64.toUInt64 h, fun h => congrArg UInt64.toInt64 h⟩

theorem guard_pos {p : Prop} [Decidable p] (h : p) : (guard p : Option Unit) = some () :=
  if_pos h

theorem guard_neg {p : Prop} [Decidable p] (h : ¬p) : (guard p : Option Unit) = none :=
  if_neg h

/-- Checks made together and checks made one after the other. -/
theorem guard_and_bind {α : Type} (p q : Prop) [Decidable p] [Decidable q]
    (next : Unit → Option α) :
    (guard (p ∧ q) : Option Unit).bind next =
      (guard p : Option Unit).bind fun _ => (guard q : Option Unit).bind next := by
  by_cases hp : p <;> by_cases hq : q <;> simp [hp, hq, guard]

/-- What the C++ decoder checks of the fields of a PdoInput. -/
def ChunkAccepted (maximumTotalSize : ℕ) (subDevice : UInt16) (offset totalSize : UInt32)
    (chunkLength reserved : UInt16) (epoch sequence : UInt64) (body : Bytes) : Prop :=
  reserved = 0 ∧ subDevice ≠ 0 ∧ epoch ≠ 0 ∧ sequence ≠ 0 ∧ totalSize ≠ 0 ∧ chunkLength ≠ 0 ∧
    chunkLength.toNat ≤ kMaximumPdoChunk ∧ totalSize.toNat ≤ maximumTotalSize ∧
    offset ≤ totalSize ∧ chunkLength.toNat ≤ (totalSize - offset).toNat ∧
    body.length = chunkLength.toNat

instance (maximumTotalSize : ℕ) (subDevice : UInt16) (offset totalSize : UInt32)
    (chunkLength reserved : UInt16) (epoch sequence : UInt64) (body : Bytes) :
    Decidable (ChunkAccepted maximumTotalSize subDevice offset totalSize chunkLength reserved epoch
      sequence body) :=
  inferInstanceAs (Decidable (_ ∧ _))

theorem pdoInputFields_symm (maximumTotalSize : ℕ) (bus subDevice : UInt16)
    (offset totalSize : UInt32) (chunkLength reserved : UInt16) (epoch sequence : UInt64)
    (body : Bytes) :
    (pdoInputFields maximumTotalSize).symm
        ((bus, subDevice, offset, totalSize, chunkLength, reserved, epoch, sequence), body) =
      if ChunkAccepted maximumTotalSize subDevice offset totalSize chunkLength reserved epoch sequence
          body
      then some ⟨bus, subDevice, offset, totalSize, epoch, sequence, body⟩ else none := by
  change (guard _ : Option Unit).bind (fun _ => (guard _ : Option Unit).bind fun _ => some _) = _
  rw [← guard_and_bind]
  unfold guard
  split
  case isTrue haccepted => exact (if_pos haccepted).symm
  case isFalse hrefused => exact (if_neg hrefused).symm

/-- A BusInfo whose lengths fill its body is read field by field. -/
theorem map_busInfoFields_symm {α : Type} {busIndex : UInt16}
    {state linkUp lockState lockReason : UInt8}
    {subDeviceCount l₀ l₁ l₂ l₃ l₄ l₅ l₆ : UInt16} {epoch : UInt64} {body : Bytes}
    {convert : BusInfoPayload → α}
    (build : BusState → Bool → AdapterLockState → AdapterLockReason → List Bytes → α)
    (hbuild : ∀ information : BusInfoPayload, information.busIndex = busIndex →
      information.subDeviceCount = subDeviceCount → information.epoch = epoch →
      convert information = build information.state information.linkUp information.lockState
        information.lockReason information.strings) :
    (busInfoFields.symm ((busIndex, state, linkUp, lockState, lockReason, subDeviceCount, l₀, l₁,
        l₂, l₃, l₄, l₅, l₆, epoch), body)).map convert = do
      guard (kBusInfoHeaderSize + body.length ≤ kMaximumBusInfo)
      let state ← BusState.ofCode? state
      guard (linkUp ≤ 1)
      let lockState ← AdapterLockState.ofCode? lockState
      let lockReason ← AdapterLockReason.ofCode? lockReason
      guard (epoch ≠ 0)
      guard (totalLength [l₀, l₁, l₂, l₃, l₄, l₅, l₆] = body.length)
      let texts ← splitTexts [l₀, l₁, l₂, l₃, l₄, l₅, l₆] body
      return build state (linkUp != 0) lockState lockReason texts := by
  have hstrings : ∀ state linkUp lockState lockReason,
      ((splitTexts [l₀, l₁, l₂, l₃, l₄, l₅, l₆] body).bind fun texts =>
        (BusInfoPayload.ofStrings busIndex state linkUp lockState lockReason subDeviceCount epoch
          texts).map convert) =
      (splitTexts [l₀, l₁, l₂, l₃, l₄, l₅, l₆] body).bind fun texts =>
        some (build state linkUp lockState lockReason texts) := by
    intro state linkUp lockState lockReason
    cases htexts : splitTexts [l₀, l₁, l₂, l₃, l₄, l₅, l₆] body with
    | none => rfl
    | some texts =>
      simp [splitTexts, Option.bind_eq_some_iff] at htexts
      obtain ⟨-, -, -, -, -, -, -, rfl⟩ := htexts
      exact congrArg some (hbuild _ rfl rfl rfl)
  simp [busInfoFields, PEquiv.symm, Option.map_bind, hstrings]

/-- The text of a string on the wire. -/
def wireText (encoded : Bytes) : String := (decodeUtf8 encoded).getD ""

theorem strictUtf8_eq (encoded : Bytes) :
    strictUtf8 encoded = if isValidUtf8 encoded = true then some (wireText encoded) else none := by
  split
  case isTrue hvalid =>
    obtain ⟨chars, -, hencoded⟩ := (isValidUtf8_iff encoded).mp hvalid
    have hdecode : decodeUtf8 encoded = some (String.ofList chars) := by
      rw [decodeUtf8_eq_some_iff, String.toList_ofList]
      exact hencoded
    rw [strictUtf8_eq_some_iff, wireText, hdecode]
    exact ⟨hvalid, rfl⟩
  case isFalse hinvalid =>
    rw [Option.eq_none_iff_forall_ne_some]
    exact fun text htext => hinvalid (strictUtf8_eq_some_iff.mp htext).1

namespace Java

/-! ### Java -/

/-- The tables of `fromWire`. -/
theorem fromWire_tables (code : UInt8) :
    roleFromWire code.toNat = ClientRole.ofCode? code ∧
      fromWire busStateWireValues code.toNat = BusState.ofCode? code ∧
      fromWire lockStateWireValues code.toNat = AdapterLockState.ofCode? code ∧
      fromWire lockReasonWireValues code.toNat = AdapterLockReason.ofCode? code :=
  forall_byte code (by decide +kernel)

theorem roleFromWire_eq (code : UInt8) : roleFromWire code.toNat = ClientRole.ofCode? code :=
  (fromWire_tables code).1

theorem busState_fromWire (code : UInt8) :
    fromWire busStateWireValues code.toNat = BusState.ofCode? code :=
  (fromWire_tables code).2.1

theorem lockState_fromWire (code : UInt8) :
    fromWire lockStateWireValues code.toNat = AdapterLockState.ofCode? code :=
  (fromWire_tables code).2.2.1

theorem lockReason_fromWire (code : UInt8) :
    fromWire lockReasonWireValues code.toNat = AdapterLockReason.ofCode? code :=
  (fromWire_tables code).2.2.2

/-- A table whose wire values are below a bound is compared with a decoder value by value. -/
theorem fromWire_eq_of_lt {α : Type} {wireValues : List (α × ℤ)} {ofCode? : UInt16 → Option α}
    (bound : ℕ) (large : ∀ code : UInt16, bound ≤ code.toNat → ofCode? code = none)
    (below : ∀ entry ∈ wireValues, entry.2 < bound)
    (small : ∀ n : Fin bound, fromWire wireValues (n : ℕ) = ofCode? (.ofNat n)) (code : UInt16) :
    fromWire wireValues code.toNat = ofCode? code := by
  by_cases hlarge : bound ≤ code.toNat
  · rw [large code hlarge]
    unfold fromWire
    rw [Option.map_eq_none_iff, List.find?_eq_none]
    intro entry hentry hvalue
    have hlt := below entry hentry
    have heq := of_decide_eq_true hvalue
    omega
  · have hsmall := small ⟨code.toNat, Nat.lt_of_not_le hlarge⟩
    rwa [UInt16.ofNat_toNat] at hsmall

theorem ackStatus_fromWire (code : UInt16) :
    fromWire ackStatusWireValues code.toNat = AckStatus.ofCode? code := by
  refine fromWire_eq_of_lt 13 (fun code hlarge => ?_) (by decide) (by decide) code
  exact (AckStatus.ofCode?_eq_none_iff code).mpr (UInt16.lt_iff_toNat_lt.mpr hlarge)

theorem disableReason_fromWire (code : UInt16) :
    fromWire disableReasonWireValues code.toNat = DisableReason.ofCode? code := by
  refine fromWire_eq_of_lt 11 (fun code hlarge => ?_) (by decide) (by decide) code
  exact (DisableReason.ofCode?_eq_none_iff code).mpr fun hcode =>
    Nat.not_le.mpr hlarge (UInt16.le_iff_toNat_le.mp hcode.2)

/-- The Java value of a HelloAck. -/
def HelloAck.ofPayload (hello : HelloAckPayload) : HelloAck :=
  ⟨hello.grantedRole, hello.outputsEnabled, hello.heartbeatTimeoutMs.toNat,
    hello.epoch.toInt64, hello.peerPid.toNat, hello.capabilities.toNat⟩

theorem decodeHelloAck_eq :
    decodeHelloAck = fun payload => (decodeHelloAckPayload payload).map HelloAck.ofPayload := by
  rw [decodeHelloAckPayload_eq]
  refine helloAckLayout.eq_map_decode helloAckFields (fun payload hshort => ?_) ?_
  · exact guard_bind_of_not (Nat.ne_of_lt hshort) _
  · rintro ⟨role, outputs, timeout, epoch, peerPid, capabilities⟩ body
    simp only [decodeHelloAck, helloAckLayout, Layout.pair_write, Wire.u8_write, Wire.u16_write,
      Wire.u32_write, Wire.u64_write, List.append_assoc, List.cons_append, List.nil_append,
      run'_eq, ↓run_getUnsignedByte, ↓run_lift, ↓run_guard, ↓run_getUnsignedShort, ↓run_getLong,
      ↓run_getUnsignedInt, run_pure]
    simp [helloAckFields, PEquiv.symm, Option.map_bind, Function.comp_def, guard_and_bind,
      roleFromWire_eq, ↓natCast_le_one, not_decide_zero, toNat16_eq_zero, toInt64_eq_zero,
      HelloAck.ofPayload, ← Nat.add_assoc]

/-- The Java value of an Ack. -/
def ackOfPayload : AckStatus × UInt32 → AckStatus × ℤ
  | (status, detail) => (status, detail.toNat)

theorem decodeAck_eq : decodeAck = fun payload =>
    (decodeAckPayload payload).map ackOfPayload := by
  rw [decodeAckPayload_eq]
  refine ackLayout.eq_map_decode ackFields (fun payload hshort => ?_) ?_
  · exact guard_bind_of_not (Nat.ne_of_lt hshort) _
  · rintro ⟨status, reserved, detail⟩ body
    simp only [decodeAck, ackLayout, Layout.pair_write, Wire.u16_write,
      Wire.u32_write, List.append_assoc,
      run'_eq, ↓run_lift, ↓run_guard, ↓run_getUnsignedShort,
      ↓run_getUnsignedInt, run_pure]
    cases hstatus : AckStatus.ofCode? status <;>
      simp [ackFields, PEquiv.symm, Option.map_bind, Function.comp_def, ackStatus_fromWire, hstatus,
        toNat16_eq_zero, ackOfPayload, ← Nat.add_assoc]

/-- The Java value of an OutputsDisabled. -/
def OutputsDisabled.ofPayload (disabled : OutputsDisabledPayload) : OutputsDisabled :=
  ⟨disabled.reason, disabled.busIndex.toNat, disabled.epoch.toInt64⟩

theorem decodeOutputsDisabled_eq : decodeOutputsDisabled = fun payload =>
    (decodeOutputsDisabledPayload payload).map OutputsDisabled.ofPayload := by
  rw [decodeOutputsDisabledPayload_eq]
  refine outputsDisabledLayout.eq_map_decode outputsDisabledFields (fun payload hshort => ?_) ?_
  · exact guard_bind_of_not (Nat.ne_of_lt hshort) _
  · rintro ⟨reason, busIndex, epoch⟩ body
    simp only [decodeOutputsDisabled, outputsDisabledLayout, Layout.pair_write, Wire.u16_write,
      Wire.u64_write, List.append_assoc,
      run'_eq, ↓run_lift, ↓run_guard, ↓run_getUnsignedShort, ↓run_getLong, run_pure]
    simp [outputsDisabledFields, PEquiv.symm, Option.map_bind, Function.comp_def, disableReason_fromWire,
      toInt64_eq_zero, OutputsDisabled.ofPayload, ← Nat.add_assoc]

/-- The checks of `decodePdoChunk` are those of the daemon's decoder. -/
theorem chunkChecks_iff (maximumTotalSize : ℕ) (subDevice : UInt16) (offset totalSize : UInt32)
    (chunkLength reserved : UInt16) (epoch sequence : UInt64) (body : Bytes) :
    ¬((subDevice.toNat : ℤ) = 0 ∨ (reserved.toNat : ℤ) ≠ 0 ∨ epoch.toInt64 = 0 ∨
        sequence.toInt64 = 0 ∨ (totalSize.toNat : ℤ) = 0 ∨ (chunkLength.toNat : ℤ) = 0 ∨
        (chunkLength.toNat : ℤ) > maximumPdoChunk ∨ (totalSize.toNat : ℤ) > maximumTotalSize ∨
        (offset.toNat : ℤ) > totalSize.toNat ∨
        (chunkLength.toNat : ℤ) > totalSize.toNat - offset.toNat ∨
        ((32 + body.length : ℕ) : ℤ) ≠ 32 + chunkLength.toNat) ↔
      ChunkAccepted maximumTotalSize subDevice offset totalSize chunkLength reserved epoch sequence
        body := by
  unfold ChunkAccepted
  have hmaximum : maximumPdoChunk = kMaximumPdoChunk := rfl
  have hremaining : offset ≤ totalSize →
      (totalSize - offset).toNat = totalSize.toNat - offset.toNat := UInt32.toNat_sub_of_le _ _
  simp only [not_or, ne_eq, toInt64_eq_zero, ← toNat16_eq_zero, ← toNat32_eq_zero,
    ← toNat64_eq_zero, hmaximum,
    UInt32.le_iff_toNat_le] at hremaining ⊢
  omega

/-- The Java value of a PdoInput. -/
def PdoChunk.ofPayload (input : PdoInputPayload) : PdoChunk :=
  ⟨input.busIndex.toNat, input.subDeviceIndex.toNat, input.offset.toNat, input.totalSize.toNat,
    input.epoch.toInt64, input.cycleSequence.toInt64, input.data⟩

theorem decodePdoChunk_eq (maximumTotalSize : ℕ) (h : maximumTotalSize ≤ 2147483647) :
    (decodePdoChunk · maximumTotalSize) = fun payload =>
      (decodePdoInputPayload payload maximumTotalSize).map PdoChunk.ofPayload := by
  have hdecode := decodePdoInputPayload_eq maximumTotalSize
  rw [funext_iff] at hdecode
  simp only [hdecode]
  refine pdoInputLayout.eq_map_decode (pdoInputFields maximumTotalSize) (fun payload hshort => ?_) ?_
  · exact guard_bind_of_not (not_not.mpr hshort) _
  · rintro ⟨bus, subDevice, offset, totalSize, chunkLength, reserved, epoch, sequence⟩ body
    have hchecks := chunkChecks_iff maximumTotalSize subDevice offset totalSize chunkLength reserved
      epoch sequence body
    have hlength : ∀ header, (pdoInputLayout.write header ++ body).length = 32 + body.length :=
      fun header => by rw [List.length_append, pdoInputLayout.length_write]; rfl
    simp only [decodePdoChunk, hlength]
    simp only [pdoInputLayout, Layout.pair_write, Wire.u16_write, Wire.u32_write, Wire.u64_write,
      List.append_assoc, run'_eq, ↓run_guard, ↓run_getUnsignedShort, ↓run_getLong,
      ↓run_getUnsignedInt]
    rw [pdoInputFields_symm, guard_pos (Nat.not_lt.mpr (Nat.le_add_right _ _))]
    split
    case isTrue hvalid =>
      obtain ⟨-, -, -, -, -, -, -, hmaximum, hle, -, hbody⟩ := id hvalid
      rw [UInt32.le_iff_toNat_le] at hle
      have htotal : toIntExact totalSize.toNat = some (totalSize.toNat : ℤ) :=
        if_pos ⟨by omega, by omega⟩
      have hoffset : toIntExact offset.toNat = some (offset.toNat : ℤ) :=
        if_pos ⟨by omega, by omega⟩
      replace hbody : body.length = (chunkLength.toNat : ℤ).toNat := hbody
      rw [guard_pos (hchecks.mpr hvalid), Option.bind_some, run_getBytes _ hbody.ge, run_lift, hoffset, Option.bind_some, run_lift,
        htotal, ← hbody, List.take_length]
      rfl
    case isFalse hvalid =>
      rw [guard_neg (mt hchecks.mp hvalid)]
      rfl

/-- The Java value of a Status. -/
def Status.ofPayload (status : StatusPayload) : Status :=
  ⟨(BusState.ofCode? status.aggregateState).getD .starting, flag status.flags 0,
    flag status.flags 1, flag status.flags 2, flag status.flags 3, flag status.flags 4,
    flag status.flags 5, flag status.flags 6, flag status.flags 7, status.schedulingMode,
    status.realtimeErrorBits, flag status.realtimeErrorBits 6, status.activeAdapters.toNat,
    status.subDevices.toNat, status.activeFaults.toNat, status.maximumJitterUs.toNat,
    status.currentJitterUs.toNat, status.lostFrames.toInt64, status.cycleOverruns.toInt64,
    status.epoch.toInt64, status.controllerPid.toNat, status.configuredBuses.toNat,
    status.monotonicTimestampUs.toInt64⟩

theorem scheduling_iff (code : UInt8) :
    (code.toNat : ℤ) > 1 ↔ SchedulingMode.ofCode? code = none := by
  rw [SchedulingMode.ofCode?_eq_none_iff, gt_iff_lt, ← Int.not_le, natCast_le_one, gt_iff_lt,
    UInt8.not_le]

theorem scheduling_eq (code : UInt8) {mode : SchedulingMode} :
    SchedulingMode.ofCode? code = some mode →
      (if (code.toNat : ℤ) = 1 then SchedulingMode.fifo else .other) = mode := by
  cases mode <;> exact forall_byte code (by decide +kernel)

theorem decodeStatus_eq : decodeStatus = fun payload =>
    (decodeStatusPayload payload).map Status.ofPayload := by
  rw [decodeStatusPayload_eq]
  refine statusLayout.eq_map_decode statusFields (fun payload hshort => ?_) ?_
  · exact guard_bind_of_not (Nat.ne_of_lt hshort) _
  · rintro ⟨state, flags, adapters, subDevices, faults, maximumJitter, currentJitter, lostFrames,
      overruns, epoch, pid, buses, scheduling, errors, timestamp⟩ body
    have hlength : ∀ header, (statusLayout.write header ++ body).length = 56 + body.length :=
      fun header => by rw [List.length_append, statusLayout.length_write]; rfl
    simp only [decodeStatus, hlength]
    simp only [statusLayout, Layout.pair_write, Wire.u8_write, Wire.u16_write, Wire.u32_write,
      Wire.u64_write, List.append_assoc, List.cons_append, List.nil_append, run'_eq,
      ↓run_getUnsignedByte, ↓run_getByte, ↓run_lift, ↓run_guard, ↓run_getUnsignedShort, ↓run_getLong,
      ↓run_getUnsignedInt, run_pure]
    simp only [busState_fromWire, scheduling_iff, toInt64_eq_zero]
    cases hstate : BusState.ofCode? state with
    | none => simp [statusFields, PEquiv.symm, hstate]
    | some busState =>
      cases hscheduling : SchedulingMode.ofCode? scheduling with
      | none => simp [statusFields, PEquiv.symm, hstate, hscheduling]
      | some mode =>
        rw [scheduling_eq scheduling hscheduling]
        simp [statusFields, PEquiv.symm, hstate, hscheduling, Status.ofPayload, guard_and_bind]

/-- The Java value of a BusInfo. -/
def BusInfo.ofPayload (information : BusInfoPayload) : BusInfo :=
  ⟨information.busIndex.toNat, information.state, information.linkUp, information.lockState,
    information.lockReason, information.subDeviceCount.toNat, information.strings.map wireText,
    information.epoch.toInt64⟩

theorem run_getLengths {α : Type} (lengths : List UInt16) (expected : ℤ) (rest : Bytes)
    (next : List ℤ × ℤ → ByteBuffer α) :
    (getLengths lengths.length expected >>= next).run (lengths.flatMap le16 ++ rest) =
      (next (lengths.map fun length => (length.toNat : ℤ), expected + totalLength lengths)).run
        rest := by
  induction lengths generalizing expected next with
  | nil => simp [getLengths, totalLength]
  | cons length lengths ih =>
    have hsum : totalLength (length :: lengths) = length.toNat + totalLength lengths := rfl
    simp only [List.length_cons, getLengths, bind_assoc, pure_bind, List.flatMap_cons,
      List.append_assoc, ↓run_getUnsignedShort, ↓ih, List.map_cons, hsum, Nat.cast_add,
      Int.add_assoc]

theorem run_getTexts {α : Type} (lengths : List UInt16) (body : Bytes)
    (next : List String → ByteBuffer α) (h : totalLength lengths = body.length) :
    (getTexts (lengths.map fun length => (length.toNat : ℤ)) >>= next).run body =
      (splitTexts lengths body).bind fun texts => (next (texts.map wireText)).run [] := by
  induction lengths generalizing body next with
  | nil =>
    obtain rfl := List.length_eq_zero_iff.mp h.symm
    rfl
  | cons length lengths ih =>
    have hsum : totalLength (length :: lengths) = length.toNat + totalLength lengths := rfl
    have hfits : (length.toNat : ℤ).toNat ≤ body.length := by omega
    have hrest : totalLength lengths = (body.drop length.toNat).length := by
      rw [List.length_drop]; omega
    simp only [List.map_cons, getTexts, bind_assoc, pure_bind, run_getBytes _ hfits, ↓run_lift,
      splitTexts, strictUtf8_eq, Int.toNat_natCast]
    by_cases hvalid : isValidUtf8 (body.take length.toNat) = true
    · simp [hvalid, ih _ _ hrest, Option.bind_assoc]
    · simp [hvalid]

theorem decodeBusInfo_eq : decodeBusInfo = fun payload =>
    (decodeBusInfoPayload payload).map BusInfo.ofPayload := by
  rw [decodeBusInfoPayload_eq]
  refine busInfoLayout.eq_map_decode busInfoFields (fun payload hshort => ?_) ?_
  · exact guard_bind_of_not (not_not.mpr (.inl hshort)) _
  · rintro ⟨busIndex, state, linkUp, lockState, lockReason, subDeviceCount, l₀, l₁, l₂, l₃, l₄, l₅,
      l₆, epoch⟩ body
    have hlength : ∀ header, (busInfoLayout.write header ++ body).length = 30 + body.length :=
      fun header => by rw [List.length_append, busInfoLayout.length_write]; rfl
    have hlengths := @run_getLengths BusInfo [l₀, l₁, l₂, l₃, l₄, l₅, l₆] 30 (le64 epoch ++ body)
    simp only [List.flatMap_cons, List.flatMap_nil, List.append_assoc, List.nil_append, List.length_cons, List.length_nil, Nat.zero_add, Nat.reduceAdd] at hlengths
    simp only [decodeBusInfo, hlength]
    simp only [busInfoLayout, Layout.pair_write, Wire.u8_write, Wire.u16_write,
      Wire.u64_write, List.append_assoc, List.cons_append, List.nil_append, run'_eq,
      ↓run_getUnsignedByte, ↓run_lift, ↓run_guard, ↓run_getUnsignedShort, ↓run_getLong, ↓hlengths]
    simp only [busState_fromWire, lockState_fromWire, lockReason_fromWire, toInt64_eq_zero]
    rw [map_busInfoFields_symm (fun state linkUp lockState lockReason texts =>
      (⟨busIndex.toNat, state, linkUp, lockState, lockReason, subDeviceCount.toNat,
        texts.map wireText, epoch.toInt64⟩ : BusInfo)) (by rintro information rfl rfl rfl; rfl)]
    have hfill : (30 + (totalLength [l₀, l₁, l₂, l₃, l₄, l₅, l₆] : ℤ) ≠ (30 + body.length : ℕ)) ↔
        ¬totalLength [l₀, l₁, l₂, l₃, l₄, l₅, l₆] = body.length := by omega
    have hsize : (30 + body.length < 30 ∨ 30 + body.length > maximumBusInfo) ↔
        ¬kBusInfoHeaderSize + body.length ≤ kMaximumBusInfo := by
      have : maximumBusInfo = kMaximumBusInfo := rfl
      have : kBusInfoHeaderSize = 30 := rfl
      omega
    have hlink : (linkUp.toNat : ℤ) > 1 ↔ ¬linkUp ≤ 1 := by
      rw [gt_iff_lt, ← Int.not_le, natCast_le_one]
    simp only [hfill, hsize, hlink]
    cases BusState.ofCode? state with
    | none => simp
    | some state =>
      cases AdapterLockState.ofCode? lockState with
      | none => simp
      | some lockState =>
        cases AdapterLockReason.ofCode? lockReason with
        | none => simp
        | some lockReason =>
          by_cases htotal : totalLength [l₀, l₁, l₂, l₃, l₄, l₅, l₆] = body.length
          · simp only [run_getTexts _ _ _ htotal]
            simp [htotal, Option.map_bind, guard_and_bind, not_decide_zero]
          · simp [htotal]

end Java

namespace Python

/-! ### The Python decoders -/

theorem unpack_write {α : Type} (format : Layout UInt8 α) (values : α) (body : Bytes) :
    unpack format (format.write values ++ body) = if body = [] then some values else none := by
  unfold unpack
  rw [format.read_write]
  cases body <;> rfl

theorem unpackFrom_write {α : Type} (format : Layout UInt8 α) (values : α) (body : Bytes) :
    unpackFrom format (format.write values ++ body) = some values := by
  unfold unpackFrom
  rw [format.read_write]
  rfl

/-- A payload of exactly the size of its struct is unpacked. -/
theorem guard_unpack {α β : Type} (format : Layout UInt8 α) (values : α) (body : Bytes)
    (next : α → Option β) :
    (guard ((format.write values ++ body).length = format.size) >>= fun _ =>
        unpack format (format.write values ++ body) >>= next) =
      guard (body = []) >>= fun _ => next values := by
  rw [unpack_write, List.length_append, format.length_write]
  cases body <;> simp [guard]

/-- The Python value of a HelloAck. -/
def HelloAck.ofPayload (hello : HelloAckPayload) : HelloAck :=
  ⟨hello.grantedRole.code.toNat, hello.outputsEnabled, hello.heartbeatTimeoutMs.toNat,
    hello.epoch.toNat, hello.peerPid.toNat, hello.capabilities.toNat⟩

theorem decodeHelloAck_eq : decodeHelloAck = fun payload =>
    (decodeHelloAckPayload payload).map HelloAck.ofPayload := by
  rw [decodeHelloAckPayload_eq]
  refine helloAckLayout.eq_map_decode helloAckFields (fun payload hshort => ?_) ?_
  · exact guard_bind_of_not (Nat.ne_of_lt hshort) _
  · rintro ⟨role, outputs, timeout, epoch, peerPid, capabilities⟩ body
    refine (guard_unpack helloAckStruct _ body _).trans ?_
    simp only [gt_iff_lt, ← ClientRole.ofCode?_eq_none_iff role]
    cases hrole : ClientRole.ofCode? role with
    | none => simp [helloAckFields, PEquiv.symm, hrole]
    | some granted =>
      obtain rfl := ClientRole.ofCode?_eq_some_iff.mp hrole
      simp [helloAckFields, PEquiv.symm, hrole, Option.map_bind, Function.comp_def, guard_and_bind, HelloAck.ofPayload]

/-- The Python value of an Ack. -/
def ackOfPayload : AckStatus × UInt32 → ℕ × ℕ
  | (status, detail) => (status.code.toNat, detail.toNat)

theorem decodeAck_eq : decodeAck = fun payload =>
    (decodeAckPayload payload).map ackOfPayload := by
  rw [decodeAckPayload_eq]
  refine ackLayout.eq_map_decode ackFields (fun payload hshort => ?_) ?_
  · exact guard_bind_of_not (Nat.ne_of_lt hshort) _
  · rintro ⟨status, reserved, detail⟩ body
    refine (guard_unpack ackStruct _ body _).trans ?_
    simp only [gt_iff_lt, ← AckStatus.ofCode?_eq_none_iff]
    cases hstatus : AckStatus.ofCode? status with
    | none => simp [ackFields, PEquiv.symm, hstatus]
    | some known =>
      obtain rfl := AckStatus.ofCode?_eq_some_iff.mp hstatus
      simp [ackFields, PEquiv.symm, hstatus, Option.map_bind, Function.comp_def, ackOfPayload]

/-- The Python value of an OutputsDisabled. -/
def outputsDisabledOfPayload (disabled : OutputsDisabledPayload) : ℕ × ℕ × ℕ :=
  (disabled.reason.code.toNat, disabled.busIndex.toNat, disabled.epoch.toNat)

theorem decodeOutputsDisabled_eq : decodeOutputsDisabled = fun payload =>
    (decodeOutputsDisabledPayload payload).map outputsDisabledOfPayload := by
  rw [decodeOutputsDisabledPayload_eq]
  refine outputsDisabledLayout.eq_map_decode outputsDisabledFields (fun payload hshort => ?_) ?_
  · exact guard_bind_of_not (Nat.ne_of_lt hshort) _
  · rintro ⟨reason, busIndex, epoch⟩ body
    refine (guard_unpack outputsDisabledStruct _ body _).trans ?_
    simp only [← DisableReason.ofCode?_eq_none_iff]
    cases hreason : DisableReason.ofCode? reason with
    | none => simp [outputsDisabledFields, PEquiv.symm, hreason]
    | some known =>
      obtain rfl := DisableReason.ofCode?_eq_some_iff.mp hreason
      simp [outputsDisabledFields, PEquiv.symm, hreason, Option.map_bind, Function.comp_def,
        outputsDisabledOfPayload]

/-- The Python value of a Status. -/
def Status.ofPayload (status : StatusPayload) : Status :=
  ⟨status.aggregateState.toNat, status.flags.toNat, status.activeAdapters.toNat,
    status.subDevices.toNat, status.activeFaults.toNat, status.maximumJitterUs.toNat,
    status.currentJitterUs.toNat, status.lostFrames.toNat, status.cycleOverruns.toNat,
    status.epoch.toNat, status.controllerPid.toNat, status.configuredBuses.toNat,
    status.schedulingMode.code.toNat, status.realtimeErrorBits.toNat,
    status.monotonicTimestampUs.toNat⟩

theorem decodeStatus_eq : decodeStatus = fun payload =>
    (decodeStatusPayload payload).map Status.ofPayload := by
  rw [decodeStatusPayload_eq]
  refine statusLayout.eq_map_decode statusFields (fun payload hshort => ?_) ?_
  · exact guard_bind_of_not (Nat.ne_of_lt hshort) _
  · rintro ⟨state, flags, adapters, subDevices, faults, maximumJitter, currentJitter, lostFrames,
      overruns, epoch, pid, buses, scheduling, errors, timestamp⟩ body
    refine (guard_unpack statusStruct _ body _).trans ?_
    simp only [gt_iff_lt, ← BusState.ofCode?_eq_none_iff, ← SchedulingMode.ofCode?_eq_none_iff]
    cases hscheduling : SchedulingMode.ofCode? scheduling with
    | none => simp [statusFields, PEquiv.symm, hscheduling]
    | some mode =>
      obtain rfl := SchedulingMode.ofCode?_eq_some_iff.mp hscheduling
      simp [statusFields, PEquiv.symm, hscheduling, Option.map_bind, Function.comp_def, guard_and_bind, Status.ofPayload]

/-- The Python value of a BusInfo. -/
def BusInfo.ofPayload (information : BusInfoPayload) : BusInfo :=
  ⟨information.busIndex.toNat, information.state.code.toNat, (boolCode information.linkUp).toNat,
    information.lockState.code.toNat, information.lockReason.code.toNat,
    information.subDeviceCount.toNat, information.epoch.toNat, information.strings.map wireText⟩

theorem decodeStrings_append (header body : Bytes) (lengths : List UInt16) (n : ℕ) :
    decodeStrings (header ++ body) lengths (header.length + n) =
      (splitTexts lengths (body.drop n)).map (List.map wireText) := by
  induction lengths generalizing n with
  | nil => rfl
  | cons length lengths ih =>
    have hdrop : (header ++ body).drop (header.length + n) = body.drop n := by
      rw [List.drop_append, List.drop_of_length_le (Nat.le_add_right _ _), List.nil_append,
        Nat.add_sub_cancel_left]
    simp only [decodeStrings, splitTexts, hdrop, Nat.add_assoc, ih, List.drop_drop, strictUtf8_eq]
    by_cases hvalid : isValidUtf8 ((body.drop n).take length.toNat) = true
    · simp [hvalid, Option.map_bind, Option.bind_map]
    · simp [hvalid]

theorem decodeBusInfo_eq : decodeBusInfo = fun payload =>
    (decodeBusInfoPayload payload).map BusInfo.ofPayload := by
  rw [decodeBusInfoPayload_eq]
  refine busInfoLayout.eq_map_decode busInfoFields (fun payload hshort => ?_) ?_
  · exact guard_bind_of_not (fun hlong => Nat.not_le.mpr hshort hlong.1) _
  · rintro ⟨busIndex, state, linkUp, lockState, lockReason, subDeviceCount, l₀, l₁, l₂, l₃, l₄, l₅,
      l₆, epoch⟩ body
    have hlength : ∀ header, (busInfoLayout.write header ++ body).length = 30 + body.length :=
      fun header => by rw [List.length_append, busInfoLayout.length_write]; rfl
    have htexts : ∀ header lengths, decodeStrings (busInfoLayout.write header ++ body) lengths 30 =
        (splitTexts lengths body).map (List.map wireText) := fun header lengths => by
      have hread := decodeStrings_append (busInfoLayout.write header) body lengths 0
      rwa [busInfoLayout.length_write] at hread
    have hsize : (30 ≤ 30 + body.length ∧ 30 + body.length ≤ maximumBusInfo) ↔
        kBusInfoHeaderSize + body.length ≤ kMaximumBusInfo :=
      and_iff_right (Nat.le_add_right _ _)
    have hfill : 30 + (List.map UInt16.toNat [l₀, l₁, l₂, l₃, l₄, l₅, l₆]).sum = 30 + body.length ↔
        totalLength [l₀, l₁, l₂, l₃, l₄, l₅, l₆] = body.length := Nat.add_left_cancel_iff
    have hunpack : ∀ header, unpackFrom busInfoStruct (busInfoLayout.write header ++ body) =
        some header := fun header => unpackFrom_write busInfoStruct header body
    simp only [decodeBusInfo, hlength, hsize, hunpack, htexts]
    rw [map_busInfoFields_symm (fun state linkUp lockState lockReason texts =>
      (⟨busIndex.toNat, state.code.toNat, (boolCode linkUp).toNat, lockState.code.toNat,
        lockReason.code.toNat, subDeviceCount.toNat, epoch.toNat, texts.map wireText⟩ : BusInfo))
      (by rintro information rfl rfl rfl; rfl)]
    simp only [gt_iff_lt, ← BusState.ofCode?_eq_none_iff, ← AdapterLockState.ofCode?_eq_none_iff,
      ← AdapterLockReason.ofCode?_eq_none_iff, Option.bind_eq_bind, Option.bind_some, hfill]
    cases hstate : BusState.ofCode? state with
    | none => simp
    | some busState =>
      cases hlockState : AdapterLockState.ofCode? lockState with
      | none => simp
      | some adapterLockState =>
        cases hlockReason : AdapterLockReason.ofCode? lockReason with
        | none => simp
        | some adapterLockReason =>
          obtain rfl := BusState.ofCode?_eq_some_iff.mp hstate
          obtain rfl := AdapterLockState.ofCode?_eq_some_iff.mp hlockState
          obtain rfl := AdapterLockReason.ofCode?_eq_some_iff.mp hlockReason
          by_cases hlink : linkUp ≤ 1
          · have hcode : boolCode (linkUp != 0) = linkUp := boolCode_eq_iff.mpr ⟨hlink, rfl⟩
            simp [Option.bind_map, hlink, hcode]
          · simp [hlink]

/-- The checks of `decode_pdo` are those of the daemon's decoder. -/
theorem chunkChecks_iff (maximumTotalSize : ℕ) (subDevice : UInt16) (offset totalSize : UInt32)
    (chunkLength reserved : UInt16) (epoch sequence : UInt64) (body : Bytes) :
    ¬(subDevice = 0 ∨ reserved ≠ 0 ∨ epoch = 0 ∨ sequence = 0 ∨ totalSize = 0 ∨ chunkLength = 0 ∨
        chunkLength.toNat > maximumPdoChunk ∨ (totalSize.toNat : ℤ) > maximumTotalSize ∨
        offset > totalSize ∨ (chunkLength.toNat : ℤ) > totalSize.toNat - offset.toNat ∨
        32 + body.length ≠ pdoStruct.size + chunkLength.toNat) ↔
      ChunkAccepted maximumTotalSize subDevice offset totalSize chunkLength reserved epoch sequence
        body := by
  unfold ChunkAccepted
  have hmaximum : maximumPdoChunk = kMaximumPdoChunk := rfl
  have hsize : pdoStruct.size = 32 := rfl
  have hremaining : offset ≤ totalSize →
      (totalSize - offset).toNat = totalSize.toNat - offset.toNat := UInt32.toNat_sub_of_le _ _
  simp only [not_or, ne_eq, ← toNat16_eq_zero, ← toNat32_eq_zero, ← toNat64_eq_zero, hmaximum, hsize,
    gt_iff_lt, UInt32.lt_iff_toNat_lt, UInt32.le_iff_toNat_le] at hremaining ⊢
  omega

/-- The Python value of a PdoInput. -/
def PdoChunk.ofPayload (input : PdoInputPayload) : PdoChunk :=
  ⟨input.busIndex.toNat, input.subDeviceIndex.toNat, input.offset.toNat, input.totalSize.toNat,
    input.epoch.toNat, input.cycleSequence.toNat, input.data⟩

theorem decodePdo_eq (maximumTotalSize : ℕ) :
    (decodePdo · maximumTotalSize) = fun payload =>
      (decodePdoInputPayload payload maximumTotalSize).map PdoChunk.ofPayload := by
  have hdecode := decodePdoInputPayload_eq maximumTotalSize
  rw [funext_iff] at hdecode
  simp only [hdecode]
  refine pdoInputLayout.eq_map_decode (pdoInputFields maximumTotalSize) (fun payload hshort => ?_) ?_
  · exact guard_bind_of_not (not_not.mpr hshort) _
  · rintro ⟨bus, subDevice, offset, totalSize, chunkLength, reserved, epoch, sequence⟩ body
    have hchecks := chunkChecks_iff maximumTotalSize subDevice offset totalSize chunkLength reserved
      epoch sequence body
    have hlength : ∀ header, (pdoInputLayout.write header ++ body).length = 32 + body.length :=
      fun header => by rw [List.length_append, pdoInputLayout.length_write]; rfl
    have hunpack : ∀ header, unpackFrom pdoStruct (pdoInputLayout.write header ++ body) =
        some header := fun header => unpackFrom_write pdoStruct header body
    have hdata : ∀ header, (pdoInputLayout.write header ++ body).drop pdoStruct.size = body :=
      fun header => by
        rw [show pdoStruct.size = (pdoInputLayout.write header).length from
          (pdoInputLayout.length_write header).symm, List.drop_left]
    have hsize : ¬32 + body.length < pdoStruct.size := Nat.not_lt.mpr (Nat.le_add_right _ _)
    simp only [decodePdo, hlength, hunpack, hdata]
    rw [pdoInputFields_symm, guard_pos hsize]
    split
    case isTrue hvalid =>
      rw [Option.bind_eq_bind, Option.bind_some, Option.bind_eq_bind, Option.bind_some, guard_pos (hchecks.mpr hvalid)]
      rfl
    case isFalse hvalid =>
      rw [Option.bind_eq_bind, Option.bind_some, Option.bind_eq_bind, Option.bind_some, guard_neg (mt hchecks.mp hvalid)]
      rfl

end Python

/-! ### All messages -/

/-- **The three payload codecs agree.**  Requests of the Java and the Python client reach
the daemon with the values they were encoded from; the messages of the daemon are accepted
by all three decoders or by none, and mean the same to all of them.  The image bound of the
Java decoder is an `int`. -/
theorem codecs_agree (maximumTotalSize : ℕ) (hint : maximumTotalSize ≤ 2147483647) :
    (Delivers (fun (role, subscribeInputs, periodMillis, lastSeenEpoch) =>
        Java.encodeHello role subscribeInputs periodMillis lastSeenEpoch) decodeHelloPayload
        Java.helloArguments ∧
      Delivers Java.encodeEpoch decodeEpochPayload UInt64.toInt64 ∧
      Delivers (fun (epoch, enabled) => Java.encodeOutputEnable epoch enabled)
        decodeOutputEnablePayload Java.outputEnableArguments ∧
      Delivers (fun (epoch, busIndex, subDeviceIndex, offset, data) =>
        Java.encodeOutputWrite epoch busIndex subDeviceIndex offset data) decodeOutputWritePayload
        Java.outputWriteArguments ∧
      Delivers (fun (enabled, periodMillis) => Java.encodeSubscription enabled periodMillis)
        decodeSubscribeInputsPayload Java.subscriptionArguments ∧
      Delivers (fun (epoch, busIndex) => Java.encodeAdapterUnlock epoch busIndex)
        decodeAdapterUnlockPayload Java.adapterUnlockArguments) ∧
    (Delivers (fun (role, subscribe, periodMs, lastSeenEpoch) =>
        Python.hello role subscribe periodMs lastSeenEpoch) decodeHelloPayload
        Python.helloArguments ∧
      Delivers Python.epoch decodeEpochPayload (fun value => (value.toNat : ℤ)) ∧
      Delivers (fun (value, enabled) => Python.outputEnable value enabled)
        decodeOutputEnablePayload Python.outputEnableArguments ∧
      Delivers (fun (value, busIndex, subdeviceIndex, offset, data) =>
        Python.outputWrite value busIndex subdeviceIndex offset data) decodeOutputWritePayload
        Python.outputWriteArguments ∧
      Delivers (fun (enabled, periodMs) => Python.subscription enabled periodMs)
        decodeSubscribeInputsPayload Python.subscriptionArguments ∧
      Delivers (fun (value, busIndex) => Python.adapterUnlock value busIndex)
        decodeAdapterUnlockPayload Python.adapterUnlockArguments) ∧
    ∀ payload,
      (Java.decodeHelloAck payload =
          (decodeHelloAckPayload payload).map Java.HelloAck.ofPayload ∧
        Java.decodeStatus payload = (decodeStatusPayload payload).map Java.Status.ofPayload ∧
        Java.decodeAck payload = (decodeAckPayload payload).map Java.ackOfPayload ∧
        Java.decodeBusInfo payload = (decodeBusInfoPayload payload).map Java.BusInfo.ofPayload ∧
        Java.decodeOutputsDisabled payload =
          (decodeOutputsDisabledPayload payload).map Java.OutputsDisabled.ofPayload ∧
        Java.decodePdoChunk payload maximumTotalSize =
          (decodePdoInputPayload payload maximumTotalSize).map Java.PdoChunk.ofPayload) ∧
      Python.decodeHelloAck payload =
          (decodeHelloAckPayload payload).map Python.HelloAck.ofPayload ∧
        Python.decodeStatus payload = (decodeStatusPayload payload).map Python.Status.ofPayload ∧
        Python.decodeAck payload = (decodeAckPayload payload).map Python.ackOfPayload ∧
        Python.decodeBusInfo payload =
          (decodeBusInfoPayload payload).map Python.BusInfo.ofPayload ∧
        Python.decodeOutputsDisabled payload =
          (decodeOutputsDisabledPayload payload).map Python.outputsDisabledOfPayload ∧
        Python.decodePdo payload maximumTotalSize =
          (decodePdoInputPayload payload maximumTotalSize).map Python.PdoChunk.ofPayload := by
  refine ⟨⟨Java.delivers_hello, Java.delivers_epoch, Java.delivers_outputEnable,
      Java.delivers_outputWrite, Java.delivers_subscription, Java.delivers_adapterUnlock⟩,
    ⟨Python.delivers_hello, Python.delivers_epoch, Python.delivers_outputEnable,
      Python.delivers_outputWrite, Python.delivers_subscription, Python.delivers_adapterUnlock⟩,
    fun payload => ⟨⟨?_, ?_, ?_, ?_, ?_, ?_⟩, ?_, ?_, ?_, ?_, ?_, ?_⟩⟩
  · rw [Java.decodeHelloAck_eq]
  · rw [Java.decodeStatus_eq]
  · rw [Java.decodeAck_eq]
  · rw [Java.decodeBusInfo_eq]
  · rw [Java.decodeOutputsDisabled_eq]
  · exact congrFun (Java.decodePdoChunk_eq maximumTotalSize hint) payload
  · rw [Python.decodeHelloAck_eq]
  · rw [Python.decodeStatus_eq]
  · rw [Python.decodeAck_eq]
  · rw [Python.decodeBusInfo_eq]
  · rw [Python.decodeOutputsDisabled_eq]
  · exact congrFun (Python.decodePdo_eq maximumTotalSize) payload

/-- A PdoInput with one byte of SubDevice 1 on bus 0. -/
def oneByteInput : PdoInputPayload := ⟨0, 1, 0, 1, 7, 3, [0x2a]⟩

/-- At the daemon's image bound the clients read such an input as it was sent. -/
theorem oneByteInput_agrees :
    Java.decodePdoChunk (encodePdoInputPayload oneByteInput) kMaximumPdoImage =
        some ⟨0, 1, 0, 1, 7, 3, [0x2a]⟩ ∧
      Python.decodePdo (encodePdoInputPayload oneByteInput) kMaximumPdoImage =
        some ⟨0, 1, 0, 1, 7, 3, [0x2a]⟩ := by
  have hdecode : decodePdoInputPayload (encodePdoInputPayload oneByteInput) kMaximumPdoImage =
      some oneByteInput := by decide +kernel
  obtain ⟨-, -, hdecoders⟩ := codecs_agree kMaximumPdoImage (by decide)
  obtain ⟨⟨-, -, -, -, -, hjava⟩, -, -, -, -, -, hpython⟩ :=
    hdecoders (encodePdoInputPayload oneByteInput)
  rw [hjava, hpython, hdecode]
  exact ⟨rfl, rfl⟩

end EcSystemCore
