import EcSystemCore.Lib.Layout
import EcSystemCore.Protocol.ClientPayloads
import EcSystemCore.Protocol.LittleEndian

/-!
# Payload round trips

Each payload is a message in a fixed layout: its header as a sequence of bytes and
little-endian words, and the partial equivalence between payloads and pairs of header
and body that its range checks describe (`helloFields` and its companions).  The
source's encoder and decoder, which reads at offsets, are shown to be the `encode` and
`decode` of that layout; that they are inverse to each other
(`payloads_roundTrip`) is then a fact about layouts.
-/

namespace EcSystemCore

/-! ### Words -/

namespace Wire

/-- One byte. -/
def u8 : Layout UInt8 UInt8 where
  size := 1
  write value := [value]
  read
    | [] => none
    | value :: rest => some (value, rest)
  length_write _ := rfl
  read_eq_some_iff := by
    rintro (_ | ⟨byte, bytes⟩) value rest <;> simp
  isSome_read := by
    rintro (_ | ⟨byte, bytes⟩) hlong
    · cases hlong
    · rfl

/-- A little-endian word of 16 bits. -/
def u16 : Layout UInt8 UInt16 where
  size := 2
  write := le16
  read bytes := (readLe16 bytes 0).map fun value => (value, bytes.drop 2)
  length_write _ := rfl
  read_eq_some_iff := by
    intro bytes value rest
    rw [Option.map_eq_some_iff]
    constructor
    · rintro ⟨_, hread, heq⟩
      cases heq
      exact drop_of_readLe16 hread
    · rintro rfl
      exact ⟨value, readLe16_eq_some_iff.mpr ⟨rest, rfl⟩, rfl⟩
  isSome_read := by
    intro bytes hlong
    obtain ⟨value, rest, rfl⟩ := exists_le16 hlong
    rw [readLe16_eq_some_iff.mpr ⟨rest, rfl⟩]
    rfl

/-- A little-endian word of 32 bits. -/
def u32 : Layout UInt8 UInt32 where
  size := 4
  write := le32
  read bytes := (readLe32 bytes 0).map fun value => (value, bytes.drop 4)
  length_write _ := rfl
  read_eq_some_iff := by
    intro bytes value rest
    rw [Option.map_eq_some_iff]
    constructor
    · rintro ⟨_, hread, heq⟩
      cases heq
      exact drop_of_readLe32 hread
    · rintro rfl
      exact ⟨value, readLe32_eq_some_iff.mpr ⟨rest, rfl⟩, rfl⟩
  isSome_read := by
    intro bytes hlong
    obtain ⟨value, rest, rfl⟩ := exists_le32 hlong
    rw [readLe32_eq_some_iff.mpr ⟨rest, rfl⟩]
    rfl

/-- A little-endian word of 64 bits. -/
def u64 : Layout UInt8 UInt64 where
  size := 8
  write := le64
  read bytes := (readLe64 bytes 0).map fun value => (value, bytes.drop 8)
  length_write _ := rfl
  read_eq_some_iff := by
    intro bytes value rest
    rw [Option.map_eq_some_iff]
    constructor
    · rintro ⟨_, hread, heq⟩
      cases heq
      exact drop_of_readLe64 hread
    · rintro rfl
      exact ⟨value, readLe64_eq_some_iff.mpr ⟨rest, rfl⟩, rfl⟩
  isSome_read := by
    intro bytes hlong
    obtain ⟨value, rest, rfl⟩ := exists_le64 hlong
    rw [readLe64_eq_some_iff.mpr ⟨rest, rfl⟩]
    rfl

@[simp] theorem u16_read (value : UInt16) (rest : Bytes) :
    u16.read (le16 value ++ rest) = some (value, rest) := u16.read_write value rest

@[simp] theorem u32_read (value : UInt32) (rest : Bytes) :
    u32.read (le32 value ++ rest) = some (value, rest) := u32.read_write value rest

@[simp] theorem u64_read (value : UInt64) (rest : Bytes) :
    u64.read (le64 value ++ rest) = some (value, rest) := u64.read_write value rest

@[simp] theorem length_le16 (value : UInt16) : (le16 value).length = 2 := rfl
@[simp] theorem length_le32 (value : UInt32) : (le32 value).length = 4 := rfl
@[simp] theorem length_le64 (value : UInt64) : (le64 value).length = 8 := rfl

@[simp] theorem u8_write (value : UInt8) : u8.write value = [value] := rfl
@[simp] theorem u16_write (value : UInt16) : u16.write value = le16 value := rfl
@[simp] theorem u32_write (value : UInt32) : u32.write value = le32 value := rfl
@[simp] theorem u64_write (value : UInt64) : u64.write value = le64 value := rfl

/-! ### Reads at an offset -/

section Offsets

variable (bytes rest : Bytes) (n : ℕ)

theorem readLe16_eq_read : readLe16 bytes n = (u16.read (bytes.drop n)).map Prod.fst := by
  simp [u16, readLe16, Function.comp_def]

theorem readLe32_eq_read : readLe32 bytes n = (u32.read (bytes.drop n)).map Prod.fst := by
  simp [u32, readLe32, Function.comp_def]

theorem readLe64_eq_read : readLe64 bytes n = (u64.read (bytes.drop n)).map Prod.fst := by
  simp [u64, readLe64, Function.comp_def]

theorem drop_le16 (value : UInt16) : (le16 value ++ rest).drop (n + 2) = rest.drop n := rfl

theorem drop_le32 (value : UInt32) : (le32 value ++ rest).drop (n + 4) = rest.drop n := rfl

theorem drop_le64 (value : UInt64) : (le64 value ++ rest).drop (n + 8) = rest.drop n := rfl

theorem getElem?_le16 (value : UInt16) : (le16 value ++ rest)[n + 2]? = rest[n]? := rfl

theorem getElem?_le32 (value : UInt32) : (le32 value ++ rest)[n + 4]? = rest[n]? := rfl

theorem getElem?_le64 (value : UInt64) : (le64 value ++ rest)[n + 8]? = rest[n]? := rfl

end Offsets

end Wire

/-! ### Enumerators and booleans -/

theorem ClientRole.ofCode?_eq_some_iff {code : UInt8} {role : ClientRole} :
    ofCode? code = some role ↔ role.code = code := by
  constructor
  · intro h
    unfold ofCode? at h
    split at h <;> cases h <;> rfl
  · rintro rfl
    cases role <;> rfl

theorem AckStatus.ofCode?_eq_some_iff {code : UInt16} {status : AckStatus} :
    ofCode? code = some status ↔ status.code = code := by
  constructor
  · intro h
    unfold ofCode? at h
    split at h <;> cases h <;> rfl
  · rintro rfl
    cases status <;> rfl

theorem DisableReason.ofCode?_eq_some_iff {code : UInt16} {reason : DisableReason} :
    ofCode? code = some reason ↔ reason.code = code := by
  constructor
  · intro h
    unfold ofCode? at h
    split at h <;> cases h <;> rfl
  · rintro rfl
    cases reason <;> rfl

theorem SchedulingMode.ofCode?_eq_some_iff {code : UInt8} {mode : SchedulingMode} :
    ofCode? code = some mode ↔ mode.code = code := by
  constructor
  · intro h
    unfold ofCode? at h
    split at h <;> cases h <;> rfl
  · rintro rfl
    cases mode <;> rfl

theorem BusState.ofCode?_eq_some_iff {code : UInt8} {state : BusState} :
    ofCode? code = some state ↔ state.code = code := by
  constructor
  · intro h
    unfold ofCode? at h
    split at h <;> cases h <;> rfl
  · rintro rfl
    cases state <;> rfl

theorem AdapterLockState.ofCode?_eq_some_iff {code : UInt8} {state : AdapterLockState} :
    ofCode? code = some state ↔ state.code = code := by
  constructor
  · intro h
    unfold ofCode? at h
    split at h <;> cases h <;> rfl
  · rintro rfl
    cases state <;> rfl

theorem AdapterLockReason.ofCode?_eq_some_iff {code : UInt8} {reason : AdapterLockReason} :
    ofCode? code = some reason ↔ reason.code = code := by
  constructor
  · intro h
    unfold ofCode? at h
    split at h <;> cases h <;> rfl
  · rintro rfl
    cases reason <;> rfl

theorem boolCode_eq_iff {value : Bool} {code : UInt8} :
    boolCode value = code ↔ code ≤ 1 ∧ (code != 0) = value := by
  cases value <;> exact forall_byte code (by decide +kernel)

/-- A failed check ends the decoder. -/
theorem guard_bind_of_not {α : Type} {p : Prop} [Decidable p] (h : ¬p) (next : Unit → Option α) :
    (guard p >>= next) = none := by
  simp [guard, h]

/-- A length field that counts data of at most `bound` bytes. -/
theorem length_iff (data : Bytes) (length : UInt16) {bound : ℕ} (hbound : bound ≤ 0xffff) :
    length ≠ 0 ∧ length.toNat ≤ bound ∧ data.length = length.toNat ↔
      data ≠ [] ∧ data.length ≤ bound ∧ UInt16.ofNat data.length = length := by
  constructor
  · rintro ⟨hne, hle, hlength⟩
    refine ⟨fun hnil => hne (UInt16.toNat_inj.mp ?_), by omega, ?_⟩
    · rw [← hlength, hnil]
      rfl
    · rw [hlength, UInt16.ofNat_toNat]
  · rintro ⟨hne, hle, rfl⟩
    have hpos := List.length_pos_of_ne_nil hne
    have hnat : (UInt16.ofNat data.length).toNat = data.length :=
      UInt16.toNat_ofNat_of_lt (by unfold UInt16.size; omega)
    refine ⟨fun hzero => ?_, by omega, hnat.symm⟩
    rw [hzero] at hnat
    exact hpos.ne hnat

/-! ### Hello and its answer -/

/-- The fields of a Hello. -/
def helloLayout := Wire.u8.pair (Wire.u8.pair (Wire.u16.pair Wire.u64))

def helloFields : HelloPayload ≃. (UInt8 × UInt8 × UInt16 × UInt64) × Bytes where
  toFun hello :=
    if hello.inputPeriodMs < 10 ∨ hello.inputPeriodMs > 1000 then none
    else some ((hello.role.code, boolCode hello.subscribeInputs, hello.inputPeriodMs,
      hello.lastSeenEpoch), [])
  invFun := fun ((role, subscribe, period, epoch), body) => do
    guard (body = [])
    let role ← ClientRole.ofCode? role
    guard (subscribe ≤ 1)
    guard (10 ≤ period ∧ period ≤ 1000)
    return ⟨role, subscribe != 0, period, epoch⟩
  inv := by
    rintro ⟨role, subscribe, period, epoch⟩ ⟨⟨rawRole, rawSubscribe, rawPeriod, rawEpoch⟩, body⟩
    simp [Option.bind_eq_some_iff, ClientRole.ofCode?_eq_some_iff, boolCode_eq_iff]
    grind

theorem encodeHelloPayload_eq : encodeHelloPayload = helloLayout.encode helloFields := by
  funext hello
  simp only [encodeHelloPayload, Layout.encode, helloFields, PEquiv.coe_mk]
  split <;> simp [helloLayout]

theorem decodeHelloPayload_eq : decodeHelloPayload = helloLayout.decode helloFields := by
  refine helloLayout.eq_decode helloFields (fun payload hshort => ?_) ?_
  · exact guard_bind_of_not (Nat.ne_of_lt hshort) _
  · rintro ⟨role, subscribe, period, epoch⟩ body
    simp [decodeHelloPayload, helloLayout, helloFields, PEquiv.symm, kHelloPayloadSize,
      Wire.readLe16_eq_read, Wire.readLe64_eq_read, Wire.drop_le16, ← Nat.add_assoc]

/-- The fields of a HelloAck. -/
def helloAckLayout :=
  Wire.u8.pair (Wire.u8.pair (Wire.u16.pair (Wire.u64.pair (Wire.u32.pair Wire.u32))))

def helloAckFields :
    HelloAckPayload ≃. (UInt8 × UInt8 × UInt16 × UInt64 × UInt32 × UInt32) × Bytes where
  toFun hello :=
    if hello.heartbeatTimeoutMs = 0 ∨ hello.epoch = 0 then none
    else some ((hello.grantedRole.code, boolCode hello.outputsEnabled, hello.heartbeatTimeoutMs,
      hello.epoch, hello.peerPid, hello.capabilities), [])
  invFun := fun ((role, outputs, timeout, epoch, peerPid, capabilities), body) => do
    guard (body = [])
    let role ← ClientRole.ofCode? role
    guard (outputs ≤ 1)
    guard (timeout ≠ 0)
    guard (epoch ≠ 0)
    return ⟨role, outputs != 0, timeout, epoch, peerPid, capabilities⟩
  inv := by
    rintro ⟨role, outputs, timeout, epoch, peerPid, capabilities⟩
      ⟨⟨rawRole, rawOutputs, rawTimeout, rawEpoch, rawPeerPid, rawCapabilities⟩, body⟩
    simp [Option.bind_eq_some_iff, ClientRole.ofCode?_eq_some_iff, boolCode_eq_iff]
    grind

theorem encodeHelloAckPayload_eq : encodeHelloAckPayload = helloAckLayout.encode helloAckFields := by
  funext hello
  simp only [encodeHelloAckPayload, Layout.encode, helloAckFields, PEquiv.coe_mk]
  split <;> simp [helloAckLayout]

theorem decodeHelloAckPayload_eq : decodeHelloAckPayload = helloAckLayout.decode helloAckFields := by
  refine helloAckLayout.eq_decode helloAckFields (fun payload hshort => ?_) ?_
  · exact guard_bind_of_not (Nat.ne_of_lt hshort) _
  · rintro ⟨role, outputs, timeout, epoch, peerPid, capabilities⟩ body
    simp [decodeHelloAckPayload, helloAckLayout, helloAckFields, PEquiv.symm, kHelloAckPayloadSize,
      Wire.readLe16_eq_read, Wire.readLe32_eq_read, Wire.readLe64_eq_read, Wire.drop_le16,
      Wire.drop_le32, Wire.drop_le64, ← Nat.add_assoc]

/-! ### Requests -/

def epochFields : UInt64 ≃. UInt64 × Bytes where
  toFun epoch := if epoch = 0 then none else some (epoch, [])
  invFun := fun (epoch, body) => do
    guard (body = [])
    guard (epoch ≠ 0)
    return epoch
  inv := by
    rintro epoch ⟨rawEpoch, body⟩
    simp [Option.bind_eq_some_iff]
    grind

theorem encodeEpochPayload_eq : encodeEpochPayload = Wire.u64.encode epochFields := by
  funext epoch
  simp only [encodeEpochPayload, Layout.encode, epochFields, PEquiv.coe_mk]
  split <;> simp

theorem decodeEpochPayload_eq : decodeEpochPayload = Wire.u64.decode epochFields := by
  refine Wire.u64.eq_decode epochFields (fun payload hshort => ?_) ?_
  · exact guard_bind_of_not (Nat.ne_of_lt hshort) _
  · intro epoch body
    simp [decodeEpochPayload, epochFields, PEquiv.symm, Wire.readLe64_eq_read]

/-- The fields of an OutputEnable. -/
def outputEnableLayout := Wire.u64.pair Wire.u8

def outputEnableFields : OutputEnablePayload ≃. (UInt64 × UInt8) × Bytes where
  toFun enable :=
    if enable.epoch = 0 then none else some ((enable.epoch, boolCode enable.enabled), [])
  invFun := fun ((epoch, enabled), body) => do
    guard (body = [])
    guard (enabled ≤ 1)
    guard (epoch ≠ 0)
    return ⟨epoch, enabled != 0⟩
  inv := by
    rintro ⟨epoch, enabled⟩ ⟨⟨rawEpoch, rawEnabled⟩, body⟩
    simp [Option.bind_eq_some_iff, boolCode_eq_iff]
    grind

theorem encodeOutputEnablePayload_eq :
    encodeOutputEnablePayload = outputEnableLayout.encode outputEnableFields := by
  funext enable
  simp only [encodeOutputEnablePayload, encodeEpochPayload, Layout.encode, outputEnableFields,
    PEquiv.coe_mk]
  split <;> simp [outputEnableLayout, le64]

theorem decodeOutputEnablePayload_eq :
    decodeOutputEnablePayload = outputEnableLayout.decode outputEnableFields := by
  refine outputEnableLayout.eq_decode outputEnableFields (fun payload hshort => ?_) ?_
  · exact guard_bind_of_not (Nat.ne_of_lt hshort) _
  · rintro ⟨epoch, enabled⟩ body
    have hlength : (outputEnableLayout.write (epoch, enabled) ++ body).length = 9 ↔ body = [] := by
      rw [List.length_append, outputEnableLayout.length_write]
      exact Nat.add_eq_left.trans List.length_eq_zero_iff
    have henabled : (outputEnableLayout.write (epoch, enabled) ++ body)[8]? = some enabled := rfl
    unfold decodeOutputEnablePayload
    simp only [hlength, henabled]
    simp only [outputEnableLayout, Layout.pair_write, Wire.u64_write, List.append_assoc,
      Wire.readLe64_eq_read, List.drop_zero, Wire.u64_read, Option.map_some, Option.bind_some]
    rfl

/-- The fields of an OutputWrite in front of its data. -/
def outputWriteLayout :=
  Wire.u64.pair (Wire.u16.pair (Wire.u16.pair (Wire.u32.pair (Wire.u16.pair Wire.u16))))

def outputWriteFields :
    OutputWritePayload ≃. (UInt64 × UInt16 × UInt16 × UInt32 × UInt16 × UInt16) × Bytes where
  toFun write :=
    if write.epoch = 0 ∨ write.subDeviceIndex = 0 ∨ write.data = [] ∨
        write.data.length > kMaximumOutputWrite then none
    else some ((write.epoch, write.busIndex, write.subDeviceIndex, write.offset,
      .ofNat write.data.length, 0), write.data)
  invFun := fun ((epoch, busIndex, subDeviceIndex, offset, length, reserved), body) => do
    guard (epoch ≠ 0)
    guard (subDeviceIndex ≠ 0)
    guard (length ≠ 0 ∧ length.toNat ≤ kMaximumOutputWrite)
    guard (reserved = 0 ∧ body.length = length.toNat)
    return ⟨epoch, busIndex, subDeviceIndex, offset, body⟩
  inv := by
    rintro ⟨epoch, busIndex, subDeviceIndex, offset, data⟩
      ⟨⟨rawEpoch, rawBusIndex, rawSubDeviceIndex, rawOffset, length, reserved⟩, body⟩
    have hlength := length_iff data length (by decide : kMaximumOutputWrite ≤ 0xffff)
    simp [Option.bind_eq_some_iff]
    grind

theorem encodeOutputWritePayload_eq :
    encodeOutputWritePayload = outputWriteLayout.encode outputWriteFields := by
  funext write
  simp only [encodeOutputWritePayload, Layout.encode, outputWriteFields, PEquiv.coe_mk]
  split <;> simp [outputWriteLayout]

theorem decodeOutputWritePayload_eq :
    decodeOutputWritePayload = outputWriteLayout.decode outputWriteFields := by
  refine outputWriteLayout.eq_decode outputWriteFields (fun payload hshort => ?_) ?_
  · exact guard_bind_of_not (Nat.not_le.mpr hshort) _
  · rintro ⟨epoch, busIndex, subDeviceIndex, offset, length, reserved⟩ body
    simp [decodeOutputWritePayload, outputWriteLayout, outputWriteFields, PEquiv.symm,
      Wire.readLe16_eq_read, Wire.readLe32_eq_read, Wire.readLe64_eq_read, Wire.drop_le16,
      Wire.drop_le32, Wire.drop_le64, ← Nat.add_assoc]

/-- The fields of a SubscribeInputs. -/
def subscribeInputsLayout := Wire.u8.pair (Wire.u8.pair Wire.u16)

def subscribeInputsFields : SubscribeInputsPayload ≃. (UInt8 × UInt8 × UInt16) × Bytes where
  toFun subscription :=
    if subscription.periodMs < 10 ∨ subscription.periodMs > 1000 then none
    else some ((boolCode subscription.enabled, 0, subscription.periodMs), [])
  invFun := fun ((enabled, reserved, periodMs), body) => do
    guard (body = [])
    guard (enabled ≤ 1 ∧ reserved = 0)
    guard (10 ≤ periodMs ∧ periodMs ≤ 1000)
    return ⟨enabled != 0, periodMs⟩
  inv := by
    rintro ⟨enabled, periodMs⟩ ⟨⟨rawEnabled, reserved, rawPeriodMs⟩, body⟩
    simp [Option.bind_eq_some_iff, boolCode_eq_iff]
    grind

theorem encodeSubscribeInputsPayload_eq :
    encodeSubscribeInputsPayload = subscribeInputsLayout.encode subscribeInputsFields := by
  funext subscription
  simp only [encodeSubscribeInputsPayload, Layout.encode, subscribeInputsFields, PEquiv.coe_mk]
  split <;> simp [subscribeInputsLayout]

theorem decodeSubscribeInputsPayload_eq :
    decodeSubscribeInputsPayload = subscribeInputsLayout.decode subscribeInputsFields := by
  refine subscribeInputsLayout.eq_decode subscribeInputsFields (fun payload hshort => ?_) ?_
  · exact guard_bind_of_not (Nat.ne_of_lt hshort) _
  · rintro ⟨enabled, reserved, periodMs⟩ body
    simp [decodeSubscribeInputsPayload, subscribeInputsLayout, subscribeInputsFields, PEquiv.symm,
      Wire.readLe16_eq_read]

/-- The fields of an AdapterUnlock. -/
def adapterUnlockLayout := Wire.u64.pair Wire.u16

def adapterUnlockFields : AdapterUnlockPayload ≃. (UInt64 × UInt16) × Bytes where
  toFun unlock := if unlock.epoch = 0 then none else some ((unlock.epoch, unlock.busIndex), [])
  invFun := fun ((epoch, busIndex), body) => do
    guard (body = [])
    guard (epoch ≠ 0)
    return ⟨epoch, busIndex⟩
  inv := by
    rintro ⟨epoch, busIndex⟩ ⟨⟨rawEpoch, rawBusIndex⟩, body⟩
    simp [Option.bind_eq_some_iff]
    grind

theorem encodeAdapterUnlockPayload_eq :
    encodeAdapterUnlockPayload = adapterUnlockLayout.encode adapterUnlockFields := by
  funext unlock
  simp only [encodeAdapterUnlockPayload, encodeEpochPayload, Layout.encode, adapterUnlockFields,
    PEquiv.coe_mk]
  split <;> simp [adapterUnlockLayout, le64]

theorem decodeAdapterUnlockPayload_eq :
    decodeAdapterUnlockPayload = adapterUnlockLayout.decode adapterUnlockFields := by
  refine adapterUnlockLayout.eq_decode adapterUnlockFields (fun payload hshort => ?_) ?_
  · exact guard_bind_of_not (Nat.ne_of_lt hshort) _
  · rintro ⟨epoch, busIndex⟩ body
    simp [decodeAdapterUnlockPayload, adapterUnlockLayout, adapterUnlockFields, PEquiv.symm,
      Wire.readLe16_eq_read, Wire.readLe64_eq_read, Wire.drop_le64, ← Nat.add_assoc]

/-! ### Answers and notices -/

/-- The fields of an Ack. -/
def ackLayout := Wire.u16.pair (Wire.u16.pair Wire.u32)

def ackFields : AckStatus × UInt32 ≃. (UInt16 × UInt16 × UInt32) × Bytes where
  toFun := fun (status, detail) => some ((status.code, 0, detail), [])
  invFun := fun ((status, reserved, detail), body) => do
    guard (body = [])
    guard (reserved = 0)
    let status ← AckStatus.ofCode? status
    return (status, detail)
  inv := by
    rintro ⟨status, detail⟩ ⟨⟨rawStatus, reserved, rawDetail⟩, body⟩
    simp [Option.bind_eq_some_iff, AckStatus.ofCode?_eq_some_iff]
    grind

theorem encodeAckPayload_eq :
    (fun ack : AckStatus × UInt32 => encodeAckPayload ack.1 ack.2) = ackLayout.encode ackFields := by
  funext ack
  simp [encodeAckPayload, Layout.encode, ackFields, ackLayout]

theorem decodeAckPayload_eq : decodeAckPayload = ackLayout.decode ackFields := by
  refine ackLayout.eq_decode ackFields (fun payload hshort => ?_) ?_
  · exact guard_bind_of_not (Nat.ne_of_lt hshort) _
  · rintro ⟨status, reserved, detail⟩ body
    simp [decodeAckPayload, ackLayout, ackFields, PEquiv.symm, Wire.readLe16_eq_read,
      Wire.readLe32_eq_read, Wire.drop_le16, ← Nat.add_assoc]

/-- The fields of an OutputsDisabled. -/
def outputsDisabledLayout := Wire.u16.pair (Wire.u16.pair Wire.u64)

def outputsDisabledFields : OutputsDisabledPayload ≃. (UInt16 × UInt16 × UInt64) × Bytes where
  toFun disabled :=
    if disabled.epoch = 0 then none
    else some ((disabled.reason.code, disabled.busIndex, disabled.epoch), [])
  invFun := fun ((reason, busIndex, epoch), body) => do
    guard (body = [])
    let reason ← DisableReason.ofCode? reason
    guard (epoch ≠ 0)
    return ⟨reason, busIndex, epoch⟩
  inv := by
    rintro ⟨reason, busIndex, epoch⟩ ⟨⟨rawReason, rawBusIndex, rawEpoch⟩, body⟩
    simp [Option.bind_eq_some_iff, DisableReason.ofCode?_eq_some_iff]
    grind

theorem encodeOutputsDisabledPayload_eq :
    encodeOutputsDisabledPayload = outputsDisabledLayout.encode outputsDisabledFields := by
  funext disabled
  simp only [encodeOutputsDisabledPayload, Layout.encode, outputsDisabledFields, PEquiv.coe_mk]
  split <;> simp [outputsDisabledLayout]

theorem decodeOutputsDisabledPayload_eq :
    decodeOutputsDisabledPayload = outputsDisabledLayout.decode outputsDisabledFields := by
  refine outputsDisabledLayout.eq_decode outputsDisabledFields (fun payload hshort => ?_) ?_
  · exact guard_bind_of_not (Nat.ne_of_lt hshort) _
  · rintro ⟨reason, busIndex, epoch⟩ body
    simp [decodeOutputsDisabledPayload, outputsDisabledLayout, outputsDisabledFields, PEquiv.symm,
      Wire.readLe16_eq_read, Wire.readLe64_eq_read, Wire.drop_le16, ← Nat.add_assoc]

/-! ### Status -/

/-- The fields of a Status. -/
def statusLayout :=
  Wire.u8.pair (Wire.u8.pair (Wire.u16.pair (Wire.u16.pair (Wire.u16.pair (Wire.u32.pair
    (Wire.u32.pair (Wire.u64.pair (Wire.u64.pair (Wire.u64.pair (Wire.u32.pair (Wire.u16.pair
      (Wire.u8.pair (Wire.u8.pair Wire.u64)))))))))))))

/-- The values of these fields. -/
abbrev StatusHeader :=
  UInt8 × UInt8 × UInt16 × UInt16 × UInt16 × UInt32 × UInt32 × UInt64 × UInt64 × UInt64 ×
    UInt32 × UInt16 × UInt8 × UInt8 × UInt64

def statusFields : StatusPayload ≃. StatusHeader × Bytes where
  toFun status :=
    if BusState.ofCode? status.aggregateState = none ∨ status.epoch = 0 ∨
        status.realtimeErrorBits &&& 0x80 ≠ 0 then none
    else some ((status.aggregateState, status.flags, status.activeAdapters, status.subDevices,
      status.activeFaults, status.maximumJitterUs, status.currentJitterUs, status.lostFrames,
      status.cycleOverruns, status.epoch, status.controllerPid, status.configuredBuses,
      status.schedulingMode.code, status.realtimeErrorBits, status.monotonicTimestampUs), [])
  invFun := fun ((state, flags, adapters, subDevices, faults, maximumJitter, currentJitter,
      lostFrames, overruns, epoch, pid, buses, scheduling, errors, timestamp), body) => do
    guard (body = [])
    let scheduling ← SchedulingMode.ofCode? scheduling
    guard (BusState.ofCode? state ≠ none ∧ epoch ≠ 0 ∧ errors &&& 0x80 = 0)
    return ⟨state, flags, adapters, subDevices, faults, maximumJitter, currentJitter, lostFrames,
      overruns, epoch, pid, buses, scheduling, errors, timestamp⟩
  inv := by
    rintro ⟨state, flags, adapters, subDevices, faults, maximumJitter, currentJitter, lostFrames,
      overruns, epoch, pid, buses, scheduling, errors, timestamp⟩
      ⟨⟨state', flags', adapters', subDevices', faults', maximumJitter', currentJitter',
        lostFrames', overruns', epoch', pid', buses', scheduling', errors', timestamp'⟩, body⟩
    simp [Option.bind_eq_some_iff, SchedulingMode.ofCode?_eq_some_iff]
    grind

theorem encodeStatusPayload_eq : encodeStatusPayload = statusLayout.encode statusFields := by
  funext status
  simp only [encodeStatusPayload, Layout.encode, statusFields, PEquiv.coe_mk]
  split <;> simp [statusLayout]

theorem decodeStatusPayload_eq : decodeStatusPayload = statusLayout.decode statusFields := by
  refine statusLayout.eq_decode statusFields (fun payload hshort => ?_) ?_
  · exact guard_bind_of_not (Nat.ne_of_lt hshort) _
  · rintro ⟨state, flags, adapters, subDevices, faults, maximumJitter, currentJitter, lostFrames,
      overruns, epoch, pid, buses, scheduling, errors, timestamp⟩ body
    have hlength : (statusLayout.write (state, flags, adapters, subDevices, faults, maximumJitter,
        currentJitter, lostFrames, overruns, epoch, pid, buses, scheduling, errors, timestamp) ++
        body).length = kStatusPayloadSize ↔ body = [] := by
      rw [List.length_append, statusLayout.length_write]
      exact Nat.add_eq_left.trans List.length_eq_zero_iff
    unfold decodeStatusPayload
    simp only [hlength]
    simp only [statusLayout, Layout.pair_write, Wire.u8_write, Wire.u16_write, Wire.u32_write, Wire.u64_write,
      List.append_assoc, List.cons_append, List.nil_append, List.drop_succ_cons, List.drop_zero,
      Wire.readLe16_eq_read, Wire.readLe32_eq_read, Wire.readLe64_eq_read, Wire.drop_le16,
      Wire.drop_le32, Wire.drop_le64, Wire.getElem?_le16, Wire.getElem?_le32, Wire.getElem?_le64,
      List.getElem?_cons_succ, List.getElem?_cons_zero, Wire.u16_read, Wire.u32_read, Wire.u64_read,
      Option.map_some, Option.bind_some]
    rfl

/-! ### Process data input -/

/-- The fields of a PdoInput in front of its data. -/
def pdoInputLayout :=
  Wire.u16.pair (Wire.u16.pair (Wire.u32.pair (Wire.u32.pair (Wire.u16.pair (Wire.u16.pair
    (Wire.u64.pair Wire.u64))))))

/-- The PdoInputs of an image of at most `maximumTotalSize` bytes. -/
def pdoInputFields (maximumTotalSize : ℕ) : PdoInputPayload ≃.
    (UInt16 × UInt16 × UInt32 × UInt32 × UInt16 × UInt16 × UInt64 × UInt64) × Bytes where
  toFun input :=
    if input.subDeviceIndex = 0 ∨ input.epoch = 0 ∨ input.cycleSequence = 0 ∨
        input.totalSize = 0 ∨ input.data = [] ∨ input.data.length > kMaximumPdoChunk ∨
        input.totalSize.toNat > maximumTotalSize ∨ input.offset > input.totalSize ∨
        input.data.length > (input.totalSize - input.offset).toNat then none
    else some ((input.busIndex, input.subDeviceIndex, input.offset, input.totalSize,
      .ofNat input.data.length, 0, input.epoch, input.cycleSequence), input.data)
  invFun := fun ((bus, subDevice, offset, totalSize, chunkLength, reserved, epoch, sequence),
      body) => do
    guard (reserved = 0)
    guard (subDevice ≠ 0 ∧ epoch ≠ 0 ∧ sequence ≠ 0 ∧ totalSize ≠ 0 ∧ chunkLength ≠ 0 ∧
      chunkLength.toNat ≤ kMaximumPdoChunk ∧ totalSize.toNat ≤ maximumTotalSize ∧
      offset ≤ totalSize ∧ chunkLength.toNat ≤ (totalSize - offset).toNat ∧
      body.length = chunkLength.toNat)
    return ⟨bus, subDevice, offset, totalSize, epoch, sequence, body⟩
  inv := by
    rintro ⟨bus, subDevice, offset, totalSize, epoch, sequence, data⟩
      ⟨⟨bus', subDevice', offset', totalSize', chunkLength, reserved, epoch', sequence'⟩, body⟩
    have hlength := length_iff data chunkLength (by decide : kMaximumPdoChunk ≤ 0xffff)
    simp [Option.bind_eq_some_iff]
    grind

theorem encodePdoInputPayload_eq :
    encodePdoInputPayload = pdoInputLayout.encode (pdoInputFields kMaximumPdoImage) := by
  funext input
  simp only [encodePdoInputPayload, Layout.encode, pdoInputFields, PEquiv.coe_mk]
  split <;> simp [pdoInputLayout]

theorem decodePdoInputPayload_eq (maximumTotalSize : ℕ) :
    (decodePdoInputPayload · maximumTotalSize) =
      pdoInputLayout.decode (pdoInputFields maximumTotalSize) := by
  refine pdoInputLayout.eq_decode (pdoInputFields maximumTotalSize) (fun payload hshort => ?_) ?_
  · exact guard_bind_of_not (Nat.not_le.mpr hshort) _
  · rintro ⟨bus, subDevice, offset, totalSize, chunkLength, reserved, epoch, sequence⟩ body
    simp [decodePdoInputPayload, pdoInputLayout, pdoInputFields, PEquiv.symm,
      Wire.readLe16_eq_read, Wire.readLe32_eq_read, Wire.readLe64_eq_read, Wire.drop_le16,
      Wire.drop_le32, Wire.drop_le64, ← Nat.add_assoc]

/-! ### Bus information -/

/-- The sum of the lengths. -/
def totalLength (lengths : List UInt16) : ℕ := (lengths.map UInt16.toNat).sum

/-- The texts of the given lengths in front of a body, when they are UTF-8. -/
def splitTexts : List UInt16 → Bytes → Option (List Bytes)
  | [], _ => some []
  | length :: lengths, body => do
      guard (isValidUtf8 (body.take length.toNat) = true)
      let texts ← splitTexts lengths (body.drop length.toNat)
      return body.take length.toNat :: texts

/-- The strings are read behind the header. -/
theorem readStrings_append (header body : Bytes) (lengths : List UInt16) (n : ℕ) :
    readStrings (header ++ body) lengths (header.length + n) =
      splitTexts lengths (body.drop n) := by
  induction lengths generalizing n with
  | nil => rfl
  | cons length lengths ih =>
    have hdrop : (header ++ body).drop (header.length + n) = body.drop n := by
      rw [List.drop_append, List.drop_of_length_le (Nat.le_add_right _ _), List.nil_append,
        Nat.add_sub_cancel_left]
    simp only [readStrings, splitTexts, hdrop, Nat.add_assoc, ih, List.drop_drop]

/-- The lengths are accepted exactly when they fill the payload. -/
theorem readLengths_eq (payload : Bytes) (lengths : List UInt16) (index totalSize : ℕ)
    (reads : ∀ i (h : i < lengths.length), readLe16 payload (8 + (index + i) * 2) = some lengths[i]) :
    readLengths payload lengths.length index totalSize =
      if totalSize + totalLength lengths = payload.length then some lengths else none := by
  induction lengths generalizing index totalSize with
  | nil => rfl
  | cons length lengths ih =>
    have hread : readLe16 payload (8 + index * 2) = some length :=
      reads 0 (Nat.succ_pos _)
    have hnext := ih (index + 1) (totalSize + length.toNat) fun i hi => by
      have := reads (i + 1) (Nat.succ_lt_succ hi)
      rwa [Nat.add_right_comm, Nat.add_assoc]
    have hsum : totalLength (length :: lengths) = length.toNat + totalLength lengths := rfl
    simp only [List.length_cons, readLengths, hread, Option.bind_eq_bind, Option.bind_some, hnext,
      hsum, ← Nat.add_assoc]
    by_cases hfits : length.toNat ≤ payload.length - min totalSize payload.length
    · by_cases hfill : totalSize + length.toNat + totalLength lengths = payload.length <;>
        simp [hfits, hfill, guard]
    · have hne : totalSize + length.toNat + totalLength lengths ≠ payload.length := by omega
      simp [hfits, hne, guard]

/-- Texts found in a body are the pieces it is made of. -/
theorem splitTexts_iff {lengths : List UInt16} {body : Bytes} {texts : List Bytes} :
    (totalLength lengths = body.length ∧ splitTexts lengths body = some texts) ↔
      (lengths.map UInt16.toNat = texts.map List.length ∧ (∀ text ∈ texts, isValidUtf8 text = true) ∧
        body = texts.flatten) := by
  induction lengths generalizing body texts with
  | nil =>
    constructor
    · rintro ⟨hlength, hsplit⟩
      cases hsplit
      exact ⟨rfl, by simp, List.length_eq_zero_iff.mp hlength.symm⟩
    · rintro ⟨hlengths, _, rfl⟩
      obtain rfl := List.map_eq_nil_iff.mp hlengths.symm
      exact ⟨rfl, rfl⟩
  | cons length lengths ih =>
    have hsum : totalLength (length :: lengths) = length.toNat + totalLength lengths := rfl
    constructor
    · rintro ⟨hlength, hsplit⟩
      simp [splitTexts, Option.bind_eq_some_iff] at hsplit
      obtain ⟨htext, rest, hrest, rfl⟩ := hsplit
      obtain ⟨hlengths, hvalid, hbody⟩ := ih.mp
        ⟨by rw [List.length_drop, ← hlength, hsum, Nat.add_sub_cancel_left], hrest⟩
      refine ⟨?_, ?_, ?_⟩
      · rw [List.map_cons, List.map_cons, hlengths, List.length_take]
        congr 1
        omega
      · simpa using ⟨htext, hvalid⟩
      · rw [List.flatten_cons, ← hbody, List.take_append_drop]
    · rintro ⟨hlengths, hvalid, rfl⟩
      cases texts with
      | nil => cases hlengths
      | cons text texts =>
        obtain ⟨hlength, hlengths⟩ := List.cons.inj hlengths
        obtain ⟨htotal, hsplit⟩ := ih.mpr
          ⟨hlengths, fun other hother => hvalid other (List.mem_cons_of_mem _ hother), rfl⟩
        have htext := hvalid text List.mem_cons_self
        refine ⟨by rw [hsum, htotal, hlength, List.flatten_cons, List.length_append], ?_⟩
        simp [splitTexts, hlength, hsplit, htext]

/-- The size of a payload whose strings are UTF-8 and fit. -/
theorem addSizes_eq (strings : List Bytes) (totalSize : ℕ) (h : totalSize ≤ kMaximumBusInfo) :
    addSizes strings totalSize =
      if (∀ value ∈ strings, isValidUtf8 value = true) ∧
          totalSize + strings.flatten.length ≤ kMaximumBusInfo
      then some (totalSize + strings.flatten.length) else none := by
  induction strings generalizing totalSize with
  | nil => simp [addSizes, h]
  | cons value strings ih =>
    have hmaximum : kMaximumBusInfo = 2048 := rfl
    rw [addSizes, List.flatten_cons, List.length_append, ← Nat.add_assoc]
    by_cases hfits : value.length > 0xffff ∨ isValidUtf8 value = false ∨
        value.length > kMaximumBusInfo - min totalSize kMaximumBusInfo
    · rw [if_pos hfits, if_neg]
      rintro ⟨hvalid, hsize⟩
      have hvalue := hvalid value List.mem_cons_self
      grind
    · rw [if_neg hfits, ih (totalSize + value.length) (by omega)]
      have hvalue : isValidUtf8 value = true := by grind
      simp [hvalue]

/-- Short texts are counted exactly by their length fields. -/
theorem map_ofNat_length_iff {texts : List Bytes} {lengths : List UInt16}
    (h : texts.flatten.length ≤ kMaximumBusInfo) :
    texts.map (fun text => UInt16.ofNat text.length) = lengths ↔
      lengths.map UInt16.toNat = texts.map List.length := by
  have hshort : ∀ text ∈ texts, text.length < UInt16.size := fun text htext =>
    Nat.lt_of_le_of_lt ((List.sublist_flatten_of_mem htext).length_le.trans h) (by decide)
  constructor
  · rintro rfl
    rw [List.map_map]
    exact List.map_congr_left fun text htext => UInt16.toNat_ofNat_of_lt (hshort text htext)
  · intro hlengths
    have hcodes := congrArg (List.map UInt16.ofNat) hlengths
    rw [List.map_map, List.map_map] at hcodes
    refine Eq.trans hcodes.symm ?_
    exact (List.map_congr_left fun length _ => UInt16.ofNat_toNat).trans (List.map_id lengths)

/-- The fields of a BusInfo in front of its strings. -/
def busInfoLayout :=
  Wire.u16.pair (Wire.u8.pair (Wire.u8.pair (Wire.u8.pair (Wire.u8.pair (Wire.u16.pair
    (Wire.u16.pair (Wire.u16.pair (Wire.u16.pair (Wire.u16.pair (Wire.u16.pair (Wire.u16.pair
      (Wire.u16.pair Wire.u64))))))))))))

/-- The values of these fields. -/
abbrev BusInfoHeader :=
  UInt16 × UInt8 × UInt8 × UInt8 × UInt8 × UInt16 × UInt16 × UInt16 × UInt16 × UInt16 × UInt16 ×
    UInt16 × UInt16 × UInt64

theorem BusInfoPayload.ofStrings_eq_some_iff {busIndex : UInt16} {state : BusState}
    {linkUp : Bool} {lockState : AdapterLockState} {lockReason : AdapterLockReason}
    {subDeviceCount : UInt16} {epoch : UInt64} {texts : List Bytes} {information : BusInfoPayload} :
    ofStrings busIndex state linkUp lockState lockReason subDeviceCount epoch texts =
        some information ↔
      information.busIndex = busIndex ∧ information.state = state ∧ information.linkUp = linkUp ∧
        information.lockState = lockState ∧ information.lockReason = lockReason ∧
        information.subDeviceCount = subDeviceCount ∧ information.epoch = epoch ∧
        information.strings = texts := by
  constructor
  · intro h
    unfold ofStrings at h
    split at h
    · cases h
      exact ⟨rfl, rfl, rfl, rfl, rfl, rfl, rfl, rfl⟩
    · cases h
  · rintro ⟨rfl, rfl, rfl, rfl, rfl, rfl, rfl, rfl⟩
    rfl

def busInfoFields : BusInfoPayload ≃. BusInfoHeader × Bytes where
  toFun information :=
    if information.epoch = 0 ∨ ¬(∀ value ∈ information.strings, isValidUtf8 value = true) ∨
        kBusInfoHeaderSize + information.strings.flatten.length > kMaximumBusInfo then none
    else some ((information.busIndex, information.state.code, boolCode information.linkUp,
      information.lockState.code, information.lockReason.code, information.subDeviceCount,
      .ofNat information.logicalName.length, .ofNat information.physicalInterface.length,
      .ofNat information.idPath.length, .ofNat information.permanentMac.length,
      .ofNat information.usbSerial.length, .ofNat information.usbVendorId.length,
      .ofNat information.usbProductId.length, information.epoch), information.strings.flatten)
  invFun := fun ((busIndex, state, linkUp, lockState, lockReason, subDeviceCount, l₀, l₁, l₂, l₃, l₄,
      l₅, l₆, epoch), body) => do
    guard (kBusInfoHeaderSize + body.length ≤ kMaximumBusInfo)
    let state ← BusState.ofCode? state
    guard (linkUp ≤ 1)
    let lockState ← AdapterLockState.ofCode? lockState
    let lockReason ← AdapterLockReason.ofCode? lockReason
    guard (epoch ≠ 0)
    guard (totalLength [l₀, l₁, l₂, l₃, l₄, l₅, l₆] = body.length)
    let texts ← splitTexts [l₀, l₁, l₂, l₃, l₄, l₅, l₆] body
    BusInfoPayload.ofStrings busIndex state (linkUp != 0) lockState lockReason subDeviceCount epoch
      texts
  inv := by
    rintro information ⟨⟨busIndex, state, linkUp, lockState, lockReason, subDeviceCount, l₀, l₁, l₂,
      l₃, l₄, l₅, l₆, epoch⟩, body⟩
    have hcodes : information.strings.map (fun text => UInt16.ofNat text.length) =
        [l₀, l₁, l₂, l₃, l₄, l₅, l₆] ↔ .ofNat information.logicalName.length = l₀ ∧
          .ofNat information.physicalInterface.length = l₁ ∧ .ofNat information.idPath.length = l₂ ∧
          .ofNat information.permanentMac.length = l₃ ∧ .ofNat information.usbSerial.length = l₄ ∧
          .ofNat information.usbVendorId.length = l₅ ∧
          .ofNat information.usbProductId.length = l₆ := by
      simp [BusInfoPayload.strings]
    simp [Option.bind_eq_some_iff, BusState.ofCode?_eq_some_iff,
      AdapterLockState.ofCode?_eq_some_iff, AdapterLockReason.ofCode?_eq_some_iff,
      BusInfoPayload.ofStrings_eq_some_iff, boolCode_eq_iff, -List.length_flatten]
    constructor
    · rintro ⟨hsize, hstate, hlink, hlockState, hlockReason, hepoch, htotal, hsplit, hbus, hlinkUp,
        hcount, rfl⟩
      obtain ⟨hlengths, hvalid, rfl⟩ := splitTexts_iff.mp ⟨htotal, hsplit⟩
      obtain ⟨h₀, h₁, h₂, h₃, h₄, h₅, h₆⟩ :=
        hcodes.mp ((map_ofNat_length_iff (by omega)).mpr hlengths)
      exact ⟨⟨hepoch, hvalid, hsize⟩, ⟨hbus, hstate, ⟨hlink, hlinkUp.symm⟩, hlockState, hlockReason,
        hcount, h₀, h₁, h₂, h₃, h₄, h₅, h₆, rfl⟩, rfl⟩
    · rintro ⟨⟨hepoch, hvalid, hsize⟩, ⟨hbus, hstate, ⟨hlink, hlinkUp⟩, hlockState, hlockReason,
        hcount, h₀, h₁, h₂, h₃, h₄, h₅, h₆, rfl⟩, rfl⟩
      have hlengths := (map_ofNat_length_iff (by omega)).mp
        (hcodes.mpr ⟨h₀, h₁, h₂, h₃, h₄, h₅, h₆⟩)
      obtain ⟨htotal, hsplit⟩ := splitTexts_iff.mpr ⟨hlengths, hvalid, rfl⟩
      exact ⟨hsize, hstate, hlink, hlockState, hlockReason, hepoch, htotal, hsplit, hbus,
        hlinkUp.symm, hcount, rfl⟩

theorem encodeBusInfoPayload_eq : encodeBusInfoPayload = busInfoLayout.encode busInfoFields := by
  funext information
  have hheader : kBusInfoHeaderSize ≤ kMaximumBusInfo := by decide
  simp only [encodeBusInfoPayload, Layout.encode, busInfoFields, PEquiv.coe_mk,
    addSizes_eq _ _ hheader]
  by_cases hfits : (∀ value ∈ information.strings, isValidUtf8 value = true) ∧
      kBusInfoHeaderSize + information.strings.flatten.length ≤ kMaximumBusInfo
  · rw [if_pos hfits]
    dsimp only
    by_cases hepoch : information.epoch = 0
    · rw [if_pos (.inl hepoch), if_pos (.inl hepoch)]
    · have hsize := Nat.not_lt.mpr hfits.2
      rw [if_neg (not_or.mpr ⟨hepoch, hsize⟩),
        if_neg (not_or.mpr ⟨hepoch, not_or.mpr ⟨not_not.mpr hfits.1, hsize⟩⟩)]
      simp [busInfoLayout, BusInfoPayload.strings]
  · have hrefused : information.epoch = 0 ∨
        ¬(∀ value ∈ information.strings, isValidUtf8 value = true) ∨
        kBusInfoHeaderSize + information.strings.flatten.length > kMaximumBusInfo :=
      .inr ((not_and_or.mp hfits).imp_right Nat.not_le.mp)
    rw [if_neg hfits, if_pos hrefused]

theorem decodeBusInfoPayload_eq : decodeBusInfoPayload = busInfoLayout.decode busInfoFields := by
  refine busInfoLayout.eq_decode busInfoFields (fun payload hshort => ?_) ?_
  · exact guard_bind_of_not (fun hlong => Nat.not_le.mpr hshort hlong.1) _
  · rintro ⟨busIndex, state, linkUp, lockState, lockReason, subDeviceCount, l₀, l₁, l₂, l₃, l₄, l₅,
      l₆, epoch⟩ body
    generalize hheader : busInfoLayout.write (busIndex, state, linkUp, lockState, lockReason,
      subDeviceCount, l₀, l₁, l₂, l₃, l₄, l₅, l₆, epoch) = header
    have hsize : header.length = kBusInfoHeaderSize := by
      rw [← hheader, busInfoLayout.length_write]
      rfl
    have hlengths := readLengths_eq (header ++ body) [l₀, l₁, l₂, l₃, l₄, l₅, l₆] 0
      kBusInfoHeaderSize (by
        intro i hi
        rw [readLe16_eq_some_iff, ← hheader]
        match i, hi with
        | 0, _ | 1, _ | 2, _ | 3, _ | 4, _ | 5, _ | 6, _ => exact ⟨_, rfl⟩)
    have htexts : ∀ lengths, readStrings (header ++ body) lengths kBusInfoHeaderSize =
        splitTexts lengths body := fun lengths => by
      have hread := readStrings_append header body lengths 0
      rwa [hsize] at hread
    have hbus : readLe16 (header ++ body) 0 = some busIndex :=
      readLe16_eq_some_iff.mpr ⟨_, by rw [← hheader]; rfl⟩
    have hstate : (header ++ body)[2]? = some state := by rw [← hheader]; rfl
    have hlink : (header ++ body)[3]? = some linkUp := by rw [← hheader]; rfl
    have hlockState : (header ++ body)[4]? = some lockState := by rw [← hheader]; rfl
    have hlockReason : (header ++ body)[5]? = some lockReason := by rw [← hheader]; rfl
    have hcount : readLe16 (header ++ body) 6 = some subDeviceCount :=
      readLe16_eq_some_iff.mpr ⟨_, by rw [← hheader]; rfl⟩
    have hepoch : readLe64 (header ++ body) 22 = some epoch :=
      readLe64_eq_some_iff.mpr ⟨_, by rw [← hheader]; rfl⟩
    have hseven : [l₀, l₁, l₂, l₃, l₄, l₅, l₆].length = 7 := rfl
    have hfill : kBusInfoHeaderSize + totalLength [l₀, l₁, l₂, l₃, l₄, l₅, l₆] =
        kBusInfoHeaderSize + body.length ↔ totalLength [l₀, l₁, l₂, l₃, l₄, l₅, l₆] = body.length :=
      Nat.add_left_cancel_iff
    have hlong : kBusInfoHeaderSize ≤ kBusInfoHeaderSize + body.length := Nat.le_add_right _ _
    rw [hseven] at hlengths
    unfold decodeBusInfoPayload
    simp only [hbus, hstate, hlink, hlockState, hlockReason, hcount, hepoch, hlengths, htexts,
      List.length_append, hsize, hlong, hfill, true_and, Option.bind_eq_bind, Option.bind_some]
    by_cases htotal : totalLength [l₀, l₁, l₂, l₃, l₄, l₅, l₆] = body.length <;>
      simp [busInfoFields, PEquiv.symm, htotal, guard]

/-- **Every payload codec of `protocol.hpp` is a round trip**: a value whose encoding is not
empty is decoded from it, and accepted bytes are the encoding of the value decoded from
them. -/
theorem payloads_roundTrip :
    RoundTrips encodeHelloPayload decodeHelloPayload ∧
      RoundTrips encodeHelloAckPayload decodeHelloAckPayload ∧
      RoundTrips encodeEpochPayload decodeEpochPayload ∧
      RoundTrips encodeOutputEnablePayload decodeOutputEnablePayload ∧
      RoundTrips encodeOutputWritePayload decodeOutputWritePayload ∧
      RoundTrips encodeSubscribeInputsPayload decodeSubscribeInputsPayload ∧
      RoundTrips encodeAdapterUnlockPayload decodeAdapterUnlockPayload ∧
      RoundTrips encodeOutputsDisabledPayload decodeOutputsDisabledPayload ∧
      RoundTrips encodeStatusPayload decodeStatusPayload ∧
      RoundTrips encodeBusInfoPayload decodeBusInfoPayload ∧
      RoundTrips (fun ack : AckStatus × UInt32 => encodeAckPayload ack.1 ack.2) decodeAckPayload ∧
      RoundTrips encodePdoInputPayload (decodePdoInputPayload · kMaximumPdoImage) := by
  rw [encodeHelloPayload_eq, decodeHelloPayload_eq, encodeHelloAckPayload_eq,
    decodeHelloAckPayload_eq, encodeEpochPayload_eq, decodeEpochPayload_eq,
    encodeOutputEnablePayload_eq, decodeOutputEnablePayload_eq, encodeOutputWritePayload_eq,
    decodeOutputWritePayload_eq, encodeSubscribeInputsPayload_eq,
    decodeSubscribeInputsPayload_eq, encodeAdapterUnlockPayload_eq,
    decodeAdapterUnlockPayload_eq, encodeOutputsDisabledPayload_eq,
    decodeOutputsDisabledPayload_eq, encodeStatusPayload_eq, decodeStatusPayload_eq,
    encodeBusInfoPayload_eq, decodeBusInfoPayload_eq, encodeAckPayload_eq, decodeAckPayload_eq,
    encodePdoInputPayload_eq, decodePdoInputPayload_eq]
  exact ⟨Layout.roundTrips .., Layout.roundTrips .., Layout.roundTrips .., Layout.roundTrips .., Layout.roundTrips ..,
    Layout.roundTrips .., Layout.roundTrips .., Layout.roundTrips .., Layout.roundTrips .., Layout.roundTrips ..,
    Layout.roundTrips .., Layout.roundTrips ..⟩

end EcSystemCore
