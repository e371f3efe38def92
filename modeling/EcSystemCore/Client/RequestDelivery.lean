import EcSystemCore.Client.JavaCodec
import EcSystemCore.Client.PythonCodec

/-!
# Requests of the Java and Python clients at the daemon

Every payload that a request encoder of the Java or the Python client produces is
accepted by the daemon's decoder of its message type, which returns the values the
encoder was given (`Delivers`).  The encoders check their arguments before they
narrow them; within the checked ranges narrowing loses nothing (`toNat_ofInt16` and its
companions), and the bytes are then the layout of the C++ payload with the same fields.
-/

namespace EcSystemCore

/-- Every payload the encoder produces is decoded to the values given to the encoder. -/
def Delivers {ρ α : Type} (encode : ρ → Option Bytes) (decode : Bytes → Option α)
    (arguments : α → ρ) : Prop :=
  ∀ values payload, encode values = some payload → (decode payload).map arguments = some values

/-- What the encoder does is to put the values into the layout that the decoder reads. -/
theorem Delivers.of_layout {ρ α η : Type} {encode : ρ → Option Bytes}
    {decode : Bytes → Option α} {arguments : α → ρ} (layout : Layout UInt8 η)
    {fields : α ≃. η × Bytes} (hdecode : decode = layout.decode fields)
    (sent : ∀ values payload, encode values = some payload → ∃ message header body,
      fields message = some (header, body) ∧ payload = layout.write header ++ body ∧
        arguments message = values) :
    Delivers encode decode arguments := by
  intro values payload hencode
  obtain ⟨message, header, body, hfields, hpayload, rfl⟩ := sent values payload hencode
  rw [hdecode, (layout.decode_eq_some_iff fields).mpr ⟨header, body, hfields, hpayload⟩]
  rfl

/-! ### Narrowing -/

section Narrowing

variable {value : ℤ}

theorem toNat_ofInt16 (h : 0 ≤ value ∧ value ≤ 0xffff) :
    ((UInt16.ofInt value).toNat : ℤ) = value := by
  rw [UInt16.ofInt, UInt16.toNat_ofNat']
  omega

theorem toNat_ofInt32 (h : 0 ≤ value ∧ value ≤ 0xffffffff) :
    ((UInt32.ofInt value).toNat : ℤ) = value := by
  rw [UInt32.ofInt, UInt32.toNat_ofNat']
  omega

theorem toNat_ofInt64 (h : 0 ≤ value ∧ value ≤ 0xffffffffffffffff) :
    ((UInt64.ofInt value).toNat : ℤ) = value := by
  rw [UInt64.ofInt, UInt64.toNat_ofNat']
  omega

theorem Python.validEpoch.bounds (h : Python.validEpoch value) :
    0 ≤ value ∧ value ≤ 0xffffffffffffffff :=
  ⟨Int.le_trans (by decide) h.1, h.2⟩

/-- A period that both ends accept. -/
theorem period_ofInt (h : 10 ≤ value ∧ value ≤ 1000) :
    ¬(UInt16.ofInt value < 10 ∨ UInt16.ofInt value > 1000) := by
  have hvalue : ((UInt16.ofInt value).toNat : ℤ) = value := toNat_ofInt16 ⟨by omega, by omega⟩
  rw [gt_iff_lt, UInt16.lt_iff_toNat_lt, UInt16.lt_iff_toNat_lt]
  rintro (hlow | hhigh)
  · exact absurd hlow (by change ¬_ < 10; omega)
  · exact absurd hhigh (by change ¬1000 < _; omega)

theorem ofInt16_ne_zero (h : 1 ≤ value ∧ value ≤ 0xffff) : UInt16.ofInt value ≠ 0 := by
  intro hzero
  have hvalue : ((UInt16.ofInt value).toNat : ℤ) = value := toNat_ofInt16 ⟨by omega, by omega⟩
  rw [hzero] at hvalue
  change (0 : ℤ) = value at hvalue
  omega

theorem ofInt64_ne_zero (h : Python.validEpoch value) : UInt64.ofInt value ≠ 0 := by
  intro hzero
  have hvalue : ((UInt64.ofInt value).toNat : ℤ) = value := toNat_ofInt64 h.bounds
  rw [hzero] at hvalue
  change (0 : ℤ) = value at hvalue
  have := h.1
  omega

theorem toUInt64_ne_zero {value : Int64} (h : value ≠ 0) : value.toUInt64 ≠ 0 :=
  fun hzero => h (by rw [← Int64.toInt64_toUInt64 value, hzero]; rfl)

end Narrowing

/-! ### Java -/

namespace Java

/-- The arguments of `encodeHello`. -/
def helloArguments (hello : HelloPayload) : ClientRole × Bool × ℤ × Int64 :=
  (hello.role, hello.subscribeInputs, hello.inputPeriodMs.toNat, hello.lastSeenEpoch.toInt64)

theorem delivers_hello :
    Delivers (fun (role, subscribeInputs, periodMillis, lastSeenEpoch) =>
      encodeHello role subscribeInputs periodMillis lastSeenEpoch) decodeHelloPayload
      helloArguments := by
  refine .of_layout helloLayout decodeHelloPayload_eq ?_
  rintro ⟨role, subscribe, period, epoch⟩ payload hencode
  simp [encodeHello, Option.bind_eq_some_iff] at hencode
  obtain ⟨hperiod, rfl⟩ := hencode
  have hnat : ((UInt16.ofInt period).toNat : ℤ) = period := toNat_ofInt16 ⟨by omega, by omega⟩
  refine ⟨⟨role, subscribe, .ofInt period, epoch.toUInt64⟩, _, _,
    if_neg (period_ofInt hperiod), ?_, ?_⟩
  · cases role <;> rfl
  · simp [helloArguments, hnat]

theorem delivers_epoch : Delivers encodeEpoch decodeEpochPayload UInt64.toInt64 := by
  refine .of_layout Wire.u64 decodeEpochPayload_eq ?_
  intro epoch payload hencode
  simp [encodeEpoch, Option.bind_eq_some_iff] at hencode
  obtain ⟨hepoch, rfl⟩ := hencode
  exact ⟨epoch.toUInt64, _, [], if_neg (toUInt64_ne_zero hepoch), rfl, Int64.toInt64_toUInt64 _⟩

/-- The arguments of `encodeOutputEnable`. -/
def outputEnableArguments (enable : OutputEnablePayload) : Int64 × Bool :=
  (enable.epoch.toInt64, enable.enabled)

theorem delivers_outputEnable :
    Delivers (fun (epoch, enabled) => encodeOutputEnable epoch enabled) decodeOutputEnablePayload
      outputEnableArguments := by
  refine .of_layout outputEnableLayout decodeOutputEnablePayload_eq ?_
  rintro ⟨epoch, enabled⟩ payload hencode
  simp [encodeOutputEnable, Option.bind_eq_some_iff] at hencode
  obtain ⟨hepoch, rfl⟩ := hencode
  refine ⟨⟨epoch.toUInt64, enabled⟩, _, _, if_neg (toUInt64_ne_zero hepoch), rfl, ?_⟩
  simp [outputEnableArguments]

/-- The arguments of `encodeOutputWrite`. -/
def outputWriteArguments (write : OutputWritePayload) : Int64 × ℤ × ℤ × ℤ × Bytes :=
  (write.epoch.toInt64, write.busIndex.toNat, write.subDeviceIndex.toNat, write.offset.toNat,
    write.data)

theorem delivers_outputWrite :
    Delivers (fun (epoch, busIndex, subDeviceIndex, offset, data) =>
      encodeOutputWrite epoch busIndex subDeviceIndex offset data) decodeOutputWritePayload
      outputWriteArguments := by
  refine .of_layout outputWriteLayout decodeOutputWritePayload_eq ?_
  rintro ⟨epoch, busIndex, subDeviceIndex, offset, data⟩ payload hencode
  simp [encodeOutputWrite, Option.bind_eq_some_iff] at hencode
  obtain ⟨hepoch, hbus, hsubDevice, hoffset, ⟨hdata, hlength⟩, rfl⟩ := hencode
  have hbusNat : ((UInt16.ofInt busIndex).toNat : ℤ) = busIndex := toNat_ofInt16 hbus
  have hsubDeviceNat : ((UInt16.ofInt subDeviceIndex).toNat : ℤ) = subDeviceIndex :=
    toNat_ofInt16 ⟨by omega, by omega⟩
  have hoffsetNat : ((UInt32.ofInt offset).toNat : ℤ) = offset := toNat_ofInt32 hoffset
  refine ⟨⟨epoch.toUInt64, .ofInt busIndex, .ofInt subDeviceIndex, .ofInt offset, data⟩, _, _,
    if_neg ?_, ?_, ?_⟩
  · rintro (hzero | hzero | hnil | hlong)
    · exact toUInt64_ne_zero hepoch hzero
    · exact ofInt16_ne_zero hsubDevice hzero
    · exact hdata hnil
    · exact Nat.not_le.mpr hlong hlength
  · simp [outputWriteLayout]
  · simp [outputWriteArguments, hbusNat, hsubDeviceNat, hoffsetNat]

/-- The arguments of `encodeSubscription`. -/
def subscriptionArguments (subscription : SubscribeInputsPayload) : Bool × ℤ :=
  (subscription.enabled, subscription.periodMs.toNat)

theorem delivers_subscription :
    Delivers (fun (enabled, periodMillis) => encodeSubscription enabled periodMillis)
      decodeSubscribeInputsPayload subscriptionArguments := by
  refine .of_layout subscribeInputsLayout decodeSubscribeInputsPayload_eq ?_
  rintro ⟨enabled, period⟩ payload hencode
  simp [encodeSubscription, Option.bind_eq_some_iff] at hencode
  obtain ⟨hperiod, rfl⟩ := hencode
  have hnat : ((UInt16.ofInt period).toNat : ℤ) = period := toNat_ofInt16 ⟨by omega, by omega⟩
  refine ⟨⟨enabled, .ofInt period⟩, _, _, if_neg (period_ofInt hperiod), rfl, ?_⟩
  simp [subscriptionArguments, hnat]

/-- The arguments of `encodeAdapterUnlock`. -/
def adapterUnlockArguments (unlock : AdapterUnlockPayload) : Int64 × ℤ :=
  (unlock.epoch.toInt64, unlock.busIndex.toNat)

theorem delivers_adapterUnlock :
    Delivers (fun (epoch, busIndex) => encodeAdapterUnlock epoch busIndex)
      decodeAdapterUnlockPayload adapterUnlockArguments := by
  refine .of_layout adapterUnlockLayout decodeAdapterUnlockPayload_eq ?_
  rintro ⟨epoch, busIndex⟩ payload hencode
  simp [encodeAdapterUnlock, Option.bind_eq_some_iff] at hencode
  obtain ⟨hepoch, hbus, rfl⟩ := hencode
  have hbusNat : ((UInt16.ofInt busIndex).toNat : ℤ) = busIndex := toNat_ofInt16 hbus
  refine ⟨⟨epoch.toUInt64, .ofInt busIndex⟩, _, _, if_neg (toUInt64_ne_zero hepoch), ?_, ?_⟩
  · simp [adapterUnlockLayout]
  · simp [adapterUnlockArguments, hbusNat]

end Java

/-! ### Python -/

namespace Python

/-- The arguments of `hello`. -/
def helloArguments (hello : HelloPayload) : ℤ × Bool × ℤ × ℤ :=
  (hello.role.code.toNat, hello.subscribeInputs, hello.inputPeriodMs.toNat,
    hello.lastSeenEpoch.toNat)

theorem delivers_hello :
    Delivers (fun (role, subscribe, periodMs, lastSeenEpoch) =>
      hello role subscribe periodMs lastSeenEpoch) decodeHelloPayload helloArguments := by
  refine .of_layout helloLayout decodeHelloPayload_eq ?_
  rintro ⟨role, subscribe, period, epoch⟩ payload hencode
  simp [hello, Option.bind_eq_some_iff] at hencode
  obtain ⟨hrole, hperiod, hepoch, rfl⟩ := hencode
  have hperiodNat : ((UInt16.ofInt period).toNat : ℤ) = period :=
    toNat_ofInt16 ⟨by omega, by omega⟩
  have hepochNat : ((UInt64.ofInt epoch).toNat : ℤ) = epoch := toNat_ofInt64 hepoch
  obtain ⟨known, hknown, hcode⟩ : ∃ known : ClientRole,
      known.code = UInt8.ofInt role ∧ (known.code.toNat : ℤ) = role := by
    obtain rfl | rfl : role = 0 ∨ role = 1 := by omega
    · exact ⟨.observer, rfl, rfl⟩
    · exact ⟨.controller, rfl, rfl⟩
  refine ⟨⟨known, subscribe, .ofInt period, .ofInt epoch⟩, _, _,
    if_neg (period_ofInt hperiod), ?_, ?_⟩
  · simp [helloLayout, hknown]
  · simp [helloArguments, hcode, hperiodNat, hepochNat]

theorem epoch_eq_some_iff {value : ℤ} {payload : Bytes} :
    epoch value = some payload ↔ validEpoch value ∧ le64 (.ofInt value) = payload := by
  simp [epoch, Option.bind_eq_some_iff]

theorem delivers_epoch :
    Delivers epoch decodeEpochPayload fun value => (value.toNat : ℤ) := by
  refine .of_layout Wire.u64 decodeEpochPayload_eq ?_
  intro value payload hencode
  obtain ⟨hepoch, rfl⟩ := epoch_eq_some_iff.mp hencode
  exact ⟨.ofInt value, _, [], if_neg (ofInt64_ne_zero hepoch), (List.append_nil _).symm,
    toNat_ofInt64 hepoch.bounds⟩

/-- The arguments of `output_enable`. -/
def outputEnableArguments (enable : OutputEnablePayload) : ℤ × Bool :=
  (enable.epoch.toNat, enable.enabled)

theorem delivers_outputEnable :
    Delivers (fun (value, enabled) => outputEnable value enabled) decodeOutputEnablePayload
      outputEnableArguments := by
  refine .of_layout outputEnableLayout decodeOutputEnablePayload_eq ?_
  rintro ⟨value, enabled⟩ payload hencode
  simp [outputEnable, Option.bind_eq_some_iff, epoch_eq_some_iff] at hencode
  obtain ⟨hepoch, rfl⟩ := hencode
  have hnat : ((UInt64.ofInt value).toNat : ℤ) = value := toNat_ofInt64 hepoch.bounds
  refine ⟨⟨.ofInt value, enabled⟩, _, _, if_neg (ofInt64_ne_zero hepoch), rfl, ?_⟩
  simp [outputEnableArguments, hnat]

/-- The arguments of `output_write`. -/
def outputWriteArguments (write : OutputWritePayload) : ℤ × ℤ × ℤ × ℤ × Bytes :=
  (write.epoch.toNat, write.busIndex.toNat, write.subDeviceIndex.toNat, write.offset.toNat,
    write.data)

theorem delivers_outputWrite :
    Delivers (fun (value, busIndex, subdeviceIndex, offset, data) =>
      outputWrite value busIndex subdeviceIndex offset data) decodeOutputWritePayload
      outputWriteArguments := by
  refine .of_layout outputWriteLayout decodeOutputWritePayload_eq ?_
  rintro ⟨value, busIndex, subdeviceIndex, offset, data⟩ payload hencode
  simp [outputWrite, Option.bind_eq_some_iff] at hencode
  obtain ⟨hepoch, hbus, hsubdevice, hoffset, ⟨hdata, hlength⟩, rfl⟩ := hencode
  have hvalueNat : ((UInt64.ofInt value).toNat : ℤ) = value := toNat_ofInt64 hepoch.bounds
  have hbusNat : ((UInt16.ofInt busIndex).toNat : ℤ) = busIndex := toNat_ofInt16 hbus
  have hsubdeviceNat : ((UInt16.ofInt subdeviceIndex).toNat : ℤ) = subdeviceIndex :=
    toNat_ofInt16 ⟨by omega, by omega⟩
  have hoffsetNat : ((UInt32.ofInt offset).toNat : ℤ) = offset := toNat_ofInt32 hoffset
  refine ⟨⟨.ofInt value, .ofInt busIndex, .ofInt subdeviceIndex, .ofInt offset, data⟩, _, _,
    if_neg ?_, ?_, ?_⟩
  · rintro (hzero | hzero | hnil | hlong)
    · exact ofInt64_ne_zero hepoch hzero
    · exact ofInt16_ne_zero hsubdevice hzero
    · exact Nat.not_lt.mpr (List.length_eq_zero_iff.mpr hnil).le hdata
    · exact Nat.not_le.mpr hlong hlength
  · simp [outputWriteLayout]
  · simp [outputWriteArguments, hvalueNat, hbusNat, hsubdeviceNat, hoffsetNat]

/-- The arguments of `subscription`. -/
def subscriptionArguments (subscription : SubscribeInputsPayload) : Bool × ℤ :=
  (subscription.enabled, subscription.periodMs.toNat)

theorem delivers_subscription :
    Delivers (fun (enabled, periodMs) => subscription enabled periodMs)
      decodeSubscribeInputsPayload subscriptionArguments := by
  refine .of_layout subscribeInputsLayout decodeSubscribeInputsPayload_eq ?_
  rintro ⟨enabled, period⟩ payload hencode
  simp [subscription, Option.bind_eq_some_iff] at hencode
  obtain ⟨hperiod, rfl⟩ := hencode
  have hnat : ((UInt16.ofInt period).toNat : ℤ) = period := toNat_ofInt16 ⟨by omega, by omega⟩
  refine ⟨⟨enabled, .ofInt period⟩, _, _, if_neg (period_ofInt hperiod), rfl, ?_⟩
  simp [subscriptionArguments, hnat]

/-- The arguments of `adapter_unlock`. -/
def adapterUnlockArguments (unlock : AdapterUnlockPayload) : ℤ × ℤ :=
  (unlock.epoch.toNat, unlock.busIndex.toNat)

theorem delivers_adapterUnlock :
    Delivers (fun (value, busIndex) => adapterUnlock value busIndex) decodeAdapterUnlockPayload
      adapterUnlockArguments := by
  refine .of_layout adapterUnlockLayout decodeAdapterUnlockPayload_eq ?_
  rintro ⟨value, busIndex⟩ payload hencode
  simp [adapterUnlock, Option.bind_eq_some_iff, epoch_eq_some_iff] at hencode
  obtain ⟨hbus, hepoch, rfl⟩ := hencode
  have hvalueNat : ((UInt64.ofInt value).toNat : ℤ) = value := toNat_ofInt64 hepoch.bounds
  have hbusNat : ((UInt16.ofInt busIndex).toNat : ℤ) = busIndex := toNat_ofInt16 hbus
  refine ⟨⟨.ofInt value, .ofInt busIndex⟩, _, _, if_neg (ofInt64_ne_zero hepoch), ?_, ?_⟩
  · simp [adapterUnlockLayout]
  · simp [adapterUnlockArguments, hvalueNat, hbusNat]

end Python

end EcSystemCore
