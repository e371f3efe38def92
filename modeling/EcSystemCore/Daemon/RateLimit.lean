import Mathlib.Algebra.Order.Floor.Div
import Mathlib.Tactic.Ring
import EcSystemCore.Daemon.Bindings

/-!
# The controller's rate

`CalculateControllerRateLimit` bounds its products before it computes them.  All the same, it
gives the values of the unbounded formulas (`framesPerSecond_eq`, `burstFrames_eq`), and no
accepted configuration comes near its upper bounds.
-/

namespace EcSystemCore

/-- How often a second every output is written, at least once in every timeout. -/
def refreshes (timeout : ℤ) : ℕ := 1000 ⌈/⌉ (max timeout 1).toNat

section

variable (targets : UInt64) (timeout : ℤ)

theorem toNat_clampUInt64 {value low high : UInt64} (h : low ≤ high) :
    (clampUInt64 value low high).toNat = max low.toNat (min value.toNat high.toNat) := by
  unfold clampUInt64
  simp only [UInt64.lt_iff_toNat_lt, UInt64.le_iff_toNat_le] at h ⊢
  split_ifs <;> omega

theorem refreshes_eq (timeout : ℤ) : refreshes timeout = 999 / (max timeout 1).toNat + 1 := by
  unfold refreshes
  rw [Nat.ceilDiv_eq_add_pred_div, show 1000 + (max timeout 1).toNat - 1 =
    999 + (max timeout 1).toNat by omega, Nat.add_div_right _ (by omega)]

theorem refreshes_anti {timeout later : ℤ} (h : timeout ≤ later) :
    refreshes later ≤ refreshes timeout := by
  rw [refreshes_eq, refreshes_eq]
  exact Nat.succ_le_succ (Nat.div_le_div_left (by omega) (by omega))

/-- The refreshes as the code computes them. -/
theorem toNat_refreshes (htimeout : timeout < 2 ^ 63) :
    ((1000 + (if timeout > 0 then UInt64.ofInt timeout else 1) - 1) /
      (if timeout > 0 then UInt64.ofInt timeout else 1)).toNat = refreshes timeout := by
  generalize hms : (if timeout > 0 then UInt64.ofInt timeout else 1) = ms
  have hnat : ms.toNat = (max timeout 1).toNat := by
    rw [← hms]
    split
    · change (UInt64.ofNat _).toNat = _
      rw [UInt64.toNat_ofNat']
      omega
    · rw [UInt64.toNat_one]
      omega
  have hsum : (1000 + ms - 1).toNat = 999 + ms.toNat := by
    have hadd : (1000 + ms).toNat = 1000 + ms.toNat := by
      rw [UInt64.toNat_add, show UInt64.toNat 1000 = 1000 from rfl]
      omega
    have hone : (1 : UInt64) ≤ 1000 + ms := by
      rw [UInt64.le_iff_toNat_le, hadd, UInt64.toNat_one]
      omega
    rw [UInt64.toNat_sub_of_le _ _ hone, hadd, UInt64.toNat_one]
    omega
  rw [UInt64.toNat_div, hsum, hnat, refreshes_eq, Nat.add_div_right _ (by omega)]

/-- The products are bounded before they are computed. -/
theorem framesPerSecond_eq (htimeout : timeout < 2 ^ 63) :
    (calculateControllerRateLimit targets timeout).framesPerSecond.toNat =
      max 2000 (min (2 * targets.toNat * refreshes timeout + 100) 200000) := by
  have hrefreshes := toNat_refreshes timeout htimeout
  have hpos : 0 < refreshes timeout := (refreshes_eq timeout).symm ▸ Nat.succ_pos _
  unfold calculateControllerRateLimit
  dsimp only
  generalize (1000 + (if timeout > 0 then UInt64.ofInt timeout else 1) - 1) /
    (if timeout > 0 then UInt64.ofInt timeout else 1) = ratio at hrefreshes ⊢
  have hrequired : (if targets > 200000 / ratio then 200000 else targets * ratio).toNat =
      min (targets.toNat * refreshes timeout) 200000 := by
    have hquotient : targets > 200000 / ratio ↔ 200000 < targets.toNat * refreshes timeout := by
      rw [gt_iff_lt, UInt64.lt_iff_toNat_lt, UInt64.toNat_div, hrefreshes]
      exact Nat.div_lt_iff_lt_mul hpos
    split_ifs with hlarge
    · rw [hquotient] at hlarge
      simp
      omega
    · rw [hquotient] at hlarge
      rw [UInt64.toNat_mul, hrefreshes]
      omega
  generalize (if targets > 200000 / ratio then 200000 else targets * ratio) = required
    at hrequired ⊢
  have hdouble : (required * 2 + 100).toNat = required.toNat * 2 + 100 := by
    simp
    omega
  have hhalf : required > (200000 - 100) / 2 ↔ 99950 < required.toNat := UInt64.lt_iff_toNat_lt
  have hheadroom : (if required > (200000 - 100) / 2 then 200000 else required * 2 + 100).toNat =
      min (2 * (targets.toNat * refreshes timeout) + 100) 200000 := by
    split_ifs with hlarge
    · rw [hhalf] at hlarge
      simp
      omega
    · rw [hhalf] at hlarge
      omega
  rw [UInt64.toNat_toUInt32, toNat_clampUInt64 (by decide), Nat.mul_assoc, hheadroom]
  simp

theorem burstFrames_eq :
    (calculateControllerRateLimit targets timeout).burstFrames.toNat =
      max 500 (min (3 * targets.toNat + 64) 10000) := by
  unfold calculateControllerRateLimit
  dsimp only
  have hthird : targets > (10000 - 64) / 3 ↔ 3312 < targets.toNat := UInt64.lt_iff_toNat_lt
  have hheadroom : (if targets > (10000 - 64) / 3 then 10000 else targets * 3 + 64).toNat =
      min (3 * targets.toNat + 64) 10000 := by
    split_ifs with hlarge
    · rw [hthird] at hlarge
      simp
      omega
    · rw [hthird] at hlarge
      simp
      omega
  rw [UInt64.toNat_toUInt32, toNat_clampUInt64 (by decide), hheadroom]
  simp

end

/-! ### Accepted configurations -/

/-- A daemon of an accepted configuration writes to fewer than 1600 SubDevices. -/
theorem Daemon.outputTargets_le {text : Bytes} {configuration : DaemonConfig} {d : Daemon}
    (loaded : loadConfigText text = .ok configuration)
    (mapped : d.Mapped configuration.interfaces) :
    d.outputTargets ≤ 8 * 199 := by
  obtain ⟨hbuses, htopology, -⟩ := sizes_of_loadConfigText loaded
  have hsum : ∀ interfaces : List InterfaceConfig,
      (∀ interface ∈ interfaces, interface.expectedSubDevices.length < ecMaxSlave) →
      (interfaces.map fun mapping => mapping.expectedSubDevices.countP fun subDevice =>
        subDevice.outputBytes.getD 0 ≠ 0).sum ≤ interfaces.length * 199 := by
    intro interfaces hall
    rw [← List.length_map, ← smul_eq_mul]
    refine List.sum_le_card_nsmul _ _ ?_
    simp only [List.mem_map]
    rintro _ ⟨interface, hinterface, rfl⟩
    exact List.countP_le_length.trans (Nat.le_of_lt_succ (hall interface hinterface))
  calc d.outputTargets = ((d.slots.map (·.mapping)).map fun mapping =>
        mapping.expectedSubDevices.countP fun subDevice =>
          subDevice.outputBytes.getD 0 ≠ 0).sum := by
        rw [List.map_map]
        rfl
    _ ≤ 8 * 199 := by
      rw [mapped]
      exact (hsum _ htopology).trans (Nat.mul_le_mul_right _ hbuses)

/-- **The rate of a controller** is that of the unbounded formulas, and leaves a controller that
refreshes all outputs of an accepted configuration a factor of two. -/
theorem controllerRateLimit_exact :
    (∀ (targets : UInt64) (timeout : Int64),
      (calculateControllerRateLimit targets timeout.toInt).framesPerSecond.toNat =
        max 2000 (min (2 * targets.toNat * (1000 ⌈/⌉ (max timeout.toInt 1).toNat) + 100) 200000) ∧
      (calculateControllerRateLimit targets timeout.toInt).burstFrames.toNat =
        max 500 (min (3 * targets.toNat + 64) 10000)) ∧
    (∀ (targets more : UInt64) (timeout : Int64), targets ≤ more →
      (calculateControllerRateLimit targets timeout.toInt).framesPerSecond ≤
        (calculateControllerRateLimit more timeout.toInt).framesPerSecond ∧
      (calculateControllerRateLimit targets timeout.toInt).burstFrames ≤
        (calculateControllerRateLimit more timeout.toInt).burstFrames) ∧
    (∀ (targets : UInt64) (timeout later : Int64), timeout ≤ later →
      (calculateControllerRateLimit targets later.toInt).framesPerSecond ≤
        (calculateControllerRateLimit targets timeout.toInt).framesPerSecond) ∧
    ∀ (text : Bytes) (configuration : DaemonConfig) (d : Daemon),
      loadConfigText text = .ok configuration → d.Mapped configuration.interfaces →
      let rate := calculateControllerRateLimit (UInt64.ofNat d.outputTargets)
        configuration.outputCommandTimeout
      rate.framesPerSecond.toNat < 200000 ∧ rate.burstFrames.toNat < 10000 ∧
        2 * (d.outputTargets * 1000) ≤
          rate.framesPerSecond.toNat * configuration.outputCommandTimeout := by
  have hlt : ∀ timeout : Int64, timeout.toInt < 2 ^ 63 := fun timeout => timeout.toInt_lt
  refine ⟨fun targets timeout =>
      ⟨framesPerSecond_eq targets _ (hlt timeout), burstFrames_eq targets _⟩,
    fun targets more timeout hmore => ?_, fun targets timeout later hlater => ?_, ?_⟩
  · rw [UInt64.le_iff_toNat_le] at hmore
    have hproduct := Nat.mul_le_mul_right (refreshes timeout.toInt) (Nat.mul_le_mul_left 2 hmore)
    simp only [UInt32.le_iff_toNat_le, framesPerSecond_eq _ _ (hlt timeout), burstFrames_eq]
    omega
  · have hproduct := Nat.mul_le_mul_left (2 * targets.toNat)
      (refreshes_anti (Int64.le_iff_toInt_le.mp hlater))
    simp only [UInt32.le_iff_toNat_le, framesPerSecond_eq _ _ (hlt _)]
    omega
  · intro text configuration d loaded mapped
    have htargets := Daemon.outputTargets_le loaded mapped
    obtain ⟨-, -, hleast, hmost⟩ := sizes_of_loadConfigText loaded
    obtain ⟨timeout, htimeout⟩ :=
      Int.eq_ofNat_of_zero_le (by omega : 0 ≤ configuration.outputCommandTimeout)
    rw [htimeout] at hleast hmost ⊢
    have hratio : refreshes timeout = 999 / timeout + 1 := by
      rw [refreshes_eq, show (max (timeout : ℤ) 1).toNat = timeout by omega]
    have hrefreshes : refreshes timeout ≤ 50 := by
      have hquotient : 999 / timeout ≤ 999 / 20 := Nat.div_le_div_left (by omega) (by decide)
      omega
    have hproduct : d.outputTargets * refreshes timeout ≤ 8 * 199 * 50 :=
      Nat.mul_le_mul htargets hrefreshes
    have hcovers : 1000 ≤ refreshes timeout * timeout := by
      have hless := Nat.lt_mul_div_succ 999 (by omega : 0 < timeout)
      rw [hratio, Nat.mul_comm]
      exact hless
    have hframes := framesPerSecond_eq (.ofNat d.outputTargets) timeout (by omega)
    have hburst := burstFrames_eq (.ofNat d.outputTargets) timeout
    rw [UInt64.toNat_ofNat', Nat.mod_eq_of_lt (by omega)] at hframes hburst
    rw [Nat.mul_assoc] at hframes
    dsimp only
    generalize (calculateControllerRateLimit _ _).framesPerSecond.toNat = frames at hframes ⊢
    obtain ⟨hbelow, henough⟩ :
        frames < 200000 ∧ 2 * (d.outputTargets * refreshes timeout) ≤ frames := by
      clear hburst
      omega
    have hsmall : 3 * d.outputTargets + 64 < 10000 := by omega
    refine ⟨hbelow, ?_, ?_⟩
    · rw [hburst]
      exact max_lt (by decide) ((min_le_left _ _).trans_lt hsmall)
    · calc (2 * (d.outputTargets * 1000) : ℤ)
          ≤ 2 * (d.outputTargets * (refreshes timeout * timeout)) := by
            exact_mod_cast Nat.mul_le_mul_left 2 (Nat.mul_le_mul_left d.outputTargets hcovers)
        _ = 2 * (d.outputTargets * refreshes timeout) * timeout := by ring
        _ ≤ frames * timeout := by exact_mod_cast Nat.mul_le_mul_right timeout henough

end EcSystemCore
