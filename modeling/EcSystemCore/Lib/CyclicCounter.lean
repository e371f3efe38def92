import Mathlib.Logic.Function.Iterate
import Mathlib.Data.Nat.ModEq
import Mathlib.Tactic.Ring

/-!
# Counters that wrap to one

`next max` counts through `1, …, max` and returns to `1` after `max`; zero is
never produced, so it can stand for "no value".  The counter has period `max`,
and fewer than `max` successive advances never repeat a value
(`iterate_next_ne`).
-/

namespace CyclicCounter

/-- One advance of the counter. -/
def next (max n : ℕ) : ℕ := if n = max then 1 else n + 1

/-- A value the counter can hold. -/
def Valid (max n : ℕ) : Prop := 1 ≤ n ∧ n ≤ max

/-- **Closed form.**  `k` advances move `k` places around the cycle. -/
theorem iterate_next {max n : ℕ} (h : Valid max n) (k : ℕ) :
    (next max)^[k] n = (n - 1 + k) % max + 1 := by
  obtain ⟨hlow, hhigh⟩ := h
  induction k with
  | zero => rw [Function.iterate_zero_apply, Nat.add_zero, Nat.mod_eq_of_lt (by omega)]; omega
  | succ k ih =>
    rw [Function.iterate_succ_apply', ih, next, ← Nat.add_assoc]
    have hlt : (n - 1 + k) % max < max := Nat.mod_lt _ (by omega)
    rw [Nat.add_mod (n - 1 + k) 1 max]
    rcases Nat.lt_or_ge ((n - 1 + k) % max + 1) max with hsmall | hlast
    · have hone : 1 % max = 1 := Nat.mod_eq_of_lt (by omega)
      rw [if_neg (by omega), hone, Nat.mod_eq_of_lt hsmall]
    · have hlast : (n - 1 + k) % max + 1 = max := by omega
      rw [if_pos hlast]
      rcases Nat.lt_or_ge 1 max with hbig | hone
      · rw [Nat.mod_eq_of_lt hbig, hlast, Nat.mod_self]
      · have : max = 1 := by omega
        simp [this, Nat.mod_one]

/-- **No repetition.**  Two points of the cycle fewer than `max` advances apart
hold different values. -/
theorem iterate_next_ne {max n : ℕ} (h : Valid max n) {i j : ℕ} (hij : i < j)
    (hj : j - i < max) : (next max)^[i] n ≠ (next max)^[j] n := by
  rw [iterate_next h, iterate_next h]
  intro heq
  have hmod : (n - 1 + i) ≡ (n - 1 + j) [MOD max] := by
    simpa [Nat.ModEq] using heq
  have hdvd : max ∣ (n - 1 + j) - (n - 1 + i) :=
    (Nat.modEq_iff_dvd' (by omega)).mp hmod
  have hle := Nat.le_of_dvd (by omega) hdvd
  omega

end CyclicCounter
