import Mathlib.Data.List.Forall2

/-!
# Sequences of checks

A validator is a computation in `Except`: it makes its checks one after another and stops
at the first that fails.  The rules here say when such a computation returns a value, in
terms of its parts.
-/

namespace Checks

universe u v

variable {ε : Type u} {α β : Type v}

/-- A check that fails with `message`. -/
def check (condition : Prop) [Decidable condition] (message : ε) : Except ε PUnit.{v + 1} :=
  if condition then .ok ⟨⟩ else .error message

theorem bind_eq_ok_iff {x : Except ε α} {next : α → Except ε β} {result : β} :
    (x >>= next) = .ok result ↔ ∃ value, x = .ok value ∧ next value = .ok result := by
  cases x with
  | error message => exact ⟨fun h => (by cases h), fun ⟨_, h, _⟩ => (by cases h)⟩
  | ok value => exact ⟨fun h => ⟨value, rfl, h⟩, fun ⟨_, h, hnext⟩ => by cases h; exact hnext⟩

theorem map_eq_ok_iff {x : Except ε α} {f : α → β} {result : β} :
    x.map f = .ok result ↔ ∃ value, x = .ok value ∧ f value = result := by
  cases x <;> simp [Except.map]

theorem check_eq_ok_iff {condition : Prop} [Decidable condition] {message : ε} {result : PUnit} :
    check condition message = .ok result ↔ condition := by
  unfold check
  split <;> simp_all

theorem check_bind_eq_ok_iff {condition : Prop} [Decidable condition] {message : ε}
    {next : PUnit → Except ε α} {result : α} :
    (check condition message >>= next) = .ok result ↔ condition ∧ next ⟨⟩ = .ok result := by
  rw [bind_eq_ok_iff]
  exact ⟨fun ⟨_, h, hnext⟩ => ⟨check_eq_ok_iff.mp h, hnext⟩,
    fun ⟨h, hnext⟩ => ⟨⟨⟩, check_eq_ok_iff.mpr h, hnext⟩⟩

/-- A list of checks succeeds with the values of its elements. -/
theorem mapM_eq_ok_iff {f : α → Except ε β} {items : List α} {values : List β} :
    items.mapM f = .ok values ↔ List.Forall₂ (fun item value => f item = .ok value) items values := by
  induction items generalizing values with
  | nil => cases values <;> simp [pure, Except.pure]
  | cons item items ih =>
    simp only [List.mapM_cons, bind_eq_ok_iff, List.forall₂_cons_left_iff, ih]
    constructor
    · rintro ⟨value, hvalue, values, hvalues, hall⟩
      cases hall
      exact ⟨value, values, hvalue, hvalues, rfl⟩
    · rintro ⟨value, values, hvalue, hvalues, rfl⟩
      exact ⟨value, hvalue, values, hvalues, rfl⟩

/-- A loop of checks succeeds if each of them does. -/
theorem forM_eq_ok_iff {f : α → Except ε PUnit} {items : List α} :
    forM items f = .ok ⟨⟩ ↔ ∀ item ∈ items, f item = .ok ⟨⟩ := by
  induction items with
  | nil => simp [pure, Except.pure]
  | cons item items ih =>
    simp only [List.forM_cons, bind_eq_ok_iff, List.forall_mem_cons, ih]
    exact ⟨fun ⟨_, h, hall⟩ => ⟨h, hall⟩, fun ⟨h, hall⟩ => ⟨_, h, hall⟩⟩

end Checks
