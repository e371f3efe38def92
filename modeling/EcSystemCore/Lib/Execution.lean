import Mathlib.Data.List.Basic
import Mathlib.Data.Option.Basic

/-!
# Executions of labelled step functions

Two kinds of machine recur below, and both are run by a list of labels.

* A **partial** machine `step : σ → ι → Option σ`: `none` is a label the
  machine cannot take.  `run` takes every label of a list or fails.
* A **reactive** machine `react : σ → ι → ο × σ`: every label is accepted and
  answered.  `final` is the state a list of labels leads to and `history` the
  list of labels together with their answers.

The rules proved here are the ones an invariant argument uses: how a run splits
at a point (`run_append`, `history_append`), the induction rule for a property
every step preserves (`run_induction`), and the same rule for runs whose steps
all meet a side condition (`AllSteps`, `run_induction_of_allSteps`).
-/

namespace Execution

universe u v w

variable {σ : Type u} {ι : Type v} {ο : Type w}

/-! ### Partial machines -/

section Partial

variable (step : σ → ι → Option σ)

/-- Take every label of the list, in order. -/
def run : σ → List ι → Option σ
  | s, [] => some s
  | s, i :: is => (step s i).bind fun t => run t is

@[simp] theorem run_nil (s : σ) : run step s [] = some s := rfl

theorem run_cons (s : σ) (i : ι) (is : List ι) :
    run step s (i :: is) = (step s i).bind fun t => run step t is := rfl

/-- A run over a concatenation is a run over its first part continued by one
over its second. -/
theorem run_append (s : σ) (is js : List ι) :
    run step s (is ++ js) = (run step s is).bind fun t => run step t js := by
  induction is generalizing s with
  | nil => rfl
  | cons i is ih =>
    rw [List.cons_append, run_cons, run_cons, Option.bind_assoc]
    exact congrArg _ (funext fun t => ih t)

/-- The last step of a run. -/
theorem run_concat_eq_some {s t : σ} {is : List ι} {i : ι} :
    run step s (is ++ [i]) = some t ↔
      ∃ m, run step s is = some m ∧ step m i = some t := by
  rw [run_append, Option.bind_eq_some_iff]
  simp [run_cons]

/-- **The induction rule.**  A property the initial state has and every step
preserves holds in every state a run reaches. -/
theorem run_induction {P : σ → Prop}
    (preserved : ∀ s i t, P s → step s i = some t → P t)
    {s t : σ} {is : List ι} (init : P s) (h : run step s is = some t) : P t := by
  induction is generalizing s with
  | nil =>
    cases h
    exact init
  | cons i is ih =>
    rw [run_cons, Option.bind_eq_some_iff] at h
    obtain ⟨m, hm, h⟩ := h
    exact ih (preserved s i m init hm) h

/-- Every step of the run is taken from a state that meets `G` for its label. -/
def AllSteps (G : σ → ι → Prop) : σ → List ι → Prop
  | _, [] => True
  | s, i :: is => G s i ∧ ∀ t, step s i = some t → AllSteps G t is

@[simp] theorem allSteps_nil (G : σ → ι → Prop) (s : σ) : AllSteps step G s [] :=
  trivial

/-- Whether all steps of a run meet a decidable side condition can be evaluated. -/
instance decidableAllSteps (G : σ → ι → Prop) [∀ s i, Decidable (G s i)] :
    ∀ (s : σ) (is : List ι), Decidable (AllSteps step G s is)
  | _, [] => isTrue trivial
  | s, i :: is =>
    match h : step s i with
    | none => decidable_of_iff (G s i)
        ⟨fun hG => ⟨hG, fun t ht => by simp [h] at ht⟩, fun hall => hall.1⟩
    | some m =>
      have := decidableAllSteps G m is
      decidable_of_iff (G s i ∧ AllSteps step G m is)
        ⟨fun hall => ⟨hall.1, fun t ht => by cases h.symm.trans ht; exact hall.2⟩,
          fun hall => ⟨hall.1, hall.2 m h⟩⟩

/-- The induction rule for runs whose steps all meet a side condition. -/
theorem run_induction_of_allSteps {P : σ → Prop} {G : σ → ι → Prop}
    (preserved : ∀ s i t, P s → G s i → step s i = some t → P t)
    {s t : σ} {is : List ι} (init : P s) (guarded : AllSteps step G s is)
    (h : run step s is = some t) : P t := by
  induction is generalizing s with
  | nil =>
    cases h
    exact init
  | cons i is ih =>
    rw [run_cons, Option.bind_eq_some_iff] at h
    obtain ⟨m, hm, h⟩ := h
    exact ih (preserved s i m init guarded.1 hm) (guarded.2 m hm) h

end Partial

/-! ### Reactive machines -/

section Reactive

variable (react : σ → ι → ο × σ)

/-- The state a list of labels leads to. -/
def final : σ → List ι → σ
  | s, [] => s
  | s, i :: is => final (react s i).2 is

/-- The labels with the answers they got, in order. -/
def history : σ → List ι → List (ι × ο)
  | _, [] => []
  | s, i :: is => (i, (react s i).1) :: history (react s i).2 is

@[simp] theorem final_nil (s : σ) : final react s [] = s := rfl

@[simp] theorem history_nil (s : σ) : history react s [] = [] := rfl

theorem final_append (s : σ) (is js : List ι) :
    final react s (is ++ js) = final react (final react s is) js := by
  induction is generalizing s with
  | nil => rfl
  | cons i is ih => exact ih _

theorem history_append (s : σ) (is js : List ι) :
    history react s (is ++ js) =
      history react s is ++ history react (final react s is) js := by
  induction is generalizing s with
  | nil => rfl
  | cons i is ih => exact congrArg _ (ih _)

theorem map_fst_history (s : σ) (is : List ι) : (history react s is).map Prod.fst = is := by
  induction is generalizing s with
  | nil => rfl
  | cons i is ih => exact congrArg _ (ih _)

/-- Splitting a history splits the labels that produced it: the entry `x` was
answered in the state its prefix leads to. -/
theorem history_eq_append_cons {s : σ} {is : List ι} {before after : List (ι × ο)}
    {x : ι × ο} (h : history react s is = before ++ x :: after) :
    ∃ is₁ i is₂, is = is₁ ++ i :: is₂ ∧ before = history react s is₁ ∧
      x = (i, (react (final react s is₁) i).1) ∧
      after = history react (react (final react s is₁) i).2 is₂ := by
  induction before generalizing s is with
  | nil =>
    cases is with
    | nil => cases h
    | cons i is =>
      obtain ⟨rfl, rfl⟩ := List.cons.inj h
      exact ⟨[], i, is, rfl, rfl, rfl, rfl⟩
  | cons y before ih =>
    cases is with
    | nil => cases h
    | cons i is =>
      obtain ⟨rfl, htail⟩ := List.cons.inj h
      obtain ⟨is₁, j, is₂, rfl, rfl, rfl, rfl⟩ := ih htail
      exact ⟨i :: is₁, j, is₂, rfl, rfl, rfl, rfl⟩

end Reactive

end Execution
