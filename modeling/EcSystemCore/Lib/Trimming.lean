import Mathlib.Data.List.DropRight

/-!
# Trimming

Removing the elements of a class from both ends of a list.  The result is a sublist that
trimming leaves alone, and trimming commutes with maps that respect the class.
-/

namespace Trimming

universe u v

variable {α : Type u} {β : Type v} {p : α → Bool} {q : β → Bool} {text : List α}

/-- The text without the elements of the class at its ends. -/
def strip (p : α → Bool) (text : List α) : List α :=
  ((text.dropWhile p).reverse.dropWhile p).reverse

theorem strip_eq_rdropWhile (p : α → Bool) (text : List α) :
    strip p text = (text.dropWhile p).rdropWhile p := rfl

theorem strip_sublist (p : α → Bool) (text : List α) : (strip p text).Sublist text :=
  ( List.rdropWhile_prefix p _).sublist.trans (List.dropWhile_sublist p)

theorem mem_of_mem_strip {c : α} (h : c ∈ strip p text) : c ∈ text :=
  (strip_sublist p text).subset h

theorem length_strip_le (p : α → Bool) (text : List α) : (strip p text).length ≤ text.length :=
  (strip_sublist p text).length_le

/-- A text that starts outside the class has nothing to drop. -/
theorem dropWhile_eq_self_of_head (h : ∀ c, text.head? = some c → p c = false) :
    text.dropWhile p = text := by
  cases text with
  | nil => rfl
  | cons c rest => rw [List.dropWhile_cons_of_neg (by simpa using h c rfl)]

/-- What is left starts outside the class. -/
theorem head_strip {c : α} (h : (strip p text).head? = some c) : p c = false := by
  obtain ⟨rest, hrest⟩ : strip p text <+: text.dropWhile p := List.rdropWhile_prefix p _
  cases hstrip : strip p text with
  | nil => simp [hstrip] at h
  | cons c' tail =>
    have hc : c' = c := by simpa [hstrip] using h
    rw [hstrip, List.cons_append] at hrest
    have hhead := List.head?_dropWhile_not p text
    rw [← hrest] at hhead
    simpa [hc] using hhead

theorem strip_idem (p : α → Bool) (text : List α) : strip p (strip p text) = strip p text := by
  have hdrop : (strip p text).dropWhile p = strip p text :=
    dropWhile_eq_self_of_head fun _ => head_strip
  rw [strip_eq_rdropWhile p (strip p text), hdrop, strip_eq_rdropWhile]
  exact List.rdropWhile_idempotent p _

theorem dropWhile_map (f : α → β) (hf : ∀ c ∈ text, q (f c) = p c) :
    (text.map f).dropWhile q = (text.dropWhile p).map f := by
  rw [List.dropWhile_map]
  congr 1
  induction text with
  | nil => rfl
  | cons c rest ih =>
    simp only [List.dropWhile_cons, Function.comp_apply, hf c (by simp)]
    rw [ih fun d hd => hf d (by simp [hd])]

/-- Trimming commutes with a map that respects the class. -/
theorem strip_map (f : α → β) (hf : ∀ c ∈ text, q (f c) = p c) :
    strip q (text.map f) = (strip p text).map f := by
  have hback : ∀ c ∈ (text.dropWhile p).reverse, q (f c) = p c := by
    intro c hc
    exact hf c ((List.dropWhile_sublist p).subset (List.mem_reverse.mp hc))
  unfold strip
  rw [dropWhile_map f hf, ← List.map_reverse, dropWhile_map f hback, List.map_reverse]

end Trimming
