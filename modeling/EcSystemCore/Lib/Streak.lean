import Mathlib.Data.List.DropRight
import Mathlib.Data.List.Infix

/-!
# Streaks at the end of a record

A component that debounces what it observes counts how many of the latest observations in a
row had some property.  `streak p xs` is that count for a record `xs`, oldest first.

A **latch** is set by a streak of one kind and cleared by a streak of another.  `Latched`
says when it is set, by the record alone: somewhere there are enough observations of the
first kind in a row, and the observations behind them contain no clearing streak.
`latched_concat` is the latch as a component computes it, one observation at a time.
-/

namespace Streak

universe u

variable {α : Type u} {p q : α → Bool} {xs : List α} {x : α}

/-- How many observations at the end of the record have the property. -/
def streak (p : α → Bool) (xs : List α) : ℕ := (xs.rtakeWhile p).length

@[simp] theorem streak_nil : streak p [] = 0 := by simp [streak]

theorem streak_concat :
    streak p (xs ++ [x]) = if p x = true then streak p xs + 1 else 0 := by
  unfold streak
  rw [List.rtakeWhile_concat]
  split_ifs
  · exact List.length_append
  · rfl

/-- A streak is as long as the longest end of the record that has the property throughout. -/
theorem le_streak_of_suffix {run : List α} (hsuffix : run <:+ xs)
    (hrun : ∀ x ∈ run, p x = true) : run.length ≤ streak p xs := by
  -- a record and a run that both lose their last observation
  induction xs using List.reverseRecOn generalizing run with
  | nil => simp [List.suffix_nil.mp hsuffix]
  | append_singleton xs x ih =>
    obtain rfl | ⟨run, rfl, hrest⟩ := List.suffix_concat_iff.mp hsuffix
    · exact Nat.zero_le _
    · have hx : p x = true := hrun x (by simp)
      rw [streak_concat, if_pos hx, List.length_append]
      exact Nat.add_le_add_right (ih hrest fun y hy => hrun y (by simp [hy])) 1

theorem le_streak_iff {n : ℕ} :
    n ≤ streak p xs ↔ ∃ run, run <:+ xs ∧ run.length = n ∧ ∀ x ∈ run, p x = true := by
  constructor
  · intro h
    have hsuffix : (xs.rtakeWhile p).drop (streak p xs - n) <:+ xs :=
      (List.drop_suffix _ _).trans (List.rtakeWhile_suffix p xs)
    refine ⟨_, hsuffix, ?_, fun x hx => ?_⟩
    · rw [List.length_drop]
      exact Nat.sub_sub_self h
    · exact List.mem_rtakeWhile_imp (List.mem_of_mem_drop hx)
  · rintro ⟨run, hsuffix, rfl, hrun⟩
    exact le_streak_of_suffix hsuffix hrun

/-! ### Latches -/

/-- `a` observations in a row have `p`, and the ones behind them contain no `b` in a row that
have `q`. -/
def Latched (p q : α → Bool) (a b : ℕ) (xs : List α) : Prop :=
  ∃ past run rest, xs = past ++ run ++ rest ∧ run.length = a ∧ (∀ x ∈ run, p x = true) ∧
    ∀ clearing, clearing <:+: rest → clearing.length = b → ∃ x ∈ clearing, q x = false

theorem not_latched_nil {a b : ℕ} (ha : 0 < a) : ¬Latched p q a b [] := by
  rintro ⟨past, run, rest, hxs, hlength, -⟩
  have hempty : run = [] := by simp_all
  subst hempty
  simp at hlength
  omega

/-- A streak of `q` that ends a record does not reach back into a run of `p`. -/
theorem suffix_of_run (disjoint : ∀ x, p x = true → q x = false)
    {before run rest clearing : List α} (hne : run ≠ []) (hrun : ∀ x ∈ run, p x = true)
    (hall : ∀ x ∈ clearing, q x = true) (hsuffix : clearing <:+ before ++ run ++ rest) :
    clearing <:+ rest := by
  have hrest : rest <:+ before ++ run ++ rest := List.suffix_append _ _
  by_contra houtside
  have hlonger : rest.length ≤ clearing.length := by
    by_contra hshorter
    exact houtside (List.suffix_of_suffix_length_le hsuffix hrest (Nat.le_of_not_le hshorter))
  -- the part of the streak in front of `rest` ends with the last element of the run
  obtain ⟨front, rfl⟩ := List.suffix_of_suffix_length_le hrest hsuffix hlonger
  have hfront : front <:+ before ++ run := List.suffix_append_self_iff.mp hsuffix
  obtain rfl | ⟨init, last, rfl⟩ := run.eq_nil_or_concat'
  · exact hne rfl
  rw [← List.append_assoc] at hfront
  obtain rfl | ⟨_, rfl, -⟩ := List.suffix_concat_iff.mp hfront
  · exact houtside (List.nil_append rest ▸ List.suffix_rfl)
  · have hq : q last = true := hall last (by simp)
    rw [disjoint last (hrun last (by simp))] at hq
    cases hq

/-- **One more observation.**  The latch is set by a streak of `a`; otherwise it stays set
until a streak of `b` clears it. -/
theorem latched_concat {a b : ℕ} (ha : 0 < a) (hb : 0 < b)
    (disjoint : ∀ x, p x = true → q x = false) :
    Latched p q a b (xs ++ [x]) ↔
      a ≤ streak p (xs ++ [x]) ∨ Latched p q a b xs ∧ streak q (xs ++ [x]) < b := by
  constructor
  · rintro ⟨past, run, rest, hxs, hlength, hrun, hclear⟩
    obtain rfl | ⟨rest, y, rfl⟩ := rest.eq_nil_or_concat'
    · -- the run has just been completed
      refine .inl (le_streak_iff.mpr ⟨run, ⟨past, ?_⟩, hlength, hrun⟩)
      rw [hxs, List.append_nil]
    · obtain ⟨rfl, rfl⟩ : xs = past ++ run ++ rest ∧ x = y := by
        rw [← List.append_assoc] at hxs
        exact ⟨(List.append_inj' hxs rfl).1, List.singleton_inj.mp (List.append_inj' hxs rfl).2⟩
      refine .inr ⟨⟨past, run, rest, rfl, hlength, hrun, fun clearing hinside =>
        hclear clearing (hinside.trans (List.prefix_append _ _).isInfix)⟩, ?_⟩
      by_contra hlong
      obtain ⟨clearing, hsuffix, hlong, hall⟩ := le_streak_iff.mp (Nat.not_lt.mp hlong)
      have hne : run ≠ [] := List.ne_nil_of_length_pos (hlength ▸ ha)
      rw [List.append_assoc (past ++ run)] at hsuffix
      have hinside : clearing <:+ rest ++ [x] := suffix_of_run disjoint hne hrun hall hsuffix
      obtain ⟨y, hy, hq⟩ := hclear clearing hinside.isInfix hlong
      rw [hall y hy] at hq
      cases hq
  · rintro (hset | ⟨⟨past, run, rest, rfl, hlength, hrun, hclear⟩, hshort⟩)
    · obtain ⟨run, ⟨past, hxs⟩, hlength, hrun⟩ := le_streak_iff.mp hset
      refine ⟨past, run, [], by rw [hxs, List.append_nil], hlength, hrun,
        fun clearing hinside hlong => ?_⟩
      rw [List.infix_nil.mp hinside] at hlong
      exact absurd hlong hb.ne
    · refine ⟨past, run, rest ++ [x], by simp, hlength, hrun, fun clearing hinside hlong => ?_⟩
      obtain hsuffix | hinside := List.infix_concat_iff.mp hinside
      · by_contra hnone
        have hall : ∀ y ∈ clearing, q y = true := fun y hy =>
          Bool.of_not_eq_false fun hq => hnone ⟨y, hy, hq⟩
        have hend : clearing <:+ past ++ run ++ rest ++ [x] :=
          hsuffix.trans ⟨past ++ run, by simp⟩
        have hle := le_streak_of_suffix hend hall
        omega
      · exact hclear clearing hinside hlong

end Streak
