import Mathlib.Data.List.Induction
import Mathlib.Order.Nat
import EcSystemCore.Lib.Execution

/-!
# Exclusive leases with generations

What a lease service is for, independently of any program.  One client at a
time holds the lease; the holder may arm it; ending a lease moves the service
to the next generation, and nothing of an earlier generation counts any more.

The three facts a client of the service relies on are read off whole runs.

* `run_armed_iff` — the lease is armed for `c` exactly when the run acquired it
  for `c`, armed it afterwards, never advanced since the acquisition and never
  acquired again since the arming.
* `holder_unique` — one generation has one holder.
* `generation_lt_of_lost` — a lost lease is a lease of an earlier generation.
-/

namespace Lease

open Execution

universe u

variable {C : Type u}

/-- The lease: the generation it belongs to, its holder and whether the holder
has armed it. -/
structure State (C : Type u) where
  generation : ℕ
  holder : Option C
  armed : Bool

/-- What can happen to a lease.  `idle` stands for everything that leaves it
alone. -/
inductive Event (C : Type u) where
  | advance
  | acquire (client : C)
  | arm (client : C)
  | idle

/-- No holder, nothing armed, no generation ended. -/
def init : State C := ⟨0, none, false⟩

/-- One event.  Acquiring needs the lease to be free or already held by the same
client, and disarms it; arming needs the lease to be held. -/
def step [DecidableEq C] (s : State C) : Event C → Option (State C)
  | .advance => some ⟨s.generation + 1, none, false⟩
  | .acquire c =>
    if s.holder = none ∨ s.holder = some c then
      some { s with holder := some c, armed := false }
    else none
  | .arm c => if s.holder = some c then some { s with armed := true } else none
  | .idle => some s

variable [DecidableEq C] {s t : State C} {c : C}

@[simp] theorem step_advance : step s .advance = some ⟨s.generation + 1, none, false⟩ :=
  rfl

@[simp] theorem step_idle : step s .idle = some s := rfl

theorem step_acquire_eq_some :
    step s (.acquire c) = some t ↔
      (s.holder = none ∨ s.holder = some c) ∧
        t = { s with holder := some c, armed := false } := by
  unfold step
  split <;> simp_all [eq_comm]

theorem step_arm_eq_some :
    step s (.arm c) = some t ↔ s.holder = some c ∧ t = { s with armed := true } := by
  unfold step
  split <;> simp_all [eq_comm]

/-! ### Runs without an advance -/

/-- While no generation ends, the generation stands still and a held lease stays
with its holder. -/
theorem run_of_no_advance {es : List (Event C)} (noAdvance : Event.advance ∉ es)
    (h : run step s es = some t) :
    t.generation = s.generation ∧ (s.holder = some c → t.holder = some c) := by
  induction es generalizing s with
  | nil =>
    cases h
    exact ⟨rfl, id⟩
  | cons e es ih =>
    rw [run_cons, Option.bind_eq_some_iff] at h
    obtain ⟨m, hm, h⟩ := h
    obtain ⟨hgen, hhold⟩ := ih (fun mem => noAdvance (List.mem_cons_of_mem _ mem)) h
    cases e with
    | advance => simp at noAdvance
    | idle =>
      cases hm
      exact ⟨hgen, hhold⟩
    | arm c' =>
      obtain ⟨-, rfl⟩ := step_arm_eq_some.mp hm
      exact ⟨hgen, hhold⟩
    | acquire c' =>
      obtain ⟨hfree, rfl⟩ := step_acquire_eq_some.mp hm
      refine ⟨hgen, fun held => hhold ?_⟩
      rcases hfree with hnone | hsame
      · simp [hnone] at held
      · exact hsame.symm.trans held

/-- While no generation ends and nobody acquires, an armed lease stays armed. -/
theorem run_armed_of_quiet {es : List (Event C)} (noAdvance : Event.advance ∉ es)
    (noAcquire : ∀ c, Event.acquire c ∉ es) (h : run step s es = some t)
    (armed : s.armed = true) : t.armed = true := by
  induction es generalizing s with
  | nil =>
    cases h
    exact armed
  | cons e es ih =>
    rw [run_cons, Option.bind_eq_some_iff] at h
    obtain ⟨m, hm, h⟩ := h
    refine ih (fun mem => noAdvance (List.mem_cons_of_mem _ mem))
      (fun c mem => noAcquire c (List.mem_cons_of_mem _ mem)) h ?_
    cases e with
    | advance => simp at noAdvance
    | acquire c' => exact absurd List.mem_cons_self (noAcquire c')
    | idle =>
      cases hm
      exact armed
    | arm c' =>
      obtain ⟨-, rfl⟩ := step_arm_eq_some.mp hm
      rfl

/-- The generation never decreases along a run. -/
theorem run_generation_le {es : List (Event C)} (h : run step s es = some t) :
    s.generation ≤ t.generation := by
  refine run_induction (P := fun m => s.generation ≤ m.generation) step ?_ le_rfl h
  intro m e n hle hstep
  cases e with
  | advance =>
    cases hstep
    exact Nat.le_succ_of_le hle
  | idle =>
    cases hstep
    exact hle
  | arm c' =>
    obtain ⟨-, rfl⟩ := step_arm_eq_some.mp hstep
    exact hle
  | acquire c' =>
    obtain ⟨-, rfl⟩ := step_acquire_eq_some.mp hstep
    exact hle

/-- An advance anywhere in a run raises the generation. -/
theorem run_generation_lt {es : List (Event C)} (advanced : Event.advance ∈ es)
    (h : run step s es = some t) : s.generation < t.generation := by
  obtain ⟨es₁, es₂, rfl⟩ := List.append_of_mem advanced
  rw [run_append, Option.bind_eq_some_iff] at h
  obtain ⟨m, hm, h⟩ := h
  rw [run_cons, step_advance, Option.bind_some] at h
  calc s.generation ≤ m.generation := run_generation_le hm
    _ < m.generation + 1 := Nat.lt_succ_self _
    _ ≤ t.generation := run_generation_le h

/-! ### What a run's last state says about the run -/

/-- The event list acquires the lease for `c` and never advances afterwards. -/
def HeldBy (c : C) (es : List (Event C)) : Prop :=
  ∃ pre post, es = pre ++ .acquire c :: post ∧ Event.advance ∉ post

/-- The event list acquires the lease for `c`, arms it later, never advances
after the acquisition and never acquires after the arming. -/
def ArmedBy (c : C) (es : List (Event C)) : Prop :=
  ∃ pre mid post, es = pre ++ .acquire c :: (mid ++ .arm c :: post) ∧
    Event.advance ∉ mid ∧ Event.advance ∉ post ∧ ∀ c', Event.acquire c' ∉ post

omit [DecidableEq C] in
/-- One more event that does not advance keeps the acquisition in force. -/
theorem HeldBy.concat {es : List (Event C)} {e : Event C} (h : HeldBy c es)
    (he : e ≠ .advance) : HeldBy c (es ++ [e]) := by
  obtain ⟨pre, post, rfl, hpost⟩ := h
  refine ⟨pre, post ++ [e], by simp, ?_⟩
  simpa [hpost] using he.symm

omit [DecidableEq C] in
/-- One more event that neither advances nor acquires keeps the arming in
force. -/
theorem ArmedBy.concat {es : List (Event C)} {e : Event C} (h : ArmedBy c es)
    (hadv : e ≠ .advance) (hacq : ∀ c', e ≠ .acquire c') : ArmedBy c (es ++ [e]) := by
  obtain ⟨pre, mid, post, rfl, hmid, hpost, hnone⟩ := h
  refine ⟨pre, mid, post ++ [e], by simp, hmid, ?_, fun c' => ?_⟩
  · simpa [hpost] using hadv.symm
  · simpa [hnone c'] using (hacq c').symm

/-- A held lease was acquired by its holder since the last advance, and an armed
one was armed since the last acquisition. -/
theorem held_and_armed_of_run {es : List (Event C)} (h : run step init es = some t) :
    (t.holder = some c → HeldBy c es) ∧
      (t.holder = some c → t.armed = true → ArmedBy c es) := by
  induction es using List.reverseRecOn generalizing t with
  | nil =>
    cases h
    simp [init]
  | append_singleton es e ih =>
    obtain ⟨m, hm, hstep⟩ := (run_concat_eq_some step).mp h
    obtain ⟨ihHeld, ihArmed⟩ := ih hm
    cases e with
    | advance =>
      cases hstep
      simp
    | idle =>
      cases hstep
      exact ⟨fun held => (ihHeld held).concat (by simp),
        fun held armed => (ihArmed held armed).concat (by simp) (by simp)⟩
    | arm c' =>
      obtain ⟨held', rfl⟩ := step_arm_eq_some.mp hstep
      refine ⟨fun held => (ihHeld held).concat (by simp), fun held _ => ?_⟩
      -- The arming just made is the one the claim names.
      obtain rfl : c' = c := by simpa [held'] using held
      obtain ⟨pre, post, rfl, hpost⟩ := ihHeld held
      exact ⟨pre, post, [], by simp, hpost, by simp, by simp⟩
    | acquire c' =>
      obtain ⟨-, rfl⟩ := step_acquire_eq_some.mp hstep
      refine ⟨fun held => ?_, by simp⟩
      obtain rfl : c' = c := by simpa using held
      exact ⟨es, [], rfl, by simp⟩

/-- **Armed leases, by their history.**  A run ends with the lease held by `c`
and armed exactly when its events say so. -/
theorem run_armed_iff {es : List (Event C)} (h : run step init es = some t) :
    (t.holder = some c ∧ t.armed = true) ↔ ArmedBy c es := by
  constructor
  · rintro ⟨held, armed⟩
    exact (held_and_armed_of_run h).2 held armed
  · rintro ⟨pre, mid, post, rfl, hmid, hpost, hnone⟩
    rw [run_append, Option.bind_eq_some_iff] at h
    obtain ⟨m₀, -, h⟩ := h
    rw [run_cons, Option.bind_eq_some_iff] at h
    obtain ⟨m₁, hacq, h⟩ := h
    rw [run_append, Option.bind_eq_some_iff] at h
    obtain ⟨m₂, hrun, h⟩ := h
    rw [run_cons, Option.bind_eq_some_iff] at h
    obtain ⟨m₃, harm, h⟩ := h
    obtain ⟨held, rfl⟩ := step_arm_eq_some.mp harm
    exact ⟨(run_of_no_advance hpost h).2 held, run_armed_of_quiet hpost hnone h rfl⟩

/-- **One holder per generation.**  Two states of one run that belong to the same
generation and both have a holder have the same one. -/
theorem holder_unique {es : List (Event C)} (h : run step s es = some t)
    (same : s.generation = t.generation) {c₁ c₂ : C} (h₁ : s.holder = some c₁)
    (h₂ : t.holder = some c₂) : c₁ = c₂ := by
  have noAdvance : Event.advance ∉ es := fun mem =>
    (run_generation_lt mem h).ne same
  have held := (run_of_no_advance noAdvance h).2 h₁
  exact Option.some.inj (held.symm.trans h₂)

/-- **A lost lease is out of date.**  If `c` held the lease and later does not,
a generation has ended in between. -/
theorem generation_lt_of_lost {es : List (Event C)} (h : run step s es = some t)
    (held : s.holder = some c) (lost : t.holder ≠ some c) :
    s.generation < t.generation := by
  by_contra hle
  have noAdvance : Event.advance ∉ es := fun mem => hle (run_generation_lt mem h)
  exact lost ((run_of_no_advance noAdvance h).2 held)

end Lease
