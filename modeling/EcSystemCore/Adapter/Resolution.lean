import EcSystemCore.Adapter.Identity

/-!
# Which adapter a mapping runs on

`ResolveAdapter` as a relation: a mapping without a lock in force selects the adapter that
bears its interface name, a mapping with one selects the only adapter with the lock's
`id_path`, if the other fields of the lock agree (`Selects`).  A resolution lets a worker run
exactly when the mapping selects an adapter (`ready_and_identity_iff`).
-/

namespace EcSystemCore

/-- The lock in force: a run-time unlock suspends it. -/
def effectiveLock (lock : Option AdapterIdentityLock) (runtimeUnlocked : Bool) :
    Option AdapterIdentityLock :=
  if runtimeUnlocked then none else lock

/-- The adapter is the only one with the lock's `id_path`, and agrees with its other
fields. -/
structure LockMatches (adapters : List AdapterIdentity) (expected : AdapterIdentityLock)
    (adapter : AdapterIdentity) : Prop where
  found : adapters.find? (fun identity => identity.idPath = expected.idPath) = some adapter
  only : adapters.countP (fun identity => identity.idPath = expected.idPath) = 1
  agrees : fieldMismatch expected adapter = none

/-- The adapter a mapping selects. -/
inductive Selects (adapters : List AdapterIdentity) (preferredInterface : Bytes)
    (lock : Option AdapterIdentityLock) (runtimeUnlocked : Bool) (adapter : AdapterIdentity) :
    Prop
  | byName (free : effectiveLock lock runtimeUnlocked = none)
      (found : adapters.find? (fun identity => identity.interfaceName = preferredInterface) =
        some adapter)
  | byLock {expected : AdapterIdentityLock}
      (locked : effectiveLock lock runtimeUnlocked = some expected)
      (agrees : LockMatches adapters expected adapter)

theorem lockMismatch_state {pathMatch : AdapterIdentity} {expected observed : Option Bytes}
    {reason : AdapterLockReason} {resolution : AdapterResolution}
    (h : lockMismatch pathMatch expected observed reason = some resolution) :
    resolution.state = .mismatch := by
  unfold lockMismatch at h
  split at h
  · cases h
  · cases h
    rfl
  · split at h
    · cases h
      rfl
    · cases h

theorem fieldMismatch_state {expected : AdapterIdentityLock} {pathMatch : AdapterIdentity}
    {resolution : AdapterResolution} (h : fieldMismatch expected pathMatch = some resolution) :
    resolution.state = .mismatch := by
  unfold fieldMismatch at h
  simp only [Option.or_eq_some_iff] at h
  obtain h | ⟨-, h | ⟨-, h | ⟨-, h⟩⟩⟩ := h <;> exact lockMismatch_state h

section

variable {adapters : List AdapterIdentity} {preferredInterface : Bytes}
  {lock : Option AdapterIdentityLock} {runtimeUnlocked : Bool}

/-- What `ResolveAdapter` answers for a mapping without a lock in force. -/
theorem resolveAdapter_of_free (h : effectiveLock lock runtimeUnlocked = none) :
    resolveAdapter adapters preferredInterface lock runtimeUnlocked =
      match adapters.find? fun identity => identity.interfaceName = preferredInterface with
      | none => {}
      | some selected =>
        ⟨if runtimeUnlocked then .runtimeUnlocked else .unlocked, .none, some selected⟩ := by
  unfold resolveAdapter
  cases lock with
  | none => rfl
  | some expected =>
    cases runtimeUnlocked with
    | true => rfl
    | false => cases h

/-- What `ResolveAdapter` answers for a mapping with a lock in force. -/
theorem resolveAdapter_of_locked (adapters : List AdapterIdentity) (preferredInterface : Bytes)
    {expected : AdapterIdentityLock} (h : effectiveLock lock runtimeUnlocked = some expected) :
    (∃ adapter, LockMatches adapters expected adapter ∧
      resolveAdapter adapters preferredInterface lock runtimeUnlocked =
        ⟨.matched, if expected.pathOnly then .pathOnlyIdentity else .none, some adapter⟩) ∨
    (∀ adapter, ¬LockMatches adapters expected adapter) ∧
      ((resolveAdapter adapters preferredInterface lock runtimeUnlocked).state = .missing ∨
        (resolveAdapter adapters preferredInterface lock runtimeUnlocked).state = .mismatch) := by
  obtain ⟨rfl, rfl⟩ : runtimeUnlocked = false ∧ lock = some expected := by
    cases runtimeUnlocked with
    | true => cases h
    | false => exact ⟨rfl, h⟩
  simp only [resolveAdapter, Bool.false_eq_true, if_false]
  split
  · rename_i hnone
    refine .inr ⟨fun adapter hmatches => ?_, ?_⟩
    · cases hnone.symm.trans hmatches.found
    · dsimp only
      split
      · exact .inr rfl
      · exact .inl rfl
  · rename_i pathMatch hfound
    split
    · rename_i hcount
      exact .inr ⟨fun adapter hmatches => hcount hmatches.only, .inr rfl⟩
    · rename_i hcount
      cases hfield : fieldMismatch expected pathMatch with
      | none => exact .inl ⟨pathMatch, ⟨hfound, of_not_not hcount, hfield⟩, rfl⟩
      | some resolution =>
        refine .inr ⟨fun adapter hmatches => ?_, .inr (fieldMismatch_state hfield)⟩
        cases hfound.symm.trans hmatches.found
        cases hfield.symm.trans hmatches.agrees

/-- **A mapping may run on an adapter exactly when it selects it.** -/
theorem ready_and_identity_iff {adapter : AdapterIdentity} :
    (resolveAdapter adapters preferredInterface lock runtimeUnlocked).ready = true ∧
      (resolveAdapter adapters preferredInterface lock runtimeUnlocked).identity =
        some adapter ↔
    Selects adapters preferredInterface lock runtimeUnlocked adapter := by
  cases hlock : effectiveLock lock runtimeUnlocked with
  | none =>
    rw [resolveAdapter_of_free hlock]
    constructor
    · rintro ⟨hready, hidentity⟩
      split at hidentity
      · cases hidentity
      · rename_i hfound
        cases hidentity
        exact .byName hlock hfound
    · rintro (⟨-, hfound⟩ | ⟨hlocked, -⟩)
      · rw [hfound]
        cases runtimeUnlocked <;> exact ⟨rfl, rfl⟩
      · cases hlock.symm.trans hlocked
  | some expected =>
    obtain ⟨found, hmatches, hresolve⟩ | ⟨hnone, hstate⟩ :=
      resolveAdapter_of_locked adapters preferredInterface hlock
    · rw [hresolve]
      constructor
      · rintro ⟨-, hidentity⟩
        cases hidentity
        exact .byLock hlock hmatches
      · rintro (⟨hfree, -⟩ | ⟨hlocked, hadapter⟩)
        · cases hlock.symm.trans hfree
        · cases hlock.symm.trans hlocked
          cases hmatches.found.symm.trans hadapter.found
          exact ⟨rfl, rfl⟩
    · constructor
      · rintro ⟨hready, -⟩
        obtain hstate | hstate := hstate <;> simp [AdapterResolution.ready, hstate] at hready
      · rintro (⟨hfree, -⟩ | ⟨hlocked, hadapter⟩)
        · cases hlock.symm.trans hfree
        · cases hlock.symm.trans hlocked
          exact absurd hadapter (hnone adapter)

/-- A resolution in one of the three states has an adapter. -/
theorem ready_iff_state :
    (resolveAdapter adapters preferredInterface lock runtimeUnlocked).ready = true ↔
      (resolveAdapter adapters preferredInterface lock runtimeUnlocked).state ∈
        [AdapterLockState.unlocked, .matched, .runtimeUnlocked] := by
  have hidentity : (resolveAdapter adapters preferredInterface lock runtimeUnlocked).state ∈
      [AdapterLockState.unlocked, .matched, .runtimeUnlocked] →
      (resolveAdapter adapters preferredInterface lock runtimeUnlocked).identity.isSome := by
    intro hstate
    cases hlock : effectiveLock lock runtimeUnlocked with
    | none =>
      rw [resolveAdapter_of_free hlock] at hstate ⊢
      split
      · rename_i hfound
        rw [hfound] at hstate
        simp at hstate
      · rfl
    | some expected =>
      obtain ⟨found, -, hresolve⟩ | ⟨-, hmissing⟩ :=
        resolveAdapter_of_locked adapters preferredInterface hlock
      · rw [hresolve]
        rfl
      · obtain hmissing | hmissing := hmissing <;> rw [hmissing] at hstate <;> simp at hstate
  constructor
  · intro hready
    have hstates := (Bool.and_eq_true_iff.mp hready).2
    simpa [or_assoc] using hstates
  · intro hstate
    refine Bool.and_eq_true_iff.mpr ⟨hidentity hstate, ?_⟩
    simpa [or_assoc] using hstate

end

end EcSystemCore
