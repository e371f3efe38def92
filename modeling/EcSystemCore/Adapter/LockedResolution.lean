import EcSystemCore.Lib.Keyed
import EcSystemCore.Adapter.Resolution

/-!
# Locked mappings

What `ResolveAdapter` answers for a mapping with a lock, without reference to the order
in which it searches: it looks at the adapters with the lock's `id_path`, and only if there
is exactly one of them at the other fields of the lock (`resolveAdapter_locked`).  The
answer is `Matched` exactly if that adapter has every value the lock names
(`resolveAdapter_matched_iff`), and no order of the adapters changes it.
-/

namespace EcSystemCore

/-- The adapter has a value for every optional field the lock names, equal to the lock's
value in normal form.  Serial numbers have no normal form but themselves. -/
structure AgreesWith (lock : AdapterIdentityLock) (adapter : AdapterIdentity) : Prop where
  permanentMac : ∀ mac, lock.permanentMac = some mac →
    ∃ value, normalizeMac mac = some value ∧ adapter.permanentMac = some value
  usbSerial : ∀ serial, lock.usbSerial = some serial → adapter.usbSerial = some serial
  usbVendorId : ∀ vendor, lock.usbVendorId = some vendor →
    ∃ value, normalizeUsbId vendor = some value ∧ adapter.usbVendorId = some value
  usbProductId : ∀ product, lock.usbProductId = some product →
    ∃ value, normalizeUsbId product = some value ∧ adapter.usbProductId = some value

/-- The adapter is the only one with the lock's `id_path`. -/
structure OnlyWithPath (adapters : List AdapterIdentity) (lock : AdapterIdentityLock)
    (adapter : AdapterIdentity) : Prop where
  mem : adapter ∈ adapters
  idPath : adapter.idPath = lock.idPath
  only : ∀ other ∈ adapters, other.idPath = lock.idPath → other = adapter

theorem lockMismatch_eq_none_iff {pathMatch : AdapterIdentity} {expected observed : Option Bytes}
    {reason : AdapterLockReason} :
    lockMismatch pathMatch expected observed reason = none ↔
      ∀ wanted, expected = some wanted → observed = some wanted := by
  cases expected with
  | none => simp [lockMismatch]
  | some wanted =>
    cases observed with
    | none => simp [lockMismatch]
    | some found => simp [lockMismatch, eq_comm]

/-- What `ValidateAdapterLock` guarantees: every value the lock names has a normal form. -/
theorem isSome_of_validateAdapterLock {lock : AdapterIdentityLock}
    (haccepted : validateAdapterLock lock = .ok ()) :
    (∀ mac, lock.permanentMac = some mac → (normalizeMac mac).isSome) ∧
      (∀ vendor, lock.usbVendorId = some vendor → (normalizeUsbId vendor).isSome) ∧
      ∀ product, lock.usbProductId = some product → (normalizeUsbId product).isSome := by
  unfold validateAdapterLock at haccepted
  split at haccepted
  · cases haccepted
  split at haccepted
  · cases haccepted
  rename_i hmac
  split at haccepted
  · cases haccepted
  split at haccepted
  · cases haccepted
  rename_i hvendor
  split at haccepted
  · cases haccepted
  rename_i hproduct
  refine ⟨?_, ?_, ?_⟩
  · intro mac heq
    simpa [heq, Option.isSome_iff_ne_none] using hmac
  · intro vendor heq
    simpa [heq, Option.isSome_iff_ne_none] using hvendor
  · intro product heq
    simpa [heq, Option.isSome_iff_ne_none] using hproduct

/-- A field is compared in its normal form; if it has one, nothing is lost. -/
theorem forall_bind_iff {normalize : Bytes → Option Bytes} {expected observed : Option Bytes}
    (hsome : ∀ text, expected = some text → (normalize text).isSome) :
    (∀ wanted, expected.bind normalize = some wanted → observed = some wanted) ↔
      ∀ text, expected = some text → ∃ value, normalize text = some value ∧ observed = some value := by
  cases expected with
  | none => simp
  | some text =>
    obtain ⟨value, hvalue⟩ := Option.isSome_iff_exists.mp (hsome text rfl)
    simp [hvalue]

/-- No field differs exactly if the adapter agrees with the lock. -/
theorem fieldMismatch_eq_none_iff {lock : AdapterIdentityLock} {adapter : AdapterIdentity}
    (haccepted : validateAdapterLock lock = .ok ()) :
    fieldMismatch lock adapter = none ↔ AgreesWith lock adapter := by
  obtain ⟨hmac, hvendor, hproduct⟩ := isSome_of_validateAdapterLock haccepted
  unfold fieldMismatch
  simp only [Option.or_eq_none_iff, lockMismatch_eq_none_iff]
  rw [forall_bind_iff hmac, forall_bind_iff hvendor, forall_bind_iff hproduct]
  exact ⟨fun ⟨h₁, h₂, h₃, h₄⟩ => ⟨h₁, h₂, h₃, h₄⟩, fun ⟨h₁, h₂, h₃, h₄⟩ => ⟨h₁, h₂, h₃, h₄⟩⟩

/-- `ResolveAdapter` for a mapping with a lock, by the adapters that have its `id_path`. -/
theorem resolveAdapter_locked (adapters : List AdapterIdentity) (preferredInterface : Bytes)
    (lock : AdapterIdentityLock) :
    resolveAdapter adapters preferredInterface (some lock) false =
      match adapters.filter fun identity => identity.idPath = lock.idPath with
      | [] =>
        let preferred := adapters.find? fun identity =>
          identity.interfaceName = preferredInterface
        let related := preferred.isSome || relatedIdentity adapters lock
        ⟨if related then .mismatch else .missing,
          if related then .idPathMismatch else .interfaceMissing, preferred⟩
      | [pathMatch] =>
        (fieldMismatch lock pathMatch).getD
          ⟨.matched, if lock.pathOnly then .pathOnlyIdentity else .none, some pathMatch⟩
      | _ => ⟨.mismatch, .identityUnavailable, none⟩ := by
  have hfind : adapters.find? (fun identity => identity.idPath = lock.idPath) =
      (adapters.filter fun identity => identity.idPath = lock.idPath).head? :=
    (List.head?_filter ..).symm
  have hcount : adapters.countP (fun identity => identity.idPath = lock.idPath) =
      (adapters.filter fun identity => identity.idPath = lock.idPath).length :=
    List.countP_eq_length_filter
  simp only [resolveAdapter, Bool.false_eq_true, if_false, hfind, hcount]
  cases adapters.filter fun identity => identity.idPath = lock.idPath with
  | nil => rfl
  | cons first others =>
    cases others with
    | nil => rfl
    | cons second others =>
      have hlength : (first :: second :: others).length ≠ 1 := by
        intro h
        cases h
      simp only [List.head?_cons, if_pos hlength]

section

variable {adapters : List AdapterIdentity} {lock : AdapterIdentityLock}

/-- The adapters with the lock's `id_path` are one adapter. -/
theorem filter_idPath_iff (hnames : (adapters.map (·.interfaceName)).Nodup)
    {adapter : AdapterIdentity} :
    (adapters.filter fun identity => identity.idPath = lock.idPath) = [adapter] ↔
      OnlyWithPath adapters lock adapter := by
  rw [Keyed.filter_eq_singleton_iff hnames]
  simp only [decide_eq_true_eq]
  exact ⟨fun ⟨h₁, h₂, h₃⟩ => ⟨h₁, h₂, h₃⟩, fun ⟨h₁, h₂, h₃⟩ => ⟨h₁, h₂, h₃⟩⟩

/-- An adapter is matched exactly if it is the only one with the `id_path` and agrees with
the lock, and the answer then is that adapter. -/
theorem resolveAdapter_matched_iff (hnames : (adapters.map (·.interfaceName)).Nodup)
    (haccepted : validateAdapterLock lock = .ok ()) (preferredInterface : Bytes)
    (adapter : AdapterIdentity) :
    (resolveAdapter adapters preferredInterface (some lock) false).state = .matched ∧
        (resolveAdapter adapters preferredInterface (some lock) false).identity = some adapter ↔
      OnlyWithPath adapters lock adapter ∧ AgreesWith lock adapter := by
  rw [← filter_idPath_iff hnames, ← fieldMismatch_eq_none_iff haccepted, resolveAdapter_locked]
  split
  · rename_i hnone
    simp only [hnone, List.nil_eq, reduceCtorEq, false_and, iff_false, not_and]
    intro hstate
    split at hstate <;> cases hstate
  · rename_i pathMatch hone
    rw [hone]
    cases hfield : fieldMismatch lock pathMatch with
    | none =>
      constructor
      · rintro ⟨-, hidentity⟩
        cases hidentity
        exact ⟨rfl, hfield⟩
      · rintro ⟨hadapter, -⟩
        cases hadapter
        exact ⟨rfl, rfl⟩
    | some resolution =>
      constructor
      · rintro ⟨hstate, -⟩
        cases (fieldMismatch_state hfield).symm.trans hstate
      · rintro ⟨hadapter, hnone⟩
        cases hadapter
        cases hfield.symm.trans hnone
  · rename_i hnil hone
    refine ⟨fun h => (AdapterLockState.noConfusion h.1), fun h => absurd h.1 (hone adapter)⟩

/-- A locked mapping is matched to some adapter, or its state is `Missing` or `Mismatch`. -/
theorem resolveAdapter_locked_state (adapters : List AdapterIdentity)
    (lock : AdapterIdentityLock) (preferredInterface : Bytes) :
    (resolveAdapter adapters preferredInterface (some lock) false).state = .matched ∧
        (∃ adapter, (resolveAdapter adapters preferredInterface (some lock) false).identity =
          some adapter) ∨
      (resolveAdapter adapters preferredInterface (some lock) false).state = .missing ∨
      (resolveAdapter adapters preferredInterface (some lock) false).state = .mismatch := by
  obtain ⟨adapter, -, hmatched⟩ | ⟨-, hstate⟩ :=
    resolveAdapter_of_locked adapters preferredInterface
      (show effectiveLock (some lock) false = some lock from rfl)
  · rw [hmatched]
    exact .inl ⟨rfl, adapter, rfl⟩
  · exact .inr hstate

/-- The order of the adapters does not matter. -/
theorem resolveAdapter_perm {adapters' : List AdapterIdentity}
    (hnames : (adapters.map (·.interfaceName)).Nodup) (hperm : adapters.Perm adapters')
    (preferredInterface : Bytes) :
    resolveAdapter adapters' preferredInterface (some lock) false =
      resolveAdapter adapters preferredInterface (some lock) false := by
  have hpreferred := Keyed.find?_perm hnames hperm preferredInterface
  have hrelated : relatedIdentity adapters' lock = relatedIdentity adapters lock := by
    unfold relatedIdentity
    exact hperm.any_eq.symm
  have hfilter := hperm.filter fun identity => decide (identity.idPath = lock.idPath)
  rw [resolveAdapter_locked, resolveAdapter_locked, hpreferred, hrelated]
  -- With at most one such adapter there is nothing to permute; with more only the number counts.
  match hadapters : adapters.filter fun identity => decide (identity.idPath = lock.idPath) with
  | [] =>
    rw [hadapters, List.nil_perm] at hfilter
    rw [hfilter, hadapters]
  | [adapter] =>
    rw [hadapters, List.singleton_perm] at hfilter
    rw [← hfilter, hadapters]
  | first :: second :: others =>
    have hlength := hfilter.length_eq
    rw [hadapters] at hlength
    match hadapters' : adapters'.filter fun identity =>
      decide (identity.idPath = lock.idPath) with
    | [] => simp [hadapters'] at hlength
    | [adapter] => simp [hadapters'] at hlength
    | _ :: _ :: _ => rw [hadapters, hadapters']

/-- **A locked mapping is matched to the one adapter its lock describes, in whatever order
the adapters are found.** -/
theorem locked_resolution_exact (hnames : (adapters.map (·.interfaceName)).Nodup)
    (haccepted : validateAdapterLock lock = .ok ()) (preferredInterface : Bytes) :
    ((resolveAdapter adapters preferredInterface (some lock) false).state = .matched ↔
        ∃ adapter, OnlyWithPath adapters lock adapter ∧ AgreesWith lock adapter) ∧
      (∀ adapter, OnlyWithPath adapters lock adapter → AgreesWith lock adapter →
        (resolveAdapter adapters preferredInterface (some lock) false).identity = some adapter) ∧
      ((resolveAdapter adapters preferredInterface (some lock) false).state ≠ .matched →
        (resolveAdapter adapters preferredInterface (some lock) false).state = .missing ∨
          (resolveAdapter adapters preferredInterface (some lock) false).state = .mismatch) ∧
      ∀ adapters', adapters.Perm adapters' →
        resolveAdapter adapters' preferredInterface (some lock) false =
          resolveAdapter adapters preferredInterface (some lock) false := by
  have hmatched := resolveAdapter_matched_iff hnames haccepted preferredInterface
  have hstate := resolveAdapter_locked_state adapters lock preferredInterface
  refine ⟨⟨?_, ?_⟩, ?_, ?_, ?_⟩
  · intro h
    obtain ⟨-, adapter, hidentity⟩ | h' | h' := hstate
    · exact ⟨adapter, (hmatched adapter).mp ⟨h, hidentity⟩⟩
    · cases h.symm.trans h'
    · cases h.symm.trans h'
  · rintro ⟨adapter, hadapter⟩
    exact ((hmatched adapter).mpr hadapter).1
  · intro adapter honly hagrees
    exact ((hmatched adapter).mpr ⟨honly, hagrees⟩).2
  · intro hne
    exact hstate.resolve_left fun h => hne h.1
  · intro adapters' hperm
    exact resolveAdapter_perm hnames hperm preferredInterface

/-- A lock on the second of two adapters, with its MAC address written in another way. -/
theorem locked_resolution_exact_second :
    (resolveAdapter [⟨ascii "eth1", ascii "pci-1", none, none, none, none, true, true⟩,
        ⟨ascii "eth2", ascii "pci-2", some (ascii "02:00:00:00:00:0a"), none, none, none, true,
          true⟩]
      (ascii "eth1") (some ⟨ascii "pci-2", some (ascii "02-00-00-00-00-0A"), none, none, none⟩)
      false).state = .matched :=
  (locked_resolution_exact (by decide) (by decide) (ascii "eth1")).1.mpr
    ⟨⟨ascii "eth2", ascii "pci-2", some (ascii "02:00:00:00:00:0a"), none, none, none, true, true⟩,
      ⟨by decide, by decide, by decide⟩,
      ⟨fun mac hmac => by cases hmac; exact ⟨_, by decide, rfl⟩, nofun, nofun, nofun⟩⟩

end

end EcSystemCore
