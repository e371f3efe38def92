import EcSystemCore.Adapter.Resolution
import EcSystemCore.Config.Load
import EcSystemCore.Daemon.Scan

/-!
# Which interfaces the workers run on

A scan binds each mapping of the configuration on its own: a worker runs on the adapter
the mapping selects (`runsOn_after_scan_iff`).  What `LoadConfigText` checks of the
interface names, that no two are equal and that none is restricted, therefore holds of the
running workers only as far as the mappings are bound by name.  A lock is matched by
`id_path`, against all adapters, so it can bind a second mapping to an interface that is
in use (`workers_distinct_iff`), or a mapping to a restricted interface
(`workers_unrestricted_iff`).
-/

namespace EcSystemCore

open Execution

/-- The worker of the bus runs on the interface of this name. -/
def BusSlot.RunsOn (slot : BusSlot) (name : Bytes) : Prop :=
  slot.adapter.workerStarted = true ∧ slot.bus.interfaceName = name

namespace Daemon

variable {d : Daemon}

/-- The daemon with other run-time unlocks. -/
def withUnlocks (unlocked : ℕ → Bool) (d : Daemon) : Daemon :=
  { d with slots := d.slots.mapIdx fun index slot =>
      { slot with adapter := { slot.adapter with runtimeUnlocked := unlocked index } } }

theorem Bound.withUnlocks (h : d.Bound) (unlocked : ℕ → Bool) : (d.withUnlocks unlocked).Bound := by
  intro next hnext
  obtain ⟨index, hindex, rfl⟩ := List.mem_mapIdx.mp hnext
  obtain ⟨settled, started, boundInterface, interfaceName, linkUp⟩ :=
    h d.slots[index] (List.getElem_mem hindex)
  exact ⟨settled, started, boundInterface, interfaceName, linkUp⟩

/-! ### The mappings stay -/

/-- The buses are those of the configured mappings. -/
def Mapped (interfaces : List InterfaceConfig) (d : Daemon) : Prop :=
  d.slots.map (·.mapping) = interfaces

theorem map_mapping_of_kept {slots next : List BusSlot} (h : SlotsKept slots next) :
    next.map (·.mapping) = slots.map (·.mapping) := by
  induction h with
  | nil => rfl
  | cons hslot _ ih => rw [List.map_cons, List.map_cons, hslot.mapping, ih]

theorem map_mapping_rebind (epoch : UInt64) (identities : List AdapterIdentity)
    {slots kept : List BusSlot} (h : SlotsKept slots kept) :
    (kept.zipWith (rebind epoch) (slots.map (plan identities))).map (·.mapping) =
      slots.map (·.mapping) := by
  induction h with
  | nil => rfl
  | cons hslot _ ih =>
    rw [List.map_cons, List.map_cons, List.zipWith_cons_cons, List.map_cons, ih]
    exact congrArg (· :: _) hslot.mapping

/-- While the loop runs, its buses are those of the configuration. -/
theorem mapped_of_run {configuration : DaemonConfig} {initialEpoch : UInt64}
    {controllerGid : Option UInt32} {labels : List (LoopEnv × LoopStep)}
    (reached : run Daemon.step (start configuration initialEpoch controllerGid) labels = some d)
    (running : d.shutdown = false) : d.Mapped configuration.interfaces := by
  have hstart : (start configuration initialEpoch controllerGid).Mapped
      configuration.interfaces := by
    change (configuration.interfaces.map _).map _ = _
    rw [List.map_map]
    exact List.map_id _
  refine run_induction Daemon.step
    (P := fun m => m.shutdown = false → m.Mapped configuration.interfaces) ?_ (fun _ => hstart)
    reached running
  intro m label m' hm hstep hrunning
  specialize hm (running_of_step hstep)
  unfold Mapped at hm ⊢
  rw [← hm]
  cases step_outcome hstep with
  | moves hmoves => exact map_mapping_of_kept hmoves.slots
  | scans env initial identities =>
    exact map_mapping_rebind _ identities (advanceForScan_moves env initial _ m).slots
  | reads env index results =>
    exact map_mapping_of_kept (readClient_reads env 0 results).slotsKept
  | accepts => rfl
  | removes => rfl
  | stops _ _ _ _ _ _ _ _ shutdown => cases hrunning.symm.trans shutdown

/-! ### Bindings after a scan -/

section Scans

variable {interfaces : List InterfaceConfig} {unlocked : ℕ → Bool} {env : LoopEnv}
  {initial : Bool} {identities : List AdapterIdentity} {index : ℕ}

/-- **After a scan, the worker of a bus runs on the adapter its mapping selects.** -/
theorem runsOn_after_scan_iff (hbound : d.Bound) (hmapped : d.Mapped interfaces)
    {mapping : InterfaceConfig} (hmapping : interfaces[index]? = some mapping) :
    ∃ after, ((d.withUnlocks unlocked).scanAdapters env initial identities).slots[index]? =
        some after ∧
      ∀ name, after.RunsOn name ↔ ∃ adapter,
        Selects identities mapping.physicalInterface mapping.lock (unlocked index) adapter ∧
          adapter.interfaceName = name := by
  rw [← hmapped, List.getElem?_map, Option.map_eq_some_iff] at hmapping
  obtain ⟨slot, hslot, rfl⟩ := hmapping
  have hunlocked : (d.withUnlocks unlocked).slots[index]? = some
      { slot with adapter := { slot.adapter with runtimeUnlocked := unlocked index } } := by
    change (d.slots.mapIdx _)[index]? = _
    rw [List.getElem?_mapIdx, hslot]
    rfl
  obtain ⟨kept, -, hkept, hafter⟩ := getElem?_scanAdapters env initial identities hunlocked
  refine ⟨_, hafter, fun name => ?_⟩
  have hconsistent := (hbound.withUnlocks unlocked).scanAdapters env initial identities _
    (List.mem_of_getElem? hafter)
  obtain ⟨-, -, hresolution⟩ := rebind_adapter
    ((d.withUnlocks unlocked).advanceForScan env initial
      ((d.withUnlocks unlocked).slots.map (plan identities))).safety.epoch kept
    (plan identities
      { slot with adapter := { slot.adapter with runtimeUnlocked := unlocked index } })
  constructor
  · rintro ⟨hworker, rfl⟩
    have hready := hconsistent.started.symm.trans hworker
    obtain ⟨adapter, hadapter⟩ := Option.isSome_iff_exists.mp (Bool.and_eq_true_iff.mp hready).1
    refine ⟨adapter, ready_and_identity_iff.mp ⟨?_, ?_⟩, ?_⟩
    · rwa [hresolution] at hready
    · rwa [hresolution] at hadapter
    · rw [hconsistent.interfaceName hworker, hconsistent.boundInterface, hadapter]
      rfl
  · rintro ⟨adapter, hselects, rfl⟩
    obtain ⟨hready, hadapter⟩ := ready_and_identity_iff.mpr hselects
    have hworker := (hconsistent.started.trans (congrArg _ hresolution)).trans hready
    refine ⟨hworker, ?_⟩
    rw [hconsistent.interfaceName hworker, hconsistent.boundInterface, hresolution]
    exact congrArg (Option.elim · [] (·.interfaceName)) hadapter

/-- Every bus after a scan has such a mapping. -/
theorem mapping_after_scan (hbound : d.Bound) (hmapped : d.Mapped interfaces) {after : BusSlot}
    (hafter : ((d.withUnlocks unlocked).scanAdapters env initial identities).slots[index]? =
      some after) :
    ∃ mapping, interfaces[index]? = some mapping ∧
      ∀ name, after.RunsOn name ↔ ∃ adapter,
        Selects identities mapping.physicalInterface mapping.lock (unlocked index) adapter ∧
          adapter.interfaceName = name := by
  obtain ⟨kept, next, -, hnext, -⟩ := List.getElem?_zipWith_eq_some.mp hafter
  rw [List.getElem?_map, Option.map_eq_some_iff] at hnext
  obtain ⟨slot, hslot, -⟩ := hnext
  change (d.slots.mapIdx _)[index]? = _ at hslot
  rw [List.getElem?_mapIdx, Option.map_eq_some_iff] at hslot
  obtain ⟨old, hold, -⟩ := hslot
  have hmapping : interfaces[index]? = some old.mapping := by
    rw [← hmapped, List.getElem?_map, hold]
    rfl
  obtain ⟨found, hfound, hruns⟩ := runsOn_after_scan_iff hbound hmapped hmapping
  cases hafter.symm.trans hfound
  exact ⟨old.mapping, hmapping, hruns⟩

end Scans

theorem name_of_find? {identities : List AdapterIdentity} {name : Bytes} {adapter : AdapterIdentity}
    (h : identities.find? (fun identity => identity.interfaceName = name) = some adapter) :
    adapter.interfaceName = name := by
  simpa using List.find?_some h

theorem mem_of_selects {identities : List AdapterIdentity} {preferred : Bytes}
    {lock : Option AdapterIdentityLock} {runtimeUnlocked : Bool} {adapter : AdapterIdentity}
    (h : Selects identities preferred lock runtimeUnlocked adapter) : adapter ∈ identities := by
  cases h with
  | byName _ found => exact List.mem_of_find?_eq_some found
  | byLock _ agrees => exact List.mem_of_find?_eq_some agrees.found

/-- **Two workers share an interface exactly when a lock says so.**  In any state of the
loop over an accepted configuration, with any run-time unlocks and adapters of distinct
names: after a scan no two workers run on interfaces of one name, if and only if no lock in
force matches an adapter that another mapping selects. -/
theorem workers_distinct_iff (text : Bytes) (configuration : DaemonConfig)
    (loaded : loadConfigText text = .ok configuration) (initialEpoch : UInt64)
    (controllerGid : Option UInt32) (labels : List (LoopEnv × LoopStep)) (d : Daemon)
    (reached : run Daemon.step (start configuration initialEpoch controllerGid) labels = some d)
    (running : d.shutdown = false) (unlocked : ℕ → Bool) (env : LoopEnv) (initial : Bool)
    (identities : List AdapterIdentity) (distinct : (identities.map (·.interfaceName)).Nodup) :
    (∀ (i j : ℕ) (first second : BusSlot) (name : Bytes), i ≠ j →
        ((d.withUnlocks unlocked).scanAdapters env initial identities).slots[i]? = some first →
        ((d.withUnlocks unlocked).scanAdapters env initial identities).slots[j]? = some second →
        first.RunsOn name → ¬second.RunsOn name) ↔
      ∀ i j mapping other expected adapter, i ≠ j →
        configuration.interfaces[i]? = some mapping →
        configuration.interfaces[j]? = some other →
        effectiveLock mapping.lock (unlocked i) = some expected →
        LockMatches identities expected adapter →
        ¬Selects identities other.physicalInterface other.lock (unlocked j) adapter := by
  have hbound := bound_of_run reached running
  have hmapped := mapped_of_run reached running
  obtain ⟨hnames, -⟩ := names_of_loadConfigText loaded
  constructor
  · intro hworkers i j mapping other expected adapter hne hmapping hother hlock hmatches hselects
    obtain ⟨first, hfirst, hfirstRuns⟩ := runsOn_after_scan_iff hbound hmapped hmapping
    obtain ⟨second, hsecond, hsecondRuns⟩ := runsOn_after_scan_iff hbound hmapped hother
    exact hworkers i j first second adapter.interfaceName hne hfirst hsecond
      ((hfirstRuns _).mpr ⟨adapter, .byLock hlock hmatches, rfl⟩)
      ((hsecondRuns _).mpr ⟨adapter, hselects, rfl⟩)
  · intro hlocks i j first second name hne hfirst hsecond hfirstRuns hsecondRuns
    obtain ⟨mapping, hmapping, hfirstIff⟩ := mapping_after_scan hbound hmapped hfirst
    obtain ⟨other, hother, hsecondIff⟩ := mapping_after_scan hbound hmapped hsecond
    obtain ⟨adapter, hadapter, rfl⟩ := (hfirstIff _).mp hfirstRuns
    obtain ⟨adapter', hadapter', hname⟩ := (hsecondIff _).mp hsecondRuns
    obtain rfl : adapter' = adapter :=
      List.inj_on_of_nodup_map distinct (mem_of_selects hadapter') (mem_of_selects hadapter) hname
    cases hadapter with
    | byLock hlock hmatches => exact hlocks i j _ _ _ _ hne hmapping hother hlock hmatches hadapter'
    | byName hfree hfound =>
      cases hadapter' with
      | byLock hlock hmatches =>
        exact hlocks j i _ _ _ _ hne.symm hother hmapping hlock hmatches (.byName hfree hfound)
      | byName _ hfound' =>
        -- both are bound by name, and the names of the mappings are distinct
        have hequal := (name_of_find? hfound).symm.trans (name_of_find? hfound')
        have hi : (configuration.interfaces.map (·.physicalInterface))[i]? =
            some mapping.physicalInterface := by rw [List.getElem?_map, hmapping]; rfl
        have hj : (configuration.interfaces.map (·.physicalInterface))[j]? =
            some mapping.physicalInterface := by rw [List.getElem?_map, hother, hequal]; rfl
        have hlt : i < (configuration.interfaces.map (·.physicalInterface)).length :=
          (List.getElem?_eq_some_iff.mp hi).1
        exact hne ((List.getElem?_inj hlt hnames).mp (hi.trans hj.symm))

/-- The interfaces that only `allow_restricted_interfaces` opens. -/
def restrictedNames : List Bytes := [ascii "eth0", ascii "wlan0", ascii "usb0", ascii "lo"]

/-- **A worker runs on a restricted interface exactly when a lock leads there, or the
configuration names the loopback.**  In any state of the loop over an accepted configuration
that does not allow restricted interfaces, with any run-time unlocks and any adapters: after
a scan no worker runs on one of them, if and only if no lock in force matches an adapter of
such a name, and no mapping without one names `lo` while `lo` is among the adapters.
`IsRestrictedInterface` does not know `lo`. -/
theorem workers_unrestricted_iff (text : Bytes) (configuration : DaemonConfig)
    (loaded : loadConfigText text = .ok configuration)
    (closed : configuration.allowRestrictedInterfaces = false) (initialEpoch : UInt64)
    (controllerGid : Option UInt32) (labels : List (LoopEnv × LoopStep)) (d : Daemon)
    (reached : run Daemon.step (start configuration initialEpoch controllerGid) labels = some d)
    (running : d.shutdown = false) (unlocked : ℕ → Bool) (env : LoopEnv) (initial : Bool)
    (identities : List AdapterIdentity) :
    (∀ (i : ℕ) (slot : BusSlot), ((d.withUnlocks unlocked).scanAdapters env initial
        identities).slots[i]? = some slot → ∀ name ∈ restrictedNames, ¬slot.RunsOn name) ↔
      ∀ (i : ℕ) (mapping : InterfaceConfig), configuration.interfaces[i]? = some mapping →
        (∀ expected adapter, effectiveLock mapping.lock (unlocked i) = some expected →
          LockMatches identities expected adapter → adapter.interfaceName ∉ restrictedNames) ∧
        (effectiveLock mapping.lock (unlocked i) = none → mapping.physicalInterface = ascii "lo" →
          ∀ adapter ∈ identities, adapter.interfaceName ≠ ascii "lo") := by
  have hbound := bound_of_run reached running
  have hmapped := mapped_of_run reached running
  obtain ⟨-, hrestricted⟩ := names_of_loadConfigText loaded
  constructor
  · intro hworkers i mapping hmapping
    obtain ⟨slot, hslot, hruns⟩ := runsOn_after_scan_iff hbound hmapped hmapping
    refine ⟨fun expected adapter hlock hmatches hname => ?_, fun hfree hlo adapter hadapter hname => ?_⟩
    · exact hworkers i slot hslot _ hname ((hruns _).mpr ⟨adapter, .byLock hlock hmatches, rfl⟩)
    · obtain ⟨found, hfound⟩ := Option.isSome_iff_exists.mp
        (List.find?_isSome (p := fun identity : AdapterIdentity =>
          decide (identity.interfaceName = mapping.physicalInterface)).mpr
          ⟨adapter, hadapter, by simpa using hname.trans hlo.symm⟩)
      exact hworkers i slot hslot (ascii "lo") (by decide)
        ((hruns _).mpr ⟨found, .byName hfree hfound, (name_of_find? hfound).trans hlo⟩)
  · intro hmappings i slot hslot name hname hruns
    obtain ⟨mapping, hmapping, hiff⟩ := mapping_after_scan hbound hmapped hslot
    obtain ⟨hlocks, hloopback⟩ := hmappings i mapping hmapping
    obtain ⟨adapter, hselects, rfl⟩ := (hiff _).mp hruns
    cases hselects with
    | byLock hlock hmatches => exact hlocks _ adapter hlock hmatches hname
    | byName hfree hfound =>
      have hphysical := name_of_find? hfound
      have hallowed := hrestricted closed mapping (List.mem_of_getElem? hmapping)
      rw [← hphysical] at hallowed
      simp only [restrictedNames, List.mem_cons, List.not_mem_nil, or_false] at hname
      obtain hname | hname | hname | hname := hname
      · rw [hname] at hallowed; cases hallowed
      · rw [hname] at hallowed; cases hallowed
      · rw [hname] at hallowed; cases hallowed
      · exact hloopback hfree (hphysical.symm.trans hname) adapter
          (List.mem_of_find?_eq_some hfound) hname

/-- A configuration that locks the mapping of `eth1` to the device at `p`, beside a mapping
of `eth2`. -/
def lockedPairText : Bytes :=
  ascii ("\x7b\"interface_mappings\":[\x7b\"logical_name\":\"a\",\"physical_interface\":\"eth1\"," ++
    "\"lock\":\x7b\"id_path\":\"p\"\x7d\x7d,\x7b\"logical_name\":\"b\"," ++
    "\"physical_interface\":\"eth2\"\x7d]\x7d")

/-- What the daemon reads from it. -/
def lockedPair : DaemonConfig where
  interfaces :=
    [{ logicalName := ascii "a", physicalInterface := ascii "eth1",
       lock := some { idPath := ascii "p" } },
     { logicalName := ascii "b", physicalInterface := ascii "eth2" }]

/-- The device at `p` has come up as an interface of this name. -/
def deviceNamed (name : String) : List AdapterIdentity :=
  [{ interfaceName := ascii name, idPath := ascii "p", ethernet := true, linkUp := true }]

theorem load_lockedPair : loadConfigText lockedPairText = .ok lockedPair := by
  have hload : (loadConfigText lockedPairText).toOption = some lockedPair := by decide +kernel
  cases hresult : loadConfigText lockedPairText with
  | error message => rw [hresult] at hload; cases hload
  | ok configuration => rw [hresult] at hload; cases hload; rfl

/-- The buses of this configuration after a first scan that finds the device. -/
def lockedPairSlots (name : String) : List BusSlot :=
  (((start lockedPair 7 none).withUnlocks fun _ => false).scanAdapters {} true
    (deviceNamed name)).slots

/-- When the device is `eth2`, two workers run on it. -/
theorem lockedPair_shares :
    loadConfigText lockedPairText = .ok lockedPair ∧
      ((deviceNamed "eth2").map (·.interfaceName)).Nodup ∧
      ∃ first second, (lockedPairSlots "eth2")[0]? = some first ∧
        (lockedPairSlots "eth2")[1]? = some second ∧
        first.RunsOn (ascii "eth2") ∧ second.RunsOn (ascii "eth2") := by
  have hview : (lockedPairSlots "eth2").map (fun slot =>
      (slot.adapter.workerStarted, slot.bus.interfaceName)) =
        [(true, ascii "eth2"), (true, ascii "eth2")] := by decide +kernel
  obtain ⟨first, others, hslots, hfirst, hothers⟩ := List.map_eq_cons_iff.mp hview
  obtain ⟨second, hslots', hsecond⟩ := List.map_eq_singleton_iff.mp hothers
  rw [hslots, hslots']
  exact ⟨load_lockedPair, by decide, first, second, rfl, rfl, Prod.mk.inj hfirst,
    Prod.mk.inj hsecond⟩

/-- When the device is `eth0`, which the configuration does not allow, a worker runs on it. -/
theorem lockedPair_restricted :
    loadConfigText lockedPairText = .ok lockedPair ∧
      lockedPair.allowRestrictedInterfaces = false ∧ ascii "eth0" ∈ restrictedNames ∧
      ∃ slot, (lockedPairSlots "eth0")[0]? = some slot ∧ slot.RunsOn (ascii "eth0") := by
  have hview : (lockedPairSlots "eth0").map (fun slot =>
      (slot.adapter.workerStarted, slot.bus.interfaceName)) =
        [(true, ascii "eth0"), (false, [])] := by decide +kernel
  obtain ⟨slot, others, hslots, hslot, -⟩ := List.map_eq_cons_iff.mp hview
  rw [hslots]
  exact ⟨load_lockedPair, rfl, by decide, slot, rfl, Prod.mk.inj hslot⟩

/-- When it is `eth3`, the workers do not share an interface. -/
theorem lockedPair_distinct : loadConfigText lockedPairText = .ok lockedPair ∧
    ∀ (i j : ℕ) (first second : BusSlot) (name : Bytes), i ≠ j →
      (lockedPairSlots "eth3")[i]? = some first → (lockedPairSlots "eth3")[j]? = some second →
      first.RunsOn name → ¬second.RunsOn name := by
  refine ⟨load_lockedPair, (workers_distinct_iff lockedPairText lockedPair load_lockedPair 7 none []
    _ rfl rfl (fun _ => false) {} true (deviceNamed "eth3") (by decide)).mpr ?_⟩
  intro i j mapping other expected adapter hne hmapping hother hlock hmatches hselects
  have hfirst : ∀ (k : ℕ) (locked : InterfaceConfig), lockedPair.interfaces[k]? = some locked →
      locked.lock ≠ none → k = 0 := by
    rintro (_ | _ | k) locked hlocked hsome
    · rfl
    · cases hlocked
      exact absurd rfl hsome
    · cases hlocked
  cases hselects with
  | byLock hlock' _ =>
    -- only the first mapping has a lock
    refine hne ((hfirst i _ hmapping ?_).trans (hfirst j _ hother ?_).symm)
    · exact fun hnone => by rw [hnone] at hlock; cases hlock
    · exact fun hnone => by rw [hnone] at hlock'; cases hlock'
  | byName _ hfound =>
    have hname := (name_of_find? hfound).symm
    rw [List.mem_singleton.mp (List.mem_of_find?_eq_some hfound)] at hname
    have hnames : ∀ listed ∈ lockedPair.interfaces,
        listed.physicalInterface ≠ ascii "eth3" := by decide
    exact hnames other (List.mem_of_getElem? hother) hname

/-- When the device is `eth3`, no worker runs on a restricted interface. -/
theorem lockedPair_unrestricted : loadConfigText lockedPairText = .ok lockedPair ∧
    ∀ (i : ℕ) (slot : BusSlot), (lockedPairSlots "eth3")[i]? = some slot →
      ∀ name ∈ restrictedNames, ¬slot.RunsOn name := by
  refine ⟨load_lockedPair, (workers_unrestricted_iff lockedPairText lockedPair load_lockedPair rfl 7
    none [] _ rfl rfl (fun _ => false) {} true (deviceNamed "eth3")).mpr ?_⟩
  intro i mapping hmapping
  have hnames : ∀ adapter ∈ deviceNamed "eth3", adapter.interfaceName ∉ restrictedNames := by decide
  refine ⟨fun expected adapter _ hmatches => ?_, fun _ _ adapter hadapter hlo => ?_⟩
  · exact hnames adapter (List.mem_of_find?_eq_some hmatches.found)
  · exact hnames adapter hadapter (hlo ▸ by decide)

end Daemon

end EcSystemCore
