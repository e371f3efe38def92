import EcSystemCore.Daemon.Reads

/-!
# The buses follow the gate

Between any two steps of the event loop, every bus whose worker is started has the epoch
of the gate, and permission only while the gate's outputs are enabled.  Every small step
keeps `Synced`, so every step of the loop does and every run of it.
-/

namespace EcSystemCore

open Execution

namespace Daemon

variable {d d' : Daemon}

theorem Synced.readStep {index : ℕ} (hsynced : d.Synced) (h : ReadStep index d d') :
    d'.Synced := by
  cases h with
  | moves hmoves => exact hmoves.synced hsynced
  | notes => exact hsynced
  | greets _ _ _ _ _ _ decides => exact decides.synced hsynced

theorem Synced.reads {index : ℕ} (hsynced : d.Synced) (h : Reads index d d') : d'.Synced := by
  induction h with
  | refl => exact hsynced
  | tail _ hstep ih => exact ih.readStep hstep

theorem Synced.step {label : LoopEnv × LoopStep} (hsynced : d.Synced)
    (h : d.step label = some d') : d'.Synced := by
  cases step_outcome h with
  | moves hmoves => exact hmoves.synced hsynced
  | scans env initial identities =>
    have hadvanced := (advanceForScan_moves env initial (d.slots.map (plan identities)) d).synced
    exact rebindAll_synced _ (hadvanced hsynced)
  | reads env index results => exact hsynced.reads (readClient_reads env 0 results)
  | accepts => exact hsynced
  | removes => exact hsynced
  | stops _ _ _ _ _ _ _ synced _ => exact synced

/-- No worker is started before the first scan. -/
theorem synced_start (configuration : DaemonConfig) (initialEpoch : UInt64)
    (controllerGid : Option UInt32) : (start configuration initialEpoch controllerGid).Synced := by
  intro slot hslot hstarted
  obtain ⟨mapping, _, rfl⟩ := List.mem_map.mp hslot
  cases hstarted

/-- **Started buses follow the gate.**  After any steps of the event loop, a bus whose worker
is started has the gate's epoch, and its outputs are permitted only if the gate has a
controller and enables outputs in that epoch. -/
theorem started_buses_follow_gate (configuration : DaemonConfig) (initialEpoch : UInt64)
    (controllerGid : Option UInt32) (labels : List (LoopEnv × LoopStep)) (d : Daemon)
    (reached : run step (start configuration initialEpoch controllerGid) labels = some d)
    (slot : BusSlot) (configured : slot ∈ d.slots)
    (started : slot.adapter.workerStarted = true) :
    slot.bus.safetyEpoch = d.safety.epoch ∧
      (slot.bus.outputsPermitted = true →
        d.safety.hasController = true ∧ d.safety.outputsEnabled = true) := by
  have hsynced : d.Synced := run_induction step (fun _ _ _ hs hstep => hs.step hstep)
    (synced_start configuration initialEpoch controllerGid) reached
  obtain ⟨hepoch, hpermitted⟩ := hsynced slot configured started
  refine ⟨hepoch, fun h => ?_⟩
  have henabled := hpermitted h
  exact ⟨d.safety.controller_of_enabled henabled, henabled⟩

/-! ### A run that enables outputs -/

/-- One mapping, for the interface `eth1`. -/
def oneBusConfig : DaemonConfig where
  interfaces := [{ logicalName := ascii "main", physicalInterface := ascii "eth1" }]

/-- An environment in which every bus is operational. -/
def healthyEnv : LoopEnv where
  bus := fun _ _ => { state := .operational, outputTopologyVerified := true }

/-- What a controller sends to take the lease and to enable outputs in epoch 7. -/
def enableBytes : Bytes :=
  encodeFrame .hello 1 (encodeHelloPayload { role := .controller }) ++
    encodeFrame .outputEnable 2 (le64 7 ++ [1])

/-- A scan that finds `eth1`, and a controller that connects and enables outputs. -/
def enableSteps : List (LoopEnv × LoopStep) :=
  [(healthyEnv, .scanAdapters true
      [{ interfaceName := ascii "eth1", ethernet := true, linkUp := true }]),
    (healthyEnv, .acceptClient (some ⟨41, 0, 0, []⟩)),
    (healthyEnv, .readClient 0 [.data enableBytes])]

/-- The started bus of that run is permitted outputs, in the gate's epoch. -/
theorem enableSteps_follow_gate : ∃ d slot,
    run step (start oneBusConfig 7 none) enableSteps = some d ∧ slot ∈ d.slots ∧
      slot.adapter.workerStarted = true ∧ slot.bus.outputsPermitted = true ∧
      slot.bus.safetyEpoch = d.safety.epoch ∧ d.safety.hasController = true ∧
      d.safety.outputsEnabled = true := by
  have hview : (run step (start oneBusConfig 7 none) enableSteps).map (fun d => d.slots.any
      fun slot => slot.adapter.workerStarted && slot.bus.outputsPermitted) = some true := by
    decide +kernel
  obtain ⟨d, hrun, hany⟩ := Option.map_eq_some_iff.mp hview
  obtain ⟨slot, hslot, hboth⟩ := List.any_eq_true.mp hany
  obtain ⟨hstarted, hpermitted⟩ := Bool.and_eq_true_iff.mp hboth
  obtain ⟨hepoch, henabled⟩ :=
    started_buses_follow_gate oneBusConfig 7 none enableSteps d hrun slot hslot hstarted
  exact ⟨d, slot, hrun, hslot, hstarted, hpermitted, hepoch, henabled hpermitted⟩

end Daemon

end EcSystemCore
