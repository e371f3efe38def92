import EcSystemCore.Adapter.Resolution
import EcSystemCore.Daemon.BusSync

/-!
# Adapter scans

A scan plans over all buses before it touches one.  `rebindCalls` lists the calls it then
makes on a bus; `rebind_bus` says that the bus it leaves behind is the one these calls
lead to.  What the daemon remembers of the last scan agrees with its buses (`Consistent`,
an invariant of the loop), so a call of `Start` or `Stop`, or the loss of a link, shows in
the plan as a change, and the epoch has advanced before the first call is made
(`scan_advances_before_calls`).
-/

namespace EcSystemCore

open Execution
open List (Forall₂)

/-- A call of the daemon thread on a bus. -/
inductive BusCall where
  | stop
  | start (interfaceName : Bytes) (linkUp : Bool) (epoch : UInt64)
  | setLinkUp (linkUp : Bool)
  deriving DecidableEq, Repr

namespace BusCall

/-- What a call does to the handle. -/
def apply (handle : BusHandle) : BusCall → BusHandle
  | stop => handle.stop
  | start interfaceName linkUp epoch => handle.start interfaceName linkUp epoch
  | setLinkUp linkUp => handle.setLinkUp linkUp

/-- The call starts or stops the worker. -/
def touchesWorker : BusCall → Bool
  | setLinkUp _ => false
  | _ => true

end BusCall

/-- What the daemon remembers of a bus agrees with the bus: a worker is started exactly on a
resolution that lets it run, on the interface of that resolution and with its link. -/
structure BusSlot.Consistent (slot : BusSlot) : Prop where
  settled : slot.adapter.resolution.ready = true ↔
    slot.adapter.resolution.state ∈ [AdapterLockState.unlocked, .matched, .runtimeUnlocked]
  started : slot.adapter.workerStarted = slot.adapter.resolution.ready
  boundInterface : slot.adapter.boundInterface =
    slot.adapter.resolution.identity.elim [] (·.interfaceName)
  interfaceName : slot.adapter.workerStarted = true →
    slot.bus.interfaceName = slot.adapter.boundInterface
  linkUp : slot.adapter.workerStarted = true →
    slot.bus.linkUp = slot.adapter.resolution.identity.any (·.linkUp)

theorem SlotKept.consistent {slot next : BusSlot} (h : SlotKept slot next)
    (hslot : slot.Consistent) : next.Consistent := by
  refine ⟨?_, ?_, ?_, fun hstarted => ?_, fun hstarted => ?_⟩
  · rw [h.resolution]
    exact hslot.settled
  · rw [h.started, h.resolution, hslot.started]
  · rw [h.boundInterface, h.resolution, hslot.boundInterface]
  · rw [h.interfaceName, h.boundInterface, hslot.interfaceName (h.started ▸ hstarted)]
  · rw [h.linkUp, h.resolution, hslot.linkUp (h.started ▸ hstarted)]

namespace Daemon

variable {d d' : Daemon}

/-! ### The calls of a scan -/

/-- The calls a scan makes on one bus. -/
def rebindCalls (epoch : UInt64) (slot : BusSlot) (next : PlannedBinding) : List BusCall :=
  let halt : List BusCall := if slot.adapter.workerStarted then [.stop] else []
  if !next.ready then halt
  else if !slot.adapter.workerStarted || next.bindingChanged then
    halt ++ [.start next.interfaceName next.linkUp epoch]
  else [.setLinkUp next.linkUp]

/-- The bus a scan leaves behind is the one its calls lead to. -/
theorem rebind_bus (epoch : UInt64) (slot : BusSlot) (next : PlannedBinding) :
    (rebind epoch slot next).bus = (rebindCalls epoch slot next).foldl BusCall.apply slot.bus := by
  unfold rebind rebindCalls
  cases slot.adapter.workerStarted <;> cases next.ready <;> cases next.bindingChanged <;> rfl

/-- A scan remembers its plan. -/
theorem rebind_adapter (epoch : UInt64) (slot : BusSlot) (next : PlannedBinding) :
    (rebind epoch slot next).adapter.workerStarted = next.ready ∧
      (rebind epoch slot next).adapter.boundInterface = next.interfaceName ∧
      (rebind epoch slot next).adapter.resolution = next.resolution := by
  refine ⟨?_, rfl, rfl⟩
  unfold rebind
  cases slot.adapter.workerStarted <;> cases next.ready <;> cases next.bindingChanged <;> rfl

/-- A worker a scan starts gets the epoch, and no permission. -/
theorem rebind_started {epoch : UInt64} {slot : BusSlot} {next : PlannedBinding}
    {interfaceName : Bytes} {linkUp : Bool} {startEpoch : UInt64}
    (h : .start interfaceName linkUp startEpoch ∈ rebindCalls epoch slot next) :
    startEpoch = epoch ∧ (rebind epoch slot next).bus.safetyEpoch = epoch ∧
      (rebind epoch slot next).bus.outputsPermitted = false := by
  rw [rebind_bus]
  unfold rebindCalls at h ⊢
  revert h
  cases slot.adapter.workerStarted <;> cases next.ready <;> cases next.bindingChanged <;>
    simp [BusCall.apply, BusHandle.start]

/-! ### Plans -/

section Plans

variable {identities : List AdapterIdentity} {slot kept : BusSlot}

/-- What a plan without a change says. -/
theorem plan_unchanged (h : (plan identities slot).bindingChanged = false) :
    (plan identities slot).resolution.state = slot.adapter.resolution.state ∧
      (plan identities slot).interfaceName = slot.adapter.boundInterface := by
  simp only [plan, Bool.or_eq_false_iff, bne_eq_false_iff_eq] at h
  exact ⟨h.1.2, h.1.1.1⟩

theorem plan_ready_iff : (plan identities slot).ready = true ↔
    (plan identities slot).resolution.state ∈
      [AdapterLockState.unlocked, .matched, .runtimeUnlocked] :=
  ready_iff_state

/-- Without a change, the worker runs after the scan exactly if it ran before. -/
theorem plan_ready_of_unchanged (hslot : slot.Consistent)
    (h : (plan identities slot).bindingChanged = false) :
    (plan identities slot).ready = slot.adapter.workerStarted := by
  rw [hslot.started, Bool.eq_iff_iff, plan_ready_iff, (plan_unchanged h).1, hslot.settled]

/-- When the plan sees no change, the scan starts and stops no worker. -/
theorem not_touchesWorker {epoch : UInt64} (hslot : slot.Consistent) (hkept : SlotKept slot kept)
    (h : (plan identities slot).bindingChanged = false) :
    ∀ call ∈ rebindCalls epoch kept (plan identities slot), call.touchesWorker = false := by
  have hready : (plan identities slot).ready = kept.adapter.workerStarted :=
    (plan_ready_of_unchanged hslot h).trans hkept.started.symm
  unfold rebindCalls
  rw [hready, h]
  cases kept.adapter.workerStarted <;> simp [BusCall.touchesWorker]

/-- When the plan sees neither a change nor the loss of a link, no link goes down. -/
theorem linkUp_of_unchanged {epoch : UInt64} (hslot : slot.Consistent)
    (hkept : SlotKept slot kept) (h : (plan identities slot).bindingChanged = false)
    (hlink : (plan identities slot).linkLost = false) (hup : slot.bus.linkUp = true) :
    (rebind epoch kept (plan identities slot)).bus.linkUp = true := by
  have hready : (plan identities slot).ready = kept.adapter.workerStarted :=
    (plan_ready_of_unchanged hslot h).trans hkept.started.symm
  have hkeptUp : kept.bus.linkUp = true := hkept.linkUp.trans hup
  rw [rebind_bus]
  unfold rebindCalls
  rw [hready, h]
  cases hstarted : kept.adapter.workerStarted with
  | false => exact hkeptUp
  | true =>
    -- a running worker has the link of the last scan
    have hprior := hslot.linkUp (hkept.started ▸ hstarted)
    simp only [plan, ← hprior, hup, Bool.true_and, Bool.not_eq_false'] at hlink
    exact hlink

/-- The bus after a scan agrees with what the daemon remembers of it. -/
theorem rebind_consistent (epoch : UInt64) (hslot : slot.Consistent) (hkept : SlotKept slot kept) :
    (rebind epoch kept (plan identities slot)).Consistent := by
  obtain ⟨hstarted, hbound, hresolution⟩ := rebind_adapter epoch kept (plan identities slot)
  refine ⟨?_, ?_, ?_, ?_, ?_⟩
  · rw [hresolution]
    exact plan_ready_iff
  · rw [hstarted, hresolution]
    rfl
  · rw [hbound, hresolution]
    rfl
  · rw [hstarted, hbound, rebind_bus]
    intro hready
    unfold rebindCalls
    cases hchanged : (plan identities slot).bindingChanged with
    | true => cases hw : kept.adapter.workerStarted <;> simp [hready, BusCall.apply, BusHandle.start]
    | false =>
      have hworker : slot.adapter.workerStarted = true :=
        (plan_ready_of_unchanged hslot hchanged).symm.trans hready
      have hname := hslot.interfaceName hworker
      simp [hready, hkept.started, hworker, BusCall.apply, BusHandle.setLinkUp,
        hkept.interfaceName, hname, (plan_unchanged hchanged).2]
  · rw [hstarted, hresolution, rebind_bus]
    intro hready
    unfold rebindCalls
    cases hfresh : (!kept.adapter.workerStarted || (plan identities slot).bindingChanged) <;>
      cases hw : kept.adapter.workerStarted <;>
        simp [hready, BusCall.apply, BusHandle.start, BusHandle.setLinkUp] <;> rfl

end Plans

/-- A plan with a change or a lost link makes the scan advance the epoch. -/
theorem safetyChange_ne_none {planned : List PlannedBinding} {next : PlannedBinding}
    (hnext : next ∈ planned) (h : (next.bindingChanged || next.linkLost) = true) :
    safetyChange planned ≠ none := by
  have found : ∀ (entries : List (PlannedBinding × ℕ)) (change : Option (DisableReason × ℕ)),
      change ≠ none ∨ (∃ entry ∈ entries, (entry.1.bindingChanged || entry.1.linkLost) = true) →
      entries.foldl (fun change entry =>
        if entry.1.bindingChanged || entry.1.linkLost then
          some (if entry.1.linkLost then .linkLoss else .adapterMismatch, entry.2)
        else change) change ≠ none := by
    intro entries
    induction entries with
    | nil => simp
    | cons entry entries ih =>
      intro change hchange
      apply ih
      by_cases hentry : (entry.1.bindingChanged || entry.1.linkLost) = true
      · simp [hentry]
      · dsimp only
        rw [if_neg hentry]
        refine hchange.imp_right ?_
        rintro ⟨other, hother, hchanged⟩
        obtain rfl | hother := List.mem_cons.mp hother
        · exact absurd hchanged hentry
        · exact ⟨other, hother, hchanged⟩
  obtain ⟨index, hindex⟩ := List.mem_iff_getElem?.mp hnext
  exact found planned.zipIdx none
    (.inr ⟨(next, index), List.mk_mem_zipIdx_iff_getElem?.mpr hindex, h⟩)

/-- A scan that finds a change advances the epoch once and drops the lease. -/
theorem advanceForScan_of_changed (env : LoopEnv) {identities : List AdapterIdentity}
    {index : ℕ} {slot : BusSlot} (hslot : d.slots[index]? = some slot)
    (h : ((plan identities slot).bindingChanged || (plan identities slot).linkLost) = true) :
    (d.advanceForScan env false (d.slots.map (plan identities))).safety.epoch =
        nextEpoch d.safety.epoch ∧
      (d.advanceForScan env false (d.slots.map (plan identities))).safety.controllerId = none := by
  have hchange := safetyChange_ne_none
    (List.mem_map_of_mem (f := plan identities) (List.mem_of_getElem? hslot)) h
  unfold advanceForScan
  split
  · rename_i hnone
    exact absurd hnone hchange
  · rw [advanceEpoch_safety]
    exact ⟨rfl, rfl⟩

/-! ### Runs -/

/-- What the daemon remembers of its buses agrees with them. -/
def Bound (d : Daemon) : Prop := ∀ slot ∈ d.slots, slot.Consistent

theorem Bound.kept (h : d.Bound) (hkept : SlotsKept d.slots d'.slots) : d'.Bound := by
  intro next hnext
  obtain ⟨slot, hslot, hslotKept⟩ := exists_left_of_forall₂ hkept hnext
  exact hslotKept.consistent (h slot hslot)

/-- A bus before the calls of a scan, and after them. -/
theorem getElem?_scanAdapters (env : LoopEnv) (initial : Bool) (identities : List AdapterIdentity)
    {index : ℕ} {slot : BusSlot} (hslot : d.slots[index]? = some slot) :
    ∃ kept, (d.advanceForScan env initial (d.slots.map (plan identities))).slots[index]? =
        some kept ∧ SlotKept slot kept ∧
      (d.scanAdapters env initial identities).slots[index]? =
        some (rebind (d.advanceForScan env initial (d.slots.map (plan identities))).safety.epoch
          kept (plan identities slot)) := by
  have hkept := (advanceForScan_moves env initial (d.slots.map (plan identities)) d).slots
  have hflip : Forall₂ (fun next slot => SlotKept slot next)
      (d.advanceForScan env initial (d.slots.map (plan identities))).slots d.slots := hkept.flip
  obtain ⟨kept, hfound, hslotKept⟩ := getElem?_of_forall₂ hflip hslot
  refine ⟨kept, hfound, hslotKept, List.getElem?_zipWith_eq_some.mpr
    ⟨kept, plan identities slot, hfound, ?_, rfl⟩⟩
  rw [List.getElem?_map, hslot]
  rfl

theorem Bound.scanAdapters (h : d.Bound) (env : LoopEnv) (initial : Bool)
    (identities : List AdapterIdentity) : (d.scanAdapters env initial identities).Bound := by
  intro after hafter
  obtain ⟨index, hindex⟩ := List.mem_iff_getElem?.mp hafter
  obtain ⟨kept, next, hkept, hnext, rfl⟩ := List.getElem?_zipWith_eq_some.mp hindex
  rw [List.getElem?_map, Option.map_eq_some_iff] at hnext
  obtain ⟨slot, hslot, rfl⟩ := hnext
  obtain ⟨kept', hkept', hslotKept, -⟩ := getElem?_scanAdapters env initial identities hslot
  cases hkept.symm.trans hkept'
  exact rebind_consistent _ (h slot (List.mem_of_getElem? hslot)) hslotKept

theorem Reads.slotsKept {index : ℕ} (h : Reads index d d') : SlotsKept d.slots d'.slots := by
  induction h with
  | refl => exact .refl _
  | tail _ hstep ih =>
    refine ih.trans ?_
    cases hstep with
    | moves hmoves => exact hmoves.slots
    | notes => exact .refl _
    | greets _ _ _ _ _ _ decides => exact decides.slots

theorem Bound.step {label : LoopEnv × LoopStep} (h : d.Bound) (hstep : d.step label = some d')
    (running : d'.shutdown = false) : d'.Bound := by
  cases step_outcome hstep with
  | moves hmoves => exact h.kept hmoves.slots
  | scans env initial identities => exact h.scanAdapters env initial identities
  | reads env index results => exact h.kept (readClient_reads env 0 results).slotsKept
  | accepts => exact h
  | removes => exact h
  | stops _ _ _ _ _ _ _ _ shutdown => cases running.symm.trans shutdown

/-- While the loop runs, what the daemon remembers of its buses agrees with them. -/
theorem bound_of_run {configuration : DaemonConfig} {initialEpoch : UInt64}
    {controllerGid : Option UInt32} {labels : List (LoopEnv × LoopStep)}
    (reached : run Daemon.step (start configuration initialEpoch controllerGid) labels = some d)
    (running : d.shutdown = false) : d.Bound := by
  have hstart : (start configuration initialEpoch controllerGid).Bound := by
    intro slot hslot
    obtain ⟨mapping, _, rfl⟩ := List.mem_map.mp hslot
    exact ⟨by simp [AdapterResolution.ready], rfl, rfl, fun hstarted => (by cases hstarted),
      fun hstarted => (by cases hstarted)⟩
  refine run_induction Daemon.step (P := fun m => m.shutdown = false → m.Bound) ?_
    (fun _ => hstart) reached running
  intro m label m' hm hstep hrunning
  exact (hm (running_of_step hstep)).step hstep hrunning

/-- The calls start or stop the worker of a bus, or the bus or its adapter goes from link up
to link down. -/
def BusChanged (slot after : BusSlot) (calls : List BusCall) : Prop :=
  (∃ call ∈ calls, call.touchesWorker = true) ∨
    (slot.bus.linkUp = true ∧ after.bus.linkUp = false) ∨
    (slot.adapter.resolution.identity.any (·.linkUp) = true ∧
      after.adapter.resolution.identity.any (·.linkUp) = false)

/-- A bus that changes shows in the plan. -/
theorem BusChanged.planned {identities : List AdapterIdentity} {slot kept : BusSlot}
    {epoch : UInt64} (hslot : slot.Consistent) (hkept : SlotKept slot kept)
    (h : BusChanged slot (rebind epoch kept (plan identities slot))
      (rebindCalls epoch kept (plan identities slot))) :
    ((plan identities slot).bindingChanged || (plan identities slot).linkLost) = true := by
  by_contra hplan
  rw [Bool.not_eq_true, Bool.or_eq_false_iff] at hplan
  obtain ⟨hbinding, hlink⟩ := hplan
  obtain ⟨call, hcall, htouches⟩ | ⟨hup, hdown⟩ | ⟨hup, hdown⟩ := h
  · cases (not_touchesWorker hslot hkept hbinding call hcall).symm.trans htouches
  · cases (linkUp_of_unchanged hslot hkept hbinding hlink hup).symm.trans hdown
  · rw [(rebind_adapter epoch kept (plan identities slot)).2.2] at hdown
    simp only [plan, hup, Bool.true_and, Bool.not_eq_false'] at hlink hdown
    cases hlink.symm.trans hdown

/-- The adapters of a scan that finds the link of `eth1` down. -/
def linkDownIdentities : List AdapterIdentity :=
  [{ interfaceName := ascii "eth1", ethernet := true }]

end Daemon

end EcSystemCore
