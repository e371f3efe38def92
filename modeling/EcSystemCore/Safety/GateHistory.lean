import EcSystemCore.Lib.Lease
import EcSystemCore.Safety.Gate

/-!
# What the gate's history says about its answers

The gate is run by arbitrary sequences of its nine state-changing operations.
Whatever their order, arguments and clock readings, the gate behaves as the
abstract lease of `Lib.Lease`: every operation is one of advance, acquire, arm
(enable outputs) or idle, as `leaseEvent` reads it off the operation and its
answer (`step_leaseEvent`).  The lease's run rules then carry over to the gate,
with the epoch as the counter value of the generation.
-/

namespace EcSystemCore

open Execution

/-- The operations that may change the gate, with their arguments. -/
inductive GateOp where
  | acquire (clientId : ClientId) (peerPid : UInt32) (now : TimePoint)
  | heartbeat (clientId : ClientId) (commandEpoch : UInt64) (now : TimePoint)
  | setOutputEnabled (clientId : ClientId) (commandEpoch : UInt64)
      (enabled processDataHealthy : Bool) (now : TimePoint)
  | recordOutputWrite (clientId : ClientId) (commandEpoch : UInt64) (now : TimePoint)
  | release (clientId : ClientId) (commandEpoch : UInt64)
  | disconnect (clientId : ClientId)
  | expire (now : TimePoint)
  | expireOutputCommands (now : TimePoint)
  | invalidate
  deriving DecidableEq, Repr

namespace SafetyGate

/-- Carry out one operation. -/
def react (gate : SafetyGate) : GateOp → GateResult × SafetyGate
  | .acquire clientId peerPid now => gate.acquire clientId peerPid now
  | .heartbeat clientId commandEpoch now => gate.heartbeat clientId commandEpoch now
  | .setOutputEnabled clientId commandEpoch enabled processDataHealthy now =>
    gate.setOutputEnabled clientId commandEpoch enabled processDataHealthy now
  | .recordOutputWrite clientId commandEpoch now =>
    gate.recordOutputWrite clientId commandEpoch now
  | .release clientId commandEpoch => gate.release clientId commandEpoch
  | .disconnect clientId => gate.disconnect clientId
  | .expire now => gate.expire now
  | .expireOutputCommands now => gate.expireOutputCommands now
  | .invalidate => gate.invalidate

/-! ### What one operation can do -/

/-- The four ways an operation can end.  `idle` covers every refusal and every
refresh of a timer; it never answers Ok to an acquisition or an enable. -/
inductive Effect (gate : SafetyGate) : GateOp → GateResult × SafetyGate → Prop
  | dropped (op : GateOp) : Effect gate op gate.dropControllerAndAdvanceEpoch
  | acquired {clientId peerPid now result next}
      (free : gate.controllerId = none ∨ gate.controllerId = some clientId)
      (answer : result.status = .ok ∧ result.epochChanged = false)
      (epoch : next.epoch = gate.epoch) (holder : next.controllerId = some clientId)
      (enabled : next.outputsEnabled = false) :
      Effect gate (.acquire clientId peerPid now) (result, next)
  | enabled {clientId now result next}
      (held : gate.controllerId = some clientId)
      (answer : result.status = .ok ∧ result.epochChanged = false)
      (epoch : next.epoch = gate.epoch) (holder : next.controllerId = gate.controllerId)
      (enabled : next.outputsEnabled = true) :
      Effect gate (.setOutputEnabled clientId gate.epoch true true now) (result, next)
  | idle {op result next} (answer : result.epochChanged = false)
      (epoch : next.epoch = gate.epoch) (holder : next.controllerId = gate.controllerId)
      (enabled : next.outputsEnabled = gate.outputsEnabled)
      (notAcquired : ∀ clientId peerPid now,
        op = .acquire clientId peerPid now → result.status ≠ .ok)
      (notEnabled : ∀ clientId commandEpoch healthy now,
        op = .setOutputEnabled clientId commandEpoch true healthy now →
          result.status ≠ .ok) :
      Effect gate op (result, next)

theorem authorize_epochChanged (gate : SafetyGate) (clientId : ClientId)
    (commandEpoch : UInt64) : (gate.authorize clientId commandEpoch).epochChanged = false := by
  unfold authorize
  split
  · rfl
  · split <;> rfl

theorem authorizeWrite_epochChanged (gate : SafetyGate) (clientId : ClientId)
    (commandEpoch : UInt64) :
    (gate.authorizeWrite clientId commandEpoch).epochChanged = false := by
  simp only [authorizeWrite]
  split
  · exact authorize_epochChanged _ _ _
  · split <;> rfl

@[simp] theorem refreshHeartbeat_controllerId (gate : SafetyGate) (now : TimePoint) :
    (gate.refreshHeartbeat now).controllerId = gate.controllerId := by
  simp [refreshHeartbeat, controllerId, Function.comp_def]

/-- A writer is authorized exactly when it holds the lease in the gate's epoch
and outputs are enabled. -/
theorem authorizeWrite_status_eq_ok {gate : SafetyGate} {clientId : ClientId}
    {commandEpoch : UInt64} :
    (gate.authorizeWrite clientId commandEpoch).status = .ok ↔
      commandEpoch = gate.epoch ∧ gate.controllerId = some clientId ∧
        gate.outputsEnabled = true := by
  unfold authorizeWrite
  by_cases hauth : (gate.authorize clientId commandEpoch).status = .ok
  · obtain ⟨rfl, hheld⟩ := authorize_status_eq_ok.mp hauth
    cases henabled : gate.outputsEnabled <;> simp [hauth, hheld]
  · simp only [ne_eq, hauth, not_false_eq_true, if_true, false_iff]
    rintro ⟨hepoch, hheld, -⟩
    exact hauth (authorize_status_eq_ok.mpr ⟨hepoch, hheld⟩)

/-- An operation that leaves the gate as it is, and answers neither Ok to an
acquisition nor Ok to an enable, is idle. -/
theorem Effect.unchanged {gate : SafetyGate} {op : GateOp} {result : GateResult}
    (answer : result.epochChanged = false)
    (notAcquired : ∀ clientId peerPid now,
      op = .acquire clientId peerPid now → result.status ≠ .ok)
    (notEnabled : ∀ clientId commandEpoch healthy now,
      op = .setOutputEnabled clientId commandEpoch true healthy now →
        result.status ≠ .ok) :
    Effect gate op (result, gate) :=
  .idle answer rfl rfl rfl notAcquired notEnabled

/-- **One operation, once and for all**: every operation has one of the four
effects. -/
theorem react_effect (gate : SafetyGate) (op : GateOp) : Effect gate op (gate.react op) := by
  cases op with
  | acquire clientId peerPid now =>
    simp only [react, acquire]
    split
    · exact .unchanged rfl (by simp) (by simp)
    · split
      · exact .unchanged rfl (by simp) (by simp)
      · rename_i hfree
        refine .acquired ?_ ⟨rfl, rfl⟩ rfl rfl rfl
        unfold controllerId
        cases hc : gate.controller with
        | none => simp
        | some held => simpa [hc] using hfree
  | heartbeat clientId commandEpoch now =>
    simp only [react, heartbeat]
    split
    · exact .unchanged (authorize_epochChanged _ _ _) (by simp) (by simp)
    · exact .idle rfl rfl (refreshHeartbeat_controllerId _ _) rfl (by simp) (by simp)
  | setOutputEnabled clientId commandEpoch enabled processDataHealthy now =>
    simp only [react, setOutputEnabled]
    split
    · rename_i hauth
      refine .unchanged (authorize_epochChanged _ _ _) (by simp) ?_
      rintro _ _ _ _ ⟨⟩
      exact hauth
    · rename_i hauth
      obtain ⟨rfl, hheld⟩ := authorize_status_eq_ok.mp (not_not.mp hauth)
      split
      · exact .unchanged rfl (by simp) (by simp)
      · split
        · exact .dropped _
        · rename_i hhealthy henabled
          obtain rfl : enabled = true := by simpa using henabled
          obtain rfl : processDataHealthy = true := by simpa using hhealthy
          exact .enabled hheld ⟨rfl, rfl⟩ rfl (refreshHeartbeat_controllerId _ _) rfl
  | recordOutputWrite clientId commandEpoch now =>
    simp only [react, recordOutputWrite]
    refine .idle (authorizeWrite_epochChanged _ _ _) ?_ ?_ ?_ (by simp) (by simp)
    all_goals split <;> rfl
  | release clientId commandEpoch =>
    simp only [react, release]
    split
    · exact .unchanged (authorize_epochChanged _ _ _) (by simp) (by simp)
    · exact .dropped _
  | disconnect clientId =>
    simp only [react, disconnect]
    split
    · exact .unchanged rfl (by simp) (by simp)
    · exact .dropped _
  | expire now =>
    simp only [react, expire]
    split
    · exact .unchanged rfl (by simp) (by simp)
    · exact .dropped _
  | expireOutputCommands now =>
    simp only [react, expireOutputCommands]
    split
    · exact .unchanged rfl (by simp) (by simp)
    · exact .dropped _
  | invalidate => exact .dropped _

/-! ### The gate runs the abstract lease -/

/-- What an operation and its answer did to the lease. -/
def leaseEvent (entry : GateOp × GateResult) : Lease.Event ClientId :=
  if entry.2.epochChanged then .advance
  else if entry.2.status = .ok then
    match entry.1 with
    | .acquire clientId _ _ => .acquire clientId
    | .setOutputEnabled clientId _ true _ _ => .arm clientId
    | _ => .idle
  else .idle

/-- The lease the gate holds, `generation` epochs after the first one. -/
def lease (generation : ℕ) (gate : SafetyGate) : Lease.State ClientId :=
  ⟨generation, gate.controllerId, gate.outputsEnabled⟩

/-- The number of epoch advances a history records. -/
def advances (entries : List (GateOp × GateResult)) : ℕ :=
  entries.countP fun entry => entry.2.epochChanged

theorem leaseEvent_eq_advance {entry : GateOp × GateResult} :
    leaseEvent entry = .advance ↔ entry.2.epochChanged = true := by
  obtain ⟨op, result⟩ := entry
  cases hchanged : result.epochChanged with
  | true => simp [leaseEvent, hchanged]
  | false =>
    simp only [leaseEvent, hchanged]
    split
    · simp_all
    · split
      · split <;> simp
      · simp

theorem leaseEvent_of_idle {op : GateOp} {result : GateResult}
    (answer : result.epochChanged = false)
    (notAcquired : ∀ clientId peerPid now,
      op = .acquire clientId peerPid now → result.status ≠ .ok)
    (notEnabled : ∀ clientId commandEpoch healthy now,
      op = .setOutputEnabled clientId commandEpoch true healthy now →
        result.status ≠ .ok) : leaseEvent (op, result) = .idle := by
  by_cases hok : result.status = .ok
  · cases op with
    | acquire clientId peerPid now => exact absurd hok (notAcquired _ _ _ rfl)
    | setOutputEnabled clientId commandEpoch enabled processDataHealthy now =>
      cases enabled with
      | true => exact absurd hok (notEnabled _ _ _ _ rfl)
      | false => simp [leaseEvent, answer, hok]
    | _ => simp [leaseEvent, answer, hok]
  · simp [leaseEvent, answer, hok]

/-- **Simulation, one operation.**  The lease takes the event the operation
stands for, and the epoch moves exactly when that event is an advance. -/
theorem step_leaseEvent (gate : SafetyGate) (op : GateOp) (generation : ℕ) :
    Lease.step (gate.lease generation) (leaseEvent (op, (gate.react op).1)) =
        some ((gate.react op).2.lease
          (generation + if (gate.react op).1.epochChanged then 1 else 0)) ∧
      (gate.react op).2.epoch =
        if (gate.react op).1.epochChanged then nextEpoch gate.epoch else gate.epoch := by
  have heffect := react_effect gate op
  generalize hreact : gate.react op = outcome at heffect ⊢
  cases heffect with
  | dropped => exact ⟨rfl, rfl⟩
  | acquired free answer epoch holder enabled =>
    rename_i clientId peerPid now result next
    have hevent : leaseEvent (.acquire clientId peerPid now, result) = .acquire clientId := by
      simp [leaseEvent, answer]
    refine ⟨?_, by simp [answer, epoch]⟩
    rw [hevent, Lease.step_acquire_eq_some]
    exact ⟨free, by simp [lease, holder, enabled, answer]⟩
  | enabled held answer epoch holder enabled =>
    rename_i clientId now result next
    have hevent : leaseEvent (.setOutputEnabled clientId gate.epoch true true now, result) =
        .arm clientId := by
      simp [leaseEvent, answer]
    refine ⟨?_, by simp [answer, epoch]⟩
    rw [hevent, Lease.step_arm_eq_some]
    exact ⟨held, by simp [lease, holder, enabled, answer]⟩
  | idle answer epoch holder enabled notAcquired notEnabled =>
    rw [leaseEvent_of_idle answer notAcquired notEnabled]
    exact ⟨by simp [lease, holder, enabled, answer], by simp [answer, epoch]⟩

/-- **Simulation, whole runs.**  A sequence of operations runs the lease, and the
epoch is as many counter steps further as the history records advances. -/
theorem run_leaseEvent (gate : SafetyGate) (ops : List GateOp) (generation : ℕ) :
    run Lease.step (gate.lease generation) ((history react gate ops).map leaseEvent) =
        some ((final react gate ops).lease
          (generation + advances (history react gate ops))) ∧
      (final react gate ops).epoch =
        nextEpoch^[advances (history react gate ops)] gate.epoch := by
  induction ops generalizing gate generation with
  | nil => exact ⟨rfl, rfl⟩
  | cons op ops ih =>
    obtain ⟨hstep, hepoch⟩ := step_leaseEvent gate op generation
    obtain ⟨hrun, hfinal⟩ := ih (gate.react op).2
      (generation + if (gate.react op).1.epochChanged then 1 else 0)
    have hcount : advances (history react gate (op :: ops)) =
        (if (gate.react op).1.epochChanged then 1 else 0) +
          advances (history react (gate.react op).2 ops) := by
      simp only [advances, history, List.countP_cons]
      exact Nat.add_comm _ _
    refine ⟨?_, ?_⟩
    · rw [hcount, ← Nat.add_assoc]
      simp only [history, List.map_cons, run_cons, hstep, Option.bind_some]
      exact hrun
    · rw [hcount, Nat.add_comm, Function.iterate_add_apply, final, hfinal, hepoch]
      split <;> rfl

/-! ### Histories that grant write access -/

/-- The history contains a successful acquisition by `clientId` and, later, a
successful enable by `clientId` for `commandEpoch` with healthy process data; no
epoch advance follows the acquisition and no successful acquisition follows the
enable. -/
def WriteGranted (clientId : ClientId) (commandEpoch : UInt64)
    (entries : List (GateOp × GateResult)) : Prop :=
  ∃ before between after peerPid acquiredAt enabledAt acquisition enable,
    entries = before ++ (.acquire clientId peerPid acquiredAt, acquisition) ::
      (between ++
        (.setOutputEnabled clientId commandEpoch true true enabledAt, enable) :: after) ∧
    acquisition.status = .ok ∧ enable.status = .ok ∧
    (∀ entry ∈ between, entry.2.epochChanged = false) ∧
    enable.epochChanged = false ∧
    (∀ entry ∈ after, entry.2.epochChanged = false) ∧
    ∀ entry ∈ after, ∀ other pid now,
      entry.1 = .acquire other pid now → entry.2.status ≠ .ok

/-- The lease `(clientId, commandEpoch)` is in force. -/
def HoldsLease (gate : SafetyGate) (clientId : ClientId) (commandEpoch : UInt64) : Prop :=
  gate.controllerId = some clientId ∧ gate.epoch = commandEpoch

/-- The gate answers Ok to none of the requests a lease holder can make:
heartbeat, enable or disable, write, adapter unlock, release. -/
def RefusesAll (gate : SafetyGate) (clientId : ClientId) (commandEpoch : UInt64) : Prop :=
  (∀ now, (gate.heartbeat clientId commandEpoch now).1.status ≠ .ok) ∧
  (∀ enabled healthy now,
    (gate.setOutputEnabled clientId commandEpoch enabled healthy now).1.status ≠ .ok) ∧
  (gate.authorizeWrite clientId commandEpoch).status ≠ .ok ∧
  (∀ now, (gate.recordOutputWrite clientId commandEpoch now).1.status ≠ .ok) ∧
  (gate.authorizeController clientId commandEpoch).status ≠ .ok ∧
  (gate.release clientId commandEpoch).1.status ≠ .ok

/-- Every request a lease holder can make is refused outside the gate's epoch. -/
theorem refusesAll_of_epoch_ne {gate : SafetyGate} {clientId : ClientId}
    {commandEpoch : UInt64} (h : gate.epoch ≠ commandEpoch) :
    gate.RefusesAll clientId commandEpoch := by
  have hauth : (gate.authorize clientId commandEpoch).status ≠ .ok := fun hok =>
    h (authorize_status_eq_ok.mp hok).1.symm
  have hwrite : (gate.authorizeWrite clientId commandEpoch).status ≠ .ok := fun hok =>
    h (authorizeWrite_status_eq_ok.mp hok).1.symm
  refine ⟨fun now => ?_, fun enabled healthy now => ?_, hwrite, fun now => hwrite, hauth, ?_⟩
  · simp [heartbeat, hauth]
  · simp [setOutputEnabled, hauth]
  · simp [release, hauth]

theorem leaseEvent_eq_acquire {entry : GateOp × GateResult} {clientId : ClientId} :
    leaseEvent entry = .acquire clientId ↔
      entry.2.epochChanged = false ∧ entry.2.status = .ok ∧
        ∃ peerPid now, entry.1 = .acquire clientId peerPid now := by
  obtain ⟨op, result⟩ := entry
  cases hchanged : result.epochChanged with
  | true => simp [leaseEvent, hchanged]
  | false =>
    by_cases hok : result.status = .ok
    · cases op with
      | setOutputEnabled _ _ enabled _ _ => cases enabled <;> simp [leaseEvent, hchanged, hok]
      | _ => simp [leaseEvent, hchanged, hok]
    · simp [leaseEvent, hchanged, hok]

theorem leaseEvent_eq_arm {entry : GateOp × GateResult} {clientId : ClientId} :
    leaseEvent entry = .arm clientId ↔
      entry.2.epochChanged = false ∧ entry.2.status = .ok ∧
        ∃ commandEpoch healthy now,
          entry.1 = .setOutputEnabled clientId commandEpoch true healthy now := by
  obtain ⟨op, result⟩ := entry
  cases hchanged : result.epochChanged with
  | true => simp [leaseEvent, hchanged]
  | false =>
    by_cases hok : result.status = .ok
    · cases op with
      | setOutputEnabled _ _ enabled _ _ => cases enabled <;> simp [leaseEvent, hchanged, hok]
      | _ => simp [leaseEvent, hchanged, hok]
    · simp [leaseEvent, hchanged, hok]

/-- A list of entries contains no advance exactly when none of them changed the
epoch. -/
theorem advance_notMem_map {entries : List (GateOp × GateResult)} :
    Lease.Event.advance ∉ entries.map leaseEvent ↔
      ∀ entry ∈ entries, entry.2.epochChanged = false := by
  simp [leaseEvent_eq_advance]

theorem advances_eq_zero {entries : List (GateOp × GateResult)}
    (h : ∀ entry ∈ entries, entry.2.epochChanged = false) : advances entries = 0 := by
  simpa [advances, List.countP_eq_zero] using h

/-- An enable is answered Ok only in the gate's own epoch and with healthy
process data. -/
theorem setOutputEnabled_true_ok {gate : SafetyGate} {clientId : ClientId}
    {commandEpoch : UInt64} {healthy : Bool} {now : TimePoint}
    (h : (gate.setOutputEnabled clientId commandEpoch true healthy now).1.status = .ok) :
    commandEpoch = gate.epoch ∧ healthy = true := by
  by_cases hauth : (gate.authorize clientId commandEpoch).status = .ok
  · cases healthy with
    | true => exact ⟨(authorize_status_eq_ok.mp hauth).1, rfl⟩
    | false => simp [setOutputEnabled, hauth] at h
  · simp [setOutputEnabled, hauth] at h

variable {gate : SafetyGate} {ops : List GateOp} {clientId : ClientId}

/-- The armed runs of the lease are the histories that grant write access in the
epoch they end with. -/
theorem armedBy_iff_writeGranted :
    Lease.ArmedBy clientId ((history react gate ops).map leaseEvent) ↔
      WriteGranted clientId (final react gate ops).epoch (history react gate ops) := by
  constructor
  · rintro ⟨pre, mid, post, hmap, hmid, hpost, hacquire⟩
    obtain ⟨before, fromAcquire, hentries, -, hacquired⟩ := List.map_eq_append_iff.mp hmap
    obtain ⟨⟨op₁, acquisition⟩, tail, rfl, hacq, htail⟩ := List.map_eq_cons_iff.mp hacquired
    obtain ⟨between, fromEnable, rfl, rfl, henabled⟩ := List.map_eq_append_iff.mp htail
    obtain ⟨⟨op₂, enable⟩, after, rfl, harm, rfl⟩ := List.map_eq_cons_iff.mp henabled
    obtain ⟨-, hok₁, peerPid, acquiredAt, rfl⟩ := leaseEvent_eq_acquire.mp hacq
    obtain ⟨hkept, hok₂, commandEpoch, healthy, enabledAt, rfl⟩ := leaseEvent_eq_arm.mp harm
    have hsplit := hentries
    rw [← List.cons_append, ← List.append_assoc] at hsplit
    obtain ⟨ops₁, op, ops₂, rfl, -, henable, hafter⟩ := history_eq_append_cons react hsplit
    obtain ⟨rfl, rfl⟩ := Prod.mk.inj henable
    obtain ⟨hepoch, rfl⟩ := setOutputEnabled_true_ok hok₂
    have hquiet := advance_notMem_map.mp hpost
    -- No advance after the enable: the enable's epoch is the one the run ends in.
    have hlast : (final react gate (ops₁ ++
        .setOutputEnabled clientId commandEpoch true true enabledAt :: ops₂)).epoch =
        commandEpoch := by
      rw [final_append, (run_leaseEvent _ _ 0).2, advances_eq_zero]
      · exact hepoch.symm
      · simpa only [history, List.forall_mem_cons, ← hafter] using ⟨hkept, hquiet⟩
    rw [hlast]
    refine ⟨before, between, after, peerPid, acquiredAt, enabledAt, acquisition, _, hentries,
      hok₁, hok₂, advance_notMem_map.mp hmid, hkept, hquiet, ?_⟩
    rintro ⟨op, result⟩ hmem other pid now rfl hok
    exact hacquire other (List.mem_map.mpr ⟨_, hmem,
      leaseEvent_eq_acquire.mpr ⟨hquiet _ hmem, hok, pid, now, rfl⟩⟩)
  · rintro ⟨before, between, after, peerPid, acquiredAt, enabledAt, acquisition, enable,
      hentries, hok₁, hok₂, hbetween, hkept, hafter, hacquire⟩
    have hfirst : acquisition.epochChanged = false := by
      obtain ⟨ops₁, op, ops₂, -, -, hentry, -⟩ := history_eq_append_cons react hentries
      obtain ⟨rfl, rfl⟩ := Prod.mk.inj hentry
      simp only [react, acquire]
      split
      · rfl
      · split <;> rfl
    refine ⟨before.map leaseEvent, between.map leaseEvent, after.map leaseEvent, ?_,
      advance_notMem_map.mpr hbetween, advance_notMem_map.mpr hafter, ?_⟩
    · have hacq : leaseEvent (.acquire clientId peerPid acquiredAt, acquisition) =
          .acquire clientId := leaseEvent_eq_acquire.mpr ⟨hfirst, hok₁, peerPid, acquiredAt, rfl⟩
      have harm : leaseEvent (.setOutputEnabled clientId (final react gate ops).epoch true true
          enabledAt, enable) = .arm clientId :=
        leaseEvent_eq_arm.mpr ⟨hkept, hok₂, _, true, enabledAt, rfl⟩
      simp only [hentries, List.map_append, List.map_cons, hacq, harm]
    · intro other hmem
      obtain ⟨entry, hmem, hevent⟩ := List.mem_map.mp hmem
      obtain ⟨-, hok, pid, now, hop⟩ := leaseEvent_eq_acquire.mp hevent
      exact hacquire entry hmem other pid now hop hok

/-! ### Leases along a run -/

section Along

variable (gate : SafetyGate) (ops : List GateOp)

/-- The gate after the first `i` operations of the run. -/
def stateAt (i : ℕ) : SafetyGate := final react gate (ops.take i)

/-- The number of epoch advances among the first `i` operations of the run. -/
def generationAt (i : ℕ) : ℕ := advances (history react gate (ops.take i))

/-- Between two points of a run the lease has made a run of its own. -/
theorem exists_run_between {i j : ℕ} (h : i ≤ j) :
    ∃ events, run Lease.step ((stateAt gate ops i).lease (generationAt gate ops i)) events =
      some ((stateAt gate ops j).lease (generationAt gate ops j)) := by
  have hsplit : ops.take j = ops.take i ++ (ops.take j).drop i := by
    conv_lhs => rw [← List.take_append_drop i (ops.take j), List.take_take, Nat.min_eq_left h]
  have hstate : stateAt gate ops j = final react (stateAt gate ops i) ((ops.take j).drop i) := by
    rw [stateAt, stateAt, ← final_append, ← hsplit]
  have hcount : generationAt gate ops j = generationAt gate ops i +
      advances (history react (stateAt gate ops i) ((ops.take j).drop i)) := by
    conv_lhs => rw [generationAt, hsplit, history_append, advances, List.countP_append]
    rfl
  rw [hstate, hcount]
  exact ⟨_, (run_leaseEvent _ _ _).1⟩

theorem generationAt_mono {i j : ℕ} (h : i ≤ j) :
    generationAt gate ops i ≤ generationAt gate ops j := by
  obtain ⟨events, hrun⟩ := exists_run_between gate ops h
  exact Lease.run_generation_le hrun

theorem generationAt_le (i : ℕ) :
    generationAt gate ops i ≤ advances (history react gate ops) := by
  have h := generationAt_mono gate ops (Nat.le_add_right i ops.length)
  rwa [generationAt, generationAt, List.take_of_length_le (Nat.le_add_left _ _)] at h

/-- Within one cycle of the epoch counter, later generations have other epochs. -/
theorem epoch_stateAt_ne (bound : advances (history react gate ops) < epochCount) {i j : ℕ}
    (h : generationAt gate ops i < generationAt gate ops j) :
    (stateAt gate ops i).epoch ≠ (stateAt gate ops j).epoch := by
  have hle := generationAt_le gate ops j
  rw [stateAt, stateAt, (run_leaseEvent _ _ 0).2, (run_leaseEvent _ _ 0).2]
  exact iterate_nextEpoch_ne gate.epoch_ne_zero h
    (Nat.lt_of_le_of_lt (Nat.sub_le _ _) (Nat.lt_of_le_of_lt hle bound))

/-- An epoch has at most one holder. -/
theorem holder_unique_of_epoch_eq (bound : advances (history react gate ops) < epochCount)
    {i j : ℕ} {c₁ c₂ : ClientId} (hepoch : (stateAt gate ops i).epoch = (stateAt gate ops j).epoch)
    (h₁ : (stateAt gate ops i).controllerId = some c₁)
    (h₂ : (stateAt gate ops j).controllerId = some c₂) : c₁ = c₂ := by
  wlog hij : i ≤ j generalizing i j c₁ c₂
  · exact (this hepoch.symm h₂ h₁ (Nat.le_of_not_le hij)).symm
  obtain ⟨events, hrun⟩ := exists_run_between gate ops hij
  have hsame : generationAt gate ops i = generationAt gate ops j :=
    (generationAt_mono gate ops hij).eq_of_not_lt fun hlt =>
      epoch_stateAt_ne gate ops bound hlt hepoch
  exact Lease.holder_unique hrun hsame h₁ h₂

/-- Once a lease has been dropped, its epoch is over for good. -/
theorem epoch_ne_of_dropped (bound : advances (history react gate ops) < epochCount)
    {i j k : ℕ} (hij : i ≤ j) (hjk : j ≤ k) {c : ClientId} {e : UInt64}
    (held : (stateAt gate ops i).HoldsLease c e)
    (dropped : ¬(stateAt gate ops j).HoldsLease c e) :
    (stateAt gate ops k).epoch ≠ e := by
  obtain ⟨events, hrun⟩ := exists_run_between gate ops hij
  have hlt : generationAt gate ops i < generationAt gate ops j := by
    by_cases hholder : (stateAt gate ops j).controllerId = some c
    · refine (generationAt_mono gate ops hij).lt_of_ne fun heq => dropped ⟨hholder, ?_⟩
      rw [← held.2, stateAt, stateAt, (run_leaseEvent _ _ 0).2, (run_leaseEvent _ _ 0).2]
      exact congrArg (nextEpoch^[·] gate.epoch) heq.symm
    · exact Lease.generation_lt_of_lost hrun held.1 hholder
  rw [← held.2]
  exact (epoch_stateAt_ne gate ops bound
    (hlt.trans_le (generationAt_mono gate ops hjk))).symm

end Along

/-- **Write authorization is a property of the history.**  After any sequence of
operations with fewer than `2 ^ 64 - 1` epoch advances a write is authorized
exactly when the history grants it.  No epoch has two holders, and a dropped lease
is never honoured again. -/
theorem authorizeWrite_ok_iff_granted (initialEpoch : UInt64) (hbTimeout ocTimeout : Int)
    (ops : List GateOp)
    (bound : advances (history react (new initialEpoch hbTimeout ocTimeout) ops) <
      epochCount) :
    (∀ c e,
      ((final react (new initialEpoch hbTimeout ocTimeout) ops).authorizeWrite c e).status
          = .ok ↔
        e = (final react (new initialEpoch hbTimeout ocTimeout) ops).epoch ∧
          WriteGranted c e (history react (new initialEpoch hbTimeout ocTimeout) ops)) ∧
    (∀ i j c₁ c₂,
      (stateAt (new initialEpoch hbTimeout ocTimeout) ops i).epoch =
        (stateAt (new initialEpoch hbTimeout ocTimeout) ops j).epoch →
      (stateAt (new initialEpoch hbTimeout ocTimeout) ops i).controllerId = some c₁ →
      (stateAt (new initialEpoch hbTimeout ocTimeout) ops j).controllerId = some c₂ →
        c₁ = c₂) ∧
    (∀ i j k c e, i ≤ j → j ≤ k →
      (stateAt (new initialEpoch hbTimeout ocTimeout) ops i).HoldsLease c e →
      ¬(stateAt (new initialEpoch hbTimeout ocTimeout) ops j).HoldsLease c e →
        (stateAt (new initialEpoch hbTimeout ocTimeout) ops k).RefusesAll c e) := by
  refine ⟨fun c e => ?_, fun i j c₁ c₂ => holder_unique_of_epoch_eq _ _ bound,
    fun i j k c e hij hjk held dropped =>
      refusesAll_of_epoch_ne (epoch_ne_of_dropped _ _ bound hij hjk held dropped)⟩
  have hrun := (run_leaseEvent (new initialEpoch hbTimeout ocTimeout) ops 0).1
  rw [authorizeWrite_status_eq_ok]
  refine and_congr_right fun hepoch => ?_
  rw [hepoch, ← armedBy_iff_writeGranted]
  exact Lease.run_armed_iff hrun

/-- A controller acquires the lease, enables outputs and writes once. -/
def enableRun : List GateOp :=
  [.acquire 10 1000 0, .setOutputEnabled 10 77 true true 5, .recordOutputWrite 10 77 8]

/-- The bound is met by ordinary runs, and the authorized write of this one is
granted by its history. -/
theorem writeGranted_enableRun :
    advances (history react (new 77 250 100) enableRun) < epochCount ∧
      WriteGranted 10 77 (history react (new 77 250 100) enableRun) := by
  have bound : advances (history react (new 77 250 100) enableRun) < epochCount := by decide
  exact ⟨bound,
    (((authorizeWrite_ok_iff_granted 77 250 100 enableRun bound).1 10 77).mp (by decide)).2⟩

end SafetyGate

end EcSystemCore
