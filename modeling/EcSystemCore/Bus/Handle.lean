import EcSystemCore.Bus.SafetyCalls
import EcSystemCore.Bus.WorkerFacts

/-!
# A bus as the event loop sees it

Between two steps of its event loop the daemon thread is inside no call, so for
the loop a call on a bus is one operation.  `BusHandle` keeps the members the
daemon thread writes, and `start`, `stop`, `setLinkUp`, `setSafety` and
`setInputPublicationPeriod` are the calls as operations on them.

The calls are atomic here, but not on the bus: `Serves` runs a call one access at
a time with the worker moving in between, and `start_covers`, `stop_covers`,
`setLinkUp_covers` and `setSafety_covers` say that the handle's operation
covers every such run.  A worker can only withdraw permission (`covers_worker`), so
a bus whose handle gives none has none.  `handle_simulates` puts this together for calls in a row.
-/

namespace EcSystemCore

/-- The members of `EthercatBus` that the daemon thread writes. -/
structure BusHandle where
  interfaceName : Bytes := []
  running : Bool := false
  linkUp : Bool := false
  safetyEpoch : UInt64 := 1
  outputsPermitted : Bool := false
  inputPublicationPeriodUs : UInt64 := 0
  deriving DecidableEq, Repr

namespace BusHandle

/-- `Stop`. -/
def stop (handle : BusHandle) : BusHandle :=
  { handle with outputsPermitted := false, running := false }

/-- `Start`, which stops a running worker first. -/
def start (handle : BusHandle) (interfaceName : Bytes) (linkUp : Bool) (epoch : UInt64) :
    BusHandle :=
  { handle.stop with
    interfaceName := interfaceName
    linkUp := linkUp
    safetyEpoch := epoch
    outputsPermitted := false
    running := true }

/-- `SetLinkUp`. -/
def setLinkUp (handle : BusHandle) (linkUp : Bool) : BusHandle :=
  { handle with
    outputsPermitted := linkUp && handle.outputsPermitted
    linkUp := linkUp }

/-- `SetSafety`; `faultLatched` is what its two loads find. -/
def setSafety (handle : BusHandle) (epoch : UInt64) (outputsPermitted faultLatched : Bool) :
    BusHandle :=
  { handle with
    safetyEpoch := epoch
    outputsPermitted := outputsPermitted && !faultLatched }

/-- `SetInputPublicationPeriod`, from milliseconds. -/
def setInputPublicationPeriod (handle : BusHandle) (periodMs : UInt16) : BusHandle :=
  { handle with inputPublicationPeriodUs := periodMs.toUInt64 * 1000 }

/-- The worker withdraws permission. -/
def revoke (handle : BusHandle) : BusHandle := { handle with outputsPermitted := false }

/-! ### The handle covers the bus -/

/-- The bus has the handle's epoch, and no permission the handle does not give. -/
structure Covers (handle : BusHandle) (bus : Bus) : Prop where
  safetyEpoch : bus.safetyEpoch = handle.safetyEpoch
  permitted : bus.outputsPermitted = true → handle.outputsPermitted = true

/-- A step of the worker stays covered. -/
theorem covers_worker {handle : BusHandle} {config : BusConfig} {latch : UInt64} {env : Env}
    {bus : Bus} {o : Outcome} (h : handle.Covers bus)
    (hstep : bus.step config latch env = some o) : handle.Covers o.bus :=
  ⟨(Bus.step_frame hstep).safetyEpoch.trans h.safetyEpoch,
    fun hpermitted => h.permitted ((Bus.step_frame hstep).permitted hpermitted)⟩

end BusHandle

/-- The rest of a call, from where it stands to its return, with the worker moving
in between: the bus it ends with. -/
inductive Serves : Bus → CallPc → Bus → Prop
  | worker {config latch env bus o pc last} (moved : bus.step config latch env = some o)
      (rest : Serves o.bus pc last) : Serves bus pc last
  | call {latch bus next pc pc' last} (moved : pc.step latch bus = some (next, .running pc'))
      (rest : Serves next pc' last) : Serves bus pc last
  | returned {latch bus next pc value}
      (moved : pc.step latch bus = some (next, .returned value)) : Serves bus pc next

/-- **The rule for calls.**  What holds where the call stands, survives the worker
and carries the call to its next access, gives the postcondition at the return. -/
theorem Serves.rule {P : CallPc → Bus → Prop} {Q : Bus → Prop}
    (worker : ∀ {config latch env bus o pc}, P pc bus → bus.step config latch env = some o →
      P pc o.bus)
    (call : ∀ {latch bus next pc pc'}, P pc bus →
      pc.step latch bus = some (next, .running pc') → P pc' next)
    (returned : ∀ {latch bus next pc value}, P pc bus →
      pc.step latch bus = some (next, .returned value) → Q next)
    {bus last : Bus} {pc : CallPc} (run : Serves bus pc last) (init : P pc bus) : Q last := by
  induction run with
  | worker moved _ ih => exact ih (worker init moved)
  | call moved _ ih => exact ih (call init moved)
  | returned moved => exact returned init moved

namespace BusHandle

variable {handle : BusHandle} {bus last : Bus}

/-- Where `SetSafety(epoch, permitted)` stands, and what it has stored. -/
def SettingSafety (epoch : UInt64) (permitted : Bool) : CallPc → Bus → Prop
  | .safetyExchange e p, _ => e = epoch ∧ p = permitted
  | .safetyLoadFaulted e p, bus | .safetyLoadGlobal e p, bus | .safetyStore e p _, bus =>
    e = epoch ∧ p = permitted ∧ bus.safetyEpoch = epoch
  | _, _ => False

/-- **`SetSafety` is covered**, whatever its two loads find. -/
theorem setSafety_covers {epoch : UInt64} {permitted : Bool}
    (run : Serves bus (.setSafety epoch permitted) last) :
    ∃ faultLatched, (handle.setSafety epoch permitted faultLatched).Covers last := by
  refine run.rule (P := SettingSafety epoch permitted)
    (Q := fun last => ∃ faultLatched,
      (handle.setSafety epoch permitted faultLatched).Covers last) ?_ ?_ ?_ ⟨rfl, rfl⟩
  · intro config latch env bus o pc h hstep
    have hepoch := (Bus.step_frame hstep).safetyEpoch
    cases pc <;> simp_all [SettingSafety]
  · intro latch bus next pc pc' h hstep
    cases pc with
    | safetyExchange e p =>
      obtain ⟨rfl, rfl⟩ := h
      cases hstep
      exact ⟨rfl, rfl, rfl⟩
    | safetyLoadFaulted e p =>
      simp only [CallPc.step, Option.some.injEq, Prod.mk.injEq,
        CallPc.Status.running.injEq] at hstep
      obtain ⟨rfl, rfl⟩ := hstep
      split <;> exact h
    | safetyLoadGlobal e p =>
      cases hstep
      exact h
    | safetyStore e p latched => cases hstep
    | _ => exact h.elim
  · intro latch bus next pc value h hstep
    cases pc with
    | safetyStore e p latched =>
      obtain ⟨rfl, rfl, hepoch⟩ := h
      cases hstep
      exact ⟨latched, hepoch, fun hpermitted => hpermitted⟩
    | safetyExchange e p => cases hstep
    | safetyLoadFaulted e p => cases hstep
    | safetyLoadGlobal e p => cases hstep
    | _ => exact h.elim

/-- Where `SetLinkUp(linkUp)` stands on a bus that was covered when it began. -/
def SettingLink (handle : BusHandle) (linkUp : Bool) : CallPc → Bus → Prop
  | .linkRevoke, bus => linkUp = false ∧ handle.Covers bus
  | .linkStore up, bus => up = linkUp ∧ (handle.setLinkUp linkUp).Covers bus
  | _, _ => False

/-- **`SetLinkUp` is covered.** -/
theorem setLinkUp_covers {linkUp : Bool} (h : handle.Covers bus)
    (run : Serves bus (.setLinkUp linkUp) last) : (handle.setLinkUp linkUp).Covers last := by
  have init : SettingLink handle linkUp (.setLinkUp linkUp) bus := by
    cases linkUp with
    | false => exact ⟨rfl, h⟩
    | true => exact ⟨rfl, h.safetyEpoch, by simpa [setLinkUp] using h.permitted⟩
  refine run.rule (P := SettingLink handle linkUp)
    (Q := (handle.setLinkUp linkUp).Covers) ?_ ?_ ?_ init
  · intro config latch env bus o pc h hstep
    cases pc with
    | linkRevoke => exact ⟨h.1, covers_worker h.2 hstep⟩
    | linkStore up => exact ⟨h.1, covers_worker h.2 hstep⟩
    | _ => exact h.elim
  · intro latch bus next pc pc' h hstep
    cases pc with
    | linkRevoke =>
      obtain ⟨rfl, hcovers⟩ := h
      cases hstep
      exact ⟨rfl, hcovers.safetyEpoch, by simp⟩
    | linkStore up => cases hstep
    | _ => exact h.elim
  · intro latch bus next pc value h hstep
    cases pc with
    | linkRevoke => cases hstep
    | linkStore up =>
      cases hstep
      exact ⟨h.2.safetyEpoch, h.2.permitted⟩
    | _ => exact h.elim

/-- Where `Stop()` stands on a bus that had the handle's epoch when it began. -/
def Stopping (handle : BusHandle) : CallPc → Bus → Prop
  | .stopRevoke restart, bus => restart = none ∧ bus.safetyEpoch = handle.safetyEpoch
  | .stopStoreRunning restart, bus | .stopJoin restart, bus =>
    restart = none ∧ handle.stop.Covers bus
  | _, _ => False

/-- **`Stop` is covered.** -/
theorem stop_covers (h : handle.Covers bus) (run : Serves bus .stop last) :
    handle.stop.Covers last := by
  refine run.rule (P := Stopping handle) (Q := handle.stop.Covers) ?_ ?_ ?_
    ⟨rfl, h.safetyEpoch⟩
  · intro config latch env bus o pc h hstep
    cases pc with
    | stopRevoke restart => exact ⟨h.1, (Bus.step_frame hstep).safetyEpoch.trans h.2⟩
    | stopStoreRunning restart => exact ⟨h.1, covers_worker h.2 hstep⟩
    | stopJoin restart => exact ⟨h.1, covers_worker h.2 hstep⟩
    | _ => exact h.elim
  · intro latch bus next pc pc' h hstep
    cases pc with
    | stopRevoke restart =>
      cases hstep
      exact ⟨h.1, h.2, by simp⟩
    | stopStoreRunning restart =>
      cases hstep
      exact ⟨h.1, h.2.safetyEpoch, h.2.permitted⟩
    | stopJoin restart =>
      obtain ⟨rfl, -⟩ := h
      simp only [CallPc.step] at hstep
      split at hstep <;> cases hstep
    | _ => exact h.elim
  · intro latch bus next pc value h hstep
    cases pc with
    | stopRevoke restart => cases hstep
    | stopStoreRunning restart => cases hstep
    | stopJoin restart =>
      obtain ⟨rfl, hcovers⟩ := h
      simp only [CallPc.step] at hstep
      split at hstep
      · cases hstep
        exact hcovers
      · cases hstep
    | _ => exact h.elim

/-- Where `Start(_, linkUp, epoch)` stands, and what it has stored. -/
def Starting (linkUp : Bool) (epoch : UInt64) : CallPc → Bus → Prop
  | .stopRevoke restart, _ | .stopStoreRunning restart, _ | .stopJoin restart, _ =>
    restart = some (linkUp, epoch)
  | .startStoreLink _ e, _ | .startStoreEpoch e, _ => e = epoch
  | .startStoreApplied, bus | .startRevoke, bus => bus.safetyEpoch = epoch
  | .startRun, bus => bus.safetyEpoch = epoch ∧ bus.outputsPermitted = false
  | _, _ => False

/-- **`Start` is covered**: the worker begins in the given epoch without permission. -/
theorem start_covers {interfaceName : Bytes} {linkUp : Bool} {epoch : UInt64}
    (run : Serves bus (.start linkUp epoch) last) :
    (handle.start interfaceName linkUp epoch).Covers last := by
  refine run.rule (P := Starting linkUp epoch)
    (Q := (handle.start interfaceName linkUp epoch).Covers) ?_ ?_ ?_ rfl
  · intro config latch env bus o pc h hstep
    have hframe := Bus.step_frame hstep
    cases pc with
    | startStoreApplied => exact hframe.safetyEpoch.trans h
    | startRevoke => exact hframe.safetyEpoch.trans h
    | startRun =>
      refine ⟨hframe.safetyEpoch.trans h.1, ?_⟩
      exact Bool.eq_false_iff.mpr fun hpermitted =>
        Bool.eq_false_iff.mp h.2 (hframe.permitted hpermitted)
    | _ => exact h
  · intro latch bus next pc pc' h hstep
    cases pc with
    | stopJoin restart =>
      obtain rfl : restart = some (linkUp, epoch) := h
      simp only [CallPc.step] at hstep
      split at hstep
      · cases hstep
        rfl
      · cases hstep
    | startRevoke =>
      cases hstep
      exact ⟨h, rfl⟩
    | startRun => cases hstep
    | startStoreEpoch e =>
      cases hstep
      exact h
    | stopRevoke restart =>
      cases hstep
      exact h
    | stopStoreRunning restart =>
      cases hstep
      exact h
    | startStoreLink up e =>
      cases hstep
      exact h
    | startStoreApplied =>
      cases hstep
      exact h
    | _ => exact h.elim
  · intro latch bus next pc value h hstep
    cases pc with
    | startRun =>
      cases hstep
      exact ⟨h.1, fun hpermitted => by simp [h.2] at hpermitted⟩
    | stopJoin restart =>
      obtain rfl : restart = some (linkUp, epoch) := h
      simp only [CallPc.step] at hstep
      split at hstep <;> cases hstep
    | stopRevoke restart => cases hstep
    | stopStoreRunning restart => cases hstep
    | startStoreLink up e => cases hstep
    | startStoreEpoch e => cases hstep
    | startStoreApplied => cases hstep
    | startRevoke => cases hstep
    | _ => exact h.elim

/-! ### Runs -/

/-- A call of the daemon thread on a bus. -/
inductive Call where
  | start (interfaceName : Bytes) (linkUp : Bool) (epoch : UInt64)
  | stop
  | setLinkUp (linkUp : Bool)
  | setSafety (epoch : UInt64) (outputsPermitted : Bool)
  deriving DecidableEq, Repr

/-- Where the call begins. -/
def Call.pc : Call → CallPc
  | start _ linkUp epoch => .start linkUp epoch
  | stop => .stop
  | setLinkUp linkUp => .setLinkUp linkUp
  | setSafety epoch outputsPermitted => .setSafety epoch outputsPermitted

/-- The call as one operation; `faultLatched` is what the loads of `SetSafety` find. -/
def apply (handle : BusHandle) (faultLatched : Bool) : Call → BusHandle
  | .start interfaceName linkUp epoch => handle.start interfaceName linkUp epoch
  | .stop => handle.stop
  | .setLinkUp linkUp => handle.setLinkUp linkUp
  | .setSafety epoch outputsPermitted => handle.setSafety epoch outputsPermitted faultLatched

/-- Calls as operations, each with what its loads find. -/
def applyAll (handle : BusHandle) (steps : List (Bool × Call)) : BusHandle :=
  steps.foldl (fun handle step => handle.apply step.1 step.2) handle

/-- Calls on the bus, one after the other, with the worker moving within and between them. -/
inductive Drives : Bus → List Call → Bus → Prop
  | done {bus : Bus} : Drives bus [] bus
  | worker {config latch env o calls} {bus last : Bus} (moved : bus.step config latch env = some o)
      (rest : Drives o.bus calls last) : Drives bus calls last
  | call {call calls} {bus next last : Bus} (served : Serves bus (Call.pc call) next)
      (rest : Drives next calls last) : Drives bus (call :: calls) last

/-- A call is covered by the operation, for some outcome of its loads. -/
theorem Covers.serve {call : Call} (h : handle.Covers bus) (served : Serves bus call.pc last) :
    ∃ faultLatched, (handle.apply faultLatched call).Covers last := by
  cases call with
  | start interfaceName linkUp epoch => exact ⟨false, start_covers served⟩
  | stop => exact ⟨false, stop_covers h served⟩
  | setLinkUp linkUp => exact ⟨false, setLinkUp_covers h served⟩
  | setSafety epoch outputsPermitted => exact setSafety_covers served

/-- **The handle simulates the bus**: whatever the worker does within and between the calls, the
operations on the handle, each with some outcome of its loads, lead to a handle that covers the
bus.  So the bus is in the epoch of the last call that set one, and its worker has no permission
that the calls have not given. -/
theorem handle_simulates {calls : List Call} (covers : handle.Covers bus)
    (run : Drives bus calls last) :
    ∃ outcomes : List Bool, outcomes.length = calls.length ∧
      (handle.applyAll (outcomes.zip calls)).Covers last := by
  induction run generalizing handle with
  | done => exact ⟨[], rfl, covers⟩
  | worker moved _ ih => exact ih (covers_worker covers moved)
  | call served _ ih =>
    obtain ⟨faultLatched, hcovers⟩ := covers.serve served
    obtain ⟨outcomes, hlength, hlast⟩ := ih hcovers
    exact ⟨faultLatched :: outcomes, congrArg Nat.succ hlength, hlast⟩

/-- A bus that is stopped after it has been permitted to write outputs. -/
theorem handle_simulates_stop :
    Drives { outputsPermitted := true } [.stop] {} ∧ ∃ outcomes : List Bool, outcomes.length = 1 ∧
      (applyAll { outputsPermitted := true } (outcomes.zip [.stop])).Covers {} := by
  have run : Drives { outputsPermitted := true } [.stop] {} :=
    .call (@Serves.call 0 _ _ _ _ _ rfl (@Serves.call 0 _ _ _ _ _ rfl
      (@Serves.returned 0 _ _ _ _ rfl))) .done
  have covers : Covers { outputsPermitted := true } { outputsPermitted := true } :=
    ⟨rfl, fun h => h⟩
  exact ⟨run, handle_simulates covers run⟩

end BusHandle

end EcSystemCore
