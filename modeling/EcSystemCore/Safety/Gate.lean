import Mathlib.Data.UInt
import EcSystemCore.Lib.CyclicCounter
import EcSystemCore.Protocol.Types

/-!
# The safety gate

`SafetyGate` of `safety.hpp`: the one object that decides who controls the
outputs.  It holds the controller lease, the safety epoch and the output-enable
flag, and every operation answers with a `Result`.

Epochs are 64-bit and skip zero when they wrap, so the value zero never names
an epoch; `epoch_ne_zero` carries that.  Outputs are enabled only under a lease;
`controller_of_enabled` carries that.  Both are fields of the structure, so a
gate that breaks them cannot be built.

Time points are the nanosecond count of `steady_clock` and timeouts are
millisecond counts, compared after the conversion `std::chrono` makes.
-/

namespace EcSystemCore

/-- `SafetyGate::ClientId`. -/
abbrev ClientId := UInt64

/-- `SafetyGate::TimePoint`, in nanoseconds. -/
abbrev TimePoint := Int

/-- `now - then <= timeout`, a nanosecond span against a millisecond one. -/
def withinTimeout (now last : TimePoint) (timeoutMs : Int) : Bool :=
  decide (now - last ≤ timeoutMs * 1000000)

/-- `SafetyGate::Controller`. -/
structure Controller where
  id : ClientId
  pid : UInt32
  lastHeartbeat : TimePoint
  deriving DecidableEq, Repr

/-- `SafetyGate::Result`. -/
structure GateResult where
  status : AckStatus := .ok
  outputsWereDisabled : Bool := false
  epochChanged : Bool := false
  deriving DecidableEq, Repr

/-- The epoch after `epoch`: the counter wraps to one, never to zero. -/
def nextEpoch (epoch : UInt64) : UInt64 :=
  if epoch = 0xffffffffffffffff then 1 else epoch + 1

/-- The number of epochs before one repeats. -/
def epochCount : ℕ := 2 ^ 64 - 1

theorem toNat_nextEpoch (epoch : UInt64) :
    (nextEpoch epoch).toNat = CyclicCounter.next epochCount epoch.toNat := by
  unfold nextEpoch CyclicCounter.next epochCount
  have hlt := epoch.toNat_lt
  by_cases hmax : epoch = 0xffffffffffffffff
  · subst hmax
    decide
  · have hne : epoch.toNat ≠ 2 ^ 64 - 1 := fun h =>
      hmax (UInt64.toNat_inj.mp (h.trans (by decide)))
    rw [if_neg hmax, if_neg hne, UInt64.toNat_add]
    change (epoch.toNat + 1) % 2 ^ 64 = epoch.toNat + 1
    omega

theorem nextEpoch_ne_zero (epoch : UInt64) : nextEpoch epoch ≠ 0 := by
  intro h
  have hnat := toNat_nextEpoch epoch
  rw [h] at hnat
  unfold CyclicCounter.next at hnat
  split at hnat <;> simp at hnat

/-- An epoch is a valid value of the counter. -/
theorem valid_toNat {epoch : UInt64} (h : epoch ≠ 0) :
    CyclicCounter.Valid epochCount epoch.toNat := by
  have hlt := epoch.toNat_lt
  have hpos : epoch.toNat ≠ 0 := fun h0 => h (UInt64.toNat_inj.mp (by simpa using h0))
  unfold CyclicCounter.Valid epochCount
  omega

/-- **Epochs do not repeat** within fewer than `epochCount` advances. -/
theorem iterate_nextEpoch_ne {epoch : UInt64} (h : epoch ≠ 0) {i j : ℕ} (hij : i < j)
    (hj : j - i < epochCount) : nextEpoch^[i] epoch ≠ nextEpoch^[j] epoch := by
  have toNat_iterate : ∀ k, (nextEpoch^[k] epoch).toNat =
      (CyclicCounter.next epochCount)^[k] epoch.toNat := by
    intro k
    induction k with
    | zero => rfl
    | succ k ih => rw [Function.iterate_succ_apply', Function.iterate_succ_apply',
        toNat_nextEpoch, ih]
  intro heq
  refine CyclicCounter.iterate_next_ne (valid_toNat h) hij hj ?_
  rw [← toNat_iterate, ← toNat_iterate, heq]

/-- `SafetyGate`. -/
structure SafetyGate where
  epoch : UInt64
  /-- Milliseconds. -/
  heartbeatTimeout : Int
  /-- Milliseconds. -/
  outputCommandTimeout : Int
  lastOutputCommand : TimePoint
  controller : Option Controller
  outputsEnabled : Bool
  epoch_ne_zero : epoch ≠ 0
  controller_of_enabled : outputsEnabled = true → controller.isSome = true

namespace SafetyGate

/-- The constructor: an initial epoch of zero becomes one. -/
def new (initialEpoch : UInt64) (heartbeatTimeout outputCommandTimeout : Int) :
    SafetyGate where
  epoch := if initialEpoch = 0 then 1 else initialEpoch
  heartbeatTimeout := heartbeatTimeout
  outputCommandTimeout := outputCommandTimeout
  lastOutputCommand := 0
  controller := none
  outputsEnabled := false
  epoch_ne_zero := by split <;> simp_all
  controller_of_enabled := by simp

/-- `controllerId()`. -/
def controllerId (gate : SafetyGate) : Option ClientId := gate.controller.map (·.id)

/-- `hasController()`. -/
def hasController (gate : SafetyGate) : Bool := gate.controller.isSome

/-- `DropControllerAndAdvanceEpoch`. -/
def dropControllerAndAdvanceEpoch (gate : SafetyGate) : GateResult × SafetyGate :=
  ({ outputsWereDisabled := gate.outputsEnabled, epochChanged := true },
    { gate with
      epoch := nextEpoch gate.epoch
      controller := none
      outputsEnabled := false
      epoch_ne_zero := nextEpoch_ne_zero _
      controller_of_enabled := by simp })

/-- `Authorize`. -/
def authorize (gate : SafetyGate) (clientId : ClientId) (commandEpoch : UInt64) :
    GateResult :=
  if commandEpoch ≠ gate.epoch then { status := .staleEpoch }
  else if gate.controllerId ≠ some clientId then { status := .unauthorized }
  else {}

/-- `Acquire`. -/
def acquire (gate : SafetyGate) (clientId : ClientId) (peerPid : UInt32)
    (now : TimePoint) : GateResult × SafetyGate :=
  if clientId = 0 then ({ status := .malformed }, gate)
  else if gate.controller.any (fun held => held.id != clientId) then
    ({ status := .busy }, gate)
  else
    ({ outputsWereDisabled := gate.outputsEnabled },
      { gate with
        controller := some ⟨clientId, peerPid, now⟩
        outputsEnabled := false
        controller_of_enabled := by simp })

/-- Write the holder's `lastHeartbeat`; the lease stays with its holder. -/
def refreshHeartbeat (gate : SafetyGate) (now : TimePoint) : SafetyGate :=
  { gate with
    controller := gate.controller.map fun held => { held with lastHeartbeat := now }
    controller_of_enabled := fun h => by simpa using gate.controller_of_enabled h }

/-- `Heartbeat`. -/
def heartbeat (gate : SafetyGate) (clientId : ClientId) (commandEpoch : UInt64)
    (now : TimePoint) : GateResult × SafetyGate :=
  let authorization := gate.authorize clientId commandEpoch
  if authorization.status ≠ .ok then (authorization, gate)
  else ({}, gate.refreshHeartbeat now)

/-- An authorized client holds the lease in the gate's own epoch. -/
theorem authorize_status_eq_ok {gate : SafetyGate} {clientId : ClientId}
    {commandEpoch : UInt64} :
    (gate.authorize clientId commandEpoch).status = .ok ↔
      commandEpoch = gate.epoch ∧ gate.controllerId = some clientId := by
  unfold authorize
  split
  · simp_all
  · split <;> simp_all

theorem isSome_controller_of_controllerId {gate : SafetyGate} {clientId : ClientId}
    (h : gate.controllerId = some clientId) : gate.controller.isSome = true := by
  unfold controllerId at h
  cases hc : gate.controller with
  | none => simp [hc] at h
  | some held => rfl

/-- `SetOutputEnabled`. -/
def setOutputEnabled (gate : SafetyGate) (clientId : ClientId) (commandEpoch : UInt64)
    (enabled processDataHealthy : Bool) (now : TimePoint) : GateResult × SafetyGate :=
  let authorization := gate.authorize clientId commandEpoch
  if authorized : authorization.status ≠ .ok then (authorization, gate)
  else if enabled && !processDataHealthy then ({ status := .disabled }, gate)
  else if !enabled then gate.dropControllerAndAdvanceEpoch
  else
    ({ outputsWereDisabled := gate.outputsEnabled },
      { gate.refreshHeartbeat now with
        outputsEnabled := true
        lastOutputCommand := now
        controller_of_enabled := fun _ => by
          have held := (authorize_status_eq_ok.mp (not_not.mp authorized)).2
          simpa [refreshHeartbeat] using isSome_controller_of_controllerId held })

/-- `AuthorizeWrite`. -/
def authorizeWrite (gate : SafetyGate) (clientId : ClientId) (commandEpoch : UInt64) :
    GateResult :=
  let authorization := gate.authorize clientId commandEpoch
  if authorization.status ≠ .ok then authorization
  else if !gate.outputsEnabled then { status := .disabled }
  else {}

/-- `RecordOutputWrite`. -/
def recordOutputWrite (gate : SafetyGate) (clientId : ClientId) (commandEpoch : UInt64)
    (now : TimePoint) : GateResult × SafetyGate :=
  let authorization := gate.authorizeWrite clientId commandEpoch
  (authorization,
    if authorization.status = .ok then { gate with lastOutputCommand := now } else gate)

/-- `AuthorizeController`. -/
def authorizeController (gate : SafetyGate) (clientId : ClientId)
    (commandEpoch : UInt64) : GateResult :=
  gate.authorize clientId commandEpoch

/-- `Release`. -/
def release (gate : SafetyGate) (clientId : ClientId) (commandEpoch : UInt64) :
    GateResult × SafetyGate :=
  let authorization := gate.authorize clientId commandEpoch
  if authorization.status ≠ .ok then (authorization, gate)
  else gate.dropControllerAndAdvanceEpoch

/-- `Disconnect`. -/
def disconnect (gate : SafetyGate) (clientId : ClientId) : GateResult × SafetyGate :=
  if gate.controllerId ≠ some clientId then ({}, gate)
  else gate.dropControllerAndAdvanceEpoch

theorem disconnect_of_holder {gate : SafetyGate} {clientId : ClientId}
    (h : gate.controllerId = some clientId) :
    gate.disconnect clientId = gate.dropControllerAndAdvanceEpoch :=
  if_neg (not_not.mpr h)

/-- `Expire`. -/
def expire (gate : SafetyGate) (now : TimePoint) : GateResult × SafetyGate :=
  if gate.controller.all fun held =>
      withinTimeout now held.lastHeartbeat gate.heartbeatTimeout then ({}, gate)
  else gate.dropControllerAndAdvanceEpoch

/-- `ExpireOutputCommands`. -/
def expireOutputCommands (gate : SafetyGate) (now : TimePoint) :
    GateResult × SafetyGate :=
  if !gate.hasController || !gate.outputsEnabled ||
      withinTimeout now gate.lastOutputCommand gate.outputCommandTimeout then ({}, gate)
  else gate.dropControllerAndAdvanceEpoch

/-- `Invalidate`. -/
def invalidate (gate : SafetyGate) : GateResult × SafetyGate :=
  gate.dropControllerAndAdvanceEpoch

end SafetyGate

end EcSystemCore
