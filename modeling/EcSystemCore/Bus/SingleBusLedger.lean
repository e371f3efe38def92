import EcSystemCore.Bus.SingleBus
import EcSystemCore.Bus.WorkerFacts

/-!
# What the daemon thread may still do to the permission

The part of the single-bus invariant that concerns the daemon thread: where its
call stands and what its ledger says (`CallOk`, `LedgerOk`), and when
`outputsPermitted_` cannot become true again in the epoch the worker observes
(`CannotRise`).  `Settled` is the form of that fact that every step of the daemon
thread preserves; it holds whenever the worker may have non-zero outputs.
-/

namespace EcSystemCore

namespace SingleBus

variable {config : BusConfig} {s t : State}

/-- The call in progress has arguments the ledger vouches for. -/
def CallOk (s : State) : Prop :=
  match s.call with
  | none => s.bus.safetyEpoch = s.ledger.epoch
  | some (.safetyExchange epoch permitted) =>
    epoch = s.ledger.epoch ∧ (s.ledger.permission = .given ↔ permitted = true)
  | some (.safetyLoadFaulted epoch permitted) | some (.safetyLoadGlobal epoch permitted) =>
    epoch = s.ledger.epoch ∧ s.bus.safetyEpoch = s.ledger.epoch ∧
      (s.ledger.permission = .given ↔ permitted = true)
  | some (.safetyStore epoch permitted faultLatched) =>
    epoch = s.ledger.epoch ∧ s.bus.safetyEpoch = s.ledger.epoch ∧
      (s.ledger.permission = .given ↔ permitted = true) ∧
      (faultLatched = true → s.bus.faultedEpoch = s.ledger.epoch)
  | some (.pushLoadWrite command) | some (.pushLoadRead command _)
  | some (.pushCopy command _) =>
    s.bus.safetyEpoch = s.ledger.epoch ∧ command ∈ s.ledger.pushed
  | some .linkRevoke =>
    s.bus.safetyEpoch = s.ledger.epoch ∧ s.ledger.permission ≠ .given
  | some (.linkStore _) | some (.barrierLoadState _) | some (.barrierLoadApplied _)
  | some (.pushStoreWrite _) => s.bus.safetyEpoch = s.ledger.epoch
  | some _ => False

/-- What the ledger says about the worker and the commands. -/
structure LedgerOk (s : State) : Prop where
  safetyEpoch_le : s.bus.safetyEpoch ≤ s.ledger.epoch
  /-- The barrier has been seen only once the worker observed the epoch. -/
  observed : s.ledger.barrierSeen = true → s.bus.observedSafetyEpoch = s.ledger.epoch
  barrierSeen : s.ledger.permission ≠ .notGiven → s.ledger.barrierSeen = true
  epoch_le : ∀ command ∈ s.ledger.pushed, command.epoch ≤ s.ledger.epoch
  given : ∀ command ∈ s.ledger.pushed, command.epoch = s.ledger.epoch →
    s.ledger.permission ≠ .notGiven

/-- The call in progress may still store true into `outputsPermitted_`. -/
def RisePending (call : Option CallPc) : Prop :=
  ∃ epoch, call = some (.safetyLoadGlobal epoch true) ∨
    call = some (.safetyStore epoch true false)

/-- The call in progress gives permission. -/
def Giving (call : Option CallPc) : Prop :=
  ∃ epoch, call = some (.safetyExchange epoch true) ∨
    call = some (.safetyLoadFaulted epoch true) ∨
    call = some (.safetyLoadGlobal epoch true) ∨
    ∃ faultLatched, call = some (.safetyStore epoch true faultLatched)

/-- `outputsPermitted_` will not become true while the worker observes the epoch
it observes now: the daemon has moved on, has revoked the permission, or finds
the epoch faulted. -/
def CannotRise (s : State) : Prop :=
  s.bus.observedSafetyEpoch < s.ledger.epoch ∨ s.ledger.permission = .revoked ∨
    (s.bus.faultedEpoch = s.ledger.epoch ∧ ¬RisePending s.call)

/-- The permission is there, cannot come back, or no command has used it yet. -/
def Settled (s : State) : Prop :=
  s.bus.outputsPermitted = true ∨ CannotRise s ∨
    ((∀ command ∈ s.ledger.pushed, command.epoch ≠ s.ledger.epoch) ∧
      (s.ledger.permission = .notGiven ∨ Giving s.call))

/-! ### The daemon thread begins a call -/

section Begin

variable {call : Call}

/-- What beginning a call does, and what allowed it. -/
theorem step_begin (h : step config s (.begin call) = some t) :
    s.call = none ∧ s.ledger.allows call = true ∧
      t = { s with
        call := some (call.entry s.ledger)
        ledger := s.ledger.record call } := by
  simp only [step] at h
  split at h
  · rename_i hallowed
    simp only [Bool.and_eq_true, Option.isNone_iff_eq_none] at hallowed
    exact ⟨hallowed.1, hallowed.2, (Option.some.inj h).symm⟩
  · cases h

theorem revoke_permission_ne (ledger : Ledger) : ledger.revoke.permission ≠ .given := by
  unfold Ledger.revoke
  cases ledger.permission <;> simp

theorem revoke_permission_eq_notGiven {ledger : Ledger} :
    ledger.revoke.permission = .notGiven ↔ ledger.permission = .notGiven := by
  unfold Ledger.revoke
  cases ledger.permission <;> simp

theorem allows_setSafety_true {ledger : Ledger} {epoch : UInt64}
    (h : ledger.allows (.setSafety epoch true) = true) :
    epoch = ledger.epoch ∧ ledger.barrierSeen = true ∧ ledger.permission ≠ .revoked := by
  simpa [Ledger.allows, and_assoc] using h

/-- A call that moves to another epoch moves to a later one. -/
theorem allows_setSafety_false {ledger : Ledger} {epoch : UInt64}
    (h : ledger.allows (.setSafety epoch false) = true) (hne : epoch ≠ ledger.epoch) :
    ledger.epoch < epoch := by
  have hle : ledger.epoch ≤ epoch := by simpa [Ledger.allows] using h
  grind

theorem CallOk.begin (hs : CallOk s) (h : step config s (.begin call) = some t) : CallOk t := by
  obtain ⟨hnone, hallowed, rfl⟩ := step_begin h
  have hepoch : s.bus.safetyEpoch = s.ledger.epoch := by simpa [CallOk, hnone] using hs
  cases call with
  | setSafety epoch permitted =>
    cases permitted with
    | true =>
      obtain ⟨rfl, -, -⟩ := allows_setSafety_true hallowed
      simp [CallOk, Call.entry, CallPc.setSafety, Ledger.record]
    | false =>
      by_cases heq : epoch = s.ledger.epoch
      · simpa [CallOk, Call.entry, CallPc.setSafety, Ledger.record, heq] using
          ⟨rfl, revoke_permission_ne s.ledger⟩
      · simp [CallOk, Call.entry, CallPc.setSafety, Ledger.record, heq]
  | setLinkUp linkUp =>
    cases linkUp with
    | true => simpa [CallOk, Call.entry, CallPc.setLinkUp, Ledger.record] using hepoch
    | false =>
      simpa [CallOk, Call.entry, CallPc.setLinkUp, Ledger.record] using
        ⟨hepoch, revoke_permission_ne s.ledger⟩
  | queueOutput command =>
    simp [CallOk, Call.entry, CallPc.queueOutput, Ledger.record, hepoch]
  | safetyBarrierComplete =>
    simpa [CallOk, Call.entry, CallPc.safetyBarrierComplete, Ledger.record] using hepoch

/-- Withdrawing the permission keeps the ledger in order. -/
theorem LedgerOk.revoke (hs : LedgerOk s) (call : Option CallPc) :
    LedgerOk { s with call := call, ledger := s.ledger.revoke } where
  safetyEpoch_le := hs.safetyEpoch_le
  observed := hs.observed
  barrierSeen := fun hne => hs.barrierSeen fun heq =>
    hne (revoke_permission_eq_notGiven.mpr heq)
  epoch_le := hs.epoch_le
  given := fun command hmem heq hne =>
    hs.given command hmem heq (revoke_permission_eq_notGiven.mp hne)

theorem LedgerOk.begin (hs : LedgerOk s) (h : step config s (.begin call) = some t) :
    LedgerOk t := by
  obtain ⟨hnone, hallowed, rfl⟩ := step_begin h
  cases call with
  | setSafety epoch permitted =>
    cases permitted with
    | true =>
      obtain ⟨rfl, hseen, -⟩ := allows_setSafety_true hallowed
      exact ⟨hs.safetyEpoch_le, hs.observed, fun _ => hseen, hs.epoch_le,
        fun _ _ _ => by simp [Ledger.record]⟩
    | false =>
      by_cases heq : epoch = s.ledger.epoch
      · simpa [Ledger.record, heq] using hs.revoke _
      · have hlt := allows_setSafety_false hallowed heq
        simp only [Ledger.record, heq, if_false, Bool.false_eq_true]
        refine ⟨?_, by simp, by simp, fun command hmem => ?_, fun command hmem hepoch => ?_⟩
        · have := hs.safetyEpoch_le
          grind
        · have := hs.epoch_le command hmem
          grind
        · have := hs.epoch_le command hmem
          grind
  | setLinkUp linkUp =>
    cases linkUp with
    | true => exact ⟨hs.safetyEpoch_le, hs.observed, hs.barrierSeen, hs.epoch_le, hs.given⟩
    | false => simpa [Ledger.record] using hs.revoke _
  | queueOutput command =>
    simp only [Ledger.allows, Bool.and_eq_true, decide_eq_true_eq] at hallowed
    refine ⟨hs.safetyEpoch_le, hs.observed, hs.barrierSeen, fun c hmem => ?_,
      fun c hmem hepoch => ?_⟩
    · rcases List.mem_cons.mp hmem with rfl | hmem
      · exact hallowed.1 ▸ UInt64.le_refl _
      · exact hs.epoch_le c hmem
    · simp [Ledger.record, hallowed.2]
  | safetyBarrierComplete =>
    exact ⟨hs.safetyEpoch_le, hs.observed, hs.barrierSeen, hs.epoch_le, hs.given⟩

/-- No call begins at a point from which it could still raise the permission. -/
theorem not_risePending_entry (ledger : Ledger) (call : Call) :
    ¬RisePending (some (call.entry ledger)) := by
  rintro ⟨epoch, h | h⟩ <;> cases call with
  | setLinkUp linkUp => cases linkUp <;> simp [Call.entry, CallPc.setLinkUp] at h
  | _ => simp [Call.entry, CallPc.setSafety, CallPc.queueOutput,
      CallPc.safetyBarrierComplete] at h

theorem CannotRise.begin (hs : CannotRise s) (hledger : LedgerOk s)
    (hordered : s.bus.Ordered s.latch) (h : step config s (.begin call) = some t) :
    CannotRise t := by
  obtain ⟨hnone, hallowed, rfl⟩ := step_begin h
  have hentry := not_risePending_entry s.ledger call
  cases call with
  | setSafety epoch permitted =>
    cases permitted with
    | true =>
      obtain ⟨rfl, hseen, hrevoked⟩ := allows_setSafety_true hallowed
      have hobserved := hledger.observed hseen
      rcases hs with hlt | hrev | hfault
      · exact absurd hobserved (by grind)
      · exact absurd hrev hrevoked
      · exact .inr (.inr ⟨hfault.1, hentry⟩)
    | false =>
      by_cases heq : epoch = s.ledger.epoch
      · simp only [CannotRise, Ledger.record, heq, if_true, Bool.false_eq_true, if_false]
        rcases hs with hlt | hrev | hfault
        · exact .inl hlt
        · exact .inr (.inl (by simp [Ledger.revoke, hrev]))
        · exact .inr (.inr ⟨hfault.1, heq ▸ hentry⟩)
      · have hlt := allows_setSafety_false hallowed heq
        refine .inl ?_
        simp only [Ledger.record, heq, if_false, Bool.false_eq_true]
        have := hordered.observed_le
        have := hledger.safetyEpoch_le
        grind
  | setLinkUp linkUp =>
    cases linkUp with
    | true => exact hs.imp_right (Or.imp_right fun hfault => ⟨hfault.1, hentry⟩)
    | false =>
      simp only [CannotRise, Ledger.record, Bool.false_eq_true, if_false]
      rcases hs with hlt | hrev | hfault
      · exact .inl hlt
      · exact .inr (.inl (by simp [Ledger.revoke, hrev]))
      · exact .inr (.inr ⟨hfault.1, hentry⟩)
  | queueOutput command => exact hs.imp_right (Or.imp_right fun hfault => ⟨hfault.1, hentry⟩)
  | safetyBarrierComplete =>
    exact hs.imp_right (Or.imp_right fun hfault => ⟨hfault.1, hentry⟩)

theorem Settled.begin (hs : Settled s) (hledger : LedgerOk s)
    (hordered : s.bus.Ordered s.latch) (h : step config s (.begin call) = some t) :
    Settled t := by
  rcases hs with hpermitted | hcannot | ⟨hunused, hwaiting⟩
  · obtain ⟨-, -, rfl⟩ := step_begin h
    exact .inl hpermitted
  · exact .inr (.inl (hcannot.begin hledger hordered h))
  · obtain ⟨hnone, hallowed, rfl⟩ := step_begin h
    have hnotGiven : s.ledger.permission = .notGiven :=
      hwaiting.resolve_right (by simp [Giving, hnone])
    refine .inr (.inr ?_)
    cases call with
    | setSafety epoch permitted =>
      cases permitted with
      | true =>
        obtain ⟨rfl, -, -⟩ := allows_setSafety_true hallowed
        exact ⟨hunused, .inr ⟨_, .inl rfl⟩⟩
      | false =>
        by_cases heq : epoch = s.ledger.epoch
        · simp only [Ledger.record, heq, if_true, Bool.false_eq_true, if_false]
          exact ⟨hunused, .inl (revoke_permission_eq_notGiven.mpr hnotGiven)⟩
        · have hlt := allows_setSafety_false hallowed heq
          simp only [Ledger.record, heq, if_false, Bool.false_eq_true]
          refine ⟨fun command hmem hepoch => ?_, .inl trivial⟩
          have := hledger.epoch_le command hmem
          grind
    | setLinkUp linkUp =>
      cases linkUp with
      | true => exact ⟨hunused, .inl hnotGiven⟩
      | false => exact ⟨hunused, .inl (revoke_permission_eq_notGiven.mpr hnotGiven)⟩
    | queueOutput command => simp [Ledger.allows, hnotGiven] at hallowed
    | safetyBarrierComplete => exact ⟨hunused, .inl hnotGiven⟩

end Begin

/-! ### The daemon thread continues a call -/

/-- The effect of one access of the calls this daemon thread makes. -/
inductive CallStep (s : State) : State → Prop
  | exchange {epoch permitted} (call : s.call = some (.safetyExchange epoch permitted)) :
      CallStep s { s with
        bus := { s.bus with safetyEpoch := epoch }
        call := some (.safetyLoadFaulted epoch permitted) }
  | faulted {epoch permitted} (call : s.call = some (.safetyLoadFaulted epoch permitted))
      (latched : s.bus.faultedEpoch = epoch) :
      CallStep s { s with call := some (.safetyStore epoch permitted true) }
  | notFaulted {epoch permitted} (call : s.call = some (.safetyLoadFaulted epoch permitted))
      (clear : s.bus.faultedEpoch ≠ epoch) :
      CallStep s { s with call := some (.safetyLoadGlobal epoch permitted) }
  | loadGlobal {epoch permitted} (call : s.call = some (.safetyLoadGlobal epoch permitted)) :
      CallStep s { s with call := some (.safetyStore epoch permitted (s.latch = epoch)) }
  | store {epoch permitted faultLatched}
      (call : s.call = some (.safetyStore epoch permitted faultLatched)) :
      CallStep s { s with
        bus := { s.bus with outputsPermitted := permitted && !faultLatched }
        call := none }
  | linkRevoke (call : s.call = some .linkRevoke) :
      CallStep s { s with
        bus := { s.bus with outputsPermitted := false }
        call := some (.linkStore false) }
  | linkStore {linkUp} (call : s.call = some (.linkStore linkUp)) :
      CallStep s { s with bus := { s.bus with linkUp := linkUp }, call := none }
  | barrierState {epoch next} (call : s.call = some (.barrierLoadState epoch))
      (next_eq : next = none ∨ next = some (.barrierLoadApplied epoch)) :
      CallStep s { s with call := next }
  | barrierApplied {epoch seen} (call : s.call = some (.barrierLoadApplied epoch))
      (seen_eq : seen = true → s.ledger.barrierSeen = true ∨
        s.bus.safetyEpochApplied = s.ledger.epoch)
      (kept : s.ledger.barrierSeen = true → seen = true) :
      CallStep s { s with call := none, ledger := { s.ledger with barrierSeen := seen } }
  | pushLoad {command next} (call : s.call = some (.pushLoadWrite command) ∨
        ∃ write, s.call = some (.pushLoadRead command write))
      (next_eq : next = none ∨ (∃ write, next = some (.pushLoadRead command write)) ∨
        ∃ write, next = some (.pushCopy command write)) :
      CallStep s { s with call := next }
  | pushCopy {command write} (call : s.call = some (.pushCopy command write)) :
      CallStep s { s with
        bus := { s.bus with outputCommands := s.bus.outputCommands.storeValue write command }
        call := some (.pushStoreWrite write) }
  | pushStore {write next} (call : s.call = some (.pushStoreWrite write)) :
      CallStep s { s with
        bus := { s.bus with outputCommands := s.bus.outputCommands.storeWrite next }
        call := none }

/-- **One access, once and for all**: what the daemon thread's step does. -/
theorem step_daemon (hs : CallOk s) (h : step config s .daemon = some t) : CallStep s t := by
  obtain ⟨pc, hpc, h⟩ := Option.bind_eq_some_iff.mp h
  obtain ⟨⟨bus, status⟩, hstep, rfl⟩ := Option.map_eq_some_iff.mp h
  rw [CallOk, hpc] at hs
  cases pc with
  | safetyExchange epoch permitted =>
    cases hstep
    exact .exchange hpc
  | safetyLoadFaulted epoch permitted =>
    cases hstep
    by_cases hlatched : s.bus.faultedEpoch = epoch
    · simpa [hlatched] using CallStep.faulted hpc hlatched
    · simpa [hlatched] using CallStep.notFaulted hpc hlatched
  | safetyLoadGlobal epoch permitted =>
    cases hstep
    exact .loadGlobal hpc
  | safetyStore epoch permitted faultLatched =>
    cases hstep
    simpa using CallStep.store hpc
  | linkRevoke =>
    cases hstep
    exact .linkRevoke hpc
  | linkStore linkUp =>
    cases hstep
    simpa using CallStep.linkStore hpc
  | barrierLoadState epoch =>
    cases hstep
    by_cases hstate : s.bus.state = .operational
    · simpa [hstate] using CallStep.barrierState hpc (.inr rfl)
    · simpa [hstate] using CallStep.barrierState hpc (.inl rfl)
  | barrierLoadApplied epoch =>
    cases hstep
    refine .barrierApplied hpc (fun hseen => ?_) (by simp_all)
    simp only [Bool.or_eq_true, Bool.and_eq_true, decide_eq_true_eq,
      CallPc.barrierLoadApplied.injEq] at hseen
    exact hseen.imp_right fun h => h.2.trans h.1
  | pushLoadWrite command =>
    cases hstep
    exact .pushLoad (.inl hpc) (.inr (.inl ⟨_, rfl⟩))
  | pushLoadRead command write =>
    cases hstep
    by_cases hfull : SpscQueue.next kMaximumOutputCommands write =
        s.bus.outputCommands.readIndex
    · simpa [hfull] using CallStep.pushLoad (.inr ⟨_, hpc⟩) (.inl rfl)
    · simpa [hfull] using CallStep.pushLoad (.inr ⟨_, hpc⟩) (.inr (.inr ⟨_, rfl⟩))
  | pushCopy command write =>
    cases hstep
    exact .pushCopy hpc
  | pushStoreWrite write =>
    cases hstep
    simpa using CallStep.pushStore hpc
  | _ => exact hs.elim

namespace CallStep

variable (h : CallStep s t)
include h

/-- What the worker owns stays as it is. -/
theorem bus_eq : t.bus = { s.bus with
    safetyEpoch := t.bus.safetyEpoch
    outputsPermitted := t.bus.outputsPermitted
    linkUp := t.bus.linkUp
    outputCommands := t.bus.outputCommands } := by
  cases h <;> rfl

theorem latch_eq : t.latch = s.latch := by cases h <;> rfl

theorem ledger_eq : t.ledger = { s.ledger with barrierSeen := t.ledger.barrierSeen } := by
  cases h <;> rfl

/-- The epoch the daemon pushes to the bus is its own. -/
theorem safetyEpoch_eq (hcall : CallOk s) :
    t.bus.safetyEpoch = s.bus.safetyEpoch ∨ t.bus.safetyEpoch = s.ledger.epoch := by
  cases h with
  | exchange call =>
    rw [CallOk, call] at hcall
    exact .inr hcall.1
  | _ => exact .inl rfl

theorem callOk (hcall : CallOk s) (hordered : s.bus.Ordered s.latch) : CallOk t := by
  cases h with
  | exchange call =>
    rw [CallOk, call] at hcall
    exact ⟨hcall.1, hcall.1, hcall.2⟩
  | faulted call latched =>
    rw [CallOk, call] at hcall
    exact ⟨hcall.1, hcall.2.1, hcall.2.2, fun _ => latched.trans hcall.1⟩
  | notFaulted call clear =>
    rw [CallOk, call] at hcall
    exact hcall
  | loadGlobal call =>
    rw [CallOk, call] at hcall
    obtain ⟨hepoch, hsafety, hgiven⟩ := hcall
    refine ⟨hepoch, hsafety, hgiven, fun hlatched => ?_⟩
    -- The latch holds no newer epoch than `faultedEpoch_` does.
    have hlatch : s.latch = s.ledger.epoch := (of_decide_eq_true hlatched).trans hepoch
    have := hordered.latch_le
    have := hordered.faulted_le
    grind
  | store call =>
    rw [CallOk, call] at hcall
    exact hcall.2.1
  | linkRevoke call =>
    rw [CallOk, call] at hcall
    exact hcall.1
  | linkStore call =>
    rw [CallOk, call] at hcall
    exact hcall
  | barrierState call next_eq =>
    rw [CallOk, call] at hcall
    rcases next_eq with rfl | rfl <;> exact hcall
  | barrierApplied call =>
    rw [CallOk, call] at hcall
    exact hcall
  | pushLoad call next_eq =>
    rename_i command next
    have hpush : s.bus.safetyEpoch = s.ledger.epoch ∧ command ∈ s.ledger.pushed := by
      rcases call with call | ⟨write, call⟩ <;> (rw [CallOk, call] at hcall; exact hcall)
    rcases next_eq with rfl | ⟨write, rfl⟩ | ⟨write, rfl⟩
    · exact hpush.1
    · exact hpush
    · exact hpush
  | pushCopy call =>
    rw [CallOk, call] at hcall
    exact hcall.1
  | pushStore call =>
    rw [CallOk, call] at hcall
    exact hcall

theorem ordered (hcall : CallOk s) (hledger : LedgerOk s) (hordered : s.bus.Ordered s.latch) :
    t.bus.Ordered t.latch := by
  have hle : s.bus.safetyEpoch ≤ t.bus.safetyEpoch := by
    rcases h.safetyEpoch_eq hcall with heq | heq
    · exact heq ▸ UInt64.le_refl _
    · exact heq ▸ hledger.safetyEpoch_le
  rw [h.latch_eq, h.bus_eq]
  exact ⟨hordered.applied_le, UInt64.le_trans hordered.observed_le hle,
    UInt64.le_trans hordered.faulted_le hle, hordered.latch_le,
    fun next hpc => ⟨(hordered.loaded next hpc).1,
      UInt64.le_trans (hordered.loaded next hpc).2 hle⟩, hordered.stored⟩

theorem ledgerOk (hcall : CallOk s) (hledger : LedgerOk s) (hordered : s.bus.Ordered s.latch) :
    LedgerOk t := by
  have hle : t.bus.safetyEpoch ≤ s.ledger.epoch := by
    rcases h.safetyEpoch_eq hcall with heq | heq
    · exact heq ▸ hledger.safetyEpoch_le
    · exact heq ▸ UInt64.le_refl _
  have hobserved : t.bus.observedSafetyEpoch = s.bus.observedSafetyEpoch := by rw [h.bus_eq]
  have hseen : t.ledger.barrierSeen = true →
      s.bus.observedSafetyEpoch = s.ledger.epoch := by
    intro hseen
    cases h with
    | barrierApplied call seen_eq =>
      rcases seen_eq hseen with hbefore | happlied
      · exact hledger.observed hbefore
      · have := hordered.applied_le
        have := hordered.observed_le
        have := hledger.safetyEpoch_le
        grind
    | _ => exact hledger.observed hseen
  have hkept : s.ledger.barrierSeen = true → t.ledger.barrierSeen = true := by
    intro hbefore
    cases h with
    | barrierApplied call seen_eq kept => exact kept hbefore
    | _ => exact hbefore
  have hepoch : t.ledger.epoch = s.ledger.epoch := by rw [h.ledger_eq]
  have hpermission : t.ledger.permission = s.ledger.permission := by rw [h.ledger_eq]
  have hpushed : t.ledger.pushed = s.ledger.pushed := by rw [h.ledger_eq]
  refine ⟨hepoch ▸ hle, fun hs => ?_, fun hne => ?_, ?_, ?_⟩
  · rw [hobserved, hepoch]
    exact hseen hs
  · exact hkept (hledger.barrierSeen (hpermission ▸ hne))
  · rw [hpushed, hepoch]
    exact hledger.epoch_le
  · rw [hpushed, hepoch, hpermission]
    exact hledger.given

/-- The only access after which the permission can be there where it was not is
the store of a call that found the epoch not faulted. -/
theorem permitted_of_store (hpermitted : t.bus.outputsPermitted = true) :
    s.bus.outputsPermitted = true ∨
      ∃ epoch, s.call = some (.safetyStore epoch true false) := by
  cases h with
  | store call =>
    rename_i epoch permitted faultLatched
    simp only [Bool.and_eq_true, Bool.not_eq_true'] at hpermitted
    obtain ⟨rfl, rfl⟩ := hpermitted
    exact .inr ⟨epoch, call⟩
  | linkRevoke => cases hpermitted
  | _ => exact .inl hpermitted

theorem not_risePending (hfaulted : s.bus.faultedEpoch = s.ledger.epoch)
    (hcall : CallOk s) (hpending : ¬RisePending s.call) : ¬RisePending t.call := by
  cases h with
  | faulted | store | linkRevoke | exchange | linkStore | barrierApplied | pushCopy
  | pushStore => simp [RisePending]
  | notFaulted call clear =>
    rw [CallOk, call] at hcall
    exact absurd (hfaulted.trans hcall.1.symm) clear
  | loadGlobal call =>
    rename_i epoch permitted
    cases permitted with
    | true => exact absurd ⟨epoch, .inl call⟩ hpending
    | false => simp [RisePending]
  | barrierState call next_eq => rcases next_eq with rfl | rfl <;> simp [RisePending]
  | pushLoad call next_eq =>
    rcases next_eq with rfl | ⟨write, rfl⟩ | ⟨write, rfl⟩ <;> simp [RisePending]

theorem cannotRise (hcall : CallOk s) (hs : CannotRise s) : CannotRise t := by
  have hobserved : t.bus.observedSafetyEpoch = s.bus.observedSafetyEpoch := by rw [h.bus_eq]
  have hfaulted : t.bus.faultedEpoch = s.bus.faultedEpoch := by rw [h.bus_eq]
  have hepoch : t.ledger.epoch = s.ledger.epoch := by rw [h.ledger_eq]
  have hpermission : t.ledger.permission = s.ledger.permission := by rw [h.ledger_eq]
  rw [CannotRise, hobserved, hfaulted, hepoch, hpermission]
  exact hs.imp_right (Or.imp_right fun hfault =>
    ⟨hfault.1, h.not_risePending hfault.1 hcall hfault.2⟩)

/-- While the permission cannot rise, it does not. -/
theorem not_permitted (hcall : CallOk s) (hledger : LedgerOk s) (hs : CannotRise s)
    (hpermitted : s.bus.outputsPermitted = false) : t.bus.outputsPermitted = false := by
  by_contra hrisen
  rcases h.permitted_of_store (by simpa using hrisen) with hbefore | ⟨epoch, call⟩
  · rw [hpermitted] at hbefore
    cases hbefore
  · have hgiven : s.ledger.permission = .given := by
      rw [CallOk, call] at hcall
      exact hcall.2.2.1.mpr rfl
    rcases hs with hlt | hrevoked | hfault
    · have := hledger.observed (hledger.barrierSeen (by simp [hgiven]))
      grind
    · rw [hgiven] at hrevoked
      cases hrevoked
    · exact hfault.2 ⟨epoch, .inr call⟩

omit h in
/-- A permission the daemon has just withdrawn is settled, whether or not it had
been given. -/
theorem settled_of_ne_given {u : State} (hledger : LedgerOk u)
    (hpermission : u.ledger.permission ≠ .given) : Settled u := by
  cases heq : u.ledger.permission with
  | given => exact absurd heq hpermission
  | revoked => exact .inr (.inl (.inr (.inl heq)))
  | notGiven =>
    exact .inr (.inr ⟨fun command hmem hepoch => hledger.given command hmem hepoch heq,
      .inl heq⟩)

/-- **The daemon thread keeps the permission settled.** -/
theorem settled (hcall : CallOk s) (hledger : LedgerOk s) (hordered : s.bus.Ordered s.latch)
    (hs : Settled s) : Settled t := by
  have hcannot := h.cannotRise hcall
  have hledger' := h.ledgerOk hcall hledger hordered
  cases h with
  | store call =>
    rename_i epoch permitted faultLatched
    rw [CallOk, call] at hcall
    obtain ⟨-, -, hgiven, hlatched⟩ := hcall
    cases permitted with
    | false => exact settled_of_ne_given hledger' fun heq => by simpa using hgiven.mp heq
    | true =>
      cases faultLatched with
      | false => exact .inl rfl
      | true => exact .inr (.inl (.inr (.inr ⟨hlatched rfl, by simp [RisePending]⟩)))
  | linkRevoke call =>
    rw [CallOk, call] at hcall
    exact settled_of_ne_given hledger' hcall.2
  | exchange call =>
    refine hs.imp_right (Or.imp hcannot fun hwaiting => ⟨hwaiting.1, ?_⟩)
    rename_i epoch permitted
    cases permitted with
    | true => exact .inr ⟨epoch, .inr (.inl rfl)⟩
    | false => exact hwaiting.2.imp_right (by simp [Giving, call])
  | faulted call latched =>
    refine hs.imp_right (Or.imp hcannot fun hwaiting => ⟨hwaiting.1, ?_⟩)
    rename_i epoch permitted
    cases permitted with
    | true => exact .inr ⟨epoch, .inr (.inr (.inr ⟨true, rfl⟩))⟩
    | false => exact hwaiting.2.imp_right (by simp [Giving, call])
  | notFaulted call clear =>
    refine hs.imp_right (Or.imp hcannot fun hwaiting => ⟨hwaiting.1, ?_⟩)
    rename_i epoch permitted
    cases permitted with
    | true => exact .inr ⟨epoch, .inr (.inr (.inl rfl))⟩
    | false => exact hwaiting.2.imp_right (by simp [Giving, call])
  | loadGlobal call =>
    refine hs.imp_right (Or.imp hcannot fun hwaiting => ⟨hwaiting.1, ?_⟩)
    rename_i epoch permitted
    cases permitted with
    | true => exact .inr ⟨epoch, .inr (.inr (.inr ⟨_, rfl⟩))⟩
    | false => exact hwaiting.2.imp_right (by simp [Giving, call])
  | linkStore call | barrierState call | barrierApplied call | pushCopy call
  | pushStore call =>
    exact hs.imp_right (Or.imp hcannot fun hwaiting =>
      ⟨hwaiting.1, hwaiting.2.imp_right (by simp [Giving, call])⟩)
  | pushLoad call =>
    refine hs.imp_right (Or.imp hcannot fun hwaiting =>
      ⟨hwaiting.1, hwaiting.2.imp_right fun hgiving => ?_⟩)
    rcases call with call | ⟨write, call⟩ <;> simp [Giving, call] at hgiving

end CallStep

/-! ### The worker moves -/

/-- What a step of the worker does to the system. -/
theorem step_worker {env : Env} (h : step config s (.worker env) = some t) :
    ∃ o, s.bus.step config s.latch env = some o ∧ t.bus = o.bus ∧ t.latch = o.latch ∧
      t.call = s.call ∧ t.ledger = s.ledger := by
  obtain ⟨o, hstep, rfl⟩ := Option.map_eq_some_iff.mp h
  refine ⟨o, hstep, ?_⟩
  split <;> exact ⟨rfl, rfl, rfl, rfl⟩

section Worker

variable {env : Env} (h : step config s (.worker env) = some t)
include h

theorem ordered_worker (hordered : s.bus.Ordered s.latch) : t.bus.Ordered t.latch := by
  obtain ⟨o, hstep, hbus, hlatch, -, -⟩ := step_worker h
  rw [hbus, hlatch]
  exact hordered.step hstep

theorem CallOk.worker (hcall : CallOk s) (hordered : s.bus.Ordered s.latch) : CallOk t := by
  obtain ⟨o, hstep, hbus, -, hcallEq, hledgerEq⟩ := step_worker h
  have hepoch : t.bus.safetyEpoch = s.bus.safetyEpoch := hbus ▸ (Bus.step_frame hstep).safetyEpoch
  have hfaulted : s.bus.safetyEpoch = s.ledger.epoch → s.bus.faultedEpoch = s.ledger.epoch →
      t.bus.faultedEpoch = s.ledger.epoch := by
    intro hsafety heq
    have hle := (hordered.le_of_step hstep).2
    have hle' := (hordered.step hstep).faulted_le
    rw [← hbus] at hle hle'
    rw [hepoch] at hle'
    grind
  unfold CallOk at hcall ⊢
  rw [hcallEq, hledgerEq, hepoch]
  cases hpc : s.call with
  | none =>
    rw [hpc] at hcall
    exact hcall
  | some pc =>
    rw [hpc] at hcall
    cases pc with
    | safetyStore epoch permitted faultLatched =>
      obtain ⟨hcurrent, hsafety, hgiven, hlatched⟩ := hcall
      exact ⟨hcurrent, hsafety, hgiven, fun h => hfaulted hsafety (hlatched h)⟩
    | _ => exact hcall

theorem LedgerOk.worker (hledger : LedgerOk s) (hordered : s.bus.Ordered s.latch) :
    LedgerOk t := by
  obtain ⟨o, hstep, hbus, -, -, hledgerEq⟩ := step_worker h
  have hepoch : t.bus.safetyEpoch = s.bus.safetyEpoch := hbus ▸ (Bus.step_frame hstep).safetyEpoch
  refine ⟨?_, fun hseen => ?_, ?_, ?_, ?_⟩
  · rw [hepoch, hledgerEq]
    exact hledger.safetyEpoch_le
  · rw [hledgerEq] at hseen ⊢
    have heq := hledger.observed hseen
    have hle := (hordered.le_of_step hstep).1
    have hle' := (hordered.step hstep).observed_le
    have := hledger.safetyEpoch_le
    rw [← hbus] at hle hle'
    rw [hepoch] at hle'
    grind
  · rw [hledgerEq]
    exact hledger.barrierSeen
  · rw [hledgerEq]
    exact hledger.epoch_le
  · rw [hledgerEq]
    exact hledger.given

end Worker

end SingleBus

end EcSystemCore
