import EcSystemCore.Daemon.BusSync

/-!
# The lease belongs to a connection

The gate's lease is held by a connection id.  Ids are issued once (`LeaseInv.unique`,
as long as the counter has not wrapped), the holder is an open connection that asked for
control, was granted it and may have it (`Entitled`), and a connection that has lost the
lease never gets it back (`Spent`), because it was greeted before and only a first Hello
acquires.

A step of the loop either leaves the lease with its holder and the epoch alone, or it takes
the lease from the holder and advances the epoch (`Follows`).
-/

namespace EcSystemCore

open Execution
open List (Forall₂)

/-- The connection is open, asked for control in its Hello, was granted it and may have
it. -/
structure Entitled (configuration : DaemonConfig) (client : ClientConnection) : Prop where
  isOpen : client.isOpen = true
  greeted : client.helloReceived = true
  granted : client.role = .controller
  authorized : Daemon.controllerAuthorized configuration client = true
  asked : ∃ frame ∈ client.handled, frame.type = .hello ∧
    ∃ hello, decodeHelloPayload frame.payload = some hello ∧ hello.role = .controller

/-- A connection stays whose it was and what it was granted; the holder stays open. -/
structure Carried (holder : Option ClientId) (client next : ClientConnection) : Prop where
  session : client.session.SameCredentials next.session
  isOpen : holder = some client.id → client.isOpen = true → next.isOpen = true

theorem Kept.carried {holder : Option ClientId} {client next : ClientConnection}
    (h : Kept holder client next) : Carried holder client next where
  session := by
    rw [h.session]
    exact .refl _
  isOpen := h.holder

theorem Carried.refl (holder : Option ClientId) (client : ClientConnection) :
    Carried holder client client := (Kept.refl holder client).carried

theorem Entitled.carried {configuration : DaemonConfig} {holder : Option ClientId}
    {client next : ClientConnection} (h : Entitled configuration client)
    (hheld : holder = some client.id) (hcarried : Carried holder client next) :
    Entitled configuration next := by
  obtain ⟨frame, hframe, hasked⟩ := h.asked
  have huid : next.uid = client.uid := hcarried.session.uid
  have hgroups : next.peerGroups = client.peerGroups := hcarried.session.peerGroups
  refine ⟨hcarried.isOpen hheld h.isOpen, hcarried.session.helloReceived.trans h.greeted,
    hcarried.session.role.trans h.granted, ?_, frame, hcarried.session.handled hframe, hasked⟩
  rw [← h.authorized, Daemon.controllerAuthorized, Daemon.controllerAuthorized, huid, hgroups]

namespace Daemon

variable {a b c d d' : Daemon} {id : ClientId}

/-- The lease is held by `id`. -/
def Holds (d : Daemon) (id : ClientId) : Prop := d.safety.controllerId = some id

/-- Connections have distinct ids that were issued, and the holder is one of them and
entitled to the lease. -/
structure LeaseInv (d : Daemon) : Prop where
  unique : (d.clients.map (·.id)).Nodup
  issued : ∀ client ∈ d.clients, client.id.toNat ≤ d.accepted
  next : d.nextClientId = UInt64.ofNat (d.accepted + 1)
  holder : ∀ id, d.Holds id → ∃ client ∈ d.clients, client.id = id ∧
    Entitled d.configuration client

/-- The id was issued and cannot get the lease any more: its connection, if it is still
there, was greeted. -/
structure Spent (d : Daemon) (id : ClientId) : Prop where
  notHeld : ¬d.Holds id
  greeted : ∀ client ∈ d.clients, client.id = id → client.helloReceived = true
  issued : id.toNat ≤ d.accepted

/-- How the lease of `id` and the epoch develop: the holder keeps the lease and the epoch
stays, or the lease is lost for good and the epoch has advanced. -/
structure Follows (id : ClientId) (d d' : Daemon) : Prop where
  epoch : ∃ k, d'.advances = d.advances + k ∧ d'.safety.epoch = nextEpoch^[k] d.safety.epoch
  held : d.Holds id → (d'.Holds id ∧ d'.advances = d.advances) ∨
    (d'.Spent id ∧ d.advances < d'.advances)
  spent : d.Spent id → d'.Spent id

theorem Follows.refl (id : ClientId) (d : Daemon) : Follows id d d :=
  ⟨⟨0, rfl, rfl⟩, fun h => .inl ⟨h, rfl⟩, fun h => h⟩

theorem Follows.trans (h : Follows id a b) (h' : Follows id b c) : Follows id a c where
  epoch := by
    obtain ⟨k, hk, hepoch⟩ := h.epoch
    obtain ⟨k', hk', hepoch'⟩ := h'.epoch
    refine ⟨k + k', by omega, ?_⟩
    rw [hepoch', hepoch, Nat.add_comm, Function.iterate_add_apply]
  held := by
    intro hheld
    obtain ⟨k', hk', -⟩ := h'.epoch
    obtain ⟨hheld', hsame⟩ | ⟨hspent, hmore⟩ := h.held hheld
    · obtain ⟨hheld'', hsame'⟩ | ⟨hspent, hmore⟩ := h'.held hheld'
      · exact .inl ⟨hheld'', hsame'.trans hsame⟩
      · exact .inr ⟨hspent, by omega⟩
    · exact .inr ⟨h'.spent hspent, by omega⟩
  spent := fun hspent => h'.spent (h.spent hspent)

/-- The lease invariant is kept, and the lease of every id follows. -/
def Proceeds (d d' : Daemon) : Prop :=
  d.LeaseInv → d'.LeaseInv ∧ ∀ id, Follows id d d'

theorem Proceeds.trans (h : Proceeds a b) (h' : Proceeds b c) : Proceeds a c := fun ha =>
  have hb := h ha
  have hc := h' hb.1
  ⟨hc.1, fun id => (hb.2 id).trans (hc.2 id)⟩

/-! ### Small steps -/

section Carrying

variable (hclients : Forall₂ (Carried d'.safety.controllerId) d.clients d'.clients)
  (hissued : d'.nextClientId = d.nextClientId ∧ d'.accepted = d.accepted)
  (hlease : ∀ id, d'.Holds id → d.Holds id)

include hclients hissued hlease

theorem LeaseInv.carried (h : d.LeaseInv) (hconfiguration : d'.configuration = d.configuration) :
    d'.LeaseInv where
  unique := by
    have hids : Forall₂ (· = ·) (d'.clients.map (·.id)) (d.clients.map (·.id)) := by
      rw [List.forall₂_map_left_iff, List.forall₂_map_right_iff]
      exact hclients.flip.imp fun _ _ hcarried => hcarried.session.id
    rw [List.forall₂_eq_eq_eq] at hids
    rw [hids]
    exact h.unique
  issued := by
    intro client hclient
    obtain ⟨old, hold, hcarried⟩ := exists_left_of_forall₂ hclients hclient
    have hid : client.id = old.id := hcarried.session.id
    rw [hid, hissued.2]
    exact h.issued old hold
  next := by rw [hissued.1, hissued.2, h.next]
  holder := by
    intro id hheld
    obtain ⟨client, hclient, rfl, hentitled⟩ := h.holder id (hlease id hheld)
    obtain ⟨next, hnext, hcarried⟩ := exists_right_of_forall₂ hclients hclient
    refine ⟨next, hnext, hcarried.session.id, ?_⟩
    rw [hconfiguration]
    exact hentitled.carried hheld hcarried

theorem Spent.carried (h : d.Spent id) : d'.Spent id where
  notHeld := fun hheld => h.notHeld (hlease id hheld)
  greeted := by
    intro client hclient hid
    obtain ⟨old, hold, hcarried⟩ := exists_left_of_forall₂ hclients hclient
    have hsame : client.id = old.id := hcarried.session.id
    exact hcarried.session.helloReceived.trans (h.greeted old hold (hsame.symm.trans hid))
  issued := hissued.2 ▸ h.issued

end Carrying

/-- Whoever held the lease and lost it is spent. -/
theorem LeaseInv.spent_of_dropped (h : d.LeaseInv) (hheld : d.Holds id)
    (hclients : Forall₂ (Carried d'.safety.controllerId) d.clients d'.clients)
    (hissued : d'.nextClientId = d.nextClientId ∧ d'.accepted = d.accepted)
    (hdropped : ¬d'.Holds id) : d'.Spent id := by
  obtain ⟨holder, hholder, rfl, hentitled⟩ := h.holder id hheld
  refine ⟨hdropped, fun client hclient hid => ?_, hissued.2 ▸ h.issued holder hholder⟩
  obtain ⟨old, hold, hcarried⟩ := exists_left_of_forall₂ hclients hclient
  have hsame : client.id = old.id := hcarried.session.id
  -- ids are distinct, so the connection with this id is the holder
  have heq : old = holder :=
    List.inj_on_of_nodup_map h.unique hold hholder (hsame.symm.trans hid)
  exact hcarried.session.helloReceived.trans (heq ▸ hentitled.greeted)

theorem Evolves.proceeds (h : Evolves d d') : Proceeds d d' := by
  intro hinv
  have hclients := h.clients.imp fun _ _ hkept => hkept.carried
  obtain ⟨k, hadvances, hepoch, hholder⟩ := h.lease
  have hlease : ∀ id, d'.Holds id → d.Holds id := by
    intro id hheld
    unfold Holds at hheld
    rw [hholder] at hheld
    split at hheld
    · exact hheld
    · cases hheld
  refine ⟨hinv.carried hclients h.issued hlease h.configuration, fun id =>
    ⟨⟨k, hadvances, hepoch⟩, fun hheld => ?_, fun hspent =>
      hspent.carried hclients h.issued hlease⟩⟩
  by_cases hk : k = 0
  · rw [if_pos hk] at hholder
    exact .inl ⟨hholder.trans hheld, by omega⟩
  · rw [if_neg hk] at hholder
    refine .inr ⟨hinv.spent_of_dropped hheld hclients h.issued fun hheld' => ?_, by omega⟩
    cases hholder.symm.trans hheld'

theorem notes_proceeds {index : ℕ} {f : ClientConnection → ClientConnection}
    (session : ∀ client : ClientConnection, client.session.SameCredentials (f client).session)
    (isOpen : ∀ client : ClientConnection, (f client).isOpen = client.isOpen) :
    Proceeds d (d.updateClient index f) := by
  intro hinv
  have hclients :
      Forall₂ (Carried d.safety.controllerId) d.clients (d.updateClient index f).clients :=
    forall₂_modify (Carried.refl _) fun client _ =>
      ⟨session client, fun _ hopen => (isOpen client).trans hopen⟩
  exact ⟨hinv.carried hclients ⟨rfl, rfl⟩ (fun _ h => h) rfl, fun id =>
    ⟨⟨0, rfl, rfl⟩, fun hheld => .inl ⟨hheld, rfl⟩, fun hspent =>
      hspent.carried hclients ⟨rfl, rfl⟩ fun _ h => h⟩⟩

section Greeting

variable {index : ℕ} {client : ClientConnection} {hello : HelloPayload} {granted : ClientRole}
  (found : d.clients[index]? = some client) (first : client.helloReceived = false)
  (decides : Decides d index client hello granted (·.greet granted) d')

include found first decides

/-- Every connection after a first Hello is one from before or the greeted one; those
greeted before stay as they are. -/
theorem Decides.related : Forall₂ (fun x y : ClientConnection => y.id = x.id ∧
    (y.helloReceived = true ∨ y = x) ∧ (x.helloReceived = true → y = x))
    d.clients d'.clients := by
  obtain ⟨f, hf, hgreet⟩ := decides.clients
  rw [hf]
  refine forall₂_modify (fun x => ⟨rfl, .inr rfl, fun _ => rfl⟩) fun x hx => ?_
  cases found.symm.trans hx
  refine ⟨congrArg Session.id (hgreet client).1,
    .inl (congrArg Session.helloReceived (hgreet client).1), fun h => ?_⟩
  cases first.symm.trans h

/-- The holder of the lease was greeted before, so a first Hello does not take the lease
from anyone. -/
theorem Decides.holds (hinv : d.LeaseInv) (hheld : d.Holds id) : d'.Holds id := by
  obtain ⟨-, hsame⟩ | ⟨-, -, -, hfree | hown, -⟩ := decides.lease
  · exact hsame.trans hheld
  · cases hfree.symm.trans hheld
  · obtain ⟨holder, hholder, hid, hentitled⟩ := hinv.holder client.id hown
    have heq : holder = client :=
      List.inj_on_of_nodup_map hinv.unique hholder (List.mem_of_getElem? found) hid
    cases first.symm.trans (heq ▸ hentitled.greeted)

theorem Decides.spent (hspent : d.Spent id) : d'.Spent id where
  notHeld := by
    intro hheld
    obtain ⟨-, hsame⟩ | ⟨-, -, -, -, htaken⟩ := decides.lease
    · exact hspent.notHeld (hsame.symm.trans hheld)
    · cases htaken.symm.trans hheld
      cases first.symm.trans (hspent.greeted client (List.mem_of_getElem? found) rfl)
  greeted := by
    intro y hy hyid
    obtain ⟨x, hx, hxid, hgreeted | rfl, -⟩ :=
      exists_left_of_forall₂ (decides.related found first) hy
    · exact hgreeted
    · exact hspent.greeted y hx hyid
  issued := by
    rw [decides.issued.2]
    exact hspent.issued

/-- Whoever holds the lease after a first Hello is entitled to it: the old holder, or the
connection that was granted control. -/
theorem Decides.holder {frame : Frame} (hinv : d.LeaseInv) (isOpen : client.isOpen = true)
    (said : frame ∈ client.handled) (type : frame.type = .hello)
    (decoded : decodeHelloPayload frame.payload = some hello) (hheld : d'.Holds id) :
    ∃ next ∈ d'.clients, next.id = id ∧ Entitled d.configuration next := by
  obtain ⟨-, hsame⟩ | ⟨hgranted, hrole, hauthorized, -, htaken⟩ := decides.lease
  · obtain ⟨holder, hholder, hid, hentitled⟩ := hinv.holder id (hsame.symm.trans hheld)
    obtain ⟨y, hy, hrel⟩ := exists_right_of_forall₂ (decides.related found first) hholder
    cases hrel.2.2 hentitled.greeted
    exact ⟨holder, hy, hid, hentitled⟩
  · cases htaken.symm.trans hheld
    obtain ⟨f, hf, hgreet⟩ := decides.clients
    have hsession := (hgreet client).1
    have hplace : d'.clients[index]? = some (f client) := by
      rw [hf, List.getElem?_modify_eq, found]
      rfl
    have huid : (f client).uid = client.uid := congrArg Session.uid hsession
    have hgroups : (f client).peerGroups = client.peerGroups :=
      congrArg Session.peerGroups hsession
    have hhandled : (f client).handled = client.handled := congrArg Session.handled hsession
    refine ⟨f client, List.mem_of_getElem? hplace, congrArg Session.id hsession,
      (hgreet client).2.trans isOpen, congrArg Session.helloReceived hsession,
      (congrArg Session.role hsession).trans hgranted, ?_, frame, hhandled ▸ said, type, hello,
      decoded, hrole⟩
    rw [← hauthorized, controllerAuthorized, controllerAuthorized, huid, hgroups]

/-- A first Hello: its connection was not greeted before, so it neither holds the lease nor
has lost it. -/
theorem greets_proceeds {frame : Frame} (isOpen : client.isOpen = true)
    (said : frame ∈ client.handled) (type : frame.type = .hello)
    (decoded : decodeHelloPayload frame.payload = some hello) : Proceeds d d' := by
  intro hinv
  have hrelated := decides.related found first
  have hids : Forall₂ (· = ·) (d'.clients.map (·.id)) (d.clients.map (·.id)) := by
    rw [List.forall₂_map_left_iff, List.forall₂_map_right_iff]
    exact hrelated.flip.imp fun _ _ h => h.1
  rw [List.forall₂_eq_eq_eq] at hids
  refine ⟨⟨hids ▸ hinv.unique, fun y hy => ?_, ?_, fun id hheld => ?_⟩, fun id =>
    ⟨⟨0, decides.epoch.2, decides.epoch.1⟩, fun hheld =>
      .inl ⟨decides.holds found first hinv hheld, decides.epoch.2⟩, decides.spent found first⟩⟩
  · obtain ⟨x, hx, hrel⟩ := exists_left_of_forall₂ hrelated hy
    rw [hrel.1, decides.issued.2]
    exact hinv.issued x hx
  · rw [decides.issued.1, decides.issued.2, hinv.next]
  · rw [decides.configuration]
    exact decides.holder found first hinv isOpen said type decoded hheld

end Greeting

theorem ReadStep.proceeds {index : ℕ} (h : ReadStep index d d') : Proceeds d d' := by
  cases h with
  | moves hmoves => exact hmoves.toEvolves.proceeds
  | notes session isOpen => exact notes_proceeds session isOpen
  | greets found first isOpen said type decoded decides =>
    exact greets_proceeds found first decides isOpen said type decoded

theorem Reads.proceeds {index : ℕ} (h : Reads index d d') : Proceeds d d' := by
  induction h with
  | refl => exact fun hinv => ⟨hinv, fun id => .refl id d⟩
  | tail _ hstep ih => exact ih.trans hstep.proceeds

/-! ### Steps of the loop -/

/-- A new connection gets an id that was never issued. -/
theorem accepts_proceeds {client : ClientConnection} (few : d.accepted + 1 < 2 ^ 64)
    (hid : client.id = if d.nextClientId = 0 then 1 else d.nextClientId) :
    Proceeds d { d.ticked with
      clients := d.clients ++ [client], nextClientId := client.id + 1
      accepted := d.accepted + 1 } := by
  intro hinv
  have hnat : client.id.toNat = d.accepted + 1 := by
    have hofNat : (UInt64.ofNat (d.accepted + 1)).toNat = d.accepted + 1 :=
      UInt64.toNat_ofNat_of_lt few
    have hnonzero : UInt64.ofNat (d.accepted + 1) ≠ 0 := by
      intro hzero
      rw [hzero] at hofNat
      simp at hofNat
    rw [hid, hinv.next, if_neg hnonzero, hofNat]
  have hfresh : ∀ old ∈ d.clients, old.id ≠ client.id := by
    intro old hold heq
    have hold := hinv.issued old hold
    rw [heq, hnat] at hold
    omega
  refine ⟨⟨?_, fun x hx => ?_, ?_, fun id hheld => ?_⟩, fun id =>
    ⟨⟨0, rfl, rfl⟩, fun hheld => .inl ⟨hheld, rfl⟩, fun hspent =>
      ⟨hspent.notHeld, fun x hx hxid => ?_, Nat.le_succ_of_le hspent.issued⟩⟩⟩
  · rw [List.map_append, List.nodup_append]
    refine ⟨hinv.unique, List.nodup_singleton _, fun x hx y hy => ?_⟩
    obtain ⟨old, hold, rfl⟩ := List.mem_map.mp hx
    cases List.mem_singleton.mp hy
    exact hfresh old hold
  · obtain hold | hnew := List.mem_append.mp hx
    · exact Nat.le_succ_of_le (hinv.issued x hold)
    · cases List.mem_singleton.mp hnew
      exact hnat.le
  · apply UInt64.toNat_inj.mp
    rw [UInt64.toNat_add, hnat, UInt64.toNat_ofNat']
    rfl
  · obtain ⟨holder, hholder, hrest⟩ := hinv.holder id hheld
    exact ⟨holder, List.mem_append_left _ hholder, hrest⟩
  · obtain hold | hnew := List.mem_append.mp hx
    · exact hspent.greeted x hold hxid
    · cases List.mem_singleton.mp hnew
      have hissued := hspent.issued
      rw [← hxid, hnat] at hissued
      omega

/-- A scan deals with the lease before it touches a bus. -/
theorem scans_proceeds (env : LoopEnv) (initial : Bool) (identities : List AdapterIdentity) :
    Proceeds d { d.scanAdapters env initial identities with forceAdapterScan := false } := by
  have hadvanced := advanceForScan_moves env initial (d.slots.map (plan identities)) d
  refine hadvanced.toEvolves.proceeds.trans fun hinv => ⟨?_, fun id => ?_⟩
  · exact ⟨hinv.unique, hinv.issued, hinv.next, hinv.holder⟩
  · exact ⟨⟨0, rfl, rfl⟩, fun hheld => .inl ⟨hheld, rfl⟩, fun hspent =>
      ⟨hspent.notHeld, hspent.greeted, hspent.issued⟩⟩

/-- Forgetting closed connections does not touch the holder, which is open. -/
theorem removes_proceeds : Proceeds d d.removeClosedClients := by
  intro hinv
  have hsub : d.removeClosedClients.clients.Sublist d.clients := List.filter_sublist
  refine ⟨⟨hinv.unique.sublist (hsub.map _), fun x hx => hinv.issued x (hsub.subset hx),
    hinv.next, fun id hheld => ?_⟩, fun id => ⟨⟨0, rfl, rfl⟩, fun hheld => .inl ⟨hheld, rfl⟩,
      fun hspent => ⟨hspent.notHeld, fun x hx => hspent.greeted x (hsub.subset hx),
        hspent.issued⟩⟩⟩
  obtain ⟨holder, hholder, hid, hentitled⟩ := hinv.holder id hheld
  exact ⟨holder, List.mem_filter.mpr ⟨hholder, hentitled.isOpen⟩, hid, hentitled⟩

/-- The end of the loop closes every connection. -/
theorem stops_proceeds {m : Daemon} (h : Evolves d m) (dropped : m.safety.controllerId = none)
    (gate : d'.safety = m.safety)
    (issued : d'.nextClientId = m.nextClientId ∧ d'.accepted = m.accepted)
    (advances : d'.advances = m.advances) (clients : d'.clients = []) : Proceeds d d' := by
  refine h.proceeds.trans fun hinv => ?_
  have hfree : ∀ id, ¬d'.Holds id := by
    intro id hheld
    unfold Holds at hheld
    rw [gate, dropped] at hheld
    cases hheld
  refine ⟨⟨by simp [clients], by simp [clients], by rw [issued.1, issued.2, hinv.next],
    fun id hheld => (hfree id hheld).elim⟩, fun id => ⟨⟨0, advances, by rw [gate]; rfl⟩,
      fun hheld => ?_, fun hspent => ⟨hfree id, by simp [clients], issued.2 ▸ hspent.issued⟩⟩⟩
  cases dropped.symm.trans hheld

/-- A pass over a connection's input issues no id. -/
theorem Reads.accepted {index : ℕ} (h : Reads index d d') : d'.accepted = d.accepted := by
  induction h with
  | refl => rfl
  | tail _ hstep ih =>
    rw [← ih]
    cases hstep with
    | moves hmoves => exact hmoves.issued.2
    | notes => rfl
    | greets _ _ _ _ _ _ decides => exact decides.issued.2

theorem accepted_mono {label : LoopEnv × LoopStep} (h : d.step label = some d') :
    d.accepted ≤ d'.accepted := by
  cases step_outcome h with
  | moves hmoves => exact hmoves.issued.2.ge
  | scans env initial identities =>
    exact (advanceForScan_moves env initial (d.slots.map (plan identities)) d).issued.2.ge
  | reads env index results => exact (readClient_reads env 0 results).accepted.ge
  | accepts => exact Nat.le_succ _
  | removes => exact le_rfl
  | stops hevolves _ _ _ issued => exact (issued.2.trans hevolves.issued.2).ge

/-- Every step of the loop, as long as ids are not reused. -/
theorem step_proceeds {label : LoopEnv × LoopStep} (h : d.step label = some d')
    (few : d'.accepted < 2 ^ 64) : Proceeds d d' := by
  cases step_outcome h with
  | moves hmoves => exact hmoves.toEvolves.proceeds
  | scans env initial identities => exact scans_proceeds env initial identities
  | reads env index results => exact (readClient_reads env 0 results).proceeds
  | accepts hid => exact accepts_proceeds few hid
  | removes => exact removes_proceeds
  | stops hevolves dropped _ gate issued advances clients =>
    exact stops_proceeds hevolves dropped gate issued advances clients

/-! ### Runs of the loop -/

theorem accepted_mono_run {labels : List (LoopEnv × LoopStep)}
    (h : run step d labels = some d') : d.accepted ≤ d'.accepted :=
  run_induction step (P := fun m => d.accepted ≤ m.accepted)
    (fun _ _ _ hle hstep => hle.trans (accepted_mono hstep)) le_rfl h

theorem run_proceeds {labels : List (LoopEnv × LoopStep)} (h : run step d labels = some d')
    (few : d'.accepted < 2 ^ 64) : Proceeds d d' := by
  induction labels generalizing d with
  | nil =>
    cases h
    exact fun hinv => ⟨hinv, fun id => .refl id _⟩
  | cons label labels ih =>
    rw [run_cons, Option.bind_eq_some_iff] at h
    obtain ⟨m, hm, h⟩ := h
    exact (step_proceeds hm ((accepted_mono_run h).trans_lt few)).trans (ih h)

theorem leaseInv_start (configuration : DaemonConfig) (initialEpoch : UInt64)
    (controllerGid : Option UInt32) : (start configuration initialEpoch controllerGid).LeaseInv :=
  ⟨List.nodup_nil, fun _ h => (by cases h), rfl, fun _ hheld => (by cases hheld)⟩

/-- With distinct ids, the connections with an id are the one that has it. -/
theorem filter_id_eq {clients : List ClientConnection} {client : ClientConnection}
    (hunique : (clients.map (·.id)).Nodup) (hclient : client ∈ clients) :
    clients.filter (·.id = client.id) = [client] := by
  have hnodup : (clients.filter (·.id = client.id)).Nodup := hunique.of_map.filter _
  refine List.perm_singleton.mp
    ((List.perm_ext_iff_of_nodup hnodup (List.nodup_singleton _)).mpr fun x => ?_)
  rw [List.mem_filter, List.mem_singleton, decide_eq_true_eq]
  constructor
  · rintro ⟨hx, hid⟩
    exact List.inj_on_of_nodup_map hunique hx hclient hid
  · rintro rfl
    exact ⟨hclient, rfl⟩

/-- **The lease belongs to one entitled connection.**  After any steps of the event loop with
fewer than `2 ^ 64` accepted connections: exactly one connection has the holder's id, and
it is open, asked for control in a Hello, was granted it and may have it; between two points
at which a connection holds the lease it holds it throughout, and no epoch advance has taken
it away in the meantime; and a step that closes the holder takes the lease from it and
advances the epoch. -/
theorem lease_of_one_entitled_connection (configuration : DaemonConfig) (initialEpoch : UInt64)
    (controllerGid : Option UInt32) (labels : List (LoopEnv × LoopStep)) (d : Daemon)
    (reached : run step (start configuration initialEpoch controllerGid) labels = some d)
    (few : d.accepted < 2 ^ 64) :
    (∀ id, d.Holds id → ∃ client, d.clients.filter (·.id = id) = [client] ∧
      Entitled d.configuration client) ∧
    (∀ id before middle after earlier between, labels = before ++ (middle ++ after) →
      run step (start configuration initialEpoch controllerGid) before = some earlier →
      run step earlier middle = some between → earlier.Holds id → d.Holds id →
      between.Holds id ∧ d.advances = earlier.advances) ∧
    ∀ id label next, d.step label = some next → next.accepted < 2 ^ 64 → d.Holds id →
      (∀ client ∈ next.clients, client.id = id → client.isOpen = false) →
      ¬next.Holds id ∧ ∃ k, 0 < k ∧ next.safety.epoch = nextEpoch^[k] d.safety.epoch := by
  have hstart := leaseInv_start configuration initialEpoch controllerGid
  have hinv : d.LeaseInv := (run_proceeds reached few hstart).1
  refine ⟨fun id hheld => ?_, ?_, ?_⟩
  · obtain ⟨client, hclient, rfl, hentitled⟩ := hinv.holder id hheld
    exact ⟨client, filter_id_eq hinv.unique hclient, hentitled⟩
  · rintro id before middle after earlier between rfl hbefore hmiddle hearlier hd
    have hafter : run step between after = some d := by
      rw [run_append, hbefore, Option.bind_some, run_append, hmiddle] at reached
      exact reached
    have hbetween : between.accepted < 2 ^ 64 := (accepted_mono_run hafter).trans_lt few
    have hinvEarlier : earlier.LeaseInv := (run_proceeds hbefore
      ((accepted_mono_run hmiddle).trans_lt hbetween) hstart).1
    obtain ⟨hinvBetween, hfirst⟩ := run_proceeds hmiddle hbetween hinvEarlier
    have hsecond := (run_proceeds hafter few hinvBetween).2 id
    obtain ⟨hheld, hsame⟩ | ⟨hspent, -⟩ := (hfirst id).held hearlier
    · obtain ⟨-, hsame'⟩ | ⟨hspent, -⟩ := hsecond.held hheld
      · exact ⟨hheld, hsame'.trans hsame⟩
      · exact absurd hd hspent.notHeld
    · exact absurd hd (hsecond.spent hspent).notHeld
  · intro id label next hstep hfew hheld hclosed
    obtain ⟨hinv', hfollows⟩ := step_proceeds hstep hfew hinv
    obtain ⟨k, hk, hepoch⟩ := (hfollows id).epoch
    obtain ⟨hheld', -⟩ | ⟨hspent, hmore⟩ := (hfollows id).held hheld
    · obtain ⟨holder, hholder, hid, hentitled⟩ := hinv'.holder id hheld'
      cases hentitled.isOpen.symm.trans (hclosed holder hholder hid)
    · exact ⟨hspent.notHeld, k, by omega, hepoch⟩

/-- In the run that enables outputs, connection 1 holds the lease, and closing it takes the
lease away. -/
theorem enableSteps_lease : ∃ d next,
    run step (start oneBusConfig 7 none) enableSteps = some d ∧ d.Holds 1 ∧
      (∃ client, d.clients.filter (·.id = 1) = [client] ∧ Entitled d.configuration client) ∧
      d.step (healthyEnv, .closeClient 0) = some next ∧ ¬next.Holds 1 ∧
      ∃ k, 0 < k ∧ next.safety.epoch = nextEpoch^[k] 7 := by
  have hview : (run step (start oneBusConfig 7 none) enableSteps).map (fun d =>
      (d.accepted, d.safety.controllerId, d.safety.epoch)) = some (1, some 1, 7) := by
    decide +kernel
  have hclosed : ((run step (start oneBusConfig 7 none) enableSteps).bind fun d =>
      d.step (healthyEnv, .closeClient 0)).map (fun d =>
        (d.accepted, d.clients.map (·.isOpen))) = some (1, [false]) := by
    decide +kernel
  obtain ⟨d, hrun, hd⟩ := Option.map_eq_some_iff.mp hview
  obtain ⟨haccepted, hheld, hepoch⟩ : d.accepted = 1 ∧ d.Holds 1 ∧ d.safety.epoch = 7 := by
    simpa [Holds] using hd
  rw [hrun, Option.bind_some] at hclosed
  obtain ⟨next, hnext, hisClosed⟩ := Option.map_eq_some_iff.mp hclosed
  obtain ⟨haccepted', hclients⟩ : next.accepted = 1 ∧ next.clients.map (·.isOpen) = [false] := by
    simpa using hisClosed
  have hall : ∀ client ∈ next.clients, client.isOpen = false := by
    intro client hclient
    have hmem := List.mem_map_of_mem (f := (·.isOpen)) hclient
    rw [hclients] at hmem
    exact List.mem_singleton.mp hmem
  obtain ⟨hone, -, hstep⟩ := lease_of_one_entitled_connection oneBusConfig 7 none enableSteps d
    hrun (by omega)
  obtain ⟨hlost, hadvanced⟩ := hstep 1 _ next hnext (by omega) hheld
    fun client hclient _ => hall client hclient
  exact ⟨d, next, hrun, hheld, hone 1 hheld, hnext, hlost, hepoch ▸ hadvanced⟩

end Daemon

end EcSystemCore
