import Mathlib.Data.List.Forall2
import EcSystemCore.Daemon.Loop

/-!
# What the daemon's functions can do

Every function of the daemon that is not about taking a connection in, greeting it
or reading from it evolves the state in one way: connections stay in their places with
their sessions and are at most closed, and the lease stays with its holder, who is
not closed, or it is dropped and the epoch has advanced (`Evolves`).  When it also
leaves the started buses in step with the gate (`Synced`), it `Moves` the daemon.

Both relations compose.  An operation of the gate on its own only evolves; pushing the
gate's state to the buses turns any evolution into a move (`Evolves.apply`), which is
how each handler that changes the gate ends up moving.
-/

namespace EcSystemCore

open List (Forall₂)

/-! ### Pointwise related lists -/

section Pointwise

variable {α : Type*} {R S T : α → α → Prop}

theorem forall₂_compose {xs ys zs : List α} (h : Forall₂ R xs ys) (h' : Forall₂ S ys zs)
    (compose : ∀ x y z, R x y → S y z → T x z) : Forall₂ T xs zs := by
  induction h generalizing zs with
  | nil =>
    cases h'
    exact .nil
  | cons hxy _ ih =>
    cases h' with
    | cons hyz htail => exact .cons (compose _ _ _ hxy hyz) (ih htail)

theorem forall₂_of_refl (refl : ∀ x, R x x) (xs : List α) : Forall₂ R xs xs :=
  List.forall₂_same.mpr fun x _ => refl x

theorem forall₂_modify (refl : ∀ x, R x x) {xs : List α} {index : ℕ} {f : α → α}
    (changed : ∀ x, xs[index]? = some x → R x (f x)) : Forall₂ R xs (xs.modify index f) := by
  induction xs generalizing index with
  | nil => cases index <;> exact .nil
  | cons x xs ih =>
    cases index with
    | zero => exact .cons (changed x rfl) (forall₂_of_refl refl xs)
    | succ index => exact .cons (refl x) (ih changed)

/-- Every element on the right comes from one on the left. -/
theorem exists_left_of_forall₂ {xs ys : List α} (h : Forall₂ R xs ys) {y : α} (hy : y ∈ ys) :
    ∃ x ∈ xs, R x y := by
  induction h with
  | nil => cases hy
  | cons hxy _ ih =>
    cases hy with
    | head => exact ⟨_, List.mem_cons_self, hxy⟩
    | tail _ hy =>
      obtain ⟨x, hx, hR⟩ := ih hy
      exact ⟨x, List.mem_cons_of_mem _ hx, hR⟩

/-- Every element on the left has its successor on the right. -/
theorem exists_right_of_forall₂ {xs ys : List α} (h : Forall₂ R xs ys) {x : α} (hx : x ∈ xs) :
    ∃ y ∈ ys, R x y := by
  have hflip : Forall₂ (fun y x => R x y) ys xs := h.flip
  exact exists_left_of_forall₂ hflip hx

end Pointwise

/-! ### Sessions -/

/-- What a connection is, apart from its queue and its rate: whose it is, what it has
said, and what was done with it. -/
structure Session where
  id : ClientId
  uid : UInt32
  peerGroups : List UInt32
  helloReceived : Bool
  role : ClientRole
  decoder : FrameDecoder
  received : Bytes
  handled : List Frame
  refused : Bool
  handledAfterRefusal : Bool

/-- The session of a connection. -/
def ClientConnection.session (client : ClientConnection) : Session where
  id := client.id
  uid := client.uid
  peerGroups := client.peerGroups
  helloReceived := client.helloReceived
  role := client.role
  decoder := client.decoder
  received := client.received
  handled := client.handled
  refused := client.refused
  handledAfterRefusal := client.handledAfterRefusal

/-- What a Hello leaves of a session. -/
def Session.greet (granted : ClientRole) (session : Session) : Session :=
  { session with helloReceived := true, role := granted }

/-- A connection keeps its session and is at most closed; the holder stays open. -/
structure Kept (holder : Option ClientId) (client next : ClientConnection) : Prop where
  session : next.session = client.session
  isOpen : next.isOpen = true → client.isOpen = true
  holder : holder = some client.id → client.isOpen = true → next.isOpen = true

namespace Kept

variable {holder : Option ClientId} {a b c : ClientConnection}

theorem refl (holder : Option ClientId) (client : ClientConnection) : Kept holder client client :=
  ⟨rfl, id, fun _ => id⟩

theorem id_eq (h : Kept holder a b) : b.id = a.id := congrArg Session.id h.session

theorem trans (h : Kept holder a b) (h' : Kept holder b c) : Kept holder a c where
  session := h'.session.trans h.session
  isOpen := fun hopen => h.isOpen (h'.isOpen hopen)
  holder := fun hheld hopen => h'.holder (hheld.trans (congrArg some h.id_eq.symm))
    (h.holder hheld hopen)

theorem forget (h : Kept holder a b) : Kept none a b :=
  ⟨h.session, h.isOpen, fun hnone => (by cases hnone)⟩

/-- A change of the queue, the rate or the subscription. -/
theorem of_same (session : b.session = a.session) (isOpen : b.isOpen = a.isOpen) :
    Kept holder a b :=
  ⟨session, fun h => isOpen ▸ h, fun _ h => isOpen ▸ h⟩

end Kept

/-- A bus stays bound as it is: same mapping, same resolution, same worker on the same
interface with the same link. -/
structure SlotKept (slot next : BusSlot) : Prop where
  mapping : next.mapping = slot.mapping
  resolution : next.adapter.resolution = slot.adapter.resolution
  started : next.adapter.workerStarted = slot.adapter.workerStarted
  boundInterface : next.adapter.boundInterface = slot.adapter.boundInterface
  boundIdPath : next.adapter.boundIdPath = slot.adapter.boundIdPath
  interfaceName : next.bus.interfaceName = slot.bus.interfaceName
  running : next.bus.running = slot.bus.running
  linkUp : next.bus.linkUp = slot.bus.linkUp

theorem SlotKept.refl (slot : BusSlot) : SlotKept slot slot :=
  ⟨rfl, rfl, rfl, rfl, rfl, rfl, rfl, rfl⟩

theorem SlotKept.trans {a b c : BusSlot} (h : SlotKept a b) (h' : SlotKept b c) :
    SlotKept a c :=
  ⟨h'.mapping.trans h.mapping, h'.resolution.trans h.resolution, h'.started.trans h.started,
    h'.boundInterface.trans h.boundInterface, h'.boundIdPath.trans h.boundIdPath,
    h'.interfaceName.trans h.interfaceName, h'.running.trans h.running,
    h'.linkUp.trans h.linkUp⟩

/-- Every bus stays bound as it is. -/
def SlotsKept (slots next : List BusSlot) : Prop := Forall₂ SlotKept slots next

theorem SlotsKept.refl (slots : List BusSlot) : SlotsKept slots slots :=
  forall₂_of_refl SlotKept.refl slots

theorem SlotsKept.trans {a b c : List BusSlot} (h : SlotsKept a b) (h' : SlotsKept b c) :
    SlotsKept a c :=
  forall₂_compose h h' fun _ _ _ => SlotKept.trans

namespace Daemon

/-! ### The two relations -/

/-- Every started bus has the gate's epoch, and permission only if the gate enables
outputs. -/
def Synced (d : Daemon) : Prop :=
  ∀ slot ∈ d.slots, slot.adapter.workerStarted = true →
    slot.bus.safetyEpoch = d.safety.epoch ∧
      (slot.bus.outputsPermitted = true → d.safety.outputsEnabled = true)

/-- How the state evolves: `k` epoch advances, the lease kept when there were none and
dropped otherwise. -/
structure Evolves (d d' : Daemon) : Prop where
  configuration : d'.configuration = d.configuration
  issued : d'.nextClientId = d.nextClientId ∧ d'.accepted = d.accepted
  slots : SlotsKept d.slots d'.slots
  clients : Forall₂ (Kept d'.safety.controllerId) d.clients d'.clients
  lease : ∃ k, d'.advances = d.advances + k ∧
    d'.safety.epoch = nextEpoch^[k] d.safety.epoch ∧
    d'.safety.controllerId = if k = 0 then d.safety.controllerId else none

/-- An evolution that keeps the started buses in step with the gate. -/
structure Moves (d d' : Daemon) : Prop extends Evolves d d' where
  synced : d.Synced → d'.Synced

/-- **Pushing the gate's state to the buses** puts them in step with it, whatever they
were before. -/
theorem synced_applySafetyToBuses (env : LoopEnv) (d : Daemon) :
    (d.applySafetyToBuses env).Synced := by
  intro slot hslot _
  obtain ⟨index, hindex, rfl⟩ := List.mem_mapIdx.mp hslot
  refine ⟨rfl, fun hpermitted => ?_⟩
  have hboth := Bool.and_eq_true_iff.mp hpermitted
  exact hboth.1

/-- It leaves their workers alone. -/
theorem slotsKept_applySafetyToBuses (env : LoopEnv) (d : Daemon) :
    SlotsKept d.slots (d.applySafetyToBuses env).slots := by
  have kept : ∀ (f : ℕ → BusSlot → BusSlot) (slots : List BusSlot),
      (∀ index slot, SlotKept slot (f index slot)) → SlotsKept slots (slots.mapIdx f) := by
    intro f slots hf
    induction slots generalizing f with
    | nil => exact .nil
    | cons slot slots ih =>
      rw [List.mapIdx_cons]
      exact .cons (hf 0 slot) (ih _ fun index => hf (index + 1))
  exact kept _ _ fun _ _ => ⟨rfl, rfl, rfl, rfl, rfl, rfl, rfl, rfl⟩

namespace Evolves

variable {a b c d d' : Daemon}

/-- A change outside the connections and the gate. -/
theorem of_same (configuration : d'.configuration = d.configuration)
    (issued : d'.nextClientId = d.nextClientId ∧ d'.accepted = d.accepted)
    (slots : SlotsKept d.slots d'.slots)
    (clients : d'.clients = d.clients) (advances : d'.advances = d.advances)
    (epoch : d'.safety.epoch = d.safety.epoch)
    (holder : d'.safety.controllerId = d.safety.controllerId) : Evolves d d' :=
  ⟨configuration, issued, slots, clients ▸ forall₂_of_refl (Kept.refl _) _, 0, advances, epoch, holder⟩

theorem refl (d : Daemon) : Evolves d d := of_same rfl ⟨rfl, rfl⟩ (.refl _) rfl rfl rfl rfl

theorem trans (h : Evolves a b) (h' : Evolves b c) : Evolves a c := by
  obtain ⟨k, hadvances, hepoch, hholder⟩ := h.lease
  obtain ⟨k', hadvances', hepoch', hholder'⟩ := h'.lease
  refine ⟨h'.configuration.trans h.configuration,
    ⟨h'.issued.1.trans h.issued.1, h'.issued.2.trans h.issued.2⟩, h.slots.trans h'.slots, ?_,
    k + k', by omega, ?_, ?_⟩
  · -- a lease that was dropped on the way protects nobody
    by_cases hk' : k' = 0
    · rw [if_pos hk'] at hholder'
      have hclients := h.clients
      rw [← hholder'] at hclients
      exact forall₂_compose hclients h'.clients fun _ _ _ => Kept.trans
    · have hclients := h'.clients
      rw [hholder', if_neg hk'] at hclients ⊢
      exact forall₂_compose h.clients hclients fun _ _ _ hxy hyz => hxy.forget.trans hyz
  · rw [hepoch', hepoch, Nat.add_comm, Function.iterate_add_apply]
  · rw [hholder', hholder]
    by_cases hk' : k' = 0
    · simp [hk']
    · simp [hk']

/-- The lease is dropped, and any connection may have been closed. -/
theorem of_dropped (configuration : d'.configuration = d.configuration)
    (issued : d'.nextClientId = d.nextClientId ∧ d'.accepted = d.accepted)
    (slots : SlotsKept d.slots d'.slots) (clients : Forall₂ (Kept none) d.clients d'.clients) (advances : d'.advances = d.advances + 1)
    (gate : d'.safety = d.safety.dropControllerAndAdvanceEpoch.2) : Evolves d d' where
  configuration := configuration
  issued := issued
  slots := slots
  clients := by
    rw [gate]
    exact clients
  lease := ⟨1, advances, by rw [gate]; rfl, by rw [gate]; rfl⟩

/-- An evolution followed by a push to the buses moves. -/
theorem apply (h : Evolves a b) (env : LoopEnv) : Moves a (b.applySafetyToBuses env) where
  toEvolves := h.trans (of_same rfl ⟨rfl, rfl⟩ (slotsKept_applySafetyToBuses env b) rfl rfl rfl rfl)
  synced := fun _ => synced_applySafetyToBuses env b

end Evolves

namespace Moves

variable {a b c d d' : Daemon}

theorem refl (d : Daemon) : Moves d d := ⟨.refl d, id⟩

theorem trans (h : Moves a b) (h' : Moves b c) : Moves a c :=
  ⟨h.toEvolves.trans h'.toEvolves, fun hs => h'.synced (h.synced hs)⟩

/-- A change that touches neither the connections nor the gate, nor the binding of a bus
and what it was told. -/
theorem of_slots {slots : List BusSlot}
    (kept : Forall₂ (fun slot next : BusSlot => SlotKept slot next ∧
      next.bus.safetyEpoch = slot.bus.safetyEpoch ∧
      (next.bus.outputsPermitted = true → slot.bus.outputsPermitted = true)) d.slots slots) :
    Moves d { d with slots := slots } where
  toEvolves := .of_same rfl ⟨rfl, rfl⟩ (kept.imp fun _ _ h => h.1) rfl rfl rfl rfl
  synced := by
    intro hsynced next hnext hstarted
    obtain ⟨slot, hslot, hkept, hepoch, hpermitted⟩ := exists_left_of_forall₂ kept hnext
    obtain ⟨hslot_epoch, hslot_permitted⟩ := hsynced slot hslot (hkept.started ▸ hstarted)
    exact ⟨hepoch.trans hslot_epoch, fun h => hslot_permitted (hpermitted h)⟩

/-- A change of one connection's queue, rate or subscription. -/
theorem updateClient (d : Daemon) (index : ℕ) {f : ClientConnection → ClientConnection}
    (session : ∀ client, (f client).session = client.session)
    (isOpen : ∀ client, (f client).isOpen = client.isOpen) : Moves d (d.updateClient index f) where
  configuration := rfl
  issued := ⟨rfl, rfl⟩
  slots := .refl _
  clients := forall₂_modify (Kept.refl _) fun client _ =>
    .of_same (session client) (isOpen client)
  lease := ⟨0, rfl, rfl, rfl⟩
  synced := id

theorem ticked (d : Daemon) : Moves d d.ticked :=
  ⟨.of_same rfl ⟨rfl, rfl⟩ (.refl _) rfl rfl rfl rfl, id⟩

theorem updateInputPublicationDemand (d : Daemon) : Moves d d.updateInputPublicationDemand :=
  .of_slots (List.forall₂_map_right_iff.mpr
    (forall₂_of_refl (fun _ => ⟨⟨rfl, rfl, rfl, rfl, rfl, rfl, rfl, rfl⟩, rfl, id⟩) _))

/-- A loop whose every turn moves. -/
theorem foldl {α : Type*} {f : Daemon → α → Daemon} (turn : ∀ d x, Moves d (f d x))
    (xs : List α) (d : Daemon) : Moves d (xs.foldl f d) := by
  induction xs generalizing d with
  | nil => exact .refl d
  | cons x xs ih => exact (turn d x).trans (ih (f d x))

end Moves

/-! ### Operations of the gate -/

/-- An operation other than an acquisition evolves. -/
theorem Evolves.react (d : Daemon) {op : GateOp}
    (notAcquire : ∀ clientId peerPid now, op ≠ .acquire clientId peerPid now) :
    Evolves d (d.react op).2 := by
  have heffect := d.safety.react_effect op
  simp only [Daemon.react]
  generalize d.safety.react op = answer at heffect ⊢
  cases heffect with
  | dropped op =>
    exact .of_dropped rfl ⟨rfl, rfl⟩ (.refl _) (forall₂_of_refl (Kept.refl _) _) rfl rfl
  | acquired => exact absurd rfl (notAcquire _ _ _)
  | enabled held answer epoch holder =>
    exact .of_same rfl ⟨rfl, rfl⟩ (.refl _) rfl (by simp [answer.2]) epoch holder
  | idle answer epoch holder =>
    exact .of_same rfl ⟨rfl, rfl⟩ (.refl _) rfl (by simp [answer]) epoch holder

/-- An operation that neither advances the epoch nor answers an acquisition or an enable
leaves the buses in step. -/
theorem Moves.react (d : Daemon) {op : GateOp}
    (notAcquire : ∀ clientId peerPid now, op ≠ .acquire clientId peerPid now)
    (notEnable : ∀ clientId epoch healthy now,
      op ≠ .setOutputEnabled clientId epoch true healthy now)
    (unchanged : (d.react op).1.epochChanged = false) : Moves d (d.react op).2 where
  toEvolves := .react d notAcquire
  synced := by
    have heffect := d.safety.react_effect op
    simp only [Daemon.react] at unchanged ⊢
    generalize d.safety.react op = answer at heffect unchanged ⊢
    cases heffect with
    | dropped op => cases unchanged
    | acquired => exact absurd rfl (notAcquire _ _ _)
    | enabled => exact absurd rfl (notEnable _ _ _ _)
    | idle answer epoch holder enabled =>
      intro hsynced slot hslot hstarted
      obtain ⟨hepoch, hpermitted⟩ := hsynced slot hslot hstarted
      exact ⟨hepoch.trans epoch.symm, fun h => enabled.trans (hpermitted h)⟩

/-! ### Queueing and closing -/

section Queueing

variable {close : Daemon → ℕ → Daemon} (closing : ∀ d index, Moves d (close d index))
  (env : LoopEnv)

include closing

theorem dropFrame_moves (d : Daemon) (index : ℕ) : Moves d (dropFrame close env d index) := by
  have hdropped : Moves d (d.ticked.updateClient index (·.dropOptional (env.now d.tick))) :=
    (Moves.ticked d).trans (.updateClient _ index (fun _ => rfl) fun _ => rfl)
  unfold dropFrame
  dsimp only
  split
  · exact hdropped.trans (closing _ index)
  · exact hdropped

theorem queueSharedFrame_moves (d : Daemon) (index : ℕ) (frame : Bytes) (required : Bool) :
    Moves d (queueSharedFrame close env d index frame required).2 := by
  unfold queueSharedFrame
  split
  · exact .refl d
  · split
    · cases required with
      | true => exact closing d index
      | false => exact dropFrame_moves closing env d index
    · exact .updateClient d index (fun _ => rfl) fun _ => rfl

theorem broadcastWith_moves (frame : Bytes) (d : Daemon) :
    Moves d (broadcastWith close env frame d) := by
  refine .foldl (fun d index => ?_) _ d
  split
  · exact queueSharedFrame_moves closing env d index frame false
  · exact .refl d

end Queueing

/-- A connection that does not hold the lease is shut. -/
theorem shut_moves {d : Daemon} {index : ℕ}
    (other : ∀ client, d.clients[index]? = some client →
      d.safety.controllerId ≠ some client.id) : Moves d (d.updateClient index (·.shut)) where
  configuration := rfl
  issued := ⟨rfl, rfl⟩
  slots := .refl _
  clients := forall₂_modify (Kept.refl _) fun client hclient =>
    ⟨rfl, fun hopen => (by cases hopen), fun hheld => absurd hheld (other client hclient)⟩
  lease := ⟨0, rfl, rfl, rfl⟩
  synced := id

/-- The holder is shut and its lease dropped. -/
theorem shut_holder_evolves {d : Daemon} {index : ℕ} {id : ClientId}
    (held : d.safety.controllerId = some id) :
    Evolves d (((d.updateClient index (·.shut)).updateInputPublicationDemand.react
      (.disconnect id)).2) := by
  have hgate : d.safety.react (.disconnect id) = d.safety.dropControllerAndAdvanceEpoch :=
    SafetyGate.disconnect_of_holder held
  have hslots := (Moves.updateInputPublicationDemand (d.updateClient index (·.shut))).slots
  refine .of_dropped rfl ⟨rfl, rfl⟩ hslots ?_ ?_ (congrArg Prod.snd hgate)
  · exact forall₂_modify (Kept.refl _) fun client _ =>
      ⟨rfl, fun hopen => (by cases hopen), fun hnone => (by cases hnone)⟩
  · change d.advances + (if (d.safety.react (.disconnect id)).1.epochChanged then 1 else 0) = _
    rw [hgate]
    rfl

/-- **Closing a connection moves**: a holder that is closed loses the lease with it. -/
theorem closeClientWithin_moves (env : LoopEnv) (fuel : ℕ) (d : Daemon) (index : ℕ) :
    Moves d (closeClientWithin env fuel d index) := by
  induction fuel generalizing d index with
  | zero => exact .refl d
  | succ fuel ih =>
    unfold closeClientWithin
    split
    · exact .refl d
    · rename_i client hclient
      split
      · exact .refl d
      · dsimp only
        split
        · rename_i hheld
          have hshut : Evolves d (((d.updateClient index
              (·.shut)).updateInputPublicationDemand.react (.disconnect client.id)).2) :=
            shut_holder_evolves hheld
          have hchanged : ((d.updateClient index
              (·.shut)).updateInputPublicationDemand.react
                (.disconnect client.id)).1.epochChanged = true :=
            congrArg (·.1.epochChanged) (SafetyGate.disconnect_of_holder hheld)
          rw [if_pos hchanged]
          exact (hshut.apply env).trans (broadcastWith_moves ih env _ _)
        · rename_i hother
          refine (shut_moves fun found hfound => ?_).trans (.updateInputPublicationDemand _)
          cases hclient.symm.trans hfound
          exact hother

theorem closeClient_moves (env : LoopEnv) (d : Daemon) (index : ℕ) :
    Moves d (closeClient env d index) :=
  closeClientWithin_moves env _ d index

theorem broadcastOutputsDisabled_moves (env : LoopEnv) (d : Daemon) (reason : DisableReason)
    (busIndex : UInt16) : Moves d (d.broadcastOutputsDisabled env reason busIndex) :=
  broadcastWith_moves (closeClient_moves env) env _ d

theorem queueFrame_moves (env : LoopEnv) (d : Daemon) (index : ℕ) (frame : Bytes)
    (required : Bool) : Moves d (d.queueFrame env index frame required).2 := by
  unfold queueFrame
  split
  · cases required with
    | true => exact (Moves.ticked d).trans (closeClient_moves env _ index)
    | false => exact .ticked d
  · exact (Moves.ticked d).trans (queueSharedFrame_moves (closeClient_moves env) env _ _ _ _)

theorem queueAck_moves (env : LoopEnv) (d : Daemon) (index : ℕ) (type : MessageType)
    (requestId : UInt32) (status : AckStatus) (detail : UInt32) (required : Bool) :
    Moves d (d.queueAck env index type requestId status detail required).2 :=
  queueFrame_moves env d index _ required

theorem queueFramesAtomically_moves (env : LoopEnv) (d : Daemon) (index : ℕ)
    (frames : List Bytes) (totalBytes : ℕ) :
    Moves d (d.queueFramesAtomically env index frames totalBytes).2 := by
  unfold queueFramesAtomically
  split
  · exact .refl d
  · split
    · exact dropFrame_moves (closeClient_moves env) env d index
    · exact .updateClient d index (fun _ => rfl) fun _ => rfl

theorem flushClient_moves (env : LoopEnv) (index : ℕ) (results : List SendResult) (d : Daemon) :
    Moves d (flushClient env index results d) := by
  induction results generalizing d with
  | nil =>
    unfold flushClient
    split
    · exact .refl d
    · split
      · exact .refl d
      · split
        · exact closeClient_moves env d index
        · exact .refl d
  | cons result rest ih =>
    unfold flushClient
    split
    · exact .refl d
    · split
      · cases result with
        | interrupted => exact ih d
        | failed => exact closeClient_moves env d index
        | sent count =>
          dsimp only
          split
          · exact closeClient_moves env d index
          · refine Moves.trans ?_ (ih _)
            exact .updateClient d index (fun _ => rfl) fun _ => rfl
      · split
        · exact closeClient_moves env d index
        · exact .refl d

/-! ### Epoch changes -/

theorem closeAfterWrite_moves (d : Daemon) (index : ℕ) : Moves d (d.closeAfterWrite index) :=
  .updateClient d index (fun _ => rfl) fun _ => rfl

theorem closeHolderAfterWrite_moves (d : Daemon) (controller : Option ClientId) :
    Moves d (d.closeHolderAfterWrite controller) := by
  unfold closeHolderAfterWrite
  split
  · exact .refl d
  · exact closeAfterWrite_moves d _

theorem advanceEpoch_moves (env : LoopEnv) (d : Daemon) (reason : DisableReason)
    (busIndex : UInt16) : Moves d (d.advanceEpoch env reason busIndex) :=
  have hinvalidated : Evolves d (d.react .invalidate).2 := .react d (by simp)
  ((hinvalidated.apply env).trans (broadcastOutputsDisabled_moves env _ reason busIndex)).trans
    (closeHolderAfterWrite_moves _ _)

end Daemon

end EcSystemCore
