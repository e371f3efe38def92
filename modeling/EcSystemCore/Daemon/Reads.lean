import Mathlib.Logic.Relation
import EcSystemCore.Daemon.Steps

/-!
# What reading a connection can do

A pass over a connection's input is a sequence of small steps (`ReadStep`): the daemon
moves, something is noted on the connection that does not touch its credentials, or an
open connection that has just said its first Hello is greeted.  `readClient_reads` says so
for `ReadClient`, and `step_outcome` what any step of the event loop is; every
invariant of the loop is proved against these.
-/

namespace EcSystemCore

open List (Forall₂)
open Relation (ReflTransGen)

/-- The session still belongs to the same peer, and what it has said stays said. -/
structure Session.SameCredentials (session next : Session) : Prop where
  id : next.id = session.id
  uid : next.uid = session.uid
  peerGroups : next.peerGroups = session.peerGroups
  helloReceived : next.helloReceived = session.helloReceived
  role : next.role = session.role
  handled : session.handled ⊆ next.handled

theorem Session.SameCredentials.refl (session : Session) : session.SameCredentials session :=
  ⟨rfl, rfl, rfl, rfl, rfl, List.Subset.refl _⟩

namespace Daemon

variable {d d' : Daemon} {index : ℕ}

/-- One small step of a pass over a connection's input. -/
inductive ReadStep (index : ℕ) : Daemon → Daemon → Prop
  | moves {d d' : Daemon} (h : Moves d d') : ReadStep index d d'
  | notes {d : Daemon} {f : ClientConnection → ClientConnection}
      (session : ∀ c : ClientConnection, c.session.SameCredentials (f c).session)
      (isOpen : ∀ c : ClientConnection, (f c).isOpen = c.isOpen) :
      ReadStep index d (d.updateClient index f)
  | greets {d d' : Daemon} {client : ClientConnection} {hello : HelloPayload}
      {granted : ClientRole} {frame : Frame} (found : d.clients[index]? = some client)
      (first : client.helloReceived = false) (isOpen : client.isOpen = true)
      (said : frame ∈ client.handled) (type : frame.type = .hello)
      (decoded : decodeHelloPayload frame.payload = some hello)
      (decides : Decides d index client hello granted (·.greet granted) d') :
      ReadStep index d d'

/-- A pass over a connection's input. -/
def Reads (index : ℕ) : Daemon → Daemon → Prop := ReflTransGen (ReadStep index)

theorem Reads.of_moves (h : Moves d d') : Reads index d d' := .single (.moves h)

/-- The connection may be served: a first Hello only reaches an open one. -/
def Ready (d : Daemon) (index : ℕ) : Prop :=
  ∀ client, d.clients[index]? = some client → client.isOpen = true ∨ client.helloReceived = true

/-! ### The token bucket -/

/-- The rate limiter accepts a frame and charges for it, or refuses it and says so. -/
theorem consumeRateToken_cases (env : LoopEnv) {client : ClientConnection}
    (hclient : d.clients[index]? = some client) :
    (∃ f, d.consumeRateToken env index = (true, d.ticked.updateClient index f) ∧
      ∀ c : ClientConnection, (f c).session = c.session ∧ (f c).isOpen = c.isOpen) ∨
    ∃ f, (d.consumeRateToken env index).1 = false ∧
      Moves (d.ticked.updateClient index f) (d.consumeRateToken env index).2 ∧
      ∀ c : ClientConnection, (f c).session = { c.session with refused := true } ∧
        (f c).isOpen = c.isOpen := by
  unfold consumeRateToken
  rw [hclient]
  dsimp only
  split
  · exact .inr ⟨_, rfl, queueAck_moves env _ index _ _ _ _ _, fun c => ⟨rfl, rfl⟩⟩
  · exact .inl ⟨_, rfl, fun c => ⟨rfl, rfl⟩⟩

/-! ### Frames -/

theorem getElem?_updateClient_eq_some {f : ClientConnection → ClientConnection}
    {client : ClientConnection} (hclient : d.clients[index]? = some client) :
    (d.updateClient index f).clients[index]? = some (f client) := by
  rw [getElem?_updateClient, hclient]
  rfl

/-- A connection that keeps its session is found in its place. -/
theorem Evolves.getElem? (h : Evolves d d') {client : ClientConnection}
    (hclient : d.clients[index]? = some client) :
    ∃ next, d'.clients[index]? = some next ∧ Kept d'.safety.controllerId client next := by
  have hflip : Forall₂ (fun next client => Kept d'.safety.controllerId client next)
      d'.clients d.clients := h.clients.flip
  exact getElem?_of_forall₂ hflip hclient

/-- The daemon once a frame's token is paid and the frame is recorded. -/
def charged (env : LoopEnv) (index : ℕ) (frame : Frame) (d : Daemon) : Daemon :=
  (d.consumeRateToken env index).2.updateClient index (recordHandled frame)

/-- The rule for a batch: an invariant over the frames that are left, kept by every frame
that goes on, and what the batch ends in. -/
theorem handleFrames_rule (env : LoopEnv) {I : List Frame → Daemon → Prop}
    {Q : Bool → Daemon → Prop} (done : ∀ d, I [] d → Q true d)
    (refused : ∀ d frame rest, I (frame :: rest) d → (d.consumeRateToken env index).1 = false →
      Q false (d.consumeRateToken env index).2)
    (stops : ∀ d frame rest, I (frame :: rest) d → (d.consumeRateToken env index).1 = true →
      ((d.charged env index frame).handleFrame env index frame).1 = false →
      Q false ((d.charged env index frame).handleFrame env index frame).2)
    (goesOn : ∀ d frame rest, I (frame :: rest) d → (d.consumeRateToken env index).1 = true →
      ((d.charged env index frame).handleFrame env index frame).1 = true →
      I rest ((d.charged env index frame).handleFrame env index frame).2)
    {frames : List Frame} (h : I frames d) :
    Q (handleFrames env index frames d).1 (handleFrames env index frames d).2 := by
  induction frames generalizing d with
  | nil => exact done d h
  | cons frame rest ih =>
    have hunfold : handleFrames env index (frame :: rest) d =
        if (d.consumeRateToken env index).1 = false then
          (false, (d.consumeRateToken env index).2)
        else if ((d.charged env index frame).handleFrame env index frame).1 = false then
          (false, ((d.charged env index frame).handleFrame env index frame).2)
        else handleFrames env index rest
          ((d.charged env index frame).handleFrame env index frame).2 := by
      simp only [handleFrames, charged, Bool.not_eq_true']
      rfl
    rw [hunfold]
    cases haccepted : (d.consumeRateToken env index).1 with
    | false => exact refused d frame rest h haccepted
    | true =>
      rw [if_neg (by simp)]
      cases hgoesOn : ((d.charged env index frame).handleFrame env index frame).1 with
      | false => exact stops d frame rest h haccepted hgoesOn
      | true =>
        rw [if_neg (by simp)]
        exact ih (goesOn d frame rest h haccepted hgoesOn)

/-- One frame, once its token is paid: the pass takes small steps, and a connection that
goes on has completed its Hello. -/
theorem handleFrame_reads (env : LoopEnv) {client : ClientConnection} {frame : Frame}
    (hclient : d.clients[index]? = some client) (hready : d.Ready index)
    (hsaid : frame ∈ client.handled) :
    Reads index d (d.handleFrame env index frame).2 ∧
      ((d.handleFrame env index frame).1 = true →
        (d.handleFrame env index frame).2.Ready index) := by
  have completed : ∀ {m m' : Daemon} {greeted : ClientConnection}, Moves m m' →
      m.clients[index]? = some greeted → greeted.helloReceived = true → m'.Ready index := by
    intro m m' greeted hmoves hgreeted hhello next hnext
    obtain ⟨found, hfound, hkept⟩ := hmoves.toEvolves.getElem? hgreeted
    cases hnext.symm.trans hfound
    exact .inr ((congrArg Session.helloReceived hkept.session).trans hhello)
  cases handleFrame_outcome env hclient frame with
  | answered answers goesOn =>
    exact ⟨.of_moves answers.moves, fun htrue => completed answers.moves hclient (goesOn htrue)⟩
  | @greeted hello granted greeted first type decoded decides answers =>
    have hopen : client.isOpen = true :=
      (hready client hclient).resolve_right (by simp [first])
    refine ⟨.tail (.single (.greets hclient first hopen hsaid type decoded decides))
      (.moves answers.moves), fun _ => ?_⟩
    obtain ⟨f, hf, hsession⟩ := decides.clients
    have hfound : greeted.clients[index]? = some (f client) := by
      rw [hf, List.getElem?_modify_eq, hclient]
      rfl
    exact completed answers.moves hfound (congrArg Session.helloReceived (hsession client).1)

/-- A paid frame is charged for and recorded. -/
theorem charged_reads (env : LoopEnv) {client : ClientConnection} (frame : Frame)
    (hclient : d.clients[index]? = some client)
    (haccepted : (d.consumeRateToken env index).1 = true) :
    Reads index d (d.charged env index frame) ∧
      ∃ next, (d.charged env index frame).clients[index]? = some next ∧
        next.session = (recordHandled frame client).session ∧ next.isOpen = client.isOpen := by
  obtain ⟨f, hconsume, hf⟩ | ⟨f, hfalse, -⟩ := consumeRateToken_cases env hclient
  · rw [charged, hconsume]
    refine ⟨.tail (.tail (Reads.of_moves (.ticked d)) (.notes (fun c => ?_) fun c => (hf c).2))
      (.notes (fun c => ?_) fun c => rfl), recordHandled frame (f client),
      getElem?_updateClient_eq_some (getElem?_updateClient_eq_some hclient), ?_, (hf client).2⟩
    · rw [(hf c).1]
      exact .refl _
    · exact ⟨rfl, rfl, rfl, rfl, rfl, fun x hx => List.mem_append_left _ hx⟩
    · have hsession := (hf client).1
      simp only [ClientConnection.session, Session.mk.injEq] at hsession
      simp [ClientConnection.session, recordHandled, hsession]
  · rw [hfalse] at haccepted
    cases haccepted

/-- A refused frame is answered, and nothing of the connection but the mark changes. -/
theorem refused_reads (env : LoopEnv) (d : Daemon) (index : ℕ)
    (hrefused : (d.consumeRateToken env index).1 = false) :
    Reads index d (d.consumeRateToken env index).2 := by
  cases hclient : d.clients[index]? with
  | none =>
    unfold consumeRateToken
    rw [hclient]
    exact .refl
  | some client =>
    obtain ⟨f, htrue, -⟩ | ⟨f, -, hmoves, hf⟩ := consumeRateToken_cases env hclient
    · rw [htrue] at hrefused
      cases hrefused
    · refine .tail (.tail (Reads.of_moves (.ticked d)) (.notes (fun c => ?_) fun c => (hf c).2))
        (.moves hmoves)
      rw [(hf c).1]
      exact ⟨rfl, rfl, rfl, rfl, rfl, List.Subset.refl _⟩

/-- An accepted frame belongs to a connection. -/
theorem getElem?_of_accepted {env : LoopEnv} (h : (d.consumeRateToken env index).1 = true) :
    ∃ client, d.clients[index]? = some client := by
  cases hclient : d.clients[index]? with
  | none =>
    unfold consumeRateToken at h
    rw [hclient] at h
    cases h
  | some client => exact ⟨client, rfl⟩

/-- One frame of a batch. -/
theorem handled_reads (env : LoopEnv) (frame : Frame) (hready : d.Ready index)
    (haccepted : (d.consumeRateToken env index).1 = true) :
    Reads index d ((d.charged env index frame).handleFrame env index frame).2 ∧
      (((d.charged env index frame).handleFrame env index frame).1 = true →
        ((d.charged env index frame).handleFrame env index frame).2.Ready index) := by
  obtain ⟨client, hclient⟩ := getElem?_of_accepted haccepted
  obtain ⟨hcharged, next, hnext, hsession, hopen⟩ := charged_reads env frame hclient haccepted
  have hhello : next.helloReceived = client.helloReceived :=
    congrArg Session.helloReceived hsession
  have hhandled : next.handled = client.handled ++ [frame] := congrArg Session.handled hsession
  have hready' : (d.charged env index frame).Ready index := by
    intro found hfound
    cases hnext.symm.trans hfound
    exact (hready client hclient).imp (hopen.trans ·) (hhello.trans ·)
  have hsaid : frame ∈ next.handled := by simp [hhandled]
  obtain ⟨hreads, hgoesOn⟩ := handleFrame_reads env hnext hready' hsaid
  exact ⟨hcharged.trans hreads, hgoesOn⟩

/-- A batch of frames is a pass. -/
theorem handleFrames_reads (env : LoopEnv) (frames : List Frame) (hready : d.Ready index) :
    Reads index d (handleFrames env index frames d).2 := by
  refine handleFrames_rule env (I := fun _ m => Reads index d m ∧ m.Ready index)
    (Q := fun _ m => Reads index d m) (fun m h => h.1) ?_ ?_ ?_ ⟨.refl, hready⟩
  · intro m frame rest ⟨hreads, _⟩ hrefused
    exact hreads.trans (refused_reads env m index hrefused)
  · intro m frame rest ⟨hreads, hready⟩ haccepted _
    exact hreads.trans (handled_reads env frame hready haccepted).1
  · intro m frame rest ⟨hreads, hready⟩ haccepted hgoesOn
    have hhandled := handled_reads env frame hready haccepted
    exact ⟨hreads.trans hhandled.1, hhandled.2 hgoesOn⟩

/-- The bytes of one `recv`, on an open connection. -/
theorem readBatch_reads (env : LoopEnv) (bytes : Bytes) (hopen : d.OpenAt index) :
    Reads index d (readBatch env index bytes d).2 := by
  obtain ⟨client, hclient, hisOpen⟩ := hopen
  unfold readBatch
  rw [hclient]
  dsimp only
  generalize client.decoder.feed bytes = fed
  obtain ⟨decoded, frames, decoder⟩ := fed
  dsimp only
  have hfed : ReadStep index d (d.updateClient index fun client =>
      { client with decoder := decoder, received := client.received ++ bytes }) :=
    .notes (fun _ => ⟨rfl, rfl, rfl, rfl, rfl, List.Subset.refl _⟩) fun _ => rfl
  split
  · exact .tail (.single hfed) (.moves (closeClient_moves env _ index))
  · refine ReflTransGen.trans (.single hfed) (handleFrames_reads env frames ?_)
    intro found hfound
    cases (getElem?_updateClient_eq_some hclient).symm.trans hfound
    exact .inl hisOpen

/-- **A pass over a connection's input takes small steps only.** -/
theorem readClient_reads (env : LoopEnv) (totalRead : ℕ) (results : List RecvResult) :
    Reads index d (readClient env index totalRead results d) := by
  induction results generalizing d totalRead with
  | nil => exact .refl
  | cons result rest ih =>
    have hclose : Reads index d (closeClient env d index) :=
      .of_moves (closeClient_moves env d index)
    unfold readClient
    split
    · exact hclose
    · rename_i hopen
      have hopen : d.OpenAt index := by simpa [OpenAt, Option.any_eq_true] using hopen
      match result with
      | .interrupted => exact ih totalRead
      | .failed => exact hclose
      | .data [] => exact hclose
      | .data (byte :: bytes) =>
        have hbatch := readBatch_reads env (byte :: bytes) hopen
        dsimp only
        split
        · exact hbatch
        · exact hbatch.trans (ih _)

/-! ### Any step of the loop -/

/-- Advancing the epoch takes the lease from whoever held it. -/
theorem advanceEpoch_drops (env : LoopEnv) (d : Daemon) (reason : DisableReason)
    (busIndex : UInt16) : (d.advanceEpoch env reason busIndex).safety.controllerId = none ∧
      d.advances < (d.advanceEpoch env reason busIndex).advances := by
  have hdropped : (d.react .invalidate).2.safety.controllerId = none := rfl
  have hadvanced : (d.react .invalidate).2.advances = d.advances + 1 := rfl
  have hafter : Evolves (d.react .invalidate).2 (d.advanceEpoch env reason busIndex) :=
    (((Evolves.refl _).apply env).trans
      ((broadcastOutputsDisabled_moves env _ reason busIndex).trans
        (closeHolderAfterWrite_moves _ _))).toEvolves
  obtain ⟨k, hadvances, _, hholder⟩ := hafter.lease
  rw [hdropped, ite_self] at hholder
  exact ⟨hholder, by omega⟩

/-- A lease nobody holds stays free while the daemon only evolves. -/
theorem Evolves.free (h : Evolves d d') (hfree : d.safety.controllerId = none) :
    d'.safety.controllerId = none := by
  obtain ⟨k, _, _, hholder⟩ := h.lease
  rwa [hfree, ite_self] at hholder

/-- What one step of the event loop is. -/
inductive StepOutcome (d : Daemon) : Daemon → Prop
  | moves {d' : Daemon} (h : Moves d d') : StepOutcome d d'
  | scans (env : LoopEnv) (initial : Bool) (identities : List AdapterIdentity) :
      StepOutcome d { d.scanAdapters env initial identities with forceAdapterScan := false }
  | reads (env : LoopEnv) (index : ℕ) (results : List RecvResult) :
      StepOutcome d (readClient env index 0 results d)
  | accepts {client : ClientConnection}
      (id : client.id = if d.nextClientId = 0 then 1 else d.nextClientId)
      (fresh : client.helloReceived = false ∧ client.decoder = {} ∧ client.received = [] ∧
        client.handled = [] ∧ client.refused = false ∧ client.handledAfterRefusal = false) :
      StepOutcome d { d.ticked with
        clients := d.clients ++ [client], nextClientId := client.id + 1
        accepted := d.accepted + 1 }
  | removes : StepOutcome d d.removeClosedClients
  | stops {m d' : Daemon} (h : Evolves d m) (dropped : m.safety.controllerId = none)
      (advanced : d.advances < m.advances) (gate : d'.safety = m.safety)
      (issued : d'.nextClientId = m.nextClientId ∧ d'.accepted = m.accepted)
      (advances : d'.advances = m.advances) (clients : d'.clients = []) (synced : d'.Synced)
      (shutdown : d'.shutdown = true) :
      StepOutcome d d'

theorem stop_outcome (env : LoopEnv) (flushes : List (ℕ × List SendResult)) (d : Daemon) :
    StepOutcome d (d.stop env flushes) := by
  have hstep : ∀ (m : Daemon) (flush : ℕ × List SendResult), Moves m
      (if (m.clients[flush.1]?).any fun client => client.isOpen && !client.outgoing.isEmpty then
        flushClient env flush.1 flush.2 m else m) := by
    intro m flush
    split
    · exact flushClient_moves env flush.1 flush.2 m
    · exact .refl m
  have hflushed := Moves.foldl hstep flushes (d.advanceEpoch env .shutdown 0xffff)
  obtain ⟨hdropped, hadvanced⟩ := advanceEpoch_drops env d .shutdown 0xffff
  obtain ⟨k, hadvances, -⟩ := hflushed.lease
  refine .stops ((advanceEpoch_moves env d .shutdown 0xffff).trans hflushed).toEvolves
    (hflushed.toEvolves.free hdropped) (by omega) rfl ⟨rfl, rfl⟩ rfl rfl ?_ rfl
  intro slot hslot _
  obtain ⟨old, _, rfl⟩ := List.mem_map.mp hslot
  exact ⟨rfl, fun hpermitted => by cases hpermitted⟩

theorem acceptClient_outcome (env : LoopEnv) (credentials : Option PeerCredentials)
    (d : Daemon) : StepOutcome d (d.acceptClient env credentials) := by
  unfold acceptClient
  split
  · exact .moves (.refl d)
  · split
    · exact .moves (.refl d)
    · exact .accepts rfl ⟨rfl, rfl, rfl, rfl, rfl, rfl⟩

/-- A step is only taken while the loop runs. -/
theorem running_of_step {label : LoopEnv × LoopStep} (h : d.step label = some d') :
    d.shutdown = false := by
  unfold Daemon.step at h
  split at h
  · cases h
  · rename_i hnot
    exact Bool.eq_false_iff.mpr hnot

/-- **Any step of the event loop** moves the daemon, is a scan or a pass over a connection's
input, takes a connection in, forgets the closed ones, or ends the loop. -/
theorem step_outcome {label : LoopEnv × LoopStep} (h : d.step label = some d') :
    StepOutcome d d' := by
  unfold step at h
  split at h
  · cases h
  · cases h
    obtain ⟨env, label⟩ := label
    cases label with
    | scanAdapters initial identities => exact .scans env initial identities
    | handleBusFaults => exact .moves (handleBusFaults_moves env d)
    | handleSafetyTimeouts now => exact .moves (handleSafetyTimeouts_moves env now d)
    | drainInputs now publications =>
      exact .moves (.foldl (publishInputs_moves env now) publications d)
    | broadcastStatus status =>
      exact .moves (broadcastWith_moves (closeClient_moves env) env status d)
    | broadcastBusInformation information =>
      exact .moves (.foldl (fun m frame =>
        broadcastWith_moves (closeClient_moves env) env frame m) information d)
    | configurationChanged => exact .moves (advanceEpoch_moves env d .reinitialization 0xffff)
    | acceptClient credentials => exact acceptClient_outcome env credentials d
    | readClient index results => exact .reads env index results
    | flushClient index results => exact .moves (flushClient_moves env index results d)
    | closeClient index => exact .moves (closeClient_moves env d index)
    | removeClosedClients => exact .removes
    | workerRevokes bus =>
      exact .moves (.of_slots (forall₂_modify (fun slot => ⟨.refl slot, rfl, id⟩) fun slot _ =>
        ⟨⟨rfl, rfl, rfl, rfl, rfl, rfl, rfl, rfl⟩, rfl, fun hrevoked => by cases hrevoked⟩))
    | stop flushes => exact stop_outcome env flushes d

end Daemon

end EcSystemCore
