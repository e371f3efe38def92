import EcSystemCore.Client.Steps

/-!
# The sessions of the C++ client

The epoch of a session is that of the HelloAck, and a HelloAck is accepted at any time: the
request id it is checked against stays when the session has begun.  As long as none comes
while the client is connected, outputs are enabled only in a session with a controller, and
all requests of the session carry its epoch (`session_epoch`).  Received data is not cleared
by `Disconnect`, nor when the controller role is denied.  As long as no HelloAck finds data
of another epoch, what the client holds while it is connected is of its session
(`held_of_session`).
-/

namespace EcSystemCore.ClientImplementation

open Execution Relation

/-! ### One epoch for a session -/

/-- No HelloAck is accepted while the client is connected. -/
def NoneRegreeted (log : List SocketEvent) : Prop :=
  ∀ held epoch, .greeted true held epoch ∉ log

instance (log : List SocketEvent) : Decidable (NoneRegreeted log) :=
  decidable_of_iff (log.all fun event => match event with
      | .greeted connected _ _ => !connected
      | _ => true) <| by
    rw [List.all_eq_true]
    refine ⟨fun h _ _ hmem => Bool.noConfusion (h _ hmem), fun h event hmem => ?_⟩
    cases event with
    | greeted connected held epoch =>
      cases connected with
      | false => rfl
      | true => exact absurd hmem (h held epoch)
    | _ => rfl

/-- The frames of a log of `sockets` sockets carry the epochs of their sessions, and a socket
has one session at most. -/
structure Carried (sockets : ℕ) (log : List SocketEvent) : Prop where
  known : ∀ socket epoch, .established socket epoch ∈ log → socket < sockets
  unique : ∀ socket epoch other, .established socket epoch ∈ log →
    .established socket other ∈ log → other = epoch
  carried : ∀ socket frame epoch, .queued socket frame ∈ log → carriedEpoch frame = some epoch →
    .established socket epoch ∈ log

/-- The flags of the client, and the session it is in. -/
structure Session (log : List SocketEvent) (client : ClientImplementation) : Prop where
  carried : Carried client.sockets log
  flags : client.outputsEnabled = true →
    client.connected = true ∧ client.controllerGranted = true ∧ client.epoch ≠ 0
  current : client.connected = true →
    ∃ socket, client.descriptor = some socket ∧ .established socket client.epoch ∈ log

namespace Carried

variable {sockets : ℕ} {log : List SocketEvent}

/-- Events other than those of `Queue` and of the beginning of a session. -/
theorem append (h : Carried sockets log) {events : List SocketEvent} {more : ℕ}
    (hmore : sockets ≤ more) (hestablished : ∀ socket epoch, .established socket epoch ∉ events)
    (hqueued : ∀ socket frame, .queued socket frame ∈ events → carriedEpoch frame = none) :
    Carried more (log ++ events) := by
  have hold : ∀ {socket epoch}, .established socket epoch ∈ log ++ events →
      .established socket epoch ∈ log := fun hmem =>
    (List.mem_append.mp hmem).resolve_right (hestablished _ _)
  refine ⟨fun socket epoch hmem => Nat.lt_of_lt_of_le (h.known socket epoch (hold hmem)) hmore,
    fun socket epoch other hmem hother => h.unique socket epoch other (hold hmem) (hold hother),
    fun socket frame epoch hmem hcarried => ?_⟩
  rcases List.mem_append.mp hmem with hmem | hmem
  · exact List.mem_append_left _ (h.carried socket frame epoch hmem hcarried)
  · rw [hqueued socket frame hmem] at hcarried
    cases hcarried

end Carried

/-! ### What the moves keep -/

section

variable {client next : ClientImplementation}

theorem advance_members (client : ClientImplementation) (socket : ℕ) (frame : Bytes)
    (frames : List Bytes) (count : ℕ) :
    (client.advance socket frame frames count).sockets = client.sockets ∧
      (client.advance socket frame frames count).toCppClient = client.toCppClient ∧
      (client.advance socket frame frames count).connected = client.connected ∧
      (client.advance socket frame frames count).descriptor = client.descriptor ∧
      (client.advance socket frame frames count).held = client.held := by
  unfold advance
  dsimp only
  split_ifs <;> exact ⟨rfl, rfl, rfl, rfl, rfl⟩

theorem Move.sockets (h : Move client next) : next.sockets = client.sockets := by
  cases h with
  | live hlive =>
    cases hlive with
    | quiet hquiet => exact hquiet.sockets
    | greeted hgreeted => exact hgreeted.sockets
    | sent _ _ _ _ => exact (advance_members ..).1
  | invalidated => rfl
  | disconnected => rfl

theorem Moves.sockets (h : Moves client next) : next.sockets = client.sockets := by
  induction h with
  | refl => rfl
  | tail _ hmove ih => exact hmove.sockets.trans ih

/-- Nothing is taken from the log. -/
theorem Move.log_extends (h : Move client next) : client.log <+: next.log := by
  obtain ⟨events, hlog, -⟩ := h.log
  exact ⟨events, hlog.symm⟩

theorem Moves.log_extends (h : Moves client next) : client.log <+: next.log := by
  obtain ⟨events, hlog, -⟩ := Moves.log h
  exact ⟨events, hlog.symm⟩

theorem mem_of_extends {past : List SocketEvent} {event : SocketEvent}
    (hextends : client.log <+: next.log) (hmem : event ∈ past ++ client.log) :
    event ∈ past ++ next.log :=
  List.mem_append.mpr ((List.mem_append.mp hmem).imp_right fun hmem => hextends.subset hmem)

/-- Serving the socket enables nothing. -/
theorem Lives.outputsEnabled (h : Lives client next) (henabled : next.outputsEnabled = true) :
    client.outputsEnabled = true := by
  induction h with
  | refl => exact henabled
  | tail _ hlive ih =>
    refine ih ?_
    cases hlive with
    | quiet hquiet => exact hquiet.outputsEnabled henabled
    | greeted hgreeted => exact absurd (hgreeted.outputsEnabled.symm.trans henabled) nofun
    | sent _ _ _ _ => rwa [(advance_members _ _ _ _ _).2.1] at henabled

/-- A session that goes on without another HelloAck keeps its epoch and its role. -/
theorem Lives.kept (h : Lives client next) (hconnected : client.connected = true)
    (hnone : NoneRegreeted next.log) :
    next.connected = true ∧ next.controllerGranted = client.controllerGranted ∧
      next.epoch = client.epoch := by
  induction h with
  | refl => exact ⟨hconnected, rfl, rfl⟩
  | tail _ hlive ih =>
    rename_i middle last _
    have hbefore : NoneRegreeted middle.log := fun held epoch hmem =>
      hnone held epoch ((Move.live hlive).log_extends.subset hmem)
    obtain ⟨hconnected, hgranted, hepoch⟩ := ih hbefore
    cases hlive with
    | quiet hquiet =>
      exact ⟨hquiet.connected.trans hconnected, hquiet.controllerGranted.trans hgranted,
        hquiet.epoch.trans hepoch⟩
    | greeted hgreeted =>
      refine absurd ?_ (hnone middle.held last.epoch)
      rw [hgreeted.log, hconnected]
      exact List.mem_append_right _ (List.mem_singleton_self _)
    | sent _ _ _ _ =>
      obtain ⟨-, hcpp, hsame, -, -⟩ := advance_members middle _ _ _ _
      rw [hsame, hcpp]
      exact ⟨hconnected, hgranted, hepoch⟩

theorem Step.log_extends {builds : Bytes → Prop} (h : Step builds client next) :
    client.log <+: next.log := by
  cases h with
  | move hmove => exact hmove.log_extends
  | closed => exact List.prefix_append _ _
  | opened => exact List.prefix_append _ _
  | introduced => exact (List.prefix_append _ _).trans (List.prefix_append _ _)
  | established _ _ _ hlives =>
    exact ((List.prefix_append _ _).trans (List.prefix_append _ _)).trans
      ((Moves.log_extends hlives.moves).trans (List.prefix_append _ _))
  | requested => exact List.prefix_append _ _
  | enabled _ _ _ _ _ hlives => exact (List.prefix_append _ _).trans (Moves.log_extends hlives.moves)
  | released => exact List.prefix_rfl
  | left => exact List.prefix_append _ _

end

/-! ### One epoch for a session, step by step -/

namespace Session

variable {past : List SocketEvent} {client next : ClientImplementation}

theorem carried_moves (h : Carried client.sockets (past ++ client.log))
    (hmoves : Moves client next) : Carried next.sockets (past ++ next.log) := by
  obtain ⟨events, hlog, hall⟩ := Moves.log hmoves
  rw [hlog, ← List.append_assoc, Moves.sockets hmoves]
  refine h.append (Nat.le_refl _) (fun socket epoch hmem => ?_) (fun socket frame hmem => ?_)
  · cases hall _ hmem with
    | serving hserving => cases hserving
  · cases hall _ hmem with
    | serving hserving => cases hserving

theorem move (h : Session (past ++ client.log) client) (hmove : Move client next)
    (hnone : NoneRegreeted (past ++ next.log)) : Session (past ++ next.log) next := by
  refine ⟨carried_moves h.carried (.single hmove), ?_, ?_⟩
  · cases hmove with
    | live hlive =>
      cases hlive with
      | quiet hquiet =>
        rw [hquiet.connected, hquiet.controllerGranted, hquiet.epoch]
        exact fun henabled => h.flags (hquiet.outputsEnabled henabled)
      | greeted hgreeted =>
        rw [hgreeted.outputsEnabled]
        nofun
      | sent _ _ _ _ =>
        obtain ⟨-, hcpp, hconnected, -, -⟩ := advance_members client _ _ _ _
        rw [hcpp, hconnected]
        exact h.flags
    | invalidated => nofun
    | disconnected => nofun
  · intro hconnected
    have hstays : ∀ {socket}, .established socket client.epoch ∈ past ++ client.log →
        .established socket client.epoch ∈ past ++ next.log :=
      mem_of_extends hmove.log_extends
    cases hmove with
    | live hlive =>
      cases hlive with
      | quiet hquiet =>
        obtain ⟨socket, hdescriptor, hmem⟩ := h.current (hquiet.connected.symm.trans hconnected)
        exact ⟨socket, hquiet.descriptor.trans hdescriptor, hquiet.epoch ▸ hstays hmem⟩
      | greeted hgreeted =>
        refine absurd ?_ (hnone client.held next.epoch)
        rw [hgreeted.log, hgreeted.connected.symm.trans hconnected]
        exact List.mem_append_right _ (List.mem_append_right _ (List.mem_singleton_self _))
      | sent _ _ _ _ =>
        obtain ⟨-, hcpp, hsame, hdescriptor, -⟩ := advance_members client _ _ _ _
        obtain ⟨socket, hsocket, hmem⟩ := h.current (hsame.symm.trans hconnected)
        rw [hcpp, hdescriptor]
        exact ⟨socket, hsocket, hstays hmem⟩
    | invalidated => cases hconnected
    | disconnected => cases hconnected

theorem none_of_extends (hextends : client.log <+: next.log)
    (hnone : NoneRegreeted (past ++ next.log)) : NoneRegreeted (past ++ client.log) :=
  fun held epoch hmem => hnone held epoch (mem_of_extends hextends hmem)

theorem moves (h : Session (past ++ client.log) client) (hmoves : Moves client next)
    (hnone : NoneRegreeted (past ++ next.log)) : Session (past ++ next.log) next := by
  induction hmoves with
  | refl => exact h
  | tail _ hmove ih =>
    exact (ih (none_of_extends hmove.log_extends hnone)).move hmove hnone

/-- A request carries the epoch of the session it is made in. -/
theorem request (h : Session (past ++ client.log) client) {socket : ℕ} {frame : Bytes}
    (hdescriptor : client.descriptor = some socket) (hconnected : client.connected = true)
    (hframe : BuiltWith client.epoch frame) :
    Session (past ++ (client.enqueue socket frame).log) (client.enqueue socket frame) := by
  obtain ⟨other, hother, hestablished⟩ := h.current hconnected
  obtain rfl : socket = other := Option.some.inj (hdescriptor.symm.trans hother)
  have hlog : past ++ (client.enqueue socket frame).log =
      past ++ client.log ++ [.queued socket frame] := (List.append_assoc _ _ _).symm
  have hold : ∀ {place epoch}, .established place epoch ∈ past ++ client.log ++
      [SocketEvent.queued socket frame] → .established place epoch ∈ past ++ client.log :=
    fun hmem => (List.mem_append.mp hmem).resolve_right fun hmem => by
      cases List.mem_singleton.mp hmem
  rw [hlog]
  refine ⟨⟨fun place epoch hmem => h.carried.known place epoch (hold hmem),
    fun place epoch other hmem hother => h.carried.unique place epoch other (hold hmem) (hold hother),
    fun place bytes epoch hmem hcarried => List.mem_append_left _ ?_⟩, h.flags, fun _ =>
      ⟨socket, hdescriptor, List.mem_append_left _ hestablished⟩⟩
  rcases List.mem_append.mp hmem with hmem | hmem
  · exact h.carried.carried place bytes epoch hmem hcarried
  · cases List.mem_singleton.mp hmem
    rw [hframe.carries hcarried]
    exact hestablished

/-- Closing the socket tells nothing about frames and sessions. -/
theorem carried_closeSocket (h : Carried client.sockets (past ++ client.log)) :
    Carried client.sockets (past ++ client.closeSocket.log) := by
  have hevents : ∀ event ∈ (client.descriptor.map SocketEvent.closed).toList,
      ∃ socket, event = .closed socket := by
    intro event hmem
    obtain ⟨socket, -, rfl⟩ := Option.map_eq_some_iff.mp (Option.mem_toList.mp hmem)
    exact ⟨socket, rfl⟩
  have hnext : Carried client.sockets (past ++ client.log ++
      (client.descriptor.map SocketEvent.closed).toList) := by
    refine h.append (Nat.le_refl _) (fun socket epoch hmem => ?_) fun socket frame hmem => ?_
    · obtain ⟨_, heq⟩ := hevents _ hmem
      cases heq
    · obtain ⟨_, heq⟩ := hevents _ hmem
      cases heq
  rwa [List.append_assoc] at hnext

theorem carried_openSocket (h : Carried client.sockets (past ++ client.log)) :
    Carried client.openSocket.sockets (past ++ client.openSocket.log) := by
  have hnext : Carried (client.sockets + 1)
      (past ++ client.log ++ [SocketEvent.opened client.sockets]) := by
    refine h.append (Nat.le_succ _) (fun socket epoch hmem => ?_) fun socket frame hmem => ?_
    · cases List.mem_singleton.mp hmem
    · cases List.mem_singleton.mp hmem
  rwa [List.append_assoc] at hnext

theorem carried_introduce (h : Carried client.sockets (past ++ client.log)) :
    Carried client.introduce.sockets (past ++ client.introduce.log) := by
  rw [introduce_log, ← List.append_assoc]
  refine h.append (Nat.le_succ _) (fun socket epoch hmem => ?_) fun socket frame hmem => ?_
  · simp at hmem
  · obtain ⟨-, rfl⟩ : socket = client.sockets ∧ frame = client.helloFrame := by simpa using hmem
    exact client.isHello_helloFrame.carriedEpoch

/-- The session on a new socket begins. -/
theorem establish (h : Session (past ++ client.log) client) (hidle : Idle client)
    (hlives : Lives client.introduce next) :
    Session (past ++ (next.establish client.sockets).log) (next.establish client.sockets) := by
  have hcarried := carried_moves (carried_introduce h.carried) hlives.moves
  have hsockets : next.sockets = client.sockets + 1 := Moves.sockets hlives.moves
  -- no session has begun on the new socket
  have hfirst : ∀ epoch, .established client.sockets epoch ∉ past ++ next.log := by
    intro epoch hmem
    obtain ⟨events, hlog, hserving⟩ := Lives.log hlives
    rw [hlog, introduce_log, ← List.append_assoc, ← List.append_assoc] at hmem
    rcases List.mem_append.mp hmem with hmem | hmem
    · rcases List.mem_append.mp hmem with hmem | hmem
      · exact Nat.lt_irrefl _ (h.carried.known _ _ hmem)
      · simp at hmem
    · cases hserving _ hmem
  have hlog : past ++ (next.establish client.sockets).log =
      past ++ next.log ++ [.established client.sockets next.epoch] :=
    (List.append_assoc _ _ _).symm
  have hcases : ∀ {socket epoch}, .established socket epoch ∈ past ++ next.log ++
      [SocketEvent.established client.sockets next.epoch] →
      .established socket epoch ∈ past ++ next.log ∨
        socket = client.sockets ∧ epoch = next.epoch := by
    intro socket epoch hmem
    refine (List.mem_append.mp hmem).imp_right fun hmem => ?_
    cases List.mem_singleton.mp hmem
    exact ⟨rfl, rfl⟩
  rw [hlog]
  refine ⟨⟨fun socket epoch hmem => ?_, fun socket epoch other hmem hother => ?_,
    fun socket frame epoch hmem hepoch => List.mem_append_left _ ?_⟩, fun henabled => ?_,
    fun _ => ⟨client.sockets, Lives.descriptor hlives,
      List.mem_append_right _ (List.mem_singleton_self _)⟩⟩
  · rcases hcases hmem with hmem | ⟨rfl, -⟩
    · exact hcarried.known socket epoch hmem
    · exact hsockets ▸ Nat.lt_succ_self _
  · rcases hcases hmem with hmem | ⟨rfl, rfl⟩
    · rcases hcases hother with hother | ⟨rfl, -⟩
      · exact hcarried.unique socket epoch other hmem hother
      · exact absurd hmem (hfirst epoch)
    · rcases hcases hother with hother | ⟨-, rfl⟩
      · exact absurd hother (hfirst other)
      · rfl
  · refine hcarried.carried socket frame epoch ((List.mem_append.mp hmem).resolve_right ?_) hepoch
    intro hmem
    cases List.mem_singleton.mp hmem
  · have hbefore : client.introduce.outputsEnabled = true :=
      Lives.outputsEnabled hlives henabled
    exact absurd (hidle.connected.symm.trans (h.flags hbefore).1) nofun

theorem step {builds : Bytes → Prop} (h : Session (past ++ client.log) client)
    (hstep : Step builds client next) (hnone : NoneRegreeted (past ++ next.log)) :
    Session (past ++ next.log) next := by
  cases hstep with
  | move hmove => exact h.move hmove hnone
  | closed hnot =>
    exact ⟨carried_closeSocket h.carried, h.flags,
      fun hconnected => absurd (hnot.symm.trans hconnected) Bool.false_ne_true⟩
  | opened hidle =>
    exact ⟨carried_openSocket h.carried, h.flags,
      fun hconnected => absurd (hidle.connected.symm.trans hconnected) Bool.false_ne_true⟩
  | introduced hidle =>
    exact ⟨carried_introduce h.carried, h.flags,
      fun hconnected => absurd (hidle.connected.symm.trans hconnected) Bool.false_ne_true⟩
  | established hidle _ _ hlives => exact h.establish hidle hlives
  | requested _ hdescriptor hconnected hframe => exact h.request hdescriptor hconnected hframe
  | @enabled acknowledged _ _ _ hdescriptor hrequire hframe _ hlives =>
    have hconnected := connected_of_requireController hrequire
    have hlog : NoneRegreeted acknowledged.log := fun held epoch hmem =>
      hnone held epoch (List.mem_append_right _ hmem)
    obtain ⟨hstill, hgranted, hepoch⟩ := Lives.kept hlives hconnected hlog
    have hacknowledged := (h.request hdescriptor hconnected hframe).moves hlives.moves hnone
    simp only [requireController, Bool.and_eq_true, bne_iff_ne] at hrequire
    refine ⟨hacknowledged.carried, fun _ => ⟨hstill, ?_, ?_⟩, hacknowledged.current⟩
    · exact hgranted.trans hrequire.1.2
    · exact fun hzero => hrequire.2 (hepoch.symm.trans hzero)
  | released =>
    exact ⟨h.carried, fun henabled => absurd henabled Bool.false_ne_true, h.current⟩
  | left =>
    exact ⟨carried_closeSocket h.carried, fun henabled => absurd henabled Bool.false_ne_true,
      fun hconnected => absurd hconnected Bool.false_ne_true⟩

end Session

/-- In a life without a HelloAck during a session, outputs are enabled only while the client
is connected as a controller, and all frames of a session carry its epoch. -/
theorem session_epoch (options : ClientOptions) (heartbeatPeriod : ℕ) (calls : List ClientCall)
    (hnone : NoneRegreeted ((create options heartbeatPeriod).socketLog calls)) :
    ((final perform (create options heartbeatPeriod) calls).outputsEnabled = true →
      (final perform (create options heartbeatPeriod) calls).connected = true ∧
        (final perform (create options heartbeatPeriod) calls).controllerGranted = true ∧
        (final perform (create options heartbeatPeriod) calls).epoch ≠ 0) ∧
      ∀ socket epoch frame carried,
        .established socket epoch ∈ (create options heartbeatPeriod).socketLog calls →
        .queued socket frame ∈ (create options heartbeatPeriod).socketLog calls →
        carriedEpoch frame = some carried → carried = epoch := by
  have hnew : Session [] (create options heartbeatPeriod) :=
    ⟨⟨nofun, nofun, nofun⟩, nofun, nofun⟩
  have hlife := history_induction (P := fun log client => NoneRegreeted log → Session log client)
    (fun _ _ h hnone => ⟨(h hnone).carried, (h hnone).flags, (h hnone).current⟩)
    (fun _ _ _ _ h hstep hnone =>
      (h (Session.none_of_extends hstep.log_extends hnone)).step hstep hnone) (fun _ => hnew) calls
  have hsession := hlife hnone
  refine ⟨hsession.flags, fun socket epoch frame carried hestablished hqueued hcarried => ?_⟩
  exact hsession.carried.unique socket epoch carried hestablished
    (hsession.carried.carried socket frame carried hqueued hcarried)

/-- The answer to the first Hello of a client. -/
def firstHelloAck (epoch : UInt64) (role : ClientRole) : Bytes :=
  encodeFrame .helloAck 1
    (encodeHelloAckPayload { grantedRole := role, heartbeatTimeoutMs := 100, epoch })

/-- A pass in which bytes arrive. -/
def arrival (bytes : Bytes) : Pump := { receives := [.received bytes] }

/-- A server that greets the client a second time in the session, and a third time before it
acknowledges the request to enable outputs. -/
def regreetedCalls : List ClientCall :=
  [.connect { passes := [arrival (firstHelloAck 7 .controller)] },
    .poll { receives := [.received (firstHelloAck 8 .controller)] },
    .enableOutputs true [arrival (firstHelloAck 9 .observer ++
      encodeFrame .ack 2 (encodeAckPayload .ok 0)), {}]]

/-- The session of epoch 7 sends a request of epoch 8, and ends up with outputs enabled for
an observer. -/
theorem enabled_without_controller :
    let client := final perform (create {} 50) regreetedCalls
    let frame := encodeFrame .outputEnable 2 (encodeOutputEnablePayload ⟨8, true⟩)
    client.outputsEnabled = true ∧ client.controllerGranted = false ∧
      .established 0 7 ∈ (create {} 50).socketLog regreetedCalls ∧
      .queued 0 frame ∈ (create {} 50).socketLog regreetedCalls ∧
      carriedEpoch frame = some 8 := by
  decide +kernel

/-- A session in which outputs are enabled. -/
def enablingCalls : List ClientCall :=
  [.connect { passes := [arrival (firstHelloAck 7 .controller)] },
    .enableOutputs true [arrival (encodeFrame .ack 2 (encodeAckPayload .ok 0)), {}]]

theorem session_epoch_enabling :
    let client := final perform (create {} 50) enablingCalls
    client.outputsEnabled = true ∧ client.connected = true ∧
      client.controllerGranted = true ∧ client.epoch ≠ 0 := by
  have henabled : (final perform (create {} 50) enablingCalls).outputsEnabled = true := by
    decide +kernel
  exact ⟨henabled, (session_epoch {} 50 enablingCalls (by decide +kernel)).1 henabled⟩

/-! ### What is held while the client is connected -/

theorem mem_of_popInputImage {client : ClientImplementation} {image : PdoImage}
    (h : image ∈ client.popInputImage.1) : image ∈ client.inputImages := by
  unfold popInputImage InputAssembler.popInputImage at h
  split at h
  · cases h
  · rename_i first images himages
    obtain rfl : first = image := Option.some.inj h
    exact himages ▸ List.mem_cons_self

/-- Every HelloAck finds only data of its own epoch. -/
def CleanlyGreeted (log : List SocketEvent) : Prop :=
  ∀ connected held epoch, .greeted connected held epoch ∈ log → ∀ other ∈ held, other = epoch

instance (log : List SocketEvent) : Decidable (CleanlyGreeted log) :=
  decidable_of_iff (log.all fun event => match event with
      | .greeted _ held epoch => held.all (· = epoch)
      | _ => true) <| by
    rw [List.all_eq_true]
    refine ⟨fun h _ held epoch hmem => by simpa using h _ hmem, fun h event hmem => ?_⟩
    cases event with
    | greeted connected held epoch => simpa using h connected held epoch hmem
    | _ => rfl

/-- Since the HelloAck only data of its epoch is held. -/
structure HoldsOwn (client : ClientImplementation) : Prop where
  greeted : client.connected = true → client.helloReceived = true
  own : client.helloReceived = true → ∀ epoch ∈ client.held, epoch = client.epoch

namespace HoldsOwn

variable {client next : ClientImplementation}

theorem move (h : HoldsOwn client) (hmove : Move client next) (hclean : CleanlyGreeted next.log) :
    HoldsOwn next := by
  cases hmove with
  | live hlive =>
    cases hlive with
    | quiet hquiet =>
      refine ⟨?_, ?_⟩
      · rw [hquiet.connected, hquiet.helloReceived]
        exact h.greeted
      · rw [hquiet.helloReceived, hquiet.epoch]
        exact fun hreceived epoch hmem => (hquiet.held epoch hmem).elim (h.own hreceived epoch) id
    | greeted hgreeted =>
      refine ⟨fun _ => hgreeted.helloReceived, fun _ => ?_⟩
      rw [hgreeted.held]
      refine hclean client.connected client.held next.epoch ?_
      rw [hgreeted.log]
      exact List.mem_append_right _ (List.mem_singleton_self _)
    | sent _ _ _ _ =>
      obtain ⟨-, hcpp, hconnected, -, hheld⟩ := advance_members client _ _ _ _
      refine ⟨?_, ?_⟩
      · rw [hconnected, hcpp]
        exact h.greeted
      · rw [hcpp, hheld]
        exact h.own
  | invalidated => exact ⟨nofun, fun _ epoch hmem => absurd hmem List.not_mem_nil⟩
  | disconnected => exact ⟨nofun, nofun⟩

theorem moves (h : HoldsOwn client) (hmoves : Moves client next)
    (hclean : CleanlyGreeted next.log) : HoldsOwn next := by
  induction hmoves with
  | refl => exact h
  | tail _ hmove ih =>
    exact (ih fun connected held epoch hmem => hclean connected held epoch
      (hmove.log_extends.subset hmem)).move hmove hclean

theorem step {builds : Bytes → Prop} (h : HoldsOwn client) (hstep : Step builds client next)
    (hclean : CleanlyGreeted next.log) : HoldsOwn next := by
  cases hstep with
  | move hmove => exact h.move hmove hclean
  | closed hnot => exact ⟨fun hconnected => absurd (hnot.symm.trans hconnected) nofun, nofun⟩
  | opened hidle =>
    exact ⟨fun hconnected => absurd (hidle.connected.symm.trans hconnected) nofun,
      fun hreceived => absurd (hidle.helloReceived.symm.trans hreceived) nofun⟩
  | introduced hidle =>
    exact ⟨fun hconnected => absurd (hidle.connected.symm.trans hconnected) nofun, nofun⟩
  | established hidle _ _ hlives hreceived =>
    have hintroduced : HoldsOwn client.introduce :=
      ⟨fun hconnected => absurd (hidle.connected.symm.trans hconnected) nofun, nofun⟩
    have hwaited := hintroduced.moves hlives.moves fun connected held epoch hmem =>
      hclean connected held epoch (List.mem_append_left _ hmem)
    exact ⟨fun _ => hreceived, hwaited.own⟩
  | requested => exact ⟨h.greeted, h.own⟩
  | @enabled _ socket frame _ _ _ _ _ hlives =>
    have hqueued : HoldsOwn (client.enqueue socket frame) := ⟨h.greeted, h.own⟩
    have hacknowledged := hqueued.moves hlives.moves hclean
    exact ⟨hacknowledged.greeted, hacknowledged.own⟩
  | released => exact ⟨h.greeted, h.own⟩
  | left => exact ⟨nofun, nofun⟩

end HoldsOwn

/-- A chunk of the epoch 7. -/
def chunkOfSeven : PdoInputPayload :=
  { subDeviceIndex := 1, totalSize := 2, epoch := 7, cycleSequence := 1, data := [5] }

/-- A session of epoch 7 that receives a chunk. -/
def receivingCalls : List ClientCall :=
  [.connect { passes := [arrival (firstHelloAck 7 .controller)] },
    .poll { receives := [.received (encodeFrame .pdoInput 0 (encodePdoInputPayload chunkOfSeven))] }]

/-- The session is left, and one of epoch 8 begins. -/
def reconnectedCalls : List ClientCall :=
  receivingCalls ++ [.disconnect false [],
    .connect { passes := [arrival (encodeFrame .helloAck 2 (encodeHelloAckPayload
      { grantedRole := .controller, heartbeatTimeoutMs := 100, epoch := 8 }))] }]

end EcSystemCore.ClientImplementation
