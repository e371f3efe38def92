import EcSystemCore.Daemon.Evolution

/-!
# What the handlers and the loop's steps can do

Every handler except Hello moves the daemon, and one that answers `false` has closed the
connection it serves (`Answers`).  A Hello first decides on the role (`Greets`) and then
answers; the steps of the loop that serve no connection move.
-/

namespace EcSystemCore

open List (Forall₂)

namespace Daemon

/-! ### Open connections -/

/-- The connection at this place is open. -/
def OpenAt (d : Daemon) (index : ℕ) : Prop :=
  ∃ client, d.clients[index]? = some client ∧ client.isOpen = true

theorem getElem?_of_forall₂ {α : Type*} {R : α → α → Prop} {xs ys : List α}
    (h : Forall₂ R xs ys) {index : ℕ} {y : α} (hy : ys[index]? = some y) :
    ∃ x, xs[index]? = some x ∧ R x y := by
  induction h generalizing index with
  | nil => simp at hy
  | cons hxy _ ih =>
    cases index with
    | zero =>
      cases hy
      exact ⟨_, rfl, hxy⟩
    | succ index => exact ih hy

/-- Nothing that evolves opens a connection. -/
theorem Evolves.openAt {d d' : Daemon} (h : Evolves d d') {index : ℕ} (hopen : d'.OpenAt index) :
    d.OpenAt index := by
  obtain ⟨next, hnext, hopen⟩ := hopen
  obtain ⟨client, hclient, hkept⟩ := getElem?_of_forall₂ h.clients hnext
  exact ⟨client, hclient, hkept.isOpen hopen⟩

theorem shut_not_openAt (d : Daemon) (index : ℕ) :
    ¬(d.updateClient index (·.shut)).OpenAt index := by
  rintro ⟨client, hclient, hopen⟩
  rw [getElem?_updateClient, Option.map_eq_some_iff] at hclient
  obtain ⟨old, -, rfl⟩ := hclient
  cases hopen

/-- **`CloseClient` closes.** -/
theorem closeClient_not_openAt (env : LoopEnv) (d : Daemon) (index : ℕ) :
    ¬(closeClient env d index).OpenAt index := by
  rw [closeClient_eq]
  split
  · rename_i hnone
    rintro ⟨client, hclient, -⟩
    cases hnone.symm.trans hclient
  · rename_i client hclient
    split
    · rename_i hshut
      rintro ⟨found, hfound, hopen⟩
      cases hclient.symm.trans hfound
      simp [hopen] at hshut
    · dsimp only
      split
      · split
        · intro hopen
          have hbefore := (broadcastOutputsDisabled_moves env _ .disconnect 0xffff).openAt hopen
          exact shut_not_openAt d index hbefore
        · exact shut_not_openAt d index
      · exact shut_not_openAt d index

/-! ### Answers -/

/-- A handler's answer: the daemon has moved, and `false` means that the connection was
closed. -/
structure Answers (d : Daemon) (index : ℕ) (answer : Bool × Daemon) : Prop where
  moves : Moves d answer.2
  closed : answer.1 = false → ¬answer.2.OpenAt index

namespace Answers

variable {a b m : Daemon} {index : ℕ} {answer : Bool × Daemon} {queued : Bool}

theorem after (h : Moves a b) (h' : Answers b index answer) : Answers a index answer :=
  ⟨h.trans h'.moves, h'.closed⟩

theorem andThen (h : Answers a index answer) (h' : Moves answer.2 m) :
    Answers a index (answer.1, m) :=
  ⟨h.moves.trans h', fun hfalse hopen => h.closed hfalse (h'.openAt hopen)⟩

theorem close (env : LoopEnv) (d : Daemon) (index : ℕ) :
    Answers d index (false, closeClient env d index) :=
  ⟨closeClient_moves env d index, fun _ => closeClient_not_openAt env d index⟩

end Answers

/-- A shared frame that is required is queued, or the connection is closed. -/
theorem queueSharedFrame_closed {env : LoopEnv} {d : Daemon} {index : ℕ} {frame : Bytes}
    (hfalse : (queueSharedFrame (closeClient env) env d index frame true).1 = false) :
    ¬(queueSharedFrame (closeClient env) env d index frame true).2.OpenAt index := by
  unfold queueSharedFrame at hfalse ⊢
  cases hclient : d.clients[index]? with
  | none =>
    rintro ⟨client, hfound, -⟩
    cases hclient.symm.trans hfound
  | some client =>
    simp only [hclient, if_true] at hfalse ⊢
    by_cases hfull : (!client.isOpen || frame.isEmpty || client.overfull frame.length) = true
    · rw [if_pos hfull]
      exact closeClient_not_openAt env d index
    · rw [if_neg hfull] at hfalse
      cases hfalse

/-- A required frame is queued, or the connection is closed. -/
theorem queueFrame_answers (env : LoopEnv) (d : Daemon) (index : ℕ) (frame : Bytes) :
    Answers d index (d.queueFrame env index frame true) := by
  refine ⟨queueFrame_moves env d index frame true, fun hfalse => ?_⟩
  unfold queueFrame at hfalse ⊢
  by_cases hfails : env.allocationFails d.tick = true
  · rw [if_pos hfails]
    exact closeClient_not_openAt env _ index
  · rw [if_neg hfails] at hfalse ⊢
    exact queueSharedFrame_closed hfalse

theorem queueAck_answers (env : LoopEnv) (d : Daemon) (index : ℕ) (type : MessageType)
    (requestId : UInt32) (status : AckStatus) (detail : UInt32) :
    Answers d index (d.queueAck env index type requestId status detail true) :=
  queueFrame_answers env d index _

/-! ### The handlers -/

section Handlers

variable (env : LoopEnv) (d : Daemon) (index : ℕ) (client : ClientConnection) (frame : Frame)

theorem malformed_answers : Answers d index (d.malformed env index frame) :=
  queueAck_answers env d index _ _ _ _

theorem handleHeartbeat_answers :
    Answers d index (d.handleHeartbeat env index client frame) := by
  unfold handleHeartbeat
  split
  · exact malformed_answers env d index frame
  · rename_i epoch _
    have hquiet : (d.react (.heartbeat client.id epoch (env.now d.tick))).1.epochChanged =
        false := by
      simp only [react, SafetyGate.react, SafetyGate.heartbeat]
      split
      · exact SafetyGate.authorize_epochChanged _ _ _
      · rfl
    have hreact : Moves d (d.react (.heartbeat client.id epoch (env.now d.tick))).2 :=
      .react d (by simp) (by simp) hquiet
    exact .after hreact (queueAck_answers env _ index _ _ _ _)

theorem handleOutputEnable_answers :
    Answers d index (d.handleOutputEnable env index client frame) := by
  unfold handleOutputEnable
  split
  · exact malformed_answers env d index frame
  · rename_i request _
    have hreact : Evolves d (d.react (.setOutputEnabled client.id request.epoch
        request.enabled (d.allBusesOperational env) (env.now d.tick))).2 := .react d (by simp)
    generalize d.react _ = decided at hreact ⊢
    have hanswered := Answers.after (hreact.apply env)
      (queueAck_answers env _ index .ack frame.requestId decided.1.status 0)
    dsimp only
    split
    · exact hanswered.andThen ((broadcastOutputsDisabled_moves env _ .requested 0xffff).trans
        (closeAfterWrite_moves _ index))
    · exact hanswered

theorem handleOutputWrite_answers :
    Answers d index (d.handleOutputWrite env index client frame) := by
  unfold handleOutputWrite
  split
  · exact malformed_answers env d index frame
  · rename_i request _
    have hquiet : (d.react (.recordOutputWrite client.id request.epoch
        (env.now d.tick))).1.epochChanged = false :=
      SafetyGate.authorizeWrite_epochChanged _ _ _
    have hreact : Moves d (d.react (.recordOutputWrite client.id request.epoch
        (env.now d.tick))).2 := .react d (by simp) (by simp) hquiet
    dsimp only
    split_ifs
    all_goals first
      | exact queueAck_answers env d index _ _ _ _
      | exact .after hreact (queueAck_answers env _ index _ _ _ _)

theorem handleRelease_answers :
    Answers d index (d.handleRelease env index client frame) := by
  unfold handleRelease
  split
  · exact malformed_answers env d index frame
  · rename_i epoch _
    have hreact : Evolves d (d.react (.release client.id epoch)).2 := .react d (by simp)
    have hquiet : (d.react (.release client.id epoch)).1.epochChanged = false →
        Moves d (d.react (.release client.id epoch)).2 := .react d (by simp) (by simp)
    generalize d.react _ = released at hreact hquiet ⊢
    have hanswered :=
      queueAck_answers env released.2 index .ack frame.requestId released.1.status 0
    dsimp only
    split
    · -- the reply is queued before the buses learn of the new epoch
      generalize queueAck env _ index _ _ _ _ _ = answered at hanswered ⊢
      have hrest : Moves (answered.2.applySafetyToBuses env)
          (((answered.2.applySafetyToBuses env).broadcastOutputsDisabled env .requested
            0xffff).closeAfterWrite index) :=
        (broadcastOutputsDisabled_moves env _ _ _).trans (closeAfterWrite_moves _ index)
      exact ⟨((hreact.trans hanswered.moves.toEvolves).apply env).trans hrest,
        fun hfalse hopen => hanswered.closed hfalse (hrest.openAt hopen)⟩
    · rename_i hunchanged
      exact .after (hquiet (by simpa using hunchanged)) hanswered

theorem handleAdapterUnlock_answers :
    Answers d index (d.handleAdapterUnlock env index client frame) := by
  unfold handleAdapterUnlock
  split
  · exact malformed_answers env d index frame
  · rename_i request _
    have hunlocked : Moves d (d.unlockAdapter request.busIndex.toNat) :=
      .of_slots (forall₂_modify (fun slot => ⟨.refl slot, rfl, id⟩) fun slot _ =>
        ⟨⟨rfl, rfl, rfl, rfl, rfl, rfl, rfl, rfl⟩, rfl, id⟩)
    have hanswered := Answers.after hunlocked
      (queueAck_answers env _ index .ack frame.requestId .ok 0)
    dsimp only
    split_ifs
    · exact queueAck_answers env d index _ _ _ _
    · exact queueAck_answers env d index _ _ _ _
    · have hadvanced := advanceEpoch_moves env
        ((d.unlockAdapter request.busIndex.toNat).queueAck env index .ack frame.requestId .ok 0
          true).2 .adapterMismatch request.busIndex
      exact hanswered.andThen (hadvanced.trans ⟨.of_same rfl ⟨rfl, rfl⟩ (.refl _) rfl rfl rfl rfl, id⟩)

theorem handleClearCounters_answers :
    Answers d index (d.handleClearCounters env index frame) := by
  unfold handleClearCounters
  split
  · exact malformed_answers env d index frame
  · exact queueAck_answers env d index _ _ _ _

theorem handleSubscribeInputs_answers :
    Answers d index (d.handleSubscribeInputs env index frame) := by
  unfold handleSubscribeInputs
  split
  · exact malformed_answers env d index frame
  · refine .after (b := updateInputPublicationDemand _) (.trans ?_ (.updateInputPublicationDemand _))
      (queueAck_answers env _ index _ _ _ _)
    exact .updateClient d index (fun _ => rfl) fun _ => rfl

theorem handleAdapterRescan_answers :
    Answers d index (d.handleAdapterRescan env index frame) := by
  unfold handleAdapterRescan
  split
  · exact malformed_answers env d index frame
  · refine .after ?_ (queueAck_answers env _ index _ _ _ _)
    split
    · exact ⟨.of_same rfl ⟨rfl, rfl⟩ (.refl _) rfl rfl rfl rfl, id⟩
    · exact .refl d

end Handlers

/-! ### Hello -/

/-- What a Hello does to the lease: it goes to the connection exactly when the connection
is granted control. -/
def LeaseDecided (d : Daemon) (client : ClientConnection) (hello : HelloPayload)
    (granted : ClientRole) (d' : Daemon) : Prop :=
  (granted = .observer ∧ d'.safety.controllerId = d.safety.controllerId) ∨
    (granted = .controller ∧ hello.role = .controller ∧
      controllerAuthorized d.configuration client = true ∧
      (d.safety.controllerId = none ∨ d.safety.controllerId = some client.id) ∧
      d'.safety.controllerId = some client.id)

/-- A Hello changes one connection, whose session becomes `change` of what it was, and
decides on the lease. -/
structure Decides (d : Daemon) (index : ℕ) (client : ClientConnection) (hello : HelloPayload)
    (granted : ClientRole) (change : Session → Session) (d' : Daemon) : Prop where
  configuration : d'.configuration = d.configuration
  issued : d'.nextClientId = d.nextClientId ∧ d'.accepted = d.accepted
  clients : ∃ f, d'.clients = d.clients.modify index f ∧
    ∀ c, (f c).session = change c.session ∧ (f c).isOpen = c.isOpen
  epoch : d'.safety.epoch = d.safety.epoch ∧ d'.advances = d.advances
  lease : LeaseDecided d client hello granted d'
  slots : SlotsKept d.slots d'.slots
  synced : d.Synced → d'.Synced

theorem acquire_epochChanged (gate : SafetyGate) (clientId : ClientId) (peerPid : UInt32)
    (now : TimePoint) : (gate.acquire clientId peerPid now).1.epochChanged = false := by
  unfold SafetyGate.acquire
  split_ifs <;> rfl

/-- An acquisition takes the lease, or leaves the gate as it was. -/
theorem acquire_cases (gate : SafetyGate) (clientId : ClientId) (peerPid : UInt32)
    (now : TimePoint) :
    (gate.acquire clientId peerPid now).2.epoch = gate.epoch ∧
    (((gate.acquire clientId peerPid now).1.status = .ok ∧
        (gate.controllerId = none ∨ gate.controllerId = some clientId) ∧
        (gate.acquire clientId peerPid now).2.controllerId = some clientId) ∨
      ((gate.acquire clientId peerPid now).1.status ≠ .ok ∧
        (gate.acquire clientId peerPid now).2.controllerId = gate.controllerId ∧
        (gate.acquire clientId peerPid now).2.outputsEnabled = gate.outputsEnabled)) := by
  have heffect : SafetyGate.Effect gate (.acquire clientId peerPid now)
      (gate.acquire clientId peerPid now) := gate.react_effect (.acquire clientId peerPid now)
  have hquiet := acquire_epochChanged gate clientId peerPid now
  generalize gate.acquire clientId peerPid now = answer at heffect hquiet ⊢
  cases heffect with
  | dropped => cases hquiet
  | acquired free answer epoch holder enabled => exact ⟨epoch, .inl ⟨answer.1, free, holder⟩⟩
  | idle answer epoch holder enabled notAcquired =>
    exact ⟨epoch, .inr ⟨notAcquired _ _ _ rfl, holder, enabled⟩⟩

theorem grantRole_decides (env : LoopEnv) (d : Daemon) (index : ℕ) (client : ClientConnection)
    (hello : HelloPayload) :
    Decides d index client hello (d.grantRole env index client hello).1 id
      (d.grantRole env index client hello).2 := by
  have unchanged : ∃ f : ClientConnection → ClientConnection,
      d.clients = d.clients.modify index f ∧
        ∀ c, (f c).session = c.session ∧ (f c).isOpen = c.isOpen :=
    ⟨id, by simp, fun c => ⟨rfl, rfl⟩⟩
  unfold grantRole
  split
  · rename_i hasks
    rw [Bool.and_eq_true, decide_eq_true_eq] at hasks
    obtain ⟨hepoch, hlease⟩ := acquire_cases d.safety client.id client.pid (env.now d.tick)
    have hadvances : (d.react (.acquire client.id client.pid (env.now d.tick))).2.advances =
        d.advances := by
      simp only [react, SafetyGate.react, acquire_epochChanged]
      rfl
    dsimp only
    obtain ⟨hok, hfree, hholder⟩ | ⟨hrefused, hholder, henabled⟩ := hlease
    · have hstatus : (d.react (.acquire client.id client.pid (env.now d.tick))).1.status = .ok :=
        hok
      rw [if_pos hstatus]
      refine ⟨rfl, ⟨rfl, rfl⟩, ⟨_, rfl, fun c => ⟨rfl, rfl⟩⟩, ⟨hepoch, hadvances⟩,
        .inr ⟨rfl, hasks.1, hasks.2, hfree, hholder⟩, ?_, fun _ => ?_⟩
      · exact slotsKept_applySafetyToBuses env ((d.react (.acquire client.id client.pid
          (env.now d.tick))).2.updateClient index _)
      · exact synced_applySafetyToBuses env _
    · have hstatus : (d.react (.acquire client.id client.pid (env.now d.tick))).1.status ≠ .ok :=
        hrefused
      rw [if_neg hstatus]
      refine ⟨rfl, ⟨rfl, rfl⟩, unchanged, ⟨hepoch, hadvances⟩, .inl ⟨rfl, hholder⟩,
        .refl _, fun hsynced slot hslot hstarted => ?_⟩
      obtain ⟨hslot_epoch, hpermitted⟩ := hsynced slot hslot hstarted
      exact ⟨hslot_epoch.trans hepoch.symm, fun h => henabled.trans (hpermitted h)⟩
  · exact ⟨rfl, ⟨rfl, rfl⟩, unchanged, ⟨rfl, rfl⟩, .inl ⟨rfl, rfl⟩, .refl _, id⟩

/-- A Hello greets its connection with the role it was granted. -/
theorem greetClient_decides (env : LoopEnv) (d : Daemon) (index : ℕ) (client : ClientConnection)
    (hello : HelloPayload) :
    Decides d index client hello (d.greetClient env index client hello).1
      (·.greet (d.greetClient env index client hello).1)
      (d.greetClient env index client hello).2 := by
  have hdecided := grantRole_decides env d index client hello
  unfold greetClient
  generalize d.grantRole env index client hello = decided at hdecided ⊢
  obtain ⟨f, hf, hsession⟩ := hdecided.clients
  refine ⟨hdecided.configuration, hdecided.issued, ⟨(·.greet hello decided.1) ∘ f, ?_, fun c => ?_⟩,
    hdecided.epoch, hdecided.lease, hdecided.slots.trans ?_, fun h => ?_⟩
  · change decided.2.clients.modify index (·.greet hello decided.1) = _
    rw [hf, List.modify_modify_eq]
  · refine ⟨?_, (hsession c).2⟩
    have hgreet : ((f c).greet hello decided.1).session = (f c).session.greet decided.1 := rfl
    exact hgreet.trans (congrArg _ (hsession c).1)
  · exact (Moves.updateInputPublicationDemand
      (decided.2.updateClient index (·.greet hello decided.1))).slots
  · exact (Moves.updateInputPublicationDemand _).synced (hdecided.synced h)

/-! ### Dispatch -/

/-- What handling a frame can do.  Every frame but a first Hello is answered as above, and
then a connection goes on only if it had completed its Hello; a first Hello greets the
connection and is then answered. -/
inductive FrameOutcome (d : Daemon) (index : ℕ) (client : ClientConnection) (frame : Frame)
    (answer : Bool × Daemon) : Prop
  | answered (answers : Answers d index answer)
      (goesOn : answer.1 = true → client.helloReceived = true)
  | greeted {hello granted greeted} (first : client.helloReceived = false)
      (type : frame.type = .hello) (decoded : decodeHelloPayload frame.payload = some hello)
      (decides : Decides d index client hello granted (·.greet granted) greeted)
      (answers : Answers greeted index answer)

/-- **Handling a frame, once and for all.** -/
theorem handleFrame_outcome (env : LoopEnv) {d : Daemon} {index : ℕ} {client : ClientConnection}
    (hclient : d.clients[index]? = some client) (frame : Frame) :
    FrameOutcome d index client frame (d.handleFrame env index frame) := by
  have hclose : FrameOutcome d index client frame (false, closeClient env d index) :=
    .answered (.close env d index) fun h => by cases h
  unfold handleFrame
  rw [hclient]
  dsimp only
  split_ifs with hmalformed hfirst hagain
  · exact hclose
  · exact hclose
  · exact hclose
  · -- every request below needs a completed Hello
    have hgreeted : frame.type ≠ .hello → client.helloReceived = true := by
      intro htype
      simpa [htype] using hfirst
    split
    · rename_i htype
      have hnew : client.helloReceived = false := by simpa [htype] using hagain
      unfold handleHello
      cases hhello : decodeHelloPayload frame.payload with
      | none => exact hclose
      | some hello =>
        exact .greeted hnew htype hhello (greetClient_decides env d index client hello)
          (queueFrame_answers env _ index _)
    · exact .answered (handleHeartbeat_answers env d index client frame)
        fun _ => hgreeted (by simp [*])
    · exact .answered (handleOutputEnable_answers env d index client frame)
        fun _ => hgreeted (by simp [*])
    · exact .answered (handleOutputWrite_answers env d index client frame)
        fun _ => hgreeted (by simp [*])
    · exact .answered (handleClearCounters_answers env d index frame)
        fun _ => hgreeted (by simp [*])
    · exact .answered (handleRelease_answers env d index client frame)
        fun _ => hgreeted (by simp [*])
    · exact .answered (handleSubscribeInputs_answers env d index frame)
        fun _ => hgreeted (by simp [*])
    · exact .answered (handleAdapterUnlock_answers env d index client frame)
        fun _ => hgreeted (by simp [*])
    · exact .answered (handleAdapterRescan_answers env d index frame)
        fun _ => hgreeted (by simp [*])
    · exact hclose

/-! ### Steps that serve no connection -/

/-- A bus that is bound anew is in step with the gate's epoch, if it was before. -/
theorem rebind_synced {gate : SafetyGate} {slot : BusSlot} {next : PlannedBinding}
    (h : slot.adapter.workerStarted = true → slot.bus.safetyEpoch = gate.epoch ∧
      (slot.bus.outputsPermitted = true → gate.outputsEnabled = true))
    (hstarted : (rebind gate.epoch slot next).adapter.workerStarted = true) :
    (rebind gate.epoch slot next).bus.safetyEpoch = gate.epoch ∧
      ((rebind gate.epoch slot next).bus.outputsPermitted = true →
        gate.outputsEnabled = true) := by
  unfold rebind at hstarted ⊢
  by_cases hready : next.ready = true
  · by_cases hfresh : (!slot.adapter.workerStarted || next.bindingChanged) = true
    · simp only [hready, hfresh, Bool.not_true, Bool.false_eq_true, if_false, if_true]
      exact ⟨rfl, fun hpermitted => by cases hpermitted⟩
    · have hworker : slot.adapter.workerStarted = true := by
        cases hw : slot.adapter.workerStarted with
        | true => rfl
        | false => simp [hw] at hfresh
      simp only [hready, hfresh, Bool.not_true, Bool.false_eq_true, if_false]
      refine ⟨(h hworker).1, fun hpermitted => (h hworker).2 ?_⟩
      exact (Bool.and_eq_true_iff.mp hpermitted).2
  · simp [hready] at hstarted

theorem rebindAll_synced (planned : List PlannedBinding) {d : Daemon} (hsynced : d.Synced) :
    (d.rebindAll planned).Synced := by
  intro slot hslot hstarted
  obtain ⟨place, hplace⟩ := List.mem_iff_getElem?.mp hslot
  obtain ⟨old, next, hold, -, rfl⟩ := List.getElem?_zipWith_eq_some.mp hplace
  exact rebind_synced (hsynced old (List.mem_of_getElem? hold)) hstarted

theorem advanceForScan_moves (env : LoopEnv) (initial : Bool) (planned : List PlannedBinding)
    (d : Daemon) : Moves d (d.advanceForScan env initial planned) := by
  unfold advanceForScan
  split
  · exact .refl d
  · exact advanceEpoch_moves env d _ _

theorem handleBusFaults_moves (env : LoopEnv) (d : Daemon) :
    Moves d (d.handleBusFaults env) := by
  refine .foldl (fun d index => ?_) _ d
  dsimp only
  split
  · refine .trans ?_ (advanceEpoch_moves env _ _ _)
    exact (Moves.ticked d).trans (.of_slots (forall₂_modify (fun slot => ⟨.refl slot, rfl, id⟩)
      fun slot _ => ⟨⟨rfl, rfl, rfl, rfl, rfl, rfl, rfl, rfl⟩, rfl, id⟩))
  · exact .ticked d

theorem leaseExpired_moves {env : LoopEnv} {d expired : Daemon} (h : Evolves d expired)
    (reason : DisableReason) (controller : Option ClientId) :
    Moves d (expired.leaseExpired env reason controller) :=
  ((h.apply env).trans (broadcastOutputsDisabled_moves env _ reason 0xffff)).trans
    (closeHolderAfterWrite_moves _ controller)

theorem handleSafetyTimeouts_moves (env : LoopEnv) (now : TimePoint) (d : Daemon) :
    Moves d (d.handleSafetyTimeouts env now) := by
  have houtputs : Evolves d (d.react (.expireOutputCommands now)).2 := .react d (by simp)
  have hquiet : (d.react (.expireOutputCommands now)).1.epochChanged = false →
      Moves d (d.react (.expireOutputCommands now)).2 := .react d (by simp) (by simp)
  unfold handleSafetyTimeouts
  generalize d.react _ = checked at houtputs hquiet ⊢
  dsimp only
  have hheartbeat : Evolves checked.2 (checked.2.react (.expire now)).2 := .react _ (by simp)
  have hquiet' : (checked.2.react (.expire now)).1.epochChanged = false →
      Moves checked.2 (checked.2.react (.expire now)).2 := .react _ (by simp) (by simp)
  generalize checked.2.react (.expire now) = expired at hheartbeat hquiet' ⊢
  split
  · exact leaseExpired_moves houtputs _ _
  · rename_i hchecked
    have hmoved := hquiet (Bool.eq_false_iff.mpr hchecked)
    split
    · exact hmoved.trans (leaseExpired_moves hheartbeat _ _)
    · rename_i hexpired
      exact hmoved.trans (hquiet' (Bool.eq_false_iff.mpr hexpired))

theorem publishInputs_moves (env : LoopEnv) (now : TimePoint) (d : Daemon)
    (publication : ℕ × InputPublication) : Moves d (d.publishInputs env now publication) := by
  refine .foldl (fun d index => ?_) _ d
  dsimp only
  split
  · split
    · refine .trans ?_ (queueFramesAtomically_moves env _ index _ _)
      exact .updateClient d index (fun _ => rfl) fun _ => rfl
    · exact .updateClient d index (fun _ => rfl) fun _ => rfl
  · exact .refl d

end Daemon

end EcSystemCore
