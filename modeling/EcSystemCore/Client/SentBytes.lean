import EcSystemCore.Client.Steps

/-!
# The bytes the C++ client sends

The outgoing queue, its partial-write offset and the descriptor are reset in several
places, and `InvalidateSession` leaves the descriptor open.  `Wire` ties them to what has
happened to the sockets so far: what was sent on the current socket, followed by what is
left in the queue, is what was queued for it.  So the bytes on every socket are a prefix of
its own frames, a Hello first (`sent_prefix_of_queued`).
-/

namespace EcSystemCore

open Execution

namespace SocketEvent

/-- The bytes an event sends on a socket. -/
def sentOn (socket : ℕ) : SocketEvent → Option Bytes
  | sent other bytes => if other = socket then some bytes else none
  | _ => none

/-- The frame an event queues for a socket. -/
def queuedOn (socket : ℕ) : SocketEvent → Option Bytes
  | queued other frame => if other = socket then some frame else none
  | _ => none

/-- The event queues or sends something on the socket. -/
def Uses (socket : ℕ) : SocketEvent → Prop
  | queued other _ => other = socket
  | sent other _ => other = socket
  | _ => False

/-- The event ends the session on the socket. -/
def Ends (socket : ℕ) : SocketEvent → Prop
  | invalidated other => other = socket
  | closed other => other = socket
  | _ => False

/-- The event is about the socket. -/
def Mentions (socket : ℕ) : SocketEvent → Prop
  | opened other => other = socket
  | queued other _ => other = socket
  | sent other _ => other = socket
  | established other _ => other = socket
  | invalidated other => other = socket
  | closed other => other = socket
  | greeted .. => False

end SocketEvent

open SocketEvent

/-- All bytes sent on a socket. -/
def sentBytes (socket : ℕ) (log : List SocketEvent) : Bytes :=
  (log.filterMap (sentOn socket)).flatten

/-- The frames queued for a socket, in order. -/
def queuedFrames (socket : ℕ) (log : List SocketEvent) : List Bytes :=
  log.filterMap (queuedOn socket)

/-- The order of what happens on one socket: it is opened before it is used, and not used
once its session has ended. -/
def InOrder (earlier later : SocketEvent) : Prop :=
  ∀ socket, (earlier.Ends socket → ¬later.Uses socket) ∧
    (earlier.Uses socket → later ≠ .opened socket)

/-- The frames of a socket are one Hello and requests after it. -/
inductive HelloFirst : List Bytes → Prop
  | nil : HelloFirst []
  | cons {hello : Bytes} {frames : List Bytes} (hhello : IsHello hello)
      (hframes : ∀ frame ∈ frames, IsRequest frame) : HelloFirst (hello :: frames)

/-! ### Logs -/

section

variable {log : List SocketEvent} {event : SocketEvent} {socket : ℕ}

theorem sentBytes_append (socket : ℕ) (log : List SocketEvent) (event : SocketEvent) :
    sentBytes socket (log ++ [event]) = sentBytes socket log ++ (event.sentOn socket).getD [] := by
  cases h : event.sentOn socket <;> simp [sentBytes, List.filterMap_append, h]

theorem queuedFrames_append (socket : ℕ) (log : List SocketEvent) (event : SocketEvent) :
    queuedFrames socket (log ++ [event]) =
      queuedFrames socket log ++ (event.queuedOn socket).toList := by
  cases h : event.queuedOn socket <;> simp [queuedFrames, List.filterMap_append, h]

theorem sentOn_eq_none (h : ¬event.Uses socket) : event.sentOn socket = none := by
  cases event with
  | sent other bytes => exact if_neg h
  | _ => rfl

theorem queuedOn_eq_none (h : ¬event.Uses socket) : event.queuedOn socket = none := by
  cases event with
  | queued other frame => exact if_neg h
  | _ => rfl

theorem sentBytes_append_of_not_uses (h : ¬event.Uses socket) :
    sentBytes socket (log ++ [event]) = sentBytes socket log := by
  rw [sentBytes_append, sentOn_eq_none h, Option.getD_none, List.append_nil]

theorem queuedFrames_append_of_not_uses (h : ¬event.Uses socket) :
    queuedFrames socket (log ++ [event]) = queuedFrames socket log := by
  rw [queuedFrames_append, queuedOn_eq_none h, Option.toList_none, List.append_nil]

theorem sentBytes_eq_nil (h : ∀ event ∈ log, ¬event.Uses socket) : sentBytes socket log = [] := by
  rw [sentBytes, List.filterMap_eq_nil_iff.mpr fun event hmem => sentOn_eq_none (h event hmem)]
  rfl

theorem queuedFrames_eq_nil (h : ∀ event ∈ log, ¬event.Uses socket) :
    queuedFrames socket log = [] :=
  List.filterMap_eq_nil_iff.mpr fun event hmem => queuedOn_eq_none (h event hmem)

end

theorem HelloFirst.append {frames : List Bytes} {frame : Bytes} (h : HelloFirst frames)
    (hne : frames ≠ []) (hframe : IsRequest frame) : HelloFirst (frames ++ [frame]) := by
  cases h with
  | nil => exact absurd rfl hne
  | cons hhello hframes =>
    refine .cons hhello fun other hmem => ?_
    rcases List.mem_append.mp hmem with hmem | hmem
    · exact hframes other hmem
    · rw [List.mem_singleton.mp hmem]
      exact hframe

/-- What a log of `sockets` sockets may look like. -/
structure Proper (sockets : ℕ) (log : List SocketEvent) : Prop where
  known : ∀ event ∈ log, ∀ socket, event.Mentions socket → socket < sockets
  opened : ∀ event ∈ log, ∀ socket, event.Uses socket → .opened socket ∈ log
  order : log.Pairwise InOrder
  sound : ∀ socket, sentBytes socket log <+: (queuedFrames socket log).flatten
  greetings : ∀ socket, HelloFirst (queuedFrames socket log)

theorem SocketEvent.Uses.mentions {event : SocketEvent} {socket : ℕ} (h : event.Uses socket) :
    event.Mentions socket := by
  cases event <;> first | exact h | exact h.elim

/-- An event that uses a socket is about no other. -/
theorem SocketEvent.Uses.of_mentions {event : SocketEvent} {socket other : ℕ}
    (h : event.Uses socket) (hother : event.Mentions other) : event.Uses other := by
  cases event <;> first | exact hother | exact h.elim

namespace Proper

variable {sockets : ℕ} {log : List SocketEvent} {event : SocketEvent}

/-- The parts of `Proper` that do not depend on frames and bytes. -/
theorem order_append (h : Proper sockets log)
    (huses : ∀ socket, event.Uses socket → .invalidated socket ∉ log ∧ .closed socket ∉ log)
    (hopens : ∀ socket, event = .opened socket → ∀ other ∈ log, ¬other.Uses socket) :
    (log ++ [event]).Pairwise InOrder := by
  refine List.pairwise_append.mpr ⟨h.order, List.pairwise_singleton _ _, ?_⟩
  rintro earlier hearlier _ hlater socket
  obtain rfl := List.mem_singleton.mp hlater
  refine ⟨fun hends hused => ?_, fun hused hopened => hopens socket hopened _ hearlier hused⟩
  obtain ⟨hinvalidated, hclosed⟩ := huses socket hused
  cases earlier with
  | invalidated other =>
    obtain rfl : other = socket := hends
    exact hinvalidated hearlier
  | closed other =>
    obtain rfl : other = socket := hends
    exact hclosed hearlier
  | _ => exact hends.elim

/-- An event that neither queues nor sends. -/
theorem silent (h : Proper sockets log) {more : ℕ} (hmore : sockets ≤ more)
    (hmentions : ∀ socket, event.Mentions socket → socket < more)
    (hsilent : ∀ socket, ¬event.Uses socket)
    (hopens : ∀ socket, event = .opened socket → ∀ other ∈ log, ¬other.Uses socket) :
    Proper more (log ++ [event]) where
  known := by
    intro other hmem socket hother
    rcases List.mem_append.mp hmem with hmem | hmem
    · exact Nat.lt_of_lt_of_le (h.known other hmem socket hother) hmore
    · rw [List.mem_singleton.mp hmem] at hother
      exact hmentions socket hother
  opened := by
    intro other hmem socket hother
    rcases List.mem_append.mp hmem with hmem | hmem
    · exact List.mem_append_left _ (h.opened other hmem socket hother)
    · rw [List.mem_singleton.mp hmem] at hother
      exact absurd hother (hsilent socket)
  order := h.order_append (fun socket hused => absurd hused (hsilent socket)) hopens
  sound := by
    intro socket
    rw [sentBytes_append_of_not_uses (hsilent socket),
      queuedFrames_append_of_not_uses (hsilent socket)]
    exact h.sound socket
  greetings := by
    intro socket
    rw [queuedFrames_append_of_not_uses (hsilent socket)]
    exact h.greetings socket

/-- An event on an open socket, from what it does to that socket. -/
theorem used (h : Proper sockets log) {socket : ℕ} (huses : event.Uses socket)
    (honly : ∀ other, event.Uses other → other = socket) (hopened : .opened socket ∈ log)
    (hinvalidated : .invalidated socket ∉ log) (hclosed : .closed socket ∉ log)
    (hsound : sentBytes socket (log ++ [event]) <+: (queuedFrames socket (log ++ [event])).flatten)
    (hgreeting : HelloFirst (queuedFrames socket (log ++ [event]))) :
    Proper sockets (log ++ [event]) where
  known := by
    intro other hmem place hother
    rcases List.mem_append.mp hmem with hmem | hmem
    · exact h.known other hmem place hother
    · rw [List.mem_singleton.mp hmem] at hother
      rw [honly place (huses.of_mentions hother)]
      exact h.known _ hopened socket rfl
  opened := by
    intro other hmem place hother
    rcases List.mem_append.mp hmem with hmem | hmem
    · exact List.mem_append_left _ (h.opened other hmem place hother)
    · rw [List.mem_singleton.mp hmem] at hother
      rw [honly place hother]
      exact List.mem_append_left _ hopened
  order := by
    refine h.order_append (fun place hplace => ?_) ?_
    · rw [honly place hplace]
      exact ⟨hinvalidated, hclosed⟩
    · rintro place rfl
      exact huses.elim
  sound := by
    intro place
    by_cases hplace : event.Uses place
    · rw [honly place hplace]
      exact hsound
    · rw [sentBytes_append_of_not_uses hplace, queuedFrames_append_of_not_uses hplace]
      exact h.sound place
  greetings := by
    intro place
    by_cases hplace : event.Uses place
    · rw [honly place hplace]
      exact hgreeting
    · rw [queuedFrames_append_of_not_uses hplace]
      exact h.greetings place

end Proper

namespace ClientImplementation

open Relation

/-- What has happened to the sockets, and the client's part in it. -/
structure Wire (log : List SocketEvent) (client : ClientImplementation) : Prop where
  proper : Proper client.sockets log
  current : ∀ socket, client.descriptor = some socket →
    .opened socket ∈ log ∧ .closed socket ∉ log
  idle : ∀ socket, client.descriptor = some socket → .invalidated socket ∈ log →
    client.outgoing = [] ∧ client.connected = false
  offset : client.outgoingOffset ≤ client.outgoing.flatten.length
  pending : ∀ socket, client.descriptor = some socket → .invalidated socket ∉ log →
    sentBytes socket log ++ client.outgoing.flatten.drop client.outgoingOffset =
      (queuedFrames socket log).flatten
  introduced : ∀ socket, client.descriptor = some socket → client.connected = true →
    queuedFrames socket log ≠ []

/-- The members `Wire` speaks of are the same. -/
structure SameWire (before after : ClientImplementation) : Prop where
  descriptor : after.descriptor = before.descriptor := by rfl
  sockets : after.sockets = before.sockets := by rfl
  connected : after.connected = before.connected := by rfl
  outgoing : after.outgoing = before.outgoing := by rfl
  outgoingOffset : after.outgoingOffset = before.outgoingOffset := by rfl

theorem Quiet.sameWire {before after : ClientImplementation} (h : Quiet before after) :
    SameWire before after :=
  ⟨h.descriptor, h.sockets, h.connected, h.outgoing, h.outgoingOffset⟩

theorem Greeted.sameWire {before after : ClientImplementation} (h : Greeted before after) :
    SameWire before after :=
  ⟨h.descriptor, h.sockets, h.connected, h.outgoing, h.outgoingOffset⟩

namespace Wire

variable {log past : List SocketEvent} {client next : ClientImplementation}

theorem congr (h : Wire log client) (hsame : SameWire client next) : Wire log next where
  proper := by rw [hsame.sockets]; exact h.proper
  current := by rw [hsame.descriptor]; exact h.current
  idle := by rw [hsame.descriptor, hsame.outgoing, hsame.connected]; exact h.idle
  offset := by rw [hsame.outgoing, hsame.outgoingOffset]; exact h.offset
  pending := by
    rw [hsame.descriptor, hsame.outgoing, hsame.outgoingOffset]
    exact h.pending
  introduced := by rw [hsame.descriptor, hsame.connected]; exact h.introduced

/-- A client without a socket. -/
theorem of_closed (hproper : Proper client.sockets log) (hdescriptor : client.descriptor = none)
    (hoffset : client.outgoingOffset ≤ client.outgoing.flatten.length) : Wire log client where
  proper := hproper
  current := by rw [hdescriptor]; nofun
  idle := by rw [hdescriptor]; nofun
  offset := hoffset
  pending := by rw [hdescriptor]; nofun
  introduced := by rw [hdescriptor]; nofun

/-- An event that is about the session only. -/
theorem silent (h : Wire log client) {event : SocketEvent}
    (hmentions : ∀ socket, event.Mentions socket → socket < client.sockets)
    (hsilent : ∀ socket, ¬event.Uses socket ∧ event ≠ .opened socket ∧ ¬event.Ends socket) :
    Wire (log ++ [event]) client := by
  have hold : ∀ {other : SocketEvent} {socket : ℕ}, other.Ends socket → other ∈ log ++ [event] →
      other ∈ log := by
    intro other socket hends hmem
    rcases List.mem_append.mp hmem with hmem | hmem
    · exact hmem
    · rw [List.mem_singleton.mp hmem] at hends
      exact absurd hends (hsilent socket).2.2
  refine ⟨h.proper.silent (Nat.le_refl _) hmentions (fun socket => (hsilent socket).1)
    fun socket hopened => absurd hopened (hsilent socket).2.1, fun socket hdescriptor => ?_,
    fun socket hdescriptor hinvalidated => h.idle socket hdescriptor (hold rfl hinvalidated),
    h.offset, fun socket hdescriptor hvalid => ?_, fun socket hdescriptor hconnected => ?_⟩
  · obtain ⟨hopened, hclosed⟩ := h.current socket hdescriptor
    exact ⟨List.mem_append_left _ hopened, fun hmem => hclosed (hold rfl hmem)⟩
  · rw [sentBytes_append_of_not_uses (hsilent socket).1,
      queuedFrames_append_of_not_uses (hsilent socket).1]
    exact h.pending socket hdescriptor fun hmem => hvalid (List.mem_append_left _ hmem)
  · rw [queuedFrames_append_of_not_uses (hsilent socket).1]
    exact h.introduced socket hdescriptor hconnected

/-- A frame is queued on an open socket whose session has not ended. -/
theorem enqueue (h : Wire log client) {socket : ℕ} {frame : Bytes}
    (hdescriptor : client.descriptor = some socket) (hvalid : .invalidated socket ∉ log)
    (hframe : HelloFirst (queuedFrames socket log ++ [frame])) :
    Wire (log ++ [.queued socket frame]) (client.enqueue socket frame) := by
  obtain ⟨hopened, hclosed⟩ := h.current socket hdescriptor
  have hqueued : queuedFrames socket (log ++ [.queued socket frame]) =
      queuedFrames socket log ++ [frame] := by
    rw [queuedFrames_append, queuedOn, if_pos rfl]
    rfl
  have hsent : sentBytes socket (log ++ [.queued socket frame]) = sentBytes socket log := by
    rw [sentBytes_append]
    exact List.append_nil _
  have hpending : sentBytes socket (log ++ [.queued socket frame]) ++
      (client.outgoing ++ [frame]).flatten.drop client.outgoingOffset =
        (queuedFrames socket (log ++ [.queued socket frame])).flatten := by
    rw [hqueued, hsent, List.flatten_append, List.flatten_append,
      List.drop_append_of_le_length h.offset, ← List.append_assoc,
      h.pending socket hdescriptor hvalid]
  have hsame : ∀ {other}, (client.enqueue socket frame).descriptor = some other →
      socket = other := fun hother => Option.some.inj (hdescriptor.symm.trans hother)
  refine ⟨h.proper.used rfl (fun _ => Eq.symm) hopened hvalid hclosed ?_ ?_, ?_, ?_, ?_, ?_, ?_⟩
  · rw [← hpending]
    exact List.prefix_append _ _
  · rw [hqueued]
    exact hframe
  · intro other hother
    cases hsame hother
    exact ⟨List.mem_append_left _ hopened, by simpa using hclosed⟩
  · intro other hother hinvalidated
    cases hsame hother
    exact absurd (by simpa using hinvalidated) hvalid
  · change client.outgoingOffset ≤ (client.outgoing ++ [frame]).flatten.length
    rw [List.flatten_append, List.length_append]
    exact Nat.le_trans h.offset (Nat.le_add_right _ _)
  · intro other hother _
    cases hsame hother
    exact hpending
  · intro other hother _
    cases hsame hother
    rw [hqueued]
    simp

/-- What is left to send once the next bytes of the first frame are sent. -/
theorem advance_outgoing (socket : ℕ) {frame : Bytes} {frames : List Bytes} {count : ℕ}
    (houtgoing : client.outgoing = frame :: frames)
    (hcount : count ≤ frame.length - client.outgoingOffset) (hpos : 0 < count) :
    client.outgoing.flatten.drop client.outgoingOffset =
        (frame.drop client.outgoingOffset).take count ++
          (client.advance socket frame frames count).outgoing.flatten.drop
            (client.advance socket frame frames count).outgoingOffset ∧
      (client.advance socket frame frames count).outgoingOffset ≤
        (client.advance socket frame frames count).outgoing.flatten.length := by
  have hlength : (frame.drop client.outgoingOffset).length =
      frame.length - client.outgoingOffset := List.length_drop ..
  have hsplit : (frame ++ frames.flatten).drop client.outgoingOffset =
      (frame.drop client.outgoingOffset).take count ++
        (frame ++ frames.flatten).drop (client.outgoingOffset + count) := by
    rw [← List.drop_drop, List.drop_append_of_le_length (by omega),
      ← List.take_append_of_le_length (by omega), List.take_append_drop]
  rw [houtgoing, List.flatten_cons, hsplit]
  unfold ClientImplementation.advance
  dsimp only
  split_ifs with hdone
  · rw [hdone, List.drop_left]
    exact ⟨rfl, Nat.zero_le _⟩
  · refine ⟨?_, ?_⟩
    · rw [houtgoing, List.flatten_cons]
    · dsimp only
      rw [houtgoing, List.flatten_cons, List.length_append]
      omega

/-- A part of the first frame is sent. -/
theorem advance (h : Wire log client) {socket : ℕ} {frame : Bytes} {frames : List Bytes}
    {count : ℕ} (hdescriptor : client.descriptor = some socket)
    (houtgoing : client.outgoing = frame :: frames)
    (hcount : count ≤ frame.length - client.outgoingOffset) (hpos : 0 < count) :
    Wire (log ++ [.sent socket ((frame.drop client.outgoingOffset).take count)])
      (client.advance socket frame frames count) := by
  obtain ⟨hsplit, hoffset⟩ := advance_outgoing socket houtgoing hcount hpos
  obtain ⟨hopened, hclosed⟩ := h.current socket hdescriptor
  have hvalid : .invalidated socket ∉ log := by
    intro hinvalidated
    have hidle := (h.idle socket hdescriptor hinvalidated).1
    rw [houtgoing] at hidle
    cases hidle
  generalize hbytes : (frame.drop client.outgoingOffset).take count = bytes at hsplit ⊢
  have hqueued : queuedFrames socket (log ++ [.sent socket bytes]) = queuedFrames socket log := by
    rw [queuedFrames_append]
    exact List.append_nil _
  have hpending : sentBytes socket (log ++ [.sent socket bytes]) ++
      (client.advance socket frame frames count).outgoing.flatten.drop
        (client.advance socket frame frames count).outgoingOffset =
      (queuedFrames socket (log ++ [.sent socket bytes])).flatten := by
    rw [hqueued, ← h.pending socket hdescriptor hvalid, hsplit, sentBytes_append, sentOn,
      if_pos rfl, Option.getD_some, List.append_assoc]
  have hmembers : (client.advance socket frame frames count).descriptor = client.descriptor ∧
      (client.advance socket frame frames count).sockets = client.sockets ∧
      (client.advance socket frame frames count).connected = client.connected := by
    unfold ClientImplementation.advance
    dsimp only
    split_ifs <;> exact ⟨rfl, rfl, rfl⟩
  obtain ⟨hsame, hsockets, hconnected⟩ := hmembers
  refine ⟨?_, ?_, ?_, hoffset, ?_, ?_⟩
  · rw [hsockets]
    refine h.proper.used rfl (fun _ => Eq.symm) hopened hvalid hclosed ?_ ?_
    · rw [← hpending]
      exact List.prefix_append _ _
    · rw [hqueued]
      exact h.proper.greetings socket
  · intro other hother
    rw [hsame, hdescriptor] at hother
    cases hother
    exact ⟨List.mem_append_left _ hopened, by simpa using hclosed⟩
  · intro other hother hinvalidated
    rw [hsame, hdescriptor] at hother
    cases hother
    exact absurd (by simpa using hinvalidated) hvalid
  · intro other hother _
    rw [hsame, hdescriptor] at hother
    cases hother
    exact hpending
  · intro other hother hother'
    rw [hsame, hdescriptor] at hother
    cases hother
    rw [hqueued]
    exact h.introduced socket hdescriptor (hconnected.symm.trans hother')

/-- The socket is closed. -/
theorem closeSocket (h : Wire log client) :
    Wire (log ++ (client.descriptor.map SocketEvent.closed).toList) client.closeSocket := by
  cases hdescriptor : client.descriptor with
  | none =>
    rw [Option.map_none, Option.toList_none, List.append_nil]
    exact of_closed h.proper rfl (Nat.zero_le _)
  | some socket =>
    have hopened := (h.current socket hdescriptor).1
    refine of_closed (h.proper.silent (Nat.le_refl _) ?_ (fun _ => id) nofun) rfl (Nat.zero_le _)
    rintro other rfl
    exact h.proper.known _ hopened socket rfl

/-- The session is invalidated; the socket stays open. -/
theorem invalidateSession (h : Wire log client) (replacementEpoch : UInt64) :
    Wire (log ++ (client.descriptor.map SocketEvent.invalidated).toList)
      (client.invalidateSession replacementEpoch) := by
  cases hdescriptor : client.descriptor with
  | none =>
    rw [Option.map_none, Option.toList_none, List.append_nil]
    exact of_closed h.proper hdescriptor (Nat.zero_le _)
  | some socket =>
    obtain ⟨hopened, hclosed⟩ := h.current socket hdescriptor
    have hsame : ∀ {other}, (client.invalidateSession replacementEpoch).descriptor = some other →
        socket = other := fun hother => Option.some.inj (hdescriptor.symm.trans hother)
    refine ⟨h.proper.silent (Nat.le_refl _) ?_ (fun _ => id) nofun, ?_, fun _ _ _ => ⟨rfl, rfl⟩,
      Nat.zero_le _, ?_, nofun⟩
    · rintro other rfl
      exact h.proper.known _ hopened socket rfl
    · intro other hother
      cases hsame hother
      exact ⟨List.mem_append_left _ hopened, by simpa using hclosed⟩
    · intro other hother hvalid
      cases hsame hother
      exact absurd (List.mem_append_right _ (List.mem_singleton_self _)) hvalid

theorem handleDisconnect (h : Wire log client) :
    Wire (log ++ (client.descriptor.map SocketEvent.closed).toList) client.handleDisconnect :=
  of_closed h.closeSocket.proper rfl (Nat.zero_le _)

/-- A new socket: nothing has been queued for it. -/
theorem openSocket (h : Wire log client) (hidle : Idle client) :
    Wire (log ++ [.opened client.sockets]) client.openSocket ∧
      queuedFrames client.sockets (log ++ [.opened client.sockets]) = [] ∧
      .invalidated client.sockets ∉ log ++ [.opened client.sockets] := by
  have hnew : ∀ event ∈ log, ¬event.Mentions client.sockets := fun event hmem hmentions =>
    Nat.lt_irrefl _ (h.proper.known event hmem _ hmentions)
  have hunused : ∀ event ∈ log ++ [SocketEvent.opened client.sockets],
      ¬event.Uses client.sockets := by
    intro event hmem huses
    rcases List.mem_append.mp hmem with hmem | hmem
    · exact hnew event hmem huses.mentions
    · rw [List.mem_singleton.mp hmem] at huses
      exact huses
  have hvalid : .invalidated client.sockets ∉ log ++ [SocketEvent.opened client.sockets] := by
    intro hmem
    rcases List.mem_append.mp hmem with hmem | hmem
    · exact hnew _ hmem rfl
    · cases List.mem_singleton.mp hmem
  refine ⟨⟨?_, ?_, ?_, ?_, ?_, ?_⟩, queuedFrames_eq_nil hunused, hvalid⟩
  · refine h.proper.silent (Nat.le_succ _) ?_ (fun _ => id) ?_
    · rintro other rfl
      exact Nat.lt_succ_self _
    · rintro other hother event hmem
      cases hother
      exact hunused event (List.mem_append_left _ hmem)
  · rintro other hother
    cases hother
    refine ⟨List.mem_append_right _ (List.mem_singleton_self _), fun hmem => ?_⟩
    rcases List.mem_append.mp hmem with hmem | hmem
    · exact hnew _ hmem rfl
    · cases List.mem_singleton.mp hmem
  · rintro other hother hinvalidated
    cases hother
    exact absurd hinvalidated hvalid
  · exact h.offset
  · rintro other hother -
    cases hother
    change _ ++ client.outgoing.flatten.drop _ = _
    rw [sentBytes_eq_nil hunused, queuedFrames_eq_nil hunused, hidle.outgoing]
    exact List.drop_nil
  · rintro other - hother
    exact absurd (hidle.connected.symm.trans hother) nofun

/-- The session on the current socket begins. -/
theorem establish (h : Wire log client) {socket : ℕ} (epoch : UInt64)
    (hdescriptor : client.descriptor = some socket) (hvalid : .invalidated socket ∉ log)
    (hintroduced : queuedFrames socket log ≠ []) :
    Wire (log ++ [.established socket epoch]) { client with connected := true } := by
  have hopened := (h.current socket hdescriptor).1
  have hlog : Wire (log ++ [.established socket epoch]) client := by
    refine h.silent ?_ fun _ => ⟨id, nofun, id⟩
    rintro other rfl
    exact h.proper.known _ hopened socket rfl
  refine ⟨hlog.proper, hlog.current, fun other hother hinvalidated => ?_, hlog.offset, hlog.pending,
    fun other hother _ => ?_⟩
  · obtain rfl : socket = other := Option.some.inj (hdescriptor.symm.trans hother)
    exact absurd (by simpa using hinvalidated) hvalid
  · obtain rfl : socket = other := Option.some.inj (hdescriptor.symm.trans hother)
    rw [queuedFrames_append]
    exact List.append_ne_nil_of_left_ne_nil hintroduced _

theorem move (h : Wire (past ++ client.log) client) (hmove : Move client next) :
    Wire (past ++ next.log) next := by
  cases hmove with
  | live hlive =>
    cases hlive with
    | quiet hquiet =>
      rw [hquiet.log]
      exact h.congr hquiet.sameWire
    | greeted hgreeted =>
      rw [hgreeted.log, ← List.append_assoc]
      refine (h.silent ?_ fun socket => ⟨id, ?_, id⟩).congr hgreeted.sameWire
      · exact fun _ hmentions => hmentions.elim
      · exact nofun
    | sent hdescriptor houtgoing hpos hcount =>
      rw [advance_log, ← List.append_assoc]
      exact h.advance hdescriptor houtgoing hcount hpos
  | invalidated replacementEpoch =>
    have hnext := h.invalidateSession replacementEpoch
    rwa [List.append_assoc] at hnext
  | disconnected =>
    have hnext := h.handleDisconnect
    rwa [List.append_assoc] at hnext

theorem moves (h : Wire (past ++ client.log) client) (hmoves : Moves client next) :
    Wire (past ++ next.log) next := by
  induction hmoves with
  | refl => exact h
  | tail _ hmove ih => exact ih.move hmove

end Wire

/-! ### Steps -/

section

variable {past : List SocketEvent} {builds : Bytes → Prop} {client next : ClientImplementation}

/-- The Hello of a new socket is its first frame. -/
theorem Wire.introduce (h : Wire (past ++ client.log) client) (hidle : Idle client) :
    Wire (past ++ client.introduce.log) client.introduce ∧
      .invalidated client.sockets ∉ past ++ client.introduce.log ∧
      queuedFrames client.sockets (past ++ client.introduce.log) ≠ [] := by
  obtain ⟨hopened, hnone, hvalid⟩ := h.openSocket hidle
  have hlog : past ++ client.introduce.log = past ++ client.log ++ [.opened client.sockets] ++
      [.queued client.sockets client.helloFrame] := by
    rw [introduce_log, List.append_assoc, List.append_assoc]
    rfl
  rw [hlog]
  refine ⟨?_, ?_, ?_⟩
  · have htaken : Wire (past ++ client.log ++ [.opened client.sockets])
        client.openSocket.takeRequestId.2 := hopened.congr {}
    refine (htaken.enqueue rfl hvalid ?_).congr {}
    rw [hnone]
    exact .cons client.isHello_helloFrame nofun
  · intro hmem
    rcases List.mem_append.mp hmem with hmem | hmem
    · exact hvalid hmem
    · cases List.mem_singleton.mp hmem
  · rw [queuedFrames_append, queuedOn, if_pos rfl]
    simp

/-- A request goes behind the Hello. -/
theorem Wire.request (h : Wire (past ++ client.log) client) {socket : ℕ} {frame : Bytes}
    (hdescriptor : client.descriptor = some socket) (hconnected : client.connected = true)
    (hframe : IsRequest frame) :
    Wire (past ++ (client.enqueue socket frame).log) (client.enqueue socket frame) := by
  have hqueued := h.enqueue hdescriptor (fun hinvalidated => ?_)
    ((h.proper.greetings socket).append (h.introduced socket hdescriptor hconnected) hframe)
  · rwa [List.append_assoc] at hqueued
  · have hidle := (h.idle socket hdescriptor hinvalidated).2
    exact absurd (hconnected.symm.trans hidle) nofun

/-- A session that went on since its Hello was queued begins. -/
theorem Wire.established (h : Wire (past ++ client.log) client) (hlives : Lives client next)
    {socket : ℕ} (hdescriptor : client.descriptor = some socket)
    (hvalid : .invalidated socket ∉ past ++ client.log)
    (hintroduced : queuedFrames socket (past ++ client.log) ≠ []) :
    Wire (past ++ (next.establish socket).log) (next.establish socket) := by
  obtain ⟨events, hlog, hserving⟩ := Lives.log hlives
  have hstill : .invalidated socket ∉ past ++ next.log := by
    intro hinvalidated
    rw [hlog, ← List.append_assoc] at hinvalidated
    rcases List.mem_append.mp hinvalidated with hmem | hmem
    · exact hvalid hmem
    · cases hserving _ hmem
  have hqueued : queuedFrames socket (past ++ next.log) ≠ [] := by
    rw [hlog, ← List.append_assoc, queuedFrames, List.filterMap_append]
    exact List.append_ne_nil_of_left_ne_nil hintroduced _
  have hnext := (h.moves hlives.moves).establish next.epoch
    ((Lives.descriptor hlives).trans hdescriptor) hstill hqueued
  rw [List.append_assoc] at hnext
  exact hnext.congr {}

theorem Wire.step (h : Wire (past ++ client.log) client) (hstep : Step builds client next) :
    Wire (past ++ next.log) next := by
  cases hstep with
  | move hmove => exact h.move hmove
  | closed =>
    have hclosed := h.closeSocket
    rwa [List.append_assoc] at hclosed
  | opened hidle =>
    have hopened := (h.openSocket hidle).1
    rwa [List.append_assoc] at hopened
  | introduced hidle => exact (h.introduce hidle).1
  | established hidle _ _ hlives =>
    obtain ⟨hwire, hvalid, hintroduced⟩ := h.introduce hidle
    exact hwire.established hlives rfl hvalid hintroduced
  | requested _ hdescriptor hconnected hframe =>
    exact h.request hdescriptor hconnected hframe.isRequest
  | enabled _ hdescriptor hrequire hframe _ hlives =>
    have hrequested := h.request hdescriptor (connected_of_requireController hrequire)
      hframe.isRequest
    exact (hrequested.moves hlives.moves).congr {}
  | released => exact h.congr {}
  | left =>
    have hclosed := h.closeSocket.proper
    rw [List.append_assoc] at hclosed
    exact .of_closed hclosed rfl (Nat.zero_le _)

/-- A step queues only frames that the call builds. -/
theorem Step.built (hstep : Step builds client next) {socket : ℕ} {frame : Bytes}
    (hmem : .queued socket frame ∈ next.log) : .queued socket frame ∈ client.log ∨ builds frame := by
  have hmoves : ∀ {before after : ClientImplementation}, Moves before after →
      .queued socket frame ∈ after.log → .queued socket frame ∈ before.log := by
    intro before after hmoves hmem
    obtain ⟨events, hlog, hall⟩ := Moves.log hmoves
    rw [hlog] at hmem
    refine (List.mem_append.mp hmem).resolve_right fun hmem => ?_
    cases hall _ hmem with
    | serving hserving => cases hserving
  have henqueue : ∀ {before : ClientImplementation} {place : ℕ} {bytes : Bytes}, builds bytes →
      .queued socket frame ∈ (before.enqueue place bytes).log →
      .queued socket frame ∈ before.log ∨ builds frame := by
    intro before place bytes hbuilds hmem
    rcases List.mem_append.mp hmem with hmem | hmem
    · exact .inl hmem
    · cases List.mem_singleton.mp hmem
      exact .inr hbuilds
  have hintroduce : builds client.helloFrame → .queued socket frame ∈ client.introduce.log →
      .queued socket frame ∈ client.log ∨ builds frame := by
    intro hbuilds hmem
    refine (henqueue hbuilds hmem).imp_left fun hmem => ?_
    exact (List.mem_append.mp hmem).resolve_right fun hmem => by cases List.mem_singleton.mp hmem
  have hclose : .queued socket frame ∈ client.closeSocket.log →
      .queued socket frame ∈ client.log := by
    intro hmem
    refine (List.mem_append.mp hmem).resolve_right fun hmem => ?_
    obtain ⟨other, -, hother⟩ := Option.map_eq_some_iff.mp (Option.mem_toList.mp hmem)
    cases hother
  cases hstep with
  | move hmove => exact .inl (hmoves (.single hmove) hmem)
  | closed => exact .inl (hclose hmem)
  | opened =>
    refine .inl ((List.mem_append.mp hmem).resolve_right fun hmem => ?_)
    cases List.mem_singleton.mp hmem
  | introduced _ _ hbuilds => exact hintroduce hbuilds hmem
  | established _ _ hbuilds hlives =>
    refine hintroduce hbuilds (hmoves hlives.moves ?_)
    refine (List.mem_append.mp hmem).resolve_right fun hmem => ?_
    cases List.mem_singleton.mp hmem
  | requested _ _ _ _ hbuilds => exact henqueue hbuilds hmem
  | enabled _ _ _ _ hbuilds hlives => exact henqueue hbuilds (hmoves hlives.moves hmem)
  | released => exact .inl hmem
  | left => exact .inl (hclose hmem)

theorem Steps.built (hsteps : Steps builds client next) {socket : ℕ} {frame : Bytes}
    (hmem : .queued socket frame ∈ next.log) : .queued socket frame ∈ client.log ∨ builds frame := by
  induction hsteps with
  | refl => exact .inl hmem
  | tail _ hstep ih =>
    rcases hstep.built hmem with hmem | hbuilds
    · exact ih hmem
    · exact .inr hbuilds

end

/-! ### Lives -/

theorem built_of_history (client : ClientImplementation) (calls : List ClientCall) :
    ∀ entry ∈ history perform client calls, ∀ socket frame,
      .queued socket frame ∈ entry.2.2 → entry.1.Builds frame := by
  induction calls generalizing client with
  | nil => exact fun entry hmem => absurd hmem List.not_mem_nil
  | cons call calls ih =>
    intro entry hmem
    rcases List.mem_cons.mp hmem with rfl | hmem
    · intro socket frame hqueued
      exact (Steps.built (steps_call { client with log := [] } call) hqueued).resolve_left
        List.not_mem_nil
    · exact ih _ entry hmem

/-- In every life of a client the bytes sent on a socket are a prefix of the frames queued
for it, one Hello and the requests after it; each frame is built by the call that queues it;
a socket is used only after it was opened and before its session ends. -/
theorem sent_prefix_of_queued (options : ClientOptions) (heartbeatPeriod : ℕ)
    (calls : List ClientCall) :
    (∀ socket,
        sentBytes socket ((create options heartbeatPeriod).socketLog calls) <+:
          (queuedFrames socket ((create options heartbeatPeriod).socketLog calls)).flatten ∧
        HelloFirst (queuedFrames socket ((create options heartbeatPeriod).socketLog calls))) ∧
      (∀ entry ∈ history perform (create options heartbeatPeriod) calls, ∀ socket frame,
        .queued socket frame ∈ entry.2.2 → entry.1.Builds frame) ∧
      ((create options heartbeatPeriod).socketLog calls).Pairwise InOrder ∧
      ∀ event ∈ (create options heartbeatPeriod).socketLog calls, ∀ socket,
        event.Uses socket → .opened socket ∈ (create options heartbeatPeriod).socketLog calls := by
  have hnew : Wire [] (create options heartbeatPeriod) :=
    .of_closed ⟨nofun, nofun, .nil, fun _ => List.prefix_rfl, fun _ => .nil⟩ rfl (Nat.zero_le _)
  have hwire : Wire ((create options heartbeatPeriod).socketLog calls) _ :=
    history_induction (fun _ _ h => h.congr {}) (fun _ _ _ _ h hstep => h.step hstep) hnew calls
  exact ⟨fun socket => ⟨hwire.proper.sound socket, hwire.proper.greetings socket⟩,
    built_of_history _ calls, hwire.proper.order, hwire.proper.opened⟩

end ClientImplementation

end EcSystemCore
