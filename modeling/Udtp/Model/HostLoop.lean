import Udtp.Computation.QueuedErase
import Udtp.Computation.StepMachine
import Udtp.Model.Dispatch

/-!
# The loop of the HOST

`listenThread` on the HOST, cut into steps: one call of `poll()`, one test of the listen
socket, one visit of a connection, and the removal of the peers that were queued.  What
the operating system answers, and what the memory of a new object holds, is the input of
a step; a step reads the part of its input that its phase needs.

The result of `accept()` is tested as an unsigned number below zero, so that a failed
call is taken for a connection.
-/

set_option autoImplicit false

namespace Udtp

/-! ## Inputs -/

/-- `pollin` is `revents & POLLIN`. -/
structure PollFd where
  fd : Socket
  pollin : Bool
  deriving DecidableEq, Inhabited

/-- What `accept()` returns, and the memory of the objects made after it.  `newRevents` is
what the new entry's `revents` hold before the first `poll()`. -/
structure AcceptAnswer where
  result : ℤ
  newPeerAddress : SockAddrIn
  newRevents : Bool
  peerMemory : UDTPPeer
  mutexReady : Bool
  handshakeMemory : UDTPHandshake
  deriving Inhabited

/-- What `read()` returns and leaves in `packetDeduction`, and the contents the packet
object has after `recv()`. -/
structure ReadAnswer where
  count : ℤ
  packetDeduction : UDTPPacketHeader
  contents : Contents
  deriving Inhabited

/-- What one step of the loop finds around it.  `poll` is `none` where `poll()` failed and
left every `revents` as it was. -/
structure HostInput where
  environment : Environment
  poll : Option (ℕ → Bool)
  accept : AcceptAnswer
  read : ReadAnswer
  deriving Inhabited

namespace HostInput

/-- Steps of a round in which the listen socket alone is readable. -/
def connecting : HostInput := { (default : HostInput) with poll := some (· == 0) }

/-- Steps of a round in which every peer is readable, with the same answer of `read()`. -/
def reading (read : ReadAnswer) : HostInput :=
  { (default : HostInput) with
    environment := { (default : Environment) with setup := .defaults }
    poll := some (0 < ·)
    read := read }

/-- Steps of a round in which every peer is at the end of its connection. -/
def closing : HostInput := reading default

end HostInput

/-- A handshake that sends a version and a chunk size. -/
def ReadAnswer.settings (version chunkSize : UInt16) : ReadAnswer :=
  { (default : ReadAnswer) with
    count := 8
    packetDeduction := ⟨12, 0, .handshake⟩
    contents := { (default : Contents) with
      handshake := { (default : UDTPHandshake) with
        raw := LittleEndian.store default 0
          (UDTPHandShakeData.toBytes ⟨0xF0, version, 0, chunkSize, 0⟩) } } }

/-! ## States -/

/-- What the loop does next.
SRCLINE: UDTP.cpp:203, UDTP.cpp:206, UDTP.cpp:239, UDTP.cpp:309 -/
inductive HostPhase
  | poll
  | accept
  | scan (i : ℕ)
  | removal
  deriving DecidableEq

/-- The endpoint, the local variables of `listenThread` and what was sent so far.
`accepted` counts the calls of `accept()`.
SRCLINE: UDTP.cpp:183-195 -/
structure HostLoop where
  udtp : UDTP
  activeListenSockets : List PollFd
  removePeerAndSocketSafely : List ℕ
  sent : List Sent
  accepted : ℕ
  phase : HostPhase

/-- The loop before its first round. -/
def HostLoop.new (u : UDTP) : HostLoop where
  udtp := u
  activeListenSockets := [{ fd := u.listenSocket, pollin := false }]
  removePeerAndSocketSafely := []
  sent := []
  accepted := 0
  phase := .poll

/-! ## Accepting a peer -/

/-- SRCLINE: UDTP.cpp:221-225 -/
def UDTP.acceptPeer (answer : AcceptAnswer) (newPeerListenSocket : Socket) (u : UDTP) :
    ℕ × UDTP :=
  let u := { u with uniqueIDCount := u.uniqueIDCount + 1 }
  let added := u.addPeer answer.peerMemory answer.mutexReady newPeerListenSocket
  (added.1, ((added.2.modifyPeer added.1 (UDTPPeer.setAddress answer.newPeerAddress)).modifyPeer
    added.1 (UDTPPeer.setUniqueID u.uniqueIDCount)).modifyPeer added.1 (UDTPPeer.setHostLocal true))

/-- The record a new connection gets. -/
def acceptedPeer (answer : AcceptAnswer) (socket : Socket) (uniqueID : UInt32) : UDTPPeer :=
  (((UDTPPeer.new answer.peerMemory answer.mutexReady socket).setOnline.setAddress
    answer.newPeerAddress).setUniqueID uniqueID).setHostLocal true

/-- Accepting a peer appends its record under the next unique ID. -/
theorem UDTP.acceptPeer_eq (answer : AcceptAnswer) (socket : Socket) (u : UDTP) :
    u.acceptPeer answer socket = (u.listPeers.length,
      { u with
        uniqueIDCount := u.uniqueIDCount + 1
        listPeers := u.listPeers ++ [acceptedPeer answer socket (u.uniqueIDCount + 1)] }) := by
  have hmodify : ∀ (f : UDTPPeer → UDTPPeer) (p : UDTPPeer),
      (u.listPeers ++ [p]).modify u.listPeers.length f = u.listPeers ++ [f p] := by
    intro f p
    apply List.ext_getElem?
    intro k
    rw [List.getElem?_modify]
    rcases Nat.lt_trichotomy k u.listPeers.length with hk | rfl | hk
    · simp [List.getElem?_append_left hk, hk.ne']
    · simp
    · have hnone : ∀ q : UDTPPeer, (u.listPeers ++ [q])[k]? = none := by
        intro q
        apply List.getElem?_eq_none
        rw [List.length_append, List.length_singleton]
        omega
      simp [hk.ne, hnone]
  simp [acceptPeer, addPeer, modifyPeer, hmodify, acceptedPeer]

/-- The record of a new connection has the socket of the connection. -/
@[simp]
theorem acceptedPeer_listenSocket (answer : AcceptAnswer) (socket : Socket) (uniqueID : UInt32) :
    (acceptedPeer answer socket uniqueID).listenSocket = socket := by
  simp [acceptedPeer, UDTPPeer.setHostLocal, UDTPPeer.setUniqueID, UDTPPeer.setAddress,
    UDTPPeer.setOnline]

/-- The record of a new connection has no flow thread queued. -/
@[simp]
theorem acceptedPeer_flowThreads (answer : AcceptAnswer) (socket : Socket) (uniqueID : UInt32) :
    (acceptedPeer answer socket uniqueID).flowThreads = [] := by
  simp [acceptedPeer, UDTPPeer.setHostLocal, UDTPPeer.setUniqueID, UDTPPeer.setAddress,
    UDTPPeer.setOnline]

/-- The record of a new connection has the unique ID it was given. -/
@[simp]
theorem acceptedPeer_uniqueID (answer : AcceptAnswer) (socket : Socket) (uniqueID : UInt32) :
    (acceptedPeer answer socket uniqueID).uniqueID = uniqueID := rfl

/-- The record of a new connection is online. -/
@[simp]
theorem acceptedPeer_isOnline (answer : AcceptAnswer) (socket : Socket) (uniqueID : UInt32) :
    (acceptedPeer answer socket uniqueID).isOnline = true := rfl

/-- The record of a new connection has no handshake recorded. -/
@[simp]
theorem acceptedPeer_handshake (answer : AcceptAnswer) (socket : Socket) (uniqueID : UInt32) :
    (acceptedPeer answer socket uniqueID).checkInitProcess .handshake = false := by
  simp [acceptedPeer, UDTPPeer.checkInitProcess_new]

/-- The handshake a new peer is sent.
SRCLINE: UDTP.cpp:226-233 -/
def handshakeStart (env : Environment) (answer : AcceptAnswer) (newPeerListenSocket : Socket)
    (newPeerID : ℕ) (uniqueID : UInt32) : UDTPHandshake :=
  let h := UDTPHandshake.ofResponseCode answer.handshakeMemory .responseStart
  let h := { h with socketID := newPeerListenSocket, peerID := newPeerID, uniqueID := uniqueID }
  (h.pack env).2

namespace HostLoop

/-- SRCLINE: UDTP.cpp:207-237 -/
def acceptConnection (env : Environment) (answer : AcceptAnswer) (s : HostLoop) :
    Except Fault HostLoop :=
  let newPeerListenSocket : Socket :=
    { descriptor := UInt32.ofInt answer.result, connection := s.accepted + 1 }
  let peers := s.udtp.acceptPeer answer newPeerListenSocket
  match peers.2.getPeer peers.1 with
  | none => .error .nullPeer
  | some peer => .ok { s with
      udtp := peers.2
      activeListenSockets :=
        s.activeListenSockets ++ [{ fd := newPeerListenSocket, pollin := answer.newRevents }]
      sent := s.sent ++ peer.sendTo (.handshake (handshakeStart env answer newPeerListenSocket
        peers.1 peers.2.uniqueIDCount))
      accepted := s.accepted + 1 }

/-! ## Visiting a connection -/

/-- A readable connection: a packet, unless `read()` returns `0`.
SRCLINE: UDTP.cpp:241-306 -/
def visit (input : HostInput) (socket : Socket) (i : ℕ) (s : HostLoop) :
    Except Fault HostLoop :=
  match s.udtp.getPeer i with
  | none => .error .nullPeer
  | some peer =>
    if input.read.count ≠ 0 then
      if peer.isOnline then
        match receiveHost input.environment input.read.contents input.read.packetDeduction socket i
            s.udtp with
        | .error fault => .error fault
        | .ok (sent, u) => .ok { s with udtp := u, sent := s.sent ++ sent }
      else .ok s
    else .ok { s with
      udtp := s.udtp.modifyPeer i UDTPPeer.setOffline
      removePeerAndSocketSafely := s.removePeerAndSocketSafely ++ [i] }

/-! ## Removing the queued peers -/

/-- Erase the queued positions one after another, each from both arrays.
SRCLINE: UDTP.cpp:309-316 -/
def removeQueued : List ℕ → List PollFd → UDTP → Except Fault (List PollFd × UDTP)
  | [], sockets, u => .ok (sockets, u)
  | posID :: queue, sockets, u =>
    if posID < sockets.length then
      match u.removePeer posID with
      | .error fault => .error fault
      | .ok (_, u') => removeQueued queue (sockets.eraseIdx posID) u'
    else .error .eraseOutOfRange

/-! ## Steps -/

/-- Go on with another phase. -/
def setPhase (phase : HostPhase) (s : HostLoop) : HostLoop := { s with phase := phase }

/-- What `poll()` writes into the entries. -/
def setRevents (answer : Option (ℕ → Bool)) (s : HostLoop) : HostLoop :=
  match answer with
  | none => s
  | some ready => { s with
      activeListenSockets := s.activeListenSockets.mapIdx fun k entry =>
        { entry with pollin := ready k } }

/-- One step of the loop.
SRCLINE: UDTP.cpp:201-317 -/
def step (s : HostLoop) (input : HostInput) : Except Fault HostLoop :=
  match s.phase with
  | .poll => .ok ((s.setRevents input.poll).setPhase .accept)
  | .accept =>
    match s.activeListenSockets with
    | [] => .error .indexOutOfRange
    | listenEntry :: _ =>
      if listenEntry.pollin then
        (s.acceptConnection input.environment input.accept).map (setPhase (.scan 1))
      else .ok (s.setPhase (.scan 1))
  | .scan i =>
    match s.activeListenSockets[i]? with
    | none => .ok (s.setPhase .removal)
    | some entry =>
      if entry.pollin then (s.visit input entry.fd i).map (setPhase (.scan (i + 1)))
      else .ok (s.setPhase (.scan (i + 1)))
  | .removal =>
    (removeQueued s.removePeerAndSocketSafely s.activeListenSockets s.udtp).map fun r =>
      { s with
        activeListenSockets := r.1
        udtp := r.2
        removePeerAndSocketSafely := []
        phase := .poll }

/-- A run of the loop from a `start()` on. -/
abbrev run (u : UDTP) (ins : List HostInput) : Except Fault HostLoop :=
  StepMachine.run step (new u) ins

end HostLoop

/-! ## Events -/

/-- What a step of the loop has to do with the outside. -/
inductive HostEvent
  | poll
  | accepted (env : Environment) (answer : AcceptAnswer)
  /-- A readable connection that did not end. -/
  | packet (connection : ℕ) (env : Environment) (answer : ReadAnswer)
  /-- A connection at its end, and the position it was found at. -/
  | disconnect (connection : ℕ) (i : ℕ)
  | removal

/-- The event of a step, if it has one.  A removal with nothing to remove has none. -/
def HostLoop.event (s : HostLoop) (input : HostInput) : Option HostEvent :=
  match s.phase with
  | .poll => some .poll
  | .accept =>
    match s.activeListenSockets with
    | [] => none
    | listenEntry :: _ =>
      if listenEntry.pollin then some (.accepted input.environment input.accept) else none
  | .scan i =>
    match s.activeListenSockets[i]? with
    | none => none
    | some entry =>
      if entry.pollin then
        if input.read.count ≠ 0 then
          some (.packet entry.fd.connection input.environment input.read)
        else some (.disconnect entry.fd.connection i)
      else none
  | .removal => if s.removePeerAndSocketSafely = [] then none else some .removal

/-- The connection the HOST is about to read from: the entry of the scan is marked readable.
SRCLINE: UDTP.cpp:239-244 -/
def HostLoop.readsFrom (s : HostLoop) : Option ℕ :=
  match s.phase with
  | .scan i =>
    match s.activeListenSockets[i]? with
    | none => none
    | some entry => if entry.pollin then some entry.fd.connection else none
  | _ => none

/-- Whether the record at the position of the scan is online.
SRCLINE: UDTP.cpp:246 -/
def HostLoop.readsOnline (s : HostLoop) : Bool :=
  match s.phase with
  | .scan i => (s.udtp.getPeer i).any UDTPPeer.isOnline
  | _ => false

end Udtp
