import Udtp.Analysis.HostSteps

/-!
# The parallel arrays of the HOST

`activeListenSockets` and `_listPeers` are two vectors that the loop keeps in step by
hand.  `HostLoop.Aligned` says what it keeps: the sockets agree position by position, no
connection occurs twice, the first is the listen socket, and the positions queued for
removal were passed by the scan in ascending order.  `run_aligned` establishes it for
every state of every run.
-/

set_option autoImplicit false

namespace Udtp

open QueuedErase

/-- The connections of the records, in order. -/
def UDTP.connections (u : UDTP) : List ℕ := u.listPeers.map fun p => p.listenSocket.connection

namespace HostLoop

/-! ## The removal loop -/

/-- With arrays of one length, the removal loop erases the queued positions from both and
touches nothing else. -/
theorem removeQueued_ok {queue : List ℕ} {sockets sockets' : List PollFd} {u u' : UDTP}
    (hlength : sockets.length = u.listPeers.length)
    (h : removeQueued queue sockets u = .ok (sockets', u')) :
    eraseEach queue sockets = some sockets' ∧ eraseEach queue u.listPeers = some u'.listPeers ∧
      u' = { u with listPeers := u'.listPeers } := by
  induction queue generalizing sockets u with
  | nil =>
    cases h
    exact ⟨rfl, rfl, rfl⟩
  | cons posID queue ih =>
    rw [removeQueued] at h
    split at h
    case isFalse => cases h
    rename_i hpos
    have hpeer : posID < u.listPeers.length := hlength ▸ hpos
    split at h
    · cases h
    rename_i removed v hremoved
    obtain rfl := UDTP.removePeer_ok hremoved
    have hlength' : (sockets.eraseIdx posID).length =
        ({ u with listPeers := u.listPeers.eraseIdx posID } : UDTP).listPeers.length := by
      simp [List.length_eraseIdx, hpeer, hlength]
    obtain ⟨hs, hp, hu⟩ := ih hlength' h
    exact ⟨by rw [eraseEach, if_pos hpos, hs], by rw [eraseEach, if_pos hpeer, hp], hu⟩

/-- What `poll()` writes leaves the sockets of the entries alone. -/
theorem map_fd_mapIdx (sockets : List PollFd) (ready : ℕ → Bool) :
    (sockets.mapIdx fun k entry => { entry with pollin := ready k }).map PollFd.fd =
      sockets.map PollFd.fd := by
  apply List.ext_getElem?
  intro k
  simp only [List.getElem?_map, List.getElem?_mapIdx]
  cases sockets[k]? <;> rfl

/-! ## The invariant -/

/-- How far the scan has come bounds the queued positions; outside the scan and the
removal nothing is queued. -/
def Scanned : HostPhase → List ℕ → Prop
  | .poll, queue => queue = []
  | .accept, queue => queue = []
  | .scan i, queue => 1 ≤ i ∧ ∀ j ∈ queue, j < i
  | .removal, _ => True

/-- The scan goes on to the next position. -/
theorem scanned_succ {i : ℕ} {queue : List ℕ} (h : Scanned (.scan i) queue) :
    Scanned (.scan (i + 1)) queue := by
  obtain ⟨hi, hbelow⟩ := h
  constructor
  · omega
  · intro j hj
    have := hbelow j hj
    omega

/-- What every step keeps. -/
structure Aligned (s : HostLoop) : Prop where
  parallel : s.activeListenSockets.map PollFd.fd = s.udtp.listPeers.map UDTPPeer.listenSocket
  nodup : s.udtp.connections.Nodup
  bounded : ∀ c ∈ s.udtp.connections, c ≤ s.accepted
  self : s.udtp.connections[0]? = some 0
  flowThreads : ∀ p ∈ s.udtp.listPeers, p.flowThreads = []
  ascending : s.removePeerAndSocketSafely.Pairwise (· < ·)
  remote : ∀ i ∈ s.removePeerAndSocketSafely, 1 ≤ i
  inRange : ∀ i ∈ s.removePeerAndSocketSafely, i < s.udtp.listPeers.length
  scanned : Scanned s.phase s.removePeerAndSocketSafely

namespace Aligned

variable {s t : HostLoop} {input : HostInput}

/-- There are as many entries as records. -/
theorem length_eq (h : Aligned s) : s.activeListenSockets.length = s.udtp.listPeers.length := by
  simpa using congrArg List.length h.parallel

/-- The entry and the record at one position have the same socket. -/
theorem socket_eq (h : Aligned s) {i : ℕ} {entry : PollFd} {peer : UDTPPeer}
    (hentry : s.activeListenSockets[i]? = some entry) (hpeer : s.udtp.getPeer i = some peer) :
    entry.fd = peer.listenSocket := by
  have hfd : (s.activeListenSockets.map PollFd.fd)[i]? = some entry.fd := by simp [hentry]
  have hrec : s.udtp.listPeers[i]? = some peer := hpeer
  rw [h.parallel] at hfd
  simpa [hrec] using hfd.symm

/-- A connection names one position. -/
theorem position_inj (h : Aligned s) {i j : ℕ} {p q : UDTPPeer} (hp : s.udtp.getPeer i = some p)
    (hq : s.udtp.getPeer j = some q)
    (hc : p.listenSocket.connection = q.listenSocket.connection) : i = j := by
  have hi : s.udtp.connections[i]? = some p.listenSocket.connection := by
    simp only [UDTP.connections, List.getElem?_map]
    rw [show s.udtp.listPeers[i]? = some p from hp]
    rfl
  have hj : s.udtp.connections[j]? = some q.listenSocket.connection := by
    simp only [UDTP.connections, List.getElem?_map]
    rw [show s.udtp.listPeers[j]? = some q from hq]
    rfl
  have hlt : i < s.udtp.connections.length := (List.getElem?_eq_some_iff.mp hi).1
  exact (List.getElem?_inj hlt h.nodup).mp (by rw [hi, hj, hc])

/-- Updates that keep sockets, records' connections and thread queues keep the
alignment. -/
theorem of_same_connections {u : UDTP} (h : Aligned s)
    (hu : u.listPeers.map UDTPPeer.listenSocket = s.udtp.listPeers.map UDTPPeer.listenSocket)
    (hflow : ∀ p ∈ u.listPeers, p.flowThreads = []) {queue : List ℕ} {phase : HostPhase}
    {sockets : List PollFd} {sent : List Sent}
    (hsockets : sockets.map PollFd.fd = s.activeListenSockets.map PollFd.fd)
    (hascending : queue.Pairwise (· < ·)) (hremote : ∀ i ∈ queue, 1 ≤ i)
    (hrange : ∀ i ∈ queue, i < s.udtp.listPeers.length) (hscanned : Scanned phase queue) :
    Aligned { s with
      udtp := u, activeListenSockets := sockets, removePeerAndSocketSafely := queue,
      phase := phase, sent := sent } := by
  have hconn : u.connections = s.udtp.connections := by
    have := congrArg (List.map Socket.connection) hu
    simpa [UDTP.connections, Function.comp_def] using this
  have hlength : u.listPeers.length = s.udtp.listPeers.length := by
    simpa using congrArg List.length hu
  exact {
    parallel := by rw [hsockets, h.parallel, ← hu]
    nodup := hconn ▸ h.nodup
    bounded := hconn ▸ h.bounded
    self := hconn ▸ h.self
    flowThreads := hflow
    ascending := hascending
    remote := hremote
    inRange := by
      intro i hi
      exact hlength ▸ hrange i hi
    scanned := hscanned }

/-- A change of phase keeps the arrays aligned as long as the scan has come to the positions
queued. -/
theorem of_phase (h : Aligned s) {phase : HostPhase} {sockets : List PollFd}
    (hsockets : sockets.map PollFd.fd = s.activeListenSockets.map PollFd.fd)
    (hscanned : Scanned phase s.removePeerAndSocketSafely) :
    Aligned { s with activeListenSockets := sockets, phase := phase } :=
  h.of_same_connections rfl h.flowThreads hsockets h.ascending h.remote h.inRange hscanned

/-- Accepting a peer appends a connection that was not there. -/
theorem accept (h : Aligned s) (hphase : s.phase = .accept) :
    Aligned ((s.afterAccept input.environment input.accept).setPhase (.scan 1)) := by
  have hqueue : s.removePeerAndSocketSafely = [] := by
    simpa [hphase, Scanned] using h.scanned
  have hconn : ((s.afterAccept input.environment input.accept).setPhase (.scan 1)).udtp.connections
      = s.udtp.connections ++ [s.accepted + 1] := by
    simp [UDTP.connections, afterAccept, setPhase, nextSocket]
  have hself := h.self
  have hne : s.udtp.connections ≠ [] := by
    intro heq
    rw [heq] at hself
    simp at hself
  refine
    { parallel := by simp [afterAccept, setPhase, h.parallel]
      nodup := ?_
      bounded := ?_
      self := ?_
      flowThreads := ?_
      ascending := by simp [afterAccept, setPhase, hqueue]
      remote := by simp [afterAccept, setPhase, hqueue]
      inRange := by simp [afterAccept, setPhase, hqueue]
      scanned := by simp [afterAccept, setPhase, hqueue, Scanned] }
  · rw [hconn, List.nodup_append]
    refine ⟨h.nodup, by simp, ?_⟩
    intro c hc d hd
    have := h.bounded c hc
    simp only [List.mem_singleton] at hd
    omega
  · rw [hconn]
    intro c hc
    simp only [List.mem_append, List.mem_singleton] at hc
    simp only [afterAccept, setPhase]
    rcases hc with hc | rfl
    · have := h.bounded c hc
      omega
    · omega
  · rw [hconn, List.getElem?_append_left (List.length_pos_of_ne_nil hne)]
    exact hself
  · intro p hp
    simp only [afterAccept, setPhase, List.mem_append, List.mem_singleton] at hp
    rcases hp with hp | rfl
    · exact h.flowThreads p hp
    · simp

/-- Erasing queued positions from both arrays keeps them aligned. -/
theorem remove (h : Aligned s) {sockets : List PollFd} {u : UDTP}
    (hremove : removeQueued s.removePeerAndSocketSafely s.activeListenSockets s.udtp =
      .ok (sockets, u)) :
    Aligned { s with
      activeListenSockets := sockets, udtp := u, removePeerAndSocketSafely := [],
      phase := .poll } := by
  obtain ⟨hsockets, hpeers, -⟩ := removeQueued_ok h.length_eq hremove
  have hfd := eraseEach_map PollFd.fd s.removePeerAndSocketSafely s.activeListenSockets
  have hlisten := eraseEach_map UDTPPeer.listenSocket s.removePeerAndSocketSafely
    s.udtp.listPeers
  have hconn := eraseEach_map (fun p : UDTPPeer => p.listenSocket.connection)
    s.removePeerAndSocketSafely s.udtp.listPeers
  rw [hpeers, Option.map_some] at hlisten hconn
  rw [hsockets, Option.map_some, h.parallel, hlisten] at hfd
  have hsublist : u.connections.Sublist s.udtp.connections := sublist_of_eraseEach hconn
  exact {
    parallel := (Option.some.inj hfd).symm
    nodup := hsublist.nodup h.nodup
    bounded := by
      intro c hc
      exact h.bounded c (hsublist.subset hc)
    self := (head_of_eraseEach hconn h.remote).trans h.self
    flowThreads := by
      intro p hp
      exact h.flowThreads p ((sublist_of_eraseEach hpeers).subset hp)
    ascending := List.Pairwise.nil
    remote := by simp
    inRange := by simp
    scanned := rfl }

/-- Queueing the position that is being scanned keeps the queue ascending. -/
theorem disconnect (h : Aligned s) {i : ℕ} {peer : UDTPPeer} (hphase : s.phase = .scan i)
    (hpeer : s.udtp.getPeer i = some peer) :
    Aligned { s with
      udtp := s.udtp.modifyPeer i UDTPPeer.setOffline
      removePeerAndSocketSafely := s.removePeerAndSocketSafely ++ [i]
      phase := .scan (i + 1) } := by
  have hscanned := h.scanned
  rw [hphase] at hscanned
  obtain ⟨hi, hbelow⟩ := hscanned
  have hlt : i < s.udtp.listPeers.length := (List.getElem?_eq_some_iff.mp hpeer).1
  have hkeep : ∀ {α : Type} (g : UDTPPeer → α), (∀ p, g (UDTPPeer.setOffline p) = g p) →
      (s.udtp.modifyPeer i UDTPPeer.setOffline).listPeers.map g = s.udtp.listPeers.map g := by
    intro α g hg
    exact UDTP.map_listPeers_modifyPeer g s.udtp i _ hg
  have hqueue : ∀ {P : ℕ → Prop}, (∀ j ∈ s.removePeerAndSocketSafely, P j) → P i →
      ∀ j ∈ s.removePeerAndSocketSafely ++ [i], P j := by
    intro P hold hnew j hj
    rcases List.mem_append.mp hj with hj | hj
    · exact hold j hj
    · rw [List.mem_singleton] at hj
      exact hj ▸ hnew
  apply h.of_same_connections
  · exact hkeep _ fun _ => rfl
  · exact UDTP.forall_listPeers_of_map_eq (· = []) (hkeep UDTPPeer.flowThreads fun _ => rfl)
      h.flowThreads
  · rfl
  · rw [List.pairwise_append]
    refine ⟨h.ascending, by simp, ?_⟩
    intro j hj k hk
    rw [List.mem_singleton] at hk
    exact hk ▸ hbelow j hj
  · exact hqueue h.remote hi
  · exact hqueue h.inRange hlt
  · exact ⟨by omega, hqueue (scanned_succ ⟨hi, hbelow⟩).2 (Nat.lt_succ_self i)⟩

/-- Every step keeps the arrays aligned. -/
theorem step (h : Aligned s) (hstep : s.step input = .ok t) : Aligned t := by
  have hscanned := h.scanned
  have hstepped := step_stepped hstep
  generalize s.event input = e at hstepped
  cases hstepped with
  | polled hphase =>
    rw [hphase] at hscanned
    cases hpoll : input.poll with
    | none => exact h.of_phase rfl hscanned
    | some ready => exact h.of_phase (map_fd_mapIdx _ ready) hscanned
  | accepted hphase => exact h.accept hphase
  | skipped hphase =>
    rw [hphase] at hscanned
    have hqueue : s.removePeerAndSocketSafely = [] := hscanned
    exact h.of_phase rfl (by simp [Scanned, hqueue])
  | passed i entry hphase hentry =>
    rw [hphase] at hscanned
    exact h.of_phase rfl (scanned_succ hscanned)
  | scanned i hphase hend => exact h.of_phase rfl trivial
  | received i entry peer sent u hphase hentry hpeer honline hreceive =>
    rw [hphase] at hscanned
    have hid := congrArg (List.map Prod.fst) (receiveHost_identity hreceive)
    simp only [List.map_map, Function.comp_def, UDTPPeer.identity] at hid
    exact h.of_same_connections hid (receiveHost_flowThreads hreceive h.flowThreads) rfl
      h.ascending h.remote h.inRange
      (scanned_succ hscanned)
  | ignored i entry peer hphase hentry hpeer hoffline =>
    rw [hphase] at hscanned
    exact h.of_phase rfl (scanned_succ hscanned)
  | disconnected i entry peer hphase hentry hpeer => exact h.disconnect hphase hpeer
  | removed e sockets u hphase hremove => exact h.remove hremove

end Aligned

/-- Before the first round the arrays are aligned. -/
theorem new_aligned {u : UDTP} (h : u.Started .host) : Aligned (new u) := by
  obtain ⟨selfPeer, hfresh⟩ := h.fresh
  have hconn : u.connections = [0] := by
    simp [UDTP.connections, hfresh.listPeers, hfresh.listenSocket, hfresh.connection]
  exact {
    parallel := by simp [new, hfresh.listPeers, hfresh.listenSocket]
    nodup := by simp [new, hconn]
    bounded := by simp [new, hconn]
    self := by simp [new, hconn]
    flowThreads := by simp [new, hfresh.listPeers, hfresh.flowThreads]
    ascending := List.Pairwise.nil
    remote := by simp [new]
    inRange := by simp [new]
    scanned := rfl }

/-- **The parallel arrays agree in every state of every run.** -/
theorem run_aligned {u : UDTP} (h : u.Started .host) {ins : List HostInput} {s : HostLoop}
    (hrun : run u ins = .ok s) : Aligned s :=
  StepMachine.run_preserves step Aligned (fun _ _ _ ha hstep => ha.step hstep) (new_aligned h) hrun

end HostLoop

end Udtp
