import Udtp.Analysis.HostAlignment

/-!
# Threads and the record they work for

Every thread that `add_thread()` starts holds a pointer to the record it was called on, and the
HOST deletes the record of a peer that went away.  Nothing but the thread count keeps it from
deleting a record whose threads are still running: the destructor of such a record takes the
front of an empty queue.  The count has sixteen bits, so the protection is lost after `2 ^ 16`
calls (`removed_startedThreads`).
-/

set_option autoImplicit false

namespace Udtp

open StepMachine

/-! ## The count of a record -/

/-- The record counts the calls of `add_thread()`, each of which started two threads. -/
def UDTPPeer.CountsThreads (p : UDTPPeer) : Prop :=
  ∃ n, p.startedThreads = List.replicate (2 * n) .flowThread ∧ p.threadCount = UInt16.ofNat n

namespace UDTPPeer

variable {p p' : UDTPPeer}

/-- Calls of `add_thread()` that succeed add their threads and count up. -/
theorem startThreads_iterate (p : UDTPPeer) (n : ℕ) :
    startThreads^[n] p = { p with
      startedThreads := p.startedThreads ++ List.replicate (2 * n) .flowThread
      threadCount := p.threadCount + UInt16.ofNat n } := by
  induction n with
  | zero => simp
  | succ n ih =>
    rw [Function.iterate_succ_apply', ih]
    have htwo : [ThreadRoutine.flowThread, .flowThread] = List.replicate 2 .flowThread := rfl
    have hlength : 2 * n + 2 = 2 * (n + 1) := by omega
    have hcount : p.threadCount + UInt16.ofNat n + 1 = p.threadCount + UInt16.ofNat (n + 1) := by
      rw [UInt16.ofNat_add, UInt16.add_assoc]
      rfl
    simp only [startThreads, List.append_assoc, htwo, List.replicate_append_replicate,
      hlength, hcount]

/-- A call that succeeds is counted. -/
theorem CountsThreads.startThreads (h : p.CountsThreads) : p.startThreads.CountsThreads := by
  obtain ⟨n, hstarted, hcount⟩ := h
  refine ⟨n + 1, ?_, ?_⟩
  · have htwo : [ThreadRoutine.flowThread, .flowThread] = List.replicate 2 .flowThread := rfl
    have hlength : 2 * n + 2 = 2 * (n + 1) := by omega
    rw [UDTPPeer.startThreads, hstarted, htwo, List.replicate_append_replicate, hlength]
  · rw [UDTPPeer.startThreads, hcount, UInt16.ofNat_add]
    rfl

/-- A new record counts no call. -/
theorem CountsThreads.new (memory : UDTPPeer) (ready : Bool) (listenSocket : Socket) :
    (UDTPPeer.new memory ready listenSocket).CountsThreads := by
  refine ⟨0, ?_, rfl⟩
  unfold UDTPPeer.new startSelfMutex
  dsimp only
  split
  · rfl
  split
  · rfl
  · rfl

/-- A new connection gets a record that has started no thread. -/
theorem CountsThreads.acceptedPeer (answer : AcceptAnswer) (socket : Socket) (uniqueID : UInt32) :
    (acceptedPeer answer socket uniqueID).CountsThreads := by
  have hnew := CountsThreads.new answer.peerMemory answer.mutexReady socket
  unfold Udtp.acceptedPeer
  generalize UDTPPeer.new answer.peerMemory answer.mutexReady socket = p at hnew
  exact hnew

/-- `remove_thread()` never comes to an end with a thread less: the queues are empty. -/
theorem removeThread_of_flowThreads_nil (hflow : p.flowThreads = []) {b : Bool}
    (h : p.removeThread = .ok (b, p')) : p' = p := by
  unfold removeThread at h
  split at h
  · cases h
    rfl
  · rw [if_pos (Or.inl hflow)] at h
    cases h

/-- What a message does to the threads of a record is counted. -/
theorem CountsThreads.change {env : Environment} (h : p.CountsThreads)
    (hflow : p.flowThreads = []) (hchange : UDTPAcknowledge.ThreadChange env p p') :
    p'.CountsThreads := by
  cases hchange with
  | none => exact h
  | add =>
    unfold addThread
    split
    · exact h
    split
    · exact h
    · exact h.startThreads
  | remove removed p' hremove =>
    rw [removeThread_of_flowThreads_nil hflow hremove]
    exact h

end UDTPPeer

/-- The record `start()` makes for the endpoint itself has no thread. -/
theorem UDTP.Started.countsThreads {socketType : SocketType} {u : UDTP}
    (h : u.Started socketType) : ∀ p ∈ u.listPeers, p.CountsThreads := by
  obtain ⟨memory, outcome, h⟩ := h
  simp only [UDTP.start, UDTP.new, Bool.false_eq_true, if_false] at h
  split at h
  · cases h
  split at h
  · cases h
  cases h
  intro p hp
  simp only [UDTP.addPeer, UDTP.modifyPeer, List.nil_append, List.modify_zero_cons,
    List.mem_singleton] at hp
  rw [hp]
  have hnew := UDTPPeer.CountsThreads.new outcome.peerMemory outcome.selfMutexReady
    ⟨outcome.descriptor, 0⟩
  generalize UDTPPeer.new outcome.peerMemory outcome.selfMutexReady
    ⟨outcome.descriptor, 0⟩ = self at hnew
  exact hnew

/-! ## Handling a packet -/

/-- Handling a packet keeps what only a change of threads can break. -/
theorem receiveHost_countsThreads {env : Environment} {contents : Contents}
    {packetDeduction : UDTPPacketHeader} {socket : Socket} {i : ℕ} {u u' : UDTP}
    {sent : List Sent}
    (h : receiveHost env contents packetDeduction socket i u = .ok (sent, u'))
    (hflow : ∀ p ∈ u.listPeers, p.flowThreads = [])
    (hcount : ∀ p ∈ u.listPeers, p.CountsThreads) : ∀ p ∈ u'.listPeers, p.CountsThreads := by
  have keep : u'.listPeers.map UDTPPeer.CountsThreads = u.listPeers.map UDTPPeer.CountsThreads →
      ∀ p ∈ u'.listPeers, p.CountsThreads :=
    fun heq => UDTP.forall_listPeers_of_map_eq id heq hcount
  rcases receiveHost_cases h with ⟨-, -, rfl⟩ | ⟨p, peer, b, q, -, -, hprocess, -⟩
  · exact hcount
  rcases process_cases hprocess with ⟨hs, b', hs', -, hr⟩ | ⟨hd, b', hd', -, hr⟩ | ⟨pa, -, rfl⟩ |
    ⟨a, b', a', -, hr⟩
  · exact keep (map_listPeers_handshake _ hr fun _ _ _ => rfl)
  · exact keep (map_listPeers_header _ hr fun _ _ _ => rfl)
  · exact hcount
  · obtain ⟨rfl | ⟨r, r', hown, hchange, rfl⟩, -⟩ := UDTPAcknowledge.respond_spec hr
    · exact hcount
    intro p' hp'
    obtain ⟨k, hk⟩ := List.mem_iff_getElem?.mp hp'
    have hmem : r ∈ u.listPeers := List.mem_of_getElem? hown
    by_cases hpos : k = a.myPeer
    · subst hpos
      have hself := UDTP.getPeer_modifyPeer_self u a.myPeer fun _ => r'
      rw [hown] at hself
      obtain rfl : p' = r' := Option.some.inj (hk.symm.trans hself)
      exact (hcount r hmem).change (hflow r hmem) hchange
    · have hother := UDTP.getPeer_modifyPeer_ne u (fun _ => r') hpos
      exact hcount p' (List.mem_of_getElem? (hother.symm.trans hk))

namespace HostLoop

/-! ## The removal -/

/-- What the removal loop takes away counted no thread. -/
theorem removeQueued_threadCount {queue : List ℕ} {sockets sockets' : List PollFd} {u u' : UDTP}
    (hflow : ∀ p ∈ u.listPeers, p.flowThreads = [])
    (h : removeQueued queue sockets u = .ok (sockets', u')) :
    ∀ p ∈ u.listPeers, p ∈ u'.listPeers ∨ p.threadCount = 0 := by
  induction queue generalizing sockets u with
  | nil =>
    cases h
    intro p hp
    exact Or.inl hp
  | cons posID queue ih =>
    rw [removeQueued] at h
    split at h
    case isFalse => cases h
    split at h
    · cases h
    rename_i removed v hremoved
    obtain rfl := UDTP.removePeer_ok hremoved
    have hrest := ih (u := { u with listPeers := u.listPeers.eraseIdx posID }) (by
      intro p hp
      exact hflow p ((List.eraseIdx_sublist _ _).subset hp)) h
    intro p hp
    obtain ⟨k, hk⟩ := List.mem_iff_getElem?.mp hp
    by_cases hpos : k = posID
    · -- this one is deleted
      right
      subst hpos
      by_contra hcount
      rw [UDTP.removePeer_of_threadCount_ne_zero hk hcount (hflow p hp)] at hremoved
      cases hremoved
    · exact hrest p (List.mem_eraseIdx_iff_getElem?.mpr ⟨k, hpos, hk⟩)

/-! ## Every run -/

variable {s t : HostLoop} {input : HostInput}

/-- Every step of the loop keeps the counts of all records. -/
theorem step_countsThreads (haligned : s.Aligned)
    (hcount : ∀ p ∈ s.udtp.listPeers, p.CountsThreads) (hstep : s.step input = .ok t) :
    ∀ p ∈ t.udtp.listPeers, p.CountsThreads := by
  have hstepped := step_stepped hstep
  generalize s.event input = e at hstepped
  cases hstepped with
  | polled hphase =>
    obtain ⟨sockets, hpolled⟩ := s.setRevents_eq input.poll
    rw [hpolled]
    exact hcount
  | accepted hphase =>
    intro p hp
    rcases List.mem_append.mp hp with hp | hp
    · exact hcount p hp
    · rw [List.mem_singleton] at hp
      rw [hp]
      exact UDTPPeer.CountsThreads.acceptedPeer _ _ _
  | received i entry peer sent u hphase hentry hpeer honline hreceive =>
    exact receiveHost_countsThreads hreceive haligned.flowThreads hcount
  | disconnected i entry peer hphase hentry hpeer =>
    exact UDTP.forall_listPeers_of_map_eq id
      (UDTP.map_listPeers_modifyPeer UDTPPeer.CountsThreads s.udtp i UDTPPeer.setOffline
        fun _ => rfl) hcount
  | removed e sockets u hphase hremove hevent =>
    obtain ⟨-, herase, -⟩ := removeQueued_ok haligned.length_eq hremove
    intro p hp
    exact hcount p ((QueuedErase.sublist_of_eraseEach herase).subset hp)
  | _ => exact hcount

/-- In every run of a HOST all records count their calls. -/
theorem run_countsThreads {u : UDTP} (hu : u.Started .host) {ins : List HostInput}
    (hrun : run u ins = .ok s) : ∀ p ∈ s.udtp.listPeers, p.CountsThreads := by
  refine (run_preserves HostLoop.step
    (fun s => s.Aligned ∧ ∀ p ∈ s.udtp.listPeers, p.CountsThreads) ?_
    ⟨new_aligned hu, hu.countsThreads⟩ hrun).2
  intro s input t hs hstep
  exact ⟨hs.1.step hstep, step_countsThreads hs.1 hs.2 hstep⟩

/-- A connection that is gone after a step was taken away by the removal, and its record counted
no thread. -/
theorem threadCount_of_gone (haligned : s.Aligned) (hstep : s.step input = .ok t) {p : UDTPPeer}
    (hp : p ∈ s.udtp.listPeers) (hgone : p.listenSocket.connection ∉ t.udtp.connections) :
    p.threadCount = 0 := by
  have hkeep : s.udtp.connections ⊆ t.udtp.connections → p.threadCount = 0 :=
    fun hsubset => absurd (hsubset (List.mem_map_of_mem hp)) hgone
  have hstepped := step_stepped hstep
  generalize s.event input = e at hstepped
  cases hstepped with
  | polled hphase =>
    obtain ⟨sockets, hpolled⟩ := s.setRevents_eq input.poll
    rw [hpolled] at hkeep
    exact hkeep (List.Subset.refl _)
  | accepted hphase =>
    apply hkeep
    exact ((List.sublist_append_left _ _).map _).subset
  | received i entry peer sent u hphase hentry hpeer honline hreceive =>
    have hid := congrArg (List.map fun id => id.1.connection) (receiveHost_identity hreceive)
    simp only [List.map_map] at hid
    have hconn : u.connections = s.udtp.connections := hid
    exact hkeep fun c hc => (hconn ▸ hc : c ∈ UDTP.connections _)
  | disconnected i entry peer hphase hentry hpeer =>
    have hconn : (s.udtp.modifyPeer i UDTPPeer.setOffline).connections = s.udtp.connections :=
      UDTP.map_listPeers_modifyPeer _ s.udtp i UDTPPeer.setOffline fun _ => rfl
    exact hkeep fun c hc => (hconn ▸ hc : c ∈ UDTP.connections _)
  | removed e sockets u hphase hremove hevent =>
    rcases removeQueued_threadCount haligned.flowThreads hremove p hp with hstill | hcount
    · exact absurd (List.mem_map_of_mem hstill) hgone
    · exact hcount
  | _ => exact hkeep (List.Subset.refl _)

/-- **No thread outlives its record, until the count wraps.** In every run of a HOST, a record that
a step deletes was passed to `add_thread()` with success a multiple of `2 ^ 16` times.  So for a
record on which this happened at all, but not as often as that, no thread is ever left with a
pointer to a deleted record. -/
theorem removed_startedThreads {u : UDTP} (hu : u.Started .host) {ins : List HostInput}
    (hrun : run u ins = .ok s) (hstep : s.step input = .ok t) {p : UDTPPeer}
    (hp : p ∈ s.udtp.listPeers) (hgone : p.listenSocket.connection ∉ t.udtp.connections) :
    ∃ n, p.startedThreads = List.replicate (2 * n) .flowThread ∧ 2 ^ 16 ∣ n := by
  obtain ⟨n, hstarted, hcount⟩ := run_countsThreads hu hrun p hp
  rw [threadCount_of_gone (run_aligned hu hrun) hstep hp hgone] at hcount
  refine ⟨n, hstarted, ?_⟩
  have hwrapped := congrArg UInt16.toNat hcount
  rw [UInt16.toNat_ofNat', UInt16.toNat_zero] at hwrapped
  exact Nat.dvd_of_mod_eq_zero hwrapped.symm

end HostLoop

/-! ## A peer that wraps the count -/

/-- A peer asks for a thread, which can be started. -/
def HostInput.addingThread : HostInput :=
  { reading
      { (default : ReadAnswer) with
        count := 8
        packetDeduction := ⟨12, 0, .acknowledge⟩
        contents := { (default : Contents) with
          acknowledge := { (default : UDTPAcknowledge) with
            acknowledgeType := .addThread, acknowledgeResponseCode := .responseNone } } } with
    environment := { (default : Environment) with setup := .defaults, flowSocketReady := true } }

namespace HostLoop

/-- A HOST at its `poll()` that has accepted one peer, with this record. -/
def hostOf (record : UDTPPeer) (listening ready : Bool) (sent : List Sent) : HostLoop where
  udtp := { UDTP.startedIn .host with
    uniqueIDCount := 1
    listPeers := (UDTP.startedIn .host).listPeers ++ [record] }
  activeListenSockets := [⟨(UDTP.startedIn .host).listenSocket, listening⟩,
    ⟨⟨UInt32.ofInt 0, 1⟩, ready⟩]
  removePeerAndSocketSafely := []
  sent := sent
  accepted := 1
  phase := .poll

/-- A request for a thread is granted. -/
theorem receiveHost_addingThread {u : UDTP} {record : UDTPPeer} (socket : Socket)
    (hpeer : u.getPeer 1 = some record) (honline : record.isOnline = true) :
    ∃ sent, receiveHost HostInput.addingThread.environment HostInput.addingThread.read.contents
        HostInput.addingThread.read.packetDeduction socket 1 u =
      .ok (sent, u.modifyPeer 1 fun _ => record.startThreads) := by
  have hgranted : (record.addThread true).2 = record.startThreads := by
    simp [UDTPPeer.addThread, honline]
  obtain ⟨b, a', hrespond⟩ := UDTPAcknowledge.respond_of_callsAddThread
    (a := { HostInput.addingThread.read.contents.acknowledge with
      socketID := socket, peerID := 1, myPeer := 1, uniqueID := record.uniqueID })
    (Or.inl ⟨rfl, Or.inl rfl⟩) hpeer HostInput.addingThread.environment
  have hready : HostInput.addingThread.environment.flowSocketReady = true := rfl
  rw [hready, hgranted] at hrespond
  have hself := UDTP.getPeer_modifyPeer_self u 1 fun _ => record.startThreads
  rw [hpeer] at hself
  have hprocess : process HostInput.addingThread.environment u (.acknowledge
      { HostInput.addingThread.read.contents.acknowledge with
        socketID := socket, peerID := 1, myPeer := 1, uniqueID := record.uniqueID }) =
      .ok (true, .acknowledge a', u.modifyPeer 1 fun _ => record.startThreads) := by
    simp only [process, Packet.unpack, UDTPAcknowledge.unpack, Packet.respond, hrespond, Except.map,
      resends_resendCheck, Bool.true_or]
    rfl
  refine ⟨record.startThreads.sendTo (.acknowledge a'), ?_⟩
  unfold receiveHost
  have hconstruct : construct HostInput.addingThread.read.contents
      HostInput.addingThread.read.packetDeduction =
    some (.acknowledge HostInput.addingThread.read.contents.acknowledge) := rfl
  have hraw : (Packet.acknowledge HostInput.addingThread.read.contents.acknowledge).rawReadable
    HostInput.addingThread.read.contents = true := rfl
  have hset : setHostFields socket 1 record.uniqueID
      (.acknowledge HostInput.addingThread.read.contents.acknowledge) = .acknowledge
      { HostInput.addingThread.read.contents.acknowledge with
        socketID := socket, peerID := 1, myPeer := 1, uniqueID := record.uniqueID } := rfl
  simp only [hconstruct, hpeer, hraw, hset, hprocess, hself, Bool.not_true, Bool.false_eq_true,
    if_false, if_true, Option.map_some]

/-- A round in which the peer asks for a thread and gets one. -/
theorem run_addingThread {record : UDTPPeer} (listening ready : Bool) (sent : List Sent)
    (honline : record.isOnline = true) :
    ∃ sent', StepMachine.run step (hostOf record listening ready sent)
      (List.replicate 5 .addingThread) = .ok (hostOf record.startThreads false true sent') := by
  obtain ⟨more, hreceive⟩ := receiveHost_addingThread (u := (hostOf record false true sent).udtp)
    ⟨UInt32.ofInt 0, 1⟩ rfl honline
  refine ⟨sent ++ more, ?_⟩
  have hvisit : visit .addingThread ⟨UInt32.ofInt 0, 1⟩ 1
      { hostOf record false true sent with phase := .scan 1 } =
      .ok { hostOf record.startThreads false true (sent ++ more) with phase := .scan 1 } := by
    have hpeer : { hostOf record false true sent with phase := .scan 1 }.udtp.getPeer 1 =
      some record := rfl
    have hcount : HostInput.addingThread.read.count ≠ 0 := by decide
    unfold visit
    simp only [hpeer, if_pos hcount, honline, hreceive]
    rfl
  have hvisited :
      step { hostOf record false true sent with phase := .scan 1 } HostInput.addingThread =
      .ok { hostOf record.startThreads false true (sent ++ more) with phase := .scan 2 } :=
    congrArg (fun r => Except.map (setPhase (.scan 2)) r) hvisit
  simp only [List.replicate_succ, List.replicate_zero]
  refine (run_cons_ok step (hostOf record listening ready sent) _ .addingThread _).mpr
    ⟨_, rfl, ?_⟩
  refine (run_cons_ok step _ _ .addingThread _).mpr ⟨_, rfl, ?_⟩
  refine (run_cons_ok step _ _ .addingThread _).mpr ⟨_, hvisited, ?_⟩
  rfl

/-- Rounds in each of which the peer gets one. -/
theorem run_addingThreads {record : UDTPPeer} (honline : record.isOnline = true) (n : ℕ) :
    ∀ listening ready sent, ∃ listening' ready' sent',
      StepMachine.run step (hostOf record listening ready sent)
        (List.replicate (n * 5) .addingThread) =
      .ok (hostOf (UDTPPeer.startThreads^[n] record) listening' ready' sent') := by
  induction n generalizing record with
  | zero =>
    intro listening ready sent
    exact ⟨listening, ready, sent, by simp⟩
  | succ n ih =>
    intro listening ready sent
    obtain ⟨sent₁, hround⟩ := run_addingThread listening ready sent honline
    have honline' : record.startThreads.isOnline = true := honline
    obtain ⟨listening', ready', sent', hrest⟩ := ih honline' false true sent₁
    refine ⟨listening', ready', sent', ?_⟩
    have hlength : (n + 1) * 5 = 5 + n * 5 := by omega
    rw [hlength, ← List.replicate_append_replicate]
    exact (run_append_ok step _ _ _ _).mpr ⟨_, hround, hrest⟩

/-- A round, up to its removal, in which the peer closes. -/
theorem run_closing (record : UDTPPeer) (listening ready : Bool) (sent : List Sent) :
    StepMachine.run step (hostOf record listening ready sent) (List.replicate 4 .closing) =
      .ok { hostOf record.setOffline false true sent with
        removePeerAndSocketSafely := [1]
        phase := .removal } := rfl

/-- A peer that goes away when as many threads were started for it as wrap its count. -/
theorem run_removed {n : ℕ} (hwraps : UInt16.ofNat n = 0) :
    ∃ s t p, run (UDTP.startedIn .host) (List.replicate 5 .connecting ++
        (List.replicate (n * 5) .addingThread ++ List.replicate 4 .closing)) = .ok s ∧
      s.step .closing = .ok t ∧ p ∈ s.udtp.listPeers ∧
      p.listenSocket.connection ∉ t.udtp.connections ∧
      p.startedThreads = List.replicate (2 * n) .flowThread := by
  obtain ⟨first, hfirst⟩ : ∃ first, first = acceptedPeer default ⟨UInt32.ofInt 0, 1⟩ 1 := ⟨_, rfl⟩
  obtain ⟨sent₀, hconnected⟩ : ∃ sent, run (UDTP.startedIn .host) (List.replicate 5 .connecting) =
      .ok (hostOf first true false sent) := by
    rw [hfirst]
    exact ⟨_, rfl⟩
  have honline : first.isOnline = true := by
    rw [hfirst]
    rfl
  obtain ⟨listening, ready, sent, hthreads⟩ :=
    run_addingThreads honline n true false sent₀
  have hrecord := UDTPPeer.startThreads_iterate first n
  generalize UDTPPeer.startThreads^[n] first = record at hthreads hrecord
  rw [hwraps, hfirst] at hrecord
  have hstarted : record.startedThreads = List.replicate (2 * n) .flowThread := by
    rw [hrecord]
    rfl
  have hcount : record.threadCount = 0 := by
    rw [hrecord]
    rfl
  have hsocket : record.listenSocket.connection = 1 := by
    rw [hrecord]
    rfl
  obtain ⟨s, hs⟩ : ∃ s, s = { hostOf record.setOffline false true sent with
      removePeerAndSocketSafely := [1], phase := .removal } := ⟨_, rfl⟩
  have hpeer : s.udtp.getPeer 1 = some record.setOffline := by
    rw [hs]
    rfl
  have hremoved := UDTP.removePeer_of_threadCount_zero hpeer hcount
  have hstep : ∃ t, s.step .closing = .ok t ∧ t.udtp.connections = [0] := by
    rw [hs] at hremoved ⊢
    simp only [step, removeQueued, hremoved]
    exact ⟨_, rfl, rfl⟩
  obtain ⟨t, hstep, hleft⟩ := hstep
  have hrun : run (UDTP.startedIn .host) (List.replicate 5 .connecting ++
      (List.replicate (n * 5) .addingThread ++ List.replicate 4 .closing)) = .ok s := by
    rw [hs]
    refine (run_append_ok step _ _ _ _).mpr ⟨_, hconnected, ?_⟩
    exact (run_append_ok step _ _ _ _).mpr ⟨_, hthreads, run_closing record listening ready sent⟩
  refine ⟨s, t, record.setOffline, hrun, hstep, List.mem_of_getElem? hpeer, ?_, hstarted⟩
  have hsame : record.setOffline.listenSocket.connection = record.listenSocket.connection := rfl
  rw [hleft, hsame, hsocket]
  decide

/-- A peer for which `2 ^ 16` times two threads were started goes away. -/
theorem removed_startedThreads_wrapped :
    ∃ s t p n, run (UDTP.startedIn .host) (List.replicate 5 .connecting ++
        (List.replicate (2 ^ 16 * 5) .addingThread ++ List.replicate 4 .closing)) = .ok s ∧
      s.step .closing = .ok t ∧ p ∈ s.udtp.listPeers ∧
      p.listenSocket.connection ∉ t.udtp.connections ∧ 0 < n ∧
      p.startedThreads = List.replicate (2 * n) .flowThread ∧ 2 ^ 16 ∣ n := by
  obtain ⟨s, t, p, hrun, hstep, hp, hgone, hstarted⟩ := run_removed (n := 2 ^ 16) rfl
  obtain ⟨n, hn, hdvd⟩ :=
    removed_startedThreads (UDTP.startedIn_started .host) hrun hstep hp hgone
  have hlength : 2 * 2 ^ 16 = 2 * n := by
    have heq := congrArg List.length (hstarted.symm.trans hn)
    rwa [List.length_replicate, List.length_replicate] at heq
  exact ⟨s, t, p, n, hrun, hstep, hp, hgone, by omega, hn, hdvd⟩

end HostLoop

end Udtp
