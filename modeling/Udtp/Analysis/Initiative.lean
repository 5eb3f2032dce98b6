import Udtp.Analysis.Answers
import Udtp.Model.Network
import Udtp.Model.Stream

/-!
# Nobody begins a transfer

In a network of endpoints that all run this program, the HOST greets each connection with a
handshake, and from then on every packet answers one of the same class.  The commands that would
send a header ask for `COMPLETE`, which nothing records.  So headers, acknowledgements and paths
can only come from an end that takes other bytes for the start of one (`misread_of_busy`).
-/

set_option autoImplicit false

namespace Udtp

open StepMachine

/-! ## Endpoints with nothing to do -/

/-- A record without threads and files, of an endpoint that is not ready. -/
structure UDTPPeer.Quiet (p : UDTPPeer) : Prop where
  threadCount : p.threadCount = 0
  startedThreads : p.startedThreads = []
  selfOverallFiles : p.selfOverallFiles = []
  activeFiles : p.activeFiles = []
  notComplete : p.checkInitProcess .complete = false

/-- An endpoint that has no file, has given out no file ID, and whose records are quiet. -/
structure UDTP.Quiet (u : UDTP) : Prop where
  files : u.files = []
  overallFiles : u.overallFiles = []
  fileIDCount : u.fileIDCount = 0
  records : ∀ p ∈ u.listPeers, p.Quiet

namespace UDTPPeer

variable {p : UDTPPeer}

/-- A new record is quiet. -/
theorem Quiet.new (memory : UDTPPeer) (ready : Bool) (listenSocket : Socket) :
    (UDTPPeer.new memory ready listenSocket).Quiet := by
  have hcomplete := checkInitProcess_new memory ready listenSocket .complete (by simp)
  refine ⟨rfl, ?_, ?_, ?_, hcomplete⟩
  · exact startSelfMutex_ignored (g := UDTPPeer.startedThreads) (fun _ _ _ => rfl) ready _
  · exact startSelfMutex_ignored (g := UDTPPeer.selfOverallFiles) (fun _ _ _ => rfl) ready _
  · exact startSelfMutex_ignored (g := UDTPPeer.activeFiles) (fun _ _ _ => rfl) ready _

/-- Recording anything but the completion leaves a record quiet. -/
theorem Quiet.setInitProcessComplete (h : p.Quiet) {event : InitProcessEvent}
    (hevent : event ≠ .complete) : (p.setInitProcessComplete event).Quiet where
  threadCount := h.threadCount
  startedThreads := h.startedThreads
  selfOverallFiles := h.selfOverallFiles
  activeFiles := h.activeFiles
  notComplete := by
    rw [checkInitProcess_setInitProcessComplete, h.notComplete, decide_eq_false hevent]
    rfl

/-- Going online, a record stays quiet. -/
theorem Quiet.setOnline (h : p.Quiet) : p.setOnline.Quiet := ⟨h.1, h.2, h.3, h.4, h.5⟩

/-- Going offline, a record stays quiet. -/
theorem Quiet.setOffline (h : p.Quiet) : p.setOffline.Quiet := ⟨h.1, h.2, h.3, h.4, h.5⟩

/-- An address leaves a record quiet. -/
theorem Quiet.setAddress (h : p.Quiet) (newAddress : SockAddrIn) :
    (p.setAddress newAddress).Quiet :=
  ⟨h.1, h.2, h.3, h.4, h.5⟩

/-- A unique ID leaves a record quiet. -/
theorem Quiet.setUniqueID (h : p.Quiet) (newID : UInt32) : (p.setUniqueID newID).Quiet :=
  ⟨h.1, h.2, h.3, h.4, h.5⟩

/-- The local flag leaves a record quiet. -/
theorem Quiet.setHostLocal (h : p.Quiet) (hostLocal : Bool) : (p.setHostLocal hostLocal).Quiet :=
  ⟨h.1, h.2, h.3, h.4, h.5⟩

/-- The record of a new connection is quiet. -/
theorem Quiet.acceptedPeer (answer : AcceptAnswer) (socket : Socket) (uniqueID : UInt32) :
    (acceptedPeer answer socket uniqueID).Quiet := by
  have h := (Quiet.new answer.peerMemory answer.mutexReady socket).setOnline
  exact ((h.setAddress answer.newPeerAddress).setUniqueID uniqueID).setHostLocal true

end UDTPPeer

namespace UDTP

variable {u u' : UDTP}

/-- A change of one record that leaves it quiet. -/
theorem Quiet.modifyPeer (h : u.Quiet) (posID : ℕ) {f : UDTPPeer → UDTPPeer}
    (hf : ∀ p, p.Quiet → (f p).Quiet) : (u.modifyPeer posID f).Quiet where
  files := h.files
  overallFiles := h.overallFiles
  fileIDCount := h.fileIDCount
  records := by
    intro p hp
    obtain ⟨k, hk⟩ := List.mem_iff_getElem?.mp hp
    by_cases hpos : k = posID
    · subst hpos
      have hself : (u.modifyPeer k f).getPeer k = some p := hk
      rw [getPeer_modifyPeer_self] at hself
      obtain ⟨q, hq, rfl⟩ := Option.map_eq_some_iff.mp hself
      exact hf q (h.records q (List.mem_of_getElem? hq))
    · have hother : (u.modifyPeer posID f).getPeer k = some p := hk
      rw [getPeer_modifyPeer_ne u f hpos] at hother
      exact h.records p (List.mem_of_getElem? hother)

/-- An endpoint that was started has nothing to do. -/
theorem Started.quiet {socketType : SocketType} (h : Started socketType u) : u.Quiet := by
  obtain ⟨self, hfresh⟩ := h.fresh
  refine ⟨hfresh.files, hfresh.overallFiles, hfresh.fileIDCount, ?_⟩
  obtain ⟨memory, outcome, h⟩ := h
  simp only [start, new, Bool.false_eq_true, if_false] at h
  split at h
  · cases h
  split at h
  · cases h
  cases h
  intro p hp
  simp only [addPeer, UDTP.modifyPeer, List.nil_append, List.modify_zero_cons,
    List.mem_singleton] at hp
  subst hp
  have hnew := (UDTPPeer.Quiet.new outcome.peerMemory outcome.selfMutexReady
    ⟨outcome.descriptor, 0⟩).setOnline
  have hself := (hnew.setUniqueID 0).setHostLocal (decide (socketType = .host))
  exact (((hself.setInitProcessComplete (by simp)).setInitProcessComplete
    (by simp)).setInitProcessComplete (by simp)).setInitProcessComplete (by simp)

/-- A handshake is handled without a file and without a thread. -/
theorem Quiet.process (h : u.Quiet) {env : Environment} {p q : Packet} {b : Bool}
    (htype : p.type = .handshake) (hprocess : process env u p = .ok (b, q, u')) : u'.Quiet := by
  rcases process_cases hprocess with ⟨hs, b', hs', -, hr⟩ | ⟨hd, b', hd', rfl, -⟩ |
    ⟨pa, rfl, -⟩ | ⟨a, b', a', rfl, -⟩
  · rcases UDTPHandshake.respond_udtp hr with ⟨-, -, rfl⟩ | ⟨-, -, rfl⟩ | ⟨-, rfl⟩ | ⟨-, -, rfl⟩
    · exact h.modifyPeer _ fun p hp => hp.setOffline
    · exact h.modifyPeer _ fun p hp => hp.setInitProcessComplete (by simp)
    · exact h.modifyPeer _ fun p hp => hp.setInitProcessComplete (by simp)
    · exact h
  · cases htype
  · cases htype
  · cases htype

/-- Neither command gets past its first test. -/
theorem Quiet.request (h : u.Quiet) {request : Request} {result : Option TransferReturn}
    {sent : List Sent} (hrequest : request.handle u = .ok (result, sent, u')) :
    result = some .selfNotReady ∧ sent = [] ∧ u' = u := by
  cases hself : u.getPeer 0 with
  | none =>
    cases request with
    | sendFile env memory path => simp [Request.handle, UDTP.sendFile, hself] at hrequest
    | getFile env memory path => simp [Request.handle, UDTP.getFile, hself] at hrequest
  | some self =>
    have hincomplete := (h.records self (List.mem_of_getElem? hself)).notComplete
    cases request with
    | sendFile env memory path =>
      rw [Request.handle, sendFile_of_incomplete hself hincomplete] at hrequest
      cases hrequest
      exact ⟨rfl, rfl, rfl⟩
    | getFile env memory path =>
      rw [Request.handle, getFile_of_incomplete hself hincomplete] at hrequest
      cases hrequest
      exact ⟨rfl, rfl, rfl⟩

end UDTP

/-! ## Receiving handshakes -/

/-- An object is made only for a header that is valid. -/
theorem deductionValid_of_construct {contents : Contents} {packetDeduction : UDTPPacketHeader}
    {p : Packet} (h : construct contents packetDeduction = some p) :
    deductionValid packetDeduction = true := by
  unfold deductionValid
  rw [← type_of_construct h]
  cases p with
  | handshake hs => rfl
  | header hd => rfl
  | path pa => rfl
  | acknowledge a => rfl

/-- What can be read in a place where nothing but handshakes were sent. -/
def HandshakeIfValid (packetDeduction : UDTPPacketHeader) : Prop :=
  deductionValid packetDeduction = true → packetDeduction.packetType = .handshake

variable {env : Environment} {contents : Contents} {packetDeduction : UDTPPacketHeader}
  {socket : Socket} {u u' : UDTP} {sent : List Sent}

/-- A HOST that receives a handshake stays quiet and sends only handshakes. -/
theorem UDTP.Quiet.receiveHost (h : u.Quiet) (hread : HandshakeIfValid packetDeduction) {i : ℕ}
    (hreceive : receiveHost env contents packetDeduction socket i u = .ok (sent, u')) :
    u'.Quiet ∧ ∀ e ∈ sent, e.2.type = .handshake := by
  rcases receiveHost_cases hreceive with ⟨-, rfl, rfl⟩ | ⟨p, peer, b, q, hp, -, hprocess, -⟩
  · exact ⟨h, by simp⟩
  have htype := hread (deductionValid_of_construct hp)
  constructor
  · refine h.process ?_ hprocess
    rw [← htype, ← type_of_construct hp]
    cases p <;> rfl
  · intro e he
    rcases receiveHost_answer hreceive with rfl | ⟨e', rfl, hanswer⟩
    · cases he
    · rw [List.mem_singleton.mp he, hanswer, htype]

/-- A PEER that receives a handshake stays quiet and sends only handshakes. -/
theorem UDTP.Quiet.receivePeer (h : u.Quiet) (hread : HandshakeIfValid packetDeduction)
    (hreceive : receivePeer env contents packetDeduction socket u = .ok (sent, u')) :
    u'.Quiet ∧ ∀ e ∈ sent, e.2.type = .handshake := by
  unfold Udtp.receivePeer at hreceive
  split at hreceive
  · cases hreceive
    exact ⟨h, by simp⟩
  rename_i p hp
  have htype : p.type = .handshake := by
    rw [type_of_construct hp]
    exact hread (deductionValid_of_construct hp)
  have hfields : (setPeerFields socket p).type = .handshake := by
    rw [← htype]
    cases p <;> rfl
  split at hreceive
  · cases hreceive
  split at hreceive
  · cases hreceive
  rename_i resend q v hprocess
  have hquiet := h.process hfields hprocess
  split at hreceive
  · split at hreceive
    · cases hreceive
    · cases hreceive
      refine ⟨hquiet, ?_⟩
      intro e he
      rw [List.mem_singleton.mp he]
      exact (process_type hprocess).trans hfields
  · cases hreceive
    exact ⟨hquiet, by simp⟩

/-! ## The steps of a network -/

namespace Network

variable {s t : Network}

/-- An end takes what it reads for the start of a packet of a class that the other end never sent
to it. -/
def Misreads (s : Network) : NetworkInput → Prop
  | .host input => ∃ i entry peer, s.host.phase = .scan i ∧
      s.host.activeListenSockets[i]? = some entry ∧
      s.host.udtp.getPeer i = some peer ∧ peer.isOnline = true ∧
      s.host.event input = some (.packet entry.fd.connection input.environment input.read) ∧
      deductionValid input.read.packetDeduction = true ∧
      ∀ e ∈ (s.peers entry.fd.connection).sent, e.2.type ≠ input.read.packetDeduction.packetType
  | .peer number input =>
      (s.peers number).udtp.isAlive = true ∧ input.pollin = true ∧ input.read.count ≠ 0 ∧
      deductionValid input.read.packetDeduction = true ∧
      ∀ q ∈ s.host.sentOn number, q.type ≠ input.read.packetDeduction.packetType
  | .hostRequest _ => False
  | .peerRequest _ _ => False

/-- No endpoint has anything to do, and nothing but handshakes were sent. -/
structure Quiet (s : Network) : Prop where
  host : s.host.udtp.Quiet
  hostSent : ∀ e ∈ s.host.sent, e.2.type = .handshake
  peers : ∀ number, (s.peers number).udtp.Quiet
  peersSent : ∀ number, ∀ e ∈ (s.peers number).sent, e.2.type = .handshake

/-- A network in which nothing happened yet is quiet. -/
theorem new_quiet {host : UDTP} {peers : ℕ → UDTP} (hhost : host.Started .host)
    (hpeers : ∀ number, (peers number).Started .peer) : (new host peers).Quiet where
  host := hhost.quiet
  hostSent := by
    intro e he
    cases he
  peers := fun number => (hpeers number).quiet
  peersSent := by
    intro number e he
    cases he

/-- In a quiet network a HOST has sent only handshakes on every connection. -/
theorem Quiet.sentOn (h : s.Quiet) (number : ℕ) :
    ∀ q ∈ s.host.sentOn number, q.type = .handshake := by
  intro q hq
  obtain ⟨e, he, rfl⟩ := List.mem_map.mp hq
  rw [Packet.type_unplaced]
  exact h.hostSent e (List.mem_of_mem_filter he)

/-- What the HOST reads for an online record in such a network is a handshake, unless it
misreads. -/
theorem Quiet.handshakeIfValid (h : s.Quiet) {input : HostInput}
    (hread : ¬ s.Misreads (.host input)) {i : ℕ} {entry : PollFd} {peer : UDTPPeer}
    (hphase : s.host.phase = .scan i) (hentry : s.host.activeListenSockets[i]? = some entry)
    (hpeer : s.host.udtp.getPeer i = some peer) (honline : peer.isOnline = true)
    (hevent : s.host.event input =
      some (.packet entry.fd.connection input.environment input.read)) :
    HandshakeIfValid input.read.packetDeduction := by
  intro hvalid
  by_contra htype
  refine hread ⟨i, entry, peer, hphase, hentry, hpeer, honline, hevent, hvalid, ?_⟩
  intro e he hsame
  rw [h.peersSent entry.fd.connection e he] at hsame
  exact htype hsame.symm

/-- The removal loop takes records away and leaves the rest of the endpoint. -/
theorem removeQueued_quiet {queue : List ℕ} {sockets sockets' : List PollFd} {u u' : UDTP}
    (hu : u.Quiet) (h : HostLoop.removeQueued queue sockets u = .ok (sockets', u')) : u'.Quiet := by
  induction queue generalizing sockets u with
  | nil =>
    cases h
    exact hu
  | cons posID queue ih =>
    rw [HostLoop.removeQueued] at h
    split at h
    · split at h
      · cases h
      · rename_i removed v hremoved
        obtain rfl := UDTP.removePeer_ok hremoved
        refine ih (u := { u with listPeers := u.listPeers.eraseIdx posID }) ?_ h
        refine ⟨hu.files, hu.overallFiles, hu.fileIDCount, ?_⟩
        intro p hp
        exact hu.records p (List.mem_of_mem_eraseIdx hp)
    · cases h

/-- A step of the HOST that does not misread. -/
theorem Quiet.hostStep (h : s.Quiet) {input : HostInput} (hread : ¬ s.Misreads (.host input))
    {host : HostLoop} (hstep : s.host.step input = .ok host) :
    host.udtp.Quiet ∧ ∀ e ∈ host.sent, e.2.type = .handshake := by
  have hstepped := HostLoop.step_stepped hstep
  generalize hevent : s.host.event input = event at hstepped
  cases hstepped with
  | polled hphase =>
    obtain ⟨sockets, hpolled⟩ := s.host.setRevents_eq input.poll
    rw [hpolled]
    exact ⟨h.host, h.hostSent⟩
  | accepted hphase =>
    constructor
    · refine ⟨h.host.files, h.host.overallFiles, h.host.fileIDCount, ?_⟩
      intro p hp
      rcases List.mem_append.mp hp with hold | hnew
      · exact h.host.records p hold
      · rw [List.mem_singleton.mp hnew]
        exact UDTPPeer.Quiet.acceptedPeer _ _ _
    · intro e he
      rcases List.mem_append.mp he with hold | hnew
      · exact h.hostSent e hold
      · rw [List.mem_singleton.mp hnew]
        rfl
  | received i entry peer sent u hphase hentry hpeer honline hreceive =>
    have hhandshake := h.handshakeIfValid hread hphase hentry hpeer honline hevent
    obtain ⟨hquiet, hsent⟩ := h.host.receiveHost hhandshake hreceive
    refine ⟨hquiet, ?_⟩
    intro e he
    rcases List.mem_append.mp he with hold | hnew
    · exact h.hostSent e hold
    · exact hsent e hnew
  | disconnected i entry peer hphase hentry hpeer =>
    exact ⟨h.host.modifyPeer i fun p hp => hp.setOffline, h.hostSent⟩
  | removed e sockets u hphase hremove hevent =>
    exact ⟨removeQueued_quiet h.host hremove, h.hostSent⟩
  | _ => exact ⟨h.host, h.hostSent⟩

/-- A step of a PEER that does not misread. -/
theorem Quiet.peerStep (h : s.Quiet) {number : ℕ} {input : PeerInput}
    (hread : ¬ s.Misreads (.peer number input)) {peer : PeerLoop}
    (hstep : (s.peers number).step input = .ok peer) :
    peer.udtp.Quiet ∧ ∀ e ∈ peer.sent, e.2.type = .handshake := by
  unfold PeerLoop.step at hstep
  split at hstep
  · rename_i hready
    rw [Bool.and_eq_true] at hready
    unfold PeerLoop.visit at hstep
    split at hstep
    · rename_i hcount
      split at hstep
      · cases hstep
      rename_i sent u hreceive
      cases hstep
      have hhandshake : HandshakeIfValid input.read.packetDeduction := by
        intro hvalid
        by_contra htype
        refine hread ⟨hready.1, hready.2, hcount, hvalid, ?_⟩
        intro q hq hsame
        rw [h.sentOn number q hq] at hsame
        exact htype hsame.symm
      obtain ⟨hquiet, hsent⟩ := (h.peers number).receivePeer hhandshake hreceive
      refine ⟨hquiet, ?_⟩
      intro e he
      rcases List.mem_append.mp he with hold | hnew
      · exact h.peersSent number e hold
      · exact hsent e hnew
    · cases hstep
      have hquiet := h.peers number
      exact ⟨⟨hquiet.1, hquiet.2, hquiet.3, hquiet.4⟩, h.peersSent number⟩
  · cases hstep
    exact ⟨h.peers number, h.peersSent number⟩

/-- A PEER that is quiet keeps the network quiet. -/
theorem Quiet.setPeer (h : s.Quiet) {number : ℕ} {peer : PeerLoop}
    (hpeer : peer.udtp.Quiet ∧ ∀ e ∈ peer.sent, e.2.type = .handshake) :
    (s.setPeer number peer).Quiet where
  host := h.host
  hostSent := h.hostSent
  peers := by
    intro other
    by_cases hsame : other = number
    · subst hsame
      rw [setPeer_peers_self]
      exact hpeer.1
    · rw [setPeer_peers_ne hsame]
      exact h.peers other
  peersSent := by
    intro other
    by_cases hsame : other = number
    · subst hsame
      rw [setPeer_peers_self]
      exact hpeer.2
    · rw [setPeer_peers_ne hsame]
      exact h.peersSent other

/-- As long as no end misreads, all stay quiet. -/
theorem Quiet.step (h : s.Quiet) {input : NetworkInput} (hread : ¬ s.Misreads input)
    (hstep : s.step input = .ok t) : t.Quiet := by
  cases input with
  | host input =>
    obtain ⟨host, hhost, rfl⟩ := map_ok hstep
    obtain ⟨hquiet, hsent⟩ := h.hostStep hread hhost
    exact ⟨hquiet, hsent, h.peers, h.peersSent⟩
  | peer number input =>
    obtain ⟨peer, hpeer, rfl⟩ := map_ok hstep
    exact h.setPeer (h.peerStep hread hpeer)
  | hostRequest request =>
    obtain ⟨⟨result, sent, u⟩, hrequest, rfl⟩ := map_ok hstep
    obtain ⟨-, rfl, rfl⟩ := h.host.request hrequest
    rw [List.append_nil]
    exact h
  | peerRequest number request =>
    obtain ⟨⟨result, sent, u⟩, hrequest, rfl⟩ := map_ok hstep
    obtain ⟨-, rfl, rfl⟩ := (h.peers number).request hrequest
    rw [List.append_nil]
    exact h.setPeer ⟨h.peers number, h.peersSent number⟩

/-- **Nobody begins a transfer.** In every run of a HOST and its PEERs, with any calls of
`send_file()` and `get_file()` at any of them: if an endpoint has taken a file, given out a file
ID, started a thread or become ready, or if anything but a handshake was sent, then some end took
what it read for the start of a packet of a class that the other end had never sent to it. -/
theorem misread_of_busy {host : UDTP} {peers : ℕ → UDTP} (hhost : host.Started .host)
    (hpeers : ∀ number, (peers number).Started .peer) {ins : List NetworkInput}
    (hrun : run host peers ins = .ok t) (hbusy : ¬ t.Quiet) :
    ∃ s input, Takes step (new host peers) ins s input ∧ s.Misreads input := by
  by_contra hnone
  have hkeeps : ∀ s input u, s.Quiet → ¬ s.Misreads input → step s input = .ok u → u.Quiet :=
    fun _ _ _ hs hread hstep => hs.step hread hstep
  have hread : ∀ s input, Takes step (new host peers) ins s input → ¬ s.Misreads input :=
    fun s input htakes hmisreads => hnone ⟨s, input, htakes, hmisreads⟩
  have hquiet := passes_of_takes step hkeeps (new_quiet hhost hpeers) hread
  exact hbusy (hquiet t ⟨ins, [], (List.append_nil ins).symm, hrun⟩)

/-- A HOST takes a file on a connection on which nothing was ever sent to it. -/
theorem misread_of_busy_pullApproval :
    ∃ t, run (.startedIn .host) (fun _ => .startedIn .peer)
        (List.replicate 5 (.host .connecting) ++
          List.replicate 3 (.host (.reading .pullApproval))) = .ok t ∧
      t.host.udtp.files.length = 1 ∧
      ∃ s input, Takes step (new (.startedIn .host) fun _ => .startedIn .peer)
        (List.replicate 5 (.host .connecting) ++
          List.replicate 3 (.host (.reading .pullApproval))) s input ∧ s.Misreads input := by
  obtain ⟨t, hrun, hfiles⟩ : ∃ t, run (.startedIn .host) (fun _ => .startedIn .peer)
      (List.replicate 5 (.host .connecting) ++
        List.replicate 3 (.host (.reading .pullApproval))) = .ok t ∧
      t.host.udtp.files.length = 1 := ⟨_, rfl, rfl⟩
  have hbusy : ¬ t.Quiet := by
    intro hquiet
    rw [hquiet.host.files] at hfiles
    cases hfiles
  exact ⟨t, hrun, hfiles, misread_of_busy (UDTP.startedIn_started .host)
    (fun _ => UDTP.startedIn_started .peer) hrun hbusy⟩

end Network

end Udtp
