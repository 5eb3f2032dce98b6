import Udtp.Analysis.HandshakeExchange
import Udtp.Analysis.Initiative
import Udtp.Model.Wires

/-!
# A network of exchanges

Each connection of a network whose packets get across is an exchange of its own: from the moment
the HOST accepts it, the packet on its wires and the records of the two ends are those of the
exchange that began then, whatever the other connections do in between (`exchanges_of_run`).  The
order in which the loops go on, how long packets are on their way and how often `send_file()` and
`get_file()` are called make no difference.

The exchange of an accepted connection is the one in which the ends ask each other forever.  So the
whole network asks forever: no run faults, there is one handshake on every accepted connection and
nothing else on any wire, and no end ever records, refuses or takes anything (`always_asking`).
-/

set_option autoImplicit false

namespace Udtp

open StepMachine

/-! ## One answer -/

variable {env : Environment} {u v u' v' : UDTP}

/-- What `respond()` makes of a handshake does not depend on the endpoint, but for faults. -/
theorem UDTPHandshake.respond_same {h h₁ h₂ : UDTPHandshake} {b₁ b₂ : Bool}
    (hu : h.respond env u = .ok (b₁, h₁, u')) (hv : h.respond env v = .ok (b₂, h₂, v')) :
    b₁ = b₂ ∧ h₁ = h₂ := by
  unfold respond at hu hv
  cases hcode : h.responseCode with
  | responseStart =>
    rw [hcode] at hu hv
    cases hu
    cases hv
    exact ⟨rfl, rfl⟩
  | responseNone =>
    simp only [hcode] at hu hv
    split at hu
    · cases hu
    split at hv
    · cases hv
    split at hu
    · rename_i hrefused
      rw [if_pos hrefused] at hv
      cases hu
      cases hv
      exact ⟨rfl, rfl⟩
    · rename_i hagreed
      rw [if_neg hagreed] at hv
      cases hu
      cases hv
      exact ⟨rfl, rfl⟩
  | responseApproved =>
    simp only [hcode] at hu hv
    split at hu
    · cases hu
    split at hv
    · cases hv
    cases hu
    cases hv
    exact ⟨rfl, rfl⟩
  | _ =>
    rw [hcode] at hu hv
    cases hu
    cases hv
    exact ⟨rfl, rfl⟩

/-- What becomes of a handshake does not depend on the endpoint. -/
theorem process_handshake_same {p q₁ q₂ : Packet} {b₁ b₂ : Bool} (htype : p.type = .handshake)
    (hu : process env u p = .ok (b₁, q₁, u')) (hv : process env v p = .ok (b₂, q₂, v')) :
    b₁ = b₂ ∧ q₁ = q₂ := by
  cases p with
  | handshake h =>
    obtain ⟨r₁, h₁, hr₁, rfl, rfl⟩ := process_handshake hu
    obtain ⟨r₂, h₂, hr₂, rfl, rfl⟩ := process_handshake hv
    obtain ⟨rfl, rfl⟩ := UDTPHandshake.respond_same hr₁ hr₂
    exact ⟨rfl, rfl⟩
  | header _ => cases htype
  | path _ => cases htype
  | acknowledge _ => cases htype

/-- A HOST that is asked on a connection asks back, and changes nothing.  What it sends depends on
its record of the connection alone. -/
theorem receiveHost_asked {h : UDTPHandshake} (hasks : h.Asks) (env : Environment)
    (memory : Contents) (socket : Socket) (i : ℕ) (record : UDTPPeer) :
    ∃ h', h'.Asks ∧ ∀ v : UDTP, v.getPeer i = some record →
      receiveHost env ((Packet.handshake h).arrive memory) (Packet.handshake h).packetDeduction
        socket i v = .ok ([(record.listenSocket, .handshake h')], v) := by
  obtain ⟨q, hq, hraw, h', hprocess, hasks'⟩ :=
    Exchange.asks_back hasks memory true socket i record.uniqueID env default
  have htype : (setFields true socket i record.uniqueID q).type = .handshake :=
    (process_type hprocess).symm
  refine ⟨h', hasks', ?_⟩
  intro v hv
  obtain ⟨q', hq', -, h'', hprocess', -⟩ :=
    Exchange.asks_back hasks memory true socket i record.uniqueID env v
  obtain rfl : q = q' := Option.some.inj (hq.symm.trans hq')
  obtain ⟨-, hsame⟩ := process_handshake_same htype hprocess hprocess'
  have hhost : process env v (setHostFields socket i record.uniqueID q) =
      .ok (true, .handshake h', v) := by
    rw [hsame]
    exact hprocess'
  rw [receiveHost_eq socket hq hv hraw, hhost]
  rfl

/-- A PEER that is asked asks back, and changes nothing. -/
theorem receivePeer_asked {h : UDTPHandshake} (hasks : h.Asks) (env : Environment)
    (memory : Contents) (socket : Socket) {self : UDTPPeer} (hself : u.getPeer 0 = some self) :
    ∃ h', h'.Asks ∧
      receivePeer env ((Packet.handshake h).arrive memory) (Packet.handshake h).packetDeduction
        socket u = .ok ([(self.listenSocket, .handshake h')], u) := by
  obtain ⟨q, hq, hraw, h', hprocess, hasks'⟩ :=
    Exchange.asks_back hasks memory false socket 0 0 env u
  have hpeer : process env u (setPeerFields socket q) = .ok (true, .handshake h', u) := hprocess
  refine ⟨h', hasks', ?_⟩
  rw [receivePeer_eq socket hq hself hraw, hpeer]
  rfl

/-- An endpoint that is not ready refuses a request. -/
theorem UDTP.Quiet.request_refused (h : u.Quiet) {self : UDTPPeer}
    (hself : u.getPeer 0 = some self) (request : Request) :
    request.handle u = .ok (some .selfNotReady, [], u) := by
  have hincomplete := (h.records self (List.mem_of_getElem? hself)).notComplete
  cases request with
  | sendFile env memory path => exact sendFile_of_incomplete hself hincomplete
  | getFile env memory path => exact getFile_of_incomplete hself hincomplete

/-! ## Steps of the HOST -/

namespace HostLoop

variable {s : HostLoop} {input : HostInput}

/-- The entry the HOST is about to read from, and its record. -/
theorem Aligned.readsFrom (hs : s.Aligned) {number : ℕ} (h : s.readsFrom = some number) :
    ∃ i entry record, s.phase = .scan i ∧ 1 ≤ i ∧ s.activeListenSockets[i]? = some entry ∧
      entry.pollin = true ∧ s.udtp.getPeer i = some record ∧ record.listenSocket = entry.fd ∧
      entry.fd.connection = number := by
  unfold HostLoop.readsFrom at h
  split at h
  · rename_i i hphase
    split at h
    · cases h
    rename_i entry hentry
    split at h
    · rename_i hready
      have hlt : i < s.udtp.listPeers.length := by
        rw [← hs.length_eq]
        exact (List.getElem?_eq_some_iff.mp hentry).1
      have hrecord : s.udtp.getPeer i = some s.udtp.listPeers[i] := List.getElem?_eq_getElem hlt
      have hscanned := hs.scanned
      rw [hphase] at hscanned
      exact ⟨i, entry, _, hphase, hscanned.1, hentry, hready, hrecord,
        (hs.socket_eq hentry hrecord).symm, Option.some.inj h⟩
    · cases h
  · cases h

/-- A packet of an online peer is handled, and the scan goes on. -/
theorem step_of_receive (input : HostInput) {i : ℕ} {entry : PollFd} {record : UDTPPeer}
    {sent : List Sent} {u : UDTP} (hphase : s.phase = .scan i)
    (hentry : s.activeListenSockets[i]? = some entry) (hready : entry.pollin = true)
    (hrecord : s.udtp.getPeer i = some record)
    (honline : record.isOnline = true) (hcount : input.read.count ≠ 0)
    (hreceive : receiveHost input.environment input.read.contents input.read.packetDeduction
      entry.fd i s.udtp = .ok (sent, u)) :
    s.step input =
      .ok { s with udtp := u, sent := s.sent ++ sent, phase := .scan (i + 1) } := by
  simp only [step, hphase, hentry, hready, if_true, visit, hrecord, hcount, ne_eq,
    not_false_eq_true, honline, hreceive]
  rfl

/-- A step without a read and with nothing to remove succeeds: a connection is accepted, or all but
the phase and the answers of `poll()` stays. -/
theorem step_of_not_readsFrom (hs : s.Aligned) (hqueue : s.removePeerAndSocketSafely = [])
    (h : s.readsFrom = none) (input : HostInput) :
    s.step input = .ok ((s.afterAccept input.environment input.accept).setPhase (.scan 1)) ∧
        s.event input = some (.accepted input.environment input.accept) ∨
      ∃ t, s.step input = .ok t ∧ t.udtp = s.udtp ∧ t.sent = s.sent ∧ t.accepted = s.accepted ∧
        t.removePeerAndSocketSafely = [] := by
  cases hphase : s.phase with
  | poll =>
    refine Or.inr ⟨(s.setRevents input.poll).setPhase .accept, by simp [step, hphase], ?_⟩
    obtain ⟨sockets, hpolled⟩ := s.setRevents_eq input.poll
    rw [hpolled]
    exact ⟨rfl, rfl, rfl, hqueue⟩
  | accept =>
    cases hentries : s.activeListenSockets with
    | nil =>
      have hlength := hs.length_eq
      have hself := hs.self
      rw [hentries, List.length_nil, eq_comm, List.length_eq_zero_iff] at hlength
      rw [UDTP.connections, hlength] at hself
      cases hself
    | cons entry rest =>
      by_cases hready : entry.pollin = true
      · left
        constructor
        · simp only [step, hphase, hentries, hready, if_true, acceptConnection_eq]
          rfl
        · simp [event, hphase, hentries, hready]
      · right
        exact ⟨s.setPhase (.scan 1), by simp [step, hphase, hentries, hready], rfl, rfl, rfl,
          hqueue⟩
  | scan i =>
    right
    cases hentry : s.activeListenSockets[i]? with
    | none =>
      exact ⟨s.setPhase .removal, by simp [step, hphase, hentry], rfl, rfl, rfl, hqueue⟩
    | some entry =>
      have hready : entry.pollin = false := by
        simpa [HostLoop.readsFrom, hphase, hentry] using h
      exact ⟨s.setPhase (.scan (i + 1)), by simp [step, hphase, hentry, hready], rfl, rfl, rfl,
        hqueue⟩
  | removal =>
    refine Or.inr ⟨{ s with removePeerAndSocketSafely := [], phase := .poll }, ?_, rfl, rfl, rfl,
      rfl⟩
    simp [step, hphase, hqueue, removeQueued, Except.map]

end HostLoop

/-- A packet at a PEER that is alive is handled. -/
theorem PeerLoop.step_of_receive {s : PeerLoop} (input : PeerInput) {sent : List Sent} {u : UDTP}
    (hready : (s.udtp.isAlive && input.pollin) = true) (hcount : input.read.count ≠ 0)
    (hreceive : receivePeer input.environment input.read.contents input.read.packetDeduction
      s.masterPollFd s.udtp = .ok (sent, u)) :
    s.step input = .ok { s with udtp := u, sent := s.sent ++ sent } := by
  rw [step, if_pos hready, visit, if_pos hcount, hreceive]

/-! ## The HOST and the peers it accepted -/

/-- The endpoint of a HOST with the records of some accepted peers, which are as they were when
they were accepted. -/
def UDTP.Joined (host u : UDTP) : Prop :=
  ∃ count records, u = { host with
      uniqueIDCount := count, listPeers := host.listPeers ++ records } ∧
    ∀ p ∈ records, ∃ answer socket uniqueID, p = acceptedPeer answer socket uniqueID

namespace UDTP.Joined

variable {host : UDTP}

/-- Before anybody joins, the endpoint is the one that was started. -/
theorem refl (host : UDTP) : host.Joined host := by
  refine ⟨host.uniqueIDCount, [], ?_, by simp⟩
  rw [List.append_nil]

/-- A record that is accepted joins the others. -/
theorem accept (h : host.Joined u) (answer : AcceptAnswer) (socket : Socket)
    (uniqueID count : UInt32) :
    host.Joined { u with
      uniqueIDCount := count
      listPeers := u.listPeers ++ [acceptedPeer answer socket uniqueID] } := by
  obtain ⟨count', records, rfl, hrecords⟩ := h
  refine ⟨count, records ++ [acceptedPeer answer socket uniqueID], ?_, ?_⟩
  · rw [List.append_assoc]
  · intro p hp
    rcases List.mem_append.mp hp with hold | hnew
    · exact hrecords p hold
    · exact ⟨answer, socket, uniqueID, List.mem_singleton.mp hnew⟩

/-- Records that join keep the endpoint quiet. -/
theorem quiet (h : host.Joined u) (hhost : host.Quiet) : u.Quiet := by
  obtain ⟨count, records, rfl, hrecords⟩ := h
  refine ⟨hhost.files, hhost.overallFiles, hhost.fileIDCount, ?_⟩
  intro p hp
  rcases List.mem_append.mp hp with hold | hnew
  · exact hhost.records p hold
  · obtain ⟨answer, socket, uniqueID, rfl⟩ := hrecords p hnew
    exact UDTPPeer.Quiet.acceptedPeer answer socket uniqueID

/-- The records that join leave the first one where it is. -/
theorem getPeer (h : host.Joined u) {self : UDTPPeer} (hself : host.getPeer 0 = some self) :
    u.getPeer 0 = some self := by
  obtain ⟨count, records, rfl, -⟩ := h
  exact (List.getElem?_append_left (List.getElem?_eq_some_iff.mp hself).1).trans hself

end UDTP.Joined

namespace Wires

variable {programs : Programs} {host : UDTP} {peers : ℕ → UDTP} {w t : Wires}

/-! ## What was sent -/

/-- What the HOST sends to a PEER in a step are the packets appended for its connection. -/
theorem hostSent_of_append {s t : HostLoop} {sent : List Sent} (h : t.sent = s.sent ++ sent)
    (number : ℕ) :
    hostSent number s t = (sent.filter fun e => e.1.connection = number).map Prod.snd := by
  rw [hostSent, h, List.drop_left]

/-- A step that appends nothing sends nothing to a PEER. -/
theorem hostSent_of_same {s t : HostLoop} (h : t.sent = s.sent) (number : ℕ) :
    hostSent number s t = [] := by
  have hsent : t.sent = s.sent ++ [] := by rw [h, List.append_nil]
  rw [hostSent_of_append hsent]
  rfl

/-- What a PEER sends in a step are the packets appended. -/
theorem peerSent_of_append {s t : PeerLoop} {sent : List Sent} (h : t.sent = s.sent ++ sent) :
    peerSent s t = sent.map Prod.snd := by
  rw [peerSent, h, List.drop_left]

/-- Where nothing changed, nothing was sent. -/
@[simp]
theorem peerSent_self (s : PeerLoop) : peerSent s s = [] := by
  rw [peerSent, List.drop_length, List.map_nil]

/-- Going on with the same network leaves the wires alone. -/
theorem goOn_self (w : Wires) : w.goOn w.network = w := by
  simp only [goOn, peerSent_self, List.append_nil, hostSent_of_same rfl]

/-- After a step of the HOST, what it sent is on the wires to the PEERs. -/
theorem goOn_host (w : Wires) {s : HostLoop} {sent : List Sent}
    (h : s.sent = w.network.host.sent ++ sent) (number : ℕ) :
    (w.goOn { w.network with host := s }).toHost number = w.toHost number ∧
    (w.goOn { w.network with host := s }).toPeer number =
      w.toPeer number ++ (sent.filter fun e => e.1.connection = number).map Prod.snd := by
  constructor
  · simp only [goOn, peerSent_self, List.append_nil]
  · simp only [goOn, hostSent_of_append h]

/-- After a step of a PEER, what it sent is on its wire to the HOST. -/
theorem goOn_peer (w : Wires) (number : ℕ) {s : PeerLoop} {sent : List Sent}
    (h : s.sent = (w.network.peers number).sent ++ sent) (other : ℕ) :
    (w.goOn (w.network.setPeer number s)).toPeer other = w.toPeer other ∧
    (w.goOn (w.network.setPeer number s)).toHost other =
      w.toHost other ++ if other = number then sent.map Prod.snd else [] := by
  constructor
  · have hhost : (w.network.setPeer number s).host = w.network.host := rfl
    simp only [goOn, hhost, hostSent_of_same rfl, List.append_nil]
  · by_cases hother : other = number
    · subst hother
      simp only [goOn, Network.setPeer_peers_self, peerSent_of_append h, if_true]
    · simp only [goOn, Network.setPeer_peers_ne hother, peerSent_self, if_neg hother]

/-! ## Steps -/

/-- A step of the HOST that reads from no connection takes nothing off a wire. -/
theorem step_hostFinds {input : HostInput} {s : HostLoop}
    (hreads : w.network.host.readsFrom = none)
    (hstep : w.network.host.step (w.hostFinds programs.host input) = .ok s) :
    w.step programs (.host input) = .ok (w.goOn { w.network with host := s }) := by
  rw [step, hreads]
  simp only [Network.step, hstep]
  rfl

/-- A step of the HOST that reads from a connection takes the first packet off its wire. -/
theorem step_hostReads {number : ℕ} {input : HostInput} {p : Packet} {rest : List Packet}
    {s : HostLoop} (hreads : w.network.host.readsFrom = some number)
    (hwire : w.toHost number = p :: rest)
    (hstep : w.network.host.step (hostReads programs.host p input) = .ok s) :
    w.step programs (.host input) =
      .ok ({ w with toHost := Function.update w.toHost number rest }.goOn
        { w.network with host := s }) := by
  rw [step, hreads]
  simp only [hwire, Network.step, hstep]
  rfl

/-- A step of a PEER that reads takes the first packet off its wire. -/
theorem step_peerReads {number : ℕ} {input : PeerInput} {p : Packet} {rest : List Packet}
    {s : PeerLoop} (hready : ((w.network.peers number).udtp.isAlive && input.pollin) = true)
    (hwire : w.toPeer number = p :: rest)
    (hstep : (w.network.peers number).step (peerReads (programs.peers number) p input) = .ok s) :
    w.step programs (.peer number input) =
      .ok ({ w with toPeer := Function.update w.toPeer number rest }.goOn
        (w.network.setPeer number s)) := by
  rw [step]
  simp only [hwire, hready, if_true, Network.step, hstep]
  rfl

/-! ## The exchange of a connection -/

/-- The wires of a connection carry what the exchange says, and the two ends have its records. -/
structure Carries (w : Wires) (number : ℕ) (x : Exchange) : Prop where
  posID : x.posID = number
  connection : x.socket.connection = number
  peer : x.peer = (w.network.peers number).udtp
  record : ∃ p, x.host.getPeer number = some p ∧ w.network.host.udtp.getPeer number = some p ∧
    p.listenSocket = x.socket ∧ p.isOnline = true
  asking : x.Asking
  toHost : w.toHost number = if x.toHost then x.wire.toList else []
  toPeer : w.toPeer number = if x.toHost then [] else x.wire.toList

/-- The exchange of a connection as far as it has come in a run: it began with the ends as they were
when the HOST accepted the connection. -/
def ExchangeOf (programs : Programs) (host : UDTP) (peers : ℕ → UDTP) (ins : List NetworkInput)
    (number : ℕ) (x : Exchange) : Prop :=
  ∃ s input deliveries, Takes (step programs) (new host peers) ins s (.host input) ∧
    s.network.host.event (s.hostFinds programs.host input) =
      some (.accepted (programs.host.environment input.delivery) input.accept) ∧
    s.network.host.accepted + 1 = number ∧
    Exchange.run programs.host (programs.peers number)
      (Exchange.ofAccept programs.host input.delivery input.accept
        (s.network.host.nextSocket input.accept) s.network.host.udtp
        (s.network.peers number).udtp) deliveries = .ok x

/-- An exchange that happened in a run happened in every longer one. -/
theorem ExchangeOf.append {ins : List NetworkInput} {number : ℕ} {x : Exchange}
    (h : ExchangeOf programs host peers ins number x) (more : List NetworkInput) :
    ExchangeOf programs host peers (ins ++ more) number x := by
  obtain ⟨s, input, deliveries, htakes, hevent, hnumber, hrun⟩ := h
  exact ⟨s, input, deliveries, takes_append _ htakes more, hevent, hnumber, hrun⟩

/-- One more delivery extends the exchange. -/
theorem ExchangeOf.deliver {ins : List NetworkInput} {number : ℕ} {x y : Exchange}
    (h : ExchangeOf programs host peers ins number x) {delivery : Delivery}
    (hdeliver : x.deliver programs.host (programs.peers number) delivery = .ok y) :
    ExchangeOf programs host peers ins number y := by
  obtain ⟨s, input, deliveries, htakes, hevent, hnumber, hrun⟩ := h
  refine ⟨s, input, deliveries ++ [delivery], htakes, hevent, hnumber, ?_⟩
  exact (run_snoc_ok _ _ _ deliveries delivery).mpr ⟨x, hrun, hdeliver⟩

/-! ## What a step leaves alone -/

/-- The endpoints are as they were, but for what they have sent and how far the HOST's round is. -/
structure SameEnds (w t : Wires) : Prop where
  udtp : t.network.host.udtp = w.network.host.udtp
  accepted : t.network.host.accepted = w.network.host.accepted
  queue : t.network.host.removePeerAndSocketSafely = w.network.host.removePeerAndSocketSafely
  peers : ∀ number, (t.network.peers number).udtp = (w.network.peers number).udtp ∧
    (t.network.peers number).masterPollFd = (w.network.peers number).masterPollFd

/-- A PEER whose endpoint is as before. -/
theorem setPeer_sameEnd (network : Network) (number : ℕ) {s : PeerLoop}
    (hudtp : s.udtp = (network.peers number).udtp)
    (hmaster : s.masterPollFd = (network.peers number).masterPollFd) (other : ℕ) :
    ((network.setPeer number s).peers other).udtp = (network.peers other).udtp ∧
    ((network.setPeer number s).peers other).masterPollFd =
      (network.peers other).masterPollFd := by
  by_cases hother : other = number
  · subst hother
    rw [Network.setPeer_peers_self]
    exact ⟨hudtp, hmaster⟩
  · rw [Network.setPeer_peers_ne hother]
    exact ⟨rfl, rfl⟩

/-- Whether a network carries an exchange depends on the two records and the two wires alone. -/
theorem Carries.congr {number : ℕ} {x : Exchange} (h : w.Carries number x)
    (hpeer : (t.network.peers number).udtp = (w.network.peers number).udtp)
    (hrecord : ∀ p, w.network.host.udtp.getPeer number = some p →
      t.network.host.udtp.getPeer number = some p)
    (htoHost : t.toHost number = w.toHost number) (htoPeer : t.toPeer number = w.toPeer number) :
    t.Carries number x := by
  obtain ⟨p, hx, hw, hsocket, honline⟩ := h.record
  exact {
    posID := h.posID
    connection := h.connection
    peer := h.peer.trans hpeer.symm
    record := ⟨p, hx, hrecord p hw, hsocket, honline⟩
    asking := h.asking
    toHost := htoHost.trans h.toHost
    toPeer := htoPeer.trans h.toPeer }

/-- The network in which all connections ask: `host` and `peers` are the endpoints as they were
started. -/
structure Exchanging (host : UDTP) (peers : ℕ → UDTP) (w : Wires) : Prop where
  aligned : w.network.host.Aligned
  queue : w.network.host.removePeerAndSocketSafely = []
  connections : w.network.host.udtp.connections = List.range (w.network.host.accepted + 1)
  host : host.Joined w.network.host.udtp
  peers : ∀ number, (w.network.peers number).udtp = peers number ∧
    (w.network.peers number).masterPollFd = (peers number).listenSocket
  unused : ∀ number, number = 0 ∨ w.network.host.accepted < number →
    w.toHost number = [] ∧ w.toPeer number = []

/-- A step that keeps both ends of every connection keeps the network exchanging. -/
theorem Exchanging.of_sameEnds (hw : Exchanging host peers w) (h : SameEnds w t)
    (haligned : t.network.host.Aligned)
    (hunused : ∀ number, number = 0 ∨ w.network.host.accepted < number →
      t.toHost number = w.toHost number ∧ t.toPeer number = w.toPeer number) :
    Exchanging host peers t where
  aligned := haligned
  queue := h.queue.trans hw.queue
  connections := by rw [h.udtp, h.accepted, hw.connections]
  host := h.udtp ▸ hw.host
  peers := by
    intro number
    rw [(h.peers number).1, (h.peers number).2]
    exact hw.peers number
  unused := by
    intro number hnumber
    rw [h.accepted] at hnumber
    rw [(hunused number hnumber).1, (hunused number hnumber).2]
    exact hw.unused number hnumber

/-! ## Reading -/

/-- An accepted connection is the one of the record at its position. -/
theorem Exchanging.position (hw : Exchanging host peers w) {i : ℕ} {p : UDTPPeer}
    (hp : w.network.host.udtp.getPeer i = some p) :
    p.listenSocket.connection = i ∧ i ≤ w.network.host.accepted := by
  have hconnection : w.network.host.udtp.connections[i]? = some p.listenSocket.connection := by
    have hrecord : w.network.host.udtp.listPeers[i]? = some p := hp
    rw [UDTP.connections, List.getElem?_map, hrecord]
    rfl
  rw [hw.connections, List.getElem?_eq_some_iff] at hconnection
  obtain ⟨hlt, hi⟩ := hconnection
  rw [List.getElem_range] at hi
  rw [List.length_range] at hlt
  exact ⟨hi.symm, Nat.lt_succ_iff.mp hlt⟩

/-- The HOST reads the packet of a connection: its exchange delivers it, and that of no other one
is touched. -/
theorem Exchanging.hostRead (programs : Programs) (hw : Exchanging host peers w) {number : ℕ}
    {x : Exchange} (hx : w.Carries number x) (hreads : w.network.host.readsFrom = some number)
    (input : HostInput) {p : Packet} {rest : List Packet} (hwire : w.toHost number = p :: rest) :
    ∃ t y, w.step programs (.host input) = .ok t ∧
      x.deliver programs.host (programs.peers number) input.delivery = .ok y ∧
      t.Carries number y ∧ SameEnds w t ∧ t.network.host.Aligned ∧
      ∀ other ≠ number, t.toHost other = w.toHost other ∧ t.toPeer other = w.toPeer other := by
  obtain ⟨h, hasked, hasks⟩ := hx.asking
  obtain ⟨record, hxrecord, hwrecord, hsocket, honline⟩ := hx.record
  -- the only packet there is on its way to the HOST
  have hto : x.toHost = true := by
    by_contra hto
    rw [hx.toHost, if_neg hto] at hwire
    cases hwire
  have hwire' := hwire
  rw [hx.toHost, if_pos hto, hasked, Option.toList_some, List.cons.injEq] at hwire'
  obtain ⟨rfl, rfl⟩ := hwire'
  obtain ⟨i, entry, record', hphase, -, hentry, hready, hrecord', hfd, hnumber⟩ :=
    hw.aligned.readsFrom hreads
  obtain rfl : i = number := by
    rw [← (hw.position hrecord').1, hfd]
    exact hnumber
  obtain rfl : record = record' := Option.some.inj (hwrecord.symm.trans hrecord')
  obtain ⟨h', hasks', hanswer⟩ := receiveHost_asked hasks (programs.host.environment input.delivery)
    input.delivery.memory x.socket i record
  have hdeliver : x.deliver programs.host (programs.peers i) input.delivery =
      .ok { x with wire := some (.handshake h'), toHost := false } := by
    simp only [Exchange.deliver, hasked, hto, if_true, hx.posID, hanswer x.host hxrecord]
    rfl
  have hreceive := hanswer w.network.host.udtp hwrecord
  rw [← hsocket, hfd] at hreceive
  have hstep := HostLoop.step_of_receive (hostReads programs.host (.handshake h) input)
    hphase hentry hready hwrecord honline (Packet.read_count _ _) hreceive
  have hgone := goOn_host { w with toHost := Function.update w.toHost i [] }
    (s := { w.network.host with
      sent := w.network.host.sent ++ [(entry.fd, .handshake h')], phase := .scan (i + 1) }) rfl
  refine ⟨_, _, step_hostReads hreads hwire hstep, hdeliver, ?_, ?_, hw.aligned.step hstep, ?_⟩
  · obtain ⟨htoHost, htoPeer⟩ := hgone i
    exact {
      posID := hx.posID
      connection := hx.connection
      peer := hx.peer
      record := ⟨record, hxrecord, hwrecord, hsocket, honline⟩
      asking := ⟨h', rfl, hasks'⟩
      toHost := htoHost.trans (Function.update_self _ _ _)
      toPeer := by
        refine htoPeer.trans ?_
        simp [hx.toPeer, hto, hnumber] }
  · exact ⟨rfl, rfl, rfl, fun _ => ⟨rfl, rfl⟩⟩
  · intro other hother
    obtain ⟨htoHost, htoPeer⟩ := hgone other
    refine ⟨htoHost.trans (Function.update_of_ne hother _ _), htoPeer.trans ?_⟩
    simp [hnumber, Ne.symm hother]

/-- A PEER reads the packet of its connection. -/
theorem Exchanging.peerRead (programs : Programs) (hw : Exchanging host peers w)
    (hpeers : ∀ number, (peers number).Started .peer) {number : ℕ} {x : Exchange}
    (hx : w.Carries number x) (input : PeerInput)
    (hready : ((w.network.peers number).udtp.isAlive && input.pollin) = true) {p : Packet}
    {rest : List Packet} (hwire : w.toPeer number = p :: rest) :
    ∃ t y, w.step programs (.peer number input) = .ok t ∧
      x.deliver programs.host (programs.peers number) input.delivery = .ok y ∧
      t.Carries number y ∧ SameEnds w t ∧ t.network.host = w.network.host ∧
      ∀ other ≠ number, t.toHost other = w.toHost other ∧ t.toPeer other = w.toPeer other := by
  obtain ⟨h, hasked, hasks⟩ := hx.asking
  obtain ⟨hudtp, hmaster⟩ := hw.peers number
  obtain ⟨self, hfresh⟩ := (hpeers number).fresh
  have hself : (w.network.peers number).udtp.getPeer 0 = some self := by
    rw [hudtp, UDTP.getPeer, hfresh.listPeers]
    rfl
  -- the only packet there is on its way to the PEER
  have hto : x.toHost = false := by
    by_contra hto
    rw [hx.toPeer, if_pos (Bool.eq_true_of_not_eq_false hto)] at hwire
    cases hwire
  have hwire' := hwire
  rw [hx.toPeer, hto, hasked, if_neg Bool.false_ne_true, Option.toList_some,
    List.cons.injEq] at hwire'
  obtain ⟨rfl, rfl⟩ := hwire'
  obtain ⟨h', hasks', hanswer⟩ := receivePeer_asked hasks
    ((programs.peers number).environment input.delivery) input.delivery.memory
    (w.network.peers number).masterPollFd hself
  have hsocket : x.peer.listenSocket = (w.network.peers number).masterPollFd := by
    rw [hx.peer, hudtp, hmaster]
  have hdeliver : x.deliver programs.host (programs.peers number) input.delivery =
      .ok { x with wire := some (.handshake h'), toHost := true } := by
    simp only [Exchange.deliver, hasked, hto, Bool.false_eq_true, if_false]
    rw [hsocket, hx.peer, hanswer]
    rfl
  have hstep := PeerLoop.step_of_receive (peerReads (programs.peers number) (.handshake h) input)
    hready (Packet.read_count _ _) hanswer
  have hgone := goOn_peer { w with toPeer := Function.update w.toPeer number [] } number
    (s := { w.network.peers number with
      sent := (w.network.peers number).sent ++ [(self.listenSocket, .handshake h')] }) rfl
  have hsame := setPeer_sameEnd w.network number (s := { w.network.peers number with
    sent := (w.network.peers number).sent ++ [(self.listenSocket, .handshake h')] }) rfl rfl
  refine ⟨_, _, step_peerReads hready hwire hstep, hdeliver, ?_, ⟨rfl, rfl, rfl, hsame⟩, rfl, ?_⟩
  · obtain ⟨htoPeer, htoHost⟩ := hgone number
    exact {
      posID := hx.posID
      connection := hx.connection
      peer := hx.peer.trans (hsame number).1.symm
      record := hx.record
      asking := ⟨h', rfl, hasks'⟩
      toHost := by
        refine htoHost.trans ?_
        simp [hx.toHost, hto]
      toPeer := htoPeer.trans (Function.update_self _ _ _) }
  · intro other hother
    obtain ⟨htoPeer, htoHost⟩ := hgone other
    refine ⟨htoHost.trans ?_, htoPeer.trans (Function.update_of_ne hother _ _)⟩
    simp [hother]

/-! ## Accepting -/

/-- The HOST accepts a connection: its exchange begins, and that of no other one is touched. -/
theorem Exchanging.accept (hw : Exchanging host peers w)
    (hreads : w.network.host.readsFrom = none) (input : HostInput)
    (haccepts : w.network.host.step (w.hostFinds programs.host input) =
      .ok ((w.network.host.afterAccept (programs.host.environment input.delivery)
        input.accept).setPhase (.scan 1))) :
    ∃ t, w.step programs (.host input) = .ok t ∧ Exchanging host peers t ∧
      t.network.host.accepted = w.network.host.accepted + 1 ∧
      t.Carries (w.network.host.accepted + 1)
        (Exchange.ofAccept programs.host input.delivery input.accept
          (w.network.host.nextSocket input.accept) w.network.host.udtp
          (w.network.peers (w.network.host.accepted + 1)).udtp) ∧
      ∀ number x, number ≤ w.network.host.accepted → w.Carries number x → t.Carries number x := by
  have hlength : w.network.host.udtp.listPeers.length = w.network.host.accepted + 1 := by
    have := congrArg List.length hw.connections
    simpa [UDTP.connections] using this
  have hgone := goOn_host w (s := (w.network.host.afterAccept
    (programs.host.environment input.delivery) input.accept).setPhase (.scan 1)) rfl
  have hnew : ∀ number, number ≠ w.network.host.accepted + 1 →
      (w.goOn { w.network with host := (w.network.host.afterAccept
        (programs.host.environment input.delivery) input.accept).setPhase (.scan 1) }).toPeer
          number = w.toPeer number := by
    intro number hnumber
    refine (hgone number).2.trans ?_
    simp [HostLoop.nextSocket, Ne.symm hnumber]
  refine ⟨_, step_hostFinds hreads haccepts, ?_, rfl, ?_, ?_⟩
  · exact {
      aligned := hw.aligned.step haccepts
      queue := hw.queue
      connections := by
        have hconnections : ((w.network.host.afterAccept (programs.host.environment input.delivery)
            input.accept).setPhase (.scan 1)).udtp.connections =
              w.network.host.udtp.connections ++ [w.network.host.accepted + 1] := by
          simp [UDTP.connections, HostLoop.afterAccept, HostLoop.setPhase, HostLoop.nextSocket]
        refine hconnections.trans ?_
        rw [hw.connections, ← List.range_succ]
        rfl
      host := hw.host.accept _ _ _ _
      peers := hw.peers
      unused := by
        intro number hnumber
        have hbefore : number = 0 ∨ w.network.host.accepted + 1 < number := hnumber
        obtain ⟨htoHost, htoPeer⟩ := hw.unused number (by omega)
        exact ⟨(hgone number).1.trans htoHost, (hnew number (by omega)).trans htoPeer⟩ }
  · obtain ⟨htoHost, htoPeer⟩ := hw.unused (w.network.host.accepted + 1)
      (Or.inr (Nat.lt_succ_self _))
    exact {
      posID := by simp [Exchange.ofAccept, UDTP.acceptPeer_eq, hlength]
      connection := rfl
      peer := rfl
      record := by
        refine ⟨acceptedPeer input.accept (w.network.host.nextSocket input.accept)
          (w.network.host.udtp.uniqueIDCount + 1), ?_, ?_, by simp [Exchange.ofAccept], by simp⟩
        · simp [Exchange.ofAccept, UDTP.acceptPeer_eq, UDTP.getPeer, ← hlength]
        · simp [goOn, HostLoop.afterAccept, HostLoop.setPhase, UDTP.getPeer, ← hlength]
      asking := Exchange.ofAccept_asking _ _ _ _ _ _
      toHost := (hgone _).1.trans htoHost
      toPeer := by
        refine (hgone _).2.trans ?_
        rw [htoPeer]
        simp [Exchange.ofAccept, UDTP.acceptPeer_eq, HostLoop.nextSocket] }
  · intro number x hnumber hx
    refine hx.congr rfl ?_ (hgone number).1 (hnew number (by omega))
    intro p hp
    exact (List.getElem?_append_left (List.getElem?_eq_some_iff.mp hp).1).trans hp

/-! ## Runs -/

/-- Every accepted connection carries its exchange. -/
def Linked (programs : Programs) (host : UDTP) (peers : ℕ → UDTP) (ins : List NetworkInput)
    (w : Wires) : Prop :=
  Exchanging host peers w ∧ ∀ number, 1 ≤ number → number ≤ w.network.host.accepted →
    ∃ x, ExchangeOf programs host peers ins number x ∧ w.Carries number x

/-- An input that changes nothing keeps the link. -/
theorem Linked.wait {ins : List NetworkInput} (hw : Linked programs host peers ins w)
    (input : NetworkInput) : Linked programs host peers (ins ++ [input]) w := by
  refine ⟨hw.1, ?_⟩
  intro number hone hle
  obtain ⟨x, hx, hcarries⟩ := hw.2 number hone hle
  exact ⟨x, hx.append [input], hcarries⟩

/-- After a step that touches no wire. -/
theorem Linked.untouched {ins : List NetworkInput} (hw : Linked programs host peers ins w)
    (input : NetworkInput) (hsame : SameEnds w t) (haligned : t.network.host.Aligned)
    (hwires : ∀ number, t.toHost number = w.toHost number ∧ t.toPeer number = w.toPeer number) :
    Linked programs host peers (ins ++ [input]) t := by
  refine ⟨hw.1.of_sameEnds hsame haligned fun number _ => hwires number, ?_⟩
  intro number hone hle
  rw [hsame.accepted] at hle
  obtain ⟨x, hx, hcarries⟩ := hw.2 number hone hle
  refine ⟨x, hx.append [input], hcarries.congr (hsame.peers number).1 ?_ (hwires number).1
    (hwires number).2⟩
  intro p hp
  rw [hsame.udtp]
  exact hp

/-- After a step on which the exchange of one connection delivers a packet. -/
theorem Linked.delivered {ins : List NetworkInput} (hw : Linked programs host peers ins w)
    (input : NetworkInput) {number : ℕ} (hone : 1 ≤ number)
    (hle : number ≤ w.network.host.accepted) {x y : Exchange}
    (hx : ExchangeOf programs host peers ins number x) {delivery : Delivery}
    (hdeliver : x.deliver programs.host (programs.peers number) delivery = .ok y)
    (hy : t.Carries number y) (hsame : SameEnds w t) (haligned : t.network.host.Aligned)
    (hothers : ∀ other ≠ number,
      t.toHost other = w.toHost other ∧ t.toPeer other = w.toPeer other) :
    Linked programs host peers (ins ++ [input]) t := by
  refine ⟨hw.1.of_sameEnds hsame haligned ?_, ?_⟩
  · intro other hother
    exact hothers other (by omega)
  · intro other hotherOne hotherLe
    by_cases hother : other = number
    · subst hother
      exact ⟨y, (hx.deliver hdeliver).append [input], hy⟩
    · rw [hsame.accepted] at hotherLe
      obtain ⟨z, hz, hcarries⟩ := hw.2 other hotherOne hotherLe
      refine ⟨z, hz.append [input], hcarries.congr (hsame.peers other).1 ?_ (hothers other hother).1
        (hothers other hother).2⟩
      intro p hp
      rw [hsame.udtp]
      exact hp

/-- There are packets on the wires of accepted connections alone. -/
theorem Exchanging.accepted_of_wire (hw : Exchanging host peers w) {number : ℕ}
    (h : w.toHost number ≠ [] ∨ w.toPeer number ≠ []) :
    1 ≤ number ∧ number ≤ w.network.host.accepted := by
  by_contra hnumber
  obtain ⟨htoHost, htoPeer⟩ := hw.unused number (by omega)
  rcases h with h | h
  · exact h htoHost
  · exact h htoPeer

/-- A request changes nothing, at either end. -/
theorem Exchanging.step_request (hw : Exchanging host peers w) (hhost : host.Started .host)
    (hpeers : ∀ number, (peers number).Started .peer) (request : Request) :
    w.step programs (.hostRequest request) = .ok w ∧
      ∀ number, w.step programs (.peerRequest number request) = .ok w := by
  constructor
  · obtain ⟨self, hfresh⟩ := hhost.fresh
    have hself : host.getPeer 0 = some self := by
      rw [UDTP.getPeer, hfresh.listPeers]
      rfl
    have hrefused := (hw.host.quiet hhost.quiet).request_refused (hw.host.getPeer hself) request
    have hstep : w.network.step (.hostRequest request) = .ok w.network := by
      rw [Network.step, hrefused]
      simp only [Except.map, List.append_nil]
    rw [step, hstep]
    exact congrArg Except.ok w.goOn_self
  · intro number
    obtain ⟨self, hfresh⟩ := (hpeers number).fresh
    have hself : (w.network.peers number).udtp.getPeer 0 = some self := by
      rw [(hw.peers number).1, UDTP.getPeer, hfresh.listPeers]
      rfl
    have hquiet : (w.network.peers number).udtp.Quiet := by
      rw [(hw.peers number).1]
      exact (hpeers number).quiet
    have hstep : w.network.step (.peerRequest number request) = .ok w.network := by
      rw [Network.step, hquiet.request_refused hself request]
      simp only [Except.map, List.append_nil, Network.setPeer, Function.update_eq_self]
    rw [step, hstep]
    exact congrArg Except.ok w.goOn_self

/-- A step of the HOST: it accepts a connection, goes on with its round, waits for a packet or reads
one. -/
theorem Linked.hostStep {ins : List NetworkInput} (hrun : run programs host peers ins = .ok w)
    (hw : Linked programs host peers ins w) (input : HostInput) :
    ∃ t, w.step programs (.host input) = .ok t ∧
      Linked programs host peers (ins ++ [.host input]) t := by
  cases hreads : w.network.host.readsFrom with
  | none =>
    rcases HostLoop.step_of_not_readsFrom hw.1.aligned hw.1.queue hreads
      (w.hostFinds programs.host input) with
      ⟨haccepts, hevent⟩ | ⟨s, hstep, hudtp, hsent, haccepted, hqueue⟩
    · obtain ⟨t, hstep, ht, haccepted, hnew, hold⟩ := hw.1.accept hreads input haccepts
      refine ⟨t, hstep, ht, ?_⟩
      intro number hone hle
      by_cases hnumber : number = w.network.host.accepted + 1
      · subst hnumber
        exact ⟨_, ⟨w, input, [], ⟨ins, [], rfl, hrun⟩, hevent, rfl, rfl⟩, hnew⟩
      · have hbefore : number ≤ w.network.host.accepted := by omega
        obtain ⟨x, hx, hcarries⟩ := hw.2 number hone hbefore
        exact ⟨x, hx.append _, hold number x hbefore hcarries⟩
    · refine ⟨_, step_hostFinds hreads hstep, hw.untouched _ ?_ (hw.1.aligned.step hstep) ?_⟩
      · exact ⟨hudtp, haccepted, hqueue.trans hw.1.queue.symm, fun _ => ⟨rfl, rfl⟩⟩
      · intro number
        have hnone : s.sent = w.network.host.sent ++ [] := by rw [hsent, List.append_nil]
        obtain ⟨htoHost, htoPeer⟩ := goOn_host w hnone number
        refine ⟨htoHost, htoPeer.trans ?_⟩
        simp
  | some number =>
    cases hwire : w.toHost number with
    | nil => exact ⟨w, by simp [Wires.step, hreads, hwire], hw.wait _⟩
    | cons p rest =>
      obtain ⟨hone, hle⟩ := hw.1.accepted_of_wire (Or.inl (by rw [hwire]; simp))
      obtain ⟨x, hx, hcarries⟩ := hw.2 number hone hle
      obtain ⟨t, y, hstep, hdeliver, hy, hsame, haligned, hothers⟩ :=
        hw.1.hostRead programs hcarries hreads input hwire
      exact ⟨t, hstep, hw.delivered _ hone hle hx hdeliver hy hsame haligned hothers⟩

/-- A round of a PEER: it waits for a packet, or reads one. -/
theorem Linked.peerStep (hpeers : ∀ number, (peers number).Started .peer) {ins : List NetworkInput}
    (hw : Linked programs host peers ins w) (number : ℕ) (input : PeerInput) :
    ∃ t, w.step programs (.peer number input) = .ok t ∧
      Linked programs host peers (ins ++ [.peer number input]) t := by
  cases hwire : w.toPeer number with
  | nil => exact ⟨w, by simp [Wires.step, hwire], hw.wait _⟩
  | cons p rest =>
    by_cases hready : ((w.network.peers number).udtp.isAlive && input.pollin) = true
    · obtain ⟨hone, hle⟩ := hw.1.accepted_of_wire (Or.inr (by rw [hwire]; simp))
      obtain ⟨x, hx, hcarries⟩ := hw.2 number hone hle
      obtain ⟨t, y, hstep, hdeliver, hy, hsame, hkept, hothers⟩ :=
        hw.1.peerRead programs hpeers hcarries input hready hwire
      have haligned : t.network.host.Aligned := hkept ▸ hw.1.aligned
      exact ⟨t, hstep, hw.delivered _ hone hle hx hdeliver hy hsame haligned hothers⟩
    · exact ⟨w, by simp only [Wires.step, hwire, if_neg hready], hw.wait _⟩

/-- **One step.** No step faults, and every accepted connection goes on carrying its exchange. -/
theorem Linked.step (hhost : host.Started .host)
    (hpeers : ∀ number, (peers number).Started .peer) {ins : List NetworkInput}
    (hrun : run programs host peers ins = .ok w) (hw : Linked programs host peers ins w)
    (input : NetworkInput) :
    ∃ t, w.step programs input = .ok t ∧ Linked programs host peers (ins ++ [input]) t := by
  cases input with
  | host input => exact hw.hostStep hrun input
  | peer number input => exact hw.peerStep hpeers number input
  | hostRequest request =>
    exact ⟨w, (hw.1.step_request hhost hpeers request).1, hw.wait _⟩
  | peerRequest number request =>
    exact ⟨w, (hw.1.step_request hhost hpeers request).2 number, hw.wait _⟩

/-- Before the first step no connection has an exchange. -/
theorem new_exchanging (hhost : host.Started .host) (peers : ℕ → UDTP) :
    Exchanging host peers (new host peers) := by
  obtain ⟨self, hfresh⟩ := hhost.fresh
  exact {
    aligned := HostLoop.new_aligned hhost
    queue := rfl
    connections := by
      simp [new, Network.new, HostLoop.new, UDTP.connections, hfresh.listPeers,
        hfresh.listenSocket, hfresh.connection]
    host := UDTP.Joined.refl host
    peers := fun _ => ⟨rfl, rfl⟩
    unused := fun _ _ => ⟨rfl, rfl⟩ }

/-- Every run succeeds, and leaves each accepted connection with its exchange. -/
theorem run_linked (programs : Programs) (hhost : host.Started .host)
    (hpeers : ∀ number, (peers number).Started .peer) (ins : List NetworkInput) :
    ∃ w, run programs host peers ins = .ok w ∧ Linked programs host peers ins w := by
  have hnew : Linked programs host peers [] (new host peers) := by
    refine ⟨new_exchanging hhost peers, ?_⟩
    intro number hone hle
    have hnone : (new host peers).network.host.accepted = 0 := rfl
    omega
  exact run_total_induction (step programs) (new host peers) hnew
    (fun ins w input hrun hw => hw.step hhost hpeers hrun input) ins

/-- **Each connection of the network is an exchange.** Every run of a HOST and its PEERs whose
packets get across, with any interleaving, delays and requests, is a run of the loops.  After it
the wires of each accepted connection carry the packet of an exchange that began with the two ends
as they were when the HOST accepted the connection, and the records of the ends are those of the
exchange. -/
theorem exchanges_of_run (hhost : host.Started .host)
    (hpeers : ∀ number, (peers number).Started .peer) {ins : List NetworkInput}
    (hrun : run programs host peers ins = .ok w) :
    (∃ found, Network.run host peers found = .ok w.network) ∧
    ∀ number, 1 ≤ number → number ≤ w.network.host.accepted →
      ∃ x, ExchangeOf programs host peers ins number x ∧
        w.toHost number = (if x.toHost then x.wire.toList else []) ∧
        w.toPeer number = (if x.toHost then [] else x.wire.toList) ∧
        (w.network.peers number).udtp = x.peer ∧
        ∃ p, w.network.host.udtp.getPeer number = some p ∧ x.host.getPeer x.posID = some p := by
  refine ⟨run_network hrun, ?_⟩
  intro number hone hle
  obtain ⟨w', hrun', hw⟩ := run_linked programs hhost hpeers ins
  obtain rfl : w = w' := Except.ok.inj (hrun.symm.trans hrun')
  obtain ⟨x, hx, hcarries⟩ := hw.2 number hone hle
  obtain ⟨p, hxp, hwp, -, -⟩ := hcarries.record
  exact ⟨x, hx, hcarries.toHost, hcarries.toPeer, hcarries.peer.symm, p, hwp,
    by rw [hcarries.posID]; exact hxp⟩

/-- The HOST reads the answer of its first peer after it has accepted a second one. -/
theorem exchanges_of_run_two :
    ∃ w, run .defaults (.startedIn .host) (fun _ => .startedIn .peer)
        (List.replicate 5 (.host .polling) ++ .peer 1 .polling ::
          List.replicate 6 (.host .polling)) = .ok w ∧ w.network.host.accepted = 2 ∧
      (∃ found, Network.run (.startedIn .host) (fun _ => .startedIn .peer) found =
        .ok w.network) ∧
      ∀ number, 1 ≤ number → number ≤ w.network.host.accepted →
        ∃ x, ExchangeOf .defaults (.startedIn .host) (fun _ => .startedIn .peer)
            (List.replicate 5 (.host .polling) ++ .peer 1 .polling ::
              List.replicate 6 (.host .polling)) number x ∧
          w.toHost number = (if x.toHost then x.wire.toList else []) ∧
          w.toPeer number = (if x.toHost then [] else x.wire.toList) ∧
          (w.network.peers number).udtp = x.peer ∧
          ∃ p, w.network.host.udtp.getPeer number = some p ∧
            x.host.getPeer x.posID = some p :=
  ⟨_, rfl, rfl, exchanges_of_run (UDTP.startedIn_started .host)
    (fun _ => UDTP.startedIn_started .peer) rfl⟩

/-- **The network asks forever.** No run of a HOST and its PEERs whose packets get across faults.
In whatever order the loops go on and `send_file()` and `get_file()` are called, there is one
packet on every accepted connection, a handshake that asks the end it goes to to start, and none
on any other wire; the PEERs are as they were started, and the HOST has but new records in which
no handshake is recorded. -/
theorem always_asking (programs : Programs) (hhost : host.Started .host)
    (hpeers : ∀ number, (peers number).Started .peer) (ins : List NetworkInput) :
    ∃ w, run programs host peers ins = .ok w ∧
      (∀ number, 1 ≤ number → number ≤ w.network.host.accepted → ∃ h : UDTPHandshake,
        h.Asks ∧ w.toHost number ++ w.toPeer number = [.handshake h]) ∧
      (∀ number, number = 0 ∨ w.network.host.accepted < number →
        w.toHost number ++ w.toPeer number = []) ∧
      (∀ number, (w.network.peers number).udtp = peers number) ∧
      ∃ count records, w.network.host.udtp = { host with
          uniqueIDCount := count, listPeers := host.listPeers ++ records } ∧
        records.length = w.network.host.accepted ∧
        ∀ p ∈ records, p.isOnline = true ∧ p.checkInitProcess .handshake = false := by
  obtain ⟨w, hrun, hw, hexchanges⟩ := run_linked programs hhost hpeers ins
  refine ⟨w, hrun, ?_, ?_, fun number => (hw.peers number).1, ?_⟩
  · intro number hone hle
    obtain ⟨x, -, hcarries⟩ := hexchanges number hone hle
    obtain ⟨h, hwire, hasks⟩ := hcarries.asking
    refine ⟨h, hasks, ?_⟩
    rw [hcarries.toHost, hcarries.toPeer, hwire]
    cases x.toHost with
    | true => rfl
    | false => rfl
  · intro number hnumber
    rw [(hw.unused number hnumber).1, (hw.unused number hnumber).2]
    rfl
  · obtain ⟨self, hfresh⟩ := hhost.fresh
    obtain ⟨count, records, heq, hrecords⟩ := hw.host
    refine ⟨count, records, heq, ?_, ?_⟩
    · have hlength := congrArg List.length hw.connections
      rw [UDTP.connections, heq, hfresh.listPeers] at hlength
      simpa [Nat.add_comm] using hlength
    · intro p hp
      obtain ⟨answer, socket, uniqueID, rfl⟩ := hrecords p hp
      simp

/-- Two peers, one of which was asked twice. -/
theorem always_asking_two :
    ∃ w, run .defaults (.startedIn .host) (fun _ => .startedIn .peer)
        (List.replicate 5 (.host .polling) ++ .peer 1 .polling ::
          List.replicate 6 (.host .polling)) = .ok w ∧
      (∀ number, 1 ≤ number → number ≤ w.network.host.accepted → ∃ h : UDTPHandshake,
        h.Asks ∧ w.toHost number ++ w.toPeer number = [.handshake h]) ∧
      (∀ number, number = 0 ∨ w.network.host.accepted < number →
        w.toHost number ++ w.toPeer number = []) ∧
      (∀ number, (w.network.peers number).udtp = .startedIn .peer) ∧
      ∃ count records, w.network.host.udtp = { UDTP.startedIn .host with
          uniqueIDCount := count, listPeers := (UDTP.startedIn .host).listPeers ++ records } ∧
        records.length = w.network.host.accepted ∧
        ∀ p ∈ records, p.isOnline = true ∧ p.checkInitProcess .handshake = false :=
  always_asking .defaults (UDTP.startedIn_started .host) (fun _ => UDTP.startedIn_started .peer) _

end Wires

end Udtp
