import Udtp.Analysis.PeerIdentity
import Udtp.Analysis.RecordLocality
import Udtp.Computation.PartyView

/-!
# The peers of a HOST do not see each other

One thread of the HOST serves all peers, in one loop over shared lists.  Still, what it keeps for
a connection and what it sends on it are what a HOST with that one peer would: a packet is
handled as if the record it came for were the only one (`receiveHost_lone`), and no other step
reaches the record or the socket.  So every connection is an independent party of the loop
(`independent`).

The exception is the removal of a peer.  It may take the record of another connection, and then
nothing is left of that one; it never takes a part of it.
-/

set_option autoImplicit false

namespace Udtp

open StepMachine PartyView

/-! ## The other records -/

/-- What arrives for a position changes no record at another one, but for that of the endpoint
itself. -/
theorem receiveHost_others {env : Environment} {contents : Contents}
    {packetDeduction : UDTPPacketHeader} {socket : Socket} {i k : ℕ} {u u' : UDTP}
    {sent : List Sent}
    (h : receiveHost env contents packetDeduction socket i u = .ok (sent, u'))
    (hki : k ≠ i) (hk : k ≠ 0) :
    u'.getPeer k = u.getPeer k := by
  rcases receiveHost_cases h with ⟨-, -, rfl⟩ | ⟨p, peer, b, q, -, -, hprocess, -⟩
  · rfl
  cases p with
  | handshake hs =>
    obtain ⟨b', h', hr, -, -⟩ := process_handshake
      (h := hs.forPeer socket i peer.uniqueID) hprocess
    rw [UDTPHandshake.unpack_forPeer] at hr
    rcases UDTPHandshake.respond_udtp hr with ⟨-, -, rfl⟩ | ⟨-, -, rfl⟩ | ⟨-, rfl⟩ | ⟨-, -, rfl⟩
    · exact UDTP.getPeer_modifyPeer_ne u _ hki
    · exact UDTP.getPeer_modifyPeer_ne u _ hki
    · exact UDTP.getPeer_modifyPeer_ne u _ hk
    · rfl
  | header hd =>
    obtain ⟨-, h', hr, -⟩ := (process_header (h := hd.forPeer socket i peer.uniqueID)).mp hprocess
    rcases UDTPHeader.respond_udtp hr with ⟨v, f, ⟨count, rfl⟩, -, rfl⟩ | ⟨-, count, rfl⟩
    · exact UDTP.getPeer_modifyPeer_ne _ _ hki
    · rfl
  | path pa =>
    cases hprocess
    rfl
  | acknowledge a =>
    obtain ⟨-, b', a', -, hr⟩ := process_acknowledge
      (a := a.forPeer socket i peer.uniqueID) hprocess
    obtain ⟨rfl | ⟨r, r', -, -, rfl⟩, -⟩ := UDTPAcknowledge.respond_spec hr
    · rfl
    · exact UDTP.getPeer_modifyPeer_ne u _ hki

/-- What arrives for a position is answered on the socket of its record. -/
theorem receiveHost_sent_socket {env : Environment} {contents : Contents}
    {packetDeduction : UDTPPacketHeader} {socket : Socket} {i : ℕ} {u u' : UDTP}
    {sent : List Sent} {peer : UDTPPeer} (hpeer : u.getPeer i = some peer)
    (h : receiveHost env contents packetDeduction socket i u = .ok (sent, u')) :
    ∀ e ∈ sent, e.1 = peer.listenSocket := by
  rcases receiveHost_cases h with ⟨-, rfl, -⟩ | ⟨p, peer', b, q, -, hpeer', -, rfl⟩
  · simp
  · obtain rfl : peer = peer' := Option.some.inj (hpeer.symm.trans hpeer')
    cases b with
    | false => simp
    | true => simp

namespace HostLoop

variable {s t : HostLoop} {input : HostInput} {c : ℕ}

/-! ## Views -/

/-- The connection of a position shows the record there. -/
theorem Aligned.connectionView_of_record (h : s.Aligned) {k : ℕ} {p : UDTPPeer}
    (hp : s.udtp.getPeer k = some p) (hc : p.listenSocket.connection = c) :
    s.connectionView c = some { record := p.core, sent := s.sentOn c } := by
  have hfind : s.udtp.listPeers.find? (fun q => q.listenSocket.connection = c) = some p := by
    cases hfound : s.udtp.listPeers.find? (fun q => q.listenSocket.connection = c) with
    | none =>
      have := List.find?_eq_none.mp hfound p (List.mem_of_getElem? hp)
      simp [hc] at this
    | some q =>
      have hqc : q.listenSocket.connection = c := by
        simpa using List.find?_some hfound
      obtain ⟨j, hj⟩ := List.mem_iff_getElem?.mp (List.mem_of_find?_eq_some hfound)
      obtain rfl := h.position_inj hp hj (hc.trans hqc.symm)
      exact hj.symm.trans hp
  rw [connectionView, hfind]
  rfl

/-- A connection shows nothing iff it has no record. -/
theorem connectionView_eq_none :
    s.connectionView c = none ↔ ∀ p ∈ s.udtp.listPeers, p.listenSocket.connection ≠ c := by
  simp [connectionView]

/-- What a view was found in. -/
theorem exists_record_of_connectionView {v : ConnectionView} (hv : s.connectionView c = some v) :
    ∃ k p, s.udtp.getPeer k = some p ∧ p.listenSocket.connection = c := by
  obtain ⟨p, hfound, -⟩ := Option.map_eq_some_iff.mp hv
  obtain ⟨k, hk⟩ := List.mem_iff_getElem?.mp (List.mem_of_find?_eq_some hfound)
  exact ⟨k, p, hk, by simpa using List.find?_some hfound⟩

/-- A change that keeps the connections of all positions, the record of one connection and what
was sent on it, keeps the view of that connection. -/
theorem connectionView_congr (hs : s.Aligned) (ht : t.Aligned)
    (hid : t.udtp.listPeers.map UDTPPeer.identity = s.udtp.listPeers.map UDTPPeer.identity)
    (hsent : t.sentOn c = s.sentOn c)
    (hrecord : ∀ k p, s.udtp.getPeer k = some p → p.listenSocket.connection = c →
      t.udtp.getPeer k = some p) : t.connectionView c = s.connectionView c := by
  cases hview : s.connectionView c with
  | none =>
    rw [connectionView_eq_none] at hview ⊢
    exact UDTP.forall_listPeers_of_map_eq (fun id => id.1.connection ≠ c) hid hview
  | some v =>
    obtain ⟨k, p, hp, hc⟩ := exists_record_of_connectionView hview
    rw [hs.connectionView_of_record hp hc] at hview
    rw [ht.connectionView_of_record (hrecord k p hp hc) hc, hsent, hview]

/-- Packets sent on other connections do not show. -/
theorem sentOn_append {sent : List Sent} (hsent : ∀ e ∈ sent, e.1.connection ≠ c)
    (h : t.sent = s.sent ++ sent) : t.sentOn c = s.sentOn c := by
  have hnone : sent.filter (fun e => e.1.connection = c) = [] := by
    rw [List.filter_eq_nil_iff]
    simpa using hsent
  rw [sentOn, sentOn, h, List.filter_append, hnone, List.append_nil]

/-- Packets sent on the connection show, without the position they came from. -/
theorem sentOn_append_self {sent : List Sent} (hsent : ∀ e ∈ sent, e.1.connection = c)
    (h : t.sent = s.sent ++ sent) :
    t.sentOn c = s.sentOn c ++ sent.map fun e => e.2.unplaced := by
  have hall : sent.filter (fun e => e.1.connection = c) = sent := by
    rw [List.filter_eq_self]
    simpa using hsent
  rw [sentOn, sentOn, h, List.filter_append, hall, List.map_append]

/-! ## The steps -/

/-- A packet of the connection is handled as the only peer's. -/
theorem connectionView_packet (hs : s.Aligned) (ht : t.Aligned) {i : ℕ} {entry : PollFd}
    {peer : UDTPPeer} {sent : List Sent} (hi : i ≠ 0)
    (hentry : s.activeListenSockets[i]? = some entry) (hpeer : s.udtp.getPeer i = some peer)
    (honline : peer.isOnline = true)
    (hreceive : receiveHost input.environment input.read.contents input.read.packetDeduction
      entry.fd i s.udtp = .ok (sent, t.udtp)) (hsent : t.sent = s.sent ++ sent) :
    t.connectionView peer.listenSocket.connection =
      (s.connectionView peer.listenSocket.connection).map
        (ConnectionView.packet input.environment input.read) := by
  have hsocket := hs.socket_eq hentry hpeer
  rw [hsocket] at hreceive
  obtain ⟨sent', v', hlone, hpackets, hsame⟩ := receiveHost_lone hi hpeer hreceive
  obtain ⟨p', hp', hid⟩ := UDTP.getPeer_of_map_eq (receiveHost_identity hreceive).symm hpeer
  have hconnection : p'.listenSocket.connection = peer.listenSocket.connection := by
    rw [← (Prod.mk.inj hid).1]
  obtain ⟨q, hq, hcore⟩ : ∃ q, v'.getPeer 1 = some q ∧ q.core = p'.core := by
    rw [SameRecord, hp', Option.map_some, eq_comm] at hsame
    exact Option.map_eq_some_iff.mp hsame
  have hsentOn : t.sentOn peer.listenSocket.connection =
      s.sentOn peer.listenSocket.connection ++ sent.map fun e => e.2.unplaced := by
    refine sentOn_append_self ?_ hsent
    intro e he
    rw [receiveHost_sent_socket hpeer hreceive e he]
  rw [hs.connectionView_of_record hpeer rfl, ht.connectionView_of_record hp' hconnection, hsentOn,
    Option.map_some, hpackets]
  simp only [ConnectionView.packet, UDTPPeer.core_isOnline, honline, if_true,
    UDTPPeer.core_listenSocket, hlone, hq, Option.getD_some, hcore]

/-- A connection that was not accepted yet was sent nothing. -/
theorem Numbered.sentOn_eq_nil (hn : s.Numbered) (hc : s.accepted < c) : s.sentOn c = [] := by
  rw [sentOn, List.map_eq_nil_iff, List.filter_eq_nil_iff]
  intro e he
  have := hn.reached e he
  simp only [decide_eq_true_eq]
  omega

/-- The connection that is accepted is sent a handshake. -/
theorem Numbered.sentOn_accepted (hn : s.Numbered) (env : Environment) (answer : AcceptAnswer)
    (hsent : t.sent = (s.afterAccept env answer).sent) :
    t.sentOn (s.accepted + 1) =
      s.sentOn (s.accepted + 1) ++ (ConnectionView.ofAccept env answer (s.accepted + 1)).sent := by
  have hnumber : s.udtp.uniqueIDCount + 1 = UInt32.ofNat (s.accepted + 1) := by
    rw [hn.count, UInt32.ofNat_add]
    rfl
  have hfirst : t.sentOn (s.accepted + 1) = s.sentOn (s.accepted + 1) ++
      [(Packet.handshake (handshakeStart env answer (s.nextSocket answer)
        s.udtp.listPeers.length (s.udtp.uniqueIDCount + 1))).unplaced] :=
    sentOn_append_self (by simp [nextSocket]) hsent
  rw [hfirst, hnumber]
  rfl

/-- The others are sent nothing. -/
theorem sentOn_accepted_ne (hc : s.accepted + 1 ≠ c) (env : Environment) (answer : AcceptAnswer)
    (hsent : t.sent = (s.afterAccept env answer).sent) : t.sentOn c = s.sentOn c := by
  apply sentOn_append ?_ hsent
  simpa [nextSocket] using hc

/-- The connection that is accepted on a step gets its first view. -/
theorem connectionView_accepted (ht : t.Aligned) (hn : s.Numbered) (env : Environment)
    (answer : AcceptAnswer) (hudtp : t.udtp = (s.afterAccept env answer).udtp)
    (hsent : t.sent = (s.afterAccept env answer).sent) :
    t.connectionView (s.accepted + 1) =
      some (ConnectionView.ofAccept env answer (s.accepted + 1)) := by
  have hlast : t.udtp.getPeer s.udtp.listPeers.length =
      some (acceptedPeer answer (s.nextSocket answer) (s.udtp.uniqueIDCount + 1)) := by
    rw [hudtp]
    exact List.getElem?_concat_length
  have hnumber : s.udtp.uniqueIDCount + 1 = UInt32.ofNat (s.accepted + 1) := by
    rw [hn.count, UInt32.ofNat_add]
    rfl
  rw [ht.connectionView_of_record hlast (by simp [nextSocket]),
    hn.sentOn_accepted env answer hsent, hn.sentOn_eq_nil (Nat.lt_succ_self _), hnumber]
  rfl

/-- A removal is no event of a connection. -/
theorem event_of_removal {e : Option HostEvent} {queue : List ℕ}
    (hevent : e = if queue = [] then none else some .removal) :
    e = none ∨ e = some .removal := by
  rw [hevent]
  split
  · exact Or.inl rfl
  · exact Or.inr rfl

/-- The view after a step: the connection's own event, and nothing else, changed it; or its
record was removed. -/
theorem connectionView_step (hs : s.Aligned) (hn : s.Numbered) (hc : c ≠ 0)
    (hstep : s.step input = .ok t) :
    t.connectionView c = (s.connectionEvent c input).elim (s.connectionView c)
        (ConnectionView.next c (s.connectionView c)) ∨ t.connectionView c = none := by
  have ht := hs.step hstep
  have hstepped := step_stepped hstep
  rw [connectionEvent]
  generalize s.event input = e at hstepped
  cases hstepped with
  | polled hphase =>
    obtain ⟨sockets, hpolled⟩ := s.setRevents_eq input.poll
    rw [hpolled]
    exact Or.inl rfl
  | accepted hphase =>
    left
    by_cases hnew : s.accepted + 1 = c
    · subst hnew
      simp only [if_true, Option.elim]
      exact connectionView_accepted ht hn input.environment input.accept rfl rfl
    · simp only [if_neg hnew, Option.elim]
      have hfind : ((s.afterAccept input.environment input.accept).setPhase
          (.scan 1)).udtp.listPeers.find? (fun p => p.listenSocket.connection = c) =
          s.udtp.listPeers.find? (fun p => p.listenSocket.connection = c) := by
        simp [afterAccept, setPhase, nextSocket, hnew]
      have hsent : ((s.afterAccept input.environment input.accept).setPhase (.scan 1)).sentOn c =
          s.sentOn c := sentOn_accepted_ne hnew input.environment input.accept rfl
      rw [connectionView, connectionView, hfind, hsent]
  | skipped hphase => exact Or.inl rfl
  | passed i entry hphase hentry => exact Or.inl rfl
  | scanned i hphase hend => exact Or.inl rfl
  | received i entry peer sent u hphase hentry hpeer honline hreceive =>
    left
    have hi : i ≠ 0 := by
      have hscanned := hs.scanned
      rw [hphase] at hscanned
      have := hscanned.1
      omega
    rw [hs.socket_eq hentry hpeer]
    by_cases hown : peer.listenSocket.connection = c
    · subst hown
      simp only [if_true, Option.elim]
      exact connectionView_packet hs ht hi hentry hpeer honline hreceive rfl
    · simp only [if_neg hown, Option.elim]
      apply connectionView_congr hs ht (receiveHost_identity hreceive)
      · apply sentOn_append ?_ rfl
        intro e he
        rw [receiveHost_sent_socket hpeer hreceive e he]
        exact hown
      · intro k p hp hpc
        have hk : k ≠ 0 := hs.position_ne_zero hp (hpc ▸ hc)
        have hki : k ≠ i := by
          rintro rfl
          obtain rfl : peer = p := Option.some.inj (hpeer.symm.trans hp)
          exact hown hpc
        exact (receiveHost_others hreceive hki hk).trans hp
  | ignored i entry peer hphase hentry hpeer hoffline =>
    left
    rw [hs.socket_eq hentry hpeer]
    by_cases hown : peer.listenSocket.connection = c
    · have hview := hs.connectionView_of_record hpeer hown
      have hview' : (s.setPhase (.scan (i + 1))).connectionView c = s.connectionView c := rfl
      simp only [if_pos hown, Option.elim]
      rw [hview', hview]
      simp [ConnectionView.next, ConnectionView.packet, hoffline]
    · simp only [if_neg hown, Option.elim]
      rfl
  | disconnected i entry peer hphase hentry hpeer =>
    left
    rw [hs.socket_eq hentry hpeer]
    have hid := UDTP.map_listPeers_modifyPeer UDTPPeer.identity s.udtp i UDTPPeer.setOffline
      fun _ => rfl
    by_cases hown : peer.listenSocket.connection = c
    · simp only [if_pos hown, Option.elim]
      have hoffline : (s.udtp.modifyPeer i UDTPPeer.setOffline).getPeer i =
          some peer.setOffline := by
        rw [UDTP.getPeer_modifyPeer_self, hpeer]
        rfl
      rw [hs.connectionView_of_record hpeer hown, ht.connectionView_of_record hoffline hown]
      rfl
    · simp only [if_neg hown, Option.elim]
      apply connectionView_congr hs ht hid
      · rfl
      · intro k p hp hpc
        have hki : k ≠ i := by
          rintro rfl
          obtain rfl : peer = p := Option.some.inj (hpeer.symm.trans hp)
          exact hown hpc
        exact (UDTP.getPeer_modifyPeer_ne _ _ hki).trans hp
  | removed e sockets u hphase hremove hevent =>
    obtain ⟨-, herase, -⟩ := removeQueued_ok hs.length_eq hremove
    have hquiet := event_of_removal hevent
    cases hview : ({ s with
        activeListenSockets := sockets
        udtp := u
        removePeerAndSocketSafely := []
        phase := .poll } : HostLoop).connectionView c with
    | none => exact Or.inr rfl
    | some v =>
      -- what was kept was there before
      left
      obtain ⟨k, p, hp, hpc⟩ := exists_record_of_connectionView hview
      obtain ⟨j, hj⟩ := List.mem_iff_getElem?.mp
        ((QueuedErase.sublist_of_eraseEach herase).subset (List.mem_of_getElem? hp))
      have hbefore := hs.connectionView_of_record hj hpc
      rw [ht.connectionView_of_record hp hpc] at hview
      rcases hquiet with rfl | rfl
      · simp only [Option.elim]
        rw [hbefore, ← hview]
        rfl
      · simp only [Option.elim]
        rw [hbefore, ← hview]
        rfl

/-! ## Runs -/

/-- **Independence.** Every connection is an independent party of the loop. -/
theorem independent (hc : c ≠ 0) :
    Independent HostLoop.step (fun _ _ => True) (fun s => s.Aligned ∧ s.Numbered)
      (connectionView c) (connectionEvent c) (ConnectionView.next c) (fun s => s.accepted < c) where
  preserved := fun ⟨hs, hn⟩ hstep => ⟨hs.step hstep, hn.step hs hstep⟩
  changes := fun ⟨hs, hn⟩ _ hstep => connectionView_step hs hn hc hstep
  dropped := by
    rintro s input t ⟨hs, -⟩ hstep hold hgone
    rw [connectionView_eq_none] at hgone ⊢
    intro p' hp' hpc
    rcases step_records hs hstep hp' (hpc ▸ hc) with ⟨p, hp, hbefore⟩ | ⟨hlate, -⟩
    · exact hgone p hp (by rw [hbefore.listenSocket, hpc])
    · rw [hpc] at hlate
      exact hold hlate
  absent := by
    rintro s ⟨hs, -⟩ hnew
    rw [connectionView_eq_none]
    intro p hp hpc
    have := hs.bounded _ (List.mem_map_of_mem hp)
    omega
  silent := by
    rintro s input t ⟨hs, -⟩ hstep hnew
    have hle := step_accepted_le hstep
    refine ⟨by omega, ?_⟩
    have hlate : ∀ d, d ∈ s.udtp.connections → d ≠ c := by
      intro d hd
      have := hs.bounded d hd
      omega
    have hposition : ((∃ env read, s.event input = some (.packet c env read)) ∨
        ∃ i, s.event input = some (.disconnect c i)) → False := by
      intro he
      obtain ⟨i, peer, -, hpeer, hpc⟩ := event_position hs hstep he
      exact hlate c (hpc ▸ List.mem_map_of_mem (List.mem_of_getElem? hpeer)) rfl
    have hstepped := step_stepped hstep
    rw [connectionEvent]
    generalize s.event input = e at hstepped hposition
    cases e with
    | none => rfl
    | some e =>
      cases e with
      | poll => rfl
      | accepted env answer =>
        have haccepted : t.accepted = s.accepted + 1 := by
          cases hstepped with
          | accepted hphase => rfl
          | removed e sockets u hphase hremove hevent => split at hevent <;> cases hevent
        exact if_neg (by omega)
      | packet d env read =>
        refine if_neg ?_
        rintro rfl
        exact hposition (Or.inl ⟨env, read, rfl⟩)
      | disconnect d i =>
        refine if_neg ?_
        rintro rfl
        exact hposition (Or.inr ⟨i, rfl⟩)
      | removal => rfl

/-- Before its first round the loop has accepted nobody. -/
theorem new_isolated {u : UDTP} (hu : u.Started .host) (hc : c ≠ 0) :
    ((new u).Aligned ∧ (new u).Numbered) ∧ (new u).accepted < c :=
  ⟨⟨new_aligned hu, new_numbered hu⟩, Nat.pos_of_ne_zero hc⟩

end HostLoop

end Udtp
