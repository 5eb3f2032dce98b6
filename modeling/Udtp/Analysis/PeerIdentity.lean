import Udtp.Analysis.RecordHistory

/-!
# The numbers of the peers

The HOST numbers the connections it accepts and writes the number into the record of the
connection, into the handshake it sends first and, by way of the record, into every packet
object it makes later.  `Numbered` says that each of these numbers is the number of the
connection it is used on, modulo `2 ^ 32`.  As long as fewer connections than that were
accepted, a number names one connection for the whole run (`identities_of_run`).
-/

set_option autoImplicit false

namespace Udtp

open StepMachine

/-- The record `start()` makes for the endpoint itself has the number zero. -/
theorem UDTP.Started.self_uniqueID {socketType : SocketType} {u : UDTP}
    (h : u.Started socketType) : ∀ p ∈ u.listPeers, p.uniqueID = 0 := by
  obtain ⟨memory, outcome, h⟩ := h
  simp only [UDTP.start, UDTP.new, Bool.false_eq_true, if_false] at h
  split at h
  · cases h
  split at h
  · cases h
  cases h
  intro p hp
  simp only [UDTP.addPeer, UDTP.modifyPeer, List.nil_append, List.modify_zero_cons,
    List.mem_singleton] at hp
  rw [hp]
  rfl

/-- What the HOST sends on a packet is stamped with the number of the record it is sent
through. -/
theorem receiveHost_sent {env : Environment} {contents : Contents}
    {packetDeduction : UDTPPacketHeader} {socket : Socket} {i : ℕ} {u u' : UDTP}
    {sent : List Sent}
    (h : receiveHost env contents packetDeduction socket i u = .ok (sent, u')) :
    ∀ e ∈ sent, ∃ p ∈ u'.listPeers, e.1 = p.listenSocket ∧ e.2.base.uniqueID = p.uniqueID := by
  rcases receiveHost_cases h with ⟨-, rfl, -⟩ | ⟨p, peer, b, q, -, hpeer, hprocess, rfl⟩
  · simp
  cases b with
  | false => simp
  | true =>
    intro e he
    simp only [if_true, List.mem_singleton] at he
    subst he
    obtain ⟨peer', hpeer', hid⟩ := UDTP.getPeer_of_map_eq (process_identity hprocess).symm hpeer
    obtain ⟨hsocket, hunique⟩ := Prod.mk.inj hid
    refine ⟨peer', List.mem_of_getElem? hpeer', hsocket, ?_⟩
    rw [process_uniqueID hprocess, setHostFields_uniqueID]
    exact hunique

namespace HostLoop

/-- Every number in use is that of its connection, modulo `2 ^ 32`. -/
structure Numbered (s : HostLoop) : Prop where
  count : s.udtp.uniqueIDCount = UInt32.ofNat s.accepted
  records : ∀ p ∈ s.udtp.listPeers, p.uniqueID = UInt32.ofNat p.listenSocket.connection
  sent : ∀ e ∈ s.sent, e.2.base.uniqueID = UInt32.ofNat e.1.connection
  reached : ∀ e ∈ s.sent, e.1.connection ≤ s.accepted

namespace Numbered

variable {s t : HostLoop} {input : HostInput}

/-- A connection that is accepted gets the next number. -/
theorem accept (h : Numbered s) (env : Environment) (answer : AcceptAnswer) :
    Numbered (s.afterAccept env answer) := by
  have hnext : s.udtp.uniqueIDCount + 1 = UInt32.ofNat (s.accepted + 1) := by
    rw [h.count, UInt32.ofNat_add]
    rfl
  refine ⟨hnext, ?_, ?_, ?_⟩
  · intro p hp
    rcases List.mem_append.mp hp with hp | hp
    · exact h.records p hp
    · rw [List.mem_singleton] at hp
      rw [hp, acceptedPeer_uniqueID, acceptedPeer_listenSocket]
      exact hnext
  · intro e he
    rcases List.mem_append.mp he with he | he
    · exact h.sent e he
    · rw [List.mem_singleton] at he
      rw [he]
      simpa [Packet.base, handshakeStart, nextSocket] using hnext
  · intro e he
    rcases List.mem_append.mp he with he | he
    · exact Nat.le_succ_of_le (h.reached e he)
    · rw [List.mem_singleton] at he
      rw [he]
      exact le_rfl

/-- Records that were there before, and were not renumbered, are numbered. -/
theorem of_records (h : Numbered s) {u : UDTP}
    (hu : u.listPeers.map UDTPPeer.identity = s.udtp.listPeers.map UDTPPeer.identity) :
    ∀ p ∈ u.listPeers, p.uniqueID = UInt32.ofNat p.listenSocket.connection :=
  UDTP.forall_listPeers_of_map_eq (fun id => id.2 = UInt32.ofNat id.1.connection) hu h.records

/-- Every step keeps the connections numbered. -/
theorem step (h : Numbered s) (haligned : Aligned s) (hstep : s.step input = .ok t) :
    Numbered t := by
  have hstepped := step_stepped hstep
  generalize s.event input = e at hstepped
  cases hstepped with
  | polled hphase =>
    obtain ⟨sockets, hpolled⟩ := s.setRevents_eq input.poll
    rw [hpolled]
    exact ⟨h.count, h.records, h.sent, h.reached⟩
  | accepted hphase =>
    obtain ⟨hcount, hrecords, hsent, hreached⟩ := h.accept input.environment input.accept
    exact ⟨hcount, hrecords, hsent, hreached⟩
  | received i entry peer sent u hphase hentry hpeer honline hreceive =>
    have hrecords := h.of_records (receiveHost_identity hreceive)
    refine ⟨(receiveHost_uniqueIDCount hreceive).trans h.count, hrecords, ?_, ?_⟩
    · intro e he
      rcases List.mem_append.mp he with he | he
      · exact h.sent e he
      · obtain ⟨p, hp, hsocket, hid⟩ := receiveHost_sent hreceive e he
        rw [hid, hsocket]
        exact hrecords p hp
    · intro e he
      rcases List.mem_append.mp he with he | he
      · exact h.reached e he
      · obtain ⟨p, hp, hsocket, -⟩ := receiveHost_sent hreceive e he
        rw [hsocket]
        exact (haligned.step hstep).bounded _ (List.mem_map_of_mem hp)
  | disconnected i entry peer hphase hentry hpeer =>
    refine ⟨h.count, h.of_records ?_, h.sent, h.reached⟩
    exact UDTP.map_listPeers_modifyPeer UDTPPeer.identity s.udtp i UDTPPeer.setOffline fun _ => rfl
  | removed e sockets u hphase hremove hevent =>
    obtain ⟨-, herase, hu⟩ := removeQueued_ok haligned.length_eq hremove
    refine ⟨?_, ?_, h.sent, h.reached⟩
    · rw [hu]
      exact h.count
    · intro p hp
      exact h.records p ((QueuedErase.sublist_of_eraseEach herase).subset hp)
  | _ => exact ⟨h.count, h.records, h.sent, h.reached⟩

end Numbered

/-- Before the first round the connections are numbered. -/
theorem new_numbered {u : UDTP} (h : u.Started .host) : Numbered (new u) := by
  obtain ⟨selfPeer, hfresh⟩ := h.fresh
  refine ⟨hfresh.uniqueIDCount, ?_, by simp [new], by simp [new]⟩
  intro p hp
  have hid := h.self_uniqueID p hp
  rw [new, hfresh.listPeers, List.mem_singleton] at hp
  rw [hid, hp, hfresh.listenSocket, hfresh.connection]
  rfl

/-- In every run the connections are numbered. -/
theorem run_numbered {u : UDTP} (h : u.Started .host) {ins : List HostInput} {s : HostLoop}
    (hrun : run u ins = .ok s) : Numbered s :=
  run_induction HostLoop.step (new u) (P := fun _ s => Numbered s) (new_numbered h)
    (fun _ _ _ _ hrun hs hstep => hs.step (run_aligned h hrun) hstep) ins s hrun

/-! ## Fewer than `2 ^ 32` accepted connections -/

/-- A run passes no state with more connections accepted than at its end. -/
theorem passes_accepted_le {u : UDTP} {ins : List HostInput} {s t : HostLoop}
    (hrun : run u ins = .ok s) (ht : Passes HostLoop.step (new u) ins t) :
    t.accepted ≤ s.accepted := by
  obtain ⟨as, bs, rfl, has⟩ := ht
  obtain ⟨t', has', hbs⟩ := (run_append_ok HostLoop.step (new u) s as bs).mp hrun
  obtain rfl : t = t' := Except.ok.inj (has.symm.trans has')
  exact run_preserves HostLoop.step (fun x => t.accepted ≤ x.accepted)
    (fun _ _ _ hx hxy => le_trans hx (step_accepted_le hxy)) le_rfl hbs

/-- A record in the list at any point of a run with few accepted connections has the number
of its connection. -/
theorem uniqueID_eq_connection {u : UDTP} (hu : u.Started .host) {ins : List HostInput}
    {s t : HostLoop} (hrun : run u ins = .ok s) (hfew : s.accepted < 2 ^ 32)
    (ht : Passes HostLoop.step (new u) ins t) {p : UDTPPeer} (hp : p ∈ t.udtp.listPeers) :
    p.uniqueID.toNat = p.listenSocket.connection := by
  have hle := passes_accepted_le hrun ht
  obtain ⟨as, bs, rfl, has⟩ := ht
  have hbound : p.listenSocket.connection ≤ t.accepted :=
    (run_aligned hu has).bounded _ (List.mem_map_of_mem hp)
  rw [(run_numbered hu has).records p hp, UInt32.toNat_ofNat', Nat.mod_eq_of_lt (by omega)]

/-- **The numbers of a session.** In every run in which fewer than `2 ^ 32` connections were
accepted, the numbers in the list are pairwise distinct and at most the counter, position 0
is the record of the HOST itself with number 0, a number that was given to one connection is
never that of another, and whatever is sent goes to the connection of the record whose number
it is stamped with. -/
theorem identities_of_run {u : UDTP} (hu : u.Started .host) {ins : List HostInput} {s : HostLoop}
    (hrun : run u ins = .ok s) (hfew : s.accepted < 2 ^ 32) :
    (s.udtp.listPeers.map UDTPPeer.uniqueID).Nodup ∧
    (∀ p ∈ s.udtp.listPeers, p.uniqueID ≤ s.udtp.uniqueIDCount) ∧
    (∃ self, s.udtp.getPeer 0 = some self ∧ self.listenSocket.connection = 0 ∧
      self.uniqueID = 0) ∧
    (∀ t t', Passes HostLoop.step (new u) ins t → Passes HostLoop.step (new u) ins t' →
      ∀ p ∈ t.udtp.listPeers, ∀ q ∈ t'.udtp.listPeers, p.uniqueID = q.uniqueID →
        p.listenSocket.connection = q.listenSocket.connection) ∧
    (∀ e ∈ s.sent, ∀ t, Passes HostLoop.step (new u) ins t → ∀ p ∈ t.udtp.listPeers,
      e.2.base.uniqueID = p.uniqueID → e.1.connection = p.listenSocket.connection) := by
  have haligned := run_aligned hu hrun
  have hnumbered := run_numbered hu hrun
  have hlast : Passes HostLoop.step (new u) ins s := ⟨ins, [], by simp, hrun⟩
  have hnumber : ∀ {t}, Passes HostLoop.step (new u) ins t → ∀ p ∈ t.udtp.listPeers,
      p.uniqueID.toNat = p.listenSocket.connection := by
    intro t ht p hp
    exact uniqueID_eq_connection hu hrun hfew ht hp
  refine ⟨?_, ?_, ?_, ?_, ?_⟩
  · have hmap : (s.udtp.listPeers.map UDTPPeer.uniqueID).map UInt32.toNat = s.udtp.connections := by
      rw [List.map_map]
      exact List.map_congr_left (hnumber hlast)
    exact List.Nodup.of_map UInt32.toNat (hmap ▸ haligned.nodup)
  · intro p hp
    rw [UInt32.le_iff_toNat_le, hnumber hlast p hp, hnumbered.count, UInt32.toNat_ofNat',
      Nat.mod_eq_of_lt (by omega)]
    exact haligned.bounded _ (List.mem_map_of_mem hp)
  · have hself := haligned.self
    simp only [UDTP.connections, List.getElem?_map] at hself
    obtain ⟨self, hget, hzero⟩ := Option.map_eq_some_iff.mp hself
    refine ⟨self, hget, hzero, ?_⟩
    rw [hnumbered.records self (List.mem_of_getElem? hget), hzero]
    rfl
  · intro t t' ht ht' p hp q hq hid
    rw [← hnumber ht p hp, ← hnumber ht' q hq, hid]
  · intro e he t ht p hp hid
    have hreached := hnumbered.reached e he
    have hstamp := congrArg UInt32.toNat (hnumbered.sent e he)
    rw [UInt32.toNat_ofNat', Nat.mod_eq_of_lt (by omega)] at hstamp
    rw [← hstamp, hid, hnumber ht p hp]

/-- A HOST that accepted two peers, in a round each. -/
theorem identities_of_run_two :
    ∃ s, run (UDTP.startedIn .host) (List.replicate 11 .connecting) = .ok s ∧
      s.udtp.listPeers.length = 3 ∧ (s.udtp.listPeers.map UDTPPeer.uniqueID).Nodup := by
  obtain ⟨s, hrun, hfew, hlength⟩ : ∃ s, run (UDTP.startedIn .host)
      (List.replicate 11 .connecting) = .ok s ∧ s.accepted < 2 ^ 32 ∧
      s.udtp.listPeers.length = 3 := ⟨_, rfl, by decide, rfl⟩
  exact ⟨s, hrun, hlength, (identities_of_run (UDTP.startedIn_started .host) hrun hfew).1⟩

end HostLoop

end Udtp
