import Udtp.Analysis.HostAlignment

/-!
# What a record remembers

A record on the HOST holds two facts that the loop asks for: whether the handshake was
recorded, and whether the peer is online.  This file relates both to the history of the
record's own connection.  Three kinds of events matter, an admitted handshake, a rejected
handshake and the end of the connection; `step_records` says that nothing else does, and
`flag_iff_history` turns such a statement about steps into one about runs.
-/

set_option autoImplicit false

namespace Udtp

open LittleEndian StepMachine

/-! ## Handshakes that arrive -/

/-- The handshake object made from what arrived, after `unpack()`. -/
def arrivedHandshake (contents : Contents) (packetDeduction : UDTPPacketHeader) : UDTPHandshake :=
  (UDTPHandshake.ofHeader contents.handshake packetDeduction).unpack.2

/-- What arrived is a handshake that sends settings, and `compareSettings` answers
`accepts`. -/
def SendsSettings (accepts : Bool) (setup : UDTPSetup) (contents : Contents)
    (packetDeduction : UDTPPacketHeader) : Prop :=
  packetDeduction.packetType = .handshake ∧
    (arrivedHandshake contents packetDeduction).responseCode = .responseNone ∧
    (arrivedHandshake contents packetDeduction).compareSettings setup = accepts

/-- A handshake that sends settings is acceptable or not, and not both. -/
theorem SendsSettings.unique {a b : Bool} {setup : UDTPSetup} {contents : Contents}
    {packetDeduction : UDTPPacketHeader} (ha : SendsSettings a setup contents packetDeduction)
    (hb : SendsSettings b setup contents packetDeduction) : a = b :=
  ha.2.2.symm.trans hb.2.2

/-- Where the HOST says a handshake came from. -/
def UDTPHandshake.forPeer (socket : Socket) (i : ℕ) (uniqueID : UInt32) (h : UDTPHandshake) :
    UDTPHandshake :=
  { h with socketID := socket, peerID := i, myPeer := i, uniqueID := uniqueID }

/-- Stamping a handshake keeps its response code. -/
@[simp]
theorem UDTPHandshake.forPeer_responseCode (socket : Socket) (i : ℕ) (uniqueID : UInt32)
    (h : UDTPHandshake) : (h.forPeer socket i uniqueID).responseCode = h.responseCode := rfl

/-- Stamping a handshake keeps how its settings compare. -/
@[simp]
theorem UDTPHandshake.forPeer_compareSettings (socket : Socket) (i : ℕ) (uniqueID : UInt32)
    (setup : UDTPSetup) (h : UDTPHandshake) :
    (h.forPeer socket i uniqueID).compareSettings setup = h.compareSettings setup := rfl

/-- A handshake may be stamped before it is unpacked or after. -/
theorem UDTPHandshake.unpack_forPeer (socket : Socket) (i : ℕ) (uniqueID : UInt32)
    (h : UDTPHandshake) :
    (h.forPeer socket i uniqueID).unpack.2 = h.unpack.2.forPeer socket i uniqueID := by
  have hcode : (h.forPeer socket i uniqueID).decode.responseCode = h.decode.responseCode := rfl
  unfold unpack
  rw [hcode]
  split <;> rfl

/-- What a handshake does to the endpoint of the HOST. -/
theorem receiveHost_handshake {env : Environment} {contents : Contents}
    {packetDeduction : UDTPPacketHeader} {socket : Socket} {i : ℕ} {u u' : UDTP}
    {sent : List Sent} (htype : packetDeduction.packetType = .handshake)
    (h : receiveHost env contents packetDeduction socket i u = .ok (sent, u')) :
    (SendsSettings false env.setup contents packetDeduction ∧
      u' = u.modifyPeer i UDTPPeer.setOffline) ∨
    (SendsSettings true env.setup contents packetDeduction ∧
      u' = u.modifyPeer i (UDTPPeer.setInitProcessComplete .handshake)) ∨
    ((arrivedHandshake contents packetDeduction).responseCode ≠ .responseNone ∧
      (u' = u.modifyPeer 0 (UDTPPeer.setInitProcessComplete .handshake) ∨ u' = u)) := by
  rcases receiveHost_cases h with ⟨hnone, -, -⟩ |
    ⟨p, peer, b, q, hsome, hpeer, hprocess, -⟩
  · simp [construct, htype] at hnone
  have hp : p = .handshake (UDTPHandshake.ofHeader contents.handshake packetDeduction) := by
    simpa [construct, htype] using hsome.symm
  subst hp
  obtain ⟨hs, b', hs', hhs, hr⟩ : ∃ hs b' hs', setHostFields socket i peer.uniqueID
      (.handshake (UDTPHandshake.ofHeader contents.handshake packetDeduction)) = .handshake hs ∧
      hs.unpack.2.respond env u = .ok (b', hs', u') := by
    rcases process_cases hprocess with hcase | ⟨hd, b', hd', hhd, -⟩ | ⟨pa, hpa, -⟩ |
      ⟨a, b', a', ha, -⟩
    · exact hcase
    · simp [setHostFields, Packet.mapBase] at hhd
    · simp [setHostFields, Packet.mapBase] at hpa
    · simp [setHostFields, Packet.mapBase] at ha
  have hobject : hs.unpack.2 =
      (arrivedHandshake contents packetDeduction).forPeer socket i peer.uniqueID := by
    rw [arrivedHandshake, ← UDTPHandshake.unpack_forPeer]
    cases hhs
    rfl
  rw [hobject] at hr
  rcases UDTPHandshake.respond_udtp hr with ⟨hc, hs, rfl⟩ | ⟨hc, hs, rfl⟩ | ⟨hc, rfl⟩ |
    ⟨hn, ha, rfl⟩
  · rw [UDTPHandshake.forPeer_responseCode] at hc
    rw [UDTPHandshake.forPeer_compareSettings] at hs
    exact Or.inl ⟨⟨htype, hc, hs⟩, rfl⟩
  · rw [UDTPHandshake.forPeer_responseCode] at hc
    rw [UDTPHandshake.forPeer_compareSettings] at hs
    exact Or.inr (Or.inl ⟨⟨htype, hc, hs⟩, rfl⟩)
  · rw [UDTPHandshake.forPeer_responseCode] at hc
    refine Or.inr (Or.inr ⟨?_, Or.inl rfl⟩)
    intro hnone
    exact absurd (hc.symm.trans hnone) (by decide)
  · rw [UDTPHandshake.forPeer_responseCode] at hn
    exact Or.inr (Or.inr ⟨hn, Or.inr rfl⟩)

/-- How a handshake sent for position `i` changes the record at another position than
that of the HOST itself; any other packet leaves what is recorded alone. -/
theorem receiveHost_record {env : Environment} {contents : Contents}
    {packetDeduction : UDTPPacketHeader} {socket : Socket} {i k : ℕ} {u u' : UDTP}
    {sent : List Sent} {p' : UDTPPeer}
    (h : receiveHost env contents packetDeduction socket i u = .ok (sent, u'))
    (hk : k ≠ 0) (hp' : u'.getPeer k = some p') :
    ∃ p, u.getPeer k = some p ∧ p'.listenSocket = p.listenSocket ∧
      (p'.checkInitProcess .handshake = true ↔ p.checkInitProcess .handshake = true ∨
        (k = i ∧ SendsSettings true env.setup contents packetDeduction)) ∧
      (p'.isOnline = false ↔ p.isOnline = false ∨
        (k = i ∧ SendsSettings false env.setup contents packetDeduction)) := by
  obtain ⟨p, hp, hid⟩ := UDTP.getPeer_of_map_eq (receiveHost_identity h) hp'
  refine ⟨p, hp, congrArg Prod.fst hid, ?_⟩
  by_cases htype : packetDeduction.packetType = .handshake
  · rcases receiveHost_handshake htype h with ⟨hs, rfl⟩ | ⟨hs, rfl⟩ | ⟨hn, hu⟩
    · have hnot : ¬ SendsSettings true env.setup contents packetDeduction := by
        intro hs'
        cases hs.unique hs'
      rcases UDTP.getPeer_modifyPeer_cases hp hp' with ⟨rfl, rfl⟩ | ⟨hki, rfl⟩
      · simp [hnot, hs]
      · simp [hki]
    · have hnot : ¬ SendsSettings false env.setup contents packetDeduction := by
        intro hs'
        cases hs.unique hs'
      rcases UDTP.getPeer_modifyPeer_cases hp hp' with ⟨rfl, rfl⟩ | ⟨hki, rfl⟩
      · simp [hnot, hs]
      · simp [hki]
    · have hnot : ∀ b, ¬ SendsSettings b env.setup contents packetDeduction := by
        intro b hs
        exact hn hs.2.1
      -- an approval changes the record of the HOST itself, which is another one
      have hsame : p' = p := by
        rcases hu with rfl | rfl
        · rcases UDTP.getPeer_modifyPeer_cases hp hp' with ⟨hzero, -⟩ | ⟨-, hsame⟩
          · exact absurd hzero hk
          · exact hsame
        · exact Option.some.inj (hp'.symm.trans hp)
      simp [hsame, hnot]
  · have hnot : ∀ b, ¬ SendsSettings b env.setup contents packetDeduction := by
      intro b hs
      exact htype hs.1
    obtain ⟨q, hq, hstanding⟩ := UDTP.getPeer_of_map_eq (receiveHost_standing htype h) hp'
    obtain rfl : p = q := Option.some.inj (hp.symm.trans hq)
    simp only [UDTPPeer.standing, Prod.mk.injEq] at hstanding
    simp [hnot, UDTPPeer.checkInitProcess, UDTPPeer.isOnline, hstanding]

/-! ## The events of a connection -/

namespace HostLoop

/-- A packet arrives on a connection whose record is online. -/
def Arrives (s : HostLoop) (input : HostInput) (c : ℕ) : Prop :=
  s.event input = some (.packet c input.environment input.read) ∧
    ∃ p ∈ s.udtp.listPeers, p.listenSocket.connection = c ∧ p.isOnline = true

/-- A handshake arrives whose settings are accepted. -/
def Admission (s : HostLoop) (input : HostInput) (c : ℕ) : Prop :=
  s.Arrives input c ∧ SendsSettings true input.environment.setup input.read.contents
    input.read.packetDeduction

/-- A handshake arrives whose settings are not accepted. -/
def Rejection (s : HostLoop) (input : HostInput) (c : ℕ) : Prop :=
  s.Arrives input c ∧ SendsSettings false input.environment.setup input.read.contents
    input.read.packetDeduction

/-- The scan finds the end of a connection. -/
def Disconnection (s : HostLoop) (input : HostInput) (c : ℕ) : Prop :=
  ∃ i, s.event input = some (.disconnect c i)

variable {s t : HostLoop} {input : HostInput}

/-- A packet or an end belongs to the record at the position of the scan. -/
theorem event_position (h : s.Aligned) (hstep : s.step input = .ok t) {c : ℕ}
    (he : (∃ env read, s.event input = some (.packet c env read)) ∨
      ∃ i, s.event input = some (.disconnect c i)) :
    ∃ i peer, s.phase = .scan i ∧ s.udtp.getPeer i = some peer ∧
      peer.listenSocket.connection = c := by
  have hstepped := step_stepped hstep
  generalize s.event input = e at hstepped he
  rcases he with ⟨env, read, rfl⟩ | ⟨j, rfl⟩
  · cases hstepped with
    | received i entry peer sent u hphase hentry hpeer honline hreceive =>
      exact ⟨i, peer, hphase, hpeer, by rw [h.socket_eq hentry hpeer]⟩
    | ignored i entry peer hphase hentry hpeer hoffline =>
      exact ⟨i, peer, hphase, hpeer, by rw [h.socket_eq hentry hpeer]⟩
    | removed e sockets u hphase hremove hevent => split at hevent <;> cases hevent
  · cases hstepped with
    | disconnected i entry peer hphase hentry hpeer =>
      exact ⟨j, peer, hphase, hpeer, by rw [h.socket_eq hentry hpeer]⟩
    | removed e sockets u hphase hremove hevent => split at hevent <;> cases hevent

/-- No step takes back a connection that was accepted. -/
theorem step_accepted_le (hstep : s.step input = .ok t) : s.accepted ≤ t.accepted := by
  have hstepped := step_stepped hstep
  generalize s.event input = e at hstepped
  cases hstepped with
  | polled hphase =>
    obtain ⟨sockets, hpolled⟩ := s.setRevents_eq input.poll
    rw [hpolled]
    exact le_rfl
  | accepted hphase => exact Nat.le_succ _
  | _ => exact le_rfl

/-- The record of the HOST itself is the only one of connection 0. -/
theorem Aligned.position_ne_zero (h : s.Aligned) {k : ℕ} {p : UDTPPeer}
    (hp : s.udtp.getPeer k = some p) (hc : p.listenSocket.connection ≠ 0) : k ≠ 0 := by
  rintro rfl
  have hself := h.self
  simp only [UDTP.connections, List.getElem?_map,
    show s.udtp.listPeers[0]? = some p from hp] at hself
  exact hc (Option.some.inj hself)

/-- The records from position 1 on are of connections that were accepted. -/
theorem Aligned.connection_ne_zero (h : s.Aligned) {k : ℕ} {p : UDTPPeer}
    (hp : s.udtp.getPeer k = some p) (hk : 1 ≤ k) : p.listenSocket.connection ≠ 0 := by
  intro hzero
  have hlt : k < s.udtp.listPeers.length := (List.getElem?_eq_some_iff.mp hp).1
  have hfirst : s.udtp.getPeer 0 = some s.udtp.listPeers[0] := List.getElem?_eq_getElem (by omega)
  have hself := h.self
  simp only [UDTP.connections, List.getElem?_map,
    show s.udtp.listPeers[0]? = some s.udtp.listPeers[0] from hfirst] at hself
  have := h.position_inj hp hfirst (hzero.trans (Option.some.inj hself).symm)
  omega

/-- `p` was the record before the step, `p'` is the one after it: the facts it holds changed
by the events of its own connection. -/
structure RecordBefore (s : HostLoop) (input : HostInput) (p p' : UDTPPeer) : Prop where
  listenSocket : p.listenSocket = p'.listenSocket
  handshake : p'.checkInitProcess .handshake = true ↔ p.checkInitProcess .handshake = true ∨
    s.Admission input p'.listenSocket.connection
  offline : p'.isOnline = false ↔ p.isOnline = false ∨
    s.Rejection input p'.listenSocket.connection ∨
    s.Disconnection input p'.listenSocket.connection

/-- A record that is kept by a step without an event on its connection. -/
theorem recordBefore_self {p : UDTPPeer}
    (harrives : ¬ s.Arrives input p.listenSocket.connection)
    (hend : ¬ s.Disconnection input p.listenSocket.connection) : s.RecordBefore input p p where
  listenSocket := rfl
  handshake := by simp [Admission, harrives]
  offline := by simp [Rejection, harrives, hend]

/-- A step whose event is no packet and no end of a connection keeps the records it
keeps. -/
theorem recordBefore_of_event {p : UDTPPeer}
    (hpacket : ∀ c env read, s.event input ≠ some (.packet c env read))
    (hend : ∀ c i, s.event input ≠ some (.disconnect c i)) : s.RecordBefore input p p := by
  apply recordBefore_self
  · rintro ⟨he, -⟩
    exact hpacket _ _ _ he
  · rintro ⟨i, he⟩
    exact hend _ _ he

/-- The record a packet arrives for is the one at the position of the scan. -/
theorem arrives_iff (h : s.Aligned) {i k : ℕ} {entry : PollFd} {peer p : UDTPPeer}
    (hentry : s.activeListenSockets[i]? = some entry) (hpeer : s.udtp.getPeer i = some peer)
    (he : s.event input = some (.packet entry.fd.connection input.environment input.read))
    (hp : s.udtp.getPeer k = some p) :
    s.Arrives input p.listenSocket.connection ↔ k = i ∧ peer.isOnline = true := by
  rw [Arrives, he, h.socket_eq hentry hpeer]
  constructor
  · rintro ⟨heq, q, hq, hqc, honline⟩
    simp only [Option.some.injEq, HostEvent.packet.injEq, and_true] at heq
    obtain ⟨j, hj⟩ := List.mem_iff_getElem?.mp hq
    obtain rfl := h.position_inj hpeer hj (heq.trans hqc.symm)
    obtain rfl : peer = q := Option.some.inj (hpeer.symm.trans hj)
    exact ⟨(h.position_inj hpeer hp heq).symm, honline⟩
  · rintro ⟨rfl, honline⟩
    obtain rfl : peer = p := Option.some.inj (hpeer.symm.trans hp)
    exact ⟨rfl, peer, List.mem_of_getElem? hp, rfl, honline⟩

/-- The record at the end of its connection is the one at the position of the scan. -/
theorem disconnection_iff (h : s.Aligned) {i k : ℕ} {entry : PollFd} {peer p : UDTPPeer}
    (hentry : s.activeListenSockets[i]? = some entry) (hpeer : s.udtp.getPeer i = some peer)
    (he : s.event input = some (.disconnect entry.fd.connection i))
    (hp : s.udtp.getPeer k = some p) :
    s.Disconnection input p.listenSocket.connection ↔ k = i := by
  rw [Disconnection, he, h.socket_eq hentry hpeer]
  constructor
  · rintro ⟨j, hj⟩
    simp only [Option.some.injEq, HostEvent.disconnect.injEq] at hj
    exact h.position_inj hp hpeer hj.1.symm
  · rintro rfl
    obtain rfl : peer = p := Option.some.inj (hpeer.symm.trans hp)
    exact ⟨k, rfl⟩

/-- What one step does to the two facts of a remote record.  The record was there before
the step, or the step accepted its connection. -/
theorem step_records (h : s.Aligned) (hstep : s.step input = .ok t) {p' : UDTPPeer}
    (hp' : p' ∈ t.udtp.listPeers) (hc : p'.listenSocket.connection ≠ 0) :
    (∃ p ∈ s.udtp.listPeers, s.RecordBefore input p p') ∨
    (s.accepted < p'.listenSocket.connection ∧
      p'.checkInitProcess .handshake = false ∧ p'.isOnline = true) := by
  have haligned := h.step hstep
  have hstepped := step_stepped hstep
  generalize he : s.event input = e at hstepped
  have keep : (∀ c env read, e ≠ some (.packet c env read)) →
      (∀ c i, e ≠ some (.disconnect c i)) → p' ∈ s.udtp.listPeers →
      ∃ p ∈ s.udtp.listPeers, s.RecordBefore input p p' := by
    intro hpacket hend hmem
    exact ⟨p', hmem, recordBefore_of_event (he ▸ hpacket) (he ▸ hend)⟩
  cases hstepped with
  | polled hphase =>
    obtain ⟨sockets, hpolled⟩ := s.setRevents_eq input.poll
    rw [hpolled] at hp'
    exact Or.inl (keep (by simp) (by simp) hp')
  | accepted hphase =>
    rcases List.mem_append.mp hp' with hp' | hp'
    · exact Or.inl (keep (by simp) (by simp) hp')
    · rw [List.mem_singleton] at hp'
      subst hp'
      exact Or.inr ⟨by simp [nextSocket], by simp, rfl⟩
  | skipped hphase => exact Or.inl (keep (by simp) (by simp) hp')
  | passed i entry hphase hentry => exact Or.inl (keep (by simp) (by simp) hp')
  | scanned i hphase hend => exact Or.inl (keep (by simp) (by simp) hp')
  | received i entry peer sent u hphase hentry hpeer honline hreceive =>
    obtain ⟨k, hk⟩ := List.mem_iff_getElem?.mp hp'
    have hk0 := haligned.position_ne_zero hk hc
    obtain ⟨p, hp, hsocket, hbit, honline'⟩ := receiveHost_record hreceive hk0 hk
    have harrives : s.Arrives input p'.listenSocket.connection ↔ k = i := by
      rw [hsocket, arrives_iff h hentry hpeer he hp]
      exact and_iff_left honline
    refine Or.inl ⟨p, List.mem_of_getElem? hp, hsocket.symm, ?_, ?_⟩
    · rw [hbit, Admission, harrives]
    · rw [honline', Rejection, harrives]
      simp [Disconnection, he]
  | ignored i entry peer hphase hentry hpeer hoffline =>
    obtain ⟨k, hk⟩ := List.mem_iff_getElem?.mp hp'
    refine Or.inl ⟨p', hp', recordBefore_self ?_ (by simp [Disconnection, he])⟩
    rw [arrives_iff h hentry hpeer he hk, hoffline]
    simp
  | disconnected i entry peer hphase hentry hpeer =>
    obtain ⟨k, hk⟩ := List.mem_iff_getElem?.mp hp'
    have harrives : ∀ c, ¬ s.Arrives input c := by
      simp [Arrives, he]
    by_cases hki : k = i
    · subst hki
      obtain rfl : peer.setOffline = p' := by
        have := UDTP.getPeer_modifyPeer_self s.udtp k UDTPPeer.setOffline
        rw [hpeer] at this
        exact Option.some.inj (this.symm.trans hk)
      have hend : s.Disconnection input peer.setOffline.listenSocket.connection :=
        (disconnection_iff h hentry hpeer he hpeer).mpr rfl
      exact Or.inl ⟨peer, List.mem_of_getElem? hpeer, rfl, by simp [Admission, harrives],
        by simp [hend]⟩
    · have hold : s.udtp.getPeer k = some p' :=
        (UDTP.getPeer_modifyPeer_ne s.udtp UDTPPeer.setOffline hki).symm.trans hk
      refine Or.inl ⟨p', List.mem_of_getElem? hold, recordBefore_self (harrives _) ?_⟩
      rwa [disconnection_iff h hentry hpeer he hold]
  | removed e sockets u hphase hremove hevent =>
    obtain ⟨-, herase, -⟩ := removeQueued_ok h.length_eq hremove
    refine Or.inl (keep ?_ ?_ ((QueuedErase.sublist_of_eraseEach herase).subset hp'))
    · intro c env read heq
      rw [heq] at hevent
      split at hevent <;> cases hevent
    · intro c i heq
      rw [heq] at hevent
      split at hevent <;> cases hevent

/-! ## From steps to runs -/

/-- **The history of a flag.** A flag of the remote records that is clear when a peer is
accepted, and that a step sets exactly when it has an event `E` on the record's
connection, is set iff there was such an event. -/
theorem flag_iff_history {u : UDTP} (hu : u.Started .host) (flag : UDTPPeer → Prop)
    (E : HostLoop → HostInput → ℕ → Prop)
    (hknown : ∀ {s input t c}, Aligned s → s.step input = .ok t → E s input c →
      c ∈ s.udtp.connections)
    (hflag : ∀ {s input t}, Aligned s → s.step input = .ok t → ∀ p' ∈ t.udtp.listPeers,
      p'.listenSocket.connection ≠ 0 →
      (∃ p ∈ s.udtp.listPeers, p.listenSocket = p'.listenSocket ∧
        (flag p' ↔ flag p ∨ E s input p'.listenSocket.connection)) ∨
      (s.accepted < p'.listenSocket.connection ∧ ¬ flag p'))
    {ins : List HostInput} (hrun : run u ins = .ok s) :
    ∀ p ∈ s.udtp.listPeers, p.listenSocket.connection ≠ 0 →
      (flag p ↔ ∃ t input, Takes HostLoop.step (new u) ins t input ∧
        E t input p.listenSocket.connection) := by
  -- induction on the last input of the run
  refine run_induction HostLoop.step (new u) (P := fun ins s => ∀ p ∈ s.udtp.listPeers,
    p.listenSocket.connection ≠ 0 → (flag p ↔ ∃ t input, Takes HostLoop.step (new u) ins t input ∧
      E t input p.listenSocket.connection)) ?_ ?_ ins s hrun
  · intro p hp hc
    obtain ⟨selfPeer, hfresh⟩ := hu.fresh
    rw [new, hfresh.listPeers, List.mem_singleton] at hp
    rw [hp, hfresh.listenSocket, hfresh.connection] at hc
    exact absurd rfl hc
  intro ins s input t hrun ih hstep p' hp' hc
  have hs := run_aligned hu hrun
  rcases hflag hs hstep p' hp' hc with ⟨p, hp, hsocket, hiff⟩ | ⟨hnew, hclear⟩
  · rw [hiff, ih p hp (hsocket ▸ hc), hsocket]
    constructor
    · rintro (⟨t', j, htakes, hE⟩ | hE)
      · exact ⟨t', j, (takes_snoc HostLoop.step _ s ins input hrun t' j).mpr (Or.inl htakes), hE⟩
      · exact ⟨s, input,
          (takes_snoc HostLoop.step _ s ins input hrun s input).mpr (Or.inr ⟨rfl, rfl⟩), hE⟩
    · rintro ⟨t', j, htakes, hE⟩
      rcases (takes_snoc HostLoop.step _ s ins input hrun t' j).mp htakes with htakes | ⟨rfl, rfl⟩
      · exact Or.inl ⟨t', j, htakes, hE⟩
      · exact Or.inr hE
  · -- a connection that was just accepted has no history
    refine iff_of_false hclear ?_
    rintro ⟨t', j, htakes, hE⟩
    rcases (takes_snoc HostLoop.step _ s ins input hrun t' j).mp htakes with htakes | ⟨rfl, rfl⟩
    · obtain ⟨as, bs, m, has, hm, hbs⟩ := takes_ok HostLoop.step (new u) s ins hrun htakes
      have ht' := run_aligned hu has
      have hle : t'.accepted ≤ s.accepted :=
        (step_accepted_le hm).trans (run_preserves HostLoop.step (fun x => m.accepted ≤ x.accepted)
          (fun x i y hx hxy => le_trans hx (step_accepted_le hxy)) le_rfl hbs)
      have := ht'.bounded _ (hknown ht' hm hE)
      omega
    · have := hs.bounded _ (hknown hs hstep hE)
      omega

end HostLoop

end Udtp
