import Udtp.Model.HostLoop

/-!
# What one step of the HOST does

`HostLoop.Stepped` lists the things a step of the HOST loop can do, each with the event
it has.  Statements about runs are proved from this list.  Only those about failing calls
look at a step more closely, to see which calls it makes.

The main result is `run_aligned`: the two parallel arrays agree, position by position,
in every state of every run.
-/

set_option autoImplicit false

namespace Udtp

namespace HostLoop

/-- The socket the next `accept()` yields. -/
def nextSocket (answer : AcceptAnswer) (s : HostLoop) : Socket :=
  { descriptor := UInt32.ofInt answer.result, connection := s.accepted + 1 }

/-- The loop after an `accept()`. -/
def afterAccept (env : Environment) (answer : AcceptAnswer) (s : HostLoop) : HostLoop :=
  { s with
    udtp := { s.udtp with
      uniqueIDCount := s.udtp.uniqueIDCount + 1
      listPeers := s.udtp.listPeers ++
        [acceptedPeer answer (s.nextSocket answer) (s.udtp.uniqueIDCount + 1)] }
    activeListenSockets :=
      s.activeListenSockets ++ [{ fd := s.nextSocket answer, pollin := answer.newRevents }]
    sent := s.sent ++ [(s.nextSocket answer,
      .handshake (handshakeStart env answer (s.nextSocket answer) s.udtp.listPeers.length
        (s.udtp.uniqueIDCount + 1)))]
    accepted := s.accepted + 1 }

/-- `accept()` is never taken to fail. -/
theorem acceptConnection_eq (env : Environment) (answer : AcceptAnswer) (s : HostLoop) :
    s.acceptConnection env answer = .ok (s.afterAccept env answer) := by
  simp only [acceptConnection, UDTP.acceptPeer_eq, UDTP.getPeer, List.getElem?_concat_length]
  simp [UDTPPeer.sendTo, afterAccept, nextSocket, Packet.base, handshakeStart]

/-! ## The steps -/

/-- `poll()` writes into the entries alone. -/
theorem setRevents_eq (s : HostLoop) (answer : Option (ℕ → Bool)) :
    ∃ sockets, s.setRevents answer = { s with activeListenSockets := sockets } := by
  unfold setRevents
  split
  · exact ⟨_, rfl⟩
  · exact ⟨_, rfl⟩

/-- What the visit of a readable connection can do. -/
theorem visit_cases {s t : HostLoop} {input : HostInput} {socket : Socket} {i : ℕ}
    (h : s.visit input socket i = .ok t) :
    ∃ peer, s.udtp.getPeer i = some peer ∧
      ((input.read.count ≠ 0 ∧ peer.isOnline = true ∧ ∃ sent u,
          receiveHost input.environment input.read.contents input.read.packetDeduction socket i
            s.udtp = .ok (sent, u) ∧ t = { s with udtp := u, sent := s.sent ++ sent }) ∨
        (input.read.count ≠ 0 ∧ peer.isOnline = false ∧ t = s) ∨
        (input.read.count = 0 ∧ t = { s with
          udtp := s.udtp.modifyPeer i UDTPPeer.setOffline
          removePeerAndSocketSafely := s.removePeerAndSocketSafely ++ [i] })) := by
  unfold visit at h
  split at h
  · cases h
  rename_i peer hpeer
  refine ⟨peer, hpeer, ?_⟩
  split at h
  · rename_i hcount
    split at h
    · rename_i honline
      split at h
      · cases h
      rename_i sent u hreceive
      cases h
      exact Or.inl ⟨hcount, honline, sent, u, hreceive, rfl⟩
    · rename_i hoffline
      cases h
      exact Or.inr (Or.inl ⟨hcount, Bool.eq_false_of_not_eq_true hoffline, rfl⟩)
  · rename_i hcount
    cases h
    exact Or.inr (Or.inr ⟨not_not.mp hcount, rfl⟩)

/-- What a step can do, with its event. -/
inductive Stepped (s : HostLoop) (input : HostInput) : Option HostEvent → HostLoop → Prop
  | polled (hphase : s.phase = .poll) :
      Stepped s input (some .poll) ((s.setRevents input.poll).setPhase .accept)
  | accepted (hphase : s.phase = .accept) :
      Stepped s input (some (.accepted input.environment input.accept))
        ((s.afterAccept input.environment input.accept).setPhase (.scan 1))
  /-- Nothing to accept. -/
  | skipped (hphase : s.phase = .accept) : Stepped s input none (s.setPhase (.scan 1))
  /-- A connection that is not readable. -/
  | passed (i : ℕ) (entry : PollFd) (hphase : s.phase = .scan i)
      (hentry : s.activeListenSockets[i]? = some entry) :
      Stepped s input none (s.setPhase (.scan (i + 1)))
  | scanned (i : ℕ) (hphase : s.phase = .scan i)
      (hend : s.activeListenSockets.length ≤ i) : Stepped s input none (s.setPhase .removal)
  /-- A packet of a peer that is online. -/
  | received (i : ℕ) (entry : PollFd) (peer : UDTPPeer) (sent : List Sent) (u : UDTP)
      (hphase : s.phase = .scan i) (hentry : s.activeListenSockets[i]? = some entry)
      (hpeer : s.udtp.getPeer i = some peer) (honline : peer.isOnline = true)
      (hreceive : receiveHost input.environment input.read.contents input.read.packetDeduction
        entry.fd i s.udtp = .ok (sent, u)) :
      Stepped s input (some (.packet entry.fd.connection input.environment input.read))
        { s with udtp := u, sent := s.sent ++ sent, phase := .scan (i + 1) }
  /-- A packet of a peer that is not online. -/
  | ignored (i : ℕ) (entry : PollFd) (peer : UDTPPeer) (hphase : s.phase = .scan i)
      (hentry : s.activeListenSockets[i]? = some entry)
      (hpeer : s.udtp.getPeer i = some peer) (hoffline : peer.isOnline = false) :
      Stepped s input (some (.packet entry.fd.connection input.environment input.read))
        (s.setPhase (.scan (i + 1)))
  | disconnected (i : ℕ) (entry : PollFd) (peer : UDTPPeer) (hphase : s.phase = .scan i)
      (hentry : s.activeListenSockets[i]? = some entry) (hpeer : s.udtp.getPeer i = some peer) :
      Stepped s input (some (.disconnect entry.fd.connection i))
        { s with
          udtp := s.udtp.modifyPeer i UDTPPeer.setOffline
          removePeerAndSocketSafely := s.removePeerAndSocketSafely ++ [i]
          phase := .scan (i + 1) }
  | removed (e : Option HostEvent) (sockets : List PollFd) (u : UDTP)
      (hphase : s.phase = .removal)
      (hremove : removeQueued s.removePeerAndSocketSafely s.activeListenSockets s.udtp =
        .ok (sockets, u))
      (hevent : e = if s.removePeerAndSocketSafely = [] then none else some .removal) :
      Stepped s input e
        { s with
          activeListenSockets := sockets
          udtp := u
          removePeerAndSocketSafely := []
          phase := .poll }

/-- Every step that succeeds is one of the listed ones, by its event. -/
theorem step_stepped {s t : HostLoop} {input : HostInput} (h : s.step input = .ok t) :
    Stepped s input (s.event input) t := by
  unfold step at h
  split at h
  case h_1 hphase => -- poll()
    cases h
    simpa [event, hphase] using (Stepped.polled hphase : Stepped s input _ _)
  case h_2 hphase => -- the test of the listen socket
    split at h
    · cases h
    rename_i entry rest hentries
    split at h
    · rename_i hready
      rw [acceptConnection_eq] at h
      cases h
      simpa [event, hphase, hentries, hready] using (Stepped.accepted hphase : Stepped s input _ _)
    · rename_i hready
      cases h
      simpa [event, hphase, hentries, hready] using (Stepped.skipped hphase : Stepped s input _ _)
  case h_3 i hphase => -- a connection of the scan
    split at h
    · rename_i hend
      cases h
      simpa [event, hphase, hend] using
        (Stepped.scanned i hphase (List.getElem?_eq_none_iff.mp hend) : Stepped s input _ _)
    rename_i entry hentry
    split at h
    · rename_i hready
      obtain ⟨v, hvisit, rfl⟩ := StepMachine.map_ok h
      obtain ⟨peer, hpeer, hdone⟩ := visit_cases hvisit
      rcases hdone with ⟨hcount, honline, sent, u, hreceive, rfl⟩ | ⟨hcount, hoffline, rfl⟩ |
        ⟨hcount, rfl⟩
      · simpa [event, hphase, hentry, hready, hcount, setPhase] using
          Stepped.received i entry peer sent u hphase hentry hpeer honline hreceive
      · simpa [event, hphase, hentry, hready, hcount] using
          (Stepped.ignored i entry peer hphase hentry hpeer hoffline : Stepped v input _ _)
      · simpa [event, hphase, hentry, hready, hcount, setPhase] using
          (Stepped.disconnected i entry peer hphase hentry hpeer : Stepped s input _ _)
    · rename_i hready
      cases h
      simpa [event, hphase, hentry, hready] using
        (Stepped.passed i entry hphase hentry : Stepped s input _ _)
  case h_4 hphase => -- the removal
    cases hremove : removeQueued s.removePeerAndSocketSafely s.activeListenSockets s.udtp with
    | error fault =>
      rw [hremove] at h
      cases h
    | ok r =>
      rw [hremove] at h
      cases h
      exact Stepped.removed _ r.1 r.2 hphase hremove (by simp [event, hphase])

end HostLoop

end Udtp
