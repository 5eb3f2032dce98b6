import Udtp.Analysis.PeerIsolation

/-!
# The HOST speaks when it is spoken to

On a connection the HOST sends a handshake when it accepts it.  After that it sends nothing on
its own: every packet it sends is the answer to a call of `read()` on that connection that did not
return 0, at most one for each, in their order, and of the class the header variable names then
(`sentOn_answers`).  A type that `listenThread` does not know is never answered.  A call that failed
counts as well: it is answered by what the variable held before.
-/

set_option autoImplicit false

namespace Udtp

open StepMachine

/-- The packet type that makes `listenThread` build an object of this class. -/
def Packet.type : Packet → PacketType
  | .handshake _ => .handshake
  | .header _ => .header
  | .path _ => .path
  | .acknowledge _ => .acknowledge

/-- Leaving out where a packet came from keeps its type. -/
theorem Packet.type_unplaced (p : Packet) : p.unplaced.type = p.type := by
  cases p <;> rfl

/-- The object made for a header has the type the header names. -/
theorem type_of_construct {contents : Contents} {packetDeduction : UDTPPacketHeader} {p : Packet}
    (h : construct contents packetDeduction = some p) : p.type = packetDeduction.packetType := by
  unfold construct at h
  split at h
  case h_1 htype =>
    cases h
    exact htype.symm
  case h_2 htype =>
    cases h
    exact htype.symm
  case h_3 htype =>
    cases h
    exact htype.symm
  case h_4 htype =>
    cases h
    exact htype.symm
  case h_5 => cases h

/-- A packet goes back as an object of its class. -/
theorem process_type {env : Environment} {u u' : UDTP} {p q : Packet} {b : Bool}
    (h : process env u p = .ok (b, q, u')) : q.type = p.type := by
  cases p with
  | handshake hs =>
    obtain ⟨b', h', -, -, rfl⟩ := process_handshake h
    rfl
  | header hd =>
    obtain ⟨-, h', -, rfl⟩ := process_header.mp h
    rfl
  | path pa =>
    cases h
    rfl
  | acknowledge a =>
    obtain ⟨-, b', a', rfl, -⟩ := process_acknowledge h
    rfl

/-- What arrives is answered by one packet of its class, or not at all. -/
theorem receiveHost_answer {env : Environment} {contents : Contents}
    {packetDeduction : UDTPPacketHeader} {socket : Socket} {i : ℕ} {u u' : UDTP}
    {sent : List Sent}
    (h : receiveHost env contents packetDeduction socket i u = .ok (sent, u')) :
    sent = [] ∨ ∃ e, sent = [e] ∧ e.2.type = packetDeduction.packetType := by
  rcases receiveHost_cases h with ⟨-, rfl, -⟩ | ⟨p, peer, b, q, hp, -, hprocess, rfl⟩
  · exact Or.inl rfl
  cases b with
  | false => exact Or.inl rfl
  | true =>
    refine Or.inr ⟨_, rfl, ?_⟩
    have hfields : (setHostFields socket i peer.uniqueID p).type = p.type := by
      cases p <;> rfl
    rw [← type_of_construct hp, ← hfields]
    exact process_type hprocess

/-- `Sends c event packets`: what a HOST sends on connection `c` on a step, by the event the
connection has on it. -/
inductive Sends (c : ℕ) : Option ConnectionEvent → List Packet → Prop
  | quiet : Sends c none []
  | accepted (env : Environment) (answer : AcceptAnswer) :
      Sends c (some (.accepted env answer)) (ConnectionView.ofAccept env answer c).sent
  | answered (env : Environment) (read : ReadAnswer) (socket : Socket) (i : ℕ)
      (uniqueID : UInt32) (u u' : UDTP) (p q : Packet)
      (hobject : construct read.contents read.packetDeduction = some p)
      (hprocess : process env u (setHostFields socket i uniqueID p) = .ok (true, q, u')) :
      Sends c (some (.packet env read)) [q.unplaced]
  | unanswered (env : Environment) (read : ReadAnswer) : Sends c (some (.packet env read)) []
  | disconnect : Sends c (some .disconnect) []

/-- `Answers c events packets`: the packets are what a HOST may send on connection `c` when these
events happen to it. -/
inductive Answers (c : ℕ) : List ConnectionEvent → List Packet → Prop
  | nil : Answers c [] []
  | accepted (env : Environment) (answer : AcceptAnswer) {events : List ConnectionEvent}
      {packets : List Packet} (h : Answers c events packets) :
      Answers c (events ++ [.accepted env answer])
        (packets ++ (ConnectionView.ofAccept env answer c).sent)
  | answered (env : Environment) (read : ReadAnswer) (q : Packet)
      (htype : q.type = read.packetDeduction.packetType) {events : List ConnectionEvent}
      {packets : List Packet} (h : Answers c events packets) :
      Answers c (events ++ [.packet env read]) (packets ++ [q])
  | unanswered (env : Environment) (read : ReadAnswer) {events : List ConnectionEvent}
      {packets : List Packet} (h : Answers c events packets) :
      Answers c (events ++ [.packet env read]) packets
  | disconnect {events : List ConnectionEvent} {packets : List Packet}
      (h : Answers c events packets) : Answers c (events ++ [.disconnect]) packets

namespace HostLoop

variable {s t : HostLoop} {input : HostInput} {c : ℕ}

/-- A step sends on a connection what the event of the connection calls for. -/
theorem step_sends (hs : s.Aligned) (hn : s.Numbered) (hstep : s.step input = .ok t) :
    ∃ packets, Sends c (s.connectionEvent c input) packets ∧
      t.sentOn c = s.sentOn c ++ packets := by
  have hstepped := step_stepped hstep
  rw [connectionEvent]
  generalize s.event input = e at hstepped
  have hquiet : ∃ packets, Sends c none packets ∧ s.sentOn c = s.sentOn c ++ packets :=
    ⟨[], .quiet, (List.append_nil _).symm⟩
  cases hstepped with
  | polled hphase =>
    obtain ⟨sockets, hpolled⟩ := s.setRevents_eq input.poll
    rw [hpolled]
    exact hquiet
  | accepted hphase =>
    by_cases hnew : s.accepted + 1 = c
    · subst hnew
      simp only [if_true]
      exact ⟨_, .accepted _ _, hn.sentOn_accepted input.environment input.accept rfl⟩
    · have hsent : ((s.afterAccept input.environment input.accept).setPhase (.scan 1)).sentOn c =
          s.sentOn c := sentOn_accepted_ne hnew input.environment input.accept rfl
      simp only [if_neg hnew]
      rw [hsent]
      exact hquiet
  | received i entry peer sent u hphase hentry hpeer honline hreceive =>
    rw [hs.socket_eq hentry hpeer]
    have hsocket := receiveHost_sent_socket hpeer hreceive
    by_cases hown : peer.listenSocket.connection = c
    · have hsent : ({ s with udtp := u, sent := s.sent ++ sent, phase := .scan (i + 1) } :
          HostLoop).sentOn c = s.sentOn c ++ sent.map fun e => e.2.unplaced := by
        apply sentOn_append_self ?_ rfl
        intro e he
        rw [hsocket e he]
        exact hown
      simp only [if_pos hown]
      refine ⟨_, ?_, hsent⟩
      rcases receiveHost_cases hreceive with ⟨-, rfl, -⟩ | ⟨p, peer', b, q, hp, -, hprocess, rfl⟩
      · exact .unanswered _ _
      cases b with
      | false => exact .unanswered _ _
      | true => exact .answered _ _ _ _ _ _ _ p q hp hprocess
    · have hsent : ({ s with udtp := u, sent := s.sent ++ sent, phase := .scan (i + 1) } :
          HostLoop).sentOn c = s.sentOn c := by
        apply sentOn_append ?_ rfl
        intro e he
        rw [hsocket e he]
        exact hown
      simp only [if_neg hown]
      rw [hsent]
      exact hquiet
  | ignored i entry peer hphase hentry hpeer hoffline =>
    by_cases hown : entry.fd.connection = c
    · simp only [if_pos hown]
      exact ⟨[], .unanswered _ _, (List.append_nil _).symm⟩
    · simp only [if_neg hown]
      exact hquiet
  | disconnected i entry peer hphase hentry hpeer =>
    by_cases hown : entry.fd.connection = c
    · simp only [if_pos hown]
      exact ⟨[], .disconnect, (List.append_nil _).symm⟩
    · simp only [if_neg hown]
      exact hquiet
  | removed e sockets u hphase hremove hevent =>
    rcases event_of_removal hevent with rfl | rfl
    · exact hquiet
    · exact hquiet
  | _ => exact hquiet

/-- One step answers the event of the connection, and sends nothing without one. -/
theorem step_answers (hs : s.Aligned) (hn : s.Numbered) (hstep : s.step input = .ok t)
    {events : List ConnectionEvent} (h : Answers c events (s.sentOn c)) :
    Answers c (events ++ (s.connectionEvent c input).toList) (t.sentOn c) := by
  obtain ⟨packets, hsends, hsent⟩ := step_sends hs hn hstep
  rw [hsent]
  generalize s.connectionEvent c input = event at hsends
  cases hsends with
  | quiet =>
    rw [Option.toList_none, List.append_nil, List.append_nil]
    exact h
  | accepted env answer => exact h.accepted env answer
  | answered env read socket i uniqueID u u' p q hobject hprocess =>
    refine h.answered env read q.unplaced ?_
    have hfields : (setHostFields socket i uniqueID p).type = p.type := by
      cases p <;> rfl
    rw [Packet.type_unplaced, process_type hprocess, hfields, type_of_construct hobject]
  | unanswered env read =>
    rw [List.append_nil]
    exact h.unanswered env read
  | disconnect =>
    rw [List.append_nil]
    exact h.disconnect

/-- **Nothing is sent unasked.** In every run of a HOST, what it sends on a connection is the
first handshake and then at most one answer to every call of `read()` on it that does not return 0,
in order and of the class that the header variable names after that call. -/
theorem sentOn_answers {u : UDTP} (hu : u.Started .host) {ins : List HostInput}
    (hrun : run u ins = .ok s) (c : ℕ) :
    Answers c (events HostLoop.step (connectionEvent c) (new u) ins) (s.sentOn c) := by
  refine run_induction HostLoop.step (new u)
    (P := fun ins s => Answers c (events HostLoop.step (connectionEvent c) (new u) ins)
      (s.sentOn c)) Answers.nil ?_ ins s hrun
  intro ins t input v hrun h hstep
  rw [events_snoc HostLoop.step (connectionEvent c) hrun hstep]
  exact step_answers (run_aligned hu hrun) (run_numbered hu hrun) hstep h

/-- A peer that sends its settings is answered. -/
theorem sentOn_answers_settings :
    ∃ s, run (UDTP.startedIn .host) (List.replicate 5 .connecting ++
        List.replicate 3 (.reading (.settings 1 420))) = .ok s ∧ (s.sentOn 1).length = 2 ∧
      Answers 1 (events HostLoop.step (connectionEvent 1) (new (UDTP.startedIn .host))
        (List.replicate 5 .connecting ++ List.replicate 3 (.reading (.settings 1 420))))
        (s.sentOn 1) :=
  ⟨_, rfl, rfl, sentOn_answers (UDTP.startedIn_started .host) rfl 1⟩

end HostLoop

end Udtp
