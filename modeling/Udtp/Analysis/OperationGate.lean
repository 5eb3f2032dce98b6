import Udtp.Analysis.RecordHistory

/-!
# What stands before a file operation

The HOST hands a packet to its class only if the peer's record is online; whether the
handshake was recorded is not asked.  `operation_requires_online` says what that gate
amounts to over a run: the peer was accepted, none of its handshakes so far was rejected
and its end was not found.
-/

set_option autoImplicit false

namespace Udtp

open StepMachine

/-- A file was added or started, a file ID was consumed, or a flow thread was added or
removed. -/
def UDTP.Operates (u v : UDTP) : Prop :=
  v.overallFiles ≠ u.overallFiles ∨ v.files ≠ u.files ∨ v.fileIDCount ≠ u.fileIDCount ∨
    v.listPeers.map UDTPPeer.threadCount ≠ u.listPeers.map UDTPPeer.threadCount ∨
    v.listPeers.map UDTPPeer.startedThreads ≠ u.listPeers.map UDTPPeer.startedThreads

namespace HostLoop

/-- A remote record is offline iff settings of its connection were rejected or the end of
its connection was found. -/
theorem offline_iff_history {u : UDTP} (hu : u.Started .host) {ins : List HostInput}
    {s : HostLoop} (hrun : run u ins = .ok s) {p : UDTPPeer} (hp : p ∈ s.udtp.listPeers)
    (hc : p.listenSocket.connection ≠ 0) :
    p.isOnline = false ↔ ∃ t input, Takes step (new u) ins t input ∧
      (t.Rejection input p.listenSocket.connection ∨
        t.Disconnection input p.listenSocket.connection) := by
  apply flag_iff_history hu (fun p => p.isOnline = false)
    (fun t input c => t.Rejection input c ∨ t.Disconnection input c) ?_ ?_ hrun p hp hc
  · rintro s input t c hs hstep (⟨⟨-, q, hq, rfl, -⟩, -⟩ | hend)
    · exact List.mem_map_of_mem hq
    · obtain ⟨i, peer, -, hpeer, rfl⟩ := event_position hs hstep (Or.inr hend)
      exact List.mem_map_of_mem (List.mem_of_getElem? hpeer)
  · intro s input t hs hstep p' hp' hc
    rcases step_records hs hstep hp' hc with ⟨q, hq, hbefore⟩ | ⟨hnew, -, honline⟩
    · exact Or.inl ⟨q, hq, hbefore.listenSocket, hbefore.offline⟩
    · exact Or.inr ⟨hnew, by simp [honline]⟩

/-- A packet whose handling changes the endpoint is one of a record that is online. -/
theorem online_of_packet {s t : HostLoop} {input : HostInput} {c : ℕ} {env : Environment}
    {read : ReadAnswer} (hs : s.Aligned) (hstep : s.step input = .ok t)
    (he : s.event input = some (.packet c env read)) (hchange : t.udtp ≠ s.udtp) :
    ∃ i p, 1 ≤ i ∧ s.udtp.getPeer i = some p ∧ p.listenSocket.connection = c ∧
      p.isOnline = true := by
  have hstepped := step_stepped hstep
  have hscanned := hs.scanned
  rw [he] at hstepped
  cases hstepped with
  | received i entry peer sent u hphase hentry hpeer honline hreceive =>
    rw [hphase] at hscanned
    exact ⟨i, peer, hscanned.1, hpeer, by rw [hs.socket_eq hentry hpeer], honline⟩
  | ignored i entry peer hphase hentry hpeer hoffline => exact absurd rfl hchange
  | removed e sockets u hphase hremove hevent => split at hevent <;> cases hevent

/-- Every packet of a run that operates on files or threads comes from a peer whose
handshake is recorded. -/
def HandshakeGated (u : UDTP) (ins : List HostInput) : Prop :=
  ∀ s input t c env read, Takes step (new u) ins s input → s.step input = .ok t →
    s.event input = some (.packet c env read) → UDTP.Operates s.udtp t.udtp →
    ∃ p ∈ s.udtp.listPeers, p.listenSocket.connection = c ∧ p.checkInitProcess .handshake = true

/-- **The gate before a file operation.** In every run, a packet adds or starts a file,
consumes a file ID or adds or removes a flow thread only if its peer's record is online:
settings of that connection were never rejected and its end was not found. -/
theorem operation_requires_online {u : UDTP} (hu : u.Started .host) {ins : List HostInput}
    {s t : HostLoop} {input : HostInput} {c : ℕ} {env : Environment} {read : ReadAnswer}
    (hrun : run u ins = .ok s) (hstep : s.step input = .ok t)
    (he : s.event input = some (.packet c env read)) (hoperates : UDTP.Operates s.udtp t.udtp) :
    ∃ i p, 1 ≤ i ∧ s.udtp.getPeer i = some p ∧ p.listenSocket.connection = c ∧
      p.isOnline = true ∧ ¬ ∃ t' input', Takes step (new u) ins t' input' ∧
        (t'.Rejection input' c ∨ t'.Disconnection input' c) := by
  have hs := run_aligned hu hrun
  have hchange : t.udtp ≠ s.udtp := by
    intro heq
    simp [UDTP.Operates, heq] at hoperates
  obtain ⟨i, p, hi, hp, rfl, honline⟩ := online_of_packet hs hstep he hchange
  refine ⟨i, p, hi, hp, rfl, honline, ?_⟩
  rw [← offline_iff_history hu hrun (List.mem_of_getElem? hp) (hs.connection_ne_zero hp hi)]
  simp [honline]

/-- A request to push, from a peer that sent no settings, for a path with an empty file. -/
def pushRequest : HostInput :=
  { HostInput.reading { (default : ReadAnswer) with
      count := 8
      packetDeduction := ⟨0, 0, .header⟩
      contents := { (default : Contents) with
        header := { (default : UDTPHeader) with
          responseCode := .responseNone, transferType := .push } } } with
    environment := { (default : Environment) with fileSystem := fun _ => some 0 } }

/-- The request arrives in the first round after the peer was accepted. -/
theorem pushRequest_operates :
    ∃ s t, run (UDTP.startedIn .host) (List.replicate 5 .connecting ++
        List.replicate 2 pushRequest) = .ok s ∧ s.step pushRequest = .ok t ∧
      s.event pushRequest = some (.packet 1 pushRequest.environment pushRequest.read) ∧
      UDTP.Operates s.udtp t.udtp ∧
      ∀ p ∈ s.udtp.listPeers, p.checkInitProcess .handshake = false := by
  refine ⟨_, _, rfl, rfl, rfl, Or.inl ?_, ?_⟩
  · decide
  · decide

/-- A peer that asks to push right after it was accepted has an online record. -/
theorem operation_requires_online_pushRequest :
    ∃ s t, run (UDTP.startedIn .host) (List.replicate 5 .connecting ++
        List.replicate 2 pushRequest) = .ok s ∧ s.step pushRequest = .ok t ∧
      ∃ i p, 1 ≤ i ∧ s.udtp.getPeer i = some p ∧ p.listenSocket.connection = 1 ∧
        p.isOnline = true := by
  obtain ⟨s, t, hrun, hstep, he, hoperates, -⟩ := pushRequest_operates
  obtain ⟨i, p, hi, hp, hc, honline, -⟩ :=
    operation_requires_online (UDTP.startedIn_started .host) hrun hstep he hoperates
  exact ⟨s, t, hrun, hstep, i, p, hi, hp, hc, honline⟩

/-- The peer never sent a handshake, and the HOST starts a file for it. -/
theorem not_handshakeGated_pushRequest :
    (UDTP.startedIn .host).Started .host ∧
      ¬ HandshakeGated (UDTP.startedIn .host)
        (List.replicate 5 .connecting ++ List.replicate 3 pushRequest) := by
  refine ⟨UDTP.startedIn_started .host, ?_⟩
  intro h
  obtain ⟨s, t, hrun, hstep, he, hoperates, hnone⟩ := pushRequest_operates
  obtain ⟨p, hp, -, hbit⟩ := h s pushRequest t 1 _ _ ⟨_, [], rfl, hrun⟩ hstep he hoperates
  simp [hnone p hp] at hbit

end HostLoop

end Udtp
