import Udtp.Analysis.PacketFaults
import Udtp.Model.HostThreads
import Udtp.Model.PeerLoop

/-!
# What ends a PEER

The loop of a PEER never sets the peer ID of a packet object, so that `get_peer_id()` is what
the memory of the object held: any position but zero names no record.  Two kinds of messages
read it, settings and reports of packet counts, and both end the PEER then
(`faults_iff`), as what traps at the HOST ends it.  The record of the endpoint itself, at
position 0, is always there.
-/

set_option autoImplicit false

namespace Udtp

open StepMachine

namespace PeerLoop

/-- What a PEER keeps: one record, of the endpoint itself, without threads in its queues. -/
structure Alone (u : UDTP) : Prop where
  length : u.listPeers.length = 1
  flowThreads : ∀ p ∈ u.listPeers, p.flowThreads = []

variable {s t : PeerLoop} {input : PeerInput} {u u' : UDTP}

/-- A lone record is found at position zero and nowhere else. -/
theorem Alone.getPeer_eq (h : Alone u) {self : UDTPPeer} (hself : u.getPeer 0 = some self)
    (posID : ℕ) : u.getPeer posID = if posID = 0 then some self else none := by
  by_cases hzero : posID = 0
  · rw [if_pos hzero, hzero, hself]
  · rw [if_neg hzero]
    refine List.getElem?_eq_none ?_
    rw [h.length]
    omega

/-- A lone record is found. -/
theorem Alone.self (h : Alone u) : ∃ self, u.getPeer 0 = some self := by
  have hlt : 0 < u.listPeers.length := by
    rw [h.length]
    exact Nat.one_pos
  exact ⟨u.listPeers[0], List.getElem?_eq_getElem hlt⟩

/-- Handling a packet leaves the record alone in its list. -/
theorem Alone.process {env : Environment} {p q : Packet} {b : Bool} (h : Alone u)
    (hprocess : Udtp.process env u p = .ok (b, q, u')) : Alone u' := by
  have hlength := congrArg List.length (process_identity hprocess)
  rw [List.length_map, List.length_map] at hlength
  exact ⟨hlength.trans h.length, process_flowThreads hprocess h.flowThreads⟩

/-- A step leaves the record alone in its list. -/
theorem Alone.step (h : Alone s.udtp) (hstep : s.step input = .ok t) : Alone t.udtp := by
  obtain ⟨-, hsame | hstopped | ⟨-, -, -, sent, hreceive⟩⟩ := step_cases hstep
  · rw [hsame]
    exact h
  · rw [hstopped]
    exact ⟨h.length, h.flowThreads⟩
  · rcases receivePeer_cases hreceive with ⟨-, hsame⟩ | ⟨p, b, q, -, hprocess, -⟩
    · rw [hsame]
      exact h
    · exact h.process hprocess

end PeerLoop

end Udtp
