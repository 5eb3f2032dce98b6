import Udtp.Analysis.HostAlignment
import Udtp.Analysis.PacketFaults
import Udtp.Model.HostThreads

/-!
# What ends the HOST

A HOST serves any number of peers in one thread, so that a fault on the packet of one of them
ends the session of all.  `HostLoop.StepFault` lists the steps that fault; by
`serveAll_error_iff` a run faults iff it comes to one of these.  There are three ways to it.  A
peer sends a packet on which a pointer is followed that nobody assigned, or whose handling traps
otherwise, which the memory of an object or the counts of its record must allow; the positions
that were queued for removal have moved out of range, because every removal moves the later
ones; or the record to be removed counts threads.

A position always names a record, so that no fault comes from a peer that is not there.  What a
handshake writes past its buffers is not followed here: the run goes on with it.
-/

set_option autoImplicit false

namespace Udtp

open StepMachine

/-! ## Removing the queued records -/

/-- The removal of queued positions, in order, that ends in a fault: every position before the
`k`-th found a record without threads, `k` places behind the one that is queued, and the
`k`-th finds none or one with threads. -/
def RemovalFault (queue : List ℕ) (peers : List UDTPPeer) (fault : Fault) : Prop :=
  ∃ k q, queue[k]? = some q ∧
    (∀ j < k, ∀ r, queue[j]? = some r → ∃ p, peers[r + j]? = some p ∧ p.threadCount = 0) ∧
    ((peers.length ≤ q + k ∧ fault = .eraseOutOfRange) ∨
      ∃ p, peers[q + k]? = some p ∧ p.threadCount ≠ 0 ∧ fault = .frontOfEmptyQueue)

namespace HostLoop

/-- A step of the listen thread that faults. -/
inductive StepFault (s : HostLoop) (input : HostInput) : Fault → Prop
  /-- A packet of a peer that is online. -/
  | packet (i : ℕ) (entry : PollFd) (peer : UDTPPeer) (p : Packet) (fault : Fault)
      (hphase : s.phase = .scan i) (hentry : s.activeListenSockets[i]? = some entry)
      (hready : entry.pollin = true) (hpeer : s.udtp.getPeer i = some peer)
      (hcount : input.read.count ≠ 0) (honline : peer.isOnline = true)
      (hobject : construct input.read.contents input.read.packetDeduction = some p)
      (hfault : ArrivalFault input.environment input.read.contents peer (some peer) p fault) :
      StepFault s input fault
  | removal (fault : Fault) (hphase : s.phase = .removal)
      (hfault : RemovalFault s.removePeerAndSocketSafely s.udtp.listPeers fault) :
      StepFault s input fault

/-- No step faults because a record is missing. -/
theorem StepFault.kinds {s : HostLoop} {input : HostInput} {fault : Fault}
    (h : s.StepFault input fault) :
    fault = .divisionByZero ∨ fault = .frontOfEmptyQueue ∨ fault = .eraseOutOfRange ∨
      fault = .wildPointer := by
  cases h with
  | packet i entry peer p _ hphase hentry hready hpeer hcount honline hobject hfault =>
    cases hfault with
    | buffer hraw => exact Or.inr (Or.inr (Or.inr rfl))
    | handling _ hraw hfault =>
      cases hfault with
      | settings _ _ hnamed => cases hnamed
      | path => exact Or.inr (Or.inr (Or.inr rfl))
      | division => exact Or.inl rfl
      | start => exact Or.inr (Or.inr (Or.inr rfl))
      | report _ _ hnamed => cases hnamed
      | count => exact Or.inl rfl
      | thread => exact Or.inr (Or.inl rfl)
  | removal _ hphase hfault =>
    obtain ⟨k, q, -, -, ⟨-, rfl⟩ | ⟨p, -, -, rfl⟩⟩ := hfault
    · exact Or.inr (Or.inr (Or.inl rfl))
    · exact Or.inr (Or.inl rfl)

/-- What arrives at a position with a record traps iff it does so for the packet object made from
it. -/
theorem receiveHost_error {env : Environment} {contents : Contents}
    {packetDeduction : UDTPPacketHeader} {socket : Socket} {i : ℕ} {u : UDTP} {peer : UDTPPeer}
    (hpeer : u.getPeer i = some peer) {fault : Fault} :
    receiveHost env contents packetDeduction socket i u = .error fault ↔
      ∃ p, construct contents packetDeduction = some p ∧
        ArrivalFault env contents peer (some peer) p fault := by
  cases hp : construct contents packetDeduction with
  | none => simp [receiveHost, hp]
  | some p =>
    have hbase : ∀ p : Packet, (setHostFields socket i peer.uniqueID p).base.myPeer = i ∧
        (setHostFields socket i peer.uniqueID p).base.peerID = i := by
      intro p
      cases p <;> exact ⟨rfl, rfl⟩
    have hown : u.getPeer (setHostFields socket i peer.uniqueID p).base.myPeer = some peer := by
      rw [(hbase p).1, hpeer]
    have hstamp : PacketFault env peer (some peer) (setHostFields socket i peer.uniqueID p) fault ↔
        PacketFault env peer (some peer) p fault :=
      packetFault_mapBase (f := fun b => { b with
        socketID := socket, peerID := i, myPeer := i, uniqueID := peer.uniqueID })
        (fun _ => rfl) (fun _ => rfl) (fun _ => rfl)
    cases hraw : p.rawReadable contents with
    | false =>
      rw [receiveHost_of_unmapped env socket hp hpeer hraw]
      constructor
      · intro heq
        cases heq
        exact ⟨p, rfl, .buffer hraw⟩
      · rintro ⟨q, hq, hfault⟩
        cases hq
        cases hfault with
        | buffer => rfl
        | handling _ hreadable => simp [hraw] at hreadable
    | true =>
      rw [receiveHost_eq socket hp hpeer hraw, map_error_iff, process_error_iff hown, (hbase p).2,
        hpeer, hstamp]
      constructor
      · intro hfault
        exact ⟨p, rfl, .handling fault hraw hfault⟩
      · rintro ⟨q, hq, hfault⟩
        cases hq
        cases hfault with
        | buffer hunreadable => simp [hraw] at hunreadable
        | handling _ _ hfault => exact hfault

variable {s t : HostLoop}

end HostLoop

end Udtp
