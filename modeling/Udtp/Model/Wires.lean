import Udtp.Model.Exchange
import Udtp.Model.Network

/-!
# A network whose packets get across

The network once more, where what an end reads is what the other end sent.  Between the HOST and
each PEER there is a wire in either direction, a queue of packets; an end puts what it sends at
the back of its wire and reads the packet at the front of the other one, in the way an exchange
delivers it.  How long a packet is on its way is left open: `poll()` may find the wire empty until
any later round.

As in an exchange this is what the two ends would do if bodies got across.  No program ends, so
that a connection that was accepted stays open, and a `read()` on an empty wire does not return.
-/

set_option autoImplicit false

namespace Udtp

/-- The settings and the files of the HOST and of the PEERs. -/
structure Programs where
  host : EndPoint
  peers : ℕ → EndPoint

/-- Programs with the default settings and no files. -/
def Programs.defaults : Programs where
  host := ⟨.defaults, default⟩
  peers := fun _ => ⟨.defaults, default⟩

/-- Steps of a HOST at which somebody waits to be accepted, and `poll()` reports all it may. -/
def HostInput.polling : HostInput := { (default : HostInput) with poll := some fun _ => true }

/-- Rounds of a PEER at which `poll()` reports what has arrived. -/
def PeerInput.polling : PeerInput := { (default : PeerInput) with pollin := true }

/-- What a read of a whole packet yields, and the contents of the object it is received into. -/
def Packet.read (memory : Contents) (p : Packet) : ReadAnswer where
  count := UDTPPacketHeader.sizeOf
  packetDeduction := p.packetDeduction
  contents := p.arrive memory

/-- Reading a packet off the wire does not read the end. -/
theorem Packet.read_count (memory : Contents) (p : Packet) : (p.read memory).count ≠ 0 := by
  simp [read, UDTPPacketHeader.sizeOf]

/-- What the step of a HOST finds, as the delivery of an exchange. -/
def HostInput.delivery (input : HostInput) : Delivery where
  memory := input.read.contents
  environment := input.environment

def PeerInput.delivery (input : PeerInput) : Delivery where
  memory := input.read.contents
  environment := input.environment

/-- `toHost` and `toPeer` are the packets on the wires of each connection, by its number. -/
structure Wires where
  network : Network
  toHost : ℕ → List Packet
  toPeer : ℕ → List Packet

namespace Wires

/-- A HOST and PEERs that were started. -/
def new (host : UDTP) (peers : ℕ → UDTP) : Wires where
  network := Network.new host peers
  toHost := fun _ => []
  toPeer := fun _ => []

/-- What the HOST sent on a connection between two moments. -/
def hostSent (number : ℕ) (s t : HostLoop) : List Packet :=
  ((t.sent.drop s.sent.length).filter fun e => e.1.connection = number).map Prod.snd

/-- What a PEER sent between two moments. -/
def peerSent (s t : PeerLoop) : List Packet := (t.sent.drop s.sent.length).map Prod.snd

/-- The endpoints have gone on, and what they sent is on the wires. -/
def goOn (w : Wires) (network : Network) : Wires where
  network := network
  toHost := fun number =>
    w.toHost number ++ peerSent (w.network.peers number) (network.peers number)
  toPeer := fun number => w.toPeer number ++ hostSent number w.network.host network.host

/-- What `poll()` may report of an entry: of a connection only that there is a packet. -/
def readable (w : Wires) (k : ℕ) : Bool :=
  match k, w.network.host.activeListenSockets[k]? with
  | 0, _ => true
  | _, none => false
  | _, some entry => !(w.toHost entry.fd.connection).isEmpty

/-- A step of the HOST that reads from no connection. -/
def hostFinds (hostEnd : EndPoint) (w : Wires) (input : HostInput) : HostInput :=
  { input with
    environment := hostEnd.environment input.delivery
    poll := input.poll.map fun ready k => ready k && w.readable k }

/-- A step of the HOST that reads a packet. -/
def hostReads (hostEnd : EndPoint) (p : Packet) (input : HostInput) : HostInput :=
  { input with
    environment := hostEnd.environment input.delivery
    read := p.read input.read.contents }

def peerReads (peerEnd : EndPoint) (p : Packet) (input : PeerInput) : PeerInput :=
  { input with
    environment := peerEnd.environment input.delivery
    read := p.read input.read.contents }

/-- One step.  An end that waits for a packet stays where it is. -/
def step (programs : Programs) (w : Wires) : NetworkInput → Except Fault Wires
  | .host input =>
    match w.network.host.readsFrom with
    | none => (w.network.step (.host (w.hostFinds programs.host input))).map w.goOn
    | some number =>
      match w.toHost number with
      | [] => .ok w
      | p :: rest =>
        (w.network.step (.host (hostReads programs.host p input))).map
          { w with toHost := Function.update w.toHost number rest }.goOn
  | .peer number input =>
    match w.toPeer number with
    | [] => .ok w
    | p :: rest =>
      if (w.network.peers number).udtp.isAlive && input.pollin then
        (w.network.step (.peer number (peerReads (programs.peers number) p input))).map
          { w with toPeer := Function.update w.toPeer number rest }.goOn
      else .ok w
  | .hostRequest request => (w.network.step (.hostRequest request)).map w.goOn
  | .peerRequest number request => (w.network.step (.peerRequest number request)).map w.goOn

abbrev run (programs : Programs) (host : UDTP) (peers : ℕ → UDTP) (ins : List NetworkInput) :
    Except Fault Wires :=
  StepMachine.run (step programs) (new host peers) ins

/-! ## The network behind the wires -/

variable {programs : Programs} {w v : Wires} {input : NetworkInput}

/-- A step of the wires is a step of the network, or an end that waits. -/
theorem step_network (h : w.step programs input = .ok v) :
    v = w ∨ ∃ found, w.network.step found = .ok v.network := by
  have hstepped : ∀ {found : NetworkInput} {wires : Wires},
      (w.network.step found).map wires.goOn = .ok v →
        ∃ found, w.network.step found = .ok v.network := by
    intro found wires hmap
    obtain ⟨network, hnetwork, rfl⟩ := StepMachine.map_ok hmap
    exact ⟨found, hnetwork⟩
  unfold step at h
  split at h
  · split at h
    · exact Or.inr (hstepped h)
    · split at h
      · cases h
        exact Or.inl rfl
      · exact Or.inr (hstepped h)
  · split at h
    · cases h
      exact Or.inl rfl
    · split at h
      · exact Or.inr (hstepped h)
      · cases h
        exact Or.inl rfl
  · exact Or.inr (hstepped h)
  · exact Or.inr (hstepped h)

/-- **What the wires carry, the network can read.** Every run of the wires is one of the network
that lets reads yield anything. -/
theorem run_network {host : UDTP} {peers : ℕ → UDTP} {ins : List NetworkInput}
    (hrun : run programs host peers ins = .ok w) :
    ∃ found, Network.run host peers found = .ok w.network := by
  refine StepMachine.run_preserves (step programs)
    (fun v => ∃ found, Network.run host peers found = .ok v.network) ?_ ⟨[], rfl⟩ hrun
  rintro v input u ⟨found, hfound⟩ hstep
  rcases step_network hstep with rfl | ⟨next, hnext⟩
  · exact ⟨found, hfound⟩
  · refine ⟨found ++ [next], ?_⟩
    exact (StepMachine.run_snoc_ok Network.step _ _ found next).mpr ⟨v.network, hfound, hnext⟩

end Wires

end Udtp
