import Udtp.Computation.StepMachine
import Udtp.Model.HostLoop

/-!
# Two ends of a connection

A HOST and a PEER that pass packets back and forth: each packet is delivered to the other
end, handled there by the methods of its class, and what the resend test sends is
delivered next.  The exchange is over when nothing was sent.

How a packet gets across is fixed here for each class.  A handshake travels as the bytes
`pack()` wrote, and its body is what stands behind the header.  The other classes write no
bytes, and their fields arrive as they were sent: the path of a header that arrives can be
followed.
-/

set_option autoImplicit false

namespace Udtp

open LittleEndian

/-- What stays the same at one end during an exchange. -/
structure EndPoint where
  setup : UDTPSetup
  fileSystem : FileSystem
  deriving Inhabited

/-- What the handling of one delivered packet finds: the memory of the new packet object,
and everything else around it. -/
structure Delivery where
  memory : Contents
  environment : Environment
  deriving Inhabited

/-- The environment of a delivery at an end. -/
def EndPoint.environment (self : EndPoint) (input : Delivery) : Environment :=
  { input.environment with setup := self.setup, fileSystem := self.fileSystem }

namespace Packet

/-- The header that `read()` finds in front of a packet. -/
def packetDeduction : Packet → UDTPPacketHeader
  | handshake h => UDTPPacketHeader.ofBytes (load h.raw 0 UDTPPacketHeader.sizeOf)
  | header h => { h.header with packetType := .header }
  | path p => { p.header with packetType := .path }
  | acknowledge a => { a.header with packetType := .acknowledge }

/-- What the memory of the new object holds once the packet was received into it. -/
def arrive (memory : Contents) : Packet → Contents
  | handshake h =>
    { memory with handshake :=
        { memory.handshake with raw := skip h.raw UDTPPacketHeader.sizeOf } }
  | header h =>
    { memory with header :=
        { memory.header with
          responseCode := h.responseCode
          pathOfFile := h.pathOfFile
          pathUnmapped := false
          fileID := h.fileID
          numberOfChunks := h.numberOfChunks
          sizeOfFile := h.sizeOfFile
          transferType := h.transferType } }
  | path _ => memory
  | acknowledge a =>
    { memory with acknowledge :=
        { memory.acknowledge with
          acknowledgeType := a.acknowledgeType
          acknowledgeResponseCode := a.acknowledgeResponseCode
          packetsCount := a.packetsCount } }

end Packet

/-- The PEER's record is at position `posID` of the HOST and has the socket `socket`.
`toHost` says where the packet on the wire goes. -/
structure Exchange where
  host : UDTP
  peer : UDTP
  posID : ℕ
  socket : Socket
  toHost : Bool
  wire : Option Packet

namespace Exchange

/-- Deliver the packet on the wire. -/
def deliver (hostEnd peerEnd : EndPoint) (x : Exchange) (input : Delivery) :
    Except Fault Exchange :=
  match x.wire with
  | none => .ok x
  | some p =>
    if x.toHost then
      match receiveHost (hostEnd.environment input) (p.arrive input.memory) p.packetDeduction
          x.socket x.posID x.host with
      | .error fault => .error fault
      | .ok (sent, host) =>
        .ok { x with host := host, wire := sent.head?.map Prod.snd, toHost := false }
    else
      match receivePeer (peerEnd.environment input) (p.arrive input.memory) p.packetDeduction
          x.peer.listenSocket x.peer with
      | .error fault => .error fault
      | .ok (sent, peer) =>
        .ok { x with peer := peer, wire := sent.head?.map Prod.snd, toHost := true }

/-- An exchange after a number of deliveries. -/
abbrev run (hostEnd peerEnd : EndPoint) (x : Exchange) (inputs : List Delivery) :
    Except Fault Exchange :=
  StepMachine.run (deliver hostEnd peerEnd) x inputs

/-- The exchange that begins when the HOST accepts a connection. -/
def ofAccept (hostEnd : EndPoint) (input : Delivery) (answer : AcceptAnswer) (socket : Socket)
    (host peer : UDTP) : Exchange where
  host := (host.acceptPeer answer socket).2
  peer := peer
  posID := (host.acceptPeer answer socket).1
  socket := socket
  toHost := false
  wire := some (.handshake (handshakeStart (hostEnd.environment input) answer socket
    (host.acceptPeer answer socket).1 (host.acceptPeer answer socket).2.uniqueIDCount))

/-! ## What a delivery depends on -/

variable {hostEnd peerEnd : EndPoint} {x y : Exchange}

/-- Without a packet on the wire nothing happens any more. -/
theorem run_stopped (hx : x.wire = none) (inputs : List Delivery) :
    run hostEnd peerEnd x inputs = .ok x := by
  induction inputs with
  | nil => rfl
  | cons input inputs ih =>
    rw [run, StepMachine.run_cons_ok]
    exact ⟨x, by simp [deliver, hx], ih⟩

/-- A delivery at the HOST: what `respond()` did there, and what goes back. -/
theorem deliver_host {input : Delivery} {p : Packet} (hx : x.wire = some p)
    (hto : x.toHost = true) (h : deliver hostEnd peerEnd x input = .ok y) :
    ∃ sent, receiveHost (hostEnd.environment input) (p.arrive input.memory) p.packetDeduction
        x.socket x.posID x.host = .ok (sent, y.host) ∧
      y = { x with host := y.host, wire := sent.head?.map Prod.snd, toHost := false } := by
  simp only [deliver, hx, hto, if_true] at h
  split at h
  · cases h
  · rename_i sent host hreceive
    cases h
    exact ⟨sent, hreceive, rfl⟩

/-- What a delivery to the PEER does, told by what it receives. -/
theorem deliver_peer {input : Delivery} {p : Packet} (hx : x.wire = some p)
    (hto : x.toHost = false) (h : deliver hostEnd peerEnd x input = .ok y) :
    ∃ sent, receivePeer (peerEnd.environment input) (p.arrive input.memory) p.packetDeduction
        x.peer.listenSocket x.peer = .ok (sent, y.peer) ∧
      y = { x with peer := y.peer, wire := sent.head?.map Prod.snd, toHost := true } := by
  simp only [deliver, hx, hto, Bool.false_eq_true, if_false] at h
  split at h
  · cases h
  · rename_i sent peer hreceive
    cases h
    exact ⟨sent, hreceive, rfl⟩

end Exchange

end Udtp
