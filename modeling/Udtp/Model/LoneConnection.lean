import Udtp.Model.HostLoop

/-!
# A connection by itself

What the HOST would do for a connection if it had no other: an abstract model of the service a
peer gets.  It keeps the record of the peer and the packets that were sent to it, and handles
what arrives by the HOST's own code on an endpoint with that one record.

Left out of the view is what the HOST shares between its peers: the files, whose lists a record
points into, the counter of file IDs, and the positions of the records.
-/

set_option autoImplicit false

namespace Udtp

/-- A record without its lists of files. -/
def UDTPPeer.core (p : UDTPPeer) : UDTPPeer := { p with activeFiles := [], selfOverallFiles := [] }

/-- A packet without the position it was handled at and the file ID it was given. -/
def Packet.unplaced : Packet → Packet
  | .header h => .header { h with peerID := 0, myPeer := 0, fileID := 0 }
  | p => p.mapBase fun b => { b with peerID := 0, myPeer := 0 }

/-- A HOST whose only remote record is at position 1. -/
def UDTP.lone (record : UDTPPeer) : UDTP :=
  { (default : UDTP) with listPeers := [default, record] }

/-- What the HOST keeps for a connection, and what it sent on it. -/
structure ConnectionView where
  record : UDTPPeer
  sent : List Packet

/-- What happens to a connection. -/
inductive ConnectionEvent
  | accepted (env : Environment) (answer : AcceptAnswer)
  | packet (env : Environment) (read : ReadAnswer)
  | disconnect

namespace ConnectionView

/-- The connection with a number is accepted. -/
def ofAccept (env : Environment) (answer : AcceptAnswer) (connection : ℕ) : ConnectionView where
  record := (acceptedPeer answer ⟨UInt32.ofInt answer.result, connection⟩
    (UInt32.ofNat connection)).core
  sent := [(Packet.handshake (handshakeStart env answer
    ⟨UInt32.ofInt answer.result, connection⟩ 0 (UInt32.ofNat connection))).unplaced]

/-- A packet arrives, and is handled as the only peer's. -/
def packet (env : Environment) (read : ReadAnswer) (v : ConnectionView) : ConnectionView :=
  if v.record.isOnline then
    match receiveHost env read.contents read.packetDeduction v.record.listenSocket 1
        (.lone v.record) with
    | .error _ => v
    | .ok (sent, u) =>
      { record := ((u.getPeer 1).getD v.record).core
        sent := v.sent ++ sent.map fun e => e.2.unplaced }
  else v

/-- The end of the connection was found. -/
def disconnect (v : ConnectionView) : ConnectionView := { v with record := v.record.setOffline }

/-- What an event makes of the connection with a number.  Before it is accepted there is
nothing. -/
def next (connection : ℕ) (v : Option ConnectionView) : ConnectionEvent → Option ConnectionView
  | .accepted env answer => some (ofAccept env answer connection)
  | .packet env read => v.map (packet env read)
  | .disconnect => v.map disconnect

end ConnectionView

/-! ## The connections of a HOST -/

namespace HostLoop

/-- The packets that were sent on a connection. -/
def sentOn (connection : ℕ) (s : HostLoop) : List Packet :=
  (s.sent.filter fun e => e.1.connection = connection).map fun e => e.2.unplaced

/-- What the HOST keeps for a connection, if it has a record of it. -/
def connectionView (connection : ℕ) (s : HostLoop) : Option ConnectionView :=
  (s.udtp.listPeers.find? fun p => p.listenSocket.connection = connection).map fun p =>
    { record := p.core, sent := s.sentOn connection }

/-- The event of a connection on a step, if it has one. -/
def connectionEvent (connection : ℕ) (s : HostLoop) (input : HostInput) :
    Option ConnectionEvent :=
  match s.event input with
  | some (.accepted env answer) =>
    if s.accepted + 1 = connection then some (.accepted env answer) else none
  | some (.packet c env read) => if c = connection then some (.packet env read) else none
  | some (.disconnect c _) => if c = connection then some .disconnect else none
  | _ => none

end HostLoop

end Udtp
