import Udtp.Model.Handshake

/-!
# Bytes on a connection

Where the rest of the model hands whole packets from one end to the other, this file keeps
the bytes: what `send()` puts on a connection, and what the `read()` and the `recv()` of
`listenThread` take off it.  A call may return fewer bytes than were asked for, in any way
TCP may split the stream.

The two calls do not name the same connection at the HOST, where `recv()` is given the
listen socket, nor the same memory at the PEER, where the address is the first byte of
`_raw` converted to a pointer.
-/

set_option autoImplicit false

namespace Udtp

open LittleEndian

/-! ## Sending -/

/-- `send()` takes `get_packet_size()` bytes of `_raw`, in `send_to()` and `send_from()`
alike.
SRCLINE: UDTPPeer.cpp:185-201 -/
def UDTPHandshake.sentBytes (h : UDTPHandshake) : List UInt8 :=
  load h.raw 0 h.header.packetSize.toNat

/-! ## Receiving -/

/-- The bytes each connection of an end has still to deliver. -/
abbrev Streams := ℕ → List UInt8

def Streams.advance (streams : Streams) (connection n : ℕ) : Streams :=
  fun k => if k = connection then (streams k).drop n else streams k

/-- An empty stream stays empty when bytes are taken off any stream. -/
theorem Streams.advance_of_nil {streams : Streams} {k : ℕ} (h : streams k = [])
    (connection n : ℕ) : streams.advance connection n k = [] := by
  unfold advance
  split
  · rw [h, List.drop_nil]
  · exact h

/-- How many bytes a call that asked for `size` returns when TCP would give `count`. -/
def returned (available : List UInt8) (count size : ℕ) : ℕ :=
  min (max 1 count) (min size available.length)

/-- One round in which the connection is readable: how many bytes TCP gives to `read()` and
to `recv()`, what `packetDeduction` held before, whether the record the HOST has of the
connection is offline, and whether a new object finds in its `_raw` no address that can be
read. -/
structure Visit where
  readCount : ℕ
  recvCount : ℕ
  packetDeduction : UDTPPacketHeader
  offline : Bool
  rawUnmapped : Bool
  deriving Inhabited

namespace Visit

/-- A visit of an online peer by calls that get as much as they ask for. -/
def plain : Visit := ⟨8, 12, default, false, false⟩

end Visit

/-- `read(fd, &packetDeduction, sizeof(UDTPPacketHeader))` when TCP gives `count` bytes; those that
were not read keep the value they had `before`.
SRCLINE: UDTP.cpp:244, UDTP.cpp:331 -/
def readHeader (count : ℕ) (before : UDTPPacketHeader) (available : List UInt8) :
    UDTPPacketHeader :=
  let n := returned available count UDTPPacketHeader.sizeOf
  UDTPPacketHeader.ofBytes (available.take n ++ before.toBytes.drop n)

/-- `recv(_listenSocket, (char*)write_to_buffer(), get_packet_size(), 0)`: the bytes that
reach `_raw`, and the streams after it.  On the HOST the socket is the one that listens,
connection 0.  On the PEER the address is not that of `_raw`; whether the call takes bytes
off the connection nevertheless is left open.
SRCLINE: UDTP.cpp:284, UDTP.cpp:368 -/
def recvBody (role : SocketType) (v : Visit) (size : ℕ) (streams : Streams) :
    List UInt8 × Streams :=
  match role with
  | .host =>
    let n := returned (streams 0) v.recvCount size
    ((streams 0).take n, streams.advance 0 n)
  | .peer => ([], streams.advance 0 v.recvCount)

/-- Whether the `switch` on the packet type makes an object. -/
def deductionValid (packetDeduction : UDTPPacketHeader) : Bool :=
  match packetDeduction.packetType with
  | .header | .path | .acknowledge | .handshake => true
  | _ => false

/-- Whether the object that is made has no buffer: its constructor leaves `_raw` alone. -/
def bufferless (packetDeduction : UDTPPacketHeader) : Bool :=
  match packetDeduction.packetType with
  | .path | .acknowledge => true
  | _ => false

/-- What an end has received: the streams of its connections, and the header and body of
every packet object it made.  `crashed` says that it followed a `_raw` that could not be read. -/
structure Receiver where
  streams : Streams
  received : List (UDTPPacketHeader × List UInt8)
  crashed : Bool

/-- One visit of a connection.  Without a byte to read it is not readable.  Only the HOST asks
whether the record is online.
SRCLINE: UDTP.cpp:243-284, UDTP.cpp:328-368 -/
def Receiver.visit (role : SocketType) (connection : ℕ) (v : Visit) (r : Receiver) : Receiver :=
  if r.crashed = true ∨ r.streams connection = [] then r
  else
    let packetDeduction := readHeader v.readCount v.packetDeduction (r.streams connection)
    let streams := r.streams.advance connection
      (returned (r.streams connection) v.readCount UDTPPacketHeader.sizeOf)
    if (role = .host ∧ v.offline = true) ∨ deductionValid packetDeduction = false then
      { r with streams := streams }
    else if bufferless packetDeduction && v.rawUnmapped then
      { r with streams := streams, crashed := true }
    else
      let body := recvBody role v packetDeduction.packetSize.toNat streams
      { r with streams := body.2, received := r.received ++ [(packetDeduction, body.1)] }

def Receiver.visits (role : SocketType) (connection : ℕ) (vs : List Visit) (r : Receiver) :
    Receiver :=
  vs.foldl (fun r v => r.visit role connection v) r

/-- The connection packets of the other end arrive on: an accepted one on the HOST, its
only one on the PEER. -/
def receivingConnection (role : SocketType) (accepted : ℕ) : ℕ :=
  match role with
  | .host => accepted + 1
  | .peer => 0

/-- An end whose other end has sent some packets on one connection, and that has received
nothing. -/
def Receiver.ofSent (role : SocketType) (accepted : ℕ) (packets : List UDTPHandshake) :
    Receiver where
  streams := fun k =>
    if k = receivingConnection role accepted then packets.flatMap UDTPHandshake.sentBytes else []
  received := []
  crashed := false

/-- The header and the whole body of a packet, as `pack()` laid them out. -/
def UDTPHandshake.frame (h : UDTPHandshake) : UDTPPacketHeader × List UInt8 :=
  (h.header, load h.raw UDTPPacketHeader.sizeOf h.header.packetSize.toNat)

end Udtp
