import Udtp.Model.Packets

/-!
# The thread that receives chunks

`flowThread` on its datagram socket.  A receive call takes one whole datagram and returns
as much of it as the buffer holds; without a datagram it blocks.  The header and the body
of a chunk are asked for by two calls.

The length of the address is asked for behind the pointer 16, which is the size of the
address: what the system makes of that is the input `addressStored`.
-/

set_option autoImplicit false

namespace Udtp

open LittleEndian

/-- The members of a chunk that the threads use.
SRCLINE: UDTPChunk.h:16-58 -/
structure UDTPChunk extends UDTPPacket where
  receiveAddress : SockAddrIn
  fileID : UInt16
  chunkID : UInt16
  deriving Inhabited

/-- The constructor names its argument as the member it hides, and stores nothing.
SRCLINE: UDTPChunk.cpp:5-6 -/
def UDTPChunk.ofHeader (memory : UDTPChunk) (_header : UDTPPacketHeader) : UDTPChunk := memory

/-- SRCLINE: UDTPChunk.h:35-37 -/
def UDTPChunk.setReceiveAddress (receiveAddress : SockAddrIn) (c : UDTPChunk) : UDTPChunk :=
  { c with receiveAddress := receiveAddress }

structure Datagram where
  bytes : List UInt8
  source : SockAddrIn
  deriving DecidableEq, Inhabited

/-- A receive call with a buffer of `size` bytes: what it returns, and the datagrams that are
left. -/
def recvDatagram (size : ℕ) : List Datagram → Option (List UInt8 × SockAddrIn × List Datagram)
  | [] => none
  | d :: waiting => some (d.bytes.take size, d.source, waiting)

/-- What a step of the thread finds: the memory of its local variables and of the new chunk,
and whether the address could be stored. -/
structure FlowInput where
  packetDeduction : UDTPPacketHeader
  incomingAddress : SockAddrIn
  addressStored : Bool
  chunkMemory : UDTPChunk
  deriving Inhabited

/-- What the thread does next.  Between its two calls it holds the chunk and the address. -/
inductive FlowPoint
  | receiveHeader
  | receiveBody (incomingData : UDTPChunk) (incomingAddress : SockAddrIn)
  | exited

/-- A thread with its socket, and the part of the record it works for.
SRCLINE: UDTPThread.h:12-34, UDTPThreadFlow.h:11-37 -/
structure FlowThread where
  flowSocket : List Datagram
  alive : Bool
  threadType : ThreadType
  point : FlowPoint
  processChunks : List UDTPChunk
  packetsCount : UInt32
  semProcessChunkThread : ℕ

/-- A datagram arrives, or the thread goes on. -/
inductive FlowEvent
  | arrive (d : Datagram)
  | proceed (input : FlowInput)

namespace FlowThread

/-- A thread that was just created.  Nothing assigns `_threadType`, so any type may be found
there.
SRCLINE: UDTPThreadFlow.h:14-19 -/
def new (threadType : ThreadType) : FlowThread where
  flowSocket := []
  alive := true
  threadType := threadType
  point := .receiveHeader
  processChunks := []
  packetsCount := 0
  semProcessChunkThread := 0

/-- The first call, and the `switch` on the packet type.  A call that cannot store the address
returns -1, which the condition takes for success.
SRCLINE: UDTPPeer.cpp:102-123 -/
def receiveHeader (input : FlowInput) (s : FlowThread) : FlowThread :=
  match recvDatagram UDTPPacketHeader.sizeOf s.flowSocket with
  | none => s
  | some (bytes, source, waiting) =>
    let s := { s with flowSocket := waiting }
    let result : ℤ := if input.addressStored then bytes.length else -1
    let incomingAddress := if input.addressStored then source else input.incomingAddress
    let packetDeduction := UDTPPacketHeader.ofBytes
      (bytes ++ input.packetDeduction.toBytes.drop bytes.length)
    if result ≠ 0 ∧ packetDeduction.packetType = .chunk then
      { s with
        point := .receiveBody (.ofHeader input.chunkMemory packetDeduction) incomingAddress }
    else s

/-- The second call, and what is done with the chunk.  The buffer is the first byte behind
`_raw`, taken for an address, so that nothing reaches `_raw`.
SRCLINE: UDTPPeer.cpp:116, UDTPPeer.cpp:124-132, UDTPPeer.cpp:141-143 -/
def receiveBody (incomingData : UDTPChunk) (incomingAddress : SockAddrIn) (s : FlowThread) :
    FlowThread :=
  match recvDatagram incomingData.header.packetSize.toNat s.flowSocket with
  | none => s
  | some (_, _, waiting) =>
    { s with
      flowSocket := waiting
      point := .receiveHeader
      processChunks := s.processChunks ++ [incomingData.setReceiveAddress incomingAddress]
      packetsCount := s.packetsCount + 1
      semProcessChunkThread := s.semProcessChunkThread + 1 }

/-- SRCLINE: UDTPPeer.cpp:97-140 -/
def step (s : FlowThread) : FlowEvent → FlowThread
  | .arrive d => { s with flowSocket := s.flowSocket ++ [d] }
  | .proceed input =>
    match s.point with
    | .receiveHeader =>
      if s.alive && s.threadType = .incoming then s.receiveHeader input
      else { s with point := .exited }
    | .receiveBody incomingData incomingAddress => s.receiveBody incomingData incomingAddress
    | .exited => s

/-- A thread after some events. -/
def run (s : FlowThread) (events : List FlowEvent) : FlowThread := events.foldl step s

/-- The datagrams that arrive in the course of some events. -/
def arrivals (events : List FlowEvent) : List Datagram :=
  events.filterMap fun
    | .arrive d => some d
    | .proceed _ => none

/-- The thread has nothing left to take, or does not take anything any more. -/
def Rests (s : FlowThread) : Prop := s.flowSocket = [] ∨ s.point = .exited

/-- No events bring no datagrams. -/
@[simp]
theorem arrivals_nil : arrivals [] = [] := rfl

/-- The datagrams of two lists of events follow one another. -/
@[simp]
theorem arrivals_append (as bs : List FlowEvent) :
    arrivals (as ++ bs) = arrivals as ++ arrivals bs := List.filterMap_append

/-- So do their runs. -/
theorem run_append (s : FlowThread) (as bs : List FlowEvent) :
    s.run (as ++ bs) = (s.run as).run bs := List.foldl_append

end FlowThread

end Udtp
