import Udtp.Model.ChunkWorkers

/-!
# The threads of one record

The threads around the chunk queue of a record together with the calls of `add_thread()` that
start them.  No other call starts a thread for a record.  Both threads a call starts run
`flowThread`, the second on an object of the other class, and neither gets into a queue.
-/

set_option autoImplicit false

namespace Udtp

/-- `add_thread()` is called, or a thread goes on.

`isOnline` and `flowSocketReady` decide the call.  Nothing assigns the type of a thread, and
nothing the flag of the second one; `flowType`, `processAlive` and `processType` are what their
memory holds. -/
inductive PeerThreadEvent
  | addThread (isOnline flowSocketReady : Bool) (flowType : ThreadType) (processAlive : Bool)
      (processType : ThreadType)
  | thread (input : WorkerInput)

namespace ChunkWorkers

/-- SRCLINE: UDTPPeer.cpp:24-67, UDTPThreadFlow.h:14-19 -/
def addThread (isOnline flowSocketReady : Bool) (flowType : ThreadType) (processAlive : Bool)
    (processType : ThreadType) (s : ChunkWorkers) : ChunkWorkers :=
  if !isOnline then s
  else if !flowSocketReady then s
  else { s with
    flowWorkers := s.flowWorkers ++
      [⟨true, flowType, .receive⟩, ⟨processAlive, processType, .receive⟩]
    threadCount := s.threadCount + 1 }

/-- A record whose threads are all started by `add_thread()`. -/
def handle (s : ChunkWorkers) : PeerThreadEvent → Except Fault ChunkWorkers
  | .addThread isOnline flowSocketReady flowType processAlive processType =>
    .ok (s.addThread isOnline flowSocketReady flowType processAlive processType)
  | .thread input => s.step input

/-- The threads of a record as its constructor leaves it: none.  Any number of callers of
`remove_thread()` may come.
SRCLINE: UDTPPeer.h:44-52 -/
def new (callers : ℕ) : ChunkWorkers where
  processChunks := []
  semProcessChunkThread := 0
  packetsCount := 0
  threadCount := 0
  flowThreads := []
  processThreads := []
  flowWorkers := []
  processWorkers := []
  removals := List.replicate callers .idle
  incomingChunks := []
  pushed := []
  popped := []

abbrev runThreads (callers : ℕ) (es : List PeerThreadEvent) : Except Fault ChunkWorkers :=
  StepMachine.run handle (new callers) es

end ChunkWorkers

end Udtp
