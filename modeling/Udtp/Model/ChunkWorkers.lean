import Udtp.Computation.StepMachine
import Udtp.Model.FlowThread
import Udtp.Model.Peer

/-!
# The threads around the chunk queue

Any number of threads that run `flowThread`, any number that run `processThread`, and any
number of callers of `remove_thread()`, all at work for one record.  A step is one
operation on the queue, on the semaphore or on one member; between two steps any thread may
go on.  A worker that is killed finishes the iteration it is in.  A run ends where the
semaphore is full, which takes more chunks in the queue than memory holds.

How a chunk comes out of the socket is no part of this file: what a receive call yields is
the input of the step.  So is the file that `search_file_by_id()` finds.
-/

set_option autoImplicit false

namespace Udtp

/-- What a thread that runs `flowThread` does next.
SRCLINE: UDTPPeer.cpp:102-136 -/
inductive FlowWorkerPoint
  /-- The test of the loop, and the receive calls. -/
  | receive
  | push (incomingData : UDTPChunk)
  | count
  | post
  | exited

/-- What a thread that runs `processThread` does next.
SRCLINE: UDTPPeer.cpp:149-164 -/
inductive ProcessWorkerPoint
  | test
  | wait
  | pop
  | route (processChunk : Option UDTPChunk)
  | exited

/-- What a caller of `remove_thread()` does next; the numbers are those of the workers it
removes.
SRCLINE: UDTPPeer.cpp:74-96 -/
inductive RemovalPoint
  | idle
  | killFlow (flow process : ℕ)
  | killProcess (process : ℕ)
  | post
  | count

structure FlowWorker where
  alive : Bool
  threadType : ThreadType
  point : FlowWorkerPoint

structure ProcessWorker where
  alive : Bool
  point : ProcessWorkerPoint

/-- The members of the record that the threads share, the workers and the callers.
`flowThreads` and `processThreads` hold the numbers of workers.  `incomingChunks` are the
chunks that were handed to a file, `pushed` and `popped` all that ever entered and left the
queue.
SRCLINE: UDTPPeer.h:163-186 -/
structure ChunkWorkers where
  processChunks : List UDTPChunk
  semProcessChunkThread : ℕ
  packetsCount : UInt32
  threadCount : UInt16
  flowThreads : List ℕ
  processThreads : List ℕ
  flowWorkers : List FlowWorker
  processWorkers : List ProcessWorker
  removals : List RemovalPoint
  incomingChunks : List (ℕ × UDTPChunk)
  pushed : List UDTPChunk
  popped : List UDTPChunk

/-- Which thread goes on, and what it finds. -/
inductive WorkerInput
  | flow (i : ℕ) (received : Option UDTPChunk)
  | process (i : ℕ) (found : Option ℕ)
  | removal (i : ℕ)

namespace ChunkWorkers

/-! ## The queue -/

/-- SRCLINE: UDTPPeer.cpp:141-143 -/
def addChunkToProcess (chunk : UDTPChunk) (s : ChunkWorkers) : ChunkWorkers :=
  { s with processChunks := s.processChunks ++ [chunk], pushed := s.pushed ++ [chunk] }

/-- An empty queue gives `NULL`.
SRCLINE: UDTPPeer.h:144-150 -/
def getNextChunk (s : ChunkWorkers) : Option UDTPChunk × ChunkWorkers :=
  match s.processChunks with
  | [] => (none, s)
  | nextChunk :: rest =>
    (some nextChunk, { s with processChunks := rest, popped := s.popped ++ [nextChunk] })

/-- `sem_post(&_semProcessChunkThread)`, which fails at `SEM_VALUE_MAX`. -/
def semPost (s : ChunkWorkers) : Except Fault ChunkWorkers :=
  if s.semProcessChunkThread < semValueMax then
    .ok { s with semProcessChunkThread := s.semProcessChunkThread + 1 }
  else .error .semaphoreFull

/-- A `sem_post()` that succeeds adds one. -/
theorem semPost_ok {s t : ChunkWorkers} (h : s.semPost = .ok t) :
    t = { s with semProcessChunkThread := s.semProcessChunkThread + 1 } := by
  unfold semPost at h
  split at h
  · cases h
    rfl
  · cases h

/-! ## The workers -/

/-- Let the worker at a position go on. -/
def setFlow (i : ℕ) (w : FlowWorker) (s : ChunkWorkers) : ChunkWorkers :=
  { s with flowWorkers := s.flowWorkers.set i w }

def setProcess (i : ℕ) (w : ProcessWorker) (s : ChunkWorkers) : ChunkWorkers :=
  { s with processWorkers := s.processWorkers.set i w }

def setRemoval (i : ℕ) (point : RemovalPoint) (s : ChunkWorkers) : ChunkWorkers :=
  { s with removals := s.removals.set i point }

/-- `removeFlowThread->kill()`
SRCLINE: UDTPThread.h:17-24 -/
def killFlow (i : ℕ) (s : ChunkWorkers) : ChunkWorkers :=
  { s with flowWorkers := s.flowWorkers.modify i fun w => { w with alive := false } }

/-- `removeProcessThread->kill()` -/
def killProcess (i : ℕ) (s : ChunkWorkers) : ChunkWorkers :=
  { s with processWorkers := s.processWorkers.modify i fun w => { w with alive := false } }

/-- SRCLINE: UDTPPeer.cpp:97-140 -/
def flowStep (i : ℕ) (received : Option UDTPChunk) (w : FlowWorker) (s : ChunkWorkers) :
    Except Fault ChunkWorkers :=
  match w.point with
  | .receive =>
    if w.alive && w.threadType = .incoming then
      match received with
      | none => .ok s
      | some chunk => .ok (s.setFlow i { w with point := .push chunk })
    else .ok (s.setFlow i { w with point := .exited })
  | .push chunk => .ok ((s.addChunkToProcess chunk).setFlow i { w with point := .count })
  | .count =>
    .ok { s.setFlow i { w with point := .post } with packetsCount := s.packetsCount + 1 }
  | .post => s.semPost.map (setFlow i { w with point := .receive })
  | .exited => .ok s

/-- A worker at `sem_wait()` goes on when the semaphore is not zero.
SRCLINE: UDTPPeer.cpp:145-168 -/
def processStep (i : ℕ) (found : Option ℕ) (w : ProcessWorker) (s : ChunkWorkers) :
    ChunkWorkers :=
  match w.point with
  | .test => s.setProcess i { w with point := if w.alive then .wait else .exited }
  | .wait =>
    if s.semProcessChunkThread = 0 then s
    else { s.setProcess i { w with point := .pop } with
      semProcessChunkThread := s.semProcessChunkThread - 1 }
  | .pop => s.getNextChunk.2.setProcess i { w with point := .route s.getNextChunk.1 }
  | .route processChunk =>
    match processChunk, found with
    | some chunk, some file =>
      { s.setProcess i { w with point := .test } with
        incomingChunks := s.incomingChunks ++ [(file, chunk)] }
    | _, _ => s.setProcess i { w with point := .test }
  | .exited => s

/-! ## Removing workers -/

/-- SRCLINE: UDTPPeer.cpp:74-96 -/
def removalStep (i : ℕ) (point : RemovalPoint) (s : ChunkWorkers) : Except Fault ChunkWorkers :=
  match point with
  | .idle =>
    if s.threadCount ≤ 0 then .ok s
    else
      match s.flowThreads, s.processThreads with
      | flow :: _, process :: _ => .ok (s.setRemoval i (.killFlow flow process))
      | _, _ => .error .frontOfEmptyQueue
  | .killFlow flow process => .ok ((s.killFlow flow).setRemoval i (.killProcess process))
  | .killProcess process => .ok ((s.killProcess process).setRemoval i .post)
  | .post => s.semPost.map (setRemoval i .count)
  | .count =>
    match s.flowThreads, s.processThreads with
    | _ :: flowThreads, _ :: processThreads => .ok { s.setRemoval i .idle with
        threadCount := s.threadCount - 1
        flowThreads := flowThreads
        processThreads := processThreads }
    | _, _ => .error .frontOfEmptyQueue

/-! ## Steps -/

/-- One step of one thread.  There is no thread at a position past the end. -/
def step (s : ChunkWorkers) : WorkerInput → Except Fault ChunkWorkers
  | .flow i received =>
    match s.flowWorkers[i]? with
    | none => .ok s
    | some w => s.flowStep i received w
  | .process i found =>
    match s.processWorkers[i]? with
    | none => .ok s
    | some w => .ok (s.processStep i found w)
  | .removal i =>
    match s.removals[i]? with
    | none => .ok s
    | some point => s.removalStep i point

abbrev run (s : ChunkWorkers) (ins : List WorkerInput) : Except Fault ChunkWorkers :=
  StepMachine.run step s ins

/-- Every thread is at its first statement and nothing was received yet. -/
structure Starting (s : ChunkWorkers) : Prop where
  processChunks : s.processChunks = []
  semProcessChunkThread : s.semProcessChunkThread = 0
  pushed : s.pushed = []
  popped : s.popped = []
  flowWorkers : ∀ w ∈ s.flowWorkers, w.point = .receive
  processWorkers : ∀ w ∈ s.processWorkers, w.point = .test
  removals : ∀ point ∈ s.removals, point = .idle

end ChunkWorkers

end Udtp
