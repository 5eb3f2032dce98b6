import Mathlib.Logic.Function.Basic
import Udtp.Computation.WhileLoop
import Udtp.Model.FileStatus
import Udtp.Model.FlowThread

/-!
# The threads of a file

`fileThread` on the chunks that were queued for a file.  The queue holds pointers; writing a
chunk deletes the object behind one, and what is then read as its ID is whatever the memory
holds.  `get_incoming_chunk_queue()` returns the queue by value.

Nothing assigns `_file` of a thread: a thread here is one that finds the file it was created
by.
-/

set_option autoImplicit false

namespace Udtp

open WhileLoop

/-- A `std::queue<UDTPChunk*>`.  A pointer is the number of the object in the order of
allocation; `popped` are the pointers that were ever taken off the queue. -/
structure ChunkPointers where
  waiting : List ℕ
  popped : List ℕ
  deriving DecidableEq, Inhabited

namespace ChunkPointers

def push (p : ℕ) (q : ChunkPointers) : ChunkPointers := { q with waiting := q.waiting ++ [p] }

def pop (q : ChunkPointers) : ChunkPointers :=
  { waiting := q.waiting.tail, popped := q.popped ++ q.waiting.head?.toList }

end ChunkPointers

/-- What a file thread does next: the test of the first loop, the wait in it, or the test of
the loop inside.  A thread that left the first loop looks at no chunk any more.
SRCLINE: UDTPFile.cpp:186-217 -/
inductive FileThreadPoint
  | test
  | wait
  | drain
  | left
  deriving DecidableEq, Inhabited

/-- A file with its chunk objects, none where one was deleted, and its threads at work, which
are the ones in `_fileThreads` by their place.  `written` are the chunk IDs that were passed
to `write_mmap()`.
SRCLINE: UDTPFile.h:115-145 -/
structure FileWork where
  file : UDTPFile
  chunks : List (Option UDTPChunk)
  incomingChunks : ChunkPointers
  points : ℕ → FileThreadPoint
  written : List UInt16

namespace FileWork

/-! ## The queue -/

/-- Change the file alone. -/
def setFile (f : UDTPFile) (w : FileWork) : FileWork := { w with file := f }

/-- `sem_post(&_semFileThread)` -/
def semPost (w : FileWork) : FileWork :=
  w.setFile (w.file.setSemFileThread (w.file.semFileThread + 1))

/-- The object a chunk is received in. -/
def allocate (chunk : UDTPChunk) (w : FileWork) : ℕ × FileWork :=
  (w.chunks.length, { w with chunks := w.chunks ++ [some chunk] })

/-- SRCLINE: UDTPFile.h:65-72 -/
def addIncomingChunk (newChunk : ℕ) (w : FileWork) : Bool × FileWork :=
  if w.file.active then
    (true, semPost { w with incomingChunks := w.incomingChunks.push newChunk })
  else (false, w)

/-- A copy of the queue.
SRCLINE: UDTPFile.h:73-75 -/
def getIncomingChunkQueue (w : FileWork) : ChunkPointers := w.incomingChunks

/-- `get_incoming_chunk_queue().pop()`: the chunk is taken off the copy, and the copy is gone
with the statement. -/
def popIncomingChunkQueue (w : FileWork) : ChunkPointers × FileWork :=
  (w.getIncomingChunkQueue.pop, w)

/-- `processChunk->get_chunk_id()`, where `freed` is what the memory of a deleted chunk holds.
SRCLINE: UDTPChunk.h:21 -/
def getChunkID (freed : UInt16) (processChunk : ℕ) (w : FileWork) : UInt16 :=
  match w.chunks[processChunk]? with
  | some (some chunk) => chunk.chunkID
  | _ => freed

/-! ## The thread -/

/-- Nothing is written, and the chunk is deleted.
SRCLINE: UDTPFile.cpp:250-256 -/
def writeMmap (freed : UInt16) (chunk : ℕ) (w : FileWork) : Bool × FileWork :=
  (true, { w with
    chunks := w.chunks.set chunk none
    written := w.written ++ [w.getChunkID freed chunk] })

/-- One pass of the inner loop, with the front of the queue.  After the write the status is
asked for again, and the answer dropped.
SRCLINE: UDTPFile.cpp:191-204 -/
def processFront (freed : UInt16) (processChunk : ℕ) (w : FileWork) : Except Fault FileWork :=
  let processChunkID := w.getChunkID freed processChunk
  match w.file.getChunkStatus processChunkID.toNat .done with
  | .error fault => .error fault
  | .ok true => .ok w
  | .ok false =>
    let (success, w) := w.writeMmap freed processChunk
    if success then
      match w.file.getChunkStatus processChunkID.toNat .done with
      | .error fault => .error fault
      | .ok _ => .ok w.popIncomingChunkQueue.2
    else .ok w.popIncomingChunkQueue.2

/-- The inner loop, with what the memory of a deleted chunk holds in the passes to come.
SRCLINE: UDTPFile.cpp:189-205 -/
def incomingPass (s : (ℕ → UInt16) × FileWork) :
    Option (Except Fault ((ℕ → UInt16) × FileWork)) :=
  match s.2.getIncomingChunkQueue.waiting with
  | [] => none
  | processChunk :: _ =>
    some ((s.2.processFront (s.1 0) processChunk).map fun w => (fun k => s.1 (k + 1), w))

/-- `while(!get_incoming_chunk_queue().empty())` for at most so many passes, and none where
that was not enough. -/
def drainIncoming (passes : ℕ) (freed : ℕ → UInt16) (w : FileWork) :
    Except Fault (Option FileWork) :=
  (whileLoop incomingPass passes (freed, w)).map fun r => r.map Prod.snd

def setPoint (i : ℕ) (point : FileThreadPoint) (w : FileWork) : FileWork :=
  { w with points := Function.update w.points i point }

/-- One statement of the thread at a place, where there is one.
SRCLINE: UDTPFile.cpp:182-221 -/
def fileThread (i : ℕ) (freed : UInt16) (w : FileWork) : Except Fault FileWork :=
  match w.file.fileThreads[i]? with
  | none => .ok w
  | some thread =>
    match w.points i with
    | .test =>
      .ok (w.setPoint i (if thread.alive && thread.threadType = .incoming then .wait else .left))
    | .wait =>
      if w.file.semFileThread = 0 then .ok w
      else .ok ((w.setFile (w.file.setSemFileThread (w.file.semFileThread - 1))).setPoint i .drain)
    | .drain =>
      match w.getIncomingChunkQueue.waiting with
      | [] => .ok (w.setPoint i .test)
      | processChunk :: _ => w.processFront freed processChunk
    | .left => .ok w

/-! ## What a pass does -/

variable {w v : FileWork} {freed : UInt16} {processChunk : ℕ}

/-- A pass changes neither the file nor the queue. -/
theorem processFront_frame (h : w.processFront freed processChunk = .ok v) :
    v.file = w.file ∧ v.incomingChunks = w.incomingChunks ∧ v.points = w.points := by
  unfold processFront writeMmap popIncomingChunkQueue at h
  dsimp only at h
  split at h
  · cases h
  · cases h
    exact ⟨rfl, rfl, rfl⟩
  · rw [if_pos rfl] at h
    split at h
    · cases h
    · cases h
      exact ⟨rfl, rfl, rfl⟩

/-- A pass faults iff the ID it reads is none of the table. -/
theorem processFront_error {fault : Fault} :
    w.processFront freed processChunk = .error fault ↔
      fault = .indexOutOfRange ∧
        w.file.chunksCompleted.length ≤ (w.getChunkID freed processChunk).toNat := by
  rw [← @UDTPFile.getChunkStatus_error _ _ .done]
  unfold processFront writeMmap
  dsimp only
  split
  · rename_i fault' hstatus
    simp [hstatus]
  · rename_i hstatus
    simp [hstatus]
  · rename_i hstatus
    -- the table is the one that was read before the write
    simp only [if_pos, hstatus]
    simp

end FileWork

end Udtp
