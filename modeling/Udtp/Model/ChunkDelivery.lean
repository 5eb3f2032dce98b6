import Udtp.Model.FileWorker

/-!
# Chunks on their way to files

The files of an endpoint, with everything that reads or writes their status tables: the chunks
that `processThread` hands to them, the threads of the files, and the calls on them.  Any of
these may come next.
-/

set_option autoImplicit false

namespace Udtp

/-- A thread of a file goes on, where `freed` is what it finds in the memory of a deleted chunk,
or a function is called on the file. -/
inductive FileWorkEvent
  | thread (i : ℕ) (freed : UInt16)
  | beginFileProcessing (env : Environment)
  | endFileProcessing
  | setChunkStatus (chunkID : ℕ) (chunkCode : ChunkCode)
  | setAllEmptyChunksToWhine
  | getChunksWhine
  | verifyCompletion

/-- The file after an event.  The error is empty where a call does not return, and whoever sets
the status of a chunk keeps to the table. -/
def FileWork.handle (w : FileWork) : FileWorkEvent → Except (Option Fault) FileWork
  | .thread i freed => (w.fileThread i freed).mapError some
  | .beginFileProcessing env => .ok (w.setFile (w.file.beginFileProcessing env).2)
  | .endFileProcessing =>
    match w.file.endFileProcessing with
    | none => .error none
    | some f => .ok (w.setFile f)
  | .setChunkStatus chunkID chunkCode =>
    if chunkID < w.file.chunksCompleted.length then
      ((w.file.setChunkStatus chunkID chunkCode).map fun f => w.setFile f).mapError some
    else .ok w
  | .setAllEmptyChunksToWhine =>
    (w.file.setAllEmptyChunksToWhine.map fun r => w.setFile r.2).mapError some
  | .getChunksWhine => (w.file.getChunksWhine.map fun _ => w).mapError some
  | .verifyCompletion =>
    match w.file.verifyCompletion with
    | .error fault => .error (some fault)
    | .ok none => .error none
    | .ok (some (_, f)) => .ok (w.setFile f)

/-- The files of an endpoint at work, and the two lists `search_file_by_id()` goes through. -/
structure ChunkDelivery where
  files : List FileWork
  selfOverallFiles : List ℕ
  overallFiles : List ℕ

inductive DeliveryEvent
  | chunk (processChunk : UDTPChunk)
  | file (number : ℕ) (event : FileWorkEvent)

namespace ChunkDelivery

/-- `get_file_id() == fileID` -/
def hasFileID (fileID : UInt32) (s : ChunkDelivery) (number : ℕ) : Bool :=
  match s.files[number]? with
  | none => false
  | some w => w.file.fileID = fileID

/-- SRCLINE: UDTPPeer.cpp:169-184 -/
def searchFileByID (fileID : UInt32) (s : ChunkDelivery) : Option ℕ :=
  match s.selfOverallFiles.find? (s.hasFileID fileID) with
  | some number => some number
  | none => s.overallFiles.find? (s.hasFileID fileID)

/-- What `processThread` does with a chunk it took from the queue of the record.
SRCLINE: UDTPPeer.cpp:152-160 -/
def processThread (processChunk : UDTPChunk) (s : ChunkDelivery) : ChunkDelivery :=
  match s.searchFileByID processChunk.fileID.toUInt32 with
  | none => s
  | some number => { s with files := s.files.modify number fun w =>
      ((w.allocate processChunk).2.addIncomingChunk (w.allocate processChunk).1).2 }

/-- A file that does not exist takes no part. -/
def step (s : ChunkDelivery) : DeliveryEvent → Except (Option Fault) ChunkDelivery
  | .chunk processChunk => .ok (s.processThread processChunk)
  | .file number event =>
    match s.files[number]? with
    | none => .ok s
    | some w =>
      match w.handle event with
      | .error fault => .error fault
      | .ok v => .ok { s with files := s.files.set number v }

end ChunkDelivery

end Udtp
