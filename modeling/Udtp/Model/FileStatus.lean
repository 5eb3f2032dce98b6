import Udtp.Computation.StepMachine
import Udtp.Model.File

/-!
# The chunk status of a file, and its end

`_chunksCompleted` holds one byte a chunk, with a bit for every code.  The functions here set
these bits, look for a chunk that is not done, and end the processing of a file.
-/

set_option autoImplicit false

namespace Udtp

open StepMachine

/-- SRCLINE: UDTPChunk.h:8-12 -/
inductive ChunkCode
  | empty
  | whine
  | done
  deriving DecidableEq, Inhabited

/-- `0x01 << chunkCode` -/
def ChunkCode.mask : ChunkCode → UInt8
  | .empty => 0x01
  | .whine => 0x02
  | .done => 0x04

/-- `kill()` of a file thread.
SRCLINE: UDTPThread.h:17-24 -/
def UDTPThreadFile.kill (t : UDTPThreadFile) : UDTPThreadFile := { t with alive := false }

namespace UDTPFile

/-- SRCLINE: UDTPFile.h:95-98 -/
def getChunkStatus (chunkID : ℕ) (chunkCode : ChunkCode) (f : UDTPFile) : Except Fault Bool :=
  match f.chunksCompleted[chunkID]? with
  | none => .error .indexOutOfRange
  | some status => .ok (decide (status &&& chunkCode.mask ≠ 0))

/-- SRCLINE: UDTPFile.h:99-103 -/
def setChunkStatus (chunkID : ℕ) (chunkCode : ChunkCode) (f : UDTPFile) : Except Fault UDTPFile :=
  match f.chunksCompleted[chunkID]? with
  | none => .error .indexOutOfRange
  | some status => .ok { f with
      chunksCompleted := f.chunksCompleted.set chunkID (status ||| chunkCode.mask)
      chunksCompletedCount :=
        if chunkCode = .done then f.chunksCompletedCount + 1 else f.chunksCompletedCount }

/-- One round of `set_all_empty_chunks_to_whine()`.
SRCLINE: UDTPFile.cpp:156-158 -/
def setEmptyChunkToWhine (f : UDTPFile) (i : ℕ) : Except Fault UDTPFile :=
  match f.getChunkStatus i .done, f.getChunkStatus i .whine with
  | .ok false, .ok false => f.setChunkStatus i .whine
  | .error fault, _ => .error fault
  | .ok false, .error fault => .error fault
  | _, _ => .ok f

/-- SRCLINE: UDTPFile.cpp:154-162 -/
def setAllEmptyChunksToWhine (f : UDTPFile) : Except Fault (ℤ × UDTPFile) :=
  (run setEmptyChunkToWhine f (List.range f.numberOfChunks.toNat)).map fun g => (-1, g)

/-- The front thread is told to end and stays in the queue.
SRCLINE: UDTPFile.cpp:93-104 -/
def removeFileThread (f : UDTPFile) : Bool × UDTPFile :=
  if f.active && f.fileThreads.length = f.myUDTP.startingNumberOfFileThreads.toNat then (false, f)
  else
    match f.fileThreads with
    | [] => (false, f)
    | front :: rest => (true, { f with fileThreads := front.kill :: rest })

/-- `while(remove_file_thread());` for at most so many rounds, and none where that was not
enough. -/
def removeFileThreads : ℕ → UDTPFile → Option UDTPFile
  | 0, _ => none
  | rounds + 1, f =>
    match f.removeFileThread with
    | (true, g) => removeFileThreads rounds g
    | (false, g) => some g

/-- The result is none where the call never returns: a loop that does not end after as many
rounds as there are threads does not end at all (`removeFileThreads_eq`).
SRCLINE: UDTPFile.cpp:148-152 -/
def endFileProcessing (f : UDTPFile) : Option UDTPFile :=
  (removeFileThreads (f.fileThreads.length + 1) f).map (setActive false)

/-- The loop of `get_chunks_whine()` over the chunks that are left: the first one that is to
whine and not done.
SRCLINE: UDTPFile.cpp:165-169 -/
def findWhine (f : UDTPFile) : List ℕ → Except Fault (Option ℕ)
  | [] => .ok none
  | i :: is =>
    match f.getChunkStatus i .whine with
    | .error fault => .error fault
    | .ok false => f.findWhine is
    | .ok true =>
      match f.getChunkStatus i .done with
      | .error fault => .error fault
      | .ok false => .ok (some i)
      | .ok true => f.findWhine is

/-- SRCLINE: UDTPFile.cpp:164-171 -/
def getChunksWhine (f : UDTPFile) : Except Fault ℤ :=
  match f.findWhine (List.range f.numberOfChunks.toNat) with
  | .error fault => .error fault
  | .ok (some i) => .ok i
  | .ok none => .ok (-1)

/-- The loop of `verify_completion()` over the chunks that are left: the first one that is
not done. -/
def findNotDone (f : UDTPFile) : List ℕ → Except Fault (Option ℕ)
  | [] => .ok none
  | i :: is =>
    match f.getChunkStatus i .done with
    | .error fault => .error fault
    | .ok false => .ok (some i)
    | .ok true => f.findNotDone is

/-- A file whose chunks are all done is ended.  The result is none where the call never
returns.
SRCLINE: UDTPFile.cpp:172-181 -/
def verifyCompletion (f : UDTPFile) : Except Fault (Option (ℤ × UDTPFile)) :=
  match f.findNotDone (List.range f.numberOfChunks.toNat) with
  | .error fault => .error fault
  | .ok (some i) => .ok (some (i, f))
  | .ok none => .ok (f.endFileProcessing.map fun g => (-1, g))

/-! ## What the functions do -/

/-- Two files that differ at most in the status of their chunks. -/
def SameButStatus (f g : UDTPFile) : Prop :=
  ∃ count status, g = { f with chunksCompletedCount := count, chunksCompleted := status }

/-- A file has the rest of itself. -/
theorem SameButStatus.refl (f : UDTPFile) : SameButStatus f f := ⟨_, _, rfl⟩

/-- Two changes of the status are a change of the status. -/
theorem SameButStatus.trans {f g h : UDTPFile} (hfg : SameButStatus f g) (hgh : SameButStatus g h) :
    SameButStatus f h := by
  obtain ⟨_, _, rfl⟩ := hfg
  obtain ⟨count, status, rfl⟩ := hgh
  exact ⟨count, status, rfl⟩

/-- The table is read past its end and nowhere else does reading it fault. -/
theorem getChunkStatus_error {f : UDTPFile} {i : ℕ} {chunkCode : ChunkCode} {fault : Fault} :
    f.getChunkStatus i chunkCode = .error fault ↔
      fault = .indexOutOfRange ∧ f.chunksCompleted.length ≤ i := by
  unfold getChunkStatus
  split
  · rename_i hnone
    rw [List.getElem?_eq_none_iff] at hnone
    simp [hnone, eq_comm]
  · rename_i status hsome
    have hlt := (List.getElem?_eq_some_iff.mp hsome).1
    simp [hlt]

/-- Inside the table the status asked for is the masked entry. -/
theorem getChunkStatus_of_lt {f : UDTPFile} {i : ℕ} {chunkCode : ChunkCode}
    (h : i < f.chunksCompleted.length) :
    f.getChunkStatus i chunkCode =
      .ok (decide (f.chunksCompleted[i] &&& chunkCode.mask ≠ 0)) := by
  simp only [getChunkStatus, List.getElem?_eq_getElem h]

/-- Setting the status of one chunk changes the status alone. -/
theorem setChunkStatus_ok {f g : UDTPFile} {chunkID : ℕ} {chunkCode : ChunkCode}
    (h : f.setChunkStatus chunkID chunkCode = .ok g) : SameButStatus f g := by
  unfold setChunkStatus at h
  split at h
  · cases h
  · cases h
    exact ⟨_, _, rfl⟩

/-- Marking one chunk as missing changes the status alone. -/
theorem setEmptyChunkToWhine_ok {f g : UDTPFile} {i : ℕ} (h : f.setEmptyChunkToWhine i = .ok g) :
    SameButStatus f g := by
  unfold setEmptyChunkToWhine at h
  split at h
  · exact setChunkStatus_ok h
  · cases h
  · cases h
  · cases h
    exact SameButStatus.refl f

/-- Marking all missing chunks changes the status alone. -/
theorem setAllEmptyChunksToWhine_ok {f g : UDTPFile} {result : ℤ}
    (h : f.setAllEmptyChunksToWhine = .ok (result, g)) : SameButStatus f g := by
  obtain ⟨g', hrun, heq⟩ := map_ok h
  cases heq
  refine run_preserves setEmptyChunkToWhine (SameButStatus f) ?_ (SameButStatus.refl f) hrun
  intro t i u ht hstep
  exact ht.trans (setEmptyChunkToWhine_ok hstep)

/-- Clearing the table changes the status alone. -/
theorem emptyAllChunkStatus_sameButStatus (f : UDTPFile) :
    SameButStatus f f.emptyAllChunkStatus := ⟨_, _, rfl⟩

/-- Nothing that a call decides by changes with the call. -/
theorem removeFileThread_again {f g : UDTPFile} (h : f.removeFileThread = (true, g)) :
    g.removeFileThread.1 = true := by
  unfold removeFileThread at h
  split at h
  · cases h
  rename_i hguard
  split at h
  · cases h
  rename_i front rest hthreads
  cases h
  simp only [hthreads, List.length_cons] at hguard
  simp [removeFileThread, hguard]

/-- A removal that returns `false` did nothing. -/
theorem removeFileThread_false {f g : UDTPFile} (h : f.removeFileThread = (false, g)) : g = f := by
  unfold removeFileThread at h
  split at h
  · cases h
    rfl
  split at h
  · cases h
    rfl
  · cases h

/-- The loop ends in its first round or not at all. -/
theorem removeFileThreads_eq (rounds : ℕ) (f : UDTPFile) :
    removeFileThreads (rounds + 1) f = if f.removeFileThread.1 then none else some f := by
  induction rounds generalizing f with
  | zero =>
    unfold removeFileThreads
    split
    · rename_i g hremove
      simp [hremove, removeFileThreads]
    · rename_i g hremove
      simp [hremove, removeFileThread_false hremove]
  | succ rounds ih =>
    unfold removeFileThreads
    split
    · rename_i g hremove
      rw [ih g]
      simp [hremove, removeFileThread_again hremove]
    · rename_i g hremove
      simp [hremove, removeFileThread_false hremove]

/-- Ending a file returns iff there is no thread to remove, and then deactivates it. -/
theorem endFileProcessing_eq (f : UDTPFile) :
    f.endFileProcessing = if f.removeFileThread.1 then none else some (f.setActive false) := by
  rw [endFileProcessing, removeFileThreads_eq]
  split
  · rfl
  · rfl

/-- Without threads, ending a file returns. -/
theorem endFileProcessing_of_noThreads {f : UDTPFile} (h : f.fileThreads = []) :
    f.endFileProcessing = some (f.setActive false) := by
  have hnone : f.removeFileThread.1 = false := by
    unfold removeFileThread
    split
    · rfl
    · rw [h]
  rw [endFileProcessing_eq, hnone]
  rfl

/-- Every chunk of the file is done. -/
def AllDone (f : UDTPFile) : Prop :=
  ∀ i < f.numberOfChunks.toNat, f.getChunkStatus i .done = .ok true

/-- The search finds no chunk to be missing iff all of them are done. -/
theorem findNotDone_eq_none_iff (f : UDTPFile) (is : List ℕ) :
    f.findNotDone is = .ok none ↔ ∀ i ∈ is, f.getChunkStatus i .done = .ok true := by
  induction is with
  | nil => simp [findNotDone]
  | cons i is ih =>
    rw [findNotDone, List.forall_mem_cons, ← ih]
    split
    · rename_i fault hstatus
      simp [hstatus]
    · rename_i hstatus
      simp [hstatus]
    · rename_i hstatus
      simp [hstatus]

/-- A file whose chunks are all done is ended, and any other left as it is. -/
theorem verifyCompletion_cases {f g : UDTPFile} {result : ℤ}
    (h : f.verifyCompletion = .ok (some (result, g))) :
    g = f ∨ (f.AllDone ∧ f.endFileProcessing = some g) := by
  unfold verifyCompletion at h
  split at h
  · cases h
  · cases h
    exact Or.inl rfl
  · rename_i hnone
    refine Or.inr ⟨?_, ?_⟩
    · intro i hi
      exact (findNotDone_eq_none_iff f _).mp hnone i (List.mem_range.mpr hi)
    · cases hend : f.endFileProcessing with
      | none => simp [hend] at h
      | some g' =>
        simp only [hend, Option.map_some, Except.ok.injEq, Option.some.injEq, Prod.mk.injEq] at h
        rw [h.2]

/-- A file all of whose chunks are done is ended, and the answer is `-1`. -/
theorem verifyCompletion_of_allDone {f : UDTPFile} (hdone : f.AllDone) :
    f.verifyCompletion = .ok (f.endFileProcessing.map fun g => (-1, g)) := by
  have hnone : f.findNotDone (List.range f.numberOfChunks.toNat) = .ok none := by
    rw [findNotDone_eq_none_iff]
    intro i hi
    exact hdone i (List.mem_range.mp hi)
  simp only [verifyCompletion, hnone]

end UDTPFile

end Udtp
