import Udtp.Model.FileWorker

/-!
# Draining the chunk queue of a file

The inner loop of `fileThread` tests, reads and pops copies of the queue.  So no pass takes a
chunk off the queue, and a thread that wakes up to a chunk never comes out of the loop
(`drainsQueue_iff`).
-/

set_option autoImplicit false

namespace Udtp

open WhileLoop

namespace FileWork

/-- A chunk with an ID waits in the queue. -/
def Queued (w : FileWork) (i : UInt16) : Prop :=
  ∃ p ∈ w.incomingChunks.waiting, ∃ chunk, w.chunks[p]? = some (some chunk) ∧ chunk.chunkID = i

def IsDone (w : FileWork) (i : UInt16) : Prop := w.file.getChunkStatus i.toNat .done = .ok true

/-- Every chunk was taken off the queue once, and the chunks that were not done were written
once each and are done now. -/
structure Drained (w t : FileWork) : Prop where
  empty : t.incomingChunks.waiting = []
  taken : t.incomingChunks.popped = w.incomingChunks.popped ++ w.incomingChunks.waiting
  written : ∃ new, t.written = w.written ++ new ∧
    (∀ i, w.Queued i → ¬ w.IsDone i → new.count i = 1) ∧
    (∀ i ∈ new, w.Queued i ∧ ¬ w.IsDone i) ∧
    ∀ i, t.IsDone i ↔ w.IsDone i ∨ i ∈ new

/-- The loop ends after some number of passes, with the queue drained. -/
def DrainsQueue (freed : ℕ → UInt16) (w : FileWork) : Prop :=
  ∃ passes t, w.drainIncoming passes freed = .ok (some t) ∧ Drained w t

variable {w t : FileWork} {freed : ℕ → UInt16}

/-- A pass leaves every chunk in the queue. -/
theorem incomingPass_waiting {r s : (ℕ → UInt16) × FileWork}
    (h : incomingPass r = some (.ok s)) : s.2.incomingChunks = r.2.incomingChunks := by
  unfold incomingPass at h
  split at h
  · cases h
  · rw [Option.some.injEq] at h
    obtain ⟨v, hv, rfl⟩ := StepMachine.map_ok h
    exact (processFront_frame hv).2.1

/-- The loop does not end on a queue that holds a chunk. -/
theorem drainIncoming_ne_some (hw : w.incomingChunks.waiting ≠ []) (passes : ℕ) :
    w.drainIncoming passes freed ≠ .ok (some t) := by
  intro h
  obtain ⟨r, hloop, hr⟩ := StepMachine.map_ok h
  obtain ⟨s, rfl, -⟩ := Option.map_eq_some_iff.mp hr
  -- the invariant: the queue is the one the thread woke up to
  apply whileLoop_ne_some (fun s => s.2.incomingChunks.waiting ≠ []) _ _ hw hloop
  · intro r s hrest hpass
    rw [incomingPass_waiting hpass]
    exact hrest
  · intro s hrest hexit
    unfold incomingPass getIncomingChunkQueue at hexit
    split at hexit
    · exact hrest ‹_›
    · cases hexit

/-- An empty queue is drained as it is. -/
theorem drained_of_empty (h : w.incomingChunks.waiting = []) : Drained w w where
  empty := h
  taken := by simp [h]
  written := by
    refine ⟨[], by simp, ?_, by simp, by simp⟩
    rintro i ⟨p, hp, -⟩
    simp [h] at hp

/-- **When the queue is drained.** For every file, every contents of its queue and whatever the
memory of a deleted chunk holds, iff there is nothing in the queue. -/
theorem drainsQueue_iff (freed : ℕ → UInt16) (w : FileWork) :
    DrainsQueue freed w ↔ w.incomingChunks.waiting = [] := by
  constructor
  · rintro ⟨passes, t, hdrain, -⟩
    by_contra hw
    exact drainIncoming_ne_some hw passes hdrain
  · intro hw
    refine ⟨1, w, ?_, drained_of_empty hw⟩
    have hexit : incomingPass (freed, w) = none := by
      simp only [incomingPass, getIncomingChunkQueue, hw]
    rw [drainIncoming, whileLoop_exit hexit]
    rfl

/-- An active file of one chunk, with this chunk in the queue. -/
def oneChunk (status : UInt8) : FileWork where
  file := { (default : UDTPFile) with
    active := true, numberOfChunks := 1, chunksCompleted := [status] }
  chunks := [some default]
  incomingChunks := ⟨[0], []⟩
  points := fun _ => .drain
  written := []

/-- The loop ends neither where the chunk is still to be written nor where it is done. -/
theorem not_drainsQueue_oneChunk :
    ¬ DrainsQueue (fun _ => 0) (oneChunk 0) ∧
      ¬ DrainsQueue (fun _ => 0) (oneChunk ChunkCode.done.mask) := by
  have hstuck (status : UInt8) : ¬ DrainsQueue (fun _ => 0) (oneChunk status) := by
    rintro ⟨passes, t, hdrain, -⟩
    exact drainIncoming_ne_some (by simp [oneChunk]) passes hdrain
  exact ⟨hstuck 0, hstuck _⟩

end FileWork

end Udtp
