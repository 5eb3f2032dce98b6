import Udtp.Analysis.ChunkQueue
import Udtp.Model.PeerThreads

/-!
# Where received chunks go

`processThread` is written to take chunks from the queue of a record and hand them to files, and
`add_thread()` says that it starts one.  It starts a second `flowThread` instead.  So nothing ever
takes a chunk from the queue: whatever the threads of a record receive stays there
(`received_chunks_stay`), and what the semaphore and the packet count say about the queue is true
but for the threads that are about to say it.
-/

set_option autoImplicit false

namespace Udtp

open StepMachine TokenQueue

/-- The thread has pushed a chunk and not counted it. -/
def FlowWorkerPoint.uncounted : FlowWorkerPoint → Bool
  | .count => true
  | _ => false

namespace ChunkWorkers

/-- The number of threads that have a chunk to count. -/
def uncounted (s : ChunkWorkers) : ℕ := s.flowWorkers.countP fun w => w.point.uncounted

/-- What holds of the threads of a record as long as it takes no thread away. -/
structure Unprocessed (s : ChunkWorkers) : Prop where
  processWorkers : s.processWorkers = []
  flowThreads : s.flowThreads = []
  removals : ∀ point ∈ s.removals, point = .idle
  incomingChunks : s.incomingChunks = []
  popped : s.popped = []
  queue : s.processChunks = s.pushed
  semaphore : s.semProcessChunkThread + s.owing = s.pushed.length
  counted : s.packetsCount + UInt32.ofNat s.uncounted = UInt32.ofNat s.pushed.length

variable {s t : ChunkWorkers} {i : ℕ}

/-- A new record has received nothing. -/
theorem new_unprocessed (callers : ℕ) : (new callers).Unprocessed where
  processWorkers := rfl
  flowThreads := rfl
  removals := fun _ hpoint => List.eq_of_mem_replicate hpoint
  incomingChunks := rfl
  popped := rfl
  queue := rfl
  semaphore := rfl
  counted := rfl

/-- A flow worker that goes on changes the number of those that have a chunk to count by what it
did. -/
theorem uncounted_setFlow {w : FlowWorker} (v : FlowWorker) (hw : s.flowWorkers[i]? = some w) :
    (s.setFlow i v).uncounted + (if w.point.uncounted then 1 else 0) =
      s.uncounted + (if v.point.uncounted then 1 else 0) :=
  countP_set_add v hw

/-- A thread that goes on between two chunks. -/
theorem Unprocessed.setFlow (h : s.Unprocessed) {v w : FlowWorker}
    (hw : s.flowWorkers[i]? = some w) (howes : v.point.owes = w.point.owes)
    (huncounts : v.point.uncounted = w.point.uncounted) : (s.setFlow i v).Unprocessed where
  processWorkers := h.processWorkers
  flowThreads := h.flowThreads
  removals := h.removals
  incomingChunks := h.incomingChunks
  popped := h.popped
  queue := h.queue
  semaphore := by
    have howing := owing_setFlow v hw
    rw [howes] at howing
    rw [Nat.add_right_cancel howing]
    exact h.semaphore
  counted := by
    have huncounted := uncounted_setFlow v hw
    rw [huncounts] at huncounted
    rw [Nat.add_right_cancel huncounted]
    exact h.counted

/-- Threads that were just started have received nothing. -/
theorem Unprocessed.addThread (h : s.Unprocessed) (isOnline flowSocketReady : Bool)
    (flowType : ThreadType) (processAlive : Bool) (processType : ThreadType) :
    (s.addThread isOnline flowSocketReady flowType processAlive processType).Unprocessed := by
  unfold ChunkWorkers.addThread
  split
  · exact h
  split
  · exact h
  refine ⟨h.processWorkers, h.flowThreads, h.removals, h.incomingChunks, h.popped, h.queue,
    ?_, ?_⟩
  · have howing := h.semaphore
    simp only [owing, List.countP_append] at howing ⊢
    exact howing
  · have hcounted := h.counted
    simp only [uncounted, List.countP_append] at hcounted ⊢
    exact hcounted

/-- The chunk a thread receives is pushed, then counted, then posted; each of the three numbers is
behind by the threads that still have to do it. -/
theorem Unprocessed.flowStep (h : s.Unprocessed) {w : FlowWorker}
    (hw : s.flowWorkers[i]? = some w) {received : Option UDTPChunk}
    (hstep : s.flowStep i received w = .ok t) : t.Unprocessed := by
  unfold ChunkWorkers.flowStep at hstep
  cases hpoint : w.point with
  | receive =>
    simp only [hpoint] at hstep
    split at hstep
    · cases received with
      | none =>
        cases hstep
        exact h
      | some chunk =>
        cases hstep
        exact h.setFlow hw (by rw [hpoint]; rfl) (by rw [hpoint]; rfl)
    · cases hstep
      exact h.setFlow hw (by rw [hpoint]; rfl) (by rw [hpoint]; rfl)
  | push chunk =>
    simp only [hpoint] at hstep
    cases hstep
    have howing : (s.setFlow i { w with point := .count }).owing = s.owing + 1 := by
      simpa [hpoint, FlowWorkerPoint.owes] using owing_setFlow { w with point := .count } hw
    have huncounted : (s.setFlow i { w with point := .count }).uncounted = s.uncounted + 1 := by
      simpa [hpoint, FlowWorkerPoint.uncounted] using
        uncounted_setFlow { w with point := .count } hw
    refine ⟨h.processWorkers, h.flowThreads, h.removals, h.incomingChunks, h.popped, ?_, ?_, ?_⟩
    · exact congrArg (· ++ [chunk]) h.queue
    · have hsemaphore := h.semaphore
      change s.semProcessChunkThread + (s.setFlow i { w with point := .count }).owing =
        (s.pushed ++ [chunk]).length
      rw [List.length_append, List.length_singleton]
      omega
    · change s.packetsCount + UInt32.ofNat (s.setFlow i { w with point := .count }).uncounted =
        UInt32.ofNat (s.pushed ++ [chunk]).length
      rw [huncounted, List.length_append, List.length_singleton, UInt32.ofNat_add,
        UInt32.ofNat_add, ← UInt32.add_assoc, h.counted]
  | count =>
    simp only [hpoint] at hstep
    cases hstep
    have howing : (s.setFlow i { w with point := .post }).owing = s.owing := by
      simpa [hpoint, FlowWorkerPoint.owes] using owing_setFlow { w with point := .post } hw
    have huncounted : (s.setFlow i { w with point := .post }).uncounted + 1 = s.uncounted := by
      simpa [hpoint, FlowWorkerPoint.uncounted] using
        uncounted_setFlow { w with point := .post } hw
    refine ⟨h.processWorkers, h.flowThreads, h.removals, h.incomingChunks, h.popped, h.queue,
      ?_, ?_⟩
    · have hsemaphore := h.semaphore
      change s.semProcessChunkThread + (s.setFlow i { w with point := .post }).owing =
        s.pushed.length
      omega
    · have hcounted := h.counted
      rw [← huncounted, UInt32.ofNat_add] at hcounted
      change s.packetsCount + 1 +
        UInt32.ofNat (s.setFlow i { w with point := .post }).uncounted =
          UInt32.ofNat s.pushed.length
      rw [← hcounted, UInt32.add_assoc, UInt32.add_comm 1]
      rfl
  | post =>
    simp only [hpoint] at hstep
    obtain ⟨u, hpost, rfl⟩ := map_ok hstep
    obtain rfl := semPost_ok hpost
    have howing : (s.setFlow i { w with point := .receive }).owing + 1 = s.owing := by
      simpa [hpoint, FlowWorkerPoint.owes] using owing_setFlow { w with point := .receive } hw
    have huncounted : (s.setFlow i { w with point := .receive }).uncounted = s.uncounted := by
      simpa [hpoint, FlowWorkerPoint.uncounted] using
        uncounted_setFlow { w with point := .receive } hw
    refine ⟨h.processWorkers, h.flowThreads, h.removals, h.incomingChunks, h.popped, h.queue,
      ?_, ?_⟩
    · have hsemaphore := h.semaphore
      change s.semProcessChunkThread + 1 + (s.setFlow i { w with point := .receive }).owing =
        s.pushed.length
      omega
    · have hcounted := h.counted
      rw [← huncounted] at hcounted
      exact hcounted
  | exited =>
    simp only [hpoint] at hstep
    cases hstep
    exact h

/-- No thread was ever put into a queue, so that a removal does nothing or traps. -/
theorem Unprocessed.removalStep (h : s.Unprocessed) {point : RemovalPoint}
    (hpoint : s.removals[i]? = some point) (hstep : s.removalStep i point = .ok t) : t = s := by
  obtain rfl := h.removals point (List.mem_of_getElem? hpoint)
  simp only [ChunkWorkers.removalStep, h.flowThreads] at hstep
  split at hstep
  · cases hstep
    rfl
  · cases hstep

/-- No call and no step of a thread takes a chunk from the queue. -/
theorem Unprocessed.handle (h : s.Unprocessed) {e : PeerThreadEvent}
    (hstep : s.handle e = .ok t) : t.Unprocessed := by
  cases e with
  | addThread isOnline flowSocketReady flowType processAlive processType =>
    cases hstep
    exact h.addThread isOnline flowSocketReady flowType processAlive processType
  | thread input =>
    unfold ChunkWorkers.handle ChunkWorkers.step at hstep
    cases input with
    | flow i received =>
      dsimp only at hstep
      split at hstep
      · cases hstep
        exact h
      · rename_i w hw
        exact h.flowStep hw hstep
    | process i found =>
      rw [h.processWorkers] at hstep
      cases hstep
      exact h
    | removal i =>
      dsimp only at hstep
      split at hstep
      · cases hstep
        exact h
      · rename_i point hpoint
        rw [h.removalStep hpoint hstep]
        exact h

/-- In every run of the threads nothing is processed. -/
theorem run_unprocessed {callers : ℕ} {es : List PeerThreadEvent}
    (hrun : runThreads callers es = .ok t) : t.Unprocessed := by
  refine run_preserves ChunkWorkers.handle Unprocessed ?_ (new_unprocessed callers) hrun
  intro s e u hs hstep
  exact hs.handle hstep

/-- Every thread is at its receive calls or has ended. -/
def BetweenChunks (s : ChunkWorkers) : Prop :=
  ∀ w ∈ s.flowWorkers, w.point = .receive ∨ w.point = .exited

/-- Between two chunks nobody owes a post. -/
theorem BetweenChunks.owing (h : s.BetweenChunks) : s.owing = 0 := by
  refine List.countP_eq_zero.mpr ?_
  intro w hw
  rcases h w hw with hpoint | hpoint
  · simp [hpoint, FlowWorkerPoint.owes]
  · simp [hpoint, FlowWorkerPoint.owes]

/-- Between two chunks nobody has a chunk to count. -/
theorem BetweenChunks.uncounted (h : s.BetweenChunks) : s.uncounted = 0 := by
  refine List.countP_eq_zero.mpr ?_
  intro w hw
  rcases h w hw with hpoint | hpoint
  · simp [hpoint, FlowWorkerPoint.uncounted]
  · simp [hpoint, FlowWorkerPoint.uncounted]

/-- **What the threads of a record receive stays in its queue.** However often `add_thread()` and
`remove_thread()` are called and in whatever order the threads go on, no chunk has left the queue
and none was handed to a file: the queue holds every chunk that was received, in the order they
came.  The semaphore is behind by the threads that have a post to make, the packet count by those
that have a chunk to count; between two chunks both are exact, the count up to its width. -/
theorem received_chunks_stay {callers : ℕ} {es : List PeerThreadEvent}
    (hrun : runThreads callers es = .ok t) :
    t.processWorkers = [] ∧ t.popped = [] ∧ t.incomingChunks = [] ∧ t.processChunks = t.pushed ∧
    t.semProcessChunkThread + t.owing = t.processChunks.length ∧
    (t.BetweenChunks → t.semProcessChunkThread = t.processChunks.length ∧
      t.packetsCount.toNat = t.processChunks.length % 2 ^ 32) := by
  have h := run_unprocessed hrun
  rw [h.queue]
  refine ⟨h.processWorkers, h.popped, h.incomingChunks, rfl, h.semaphore, ?_⟩
  intro hbetween
  constructor
  · have hsemaphore := h.semaphore
    rw [hbetween.owing] at hsemaphore
    exact hsemaphore
  · have hcounted := h.counted
    rw [hbetween.uncounted] at hcounted
    have hcount : t.packetsCount = UInt32.ofNat t.pushed.length := by
      rw [← hcounted]
      simp
    rw [hcount]
    simp

/-- A call starts two threads; the first, whose type reads as incoming, receives two chunks. -/
theorem received_chunks_stay_two :
    ∃ t, runThreads 1 ([.thread (.removal 0), .addThread true true .incoming false .outgoing] ++
        List.replicate 8 (.thread (.flow 0 (some default))) ++
        List.replicate 3 (.thread (.flow 1 (some default)))) = .ok t ∧
      t.flowWorkers.length = 2 ∧ t.processChunks.length = 2 ∧ t.incomingChunks = [] ∧
      t.semProcessChunkThread = 2 ∧ t.packetsCount.toNat = 2 := by
  obtain ⟨t, hrun, hlength, hchunks, hbetween⟩ : ∃ t, runThreads 1
      ([.thread (.removal 0), .addThread true true .incoming false .outgoing] ++
        List.replicate 8 (.thread (.flow 0 (some default))) ++
        List.replicate 3 (.thread (.flow 1 (some default)))) = .ok t ∧
      t.flowWorkers.length = 2 ∧ t.processChunks.length = 2 ∧ t.BetweenChunks := by
    refine ⟨_, rfl, rfl, rfl, ?_⟩
    intro w hw
    rcases List.mem_pair.mp hw with rfl | rfl
    · exact Or.inl rfl
    · exact Or.inr rfl
  obtain ⟨-, -, hincoming, -, -, hexact⟩ := received_chunks_stay hrun
  obtain ⟨hsemaphore, hcount⟩ := hexact hbetween
  rw [hchunks] at hsemaphore hcount
  exact ⟨t, hrun, hlength, hchunks, hincoming, hsemaphore, hcount⟩

end ChunkWorkers

end Udtp
