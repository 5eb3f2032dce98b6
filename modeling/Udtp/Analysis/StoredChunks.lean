import Udtp.Analysis.TableAccess

/-!
# What becomes of the chunks of a file

A chunk that is handed to an active file is put into its queue, and no thread takes one out: the
threads pop copies.  The front of the queue is written again and again, and its object is deleted
the first time.  So a file holds every chunk it was ever given, and of all of them it writes the
first (`accepted_chunks_stay`).  As nothing but a call from outside marks a chunk as done, no file
with chunks is ever complete (`no_file_completes`).
-/

set_option autoImplicit false

namespace Udtp

open StepMachine

/-- Every event but a call that marks a chunk as done; no function makes such a call. -/
def FileWorkEvent.MarksNone : FileWorkEvent → Prop
  | .setChunkStatus _ chunkCode => chunkCode ≠ .done
  | _ => True

def DeliveryEvent.MarksNone : DeliveryEvent → Prop
  | .chunk _ => True
  | .file _ event => event.MarksNone

namespace FileWork

/-! ## The queue and the objects -/

/-- The file was given no chunk. -/
structure Unfed (w : FileWork) : Prop where
  chunks : w.chunks = []
  waiting : w.incomingChunks.waiting = []
  popped : w.incomingChunks.popped = []
  written : w.written = []

/-- The objects after the threads have written the chunk at `first`. -/
def WrittenAt (routed : List UDTPChunk) (first : ℕ) (w : FileWork) : Prop :=
  w.incomingChunks.waiting.head? = some first ∧
    w.chunks = (routed.map some).set first none ∧
    w.written.head? = (routed[first]?).map UDTPChunk.chunkID

/-- The chunks `routed` were received for the file and it took `accepted` of them. -/
structure Stores (routed accepted : List UDTPChunk) (w : FileWork) : Prop where
  popped : w.incomingChunks.popped = []
  queue : (w.incomingChunks.waiting.map fun p => routed[p]?) = accepted.map some
  objects : (w.chunks = routed.map some ∧ w.written = []) ∨ ∃ first, w.WrittenAt routed first

variable {w v : FileWork} {routed accepted : List UDTPChunk}

/-- A file that got nothing stores what it got. -/
theorem Unfed.stores (h : w.Unfed) : w.Stores [] [] where
  popped := h.popped
  queue := by rw [h.waiting, List.map_nil, List.map_nil]
  objects := Or.inl ⟨h.chunks, h.written⟩

/-- The objects of a file, whichever of them was deleted, are as many as were received. -/
theorem Stores.length (h : w.Stores routed accepted) : w.chunks.length = routed.length := by
  rcases h.objects with ⟨hchunks, -⟩ | ⟨first, -, hchunks, -⟩
  · rw [hchunks, List.length_map]
  · rw [hchunks, List.length_set, List.length_map]

/-- What is in the queue was received. -/
theorem Stores.lt_of_mem (h : w.Stores routed accepted) {p : ℕ}
    (hp : p ∈ w.incomingChunks.waiting) : p < routed.length := by
  have hmem : routed[p]? ∈ accepted.map some := by
    rw [← h.queue]
    exact List.mem_map_of_mem hp
  obtain ⟨chunk, -, hchunk⟩ := List.mem_map.mp hmem
  exact (List.getElem?_eq_some_iff.mp hchunk.symm).1

/-- A further object changes nothing about the ones before it. -/
theorem Stores.allocate (h : w.Stores routed accepted) (chunk : UDTPChunk) :
    (w.allocate chunk).2.Stores (routed ++ [chunk]) accepted where
  popped := h.popped
  queue := by
    rw [← h.queue]
    apply List.map_congr_left
    intro p hp
    exact List.getElem?_append_left (h.lt_of_mem hp)
  objects := by
    rcases h.objects with ⟨hchunks, hwritten⟩ | ⟨first, hfirst, hchunks, hwritten⟩
    · refine Or.inl ⟨?_, hwritten⟩
      simp [FileWork.allocate, hchunks]
    · have hlt : first < routed.length :=
        h.lt_of_mem (List.mem_of_mem_head? (Option.mem_def.mpr hfirst))
      refine Or.inr ⟨first, hfirst, ?_, ?_⟩
      · rw [List.map_append, List.set_append_left _ _ (by rwa [List.length_map])]
        exact congrArg (· ++ [some chunk]) hchunks
      · rw [List.getElem?_append_left hlt]
        exact hwritten

/-- An active file takes the chunk, and any other one drops it. -/
theorem Stores.addIncomingChunk (h : w.Stores routed accepted) (chunk : UDTPChunk) :
    ((w.allocate chunk).2.addIncomingChunk (w.allocate chunk).1).2.Stores (routed ++ [chunk])
      (accepted ++ if w.file.active then [chunk] else []) := by
  have hallocated := h.allocate chunk
  have hnew : (routed ++ [chunk])[w.chunks.length]? = some chunk := by
    rw [h.length]
    exact List.getElem?_concat_length
  unfold FileWork.addIncomingChunk
  by_cases hactive : w.file.active = true
  · have hactive' : (w.allocate chunk).2.file.active = true := hactive
    rw [if_pos hactive', if_pos hactive]
    refine ⟨hallocated.popped, ?_, ?_⟩
    · have hqueue := hallocated.queue
      change ((w.incomingChunks.waiting ++ [w.chunks.length]).map
        fun p => (routed ++ [chunk])[p]?) = _
      rw [List.map_append, List.map_append, List.map_singleton, hnew]
      exact congrArg (· ++ [some chunk]) hqueue
    · rcases hallocated.objects with hobjects | ⟨first, hfirst, hchunks, hwritten⟩
      · exact Or.inl hobjects
      · refine Or.inr ⟨first, ?_, hchunks, hwritten⟩
        change (w.incomingChunks.waiting ++ [w.chunks.length]).head? = some first
        have hfront : w.incomingChunks.waiting.head? = some first := hfirst
        rw [List.head?_append, hfront]
        rfl
  · have hactive' : ¬ (w.allocate chunk).2.file.active = true := hactive
    rw [if_neg hactive', if_neg hactive, List.append_nil]
    exact hallocated

/-- A change of the file, or of where a thread is, reaches no chunk. -/
theorem Stores.of_frame (h : w.Stores routed accepted)
    (hqueue : v.incomingChunks = w.incomingChunks) (hchunks : v.chunks = w.chunks)
    (hwritten : v.written = w.written) : v.Stores routed accepted where
  popped := by
    rw [hqueue]
    exact h.popped
  queue := by
    rw [hqueue]
    exact h.queue
  objects := by
    unfold WrittenAt
    rw [hqueue, hchunks, hwritten]
    exact h.objects

/-- A pass over the front of the queue finds it done, or writes it. -/
theorem processFront_cases {freed : UInt16} {p : ℕ} (h : w.processFront freed p = .ok v) :
    v = w ∨ v = (w.writeMmap freed p).2 := by
  unfold processFront popIncomingChunkQueue at h
  dsimp only at h
  split at h
  · cases h
  · cases h
    exact Or.inl rfl
  · split at h
    · split at h
      · cases h
      · cases h
        exact Or.inr rfl
    · cases h
      exact Or.inr rfl

/-- Writing the front of the queue: its object goes the first time, and nothing the next. -/
theorem Stores.writeMmap (h : w.Stores routed accepted) {p : ℕ} {rest : List ℕ}
    (hwaiting : w.incomingChunks.waiting = p :: rest) (freed : UInt16) :
    (w.writeMmap freed p).2.Stores routed accepted := by
  refine ⟨h.popped, h.queue, Or.inr ⟨p, ?_⟩⟩
  have hhead : w.incomingChunks.waiting.head? = some p := by rw [hwaiting, List.head?_cons]
  have hlt : p < routed.length := h.lt_of_mem (by simp [hwaiting])
  rcases h.objects with ⟨hchunks, hwritten⟩ | ⟨first, hfirst, hchunks, hwritten⟩
  · have hid : w.getChunkID freed p = routed[p].chunkID := by
      simp [getChunkID, hchunks, List.getElem?_eq_getElem hlt]
    refine ⟨hhead, congrArg (fun chunks => chunks.set p none) hchunks, ?_⟩
    change (w.written ++ [w.getChunkID freed p]).head? = _
    rw [hwritten, hid, List.getElem?_eq_getElem hlt]
    rfl
  · obtain rfl : first = p := Option.some.inj (hfirst.symm.trans hhead)
    refine ⟨hhead, ?_, ?_⟩
    · change w.chunks.set first none = _
      rw [hchunks, List.set_set]
    · change (w.written ++ [w.getChunkID freed first]).head? = _
      rw [List.getElem?_eq_getElem hlt] at hwritten ⊢
      rw [List.head?_append, hwritten]
      rfl

/-- A thread of the file keeps what is stored. -/
theorem Stores.fileThread (h : w.Stores routed accepted) {i : ℕ} {freed : UInt16}
    (hstep : w.fileThread i freed = .ok v) : v.Stores routed accepted := by
  unfold FileWork.fileThread getIncomingChunkQueue at hstep
  split at hstep
  · cases hstep
    exact h
  split at hstep
  · cases hstep
    exact h.of_frame rfl rfl rfl
  · split at hstep
    · cases hstep
      exact h
    · cases hstep
      exact h.of_frame rfl rfl rfl
  · split at hstep
    · cases hstep
      exact h.of_frame rfl rfl rfl
    · rename_i p rest hwaiting
      rcases processFront_cases hstep with rfl | rfl
      · exact h
      · exact h.writeMmap hwaiting freed
  · cases hstep
    exact h

/-- No thread and no call takes a chunk from a file. -/
theorem Stores.handle (h : w.Stores routed accepted) {e : FileWorkEvent}
    (hstep : w.handle e = .ok v) : v.Stores routed accepted := by
  have hframe : ∀ f, (w.setFile f).Stores routed accepted := fun f => h.of_frame rfl rfl rfl
  cases e with
  | thread i freed => exact h.fileThread (mapError_ok hstep)
  | beginFileProcessing env =>
    cases hstep
    exact hframe _
  | endFileProcessing =>
    simp only [FileWork.handle] at hstep
    split at hstep
    · cases hstep
    · cases hstep
      exact hframe _
  | setChunkStatus i c =>
    simp only [FileWork.handle] at hstep
    split at hstep
    · obtain ⟨f, -, rfl⟩ := map_ok (mapError_ok hstep)
      exact hframe f
    · cases hstep
      exact h
  | setAllEmptyChunksToWhine =>
    obtain ⟨⟨result, f⟩, -, rfl⟩ := map_ok (mapError_ok hstep)
    exact hframe f
  | getChunksWhine =>
    obtain ⟨result, -, rfl⟩ := map_ok (mapError_ok hstep)
    exact h
  | verifyCompletion =>
    simp only [FileWork.handle] at hstep
    split at hstep
    · cases hstep
    · cases hstep
    · cases hstep
      exact hframe _

/-! ## Nothing is ever done -/

/-- No entry of the table says that its chunk is done. -/
def NothingDone (w : FileWork) : Prop :=
  ∀ status ∈ w.file.chunksCompleted, ChunkCode.done.isIn status = false

/-- A call that keeps the table makes no chunk done. -/
theorem NothingDone.setFile (h : w.NothingDone) {f : UDTPFile}
    (htable : f.chunksCompleted = w.file.chunksCompleted) : (w.setFile f).NothingDone := by
  intro status hstatus
  exact h status (htable ▸ hstatus)

/-- A thread of the file makes no chunk done. -/
theorem NothingDone.fileThread (h : w.NothingDone) {i : ℕ} {freed : UInt16}
    (hstep : w.fileThread i freed = .ok v) : v.NothingDone := by
  have hkeep : v.file.chunksCompleted = w.file.chunksCompleted → v.NothingDone := by
    intro hsame status hstatus
    exact h status (hsame ▸ hstatus)
  apply hkeep
  unfold FileWork.fileThread at hstep
  split at hstep
  · cases hstep
    rfl
  split at hstep
  · cases hstep
    rfl
  · split at hstep
    · cases hstep
      rfl
    · cases hstep
      rfl
  · split at hstep
    · cases hstep
      rfl
    · rw [(processFront_frame hstep).1]
  · cases hstep
    rfl

/-- Beginning a file empties the table, setting a chunk to whine leaves the other codes, and
nothing else writes to it. -/
theorem NothingDone.handle (h : w.NothingDone) (hw : w.Consistent) {e : FileWorkEvent}
    (he : e.MarksNone) (hstep : w.handle e = .ok v) : v.NothingDone := by
  cases e with
  | thread i freed => exact h.fileThread (mapError_ok hstep)
  | beginFileProcessing env =>
    cases hstep
    cases hbegin : (w.file.beginFileProcessing env).1 with
    | true =>
      intro status hstatus
      have hempty : status ∈ List.replicate w.file.numberOfChunks.toNat 0 := by
        rw [← (UDTPFile.beginFileProcessing_table hbegin).1]
        exact hstatus
      rw [List.eq_of_mem_replicate hempty]
      rfl
    | false =>
      rw [UDTPFile.beginFileProcessing_unchanged hbegin]
      exact h
  | endFileProcessing =>
    simp only [FileWork.handle] at hstep
    split at hstep
    · cases hstep
    · rename_i f hend
      cases hstep
      rw [UDTPFile.endFileProcessing_some hend]
      exact h.setFile rfl
  | setChunkStatus i c =>
    simp only [FileWork.handle] at hstep
    split at hstep
    · rename_i hi
      obtain ⟨f, hset, rfl⟩ := map_ok (mapError_ok hstep)
      simp only [UDTPFile.setChunkStatus, List.getElem?_eq_getElem hi, Except.ok.injEq] at hset
      subst hset
      intro status hstatus
      rcases List.mem_or_eq_of_mem_set hstatus with hold | rfl
      · exact h status hold
      · rw [ChunkCode.isIn_or_mask, h _ (List.getElem_mem hi), decide_eq_false (Ne.symm he)]
        rfl
    · cases hstep
      exact h
  | setAllEmptyChunksToWhine =>
    obtain ⟨⟨result, f⟩, hset, rfl⟩ := map_ok (mapError_ok hstep)
    by_cases hfull : w.file.TableFull
    · rw [hfull.setAllEmptyChunksToWhine] at hset
      cases hset
      intro status hstatus
      obtain ⟨before, hbefore, rfl⟩ := List.mem_map.mp hstatus
      rw [ChunkCode.done_isIn_whineIfEmpty]
      exact h before hbefore
    · obtain ⟨hempty, hchunks⟩ := hw.not_full.mp hfull
      rw [UDTPFile.setAllEmptyChunksToWhine_of_empty hempty hchunks] at hset
      cases hset
  | getChunksWhine =>
    obtain ⟨result, -, rfl⟩ := map_ok (mapError_ok hstep)
    exact h
  | verifyCompletion =>
    simp only [FileWork.handle] at hstep
    split at hstep
    · cases hstep
    · cases hstep
    · rename_i hverify
      cases hstep
      rcases UDTPFile.verifyCompletion_ok hverify with rfl | rfl
      · exact h
      · exact h.setFile rfl

/-- A file that was begun and has chunks is found incomplete, at its first chunk. -/
theorem NothingDone.verifyCompletion (h : w.NothingDone) (hfull : w.file.TableFull)
    (hchunks : w.file.numberOfChunks.toNat ≠ 0) :
    w.file.verifyCompletion = .ok (some (0, w.file)) := by
  have hpos : 0 < w.file.chunksCompleted.length := by
    rw [hfull]
    omega
  have hfirst : w.file.getChunkStatus 0 .done = .ok false := by
    rw [UDTPFile.getChunkStatus_of_lt hpos]
    exact congrArg Except.ok (h _ (List.getElem_mem hpos))
  obtain ⟨k, hk⟩ := Nat.exists_eq_succ_of_ne_zero hchunks
  unfold UDTPFile.verifyCompletion
  rw [hk, List.range_succ_eq_map]
  simp [UDTPFile.findNotDone, hfirst]

end FileWork

/-! ## All files -/

namespace ChunkDelivery

variable {s t : ChunkDelivery} {number : ℕ}

/-- The chunk that an event hands to the file at a place. -/
def routed (number : ℕ) (s : ChunkDelivery) : DeliveryEvent → Option UDTPChunk
  | .chunk processChunk =>
    if s.searchFileByID processChunk.fileID.toUInt32 = some number then some processChunk else none
  | .file _ _ => none

/-- The same, where the file is active. -/
def accepted (number : ℕ) (s : ChunkDelivery) (e : DeliveryEvent) : Option UDTPChunk :=
  match s.files[number]? with
  | none => none
  | some w => if w.file.active then s.routed number e else none

/-- What one step does to one file. -/
theorem step_file {e : DeliveryEvent} (hstep : s.step e = .ok t) {v : FileWork}
    (hv : t.files[number]? = some v) : ∃ w, s.files[number]? = some w ∧
      ((∃ event, e = .file number event ∧ w.handle event = .ok v) ∨
      (∃ chunk, s.routed number e = some chunk ∧
        v = ((w.allocate chunk).2.addIncomingChunk (w.allocate chunk).1).2) ∨
      (s.routed number e = none ∧ v = w)) := by
  cases e with
  | chunk processChunk =>
    cases hstep
    unfold processThread at hv
    split at hv
    · rename_i hnone
      exact ⟨v, hv, Or.inr (Or.inr ⟨by simp [routed, hnone], rfl⟩)⟩
    · rename_i k hk
      rw [List.getElem?_modify] at hv
      obtain ⟨w, hw, rfl⟩ := Option.map_eq_some_iff.mp hv
      refine ⟨w, hw, Or.inr ?_⟩
      by_cases hsame : k = number
      · refine Or.inl ⟨processChunk, by simp [routed, hk, hsame], ?_⟩
        rw [if_pos hsame]
      · refine Or.inr ⟨by simp [routed, hk, hsame], ?_⟩
        rw [if_neg hsame]
  | file k event =>
    simp only [ChunkDelivery.step] at hstep
    split at hstep
    · cases hstep
      exact ⟨v, hv, Or.inr (Or.inr ⟨rfl, rfl⟩)⟩
    · rename_i w hw
      split at hstep
      · cases hstep
      · rename_i w' hw'
        cases hstep
        by_cases hsame : k = number
        · subst hsame
          have hlt := (List.getElem?_eq_some_iff.mp hw).1
          rw [List.getElem?_set_self hlt] at hv
          cases hv
          exact ⟨w, hw, Or.inl ⟨event, rfl, hw'⟩⟩
        · rw [List.getElem?_set_ne hsame] at hv
          exact ⟨v, hv, Or.inr (Or.inr ⟨rfl, rfl⟩)⟩

/-- In every run a file stores the chunks that were routed to it and accepted. -/
theorem run_stores (hunfed : ∀ w ∈ s.files, w.Unfed) {es : List DeliveryEvent}
    (hrun : run step s es = .ok t) {v : FileWork} (hv : t.files[number]? = some v) :
    v.Stores (events step (routed number) s es) (events step (accepted number) s es) := by
  refine run_induction step s
    (P := fun es t => ∀ v, t.files[number]? = some v →
      v.Stores (events step (routed number) s es) (events step (accepted number) s es))
    ?_ ?_ es t hrun v hv
  · intro w hw
    exact (hunfed w (List.mem_of_getElem? hw)).stores
  · intro es t e u hrun ih hstep v hv
    rw [events_snoc step (routed number) hrun hstep, events_snoc step (accepted number) hrun hstep]
    obtain ⟨w, hw, hcases⟩ := step_file hstep hv
    have hstores := ih w hw
    rcases hcases with ⟨event, rfl, hhandle⟩ | ⟨chunk, hrouted, rfl⟩ | ⟨hrouted, rfl⟩
    · have hnone : t.routed number (.file number event) = none := rfl
      simp only [accepted, hw, hnone, ite_self, Option.toList_none, List.append_nil]
      exact hstores.handle hhandle
    · have htaken : (t.accepted number e).toList = if w.file.active then [chunk] else [] := by
        simp only [accepted, hw, hrouted]
        split
        · rfl
        · rfl
      rw [hrouted, htaken]
      exact hstores.addIncomingChunk chunk
    · simp only [accepted, hw, hrouted, ite_self, Option.toList_none, List.append_nil]
      exact hstores

/-- **A file keeps every chunk it is given and writes the first.** However the chunks, the threads
of the files and the calls on them follow one another: a file that started without chunks has
all that it took in its queue, in the order they came, and has never taken one off; every object
that was received for it still exists, unless it is the one at the front of its queue; and what
was written first is the first chunk it took. -/
theorem accepted_chunks_stay (hunfed : ∀ w ∈ s.files, w.Unfed) {es : List DeliveryEvent}
    (hrun : run step s es = .ok t) {w : FileWork} (hw : t.files[number]? = some w) :
    w.incomingChunks.popped = [] ∧
    (w.incomingChunks.waiting.map fun p => (events step (routed number) s es)[p]?) =
      (events step (accepted number) s es).map some ∧
    (∀ p chunk, (events step (routed number) s es)[p]? = some chunk →
      w.incomingChunks.waiting.head? ≠ some p → w.chunks[p]? = some (some chunk)) ∧
    ∀ chunkID, w.written.head? = some chunkID →
      ((events step (accepted number) s es).head?).map UDTPChunk.chunkID = some chunkID := by
  have h := run_stores hunfed hrun hw
  refine ⟨h.popped, h.queue, ?_, ?_⟩
  · intro p chunk hchunk hnotFront
    rcases h.objects with ⟨hchunks, -⟩ | ⟨first, hfirst, hchunks, -⟩
    · rw [hchunks, List.getElem?_map, hchunk]
      rfl
    · have hne : first ≠ p := by
        rintro rfl
        exact hnotFront hfirst
      rw [hchunks, List.getElem?_set_ne hne, List.getElem?_map, hchunk]
      rfl
  · intro chunkID hwritten
    rcases h.objects with ⟨-, hnone⟩ | ⟨first, hfirst, -, hhead⟩
    · rw [hnone] at hwritten
      cases hwritten
    · obtain ⟨rest, hwaiting⟩ := List.head?_eq_some_iff.mp hfirst
      have hqueue := congrArg List.head? h.queue
      rw [hwaiting, List.map_cons, List.head?_cons, List.head?_map] at hqueue
      rw [hwritten] at hhead
      cases hones : (events step (accepted number) s es).head? with
      | none => simp [hones] at hqueue
      | some chunk =>
        simp only [hones, Option.map_some, Option.some.injEq] at hqueue
        rw [hqueue] at hhead
        exact hhead.symm

/-- Two chunks come for the file, and its thread takes up the front of the queue. -/
def twoChunks : List DeliveryEvent :=
  [.file 0 (.beginFileProcessing default), .file 0 (.beginFileProcessing default),
    .chunk { (default : UDTPChunk) with fileID := 1, chunkID := 0 },
    .chunk { (default : UDTPChunk) with fileID := 1, chunkID := 7 },
    .file 0 (.thread 0 0), .file 0 (.thread 0 0), .file 0 (.thread 0 0)]

/-- The first chunk is written, and both stay in the queue. -/
theorem accepted_chunks_stay_twoChunks :
    ∃ t w, run step oneFile twoChunks = .ok t ∧ t.files[0]? = some w ∧
      w.written = [0] ∧ w.incomingChunks = ⟨[0, 1], []⟩ ∧
      w.chunks[1]? = some (some { (default : UDTPChunk) with fileID := 1, chunkID := 7 }) := by
  obtain ⟨t, w, hrun, hw, hwritten, hqueue, hrouted⟩ : ∃ t w,
      run step oneFile twoChunks = .ok t ∧ t.files[0]? = some w ∧
      w.written = [0] ∧ w.incomingChunks = ⟨[0, 1], []⟩ ∧
      (events step (routed 0) oneFile twoChunks)[1]? =
        some { (default : UDTPChunk) with fileID := 1, chunkID := 7 } :=
    ⟨_, _, rfl, rfl, rfl, rfl, rfl⟩
  have hunfed : ∀ w ∈ oneFile.files, w.Unfed := by
    intro w hw
    obtain rfl := List.mem_singleton.mp hw
    exact ⟨rfl, rfl, rfl, rfl⟩
  obtain ⟨-, -, hobjects, -⟩ := accepted_chunks_stay hunfed hrun hw
  exact ⟨t, w, hrun, hw, hwritten, hqueue, hobjects 1 _ hrouted (by simp [hqueue])⟩

/-! ## Nothing is ever done -/

def NothingDone (s : ChunkDelivery) : Prop := ∀ w ∈ s.files, w.NothingDone

/-- No event that marks nothing makes a chunk done. -/
theorem NothingDone.step (h : s.NothingDone) (hs : s.Consistent) {e : DeliveryEvent}
    (he : e.MarksNone) (hstep : s.step e = .ok t) : t.NothingDone := by
  intro v hv
  obtain ⟨number, hv⟩ := List.mem_iff_getElem?.mp hv
  obtain ⟨w, hw, hcases⟩ := step_file hstep hv
  have hdone := h w (List.mem_of_getElem? hw)
  rcases hcases with ⟨event, rfl, hhandle⟩ | ⟨chunk, -, rfl⟩ | ⟨-, rfl⟩
  · exact hdone.handle (hs w (List.mem_of_getElem? hw)) he hhandle
  · unfold FileWork.addIncomingChunk
    split
    · exact hdone
    · exact hdone
  · exact hdone

/-- **No file with chunks is ever complete.** From new files, however chunks, threads and calls
follow one another, as long as no call from outside marks a chunk as done: no entry of a table
says so, and to `verify_completion()` the first chunk of a file that was begun and has chunks is
missing, so that it does not end the file. -/
theorem no_file_completes (hnew : ∀ w ∈ s.files, w.New) {es : List DeliveryEvent}
    (hmarks : ∀ e ∈ es, e.MarksNone) (hrun : run step s es = .ok t) {w : FileWork}
    (hw : w ∈ t.files) :
    (∀ i, w.file.getChunkStatus i .done ≠ .ok true) ∧
    (w.file.chunksCompleted ≠ [] → w.file.verifyCompletion = .ok (some (0, w.file))) := by
  have hboth : t.Consistent ∧ t.NothingDone := by
    refine run_induction step s (P := fun es t => (∀ e ∈ es, e.MarksNone) →
      t.Consistent ∧ t.NothingDone) ?_ ?_ es t hrun hmarks
    · intro _
      refine ⟨fun w hw => (hnew w hw).consistent, ?_⟩
      intro w hw status hstatus
      rw [(hnew w hw).table] at hstatus
      cases hstatus
    · intro es t e u hrun ih hstep hsnoc
      obtain ⟨hconsistent, hdone⟩ := ih fun e he => hsnoc e (List.mem_append_left _ he)
      exact ⟨hconsistent.step hstep, hdone.step hconsistent (hsnoc e (by simp)) hstep⟩
  obtain ⟨hconsistent, hdone⟩ := hboth
  constructor
  · intro i hi
    by_cases hlt : i < w.file.chunksCompleted.length
    · rw [UDTPFile.getChunkStatus_of_lt hlt, Except.ok.injEq] at hi
      have hnot : ChunkCode.done.isIn w.file.chunksCompleted[i] = false :=
        hdone w hw _ (List.getElem_mem hlt)
      exact Bool.false_ne_true (hnot.symm.trans hi)
    · have hout : w.file.getChunkStatus i .done = .error .indexOutOfRange := by
        rw [UDTPFile.getChunkStatus_error]
        exact ⟨rfl, by omega⟩
      rw [hout] at hi
      cases hi
  · intro htable
    have hfull := (hconsistent w hw).table.resolve_left htable
    refine (hdone w hw).verifyCompletion hfull ?_
    intro hzero
    rw [UDTPFile.TableFull, hzero] at hfull
    exact htable (List.length_eq_zero_iff.mp hfull)

/-- Both chunks were handed to the file, its thread wrote one, and it is as incomplete as before. -/
theorem no_file_completes_twoChunks :
    ∃ t w, run step oneFile (twoChunks ++ [.file 0 .setAllEmptyChunksToWhine]) = .ok t ∧
      t.files[0]? = some w ∧ w.written = [0] ∧ w.file.chunksCompleted = [2] ∧
      w.file.verifyCompletion = .ok (some (0, w.file)) := by
  obtain ⟨t, w, hrun, hw, hwritten, htable⟩ : ∃ t w,
      run step oneFile (twoChunks ++ [.file 0 .setAllEmptyChunksToWhine]) = .ok t ∧
      t.files[0]? = some w ∧ w.written = [0] ∧ w.file.chunksCompleted = [2] :=
    ⟨_, _, rfl, rfl, rfl, rfl⟩
  have hmarks : ∀ e ∈ twoChunks ++ [.file 0 .setAllEmptyChunksToWhine],
      DeliveryEvent.MarksNone e := by
    simp [twoChunks, DeliveryEvent.MarksNone, FileWorkEvent.MarksNone]
  obtain ⟨-, hverify⟩ := no_file_completes oneFile_new hmarks hrun (List.mem_of_getElem? hw)
  exact ⟨t, w, hrun, hw, hwritten, htable, hverify (by simp [htable])⟩

end ChunkDelivery

end Udtp
