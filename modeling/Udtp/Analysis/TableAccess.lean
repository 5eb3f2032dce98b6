import Udtp.Model.ChunkDelivery
import Udtp.Analysis.StatusLoops

/-!
# Access to the status table

A file has no status table before it was begun, and a chunk is queued for a file that is active
whatever its ID.  So the table is read past its end iff a thread looks at a chunk whose ID is
none of the file's, or one of the loops over the table runs on a file with chunks that was
never begun (`accessesInTable_iff`).
-/

set_option autoImplicit false

namespace Udtp

open StepMachine

namespace FileWork

/-- The file was begun, so that it has a table. -/
def HasTable (w : FileWork) : Prop := w.file.chunksCompleted = [] → w.file.numberOfChunks = 0

/-- What keeps an event inside the table: a thread that looks at the front of the queue reads an
ID below the number of chunks, and a loop over the table finds one. -/
def StaysInTable (w : FileWork) : FileWorkEvent → Prop
  | .thread i freed => i < w.file.fileThreads.length → w.points i = .drain →
      ∀ p ∈ w.incomingChunks.waiting.head?,
        (w.getChunkID freed p).toNat < w.file.numberOfChunks.toNat
  | .setAllEmptyChunksToWhine => w.HasTable
  | .getChunksWhine => w.HasTable
  | .verifyCompletion => w.HasTable
  | _ => True

instance (w : FileWork) : Decidable w.HasTable :=
  inferInstanceAs (Decidable (w.file.chunksCompleted = [] → w.file.numberOfChunks = 0))

instance (w : FileWork) (event : FileWorkEvent) : Decidable (w.StaysInTable event) :=
  match event with
  | .thread i freed => inferInstanceAs (Decidable (i < w.file.fileThreads.length →
      w.points i = .drain → ∀ p ∈ w.incomingChunks.waiting.head?,
        (w.getChunkID freed p).toNat < w.file.numberOfChunks.toNat))
  | .setAllEmptyChunksToWhine => inferInstanceAs (Decidable w.HasTable)
  | .getChunksWhine => inferInstanceAs (Decidable w.HasTable)
  | .verifyCompletion => inferInstanceAs (Decidable w.HasTable)
  | .beginFileProcessing _ => inferInstanceAs (Decidable True)
  | .endFileProcessing => inferInstanceAs (Decidable True)
  | .setChunkStatus _ _ => inferInstanceAs (Decidable True)

/-- A new file: without a table, not active, and without chunks. -/
structure New (w : FileWork) : Prop where
  table : w.file.chunksCompleted = []
  inactive : w.file.active = false
  noChunks : w.incomingChunks.waiting = []

/-- The table is empty or full, and full where the file is active or has chunks to look at. -/
structure Consistent (w : FileWork) : Prop where
  table : w.file.chunksCompleted = [] ∨ w.file.TableFull
  begun : w.file.active = true ∨ w.incomingChunks.waiting ≠ [] → w.file.TableFull

variable {w v : FileWork} {e : FileWorkEvent}

/-- A new file is consistent. -/
theorem New.consistent (h : New w) : Consistent w where
  table := Or.inl h.table
  begun := by simp [h.inactive, h.noChunks]

/-- A consistent file without a full table has no table, but chunks. -/
theorem Consistent.not_full (h : Consistent w) :
    ¬ w.file.TableFull ↔ w.file.chunksCompleted = [] ∧ w.file.numberOfChunks.toNat ≠ 0 := by
  constructor
  · intro hnot
    have hempty := h.table.resolve_right hnot
    refine ⟨hempty, fun hzero => hnot ?_⟩
    rw [UDTPFile.TableFull, hempty, hzero]
    rfl
  · rintro ⟨hempty, hchunks⟩ hfull
    rw [UDTPFile.TableFull, hempty] at hfull
    exact hchunks hfull.symm

/-- A consistent file has a table iff its table is full. -/
theorem Consistent.hasTable_iff (h : Consistent w) : w.HasTable ↔ w.file.TableFull := by
  have hzero : w.file.numberOfChunks = 0 ↔ w.file.numberOfChunks.toNat = 0 :=
    UInt16.toNat_inj.symm
  rw [← not_iff_not, h.not_full, HasTable, hzero, Classical.not_imp]

/-! ## Out of the table -/

/-- A thread of the file leaves the table iff nothing keeps it inside. -/
theorem fileThread_error (h : Consistent w) {i : ℕ} {freed : UInt16} :
    w.fileThread i freed = .error .indexOutOfRange ↔ ¬ w.StaysInTable (.thread i freed) := by
  unfold fileThread StaysInTable getIncomingChunkQueue
  cases hthread : w.file.fileThreads[i]? with
  | none =>
    rw [List.getElem?_eq_none_iff] at hthread
    simp only [reduceCtorEq, false_iff, not_not]
    omega
  | some thread =>
    have hi := (List.getElem?_eq_some_iff.mp hthread).1
    cases hpoint : w.points i with
    | test => simp [hpoint]
    | left => simp [hpoint]
    | wait => by_cases hsem : w.file.semFileThread = 0 <;> simp [hsem, hpoint]
    | drain =>
      cases hwaiting : w.incomingChunks.waiting with
      | nil => simp
      | cons p rest =>
        have hfull := h.begun (Or.inr (by simp [hwaiting]))
        have hlength : w.file.chunksCompleted.length = w.file.numberOfChunks.toNat := hfull
        simp [processFront_error, hlength, hi, hpoint]

/-- On a consistent file an event leaves the table iff nothing keeps it inside. -/
theorem Consistent.handle_error (h : Consistent w) :
    w.handle e = .error (some .indexOutOfRange) ↔ ¬ w.StaysInTable e := by
  cases e with
  | thread i freed =>
    rw [← fileThread_error h]
    simp only [handle]
    cases w.fileThread i freed with
    | error fault => simp [Except.mapError]
    | ok v => simp [Except.mapError]
  | beginFileProcessing env => simp [handle, StaysInTable]
  | endFileProcessing =>
    simp only [handle, StaysInTable, not_true_eq_false, iff_false]
    split
    · simp
    · simp
  | setChunkStatus i c =>
    simp only [handle, StaysInTable, not_true_eq_false, iff_false]
    split
    · rename_i hi
      simp [UDTPFile.setChunkStatus, List.getElem?_eq_getElem hi, Except.map, Except.mapError]
    · simp
  | setAllEmptyChunksToWhine =>
    rw [StaysInTable, h.hasTable_iff]
    by_cases hfull : w.file.TableFull
    · simp [handle, hfull.setAllEmptyChunksToWhine, hfull, Except.map, Except.mapError]
    · obtain ⟨hempty, hchunks⟩ := h.not_full.mp hfull
      simp [handle, UDTPFile.setAllEmptyChunksToWhine_of_empty hempty hchunks, hfull, Except.map,
        Except.mapError]
  | getChunksWhine =>
    rw [StaysInTable, h.hasTable_iff]
    by_cases hfull : w.file.TableFull
    · obtain ⟨result, hresult⟩ := hfull.getChunksWhine_ok
      simp [handle, hresult, hfull, Except.map, Except.mapError]
    · obtain ⟨hempty, hchunks⟩ := h.not_full.mp hfull
      simp [handle, UDTPFile.getChunksWhine_of_empty hempty hchunks, hfull, Except.map,
        Except.mapError]
  | verifyCompletion =>
    rw [StaysInTable, h.hasTable_iff]
    by_cases hfull : w.file.TableFull
    · simp only [handle, hfull.verifyCompletion, hfull, not_true_eq_false, iff_false]
      split
      · simp_all
      · simp
      · simp
    · obtain ⟨hempty, hchunks⟩ := h.not_full.mp hfull
      simp [handle, UDTPFile.verifyCompletion_of_empty hempty hchunks, hfull]

/-! ## Consistent files -/

/-- A chunk that comes keeps a file consistent. -/
theorem Consistent.addIncomingChunk (h : Consistent w) (p : ℕ) :
    Consistent (w.addIncomingChunk p).2 := by
  unfold FileWork.addIncomingChunk
  split
  · rename_i hactive
    exact ⟨h.table, fun _ => h.begun (Or.inl hactive)⟩
  · exact h

/-- A chunk object keeps a file consistent. -/
theorem Consistent.allocate (h : Consistent w) (chunk : UDTPChunk) :
    Consistent (w.allocate chunk).2 := ⟨h.table, h.begun⟩

/-- A thread of the file keeps it consistent. -/
theorem Consistent.fileThread (h : Consistent w) {i : ℕ} {freed : UInt16}
    (hstep : w.fileThread i freed = .ok v) : Consistent v := by
  unfold FileWork.fileThread at hstep
  split at hstep
  · cases hstep
    exact h
  split at hstep
  · cases hstep
    exact ⟨h.table, h.begun⟩
  · split at hstep
    · cases hstep
      exact h
    · cases hstep
      exact ⟨h.table, h.begun⟩
  · split at hstep
    · cases hstep
      exact ⟨h.table, h.begun⟩
    · obtain ⟨hfile, hqueue, -⟩ := processFront_frame hstep
      constructor
      · rw [hfile]
        exact h.table
      · rw [hfile, hqueue]
        exact h.begun
  · cases hstep
    exact h

/-- A call keeps a file consistent when it makes the table full, or leaves the table full and the
flag as it was or cleared. -/
theorem Consistent.setFile (h : Consistent w) {f : UDTPFile}
    (hfull : w.file.TableFull → f.TableFull)
    (hempty : w.file.chunksCompleted = [] → f.chunksCompleted = [] ∨ f.TableFull)
    (hactive : f.active = true → w.file.active = true ∨ f.TableFull) :
    Consistent (w.setFile f) where
  table := by
    rcases h.table with htable | htable
    · exact hempty htable
    · exact Or.inr (hfull htable)
  begun := by
    rintro (hf | hwaiting)
    · rcases hactive hf with hw | hf
      · exact hfull (h.begun (Or.inl hw))
      · exact hf
    · exact hfull (h.begun (Or.inr hwaiting))

/-- Deactivating a file keeps it consistent. -/
theorem Consistent.setActive_false (h : Consistent w) :
    Consistent (w.setFile (w.file.setActive false)) := by
  apply h.setFile
  · exact id
  · exact Or.inl
  · intro hactive
    cases hactive

/-- Every event on a file keeps it consistent. -/
theorem Consistent.handle (h : Consistent w) (hstep : w.handle e = .ok v) : Consistent v := by
  cases e with
  | thread i freed => exact h.fileThread (mapError_ok hstep)
  | beginFileProcessing env =>
    cases hstep
    cases hbegin : (w.file.beginFileProcessing env).1 with
    | true =>
      have hfull := UDTPFile.beginFileProcessing_tableFull hbegin
      exact h.setFile (fun _ => hfull) (fun _ => Or.inr hfull) (fun _ => Or.inr hfull)
    | false =>
      rw [UDTPFile.beginFileProcessing_unchanged hbegin]
      exact h
  | endFileProcessing =>
    simp only [FileWork.handle] at hstep
    split at hstep
    · cases hstep
    · rename_i hend
      cases hstep
      rw [UDTPFile.endFileProcessing_some hend]
      exact h.setActive_false
  | setChunkStatus i c =>
    simp only [FileWork.handle] at hstep
    split at hstep
    · rename_i hi
      obtain ⟨f, hset, rfl⟩ := map_ok (mapError_ok hstep)
      have hfull : w.file.TableFull :=
        h.table.resolve_left fun hempty => by simp [hempty] at hi
      rw [hfull.setChunkStatus (hfull ▸ hi)] at hset
      cases hset
      exact h.setFile (fun _ => hfull.mark) (fun _ => Or.inr hfull.mark) Or.inl
    · cases hstep
      exact h
  | setAllEmptyChunksToWhine =>
    obtain ⟨⟨result, f⟩, hset, rfl⟩ := map_ok (mapError_ok hstep)
    by_cases hfull : w.file.TableFull
    · rw [hfull.setAllEmptyChunksToWhine] at hset
      cases hset
      have hwhine := hfull.setTable_whineIfEmpty
      exact h.setFile (fun _ => hwhine) (fun _ => Or.inr hwhine) Or.inl
    · obtain ⟨hempty, hchunks⟩ := h.not_full.mp hfull
      rw [UDTPFile.setAllEmptyChunksToWhine_of_empty hempty hchunks] at hset
      cases hset
  | getChunksWhine =>
    obtain ⟨result, -, rfl⟩ := map_ok (mapError_ok hstep)
    exact h
  | verifyCompletion =>
    simp only [FileWork.handle] at hstep
    split at hstep
    · cases hstep
    · cases hstep
    · rename_i hverify
      cases hstep
      rcases UDTPFile.verifyCompletion_ok hverify with rfl | rfl
      · exact h
      · exact h.setActive_false

end FileWork

/-! ## All files -/

namespace ChunkDelivery

/-- What keeps an event inside the tables of all files. -/
def StaysInTable (s : ChunkDelivery) : DeliveryEvent → Prop
  | .chunk _ => True
  | .file number event => ∀ w, s.files[number]? = some w → w.StaysInTable event

instance (s : ChunkDelivery) (e : DeliveryEvent) : Decidable (s.StaysInTable e) :=
  match e with
  | .chunk _ => inferInstanceAs (Decidable True)
  | .file number event => inferInstanceAs (Decidable (∀ w ∈ s.files[number]?, w.StaysInTable event))

def Consistent (s : ChunkDelivery) : Prop := ∀ w ∈ s.files, w.Consistent

variable {s t : ChunkDelivery}

/-- Every event keeps all files consistent. -/
theorem Consistent.step (h : Consistent s) {e : DeliveryEvent} (hstep : s.step e = .ok t) :
    Consistent t := by
  cases e with
  | chunk processChunk =>
    cases hstep
    unfold processThread
    split
    · exact h
    · rename_i number _
      intro v hv
      obtain ⟨k, hk⟩ := List.mem_iff_getElem?.mp hv
      rw [List.getElem?_modify] at hk
      obtain ⟨w, hw, rfl⟩ := Option.map_eq_some_iff.mp hk
      have hw := h w (List.mem_of_getElem? hw)
      by_cases hk : number = k
      · rw [if_pos hk]
        exact (hw.allocate processChunk).addIncomingChunk _
      · rwa [if_neg hk]
  | file number event =>
    simp only [ChunkDelivery.step] at hstep
    split at hstep
    · cases hstep
      exact h
    · rename_i w hw
      split at hstep
      · cases hstep
      · rename_i v hv
        cases hstep
        intro u hu
        rcases List.mem_or_eq_of_mem_set hu with hold | rfl
        · exact h u hold
        · exact (h w (List.mem_of_getElem? hw)).handle hv

/-- An event stays inside the tables iff the condition on it holds. -/
theorem Consistent.step_error (h : Consistent s) (e : DeliveryEvent) :
    s.step e ≠ .error (some .indexOutOfRange) ↔ s.StaysInTable e := by
  cases e with
  | chunk processChunk => simp [ChunkDelivery.step, StaysInTable]
  | file number event =>
    simp only [ChunkDelivery.step, StaysInTable]
    cases hw : s.files[number]? with
    | none => simp
    | some w =>
      have herror := (h w (List.mem_of_getElem? hw)).handle_error (e := event)
      simp only [Option.some.injEq, forall_eq']
      rw [← not_iff_not, not_not, ← herror]
      cases w.handle event with
      | error fault => simp
      | ok v => simp

/-- **When every access is inside the tables.** From new files, in every sequence of chunks,
threads and calls, no event reads a table past its end, iff every ID a thread reads at the
front of its queue is below the number of chunks of the file and the loops over a table run on
files that were begun or have no chunks. -/
theorem accessesInTable_iff (h : ∀ w ∈ s.files, w.New) (es : List DeliveryEvent) :
    (∀ t e, Takes step s es t e → t.step e ≠ .error (some .indexOutOfRange)) ↔
      ∀ t e, Takes step s es t e → t.StaysInTable e := by
  have hconsistent : ∀ t e, Takes step s es t e → t.Consistent := by
    rintro t e ⟨as, bs, -, hrun⟩
    apply run_preserves step Consistent _ _ hrun
    · intro t e u ht hstep
      exact ht.step hstep
    · intro w hw
      exact (h w hw).consistent
  constructor
  · intro hinside t e ht
    exact ((hconsistent t e ht).step_error e).mp (hinside t e ht)
  · intro hstays t e ht
    exact ((hconsistent t e ht).step_error e).mpr (hstays t e ht)

/-- One new file of one chunk, with the ID 1 and an approved header. -/
def oneFile : ChunkDelivery where
  files := [{
    file := { (default : UDTPFile) with
      fileID := 1
      numberOfChunks := 1
      approver := true
      transferType := .push
      hasApprovedHeader := true
      myUDTP := UDTPSetup.defaults }
    chunks := []
    incomingChunks := ⟨[], []⟩
    points := fun _ => .test
    written := [] }]
  selfOverallFiles := [0]
  overallFiles := []

/-- The file of the example is new. -/
theorem oneFile_new : ∀ w ∈ oneFile.files, w.New := by
  intro w hw
  simp only [oneFile, List.mem_singleton] at hw
  subst hw
  exact ⟨rfl, rfl, rfl⟩

/-- A second begin gives the active file a thread, which takes up the one chunk that comes for
it; then the file is looked through. -/
def ownChunk : List DeliveryEvent :=
  [.file 0 (.beginFileProcessing default), .file 0 (.beginFileProcessing default),
    .chunk { (default : UDTPChunk) with fileID := 1, chunkID := 0 },
    .file 0 (.thread 0 0), .file 0 (.thread 0 0), .file 0 (.thread 0 0),
    .file 0 .setAllEmptyChunksToWhine, .file 0 .getChunksWhine, .file 0 .verifyCompletion]

/-- The chunk is written, and every access is inside the table. -/
theorem accessesInTable_iff_ownChunk :
    (∃ t w, run step oneFile ownChunk = .ok t ∧ t.files[0]? = some w ∧ w.written = [0]) ∧
    (∀ t e, Takes step oneFile ownChunk t e → t.StaysInTable e) ∧
    ∀ t e, Takes step oneFile ownChunk t e → t.step e ≠ .error (some .indexOutOfRange) := by
  have hstays : ∀ t e, Takes step oneFile ownChunk t e → t.StaysInTable e :=
    forall_takes_of_checks step (by decide)
  exact ⟨⟨_, _, rfl, rfl, rfl⟩, hstays, (accessesInTable_iff oneFile_new ownChunk).mpr hstays⟩

/-- A second begin gives the active file a thread, which waits for a chunk, and the chunk that
comes has an ID the file does not have. -/
def strangeChunk : List DeliveryEvent :=
  [.file 0 (.beginFileProcessing default), .file 0 (.beginFileProcessing default),
    .chunk { (default : UDTPChunk) with fileID := 1, chunkID := 1 },
    .file 0 (.thread 0 0), .file 0 (.thread 0 0)]

/-- The thread reads the table past its end, and so does looking whether a file is complete that
was never begun. -/
theorem not_accessesInTable_oneFile :
    (∃ t, run step oneFile strangeChunk = .ok t ∧
      t.step (.file 0 (.thread 0 0)) = .error (some .indexOutOfRange)) ∧
    oneFile.step (.file 0 .verifyCompletion) = .error (some .indexOutOfRange) := by
  refine ⟨⟨_, rfl, ?_⟩, rfl⟩
  rfl

end ChunkDelivery

end Udtp
