import Udtp.Analysis.StatusLoops

/-!
# The count of completed chunks

`set_chunk_status()` counts every call that marks a chunk as done, also one on a chunk that is
done already.  So the count is the number of done entries iff no chunk is marked done twice,
and `verify_completion()` then returns where it finds all chunks done iff the workers let the
file end (`tableCounts_iff`).
-/

set_option autoImplicit false

namespace Udtp

open StepMachine

/-- The calls on a file that was begun. -/
inductive TableCall
  | beginFileProcessing (env : Environment)
  | setChunkStatus (chunkID : ℕ) (chunkCode : ChunkCode)
  | setAllEmptyChunksToWhine
  | verifyCompletion

namespace TableCall

/-- The file after a call.  The error is empty where the call does not return, and a chunk that
the file does not have is not set. -/
def step (f : UDTPFile) : TableCall → Except (Option Fault) UDTPFile
  | beginFileProcessing env => .ok (f.beginFileProcessing env).2
  | setChunkStatus chunkID chunkCode =>
    if chunkID < f.numberOfChunks.toNat then (f.setChunkStatus chunkID chunkCode).mapError some
    else .ok f
  | setAllEmptyChunksToWhine => (f.setAllEmptyChunksToWhine.map Prod.snd).mapError some
  | verifyCompletion =>
    match f.verifyCompletion with
    | .error fault => .error (some fault)
    | .ok none => .error none
    | .ok (some (_, g)) => .ok g

/-- The number of entries with the code `DONE`. -/
def doneCount (f : UDTPFile) : ℕ := f.chunksCompleted.countP ChunkCode.done.isIn

/-- The table has an entry for each chunk, the count is the number of done entries, and it is
the number of chunks where the file is found complete. -/
structure TableCounts (f : UDTPFile) : Prop where
  full : f.chunksCompleted.length = f.numberOfChunks.toNat
  count : f.chunksCompletedCount.toNat = doneCount f
  complete : f.chunksCompletedCount.toNat = f.numberOfChunks.toNat ↔
    ∃ g, f.verifyCompletion = .ok (some (-1, g))

/-- The call marks no chunk as done that is done already. -/
def MarksOnce (f : UDTPFile) : TableCall → Prop
  | setChunkStatus chunkID .done => chunkID < f.numberOfChunks.toNat →
      f.getChunkStatus chunkID .done = .ok false
  | _ => True

instance (f : UDTPFile) (c : TableCall) : Decidable (MarksOnce f c) := by
  unfold MarksOnce
  split <;> infer_instance

/-- Where all chunks are done, there is no worker to be removed: none in the queue, or the file
is active and has as many as it starts with. -/
def WorkersSettled (f : UDTPFile) : Prop :=
  f.AllDone → f.fileThreads = [] ∨
    (f.active = true ∧ f.fileThreads.length = f.myUDTP.startingNumberOfFileThreads.toNat)

variable {f g : UDTPFile}

/-! ## The count -/

/-- No more chunks are done than there are. -/
theorem doneCount_le (h : f.TableFull) : doneCount f ≤ f.numberOfChunks.toNat := by
  rw [← h]
  exact List.countP_le_length

/-- Marking the empty entries keeps the number of chunks that are done. -/
theorem doneCount_whineIfEmpty (f : UDTPFile) :
    doneCount (f.setTable (f.chunksCompleted.map ChunkCode.whineIfEmpty)) = doneCount f := by
  simp [doneCount, List.countP_map, Function.comp_def]

/-- Marking a chunk adds a done entry where the code is `DONE` and the chunk was not done. -/
theorem doneCount_mark (h : f.TableFull) {i : ℕ} (hi : i < f.numberOfChunks.toNat)
    (c : ChunkCode) :
    doneCount (f.mark i c) =
      if c = .done ∧ f.hasStatus i .done = false then doneCount f + 1 else doneCount f := by
  have hlt : i < f.chunksCompleted.length := by rwa [h]
  have hpos : ChunkCode.done.isIn f.chunksCompleted[i] = true → 0 < doneCount f := by
    intro hdone
    exact List.countP_pos_iff.mpr ⟨_, List.getElem_mem hlt, hdone⟩
  have hset : doneCount (f.mark i c) = doneCount f -
      (if ChunkCode.done.isIn f.chunksCompleted[i] then 1 else 0) +
      (if ChunkCode.done.isIn (f.chunksCompleted[i] ||| c.mask) then 1 else 0) := by
    simp only [doneCount, UDTPFile.mark, List.modify_eq_set, List.getElem?_eq_getElem hlt,
      Option.getD_some]
    exact List.countP_set hlt
  rw [hset, UDTPFile.hasStatus_of_lt hlt, ChunkCode.isIn_or_mask]
  cases hdone : ChunkCode.done.isIn f.chunksCompleted[i] with
  | true =>
    have := hpos hdone
    simp
    omega
  | false => by_cases hc : c = .done <;> simp [hc, eq_comm]

/-- All chunks are done iff every entry counts. -/
theorem doneCount_eq_iff (h : f.TableFull) :
    doneCount f = f.numberOfChunks.toNat ↔ f.AllDone := by
  have hlength : f.chunksCompleted.length = f.numberOfChunks.toNat := h
  rw [← hlength, doneCount, List.countP_eq_length, h.allDone_iff, List.eq_nil_iff_forall_not_mem]
  simp only [UDTPFile.mem_missing, not_and, Bool.not_eq_false, ← hlength]
  constructor
  · intro hall i hi
    rw [UDTPFile.hasStatus_of_lt hi]
    exact hall _ (List.getElem_mem hi)
  · intro hall status hstatus
    obtain ⟨i, hi, rfl⟩ := List.getElem_of_mem hstatus
    rw [← UDTPFile.hasStatus_of_lt hi]
    exact hall i hi

/-! ## Finding a file complete -/

/-- No worker is removed iff none is there, or the file is active with as many as it starts with. -/
theorem removeFileThread_eq_false :
    f.removeFileThread.1 = false ↔ f.fileThreads = [] ∨
      (f.active = true ∧
        f.fileThreads.length = f.myUDTP.startingNumberOfFileThreads.toNat) := by
  unfold UDTPFile.removeFileThread
  split
  · rename_i hrefused
    simp only [Bool.and_eq_true, decide_eq_true_eq] at hrefused
    simp [hrefused]
  · rename_i hrefused
    simp only [Bool.and_eq_true, decide_eq_true_eq] at hrefused
    split
    · simp [*]
    · rename_i front rest hthreads
      rw [hthreads] at hrefused
      simpa [hthreads] using hrefused

/-- The answer is `-1` iff all chunks are done and no worker is removed. -/
theorem verifyCompletion_eq_neg_one (h : f.TableFull) :
    (∃ g, f.verifyCompletion = .ok (some (-1, g))) ↔
      f.AllDone ∧ f.removeFileThread.1 = false := by
  rw [h.verifyCompletion, h.allDone_iff, UDTPFile.endFileProcessing_eq]
  cases hmissing : f.missing with
  | nil =>
    cases f.removeFileThread.1 with
    | true => simp
    | false => simp
  | cons i rest =>
    have hne : (i : ℤ) ≠ -1 := by omega
    simp [hne]

/-- With the count right, the file is found complete where all chunks are done iff the workers
are settled. -/
theorem tableCounts_iff_settled (h : f.TableFull)
    (hcount : f.chunksCompletedCount.toNat = doneCount f) : TableCounts f ↔ WorkersSettled f := by
  have hcomplete := verifyCompletion_eq_neg_one h
  have hall := doneCount_eq_iff h
  rw [removeFileThread_eq_false] at hcomplete
  constructor
  · intro htable hdone
    have hverify := htable.complete.mp (hcount.trans (hall.mpr hdone))
    exact (hcomplete.mp hverify).2
  · intro hsettled
    refine ⟨h, hcount, ?_⟩
    rw [hcount, hall, hcomplete]
    exact ⟨fun hdone => ⟨hdone, hsettled hdone⟩, And.left⟩

/-! ## Calls -/

/-- The count of a file that was begun is right. -/
theorem begin_count {env : Environment} (hbegin : (f.beginFileProcessing env).1 = true) :
    (f.beginFileProcessing env).2.chunksCompletedCount.toNat =
      doneCount (f.beginFileProcessing env).2 := by
  obtain ⟨htable, hcount, -⟩ := UDTPFile.beginFileProcessing_table hbegin
  simp [doneCount, htable, hcount, List.countP_replicate, ChunkCode.isIn]

/-- A call inside the table sets the status of its chunk. -/
theorem step_setChunkStatus (h : f.TableFull) {i : ℕ} (hi : i < f.numberOfChunks.toNat)
    (c : ChunkCode) : step f (.setChunkStatus i c) = .ok (f.mark i c) := by
  rw [step, if_pos hi, h.setChunkStatus hi]
  rfl

/-- The call marks all entries of a full table. -/
theorem step_setAllEmptyChunksToWhine (h : f.TableFull) :
    step f .setAllEmptyChunksToWhine =
      .ok (f.setTable (f.chunksCompleted.map ChunkCode.whineIfEmpty)) := by
  rw [step, h.setAllEmptyChunksToWhine]
  rfl

/-- The call at most deactivates the file. -/
theorem step_verifyCompletion (hstep : step f .verifyCompletion = .ok g) :
    g = f ∨ g = f.setActive false := by
  rw [step] at hstep
  split at hstep
  · cases hstep
  · cases hstep
  · rename_i hverify
    cases hstep
    exact UDTPFile.verifyCompletion_ok hverify

/-- Every call keeps the table full. -/
theorem tableFull_step (h : f.TableFull) {c : TableCall} (hstep : c.step f = .ok g) :
    g.TableFull := by
  cases c with
  | beginFileProcessing env =>
    cases hstep
    cases hbegin : (f.beginFileProcessing env).1 with
    | true => exact UDTPFile.beginFileProcessing_tableFull hbegin
    | false => rwa [UDTPFile.beginFileProcessing_unchanged hbegin]
  | setChunkStatus i c =>
    by_cases hi : i < f.numberOfChunks.toNat
    · rw [step_setChunkStatus h hi] at hstep
      cases hstep
      exact h.mark
    · rw [step, if_neg hi] at hstep
      cases hstep
      exact h
  | setAllEmptyChunksToWhine =>
    rw [step_setAllEmptyChunksToWhine h] at hstep
    cases hstep
    exact h.setTable_whineIfEmpty
  | verifyCompletion =>
    rcases step_verifyCompletion hstep with rfl | rfl
    · exact h
    · exact h

/-- The count stays right while no chunk is marked done twice. -/
theorem count_step (h : f.TableFull) (hcount : f.chunksCompletedCount.toNat = doneCount f)
    {c : TableCall} (honce : MarksOnce f c) (hstep : c.step f = .ok g) :
    g.chunksCompletedCount.toNat = doneCount g := by
  cases c with
  | beginFileProcessing env =>
    cases hstep
    cases hbegin : (f.beginFileProcessing env).1 with
    | true => exact begin_count hbegin
    | false => rwa [UDTPFile.beginFileProcessing_unchanged hbegin]
  | setChunkStatus i c =>
    by_cases hi : i < f.numberOfChunks.toNat
    · rw [step_setChunkStatus h hi] at hstep
      cases hstep
      rw [doneCount_mark h hi]
      cases c with
      | empty => simpa [UDTPFile.mark] using hcount
      | whine => simpa [UDTPFile.mark] using hcount
      | done =>
        have hnot : f.hasStatus i .done = false := by
          simpa [h.getChunkStatus hi] using honce hi
        have hle := doneCount_le h
        have hlt := f.numberOfChunks.toNat_lt
        simp only [UDTPFile.mark, hnot, if_true, and_self, UInt32.toNat_add, UInt32.toNat_one]
        omega
    · rw [step, if_neg hi] at hstep
      cases hstep
      exact hcount
  | setAllEmptyChunksToWhine =>
    rw [step_setAllEmptyChunksToWhine h] at hstep
    cases hstep
    rw [doneCount_whineIfEmpty]
    exact hcount
  | verifyCompletion =>
    rcases step_verifyCompletion hstep with rfl | rfl
    · exact hcount
    · exact hcount

/-- Marking a chunk done that is done already counts it again. -/
theorem count_broken (h : f.TableFull) (hcount : f.chunksCompletedCount.toNat = doneCount f)
    {c : TableCall} (htwice : ¬ MarksOnce f c) :
    ∃ g, c.step f = .ok g ∧ ¬ g.chunksCompletedCount.toNat = doneCount g := by
  cases c with
  | beginFileProcessing env => exact absurd trivial htwice
  | setAllEmptyChunksToWhine => exact absurd trivial htwice
  | verifyCompletion => exact absurd trivial htwice
  | setChunkStatus i c =>
    cases c with
    | empty => exact absurd trivial htwice
    | whine => exact absurd trivial htwice
    | done =>
      simp only [MarksOnce, Classical.not_imp] at htwice
      obtain ⟨hi, hdone⟩ := htwice
      have hstatus : f.hasStatus i .done = true := by
        simpa [h.getChunkStatus hi] using hdone
      refine ⟨f.mark i .done, step_setChunkStatus h hi .done, ?_⟩
      have hle := doneCount_le h
      have hlt := f.numberOfChunks.toNat_lt
      rw [doneCount_mark h hi]
      simp only [UDTPFile.mark, hstatus, if_true, UInt32.toNat_add, UInt32.toNat_one]
      simp
      omega

/-- **When the table counts.** After a file was begun and any sequence of calls, the table has an
entry for each chunk and the count is the number of done entries, which is the number of chunks
exactly where the file is found complete, iff no chunk is marked done twice and where all
chunks are done the workers are settled. -/
theorem tableCounts_iff (env : Environment) (hbegin : (f.beginFileProcessing env).1 = true)
    (calls : List TableCall) :
    (∀ t, Passes step (f.beginFileProcessing env).2 calls t → TableCounts t) ↔
      (∀ t c, Takes step (f.beginFileProcessing env).2 calls t c → MarksOnce t c) ∧
        ∀ t, Passes step (f.beginFileProcessing env).2 calls t → WorkersSettled t := by
  have hfull := UDTPFile.beginFileProcessing_tableFull hbegin
  have hcount := begin_count hbegin
  have hfulls : ∀ t, Passes step (f.beginFileProcessing env).2 calls t → t.TableFull := by
    intro t ht
    exact passes_invariant step (fun t c u hfull hstep => tableFull_step hfull hstep) hfull ht
  have hcounts := passes_iff_takes_of_invariant step UDTPFile.TableFull
    (fun t c u hfull hstep => tableFull_step hfull hstep)
    (fun t c u hfull hcount honce hstep => count_step hfull hcount honce hstep)
    (fun t c hfull hcount htwice => count_broken hfull hcount htwice) hfull hcount calls
  rw [← hcounts]
  constructor
  · intro htable
    refine ⟨fun t ht => (htable t ht).count, ?_⟩
    intro t ht
    exact (tableCounts_iff_settled (hfulls t ht) (htable t ht).count).mp (htable t ht)
  · rintro ⟨hcount, hsettled⟩ t ht
    exact (tableCounts_iff_settled (hfulls t ht) (hcount t ht)).mpr (hsettled t ht)

/-- A file of so many chunks with an approved header, that asks for one worker. -/
def approvedChunks (numberOfChunks : UInt16) : UDTPFile :=
  { (default : UDTPFile) with
    numberOfChunks := numberOfChunks
    hasApprovedHeader := true
    myUDTP := UDTPSetup.defaults }

/-- While one of two chunks is marked, once, the table counts after every call. -/
theorem tableCounts_iff_approvedChunks :
    (∃ t, run step ((approvedChunks 2).beginFileProcessing default).2
      [.setChunkStatus 0 .done, .setChunkStatus 1 .whine] = .ok t) ∧
      ∀ t, Passes step ((approvedChunks 2).beginFileProcessing default).2
        [.setChunkStatus 0 .done, .setChunkStatus 1 .whine] t → TableCounts t := by
  refine ⟨⟨_, rfl⟩,
    (tableCounts_iff default rfl [.setChunkStatus 0 .done, .setChunkStatus 1 .whine]).mpr
      ⟨forall_takes_of_checks step (by decide), ?_⟩⟩
  -- the second chunk is not done before, between or after the calls
  rintro t ⟨as, bs, heq, hrun⟩ hall
  rcases as with - | ⟨c, - | ⟨d, - | ⟨e, as⟩⟩⟩
  · cases hrun
    exact absurd (hall 1 (by decide)) (by decide)
  · cases heq
    cases hrun
    exact absurd (hall 1 (by decide)) (by decide)
  · cases heq
    cases hrun
    exact absurd (hall 1 (by decide)) (by decide)
  · cases heq

/-- The first of two chunks is marked done twice; and a file that was begun twice is found
complete, and the next search does not return. -/
theorem not_tableCounts_approvedChunks :
    (∃ t, run step ((approvedChunks 2).beginFileProcessing default).2
      [.setChunkStatus 0 .done, .setChunkStatus 0 .done] = .ok t ∧ ¬ TableCounts t) ∧
    ∃ t, run step ((approvedChunks 1).beginFileProcessing default).2
      [.beginFileProcessing default, .setChunkStatus 0 .done, .verifyCompletion] = .ok t ∧
        ¬ TableCounts t := by
  constructor
  · refine ⟨_, rfl, ?_⟩
    intro h
    exact absurd h.count (by decide)
  · refine ⟨_, rfl, ?_⟩
    intro h
    obtain ⟨g, hverify⟩ := h.complete.mp rfl
    cases hverify

end TableCall

end Udtp
