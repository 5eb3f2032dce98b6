import Udtp.Model.FileStatus

/-!
# The loops over the status table

What the loops over `_chunksCompleted` do in terms of its entries, on a table with an entry
for each chunk, and on the empty table of a file that was never begun.
-/

set_option autoImplicit false

namespace Udtp

open StepMachine

/-! ## Entries -/

namespace ChunkCode

/-- `status & (0x01 << chunkCode)` -/
def isIn (c : ChunkCode) (status : UInt8) : Bool := decide (status &&& c.mask ≠ 0)

/-- A mask of a union is the union of the masks. -/
theorem or_and (a b c : UInt8) : (a ||| b) &&& c = (a &&& c) ||| (b &&& c) := by
  apply UInt8.eq_of_toBitVec_eq
  simp only [UInt8.toBitVec_and, UInt8.toBitVec_or]
  exact BitVec.and_or_distrib_right

/-- Two codes share a bit iff they are the same. -/
theorem mask_and_mask (c d : ChunkCode) : d.mask &&& c.mask = 0 ↔ c ≠ d := by
  cases c <;> cases d <;> decide

/-- Setting one code sets no other. -/
@[simp]
theorem isIn_or_mask (c d : ChunkCode) (status : UInt8) :
    c.isIn (status ||| d.mask) = (c.isIn status || decide (c = d)) := by
  unfold isIn
  by_cases h : c = d
  · have hmask : d.mask ≠ 0 := by cases d <;> decide
    simp [or_and, UInt8.or_eq_zero_iff, h, hmask]
  · simp [or_and, UInt8.or_eq_zero_iff, mask_and_mask, h]

/-- The entry of a chunk after `set_all_empty_chunks_to_whine()`. -/
def whineIfEmpty (status : UInt8) : UInt8 :=
  if done.isIn status || whine.isIn status then status else status ||| whine.mask

/-- Marking an empty entry makes no chunk done. -/
@[simp]
theorem done_isIn_whineIfEmpty (status : UInt8) :
    done.isIn (whineIfEmpty status) = done.isIn status := by
  unfold whineIfEmpty
  split <;> simp

/-- After the marking an entry whines or is done. -/
theorem whine_isIn_whineIfEmpty (status : UInt8) :
    whine.isIn (whineIfEmpty status) = true ∨ done.isIn status = true := by
  unfold whineIfEmpty
  split <;> simp_all [or_comm]

/-- Marking an entry twice is marking it once. -/
theorem whineIfEmpty_idem (status : UInt8) :
    whineIfEmpty (whineIfEmpty status) = whineIfEmpty status := by
  have hwhine := whine_isIn_whineIfEmpty status
  rw [← done_isIn_whineIfEmpty] at hwhine
  rw [whineIfEmpty, if_pos]
  rcases hwhine with h | h <;> simp [h]

end ChunkCode

namespace UDTPFile

/-- The entry of a chunk has a code; it is in no entry that does not exist. -/
def hasStatus (f : UDTPFile) (i : ℕ) (c : ChunkCode) : Bool := c.isIn (f.chunksCompleted.getD i 0)

/-- The file with another table. -/
def setTable (table : List UInt8) (f : UDTPFile) : UDTPFile := { f with chunksCompleted := table }

/-- The table of a file is the one that was set. -/
@[simp]
theorem setTable_chunksCompleted (table : List UInt8) (f : UDTPFile) :
    (f.setTable table).chunksCompleted = table := rfl

/-- The last table that was set counts. -/
@[simp]
theorem setTable_setTable (table table' : List UInt8) (f : UDTPFile) :
    (f.setTable table).setTable table' = f.setTable table' := rfl

/-- Setting the table a file has changes nothing. -/
theorem setTable_self (f : UDTPFile) : f.setTable f.chunksCompleted = f := rfl

/-- The table has an entry for each chunk. -/
def TableFull (f : UDTPFile) : Prop := f.chunksCompleted.length = f.numberOfChunks.toNat

variable {f g : UDTPFile} {i : ℕ} {c : ChunkCode}

/-- Inside the table the status is read from the entry. -/
theorem hasStatus_of_lt (h : i < f.chunksCompleted.length) :
    f.hasStatus i c = c.isIn f.chunksCompleted[i] := by
  rw [hasStatus, List.getD_eq_getElem?_getD, List.getElem?_eq_getElem h, Option.getD_some]

/-- With a full table, the status of every chunk can be asked for. -/
theorem TableFull.getChunkStatus (h : f.TableFull) (hi : i < f.numberOfChunks.toNat) :
    f.getChunkStatus i c = .ok (f.hasStatus i c) := by
  have hlt : i < f.chunksCompleted.length := by rwa [h]
  rw [getChunkStatus_of_lt hlt, hasStatus_of_lt hlt]
  rfl

/-! ## Beginning and ending a file -/

/-- A file that was begun has a table of empty entries. -/
theorem beginFileProcessing_table {env : Environment}
    (h : (f.beginFileProcessing env).1 = true) :
    (f.beginFileProcessing env).2.chunksCompleted = List.replicate f.numberOfChunks.toNat 0 ∧
      (f.beginFileProcessing env).2.chunksCompletedCount = 0 ∧
      (f.beginFileProcessing env).2.numberOfChunks = f.numberOfChunks := by
  rw [beginFileProcessing_cases] at h ⊢
  split at h
  · rename_i happroved
    rw [if_pos happroved]
    exact ⟨rfl, rfl, rfl⟩
  · cases h

/-- A file that could be begun has a full table. -/
theorem beginFileProcessing_tableFull {env : Environment}
    (h : (f.beginFileProcessing env).1 = true) : (f.beginFileProcessing env).2.TableFull := by
  obtain ⟨htable, -, hnumber⟩ := beginFileProcessing_table h
  rw [TableFull, htable, hnumber, List.length_replicate]

/-- A file that could not be begun is left as it was. -/
theorem beginFileProcessing_unchanged {env : Environment}
    (h : (f.beginFileProcessing env).1 = false) : (f.beginFileProcessing env).2 = f := by
  rw [beginFileProcessing_cases] at h ⊢
  split at h
  · cases h
  · rename_i happroved
    rw [if_neg happroved]

/-- Ending a file, where it returns, leaves all but the flag. -/
theorem endFileProcessing_some (h : f.endFileProcessing = some g) : g = f.setActive false := by
  rw [endFileProcessing_eq] at h
  split at h
  · cases h
  · exact (Option.some.inj h).symm

/-- Looking whether a file is complete at most deactivates it. -/
theorem verifyCompletion_ok {result : ℤ} (h : f.verifyCompletion = .ok (some (result, g))) :
    g = f ∨ g = f.setActive false := by
  rcases verifyCompletion_cases h with rfl | ⟨-, hend⟩
  · exact Or.inl rfl
  · exact Or.inr (endFileProcessing_some hend)

/-! ## Setting a code -/

/-- The file after `set_chunk_status()` on a chunk it has. -/
def mark (i : ℕ) (c : ChunkCode) (f : UDTPFile) : UDTPFile :=
  { f with
    chunksCompleted := f.chunksCompleted.modify i (· ||| c.mask)
    chunksCompletedCount :=
      if c = .done then f.chunksCompletedCount + 1 else f.chunksCompletedCount }

/-- With a full table, the status of every chunk can be set. -/
theorem TableFull.setChunkStatus (h : f.TableFull) (hi : i < f.numberOfChunks.toNat) :
    f.setChunkStatus i c = .ok (f.mark i c) := by
  have hlt : i < f.chunksCompleted.length := by rwa [h]
  simp only [UDTPFile.setChunkStatus, mark, List.getElem?_eq_getElem hlt, List.modify_eq_set,
    Option.getD_some]

/-- Setting a status keeps the table full. -/
theorem TableFull.mark (h : f.TableFull) : (f.mark i c).TableFull := by
  simpa [TableFull, UDTPFile.mark] using h

/-- Setting a status adds it to one chunk and to no other. -/
theorem TableFull.hasStatus_mark (h : f.TableFull) {j : ℕ} (hj : j < f.numberOfChunks.toNat)
    (d : ChunkCode) : (f.mark i c).hasStatus j d = (f.hasStatus j d || decide (j = i ∧ d = c)) := by
  have hlt : j < f.chunksCompleted.length := by rwa [h]
  simp only [hasStatus, UDTPFile.mark, List.getD_eq_getElem?_getD, List.getElem?_modify,
    List.getElem?_eq_getElem hlt]
  by_cases hij : i = j
  · simp [hij]
  · simp [hij, Ne.symm hij]

/-! ## Setting the empty chunks to whine -/

/-- With a full table, marking one chunk marks its entry. -/
theorem TableFull.setEmptyChunkToWhine (h : f.TableFull) (hi : i < f.numberOfChunks.toNat) :
    f.setEmptyChunkToWhine i =
      .ok (f.setTable (f.chunksCompleted.modify i ChunkCode.whineIfEmpty)) := by
  have hlt : i < f.chunksCompleted.length := by rwa [h]
  have hmodify : f.chunksCompleted.modify i ChunkCode.whineIfEmpty =
      f.chunksCompleted.set i (ChunkCode.whineIfEmpty f.chunksCompleted[i]) := by
    rw [List.modify_eq_set, List.getElem?_eq_getElem hlt, Option.getD_some]
  rw [UDTPFile.setEmptyChunkToWhine, h.getChunkStatus hi, h.getChunkStatus hi, hasStatus_of_lt hlt,
    hasStatus_of_lt hlt, hmodify]
  unfold ChunkCode.whineIfEmpty
  cases hdone : ChunkCode.done.isIn f.chunksCompleted[i] with
  | true => simp [setTable_self]
  | false =>
    cases hwhine : ChunkCode.whine.isIn f.chunksCompleted[i] with
    | true => simp [setTable_self]
    | false => simp [UDTPFile.setChunkStatus, setTable, List.getElem?_eq_getElem hlt]

/-- The table after the first rounds of the loop. -/
theorem TableFull.run_setEmptyChunkToWhine (h : f.TableFull) (k : ℕ)
    (hk : k ≤ f.numberOfChunks.toNat) :
    run UDTPFile.setEmptyChunkToWhine f (List.range k) =
      .ok (f.setTable (f.chunksCompleted.mapIdx fun i status =>
        if i < k then ChunkCode.whineIfEmpty status else status)) := by
  induction k with
  | zero =>
    have hsame : (f.chunksCompleted.mapIdx fun i status =>
        if i < 0 then ChunkCode.whineIfEmpty status else status) = f.chunksCompleted := by
      apply List.ext_getElem <;> simp
    rw [hsame]
    rfl
  | succ k ih =>
    rw [List.range_succ, run_snoc_ok]
    refine ⟨_, ih (by omega), ?_⟩
    have hfull : TableFull (f.setTable (f.chunksCompleted.mapIdx fun i status =>
        if i < k then ChunkCode.whineIfEmpty status else status)) := by
      simpa [TableFull, setTable] using h
    rw [hfull.setEmptyChunkToWhine hk, setTable_setTable, setTable_chunksCompleted]
    congr 2
    apply List.ext_getElem
    · simp
    · intro i h₁ h₂
      simp only [List.getElem_modify, List.getElem_mapIdx]
      by_cases hik : k = i
      · simp [hik]
      · have : i < k + 1 ↔ i < k := by omega
        simp [hik, this]

/-- Marking all entries keeps the table full. -/
theorem TableFull.setTable_whineIfEmpty (h : f.TableFull) :
    (f.setTable (f.chunksCompleted.map ChunkCode.whineIfEmpty)).TableFull := by
  simpa [TableFull, setTable] using h

/-- Marking all entries adds a whine to exactly the chunks that are not done. -/
theorem TableFull.hasStatus_whineIfEmpty (h : f.TableFull) (hi : i < f.numberOfChunks.toNat)
    (c : ChunkCode) :
    (f.setTable (f.chunksCompleted.map ChunkCode.whineIfEmpty)).hasStatus i c =
      (f.hasStatus i c || (decide (c = .whine) && !f.hasStatus i .done)) := by
  have hlt : i < f.chunksCompleted.length := by rwa [h]
  simp only [hasStatus, setTable_chunksCompleted, List.getD_eq_getElem?_getD, List.getElem?_map,
    List.getElem?_eq_getElem hlt, Option.map_some, Option.getD_some, ChunkCode.whineIfEmpty]
  cases hdone : ChunkCode.done.isIn f.chunksCompleted[i] with
  | true => simp
  | false =>
    cases hwhine : ChunkCode.whine.isIn f.chunksCompleted[i] with
    | true =>
      by_cases hc : c = .whine
      · simp [hc, hwhine]
      · simp [hc]
    | false => simp

/-- With a full table, the loop marks all entries and returns `-1`. -/
theorem TableFull.setAllEmptyChunksToWhine (h : f.TableFull) :
    f.setAllEmptyChunksToWhine =
      .ok (-1, f.setTable (f.chunksCompleted.map ChunkCode.whineIfEmpty)) := by
  rw [UDTPFile.setAllEmptyChunksToWhine, h.run_setEmptyChunkToWhine _ le_rfl, Except.map]
  congr 3
  apply List.ext_getElem
  · simp
  · intro i h₁ h₂
    have hlt : i < f.numberOfChunks.toNat := by
      rw [← h]
      simpa using h₁
    simp [hlt]

/-! ## Looking for a chunk -/

/-- The chunks that are not done. -/
def missing (f : UDTPFile) : List ℕ :=
  (List.range f.numberOfChunks.toNat).filter fun i => !f.hasStatus i .done

/-- With a full table, the search finds the first chunk that is not done. -/
theorem TableFull.findNotDone (h : f.TableFull) (is : List ℕ)
    (his : ∀ i ∈ is, i < f.numberOfChunks.toNat) :
    f.findNotDone is = .ok (is.find? fun i => !f.hasStatus i .done) := by
  induction is with
  | nil => rfl
  | cons i is ih =>
    have htail := ih fun j hj => his j (by simp [hj])
    rw [UDTPFile.findNotDone, h.getChunkStatus (his i (by simp)), List.find?_cons]
    cases hdone : f.hasStatus i .done with
    | true => simpa using htail
    | false => simp

/-- With a full table, the search finds the first chunk that whines and is not done. -/
theorem TableFull.findWhine (h : f.TableFull) (is : List ℕ)
    (his : ∀ i ∈ is, i < f.numberOfChunks.toNat) :
    f.findWhine is = .ok (is.find? fun i => f.hasStatus i .whine && !f.hasStatus i .done) := by
  induction is with
  | nil => rfl
  | cons i is ih =>
    have htail := ih fun j hj => his j (by simp [hj])
    have hi := his i (by simp)
    rw [UDTPFile.findWhine, h.getChunkStatus hi, h.getChunkStatus hi, List.find?_cons]
    cases hwhine : f.hasStatus i .whine with
    | false => simpa using htail
    | true =>
      cases hdone : f.hasStatus i .done with
      | true => simpa using htail
      | false => simp

/-- The missing chunks are those that are not done. -/
theorem mem_missing {i : ℕ} :
    i ∈ f.missing ↔ i < f.numberOfChunks.toNat ∧ f.hasStatus i .done = false := by
  simp [missing]

/-- The missing chunks are listed in order. -/
theorem missing_pairwise (f : UDTPFile) : f.missing.Pairwise (· < ·) :=
  List.Pairwise.filter _ List.pairwise_lt_range

/-- Marking a chunk as done takes it from the missing ones. -/
theorem TableFull.missing_mark (h : f.TableFull) (i : ℕ) :
    (f.mark i .done).missing = f.missing.filter (· ≠ i) := by
  rw [missing, missing, List.filter_filter]
  apply List.filter_congr
  intro j hj
  rw [h.hasStatus_mark (List.mem_range.mp hj)]
  simp [Bool.and_comm]

/-- With a full table, all chunks are done iff none is missing. -/
theorem TableFull.allDone_iff (h : f.TableFull) : f.AllDone ↔ f.missing = [] := by
  rw [List.eq_nil_iff_forall_not_mem]
  simp only [mem_missing, not_and, Bool.not_eq_false]
  constructor
  · intro hall i hi
    have hdone := hall i hi
    rwa [h.getChunkStatus hi, Except.ok.injEq] at hdone
  · intro hall i hi
    rw [h.getChunkStatus hi, hall i hi]

/-- The first missing chunk, and -1 where there is none. -/
def firstMissing (f : UDTPFile) : ℤ :=
  match f.missing with
  | [] => -1
  | i :: _ => i

/-- With a full table, a file without missing chunks is ended, and else the first missing one is
returned. -/
theorem TableFull.verifyCompletion (h : f.TableFull) :
    f.verifyCompletion = .ok (match f.missing with
      | [] => f.endFileProcessing.map fun g => (-1, g)
      | i :: _ => some (i, f)) := by
  have hfind := h.findNotDone (List.range f.numberOfChunks.toNat) fun i hi => List.mem_range.mp hi
  rw [← List.head?_filter] at hfind
  rw [UDTPFile.verifyCompletion, hfind, ← missing]
  cases f.missing with
  | nil => rfl
  | cons i rest => rfl

/-- With a full table, the search for a chunk that whines succeeds. -/
theorem TableFull.getChunksWhine_ok (h : f.TableFull) :
    ∃ result, f.getChunksWhine = .ok result := by
  have hfind := h.findWhine (List.range f.numberOfChunks.toNat) fun i hi => List.mem_range.mp hi
  rw [UDTPFile.getChunksWhine, hfind]
  split
  · simp_all
  · exact ⟨_, rfl⟩
  · exact ⟨_, rfl⟩

/-- Where every missing chunk is to whine, the first such chunk is the first missing one. -/
theorem TableFull.getChunksWhine (h : f.TableFull)
    (hwhine : ∀ i ∈ f.missing, f.hasStatus i .whine = true) :
    f.getChunksWhine = .ok f.firstMissing := by
  have hfind := h.findWhine (List.range f.numberOfChunks.toNat) fun i hi => List.mem_range.mp hi
  have hsame : (List.range f.numberOfChunks.toNat).filter
      (fun i => f.hasStatus i .whine && !f.hasStatus i .done) = f.missing := by
    apply List.filter_congr
    intro i hi
    cases hdone : f.hasStatus i .done with
    | true => simp
    | false => simp [hwhine i (mem_missing.mpr ⟨List.mem_range.mp hi, hdone⟩)]
  rw [← List.head?_filter, hsame] at hfind
  rw [UDTPFile.getChunksWhine, hfind, firstMissing]
  cases f.missing with
  | nil => rfl
  | cons i rest => rfl

/-! ## The table of a file that was never begun -/

variable (hempty : f.chunksCompleted = []) (hchunks : f.numberOfChunks.toNat ≠ 0)
include hempty hchunks

/-- Without a table, the loops begin with a chunk whose status cannot be read. -/
theorem range_numberOfChunks :
    ∃ rest, List.range f.numberOfChunks.toNat = 0 :: rest ∧
      ∀ c, f.getChunkStatus 0 c = .error .indexOutOfRange := by
  obtain ⟨n, hn⟩ := Nat.exists_eq_succ_of_ne_zero hchunks
  refine ⟨(List.range n).map Nat.succ, by rw [hn, List.range_succ_eq_map], ?_⟩
  intro c
  rw [getChunkStatus_error]
  simp [hempty]

/-- Without a table, marking the chunks reads past its end. -/
theorem setAllEmptyChunksToWhine_of_empty :
    f.setAllEmptyChunksToWhine = .error .indexOutOfRange := by
  obtain ⟨rest, hrange, hstatus⟩ := range_numberOfChunks hempty hchunks
  rw [setAllEmptyChunksToWhine, hrange, run, setEmptyChunkToWhine, hstatus]
  rfl

/-- Without a table, looking whether the file is complete reads past its end. -/
theorem verifyCompletion_of_empty : f.verifyCompletion = .error .indexOutOfRange := by
  obtain ⟨rest, hrange, hstatus⟩ := range_numberOfChunks hempty hchunks
  rw [verifyCompletion, hrange, findNotDone, hstatus]

/-- Without a table, the search for a chunk that whines reads past its end. -/
theorem getChunksWhine_of_empty : f.getChunksWhine = .error .indexOutOfRange := by
  obtain ⟨rest, hrange, hstatus⟩ := range_numberOfChunks hempty hchunks
  rw [getChunksWhine, hrange, findWhine, hstatus]

end UDTPFile

end Udtp
