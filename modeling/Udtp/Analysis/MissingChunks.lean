import Mathlib.Order.Bounds.Basic
import Udtp.Computation.WhileLoop
import Udtp.Analysis.StatusLoops

/-!
# The missing chunks of a file

Once every empty chunk of a file was set to whine, every chunk that is not done whines, and
marking chunks as done keeps it so (`Whining`).  Then `get_chunks_whine()` and
`verify_completion()` look for the same chunk, the first missing one, and marking what they
find goes through the missing chunks in order (`missingChunks`).
-/

set_option autoImplicit false

namespace Udtp

open StepMachine WhileLoop

/-- The updates of a table while a file is received. -/
inductive StatusUpdate
  | markDone (chunkID : ℕ)
  | setAllEmptyChunksToWhine

namespace StatusUpdate

/-- The chunk that is marked is one of so many. -/
def InRange (numberOfChunks : UInt16) : StatusUpdate → Prop
  | markDone chunkID => chunkID < numberOfChunks.toNat
  | setAllEmptyChunksToWhine => True

def apply (f : UDTPFile) : StatusUpdate → Except Fault UDTPFile
  | markDone chunkID => f.setChunkStatus chunkID .done
  | setAllEmptyChunksToWhine => f.setAllEmptyChunksToWhine.map Prod.snd

end StatusUpdate

namespace UDTPFile

/-- The chunks that are neither done nor whining in one file whine in the other, and nothing
else is different. -/
structure WhinesEmpty (f g : UDTPFile) : Prop where
  rest : g = f.setTable g.chunksCompleted
  length : g.chunksCompleted.length = f.chunksCompleted.length
  entries : ∀ (i : ℕ) (status : UInt8), f.chunksCompleted[i]? = some status →
    g.chunksCompleted[i]? = some
      (if status &&& ChunkCode.done.mask = 0 ∧ status &&& ChunkCode.whine.mask = 0
        then status ||| ChunkCode.whine.mask else status)

/-- The chunks of a file that are not done. -/
def Missing (f : UDTPFile) : Set ℕ :=
  {i | i < f.numberOfChunks.toNat ∧ f.getChunkStatus i .done = .ok false}

/-- Both searches return the smallest missing chunk, or -1 iff every chunk is done. -/
def FindsMissing (f : UDTPFile) : Prop :=
  ∃ result g, f.getChunksWhine = .ok result ∧ f.verifyCompletion = .ok (some (result, g)) ∧
    (∀ i : ℕ, result = i ↔ IsLeast f.Missing i) ∧ (result = -1 ↔ f.AllDone)

/-- Mark as done what `get_chunks_whine()` returns, until it returns -1.  The list holds the
chunks that were returned. -/
def markWhine (s : UDTPFile × List ℕ) : Option (Except Fault (UDTPFile × List ℕ)) :=
  match s.1.getChunksWhine with
  | .error fault => some (.error fault)
  | .ok result =>
    if result = -1 then none
    else some ((s.1.setChunkStatus result.toNat .done).map fun f => (f, s.2 ++ [result.toNat]))

/-- The loop goes through the missing chunks in order, and takes one round for each. -/
def MarksMissing (f : UDTPFile) : Prop :=
  ∃ g visited, visited.Pairwise (· < ·) ∧ (∀ i, i ∈ visited ↔ i ∈ f.Missing) ∧
    (∀ rounds ≤ visited.length, whileLoop markWhine rounds (f, []) = .ok none) ∧
    whileLoop markWhine (visited.length + 1) (f, []) = .ok (some (g, visited)) ∧ g.AllDone

/-- Every chunk that is not done is to whine. -/
structure Whining (f : UDTPFile) : Prop where
  full : f.TableFull
  noThreads : f.fileThreads = []
  whine : ∀ i ∈ f.missing, f.hasStatus i .whine = true

variable {f g : UDTPFile} {i : ℕ}

/-- With a full table, the list of missing chunks is the set of chunks that are not done. -/
theorem TableFull.mem_missing_iff (h : f.TableFull) : i ∈ f.missing ↔ i ∈ f.Missing := by
  rw [mem_missing]
  constructor
  · rintro ⟨hi, hdone⟩
    exact ⟨hi, by rw [h.getChunkStatus hi, hdone]⟩
  · rintro ⟨hi, hdone⟩
    rw [h.getChunkStatus hi, Except.ok.injEq] at hdone
    exact ⟨hi, hdone⟩

/-- Marking the entries that are empty marks exactly the empty chunks. -/
theorem whinesEmpty_whineIfEmpty (f : UDTPFile) :
    WhinesEmpty f (f.setTable (f.chunksCompleted.map ChunkCode.whineIfEmpty)) where
  rest := rfl
  length := by simp
  entries := by
    intro i status hstatus
    simp only [setTable_chunksCompleted, List.getElem?_map, hstatus, Option.map_some,
      ChunkCode.whineIfEmpty, ChunkCode.isIn]
    by_cases hdone : status &&& ChunkCode.done.mask = 0 <;> simp [hdone]

/-! ## Whining is kept -/

/-- After the marking, every chunk of a full table that is not done is to whine. -/
theorem TableFull.whining (h : f.TableFull) (hthreads : f.fileThreads = []) :
    (f.setTable (f.chunksCompleted.map ChunkCode.whineIfEmpty)).Whining where
  full := h.setTable_whineIfEmpty
  noThreads := hthreads
  whine := by
    intro i hi
    obtain ⟨hlt, hdone⟩ := mem_missing.mp hi
    have hlt : i < f.numberOfChunks.toNat := hlt
    rw [h.hasStatus_whineIfEmpty hlt] at hdone ⊢
    simp_all

/-- Marking a chunk as done leaves the others to whine. -/
theorem Whining.mark (h : f.Whining) (i : ℕ) : (f.mark i .done).Whining where
  full := h.full.mark
  noThreads := h.noThreads
  whine := by
    intro j hj
    rw [h.full.missing_mark, List.mem_filter] at hj
    rw [h.full.hasStatus_mark (mem_missing.mp hj.1).1, h.whine j hj.1]
    rfl

/-- An update inside the table succeeds and leaves the missing chunks to whine. -/
theorem Whining.apply (h : f.Whining) {u : StatusUpdate} (hu : u.InRange f.numberOfChunks) :
    ∃ g, u.apply f = .ok g ∧ g.numberOfChunks = f.numberOfChunks ∧ g.Whining := by
  cases u with
  | markDone chunkID => exact ⟨_, h.full.setChunkStatus hu, rfl, h.mark chunkID⟩
  | setAllEmptyChunksToWhine =>
    refine ⟨f.setTable (f.chunksCompleted.map ChunkCode.whineIfEmpty), ?_, rfl,
      h.full.whining h.noThreads⟩
    rw [StatusUpdate.apply, h.full.setAllEmptyChunksToWhine]
    rfl

/-! ## What the searches find -/

/-- The answer is `-1` iff no chunk is missing. -/
theorem firstMissing_eq_neg_one : f.firstMissing = -1 ↔ f.missing = [] := by
  unfold firstMissing
  split
  · simp [*]
  · simp [*]

/-- The answer is a chunk iff it is the first that is missing. -/
theorem TableFull.firstMissing_eq_iff (h : f.TableFull) (i : ℕ) :
    f.firstMissing = i ↔ IsLeast f.Missing i := by
  have hmem (j : ℕ) : j ∈ f.missing ↔ j ∈ f.Missing := h.mem_missing_iff
  have hsorted := missing_pairwise f
  unfold firstMissing
  split
  · rename_i hnone
    constructor
    · intro hi
      omega
    · rintro ⟨hi, -⟩
      simp [← hmem, hnone] at hi
  · rename_i j rest hsome
    rw [hsome, List.pairwise_cons] at hsorted
    have hleast : IsLeast f.Missing j := by
      constructor
      · simp [← hmem, hsome]
      · intro k hk
        rw [← hmem, hsome, List.mem_cons] at hk
        rcases hk with rfl | hk
        · exact le_rfl
        · exact (hsorted.1 k hk).le
    constructor
    · intro hji
      rwa [← Int.ofNat.inj hji]
    · intro hi
      rw [hi.unique hleast]

/-- Where the missing chunks are to whine, both searches find the first of them. -/
theorem Whining.findsMissing (h : f.Whining) : FindsMissing f := by
  have hend := endFileProcessing_of_noThreads h.noThreads
  have hverify := h.full.verifyCompletion
  have hwhine := h.full.getChunksWhine h.whine
  have hall : f.firstMissing = -1 ↔ f.AllDone := by
    rw [firstMissing_eq_neg_one, h.full.allDone_iff]
  cases hmissing : f.missing with
  | nil =>
    have hfirst : f.firstMissing = -1 := firstMissing_eq_neg_one.mpr hmissing
    refine ⟨f.firstMissing, f.setActive false, hwhine, ?_, h.full.firstMissing_eq_iff, hall⟩
    rw [hverify, hmissing, hend, hfirst]
    rfl
  | cons i rest =>
    refine ⟨f.firstMissing, f, hwhine, ?_, h.full.firstMissing_eq_iff, hall⟩
    rw [hverify, firstMissing, hmissing]

/-! ## Marking what is found -/

/-- One round takes the first missing chunk from the missing ones. -/
theorem Whining.markWhine (h : f.Whining) (visited : List ℕ) {rest : List ℕ}
    (hmissing : f.missing = i :: rest) :
    UDTPFile.markWhine (f, visited) = some (.ok (f.mark i .done, visited ++ [i])) ∧
      (f.mark i .done).missing = rest := by
  have hi : i < f.numberOfChunks.toNat := (mem_missing.mp (by simp [hmissing])).1
  have hsorted := missing_pairwise f
  rw [hmissing, List.pairwise_cons] at hsorted
  constructor
  · have hne : (i : ℤ) ≠ -1 := by omega
    simp only [UDTPFile.markWhine, h.full.getChunksWhine h.whine, firstMissing, hmissing, hne,
      if_false, Int.toNat_natCast, h.full.setChunkStatus hi, Except.map]
  · rw [h.full.missing_mark, hmissing, List.filter_cons_of_neg (by simp), List.filter_eq_self]
    intro j hj
    have := hsorted.1 j hj
    simp only [decide_eq_true_eq]
    omega

/-- Where the missing chunks are to whine, the loop goes through all of them. -/
theorem Whining.marksMissing (h : f.Whining) : MarksMissing f := by
  -- the invariant: what was visited and what is missing are the missing chunks of the beginning
  have hloop := whileLoop_of_measure UDTPFile.markWhine (f, [])
    (fun s => s.1.Whining ∧ s.2 ++ s.1.missing = f.missing) (fun s => s.1.missing.length)
    ?next ?exit ⟨h, by simp⟩
  case next =>
    rintro ⟨k, visited⟩ ⟨hk, hsplit⟩ hlength
    cases hmissing : k.missing with
    | nil => simp [hmissing] at hlength
    | cons i rest =>
      obtain ⟨hround, hrest⟩ := hk.markWhine visited hmissing
      refine ⟨_, hround, ⟨hk.mark i, ?_⟩, ?_⟩
      · simp [hrest, ← hsplit, hmissing]
      · simp [hrest]
  case exit =>
    rintro ⟨k, visited⟩ ⟨hk, -⟩ hlength
    have hfirst := firstMissing_eq_neg_one.mpr (List.length_eq_zero_iff.mp hlength)
    simp only [UDTPFile.markWhine, hk.full.getChunksWhine hk.whine, hfirst, if_true]
  obtain ⟨hshort, ⟨g, visited⟩, hlong, ⟨hg, hvisited⟩, hnone⟩ := hloop
  have hdone : g.missing = [] := List.length_eq_zero_iff.mp hnone
  have hall : visited = f.missing := by simpa [hdone] using hvisited
  subst hall
  exact ⟨g, f.missing, missing_pairwise f, fun i => h.full.mem_missing_iff, hshort, hlong,
    hg.full.allDone_iff.mpr hdone⟩

/-- **The bookkeeping of missing chunks.** On every full table of a file without threads, setting
the empty chunks to whine sets what it says and nothing else, again changes nothing, and after
any updates in range both searches find the smallest missing chunk, and marking what they find
goes through all of them. -/
theorem missingChunks (f : UDTPFile) (hfull : f.TableFull) (hthreads : f.fileThreads = []) :
    ∃ g, f.setAllEmptyChunksToWhine = .ok (-1, g) ∧ WhinesEmpty f g ∧
      g.setAllEmptyChunksToWhine = .ok (-1, g) ∧
      ∀ us : List StatusUpdate, (∀ u ∈ us, u.InRange f.numberOfChunks) →
        ∃ k, run StatusUpdate.apply g us = .ok k ∧ FindsMissing k ∧ MarksMissing k := by
  have hwhining := hfull.whining hthreads
  refine ⟨f.setTable (f.chunksCompleted.map ChunkCode.whineIfEmpty),
    hfull.setAllEmptyChunksToWhine, whinesEmpty_whineIfEmpty f, ?_, ?_⟩
  · rw [hwhining.full.setAllEmptyChunksToWhine, setTable_chunksCompleted, List.map_map,
      setTable_setTable]
    congr 4
    funext status
    exact ChunkCode.whineIfEmpty_idem status
  · intro us hus
    obtain ⟨k, hrun, -, hk⟩ : ∃ k, run StatusUpdate.apply
        (f.setTable (f.chunksCompleted.map ChunkCode.whineIfEmpty)) us = .ok k ∧
          k.numberOfChunks = f.numberOfChunks ∧ k.Whining := by
      apply run_total
      · rintro k u hu ⟨hnumber, hk⟩
        obtain ⟨k', happly, hnumber', hk'⟩ := hk.apply (hnumber ▸ hus u hu)
        exact ⟨k', happly, hnumber'.trans hnumber, hk'⟩
      · exact ⟨rfl, hwhining⟩
    exact ⟨k, hrun, hk.findsMissing, hk.marksMissing⟩

/-- Three chunks: an empty one, one that whines, and one that is done. -/
def threeChunks : UDTPFile :=
  { (default : UDTPFile) with numberOfChunks := 3, chunksCompleted := [0, 2, 4] }

/-- A file of three chunks is marked once, and its missing chunks are found after any updates. -/
theorem missingChunks_threeChunks :
    ∃ g, threeChunks.setAllEmptyChunksToWhine = .ok (-1, g) ∧ WhinesEmpty threeChunks g ∧
      g.setAllEmptyChunksToWhine = .ok (-1, g) ∧
      ∀ us : List StatusUpdate, (∀ u ∈ us, u.InRange 3) →
        ∃ k, run StatusUpdate.apply g us = .ok k ∧ FindsMissing k ∧ MarksMissing k :=
  missingChunks threeChunks rfl rfl

end UDTPFile

end Udtp
