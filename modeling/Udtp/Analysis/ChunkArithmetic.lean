import Udtp.Computation.Pieces
import Udtp.Model.File

/-!
# How many chunks a file has

`retrieve_info_from_local_file()` takes the remainder of the number of whole chunks where it
means that of the length, and keeps the length in 16 bits.  So the numbers it records are right
iff the length fits and both remainders are zero or neither is (`chunksRecorded_iff`).  What was
recorded reaches the other side unchanged in any case.
-/

set_option autoImplicit false

namespace Udtp

namespace UDTPFile

/-- The length and the number of chunks of a local file are recorded, the chunks cover the file
with something in the last one, and the other side takes over both numbers. -/
def ChunksRecorded (fs : FileSystem) (f : UDTPFile) (length : ℕ) : Prop :=
  ∃ g, f.retrieveInfoFromLocalFile fs = .ok g ∧ g.sizeOfFile.toNat = length ∧
    IsLeast {n | length ≤ n * f.chunkSize.toNat} g.numberOfChunks.toNat ∧
    (0 < g.numberOfChunks.toNat →
      1 ≤ length - (g.numberOfChunks.toNat - 1) * f.chunkSize.toNat ∧
        length - (g.numberOfChunks.toNat - 1) * f.chunkSize.toNat ≤ f.chunkSize.toNat) ∧
    ∀ (h : UDTPHeader) (other : UDTPFile),
      (other.unpackFromHeader (g.packToHeader h)).sizeOfFile = g.sizeOfFile ∧
        (other.unpackFromHeader (g.packToHeader h)).numberOfChunks = g.numberOfChunks

variable {fs : FileSystem} {f : UDTPFile} {length : ℕ}

/-- At the end of a file `tellg()` is its length. -/
theorem tellg_of_length {path : String} (h : fs path = some length) :
    fs.tellg path = (length : ℤ) := by
  simp only [FileSystem.tellg, h]

/-- Narrowing to sixteen bits takes the remainder. -/
theorem toNat_ofInt_natCast (n : ℕ) : (UInt16.ofInt n).toNat = n % 65536 := by
  simp only [UInt16.ofInt, UInt16.toNat_ofNat']
  omega

/-- The number the source computes; nothing wraps around. -/
theorem retrieveNumberOfChunks_toNat (size : UInt16) (c : UInt32) :
    (retrieveNumberOfChunks size c).toNat = size.toNat / c.toNat +
      if size.toNat / c.toNat % c.toNat = 0 then 0 else 1 := by
  have hsize := size.toNat_lt
  have hlt : size.toNat / c.toNat < 2 ^ 16 := Nat.lt_of_le_of_lt (Nat.div_le_self _ _) hsize
  have hchunks : (size.toUInt32 / c).toUInt16.toNat = size.toNat / c.toNat := by
    rw [UInt32.toNat_toUInt16, UInt32.toNat_div, UInt16.toNat_toUInt32, Nat.mod_eq_of_lt hlt]
  have hrest : (size.toUInt32 / c).toUInt16.toUInt32 % c > 0 ↔
      ¬ size.toNat / c.toNat % c.toNat = 0 := by
    rw [gt_iff_lt, UInt32.lt_iff_toNat_lt, UInt32.toNat_mod, UInt16.toNat_toUInt32, hchunks,
      UInt32.toNat_zero]
    omega
  unfold retrieveNumberOfChunks
  dsimp only
  by_cases hzero : size.toNat / c.toNat % c.toNat = 0
  · rw [if_neg fun hgt => hrest.mp hgt hzero, if_pos hzero, hchunks, add_zero]
  · -- a remainder of the quotient means chunks of two bytes or more
    have hc : 2 ≤ c.toNat := by
      by_contra hlt
      have hcases : c.toNat = 0 ∨ c.toNat = 1 := by omega
      rcases hcases with hc | hc
      · simp [hc] at hzero
      · simp [hc, Nat.mod_one] at hzero
    have hhalf : size.toNat / c.toNat ≤ size.toNat / 2 := Nat.div_le_div_left hc (by omega)
    rw [if_pos (hrest.mpr hzero), if_neg hzero, UInt16.toNat_add, hchunks, UInt16.toNat_one]
    apply Nat.mod_eq_of_lt
    omega

/-- **When the chunks are recorded.** For every file of any length and every chunk size that is
not zero, iff the length is below 2^16 and the chunk size divides the length where it
divides the number of whole chunks, and only there. -/
theorem chunksRecorded_iff (hfile : fs f.path = some length) (hc : 0 < f.chunkSize) :
    ChunksRecorded fs f length ↔ length < 2 ^ 16 ∧
      (f.chunkSize.toNat ∣ length ↔ f.chunkSize.toNat ∣ length / f.chunkSize.toNat) := by
  have hpos : 0 < f.chunkSize.toNat := hc
  have hsize := toNat_ofInt_natCast length
  have hnumber := retrieveNumberOfChunks_toNat (UInt16.ofInt length) f.chunkSize
  have hsize32 : (UInt16.ofInt length).toUInt32.toNat = length % 65536 := by
    rw [UInt16.toNat_toUInt32, hsize]
  rw [hsize] at hnumber
  have hretrieve : f.retrieveInfoFromLocalFile fs = .ok { f with
      sizeOfFile := (UInt16.ofInt length).toUInt32
      numberOfChunks := retrieveNumberOfChunks (UInt16.ofInt length) f.chunkSize } := by
    have hne : f.chunkSize ≠ 0 := by
      rintro hzero
      simp [hzero] at hpos
    simp only [retrieveInfoFromLocalFile, tellg_of_length hfile, if_neg hne]
  -- both numbers are quotient and remainder, and differ only in what the remainder is taken of
  have hleast : length < 2 ^ 16 →
      (IsLeast {n | length ≤ n * f.chunkSize.toNat}
        (retrieveNumberOfChunks (UInt16.ofInt length) f.chunkSize).toNat ↔
          (f.chunkSize.toNat ∣ length ↔ f.chunkSize.toNat ∣ length / f.chunkSize.toNat)) := by
    intro hsmall
    rw [show length % 65536 = length from Nat.mod_eq_of_lt hsmall] at hnumber
    rw [Pieces.isLeast_iff hpos, hnumber, pieces, Nat.dvd_iff_mod_eq_zero, Nat.dvd_iff_mod_eq_zero]
    by_cases hquotient : length / f.chunkSize.toNat % f.chunkSize.toNat = 0
    · by_cases hrest : length % f.chunkSize.toNat = 0 <;> simp [hquotient, hrest]
    · by_cases hrest : length % f.chunkSize.toNat = 0 <;> simp [hquotient, hrest]
  constructor
  · rintro ⟨g, hg, hgsize, hgleast, -⟩
    rw [hretrieve] at hg
    cases hg
    have hsmall : length < 2 ^ 16 := by
      have := hsize32.symm.trans hgsize
      omega
    exact ⟨hsmall, (hleast hsmall).mp hgleast⟩
  · rintro ⟨hsmall, hdvd⟩
    have hisLeast := (hleast hsmall).mpr hdvd
    refine ⟨_, hretrieve, ?_, hisLeast, ?_, fun h other => ⟨rfl, rfl⟩⟩
    · exact hsize32.trans (Nat.mod_eq_of_lt hsmall)
    · intro hn
      rw [(Pieces.isLeast_iff hpos).mp hisLeast] at hn ⊢
      exact Pieces.last_piece hpos hn

/-- A file with chunks of so many bytes. -/
def chunkedFile (chunkSize : UInt32) : UDTPFile :=
  { (default : UDTPFile) with chunkSize := chunkSize }

/-- A file of 421 bytes in chunks of 420 meets the condition. -/
theorem chunksRecorded_iff_chunkedFile :
    ChunksRecorded (fun _ => some 421) (chunkedFile 420) 421 ↔ 421 < 2 ^ 16 ∧
      ((chunkedFile 420).chunkSize.toNat ∣ 421 ↔
        (chunkedFile 420).chunkSize.toNat ∣ 421 / (chunkedFile 420).chunkSize.toNat) :=
  chunksRecorded_iff rfl (by decide)

/-- A file shorter than a chunk gets no chunk, and a length of 2^16 is recorded as zero. -/
theorem not_chunksRecorded_chunkedFile :
    ¬ ChunksRecorded (fun _ => some 100) (chunkedFile 420) 100 ∧
      ¬ ChunksRecorded (fun _ => some 65536) (chunkedFile 420) 65536 := by
  constructor
  · rintro ⟨g, hg, -, hleast, -⟩
    cases hg
    exact absurd hleast.1 (by decide)
  · rintro ⟨g, hg, hsize, -⟩
    cases hg
    exact absurd hsize (by decide)

end UDTPFile

end Udtp
