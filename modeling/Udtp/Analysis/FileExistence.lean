import Udtp.Model.Requests

/-!
# Whether a file exists

`check_file_exist()` narrows the position at the end of the stream to 32 bits and tests it for
being zero.  The -1 of a stream that could not be opened passes this test, and a length that is
a multiple of 2^32 does not.  So the four decisions that rest on it are right iff there is a
file, of such a length that the test sees it (`decidesByFile_iff`).
-/

set_option autoImplicit false

namespace Udtp

/-- A file that is not empty exists at a path. -/
def FileSystem.NonEmptyAt (fs : FileSystem) (path : String) : Prop :=
  ∃ length, fs path = some length ∧ 0 < length

namespace UDTP

/-- The endpoint has completed its handshake. -/
def Ready (u : UDTP) : Prop := ∃ self, u.getPeer 0 = some self ∧ self.checkInitProcess .complete

/-- The answers to requests for a path, and the results of the commands on it, follow whether a
file that is not empty exists there. -/
structure DecidesByFile (env : Environment) (path : String) : Prop where
  push : ∀ (u : UDTP) (h : UDTPHeader), h.pathOfFile = path → h.transferType = .push →
    h.responseCode = .responseNone →
    ((∃ r, h.respond env u = .ok r ∧ r.2.1.responseCode = .responseFileExistsAlready) ↔
      env.fileSystem.NonEmptyAt path)
  pull : ∀ (u : UDTP) (h : UDTPHeader), h.pathOfFile = path → h.transferType = .pull →
    h.responseCode = .responseNone →
    ((∃ r, h.respond env u = .ok r ∧ r.2.1.responseCode = .responseApproved) ↔
      env.fileSystem.NonEmptyAt path)
  getFile : ∀ (u : UDTP) (memory : UDTPHeader), u.Ready →
    ((∃ r, u.getFile env memory path = .ok r ∧ r.1 = some .fileAlreadyExist) ↔
      env.fileSystem.NonEmptyAt path)
  sendFile : ∀ (u : UDTP) (memory : UDTPHeader), u.Ready →
    ((¬ ∃ r, u.sendFile env memory path = .ok r ∧ r.1 = some .fileNotExist) ↔
      env.fileSystem.NonEmptyAt path)

/-- The result of `check_file_exist()` on a new file object. -/
def seesFile (env : Environment) (path : String) : Bool :=
  (UDTPFile.new env.fileMemory path).checkFileExist env.fileSystem

variable {env : Environment} {path : String} {u : UDTP}

/-! ## What the test sees -/

/-- A length narrows to `0` iff it is a multiple of `2 ^ 32`. -/
theorem ofInt_natCast_eq_zero (n : ℕ) : UInt32.ofInt n = 0 ↔ 2 ^ 32 ∣ n := by
  rw [← UInt32.toNat_inj, UInt32.ofInt, UInt32.toNat_ofNat', UInt32.toNat_zero]
  omega

/-- The test fails on a file whose length it takes for zero, and nowhere else. -/
theorem seesFile_iff (env : Environment) (path : String) :
    seesFile env path = true ↔ ∀ length, env.fileSystem path = some length → ¬ 2 ^ 32 ∣ length := by
  have hpath : (UDTPFile.new env.fileMemory path).path = path := rfl
  rw [seesFile, UDTPFile.checkFileExist, hpath, FileSystem.tellg]
  cases hfile : env.fileSystem path with
  | none => simp
  | some length => simp [ofInt_natCast_eq_zero]

/-! ## The four decisions -/

section Requests

variable {h : UDTPHeader} (hpath : h.pathOfFile = path)
include hpath

/-- A request to push is refused as one for a file that exists iff the HOST sees the file. -/
theorem respond_push_iff (ht : h.transferType = .push) (hc : h.responseCode = .responseNone) :
    (∃ r, h.respond env u = .ok r ∧ r.2.1.responseCode = .responseFileExistsAlready) ↔
      seesFile env path = true := by
  have hsees : (h.newFile env).checkFileExist env.fileSystem = seesFile env path := by
    rw [UDTPHeader.newFile, hpath, seesFile]
  cases hsee : seesFile env path with
  | true =>
    have hnone : h.takenFile env = none := by simp [UDTPHeader.takenFile, ht, hc, hsees, hsee]
    rw [UDTPHeader.respond_of_mapped u (by simp [hnone])]
    simp [UDTPHeader.negotiate, ht, hc, hsees, hsee, UDTPHeader.setResponseCode]
  | false =>
    refine iff_of_false ?_ Bool.false_ne_true
    rintro ⟨r, hr, hcode⟩
    replace hr := UDTPHeader.negotiate_of_respond hr
    simp only [UDTPHeader.negotiate, ht, hc, hsees, hsee, Bool.false_eq_true, if_false,
      Except.ok.injEq] at hr
    rw [← hr] at hcode
    simp [UDTPHeader.setResponseCode] at hcode

/-- An approval also needs the number of chunks, which divides by what the memory holds. -/
theorem respond_pull_iff (ht : h.transferType = .pull) (hc : h.responseCode = .responseNone) :
    (∃ r, h.respond env u = .ok r ∧ r.2.1.responseCode = .responseApproved) ↔
      seesFile env path = true ∧ env.fileMemory.chunkSize ≠ 0 := by
  have hsees : (h.newFile env).checkFileExist env.fileSystem = seesFile env path := by
    rw [UDTPHeader.newFile, hpath, seesFile]
  have hchunk : (h.newFile env).chunkSize = env.fileMemory.chunkSize := rfl
  have hnone : h.takenFile env = none := by simp [UDTPHeader.takenFile, ht, hc]
  rw [UDTPHeader.respond_of_mapped u (by simp [hnone])]
  simp only [UDTPHeader.negotiate, ht, hc, hsees]
  cases seesFile env path with
  | false => simp [UDTPHeader.setResponseCode]
  | true =>
    by_cases hzero : env.fileMemory.chunkSize = 0
    · simp [UDTPFile.retrieveInfoFromLocalFile, hchunk, hzero]
    · simp [UDTPFile.retrieveInfoFromLocalFile, hchunk, hzero, UDTPHeader.setResponseCode]

end Requests

/-- A request for a file is refused as one for a file that exists iff the endpoint sees the file. -/
theorem getFile_iff (hu : u.Ready) (memory : UDTPHeader) :
    (∃ r, u.getFile env memory path = .ok r ∧ r.1 = some .fileAlreadyExist) ↔
      seesFile env path = true := by
  obtain ⟨self, hself, hready⟩ := hu
  unfold seesFile
  simp only [getFile, hself, hready]
  cases (UDTPFile.new env.fileMemory path).checkFileExist env.fileSystem with
  | true => simp
  | false => simp

/-- A request to send a file is refused as one for a missing file iff the endpoint sees none. -/
theorem sendFile_iff (hu : u.Ready) (memory : UDTPHeader) :
    (∃ r, u.sendFile env memory path = .ok r ∧ r.1 = some .fileNotExist) ↔
      ¬ seesFile env path = true := by
  obtain ⟨self, hself, hready⟩ := hu
  unfold seesFile
  simp only [sendFile, hself, hready]
  cases (UDTPFile.new env.fileMemory path).checkFileExist env.fileSystem with
  | false => simp
  | true =>
    simp only [Bool.not_true, Bool.false_eq_true, if_false, not_true_eq_false, iff_false]
    split
    · simp
    · simp

/-- **When the decisions follow the files.** For every local file system and every path, iff a
file exists there that is empty, or of a length that is no multiple of 2^32 while the memory of
a new file object does not hold zero for the chunk size. -/
theorem decidesByFile_iff (env : Environment) (path : String) :
    DecidesByFile env path ↔ ∃ length, env.fileSystem path = some length ∧
      (length = 0 ∨ (¬ 2 ^ 32 ∣ length ∧ env.fileMemory.chunkSize ≠ 0)) := by
  have hsees := seesFile_iff env path
  constructor
  · intro hdecides
    have hpush := hdecides.push default
      { (default : UDTPHeader) with
        pathOfFile := path, transferType := .push, responseCode := .responseNone } rfl rfl rfl
    have hpull := hdecides.pull default
      { (default : UDTPHeader) with
        pathOfFile := path, transferType := .pull, responseCode := .responseNone } rfl rfl rfl
    rw [respond_push_iff rfl rfl rfl] at hpush
    rw [respond_pull_iff rfl rfl rfl] at hpull
    cases hfile : env.fileSystem path with
    | none =>
      -- the test takes the path for a file that exists
      obtain ⟨length, hlength, -⟩ := hpush.mp (hsees.mpr (by simp [hfile]))
      rw [hfile] at hlength
      cases hlength
    | some length =>
      refine ⟨length, rfl, ?_⟩
      by_cases hzero : length = 0
      · exact Or.inl hzero
      · have hnonEmpty : env.fileSystem.NonEmptyAt path :=
          ⟨length, hfile, Nat.pos_of_ne_zero hzero⟩
        exact Or.inr ⟨hsees.mp (hpush.mpr hnonEmpty) length hfile, (hpull.mpr hnonEmpty).2⟩
  · rintro ⟨length, hfile, hlength⟩
    have hseen : seesFile env path = true ↔ env.fileSystem.NonEmptyAt path := by
      rw [hsees]
      simp only [FileSystem.NonEmptyAt, hfile, Option.some.injEq, forall_eq', exists_eq_left']
      rcases hlength with rfl | ⟨hdvd, -⟩
      · simp
      · simp only [hdvd, not_false_eq_true, true_iff]
        apply Nat.pos_of_ne_zero
        rintro rfl
        simp at hdvd
    have hchunk : env.fileSystem.NonEmptyAt path → env.fileMemory.chunkSize ≠ 0 := by
      rintro ⟨n, hn, hpos⟩
      rw [hfile] at hn
      cases hn
      rcases hlength with rfl | ⟨-, hchunk⟩
      · omega
      · exact hchunk
    refine ⟨?_, ?_, ?_, ?_⟩
    · intro u h hpath ht hc
      rw [respond_push_iff hpath ht hc, hseen]
    · intro u h hpath ht hc
      rw [respond_pull_iff hpath ht hc, hseen]
      exact ⟨And.left, fun hnonEmpty => ⟨hnonEmpty, hchunk hnonEmpty⟩⟩
    · intro u memory hu
      rw [getFile_iff hu, hseen]
    · intro u memory hu
      rw [sendFile_iff hu, not_not, hseen]

/-- An environment with no files. -/
def noFiles : Environment := { (default : Environment) with fileSystem := fun _ => none }

/-- A push to a path where nothing is there is answered with `ResponseFileExistsAlready`. -/
theorem not_decidesByFile_noFiles : ¬ DecidesByFile noFiles "new" := by
  intro h
  have hpush := h.push default
    { (default : UDTPHeader) with
      pathOfFile := "new", transferType := .push, responseCode := .responseNone } rfl rfl rfl
  obtain ⟨length, hlength, -⟩ := hpush.mp ⟨_, rfl, rfl⟩
  cases hlength

end UDTP

end Udtp
