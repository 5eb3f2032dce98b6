import Udtp.Computation.Lookup
import Udtp.Computation.StepMachine
import Udtp.Model.Header

/-!
# The search for a file

An endpoint lists every file it takes, and each record lists the files that were started for
its peer.  `Listed` is the invariant between the lists: files are numbered in the order they
were taken, both kinds of lists are only appended to, and what a record lists the endpoint
lists too.  `searchFileByID_exact` derives what a search finds after any sequence of header
messages, whichever records came and went meanwhile.
-/

set_option autoImplicit false

namespace Udtp

open StepMachine Lookup

/-- What happens to the files and the records of an endpoint: a header message is handled for
a peer, a peer is added, a peer is removed. -/
inductive FileListEvent
  | message (env : Environment) (h : UDTPHeader)
  | addPeer (memory : UDTPPeer) (ready : Bool) (listenSocketOfPeer : Socket)
  | removePeer (posID : ℕ)

namespace FileListEvent

/-- The endpoint after an event. -/
def handle (u : UDTP) : FileListEvent → Except Fault UDTP
  | message env h => (h.respond env u).map fun r => r.2.2
  | addPeer memory ready socket => .ok (u.addPeer memory ready socket).2
  | removePeer posID => (u.removePeer posID).map Prod.snd

end FileListEvent

namespace UDTP

variable {u u' : UDTP}

/-- An endpoint that never took a file. -/
structure NoFiles (u : UDTP) : Prop where
  files : u.files = []
  overallFiles : u.overallFiles = []
  selfOverallFiles : ∀ p ∈ u.listPeers, p.selfOverallFiles = []

/-- What a record lists, the endpoint lists too; and the record lists it in the order the files
were taken. -/
structure ListsOf (p : UDTPPeer) (u : UDTP) : Prop where
  contained : ∀ file ∈ p.selfOverallFiles, file ∈ u.overallFiles
  ordered : p.selfOverallFiles.Pairwise (· < ·)

structure Listed (u : UDTP) : Prop where
  overallFiles : u.overallFiles = List.range u.files.length
  records : ∀ p ∈ u.listPeers, ListsOf p u

/-- The first `start()` leaves no files. -/
theorem Started.noFiles {socketType : SocketType} (h : Started socketType u) : NoFiles u := by
  obtain ⟨selfPeer, hfresh⟩ := h.fresh
  refine ⟨hfresh.files, hfresh.overallFiles, ?_⟩
  intro p hp
  obtain ⟨memory, outcome, h⟩ := h
  simp only [start, new, Bool.false_eq_true, if_false] at h
  split at h
  · cases h
  split at h
  · cases h
  cases h
  obtain rfl := List.mem_singleton.mp hp
  simp [UDTPPeer.setInitProcessComplete, UDTPPeer.setHostLocal, UDTPPeer.setUniqueID,
    UDTPPeer.setOnline]

/-- Without files nothing is listed. -/
theorem NoFiles.listed (h : NoFiles u) : Listed u := by
  constructor
  · rw [h.overallFiles, h.files]
    rfl
  · intro p hp
    constructor
    · simp [h.selfOverallFiles p hp]
    · simp [h.selfOverallFiles p hp]

/-- Only the lists and the number of the files enter the invariant. -/
theorem Listed.of_sameButCounter (h : Listed u) (hsame : UDTPHeader.SameButCounter u u') :
    Listed u' := by
  obtain ⟨count, rfl⟩ := hsame
  exact ⟨h.overallFiles, fun p hp => ⟨(h.records p hp).contained, (h.records p hp).ordered⟩⟩

/-- A file that is taken is the last in both lists. -/
theorem Listed.of_takeFile (h : Listed u) (env : Environment) (posID : ℕ) (f : UDTPFile) :
    Listed (u.takeFile env posID f) := by
  constructor
  · rw [takeFile_overallFiles, takeFile_files, h.overallFiles, List.length_append,
      List.length_singleton, List.range_succ]
  intro p hp
  obtain ⟨k, hk⟩ := List.mem_iff_getElem?.mp hp
  simp only [takeFile, addFileToList, startFile, modifyPeer, List.getElem?_modify] at hk
  obtain ⟨q, hq, rfl⟩ := Option.map_eq_some_iff.mp hk
  have hrecord := h.records q (List.mem_of_getElem? hq)
  have hkept : ∀ file ∈ q.selfOverallFiles, file ∈ (u.takeFile env posID f).overallFiles := by
    intro file hfile
    rw [takeFile_overallFiles]
    exact List.mem_append_left _ (hrecord.contained file hfile)
  split
  · constructor
    · intro file hfile
      rcases List.mem_append.mp hfile with hfile | hfile
      · exact hkept file hfile
      · rw [takeFile_overallFiles]
        exact List.mem_append_right _ hfile
    · refine List.pairwise_append.mpr ⟨hrecord.ordered, List.pairwise_singleton _ _, ?_⟩
      intro file hfile new hnew
      have hlt := hrecord.contained file hfile
      rw [h.overallFiles, List.mem_range] at hlt
      rw [List.mem_singleton] at hnew
      omega
  · exact ⟨hkept, hrecord.ordered⟩

/-- The invariant is kept where no list grew and records were removed at most. -/
theorem Listed.of_records (h : Listed u) {peers : List UDTPPeer} (hp : ∀ p ∈ peers, ListsOf p u) :
    Listed { u with listPeers := peers } :=
  ⟨h.overallFiles, fun p hmem => ⟨(hp p hmem).contained, (hp p hmem).ordered⟩⟩

/-- No event breaks the invariant. -/
theorem Listed.of_handle (h : Listed u) {e : FileListEvent} (hstep : e.handle u = .ok u') :
    Listed u' := by
  cases e with
  | message env hd =>
    obtain ⟨⟨b, hd', v⟩, hr, rfl⟩ := map_ok hstep
    rcases UDTPHeader.respond_udtp hr with ⟨v, f, hsame, -, rfl⟩ | ⟨-, hsame⟩
    · exact (h.of_sameButCounter hsame).of_takeFile env hd.myPeer f
    · exact h.of_sameButCounter hsame
  | addPeer memory ready socket =>
    cases hstep
    apply h.of_records
    intro p hp
    rcases List.mem_append.mp hp with hp | hp
    · exact h.records p hp
    · rw [List.mem_singleton] at hp
      have hnone : p.selfOverallFiles = [] := by rw [hp]; exact UDTPPeer.new_selfOverallFiles _ _ _
      exact ⟨by simp [hnone], by simp [hnone]⟩
  | removePeer posID =>
    obtain ⟨⟨removed, v⟩, hr, rfl⟩ := map_ok hstep
    rw [removePeer_ok hr]
    exact h.of_records fun p hp => h.records p (List.mem_of_mem_eraseIdx hp)

/-! ## What a search finds -/

/-- `get_file_id() == fileID` of the file of a number. -/
def hasFileID (fileID : UInt32) (u : UDTP) (file : ℕ) : Bool :=
  (u.files[file]?.map UDTPFile.fileID) = some fileID

/-- The search looks through the list of the record first and the overall list then. -/
theorem searchFileByID_eq (fileID : UInt32) (p : UDTPPeer) (u : UDTP) :
    u.searchFileByID fileID p = lookup (hasFileID fileID u) p.selfOverallFiles u.overallFiles := by
  unfold searchFileByID lookup getFileWithID hasFileID
  split
  · rename_i h
    rw [h, Option.some_or]
  · rename_i h
    rw [h, Option.none_or]

/-- **A search is exact.** After any sequence of header messages handled for the peers of an
endpoint, whichever peers are added and removed on the way, a record lists only files the
endpoint lists; a search fails iff no file of the endpoint has the ID; and what it finds is
the earliest of the record's own files with the ID, or of the endpoint's where the record has
none.  Files are numbered in the order in which they were taken. -/
theorem searchFileByID_exact (hu : NoFiles u) {es : List FileListEvent}
    (hrun : run FileListEvent.handle u es = .ok u') {p : UDTPPeer} (hp : p ∈ u'.listPeers)
    (fileID : UInt32) :
    u'.overallFiles = List.range u'.files.length ∧
      (∀ file ∈ p.selfOverallFiles, file ∈ u'.overallFiles) ∧
      (u'.searchFileByID fileID p = none ↔
        ∀ file ∈ u'.overallFiles, u'.hasFileID fileID file = false) ∧
      ∀ file, u'.searchFileByID fileID p = some file → u'.hasFileID fileID file = true ∧
        ((∃ own ∈ p.selfOverallFiles, u'.hasFileID fileID own = true) →
          IsLeast {own | own ∈ p.selfOverallFiles ∧ u'.hasFileID fileID own = true} file) ∧
        ((∀ own ∈ p.selfOverallFiles, u'.hasFileID fileID own = false) →
          IsLeast {any | any ∈ u'.overallFiles ∧ u'.hasFileID fileID any = true} file) := by
  have hlisted : Listed u' :=
    run_preserves FileListEvent.handle Listed (fun _ _ _ h => h.of_handle) hu.listed hrun
  obtain ⟨hcontained, hordered⟩ := hlisted.records p hp
  have hall : u'.overallFiles.Pairwise (· < ·) := by
    rw [hlisted.overallFiles]
    exact List.pairwise_lt_range
  rw [searchFileByID_eq]
  exact ⟨hlisted.overallFiles, hcontained, lookup_eq_none_iff hcontained,
    fun file hfound => isLeast_of_lookup hordered hall hfound⟩

/-- A push under the ID 7 that was approved. -/
def approvedPush : FileListEvent :=
  .message default { (default : UDTPHeader) with
    responseCode := .responseApproved, transferType := .push, fileID := 7 }

/-- Of two files with one ID a search finds the one taken first. -/
theorem searchFileByID_exact_twice :
    ∃ u self, run FileListEvent.handle (startedIn .host) [approvedPush, approvedPush] = .ok u ∧
      u.listPeers = [self] ∧
      IsLeast {own | own ∈ self.selfOverallFiles ∧ u.hasFileID 7 own = true} 0 := by
  refine ⟨_, _, rfl, rfl, ?_⟩
  have hrun : run FileListEvent.handle (startedIn .host) [approvedPush, approvedPush] =
    .ok _ := rfl
  obtain ⟨-, -, -, hfound⟩ := searchFileByID_exact (startedIn_started .host).noFiles hrun
    (List.mem_singleton.mpr rfl) 7
  exact (hfound 0 rfl).2.1 ⟨0, by decide, rfl⟩

end UDTP

end Udtp
