import Udtp.Model.FileMemory
import Udtp.Analysis.FileExistence

/-!
# Files that are used before they are filled

The constructor of a file assigns what it can know, and each branch of a negotiation assigns
some of the rest before it passes the object on.  Two members are assigned by nobody: the chunk
size, by which `retrieve_info_from_local_file()` divides, and the pointer to the endpoint, from
which `begin_file_processing()` takes the number of threads.  A path is therefore sound iff it
stops before it comes to them, and `get_file()` besides sends a transfer type that was never
set.
-/

set_option autoImplicit false

namespace Udtp

open AccessTrace

/-- Every member that is read was assigned before. -/
abbrev InitialisedFirst (trace : List (Access FileField)) : Prop := AssignedFirst ∅ trace

/-! ## The functions of a file -/

namespace UDTPFile

variable {env : Environment} {f : UDTPFile} {A : Set FileField}

/-- Testing a file assigns nothing. -/
theorem assigned_conditionAccesses (approver : Bool) (f : UDTPFile) :
    assigned (f.conditionAccesses approver) = ∅ := by
  unfold conditionAccesses
  split <;> simp

/-- Choosing the type of a thread assigns nothing. -/
theorem assigned_getThreadTypeAccesses (f : UDTPFile) : assigned f.getThreadTypeAccesses = ∅ := by
  unfold getThreadTypeAccesses
  split
  · simp [assigned_conditionAccesses]
  split
  · simp [assigned_conditionAccesses]
  split <;> simp [assigned_conditionAccesses]

/-- The chunk size is read before anything is assigned. -/
theorem chunkSize_of_retrieveInfo (h : AssignedFirst A f.retrieveInfoFromLocalFileAccesses) :
    FileField.chunkSize ∈ A := by
  unfold retrieveInfoFromLocalFileAccesses at h
  simp only [List.cons_append, List.nil_append, assignedFirst_cons_read] at h
  exact h.2.1

/-- The loop over the threads asks the endpoint for their number first. -/
theorem myUDTP_of_threadLoop {type : ThreadType} {turns : ℕ}
    (h : AssignedFirst A (threadLoopAccesses type turns f)) : FileField.myUDTP ∈ A := by
  cases turns with
  | zero =>
    rw [threadLoopAccesses, assignedFirst_cons_read] at h
    exact h.1
  | succ turns =>
    rw [threadLoopAccesses, assignedFirst_cons_read] at h
    exact h.1

/-- Clearing the table does not assign the settings pointer. -/
theorem myUDTP_not_assigned_emptyAllChunkStatus (f : UDTPFile) :
    FileField.myUDTP ∉ assigned f.emptyAllChunkStatusAccesses := by
  unfold emptyAllChunkStatusAccesses
  simp only [mem_assigned, List.mem_append, List.mem_flatten, List.mem_replicate]
  split <;> simp

/-- Neither does setting up the semaphore. -/
theorem myUDTP_not_assigned_semInit (type : ThreadType) :
    FileField.myUDTP ∉ assigned (semInitAccesses type) := by
  cases type <;> simp [semInitAccesses]

/-- A file that is started asks the endpoint for the number of its threads. -/
theorem myUDTP_of_begin (happroved : f.hasApprovedHeader = true) (herror : f.critError = false)
    (h : AssignedFirst A (f.beginFileProcessingAccesses env)) : FileField.myUDTP ∈ A := by
  simp only [beginFileProcessingAccesses, happroved, herror, semInit_tickets, Bool.not_true,
    Bool.false_eq_true, if_false, assignedFirst_cons_read, assignedFirst_append, assigned_append,
    assigned_getThreadTypeAccesses, Set.empty_union] at h
  have hloop := myUDTP_of_threadLoop h.2.2.2.1.2
  rcases hloop with (hA | hsem) | hchunks
  · exact hA
  · exact absurd hsem (myUDTP_not_assigned_semInit _)
  · exact absurd hchunks (myUDTP_not_assigned_emptyAllChunkStatus f)

/-- A file whose header is not approved is not looked at further. -/
theorem begin_of_unapproved (happroved : f.hasApprovedHeader = false) :
    f.beginFileProcessingAccesses env = [.read .hasApprovedHeader] := by
  simp [beginFileProcessingAccesses, happroved]

end UDTPFile

/-! ## The paths of a negotiation -/

namespace UDTPHeader

variable {env : Environment} {h : UDTPHeader}

/-- A message whose path comes to nothing that is not assigned: a pull is neither approved nor
confirmed, a request to pull is for a path without a file, and a request to push for a path
with one. -/
structure Initialised (env : Environment) (h : UDTPHeader) : Prop where
  pullAnswered : h.transferType = .pull →
    h.responseCode ≠ .responseApproved ∧ h.responseCode ≠ .responseConfirm
  pullRequested : h.transferType = .pull → h.responseCode = .responseNone →
    (h.newFile env).checkFileExist env.fileSystem = false
  pushRequested : h.transferType = .push → h.responseCode = .responseNone →
    (h.newFile env).checkFileExist env.fileSystem = true

/-- Handling a header reads only fields that were assigned iff the file it starts is initialised. -/
theorem respondAccesses_iff (env : Environment) (h : UDTPHeader) :
    InitialisedFirst (h.respondAccesses env) ↔ h.Initialised env := by
  unfold respondAccesses
  split
  case h_1 ht hc => -- a pull request
    cases hex : (h.newFile env).checkFileExist env.fileSystem with
    | false =>
      refine iff_of_true ?_ ⟨by simp [hc], fun _ _ => hex, by simp [ht]⟩
      simp [UDTPFile.newAccesses, UDTPFile.checkFileExistAccesses]
    | true =>
      refine iff_of_false ?_ fun hi => by simp [hi.pullRequested ht hc] at hex
      apply not_assignedFirst_append (i := .chunkSize) (Set.notMem_empty _)
      · simp [UDTPFile.newAccesses, UDTPFile.checkFileExistAccesses]
      · intro B hneeds
        exact UDTPFile.chunkSize_of_retrieveInfo (assignedFirst_append.mp hneeds).1
  case h_2 ht hc => -- a pull was approved
    refine iff_of_false ?_ fun hi => (hi.pullAnswered ht).1 hc
    apply not_assignedFirst_append (i := .myUDTP) (Set.notMem_empty _)
    · simp [UDTPFile.newAccesses, UDTPFile.unpackFromHeaderAccesses]
    · exact fun B => UDTPFile.myUDTP_of_begin rfl rfl
  case h_3 ht hc => -- a pull was confirmed
    refine iff_of_false ?_ fun hi => (hi.pullAnswered ht).2 hc
    intro hfirst
    refine not_assignedFirst_append (i := .chunkSize) (Set.notMem_empty _) ?_ ?_
      (assignedFirst_append.mp hfirst).1
    · simp [UDTPFile.newAccesses]
    · exact fun B => UDTPFile.chunkSize_of_retrieveInfo
  case h_4 ht hc => -- a push request
    cases hex : (h.newFile env).checkFileExist env.fileSystem with
    | true =>
      refine iff_of_true ?_ ⟨by simp [ht], by simp [ht], fun _ _ => hex⟩
      simp [UDTPFile.newAccesses, UDTPFile.checkFileExistAccesses]
    | false =>
      refine iff_of_false ?_ fun hi => by simp [hi.pushRequested ht hc] at hex
      rw [if_neg Bool.false_ne_true, ← List.append_assoc]
      apply not_assignedFirst_append (i := .myUDTP) (Set.notMem_empty _)
      · simp [UDTPFile.newAccesses, UDTPFile.checkFileExistAccesses,
          UDTPFile.unpackFromHeaderAccesses]
      · exact fun B => UDTPFile.myUDTP_of_begin rfl rfl
  case h_5 ht hc => -- a push was approved
    refine iff_of_true ?_ ⟨by simp [ht], by simp [ht], by simp [hc]⟩
    rw [UDTPFile.begin_of_unapproved rfl]
    simp [UDTPFile.newAccesses, UDTPFile.unpackFromHeaderAccesses]
  case h_6 h₁ h₂ h₃ h₄ h₅ => -- no object is built
    refine iff_of_true assignedFirst_nil ⟨?_, ?_, ?_⟩
    · exact fun ht => ⟨fun hc => h₂ ht hc, fun hc => h₃ ht hc⟩
    · exact fun ht hc => absurd hc (h₁ ht)
    · exact fun ht hc => absurd hc (h₄ ht)

/-- The only file such a message takes is that of an approved push, which is not started. -/
theorem Initialised.unapproved (hi : h.Initialised env) (memory : UDTPFile) {f : UDTPFile}
    (hf : h.takenFile { env with fileMemory := memory } = some f) :
    f.hasApprovedHeader = false := by
  have hexists : (h.newFile { env with fileMemory := memory }).checkFileExist env.fileSystem =
      (h.newFile env).checkFileExist env.fileSystem := rfl
  unfold takenFile at hf
  split at hf
  case h_1 ht hc => exact absurd hc (hi.pullAnswered ht).1
  case h_2 ht hc => exact absurd hc (hi.pullAnswered ht).2
  case h_3 ht hc => -- a push request
    dsimp only at hf
    rw [hexists, hi.pushRequested ht hc] at hf
    cases hf
  case h_4 =>
    cases hf
    rfl
  case h_5 => cases hf

/-- The answer to such a message does not depend on what the memory held. -/
theorem respond_of_initialised {u : UDTP} (hi : h.Initialised env) (memory : UDTPFile) :
    (h.respond { env with fileMemory := memory } u).map (fun r => (r.1, r.2.1)) =
      (h.respond env u).map (fun r => (r.1, r.2.1)) := by
  have hexists : (h.newFile { env with fileMemory := memory }).checkFileExist env.fileSystem =
      (h.newFile env).checkFileExist env.fileSystem := rfl
  rw [respond_of_unapproved u fun _ => hi.unapproved memory,
    respond_of_unapproved u fun _ => hi.unapproved env.fileMemory]
  unfold negotiate
  split
  case h_1 ht hc => -- a pull request
    dsimp only
    rw [hexists, hi.pullRequested ht hc]
    rfl
  case h_2 => rfl
  case h_3 ht hc => exact absurd hc (hi.pullAnswered ht).1
  case h_4 ht hc => exact absurd hc (hi.pullAnswered ht).2
  case h_5 ht hc => -- a push request
    dsimp only
    rw [hexists, hi.pushRequested ht hc]
    rfl
  case h_6 => rfl
  case h_7 => rfl
  case h_8 => rfl

end UDTPHeader

/-! ## Requests -/

namespace UDTP

/-- A file that is sent is divided by its chunk size. -/
theorem sendFileAccesses_iff (env : Environment) (path : String) (u : UDTP) :
    InitialisedFirst (u.sendFileAccesses env path) ↔
      (u.ready = true → seesFile env path = false) := by
  unfold sendFileAccesses seesFile
  cases hready : u.ready with
  | false => simp
  | true =>
    cases hex : (UDTPFile.new env.fileMemory path).checkFileExist env.fileSystem with
    | false => simp [UDTPFile.newAccesses, UDTPFile.checkFileExistAccesses, hex]
    | true =>
      refine iff_of_false ?_ (by simp)
      apply not_assignedFirst_append (i := .chunkSize) (Set.notMem_empty _)
      · simp [UDTPFile.newAccesses, UDTPFile.checkFileExistAccesses]
      · intro B hneeds
        rw [hex] at hneeds
        exact UDTPFile.chunkSize_of_retrieveInfo (assignedFirst_append.mp hneeds).1

/-- A file that is asked for is sent with its transfer type. -/
theorem getFileAccesses_iff (env : Environment) (path : String) (u : UDTP) :
    InitialisedFirst (u.getFileAccesses env path) ↔
      (u.ready = true → seesFile env path = true) := by
  unfold getFileAccesses seesFile
  cases hready : u.ready with
  | false => simp
  | true =>
    cases hex : (UDTPFile.new env.fileMemory path).checkFileExist env.fileSystem with
    | true => simp [UDTPFile.newAccesses, UDTPFile.checkFileExistAccesses, hex]
    | false =>
      refine iff_of_false ?_ (by simp)
      simp [UDTPFile.newAccesses, UDTPFile.checkFileExistAccesses,
        UDTPFile.setInfoToZeroAccesses, UDTPFile.packToHeaderAccesses, hex]

/-- What a request that reads nothing unassigned returns and sends does not depend on what the
memory held. -/
theorem sendFile_of_initialised {env : Environment} {path : String} {u : UDTP}
    (hunseen : u.ready = true → seesFile env path = false) (memory : UDTPFile)
    (header : UDTPHeader) :
    u.sendFile { env with fileMemory := memory } header path = u.sendFile env header path := by
  cases hself : u.getPeer 0 with
  | none => simp [sendFile, hself]
  | some self =>
    cases hcomplete : self.checkInitProcess .complete with
    | false => rw [sendFile_of_incomplete hself hcomplete, sendFile_of_incomplete hself hcomplete]
    | true =>
      have hold := hunseen (by rw [ready, hself, ← hcomplete])
      have hnew : (UDTPFile.new memory path).checkFileExist env.fileSystem = false := hold
      rw [seesFile] at hold
      simp [sendFile, hself, hcomplete, hold, hnew]

/-- A request for a file that is seen does not depend on the memory of the file object. -/
theorem getFile_of_initialised {env : Environment} {path : String} {u : UDTP}
    (hseen : u.ready = true → seesFile env path = true) (memory : UDTPFile)
    (header : UDTPHeader) :
    u.getFile { env with fileMemory := memory } header path = u.getFile env header path := by
  cases hself : u.getPeer 0 with
  | none => simp [getFile, hself]
  | some self =>
    cases hcomplete : self.checkInitProcess .complete with
    | false => rw [getFile_of_incomplete hself hcomplete, getFile_of_incomplete hself hcomplete]
    | true =>
      have hold := hseen (by rw [ready, hself, ← hcomplete])
      have hnew : (UDTPFile.new memory path).checkFileExist env.fileSystem = true := hold
      rw [seesFile] at hold
      simp [getFile, hself, hcomplete, hold, hnew]

end UDTP

/-! ## Every path -/

/-- Every message `respond()` handles, and every request of an endpoint that is ready, reads
only members that were assigned. -/
def FilesInitialised : Prop :=
  (∀ (env : Environment) (h : UDTPHeader), InitialisedFirst (h.respondAccesses env)) ∧
    (∀ (env : Environment) (path : String) (u : UDTP), u.ready = true →
      InitialisedFirst (u.sendFileAccesses env path)) ∧
    (∀ (env : Environment) (path : String) (u : UDTP), u.ready = true →
      InitialisedFirst (u.getFileAccesses env path))

/-- A message, or a request of an endpoint that is ready, reads only what was assigned iff its
path ends before the chunk size, the endpoint or, in `get_file()`, the transfer type. -/
theorem files_initialised_iff (env : Environment) (h : UDTPHeader) (path : String) (u : UDTP) :
    (InitialisedFirst (h.respondAccesses env) ↔ h.Initialised env) ∧
    (InitialisedFirst (u.sendFileAccesses env path) ↔
      (u.ready = true → UDTP.seesFile env path = false)) ∧
    (InitialisedFirst (u.getFileAccesses env path) ↔
      (u.ready = true → UDTP.seesFile env path = true)) := by
  refine ⟨?_, ?_, ?_⟩
  · exact UDTPHeader.respondAccesses_iff env h
  · exact UDTP.sendFileAccesses_iff env path u
  · exact UDTP.getFileAccesses_iff env path u

/-- The answer that approves a pull. -/
def approvedPull : UDTPHeader :=
  { (default : UDTPHeader) with transferType := .pull, responseCode := .responseApproved }

/-- The file of an approved pull is started without an endpoint to ask for its threads. -/
theorem not_filesInitialised_approvedPull :
    ¬ InitialisedFirst (approvedPull.respondAccesses default) ∧ ¬ FilesInitialised := by
  have hbad : ¬ InitialisedFirst (approvedPull.respondAccesses default) := by
    rw [UDTPHeader.respondAccesses_iff]
    exact fun hi => (hi.pullAnswered rfl).1 rfl
  exact ⟨hbad, fun hall => hbad (hall.1 default approvedPull)⟩

end Udtp
