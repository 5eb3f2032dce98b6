import Udtp.Model.Endpoint

/-!
# Header messages

`UDTPHeader` negotiates the transfer of a file.  Its serialisation is a stub: `pack()` and
`unpack()` always fail, and what arrives are the members of the object that was sent.
-/

set_option autoImplicit false

namespace Udtp

/-- `udtp()->add_file_to_list(file); peer()->start_file(file);`, which ends every branch
that starts a transfer. -/
def UDTP.takeFile (env : Environment) (posID : ℕ) (f : UDTPFile) (u : UDTP) : UDTP :=
  (u.addFileToList f).2.startFile env posID (u.addFileToList f).1

namespace UDTPHeader

/-- SRCLINE: UDTPHeader.cpp:12-18 -/
def ofHeader (memory : UDTPHeader) (header : UDTPPacketHeader) : UDTPHeader :=
  { memory with header := header }

/-- SRCLINE: UDTPHeader.cpp:20-23 -/
def pack (h : UDTPHeader) : Bool × UDTPHeader := (false, h)

/-- SRCLINE: UDTPHeader.cpp:24-53 -/
def unpack (h : UDTPHeader) : Bool × UDTPHeader := (false, h)

/-- SRCLINE: UDTPPacket.h:55 -/
def setResponseCode (responseCode : ResponseCode) (h : UDTPHeader) : UDTPHeader :=
  { h with responseCode := responseCode }

/-- `if(get_file_id() == 0) set_file_id(_myUDTP->get_next_file_id());` -/
def assignFileID (u : UDTP) (h : UDTPHeader) : UDTPHeader × UDTP :=
  if h.fileID = 0 then ({ h with fileID := u.getNextFileID.1 }, u.getNextFileID.2) else (h, u)

/-- The file object each branch begins with. -/
def newFile (env : Environment) (h : UDTPHeader) : UDTPFile :=
  UDTPFile.new env.fileMemory h.pathOfFile

/-- A pull was approved: the file to receive into.
SRCLINE: UDTPHeader.cpp:87-90 -/
def approvedPullFile (env : Environment) (h : UDTPHeader) : UDTPFile :=
  { (h.newFile env).unpackFromHeader h with hasApprovedHeader := true, approver := false }

/-- A pull was confirmed: the local file to send, which is given no ID and no transfer
type.
SRCLINE: UDTPHeader.cpp:99-102 -/
def confirmedPullFile (env : Environment) (h : UDTPHeader) : Except Fault UDTPFile :=
  match (h.newFile env).retrieveInfoFromLocalFile env.fileSystem with
  | .error fault => .error fault
  | .ok f => .ok { f with hasApprovedHeader := true, approver := true }

/-- A push was requested: the file to receive into, filled before the header gets its ID.
SRCLINE: UDTPHeader.cpp:113-126 -/
def requestedPushFile (env : Environment) (h : UDTPHeader) : UDTPFile :=
  { (h.newFile env).unpackFromHeader h with hasApprovedHeader := true, approver := true }

/-- A push was approved: the file to send, whose header is not marked approved.
SRCLINE: UDTPHeader.cpp:140-142 -/
def approvedPushFile (env : Environment) (h : UDTPHeader) : UDTPFile :=
  { (h.newFile env).unpackFromHeader h with approver := false }

/-- What a branch does where its file can be started.  The branch is chosen by the type and the
response code of the message alone.
SRCLINE: UDTPHeader.cpp:54-150 -/
def negotiate (env : Environment) (u : UDTP) (h : UDTPHeader) :
    Except Fault (Bool × UDTPHeader × UDTP) :=
  match h.transferType, h.responseCode with
  | .pull, .responseNone =>
    if !(h.newFile env).checkFileExist env.fileSystem then
      .ok (true, h.setResponseCode .responseFileNotFound, u)
    else
      match (h.newFile env).retrieveInfoFromLocalFile env.fileSystem with
      | .error fault => .error fault
      | .ok f =>
        .ok (true, (f.packToHeader (h.assignFileID u).1).setResponseCode .responseApproved,
          (h.assignFileID u).2)
  | .pull, .responseFileNotFound => .ok (false, h, u)
  | .pull, .responseApproved =>
    .ok (true, h.setResponseCode .responseConfirm,
      u.takeFile env h.myPeer (h.approvedPullFile env))
  | .pull, .responseConfirm =>
    match h.confirmedPullFile env with
    | .error fault => .error fault
    | .ok f => .ok (false, h, u.takeFile env h.myPeer f)
  | .push, .responseNone =>
    if (h.newFile env).checkFileExist env.fileSystem then
      .ok (true, h.setResponseCode .responseFileExistsAlready, u)
    else
      .ok (true, (h.assignFileID u).1.setResponseCode .responseApproved,
        (h.assignFileID u).2.takeFile env h.myPeer (h.requestedPushFile env))
  | .push, .responseFileExistsAlready => .ok (false, h, u)
  | .push, .responseApproved =>
    .ok (false, h, u.takeFile env h.myPeer (h.approvedPushFile env))
  | _, _ => .ok (env.fellOffRespond, h, u)

/-- The file a message makes `respond()` take, if any. -/
def takenFile (env : Environment) (h : UDTPHeader) : Option UDTPFile :=
  match h.transferType, h.responseCode with
  | .pull, .responseApproved => some (h.approvedPullFile env)
  | .pull, .responseConfirm => (h.confirmedPullFile env).toOption
  | .push, .responseNone =>
    if (h.newFile env).checkFileExist env.fileSystem then none
    else some (h.requestedPushFile env)
  | .push, .responseApproved => some (h.approvedPushFile env)
  | _, _ => none

/-- The branches that build a file object follow `_pathOfFile` for its path.
SRCLINE: UDTPHeader.cpp:62, UDTPHeader.cpp:87, UDTPHeader.cpp:99, UDTPHeader.cpp:113,
UDTPHeader.cpp:140 -/
def followsPath (h : UDTPHeader) : Bool :=
  match h.transferType, h.responseCode with
  | .pull, .responseNone => true
  | .pull, .responseApproved => true
  | .pull, .responseConfirm => true
  | .push, .responseNone => true
  | .push, .responseApproved => true
  | _, _ => false

/-- Starting the file of the branch follows the pointer to its settings, which nobody assigned.
SRCLINE: UDTPHeader.cpp:54-150 -/
def respond (env : Environment) (u : UDTP) (h : UDTPHeader) :
    Except Fault (Bool × UDTPHeader × UDTP) :=
  if (h.takenFile env).any (UDTPFile.beginTraps env) then .error .wildPointer
  else h.negotiate env u

/-- A call of `respond()` that returns could start its file. -/
theorem negotiate_of_respond {env : Environment} {u : UDTP} {h : UDTPHeader}
    {r : Bool × UDTPHeader × UDTP} (hr : h.respond env u = .ok r) :
    h.negotiate env u = .ok r := by
  unfold respond at hr
  split at hr
  · cases hr
  · exact hr

/-- Where the file can be started, `respond()` does what its branch says. -/
theorem respond_of_mapped {env : Environment} {h : UDTPHeader} (u : UDTP)
    (hfile : (h.takenFile env).any (UDTPFile.beginTraps env) = false) :
    h.respond env u = h.negotiate env u := by
  simp [respond, hfile]

/-- A message that starts no approved file follows no pointer to settings. -/
theorem respond_of_unapproved {env : Environment} {h : UDTPHeader} (u : UDTP)
    (hfile : ∀ f, h.takenFile env = some f → f.hasApprovedHeader = false) :
    h.respond env u = h.negotiate env u := by
  apply respond_of_mapped
  cases hf : h.takenFile env with
  | none => rfl
  | some f => simp [UDTPFile.beginTraps, hfile f hf]

/-! ## The files of the branches -/

/-- The size a local file is taken to have. -/
def localSize (fs : FileSystem) (path : String) : UInt16 := UInt16.ofInt (fs.tellg path)

/-- The file taken for a confirmed pull: size and chunks are the local ones, ID and
transfer type are what the memory held. -/
theorem confirmedPullFile_spec {env : Environment} {h : UDTPHeader} {f : UDTPFile}
    (hf : h.confirmedPullFile env = .ok f) :
    f.active = false ∧ f.hasApprovedHeader = true ∧ f.critError = false ∧ f.approver = true ∧
      f.fileID = env.fileMemory.fileID ∧ f.transferType = env.fileMemory.transferType ∧
      f.sizeOfFile = (localSize env.fileSystem h.pathOfFile).toUInt32 ∧
      f.numberOfChunks = UDTPFile.retrieveNumberOfChunks (localSize env.fileSystem h.pathOfFile)
        env.fileMemory.chunkSize := by
  unfold confirmedPullFile at hf
  split at hf
  · cases hf
  rename_i f' hf'
  cases hf
  unfold UDTPFile.retrieveInfoFromLocalFile at hf'
  split at hf'
  · cases hf'
  cases hf'
  exact ⟨rfl, rfl, rfl, rfl, rfl, rfl, rfl, rfl⟩

/-- A file that is about to be taken is not active. -/
theorem takenFile_active {env : Environment} {h : UDTPHeader} {f : UDTPFile}
    (hf : h.takenFile env = some f) : f.active = false := by
  unfold takenFile at hf
  split at hf
  case h_1 =>
    cases hf
    rfl
  case h_2 =>
    cases hc : h.confirmedPullFile env with
    | error fault => simp [hc, Except.toOption] at hf
    | ok g =>
      simp only [hc, Except.toOption, Option.some.injEq] at hf
      exact hf ▸ (confirmedPullFile_spec hc).1
  case h_3 =>
    split at hf
    · cases hf
    · cases hf
      rfl
  case h_4 =>
    cases hf
    rfl
  case h_5 => cases hf

/-! ## What `respond()` does to the endpoint -/

/-- Two endpoints that differ at most in the counter of file IDs. -/
def SameButCounter (u v : UDTP) : Prop := ∃ count, v = { u with fileIDCount := count }

/-- An endpoint differs from itself in nothing. -/
theorem SameButCounter.refl (u : UDTP) : SameButCounter u u := ⟨u.fileIDCount, rfl⟩

/-- Assigning an ID changes the counter alone. -/
theorem assignFileID_udtp (u : UDTP) (h : UDTPHeader) : SameButCounter u (h.assignFileID u).2 := by
  unfold assignFileID
  split
  · exact ⟨_, rfl⟩
  · exact ⟨_, rfl⟩

/-- Apart from the counter of file IDs, `respond()` changes an endpoint by taking the
message's file, or not at all. -/
theorem respond_udtp {env : Environment} {u u' : UDTP} {h h' : UDTPHeader} {b : Bool}
    (hr : h.respond env u = .ok (b, h', u')) :
    (∃ v f, SameButCounter u v ∧ h.takenFile env = some f ∧ u' = v.takeFile env h.myPeer f) ∨
    (h.takenFile env = none ∧ SameButCounter u u') := by
  have same := SameButCounter.refl u
  replace hr := negotiate_of_respond hr
  unfold negotiate at hr
  unfold takenFile
  split at hr
  case h_1 ht hc => -- a pull request
    rw [ht, hc]
    split at hr
    · cases hr
      exact Or.inr ⟨rfl, same⟩
    · split at hr
      · cases hr
      · cases hr
        exact Or.inr ⟨rfl, assignFileID_udtp u h⟩
  case h_2 ht hc => -- the file to pull was not found
    rw [ht, hc]
    cases hr
    exact Or.inr ⟨rfl, same⟩
  case h_3 ht hc => -- a pull was approved
    rw [ht, hc]
    cases hr
    exact Or.inl ⟨u, _, same, rfl, rfl⟩
  case h_4 ht hc => -- a pull was confirmed
    rw [ht, hc]
    split at hr
    · cases hr
    · rename_i f hf
      cases hr
      exact Or.inl ⟨u, f, same, by simp [hf, Except.toOption], rfl⟩
  case h_5 ht hc => -- a push request
    rw [ht, hc]
    split at hr
    · rename_i hex
      cases hr
      exact Or.inr ⟨by simp [hex], same⟩
    · rename_i hex
      cases hr
      exact Or.inl ⟨_, _, assignFileID_udtp u h, by simp [hex], rfl⟩
  case h_6 ht hc => -- the file to push exists already
    rw [ht, hc]
    cases hr
    exact Or.inr ⟨rfl, same⟩
  case h_7 ht hc => -- a push was approved
    rw [ht, hc]
    cases hr
    exact Or.inl ⟨u, _, same, rfl, rfl⟩
  case h_8 h₁ h₂ h₃ h₄ h₅ h₆ h₇ => -- any other message
    cases hr
    refine Or.inr ⟨?_, same⟩
    split <;> simp_all

/-! ## The branches of `respond()` -/

section Branches

variable {env : Environment} {u u' : UDTP} {h h' : UDTPHeader} {b : Bool}

/-- A request to pull an existing file is approved with what a fresh file object holds. -/
theorem respond_pullRequest (ht : h.transferType = .pull) (hc : h.responseCode = .responseNone)
    (hex : (h.newFile env).checkFileExist env.fileSystem = true)
    (hr : h.respond env u = .ok (b, h', u')) :
    b = true ∧ SameButCounter u u' ∧ h'.responseCode = .responseApproved ∧
      h'.pathOfFile = h.pathOfFile ∧ h'.transferType = env.fileMemory.transferType ∧
      h'.fileID = env.fileMemory.fileID.toUInt16 ∧
      h'.numberOfChunks = UDTPFile.retrieveNumberOfChunks (localSize env.fileSystem h.pathOfFile)
        env.fileMemory.chunkSize ∧
      h'.sizeOfFile = (localSize env.fileSystem h.pathOfFile).toUInt32 := by
  have hpath : (h.assignFileID u).1.pathOfFile = h.pathOfFile := by
    unfold assignFileID
    split <;> rfl
  replace hr := negotiate_of_respond hr
  simp only [negotiate, ht, hc, hex, Bool.not_true, Bool.false_eq_true, if_false] at hr
  split at hr
  · cases hr
  rename_i f hf
  cases hr
  unfold UDTPFile.retrieveInfoFromLocalFile at hf
  split at hf
  · cases hf
  cases hf
  exact ⟨rfl, assignFileID_udtp u h, rfl, hpath, rfl, rfl, rfl, rfl⟩

/-- An approved Pull takes a file on the side that asked for it, and confirms. -/
theorem respond_pullApproved (ht : h.transferType = .pull)
    (hc : h.responseCode = .responseApproved) (hr : h.respond env u = .ok (b, h', u')) :
    b = true ∧ h' = h.setResponseCode .responseConfirm ∧
      u' = u.takeFile env h.myPeer (h.approvedPullFile env) := by
  replace hr := negotiate_of_respond hr
  simp only [negotiate, ht, hc] at hr
  cases hr
  exact ⟨rfl, rfl, rfl⟩

/-- A confirmed Pull takes a file on the side that was asked, and ends the exchange. -/
theorem respond_pullConfirm (ht : h.transferType = .pull)
    (hc : h.responseCode = .responseConfirm) (hr : h.respond env u = .ok (b, h', u')) :
    b = false ∧ ∃ f, h.confirmedPullFile env = .ok f ∧ u' = u.takeFile env h.myPeer f := by
  replace hr := negotiate_of_respond hr
  simp only [negotiate, ht, hc] at hr
  split at hr
  · cases hr
  · rename_i f hf
    cases hr
    exact ⟨rfl, f, hf, rfl⟩

/-- A request to push to a path without a file is approved, and the file to receive into is
taken before the message gets its ID. -/
theorem respond_pushRequest (ht : h.transferType = .push) (hc : h.responseCode = .responseNone)
    (hex : (h.newFile env).checkFileExist env.fileSystem = false)
    (hr : h.respond env u = .ok (b, h', u')) :
    b = true ∧ h'.responseCode = .responseApproved ∧ h'.transferType = .push ∧
      ∃ v, SameButCounter u v ∧ u' = v.takeFile env h.myPeer (h.requestedPushFile env) := by
  have htype : (h.assignFileID u).1.transferType = .push := by
    unfold assignFileID
    split <;> exact ht
  replace hr := negotiate_of_respond hr
  simp only [negotiate, ht, hc, hex, Bool.false_eq_true, if_false] at hr
  cases hr
  exact ⟨rfl, rfl, htype, _, assignFileID_udtp u h, rfl⟩

/-- An approved Push takes a file on the side that asked for it, and ends the exchange. -/
theorem respond_pushApproved (ht : h.transferType = .push)
    (hc : h.responseCode = .responseApproved) (hr : h.respond env u = .ok (b, h', u')) :
    b = false ∧ u' = u.takeFile env h.myPeer (h.approvedPushFile env) := by
  replace hr := negotiate_of_respond hr
  simp only [negotiate, ht, hc] at hr
  cases hr
  exact ⟨rfl, rfl⟩

/-- A transfer type that is neither Push nor Pull is left alone. -/
theorem respond_unknown {v : UInt32} (ht : h.transferType = .unknown v)
    (hr : h.respond env u = .ok (b, h', u')) : h' = h ∧ u' = u := by
  replace hr := negotiate_of_respond hr
  simp only [negotiate, ht] at hr
  cases hr
  exact ⟨rfl, rfl⟩

end Branches

/-- Handling a header keeps which record it is for. -/
theorem respond_peer {env : Environment} {u u' : UDTP} {h h' : UDTPHeader} {b : Bool}
    (hr : h.respond env u = .ok (b, h', u')) :
    h'.uniqueID = h.uniqueID ∧ h'.myPeer = h.myPeer := by
  have hid : (h.assignFileID u).1.toUDTPPacket = h.toUDTPPacket := by
    unfold assignFileID
    split <;> rfl
  replace hr := negotiate_of_respond hr
  unfold negotiate at hr
  split at hr
  case h_1 =>
    split at hr
    · cases hr
      exact ⟨rfl, rfl⟩
    · split at hr
      · cases hr
      · cases hr
        simp [setResponseCode, UDTPFile.packToHeader, hid]
  case h_4 =>
    split at hr
    · cases hr
    · cases hr
      exact ⟨rfl, rfl⟩
  case h_5 =>
    split at hr
    · cases hr
      exact ⟨rfl, rfl⟩
    · cases hr
      simp [setResponseCode, hid]
  all_goals
    cases hr
    exact ⟨rfl, rfl⟩

end UDTPHeader

/-! ## Taking a file -/

namespace UDTP

/-- A file that is taken is appended to the overall list. -/
theorem takeFile_overallFiles (env : Environment) (posID : ℕ) (f : UDTPFile) (u : UDTP) :
    (u.takeFile env posID f).overallFiles = u.overallFiles ++ [u.files.length] := rfl

/-- Taking a file keeps its object as it is after the attempt to start it. -/
theorem takeFile_files (env : Environment) (posID : ℕ) (f : UDTPFile) (u : UDTP) :
    (u.takeFile env posID f).files = u.files ++ [(f.beginFileProcessing env).2] := by
  simp only [takeFile, addFileToList, startFile, modifyPeer]
  apply List.ext_getElem?
  intro k
  rw [List.getElem?_modify]
  rcases Nat.lt_trichotomy k u.files.length with hk | rfl | hk
  · have hne : u.files.length ≠ k := by omega
    simp [hne, List.getElem?_append_left hk]
  · simp
  · have hne : u.files.length ≠ k := by omega
    have hone : ∀ g : UDTPFile, (u.files ++ [g])[k]? = none := by
      intro g
      apply List.getElem?_eq_none
      rw [List.length_append, List.length_singleton]
      omega
    simp [hne, hone]

/-- Taking a file assigns no ID. -/
@[simp]
theorem takeFile_fileIDCount (env : Environment) (posID : ℕ) (f : UDTPFile) (u : UDTP) :
    (u.takeFile env posID f).fileIDCount = u.fileIDCount := rfl

/-- Taking a file numbers no peer. -/
@[simp]
theorem takeFile_uniqueIDCount (env : Environment) (posID : ℕ) (f : UDTPFile) (u : UDTP) :
    (u.takeFile env posID f).uniqueIDCount = u.uniqueIDCount := rfl

/-- Taking a file keeps what the file lists of the records do not enter. -/
theorem map_listPeers_takeFile {α : Type} (g : UDTPPeer → α) (env : Environment) (u : UDTP)
    (posID : ℕ) (f : UDTPFile)
    (h : UDTPPeer.IgnoresFileLists g) :
    (u.takeFile env posID f).listPeers.map g = u.listPeers.map g :=
  map_listPeers_startFile g env (u.addFileToList f).2 posID _ h

end UDTP

end Udtp
