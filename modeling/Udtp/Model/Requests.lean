import Udtp.Model.Dispatch

/-!
# Requests of the local side

`send_file()` and `get_file()`, the commands by which an endpoint asks its other end for a
transfer.  What they send is a new header without a path; of the file object they build
they keep nothing, and no list remembers that something was asked for.
-/

set_option autoImplicit false

namespace Udtp

/-- SRCLINE: UDTP.h:65-72 -/
inductive TransferReturn
  | sendingHeader
  | fileAlreadyExist
  | fileNotExist
  | selfNotReady
  deriving DecidableEq, Inhabited

/-- SRCLINE: UDTPFile.cpp:47-53 -/
def UDTPFile.setInfoToZero (f : UDTPFile) : UDTPFile :=
  { f with fileID := 0, numberOfChunks := 0, sizeOfFile := 0 }

namespace UDTP

/-- A HOST numbers the file, a PEER sends a zero.
SRCLINE: UDTP.cpp:455-456, UDTP.cpp:473-474 -/
def setRequestID (f : UDTPFile) (u : UDTP) : UDTPFile × UDTP :=
  match u.socketType with
  | .host => ({ f with fileID := u.getNextFileID.1.toUInt32 }, u.getNextFileID.2)
  | .peer => ({ f with fileID := 0 }, u)

/-- The header a request is sent in: `memory` is what its constructor found, and keeps
every member that `pack_to_header()` does not assign.
SRCLINE: UDTP.cpp:458-463, UDTP.cpp:476-481 -/
def requestHeader (memory : UDTPHeader) (f : UDTPFile) : UDTPHeader :=
  (f.packToHeader (memory.setResponseCode .responseNone)).pack.2

/-- Once the header was sent, the body runs off its end: `none`.
SRCLINE: UDTP.cpp:449-465 -/
def sendFile (env : Environment) (memory : UDTPHeader) (path : String) (u : UDTP) :
    Except Fault (Option TransferReturn × List Sent × UDTP) :=
  match u.getPeer 0 with
  | none => .error .indexOutOfRange
  | some self =>
    if !self.checkInitProcess .complete then .ok (some .selfNotReady, [], u)
    else
      let sendFile := UDTPFile.new env.fileMemory path
      if !sendFile.checkFileExist env.fileSystem then .ok (some .fileNotExist, [], u)
      else
        match sendFile.retrieveInfoFromLocalFile env.fileSystem with
        | .error fault => .error fault
        | .ok sendFile =>
          .ok (none, self.sendFrom (.header (requestHeader memory (u.setRequestID sendFile).1)),
            (u.setRequestID sendFile).2)

/-- SRCLINE: UDTP.cpp:467-482 -/
def getFile (env : Environment) (memory : UDTPHeader) (path : String) (u : UDTP) :
    Except Fault (Option TransferReturn × List Sent × UDTP) :=
  match u.getPeer 0 with
  | none => .error .indexOutOfRange
  | some self =>
    if !self.checkInitProcess .complete then .ok (some .selfNotReady, [], u)
    else
      let getFile := UDTPFile.new env.fileMemory path
      if getFile.checkFileExist env.fileSystem then .ok (some .fileAlreadyExist, [], u)
      else
        let getFile := getFile.setInfoToZero
        .ok (none, self.sendFrom (.header (requestHeader memory (u.setRequestID getFile).1)),
          (u.setRequestID getFile).2)

/-! ## What a request leaves behind -/

variable {env : Environment} {memory : UDTPHeader} {path : String} {u u' : UDTP}
  {result : Option TransferReturn} {sent : List Sent}

/-- Until the initialisation is complete both commands are refused. -/
theorem sendFile_of_incomplete {self : UDTPPeer} (hself : u.getPeer 0 = some self)
    (h : self.checkInitProcess .complete = false) :
    u.sendFile env memory path = .ok (some .selfNotReady, [], u) := by
  simp [sendFile, hself, h]

/-- Before its own record is complete, an endpoint asks for no file. -/
theorem getFile_of_incomplete {self : UDTPPeer} (hself : u.getPeer 0 = some self)
    (h : self.checkInitProcess .complete = false) :
    u.getFile env memory path = .ok (some .selfNotReady, [], u) := by
  simp [getFile, hself, h]

/-- Numbering a request changes the counter alone. -/
theorem setRequestID_udtp (f : UDTPFile) (u : UDTP) :
    UDTPHeader.SameButCounter u (u.setRequestID f).2 := by
  unfold setRequestID
  split
  · exact ⟨_, rfl⟩
  · exact UDTPHeader.SameButCounter.refl u

/-- Asking to send a file takes at most a file ID. -/
theorem sendFile_udtp (h : u.sendFile env memory path = .ok (result, sent, u')) :
    UDTPHeader.SameButCounter u u' := by
  unfold sendFile at h
  split at h
  · cases h
  split at h
  · cases h
    exact UDTPHeader.SameButCounter.refl u
  dsimp only at h
  split at h
  · cases h
    exact UDTPHeader.SameButCounter.refl u
  split at h
  · cases h
  · cases h
    exact setRequestID_udtp _ u

/-- Asking for a file changes the counter alone. -/
theorem getFile_udtp (h : u.getFile env memory path = .ok (result, sent, u')) :
    UDTPHeader.SameButCounter u u' := by
  unfold getFile at h
  split at h
  · cases h
  split at h
  · cases h
    exact UDTPHeader.SameButCounter.refl u
  dsimp only at h
  split at h
  · cases h
    exact UDTPHeader.SameButCounter.refl u
  · cases h
    exact setRequestID_udtp _ u

end UDTP

end Udtp
