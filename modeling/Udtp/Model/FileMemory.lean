import Udtp.Computation.AccessTrace
import Udtp.Model.Requests

/-!
# The members a negotiation reads and assigns

Each branch of `respond()`, and each request, builds one `UDTPFile` and passes it from function
to function.  The traces list the members of that object that are read and assigned on the
way, in order.  A condition that stops a function ends its trace.
-/

set_option autoImplicit false

namespace Udtp

open AccessTrace

/-- SRCLINE: UDTPFile.h:115-145 -/
inductive FileField
  | path
  | fileID
  | numberOfChunks
  | sizeOfFile
  | chunkSize
  | approver
  | transferType
  | chunksCompletedCount
  | chunksCompleted
  | hasApprovedHeader
  | active
  | critError
  | errorMsg
  | currentChunk
  | fileThreads
  | semFileThread
  | myUDTP
  deriving DecidableEq

namespace UDTPFile

/-! ## The functions of a file -/

/-- Queues and vectors are constructed before the body of the constructor.
SRCLINE: UDTPFile.cpp:16-31 -/
def newAccesses : List (Access FileField) :=
  [.assign .chunksCompleted, .assign .fileThreads, .assign .currentChunk, .assign .errorMsg,
    .assign .hasApprovedHeader, .assign .critError, .assign .active, .assign .path, .assign .active]

/-- SRCLINE: UDTPFile.cpp:35-44 -/
def checkFileExistAccesses : List (Access FileField) := [.read .path]

/-- SRCLINE: UDTPFile.cpp:47-53 -/
def setInfoToZeroAccesses : List (Access FileField) :=
  [.assign .fileID, .assign .numberOfChunks, .assign .sizeOfFile]

/-- SRCLINE: UDTPFile.cpp:55-63 -/
def unpackFromHeaderAccesses : List (Access FileField) :=
  [.assign .numberOfChunks, .assign .sizeOfFile, .assign .fileID, .assign .transferType]

/-- SRCLINE: UDTPFile.cpp:64-70 -/
def packToHeaderAccesses : List (Access FileField) :=
  [.read .numberOfChunks, .read .sizeOfFile, .read .fileID, .read .transferType]

/-- A division by zero ends the trace.
SRCLINE: UDTPFile.cpp:222-241 -/
def retrieveInfoFromLocalFileAccesses (f : UDTPFile) : List (Access FileField) :=
  [.read .path, .read .chunkSize] ++
    if f.chunkSize = 0 then []
    else [.read .chunkSize, .assign .sizeOfFile, .assign .numberOfChunks]

/-- `is_approver() == approver && _transferType == ..` reads the type only where the first part
holds. -/
def conditionAccesses (approver : Bool) (f : UDTPFile) : List (Access FileField) :=
  .read .approver :: if f.approver = approver then [.read .transferType] else []

/-- Each condition is evaluated where those before it failed.
SRCLINE: UDTPFile.cpp:117-124 -/
def getThreadTypeAccesses (f : UDTPFile) : List (Access FileField) :=
  f.conditionAccesses true ++
    if f.approver = true ∧ f.transferType = .pull then []
    else f.conditionAccesses false ++
      if f.approver = false ∧ f.transferType = .pull then []
      else f.conditionAccesses true ++
        if f.approver = true ∧ f.transferType = .push then []
        else f.conditionAccesses false

/-- The number of chunks is read before each turn of the loop and once more at its end.
SRCLINE: UDTPFile.cpp:105-115 -/
def emptyAllChunkStatusAccesses (f : UDTPFile) : List (Access FileField) :=
  [.assign .chunksCompletedCount, .read .chunksCompleted] ++
    (if f.chunksCompleted = [] then [] else [.assign .chunksCompleted]) ++
    (List.replicate f.numberOfChunks.toNat
      [.read .numberOfChunks, .assign .chunksCompleted]).flatten ++
    [.read .numberOfChunks]

/-- SRCLINE: UDTPFile.cpp:81-92 -/
def addFileThreadAccesses (f : UDTPFile) : List (Access FileField) :=
  .read .active ::
    if f.active then [.read .fileThreads, .read .myUDTP, .assign .fileThreads] else []

/-- The loop of `begin_file_processing()` with so many turns to go.
SRCLINE: UDTPFile.cpp:139-142 -/
def threadLoopAccesses (type : ThreadType) : ℕ → UDTPFile → List (Access FileField)
  | 0, _ => [.read .myUDTP]
  | turns + 1, f =>
    .read .myUDTP ::
      (f.addFileThreadAccesses ++ threadLoopAccesses type turns (f.addFileThread type))

/-- The semaphore is loaded with the number of chunks of an outgoing file.
SRCLINE: UDTPFile.cpp:130-137 -/
def semInitAccesses : ThreadType → List (Access FileField)
  | .outgoing => [.read .numberOfChunks, .assign .semFileThread]
  | .incoming => [.assign .semFileThread]

/-- SRCLINE: UDTPFile.cpp:125-146 -/
def beginFileProcessingAccesses (env : Environment) (f : UDTPFile) : List (Access FileField) :=
  .read .hasApprovedHeader ::
    if !f.hasApprovedHeader then []
    else .read .critError ::
      if f.critError then []
      else f.getThreadTypeAccesses ++ semInitAccesses (f.getThreadType env) ++
        if !semInit (f.tickets env) then []
        else
          let g := emptyAllChunkStatus (setSemFileThread (f.tickets env) f)
          f.emptyAllChunkStatusAccesses ++
            threadLoopAccesses (f.getThreadType env) g.myUDTP.startingNumberOfFileThreads.toNat g ++
            [.assign .active]

end UDTPFile

/-! ## The paths of a negotiation -/

namespace UDTPHeader

/-- The accesses to the file object of a message, in order; none where no object is built.
SRCLINE: UDTPHeader.cpp:54-150 -/
def respondAccesses (env : Environment) (h : UDTPHeader) : List (Access FileField) :=
  match h.transferType, h.responseCode with
  | .pull, .responseNone =>
    UDTPFile.newAccesses ++ UDTPFile.checkFileExistAccesses ++
      if !(h.newFile env).checkFileExist env.fileSystem then []
      else (h.newFile env).retrieveInfoFromLocalFileAccesses ++
        match (h.newFile env).retrieveInfoFromLocalFile env.fileSystem with
        | .error _ => []
        | .ok _ => UDTPFile.packToHeaderAccesses
  | .pull, .responseApproved =>
    UDTPFile.newAccesses ++ UDTPFile.unpackFromHeaderAccesses ++
      [.assign .hasApprovedHeader, .assign .approver] ++
      (h.approvedPullFile env).beginFileProcessingAccesses env
  | .pull, .responseConfirm =>
    UDTPFile.newAccesses ++ (h.newFile env).retrieveInfoFromLocalFileAccesses ++
      match h.confirmedPullFile env with
      | .error _ => []
      | .ok f =>
        [.assign .hasApprovedHeader, .assign .approver] ++ f.beginFileProcessingAccesses env
  | .push, .responseNone =>
    UDTPFile.newAccesses ++ UDTPFile.checkFileExistAccesses ++
      if (h.newFile env).checkFileExist env.fileSystem then []
      else UDTPFile.unpackFromHeaderAccesses ++
        [.assign .approver, .assign .hasApprovedHeader] ++
        (h.requestedPushFile env).beginFileProcessingAccesses env
  | .push, .responseApproved =>
    UDTPFile.newAccesses ++ UDTPFile.unpackFromHeaderAccesses ++ [.assign .approver] ++
      (h.approvedPushFile env).beginFileProcessingAccesses env
  | _, _ => []

end UDTPHeader

namespace UDTP

/-- `self_peer()->check_init_process(COMPLETE)` -/
def ready (u : UDTP) : Bool :=
  match u.getPeer 0 with
  | none => false
  | some self => self.checkInitProcess .complete

/-- The accesses to the file object of `send_file()`.
SRCLINE: UDTP.cpp:449-465 -/
def sendFileAccesses (env : Environment) (path : String) (u : UDTP) : List (Access FileField) :=
  if !u.ready then []
  else
    let sendFile := UDTPFile.new env.fileMemory path
    UDTPFile.newAccesses ++ UDTPFile.checkFileExistAccesses ++
      if !sendFile.checkFileExist env.fileSystem then []
      else sendFile.retrieveInfoFromLocalFileAccesses ++
        match sendFile.retrieveInfoFromLocalFile env.fileSystem with
        | .error _ => []
        | .ok _ => .assign .fileID :: UDTPFile.packToHeaderAccesses

/-- The accesses to the file object of `get_file()`.
SRCLINE: UDTP.cpp:467-482 -/
def getFileAccesses (env : Environment) (path : String) (u : UDTP) : List (Access FileField) :=
  if !u.ready then []
  else
    let getFile := UDTPFile.new env.fileMemory path
    UDTPFile.newAccesses ++ UDTPFile.checkFileExistAccesses ++
      if getFile.checkFileExist env.fileSystem then []
      else UDTPFile.setInfoToZeroAccesses ++ .assign .fileID :: UDTPFile.packToHeaderAccesses

end UDTP

end Udtp
