import Mathlib.Logic.Function.Iterate
import Udtp.Model.Packets

/-!
# Files

`UDTPFile` with the functions that the negotiation of a transfer calls.  The constructor
takes the memory the object is built in, so that the members it does not assign keep
what that memory held.
-/

set_option autoImplicit false

namespace Udtp

/-- SRCLINE: UDTPThreadFile.h:9-22 -/
structure UDTPThreadFile where
  threadType : ThreadType
  alive : Bool
  deriving DecidableEq, Inhabited

/-- `myUDTP` holds the settings behind the pointer `_myUDTP`.  Nothing assigns it but a setter
without a caller; `myUDTPUnmapped` says that it holds no address that can be read.
`semFileThread` is the value of the semaphore.
SRCLINE: UDTPFile.h:115-145 -/
structure UDTPFile where
  path : String
  fileID : UInt32
  numberOfChunks : UInt16
  sizeOfFile : UInt32
  chunkSize : UInt32
  approver : Bool
  transferType : TransferType
  chunksCompletedCount : UInt32
  chunksCompleted : List UInt8
  maxQueueLength : UInt16
  hasApprovedHeader : Bool
  active : Bool
  critError : Bool
  errorMsg : String
  currentChunk : UInt16
  fileThreads : List UDTPThreadFile
  semFileThread : ℕ
  myUDTP : UDTPSetup
  myUDTPUnmapped : Bool
  deriving DecidableEq, Inhabited

/-- What the handling of one packet finds around it: the settings in force, the local
files, the answers of the system calls in `add_thread()`, the memory a new `UDTPFile` is
built in, and the results of functions that run off their end. -/
structure Environment where
  setup : UDTPSetup
  fileSystem : FileSystem
  flowSocketReady : Bool
  fileMemory : UDTPFile
  fellOffUnpack : Bool
  fellOffRespond : Bool
  fellOffThreadType : ThreadType
  deriving Inhabited

namespace UDTPFile

/-- SRCLINE: UDTPFile.cpp:16-24 -/
def setDefaults (f : UDTPFile) : UDTPFile :=
  { f with
    currentChunk := 0
    errorMsg := ""
    hasApprovedHeader := false
    critError := false
    active := false }

/-- The constructor from a path.  Queues and vectors are empty, everything else is what
the memory held.
SRCLINE: UDTPFile.cpp:25-31 -/
def new (memory : UDTPFile) (path : String) : UDTPFile :=
  let f := { memory with chunksCompleted := [], fileThreads := [] }
  { f.setDefaults with path := path, active := false }

/-- The length, narrowed to 32 bits, is tested only for being zero.
SRCLINE: UDTPFile.cpp:35-44 -/
def checkFileExist (fs : FileSystem) (f : UDTPFile) : Bool :=
  let tempFileLength := UInt32.ofInt (fs.tellg f.path)
  if tempFileLength = 0 then false else true

/-- SRCLINE: UDTPFile.cpp:55-63 -/
def unpackFromHeader (h : UDTPHeader) (f : UDTPFile) : UDTPFile :=
  { f with
    numberOfChunks := h.numberOfChunks
    sizeOfFile := h.sizeOfFile
    fileID := h.fileID.toUInt32
    transferType := h.transferType }

/-- SRCLINE: UDTPFile.cpp:64-70 -/
def packToHeader (f : UDTPFile) (h : UDTPHeader) : UDTPHeader :=
  { h with
    numberOfChunks := f.numberOfChunks
    sizeOfFile := f.sizeOfFile
    fileID := f.fileID.toUInt16
    transferType := f.transferType }

/-- SRCLINE: UDTPFile.cpp:71-75 -/
def setChunkSizeFromSetup (f : UDTPFile) : UDTPFile :=
  { f with chunkSize := f.myUDTP.chunkSizeAgreement.toUInt32 }

/-- The memory limit is read as a signed number, and the quotient narrowed to 16 bits.
SRCLINE: UDTPFile.cpp:76-80 -/
def setMaxQueueLengthFromSetup (f : UDTPFile) : Except Fault UDTPFile :=
  if f.myUDTP.chunkSizeAgreement = 0 then .error .divisionByZero
  else .ok { f with
    maxQueueLength := UInt16.ofInt
      (f.myUDTP.maxMemoryUsagePerFile.toBitVec.toInt.tdiv f.myUDTP.chunkSizeAgreement.toNat) }

/-- The number of chunks `retrieve_info_from_local_file()` computes from a size, with
the remainder taken of the quotient.
SRCLINE: UDTPFile.cpp:229-233 -/
def retrieveNumberOfChunks (size : UInt16) (chunkSize : UInt32) : UInt16 :=
  let chunks := (size.toUInt32 / chunkSize).toUInt16
  if chunks.toUInt32 % chunkSize > 0 then chunks + 1 else chunks

/-- The stream position is narrowed to 16 bits.
SRCLINE: UDTPFile.cpp:222-241 -/
def retrieveInfoFromLocalFile (fs : FileSystem) (f : UDTPFile) : Except Fault UDTPFile :=
  let retrieveSizeOfFile := UInt16.ofInt (fs.tellg f.path)
  if f.chunkSize = 0 then .error .divisionByZero
  else .ok { f with
    sizeOfFile := retrieveSizeOfFile.toUInt32
    numberOfChunks := retrieveNumberOfChunks retrieveSizeOfFile f.chunkSize }

/-- SRCLINE: UDTPFile.cpp:81-92 -/
def addFileThread (type : ThreadType) (f : UDTPFile) : UDTPFile :=
  if f.active && f.fileThreads.length < f.myUDTP.maxNumberOfFileThreads.toNat then
    { f with fileThreads := f.fileThreads ++ [{ threadType := type, alive := true }] }
  else f

/-- SRCLINE: UDTPFile.cpp:105-115 -/
def emptyAllChunkStatus (f : UDTPFile) : UDTPFile :=
  { f with
    chunksCompletedCount := 0
    chunksCompleted := List.replicate f.numberOfChunks.toNat 0 }

/-- A transfer type that is neither `Push` nor `Pull` runs off the end.
SRCLINE: UDTPFile.cpp:117-124 -/
def getThreadType (env : Environment) (f : UDTPFile) : ThreadType :=
  match f.approver, f.transferType with
  | true, .pull => .outgoing
  | false, .pull => .incoming
  | true, .push => .incoming
  | false, .push => .outgoing
  | _, .unknown _ => env.fellOffThreadType

/-- `_active = active` -/
def setActive (active : Bool) (f : UDTPFile) : UDTPFile := { f with active := active }

/-- The value `sem_init(&_semFileThread, 0, tickets)` leaves. -/
def setSemFileThread (tickets : ℕ) (f : UDTPFile) : UDTPFile :=
  { f with semFileThread := tickets }

/-- The tickets the semaphore is loaded with: one a chunk for an outgoing file.
SRCLINE: UDTPFile.cpp:130-137 -/
def tickets (env : Environment) (f : UDTPFile) : ℕ :=
  if f.getThreadType env = .outgoing then f.numberOfChunks.toNat else 0

/-- The threads are added before the file is set active.
SRCLINE: UDTPFile.cpp:125-146 -/
def beginFileProcessing (env : Environment) (f : UDTPFile) : Bool × UDTPFile :=
  if !f.hasApprovedHeader then (false, f)
  else if f.critError then (false, f)
  else if !semInit (f.tickets env) then (false, f)
  else
    let g := emptyAllChunkStatus (setSemFileThread (f.tickets env) f)
    let h := (addFileThread (f.getThreadType env))^[g.myUDTP.startingNumberOfFileThreads.toNat] g
    (true, h.setActive true)

/-- Whether `begin_file_processing()` comes to the settings behind `_myUDTP` and finds no address
in it that can be read.
SRCLINE: UDTPFile.cpp:127-139 -/
def beginTraps (env : Environment) (f : UDTPFile) : Bool :=
  f.hasApprovedHeader && !f.critError && semInit (f.tickets env) && f.myUDTPUnmapped

/-! ## What the functions leave alone -/

/-- The file with some new threads at the end of its queue. -/
def addThreads (type : ThreadType) (k : ℕ) (f : UDTPFile) : UDTPFile :=
  { f with fileThreads := f.fileThreads ++
      List.replicate k { threadType := type, alive := true } }

/-- The number of threads that so many calls of `add_file_thread()` add. -/
def room (n : ℕ) (f : UDTPFile) : ℕ :=
  if f.active then min n (f.myUDTP.maxNumberOfFileThreads.toNat - f.fileThreads.length) else 0

/-- So many calls of `add_file_thread()` add as many threads as there is room for. -/
theorem addFileThread_iterate (type : ThreadType) (n : ℕ) (f : UDTPFile) :
    (addFileThread type)^[n] f = f.addThreads type (f.room n) := by
  induction n with
  | zero => simp [room, addThreads]
  | succ n ih =>
    rw [Function.iterate_succ_apply', ih]
    cases hactive : f.active with
    | false => simp [room, addThreads, addFileThread, hactive]
    | true =>
      by_cases hroom : n < f.myUDTP.maxNumberOfFileThreads.toNat - f.fileThreads.length
      · have hlt : f.fileThreads.length + n < f.myUDTP.maxNumberOfFileThreads.toNat := by omega
        have hn : min n (f.myUDTP.maxNumberOfFileThreads.toNat - f.fileThreads.length) = n := by
          omega
        have hsucc : min (n + 1)
            (f.myUDTP.maxNumberOfFileThreads.toNat - f.fileThreads.length) = n + 1 := by omega
        simp [room, addThreads, addFileThread, hactive, hn, hsucc, hlt, List.replicate_succ']
      · have hge : ¬ f.fileThreads.length +
            (f.myUDTP.maxNumberOfFileThreads.toNat - f.fileThreads.length) <
            f.myUDTP.maxNumberOfFileThreads.toNat := by omega
        have hmin : min (n + 1) (f.myUDTP.maxNumberOfFileThreads.toNat - f.fileThreads.length) =
            f.myUDTP.maxNumberOfFileThreads.toNat - f.fileThreads.length := by omega
        simp [room, addThreads, addFileThread, hactive, Nat.min_eq_right (Nat.not_lt.mp hroom),
          hmin, hge]

/-- One ticket a chunk is never too many for a semaphore. -/
theorem semInit_tickets (env : Environment) (f : UDTPFile) : semInit (f.tickets env) = true := by
  have := f.numberOfChunks.toNat_lt
  apply decide_eq_true
  unfold tickets semValueMax
  split <;> omega

/-- The file as a successful start leaves it: the semaphore and the status table are set
up and the file is active. -/
def started (env : Environment) (f : UDTPFile) : UDTPFile :=
  setActive true (emptyAllChunkStatus (setSemFileThread (f.tickets env) f))

/-- A file is started iff its header was approved and it has no error.  Only a file that is
active already gets threads. -/
theorem beginFileProcessing_cases (env : Environment) (f : UDTPFile) :
    f.beginFileProcessing env =
      if f.hasApprovedHeader = true ∧ f.critError = false then
        (true, (f.started env).addThreads (f.getThreadType env)
          (f.room f.myUDTP.startingNumberOfFileThreads.toNat))
      else (false, f) := by
  simp only [beginFileProcessing, semInit_tickets, addFileThread_iterate]
  cases f.hasApprovedHeader with
  | false => simp
  | true =>
    cases f.critError with
    | true => simp
    | false => rfl

/-- A file that is not active is started, or left as it is. -/
theorem beginFileProcessing_eq (env : Environment) (f : UDTPFile) (h : f.active = false) :
    f.beginFileProcessing env =
      if f.hasApprovedHeader = true ∧ f.critError = false then (true, f.started env)
      else (false, f) := by
  rw [beginFileProcessing_cases]
  simp [room, h, addThreads]

/-- What a transfer negotiates about a file. -/
structure SameTransfer (f g : UDTPFile) : Prop where
  path : g.path = f.path
  fileID : g.fileID = f.fileID
  sizeOfFile : g.sizeOfFile = f.sizeOfFile
  numberOfChunks : g.numberOfChunks = f.numberOfChunks
  approver : g.approver = f.approver
  transferType : g.transferType = f.transferType

/-- Starting a file keeps which transfer it is for. -/
theorem beginFileProcessing_sameTransfer (env : Environment) (f : UDTPFile)
    (h : f.active = false) : SameTransfer f (f.beginFileProcessing env).2 := by
  rw [beginFileProcessing_eq env f h]
  split
  · exact ⟨rfl, rfl, rfl, rfl, rfl, rfl⟩
  · exact ⟨rfl, rfl, rfl, rfl, rfl, rfl⟩

/-- A new file is not active. -/
@[simp]
theorem new_active (memory : UDTPFile) (path : String) : (new memory path).active = false := rfl

end UDTPFile

end Udtp
