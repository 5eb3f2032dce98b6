import Udtp.Model.Peer

/-!
# Endpoints

`UDTP`: the object a HOST or a PEER runs on.  The settings behind `setup()` are not part
of it, because `setup()` hands out a pointer to them; every handling of a packet reads
the ones in force.
-/

set_option autoImplicit false

namespace Udtp

/-- `files` are the `UDTPFile` objects that were created and kept, in the order of
allocation; `overallFiles` and the lists in the peer records hold their numbers.
SRCLINE: UDTP.h:135-163 -/
structure UDTP where
  socketType : SocketType
  isAlive : Bool
  listPeers : List UDTPPeer
  listenSocket : Socket
  files : List UDTPFile
  overallFiles : List ℕ
  fileIDCount : UInt32
  uniqueIDCount : UInt32
  deriving DecidableEq, Inhabited

namespace UDTP

/-- The constructor.
SRCLINE: UDTP.h:76-81 -/
def new (memory : UDTP) : UDTP :=
  { memory with
    isAlive := false
    fileIDCount := 0
    listPeers := []
    files := []
    overallFiles := [] }

/-! ## The list of peers -/

/-- SRCLINE: UDTP.cpp:139-146 -/
def getPeer (u : UDTP) (posID : ℕ) : Option UDTPPeer := u.listPeers[posID]?

/-- Change the record at a position through a pointer to it. -/
def modifyPeer (posID : ℕ) (f : UDTPPeer → UDTPPeer) (u : UDTP) : UDTP :=
  { u with listPeers := u.listPeers.modify posID f }

/-- `ready` is the outcome of the system calls in the record's constructor.
SRCLINE: UDTP.cpp:96-106 -/
def addPeer (memory : UDTPPeer) (ready : Bool) (listenSocketOfPeer : Socket) (u : UDTP) :
    ℕ × UDTP :=
  let newPeer := (UDTPPeer.new memory ready listenSocketOfPeer).setOnline
  let u := { u with listPeers := u.listPeers ++ [newPeer] }
  (u.listPeers.length - 1, u)

/-- SRCLINE: UDTP.cpp:148-161 -/
def removePeer (posID : ℕ) (u : UDTP) : Except Fault (Bool × UDTP) :=
  match u.listPeers[posID]? with
  | none => .ok (false, u)
  | some p =>
    match p.destructor with
    | .error fault => .error fault
    | .ok _ => .ok (true, { u with listPeers := u.listPeers.eraseIdx posID })

/-! ## Files -/

/-- The counter has 32 bits, what is handed out has 16.
SRCLINE: UDTP.h:122-125 -/
def getNextFileID (u : UDTP) : UInt16 × UDTP :=
  ((u.fileIDCount + 1).toUInt16, { u with fileIDCount := u.fileIDCount + 1 })

/-- Keep a new file object and list it; the result is its number.
SRCLINE: UDTP.cpp:442-445 -/
def addFileToList (f : UDTPFile) (u : UDTP) : ℕ × UDTP :=
  (u.files.length, { u with
    files := u.files ++ [f]
    overallFiles := u.overallFiles ++ [u.files.length] })

/-- The first listed file with an ID.
SRCLINE: UDTP.cpp:434-441 -/
def getFileWithID (fileID : UInt32) (u : UDTP) : Option ℕ :=
  u.overallFiles.find? fun file => (u.files[file]?.map UDTPFile.fileID) = some fileID

/-- The first file of a record's own list with an ID, and where it has none the first of the
endpoint.
SRCLINE: UDTPPeer.cpp:169-184 -/
def searchFileByID (fileID : UInt32) (p : UDTPPeer) (u : UDTP) : Option ℕ :=
  match p.selfOverallFiles.find? fun file =>
      (u.files[file]?.map UDTPFile.fileID) = some fileID with
  | some searchFile => some searchFile
  | none => u.getFileWithID fileID

/-- `UDTPPeer::start_file()` on the record at a position.  The file enters both lists of
the record whether or not it could be started.
SRCLINE: UDTPPeer.cpp:68-73 -/
def startFile (env : Environment) (posID : ℕ) (file : ℕ) (u : UDTP) : UDTP :=
  let u := u.modifyPeer posID fun p =>
    { p with
      activeFiles := p.activeFiles ++ [file]
      selfOverallFiles := p.selfOverallFiles ++ [file] }
  { u with files := u.files.modify file fun f => (f.beginFileProcessing env).2 }

/-! ## Starting a session -/

/-- The answers of the system calls `start()` makes, and the memory of the new record.
`listenSocketStarted` is the result of `start_listen_socket()`. -/
structure StartOutcome where
  descriptor : UInt32
  listenSocketStarted : Bool
  mutexStarted : Bool
  peerMemory : UDTPPeer
  selfMutexReady : Bool
  deriving Inhabited

/-- SRCLINE: UDTP.cpp:20-46 -/
def start (outcome : StartOutcome) (socketType : SocketType) (u : UDTP) : SocketReturn × UDTP :=
  let u := { u with uniqueIDCount := 0 }
  if u.isAlive then (.alreadyRunning, u)
  else
    let u := { u with socketType := socketType, listenSocket := ⟨outcome.descriptor, 0⟩ }
    if !outcome.listenSocketStarted then (.socketNotInit, u)
    else if !outcome.mutexStarted then (.couldNotStartMutex, u)
    else
      let u := (u.addPeer outcome.peerMemory outcome.selfMutexReady u.listenSocket).2
      let u := u.modifyPeer 0 fun self =>
        ((self.setUniqueID 0).setHostLocal (socketType = .host)).setInitProcessComplete
          .mutexFrameworkInit
      let u := u.modifyPeer 0 (UDTPPeer.setInitProcessComplete .listenSocket)
      let u := u.modifyPeer 0 (UDTPPeer.setInitProcessComplete .queueThreads)
      let u := u.modifyPeer 0 (UDTPPeer.setInitProcessComplete .listenThread)
      (.success, { u with isAlive := true })

/-- SRCLINE: UDTP.cpp:90-94 -/
def stop (u : UDTP) : UDTP := { u with isAlive := false }

/-- An endpoint right after the first `start()` of its life succeeded. -/
def Started (socketType : SocketType) (u : UDTP) : Prop :=
  ∃ memory outcome, start outcome socketType (new memory) = (.success, u)

/-- What the first `start()` leaves: one record, of the endpoint itself, and no files. -/
structure Fresh (u : UDTP) (selfPeer : UDTPPeer) : Prop where
  listPeers : u.listPeers = [selfPeer]
  listenSocket : selfPeer.listenSocket = u.listenSocket
  connection : u.listenSocket.connection = 0
  handshake : selfPeer.checkInitProcess .handshake = false
  threadCount : selfPeer.threadCount = 0
  flowThreads : selfPeer.flowThreads = []
  files : u.files = []
  overallFiles : u.overallFiles = []
  fileIDCount : u.fileIDCount = 0
  uniqueIDCount : u.uniqueIDCount = 0

/-- The first `start()` leaves a fresh endpoint. -/
theorem Started.fresh {socketType : SocketType} {u : UDTP} (h : Started socketType u) :
    ∃ selfPeer, Fresh u selfPeer := by
  obtain ⟨memory, outcome, h⟩ := h
  simp only [start, new, Bool.false_eq_true, if_false] at h
  split at h
  · cases h
  split at h
  · cases h
  cases h
  refine ⟨_, rfl, ?_, rfl, ?_, rfl, ?_, rfl, rfl, rfl, rfl⟩
  · simp [modifyPeer, addPeer, UDTPPeer.setInitProcessComplete, UDTPPeer.setHostLocal,
      UDTPPeer.setUniqueID, UDTPPeer.setOnline]
  · simp [UDTPPeer.checkInitProcess_new]
  · simp [UDTPPeer.setInitProcessComplete, UDTPPeer.setHostLocal, UDTPPeer.setUniqueID,
      UDTPPeer.setOnline]

/-- A HOST or PEER started in cleared memory, with 3 for its listen socket. -/
def startedIn (socketType : SocketType) : UDTP :=
  (start ⟨3, true, true, default, true⟩ socketType (new default)).2

/-- The endpoint that `start()` makes from default memory is one that was started. -/
theorem startedIn_started (socketType : SocketType) : Started socketType (startedIn socketType) :=
  ⟨default, ⟨3, true, true, default, true⟩, rfl⟩

/-! ## Removing a record -/

/-- A removal that returns erases the position, which changes nothing beyond the end. -/
theorem removePeer_ok {u v : UDTP} {posID : ℕ} {b : Bool} (h : u.removePeer posID = .ok (b, v)) :
    v = { u with listPeers := u.listPeers.eraseIdx posID } := by
  unfold removePeer at h
  split at h
  · rename_i hnone
    cases h
    rw [List.eraseIdx_of_length_le (List.getElem?_eq_none_iff.mp hnone)]
  split at h
  · cases h
  · cases h
    rfl

/-- A record without counted threads is removed. -/
theorem removePeer_of_threadCount_zero {u : UDTP} {posID : ℕ} {p : UDTPPeer}
    (hp : u.getPeer posID = some p) (h : p.threadCount = 0) :
    u.removePeer posID = .ok (true, { u with listPeers := u.listPeers.eraseIdx posID }) := by
  rw [removePeer, show u.listPeers[posID]? = some p from hp]
  simp [UDTPPeer.destructor_of_threadCount_zero h]

/-- A record with counted threads and empty queues cannot be removed. -/
theorem removePeer_of_threadCount_ne_zero {u : UDTP} {posID : ℕ} {p : UDTPPeer}
    (hp : u.getPeer posID = some p) (h : p.threadCount ≠ 0) (hq : p.flowThreads = []) :
    u.removePeer posID = .error .frontOfEmptyQueue := by
  rw [removePeer, show u.listPeers[posID]? = some p from hp]
  simp [UDTPPeer.destructor_of_threadCount_ne_zero h hq]

/-! ## Reading one record after another was changed -/

/-- The record at the changed position is the changed one. -/
@[simp]
theorem getPeer_modifyPeer_self (u : UDTP) (posID : ℕ) (f : UDTPPeer → UDTPPeer) :
    (u.modifyPeer posID f).getPeer posID = (u.getPeer posID).map f := by
  simp [getPeer, modifyPeer]

/-- The records at other positions stay as they were. -/
theorem getPeer_modifyPeer_ne (u : UDTP) {posID other : ℕ} (f : UDTPPeer → UDTPPeer)
    (h : other ≠ posID) : (u.modifyPeer posID f).getPeer other = u.getPeer other := by
  simp [getPeer, modifyPeer, h.symm]

/-- A record after a change through a pointer: the changed one, or another one as it was. -/
theorem getPeer_modifyPeer_cases {u : UDTP} {posID other : ℕ} {f : UDTPPeer → UDTPPeer}
    {p p' : UDTPPeer} (hp : u.getPeer other = some p)
    (hp' : (u.modifyPeer posID f).getPeer other = some p') :
    (other = posID ∧ p' = f p) ∨ (other ≠ posID ∧ p' = p) := by
  by_cases h : other = posID
  · subst h
    rw [getPeer_modifyPeer_self, hp] at hp'
    exact Or.inl ⟨rfl, (Option.some.inj hp').symm⟩
  · rw [getPeer_modifyPeer_ne u f h, hp] at hp'
    exact Or.inr ⟨h, (Option.some.inj hp').symm⟩

/-- Changing records through pointers keeps a property of the records that no change
affects. -/
theorem map_listPeers_modifyPeer {α : Type} (g : UDTPPeer → α) (u : UDTP) (posID : ℕ)
    (f : UDTPPeer → UDTPPeer) (h : ∀ p, g (f p) = g p) :
    (u.modifyPeer posID f).listPeers.map g = u.listPeers.map g := by
  apply List.ext_getElem?
  intro k
  simp only [modifyPeer, List.getElem?_map, List.getElem?_modify]
  cases u.listPeers[k]? with
  | none => rfl
  | some p =>
    by_cases hk : posID = k
    · simp [hk, h]
    · simp [hk]

/-- What is true of a property of all records stays true where that property is kept. -/
theorem forall_listPeers_of_map_eq {α : Type} {g : UDTPPeer → α} (Q : α → Prop) {u u' : UDTP}
    (h : u'.listPeers.map g = u.listPeers.map g) (hu : ∀ p ∈ u.listPeers, Q (g p)) :
    ∀ p ∈ u'.listPeers, Q (g p) := by
  rw [← List.forall_mem_map] at hu ⊢
  exact h ▸ hu

/-- The record at a position before a property of all records was kept. -/
theorem getPeer_of_map_eq {α : Type} {g : UDTPPeer → α} {u u' : UDTP}
    (h : u'.listPeers.map g = u.listPeers.map g) {posID : ℕ} {p' : UDTPPeer}
    (hp' : u'.getPeer posID = some p') : ∃ p, u.getPeer posID = some p ∧ g p' = g p := by
  have hget := congrArg (·[posID]?) h
  simp only [List.getElem?_map, show u'.listPeers[posID]? = some p' from hp'] at hget
  obtain ⟨p, hp, hgp⟩ := Option.map_eq_some_iff.mp hget.symm
  exact ⟨p, hp, hgp.symm⟩

/-- Starting a file keeps what the file lists of the records do not enter. -/
theorem map_listPeers_startFile {α : Type} (g : UDTPPeer → α) (env : Environment) (u : UDTP)
    (posID file : ℕ)
    (h : UDTPPeer.IgnoresFileLists g) :
    (u.startFile env posID file).listPeers.map g = u.listPeers.map g :=
  map_listPeers_modifyPeer g u posID _ fun p => h p _ _

end UDTP

end Udtp
