import Mathlib.Data.BitVec
import Udtp.Model.File

/-!
# Peer records

`UDTPPeer`: what an endpoint keeps about itself (position 0 of `_listPeers`) and about
every remote peer.  Files are shared between lists through pointers; a pointer is the
number of the object in the order of allocation.
-/

set_option autoImplicit false

namespace Udtp

/-- The function a thread started by `pthread_create()` runs. -/
inductive ThreadRoutine
  | flowThread
  | processThread
  deriving DecidableEq, Inhabited

/-- `initProcess` holds one bit an `InitProcessEvent`; `startedThreads` lists the threads
`pthread_create()` started for this record, `semProcessChunkThread` is the value of the
semaphore.
SRCLINE: UDTPPeer.h:163-186 -/
structure UDTPPeer where
  hostLocal : Bool
  initProcess : BitVec 8
  listenSocket : Socket
  chunkSize : UInt16
  uniqueID : UInt32
  connectionStatus : Bool
  address : SockAddrIn
  flowThreads : List ThreadRoutine
  processThreads : List ThreadRoutine
  startedThreads : List ThreadRoutine
  semProcessChunkThread : ℕ
  selfOverallFiles : List ℕ
  packetsCount : UInt32
  threadCount : UInt16
  activeFiles : List ℕ
  deriving DecidableEq, Inhabited

namespace UDTPPeer

/-- SRCLINE: UDTPPeer.h:62-65 -/
def setInitProcessComplete (event : InitProcessEvent) (p : UDTPPeer) : UDTPPeer :=
  { p with initProcess := p.initProcess ||| BitVec.twoPow 8 event.bit }

/-- SRCLINE: UDTPPeer.h:66-69 -/
def checkInitProcess (event : InitProcessEvent) (p : UDTPPeer) : Bool :=
  if p.initProcess &&& BitVec.twoPow 8 event.bit = 0#8 then false else true

/-- SRCLINE: UDTPPeer.h:70-72 -/
def setUniqueID (newID : UInt32) (p : UDTPPeer) : UDTPPeer := { p with uniqueID := newID }

/-- SRCLINE: UDTPPeer.h:102 -/
def setOnline (p : UDTPPeer) : UDTPPeer := { p with connectionStatus := true }

/-- SRCLINE: UDTPPeer.h:103 -/
def setOffline (p : UDTPPeer) : UDTPPeer := { p with connectionStatus := false }

/-- SRCLINE: UDTPPeer.h:104 -/
def isOnline (p : UDTPPeer) : Bool := p.connectionStatus

/-- SRCLINE: UDTPPeer.h:105 -/
def setAddress (newAddress : SockAddrIn) (p : UDTPPeer) : UDTPPeer :=
  { p with address := newAddress }

/-- SRCLINE: UDTPPeer.h:107 -/
def getChunkSize (p : UDTPPeer) : UInt16 := p.chunkSize

/-- SRCLINE: UDTPPeer.h:134-136 -/
def setHostLocal (hostLocal : Bool) (p : UDTPPeer) : UDTPPeer := { p with hostLocal := hostLocal }

/-- `ready` is the outcome of `sem_init()` and `pthread_mutex_init()`.
SRCLINE: UDTPPeer.cpp:16-22 -/
def startSelfMutex (ready : Bool) (p : UDTPPeer) : UDTPPeer :=
  if p.checkInitProcess .mutexSelfInit then p
  else if !ready then p
  else p.setInitProcessComplete .mutexSelfInit

/-- The constructor.  Queues and vectors are empty; unique ID, address, online and host
flags are what the memory held.
SRCLINE: UDTPPeer.h:44-52 -/
def new (memory : UDTPPeer) (ready : Bool) (listenSocket : Socket) : UDTPPeer :=
  let p := { memory with
    listenSocket := listenSocket
    initProcess := 0#8
    flowThreads := []
    processThreads := []
    startedThreads := []
    semProcessChunkThread := 0
    selfOverallFiles := []
    activeFiles := [] }
  { p.startSelfMutex ready with threadCount := 0, packetsCount := 0 }

/-- The threads a successful `add_thread()` leaves running.  Both `pthread_create()` calls
are given `UDTPPeer::flowThread`, and neither queue is pushed to.
SRCLINE: UDTPPeer.cpp:49-65 -/
def startThreads (p : UDTPPeer) : UDTPPeer :=
  { p with
    startedThreads := p.startedThreads ++ [.flowThread, .flowThread]
    threadCount := p.threadCount + 1 }

/-- `flowSocketReady` is the outcome of `setsockopt()` and `bind()`; the test of the
descriptor that `socket()` returned is one of an unsigned value below zero.
SRCLINE: UDTPPeer.cpp:24-67 -/
def addThread (flowSocketReady : Bool) (p : UDTPPeer) : Bool × UDTPPeer :=
  if !p.isOnline then (false, p)
  else if !flowSocketReady then (false, p)
  else (true, p.startThreads)

/-- `add_thread()` with the outcomes of both `pthread_create()` calls, which it does not look
at: a thread that was not created is counted all the same.
SRCLINE: UDTPPeer.cpp:24-67 -/
def addThreadCreating (flowSocketReady flowCreated processCreated : Bool) (p : UDTPPeer) :
    Bool × UDTPPeer :=
  if !p.isOnline then (false, p)
  else if !flowSocketReady then (false, p)
  else (true, { p with
    startedThreads := p.startedThreads ++ (if flowCreated then [.flowThread] else []) ++
      (if processCreated then [.flowThread] else [])
    threadCount := p.threadCount + 1 })

/-- Take the front of both queues away, post the semaphore and count one thread less. -/
def dropThread (p : UDTPPeer) : UDTPPeer :=
  { p with
    flowThreads := p.flowThreads.tail
    processThreads := p.processThreads.tail
    semProcessChunkThread := p.semProcessChunkThread + 1
    threadCount := p.threadCount - 1 }

/-- SRCLINE: UDTPPeer.cpp:74-96 -/
def removeThread (p : UDTPPeer) : Except Fault (Bool × UDTPPeer) :=
  if p.threadCount ≤ 0 then .ok (false, p)
  else if p.flowThreads = [] ∨ p.processThreads = [] then .error .frontOfEmptyQueue
  else .ok (true, p.dropThread)

/-- The loop of the destructor, with at most `fuel` calls. -/
def removeThreads : ℕ → UDTPPeer → Except Fault UDTPPeer
  | 0, p => .ok p
  | fuel + 1, p =>
    match p.removeThread with
    | .error fault => .error fault
    | .ok (false, p) => .ok p
    | .ok (true, p) => removeThreads fuel p

/-- The destructor removes the counted threads; one call more than there are threads
returns `false` and ends the loop.
SRCLINE: UDTPPeer.cpp:10-14 -/
def destructor (p : UDTPPeer) : Except Fault UDTPPeer :=
  removeThreads (p.threadCount.toNat + 1) p

/-! ## What a property of a record may ignore -/

/-- A property of a record that its file lists do not enter. -/
def IgnoresFileLists {α : Type} (g : UDTPPeer → α) : Prop :=
  ∀ p active overall, g { p with activeFiles := active, selfOverallFiles := overall } = g p

/-- A property of a record that its threads and their queues do not enter. -/
def IgnoresThreads {α : Type} (g : UDTPPeer → α) : Prop :=
  ∀ p flow process started sem count, g { p with
    flowThreads := flow, processThreads := process, startedThreads := started,
    semProcessChunkThread := sem, threadCount := count } = g p

/-- A property of a record that its initialisation bits and its online flag do not enter. -/
def IgnoresStanding {α : Type} (g : UDTPPeer → α) : Prop :=
  ∀ p init status, g { p with initProcess := init, connectionStatus := status } = g p

/-! ## The bits of `_initProcess` -/

/-- Each event of the process has a bit of its own. -/
theorem bit_injective : Function.Injective InitProcessEvent.bit := by
  intro a b h
  cases a <;> cases b <;> first | rfl | (simp [InitProcessEvent.bit] at h)

/-- Whether an event is complete is the bit of the event. -/
theorem checkInitProcess_eq (event : InitProcessEvent) (p : UDTPPeer) :
    p.checkInitProcess event = p.initProcess.getLsbD event.bit := by
  have hpow : BitVec.twoPow 8 event.bit ≠ 0#8 := by cases event <;> decide
  simp only [checkInitProcess, BitVec.and_twoPow]
  cases p.initProcess.getLsbD event.bit <;> simp [hpow]

/-- Recording an event records that event and keeps the others. -/
@[simp]
theorem checkInitProcess_setInitProcessComplete (event other : InitProcessEvent) (p : UDTPPeer) :
    (p.setInitProcessComplete event).checkInitProcess other =
      (p.checkInitProcess other || decide (event = other)) := by
  rw [checkInitProcess_eq, checkInitProcess_eq, setInitProcessComplete]
  simp only [BitVec.getLsbD_or, BitVec.getLsbD_twoPow]
  have hlt : event.bit < 8 := by cases event <;> decide
  congr 1
  simp [hlt, bit_injective.eq_iff]

/-- Going offline completes nothing and forgets nothing. -/
@[simp]
theorem checkInitProcess_setOffline (event : InitProcessEvent) (p : UDTPPeer) :
    p.setOffline.checkInitProcess event = p.checkInitProcess event := rfl

/-- After `set_offline()` a record is offline. -/
@[simp]
theorem isOnline_setOffline (p : UDTPPeer) : p.setOffline.isOnline = false := rfl

/-- Completing an event does not change who is online. -/
@[simp]
theorem isOnline_setInitProcessComplete (event : InitProcessEvent) (p : UDTPPeer) :
    (p.setInitProcessComplete event).isOnline = p.isOnline := rfl

/-- Going online completes nothing. -/
@[simp]
theorem checkInitProcess_setOnline (event : InitProcessEvent) (p : UDTPPeer) :
    p.setOnline.checkInitProcess event = p.checkInitProcess event := rfl

/-- A unique ID completes nothing. -/
@[simp]
theorem checkInitProcess_setUniqueID (event : InitProcessEvent) (id : UInt32) (p : UDTPPeer) :
    (p.setUniqueID id).checkInitProcess event = p.checkInitProcess event := rfl

/-- An address completes nothing. -/
@[simp]
theorem checkInitProcess_setAddress (event : InitProcessEvent) (a : SockAddrIn) (p : UDTPPeer) :
    (p.setAddress a).checkInitProcess event = p.checkInitProcess event := rfl

/-- The local flag completes nothing. -/
@[simp]
theorem checkInitProcess_setHostLocal (event : InitProcessEvent) (b : Bool) (p : UDTPPeer) :
    (p.setHostLocal b).checkInitProcess event = p.checkInitProcess event := rfl

/-- Only the self mutex is recorded by the constructor. -/
theorem checkInitProcess_startSelfMutex {p : UDTPPeer} (hp : p.initProcess = 0#8) (ready : Bool)
    (event : InitProcessEvent) :
    (p.startSelfMutex ready).checkInitProcess event =
      (decide (event = .mutexSelfInit) && ready) := by
  have hnone : ∀ e, p.checkInitProcess e = false := by
    intro e
    simp [checkInitProcess_eq, hp]
  simp only [startSelfMutex, hnone]
  cases ready
  · simpa using hnone event
  · simp [hnone, @eq_comm _ event]

/-- A new record has no event complete but perhaps that of its mutex. -/
theorem checkInitProcess_new (memory : UDTPPeer) (ready : Bool) (socket : Socket)
    (event : InitProcessEvent) (h : event ≠ .mutexSelfInit) :
    (new memory ready socket).checkInitProcess event = false := by
  refine (checkInitProcess_startSelfMutex rfl ready event).trans ?_
  simp [h]

/-- The event of the mutex is complete iff the mutex could be set up. -/
theorem checkInitProcess_new_mutexSelfInit (memory : UDTPPeer) (ready : Bool) (socket : Socket) :
    (new memory ready socket).checkInitProcess .mutexSelfInit = ready := by
  refine (checkInitProcess_startSelfMutex rfl ready .mutexSelfInit).trans ?_
  simp

/-- Starting the self mutex records its event at most. -/
theorem startSelfMutex_ignored {α : Type} {g : UDTPPeer → α} (hg : IgnoresStanding g)
    (ready : Bool) (p : UDTPPeer) : g (p.startSelfMutex ready) = g p := by
  unfold startSelfMutex
  split
  · rfl
  split
  · rfl
  · exact hg p _ p.connectionStatus

/-- A new record has the socket it was made with. -/
@[simp]
theorem new_listenSocket (memory : UDTPPeer) (ready : Bool) (socket : Socket) :
    (new memory ready socket).listenSocket = socket :=
  startSelfMutex_ignored (g := listenSocket) (fun _ _ _ => rfl) ready _

/-- A new record has no flow thread queued. -/
@[simp]
theorem new_flowThreads (memory : UDTPPeer) (ready : Bool) (socket : Socket) :
    (new memory ready socket).flowThreads = [] :=
  startSelfMutex_ignored (g := flowThreads) (fun _ _ _ => rfl) ready _

/-- A new record has no file. -/
@[simp]
theorem new_selfOverallFiles (memory : UDTPPeer) (ready : Bool) (socket : Socket) :
    (new memory ready socket).selfOverallFiles = [] :=
  startSelfMutex_ignored (g := selfOverallFiles) (fun _ _ _ => rfl) ready _

/-- A new record counts no thread. -/
@[simp]
theorem new_threadCount (memory : UDTPPeer) (ready : Bool) (socket : Socket) :
    (new memory ready socket).threadCount = 0 := rfl

/-! ## Threads -/

/-- Without counted threads there is nothing to remove. -/
theorem removeThread_of_threadCount_zero {p : UDTPPeer} (h : p.threadCount = 0) :
    p.removeThread = .ok (false, p) := by
  simp [removeThread, h]

/-- Without counted threads the destructor does nothing. -/
theorem destructor_of_threadCount_zero {p : UDTPPeer} (h : p.threadCount = 0) :
    p.destructor = .ok p := by
  simp [destructor, h, removeThreads, removeThread_of_threadCount_zero]

/-- As long as the queues are empty, a record with counted threads cannot be destroyed:
the loop takes the front of an empty queue. -/
theorem destructor_of_threadCount_ne_zero {p : UDTPPeer} (h : p.threadCount ≠ 0)
    (hq : p.flowThreads = []) : p.destructor = .error .frontOfEmptyQueue := by
  have hle : ¬ p.threadCount ≤ 0 := by simpa using h
  simp [destructor, removeThreads, removeThread, hle, hq]

/-- A record whose queues hold an entry for each thread it counts. -/
structure Queued (p : UDTPPeer) : Prop where
  flowThreads : p.threadCount.toNat ≤ p.flowThreads.length
  processThreads : p.threadCount.toNat ≤ p.processThreads.length

/-- With counted threads a removal takes the front of both queues, or traps. -/
theorem removeThread_of_threadCount_pos {p : UDTPPeer} (h : 0 < p.threadCount.toNat) :
    p.removeThread = if p.flowThreads = [] ∨ p.processThreads = [] then .error .frontOfEmptyQueue
      else .ok (true, p.dropThread) := by
  have hpos : ¬ p.threadCount ≤ 0 := by
    rw [UInt16.le_iff_toNat_le, UInt16.toNat_zero]
    omega
  rw [removeThread, if_neg hpos]

/-- Dropping a thread counts down. -/
theorem dropThread_threadCount {p : UDTPPeer} (h : 0 < p.threadCount.toNat) :
    p.dropThread.threadCount.toNat = p.threadCount.toNat - 1 := by
  have hle : (1 : UInt16) ≤ p.threadCount := by
    rw [UInt16.le_iff_toNat_le, UInt16.toNat_one]
    omega
  exact UInt16.toNat_sub_of_le _ _ hle

/-- Taking a thread away keeps whether the queues have enough entries. -/
theorem dropThread_queued {p : UDTPPeer} (h : 0 < p.threadCount.toNat)
    (hflow : p.flowThreads ≠ []) (hprocess : p.processThreads ≠ []) :
    p.dropThread.Queued ↔ p.Queued := by
  have hcount := dropThread_threadCount h
  have hflow' := List.length_pos_iff.mpr hflow
  have hprocess' := List.length_pos_iff.mpr hprocess
  have hlengths : p.dropThread.flowThreads.length = p.flowThreads.length - 1 ∧
      p.dropThread.processThreads.length = p.processThreads.length - 1 := by
    simp [dropThread]
  constructor
  · rintro ⟨hf, hp⟩
    constructor <;> omega
  · rintro ⟨hf, hp⟩
    constructor <;> omega

/-- The destructor returns iff the queues hold an entry for each counted thread. -/
theorem destructor_ok_iff (p : UDTPPeer) : (∃ q, p.destructor = .ok q) ↔ p.Queued := by
  have hloop : ∀ fuel (p : UDTPPeer), p.threadCount.toNat < fuel →
      ((∃ q, removeThreads fuel p = .ok q) ↔ p.Queued) := by
    intro fuel
    induction fuel with
    | zero =>
      intro p hlt
      omega
    | succ fuel ih =>
      intro p hlt
      by_cases hpos : 0 < p.threadCount.toNat
      · rw [removeThreads, removeThread_of_threadCount_pos hpos]
        by_cases hempty : p.flowThreads = [] ∨ p.processThreads = []
        · rw [if_pos hempty]
          constructor
          · rintro ⟨q, hq⟩
            cases hq
          · rintro ⟨hf, hp⟩
            rcases hempty with hempty | hempty
            · rw [hempty, List.length_nil] at hf
              omega
            · rw [hempty, List.length_nil] at hp
              omega
        · have hne := not_or.mp hempty
          rw [if_neg hempty, ← dropThread_queued hpos hne.1 hne.2]
          apply ih
          have hcount := dropThread_threadCount hpos
          omega
      · have hzero : p.threadCount = 0 := by
          apply UInt16.toNat.inj
          rw [UInt16.toNat_zero]
          omega
        rw [removeThreads, removeThread_of_threadCount_zero hzero]
        constructor
        · intro _
          constructor <;> omega
        · intro _
          exact ⟨p, rfl⟩
  exact hloop _ p (Nat.lt_succ_self _)

end UDTPPeer

end Udtp
