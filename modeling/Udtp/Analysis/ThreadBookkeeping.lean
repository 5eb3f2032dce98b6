import Udtp.Computation.StepMachine
import Udtp.Model.Peer

/-!
# The books of flow threads

A record counts its pairs of threads and is meant to hold the workers of each pair in two
queues.  `add_thread()` counts a pair and pushes nothing, so the count and the queues agree
exactly as long as no call of it succeeds (`booksKept_iff`); the destructor, which takes the
counted workers from the queues, is safe in the same case.
-/

set_option autoImplicit false

namespace Udtp

open StepMachine

/-- A call of `add_thread()`, with the outcomes of its system calls, or of
`remove_thread()`. -/
inductive ThreadCall
  | add (flowSocketReady flowCreated processCreated : Bool)
  | remove

namespace ThreadCall

/-- The result of a call and the record after it. -/
def perform (p : UDTPPeer) : ThreadCall → Except Fault (Bool × UDTPPeer)
  | add flowSocketReady flowCreated processCreated =>
    .ok (p.addThreadCreating flowSocketReady flowCreated processCreated)
  | remove => p.removeThread

/-- The record after a call. -/
def handle (p : UDTPPeer) (c : ThreadCall) : Except Fault UDTPPeer := (c.perform p).map Prod.snd

/-- The call adds a thread to the record. -/
def Adds (p : UDTPPeer) : ThreadCall → Prop
  | add flowSocketReady _ _ => p.isOnline = true ∧ flowSocketReady = true
  | remove => False

end ThreadCall

namespace UDTPPeer

/-- Each queue holds one worker for each counted pair, running the routine of its queue. -/
structure BooksAgree (p : UDTPPeer) : Prop where
  flow : p.flowThreads = List.replicate p.threadCount.toNat .flowThread
  process : p.processThreads = List.replicate p.threadCount.toNat .processThread

/-- A call returns, without taking anything from an empty queue, and where it returns `false`
it leaves the count and both queues as they were. -/
def CallSafe (p : UDTPPeer) (c : ThreadCall) : Prop :=
  ∃ result p', c.perform p = .ok (result, p') ∧ (result = false →
    p'.threadCount = p.threadCount ∧ p'.flowThreads = p.flowThreads ∧
      p'.processThreads = p.processThreads)

/-- The loop of the destructor ends, with both queues empty. -/
def DestructorDrains (p : UDTPPeer) : Prop :=
  ∃ p', p.destructor = .ok p' ∧ p'.flowThreads = [] ∧ p'.processThreads = []

/-- The books agree in every state of a sequence of calls, every call is safe, and so is the
destructor after the last. -/
def BooksKept (p : UDTPPeer) (calls : List ThreadCall) : Prop :=
  (∀ v, Passes ThreadCall.handle p calls v → BooksAgree v) ∧
  (∀ v c, Takes ThreadCall.handle p calls v c → CallSafe v c) ∧
  ∃ v, run ThreadCall.handle p calls = .ok v ∧ DestructorDrains v

/-- No thread is counted and no worker queued, as the constructor leaves it. -/
structure Idle (p : UDTPPeer) : Prop where
  count : p.threadCount = 0
  flow : p.flowThreads = []
  process : p.processThreads = []

/-- A new record is idle. -/
theorem new_idle (memory : UDTPPeer) (ready : Bool) (socket : Socket) :
    (new memory ready socket).Idle where
  count := rfl
  flow := new_flowThreads memory ready socket
  process := by
    simp only [new, startSelfMutex]
    split
    · rfl
    · split <;> rfl

variable {p : UDTPPeer}

/-- The books of an idle record agree. -/
theorem Idle.booksAgree (h : p.Idle) : BooksAgree p where
  flow := by simp [h.flow, h.count]
  process := by simp [h.process, h.count]

/-- On an idle record a call that adds no thread returns `false` and changes nothing. -/
theorem Idle.perform (h : p.Idle) {c : ThreadCall} (hc : ¬ c.Adds p) :
    c.perform p = .ok (false, p) := by
  cases c with
  | add flowSocketReady flowCreated processCreated =>
    simp only [ThreadCall.perform, addThreadCreating]
    by_cases honline : p.isOnline = true
    · have hready : flowSocketReady = false := by
        cases flowSocketReady with
        | false => rfl
        | true => exact absurd ⟨honline, rfl⟩ hc
      simp [honline, hready]
    · simp [honline]
  | remove => exact removeThread_of_threadCount_zero h.count

/-- On an idle record a call that adds no thread leaves everything as it was. -/
theorem Idle.handle (h : p.Idle) {c : ThreadCall} (hc : ¬ c.Adds p) : c.handle p = .ok p := by
  rw [ThreadCall.handle, h.perform hc]
  rfl

/-- So does any number of such calls. -/
theorem Idle.run (h : p.Idle) {calls : List ThreadCall} (hcalls : ∀ c ∈ calls, ¬ c.Adds p) :
    StepMachine.run ThreadCall.handle p calls = .ok p := by
  induction calls with
  | nil => rfl
  | cons c calls ih =>
    rw [run_cons_ok]
    exact ⟨p, h.handle (hcalls c (by simp)), ih fun d hd => hcalls d (by simp [hd])⟩

/-- An added thread is counted, and its workers are in neither queue. -/
theorem BooksAgree.not_of_adds (h : BooksAgree p) {c : ThreadCall} (hc : c.Adds p) :
    ∃ p', c.handle p = .ok p' ∧ ¬ BooksAgree p' := by
  cases c with
  | add flowSocketReady flowCreated processCreated =>
    obtain ⟨honline, hready⟩ := hc
    simp only [ThreadCall.handle, ThreadCall.perform, addThreadCreating, honline, hready,
      Bool.not_true, Bool.false_eq_true, if_false]
    refine ⟨_, rfl, ?_⟩
    rintro ⟨hflow, -⟩
    have hlength := congrArg List.length (h.flow.symm.trans hflow)
    have hlt := p.threadCount.toNat_lt
    simp only [List.length_replicate, UInt16.toNat_add, UInt16.toNat_one] at hlength
    omega
  | remove => exact absurd hc id

/-- Where the books of an idle record agree all along, no call adds a thread. -/
theorem Idle.not_adds (h : p.Idle) {calls : List ThreadCall}
    (hagree : ∀ v, Passes ThreadCall.handle p calls v → BooksAgree v) :
    ∀ c ∈ calls, ¬ c.Adds p := by
  induction calls with
  | nil => simp
  | cons c calls ih =>
    have hhead : ¬ c.Adds p := by
      intro hc
      obtain ⟨p', hstep, hnot⟩ := h.booksAgree.not_of_adds hc
      exact hnot (hagree p' ⟨[c], calls, rfl, (run_cons_ok _ _ _ _ _).mpr ⟨p', hstep, rfl⟩⟩)
    -- the first call changed nothing, so the rest begins with the same record
    have htail := ih (by
      rintro v ⟨as, bs, rfl, hrun⟩
      exact hagree v ⟨c :: as, bs, rfl, (run_cons_ok _ _ _ _ _).mpr ⟨p, h.handle hhead, hrun⟩⟩)
    intro d hd
    rcases List.mem_cons.mp hd with rfl | hd
    · exact hhead
    · exact htail d hd

/-- **When the books are kept.** For every new record and every sequence of calls, iff no call
of `add_thread()` succeeds. -/
theorem booksKept_iff (memory : UDTPPeer) (ready : Bool) (socket : Socket)
    (calls : List ThreadCall) :
    BooksKept (new memory ready socket) calls ↔
      ∀ c ∈ calls, ¬ c.Adds (new memory ready socket) := by
  have hidle := new_idle memory ready socket
  constructor
  · rintro ⟨hagree, -, -⟩
    exact hidle.not_adds hagree
  · intro hcalls
    have hstays : ∀ as bs, calls = as ++ bs → ∀ v,
        StepMachine.run ThreadCall.handle (new memory ready socket) as = .ok v →
        v = new memory ready socket := by
      rintro as bs rfl v hrun
      rw [hidle.run fun c hc => hcalls c (by simp [hc])] at hrun
      exact (Except.ok.inj hrun).symm
    refine ⟨?_, ?_, ?_⟩
    · rintro v ⟨as, bs, hsplit, hrun⟩
      rw [hstays as bs hsplit v hrun]
      exact hidle.booksAgree
    · rintro v c ⟨as, bs, hsplit, hrun⟩
      obtain rfl := hstays as _ hsplit v hrun
      exact ⟨false, _, hidle.perform (hcalls c (by simp [hsplit])), fun _ => ⟨rfl, rfl, rfl⟩⟩
    · exact ⟨_, hidle.run hcalls, _, destructor_of_threadCount_zero hidle.count, hidle.flow,
        hidle.process⟩

/-- A record that is online. -/
def onlineRecord : UDTPPeer :=
  new { (default : UDTPPeer) with connectionStatus := true } true ⟨4, 1⟩

/-- One thread is added, with every system call successful. -/
theorem not_booksKept_add : ¬ BooksKept onlineRecord [.add true true true] := by
  rintro ⟨hagree, -⟩
  have h := (hagree _ ⟨[.add true true true], [], rfl, rfl⟩).flow
  cases h

end UDTPPeer

end Udtp
