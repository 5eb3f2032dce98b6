import Udtp.Model.FileStatus

/-!
# The workers of a file

`begin_file_processing()` adds the workers before it sets the file active, and
`add_file_thread()` adds none to a file that is not; `remove_file_thread()` kills the front
worker and leaves it in the queue.  So the workers are kept as they are meant to be iff a file
begins only where no worker is asked for and none is alive, and no worker is removed twice or
at the end (`poolKept_iff`).
-/

set_option autoImplicit false

namespace Udtp

open StepMachine

/-- The functions that start, end and count the workers of a file. -/
inductive PoolCall
  | beginFileProcessing (env : Environment)
  | addFileThread (type : ThreadType)
  | removeFileThread
  | endFileProcessing

namespace UDTPFile

/-- The number of workers that are alive. -/
def liveThreads (f : UDTPFile) : ℕ := f.fileThreads.countP UDTPThreadFile.alive

end UDTPFile

namespace PoolCall

/-- The file after a call, and an error where the call does not return. -/
def step (f : UDTPFile) : PoolCall → Except Unit UDTPFile
  | beginFileProcessing env => .ok (f.beginFileProcessing env).2
  | addFileThread type => .ok (f.addFileThread type)
  | removeFileThread => .ok f.removeFileThread.2
  | endFileProcessing =>
    match f.endFileProcessing with
    | none => .error ()
    | some g => .ok g

/-- While the file is active, the workers alive are at least as many as a file starts with and
at most as many as it may have. -/
def Bounded (f : UDTPFile) : Prop :=
  f.active = true → f.myUDTP.startingNumberOfFileThreads.toNat ≤ f.liveThreads ∧
    f.liveThreads ≤ f.myUDTP.maxNumberOfFileThreads.toNat

/-- The call does what it is meant to do to the workers. -/
def Right (f : UDTPFile) : PoolCall → Prop
  | beginFileProcessing env => (f.beginFileProcessing env).1 = true →
      (f.beginFileProcessing env).2.liveThreads = f.myUDTP.startingNumberOfFileThreads.toNat
  | addFileThread _ => True
  | removeFileThread => f.removeFileThread.1 = true →
      f.removeFileThread.2.liveThreads + 1 = f.liveThreads
  | endFileProcessing =>
      ∃ g, f.endFileProcessing = some g ∧ g.liveThreads = 0 ∧ g.active = false

/-- A file begins without workers asked for and without workers alive, the front of the queue is
removed while it is alive, and a file ends without workers in the queue. -/
def Manages (f : UDTPFile) : PoolCall → Prop
  | beginFileProcessing _ => f.myUDTP.startingNumberOfFileThreads = 0 ∧ f.liveThreads = 0
  | addFileThread _ => True
  | removeFileThread => ∀ front ∈ f.fileThreads.head?, front.alive = true
  | endFileProcessing => f.fileThreads = []

instance (f : UDTPFile) (c : PoolCall) : Decidable (Manages f c) := by
  unfold Manages
  split <;> infer_instance

/-- A file whose header was approved, before any of the calls. -/
structure Approved (f : UDTPFile) : Prop where
  header : f.hasApprovedHeader = true
  noError : f.critError = false
  inactive : f.active = false
  noThreads : f.fileThreads = []

/-- What is known of a file after calls that manage its workers: it has workers, or is active,
only where no worker is asked for. -/
structure Managed (f : UDTPFile) : Prop where
  header : f.hasApprovedHeader = true
  noError : f.critError = false
  room : f.fileThreads.length ≤ f.myUDTP.maxNumberOfFileThreads.toNat
  idle : f.myUDTP.startingNumberOfFileThreads = 0 ∨ (f.active = false ∧ f.fileThreads = [])

variable {f g : UDTPFile}

/-- An approved file that was not begun is managed. -/
theorem Approved.managed (h : Approved f) : Managed f where
  header := h.header
  noError := h.noError
  room := by simp [h.noThreads]
  idle := Or.inr ⟨h.inactive, h.noThreads⟩

/-- An approved file that was not begun has no more workers than allowed. -/
theorem Approved.bounded (h : Approved f) : Bounded f := by
  intro hactive
  rw [h.inactive] at hactive
  cases hactive

/-- No more workers are alive than there are. -/
theorem liveThreads_le (f : UDTPFile) : f.liveThreads ≤ f.fileThreads.length :=
  List.countP_le_length

/-- Where no worker is asked for, the bound from below says nothing. -/
theorem bounded_of_starting (hstarting : f.myUDTP.startingNumberOfFileThreads = 0)
    (hroom : f.fileThreads.length ≤ f.myUDTP.maxNumberOfFileThreads.toNat) : Bounded f := by
  intro _
  have hle := liveThreads_le f
  rw [hstarting]
  exact ⟨Nat.zero_le _, Nat.le_trans hle hroom⟩

/-! ## The calls on a managed file -/

/-- A managed file begins without a new worker. -/
theorem Managed.begin_eq (h : Managed f) (env : Environment) :
    f.beginFileProcessing env = (true, f.started env) := by
  have hroom : f.room f.myUDTP.startingNumberOfFileThreads.toNat = 0 := by
    unfold UDTPFile.room
    rcases h.idle with hstarting | ⟨hinactive, -⟩
    · simp [hstarting]
    · simp [hinactive]
  rw [UDTPFile.beginFileProcessing_cases, if_pos ⟨h.header, h.noError⟩, hroom]
  simp [UDTPFile.addThreads]

/-- Starting a file starts no worker. -/
theorem started_liveThreads (env : Environment) (f : UDTPFile) :
    (f.started env).liveThreads = f.liveThreads := rfl

/-- The call removes nothing from an empty queue, and kills the front of any other. -/
theorem Managed.removeFileThread_eq (h : Managed f) :
    f.removeFileThread = match f.fileThreads with
      | [] => (false, f)
      | front :: rest => (true, { f with fileThreads := front.kill :: rest }) := by
  unfold UDTPFile.removeFileThread
  cases hthreads : f.fileThreads with
  | nil => simp
  | cons front rest =>
    rcases h.idle with hstarting | ⟨-, hnone⟩
    · simp [hstarting]
    · simp [hthreads] at hnone

/-- A managed file can be ended iff it has no worker. -/
theorem Managed.endFileProcessing_eq (h : Managed f) :
    f.endFileProcessing = if f.fileThreads = [] then some (f.setActive false) else none := by
  rw [UDTPFile.endFileProcessing_eq, h.removeFileThread_eq]
  cases f.fileThreads with
  | nil => simp
  | cons front rest => simp

/-- Killing the front takes one worker off the living if it was alive. -/
theorem liveThreads_kill {front : UDTPThreadFile} {rest : List UDTPThreadFile}
    (hthreads : f.fileThreads = front :: rest) :
    UDTPFile.liveThreads { f with fileThreads := front.kill :: rest } +
      (if front.alive then 1 else 0) = f.liveThreads := by
  simp [UDTPFile.liveThreads, hthreads, UDTPThreadFile.kill, List.countP_cons]

/-- On a managed file a call manages its workers iff it is right and keeps the bounds. -/
theorem Managed.manages_iff (h : Managed f) (hbounded : Bounded f) (c : PoolCall) :
    c.Manages f ↔ c.Right f ∧ ∀ g, c.step f = .ok g → Bounded g := by
  cases c with
  | beginFileProcessing env =>
    simp only [Manages, Right, step, h.begin_eq, started_liveThreads, Except.ok.injEq,
      forall_eq', true_implies]
    constructor
    · rintro ⟨hstarting, hlive⟩
      refine ⟨by rw [hlive, hstarting]; rfl, ?_⟩
      exact bounded_of_starting hstarting h.room
    · rintro ⟨hlive, -⟩
      rcases h.idle with hstarting | ⟨-, hnone⟩
      · exact ⟨hstarting, by rw [hlive, hstarting]; rfl⟩
      · have hzero : f.liveThreads = 0 := by simp [UDTPFile.liveThreads, hnone]
        refine ⟨?_, hzero⟩
        apply UInt16.toNat_inj.mp
        rw [← hlive, hzero]
        rfl
  | addFileThread type =>
    simp only [Manages, Right, step, Except.ok.injEq, forall_eq', true_and, true_iff]
    unfold UDTPFile.addFileThread
    split
    · rename_i hadds
      simp only [Bool.and_eq_true, decide_eq_true_eq] at hadds
      rcases h.idle with hstarting | ⟨hinactive, -⟩
      · refine bounded_of_starting hstarting ?_
        simp only [List.length_append, List.length_singleton]
        omega
      · rw [hinactive] at hadds
        simp at hadds
    · exact hbounded
  | removeFileThread =>
    simp only [Manages, Right, step, h.removeFileThread_eq, Except.ok.injEq, forall_eq']
    cases hthreads : f.fileThreads with
    | nil => simpa using hbounded
    | cons front rest =>
      have hlive := liveThreads_kill hthreads
      have hnext : Bounded { f with fileThreads := front.kill :: rest } := by
        rcases h.idle with hstarting | ⟨-, hnone⟩
        · refine bounded_of_starting hstarting ?_
          simpa [hthreads] using h.room
        · simp [hthreads] at hnone
      simp only [List.head?_cons, Option.mem_def, Option.some.injEq, forall_eq', true_implies]
      cases hfront : front.alive with
      | true => simpa [hfront, hlive.symm] using hnext
      | false =>
        rw [hfront] at hlive
        simp only [Bool.false_eq_true, if_false] at hlive
        simp only [Bool.false_eq_true, false_iff, not_and]
        omega
  | endFileProcessing =>
    simp only [Manages, Right, step, h.endFileProcessing_eq]
    by_cases hthreads : f.fileThreads = []
    · simp only [hthreads, if_true, true_iff]
      constructor
      · refine ⟨_, rfl, ?_, rfl⟩
        simp [UDTPFile.liveThreads, UDTPFile.setActive, hthreads]
      · rintro g hg
        cases hg
        intro hactive
        cases hactive
    · simp [hthreads]

/-- A call that manages its workers leaves a file managed. -/
theorem Managed.next (h : Managed f) {c : PoolCall} (hc : c.Manages f)
    (hstep : c.step f = .ok g) : Managed g := by
  cases c with
  | beginFileProcessing env =>
    rw [step, h.begin_eq, Except.ok.injEq] at hstep
    subst hstep
    exact ⟨h.header, h.noError, h.room, Or.inl hc.1⟩
  | addFileThread type =>
    cases hstep
    unfold UDTPFile.addFileThread
    split
    · rename_i hadds
      simp only [Bool.and_eq_true, decide_eq_true_eq] at hadds
      refine ⟨h.header, h.noError, ?_, ?_⟩
      · simp only [List.length_append, List.length_singleton]
        omega
      · rcases h.idle with hstarting | ⟨hinactive, -⟩
        · exact Or.inl hstarting
        · rw [hinactive] at hadds
          simp at hadds
    · exact h
  | removeFileThread =>
    rw [step, h.removeFileThread_eq, Except.ok.injEq] at hstep
    cases hthreads : f.fileThreads with
    | nil =>
      rw [hthreads] at hstep
      cases hstep
      exact h
    | cons front rest =>
      rw [hthreads] at hstep
      cases hstep
      have hroom := h.room
      refine ⟨h.header, h.noError, by simpa [hthreads] using hroom, ?_⟩
      rcases h.idle with hstarting | ⟨-, hnone⟩
      · exact Or.inl hstarting
      · simp [hthreads] at hnone
  | endFileProcessing =>
    have hnone : f.fileThreads = [] := hc
    rw [step, h.endFileProcessing_eq, if_pos hnone] at hstep
    cases hstep
    exact ⟨h.header, h.noError, h.room, Or.inr ⟨rfl, hnone⟩⟩

/-- **When the workers are kept.** For every file with an approved header and every sequence of
calls, the bounds hold in every state and every call is right, iff a file begins only where no
worker is asked for or alive, no dead worker is at the front where one is removed, and there is
none in the queue where the file ends. -/
theorem poolKept_iff (h : Approved f) (calls : List PoolCall) :
    ((∀ t, Passes step f calls t → Bounded t) ∧ ∀ t c, Takes step f calls t c → c.Right t) ↔
      ∀ t c, Takes step f calls t c → c.Manages t := by
  apply passes_and_takes_iff step Managed
  · intro t c ht hbounded
    exact ht.manages_iff hbounded c
  · intro t c u ht hc hstep
    exact ht.next hc hstep
  · exact h.managed
  · exact h.bounded

/-- A file with an approved header that asks for so many workers. -/
def approvedFile (starting : UInt16) : UDTPFile :=
  { (default : UDTPFile) with
    hasApprovedHeader := true
    myUDTP := { UDTPSetup.defaults with startingNumberOfFileThreads := starting } }

/-- The file of the examples is approved. -/
theorem approvedFile_approved (starting : UInt16) : Approved (approvedFile starting) :=
  ⟨rfl, rfl, rfl, rfl⟩

/-- A file that asks for no worker, and ends without one, is kept. -/
theorem poolKept_iff_approvedFile :
    (∀ t, Passes step (approvedFile 0) [.beginFileProcessing default, .endFileProcessing] t →
        Bounded t) ∧
      ∀ t c, Takes step (approvedFile 0) [.beginFileProcessing default, .endFileProcessing] t c →
        c.Right t :=
  (poolKept_iff (approvedFile_approved 0) [.beginFileProcessing default, .endFileProcessing]).mpr
    (forall_takes_of_checks step (by decide))

/-- A file that asks for one worker begins without one; and where none was asked for and one was
added, the file does not end. -/
theorem not_poolKept_approvedFile :
    (¬ ((∀ t, Passes step (approvedFile 1) [.beginFileProcessing default] t → Bounded t) ∧
      ∀ t c, Takes step (approvedFile 1) [.beginFileProcessing default] t c → c.Right t)) ∧
    ¬ ∀ t c, Takes step (approvedFile 0)
      [.beginFileProcessing default, .addFileThread .incoming, .endFileProcessing] t c →
        c.Right t := by
  constructor
  · rintro ⟨hbounded, -⟩
    have hactive := hbounded _ ⟨[.beginFileProcessing default], [], rfl, rfl⟩ rfl
    exact absurd hactive.1 (by decide)
  · intro hright
    obtain ⟨g, hend, -⟩ := hright _ .endFileProcessing
      ⟨[.beginFileProcessing default, .addFileThread .incoming], [], rfl, rfl⟩
    cases hend

end PoolCall

end Udtp
