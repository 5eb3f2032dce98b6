import Udtp.Analysis.HostAlignment

/-!
# The removal loop of the HOST

A round is meant to remove from both arrays exactly the peers whose connection the scan
found at its end.  The loop erases by position, and every erase moves the later
positions, so this holds of a round iff it found at most one such peer
(`removal_exact_iff`); the destructor of the removed record adds that this peer has no
counted flow thread, because it takes the threads to end from queues nobody fills.
-/

set_option autoImplicit false

namespace Udtp

open QueuedErase

namespace HostLoop

/-- The positions found disconnected since the last `poll()`. -/
def foundDisconnected (events : List HostEvent) : List ℕ :=
  events.foldl (fun found e =>
    match e with
    | .poll => []
    | .disconnect _ i => found ++ [i]
    | _ => found) []

/-- The positions found disconnected in the round a run ends in. -/
def found (u : UDTP) (ins : List HostInput) : List ℕ :=
  foundDisconnected (StepMachine.events step event (new u) ins)

/-- The arrays agree position by position. -/
def Parallel (s : HostLoop) : Prop :=
  s.activeListenSockets.map PollFd.fd = s.udtp.listPeers.map UDTPPeer.listenSocket

/-- A removal whose positions are all in range, and after which the arrays hold what they
held before, minus the given positions, in order. -/
def RemovalExact (positions : List ℕ) (s : HostLoop) (input : HostInput) : Prop :=
  ∃ t, s.step input = .ok t ∧
    t.activeListenSockets = without positions s.activeListenSockets ∧
    t.udtp.listPeers = without positions s.udtp.listPeers ∧ Parallel t

/-- Every round of a run keeps the arrays parallel and removes exactly the peers it found
disconnected. -/
def RoundsExact (u : UDTP) (ins : List HostInput) : Prop :=
  (∀ s, StepMachine.Passes step (new u) ins s → Parallel s) ∧
  ∀ as input bs s, ins = as ++ input :: bs → run u as = .ok s → s.phase = .removal →
    RemovalExact (found u as) s input

/-- No round of a run finds two peers disconnected, nor one with counted threads. -/
def SingleDisconnects (u : UDTP) (ins : List HostInput) : Prop :=
  ∀ as input bs s, ins = as ++ input :: bs → run u as = .ok s → s.phase = .removal →
    (found u as).length ≤ 1 ∧
      ∀ i ∈ found u as, ∀ p, s.udtp.getPeer i = some p → p.threadCount = 0

/-! ## The queue holds what was found -/

/-- The queue between two steps: empty at the top of the loop, afterwards the positions
found since. -/
theorem queue_eq_found {u : UDTP} (h : u.Started .host) (ins : List HostInput) (s : HostLoop)
    (hrun : run u ins = .ok s) (hphase : s.phase ≠ .poll) :
    s.removePeerAndSocketSafely = found u ins := by
  -- induction on the last input; only `poll()` and the visits change either side
  revert hphase
  refine StepMachine.run_induction step (new u)
    (P := fun ins s => s.phase ≠ .poll → s.removePeerAndSocketSafely = found u ins) ?_ ?_ ins s hrun
  · intro hphase
    exact absurd rfl hphase
  intro ins s input t hrun ih hstep hphase
  have haligned := run_aligned h hrun
  have hfound : found u (ins ++ [input]) =
      foundDisconnected (StepMachine.events step event (new u) ins ++ (s.event input).toList) := by
    rw [found, StepMachine.events_snoc step event hrun hstep]
  have hstepped := step_stepped hstep
  generalize s.event input = e at hstepped hfound
  rw [hfound]
  cases hstepped with
  | polled hpoll =>
    have hscanned := haligned.scanned
    rw [hpoll] at hscanned
    have hqueue : s.removePeerAndSocketSafely = [] := hscanned
    simp only [foundDisconnected, Option.toList_some, List.foldl_append, List.foldl_cons,
      List.foldl_nil, setPhase]
    cases input.poll <;> exact hqueue
  | accepted hp =>
    simpa [foundDisconnected, setPhase, afterAccept, found] using ih (by simp [hp])
  | skipped hp => simpa [setPhase, found] using ih (by simp [hp])
  | passed i entry hp hentry => simpa [setPhase, found] using ih (by simp [hp])
  | scanned i hp hend => simpa [setPhase, found] using ih (by simp [hp])
  | received i entry peer sent v hp hentry hpeer honline hreceive =>
    simpa [foundDisconnected, found] using ih (by simp [hp])
  | ignored i entry peer hp hentry hpeer hoffline =>
    simpa [foundDisconnected, setPhase, found] using ih (by simp [hp])
  | disconnected i entry peer hp hentry hpeer =>
    simpa [foundDisconnected, found] using ih (by simp [hp])
  | removed e sockets v hp hremove => exact absurd rfl hphase

/-! ## One round -/

/-- No record is listed twice. -/
theorem Aligned.listPeers_nodup {s : HostLoop} (h : s.Aligned) : s.udtp.listPeers.Nodup :=
  h.nodup.of_map _

/-- A step of the removal erases the queued positions from both arrays. -/
theorem step_removal {s : HostLoop} (hphase : s.phase = .removal) (input : HostInput)
    (t : HostLoop) :
    s.step input = .ok t ↔ ∃ sockets u,
      removeQueued s.removePeerAndSocketSafely s.activeListenSockets s.udtp = .ok (sockets, u) ∧
      t = { s with
        activeListenSockets := sockets
        udtp := u
        removePeerAndSocketSafely := []
        phase := .poll } := by
  simp only [step, hphase]
  cases removeQueued s.removePeerAndSocketSafely s.activeListenSockets s.udtp with
  | error fault => simp [Except.map]
  | ok r =>
    obtain ⟨sockets, u⟩ := r
    simp [Except.map, eq_comm]

/-- **A round is exact iff it found at most one peer, and that one without threads.** -/
theorem removal_exact_iff {s : HostLoop} (h : s.Aligned) (hphase : s.phase = .removal)
    (input : HostInput) :
    RemovalExact s.removePeerAndSocketSafely s input ↔
      s.removePeerAndSocketSafely.length ≤ 1 ∧
        ∀ i ∈ s.removePeerAndSocketSafely, ∀ p, s.udtp.getPeer i = some p →
          p.threadCount = 0 := by
  constructor
  · rintro ⟨t, hstep, -, hpeers, -⟩
    obtain ⟨sockets, u, hremove, rfl⟩ := (step_removal hphase input t).mp hstep
    obtain ⟨-, herase, -⟩ := removeQueued_ok h.length_eq hremove
    have hexact : eraseEach s.removePeerAndSocketSafely s.udtp.listPeers =
        some (without s.removePeerAndSocketSafely s.udtp.listPeers) := by
      rw [herase]
      exact congrArg some hpeers
    have hone := (eraseEach_eq_without_iff h.ascending h.inRange h.listPeers_nodup).mp hexact
    refine ⟨hone, ?_⟩
    intro i hi p hp
    have hqueue : s.removePeerAndSocketSafely = [i] := by
      obtain ⟨j, hj⟩ := List.length_eq_one_iff.mp
        (Nat.le_antisymm hone (List.length_pos_of_mem hi))
      rw [hj, List.mem_singleton] at hi
      rw [hj, hi]
    by_contra hne
    have hfault := UDTP.removePeer_of_threadCount_ne_zero hp hne
      (h.flowThreads p (List.mem_of_getElem? hp))
    rw [hqueue, removeQueued, hfault] at hremove
    split at hremove
    · cases hremove
    · cases hremove
  · rintro ⟨hone, hzero⟩
    have hparallel := h.parallel
    have hqueue : s.removePeerAndSocketSafely = [] ∨ ∃ i, s.removePeerAndSocketSafely = [i] := by
      rw [← List.length_eq_zero_iff, ← List.length_eq_one_iff]
      omega
    rcases hqueue with hqueue | ⟨i, hqueue⟩
    · refine ⟨_, (step_removal hphase input _).mpr ⟨_, _, by rw [hqueue]; rfl, rfl⟩, ?_⟩
      simp [Parallel, hqueue, hparallel]
    · have hlt : i < s.udtp.listPeers.length := h.inRange i (by simp [hqueue])
      have hpeer : s.udtp.getPeer i = some s.udtp.listPeers[i] := List.getElem?_eq_getElem hlt
      have hremove : removeQueued s.removePeerAndSocketSafely s.activeListenSockets s.udtp =
          .ok (s.activeListenSockets.eraseIdx i,
            { s.udtp with listPeers := s.udtp.listPeers.eraseIdx i }) := by
        rw [hqueue, removeQueued, if_pos (h.length_eq ▸ hlt),
          UDTP.removePeer_of_threadCount_zero hpeer (hzero i (by simp [hqueue]) _ hpeer)]
        rfl
      refine ⟨_, (step_removal hphase input _).mpr ⟨_, _, hremove, rfl⟩, ?_⟩
      simp [Parallel, hqueue, without_singleton, ← eraseIdx_map, hparallel]

/-! ## Whole runs -/

/-- **Every round of a run is exact iff no round finds two peers disconnected, nor one that
has counted threads.** -/
theorem roundsExact_iff_singleDisconnects {u : UDTP} (h : u.Started .host)
    (ins : List HostInput) : RoundsExact u ins ↔ SingleDisconnects u ins := by
  have hround : ∀ as input s, run u as = .ok s → s.phase = .removal →
      (RemovalExact (found u as) s input ↔ (found u as).length ≤ 1 ∧
        ∀ i ∈ found u as, ∀ p, s.udtp.getPeer i = some p → p.threadCount = 0) := by
    intro as input s hrun hphase
    rw [← queue_eq_found h as s hrun (by simp [hphase])]
    exact removal_exact_iff (run_aligned h hrun) hphase input
  constructor
  · rintro ⟨-, hexact⟩ as input bs s hins hrun hphase
    exact (hround as input s hrun hphase).mp (hexact as input bs s hins hrun hphase)
  · intro hsingle
    refine ⟨?_, ?_⟩
    · rintro s ⟨as, bs, -, hrun⟩
      exact (run_aligned h hrun).parallel
    · intro as input bs s hins hrun hphase
      exact (hround as input s hrun hphase).mpr (hsingle as input bs s hins hrun hphase)

/-- A peer connects and closes, alone in its round. -/
theorem roundsExact_iff_singleDisconnects_one :
    RoundsExact (UDTP.startedIn .host) (List.replicate 5 .connecting ++ List.replicate 5 .closing) ↔
      SingleDisconnects (UDTP.startedIn .host)
        (List.replicate 5 .connecting ++ List.replicate 5 .closing) :=
  roundsExact_iff_singleDisconnects (UDTP.startedIn_started .host) _

/-- Two peers connect, in a round each; then both close before the next `poll()`.  The
first erase leaves two entries, and the second is at position 2. -/
theorem not_roundsExact_of_two_closing :
    (UDTP.startedIn .host).Started .host ∧
      ¬ RoundsExact (UDTP.startedIn .host)
        (List.replicate 11 .connecting ++ List.replicate 6 .closing) := by
  refine ⟨UDTP.startedIn_started .host, ?_⟩
  intro h
  obtain ⟨s, hrun, hphase, hfault⟩ : ∃ s, run (UDTP.startedIn .host)
      (List.replicate 11 .connecting ++ List.replicate 5 .closing) = .ok s ∧
      s.phase = .removal ∧ s.step .closing = .error .eraseOutOfRange := ⟨_, rfl, rfl, rfl⟩
  obtain ⟨t, hstep, -⟩ := h.2 _ .closing [] s rfl hrun hphase
  rw [hfault] at hstep
  cases hstep

end HostLoop

end Udtp
