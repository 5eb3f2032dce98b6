import Udtp.Analysis.Readiness

/-!
# The race of `start()` with its own thread

The listen thread tests `alive()` before each round, and `start()` creates it two statements
before it sets `_isAlive`.  A test in between ends the thread.  `start()` still returns
`SUCCESS` and the endpoint counts as alive, but nothing reads its connection any more: the
PEER is unresponsive for good, and it is so only after such a test (`unresponsive_iff`).
-/

set_option autoImplicit false

namespace Udtp

open StepMachine

/-- `start()` has created the listen thread and has not set `_isAlive` yet. -/
def StartPoint.BeforeAlive (point : StartPoint) : Prop :=
  point = .listenThread ∨ point = .setAlive

namespace PeerSession

variable {outcome : UDTP.StartOutcome} {u : UDTP} {s t : PeerSession} {ins : List SessionInput}
  {input : SessionInput}

/-- During the run the listen thread goes on before `_isAlive` is set. -/
def TestsEarly (outcome : UDTP.StartOutcome) (u : UDTP) (ins : List SessionInput) : Prop :=
  ∃ t i, Takes (step outcome) (new u) ins t (.listen i) ∧ t.startPoint.BeforeAlive

/-- Nothing that either of the two can still do changes anything, although the endpoint
counts as alive. -/
def Unresponsive (outcome : UDTP.StartOutcome) (s : PeerSession) : Prop :=
  s.loop.udtp.isAlive = true ∧ ∀ more, run (step outcome) s more = .ok s

/-- The listen thread of a session ended. -/
def ended (s : PeerSession) : PeerSession := { s with listenThread := .exited }

/-! ## The statements of `start()` alone -/

/-- The session after some statements of `start()`, when nothing else went on. -/
def alone (outcome : UDTP.StartOutcome) (u : UDTP) (n : ℕ) : PeerSession :=
  (startStep outcome)^[n] (new u)

/-- One step more of `start()` alone. -/
theorem alone_succ (n : ℕ) : alone outcome u (n + 1) = (alone outcome u n).startStep outcome :=
  Function.iterate_succ_apply' _ n (new u)

/-- What the statements of `start()` leave of the listen thread: it runs once it was created,
and nobody finds the endpoint alive before the last statement. -/
inductive Begun (s : PeerSession) : Prop
  | entered (hpoint : s.startPoint = .enter) (hthread : s.listenThread = .notCreated)
  | refused (result : SocketReturn) (hpoint : s.startPoint = .returned result)
      (hresult : result ≠ .success) (hthread : s.listenThread = .notCreated)
  | preparing (hpoint : s.startPoint ∈ [.addPeer, .setSelf, .mutexFrameworkInit, .listenSocket,
      .queueThreads, .createListenThread]) (hthread : s.listenThread = .notCreated)
      (hdead : s.loop.udtp.isAlive = false)
  | racing (hpoint : s.startPoint.BeforeAlive) (hthread : s.listenThread = .running)
      (hdead : s.loop.udtp.isAlive = false)
  | listening (hpoint : s.startPoint = .returned .success) (hthread : s.listenThread = .running)
      (halive : s.loop.udtp.isAlive = true)

/-- Entering `start()` keeps a session begun. -/
theorem Begun.enter (hpoint : s.startPoint = .enter) (hthread : s.listenThread = .notCreated) :
    Begun (s.startStep outcome) := by
  simp only [PeerSession.startStep, hpoint, PeerSession.enter]
  by_cases halive : s.loop.udtp.isAlive = true
  · rw [if_pos halive]
    exact .refused .alreadyRunning rfl (by decide) hthread
  rw [if_neg halive]
  rw [Bool.not_eq_true] at halive
  split
  · exact .refused .socketNotInit rfl (by decide) hthread
  split
  · exact .refused .couldNotStartMutex rfl (by decide) hthread
  · exact .preparing (by simp [continueAt]) hthread halive

/-- Every step of `start()` keeps a session begun. -/
theorem Begun.startStep (h : Begun s) : Begun (s.startStep outcome) := by
  cases h with
  | entered hpoint hthread => exact Begun.enter hpoint hthread
  | refused result hpoint hresult hthread =>
    simp only [PeerSession.startStep, hpoint]
    exact .refused result hpoint hresult hthread
  | preparing hpoint hthread hdead =>
    simp only [List.mem_cons, List.not_mem_nil, or_false] at hpoint
    rcases hpoint with hpoint | hpoint | hpoint | hpoint | hpoint | hpoint <;>
      simp only [PeerSession.startStep, hpoint]
    · exact .preparing (by simp [continueAt]) hthread hdead
    · exact .preparing (by simp [continueAt]) hthread hdead
    · exact .preparing (by simp [continueAt]) hthread hdead
    · exact .preparing (by simp [continueAt]) hthread hdead
    · exact .preparing (by simp [continueAt]) hthread hdead
    · exact .racing (Or.inl rfl) rfl hdead
  | racing hpoint hthread hdead =>
    rcases hpoint with hpoint | hpoint
    · simp only [PeerSession.startStep, hpoint]
      exact .racing (Or.inr rfl) hthread hdead
    · simp only [PeerSession.startStep, hpoint]
      exact .listening rfl hthread rfl
  | listening hpoint hthread halive =>
    simp only [PeerSession.startStep, hpoint]
    exact .listening hpoint hthread halive

/-- `start()` alone leaves a session begun. -/
theorem begun_alone (n : ℕ) : Begun (alone outcome u n) := by
  induction n with
  | zero => exact .entered rfl rfl
  | succ n ih =>
    rw [alone_succ]
    exact ih.startStep

/-- `start()` sends nothing. -/
theorem startStep_sent (hsent : s.loop.sent = []) : (s.startStep outcome).loop.sent = [] := by
  cases hpoint : s.startPoint with
  | enter =>
    simp only [startStep, hpoint, enter]
    split
    · exact hsent
    split
    · exact hsent
    split
    · exact hsent
    · exact hsent
  | createListenThread =>
    simp only [startStep, hpoint]
    rfl
  | _ =>
    simp only [startStep, hpoint]
    exact hsent

/-- `start()` alone sends nothing. -/
theorem alone_sent (n : ℕ) : (alone outcome u n).loop.sent = [] := by
  induction n with
  | zero => rfl
  | succ n ih =>
    rw [alone_succ]
    exact startStep_sent ih

/-- A `start()` that has returned does nothing more. -/
theorem startStep_over {result : SocketReturn} (h : s.startPoint = .returned result) :
    s.startStep outcome = s := by
  simp only [startStep, h]

/-- Nine statements are all of `start()`. -/
theorem alone_returned {n : ℕ} {result : SocketReturn}
    (h : (alone outcome u n).startPoint = .returned result) :
    (alone outcome u n).loop.udtp = (u.start outcome .peer).2 := by
  have hfixed : ∀ {w : PeerSession} {r : SocketReturn} (k : ℕ), w.startPoint = .returned r →
      (startStep outcome)^[k] w = w := by
    intro w r k hw
    exact Function.iterate_fixed (startStep_over hw) k
  obtain ⟨w, hrun, hw, hudtp⟩ := run_start outcome u
  have hnine : alone outcome u 9 = w := Except.ok.inj hrun
  have hsame : alone outcome u n = w := by
    calc alone outcome u n = (startStep outcome)^[9] (alone outcome u n) := (hfixed 9 h).symm
      _ = alone outcome u (9 + n) := (Function.iterate_add_apply _ 9 n (new u)).symm
      _ = alone outcome u (n + 9) := by rw [Nat.add_comm]
      _ = (startStep outcome)^[n] (alone outcome u 9) := Function.iterate_add_apply _ n 9 (new u)
      _ = w := by rw [hnine, hfixed n hw]
  rw [hsame, hudtp]

/-! ## The race -/

/-- How the race stands, and whether the listen thread tested too early. -/
inductive Raced (outcome : UDTP.StartOutcome) (u : UDTP) (early : Prop) (s : PeerSession) : Prop
  /-- The listen thread did nothing so far. -/
  | unopposed (n : ℕ) (heq : s = alone outcome u n) (hearly : ¬ early)
  /-- It ended before the endpoint was alive, and `start()` goes on without it. -/
  | lost (n : ℕ) (heq : s = (alone outcome u n).ended)
      (hpoint : s.startPoint.BeforeAlive ∨ s.startPoint = .returned .success) (hearly : early)
  /-- It found the endpoint alive, and ends only when the endpoint is stopped. -/
  | won (hpoint : s.startPoint = .returned .success)
      (hthread : s.listenThread = .running ∨ s.loop.udtp.isAlive = false) (hearly : ¬ early)

/-- One more step of the run is one more chance to test too early. -/
theorem testsEarly_snoc (hrun : run (step outcome) (new u) ins = .ok s) :
    TestsEarly outcome u (ins ++ [input]) ↔
      TestsEarly outcome u ins ∨ (∃ i, input = .listen i) ∧ s.startPoint.BeforeAlive := by
  unfold TestsEarly
  simp only [takes_snoc (step outcome) (new u) s ins input hrun]
  constructor
  · rintro ⟨t, i, htakes | ⟨rfl, rfl⟩, hbefore⟩
    · exact Or.inl ⟨t, i, htakes, hbefore⟩
    · exact Or.inr ⟨⟨i, rfl⟩, hbefore⟩
  · rintro (⟨t, i, htakes, hbefore⟩ | ⟨⟨i, rfl⟩, hbefore⟩)
    · exact ⟨t, i, Or.inl htakes, hbefore⟩
    · exact ⟨s, i, Or.inr ⟨rfl, rfl⟩, hbefore⟩

/-- Before the flag is set, `start()` does not notice that the listen thread has ended. -/
theorem startStep_ended (outcome : UDTP.StartOutcome)
    (hpoint : s.startPoint.BeforeAlive ∨ s.startPoint = .returned .success) :
    s.ended.startStep outcome = (s.startStep outcome).ended ∧
      ((s.startStep outcome).startPoint.BeforeAlive ∨
        (s.startStep outcome).startPoint = .returned .success) := by
  rcases hpoint with (hpoint | hpoint) | hpoint
  · simp only [startStep, ended, hpoint]
    exact ⟨rfl, Or.inl (Or.inr rfl)⟩
  · simp only [startStep, ended, hpoint]
    exact ⟨rfl, Or.inr rfl⟩
  · rw [startStep_over (s := s) hpoint, startStep_over (s := s.ended) hpoint]
    exact ⟨rfl, Or.inr hpoint⟩

/-- A `start()` that has returned is past the flag. -/
theorem not_beforeAlive_returned {result : SocketReturn} :
    ¬ (StartPoint.returned result).BeforeAlive := by
  simp [StartPoint.BeforeAlive]

/-- A statement of `start()` is no test of the listen thread. -/
theorem Raced.start {early : Prop} (h : Raced outcome u early s) :
    Raced outcome u early (s.startStep outcome) := by
  cases h with
  | unopposed n heq hearly =>
    rw [heq, ← alone_succ]
    exact .unopposed (n + 1) rfl hearly
  | lost n heq hpoint hearly =>
    subst heq
    have hbefore : (alone outcome u n).startPoint.BeforeAlive ∨
        (alone outcome u n).startPoint = .returned .success := hpoint
    obtain ⟨hcommute, hpoint'⟩ := startStep_ended outcome hbefore
    rw [hcommute, ← alone_succ]
    rw [← alone_succ] at hpoint'
    exact .lost (n + 1) rfl hpoint' hearly
  | won hpoint hthread hearly =>
    rw [startStep_over hpoint]
    exact .won hpoint hthread hearly

/-- A thread that does not run does nothing. -/
theorem listenStep_idle {i : PeerInput} (h : s.listenThread ≠ .running) :
    s.listenStep i = .ok s := by
  unfold listenStep
  cases hthread : s.listenThread with
  | running => exact absurd hthread h
  | notCreated => rfl
  | exited => rfl

/-- A listen thread that finds the flag cleared ends. -/
theorem listenStep_dead {i : PeerInput} (hthread : s.listenThread = .running)
    (hdead : s.loop.udtp.isAlive = false) : s.listenStep i = .ok s.ended := by
  simp [listenStep, ended, hthread, hdead]

/-- A round of a thread that won the race. -/
theorem listenStep_won {i : PeerInput}
    (hthread : s.listenThread = .running ∨ s.loop.udtp.isAlive = false)
    (hstep : s.listenStep i = .ok t) : t.startPoint = s.startPoint ∧
      (t.listenThread = .running ∨ t.loop.udtp.isAlive = false) := by
  by_cases hrunning : s.listenThread = .running
  · cases halive : s.loop.udtp.isAlive with
    | true =>
      simp only [listenStep, hrunning, halive, if_true] at hstep
      obtain ⟨loop, -, rfl⟩ := map_ok hstep
      exact ⟨rfl, Or.inl rfl⟩
    | false =>
      rw [listenStep_dead hrunning halive] at hstep
      cases hstep
      exact ⟨rfl, Or.inr halive⟩
  · rw [listenStep_idle hrunning] at hstep
    cases hstep
    exact ⟨rfl, hthread⟩

/-- A test of the listen thread: it ends the thread exactly while the endpoint is not alive. -/
theorem Raced.listen {early : Prop} {i : PeerInput} (h : Raced outcome u early s)
    (hstep : s.listenStep i = .ok t) :
    Raced outcome u (early ∨ s.startPoint.BeforeAlive) t := by
  cases h with
  | unopposed n heq hearly =>
    have hidle : s.listenThread = .notCreated → ¬ s.startPoint.BeforeAlive →
        Raced outcome u (early ∨ s.startPoint.BeforeAlive) t := by
      intro hthread hpoint
      rw [listenStep_idle (by rw [hthread]; decide)] at hstep
      cases hstep
      exact .unopposed n heq (not_or.mpr ⟨hearly, hpoint⟩)
    have hbegun : Begun s := heq ▸ begun_alone n
    cases hbegun with
    | entered hpoint hthread => exact hidle hthread (by simp [hpoint, StartPoint.BeforeAlive])
    | refused result hpoint hresult hthread =>
      exact hidle hthread (hpoint ▸ not_beforeAlive_returned)
    | preparing hpoint hthread hdead =>
      refine hidle hthread ?_
      rintro (hbefore | hbefore)
      · simp [hbefore] at hpoint
      · simp [hbefore] at hpoint
    | racing hpoint hthread hdead =>
      rw [listenStep_dead hthread hdead] at hstep
      cases hstep
      exact .lost n (by rw [heq]) (Or.inl hpoint) (Or.inr hpoint)
    | listening hpoint hthread halive =>
      obtain ⟨hpoint', hthread'⟩ := listenStep_won (Or.inl hthread) hstep
      exact .won (hpoint'.trans hpoint) hthread'
        (not_or.mpr ⟨hearly, hpoint ▸ not_beforeAlive_returned⟩)
  | lost n heq hpoint hearly =>
    have hthread : s.listenThread = .exited := by rw [heq, ended]
    rw [listenStep_idle (by rw [hthread]; decide)] at hstep
    cases hstep
    exact .lost n heq hpoint (Or.inl hearly)
  | won hpoint hthread hearly =>
    obtain ⟨hpoint', hthread'⟩ := listenStep_won hthread hstep
    exact .won (hpoint'.trans hpoint) hthread'
      (not_or.mpr ⟨hearly, hpoint ▸ not_beforeAlive_returned⟩)

/-- How the race stands after every run. -/
theorem run_raced (h : run (step outcome) (new u) ins = .ok s) :
    Raced outcome u (TestsEarly outcome u ins) s := by
  refine run_induction (step outcome) (new u)
    (P := fun ins s => Raced outcome u (TestsEarly outcome u ins) s) ?_ ?_ ins s h
  · refine .unopposed 0 rfl ?_
    rintro ⟨t, i, htakes, -⟩
    exact forall_takes_nil (step outcome) (new u) (fun _ _ => False) t _ htakes
  · intro ins s input t hrun hraced hstep
    rw [testsEarly_snoc hrun]
    cases input with
    | start =>
      cases hstep
      simpa using hraced.start
    | listen i => simpa using hraced.listen hstep

/-! ## The PEER that nobody reaches -/

/-- Once `start()` has returned and the thread has ended, nothing happens any more. -/
theorem unresponsive_ended (hpoint : s.startPoint = .returned .success)
    (hthread : s.listenThread = .exited) (more : List SessionInput) :
    run (step outcome) s more = .ok s := by
  induction more with
  | nil => rfl
  | cons input more ih =>
    refine (run_cons_ok _ s s input more).mpr ⟨s, ?_, ih⟩
    cases input with
    | start => exact congrArg Except.ok (startStep_over hpoint)
    | listen i => exact listenStep_idle (by rw [hthread]; decide)

/-- A listen thread that runs sees the end of the connection. -/
theorem not_unresponsive_running (hthread : s.listenThread = .running) :
    ¬ Unresponsive outcome s := by
  rintro ⟨halive, hsame⟩
  have hend := hsame [.listen (.reading { (default : ReadAnswer) with count := 0 })]
  obtain ⟨t, hstep, ht⟩ := (run_cons_ok _ s s _ []).mp hend
  cases ht
  simp only [step, listenStep, hthread, halive, if_true, PeerLoop.step, PeerInput.reading,
    Bool.and_self, PeerLoop.visit, ne_eq, not_true, if_false] at hstep
  have hstopped : s.loop.udtp.stop = s.loop.udtp :=
    congrArg (fun v => v.loop.udtp) (Except.ok.inj hstep)
  rw [← hstopped] at halive
  cases halive

/-- **The race of `start()`.** A PEER whose `start()` succeeded is unresponsive iff its listen
thread tested `alive()` before the last statement of `start()`.  Then it never sent
anything, and it is what `start()` left. -/
theorem unresponsive_iff (h : run (step outcome) (new u) ins = .ok s)
    (hstarted : s.startPoint = .returned .success) :
    (Unresponsive outcome s ↔ TestsEarly outcome u ins) ∧
      (TestsEarly outcome u ins →
        s.loop.udtp = (u.start outcome .peer).2 ∧ s.loop.sent = []) := by
  cases run_raced h with
  | unopposed n heq hearly =>
    refine ⟨iff_of_false ?_ hearly, fun hfalse => absurd hfalse hearly⟩
    have hbegun : Begun s := heq ▸ begun_alone n
    cases hbegun with
    | listening hpoint hthread halive => exact not_unresponsive_running hthread
    | entered hpoint => simp [hpoint] at hstarted
    | refused result hpoint hresult => simp [hpoint, hresult] at hstarted
    | preparing hpoint => simp [hstarted] at hpoint
    | racing hpoint => exact absurd hpoint (hstarted ▸ not_beforeAlive_returned)
  | lost n heq hpoint hearly =>
    subst heq
    have halive : (alone outcome u n).loop.udtp.isAlive = true := by
      have hbegun : Begun (alone outcome u n) := begun_alone n
      have hsuccess : (alone outcome u n).startPoint = .returned .success := hstarted
      cases hbegun with
      | listening hpoint hthread halive => exact halive
      | entered hpoint => simp [hpoint] at hsuccess
      | refused result hpoint hresult => simp [hpoint, hresult] at hsuccess
      | preparing hpoint => simp [hsuccess] at hpoint
      | racing hpoint => exact absurd hpoint (hsuccess ▸ not_beforeAlive_returned)
    refine ⟨iff_of_true ⟨halive, unresponsive_ended hstarted rfl⟩ hearly, ?_⟩
    intro _
    exact ⟨alone_returned hstarted, alone_sent n⟩
  | won hpoint hthread hearly =>
    refine ⟨iff_of_false ?_ hearly, fun hfalse => absurd hfalse hearly⟩
    rcases hthread with hthread | hdead
    · exact not_unresponsive_running hthread
    · rintro ⟨halive, -⟩
      rw [hdead] at halive
      cases halive

/-- The thread goes on at once: it is over before `start()` returns. -/
theorem unresponsive_iff_overtaken :
    ∃ s, run (step smoothStart) (new (UDTP.new default))
        (List.replicate 7 .start ++ [.listen default, .start, .start]) = .ok s ∧
      s.startPoint = .returned .success ∧ Unresponsive smoothStart s ∧ s.loop.sent = [] := by
  obtain ⟨s, hrun, hstarted⟩ : ∃ s, run (step smoothStart) (new (UDTP.new default))
      (List.replicate 7 .start ++ [.listen default, .start, .start]) = .ok s ∧
      s.startPoint = .returned .success := ⟨_, rfl, rfl⟩
  obtain ⟨hiff, hleft⟩ := unresponsive_iff hrun hstarted
  have hearly : TestsEarly smoothStart (UDTP.new default)
      (List.replicate 7 .start ++ [.listen default, .start, .start]) :=
    ⟨_, default, ⟨List.replicate 7 .start, [.start, .start], rfl, rfl⟩, Or.inl rfl⟩
  exact ⟨s, hrun, hstarted, hiff.mpr hearly, (hleft hearly).2⟩

end PeerSession

end Udtp
