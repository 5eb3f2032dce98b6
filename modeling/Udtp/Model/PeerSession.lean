import Udtp.Model.PeerLoop
import Udtp.Model.Requests

/-!
# A PEER that is being started

`start()` creates the listen thread before it returns, so that the thread runs next to the
last statements of the function that created it.  The machine here steps one of the two at
a time: `start()` a statement, the listen thread a round.  What `listenQueueThread` does
touches nothing that either of them reads.
-/

set_option autoImplicit false

namespace Udtp

open StepMachine

/-- The statement of `start()` that is next.
SRCLINE: UDTP.cpp:22-45 -/
inductive StartPoint
  /-- Nothing was done yet. -/
  | enter
  | addPeer
  | setSelf
  | mutexFrameworkInit
  | listenSocket
  | queueThreads
  /-- `pthread_create()` in `start_listen_thread()`. -/
  | createListenThread
  | listenThread
  | setAlive
  | returned (result : SocketReturn)
  deriving DecidableEq, Inhabited

/-- How far the listen thread is: it tests `alive()` before each round. -/
inductive ListenThread
  | notCreated
  | running
  | exited
  deriving DecidableEq, Inhabited

/-- `loop` is what the listen thread works on; before that thread is created it has sent
nothing. -/
structure PeerSession where
  loop : PeerLoop
  startPoint : StartPoint
  listenThread : ListenThread

/-- Which of the two goes on. -/
inductive SessionInput
  | start
  | listen (input : PeerInput)

namespace PeerSession

/-- A call of `start()` on an endpoint. -/
def new (u : UDTP) : PeerSession where
  loop := PeerLoop.new u
  startPoint := .enter
  listenThread := .notCreated

/-- Change the endpoint, and go on with another statement. -/
def continueAt (point : StartPoint) (u : UDTP) (s : PeerSession) : PeerSession :=
  { s with loop := { s.loop with udtp := u }, startPoint := point }

/-- SRCLINE: UDTP.cpp:22-31 -/
def enter (outcome : UDTP.StartOutcome) (s : PeerSession) : PeerSession :=
  let u := { s.loop.udtp with uniqueIDCount := 0 }
  if u.isAlive then s.continueAt (.returned .alreadyRunning) u
  else
    let u := { u with socketType := .peer, listenSocket := ⟨outcome.descriptor, 0⟩ }
    if !outcome.listenSocketStarted then s.continueAt (.returned .socketNotInit) u
    else if !outcome.mutexStarted then s.continueAt (.returned .couldNotStartMutex) u
    else s.continueAt .addPeer u

/-- One statement of `start()`.
SRCLINE: UDTP.cpp:20-46, UDTP.cpp:406-423 -/
def startStep (outcome : UDTP.StartOutcome) (s : PeerSession) : PeerSession :=
  let u := s.loop.udtp
  match s.startPoint with
  | .enter => s.enter outcome
  | .addPeer => s.continueAt .setSelf
      (u.addPeer outcome.peerMemory outcome.selfMutexReady u.listenSocket).2
  | .setSelf => s.continueAt .mutexFrameworkInit
      (u.modifyPeer 0 fun self => (self.setUniqueID 0).setHostLocal false)
  | .mutexFrameworkInit => s.continueAt .listenSocket
      (u.modifyPeer 0 (UDTPPeer.setInitProcessComplete .mutexFrameworkInit))
  | .listenSocket => s.continueAt .queueThreads
      (u.modifyPeer 0 (UDTPPeer.setInitProcessComplete .listenSocket))
  | .queueThreads => s.continueAt .createListenThread
      (u.modifyPeer 0 (UDTPPeer.setInitProcessComplete .queueThreads))
  | .createListenThread =>
    { s with
      loop := PeerLoop.new u
      startPoint := .listenThread
      listenThread := .running }
  | .listenThread => s.continueAt .setAlive
      (u.modifyPeer 0 (UDTPPeer.setInitProcessComplete .listenThread))
  | .setAlive => s.continueAt (.returned .success) { u with isAlive := true }
  | .returned _ => s

/-- One round of the listen thread.  A thread that finds the endpoint not alive is over.
SRCLINE: UDTP.cpp:198, UDTP.cpp:319-391 -/
def listenStep (input : PeerInput) (s : PeerSession) : Except Fault PeerSession :=
  match s.listenThread with
  | .running =>
    if s.loop.udtp.isAlive then (s.loop.step input).map fun loop => { s with loop := loop }
    else .ok { s with listenThread := .exited }
  | _ => .ok s

/-- One step of either thread. -/
def step (outcome : UDTP.StartOutcome) (s : PeerSession) :
    SessionInput → Except Fault PeerSession
  | .start => .ok (s.startStep outcome)
  | .listen input => s.listenStep input

/-- Once the statements of `start()` were all executed and nothing else happened, the
endpoint is what `start()` leaves. -/
theorem run_start (outcome : UDTP.StartOutcome) (u : UDTP) :
    ∃ s, run (step outcome) (new u) (List.replicate 9 .start) = .ok s ∧
      s.startPoint = .returned (u.start outcome .peer).1 ∧
      s.loop.udtp = (u.start outcome .peer).2 := by
  have hmodify : ∀ (v : UDTP) (f g : UDTPPeer → UDTPPeer),
      (v.modifyPeer 0 f).modifyPeer 0 g = v.modifyPeer 0 (g ∘ f) := by
    intro v f g
    simp [UDTP.modifyPeer, List.modify_modify_eq]
  refine ⟨(startStep outcome)^[9] (new u), rfl, ?_, ?_⟩
  all_goals
    simp only [Function.iterate_succ_apply, Function.iterate_zero_apply]
    unfold UDTP.start
    by_cases halive : u.isAlive = true
    · simp [startStep, enter, new, continueAt, PeerLoop.new, halive]
    cases hsocket : outcome.listenSocketStarted
    · simp [startStep, enter, new, continueAt, PeerLoop.new, halive, hsocket]
    cases hmutex : outcome.mutexStarted
    · simp [startStep, enter, new, continueAt, PeerLoop.new, halive, hsocket, hmutex]
    · simp [startStep, enter, new, continueAt, PeerLoop.new, halive, hsocket, hmutex, hmodify,
        Function.comp_def]

end PeerSession

end Udtp
