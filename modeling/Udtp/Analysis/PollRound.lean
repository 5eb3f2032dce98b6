import Udtp.Analysis.HostSteps
import Udtp.Model.Stream

/-!
# Rounds with failing calls

What a round of the HOST loop makes of the results of `poll()`, `accept()` and `read()`.  A
`PollRound` is the loop together with what `poll()` reported last, so that a connection that is
visited can be compared with the report of the same round.

`survives_iff` says exactly which rounds treat the results as they are meant.  `accept()` must
not fail, because its result is tested as an unsigned number; no connection may be served in a
round whose `poll()` failed, nor the one that was accepted in the same round, since their
`revents` are left from before; and the header of a packet that is handled must have been read
whole, which nothing tests.
-/

set_option autoImplicit false

namespace Udtp

open StepMachine

namespace HostLoop

variable {s t : HostLoop} {input : HostInput} {i : ℕ}

/-! ## What a step calls and does -/

/-- The step calls `accept()`. -/
def Accepts (s : HostLoop) : Prop :=
  s.phase = .accept ∧ ∃ entry rest, s.activeListenSockets = entry :: rest ∧ entry.pollin = true

/-- The step calls `read()` for the connection at a position. -/
def Reads (s : HostLoop) (i : ℕ) : Prop :=
  s.phase = .scan i ∧ ∃ entry, s.activeListenSockets[i]? = some entry ∧ entry.pollin = true

/-- The step makes a packet object for the peer at a position and handles it. -/
def Dispatches (s : HostLoop) (input : HostInput) (i : ℕ) : Prop :=
  s.Reads i ∧ input.read.count ≠ 0 ∧
    (∃ peer, s.udtp.getPeer i = some peer ∧ peer.isOnline = true) ∧
    construct input.read.contents input.read.packetDeduction ≠ none

/-- The step sets the peer at a position offline and queues it to be removed. -/
def Disconnects (s : HostLoop) (input : HostInput) (i : ℕ) : Prop :=
  s.Reads i ∧ input.read.count = 0 ∧ ∃ peer, s.udtp.getPeer i = some peer

/-- The call that the step makes fails. -/
def CallFails (s : HostLoop) (input : HostInput) : Prop :=
  (s.phase = .poll ∧ input.poll = none) ∨ (s.Accepts ∧ input.accept.result < 0) ∨
    ∃ i, s.Reads i ∧ input.read.count < 0

/-- The peer list, the polling list and the counters of two states are the same. -/
structure SameLists (s t : HostLoop) : Prop where
  listPeers : t.udtp.listPeers = s.udtp.listPeers
  activeListenSockets : t.activeListenSockets = s.activeListenSockets
  uniqueIDCount : t.udtp.uniqueIDCount = s.udtp.uniqueIDCount
  fileIDCount : t.udtp.fileIDCount = s.udtp.fileIDCount

/-- A change of phase changes no list. -/
theorem SameLists.setPhase (s : HostLoop) (phase : HostPhase) : SameLists s (s.setPhase phase) :=
  ⟨rfl, rfl, rfl, rfl⟩

/-- The test of the listen socket accepts a connection, or goes on to the scan. -/
theorem accept_cases (hphase : s.phase = .accept) (h : s.step input = .ok t) :
    (s.Accepts ∧ t = (s.afterAccept input.environment input.accept).setPhase (.scan 1)) ∨
      (¬ s.Accepts ∧ t = s.setPhase (.scan 1)) := by
  simp only [step, hphase] at h
  split at h
  · cases h
  rename_i entry rest hentries
  split at h
  · rename_i hready
    rw [acceptConnection_eq] at h
    cases h
    exact Or.inl ⟨⟨hphase, entry, rest, hentries, hready⟩, rfl⟩
  · rename_i hready
    cases h
    refine Or.inr ⟨?_, rfl⟩
    rintro ⟨-, entry', rest', hentries', hready'⟩
    rw [hentries] at hentries'
    cases hentries'
    exact hready hready'

/-- A step of the scan handles a packet, takes a peer offline, or does nothing. -/
theorem scan_cases (hphase : s.phase = .scan i) (h : s.step input = .ok t) :
    (s.Dispatches input i ∧ ∃ socket sent u, receiveHost input.environment input.read.contents
        input.read.packetDeduction socket i s.udtp = .ok (sent, u) ∧
        t = { s with udtp := u, sent := s.sent ++ sent, phase := .scan (i + 1) }) ∨
    (s.Disconnects input i ∧ t = { s with
      udtp := s.udtp.modifyPeer i UDTPPeer.setOffline
      removePeerAndSocketSafely := s.removePeerAndSocketSafely ++ [i]
      phase := .scan (i + 1) }) ∨
    (¬ s.Dispatches input i ∧ ¬ s.Disconnects input i ∧ ∃ phase, t = s.setPhase phase) := by
  have unread : ¬ s.Reads i → ¬ s.Dispatches input i ∧ ¬ s.Disconnects input i :=
    fun hread => ⟨fun hd => hread hd.1, fun hd => hread hd.1⟩
  simp only [step, hphase] at h
  split at h
  · rename_i hend
    cases h
    have hread : ¬ s.Reads i := by
      rintro ⟨-, entry, hentry, -⟩
      rw [hend] at hentry
      cases hentry
    exact Or.inr (Or.inr ⟨(unread hread).1, (unread hread).2, _, rfl⟩)
  rename_i entry hentry
  split at h
  · rename_i hready
    have hread : s.Reads i := ⟨hphase, entry, hentry, hready⟩
    obtain ⟨v, hvisit, rfl⟩ := map_ok h
    obtain ⟨peer, hpeer, hdone⟩ := visit_cases hvisit
    rcases hdone with ⟨hcount, honline, sent, u, hreceive, rfl⟩ | ⟨hcount, hoffline, rfl⟩ |
      ⟨hcount, rfl⟩
    · by_cases hobject : construct input.read.contents input.read.packetDeduction = none
      · -- a packet type nobody knows
        simp only [receiveHost, hobject, Except.ok.injEq, Prod.mk.injEq] at hreceive
        obtain ⟨rfl, rfl⟩ := hreceive
        refine Or.inr (Or.inr ⟨fun hd => hd.2.2.2 hobject, fun hd => hcount hd.2.1,
          .scan (i + 1), ?_⟩)
        simp [setPhase]
      · have hdispatches : s.Dispatches input i :=
          ⟨hread, hcount, ⟨peer, hpeer, honline⟩, hobject⟩
        exact Or.inl ⟨hdispatches, entry.fd, sent, u, hreceive, rfl⟩
    · refine Or.inr (Or.inr ⟨?_, fun hd => hcount hd.2.1, _, rfl⟩)
      rintro ⟨-, -, ⟨peer', hpeer', honline⟩, -⟩
      rw [hpeer] at hpeer'
      cases hpeer'
      rw [hoffline] at honline
      cases honline
    · exact Or.inr (Or.inl ⟨⟨hread, hcount, peer, hpeer⟩, rfl⟩)
  · rename_i hready
    cases h
    have hread : ¬ s.Reads i := by
      rintro ⟨-, entry', hentry', hready'⟩
      rw [hentry] at hentry'
      cases hentry'
      exact hready hready'
    exact Or.inr (Or.inr ⟨(unread hread).1, (unread hread).2, _, rfl⟩)

/-- The removal adds no peer and counts none. -/
theorem removeQueued_shrinks {queue : List ℕ} {sockets sockets' : List PollFd} {u u' : UDTP}
    (h : removeQueued queue sockets u = .ok (sockets', u')) :
    u'.listPeers.length ≤ u.listPeers.length ∧ u'.uniqueIDCount = u.uniqueIDCount := by
  induction queue generalizing sockets u with
  | nil =>
    cases h
    exact ⟨le_refl _, rfl⟩
  | cons posID queue ih =>
    rw [removeQueued] at h
    split at h
    case isFalse => cases h
    split at h
    · cases h
    rename_i removed v hremoved
    obtain ⟨hlength, hcount⟩ := ih h
    obtain rfl := UDTP.removePeer_ok hremoved
    exact ⟨hlength.trans (List.length_eraseIdx_le _ _), hcount⟩

/-- A peer was added, or the counter of unique IDs went on. -/
def Adds (s t : HostLoop) : Prop :=
  s.udtp.listPeers.length < t.udtp.listPeers.length ∨ t.udtp.uniqueIDCount ≠ s.udtp.uniqueIDCount

/-- Only a step that calls `accept()` adds a peer, and it always does. -/
theorem adds_iff (h : s.step input = .ok t) : s.Adds t ↔ s.Accepts := by
  have hsame : s.SameLists t → ¬ s.Accepts → (s.Adds t ↔ s.Accepts) := by
    intro hsame hno
    refine iff_of_false ?_ hno
    rw [Adds, hsame.listPeers, hsame.uniqueIDCount]
    simp
  have hphase : s.phase ≠ .accept → ¬ s.Accepts := fun hne haccepts => hne haccepts.1
  cases hp : s.phase with
  | poll =>
    simp only [step, hp, Except.ok.injEq] at h
    obtain ⟨sockets, hsockets⟩ := setRevents_eq s input.poll
    subst h
    refine iff_of_false ?_ (hphase (by rw [hp]; simp))
    rw [hsockets]
    simp [Adds, setPhase]
  | accept =>
    rcases accept_cases hp h with ⟨haccepts, rfl⟩ | ⟨hno, rfl⟩
    · refine iff_of_true (Or.inl ?_) haccepts
      simp [afterAccept, setPhase]
    · exact hsame (.setPhase s _) hno
  | scan i =>
    have hno := hphase (by rw [hp]; simp)
    refine iff_of_false ?_ hno
    rcases scan_cases hp h with ⟨-, socket, sent, u, hreceive, rfl⟩ | ⟨-, rfl⟩ | ⟨-, -, phase, rfl⟩
    · have hlength := congrArg List.length (receiveHost_identity hreceive)
      rw [List.length_map, List.length_map] at hlength
      simp [Adds, hlength, receiveHost_uniqueIDCount hreceive]
    · simp [Adds, UDTP.modifyPeer]
    · simp [Adds, setPhase]
  | removal =>
    refine iff_of_false ?_ (hphase (by rw [hp]; simp))
    simp only [step, hp] at h
    obtain ⟨⟨sockets, u⟩, hremove, rfl⟩ := map_ok h
    obtain ⟨hlength, hcount⟩ := removeQueued_shrinks hremove
    simp only [Adds, hcount, ne_eq, not_true_eq_false, or_false]
    omega

/-- A step that accepts a connection succeeds. -/
theorem step_of_accepts (h : s.Accepts) (input : HostInput) : ∃ t, s.step input = .ok t := by
  obtain ⟨hphase, entry, rest, hentries, hready⟩ := h
  refine ⟨(s.afterAccept input.environment input.accept).setPhase (.scan 1), ?_⟩
  simp only [step, hphase, hentries, hready, if_true, acceptConnection_eq]
  rfl

/-- A failing call that is not taken for a success leaves the lists and the counters alone. -/
theorem sameLists_of_callFails (h : s.step input = .ok t) (hfails : s.CallFails input)
    (haccept : s.Accepts → 0 ≤ input.accept.result)
    (hread : ∀ i, s.Dispatches input i → 0 ≤ input.read.count) : SameLists s t := by
  rcases hfails with ⟨hphase, hpoll⟩ | ⟨haccepts, hresult⟩ | ⟨i, hreads, hcount⟩
  · simp only [step, hphase, hpoll, setRevents, Except.ok.injEq] at h
    subst h
    exact .setPhase s _
  · have hge := haccept haccepts
    omega
  · rcases scan_cases hreads.1 h with ⟨hdispatches, -⟩ | ⟨hdisconnects, -⟩ | ⟨-, -, phase, rfl⟩
    · have hge := hread i hdispatches
      omega
    · have hzero := hdisconnects.2.1
      omega
    · exact .setPhase s phase

end HostLoop

/-! ## Rounds -/

/-- The loop and the last report of `poll()`: how many entries it was given, and what it wrote
into them if it did not fail. -/
structure PollRound where
  loop : HostLoop
  entries : ℕ
  answer : Option (ℕ → Bool)

namespace PollRound

/-- A loop at the beginning of a round. -/
def start (s : HostLoop) : PollRound where
  loop := s.setPhase .poll
  entries := 0
  answer := none

/-- A step of the loop; `poll()` replaces the report. -/
def step (r : PollRound) (input : HostInput) : Except Fault PollRound :=
  (r.loop.step input).map fun s =>
    match r.loop.phase with
    | .poll => { loop := s, entries := r.loop.activeListenSockets.length, answer := input.poll }
    | _ => { r with loop := s }

/-- `poll()` succeeded in this round and was given the entry at a position. -/
def Polled (r : PollRound) (i : ℕ) : Prop := r.answer ≠ none ∧ i < r.entries

/-- `poll()` reported the connection at a position readable in this round. -/
def Reported (r : PollRound) (i : ℕ) : Prop :=
  ∃ ready, r.answer = some ready ∧ i < r.entries ∧ ready i = true

variable {r r' : PollRound} {s : HostLoop} {input : HostInput} {i : ℕ}

/-- The entries `poll()` was given are there, and hold what it reported if it did not fail. -/
structure Current (r : PollRound) : Prop where
  entries : r.entries ≤ r.loop.activeListenSockets.length
  pollin : ∀ ready i entry, r.answer = some ready → i < r.entries →
    r.loop.activeListenSockets[i]? = some entry → entry.pollin = ready i

/-- The report is current from each `poll()` to the next. -/
def Fresh (r : PollRound) : Prop := r.loop.phase = .poll ∨ Current r

/-- Entries are only appended after `poll()`. -/
theorem Current.of_append (h : Current r) {new : List PollFd}
    (hnew : s.activeListenSockets = r.loop.activeListenSockets ++ new) :
    Current { r with loop := s } := by
  constructor
  · have hle := h.entries
    simp only [hnew, List.length_append]
    omega
  · intro ready i entry hanswer hi hentry
    have hlt : i < r.loop.activeListenSockets.length := Nat.lt_of_lt_of_le hi h.entries
    simp only [hnew, List.getElem?_append_left hlt] at hentry
    exact h.pollin ready i entry hanswer hi hentry

/-- After `poll()` the entries are current. -/
theorem current_of_poll (s : HostLoop) (answer : Option (ℕ → Bool)) (phase : HostPhase) :
    Current { loop := (s.setRevents answer).setPhase phase
              entries := s.activeListenSockets.length
              answer := answer } := by
  cases answer with
  | none => exact ⟨le_refl _, fun ready i entry h => by cases h⟩
  | some ready =>
    constructor
    · simp [HostLoop.setRevents, HostLoop.setPhase]
    · intro ready' i entry hanswer hi hentry
      cases hanswer
      simp only [HostLoop.setRevents, HostLoop.setPhase, List.getElem?_mapIdx] at hentry
      obtain ⟨entry', -, rfl⟩ := Option.map_eq_some_iff.mp hentry
      rfl

/-- A step keeps the entries fresh. -/
theorem Fresh.of_step (h : Fresh r) (hstep : r.step input = .ok r') : Fresh r' := by
  obtain ⟨s, hs, rfl⟩ := map_ok hstep
  cases hphase : r.loop.phase with
  | poll =>
    simp only [HostLoop.step, hphase, Except.ok.injEq] at hs
    subst hs
    exact Or.inr (current_of_poll r.loop input.poll .accept)
  | accept =>
    have hcurrent : Current r := h.resolve_left (by rw [hphase]; simp)
    refine Or.inr ?_
    rcases HostLoop.accept_cases hphase hs with ⟨-, rfl⟩ | ⟨-, rfl⟩
    · exact hcurrent.of_append rfl
    · exact hcurrent.of_append (List.append_nil _).symm
  | scan i =>
    have hcurrent : Current r := h.resolve_left (by rw [hphase]; simp)
    refine Or.inr ?_
    rcases HostLoop.scan_cases hphase hs with ⟨-, socket, sent, u, -, rfl⟩ | ⟨-, rfl⟩ |
      ⟨-, -, phase, rfl⟩
    · exact hcurrent.of_append (List.append_nil _).symm
    · exact hcurrent.of_append (List.append_nil _).symm
    · exact hcurrent.of_append (List.append_nil _).symm
  | removal =>
    simp only [HostLoop.step, hphase] at hs
    obtain ⟨⟨sockets, u⟩, -, rfl⟩ := map_ok hs
    exact Or.inl rfl

/-- A connection that is read in a current round was reported iff `poll()` was asked for it. -/
theorem reported_iff (h : Fresh r) (hreads : r.loop.Reads i) : r.Reported i ↔ r.Polled i := by
  obtain ⟨hphase, entry, hentry, hready⟩ := hreads
  have hcurrent : Current r := h.resolve_left (by rw [hphase]; simp)
  constructor
  · rintro ⟨ready, hanswer, hi, -⟩
    rw [Polled, hanswer]
    exact ⟨Option.some_ne_none ready, hi⟩
  · rintro ⟨hanswer, hi⟩
    obtain ⟨ready, hready'⟩ := Option.ne_none_iff_exists'.mp hanswer
    exact ⟨ready, hready', hi, (hcurrent.pollin ready i entry hready' hi hentry).symm.trans hready⟩

/-! ## What a round must withstand -/

/-- A step treats the results of the calls as they are meant. -/
structure Survives (r : PollRound) (input : HostInput) : Prop where
  /-- A peer is added and counted only if `accept()` succeeded. -/
  added : ∀ t, r.loop.step input = .ok t → r.loop.Adds t →
    r.loop.Accepts ∧ 0 ≤ input.accept.result
  /-- A packet is handled only for a connection reported in this round, and only if its header
  was read whole. -/
  dispatched : ∀ i, r.loop.Dispatches input i →
    r.Reported i ∧ (UDTPPacketHeader.sizeOf : ℤ) ≤ input.read.count
  /-- A peer is disconnected only if it was reported in this round. -/
  disconnected : ∀ i, r.loop.Disconnects input i → r.Reported i
  /-- A failed call changes neither the lists nor the counters. -/
  failed : ∀ t, r.loop.step input = .ok t → r.loop.CallFails input → r.loop.SameLists t

/-- The results a step is made for, told by what the calls return and by what is found before: whose
entry is marked readable, whose record is online, and what the last `poll()` was given.  Where
`read()` finds the end of a connection, or a known type for a record that is online, the last
`poll()` succeeded and was given the entry; a known type for a record that is online comes with a
whole header. -/
structure Expected (r : PollRound) (input : HostInput) : Prop where
  accept : r.loop.Accepts → 0 ≤ input.accept.result
  poll : ∀ i peer, r.loop.Reads i → r.loop.udtp.getPeer i = some peer →
    (input.read.count = 0 ∨
      (peer.isOnline = true ∧ deductionValid input.read.packetDeduction = true)) →
    r.answer ≠ none ∧ i < r.entries
  read : ∀ i peer, r.loop.Reads i → r.loop.udtp.getPeer i = some peer → peer.isOnline = true →
    deductionValid input.read.packetDeduction = true →
    input.read.count = 0 ∨ UDTPPacketHeader.sizeOf ≤ input.read.count

/-- The `switch` makes an object for the types it knows. -/
theorem deductionValid_iff (contents : Contents) (packetDeduction : UDTPPacketHeader) :
    deductionValid packetDeduction = true ↔ construct contents packetDeduction ≠ none := by
  unfold deductionValid construct
  cases packetDeduction.packetType <;> simp

/-- **One step.** A step treats the results of the calls as they are meant iff they are those it is
made for. -/
theorem survives_iff_expected (h : Fresh r) : r.Survives input ↔ r.Expected input := by
  constructor
  · intro hsurvives
    have hdispatches : ∀ i peer, r.loop.Reads i → r.loop.udtp.getPeer i = some peer →
        peer.isOnline = true → deductionValid input.read.packetDeduction = true →
        input.read.count ≠ 0 → r.loop.Dispatches input i := by
      intro i peer hreads hpeer honline hvalid hcount
      exact ⟨hreads, hcount, ⟨peer, hpeer, honline⟩, (deductionValid_iff _ _).mp hvalid⟩
    constructor
    · intro haccepts
      obtain ⟨t, ht⟩ := HostLoop.step_of_accepts haccepts input
      exact (hsurvives.added t ht ((HostLoop.adds_iff ht).mpr haccepts)).2
    · intro i peer hreads hpeer hserved
      rw [← Polled, ← reported_iff h hreads]
      by_cases hcount : input.read.count = 0
      · exact hsurvives.disconnected i ⟨hreads, hcount, peer, hpeer⟩
      · obtain ⟨honline, hvalid⟩ := hserved.resolve_left hcount
        have hserved := hdispatches i peer hreads hpeer honline hvalid hcount
        exact (hsurvives.dispatched i hserved).1
    · intro i peer hreads hpeer honline hvalid
      by_cases hcount : input.read.count = 0
      · exact Or.inl hcount
      · have hserved := hdispatches i peer hreads hpeer honline hvalid hcount
        exact Or.inr (hsurvives.dispatched i hserved).2
  · intro hexpected
    constructor
    · intro t ht hadds
      have haccepts := (HostLoop.adds_iff ht).mp hadds
      exact ⟨haccepts, hexpected.accept haccepts⟩
    · rintro i ⟨hreads, hcount, ⟨peer, hpeer, honline⟩, hobject⟩
      have hvalid := (deductionValid_iff _ _).mpr hobject
      refine ⟨(reported_iff h hreads).mpr ?_, ?_⟩
      · exact hexpected.poll i peer hreads hpeer (Or.inr ⟨honline, hvalid⟩)
      · exact (hexpected.read i peer hreads hpeer honline hvalid).resolve_left hcount
    · rintro i ⟨hreads, hcount, peer, hpeer⟩
      exact (reported_iff h hreads).mpr (hexpected.poll i peer hreads hpeer (Or.inl hcount))
    · intro t ht hfails
      apply HostLoop.sameLists_of_callFails ht hfails hexpected.accept
      rintro i ⟨hreads, hcount, ⟨peer, hpeer, honline⟩, hobject⟩
      have hvalid := (deductionValid_iff _ _).mpr hobject
      rcases hexpected.read i peer hreads hpeer honline hvalid with hend | hwhole
      · exact absurd hend hcount
      · exact le_trans (by simp) hwhole

/-- **A HOST survives failing calls** in just those rounds whose results are the expected ones:
from every state of the loop, whatever the calls return, every step treats the results as they
are meant iff every `accept()` succeeds, no connection ends and no online one yields a known type
after a failed `poll()` or in the round it was accepted in, and every known type for an online
record comes with a whole header. -/
theorem survives_iff (s : HostLoop) (inputs : List HostInput) :
    (∀ r input, Takes step (start s) inputs r input → r.Survives input) ↔
      ∀ r input, Takes step (start s) inputs r input → r.Expected input := by
  have hfresh : ∀ r input, Takes step (start s) inputs r input → Fresh r := by
    intro r input htaken
    exact passes_invariant step (fun _ _ _ h hstep => h.of_step hstep) (Or.inl rfl) htaken.passes
  constructor
  · intro hsurvives r input htaken
    exact (survives_iff_expected (hfresh r input htaken)).mp (hsurvives r input htaken)
  · intro hexpected r input htaken
    exact (survives_iff_expected (hfresh r input htaken)).mpr (hexpected r input htaken)

/-- A step in which `accept()` fails. -/
def failingAccept : HostInput :=
  { HostInput.connecting with accept := { (default : AcceptAnswer) with result := -1 } }

/-- A connection that could not be accepted is a peer nevertheless. -/
theorem not_survives_failingAccept :
    ¬ ∀ r input, Takes step (start (HostLoop.new (.startedIn .host)))
      [HostInput.connecting, failingAccept] r input → r.Survives input := by
  intro h
  have hsurvives := h _ failingAccept ⟨[HostInput.connecting], [], rfl, rfl⟩
  have hadded := hsurvives.added _ rfl (Or.inl (by decide))
  exact absurd hadded.2 (by decide)

end PollRound

end Udtp
