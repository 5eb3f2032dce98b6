import Udtp.Computation.StepMachine
import Udtp.Model.PeerList

/-!
# The lock of the list of peers

Of the ways out of the five functions that take `_mutexPeer`, one keeps it: `find_peer_pos()`
returns in front of its unlocking line when no record has the socket.  `lockReleased_iff` says
of any sequence of calls when each of them returns and leaves the lock free: every searched
socket is found, and every record that is removed can be destroyed.  A call that keeps the
lock is itself answered; it is the next call that never returns.
-/

set_option autoImplicit false

namespace Udtp

open StepMachine Lookup

namespace PeerList

variable {s t : PeerList}

/-! ## One call -/

/-- The call returns, and leaves the lock free. -/
def Releases (s : PeerList) (c : PeerListCall) : Prop :=
  ∃ t, s.call c = .ok t ∧ t.mutexPeer = false

/-- A call that leaves the lock free ends with the lock free. -/
theorem mutexPeer_of_releases {c : PeerListCall} (h : s.Releases c) (hcall : s.call c = .ok t) :
    t.mutexPeer = false := by
  obtain ⟨t', hcall', ht'⟩ := h
  rw [hcall] at hcall'
  cases hcall'
  exact ht'

/-- A socket that is searched belongs to a record, and a record that is removed has an entry in
its queues for each thread it counts. -/
def Served (s : PeerList) : PeerListCall → Prop
  | .findPeerPos socket => ∃ p ∈ s.udtp.listPeers, hasListenSocket socket p = true
  | .removePeer posID => ∀ p, s.udtp.getPeer posID = some p → p.Queued
  | _ => True

/-- The search by socket releases the mutex iff it finds a record. -/
theorem releases_findPeerPos (h : s.mutexPeer = false) (socket : UInt32) :
    s.Releases (.findPeerPos socket) ↔ s.Served (.findPeerPos socket) := by
  simp only [Releases, call, findPeerPos_eq h]
  cases hfound : s.udtp.listPeers.findIdx? (hasListenSocket socket) with
  | none =>
    have hnone := List.findIdx?_eq_none_iff.mp hfound
    simp only [Except.map, Except.ok.injEq, exists_eq_left', Served]
    constructor
    · intro hfree
      cases hfree
    · rintro ⟨p, hp, hsocket⟩
      rw [hnone p hp] at hsocket
      cases hsocket
  | some k =>
    obtain ⟨p, hp, hsocket⟩ := (isLeast_of_findIdx? hfound).1
    simp only [Except.map, Except.ok.injEq, exists_eq_left', h, true_iff]
    exact ⟨p, List.mem_of_getElem? hp, hsocket⟩

/-- The removal releases the mutex iff a record at the position has its threads queued. -/
theorem releases_removePeer (h : s.mutexPeer = false) (posID : ℕ) :
    s.Releases (.removePeer posID) ↔ s.Served (.removePeer posID) := by
  simp only [Releases, call, Served, removePeer_eq h, UDTP.removePeer, UDTP.getPeer]
  cases s.udtp.listPeers[posID]? with
  | none => simp [Except.mapError, Except.map, h]
  | some p =>
    simp only [Option.some.injEq, forall_eq']
    rw [← UDTPPeer.destructor_ok_iff]
    cases p.destructor with
    | error fault => simp [Except.mapError, Except.map]
    | ok q => simp [Except.mapError, Except.map, h]

/-- A call that finds the lock free returns and leaves it free iff it is served. -/
theorem releases_iff (h : s.mutexPeer = false) (c : PeerListCall) :
    s.Releases c ↔ s.Served c := by
  cases c with
  | addPeer memory ready socket =>
    refine iff_of_true ⟨{ s with udtp := (s.udtp.addPeer memory ready socket).2 }, ?_, h⟩ trivial
    rw [call, addPeer_eq h]
    rfl
  | findPeerPos socket => exact releases_findPeerPos h socket
  | findPeerUsingAddress thread address =>
    obtain ⟨buffers, heq⟩ := findPeerUsingAddress_eq h thread address
    refine iff_of_true ⟨{ s with buffers := buffers }, ?_, h⟩ trivial
    rw [call, heq]
    rfl
  | getPeer posID =>
    refine iff_of_true ⟨s, ?_, h⟩ trivial
    rw [call, getPeer_eq h]
    rfl
  | removePeer posID => exact releases_removePeer h posID

/-- The position of the first record with a socket, or `0` if no record has it. -/
def IsPeerPos (socket : UInt32) (s : PeerList) (posID : ℕ) : Prop :=
  IsLeast (positions (hasListenSocket socket) s.udtp.listPeers) posID ∨
    (positions (hasListenSocket socket) s.udtp.listPeers = ∅ ∧ posID = 0)

/-- A position the search yields is that of the first record with the socket, or zero without
one. -/
theorem isPeerPos_of_findPeerPos (h : s.mutexPeer = false) {socket : UInt32} {posID : ℕ}
    (hfound : s.findPeerPos socket = .ok (posID, t)) : s.IsPeerPos socket posID := by
  rw [findPeerPos_eq h] at hfound
  cases hidx : s.udtp.listPeers.findIdx? (hasListenSocket socket) with
  | none =>
    rw [hidx] at hfound
    cases hfound
    exact Or.inr ⟨positions_eq_empty_of_findIdx? hidx, rfl⟩
  | some k =>
    rw [hidx] at hfound
    cases hfound
    exact Or.inl (isLeast_of_findIdx? hidx)

/-! ## Sequences of calls -/

/-- In a sequence of calls each one that finds the lock free returns and leaves it free, none
waits for the lock, and a searched socket gives the position of its first record. -/
structure LockReleased (s : PeerList) (cs : List PeerListCall) : Prop where
  released : ∀ t c, Takes call s cs t c → t.mutexPeer = false → t.Releases c
  unblocked : ∀ t c, Takes call s cs t c → t.call c ≠ .error .blocked
  position : ∀ t socket posID t', Takes call s cs t (.findPeerPos socket) →
    t.findPeerPos socket = .ok (posID, t') → t.IsPeerPos socket posID

/-- **The lock is always released** iff every call is served: `find_peer_pos()` is asked for
the socket of a record, and `remove_peer()` is given no position of a record that counts more
threads than its queues hold. -/
theorem lockReleased_iff (hs : s.mutexPeer = false) (cs : List PeerListCall) :
    LockReleased s cs ↔ ∀ t c, Takes call s cs t c → t.Served c := by
  constructor
  · intro hreleased
    have hfree : ∀ t, Passes call s cs t → t.mutexPeer = false := by
      refine passes_of_takes call ?_ hs hreleased.released
      intro t c u ht hreleases hcall
      exact mutexPeer_of_releases (hreleases ht) hcall
    intro t c htaken
    have ht := hfree t htaken.passes
    exact (releases_iff ht c).mp (hreleased.released t c htaken ht)
  · intro hserved
    have hfree : ∀ t, Passes call s cs t → t.mutexPeer = false := by
      refine passes_of_takes call ?_ hs hserved
      intro t c u ht hgood hcall
      exact mutexPeer_of_releases ((releases_iff ht c).mpr hgood) hcall
    have hreleases : ∀ t c, Takes call s cs t c → t.Releases c := by
      intro t c htaken
      exact (releases_iff (hfree t htaken.passes) c).mpr (hserved t c htaken)
    refine ⟨fun t c htaken _ => hreleases t c htaken, ?_, ?_⟩
    · intro t c htaken hblocked
      obtain ⟨u, hcall, -⟩ := hreleases t c htaken
      rw [hblocked] at hcall
      cases hcall
    · intro t socket posID t' htaken hfound
      exact isPeerPos_of_findPeerPos (hfree t htaken.passes) hfound

/-- A HOST that was started, with its lock free. -/
def startedHost : PeerList where
  udtp := .startedIn .host
  mutexPeer := false
  buffers := fun _ => ""

/-- Searching the socket 99, which no record has, keeps the lock, and `get_peer()` waits for it
ever after. -/
theorem not_lockReleased_startedHost :
    ¬ LockReleased startedHost [.findPeerPos 99, .getPeer 0] := by
  intro h
  exact h.unblocked { startedHost with mutexPeer := true } (.getPeer 0)
    ⟨[.findPeerPos 99], [], rfl, rfl⟩ rfl

/-- The socket of the HOST itself is found, and the lock released. -/
theorem lockReleased_iff_startedHost : LockReleased startedHost [.findPeerPos 3] := by
  apply (lockReleased_iff rfl _).mpr
  rintro t c ⟨as, bs, heq, hrun⟩
  cases as with
  | nil =>
    cases heq
    cases hrun
    exact ⟨_, List.mem_singleton.mpr rfl, rfl⟩
  | cons a as => simp at heq

end PeerList

end Udtp
