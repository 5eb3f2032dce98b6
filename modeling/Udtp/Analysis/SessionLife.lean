import Udtp.Model.HostLoop

/-!
# Sessions of one endpoint

`start()` sets the counter of unique IDs back before it looks whether the endpoint is
running, and appends the record of the new listen socket to whatever list the last session
left.  So a refused call is harmless only while the counter is zero, and a successful one
describes its own listen socket only if the list was empty (`startsRight_iff_timely`).

`_flowThreadCount`, which `start()` sets to zero as well, has been zero since the first
call and is written nowhere else.
-/

set_option autoImplicit false

namespace Udtp

open StepMachine

/-- A call of `start()` or `stop()`, or what the loop of the HOST does to the list in between:
a peer is accepted, or the record at a position from 1 on is removed. -/
inductive SessionCall
  | start (outcome : UDTP.StartOutcome) (socketType : SocketType)
  | stop
  | accepted (answer : AcceptAnswer) (socket : Socket)
  | removed (i : ℕ)

/-- The endpoint after a call. -/
def SessionCall.handle (u : UDTP) : SessionCall → Except Fault UDTP
  | start outcome socketType => .ok (u.start outcome socketType).2
  | stop => .ok u.stop
  | accepted answer socket => .ok (u.acceptPeer answer socket).2
  | removed i => (u.removePeer (i + 1)).map Prod.snd

namespace UDTP

/-! ## The two outcomes -/

/-- Of an endpoint that is alive, `start()` resets the counter of peers alone. -/
theorem start_of_alive {u : UDTP} (h : u.isAlive = true) (outcome : StartOutcome)
    (socketType : SocketType) :
    u.start outcome socketType = (.alreadyRunning, { u with uniqueIDCount := 0 }) := by
  simp [start, h]

/-- What `start()` makes of the record at position 0. -/
def startSelf (socketType : SocketType) (self : UDTPPeer) : UDTPPeer :=
  (((((self.setUniqueID 0).setHostLocal (socketType = .host)).setInitProcessComplete
    .mutexFrameworkInit).setInitProcessComplete .listenSocket).setInitProcessComplete
    .queueThreads).setInitProcessComplete .listenThread

/-- The record `start()` appends. -/
def startRecord (outcome : StartOutcome) : UDTPPeer :=
  (UDTPPeer.new outcome.peerMemory outcome.selfMutexReady ⟨outcome.descriptor, 0⟩).setOnline

/-- A `start()` whose calls succeed makes an endpoint alive, with its own record at the end. -/
theorem start_of_succeeds {u : UDTP} {outcome : StartOutcome} (halive : u.isAlive = false)
    (hsocket : outcome.listenSocketStarted = true) (hmutex : outcome.mutexStarted = true)
    (socketType : SocketType) :
    u.start outcome socketType = (.success,
      { u with
        uniqueIDCount := 0
        socketType := socketType
        listenSocket := ⟨outcome.descriptor, 0⟩
        listPeers := (u.listPeers ++ [startRecord outcome]).modify 0 (startSelf socketType)
        isAlive := true }) := by
  simp only [start, halive, hsocket, hmutex]
  cases hlist : u.listPeers with
  | nil => simp [addPeer, modifyPeer, startSelf, startRecord]
  | cons self rest => simp [addPeer, modifyPeer, startSelf, startRecord]

/-- A `start()` that succeeds found the endpoint dead, and its calls succeeded. -/
theorem start_eq_success {u : UDTP} {outcome : StartOutcome} {socketType : SocketType}
    (h : (u.start outcome socketType).1 = .success) :
    u.isAlive = false ∧ outcome.listenSocketStarted = true ∧ outcome.mutexStarted = true := by
  unfold start at h
  dsimp only at h
  split at h
  · cases h
  rename_i halive
  split at h
  · cases h
  rename_i hsocket
  split at h
  · cases h
  rename_i hmutex
  simp_all

/-- Position 0 is the record of the listen socket a call of `start()` opened, with number 0
and the flag of its socket type, and no other record has the number 0. -/
def SelfRight (outcome : StartOutcome) (socketType : SocketType) (u : UDTP) : Prop :=
  ∃ self, u.getPeer 0 = some self ∧ self.listenSocket = ⟨outcome.descriptor, 0⟩ ∧
    self.uniqueID = 0 ∧ self.hostLocal = decide (socketType = .host) ∧
    ∀ k p, u.getPeer k = some p → p.uniqueID = 0 → k = 0

/-- A refused call changes nothing iff the counter is zero. -/
theorem start_unchanged_iff {u : UDTP} (h : u.isAlive = true) (outcome : StartOutcome)
    (socketType : SocketType) : (u.start outcome socketType).2 = u ↔ u.uniqueIDCount = 0 := by
  rw [start_of_alive h]
  constructor
  · intro heq
    exact (congrArg uniqueIDCount heq).symm
  · intro hzero
    rw [← hzero]

/-- A successful call describes its own socket iff there was no record before it.  The
descriptor is not that of a socket in the list. -/
theorem selfRight_iff {u : UDTP} {outcome : StartOutcome} (halive : u.isAlive = false)
    (hsocket : outcome.listenSocketStarted = true) (hmutex : outcome.mutexStarted = true)
    (hfresh : ∀ p ∈ u.listPeers, p.listenSocket.descriptor ≠ outcome.descriptor)
    (socketType : SocketType) :
    SelfRight outcome socketType (u.start outcome socketType).2 ↔ u.listPeers = [] := by
  rw [start_of_succeeds halive hsocket hmutex]
  constructor
  · rintro ⟨self, hself, hlisten, -⟩
    cases hlist : u.listPeers with
    | nil => rfl
    | cons old rest =>
      simp only [getPeer, hlist, List.cons_append, List.modify_zero_cons,
        List.getElem?_cons_zero, Option.some.injEq] at hself
      have hold : old.listenSocket = ⟨outcome.descriptor, 0⟩ := by
        rw [← hlisten, ← hself]
        rfl
      exact absurd (congrArg Socket.descriptor hold) (hfresh old (by simp [hlist]))
  · intro hlist
    refine ⟨startSelf socketType (startRecord outcome), by simp [getPeer, hlist], ?_, rfl, rfl, ?_⟩
    · exact UDTPPeer.new_listenSocket _ _ _
    · intro k p hp _
      simp only [getPeer, hlist, List.nil_append, List.modify_zero_cons] at hp
      have hlt := (List.getElem?_eq_some_iff.mp hp).1
      simp only [List.length_singleton] at hlt
      omega

end UDTP

/-! ## Sequences of calls -/

namespace SessionCall

/-- The `socket()` of a call that opens one returns no descriptor that is still open; no call
closes the socket of a record. -/
def DescriptorsFresh (memory : UDTP) (calls : List SessionCall) : Prop :=
  ∀ u outcome socketType, Takes handle (UDTP.new memory) calls u (start outcome socketType) →
    u.isAlive = false → ∀ p ∈ u.listPeers, p.listenSocket.descriptor ≠ outcome.descriptor

/-- Every refused call of a sequence changes nothing, and every successful one leaves the
record of its own listen socket at position 0. -/
def StartsRight (memory : UDTP) (calls : List SessionCall) : Prop :=
  ∀ u outcome socketType, Takes handle (UDTP.new memory) calls u (start outcome socketType) →
    ((u.start outcome socketType).1 = .alreadyRunning → (u.start outcome socketType).2 = u) ∧
    ((u.start outcome socketType).1 = .success →
      UDTP.SelfRight outcome socketType (u.start outcome socketType).2)

/-- Every call of `start()` on a running endpoint finds the counter at zero, and every one
whose sockets and mutexes can be set up finds no record. -/
def StartsTimely (memory : UDTP) (calls : List SessionCall) : Prop :=
  ∀ u outcome socketType, Takes handle (UDTP.new memory) calls u (start outcome socketType) →
    (u.isAlive = true → u.uniqueIDCount = 0) ∧
    (u.isAlive = false → outcome.listenSocketStarted = true → outcome.mutexStarted = true →
      u.listPeers = [])

/-- Records come and go, but the list never becomes empty again. -/
theorem run_listPeers_ne_nil {u v : UDTP} {calls : List SessionCall} (hu : u.listPeers ≠ [])
    (hrun : run handle u calls = .ok v) : v.listPeers ≠ [] := by
  refine run_preserves handle (fun u => u.listPeers ≠ []) ?_ hu hrun
  intro u call v hu hstep
  cases call with
  | start outcome socketType =>
    cases hstep
    unfold UDTP.start
    dsimp only
    split
    · exact hu
    split
    · exact hu
    split
    · exact hu
    · intro hnil
      have hlength := congrArg List.length hnil
      simp [UDTP.addPeer, UDTP.modifyPeer] at hlength
  | stop =>
    cases hstep
    exact hu
  | accepted answer socket =>
    cases hstep
    rw [UDTP.acceptPeer_eq]
    simp
  | removed i =>
    obtain ⟨⟨b, w⟩, hremove, rfl⟩ := map_ok hstep
    have hpos := List.length_pos_of_ne_nil hu
    rw [UDTP.removePeer_ok hremove]
    intro hnil
    have hlength := congrArg List.length hnil
    simp only [List.length_eraseIdx, List.length_nil] at hlength
    split at hlength
    · omega
    · omega

/-- **A second session never has a record of its own listen socket at position 0.** -/
theorem not_selfRight_of_second {u v : UDTP} {calls : List SessionCall} (hu : u.listPeers ≠ [])
    (hrun : run handle u calls = .ok v) {outcome : UDTP.StartOutcome} {socketType : SocketType}
    (hfresh : ∀ p ∈ v.listPeers, p.listenSocket.descriptor ≠ outcome.descriptor)
    (hsuccess : (v.start outcome socketType).1 = .success) :
    ¬ UDTP.SelfRight outcome socketType (v.start outcome socketType).2 := by
  obtain ⟨halive, hsocket, hmutex⟩ := UDTP.start_eq_success hsuccess
  rw [UDTP.selfRight_iff halive hsocket hmutex hfresh]
  exact run_listPeers_ne_nil hu hrun

/-- **When every call of `start()` does what it should.** Over any sequence of calls, iff the
refused ones come while the counter is zero, and the successful ones while there is no
record. -/
theorem startsRight_iff_timely {memory : UDTP} {calls : List SessionCall}
    (hfresh : DescriptorsFresh memory calls) :
    StartsRight memory calls ↔ StartsTimely memory calls := by
  constructor
  · intro hright u outcome socketType htakes
    obtain ⟨hrefused, hsuccess⟩ := hright u outcome socketType htakes
    refine ⟨?_, ?_⟩
    · intro halive
      rw [← UDTP.start_unchanged_iff halive outcome socketType]
      apply hrefused
      rw [UDTP.start_of_alive halive]
    · intro halive hsocket hmutex
      rw [← UDTP.selfRight_iff halive hsocket hmutex (hfresh u outcome socketType htakes halive)
        socketType]
      apply hsuccess
      rw [UDTP.start_of_succeeds halive hsocket hmutex]
  · intro htimely u outcome socketType htakes
    obtain ⟨hcount, hempty⟩ := htimely u outcome socketType htakes
    refine ⟨?_, ?_⟩
    · intro hrefused
      by_cases halive : u.isAlive = true
      · exact (UDTP.start_unchanged_iff halive outcome socketType).mpr (hcount halive)
      · unfold UDTP.start at hrefused
        dsimp only at hrefused
        rw [if_neg halive] at hrefused
        split at hrefused
        · cases hrefused
        split at hrefused
        · cases hrefused
        · cases hrefused
    · intro hsuccess
      obtain ⟨halive, hsocket, hmutex⟩ := UDTP.start_eq_success hsuccess
      exact (UDTP.selfRight_iff halive hsocket hmutex
        (hfresh u outcome socketType htakes halive) socketType).mpr (hempty halive hsocket hmutex)

/-- A call of `start()` with everything set up, and a descriptor for its socket. -/
def starting (descriptor : UInt32) : SessionCall :=
  start ⟨descriptor, true, true, default, true⟩ .host

/-- What `DescriptorsFresh` asks of one call. -/
def OpensFresh (u : UDTP) : SessionCall → Prop
  | start outcome _ => u.isAlive = false →
      ∀ p ∈ u.listPeers, p.listenSocket.descriptor ≠ outcome.descriptor
  | _ => True

instance (u : UDTP) (call : SessionCall) : Decidable (OpensFresh u call) :=
  match call with
  | start _ _ => inferInstanceAs (Decidable (_ → _))
  | stop => isTrue trivial
  | accepted _ _ => isTrue trivial
  | removed _ => isTrue trivial

/-- A HOST that accepts a peer, is stopped and is started again. -/
def twoSessions : List SessionCall :=
  [starting 3, accepted default ⟨4, 1⟩, stop, starting 5]

/-- The first of the two sessions starts as it should, and the second one does not. -/
theorem startsRight_iff_timely_twoSessions :
    StartsRight default [starting 3] ∧ DescriptorsFresh default twoSessions ∧
      ¬ StartsRight default twoSessions := by
  have hfirst : DescriptorsFresh default [starting 3] :=
    fun u outcome socketType htakes => forall_takes_of_checks handle (P := OpensFresh)
      (by decide) u (start outcome socketType) htakes
  have hfresh : DescriptorsFresh default twoSessions :=
    fun u outcome socketType htakes => forall_takes_of_checks handle (P := OpensFresh)
      (by decide) u (start outcome socketType) htakes
  refine ⟨(startsRight_iff_timely hfirst).mpr ?_, hfresh, ?_⟩
  · rintro u outcome socketType ⟨as, bs, heq, hrun⟩
    cases as with
    | nil =>
      cases hrun
      refine ⟨?_, fun _ _ _ => rfl⟩
      intro halive
      cases halive
    | cons a as => simp at heq
  · rw [startsRight_iff_timely hfresh]
    intro htimely
    have hempty := (htimely _ _ _ ⟨[starting 3, accepted default ⟨4, 1⟩, stop], [], rfl, rfl⟩).2
      rfl rfl rfl
    cases hempty

/-- A HOST that has accepted one peer is started again: the refused call sets the counter
back. -/
theorem not_startsRight_of_refused :
    ¬ StartsRight default [starting 3, accepted default ⟨4, 1⟩, starting 5] := by
  intro h
  have hsame := (h _ _ _ ⟨[starting 3, accepted default ⟨4, 1⟩], [], rfl, rfl⟩).1 rfl
  have hcount := congrArg UDTP.uniqueIDCount hsame
  exact absurd hcount (by decide)

end SessionCall

end Udtp
