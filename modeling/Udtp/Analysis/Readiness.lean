import Udtp.Analysis.OwnRecord
import Udtp.Model.PeerSession

/-!
# When a PEER is ready

`send_file()` and `get_file()` ask for `COMPLETE`, which nothing records: an endpoint is
never ready.  `Kept` says which of the other events are recorded at each statement of
`start()`; the handshake is recorded by the listen thread alone, and only after `start()`
returned.  So readiness is tracked exactly in the sessions in which the six events never
come together (`readinessTracked_iff`).
-/

set_option autoImplicit false

namespace Udtp

open StepMachine

/-! ## The record of an endpoint and the packets -/

/-- The handshakes that are recorded in the record of the endpoint itself: an approval, and
settings the endpoint accepts when the object's memory held zero for its position. -/
def Packet.RecordsHandshake (setup : UDTPSetup) (p : Packet) : Prop :=
  ∃ h, p = .handshake h ∧ (h.unpack.2.responseCode = .responseApproved ∨
    (h.unpack.2.responseCode = .responseNone ∧ h.unpack.2.compareSettings setup = true ∧
      h.peerID = 0))

variable {env : Environment} {u u' : UDTP} {p q : Packet} {b : Bool}

/-- What handling a packet records for the endpoint itself. -/
theorem process_recorded (h : process env u p = .ok (b, q, u')) {self : UDTPPeer}
    (hself : u.getPeer 0 = some self) :
    ∃ self', u'.getPeer 0 = some self' ∧ ∀ event,
      (self'.checkInitProcess event = true ↔ self.checkInitProcess event = true ∨
        (event = .handshake ∧ p.RecordsHandshake env.setup)) := by
  by_cases htype : ∃ hs, p = .handshake hs
  · obtain ⟨hs, rfl⟩ := htype
    obtain ⟨b', hs', hr⟩ : ∃ b' hs', hs.unpack.2.respond env u = .ok (b', hs', u') := by
      rcases process_cases h with ⟨hs₁, b', hs', heq, hr⟩ | ⟨hd, b', hd', heq, -⟩ |
        ⟨pa, heq, -⟩ | ⟨a, b', a', heq, -⟩
      · cases heq
        exact ⟨b', hs', hr⟩
      · cases heq
      · cases heq
      · cases heq
    have hid : hs.unpack.2.peerID = hs.peerID := by
      rw [UDTPHandshake.unpack_toUDTPPacket]
      rfl
    -- a change at position `k` of the list, seen from position 0
    have hchange : ∀ (k : ℕ) (f : UDTPPeer → UDTPPeer), ∃ self',
        (u.modifyPeer k f).getPeer 0 = some self' ∧ self' = if k = 0 then f self else self := by
      intro k f
      by_cases hk : k = 0
      · subst hk
        exact ⟨f self, by simp [hself], by simp⟩
      · exact ⟨self, by rw [UDTP.getPeer_modifyPeer_ne u f (Ne.symm hk), hself], by simp [hk]⟩
    rcases UDTPHandshake.respond_udtp hr with ⟨hc, hs₁, rfl⟩ | ⟨hc, hs₁, rfl⟩ | ⟨hc, rfl⟩ |
      ⟨hn, ha, rfl⟩
    · obtain ⟨self', hget, rfl⟩ := hchange hs.unpack.2.peerID UDTPPeer.setOffline
      refine ⟨_, hget, ?_⟩
      intro event
      have hnot : ¬ (Packet.handshake hs).RecordsHandshake env.setup := by
        simp [Packet.RecordsHandshake, hc, hs₁]
      split <;> simp [hnot]
    · obtain ⟨self', hget, rfl⟩ := hchange hs.unpack.2.peerID
        (UDTPPeer.setInitProcessComplete .handshake)
      refine ⟨_, hget, ?_⟩
      intro event
      have hiff : (Packet.handshake hs).RecordsHandshake env.setup ↔ hs.peerID = 0 := by
        simp [Packet.RecordsHandshake, hc, hs₁]
      rw [hiff, hid]
      split
      · rename_i hzero
        simp [hzero, @eq_comm _ event]
      · rename_i hzero
        simp [hzero]
    · obtain ⟨self', hget, rfl⟩ := hchange 0 (UDTPPeer.setInitProcessComplete .handshake)
      refine ⟨_, hget, ?_⟩
      intro event
      have hrecords : (Packet.handshake hs).RecordsHandshake env.setup := ⟨hs, rfl, Or.inl hc⟩
      simp [hrecords, @eq_comm _ event]
    · refine ⟨self, hself, ?_⟩
      intro event
      have hnot : ¬ (Packet.handshake hs).RecordsHandshake env.setup := by
        simp [Packet.RecordsHandshake, hn, ha]
      simp [hnot]
  · have hnot : ¬ p.RecordsHandshake env.setup := by
      rintro ⟨hs, heq, -⟩
      exact htype ⟨hs, heq⟩
    have hstanding := process_standing h (by
      intro hs heq
      exact htype ⟨hs, heq⟩)
    obtain ⟨self', hself', hsame⟩ := UDTP.getPeer_of_map_eq hstanding.symm hself
    refine ⟨self', hself', ?_⟩
    intro event
    have hbits : self.initProcess = self'.initProcess := congrArg Prod.fst hsame
    simp [hnot, UDTPPeer.checkInitProcess, hbits]

/-- A handshake that is recorded for the endpoint itself is handled without a fault. -/
theorem process_of_recordsHandshake (hp : p.RecordsHandshake env.setup) {self : UDTPPeer}
    (hself : u.getPeer 0 = some self) : ∃ b q u', process env u p = .ok (b, q, u') := by
  obtain ⟨h, rfl, hcode | ⟨hcode, haccepts, hzero⟩⟩ := hp
  · obtain ⟨b, q, u', hprocess, -⟩ := process_approves ⟨h, rfl, hcode⟩ hself env
    exact ⟨b, q, u', hprocess⟩
  · have hid : h.unpack.2.peerID = 0 := by
      rw [UDTPHandshake.unpack_toUDTPPacket]
      exact hzero
    have hrespond : h.unpack.2.respond env u =
        .ok (true, h.unpack.2.setResponseCode .responseApproved,
          u.modifyPeer 0 (UDTPPeer.setInitProcessComplete .handshake)) := by
      unfold UDTPHandshake.respond
      rw [hcode, hid, hself, haccepts]
      rfl
    simp only [process, Packet.unpack, Packet.respond, hrespond, Except.map]
    exact ⟨_, _, _, rfl⟩

/-! ## Readiness of an endpoint -/

/-- Every event of the initialisation is recorded, apart from its completion. -/
def UDTPPeer.Prepared (self : UDTPPeer) : Prop :=
  ∀ event, event ≠ .complete → self.checkInitProcess event = true

/-- An endpoint is ready iff its record is prepared, and both commands say so. -/
structure ReadinessTracked (u : UDTP) : Prop where
  complete : ∀ self, u.getPeer 0 = some self →
    (self.checkInitProcess .complete = true ↔ self.Prepared)
  sendFile : ∀ self, u.getPeer 0 = some self → ∀ env memory path,
    ((∃ sent v, u.sendFile env memory path = .ok (some .selfNotReady, sent, v)) ↔ ¬ self.Prepared)
  getFile : ∀ self, u.getPeer 0 = some self → ∀ env memory path,
    ((∃ sent v, u.getFile env memory path = .ok (some .selfNotReady, sent, v)) ↔ ¬ self.Prepared)

/-- A request to send is refused as too early iff the own record is not complete. -/
theorem UDTP.sendFile_selfNotReady_iff {self : UDTPPeer} (hself : u.getPeer 0 = some self)
    (memory : UDTPHeader) (path : String) :
    (∃ sent v, u.sendFile env memory path = .ok (some .selfNotReady, sent, v)) ↔
      self.checkInitProcess .complete = false := by
  cases hcomplete : self.checkInitProcess .complete with
  | false => simp [UDTP.sendFile_of_incomplete hself hcomplete]
  | true =>
    refine iff_of_false ?_ (by simp)
    rintro ⟨sent, v, heq⟩
    simp only [UDTP.sendFile, hself, hcomplete, Bool.not_true, Bool.false_eq_true, if_false] at heq
    split at heq
    · cases heq
    split at heq
    · cases heq
    · cases heq

/-- So is a request to get. -/
theorem UDTP.getFile_selfNotReady_iff {self : UDTPPeer} (hself : u.getPeer 0 = some self)
    (memory : UDTPHeader) (path : String) :
    (∃ sent v, u.getFile env memory path = .ok (some .selfNotReady, sent, v)) ↔
      self.checkInitProcess .complete = false := by
  cases hcomplete : self.checkInitProcess .complete with
  | false => simp [UDTP.getFile_of_incomplete hself hcomplete]
  | true =>
    refine iff_of_false ?_ (by simp)
    rintro ⟨sent, v, heq⟩
    simp only [UDTP.getFile, hself, hcomplete, Bool.not_true, Bool.false_eq_true, if_false] at heq
    split at heq
    · cases heq
    · cases heq

/-- Where the completion is not recorded, readiness is tracked as long as the record is not
prepared. -/
theorem readinessTracked_of_incomplete
    (hcomplete : ∀ self, u.getPeer 0 = some self → self.checkInitProcess .complete = false) :
    ReadinessTracked u ↔ ∀ self, u.getPeer 0 = some self → ¬ self.Prepared := by
  constructor
  · intro h self hself hprepared
    have htrue := (h.complete self hself).mpr hprepared
    rw [hcomplete self hself] at htrue
    cases htrue
  · intro h
    refine ⟨?_, ?_, ?_⟩
    · intro self hself
      simp [hcomplete self hself, h self hself]
    · intro self hself env memory path
      rw [UDTP.sendFile_selfNotReady_iff hself]
      simp [hcomplete self hself, h self hself]
    · intro self hself env memory path
      rw [UDTP.getFile_selfNotReady_iff hself]
      simp [hcomplete self hself, h self hself]

/-! ## What is recorded at each statement -/

/-- The events `start()` has recorded before a statement, `none` as long as there is no
record. -/
def StartPoint.recorded : StartPoint → Option (List InitProcessEvent)
  | .enter | .addPeer => none
  | .setSelf | .mutexFrameworkInit => some []
  | .listenSocket => some [.mutexFrameworkInit]
  | .queueThreads => some [.mutexFrameworkInit, .listenSocket]
  | .createListenThread | .listenThread => some [.mutexFrameworkInit, .listenSocket, .queueThreads]
  | .setAlive | .returned .success =>
    some [.mutexFrameworkInit, .listenSocket, .queueThreads, .listenThread]
  | .returned _ => none

namespace PeerSession

/-- Apart from the handshake, the record holds the events up to a statement. -/
def Records (outcome : UDTP.StartOutcome) (events : List InitProcessEvent) (self : UDTPPeer) :
    Prop :=
  ∀ event, event ≠ .handshake → (self.checkInitProcess event = true ↔
    event ∈ events ∨ (event = .mutexSelfInit ∧ outcome.selfMutexReady = true))

/-- What every step keeps.  Before `start()` returns there is no handshake, and nobody finds
the endpoint alive. -/
inductive Kept (outcome : UDTP.StartOutcome) (s : PeerSession) : Prop
  | unrecorded (hlist : s.loop.udtp.listPeers = []) (hpoint : s.startPoint.recorded = none)
      (hdead : s.loop.udtp.isAlive = false)
  | recorded (self : UDTPPeer) (events : List InitProcessEvent)
      (hself : s.loop.udtp.getPeer 0 = some self) (hpoint : s.startPoint.recorded = some events)
      (hrecords : Records outcome events self)
      (hearly : s.startPoint ≠ .returned .success →
        self.checkInitProcess .handshake = false ∧ s.loop.udtp.isAlive = false)

variable {outcome : UDTP.StartOutcome} {s t : PeerSession}

/-- One more event completed is one more event recorded. -/
theorem Records.add {events : List InitProcessEvent} {self : UDTPPeer}
    (h : Records outcome events self) (event : InitProcessEvent) :
    Records outcome (events ++ [event]) (self.setInitProcessComplete event) := by
  intro other hother
  rw [UDTPPeer.checkInitProcess_setInitProcessComplete, Bool.or_eq_true, h other hother,
    decide_eq_true_eq, List.mem_append, List.mem_singleton, @eq_comm _ event other]
  tauto

/-- A statement that records an event. -/
theorem Kept.record {self : UDTPPeer} {events : List InitProcessEvent}
    (hself : s.loop.udtp.getPeer 0 = some self) (hrecords : Records outcome events self)
    (hearly : self.checkInitProcess .handshake = false ∧ s.loop.udtp.isAlive = false)
    (event : InitProcessEvent) (hevent : event ≠ .handshake) {point : StartPoint}
    (hpoint : point.recorded = some (events ++ [event])) :
    Kept outcome (s.continueAt point
      (s.loop.udtp.modifyPeer 0 (UDTPPeer.setInitProcessComplete event))) := by
  refine .recorded (self.setInitProcessComplete event) _ ?_ hpoint (hrecords.add event) ?_
  · simp [continueAt, hself]
  · intro _
    exact ⟨by simp [hearly.1, hevent], hearly.2⟩

/-- A step of `start()` keeps what every session keeps. -/
theorem Kept.startStep (h : Kept outcome s) : Kept outcome (s.startStep outcome) := by
  cases h with
  | unrecorded hlist hpoint hdead =>
    cases hs : s.startPoint with
    | enter =>
      simp only [PeerSession.startStep, hs, PeerSession.enter, hdead, Bool.false_eq_true, if_false]
      split
      · exact .unrecorded hlist rfl rfl
      split
      · exact .unrecorded hlist rfl rfl
      · exact .unrecorded hlist rfl rfl
    | addPeer =>
      simp only [PeerSession.startStep, hs]
      refine .recorded ((UDTPPeer.new outcome.peerMemory outcome.selfMutexReady
        s.loop.udtp.listenSocket).setOnline) [] ?_ rfl ?_ ?_
      · simp [continueAt, UDTP.addPeer, UDTP.getPeer, hlist]
      · intro event hevent
        by_cases hmutex : event = .mutexSelfInit
        · subst hmutex
          simp [UDTPPeer.checkInitProcess_new_mutexSelfInit]
        · simp [UDTPPeer.checkInitProcess_new _ _ _ _ hmutex, hmutex]
      · intro _
        exact ⟨by simp [UDTPPeer.checkInitProcess_new], hdead⟩
    | returned result =>
      simp only [PeerSession.startStep, hs]
      exact .unrecorded hlist hpoint hdead
    | _ => simp [hs, StartPoint.recorded] at hpoint
  | recorded self events hself hpoint hrecords hearly =>
    cases hs : s.startPoint with
    | setSelf =>
      have hbefore := hearly (by simp [hs])
      rw [hs] at hpoint
      simp only [PeerSession.startStep, hs]
      refine .recorded ((self.setUniqueID 0).setHostLocal false) events ?_ hpoint ?_ ?_
      · simp [continueAt, hself]
      · exact hrecords
      · intro _
        exact hbefore
    | mutexFrameworkInit =>
      have hbefore := hearly (by simp [hs])
      rw [hs] at hpoint
      cases hpoint
      simp only [PeerSession.startStep, hs]
      exact Kept.record hself hrecords hbefore .mutexFrameworkInit (by decide) rfl
    | listenSocket =>
      have hbefore := hearly (by simp [hs])
      rw [hs] at hpoint
      cases hpoint
      simp only [PeerSession.startStep, hs]
      exact Kept.record hself hrecords hbefore .listenSocket (by decide) rfl
    | queueThreads =>
      have hbefore := hearly (by simp [hs])
      rw [hs] at hpoint
      cases hpoint
      simp only [PeerSession.startStep, hs]
      exact Kept.record hself hrecords hbefore .queueThreads (by decide) rfl
    | createListenThread =>
      have hbefore := hearly (by simp [hs])
      rw [hs] at hpoint
      simp only [PeerSession.startStep, hs]
      exact .recorded self events hself hpoint hrecords fun _ => hbefore
    | listenThread =>
      have hbefore := hearly (by simp [hs])
      rw [hs] at hpoint
      cases hpoint
      simp only [PeerSession.startStep, hs]
      exact Kept.record hself hrecords hbefore .listenThread (by decide) rfl
    | setAlive =>
      rw [hs] at hpoint
      simp only [PeerSession.startStep, hs]
      exact .recorded self events hself hpoint hrecords fun hne => absurd rfl hne
    | returned result =>
      simp only [PeerSession.startStep, hs]
      exact .recorded self events hself hpoint hrecords hearly
    | _ => simp [hs, StartPoint.recorded] at hpoint

/-- The packet object the listen thread handles next, if it is to handle one. -/
def handled (s : PeerSession) (input : PeerInput) : Option Packet :=
  match s.listenThread with
  | .running => (s.loop.handled input).map Prod.snd
  | _ => none

/-- The next step handles a handshake that is recorded for the endpoint itself. -/
def HandshakeArrives (s : PeerSession) (input : SessionInput) : Prop :=
  ∃ i p, input = .listen i ∧ s.handled i = some p ∧ p.RecordsHandshake i.environment.setup

/-- Once there is an own record, the session has recorded what its point says. -/
theorem Kept.of_getPeer (h : Kept outcome s) {self : UDTPPeer}
    (hself : s.loop.udtp.getPeer 0 = some self) :
    ∃ events, s.startPoint.recorded = some events ∧ Records outcome events self ∧
      (s.startPoint ≠ .returned .success →
        self.checkInitProcess .handshake = false ∧ s.loop.udtp.isAlive = false) := by
  cases h with
  | unrecorded hlist =>
    simp only [UDTP.getPeer, hlist, List.getElem?_nil] at hself
    cases hself
  | recorded self' events hself' hpoint hrecords hearly =>
    obtain rfl : self' = self := Option.some.inj (hself'.symm.trans hself)
    exact ⟨events, hpoint, hrecords, hearly⟩

/-- An endpoint that is found alive was started, and has a record. -/
theorem Kept.of_alive (h : Kept outcome s) (halive : s.loop.udtp.isAlive = true) :
    s.startPoint = .returned .success ∧ ∃ self, s.loop.udtp.getPeer 0 = some self ∧
      Records outcome [.mutexFrameworkInit, .listenSocket, .queueThreads, .listenThread] self := by
  cases h with
  | unrecorded hlist hpoint hdead =>
    rw [hdead] at halive
    cases halive
  | recorded self events hself hpoint hrecords hearly =>
    have hstarted : s.startPoint = .returned .success := by
      by_contra hne
      rw [(hearly hne).2] at halive
      cases halive
    rw [hstarted] at hpoint
    cases hpoint
    exact ⟨hstarted, self, hself, hrecords⟩

/-- A packet is handled by a listen thread that runs and read it. -/
theorem handled_eq_some {input : PeerInput} {p : Packet} (h : s.handled input = some p) :
    s.listenThread = .running ∧ s.loop.udtp.isAlive = true ∧ input.pollin = true ∧
      input.read.count ≠ 0 ∧
      ∃ q, construct input.read.contents input.read.packetDeduction = some q ∧
        q.rawReadable input.read.contents = true ∧ p = setPeerFields s.loop.masterPollFd q := by
  unfold handled at h
  split at h
  · rename_i hrunning
    obtain ⟨⟨socket, r⟩, hloop, rfl⟩ := Option.map_eq_some_iff.mp h
    unfold PeerLoop.handled at hloop
    split at hloop
    · cases hloop
    · rename_i q hq
      split at hloop
      · rename_i hready
        cases hloop
        obtain ⟨halive, hpollin, hcount, hraw⟩ := hready
        exact ⟨hrunning, halive, hpollin, hcount, q, hq, hraw, rfl⟩
      · cases hloop
  · cases h

/-- Where there is a packet to handle, a round of the listen thread hands it over. -/
theorem listenStep_of_handled {input : PeerInput} {p : Packet} (h : s.handled input = some p) :
    s.listenStep input =
      (receivePeer input.environment input.read.contents input.read.packetDeduction
        s.loop.masterPollFd s.loop.udtp).map fun r =>
          { s with loop := { s.loop with udtp := r.2, sent := s.loop.sent ++ r.1 } } := by
  obtain ⟨hrunning, halive, hpollin, hcount, -⟩ := handled_eq_some h
  simp only [listenStep, hrunning, halive, if_true, PeerLoop.step, hpollin, Bool.and_self,
    PeerLoop.visit, if_pos hcount]
  cases receivePeer input.environment input.read.contents input.read.packetDeduction
    s.loop.masterPollFd s.loop.udtp with
  | error fault => rfl
  | ok r => rfl

/-- The listen thread handles a packet by its methods and leaves `start()` where it is. -/
theorem listenStep_process {input : PeerInput} {p : Packet} (h : s.handled input = some p)
    (hstep : s.listenStep input = .ok t) : t.startPoint = s.startPoint ∧
      ∃ b q, process input.environment s.loop.udtp p = .ok (b, q, t.loop.udtp) := by
  rw [listenStep_of_handled h] at hstep
  obtain ⟨⟨sent, u⟩, hreceive, rfl⟩ := map_ok hstep
  refine ⟨rfl, ?_⟩
  obtain ⟨-, -, -, -, q, hq, -, rfl⟩ := handled_eq_some h
  rcases receivePeer_cases hreceive with ⟨hnone, -⟩ | ⟨q', b, r, hq', hprocess, -⟩
  · rw [hq] at hnone
    cases hnone
  · rw [hq] at hq'
    cases hq'
    exact ⟨b, r, hprocess⟩

/-- A round without a packet keeps the endpoint or stops it. -/
theorem listenStep_of_handled_none {input : PeerInput} (h : s.handled input = none)
    (hstep : s.listenStep input = .ok t) : t.startPoint = s.startPoint ∧
      (t.loop.udtp = s.loop.udtp ∨
        (s.loop.udtp.isAlive = true ∧ t.loop.udtp = s.loop.udtp.stop)) := by
  unfold listenStep at hstep
  split at hstep
  · rename_i hrunning
    split at hstep
    · rename_i halive
      obtain ⟨loop, hloop, rfl⟩ := map_ok hstep
      refine ⟨rfl, ?_⟩
      obtain ⟨-, hsame | hstop | ⟨-, hpollin, hcount, sent, hreceive⟩⟩ := PeerLoop.step_cases hloop
      · exact Or.inl hsame
      · exact Or.inr ⟨halive, hstop⟩
      · rcases receivePeer_cases hreceive with ⟨-, hsame⟩ | ⟨p, b, q, hp, -⟩
        · exact Or.inl hsame
        · have hraw := rawReadable_of_receivePeer hp hreceive
          simp [handled, hrunning, PeerLoop.handled, hp, halive, hpollin, hcount, hraw] at h
    · cases hstep
      exact ⟨rfl, Or.inl rfl⟩
  · cases hstep
    exact ⟨rfl, Or.inl rfl⟩

/-- The listen thread keeps the events that `start()` recorded. -/
theorem Kept.listenStep (h : Kept outcome s) {input : PeerInput}
    (hstep : s.listenStep input = .ok t) : Kept outcome t := by
  cases hhandled : s.handled input with
  | none =>
    obtain ⟨hpoint, hsame | ⟨halive, hstop⟩⟩ := listenStep_of_handled_none hhandled hstep
    · cases h with
      | unrecorded hlist hrecorded hdead =>
        exact .unrecorded (hsame ▸ hlist) (hpoint ▸ hrecorded) (hsame ▸ hdead)
      | recorded self events hself hrecorded hrecords hearly =>
        exact .recorded self events (hsame ▸ hself) (hpoint ▸ hrecorded) hrecords
          (hpoint ▸ hsame ▸ hearly)
    · obtain ⟨hstarted, self, hself, hrecords⟩ := h.of_alive halive
      refine .recorded self _ (by rw [hstop]; exact hself) (by rw [hpoint, hstarted]; rfl)
        hrecords ?_
      rw [hpoint, hstarted]
      intro hne
      exact absurd rfl hne
  | some p =>
    obtain ⟨hpoint, b, q, hprocess⟩ := listenStep_process hhandled hstep
    obtain ⟨-, halive, -⟩ := handled_eq_some hhandled
    obtain ⟨hstarted, self, hself, hrecords⟩ := h.of_alive halive
    obtain ⟨self', hself', hbits⟩ := process_recorded hprocess hself
    refine .recorded self' _ hself' (by rw [hpoint, hstarted]; rfl) ?_ ?_
    · intro event hevent
      rw [hbits event, ← hrecords event hevent]
      simp [hevent]
    · rw [hpoint, hstarted]
      intro hne
      exact absurd rfl hne

/-- Every step keeps what every session keeps. -/
theorem Kept.step (h : Kept outcome s) {input : SessionInput}
    (hstep : PeerSession.step outcome s input = .ok t) : Kept outcome t := by
  cases input with
  | start =>
    cases hstep
    exact h.startStep
  | listen input => exact h.listenStep hstep

/-- Before `start()` there is nothing to keep. -/
theorem new_kept (hlist : u.listPeers = []) (hdead : u.isAlive = false) : Kept outcome (new u) :=
  .unrecorded hlist rfl hdead

/-- Every session keeps what it keeps. -/
theorem run_kept (hlist : u.listPeers = []) (hdead : u.isAlive = false) {ins : List SessionInput}
    (hrun : run (step outcome) (new u) ins = .ok s) : Kept outcome s :=
  run_preserves (PeerSession.step outcome) (Kept outcome) (fun _ _ _ h hstep => h.step hstep)
    (new_kept hlist hdead) hrun

/-! ## The handshake -/

/-- The endpoint has no handshake recorded for itself. -/
def Unshaken (u : UDTP) : Prop :=
  ∀ self, u.getPeer 0 = some self → self.checkInitProcess .handshake = false

/-- Before `start()` has succeeded no handshake is recorded. -/
theorem Kept.unshaken_of_early (h : Kept outcome s) (hearly : s.startPoint ≠ .returned .success) :
    Unshaken s.loop.udtp := by
  intro self hself
  obtain ⟨-, -, -, hbefore⟩ := h.of_getPeer hself
  exact (hbefore hearly).1

/-- The statement that ends `start()` changes no record. -/
theorem startStep_returned (h : (s.startStep outcome).startPoint = .returned .success) :
    (s.startStep outcome).loop.udtp.listPeers = s.loop.udtp.listPeers := by
  cases hs : s.startPoint with
  | enter =>
    simp only [startStep, hs, enter] at h
    split at h
    · cases h
    split at h
    · cases h
    split at h
    · cases h
    · cases h
  | setAlive =>
    simp only [startStep, hs]
    rfl
  | returned result => simp only [startStep, hs]
  | _ => simp [startStep, hs, continueAt] at h

/-- Nothing `start()` does records a handshake. -/
theorem unshaken_startStep (h : Kept outcome s) (hclear : Unshaken s.loop.udtp) :
    Unshaken (s.startStep outcome).loop.udtp := by
  by_cases hreturned : (s.startStep outcome).startPoint = .returned .success
  · intro self hself
    apply hclear self
    rw [← hself]
    exact congrArg (·[0]?) (startStep_returned hreturned).symm
  · exact h.startStep.unshaken_of_early hreturned

/-- As long as no handshake arrives, none is recorded. -/
theorem unshaken_listenStep (h : Kept outcome s) (hclear : Unshaken s.loop.udtp)
    {input : PeerInput} (harrives : ¬ s.HandshakeArrives (.listen input))
    (hstep : s.listenStep input = .ok t) : Unshaken t.loop.udtp := by
  cases hhandled : s.handled input with
  | none =>
    obtain ⟨-, hsame | ⟨-, hstop⟩⟩ := listenStep_of_handled_none hhandled hstep
    · rw [hsame]
      exact hclear
    · rw [hstop]
      exact hclear
  | some p =>
    obtain ⟨-, b, q, hprocess⟩ := listenStep_process hhandled hstep
    obtain ⟨-, halive, -⟩ := handled_eq_some hhandled
    obtain ⟨-, self, hself, -⟩ := h.of_alive halive
    obtain ⟨self', hself', hbits⟩ := process_recorded hprocess hself
    intro other hother
    obtain rfl : self' = other := Option.some.inj (hself'.symm.trans hother)
    have hnot : ¬ p.RecordsHandshake input.environment.setup := by
      intro hrecords
      exact harrives ⟨input, p, rfl, hhandled, hrecords⟩
    rw [← Bool.not_eq_true, hbits .handshake, hclear self hself]
    simp [hnot]

/-- A handshake that arrives is recorded. -/
theorem shaken_of_handshakeArrives (h : Kept outcome s) {input : SessionInput}
    (harrives : s.HandshakeArrives input) :
    ∃ t, step outcome s input = .ok t ∧ ¬ Unshaken t.loop.udtp := by
  obtain ⟨i, p, rfl, hhandled, hrecords⟩ := harrives
  obtain ⟨-, halive, -, -, q, hq, hraw, hp⟩ := handled_eq_some hhandled
  obtain ⟨-, self, hself, -⟩ := h.of_alive halive
  obtain ⟨b, r, u', hprocess⟩ := process_of_recordsHandshake hrecords hself
  obtain ⟨self', hself', hbits⟩ := process_recorded hprocess hself
  have hshaken : self'.checkInitProcess .handshake = true :=
    (hbits .handshake).mpr (Or.inr ⟨rfl, hrecords⟩)
  obtain ⟨sent, hreceive⟩ : ∃ sent, receivePeer i.environment i.read.contents
      i.read.packetDeduction s.loop.masterPollFd s.loop.udtp = .ok (sent, u') := by
    simp only [receivePeer, hq, hraw, Bool.not_true, Bool.false_eq_true, if_false, ← hp, hprocess,
      hself']
    split
    · exact ⟨_, rfl⟩
    · exact ⟨_, rfl⟩
  refine ⟨_, (listenStep_of_handled hhandled).trans (by rw [hreceive]; rfl), ?_⟩
  intro hclear
  rw [hclear self' hself'] at hshaken
  cases hshaken

/-! ## Runs -/

/-- `start()` records neither its own mutex, which the record's constructor does, nor the
completion. -/
theorem recorded_events {point : StartPoint} {events : List InitProcessEvent}
    (h : point.recorded = some events) :
    InitProcessEvent.mutexSelfInit ∉ events ∧ InitProcessEvent.complete ∉ events := by
  cases point with
  | returned result =>
    cases result <;> cases h
    decide
  | _ => cases h <;> decide

/-- **Nothing records the completion.** -/
theorem Kept.incomplete (h : Kept outcome s) {self : UDTPPeer}
    (hself : s.loop.udtp.getPeer 0 = some self) : self.checkInitProcess .complete = false := by
  obtain ⟨events, hpoint, hrecords, -⟩ := h.of_getPeer hself
  rw [← Bool.not_eq_true, hrecords .complete (by decide)]
  simp [(recorded_events hpoint).2]

/-- A record whose mutex was set up is prepared once `start()` returned and a handshake was
recorded. -/
theorem Kept.prepared (h : Kept outcome s) (hready : outcome.selfMutexReady = true)
    (hreturned : s.startPoint = .returned .success) {self : UDTPPeer}
    (hself : s.loop.udtp.getPeer 0 = some self)
    (hshaken : self.checkInitProcess .handshake = true) : self.Prepared := by
  obtain ⟨events, hpoint, hrecords, -⟩ := h.of_getPeer hself
  rw [hreturned] at hpoint
  cases hpoint
  intro event hevent
  by_cases hhandshake : event = .handshake
  · rw [hhandshake, hshaken]
  · rw [hrecords event hhandshake]
    cases event <;> simp_all

/-- Readiness is tracked until a handshake is recorded. -/
theorem Kept.tracked_iff (h : Kept outcome s) :
    ReadinessTracked s.loop.udtp ↔ outcome.selfMutexReady = false ∨ Unshaken s.loop.udtp := by
  rw [readinessTracked_of_incomplete fun self hself => h.incomplete hself]
  constructor
  · intro hunprepared
    by_cases hready : outcome.selfMutexReady = true
    · right
      by_cases hreturned : s.startPoint = .returned .success
      · intro self hself
        by_contra hshaken
        rw [Bool.not_eq_false] at hshaken
        exact hunprepared self hself (h.prepared hready hreturned hself hshaken)
      · exact h.unshaken_of_early hreturned
    · rw [Bool.not_eq_true] at hready
      exact Or.inl hready
  · rintro hclear self hself hprepared
    rcases hclear with hready | hclear
    · obtain ⟨events, hpoint, hrecords, -⟩ := h.of_getPeer hself
      have hmutex := (hrecords .mutexSelfInit (by decide)).mp (hprepared _ (by decide))
      simp [(recorded_events hpoint).1, hready] at hmutex
    · have hshaken := hprepared .handshake (by decide)
      rw [hclear self hself] at hshaken
      cases hshaken

/-- **When readiness is tracked.** A PEER that is started for the first time tracks its
readiness in every state of a session iff its own mutex could not be set up, or no handshake
that is recorded for it arrives. -/
theorem readinessTracked_iff (hlist : u.listPeers = []) (hdead : u.isAlive = false)
    (outcome : UDTP.StartOutcome) (ins : List SessionInput) :
    (∀ s, Passes (step outcome) (new u) ins s → ReadinessTracked s.loop.udtp) ↔
      outcome.selfMutexReady = false ∨
        ∀ s input, Takes (step outcome) (new u) ins s input → ¬ s.HandshakeArrives input := by
  have hpasses : ∀ s, Passes (step outcome) (new u) ins s → Kept outcome s := by
    rintro s ⟨as, bs, -, hrun⟩
    exact run_kept hlist hdead hrun
  by_cases hready : outcome.selfMutexReady = false
  · refine iff_of_true ?_ (Or.inl hready)
    intro s hs
    exact (hpasses s hs).tracked_iff.mpr (Or.inl hready)
  have hmachine : (∀ s, Passes (step outcome) (new u) ins s → Unshaken s.loop.udtp) ↔
      ∀ s input, Takes (step outcome) (new u) ins s input → ¬ s.HandshakeArrives input := by
    apply passes_iff_takes_of_invariant (step outcome) (Kept outcome)
    · intro s input t hkept hstep
      exact hkept.step hstep
    · intro s input t hkept hclear harrives hstep
      cases input with
      | start =>
        cases hstep
        exact unshaken_startStep hkept hclear
      | listen input => exact unshaken_listenStep hkept hclear harrives hstep
    · intro s input hkept _ harrives
      exact shaken_of_handshakeArrives hkept (not_not.mp harrives)
    · exact new_kept hlist hdead
    · intro self hself
      simp [new, PeerLoop.new, UDTP.getPeer, hlist] at hself
  rw [or_iff_right hready, ← hmachine]
  constructor
  · intro htracked s hs
    exact ((hpasses s hs).tracked_iff.mp (htracked s hs)).resolve_left hready
  · intro hclear s hs
    exact (hpasses s hs).tracked_iff.mpr (Or.inr (hclear s hs))

/-! ## A session with an approval -/

/-- A `start()` whose system calls all succeed. -/
def smoothStart : UDTP.StartOutcome := ⟨3, true, true, default, true⟩

/-- `start()` runs to its end, and the HOST approves the settings. -/
def approved : List SessionInput :=
  List.replicate 9 .start ++ [.listen (.reading .approval)]

/-- Before a handshake arrives, readiness is tracked in every state of a start that succeeds. -/
theorem readinessTracked_iff_started :
    (∃ s, run (step smoothStart) (new (UDTP.new default)) (List.replicate 9 .start) = .ok s) ∧
      ∀ s, Passes (step smoothStart) (new (UDTP.new default)) (List.replicate 9 .start) s →
        ReadinessTracked s.loop.udtp := by
  refine ⟨⟨_, rfl⟩,
    (readinessTracked_iff rfl rfl smoothStart (List.replicate 9 .start)).mpr (Or.inr ?_)⟩
  rintro s input ⟨as, bs, heq, -⟩ ⟨i, p, hlisten, -⟩
  have hmem : input ∈ List.replicate 9 SessionInput.start := by
    rw [heq]
    simp
  rw [List.eq_of_mem_replicate hmem] at hlisten
  cases hlisten

/-- All six events are recorded, and the endpoint still answers that it is not ready. -/
theorem not_readinessTracked_approved :
    ∃ s self, run (step smoothStart) (new (UDTP.new default)) approved = .ok s ∧
      s.loop.udtp.getPeer 0 = some self ∧ self.Prepared ∧
      self.checkInitProcess .complete = false ∧
      s.loop.udtp.sendFile default default "a" = .ok (some .selfNotReady, [], s.loop.udtp) ∧
      ¬ ReadinessTracked s.loop.udtp := by
  obtain ⟨s, self, hrun, hself, hprepared, hcomplete, hsend⟩ : ∃ s self,
      run (step smoothStart) (new (UDTP.new default)) approved = .ok s ∧
      s.loop.udtp.getPeer 0 = some self ∧ self.Prepared ∧
      self.checkInitProcess .complete = false ∧
      s.loop.udtp.sendFile default default "a" = .ok (some .selfNotReady, [], s.loop.udtp) := by
    refine ⟨_, _, rfl, rfl, ?_, rfl, rfl⟩
    intro event hevent
    cases event with
    | complete => exact absurd rfl hevent
    | _ => rfl
  refine ⟨s, self, hrun, hself, hprepared, hcomplete, hsend, ?_⟩
  intro htracked
  have htrue := (htracked.complete self hself).mpr hprepared
  rw [hcomplete] at htrue
  cases htrue

end PeerSession

end Udtp
