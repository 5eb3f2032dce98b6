import Udtp.Analysis.ByteService

/-!
# What a rejected peer can still do

Once settings were rejected, the record is offline, and the loop reads the packets of its connection
without looking at them (`step_packet_of_offline`).  So the peer has no influence on what the HOST
shows, but for one: the header it sends stays in the variable that the next call of `read()`
reads into.  Where that call fails, or gets less than a header, another peer is served by what the
rejected one has left there (`not_withoutInfluence_failingRead`).

`rejected_without_influence` excludes just that.  Two runs that differ only in what the rejected
peer sends show the same, up to repetition, as long as each call that finds its bytes in the
variable gets a whole header.  It is an instance of `StepMachine.Unwinding`, for the HOST on byte
streams with a note of whose bytes the variable holds.
-/

set_option autoImplicit false

namespace Udtp

open StepMachine

namespace HostLoop

/-! ## What the HOST shows -/

/-- The state of the HOST without the position of its loop and the answers of the last
`poll()`. -/
structure Shown where
  udtp : UDTP
  sockets : List Socket
  removePeerAndSocketSafely : List ℕ
  sent : List Sent
  accepted : ℕ

/-- What a state shows. -/
def shown (s : HostLoop) : Shown where
  udtp := s.udtp
  sockets := s.activeListenSockets.map PollFd.fd
  removePeerAndSocketSafely := s.removePeerAndSocketSafely
  sent := s.sent
  accepted := s.accepted

/-- The connection was accepted, and no record of it is online. -/
structure Offline (c : ℕ) (s : HostLoop) : Prop where
  aligned : s.Aligned
  accepted : c ≤ s.accepted
  remote : c ≠ 0
  offline : ∀ p ∈ s.udtp.listPeers, p.listenSocket.connection = c → p.isOnline = false

variable {c : ℕ} {s s' t t' : HostLoop} {input input' : HostInput}

/-- Nothing puts an existing record online again. -/
theorem Offline.step (h : Offline c s) (hstep : s.step input = .ok t) : Offline c t := by
  refine ⟨h.aligned.step hstep, h.accepted.trans (step_accepted_le hstep), h.remote, ?_⟩
  intro p' hp' hc
  have hne : p'.listenSocket.connection ≠ 0 := hc ▸ h.remote
  rcases step_records h.aligned hstep hp' hne with ⟨p, hp, hbefore⟩ | ⟨hnew, -, -⟩
  · apply hbefore.offline.mpr
    exact Or.inl (h.offline p hp (by rw [hbefore.listenSocket, hc]))
  · have := h.accepted
    omega

/-- A rejection puts its record offline. -/
theorem Rejection.offline (h : s.Aligned) (hreject : s.Rejection input c) (hc : c ≠ 0)
    (hstep : s.step input = .ok t) : Offline c t := by
  obtain ⟨⟨-, q, hq, hqc, -⟩, -⟩ := id hreject
  have haccepted : c ≤ s.accepted := hqc ▸ h.bounded _ (List.mem_map_of_mem hq)
  refine ⟨h.step hstep, haccepted.trans (step_accepted_le hstep), hc, ?_⟩
  intro p' hp' hp'c
  rcases step_records h hstep hp' (hp'c ▸ hc) with ⟨p, hp, hbefore⟩ | ⟨hnew, -, -⟩
  · apply hbefore.offline.mpr
    exact Or.inr (Or.inl (hp'c ▸ hreject))
  · omega

/-! ## One step -/

/-- A change of phase shows nothing. -/
@[simp]
theorem shown_setPhase (s : HostLoop) (phase : HostPhase) : (s.setPhase phase).shown = s.shown :=
  rfl

/-- What `poll()` writes shows nothing. -/
@[simp]
theorem shown_setRevents (s : HostLoop) (answer : Option (ℕ → Bool)) :
    (s.setRevents answer).shown = s.shown := by
  cases answer with
  | none => rfl
  | some ready => simp [setRevents, shown, map_fd_mapIdx]

/-- With nothing queued, nothing is removed. -/
theorem removeQueued_nil {sockets sockets' : List PollFd} {u u' : UDTP}
    (h : removeQueued [] sockets u = .ok (sockets', u')) : sockets' = sockets ∧ u' = u := by
  cases h
  exact ⟨rfl, rfl⟩

/-- A step without an event shows nothing. -/
theorem shown_of_silent (hstep : s.step input = .ok t) (he : s.event input = none) :
    t.shown = s.shown := by
  have hstepped := step_stepped hstep
  rw [he] at hstepped
  cases hstepped with
  | skipped hphase => rfl
  | passed i entry hphase hentry => rfl
  | scanned i hphase hend => rfl
  | removed e sockets u hphase hremove hevent =>
    split at hevent
    · rename_i hqueue
      rw [hqueue] at hremove
      obtain ⟨rfl, rfl⟩ := removeQueued_nil hremove
      simp [shown, hqueue]
    · cases hevent

/-- A packet of an offline connection is handled, without any effect. -/
theorem step_packet_of_offline (h : Offline c s) {env : Environment} {read : ReadAnswer}
    (he : s.event input = some (.packet c env read)) :
    ∃ t, s.step input = .ok t ∧ t.udtp = s.udtp ∧ t.sent = s.sent := by
  unfold event at he
  split at he
  case h_1 => cases he
  case h_2 => split at he <;> (try split at he) <;> cases he
  case h_4 => split at he <;> cases he
  case h_3 i hphase =>
    split at he
    · cases he
    rename_i entry hentry
    split at he
    case isFalse => cases he
    rename_i hready
    split at he
    case isFalse => cases he
    rename_i hcount
    cases he
    have hlt : i < s.udtp.listPeers.length :=
      h.aligned.length_eq ▸ (List.getElem?_eq_some_iff.mp hentry).1
    have hpeer : s.udtp.getPeer i = some s.udtp.listPeers[i] := List.getElem?_eq_getElem hlt
    have hoffline := h.offline _ (List.getElem_mem hlt)
      (by rw [h.aligned.socket_eq hentry hpeer])
    refine ⟨s.setPhase (.scan (i + 1)), ?_, rfl, rfl⟩
    simp [HostLoop.step, hphase, hentry, hready, visit, hpeer, hcount, hoffline, Except.map]

/-! ## What a visible step shows -/

/-- What the HOST shows after an event, computed from what it showed before.  A connection
is looked up in the records, because a packet does not name its position. -/
def Shown.after (sh : Shown) : HostEvent → Shown
  | .poll => sh
  | .accepted env answer =>
    let socket : Socket := ⟨UInt32.ofInt answer.result, sh.accepted + 1⟩
    let peers := sh.udtp.acceptPeer answer socket
    { sh with
      udtp := peers.2
      sockets := sh.sockets ++ [socket]
      sent := sh.sent ++
        [(socket, .handshake (handshakeStart env answer socket peers.1 peers.2.uniqueIDCount))]
      accepted := sh.accepted + 1 }
  | .packet c env read =>
    let i := sh.udtp.connections.idxOf c
    match sh.udtp.getPeer i with
    | none => sh
    | some peer =>
      if peer.isOnline then
        match receiveHost env read.contents read.packetDeduction peer.listenSocket i sh.udtp with
        | .error _ => sh
        | .ok (sent, u) => { sh with udtp := u, sent := sh.sent ++ sent }
      else sh
  | .disconnect _ i =>
    { sh with
      udtp := sh.udtp.modifyPeer i UDTPPeer.setOffline
      removePeerAndSocketSafely := sh.removePeerAndSocketSafely ++ [i] }
  | .removal =>
    { sh with
      sockets := (QueuedErase.eraseEach sh.removePeerAndSocketSafely sh.sockets).getD []
      udtp := { sh.udtp with
        listPeers :=
          (QueuedErase.eraseEach sh.removePeerAndSocketSafely sh.udtp.listPeers).getD [] }
      removePeerAndSocketSafely := [] }

/-- The position of a connection is that of its record. -/
theorem Aligned.idxOf_connection (h : s.Aligned) {i : ℕ} {p : UDTPPeer}
    (hp : s.udtp.getPeer i = some p) :
    s.udtp.connections.idxOf p.listenSocket.connection = i := by
  have hrec : s.udtp.listPeers[i]? = some p := hp
  obtain ⟨hlt, hget⟩ := List.getElem?_eq_some_iff.mp hrec
  have hconn : i < s.udtp.connections.length := by simpa [UDTP.connections] using hlt
  have := h.nodup.idxOf_getElem i hconn
  simpa [UDTP.connections, hget] using this

/-- **What the HOST shows is computed from its events.** -/
theorem shown_after (h : s.Aligned) (hstep : s.step input = .ok t) {e : HostEvent}
    (he : s.event input = some e) : t.shown = s.shown.after e := by
  have hstepped := step_stepped hstep
  rw [he] at hstepped
  cases hstepped with
  | polled hphase => simp [Shown.after]
  | accepted hphase =>
    simp [shown, Shown.after, afterAccept, nextSocket, setPhase, UDTP.acceptPeer_eq]
  | received i entry peer sent u hphase hentry hpeer honline hreceive =>
    have hfd := h.socket_eq hentry hpeer
    rw [hfd] at hreceive
    simp [shown, Shown.after, hfd, h.idxOf_connection hpeer, hpeer, honline, hreceive]
  | ignored i entry peer hphase hentry hpeer hoffline =>
    have hfd := h.socket_eq hentry hpeer
    simp [shown, Shown.after, hfd, h.idxOf_connection hpeer, hpeer, hoffline, setPhase]
  | disconnected i entry peer hphase hentry hpeer => rfl
  | removed e sockets u hphase hremove hevent =>
    split at hevent
    · cases hevent
    cases hevent
    obtain ⟨hsockets, hpeers, hu⟩ := removeQueued_ok h.length_eq hremove
    have hfds := QueuedErase.eraseEach_map PollFd.fd s.removePeerAndSocketSafely
      s.activeListenSockets
    rw [hsockets, Option.map_some] at hfds
    simp only [shown, Shown.after, hfds, hpeers, Option.getD_some]
    rw [← hu]

/-- A packet of an offline record shows nothing. -/
theorem Aligned.after_packet_of_offline (h : s.Aligned) (hreads : s.readsFrom = some c)
    (hoffline : s.readsOnline = false) (env : Environment) (read : ReadAnswer) :
    s.shown.after (.packet c env read) = s.shown := by
  obtain ⟨i, peer, hpeer, rfl, honline⟩ := h.record_of_readsFrom hreads
  rw [hoffline] at honline
  simp [shown, Shown.after, h.idxOf_connection hpeer, hpeer, ← honline]

/-- What a packet shows depends on its header and its contents. -/
theorem Shown.after_packet_congr (sh : Shown) (env : Environment) {read read' : ReadAnswer}
    (hheader : read.packetDeduction = read'.packetDeduction)
    (hcontents : read.contents = read'.contents) :
    sh.after (.packet c env read) = sh.after (.packet c env read') := by
  simp only [Shown.after, hheader, hcontents]

/-- Whether the record of a connection that is read from is online, is shown. -/
theorem Aligned.readsOnline_eq (h : s.Aligned) (h' : s'.Aligned) (hshown : s.shown = s'.shown)
    (hreads : s.readsFrom = some c) (hreads' : s'.readsFrom = some c) :
    s.readsOnline = s'.readsOnline := by
  obtain ⟨i, peer, hpeer, hconnection, honline⟩ := h.record_of_readsFrom hreads
  obtain ⟨i', peer', hpeer', hconnection', honline'⟩ := h'.record_of_readsFrom hreads'
  have hudtp : s.udtp = s'.udtp := congrArg Shown.udtp hshown
  obtain rfl : i = i' := h.position_inj hpeer (hudtp ▸ hpeer') (hconnection.trans hconnection'.symm)
  obtain rfl : peer = peer' := Option.some.inj (hpeer.symm.trans (hudtp ▸ hpeer'))
  rw [honline, honline']

/-- No packet arrives on the connection zero, the listen socket. -/
theorem Arrives.connection_ne_zero (h : s.Aligned) (hstep : s.step input = .ok t)
    (harrives : s.Arrives input c) : c ≠ 0 := by
  obtain ⟨i, peer, hphase, hpeer, rfl⟩ :=
    event_position h hstep (Or.inl ⟨_, _, harrives.1⟩)
  have hscanned := h.scanned
  rw [hphase] at hscanned
  exact h.connection_ne_zero hpeer hscanned.1

end HostLoop

namespace ByteHost

variable {c : ℕ} {w w' t t' : ByteHost}

/-! ## What the variable holds -/

/-- The settings of a connection are rejected. -/
def Rejects (w : ByteHost) (input : HostInput) (c : ℕ) : Prop :=
  ∃ found, w.found input = some found ∧ w.loop.Rejection found c

/-- A note of whether the variable may hold bytes of a connection.  It does once some were read, and
until a whole header is read from another. -/
def mixedWith (c : ℕ) (w : ByteHost) (input : ByteInput) (mixed : Bool) : Bool :=
  match input with
  | .step input =>
    if w.piece input = [] then mixed
    else if w.loop.readsFrom = some c then true
    else if (w.piece input).length = UDTPPacketHeader.sizeOf then false
    else mixed
  | _ => mixed

/-- A step that serves a connection while the variable may hold the bytes of another gets a whole
header, or finds no data. -/
def ReadsOver (p : ByteHost × Bool) (input : ByteInput) : Prop :=
  p.2 = true → ∀ connection ∈ p.1.loop.readsFrom, p.1.ReadsWhole connection input

instance (p : ByteHost × Bool) (input : ByteInput) : Decidable (ReadsOver p input) :=
  inferInstanceAs (Decidable (_ → _))

/-- In a run from some state on, whatever a connection sends is never taken for what another one
does: each call that finds its bytes gets a whole header. -/
def Unmixed (c : ℕ) (t : ByteHost) (ins : List ByteInput) : Prop :=
  ∀ p input, Takes (noted step (mixedWith c)) (t, false) ins p input → ReadsOver p input

/-- The events of all but the packets of a connection. -/
def otherEvent (c : ℕ) (w : ByteHost) (input : ByteInput) : Option Event :=
  (w.event input).filter fun
    | .packet connection _ _ _ => connection ≠ c
    | _ => true

/-- A connection has no influence from some state on, in runs that are allowed: its packets change
nothing and are not answered, and two runs that differ in them alone go through the same states, up
to repetition. -/
def WithoutInfluence (c : ℕ) (t : ByteHost) (Allowed : List ByteInput → Prop) : Prop :=
  (∀ later m, StepMachine.run step t later = .ok m → ∀ next env bytes contents,
    m.event next = some (.packet c env bytes contents) →
    ∃ m', m.step next = .ok m' ∧ m'.loop.udtp = m.loop.udtp ∧ m'.loop.sent = m.loop.sent) ∧
  (∀ left right m m', Allowed left → Allowed right →
    StepMachine.run step t left = .ok m → StepMachine.run step t right = .ok m' →
    events step (otherEvent c) t left = events step (otherEvent c) t right →
    SameUpToRepetition (trace step (fun w => w.loop.shown) t left)
      (trace step (fun w => w.loop.shown) t right))

/-! ## Steps -/

/-- The event of a step of the loop. -/
theorem event_eq {input found : HostInput} (hfound : w.found input = some found) :
    w.event (.step input) = (w.loop.event found).bind (ofHostEvent (w.piece input)) := by
  simp [event, hfound]

/-- A step that reads from no connection leaves the variable alone. -/
theorem left_of_not_readsFrom (hreads : w.loop.readsFrom = none) (found : HostInput) :
    w.left found = w.packetDeduction := by
  simp [left, hreads]

/-- A step that reads from a connection writes its bytes over what is there. -/
theorem left_of_readsFrom {input found : HostInput} (hfound : w.found input = some found)
    {connection : ℕ} (hreads : w.loop.readsFrom = some connection) {before : UDTPPacketHeader}
    (hbefore : w.packetDeduction = some before) :
    w.left found = some (.readOver (w.piece input) before) ∧
      found.read.packetDeduction = .readOver (w.piece input) before := by
  have hheader := deduction_of_found hreads hfound
  have hheld : w.held input.read = before := by simp [held, hbefore]
  rw [hheld] at hheader
  exact ⟨by simp [left, hreads, hheader], hheader⟩

/-- A step that is no packet takes no bytes. -/
theorem piece_eq_nil {input : HostInput}
    (hnone : ∀ found, w.found input = some found →
      ∀ connection env read, w.loop.event found ≠ some (.packet connection env read)) :
    w.piece input = [] := by
  cases hreads : w.loop.readsFrom with
  | none => simp [piece, hreads]
  | some connection =>
    cases hyielded : w.reads connection input.read with
    | none =>
      -- the call waits, because there is nothing to read
      unfold reads at hyielded
      split at hyielded
      · cases hyielded
      split at hyielded
      · rename_i hstream
        simp [piece, hreads, hstream]
      · cases hyielded
    | some yielded =>
      have hfound : w.found input = some { input with read := yielded } := by
        simp [ByteHost.found, hreads, hyielded]
      rcases reads_takenFrom hyielded with ⟨hcount, -⟩ | ⟨-, htaken⟩
      · rcases HostLoop.event_of_readsFrom hreads { input with read := yielded } with
          ⟨-, hpacket⟩ | ⟨hzero, -⟩
        · exact absurd hpacket (hnone _ hfound _ _ _)
        · exact absurd hzero hcount
      · simp [piece, hreads, htaken]

/-- A step that finds something else than a packet takes no bytes. -/
theorem piece_eq_nil_of_event {input found : HostInput} (hfound : w.found input = some found)
    (hnone : ∀ connection env read, w.loop.event found ≠ some (.packet connection env read)) :
    w.piece input = [] := by
  refine piece_eq_nil ?_
  intro found' hfound'
  obtain rfl := Option.some.inj (hfound.symm.trans hfound')
  exact hnone

/-- A connection is offline, and something was read already. -/
def Watched (c : ℕ) (p : ByteHost × Bool) : Prop :=
  p.1.loop.Offline c ∧ ∃ before, p.1.packetDeduction = some before

/-- Two states show the same, and the variable holds the same in both, unless it may hold bytes of
the connection that is watched. -/
def Agree (p p' : ByteHost × Bool) : Prop :=
  p.1.loop.shown = p'.1.loop.shown ∧
    (p.2 = false → p'.2 = false → p.1.packetDeduction = p'.1.packetDeduction)

/-- A step that takes no bytes leaves the variable and the note alone. -/
theorem quiet_of_nil {input found : HostInput} (hfound : w.found input = some found)
    (hsome : ∃ before, w.packetDeduction = some before) (hnil : w.piece input = []) :
    w.left found = w.packetDeduction ∧ ∀ b, w.mixedWith c (.step input) b = b := by
  obtain ⟨before, hbefore⟩ := hsome
  refine ⟨?_, fun b => by simp [mixedWith, hnil]⟩
  cases hreads : w.loop.readsFrom with
  | none => exact left_of_not_readsFrom hreads found
  | some connection =>
    rw [(left_of_readsFrom hfound hreads hbefore).1, hnil, hbefore]
    rfl

/-- While the loop waits, the note stays. -/
theorem Waits.mixedWith {input : ByteInput} (h : w.Waits input) (c : ℕ) (b : Bool) :
    w.mixedWith c input b = b := by
  cases input with
  | step input =>
    have hnil : w.piece input = [] := by
      refine piece_eq_nil ?_
      intro found hfound
      have hnone : w.found input = none := h
      rw [hnone] at hfound
      cases hfound
    simp [ByteHost.mixedWith, hnil]
  | arrives connection bytes => rfl
  | closes connection => rfl

/-- A connection stays offline, and the variable stays read into. -/
theorem Watched.step {p q : ByteHost × Bool} {input : ByteInput} (h : Watched c p)
    (hstep : noted step (mixedWith c) p input = .ok q) : Watched c q := by
  obtain ⟨hoffline, before, hbefore⟩ := h
  obtain ⟨hstep, -⟩ := (noted_ok ByteHost.step (mixedWith c)).mp hstep
  rcases step_cases hstep with ⟨hloop, hvariable, -⟩ | ⟨input', found, -, hfound, hloop, hvariable⟩
  · exact ⟨hloop ▸ hoffline, before, hvariable.trans hbefore⟩
  · refine ⟨hoffline.step hloop, ?_⟩
    cases hreads : p.1.loop.readsFrom with
    | none => exact ⟨before, by rw [hvariable, left_of_not_readsFrom hreads, hbefore]⟩
    | some connection =>
      exact ⟨_, hvariable.trans (left_of_readsFrom hfound hreads hbefore).1⟩

/-- What a rejected peer sends does not show. -/
theorem Agree.silent {p q r : ByteHost × Bool} {input : ByteInput} (hp : Watched c p)
    (hstep : noted step (mixedWith c) p input = .ok q) (he : p.1.otherEvent c input = none)
    (h : Agree p r) : Agree q r := by
  obtain ⟨hoffline, hsome⟩ := hp
  obtain ⟨hstep, hnote⟩ := (noted_ok step (mixedWith c)).mp hstep
  rcases step_cases hstep with
    ⟨hloop, hvariable, hwaits⟩ | ⟨input', found, rfl, hfound, hloop, hvariable⟩
  · rw [hwaits.mixedWith c] at hnote
    exact ⟨by rw [hloop, h.1], by rw [hnote, hvariable]; exact h.2⟩
  -- a step that shows nothing and takes no bytes
  have hquiet : p.1.piece input' = [] → q.1.loop.shown = p.1.loop.shown → Agree q r := by
    intro hnil hshown
    obtain ⟨hleft, hsame⟩ := quiet_of_nil (c := c) hfound hsome hnil
    rw [hsame] at hnote
    exact ⟨hshown.trans h.1, by rw [hnote, hvariable, hleft]; exact h.2⟩
  cases hevent : p.1.loop.event found with
  | none =>
    have hnil := piece_eq_nil_of_event hfound (by simp [hevent])
    exact hquiet hnil (HostLoop.shown_of_silent hloop hevent)
  | some e =>
    have hshown := HostLoop.shown_after hoffline.aligned hloop hevent
    cases e with
    | poll =>
      have hnil := piece_eq_nil_of_event hfound (by simp [hevent])
      exact hquiet hnil hshown
    | accepted env answer => simp [otherEvent, event_eq hfound, hevent, ofHostEvent] at he
    | disconnect connection i => simp [otherEvent, event_eq hfound, hevent, ofHostEvent] at he
    | removal => simp [otherEvent, event_eq hfound, hevent, ofHostEvent] at he
    | packet connection env read =>
      have hconnection : connection = c := by
        by_contra hne
        simp [otherEvent, event_eq hfound, hevent, ofHostEvent, hne] at he
      subst hconnection
      obtain ⟨hreads, -⟩ := HostLoop.readsFrom_of_packet hevent
      have hrecord : p.1.loop.readsOnline = false := by
        obtain ⟨i, peer, hpeer, hpc, honline⟩ := hoffline.aligned.record_of_readsFrom hreads
        rw [honline]
        exact hoffline.offline peer (List.mem_of_getElem? hpeer) hpc
      rw [hoffline.aligned.after_packet_of_offline hreads hrecord] at hshown
      by_cases hbytes : p.1.piece input' = []
      · exact hquiet hbytes hshown
      · -- from here on the variable may hold bytes of the peer
        have hmixed : q.2 = true := by rw [hnote]; simp [mixedWith, hbytes, hreads]
        exact ⟨hshown.trans h.1, fun hclean => by rw [hmixed] at hclean; cases hclean⟩

/-- Two events of the loop that are told alike are the same, or packets with the same bytes. -/
theorem ofHostEvent_inj {bytes bytes' : List UInt8} {e e' : HostEvent} {told : Event}
    (h : ofHostEvent bytes e = some told) (h' : ofHostEvent bytes' e' = some told) :
    (e = e' ∧ ∀ connection env read, e ≠ .packet connection env read) ∨
      ∃ connection env read read', e = .packet connection env read ∧
        e' = .packet connection env read' ∧ bytes = bytes' ∧ read.contents = read'.contents ∧
        told = .packet connection env bytes read.contents := by
  cases e with
  | poll => cases h
  | accepted env answer =>
    left
    cases h
    cases e' <;> simp_all [ofHostEvent]
  | disconnect connection i =>
    left
    cases h
    cases e' <;> simp_all [ofHostEvent]
  | removal =>
    left
    cases h
    cases e' <;> simp_all [ofHostEvent]
  | packet connection env read =>
    right
    cases h
    cases e' with
    | packet connection' env' read' =>
      simp only [ofHostEvent, Option.some.injEq, Event.packet.injEq] at h'
      obtain ⟨rfl, rfl, hbytes, hcontents⟩ := h'
      exact ⟨_, _, _, _, rfl, rfl, hbytes.symm, hcontents.symm, rfl⟩
    | _ => cases h'

/-- The event of another connection. -/
theorem event_of_otherEvent {input : ByteInput} {e : Event} (h : w.otherEvent c input = some e) :
    w.event input = some e ∧ ∀ env bytes contents, e ≠ .packet c env bytes contents := by
  obtain ⟨hevent, hother⟩ := Option.filter_eq_some_iff.mp h
  refine ⟨hevent, ?_⟩
  rintro env bytes contents rfl
  simp at hother

/-- The loop takes a step with an event, which is noted. -/
structure Serves (c : ℕ) (p : ByteHost × Bool) (input found : HostInput) (e : HostEvent)
    (q : ByteHost × Bool) : Prop where
  finds : p.1.found input = some found
  event : p.1.loop.event found = some e
  shown : q.1.loop.shown = p.1.loop.shown.after e
  packetDeduction : q.1.packetDeduction = p.1.left found
  note : q.2 = p.1.mixedWith c (.step input) p.2

/-- A step with an event is one of the loop. -/
theorem serves_of_event {p q : ByteHost × Bool} {input : ByteInput} {e : Event}
    (hp : Watched c p) (h : noted step (mixedWith c) p input = .ok q)
    (he : p.1.event input = some e) :
    ∃ input' found told, input = .step input' ∧ Serves c p input' found told q ∧
      ofHostEvent (p.1.piece input') told = some e := by
  obtain ⟨hstep, hnote⟩ := (noted_ok step (mixedWith c)).mp h
  rcases step_cases hstep with
    ⟨-, -, hwaits⟩ | ⟨input', found, rfl, hfound, hloop, hvariable⟩
  · rw [hwaits.event] at he
    cases he
  · rw [event_eq hfound] at he
    obtain ⟨told, htold, he⟩ := Option.bind_eq_some_iff.mp he
    have hshown := HostLoop.shown_after hp.1.aligned hloop htold
    exact ⟨input', found, told, rfl, ⟨hfound, htold, hshown, hvariable, hnote⟩, he⟩

/-- A call that serves a connection by bytes of another gets a whole header. -/
theorem ReadsOver.length {b : Bool} {input found : HostInput}
    (h : ReadsOver (w, b) (.step input)) {connection : ℕ}
    (hreads : w.loop.readsFrom = some connection) (hfound : w.found input = some found)
    (hcount : found.read.count ≠ 0) (honline : w.loop.readsOnline = true) (hb : b = true) :
    (w.piece input).length = UDTPPacketHeader.sizeOf :=
  piece_of_whole hreads hfound (h hb connection hreads hreads honline) hcount

section Determined

variable {p p' q q' : ByteHost × Bool} {input input' found found' : HostInput} {e : HostEvent}

/-- An event that is no packet changes neither the variable nor the note. -/
theorem Serves.quiet (h : Serves c p input found e q) (hp : Watched c p)
    (hnone : ∀ connection env read, e ≠ .packet connection env read) :
    q.1.packetDeduction = p.1.packetDeduction ∧ q.2 = p.2 := by
  have hnil := piece_eq_nil_of_event h.finds (by simpa [h.event] using hnone)
  obtain ⟨hleft, hsame⟩ := quiet_of_nil (c := c) h.finds hp.2 hnil
  exact ⟨h.packetDeduction.trans hleft, h.note.trans (hsame p.2)⟩

/-- The same event, if it is no packet, shows the same. -/
theorem Agree.of_event (hp : Watched c p) (hp' : Watched c p')
    (hserves : Serves c p input found e q) (hserves' : Serves c p' input' found' e q')
    (hnone : ∀ connection env read, e ≠ .packet connection env read) (h : Agree p p') :
    Agree q q' := by
  obtain ⟨hvariable, hnote⟩ := hserves.quiet hp hnone
  obtain ⟨hvariable', hnote'⟩ := hserves'.quiet hp' hnone
  refine ⟨by rw [hserves.shown, hserves'.shown, h.1], ?_⟩
  rw [hvariable, hvariable', hnote, hnote']
  exact h.2

/-- After a packet of another connection the note is as before, or a whole header was read. -/
theorem Serves.whole_or_clean {connection : ℕ} {env : Environment} {read : ReadAnswer}
    (h : Serves c p input found (.packet connection env read) q) (hne : connection ≠ c)
    (hclean : q.2 = false) :
    (p.1.piece input).length = UDTPPacketHeader.sizeOf ∨ p.2 = false := by
  obtain ⟨hreads, -⟩ := HostLoop.readsFrom_of_packet h.event
  by_cases hlength : (p.1.piece input).length = UDTPPacketHeader.sizeOf
  · exact Or.inl hlength
  · right
    rw [h.note] at hclean
    simpa only [mixedWith, hreads, Option.some.injEq, hne, if_false, hlength, ite_self] using hclean

/-- The same bytes of another connection leave the same header, if they are a whole one or the
variable held the same before. -/
theorem Agree.readOver_eq (h : Agree p p') {before before' : UDTPPacketHeader}
    (hbefore : p.1.packetDeduction = some before) (hbefore' : p'.1.packetDeduction = some before')
    {bytes : List UInt8}
    (hwhole : bytes.length = UDTPPacketHeader.sizeOf ∨ (p.2 = false ∧ p'.2 = false)) :
    UDTPPacketHeader.readOver bytes before = .readOver bytes before' := by
  rcases hwhole with hlength | ⟨hclean, hclean'⟩
  · rw [UDTPPacketHeader.readOver_of_whole hlength, UDTPPacketHeader.readOver_of_whole hlength]
  · have hagree := h.2 hclean hclean'
    rw [hbefore, hbefore'] at hagree
    rw [Option.some.inj hagree]

/-- The same packet of another connection shows the same. -/
theorem Agree.of_packet {connection : ℕ} {env : Environment} {read read' : ReadAnswer}
    (hp : Watched c p) (hp' : Watched c p') (hgood : ReadsOver p (.step input))
    (hgood' : ReadsOver p' (.step input'))
    (hserves : Serves c p input found (.packet connection env read) q)
    (hserves' : Serves c p' input' found' (.packet connection env read') q')
    (hne : connection ≠ c) (hbytes : p.1.piece input = p'.1.piece input')
    (hcontents : read.contents = read'.contents) (h : Agree p p') : Agree q q' := by
  obtain ⟨hoffline, before, hbefore⟩ := hp
  obtain ⟨hoffline', before', hbefore'⟩ := hp'
  obtain ⟨hreads, -, rfl, hcount⟩ := HostLoop.readsFrom_of_packet hserves.event
  obtain ⟨hreads', -, rfl, hcount'⟩ := HostLoop.readsFrom_of_packet hserves'.event
  obtain ⟨hleft, hheader⟩ := left_of_readsFrom hserves.finds hreads hbefore
  obtain ⟨hleft', hheader'⟩ := left_of_readsFrom hserves'.finds hreads' hbefore'
  rw [← hbytes] at hleft' hheader'
  have honline := hoffline.aligned.readsOnline_eq hoffline'.aligned h.1 hreads hreads'
  constructor
  · rw [hserves.shown, hserves'.shown, h.1]
    cases hrecord : p.1.loop.readsOnline with
    | false =>
      have hrecord' := honline.symm.trans hrecord
      rw [hoffline'.aligned.after_packet_of_offline hreads' hrecord',
        hoffline'.aligned.after_packet_of_offline hreads' hrecord']
    | true =>
      refine HostLoop.Shown.after_packet_congr _ _ ?_ hcontents
      rw [hheader, hheader']
      apply h.readOver_eq hbefore hbefore'
      cases hmixed : p.2 with
      | true => exact Or.inl (hgood.length hreads hserves.finds hcount hrecord hmixed)
      | false =>
        cases hmixed' : p'.2 with
        | true =>
          left
          rw [hbytes]
          exact hgood'.length hreads' hserves'.finds hcount' (honline ▸ hrecord) hmixed'
        | false => exact Or.inr ⟨rfl, rfl⟩
  · intro hclean hclean'
    rw [hserves.packetDeduction, hserves'.packetDeduction, hleft, hleft']
    refine congrArg some (h.readOver_eq hbefore hbefore' ?_)
    rcases hserves.whole_or_clean hne hclean with hlength | hbeforeClean
    · exact Or.inl hlength
    · rcases hserves'.whole_or_clean hne hclean' with hlength' | hbeforeClean'
      · exact Or.inl (by rw [hbytes, hlength'])
      · exact Or.inr ⟨hbeforeClean, hbeforeClean'⟩

end Determined

/-- What the others do shows the same. -/
theorem Agree.determined {p p' q q' : ByteHost × Bool} {input input' : ByteInput} {e : Event}
    (hp : Watched c p) (hp' : Watched c p') (hgood : ReadsOver p input)
    (hgood' : ReadsOver p' input') (hstep : noted step (mixedWith c) p input = .ok q)
    (hstep' : noted step (mixedWith c) p' input' = .ok q')
    (he : p.1.otherEvent c input = some e) (he' : p'.1.otherEvent c input' = some e)
    (h : Agree p p') : Agree q q' := by
  obtain ⟨he, hother⟩ := event_of_otherEvent he
  obtain ⟨he', -⟩ := event_of_otherEvent he'
  obtain ⟨input, found, told, rfl, hserves, he⟩ := serves_of_event hp hstep he
  obtain ⟨input', found', told', rfl, hserves', he'⟩ := serves_of_event hp' hstep' he'
  rcases ofHostEvent_inj he he' with
    ⟨rfl, hnone⟩ | ⟨connection, env, read, read', rfl, rfl, hbytes, hcontents, rfl⟩
  · exact h.of_event hp hp' hserves hserves' hnone
  · have hne : connection ≠ c := by
      rintro rfl
      exact hother _ _ _ rfl
    exact h.of_packet hp hp' hgood hgood' hserves hserves' hne hbytes hcontents

/-- **Unwinding.** What the HOST shows is fixed by what the others do, in runs in which nobody is
served by what the rejected peer left behind. -/
theorem unwinding (c : ℕ) :
    Unwinding (noted step (mixedWith c)) (fun p => p.1.loop.shown) (fun p => p.1.otherEvent c)
      ReadsOver (Watched c) Agree where
  preserved h hstep := h.step hstep
  core_eq h := h.1
  symm h := ⟨h.1.symm, fun hclean hclean' => (h.2 hclean' hclean).symm⟩
  silent hp _ hstep he h := h.silent hp hstep he
  determined hp hp' hgood hgood' hstep hstep' he he' h :=
    h.determined hp hp' hgood hgood' hstep hstep' he he'

/-! ## Whole runs -/

/-- After a rejection the peer is offline, and its header is in the variable. -/
theorem Rejects.watched {input : HostInput} (hreject : w.Rejects input c) (h : w.loop.Aligned)
    (hstep : w.step (.step input) = .ok t) : Watched c (t, false) := by
  obtain ⟨found, hfound, hrejection⟩ := hreject
  obtain ⟨loop, hloop, rfl⟩ := step_found hfound hstep
  have harrives := hrejection.1
  obtain ⟨hreads, -⟩ := HostLoop.readsFrom_of_packet harrives.1
  refine ⟨hrejection.offline h (harrives.connection_ne_zero h hloop) hloop, ?_⟩
  exact ⟨found.read.packetDeduction, by simp [left, hreads]⟩

/-- A packet of a connection that is offline changes nothing, and is not answered. -/
theorem step_packet_of_offline (h : w.loop.Offline c) {input : ByteInput} {env : Environment}
    {bytes : List UInt8} {contents : Contents}
    (he : w.event input = some (.packet c env bytes contents)) :
    ∃ t, w.step input = .ok t ∧ t.loop.udtp = w.loop.udtp ∧ t.loop.sent = w.loop.sent := by
  cases input with
  | arrives connection bytes => cases he
  | closes connection => cases he
  | step input =>
    obtain ⟨found, hfound, he⟩ := Option.bind_eq_some_iff.mp he
    obtain ⟨told, htold, he⟩ := Option.bind_eq_some_iff.mp he
    cases told with
    | packet connection env' read =>
      cases he
      obtain ⟨loop, hloop, hudtp, hsent⟩ := HostLoop.step_packet_of_offline h htold
      refine ⟨{ w with
        loop := loop
        packetDeduction := w.left found
        streams := w.rest input }, ?_, hudtp, hsent⟩
      simp [step, hfound, hloop, Except.map]
    | _ => cases he

/-- **What a rejected peer sends has no influence, unless another one is served by it.** After a
step that rejects the settings of a connection, in whatever run of a HOST on byte streams: every
packet of the connection is handled without a change and without a reply; and two continuations in
which the others do the same go through the same states, up to repetition, if in both every call of
`read()` that finds bytes of the rejected peer in the variable, and serves another, gets a whole
header. -/
theorem rejected_without_influence {u : UDTP} (hu : u.Started .host) {ins : List ByteInput}
    {s t : ByteHost} {input : HostInput} {c : ℕ} (hrun : run u ins = .ok s)
    (hreject : s.Rejects input c) (hstep : s.step (.step input) = .ok t) :
    WithoutInfluence c t (Unmixed c t) := by
  obtain ⟨found, hfound⟩ := run_hostLoop hrun
  have hwatched := hreject.watched (HostLoop.run_aligned hu hfound) hstep
  constructor
  · intro later m hlater next env bytes contents he
    obtain ⟨b, hnoted⟩ := run_noted step (mixedWith c) hlater false
    have hm := run_preserves (noted step (mixedWith c)) (Watched c)
      (fun _ _ _ h hnext => h.step hnext) hwatched hnoted
    exact step_packet_of_offline hm.1 he
  · intro left right m m' hleft hright hrunLeft hrunRight hsame
    obtain ⟨b, hnoted⟩ := run_noted step (mixedWith c) hrunLeft false
    obtain ⟨b', hnoted'⟩ := run_noted step (mixedWith c) hrunRight false
    have htrace := (unwinding c).same_up_to_repetition hwatched hwatched
      ⟨rfl, fun _ _ => rfl⟩ hnoted hnoted' hleft hright
      (by rw [events_noted, events_noted]; exact hsame)
    rw [trace_noted step (mixedWith c) (fun w => w.loop.shown),
      trace_noted step (mixedWith c) (fun w => w.loop.shown)] at htrace
    exact htrace

/-- Steps of a round in which one peer alone is readable. -/
def readingAt (i : ℕ) (read : ReadAnswer) : HostInput :=
  { HostInput.reading read with poll := some (· == i) }

/-- Two peers are accepted, and the first one sends a handshake.  In the step after this its
settings are read, with another version. -/
def beforeRejection : List ByteInput :=
  List.replicate 11 (.step .connecting) ++ .arrives 1 [12, 0, 0, 0, 1, 0, 0, 0] ::
    List.replicate 2 (.step (readingAt 1 (.settings 2 420)))

/-- The first peer sends eight more bytes, and the second one the header of a handshake.  The call
of `read()` for the first one gets all, that for the second one `count`. -/
def afterRejection (bytes : List UInt8) (count : ℤ) : List ByteInput :=
  .arrives 1 bytes :: .arrives 2 [12, 0, 0, 0, 1, 0, 0, 0] ::
    (List.replicate 9 (.step (readingAt 1 (.settings 1 420))) ++
      List.replicate 4 (.step (readingAt 2 { ReadAnswer.settings 1 420 with count := count })))

/-- The first peer is rejected, and the call for the second one gets a whole header. -/
theorem rejected_without_influence_wholeHeader :
    ∃ s t, run (.startedIn .host) beforeRejection = .ok s ∧
      s.Rejects (readingAt 1 (.settings 2 420)) 1 ∧
      s.step (.step (readingAt 1 (.settings 2 420))) = .ok t ∧
      Unmixed 1 t (afterRejection [12, 0, 0, 0, 1, 0, 0, 0] 8) ∧
      Unmixed 1 t (afterRejection [12, 0, 0, 0, 9, 0, 0, 0] 8) ∧
      WithoutInfluence 1 t (Unmixed 1 t) := by
  obtain ⟨s, t, hrun, hreject, hstep, hleft, hright⟩ :
      ∃ s t, run (.startedIn .host) beforeRejection = .ok s ∧
        s.Rejects (readingAt 1 (.settings 2 420)) 1 ∧
        s.step (.step (readingAt 1 (.settings 2 420))) = .ok t ∧
        Unmixed 1 t (afterRejection [12, 0, 0, 0, 1, 0, 0, 0] 8) ∧
        Unmixed 1 t (afterRejection [12, 0, 0, 0, 9, 0, 0, 0] 8) := by
    refine ⟨_, _, rfl, ⟨_, rfl, ⟨rfl, _, List.mem_cons_of_mem _ (List.mem_cons_self ..), rfl, rfl⟩,
      rfl, ?_, ?_⟩, rfl, ?_, ?_⟩
    · decide
    · decide
    · exact forall_takes_of_checks _ (by rfl)
    · exact forall_takes_of_checks _ (by rfl)
  exact ⟨s, t, hrun, hreject, hstep, hleft, hright,
    rejected_without_influence (UDTP.startedIn_started .host) hrun hreject hstep⟩

/-- **A rejected peer has an influence.** Where the call for the second peer fails, the header the
rejected one sent is taken for its own: the HOST answers it or not as that header says. -/
theorem not_withoutInfluence_failingRead :
    ∃ s t, run (.startedIn .host) beforeRejection = .ok s ∧
      s.Rejects (readingAt 1 (.settings 2 420)) 1 ∧
      s.step (.step (readingAt 1 (.settings 2 420))) = .ok t ∧
      ¬ WithoutInfluence 1 t fun _ => True := by
  obtain ⟨s, t, m, m', hrun, hreject, hstep, hleft, hright, hsame, hsent, hsent'⟩ :
      ∃ s t m m', run (.startedIn .host) beforeRejection = .ok s ∧
        s.Rejects (readingAt 1 (.settings 2 420)) 1 ∧
        s.step (.step (readingAt 1 (.settings 2 420))) = .ok t ∧
        StepMachine.run step t (afterRejection [12, 0, 0, 0, 1, 0, 0, 0] (-1)) = .ok m ∧
        StepMachine.run step t (afterRejection [12, 0, 0, 0, 9, 0, 0, 0] (-1)) = .ok m' ∧
        events step (otherEvent 1) t (afterRejection [12, 0, 0, 0, 1, 0, 0, 0] (-1)) =
          events step (otherEvent 1) t (afterRejection [12, 0, 0, 0, 9, 0, 0, 0] (-1)) ∧
        m.loop.shown.sent.length = 4 ∧ m'.loop.shown.sent.length = 3 := by
    refine ⟨_, _, _, _, rfl, ⟨_, rfl, ⟨rfl, _, List.mem_cons_of_mem _ (List.mem_cons_self ..), rfl,
      rfl⟩, rfl, ?_, ?_⟩, rfl, rfl, rfl, rfl, rfl, rfl⟩
    · decide
    · decide
  refine ⟨s, t, hrun, hreject, hstep, ?_⟩
  rintro ⟨-, hinfluence⟩
  have htraces := hinfluence _ _ m m' trivial trivial hleft hright hsame
  -- the last states differ in what was sent
  have hlast := htraces.getLast?_eq
  rw [trace_getLast? step _ hleft, trace_getLast? step _ hright, Option.some.injEq] at hlast
  rw [hlast, hsent'] at hsent
  cases hsent

end ByteHost

end Udtp
