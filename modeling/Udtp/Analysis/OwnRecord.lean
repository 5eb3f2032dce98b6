import Udtp.Analysis.RecordHistory
import Udtp.Model.PeerLoop

/-!
# The records a packet touches

A handler finds the record it is to change in three ways: through `peer()`, through
`get_peer(get_peer_id())` and through `self_peer()`.  The HOST sets the first two to the
record of the connection, so that a packet leaves the other records alone unless it is a
handshake that approves: that one is handled as if it had arrived at a PEER, and changes
the record of the HOST itself.  The PEER never sets the position the second way asks for.
-/

set_option autoImplicit false

namespace Udtp

open StepMachine

/-! ## One packet -/

/-- `get_peer(get_peer_id())` is the record of the connection a packet came from, and
handling the packet leaves every other record as it was. -/
def TouchesOwnRecord (env : Environment) (u : UDTP) (socket : Socket) (p : Packet) : Prop :=
  (∃ own, u.getPeer p.base.peerID = some own ∧ own.listenSocket = socket) ∧
  ∀ b q u', process env u p = .ok (b, q, u') →
    ∀ k, k ≠ p.base.peerID → u'.getPeer k = u.getPeer k

/-- A handshake that says, once it is unpacked, that the settings were approved. -/
def Packet.Approves (p : Packet) : Prop :=
  ∃ h, p = .handshake h ∧ h.unpack.2.responseCode = .responseApproved

instance (p : Packet) : Decidable p.Approves :=
  match p with
  | .handshake h => decidable_of_iff (h.unpack.2.responseCode = .responseApproved)
      ⟨fun hcode => ⟨h, rfl, hcode⟩, fun ⟨_, heq, hcode⟩ => by cases heq; exact hcode⟩
  | .header _ => isFalse (by rintro ⟨_, heq, -⟩; cases heq)
  | .path _ => isFalse (by rintro ⟨_, heq, -⟩; cases heq)
  | .acknowledge _ => isFalse (by rintro ⟨_, heq, -⟩; cases heq)

/-- Of a packet whose two positions agree, only an approval reaches another record. -/
theorem process_getPeer {env : Environment} {u u' : UDTP} {p q : Packet} {b : Bool}
    (h : process env u p = .ok (b, q, u')) (hsame : p.base.myPeer = p.base.peerID)
    (happroves : ¬ p.Approves) {k : ℕ} (hk : k ≠ p.base.peerID) :
    u'.getPeer k = u.getPeer k := by
  rcases process_cases h with ⟨hs, b', hs', rfl, hr⟩ | ⟨hd, b', hd', rfl, hr⟩ | ⟨pa, -, rfl⟩ |
    ⟨a, b', a', rfl, hr⟩
  · have hunpack : hs.unpack.2.peerID = hs.peerID := by
      rw [UDTPHandshake.unpack_toUDTPPacket]
      rfl
    have hne : k ≠ hs.unpack.2.peerID := by
      rw [hunpack]
      exact hk
    rcases UDTPHandshake.respond_udtp hr with ⟨-, -, rfl⟩ | ⟨-, -, rfl⟩ | ⟨hc, -⟩ | ⟨-, -, rfl⟩
    · exact UDTP.getPeer_modifyPeer_ne u _ hne
    · exact UDTP.getPeer_modifyPeer_ne u _ hne
    · exact absurd ⟨hs, rfl, hc⟩ happroves
    · rfl
  · have hne : k ≠ hd.myPeer := fun heq => hk (heq.trans hsame)
    rcases UDTPHeader.respond_udtp hr with ⟨v, f, ⟨count, rfl⟩, -, rfl⟩ | ⟨-, count, rfl⟩
    · exact UDTP.getPeer_modifyPeer_ne _ _ hne
    · rfl
  · rfl
  · have hne : k ≠ a.myPeer := fun heq => hk (heq.trans hsame)
    obtain ⟨rfl | ⟨r, r', -, -, rfl⟩, -⟩ := UDTPAcknowledge.respond_spec hr
    · rfl
    · exact UDTP.getPeer_modifyPeer_ne u _ hne

/-- An approval is handled wherever there is a record at position 0, and recorded there. -/
theorem process_approves {u : UDTP} {p : Packet} (happroves : p.Approves) {self : UDTPPeer}
    (hself : u.getPeer 0 = some self) (env : Environment) :
    ∃ b q u', process env u p = .ok (b, q, u') ∧
      u'.getPeer 0 = some (self.setInitProcessComplete .handshake) := by
  obtain ⟨h, rfl, hcode⟩ := happroves
  obtain ⟨rest, hrest⟩ : ∃ rest, u.listPeers = self :: rest := by
    cases hlist : u.listPeers with
    | nil => simp [UDTP.getPeer, hlist] at hself
    | cons p rest =>
      simp only [UDTP.getPeer, hlist, List.getElem?_cons_zero, Option.some.injEq] at hself
      exact ⟨rest, by rw [hself]⟩
  have hrespond : h.unpack.2.respond env u =
      .ok (false, h.unpack.2, u.modifyPeer 0 (UDTPPeer.setInitProcessComplete .handshake)) := by
    unfold UDTPHandshake.respond
    rw [hcode, hrest]
  have hrecorded : (u.modifyPeer 0 (UDTPPeer.setInitProcessComplete .handshake)).getPeer 0 =
      some (self.setInitProcessComplete .handshake) := by
    rw [UDTP.getPeer_modifyPeer_self, hself]
    rfl
  simp only [process, Packet.unpack, Packet.respond, hrespond, Except.map]
  exact ⟨_, _, _, rfl, hrecorded⟩

/-! ## The HOST -/

namespace HostLoop

/-- The packet object whose methods the next step calls, and the socket its bytes came from. -/
def handled (s : HostLoop) (input : HostInput) : Option (Socket × Packet) :=
  match s.phase with
  | .scan i =>
    match s.activeListenSockets[i]?, s.udtp.getPeer i,
        construct input.read.contents input.read.packetDeduction with
    | some entry, some peer, some p =>
      if entry.pollin ∧ input.read.count ≠ 0 ∧ peer.isOnline ∧
          p.rawReadable input.read.contents then
        some (entry.fd, setHostFields entry.fd i peer.uniqueID p)
      else none
    | _, _, _ => none
  | _ => none

/-- Every handshake, header or acknowledge that a run handles touches the record of its own
connection alone. -/
def OwnRecords (u : UDTP) (ins : List HostInput) : Prop :=
  ∀ s input socket p, Takes step (new u) ins s input → s.handled input = some (socket, p) →
    (∀ pa, p ≠ .path pa) → TouchesOwnRecord input.environment s.udtp socket p

/-- No packet that a run handles is a handshake that approves. -/
def NoApprovals (u : UDTP) (ins : List HostInput) : Prop :=
  ∀ s input socket p, Takes step (new u) ins s input → s.handled input = some (socket, p) →
    ¬ p.Approves

variable {s t : HostLoop} {input : HostInput}

/-- A packet the HOST handles was read at a position of the scan, from an online record. -/
theorem handled_eq_some {socket : Socket} {p : Packet} (h : s.handled input = some (socket, p)) :
    ∃ i entry peer q, s.phase = .scan i ∧ s.activeListenSockets[i]? = some entry ∧
      s.udtp.getPeer i = some peer ∧
      construct input.read.contents input.read.packetDeduction = some q ∧
      entry.pollin = true ∧ input.read.count ≠ 0 ∧ peer.isOnline = true ∧
      q.rawReadable input.read.contents = true ∧ socket = entry.fd ∧
      p = setHostFields entry.fd i peer.uniqueID q := by
  unfold handled at h
  split at h
  · rename_i i hphase
    split at h
    · rename_i entry peer q hentry hpeer hq
      split at h
      · rename_i hready
        cases h
        obtain ⟨hpollin, hcount, honline, hraw⟩ := hready
        exact ⟨i, entry, peer, q, hphase, hentry, hpeer, hq, hpollin, hcount, honline, hraw,
          rfl, rfl⟩
      · cases h
    · cases h
  · cases h

/-- The HOST stamps a packet with the position it came from as its peer ID. -/
@[simp]
theorem setHostFields_peerID (socket : Socket) (i : ℕ) (uniqueID : UInt32) (p : Packet) :
    (setHostFields socket i uniqueID p).base.peerID = i := by
  cases p <;> rfl

/-- The HOST hands a packet the record at the position it came from. -/
@[simp]
theorem setHostFields_myPeer (socket : Socket) (i : ℕ) (uniqueID : UInt32) (p : Packet) :
    (setHostFields socket i uniqueID p).base.myPeer = i := by
  cases p <;> rfl

/-- The scan is at a position from 1 on, so what is handled is not for the record of the HOST
itself. -/
theorem handled_peerID (h : s.Aligned) {socket : Socket} {p : Packet}
    (hhandled : s.handled input = some (socket, p)) : p.base.peerID ≠ 0 := by
  obtain ⟨i, entry, peer, q, hphase, -, -, -, -, -, -, -, -, rfl⟩ := handled_eq_some hhandled
  have hscanned := h.scanned
  rw [hphase] at hscanned
  have hi : 1 ≤ i := hscanned.1
  rw [setHostFields_peerID]
  omega

/-- A step keeps the record of the HOST itself, or handles a packet. -/
theorem step_getPeer_zero (h : s.Aligned) (hstep : s.step input = .ok t) :
    t.udtp.getPeer 0 = s.udtp.getPeer 0 ∨
    ∃ socket p b q, s.handled input = some (socket, p) ∧
      process input.environment s.udtp p = .ok (b, q, t.udtp) := by
  have hstepped := step_stepped hstep
  have hscanned := h.scanned
  generalize he : s.event input = e at hstepped
  cases hstepped with
  | polled hphase =>
    obtain ⟨sockets, hpolled⟩ := s.setRevents_eq input.poll
    rw [hpolled]
    exact Or.inl rfl
  | accepted hphase =>
    left
    have hself := h.self
    simp only [UDTP.connections, List.getElem?_map] at hself
    obtain ⟨self, hget, -⟩ := Option.map_eq_some_iff.mp hself
    have hpos : 0 < s.udtp.listPeers.length := (List.getElem?_eq_some_iff.mp hget).1
    exact List.getElem?_append_left hpos
  | received i entry peer sent u hphase hentry hpeer honline hreceive =>
    simp only [event, hphase, hentry] at he
    split at he
    · rename_i hpollin
      split at he
      · rename_i hcount
        rcases receiveHost_cases hreceive with ⟨-, -, rfl⟩ |
          ⟨p, peer', b, q, hp, hpeer', hprocess, -⟩
        · exact Or.inl rfl
        · obtain rfl : peer = peer' := Option.some.inj (hpeer.symm.trans hpeer')
          refine Or.inr ⟨entry.fd, _, b, q, ?_, hprocess⟩
          simp [handled, hphase, hentry, hpeer, hp, hpollin, hcount, honline,
            rawReadable_of_receiveHost hp hreceive]
      · cases he
    · cases he
  | disconnected i entry peer hphase hentry hpeer =>
    left
    rw [hphase] at hscanned
    have hi : 1 ≤ i := hscanned.1
    exact UDTP.getPeer_modifyPeer_ne s.udtp _ (by omega)
  | removed e sockets u hphase hremove hevent =>
    left
    obtain ⟨-, herase, -⟩ := removeQueued_ok h.length_eq hremove
    exact QueuedErase.head_of_eraseEach herase h.remote
  | _ => exact Or.inl rfl

/-- Where every packet so far touched its own record alone, the record of the HOST itself has
no handshake recorded. -/
theorem self_handshake {u : UDTP} (hu : u.Started .host) (ins : List HostInput) (s : HostLoop)
    (hrun : run u ins = .ok s) (hown : OwnRecords u ins) :
    ∃ self, s.udtp.getPeer 0 = some self ∧ self.checkInitProcess .handshake = false := by
  -- induction on the last input; a packet that changed the record would have touched another
  revert hown
  refine run_induction HostLoop.step (new u) (P := fun ins s => OwnRecords u ins →
    ∃ self, s.udtp.getPeer 0 = some self ∧ self.checkInitProcess .handshake = false)
    ?_ ?_ ins s hrun
  · intro _
    obtain ⟨selfPeer, hfresh⟩ := hu.fresh
    exact ⟨selfPeer, by simp [new, UDTP.getPeer, hfresh.listPeers], hfresh.handshake⟩
  intro ins s input t hrun ih hstep hown
  have haligned := run_aligned hu hrun
  have hsnoc := takes_snoc HostLoop.step (new u) s ins input hrun
  obtain ⟨self, hself, hbit⟩ := ih (by
    intro s' input' socket p htakes
    exact hown s' input' socket p ((hsnoc s' input').mpr (Or.inl htakes)))
  refine ⟨self, ?_, hbit⟩
  rw [← hself]
  rcases step_getPeer_zero haligned hstep with hsame | ⟨socket, p, b, q, hhandled, hprocess⟩
  · exact hsame
  by_cases hpath : ∃ pa, p = .path pa
  · obtain ⟨pa, rfl⟩ := hpath
    generalize t.udtp = v at hprocess ⊢
    cases hprocess
    rfl
  · have htakes := (hsnoc s input).mpr (Or.inr ⟨rfl, rfl⟩)
    have htouches := hown s input socket p htakes hhandled (by
      intro pa heq
      exact hpath ⟨pa, heq⟩)
    exact htouches.2 b q t.udtp hprocess 0 (handled_peerID haligned hhandled).symm

/-- **On the HOST, packets touch their own records alone iff none of them approves.** -/
theorem ownRecords_iff_noApprovals {u : UDTP} (hu : u.Started .host) (ins : List HostInput) :
    OwnRecords u ins ↔ NoApprovals u ins := by
  constructor
  · rintro hown s input socket p ⟨as, bs, rfl, hrun⟩ hhandled happroves
    obtain ⟨self, hself, hbit⟩ := self_handshake hu as s hrun (by
      rintro s' input' socket' p' ⟨cs, ds, rfl, hrun'⟩
      exact hown s' input' socket' p' ⟨cs, ds ++ input :: bs, by simp, hrun'⟩)
    obtain ⟨b, q, u', hprocess, hrecorded⟩ := process_approves happroves hself input.environment
    have htouches := hown s input socket p ⟨as, bs, rfl, hrun⟩ hhandled (by
      rintro pa rfl
      obtain ⟨h, hp, -⟩ := happroves
      cases hp)
    have hsame := htouches.2 b q u' hprocess 0
      (handled_peerID (run_aligned hu hrun) hhandled).symm
    rw [hrecorded, hself, Option.some.injEq] at hsame
    rw [← hsame] at hbit
    simp at hbit
  · rintro hnone s input socket p ⟨as, bs, rfl, hrun⟩ hhandled -
    have happroves := hnone s input socket p ⟨as, bs, rfl, hrun⟩ hhandled
    obtain ⟨i, entry, peer, q, -, hentry, hpeer, -, -, -, -, -, rfl, rfl⟩ :=
      handled_eq_some hhandled
    refine ⟨⟨peer, by simpa using hpeer, ?_⟩, ?_⟩
    · exact ((run_aligned hu hrun).socket_eq hentry hpeer).symm
    · intro b r u' hprocess k hk
      exact process_getPeer hprocess (by simp) happroves hk

end HostLoop

/-! ## The PEER -/

namespace PeerLoop

/-- The packet object whose methods the next round calls, and the socket its bytes came from. -/
def handled (s : PeerLoop) (input : PeerInput) : Option (Socket × Packet) :=
  match construct input.read.contents input.read.packetDeduction with
  | none => none
  | some p =>
    if s.udtp.isAlive ∧ input.pollin ∧ input.read.count ≠ 0 ∧
        p.rawReadable input.read.contents then
      some (s.udtp.listenSocket, setPeerFields s.masterPollFd p)
    else none

/-- Every handshake, header or acknowledge that a run handles touches the record of its own
connection alone. -/
def OwnRecords (u : UDTP) (ins : List PeerInput) : Prop :=
  ∀ s input socket p, Takes step (new u) ins s input → s.handled input = some (socket, p) →
    (∀ pa, p ≠ .path pa) → TouchesOwnRecord input.environment s.udtp socket p

/-- Every handshake, header or acknowledge that a run handles was made in memory that holds
zero for the position nobody sets. -/
def ZeroPeerIDs (u : UDTP) (ins : List PeerInput) : Prop :=
  ∀ s input socket p, Takes step (new u) ins s input → s.handled input = some (socket, p) →
    (∀ pa, p ≠ .path pa) → p.base.peerID = 0

variable {s t : PeerLoop} {input : PeerInput}

/-- A packet the PEER handles came from its one socket. -/
theorem handled_eq_some {socket : Socket} {p : Packet} (h : s.handled input = some (socket, p)) :
    socket = s.udtp.listenSocket := by
  unfold handled at h
  split at h
  · cases h
  split at h
  · cases h
    rfl
  · cases h

/-- There is one record, of the socket that was connected. -/
def Single (u : UDTP) : Prop :=
  u.listPeers.map UDTPPeer.listenSocket = [u.listenSocket]

/-- The only record of an endpoint is that of its listen socket. -/
theorem Single.getPeer {u : UDTP} (h : Single u) {posID : ℕ} {p : UDTPPeer} :
    u.getPeer posID = some p → posID = 0 ∧ p.listenSocket = u.listenSocket := by
  intro hp
  have hget := congrArg (·[posID]?) h
  simp only [List.getElem?_map, show u.listPeers[posID]? = some p from hp, Option.map_some] at hget
  cases posID with
  | zero => exact ⟨rfl, Option.some.inj hget⟩
  | succ n => simp at hget

/-- A step of a PEER makes no record. -/
theorem Single.step (h : Single s.udtp) (hstep : s.step input = .ok t) : Single t.udtp := by
  obtain ⟨-, hsame | hstop | ⟨-, -, -, sent, hreceive⟩⟩ := step_cases hstep
  · rw [hsame]
    exact h
  · rw [hstop]
    exact h
  · rcases receivePeer_cases hreceive with ⟨-, hsame⟩ | ⟨p, b, q, -, hprocess, -⟩
    · rw [hsame]
      exact h
    · have hsockets := congrArg (List.map Prod.fst) (process_identity hprocess)
      simp only [List.map_map, Function.comp_def, UDTPPeer.identity] at hsockets
      have hframe := congrArg UDTP.listenSocket (process_frame hprocess)
      unfold Single
      rw [hsockets, h, hframe]

/-- In every run a PEER has one record. -/
theorem run_single {u : UDTP} (hu : u.Started .peer) {ins : List PeerInput}
    (hrun : run u ins = .ok s) : Single s.udtp := by
  refine run_preserves PeerLoop.step (fun s => Single s.udtp)
    (fun _ _ _ hs hstep => hs.step hstep) ?_ hrun
  obtain ⟨selfPeer, hfresh⟩ := hu.fresh
  simp [Single, new, hfresh.listPeers, hfresh.listenSocket]

/-- **On the PEER, packets touch the only record there is iff each was made in memory that
holds its position.** -/
theorem ownRecords_iff_zeroPeerIDs {u : UDTP} (hu : u.Started .peer) (ins : List PeerInput) :
    OwnRecords u ins ↔ ZeroPeerIDs u ins := by
  constructor
  · rintro hown s input socket p ⟨as, bs, rfl, hrun⟩ hhandled hpath
    obtain ⟨⟨own, hget, -⟩, -⟩ := hown s input socket p ⟨as, bs, rfl, hrun⟩ hhandled hpath
    exact ((run_single hu hrun).getPeer hget).1
  · rintro hzero s input socket p ⟨as, bs, rfl, hrun⟩ hhandled hpath
    have hsingle := run_single hu hrun
    have hp := hzero s input socket p ⟨as, bs, rfl, hrun⟩ hhandled hpath
    obtain rfl := handled_eq_some hhandled
    have hlength : s.udtp.listPeers.length = 1 := by
      simpa using congrArg List.length hsingle
    refine ⟨?_, ?_⟩
    · obtain ⟨self, hself⟩ : ∃ self, s.udtp.getPeer 0 = some self :=
        ⟨_, List.getElem?_eq_getElem (by omega)⟩
      exact ⟨self, by rw [hp, hself], (hsingle.getPeer hself).2⟩
    · intro b q u' hprocess k hk
      have hlength' : u'.listPeers.length = 1 := by
        have := congrArg List.length (process_identity hprocess)
        simpa [hlength] using this
      have hnone : ∀ v : UDTP, v.listPeers.length = 1 → v.getPeer k = none := by
        intro v hv
        exact List.getElem?_eq_none (by omega)
      rw [hnone _ hlength, hnone _ hlength']

end PeerLoop

/-! ## Both roles -/

/-- **When packets touch their own records alone.** On the HOST, iff no packet is a handshake
that approves; on the PEER, iff every packet object was made in memory that holds zero for the
position of its record. -/
theorem ownRecords_iff {host peer : UDTP} (hhost : host.Started .host)
    (hpeer : peer.Started .peer) (hostIns : List HostInput) (peerIns : List PeerInput) :
    (HostLoop.OwnRecords host hostIns ↔ HostLoop.NoApprovals host hostIns) ∧
    (PeerLoop.OwnRecords peer peerIns ↔ PeerLoop.ZeroPeerIDs peer peerIns) :=
  ⟨HostLoop.ownRecords_iff_noApprovals hhost hostIns,
    PeerLoop.ownRecords_iff_zeroPeerIDs hpeer peerIns⟩

/-- A handshake that approves. -/
def ReadAnswer.approval : ReadAnswer :=
  { (default : ReadAnswer) with
    count := 8
    packetDeduction := ⟨12, 0, .handshake⟩
    contents := { (default : Contents) with
      handshake := { (default : UDTPHandshake) with
        raw := LittleEndian.store default 0 (UDTPHandShakeData.toBytes ⟨0xF1, 0, 0, 0, 0⟩) } } }

/-- A handshake with the default settings, made in memory that holds 1 for the position. -/
def ReadAnswer.settingsAtOne : ReadAnswer :=
  { ReadAnswer.settings 1 420 with
    contents := { (ReadAnswer.settings 1 420).contents with
      handshake := { (ReadAnswer.settings 1 420).contents.handshake with peerID := 1 } } }

/-- Settings that arrive, made in memory that holds 0 for the position, change the record they came
for. -/
theorem ownRecords_iff_settings :
    HostLoop.OwnRecords (UDTP.startedIn .host)
        (List.replicate 5 .connecting ++ List.replicate 3 (.reading (.settings 1 420))) ∧
    PeerLoop.OwnRecords (UDTP.startedIn .peer) [.reading (.settings 1 420)] := by
  have hhost : ∀ s input, Takes HostLoop.step (HostLoop.new (UDTP.startedIn .host))
      (List.replicate 5 .connecting ++ List.replicate 3 (.reading (.settings 1 420))) s input →
      ∀ e ∈ s.handled input, ¬ e.2.Approves :=
    forall_takes_of_checks HostLoop.step (by decide)
  have hpeer : ∀ s input, Takes PeerLoop.step (PeerLoop.new (UDTP.startedIn .peer))
      [.reading (.settings 1 420)] s input → ∀ e ∈ s.handled input, e.2.base.peerID = 0 :=
    forall_takes_of_checks PeerLoop.step (by decide)
  have hboth := ownRecords_iff (UDTP.startedIn_started .host) (UDTP.startedIn_started .peer)
    (List.replicate 5 .connecting ++ List.replicate 3 (.reading (.settings 1 420)))
    [.reading (.settings 1 420)]
  refine ⟨hboth.1.mpr ?_, hboth.2.mpr ?_⟩
  · intro s input socket p ht hhandled
    exact hhost s input ht _ hhandled
  · intro s input socket p ht hhandled hpath
    exact hpeer s input ht _ hhandled

/-- A peer that connected to the HOST sends an approval, which the HOST records for itself; a
PEER that is sent settings looks for a record at position 1. -/
theorem not_ownRecords_approval :
    ¬ HostLoop.OwnRecords (UDTP.startedIn .host)
      (List.replicate 5 .connecting ++ List.replicate 3 (.reading .approval)) ∧
    ¬ PeerLoop.OwnRecords (UDTP.startedIn .peer) [.reading .settingsAtOne] := by
  constructor
  · rw [HostLoop.ownRecords_iff_noApprovals (UDTP.startedIn_started .host)]
    intro h
    obtain ⟨s, p, hrun, hhandled, happroves⟩ : ∃ s p, HostLoop.run (UDTP.startedIn .host)
        (List.replicate 5 .connecting ++ List.replicate 2 (.reading .approval)) = .ok s ∧
        s.handled (.reading .approval) = some (⟨0, 1⟩, p) ∧ p.Approves :=
      ⟨_, _, rfl, rfl, _, rfl, rfl⟩
    exact h s _ _ p ⟨_, [], rfl, hrun⟩ hhandled happroves
  · rw [PeerLoop.ownRecords_iff_zeroPeerIDs (UDTP.startedIn_started .peer)]
    intro h
    have hzero := h (PeerLoop.new (UDTP.startedIn .peer)) (.reading .settingsAtOne) _ _
      ⟨[], [], rfl, rfl⟩ rfl (by intro pa heq; cases heq)
    cases hzero

end Udtp
