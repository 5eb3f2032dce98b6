import Udtp.Analysis.ExchangeSteps
import Udtp.Analysis.OwnRecord
import Udtp.Analysis.PacketFaults

/-!
# Which packets are answered

`listenThread` sends a packet back as soon as one of its three methods returned `true`, although
only `respond()` knows whether there is anything to answer and only `pack()` whether there is an
answer to send.  An acknowledge packs and unpacks always, a header never, and a handshake packs
the two codes it ends with.  So a reply is sent exactly when it is asked for iff the packet is
none of those its class treats differently (`repliesAsAsked_iff`).
-/

set_option autoImplicit false

namespace Udtp

open StepMachine

/-! ## One packet -/

namespace Packet

/-- `respond()` returned `true`, and `pack()` then built the reply. -/
def AsksForReply (env : Environment) (u : UDTP) (p : Packet) : Prop :=
  ∃ q u', (p.unpack env).2.respond env u = .ok (true, q, u') ∧ (q.pack env).1 = true

/-- The resend test lets the packet be sent back. -/
def IsResent (env : Environment) (u : UDTP) (p : Packet) : Prop :=
  ∃ q u', process env u p = .ok (true, q, u')

variable {env : Environment} {u u' : UDTP} {p q : Packet} {b : Bool}

/-- Once `respond()` returned, both sides are decided by the results of the three methods. -/
theorem resent_iff_asks_of_ok (hr : (p.unpack env).2.respond env u = .ok (b, q, u')) :
    (p.IsResent env u ↔ p.AsksForReply env u) ↔
      ((p.unpack env).1 || b || (q.pack env).1) = (b && (q.pack env).1) := by
  have hresent : p.IsResent env u ↔ ((p.unpack env).1 || b || (q.pack env).1) = true := by
    simp only [IsResent, process, hr, resends_resendCheck, Except.ok.injEq, Prod.mk.injEq]
    constructor
    · rintro ⟨q', v, hcheck, -, -⟩
      exact hcheck
    · intro hcheck
      exact ⟨_, _, hcheck, rfl, rfl⟩
  have hasks : p.AsksForReply env u ↔ (b && (q.pack env).1) = true := by
    simp only [AsksForReply, hr, Except.ok.injEq, Prod.mk.injEq, Bool.and_eq_true]
    constructor
    · rintro ⟨q', v, ⟨hb, rfl, rfl⟩, hpack⟩
      exact ⟨hb, hpack⟩
    · rintro ⟨hb, hpack⟩
      exact ⟨q, u', ⟨hb, rfl, rfl⟩, hpack⟩
  rw [hresent, hasks]
  exact Bool.eq_iff_iff.symm

/-- Where `respond()` does not return, nothing is sent and nothing was asked for. -/
theorem resent_iff_asks_of_error {fault : Fault}
    (hr : (p.unpack env).2.respond env u = .error fault) :
    p.IsResent env u ↔ p.AsksForReply env u := by
  simp [IsResent, process, AsksForReply, hr]

end Packet

namespace UDTPHandshake

variable {env : Environment} {u : UDTP} {h : UDTPHandshake}

/-- `pack()` returns `true` for the codes that end an exchange. -/
theorem pack_of_ending (hcode : h.responseCode = .responseApproved ∨
    h.responseCode = .responseCriticalError) : (h.pack env).1 = true := by
  unfold pack
  rcases hcode with hc | hc
  · rw [hc]
  · rw [hc]

/-- Settings that are received are answered whether or not they are accepted. -/
theorem respond_settings {r : Bool × UDTPHandshake × UDTP}
    (hcode : h.responseCode = .responseNone) (hr : h.respond env u = .ok r) :
    r.1 = true ∧ (r.2.1.responseCode = .responseApproved ∨
      r.2.1.responseCode = .responseCriticalError) := by
  unfold respond at hr
  rw [hcode] at hr
  dsimp only at hr
  split at hr
  · cases hr
  split at hr
  · cases hr
    exact ⟨rfl, Or.inr rfl⟩
  · cases hr
    exact ⟨rfl, Or.inl rfl⟩

/-- A handshake is sent back as asked iff `respond()` and `pack()` both returned `true`, or no
method did. -/
theorem resent_iff_asks_of_ok {b : Bool} {h' : UDTPHandshake} {u' : UDTP}
    (hr : h.unpack.2.respond env u = .ok (b, h', u')) :
    ((Packet.handshake h).IsResent env u ↔ (Packet.handshake h).AsksForReply env u) ↔
      (h.unpack.1 || b || (h'.pack env).1) = (b && (h'.pack env).1) := by
  have hpacket : ((Packet.handshake h).unpack env).2.respond env u =
      .ok (b, .handshake h', u') := by
    simp only [Packet.unpack, Packet.respond, hr, Except.map]
  exact Packet.resent_iff_asks_of_ok hpacket

/-- A handshake is answered as asked unless it arrives with a code that ends the handshake. -/
theorem resent_iff_asks (hu : u.listPeers ≠ []) :
    ((Packet.handshake h).IsResent env u ↔ (Packet.handshake h).AsksForReply env u) ↔
      h.decode.responseCode ≠ .responseApproved ∧
        h.decode.responseCode ≠ .responseCriticalError := by
  have hunpacked : h.unpack.2.responseCode = h.decode.responseCode :=
    congrArg UDTPPacket.responseCode h.unpack_toUDTPPacket
  rw [← hunpacked]
  cases hcode : h.unpack.2.responseCode with
  | responseStart =>
    have hr : h.unpack.2.respond env u =
        .ok (true, h.unpack.2.setResponseCode .responseNone, u) := by
      unfold respond
      rw [hcode]
    have hpack : ((h.unpack.2.setResponseCode .responseNone).pack env).1 = true := rfl
    simp [resent_iff_asks_of_ok hr, hpack]
  | responseNone =>
    cases hr : h.unpack.2.respond env u with
    | error fault =>
      have hpacket : ((Packet.handshake h).unpack env).2.respond env u = .error fault := by
        simp only [Packet.unpack, Packet.respond, hr, Except.map]
      simp [Packet.resent_iff_asks_of_error hpacket]
    | ok r =>
      obtain ⟨b, h', u'⟩ := r
      obtain ⟨rfl, hend⟩ := respond_settings hcode hr
      simp [resent_iff_asks_of_ok hr, pack_of_ending hend]
  | responseApproved =>
    obtain ⟨self, rest, hlist⟩ := List.exists_cons_of_ne_nil hu
    have hr : h.unpack.2.respond env u =
        .ok (false, h.unpack.2, u.modifyPeer 0 (UDTPPeer.setInitProcessComplete .handshake)) := by
      unfold respond
      rw [hcode, hlist]
    simp [resent_iff_asks_of_ok hr, pack_of_ending (Or.inl hcode)]
  | responseCriticalError =>
    have hr : h.unpack.2.respond env u = .ok (false, h.unpack.2, u) := by
      unfold respond
      rw [hcode]
    simp [resent_iff_asks_of_ok hr, pack_of_ending (Or.inr hcode)]
  | _ =>
    have hr : h.unpack.2.respond env u = .ok (false, h.unpack.2, u) := by
      unfold respond
      rw [hcode]
    have hpack : (h.unpack.2.pack env).1 = false := by
      unfold pack
      rw [hcode]
    have hunpack : h.unpack.1 = false := by
      unfold unpack
      rw [← hunpacked, hcode]
    simp [resent_iff_asks_of_ok hr, hpack, hunpack]

end UDTPHandshake

namespace UDTPHeader

/-- No answer to this message is asked for: its type and code end a transfer, `respond()` traps
on a pointer nobody assigned or on a file it cannot divide into chunks, or it runs off its end
without a `true`. -/
def IsUnanswered (env : Environment) (h : UDTPHeader) : Prop :=
  match h.transferType, h.responseCode with
  | .pull, .responseNone =>
    h.pathUnmapped = true ∨
      ((h.newFile env).checkFileExist env.fileSystem = true ∧ env.fileMemory.chunkSize = 0)
  | .pull, .responseFileNotFound => True
  | .pull, .responseApproved =>
    h.pathUnmapped = true ∨ env.fileMemory.myUDTPUnmapped = true
  | .pull, .responseConfirm => True
  | .push, .responseNone =>
    h.pathUnmapped = true ∨
      ((h.newFile env).checkFileExist env.fileSystem = false ∧
        env.fileMemory.myUDTPUnmapped = true)
  | .push, .responseFileExistsAlready => True
  | .push, .responseApproved => True
  | _, _ => env.fellOffRespond = false

variable {env : Environment} {u : UDTP} {h : UDTPHeader}

/-- `respond()` returns what its branch does, where the file of the branch can be started. -/
theorem respond_true_iff :
    (∃ h' u', h.respond env u = .ok (true, h', u')) ↔
      ¬ (h.StartsFile env ∧ env.fileMemory.myUDTPUnmapped = true) ∧
        ∃ h' u', h.negotiate env u = .ok (true, h', u') := by
  rw [← takenFile_beginTraps]
  cases htraps : (h.takenFile env).any (UDTPFile.beginTraps env) with
  | true => simp [respond, htraps]
  | false => simp [respond, htraps]

/-- The messages that are sent back are those whose branch returns `true`, and nothing else. -/
theorem answered_iff :
    (h.followsPath && h.pathUnmapped) = false ∧
        (∃ h' u', h.respond env u = .ok (true, h', u')) ↔ ¬ h.IsUnanswered env := by
  have hchunk : (h.newFile env).chunkSize = env.fileMemory.chunkSize := rfl
  rw [respond_true_iff]
  unfold negotiate
  split
  case h_1 ht hc => -- a pull request
    simp only [IsUnanswered, followsPath, StartsFile, ht, hc]
    cases hex : (h.newFile env).checkFileExist env.fileSystem with
    | false => simp
    | true =>
      by_cases hzero : env.fileMemory.chunkSize = 0
      · simp [UDTPFile.retrieveInfoFromLocalFile, hchunk, hzero]
      · simp [UDTPFile.retrieveInfoFromLocalFile, hchunk, hzero]
  case h_2 ht hc => simp [IsUnanswered, ht, hc] -- the file to pull was not found
  case h_3 ht hc => simp [IsUnanswered, followsPath, StartsFile, ht, hc] -- a pull was approved
  case h_4 ht hc => -- a pull was confirmed
    simp only [IsUnanswered, ht, hc]
    cases h.confirmedPullFile env with
    | error fault => simp
    | ok f => simp
  case h_5 ht hc => -- a push request
    simp only [IsUnanswered, followsPath, StartsFile, ht, hc]
    cases (h.newFile env).checkFileExist env.fileSystem with
    | true => simp
    | false => simp
  case h_6 ht hc => simp [IsUnanswered, ht, hc] -- the file to push exists already
  case h_7 ht hc => simp [IsUnanswered, ht, hc] -- a push was approved
  case h_8 => -- any other message
    have hother : h.IsUnanswered env ↔ env.fellOffRespond = false := by
      unfold IsUnanswered
      split
      all_goals simp_all
    have hstays : h.followsPath = false ∧ ¬ h.StartsFile env := by
      unfold followsPath StartsFile
      split
      all_goals simp_all
    simp [hother, hstays.1, hstays.2]

/-- No header message is ever packed, so one is answered as asked iff it is not answered. -/
theorem resent_iff_asks :
    ((Packet.header h).IsResent env u ↔ (Packet.header h).AsksForReply env u) ↔
      h.IsUnanswered env := by
  have hasks : ¬ (Packet.header h).AsksForReply env u := by
    rintro ⟨q, u', hr, hpack⟩
    obtain ⟨b, h', v, -, -, hq⟩ := Packet.respond_header_ok hr
    cases hq
    cases hpack
  have hresent : (Packet.header h).IsResent env u ↔
      (h.followsPath && h.pathUnmapped) = false ∧
        ∃ h' u', h.respond env u = .ok (true, h', u') := by
    simp only [Packet.IsResent, process_header]
    constructor
    · rintro ⟨q, u', hpath, h', hr, -⟩
      exact ⟨hpath, h', u', hr⟩
    · rintro ⟨hpath, h', u', hr⟩
      exact ⟨_, u', hpath, h', hr, rfl⟩
  rw [iff_false_right hasks, hresent, answered_iff, not_not]

end UDTPHeader

namespace UDTPAcknowledge

variable {env : Environment} {u : UDTP} {a : UDTPAcknowledge}

/-- An acknowledge is always sent back, unless `respond()` does not return. -/
theorem resent_iff_asks :
    ((Packet.acknowledge a).IsResent env u ↔ (Packet.acknowledge a).AsksForReply env u) ↔
      ¬ (a.acknowledgeType = .packetCount ∧ a.acknowledgeResponseCode = .responseConfirm) := by
  cases hr : a.respond env u with
  | error fault =>
    have hpacket : ((Packet.acknowledge a).unpack env).2.respond env u = .error fault := by
      simp only [Packet.unpack, Packet.respond, unpack, hr, Except.map]
    have hconfirm : ¬ (a.acknowledgeType = .packetCount ∧
        a.acknowledgeResponseCode = .responseConfirm) := by
      rintro ⟨ht, hc⟩
      simp only [respond, ht, hc] at hr
      cases hr
    simp [Packet.resent_iff_asks_of_error hpacket, hconfirm]
  | ok r =>
    obtain ⟨b, a', u'⟩ := r
    have hpacket : ((Packet.acknowledge a).unpack env).2.respond env u =
        .ok (b, .acknowledge a', u') := by
      simp only [Packet.unpack, Packet.respond, unpack, hr, Except.map]
    rw [Packet.resent_iff_asks_of_ok hpacket, ← respond_fst hr]
    simp [Packet.unpack, unpack, Packet.pack, pack]

end UDTPAcknowledge

/-- The packets on which the resend test does what `respond()` and `pack()` say.
`UDTPPath` is not among the classes this is about. -/
def Packet.IsRepliedRightly (env : Environment) : Packet → Prop
  | handshake h => h.decode.responseCode ≠ .responseApproved ∧
      h.decode.responseCode ≠ .responseCriticalError
  | header h => h.IsUnanswered env
  | path _ => True
  | acknowledge a =>
    ¬ (a.acknowledgeType = .packetCount ∧ a.acknowledgeResponseCode = .responseConfirm)

/-- A packet that can be handled is sent back as asked iff the condition on it holds. -/
theorem Packet.resent_iff_asks {env : Environment} {u : UDTP} {p : Packet}
    (hu : u.listPeers ≠ []) (hpath : ∀ pa, p ≠ .path pa) :
    (p.IsResent env u ↔ p.AsksForReply env u) ↔ p.IsRepliedRightly env := by
  cases p with
  | handshake h => exact UDTPHandshake.resent_iff_asks hu
  | header h => exact UDTPHeader.resent_iff_asks
  | path pa => exact absurd rfl (hpath pa)
  | acknowledge a => exact UDTPAcknowledge.resent_iff_asks

/-! ## Both loops -/

namespace HostLoop

/-- The step transmits something. -/
def Transmits (s : HostLoop) (input : HostInput) : Prop :=
  ∃ t, s.step input = .ok t ∧ t.sent ≠ s.sent

/-- If the step handles a handshake, header or acknowledge, it transmits a reply iff the packet
asks for one. -/
def RepliesAsAsked (s : HostLoop) (input : HostInput) : Prop :=
  ∀ socket p, s.handled input = some (socket, p) → (∀ pa, p ≠ .path pa) →
    (s.Transmits input ↔ p.AsksForReply input.environment s.udtp)

/-- If the step handles a handshake, header or acknowledge, the resend test is right about
it. -/
def TestFits (s : HostLoop) (input : HostInput) : Prop :=
  ∀ socket p, s.handled input = some (socket, p) → (∀ pa, p ≠ .path pa) →
    p.IsRepliedRightly input.environment

variable {s : HostLoop} {input : HostInput}

/-- The HOST transmits the packet it handled iff the resend test says so. -/
theorem transmits_iff {socket : Socket} {p : Packet}
    (hhandled : s.handled input = some (socket, p)) :
    s.udtp.listPeers ≠ [] ∧
      (s.Transmits input ↔ p.IsResent input.environment s.udtp) := by
  obtain ⟨i, entry, peer, q, hphase, hentry, hpeer, hq, hpollin, hcount, honline, hraw, rfl,
    rfl⟩ := handled_eq_some hhandled
  constructor
  · intro hnil
    simp [UDTP.getPeer, hnil] at hpeer
  have hstep : s.step input = (s.visit input entry.fd i).map (setPhase (.scan (i + 1))) := by
    simp only [step, hphase, hentry, hpollin, if_true]
  have hvisit : s.visit input entry.fd i = (receiveHost input.environment input.read.contents
      input.read.packetDeduction entry.fd i s.udtp).map fun r =>
        { s with udtp := r.2, sent := s.sent ++ r.1 } := by
    simp only [visit, hpeer, hcount, honline, ne_eq, not_false_eq_true, if_true]
    cases receiveHost input.environment input.read.contents input.read.packetDeduction entry.fd i
        s.udtp with
    | error fault => rfl
    | ok r => rfl
  unfold Transmits Packet.IsResent
  rw [hstep, hvisit, receiveHost_eq entry.fd hq hpeer hraw]
  cases process input.environment s.udtp (setHostFields entry.fd i peer.uniqueID q) with
  | error fault => simp [Except.map]
  | ok r =>
    obtain ⟨b, r', u'⟩ := r
    cases b with
    | false => simp [Except.map, setPhase]
    | true => simp [Except.map, setPhase]

/-- A HOST replies as it is asked iff the condition on the packet it handles holds. -/
theorem repliesAsAsked_iff_testFits (s : HostLoop) (input : HostInput) :
    s.RepliesAsAsked input ↔ s.TestFits input := by
  unfold RepliesAsAsked TestFits
  refine forall_congr' fun socket => forall_congr' fun p => ?_
  refine imp_congr_right fun hhandled => imp_congr_right fun hpath => ?_
  obtain ⟨hu, htransmits⟩ := transmits_iff hhandled
  rw [htransmits]
  exact Packet.resent_iff_asks hu hpath

end HostLoop

/-- A `start()` that succeeds adds a record of the endpoint itself, whatever the endpoint was
used for before. -/
theorem UDTP.start_listPeers {outcome : UDTP.StartOutcome} {socketType : SocketType} {u v : UDTP}
    (h : u.start outcome socketType = (.success, v)) : v.listPeers ≠ [] := by
  unfold start at h
  dsimp only at h
  split at h
  · cases h
  split at h
  · cases h
  split at h
  · cases h
  · cases h
    simp [modifyPeer, addPeer]

namespace PeerLoop

/-- A state of the loop after some rounds since a `start()`, not necessarily the first one of
the endpoint. -/
def Reached (s : PeerLoop) : Prop :=
  ∃ outcome v u ins, UDTP.start outcome .peer v = (.success, u) ∧ run u ins = .ok s

/-- The round transmits something. -/
def Transmits (s : PeerLoop) (input : PeerInput) : Prop :=
  ∃ t, s.step input = .ok t ∧ t.sent ≠ s.sent

/-- If the round handles a handshake, header or acknowledge, it transmits a reply iff the packet
asks for one. -/
def RepliesAsAsked (s : PeerLoop) (input : PeerInput) : Prop :=
  ∀ socket p, s.handled input = some (socket, p) → (∀ pa, p ≠ .path pa) →
    (s.Transmits input ↔ p.AsksForReply input.environment s.udtp)

/-- If the round handles a handshake, header or acknowledge, the resend test is right about
it. -/
def TestFits (s : PeerLoop) (input : PeerInput) : Prop :=
  ∀ socket p, s.handled input = some (socket, p) → (∀ pa, p ≠ .path pa) →
    p.IsRepliedRightly input.environment

variable {s t : PeerLoop} {input : PeerInput}

/-- A step leaves a PEER with a record. -/
theorem step_listPeers (hs : s.udtp.listPeers ≠ []) (hstep : s.step input = .ok t) :
    t.udtp.listPeers ≠ [] := by
  obtain ⟨-, hsame | hstop | ⟨-, -, -, sent, hreceive⟩⟩ := step_cases hstep
  · rw [hsame]
    exact hs
  · rw [hstop]
    exact hs
  · rcases receivePeer_cases hreceive with ⟨-, hsame⟩ | ⟨p, b, q, -, hprocess, -⟩
    · rw [hsame]
      exact hs
    · have hlength := congrArg List.length (process_identity hprocess)
      simp only [List.length_map] at hlength
      apply List.ne_nil_of_length_pos
      rw [hlength]
      exact List.length_pos_of_ne_nil hs

/-- A PEER that was reached has a record. -/
theorem Reached.listPeers (h : s.Reached) : s.udtp.listPeers ≠ [] := by
  obtain ⟨outcome, v, u, ins, hstart, hrun⟩ := h
  exact run_preserves step (fun s => s.udtp.listPeers ≠ [])
    (fun _ _ _ hs hstep => step_listPeers hs hstep) (UDTP.start_listPeers hstart) hrun

/-- The PEER transmits the packet it handled iff the resend test says so. -/
theorem transmits_iff (hs : s.udtp.listPeers ≠ []) {socket : Socket} {p : Packet}
    (hhandled : s.handled input = some (socket, p)) :
    s.Transmits input ↔ p.IsResent input.environment s.udtp := by
  obtain ⟨self, rest, hlist⟩ := List.exists_cons_of_ne_nil hs
  have hself : s.udtp.getPeer 0 = some self := by simp [UDTP.getPeer, hlist]
  obtain ⟨q, hq, halive, hpollin, hcount, hraw, rfl⟩ : ∃ q,
      construct input.read.contents input.read.packetDeduction = some q ∧
      s.udtp.isAlive = true ∧ input.pollin = true ∧ input.read.count ≠ 0 ∧
      q.rawReadable input.read.contents = true ∧ p = setPeerFields s.masterPollFd q := by
    unfold handled at hhandled
    split at hhandled
    · cases hhandled
    rename_i q hq
    split at hhandled
    · rename_i hready
      cases hhandled
      obtain ⟨halive, hpollin, hcount, hraw⟩ := hready
      exact ⟨q, hq, halive, hpollin, hcount, hraw, rfl⟩
    · cases hhandled
  have hstep : s.step input = (receivePeer input.environment input.read.contents
      input.read.packetDeduction s.masterPollFd s.udtp).map fun r =>
        { s with udtp := r.2, sent := s.sent ++ r.1 } := by
    simp only [step, halive, hpollin, Bool.and_self, if_true, visit, hcount, ne_eq,
      not_false_eq_true]
    cases receivePeer input.environment input.read.contents input.read.packetDeduction
        s.masterPollFd s.udtp with
    | error fault => rfl
    | ok r => rfl
  unfold Transmits Packet.IsResent
  rw [hstep, receivePeer_eq s.masterPollFd hq hself hraw]
  cases process input.environment s.udtp (setPeerFields s.masterPollFd q) with
  | error fault => simp [Except.map]
  | ok r =>
    obtain ⟨b, r', u'⟩ := r
    cases b with
    | false => simp [Except.map]
    | true => simp [Except.map]

/-- A PEER replies as it is asked iff the condition on the packet it handles holds. -/
theorem repliesAsAsked_iff_testFits (h : s.Reached) (input : PeerInput) :
    s.RepliesAsAsked input ↔ s.TestFits input := by
  unfold RepliesAsAsked TestFits
  refine forall_congr' fun socket => forall_congr' fun p => ?_
  refine imp_congr_right fun hhandled => imp_congr_right fun hpath => ?_
  rw [transmits_iff h.listPeers hhandled]
  exact Packet.resent_iff_asks h.listPeers hpath

/-- A PEER that was just started is one that was reached. -/
theorem reached_startedIn : (new (UDTP.startedIn .peer)).Reached :=
  ⟨⟨3, true, true, default, true⟩, UDTP.new default, UDTP.startedIn .peer, [], rfl, rfl⟩

end PeerLoop

/-- **Replies are sent as they are asked for**, at the HOST and at the PEER, iff the packet that
is handled is none of those the resend test does not fit. -/
theorem repliesAsAsked_iff (host : HostLoop) (hostInput : HostInput) {peer : PeerLoop}
    (hpeer : peer.Reached) (peerInput : PeerInput) :
    (host.RepliesAsAsked hostInput ↔ host.TestFits hostInput) ∧
      (peer.RepliesAsAsked peerInput ↔ peer.TestFits peerInput) :=
  ⟨host.repliesAsAsked_iff_testFits hostInput, peer.repliesAsAsked_iff_testFits hpeer peerInput⟩

/-- Settings that arrive are answered at either end, as they ask to be. -/
theorem repliesAsAsked_iff_settings :
    (∃ host, HostLoop.run (UDTP.startedIn .host) (List.replicate 5 .connecting ++
        List.replicate 2 (.reading (.settings 1 420))) = .ok host ∧
      host.Transmits (.reading (.settings 1 420)) ∧
      host.RepliesAsAsked (.reading (.settings 1 420))) ∧
    (PeerLoop.new (UDTP.startedIn .peer)).Transmits (.reading (.settings 1 420)) ∧
    (PeerLoop.new (UDTP.startedIn .peer)).RepliesAsAsked (.reading (.settings 1 420)) := by
  obtain ⟨host, socket, p, hrun, hsends, hhandled, hfits⟩ : ∃ host socket p, HostLoop.run
      (UDTP.startedIn .host) (List.replicate 5 .connecting ++
        List.replicate 2 (.reading (.settings 1 420))) = .ok host ∧
      host.Transmits (.reading (.settings 1 420)) ∧
      host.handled (.reading (.settings 1 420)) = some (socket, p) ∧
      p.IsRepliedRightly (HostInput.reading (.settings 1 420)).environment := by
    refine ⟨_, _, _, rfl, ⟨_, rfl, ?_⟩, rfl, by decide, by decide⟩
    intro hsent
    have hlength := congrArg List.length hsent
    revert hlength
    decide
  obtain ⟨socket', p', hsends', hhandled', hfits'⟩ : ∃ socket p,
      (PeerLoop.new (UDTP.startedIn .peer)).Transmits (.reading (.settings 1 420)) ∧
      (PeerLoop.new (UDTP.startedIn .peer)).handled (.reading (.settings 1 420)) =
        some (socket, p) ∧
      p.IsRepliedRightly (PeerInput.reading (.settings 1 420)).environment := by
    refine ⟨_, _, ⟨_, rfl, ?_⟩, rfl, by decide, by decide⟩
    intro hsent
    have hlength := congrArg List.length hsent
    revert hlength
    decide
  have hboth := repliesAsAsked_iff host (.reading (.settings 1 420)) PeerLoop.reached_startedIn
    (.reading (.settings 1 420))
  refine ⟨⟨host, hrun, hsends, hboth.1.mpr ?_⟩, hsends', hboth.2.mpr ?_⟩
  · intro socket₁ p₁ h₁ hpath
    rw [hhandled] at h₁
    cases h₁
    exact hfits
  · intro socket₁ p₁ h₁ hpath
    rw [hhandled'] at h₁
    cases h₁
    exact hfits'

/-- A PEER that is told its settings were approved sends the approval back. -/
theorem not_repliesAsAsked_approval :
    ¬ (PeerLoop.new (UDTP.startedIn .peer)).RepliesAsAsked (.reading .approval) := by
  rw [PeerLoop.repliesAsAsked_iff_testFits PeerLoop.reached_startedIn]
  intro h
  have hfits := h _ _ rfl (by intro pa heq; cases heq)
  exact hfits.1 (by decide)

end Udtp
