import Udtp.Model.Exchange
import Udtp.Model.PeerLoop

/-!
# One delivery of an exchange

Both ends treat a delivered packet alike: they make an object from it, call its methods
through `process`, and the resend test decides whether the object goes back.
`deliver_cases` says so for both ends at once; the exchanges of handshakes, header
messages and acknowledges are proved from it and from what `process` does to each class.
-/

set_option autoImplicit false

namespace Udtp

/-! ## What a class makes of the resend test -/

/-- A header message goes through `respond()` alone, once it could follow its path, and goes back
iff that says so. -/
theorem process_header {env : Environment} {u u' : UDTP} {h : UDTPHeader} {q : Packet} {b : Bool} :
    process env u (.header h) = .ok (b, q, u') ↔
      (h.followsPath && h.pathUnmapped) = false ∧
        ∃ h', h.respond env u = .ok (b, h', u') ∧ q = .header h' := by
  unfold process
  simp only [Packet.unpack, Packet.respond, UDTPHeader.unpack]
  cases hpath : h.followsPath && h.pathUnmapped with
  | true => simp
  | false =>
    simp only [Bool.false_eq_true, if_false, true_and]
    cases hr : h.respond env u with
    | error fault => simp [Except.map]
    | ok r =>
      obtain ⟨b', h', v⟩ := r
      simp only [Except.map, Packet.pack, UDTPHeader.pack, resends_resendCheck, Bool.false_or,
        Bool.or_false, Except.ok.injEq, Prod.mk.injEq]
      constructor
      · rintro ⟨rfl, rfl, rfl⟩
        exact ⟨h', ⟨rfl, rfl, rfl⟩, rfl⟩
      · rintro ⟨h'', ⟨rfl, rfl, rfl⟩, rfl⟩
        exact ⟨rfl, rfl, rfl⟩

/-- An acknowledge always goes back, because its `pack()` and `unpack()` return `true`. -/
theorem process_acknowledge {env : Environment} {u u' : UDTP} {a : UDTPAcknowledge} {q : Packet}
    {b : Bool} (h : process env u (.acknowledge a) = .ok (b, q, u')) :
    b = true ∧ ∃ b' a', q = .acknowledge a' ∧ a.respond env u = .ok (b', a', u') := by
  unfold process at h
  split at h
  · cases h
  rename_i responded r v hresponded
  cases h
  obtain ⟨⟨b', a', w⟩, hr, heq⟩ := StepMachine.map_ok hresponded
  cases heq
  exact ⟨by simp [resends_resendCheck, Packet.unpack, UDTPAcknowledge.unpack], b', a', rfl, hr⟩

/-! ## Both ends -/

/-- The HOST handles the packet object made from what arrived. -/
theorem receiveHost_ok {env : Environment} {contents : Contents}
    {packetDeduction : UDTPPacketHeader} {socket : Socket} {i : ℕ} {u u' : UDTP}
    {sent : List Sent} {p : Packet} (hp : construct contents packetDeduction = some p)
    (h : receiveHost env contents packetDeduction socket i u = .ok (sent, u')) :
    ∃ uniqueID b q, process env u (setHostFields socket i uniqueID p) = .ok (b, q, u') ∧
      sent.head?.map Prod.snd = if b then some q else none := by
  rcases receiveHost_cases h with ⟨hnone, -, -⟩ | ⟨p', peer, b, q, hp', -, hprocess, rfl⟩
  · rw [hp] at hnone
    cases hnone
  · obtain rfl : p = p' := Option.some.inj (hp.symm.trans hp')
    refine ⟨peer.uniqueID, b, q, hprocess, ?_⟩
    cases b with
    | false => rfl
    | true => rfl

/-- The PEER handles the packet object made from what arrived. -/
theorem receivePeer_ok {env : Environment} {contents : Contents}
    {packetDeduction : UDTPPacketHeader} {socket : Socket} {u u' : UDTP} {sent : List Sent}
    {p : Packet} (hp : construct contents packetDeduction = some p)
    (h : receivePeer env contents packetDeduction socket u = .ok (sent, u')) :
    ∃ b q, process env u (setPeerFields socket p) = .ok (b, q, u') ∧
      sent.head?.map Prod.snd = if b then some q else none := by
  rcases receivePeer_cases h with ⟨hnone, -⟩ | ⟨p', b, q, hp', hprocess, hsent⟩
  · rw [hp] at hnone
    cases hnone
  · obtain rfl : p = p' := Option.some.inj (hp.symm.trans hp')
    exact ⟨b, q, hprocess, hsent⟩

/-- What an end sets in a new object before it calls the methods. -/
def setFields (toHost : Bool) (socket : Socket) (posID : ℕ) (uniqueID : UInt32) (p : Packet) :
    Packet :=
  if toHost then setHostFields socket posID uniqueID p else setPeerFields socket p

namespace Exchange

variable {hostEnd peerEnd : EndPoint} {x y : Exchange}

/-- The end a packet is delivered to. -/
def receiver (x : Exchange) : UDTP := if x.toHost then x.host else x.peer

/-- The settings and files of the end a packet is delivered to. -/
def receiverEnd (hostEnd peerEnd : EndPoint) (x : Exchange) : EndPoint :=
  if x.toHost then hostEnd else peerEnd

/-- The exchange after a delivery changed the receiving end and sent an answer. -/
def answered (x : Exchange) (u : UDTP) (wire : Option Packet) : Exchange :=
  if x.toHost then { x with host := u, wire := wire, toHost := false }
  else { x with peer := u, wire := wire, toHost := true }

/-- After an answer the wire holds the answer. -/
@[simp]
theorem answered_wire (x : Exchange) (u : UDTP) (wire : Option Packet) :
    (x.answered u wire).wire = wire := by
  unfold answered
  split <;> rfl

/-- **One delivery.** The packet on the wire becomes an object at the other end and is
handled there; it goes back iff the resend test says so. -/
theorem deliver_cases {input : Delivery} {p q : Packet} (hx : x.wire = some p)
    (hq : construct (p.arrive input.memory) p.packetDeduction = some q)
    (h : deliver hostEnd peerEnd x input = .ok y) :
    ∃ socket uniqueID b r u,
      process ((x.receiverEnd hostEnd peerEnd).environment input) x.receiver
        (setFields x.toHost socket x.posID uniqueID q) = .ok (b, r, u) ∧
      y = x.answered u (if b then some r else none) := by
  cases hto : x.toHost with
  | true =>
    obtain ⟨sent, hreceive, hy⟩ := deliver_host hx hto h
    obtain ⟨uniqueID, b, r, hprocess, hsent⟩ := receiveHost_ok hq hreceive
    refine ⟨x.socket, uniqueID, b, r, y.host, ?_, ?_⟩
    · simpa [receiverEnd, receiver, hto, setFields] using hprocess
    · rw [hy, hsent]
      simp [answered, hto]
  | false =>
    obtain ⟨sent, hreceive, hy⟩ := deliver_peer hx hto h
    obtain ⟨b, r, hprocess, hsent⟩ := receivePeer_ok hq hreceive
    refine ⟨x.peer.listenSocket, 0, b, r, y.peer, ?_, ?_⟩
    · simpa [receiverEnd, receiver, hto, setFields] using hprocess
    · rw [hy, hsent]
      simp [answered, hto]

/-- Each end has a record of the other one. -/
def Connected (x : Exchange) : Prop :=
  (∃ p, x.host.getPeer x.posID = some p) ∧ ∃ q, x.peer.getPeer 0 = some q

/-- Between connected ends a packet is delivered whose object has a buffer that can be read and is
handled. -/
theorem Connected.deliver_ok (hconnected : x.Connected) {input : Delivery} {p q : Packet}
    (hx : x.wire = some p)
    (hq : construct (p.arrive input.memory) p.packetDeduction = some q)
    (hraw : q.rawReadable (p.arrive input.memory) = true)
    (hprocess : ∀ socket uniqueID, ∃ r,
      process ((x.receiverEnd hostEnd peerEnd).environment input) x.receiver
        (setFields x.toHost socket x.posID uniqueID q) = .ok r) :
    ∃ y, deliver hostEnd peerEnd x input = .ok y := by
  obtain ⟨⟨own, hown⟩, self, hself⟩ := hconnected
  cases hto : x.toHost with
  | true =>
    obtain ⟨r, hr⟩ := hprocess x.socket own.uniqueID
    simp only [receiverEnd, receiver, setFields, hto, if_true] at hr
    have hreceive := @receiveHost_eq (hostEnd.environment input) _ _ x.socket _ _ _ _ hq hown hraw
    rw [hr] at hreceive
    simp only [Except.map] at hreceive
    simp [deliver, hx, hto, hreceive]
  | false =>
    obtain ⟨r, hr⟩ := hprocess x.peer.listenSocket 0
    simp only [receiverEnd, receiver, setFields, hto, Bool.false_eq_true, if_false] at hr
    have hreceive := @receivePeer_eq (peerEnd.environment input) _ _ x.peer.listenSocket _ _ _
      hq hself hraw
    rw [hr] at hreceive
    simp only [Except.map] at hreceive
    simp [deliver, hx, hto, hreceive]

end Exchange

end Udtp
