import Udtp.Model.HostLoop

/-!
# The loop of the PEER

`listenThread` on the PEER, a round of it at a time.  There is one connection and one
record, that of the endpoint itself, and a connection at its end stops the endpoint.
-/

set_option autoImplicit false

namespace Udtp

/-- What one round of the loop finds around it.  `pollin` is `revents & POLLIN` of the only
entry, after `poll()`. -/
structure PeerInput where
  environment : Environment
  pollin : Bool
  read : ReadAnswer
  deriving Inhabited

/-- A round with something to read. -/
def PeerInput.reading (read : ReadAnswer) : PeerInput where
  environment := { (default : Environment) with setup := .defaults }
  pollin := true
  read := read

/-- The endpoint, the entry of the poll array and what was sent so far.
SRCLINE: UDTP.cpp:183-190 -/
structure PeerLoop where
  udtp : UDTP
  masterPollFd : Socket
  sent : List Sent

namespace PeerLoop

/-- The loop before its first round. -/
def new (u : UDTP) : PeerLoop where
  udtp := u
  masterPollFd := u.listenSocket
  sent := []

/-- A readable connection: a packet, unless `read()` returns `0`.
SRCLINE: UDTP.cpp:326-386 -/
def visit (input : PeerInput) (s : PeerLoop) : Except Fault PeerLoop :=
  if input.read.count ≠ 0 then
    match receivePeer input.environment input.read.contents input.read.packetDeduction
        s.masterPollFd s.udtp with
    | .error fault => .error fault
    | .ok (sent, u) => .ok { s with udtp := u, sent := s.sent ++ sent }
  else .ok { s with udtp := s.udtp.stop }

/-- One round of the loop.  Once the endpoint was stopped there is none.
SRCLINE: UDTP.cpp:198, UDTP.cpp:319-388 -/
def step (s : PeerLoop) (input : PeerInput) : Except Fault PeerLoop :=
  if s.udtp.isAlive && input.pollin then s.visit input else .ok s

/-- A run of the loop from a `start()` on. -/
abbrev run (u : UDTP) (ins : List PeerInput) : Except Fault PeerLoop :=
  StepMachine.run step (new u) ins

/-- What a round can do to the endpoint: nothing, stop it, or handle what arrived. -/
theorem step_cases {s t : PeerLoop} {input : PeerInput} (h : s.step input = .ok t) :
    t.masterPollFd = s.masterPollFd ∧
    (t.udtp = s.udtp ∨ t.udtp = s.udtp.stop ∨
      (s.udtp.isAlive = true ∧ input.pollin = true ∧ input.read.count ≠ 0 ∧
        ∃ sent, receivePeer input.environment input.read.contents input.read.packetDeduction
          s.masterPollFd s.udtp = .ok (sent, t.udtp))) := by
  unfold step at h
  split at h
  · rename_i hready
    rw [Bool.and_eq_true] at hready
    unfold visit at h
    split at h
    · rename_i hcount
      split at h
      · cases h
      · rename_i sent u hreceive
        cases h
        exact ⟨rfl, Or.inr (Or.inr ⟨hready.1, hready.2, hcount, sent, hreceive⟩)⟩
    · cases h
      exact ⟨rfl, Or.inr (Or.inl rfl)⟩
  · cases h
    exact ⟨rfl, Or.inl rfl⟩

end PeerLoop

/-! ## What arriving data can do at the PEER -/

/-- The PEER handles one packet object, and sends it back from the record at position 0. -/
theorem receivePeer_eq {env : Environment} {contents : Contents}
    {packetDeduction : UDTPPacketHeader} (socket : Socket) {u : UDTP} {p : Packet}
    {self : UDTPPeer} (hp : construct contents packetDeduction = some p)
    (hself : u.getPeer 0 = some self) (hraw : p.rawReadable contents = true) :
    receivePeer env contents packetDeduction socket u =
      (process env u (setPeerFields socket p)).map fun r =>
        (if r.1 then [(self.listenSocket, r.2.1)] else [], r.2.2) := by
  unfold receivePeer
  rw [hp]
  simp only [hraw, Bool.not_true, Bool.false_eq_true, if_false]
  cases hprocess : process env u (setPeerFields socket p) with
  | error fault => rfl
  | ok r =>
    obtain ⟨b, q, u'⟩ := r
    obtain ⟨self', hself', hid⟩ := UDTP.getPeer_of_map_eq
      (process_identity hprocess).symm hself
    have hsocket := (Prod.mk.inj hid).1
    simp only [hself', Except.map, UDTPPeer.sendFrom, hsocket]
    cases b with
    | false => rfl
    | true => rfl

/-- An object without a buffer ends the PEER where the address left in its `_raw` is followed. -/
theorem receivePeer_of_unmapped (env : Environment) {contents : Contents}
    {packetDeduction : UDTPPacketHeader} (socket : Socket) (u : UDTP) {p : Packet}
    (hp : construct contents packetDeduction = some p) (hraw : p.rawReadable contents = false) :
    receivePeer env contents packetDeduction socket u = .error .wildPointer := by
  simp [receivePeer, hp, hraw]

/-- What the PEER handles was read through a pointer that could be followed. -/
theorem rawReadable_of_receivePeer {env : Environment} {contents : Contents}
    {packetDeduction : UDTPPacketHeader} {socket : Socket} {u u' : UDTP} {sent : List Sent}
    {p : Packet} (hp : construct contents packetDeduction = some p)
    (h : receivePeer env contents packetDeduction socket u = .ok (sent, u')) :
    p.rawReadable contents = true := by
  by_contra hraw
  rw [receivePeer_of_unmapped env socket u hp (Bool.eq_false_of_not_eq_true hraw)] at h
  cases h

/-- The PEER handles nothing, or one packet made from what arrived. -/
theorem receivePeer_cases {env : Environment} {contents : Contents}
    {packetDeduction : UDTPPacketHeader} {socket : Socket} {u u' : UDTP} {sent : List Sent}
    (h : receivePeer env contents packetDeduction socket u = .ok (sent, u')) :
    (construct contents packetDeduction = none ∧ u' = u) ∨
    (∃ p b q, construct contents packetDeduction = some p ∧
      process env u (setPeerFields socket p) = .ok (b, q, u') ∧
      sent.head?.map Prod.snd = if b then some q else none) := by
  unfold receivePeer at h
  split at h
  · rename_i hc
    cases h
    exact Or.inl ⟨hc, rfl⟩
  rename_i p hc
  split at h
  · cases h
  split at h
  · cases h
  rename_i b q v hprocess
  split at h
  · rename_i hresend
    split at h
    · cases h
    · cases h
      exact Or.inr ⟨p, b, q, hc, hprocess, by simp [hresend, UDTPPeer.sendFrom]⟩
  · rename_i hresend
    cases h
    exact Or.inr ⟨p, b, q, hc, hprocess, by simp [hresend]⟩

end Udtp
