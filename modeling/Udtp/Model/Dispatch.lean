import Udtp.Model.Acknowledge
import Udtp.Model.Handshake
import Udtp.Model.Header

/-!
# Handling one packet

The part of `listenThread` that both roles have: build the object for the packet type,
tell it where it came from, call its three methods and send it back when the resend test
says so.  `recv()` into the object is no part of this file; the contents an object has
after it are given.
-/

set_option autoImplicit false

namespace Udtp

/-! ## The virtual methods -/

namespace Packet

/-- `UDTPPath::unpack()` runs off its end.
SRCLINE: UDTPPath.cpp:17-19 -/
def unpack (env : Environment) : Packet → Bool × Packet
  | handshake h => (h.unpack.1, handshake h.unpack.2)
  | header h => (h.unpack.1, header h.unpack.2)
  | path p => (env.fellOffUnpack, path p)
  | acknowledge a => (a.unpack.1, acknowledge a.unpack.2)

/-- A header object holds in `_pathOfFile` what its memory held, and the branches of a transfer
follow it.  `UDTPPath::respond()` runs off its end.
SRCLINE: UDTPHeader.cpp:54-150, UDTPPath.cpp:21-23 -/
def respond (env : Environment) (u : UDTP) : Packet → Except Fault (Bool × Packet × UDTP)
  | handshake h => (h.respond env u).map fun r => (r.1, handshake r.2.1, r.2.2)
  | header h =>
    if h.followsPath && h.pathUnmapped then .error .wildPointer
    else (h.respond env u).map fun r => (r.1, header r.2.1, r.2.2)
  | path p => .ok (env.fellOffRespond, path p, u)
  | acknowledge a => (a.respond env u).map fun r => (r.1, acknowledge r.2.1, r.2.2)

/-- A header that was handled could follow its path, or did not have to. -/
theorem respond_header_ok {env : Environment} {u : UDTP} {h : UDTPHeader}
    {r : Bool × Packet × UDTP} (hr : (header h).respond env u = .ok r) :
    ∃ b h' u', (h.followsPath && h.pathUnmapped) = false ∧ h.respond env u = .ok (b, h', u') ∧
      r = (b, header h', u') := by
  unfold respond at hr
  dsimp only at hr
  split at hr
  · cases hr
  rename_i hpath
  obtain ⟨⟨b, h', u'⟩, hrespond, rfl⟩ := StepMachine.map_ok hr
  exact ⟨b, h', u', Bool.eq_false_of_not_eq_true hpath, hrespond, rfl⟩

/-- SRCLINE: UDTPPath.cpp:13-16 -/
def pack (env : Environment) : Packet → Bool × Packet
  | handshake h => ((h.pack env).1, handshake (h.pack env).2)
  | header h => (h.pack.1, header h.pack.2)
  | path p => (true, path p)
  | acknowledge a => (a.pack.1, acknowledge a.pack.2)

end Packet

/-! ## The resend test -/

/-- One bit for each method that returned `true`.
SRCLINE: UDTP.cpp:286-289 -/
def resendCheck (unpacked responded packed : Bool) : BitVec 8 :=
  let check := 0#8
  let check := if unpacked then check ||| 1#8 <<< 0 else check
  let check := if responded then check ||| 1#8 <<< 1 else check
  if packed then check ||| 1#8 <<< 2 else check

/-- `if(resendCheck & 0x07)`
SRCLINE: UDTP.cpp:291 -/
def resends (check : BitVec 8) : Bool := check &&& 0x07#8 ≠ 0#8

/-- A packet is sent back as soon as one of its methods returned `true`. -/
theorem resends_resendCheck (unpacked responded packed : Bool) :
    resends (resendCheck unpacked responded packed) = (unpacked || responded || packed) := by
  cases unpacked <;> cases responded <;> cases packed <;> decide

/-- The result of the resend test together with the packet as `pack()` left it and the
endpoint as `respond()` left it.
SRCLINE: UDTP.cpp:285-291 -/
def process (env : Environment) (u : UDTP) (p : Packet) : Except Fault (Bool × Packet × UDTP) :=
  match (p.unpack env).2.respond env u with
  | .error fault => .error fault
  | .ok (responded, q, u) =>
    .ok (resends (resendCheck (p.unpack env).1 responded (q.pack env).1), (q.pack env).2, u)

/-! ## Construction -/

/-- The contents the memory of a new packet object has once the packet was received into
it.  `rawUnmapped` says that it held, where `_raw` is, no address that can be read. -/
structure Contents where
  handshake : UDTPHandshake
  header : UDTPHeader
  path : UDTPPath
  acknowledge : UDTPAcknowledge
  rawUnmapped : Bool
  deriving Inhabited

/-- The `switch` on the packet type.  The constructors of `UDTPPath` and `UDTPAcknowledge`
drop the header they are given.
SRCLINE: UDTP.cpp:255-277, UDTP.cpp:340-362 -/
def construct (contents : Contents) (packetDeduction : UDTPPacketHeader) : Option Packet :=
  match packetDeduction.packetType with
  | .header => some (.header (UDTPHeader.ofHeader contents.header packetDeduction))
  | .path => some (.path contents.path)
  | .acknowledge => some (.acknowledge contents.acknowledge)
  | .handshake => some (.handshake (UDTPHandshake.ofHeader contents.handshake packetDeduction))
  | _ => none

/-- Whether `*_raw`, which `write_to_buffer()` yields for `recv()`, can be read: two classes have a
constructor that allocates no buffer and leaves the pointer what it was.
SRCLINE: UDTPPacket.h:96 -/
def Packet.rawReadable (contents : Contents) : Packet → Bool
  | .handshake _ => true
  | .header _ => true
  | .path _ => !contents.rawUnmapped
  | .acknowledge _ => !contents.rawUnmapped

/-- What the HOST branch sets before it calls the methods.
SRCLINE: UDTP.cpp:279-283 -/
def setHostFields (socket : Socket) (i : ℕ) (uniqueID : UInt32) (p : Packet) : Packet :=
  p.mapBase fun b => { b with socketID := socket, peerID := i, myPeer := i, uniqueID := uniqueID }

/-- What the PEER branch sets: neither the peer ID nor the unique ID.
SRCLINE: UDTP.cpp:365-367 -/
def setPeerFields (socket : Socket) (p : Packet) : Packet :=
  p.mapBase fun b => { b with socketID := socket, myPeer := 0 }

/-! ## Sending -/

/-- What `send()` was called with: the socket and the packet. -/
abbrev Sent := Socket × Packet

/-- A packet stamped with another unique ID than the record's is not sent.
SRCLINE: UDTPPeer.cpp:192-201 -/
def UDTPPeer.sendTo (p : Packet) (peer : UDTPPeer) : List Sent :=
  if peer.uniqueID ≠ p.base.uniqueID then [] else [(peer.listenSocket, p)]

/-- SRCLINE: UDTPPeer.cpp:185-190 -/
def UDTPPeer.sendFrom (p : Packet) (peer : UDTPPeer) : List Sent := [(peer.listenSocket, p)]

/-! ## Receiving -/

/-- The HOST handles a packet that arrived for position `i`: the packets it sends and the
endpoint afterwards.
SRCLINE: UDTP.cpp:245-298 -/
def receiveHost (env : Environment) (contents : Contents) (packetDeduction : UDTPPacketHeader)
    (socket : Socket) (i : ℕ) (u : UDTP) : Except Fault (List Sent × UDTP) :=
  match construct contents packetDeduction with
  | none => .ok ([], u)
  | some p =>
    match u.getPeer i with
    | none => .error .nullPeer
    | some peer =>
      if !p.rawReadable contents then .error .wildPointer
      else
        match process env u (setHostFields socket i peer.uniqueID p) with
        | .error fault => .error fault
        | .ok (resend, q, u') =>
          if resend then
            match u'.getPeer i with
            | none => .error .nullPeer
            | some peer => .ok (peer.sendTo q, u')
          else .ok ([], u')

/-- The PEER handles a packet: the packets it sends and the endpoint afterwards.
SRCLINE: UDTP.cpp:330-378 -/
def receivePeer (env : Environment) (contents : Contents) (packetDeduction : UDTPPacketHeader)
    (socket : Socket) (u : UDTP) : Except Fault (List Sent × UDTP) :=
  match construct contents packetDeduction with
  | none => .ok ([], u)
  | some p =>
    if !p.rawReadable contents then .error .wildPointer
    else
      match process env u (setPeerFields socket p) with
      | .error fault => .error fault
      | .ok (resend, q, u') =>
        if resend then
          match u'.getPeer 0 with
          | none => .error .nullPeer
          | some peer => .ok (peer.sendFrom q, u')
        else .ok ([], u')

/-! ## What a packet can do to the records -/

/-- The part of a record that tells which connection it belongs to. -/
def UDTPPeer.identity (p : UDTPPeer) : Socket × UInt32 := (p.listenSocket, p.uniqueID)

/-- The part of a record that `is_online()` and `check_init_process()` read. -/
def UDTPPeer.standing (p : UDTPPeer) : BitVec 8 × Bool := (p.initProcess, p.connectionStatus)

/-- A handled packet went through `respond()` of its class. -/
theorem process_cases {env : Environment} {u u' : UDTP} {p q : Packet} {b : Bool}
    (h : process env u p = .ok (b, q, u')) :
    (∃ hs b' hs', p = .handshake hs ∧ hs.unpack.2.respond env u = .ok (b', hs', u')) ∨
    (∃ hd b' hd', p = .header hd ∧ hd.respond env u = .ok (b', hd', u')) ∨
    (∃ pa, p = .path pa ∧ u' = u) ∨
    (∃ a b' a', p = .acknowledge a ∧ a.respond env u = .ok (b', a', u')) := by
  unfold process at h
  split at h
  · cases h
  rename_i responded q' v hresponded
  cases h
  cases p with
  | handshake hs =>
    obtain ⟨⟨b', hs', w⟩, hr, heq⟩ := StepMachine.map_ok hresponded
    cases heq
    exact Or.inl ⟨hs, b', hs', rfl, hr⟩
  | header hd =>
    obtain ⟨b', hd', w, -, hr, heq⟩ := Packet.respond_header_ok hresponded
    cases heq
    exact Or.inr (Or.inl ⟨hd, responded, hd', rfl, hr⟩)
  | path pa =>
    cases hresponded
    exact Or.inr (Or.inr (Or.inl ⟨pa, rfl, rfl⟩))
  | acknowledge a =>
    obtain ⟨⟨b', a', w⟩, hr, heq⟩ := StepMachine.map_ok hresponded
    cases heq
    exact Or.inr (Or.inr (Or.inr ⟨a, b', a', rfl, hr⟩))

/-- Of an endpoint, handling a packet changes the records, the files and the counter of file
IDs at most. -/
theorem process_frame {env : Environment} {u u' : UDTP} {p q : Packet} {b : Bool}
    (h : process env u p = .ok (b, q, u')) :
    u' = { u with
      listPeers := u'.listPeers, files := u'.files, overallFiles := u'.overallFiles,
      fileIDCount := u'.fileIDCount } := by
  rcases process_cases h with ⟨hs, b', hs', -, hr⟩ | ⟨hd, b', hd', -, hr⟩ | ⟨pa, -, rfl⟩ |
    ⟨a, b', a', -, hr⟩
  · rcases UDTPHandshake.respond_udtp hr with ⟨-, -, rfl⟩ | ⟨-, -, rfl⟩ | ⟨-, rfl⟩ | ⟨-, -, rfl⟩
    all_goals rfl
  · rcases UDTPHeader.respond_udtp hr with ⟨v, f, ⟨count, rfl⟩, -, rfl⟩ | ⟨-, count, rfl⟩
    all_goals rfl
  · rfl
  · obtain ⟨rfl | ⟨p, p', -, -, rfl⟩, -⟩ := UDTPAcknowledge.respond_spec hr
    all_goals rfl

/-- A header keeps what the file lists of the records do not enter. -/
theorem map_listPeers_header {α : Type} (g : UDTPPeer → α) {env : Environment} {u u' : UDTP}
    {hd hd' : UDTPHeader} {b : Bool} (hr : hd.respond env u = .ok (b, hd', u'))
    (h : UDTPPeer.IgnoresFileLists g) :
    u'.listPeers.map g = u.listPeers.map g := by
  rcases UDTPHeader.respond_udtp hr with ⟨v, f, ⟨count, rfl⟩, -, rfl⟩ | ⟨-, count, rfl⟩
  · exact UDTP.map_listPeers_takeFile g env _ _ _ h
  · rfl

/-- A handshake keeps what the standing of the records does not enter. -/
theorem map_listPeers_handshake {α : Type} (g : UDTPPeer → α) {env : Environment} {u u' : UDTP}
    {hs hs' : UDTPHandshake} {b : Bool} (hr : hs.respond env u = .ok (b, hs', u'))
    (h : UDTPPeer.IgnoresStanding g) :
    u'.listPeers.map g = u.listPeers.map g := by
  rcases UDTPHandshake.respond_udtp hr with ⟨-, -, rfl⟩ | ⟨-, -, rfl⟩ | ⟨-, rfl⟩ | ⟨-, -, rfl⟩
  · apply UDTP.map_listPeers_modifyPeer
    intro p
    exact h p p.initProcess false
  · apply UDTP.map_listPeers_modifyPeer
    intro p
    exact h p _ p.connectionStatus
  · apply UDTP.map_listPeers_modifyPeer
    intro p
    exact h p _ p.connectionStatus
  · rfl

/-- Handling a packet keeps what neither the file lists nor the threads nor the standing of a
record enter. -/
theorem map_listPeers_process {α : Type} (g : UDTPPeer → α) {env : Environment} {u u' : UDTP}
    {p q : Packet} {b : Bool} (h : process env u p = .ok (b, q, u'))
    (hfiles : UDTPPeer.IgnoresFileLists g) (hthreads : UDTPPeer.IgnoresThreads g)
    (hstanding : UDTPPeer.IgnoresStanding g) :
    u'.listPeers.map g = u.listPeers.map g := by
  rcases process_cases h with ⟨hs, b', hs', -, hr⟩ | ⟨hd, b', hd', -, hr⟩ | ⟨pa, -, rfl⟩ |
    ⟨a, b', a', -, hr⟩
  · exact map_listPeers_handshake g hr hstanding
  · exact map_listPeers_header g hr hfiles
  · rfl
  · exact UDTPAcknowledge.map_listPeers_respond g hr hthreads

/-- Handling a packet keeps sockets and unique IDs of all records. -/
theorem process_identity {env : Environment} {u u' : UDTP} {p q : Packet} {b : Bool}
    (h : process env u p = .ok (b, q, u')) :
    u'.listPeers.map UDTPPeer.identity = u.listPeers.map UDTPPeer.identity :=
  map_listPeers_process _ h (fun _ _ _ => rfl) (fun _ _ _ _ _ _ => rfl) (fun _ _ _ => rfl)

/-- Handling a packet keeps the unique ID it was stamped with. -/
theorem process_uniqueID {env : Environment} {u u' : UDTP} {p q : Packet} {b : Bool}
    (h : process env u p = .ok (b, q, u')) : q.base.uniqueID = p.base.uniqueID := by
  unfold process at h
  split at h
  · cases h
  rename_i responded r v hresponded
  cases h
  cases p with
  | handshake hs =>
    obtain ⟨⟨b', hs', w⟩, hr, heq⟩ := StepMachine.map_ok hresponded
    cases heq
    have hpacket := UDTPHandshake.respond_packet hr
    have hunpack := UDTPHandshake.unpack_toUDTPPacket hs
    calc ((Packet.handshake hs').pack env).2.base.uniqueID
        = hs'.uniqueID := UDTPHandshake.pack_uniqueID env hs'
      _ = hs.unpack.2.uniqueID := by rw [hpacket]; rfl
      _ = hs.uniqueID := by rw [hunpack]; rfl
  | header hd =>
    obtain ⟨b', hd', w, -, hr, heq⟩ := Packet.respond_header_ok hresponded
    cases heq
    exact (UDTPHeader.respond_peer hr).1
  | path pa =>
    cases hresponded
    rfl
  | acknowledge a =>
    obtain ⟨⟨b', a', w⟩, hr, heq⟩ := StepMachine.map_ok hresponded
    cases heq
    obtain ⟨-, type, ha'⟩ := UDTPAcknowledge.respond_spec hr
    rw [ha']
    rfl

/-- Only a handshake changes which records are online or what they have recorded. -/
theorem process_standing {env : Environment} {u u' : UDTP} {p q : Packet} {b : Bool}
    (h : process env u p = .ok (b, q, u')) (hp : ∀ hs, p ≠ .handshake hs) :
    u'.listPeers.map UDTPPeer.standing = u.listPeers.map UDTPPeer.standing := by
  rcases process_cases h with ⟨hs, b', hs', rfl, hr⟩ | ⟨hd, b', hd', -, hr⟩ | ⟨pa, -, rfl⟩ |
    ⟨a, b', a', -, hr⟩
  · exact absurd rfl (hp hs)
  · exact map_listPeers_header _ hr fun _ _ _ => rfl
  · rfl
  · exact UDTPAcknowledge.map_listPeers_respond _ hr fun _ _ _ _ _ _ => rfl

/-- Handling a packet fills no queue of flow threads. -/
theorem process_flowThreads {env : Environment} {u u' : UDTP} {p q : Packet} {b : Bool}
    (h : process env u p = .ok (b, q, u')) (hu : ∀ r ∈ u.listPeers, r.flowThreads = []) :
    ∀ r ∈ u'.listPeers, r.flowThreads = [] := by
  have keep : u'.listPeers.map UDTPPeer.flowThreads = u.listPeers.map UDTPPeer.flowThreads →
      ∀ r ∈ u'.listPeers, r.flowThreads = [] :=
    fun heq => UDTP.forall_listPeers_of_map_eq (· = []) heq hu
  rcases process_cases h with ⟨hs, b', hs', -, hr⟩ | ⟨hd, b', hd', -, hr⟩ | ⟨pa, -, rfl⟩ |
    ⟨a, b', a', -, hr⟩
  · exact keep (map_listPeers_handshake _ hr fun _ _ _ => rfl)
  · exact keep (map_listPeers_header _ hr fun _ _ _ => rfl)
  · exact hu
  · obtain ⟨rfl | ⟨p, p', hp, hc, rfl⟩, -⟩ := UDTPAcknowledge.respond_spec hr
    · exact hu
    intro r hr
    obtain ⟨k, hk⟩ := List.mem_iff_getElem?.mp hr
    simp only [UDTP.modifyPeer, List.getElem?_modify] at hk
    by_cases hpos : a.myPeer = k
    · subst hpos
      have hrec : u.listPeers[a.myPeer]? = some p := hp
      simp only [hrec, if_true, Option.map_eq_map, Option.map_some, Option.some.injEq] at hk
      subst hk
      exact hc.flowThreads (hu p (List.mem_of_getElem? hrec))
    · simp only [if_neg hpos, Option.map_eq_map, Option.map_id'] at hk
      exact hu r (List.mem_of_getElem? hk)

/-! ## What arriving data can do at the HOST -/

/-- The HOST stamps a packet with the unique ID of the record it came for. -/
@[simp]
theorem setHostFields_uniqueID (socket : Socket) (i : ℕ) (uniqueID : UInt32) (p : Packet) :
    (setHostFields socket i uniqueID p).base.uniqueID = uniqueID := by
  cases p <;> rfl

/-- The HOST handles one packet object and sends it back iff the resend test says so: the
record it is sent to still has the unique ID the object was given. -/
theorem receiveHost_eq {env : Environment} {contents : Contents}
    {packetDeduction : UDTPPacketHeader} (socket : Socket) {i : ℕ} {u : UDTP} {p : Packet}
    {peer : UDTPPeer} (hp : construct contents packetDeduction = some p)
    (hpeer : u.getPeer i = some peer) (hraw : p.rawReadable contents = true) :
    receiveHost env contents packetDeduction socket i u =
      (process env u (setHostFields socket i peer.uniqueID p)).map fun r =>
        (if r.1 then [(peer.listenSocket, r.2.1)] else [], r.2.2) := by
  unfold receiveHost
  rw [hp]
  simp only [hpeer, hraw, Bool.not_true, Bool.false_eq_true, if_false]
  cases hprocess : process env u (setHostFields socket i peer.uniqueID p) with
  | error fault => rfl
  | ok r =>
    obtain ⟨b, q, u'⟩ := r
    obtain ⟨peer', hpeer', hid⟩ := UDTP.getPeer_of_map_eq
      (process_identity hprocess).symm hpeer
    obtain ⟨hsocket, hunique⟩ := Prod.mk.inj hid
    have hsame : q.base.uniqueID = peer.uniqueID := by
      rw [process_uniqueID hprocess, setHostFields_uniqueID]
    simp only [hpeer', Except.map, UDTPPeer.sendTo, hsame, hsocket, hunique]
    cases b with
    | false => rfl
    | true => simp

/-- An object without a buffer ends the HOST where the address left in its `_raw` is followed. -/
theorem receiveHost_of_unmapped (env : Environment) {contents : Contents}
    {packetDeduction : UDTPPacketHeader} (socket : Socket) {i : ℕ} {u : UDTP} {p : Packet}
    {peer : UDTPPeer} (hp : construct contents packetDeduction = some p)
    (hpeer : u.getPeer i = some peer) (hraw : p.rawReadable contents = false) :
    receiveHost env contents packetDeduction socket i u = .error .wildPointer := by
  simp [receiveHost, hp, hpeer, hraw]

/-- The HOST handles nothing, or one packet made from what arrived. -/
theorem receiveHost_cases {env : Environment} {contents : Contents}
    {packetDeduction : UDTPPacketHeader} {socket : Socket} {i : ℕ} {u u' : UDTP}
    {sent : List Sent}
    (h : receiveHost env contents packetDeduction socket i u = .ok (sent, u')) :
    (construct contents packetDeduction = none ∧ sent = [] ∧ u' = u) ∨
    (∃ p peer b q, construct contents packetDeduction = some p ∧ u.getPeer i = some peer ∧
      process env u (setHostFields socket i peer.uniqueID p) = .ok (b, q, u') ∧
      sent = if b then [(peer.listenSocket, q)] else []) := by
  cases hp : construct contents packetDeduction with
  | none =>
    rw [receiveHost, hp] at h
    cases h
    exact Or.inl ⟨rfl, rfl, rfl⟩
  | some p =>
    cases hpeer : u.getPeer i with
    | none => simp [receiveHost, hp, hpeer] at h
    | some peer =>
      cases hraw : p.rawReadable contents with
      | false =>
        rw [receiveHost_of_unmapped env socket hp hpeer hraw] at h
        cases h
      | true =>
        rw [receiveHost_eq socket hp hpeer hraw] at h
        obtain ⟨⟨b, q, v⟩, hprocess, hsent⟩ := StepMachine.map_ok h
        cases hsent
        exact Or.inr ⟨p, peer, b, q, rfl, rfl, hprocess, rfl⟩

/-- What the HOST handles was read through a pointer that could be followed. -/
theorem rawReadable_of_receiveHost {env : Environment} {contents : Contents}
    {packetDeduction : UDTPPacketHeader} {socket : Socket} {i : ℕ} {u u' : UDTP}
    {sent : List Sent} {p : Packet} (hp : construct contents packetDeduction = some p)
    (h : receiveHost env contents packetDeduction socket i u = .ok (sent, u')) :
    p.rawReadable contents = true := by
  cases hpeer : u.getPeer i with
  | none => simp [receiveHost, hp, hpeer] at h
  | some peer =>
    by_contra hraw
    rw [receiveHost_of_unmapped env socket hp hpeer (Bool.eq_false_of_not_eq_true hraw)] at h
    cases h

/-- Handling what arrived keeps what neither the file lists nor the threads nor the standing of a
record enter. -/
theorem map_listPeers_receiveHost {α : Type} (g : UDTPPeer → α) {env : Environment}
    {contents : Contents} {packetDeduction : UDTPPacketHeader} {socket : Socket} {i : ℕ}
    {u u' : UDTP} {sent : List Sent}
    (h : receiveHost env contents packetDeduction socket i u = .ok (sent, u'))
    (hfiles : UDTPPeer.IgnoresFileLists g) (hthreads : UDTPPeer.IgnoresThreads g)
    (hstanding : UDTPPeer.IgnoresStanding g) :
    u'.listPeers.map g = u.listPeers.map g := by
  rcases receiveHost_cases h with ⟨-, -, rfl⟩ | ⟨p, peer, b, q, -, -, hprocess, -⟩
  · rfl
  · exact map_listPeers_process g hprocess hfiles hthreads hstanding

/-- Receiving a packet keeps sockets and unique IDs of all records. -/
theorem receiveHost_identity {env : Environment} {contents : Contents}
    {packetDeduction : UDTPPacketHeader} {socket : Socket} {i : ℕ} {u u' : UDTP}
    {sent : List Sent}
    (h : receiveHost env contents packetDeduction socket i u = .ok (sent, u')) :
    u'.listPeers.map UDTPPeer.identity = u.listPeers.map UDTPPeer.identity :=
  map_listPeers_receiveHost _ h (fun _ _ _ => rfl) (fun _ _ _ _ _ _ => rfl) (fun _ _ _ => rfl)

/-- Handling what arrived gives out no number. -/
theorem receiveHost_uniqueIDCount {env : Environment} {contents : Contents}
    {packetDeduction : UDTPPacketHeader} {socket : Socket} {i : ℕ} {u u' : UDTP}
    {sent : List Sent}
    (h : receiveHost env contents packetDeduction socket i u = .ok (sent, u')) :
    u'.uniqueIDCount = u.uniqueIDCount := by
  rcases receiveHost_cases h with ⟨-, -, rfl⟩ | ⟨p, peer, b, q, -, -, hprocess, -⟩
  · rfl
  · rw [process_frame hprocess]

/-- Arriving data that are no handshake keep which records are online and what they have
recorded. -/
theorem receiveHost_standing {env : Environment} {contents : Contents}
    {packetDeduction : UDTPPacketHeader} {socket : Socket} {i : ℕ} {u u' : UDTP}
    {sent : List Sent} (htype : packetDeduction.packetType ≠ .handshake)
    (h : receiveHost env contents packetDeduction socket i u = .ok (sent, u')) :
    u'.listPeers.map UDTPPeer.standing = u.listPeers.map UDTPPeer.standing := by
  rcases receiveHost_cases h with ⟨-, -, rfl⟩ | ⟨p, peer, b, q, hp, -, hprocess, -⟩
  · rfl
  apply process_standing hprocess
  intro hs heq
  cases p with
  | handshake hs' =>
    unfold construct at hp
    split at hp <;> simp_all
  | header _ => cases heq
  | path _ => cases heq
  | acknowledge _ => cases heq

/-- Receiving a packet fills no queue of flow threads. -/
theorem receiveHost_flowThreads {env : Environment} {contents : Contents}
    {packetDeduction : UDTPPacketHeader} {socket : Socket} {i : ℕ} {u u' : UDTP}
    {sent : List Sent}
    (h : receiveHost env contents packetDeduction socket i u = .ok (sent, u'))
    (hu : ∀ r ∈ u.listPeers, r.flowThreads = []) : ∀ r ∈ u'.listPeers, r.flowThreads = [] := by
  rcases receiveHost_cases h with ⟨-, -, rfl⟩ | ⟨p, peer, b, q, -, -, hprocess, -⟩
  · exact hu
  · exact process_flowThreads hprocess hu

end Udtp
