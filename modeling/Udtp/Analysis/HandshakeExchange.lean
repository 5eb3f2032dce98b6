import Udtp.Analysis.ExchangeSteps

/-!
# The handshake between two ends

An end that receives `ResponseStart` answers with `ResponseNone` and fills in its settings.
The code that travels is the one in the data, though, and only the `ResponseStart` branch
of `pack()` writes that: the answer carries the settings under the code it was asked
with.  So the ends ask each other forever (`run_asking`), and no handshake is recorded or
refused, whatever the settings are.
-/

set_option autoImplicit false

namespace Udtp

open LittleEndian StepMachine

namespace UDTPHandshake

/-- A handshake whose bytes ask the other end to start. -/
structure Asks (h : UDTPHandshake) : Prop where
  packetType : (UDTPPacketHeader.ofBytes
    (load h.raw 0 UDTPPacketHeader.sizeOf)).packetType = .handshake
  packetSize : UDTPHandShakeData.sizeOf ≤
    (UDTPPacketHeader.ofBytes (load h.raw 0 UDTPPacketHeader.sizeOf)).packetSize.toNat
  responseCode : ResponseCode.ofValue (UDTPHandShakeData.ofBytes
    (load h.raw UDTPPacketHeader.sizeOf UDTPHandShakeData.sizeOf)).responseCode = .responseStart

/-- A handshake that arrives with `ResponseStart` in its data asks for an answer. -/
theorem asks_of_copied {h : UDTPHandshake} (htype : h.header.packetType = .handshake)
    (hsize : UDTPHandShakeData.sizeOf ≤ h.header.packetSize.toNat)
    (hcode : ResponseCode.ofValue h.data.responseCode = .responseStart) :
    Asks h.copyHeader.copyData := by
  have hheader : UDTPPacketHeader.ofBytes (load h.copyHeader.copyData.raw 0
      UDTPPacketHeader.sizeOf) = h.header := by
    rw [(load_copied h).1, UDTPPacketHeader.ofBytes_toBytes _ (by rw [htype]; rfl)]
  exact {
    packetType := hheader ▸ htype
    packetSize := hheader ▸ hsize
    responseCode := by rw [(load_copied h).2, UDTPHandShakeData.ofBytes_toBytes, hcode] }

/-- The handshake a new peer is sent asks for an answer. -/
theorem handshakeStart_asks (env : Environment) (answer : AcceptAnswer) (socket : Socket)
    (posID : ℕ) (uniqueID : UInt32) : Asks (handshakeStart env answer socket posID uniqueID) :=
  asks_of_copied rfl (Nat.le_refl UDTPHandShakeData.sizeOf) rfl

/-- An end that is asked asks back, and changes nothing. -/
theorem process_of_start (env : Environment) (u : UDTP) {h : UDTPHandshake}
    (htype : h.header.packetType = .handshake)
    (hsize : UDTPHandShakeData.sizeOf ≤ h.header.packetSize.toNat)
    (hcode : h.decode.responseCode = .responseStart) :
    ∃ h', process env u (.handshake h) = .ok (true, .handshake h', u) ∧ Asks h' := by
  have hunpack : h.unpack = (true, h.decode) := by
    unfold unpack
    rw [hcode]
  have hrespond :
      h.decode.respond env u = .ok (true, h.decode.setResponseCode .responseNone, u) := by
    unfold respond
    rw [hcode]
  refine ⟨((h.decode.setResponseCode .responseNone).pack env).2, ?_, ?_⟩
  · simp only [process, Packet.unpack, Packet.respond, hunpack, hrespond, Except.map, Packet.pack,
      resends_resendCheck, Bool.true_or]
  · -- the data keep the code they were received with
    exact asks_of_copied htype hsize hcode

end UDTPHandshake

namespace Exchange

variable {hostEnd peerEnd : EndPoint} {x y : Exchange}

/-- The packet on the wire asks the receiving end to start. -/
def Asking (x : Exchange) : Prop := ∃ h, x.wire = some (.handshake h) ∧ h.Asks

/-- A handshake that asks becomes an object at the other end that asks back. -/
theorem asks_back {h : UDTPHandshake} (hasks : h.Asks) (memory : Contents) (toHost : Bool)
    (socket : Socket) (posID : ℕ) (uniqueID : UInt32) (env : Environment) (u : UDTP) :
    ∃ q, construct ((Packet.handshake h).arrive memory) (Packet.handshake h).packetDeduction =
        some q ∧ q.rawReadable ((Packet.handshake h).arrive memory) = true ∧
      ∃ h', process env u (setFields toHost socket posID uniqueID q) =
        .ok (true, .handshake h', u) ∧ h'.Asks := by
  have hq : construct ((Packet.handshake h).arrive memory) (Packet.handshake h).packetDeduction =
      some (.handshake (UDTPHandshake.ofHeader ((Packet.handshake h).arrive memory).handshake
        (Packet.handshake h).packetDeduction)) := by
    unfold construct
    rw [show (Packet.handshake h).packetDeduction.packetType = .handshake from hasks.packetType]
  obtain ⟨object, hobject, hheader, hraw⟩ : ∃ object, setFields toHost socket posID uniqueID
      (.handshake (UDTPHandshake.ofHeader ((Packet.handshake h).arrive memory).handshake
        (Packet.handshake h).packetDeduction)) = .handshake object ∧
      object.header = (Packet.handshake h).packetDeduction ∧
      object.raw = skip h.raw UDTPPacketHeader.sizeOf := by
    unfold setFields
    split
    · exact ⟨_, rfl, rfl, rfl⟩
    · exact ⟨_, rfl, rfl, rfl⟩
  have hsize : UDTPHandShakeData.sizeOf ≤ object.header.packetSize.toNat :=
    hheader ▸ hasks.packetSize
  have hcode : object.decode.responseCode = .responseStart := by
    rw [UDTPHandshake.decode_responseCode, UDTPHandshake.fillData_of_fills _ hsize, hraw, load_skip]
    exact hasks.responseCode
  refine ⟨_, hq, rfl, ?_⟩
  rw [hobject]
  exact UDTPHandshake.process_of_start env u (hheader ▸ hasks.packetType) hsize hcode

/-- A delivery of a handshake that asks puts one that asks on the wire, and changes neither end. -/
theorem Asking.deliver (hx : x.Asking) {input : Delivery}
    (h : deliver hostEnd peerEnd x input = .ok y) :
    y.Asking ∧ y.host = x.host ∧ y.peer = x.peer ∧ y.posID = x.posID := by
  obtain ⟨hs, hwire, hasks⟩ := hx
  obtain ⟨q, hq, -⟩ := asks_back hasks input.memory x.toHost x.socket x.posID 0
    ((x.receiverEnd hostEnd peerEnd).environment input) x.receiver
  obtain ⟨socket, uniqueID, b, r, u, hprocess, rfl⟩ := deliver_cases hwire hq h
  obtain ⟨q', hq', -, h', hprocess', hasks'⟩ := asks_back hasks input.memory x.toHost socket
    x.posID uniqueID ((x.receiverEnd hostEnd peerEnd).environment input) x.receiver
  obtain rfl : q = q' := Option.some.inj (hq.symm.trans hq')
  rw [hprocess'] at hprocess
  cases hprocess
  refine ⟨⟨h', by simp, hasks'⟩, ?_⟩
  cases hto : x.toHost <;> simp [answered, receiver, hto]

/-- Connected ends deliver a handshake that asks. -/
theorem Asking.delivers (hx : x.Asking) (hconnected : x.Connected) (input : Delivery) :
    ∃ y, Exchange.deliver hostEnd peerEnd x input = .ok y := by
  obtain ⟨hs, hwire, hasks⟩ := hx
  obtain ⟨q, hq, hraw, -⟩ := asks_back hasks input.memory x.toHost x.socket x.posID 0
    ((x.receiverEnd hostEnd peerEnd).environment input) x.receiver
  refine hconnected.deliver_ok hwire hq hraw ?_
  intro socket uniqueID
  obtain ⟨q', hq', -, h', hprocess, -⟩ := asks_back hasks input.memory x.toHost socket x.posID
    uniqueID ((x.receiverEnd hostEnd peerEnd).environment input) x.receiver
  obtain rfl : q = q' := Option.some.inj (hq.symm.trans hq')
  exact ⟨_, hprocess⟩

/-- **The ends ask each other forever.** However many handshakes are delivered, another one
is on the wire, and neither end has changed. -/
theorem run_asking (hx : x.Asking) {inputs : List Delivery}
    (h : run hostEnd peerEnd x inputs = .ok y) :
    y.Asking ∧ y.host = x.host ∧ y.peer = x.peer ∧ y.posID = x.posID := by
  refine run_preserves (deliver hostEnd peerEnd)
    (fun y => y.Asking ∧ y.host = x.host ∧ y.peer = x.peer ∧ y.posID = x.posID)
    ?_ ⟨hx, rfl, rfl, rfl⟩ h
  rintro z input w ⟨hz, hhost, hpeer, hpos⟩ hdeliver
  obtain ⟨hw, hhost', hpeer', hpos'⟩ := hz.deliver hdeliver
  exact ⟨hw, hhost'.trans hhost, hpeer'.trans hpeer, hpos'.trans hpos⟩

/-- Between connected ends such an exchange never faults. -/
theorem run_asking_total (hx : x.Asking) (hconnected : x.Connected) (inputs : List Delivery) :
    ∃ y, run hostEnd peerEnd x inputs = .ok y := by
  have hnext : ∀ z, ∀ input ∈ inputs, z.Asking ∧ z.Connected →
      ∃ w, Exchange.deliver hostEnd peerEnd z input = .ok w ∧ w.Asking ∧ w.Connected := by
    rintro z input - ⟨hz, hzconnected⟩
    obtain ⟨w, hw⟩ := hz.delivers hzconnected input
    obtain ⟨hasking, hhost, hpeer, hpos⟩ := hz.deliver hw
    exact ⟨w, hw, hasking, by rwa [Connected, hhost, hpeer, hpos]⟩
  obtain ⟨y, hrun, -⟩ := run_total _ _ inputs hnext ⟨hx, hconnected⟩
  exact ⟨y, hrun⟩

/-- An exchange that begins with an accepted connection has a handshake that asks on the wire. -/
theorem ofAccept_asking (hostEnd : EndPoint) (first : Delivery) (answer : AcceptAnswer)
    (socket : Socket) (host peer : UDTP) :
    (ofAccept hostEnd first answer socket host peer).Asking :=
  ⟨_, rfl, UDTPHandshake.handshakeStart_asks _ _ _ _ _⟩

/-- **The handshake of a new peer goes on forever.** Any number of packets is delivered, after
each of them another one is on the wire, and the HOST's record of the peer stays as it was
accepted: online, with no handshake recorded. -/
theorem handshake_goes_on (hostEnd peerEnd : EndPoint) (first : Delivery) (answer : AcceptAnswer)
    (socket : Socket) (host : UDTP) {peer : UDTP} (hpeer : peer.Started .peer)
    (inputs : List Delivery) :
    ∃ y, run hostEnd peerEnd (ofAccept hostEnd first answer socket host peer) inputs = .ok y ∧
      y.Asking ∧ y.peer = peer ∧ ∃ p, y.host.getPeer y.posID = some p ∧
        p.checkInitProcess .handshake = false ∧ p.isOnline = true := by
  obtain ⟨selfPeer, hfresh⟩ := hpeer.fresh
  have haccepted : (host.acceptPeer answer socket).2.getPeer (host.acceptPeer answer socket).1 =
      some (acceptedPeer answer socket (host.uniqueIDCount + 1)) := by
    simp [UDTP.acceptPeer_eq, UDTP.getPeer]
  have hasking := ofAccept_asking hostEnd first answer socket host peer
  have hself : peer.getPeer 0 = some selfPeer := by simp [UDTP.getPeer, hfresh.listPeers]
  obtain ⟨y, hrun⟩ : ∃ y, run hostEnd peerEnd (ofAccept hostEnd first answer socket host peer)
      inputs = .ok y := run_asking_total hasking ⟨⟨_, haccepted⟩, _, hself⟩ inputs
  obtain ⟨hy, hhost, hpeer', hpos⟩ := run_asking hasking hrun
  refine ⟨y, hrun, hy, hpeer', _, by rw [hhost, hpos]; exact haccepted, ?_, ?_⟩
  · simp
  · simp

/-- The settings of the two ends agree: equal versions, and the PEER's chunk size within the
bounds of the HOST. -/
def SettingsAgree (hostSetup peerSetup : UDTPSetup) : Prop :=
  peerSetup.version = hostSetup.version ∧
    hostSetup.minChunkSize ≤ peerSetup.chunkSizeAgreement ∧
    peerSetup.chunkSizeAgreement ≤ hostSetup.maxChunkSize

/-- The outcome of a handshake: both ends recorded it, and the PEER is online. -/
def Accepted (x : Exchange) : Prop :=
  (∃ p, x.host.getPeer x.posID = some p ∧ p.checkInitProcess .handshake = true ∧
    p.isOnline = true) ∧
  ∃ q, x.peer.getPeer 0 = some q ∧ q.checkInitProcess .handshake = true

/-- The other outcome: neither end recorded it, and the PEER is offline. -/
def Refused (x : Exchange) : Prop :=
  (∃ p, x.host.getPeer x.posID = some p ∧ p.checkInitProcess .handshake = false ∧
    p.isOnline = false) ∧
  ∃ q, x.peer.getPeer 0 = some q ∧ q.checkInitProcess .handshake = false

/-- After finitely many deliveries nothing is left to deliver, and the outcome is the one
the settings ask for. -/
def HandshakeSettles (hostEnd peerEnd : EndPoint) (x : Exchange) (inputs : ℕ → Delivery) : Prop :=
  ∃ n y, run hostEnd peerEnd x ((List.range n).map inputs) = .ok y ∧ y.wire = none ∧
    (SettingsAgree hostEnd.setup peerEnd.setup → y.Accepted) ∧
    (¬ SettingsAgree hostEnd.setup peerEnd.setup → y.Refused)

/-- An exchange of handshakes that ask never settles. -/
theorem Asking.not_settles (hx : x.Asking) (inputs : ℕ → Delivery) :
    ¬ HandshakeSettles hostEnd peerEnd x inputs := by
  rintro ⟨n, y, hrun, hnone, -⟩
  obtain ⟨⟨h, hwire, -⟩, -⟩ := run_asking hx hrun
  rw [hnone] at hwire
  cases hwire

/-- **No handshake settles.** For no settings of the two ends does the exchange that begins
with an accepted connection come to an end. -/
theorem handshake_never_settles (hostEnd peerEnd : EndPoint) (first : Delivery)
    (answer : AcceptAnswer) (socket : Socket) (host peer : UDTP) (inputs : ℕ → Delivery) :
    ¬ HandshakeSettles hostEnd peerEnd (ofAccept hostEnd first answer socket host peer) inputs :=
  (ofAccept_asking hostEnd first answer socket host peer).not_settles inputs

/-- Both ends have the default settings and cleared memory. -/
theorem default_handshake_not_settles :
    ¬ HandshakeSettles ⟨.defaults, default⟩ ⟨.defaults, default⟩
      (ofAccept ⟨.defaults, default⟩ default default ⟨4, 1⟩ (UDTP.startedIn .host)
        (UDTP.startedIn .peer)) fun _ => default :=
  (ofAccept_asking _ _ _ _ _ _).not_settles _

end Exchange

end Udtp
