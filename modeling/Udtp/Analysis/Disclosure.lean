import Udtp.Analysis.Answers
import Udtp.Analysis.HandshakeOverrun
import Udtp.Model.Stream

/-!
# What a handshake gives away

A handshake that arrives is answered by the same object, and `send()` takes as many bytes of
`_raw` as the header announced that came with it.  `pack()` writes the first of them, twenty at
most.  How many there are is for the peer to say, and as long as they do not fill more than the
object that unpacks them, all the others are what the buffer held before (`handshakes_disclose`).
Only the greeting of a new connection consists of bytes that `pack()` wrote.
-/

set_option autoImplicit false

namespace Udtp

open AccessTrace LittleEndian StepMachine

namespace UDTPHandshake

/-- Sent when a connection is accepted: the header and the first bytes of the data. -/
def Greets (h : UDTPHandshake) : Prop :=
  h.sentBytes = (h.header.toBytes ++ h.data.toBytes).take UDTPHandShakeData.sizeOf

/-- Sent back: as many bytes as were asked for, and past the ones `pack()` wrote those that the
buffer of the arrived packet held, if `unpack()` had room for it. -/
structure Echoes (read : ReadAnswer) (h : UDTPHandshake) : Prop where
  type : read.packetDeduction.packetType = .handshake
  length : h.sentBytes.length = read.packetDeduction.packetSize.toNat
  rest : read.packetDeduction.packetSize.toNat ≤ roomInObject →
    h.sentBytes.drop (packedSize h.responseCode) =
      (load read.contents.handshake.raw 0 read.packetDeduction.packetSize.toNat).drop
        (packedSize h.responseCode)

variable {env : Environment} {h : UDTPHandshake}

/-! ## The bytes `pack()` writes -/

/-- `pack()` assigns the bytes of its packet and none behind them. -/
theorem mem_assigned_pack {k : ℕ} (hk : HandshakeByte.raw k ∈ assigned h.packAccesses) :
    k < packedSize h.responseCode := by
  unfold packAccesses at hk
  cases hcode : h.responseCode with
  | responseStart =>
    have hsize : packedSize .responseStart = 20 := rfl
    have hparts : k < 8 ∨ 8 ≤ k ∧ k < 8 + 12 := by
      simpa [hcode, copyHeaderAccesses, copyDataAccesses, UDTPPacketHeader.sizeOf,
        UDTPHandShakeData.sizeOf] using hk
    omega
  | responseNone =>
    have hsize : packedSize .responseNone = 20 := rfl
    have hparts : k < 8 ∨ 8 ≤ k ∧ k < 8 + 12 := by
      simpa [hcode, copyHeaderAccesses, copyDataAccesses, UDTPPacketHeader.sizeOf,
        UDTPHandShakeData.sizeOf] using hk
    omega
  | responseApproved =>
    simpa [hcode, copyHeaderAccesses, UDTPPacketHeader.sizeOf, packedSize] using hk
  | responseCriticalError =>
    simpa [hcode, copyHeaderAccesses, UDTPPacketHeader.sizeOf, packedSize] using hk
  | _ => simp [hcode] at hk

/-- Behind the packed part `pack()` changes nothing. -/
theorem drop_load_pack (env : Environment) (h : UDTPHandshake) (size : ℕ) :
    (load (h.pack env).2.raw 0 size).drop (packedSize h.responseCode) =
      (load h.raw 0 size).drop (packedSize h.responseCode) := by
  apply List.ext_getElem (by simp)
  intro k h₁ h₂
  have hbehind : HandshakeByte.raw (packedSize h.responseCode + k) ∉ assigned h.packAccesses := by
    intro hassigned
    have hlt := mem_assigned_pack hassigned
    omega
  simpa [load] using pack_raw_of_not_assigned env h hbehind

/-! ## The greeting -/

/-- The handshake a new peer is sent is a greeting. -/
theorem handshakeStart_greets (env : Environment) (answer : AcceptAnswer) (socket : Socket)
    (peerID : ℕ) (uniqueID : UInt32) :
    (handshakeStart env answer socket peerID uniqueID).Greets := by
  obtain ⟨h, hstart, hsize⟩ : ∃ h : UDTPHandshake,
      handshakeStart env answer socket peerID uniqueID = h.copyHeader.copyData ∧
        h.header.packetSize.toNat = UDTPHandShakeData.sizeOf := ⟨_, rfl, rfl⟩
  obtain ⟨hheader, hdata⟩ := h.load_copied
  have hsplit : load h.copyHeader.copyData.raw 0 UDTPHandShakeData.sizeOf =
      (load h.copyHeader.copyData.raw 0 UDTPPacketHeader.sizeOf ++
        load h.copyHeader.copyData.raw UDTPPacketHeader.sizeOf UDTPHandShakeData.sizeOf).take
          UDTPHandShakeData.sizeOf := rfl
  have hsame : h.copyHeader.copyData.header = h.header ∧ h.copyHeader.copyData.data = h.data :=
    ⟨rfl, rfl⟩
  rw [hstart, Greets, sentBytes, hsame.1, hsame.2, hsize, hsplit, hheader, hdata]

/-! ## The answer -/

/-- An answered handshake carries the bytes of the object that arrived. -/
theorem echoes_of_process {read : ReadAnswer} {socket : Socket} {i : ℕ} {uniqueID : UInt32}
    {u u' : UDTP} {p : Packet} {b : Bool}
    (hobject : construct read.contents read.packetDeduction = some p)
    (hprocess : process env u (setHostFields socket i uniqueID p) = .ok (b, .handshake h, u')) :
    h.Echoes read := by
  have htype : p.type = .handshake := by
    have hfields : (setHostFields socket i uniqueID p).type = p.type := by
      cases p <;> rfl
    rw [← hfields, ← process_type hprocess]
    rfl
  rw [type_of_construct hobject] at htype
  unfold construct at hobject
  rw [htype] at hobject
  cases hobject
  obtain ⟨b', h', hrespond, -, heq⟩ := process_handshake hprocess
  cases heq
  -- between the arrival and `pack()` the header stays, and `_raw` where `_data` is not overrun
  have hheader : h'.header = read.packetDeduction := by
    rw [respond_packet hrespond, setResponseCode, unpack_toUDTPPacket]
    rfl
  have hraw : read.packetDeduction.packetSize.toNat ≤ roomInObject →
      h'.raw = read.contents.handshake.raw := by
    intro hroom
    rw [respond_packet hrespond, setResponseCode, unpack_toUDTPPacket]
    exact fillData_raw hroom
  have hafter : (h'.pack env).2.header = read.packetDeduction ∧
      (h'.pack env).2.responseCode = h'.responseCode := by
    rw [pack_toUDTPPacket]
    exact ⟨hheader, rfl⟩
  refine ⟨htype, ?_, ?_⟩
  · rw [sentBytes, load_length, hafter.1]
  · intro hroom
    rw [sentBytes, hafter.1, hafter.2, drop_load_pack, hraw hroom]

end UDTPHandshake

/-- Forgetting its position leaves a handshake its bytes. -/
theorem handshake_of_unplaced {q : Packet} {h : UDTPHandshake}
    (hq : q.unplaced = .handshake h) :
    ∃ g : UDTPHandshake, q = .handshake g ∧ h.raw = g.raw ∧ h.header = g.header ∧
      h.data = g.data ∧ h.responseCode = g.responseCode := by
  cases q with
  | handshake g =>
    cases hq
    exact ⟨g, rfl, rfl, rfl, rfl, rfl⟩
  | header g => cases hq
  | path g => cases hq
  | acknowledge g => cases hq

namespace HostLoop

variable {s t : HostLoop} {input : HostInput} {c : ℕ}

/-- Where a handshake that was sent on a connection comes from. -/
def Discloses (events : List ConnectionEvent) (h : UDTPHandshake) : Prop :=
  (h.Greets ∧ ∃ env answer, ConnectionEvent.accepted env answer ∈ events) ∨
    ∃ env read, ConnectionEvent.packet env read ∈ events ∧ h.Echoes read

/-- More events disclose no less. -/
theorem Discloses.mono {events later : List ConnectionEvent} {h : UDTPHandshake}
    (hd : Discloses events h) (hsubset : events ⊆ later) : Discloses later h := by
  rcases hd with ⟨hgreets, env, answer, hmem⟩ | ⟨env, read, hmem, hechoes⟩
  · exact Or.inl ⟨hgreets, env, answer, hsubset hmem⟩
  · exact Or.inr ⟨env, read, hsubset hmem, hechoes⟩

/-- What a step sends comes from the event of the step. -/
theorem discloses_of_sends {event : Option ConnectionEvent} {packets : List Packet}
    (hsends : Sends c event packets) {h : UDTPHandshake} (hh : Packet.handshake h ∈ packets) :
    Discloses event.toList h := by
  cases hsends with
  | quiet => cases hh
  | unanswered env read => cases hh
  | disconnect => cases hh
  | accepted env answer =>
    obtain ⟨g, hg, hraw, hheader, hdata, -⟩ :=
      handshake_of_unplaced (List.mem_singleton.mp hh).symm
    cases hg
    have hgreets := UDTPHandshake.handshakeStart_greets env answer
      ⟨UInt32.ofInt answer.result, c⟩ 0 (UInt32.ofNat c)
    refine Or.inl ⟨?_, env, answer, List.mem_singleton_self _⟩
    rw [UDTPHandshake.Greets, UDTPHandshake.sentBytes, hraw, hheader, hdata]
    exact hgreets
  | answered env read socket i uniqueID u u' p q hobject hprocess =>
    obtain ⟨g, rfl, hraw, hheader, -, hcode⟩ :=
      handshake_of_unplaced (List.mem_singleton.mp hh).symm
    have hechoes := UDTPHandshake.echoes_of_process hobject hprocess
    refine Or.inr ⟨env, read, List.mem_singleton_self _, hechoes.type, ?_, ?_⟩
    · rw [UDTPHandshake.sentBytes, hraw, hheader]
      exact hechoes.length
    · rw [UDTPHandshake.sentBytes, hraw, hheader, hcode]
      exact hechoes.rest

/-- **What the handshakes give away.** In every run of a HOST, each handshake it sends on a
connection is the greeting, all of whose bytes were written for it, or goes back for a handshake
that arrived there: then it has as many bytes as the arrived header said, and if these are no more
than sixteen, those behind the ones that were packed are what the buffer held. -/
theorem handshakes_disclose {u : UDTP} (hu : u.Started .host) {ins : List HostInput}
    (hrun : run u ins = .ok s) (c : ℕ) :
    ∀ h, Packet.handshake h ∈ s.sentOn c →
      Discloses (events HostLoop.step (connectionEvent c) (new u) ins) h := by
  refine run_induction HostLoop.step (new u)
    (P := fun ins s => ∀ h, Packet.handshake h ∈ s.sentOn c →
      Discloses (events HostLoop.step (connectionEvent c) (new u) ins) h) ?_ ?_ ins s hrun
  · intro h hh
    cases hh
  · intro ins t input v hrun ih hstep h hh
    rw [events_snoc HostLoop.step (connectionEvent c) hrun hstep]
    obtain ⟨packets, hsends, hsent⟩ := step_sends (run_aligned hu hrun) (run_numbered hu hrun) hstep
    rw [hsent] at hh
    rcases List.mem_append.mp hh with hold | hnew
    · exact (ih h hold).mono (List.subset_append_left _ _)
    · exact (discloses_of_sends hsends hnew).mono (List.subset_append_right _ _)

/-- Twelve bytes of settings behind a header that announces sixteen. -/
def padded : ReadAnswer :=
  { ReadAnswer.settings 1 420 with packetDeduction := ⟨16, 0, .handshake⟩ }

/-- The approval of the settings is sixteen bytes long, of which eight were packed. -/
theorem handshakes_disclose_padded :
    ∃ s h, run (UDTP.startedIn .host) (List.replicate 5 .connecting ++
        List.replicate 3 (.reading padded)) = .ok s ∧
      Packet.handshake h ∈ s.sentOn 1 ∧ h.sentBytes.length = 16 ∧
      Discloses (events HostLoop.step (connectionEvent 1) (new (UDTP.startedIn .host))
        (List.replicate 5 .connecting ++ List.replicate 3 (.reading padded))) h := by
  obtain ⟨s, g, h, hrun, hsent, hlength⟩ : ∃ s g h, run (UDTP.startedIn .host)
      (List.replicate 5 .connecting ++ List.replicate 3 (.reading padded)) = .ok s ∧
      s.sentOn 1 = [g, Packet.handshake h] ∧ h.sentBytes.length = 16 :=
    ⟨_, _, _, rfl, rfl, by rw [UDTPHandshake.sentBytes, load_length]; rfl⟩
  have hmem : Packet.handshake h ∈ s.sentOn 1 := by simp [hsent]
  exact ⟨s, h, hrun, hmem, hlength,
    handshakes_disclose (UDTP.startedIn_started .host) hrun 1 h hmem⟩

end HostLoop

end Udtp
