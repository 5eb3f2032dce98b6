import Udtp.Computation.StepMachine
import Udtp.Model.HandshakeMemory

/-!
# Handshakes and the ends of their buffers

A handshake that arrives has as many bytes behind `_raw` as its header announces, and the
same object is sent back.  `unpack()` copies those bytes to `_data`, whose size is fixed;
`pack()` writes a header and `_data`, which together are longer than what arrived.
`buffers_iff` says for every header and body which objects go through the three methods
without an access behind the end of a buffer or to a field that was not filled.  Handshakes
that are made here are given room for both parts, and keep to it under any calls.
-/

set_option autoImplicit false

namespace Udtp

open AccessTrace LittleEndian StepMachine

/-- A byte of `_data`, or one of the bytes that were allocated behind `_raw`. -/
def HandshakeByte.Exists (allocated : ℕ) : HandshakeByte → Prop
  | raw k => k < allocated
  | data k => k < UDTPHandShakeData.sizeOf

namespace UDTPHandshake

variable {allocated : ℕ} {h : UDTPHandshake} {env : Environment}

/-- The bytes behind `_raw`, which `recv()` or nobody filled. -/
def rawBytes : Set HandshakeByte := {b | ∃ k, b = .raw k}

/-- A call keeps to the buffers; and `unpack()` fills every field of `_data` it reads. -/
structure KeepsBuffers (allocated : ℕ) (h : UDTPHandshake) (c : HandshakeCall) : Prop where
  within : Within (HandshakeByte.Exists allocated) (h.accesses c)
  filled : c = .unpack → AssignedFirst rawBytes (h.accesses c)

/-- Every call of a sequence keeps to the buffers. -/
def NeverOverrun (allocated : ℕ) (h : UDTPHandshake) (cs : List HandshakeCall) : Prop :=
  ∀ g c, Takes call h cs g c → KeepsBuffers allocated g c

/-! ## The accesses of the methods -/

/-- A span of the buffer is inside iff it ends inside the allocation. -/
theorem within_raw {access : HandshakeByte → Access HandshakeByte}
    (haccess : ∀ i, (access i).location = i) {offset length : ℕ} (hlength : 0 < length) :
    Within (HandshakeByte.Exists allocated) (span access .raw offset length) ↔
      offset + length ≤ allocated :=
  within_span haccess (fun _ => Iff.rfl) hlength

/-- A span of the data is inside iff it ends inside the struct. -/
theorem within_data {access : HandshakeByte → Access HandshakeByte}
    (haccess : ∀ i, (access i).location = i) {offset length : ℕ} (hlength : 0 < length) :
    Within (HandshakeByte.Exists allocated) (span access .data offset length) ↔
      offset + length ≤ UDTPHandShakeData.sizeOf :=
  within_span haccess (fun _ => Iff.rfl) hlength

/-- Copying the header is inside iff eight bytes are allocated. -/
theorem within_copyHeader :
    Within (HandshakeByte.Exists allocated) copyHeaderAccesses ↔ 8 ≤ allocated :=
  (within_raw (fun _ => rfl) (by decide)).trans (by rw [Nat.zero_add, UDTPPacketHeader.sizeOf])

/-- Copying the data is inside iff twenty bytes are allocated. -/
theorem within_copyData :
    Within (HandshakeByte.Exists allocated) copyDataAccesses ↔ 20 ≤ allocated := by
  rw [copyDataAccesses, within_append, within_data (fun _ => rfl) (by decide),
    within_raw (fun _ => rfl) (by decide)]
  simp [UDTPPacketHeader.sizeOf, UDTPHandShakeData.sizeOf]

/-- What `pack()` needs behind `_raw`: a header and the data, or a header, or nothing. -/
def packedSize (code : ResponseCode) : ℕ :=
  match code with
  | .responseStart => 20
  | .responseNone => 20
  | .responseApproved => 8
  | .responseCriticalError => 8
  | _ => 0

/-- `pack()` keeps to the buffers iff the packet it writes was allocated. -/
theorem keepsBuffers_pack :
    KeepsBuffers allocated h (.pack env) ↔ packedSize h.responseCode ≤ allocated := by
  have hdata : ∀ offset length, 0 < length → offset + length ≤ UDTPHandShakeData.sizeOf →
      Within (HandshakeByte.Exists allocated) (span .assign .data offset length) :=
    fun offset length hpos hle => (within_data (fun _ => rfl) hpos).mpr hle
  have hcode := hdata 0 4 (by omega) (by decide)
  have hagreement := hdata 8 2 (by omega) (by decide)
  have hversion := hdata 4 2 (by omega) (by decide)
  have hwithin : KeepsBuffers allocated h (.pack env) ↔
      Within (HandshakeByte.Exists allocated) h.packAccesses :=
    ⟨fun hk => hk.within, fun hk => ⟨hk, fun hc => by cases hc⟩⟩
  rw [hwithin]
  unfold packAccesses packedSize
  cases h.responseCode with
  | responseStart =>
    simp only [within_append, within_copyHeader, within_copyData, hcode, true_and]
    omega
  | responseNone =>
    simp only [within_append, within_copyHeader, within_copyData, hagreement, hversion, true_and]
    omega
  | responseApproved => exact within_copyHeader
  | responseCriticalError => exact within_copyHeader
  | _ => exact iff_of_true within_nil (Nat.zero_le allocated)

/-- `respond()` touches no buffer. -/
theorem keepsBuffers_respond (u : UDTP) : KeepsBuffers allocated h (.respond env u) :=
  ⟨within_nil, fun hc => by cases hc⟩

/-- How many bytes `unpack()` must have copied to fill what it reads. -/
def readSize (code : ResponseCode) : ℕ := if code = .responseNone then 10 else 4

/-- `unpack()` writes inside iff the packet is no longer than the data. -/
theorem within_unpack (hallocated : h.header.packetSize.toNat ≤ allocated) :
    Within (HandshakeByte.Exists allocated) h.unpackAccesses ↔
      h.header.packetSize.toNat ≤ UDTPHandShakeData.sizeOf := by
  have hfield : ∀ offset length, 0 < length → offset + length ≤ UDTPHandShakeData.sizeOf →
      Within (HandshakeByte.Exists allocated) (span .read .data offset length) :=
    fun offset length hpos hle => (within_data (fun _ => rfl) hpos).mpr hle
  have hfields : Within (HandshakeByte.Exists allocated)
      (readSettingsAccesses h.decode.responseCode) := by
    unfold readSettingsAccesses
    split
    · exact within_append.mpr
        ⟨hfield 4 2 (by omega) (by decide), hfield 8 2 (by omega) (by decide)⟩
    · exact within_nil
  rw [unpackAccesses, within_append, within_append, and_iff_left hfields,
    and_iff_left (hfield 0 4 (by omega) (by decide)), fillDataAccesses, within_append]
  by_cases hempty : h.header.packetSize.toNat = 0
  · simp [hempty, span]
  · have hpos : 0 < h.header.packetSize.toNat := Nat.pos_of_ne_zero hempty
    rw [within_raw (fun _ => rfl) hpos, within_data (fun _ => rfl) hpos, Nat.zero_add]
    exact and_iff_right hallocated

/-- A field of `_data` was filled iff the copy went beyond its end. -/
theorem filled_iff {size offset length : ℕ} (hlength : 0 < length) {A : Set HandshakeByte}
    (hA : ∀ k, HandshakeByte.data k ∈ A ↔ k < size) :
    AssignedFirst A (span .read .data offset length) ↔ offset + length ≤ size := by
  rw [assignedFirst_span_read, ← forall_span_iff hlength]
  simp only [hA]

/-- `unpack()` reads only data that were filled iff the packet is as long as what its code has
read. -/
theorem filled_unpack :
    AssignedFirst rawBytes h.unpackAccesses ↔
      readSize h.decode.responseCode ≤ h.header.packetSize.toNat := by
  have hraw : AssignedFirst rawBytes (span .read .raw 0 h.header.packetSize.toNat) :=
    assignedFirst_span_read.mpr fun k _ => ⟨k, rfl⟩
  have hcopied : ∀ k, HandshakeByte.data k ∈ rawBytes ∪ assigned h.fillDataAccesses ↔
      k < h.header.packetSize.toNat := by
    intro k
    simp [fillDataAccesses, rawBytes]
  have hread : ∀ offset length, 0 < length → (AssignedFirst
      (rawBytes ∪ assigned h.fillDataAccesses) (span .read .data offset length) ↔
        offset + length ≤ h.header.packetSize.toNat) :=
    fun offset length hpos => filled_iff hpos hcopied
  rw [unpackAccesses, assignedFirst_append, assignedFirst_append, assigned_append,
    assigned_span_read, Set.union_empty, hread 0 4 (by omega)]
  have hfill : AssignedFirst rawBytes h.fillDataAccesses := by simp [fillDataAccesses, hraw]
  rw [and_iff_right hfill]
  unfold readSize
  by_cases hcode : h.decode.responseCode = .responseNone
  · rw [hcode, if_pos rfl, readSettingsAccesses, assignedFirst_append, assigned_span_read,
      Set.union_empty, hread 4 2 (by omega), hread 8 2 (by omega)]
    omega
  · have hnone : readSettingsAccesses h.decode.responseCode = [] := by
      unfold readSettingsAccesses
      split
      · exact absurd ‹_› hcode
      · rfl
    rw [hnone, if_neg hcode]
    exact and_iff_left assignedFirst_nil

/-- `unpack()` keeps to the buffers iff the packet fills what is read and no more than the data. -/
theorem keepsBuffers_unpack (hallocated : h.header.packetSize.toNat ≤ allocated) :
    KeepsBuffers allocated h .unpack ↔
      readSize h.decode.responseCode ≤ h.header.packetSize.toNat ∧
        h.header.packetSize.toNat ≤ UDTPHandShakeData.sizeOf := by
  rw [← within_unpack hallocated, ← filled_unpack]
  exact ⟨fun hk => ⟨hk.filled rfl, hk.within⟩, fun hk => ⟨hk.2, fun _ => hk.1⟩⟩

/-! ## Handshakes that arrive -/

/-- The response code that the body of a handshake holds. -/
def bodyCode (raw : Memory) : ResponseCode :=
  ResponseCode.ofValue (UInt32.ofNat (leValue (load raw 0 4)))

/-- A copy that fills the response code takes it from the body. -/
theorem decode_responseCode_of_filled (hfilled : 4 ≤ h.header.packetSize.toNat) :
    h.decode.responseCode = bodyCode h.raw := by
  have hmin : 4 ≤ min h.header.packetSize.toNat UDTPHandShakeData.sizeOf := by
    rw [UDTPHandShakeData.sizeOf]
    omega
  have htake : ((load h.raw 0 (min h.header.packetSize.toNat UDTPHandShakeData.sizeOf)).drop 0).take
      4 = load h.raw (0 + 0) 4 := take_drop_load h.raw (by omega)
  rw [List.drop_zero] at htake
  rw [decode_responseCode, bodyCode]
  have hlength : 4 ≤ (load h.raw 0 (min h.header.packetSize.toNat
      UDTPHandShakeData.sizeOf)).length := by rw [load_length]; exact hmin
  simp only [fillData, UDTPHandShakeData.ofBytes, List.take_append_of_le_length hlength, htake]

/-- The object that arrives has room for its body, the body fills what is read of it, and the
answer is not longer than the body. -/
def FitsBuffers (size : ℕ) (code : ResponseCode) (u : UDTP) : Prop :=
  4 ≤ size ∧ size ≤ UDTPHandShakeData.sizeOf ∧
    match code with
    | .responseStart => False
    | .responseNone => 10 ≤ size
    | .responseApproved => u.listPeers ≠ [] → 8 ≤ size
    | .responseCriticalError => 8 ≤ size
    | _ => True

/-- What holds of every object after a call of `respond()` is what holds of the one it leaves. -/
theorem forall_responded {u v : UDTP} {b : Bool} {g : UDTPHandshake}
    (hr : h.respond env u = .ok (b, g, v)) (P : UDTPHandshake → Prop) :
    (∀ g', h.call (.respond env u) = .ok g' → P g') ↔ P g := by
  simp [call, hr, Except.map]

/-- After a call that does not return there is no object. -/
theorem forall_responded_of_error {u : UDTP} {fault : Fault}
    (hr : h.respond env u = .error fault) (P : UDTPHandshake → Prop) :
    ∀ g, h.call (.respond env u) = .ok g → P g := by
  simp [call, hr, Except.map]

/-- What `pack()` needs after `respond()` answered a handshake with a code. -/
theorem packedSize_respond {u : UDTP} (size : ℕ) :
    (∀ g, h.call (.respond env u) = .ok g → packedSize g.responseCode ≤ size) ↔
      match h.responseCode with
      | .responseStart => 20 ≤ size
      | .responseNone => (u.getPeer h.peerID).isSome = true → 8 ≤ size
      | .responseApproved => u.listPeers ≠ [] → 8 ≤ size
      | .responseCriticalError => 8 ≤ size
      | _ => True := by
  have hanswer : ∀ b (g : UDTPHandshake) v, h.respond env u = .ok (b, g, v) →
      ((∀ g', h.call (.respond env u) = .ok g' → packedSize g'.responseCode ≤ size) ↔
        packedSize g.responseCode ≤ size) :=
    fun b g v hr => forall_responded hr fun g' => packedSize g'.responseCode ≤ size
  cases hcode : h.responseCode with
  | responseStart => exact hanswer true (h.setResponseCode .responseNone) u (by rw [respond, hcode])
  | responseNone =>
    cases hpeer : u.getPeer h.peerID with
    | none =>
      have hfault : h.respond env u = .error .nullPeer := by simp [respond, hcode, hpeer]
      simpa using forall_responded_of_error hfault fun g => packedSize g.responseCode ≤ size
    | some p =>
      cases hsettings : h.compareSettings env.setup with
      | false =>
        rw [hanswer true (h.setResponseCode .responseCriticalError) _
          (by simp only [respond, hcode, hpeer, hsettings]; rfl)]
        simp [packedSize, setResponseCode]
      | true =>
        rw [hanswer true (h.setResponseCode .responseApproved) _
          (by simp only [respond, hcode, hpeer, hsettings]; rfl)]
        simp [packedSize, setResponseCode]
  | responseApproved =>
    cases hpeers : u.listPeers with
    | nil =>
      have hfault : h.respond env u = .error .indexOutOfRange := by simp [respond, hcode, hpeers]
      simpa using forall_responded_of_error hfault fun g => packedSize g.responseCode ≤ size
    | cons p peers =>
      rw [hanswer false h (u.modifyPeer 0 (UDTPPeer.setInitProcessComplete .handshake))
        (by simp only [respond, hcode, hpeers])]
      simp [packedSize, hcode]
  | responseCriticalError =>
    rw [hanswer false h u (by rw [respond, hcode])]
    simp [packedSize, hcode]
  | _ =>
    rw [hanswer false h u (by rw [respond, hcode])]
    simp [packedSize, hcode]

/-- The three calls keep to the buffers iff `unpack()` does and `pack()` has room for what
`respond()` made of the object. -/
theorem neverOverrun_life_iff (u : UDTP) :
    NeverOverrun allocated h [.unpack, .respond env u, .pack env] ↔
      KeepsBuffers allocated h .unpack ∧ ∀ g, h.unpack.2.call (.respond env u) = .ok g →
        packedSize g.responseCode ≤ allocated := by
  unfold NeverOverrun
  rw [forall_takes_cons]
  simp only [call, Except.ok.injEq, forall_eq', forall_takes_cons]
  constructor
  · rintro ⟨hunpack, -, hrest⟩
    exact ⟨hunpack, fun g hg => keepsBuffers_pack.mp (hrest g hg).1⟩
  · rintro ⟨hunpack, hpack⟩
    exact ⟨hunpack, keepsBuffers_respond u, fun g hg =>
      ⟨keepsBuffers_pack.mpr (hpack g hg), forall_takes_nil call _ (KeepsBuffers allocated)⟩⟩

/-- **A handshake that arrives** goes through its three methods without an overrun iff its body
fits: it fills what is read of it, is not longer than `_data`, and leaves room for the answer,
which the answer to a start never has. -/
theorem neverOverrun_received_iff (memory : UDTPHandshake) (header : UDTPPacketHeader)
    (env : Environment) (u : UDTP) :
    NeverOverrun (allocatedForHeader header) (ofHeader memory header)
        [.unpack, .respond env u, .pack env] ↔
      FitsBuffers header.packetSize.toNat (bodyCode memory.raw) u := by
  have hcode : (ofHeader memory header).unpack.2.responseCode =
      (ofHeader memory header).decode.responseCode :=
    congrArg UDTPPacket.responseCode (unpack_toUDTPPacket _)
  have hsize : (ofHeader memory header).header.packetSize.toNat ≤ allocatedForHeader header :=
    le_refl header.packetSize.toNat
  rw [neverOverrun_life_iff, keepsBuffers_unpack hsize, packedSize_respond, hcode]
  change (_ ≤ header.packetSize.toNat ∧ header.packetSize.toNat ≤ _) ∧ _ ↔ _
  by_cases hfilled : 4 ≤ header.packetSize.toNat
  · have hbody : (ofHeader memory header).decode.responseCode = bodyCode memory.raw :=
      decode_responseCode_of_filled hfilled
    rw [hbody]
    unfold FitsBuffers readSize UDTPHandShakeData.sizeOf allocatedForHeader
    cases bodyCode memory.raw <;> simp [and_assoc] <;> omega
  · refine iff_of_false ?_ fun hfits => hfilled hfits.1
    rintro ⟨⟨hread, -⟩, -⟩
    unfold readSize at hread
    split at hread <;> omega

/-! ## Handshakes that are made here -/

/-- No call changes the header of a handshake. -/
theorem call_header {g : UDTPHandshake} {c : HandshakeCall} (hcall : h.call c = .ok g) :
    g.header = h.header := by
  cases c with
  | unpack =>
    cases hcall
    rw [unpack_toUDTPPacket]
    rfl
  | respond env u =>
    obtain ⟨⟨b, g', v⟩, hr, rfl⟩ := map_ok hcall
    rw [respond_packet hr]
    rfl
  | pack env =>
    cases hcall
    rw [pack_toUDTPPacket]

/-- A handshake with room for a header and the data keeps to its buffers under any calls. -/
theorem neverOverrun_made (memory : UDTPHandshake) (code : ResponseCode)
    (cs : List HandshakeCall) :
    NeverOverrun (ofResponseCode memory code).allocatedForResponseCode
      (ofResponseCode memory code) cs := by
  intro g c htaken
  have hkeeps : ∀ (t : UDTPHandshake) c u,
      t.header.packetSize.toNat = UDTPHandShakeData.sizeOf → t.call c = .ok u →
        u.header.packetSize.toNat = UDTPHandShakeData.sizeOf := by
    intro t c u ht hcall
    rw [call_header hcall, ht]
  have hsize : g.header.packetSize.toNat = UDTPHandShakeData.sizeOf :=
    passes_invariant call hkeeps rfl htaken.passes
  have hallocated : (ofResponseCode memory code).allocatedForResponseCode = 20 := rfl
  rw [hallocated]
  cases c with
  | unpack =>
    rw [keepsBuffers_unpack (by rw [hsize, UDTPHandShakeData.sizeOf]; omega), hsize]
    unfold readSize UDTPHandShakeData.sizeOf
    split <;> omega
  | respond env u => exact keepsBuffers_respond u
  | pack env =>
    rw [keepsBuffers_pack]
    unfold packedSize
    split <;> omega

/-- **The buffers of handshakes.** What arrives is handled within its buffers iff its body fits,
for every header, and every handshake made here keeps to its buffers. -/
theorem buffers_iff (memory : UDTPHandshake) (header : UDTPPacketHeader) (env : Environment)
    (u : UDTP) (code : ResponseCode) (cs : List HandshakeCall) :
    (NeverOverrun (allocatedForHeader header) (ofHeader memory header)
        [.unpack, .respond env u, .pack env] ↔
      FitsBuffers header.packetSize.toNat (bodyCode memory.raw) u) ∧
    NeverOverrun (ofResponseCode memory code).allocatedForResponseCode
      (ofResponseCode memory code) cs := by
  constructor
  · exact neverOverrun_received_iff memory header env u
  · exact neverOverrun_made memory code cs

/-- The body of the handshake a HOST sends first. -/
def startBody : UDTPHandshake :=
  { (default : UDTPHandshake) with
    raw := store default 0 (UDTPHandShakeData.toBytes ⟨0xD9, 0, 0, 0, 0⟩) }

/-- The first handshake of a HOST makes a PEER write behind the end of `_raw`. -/
theorem not_neverOverrun_startBody :
    ¬ NeverOverrun (allocatedForHeader ⟨12, 0, .handshake⟩)
      (ofHeader startBody ⟨12, 0, .handshake⟩)
      [.unpack, .respond default (.startedIn .peer), .pack default] := by
  rw [neverOverrun_received_iff]
  rintro ⟨-, -, hcode⟩
  have hstart : bodyCode startBody.raw = .responseStart := by decide
  rw [hstart] at hcode
  exact hcode

end UDTPHandshake

end Udtp
