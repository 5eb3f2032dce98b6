import Udtp.Model.Handshake

/-!
# The round trip of a handshake

What `pack()` puts behind the header depends on the response code: `ResponseStart` writes
the data with the code in them, `ResponseNone` writes the data with the settings but with
whatever code they held, and the two codes that end a handshake write no data at all.  So
`unpack()` recovers a handshake iff enough of the body travels and, where `pack()` does not
write the code, the bytes hold it already (`roundTrips_iff`).
-/

set_option autoImplicit false

namespace Udtp

open LittleEndian

/-- The codes `pack()` has a branch for. -/
def ResponseCode.IsOfHandshake (c : ResponseCode) : Prop :=
  c = .responseStart ∨ c = .responseNone ∨ c = .responseApproved ∨ c = .responseCriticalError

/-- The number of a code that handshakes have is read as that code. -/
theorem ResponseCode.IsOfHandshake.ofValue_value {c : ResponseCode} (h : c.IsOfHandshake) :
    ofValue c.value = c := by
  rcases h with rfl | rfl | rfl | rfl
  all_goals rfl

/-- Only the number of such a code is read as it. -/
theorem ResponseCode.IsOfHandshake.ofValue_eq_iff {c : ResponseCode} (h : c.IsOfHandshake)
    (value : UInt32) : ofValue value = c ↔ value = c.value := by
  constructor
  · rintro rfl
    exact (value_ofValue value).symm
  · rintro rfl
    exact h.ofValue_value

namespace UDTPHandshake

/-- The object at the other end got the body bytes of a packed one.  What its data held
before is left open. -/
structure ReceivesBody (packed receiver : UDTPHandshake) : Prop where
  packetSize : receiver.header.packetSize = packed.header.packetSize
  body : ∀ k < packed.header.packetSize.toNat,
    receiver.raw k = packed.raw (UDTPPacketHeader.sizeOf + k)

/-- `unpack()` of the body bytes `pack()` wrote yields the same response code and, for
`ResponseNone`, the settings of the sender. -/
def RoundTrips (env : Environment) (h : UDTPHandshake) : Prop :=
  ∀ receiver, ReceivesBody (h.pack env).2 receiver →
    receiver.unpack.2.responseCode = h.responseCode ∧
      (h.responseCode = .responseNone →
        receiver.unpack.2.versionNumber = env.setup.version ∧
          receiver.unpack.2.chunkSizeAgreement = env.setup.chunkSizeAgreement)

/-- The body is long enough for what is read of it; the data hold `ResponseNone` already
where `pack()` writes them without the code; and the bytes behind the header hold the code
where `pack()` writes no data. -/
def Carries (h : UDTPHandshake) : Prop :=
  match h.responseCode with
  | .responseStart => 4 ≤ h.header.packetSize.toNat
  | .responseNone => 10 ≤ h.header.packetSize.toNat ∧
      h.data.responseCode = ResponseCode.value .responseNone
  | _ => 4 ≤ h.header.packetSize.toNat ∧
      load h.raw UDTPPacketHeader.sizeOf 4 = leBytes 4 h.responseCode.value.toNat

instance (h : UDTPHandshake) : Decidable h.Carries := by
  unfold Carries
  split <;> infer_instance

/-! ## What is received -/

/-- The bytes of a packed object that come to lie in the data at the other end. -/
def received (packed : UDTPHandshake) : List UInt8 :=
  load packed.raw UDTPPacketHeader.sizeOf
    (min packed.header.packetSize.toNat UDTPHandShakeData.sizeOf)

/-- The received bytes over the beginning of older ones. -/
def overwritten (packed : UDTPHandshake) (old : List UInt8) : List UInt8 :=
  packed.received ++ old.drop packed.received.length

/-- The data of the receiver are its own, overwritten by the body that was packed. -/
theorem ReceivesBody.fillData {packed receiver : UDTPHandshake} (h : ReceivesBody packed receiver) :
    receiver.fillData.data =
      UDTPHandShakeData.ofBytes (packed.overwritten receiver.data.toBytes) := by
  have hload : load receiver.raw 0
      (min receiver.header.packetSize.toNat UDTPHandShakeData.sizeOf) = packed.received := by
    rw [h.packetSize]
    apply List.ext_getElem (by simp [received])
    intro k h₁ h₂
    have hk : k < packed.header.packetSize.toNat := by
      simp only [load_length] at h₁
      omega
    simp [load, received, h.body k hk]
  simp only [UDTPHandshake.fillData, hload, overwritten]

/-- Any bytes can be what the data at the other end held before. -/
theorem receivesBody_over (packed : UDTPHandshake) {old : List UInt8}
    (h : old.length = UDTPHandShakeData.sizeOf) :
    ∃ receiver, ReceivesBody packed receiver ∧ receiver.data.toBytes = old :=
  ⟨{ packed with
      raw := skip packed.raw UDTPPacketHeader.sizeOf
      data := UDTPHandShakeData.ofBytes old },
    ⟨rfl, fun _ _ => rfl⟩, UDTPHandShakeData.toBytes_ofBytes h⟩

/-- `unpack()` takes the response code from the data that arrived. -/
theorem unpack_responseCode (h : UDTPHandshake) :
    h.unpack.2.responseCode = ResponseCode.ofValue h.fillData.data.responseCode :=
  congrArg UDTPPacket.responseCode h.unpack_toUDTPPacket

/-- After a `ResponseNone` the members are the ones of the data. -/
theorem unpack_settings {h : UDTPHandshake} (hcode : h.unpack.2.responseCode = .responseNone) :
    h.unpack.2.versionNumber = h.fillData.data.versionNumber ∧
      h.unpack.2.chunkSizeAgreement = h.fillData.data.chunkSizeAgreement := by
  rw [unpack_responseCode] at hcode
  rw [unpack_of_responseNone h hcode]
  exact ⟨rfl, rfl⟩

/-- A handshake makes the round trip iff the fields `unpack()` reads have the right bytes
over whatever was there before. -/
theorem roundTrips_iff_overwritten {env : Environment} {h : UDTPHandshake}
    (hcode : h.responseCode.IsOfHandshake) :
    RoundTrips env h ↔ ∀ old : List UInt8, old.length = UDTPHandShakeData.sizeOf →
      (((h.pack env).2.overwritten old).drop 0).take 4 = leBytes 4 h.responseCode.value.toNat ∧
        (h.responseCode = .responseNone →
          (((h.pack env).2.overwritten old).drop 4).take 2 = leBytes 2 env.setup.version.toNat ∧
          (((h.pack env).2.overwritten old).drop 8).take 2 =
            leBytes 2 env.setup.chunkSizeAgreement.toNat) := by
  have hlength : ∀ old : List UInt8, old.length = UDTPHandShakeData.sizeOf →
      ((h.pack env).2.overwritten old).length = 12 := by
    intro old hold
    simp only [overwritten, received, List.length_append, load_length, List.length_drop, hold,
      UDTPHandShakeData.sizeOf]
    omega
  constructor
  · intro htrip old hold
    obtain ⟨receiver, hreceiver, hdata⟩ := receivesBody_over (h.pack env).2 hold
    obtain ⟨hc, hs⟩ := htrip receiver hreceiver
    have hl := hlength old hold
    rw [← hdata] at hl ⊢
    constructor
    · rw [unpack_responseCode, hreceiver.fillData, hcode.ofValue_eq_iff] at hc
      exact (u32_eq_iff (by simp [hl]) _).mp hc
    · intro hnone
      obtain ⟨hv, ha⟩ := hs hnone
      rw [hnone] at hc
      rw [(unpack_settings hc).1, hreceiver.fillData] at hv
      rw [(unpack_settings hc).2, hreceiver.fillData] at ha
      exact ⟨(u16_eq_iff (by simp [hl]) _).mp hv, (u16_eq_iff (by simp [hl]) _).mp ha⟩
  · intro hbytes receiver hreceiver
    have hl := hlength receiver.data.toBytes (by simp)
    obtain ⟨hc, hs⟩ := hbytes receiver.data.toBytes (by simp)
    have hunpack : receiver.unpack.2.responseCode = h.responseCode := by
      rw [unpack_responseCode, hreceiver.fillData, hcode.ofValue_eq_iff]
      exact (u32_eq_iff (by simp [hl]) _).mpr hc
    refine ⟨hunpack, fun hnone => ?_⟩
    obtain ⟨hv, ha⟩ := hs hnone
    rw [hnone] at hunpack
    rw [(unpack_settings hunpack).1, (unpack_settings hunpack).2, hreceiver.fillData]
    exact ⟨(u16_eq_iff (by simp [hl]) _).mpr hv, (u16_eq_iff (by simp [hl]) _).mpr ha⟩

/-- A field has the right bytes whatever was there before iff it lies in the body and those
are the bytes behind the header. -/
theorem field_overwritten_iff (packed : UDTPHandshake) {offset width : ℕ} (hwidth : 0 < width)
    (hsize : offset + width ≤ UDTPHandShakeData.sizeOf) (field : List UInt8) :
    (∀ old : List UInt8, old.length = UDTPHandShakeData.sizeOf →
      ((packed.overwritten old).drop offset).take width = field) ↔
      offset + width ≤ packed.header.packetSize.toNat ∧
        load packed.raw (UDTPPacketHeader.sizeOf + offset) width = field := by
  have hlength : packed.received.length =
      min packed.header.packetSize.toNat UDTPHandShakeData.sizeOf := by simp [received]
  have hfield (hwhole : offset + width ≤ packed.received.length) :
      (packed.received.drop offset).take width =
        load packed.raw (UDTPPacketHeader.sizeOf + offset) width :=
    take_drop_load _ (hlength ▸ hwhole)
  unfold overwritten
  rw [LittleEndian.field_overwritten_iff hwidth hsize]
  constructor
  · rintro ⟨hwhole, hbytes⟩
    refine ⟨by omega, ?_⟩
    rw [← hfield hwhole, hbytes]
  · rintro ⟨hbody, hbytes⟩
    have hwhole : offset + width ≤ packed.received.length := by omega
    refine ⟨hwhole, ?_⟩
    rw [hfield hwhole, hbytes]

/-- Of the fields that `unpack()` reads, all must travel and have the right bytes. -/
theorem roundTrips_iff_fields {env : Environment} {h : UDTPHandshake}
    (hcode : h.responseCode.IsOfHandshake) :
    RoundTrips env h ↔
      (4 ≤ h.header.packetSize.toNat ∧
        load (h.pack env).2.raw UDTPPacketHeader.sizeOf 4 =
          leBytes 4 h.responseCode.value.toNat) ∧
      (h.responseCode = .responseNone →
        10 ≤ h.header.packetSize.toNat ∧
        load (h.pack env).2.raw (UDTPPacketHeader.sizeOf + 4) 2 =
          leBytes 2 env.setup.version.toNat ∧
        load (h.pack env).2.raw (UDTPPacketHeader.sizeOf + 8) 2 =
          leBytes 2 env.setup.chunkSizeAgreement.toNat) := by
  have hheader : (h.pack env).2.header = h.header := by rw [pack_toUDTPPacket]
  have code := @field_overwritten_iff (h.pack env).2 0 4 (by decide)
    (by decide) (leBytes 4 h.responseCode.value.toNat)
  have version := @field_overwritten_iff (h.pack env).2 4 2 (by decide)
    (by decide) (leBytes 2 env.setup.version.toNat)
  have agreement := @field_overwritten_iff (h.pack env).2 8 2 (by decide)
    (by decide) (leBytes 2 env.setup.chunkSizeAgreement.toNat)
  rw [hheader] at code version agreement
  rw [roundTrips_iff_overwritten hcode]
  constructor
  · intro hall
    refine ⟨code.mp fun old hold => (hall old hold).1, fun hnone => ?_⟩
    have hversion := version.mp fun old hold => ((hall old hold).2 hnone).1
    have hagreement := agreement.mp fun old hold => ((hall old hold).2 hnone).2
    exact ⟨hagreement.1, hversion.2, hagreement.2⟩
  · rintro ⟨hfirst, hrest⟩ old hold
    refine ⟨code.mpr hfirst old hold, fun hnone => ?_⟩
    obtain ⟨hwhole, hversion, hagreement⟩ := hrest hnone
    exact ⟨version.mpr ⟨by omega, hversion⟩ old hold,
      agreement.mpr ⟨hwhole, hagreement⟩ old hold⟩

/-! ## What is written -/

/-- The fields behind the header after both copies. -/
theorem load_copied_fields (h : UDTPHandshake) :
    load h.copyHeader.copyData.raw UDTPPacketHeader.sizeOf 4 =
        leBytes 4 h.data.responseCode.toNat ∧
      load h.copyHeader.copyData.raw (UDTPPacketHeader.sizeOf + 4) 2 =
        leBytes 2 h.data.versionNumber.toNat ∧
      load h.copyHeader.copyData.raw (UDTPPacketHeader.sizeOf + 8) 2 =
        leBytes 2 h.data.chunkSizeAgreement.toNat := by
  have field (offset width : ℕ) (hsize : offset + width ≤ UDTPHandShakeData.sizeOf) :
      load h.copyHeader.copyData.raw (UDTPPacketHeader.sizeOf + offset) width =
        (h.data.toBytes.drop offset).take width := by
    rw [← take_drop_load _ hsize, (load_copied h).2]
  obtain ⟨hcode, hversion, hagreement⟩ := h.data.toBytes_fields
  exact ⟨(field 0 4 (by decide)).trans hcode, (field 4 2 (by decide)).trans hversion,
    (field 8 2 (by decide)).trans hagreement⟩

/-- The header does not reach into the body. -/
theorem load_copyHeader (h : UDTPHandshake) (count : ℕ) :
    load h.copyHeader.raw UDTPPacketHeader.sizeOf count =
      load h.raw UDTPPacketHeader.sizeOf count :=
  load_store_above h.raw UDTPPacketHeader.sizeOf count h.header.toBytes (by simp)

/-- Four bytes tell response codes apart. -/
theorem leBytes_code_inj {a b : UInt32} : leBytes 4 a.toNat = leBytes 4 b.toNat ↔ a = b := by
  rw [← u32_eq_iff (leBytes_length 4 a.toNat), u32_leBytes]

/-- **A handshake makes the round trip iff its body is long enough and holds its code
wherever `pack()` does not write the code.** -/
theorem roundTrips_iff (env : Environment) (h : UDTPHandshake)
    (hcode : h.responseCode.IsOfHandshake) : RoundTrips env h ↔ h.Carries := by
  rw [roundTrips_iff_fields hcode]
  unfold Carries
  rcases hcode with hc | hc | hc | hc
  · have hpack : (h.pack env).2 = (h.setDataResponseCode .responseStart).copyHeader.copyData := by
      unfold pack
      rw [hc]
    have hwritten := (load_copied_fields (h.setDataResponseCode .responseStart)).1
    have hdata : (h.setDataResponseCode .responseStart).data.responseCode =
      ResponseCode.value .responseStart := rfl
    simp only [hc, hpack, hwritten, hdata, and_true, reduceCtorEq, false_imp_iff]
  · have hpack : (h.pack env).2 = (h.setDataFromSetup env.setup).copyHeader.copyData := by
      unfold pack
      rw [hc]
    obtain ⟨hwritten, hversion, hagreement⟩ := load_copied_fields (h.setDataFromSetup env.setup)
    have hdata : (h.setDataFromSetup env.setup).data.responseCode = h.data.responseCode := rfl
    have hset : (h.setDataFromSetup env.setup).data.versionNumber = env.setup.version ∧
      (h.setDataFromSetup env.setup).data.chunkSizeAgreement = env.setup.chunkSizeAgreement :=
      ⟨rfl, rfl⟩
    simp only [hc, hpack, hwritten, hversion, hagreement, hdata, hset.1, hset.2,
      leBytes_code_inj, and_true, true_imp_iff]
    constructor
    · rintro ⟨⟨-, hheld⟩, hsize⟩
      exact ⟨hsize, hheld⟩
    · rintro ⟨hsize, hheld⟩
      exact ⟨⟨by omega, hheld⟩, hsize⟩
  · have hpack : (h.pack env).2 = h.copyHeader := by
      unfold pack
      rw [hc]
    simp only [hc, hpack, load_copyHeader, reduceCtorEq, false_imp_iff, and_true]
  · have hpack : (h.pack env).2 = h.copyHeader := by
      unfold pack
      rw [hc]
    simp only [hc, hpack, load_copyHeader, reduceCtorEq, false_imp_iff, and_true]

/-- A `ResponseStart` that arrived whole, in an object that is new. -/
def arrivedStart : UDTPHandshake :=
  { (default : UDTPHandshake) with
    header := ⟨12, 0, .handshake⟩
    raw := store default 0 (UDTPHandShakeData.toBytes ⟨0xD9, 0, 0, 0, 0⟩) }

/-- The answer `respond()` makes of it, in the same object. -/
def answerToStart : UDTPHandshake := arrivedStart.unpack.2.setResponseCode .responseNone

/-- A handshake that is sent on as it arrived comes across. -/
theorem roundTrips_iff_arrivedStart :
    arrivedStart.unpack.2.responseCode = .responseStart ∧
      RoundTrips default arrivedStart.unpack.2 :=
  ⟨by decide, (roundTrips_iff default arrivedStart.unpack.2 (Or.inl (by decide))).mpr (by decide)⟩

/-- The answer arrives as another `ResponseStart`. -/
theorem not_roundTrips_answerToStart :
    answerToStart.responseCode.IsOfHandshake ∧ ¬RoundTrips default answerToStart := by
  refine ⟨Or.inr (Or.inl rfl), fun htrip => ?_⟩
  have hcode := (htrip { (answerToStart.pack default).2 with
    raw := skip (answerToStart.pack default).2.raw UDTPPacketHeader.sizeOf }
    ⟨rfl, fun _ _ => rfl⟩).1
  exact absurd hcode (by decide)

end UDTPHandshake

end Udtp
