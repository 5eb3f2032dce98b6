import Udtp.Analysis.RecordHistory

/-!
# Who is admitted

The HOST records a handshake for a remote peer exactly when settings it accepts arrived on
the peer's own connection while the peer was online (`handshake_recorded_iff`).  No other
message and no other connection sets the bit, and nothing clears it.
-/

set_option autoImplicit false

namespace Udtp

open LittleEndian StepMachine

/-- The body a handshake was delivered with. -/
def ReadAnswer.body (read : ReadAnswer) : UDTPHandShakeData :=
  UDTPHandShakeData.ofBytes (load read.contents.handshake.raw 0 UDTPHandShakeData.sizeOf)

/-- The bytes of a handshake fill the structure they are copied into. -/
def ReadAnswer.Fills (read : ReadAnswer) : Prop :=
  read.packetDeduction.packetType = .handshake →
    UDTPHandShakeData.sizeOf ≤ read.packetDeduction.packetSize.toNat

/-- A handshake sends settings that agree with those of the HOST. -/
def ReadAnswer.Acceptable (setup : UDTPSetup) (read : ReadAnswer) : Prop :=
  read.packetDeduction.packetType = .handshake ∧
    ResponseCode.ofValue read.body.responseCode = .responseNone ∧
    read.body.versionNumber = setup.version ∧
    setup.minChunkSize ≤ read.body.chunkSizeAgreement ∧
    read.body.chunkSizeAgreement ≤ setup.maxChunkSize

/-- What `compareSettings` compares is what the body says. -/
theorem sendsSettings_true_iff (setup : UDTPSetup) (read : ReadAnswer) (hfill : read.Fills) :
    SendsSettings true setup read.contents read.packetDeduction ↔ read.Acceptable setup := by
  unfold SendsSettings ReadAnswer.Acceptable
  apply and_congr_right
  intro htype
  have hdata : (UDTPHandshake.ofHeader read.contents.handshake
      read.packetDeduction).fillData.data = read.body :=
    UDTPHandshake.fillData_of_fills _ (hfill htype)
  have hcode : (arrivedHandshake read.contents read.packetDeduction).responseCode =
      ResponseCode.ofValue read.body.responseCode := by
    rw [arrivedHandshake, UDTPHandshake.unpack_toUDTPPacket, UDTPHandshake.decode_responseCode,
      hdata]
  rw [hcode]
  apply and_congr_right
  intro hnone
  have hdecode : (UDTPHandshake.ofHeader read.contents.handshake
      read.packetDeduction).decode.responseCode = .responseNone := by
    rw [UDTPHandshake.decode_responseCode, hdata, hnone]
  rw [UDTPHandshake.compareSettings_iff, arrivedHandshake,
    UDTPHandshake.unpack_of_responseNone _ hdecode]
  simp only [UDTPHandshake.readSettings, UDTPHandshake.decode_data, hdata]

namespace HostLoop

/-- On a connection whose record is online, a handshake with acceptable settings
arrives. -/
def AcceptableHandshake (s : HostLoop) (input : HostInput) (c : ℕ) : Prop :=
  s.Arrives input c ∧ input.read.Acceptable input.environment.setup

/-- Every handshake the run reads fills the structure it is copied into. -/
def HandshakesFill (u : UDTP) (ins : List HostInput) : Prop :=
  ∀ t input c, Takes step (new u) ins t input →
    t.event input = some (.packet c input.environment input.read) → input.read.Fills

/-- A remote record remembers the handshakes that its connection was admitted with. -/
theorem handshake_iff_admission {u : UDTP} (hu : u.Started .host) {ins : List HostInput}
    {s : HostLoop} (hrun : run u ins = .ok s) {p : UDTPPeer} (hp : p ∈ s.udtp.listPeers)
    (hc : p.listenSocket.connection ≠ 0) :
    p.checkInitProcess .handshake = true ↔
      ∃ t input, Takes step (new u) ins t input ∧ t.Admission input p.listenSocket.connection := by
  apply flag_iff_history hu (fun p => p.checkInitProcess .handshake = true) Admission ?_ ?_ hrun
    p hp hc
  · rintro s input t c - - ⟨⟨-, q, hq, rfl, -⟩, -⟩
    exact List.mem_map_of_mem hq
  · intro s input t hs hstep p' hp' hc
    rcases step_records hs hstep hp' hc with ⟨q, hq, hbefore⟩ | ⟨hnew, hbit, -⟩
    · exact Or.inl ⟨q, hq, hbefore.listenSocket, hbefore.handshake⟩
    · exact Or.inr ⟨hnew, by simp [hbit]⟩

/-- **Admission is sound and complete.** In every run, a record at a position from 1 on has
the handshake recorded iff, while it was online, a handshake with acceptable settings
arrived on its own connection. -/
theorem handshake_recorded_iff {u : UDTP} (hu : u.Started .host) {ins : List HostInput}
    {s : HostLoop} (hrun : run u ins = .ok s) (hfill : HandshakesFill u ins) {i : ℕ}
    (hi : 1 ≤ i) {p : UDTPPeer} (hp : s.udtp.getPeer i = some p) :
    p.checkInitProcess .handshake = true ↔
      ∃ t input, Takes step (new u) ins t input ∧
        t.AcceptableHandshake input p.listenSocket.connection := by
  have hc := (run_aligned hu hrun).connection_ne_zero hp hi
  rw [handshake_iff_admission hu hrun (List.mem_of_getElem? hp) hc]
  constructor
  · rintro ⟨t, input, htakes, harrives, hsettings⟩
    exact ⟨t, input, htakes, harrives,
      (sendsSettings_true_iff _ _ (hfill t input _ htakes harrives.1)).mp hsettings⟩
  · rintro ⟨t, input, htakes, harrives, hacceptable⟩
    exact ⟨t, input, htakes, harrives,
      (sendsSettings_true_iff _ _ (hfill t input _ htakes harrives.1)).mpr hacceptable⟩

/-- Where every read of a run fills its handshake, the handshakes of the run are filled. -/
theorem handshakesFill_of_forall {u : UDTP} {ins : List HostInput}
    (h : ∀ input ∈ ins, input.read.Fills) : HandshakesFill u ins := by
  rintro t input c ⟨as, bs, rfl, -⟩ -
  exact h input (by simp)

/-- A peer that sends its settings once has its handshake recorded. -/
theorem handshake_recorded_iff_settings :
    ∃ s p, run (UDTP.startedIn .host)
        (List.replicate 5 .connecting ++ List.replicate 3 (.reading (.settings 1 420))) = .ok s ∧
      s.udtp.getPeer 1 = some p ∧ p.checkInitProcess .handshake = true ∧
      ∃ t input, Takes step (new (UDTP.startedIn .host))
          (List.replicate 5 .connecting ++ List.replicate 3 (.reading (.settings 1 420))) t input ∧
        t.AcceptableHandshake input p.listenSocket.connection := by
  refine ⟨_, _, rfl, rfl, rfl, ?_⟩
  refine (handshake_recorded_iff (UDTP.startedIn_started .host) rfl
    (handshakesFill_of_forall ?_) le_rfl rfl).mp rfl
  intro input hinput
  rcases List.mem_append.mp hinput with h | h
  · rw [List.eq_of_mem_replicate h]
    intro htype
    cases htype
  · rw [List.eq_of_mem_replicate h]
    intro _
    decide

end HostLoop

end Udtp
