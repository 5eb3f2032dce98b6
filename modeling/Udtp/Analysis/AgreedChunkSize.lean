import Udtp.Analysis.HandshakeAdmission
import Udtp.Analysis.HandshakeExchange

/-!
# The chunk size both ends use

A PEER announces the chunk size of its own settings, and the HOST admits it when that size
lies within the bounds.  The size is not kept after the comparison: nothing writes the chunk
size of a record, which stays what the memory of the record held (`records_chunkSize`), and
a file takes the size from the settings of its own end.  The size is the agreed one exactly
when both happen to be the announced one, and that is not zero (`chunkSizeAgreed_iff`).
-/

set_option autoImplicit false

namespace Udtp

open StepMachine

/-! ## Files -/

namespace UDTPFile

/-- The chunk size of a file is the agreement of its settings, widened. -/
@[simp]
theorem setChunkSizeFromSetup_chunkSize (f : UDTPFile) :
    f.setChunkSizeFromSetup.chunkSize = f.myUDTP.chunkSizeAgreement.toUInt32 := rfl

/-- The length of the queue is computed iff the agreed size is not zero. -/
theorem setMaxQueueLengthFromSetup_ok_iff (f : UDTPFile) :
    (∃ g, f.setMaxQueueLengthFromSetup = .ok g) ↔ f.myUDTP.chunkSizeAgreement ≠ 0 := by
  unfold setMaxQueueLengthFromSetup
  split <;> simp_all

/-- Files of one chunk size, not zero, get the same number of chunks for the same length. -/
theorem retrieveInfoFromLocalFile_eq {f g : UDTPFile} (hsize : f.chunkSize = g.chunkSize)
    (hzero : g.chunkSize ≠ 0) {fs gs : FileSystem} (hlength : fs.tellg f.path = gs.tellg g.path) :
    ∃ f' g', f.retrieveInfoFromLocalFile fs = .ok f' ∧ g.retrieveInfoFromLocalFile gs = .ok g' ∧
      f'.numberOfChunks = g'.numberOfChunks := by
  have hzero' : f.chunkSize ≠ 0 := hsize ▸ hzero
  refine ⟨_, _, if_neg hzero', if_neg hzero, ?_⟩
  simp only [hsize, hlength]

end UDTPFile

/-- What the two ends of an admitted connection have to agree on. -/
structure ChunkSizeAgreed (hostSetup peerSetup : UDTPSetup) (p : UDTPPeer) : Prop where
  record : p.getChunkSize = peerSetup.chunkSizeAgreement
  files : ∀ f g : UDTPFile, f.myUDTP = hostSetup → g.myUDTP = peerSetup →
    f.setChunkSizeFromSetup.chunkSize = g.setChunkSizeFromSetup.chunkSize
  min_le : hostSetup.minChunkSize ≤ peerSetup.chunkSizeAgreement
  le_max : peerSetup.chunkSizeAgreement ≤ hostSetup.maxChunkSize
  ne_zero : peerSetup.chunkSizeAgreement ≠ 0
  numberOfChunks : ∀ (f g : UDTPFile) (fs gs : FileSystem), f.myUDTP = hostSetup →
    g.myUDTP = peerSetup → fs.tellg f.path = gs.tellg g.path →
    ∃ f' g', f.setChunkSizeFromSetup.retrieveInfoFromLocalFile fs = .ok f' ∧
      g.setChunkSizeFromSetup.retrieveInfoFromLocalFile gs = .ok g' ∧
      f'.numberOfChunks = g'.numberOfChunks
  maxQueueLength : ∀ f : UDTPFile, f.myUDTP = hostSetup ∨ f.myUDTP = peerSetup →
    ∃ f', f.setMaxQueueLengthFromSetup = .ok f'

/-- Within the bounds, everything follows from three equations. -/
theorem chunkSizeAgreed_of_bounds {hostSetup peerSetup : UDTPSetup} {p : UDTPPeer}
    (hmin : hostSetup.minChunkSize ≤ peerSetup.chunkSizeAgreement)
    (hmax : peerSetup.chunkSizeAgreement ≤ hostSetup.maxChunkSize) :
    ChunkSizeAgreed hostSetup peerSetup p ↔ p.chunkSize = peerSetup.chunkSizeAgreement ∧
      hostSetup.chunkSizeAgreement = peerSetup.chunkSizeAgreement ∧
      peerSetup.chunkSizeAgreement ≠ 0 := by
  constructor
  · intro h
    refine ⟨h.record, ?_, h.ne_zero⟩
    have hfiles := h.files { (default : UDTPFile) with myUDTP := hostSetup }
      { (default : UDTPFile) with myUDTP := peerSetup } rfl rfl
    exact UInt16.toUInt32_inj.mp hfiles
  · rintro ⟨hrecord, hsetup, hzero⟩
    have hfiles : ∀ f g : UDTPFile, f.myUDTP = hostSetup → g.myUDTP = peerSetup →
        f.setChunkSizeFromSetup.chunkSize = g.setChunkSizeFromSetup.chunkSize := by
      intro f g hf hg
      simp [hf, hg, hsetup]
    refine ⟨hrecord, hfiles, hmin, hmax, hzero, ?_, ?_⟩
    · intro f g fs gs hf hg hlength
      apply UDTPFile.retrieveInfoFromLocalFile_eq (hfiles f g hf hg) ?_ hlength
      rw [UDTPFile.setChunkSizeFromSetup_chunkSize, hg]
      intro heq
      exact hzero (UInt16.toUInt32_inj.mp heq)
    · intro f hf
      rw [UDTPFile.setMaxQueueLengthFromSetup_ok_iff]
      rcases hf with hf | hf
      · rwa [hf, hsetup]
      · rwa [hf]

/-! ## Records -/

/-- The memory of a record was given by the `accept()` that made it. -/
theorem acceptedPeer_chunkSize (answer : AcceptAnswer) (socket : Socket) (uniqueID : UInt32) :
    (acceptedPeer answer socket uniqueID).chunkSize = answer.peerMemory.chunkSize := by
  simp only [acceptedPeer, UDTPPeer.setHostLocal, UDTPPeer.setUniqueID, UDTPPeer.setAddress,
    UDTPPeer.setOnline, UDTPPeer.new, UDTPPeer.startSelfMutex]
  split
  · rfl
  split
  · rfl
  · rfl

/-- What an event tells about an `accept()`. -/
def HostEvent.acceptAnswer : HostEvent → Option AcceptAnswer
  | .accepted _ answer => some answer
  | _ => none

/-! ## What a PEER announces -/

/-- What the HOST reads when a handshake that was packed at the other end arrives. -/
def ReadAnswer.ofPacked (env : Environment) (h : UDTPHandshake) : ReadAnswer where
  count := UDTPPacketHeader.sizeOf
  packetDeduction := (Packet.handshake (h.pack env).2).packetDeduction
  contents := (Packet.handshake (h.pack env).2).arrive default

/-- A PEER that sends its settings announces the chunk size of its setup. -/
theorem arrivedHandshake_ofPacked (env : Environment) {h : UDTPHandshake}
    (hpack : h.responseCode = .responseNone) (htype : h.header.packetType = .handshake)
    (hsize : UDTPHandShakeData.sizeOf ≤ h.header.packetSize.toNat)
    (hcode : ResponseCode.ofValue h.data.responseCode = .responseNone) :
    (arrivedHandshake (ReadAnswer.ofPacked env h).contents
      (ReadAnswer.ofPacked env h).packetDeduction).chunkSizeAgreement =
      env.setup.chunkSizeAgreement := by
  have hpacked : (h.pack env).2 = (h.setDataFromSetup env.setup).copyHeader.copyData := by
    unfold UDTPHandshake.pack
    rw [hpack]
  obtain ⟨hheader, hdata⟩ := UDTPHandshake.load_copied (h.setDataFromSetup env.setup)
  have hdeduction : (ReadAnswer.ofPacked env h).packetDeduction = h.header := by
    simp only [ReadAnswer.ofPacked, Packet.packetDeduction, hpacked, hheader]
    exact UDTPPacketHeader.ofBytes_toBytes _ (by rw [UDTPHandshake.setDataFromSetup, htype]; rfl)
  have hfill : (UDTPHandshake.ofHeader (ReadAnswer.ofPacked env h).contents.handshake
      (ReadAnswer.ofPacked env h).packetDeduction).fillData.data =
      (h.setDataFromSetup env.setup).data := by
    rw [UDTPHandshake.fillData_of_fills _ (hdeduction ▸ hsize)]
    simp only [UDTPHandshake.ofHeader, ReadAnswer.ofPacked, Packet.arrive, LittleEndian.load_skip,
      hpacked, hdata, UDTPHandShakeData.ofBytes_toBytes]
  have hdecode : (UDTPHandshake.ofHeader (ReadAnswer.ofPacked env h).contents.handshake
      (ReadAnswer.ofPacked env h).packetDeduction).decode.responseCode = .responseNone := by
    rw [UDTPHandshake.decode_responseCode, hfill]
    exact hcode
  rw [arrivedHandshake, UDTPHandshake.unpack_of_responseNone _ hdecode]
  simp only [UDTPHandshake.readSettings, UDTPHandshake.decode_data, hfill,
    UDTPHandshake.setDataFromSetup]

namespace HostLoop

/-- What `accept()` returned in a run, in order. -/
def acceptAnswers (u : UDTP) (ins : List HostInput) : List AcceptAnswer :=
  (events step event (new u) ins).filterMap HostEvent.acceptAnswer

/-- The records keep the chunk sizes their memory held. -/
structure ChunkSizes (answers : List AcceptAnswer) (s : HostLoop) : Prop where
  length : answers.length = s.accepted
  records : ∀ p ∈ s.udtp.listPeers, p.listenSocket.connection ≠ 0 →
    (answers[p.listenSocket.connection - 1]?).map (fun a => a.peerMemory.chunkSize) =
      some p.chunkSize

namespace ChunkSizes

variable {s t : HostLoop} {input : HostInput} {answers : List AcceptAnswer}

/-- Records with the sockets and chunk sizes of the ones before keep the relation. -/
theorem of_records (h : ChunkSizes answers s) {u : UDTP}
    (hu : u.listPeers.map (fun p => (p.listenSocket, p.chunkSize)) =
      s.udtp.listPeers.map fun p => (p.listenSocket, p.chunkSize)) :
    ∀ p ∈ u.listPeers, p.listenSocket.connection ≠ 0 →
      (answers[p.listenSocket.connection - 1]?).map (fun a => a.peerMemory.chunkSize) =
        some p.chunkSize :=
  UDTP.forall_listPeers_of_map_eq
    (fun r => r.1.connection ≠ 0 →
      (answers[r.1.connection - 1]?).map (fun a => a.peerMemory.chunkSize) = some r.2) hu h.records

/-- The record of a new connection is the last one. -/
theorem accept (h : ChunkSizes answers s) (haligned : Aligned s) (env : Environment)
    (answer : AcceptAnswer) : ChunkSizes (answers ++ [answer]) (s.afterAccept env answer) := by
  constructor
  · simp [afterAccept, h.length]
  · intro p hp hc
    rcases List.mem_append.mp hp with hp | hp
    · have hbound : p.listenSocket.connection ≤ s.accepted :=
        haligned.bounded _ (List.mem_map_of_mem hp)
      have hlength := h.length
      rw [List.getElem?_append_left (by omega)]
      exact h.records p hp hc
    · rw [List.mem_singleton] at hp
      rw [hp, acceptedPeer_listenSocket, acceptedPeer_chunkSize]
      simp [nextSocket, ← h.length]

/-- A step keeps the chunk sizes, where the answers of `accept()` so far are those of the run. -/
theorem step (h : ChunkSizes answers s) (haligned : Aligned s) (hstep : s.step input = .ok t) :
    ChunkSizes (answers ++ ((s.event input).toList.filterMap HostEvent.acceptAnswer)) t := by
  have hstepped := step_stepped hstep
  generalize s.event input = e at hstepped
  have keep : ∀ {e : Option HostEvent}, (∀ env answer, e ≠ some (.accepted env answer)) →
      answers ++ e.toList.filterMap HostEvent.acceptAnswer = answers := by
    intro e he
    cases e with
    | none => simp
    | some e =>
      cases e with
      | accepted env answer => exact absurd rfl (he env answer)
      | _ => simp [HostEvent.acceptAnswer]
  cases hstepped with
  | polled hphase =>
    rw [keep (by simp)]
    obtain ⟨sockets, hpolled⟩ := s.setRevents_eq input.poll
    rw [hpolled]
    exact ⟨h.length, h.records⟩
  | accepted hphase =>
    obtain ⟨hlength, hrecords⟩ := h.accept haligned input.environment input.accept
    exact ⟨hlength, hrecords⟩
  | received i entry peer sent u hphase hentry hpeer honline hreceive =>
    rw [keep (by simp)]
    refine ⟨h.length, h.of_records ?_⟩
    exact map_listPeers_receiveHost _ hreceive (fun _ _ _ => rfl) (fun _ _ _ _ _ _ => rfl)
      fun _ _ _ => rfl
  | disconnected i entry peer hphase hentry hpeer =>
    rw [keep (by simp)]
    refine ⟨h.length, h.of_records ?_⟩
    exact UDTP.map_listPeers_modifyPeer _ s.udtp i UDTPPeer.setOffline fun _ => rfl
  | removed e sockets u hphase hremove hevent =>
    obtain ⟨-, herase, -⟩ := removeQueued_ok haligned.length_eq hremove
    have hnone : ∀ env answer, e ≠ some (.accepted env answer) := by
      intro env answer heq
      rw [heq] at hevent
      split at hevent <;> cases hevent
    rw [keep hnone]
    refine ⟨h.length, ?_⟩
    intro p hp
    exact h.records p ((QueuedErase.sublist_of_eraseEach herase).subset hp)
  | _ =>
    rw [keep (by simp)]
    exact ⟨h.length, h.records⟩

end ChunkSizes

/-- In every state of every run, the chunk size of a remote record is the one its memory
held. -/
theorem records_chunkSize {u : UDTP} (hu : u.Started .host) {ins : List HostInput} {s : HostLoop}
    (hrun : run u ins = .ok s) : ChunkSizes (acceptAnswers u ins) s := by
  refine run_induction HostLoop.step (new u)
    (P := fun ins s => ChunkSizes (acceptAnswers u ins) s) ?_ ?_ ins s hrun
  · obtain ⟨selfPeer, hfresh⟩ := hu.fresh
    refine ⟨rfl, ?_⟩
    intro p hp hc
    rw [new, hfresh.listPeers, List.mem_singleton] at hp
    rw [hp, hfresh.listenSocket, hfresh.connection] at hc
    exact absurd rfl hc
  · intro ins s input t hrun hs hstep
    rw [acceptAnswers, events_snoc HostLoop.step event hrun hstep, List.filterMap_append]
    exact hs.step (run_aligned hu hrun) hstep

/-! ## Admitted connections -/

/-- The handshakes that connection `c` was admitted with announce the size of a PEER. -/
def Announces (peerSetup : UDTPSetup) (u : UDTP) (ins : List HostInput) (c : ℕ) : Prop :=
  ∀ t input, Takes step (new u) ins t input → t.Admission input c →
    (arrivedHandshake input.read.contents input.read.packetDeduction).chunkSizeAgreement =
      peerSetup.chunkSizeAgreement

/-- **When the agreed chunk size is the one used.** For a HOST and a PEER that keep their
settings, in every state in which the HOST has recorded the handshake of the PEER, the size
is agreed on iff the memory of the record held the announced size, the HOST has the same
size in its own settings, and it is not zero. -/
theorem chunkSizeAgreed_iff {u : UDTP} (hu : u.Started .host) {ins : List HostInput}
    {s : HostLoop} (hrun : run u ins = .ok s) {hostSetup peerSetup : UDTPSetup}
    (hsetup : ∀ input ∈ ins, input.environment.setup = hostSetup) {p : UDTPPeer}
    (hp : p ∈ s.udtp.listPeers) (hc : p.listenSocket.connection ≠ 0)
    (hrecorded : p.checkInitProcess .handshake = true)
    (hannounces : Announces peerSetup u ins p.listenSocket.connection) :
    ChunkSizeAgreed hostSetup peerSetup p ↔
      (∃ answer, (acceptAnswers u ins)[p.listenSocket.connection - 1]? = some answer ∧
        answer.peerMemory.chunkSize = peerSetup.chunkSizeAgreement) ∧
      hostSetup.chunkSizeAgreement = peerSetup.chunkSizeAgreement ∧
      peerSetup.chunkSizeAgreement ≠ 0 := by
  obtain ⟨t, input, htakes, hadmission⟩ := (handshake_iff_admission hu hrun hp hc).mp hrecorded
  have hinput : input ∈ ins := by
    obtain ⟨as, bs, rfl, -⟩ := htakes
    simp
  have haccepts := hadmission.2.2.2
  rw [hsetup input hinput, UDTPHandshake.compareSettings_iff,
    hannounces t input htakes hadmission] at haccepts
  rw [chunkSizeAgreed_of_bounds haccepts.2.1 haccepts.2.2]
  apply and_congr_left
  intro _
  have hmemory := (records_chunkSize hu hrun).records p hp hc
  obtain ⟨answer, hanswer, hsize⟩ := Option.map_eq_some_iff.mp hmemory
  rw [← hsize]
  constructor
  · intro heq
    exact ⟨answer, hanswer, heq⟩
  · rintro ⟨answer', hanswer', heq⟩
    obtain rfl : answer = answer' := Option.some.inj (hanswer.symm.trans hanswer')
    exact heq

/-- Where every handshake of a run carries the chunk size of the setup, every connection announces
it. -/
theorem announces_of_forall {peerSetup : UDTPSetup} {u : UDTP} {ins : List HostInput}
    (h : ∀ input ∈ ins, input.read.packetDeduction.packetType = .handshake →
      (arrivedHandshake input.read.contents input.read.packetDeduction).chunkSizeAgreement =
        peerSetup.chunkSizeAgreement) (c : ℕ) : Announces peerSetup u ins c := by
  rintro t input ⟨as, bs, rfl, -⟩ hadmission
  exact h input (by simp) hadmission.2.1

/-! ## A session with one PEER -/

/-- A handshake object of a PEER that is about to send its settings. -/
def answering : UDTPHandshake :=
  { (default : UDTPHandshake) with
    header := ⟨12, 0, .handshake⟩
    responseCode := .responseNone
    data := ⟨0xF0, 0, 0, 0, 0⟩ }

/-- The HOST reads the handshake of a PEER with the settings `peerSetup`. -/
def announcing (peerSetup : UDTPSetup) : HostInput :=
  .reading (.ofPacked { (default : Environment) with setup := peerSetup } answering)

/-- The HOST accepts a connection, and the record's memory holds `chunkSize`. -/
def acceptingOver (chunkSize : UInt16) : HostInput :=
  { HostInput.reading default with
    poll := some (· == 0)
    accept := { (default : AcceptAnswer) with
      peerMemory := { (default : UDTPPeer) with chunkSize := chunkSize } } }

/-- One PEER is accepted, and sends its settings. -/
def session (chunkSize : UInt16) (peerSetup : UDTPSetup) : List HostInput :=
  List.replicate 5 (acceptingOver chunkSize) ++ List.replicate 3 (announcing peerSetup)

/-- Every input of a session accepts or announces. -/
theorem mem_session {chunkSize : UInt16} {peerSetup : UDTPSetup} {input : HostInput}
    (h : input ∈ session chunkSize peerSetup) :
    input = acceptingOver chunkSize ∨ input = announcing peerSetup := by
  rcases List.mem_append.mp h with h | h
  · exact Or.inl (List.eq_of_mem_replicate h)
  · exact Or.inr (List.eq_of_mem_replicate h)

/-- A session runs with the default settings on the HOST. -/
theorem session_setup (chunkSize : UInt16) (peerSetup : UDTPSetup) :
    ∀ input ∈ session chunkSize peerSetup, input.environment.setup = .defaults := by
  intro input hinput
  rcases mem_session hinput with rfl | rfl
  · rfl
  · rfl

/-- In a session every handshake announces the chunk size of the setup. -/
theorem session_announces (chunkSize : UInt16) (peerSetup : UDTPSetup) (u : UDTP) (c : ℕ) :
    Announces peerSetup u (session chunkSize peerSetup) c := by
  apply announces_of_forall
  intro input hinput htype
  rcases mem_session hinput with rfl | rfl
  · cases htype
  · exact arrivedHandshake_ofPacked { (default : Environment) with setup := peerSetup }
      rfl rfl (by decide) rfl

/-- A session between two ends with the default settings agrees on their chunk size. -/
theorem chunkSizeAgreed_iff_session :
    ∃ s p, run (UDTP.startedIn .host) (session 420 .defaults) = .ok s ∧
      s.udtp.getPeer 1 = some p ∧ p.checkInitProcess .handshake = true ∧
      ChunkSizeAgreed .defaults .defaults p := by
  obtain ⟨s, p, hrun, hp, hc, hrecorded, hanswer⟩ : ∃ s p,
      run (UDTP.startedIn .host) (session 420 .defaults) = .ok s ∧ s.udtp.getPeer 1 = some p ∧
      p.listenSocket.connection = 1 ∧ p.checkInitProcess .handshake = true ∧
      ∃ answer, (acceptAnswers (UDTP.startedIn .host) (session 420 .defaults))[0]? =
        some answer ∧ answer.peerMemory.chunkSize = 420 :=
    ⟨_, _, rfl, rfl, rfl, rfl, _, rfl, rfl⟩
  refine ⟨s, p, hrun, hp, hrecorded, ?_⟩
  refine (chunkSizeAgreed_iff (UDTP.startedIn_started .host) hrun (session_setup _ _)
    (List.mem_of_getElem? hp) (by simp [hc]) hrecorded (session_announces _ _ _ _)).mpr ?_
  rw [hc]
  exact ⟨hanswer, rfl, by decide⟩

/-- The HOST admits a PEER with chunks of 300 bytes, uses chunks of 420 bytes for its files
and finds zero in the record. -/
theorem not_chunkSizeAgreed_session :
    ∃ s p, run (UDTP.startedIn .host)
        (session 0 { UDTPSetup.defaults with chunkSizeAgreement := 300 }) = .ok s ∧
      s.udtp.getPeer 1 = some p ∧ p.checkInitProcess .handshake = true ∧
      Announces { UDTPSetup.defaults with chunkSizeAgreement := 300 } (UDTP.startedIn .host)
        (session 0 { UDTPSetup.defaults with chunkSizeAgreement := 300 }) 1 ∧
      ¬ ChunkSizeAgreed .defaults { UDTPSetup.defaults with chunkSizeAgreement := 300 } p := by
  refine ⟨_, _, rfl, rfl, rfl, session_announces _ _ _ _, ?_⟩
  intro hagreed
  exact absurd hagreed.record (by decide)

end HostLoop

end Udtp
