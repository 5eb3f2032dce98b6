import Udtp.Model.Dispatch

/-!
# What the handling of a packet traps on

`PacketFault` lists the packets whose handling does not return, each with the fault it ends
in; `process_error_iff` says that the list is complete.  Five things go wrong: a position that
names no record, a local file that is divided into chunks of no bytes, a packet count that is
divided by a count of zero, a thread that is taken from an empty queue, and a pointer that no
constructor assigns, to the path of a header or to the settings of a file.

A remote end chooses the type and the code of a message.  What it cannot choose is what the
memory of a new object held, and how much was counted.
-/

set_option autoImplicit false

namespace Udtp

open StepMachine

/-! ## The methods of the classes -/

/-- A header message on which the size of the local file is divided: a request to pull a file
that is there, or a confirmed pull. -/
def UDTPHeader.DividesFile (env : Environment) (h : UDTPHeader) : Prop :=
  h.transferType = .pull ∧
    ((h.responseCode = .responseNone ∧
      (h.newFile env).checkFileExist env.fileSystem = true) ∨
    h.responseCode = .responseConfirm)

/-- Looking up the local file fails iff the chunk size is zero. -/
theorem UDTPFile.retrieveInfoFromLocalFile_error {fs : FileSystem} {f : UDTPFile} {fault : Fault} :
    f.retrieveInfoFromLocalFile fs = .error fault ↔ f.chunkSize = 0 ∧ fault = .divisionByZero := by
  unfold retrieveInfoFromLocalFile
  dsimp only
  split
  · rename_i hzero
    simp [hzero, eq_comm]
  · rename_i hzero
    simp [hzero]

/-- A header message on which a file is started that counts as approved: an approved pull, a
confirmed one whose local file could be divided, or a push to a path without a file. -/
def UDTPHeader.StartsFile (env : Environment) (h : UDTPHeader) : Prop :=
  (h.transferType = .pull ∧ h.responseCode = .responseApproved) ∨
  (h.transferType = .pull ∧ h.responseCode = .responseConfirm ∧ env.fileMemory.chunkSize ≠ 0) ∨
  (h.transferType = .push ∧ h.responseCode = .responseNone ∧
    (h.newFile env).checkFileExist env.fileSystem = false)

/-- A message divides a local file only through the path it names. -/
theorem UDTPHeader.DividesFile.followsPath {env : Environment} {h : UDTPHeader}
    (hdivides : h.DividesFile env) : h.followsPath = true := by
  obtain ⟨ht, ⟨hc, -⟩ | hc⟩ := hdivides
  · simp [UDTPHeader.followsPath, ht, hc]
  · simp [UDTPHeader.followsPath, ht, hc]

/-- A message starts a file only at the path it names. -/
theorem UDTPHeader.StartsFile.followsPath {env : Environment} {h : UDTPHeader}
    (hstarts : h.StartsFile env) : h.followsPath = true := by
  obtain ⟨ht, hc⟩ | ⟨ht, hc, -⟩ | ⟨ht, hc, -⟩ := hstarts
  · simp [UDTPHeader.followsPath, ht, hc]
  · simp [UDTPHeader.followsPath, ht, hc]
  · simp [UDTPHeader.followsPath, ht, hc]

/-- A header message starts a file whose pointer to the settings cannot be followed iff it starts
an approved file and the memory of the file object holds no such address. -/
theorem UDTPHeader.takenFile_beginTraps {env : Environment} {h : UDTPHeader} :
    (h.takenFile env).any (UDTPFile.beginTraps env) = true ↔
      h.StartsFile env ∧ env.fileMemory.myUDTPUnmapped = true := by
  unfold takenFile StartsFile
  split
  case h_1 ht hc =>
    simp [ht, hc, UDTPFile.beginTraps, UDTPFile.semInit_tickets, approvedPullFile, newFile,
      UDTPFile.unpackFromHeader, UDTPFile.new, UDTPFile.setDefaults]
  case h_2 ht hc =>
    cases hzero : decide (env.fileMemory.chunkSize = 0) with
    | true =>
      have hzero' := of_decide_eq_true hzero
      simp [ht, hc, hzero', confirmedPullFile, UDTPFile.retrieveInfoFromLocalFile, newFile,
        UDTPFile.new, UDTPFile.setDefaults, Except.toOption]
    | false =>
      have hzero' := of_decide_eq_false hzero
      simp [ht, hc, hzero', confirmedPullFile, UDTPFile.retrieveInfoFromLocalFile, newFile,
        UDTPFile.new, UDTPFile.setDefaults, Except.toOption, UDTPFile.beginTraps,
        UDTPFile.semInit_tickets]
  case h_3 ht hc =>
    cases hex : (h.newFile env).checkFileExist env.fileSystem with
    | true => simp [ht]
    | false =>
      simp [ht, hc, UDTPFile.beginTraps, UDTPFile.semInit_tickets, requestedPushFile, newFile,
        UDTPFile.unpackFromHeader, UDTPFile.new, UDTPFile.setDefaults]
  case h_4 ht hc =>
    simp [ht, hc, UDTPFile.beginTraps, approvedPushFile, newFile, UDTPFile.unpackFromHeader,
      UDTPFile.new, UDTPFile.setDefaults]
  case h_5 happroved hconfirm hrequest hpushed =>
    refine iff_of_false (by simp) ?_
    rintro ⟨⟨ht, hc⟩ | ⟨ht, hc, -⟩ | ⟨ht, hc, -⟩, -⟩
    · exact happroved ht hc
    · exact hconfirm ht hc
    · exact hrequest ht hc

/-- The branches fail on a local file that is divided into chunks of no bytes. -/
theorem UDTPHeader.negotiate_error {env : Environment} {u : UDTP} {h : UDTPHeader}
    {fault : Fault} :
    h.negotiate env u = .error fault ↔
      h.DividesFile env ∧ env.fileMemory.chunkSize = 0 ∧ fault = .divisionByZero := by
  have hfile : ∀ fault, (h.newFile env).retrieveInfoFromLocalFile env.fileSystem = .error fault ↔
      env.fileMemory.chunkSize = 0 ∧ fault = .divisionByZero :=
    fun _ => UDTPFile.retrieveInfoFromLocalFile_error
  unfold DividesFile
  unfold negotiate
  split
  case h_1 ht hc =>
    cases hex : (h.newFile env).checkFileExist env.fileSystem with
    | false => simp [hc]
    | true =>
      rw [← hfile fault]
      cases hlocal : (h.newFile env).retrieveInfoFromLocalFile env.fileSystem with
      | error fault' => simp [ht, hc]
      | ok f => simp
  case h_4 ht hc =>
    have hconfirm : h.confirmedPullFile env = .error fault ↔
        env.fileMemory.chunkSize = 0 ∧ fault = .divisionByZero := by
      rw [← hfile fault]
      unfold confirmedPullFile
      cases (h.newFile env).retrieveInfoFromLocalFile env.fileSystem with
      | error fault' => simp
      | ok f => simp
    rw [← hconfirm]
    cases hfile' : h.confirmedPullFile env with
    | error fault' => simp [ht, hc]
    | ok f => simp
  case h_5 ht hc =>
    split
    · simp [ht]
    · simp [ht]
  case h_8 hnone _ _ hconfirm _ _ _ =>
    refine iff_of_false (by simp) ?_
    rintro ⟨⟨ht, ⟨hc, -⟩ | hc⟩, -⟩
    · exact hnone ht hc
    · exact hconfirm ht hc
  all_goals
    rename_i ht hc
    simp [ht, hc]

/-- A header message is handled unless the memory of its file object holds chunks of no bytes,
or a pointer to settings that cannot be followed when the file is started. -/
theorem UDTPHeader.respond_error {env : Environment} {u : UDTP} {h : UDTPHeader} {fault : Fault} :
    h.respond env u = .error fault ↔
      (h.DividesFile env ∧ env.fileMemory.chunkSize = 0 ∧ fault = .divisionByZero) ∨
      (h.StartsFile env ∧ env.fileMemory.myUDTPUnmapped = true ∧ fault = .wildPointer) := by
  have hdisjoint : h.StartsFile env → h.DividesFile env → env.fileMemory.chunkSize ≠ 0 := by
    rintro (⟨-, hc⟩ | ⟨-, -, hzero⟩ | ⟨ht, -⟩) ⟨ht', ⟨hc', -⟩ | hc'⟩
    · simp [hc] at hc'
    · simp [hc] at hc'
    · exact hzero
    · exact hzero
    · simp [ht] at ht'
    · simp [ht] at ht'
  unfold respond
  split
  · rename_i htraps
    obtain ⟨hstarts, hunmapped⟩ := takenFile_beginTraps.mp htraps
    constructor
    · intro heq
      cases heq
      exact Or.inr ⟨hstarts, hunmapped, rfl⟩
    · rintro (⟨hdivides, hzero, -⟩ | ⟨-, -, rfl⟩)
      · exact absurd hzero (hdisjoint hstarts hdivides)
      · rfl
  · rename_i hmapped
    rw [takenFile_beginTraps] at hmapped
    rw [negotiate_error]
    constructor
    · exact Or.inl
    · rintro (hdivides | ⟨hstarts, hunmapped, -⟩)
      · exact hdivides
      · exact absurd ⟨hstarts, hunmapped⟩ hmapped

/-- A header message is handled iff the memory of its file object allows it: it holds chunks of some
bytes where the local file is divided, and a pointer to settings where a file is started. -/
theorem UDTPHeader.respond_ok_iff {env : Environment} {u : UDTP} {h : UDTPHeader} :
    (∃ r, h.respond env u = .ok r) ↔
      (h.DividesFile env → env.fileMemory.chunkSize ≠ 0) ∧
        (h.StartsFile env → env.fileMemory.myUDTPUnmapped = false) := by
  constructor
  · rintro ⟨r, hr⟩
    constructor
    · intro hdivides hzero
      rw [respond_error.mpr (Or.inl ⟨hdivides, hzero, rfl⟩)] at hr
      cases hr
    · intro hstarts
      by_contra hunmapped
      rw [Bool.not_eq_false] at hunmapped
      rw [respond_error.mpr (Or.inr ⟨hstarts, hunmapped, rfl⟩)] at hr
      cases hr
  · rintro ⟨hdivides, hstarts⟩
    cases hr : h.respond env u with
    | ok r => exact ⟨r, rfl⟩
    | error fault =>
      rcases respond_error.mp hr with ⟨hdivided, hzero, -⟩ | ⟨hstarted, hunmapped, -⟩
      · exact absurd hzero (hdivides hdivided)
      · rw [hstarts hstarted] at hunmapped
        cases hunmapped

/-- A handshake names a record by its position, or asks for that of the endpoint itself. -/
theorem UDTPHandshake.respond_error {env : Environment} {u : UDTP} {h : UDTPHandshake}
    {fault : Fault} :
    h.respond env u = .error fault ↔
      (h.responseCode = .responseNone ∧ u.getPeer h.peerID = none ∧ fault = .nullPeer) ∨
      (h.responseCode = .responseApproved ∧ u.listPeers = [] ∧ fault = .indexOutOfRange) := by
  unfold respond
  split
  case h_1 hc => simp [hc]
  case h_2 hc =>
    cases hpeer : u.getPeer h.peerID with
    | none => simp [hc, eq_comm]
    | some p =>
      dsimp only
      split
      · simp [hc]
      · simp [hc]
  case h_3 hc =>
    split
    · rename_i hnil
      simp [hc, hnil, eq_comm]
    · rename_i hcons
      simp [hc, hcons]
  case h_4 hs hn ha =>
    refine iff_of_false (by simp) ?_
    rintro (⟨hc, -⟩ | ⟨hc, -⟩)
    · exact hn hc
    · exact ha hc

/-- A report of packet counts. -/
def UDTPAcknowledge.ReportsCount (a : UDTPAcknowledge) : Prop :=
  a.acknowledgeType = .packetCount ∧ a.acknowledgeResponseCode = .responseNone

/-- An acknowledge on which `respond()` calls `remove_thread()` once the record has a thread:
it asks for that, or reports a critical count.  `named` is the record `get_peer_id()` names. -/
def UDTPAcknowledge.CallsRemoveThread (env : Environment) (named : Option UDTPPeer)
    (a : UDTPAcknowledge) : Prop :=
  (a.acknowledgeType = .removeThread ∧ a.acknowledgeResponseCode = .responseNone) ∨
    (a.ReportsCount ∧ ∃ p, named = some p ∧ p.packetsCount ≠ 0 ∧
      a.packetsCount / p.packetsCount ≤ env.setup.criticalLossPacketPercentage)

/-- A record that counts a thread no queue holds. -/
def UDTPPeer.Unqueued (p : UDTPPeer) : Prop :=
  p.threadCount ≠ 0 ∧ (p.flowThreads = [] ∨ p.processThreads = [])

/-- Removing a thread fails iff the record counts one that no queue holds. -/
theorem UDTPPeer.removeThread_error {p : UDTPPeer} {fault : Fault} :
    p.removeThread = .error fault ↔ p.Unqueued ∧ fault = .frontOfEmptyQueue := by
  unfold removeThread Unqueued
  have hle : p.threadCount ≤ 0 ↔ p.threadCount = 0 := by
    rw [UInt16.le_iff_toNat_le, ← UInt16.toNat_inj, UInt16.toNat_zero]
    omega
  by_cases hzero : p.threadCount = 0
  · simp [hzero]
  · rw [if_neg (hle.not.mpr hzero)]
    by_cases hempty : p.flowThreads = [] ∨ p.processThreads = []
    · rw [if_pos hempty]
      simp [hzero, hempty, eq_comm]
    · rw [if_neg hempty]
      simp [hempty]

namespace UDTPAcknowledge

variable {env : Environment} {u : UDTP} {a : UDTPAcknowledge} {own : UDTPPeer} {fault : Fault}

/-- So it does for the record of a message. -/
theorem removeThread_error (hown : u.getPeer a.myPeer = some own) :
    removeThread u a.myPeer = .error fault ↔ own.Unqueued ∧ fault = .frontOfEmptyQueue := by
  rw [← UDTPPeer.removeThread_error]
  unfold removeThread
  simp only [hown]
  cases own.removeThread with
  | error fault' => simp
  | ok r => simp

/-- A report of packet counts fails iff the record it names does not exist or counted nothing, or
the removal it leads to does. -/
theorem respondPacketCount_error (hown : u.getPeer a.myPeer = some own) :
    respondPacketCount env u a = .error fault ↔
      (u.getPeer a.peerID = none ∧ fault = .nullPeer) ∨
      ∃ p, u.getPeer a.peerID = some p ∧
        ((p.packetsCount = 0 ∧ fault = .divisionByZero) ∨
        (p.packetsCount ≠ 0 ∧
          a.packetsCount / p.packetsCount ≤ env.setup.criticalLossPacketPercentage ∧
          own.Unqueued ∧ fault = .frontOfEmptyQueue)) := by
  unfold respondPacketCount percentageOfSuccessPacket
  cases hp : u.getPeer a.peerID with
  | none => simp [eq_comm]
  | some p =>
    by_cases hzero : p.packetsCount = 0
    · simp [hzero, eq_comm]
    · simp only [hown, hzero, if_false]
      by_cases hcritical :
          a.packetsCount / p.packetsCount ≤ env.setup.criticalLossPacketPercentage
      · rw [if_pos hcritical]
        by_cases hcount : own.threadCount = 0
        · simp [hcount, UDTPPeer.Unqueued, hzero]
        · have hremove : removeThread u a.myPeer = .error fault ↔ _ := removeThread_error hown
          rw [if_pos hcount]
          cases hr : removeThread u a.myPeer with
          | error fault' =>
            rw [hr] at hremove
            simpa [hzero, hcritical] using hremove
          | ok r =>
            rw [hr] at hremove
            simpa [hzero, hcritical] using hremove
      · rw [if_neg hcritical]
        split
        · simp [hzero, hcritical]
        · simp [hzero, hcritical]

/-- An acknowledge divides by the count of the record it names, and takes a thread from the
record of its peer. -/
theorem respond_error (hown : u.getPeer a.myPeer = some own) :
    a.respond env u = .error fault ↔
      (a.ReportsCount ∧ u.getPeer a.peerID = none ∧ fault = .nullPeer) ∨
      (a.ReportsCount ∧ (∃ p, u.getPeer a.peerID = some p ∧ p.packetsCount = 0) ∧
        fault = .divisionByZero) ∨
      (a.CallsRemoveThread env (u.getPeer a.peerID) ∧ own.Unqueued ∧
        fault = .frontOfEmptyQueue) := by
  have hadd : ∃ o, addThread env u a.myPeer = .ok o := by
    unfold addThread
    rw [hown]
    exact ⟨_, rfl⟩
  obtain ⟨o, hadd⟩ := hadd
  unfold respond
  split
  case h_1 ht hc =>
    rw [respondPacketCount_error hown]
    simp only [ReportsCount, CallsRemoveThread, ht, hc]
    cases u.getPeer a.peerID with
    | none => simp
    | some p => simp [and_assoc]
  case h_5 ht hc =>
    have hremove : removeThread u a.myPeer = .error fault ↔ _ := removeThread_error hown
    cases hr : removeThread u a.myPeer with
    | error fault' =>
      rw [hr] at hremove
      simpa [ReportsCount, CallsRemoveThread, ht, hc, Except.map] using hremove
    | ok r =>
      rw [hr] at hremove
      simpa [ReportsCount, CallsRemoveThread, ht, hc, Except.map] using hremove
  case h_7 hreport _ _ _ hremoval _ =>
    refine iff_of_false (by simp) ?_
    rintro (⟨⟨ht, hc⟩, -⟩ | ⟨⟨ht, hc⟩, -⟩ | ⟨⟨ht, hc⟩ | ⟨⟨ht, hc⟩, -⟩, -⟩)
    · exact hreport ht hc
    · exact hreport ht hc
    · exact hremoval ht hc
    · exact hreport ht hc
  all_goals
    rename_i ht hc
    simp [ReportsCount, CallsRemoveThread, ht, hc, hadd, Except.map]

end UDTPAcknowledge

/-! ## Every packet -/

/-- The packets whose handling traps, for an endpoint that has a record for `peer()`, which is
`own`, and for `get_peer_id()` the record `named`, if any. -/
inductive PacketFault (env : Environment) (own : UDTPPeer) (named : Option UDTPPeer) :
    Packet → Fault → Prop
  /-- Settings of nobody. -/
  | settings (h : UDTPHandshake) (hcode : h.decode.responseCode = .responseNone)
      (hnamed : named = none) : PacketFault env own named (.handshake h) .nullPeer
  /-- The path nobody assigned. -/
  | path (h : UDTPHeader) (hfollows : h.followsPath = true) (hunmapped : h.pathUnmapped = true) :
      PacketFault env own named (.header h) .wildPointer
  | division (h : UDTPHeader) (hpath : h.pathUnmapped = false) (hdivides : h.DividesFile env)
      (hzero : env.fileMemory.chunkSize = 0) :
      PacketFault env own named (.header h) .divisionByZero
  /-- The settings nobody assigned to a file. -/
  | start (h : UDTPHeader) (hpath : h.pathUnmapped = false) (hstarts : h.StartsFile env)
      (hunmapped : env.fileMemory.myUDTPUnmapped = true) :
      PacketFault env own named (.header h) .wildPointer
  /-- The packet count of nobody. -/
  | report (a : UDTPAcknowledge) (hreport : a.ReportsCount) (hnamed : named = none) :
      PacketFault env own named (.acknowledge a) .nullPeer
  | count (a : UDTPAcknowledge) (hreport : a.ReportsCount) (p : UDTPPeer)
      (hnamed : named = some p) (hzero : p.packetsCount = 0) :
      PacketFault env own named (.acknowledge a) .divisionByZero
  | thread (a : UDTPAcknowledge) (hcalls : a.CallsRemoveThread env named)
      (hunqueued : own.Unqueued) :
      PacketFault env own named (.acknowledge a) .frontOfEmptyQueue

/-- What traps on a packet object `p` that was made for what arrives: two classes have no buffer,
and the pointer to it is followed all the same before the methods are called. -/
inductive ArrivalFault (env : Environment) (contents : Contents) (own : UDTPPeer)
    (named : Option UDTPPeer) (p : Packet) : Fault → Prop
  | buffer (hraw : p.rawReadable contents = false) :
      ArrivalFault env contents own named p .wildPointer
  | handling (fault : Fault) (hraw : p.rawReadable contents = true)
      (hfault : PacketFault env own named p fault) : ArrivalFault env contents own named p fault

/-- Handling a packet traps where its `respond()` does. -/
theorem process_error {env : Environment} {u : UDTP} {p : Packet} {fault : Fault} :
    process env u p = .error fault ↔ (p.unpack env).2.respond env u = .error fault := by
  unfold process
  cases (p.unpack env).2.respond env u with
  | error fault' => simp
  | ok r => simp

/-- What traps on a header: the path pointer nobody assigned, else the division or the start of a
file. -/
theorem packetFault_header_iff {env : Environment} {own : UDTPPeer} {named : Option UDTPPeer}
    {h : UDTPHeader} {fault : Fault} :
    PacketFault env own named (.header h) fault ↔
      (h.pathUnmapped = true ∧ h.followsPath = true ∧ fault = .wildPointer) ∨
      (h.pathUnmapped = false ∧
        ((h.DividesFile env ∧ env.fileMemory.chunkSize = 0 ∧ fault = .divisionByZero) ∨
          (h.StartsFile env ∧ env.fileMemory.myUDTPUnmapped = true ∧ fault = .wildPointer))) := by
  constructor
  · intro hfault
    cases hfault with
    | path _ hfollows hunmapped => exact Or.inl ⟨hunmapped, hfollows, rfl⟩
    | division _ hpath hdivides hzero => exact Or.inr ⟨hpath, Or.inl ⟨hdivides, hzero, rfl⟩⟩
    | start _ hpath hstarts hunmapped => exact Or.inr ⟨hpath, Or.inr ⟨hstarts, hunmapped, rfl⟩⟩
  · rintro (⟨hunmapped, hfollows, rfl⟩ | ⟨hpath, hdividing | hstarting⟩)
    · exact .path h hfollows hunmapped
    · obtain ⟨hdivides, hzero, rfl⟩ := hdividing
      exact .division h hpath hdivides hzero
    · obtain ⟨hstarts, hunmapped, rfl⟩ := hstarting
      exact .start h hpath hstarts hunmapped

/-- A header is handled with a trap in just these cases.  A message whose path is not followed
divides no file and starts none. -/
theorem header_error_iff {env : Environment} {u : UDTP} {h : UDTPHeader} {fault : Fault} :
    ((Packet.header h).unpack env).2.respond env u = .error fault ↔
      (h.pathUnmapped = true ∧ h.followsPath = true ∧ fault = .wildPointer) ∨
      (h.pathUnmapped = false ∧
        ((h.DividesFile env ∧ env.fileMemory.chunkSize = 0 ∧ fault = .divisionByZero) ∨
          (h.StartsFile env ∧ env.fileMemory.myUDTPUnmapped = true ∧ fault = .wildPointer))) := by
  cases hpath : h.pathUnmapped with
  | false => simp [Packet.unpack, Packet.respond, UDTPHeader.unpack, hpath, map_error_iff,
      UDTPHeader.respond_error]
  | true =>
    cases hfollows : h.followsPath with
    | true =>
      rw [eq_comm (a := fault)]
      simp [Packet.unpack, Packet.respond, UDTPHeader.unpack, hpath, hfollows]
    | false =>
      have hdivides : ¬ h.DividesFile env := fun hdivides => by
        simp [hdivides.followsPath] at hfollows
      have hstarts : ¬ h.StartsFile env := fun hstarts => by
        simp [hstarts.followsPath] at hfollows
      simp [Packet.unpack, Packet.respond, UDTPHeader.unpack, hpath, hfollows, map_error_iff,
        UDTPHeader.respond_error, hdivides, hstarts]

/-- **The list of faults is complete.** -/
theorem process_error_iff {env : Environment} {u : UDTP} {p : Packet} {own : UDTPPeer}
    (hown : u.getPeer p.base.myPeer = some own) {fault : Fault} :
    process env u p = .error fault ↔
      PacketFault env own (u.getPeer p.base.peerID) p fault := by
  rw [process_error]
  cases p with
  | handshake h =>
    have hpacket := h.unpack_toUDTPPacket
    have hcode : h.unpack.2.responseCode = h.decode.responseCode := by rw [hpacket]
    have hpeer : h.unpack.2.peerID = h.peerID := by rw [hpacket]; rfl
    have hne : u.listPeers ≠ [] := by
      intro hnil
      simp [UDTP.getPeer, hnil] at hown
    simp only [Packet.unpack, Packet.respond, map_error_iff, UDTPHandshake.respond_error, hcode,
      hpeer, hne, false_and, and_false, or_false, Packet.base]
    constructor
    · rintro ⟨hnone, hnamed, rfl⟩
      exact .settings h hnone hnamed
    · intro hfault
      cases hfault with
      | settings _ hnone hnamed => exact ⟨hnone, hnamed, rfl⟩
  | header h =>
    rw [packetFault_header_iff, header_error_iff]
  | path pa =>
    refine iff_of_false (by simp [Packet.unpack, Packet.respond]) ?_
    rintro ⟨⟩
  | acknowledge a =>
    simp only [Packet.unpack, Packet.respond, UDTPAcknowledge.unpack, map_error_iff]
    rw [UDTPAcknowledge.respond_error hown]
    constructor
    · rintro (⟨hreport, hnamed, rfl⟩ | ⟨hreport, ⟨p, hnamed, hzero⟩, rfl⟩ |
        ⟨hcalls, hunqueued, rfl⟩)
      · exact .report a hreport hnamed
      · exact .count a hreport p hnamed hzero
      · exact .thread a hcalls hunqueued
    · intro hfault
      cases hfault with
      | report _ hreport hnamed => exact Or.inl ⟨hreport, hnamed, rfl⟩
      | count _ hreport p hnamed hzero => exact Or.inr (Or.inl ⟨hreport, ⟨p, hnamed, hzero⟩, rfl⟩)
      | thread _ hcalls hunqueued => exact Or.inr (Or.inr ⟨hcalls, hunqueued, rfl⟩)

/-- What an end sets in a packet object before it calls the methods decides nothing about
whether they trap. -/
theorem packetFault_mapBase {env : Environment} {own : UDTPPeer} {named : Option UDTPPeer}
    {f : UDTPPacket → UDTPPacket} (hheader : ∀ b, (f b).header = b.header)
    (hcode : ∀ b, (f b).responseCode = b.responseCode) (hraw : ∀ b, (f b).raw = b.raw)
    {p : Packet} {fault : Fault} :
    PacketFault env own named (p.mapBase f) fault ↔ PacketFault env own named p fault := by
  cases p with
  | handshake h =>
    have hdecode :
        ({ h with toUDTPPacket := f h.toUDTPPacket } : UDTPHandshake).decode.responseCode =
          h.decode.responseCode := by
      simp [UDTPHandshake.fillData, hheader, hraw]
    constructor
    · intro hfault
      cases hfault with
      | settings _ hnone hnamed => exact .settings h (hdecode ▸ hnone) hnamed
    · intro hfault
      cases hfault with
      | settings _ hnone hnamed => exact .settings _ (hdecode.trans hnone) hnamed
  | header h =>
    have hdivides : ({ h with toUDTPPacket := f h.toUDTPPacket } : UDTPHeader).DividesFile env ↔
        h.DividesFile env := by
      simp [UDTPHeader.DividesFile, hcode, UDTPHeader.newFile]
    have hstarts : ({ h with toUDTPPacket := f h.toUDTPPacket } : UDTPHeader).StartsFile env ↔
        h.StartsFile env := by
      simp [UDTPHeader.StartsFile, hcode, UDTPHeader.newFile]
    have hpath : ({ h with toUDTPPacket := f h.toUDTPPacket } : UDTPHeader).followsPath =
        h.followsPath := by
      simp [UDTPHeader.followsPath, hcode]
    constructor
    · intro hfault
      cases hfault with
      | path _ hfollows hunmapped => exact .path h (hpath ▸ hfollows) hunmapped
      | division _ hpath hd hzero => exact .division h hpath (hdivides.mp hd) hzero
      | start _ hpath hs hunmapped => exact .start h hpath (hstarts.mp hs) hunmapped
    · intro hfault
      cases hfault with
      | path _ hfollows hunmapped => exact .path _ (hpath.trans hfollows) hunmapped
      | division _ hpath hd hzero => exact .division _ hpath (hdivides.mpr hd) hzero
      | start _ hpath hs hunmapped => exact .start _ hpath (hstarts.mpr hs) hunmapped
  | path pa =>
    constructor
    · rintro ⟨⟩
    · rintro ⟨⟩
  | acknowledge a =>
    constructor
    · intro hfault
      cases hfault with
      | report _ hreport hnamed => exact .report a hreport hnamed
      | count _ hreport p hnamed hzero => exact .count a hreport p hnamed hzero
      | thread _ hcalls hunqueued => exact .thread a hcalls hunqueued
    · intro hfault
      cases hfault with
      | report _ hreport hnamed => exact .report _ hreport hnamed
      | count _ hreport p hnamed hzero => exact .count _ hreport p hnamed hzero
      | thread _ hcalls hunqueued => exact .thread _ hcalls hunqueued

end Udtp
