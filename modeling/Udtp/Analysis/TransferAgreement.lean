import Udtp.Analysis.ExchangeSteps
import Udtp.Analysis.PacketFaults

/-!
# What two ends agree on about a file

A transfer is negotiated by header messages, and every branch of `respond()` builds a
fresh `UDTPFile`.  A member that no branch assigns keeps what the memory held, and four of
these members, the chunk size, the ID, the transfer type and the pointer to the settings, travel
or decide.  `transfer_agrees_iff` composes the branches of both ends: a pull runs to its end and
leaves matching files iff the memories happen to match, a push never does.
-/

set_option autoImplicit false

namespace Udtp

open StepMachine

/-! ## Messages and files -/

namespace UDTPHeader

/-- Two header objects that hold the same message. -/
structure SameMessage (h o : UDTPHeader) : Prop where
  responseCode : o.responseCode = h.responseCode
  pathOfFile : o.pathOfFile = h.pathOfFile
  fileID : o.fileID = h.fileID
  numberOfChunks : o.numberOfChunks = h.numberOfChunks
  sizeOfFile : o.sizeOfFile = h.sizeOfFile
  transferType : o.transferType = h.transferType

end UDTPHeader

/-- Whatever falls off the end, an approver's file is outgoing iff it is a pull. -/
theorem UDTPFile.getThreadType_outgoing_iff {f : UDTPFile} (h : f.approver = true) :
    (∀ env, f.getThreadType env = .outgoing) ↔ f.transferType = .pull := by
  constructor
  · intro hout
    have hincoming := hout { (default : Environment) with fellOffThreadType := .incoming }
    unfold getThreadType at hincoming
    rw [h] at hincoming
    split at hincoming
    all_goals simp_all
  · intro htype env
    simp [getThreadType, h, htype]

/-! ## Deliveries -/

namespace Exchange

variable {hostEnd peerEnd : EndPoint} {x y : Exchange}

/-- Where the receiving end keeps the record of the other. -/
def receiverPos (x : Exchange) : ℕ := if x.toHost then x.posID else 0

/-- The object made from a header message holds the same message, and a path. -/
theorem setFields_header (x : Exchange) (socket : Socket) (uniqueID : UInt32) (memory : Contents)
    (h : UDTPHeader) :
    ∃ o, setFields x.toHost socket x.posID uniqueID
        (.header (UDTPHeader.ofHeader ((Packet.header h).arrive memory).header
          (Packet.header h).packetDeduction)) = .header o ∧ h.SameMessage o ∧
      o.pathUnmapped = false ∧ o.myPeer = x.receiverPos := by
  unfold setFields receiverPos
  split
  · exact ⟨_, rfl, ⟨rfl, rfl, rfl, rfl, rfl, rfl⟩, rfl, rfl⟩
  · exact ⟨_, rfl, ⟨rfl, rfl, rfl, rfl, rfl, rfl⟩, rfl, rfl⟩

/-- A header message is handled by `respond()` on an object that holds the same message. -/
theorem deliver_header {input : Delivery} {h : UDTPHeader} (hx : x.wire = some (.header h))
    (hy : deliver hostEnd peerEnd x input = .ok y) :
    ∃ o b h' u, h.SameMessage o ∧ o.myPeer = x.receiverPos ∧
      o.respond ((x.receiverEnd hostEnd peerEnd).environment input) x.receiver =
        .ok (b, h', u) ∧
      y = x.answered u (if b then some (.header h') else none) := by
  obtain ⟨socket, uniqueID, b, r, u, hprocess, rfl⟩ := deliver_cases hx rfl hy
  obtain ⟨o, ho, hsame, -, hpos⟩ := setFields_header x socket uniqueID input.memory h
  rw [ho] at hprocess
  obtain ⟨-, h', hrespond, rfl⟩ := process_header.mp hprocess
  exact ⟨o, b, h', u, hsame, hpos, hrespond, rfl⟩

/-- Between connected ends a header message is delivered where the memory of the file object allows
its branch. -/
theorem deliver_header_ok {input : Delivery} {h : UDTPHeader} (hconnected : x.Connected)
    (hx : x.wire = some (.header h))
    (hmemory : ∀ o, h.SameMessage o →
      (o.DividesFile ((x.receiverEnd hostEnd peerEnd).environment input) →
        input.environment.fileMemory.chunkSize ≠ 0) ∧
      (o.StartsFile ((x.receiverEnd hostEnd peerEnd).environment input) →
        input.environment.fileMemory.myUDTPUnmapped = false)) :
    ∃ y, deliver hostEnd peerEnd x input = .ok y := by
  refine hconnected.deliver_ok hx rfl rfl ?_
  intro socket uniqueID
  obtain ⟨o, ho, hsame, hmapped, -⟩ := setFields_header x socket uniqueID input.memory h
  obtain ⟨⟨b, h', u⟩, hrespond⟩ :=
    (UDTPHeader.respond_ok_iff (u := x.receiver)).mpr (hmemory o hsame)
  rw [ho]
  exact ⟨_, process_header.mpr ⟨by simp [hmapped], h', hrespond, rfl⟩⟩

/-- A run of one delivery more begins with the first. -/
theorem run_range_succ {n : ℕ} {inputs : ℕ → Delivery} :
    run hostEnd peerEnd x ((List.range (n + 1)).map inputs) = .ok y ↔
      ∃ z, deliver hostEnd peerEnd x (inputs 0) = .ok z ∧
        run hostEnd peerEnd z ((List.range n).map fun k => inputs (k + 1)) = .ok y := by
  rw [List.range_succ_eq_map, List.map_cons, List.map_map, run, run_cons_ok]
  rfl

/-- An exchange that ended made a delivery for whatever was on the wire. -/
theorem run_ended {n : ℕ} {inputs : ℕ → Delivery} {p : Packet} (hx : x.wire = some p)
    (hrun : run hostEnd peerEnd x ((List.range n).map inputs) = .ok y) (hend : y.wire = none) :
    ∃ m z, deliver hostEnd peerEnd x (inputs 0) = .ok z ∧
      run hostEnd peerEnd z ((List.range m).map fun k => inputs (k + 1)) = .ok y := by
  cases n with
  | zero =>
    cases hrun
    rw [hx] at hend
    cases hend
  | succ m =>
    obtain ⟨z, hz, hrest⟩ := run_range_succ.mp hrun
    exact ⟨m, z, hz, hrest⟩

/-- An exchange with a header for the HOST that comes to an end has the HOST respond to it first. -/
theorem run_header_host {n : ℕ} {inputs : ℕ → Delivery} {h : UDTPHeader}
    (hx : x.wire = some (.header h)) (hto : x.toHost = true)
    (hrun : run hostEnd peerEnd x ((List.range n).map inputs) = .ok y) (hend : y.wire = none) :
    ∃ m o b h' u, h.SameMessage o ∧
      o.respond (hostEnd.environment (inputs 0)) x.host = .ok (b, h', u) ∧
      run hostEnd peerEnd
        { x with host := u, wire := if b then some (.header h') else none, toHost := false }
        ((List.range m).map fun k => inputs (k + 1)) = .ok y := by
  obtain ⟨m, z, hz, hrest⟩ := run_ended hx hrun hend
  obtain ⟨o, b, h', u, hsame, -, hrespond, rfl⟩ := deliver_header hx hz
  simp only [receiverEnd, receiver, answered, hto, if_true] at hrespond hrest
  exact ⟨m, o, b, h', u, hsame, hrespond, hrest⟩

/-- An exchange with a header for the PEER that comes to an end has the PEER respond to it first. -/
theorem run_header_peer {n : ℕ} {inputs : ℕ → Delivery} {h : UDTPHeader}
    (hx : x.wire = some (.header h)) (hto : x.toHost = false)
    (hrun : run hostEnd peerEnd x ((List.range n).map inputs) = .ok y) (hend : y.wire = none) :
    ∃ m o b h' u, h.SameMessage o ∧
      o.respond (peerEnd.environment (inputs 0)) x.peer = .ok (b, h', u) ∧
      run hostEnd peerEnd
        { x with peer := u, wire := if b then some (.header h') else none, toHost := true }
        ((List.range m).map fun k => inputs (k + 1)) = .ok y := by
  obtain ⟨m, z, hz, hrest⟩ := run_ended hx hrun hend
  obtain ⟨o, b, h', u, hsame, -, hrespond, rfl⟩ := deliver_header hx hz
  simp only [receiverEnd, receiver, answered, hto, Bool.false_eq_true, if_false] at hrespond hrest
  exact ⟨m, o, b, h', u, hsame, hrespond, hrest⟩

/-- Without a packet on the wire a run stays where it is. -/
theorem eq_of_run_stopped {inputs : List Delivery} (hx : x.wire = none)
    (hrun : run hostEnd peerEnd x inputs = .ok y) : y = x := by
  rw [run_stopped hx] at hrun
  exact (Except.ok.inj hrun).symm

/-- Messages of neither type are passed on without a trace. -/
theorem run_unknown {v : UInt32} {inputs : List Delivery}
    (hx : ∀ p, x.wire = some p → ∃ h, p = .header h ∧ h.transferType = .unknown v)
    (hrun : run hostEnd peerEnd x inputs = .ok y) : y.host = x.host ∧ y.peer = x.peer := by
  have hinv := run_preserves (deliver hostEnd peerEnd)
    (fun y => (∀ p, y.wire = some p → ∃ h, p = .header h ∧ h.transferType = .unknown v) ∧
      y.host = x.host ∧ y.peer = x.peer) ?_ ⟨hx, rfl, rfl⟩ hrun
  · exact hinv.2
  rintro z input w ⟨hz, hhost, hpeer⟩ hdeliver
  cases hwire : z.wire with
  | none =>
    simp only [deliver, hwire, Except.ok.injEq] at hdeliver
    subst hdeliver
    exact ⟨hz, hhost, hpeer⟩
  | some p =>
    obtain ⟨h, rfl, ht⟩ := hz p hwire
    obtain ⟨o, b, h', u, hsame, -, hrespond, rfl⟩ := deliver_header hwire hdeliver
    have hot : o.transferType = .unknown v := hsame.transferType.trans ht
    obtain ⟨rfl, rfl⟩ := UDTPHeader.respond_unknown hot hrespond
    refine ⟨?_, ?_, ?_⟩
    · intro p hp
      rw [answered_wire] at hp
      split at hp
      · cases hp
        exact ⟨h', rfl, hot⟩
      · cases hp
    · cases hto : z.toHost <;> simp [answered, receiver, hto, hhost]
    · cases hto : z.toHost <;> simp [answered, receiver, hto, hpeer]

/-! ## Agreement -/

/-- An endpoint took one file and no other. -/
def TookFile (u v : UDTP) (f : UDTPFile) : Prop :=
  v.files = u.files ++ [f] ∧ v.overallFiles = u.overallFiles ++ [u.files.length]

/-- The files of the HOST and of the PEER are active, have one ID that is not zero, one size
and one number of chunks, and the data go from the end that holds them to the other. -/
structure FilesMatch (type : TransferType) (f g : UDTPFile) : Prop where
  active : f.active = true ∧ g.active = true
  fileID : f.fileID = g.fileID ∧ f.fileID ≠ 0
  sizeOfFile : f.sizeOfFile = g.sizeOfFile
  numberOfChunks : f.numberOfChunks = g.numberOfChunks
  hostThreads : ∀ env, f.getThreadType env = if type = .pull then .outgoing else .incoming
  peerThreads : ∀ env, g.getThreadType env = if type = .pull then .incoming else .outgoing

/-- Each end took exactly one file, and the two match. -/
def TransferAgrees (type : TransferType) (x y : Exchange) : Prop :=
  ∃ f g, TookFile x.host y.host f ∧ TookFile x.peer y.peer g ∧ FilesMatch type f g

/-- The memories the file objects of a pull are built in hold what the ends have to agree on.  The
`first` and the `last` one are the HOST's, for the request and for the confirmation, and the
`approved` one is the PEER's. -/
structure PullMemoriesMatch (size : UInt16) (first approved last : UDTPFile) : Prop where
  firstType : first.transferType = .pull
  lastType : last.transferType = .pull
  fileID : last.fileID = first.fileID.toUInt16.toUInt32
  fileID_ne_zero : last.fileID ≠ 0
  chunkSize : first.chunkSize ≠ 0 ∧ last.chunkSize ≠ 0
  numberOfChunks : UDTPFile.retrieveNumberOfChunks size last.chunkSize =
    UDTPFile.retrieveNumberOfChunks size first.chunkSize
  /-- The settings of the two files that are started. -/
  myUDTP : approved.myUDTPUnmapped = false ∧ last.myUDTPUnmapped = false

/-- The exchange runs to its end, and the two ends agree on one file each. -/
def EndsInAgreement (hostEnd peerEnd : EndPoint) (type : TransferType) (x : Exchange)
    (inputs : ℕ → Delivery) : Prop :=
  ∃ n y, run hostEnd peerEnd x ((List.range n).map inputs) = .ok y ∧ y.wire = none ∧
    TransferAgrees type x y

/-- The exchange that begins when the PEER asks for a transfer. -/
def ofRequest (host peer : UDTP) (posID : ℕ) (socket : Socket) (request : UDTPHeader) :
    Exchange where
  host := host
  peer := peer
  posID := posID
  socket := socket
  toHost := true
  wire := some (.header request)

/-- Two started files of a pull, one at each end, match iff their members do. -/
theorem filesMatch_started_iff (env env' : Environment) {f g : UDTPFile}
    (hf : f.approver = true) (hg : g.approver = false) (hpull : g.transferType = .pull)
    (hsize : f.sizeOfFile = g.sizeOfFile) :
    FilesMatch .pull (f.started env) (g.started env') ↔
      f.transferType = .pull ∧ f.fileID = g.fileID ∧ f.fileID ≠ 0 ∧
        f.numberOfChunks = g.numberOfChunks := by
  constructor
  · intro h
    exact ⟨(UDTPFile.getThreadType_outgoing_iff hf).mp h.hostThreads, h.fileID.1, h.fileID.2,
      h.numberOfChunks⟩
  · rintro ⟨htype, hid, hne, hchunks⟩
    exact {
      active := ⟨rfl, rfl⟩
      fileID := ⟨hid, hne⟩
      sizeOfFile := hsize
      numberOfChunks := hchunks
      hostThreads := (UDTPFile.getThreadType_outgoing_iff hf).mpr htype
      peerThreads := by
        intro e
        change g.getThreadType e = .incoming
        simp [UDTPFile.getThreadType, hg, hpull] }

/-- Taking a file is having taken it. -/
theorem tookFile_takeFile {u v : UDTP} (hv : UDTPHeader.SameButCounter u v) (env : Environment)
    (posID : ℕ) (f : UDTPFile) :
    TookFile u (v.takeFile env posID f) (f.beginFileProcessing env).2 := by
  obtain ⟨count, rfl⟩ := hv
  exact ⟨UDTP.takeFile_files env posID f _, rfl⟩

/-- An end that took a file has other files than before. -/
theorem TookFile.files_ne {u v : UDTP} {f : UDTPFile} (h : TookFile u v f) : v.files ≠ u.files := by
  intro heq
  have := congrArg List.length (heq.symm.trans h.1)
  simp at this

/-- An end that took a file took no other. -/
theorem TookFile.unique {u v : UDTP} {f g : UDTPFile} (hf : TookFile u v f)
    (hg : TookFile u v g) : f = g := by
  have := hf.1.symm.trans hg.1
  simpa using this

/-- Whether the end that is asked has the file. -/
def requestedFileExists (self : EndPoint) (request : UDTPHeader) : Bool :=
  (UDTPFile.new default request.pathOfFile).checkFileExist self.fileSystem

section Transfer

variable {host peer : UDTP} {posID : ℕ} {socket : Socket} {request : UDTPHeader}
  {inputs : ℕ → Delivery} {n : ℕ}

/-- A push never ends in agreement: the file of the HOST has the ID of the request. -/
theorem push_not_agrees (hid : request.fileID = 0) (hcode : request.responseCode = .responseNone)
    (htype : request.transferType = .push) (hexists : requestedFileExists hostEnd request = false)
    (hrun : run hostEnd peerEnd (ofRequest host peer posID socket request)
      ((List.range n).map inputs) = .ok y) (hend : y.wire = none) :
    ¬ TransferAgrees .push (ofRequest host peer posID socket request) y := by
  -- the request at the HOST
  obtain ⟨m, o, b, h₁, u, hsame, hrespond, hrest⟩ := run_header_host rfl rfl hrun hend
  have hmissing : (o.newFile (hostEnd.environment (inputs 0))).checkFileExist
      (hostEnd.environment (inputs 0)).fileSystem = false := by
    rw [UDTPHeader.newFile, hsame.pathOfFile]
    exact hexists
  obtain ⟨rfl, hcode₁, htype₁, v, hv, hu⟩ := UDTPHeader.respond_pushRequest
    (hsame.transferType.trans htype) (hsame.responseCode.trans hcode) hmissing hrespond
  -- its approval at the PEER
  obtain ⟨m', o', b', h₂, u', hsame', hrespond', hrest'⟩ := run_header_peer rfl rfl hrest hend
  obtain ⟨rfl, -⟩ := UDTPHeader.respond_pushApproved (hsame'.transferType.trans htype₁)
    (hsame'.responseCode.trans hcode₁) hrespond'
  obtain rfl := eq_of_run_stopped rfl hrest'
  rintro ⟨f, g, hf, -, hmatch⟩
  have htook : TookFile host u _ := hu ▸ tookFile_takeFile hv _ _ _
  have hstart := UDTPFile.beginFileProcessing_sameTransfer (hostEnd.environment (inputs 0))
    (o.requestedPushFile (hostEnd.environment (inputs 0))) rfl
  have hzero : f.fileID = 0 := by
    rw [TookFile.unique hf htook, hstart.fileID]
    change o.fileID.toUInt32 = 0
    rw [hsame.fileID, hid]
    rfl
  exact hmatch.fileID.2 hzero

/-- The first answer to a pull: the HOST approves with the members of a fresh file object. -/
theorem pull_approved (hcode : request.responseCode = .responseNone)
    (htype : request.transferType = .pull) (hexists : requestedFileExists hostEnd request = true)
    (hrun : run hostEnd peerEnd (ofRequest host peer posID socket request)
      ((List.range n).map inputs) = .ok y) (hend : y.wire = none) :
    ∃ m u h, (inputs 0).environment.fileMemory.chunkSize ≠ 0 ∧
      UDTPHeader.SameButCounter host u ∧ h.responseCode = .responseApproved ∧
      h.pathOfFile = request.pathOfFile ∧
      h.transferType = (inputs 0).environment.fileMemory.transferType ∧
      h.fileID = (inputs 0).environment.fileMemory.fileID.toUInt16 ∧
      h.numberOfChunks = UDTPFile.retrieveNumberOfChunks
        (UDTPHeader.localSize hostEnd.fileSystem request.pathOfFile)
        (inputs 0).environment.fileMemory.chunkSize ∧
      h.sizeOfFile = (UDTPHeader.localSize hostEnd.fileSystem request.pathOfFile).toUInt32 ∧
      run hostEnd peerEnd ⟨u, peer, posID, socket, false, some (.header h)⟩
        ((List.range m).map fun k => inputs (k + 1)) = .ok y := by
  obtain ⟨m, o, b, h, u, hsame, hrespond, hrest⟩ := run_header_host rfl rfl hrun hend
  have hfound : (o.newFile (hostEnd.environment (inputs 0))).checkFileExist
      (hostEnd.environment (inputs 0)).fileSystem = true := by
    rw [UDTPHeader.newFile, hsame.pathOfFile]
    exact hexists
  have hdivided := (UDTPHeader.respond_ok_iff.mp ⟨_, hrespond⟩).1
    ⟨hsame.transferType.trans htype, Or.inl ⟨hsame.responseCode.trans hcode, hfound⟩⟩
  obtain ⟨rfl, hcounter, happroved, hpath, hkind, hid, hchunks, hsize⟩ :=
    UDTPHeader.respond_pullRequest (hsame.transferType.trans htype)
      (hsame.responseCode.trans hcode) hfound hrespond
  rw [hsame.pathOfFile] at hpath hchunks hsize
  exact ⟨m, u, h, hdivided, hcounter, happroved, hpath, hkind, hid, hchunks, hsize, hrest⟩

/-- A pull that was approved as a pull: what the ends have taken once it is over. -/
theorem pull_took {u : UDTP} {h : UDTPHeader} {m : ℕ} (hcounter : UDTPHeader.SameButCounter host u)
    (hcode : h.responseCode = .responseApproved) (htype : h.transferType = .pull)
    (hrun : run hostEnd peerEnd ⟨u, peer, posID, socket, false, some (.header h)⟩
      ((List.range m).map inputs) = .ok y) (hend : y.wire = none) :
    ∃ (f g : UDTPFile) (env env' : Environment),
      TookFile host y.host (f.started env) ∧ TookFile peer y.peer (g.started env') ∧
      f.approver = true ∧ g.approver = false ∧ g.transferType = .pull ∧
      f.transferType = (inputs 1).environment.fileMemory.transferType ∧
      f.fileID = (inputs 1).environment.fileMemory.fileID ∧
      f.sizeOfFile = (UDTPHeader.localSize hostEnd.fileSystem h.pathOfFile).toUInt32 ∧
      f.numberOfChunks = UDTPFile.retrieveNumberOfChunks
        (UDTPHeader.localSize hostEnd.fileSystem h.pathOfFile)
        (inputs 1).environment.fileMemory.chunkSize ∧
      g.fileID = h.fileID.toUInt32 ∧ g.sizeOfFile = h.sizeOfFile ∧
      g.numberOfChunks = h.numberOfChunks ∧
      (inputs 1).environment.fileMemory.chunkSize ≠ 0 ∧
      (inputs 0).environment.fileMemory.myUDTPUnmapped = false ∧
      (inputs 1).environment.fileMemory.myUDTPUnmapped = false := by
  -- the approval at the PEER
  obtain ⟨m', o, b, h₁, u₁, hsame, hrespond, hrest⟩ := run_header_peer rfl rfl hrun hend
  have hstarted := (UDTPHeader.respond_ok_iff.mp ⟨_, hrespond⟩).2
    (Or.inl ⟨hsame.transferType.trans htype, hsame.responseCode.trans hcode⟩)
  obtain ⟨rfl, rfl, hu₁⟩ := UDTPHeader.respond_pullApproved (hsame.transferType.trans htype)
    (hsame.responseCode.trans hcode) hrespond
  -- the confirmation at the HOST
  obtain ⟨m'', o', b', h₂, u₂, hsame', hrespond', hrest'⟩ := run_header_host rfl rfl hrest hend
  have hconfirm : o'.transferType = .pull ∧ o'.responseCode = .responseConfirm :=
    ⟨hsame'.transferType.trans (hsame.transferType.trans htype), hsame'.responseCode⟩
  have hmemory := UDTPHeader.respond_ok_iff.mp ⟨_, hrespond'⟩
  have hdivided' := hmemory.1 ⟨hconfirm.1, Or.inr hconfirm.2⟩
  have hstarted' := hmemory.2 (Or.inr (Or.inl ⟨hconfirm.1, hconfirm.2, hdivided'⟩))
  obtain ⟨rfl, f, hf, hu₂⟩ := UDTPHeader.respond_pullConfirm hconfirm.1 hconfirm.2 hrespond'
  obtain rfl := eq_of_run_stopped rfl hrest'
  obtain ⟨hactive, happroved, hcrit, happrover, hid, hkind, hsize, hchunks⟩ :=
    UDTPHeader.confirmedPullFile_spec hf
  have hpath : o'.pathOfFile = h.pathOfFile := hsame'.pathOfFile.trans hsame.pathOfFile
  rw [hpath] at hsize hchunks
  have hhost := tookFile_takeFile hcounter (hostEnd.environment (inputs 1)) o'.myPeer f
  rw [UDTPFile.beginFileProcessing_eq _ f hactive, if_pos ⟨happroved, hcrit⟩] at hhost
  have hpeer := tookFile_takeFile (UDTPHeader.SameButCounter.refl peer)
    (peerEnd.environment (inputs 0)) o.myPeer
    (o.approvedPullFile (peerEnd.environment (inputs 0)))
  rw [UDTPFile.beginFileProcessing_eq _ _ rfl, if_pos ⟨rfl, rfl⟩] at hpeer
  exact ⟨f, o.approvedPullFile (peerEnd.environment (inputs 0)), _, _, hu₂ ▸ hhost, hu₁ ▸ hpeer,
    happrover, rfl, hsame.transferType.trans htype, hkind, hid, hsize, hchunks,
    congrArg UInt16.toUInt32 hsame.fileID, hsame.sizeOfFile, hsame.numberOfChunks, hdivided',
    hstarted, hstarted'⟩

/-- A pull that was approved as something else leaves the HOST without a file. -/
theorem pull_not_took {u : UDTP} {h : UDTPHeader} {m : ℕ}
    (hcounter : UDTPHeader.SameButCounter host u) (hcode : h.responseCode = .responseApproved)
    (htype : h.transferType ≠ .pull)
    (hrun : run hostEnd peerEnd ⟨u, peer, posID, socket, false, some (.header h)⟩
      ((List.range m).map inputs) = .ok y) (hend : y.wire = none) : y.host.files = host.files := by
  have hfiles : u.files = host.files := by
    obtain ⟨count, rfl⟩ := hcounter
    rfl
  cases hkind : h.transferType with
  | pull => exact absurd hkind htype
  | push =>
    obtain ⟨m', o, b, h₁, u₁, hsame, hrespond, hrest⟩ := run_header_peer rfl rfl hrun hend
    obtain ⟨rfl, -⟩ := UDTPHeader.respond_pushApproved (hsame.transferType.trans hkind)
      (hsame.responseCode.trans hcode) hrespond
    obtain rfl := eq_of_run_stopped rfl hrest
    exact hfiles
  | unknown v =>
    have hkeep := run_unknown (fun p hp => ⟨h, (Option.some.inj hp).symm, hkind⟩) hrun
    exact (congrArg UDTP.files hkeep.1).trans hfiles

/-- A pull that ran to its end left the ends in agreement iff the memories match. -/
theorem pull_agrees_iff (hcode : request.responseCode = .responseNone)
    (htype : request.transferType = .pull) (hexists : requestedFileExists hostEnd request = true)
    (hrun : run hostEnd peerEnd (ofRequest host peer posID socket request)
      ((List.range n).map inputs) = .ok y) (hend : y.wire = none) :
    TransferAgrees .pull (ofRequest host peer posID socket request) y ↔
      PullMemoriesMatch (UDTPHeader.localSize hostEnd.fileSystem request.pathOfFile)
        (inputs 0).environment.fileMemory (inputs 1).environment.fileMemory
        (inputs 2).environment.fileMemory := by
  obtain ⟨m, u, h, hdivided, hcounter, happroved, hpath, hkind, hid, hchunks, hsize, hrest⟩ :=
    pull_approved hcode htype hexists hrun hend
  by_cases hpull : h.transferType = .pull
  · obtain ⟨f, g, env, env', hhost, hpeer, hf, hg, hgtype, hftype, hfid, hfsize, hfchunks, hgid,
      hgsize, hgchunks, hdivided', hstarted, hstarted'⟩ :=
      pull_took hcounter happroved hpull hrest hend
    rw [hpath] at hfsize hfchunks
    have hmatch := filesMatch_started_iff env env' hf hg hgtype
      (hfsize.trans (hsize.symm.trans hgsize.symm))
    rw [hftype, hfid, hfchunks, hgid, hgchunks, hid, hchunks] at hmatch
    constructor
    · rintro ⟨f', g', hf', hg', hagree⟩
      rw [TookFile.unique hf' hhost, TookFile.unique hg' hpeer] at hagree
      obtain ⟨hlast, heq, hne, hnumber⟩ := hmatch.mp hagree
      exact {
        firstType := hkind.symm.trans hpull
        lastType := hlast
        fileID := heq
        fileID_ne_zero := hne
        chunkSize := ⟨hdivided, hdivided'⟩
        numberOfChunks := hnumber
        myUDTP := ⟨hstarted, hstarted'⟩ }
    · intro h
      exact ⟨_, _, hhost, hpeer,
        hmatch.mpr ⟨h.lastType, h.fileID, h.fileID_ne_zero, h.numberOfChunks⟩⟩
  · apply iff_of_false
    · rintro ⟨f, g, hf, -, -⟩
      exact hf.files_ne (pull_not_took hcounter happroved hpull hrest hend)
    · intro hmatch
      exact hpull (hkind.trans hmatch.firstType)

/-- The request of a pull is delivered where the memory of its file object has a chunk size.  It is
approved with the type that memory holds. -/
theorem pull_request_delivered {input : Delivery}
    (hconnected : (ofRequest host peer posID socket request).Connected)
    (hcode : request.responseCode = .responseNone) (htype : request.transferType = .pull)
    (hexists : requestedFileExists hostEnd request = true)
    (hdivided : input.environment.fileMemory.chunkSize ≠ 0) :
    ∃ (u : UDTP) (h : UDTPHeader),
      deliver hostEnd peerEnd (ofRequest host peer posID socket request) input =
        .ok ⟨u, peer, posID, socket, false, some (.header h)⟩ ∧
      Connected ⟨u, peer, posID, socket, false, some (.header h)⟩ ∧
      h.responseCode = .responseApproved ∧
      h.transferType = input.environment.fileMemory.transferType := by
  obtain ⟨z, hz⟩ : ∃ z, deliver hostEnd peerEnd (ofRequest host peer posID socket request) input =
      .ok z := by
    refine deliver_header_ok hconnected rfl ?_
    intro o hsame
    refine ⟨fun _ => hdivided, ?_⟩
    -- a request starts no file
    rintro (⟨-, hc⟩ | ⟨-, hc, -⟩ | ⟨ht, -⟩)
    · simp [hsame.responseCode, hcode] at hc
    · simp [hsame.responseCode, hcode] at hc
    · simp [hsame.transferType, htype] at ht
  obtain ⟨o, b, h, u, hsame, -, hrespond, rfl⟩ := deliver_header rfl hz
  have hfound : (o.newFile (hostEnd.environment input)).checkFileExist
      (hostEnd.environment input).fileSystem = true := by
    rw [UDTPHeader.newFile, hsame.pathOfFile]
    exact hexists
  obtain ⟨rfl, ⟨count, rfl⟩, happroved, -, hkind, -⟩ :=
    UDTPHeader.respond_pullRequest (hsame.transferType.trans htype)
      (hsame.responseCode.trans hcode) hfound hrespond
  exact ⟨_, h, hz, hconnected, happroved, hkind⟩

/-- The approval of a pull is delivered where the settings of the new file can be read.  It is
confirmed. -/
theorem pull_approval_delivered {input : Delivery} {h : UDTPHeader}
    (hconnected : Connected ⟨host, peer, posID, socket, false, some (.header h)⟩)
    (hcode : h.responseCode = .responseApproved) (htype : h.transferType = .pull)
    (hmapped : input.environment.fileMemory.myUDTPUnmapped = false) :
    ∃ (u : UDTP) (h' : UDTPHeader),
      deliver hostEnd peerEnd ⟨host, peer, posID, socket, false, some (.header h)⟩ input =
        .ok ⟨host, u, posID, socket, true, some (.header h')⟩ ∧
      Connected ⟨host, u, posID, socket, true, some (.header h')⟩ ∧
      h'.responseCode = .responseConfirm ∧ h'.transferType = .pull := by
  obtain ⟨z, hz⟩ : ∃ z, deliver hostEnd peerEnd
      ⟨host, peer, posID, socket, false, some (.header h)⟩ input = .ok z := by
    refine deliver_header_ok hconnected rfl ?_
    intro o hsame
    refine ⟨?_, fun _ => hmapped⟩
    -- an approval divides no file
    rintro ⟨-, ⟨hc, -⟩ | hc⟩
    · simp [hsame.responseCode, hcode] at hc
    · simp [hsame.responseCode, hcode] at hc
  obtain ⟨o, b, h', u, hsame, -, hrespond, rfl⟩ := deliver_header rfl hz
  obtain ⟨rfl, rfl, rfl⟩ := UDTPHeader.respond_pullApproved (hsame.transferType.trans htype)
    (hsame.responseCode.trans hcode) hrespond
  obtain ⟨hhost, q, hq⟩ := hconnected
  obtain ⟨q', hq', -⟩ := UDTP.getPeer_of_map_eq (UDTP.map_listPeers_takeFile UDTPPeer.identity
    (peerEnd.environment input) peer o.myPeer
    (o.approvedPullFile (peerEnd.environment input)) fun _ _ _ => rfl).symm hq
  exact ⟨_, _, hz, ⟨hhost, q', hq'⟩, rfl, hsame.transferType.trans htype⟩

/-- The confirmation of a pull is delivered where the memory of the file object has a chunk size and
settings that can be read.  It is not answered. -/
theorem pull_confirmation_delivered {input : Delivery} {h : UDTPHeader}
    (hconnected : Connected ⟨host, peer, posID, socket, true, some (.header h)⟩)
    (hcode : h.responseCode = .responseConfirm) (htype : h.transferType = .pull)
    (hdivided : input.environment.fileMemory.chunkSize ≠ 0)
    (hmapped : input.environment.fileMemory.myUDTPUnmapped = false) :
    ∃ z, deliver hostEnd peerEnd ⟨host, peer, posID, socket, true, some (.header h)⟩ input =
      .ok z ∧ z.wire = none := by
  obtain ⟨z, hz⟩ : ∃ z, deliver hostEnd peerEnd
      ⟨host, peer, posID, socket, true, some (.header h)⟩ input = .ok z :=
    deliver_header_ok hconnected rfl fun o hsame => ⟨fun _ => hdivided, fun _ => hmapped⟩
  obtain ⟨o, b, h', u, hsame, -, hrespond, rfl⟩ := deliver_header rfl hz
  obtain ⟨rfl, -⟩ := UDTPHeader.respond_pullConfirm (hsame.transferType.trans htype)
    (hsame.responseCode.trans hcode) hrespond
  exact ⟨_, hz, by simp⟩

/-- Where the memories match, a pull comes to its end with the third delivery. -/
theorem pull_ends (hconnected : (ofRequest host peer posID socket request).Connected)
    (hcode : request.responseCode = .responseNone)
    (htype : request.transferType = .pull) (hexists : requestedFileExists hostEnd request = true)
    (hmatch : PullMemoriesMatch (UDTPHeader.localSize hostEnd.fileSystem request.pathOfFile)
      (inputs 0).environment.fileMemory (inputs 1).environment.fileMemory
      (inputs 2).environment.fileMemory) :
    ∃ y, run hostEnd peerEnd (ofRequest host peer posID socket request)
      ((List.range 3).map inputs) = .ok y ∧ y.wire = none := by
  obtain ⟨u, h, hrequest, hconnected, hcode, hkind⟩ :=
    pull_request_delivered hconnected hcode htype hexists hmatch.chunkSize.1
  obtain ⟨v, h', happroval, hconnected, hcode, htype⟩ :=
    pull_approval_delivered hconnected hcode (hkind.trans hmatch.firstType) hmatch.myUDTP.1
  obtain ⟨z, hconfirmation, hend⟩ :=
    pull_confirmation_delivered hconnected hcode htype hmatch.chunkSize.2 hmatch.myUDTP.2
  refine ⟨z, ?_, hend⟩
  exact run_range_succ.mpr ⟨_, hrequest, run_range_succ.mpr ⟨_, happroval, run_range_succ.mpr
    ⟨_, hconfirmation, rfl⟩⟩⟩

/-- **Agreement of a transfer.** Between connected ends, a pull or push that is not refused runs to
its end and leaves matching files iff it is a pull and the memories of the file objects match. -/
theorem transfer_agrees_iff (hconnected : (ofRequest host peer posID socket request).Connected)
    (hid : request.fileID = 0) (hcode : request.responseCode = .responseNone)
    (htype : request.transferType = .pull ∨ request.transferType = .push)
    (hunrefused : requestedFileExists hostEnd request = decide (request.transferType = .pull)) :
    EndsInAgreement hostEnd peerEnd request.transferType
        (ofRequest host peer posID socket request) inputs ↔
      request.transferType = .pull ∧
        PullMemoriesMatch (UDTPHeader.localSize hostEnd.fileSystem request.pathOfFile)
          (inputs 0).environment.fileMemory (inputs 1).environment.fileMemory
          (inputs 2).environment.fileMemory := by
  rcases htype with htype | htype
  · have hexists : requestedFileExists hostEnd request = true := by simp [hunrefused, htype]
    rw [htype]
    constructor
    · rintro ⟨n, y, hrun, hend, hagrees⟩
      exact ⟨rfl, (pull_agrees_iff hcode htype hexists hrun hend).mp hagrees⟩
    · rintro ⟨-, hmatch⟩
      obtain ⟨y, hrun, hend⟩ := pull_ends hconnected hcode htype hexists hmatch
      exact ⟨3, y, hrun, hend, (pull_agrees_iff hcode htype hexists hrun hend).mpr hmatch⟩
  · rw [htype]
    apply iff_of_false
    · rintro ⟨n, y, hrun, hend, hagrees⟩
      exact push_not_agrees hid hcode htype (by simp [hunrefused, htype]) hrun hend hagrees
    · simp

end Transfer

/-- The PEER asks a HOST that has just accepted it for the file with an empty path. -/
def emptyPathRequest (type : TransferType) : Exchange :=
  ofRequest ((UDTP.startedIn .host).acceptPeer default ⟨4, 1⟩).2 (UDTP.startedIn .peer) 1 ⟨4, 1⟩
    { (default : UDTPHeader) with responseCode := .responseNone, transferType := type }

/-- Every file object is built in memory that holds a pull with the ID 7 and chunks of 420
bytes. -/
def pullMemory : Delivery :=
  { (default : Delivery) with environment := { (default : Environment) with
      fileMemory := { (default : UDTPFile) with
        transferType := .pull, fileID := 7, chunkSize := 420 } } }

/-- An end whose files all have one length. -/
def filesOfLength (length : ℕ) : EndPoint := ⟨.defaults, fun _ => some length⟩

/-- A pull of a file of 1000 bytes, with memories that match. -/
theorem transfer_agrees_iff_pull :
    EndsInAgreement (filesOfLength 1000) default .pull (emptyPathRequest .pull)
      fun _ => pullMemory := by
  refine (transfer_agrees_iff ⟨⟨_, rfl⟩, _, rfl⟩ rfl rfl (Or.inl rfl) (by decide)).mpr ⟨rfl, ?_⟩
  exact {
    firstType := rfl
    lastType := rfl
    fileID := by decide
    fileID_ne_zero := by decide
    chunkSize := ⟨by decide, by decide⟩
    numberOfChunks := rfl
    myUDTP := ⟨rfl, rfl⟩ }

/-- A PEER wants to push a file of 1000 bytes to a HOST that has just accepted it. -/
def pushRequest : Exchange :=
  ofRequest ((UDTP.startedIn .host).acceptPeer default ⟨4, 1⟩).2 (UDTP.startedIn .peer) 1 ⟨4, 1⟩
    { (default : UDTPHeader) with
      responseCode := .responseNone
      transferType := .push
      pathOfFile := "a"
      sizeOfFile := 1000
      numberOfChunks := 3 }

/-- The HOST has an empty file at the path, and approves.  The exchange runs to its end, and the
ends do not agree. -/
theorem push_to_empty_file_not_agrees :
    ∃ y, run (filesOfLength 0) (filesOfLength 1000) pushRequest
        ((List.range 2).map fun _ => pullMemory) = .ok y ∧ y.wire = none ∧
      ¬ TransferAgrees .push pushRequest y := by
  obtain ⟨y, hrun, hend⟩ : ∃ y, run (filesOfLength 0) (filesOfLength 1000) pushRequest
      ((List.range 2).map fun _ => pullMemory) = .ok y ∧ y.wire = none := ⟨_, rfl, rfl⟩
  exact ⟨y, hrun, hend, push_not_agrees rfl rfl rfl (by decide) hrun hend⟩

end Exchange

end Udtp
