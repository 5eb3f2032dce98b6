import Udtp.Analysis.RefusedTransfer
import Udtp.Analysis.TransferAgreement

/-!
# How long a negotiation takes

Two ends that exchange header messages keep no state about it: what `respond()` does next is in
the type and the code of the message alone.  Every message that does something is followed by one
that can do less, so that at most three deliveries of an exchange have an effect, each end takes
at most one file, and at most one file ID is given out (`negotiation_bounded`).

The type of a message may change on the way, to whatever the memory of a file object held.  What
is left then is a message no branch handles: `respond()` runs off its end, and as long as that
yields `true` the message goes back and forth and changes nothing.
-/

set_option autoImplicit false

namespace Udtp

open StepMachine

/-! ## Messages -/

namespace UDTPHeader

/-- The number of deliveries, this one included, that may still do something. -/
def remaining (h : UDTPHeader) : ℕ :=
  match h.transferType, h.responseCode with
  | .pull, .responseNone => 3
  | .pull, .responseApproved => 2
  | .pull, .responseConfirm => 1
  | .pull, .responseFileNotFound => 1
  | .push, .responseNone => 2
  | .push, .responseApproved => 1
  | .push, .responseFileExistsAlready => 1
  | _, _ => 0

/-- The number of files the end that gets the message may still take. -/
def filesHere (h : UDTPHeader) : ℕ :=
  match h.transferType, h.responseCode with
  | .pull, .responseNone => 1
  | .pull, .responseApproved => 1
  | .pull, .responseConfirm => 1
  | .push, .responseNone => 1
  | .push, .responseApproved => 1
  | _, _ => 0

/-- The number of files the end that sent the message may still take. -/
def filesThere (h : UDTPHeader) : ℕ :=
  match h.transferType, h.responseCode with
  | .pull, .responseNone => 1
  | .pull, .responseApproved => 1
  | .push, .responseNone => 1
  | _, _ => 0

/-- The number of file IDs that may still be given out. -/
def idsLeft (h : UDTPHeader) : ℕ := if h.responseCode = .responseNone then 1 else 0

variable {env : Environment} {u u' : UDTP} {h h' o : UDTPHeader} {b : Bool}

/-- No header leads to more than three deliveries. -/
theorem remaining_le_three (h : UDTPHeader) : h.remaining ≤ 3 := by
  unfold remaining
  split <;> omega

/-- For no message may its receiver take more than one file. -/
theorem filesHere_le_one (h : UDTPHeader) : h.filesHere ≤ 1 := by
  unfold filesHere
  split <;> omega

/-- For no message may its sender take more than one file. -/
theorem filesThere_le_one (h : UDTPHeader) : h.filesThere ≤ 1 := by
  unfold filesThere
  split <;> omega

/-- For no message may more than one ID be given out. -/
theorem idsLeft_le_one (h : UDTPHeader) : h.idsLeft ≤ 1 := by
  unfold idsLeft
  split <;> omega

/-- An approval, of whatever type. -/
theorem remaining_of_approved (hc : h.responseCode = .responseApproved) : h.remaining ≤ 2 := by
  cases ht : h.transferType <;> simp [remaining, ht, hc]

/-- Objects that hold the same message have as much to do. -/
theorem SameMessage.counts (hsame : h.SameMessage o) : o.remaining = h.remaining ∧
    o.filesHere = h.filesHere ∧ o.filesThere = h.filesThere ∧ o.idsLeft = h.idsLeft := by
  unfold remaining filesHere filesThere idsLeft
  rw [hsame.transferType, hsame.responseCode]
  exact ⟨rfl, rfl, rfl, rfl⟩

/-- Assigning an ID takes no file and counts at most one up. -/
theorem assignFileID_counts (u : UDTP) (h : UDTPHeader) :
    (h.assignFileID u).2.overallFiles = u.overallFiles ∧
      ∃ n : ℕ, n ≤ 1 ∧ (h.assignFileID u).2.fileIDCount = u.fileIDCount + UInt32.ofNat n := by
  unfold assignFileID
  split
  · exact ⟨rfl, 1, le_rfl, rfl⟩
  · exact ⟨rfl, 0, Nat.zero_le 1, (UInt32.add_zero _).symm⟩

/-- What a delivery may do, in terms of what may still be done after it. -/
structure Spends (h : UDTPHeader) (u : UDTP) (b : Bool) (h' : UDTPHeader) (u' : UDTP) : Prop where
  remaining : b = true → h'.remaining ≤ h.remaining - 1
  filesHere : u'.overallFiles.length + (if b then h'.filesThere else 0) ≤
    u.overallFiles.length + h.filesHere
  filesThere : b = true → h'.filesHere ≤ h.filesThere
  ids : ∃ n : ℕ, u'.fileIDCount = u.fileIDCount + UInt32.ofNat n ∧
    n + (if b then h'.idsLeft else 0) ≤ h.idsLeft

/-- Where nothing is assigned, the counter goes up by zero. -/
theorem fileIDCount_same (u : UDTP) : u.fileIDCount = u.fileIDCount + UInt32.ofNat 0 :=
  (UInt32.add_zero _).symm

/-- Every branch of `respond()` spends what it does. -/
theorem respond_spends (hr : h.respond env u = .ok (b, h', u')) : h.Spends u b h' u' := by
  replace hr := negotiate_of_respond hr
  unfold negotiate at hr
  split at hr
  case h_1 ht hc => -- a pull request
    obtain ⟨hfiles, n, hn, hcount⟩ := assignFileID_counts u h
    split at hr
    · cases hr
      refine ⟨?_, ?_, ?_, 0, fileIDCount_same u, ?_⟩
      all_goals simp [remaining, filesHere, filesThere, idsLeft, setResponseCode, ht, hc]
    · split at hr
      · cases hr
      rename_i f hf
      cases hr
      have happroved : ((f.packToHeader (h.assignFileID u).1).setResponseCode
          .responseApproved).responseCode = .responseApproved := rfl
      have hremaining := remaining_of_approved happroved
      have hhere := filesHere_le_one ((f.packToHeader (h.assignFileID u).1).setResponseCode
        .responseApproved)
      have hthere := filesThere_le_one ((f.packToHeader (h.assignFileID u).1).setResponseCode
        .responseApproved)
      have h₁ : h.remaining = 3 := by simp [remaining, ht, hc]
      have h₂ : h.filesHere = 1 := by simp [filesHere, ht, hc]
      have h₃ : h.filesThere = 1 := by simp [filesThere, ht, hc]
      refine ⟨fun _ => by omega, ?_, fun _ => by omega, n, hcount, ?_⟩
      · rw [hfiles]
        simp only [if_true]
        omega
      · simp [idsLeft, happroved, hc, hn]
  case h_2 ht hc => -- the file to pull was not found
    cases hr
    refine ⟨?_, ?_, ?_, 0, fileIDCount_same u, ?_⟩
    all_goals simp
  case h_3 ht hc => -- a pull was approved
    cases hr
    refine ⟨?_, ?_, ?_, 0, fileIDCount_same u, ?_⟩
    all_goals simp [remaining, filesHere, filesThere, idsLeft, setResponseCode, ht, hc,
      UDTP.takeFile_overallFiles]
  case h_4 ht hc => -- a pull was confirmed
    split at hr
    · cases hr
    · cases hr
      refine ⟨?_, ?_, ?_, 0, fileIDCount_same u, ?_⟩
      all_goals simp [filesHere, ht, hc, UDTP.takeFile_overallFiles]
  case h_5 ht hc => -- a push request
    obtain ⟨hfiles, n, hn, hcount⟩ := assignFileID_counts u h
    have htype : (h.assignFileID u).1.transferType = .push := by
      unfold assignFileID
      split <;> exact ht
    split at hr
    · cases hr
      refine ⟨?_, ?_, ?_, 0, fileIDCount_same u, ?_⟩
      all_goals simp [remaining, filesHere, filesThere, idsLeft, setResponseCode, ht, hc]
    · cases hr
      refine ⟨?_, ?_, ?_, n, hcount, ?_⟩
      all_goals simp [remaining, filesHere, filesThere, idsLeft, setResponseCode, ht, hc, htype,
        UDTP.takeFile_overallFiles, hfiles, hn]
  case h_6 ht hc => -- the file to push exists already
    cases hr
    refine ⟨?_, ?_, ?_, 0, fileIDCount_same u, ?_⟩
    all_goals simp
  case h_7 ht hc => -- a push was approved
    cases hr
    refine ⟨?_, ?_, ?_, 0, fileIDCount_same u, ?_⟩
    all_goals simp [filesHere, ht, hc, UDTP.takeFile_overallFiles]
  case h_8 h₁ h₂ h₃ h₄ h₅ h₆ h₇ => -- any other message
    cases hr
    have hremaining : h.remaining = 0 := by
      unfold remaining
      split <;> simp_all
    have hthere : h.filesThere = 0 := by
      unfold filesThere
      split <;> simp_all
    have hhere : h.filesHere = 0 := by
      unfold filesHere
      split <;> simp_all
    refine ⟨fun _ => by omega, ?_, fun _ => by omega, 0, fileIDCount_same u, ?_⟩
    · split <;> omega
    · split <;> omega

/-- A message that no branch handles changes nothing, and stays what it is. -/
theorem respond_of_remaining_zero (h₀ : h.remaining = 0)
    (hr : h.respond env u = .ok (b, h', u')) : h' = h ∧ u' = u := by
  replace hr := negotiate_of_respond hr
  unfold negotiate at hr
  split at hr
  case h_8 =>
    cases hr
    exact ⟨rfl, rfl⟩
  all_goals
    rename_i ht hc
    simp [remaining, ht, hc] at h₀

end UDTPHeader

/-! ## Exchanges -/

namespace Exchange

variable {hostEnd peerEnd : EndPoint} {x y z : Exchange} {input : Delivery}

/-- Nothing but header messages is on the wire. -/
def OfHeaders (x : Exchange) : Prop := ∀ p, x.wire = some p → ∃ h, p = .header h

/-- What a count of messages is for the message on the wire. -/
def onWire (count : UDTPHeader → ℕ) (x : Exchange) : ℕ :=
  match x.wire with
  | some (.header h) => count h
  | _ => 0

/-- The number of files the HOST may still take. -/
def hostFilesLeft (x : Exchange) : ℕ :=
  if x.toHost then x.onWire UDTPHeader.filesHere else x.onWire UDTPHeader.filesThere

/-- The number of files the PEER may still take. -/
def peerFilesLeft (x : Exchange) : ℕ :=
  if x.toHost then x.onWire UDTPHeader.filesThere else x.onWire UDTPHeader.filesHere

/-- A header on the wire counts as itself. -/
theorem onWire_header (count : UDTPHeader → ℕ) {h : UDTPHeader}
    (hx : x.wire = some (.header h)) : x.onWire count = count h := by
  rw [onWire, hx]

/-- An empty wire counts nothing. -/
theorem onWire_none (count : UDTPHeader → ℕ) (hx : x.wire = none) : x.onWire count = 0 := by
  rw [onWire, hx]

/-- An answer counts as the header that was sent, if one was. -/
theorem onWire_if (count : UDTPHeader → ℕ) {h : UDTPHeader} {b : Bool}
    (hx : x.wire = if b then some (.header h) else none) :
    x.onWire count = if b then count h else 0 := by
  cases b with
  | false => exact onWire_none count hx
  | true => exact onWire_header count hx

/-- A delivery turns the direction around. -/
theorem hostFilesLeft_answered (x : Exchange) (u : UDTP) (wire : Option Packet) :
    (x.answered u wire).hostFilesLeft = if x.toHost then
      (x.answered u wire).onWire UDTPHeader.filesThere
    else (x.answered u wire).onWire UDTPHeader.filesHere := by
  unfold answered
  cases x.toHost <;> rfl

/-- After an answer of the HOST the PEER is its receiver, and after its own answer the sender. -/
theorem peerFilesLeft_answered (x : Exchange) (u : UDTP) (wire : Option Packet) :
    (x.answered u wire).peerFilesLeft = if x.toHost then
      (x.answered u wire).onWire UDTPHeader.filesHere
    else (x.answered u wire).onWire UDTPHeader.filesThere := by
  unfold answered
  cases x.toHost <;> rfl

/-- What the run from `x` to `y` did is covered by what could be done at `x`. -/
structure Spent (x y : Exchange) : Prop where
  headers : y.OfHeaders
  hostFiles : y.host.overallFiles.length + y.hostFilesLeft ≤
    x.host.overallFiles.length + x.hostFilesLeft
  peerFiles : y.peer.overallFiles.length + y.peerFilesLeft ≤
    x.peer.overallFiles.length + x.peerFilesLeft
  ids : ∃ m n : ℕ, y.host.fileIDCount = x.host.fileIDCount + UInt32.ofNat m ∧
    y.peer.fileIDCount = x.peer.fileIDCount + UInt32.ofNat n ∧
    m + n + y.onWire UDTPHeader.idsLeft ≤ x.onWire UDTPHeader.idsLeft

/-- Doing nothing is covered by what could be done. -/
theorem Spent.refl (hx : x.OfHeaders) : Spent x x where
  headers := hx
  hostFiles := le_rfl
  peerFiles := le_rfl
  ids := ⟨0, 0, UDTPHeader.fileIDCount_same _, UDTPHeader.fileIDCount_same _, by omega⟩

/-- Where both parts of a run are covered, the run is. -/
theorem Spent.trans (h : Spent x y) (h' : Spent y z) : Spent x z := by
  obtain ⟨m, n, hm, hn, hids⟩ := h.ids
  obtain ⟨m', n', hm', hn', hids'⟩ := h'.ids
  refine ⟨h'.headers, h'.hostFiles.trans h.hostFiles, h'.peerFiles.trans h.peerFiles,
    m + m', n + n', ?_, ?_, by omega⟩
  · rw [hm', hm, UInt32.ofNat_add, UInt32.add_assoc]
  · rw [hn', hn, UInt32.ofNat_add, UInt32.add_assoc]

/-- A delivery spends what it does, and at least one of the remaining deliveries. -/
theorem deliver_spends (hx : x.OfHeaders) (hdeliver : deliver hostEnd peerEnd x input = .ok y) :
    Spent x y ∧ y.onWire UDTPHeader.remaining ≤ x.onWire UDTPHeader.remaining - 1 := by
  cases hwire : x.wire with
  | none =>
    simp only [deliver, hwire, Except.ok.injEq] at hdeliver
    subst hdeliver
    refine ⟨.refl hx, ?_⟩
    rw [onWire_none _ hwire]
  | some p =>
    obtain ⟨h, rfl⟩ := hx p hwire
    obtain ⟨o, b, h', u, hsame, -, hrespond, rfl⟩ := deliver_header hwire hdeliver
    obtain ⟨hremaining, hhere, hthere, n, hcount, hids⟩ := UDTPHeader.respond_spends hrespond
    obtain ⟨h₁, h₂, h₃, h₄⟩ := hsame.counts
    rw [h₁] at hremaining
    rw [h₂] at hhere
    rw [h₃] at hthere
    rw [h₄] at hids
    have hafter := answered_wire x u (if b then some (.header h') else none)
    have hheaders : (x.answered u (if b then some (.header h') else none)).OfHeaders := by
      intro p hp
      rw [hafter] at hp
      split at hp
      · cases hp
        exact ⟨h', rfl⟩
      · cases hp
    have hhere' : (if b then h'.filesHere else 0) ≤ h.filesThere := by
      split
      · rename_i hb
        exact hthere hb
      · exact Nat.zero_le _
    have hcounts : ∀ count, (x.answered u (if b then some (.header h') else none)).onWire count =
        if b then count h' else 0 := fun count => onWire_if count hafter
    refine ⟨?_, ?_⟩
    · cases hto : x.toHost with
      | true =>
        have hhost : (x.answered u (if b then some (.header h') else none)).host = u := by
          simp [answered, hto]
        have hpeer : (x.answered u (if b then some (.header h') else none)).peer = x.peer := by
          simp [answered, hto]
        simp only [receiver, hto, if_true] at hhere hcount
        refine ⟨hheaders, ?_, ?_, n, 0, ?_, ?_, ?_⟩
        · rw [hostFilesLeft_answered, hostFilesLeft, hto, if_pos rfl, if_pos rfl, hcounts, hhost,
            onWire_header _ hwire]
          exact hhere
        · rw [peerFilesLeft_answered, peerFilesLeft, hto, if_pos rfl, if_pos rfl, hcounts, hpeer,
            onWire_header _ hwire]
          omega
        · rw [hhost, hcount]
        · rw [hpeer]
          exact UDTPHeader.fileIDCount_same _
        · rw [hcounts, onWire_header _ hwire]
          omega
      | false =>
        have hhost : (x.answered u (if b then some (.header h') else none)).host = x.host := by
          simp [answered, hto]
        have hpeer : (x.answered u (if b then some (.header h') else none)).peer = u := by
          simp [answered, hto]
        have hfalse : ¬ false = true := by decide
        simp only [receiver, hto, if_neg hfalse] at hhere hcount
        refine ⟨hheaders, ?_, ?_, 0, n, ?_, ?_, ?_⟩
        · rw [hostFilesLeft_answered, hostFilesLeft, hto, if_neg hfalse, if_neg hfalse, hcounts,
            hhost, onWire_header _ hwire]
          omega
        · rw [peerFilesLeft_answered, peerFilesLeft, hto, if_neg hfalse, if_neg hfalse, hcounts,
            hpeer, onWire_header _ hwire]
          exact hhere
        · rw [hhost]
          exact UDTPHeader.fileIDCount_same _
        · rw [hpeer, hcount]
        · rw [hcounts, onWire_header _ hwire]
          omega
    · rw [hcounts, onWire_header _ hwire]
      split
      · rename_i hb
        exact hremaining hb
      · exact Nat.zero_le _

/-- Every run of an exchange of headers is covered by what could be done at its start. -/
theorem run_spends (hx : x.OfHeaders) {inputs : List Delivery}
    (hrun : run hostEnd peerEnd x inputs = .ok y) : Spent x y :=
  run_preserves (deliver hostEnd peerEnd) (Spent x)
    (fun _ _ _ hz hdeliver => hz.trans (deliver_spends hz.headers hdeliver).1) (.refl hx) hrun

/-- Once nothing remains to be done, the message is passed on without a trace. -/
theorem run_of_onWire_remaining (hx : x.OfHeaders) (h₀ : x.onWire UDTPHeader.remaining = 0)
    {inputs : List Delivery} (hrun : run hostEnd peerEnd x inputs = .ok y) :
    y.host = x.host ∧ y.peer = x.peer := by
  have hinv := run_preserves (deliver hostEnd peerEnd)
    (fun y => y.OfHeaders ∧ y.onWire UDTPHeader.remaining = 0 ∧ y.host = x.host ∧
      y.peer = x.peer) ?_ ⟨hx, h₀, rfl, rfl⟩ hrun
  · exact hinv.2.2
  rintro z input w ⟨hz, hnothing, hhost, hpeer⟩ hdeliver
  obtain ⟨hspent, hremaining⟩ := deliver_spends hz hdeliver
  refine ⟨hspent.headers, by omega, ?_⟩
  cases hwire : z.wire with
  | none =>
    simp only [deliver, hwire, Except.ok.injEq] at hdeliver
    subst hdeliver
    exact ⟨hhost, hpeer⟩
  | some p =>
    obtain ⟨h, rfl⟩ := hz p hwire
    obtain ⟨o, b, h', u, hsame, -, hrespond, rfl⟩ := deliver_header hwire hdeliver
    rw [onWire_header _ hwire, ← hsame.counts.1] at hnothing
    obtain ⟨-, rfl⟩ := UDTPHeader.respond_of_remaining_zero hnothing hrespond
    rw [answered_receiver]
    exact ⟨hhost, hpeer⟩

/-- **A negotiation is short.** Whatever header message is on the wire and whatever the memories
hold: after three deliveries no further one changes an end, by then each end has taken at most
one file, and at most one file ID was given out by both together. -/
theorem negotiation_bounded {h : UDTPHeader} (hx : x.wire = some (.header h))
    {inputs : List Delivery} (hrun : run hostEnd peerEnd x inputs = .ok y) :
    (3 ≤ inputs.length → ∀ more z, run hostEnd peerEnd y more = .ok z →
      z.host = y.host ∧ z.peer = y.peer) ∧
    y.host.overallFiles.length ≤ x.host.overallFiles.length + 1 ∧
    y.peer.overallFiles.length ≤ x.peer.overallFiles.length + 1 ∧
    ∃ m n : ℕ, m + n ≤ 1 ∧ y.host.fileIDCount = x.host.fileIDCount + UInt32.ofNat m ∧
      y.peer.fileIDCount = x.peer.fileIDCount + UInt32.ofNat n := by
  have hheaders : x.OfHeaders := by
    intro p hp
    rw [hx] at hp
    cases hp
    exact ⟨h, rfl⟩
  obtain ⟨hheaders', hhost, hpeer, m, n, hm, hn, hids⟩ := run_spends hheaders hrun
  have hfilesHere := h.filesHere_le_one
  have hfilesThere := h.filesThere_le_one
  have hidsLeft := h.idsLeft_le_one
  have hhostLeft : x.hostFilesLeft ≤ 1 := by
    unfold hostFilesLeft
    rw [onWire_header _ hx, onWire_header _ hx]
    split
    · exact hfilesHere
    · exact hfilesThere
  have hpeerLeft : x.peerFilesLeft ≤ 1 := by
    unfold peerFilesLeft
    rw [onWire_header _ hx, onWire_header _ hx]
    split
    · exact hfilesThere
    · exact hfilesHere
  rw [onWire_header _ hx] at hids
  refine ⟨?_, by omega, by omega, m, n, by omega, hm, hn⟩
  intro hlength more z hmore
  have hrank := run_rank_le (deliver hostEnd peerEnd) OfHeaders (onWire UDTPHeader.remaining)
    (fun _ _ _ hz hdeliver => ⟨(deliver_spends hz hdeliver).1.headers,
      (deliver_spends hz hdeliver).2⟩) hheaders hrun
  have hthree := h.remaining_le_three
  rw [onWire_header _ hx] at hrank
  exact run_of_onWire_remaining hheaders' (by omega) hmore

/-- A pull of a file that is there takes three deliveries. -/
theorem negotiation_bounded_pull :
    ∃ y, run (filesOfLength 10) (filesOfLength 10) (emptyPathRequest .pull)
        (List.replicate 3 pullMemory) = .ok y ∧ y.wire = none ∧
      (3 ≤ (List.replicate 3 pullMemory).length → ∀ more z,
        run (filesOfLength 10) (filesOfLength 10) y more = .ok z →
        z.host = y.host ∧ z.peer = y.peer) ∧
      y.host.overallFiles.length ≤ (emptyPathRequest .pull).host.overallFiles.length + 1 ∧
      y.peer.overallFiles.length ≤ (emptyPathRequest .pull).peer.overallFiles.length + 1 ∧
      ∃ m n : ℕ, m + n ≤ 1 ∧
        y.host.fileIDCount = (emptyPathRequest .pull).host.fileIDCount + UInt32.ofNat m ∧
        y.peer.fileIDCount = (emptyPathRequest .pull).peer.fileIDCount + UInt32.ofNat n := by
  obtain ⟨y, hrun, hend⟩ : ∃ y, run (filesOfLength 10) (filesOfLength 10)
      (emptyPathRequest .pull) (List.replicate 3 pullMemory) = .ok y ∧ y.wire = none :=
    ⟨_, rfl, rfl⟩
  exact ⟨y, hrun, hend, negotiation_bounded rfl hrun⟩

end Exchange

end Udtp
