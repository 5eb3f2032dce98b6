import Udtp.Computation.StepMachine
import Udtp.Model.Header

/-!
# The IDs of the files on a HOST

Requests from any number of peers arrive at a HOST in any order, and approvals are answered
in any order.  The counter that numbers files never reaches one: a pushed file is filled
before the message gets its ID, and the file of a confirmed pull keeps the ID its memory
held.  So the IDs are those of the memories, with a zero for every accepted push
(`run_fileIDs`), and they are unique iff the memories happen to make them so.
-/

set_option autoImplicit false

namespace Udtp

open StepMachine

/-! ## Lookup -/

/-- Every listed file has an ID that is not zero, no two have the same, and looking up an ID
returns its file. -/
structure FileIDsUnique (u : UDTP) : Prop where
  nonzero : ∀ n ∈ u.overallFiles, ∀ f, u.files[n]? = some f → f.fileID ≠ 0
  distinct : ∀ n ∈ u.overallFiles, ∀ m ∈ u.overallFiles, ∀ f g, u.files[n]? = some f →
    u.files[m]? = some g → f.fileID = g.fileID → n = m
  found : ∀ n ∈ u.overallFiles, ∀ f, u.files[n]? = some f → u.getFileWithID f.fileID = some n

/-- With all files listed in order, their IDs are unique iff zero is none of them and none
occurs twice. -/
theorem fileIDsUnique_iff {u : UDTP} (h : u.overallFiles = List.range u.files.length) :
    FileIDsUnique u ↔
      0 ∉ u.files.map UDTPFile.fileID ∧ (u.files.map UDTPFile.fileID).Nodup := by
  have hlisted : ∀ {n f}, u.files[n]? = some f → n ∈ u.overallFiles := by
    intro n f hn
    rw [h, List.mem_range]
    exact (List.getElem?_eq_some_iff.mp hn).1
  constructor
  · intro hu
    refine ⟨?_, ?_⟩
    · rw [List.mem_map]
      rintro ⟨f, hf, hzero⟩
      obtain ⟨n, hn⟩ := List.mem_iff_getElem?.mp hf
      exact hu.nonzero n (hlisted hn) f hn hzero
    · rw [List.nodup_iff_injective_getElem]
      rintro ⟨n, hn⟩ ⟨m, hm⟩ heq
      simp only [List.length_map] at hn hm
      simp only [List.getElem_map] at heq
      have hn' : u.files[n]? = some u.files[n] := List.getElem?_eq_getElem hn
      have hm' : u.files[m]? = some u.files[m] := List.getElem?_eq_getElem hm
      exact Fin.ext (hu.distinct n (hlisted hn') m (hlisted hm') _ _ hn' hm' heq)
  · rintro ⟨hzero, hnodup⟩
    have hinj : ∀ {n m : ℕ} {f g : UDTPFile}, u.files[n]? = some f → u.files[m]? = some g →
        f.fileID = g.fileID → n = m := by
      intro n m f g hn hm heq
      have hlt : n < (u.files.map UDTPFile.fileID).length := by
        simpa using (List.getElem?_eq_some_iff.mp hn).1
      refine (List.getElem?_inj hlt hnodup).mp ?_
      simp [hn, hm, heq]
    refine ⟨?_, ?_, ?_⟩
    · intro n _ f hn hf
      apply hzero
      exact hf ▸ List.mem_map_of_mem (List.mem_of_getElem? hn)
    · intro n _ m _ f g hn hm heq
      exact hinj hn hm heq
    · intro n hn f hf
      rw [UDTP.getFileWithID, h, List.find?_range_eq_some]
      refine ⟨by simp [hf], h ▸ hn, ?_⟩
      intro j hj
      rw [Bool.not_eq_true', decide_eq_false_iff_not]
      intro hfound
      obtain ⟨g, hg, hid⟩ := Option.map_eq_some_iff.mp hfound
      have := hinj hg hf hid
      omega

/-! ## The transfers of a HOST -/

/-- The files of a HOST, and the approvals it sent that were not answered yet. -/
structure HostTransfers where
  udtp : UDTP
  approvals : List UDTPHeader

/-- A request with file ID 0, or the answer of a PEER to an approval. -/
inductive TransferMessage
  | push (env : Environment) (h : UDTPHeader)
  | pull (env : Environment) (h : UDTPHeader)
  | answer (env : Environment) (k : ℕ) (peerEnv : Environment) (peer : UDTP)

/-- A message as the request of a PEER. -/
def UDTPHeader.asRequest (type : TransferType) (h : UDTPHeader) : UDTPHeader :=
  { h with transferType := type, responseCode := .responseNone, fileID := 0 }

namespace HostTransfers

/-- One more message.  An answer is what `respond()` makes of the approval at the PEER, and
is handled by the HOST if it was sent. -/
def step (s : HostTransfers) : TransferMessage → Except Fault HostTransfers
  | .push env h =>
    match (h.asRequest .push).respond env s.udtp with
    | .error fault => .error fault
    | .ok (_, _, u) => .ok { s with udtp := u }
  | .pull env h =>
    match (h.asRequest .pull).respond env s.udtp with
    | .error fault => .error fault
    | .ok (_, reply, u) => .ok {
        udtp := u
        approvals :=
          if reply.responseCode = .responseApproved then s.approvals ++ [reply] else s.approvals }
  | .answer env k peerEnv peer =>
    match s.approvals[k]? with
    | none => .ok s
    | some approval =>
      match approval.respond peerEnv peer with
      | .error fault => .error fault
      | .ok (false, _, _) => .ok { s with approvals := s.approvals.eraseIdx k }
      | .ok (true, reply, _) =>
        match reply.respond env s.udtp with
        | .error fault => .error fault
        | .ok (_, _, u) => .ok { udtp := u, approvals := s.approvals.eraseIdx k }

/-- A run of messages on a HOST that was just started. -/
abbrev run (u : UDTP) (ms : List TransferMessage) : Except Fault HostTransfers :=
  StepMachine.run step { udtp := u, approvals := [] } ms

/-- A request to push that finds a file at its path. -/
def Refused : TransferMessage → Prop
  | .push env h => (h.newFile env).checkFileExist env.fileSystem = true
  | _ => True

/-- The ID the file of a confirmed pull finds in its memory. -/
def confirmedID (s : HostTransfers) : TransferMessage → Option UInt32
  | .answer env k _ _ =>
    match s.approvals[k]? with
    | none => none
    | some approval =>
      if approval.transferType = .pull then some env.fileMemory.fileID else none
  | _ => none

/-- The ID of the file a message makes the HOST take. -/
def takenID (s : HostTransfers) : TransferMessage → Option UInt32
  | .push env h => if (h.newFile env).checkFileExist env.fileSystem then none else some 0
  | m => s.confirmedID m

/-- What the runs of a HOST keep: all files are listed, and an approval is an approval. -/
structure Listed (s : HostTransfers) : Prop where
  overallFiles : s.udtp.overallFiles = List.range s.udtp.files.length
  approved : ∀ h ∈ s.approvals, h.responseCode = .responseApproved

/-- A header adds the ID of the file it takes, if it takes one, at the end of both lists. -/
theorem respond_fileIDs {env : Environment} {u u' : UDTP} {h h' : UDTPHeader} {b : Bool}
    (hr : h.respond env u = .ok (b, h', u')) (hu : u.overallFiles = List.range u.files.length) :
    u'.files.map UDTPFile.fileID =
        u.files.map UDTPFile.fileID ++ ((h.takenFile env).map UDTPFile.fileID).toList ∧
      u'.overallFiles = List.range u'.files.length := by
  rcases UDTPHeader.respond_udtp hr with ⟨v, f, ⟨count, rfl⟩, hf, rfl⟩ | ⟨hf, count, rfl⟩
  · have hid := (UDTPFile.beginFileProcessing_sameTransfer env f
      (UDTPHeader.takenFile_active hf)).fileID
    refine ⟨?_, ?_⟩
    · simp [UDTP.takeFile_files, hf, hid]
    · rw [UDTP.takeFile_overallFiles, UDTP.takeFile_files]
      simp [hu, List.range_succ]
  · exact ⟨by simp [hf], hu⟩

/-- A request to push takes a file with the ID `0` unless the HOST sees the file. -/
theorem takenFile_push (env : Environment) (h : UDTPHeader) :
    ((h.asRequest .push).takenFile env).map UDTPFile.fileID =
      if (h.newFile env).checkFileExist env.fileSystem then none else some 0 := by
  have htaken : (h.asRequest .push).takenFile env =
      if (h.newFile env).checkFileExist env.fileSystem then none
      else some ((h.asRequest .push).requestedPushFile env) := rfl
  rw [htaken]
  by_cases hex : (h.newFile env).checkFileExist env.fileSystem = true
  · rw [if_pos hex, if_pos hex]
    rfl
  · rw [if_neg hex, if_neg hex]
    rfl

/-- An approval that the PEER does not answer was not one of a pull. -/
theorem not_pull_of_unanswered {approval reply : UDTPHeader} {env : Environment} {u v : UDTP}
    (hcode : approval.responseCode = .responseApproved)
    (hr : approval.respond env u = .ok (false, reply, v)) : approval.transferType ≠ .pull := by
  intro htype
  cases (UDTPHeader.respond_pullApproved htype hcode hr).1

/-- The answer of the PEER to an approval makes the HOST take a file with the ID its memory
held, if the approval was one of a pull. -/
theorem takenFile_answer {approval reply reply' : UDTPHeader} {env peerEnv : Environment}
    {u u' peer v : UDTP} {b : Bool} (hcode : approval.responseCode = .responseApproved)
    (hpeer : approval.respond peerEnv peer = .ok (true, reply, v))
    (hr : reply.respond env u = .ok (b, reply', u')) :
    (reply.takenFile env).map UDTPFile.fileID =
      if approval.transferType = .pull then some env.fileMemory.fileID else none := by
  cases htype : approval.transferType with
  | pull =>
    obtain ⟨-, rfl, -⟩ := UDTPHeader.respond_pullApproved htype hcode hpeer
    have htype' : (approval.setResponseCode .responseConfirm).transferType = .pull := htype
    have hcode' : (approval.setResponseCode .responseConfirm).responseCode = .responseConfirm := rfl
    obtain ⟨-, f, hf, -⟩ := UDTPHeader.respond_pullConfirm htype' hcode' hr
    have hid := (UDTPHeader.confirmedPullFile_spec hf).2.2.2.2.1
    simp only [UDTPHeader.takenFile, htype', hcode', hf, Except.toOption, Option.map_some, hid,
      if_true]
  | push => cases (UDTPHeader.respond_pushApproved htype hcode hpeer).1
  | unknown w =>
    obtain ⟨rfl, -⟩ := UDTPHeader.respond_unknown htype hpeer
    simp [UDTPHeader.takenFile, htype]

/-- A message adds the ID of the file it takes, if it takes one. -/
theorem step_fileIDs {s t : HostTransfers} {m : TransferMessage} (hs : s.Listed)
    (hstep : s.step m = .ok t) :
    t.Listed ∧ t.udtp.files.map UDTPFile.fileID =
      s.udtp.files.map UDTPFile.fileID ++ (s.takenID m).toList := by
  obtain ⟨hall, happroved⟩ := hs
  cases m with
  | push env h =>
    simp only [step] at hstep
    split at hstep
    · cases hstep
    rename_i b reply u hr
    cases hstep
    obtain ⟨hids, hall'⟩ := respond_fileIDs hr hall
    refine ⟨⟨hall', happroved⟩, ?_⟩
    rw [hids, takenFile_push, takenID]
  | pull env h =>
    simp only [step] at hstep
    split at hstep
    · cases hstep
    rename_i b reply u hr
    cases hstep
    obtain ⟨hids, hall'⟩ := respond_fileIDs hr hall
    refine ⟨⟨hall', ?_⟩, by rw [hids]; rfl⟩
    intro a ha
    dsimp only at ha
    split at ha
    · rename_i hcode
      rcases List.mem_append.mp ha with ha | ha
      · exact happroved a ha
      · rw [List.mem_singleton] at ha
        rw [ha, hcode]
    · exact happroved a ha
  | answer env k peerEnv peer =>
    simp only [step] at hstep
    split at hstep
    · rename_i hk
      cases hstep
      exact ⟨⟨hall, happroved⟩, by simp [takenID, confirmedID, hk]⟩
    rename_i approval hk
    have hcode := happroved approval (List.mem_of_getElem? hk)
    have hrest : ∀ a ∈ s.approvals.eraseIdx k, a.responseCode = .responseApproved := by
      intro a ha
      exact happroved a (List.mem_of_mem_eraseIdx ha)
    have hid : s.takenID (.answer env k peerEnv peer) =
        if approval.transferType = .pull then some env.fileMemory.fileID else none := by
      simp [takenID, confirmedID, hk]
    split at hstep
    · cases hstep
    · rename_i reply v hpeer
      cases hstep
      exact ⟨⟨hall, hrest⟩, by simp [hid, not_pull_of_unanswered hcode hpeer]⟩
    · rename_i reply v hpeer
      split at hstep
      · cases hstep
      rename_i b reply' u hr
      cases hstep
      obtain ⟨hids, hall'⟩ := respond_fileIDs hr hall
      refine ⟨⟨hall', hrest⟩, ?_⟩
      rw [hids, hid, takenFile_answer hcode hpeer hr]

/-- **The IDs on a HOST.** After any run, the IDs of its files are those of the memories of
confirmed pulls, with a zero for every accepted push, in the order of arrival. -/
theorem run_fileIDs {u : UDTP} (hu : u.Started .host) {ms : List TransferMessage}
    {s : HostTransfers} (hrun : run u ms = .ok s) :
    s.Listed ∧ s.udtp.files.map UDTPFile.fileID =
      events step (fun s m => s.takenID m) { udtp := u, approvals := [] } ms := by
  obtain ⟨selfPeer, hfresh⟩ := hu.fresh
  refine run_induction step { udtp := u, approvals := [] }
    (P := fun ms s => s.Listed ∧ s.udtp.files.map UDTPFile.fileID =
      events step (fun s m => s.takenID m) { udtp := u, approvals := [] } ms) ?_ ?_ ms s hrun
  · exact ⟨⟨by simp [hfresh.overallFiles, hfresh.files], by simp⟩, by simp [hfresh.files, events]⟩
  · rintro ms s m t hrun ⟨hs, hids⟩ hstep
    obtain ⟨ht, hids'⟩ := step_fileIDs hs hstep
    exact ⟨ht, by rw [hids', hids, events_snoc step _ hrun hstep]⟩

/-- Without an accepted push, the IDs taken are the confirmed ones; with one, zero is among
them. -/
theorem takenIDs_cases (s : HostTransfers) (ms : List TransferMessage) {t : HostTransfers}
    (hrun : StepMachine.run step s ms = .ok t) :
    ((∀ m ∈ ms, Refused m) → events step (fun s m => s.takenID m) s ms =
      events step (fun s m => s.confirmedID m) s ms) ∧
    ((∃ m ∈ ms, ¬ Refused m) → 0 ∈ events step (fun s m => s.takenID m) s ms) := by
  induction ms generalizing s with
  | nil => exact ⟨fun _ => rfl, by simp⟩
  | cons m ms ih =>
    obtain ⟨w, hw, hrest⟩ := (run_cons_ok step s t m ms).mp hrun
    obtain ⟨hrefused, haccepted⟩ := ih w hrest
    simp only [events, hw]
    constructor
    · intro h
      have hm : s.takenID m = s.confirmedID m := by
        have hm := h m (by simp)
        cases m with
        | push env h => simp only [takenID, confirmedID, if_pos (show _ = true from hm)]
        | pull env h => rfl
        | answer env k peerEnv peer => rfl
      rw [hm, hrefused fun m' hm' => h m' (by simp [hm'])]
    · rintro ⟨m', hm', hnot⟩
      rcases List.mem_cons.mp hm' with rfl | hm'
      · cases m' with
        | push env h => simp [takenID, show ¬ _ = true from hnot]
        | pull env h => exact absurd trivial hnot
        | answer env k peerEnv peer => exact absurd trivial hnot
      · exact List.mem_append_right _ (haccepted ⟨m', hm', hnot⟩)

/-- **Uniqueness of the IDs.** After any run of requests with file ID 0 and of the answers
to the approvals, the IDs on a HOST are unique iff no push was accepted and the memories of
the confirmed pulls held different IDs, none of them zero. -/
theorem fileIDsUnique_iff_memories {u : UDTP} (hu : u.Started .host) {ms : List TransferMessage}
    {s : HostTransfers} (hrun : run u ms = .ok s) :
    FileIDsUnique s.udtp ↔ (∀ m ∈ ms, Refused m) ∧
      0 ∉ events step (fun s m => s.confirmedID m) { udtp := u, approvals := [] } ms ∧
      (events step (fun s m => s.confirmedID m) { udtp := u, approvals := [] } ms).Nodup := by
  obtain ⟨hlisted, hids⟩ := run_fileIDs hu hrun
  obtain ⟨hrefused, haccepted⟩ := takenIDs_cases _ ms hrun
  rw [fileIDsUnique_iff hlisted.overallFiles, hids]
  constructor
  · rintro ⟨hzero, hnodup⟩
    have hall : ∀ m ∈ ms, Refused m := by
      by_contra hnot
      push Not at hnot
      exact hzero (haccepted hnot)
    rw [hrefused hall] at hzero hnodup
    exact ⟨hall, hzero, hnodup⟩
  · rintro ⟨hall, hzero, hnodup⟩
    rw [hrefused hall]
    exact ⟨hzero, hnodup⟩

/-- A push for a path at which the HOST has a file of the given length. -/
def pushOf (length : ℕ) : TransferMessage :=
  .push { (default : Environment) with fileSystem := fun _ => some length } default

/-- A pull of a file, built in memory that holds a pull with the given ID. -/
def memoryOf (fileID : UInt32) : Environment :=
  { (default : Environment) with
    fileSystem := fun _ => some 1000
    fileMemory := { (default : UDTPFile) with
      transferType := .pull, fileID := fileID, chunkSize := 420 } }

/-- A refused push, and two pulls carried through to their confirmations. -/
def twoPulls : List TransferMessage :=
  [pushOf 1000, .pull (memoryOf 0) default, .pull (memoryOf 0) default,
    .answer (memoryOf 7) 0 default default, .answer (memoryOf 8) 0 default default]

/-- The two files have the IDs their memories held, and no other file has them. -/
theorem fileIDsUnique_iff_memories_twoPulls :
    ∃ s, run (UDTP.startedIn .host) twoPulls = .ok s ∧ s.approvals = [] ∧ FileIDsUnique s.udtp := by
  obtain ⟨s, hrun, hend⟩ : ∃ s, run (UDTP.startedIn .host) twoPulls = .ok s ∧ s.approvals = [] :=
    ⟨_, rfl, rfl⟩
  refine ⟨s, hrun, hend,
    (fileIDsUnique_iff_memories (UDTP.startedIn_started .host) hrun).mpr ⟨?_, ?_⟩⟩
  · intro m hm
    simp only [twoPulls, List.mem_cons, List.not_mem_nil, or_false] at hm
    rcases hm with rfl | rfl | rfl | rfl | rfl
    · rfl
    all_goals trivial
  · decide

/-- One push for the path of an empty file is accepted, and the file it makes has the ID zero. -/
theorem not_fileIDsUnique_pushOf :
    ∃ s, run (UDTP.startedIn .host) [pushOf 0] = .ok s ∧ s.approvals = [] ∧
      ¬ FileIDsUnique s.udtp := by
  obtain ⟨s, hrun, hend⟩ : ∃ s, run (UDTP.startedIn .host) [pushOf 0] = .ok s ∧
      s.approvals = [] := ⟨_, rfl, rfl⟩
  refine ⟨s, hrun, hend, ?_⟩
  intro h
  obtain ⟨hlisted, hids⟩ := run_fileIDs (UDTP.startedIn_started .host) hrun
  apply ((fileIDsUnique_iff hlisted.overallFiles).mp h).1
  rw [hids]
  decide

end HostTransfers

end Udtp
