import Udtp.Model.Header
import Udtp.Model.FileStatus

/-!
# The active files of a record

`start_file()` lists a file before it tries to start it, and does not look at the result.
The end of a file's processing clears its flag and no list.  So the list of a record holds
the files that were started on it, active or not (`Recorded`), and holds the active ones
iff no start fails and no listed file is ended (`activeListed_iff`).
-/

set_option autoImplicit false

namespace Udtp

open StepMachine

/-! ## Calls on a file -/

/-- The functions that update the status of a file's chunks, or end the file. -/
inductive FileCall
  | setChunkStatus (chunkID : ℕ) (chunkCode : ChunkCode)
  | setAllEmptyChunksToWhine
  | emptyAllChunkStatus
  | verifyCompletion
  | endFileProcessing

namespace FileCall

/-- The file after a call, and none where the call does not return. -/
def apply (f : UDTPFile) : FileCall → Except Fault (Option UDTPFile)
  | setChunkStatus chunkID chunkCode => (f.setChunkStatus chunkID chunkCode).map some
  | setAllEmptyChunksToWhine => f.setAllEmptyChunksToWhine.map fun r => some r.2
  | emptyAllChunkStatus => .ok (some f.emptyAllChunkStatus)
  | verifyCompletion => f.verifyCompletion.map fun r => r.map Prod.snd
  | endFileProcessing => .ok f.endFileProcessing

/-- The calls that end a file: a check that finds every chunk done, and the end itself. -/
def Ends (f : UDTPFile) : FileCall → Prop
  | verifyCompletion => f.AllDone
  | endFileProcessing => True
  | _ => False

/-- A call that returns changes the status of the file alone, or ends it. -/
theorem apply_cases {f g : UDTPFile} {c : FileCall} (h : c.apply f = .ok (some g)) :
    UDTPFile.SameButStatus f g ∨ (c.Ends f ∧ f.endFileProcessing = some g) := by
  cases c with
  | setChunkStatus chunkID chunkCode =>
    obtain ⟨g', hset, heq⟩ := map_ok h
    cases heq
    exact Or.inl (UDTPFile.setChunkStatus_ok hset)
  | setAllEmptyChunksToWhine =>
    obtain ⟨⟨result, g'⟩, hset, heq⟩ := map_ok h
    cases heq
    exact Or.inl (UDTPFile.setAllEmptyChunksToWhine_ok hset)
  | emptyAllChunkStatus =>
    cases h
    exact Or.inl (UDTPFile.emptyAllChunkStatus_sameButStatus f)
  | verifyCompletion =>
    obtain ⟨r, hverify, heq⟩ := map_ok h
    obtain ⟨⟨result, g'⟩, rfl, rfl⟩ := Option.map_eq_some_iff.mp heq
    rcases UDTPFile.verifyCompletion_cases hverify with rfl | ⟨hdone, hend⟩
    · exact Or.inl (UDTPFile.SameButStatus.refl _)
    · exact Or.inr ⟨hdone, hend⟩
  | endFileProcessing =>
    simp only [apply, Except.ok.injEq] at h
    exact Or.inr ⟨trivial, h⟩

/-- A call that ends the file does what `end_file_processing()` does. -/
theorem apply_of_ends {f : UDTPFile} {c : FileCall} (h : c.Ends f) :
    c.apply f = .ok f.endFileProcessing := by
  cases c with
  | verifyCompletion =>
    simp only [apply, UDTPFile.verifyCompletion_of_allDone h, Except.map, Option.map_map]
    simp [Function.comp_def]
  | endFileProcessing => rfl
  | setChunkStatus chunkID chunkCode => exact h.elim
  | setAllEmptyChunksToWhine => exact h.elim
  | emptyAllChunkStatus => exact h.elim

end FileCall

/-! ## The files that messages take -/

/-- The file a message takes is fresh, and its header is marked approved in every branch but
that of an approved push. -/
theorem UDTPHeader.takenFile_spec {env : Environment} {h : UDTPHeader} {f : UDTPFile}
    (hf : h.takenFile env = some f) :
    f.fileThreads = [] ∧ f.critError = false ∧ (f.hasApprovedHeader = false →
      h.transferType = .push ∧ h.responseCode = .responseApproved) := by
  unfold takenFile at hf
  split at hf
  case h_1 => -- a pull was approved
    cases hf
    exact ⟨rfl, rfl, by simp [approvedPullFile]⟩
  case h_2 => -- a pull was confirmed
    cases hc : h.confirmedPullFile env with
    | error fault => simp [hc, Except.toOption] at hf
    | ok g =>
      simp only [hc, Except.toOption, Option.some.injEq] at hf
      subst hf
      unfold confirmedPullFile at hc
      split at hc
      · cases hc
      rename_i g' hg'
      cases hc
      unfold UDTPFile.retrieveInfoFromLocalFile at hg'
      split at hg'
      · cases hg'
      cases hg'
      exact ⟨rfl, rfl, by simp⟩
  case h_3 => -- a push was requested
    split at hf
    · cases hf
    · cases hf
      exact ⟨rfl, rfl, by simp [requestedPushFile]⟩
  case h_4 ht hc => -- a push was approved
    cases hf
    exact ⟨rfl, rfl, fun _ => ⟨ht, hc⟩⟩
  case h_5 => cases hf

namespace UDTP

variable {env : Environment} {posID k : ℕ} {f : UDTPFile} {u : UDTP}

/-- Taking a file appends it to the active files of its record and starts it. -/
theorem getPeer_takeFile : (u.takeFile env posID f).getPeer k =
    (u.modifyPeer posID fun p => { p with
      activeFiles := p.activeFiles ++ [u.files.length]
      selfOverallFiles := p.selfOverallFiles ++ [u.files.length] }).getPeer k := rfl

/-- Taking a file adds its number to the active files of one record. -/
theorem activeFiles_takeFile {p' : UDTPPeer} (h : (u.takeFile env posID f).getPeer k = some p') :
    ∃ p, u.getPeer k = some p ∧
      ∀ n, n ∈ p'.activeFiles ↔ n ∈ p.activeFiles ∨ (k = posID ∧ n = u.files.length) := by
  rw [getPeer_takeFile] at h
  by_cases hk : k = posID
  · subst hk
    rw [getPeer_modifyPeer_self] at h
    obtain ⟨p, hp, rfl⟩ := Option.map_eq_some_iff.mp h
    exact ⟨p, hp, by simp⟩
  · rw [getPeer_modifyPeer_ne u _ hk] at h
    exact ⟨p', h, by simp [hk]⟩

end UDTP

/-! ## Sessions -/

/-- An endpoint, and the calls of `start_file()` so far: the position of the record and the
number of the file. -/
structure FileSession where
  udtp : UDTP
  starts : List (ℕ × ℕ)

inductive FileEvent
  | message (env : Environment) (h : UDTPHeader)
  | call (file : ℕ) (function : FileCall)

namespace FileSession

/-- The error is empty where a call does not return.  A file that does not exist is not
called. -/
def step (s : FileSession) : FileEvent → Except (Option Fault) FileSession
  | .message env h =>
    match h.respond env s.udtp with
    | .error fault => .error (some fault)
    | .ok (_, _, u) => .ok {
        udtp := u
        starts := s.starts ++
          ((h.takenFile env).map fun _ => (h.myPeer, s.udtp.files.length)).toList }
  | .call file function =>
    match s.udtp.files[file]? with
    | none => .ok s
    | some f =>
      match function.apply f with
      | .error fault => .error (some fault)
      | .ok none => .error none
      | .ok (some g) => .ok { s with udtp := { s.udtp with files := s.udtp.files.set file g } }

/-- The active files of each record are the files that were started on it and are active. -/
def ActiveListed (s : FileSession) : Prop :=
  ∀ k p, s.udtp.getPeer k = some p → ∀ n, n ∈ p.activeFiles ↔
    (k, n) ∈ s.starts ∧ ∃ f, s.udtp.files[n]? = some f ∧ f.active = true

/-- No start fails, and no listed file is ended: the approval of a push reaches no record,
and a call on a file in the list of a record does not end it. -/
def KeepsListed (s : FileSession) : FileEvent → Prop
  | .message _ h => h.transferType = .push → h.responseCode = .responseApproved →
      s.udtp.getPeer h.myPeer = none
  | .call file function => (∃ p ∈ s.udtp.listPeers, file ∈ p.activeFiles) →
      ∀ f, s.udtp.files[file]? = some f → ¬ function.Ends f

instance (f : UDTPFile) (function : FileCall) : Decidable (function.Ends f) :=
  match function with
  | .verifyCompletion => inferInstanceAs (Decidable
      (∀ i < f.numberOfChunks.toNat, f.getChunkStatus i .done = .ok true))
  | .endFileProcessing => inferInstanceAs (Decidable True)
  | .setChunkStatus _ _ => inferInstanceAs (Decidable False)
  | .setAllEmptyChunksToWhine => inferInstanceAs (Decidable False)
  | .emptyAllChunkStatus => inferInstanceAs (Decidable False)

instance (s : FileSession) (e : FileEvent) : Decidable (KeepsListed s e) :=
  match e with
  | .message _ h => inferInstanceAs (Decidable (h.transferType = .push →
      h.responseCode = .responseApproved → s.udtp.getPeer h.myPeer = none))
  | .call file function => inferInstanceAs (Decidable
      ((∃ p ∈ s.udtp.listPeers, file ∈ p.activeFiles) →
        ∀ f ∈ s.udtp.files[file]?, ¬ function.Ends f))

/-- What every session keeps: the list of a record holds the files that were started on it,
and no file has threads. -/
structure Recorded (s : FileSession) : Prop where
  noThreads : ∀ f ∈ s.udtp.files, f.fileThreads = []
  numbered : ∀ k n, (k, n) ∈ s.starts → n < s.udtp.files.length
  listed : ∀ k p, s.udtp.getPeer k = some p → ∀ n, n ∈ p.activeFiles ↔ (k, n) ∈ s.starts

/-- Before any transfer. -/
structure NoFiles (u : UDTP) : Prop where
  files : u.files = []
  activeFiles : ∀ p ∈ u.listPeers, p.activeFiles = []

variable {s t : FileSession}

/-- An endpoint without files has nothing to record. -/
theorem NoFiles.recorded {u : UDTP} (h : NoFiles u) : Recorded ⟨u, []⟩ := by
  refine ⟨?_, ?_, ?_⟩
  · simp [h.files]
  · simp
  · intro k p hp n
    simp [h.activeFiles p (List.mem_of_getElem? hp)]

/-- In terms of the starts alone: everything that was started on a record is active. -/
theorem Recorded.activeListed_iff_forall (h : Recorded s) :
    ActiveListed s ↔ ∀ k p, s.udtp.getPeer k = some p → ∀ n, (k, n) ∈ s.starts →
      ∃ f, s.udtp.files[n]? = some f ∧ f.active = true := by
  constructor
  · intro hactive k p hp n hn
    exact ((hactive k p hp n).mp ((h.listed k p hp n).mpr hn)).2
  · intro hactive k p hp n
    rw [h.listed k p hp n]
    constructor
    · intro hn
      exact ⟨hn, hactive k p hp n hn⟩
    · rintro ⟨hn, -⟩
      exact hn

/-! ## One step -/

/-- A message takes a file and starts it on a record, or changes the counter of file IDs at
most. -/
theorem step_message {env : Environment} {h : UDTPHeader}
    (hstep : s.step (.message env h) = .ok t) :
    (∃ v f, UDTPHeader.SameButCounter s.udtp v ∧ h.takenFile env = some f ∧
      t = ⟨v.takeFile env h.myPeer f, s.starts ++ [(h.myPeer, s.udtp.files.length)]⟩) ∨
    (∃ v, UDTPHeader.SameButCounter s.udtp v ∧ t = ⟨v, s.starts⟩) := by
  simp only [step] at hstep
  split at hstep
  · cases hstep
  rename_i b h' u hr
  cases hstep
  rcases UDTPHeader.respond_udtp hr with ⟨v, f, hv, hf, rfl⟩ | ⟨hf, hv⟩
  · exact Or.inl ⟨v, f, hv, hf, by simp [hf]⟩
  · exact Or.inr ⟨u, hv, by simp [hf]⟩

/-- A call leaves a file its threads and its flag, or ends it. -/
theorem step_call {file : ℕ} {function : FileCall} (hstep : s.step (.call file function) = .ok t) :
    t = s ∨ ∃ f g, s.udtp.files[file]? = some f ∧
      (UDTPFile.SameButStatus f g ∨ (function.Ends f ∧ f.endFileProcessing = some g)) ∧
      t = ⟨{ s.udtp with files := s.udtp.files.set file g }, s.starts⟩ := by
  simp only [step] at hstep
  split at hstep
  · cases hstep
    exact Or.inl rfl
  rename_i f hf
  split at hstep
  · cases hstep
  · cases hstep
  · rename_i g hg
    cases hstep
    exact Or.inr ⟨f, g, hf, FileCall.apply_cases hg, rfl⟩

/-- Every step keeps a session recorded. -/
theorem Recorded.next (h : Recorded s) {e : FileEvent} (hstep : s.step e = .ok t) :
    Recorded t := by
  cases e with
  | message env hd =>
    rcases step_message hstep with ⟨_, f, ⟨count, rfl⟩, hf, rfl⟩ | ⟨_, ⟨count, rfl⟩, rfl⟩
    · have hactive := UDTPHeader.takenFile_active hf
      refine ⟨?_, ?_, ?_⟩
      · simp only [UDTP.takeFile_files, List.forall_mem_append, List.forall_mem_singleton]
        refine ⟨h.noThreads, ?_⟩
        rw [UDTPFile.beginFileProcessing_eq env f hactive]
        split
        · exact (UDTPHeader.takenFile_spec hf).1
        · exact (UDTPHeader.takenFile_spec hf).1
      · intro k n hn
        simp only [UDTP.takeFile_files, List.length_append, List.length_singleton]
        simp only [List.mem_append, List.mem_singleton, Prod.mk.injEq] at hn
        rcases hn with hn | ⟨-, rfl⟩
        · have := h.numbered k n hn
          omega
        · omega
      · intro k p' hp' n
        obtain ⟨p, hp, hmem⟩ := UDTP.activeFiles_takeFile hp'
        rw [hmem, h.listed k p hp n]
        simp
    · exact ⟨h.noThreads, h.numbered, h.listed⟩
  | call file function =>
    rcases step_call hstep with rfl | ⟨f, g, hf, hfg, rfl⟩
    · exact h
    · have hnone := h.noThreads f (List.mem_of_getElem? hf)
      refine ⟨?_, ?_, h.listed⟩
      · intro g' hg'
        rcases List.mem_or_eq_of_mem_set hg' with hold | rfl
        · exact h.noThreads g' hold
        · rcases hfg with ⟨count, status, rfl⟩ | ⟨-, hend⟩
          · exact hnone
          · rw [UDTPFile.endFileProcessing_of_noThreads hnone] at hend
            cases hend
            exact hnone
      · intro k n hn
        simpa using h.numbered k n hn

/-- A step that neither fails a start nor ends a listed file keeps the lists. -/
theorem ActiveListed.next (h : ActiveListed s) (hrec : Recorded s) {e : FileEvent}
    (hkeeps : KeepsListed s e) (hstep : s.step e = .ok t) : ActiveListed t := by
  rw [(hrec.next hstep).activeListed_iff_forall]
  rw [hrec.activeListed_iff_forall] at h
  cases e with
  | message env hd =>
    rcases step_message hstep with ⟨_, f, ⟨count, rfl⟩, hf, rfl⟩ | ⟨_, ⟨count, rfl⟩, rfl⟩
    · intro k p' hp' n hn
      obtain ⟨p, hp, -⟩ := UDTP.activeFiles_takeFile hp'
      simp only [List.mem_append, List.mem_singleton, Prod.mk.injEq] at hn
      rw [UDTP.takeFile_files]
      rcases hn with hn | ⟨rfl, rfl⟩
      · obtain ⟨g, hg, hactive⟩ := h k p hp n hn
        exact ⟨g, by rw [List.getElem?_append_left (hrec.numbered k n hn), hg], hactive⟩
      · -- the new file is active because its start succeeded
        obtain ⟨-, herror, happroved⟩ := UDTPHeader.takenFile_spec hf
        have hheader : f.hasApprovedHeader = true := by
          by_contra hnot
          obtain ⟨ht, hc⟩ := happroved (by simpa using hnot)
          have hnone := hkeeps ht hc
          rw [show s.udtp.getPeer hd.myPeer = some p from hp] at hnone
          cases hnone
        refine ⟨(f.beginFileProcessing env).2, by simp, ?_⟩
        rw [UDTPFile.beginFileProcessing_eq env f (UDTPHeader.takenFile_active hf),
          if_pos ⟨hheader, herror⟩]
        rfl
    · exact h
  | call file function =>
    rcases step_call hstep with rfl | ⟨f, g, hf, hfg, rfl⟩
    · exact h
    · intro k p hp n hn
      obtain ⟨f', hf', hactive⟩ := h k p hp n hn
      by_cases hfile : n = file
      · subst hfile
        rw [hf] at hf'
        cases hf'
        refine ⟨g, by simp [(List.getElem?_eq_some_iff.mp hf).1], ?_⟩
        rcases hfg with ⟨count, status, rfl⟩ | ⟨hends, -⟩
        · exact hactive
        · have hlisted := (hrec.listed k p hp n).mpr hn
          exact absurd hends (hkeeps ⟨p, List.mem_of_getElem? hp, hlisted⟩ f hf)
      · exact ⟨f', by simp [Ne.symm hfile, hf'], hactive⟩

/-- Any other step leaves a file in a list that is not active. -/
theorem Recorded.broken (h : Recorded s) {e : FileEvent} (hnot : ¬ KeepsListed s e) :
    ∃ t, s.step e = .ok t ∧ ¬ ActiveListed t := by
  cases e with
  | message env hd =>
    simp only [KeepsListed, Classical.not_imp] at hnot
    obtain ⟨ht, hc, hpeer⟩ := hnot
    obtain ⟨p, hp⟩ := Option.ne_none_iff_exists'.mp hpeer
    have hf : hd.takenFile env = some (hd.approvedPushFile env) := by
      simp only [UDTPHeader.takenFile, ht, hc]
    have hstep : s.step (.message env hd) =
        .ok ⟨s.udtp.takeFile env hd.myPeer (hd.approvedPushFile env),
          s.starts ++ [(hd.myPeer, s.udtp.files.length)]⟩ := by
      have hunapproved : ∀ f, hd.takenFile env = some f → f.hasApprovedHeader = false := by
        intro f hf'
        rw [hf] at hf'
        cases hf'
        rfl
      simp only [step, UDTPHeader.respond_of_unapproved s.udtp hunapproved,
        UDTPHeader.negotiate, ht, hc, hf]
      rfl
    refine ⟨_, hstep, ?_⟩
    intro hlisted
    rw [(h.next hstep).activeListed_iff_forall] at hlisted
    have hp' := UDTP.getPeer_modifyPeer_self s.udtp hd.myPeer fun q => { q with
      activeFiles := q.activeFiles ++ [s.udtp.files.length]
      selfOverallFiles := q.selfOverallFiles ++ [s.udtp.files.length] }
    rw [hp, Option.map_some] at hp'
    obtain ⟨g, hg, hactive⟩ := hlisted hd.myPeer _ hp' s.udtp.files.length (by simp)
    -- its header is not marked approved, so the file was not started
    simp only [UDTP.takeFile_files, List.getElem?_concat_length, Option.some.injEq] at hg
    rw [← hg, UDTPFile.beginFileProcessing_eq env _ (UDTPHeader.takenFile_active hf)] at hactive
    simp [UDTPHeader.approvedPushFile, UDTPHeader.newFile, UDTPFile.unpackFromHeader,
      UDTPFile.new, UDTPFile.setDefaults] at hactive
  | call file function =>
    simp only [KeepsListed, Classical.not_imp, not_forall, not_not] at hnot
    obtain ⟨⟨p, hp, hlisted⟩, f, hf, hends⟩ := hnot
    obtain ⟨k, hk⟩ := List.mem_iff_getElem?.mp hp
    have hend := UDTPFile.endFileProcessing_of_noThreads
      (h.noThreads f (List.mem_of_getElem? hf))
    refine ⟨⟨{ s.udtp with files := s.udtp.files.set file (f.setActive false) }, s.starts⟩, ?_, ?_⟩
    · simp only [step, hf, FileCall.apply_of_ends hends, hend]
    · intro hactive
      obtain ⟨-, g, hg, hgactive⟩ := (hactive k p hk file).mp hlisted
      simp only [List.getElem?_set_self (List.getElem?_eq_some_iff.mp hf).1,
        Option.some.injEq] at hg
      subst hg
      cases hgactive

/-- **When the list holds the active files.** From an endpoint without files, after every
prefix of a sequence of messages and calls the list of each record holds exactly the active
files that were started on it, iff no approval of a push reaches a record and no call ends a
listed file. -/
theorem activeListed_iff {u : UDTP} (hu : NoFiles u) (es : List FileEvent) :
    (∀ t, Passes step ⟨u, []⟩ es t → ActiveListed t) ↔
      ∀ t e, Takes step ⟨u, []⟩ es t e → KeepsListed t e := by
  have hstart : ActiveListed ⟨u, []⟩ := by
    rw [hu.recorded.activeListed_iff_forall]
    simp
  apply passes_iff_takes_of_invariant step Recorded
  · intro s e t hrec hstep
    exact hrec.next hstep
  · intro s e t hrec hlisted hkeeps hstep
    exact hlisted.next hrec hkeeps hstep
  · intro s e hrec _ hnot
    exact hrec.broken hnot
  · exact hu.recorded
  · exact hstart

/-- The approval of a push that a PEER asked for. -/
def approvedPush : FileEvent :=
  .message default { (default : UDTPHeader) with
    transferType := .push, responseCode := .responseApproved }

/-- A pull of one chunk is approved, the chunk arrives, and the file is found complete. -/
def completedPull : List FileEvent :=
  [.message default { (default : UDTPHeader) with
      transferType := .pull, responseCode := .responseApproved, numberOfChunks := 1 },
    .call 0 (.setChunkStatus 0 .done),
    .call 0 .verifyCompletion]

/-- The endpoint that `start()` makes has no files. -/
theorem startedIn_noFiles : NoFiles (UDTP.startedIn .peer) := by
  refine ⟨rfl, ?_⟩
  decide

/-- A pull of two chunks is approved, one arrives, and the other is found to be missing. -/
def runningPull : List FileEvent :=
  [.message default { (default : UDTPHeader) with
      transferType := .pull, responseCode := .responseApproved, numberOfChunks := 2 },
    .call 0 (.setChunkStatus 0 .done),
    .call 0 .verifyCompletion]

/-- The file stays active and in the list of its record. -/
theorem activeListed_iff_runningPull :
    (∃ t p, run step ⟨UDTP.startedIn .peer, []⟩ runningPull = .ok t ∧
      t.udtp.getPeer 0 = some p ∧ p.activeFiles = [0]) ∧
    (∀ t e, Takes step ⟨UDTP.startedIn .peer, []⟩ runningPull t e → KeepsListed t e) ∧
    ∀ t, Passes step ⟨UDTP.startedIn .peer, []⟩ runningPull t → ActiveListed t := by
  have hkeeps : ∀ t e, Takes step ⟨UDTP.startedIn .peer, []⟩ runningPull t e → KeepsListed t e :=
    forall_takes_of_checks step (by decide)
  exact ⟨⟨_, _, rfl, rfl, rfl⟩, hkeeps, (activeListed_iff startedIn_noFiles runningPull).mpr hkeeps⟩

/-- A file whose start failed enters the list of its record, and one that completes stays in
it. -/
theorem not_activeListed_approvedPush :
    (∃ t, run step ⟨UDTP.startedIn .peer, []⟩ [approvedPush] = .ok t ∧ ¬ ActiveListed t) ∧
      ∃ t, run step ⟨UDTP.startedIn .peer, []⟩ completedPull = .ok t ∧ ¬ ActiveListed t := by
  refine ⟨⟨_, rfl, ?_⟩, _, rfl, ?_⟩
  · intro h
    obtain ⟨-, f, hf, hactive⟩ := (h 0 _ rfl 0).mp (by decide)
    cases hf
    cases hactive
  · intro h
    obtain ⟨-, f, hf, hactive⟩ := (h 0 _ rfl 0).mp (by decide)
    cases hf
    cases hactive

end FileSession

end Udtp
