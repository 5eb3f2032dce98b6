import Mathlib.Data.List.Flatten
import Udtp.Analysis.HostAlignment
import Udtp.Model.Network

/-!
# The log of files

"This adds a file to the log! No deleting or nothing!", says `add_file_to_list()`.  Over every run
of a HOST and its PEERs the list of each endpoint is such a log (`run_fileLog`): it is only
appended to, what is in it stays as the attempt to start it left it, and a file is listed by one
record at most, that of the peer it was started for.
-/

set_option autoImplicit false

namespace Udtp

open StepMachine

/-! ## Lists of lists -/

section Lists

variable {α β : Type} {l : List α} {f : α → α} {a : α}

/-- An element of a list with one position changed is one of the list, or the changed one. -/
theorem mem_modify {k : ℕ} (h : a ∈ l.modify k f) : a ∈ l ∨ ∃ b ∈ l, a = f b := by
  obtain ⟨i, hi⟩ := List.mem_iff_getElem?.mp h
  rw [List.getElem?_modify] at hi
  obtain ⟨b, hb, rfl⟩ := Option.map_eq_some_iff.mp hi
  have hmem : b ∈ l := List.mem_of_getElem? hb
  by_cases hk : k = i
  · rw [if_pos hk]
    exact Or.inr ⟨b, hmem, rfl⟩
  · rw [if_neg hk]
    exact Or.inl hmem

/-- One of the lists gets an entry that none of them has. -/
theorem nodup_flatMap_modify {g : α → List β} {b : β} (k : ℕ) (hf : ∀ a, g (f a) = g a ++ [b])
    (hfresh : b ∉ l.flatMap g) (h : (l.flatMap g).Nodup) : ((l.modify k f).flatMap g).Nodup := by
  by_cases hk : k < l.length
  · have hsplit : l = l.take k ++ l[k] :: l.drop (k + 1) := by
      rw [List.cons_getElem_drop_succ, List.take_append_drop]
    have hflat : l.flatMap g = (l.take k).flatMap g ++ g l[k] ++ (l.drop (k + 1)).flatMap g := by
      rw [List.append_assoc, ← List.flatMap_cons, ← List.flatMap_append, ← hsplit]
    have hmodified : (l.modify k f).flatMap g =
        (l.take k).flatMap g ++ g l[k] ++ b :: (l.drop (k + 1)).flatMap g := by
      rw [List.modify_eq_take_cons_drop hk, List.flatMap_append, List.flatMap_cons, hf]
      simp only [List.append_assoc, List.singleton_append]
    rw [hmodified, List.perm_middle.nodup_iff, ← hflat]
    exact List.nodup_cons.mpr ⟨hfresh, h⟩
  · rw [List.modify_eq_self (Nat.not_lt.mp hk)]
    exact h

end Lists

/-! ## The lists of an endpoint -/

/-- The two lists of files of a record. -/
def UDTPPeer.fileLists (p : UDTPPeer) : List ℕ × List ℕ := (p.selfOverallFiles, p.activeFiles)

/-- A new record lists no files. -/
theorem UDTPPeer.fileLists_new (memory : UDTPPeer) (ready : Bool) (socket : Socket) :
    (new memory ready socket).fileLists = ([], []) := by
  unfold new startSelfMutex
  dsimp only
  split
  · rfl
  split
  · rfl
  · rfl

/-- The record of a new connection lists no files. -/
theorem UDTPPeer.fileLists_acceptedPeer (answer : AcceptAnswer) (socket : Socket)
    (uniqueID : UInt32) : (acceptedPeer answer socket uniqueID).fileLists = ([], []) := by
  have hnew := fileLists_new answer.peerMemory answer.mutexReady socket
  unfold acceptedPeer
  generalize new answer.peerMemory answer.mutexReady socket = p at hnew
  exact hnew

namespace UDTP

/-- The endpoint lists its files in the order it took them, a record lists files that exist, both
its lists are the same, and no file is in two records or twice in one. -/
structure Filed (u : UDTP) : Prop where
  overallFiles : u.overallFiles = List.range u.files.length
  known : ∀ p ∈ u.listPeers, ∀ file ∈ p.selfOverallFiles, file < u.files.length
  activeFiles : ∀ p ∈ u.listPeers, p.activeFiles = p.selfOverallFiles
  owned : (u.listPeers.flatMap UDTPPeer.selfOverallFiles).Nodup

variable {u u' v : UDTP}

/-- Where the lists of the records and the log stay as they are. -/
theorem Filed.of_map_eq (h : u.Filed)
    (hmap : u'.listPeers.map UDTPPeer.fileLists = u.listPeers.map UDTPPeer.fileLists)
    (hfiles : u'.files = u.files) (hoverall : u'.overallFiles = u.overallFiles) : u'.Filed where
  overallFiles := by
    rw [hoverall, hfiles]
    exact h.overallFiles
  known := by
    rw [hfiles]
    exact forall_listPeers_of_map_eq (fun lists => ∀ file ∈ lists.1, file < u.files.length) hmap
      h.known
  activeFiles := forall_listPeers_of_map_eq (fun lists => lists.2 = lists.1) hmap h.activeFiles
  owned := by
    have hflat : ∀ peers : List UDTPPeer, peers.flatMap UDTPPeer.selfOverallFiles =
        (peers.map UDTPPeer.fileLists).flatMap Prod.fst := by
      intro peers
      rw [List.flatMap_map]
      rfl
    rw [hflat, hmap, ← hflat]
    exact h.owned

/-- Records are removed, or new ones come without files. -/
theorem Filed.of_records (h : u.Filed) {peers new : List UDTPPeer}
    (hpeers : peers.Sublist (u.listPeers ++ new)) (hnew : ∀ p ∈ new, p.fileLists = ([], []))
    (hu' : u'.listPeers = peers) (hfiles : u'.files = u.files)
    (hoverall : u'.overallFiles = u.overallFiles) : u'.Filed := by
  have hempty : new.flatMap UDTPPeer.selfOverallFiles = [] := by
    refine List.flatMap_eq_nil_iff.mpr ?_
    intro p hp
    exact congrArg Prod.fst (hnew p hp)
  have hmem : ∀ p ∈ u'.listPeers, p ∈ u.listPeers ∨ p.fileLists = ([], []) := by
    intro p hp
    rw [hu'] at hp
    rcases List.mem_append.mp (hpeers.subset hp) with hold | hp
    · exact Or.inl hold
    · exact Or.inr (hnew p hp)
  refine ⟨?_, ?_, ?_, ?_⟩
  · rw [hoverall, hfiles]
    exact h.overallFiles
  · intro p hp file hfile
    rw [hfiles]
    rcases hmem p hp with hold | hnone
    · exact h.known p hold file hfile
    · have hnil : p.selfOverallFiles = [] := congrArg Prod.fst hnone
      rw [hnil] at hfile
      cases hfile
  · intro p hp
    rcases hmem p hp with hold | hnone
    · exact h.activeFiles p hold
    · exact (congrArg Prod.snd hnone).trans (congrArg Prod.fst hnone).symm
  · have hsublist := hpeers.flatMap UDTPPeer.selfOverallFiles
    rw [List.flatMap_append, hempty, List.append_nil] at hsublist
    rw [hu']
    exact h.owned.sublist hsublist

/-- A file that is taken is new to all records, and one of them lists it. -/
theorem Filed.takeFile (h : u.Filed) (env : Environment) (posID : ℕ) (f : UDTPFile) :
    (u.takeFile env posID f).Filed := by
  have hlength : (u.takeFile env posID f).files.length = u.files.length + 1 := by
    rw [takeFile_files, List.length_append, List.length_singleton]
  have hmem : ∀ p ∈ (u.takeFile env posID f).listPeers, p ∈ u.listPeers ∨
      ∃ q ∈ u.listPeers, p.selfOverallFiles = q.selfOverallFiles ++ [u.files.length] ∧
        p.activeFiles = q.activeFiles ++ [u.files.length] := by
    intro p hp
    rcases mem_modify hp with hold | ⟨q, hq, rfl⟩
    · exact Or.inl hold
    · exact Or.inr ⟨q, hq, rfl, rfl⟩
  refine ⟨?_, ?_, ?_, ?_⟩
  · rw [takeFile_overallFiles, hlength, h.overallFiles, List.range_succ]
  · intro p hp file hfile
    rw [hlength]
    rcases hmem p hp with hold | ⟨q, hq, hself, -⟩
    · have hlt := h.known p hold file hfile
      omega
    · rw [hself] at hfile
      rcases List.mem_append.mp hfile with hold | hnew
      · have hlt := h.known q hq file hold
        omega
      · rw [List.mem_singleton.mp hnew]
        omega
  · intro p hp
    rcases hmem p hp with hold | ⟨q, hq, hself, hactive⟩
    · exact h.activeFiles p hold
    · rw [hself, hactive, h.activeFiles q hq]
  · refine nodup_flatMap_modify posID (fun _ => rfl) ?_ h.owned
    intro hin
    obtain ⟨p, hp, hfile⟩ := List.mem_flatMap.mp hin
    have hlt : u.files.length < u.files.length := h.known p hp _ hfile
    omega

/-- The log is sound and continues another one. -/
structure FiledAfter (u v : UDTP) : Prop where
  filed : v.Filed
  files : u.files <+: v.files

/-- Where nothing happened, the log is what it was. -/
theorem Filed.after (h : u.Filed) : u.FiledAfter u := ⟨h, List.prefix_refl _⟩

/-- A log that was appended to twice was appended to. -/
theorem FiledAfter.trans (huv : u.FiledAfter v) (hvu' : v.FiledAfter u') : u.FiledAfter u' :=
  ⟨hvu'.filed, huv.files.trans hvu'.files⟩

/-- Taking a file appends it to the log. -/
theorem Filed.takeFile_after (h : u.Filed) (env : Environment) (posID : ℕ) (f : UDTPFile) :
    u.FiledAfter (u.takeFile env posID f) where
  filed := h.takeFile env posID f
  files := by
    rw [takeFile_files]
    exact List.prefix_append _ _

/-- A counter is no part of the log. -/
theorem Filed.sameButCounter (h : u.Filed) (hsame : UDTPHeader.SameButCounter u v) :
    u.FiledAfter v := by
  obtain ⟨count, rfl⟩ := hsame
  exact ⟨⟨h.overallFiles, h.known, h.activeFiles, h.owned⟩, List.prefix_refl _⟩

/-- Where a change reaches neither the log nor the lists of a record. -/
theorem Filed.after_of_map_eq (h : u.Filed)
    (hmap : v.listPeers.map UDTPPeer.fileLists = u.listPeers.map UDTPPeer.fileLists)
    (hfiles : v.files = u.files) (hoverall : v.overallFiles = u.overallFiles) :
    u.FiledAfter v := by
  refine ⟨h.of_map_eq hmap hfiles hoverall, ?_⟩
  rw [hfiles]

/-- Only a header message adds to the log. -/
theorem Filed.process (h : u.Filed) {env : Environment} {p q : Packet} {b : Bool}
    (hprocess : process env u p = .ok (b, q, v)) : u.FiledAfter v := by
  rcases process_cases hprocess with ⟨hs, b', hs', -, hr⟩ | ⟨hd, b', hd', -, hr⟩ |
    ⟨pa, -, rfl⟩ | ⟨a, b', a', -, hr⟩
  · have hmap := map_listPeers_handshake UDTPPeer.fileLists hr fun _ _ _ => rfl
    rcases UDTPHandshake.respond_udtp hr with ⟨-, -, rfl⟩ | ⟨-, -, rfl⟩ | ⟨-, rfl⟩ | ⟨-, -, rfl⟩
    · exact h.after_of_map_eq hmap rfl rfl
    · exact h.after_of_map_eq hmap rfl rfl
    · exact h.after_of_map_eq hmap rfl rfl
    · exact h.after
  · rcases UDTPHeader.respond_udtp hr with ⟨w, f, hsame, -, rfl⟩ | ⟨-, hsame⟩
    · have hw := h.sameButCounter hsame
      exact hw.trans (hw.filed.takeFile_after env hd.myPeer f)
    · exact h.sameButCounter hsame
  · exact h.after
  · have hmap := UDTPAcknowledge.map_listPeers_respond UDTPPeer.fileLists hr
      fun _ _ _ _ _ _ => rfl
    obtain ⟨rfl | ⟨p, p', -, -, rfl⟩, -⟩ := UDTPAcknowledge.respond_spec hr
    · exact h.after
    · exact h.after_of_map_eq hmap rfl rfl

/-- What was started for the first time has an empty log. -/
theorem Started.filed {socketType : SocketType} (h : Started socketType u) : u.Filed := by
  obtain ⟨self, hfresh⟩ := h.fresh
  obtain ⟨memory, outcome, h⟩ := h
  have hself : ∀ p ∈ u.listPeers, p.fileLists = ([], []) := by
    simp only [start, new, Bool.false_eq_true, if_false] at h
    split at h
    · cases h
    split at h
    · cases h
    cases h
    intro p hp
    obtain rfl := List.mem_singleton.mp hp
    have hnew := UDTPPeer.fileLists_new outcome.peerMemory outcome.selfMutexReady
      ⟨outcome.descriptor, 0⟩
    generalize UDTPPeer.new outcome.peerMemory outcome.selfMutexReady
      ⟨outcome.descriptor, 0⟩ = p at hnew
    exact hnew
  refine ⟨?_, ?_, ?_, ?_⟩
  · rw [hfresh.overallFiles, hfresh.files]
    rfl
  · intro p hp file hfile
    have hnil : p.selfOverallFiles = [] := congrArg Prod.fst (hself p hp)
    rw [hnil] at hfile
    cases hfile
  · intro p hp
    exact (congrArg Prod.snd (hself p hp)).trans (congrArg Prod.fst (hself p hp)).symm
  · have hnil : u.listPeers.flatMap UDTPPeer.selfOverallFiles = [] := by
      refine List.flatMap_eq_nil_iff.mpr ?_
      intro p hp
      exact congrArg Prod.fst (hself p hp)
    rw [hnil]
    exact List.nodup_nil

end UDTP

/-! ## The loops -/

open UDTP (Filed FiledAfter)

/-- The removal loop takes records away and leaves the log. -/
theorem HostLoop.removeQueued_filed {queue : List ℕ} {sockets sockets' : List PollFd} {u v : UDTP}
    (h : u.Filed) (hremove : removeQueued queue sockets u = .ok (sockets', v)) :
    u.FiledAfter v := by
  induction queue generalizing sockets u with
  | nil =>
    cases hremove
    exact h.after
  | cons posID queue ih =>
    rw [removeQueued] at hremove
    split at hremove
    · split at hremove
      · cases hremove
      · rename_i removed w hremoved
        have hw : u.FiledAfter w := by
          rw [UDTP.removePeer_ok hremoved]
          have hsublist : (u.listPeers.eraseIdx posID).Sublist (u.listPeers ++ []) := by
            rw [List.append_nil]
            exact List.eraseIdx_sublist _ _
          exact ⟨h.of_records hsublist (by simp) rfl rfl rfl, List.prefix_refl _⟩
        exact hw.trans (ih hw.filed hremove)
    · cases hremove

/-- A step of a HOST at most appends to its log. -/
theorem HostLoop.step_filed {s t : HostLoop} {input : HostInput} (h : s.udtp.Filed)
    (hstep : s.step input = .ok t) : s.udtp.FiledAfter t.udtp := by
  have hstepped := step_stepped hstep
  generalize s.event input = event at hstepped
  cases hstepped with
  | polled hphase =>
    obtain ⟨sockets, hpolled⟩ := s.setRevents_eq input.poll
    rw [hpolled]
    exact h.after
  | accepted hphase =>
    refine ⟨h.of_records (List.Sublist.refl _) ?_ rfl rfl rfl, List.prefix_refl _⟩
    intro p hp
    rw [List.mem_singleton.mp hp]
    exact UDTPPeer.fileLists_acceptedPeer _ _ _
  | received i entry peer sent u hphase hentry hpeer honline hreceive =>
    rcases receiveHost_cases hreceive with ⟨-, -, rfl⟩ | ⟨p, peer', b, q, -, -, hprocess, -⟩
    · exact h.after
    · exact h.process hprocess
  | disconnected i entry peer hphase hentry hpeer =>
    exact h.after_of_map_eq
      (UDTP.map_listPeers_modifyPeer UDTPPeer.fileLists s.udtp i _ fun _ => rfl) rfl rfl
  | removed e sockets u hphase hremove hevent => exact removeQueued_filed h hremove
  | _ => exact h.after

/-- A step of a PEER at most appends to its log. -/
theorem PeerLoop.step_filed {s t : PeerLoop} {input : PeerInput} (h : s.udtp.Filed)
    (hstep : s.step input = .ok t) : s.udtp.FiledAfter t.udtp := by
  obtain ⟨-, hsame | hstopped | ⟨-, -, -, sent, hreceive⟩⟩ := step_cases hstep
  · rw [hsame]
    exact h.after
  · rw [hstopped]
    exact h.after_of_map_eq rfl rfl rfl
  · rcases receivePeer_cases hreceive with ⟨-, hsame⟩ | ⟨p, b, q, -, hprocess, -⟩
    · rw [hsame]
      exact h.after
    · exact h.process hprocess

/-- A request at most appends to the log. -/
theorem Request.handle_filed {u v : UDTP} {request : Request} {result : Option TransferReturn}
    {sent : List Sent} (h : u.Filed) (hrequest : request.handle u = .ok (result, sent, v)) :
    u.FiledAfter v := by
  cases request with
  | sendFile env memory path => exact h.sameButCounter (UDTP.sendFile_udtp hrequest)
  | getFile env memory path => exact h.sameButCounter (UDTP.getFile_udtp hrequest)

/-! ## A HOST and its PEERs -/

namespace Network

variable {s t : Network}

/-- The endpoint of the HOST, or of the PEER with a number. -/
def endpoint (s : Network) : Option ℕ → UDTP
  | none => s.host.udtp
  | some number => (s.peers number).udtp

/-- Changing a PEER changes the endpoint of that PEER alone. -/
theorem endpoint_setPeer (number : ℕ) (peer : PeerLoop) (e : Option ℕ) :
    (s.setPeer number peer).endpoint e = if e = some number then peer.udtp else s.endpoint e := by
  cases e with
  | none => rfl
  | some other =>
    by_cases hsame : other = number
    · rw [if_pos (congrArg some hsame), hsame, endpoint, setPeer_peers_self]
    · rw [if_neg (by simpa using hsame), endpoint, setPeer_peers_ne hsame]
      rfl

/-- One endpoint goes on, and the others stay as they are. -/
theorem step_filed {input : NetworkInput} (h : ∀ e, (s.endpoint e).Filed)
    (hstep : s.step input = .ok t) (e : Option ℕ) : (s.endpoint e).FiledAfter (t.endpoint e) := by
  have hhost : ∀ host : HostLoop, s.host.udtp.FiledAfter host.udtp →
      (s.endpoint e).FiledAfter (Network.endpoint { s with host := host } e) := by
    intro host hafter
    cases e with
    | none => exact hafter
    | some number => exact (h (some number)).after
  have hpeer : ∀ number (peer : PeerLoop), (s.peers number).udtp.FiledAfter peer.udtp →
      (s.endpoint e).FiledAfter ((s.setPeer number peer).endpoint e) := by
    intro number peer hafter
    rw [endpoint_setPeer]
    split
    · rename_i hsame
      rw [hsame]
      exact hafter
    · exact (h e).after
  cases input with
  | host input =>
    obtain ⟨host, hnext, rfl⟩ := map_ok hstep
    exact hhost host (HostLoop.step_filed (h none) hnext)
  | peer number input =>
    obtain ⟨peer, hnext, rfl⟩ := map_ok hstep
    exact hpeer number peer (PeerLoop.step_filed (h (some number)) hnext)
  | hostRequest request =>
    obtain ⟨⟨result, sent, u⟩, hrequest, rfl⟩ := map_ok hstep
    exact hhost _ (Request.handle_filed (h none) hrequest)
  | peerRequest number request =>
    obtain ⟨⟨result, sent, u⟩, hrequest, rfl⟩ := map_ok hstep
    exact hpeer number _ (Request.handle_filed (h (some number)) hrequest)

/-- In every run of a network the log of each endpoint is appended to at most. -/
theorem run_filed (h : ∀ e, (s.endpoint e).Filed) {ins : List NetworkInput}
    (hrun : StepMachine.run step s ins = .ok t) (e : Option ℕ) :
    (s.endpoint e).FiledAfter (t.endpoint e) := by
  refine run_preserves step (fun t => ∀ e, (s.endpoint e).FiledAfter (t.endpoint e)) ?_
    (fun e => (h e).after) hrun e
  intro t input u ht hstep e
  exact (ht e).trans (step_filed (fun e => (ht e).filed) hstep e)

/-- **The list of files is a log.** In every run of a HOST and its PEERs, whatever they send and
are asked for: from one moment to a later one the files of an endpoint are only added to, and
those it had are as they were; its list names all of them, in the order they were taken; and
each is listed by one record at most, once, by both lists of that record. -/
theorem run_fileLog {host : UDTP} {peers : ℕ → UDTP} (hhost : host.Started .host)
    (hpeers : ∀ number, (peers number).Started .peer) {ins more : List NetworkInput}
    (hrun : run host peers ins = .ok s) (hmore : StepMachine.run step s more = .ok t)
    (e : Option ℕ) :
    (s.endpoint e).files <+: (t.endpoint e).files ∧
    (t.endpoint e).overallFiles = List.range (t.endpoint e).files.length ∧
    ((t.endpoint e).listPeers.flatMap UDTPPeer.selfOverallFiles).Nodup ∧
    ∀ p ∈ (t.endpoint e).listPeers, p.activeFiles = p.selfOverallFiles ∧
      ∀ file ∈ p.selfOverallFiles, file < (t.endpoint e).files.length := by
  have hstart : ∀ e, ((new host peers).endpoint e).Filed := by
    intro e
    cases e with
    | none => exact hhost.filed
    | some number => exact (hpeers number).filed
  have hs := run_filed hstart hrun
  obtain ⟨hfiled, hgrown⟩ := run_filed (fun e => (hs e).filed) hmore e
  exact ⟨hgrown, hfiled.overallFiles, hfiled.owned,
    fun p hp => ⟨hfiled.activeFiles p hp, hfiled.known p hp⟩⟩

/-- The HOST has accepted a connection, and takes a file on it. -/
theorem run_fileLog_oneFile :
    ∃ s t, run (.startedIn .host) (fun _ => .startedIn .peer)
        (List.replicate 5 (.host .connecting)) = .ok s ∧
      StepMachine.run step s (List.replicate 3 (.host (.reading .pullApproval))) = .ok t ∧
      (t.endpoint none).files.length = 1 ∧
      (s.endpoint none).files <+: (t.endpoint none).files ∧
      ((t.endpoint none).listPeers.flatMap UDTPPeer.selfOverallFiles).Nodup := by
  obtain ⟨s, hrun, t, hmore, hlength⟩ : ∃ s,
      run (.startedIn .host) (fun _ => .startedIn .peer)
        (List.replicate 5 (.host .connecting)) = .ok s ∧
      ∃ t, StepMachine.run step s (List.replicate 3 (.host (.reading .pullApproval))) = .ok t ∧
        (t.endpoint none).files.length = 1 := ⟨_, rfl, _, rfl, rfl⟩
  obtain ⟨hgrown, -, howned, -⟩ := run_fileLog (UDTP.startedIn_started .host)
    (fun _ => UDTP.startedIn_started .peer) hrun hmore none
  exact ⟨s, t, hrun, hmore, hlength, hgrown, howned⟩

end Network

end Udtp
