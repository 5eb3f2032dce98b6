import Udtp.Analysis.ExchangeSteps
import Udtp.Analysis.HostFaults
import Udtp.Analysis.RecordHistory
import Udtp.Model.LoneConnection

/-!
# What the handling of a packet depends on

The HOST handles every packet on the whole endpoint.  Still, what comes of it depends on the
record the packet came for alone: two endpoints that hold the same record, whatever else they
hold and at whatever positions, change it alike and answer alike (`process_determined`).  The
lists of files in a record and the file IDs are left out; they are shared.

So a connection cannot tell a HOST from one that has no other peer (`receiveHost_lone`).
-/

set_option autoImplicit false

namespace Udtp

open StepMachine

/-! ## Records without their files -/

namespace UDTPPeer

/-- The core of a record knows whether it is online. -/
@[simp]
theorem core_isOnline (p : UDTPPeer) : p.core.isOnline = p.isOnline := rfl

/-- The core of a record has its socket. -/
@[simp]
theorem core_listenSocket (p : UDTPPeer) : p.core.listenSocket = p.listenSocket := rfl

/-- The core of a record has its unique ID. -/
@[simp]
theorem core_uniqueID (p : UDTPPeer) : p.core.uniqueID = p.uniqueID := rfl

/-- The core is its own core. -/
@[simp]
theorem core_core (p : UDTPPeer) : p.core.core = p.core := rfl

/-- Going offline changes the core as it changes the record. -/
theorem core_setOffline (p : UDTPPeer) : p.setOffline.core = p.core.setOffline := rfl

/-- Completing an event changes the core as it changes the record. -/
theorem core_setInitProcessComplete (event : InitProcessEvent) (p : UDTPPeer) :
    (p.setInitProcessComplete event).core = p.core.setInitProcessComplete event := rfl

/-- `add_thread()` changes the core as it changes the record. -/
theorem core_addThread (ready : Bool) (p : UDTPPeer) :
    (p.addThread ready).2.core = (p.core.addThread ready).2 := by
  unfold addThread
  rw [core_isOnline]
  split
  · rfl
  split
  · rfl
  · rfl

/-- `remove_thread()` changes the core as it changes the record. -/
theorem core_removeThread {p p' : UDTPPeer} {b : Bool} (h : p.removeThread = .ok (b, p')) :
    p.core.removeThread = .ok (b, p'.core) := by
  unfold removeThread at h ⊢
  have hcount : p.core.threadCount = p.threadCount := rfl
  have hflow : p.core.flowThreads = p.flowThreads := rfl
  have hprocess : p.core.processThreads = p.processThreads := rfl
  rw [hcount, hflow, hprocess]
  split at h
  · rename_i hzero
    cases h
    rw [if_pos hzero]
  · rename_i hzero
    rw [if_neg hzero]
    split at h
    · cases h
    · rename_i hne
      cases h
      rw [if_neg hne]
      rfl

end UDTPPeer

/-- Two positions of two endpoints hold the same record, up to its files. -/
def SameRecord (u v : UDTP) (i j : ℕ) : Prop :=
  (u.getPeer i).map UDTPPeer.core = (v.getPeer j).map UDTPPeer.core

namespace SameRecord

variable {u v : UDTP} {i j : ℕ}

/-- The records at two positions that show the same have the same core. -/
theorem records (h : SameRecord u v i j) {p q : UDTPPeer} (hp : u.getPeer i = some p)
    (hq : v.getPeer j = some q) : p.core = q.core := by
  rw [SameRecord, hp, hq] at h
  exact Option.some.inj h

/-- The same change of both records. -/
theorem modify (h : SameRecord u v i j) {f g : UDTPPeer → UDTPPeer}
    (hfg : ∀ p q, u.getPeer i = some p → v.getPeer j = some q → (f p).core = (g q).core) :
    SameRecord (u.modifyPeer i f) (v.modifyPeer j g) i j := by
  unfold SameRecord at h ⊢
  rw [UDTP.getPeer_modifyPeer_self, UDTP.getPeer_modifyPeer_self]
  cases hp : u.getPeer i with
  | none =>
    rw [hp, Option.map_none, eq_comm, Option.map_eq_none_iff] at h
    rw [h]
    rfl
  | some p =>
    cases hq : v.getPeer j with
    | none => simp [hp, hq] at h
    | some q => simp [hfg p q hp hq]

/-- A change of other records. -/
theorem modify_other (h : SameRecord u v i j) (hi : i ≠ 0) (hj : j ≠ 0)
    (f : UDTPPeer → UDTPPeer) : SameRecord (u.modifyPeer 0 f) (v.modifyPeer 0 f) i j := by
  unfold SameRecord
  rw [UDTP.getPeer_modifyPeer_ne _ _ hi, UDTP.getPeer_modifyPeer_ne _ _ hj]
  exact h

/-- Changes that no record without its files shows. -/
theorem of_map_eq (h : SameRecord u v i j) {u' v' : UDTP}
    (hu : u'.listPeers.map UDTPPeer.core = u.listPeers.map UDTPPeer.core)
    (hv : v'.listPeers.map UDTPPeer.core = v.listPeers.map UDTPPeer.core) :
    SameRecord u' v' i j := by
  have hget : ∀ w : UDTP, (w.getPeer i).map UDTPPeer.core =
      (w.listPeers.map UDTPPeer.core)[i]? := by
    intro w
    rw [List.getElem?_map]
    rfl
  have hget' : ∀ w : UDTP, (w.getPeer j).map UDTPPeer.core =
      (w.listPeers.map UDTPPeer.core)[j]? := by
    intro w
    rw [List.getElem?_map]
    rfl
  unfold SameRecord at h ⊢
  rw [hget, hget', hu, hv, ← hget, ← hget', h]

end SameRecord

/-! ## One packet at two positions -/

section Determined

variable {env : Environment} {u u' v v' : UDTP} {i j : ℕ} {socket : Socket} {uniqueID : UInt32}

/-- What `respond()` of a handshake does to a record is determined by the record. -/
theorem UDTPHandshake.respond_determined {h h₁ h₂ : UDTPHandshake} {b b' : Bool} (hi : i ≠ 0)
    (hj : j ≠ 0) (hsame : SameRecord u v i j)
    (hr : (h.forPeer socket i uniqueID).respond env u = .ok (b, h₁, u'))
    (hr' : (h.forPeer socket j uniqueID).respond env v = .ok (b', h₂, v')) :
    b = b' ∧ (∃ g : UDTPHandshake, h₁ = g.forPeer socket i uniqueID ∧
      h₂ = g.forPeer socket j uniqueID) ∧ SameRecord u' v' i j := by
  cases hcode : h.responseCode with
  | responseStart =>
    simp only [respond, forPeer_responseCode, hcode] at hr hr'
    cases hr
    cases hr'
    exact ⟨rfl, ⟨h.setResponseCode .responseNone, rfl, rfl⟩, hsame⟩
  | responseNone =>
    simp only [respond, forPeer_responseCode, hcode, forPeer_compareSettings] at hr hr'
    have hid : ∀ k, (h.forPeer socket k uniqueID).peerID = k := fun _ => rfl
    rw [hid] at hr hr'
    split at hr
    · cases hr
    split at hr'
    · cases hr'
    cases haccepts : h.compareSettings env.setup with
    | false =>
      simp only [haccepts, Bool.not_false, if_true] at hr hr'
      cases hr
      cases hr'
      refine ⟨rfl, ⟨h.setResponseCode .responseCriticalError, rfl, rfl⟩, hsame.modify ?_⟩
      intro p q hp hq
      rw [UDTPPeer.core_setOffline, UDTPPeer.core_setOffline, hsame.records hp hq]
    | true =>
      simp only [haccepts, Bool.not_true, Bool.false_eq_true, if_false] at hr hr'
      cases hr
      cases hr'
      refine ⟨rfl, ⟨h.setResponseCode .responseApproved, rfl, rfl⟩, hsame.modify ?_⟩
      intro p q hp hq
      rw [UDTPPeer.core_setInitProcessComplete, UDTPPeer.core_setInitProcessComplete,
        hsame.records hp hq]
  | responseApproved =>
    simp only [respond, forPeer_responseCode, hcode] at hr hr'
    split at hr
    · cases hr
    split at hr'
    · cases hr'
    cases hr
    cases hr'
    exact ⟨rfl, ⟨h, rfl, rfl⟩, hsame.modify_other hi hj _⟩
  | _ =>
    simp only [respond, forPeer_responseCode, hcode] at hr hr'
    cases hr
    cases hr'
    exact ⟨rfl, ⟨h, rfl, rfl⟩, hsame⟩

/-- A handshake may be stamped before it is packed or after. -/
theorem UDTPHandshake.pack_forPeer (env : Environment) (socket : Socket) (i : ℕ)
    (uniqueID : UInt32) (h : UDTPHandshake) :
    (h.forPeer socket i uniqueID).pack env =
      ((h.pack env).1, (h.pack env).2.forPeer socket i uniqueID) := by
  unfold pack
  rw [forPeer_responseCode]
  split <;> rfl

/-- Where the HOST says a header message came from. -/
def UDTPHeader.forPeer (socket : Socket) (i : ℕ) (uniqueID : UInt32) (h : UDTPHeader) :
    UDTPHeader :=
  { h with socketID := socket, peerID := i, myPeer := i, uniqueID := uniqueID }

/-- Taking a number for a file shows in the file ID alone. -/
theorem UDTPHeader.unplaced_assignFileID (u : UDTP) (code : ResponseCode) (h : UDTPHeader) :
    (Packet.header ((h.assignFileID u).1.setResponseCode code)).unplaced =
      (Packet.header (h.setResponseCode code)).unplaced := by
  unfold assignFileID
  split <;> rfl

/-- The header a file is packed to does not depend on the ID that was assigned. -/
theorem UDTPFile.packToHeader_assignFileID (u : UDTP) (f : UDTPFile) (h : UDTPHeader) :
    f.packToHeader (h.assignFileID u).1 = f.packToHeader h := by
  unfold UDTPHeader.assignFileID
  split <;> rfl

/-- A header message is answered alike at both positions, but for the file ID. -/
theorem UDTPHeader.respond_determined {h h₁ h₂ : UDTPHeader} {b b' : Bool}
    (hr : (h.forPeer socket i uniqueID).respond env u = .ok (b, h₁, u'))
    (hr' : (h.forPeer socket j uniqueID).respond env v = .ok (b', h₂, v')) :
    b = b' ∧ (Packet.header h₁).unplaced = (Packet.header h₂).unplaced := by
  have htype : ∀ k, (h.forPeer socket k uniqueID).transferType = h.transferType := fun _ => rfl
  have hcode : ∀ k, (h.forPeer socket k uniqueID).responseCode = h.responseCode := fun _ => rfl
  have hfile : ∀ k, (h.forPeer socket k uniqueID).newFile env = h.newFile env := fun _ => rfl
  have hconfirmed : ∀ k, (h.forPeer socket k uniqueID).confirmedPullFile env =
      h.confirmedPullFile env := fun _ => rfl
  replace hr := negotiate_of_respond hr
  replace hr' := negotiate_of_respond hr'
  unfold negotiate at hr
  split at hr
  case h_1 ht hc =>
    rw [htype] at ht
    rw [hcode] at hc
    simp only [negotiate, htype, hcode, ht, hc, hfile] at hr hr'
    cases hexist : (h.newFile env).checkFileExist env.fileSystem with
    | false =>
      simp only [hexist, Bool.not_false, if_true] at hr hr'
      cases hr
      cases hr'
      exact ⟨rfl, rfl⟩
    | true =>
      simp only [hexist, Bool.not_true, Bool.false_eq_true, if_false] at hr hr'
      split at hr
      · cases hr
      · rename_i f hf
        simp only [hf] at hr'
        cases hr
        cases hr'
        rw [UDTPFile.packToHeader_assignFileID, UDTPFile.packToHeader_assignFileID]
        exact ⟨rfl, rfl⟩
  case h_4 ht hc =>
    rw [htype] at ht
    rw [hcode] at hc
    simp only [negotiate, htype, hcode, ht, hc, hconfirmed] at hr hr'
    split at hr
    · cases hr
    · rename_i f hf
      simp only [hf] at hr'
      cases hr
      cases hr'
      exact ⟨rfl, rfl⟩
  case h_5 ht hc =>
    rw [htype] at ht
    rw [hcode] at hc
    simp only [negotiate, htype, hcode, ht, hc, hfile] at hr hr'
    cases hexist : (h.newFile env).checkFileExist env.fileSystem with
    | false =>
      simp only [hexist, Bool.false_eq_true, if_false] at hr hr'
      cases hr
      cases hr'
      rw [unplaced_assignFileID, unplaced_assignFileID]
      exact ⟨rfl, rfl⟩
    | true =>
      simp only [hexist, if_true] at hr hr'
      cases hr
      cases hr'
      exact ⟨rfl, rfl⟩
  case h_8 h₁ h₂ h₃ h₄ h₅ h₆ h₇ =>
    cases hr
    unfold negotiate at hr'
    split at hr'
    case h_8 =>
      cases hr'
      exact ⟨rfl, rfl⟩
    all_goals
      rename_i ht hc
      first
        | exact absurd hc (h₁ ht)
        | exact absurd hc (h₂ ht)
        | exact absurd hc (h₃ ht)
        | exact absurd hc (h₄ ht)
        | exact absurd hc (h₅ ht)
        | exact absurd hc (h₆ ht)
        | exact absurd hc (h₇ ht)
  all_goals
    rename_i ht hc
    rw [htype] at ht
    rw [hcode] at hc
    simp only [negotiate, htype, hcode, ht, hc] at hr hr'
    cases hr
    cases hr'
    exact ⟨rfl, rfl⟩

/-- Where the HOST says an acknowledge came from. -/
def UDTPAcknowledge.forPeer (socket : Socket) (i : ℕ) (uniqueID : UInt32) (a : UDTPAcknowledge) :
    UDTPAcknowledge :=
  { a with socketID := socket, peerID := i, myPeer := i, uniqueID := uniqueID }

/-- What `add_thread()` does to a record is determined by the record. -/
theorem UDTPAcknowledge.addThread_determined {o o' : Bool × UDTP} (hsame : SameRecord u v i j)
    (h : addThread env u i = .ok o) (h' : addThread env v j = .ok o') :
    SameRecord o.2 o'.2 i j := by
  obtain ⟨b, w⟩ := o
  obtain ⟨b', w'⟩ := o'
  obtain ⟨p, hp, rfl⟩ := addThread_ok h
  obtain ⟨q, hq, rfl⟩ := addThread_ok h'
  refine hsame.modify ?_
  intro _ _ _ _
  rw [UDTPPeer.core_addThread, UDTPPeer.core_addThread, hsame.records hp hq]

/-- What `remove_thread()` does to a record is determined by the record. -/
theorem UDTPAcknowledge.removeThread_determined {o o' : Bool × UDTP} (hsame : SameRecord u v i j)
    (h : removeThread u i = .ok o) (h' : removeThread v j = .ok o') : SameRecord o.2 o'.2 i j := by
  obtain ⟨b, w⟩ := o
  obtain ⟨b', w'⟩ := o'
  obtain ⟨p, removed, p', hp, hremove, rfl⟩ := removeThread_ok h
  obtain ⟨q, removed', q', hq, hremove', rfl⟩ := removeThread_ok h'
  refine hsame.modify ?_
  intro _ _ _ _
  have hcore := UDTPPeer.core_removeThread hremove
  rw [hsame.records hp hq, UDTPPeer.core_removeThread hremove'] at hcore
  exact (Prod.mk.inj (Except.ok.inj hcore)).2.symm

/-- A report of packet counts is compared with the count of the same record. -/
theorem UDTPAcknowledge.respondPacketCount_determined {a a₁ a₂ : UDTPAcknowledge} {b b' : Bool}
    (hsame : SameRecord u v i j)
    (hr : respondPacketCount env u (a.forPeer socket i uniqueID) = .ok (b, a₁, u'))
    (hr' : respondPacketCount env v (a.forPeer socket j uniqueID) = .ok (b', a₂, v')) :
    (∃ type, a₁ = (a.setAcknowledgeType type).forPeer socket i uniqueID ∧
      a₂ = (a.setAcknowledgeType type).forPeer socket j uniqueID) ∧ SameRecord u' v' i j := by
  have hplaces : ∀ k, (a.forPeer socket k uniqueID).peerID = k ∧
      (a.forPeer socket k uniqueID).myPeer = k ∧
      (a.forPeer socket k uniqueID).packetsCount = a.packetsCount := fun _ => ⟨rfl, rfl, rfl⟩
  simp only [respondPacketCount, percentageOfSuccessPacket, hplaces] at hr hr'
  cases hp : u.getPeer i with
  | none => simp [hp] at hr
  | some p =>
    cases hq : v.getPeer j with
    | none => simp [hq] at hr'
    | some q =>
      have hcore := hsame.records hp hq
      have hpackets : q.packetsCount = p.packetsCount := by
        have h : q.core.packetsCount = p.core.packetsCount := by rw [hcore]
        exact h
      have hthreads : q.threadCount = p.threadCount := by
        have h : q.core.threadCount = p.core.threadCount := by rw [hcore]
        exact h
      simp only [hp] at hr
      simp only [hq, hpackets] at hr'
      by_cases hzero : p.packetsCount = 0
      · simp [hzero] at hr
      simp only [hzero, if_false] at hr hr'
      split at hr
      · rename_i hcritical
        rw [if_pos hcritical] at hr'
        by_cases hcount : p.threadCount = 0
        · simp only [hcount, hthreads, ne_eq, not_true_eq_false, if_false] at hr hr'
          cases hr
          cases hr'
          exact ⟨⟨a.acknowledgeType, rfl, rfl⟩, hsame⟩
        · simp only [hcount, hthreads, ne_eq, not_false_eq_true, if_true] at hr hr'
          split at hr
          · cases hr
          rename_i hremove
          split at hr'
          · cases hr'
          rename_i hremove'
          cases hr
          cases hr'
          exact ⟨⟨.removeThread, rfl, rfl⟩, removeThread_determined hsame hremove hremove'⟩
      · rename_i hcritical
        rw [if_neg hcritical, hthreads] at hr'
        split at hr
        · rename_i hsatisfactory
          rw [if_pos hsatisfactory] at hr'
          cases hr
          cases hr'
          exact ⟨⟨.addThread, rfl, rfl⟩, hsame⟩
        · rename_i hsatisfactory
          rw [if_neg hsatisfactory] at hr'
          cases hr
          cases hr'
          exact ⟨⟨.packetCount, rfl, rfl⟩, hsame⟩

/-- An acknowledge changes the threads of both records alike. -/
theorem UDTPAcknowledge.respond_determined {a a₁ a₂ : UDTPAcknowledge} {b b' : Bool}
    (hsame : SameRecord u v i j)
    (hr : (a.forPeer socket i uniqueID).respond env u = .ok (b, a₁, u'))
    (hr' : (a.forPeer socket j uniqueID).respond env v = .ok (b', a₂, v')) :
    (∃ type, a₁ = (a.setAcknowledgeType type).forPeer socket i uniqueID ∧
      a₂ = (a.setAcknowledgeType type).forPeer socket j uniqueID) ∧ SameRecord u' v' i j := by
  have htype : ∀ k, (a.forPeer socket k uniqueID).acknowledgeType = a.acknowledgeType :=
    fun _ => rfl
  have hcode : ∀ k, (a.forPeer socket k uniqueID).acknowledgeResponseCode =
      a.acknowledgeResponseCode := fun _ => rfl
  have hplace : ∀ k, (a.forPeer socket k uniqueID).myPeer = k := fun _ => rfl
  unfold respond at hr
  split at hr
  case h_1 ht hc =>
    rw [htype] at ht
    rw [hcode] at hc
    simp only [respond, htype, hcode, ht, hc] at hr'
    exact respondPacketCount_determined hsame hr hr'
  case h_2 ht hc =>
    rw [htype] at ht
    rw [hcode] at hc
    simp only [respond, htype, hcode, ht, hc] at hr'
    cases hr
    cases hr'
    exact ⟨⟨a.acknowledgeType, rfl, rfl⟩, hsame⟩
  case h_5 ht hc =>
    rw [htype] at ht
    rw [hcode] at hc
    simp only [respond, htype, hcode, ht, hc, hplace] at hr hr'
    obtain ⟨o, ho, heq⟩ := map_ok hr
    obtain ⟨o', ho', heq'⟩ := map_ok hr'
    cases heq
    cases heq'
    refine ⟨⟨.removeThread, ?_, ?_⟩, removeThread_determined hsame ho ho'⟩
    · simp [setResponseCode, setAcknowledgeType, forPeer]
    · simp [setResponseCode, setAcknowledgeType, forPeer]
  case h_7 h₁ h₂ h₃ h₄ h₅ h₆ =>
    cases hr
    unfold respond at hr'
    split at hr'
    case h_7 =>
      cases hr'
      exact ⟨⟨a.acknowledgeType, rfl, rfl⟩, hsame⟩
    all_goals
      rename_i ht hc
      first
        | exact absurd hc (h₁ ht)
        | exact absurd hc (h₂ ht)
        | exact absurd hc (h₃ ht)
        | exact absurd hc (h₄ ht)
        | exact absurd hc (h₅ ht)
        | exact absurd hc (h₆ ht)
  case h_3 ht hc =>
    rw [htype] at ht
    rw [hcode] at hc
    simp only [respond, htype, hcode, ht, hc, hplace] at hr hr'
    obtain ⟨o, ho, heq⟩ := map_ok hr
    obtain ⟨o', ho', heq'⟩ := map_ok hr'
    cases heq
    cases heq'
    refine ⟨⟨.addThread, ?_, ?_⟩, addThread_determined hsame ho ho'⟩
    · simp [setResponseCode, setAcknowledgeType, forPeer]
    · simp [setResponseCode, setAcknowledgeType, forPeer]
  all_goals
    rename_i ht hc
    rw [htype] at ht
    rw [hcode] at hc
    simp only [respond, htype, hcode, ht, hc, hplace] at hr hr'
    obtain ⟨o, ho, heq⟩ := map_ok hr
    obtain ⟨o', ho', heq'⟩ := map_ok hr'
    cases heq
    cases heq'
    exact ⟨⟨a.acknowledgeType, rfl, rfl⟩, addThread_determined hsame ho ho'⟩

/-- Whether a handshake is answered does not depend on its stamps. -/
theorem UDTPHandshake.unpack_forPeer_fst (h : UDTPHandshake) :
    (h.forPeer socket i uniqueID).unpack.1 = h.unpack.1 := by
  have hcode : (h.forPeer socket i uniqueID).decode.responseCode = h.decode.responseCode := rfl
  unfold unpack
  rw [hcode]
  split <;> rfl

/-- What the methods of a handshake make of the resend test. -/
theorem process_handshake {h : UDTPHandshake} {q : Packet} {b : Bool}
    (hprocess : process env u (.handshake h) = .ok (b, q, u')) :
    ∃ b' h', h.unpack.2.respond env u = .ok (b', h', u') ∧
      b = (h.unpack.1 || b' || (h'.pack env).1) ∧ q = .handshake (h'.pack env).2 := by
  unfold process at hprocess
  split at hprocess
  · cases hprocess
  rename_i responded r v hresponded
  cases hprocess
  obtain ⟨⟨b', h', w⟩, hr, heq⟩ := map_ok hresponded
  cases heq
  exact ⟨b', h', hr, by rw [resends_resendCheck]; rfl, rfl⟩

/-- **The record decides.** A packet that is handled at two positions with the same record does
the same to both, and goes back alike. -/
theorem process_determined {p q q' : Packet} {b b' : Bool} (hi : i ≠ 0) (hj : j ≠ 0)
    (hsame : SameRecord u v i j)
    (h : process env u (setHostFields socket i uniqueID p) = .ok (b, q, u'))
    (h' : process env v (setHostFields socket j uniqueID p) = .ok (b', q', v')) :
    b = b' ∧ q.unplaced = q'.unplaced ∧ SameRecord u' v' i j := by
  cases p with
  | handshake hs =>
    have hfields : ∀ k, setHostFields socket k uniqueID (.handshake hs) =
        .handshake (hs.forPeer socket k uniqueID) := fun _ => rfl
    rw [hfields] at h h'
    obtain ⟨b₁, h₁, hr, rfl, rfl⟩ := process_handshake h
    obtain ⟨b₂, h₂, hr', rfl, rfl⟩ := process_handshake h'
    rw [UDTPHandshake.unpack_forPeer] at hr hr'
    obtain ⟨rfl, ⟨g, rfl, rfl⟩, hrecord⟩ := UDTPHandshake.respond_determined hi hj hsame hr hr'
    refine ⟨?_, ?_, hrecord⟩
    · rw [UDTPHandshake.unpack_forPeer_fst, UDTPHandshake.unpack_forPeer_fst,
        UDTPHandshake.pack_forPeer, UDTPHandshake.pack_forPeer]
    · rw [UDTPHandshake.pack_forPeer, UDTPHandshake.pack_forPeer]
      rfl
  | header hd =>
    have hfields : ∀ k, setHostFields socket k uniqueID (.header hd) =
        .header (hd.forPeer socket k uniqueID) := fun _ => rfl
    rw [hfields] at h h'
    obtain ⟨-, h₁, hr, rfl⟩ := process_header.mp h
    obtain ⟨-, h₂, hr', rfl⟩ := process_header.mp h'
    obtain ⟨hb, hpacket⟩ := UDTPHeader.respond_determined hr hr'
    refine ⟨hb, hpacket, hsame.of_map_eq ?_ ?_⟩
    · exact map_listPeers_header _ hr fun _ _ _ => rfl
    · exact map_listPeers_header _ hr' fun _ _ _ => rfl
  | path pa =>
    cases h
    cases h'
    exact ⟨rfl, rfl, hsame⟩
  | acknowledge a =>
    have hfields : ∀ k, setHostFields socket k uniqueID (.acknowledge a) =
        .acknowledge (a.forPeer socket k uniqueID) := fun _ => rfl
    rw [hfields] at h h'
    obtain ⟨rfl, b₁, a₁, rfl, hr⟩ := process_acknowledge h
    obtain ⟨rfl, b₂, a₂, rfl, hr'⟩ := process_acknowledge h'
    obtain ⟨⟨type, rfl, rfl⟩, hrecord⟩ := UDTPAcknowledge.respond_determined hsame hr hr'
    exact ⟨rfl, rfl, hrecord⟩

/-- What arrives is handled alike at both positions. -/
theorem receiveHost_determined {contents : Contents} {packetDeduction : UDTPPacketHeader}
    {sent sent' : List Sent} (hi : i ≠ 0) (hj : j ≠ 0) (hsame : SameRecord u v i j)
    (h : receiveHost env contents packetDeduction socket i u = .ok (sent, u'))
    (h' : receiveHost env contents packetDeduction socket j v = .ok (sent', v')) :
    sent.map (fun e => e.2.unplaced) = sent'.map (fun e => e.2.unplaced) ∧
      SameRecord u' v' i j := by
  rcases receiveHost_cases h with ⟨hnone, rfl, rfl⟩ | ⟨p, peer, b, q, hp, hpeer, hprocess, rfl⟩
  · rcases receiveHost_cases h' with ⟨-, rfl, rfl⟩ | ⟨p, -, -, -, hp, -⟩
    · exact ⟨rfl, hsame⟩
    · rw [hnone] at hp
      cases hp
  · rcases receiveHost_cases h' with ⟨hnone, -⟩ |
      ⟨p', peer', b', q', hp', hpeer', hprocess', rfl⟩
    · rw [hp] at hnone
      cases hnone
    · obtain rfl : p = p' := Option.some.inj (hp.symm.trans hp')
      have hid : peer'.uniqueID = peer.uniqueID := by
        have hcore := hsame.records hpeer hpeer'
        rw [← UDTPPeer.core_uniqueID, ← hcore, UDTPPeer.core_uniqueID]
      rw [hid] at hprocess'
      obtain ⟨rfl, hpacket, hrecord⟩ := process_determined hi hj hsame hprocess hprocess'
      refine ⟨?_, hrecord⟩
      cases b with
      | false => rfl
      | true => simp [hpacket]

end Determined

/-! ## A HOST with one peer -/

/-- No fault comes from the files of a record. -/
theorem ArrivalFault.of_core {env : Environment} {contents : Contents} {peer : UDTPPeer}
    {p : Packet} {fault : Fault}
    (h : ArrivalFault env contents peer.core (some peer.core) p fault) :
    ArrivalFault env contents peer (some peer) p fault := by
  cases h with
  | buffer hraw => exact .buffer hraw
  | handling _ hraw hfault =>
    refine .handling _ hraw ?_
    cases hfault with
    | settings _ _ hnamed => cases hnamed
    | path _ hfollows hunmapped => exact .path _ hfollows hunmapped
    | division _ hpath hdivides hzero => exact .division _ hpath hdivides hzero
    | start _ hpath hstarts hunmapped => exact .start _ hpath hstarts hunmapped
    | report _ _ hnamed => cases hnamed
    | count _ hreport p hnamed hzero =>
      cases hnamed
      exact .count _ hreport peer rfl hzero
    | thread _ hcalls hunqueued =>
      refine .thread _ ?_ hunqueued
      rcases hcalls with hasks | ⟨hreport, p, hnamed, hcounted, hcritical⟩
      · exact Or.inl hasks
      · cases hnamed
        exact Or.inr ⟨hreport, peer, rfl, hcounted, hcritical⟩

/-- **One peer is enough.** What the HOST makes of the packet of a peer, a HOST that has no other
peer makes of it too. -/
theorem receiveHost_lone {env : Environment} {contents : Contents}
    {packetDeduction : UDTPPacketHeader} {socket : Socket} {i : ℕ} {u u' : UDTP}
    {sent : List Sent} {peer : UDTPPeer} (hi : i ≠ 0) (hpeer : u.getPeer i = some peer)
    (h : receiveHost env contents packetDeduction socket i u = .ok (sent, u')) :
    ∃ sent' v', receiveHost env contents packetDeduction socket 1 (.lone peer.core) =
        .ok (sent', v') ∧
      sent.map (fun e => e.2.unplaced) = sent'.map (fun e => e.2.unplaced) ∧
      SameRecord u' v' i 1 := by
  have hlone : (UDTP.lone peer.core).getPeer 1 = some peer.core := rfl
  have hsame : SameRecord u (.lone peer.core) i 1 := by
    rw [SameRecord, hpeer, hlone]
    rfl
  cases hreceive : receiveHost env contents packetDeduction socket 1 (.lone peer.core) with
  | error fault =>
    obtain ⟨p, hp, hfault⟩ := (HostLoop.receiveHost_error hlone).mp hreceive
    have herror : receiveHost env contents packetDeduction socket i u = .error fault :=
      (HostLoop.receiveHost_error hpeer).mpr ⟨p, hp, hfault.of_core⟩
    rw [h] at herror
    cases herror
  | ok o =>
    obtain ⟨sent', v'⟩ := o
    exact ⟨sent', v', rfl, receiveHost_determined hi Nat.one_ne_zero hsame h hreceive⟩

end Udtp
