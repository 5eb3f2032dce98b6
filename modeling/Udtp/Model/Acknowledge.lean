import Udtp.Computation.StepMachine
import Udtp.Model.Endpoint

/-!
# Acknowledge messages

`UDTPAcknowledge` compares packet counts and negotiates flow threads.  Its setter of the
response code assigns the parameter instead of the member, so the code of a message is
the one it arrived with.
-/

set_option autoImplicit false

namespace Udtp

open StepMachine

namespace UDTPAcknowledge

/-- SRCLINE: UDTPAcknowledge.cpp:15-18 -/
def pack (a : UDTPAcknowledge) : Bool × UDTPAcknowledge := (true, a)

/-- SRCLINE: UDTPAcknowledge.cpp:20-23 -/
def unpack (a : UDTPAcknowledge) : Bool × UDTPAcknowledge := (true, a)

/-- `responseCode = _responseCode;`: the member is not assigned.
SRCLINE: UDTPAcknowledge.h:36 -/
def setResponseCode (_responseCode : ResponseCode) (a : UDTPAcknowledge) : UDTPAcknowledge := a

/-- SRCLINE: UDTPAcknowledge.h:43-45 -/
def setAcknowledgeType (newType : AcknowledgeType) (a : UDTPAcknowledge) : UDTPAcknowledge :=
  { a with acknowledgeType := newType }

/-- `peer()->add_thread()` -/
def addThread (env : Environment) (u : UDTP) (posID : ℕ) : Except Fault (Bool × UDTP) :=
  match u.getPeer posID with
  | none => .error .nullPeer
  | some p =>
    .ok ((p.addThread env.flowSocketReady).1,
      u.modifyPeer posID fun _ => (p.addThread env.flowSocketReady).2)

/-- `peer()->remove_thread()` -/
def removeThread (u : UDTP) (posID : ℕ) : Except Fault (Bool × UDTP) :=
  match u.getPeer posID with
  | none => .error .nullPeer
  | some p =>
    match p.removeThread with
    | .error fault => .error fault
    | .ok (removed, p') => .ok (removed, u.modifyPeer posID fun _ => p')

/-- The quotient of the reported and the local packet count.
SRCLINE: UDTPAcknowledge.cpp:34 -/
def percentageOfSuccessPacket (u : UDTP) (a : UDTPAcknowledge) : Except Fault UInt32 :=
  match u.getPeer a.peerID with
  | none => .error .nullPeer
  | some p =>
    if p.packetsCount = 0 then .error .divisionByZero else .ok (a.packetsCount / p.packetsCount)

/-- The branch of an `AcknowledgePacketCount` with `ResponseNone`.
SRCLINE: UDTPAcknowledge.cpp:33-59 -/
def respondPacketCount (env : Environment) (u : UDTP) (a : UDTPAcknowledge) :
    Except Fault (Bool × UDTPAcknowledge × UDTP) :=
  match percentageOfSuccessPacket u a, u.getPeer a.myPeer with
  | .error fault, _ => .error fault
  | .ok _, none => .error .nullPeer
  | .ok percentage, some p =>
    if percentage ≤ env.setup.criticalLossPacketPercentage then
      if p.threadCount ≠ 0 then
        match removeThread u a.myPeer with
        | .error fault => .error fault
        | .ok (_, u') =>
          .ok (true, (a.setResponseCode .responseNone).setAcknowledgeType .removeThread, u')
      else .ok (true, a, u)
    else if percentage ≥ env.setup.satisfactoryLossPacketPercentage ∧
        p.threadCount < env.setup.maxNumberOfFlowSockets then
      .ok (true, (a.setResponseCode .responseNone).setAcknowledgeType .addThread, u)
    else
      .ok (true, (a.setResponseCode .responseConfirm).setAcknowledgeType .packetCount, u)

/-- The branch of an `AcknowledgeAddThread` or `AcknowledgeRemoveThread` with
`ResponseNone`: the outcome chooses a response code, and `ResponseRejected` is set after
it in both cases.
SRCLINE: UDTPAcknowledge.cpp:72-77, UDTPAcknowledge.cpp:95-100 -/
def answer (type : AcknowledgeType) (a : UDTPAcknowledge) (outcome : Bool × UDTP) :
    Bool × UDTPAcknowledge × UDTP :=
  let a := if outcome.1 = true then a.setResponseCode .responseApproved
    else a.setResponseCode .responseRejected
  (true, (a.setResponseCode .responseRejected).setAcknowledgeType type, outcome.2)

/-- SRCLINE: UDTPAcknowledge.cpp:25-114 -/
def respond (env : Environment) (u : UDTP) (a : UDTPAcknowledge) :
    Except Fault (Bool × UDTPAcknowledge × UDTP) :=
  match a.acknowledgeType, a.acknowledgeResponseCode with
  | .packetCount, .responseNone => respondPacketCount env u a
  | .packetCount, .responseConfirm => .ok (false, a, u)
  | .addThread, .responseNone => (addThread env u a.myPeer).map (answer .addThread a)
  | .addThread, .responseApproved => (addThread env u a.myPeer).map fun o => (true, a, o.2)
  | .removeThread, .responseNone => (removeThread u a.myPeer).map (answer .removeThread a)
  -- an approved removal calls `add_thread()`
  | .removeThread, .responseApproved => (addThread env u a.myPeer).map fun o => (true, a, o.2)
  | _, _ => .ok (true, a, u)

/-! ## What `respond()` does -/

/-- What an acknowledge may do to the record of its peer: one call of `add_thread()` or
`remove_thread()`, or nothing. -/
inductive ThreadChange (env : Environment) (p : UDTPPeer) : UDTPPeer → Prop
  | none : ThreadChange env p p
  | add : ThreadChange env p (p.addThread env.flowSocketReady).2
  | remove (removed : Bool) (p' : UDTPPeer) (h : p.removeThread = .ok (removed, p')) :
      ThreadChange env p p'

/-- A call of `add_thread()` on the record of a peer changes that record alone. -/
theorem addThread_ok {env : Environment} {u u' : UDTP} {posID : ℕ} {b : Bool}
    (h : addThread env u posID = .ok (b, u')) :
    ∃ p, u.getPeer posID = some p ∧
      u' = u.modifyPeer posID fun _ => (p.addThread env.flowSocketReady).2 := by
  unfold addThread at h
  split at h
  · cases h
  · rename_i p hp
    cases h
    exact ⟨p, hp, rfl⟩

/-- So does a call of `remove_thread()` that returns. -/
theorem removeThread_ok {u u' : UDTP} {posID : ℕ} {b : Bool}
    (h : removeThread u posID = .ok (b, u')) :
    ∃ p removed p', u.getPeer posID = some p ∧ p.removeThread = .ok (removed, p') ∧
      u' = u.modifyPeer posID fun _ => p' := by
  unfold removeThread at h
  split at h
  · cases h
  · rename_i p hp
    split at h
    · cases h
    · rename_i removed p' hp'
      cases h
      exact ⟨p, _, p', hp, hp', rfl⟩

/-- The messages on which `respond()` calls `add_thread()`. -/
def CallsAddThread (a : UDTPAcknowledge) : Prop :=
  (a.acknowledgeType = .addThread ∧ (a.acknowledgeResponseCode = .responseNone ∨
    a.acknowledgeResponseCode = .responseApproved)) ∨
  (a.acknowledgeType = .removeThread ∧ a.acknowledgeResponseCode = .responseApproved)

/-- Everything `respond()` may do: it leaves the endpoint alone, or calls `add_thread()` or
`remove_thread()` on the record of its own peer.  It keeps of the message everything but the
acknowledge type. -/
theorem respond_threads {env : Environment} {u u' : UDTP} {a a' : UDTPAcknowledge} {b : Bool}
    (hr : a.respond env u = .ok (b, a', u')) :
    (u' = u ∨
      (a.CallsAddThread ∧ ∃ p, u.getPeer a.myPeer = some p ∧
        u' = u.modifyPeer a.myPeer fun _ => (p.addThread env.flowSocketReady).2) ∨
      ∃ p removed p', u.getPeer a.myPeer = some p ∧ p.removeThread = .ok (removed, p') ∧
        u' = u.modifyPeer a.myPeer fun _ => p') ∧
    ∃ type, a' = a.setAcknowledgeType type := by
  have keep : a = a.setAcknowledgeType a.acknowledgeType := rfl
  unfold respond at hr
  split at hr
  case h_1 => -- a report of packet counts
    unfold respondPacketCount at hr
    split at hr
    · cases hr
    · cases hr
    split at hr
    · split at hr
      · split at hr
        · cases hr
        · rename_i hrem
          cases hr
          exact ⟨Or.inr (Or.inr (removeThread_ok hrem)), _, rfl⟩
      · cases hr
        exact ⟨Or.inl rfl, _, keep⟩
    · split at hr
      · cases hr
        exact ⟨Or.inl rfl, _, rfl⟩
      · cases hr
        exact ⟨Or.inl rfl, _, rfl⟩
  case h_2 =>
    cases hr
    exact ⟨Or.inl rfl, _, keep⟩
  case h_3 ht hc =>
    obtain ⟨⟨b', v⟩, hadd, hans⟩ := map_ok hr
    cases hans
    exact ⟨Or.inr (Or.inl ⟨Or.inl ⟨ht, Or.inl hc⟩, addThread_ok hadd⟩), _,
      by simp [setResponseCode]; rfl⟩
  case h_4 ht hc =>
    obtain ⟨⟨b', v⟩, hadd, hans⟩ := map_ok hr
    cases hans
    exact ⟨Or.inr (Or.inl ⟨Or.inl ⟨ht, Or.inr hc⟩, addThread_ok hadd⟩), _, keep⟩
  case h_5 =>
    obtain ⟨⟨b', v⟩, hrem, hans⟩ := map_ok hr
    cases hans
    exact ⟨Or.inr (Or.inr (removeThread_ok hrem)), _, by simp [setResponseCode]; rfl⟩
  case h_6 ht hc =>
    obtain ⟨⟨b', v⟩, hadd, hans⟩ := map_ok hr
    cases hans
    exact ⟨Or.inr (Or.inl ⟨Or.inr ⟨ht, hc⟩, addThread_ok hadd⟩), _, keep⟩
  case h_7 =>
    cases hr
    exact ⟨Or.inl rfl, _, keep⟩

/-- An acknowledge changes at most the threads of the record of its own peer. -/
theorem respond_spec {env : Environment} {u u' : UDTP} {a a' : UDTPAcknowledge} {b : Bool}
    (hr : a.respond env u = .ok (b, a', u')) :
    (u' = u ∨ ∃ p p', u.getPeer a.myPeer = some p ∧ ThreadChange env p p' ∧
      u' = u.modifyPeer a.myPeer fun _ => p') ∧
    ∃ type, a' = a.setAcknowledgeType type := by
  obtain ⟨hsame | ⟨-, p, hp, hu⟩ | ⟨p, removed, p', hp, hrem, hu⟩, htype⟩ := respond_threads hr
  · exact ⟨Or.inl hsame, htype⟩
  · exact ⟨Or.inr ⟨p, _, hp, .add, hu⟩, htype⟩
  · exact ⟨Or.inr ⟨p, p', hp, .remove removed p' hrem, hu⟩, htype⟩

/-- Where there is a record, a message that asks for it does call `add_thread()`. -/
theorem respond_of_callsAddThread {a : UDTPAcknowledge} (ha : a.CallsAddThread) {u : UDTP}
    {p : UDTPPeer} (hp : u.getPeer a.myPeer = some p) (env : Environment) :
    ∃ b a', a.respond env u =
      .ok (b, a', u.modifyPeer a.myPeer fun _ => (p.addThread env.flowSocketReady).2) := by
  have hadd : addThread env u a.myPeer = .ok ((p.addThread env.flowSocketReady).1,
      u.modifyPeer a.myPeer fun _ => (p.addThread env.flowSocketReady).2) := by
    unfold addThread
    rw [hp]
  rcases ha with ⟨ht, hc | hc⟩ | ⟨ht, hc⟩
  · simp only [respond, ht, hc, hadd, Except.map, answer]
    exact ⟨_, _, rfl⟩
  · simp only [respond, ht, hc, hadd, Except.map]
    exact ⟨_, _, rfl⟩
  · simp only [respond, ht, hc, hadd, Except.map]
    exact ⟨_, _, rfl⟩

/-- A report of packet counts is answered unless a division or a removal traps. -/
theorem respondPacketCount_fst {env : Environment} {u : UDTP} {a : UDTPAcknowledge}
    {r : Bool × UDTPAcknowledge × UDTP} (hr : respondPacketCount env u a = .ok r) : r.1 = true := by
  unfold respondPacketCount at hr
  split at hr
  · cases hr
  · cases hr
  split at hr
  · split at hr
    · split at hr
      · cases hr
      · cases hr
        rfl
    · cases hr
      rfl
  · split at hr
    · cases hr
      rfl
    · cases hr
      rfl

/-- `respond()` returns `false` on one message only. -/
theorem respond_fst {env : Environment} {u : UDTP} {a : UDTPAcknowledge}
    {r : Bool × UDTPAcknowledge × UDTP} (hr : a.respond env u = .ok r) :
    r.1 = true ↔
      ¬ (a.acknowledgeType = .packetCount ∧ a.acknowledgeResponseCode = .responseConfirm) := by
  unfold respond at hr
  split at hr
  case h_1 ht hc => simp [respondPacketCount_fst hr, hc]
  case h_2 ht hc =>
    cases hr
    simp [ht, hc]
  case h_7 hcount hconfirm _ _ _ _ =>
    cases hr
    simp only [true_iff]
    rintro ⟨ht, hc⟩
    exact hconfirm ht hc
  all_goals
    rename_i ht hc
    obtain ⟨o, -, ho⟩ := map_ok hr
    cases ho
    simp [answer, hc]

/-- Adding or removing a thread keeps what does not read the threads. -/
theorem ThreadChange.frame {α : Type} {env : Environment} {p p' : UDTPPeer}
    (hc : ThreadChange env p p') (g : UDTPPeer → α)
    (h : UDTPPeer.IgnoresThreads g) : g p' = g p := by
  cases hc with
  | none => rfl
  | add =>
    unfold UDTPPeer.addThread
    split
    · rfl
    split
    · rfl
    · exact h p p.flowThreads p.processThreads _ p.semProcessChunkThread _
  | remove removed p' hrem =>
    unfold UDTPPeer.removeThread at hrem
    split at hrem
    · cases hrem
      rfl
    split at hrem
    · cases hrem
    · cases hrem
      exact h p _ _ p.startedThreads _ _

/-- Neither adding nor removing a thread fills the queue of flow threads. -/
theorem ThreadChange.flowThreads {env : Environment} {p p' : UDTPPeer}
    (hc : ThreadChange env p p') (h : p.flowThreads = []) : p'.flowThreads = [] := by
  cases hc with
  | none => exact h
  | add =>
    unfold UDTPPeer.addThread
    split
    · exact h
    split
    · exact h
    · exact h
  | remove removed p' hrem =>
    unfold UDTPPeer.removeThread at hrem
    split at hrem
    · cases hrem
      exact h
    split at hrem
    · cases hrem
    · cases hrem
      simp [UDTPPeer.dropThread, h]

/-- An acknowledge keeps what the records hold apart from their threads. -/
theorem map_listPeers_respond {α : Type} (g : UDTPPeer → α) {env : Environment} {u u' : UDTP}
    {a a' : UDTPAcknowledge} {b : Bool} (hr : a.respond env u = .ok (b, a', u'))
    (h : UDTPPeer.IgnoresThreads g) :
    u'.listPeers.map g = u.listPeers.map g := by
  obtain ⟨rfl | ⟨p, p', hp, hc, rfl⟩, -⟩ := respond_spec hr
  · rfl
  apply List.ext_getElem?
  intro k
  simp only [UDTP.modifyPeer, List.getElem?_map, List.getElem?_modify]
  by_cases hk : a.myPeer = k
  · subst hk
    have : u.listPeers[a.myPeer]? = some p := hp
    simp [this, hc.frame g h]
  · cases u.listPeers[k]? <;> simp [hk]

end UDTPAcknowledge

end Udtp
