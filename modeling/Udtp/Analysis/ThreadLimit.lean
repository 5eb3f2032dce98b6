import Udtp.Model.HostLoop

/-!
# The limit of flow threads

`get_max_number_of_flow_sockets()` is compared with the thread count of a record where a
report of packet counts is answered with a request, and nowhere else.  The three branches
that call `add_thread()` do not look at it, so a record stays within the limit iff each of
their calls happens to find it below (`withinLimit_iff`).
-/

set_option autoImplicit false

namespace Udtp

open StepMachine

/-! ## One record -/

namespace UDTPPeer

/-- An `add_thread()` counts one thread more, or leaves the record as it was. -/
theorem addThread_cases (ready : Bool) (p : UDTPPeer) :
    (p.isOnline = true ∧ ready = true ∧ (p.addThread ready).2 = p.startThreads) ∨
    (¬ (p.isOnline = true ∧ ready = true) ∧ (p.addThread ready).2 = p) := by
  unfold addThread
  cases p.isOnline <;> cases ready <;> simp

/-- A `remove_thread()` never counts more threads than before. -/
theorem removeThread_threadCount_le {p p' : UDTPPeer} {removed : Bool}
    (h : p.removeThread = .ok (removed, p')) : p'.threadCount ≤ p.threadCount := by
  unfold removeThread at h
  split at h
  · cases h
    exact UInt16.le_refl _
  rename_i hpos
  split at h
  · cases h
  · cases h
    simp only [dropThread, UInt16.le_iff_toNat_le] at hpos ⊢
    rw [UInt16.toNat_sub_of_le]
    · omega
    · rw [UInt16.le_iff_toNat_le]
      simp only [UInt16.toNat_zero, UInt16.toNat_one] at hpos ⊢
      omega

end UDTPPeer

/-! ## Sequences of messages -/

namespace UDTPAcknowledge

/-- The endpoint after a message was handled under a setup. -/
def handle (setup : UDTPSetup) (u : UDTP) (m : Environment × UDTPAcknowledge) :
    Except Fault UDTP :=
  (m.2.respond { m.1 with setup := setup } u).map fun r => r.2.2

/-- No record counts more threads than the setup allows. -/
def WithinLimit (setup : UDTPSetup) (u : UDTP) : Prop :=
  ∀ p ∈ u.listPeers, p.threadCount ≤ setup.maxNumberOfFlowSockets

/-- A message that adds a thread finds its record below the limit.  Where the limit is the
greatest value of its type there is none. -/
def AddsBelow (setup : UDTPSetup) (u : UDTP) (m : Environment × UDTPAcknowledge) : Prop :=
  m.2.CallsAddThread → ∀ p, u.getPeer m.2.myPeer = some p → p.isOnline = true →
    m.1.flowSocketReady = true →
    p.threadCount < setup.maxNumberOfFlowSockets ∨ setup.maxNumberOfFlowSockets = 0xFFFF

variable {setup : UDTPSetup} {u v w : UDTP}

/-- Changing one record keeps the limit if that record keeps it. -/
theorem WithinLimit.modifyPeer (h : WithinLimit setup u) (posID : ℕ) {q : UDTPPeer}
    (hq : q.threadCount ≤ setup.maxNumberOfFlowSockets) :
    WithinLimit setup (u.modifyPeer posID fun _ => q) := by
  intro r hr
  obtain ⟨k, hk⟩ := List.mem_iff_getElem?.mp hr
  by_cases hpos : k = posID
  · subst hpos
    have hself := UDTP.getPeer_modifyPeer_self u k fun _ => q
    rw [show (u.modifyPeer k fun _ => q).getPeer k = some r from hk] at hself
    cases hget : u.getPeer k with
    | none => simp [hget] at hself
    | some p =>
      simp only [hget, Option.map_some, Option.some.injEq] at hself
      exact hself ▸ hq
  · have hold := UDTP.getPeer_modifyPeer_ne u (fun _ => q) hpos
    exact h r (List.mem_of_getElem? (hold.symm.trans hk))

/-- A message keeps the limit if an added thread stays below it. -/
theorem WithinLimit.kept (h : WithinLimit setup u) {m : Environment × UDTPAcknowledge}
    (hbelow : AddsBelow setup u m) (hstep : handle setup u m = .ok v) : WithinLimit setup v := by
  obtain ⟨⟨b, a', v'⟩, hr, rfl⟩ := map_ok hstep
  obtain ⟨rfl | ⟨hadd, p, hp, rfl⟩ | ⟨p, removed, p', hp, hrem, rfl⟩, -⟩ := respond_threads hr
  · exact h
  · apply h.modifyPeer
    have hold := h p (List.mem_of_getElem? hp)
    rcases p.addThread_cases m.1.flowSocketReady with ⟨honline, hready, hstart⟩ | ⟨-, hsame⟩
    · simp only [hstart, UDTPPeer.startThreads]
      rcases hbelow hadd p hp honline hready with hlt | hmax
      · rw [UInt16.le_iff_toNat_le]
        rw [UInt16.lt_iff_toNat_lt] at hlt
        have := setup.maxNumberOfFlowSockets.toNat_lt
        rw [UInt16.toNat_add, Nat.mod_eq_of_lt]
        · simp only [UInt16.toNat_one]
          omega
        · simp only [UInt16.toNat_one]
          omega
      · rw [hmax, UInt16.le_iff_toNat_le]
        have := (p.threadCount + 1).toNat_lt
        simp only [UInt16.reduceToNat]
        omega
    · simp only [hsame]
      exact hold
  · apply h.modifyPeer
    exact UInt16.le_trans (UDTPPeer.removeThread_threadCount_le hrem)
      (h p (List.mem_of_getElem? hp))

/-- A thread added to a record at the limit exceeds it. -/
theorem WithinLimit.exceeded (h : WithinLimit setup u) {m : Environment × UDTPAcknowledge}
    (hnot : ¬ AddsBelow setup u m) : ∃ v, handle setup u m = .ok v ∧ ¬ WithinLimit setup v := by
  simp only [AddsBelow, Classical.not_imp, not_forall, not_or, UInt16.not_lt] at hnot
  obtain ⟨hadd, p, hp, honline, hready, hge, hmax⟩ := hnot
  have hle := h p (List.mem_of_getElem? hp)
  have hstart : (p.addThread m.1.flowSocketReady).2 = p.startThreads := by
    rcases p.addThread_cases m.1.flowSocketReady with ⟨-, -, hstart⟩ | ⟨hnot, -⟩
    · exact hstart
    · exact absurd ⟨honline, hready⟩ hnot
  obtain ⟨b, a', hr⟩ := respond_of_callsAddThread hadd hp { m.1 with setup := setup }
  have hstep : handle setup u m = .ok (u.modifyPeer m.2.myPeer fun _ => p.startThreads) := by
    simp only [handle, hr, Except.map, hstart]
  refine ⟨_, hstep, ?_⟩
  intro hwithin
  have hget : (u.modifyPeer m.2.myPeer fun _ => p.startThreads).getPeer m.2.myPeer =
      some p.startThreads := by
    rw [UDTP.getPeer_modifyPeer_self, hp]
    rfl
  have hcount := hwithin _ (List.mem_of_getElem? hget)
  have hlt := setup.maxNumberOfFlowSockets.toNat_lt
  have hne : setup.maxNumberOfFlowSockets.toNat ≠ 65535 := by
    intro heq
    exact hmax (UInt16.toNat_inj.mp heq)
  simp only [UDTPPeer.startThreads, UInt16.le_iff_toNat_le, UInt16.toNat_add,
    UInt16.toNat_one] at hge hle hcount
  omega

/-- **When the limit is kept.** From records within the limit, every sequence of messages
keeps them within it iff each message that adds a thread finds its record below the limit. -/
theorem withinLimit_iff (hu : WithinLimit setup u) (ms : List (Environment × UDTPAcknowledge)) :
    (∀ v, Passes (handle setup) u ms v → WithinLimit setup v) ↔
      ∀ v m, Takes (handle setup) u ms v m → AddsBelow setup v m :=
  passes_iff_takes (handle setup) (fun _ _ _ hv hbelow hstep => hv.kept hbelow hstep)
    (fun _ _ hv hnot => hv.exceeded hnot) hu ms

/-- A request to add a thread, at an end where the flow socket can be bound. -/
def addRequest : Environment × UDTPAcknowledge :=
  ({ (default : Environment) with flowSocketReady := true },
    { (default : UDTPAcknowledge) with
      myPeer := 1, acknowledgeType := .addThread, acknowledgeResponseCode := .responseNone })

/-- A HOST with one peer. -/
def onePeer : UDTP := ((UDTP.startedIn .host).acceptPeer default ⟨4, 1⟩).2

/-- A peer without threads is within the limit. -/
theorem onePeer_withinLimit : WithinLimit .defaults onePeer := by
  unfold WithinLimit
  decide

/-- One request below the limit, with both sides of the equivalence. -/
theorem withinLimit_iff_onePeer :
    (∀ v, Passes (handle .defaults) onePeer [addRequest] v → WithinLimit .defaults v) ↔
      ∀ v m, Takes (handle .defaults) onePeer [addRequest] v m → AddsBelow .defaults v m :=
  withinLimit_iff onePeer_withinLimit [addRequest]

/-- Six requests that nobody asked for, under the default limit of five. -/
theorem not_withinLimit_sixRequests :
    WithinLimit .defaults onePeer ∧
      ∃ v, run (handle .defaults) onePeer (List.replicate 6 addRequest) = .ok v ∧
        ¬ WithinLimit .defaults v := by
  refine ⟨onePeer_withinLimit, _, rfl, ?_⟩
  unfold WithinLimit
  decide

end UDTPAcknowledge

end Udtp
