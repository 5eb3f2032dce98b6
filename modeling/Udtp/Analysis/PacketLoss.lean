import Udtp.Model.Acknowledge

/-!
# The packet-loss decision

A report of packet counts is decided by the quotient of the two counts, which is no percentage,
and the reply that is to say that nothing changes keeps the response code of the report.  So the
decision is the one by the percentage only where the loss is critical and there are threads to
remove, or where the reported count is as many times the local one as the percentage that
satisfies (`decidesByPercentage_iff`).
-/

set_option autoImplicit false

namespace Udtp

namespace UDTPAcknowledge

/-- A report to an endpoint: `counted` is the record with the local packet count, `own` the
record of the peer that reports. -/
structure Report (u : UDTP) (a : UDTPAcknowledge) (counted own : UDTPPeer) : Prop where
  type : a.acknowledgeType = .packetCount
  code : a.acknowledgeResponseCode = .responseNone
  counted : u.getPeer a.peerID = some counted
  own : u.getPeer a.myPeer = some own

/-- At most the critical percentage of the packets arrived. -/
def Critical (setup : UDTPSetup) (reported counted : UInt32) : Prop :=
  100 * reported.toNat ≤ setup.criticalLossPacketPercentage.toNat * counted.toNat

/-- At least the satisfactory percentage of the packets arrived. -/
def Satisfactory (setup : UDTPSetup) (reported counted : UInt32) : Prop :=
  setup.satisfactoryLossPacketPercentage.toNat * counted.toNat ≤ 100 * reported.toNat

/-- The handling of a report succeeds; a thread is removed, with the wish that the other side
does the same, iff the loss is critical and there is one; the other side is asked to add a
thread iff the loss is satisfactory and there is room; and otherwise nothing changes and the
reply is a confirmation. -/
def DecidesByPercentage (env : Environment) (u : UDTP) (a : UDTPAcknowledge)
    (counted own : UDTPPeer) : Prop :=
  let remove := Critical env.setup a.packetsCount counted.packetsCount ∧ own.threadCount ≠ 0
  let add := ¬ Critical env.setup a.packetsCount counted.packetsCount ∧
    Satisfactory env.setup a.packetsCount counted.packetsCount ∧
    own.threadCount < env.setup.maxNumberOfFlowSockets
  ∃ b a' u', a.respond env u = .ok (b, a', u') ∧
    (a'.acknowledgeType = .removeThread ∧
      u' = u.modifyPeer a.myPeer (fun _ => own.dropThread) ↔ remove) ∧
    (a'.acknowledgeType = .addThread ↔ add) ∧
    (¬ remove → ¬ add → u' = u ∧ a'.acknowledgeResponseCode = .responseConfirm)

variable {env : Environment} {u : UDTP} {a : UDTPAcknowledge} {counted own : UDTPPeer}

/-- What a report of packet counts does, by the quotient and the thread count. -/
theorem Report.respond_eq (h : Report u a counted own) :
    a.respond env u =
      if counted.packetsCount = 0 then .error .divisionByZero
      else if a.packetsCount / counted.packetsCount ≤ env.setup.criticalLossPacketPercentage then
        if own.threadCount ≠ 0 then
          if own.flowThreads = [] ∨ own.processThreads = [] then .error .frontOfEmptyQueue
          else .ok (true, a.setAcknowledgeType .removeThread,
            u.modifyPeer a.myPeer fun _ => own.dropThread)
        else .ok (true, a, u)
      else if a.packetsCount / counted.packetsCount ≥
            env.setup.satisfactoryLossPacketPercentage ∧
          own.threadCount < env.setup.maxNumberOfFlowSockets then
        .ok (true, a.setAcknowledgeType .addThread, u)
      else .ok (true, a.setAcknowledgeType .packetCount, u) := by
  simp only [respond, h.type, h.code, respondPacketCount, percentageOfSuccessPacket, h.counted,
    h.own, setResponseCode]
  by_cases hzero : counted.packetsCount = 0
  · simp only [hzero, if_true]
  simp only [hzero, if_false]
  by_cases hthreads : own.threadCount = 0
  · simp only [hthreads, ne_eq, not_true_eq_false, if_false]
  · have hle : ¬ own.threadCount ≤ 0 := by simpa using hthreads
    simp only [removeThread, h.own, UDTPPeer.removeThread, hle, hthreads, ne_eq,
      not_false_eq_true, if_true, if_false]
    by_cases hqueues : own.flowThreads = [] ∨ own.processThreads = []
    · simp only [hqueues, if_true]
    · simp only [hqueues, if_false]

/-- The quotient reaches the critical percentage wherever the percentage does. -/
theorem Critical.quotient_le {setup : UDTPSetup} {reported counted : UInt32}
    (h : Critical setup reported counted) (hcounted : counted ≠ 0) :
    reported / counted ≤ setup.criticalLossPacketPercentage := by
  have hpos : 0 < counted.toNat := by
    apply Nat.pos_of_ne_zero
    rintro hzero
    exact hcounted (UInt32.toNat_inj.mp hzero)
  unfold Critical at h
  rw [UInt32.le_iff_toNat_le, UInt32.toNat_div]
  apply Nat.div_le_of_le_mul
  rw [Nat.mul_comm]
  omega

/-- A percentage is at most a quotient iff its product with the divisor is at most the dividend. -/
theorem le_quotient_iff {percentage reported counted : UInt32} (hcounted : counted ≠ 0) :
    percentage ≤ reported / counted ↔
      percentage.toNat * counted.toNat ≤ reported.toNat := by
  have hpos : 0 < counted.toNat := by
    apply Nat.pos_of_ne_zero
    rintro hzero
    exact hcounted (UInt32.toNat_inj.mp hzero)
  rw [UInt32.le_iff_toNat_le, UInt32.toNat_div, Nat.le_div_iff_mul_le hpos]

/-- A count that is as many times the local one as the satisfactory percentage is satisfactory,
and not critical. -/
theorem satisfactory_of_multiple {setup : UDTPSetup} {reported counted : UInt32}
    (hsetup : setup.criticalLossPacketPercentage < setup.satisfactoryLossPacketPercentage)
    (hcounted : counted ≠ 0)
    (h : setup.satisfactoryLossPacketPercentage.toNat * counted.toNat ≤ reported.toNat) :
    ¬ Critical setup reported counted ∧ Satisfactory setup reported counted ∧
      ¬ reported / counted ≤ setup.criticalLossPacketPercentage := by
  have hlt := UInt32.lt_iff_toNat_lt.mp hsetup
  have hquotient := UInt32.le_iff_toNat_le.mp ((le_quotient_iff hcounted).mpr h)
  have hnot : ¬ reported / counted ≤ setup.criticalLossPacketPercentage := by
    rw [UInt32.le_iff_toNat_le]
    omega
  refine ⟨fun hcritical => hnot (hcritical.quotient_le hcounted), ?_, hnot⟩
  unfold Satisfactory
  omega

/-- **When the decision is the one by the percentage.** For all packet counts and thread counts
and every setup whose critical percentage is below the satisfactory one, iff packets were
counted, and either the loss is critical, there are threads and the queues hold them, or the
reported count is the satisfactory percentage times the local one and there is room. -/
theorem decidesByPercentage_iff (h : Report u a counted own)
    (hsetup : env.setup.criticalLossPacketPercentage <
      env.setup.satisfactoryLossPacketPercentage) :
    DecidesByPercentage env u a counted own ↔ counted.packetsCount ≠ 0 ∧
      ((Critical env.setup a.packetsCount counted.packetsCount ∧ own.threadCount ≠ 0 ∧
          own.flowThreads ≠ [] ∧ own.processThreads ≠ []) ∨
        (env.setup.satisfactoryLossPacketPercentage.toNat * counted.packetsCount.toNat ≤
            a.packetsCount.toNat ∧
          own.threadCount < env.setup.maxNumberOfFlowSockets)) := by
  unfold DecidesByPercentage
  rw [h.respond_eq]
  by_cases hcounted : counted.packetsCount = 0
  · simp [hcounted]
  have hmultiple := @satisfactory_of_multiple env.setup a.packetsCount _ hsetup hcounted
  have hquotient : Critical env.setup a.packetsCount counted.packetsCount →
      a.packetsCount / counted.packetsCount ≤ env.setup.criticalLossPacketPercentage :=
    fun hcritical => hcritical.quotient_le hcounted
  rw [if_neg hcounted, and_iff_right hcounted]
  by_cases hle : a.packetsCount / counted.packetsCount ≤ env.setup.criticalLossPacketPercentage
  · -- the quotient is critical: a thread is removed, or the report goes back as it came
    have hnot : ¬ env.setup.satisfactoryLossPacketPercentage.toNat * counted.packetsCount.toNat ≤
        a.packetsCount.toNat := fun hm => (hmultiple hm).2.2 hle
    rw [if_pos hle]
    by_cases hthreads : own.threadCount = 0
    · simp [hthreads, hnot, h.type, h.code]
    · by_cases hqueues : own.flowThreads = [] ∨ own.processThreads = []
      · simp only [hthreads, hqueues, ne_eq, not_false_eq_true, if_true, reduceCtorEq, false_and,
          exists_const, hnot, or_false, ← not_or, not_true_eq_false, and_false]
      · rw [if_pos hthreads, if_neg hqueues]
        by_cases hcritical : Critical env.setup a.packetsCount counted.packetsCount
        · simp [hcritical, hthreads, not_or.mp hqueues, setAcknowledgeType]
        · simp [hcritical, hnot, setAcknowledgeType]
  · -- the quotient is not critical: only a multiple of the percentage leads to a request
    have hcritical : ¬ Critical env.setup a.packetsCount counted.packetsCount :=
      fun hc => hle (hquotient hc)
    rw [if_neg hle]
    simp only [ge_iff_le, le_quotient_iff hcounted]
    by_cases hadd : env.setup.satisfactoryLossPacketPercentage.toNat *
        counted.packetsCount.toNat ≤ a.packetsCount.toNat ∧
        own.threadCount < env.setup.maxNumberOfFlowSockets
    · obtain ⟨-, hsatisfactory, -⟩ := hmultiple hadd.1
      rw [if_pos hadd]
      simp [hcritical, hadd, hsatisfactory, setAcknowledgeType]
    · rw [if_neg hadd]
      simp [hcritical, hadd, setAcknowledgeType, h.code]

/-- A peer of which so many packets were counted, with so many threads. -/
def countedPeer (counted : UInt32) (threads : UInt16) : UDTPPeer :=
  { (default : UDTPPeer) with packetsCount := counted, threadCount := threads }

/-- A HOST with this peer. -/
def countingHost (counted : UInt32) (threads : UInt16) : UDTP :=
  { (default : UDTP) with
    socketType := .host
    listPeers := [default, countedPeer counted threads] }

/-- The peer reports so many packets. -/
def reportOf (reported : UInt32) : UDTPAcknowledge :=
  { (default : UDTPAcknowledge) with
    acknowledgeType := .packetCount
    acknowledgeResponseCode := .responseNone
    packetsCount := reported
    peerID := 1
    myPeer := 1 }

/-- The report of the example is one. -/
theorem reportOf_report (reported counted : UInt32) (threads : UInt16) :
    Report (countingHost counted threads) (reportOf reported) (countedPeer counted threads)
      (countedPeer counted threads) := ⟨rfl, rfl, rfl, rfl⟩

/-- The settings an endpoint begins with. -/
def defaultEnvironment : Environment := { (default : Environment) with setup := .defaults }

/-- Where a hundred packets are reported for one that was counted, the decision is right. -/
theorem decidesByPercentage_iff_reportOf :
    DecidesByPercentage defaultEnvironment (countingHost 1 0) (reportOf 100) (countedPeer 1 0)
      (countedPeer 1 0) :=
  (decidesByPercentage_iff (reportOf_report 100 1 0) (by decide)).mpr
    ⟨by decide, Or.inr ⟨by decide, by decide⟩⟩

/-- Without a local packet the handling divides by zero; and a peer all of whose packets arrived
is not asked for a thread, though there is room. -/
theorem not_decidesByPercentage_reportOf :
    ¬ DecidesByPercentage defaultEnvironment (countingHost 0 0) (reportOf 0) (countedPeer 0 0)
        (countedPeer 0 0) ∧
      ¬ DecidesByPercentage defaultEnvironment (countingHost 10 0) (reportOf 10)
        (countedPeer 10 0) (countedPeer 10 0) := by
  constructor
  · rintro ⟨b, a', u', hrespond, -⟩
    cases hrespond
  · rintro ⟨b, a', u', hrespond, -, hadd, -⟩
    cases hrespond
    have htype := hadd.mpr (by unfold Critical Satisfactory; decide)
    cases htype

end UDTPAcknowledge

end Udtp
