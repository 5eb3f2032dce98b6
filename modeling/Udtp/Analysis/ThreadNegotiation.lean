import Udtp.Analysis.ExchangeSteps

/-!
# The negotiation of flow threads

`pack()` and `unpack()` of an acknowledge do nothing and return `true`, and the resend test
asks for any of the three methods.  So every acknowledge that is handled goes back,
whatever `respond()` decided, and a negotiation that began with a report never ends.

Nor does `respond()` ever decide on an end: its answers have the response code of the
message they answer, so a report with `ResponseNone` is never approved, rejected or
confirmed (`run_acknowledging`).
-/

set_option autoImplicit false

namespace Udtp

open StepMachine

namespace Exchange

variable {hostEnd peerEnd : EndPoint} {x y : Exchange}

/-- The packet on the wire is an acknowledge with a response code. -/
def Acknowledging (code : ResponseCode) (x : Exchange) : Prop :=
  ∃ a, x.wire = some (.acknowledge a) ∧ a.acknowledgeResponseCode = code

/-- The answer to an acknowledge is an acknowledge with the same code. -/
theorem Acknowledging.deliver {code : ResponseCode} (hx : x.Acknowledging code) {input : Delivery}
    (h : deliver hostEnd peerEnd x input = .ok y) : y.Acknowledging code := by
  obtain ⟨a, hwire, hcode⟩ := hx
  obtain ⟨socket, uniqueID, b, r, u, hprocess, rfl⟩ := deliver_cases hwire rfl h
  obtain ⟨object, hobject, hsame⟩ : ∃ object, setFields x.toHost socket x.posID uniqueID
      (.acknowledge ((Packet.acknowledge a).arrive input.memory).acknowledge) =
        .acknowledge object ∧ object.acknowledgeResponseCode = code := by
    unfold setFields
    split
    · exact ⟨_, rfl, hcode⟩
    · exact ⟨_, rfl, hcode⟩
  rw [hobject] at hprocess
  obtain ⟨rfl, b', a', rfl, hrespond⟩ := process_acknowledge hprocess
  obtain ⟨-, type, rfl⟩ := UDTPAcknowledge.respond_spec hrespond
  exact ⟨_, answered_wire _ _ _, hsame⟩

/-- **Acknowledges go back and forth forever**, all of them with the code of the first. -/
theorem run_acknowledging {code : ResponseCode} (hx : x.Acknowledging code)
    {inputs : List Delivery} (h : run hostEnd peerEnd x inputs = .ok y) : y.Acknowledging code :=
  run_preserves (Exchange.deliver hostEnd peerEnd) (Acknowledging code)
    (fun _ _ _ hz hdeliver => hz.deliver hdeliver) hx h

/-- The ends count the same number of threads for each other. -/
def ThreadsAgree (x : Exchange) : Prop :=
  ∃ p q, x.host.getPeer x.posID = some p ∧ x.peer.getPeer 0 = some q ∧
    p.threadCount = q.threadCount

/-- After finitely many deliveries nothing is left to deliver, and the thread counts are
equal. -/
def NegotiationSettles (hostEnd peerEnd : EndPoint) (x : Exchange) (inputs : ℕ → Delivery) :
    Prop :=
  ∃ n y, run hostEnd peerEnd x ((List.range n).map inputs) = .ok y ∧ y.wire = none ∧ y.ThreadsAgree

/-- An exchange of acknowledges never settles. -/
theorem Acknowledging.not_settles {code : ResponseCode} (hx : x.Acknowledging code)
    (inputs : ℕ → Delivery) : ¬ NegotiationSettles hostEnd peerEnd x inputs := by
  rintro ⟨n, y, hrun, hnone, -⟩
  obtain ⟨a, hwire, -⟩ := run_acknowledging hx hrun
  rw [hnone] at hwire
  cases hwire

/-- **No negotiation settles.** Whatever was reported, to whichever end, and however the
calls of `add_thread()` turn out. -/
theorem negotiation_never_settles (hostEnd peerEnd : EndPoint) (host peer : UDTP) (posID : ℕ)
    (socket : Socket) (toHost : Bool) (report : UDTPAcknowledge) (inputs : ℕ → Delivery) :
    ¬ NegotiationSettles hostEnd peerEnd
      ⟨host, peer, posID, socket, toHost, some (.acknowledge report)⟩ inputs :=
  Acknowledging.not_settles ⟨report, rfl, rfl⟩ inputs

/-- A report of one packet between two ends that counted one packet and no thread each. -/
def oneReport : Exchange where
  host := ((UDTP.startedIn .host).acceptPeer default ⟨4, 1⟩).2.modifyPeer 1 fun p =>
    { p with packetsCount := 1 }
  peer := (UDTP.startedIn .peer).modifyPeer 0 fun p => { p with packetsCount := 1 }
  posID := 1
  socket := ⟨4, 1⟩
  toHost := true
  wire := some (.acknowledge { (default : UDTPAcknowledge) with
    acknowledgeType := .packetCount, acknowledgeResponseCode := .responseNone, packetsCount := 1 })

/-- The report is handed back and forth, any number of times. -/
theorem oneReport_total (n : ℕ) :
    ∃ y, run ⟨.defaults, default⟩ ⟨.defaults, default⟩ oneReport
      ((List.range n).map fun _ => default) = .ok y := by
  -- the second delivery brings back what the first one started from
  obtain ⟨z, w, hz, hw, hback⟩ : ∃ z w,
      Exchange.deliver ⟨.defaults, default⟩ ⟨.defaults, default⟩ oneReport default = .ok z ∧
      Exchange.deliver ⟨.defaults, default⟩ ⟨.defaults, default⟩ z default = .ok w ∧
      Exchange.deliver ⟨.defaults, default⟩ ⟨.defaults, default⟩ w default = .ok z :=
    ⟨_, _, rfl, rfl, rfl⟩
  have hnext : ∀ y, ∀ input ∈ (List.range n).map fun _ => (default : Delivery),
      y = oneReport ∨ y = z ∨ y = w →
      ∃ y', Exchange.deliver ⟨.defaults, default⟩ ⟨.defaults, default⟩ y input = .ok y' ∧
        (y' = oneReport ∨ y' = z ∨ y' = w) := by
    intro y input hinput hy
    obtain ⟨k, -, rfl⟩ := List.mem_map.mp hinput
    rcases hy with rfl | rfl | rfl
    · exact ⟨z, hz, Or.inr (Or.inl rfl)⟩
    · exact ⟨w, hw, Or.inr (Or.inr rfl)⟩
    · exact ⟨z, hback, Or.inr (Or.inl rfl)⟩
  obtain ⟨y, hrun, -⟩ := run_total _ _ _ hnext (Or.inl rfl)
  exact ⟨y, hrun⟩

/-- The ends agree before the report; it is handed back and forth, and they never come to an
end. -/
theorem oneReport_not_settles :
    oneReport.ThreadsAgree ∧
      (∀ n, ∃ y, run ⟨.defaults, default⟩ ⟨.defaults, default⟩ oneReport
        ((List.range n).map fun _ => default) = .ok y) ∧
      ¬ NegotiationSettles ⟨.defaults, default⟩ ⟨.defaults, default⟩ oneReport fun _ => default :=
  ⟨⟨_, _, rfl, rfl, rfl⟩, oneReport_total, Acknowledging.not_settles ⟨_, rfl, rfl⟩ _⟩

end Exchange

end Udtp
