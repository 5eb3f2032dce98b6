import Udtp.Model.Stream

/-!
# Packets out of a stream

No body ever reaches `_raw`: the HOST asks the listen socket for it, on which no data
arrive, and the PEER has it stored nowhere (`Bodiless.visits`).  So a sequence of packets
is recovered iff it is empty, however the stream is split (`recovers_iff_nil`).  The
sender alone would already prevent it, because it puts as many bytes on the stream as the
body has and begins them with the header (`sentBytes_length`).
-/

set_option autoImplicit false

namespace Udtp

open LittleEndian

/-- A packet takes as many bytes of the stream as its body alone would need. -/
theorem UDTPHandshake.sentBytes_length (h : UDTPHandshake) :
    h.sentBytes.length = h.frame.2.length := by
  simp [sentBytes, frame]

namespace Receiver

variable {role : SocketType} {connection : ℕ}

/-- The listen socket of a HOST has no data, and a visit of another connection gives it
none. -/
def ListenSocketSilent (role : SocketType) (connection : ℕ) (r : Receiver) : Prop :=
  role = .host → connection ≠ 0 ∧ r.streams 0 = []

/-- No body is ever received. -/
structure Bodiless (role : SocketType) (connection : ℕ) (r : Receiver) : Prop where
  silent : ListenSocketSilent role connection r
  bodies : ∀ e ∈ r.received, e.2 = []

/-- A visit makes no object with a body where no body was sent. -/
theorem Bodiless.visit {r : Receiver} (h : Bodiless role connection r) (v : Visit) :
    Bodiless role connection (r.visit role connection v) := by
  have hread : ∀ n, role = .host → r.streams.advance connection n 0 = [] := by
    intro n hrole
    exact Streams.advance_of_nil (h.silent hrole).2 connection n
  have hstreams : ∀ n, ListenSocketSilent role connection
      { r with streams := r.streams.advance connection n } :=
    fun n hrole => ⟨(h.silent hrole).1, hread n hrole⟩
  unfold Receiver.visit
  split
  · exact h
  dsimp only
  split
  · exact ⟨hstreams _, h.bodies⟩ -- no object is made
  split
  · exact ⟨hstreams _, h.bodies⟩ -- the end crashes
  · cases role with
    | host =>
      have hnone := hread (returned (r.streams connection) v.readCount UDTPPacketHeader.sizeOf) rfl
      constructor
      · intro _
        exact ⟨(h.silent rfl).1, Streams.advance_of_nil hnone 0 _⟩
      · intro e he
        rcases List.mem_append.mp he with he | he
        · exact h.bodies e he
        · rw [List.mem_singleton] at he
          simp [he, recvBody, hnone]
    | peer =>
      constructor
      · intro hrole
        cases hrole
      · intro e he
        rcases List.mem_append.mp he with he | he
        · exact h.bodies e he
        · rw [List.mem_singleton] at he
          simp [he, recvBody]

/-- **No sequence of visits receives a body.** -/
theorem Bodiless.visits {r : Receiver} (h : Bodiless role connection r) (vs : List Visit) :
    Bodiless role connection (r.visits role connection vs) := by
  induction vs generalizing r with
  | nil => exact h
  | cons v vs ih => exact ih (h.visit v)

/-- An end that crashed, or whose connection has no bytes, stays as it is. -/
theorem visits_of_stopped {r : Receiver} (h : r.crashed = true ∨ r.streams connection = [])
    (vs : List Visit) : r.visits role connection vs = r := by
  induction vs with
  | nil => rfl
  | cons v vs ih =>
    have hv : r.visit role connection v = r := by
      unfold visit
      rw [if_pos h]
    rw [visits, List.foldl_cons, hv]
    exact ih

/-- Nothing was received before the first visit. -/
theorem ofSent_bodiless (role : SocketType) (accepted : ℕ) (packets : List UDTPHandshake) :
    Bodiless role (receivingConnection role accepted) (ofSent role accepted packets) := by
  constructor
  · intro hrole
    subst hrole
    simp [ofSent, receivingConnection]
  · simp [ofSent]

end Receiver

/-- After the visits an end has received exactly the packets that were sent to it: the
header and the whole body of each, in order, and nothing is left on the connection. -/
structure Recovers (role : SocketType) (accepted : ℕ) (packets : List UDTPHandshake)
    (vs : List Visit) : Prop where
  received : ((Receiver.ofSent role accepted packets).visits role
    (receivingConnection role accepted) vs).received = packets.map UDTPHandshake.frame
  leftOver : ((Receiver.ofSent role accepted packets).visits role
    (receivingConnection role accepted) vs).streams (receivingConnection role accepted) = []

/-- Packets without bodies send no bytes. -/
theorem flatMap_sentBytes_eq_nil {packets : List UDTPHandshake}
    (h : ∀ p ∈ packets, p.frame.2 = []) : packets.flatMap UDTPHandshake.sentBytes = [] := by
  rw [List.flatMap_eq_nil_iff]
  intro p hp
  rw [← List.length_eq_zero_iff, p.sentBytes_length, h p hp, List.length_nil]

/-- Where every packet is recovered, none was sent. -/
theorem Recovers.eq_nil {role : SocketType} {accepted : ℕ} {packets : List UDTPHandshake}
    {vs : List Visit} (h : Recovers role accepted packets vs) : packets = [] := by
  have hbodiless := (Receiver.ofSent_bodiless role accepted packets).visits vs
  have hempty : ∀ p ∈ packets, p.frame.2 = [] := by
    intro p hp
    apply hbodiless.bodies p.frame
    exact h.received ▸ List.mem_map_of_mem hp
  have hstream : (Receiver.ofSent role accepted packets).streams
      (receivingConnection role accepted) = [] := by
    simpa [Receiver.ofSent] using flatMap_sentBytes_eq_nil hempty
  have hnone := h.received
  rw [Receiver.visits_of_stopped (Or.inr hstream)] at hnone
  simpa [Receiver.ofSent] using hnone.symm

/-- **Framing.** At either end, for every split of the stream, the packets that were packed
and sent are recovered iff there are none. -/
theorem recovers_iff_nil (role : SocketType) (accepted : ℕ)
    (packed : List (Environment × UDTPHandshake)) (vs : List Visit) :
    Recovers role accepted (packed.map fun e => (e.2.pack e.1).2) vs ↔ packed = [] := by
  constructor
  · intro h
    exact List.map_eq_nil_iff.mp h.eq_nil
  · rintro rfl
    have hstream : (Receiver.ofSent role accepted []).streams
        (receivingConnection role accepted) = [] := by simp [Receiver.ofSent]
    constructor
    · rw [List.map_nil, Receiver.visits_of_stopped (Or.inr hstream)]
      rfl
    · rw [List.map_nil, Receiver.visits_of_stopped (Or.inr hstream)]
      exact hstream

/-- A `ResponseStart` handshake, sent to a PEER that reads as much as it asks for. -/
theorem not_recovers_responseStart :
    ¬ Recovers .peer 0
      [((UDTPHandshake.ofResponseCode default .responseStart).pack default).2]
      (List.replicate 2 .plain) := by
  intro h
  exact List.cons_ne_nil _ _ h.eq_nil

end Udtp
