import Mathlib.Data.List.Forall2
import Mathlib.Data.List.Induction
import Udtp.Model.FlowThread

/-!
# Chunks out of datagrams

The call for the header takes the whole datagram the header came in, and the call for the
body takes another one: two datagrams are spent on each chunk that is queued
(`run_balance`).  So every datagram gives its own chunk only where no datagram arrives
(`queuesEach_iff_nil`).
-/

set_option autoImplicit false

namespace Udtp

open LittleEndian

/-- A header of type `Chunk` followed by a body of the size it names. -/
def Datagram.IsChunk (d : Datagram) : Prop :=
  ∃ (header : UDTPPacketHeader) (body : List UInt8), header.packetType = .chunk ∧
    body.length = header.packetSize.toNat ∧ d.bytes = header.toBytes ++ body

/-- The header, the body and the address of a chunk are those of the datagram. -/
def Datagram.Carries (d : Datagram) (c : UDTPChunk) : Prop :=
  ∃ (header : UDTPPacketHeader) (body : List UInt8), body.length = header.packetSize.toNat ∧
    d.bytes = header.toBytes ++ body ∧ c.header = header ∧ load c.raw 0 body.length = body ∧
    c.receiveAddress = d.source

namespace FlowThread

/-- However the thread is scheduled, once it rests it has queued one chunk for each datagram
that arrived, in their order. -/
def QueuesEach (s : FlowThread) (ds : List Datagram) : Prop :=
  ∀ events, arrivals events = ds → (s.run events).Rests →
    List.Forall₂ Datagram.Carries ds (s.run events).processChunks

/-! ## What a step spends -/

/-- The datagrams that were taken for the chunk the thread holds. -/
def held : FlowPoint → ℕ
  | .receiveBody _ _ => 1
  | _ => 0

/-- Two datagrams for a chunk that was queued, one for a chunk that is held, and the ones that
were not taken. -/
def spent (s : FlowThread) : ℕ :=
  2 * s.processChunks.length + held s.point + s.flowSocket.length

/-- The first receive call waits, or takes a datagram, which it drops or holds as a chunk. -/
theorem receiveHeader_cases (input : FlowInput) (s : FlowThread) :
    (s.flowSocket = [] ∧ s.receiveHeader input = s) ∨
    ∃ d waiting, s.flowSocket = d :: waiting ∧
      (s.receiveHeader input = { s with flowSocket := waiting } ∨
        ∃ chunk address, s.receiveHeader input =
          { s with flowSocket := waiting, point := .receiveBody chunk address }) := by
  unfold receiveHeader
  cases hsocket : s.flowSocket with
  | nil => exact Or.inl ⟨rfl, rfl⟩
  | cons d waiting =>
    refine Or.inr ⟨d, waiting, rfl, ?_⟩
    simp only [recvDatagram]
    split_ifs
    · exact Or.inr ⟨_, _, rfl⟩
    · exact Or.inl rfl
    · exact Or.inr ⟨_, _, rfl⟩
    · exact Or.inl rfl

/-- The second receive call waits, or takes a datagram and queues the chunk it holds. -/
theorem receiveBody_cases (chunk : UDTPChunk) (address : SockAddrIn) (s : FlowThread) :
    (s.flowSocket = [] ∧ s.receiveBody chunk address = s) ∨
    ∃ d waiting, s.flowSocket = d :: waiting ∧
      s.receiveBody chunk address =
        { s with
          flowSocket := waiting
          point := .receiveHeader
          processChunks := s.processChunks ++ [chunk.setReceiveAddress address]
          packetsCount := s.packetsCount + 1
          semProcessChunkThread := s.semProcessChunkThread + 1 } := by
  unfold receiveBody
  cases hsocket : s.flowSocket with
  | nil => exact Or.inl ⟨rfl, rfl⟩
  | cons d waiting => exact Or.inr ⟨d, waiting, rfl, rfl⟩

/-- A step spends no datagram that did not arrive. -/
theorem step_spent (s : FlowThread) (event : FlowEvent) :
    (s.step event).spent ≤ s.spent + (arrivals [event]).length := by
  cases event with
  | arrive d =>
    simp only [step, spent, arrivals, List.filterMap_cons, List.filterMap_nil, List.length_append,
      List.length_singleton]
    omega
  | proceed input =>
    simp only [arrivals, List.filterMap_cons, List.filterMap_nil, List.length_nil, Nat.add_zero]
    cases hpoint : s.point with
    | receiveHeader =>
      simp only [step, hpoint]
      split
      · rcases receiveHeader_cases input s with ⟨-, hsame⟩ | ⟨d, waiting, hsocket, hdrop | hheld⟩
        · rw [hsame]
        · rw [hdrop]
          simp only [spent, hsocket, List.length_cons]
          omega
        · obtain ⟨chunk, address, hheld⟩ := hheld
          rw [hheld]
          simp only [spent, hpoint, hsocket, held, List.length_cons]
          omega
      · simp only [spent, hpoint, held]
        omega
    | receiveBody chunk address =>
      simp only [step, hpoint]
      rcases receiveBody_cases chunk address s with ⟨-, hsame⟩ | ⟨d, waiting, hsocket, hqueued⟩
      · rw [hsame]
      · rw [hqueued]
        simp only [spent, hpoint, hsocket, held, List.length_cons, List.length_append,
          List.length_nil]
        omega
    | exited =>
      simp only [step, hpoint]
      omega

/-- **Two datagrams a chunk.** In every run of the thread, two datagrams arrived for each
chunk that was queued. -/
theorem run_balance (threadType : ThreadType) (events : List FlowEvent) :
    ((new threadType).run events).spent ≤ (arrivals events).length := by
  induction events using List.reverseRecOn with
  | nil => exact Nat.le_refl 0
  | append_singleton events event ih =>
    rw [run_append, arrivals_append, List.length_append]
    have hstep := step_spent ((new threadType).run events) event
    have hlast : ((new threadType).run events).run [event] =
        ((new threadType).run events).step event := rfl
    rw [hlast]
    omega

/-! ## The thread comes to rest -/

/-- Left alone, the thread takes what has arrived, or ends. -/
theorem exists_rests (s : FlowThread) :
    ∃ events, arrivals events = [] ∧ (s.run events).Rests := by
  -- induction on the datagrams that are waiting; each step takes one of them
  induction hlength : s.flowSocket.length generalizing s with
  | zero => exact ⟨[], rfl, Or.inl (List.length_eq_zero_iff.mp hlength)⟩
  | succ n ih =>
    have next : ∀ t : FlowThread, s.step (.proceed default) = t → t.flowSocket.length = n →
        ∃ events, arrivals events = [] ∧ (s.run events).Rests := by
      intro t hstep ht
      obtain ⟨events, harrivals, hrests⟩ := ih t ht
      refine ⟨.proceed default :: events, harrivals, ?_⟩
      rw [run, List.foldl_cons, hstep]
      exact hrests
    cases hpoint : s.point with
    | receiveHeader =>
      by_cases hloop : (s.alive && s.threadType = .incoming) = true
      · have hstep : s.step (.proceed default) = s.receiveHeader default := by
          simp only [step, hpoint]
          rw [if_pos hloop]
        rcases receiveHeader_cases default s with ⟨hnone, -⟩ | ⟨d, waiting, hsocket, hrest⟩
        · rw [hnone] at hlength
          cases hlength
        have hwaiting : waiting.length = n := by
          rw [hsocket] at hlength
          exact Nat.succ.inj hlength
        rcases hrest with hdrop | ⟨chunk, address, hheld⟩
        · exact next _ (hstep.trans hdrop) hwaiting
        · exact next _ (hstep.trans hheld) hwaiting
      · refine ⟨[.proceed default], rfl, Or.inr ?_⟩
        simp only [run, List.foldl_cons, List.foldl_nil, step, hpoint]
        rw [if_neg hloop]
    | receiveBody chunk address =>
      have hstep : s.step (.proceed default) = s.receiveBody chunk address := by
        simp only [step, hpoint]
      rcases receiveBody_cases chunk address s with ⟨hnone, -⟩ | ⟨d, waiting, hsocket, hqueued⟩
      · rw [hnone] at hlength
        cases hlength
      · apply next _ (hstep.trans hqueued)
        rw [hsocket] at hlength
        exact Nat.succ.inj hlength
    | exited => exact ⟨[], rfl, Or.inr hpoint⟩

/-- **When every datagram gives its chunk.** Whatever the thread type, the datagrams are
queued one chunk each iff there are none. -/
theorem queuesEach_iff_nil (threadType : ThreadType) (ds : List Datagram) :
    QueuesEach (new threadType) ds ↔ ds = [] := by
  constructor
  · intro h
    obtain ⟨events, harrivals, hrests⟩ := exists_rests ((new threadType).run (ds.map .arrive))
    have hall : arrivals (ds.map .arrive ++ events) = ds := by
      rw [arrivals_append, harrivals, List.append_nil, arrivals, List.filterMap_map]
      exact List.filterMap_some
    rw [← run_append] at hrests
    have hqueued := (h _ hall hrests).length_eq
    have hbalance := run_balance threadType (ds.map .arrive ++ events)
    rw [hall] at hbalance
    unfold spent at hbalance
    rw [← List.length_eq_zero_iff]
    omega
  · rintro rfl events harrivals -
    have hbalance := run_balance threadType events
    rw [harrivals, List.length_nil] at hbalance
    unfold spent at hbalance
    have hnone : ((new threadType).run events).processChunks = [] := by
      rw [← List.length_eq_zero_iff]
      omega
    rw [hnone]
    exact List.Forall₂.nil

/-- A chunk with a body of one byte. -/
def oneByteChunk : Datagram where
  bytes := (⟨1, 0, .chunk⟩ : UDTPPacketHeader).toBytes ++ [7]
  source := default

/-- Two chunks arrive, and one is queued, with the header the memory held. -/
theorem not_queuesEach_twoChunks :
    (∀ d ∈ [oneByteChunk, oneByteChunk], d.IsChunk) ∧
      ((new .incoming).run [.arrive oneByteChunk, .arrive oneByteChunk, .proceed default,
        .proceed default]).processChunks.length = 1 ∧
      ¬ QueuesEach (new .incoming) [oneByteChunk, oneByteChunk] := by
  refine ⟨?_, by decide, ?_⟩
  · intro d hd
    simp only [List.mem_cons, List.not_mem_nil, or_false, or_self] at hd
    exact ⟨⟨1, 0, .chunk⟩, [7], rfl, rfl, by rw [hd]; rfl⟩
  · intro h
    have hone := h [.arrive oneByteChunk, .arrive oneByteChunk, .proceed default,
      .proceed default] rfl (Or.inl (by decide))
    have hlength := hone.length_eq
    revert hlength
    decide

end FlowThread

end Udtp
