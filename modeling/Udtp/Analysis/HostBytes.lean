import Udtp.Analysis.Answers
import Udtp.Analysis.StreamHeaders
import Udtp.Model.ByteHost

/-!
# What a HOST makes of the bytes it gets

What a HOST reads on a connection are the bytes of that connection, cut into pieces of one to
eight: each is taken for a header, once and in order, and no other byte is, whatever arrives on
the other connections and in whatever order the loop gets to them (`packets_of_run`).  As it answers
a read at most once, it never sends more packets on a connection than bytes arrived on it, but for
the greeting and for reads that fail.
-/

set_option autoImplicit false

namespace Udtp

open StepMachine

/-- What a `read()` yields that takes a piece off a stream.  Of a call that failed nothing is
known. -/
structure ReadAnswer.TakenFrom (read : ReadAnswer) (piece : List UInt8) : Prop where
  count : read.count ≠ 0
  length : piece.length = read.count.toNat
  length_le : piece.length ≤ UDTPPacketHeader.sizeOf
  header : 0 < read.count → ∃ before : UDTPPacketHeader, read.packetDeduction =
    UDTPPacketHeader.ofBytes (piece ++ before.toBytes.drop piece.length)

/-- Each read took at least a byte, but for those that failed. -/
theorem length_le_of_takenFrom {packets : List ReadAnswer} {pieces : List (List UInt8)}
    (h : List.Forall₂ ReadAnswer.TakenFrom packets pieces) :
    packets.length ≤
      pieces.flatten.length + (packets.filter fun read => read.count < 0).length := by
  induction h with
  | nil => simp
  | @cons read piece packets pieces hread hrest ih =>
    have hcount := hread.count
    have hlength := hread.length
    rw [List.length_cons, List.flatten_cons, List.length_append]
    by_cases hfailed : read.count < 0
    · rw [List.filter_cons_of_pos (by simpa using hfailed), List.length_cons]
      omega
    · rw [List.filter_cons_of_neg (by simpa using hfailed)]
      omega

namespace HostLoop

variable {s : HostLoop} {number : ℕ}

/-- A step that reads from a connection is an event of it. -/
theorem event_of_readsFrom (h : s.readsFrom = some number) (input : HostInput) :
    (input.read.count ≠ 0 ∧
        s.event input = some (.packet number input.environment input.read)) ∨
      (input.read.count = 0 ∧ ∃ i, s.event input = some (.disconnect number i)) := by
  unfold readsFrom at h
  split at h
  · rename_i i hphase
    split at h
    · cases h
    rename_i entry hentry
    split at h
    · rename_i hready
      obtain rfl := Option.some.inj h
      by_cases hcount : input.read.count = 0
      · exact Or.inr ⟨hcount, i, by simp [event, hphase, hentry, hready, hcount]⟩
      · exact Or.inl ⟨hcount, by simp [event, hphase, hentry, hready, hcount]⟩
    · cases h
  · cases h

/-- A step that reads from no connection has no packet for an event. -/
theorem event_of_not_readsFrom (h : s.readsFrom = none) (input : HostInput) :
    ∀ number env read, s.event input ≠ some (.packet number env read) := by
  intro number env read hevent
  unfold readsFrom at h
  unfold event at hevent
  split at hevent
  · cases hevent
  · split at hevent
    · cases hevent
    · split at hevent
      · cases hevent
      · cases hevent
  · rename_i i hphase
    rw [hphase] at h
    split at hevent
    · cases hevent
    · rename_i entry hentry
      simp only [hentry] at h
      split at hevent
      · rename_i hready
        simp [hready] at h
      · cases hevent
  · split at hevent
    · cases hevent
    · cases hevent

/-- A connection is accepted on the step that counts it. -/
theorem accepted_of_connectionEvent {t : HostLoop} {input : HostInput} {c : ℕ}
    (h : s.step input = .ok t) {env : Environment} {answer : AcceptAnswer}
    (hevent : s.connectionEvent c input = some (.accepted env answer)) :
    s.accepted + 1 = c ∧ t.accepted = c := by
  have hstepped := step_stepped h
  unfold connectionEvent at hevent
  split at hevent
  · rename_i env' answer' haccepts
    split at hevent
    · rename_i hnumber
      rw [haccepts] at hstepped
      cases hstepped with
      | accepted hphase => exact ⟨hnumber, hnumber⟩
      | removed _ sockets u hphase hremove hremoval =>
        rcases event_of_removal hremoval with heq | heq
        · cases heq
        · cases heq
    · cases hevent
  · split at hevent <;> cases hevent
  · split at hevent <;> cases hevent
  · cases hevent

end HostLoop

namespace ByteHost

variable {w t : ByteHost} {input : HostInput} {c : ℕ}

/-- A read takes at most the bytes of a header and at most what has arrived. -/
theorem taken_le (w : ByteHost) (connection : ℕ) (read : ReadAnswer) :
    w.taken connection read ≤ UDTPPacketHeader.sizeOf ∧
      w.taken connection read ≤ (w.streams connection).length := by
  unfold taken
  split
  · omega
  · exact returned_le _ _ _

/-- What a read of a connection yields. -/
theorem reads_takenFrom {connection : ℕ} {read yielded : ReadAnswer}
    (h : w.reads connection read = some yielded) :
    (yielded.count ≠ 0 ∧
        yielded.TakenFrom ((w.streams connection).take (w.taken connection read))) ∨
      (yielded.count = 0 ∧ w.taken connection read = 0) := by
  obtain ⟨hsize, hlength⟩ := w.taken_le connection read
  unfold reads at h
  split at h
  · -- the call fails, and takes no byte
    rename_i hfailed
    cases h
    have htaken : w.taken connection read = 0 := by simp [taken, hfailed]
    have hne : read.count ≠ 0 := by omega
    refine Or.inl ⟨hne, ⟨hne, ?_, ?_, ?_⟩⟩
    · rw [htaken, List.take_zero, List.length_nil]
      exact (Int.toNat_of_nonpos hfailed.le).symm
    · rw [htaken, List.take_zero, List.length_nil]
      exact Nat.zero_le _
    · intro hpos
      exact absurd hpos hfailed.not_gt
  · rename_i hcount
    split at h
    · rename_i hnone
      split at h
      · cases h
        rw [hnone, List.length_nil] at hlength
        exact Or.inr ⟨rfl, by omega⟩
      · cases h
    · rename_i hsome
      cases h
      have hpos : 0 < w.taken connection read := by
        rw [taken, if_neg hcount]
        exact returned_pos (by rw [hsome]; simp) _ _ (by decide)
      have htake : ((w.streams connection).take (w.taken connection read)).length =
          w.taken connection read := by
        rw [List.length_take, Nat.min_eq_left hlength]
      refine Or.inl ⟨by simp only [ne_eq]; omega, ⟨by simp only [ne_eq]; omega, ?_, ?_, ?_⟩⟩
      · rw [htake]
        simp
      · rw [htake]
        exact hsize
      · intro _
        refine ⟨w.held read, ?_⟩
        rw [htake]
        simp only [readHeader, taken, if_neg hcount]

/-! ## Steps -/

/-- The packets of a connection are cut from the bytes that arrived on it. -/
def Cut (c : ℕ) (arrivals : List (List UInt8)) (packets : List ReadAnswer) (w : ByteHost) : Prop :=
  ∃ pieces, List.Forall₂ ReadAnswer.TakenFrom packets pieces ∧
    arrivals.flatten = pieces.flatten ++ w.streams c

/-- A packet of the connection is what was read on it. -/
theorem packetOn_of_event {found : HostInput} (hfound : w.found input = some found)
    {env : Environment} {read : ReadAnswer}
    (h : w.loop.event found = some (.packet c env read)) :
    w.packetOn c (.step input) = some read := by
  simp [packetOn, hfound, HostLoop.connectionEvent, h]

/-- Where the event is no packet of the connection, nothing was read on it. -/
theorem packetOn_eq_none {found : HostInput} (hfound : w.found input = some found)
    (h : ∀ env read, w.loop.event found ≠ some (.packet c env read)) :
    w.packetOn c (.step input) = none := by
  cases hevent : w.loop.event found with
  | none => simp [packetOn, hfound, HostLoop.connectionEvent, hevent]
  | some event =>
    cases event with
    | packet connection env read =>
      have hne : connection ≠ c := by
        rintro rfl
        exact h env read hevent
      simp [packetOn, hfound, HostLoop.connectionEvent, hevent, hne]
    | accepted env answer =>
      simp only [packetOn, hfound, HostLoop.connectionEvent, hevent]
      split
      · rename_i heq
        split at heq <;> cases heq
      · rfl
    | disconnect connection i =>
      simp only [packetOn, hfound, HostLoop.connectionEvent, hevent]
      split
      · rename_i heq
        split at heq <;> cases heq
      · rfl
    | _ => simp [packetOn, hfound, HostLoop.connectionEvent, hevent]

/-- A step of the loop takes a piece off the connection it reads from, and a packet with it. -/
theorem Cut.loopStep {arrivals : List (List UInt8)} {packets : List ReadAnswer}
    (hw : Cut c arrivals packets w) {found : HostInput} (hfound : w.found input = some found)
    (ht : t.streams = w.rest input) :
    Cut c arrivals (packets ++ (w.packetOn c (.step input)).toList) t := by
  obtain ⟨pieces, hpieces, harrived⟩ := hw
  have hkeep : w.packetOn c (.step input) = none → t.streams c = w.streams c →
      Cut c arrivals (packets ++ (w.packetOn c (.step input)).toList) t := by
    intro hnone hstream
    rw [hnone, Option.toList_none, List.append_nil]
    exact ⟨pieces, hpieces, by rw [harrived, hstream]⟩
  cases hreads : w.loop.readsFrom with
  | none =>
    refine hkeep (packetOn_eq_none hfound ?_) ?_
    · exact HostLoop.event_of_not_readsFrom hreads found c
    · simp [ht, rest, hreads]
  | some number =>
    have hrest : t.streams = w.streams.advance number (w.taken number input.read) := by
      simp [ht, rest, hreads]
    have hyields := hfound
    simp only [ByteHost.found, hreads, Option.map_eq_some_iff] at hyields
    obtain ⟨yielded, hyielded, rfl⟩ := hyields
    have hevent := HostLoop.event_of_readsFrom hreads { input with read := yielded }
    by_cases hnumber : number = c
    · subst hnumber
      rcases reads_takenFrom hyielded with ⟨hcount, htaken⟩ | ⟨hcount, hnothing⟩
      · rcases hevent with ⟨-, hevent⟩ | ⟨hzero, -⟩
        · rw [packetOn_of_event hfound hevent, Option.toList_some]
          refine ⟨pieces ++ [(w.streams number).take (w.taken number input.read)],
            List.rel_append hpieces (.cons htaken .nil), ?_⟩
          rw [List.flatten_append, List.flatten_singleton, List.append_assoc, hrest,
            Streams.advance_self, List.take_append_drop, harrived]
        · exact absurd hzero hcount
      · rcases hevent with ⟨hnonzero, -⟩ | ⟨-, i, hevent⟩
        · exact absurd hcount hnonzero
        · refine hkeep (packetOn_eq_none hfound ?_) ?_
          · intro env read hpacket
            rw [hevent] at hpacket
            cases hpacket
          · rw [hrest, Streams.advance_self, hnothing, List.drop_zero]
    · refine hkeep (packetOn_eq_none hfound ?_) ?_
      · intro env read hpacket
        rcases hevent with ⟨-, hevent⟩ | ⟨-, i, hevent⟩
        · rw [hevent] at hpacket
          cases hpacket
          exact hnumber rfl
        · rw [hevent] at hpacket
          cases hpacket
      · rw [hrest, Streams.advance_ne _ (Ne.symm hnumber)]

/-- A step keeps the bytes that arrived cut into the reads and the rest. -/
theorem Cut.step {arrivals : List (List UInt8)} {packets : List ReadAnswer}
    (hw : Cut c arrivals packets w) {input : ByteInput} (h : w.step input = .ok t) :
    Cut c (arrivals ++ (w.arrived c input).toList) (packets ++ (w.packetOn c input).toList) t := by
  cases input with
  | arrives connection bytes =>
    obtain ⟨pieces, hpieces, harrived⟩ := hw
    cases h
    rw [show w.packetOn c (.arrives connection bytes) = none from rfl, Option.toList_none,
      List.append_nil]
    refine ⟨pieces, hpieces, ?_⟩
    by_cases hconnection : connection = c
    · subst hconnection
      by_cases hclosed : w.closed connection = true
      · simp [arrived, hclosed, harrived]
      · simp [arrived, hclosed, harrived]
    · by_cases hclosed : w.closed connection = true
      · simp [arrived, hconnection, hclosed, harrived]
      · simp [arrived, hconnection, hclosed, Ne.symm hconnection, harrived]
  | closes connection =>
    cases h
    simp only [arrived, packetOn, Option.toList_none, List.append_nil]
    exact hw
  | step input =>
    rw [show w.arrived c (.step input) = none from rfl, Option.toList_none, List.append_nil]
    cases hfound : w.found input with
    | none =>
      rw [ByteHost.step, hfound] at h
      cases h
      rw [show w.packetOn c (.step input) = none by simp [packetOn, hfound], Option.toList_none,
        List.append_nil]
      exact hw
    | some found =>
      obtain ⟨loop, -, rfl⟩ := step_found hfound h
      exact hw.loopStep hfound rfl

/-! ## Answers -/

/-- The greeting of a connection that was accepted. -/
def greetings (c : ℕ) (s : HostLoop) : ℕ := if c ≤ s.accepted then 1 else 0

/-- A step of the loop sends at most one packet on a connection, when it accepts it or reads from
it. -/
theorem sentOn_step (hs : w.loop.Aligned) (hn : w.loop.Numbered) {found : HostInput}
    (hfound : w.found input = some found) {loop : HostLoop} (h : w.loop.step found = .ok loop) :
    (loop.sentOn c).length + greetings c w.loop ≤
      (w.loop.sentOn c).length + greetings c loop + (w.packetOn c (.step input)).toList.length := by
  obtain ⟨packets, hsends, hsent⟩ := HostLoop.step_sends (c := c) hs hn h
  have haccepted := HostLoop.step_accepted_le h
  have hmono : greetings c w.loop ≤ greetings c loop := by
    unfold greetings
    split <;> split <;> omega
  rw [hsent, List.length_append]
  generalize hevent : w.loop.connectionEvent c found = event at hsends
  cases hsends with
  | quiet =>
    rw [List.length_nil]
    omega
  | accepted env answer =>
    -- the greeting: from here on the connection is one that was accepted
    obtain ⟨hbefore, hafter⟩ := HostLoop.accepted_of_connectionEvent h hevent
    have hnew : greetings c w.loop = 0 := if_neg (by omega)
    have hold : greetings c loop = 1 := if_pos (by omega)
    have hgreeting : (ConnectionView.ofAccept env answer c).sent.length = 1 := rfl
    omega
  | answered env read socket i uniqueID u u' p q hobject hprocess =>
    have hpacket : w.packetOn c (.step input) = some read := by simp [packetOn, hfound, hevent]
    rw [hpacket, Option.toList_some, List.length_singleton, List.length_singleton]
    omega
  | unanswered env read =>
    rw [List.length_nil]
    omega
  | disconnect =>
    rw [List.length_nil]
    omega

/-! ## Runs -/

/-- What was sent on a connection are its greeting and answers to its packets. -/
theorem sentOn_le_step {packets : List ReadAnswer} (hs : w.loop.Aligned) (hn : w.loop.Numbered)
    (hsent : (w.loop.sentOn c).length ≤ greetings c w.loop + packets.length) {input : ByteInput}
    (h : w.step input = .ok t) :
    (t.loop.sentOn c).length ≤
      greetings c t.loop + (packets ++ (w.packetOn c input).toList).length := by
  rw [List.length_append]
  have hkeep : t.loop = w.loop → (t.loop.sentOn c).length ≤
      greetings c t.loop + (packets.length + (w.packetOn c input).toList.length) := by
    intro hloop
    rw [hloop]
    omega
  cases input with
  | arrives connection bytes =>
    refine hkeep ?_
    cases h
    split
    · rfl
    · rfl
  | closes connection =>
    refine hkeep ?_
    cases h
    rfl
  | step input =>
    cases hfound : w.found input with
    | none =>
      refine hkeep ?_
      rw [ByteHost.step, hfound] at h
      cases h
      rfl
    | some found =>
      obtain ⟨loop, hloop, rfl⟩ := step_found hfound h
      have hstep := sentOn_step (c := c) hs hn hfound hloop
      show (loop.sentOn c).length ≤ greetings c loop + _
      omega

/-- **The packets of a connection are its bytes.** In every run of a HOST, with any bytes on any
number of connections, any split of them over the reads and any interleaving: the bytes that arrived
on a connection are those of its reads from it, each taken for a header, in order, followed by what
it has not read.  What it sent on the connection are at most as many packets as
bytes arrived on it, one more, and one for each read that failed. -/
theorem packets_of_run {u : UDTP} (hu : u.Started .host) {ins : List ByteInput}
    (hrun : run u ins = .ok w) (c : ℕ) :
    ∃ pieces,
      List.Forall₂ ReadAnswer.TakenFrom (events step (packetOn c) (new u) ins) pieces ∧
      (events step (arrived c) (new u) ins).flatten = pieces.flatten ++ w.streams c ∧
      (w.loop.sentOn c).length ≤ 1 + (events step (arrived c) (new u) ins).flatten.length +
        ((events step (packetOn c) (new u) ins).filter fun read => read.count < 0).length := by
  have hheard : Cut c (events step (arrived c) (new u) ins)
        (events step (packetOn c) (new u) ins) w ∧
      (w.loop.sentOn c).length ≤
        greetings c w.loop + (events step (packetOn c) (new u) ins).length := by
    refine run_induction step (new u)
      (P := fun ins w => Cut c (events step (arrived c) (new u) ins)
          (events step (packetOn c) (new u) ins) w ∧
        (w.loop.sentOn c).length ≤
          greetings c w.loop + (events step (packetOn c) (new u) ins).length) ?_ ?_ ins w hrun
    · exact ⟨⟨[], .nil, rfl⟩, Nat.zero_le _⟩
    · rintro ins v input t hv ⟨hcut, hsent⟩ hstep
      obtain ⟨found, hfound⟩ := run_hostLoop hv
      rw [events_snoc step (arrived c) hv hstep, events_snoc step (packetOn c) hv hstep]
      exact ⟨hcut.step hstep, sentOn_le_step (HostLoop.run_aligned hu hfound)
        (HostLoop.run_numbered hu hfound) hsent hstep⟩
  obtain ⟨⟨pieces, hpieces, harrived⟩, hsent⟩ := hheard
  refine ⟨pieces, hpieces, harrived, ?_⟩
  have hpackets := length_le_of_takenFrom hpieces
  have hgreeting : greetings c w.loop ≤ 1 := by
    unfold greetings
    split <;> omega
  rw [harrived, List.length_append]
  omega

/-- A peer is accepted and sends the twelve bytes of a handshake. -/
def oneHandshake : List ByteInput :=
  List.replicate 5 (.step .connecting) ++
    .arrives 1 [12, 0, 0, 0, 1, 0, 0, 0, 217, 0, 0, 0] ::
      List.replicate 8 (.step (.reading { (default : ReadAnswer) with count := 8 }))

/-- The HOST reads it in two pieces. -/
theorem packets_of_run_oneHandshake :
    ∃ w, run (.startedIn .host) oneHandshake = .ok w ∧
      (events step (packetOn 1) (new (.startedIn .host)) oneHandshake).length = 2 ∧
      ∃ pieces,
        List.Forall₂ ReadAnswer.TakenFrom
          (events step (packetOn 1) (new (.startedIn .host)) oneHandshake) pieces ∧
        (events step (arrived 1) (new (.startedIn .host)) oneHandshake).flatten =
          pieces.flatten ++ w.streams 1 ∧
        (w.loop.sentOn 1).length ≤
          1 + (events step (arrived 1) (new (.startedIn .host)) oneHandshake).flatten.length +
            ((events step (packetOn 1) (new (.startedIn .host)) oneHandshake).filter
              fun read => read.count < 0).length :=
  ⟨_, rfl, rfl, packets_of_run (UDTP.startedIn_started .host) rfl 1⟩

end ByteHost

end Udtp
