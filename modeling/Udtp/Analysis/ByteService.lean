import Udtp.Analysis.HostBytes

/-!
# The service of a connection, on byte streams

The records of a HOST do not see each other, but the calls of `read()` share one variable: where a
call fails, or gets less than a header, the packet is taken for what another connection left there.
As long as every call that serves a connection gets a whole header, the bytes of that connection
fix its headers (`deduction_of_whole`), and the connection is an independent party of the HOST on
byte streams, too (`independent`).  Then it is served as if it were alone (`served_alone`), and in
any two runs alike (`same_service`).

What a call that got less leaves is told by its bytes and by what was held before
(`deduction_of_found`).
-/

set_option autoImplicit false

namespace Udtp

open StepMachine PartyView

/-- The variable after some bytes were read over it.  A call that read none left it alone. -/
def UDTPPacketHeader.readOver (bytes : List UInt8) (before : UDTPPacketHeader) :
    UDTPPacketHeader :=
  if bytes = [] then before else ofBytes (bytes ++ before.toBytes.drop bytes.length)

/-- A whole header leaves nothing of what was there before. -/
theorem UDTPPacketHeader.readOver_of_whole {bytes : List UInt8}
    (h : bytes.length = UDTPPacketHeader.sizeOf) (before : UDTPPacketHeader) :
    readOver bytes before = ofBytes bytes := by
  have hne : bytes ≠ [] := by
    rintro rfl
    cases h
  have hdrop : before.toBytes.drop bytes.length = [] := by
    rw [h, ← toBytes_length before, List.drop_length]
  rw [readOver, if_neg hne, hdrop, List.append_nil]

namespace HostLoop

variable {s : HostLoop} {c : ℕ}

/-- The connection the loop reads from, and its record. -/
theorem Aligned.record_of_readsFrom (h : s.Aligned) (hreads : s.readsFrom = some c) :
    ∃ i peer, s.udtp.getPeer i = some peer ∧ peer.listenSocket.connection = c ∧
      s.readsOnline = peer.isOnline := by
  unfold readsFrom at hreads
  split at hreads
  case h_2 => cases hreads
  case h_1 i hphase =>
    split at hreads
    · cases hreads
    rename_i entry hentry
    split at hreads
    case isFalse => cases hreads
    obtain rfl := Option.some.inj hreads
    have hlt : i < s.udtp.listPeers.length :=
      h.length_eq ▸ (List.getElem?_eq_some_iff.mp hentry).1
    have hpeer : s.udtp.getPeer i = some s.udtp.listPeers[i] := List.getElem?_eq_getElem hlt
    refine ⟨i, s.udtp.listPeers[i], hpeer, ?_, ?_⟩
    · rw [h.socket_eq hentry hpeer]
    · simp [readsOnline, hphase, hpeer]

/-- A packet is what the loop reads from its connection. -/
theorem readsFrom_of_packet {input : HostInput} {env : Environment} {read : ReadAnswer}
    (h : s.event input = some (.packet c env read)) :
    s.readsFrom = some c ∧ env = input.environment ∧ read = input.read ∧
      input.read.count ≠ 0 := by
  cases hreads : s.readsFrom with
  | none => exact absurd h (event_of_not_readsFrom hreads input c env read)
  | some number =>
    rcases event_of_readsFrom hreads input with ⟨hcount, hpacket⟩ | ⟨-, i, hend⟩
    · rw [hpacket] at h
      cases h
      exact ⟨rfl, rfl, rfl, hcount⟩
    · rw [hend] at h
      cases h

/-- A packet of a connection is one of the loop. -/
theorem event_of_connectionEvent {input : HostInput} {env : Environment} {read : ReadAnswer}
    (h : s.connectionEvent c input = some (.packet env read)) :
    s.event input = some (.packet c env read) := by
  unfold connectionEvent at h
  split at h
  · split at h <;> cases h
  · rename_i number env' read' hevent
    split at h
    · rename_i hnumber
      cases h
      rw [hevent, hnumber]
    · cases h
  · split at h <;> cases h
  · cases h

end HostLoop

namespace ByteHost

variable {w t : ByteHost} {c : ℕ} {input found : HostInput}

/-! ## One read -/

/-- A step of the loop finds what its input says, but for the count and the header it reads. -/
theorem found_environment (hfound : w.found input = some found) :
    found.environment = input.environment ∧ found.accept = input.accept ∧
      found.poll = input.poll ∧ found.read.contents = input.read.contents := by
  unfold ByteHost.found at hfound
  split at hfound
  · cases hfound
    exact ⟨rfl, rfl, rfl, rfl⟩
  rename_i connection hreads
  obtain ⟨yielded, hyielded, rfl⟩ := Option.map_eq_some_iff.mp hfound
  refine ⟨rfl, rfl, rfl, ?_⟩
  unfold reads at hyielded
  split at hyielded
  · cases hyielded
    rfl
  split at hyielded
  · split at hyielded
    · cases hyielded
      rfl
    · cases hyielded
  · cases hyielded
    rfl

/-- What `read()` leaves in the variable: the bytes it took, over what was held. -/
theorem deduction_of_found (hreads : w.loop.readsFrom = some c)
    (hfound : w.found input = some found) :
    found.read.packetDeduction = .readOver (w.piece input) (w.held input.read) := by
  have hpiece : w.piece input = (w.streams c).take (w.taken c input.read) := by
    simp [piece, hreads]
  simp only [ByteHost.found, hreads, Option.map_eq_some_iff] at hfound
  obtain ⟨yielded, hyielded, rfl⟩ := hfound
  have hnothing : w.piece input = [] → yielded.packetDeduction = w.held input.read →
      yielded.packetDeduction = .readOver (w.piece input) (w.held input.read) := by
    intro hnil hheld
    rw [UDTPPacketHeader.readOver, if_pos hnil, hheld]
  unfold reads at hyielded
  split at hyielded
  · rename_i hfailed
    cases hyielded
    exact hnothing (by simp [hpiece, taken, hfailed]) rfl
  rename_i hcount
  split at hyielded
  · rename_i hnone
    split at hyielded
    · cases hyielded
      exact hnothing (by simp [hpiece, hnone]) rfl
    · cases hyielded
  · rename_i first rest hsome
    cases hyielded
    have hne : w.streams c ≠ [] := by simp [hsome]
    have htaken : w.taken c input.read =
        returned (w.streams c) input.read.count.toNat UDTPPacketHeader.sizeOf := if_neg hcount
    have hpos : 0 < w.taken c input.read := htaken ▸ returned_pos hne _ _ (by decide)
    have hlength : (w.piece input).length = w.taken c input.read := by
      rw [hpiece, List.length_take, Nat.min_eq_left (w.taken_le c input.read).2]
    have hsome' : w.piece input ≠ [] := List.ne_nil_of_length_pos (by omega)
    rw [UDTPPacketHeader.readOver, if_neg hsome', hlength, hpiece, htaken]
    rfl

/-- Of a call that gets whole headers only, a packet takes a whole one. -/
theorem piece_of_whole (hreads : w.loop.readsFrom = some c) (hfound : w.found input = some found)
    (hwhole : w.WholeRead c input.read) (hpacket : found.read.count ≠ 0) :
    (w.piece input).length = UDTPPacketHeader.sizeOf := by
  obtain ⟨hcount, hnone | ⟨hsize, havailable⟩⟩ := hwhole
  · -- without data the call waits, or finds the end of the connection
    simp only [ByteHost.found, hreads, Option.map_eq_some_iff] at hfound
    obtain ⟨yielded, hyielded, rfl⟩ := hfound
    simp only [reads, if_neg hcount.not_gt, hnone] at hyielded
    split at hyielded
    · cases hyielded
      exact absurd rfl hpacket
    · cases hyielded
  · have htaken : w.taken c input.read = UDTPPacketHeader.sizeOf := by
      rw [taken, if_neg hcount.not_gt, returned]
      omega
    simp only [piece, hreads, List.length_take, htaken]
    omega

/-- **The bytes of a connection fix its headers**, where its calls get whole ones. -/
theorem deduction_of_whole (hreads : w.loop.readsFrom = some c)
    (hfound : w.found input = some found) (hwhole : w.WholeRead c input.read)
    (hpacket : found.read.count ≠ 0) :
    found.read.packetDeduction = .ofBytes (w.piece input) := by
  rw [deduction_of_found hreads hfound, UDTPPacketHeader.readOver_of_whole]
  exact piece_of_whole hreads hfound hwhole hpacket

/-! ## One step -/

/-- The loop does not go on: something arrives, or it waits for data. -/
def Waits (w : ByteHost) : ByteInput → Prop
  | .step input => w.found input = none
  | _ => True

/-- Nothing happens while the loop waits. -/
theorem Waits.event {input : ByteInput} (h : w.Waits input) : w.event input = none := by
  cases input with
  | step input =>
    have hnone : w.found input = none := h
    simp [ByteHost.event, hnone]
  | arrives connection bytes => rfl
  | closes connection => rfl

/-- Nothing happens to a connection while the loop waits. -/
theorem Waits.ownEvent {input : ByteInput} (h : w.Waits input) (c : ℕ) :
    w.ownEvent c input = none := by
  cases input with
  | step input =>
    have hnone : w.found input = none := h
    simp [ByteHost.ownEvent, hnone]
  | arrives connection bytes => rfl
  | closes connection => rfl

/-- A step leaves the loop alone, or is a step of it. -/
theorem step_cases {input : ByteInput} (h : w.step input = .ok t) :
    (t.loop = w.loop ∧ t.packetDeduction = w.packetDeduction ∧ w.Waits input) ∨
      ∃ input' found, input = .step input' ∧ w.found input' = some found ∧
        w.loop.step found = .ok t.loop ∧ t.packetDeduction = w.left found := by
  cases input with
  | arrives connection bytes =>
    left
    cases h
    split
    · exact ⟨rfl, rfl, trivial⟩
    · exact ⟨rfl, rfl, trivial⟩
  | closes connection =>
    left
    cases h
    exact ⟨rfl, rfl, trivial⟩
  | step input =>
    cases hfound : w.found input with
    | none =>
      left
      rw [step, hfound] at h
      cases h
      exact ⟨rfl, rfl, hfound⟩
    | some found =>
      right
      obtain ⟨loop, hloop, rfl⟩ := step_found hfound h
      exact ⟨input, found, rfl, hfound, hloop, rfl⟩

/-- What is shown to a connection that is served by whole headers is told by its bytes. -/
theorem next_ownEvent (hs : w.loop.Aligned) (hfound : w.found input = some found)
    (hwhole : w.ReadsWhole c (.step input)) :
    (w.loop.connectionEvent c found).elim (w.loop.connectionView c)
        (ConnectionView.next c (w.loop.connectionView c)) =
      (w.ownEvent c (.step input)).elim (w.loop.connectionView c)
        (ConnectionView.next c (w.loop.connectionView c)) := by
  have hown : w.ownEvent c (.step input) =
      (w.loop.connectionEvent c found).map (retold (w.piece input)) := by
    simp [ownEvent, hfound]
  rw [hown]
  cases hevent : w.loop.connectionEvent c found with
  | none => rfl
  | some e =>
    cases e with
    | accepted env answer => rfl
    | disconnect => rfl
    | packet env read =>
      have hpacket := HostLoop.event_of_connectionEvent hevent
      obtain ⟨hreads, rfl, rfl, hcount⟩ := HostLoop.readsFrom_of_packet hpacket
      obtain ⟨i, peer, hpeer, hconnection, honline⟩ := hs.record_of_readsFrom hreads
      rw [hs.connectionView_of_record hpeer hconnection]
      show some _ = some _
      rw [Option.some.injEq]
      cases hstate : peer.isOnline with
      | false => simp [ConnectionView.packet, hstate]
      | true =>
        have hheader := deduction_of_whole hreads hfound
          (hwhole hreads (honline.trans hstate)) hcount
        simp only [ConnectionView.packet, hheader]

/-! ## Runs -/

/-- **Independence, on byte streams.** A connection whose calls get whole headers is an independent
party of the HOST. -/
theorem independent (hc : c ≠ 0) :
    Independent ByteHost.step (ReadsWhole c) (fun w => w.loop.Aligned ∧ w.loop.Numbered)
      (fun w => w.loop.connectionView c) (ownEvent c) (ConnectionView.next c)
      (fun w => w.loop.accepted < c) where
  preserved := by
    rintro w input t hw hstep
    rcases step_cases hstep with ⟨hloop, -⟩ | ⟨input', found, rfl, hfound, hloop, -⟩
    · rwa [hloop]
    · exact (HostLoop.independent hc).preserved hw hloop
  changes := by
    rintro w input t ⟨hs, hn⟩ hwhole hstep
    rcases step_cases hstep with ⟨hloop, -, hwaits⟩ | ⟨input', found, rfl, hfound, hloop, -⟩
    · left
      rw [hloop, hwaits.ownEvent c]
      rfl
    · rw [← next_ownEvent hs hfound hwhole]
      exact HostLoop.connectionView_step hs hn hc hloop
  dropped := by
    rintro w input t hw hstep hold hgone
    rcases step_cases hstep with ⟨hloop, -⟩ | ⟨input', found, rfl, hfound, hloop, -⟩
    · rwa [hloop]
    · exact (HostLoop.independent hc).dropped hw hloop hold hgone
  absent := fun hw hnew => (HostLoop.independent hc).absent hw hnew
  silent := by
    rintro w input t hw hstep hnew
    rcases step_cases hstep with ⟨hloop, -, hwaits⟩ | ⟨input', found, rfl, hfound, hloop, -⟩
    · exact ⟨by rwa [hloop] at hnew, hwaits.ownEvent c⟩
    · obtain ⟨hbefore, hnothing⟩ := (HostLoop.independent hc).silent hw hloop hnew
      exact ⟨hbefore, by simp [ownEvent, hfound, hnothing]⟩

/-- **A connection by itself.** In every run of a HOST on byte streams in which each call of
`read()` that serves a connection gets a whole header, or finds no data: what the HOST keeps for the
connection and has sent on it is what its own events lead to, told by its own bytes, when they are
handled one by one on a HOST without other peers; or the record was removed, and nothing is kept. -/
theorem served_alone {u : UDTP} (hu : u.Started .host) {ins : List ByteInput}
    (hrun : run u ins = .ok w) (hc : c ≠ 0)
    (hwhole : ∀ r input, Takes step (new u) ins r input → r.ReadsWhole c input) :
    w.loop.connectionView c = replay (ConnectionView.next c)
        (events step (ownEvent c) (new u) ins) ∨
      (c ≤ w.loop.accepted ∧ w.loop.connectionView c = none) := by
  obtain ⟨hinv, hnew⟩ := HostLoop.new_isolated hu hc
  have hview := (independent hc).view_or_dropped (s := new u) hinv hnew hrun hwhole
  rcases hview with hview | ⟨hold, hgone⟩
  · exact Or.inl hview
  · exact Or.inr ⟨Nat.not_lt.mp hold, hgone⟩

/-- A peer sends the header of a handshake, which is read whole. -/
def oneHeader : List ByteInput :=
  List.replicate 5 (.step .connecting) ++
    .arrives 1 [12, 0, 0, 0, 1, 0, 0, 0] ::
      List.replicate 3 (.step (.reading (.settings 1 420)))

/-- A connection that sends the header of one packet is served as if it were alone. -/
theorem served_alone_oneHeader :
    ∃ w, run (.startedIn .host) oneHeader = .ok w ∧ (w.loop.sentOn 1).length = 2 ∧
      (w.loop.connectionView 1 = replay (ConnectionView.next 1)
          (events step (ownEvent 1) (new (.startedIn .host)) oneHeader) ∨
        (1 ≤ w.loop.accepted ∧ w.loop.connectionView 1 = none)) :=
  ⟨_, rfl, rfl, served_alone (UDTP.startedIn_started .host) rfl Nat.one_ne_zero
    (forall_takes_of_checks step (by rfl))⟩

end ByteHost

end Udtp
