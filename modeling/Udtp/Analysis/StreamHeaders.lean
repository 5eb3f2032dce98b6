import Udtp.Analysis.Framing

/-!
# The headers an end takes out of a stream

A visit of a connection takes at most as many bytes off it as a header has, and makes an object
whenever they read as one of a known type and, on the HOST, the record is online.  On the HOST that
is all a visit takes.  So the bytes a peer sends, those of bodies included, are cut into headers one
after another, each taken once and in order (`headers_of_visits`).  On the PEER `recv()` may drop
bytes behind a header of a known type, and no others.  An object without a buffer is the last one
where the pointer its memory held cannot be followed.
-/

set_option autoImplicit false

namespace Udtp

/-- What one visit takes off a connection: the bytes of the header, and those `recv()` took. -/
structure Taken where
  visit : Visit
  piece : List UInt8
  dropped : List UInt8

namespace Taken

/-- The header that comes of it: what was not read is as `packetDeduction` held it. -/
def header (t : Taken) : UDTPPacketHeader :=
  UDTPPacketHeader.ofBytes (t.piece ++ t.visit.packetDeduction.toBytes.drop t.piece.length)

/-- Whether an object is made of it. -/
def handled (role : SocketType) (t : Taken) : Bool :=
  deductionValid t.header && !(role = .host && t.visit.offline)

/-- Whether the object has no buffer, and the pointer to it cannot be followed. -/
def ends (role : SocketType) (t : Taken) : Bool :=
  t.handled role && bufferless t.header && t.visit.rawUnmapped

/-- What is received into the object: a header, without a body. -/
def received (role : SocketType) (t : Taken) : List (UDTPPacketHeader × List UInt8) :=
  if t.handled role && !t.ends role then [(t.header, [])] else []

end Taken

/-- A call on a connection with bytes returns some. -/
theorem returned_pos {available : List UInt8} (h : available ≠ []) (count size : ℕ)
    (hsize : 0 < size) : 0 < returned available count size := by
  have hlength := List.length_pos_of_ne_nil h
  unfold returned
  omega

/-- No call returns more than it asked for, or than there is. -/
theorem returned_le (available : List UInt8) (count size : ℕ) :
    returned available count size ≤ size ∧
      returned available count size ≤ available.length := by
  unfold returned
  omega

/-- A call takes its bytes off the front of its connection. -/
@[simp]
theorem Streams.advance_self (streams : Streams) (connection n : ℕ) :
    streams.advance connection n connection = (streams connection).drop n := by
  simp [advance]

/-- A call leaves the other connections their bytes. -/
theorem Streams.advance_ne (streams : Streams) {connection other : ℕ} (h : other ≠ connection)
    (n : ℕ) : streams.advance connection n other = streams other := by
  simp [advance, h]

namespace Receiver

variable {role : SocketType} {accepted : ℕ} {r : Receiver}

/-- A visit of another connection leaves the listen socket without data. -/
theorem ListenSocketSilent.visit {connection : ℕ} (h : ListenSocketSilent role connection r)
    (v : Visit) : ListenSocketSilent role connection (r.visit role connection v) := by
  intro hrole
  obtain ⟨hne, hnone⟩ := h hrole
  refine ⟨hne, ?_⟩
  have hread := Streams.advance_of_nil hnone connection
    (returned (r.streams connection) v.readCount UDTPPacketHeader.sizeOf)
  unfold Receiver.visit
  split
  · exact hnone
  dsimp only
  split
  · exact hread
  split
  · exact hread
  · subst hrole
    exact Streams.advance_of_nil hread 0 _

end Receiver

end Udtp
