import Mathlib.Logic.Function.Basic
import Udtp.Model.LoneConnection
import Udtp.Model.Stream

/-!
# A HOST on byte streams

The loop of the HOST once more, with its reads tied to the bytes that arrive.  Every connection has
a stream, onto which its peer may put bytes at any time and from which `read()` takes those of a
header, as many as TCP gives it.  They go into the local variable `packetDeduction`, which keeps
its place on the stack from one round to the next: what a call does not overwrite, of whatever
connection it was, is still there for the next one.  `recv()` is called with the listen socket and
gets nothing, so that a packet object has whatever contents its memory held.
-/

set_option autoImplicit false

namespace Udtp

/-- `packetDeduction` is what the last `read()` left in the variable, and `none` before the first.
`closed` are the connections whose peer will send no more. -/
structure ByteHost where
  loop : HostLoop
  packetDeduction : Option UDTPPacketHeader
  streams : Streams
  closed : ℕ → Bool

/-- What goes on next.  In a step of the loop `read.count` is how many bytes TCP would give to
`read()`, or negative where the call fails, and `read.packetDeduction` is what the memory of the
variable holds before anything was read into it. -/
inductive ByteInput
  | arrives (connection : ℕ) (bytes : List UInt8)
  | closes (connection : ℕ)
  | step (input : HostInput)

namespace ByteHost

/-- A HOST that was started. -/
def new (u : UDTP) : ByteHost where
  loop := HostLoop.new u
  packetDeduction := none
  streams := fun _ => []
  closed := fun _ => false

/-- What the variable holds before a call of `read()`.
SRCLINE: UDTP.cpp:243 -/
def held (w : ByteHost) (read : ReadAnswer) : UDTPPacketHeader :=
  w.packetDeduction.getD read.packetDeduction

/-- How many bytes `read()` takes off a connection. -/
def taken (w : ByteHost) (connection : ℕ) (read : ReadAnswer) : ℕ :=
  if read.count < 0 then 0
  else returned (w.streams connection) read.count.toNat UDTPPacketHeader.sizeOf

/-- What `read()` yields; `none` where it waits for data.
SRCLINE: UDTP.cpp:243-244 -/
def reads (w : ByteHost) (connection : ℕ) (read : ReadAnswer) : Option ReadAnswer :=
  if read.count < 0 then some { read with packetDeduction := w.held read }
  else
    match w.streams connection with
    | [] =>
      if w.closed connection then some { read with count := 0, packetDeduction := w.held read }
      else none
    | _ :: _ => some { read with
        count := w.taken connection read
        packetDeduction := readHeader read.count.toNat (w.held read) (w.streams connection) }

/-- What a step of the loop finds, unless it waits. -/
def found (w : ByteHost) (input : HostInput) : Option HostInput :=
  match w.loop.readsFrom with
  | none => some input
  | some connection => (w.reads connection input.read).map fun read => { input with read := read }

/-- What is in the variable after a step of the loop that finds this. -/
def left (w : ByteHost) (found : HostInput) : Option UDTPPacketHeader :=
  match w.loop.readsFrom with
  | none => w.packetDeduction
  | some _ => some found.read.packetDeduction

/-- The streams after a step of the loop. -/
def rest (w : ByteHost) (input : HostInput) : Streams :=
  match w.loop.readsFrom with
  | none => w.streams
  | some connection => w.streams.advance connection (w.taken connection input.read)

def step (w : ByteHost) : ByteInput → Except Fault ByteHost
  | .arrives connection bytes =>
    .ok (if w.closed connection then w
      else { w with
        streams := Function.update w.streams connection (w.streams connection ++ bytes) })
  | .closes connection => .ok { w with closed := Function.update w.closed connection true }
  | .step input =>
    match w.found input with
    | none => .ok w
    | some found =>
      (w.loop.step found).map fun loop =>
        { w with loop := loop, packetDeduction := w.left found, streams := w.rest input }

abbrev run (u : UDTP) (ins : List ByteInput) : Except Fault ByteHost :=
  StepMachine.run step (new u) ins

/-! ## Events -/

/-- The bytes that arrive on a connection. -/
def arrived (connection : ℕ) (w : ByteHost) : ByteInput → Option (List UInt8)
  | .arrives other bytes =>
    if other = connection ∧ w.closed connection = false then some bytes else none
  | _ => none

/-- What the loop reads from a connection, if it is not the end. -/
def packetOn (connection : ℕ) (w : ByteHost) : ByteInput → Option ReadAnswer
  | .step input =>
    match w.found input with
    | none => none
    | some found =>
      match w.loop.connectionEvent connection found with
      | some (.packet _ read) => some read
      | _ => none
  | _ => none

/-- What the HOST has to do with the outside, told by the bytes it reads: `bytes` are those a call
of `read()` takes off the connection, and none where it fails. -/
inductive Event
  | accepted (env : Environment) (answer : AcceptAnswer)
  | packet (connection : ℕ) (env : Environment) (bytes : List UInt8) (contents : Contents)
  | disconnect (connection : ℕ) (i : ℕ)
  | removal

/-- An event of the loop on a step that takes some bytes. -/
def ofHostEvent (bytes : List UInt8) : HostEvent → Option Event
  | .poll => none
  | .accepted env answer => some (.accepted env answer)
  | .packet connection env read => some (.packet connection env bytes read.contents)
  | .disconnect connection i => some (.disconnect connection i)
  | .removal => some .removal

/-- The bytes a step of the loop takes. -/
def piece (w : ByteHost) (input : HostInput) : List UInt8 :=
  match w.loop.readsFrom with
  | none => []
  | some connection => (w.streams connection).take (w.taken connection input.read)

/-- The event of a step, if it has one.  What arrives, and a call of `poll()`, is none. -/
def event (w : ByteHost) : ByteInput → Option Event
  | .step input => (w.found input).bind fun found =>
      (w.loop.event found).bind (ofHostEvent (w.piece input))
  | _ => none

/-- The event of a connection, told by the bytes that were read from it and by nothing else. -/
def retold (bytes : List UInt8) : ConnectionEvent → ConnectionEvent
  | .packet env read => .packet env ⟨bytes.length, .ofBytes bytes, read.contents⟩
  | other => other

/-- The event of a connection on a step, if it has one. -/
def ownEvent (connection : ℕ) (w : ByteHost) : ByteInput → Option ConnectionEvent
  | .step input => (w.found input).bind fun found =>
      (w.loop.connectionEvent connection found).map (retold (w.piece input))
  | _ => none

/-! ## Whole headers -/

/-- A call of `read()` on a connection gets a whole header, or finds no data. -/
def WholeRead (w : ByteHost) (connection : ℕ) (read : ReadAnswer) : Prop :=
  0 ≤ read.count ∧ (w.streams connection = [] ∨
    (UDTPPacketHeader.sizeOf ≤ read.count ∧
      UDTPPacketHeader.sizeOf ≤ (w.streams connection).length))

/-- Where the step reads from the connection, and the record of it is online, the call gets a whole
header or finds no data. -/
def ReadsWhole (connection : ℕ) (w : ByteHost) : ByteInput → Prop
  | .step input => w.loop.readsFrom = some connection → w.loop.readsOnline = true →
      w.WholeRead connection input.read
  | _ => True

instance (w : ByteHost) (connection : ℕ) (read : ReadAnswer) :
    Decidable (w.WholeRead connection read) :=
  inferInstanceAs (Decidable (_ ∧ _))

instance (connection : ℕ) (w : ByteHost) (input : ByteInput) :
    Decidable (w.ReadsWhole connection input) :=
  match input with
  | .step _ => inferInstanceAs (Decidable (_ → _ → _))
  | .arrives _ _ => isTrue trivial
  | .closes _ => isTrue trivial

/-! ## The loop behind the streams -/

variable {w t : ByteHost}

/-- A step of the loop that does not wait. -/
theorem step_found {input : HostInput} {found : HostInput} (hfound : w.found input = some found)
    (h : w.step (.step input) = .ok t) :
    ∃ loop, w.loop.step found = .ok loop ∧
      t = { w with loop := loop, packetDeduction := w.left found, streams := w.rest input } := by
  rw [step, hfound] at h
  obtain ⟨loop, hloop, rfl⟩ := StepMachine.map_ok h
  exact ⟨loop, hloop, rfl⟩

/-- A step leaves the loop alone, or is a step of it. -/
theorem step_loop {input : ByteInput} (h : w.step input = .ok t) :
    t.loop = w.loop ∨ ∃ found, w.loop.step found = .ok t.loop := by
  cases input with
  | arrives connection bytes =>
    left
    cases h
    split
    · rfl
    · rfl
  | closes connection =>
    left
    cases h
    rfl
  | step input =>
    cases hfound : w.found input with
    | none =>
      left
      rw [step, hfound] at h
      cases h
      rfl
    | some found =>
      obtain ⟨loop, hloop, rfl⟩ := step_found hfound h
      exact Or.inr ⟨found, hloop⟩

/-- **What the streams yield, the loop can read.** Every run on byte streams is one of the loop that
lets reads yield anything. -/
theorem run_hostLoop {u : UDTP} {ins : List ByteInput} (hrun : run u ins = .ok w) :
    ∃ found, HostLoop.run u found = .ok w.loop := by
  refine StepMachine.run_preserves step
    (fun v => ∃ found, HostLoop.run u found = .ok v.loop) ?_ ⟨[], rfl⟩ hrun
  rintro v input t ⟨found, hfound⟩ hstep
  rcases step_loop hstep with hsame | ⟨next, hnext⟩
  · exact ⟨found, by rw [hsame, hfound]⟩
  · refine ⟨found ++ [next], ?_⟩
    exact (StepMachine.run_snoc_ok HostLoop.step _ _ found next).mpr ⟨v.loop, hfound, hnext⟩

end ByteHost

end Udtp
