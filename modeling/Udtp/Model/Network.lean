import Mathlib.Logic.Function.Basic
import Udtp.Model.PeerLoop
import Udtp.Model.Requests

/-!
# A HOST and its PEERs

All endpoints at work at once: the loop of a HOST, a loop for each PEER that connects to it, and
the calls of `send_file()` and `get_file()` that the programs around them make.  Any of them may
go on next.  The PEER with a number is the one whose connection the HOST accepts with that number.

What a read yields is the input of the step here as well.  Neither end gets the bytes of a body
into its packet, and how many bytes a read takes is up to TCP, so nothing ties what an end reads
to what the other sent.
-/

set_option autoImplicit false

namespace Udtp

/-- A command of an endpoint, with the memory of the header it sends. -/
inductive Request
  | sendFile (env : Environment) (memory : UDTPHeader) (path : String)
  | getFile (env : Environment) (memory : UDTPHeader) (path : String)

def Request.handle (u : UDTP) :
    Request → Except Fault (Option TransferReturn × List Sent × UDTP)
  | sendFile env memory path => u.sendFile env memory path
  | getFile env memory path => u.getFile env memory path

structure Network where
  host : HostLoop
  peers : ℕ → PeerLoop

/-- Which endpoint goes on. -/
inductive NetworkInput
  | host (input : HostInput)
  | peer (number : ℕ) (input : PeerInput)
  | hostRequest (request : Request)
  | peerRequest (number : ℕ) (request : Request)

/-- Something that reads as a header that approves a pull. -/
def ReadAnswer.pullApproval : ReadAnswer :=
  { (default : ReadAnswer) with
    count := 8
    packetDeduction := ⟨12, 0, .header⟩
    contents := { (default : Contents) with
      header := { (default : UDTPHeader) with
        responseCode := .responseApproved, transferType := .pull } } }

namespace Network

/-- A HOST and PEERs that were started. -/
def new (host : UDTP) (peers : ℕ → UDTP) : Network where
  host := HostLoop.new host
  peers := fun number => PeerLoop.new (peers number)

def setPeer (number : ℕ) (peer : PeerLoop) (s : Network) : Network :=
  { s with peers := Function.update s.peers number peer }

/-- The PEER under the changed number is the changed one. -/
@[simp]
theorem setPeer_peers_self (number : ℕ) (peer : PeerLoop) (s : Network) :
    (s.setPeer number peer).peers number = peer := Function.update_self _ _ _

/-- The other PEERs stay as they were. -/
@[simp]
theorem setPeer_peers_ne {number other : ℕ} (h : other ≠ number) (peer : PeerLoop) (s : Network) :
    (s.setPeer number peer).peers other = s.peers other := Function.update_of_ne h _ _

def step (s : Network) : NetworkInput → Except Fault Network
  | .host input => (s.host.step input).map fun host => { s with host := host }
  | .peer number input => ((s.peers number).step input).map fun peer => s.setPeer number peer
  | .hostRequest request =>
    (request.handle s.host.udtp).map fun r =>
      { s with host := { s.host with udtp := r.2.2, sent := s.host.sent ++ r.2.1 } }
  | .peerRequest number request =>
    (request.handle (s.peers number).udtp).map fun r =>
      s.setPeer number
        { s.peers number with udtp := r.2.2, sent := (s.peers number).sent ++ r.2.1 }

abbrev run (host : UDTP) (peers : ℕ → UDTP) (ins : List NetworkInput) : Except Fault Network :=
  StepMachine.run step (new host peers) ins

end Network

end Udtp
