import Udtp.Model.HostLoop

/-!
# The HOST next to its flow threads

The threads that `add_thread()` starts for a record count the chunks they receive in the record
itself, while `listenThread` goes through its rounds.  The count is all of a record that both
sides use: an acknowledge divides by it.
-/

set_option autoImplicit false

namespace Udtp

/-- An acknowledge with a code, made in memory that holds `peerID` for the position. -/
def ReadAnswer.acknowledge (peerID : ℕ) (type : AcknowledgeType) (code : ResponseCode) :
    ReadAnswer :=
  { (default : ReadAnswer) with
    count := 8
    packetDeduction := ⟨0, 0, .acknowledge⟩
    contents := { (default : Contents) with
      acknowledge := { (default : UDTPAcknowledge) with
        peerID := peerID
        acknowledgeType := type
        acknowledgeResponseCode := code } } }

namespace HostLoop

end HostLoop

end Udtp
