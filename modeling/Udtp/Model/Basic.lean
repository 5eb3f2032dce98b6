import Mathlib.Data.Int.Basic
import Udtp.Computation.LittleEndian

/-!
# Codes, settings and surroundings

The enumerations and settings every other part of the model reads, and the answers of
the operating system one call may see.  A C++ enumeration filled from the network or
from memory nobody wrote holds any integer, so each has a case for a value that names
none of its enumerators.

A function whose C++ body can run off its end without a `return` has no determined
result.  Where that result is used, it is taken from the `Environment`; so is the
contents of the memory an object is constructed in, so that a member no constructor
assigns has an arbitrary value.
-/

set_option autoImplicit false

namespace Udtp

/-- What ends a run of the program: undefined behaviour of a pointer or of a container,
or a trap, or a call whose failure nobody looks at. -/
inductive Fault
  /-- `get_peer()` returned `NULL` and the result was used. -/
  | nullPeer
  /-- An element of a vector was read past its end. -/
  | indexOutOfRange
  | divisionByZero
  /-- `front()` of an empty queue. -/
  | frontOfEmptyQueue
  /-- `erase()` at a position that is not in the vector. -/
  | eraseOutOfRange
  /-- A pointer that nobody assigned was followed, and held no address that can be read. -/
  | wildPointer
  /-- `sem_post()` failed on a full semaphore, and the token is missing from then on. -/
  | semaphoreFull
  deriving DecidableEq, Repr

/-! ## Enumerations -/

/-- SRCLINE: UDTPPacket.h:11-14 -/
inductive TransferType
  | push
  | pull
  | unknown (value : UInt32)
  deriving DecidableEq, Inhabited

/-- SRCLINE: UDTPPacket.h:15-22 -/
inductive PacketType
  | packet
  | handshake
  | header
  | path
  | chunk
  | acknowledge
  | unknown (value : UInt32)
  deriving DecidableEq, Inhabited

/-- SRCLINE: UDTPPacket.h:25-44 -/
inductive ResponseCode
  | responseStart
  | responseNone
  | responseApproved
  | responseRejected
  | responseRetry
  | responseCriticalError
  | responseConfirm
  | responseFileNotFound
  | responseFileExistsAlready
  | responseListingFound
  | responseInvalidPath
  | unknown (value : UInt32)
  deriving DecidableEq, Inhabited

/-- SRCLINE: UDTPAcknowledge.h:6-16 -/
inductive AcknowledgeType
  | packetCount
  | missing
  | missingSent
  | addThread
  | removeThread
  | complete
  | unknown (value : UInt32)
  deriving DecidableEq, Inhabited

/-- SRCLINE: UDTPThread.h:7-10 -/
inductive ThreadType
  | incoming
  | outgoing
  deriving DecidableEq, Inhabited

/-- SRCLINE: UDTP.h:47-51 -/
inductive SocketType
  | host
  | peer
  deriving DecidableEq, Inhabited

/-- The results of `start()` its body can return.
SRCLINE: UDTP.h:52-64 -/
inductive SocketReturn
  | success
  | alreadyRunning
  | socketNotInit
  | couldNotStartMutex
  deriving DecidableEq, Inhabited

/-- SRCLINE: UDTPPeer.h:30-38 -/
inductive InitProcessEvent
  | listenSocket
  | listenThread
  | mutexFrameworkInit
  | mutexSelfInit
  | queueThreads
  | handshake
  | complete
  deriving DecidableEq, Inhabited

/-- The number of an event, which is the bit it is recorded in. -/
def InitProcessEvent.bit : InitProcessEvent → ℕ
  | .listenSocket => 0x00
  | .listenThread => 0x01
  | .mutexFrameworkInit => 0x02
  | .mutexSelfInit => 0x03
  | .queueThreads => 0x04
  | .handshake => 0x05
  | .complete => 0x06

/-- The integer a response code is stored as. -/
def ResponseCode.value : ResponseCode → UInt32
  | .responseStart => 0xD9
  | .responseNone => 0xF0
  | .responseApproved => 0xF1
  | .responseRejected => 0xF2
  | .responseRetry => 0xF7
  | .responseCriticalError => 0xF8
  | .responseConfirm => 0xD8
  | .responseFileNotFound => 0xF3
  | .responseFileExistsAlready => 0xF4
  | .responseListingFound => 0xF5
  | .responseInvalidPath => 0xF6
  | .unknown value => value

/-- The response code an integer stands for. -/
def ResponseCode.ofValue (value : UInt32) : ResponseCode :=
  if value = 0xD9 then .responseStart
  else if value = 0xF0 then .responseNone
  else if value = 0xF1 then .responseApproved
  else if value = 0xF2 then .responseRejected
  else if value = 0xF7 then .responseRetry
  else if value = 0xF8 then .responseCriticalError
  else if value = 0xD8 then .responseConfirm
  else if value = 0xF3 then .responseFileNotFound
  else if value = 0xF4 then .responseFileExistsAlready
  else if value = 0xF5 then .responseListingFound
  else if value = 0xF6 then .responseInvalidPath
  else .unknown value

/-- The integer a packet type is stored as. -/
def PacketType.value : PacketType → UInt32
  | .packet => 0x00
  | .handshake => 0x01
  | .header => 0x02
  | .path => 0x03
  | .chunk => 0x04
  | .acknowledge => 0x05
  | .unknown value => value

/-- The packet type an integer stands for. -/
def PacketType.ofValue (value : UInt32) : PacketType :=
  if value = 0x00 then .packet
  else if value = 0x01 then .handshake
  else if value = 0x02 then .header
  else if value = 0x03 then .path
  else if value = 0x04 then .chunk
  else if value = 0x05 then .acknowledge
  else .unknown value

/-- One comparison of `ofValue`: a code is chosen only for its own integer. -/
theorem ResponseCode.value_ite {value number : UInt32} {c rest : ResponseCode}
    (hc : c.value = number) (hrest : rest.value = value) :
    (if value = number then c else rest).value = value := by
  split
  · rename_i h
    rw [hc, h]
  · exact hrest

/-- A response code keeps the number it was read from. -/
@[simp]
theorem ResponseCode.value_ofValue (value : UInt32) :
    (ResponseCode.ofValue value).value = value := by
  unfold ofValue
  iterate 11 refine value_ite rfl ?_
  rfl

/-- The number of `ResponseStart` is read as `ResponseStart`. -/
@[simp]
theorem ofValue_responseStart :
    ResponseCode.ofValue (ResponseCode.value .responseStart) = .responseStart := rfl

/-! ## Settings -/

/-- The settings the modelled functions read through `setup()`.
SRCLINE: UDTPSetup.h:33-52 -/
structure UDTPSetup where
  version : UInt16
  chunkSizeAgreement : UInt16
  maxChunkSize : UInt16
  minChunkSize : UInt16
  startingNumberOfFileThreads : UInt16
  maxNumberOfFlowSockets : UInt16
  maxNumberOfFileThreads : UInt16
  maxMemoryUsagePerFile : UInt32
  criticalLossPacketPercentage : UInt32
  satisfactoryLossPacketPercentage : UInt32
  deriving DecidableEq, Inhabited

/-- SRCLINE: UDTPSetup.h:128-143 -/
def UDTPSetup.defaults : UDTPSetup where
  version := 0x0001
  chunkSizeAgreement := 420
  maxChunkSize := 1024
  minChunkSize := 256
  startingNumberOfFileThreads := 1
  maxNumberOfFlowSockets := 5
  maxNumberOfFileThreads := 5
  maxMemoryUsagePerFile := 5000
  criticalLossPacketPercentage := 80
  satisfactoryLossPacketPercentage := 95

/-! ## The operating system -/

/-- A descriptor together with the connection it refers to.  The program handles the
descriptor only; `connection` is the kernel's side, `0` for the socket opened by
`start()` and otherwise the number of the `accept()` call that returned it. -/
structure Socket where
  descriptor : UInt32
  connection : ℕ
  deriving DecidableEq, Inhabited

/-- SRCLINE: UDTPAddress.h:10-13 -/
structure SockAddrIn where
  sinAddr : UInt32
  sinPort : UInt16
  deriving DecidableEq, Inhabited

/-- The local files: the length of the file at a path, `none` where none can be opened. -/
abbrev FileSystem := String → Option ℕ

/-- `tellg()` at the end of a stream opened on a path; `-1` where it could not be
opened. -/
def FileSystem.tellg (fs : FileSystem) (path : String) : ℤ :=
  match fs path with
  | none => -1
  | some length => length

/-- `SEM_VALUE_MAX` -/
def semValueMax : ℕ := 2147483647

/-- `sem_init()` refuses an initial value above `SEM_VALUE_MAX`. -/
def semInit (value : ℕ) : Bool := value ≤ semValueMax

end Udtp
