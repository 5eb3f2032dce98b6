import Udtp.Model.Basic

/-!
# Addresses

`UDTPAddress` and the two functions of the socket library it is built with.  `inet_ntoa()`
writes its text into a buffer that each thread has one of, and returns a pointer to that
buffer, which is all a `UDTPAddress` keeps of the text.
-/

set_option autoImplicit false

namespace Udtp

open LittleEndian

/-- The text in the buffer of each thread. -/
abbrev NtoaBuffers := ℕ → String

/-- The pointer to the buffer of a thread. -/
structure NtoaPointer where
  thread : ℕ
  deriving DecidableEq, Inhabited

/-- The dotted form of an address, whose first byte in memory is its first number. -/
def ntoaText (sinAddr : UInt32) : String :=
  ".".intercalate ((leBytes 4 sinAddr.toNat).map fun byte => toString byte.toNat)

/-- A call of `inet_ntoa()` on a thread: the pointer it returns, and the buffers after it. -/
def inetNtoa (thread : ℕ) (sinAddr : UInt32) (buffers : NtoaBuffers) : NtoaPointer × NtoaBuffers :=
  (⟨thread⟩, fun t => if t = thread then ntoaText sinAddr else buffers t)

/-- The bytes of a port in the order of the host. -/
def ntohs (netshort : UInt16) : UInt16 :=
  UInt16.ofNat (leValue (leBytes 2 netshort.toNat).reverse)

/-- SRCLINE: UDTPAddress.h:20-22 -/
structure UDTPAddress where
  ip : NtoaPointer
  port : UInt32
  deriving DecidableEq, Inhabited

namespace UDTPAddress

/-- The constructor, on a thread.
SRCLINE: UDTPAddress.h:10-13 -/
def new (thread : ℕ) (socketAddress : SockAddrIn) (buffers : NtoaBuffers) :
    UDTPAddress × NtoaBuffers :=
  ({ ip := (inetNtoa thread socketAddress.sinAddr buffers).1
     port := (ntohs socketAddress.sinPort).toUInt32 },
    (inetNtoa thread socketAddress.sinAddr buffers).2)

/-- The comparison of the texts is one of the pointers.
SRCLINE: UDTPAddress.h:17-19 -/
def compareWithAddress (address self : UDTPAddress) : Bool :=
  if self.ip = address.ip ∧ self.port = address.port then true else false

end UDTPAddress

/-! ## What the comparisons see -/

/-- Two calls on one thread return one pointer, whatever they were called with. -/
theorem inetNtoa_same_thread (thread : ℕ) (a b : UInt32) (buffers buffers' : NtoaBuffers) :
    (inetNtoa thread a buffers).1 = (inetNtoa thread b buffers').1 := rfl

/-- The bytes of a converted port are those of the port, the other way round. -/
theorem leBytes_ntohs (netshort : UInt16) :
    leBytes 2 (ntohs netshort).toNat = (leBytes 2 netshort.toNat).reverse :=
  ((u16_eq_iff (by simp) (ntohs netshort)).mp rfl).symm

/-- Swapping the bytes of two ports keeps them apart. -/
theorem ntohs_injective : Function.Injective ntohs := by
  intro a b h
  have hbytes : (leBytes 2 a.toNat).reverse = (leBytes 2 b.toNat).reverse := by
    rw [← leBytes_ntohs, ← leBytes_ntohs, h]
  have hsame : leBytes 2 a.toNat = leBytes 2 b.toNat := List.reverse_injective hbytes
  rw [← u16_leBytes a, hsame, u16_leBytes]

/-- Ports are compared as they are. -/
@[simp]
theorem ntohs_inj {a b : UInt16} : ntohs a = ntohs b ↔ a = b := ntohs_injective.eq_iff

end Udtp
