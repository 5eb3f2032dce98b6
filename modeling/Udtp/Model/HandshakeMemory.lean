import Udtp.Computation.AccessTrace
import Udtp.Model.Handshake

/-!
# The bytes a handshake reads and writes

`_raw` is allocated by the constructors, with two different sizes, and `_data` is a member.
The traces list what `unpack()` and `pack()` do to the bytes of both, in order.  A `memcpy()`
goes as far as it is told, whatever the sizes are.
-/

set_option autoImplicit false

namespace Udtp

open AccessTrace LittleEndian

/-- A byte behind `_raw` or of `_data`. -/
inductive HandshakeByte
  | raw (k : ℕ)
  | data (k : ℕ)
  deriving DecidableEq

namespace UDTPHandshake

/-! ## Allocation -/

/-- SRCLINE: UDTPHandshake.cpp:9 -/
def allocatedForHeader (header : UDTPPacketHeader) : ℕ := header.packetSize.toNat

/-- SRCLINE: UDTPHandshake.cpp:15 -/
def allocatedForResponseCode (h : UDTPHandshake) : ℕ :=
  UDTPPacketHeader.sizeOf + h.header.packetSize.toNat

/-! ## Traces -/

/-- `memcpy(&_data, _raw, _header.packetSize)` -/
def fillDataAccesses (h : UDTPHandshake) : List (Access HandshakeByte) :=
  span .read .raw 0 h.header.packetSize.toNat ++ span .assign .data 0 h.header.packetSize.toNat

/-- The settings are read for one response code alone.
SRCLINE: UDTPHandshake.cpp:50-68 -/
def readSettingsAccesses (responseCode : ResponseCode) : List (Access HandshakeByte) :=
  match responseCode with
  | .responseNone => span .read .data 4 2 ++ span .read .data 8 2
  | _ => []

/-- The fields of `_data` lie at the offsets of `UDTPHandShakeData.toBytes`.
SRCLINE: UDTPHandshake.cpp:43-71 -/
def unpackAccesses (h : UDTPHandshake) : List (Access HandshakeByte) :=
  h.fillDataAccesses ++ span .read .data 0 4 ++ readSettingsAccesses h.decode.responseCode

/-- `memcpy(_raw, &_header, sizeof(_header))` -/
def copyHeaderAccesses : List (Access HandshakeByte) :=
  span .assign .raw 0 UDTPPacketHeader.sizeOf

/-- `memcpy(_raw+sizeof(_header), &_data, sizeof(_data))` -/
def copyDataAccesses : List (Access HandshakeByte) :=
  span .read .data 0 UDTPHandShakeData.sizeOf ++
    span .assign .raw UDTPPacketHeader.sizeOf UDTPHandShakeData.sizeOf

/-- SRCLINE: UDTPHandshake.cpp:18-41 -/
def packAccesses (h : UDTPHandshake) : List (Access HandshakeByte) :=
  match h.responseCode with
  | .responseStart => span .assign .data 0 4 ++ copyHeaderAccesses ++ copyDataAccesses
  | .responseNone =>
    span .assign .data 8 2 ++ span .assign .data 4 2 ++ copyHeaderAccesses ++ copyDataAccesses
  | .responseApproved => copyHeaderAccesses
  | .responseCriticalError => copyHeaderAccesses
  | _ => []

end UDTPHandshake

/-- A call of one of the packet methods, with what it finds around it. -/
inductive HandshakeCall
  | unpack
  | respond (env : Environment) (u : UDTP)
  | pack (env : Environment)

namespace UDTPHandshake

/-- The object after a call. -/
def call (h : UDTPHandshake) : HandshakeCall → Except Fault UDTPHandshake
  | .unpack => .ok h.unpack.2
  | .respond env u => (h.respond env u).map fun r => r.2.1
  | .pack env => .ok (h.pack env).2

/-- What a call does to the bytes.  `respond()` works on the members `unpack()` filled. -/
def accesses (h : UDTPHandshake) : HandshakeCall → List (Access HandshakeByte)
  | .unpack => h.unpackAccesses
  | .respond _ _ => []
  | .pack _ => h.packAccesses

/-! ## The traces tell what changes -/

/-- A byte of `_raw` that `pack()` does not assign keeps its value. -/
theorem pack_raw_of_not_assigned (env : Environment) (h : UDTPHandshake) {k : ℕ}
    (hk : HandshakeByte.raw k ∉ assigned h.packAccesses) : (h.pack env).2.raw k = h.raw k := by
  have hheader : ∀ g : UDTPHandshake, HandshakeByte.raw k ∉ assigned copyHeaderAccesses →
      g.copyHeader.raw k = g.raw k := by
    intro g hout
    have hbytes : ¬ (0 ≤ k ∧ k < 0 + g.header.toBytes.length) := by
      simpa [copyHeaderAccesses] using hout
    exact store_of_outside g.raw hbytes
  have hdata : ∀ g : UDTPHandshake, HandshakeByte.raw k ∉ assigned copyDataAccesses →
      g.copyData.raw k = g.raw k := by
    intro g hout
    have hbytes : ¬ (UDTPPacketHeader.sizeOf ≤ k ∧
        k < UDTPPacketHeader.sizeOf + g.data.toBytes.length) := by
      simpa [copyDataAccesses] using hout
    exact store_of_outside g.raw hbytes
  rw [packAccesses] at hk
  rw [pack]
  cases hcode : h.responseCode with
  | responseStart =>
    simp only [hcode, assigned_append, Set.mem_union, not_or] at hk
    exact (hdata _ hk.2).trans (hheader _ hk.1.2)
  | responseNone =>
    simp only [hcode, assigned_append, Set.mem_union, not_or] at hk
    exact (hdata _ hk.2).trans (hheader _ hk.1.2)
  | responseApproved =>
    rw [hcode] at hk
    exact hheader h hk
  | responseCriticalError =>
    rw [hcode] at hk
    exact hheader h hk
  | _ => rfl

end UDTPHandshake

end Udtp
