import Udtp.Model.Basic

/-!
# Packets

The packet classes with the members the modelled functions use, and the layout of the
two structures that travel as bytes.  `raw` is the memory behind `_raw`; how many bytes
of it were allocated is no part of it.
-/

set_option autoImplicit false

namespace Udtp

open LittleEndian

/-! ## The header every packet begins with -/

/-- The two bytes of `padding` align the enumeration behind them.
SRCLINE: UDTPPacket.h:46-49 -/
structure UDTPPacketHeader where
  packetSize : UInt16
  padding : UInt16
  packetType : PacketType
  deriving DecidableEq, Inhabited

namespace UDTPPacketHeader

/-- `sizeof(UDTPPacketHeader)` -/
def sizeOf : ℕ := 8

def toBytes (h : UDTPPacketHeader) : List UInt8 :=
  leBytes 2 h.packetSize.toNat ++ leBytes 2 h.padding.toNat ++
    leBytes 4 h.packetType.value.toNat

def ofBytes (bytes : List UInt8) : UDTPPacketHeader where
  packetSize := UInt16.ofNat (leValue (bytes.take 2))
  padding := UInt16.ofNat (leValue ((bytes.drop 2).take 2))
  packetType := PacketType.ofValue (UInt32.ofNat (leValue ((bytes.drop 4).take 4)))

/-- A header takes eight bytes. -/
@[simp]
theorem toBytes_length (h : UDTPPacketHeader) : h.toBytes.length = sizeOf := by
  simp [toBytes, sizeOf]

/-- A header of a known type is read back from its bytes. -/
theorem ofBytes_toBytes (h : UDTPPacketHeader)
    (ht : PacketType.ofValue h.packetType.value = h.packetType) : ofBytes h.toBytes = h := by
  obtain ⟨size, padding, packetType⟩ := h
  simp only [ofBytes, toBytes, UDTPPacketHeader.mk.injEq]
  refine ⟨?_, ?_, ?_⟩
  · simp [u16_leBytes]
  · simp [u16_leBytes]
  · simpa [List.drop_append, List.take_of_length_le, u32_leBytes] using ht

end UDTPPacketHeader

/-! ## The packet classes -/

/-- The members every packet has.  `myPeer` is the position in `_listPeers` of the record
`peer()` points to, `peerID` the position `get_peer_id()` names.
SRCLINE: UDTPPacket.h:51-118 -/
structure UDTPPacket where
  header : UDTPPacketHeader
  responseCode : ResponseCode
  myPeer : ℕ
  peerID : ℕ
  uniqueID : UInt32
  socketID : Socket
  raw : Memory
  deriving Inhabited

/-- The response code is held as the integer it travels as; `padding` fills the structure
up to a multiple of its alignment.
SRCLINE: UDTPHandshake.h:11-18 -/
structure UDTPHandShakeData where
  responseCode : UInt32
  versionNumber : UInt16
  chunkSizeRequest : UInt16
  chunkSizeAgreement : UInt16
  padding : UInt16
  deriving DecidableEq, Inhabited

namespace UDTPHandShakeData

/-- `sizeof(UDTPHandShakeData)` -/
def sizeOf : ℕ := 12

def toBytes (d : UDTPHandShakeData) : List UInt8 :=
  leBytes 4 d.responseCode.toNat ++ leBytes 2 d.versionNumber.toNat ++
    leBytes 2 d.chunkSizeRequest.toNat ++ leBytes 2 d.chunkSizeAgreement.toNat ++
    leBytes 2 d.padding.toNat

def ofBytes (bytes : List UInt8) : UDTPHandShakeData where
  responseCode := UInt32.ofNat (leValue (bytes.take 4))
  versionNumber := UInt16.ofNat (leValue ((bytes.drop 4).take 2))
  chunkSizeRequest := UInt16.ofNat (leValue ((bytes.drop 6).take 2))
  chunkSizeAgreement := UInt16.ofNat (leValue ((bytes.drop 8).take 2))
  padding := UInt16.ofNat (leValue ((bytes.drop 10).take 2))

/-- The data of a handshake take twelve bytes. -/
@[simp]
theorem toBytes_length (d : UDTPHandShakeData) : d.toBytes.length = sizeOf := by
  simp [toBytes, sizeOf]

/-- The data of a handshake are read back from their bytes. -/
@[simp]
theorem ofBytes_toBytes (d : UDTPHandShakeData) : ofBytes d.toBytes = d := by
  obtain ⟨code, version, request, agreement, padding⟩ := d
  simp only [ofBytes, toBytes, UDTPHandShakeData.mk.injEq, List.append_assoc]
  refine ⟨?_, ?_, ?_, ?_, ?_⟩ <;>
    simp [List.drop_append, List.take_of_length_le, u16_leBytes, u32_leBytes]

/-- Where the fields that are read on arrival lie. -/
theorem toBytes_fields (d : UDTPHandShakeData) :
    (d.toBytes.drop 0).take 4 = leBytes 4 d.responseCode.toNat ∧
      (d.toBytes.drop 4).take 2 = leBytes 2 d.versionNumber.toNat ∧
      (d.toBytes.drop 8).take 2 = leBytes 2 d.chunkSizeAgreement.toNat := by
  refine ⟨?_, ?_, ?_⟩
  · simp [toBytes]
  · simp [toBytes]
  · simp [toBytes, List.drop_append]

/-- Twelve bytes are written again from the data they are read as. -/
theorem toBytes_ofBytes {bytes : List UInt8} (h : bytes.length = sizeOf) :
    (ofBytes bytes).toBytes = bytes := by
  have hlength : bytes.length = 12 := h
  have code := (@u32_eq_iff (bytes.take 4) (by simp [hlength]) _).mp rfl
  have short (offset : ℕ) (ho : offset + 2 ≤ 12) :=
    (@u16_eq_iff ((bytes.drop offset).take 2) (by simp [hlength]; omega) _).mp rfl
  have version := short 4 (by decide)
  have request := short 6 (by decide)
  have agreement := short 8 (by decide)
  have padding := short 10 (by decide)
  simp only [toBytes, ofBytes]
  rw [← code, ← version, ← request, ← agreement, ← padding]
  have join (k : ℕ) : bytes.take k ++ (bytes.drop k).take 2 = bytes.take (k + 2) :=
    List.take_add.symm
  rw [join 4, join 6, join 8, join 10, List.take_of_length_le (Nat.le_of_eq hlength)]

end UDTPHandShakeData

/-- The two settings lie behind `_data` and end the object.  `overrun` is what the memory
behind `_raw` holds once a copy into the object has gone past that end.
SRCLINE: UDTPHandshake.h:20-42 -/
structure UDTPHandshake extends UDTPPacket where
  data : UDTPHandShakeData
  versionNumber : UInt16
  chunkSizeAgreement : UInt16
  overrun : Memory
  deriving Inhabited

/-- `pathOfFile` is the text `get_path_of_file()->get_address_path()` points to.  No constructor
assigns the pointer; `pathUnmapped` says that it holds no address that can be read.
SRCLINE: UDTPHeader.h:10-48 -/
structure UDTPHeader extends UDTPPacket where
  pathOfFile : String
  pathUnmapped : Bool
  fileID : UInt16
  numberOfChunks : UInt16
  sizeOfFile : UInt32
  transferType : TransferType
  deriving Inhabited

/-- `acknowledgeResponseCode` is the member `_responseCode` that the class declares a
second time; its accessors hide the ones of `UDTPPacket`.
SRCLINE: UDTPAcknowledge.h:17-61 -/
structure UDTPAcknowledge extends UDTPPacket where
  acknowledgeType : AcknowledgeType
  acknowledgeResponseCode : ResponseCode
  packetsCount : UInt32
  deriving Inhabited

/-- SRCLINE: UDTPPath.h:19-41 -/
structure UDTPPath extends UDTPPacket where
  deriving Inhabited

/-- A packet object of any of the classes that arrive on a listen socket. -/
inductive Packet
  | handshake (h : UDTPHandshake)
  | header (h : UDTPHeader)
  | path (p : UDTPPath)
  | acknowledge (a : UDTPAcknowledge)
  deriving Inhabited

namespace Packet

def base : Packet → UDTPPacket
  | handshake h => h.toUDTPPacket
  | header h => h.toUDTPPacket
  | path p => p.toUDTPPacket
  | acknowledge a => a.toUDTPPacket

def mapBase (f : UDTPPacket → UDTPPacket) : Packet → Packet
  | handshake h => handshake { h with toUDTPPacket := f h.toUDTPPacket }
  | header h => header { h with toUDTPPacket := f h.toUDTPPacket }
  | path p => path { p with toUDTPPacket := f p.toUDTPPacket }
  | acknowledge a => acknowledge { a with toUDTPPacket := f a.toUDTPPacket }

end Packet

end Udtp
