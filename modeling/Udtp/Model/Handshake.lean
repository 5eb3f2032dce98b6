import Udtp.Model.Endpoint

/-!
# Handshakes

`UDTPHandshake` with its three packet methods.  The response code exists twice, in the
packet and in the data that travel; only `unpack()` copies it from the data, and only one
branch of `pack()` copies it back.

`_raw` and `_data` are written without regard to how many bytes they have.  The memory model
knows no end of `_raw`; a copy that leaves the object at the end of `_data` may come over `_raw`
itself.
-/

set_option autoImplicit false

namespace Udtp

open LittleEndian

namespace UDTPHandshake

/-- The constructor for a packet that arrives.
SRCLINE: UDTPHandshake.cpp:7-10 -/
def ofHeader (memory : UDTPHandshake) (header : UDTPPacketHeader) : UDTPHandshake :=
  { memory with header := header }

/-- The constructor for a packet that is sent first.
SRCLINE: UDTPHandshake.cpp:11-16 -/
def ofResponseCode (memory : UDTPHandshake) (responseCode : ResponseCode) : UDTPHandshake :=
  { memory with
    responseCode := responseCode
    header := { memory.header with
      packetSize := UInt16.ofNat UDTPHandShakeData.sizeOf
      packetType := .handshake } }

/-- SRCLINE: UDTPPacket.h:55 -/
def setResponseCode (responseCode : ResponseCode) (h : UDTPHandshake) : UDTPHandshake :=
  { h with responseCode := responseCode }

/-- `memcpy(_raw, &_header, sizeof(_header))` -/
def copyHeader (h : UDTPHandshake) : UDTPHandshake :=
  { h with raw := store h.raw 0 h.header.toBytes }

/-- `memcpy(_raw+sizeof(_header), &_data, sizeof(_data))` -/
def copyData (h : UDTPHandshake) : UDTPHandshake :=
  { h with raw := store h.raw UDTPPacketHeader.sizeOf h.data.toBytes }

/-- Assign `_data._responseCode`. -/
def setDataResponseCode (responseCode : ResponseCode) (h : UDTPHandshake) : UDTPHandshake :=
  { h with data := { h.data with responseCode := responseCode.value } }

/-- Assign `_data._chunkSizeAgreement` and `_data._versionNumber` from the settings. -/
def setDataFromSetup (setup : UDTPSetup) (h : UDTPHandshake) : UDTPHandshake :=
  { h with data := { h.data with
      chunkSizeAgreement := setup.chunkSizeAgreement
      versionNumber := setup.version } }

/-- SRCLINE: UDTPHandshake.cpp:18-41 -/
def pack (env : Environment) (h : UDTPHandshake) : Bool × UDTPHandshake :=
  match h.responseCode with
  | .responseStart => (true, (h.setDataResponseCode .responseStart).copyHeader.copyData)
  | .responseNone => (true, (h.setDataFromSetup env.setup).copyHeader.copyData)
  | .responseApproved => (true, h.copyHeader)
  | .responseCriticalError => (true, h.copyHeader)
  | _ => (false, h)

/-- The bytes from `_data` to the end of the object: the data and the two settings. -/
def roomInObject : ℕ := UDTPHandShakeData.sizeOf + 2 + 2

/-- A setting after some bytes were copied over its beginning. -/
def overwrite (copied : List UInt8) (setting : UInt16) : UInt16 :=
  UInt16.ofNat (leValue (copied ++ (leBytes 2 setting.toNat).drop copied.length))

/-- `memcpy(&_data, _raw, _header.packetSize)`.  Fewer bytes than the structure has leave its end
as it was.  More go on over the two settings, and more than the object has room for over what lies
behind it, where the allocator may have put the bytes of `_raw`.
SRCLINE: UDTPHandshake.cpp:48 -/
def fillData (h : UDTPHandshake) : UDTPHandshake :=
  let size := h.header.packetSize.toNat
  let filled := load h.raw 0 (min size UDTPHandShakeData.sizeOf)
  { h with
    data := UDTPHandShakeData.ofBytes (filled ++ h.data.toBytes.drop filled.length)
    versionNumber := overwrite ((load h.raw 12 2).take (size - 12)) h.versionNumber
    chunkSizeAgreement := overwrite ((load h.raw 14 2).take (size - 14)) h.chunkSizeAgreement
    raw := if size ≤ roomInObject then h.raw else h.overrun }

/-- The first lines of `unpack()`: the data and the response code come out of the bytes.
SRCLINE: UDTPHandshake.cpp:48-49 -/
def decode (h : UDTPHandshake) : UDTPHandshake :=
  h.fillData.setResponseCode (ResponseCode.ofValue h.fillData.data.responseCode)

/-- SRCLINE: UDTPHandshake.cpp:56-57 -/
def readSettings (h : UDTPHandshake) : UDTPHandshake :=
  { h with
    versionNumber := h.data.versionNumber
    chunkSizeAgreement := h.data.chunkSizeAgreement }

/-- SRCLINE: UDTPHandshake.cpp:43-71 -/
def unpack (h : UDTPHandshake) : Bool × UDTPHandshake :=
  match h.decode.responseCode with
  | .responseStart => (true, h.decode)
  | .responseNone => (true, h.decode.readSettings)
  | .responseApproved => (false, h.decode)
  | .responseCriticalError => (false, h.decode)
  | _ => (false, h.decode)

/-- SRCLINE: UDTPHandshake.cpp:104-115 -/
def compareSettings (setup : UDTPSetup) (h : UDTPHandshake) : Bool :=
  if h.versionNumber ≠ setup.version then false
  else if h.chunkSizeAgreement < setup.minChunkSize then false
  else if h.chunkSizeAgreement > setup.maxChunkSize then false
  else true

/-- SRCLINE: UDTPHandshake.cpp:73-100 -/
def respond (env : Environment) (u : UDTP) (h : UDTPHandshake) :
    Except Fault (Bool × UDTPHandshake × UDTP) :=
  match h.responseCode with
  | .responseStart => .ok (true, h.setResponseCode .responseNone, u)
  | .responseNone =>
    match u.getPeer h.peerID with
    | none => .error .nullPeer
    | some _ =>
      if !h.compareSettings env.setup then
        .ok (true, h.setResponseCode .responseCriticalError,
          u.modifyPeer h.peerID UDTPPeer.setOffline)
      else
        .ok (true, h.setResponseCode .responseApproved,
          u.modifyPeer h.peerID (UDTPPeer.setInitProcessComplete .handshake))
  | .responseApproved =>
    match u.listPeers with
    | [] => .error .indexOutOfRange
    | _ :: _ => .ok (false, h, u.modifyPeer 0 (UDTPPeer.setInitProcessComplete .handshake))
  | _ => .ok (false, h, u)

/-! ## What the methods do -/

/-- Decoding a handshake fills its data. -/
@[simp]
theorem decode_data (h : UDTPHandshake) : h.decode.data = h.fillData.data := rfl

/-- Decoding a handshake takes the response code from the data. -/
@[simp]
theorem decode_responseCode (h : UDTPHandshake) :
    h.decode.responseCode = ResponseCode.ofValue h.fillData.data.responseCode := rfl

/-- After decoding, `unpack()` changes nothing a packet has in common with other classes. -/
theorem unpack_toUDTPPacket (h : UDTPHandshake) :
    h.unpack.2.toUDTPPacket = h.decode.toUDTPPacket := by
  unfold unpack
  split <;> rfl

/-- The data `unpack()` leaves are those that arrived. -/
@[simp]
theorem unpack_data (h : UDTPHandshake) : h.unpack.2.data = h.fillData.data := by
  unfold unpack
  split <;> rfl

/-- A handshake with `ResponseNone` has its settings read and is answered. -/
theorem unpack_of_responseNone (h : UDTPHandshake)
    (hcode : h.decode.responseCode = .responseNone) : h.unpack = (true, h.decode.readSettings) := by
  unfold unpack
  rw [hcode]

/-- A copy that stays in the object leaves the bytes behind `_raw` alone. -/
theorem fillData_raw {h : UDTPHandshake} (hsize : h.header.packetSize.toNat ≤ roomInObject) :
    h.fillData.raw = h.raw := by
  simp [fillData, hsize]

/-- A header that announces at least a whole structure gives the data their bytes. -/
theorem fillData_of_fills (h : UDTPHandshake)
    (hfill : UDTPHandShakeData.sizeOf ≤ h.header.packetSize.toNat) :
    h.fillData.data = UDTPHandShakeData.ofBytes (load h.raw 0 UDTPHandShakeData.sizeOf) := by
  simp only [fillData, Nat.min_eq_right hfill, load_length]
  rw [List.drop_eq_nil_of_le (by simp), List.append_nil]

/-- After both copies the bytes are those of the header and of the data. -/
theorem load_copied (h : UDTPHandshake) :
    load h.copyHeader.copyData.raw 0 UDTPPacketHeader.sizeOf = h.header.toBytes ∧
      load h.copyHeader.copyData.raw UDTPPacketHeader.sizeOf UDTPHandShakeData.sizeOf =
        h.data.toBytes := by
  constructor
  · have hbelow := load_store_below (store h.raw 0 h.header.toBytes) UDTPPacketHeader.sizeOf 0
      UDTPPacketHeader.sizeOf h.data.toBytes (by simp)
    have hheader := load_store h.raw 0 h.header.toBytes
    rw [UDTPPacketHeader.toBytes_length] at hheader
    exact hbelow.trans hheader
  · have hdata := load_store (store h.raw 0 h.header.toBytes) UDTPPacketHeader.sizeOf h.data.toBytes
    rw [UDTPHandShakeData.toBytes_length] at hdata
    exact hdata

/-- Settings are accepted iff the versions are equal and the chunk size lies within the
bounds. -/
theorem compareSettings_iff (setup : UDTPSetup) (h : UDTPHandshake) :
    h.compareSettings setup = true ↔ h.versionNumber = setup.version ∧
      setup.minChunkSize ≤ h.chunkSizeAgreement ∧ h.chunkSizeAgreement ≤ setup.maxChunkSize := by
  unfold compareSettings
  split
  · simp_all
  split
  · simp_all
  split
  · simp_all
  · simp_all

/-- Everything `respond()` may do to the endpoint. -/
theorem respond_udtp {env : Environment} {u u' : UDTP} {h h' : UDTPHandshake} {b : Bool}
    (hr : h.respond env u = .ok (b, h', u')) :
    (h.responseCode = .responseNone ∧ h.compareSettings env.setup = false ∧
      u' = u.modifyPeer h.peerID UDTPPeer.setOffline) ∨
    (h.responseCode = .responseNone ∧ h.compareSettings env.setup = true ∧
      u' = u.modifyPeer h.peerID (UDTPPeer.setInitProcessComplete .handshake)) ∨
    (h.responseCode = .responseApproved ∧
      u' = u.modifyPeer 0 (UDTPPeer.setInitProcessComplete .handshake)) ∨
    (h.responseCode ≠ .responseNone ∧ h.responseCode ≠ .responseApproved ∧ u' = u) := by
  unfold respond at hr
  split at hr
  case h_1 hc =>
    cases hr
    simp [hc]
  case h_2 hc =>
    split at hr
    · cases hr
    split at hr
    · cases hr
      exact Or.inl ⟨hc, by simp_all, rfl⟩
    · cases hr
      exact Or.inr (Or.inl ⟨hc, by simp_all, rfl⟩)
  case h_3 hc =>
    split at hr
    · cases hr
    · cases hr
      exact Or.inr (Or.inr (Or.inl ⟨hc, rfl⟩))
  case h_4 hs hn ha =>
    cases hr
    exact Or.inr (Or.inr (Or.inr ⟨hn, ha, rfl⟩))

/-- `respond()` keeps everything of the packet but its response code. -/
theorem respond_packet {env : Environment} {u u' : UDTP} {h h' : UDTPHandshake} {b : Bool}
    (hr : h.respond env u = .ok (b, h', u')) : h' = h.setResponseCode h'.responseCode := by
  unfold respond at hr
  split at hr
  · cases hr
    rfl
  · split at hr
    · cases hr
    split at hr
    · cases hr
      rfl
    · cases hr
      rfl
  · split at hr
    · cases hr
    · cases hr
      rfl
  · cases hr
    rfl

/-- Of what a packet has in common with other classes, `pack()` writes the buffer alone. -/
theorem pack_toUDTPPacket (env : Environment) (h : UDTPHandshake) :
    (h.pack env).2.toUDTPPacket = { h.toUDTPPacket with raw := (h.pack env).2.raw } := by
  unfold pack
  split <;> rfl

/-- Packing keeps the unique ID. -/
@[simp]
theorem pack_uniqueID (env : Environment) (h : UDTPHandshake) :
    (h.pack env).2.uniqueID = h.uniqueID := by
  rw [pack_toUDTPPacket]

end UDTPHandshake

end Udtp
