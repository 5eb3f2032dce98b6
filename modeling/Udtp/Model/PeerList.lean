import Udtp.Computation.Lookup
import Udtp.Model.Address
import Udtp.Model.Endpoint

/-!
# The list of peers and its lock

The five functions of `UDTP` that take `_mutexPeer` before they look at `_listPeers`.  Each
exit is written out, with what it leaves of the lock.  A lock that is held already blocks the
call that wants it, since the program has nobody who would release it meanwhile.

With the lock free, `add_peer()`, `get_peer()` and `remove_peer()` do to the endpoint what
`UDTP.addPeer`, `UDTP.getPeer` and `UDTP.removePeer` say.
-/

set_option autoImplicit false

namespace Udtp

/-- Why a call does not return: it waits for the lock, or it ends the run of the program. -/
inductive CallHalt
  | blocked
  | fault (fault : Fault)
  deriving DecidableEq, Repr

/-- An endpoint with its lock, and the buffers of `inet_ntoa()`.
SRCLINE: UDTP.h:139, UDTP.h:160 -/
structure PeerList where
  udtp : UDTP
  mutexPeer : Bool
  buffers : NtoaBuffers

namespace PeerList

/-- `pthread_mutex_lock(&_mutexPeer)` -/
def lock (s : PeerList) : Except CallHalt PeerList :=
  if s.mutexPeer then .error .blocked else .ok { s with mutexPeer := true }

/-- `pthread_mutex_unlock(&_mutexPeer)` -/
def unlock (s : PeerList) : PeerList := { s with mutexPeer := false }

/-! ## The functions -/

/-- SRCLINE: UDTP.cpp:96-106 -/
def addPeer (memory : UDTPPeer) (ready : Bool) (listenSocketOfPeer : Socket) (s : PeerList) :
    Except CallHalt (ℕ × PeerList) :=
  match s.lock with
  | .error halt => .error halt
  | .ok s =>
    let added := s.udtp.addPeer memory ready listenSocketOfPeer
    .ok (added.1, unlock { s with udtp := added.2 })

/-- The loop over the records from position `posID` on.  Where it finds nothing the function
returns `0`, before it comes to its last line.
SRCLINE: UDTP.cpp:110-119 -/
def findPeerPosFrom (listenSocketOfPeer : UInt32) (s : PeerList) : ℕ → List UDTPPeer → ℕ × PeerList
  | _, [] => (0, s)
  | posID, p :: peers =>
    if p.listenSocket.descriptor = listenSocketOfPeer then (posID, s.unlock)
    else findPeerPosFrom listenSocketOfPeer s (posID + 1) peers

/-- SRCLINE: UDTP.cpp:107-120 -/
def findPeerPos (listenSocketOfPeer : UInt32) (s : PeerList) : Except CallHalt (ℕ × PeerList) :=
  match s.lock with
  | .error halt => .error halt
  | .ok s => .ok (s.findPeerPosFrom listenSocketOfPeer 0 s.udtp.listPeers)

/-- Both texts are asked for on the thread of the call, the searched one first.
SRCLINE: UDTP.cpp:124-137 -/
def findPeerUsingAddressFrom (thread : ℕ) (searchAddress : SockAddrIn) :
    PeerList → ℕ → List UDTPPeer → ℤ × PeerList
  | s, _, [] => (-1, s.unlock)
  | s, posID, p :: peers =>
    let searched := inetNtoa thread searchAddress.sinAddr s.buffers
    let found := inetNtoa thread p.address.sinAddr searched.2
    let s := { s with buffers := found.2 }
    if searched.1 = found.1 then
      if ntohs searchAddress.sinPort = ntohs p.address.sinPort then (posID, s.unlock)
      else findPeerUsingAddressFrom thread searchAddress s (posID + 1) peers
    else findPeerUsingAddressFrom thread searchAddress s (posID + 1) peers

/-- SRCLINE: UDTP.cpp:121-138 -/
def findPeerUsingAddress (thread : ℕ) (searchAddress : SockAddrIn) (s : PeerList) :
    Except CallHalt (ℤ × PeerList) :=
  match s.lock with
  | .error halt => .error halt
  | .ok s => .ok (findPeerUsingAddressFrom thread searchAddress s 0 s.udtp.listPeers)

/-- The list is read after the lock was released.
SRCLINE: UDTP.cpp:139-146 -/
def getPeer (posID : ℕ) (s : PeerList) : Except CallHalt (Option UDTPPeer × PeerList) :=
  match s.lock with
  | .error halt => .error halt
  | .ok s =>
    let sizeOfListPeers := s.udtp.listPeers.length
    let s := s.unlock
    if posID < sizeOfListPeers then .ok (s.udtp.listPeers[posID]?, s) else .ok (none, s)

/-- SRCLINE: UDTP.cpp:148-161 -/
def removePeer (posID : ℕ) (s : PeerList) : Except CallHalt (Bool × PeerList) :=
  match s.lock with
  | .error halt => .error halt
  | .ok s =>
    match s.udtp.listPeers[posID]? with
    | none => .ok (false, s.unlock)
    | some p =>
      match p.destructor with
      | .error fault => .error (.fault fault)
      | .ok _ =>
        let u := { s.udtp with listPeers := s.udtp.listPeers.eraseIdx posID }
        .ok (true, unlock { s with udtp := u })

end PeerList

/-- A call of one of the functions. -/
inductive PeerListCall
  | addPeer (memory : UDTPPeer) (ready : Bool) (listenSocketOfPeer : Socket)
  | findPeerPos (listenSocketOfPeer : UInt32)
  | findPeerUsingAddress (thread : ℕ) (searchAddress : SockAddrIn)
  | getPeer (posID : ℕ)
  | removePeer (posID : ℕ)

namespace PeerList

/-- What a call leaves, if it returns. -/
def call (s : PeerList) : PeerListCall → Except CallHalt PeerList
  | .addPeer memory ready socket => (s.addPeer memory ready socket).map Prod.snd
  | .findPeerPos socket => (s.findPeerPos socket).map Prod.snd
  | .findPeerUsingAddress thread address => (s.findPeerUsingAddress thread address).map Prod.snd
  | .getPeer posID => (s.getPeer posID).map Prod.snd
  | .removePeer posID => (s.removePeer posID).map Prod.snd

/-! ## What the functions do -/

variable {s : PeerList}

/-- A free mutex is taken. -/
theorem lock_eq (h : s.mutexPeer = false) : s.lock = .ok { s with mutexPeer := true } := by
  simp [lock, h]

/-- Adding a peer is what `UDTP.addPeer` does. -/
theorem addPeer_eq (h : s.mutexPeer = false) (memory : UDTPPeer) (ready : Bool) (socket : Socket) :
    s.addPeer memory ready socket = .ok ((s.udtp.addPeer memory ready socket).1,
      { s with udtp := (s.udtp.addPeer memory ready socket).2 }) := by
  simp [addPeer, lock_eq h, unlock, h]

/-- Getting a peer is what `UDTP.getPeer` does. -/
theorem getPeer_eq (h : s.mutexPeer = false) (posID : ℕ) :
    s.getPeer posID = .ok (s.udtp.getPeer posID, s) := by
  have hs : s.unlock = s := by rw [unlock, ← h]
  simp only [getPeer, lock_eq h, UDTP.getPeer]
  split
  · exact congrArg (fun t => Except.ok (_, t)) hs
  · rename_i hge
    rw [List.getElem?_eq_none (Nat.le_of_not_lt hge)]
    exact congrArg (fun t => Except.ok (none, t)) hs

/-- Removing a peer is what `UDTP.removePeer` does. -/
theorem removePeer_eq (h : s.mutexPeer = false) (posID : ℕ) :
    s.removePeer posID =
      ((s.udtp.removePeer posID).mapError CallHalt.fault).map fun r =>
        (r.1, { s with udtp := r.2 }) := by
  have hs : s.unlock = s := by rw [unlock, ← h]
  simp only [removePeer, lock_eq h, UDTP.removePeer]
  cases s.udtp.listPeers[posID]? with
  | none => exact congrArg (fun t => Except.ok (false, t)) hs
  | some p =>
    cases hdestroyed : p.destructor with
    | error fault => simp [hdestroyed, Except.mapError, Except.map]
    | ok q => simp [hdestroyed, Except.mapError, Except.map, unlock, h]

/-- The records that have a listen socket. -/
def hasListenSocket (listenSocketOfPeer : UInt32) (p : UDTPPeer) : Bool :=
  p.listenSocket.descriptor = listenSocketOfPeer

/-- The loop finds the first record with the socket, and releases the lock only if it finds
one. -/
theorem findPeerPosFrom_eq (socket : UInt32) (s : PeerList) (posID : ℕ) (peers : List UDTPPeer) :
    s.findPeerPosFrom socket posID peers =
      match peers.findIdx? (hasListenSocket socket) with
      | none => (0, s)
      | some k => (posID + k, s.unlock) := by
  induction peers generalizing posID with
  | nil => rfl
  | cons p peers ih =>
    rw [findPeerPosFrom, List.findIdx?_cons]
    by_cases hp : p.listenSocket.descriptor = socket
    · simp [hp, hasListenSocket]
    · have hmiss : hasListenSocket socket p = false := decide_eq_false hp
      rw [if_neg hp, ih, hmiss]
      cases peers.findIdx? (hasListenSocket socket) with
      | none => rfl
      | some k => simp [Nat.add_assoc, Nat.add_comm 1]

/-- With the mutex free, the search yields the first record with the socket, or `0` and keeps the
mutex. -/
theorem findPeerPos_eq (h : s.mutexPeer = false) (socket : UInt32) :
    s.findPeerPos socket = .ok (match s.udtp.listPeers.findIdx? (hasListenSocket socket) with
      | none => (0, { s with mutexPeer := true })
      | some k => (k, s)) := by
  have hs : unlock { s with mutexPeer := true } = s := by rw [unlock, ← h]
  simp only [findPeerPos, lock_eq h, findPeerPosFrom_eq, hs, Nat.zero_add]

/-- The records that have the port of an address. -/
def hasPort (searchAddress : SockAddrIn) (p : UDTPPeer) : Bool :=
  p.address.sinPort = searchAddress.sinPort

/-- The loop finds the first record with the port of the address, because the two pointers are
always the same. -/
theorem findPeerUsingAddressFrom_eq (thread : ℕ) (address : SockAddrIn) (s : PeerList)
    (posID : ℕ) (peers : List UDTPPeer) :
    ∃ buffers, findPeerUsingAddressFrom thread address s posID peers =
      (match peers.findIdx? (hasPort address) with
        | none => (-1 : ℤ)
        | some k => ((posID + k : ℕ) : ℤ),
      { udtp := s.udtp, mutexPeer := false, buffers := buffers }) := by
  induction peers generalizing s posID with
  | nil => exact ⟨s.buffers, rfl⟩
  | cons p peers ih =>
    rw [findPeerUsingAddressFrom, List.findIdx?_cons, if_pos (inetNtoa_same_thread _ _ _ _ _)]
    by_cases hp : p.address.sinPort = address.sinPort
    · have hmatch : hasPort address p = true := decide_eq_true hp
      rw [if_pos (by rw [hp]), hmatch]
      exact ⟨_, rfl⟩
    · have hmiss : hasPort address p = false := decide_eq_false hp
      have hports : ¬ ntohs address.sinPort = ntohs p.address.sinPort := by
        rw [ntohs_inj]
        exact fun h => hp h.symm
      rw [if_neg hports, hmiss]
      obtain ⟨buffers, hrest⟩ := ih _ (posID + 1)
      refine ⟨buffers, hrest.trans ?_⟩
      cases peers.findIdx? (hasPort address) with
      | none => rfl
      | some k => simp [Nat.add_assoc, Nat.add_comm 1]

/-- With the mutex free, the search yields the first record with the port, or `-1`. -/
theorem findPeerUsingAddress_eq (h : s.mutexPeer = false) (thread : ℕ) (address : SockAddrIn) :
    ∃ buffers, s.findPeerUsingAddress thread address =
      .ok (match s.udtp.listPeers.findIdx? (hasPort address) with
        | none => (-1 : ℤ)
        | some k => (k : ℤ),
      { s with buffers := buffers }) := by
  obtain ⟨buffers, hloop⟩ := findPeerUsingAddressFrom_eq thread address
    { s with mutexPeer := true } 0 s.udtp.listPeers
  refine ⟨buffers, ?_⟩
  simp only [findPeerUsingAddress, lock_eq h, hloop, Nat.zero_add, h]

end PeerList

end Udtp
