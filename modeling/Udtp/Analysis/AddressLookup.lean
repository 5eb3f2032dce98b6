import Udtp.Model.PeerList

/-!
# Looking up an address

The texts of two IP addresses are never compared, only the pointers to them.  On one thread
these are always the same, so that an address is told from another by its port alone; between
threads they always differ.  `addressLookup_iff` says where the results are right all the
same: in a list whose first record with the port has the IP address too, and for addresses
that do not agree in what is compared while they differ in what is not.
-/

set_option autoImplicit false

namespace Udtp

open Lookup

/-! ## Two addresses -/

namespace UDTPAddress

/-- Widening a port keeps ports apart. -/
theorem toUInt32_injective : Function.Injective UInt16.toUInt32 := by
  intro a b h
  rw [← UInt16.toUInt16_toUInt32 a, h, UInt16.toUInt16_toUInt32]

/-- What a comparison tells: the threads the addresses were built on, and the ports. -/
theorem compareWithAddress_iff (a b : SockAddrIn) (thread thread' : ℕ)
    (buffers buffers' : NtoaBuffers) :
    compareWithAddress (new thread' b buffers').1 (new thread a buffers).1 = true ↔
      thread = thread' ∧ a.sinPort = b.sinPort := by
  unfold compareWithAddress
  simp only [new, inetNtoa, NtoaPointer.mk.injEq, toUInt32_injective.eq_iff, ntohs_inj]
  split
  · simp_all
  · simp_all

/-- A comparison is right: it succeeds iff the addresses are the same. -/
def ComparesRightly (a b : SockAddrIn) (thread thread' : ℕ) (buffers buffers' : NtoaBuffers) :
    Prop :=
  compareWithAddress (new thread' b buffers').1 (new thread a buffers).1 = true ↔
    a.sinAddr = b.sinAddr ∧ a.sinPort = b.sinPort

/-- Between addresses built on one thread, those of one port have one IP address; between
addresses of two threads, no two are the same. -/
def Distinguished (a b : SockAddrIn) (thread thread' : ℕ) : Prop :=
  (thread = thread' → a.sinPort = b.sinPort → a.sinAddr = b.sinAddr) ∧
    (thread ≠ thread' → a.sinPort = b.sinPort → a.sinAddr ≠ b.sinAddr)

/-- Two addresses are compared rightly iff they are distinguished by their ports and threads. -/
theorem comparesRightly_iff (a b : SockAddrIn) (thread thread' : ℕ)
    (buffers buffers' : NtoaBuffers) :
    ComparesRightly a b thread thread' buffers buffers' ↔ Distinguished a b thread thread' := by
  unfold ComparesRightly Distinguished
  rw [compareWithAddress_iff]
  by_cases hthread : thread = thread'
  · simp only [hthread, true_and, true_implies, ne_eq, not_true_eq_false, false_implies, and_true]
    exact ⟨fun h hport => (h.mp hport).1, fun h => ⟨fun hport => ⟨h hport, hport⟩, And.right⟩⟩
  · simp only [hthread, false_and, false_implies, true_and, ne_eq, not_false_eq_true, true_implies,
      false_iff, not_and]
    exact ⟨fun h hport haddr => h haddr hport, fun h haddr hport => h hport haddr⟩

end UDTPAddress

/-! ## A list of peers -/

namespace PeerList

/-- The records that have an IP address and its port. -/
def hasAddress (searchAddress : SockAddrIn) (p : UDTPPeer) : Bool :=
  p.address.sinAddr = searchAddress.sinAddr && p.address.sinPort = searchAddress.sinPort

/-- An endpoint whose lock is free. -/
def unlocked (u : UDTP) (buffers : NtoaBuffers) : PeerList where
  udtp := u
  mutexPeer := false
  buffers := buffers

/-- The first position of an address in a list, or `-1` if no record has it. -/
def IsAddressPos (searchAddress : SockAddrIn) (peers : List UDTPPeer) (result : ℤ) : Prop :=
  (∃ posID : ℕ, result = posID ∧ IsLeast (positions (hasAddress searchAddress) peers) posID) ∨
    (positions (hasAddress searchAddress) peers = ∅ ∧ result = -1)

/-- A search returns the position of the address. -/
def FindsAddress (thread : ℕ) (searchAddress : SockAddrIn) (buffers : NtoaBuffers) (u : UDTP) :
    Prop :=
  ∃ result s, (unlocked u buffers).findPeerUsingAddress thread searchAddress = .ok (result, s) ∧
    IsAddressPos searchAddress u.listPeers result

/-- The first record with the port of an address, if there is one, has the IP address too. -/
def FirstPortHasAddress (searchAddress : SockAddrIn) (u : UDTP) : Prop :=
  ∀ posID p, IsLeast (positions (hasPort searchAddress) u.listPeers) posID →
    u.getPeer posID = some p → p.address.sinAddr = searchAddress.sinAddr

/-- A record that has the address has the port. -/
theorem positions_hasAddress_subset (searchAddress : SockAddrIn) (peers : List UDTPPeer) :
    positions (hasAddress searchAddress) peers ⊆ positions (hasPort searchAddress) peers := by
  rintro posID ⟨p, hp, haddress⟩
  refine ⟨p, hp, ?_⟩
  simp only [hasAddress, Bool.and_eq_true] at haddress
  exact haddress.2

/-- The first record with a port is the first with the address iff it has the IP address. -/
theorem isAddressPos_iff {searchAddress : SockAddrIn} {peers : List UDTPPeer} {posID : ℕ}
    {p : UDTPPeer} (hleast : IsLeast (positions (hasPort searchAddress) peers) posID)
    (hp : peers[posID]? = some p) :
    IsAddressPos searchAddress peers posID ↔ p.address.sinAddr = searchAddress.sinAddr := by
  constructor
  · rintro (⟨k, hk, ⟨q, hq, haddress⟩, -⟩ | ⟨-, hminus⟩)
    · obtain rfl : posID = k := Int.ofNat.inj hk
      obtain rfl : p = q := Option.some.inj (hp.symm.trans hq)
      simp only [hasAddress, Bool.and_eq_true, decide_eq_true_eq] at haddress
      exact haddress.1
    · omega
  · intro haddr
    obtain ⟨q, hq, hport⟩ := hleast.1
    obtain rfl : p = q := Option.some.inj (hp.symm.trans hq)
    refine Or.inl ⟨posID, rfl, ⟨p, hp, ?_⟩, ?_⟩
    · simp only [hasAddress, haddr, decide_true, Bool.true_and]
      exact hport
    · intro k hk
      exact hleast.2 (positions_hasAddress_subset searchAddress peers hk)

/-- **A search for an address** returns the right position iff the first record with the port, if
there is one, has the IP address as well. -/
theorem findsAddress_iff (thread : ℕ) (searchAddress : SockAddrIn) (buffers : NtoaBuffers)
    (u : UDTP) :
    FindsAddress thread searchAddress buffers u ↔ FirstPortHasAddress searchAddress u := by
  obtain ⟨buffers', hsearch⟩ :=
    findPeerUsingAddress_eq (s := unlocked u buffers) rfl thread searchAddress
  have hresult : ∀ result s,
      (unlocked u buffers).findPeerUsingAddress thread searchAddress = .ok (result, s) →
      (FindsAddress thread searchAddress buffers u ↔
        IsAddressPos searchAddress u.listPeers result) := by
    intro result s hok
    constructor
    · rintro ⟨r, t, hr, hpos⟩
      rw [hok] at hr
      cases hr
      exact hpos
    · intro hpos
      exact ⟨result, s, hok, hpos⟩
  cases hidx : u.listPeers.findIdx? (hasPort searchAddress) with
  | none =>
    rw [show (unlocked u buffers).udtp.listPeers = u.listPeers from rfl, hidx] at hsearch
    have hempty := positions_eq_empty_of_findIdx? hidx
    rw [hresult _ _ hsearch]
    refine iff_of_true (Or.inr ⟨?_, rfl⟩) ?_
    · exact Set.subset_eq_empty (positions_hasAddress_subset searchAddress u.listPeers) hempty
    · intro posID p hleast
      have hmem := hleast.1
      rw [hempty] at hmem
      exact absurd hmem (Set.notMem_empty posID)
  | some k =>
    rw [show (unlocked u buffers).udtp.listPeers = u.listPeers from rfl, hidx] at hsearch
    have hleast := isLeast_of_findIdx? hidx
    obtain ⟨p, hp, -⟩ := hleast.1
    rw [hresult _ _ hsearch, isAddressPos_iff hleast hp]
    constructor
    · intro haddr posID q hposID hq
      obtain rfl := hposID.unique hleast
      obtain rfl : p = q := Option.some.inj (hp.symm.trans hq)
      exact haddr
    · intro hfirst
      exact hfirst k p hleast hp

/-- **Addresses are looked up and compared** rightly under these conditions and no others: a
search where the first record with the port has the IP address too, and a comparison where
addresses of one thread with one port have one IP address, and no two addresses of different
threads are the same. -/
theorem addressLookup_iff (thread thread' : ℕ) (buffers buffers' : NtoaBuffers)
    (searchAddress a b : SockAddrIn) (u : UDTP) :
    (FindsAddress thread searchAddress buffers u ↔ FirstPortHasAddress searchAddress u) ∧
    (UDTPAddress.ComparesRightly a b thread thread' buffers buffers' ↔
      UDTPAddress.Distinguished a b thread thread') := by
  constructor
  · exact findsAddress_iff thread searchAddress buffers u
  · exact UDTPAddress.comparesRightly_iff a b thread thread' buffers buffers'

/-- A HOST whose own record has the IP address 1 and the port 5. -/
def hostAtOne : UDTP :=
  (UDTP.startedIn .host).modifyPeer 0 (UDTPPeer.setAddress ⟨1, 5⟩)

/-- The IP address 2 with the port 5 is found at the record of the IP address 1, and on one thread
the two are equal. -/
theorem not_findsAddress_hostAtOne :
    ¬ FindsAddress 0 ⟨2, 5⟩ (fun _ => "") hostAtOne ∧
      ¬ UDTPAddress.ComparesRightly ⟨1, 5⟩ ⟨2, 5⟩ 0 0 (fun _ => "") (fun _ => "") := by
  constructor
  · intro h
    have hfirst := (findsAddress_iff 0 ⟨2, 5⟩ (fun _ => "") hostAtOne).mp h
    have haddr := hfirst 0 _ ⟨⟨_, rfl, by decide⟩, fun k _ => Nat.zero_le k⟩ rfl
    exact absurd haddr (by decide)
  · intro h
    have hequal := h.mp (by decide)
    exact absurd hequal.1 (by decide)

end PeerList

end Udtp
