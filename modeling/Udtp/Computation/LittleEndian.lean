import Mathlib.Algebra.Group.Nat.Defs
import Mathlib.Data.List.Basic
import Mathlib.Tactic.Common

/-!
# Byte memories and little-endian fields

A memory is the function from offsets to bytes behind a pointer.  `store` copies bytes
into it and `load` copies bytes out of it; neither knows how many bytes were allocated.
Integers are laid out in little-endian order by `leBytes` and read back by `leValue`.
-/

set_option autoImplicit false

namespace LittleEndian

/-- The bytes from a pointer on. -/
abbrev Memory := ℕ → UInt8

/-- Copy bytes into a memory, from an offset on. -/
def store (m : Memory) (offset : ℕ) (bytes : List UInt8) : Memory :=
  fun k => if k < offset then m k else bytes.getD (k - offset) (m k)

/-- Copy bytes out of a memory, from an offset on. -/
def load (m : Memory) (offset count : ℕ) : List UInt8 :=
  (List.range count).map fun k => m (offset + k)

/-- A load yields as many bytes as were asked for. -/
@[simp]
theorem load_length (m : Memory) (offset count : ℕ) : (load m offset count).length = count := by
  simp [load]

/-- What was stored is loaded again from the same offset. -/
theorem load_store (m : Memory) (offset : ℕ) (bytes : List UInt8) :
    load (store m offset bytes) offset bytes.length = bytes := by
  apply List.ext_getElem (by simp)
  intro k h₁ h₂
  have hget : (load (store m offset bytes) offset bytes.length)[k] =
      store m offset bytes (offset + k) := by simp [load]
  rw [hget, store, if_neg (by omega), Nat.add_sub_cancel_left]
  simp [h₂]

/-- A store leaves the bytes outside its range as they were. -/
theorem store_of_outside (m : Memory) {offset k : ℕ} {bytes : List UInt8}
    (h : ¬ (offset ≤ k ∧ k < offset + bytes.length)) : store m offset bytes k = m k := by
  unfold store
  split
  · rfl
  · have hout : bytes.length ≤ k - offset := by omega
    simp [hout]

/-- A load that ends before the range of a store does not see the store. -/
theorem load_store_below (m : Memory) (offset start count : ℕ) (bytes : List UInt8)
    (h : start + count ≤ offset) :
    load (store m offset bytes) start count = load m start count := by
  apply List.ext_getElem (by simp)
  intro k h₁ h₂
  have hk : k < count := by simpa using h₁
  have hlt : start + k < offset := by omega
  simp [load, store, hlt]

/-- A load that begins behind what was stored at the start does not see the store. -/
theorem load_store_above (m : Memory) (start count : ℕ) (bytes : List UInt8)
    (h : bytes.length ≤ start) : load (store m 0 bytes) start count = load m start count := by
  apply List.ext_getElem (by simp)
  intro k h₁ h₂
  have hout : bytes.length ≤ start + k := by omega
  simp [load, store, List.getElem?_eq_none hout]

/-- Bytes from the middle of a block that is copied out. -/
theorem take_drop_load (m : Memory) {start count offset width : ℕ} (h : offset + width ≤ count) :
    ((load m start count).drop offset).take width = load m (start + offset) width := by
  apply List.ext_getElem (by simp; omega)
  intro k h₁ h₂
  simp [load, Nat.add_assoc]

/-- The memory behind a pointer that was moved on. -/
def skip (m : Memory) (offset : ℕ) : Memory := fun k => m (offset + k)

/-- Skipping to an offset and loading from the start is loading from the offset. -/
@[simp]
theorem load_skip (m : Memory) (offset count : ℕ) :
    load (skip m offset) 0 count = load m offset count := by
  simp [load, skip]

/-- The `count` low bytes of a number, lowest first. -/
def leBytes : ℕ → ℕ → List UInt8
  | 0, _ => []
  | count + 1, n => UInt8.ofNat n :: leBytes count (n / 256)

/-- The number some bytes stand for, lowest first. -/
def leValue : List UInt8 → ℕ
  | [] => 0
  | b :: bs => b.toNat + 256 * leValue bs

/-- A number is written in as many bytes as it is given. -/
@[simp]
theorem leBytes_length (count n : ℕ) : (leBytes count n).length = count := by
  induction count generalizing n with
  | zero => rfl
  | succ count ih => simp [leBytes, ih]

/-- Behind all bytes of a number there are none. -/
@[simp]
theorem drop_leBytes (k count n : ℕ) (h : count ≤ k) : (leBytes count n).drop k = [] :=
  List.drop_eq_nil_of_le (by simpa using h)

/-- A number that fits into its bytes is read back from them. -/
theorem leValue_leBytes (count n : ℕ) (h : n < 256 ^ count) :
    leValue (leBytes count n) = n := by
  induction count generalizing n with
  | zero => simp_all [leBytes, leValue]
  | succ count ih =>
    have hdiv : n / 256 < 256 ^ count := by
      apply Nat.div_lt_of_lt_mul
      rw [Nat.pow_succ] at h
      omega
    simp only [leBytes, leValue, UInt8.toNat_ofNat', ih _ hdiv]
    omega

/-- The value of some bytes fits into them. -/
theorem leValue_lt (bytes : List UInt8) : leValue bytes < 256 ^ bytes.length := by
  induction bytes with
  | nil => decide
  | cons b bs ih =>
    have hb := b.toNat_lt
    simp only [leValue, List.length_cons, Nat.pow_succ]
    omega

/-- Bytes are written again from their value. -/
theorem leBytes_leValue (bytes : List UInt8) : leBytes bytes.length (leValue bytes) = bytes := by
  induction bytes with
  | nil => rfl
  | cons b bs ih =>
    have hb := b.toNat_lt
    have hdiv : (b.toNat + 256 * leValue bs) / 256 = leValue bs := by omega
    simp only [leValue, List.length_cons, leBytes, hdiv, ih, List.cons.injEq, and_true]
    apply UInt8.toNat_inj.mp
    simp only [UInt8.toNat_ofNat']
    omega

/-- Two bytes hold a sixteen-bit number. -/
theorem u16_leBytes (v : UInt16) : UInt16.ofNat (leValue (leBytes 2 v.toNat)) = v := by
  rw [leValue_leBytes 2 _ (by simpa using v.toNat_lt)]
  simp

/-- Four bytes hold a thirty-two-bit number. -/
theorem u32_leBytes (v : UInt32) : UInt32.ofNat (leValue (leBytes 4 v.toNat)) = v := by
  rw [leValue_leBytes 4 _ (by simpa using v.toNat_lt)]
  simp

/-- Two bytes stand for a number iff they are its bytes. -/
theorem u16_eq_iff {bytes : List UInt8} (h : bytes.length = 2) (v : UInt16) :
    UInt16.ofNat (leValue bytes) = v ↔ bytes = leBytes 2 v.toNat := by
  constructor
  · rintro rfl
    have hlt := leValue_lt bytes
    rw [h] at hlt
    rw [UInt16.toNat_ofNat_of_lt' hlt, ← h, leBytes_leValue]
  · rintro rfl
    exact u16_leBytes v

/-- Four bytes stand for a number iff they are its bytes. -/
theorem u32_eq_iff {bytes : List UInt8} (h : bytes.length = 4) (v : UInt32) :
    UInt32.ofNat (leValue bytes) = v ↔ bytes = leBytes 4 v.toNat := by
  constructor
  · rintro rfl
    have hlt := leValue_lt bytes
    rw [h] at hlt
    rw [UInt32.toNat_ofNat_of_lt' hlt, ← h, leBytes_leValue]
  · rintro rfl
    exact u32_leBytes v

/-! ## Copying over the beginning of a structure -/

/-- A field of a structure that is copied over from its beginning has the wanted bytes,
whatever the structure held, iff it is copied whole and those are the bytes copied. -/
theorem field_overwritten_iff {received field : List UInt8} {size offset width : ℕ}
    (hwidth : 0 < width) (hsize : offset + width ≤ size) :
    (∀ old : List UInt8, old.length = size →
      ((received ++ old.drop received.length).drop offset).take width = field) ↔
      offset + width ≤ received.length ∧ (received.drop offset).take width = field := by
  constructor
  · intro hall
    have hwhole : offset + width ≤ received.length := by
      by_contra hpart
      -- the last byte of the field is an old one, so it can be chosen
      have hlast : ∀ b : UInt8, field[width - 1]? = some b := by
        intro b
        rw [← hall (List.replicate size b) (by simp)]
        rw [List.getElem?_take_of_lt (by omega), List.getElem?_drop,
          List.getElem?_append_right (by omega), List.getElem?_drop, List.getElem?_replicate]
        rw [if_pos (by omega)]
      have hboth := (hlast 0).symm.trans (hlast 1)
      simp at hboth
    refine ⟨hwhole, ?_⟩
    have hzero := hall (List.replicate size 0) (by simp)
    rw [List.drop_append_of_le_length (by omega), List.take_append_of_le_length (by simp; omega)]
      at hzero
    exact hzero
  · rintro ⟨hwhole, hfield⟩ old -
    rw [List.drop_append_of_le_length (by omega), List.take_append_of_le_length (by simp; omega)]
    exact hfield

end LittleEndian
