import Mathlib.Data.List.Basic
import Mathlib.Order.Bounds.Basic

/-!
# First matches

A search that stops at its first match, in a list, in two lists one after the other, and for
a position.  Where a list is kept in increasing order, as lists that are only appended to
are, the first match is the least entry that matches.
-/

set_option autoImplicit false

namespace Lookup

variable {α : Type*} {p : α → Bool} {a : α}

/-! ## One list -/

/-- In an increasing list the first match is the least one. -/
theorem isLeast_of_find? [Preorder α] {l : List α} (hl : l.Pairwise (· < ·))
    (h : l.find? p = some a) : IsLeast {x | x ∈ l ∧ p x = true} a := by
  refine ⟨⟨List.mem_of_find?_eq_some h, List.find?_some h⟩, ?_⟩
  rintro x ⟨hx, hpx⟩
  obtain ⟨-, before, after, rfl, hbefore⟩ := List.find?_eq_some_iff_append.mp h
  rcases List.mem_append.mp hx with hx | hx
  · have hmiss := hbefore x hx
    simp [hpx] at hmiss
  · rcases List.mem_cons.mp hx with rfl | hx
    · exact le_refl x
    · exact le_of_lt (List.rel_of_pairwise_cons (List.pairwise_append.mp hl).2.1 hx)

/-! ## A list in front of another -/

/-- Search a list of one's own before a common one. -/
def lookup (p : α → Bool) (own all : List α) : Option α := (own.find? p).or (all.find? p)

/-- Where all of one's own is in the common list too, a search fails iff nothing there
matches. -/
theorem lookup_eq_none_iff {own all : List α} (hsub : ∀ x ∈ own, x ∈ all) :
    lookup p own all = none ↔ ∀ x ∈ all, p x = false := by
  simp only [lookup, Option.or_eq_none_iff, List.find?_eq_none, Bool.not_eq_true]
  constructor
  · exact And.right
  · intro hall
    exact ⟨fun x hx => hall x (hsub x hx), hall⟩

/-- A search finds the least match of one's own, and the least match of all where one has
none. -/
theorem isLeast_of_lookup [Preorder α] {own all : List α} (hown : own.Pairwise (· < ·))
    (hall : all.Pairwise (· < ·)) (h : lookup p own all = some a) :
    p a = true ∧ ((∃ x ∈ own, p x = true) → IsLeast {x | x ∈ own ∧ p x = true} a) ∧
      ((∀ x ∈ own, p x = false) → IsLeast {x | x ∈ all ∧ p x = true} a) := by
  unfold lookup at h
  cases hfound : own.find? p with
  | some b =>
    rw [hfound, Option.some_or] at h
    cases h
    refine ⟨List.find?_some hfound, fun _ => isLeast_of_find? hown hfound, ?_⟩
    intro hnone
    have hmiss := hnone a (List.mem_of_find?_eq_some hfound)
    rw [List.find?_some hfound] at hmiss
    cases hmiss
  | none =>
    rw [hfound, Option.none_or] at h
    refine ⟨List.find?_some h, ?_, fun _ => isLeast_of_find? hall h⟩
    rintro ⟨x, hx, hpx⟩
    exact absurd hpx (List.find?_eq_none.mp hfound x hx)

/-! ## Positions -/

/-- The positions of the entries that match. -/
def positions (p : α → Bool) (l : List α) : Set ℕ := {k | ∃ a, l[k]? = some a ∧ p a = true}

/-- The index a search finds is the least position that satisfies the predicate. -/
theorem isLeast_of_findIdx? {l : List α} {k : ℕ} (h : l.findIdx? p = some k) :
    IsLeast (positions p l) k := by
  obtain ⟨hk, hpk, hbefore⟩ := List.findIdx?_eq_some_iff_getElem.mp h
  refine ⟨⟨l[k], List.getElem?_eq_getElem hk, hpk⟩, ?_⟩
  rintro j ⟨a, ha, hpa⟩
  by_contra hlt
  have hj : j < k := Nat.lt_of_not_le hlt
  obtain ⟨hlen, rfl⟩ := List.getElem?_eq_some_iff.mp ha
  exact hbefore j hj hpa

/-- Where a search finds nothing, no position satisfies the predicate. -/
theorem positions_eq_empty_of_findIdx? {l : List α} (h : l.findIdx? p = none) :
    positions p l = ∅ := by
  rw [List.findIdx?_eq_none_iff] at h
  apply Set.eq_empty_of_forall_notMem
  rintro k ⟨a, ha, hpa⟩
  have hmiss := h a (List.mem_of_getElem? ha)
  rw [hpa] at hmiss
  cases hmiss

end Lookup
