import Mathlib.Data.Set.Insert
import Mathlib.Data.List.Basic
import Mathlib.Tactic.Common

/-!
# Traces of reads and assignments

The locations an execution reads and assigns, in order.  Two things are asked of such a trace:
that it keeps to the locations that exist, and that it reads no location before it was
assigned.  Both are stated for the whole trace and computed piece by piece, so that the trace
of an execution can be put together from those of its parts.
-/

set_option autoImplicit false

namespace AccessTrace

/-- One access to a location. -/
inductive Access (ι : Type*)
  | read (i : ι)
  | assign (i : ι)

variable {ι : Type*}

def Access.location : Access ι → ι
  | .read i => i
  | .assign i => i

/-! ## Locations that exist -/

/-- All accesses are to locations that exist. -/
def Within (valid : ι → Prop) (trace : List (Access ι)) : Prop := ∀ a ∈ trace, valid a.location

variable {valid : ι → Prop} {xs ys : List (Access ι)} {i : ι}

/-- No access leaves the valid locations. -/
@[simp]
theorem within_nil : Within valid [] := by simp [Within]

/-- Two traces stay inside iff each of them does. -/
@[simp]
theorem within_append : Within valid (xs ++ ys) ↔ Within valid xs ∧ Within valid ys :=
  List.forall_mem_append

/-! ## Reading what was assigned -/

/-- Every location that is read was assigned before, or had a value from the beginning. -/
def AssignedFirst (initial : Set ι) (trace : List (Access ι)) : Prop :=
  ∀ before i after, trace = before ++ .read i :: after → i ∈ initial ∨ .assign i ∈ before

/-- The locations a trace assigns. -/
def assigned (trace : List (Access ι)) : Set ι := {i | .assign i ∈ trace}

/-- A location is assigned by a trace iff the trace has an assignment to it. -/
theorem mem_assigned : i ∈ assigned xs ↔ .assign i ∈ xs := Iff.rfl

variable {A : Set ι}

/-- Nothing is read by the empty trace. -/
@[simp]
theorem assignedFirst_nil : AssignedFirst A ([] : List (Access ι)) := by
  intro before i after h
  simp at h

/-- The empty trace assigns nothing. -/
@[simp]
theorem assigned_nil : assigned ([] : List (Access ι)) = ∅ := by
  apply Set.eq_empty_of_forall_notMem
  intro i hi
  exact absurd hi List.not_mem_nil

/-- A read assigns nothing. -/
@[simp]
theorem assigned_cons_read : assigned (.read i :: xs) = assigned xs := by
  ext j
  simp [assigned]

/-- An assignment adds its location. -/
@[simp]
theorem assigned_cons_assign : assigned (.assign i :: xs) = insert i (assigned xs) := by
  ext j
  simp [assigned]

/-- Two traces assign what either of them assigns. -/
@[simp]
theorem assigned_append : assigned (xs ++ ys) = assigned xs ∪ assigned ys := by
  ext j
  simp [assigned]

/-- What the first part of a trace assigned may be read in the second. -/
@[simp]
theorem assignedFirst_append :
    AssignedFirst A (xs ++ ys) ↔ AssignedFirst A xs ∧ AssignedFirst (A ∪ assigned xs) ys := by
  constructor
  · intro h
    constructor
    · rintro before i after rfl
      exact h before i (after ++ ys) (by simp)
    · rintro before i after rfl
      rcases h (xs ++ before) i after (by simp) with hi | hi
      · exact Or.inl (Or.inl hi)
      · rcases List.mem_append.mp hi with hi | hi
        · exact Or.inl (Or.inr hi)
        · exact Or.inr hi
  · rintro ⟨hxs, hys⟩ before i after heq
    rcases List.append_eq_append_iff.mp heq with ⟨middle, rfl, hrest⟩ | ⟨middle, rfl, hrest⟩
    · rcases hys middle i after hrest with (hi | hi) | hi
      · exact Or.inl hi
      · exact Or.inr (List.mem_append_left _ hi)
      · exact Or.inr (List.mem_append_right _ hi)
    · cases middle with
      | nil =>
        rcases hys [] i after hrest.symm with (hi | hi) | hi
        · exact Or.inl hi
        · exact Or.inr (by simpa [assigned] using hi)
        · exact absurd hi List.not_mem_nil
      | cons a middle =>
        rw [List.cons_append, List.cons.injEq] at hrest
        obtain ⟨rfl, rfl⟩ := hrest
        exact hxs before i middle rfl

/-- A read needs its location assigned before. -/
@[simp]
theorem assignedFirst_cons_read :
    AssignedFirst A (.read i :: xs) ↔ i ∈ A ∧ AssignedFirst A xs := by
  have hone : AssignedFirst A [.read i] ↔ i ∈ A := by
    constructor
    · intro h
      rcases h [] i [] rfl with hi | hi
      · exact hi
      · exact absurd hi List.not_mem_nil
    · intro hi before j after heq
      cases before with
      | nil =>
        cases heq
        exact Or.inl hi
      | cons a before => simp at heq
  rw [← List.singleton_append, assignedFirst_append, hone]
  simp [assigned]

/-- An assignment serves all reads after it. -/
@[simp]
theorem assignedFirst_cons_assign :
    AssignedFirst A (.assign i :: xs) ↔ AssignedFirst (insert i A) xs := by
  have hone : AssignedFirst A [.assign i] := by
    intro before j after heq
    cases before with
    | nil => cases heq
    | cons a before => simp at heq
  rw [← List.singleton_append, assignedFirst_append]
  have hunion : A ∪ assigned [.assign i] = insert i A := by
    ext j
    simp [assigned, or_comm]
  rw [hunion]
  exact and_iff_right hone

/-- A part that needs a location must not follow one that leaves it unassigned. -/
theorem not_assignedFirst_append (hA : i ∉ A) (hxs : i ∉ assigned xs)
    (hneeds : ∀ B, AssignedFirst B ys → i ∈ B) : ¬ AssignedFirst A (xs ++ ys) := by
  intro h
  rcases hneeds _ (assignedFirst_append.mp h).2 with hi | hi
  · exact hA hi
  · exact hxs hi

/-- A trace that assigns only reads nothing. -/
theorem assignedFirst_of_assigns (h : ∀ a ∈ xs, ∃ i, a = .assign i) : AssignedFirst A xs := by
  rintro before i after rfl
  obtain ⟨j, hj⟩ := h (.read i) (by simp)
  cases hj

/-! ## Spans of bytes -/

/-- Read or assign a span of the bytes of a region, one after another. -/
def span (access : ι → Access ι) (region : ℕ → ι) (offset length : ℕ) : List (Access ι) :=
  (List.range' offset length).map fun k => access (region k)

variable {access : ι → Access ι} {region : ℕ → ι} {offset length size : ℕ}

/-- A span that is not empty lies within a region iff its end does. -/
theorem forall_span_iff (hlength : 0 < length) :
    (∀ k ∈ List.range' offset length, k < size) ↔ offset + length ≤ size := by
  constructor
  · intro h
    have hlast := h (offset + (length - 1)) (by rw [List.mem_range'_1]; omega)
    omega
  · intro h k hk
    rw [List.mem_range'_1] at hk
    omega

/-- A span over a region of a given size stays inside iff it ends inside. -/
theorem within_span (haccess : ∀ i, (access i).location = i)
    (hvalid : ∀ k, valid (region k) ↔ k < size) (hlength : 0 < length) :
    Within valid (span access region offset length) ↔ offset + length ≤ size := by
  rw [← forall_span_iff hlength]
  simp only [Within, span, List.forall_mem_map, haccess, hvalid]

/-- Reading a span assigns nothing. -/
@[simp]
theorem assigned_span_read : assigned (span .read region offset length) = ∅ := by
  ext i
  simp [assigned, span]

/-- Assigning a span assigns the locations at its offsets and no others. -/
@[simp]
theorem mem_assigned_span :
    i ∈ assigned (span .assign region offset length) ↔
      ∃ k, (offset ≤ k ∧ k < offset + length) ∧ region k = i := by
  simp [assigned, span, List.mem_range'_1]

/-- Assigning a span reads nothing. -/
@[simp]
theorem assignedFirst_span_assign : AssignedFirst A (span .assign region offset length) := by
  apply assignedFirst_of_assigns
  intro a ha
  obtain ⟨k, -, rfl⟩ := List.mem_map.mp ha
  exact ⟨region k, rfl⟩

/-- Reading a span needs all its locations assigned before. -/
theorem assignedFirst_span_read :
    AssignedFirst A (span .read region offset length) ↔
      ∀ k ∈ List.range' offset length, region k ∈ A := by
  unfold span
  induction List.range' offset length with
  | nil => simp
  | cons k ks ih => simp [ih]

end AccessTrace
