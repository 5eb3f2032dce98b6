import Mathlib.Data.List.Sort
import Mathlib.Tactic.Common

/-!
# Erasing queued positions one after another

Positions of a list are collected first and erased afterwards, in the order in which
they were collected.  Every erase moves the later entries down by one, so a position
collected earlier may name another entry, or none, by the time it is used.

`eraseEach` is that loop, `without` what it is meant to compute.  For ascending
positions in range and a list without repetition the two agree iff at most one
position was collected (`eraseEach_eq_without_iff`): with two, the entry at the second
position is never erased (`mem_of_eraseEach`).
-/

set_option autoImplicit false

namespace QueuedErase

variable {α β : Type*}

/-- Erase the given positions one after another; `none` when one is out of range at the
moment it is used. -/
def eraseEach : List ℕ → List α → Option (List α)
  | [], xs => some xs
  | p :: ps, xs => if p < xs.length then eraseEach ps (xs.eraseIdx p) else none

/-- The entries whose position is not among the given ones, in order. -/
def without (ps : List ℕ) (xs : List α) : List α :=
  (xs.zipIdx.filter (fun e => e.2 ∉ ps)).map Prod.fst

/-- With nothing queued, nothing is erased. -/
@[simp]
theorem eraseEach_nil (xs : List α) : eraseEach [] xs = some xs := rfl

/-- Without no position, a list is what it was. -/
@[simp]
theorem without_nil (xs : List α) : without [] xs = xs := by
  simp [without]

/-- The elements left are those at the positions that are not named. -/
theorem mem_without (ps : List ℕ) (xs : List α) (x : α) :
    x ∈ without ps xs ↔ ∃ j, xs[j]? = some x ∧ j ∉ ps := by
  simp only [without, List.mem_map, List.mem_filter, decide_eq_true_eq, Prod.exists,
    List.mem_zipIdx_iff_getElem?]
  constructor
  · rintro ⟨y, j, ⟨hj, hps⟩, rfl⟩
    exact ⟨j, hj, hps⟩
  · rintro ⟨j, hj, hps⟩
    exact ⟨x, j, ⟨hj, hps⟩, rfl⟩

/-- Dropping the entry numbered `p + k` of a list numbered from `k` is erasing it. -/
theorem filter_zipIdx_ne (xs : List α) (p k : ℕ) :
    ((xs.zipIdx k).filter (fun e => !decide (e.2 = p + k))).map Prod.fst =
      xs.eraseIdx p := by
  induction xs generalizing p k with
  | nil => simp
  | cons x xs ih =>
    cases p with
    | zero =>
      have hrest : (xs.zipIdx (k + 1)).filter (fun e => !decide (e.2 = k)) =
          xs.zipIdx (k + 1) := by
        apply List.filter_eq_self.mpr
        intro e he
        have := List.le_snd_of_mem_zipIdx he
        have hne : e.2 ≠ k := by omega
        simp [hne]
      simp [List.zipIdx_cons, hrest]
    | succ p =>
      have := ih p (k + 1)
      rw [show p + (k + 1) = p + 1 + k by omega] at this
      simp [List.zipIdx_cons, this]

/-- Leaving out one position is erasing it. -/
theorem without_singleton (p : ℕ) (xs : List α) : without [p] xs = xs.eraseIdx p := by
  simpa [without] using filter_zipIdx_ne xs p 0

/-- Positions from `k` on leave the entries below `k` where they are. -/
theorem getElem?_eraseEach_of_lt {ps : List ℕ} {xs ys : List α} {j : ℕ}
    (h : eraseEach ps xs = some ys) (hps : ∀ p ∈ ps, j < p) : ys[j]? = xs[j]? := by
  induction ps generalizing xs with
  | nil =>
    cases h
    rfl
  | cons p ps ih =>
    simp only [eraseEach] at h
    split at h
    · have hj : j < p := hps p (by simp)
      rw [ih h fun q hq => hps q (by simp [hq]), List.getElem?_eraseIdx, if_pos hj]
    · cases h

/-- With two ascending positions queued, the entry at the second one survives: the
first erase has moved it below every position still to be used. -/
theorem mem_of_eraseEach {p q : ℕ} {ps : List ℕ} {xs ys : List α} {x : α}
    (hsort : (p :: q :: ps).Pairwise (· < ·)) (h : eraseEach (p :: q :: ps) xs = some ys)
    (hx : xs[q]? = some x) : x ∈ ys := by
  have hpq : p < q := (List.pairwise_cons.mp hsort).1 q (by simp)
  have hrest : ∀ r ∈ q :: ps, q - 1 < r := by
    intro r hr
    rcases List.mem_cons.mp hr with rfl | hr
    · omega
    · have := (List.pairwise_cons.mp (List.pairwise_cons.mp hsort).2).1 r hr
      omega
  rw [eraseEach] at h
  split at h
  · have hget := getElem?_eraseEach_of_lt h hrest
    rw [List.getElem?_eraseIdx, if_neg (by omega), show q - 1 + 1 = q by omega, hx] at hget
    exact List.mem_of_getElem? hget
  · cases h

/-- **Queued erasing is exact only for a single position.** -/
theorem eraseEach_eq_without_iff {ps : List ℕ} {xs : List α}
    (hsort : ps.Pairwise (· < ·)) (hrange : ∀ p ∈ ps, p < xs.length) (hnodup : xs.Nodup) :
    eraseEach ps xs = some (without ps xs) ↔ ps.length ≤ 1 := by
  match ps with
  | [] => simp
  | [p] =>
    have hp : p < xs.length := hrange p (by simp)
    simp [eraseEach, hp, without_singleton]
  | p :: q :: ps =>
    have hq : q < xs.length := hrange q (by simp)
    apply iff_of_false
    · intro h
      obtain ⟨j, hj, hnot⟩ := (mem_without _ _ _).mp
        (mem_of_eraseEach hsort h (List.getElem?_eq_getElem hq))
      rw [← List.getElem?_eq_getElem hq] at hj
      have hjlt : j < xs.length :=
        (List.getElem?_eq_some_iff.mp (hj.trans (List.getElem?_eq_getElem hq))).1
      have hjq : j = q := (List.getElem?_inj hjlt hnodup).mp hj
      exact hnot (by simp [hjq])
    · simp

/-- Erasing a position commutes with a map. -/
theorem eraseIdx_map (f : α → β) (xs : List α) (p : ℕ) :
    (xs.map f).eraseIdx p = (xs.eraseIdx p).map f := by
  simp [List.eraseIdx_eq_take_drop_succ, List.map_take, List.map_drop]

/-- Erasing the queued positions one after another commutes with a map. -/
theorem eraseEach_map (f : α → β) (ps : List ℕ) (xs : List α) :
    eraseEach ps (xs.map f) = (eraseEach ps xs).map (List.map f) := by
  induction ps generalizing xs with
  | nil => rfl
  | cons p ps ih =>
    simp only [eraseEach, List.length_map]
    split
    · rw [← ih, eraseIdx_map]
    · rfl

/-- Whatever positions are erased, what remains are entries of the list, in order. -/
theorem sublist_of_eraseEach {ps : List ℕ} {xs ys : List α}
    (h : eraseEach ps xs = some ys) : ys.Sublist xs := by
  induction ps generalizing xs with
  | nil =>
    cases h
    exact List.Sublist.refl _
  | cons p ps ih =>
    simp only [eraseEach] at h
    split at h
    · exact (ih h).trans (List.eraseIdx_sublist xs p)
    · cases h

/-- As long as position zero is not queued, the head stays. -/
theorem head_of_eraseEach {ps : List ℕ} {xs ys : List α}
    (h : eraseEach ps xs = some ys) (hps : ∀ p ∈ ps, 1 ≤ p) : ys[0]? = xs[0]? :=
  getElem?_eraseEach_of_lt h hps

end QueuedErase
