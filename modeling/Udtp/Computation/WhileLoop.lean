import Mathlib.Tactic.Common
import Mathlib.Data.Nat.Basic

/-!
# Loops with a condition

`while` over an arbitrary state, for a bounded number of passes.  A pass is none where the
condition does not hold any more, and may fault.  A loop whose passes keep the condition true
never ends (`whileLoop_ne_some`); one whose passes lower a measure does
(`whileLoop_of_measure`).
-/

set_option autoImplicit false

namespace WhileLoop

variable {σ ε : Type*}

/-- The state a loop ends in, and none where so many passes were not enough. -/
def whileLoop (pass : σ → Option (Except ε σ)) : ℕ → σ → Except ε (Option σ)
  | 0, _ => .ok none
  | passes + 1, s =>
    match pass s with
    | none => .ok (some s)
    | some (.error e) => .error e
    | some (.ok t) => whileLoop pass passes t

variable {pass : σ → Option (Except ε σ)} {s t : σ} {passes : ℕ}

/-- Where the condition fails, the loop ends. -/
theorem whileLoop_exit (h : pass s = none) : whileLoop pass (passes + 1) s = .ok (some s) := by
  rw [whileLoop, h]

/-- A pass that succeeds leaves one pass less to go. -/
theorem whileLoop_pass (h : pass s = some (.ok t)) :
    whileLoop pass (passes + 1) s = whileLoop pass passes t := by
  rw [whileLoop, h]

/-- The condition does not hold where a loop ends. -/
theorem whileLoop_condition (h : whileLoop pass passes s = .ok (some t)) : pass t = none := by
  induction passes generalizing s with
  | zero => cases h
  | succ passes ih =>
    rw [whileLoop] at h
    split at h
    · rename_i hpass
      cases h
      exact hpass
    · cases h
    · exact ih h

/-- What every pass keeps, the loop keeps. -/
theorem whileLoop_preserves (Inv : σ → Prop)
    (next : ∀ s t, Inv s → pass s = some (.ok t) → Inv t) (start : Inv s)
    (h : whileLoop pass passes s = .ok (some t)) : Inv t := by
  induction passes generalizing s with
  | zero => cases h
  | succ passes ih =>
    rw [whileLoop] at h
    split at h
    · cases h
      exact start
    · cases h
    · rename_i u hpass
      exact ih (next s u start hpass) h

/-- A loop whose passes keep the condition true never ends. -/
theorem whileLoop_ne_some (Inv : σ → Prop)
    (next : ∀ s t, Inv s → pass s = some (.ok t) → Inv t) (continues : ∀ s, Inv s → pass s ≠ none)
    (start : Inv s) : whileLoop pass passes s ≠ .ok (some t) := by
  intro h
  exact continues t (whileLoop_preserves Inv next start h) (whileLoop_condition h)

/-- A loop each of whose passes succeeds and lowers a measure by one takes as many passes as
the measure says, and one more test of the condition. -/
theorem whileLoop_of_measure (pass : σ → Option (Except ε σ)) (s : σ) (Inv : σ → Prop)
    (measure : σ → ℕ)
    (next : ∀ s, Inv s → measure s ≠ 0 →
      ∃ t, pass s = some (.ok t) ∧ Inv t ∧ measure t + 1 = measure s)
    (exit : ∀ s, Inv s → measure s = 0 → pass s = none) (start : Inv s) :
    (∀ passes ≤ measure s, whileLoop pass passes s = .ok none) ∧
      ∃ t, whileLoop pass (measure s + 1) s = .ok (some t) ∧ Inv t ∧ measure t = 0 := by
  induction hm : measure s generalizing s with
  | zero =>
    constructor
    · intro passes hle
      obtain rfl : passes = 0 := by omega
      rfl
    · exact ⟨s, whileLoop_exit (exit s start hm), start, hm⟩
  | succ m ih =>
    obtain ⟨t, hpass, ht, hmeasure⟩ := next s start (by omega)
    obtain ⟨hshort, u, hlong, hu⟩ := ih t ht (by omega)
    constructor
    · intro passes hle
      cases passes with
      | zero => rfl
      | succ passes =>
        rw [whileLoop_pass hpass]
        exact hshort passes (by omega)
    · exact ⟨u, by rw [whileLoop_pass hpass, hlong], hu⟩

end WhileLoop
