import Mathlib.Logic.Relation
import Mathlib.Tactic.Common

/-!
# Queues with tokens

A queue that consumers take from without looking whether it is empty: whoever appends an
item owes a token for it, and whoever wants an item takes a token first and an item
afterwards.  Producers and consumers are only counted here, the ones that owe a token and
the ones that hold one; anybody may add a token nobody owed.

`Sound` says that every item is covered by a token that is there, held or owed, and that
the items leave in the order they came in.  A token too many only lets a consumer find the
queue empty.
-/

set_option autoImplicit false

/-- A queue of items with its tokens, the producers that `owed` one and the consumers that
`claimed` one, and all items that ever came in and went out. -/
structure TokenQueue (α : Type*) where
  items : List α
  tokens : ℕ
  owed : ℕ
  claimed : ℕ
  pushed : List α
  popped : List α

namespace TokenQueue

open Relation

variable {α : Type*} {q r : TokenQueue α}

/-- Append an item.  The token for it is added later. -/
def push (a : α) (q : TokenQueue α) : TokenQueue α :=
  { q with items := q.items ++ [a], owed := q.owed + 1, pushed := q.pushed ++ [a] }

/-- Add a token that was owed. -/
def post (q : TokenQueue α) : TokenQueue α :=
  { q with tokens := q.tokens + 1, owed := q.owed - 1 }

/-- Take a token. -/
def claim (q : TokenQueue α) : TokenQueue α :=
  { q with tokens := q.tokens - 1, claimed := q.claimed + 1 }

/-- Take an item for a token that was taken, if there is one. -/
def pop (q : TokenQueue α) : TokenQueue α :=
  { q with
    items := q.items.tail
    claimed := q.claimed - 1
    popped := q.popped ++ q.items.head?.toList }

/-- Add a token that nobody owed. -/
def donate (q : TokenQueue α) : TokenQueue α := { q with tokens := q.tokens + 1 }

/-- What may happen to a queue. -/
inductive Step : TokenQueue α → TokenQueue α → Prop
  | push (q : TokenQueue α) (a : α) : Step q (q.push a)
  | post (q : TokenQueue α) (h : 0 < q.owed) : Step q q.post
  | claim (q : TokenQueue α) (h : 0 < q.tokens) : Step q q.claim
  | pop (q : TokenQueue α) (h : 0 < q.claimed) : Step q q.pop
  | donate (q : TokenQueue α) : Step q q.donate

/-- Every item is covered by a token, and the items leave in the order they came in. -/
structure Sound (q : TokenQueue α) : Prop where
  covered : q.items.length ≤ q.tokens + q.claimed + q.owed
  ordered : q.popped ++ q.items = q.pushed

/-- Whatever happens to it once, a sound queue stays sound. -/
theorem Sound.step (h : Sound q) (hstep : Step q r) : Sound r := by
  have hcovered := h.covered
  have hordered := h.ordered
  cases hstep with
  | push a =>
    constructor
    · simp only [push, List.length_append, List.length_singleton]
      omega
    · simp only [push, ← hordered, List.append_assoc]
  | post howed =>
    constructor
    · simp only [post]
      omega
    · exact hordered
  | claim htokens =>
    constructor
    · simp only [claim]
      omega
    · exact hordered
  | pop hclaimed =>
    constructor
    · simp only [pop, List.length_tail]
      omega
    · -- an empty queue gives nothing and stays empty
      refine Eq.trans ?_ hordered
      cases hitems : q.items with
      | nil => simp [pop, hitems]
      | cons a items => simp [pop, hitems]
  | donate =>
    constructor
    · simp only [donate]
      omega
    · exact hordered

/-- **A sound queue stays sound**, whatever happens to it. -/
theorem Sound.steps (h : Sound q) (hsteps : ReflTransGen Step q r) : Sound r := by
  induction hsteps with
  | refl => exact h
  | tail _ hstep ih => exact ih.step hstep

/-- Nothing ever left or came in, and nobody is at work. -/
theorem sound_of_empty (hitems : q.items = []) (hpushed : q.pushed = []) (hpopped : q.popped = []) :
    Sound q where
  covered := by simp [hitems]
  ordered := by simp [hitems, hpushed, hpopped]

/-- Without a token that is there, held or owed there is no item. -/
theorem Sound.items_eq_nil (h : Sound q) (htokens : q.tokens = 0) (hclaimed : q.claimed = 0)
    (howed : q.owed = 0) : q.items = [] := by
  have hcovered := h.covered
  rw [htokens, hclaimed, howed] at hcovered
  exact List.length_eq_zero_iff.mp (Nat.le_zero.mp hcovered)

/-! ## Counting the workers at a program point -/

/-- When one worker of a list goes on, the number of workers that satisfy `p` changes by what
that worker did. -/
theorem countP_set_add {β : Type*} {p : β → Bool} {workers : List β} {i : ℕ} {w : β} (v : β)
    (h : workers[i]? = some w) :
    (workers.set i v).countP p + (if p w then 1 else 0) =
      workers.countP p + (if p v then 1 else 0) := by
  obtain ⟨hi, hget⟩ := List.getElem?_eq_some_iff.mp h
  rw [List.countP_set hi, hget]
  by_cases hw : p w = true
  · have hpos : 0 < workers.countP p := List.countP_pos_iff.mpr ⟨w, List.mem_of_getElem? h, hw⟩
    rw [if_pos hw]
    omega
  · rw [if_neg hw]
    omega

/-- A change that `p` does not see changes no count. -/
theorem countP_modify {β : Type*} {p : β → Bool} {f : β → β} (h : ∀ w, p (f w) = p w)
    (workers : List β) (i : ℕ) : (workers.modify i f).countP p = workers.countP p := by
  induction workers generalizing i with
  | nil => cases i <;> rfl
  | cons w workers ih =>
    cases i with
    | zero => simp [List.countP_cons, h]
    | succ i => simp [List.countP_cons, ih]

end TokenQueue
