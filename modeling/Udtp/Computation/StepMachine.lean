import Mathlib.Data.List.Induction
import Mathlib.Tactic.Common

/-!
# Faulting step machines

A machine is a function `step : σ → ι → Except ε σ`: from a state and one input it
reaches the next state, or faults.  This file runs such a machine on a list of inputs
and supplies the inductions the developments over it use: an invariant that one step
preserves holds along every run, one that also lets every input be read makes runs of any
length succeed, and a property of a state *together with the inputs that led to it* may be
proved by appending one input at the end.

The last part is an unwinding theorem.  A machine shows a `core` of its state and labels some of
its steps with events.  States that are related show the same.  When good steps without an event
keep a state related to what it was related to, and good steps with the same event keep two states
related, then two runs of good steps with the same events show the same cores up to repetition.  A
machine may be run with a note beside its state (`noted`), for relations and for steps that are good
or not depending on what happened before.
-/

set_option autoImplicit false

namespace StepMachine

variable {σ ι ε κ ω : Type*}

/-- A computation whose result is only rearranged succeeded before. -/
theorem map_ok {ε α β : Type*} {x : Except ε α} {f : α → β} {b : β} (h : x.map f = .ok b) :
    ∃ a, x = .ok a ∧ f a = b := by
  cases x with
  | error e => cases h
  | ok a =>
    cases h
    exact ⟨a, rfl, rfl⟩

/-- A map of a result fails iff the result does. -/
theorem map_error_iff {ε α β : Type*} {x : Except ε α} {f : α → β} {e : ε} :
    x.map f = .error e ↔ x = .error e := by
  cases x <;> simp [Except.map]

/-- A map of the errors leaves what succeeded alone. -/
theorem mapError_ok {ε ε' α : Type*} {x : Except ε α} {f : ε → ε'} {a : α}
    (h : x.mapError f = .ok a) : x = .ok a := by
  cases x with
  | error e => cases h
  | ok b =>
    cases h
    rfl

/-! ## Runs -/

/-- The state reached on a list of inputs, or the first fault. -/
def run (step : σ → ι → Except ε σ) : σ → List ι → Except ε σ
  | s, [] => .ok s
  | s, i :: is =>
    match step s i with
    | .error e => .error e
    | .ok t => run step t is

/-- A run on no inputs stays where it is. -/
@[simp]
theorem run_nil (step : σ → ι → Except ε σ) (s : σ) : run step s [] = .ok s := rfl

/-- A run goes through its first step. -/
theorem run_cons_ok (step : σ → ι → Except ε σ) (s u : σ) (i : ι) (is : List ι) :
    run step s (i :: is) = .ok u ↔ ∃ t, step s i = .ok t ∧ run step t is = .ok u := by
  cases h : step s i with
  | error e => simp [run, h]
  | ok t => simp [run, h]

/-- A run on two lists of inputs is one on the first and then one on the second. -/
theorem run_append_ok (step : σ → ι → Except ε σ) (s u : σ) (as bs : List ι) :
    run step s (as ++ bs) = .ok u ↔
      ∃ t, run step s as = .ok t ∧ run step t bs = .ok u := by
  induction as generalizing s with
  | nil => simp
  | cons a as ih =>
    rw [List.cons_append, run_cons_ok]
    constructor
    · rintro ⟨t, hstep, hrun⟩
      obtain ⟨m, hm, hu⟩ := (ih t).mp hrun
      exact ⟨m, (run_cons_ok step s m a as).mpr ⟨t, hstep, hm⟩, hu⟩
    · rintro ⟨m, hm, hu⟩
      obtain ⟨t, hstep, hrun⟩ := (run_cons_ok step s m a as).mp hm
      exact ⟨t, hstep, (ih t).mpr ⟨m, hrun, hu⟩⟩

/-- A run ends with the step on its last input. -/
theorem run_snoc_ok (step : σ → ι → Except ε σ) (s u : σ) (as : List ι) (i : ι) :
    run step s (as ++ [i]) = .ok u ↔
      ∃ t, run step s as = .ok t ∧ step t i = .ok u := by
  rw [run_append_ok]
  simp only [run_cons_ok, run_nil, Except.ok.injEq, exists_eq_right]

/-- `Passes step s ins t`: running on `ins` from `s`, the machine is in `t` before the
first input, between two inputs or after the last. -/
def Passes (step : σ → ι → Except ε σ) (s : σ) (ins : List ι) (t : σ) : Prop :=
  ∃ as bs, ins = as ++ bs ∧ run step s as = .ok t

/-- `Takes step s ins t i`: running on `ins` from `s`, the machine reads the input `i`
in the state `t`.  The step itself may fault. -/
def Takes (step : σ → ι → Except ε σ) (s : σ) (ins : List ι) (t : σ) (i : ι) : Prop :=
  ∃ as bs, ins = as ++ i :: bs ∧ run step s as = .ok t

/-- One more input at the end of a run adds the step on it, in the state reached. -/
theorem takes_snoc (step : σ → ι → Except ε σ) (s u : σ) (ins : List ι) (i : ι)
    (h : run step s ins = .ok u) (t : σ) (j : ι) :
    Takes step s (ins ++ [i]) t j ↔ Takes step s ins t j ∨ (t = u ∧ j = i) := by
  constructor
  · rintro ⟨as, bs, heq, hrun⟩
    rcases List.eq_nil_or_concat bs with rfl | ⟨cs, c, rfl⟩
    · obtain ⟨rfl, hij⟩ := List.append_inj' heq rfl
      rw [h] at hrun
      cases hrun
      cases hij
      exact Or.inr ⟨rfl, rfl⟩
    · rw [List.concat_eq_append, ← List.cons_append, ← List.append_assoc] at heq
      obtain ⟨rfl, -⟩ := List.append_inj' heq rfl
      exact Or.inl ⟨as, cs, rfl, hrun⟩
  · rintro (⟨as, bs, rfl, hrun⟩ | ⟨rfl, rfl⟩)
    · exact ⟨as, bs ++ [i], by simp, hrun⟩
    · exact ⟨ins, [], rfl, h⟩

/-- The steps of a run are the first one and those of the run that goes on from it. -/
theorem forall_takes_cons (step : σ → ι → Except ε σ) (s : σ) (i : ι) (ins : List ι)
    (P : σ → ι → Prop) :
    (∀ t j, Takes step s (i :: ins) t j → P t j) ↔
      P s i ∧ ∀ m, step s i = .ok m → ∀ t j, Takes step m ins t j → P t j := by
  constructor
  · intro h
    refine ⟨h s i ⟨[], ins, rfl, rfl⟩, ?_⟩
    rintro m hm t j ⟨as, bs, rfl, hrun⟩
    exact h t j ⟨i :: as, bs, rfl, (run_cons_ok step s t i as).mpr ⟨m, hm, hrun⟩⟩
  · rintro ⟨hfirst, hrest⟩ t j ⟨as, bs, heq, hrun⟩
    cases as with
    | nil =>
      cases heq
      cases hrun
      exact hfirst
    | cons a as =>
      rw [List.cons_append, List.cons.injEq] at heq
      obtain ⟨rfl, rfl⟩ := heq
      obtain ⟨m, hm, hrun⟩ := (run_cons_ok step s t i as).mp hrun
      exact hrest m hm t j ⟨as, bs, rfl, hrun⟩

/-- A run on no inputs takes no step. -/
theorem forall_takes_nil (step : σ → ι → Except ε σ) (s : σ) (P : σ → ι → Prop) :
    ∀ t j, Takes step s [] t j → P t j := by
  rintro t j ⟨as, bs, heq, -⟩
  simp at heq

/-- Whether all steps of a run are as they should be. -/
def checks (step : σ → ι → Except ε σ) (P : σ → ι → Prop) [∀ s i, Decidable (P s i)] :
    σ → List ι → Bool
  | _, [] => true
  | s, i :: is =>
    decide (P s i) && match step s i with
      | .error _ => true
      | .ok t => checks step P t is

/-- A run may be checked step by step. -/
theorem forall_takes_of_checks (step : σ → ι → Except ε σ) {P : σ → ι → Prop}
    [∀ s i, Decidable (P s i)] {s : σ} {ins : List ι} (h : checks step P s ins = true) :
    ∀ t j, Takes step s ins t j → P t j := by
  induction ins generalizing s with
  | nil => exact forall_takes_nil step s P
  | cons i is ih =>
    rw [checks, Bool.and_eq_true, decide_eq_true_eq] at h
    refine (forall_takes_cons step s i is P).mpr ⟨h.1, ?_⟩
    intro m hm
    have hrest := h.2
    rw [hm] at hrest
    exact ih hrest

/-- A step that a completed run takes: how the run came to it, and how it went on. -/
theorem takes_ok (step : σ → ι → Except ε σ) (s u : σ) (ins : List ι)
    (h : run step s ins = .ok u) {t : σ} {i : ι} (ht : Takes step s ins t i) :
    ∃ as bs m, run step s as = .ok t ∧ step t i = .ok m ∧ run step m bs = .ok u := by
  obtain ⟨as, bs, rfl, hrun⟩ := ht
  obtain ⟨t', hrun', hrest⟩ := (run_append_ok step s u as (i :: bs)).mp h
  rw [hrun] at hrun'
  cases hrun'
  obtain ⟨m, hstep, hm⟩ := (run_cons_ok step t u i bs).mp hrest
  exact ⟨as, bs, m, hrun, hstep, hm⟩

/-- A property of the inputs read and the state reached holds of every run, when it
holds of the empty run and appending one input to a run keeps it. -/
theorem run_induction (step : σ → ι → Except ε σ) (s : σ) {P : List ι → σ → Prop}
    (start : P [] s)
    (next : ∀ ins t i u, run step s ins = .ok t → P ins t → step t i = .ok u →
      P (ins ++ [i]) u) :
    ∀ ins t, run step s ins = .ok t → P ins t := by
  intro ins
  induction ins using List.reverseRecOn with
  | nil =>
    intro t h
    cases h
    exact start
  | append_singleton ins i ih =>
    intro u h
    obtain ⟨t, hrun, hstep⟩ := (run_snoc_ok step s u ins i).mp h
    exact next ins t i u hrun (ih t hrun) hstep

/-- An invariant that one step preserves holds along every run. -/
theorem run_preserves (step : σ → ι → Except ε σ) (Inv : σ → Prop)
    (next : ∀ t i u, Inv t → step t i = .ok u → Inv u) {s t : σ} {ins : List ι}
    (start : Inv s) (h : run step s ins = .ok t) : Inv t :=
  run_induction step s (P := fun _ => Inv) start
    (fun _ t i u _ ht hstep => next t i u ht hstep) ins t h

/-- A rank that every step lowers as long as it can is used up by the length of a run. -/
theorem run_rank_le (step : σ → ι → Except ε σ) (Inv : σ → Prop) (rank : σ → ℕ)
    (next : ∀ t i u, Inv t → step t i = .ok u → Inv u ∧ rank u ≤ rank t - 1) {s t : σ}
    {ins : List ι} (start : Inv s) (h : run step s ins = .ok t) :
    rank t ≤ rank s - ins.length := by
  suffices hboth : Inv t ∧ rank t ≤ rank s - ins.length from hboth.2
  refine run_induction step s (P := fun ins t => Inv t ∧ rank t ≤ rank s - ins.length)
    ⟨start, Nat.le_refl _⟩ ?_ ins t h
  rintro ins t i u - ⟨hinv, ht⟩ hstep
  obtain ⟨hu, hlower⟩ := next t i u hinv hstep
  rw [List.length_append, List.length_singleton]
  exact ⟨hu, by omega⟩

/-- Where an invariant lets each of the inputs be read and is kept by the step, the run on
them succeeds. -/
theorem run_total (step : σ → ι → Except ε σ) (Inv : σ → Prop) {s : σ} (ins : List ι)
    (next : ∀ t, ∀ i ∈ ins, Inv t → ∃ u, step t i = .ok u ∧ Inv u) (start : Inv s) :
    ∃ t, run step s ins = .ok t ∧ Inv t := by
  induction ins generalizing s with
  | nil => exact ⟨s, rfl, start⟩
  | cons i ins ih =>
    obtain ⟨t, hstep, ht⟩ := next s i (by simp) start
    obtain ⟨u, hrun, hu⟩ := ih (fun w j hj => next w j (by simp [hj])) ht
    exact ⟨u, (run_cons_ok step s u i ins).mpr ⟨t, hstep, hrun⟩, hu⟩

/-- The same for a property of the state together with the inputs that led to it. -/
theorem run_total_induction (step : σ → ι → Except ε σ) (s : σ) {P : List ι → σ → Prop}
    (nil : P [] s)
    (snoc : ∀ ins t i, run step s ins = .ok t → P ins t →
      ∃ u, step t i = .ok u ∧ P (ins ++ [i]) u) (ins : List ι) :
    ∃ t, run step s ins = .ok t ∧ P ins t := by
  induction ins using List.reverseRecOn with
  | nil => exact ⟨s, rfl, nil⟩
  | append_singleton ins i ih =>
    obtain ⟨t, hrun, ht⟩ := ih
    obtain ⟨u, hstep, hu⟩ := snoc ins t i hrun ht
    exact ⟨u, (run_snoc_ok step s u ins i).mpr ⟨t, hrun, hstep⟩, hu⟩

/-- More inputs at the end take no step away. -/
theorem takes_append (step : σ → ι → Except ε σ) {s t : σ} {as : List ι} {i : ι}
    (h : Takes step s as t i) (bs : List ι) : Takes step s (as ++ bs) t i := by
  obtain ⟨cs, ds, rfl, hrun⟩ := h
  exact ⟨cs, ds ++ bs, by simp, hrun⟩

/-- A state in which a step is taken is one the run passes. -/
theorem Takes.passes {step : σ → ι → Except ε σ} {s t : σ} {ins : List ι} {i : ι}
    (h : Takes step s ins t i) : Passes step s ins t := by
  obtain ⟨as, bs, rfl, hrun⟩ := h
  exact ⟨as, i :: bs, rfl, hrun⟩

/-- An invariant that good steps keep holds in every state of a run of good steps. -/
theorem passes_of_takes (step : σ → ι → Except ε σ) {Inv : σ → Prop} {Good : σ → ι → Prop}
    (keeps : ∀ t i u, Inv t → Good t i → step t i = .ok u → Inv u)
    {s : σ} (start : Inv s) {ins : List ι} (hgood : ∀ t i, Takes step s ins t i → Good t i) :
    ∀ t, Passes step s ins t → Inv t := by
  rintro t ⟨as, bs, rfl, hrun⟩
  -- induction on the last input before `t`
  refine run_induction step s (P := fun as t => (∀ r i, Takes step s as r i → Good r i) → Inv t)
    ?_ ?_ as t hrun (fun r i hr => hgood r i (takes_append step hr bs))
  · intro _
    exact start
  · intro ins t i u hrun ih hstep hsnoc
    have ht := ih fun r j hr => hsnoc r j (takes_append step hr [i])
    exact keeps t i u ht (hsnoc t i ⟨ins, [], rfl, hrun⟩) hstep

/-- An invariant holds in every state of a run iff every step of the run is good, when good
steps keep the invariant and all others end outside of it. -/
theorem passes_iff_takes (step : σ → ι → Except ε σ) {Inv : σ → Prop} {Good : σ → ι → Prop}
    (keeps : ∀ t i u, Inv t → Good t i → step t i = .ok u → Inv u)
    (breaks : ∀ t i, Inv t → ¬ Good t i → ∃ u, step t i = .ok u ∧ ¬ Inv u)
    {s : σ} (start : Inv s) (ins : List ι) :
    (∀ t, Passes step s ins t → Inv t) ↔ ∀ t i, Takes step s ins t i → Good t i := by
  constructor
  · rintro hinv t i ⟨as, bs, rfl, hrun⟩
    by_contra hgood
    obtain ⟨u, hstep, hout⟩ := breaks t i (hinv t ⟨as, i :: bs, rfl, hrun⟩) hgood
    exact hout (hinv u ⟨as ++ [i], bs, by simp, (run_snoc_ok step s u as i).mpr ⟨t, hrun, hstep⟩⟩)
  · exact passes_of_takes step keeps start

/-- An invariant that holds at the start holds in every state a run passes. -/
theorem passes_invariant (step : σ → ι → Except ε σ) {Inv : σ → Prop}
    (next : ∀ t i u, Inv t → step t i = .ok u → Inv u) {s t : σ} (start : Inv s) {ins : List ι}
    (h : Passes step s ins t) : Inv t := by
  obtain ⟨as, bs, -, hrun⟩ := h
  exact run_preserves step Inv next start hrun

/-- The same, where what makes a step good or bad relies on an invariant of all steps. -/
theorem passes_iff_takes_of_invariant (step : σ → ι → Except ε σ) (Always : σ → Prop)
    {Inv : σ → Prop} {Good : σ → ι → Prop}
    (always : ∀ t i u, Always t → step t i = .ok u → Always u)
    (keeps : ∀ t i u, Always t → Inv t → Good t i → step t i = .ok u → Inv u)
    (breaks : ∀ t i, Always t → Inv t → ¬ Good t i → ∃ u, step t i = .ok u ∧ ¬ Inv u)
    {s : σ} (halways : Always s) (start : Inv s) (ins : List ι) :
    (∀ t, Passes step s ins t → Inv t) ↔ ∀ t i, Takes step s ins t i → Good t i := by
  have hboth : (∀ t, Passes step s ins t → Always t ∧ Inv t) ↔
      ∀ t i, Takes step s ins t i → Good t i := by
    apply passes_iff_takes step
    · intro t i u ht hgood hstep
      exact ⟨always t i u ht.1 hstep, keeps t i u ht.1 ht.2 hgood hstep⟩
    · intro t i ht hbad
      obtain ⟨u, hstep, hout⟩ := breaks t i ht.1 ht.2 hbad
      exact ⟨u, hstep, fun hu => hout hu.2⟩
    · exact ⟨halways, start⟩
  rw [← hboth]
  constructor
  · intro hinv t ht
    exact ⟨passes_invariant step always halways ht, hinv t ht⟩
  · intro hinv t ht
    exact (hinv t ht).2

/-- The same for a property of the states together with one of the steps, where good steps lead
to states of a known kind, and in these a step is good iff it is right and keeps the property. -/
theorem passes_and_takes_iff (step : σ → ι → Except ε σ) (Reached : σ → Prop)
    {Inv : σ → Prop} {Right Good : σ → ι → Prop}
    (exact : ∀ t i, Reached t → Inv t →
      (Good t i ↔ Right t i ∧ ∀ u, step t i = .ok u → Inv u))
    (reached : ∀ t i u, Reached t → Good t i → step t i = .ok u → Reached u)
    {s : σ} (hreached : Reached s) (start : Inv s) (ins : List ι) :
    ((∀ t, Passes step s ins t → Inv t) ∧ ∀ t i, Takes step s ins t i → Right t i) ↔
      ∀ t i, Takes step s ins t i → Good t i := by
  have hstates : ∀ as t, run step s as = .ok t → (∀ r j, Takes step s as r j → Good r j) →
      Reached t ∧ Inv t := by
    apply run_induction
    · intro _
      exact ⟨hreached, start⟩
    · intro as t i u hrun ih hstep hgood
      obtain ⟨hr, hinv⟩ := ih fun r j hr => hgood r j (takes_append step hr [i])
      have hi := hgood t i ⟨as, [], rfl, hrun⟩
      exact ⟨reached t i u hr hi hstep, ((exact t i hr hinv).mp hi).2 u hstep⟩
  constructor
  · rintro ⟨hinv, hright⟩
    -- by induction every step of a prefix is good, so that the next state is of the known kind
    have hgood : ∀ as t, run step s as = .ok t → ∀ bs, ins = as ++ bs →
        ∀ r j, Takes step s as r j → Good r j := by
      apply run_induction
      · rintro bs - r j ⟨cs, ds, heq, -⟩
        simp at heq
      · rintro as t i u hrun ih hstep bs rfl r j hr
        have hbefore := ih (i :: bs) (by simp)
        rcases (takes_snoc step s t as i hrun r j).mp hr with hr | ⟨rfl, rfl⟩
        · exact hbefore r j hr
        · obtain ⟨hr, hi⟩ := hstates as r hrun hbefore
          refine (exact r j hr hi).mpr ⟨hright r j ⟨as, bs, by simp, hrun⟩, ?_⟩
          intro v hv
          exact hinv v ⟨as ++ [j], bs, rfl, (run_snoc_ok step s v as j).mpr ⟨r, hrun, hv⟩⟩
    rintro t i ⟨as, bs, rfl, hrun⟩
    obtain ⟨ht, hi⟩ := hstates as t hrun (hgood as t hrun (i :: bs) rfl)
    refine (exact t i ht hi).mpr ⟨hright t i ⟨as, bs, rfl, hrun⟩, ?_⟩
    intro u hu
    exact hinv u ⟨as ++ [i], bs, by simp, (run_snoc_ok step s u as i).mpr ⟨t, hrun, hu⟩⟩
  · intro hgood
    constructor
    · rintro t ⟨as, bs, rfl, hrun⟩
      exact (hstates as t hrun fun r j hr => hgood r j (takes_append step hr bs)).2
    · rintro t i ⟨as, bs, rfl, hrun⟩
      obtain ⟨ht, hi⟩ := hstates as t hrun fun r j hr => hgood r j (takes_append step hr (i :: bs))
      exact ((exact t i ht hi).mp (hgood t i ⟨as, bs, rfl, hrun⟩)).1

/-! ## Unwinding -/

/-- Two lists that differ only in how often an entry is repeated in a row. -/
inductive SameUpToRepetition : List κ → List κ → Prop
  | nil : SameUpToRepetition [] []
  | cons (a : κ) {xs ys : List κ} :
      SameUpToRepetition xs ys → SameUpToRepetition (a :: xs) (a :: ys)
  | repeatLeft {a : κ} {xs ys : List κ} :
      SameUpToRepetition (a :: xs) ys → SameUpToRepetition (a :: a :: xs) ys
  | repeatRight {a : κ} {xs ys : List κ} :
      SameUpToRepetition xs (a :: ys) → SameUpToRepetition xs (a :: a :: ys)

/-- Repetitions leave the last entry what it is. -/
theorem SameUpToRepetition.getLast?_eq {xs ys : List κ} (h : SameUpToRepetition xs ys) :
    xs.getLast? = ys.getLast? := by
  induction h with
  | nil => rfl
  | cons a _ ih => rw [List.getLast?_cons, List.getLast?_cons, ih]
  | repeatLeft _ ih => rw [List.getLast?_cons_cons, ih]
  | repeatRight _ ih => rw [List.getLast?_cons_cons, ih]

/-- What a run shows: the core of every state it passes, in order. -/
def trace (step : σ → ι → Except ε σ) (core : σ → κ) : σ → List ι → List κ
  | s, [] => [core s]
  | s, i :: is =>
    core s :: match step s i with
      | .error _ => []
      | .ok t => trace step core t is

/-- The events of a run, in order; a step without an event adds nothing. -/
def events (step : σ → ι → Except ε σ) (event : σ → ι → Option ω) : σ → List ι → List ω
  | _, [] => []
  | s, i :: is =>
    match step s i with
    | .error _ => []
    | .ok t => (event s i).toList ++ events step event t is

/-- One more step adds its event at the end. -/
theorem events_snoc (step : σ → ι → Except ε σ) (event : σ → ι → Option ω)
    {s t u : σ} {ins : List ι} {i : ι} (hrun : run step s ins = .ok t)
    (hstep : step t i = .ok u) :
    events step event s (ins ++ [i]) = events step event s ins ++ (event t i).toList := by
  induction ins generalizing s with
  | nil =>
    cases hrun
    simp [events, hstep]
  | cons a ins ih =>
    obtain ⟨m, hm, hrest⟩ := (run_cons_ok step s t a ins).mp hrun
    simp only [List.cons_append, events, hm]
    rw [ih hrest, List.append_assoc]

/-- The events of a run are those of its parts. -/
theorem events_append (step : σ → ι → Except ε σ) (event : σ → ι → Option ω) {s t : σ}
    {as : List ι} (bs : List ι) (hrun : run step s as = .ok t) :
    events step event s (as ++ bs) = events step event s as ++ events step event t bs := by
  induction as generalizing s with
  | nil =>
    cases hrun
    rfl
  | cons a as ih =>
    obtain ⟨m, hm, hrest⟩ := (run_cons_ok step s t a as).mp hrun
    simp only [List.cons_append, events, hm]
    rw [ih hrest, List.append_assoc]

/-- A trace begins with the core of the state it starts from. -/
theorem trace_head (step : σ → ι → Except ε σ) (core : σ → κ) (s : σ) (ins : List ι) :
    ∃ rest, trace step core s ins = core s :: rest := by
  cases ins with
  | nil => exact ⟨[], rfl⟩
  | cons i is => exact ⟨_, rfl⟩

/-- The trace of a run that does not fault ends with the core of the state it reaches. -/
theorem trace_getLast? (step : σ → ι → Except ε σ) (core : σ → κ) {s t : σ} {ins : List ι}
    (hrun : run step s ins = .ok t) : (trace step core s ins).getLast? = some (core t) := by
  induction ins generalizing s with
  | nil =>
    cases hrun
    rfl
  | cons i is ih =>
    obtain ⟨m, hm, hrest⟩ := (run_cons_ok step s t i is).mp hrun
    rw [trace, hm, List.getLast?_cons, ih hrest]
    rfl

/-! ### Notes -/

section Noted

variable {β : Type*} (step : σ → ι → Except ε σ) (note : σ → ι → β → β)

/-- The machine with a note beside its state, which each step brings up to date. -/
def noted (p : σ × β) (i : ι) : Except ε (σ × β) :=
  (step p.1 i).map fun t => (t, note p.1 i p.2)

/-- A step with a note is a step of the machine, and leaves the note it should. -/
theorem noted_ok {p q : σ × β} {i : ι} :
    noted step note p i = .ok q ↔ step p.1 i = .ok q.1 ∧ q.2 = note p.1 i p.2 := by
  unfold noted
  cases step p.1 i with
  | error e => simp [Except.map]
  | ok t =>
    obtain ⟨u, b⟩ := q
    simp [Except.map, eq_comm]

/-- Every run is one with notes. -/
theorem run_noted {s t : σ} {ins : List ι} (h : run step s ins = .ok t) (b : β) :
    ∃ c, run (noted step note) (s, b) ins = .ok (t, c) := by
  induction ins generalizing s b with
  | nil =>
    cases h
    exact ⟨b, rfl⟩
  | cons i is ih =>
    obtain ⟨m, hm, hrest⟩ := (run_cons_ok step s t i is).mp h
    obtain ⟨c, hc⟩ := ih hrest (note s i b)
    refine ⟨c, (run_cons_ok _ _ _ _ _).mpr ⟨(m, note s i b), ?_, hc⟩⟩
    exact (noted_ok step note).mpr ⟨hm, rfl⟩

/-- Notes do not show. -/
theorem trace_noted (core : σ → κ) (p : σ × β) (ins : List ι) :
    trace (noted step note) (fun q => core q.1) p ins = trace step core p.1 ins := by
  induction ins generalizing p with
  | nil => rfl
  | cons i is ih =>
    rw [trace, trace, noted]
    cases step p.1 i with
    | error e => rfl
    | ok t => exact congrArg _ (ih (t, note p.1 i p.2))

/-- Notes are no events. -/
theorem events_noted (event : σ → ι → Option ω) (p : σ × β) (ins : List ι) :
    events (noted step note) (fun q => event q.1) p ins = events step event p.1 ins := by
  induction ins generalizing p with
  | nil => rfl
  | cons i is ih =>
    rw [events, events, noted]
    cases step p.1 i with
    | error e => rfl
    | ok t => exact congrArg _ (ih (t, note p.1 i p.2))

end Noted

/-! ### Related runs -/

/-- The conditions under which what a machine shows is fixed by the events of its good steps.
`Related` states show the same, and `Inv` is an invariant the conditions may rely on. -/
structure Unwinding (step : σ → ι → Except ε σ) (core : σ → κ) (event : σ → ι → Option ω)
    (Good : σ → ι → Prop) (Inv : σ → Prop) (Related : σ → σ → Prop) : Prop where
  preserved : ∀ {s i t}, Inv s → step s i = .ok t → Inv t
  core_eq : ∀ {s s'}, Related s s' → core s = core s'
  symm : ∀ {s s'}, Related s s' → Related s' s
  /-- A step without an event. -/
  silent : ∀ {s s' i t}, Inv s → Good s i → step s i = .ok t → event s i = none →
    Related s s' → Related t s'
  /-- Two steps with the same event. -/
  determined : ∀ {s s' i i' t t' e}, Inv s → Inv s' → Good s i → Good s' i' →
    step s i = .ok t → step s' i' = .ok t' → event s i = some e → event s' i' = some e →
    Related s s' → Related t t'

section Unwinding

variable {step : σ → ι → Except ε σ} {core : σ → κ} {event : σ → ι → Option ω}
  {Good : σ → ι → Prop} {Inv : σ → Prop} {Related : σ → σ → Prop}

/-- A run of good steps without an event shows the core of a related state, again and again. -/
theorem Unwinding.trace_of_no_events (U : Unwinding step core event Good Inv Related)
    {s s' t' : σ} {insB : List ι} (hs' : Inv s') (hrelated : Related s s')
    (hB : run step s' insB = .ok t') (hgood : ∀ r j, Takes step s' insB r j → Good r j)
    (hv : events step event s' insB = []) :
    SameUpToRepetition [core s] (trace step core s' insB) := by
  induction insB generalizing s' with
  | nil =>
    rw [trace, U.core_eq hrelated]
    exact .cons _ .nil
  | cons j js ih =>
    obtain ⟨m, hm, hrest⟩ := (run_cons_ok step s' t' j js).mp hB
    obtain ⟨hfirst, hgood⟩ := (forall_takes_cons step s' j js Good).mp hgood
    simp only [events, hm, List.append_eq_nil_iff] at hv
    have hnone : event s' j = none := by
      cases he : event s' j with
      | none => rfl
      | some e => simp [he] at hv
    have hnext := U.symm (U.silent hs' hfirst hm hnone (U.symm hrelated))
    have htail := ih (U.preserved hs' hm) hnext hrest (hgood m hm) hv.2
    simp only [trace, hm]
    obtain ⟨rest, hr⟩ := trace_head step core m js
    rw [hr, ← U.core_eq hnext] at htail ⊢
    rw [← U.core_eq hrelated]
    exact .repeatRight htail

/-- **Unwinding.** Two runs of good steps from related states that have the same events show the
same cores, up to repetition. -/
theorem Unwinding.same_up_to_repetition (U : Unwinding step core event Good Inv Related)
    {s s' t t' : σ} {insA insB : List ι} (hs : Inv s) (hs' : Inv s')
    (hrelated : Related s s') (hA : run step s insA = .ok t) (hB : run step s' insB = .ok t')
    (hgoodA : ∀ r j, Takes step s insA r j → Good r j)
    (hgoodB : ∀ r j, Takes step s' insB r j → Good r j)
    (hv : events step event s insA = events step event s' insB) :
    SameUpToRepetition (trace step core s insA) (trace step core s' insB) := by
  -- outer induction on the first run; the second is consumed up to its next event
  induction insA generalizing s s' insB with
  | nil => exact U.trace_of_no_events hs' hrelated hB hgoodB hv.symm
  | cons i is ih =>
    obtain ⟨m, hm, hrest⟩ := (run_cons_ok step s t i is).mp hA
    obtain ⟨hfirst, hgoodA⟩ := (forall_takes_cons step s i is Good).mp hgoodA
    have hmInv := U.preserved hs hm
    simp only [events, hm] at hv
    cases he : event s i with
    | none =>
      rw [he, Option.toList_none, List.nil_append] at hv
      have hkeep := U.silent hs hfirst hm he hrelated
      have htail := ih hmInv hs' hkeep hrest hB (hgoodA m hm) hgoodB hv
      simp only [trace, hm]
      obtain ⟨rest, hr⟩ := trace_head step core m is
      rw [hr, U.core_eq hkeep] at htail ⊢
      rw [U.core_eq hrelated]
      exact .repeatLeft htail
    | some e =>
      induction insB generalizing s' with
      | nil => simp [events, he] at hv
      | cons j js ihB =>
        obtain ⟨m', hm', hrest'⟩ := (run_cons_ok step s' t' j js).mp hB
        obtain ⟨hfirst', hgoodB⟩ := (forall_takes_cons step s' j js Good).mp hgoodB
        simp only [events, hm'] at hv
        cases he' : event s' j with
        | none =>
          rw [he', Option.toList_none, List.nil_append] at hv
          have hkeep' := U.symm (U.silent hs' hfirst' hm' he' (U.symm hrelated))
          have htail := ihB (U.preserved hs' hm') hkeep' hrest' (hgoodB m' hm') hv
          simp only [trace, hm'] at htail ⊢
          obtain ⟨rest, hr⟩ := trace_head step core m' js
          rw [hr, ← U.core_eq hkeep'] at htail ⊢
          rw [← U.core_eq hrelated]
          exact .repeatRight htail
        | some e' =>
          simp only [he, he', Option.toList_some, List.singleton_append, List.cons.injEq] at hv
          obtain ⟨rfl, hv⟩ := hv
          have hnext := U.determined hs hs' hfirst hfirst' hm hm' he he' hrelated
          simp only [trace, hm, hm', U.core_eq hrelated]
          exact .cons _ (ih hmInv (U.preserved hs' hm') hnext hrest hrest' (hgoodA m hm)
            (hgoodB m' hm') hv)

end Unwinding

end StepMachine
