import Udtp.Analysis.PollRound

/-!
# Whom a round serves

From one call of `poll()` to the next the HOST goes once over its connections.  `round_visits`
says what this comes to, as far as no step faults: a round is as long as the polling list, and in it
every connection that is flagged is read once, in the order of the list, and no other is.  So a peer
that is readable waits for at most one packet of every other peer, and none can be passed over.

Flagged are the entries as `poll()` left them, and the one of a connection that was accepted in
the same round, whose flag nobody has set.
-/

set_option autoImplicit false

namespace Udtp

open StepMachine

/-- The connection an event reads from. -/
def HostEvent.visited : HostEvent → Option ℕ
  | .packet connection _ _ => some connection
  | .disconnect connection _ => some connection
  | _ => none

namespace HostLoop

variable {s t : HostLoop} {input : HostInput} {i : ℕ}

/-- The polling list of the round that begins with the answers in `first` and `second`. -/
def roundEntries (s : HostLoop) (first second : HostInput) : List PollFd :=
  let entries := (s.setRevents first.poll).activeListenSockets
  match entries with
  | [] => []
  | listenEntry :: _ =>
    if listenEntry.pollin then
      entries ++ [{ fd := s.nextSocket second.accept, pollin := second.accept.newRevents }]
    else entries

/-- The connections of the flagged entries, in order. -/
def flagged (entries : List PollFd) : List ℕ :=
  (entries.filter PollFd.pollin).map fun entry => entry.fd.connection

/-! ## The scan -/

/-- A step of the scan reads from the entry it is at, if that is flagged, and goes on. -/
theorem step_scan {entry : PollFd} (hphase : s.phase = .scan i)
    (hentry : s.activeListenSockets[i]? = some entry) (hstep : s.step input = .ok t) :
    t.phase = .scan (i + 1) ∧ t.activeListenSockets = s.activeListenSockets ∧
      (s.event input).bind HostEvent.visited =
        if entry.pollin then some entry.fd.connection else none := by
  simp only [step, event, hphase, hentry] at hstep ⊢
  split at hstep
  · rename_i hready
    obtain ⟨v, hvisit, rfl⟩ := map_ok hstep
    rw [if_pos hready, if_pos hready]
    obtain ⟨peer, -, ⟨hcount, -, sent, u, -, rfl⟩ | ⟨hcount, -, rfl⟩ | ⟨hcount, rfl⟩⟩ :=
      visit_cases hvisit
    · rw [if_pos hcount]
      exact ⟨rfl, rfl, rfl⟩
    · rw [if_pos hcount]
      exact ⟨rfl, rfl, rfl⟩
    · rw [if_neg (not_not.mpr hcount)]
      exact ⟨rfl, rfl, rfl⟩
  · rename_i hready
    cases hstep
    rw [if_neg hready, if_neg hready]
    exact ⟨rfl, rfl, rfl⟩

/-- As many steps of the scan as there are entries left read from the flagged ones among them. -/
theorem run_scan {ins : List HostInput} (hphase : s.phase = .scan i)
    (hlength : i + ins.length ≤ s.activeListenSockets.length)
    (hrun : StepMachine.run step s ins = .ok t) :
    t.phase = .scan (i + ins.length) ∧ t.activeListenSockets = s.activeListenSockets ∧
      (events step event s ins).filterMap HostEvent.visited =
        flagged ((s.activeListenSockets.drop i).take ins.length) := by
  induction ins generalizing s i with
  | nil =>
    cases hrun
    exact ⟨hphase, rfl, rfl⟩
  | cons input ins ih =>
    obtain ⟨m, hm, hrest⟩ := (run_cons_ok step s t input ins).mp hrun
    rw [List.length_cons] at hlength
    have hlt : i < s.activeListenSockets.length := by omega
    obtain ⟨hnext, hsockets, hvisited⟩ := step_scan hphase (List.getElem?_eq_getElem hlt) hm
    have hlength' : i + 1 + ins.length ≤ m.activeListenSockets.length := by
      rw [hsockets]
      omega
    obtain ⟨hlast, hsockets', hevents⟩ := ih hnext hlength' hrest
    rw [hsockets] at hevents hsockets'
    refine ⟨?_, hsockets', ?_⟩
    · rw [hlast, List.length_cons]
      congr 1
      omega
    · have hhead : (s.event input).toList.filterMap HostEvent.visited =
          ((s.event input).bind HostEvent.visited).toList := by
        cases s.event input with
        | none => rfl
        | some e => cases he : e.visited <;> simp [he]
      simp only [events, hm, List.filterMap_append, hevents, hhead, hvisited]
      rw [List.drop_eq_getElem_cons hlt, List.length_cons, List.take_succ_cons, flagged, flagged]
      cases hready : (s.activeListenSockets[i]).pollin <;> simp [hready]

/-! ## The round -/

/-- The first two steps make the list of the round and read from no connection. -/
theorem run_polled {first second : HostInput} (hphase : s.phase = .poll)
    (hrun : StepMachine.run step s [first, second] = .ok t) :
    t.phase = .scan 1 ∧ t.activeListenSockets = s.roundEntries first second ∧
      1 ≤ t.activeListenSockets.length ∧
      (events step event s [first, second]).filterMap HostEvent.visited = [] := by
  obtain ⟨m, hm, hrest⟩ := (run_cons_ok step s t first [second]).mp hrun
  obtain ⟨n, hn, hend⟩ := (run_cons_ok step m t second []).mp hrest
  cases hend
  have hpolled : m = (s.setRevents first.poll).setPhase .accept := by
    simp only [step, hphase, Except.ok.injEq] at hm
    exact hm.symm
  subst hpolled
  have haccept : ((s.setRevents first.poll).setPhase .accept).phase = .accept := rfl
  have hsocket : ((s.setRevents first.poll).setPhase .accept).nextSocket second.accept =
      s.nextSocket second.accept := by
    obtain ⟨sockets, hsockets⟩ := s.setRevents_eq first.poll
    rw [hsockets]
    rfl
  have hquiet : (events step event s [first, second]).filterMap HostEvent.visited = [] := by
    simp only [events, hm, hn, List.append_nil, List.filterMap_append]
    have hpoll : s.event first = some .poll := by simp only [event, hphase]
    rw [hpoll]
    simp only [event, haccept]
    split
    · rfl
    · split
      · rfl
      · rfl
  obtain ⟨entry, rest, hentries⟩ : ∃ entry rest,
      (s.setRevents first.poll).activeListenSockets = entry :: rest := by
    cases hentries : (s.setRevents first.poll).activeListenSockets with
    | nil => simp [step, setPhase, hentries] at hn
    | cons entry rest => exact ⟨entry, rest, rfl⟩
  rcases accept_cases haccept hn with ⟨⟨-, entry', rest', hentries', hready⟩, rfl⟩ | ⟨hnot, rfl⟩
  · have hsame : entry' :: rest' = entry :: rest := hentries'.symm.trans hentries
    cases hsame
    refine ⟨rfl, ?_, ?_, hquiet⟩
    · simp only [roundEntries, hentries, if_pos hready]
      simp [setPhase, afterAccept, hentries, ← hsocket]
    · simp [setPhase, afterAccept]
  · have hready : ¬ entry.pollin = true :=
      fun hready => hnot ⟨rfl, entry, rest, hentries, hready⟩
    refine ⟨rfl, ?_, ?_, hquiet⟩
    · simp only [roundEntries, hentries, if_neg hready]
      exact hentries
    · simp [setPhase, hentries]

/-- The last two steps end the scan and the round, and read from no connection. -/
theorem run_removal {last removal : HostInput} (hphase : s.phase = .scan i)
    (hend : s.activeListenSockets.length ≤ i)
    (hrun : StepMachine.run step s [last, removal] = .ok t) :
    t.phase = .poll ∧ (events step event s [last, removal]).filterMap HostEvent.visited = [] := by
  obtain ⟨m, hm, hrest⟩ := (run_cons_ok step s t last [removal]).mp hrun
  obtain ⟨n, hn, hlast⟩ := (run_cons_ok step m t removal []).mp hrest
  cases hlast
  have hnone : s.activeListenSockets[i]? = none := List.getElem?_eq_none hend
  have hscanned : m = s.setPhase .removal := by
    simp only [step, hphase, hnone, Except.ok.injEq] at hm
    exact hm.symm
  subst hscanned
  have hremoval : (s.setPhase .removal).phase = .removal := rfl
  have hquiet : ((s.setPhase .removal).event removal).toList.filterMap HostEvent.visited = [] := by
    simp only [event, hremoval]
    split
    · rfl
    · rfl
  refine ⟨?_, ?_⟩
  · simp only [step, hremoval] at hn
    obtain ⟨r, -, rfl⟩ := map_ok hn
    rfl
  · have hsilent : s.event last = none := by
      simp only [event, hphase, hnone]
    simp only [events, hm, hn, hsilent, Option.toList_none, List.nil_append, List.append_nil]
    exact hquiet

/-- **A round serves every flagged connection once, in order.** As far as no step of a round faults:
after some visits the connections that were read from are exactly the flagged ones among as many
entries, in the order of the polling list; and when there were as many visits as entries, the HOST
polls again after two more steps, which read from none. -/
theorem round_visits (hphase : s.phase = .poll) {first second : HostInput}
    {visits : List HostInput}
    (hlength : visits.length + 1 ≤ (s.roundEntries first second).length)
    (hrun : StepMachine.run step s ([first, second] ++ visits) = .ok t) :
    (events step event s ([first, second] ++ visits)).filterMap HostEvent.visited =
      flagged ((s.roundEntries first second).tail.take visits.length) ∧
    (visits.length + 1 = (s.roundEntries first second).length → ∀ last removal v,
      StepMachine.run step t [last, removal] = .ok v →
      v.phase = .poll ∧
        (events step event t [last, removal]).filterMap HostEvent.visited = []) := by
  obtain ⟨m, hpolled, hvisited⟩ := (run_append_ok step s t [first, second] _).mp hrun
  obtain ⟨hscan, hsockets, -, hfirst⟩ := run_polled hphase hpolled
  rw [← hsockets] at hlength
  obtain ⟨hend, hkeep, hvisits⟩ := run_scan hscan (by omega) hvisited
  constructor
  · rw [events_append step event _ hpolled, List.filterMap_append, hfirst, hvisits,
      List.nil_append, ← hsockets, List.drop_one]
  · intro hall last removal v hremoved
    rw [← hsockets] at hall
    exact run_removal hend (by rw [hkeep]; omega) hremoved

/-- Two peers that were accepted send their settings in one round, and the HOST polls again. -/
theorem round_visits_two :
    ∃ s t v, run (UDTP.startedIn .host) (List.replicate 11 .connecting) = .ok s ∧
      StepMachine.run step s (List.replicate 4 (.reading (.settings 1 420))) = .ok t ∧
      (events step event s (List.replicate 4 (.reading (.settings 1 420)))).filterMap
        HostEvent.visited = [1, 2] ∧
      StepMachine.run step t (List.replicate 2 (.reading (.settings 1 420))) = .ok v ∧
      v.phase = .poll := by
  obtain ⟨s, t, v, hrun, hvisited, hremoved, hphase, hlength, hflagged⟩ : ∃ s t v,
      run (UDTP.startedIn .host) (List.replicate 11 .connecting) = .ok s ∧
      StepMachine.run step s (List.replicate 4 (.reading (.settings 1 420))) = .ok t ∧
      StepMachine.run step t (List.replicate 2 (.reading (.settings 1 420))) = .ok v ∧
      s.phase = .poll ∧
      (s.roundEntries (.reading (.settings 1 420)) (.reading (.settings 1 420))).length = 3 ∧
      flagged ((s.roundEntries (.reading (.settings 1 420))
        (.reading (.settings 1 420))).tail.take 2) = [1, 2] :=
    ⟨_, _, _, rfl, rfl, rfl, rfl, rfl, rfl⟩
  have hvisits : (List.replicate 2 (HostInput.reading (.settings 1 420))).length + 1 =
      (s.roundEntries (.reading (.settings 1 420)) (.reading (.settings 1 420))).length :=
    hlength.symm
  obtain ⟨hserved, hnext⟩ := round_visits hphase hvisits.le hvisited
  exact ⟨s, t, v, hrun, hvisited, hserved.trans hflagged, hremoved,
    (hnext hvisits _ _ v hremoved).1⟩

end HostLoop

end Udtp
