import Udtp.Computation.StepMachine
import Udtp.Model.Requests

/-!
# What starts a transfer

`respond()` looks at the type and the response code of a message and at nothing that
happened before: an endpoint keeps no record of its requests or of its answers.
`files_of_events` gives the files of an endpoint after any sequence of requests and
messages in terms of the messages alone, and says which of them take a file.
-/

set_option autoImplicit false

namespace Udtp

open StepMachine

/-- What happens at an endpoint as far as header messages are concerned: it asks for a
transfer itself, or it handles a message. -/
inductive HeaderEvent
  | sendFile (env : Environment) (memory : UDTPHeader) (path : String)
  | getFile (env : Environment) (memory : UDTPHeader) (path : String)
  | message (env : Environment) (h : UDTPHeader)

namespace HeaderEvent

/-- The endpoint after an event. -/
def handle (u : UDTP) : HeaderEvent → Except Fault UDTP
  | sendFile env memory path => (u.sendFile env memory path).map fun r => r.2.2
  | getFile env memory path => (u.getFile env memory path).map fun r => r.2.2
  | message env h => (h.respond env u).map fun r => r.2.2

/-- The file an event takes, after the attempt to start it. -/
def startedFile : HeaderEvent → Option UDTPFile
  | sendFile _ _ _ => none
  | getFile _ _ _ => none
  | message env h => (h.takenFile env).map fun f => (f.beginFileProcessing env).2

/-- The messages that take a file. -/
def StartsTransfer (env : Environment) (h : UDTPHeader) : Prop :=
  (h.transferType = .pull ∧
    (h.responseCode = .responseApproved ∨ h.responseCode = .responseConfirm)) ∨
  (h.transferType = .push ∧ (h.responseCode = .responseApproved ∨
    (h.responseCode = .responseNone ∧
      (h.newFile env).checkFileExist env.fileSystem = false)))

/-- A header takes a file iff it starts a transfer. -/
theorem takenFile_isSome_iff {env : Environment} {u u' : UDTP} {h h' : UDTPHeader} {b : Bool}
    (hr : h.respond env u = .ok (b, h', u')) :
    (h.takenFile env).isSome = true ↔ StartsTransfer env h := by
  unfold UDTPHeader.takenFile StartsTransfer
  replace hr := UDTPHeader.negotiate_of_respond hr
  unfold UDTPHeader.negotiate at hr
  split at hr
  case h_4 ht hc => -- a confirmed pull, whose file was built
    rw [ht, hc]
    split at hr
    · cases hr
    · rename_i f hf
      simp [hf, Except.toOption]
  case h_5 ht hc => -- a request to push
    rw [ht, hc]
    cases hex : (h.newFile env).checkFileExist env.fileSystem <;> simp
  case h_8 h₁ h₂ h₃ h₄ h₅ h₆ h₇ => -- any other message
    split <;> simp_all
  all_goals
    rename_i ht hc
    rw [ht, hc]
    simp

/-- A header appends the file it starts, if it starts one, to both lists. -/
theorem handle_files {u u' : UDTP} {e : HeaderEvent} (h : handle u e = .ok u') :
    u'.files = u.files ++ e.startedFile.toList ∧
      u'.overallFiles = u.overallFiles ++
        List.range' u.files.length e.startedFile.toList.length := by
  have same : UDTPHeader.SameButCounter u u' → u'.files = u.files ++ [] ∧
      u'.overallFiles = u.overallFiles ++ List.range' u.files.length 0 := by
    rintro ⟨count, rfl⟩
    simp
  cases e with
  | sendFile env memory path =>
    obtain ⟨⟨result, sent, v⟩, hr, rfl⟩ := StepMachine.map_ok h
    exact same (UDTP.sendFile_udtp hr)
  | getFile env memory path =>
    obtain ⟨⟨result, sent, v⟩, hr, rfl⟩ := StepMachine.map_ok h
    exact same (UDTP.getFile_udtp hr)
  | message env hd =>
    obtain ⟨⟨b, hd', v⟩, hr, rfl⟩ := StepMachine.map_ok h
    rcases UDTPHeader.respond_udtp hr with ⟨w, f, ⟨count, rfl⟩, hf, rfl⟩ | ⟨hf, hcounter⟩
    · simp [startedFile, hf, UDTP.takeFile_files, UDTP.takeFile_overallFiles]
    · simpa [startedFile, hf] using same hcounter

/-- **The files of an endpoint are those of its messages.** After any sequence of requests
and messages, an endpoint has taken one file for each message that starts a transfer, in
order, whatever was requested or answered before. -/
theorem files_of_events {u u' : UDTP} {es : List HeaderEvent} (hrun : run handle u es = .ok u') :
    u'.files = u.files ++ es.filterMap startedFile ∧
      u'.overallFiles = u.overallFiles ++
        List.range' u.files.length (es.filterMap startedFile).length ∧
      ∀ env h, message env h ∈ es →
        ((message env h).startedFile.isSome = true ↔ StartsTransfer env h) := by
  refine run_induction handle u (P := fun es u' => u'.files = u.files ++ es.filterMap startedFile ∧
    u'.overallFiles = u.overallFiles ++
      List.range' u.files.length (es.filterMap startedFile).length ∧
    ∀ env h, message env h ∈ es →
      ((message env h).startedFile.isSome = true ↔ StartsTransfer env h)) ?_ ?_ es u' hrun
  · simp
  rintro es v e w - ⟨hfiles, hoverall, hstarts⟩ hstep
  obtain ⟨hfiles', hoverall'⟩ := handle_files hstep
  have hone : [e].filterMap startedFile = e.startedFile.toList := by
    cases he : e.startedFile <;> simp [he]
  refine ⟨?_, ?_, ?_⟩
  · rw [hfiles', hfiles, List.filterMap_append, hone, List.append_assoc]
  · rw [hoverall', hoverall, hfiles, List.filterMap_append, hone, List.length_append,
      List.length_append, List.append_assoc, List.range'_append_1]
  · intro env h hmem
    rcases List.mem_append.mp hmem with hmem | hmem
    · exact hstarts env h hmem
    · rw [List.mem_singleton] at hmem
      subst hmem
      cases hr : h.respond env v with
      | error fault => simp [handle, hr, Except.map] at hstep
      | ok r =>
        rw [← takenFile_isSome_iff hr]
        simp [startedFile]

/-- What an endpoint did in a negotiation: it sent a request through the record at a
position, or it approved a pull of the peer at a position. -/
inductive Negotiation
  | requested (type : TransferType) (path : String) (posID : ℕ)
  | approved (path : String) (posID : ℕ)

/-- The part an event has in a negotiation.  Requests go out through `self_peer()`. -/
def negotiation (u : UDTP) : HeaderEvent → Option Negotiation
  | sendFile env memory path =>
    match u.sendFile env memory path with
    | .ok (_, _ :: _, _) => some (.requested .push path 0)
    | _ => none
  | getFile env memory path =>
    match u.getFile env memory path with
    | .ok (_, _ :: _, _) => some (.requested .pull path 0)
    | _ => none
  | message env h =>
    match h.transferType, h.responseCode, h.respond env u with
    | .pull, .responseNone, .ok (_, reply, _) =>
      if reply.responseCode = .responseApproved then some (.approved h.pathOfFile h.myPeer)
      else none
    | _, _, _ => none

/-- The negotiation a message continues: an approval follows a request of the endpoint
itself, for that path and to that peer, and a confirmation follows an approval it gave. -/
def Continues (past : List Negotiation) (h : UDTPHeader) : Prop :=
  match h.responseCode with
  | .responseApproved => .requested h.transferType h.pathOfFile h.myPeer ∈ past
  | .responseConfirm => .approved h.pathOfFile h.myPeer ∈ past
  | _ => True

/-- An endpoint takes files only for messages that continue a negotiation. -/
def NegotiatedOnly (u : UDTP) (es : List HeaderEvent) : Prop :=
  ∀ before env h after v w, es = before ++ message env h :: after → run handle u before = .ok v →
    handle v (message env h) = .ok w → w.overallFiles ≠ v.overallFiles →
    Continues (events handle negotiation u before) h

/-- An approval of a pull that nobody asked for, for a path with a file. -/
def unaskedApproval : HeaderEvent :=
  message { (default : Environment) with fileSystem := fun _ => some 1000 }
    { (default : UDTPHeader) with responseCode := .responseApproved, transferType := .pull }

/-- The endpoint has requested nothing, and starts to receive a file over an existing
one. -/
theorem not_negotiatedOnly_unaskedApproval :
    ¬ NegotiatedOnly (UDTP.startedIn .host) [unaskedApproval] := by
  intro h
  have hcontinues := h [] _ _ [] (UDTP.startedIn .host) _ rfl rfl rfl (by decide)
  simp [Continues, events] at hcontinues

/-- An approval nobody asked for starts a file. -/
theorem files_of_unaskedApproval :
    ∃ u, run handle (UDTP.startedIn .host) [unaskedApproval] = .ok u ∧ u.overallFiles = [0] := by
  obtain ⟨u, hrun⟩ : ∃ u, run handle (UDTP.startedIn .host) [unaskedApproval] = .ok u := ⟨_, rfl⟩
  exact ⟨u, hrun, (files_of_events hrun).2.1.trans rfl⟩

end HeaderEvent

end Udtp
