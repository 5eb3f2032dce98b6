import Udtp.Computation.TokenQueue
import Udtp.Model.ChunkWorkers

/-!
# No chunk is stranded

The chunk queue with its semaphore is a queue with tokens: a thread that has pushed a chunk
and not posted yet owes a token, a thread that came through `sem_wait()` and has not popped
yet holds one, and `remove_thread()` adds one that nobody owed.  Every step of a thread is
a step of such a queue or leaves it alone (`step_refines`), so its soundness holds in every
state the threads can reach (`chunks_not_stranded`).
-/

set_option autoImplicit false

namespace Udtp

open StepMachine Relation

/-- The thread has pushed a chunk and not posted the semaphore for it. -/
def FlowWorkerPoint.owes : FlowWorkerPoint → Bool
  | .count | .post => true
  | _ => false

/-- The thread is between its wait and its pop. -/
def ProcessWorkerPoint.holds : ProcessWorkerPoint → Bool
  | .pop => true
  | _ => false

namespace ChunkWorkers

/-- The number of flow workers between their push and their post. -/
def owing (s : ChunkWorkers) : ℕ := s.flowWorkers.countP fun w => w.point.owes

/-- The number of process workers between their wait and their pop. -/
def holding (s : ChunkWorkers) : ℕ := s.processWorkers.countP fun w => w.point.holds

/-- The queue, its semaphore and the workers that are about to use it. -/
def tokenQueue (s : ChunkWorkers) : TokenQueue UDTPChunk where
  items := s.processChunks
  tokens := s.semProcessChunkThread
  owed := s.owing
  claimed := s.holding
  pushed := s.pushed
  popped := s.popped

variable {s t : ChunkWorkers} {i : ℕ}

/-! ## One worker goes on -/

/-- A flow worker that goes on changes the number of those that owe a post by what it did. -/
theorem owing_setFlow {w : FlowWorker} (v : FlowWorker) (hw : s.flowWorkers[i]? = some w) :
    (s.setFlow i v).owing + (if w.point.owes then 1 else 0) =
      s.owing + (if v.point.owes then 1 else 0) :=
  TokenQueue.countP_set_add v hw

/-- A process worker that goes on changes the number of those that hold a token by what it did. -/
theorem holding_setProcess {w : ProcessWorker} (v : ProcessWorker)
    (hw : s.processWorkers[i]? = some w) :
    (s.setProcess i v).holding + (if w.point.holds then 1 else 0) =
      s.holding + (if v.point.holds then 1 else 0) :=
  TokenQueue.countP_set_add v hw

/-- A flow worker that goes on and owes what it owed leaves the queue alone. -/
theorem tokenQueue_setFlow {w v : FlowWorker} (hw : s.flowWorkers[i]? = some w)
    (hsame : v.point.owes = w.point.owes) : (s.setFlow i v).tokenQueue = s.tokenQueue := by
  have howing := owing_setFlow v hw
  rw [hsame] at howing
  have howing' : (s.setFlow i v).owing = s.owing := Nat.add_right_cancel howing
  exact congrArg (fun owed => { s.tokenQueue with owed := owed }) howing'

/-- A process worker that goes on and holds what it held leaves the queue alone. -/
theorem tokenQueue_setProcess {w v : ProcessWorker} (hw : s.processWorkers[i]? = some w)
    (hsame : v.point.holds = w.point.holds) : (s.setProcess i v).tokenQueue = s.tokenQueue := by
  have hholding := holding_setProcess v hw
  rw [hsame] at hholding
  have hholding' : (s.setProcess i v).holding = s.holding := Nat.add_right_cancel hholding
  exact congrArg (fun claimed => { s.tokenQueue with claimed := claimed }) hholding'

/-- Where the queue stays as it is, or makes one step. -/
def Refines (q r : TokenQueue UDTPChunk) : Prop := r = q ∨ TokenQueue.Step q r

/-- A step of a flow worker is at most a push or a post. -/
theorem flowStep_refines {w : FlowWorker} (hw : s.flowWorkers[i]? = some w)
    {received : Option UDTPChunk} (hstep : s.flowStep i received w = .ok t) :
    Refines s.tokenQueue t.tokenQueue := by
  unfold flowStep at hstep
  cases hpoint : w.point with
  | receive =>
    simp only [hpoint] at hstep
    split at hstep
    · cases received with
      | none =>
        cases hstep
        exact Or.inl rfl
      | some chunk =>
        cases hstep
        exact Or.inl (tokenQueue_setFlow hw (by rw [hpoint]; rfl))
    · cases hstep
      exact Or.inl (tokenQueue_setFlow hw (by rw [hpoint]; rfl))
  | push chunk =>
    simp only [hpoint] at hstep
    cases hstep
    have howing : (s.setFlow i { w with point := .count }).owing = s.owing + 1 := by
      simpa [hpoint, FlowWorkerPoint.owes] using owing_setFlow { w with point := .count } hw
    have hpush : ((s.addChunkToProcess chunk).setFlow i { w with point := .count }).tokenQueue =
        s.tokenQueue.push chunk :=
      congrArg (fun owed => { s.tokenQueue with
        items := s.processChunks ++ [chunk], owed := owed, pushed := s.pushed ++ [chunk] }) howing
    exact Or.inr (hpush ▸ TokenQueue.Step.push _ chunk)
  | count =>
    simp only [hpoint] at hstep
    cases hstep
    exact Or.inl (tokenQueue_setFlow hw (by rw [hpoint]; rfl))
  | post =>
    simp only [hpoint] at hstep
    obtain ⟨u, hpost, rfl⟩ := map_ok hstep
    obtain rfl := semPost_ok hpost
    have howing : (s.setFlow i { w with point := .receive }).owing + 1 = s.owing := by
      simpa [hpoint, FlowWorkerPoint.owes] using owing_setFlow { w with point := .receive } hw
    have hpost : ({ s with semProcessChunkThread := s.semProcessChunkThread + 1 }.setFlow i
        { w with point := .receive }).tokenQueue = s.tokenQueue.post :=
      congrArg (fun owed => { s.tokenQueue with
        tokens := s.semProcessChunkThread + 1, owed := owed }) (Nat.eq_sub_of_add_eq howing)
    have hpos : 0 < s.tokenQueue.owed := by
      change 0 < s.owing
      omega
    exact Or.inr (hpost ▸ TokenQueue.Step.post _ hpos)
  | exited =>
    simp only [hpoint] at hstep
    cases hstep
    exact Or.inl rfl

/-- `get_next_chunk()` takes the front of the queue, if there is one, and nothing else. -/
theorem getNextChunk_pop (s : ChunkWorkers) :
    s.getNextChunk.2.processChunks = s.processChunks.tail ∧
      s.getNextChunk.2.popped = s.popped ++ s.processChunks.head?.toList ∧
      s.getNextChunk.2 = { s with
        processChunks := s.getNextChunk.2.processChunks, popped := s.getNextChunk.2.popped } := by
  unfold getNextChunk
  cases hchunks : s.processChunks with
  | nil =>
    refine ⟨hchunks, ?_, rfl⟩
    simp
  | cons chunk rest => exact ⟨rfl, rfl, rfl⟩

/-- A step of a process worker is at most a claim or a pop. -/
theorem processStep_refines {w : ProcessWorker} (hw : s.processWorkers[i]? = some w)
    (found : Option ℕ) : Refines s.tokenQueue (s.processStep i found w).tokenQueue := by
  unfold processStep
  cases hpoint : w.point with
  | test =>
    refine Or.inl (tokenQueue_setProcess hw ?_)
    rw [hpoint]
    dsimp only
    split <;> rfl
  | wait =>
    dsimp only
    split
    · exact Or.inl rfl
    · rename_i hzero
      have hholding : (s.setProcess i { w with point := .pop }).holding = s.holding + 1 := by
        simpa [hpoint, ProcessWorkerPoint.holds] using
          holding_setProcess { w with point := .pop } hw
      have hclaim : { s.setProcess i { w with point := .pop } with
          semProcessChunkThread := s.semProcessChunkThread - 1 }.tokenQueue =
          s.tokenQueue.claim :=
        congrArg (fun claimed => { s.tokenQueue with
          tokens := s.semProcessChunkThread - 1, claimed := claimed }) hholding
      exact Or.inr (hclaim ▸ TokenQueue.Step.claim _ (Nat.pos_of_ne_zero hzero))
  | pop =>
    obtain ⟨hitems, hpopped, hrest⟩ := s.getNextChunk_pop
    have hholding : (s.setProcess i { w with point := .route s.getNextChunk.1 }).holding + 1 =
        s.holding := by
      simpa [hpoint, ProcessWorkerPoint.holds] using
        holding_setProcess { w with point := .route s.getNextChunk.1 } hw
    have hpop : (s.getNextChunk.2.setProcess i
        { w with point := .route s.getNextChunk.1 }).tokenQueue = s.tokenQueue.pop := by
      rw [hrest, hitems, hpopped]
      exact congrArg (fun claimed => { s.tokenQueue with
        items := s.processChunks.tail
        claimed := claimed
        popped := s.popped ++ s.processChunks.head?.toList }) (Nat.eq_sub_of_add_eq hholding)
    have hpos : 0 < s.tokenQueue.claimed := by
      change 0 < s.holding
      omega
    exact Or.inr (hpop ▸ TokenQueue.Step.pop _ hpos)
  | route processChunk =>
    left
    dsimp only
    split
    · exact tokenQueue_setProcess hw (by rw [hpoint]; rfl)
    · exact tokenQueue_setProcess hw (by rw [hpoint]; rfl)
  | exited => exact Or.inl rfl

/-- Killing a worker moves no program point. -/
theorem tokenQueue_killFlow (s : ChunkWorkers) (i : ℕ) :
    (s.killFlow i).tokenQueue = s.tokenQueue := by
  have howing : (s.killFlow i).owing = s.owing := by
    unfold owing killFlow
    apply TokenQueue.countP_modify
    intro w
    rfl
  exact congrArg (fun owed => { s.tokenQueue with owed := owed }) howing

/-- Nor does killing a process worker. -/
theorem tokenQueue_killProcess (s : ChunkWorkers) (i : ℕ) :
    (s.killProcess i).tokenQueue = s.tokenQueue := by
  have hholding : (s.killProcess i).holding = s.holding := by
    unfold holding killProcess
    apply TokenQueue.countP_modify
    intro w
    rfl
  exact congrArg (fun claimed => { s.tokenQueue with claimed := claimed }) hholding

/-- A step of a removal is at most a post that nobody owed. -/
theorem removalStep_refines {point : RemovalPoint} (hstep : s.removalStep i point = .ok t) :
    Refines s.tokenQueue t.tokenQueue := by
  unfold removalStep at hstep
  cases point with
  | idle =>
    dsimp only at hstep
    split at hstep
    · cases hstep
      exact Or.inl rfl
    · split at hstep
      · cases hstep
        exact Or.inl rfl
      · cases hstep
  | killFlow flow process =>
    cases hstep
    exact Or.inl (tokenQueue_killFlow s flow)
  | killProcess process =>
    cases hstep
    exact Or.inl (tokenQueue_killProcess s process)
  | post =>
    obtain ⟨u, hpost, rfl⟩ := map_ok hstep
    obtain rfl := semPost_ok hpost
    exact Or.inr (TokenQueue.Step.donate _)
  | count =>
    dsimp only at hstep
    split at hstep
    · cases hstep
      exact Or.inl rfl
    · cases hstep

/-- **The threads keep to a queue with tokens**, whichever of them goes on. -/
theorem step_refines {input : WorkerInput} (hstep : s.step input = .ok t) :
    Refines s.tokenQueue t.tokenQueue := by
  unfold step at hstep
  cases input with
  | flow i received =>
    dsimp only at hstep
    split at hstep
    · cases hstep
      exact Or.inl rfl
    · rename_i w hw
      exact flowStep_refines hw hstep
  | process i found =>
    dsimp only at hstep
    split at hstep
    · cases hstep
      exact Or.inl rfl
    · rename_i w hw
      cases hstep
      exact processStep_refines hw found
  | removal i =>
    dsimp only at hstep
    split at hstep
    · cases hstep
      exact Or.inl rfl
    · exact removalStep_refines hstep

/-- Every run of the threads is one of the queue. -/
theorem run_refines {ins : List WorkerInput} (hrun : s.run ins = .ok t) :
    ReflTransGen TokenQueue.Step s.tokenQueue t.tokenQueue := by
  refine run_preserves step (fun t => ReflTransGen TokenQueue.Step s.tokenQueue t.tokenQueue)
    ?_ ReflTransGen.refl hrun
  intro t input u ht hstep
  rcases step_refines hstep with hsame | hone
  · rw [hsame]
    exact ht
  · exact ht.tail hone

/-! ## Every state the threads reach -/

/-- The queue the threads start with is sound. -/
theorem Starting.sound (h : s.Starting) : s.tokenQueue.Sound :=
  TokenQueue.sound_of_empty h.processChunks h.pushed h.popped

/-- Every process worker that has not ended is blocked in `sem_wait()`. -/
def ProcessWorkersBlocked (s : ChunkWorkers) : Prop :=
  s.semProcessChunkThread = 0 ∧
    ∀ w ∈ s.processWorkers, w.point = .wait ∨ w.point = .exited

/-- No flow worker is between its push and its post. -/
def NothingOwed (s : ChunkWorkers) : Prop := ∀ w ∈ s.flowWorkers, w.point.owes = false

/-- **No chunk is stranded.** However many threads work for a record and in whatever order
they go on, the queue is never longer than the value of the semaphore and the workers that
are about to pop or to post; the chunks leave it in the order they came, each once; and when
the process workers are blocked and no post is due, it is empty. -/
theorem chunks_not_stranded (hstart : s.Starting) {ins : List WorkerInput}
    (hrun : s.run ins = .ok t) :
    t.processChunks.length ≤ t.semProcessChunkThread + t.holding + t.owing ∧
    t.popped ++ t.processChunks = t.pushed ∧
    (t.ProcessWorkersBlocked → t.NothingOwed → t.processChunks = []) := by
  have hsound : t.tokenQueue.Sound := hstart.sound.steps (run_refines hrun)
  refine ⟨hsound.covered, hsound.ordered, ?_⟩
  rintro ⟨hzero, hblocked⟩ howed
  refine hsound.items_eq_nil hzero ?_ ?_
  · refine List.countP_eq_zero.mpr ?_
    intro w hw
    rcases hblocked w hw with hpoint | hpoint
    · simp [hpoint, ProcessWorkerPoint.holds]
    · simp [hpoint, ProcessWorkerPoint.holds]
  · refine List.countP_eq_zero.mpr ?_
    intro w hw
    simp [howed w hw]

/-- One worker of each kind, both in the queues `remove_thread()` takes them from. -/
def oneWorkerEach : ChunkWorkers where
  processChunks := []
  semProcessChunkThread := 0
  packetsCount := 0
  threadCount := 1
  flowThreads := [0]
  processThreads := [0]
  flowWorkers := [⟨true, .incoming, .receive⟩]
  processWorkers := [⟨true, .test⟩]
  removals := [.idle]
  incomingChunks := []
  pushed := []
  popped := []

/-- All of its workers are at their first statement. -/
theorem oneWorkerEach_starting : oneWorkerEach.Starting := by
  refine ⟨rfl, rfl, rfl, rfl, ?_, ?_, ?_⟩
  · simp [oneWorkerEach]
  · simp [oneWorkerEach]
  · simp [oneWorkerEach]

/-- A chunk is pushed and popped while the workers are removed; the process worker, which was
waiting when it was killed, takes the token that `remove_thread()` posts and ends. -/
theorem chunks_not_stranded_removal :
    ∃ t, oneWorkerEach.run (List.replicate 4 (.flow 0 (some default)) ++
        List.replicate 5 (.process 0 (some 0)) ++ List.replicate 5 (.removal 0) ++
        List.replicate 4 (.process 0 none)) = .ok t ∧
      t.pushed.length = 1 ∧ t.processChunks.length ≤ t.semProcessChunkThread + t.holding + t.owing ∧
      t.popped ++ t.processChunks = t.pushed ∧ t.processChunks = [] := by
  obtain ⟨t, hrun, hpushed, hblocked, howed⟩ : ∃ t, oneWorkerEach.run
      (List.replicate 4 (.flow 0 (some default)) ++ List.replicate 5 (.process 0 (some 0)) ++
        List.replicate 5 (.removal 0) ++ List.replicate 4 (.process 0 none)) = .ok t ∧
      t.pushed.length = 1 ∧ t.ProcessWorkersBlocked ∧ t.NothingOwed := by
    refine ⟨_, rfl, rfl, ⟨rfl, ?_⟩, ?_⟩
    · intro w hw
      obtain rfl := List.mem_singleton.mp hw
      exact Or.inr rfl
    · intro w hw
      obtain rfl := List.mem_singleton.mp hw
      rfl
  obtain ⟨hcovered, hordered, hempty⟩ := chunks_not_stranded oneWorkerEach_starting hrun
  exact ⟨t, hrun, hpushed, hcovered, hordered, hempty hblocked howed⟩

end ChunkWorkers

end Udtp
