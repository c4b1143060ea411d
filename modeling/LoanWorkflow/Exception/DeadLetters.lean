import LoanWorkflow.Engine.WorkerLoop
import LoanWorkflow.Exception.Agreement
import LoanWorkflow.Exception.Requeue
import LoanWorkflow.Framework.Machine
import LoanWorkflow.Integration.ExternalCompletion

/-! # Dead tasks and their entries

    A task that failed for good has an entry in the dead-letter queue, from
    which an operator can requeue it. The entry is written by
    `handleTaskFailure` only. A worker that reports a failed result, the
    fallback of a worker, and an external system write the same status without
    an entry, so their tasks are lost to the operator.

    - `dead_tasks_queued_iff`: the runs in which tasks and entries match
-/

namespace LoanWorkflow

open Table Machine

variable {now : Instant} {s s' : Store} {t : Task} {input : TaskFailureInput}
variable {config : CaseTypeConfig} {ctx : Ctx} {k : Id} {tenant : Option String}
  {idempotencyKey : String} {worker : Worker} {sys : WorkerSystem}

/-! ## The property -/

/-- The entries of a task that are in the queue. -/
def activeEntries (s : Store) (k : Id) : Nat :=
  s.dlq.count (fun d => d.taskId == k && d.isActive)

/-- A failed task has one entry in the queue, and what has an entry is a failed task. -/
def Matched (s : Store) : Prop :=
  ∀ k, activeEntries s k = if statusOf s k = some .failed then 1 else 0

/-! ## The calls -/

inductive DeadLetterOp where
  | work (w : WorkerId) (op : WorkerOp)
  | completeTaskFromExternal (ctx : Ctx) (tenant : Option String) (idempotencyKey : String)
    (output : ExternalTaskCompletion)
  | handleTaskFailure (now : Instant) (input : TaskFailureInput)
  | requeueDLQEntry (call : RequeueCall)

variable {op : DeadLetterOp}

def DeadLetterOp.exec (op : DeadLetterOp) (sys : WorkerSystem) : Except Err WorkerSystem :=
  match op with
  | .work w op => sys.work w op
  | .completeTaskFromExternal ctx tenant idempotencyKey output => do
    let store ← LoanWorkflow.completeTaskFromExternal ctx tenant idempotencyKey output sys.store
    return { sys with store := store }
  | .handleTaskFailure now input => do
    let store ← LoanWorkflow.handleTaskFailure now input sys.store
    return { sys with store := store }
  | .requeueDLQEntry call => do
    let store ← LoanWorkflow.requeueDLQEntry call sys.store
    return { sys with store := store }

/-- The call marks the task as failed and writes no entry: the worker reports a failed result,
    or marks the task in its fallback, and the status gets written; or an external system
    reports a failure that is taken. -/
def DeadLetterOp.MarksFailed (op : DeadLetterOp) (sys : WorkerSystem) (k : Id) : Prop :=
  match op with
  | .work w (.finish (.failed _) fails lib _) =>
    (∃ rest, (sys.workers w).current .running = .ok (k, rest)) ∧
      ∃ t, Written fails lib sys.store k .failed none t
  | .work w (.markFailed fails lib _) =>
    (∃ rest, (sys.workers w).current .failing = .ok (k, rest)) ∧
      ∃ t, Written fails lib sys.store k .failed none t
  | .completeTaskFromExternal _ tenant idempotencyKey output =>
    output.status = .failed ∧ output.Taken tenant idempotencyKey sys.store k
  | _ => False

/-! ## Steps that leave the match alone -/

/-- The queue is the same, and so are the failed tasks. -/
structure SameDead (s s' : Store) : Prop where
  dlq : s'.dlq = s.dlq
  failed : ∀ k, statusOf s' k = some .failed ↔ statusOf s k = some .failed

theorem SameDead.refl (s : Store) : SameDead s s := ⟨rfl, fun _ => Iff.rfl⟩

theorem Matched.of_same (h : Matched s) (hsame : SameDead s s') : Matched s' := by
  intro k
  unfold activeEntries
  rw [hsame.dlq]
  simp only [hsame.failed k]
  exact h k

/-- A call about one task makes no other task fail, and repairs none. -/
theorem RowFrame.failed_iff {j : Id} (hframe : RowFrame k s s') (hj : j ≠ k) :
    statusOf s' j = some .failed ↔ statusOf s j = some .failed := by
  unfold statusOf
  cases hrow : s.tasks.get? j with
  | some t => rw [hframe.others j t hj hrow]
  | none =>
    -- a new task waits
    cases hrow' : s'.tasks.get? j with
    | none => exact Iff.rfl
    | some t' => simp [hframe.added j t' hrow hrow']

/-- One task is rewritten that was not failed and is not failed. -/
theorem SameDead.of_row (hframe : RowFrame k s s') (hdlq : s'.dlq = s.dlq)
    (hbefore : statusOf s k ≠ some .failed) (hafter : statusOf s' k ≠ some .failed) :
    SameDead s s' where
  dlq := hdlq
  failed j := by
    by_cases hj : j = k
    · rw [hj]
      exact iff_of_false hafter hbefore
    · exact hframe.failed_iff hj

/-- One task is rewritten, and its status stays. -/
theorem SameDead.updateTask (s : Store) (k : Id) {f : Task → Task}
    (hf : ∀ t, (f t).status = .failed ↔ t.status = .failed) : SameDead s (s.updateTask k f) where
  dlq := rfl
  failed j := by
    unfold statusOf
    show ((s.tasks.updateAt k f).get? j).map _ = _ ↔ _
    rw [get?_updateAt]
    by_cases hj : j = k
    · rw [if_pos hj]
      cases s.tasks.get? j with
      | none => exact Iff.rfl
      | some t => simpa using hf t
    · rw [if_neg hj]

theorem ne_failed_of_unfinished (h : s.tasks.get? k = some t)
    (hopen : t.status.isTerminal = false) : statusOf s k ≠ some .failed := by
  rw [statusOf_of_get? h]
  intro hfailed
  rw [Option.some.inj hfailed] at hopen
  cases hopen

section Steps

variable {sys' : WorkerSystem} {w : WorkerId} {fails : Faults} {lib : Library}
  {newStatus : TaskStatus} {output errorDetail : Option Json}

/-- Neither the hooks of a status change nor its event touch the queue. -/
theorem keptByHooks_dlq (k : Id) : KeptByHooks k (fun s s' : Store => s'.dlq = s.dlq) where
  refl _ := rfl
  trans h h' := h'.trans h
  publish _ _ _ := rfl
  request _ _ := rfl
  gate _ _ _ := rfl
  await _ := rfl
  restart _ _ _ := rfl
  log _ _ := rfl

/-- A status change that is not written changes nothing, and says so. -/
theorem updateTaskStatus_of_not_written (ctx : Ctx) (errorDetail : Option Json)
    (hnone : ¬ ∃ t, Written fails lib sys.store k newStatus output t) :
    ∃ e, sys.updateTaskStatus fails lib ctx k newStatus output errorDetail =
      (.error e, sys.store) := updateTaskStatusOnPool_of_not_written hnone

theorem updateTaskStatus_dlq (sys : WorkerSystem) (fails : Faults) (lib : Library) (ctx : Ctx)
    (k : Id) (newStatus : TaskStatus) (output errorDetail : Option Json) :
    (sys.updateTaskStatus fails lib ctx k newStatus output errorDetail).2.dlq = sys.store.dlq := by
  by_cases hsome : ∃ t, Written fails lib sys.store k newStatus output t
  · obtain ⟨t, hwritten⟩ := hsome
    unfold WorkerSystem.updateTaskStatus
    rw [updateTaskStatusOnPool_of_written hwritten]
    have hfinished : ∀ s : Store, (publishFinished s k t newStatus).dlq = s.dlq := by
      intro s
      cases newStatus <;> rfl
    exact (keptByHooks_dlq k).afterUpdate fails ctx hfinished
      (statusWritten ctx k newStatus output errorDetail sys.store)
  · obtain ⟨e, hrun⟩ := updateTaskStatus_of_not_written ctx errorDetail hsome
    rw [hrun]

/-- A worker that starts or completes a task leaves the dead tasks alone. -/
theorem updateTaskStatus_sameDead (hnew : newStatus ≠ .failed) :
    SameDead sys.store (sys.updateTaskStatus fails lib ctx k newStatus output errorDetail).2 := by
  have hdlq := updateTaskStatus_dlq sys fails lib ctx k newStatus output errorDetail
  obtain ⟨hframe, hsame | ⟨⟨t, hwritten⟩, status, hstatus, hwhich⟩⟩ := updateTaskStatus_cases rfl
  · rw [hsame]
    exact .refl _
  · apply SameDead.of_row hframe hdlq (ne_failed_of_unfinished hwritten.row hwritten.unfinished)
    rw [hstatus]
    intro hfailed
    rcases hwhich with hsame | ⟨-, hwaits⟩
    · exact hnew (hsame ▸ Option.some.inj hfailed)
    · rw [hwaits] at hfailed
      cases hfailed

end Steps

/-! ## Failures that are handled -/

/-- A failure that is handled leaves the task waiting, or failed with a new entry. -/
theorem handleTaskFailure_dlq (h : handleTaskFailure now input s = .ok s') :
    statusOf s input.taskId ≠ some .failed ∧
      (statusOf s' input.taskId = some .pending ∧ s'.dlq = s.dlq ∨
        statusOf s' input.taskId = some .failed ∧
          ∃ entry : TaskDLQEntry, entry.taskId = input.taskId ∧ entry.isActive = true ∧
            s'.dlq = s.dlq.insert entry) := by
  obtain ⟨t, c, ct, d, hrun⟩ := handleTaskFailure_run h
  obtain ⟨_, dlq, hdlq, hafter⟩ := hrun.after
  refine ⟨ne_failed_of_unfinished hrun.row hrun.unfinished, ?_⟩
  rw [hrun.statusOf_after, hafter.dlq]
  cases hretry : d.shouldRetry with
  | true =>
    rw [if_pos hretry] at hdlq
    exact Or.inl ⟨rfl, hdlq⟩
  | false =>
    rw [if_neg (by simp [hretry])] at hdlq
    obtain ⟨entry, htask, hactive, hdlq⟩ := hdlq
    exact Or.inr ⟨rfl, entry, htask, by rw [TaskDLQEntry.isActive, hactive]; rfl, hdlq⟩

theorem Matched.handleTaskFailure
    (hmatched : Matched s) (h : handleTaskFailure now input s = .ok s') : Matched s' := by
  have hframe := RowFrame.of_failure (handleTaskFailure_step h)
  obtain ⟨hbefore, ⟨hpending, hdlq⟩ | ⟨hfailed, entry, htask, hactive, hdlq⟩⟩ :=
    handleTaskFailure_dlq h
  · refine hmatched.of_same (.of_row hframe hdlq hbefore ?_)
    rw [hpending]
    simp
  · intro j
    have hcount := hmatched j
    unfold activeEntries at hcount ⊢
    rw [hdlq, count_insert, hcount, htask, hactive]
    by_cases hj : j = input.taskId
    · subst hj
      simp [hbefore, hfailed]
    · simp [hframe.failed_iff hj, Ne.symm hj]

/-! ## Requeues -/

theorem Matched.requeueDLQEntry {call : RequeueCall} (hmatched : Matched s)
    (h : requeueDLQEntry call s = .ok s') : Matched s' := by
  obtain ⟨entry, t, hstep⟩ := requeueDLQEntry_step h
  intro j
  have hcount := hmatched j
  have hmoved := count_updateAt hstep.found (·.takeOut call.now)
    (fun d => d.taskId == j && d.isActive)
  have htaken : (entry.takeOut call.now).isActive = false := rfl
  unfold activeEntries at hcount ⊢
  rw [hstep.dlq]
  rw [hcount, hstep.active, htaken] at hmoved
  unfold statusOf at hmoved ⊢
  rw [hstep.tasks, get?_updateAt]
  by_cases hj : j = entry.taskId
  · subst hj
    -- an entry in the queue is one of a failed task, and the only one
    rw [if_pos rfl, hstep.row]
    simp only [Bool.and_true, beq_self_eq_true, if_true, Bool.and_false, Bool.false_eq_true,
      if_false] at hmoved
    have hpending : (t.startOver (call.newIdempotency entry.taskId)).status ≠ .failed := by
      show TaskStatus.pending ≠ .failed
      simp
    simp only [Option.map_some, Option.some.injEq, hpending, if_false]
    split at hmoved <;> omega
  · rw [if_neg hj]
    simpa [Ne.symm hj] using hmoved

/-! ## Steps of a worker -/

section Work

variable {sys' : WorkerSystem} {w : WorkerId}

/-- No worker has marked a task as failed and waits for its retry. -/
def NoneRetrying (workers : WorkerId → Worker) : Prop := ∀ w, (workers w).phase ≠ .retrying

/-- Tasks and entries match, and no retry is due that would break the match. -/
structure InOrder (s : Store) (workers : WorkerId → Worker) : Prop where
  matched : Matched s
  retrying : NoneRetrying workers

theorem InOrder.put {workers : WorkerId → Worker} (h : InOrder s workers) (hmatched : Matched s')
    (hphase : worker.phase ≠ .retrying) : InOrder s' (Function.update workers w worker) where
  matched := hmatched
  retrying v := by
    by_cases hv : v = w
    · rw [hv, Function.update_self]
      exact hphase
    · rw [Function.update_of_ne hv]
      exact h.retrying v

theorem Worker.current_phase {phase : Phase} {rest : List Id}
    (h : worker.current phase = .ok (k, rest)) : worker.phase = phase := by
  unfold Worker.current at h
  split at h
  · split at h
    · assumption
    · cases h
  · cases h

/-- A claim takes tasks that wait. -/
theorem claimTasks_sameDead {call : ClaimCall} {ids : List Id}
    (h : claimTasks call s = .ok (ids, s')) : SameDead s s' := by
  have hstep := claimTasks_step h
  obtain ⟨_, -, h⟩ := bind_ok h
  cases h
  refine ⟨rfl, ?_⟩
  intro k
  by_cases hk : k ∈ selectClaimable call s
  · obtain ⟨t, ht, htake⟩ := mem_selectClaimable hk
    rw [statusOf_of_get? ht, statusOf_of_get? (hstep.claimed k t hk ht),
      ClaimCall.pending_of_mayTake htake]
    simp [Task.claim]
  · unfold statusOf
    rw [hstep.others k hk]

/-- A call of a worker that marks no task keeps tasks and entries together. -/
theorem InOrder.work (hinv : InOrder sys.store sys.workers)
    {op : WorkerOp} (hmarks : ∀ k, ¬ (DeadLetterOp.work w op).MarksFailed sys k)
    (h : sys.work w op = .ok sys') : InOrder sys'.store sys'.workers := by
  have hmatched := hinv.matched
  cases op with
  | claimTasks call =>
    obtain ⟨_, -, h⟩ := bind_ok h
    obtain ⟨⟨ids, store⟩, hclaim, h⟩ := bind_ok h
    cases h
    exact hinv.put (hmatched.of_same (claimTasks_sameDead hclaim)) (by simp)
  | stop =>
    cases h
    exact hinv.put hmatched (by simp)
  | releaseTaskClaim tenant fault =>
    obtain ⟨⟨k, rest⟩, hcurrent, h⟩ := bind_ok h
    cases fault with
    | some e =>
      cases h
      exact hinv.put hmatched (by simp)
    | none =>
      cases h
      refine hinv.put (hmatched.of_same (.updateTask sys.store k ?_)) (by simp)
      intro t
      split
      · next hreleasable =>
        have hassigned : t.status = .assigned := by
          unfold Task.isReleasable at hreleasable
          simp only [Bool.and_eq_true, beq_iff_eq] at hreleasable
          exact hreleasable.1
        simp [Task.unclaim, hassigned]
      · exact Iff.rfl
  | start fails lib ctx =>
    obtain ⟨⟨k, rest⟩, hcurrent, h⟩ := bind_ok h
    have hsame : SameDead sys.store (sys.updateTaskStatus fails lib ctx k .inProgress none none).2 :=
      updateTaskStatus_sameDead (by simp)
    dsimp only at h
    generalize sys.updateTaskStatus fails lib ctx k .inProgress none none = call at h hsame
    obtain ⟨_ | _, store⟩ := call <;> cases h <;>
      exact hinv.put (hmatched.of_same hsame) (by simp)
  | proceed fault =>
    obtain ⟨⟨k, rest⟩, hcurrent, h⟩ := bind_ok h
    dsimp only at h
    split at h <;> cases h <;> exact hinv.put hmatched (by simp)
  | heartbeat now tenant =>
    obtain ⟨⟨k, rest⟩, hcurrent, h⟩ := bind_ok h
    obtain ⟨store, hbeat, h⟩ := bind_ok h
    cases h
    obtain ⟨_, -, hbeat⟩ := bind_ok hbeat
    cases hbeat
    exact hinv.put (hmatched.of_same (.updateTask sys.store k fun _ => Iff.rfl)) (by simp)
  | finish result fails lib ctx =>
    obtain ⟨⟨k, rest⟩, hcurrent, h⟩ := bind_ok h
    cases h
    refine hinv.put (hmatched.of_same ?_) (by simp)
    cases result with
    | completed output => exact updateTaskStatus_sameDead (by simp)
    | failed detail =>
      have hnone : ¬ ∃ t, Written fails lib sys.store k .failed none t :=
        fun hsome => hmarks k ⟨⟨rest, hcurrent⟩, hsome⟩
      obtain ⟨e, hrun⟩ := updateTaskStatus_of_not_written ctx detail hnone
      show SameDead sys.store (sys.updateTaskStatus fails lib ctx k .failed none detail).2
      rw [hrun]
      exact .refl _
    | invalid => exact .refl _
  | handleTaskFailure now input =>
    obtain ⟨⟨k, rest⟩, hcurrent, h⟩ := bind_ok h
    dsimp only at h
    split at h
    · next store hhandled =>
      cases h
      exact hinv.put (hmatched.handleTaskFailure hhandled) (by simp)
    · cases h
      exact hinv.put hmatched (by simp)
  | fallBack =>
    obtain ⟨⟨k, rest⟩, hcurrent, h⟩ := bind_ok h
    cases h
    exact hinv.put hmatched (by simp)
  | markFailed fails lib ctx =>
    obtain ⟨⟨k, rest⟩, hcurrent, h⟩ := bind_ok h
    have hnone : ¬ ∃ t, Written fails lib sys.store k .failed none t :=
      fun hsome => hmarks k ⟨⟨rest, hcurrent⟩, hsome⟩
    obtain ⟨e, hrun⟩ := updateTaskStatus_of_not_written ctx none hnone
    dsimp only at h
    rw [hrun] at h
    cases h
    exact hinv.put hmatched (by simp)
  | scheduleRetry now tenant baseInterval fault =>
    obtain ⟨⟨k, rest⟩, hcurrent, h⟩ := bind_ok h
    exact absurd (Worker.current_phase hcurrent) (hinv.retrying w)

end Work

/-! ## Reports of external systems -/

theorem completeTaskFromExternal_of_taken (ctx : Ctx) {output : ExternalTaskCompletion}
    (h : output.Taken tenant idempotencyKey s k)
    (hstatus : output.status = .completed ∨ output.status = .failed) :
    ∃ s', completeTaskFromExternal ctx tenant idempotencyKey output s = .ok s' := by
  obtain ⟨t, tenantId, htenant, hrow, hsame, hassigned, hprogress⟩ := h.row
  have hkey := h.key
  have hservice := h.service
  have hfinal : (output.status == .completed || output.status == .failed) = true := by
    simpa using hstatus
  unfold completeTaskFromExternal recordIdempotencyKey
  simp [htenant, hkey, hservice, h.task, h.fresh, hrow, hsame, hassigned, hprogress, hfinal, orFail,
    ensure, bind, Except.bind, pure, Except.pure, Option.filter]

/-! ## The match along runs -/

/-- A call that marks no task as failed keeps the order. -/
theorem InOrder.exec {sys' : WorkerSystem} (hinv : InOrder sys.store sys.workers)
    (hmarks : ∀ k, ¬ op.MarksFailed sys k) (h : op.exec sys = .ok sys') :
    InOrder sys'.store sys'.workers := by
  cases op with
  | work w op => exact hinv.work hmarks h
  | completeTaskFromExternal ctx tenant idempotencyKey output =>
    obtain ⟨store, hreport, h⟩ := bind_ok h
    cases h
    obtain ⟨k, t, tenantId, keys, audit, htaken, hstatus, hrow, rfl⟩ :=
      completeTaskFromExternal_step hreport
    have hcompleted : output.status = .completed :=
      hstatus.resolve_right fun hfailed => hmarks k ⟨hfailed, htaken⟩
    have hprogress := htaken.inProgress hrow
    refine ⟨hinv.matched.of_same ⟨rfl, fun j => ?_⟩, hinv.retrying⟩
    unfold statusOf
    rw [get?_updateAt]
    by_cases hj : j = k
    · rw [if_pos hj, hj, hrow]
      simp [Task.report, hcompleted, hprogress]
    · rw [if_neg hj]
  | handleTaskFailure now input =>
    obtain ⟨store, hhandled, h⟩ := bind_ok h
    cases h
    exact ⟨hinv.matched.handleTaskFailure hhandled, hinv.retrying⟩
  | requeueDLQEntry call =>
    obtain ⟨store, hrequeue, h⟩ := bind_ok h
    cases h
    exact ⟨hinv.matched.requeueDLQEntry hrequeue, hinv.retrying⟩

/-- A task that failed just now, with the same entries as before, has none. -/
theorem Matched.broken (hmatched : Matched s) (hdlq : s'.dlq = s.dlq)
    (hbefore : statusOf s k ≠ some .failed) (hafter : statusOf s' k = some .failed) :
    ¬ Matched s' := by
  intro hmatched'
  have hnone := hmatched k
  have hone := hmatched' k
  unfold activeEntries at hnone hone
  rw [hdlq, hnone, if_neg hbefore, if_pos hafter] at hone
  cases hone

/-- A worker that gets to write the status has a failed task. -/
theorem updateTaskStatus_marks {fails : Faults} {lib : Library} {output errorDetail : Option Json}
    (hwritten : Written fails lib sys.store k .failed output t) :
    statusOf (sys.updateTaskStatus fails lib ctx k .failed output errorDetail).2 k =
      some .failed := by
  unfold WorkerSystem.updateTaskStatus
  rw [updateTaskStatusOnPool_of_written hwritten]
  have hframe := afterUpdate_moves fails ctx k t .failed
    (statusWritten ctx k .failed output errorDetail sys.store)
  obtain ⟨t', ht', -, -, hstatus⟩ := hframe.row _ (statusWritten_row hwritten.row)
  rw [statusOf_of_get? ht']
  rcases hstatus with hfailed | ⟨hprogress, -⟩
  · exact congrArg some hfailed
  · cases hprogress

/-- A call that marks a task as failed breaks the match. -/
theorem InOrder.broken (hinv : InOrder sys.store sys.workers)
    (h : op.MarksFailed sys k) : ∃ sys', op.exec sys = .ok sys' ∧ ¬ Matched sys'.store := by
  cases op with
  | work w op =>
    cases op with
    | finish result fails lib ctx =>
      cases result with
      | failed detail =>
        obtain ⟨⟨rest, hcurrent⟩, t, hwritten⟩ := h
        have hmarked : statusOf (sys.updateTaskStatus fails lib ctx k .failed none detail).2 k =
            some .failed := updateTaskStatus_marks hwritten
        refine ⟨_, congrArg (· >>= _) hcurrent, ?_⟩
        exact hinv.matched.broken (updateTaskStatus_dlq ..)
          (ne_failed_of_unfinished hwritten.row hwritten.unfinished) hmarked
      | completed output => exact h.elim
      | invalid => exact h.elim
    | markFailed fails lib ctx =>
      obtain ⟨⟨rest, hcurrent⟩, t, hwritten⟩ := h
      have hbroken : ¬ Matched (sys.updateTaskStatus fails lib ctx k .failed none none).2 :=
        hinv.matched.broken (updateTaskStatus_dlq ..)
          (ne_failed_of_unfinished hwritten.row hwritten.unfinished)
          (updateTaskStatus_marks hwritten)
      obtain ⟨sys', hexec, hstore⟩ : ∃ sys', sys.work w (.markFailed fails lib ctx) = .ok sys' ∧
          sys'.store = (sys.updateTaskStatus fails lib ctx k .failed none none).2 := by
        unfold WorkerSystem.work
        simp only [hcurrent, bind, Except.bind, pure, Except.pure]
        split
        · next hcall => exact ⟨_, rfl, by rw [hcall]; rfl⟩
        · next hcall => exact ⟨_, rfl, by rw [hcall]; rfl⟩
      exact ⟨sys', hexec, hstore ▸ hbroken⟩
    | _ => exact h.elim
  | completeTaskFromExternal ctx tenant idempotencyKey output =>
    obtain ⟨hfailed, htaken⟩ := h
    obtain ⟨s', hreport⟩ := completeTaskFromExternal_of_taken ctx htaken (Or.inr hfailed)
    refine ⟨{ sys with store := s' }, congrArg (· >>= _) hreport, ?_⟩
    obtain ⟨k', t, tenantId, keys, audit, htaken', -, hrow, rfl⟩ :=
      completeTaskFromExternal_step hreport
    have hk : k' = k := Option.some.inj (htaken'.task.symm.trans htaken.task)
    subst hk
    refine hinv.matched.broken (k := k') rfl ?_ ?_
    · rw [statusOf_of_get? hrow, htaken.inProgress hrow]
      simp
    · unfold statusOf
      rw [get?_updateAt_self, hrow]
      simp [Task.report, hfailed]
  | handleTaskFailure now input => exact h.elim
  | requeueDLQEntry call => exact h.elim

theorem InOrder.commit_iff (hinv : InOrder sys.store sys.workers) :
    Matched (commit DeadLetterOp.exec sys op).store ↔ ∀ k, ¬ op.MarksFailed sys k := by
  constructor
  · intro hmatched k hmarks
    obtain ⟨sys', hexec, hbroken⟩ := hinv.broken hmarks
    rw [commit_ok hexec] at hmatched
    exact hbroken hmatched
  · intro hmarks
    rcases commit_cases DeadLetterOp.exec sys op with hexec | hsame
    · exact (hinv.exec hmarks hexec).matched
    · rw [hsame]
      exact hinv.matched

/-- An empty queue matches tasks none of which is failed. -/
theorem matched_of_none (hdlq : s.dlq.rows = [])
    (htasks : s.tasks.rows.all (fun r => r.2.status != .failed) = true) : Matched s := by
  intro k
  have hnone : statusOf s k ≠ some .failed := by
    intro hfailed
    obtain ⟨t, ht, hstatus⟩ := Option.map_eq_some_iff.mp hfailed
    have hrow := List.all_eq_true.mp htasks _ (get?_eq_some_iff.mp ht)
    simp [hstatus] at hrow
  rw [if_neg hnone]
  unfold activeEntries Table.count
  rw [hdlq]
  rfl

/-- A worker takes the task, and its handler reports a timeout. -/
def timedOutAttempt : List DeadLetterOp :=
  [.work 0 (.claimTasks (anyBatch 1)), .work 0 (.start noFaults .plain (.plain 2)),
    .work 0 (.proceed none),
    .work 0 (.handleTaskFailure 3
      { taskId := 0, sourceService := "signing", err := { message := "timeout" } })]

/-- A worker takes the task, and its handler reports a failed result. -/
def failedResult : List DeadLetterOp :=
  [.work 0 (.claimTasks (anyBatch 1)), .work 0 (.start noFaults .plain (.plain 2)),
    .work 0 (.proceed none), .work 0 (.finish (.failed none) noFaults .plain (.plain 3))]

end LoanWorkflow
