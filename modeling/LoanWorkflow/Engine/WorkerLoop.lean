import LoanWorkflow.Engine.TaskClaims
import LoanWorkflow.Engine.TaskEvents

/-! # The worker loop

    Any number of workers claim tasks in batches and process a batch task by
    task, while cases are suspended, resumed and released and stale tasks are
    taken back. One step is one call. The calls of a worker that change a
    status run on the pool, so they may fail in the middle and still have
    written something; the others are transactions or single statements.

    Two histories are kept along with the state, which no code reads: the
    worker that claimed a task last, unless the claim was taken back since,
    and the cases that are suspended and not resumed yet.
-/

namespace LoanWorkflow

open Autocommit Table

variable {now : Instant} {fault : Option Err} {tenant : Option String}
variable {ctx : Ctx} {fails : Faults} {k : Id} {lib : Library} {s : Store} {f : Task → Task}
  {status : TaskStatus}

/-! ## Workers -/

/-- Workers are told apart by numbers. -/
abbrev WorkerId := Nat

variable {w : WorkerId}

/-- How far `processTask` is with the first task of the batch. -/
inductive Phase where
  /-- it has not begun -/
  | claimed
  /-- the task is marked as in progress -/
  | started
  /-- the handler runs -/
  | running
  /-- the handler failed, and the failure was not recorded -/
  | failing
  /-- the task is marked as failed, without a decision about a retry -/
  | retrying
  deriving DecidableEq

variable {phase : Phase}

/-- A worker: the rest of its batch, first the task it processes. -/
structure Worker where
  queue : List Id := []
  phase : Phase := .claimed

/-- The task that the worker processes and the rest of its batch, if it has come to the phase. -/
def Worker.current (worker : Worker) (phase : Phase) : Except Err (Id × List Id) :=
  match worker.queue with
  | k :: rest => if worker.phase = phase then .ok (k, rest) else .error "not at this point"
  | [] => .error "no task"

/-- `integration.TaskResult`, by its status. -/
inductive HandlerResult where
  | completed (output : Option Json)
  | failed (detail : Option Json)
  | invalid

inductive WorkerOp where
  /-- `processBatch` claims a batch -/
  | claimTasks (call : ClaimCall)
  /-- the context is cancelled, or the process ends -/
  | stop
  /-- no handler is registered for the task -/
  | releaseTaskClaim (tenant : Option String) (fault : Option Err)
  /-- the task is marked as in progress -/
  | start (fails : Faults) (lib : Library) (ctx : Ctx)
  /-- the live status is read, if the query does not fail -/
  | proceed (fault : Option Err)
  | heartbeat (now : Instant) (tenant : Option String)
  /-- `handleSuccess` or `handleRegistryResult` -/
  | finish (result : HandlerResult) (fails : Faults) (lib : Library) (ctx : Ctx)
  /-- the transaction of `handleFailure` -/
  | handleTaskFailure (now : Instant) (input : TaskFailureInput)
  /-- there is no handle for that transaction, or it cannot begin or commit -/
  | fallBack
  /-- the fallback marks the task as failed -/
  | markFailed (fails : Faults) (lib : Library) (ctx : Ctx)
  /-- the fallback schedules a retry -/
  | scheduleRetry (now : Instant) (tenant : Option String) (baseInterval : Duration)
    (fault : Option Err)

/-! ## The system -/

/-- The store, the workers, and two histories. -/
structure WorkerSystem where
  store : Store
  workers : WorkerId → Worker
  /-- Who claimed the task last, unless the claim was taken back since. -/
  claimant : Id → Option WorkerId
  /-- Is the case suspended and not resumed yet? -/
  suspended : Id → Bool

variable {sys' : WorkerSystem} {sys : WorkerSystem}

/-- No worker has begun, and nothing has happened yet. -/
def WorkerSystem.initial (store : Store) : WorkerSystem where
  store := store
  workers := fun _ => {}
  claimant := fun _ => none
  suspended := fun _ => false

def WorkerSystem.put (sys : WorkerSystem) (w : WorkerId) (worker : Worker) (store : Store) :
    WorkerSystem :=
  { sys with
    store := store
    workers := Function.update sys.workers w worker }

def WorkerSystem.lose (sys : WorkerSystem) (hit : Id → Task → Bool) : Id → Option WorkerId :=
  fun k => if (sys.store.tasks.get? k).any (hit k) then none else sys.claimant k

/-- A call of `UpdateTaskStatus` by a worker. -/
def WorkerSystem.updateTaskStatus (sys : WorkerSystem) (fails : Faults) (lib : Library) (ctx : Ctx)
    (k : Id) (newStatus : TaskStatus) (output errorDetail : Option Json) :
    Except Err Unit × Store :=
  (updateTaskStatusOnPool fails lib ctx k newStatus output errorDetail).run sys.store

def WorkerSystem.work (sys : WorkerSystem) (w : WorkerId) : WorkerOp → Except Err WorkerSystem
  | .claimTasks call => do
    ensure (sys.workers w).queue.isEmpty "the batch is not finished"
    let (ids, store) ← claimTasks call sys.store
    return { sys.put w { queue := ids } store with
      claimant := fun k => if k ∈ ids then some w else sys.claimant k }
  | .stop => return sys.put w {} sys.store
  | .releaseTaskClaim tenant fault => do
    let (k, rest) ← (sys.workers w).current .claimed
    match fault with
    | some _ => return sys.put w { queue := rest } sys.store
    | none =>
      return { sys.put w { queue := rest } (releaseTaskClaim tenant k sys.store) with
        claimant := sys.lose (fun j t => j == k && t.isReleasable tenant) }
  | .start fails lib ctx => do
    let (k, rest) ← (sys.workers w).current .claimed
    match sys.updateTaskStatus fails lib ctx k .inProgress none none with
    | (.ok _, store) => return sys.put w { queue := k :: rest, phase := .started } store
    | (.error _, store) => return sys.put w { queue := rest } store
  | .proceed fault => do
    let (k, rest) ← (sys.workers w).current .started
    -- a failed query does not keep the handler from running
    if fault.isNone ∧ statusOf sys.store k = some .awaitingExternal then
      return sys.put w { queue := rest } sys.store
    else return sys.put w { queue := k :: rest, phase := .running } sys.store
  | .heartbeat now tenant => do
    let (k, rest) ← (sys.workers w).current .running
    let store ← heartbeat now tenant k sys.store
    return sys.put w { queue := k :: rest, phase := .running } store
  | .finish result fails lib ctx => do
    let (k, rest) ← (sys.workers w).current .running
    -- an error is logged only
    let store := match result with
      | .completed output => (sys.updateTaskStatus fails lib ctx k .completed output none).2
      | .failed detail => (sys.updateTaskStatus fails lib ctx k .failed none detail).2
      | .invalid => sys.store
    return sys.put w { queue := rest } store
  | .handleTaskFailure now input => do
    let (k, rest) ← (sys.workers w).current .running
    match handleTaskFailure now { input with taskId := k } sys.store with
    | .ok store => return sys.put w { queue := rest } store
    | .error _ => return sys.put w { queue := k :: rest, phase := .failing } sys.store
  | .fallBack => do
    let (k, rest) ← (sys.workers w).current .running
    return sys.put w { queue := k :: rest, phase := .failing } sys.store
  | .markFailed fails lib ctx => do
    let (k, rest) ← (sys.workers w).current .failing
    match sys.updateTaskStatus fails lib ctx k .failed none none with
    | (.ok _, store) => return sys.put w { queue := k :: rest, phase := .retrying } store
    | (.error _, store) => return sys.put w { queue := rest } store
  | .scheduleRetry now tenant baseInterval fault => do
    let (k, rest) ← (sys.workers w).current .retrying
    match fault.elim (scheduleRetry now tenant baseInterval k sys.store) .error with
    | .ok store => return sys.put w { queue := rest } store
    | .error _ => return sys.put w { queue := rest } sys.store

inductive LoopOp where
  | suspendCase (ctx : Ctx) (caseId : Id) (reason : String) (resumeAt : Option Instant)
  | resumeCase (ctx : Ctx) (caseId : Id)
  | releaseCase (ctx : Ctx) (caseId : Id) (userId : String)
  | reclaimStaleTasks (now : Instant) (tenant : Option String) (staleDuration : Duration)
  | work (w : WorkerId) (op : WorkerOp)

/-- The tasks that a call takes away from whoever has claimed them. -/
def LoopOp.takesBack : LoopOp → Task → Bool
  | .suspendCase _ caseId _ _, t => t.caseId == caseId && t.status.isOpen
  | .releaseCase _ caseId _, t => t.caseId == caseId && (t.status != .pending && t.status.isOpen)
  | .reclaimStaleTasks now tenant staleDuration, t => t.isStale tenant (now - staleDuration)
  | .resumeCase _ _, _ | .work _ _, _ => false

def WorkerSystem.exec (op : LoopOp) (sys : WorkerSystem) : Except Err WorkerSystem :=
  match op with
  | .suspendCase ctx caseId reason resumeAt => do
    let store ← suspendCase ctx caseId reason resumeAt sys.store
    return { sys with
      store := store
      claimant := sys.lose (fun _ => op.takesBack)
      suspended := Function.update sys.suspended caseId true }
  | .resumeCase ctx caseId => do
    let store ← resumeCase ctx caseId sys.store
    return { sys with
      store := store
      suspended := Function.update sys.suspended caseId false }
  | .releaseCase ctx caseId userId => do
    let store ← releaseCase ctx caseId userId sys.store
    return { sys with
      store := store
      claimant := sys.lose (fun _ => op.takesBack) }
  | .reclaimStaleTasks now tenant staleDuration =>
    return { sys with
      store := reclaimStaleTasks now tenant staleDuration sys.store
      claimant := sys.lose (fun _ => op.takesBack) }
  | .work w op => sys.work w op

theorem WorkerSystem.lose_of_spared {hit : Id → Task → Bool}
    (h : ∀ t, sys.store.tasks.get? k = some t → hit k t = false) :
    sys.lose hit k = sys.claimant k := by
  unfold WorkerSystem.lose
  cases hrow : sys.store.tasks.get? k with
  | none => rfl
  | some t => simp [h t hrow]

/-! ## Calls about one task -/

/-- What a call about one task does to the tables: the other tasks stay as they are, the task
    stays in its case, a new task waits, and no suspension is lifted. -/
structure RowFrame (k : Id) (s s' : Store) : Prop where
  row : ∀ t, s.tasks.get? k = some t → ∃ t', s'.tasks.get? k = some t' ∧ t'.caseId = t.caseId
  others : ∀ j t, j ≠ k → s.tasks.get? j = some t → s'.tasks.get? j = some t
  added : ∀ j t', s.tasks.get? j = none → s'.tasks.get? j = some t' → t'.status = .pending
  cases : s.cases.Keeps CaseInstance.suspendReason s'.cases

namespace RowFrame

variable {s' s'' : Store}

theorem refl (k : Id) (s : Store) : RowFrame k s s where
  row t ht := ⟨t, ht, rfl⟩
  others _ _ _ ht := ht
  added j t' hnone ht' := by
    rw [hnone] at ht'
    cases ht'
  cases := .refl _ _

theorem of_agreesOff {t : Task} (hrow : s.tasks.get? k = some t)
    (hafter : ∃ t', s'.tasks.get? k = some t' ∧ t'.caseId = t.caseId)
    (hothers : s.tasks.AgreesOff k s'.tasks) (hcases : s'.cases = s.cases) : RowFrame k s s' where
  row t₁ ht₁ := by
    have hsame : t₁ = t := Option.some.inj (ht₁.symm.trans hrow)
    rw [hsame]
    exact hafter
  others j t₁ hne ht₁ := (hothers j hne).trans ht₁
  added j t' hnone ht' := by
    by_cases hj : j = k
    · rw [hj, hrow] at hnone
      cases hnone
    · rw [hothers j hj, hnone] at ht'
      cases ht'
  cases := .of_eq hcases

theorem updateTask (k : Id) (s : Store) (hf : ∀ t, (f t).caseId = t.caseId) :
    RowFrame k s (s.updateTask k f) where
  row t ht := ⟨f t, get?_updateAt_of_get? ht, hf t⟩
  others j t hne ht := by
    show (s.tasks.updateAt k f).get? j = _
    rw [get?_updateAt_ne hne]
    exact ht
  added j t' hnone ht' := by
    have hrow : (s.tasks.updateAt k f).get? j = some t' := ht'
    rw [get?_updateAt, hnone] at hrow
    split at hrow <;> cases hrow
  cases := .refl _ _

theorem of_failure (h : FailureStep k s s') : RowFrame k s s' where
  row t ht := by
    obtain ⟨t₁, t', ht₁, ht', hcase, -⟩ := h.row
    have hsame : t₁ = t := Option.some.inj (ht₁.symm.trans ht)
    exact ⟨t', ht', hsame ▸ hcase⟩
  others := h.others
  added := h.added
  cases := h.cases

end RowFrame

section StatusCalls

variable {s' : Store} {newStatus : TaskStatus} {output errorDetail : Option Json}

variable (h : (sys.updateTaskStatus fails lib ctx k newStatus output errorDetail).2 = s')

include h

/-- A call of `UpdateTaskStatus` changes nothing, or it writes the status, and then only an
    approval may move the task on. -/
theorem updateTaskStatus_cases : RowFrame k sys.store s' ∧ (s' = sys.store ∨
      (∃ t, Written fails lib sys.store k newStatus output t) ∧ ∃ status,
        statusOf s' k = some status ∧
          (status = newStatus ∨ newStatus = .inProgress ∧ status = .awaitingExternal)) := by
  subst h
  unfold WorkerSystem.updateTaskStatus
  by_cases hsome : ∃ t, Written fails lib sys.store k newStatus output t
  · obtain ⟨t, hwritten⟩ := hsome
    rw [updateTaskStatusOnPool_of_written hwritten]
    have hframe := afterUpdate_moves fails ctx k t newStatus
      (statusWritten ctx k newStatus output errorDetail sys.store)
    obtain ⟨t', ht', -, hcase, hstatus⟩ := hframe.row _ (statusWritten_row hwritten.row)
    refine ⟨.of_agreesOff hwritten.row ⟨t', ht', hcase⟩ ?_ hframe.cases,
      Or.inr ⟨⟨t, hwritten⟩, t'.status, statusOf_of_get? ht', hstatus⟩⟩
    exact Table.AgreesOff.trans (.updateAt k sys.store.tasks _) hframe.others
  · obtain ⟨e, hrun⟩ := updateTaskStatusOnPool_of_not_written hsome
    rw [hrun]
    exact ⟨.refl k sys.store, Or.inl rfl⟩

theorem updateTaskStatus_status (hafter : statusOf s' k = some status) :
    statusOf sys.store k = some status ∨
      (∃ t, Written fails lib sys.store k newStatus output t) ∧
        (status = newStatus ∨ newStatus = .inProgress ∧ status = .awaitingExternal) := by
  rcases (updateTaskStatus_cases h).2 with rfl | ⟨hwritten, status', hstatus', hnew⟩
  · exact Or.inl hafter
  · have hunique : status = status' := Option.some.inj (hafter.symm.trans hstatus')
    exact Or.inr ⟨hwritten, hunique ▸ hnew⟩

end StatusCalls

theorem statusOf_updateTask (h : statusOf (s.updateTask k f) k = some status) :
    ∃ t, s.tasks.get? k = some t ∧ (f t).status = status := by
  have hrow : ((s.tasks.updateAt k f).get? k).map (·.status) = some status := h
  rw [get?_updateAt_self] at hrow
  obtain ⟨t', ht', hstatus⟩ := Option.map_eq_some_iff.mp hrow
  obtain ⟨t, ht, rfl⟩ := Option.map_eq_some_iff.mp ht'
  exact ⟨t, ht, hstatus⟩

/-- A handled failure leaves no task that is worked on or done. -/
theorem FailureStep.statusOf {s' : Store} (h : FailureStep k s s') :
    statusOf s' k = some .pending ∨ statusOf s' k = some .failed := by
  obtain ⟨t, t', -, ht', -, hstatus⟩ := h.row
  rw [statusOf_of_get? ht']
  exact hstatus.imp (congrArg some) (congrArg some)

/-! ## Steps of a worker -/

/-- The statuses of a task that is worked on or done. -/
def TaskStatus.isWork : TaskStatus → Bool
  | .assigned | .inProgress | .completed => true
  | _ => false

/-- The call writes the status of the task that the worker processes, and the status is one of
    a task that is worked on or done. -/
def WorkerOp.Writes (op : WorkerOp) (s : Store) (k : Id) (status : TaskStatus) : Prop :=
  match op with
  | .start fails lib _ =>
    status = .inProgress ∧ ∃ t, Written fails lib s k .inProgress none t
  | .finish (.completed output) fails lib _ =>
    status = .completed ∧ ∃ t, Written fails lib s k .completed output t
  | _ => False

/-- The task is worked on as it was before, or as the call says. -/
def WorkerOp.Accounts (op : WorkerOp) (s s' : Store) (k : Id) : Prop :=
  ∀ status, statusOf s' k = some status → status.isWork = true →
    statusOf s k = some status ∨ op.Writes s k status

/-- What a call of a worker does about the task `k` that it processes. -/
structure HeadStep (op : WorkerOp) (w : WorkerId) (k : Id) (rest : List Id)
    (sys sys' : WorkerSystem) : Prop where
  queue : (sys.workers w).queue = k :: rest
  frame : RowFrame k sys.store sys'.store
  status : op.Accounts sys.store sys'.store k
  /-- The worker is done with the task, or it keeps its claim and did not put it back. -/
  next : (sys'.workers w).queue = rest ∨ (sys'.workers w).queue = k :: rest ∧
    sys'.claimant k = sys.claimant k ∧
    (statusOf sys.store k ≠ some .pending → statusOf sys'.store k ≠ some .pending)
  workers : ∀ v, v ≠ w → sys'.workers v = sys.workers v
  claimant : ∀ j, j ≠ k → sys'.claimant j = sys.claimant j
  suspended : sys'.suspended = sys.suspended

theorem Worker.current_eq_ok {worker : Worker} {rest : List Id}
    (h : worker.current phase = .ok (k, rest)) : worker.queue = k :: rest := by
  unfold Worker.current at h
  split at h
  · next hqueue =>
    split at h <;> cases h
    exact hqueue
  · cases h

section HeadSteps

variable {op : WorkerOp} {rest : List Id} {store : Store}

variable (hqueue : (sys.workers w).queue = k :: rest)

include hqueue

/-- The worker is done with the task. -/
theorem HeadStep.drop (hframe : RowFrame k sys.store store)
    (hstatus : op.Accounts sys.store store k) :
    HeadStep op w k rest sys (sys.put w { queue := rest } store) where
  queue := hqueue
  frame := hframe
  status := hstatus
  next := Or.inl (by simp [WorkerSystem.put])
  workers v hv := Function.update_of_ne hv _ _
  claimant _ _ := rfl
  suspended := rfl

/-- The worker goes on with the task. -/
theorem HeadStep.keep (hframe : RowFrame k sys.store store)
    (hstatus : op.Accounts sys.store store k)
    (hpending : statusOf sys.store k ≠ some .pending → statusOf store k ≠ some .pending) :
    HeadStep op w k rest sys (sys.put w { queue := k :: rest, phase := phase } store) where
  queue := hqueue
  frame := hframe
  status := hstatus
  next := Or.inr ⟨by simp [WorkerSystem.put], rfl, hpending⟩
  workers v hv := Function.update_of_ne hv _ _
  claimant _ _ := rfl
  suspended := rfl

/-- Nothing is written and the worker is done with the task. -/
theorem HeadStep.skip : HeadStep op w k rest sys (sys.put w { queue := rest } sys.store) :=
  .drop hqueue (.refl k sys.store) fun _ h _ => Or.inl h

/-- Nothing is written and the worker goes on with the task. -/
theorem HeadStep.wait :
    HeadStep op w k rest sys (sys.put w { queue := k :: rest, phase := phase } sys.store) :=
  .keep hqueue (.refl k sys.store) (fun _ h _ => Or.inl h) id

omit hqueue

variable {newStatus : TaskStatus} {output errorDetail : Option Json}

/-- After a call of `UpdateTaskStatus` the task is worked on only as far as the call says. -/
theorem works_of_updateTaskStatus
    (h : (sys.updateTaskStatus fails lib ctx k newStatus output errorDetail).2 = store)
    (hwrites : newStatus.isWork = true →
      (∃ t, Written fails lib sys.store k newStatus output t) → op.Writes sys.store k newStatus) :
    op.Accounts sys.store store k := by
  intro status hafter hwork
  rcases updateTaskStatus_status h hafter with hsame | ⟨hwritten, rfl | ⟨-, rfl⟩⟩
  · exact Or.inl hsame
  · exact Or.inr (hwrites hwork hwritten)
  · cases hwork

/-- The worker goes on with the task if a call of `UpdateTaskStatus` succeeds. -/
theorem HeadStep.call {phase : Phase} (hqueue : (sys.workers w).queue = k :: rest)
    (hnew : newStatus ≠ .pending) (hwrites : newStatus.isWork = true →
      (∃ t, Written fails lib sys.store k newStatus output t) → op.Writes sys.store k newStatus)
    (h : (match sys.updateTaskStatus fails lib ctx k newStatus output errorDetail with
      | (.ok _, store) => .ok (sys.put w { queue := k :: rest, phase := phase } store)
      | (.error _, store) => .ok (sys.put w { queue := rest } store)) =
        (.ok sys' : Except Err WorkerSystem)) : HeadStep op w k rest sys sys' := by
  generalize hcall : sys.updateTaskStatus fails lib ctx k newStatus output errorDetail = call at h
  have hstore := congrArg Prod.snd hcall
  have hframe := (updateTaskStatus_cases hstore).1
  have hworks := works_of_updateTaskStatus hstore hwrites
  obtain ⟨_ | _, store⟩ := call
  · cases h
    exact .drop hqueue hframe hworks
  · cases h
    refine .keep hqueue hframe hworks fun hbefore hafter => ?_
    -- a call by a worker puts no task back
    rcases updateTaskStatus_status hstore hafter with hsame | ⟨-, hpending | ⟨-, hwaits⟩⟩
    · exact hbefore hsame
    · exact hnew hpending.symm
    · cases hwaits

/-! Each call of a worker about its task is such a step. -/

theorem headStep_of_current {body : Id × List Id → Except Err WorkerSystem}
    (h : (sys.workers w).current phase >>= body = .ok sys')
    (hbody : ∀ k rest, (sys.workers w).queue = k :: rest → body (k, rest) = .ok sys' →
      HeadStep op w k rest sys sys') : ∃ k rest, HeadStep op w k rest sys sys' := by
  obtain ⟨⟨k, rest⟩, hcurrent, h⟩ := bind_ok h
  exact ⟨k, rest, hbody k rest (Worker.current_eq_ok hcurrent) h⟩

theorem releaseTaskClaim_headStep (h : sys.work w (.releaseTaskClaim tenant fault) = .ok sys') :
    ∃ k rest, HeadStep (.releaseTaskClaim tenant fault) w k rest sys sys' := by
  refine headStep_of_current h fun k rest hqueue h => ?_
  cases fault with
  | some e =>
    cases h
    exact .skip hqueue
  | none =>
    cases h
    have hframe : RowFrame k sys.store (releaseTaskClaim tenant k sys.store) := by
      apply RowFrame.updateTask
      intro t
      split <;> rfl
    have hdrop : HeadStep (.releaseTaskClaim tenant none) w k rest sys
        (sys.put w { queue := rest } (releaseTaskClaim tenant k sys.store)) := by
      refine .drop hqueue hframe fun status hstatus hwork => ?_
      obtain ⟨t, ht, hafter⟩ := statusOf_updateTask hstatus
      split at hafter
      · -- a released task waits
        rw [← hafter] at hwork
        cases hwork
      · left
        rw [statusOf_of_get? ht, hafter]
    refine { hdrop with next := Or.inl (by simp [WorkerSystem.put]), claimant := fun j hj => ?_ }
    have hspared : sys.lose (fun j t => j == k && t.isReleasable tenant) j = sys.claimant j :=
      WorkerSystem.lose_of_spared fun t _ => by simp [hj]
    exact hspared

theorem heartbeat_headStep (h : sys.work w (.heartbeat now tenant) = .ok sys') :
    ∃ k rest, HeadStep (.heartbeat now tenant) w k rest sys sys' := by
  refine headStep_of_current h fun k rest hqueue h => ?_
  obtain ⟨store, hbeat, h⟩ := bind_ok h
  cases h
  obtain ⟨_, -, hbeat⟩ := bind_ok hbeat
  cases hbeat
  -- a heartbeat writes no status
  have hsame : ∀ status, statusOf (sys.store.updateTask k
      (fun t => { t with lastHeartbeatAt := some now })) k = some status →
      statusOf sys.store k = some status := by
    intro status hafter
    obtain ⟨t, ht, hstatus⟩ := statusOf_updateTask hafter
    rw [statusOf_of_get? ht, ← hstatus]
  exact .keep hqueue (.updateTask k sys.store fun _ => rfl)
    (fun status hafter _ => Or.inl (hsame status hafter)) fun hbefore hafter =>
      hbefore (hsame _ hafter)

theorem handleTaskFailure_headStep {input : TaskFailureInput}
    (h : sys.work w (.handleTaskFailure now input) = .ok sys') :
    ∃ k rest, HeadStep (.handleTaskFailure now input) w k rest sys sys' := by
  refine headStep_of_current h fun k rest hqueue h => ?_
  dsimp only at h
  split at h
  · next store hhandled =>
    cases h
    have hstep : FailureStep k sys.store store := handleTaskFailure_step hhandled
    refine .drop hqueue (.of_failure hstep) fun status hafter hwork => ?_
    rcases hstep.statusOf with hstatus | hstatus
    all_goals
      rw [hstatus, Option.some.injEq] at hafter
      rw [← hafter] at hwork
      cases hwork
  · cases h
    exact .wait hqueue

theorem scheduleRetry_headStep {baseInterval : Duration}
    (h : sys.work w (.scheduleRetry now tenant baseInterval fault) = .ok sys') :
    ∃ k rest, HeadStep (.scheduleRetry now tenant baseInterval fault) w k rest sys sys' := by
  refine headStep_of_current h fun k rest hqueue h => ?_
  dsimp only at h
  split at h
  · next store hretry =>
    cases h
    cases fault with
    | some e => cases hretry
    | none =>
      have hcall : scheduleRetry now tenant baseInterval k sys.store = .ok store := hretry
      obtain ⟨t, -, hcall⟩ := bind_ok hcall
      obtain ⟨_, -, hcall⟩ := bind_ok hcall
      cases hcall
      refine .drop hqueue (.updateTask k sys.store fun _ => rfl) fun status hafter hwork => ?_
      -- a task that is scheduled for a retry waits
      obtain ⟨t', -, hstatus⟩ := statusOf_updateTask hafter
      rw [← hstatus] at hwork
      cases hwork
  · cases h
    exact .skip hqueue

end HeadSteps

/-- A claim is made by a worker without a batch and becomes its batch. -/
structure ClaimsBatch (call : ClaimCall) (w : WorkerId) (sys sys' : WorkerSystem) : Prop where
  idle : (sys.workers w).queue = []
  claim : ClaimStep call (sys'.workers w).queue sys.store sys'.store
  workers : ∀ v, v ≠ w → sys'.workers v = sys.workers v
  claimed : ∀ k ∈ (sys'.workers w).queue, sys'.claimant k = some w
  unclaimed : ∀ k ∉ (sys'.workers w).queue, sys'.claimant k = sys.claimant k
  suspended : sys'.suspended = sys.suspended

theorem claimTasks_claimsBatch {call : ClaimCall}
    (h : sys.work w (.claimTasks call) = .ok sys') : ClaimsBatch call w sys sys' := by
  obtain ⟨_, hidle, h⟩ := bind_ok h
  obtain ⟨⟨ids, store⟩, hclaim, h⟩ := bind_ok h
  cases h
  have hids : (Function.update sys.workers w { queue := ids } w).queue = ids := by simp
  refine ⟨List.isEmpty_iff.mp (ensure_eq_ok.mp hidle), ?_, fun v hv => Function.update_of_ne hv _ _,
    fun k hk => ?_, fun k hk => ?_, rfl⟩
  · show ClaimStep call (Function.update sys.workers w { queue := ids } w).queue sys.store store
    rw [hids]
    exact claimTasks_step hclaim
  · have hmem : k ∈ ids := hids ▸ hk
    exact if_pos hmem
  · have hmem : k ∉ ids := fun hmem => hk (hids.symm ▸ hmem)
    exact if_neg hmem

/-- Every call of a worker claims a batch, gives up the rest of one, or is about the task that
    the worker processes. -/
theorem work_cases {op : WorkerOp} (h : sys.work w op = .ok sys') :
    (∃ call, op = .claimTasks call ∧ ClaimsBatch call w sys sys') ∨
      sys' = sys.put w {} sys.store ∨ ∃ k rest, HeadStep op w k rest sys sys' := by
  cases op with
  | claimTasks call => exact Or.inl ⟨call, rfl, claimTasks_claimsBatch h⟩
  | stop =>
    cases h
    exact Or.inr (Or.inl rfl)
  | releaseTaskClaim tenant fault => exact Or.inr (Or.inr (releaseTaskClaim_headStep h))
  | start fails lib ctx =>
    refine Or.inr (Or.inr (headStep_of_current h fun k rest hqueue h => ?_))
    exact .call hqueue (by decide) (fun _ hwritten => ⟨rfl, hwritten⟩) h
  | proceed fault =>
    refine Or.inr (Or.inr (headStep_of_current h fun k rest hqueue h => ?_))
    dsimp only at h
    split at h <;> cases h
    · exact .skip hqueue
    · exact .wait hqueue
  | heartbeat now tenant => exact Or.inr (Or.inr (heartbeat_headStep h))
  | finish result fails lib ctx =>
    refine Or.inr (Or.inr (headStep_of_current h fun k rest hqueue h => ?_))
    cases h
    cases result with
    | completed output =>
      exact .drop hqueue (updateTaskStatus_cases rfl).1
        (works_of_updateTaskStatus rfl fun _ hwritten => ⟨rfl, hwritten⟩)
    | failed detail =>
      exact .drop hqueue (updateTaskStatus_cases rfl).1
        (works_of_updateTaskStatus rfl fun hwork _ => by cases hwork)
    | invalid => exact .skip hqueue
  | handleTaskFailure now input => exact Or.inr (Or.inr (handleTaskFailure_headStep h))
  | fallBack =>
    refine Or.inr (Or.inr (headStep_of_current h fun k rest hqueue h => ?_))
    cases h
    exact .wait hqueue
  | markFailed fails lib ctx =>
    refine Or.inr (Or.inr (headStep_of_current h fun k rest hqueue h => ?_))
    exact .call hqueue (by decide) (fun hwork _ => by cases hwork) h
  | scheduleRetry now tenant baseInterval fault =>
    exact Or.inr (Or.inr (scheduleRetry_headStep h))

/-! ## A small system -/

/-- A case in progress with one task that waits. -/
def waitingTask : Store where
  caseTypes := Table.empty.insert { config := { stages := [] } }
  cases := Table.empty.insert { caseTypeId := 0, status := .inProgress }
  tasks := Table.empty.insert
    { tenantId := defaultTenantId, caseId := 0, taskDefinitionCode := "SIGN"
      activityCode := "WORK", stageCode := "CLOSING", idempotencyKey := "0-SIGN" }

def anyBatch (now : Instant) : ClaimCall where
  now := now
  service := "signing"
  batchSize := 10

end LoanWorkflow
