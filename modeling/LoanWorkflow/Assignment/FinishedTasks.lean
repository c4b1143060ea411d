import LoanWorkflow.Assignment.Tasks
import LoanWorkflow.Engine.TaskStatus
import LoanWorkflow.Exception.Requeue
import LoanWorkflow.Framework.Machine

/-! # Finished tasks

    Whatever writes the status of a task should leave a finished one alone.
    Four writers do not look at the status: the move to a workbasket, the
    claim and the reassignment of the manager, and the requeue of a dead task.

    - `KeepsFinished`: no finished task has changed its status
    - `exec_keepsFinished_iff`: a step keeps finished tasks exactly under its condition
-/

namespace LoanWorkflow

open Machine

def KeepsFinished (tasks tasks' : Table Task) : Prop :=
  ∀ k t, tasks.get? k = some t → t.status.isDone = true →
    ∃ t', tasks'.get? k = some t' ∧ t'.status = t.status

/-- The task, if it is there, is not finished. -/
def Unfinished (s : Store) (k : Id) : Prop :=
  ∀ t, s.tasks.get? k = some t → t.status.isDone = false

/-- The operations that write the status of a task, with their arguments. -/
inductive TaskOp where
  | updateTaskStatus (lib : Library) (ctx : Ctx) (taskId : Id) (newStatus : TaskStatus)
      (output errorDetail : Option Json)
  | assignToWorkbasket (ctx : ManagerContext) (taskId workbasketId : Id)
  | manager (ctx : ManagerContext) (call : ManagerCall)
  | user (lib : Library) (rc : RequestContext) (call : UserCall)
  | deactivateUser (rc : RequestContext) (userId tenantId deactivatedBy reason : String)
  | releaseCase (ctx : Ctx) (caseId : Id) (userId : String)
  | requeueDLQEntry (call : RequeueCall)

def TaskOp.exec : TaskOp → Store → Except Err Store
  | .updateTaskStatus lib ctx taskId newStatus output errorDetail, s =>
    LoanWorkflow.updateTaskStatus lib ctx taskId newStatus output errorDetail s
  | .assignToWorkbasket ctx taskId workbasketId, s =>
    LoanWorkflow.assignToWorkbasket ctx taskId workbasketId s
  | .manager ctx call, s => call.run ctx s
  | .user lib rc call, s => call.prepare lib rc s >>= fun w => w.run s
  | .deactivateUser rc userId tenantId deactivatedBy reason, s =>
    LoanWorkflow.deactivateUser rc userId tenantId deactivatedBy reason s
  | .releaseCase ctx caseId userId, s => LoanWorkflow.releaseCase ctx caseId userId s
  | .requeueDLQEntry call, s => LoanWorkflow.requeueDLQEntry call s

/-- The condition under which an operation leaves finished tasks alone: the four that do not look
    at the status must not reach one. -/
def TaskOp.Spares (s : Store) : TaskOp → Prop
  | .assignToWorkbasket _ taskId _ => Unfinished s taskId
  | .manager _ (.claimTask taskId _ _) => Unfinished s taskId
  | .manager _ (.reassignTask taskId _ _ _ _) => Unfinished s taskId
  | .requeueDLQEntry call => ∀ entry, s.dlq.get? call.dlqId = some entry →
      Unfinished s entry.taskId
  | _ => True

/-! ## Frames -/

section frames

variable {tasks tasks' tasks'' : Table Task} {k : Id} {f : Task → Task}

theorem KeepsFinished.trans (h : KeepsFinished tasks tasks') (h' : KeepsFinished tasks' tasks'') :
    KeepsFinished tasks tasks'' := by
  intro k t hget hdone
  obtain ⟨t', hget', hsame⟩ := h k t hget hdone
  obtain ⟨t'', hget'', hsame'⟩ := h' k t' hget' (by rw [hsame]; exact hdone)
  exact ⟨t'', hget'', hsame'.trans hsame⟩

theorem KeepsFinished.of_keeps (h : tasks.Keeps Task.status tasks') : KeepsFinished tasks tasks' :=
  fun k t hget _ => h k t hget

/-- A rewrite of one row keeps finished tasks if and only if it keeps that one. -/
theorem keepsFinished_updateAt_iff : KeepsFinished tasks (tasks.updateAt k f) ↔
    ∀ t, tasks.get? k = some t → t.status.isDone = true → (f t).status = t.status := by
  constructor
  · intro h t hget hdone
    obtain ⟨t', hget', hsame⟩ := h k t hget hdone
    rw [Table.get?_updateAt_self, hget] at hget'
    cases hget'
    exact hsame
  · intro h j t hget hdone
    rw [Table.get?_updateAt]
    by_cases hj : j = k
    · subst hj
      rw [if_pos rfl, hget]
      exact ⟨f t, rfl, h t hget hdone⟩
    · rw [if_neg hj]
      exact ⟨t, hget, rfl⟩

theorem keepsFinished_updateWhere {p : Task → Bool}
    (hp : ∀ t, p t = true → t.status.isDone = false) :
    KeepsFinished tasks (tasks.updateWhere p f) := by
  intro k t hget hdone
  refine ⟨t, ?_, rfl⟩
  have hskip : p t = false := by
    by_contra hp'
    rw [hp t (by simpa using hp')] at hdone
    cases hdone
  simp [hget, hskip]

/-- A write that never leaves a finished status keeps finished tasks exactly when it finds none. -/
theorem keepsFinished_iff_unfinished {s : Store} (hf : ∀ t, (f t).status.isDone = false) :
    KeepsFinished s.tasks (s.tasks.updateAt k f) ↔ Unfinished s k := by
  rw [keepsFinished_updateAt_iff]
  refine forall₂_congr fun t _ => ?_
  constructor
  · intro h
    by_contra hdone
    rw [Bool.not_eq_false] at hdone
    have hopen := hf t
    rw [h hdone, hdone] at hopen
    cases hopen
  · intro hopen hdone
    rw [hopen] at hdone
    cases hdone

end frames

/-! ## Steps -/

variable {s s' : Store}

theorem updateTaskStatus_keepsFinished {lib : Library} {ctx : Ctx} {taskId : Id}
    {newStatus : TaskStatus} {output errorDetail : Option Json}
    (h : updateTaskStatus lib ctx taskId newStatus output errorDetail s = .ok s') :
    KeepsFinished s.tasks s'.tasks := by
  obtain ⟨t, s₁, hget, hopen, -, hactivated, hclock⟩ := updateTaskStatus_step h
  have hwritten : KeepsFinished s.tasks (s.tasks.updateAt taskId
      (fun t => t.advance newStatus output errorDetail ctx.now)) := by
    rw [keepsFinished_updateAt_iff]
    intro t' hget' hdone
    rw [hget] at hget'
    cases hget'
    cases hstatus : t.status <;> simp_all [TaskStatus.isTerminal, TaskStatus.isDone]
  have hopened : KeepsFinished (s.tasks.updateAt taskId
      (fun t => t.advance newStatus output errorDetail ctx.now)) s₁.tasks := by
    rcases activateOnStart_step hactivated with rfl | ⟨gateId, gate, -, -, -, hstep⟩
    · exact .of_keeps (.refl _ _)
    · cases hstep with
      | opened =>
        -- a task that waits for its approval was in progress
        refine keepsFinished_updateAt_iff.mpr fun t' _ hdone => if_neg ?_
        intro hprogress
        rw [hprogress] at hdone
        cases hdone
      | _ => exact .of_keeps (.refl _ _)
  have hrest : s₁.tasks.Keeps Task.status s'.tasks := by
    intro j t' hget'
    obtain ⟨t'', hget'', hsame⟩ := hclock.tasks.keeps j t' hget'
    exact ⟨t'', hget'', congrArg (fun x => x.2.1) hsame⟩
  exact (hwritten.trans hopened).trans (.of_keeps hrest)

/-- The functions of the package write open tasks only. -/
theorem UserCall.Writes.unfinished {call : UserCall} {w : TaskWrite} (h : call.Writes s w)
    {t : Task} (hget : s.tasks.get? w.taskId = some t) (hcond : w.cond t = true) :
    t.status.isDone = false := by
  have haccepts := h.accepts t hcond
  cases call with
  | assignTaskToUser | assignTaskToTeam =>
    rw [haccepts]
    rfl
  | claimTask =>
    -- the row that is written is the row that was read
    obtain ⟨-, state, hstate, hclaimable⟩ := haccepts
    rw [h.taskId] at hget
    obtain rfl := Option.mem_unique hstate hget
    cases hstatus : state.status <;> simp_all [TaskStatus.isClaimable, TaskStatus.isDone]
  | unassignTask | reassignTask =>
    cases hstatus : t.status <;>
      simp_all [UserCall.Accepts, TaskStatus.isReassignable, TaskStatus.isDone]

theorem ManagerCall.keepsFinished_iff {ctx : ManagerContext} {call : ManagerCall}
    (h : call.run ctx s = .ok s') :
    KeepsFinished s.tasks s'.tasks ↔ (TaskOp.manager ctx call).Spares s := by
  obtain ⟨w, hw, h⟩ := bind_ok h
  obtain ⟨⟨t, hget, hcond⟩, htasks⟩ := TaskWrite.run_step h
  rw [htasks]
  cases call with
  | assignTaskToUser | assignTaskToTeam =>
    cases hw
    refine iff_of_true (keepsFinished_updateAt_iff.mpr ?_) trivial
    intro t' hget' hdone
    rw [hget] at hget'
    cases hget'
    cases hstatus : t.status <;> simp_all [TaskStatus.isDone]
  | claimTask taskId userId tenantId =>
    obtain ⟨_, -, hw⟩ := bind_ok hw
    obtain ⟨_, -, hw⟩ := bind_ok hw
    cases hw
    exact keepsFinished_iff_unfinished fun _ => rfl
  | unassignTask =>
    cases hw
    refine iff_of_true (keepsFinished_updateAt_iff.mpr fun t' _ hdone => if_neg ?_) trivial
    intro hprogress
    rw [hprogress] at hdone
    cases hdone
  | reassignTask =>
    cases hw
    exact keepsFinished_iff_unfinished fun _ => rfl

/-- A step keeps finished tasks exactly under its condition. -/
theorem TaskOp.exec_keepsFinished_iff {op : TaskOp} (h : op.exec s = .ok s') :
    KeepsFinished s.tasks s'.tasks ↔ op.Spares s := by
  cases op with
  | updateTaskStatus => exact iff_of_true (updateTaskStatus_keepsFinished h) trivial
  | assignToWorkbasket =>
    obtain ⟨_, -, h⟩ := bind_ok h
    cases h
    exact keepsFinished_iff_unfinished fun _ => rfl
  | manager => exact ManagerCall.keepsFinished_iff h
  | user =>
    obtain ⟨w, hw, h⟩ := bind_ok h
    obtain ⟨⟨t, hget, hcond⟩, htasks⟩ := TaskWrite.run_step h
    refine iff_of_true ?_ trivial
    rw [htasks, keepsFinished_updateAt_iff]
    intro t' hget' hdone
    rw [hget] at hget'
    cases hget'
    rw [(UserCall.prepare_writes hw).unfinished hget hcond] at hdone
    cases hdone
  | deactivateUser =>
    obtain ⟨tenant, htasks⟩ := deactivateUser_tasks h
    refine iff_of_true ?_ trivial
    rw [htasks]
    refine keepsFinished_updateWhere fun t hp => ?_
    cases hstatus : t.status <;> simp_all [Task.isOpenOf, TaskStatus.isDone]
  | releaseCase =>
    refine iff_of_true ?_ trivial
    rw [(releaseCase_step h).2.1]
    refine keepsFinished_updateWhere fun t hp => ?_
    cases hstatus : t.status <;> simp_all [TaskStatus.isOpen, TaskStatus.isDone]
  | requeueDLQEntry call =>
    obtain ⟨entry, t, hstep⟩ := requeueDLQEntry_step h
    rw [hstep.tasks, keepsFinished_iff_unfinished fun _ => rfl]
    constructor
    · intro hopen entry' hfound
      rw [hstep.found] at hfound
      cases hfound
      exact hopen
    · exact fun hopen => hopen entry hstep.found

/-! ## Runs -/

/-- In every run in which the four writers reach no finished task, finished tasks stay finished;
    in a run without failures this is the only way. -/
theorem finished_tasks_stay_iff (s : Store) (ops : List TaskOp) :
    (Guarded TaskOp.exec (fun s op => op.Spares s) s ops →
      Along TaskOp.exec (fun s _ s' => KeepsFinished s.tasks s'.tasks) s ops) ∧
    (Succeeds TaskOp.exec s ops →
      Along TaskOp.exec (fun s _ s' => KeepsFinished s.tasks s'.tasks) s ops →
      Guarded TaskOp.exec (fun s op => op.Spares s) s ops) := by
  refine along_and_guarded (I := fun _ => True) ?_ (fun _ _ _ _ _ _ => trivial) ?_ trivial
  · exact fun s op s' _ h => op.exec_keepsFinished_iff h
  · exact fun s _ _ => .of_keeps (.refl _ _)

/-- A task that a supervisor gives to a user after it was completed. -/
def completedTask : Store where
  tasks := Table.empty.insert
    { caseId := 0, taskDefinitionCode := "CHECK", activityCode := "REVIEW", stageCode := "INTAKE"
      idempotencyKey := "k", status := .completed }
  users := Table.empty.insert { tenantId := defaultTenantId, userId := "ann" }

/-- A completed task is in progress again after it was reassigned. -/
theorem completed_task_reassigned :
    ((run TaskOp.exec completedTask
      [.manager { now := 1 } (.reassignTask 0 "ann" defaultTenantId "dan" "load")]).tasks.get?
        0).map (·.status) = some .inProgress ∧
    (completedTask.tasks.get? 0).map (·.status) = some .completed := by
  decide

end LoanWorkflow
