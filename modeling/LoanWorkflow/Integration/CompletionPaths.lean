import LoanWorkflow.Engine.Orchestrator
import LoanWorkflow.Integration.ExternalCompletion

/-! # Two ways to complete a task

    A worker of the engine completes a task with `UpdateTaskStatus`, an outside
    system with `CompleteTaskFromExternal`. Both publish `TASK_COMPLETED`, and
    the handler of that event takes the case, the stage and the activity from
    its payload. The second event names no stage and no activity, so that the
    handler counts the tasks of the activity with two empty codes.

    - `completion_paths_agree_iff`: when the two ways lead to the same
-/

namespace LoanWorkflow

open Table

/-! ## The handler -/

/-- Between the two stores an `ACTIVITY_COMPLETED` event for the activity was published. -/
def AnnouncesActivity (s s' : Store) (caseId : Id) (stageCode activityCode : String) : Prop :=
  ∃ k e, s.outbox.get? k = none ∧ s'.outbox.get? k = some e ∧ e.eventType = .activityCompleted ∧
    e.payload = .obj [("case_id", .uuid caseId), ("stage_code", .str stageCode),
      ("activity_code", .str activityCode)]

section Handler

variable {lib : Library} {ctx : Ctx} {event : Event} {caseId : Id} {s s' : Store} {k : Nat}

/-- A row that a table has gained. -/
theorem get?_insert_of_none {α : Type} {t : Table α} {a b : α} (hnone : t.get? k = none)
    (h : (t.insert a).get? k = some b) : b = a := by
  rw [get?_insert] at h
  split at h
  · exact (Option.some.inj h).symm
  · rw [hnone] at h
    cases h

def announcement (caseId : Id) (stageCode activityCode : String) : Event where
  eventType := .activityCompleted
  caseId := some caseId
  payload := .obj [("case_id", .uuid caseId), ("stage_code", .str stageCode),
    ("activity_code", .str activityCode)]
  targetService := "case-orchestrator"

/-- The task of the event is settled, and then the activity that the payload names is announced
    if it is complete. -/
theorem onTaskCompleted_step (hcase : event.payload.idField? "case_id" = some caseId)
    (h : onTaskCompleted lib ctx event s = .ok s') :
    ∃ s₁, settleTask lib ctx event caseId s = .ok s₁ ∧
      s' = if activityComplete s₁ caseId (event.payload.strField "stage_code")
          (event.payload.strField "activity_code") then
        s₁.publish (announcement caseId (event.payload.strField "stage_code")
          (event.payload.strField "activity_code"))
      else s₁ := by
  obtain ⟨caseId', hcase', h⟩ := bind_ok h
  obtain rfl : caseId' = caseId := by
    obtain ⟨-, -, hcase'⟩ := bind_ok hcase'
    exact Option.some.inj ((orFail_eq_ok.mp hcase').symm.trans hcase)
  obtain ⟨s₁, hsettled, h⟩ := bind_ok h
  refine ⟨s₁, hsettled, ?_⟩
  split at h
  · next hcomplete =>
    cases h
    rw [if_pos hcomplete]
    rfl
  · next hcomplete =>
    cases h
    rw [if_neg hcomplete]

theorem settleTask_announces_nothing (h : settleTask lib ctx event caseId s = .ok s')
    {e : Event} (hnone : s.outbox.get? k = none) (hnew : s'.outbox.get? k = some e) :
    e.eventType ≠ .activityCompleted := by
  rcases (settleTask_step h).outbox with heq | ⟨e', htype, heq⟩
  · rw [heq, hnone] at hnew
    cases hnew
  · rw [heq] at hnew
    rw [get?_insert_of_none hnone hnew, htype]
    decide

/-- The handler announces the activity that the payload names, when it is complete. -/
theorem onTaskCompleted_announces_iff (hcase : event.payload.idField? "case_id" = some caseId)
    (h : onTaskCompleted lib ctx event s = .ok s') (stageCode activityCode : String) :
    AnnouncesActivity s s' caseId stageCode activityCode ↔
      event.payload.strField "stage_code" = stageCode ∧
        event.payload.strField "activity_code" = activityCode ∧
        activityComplete s caseId stageCode activityCode = true := by
  obtain ⟨s₁, hsettled, rfl⟩ := onTaskCompleted_step hcase h
  have hsame : ∀ stageCode activityCode, activityComplete s₁ caseId stageCode activityCode =
      activityComplete s caseId stageCode activityCode := by
    intro stageCode activityCode
    unfold activityComplete countTasksByActivityAndStatus
    rw [(settleTask_step hsettled).tasks]
  rw [hsame]
  by_cases hcomplete : activityComplete s caseId (event.payload.strField "stage_code")
      (event.payload.strField "activity_code") = true
  · rw [if_pos hcomplete]
    let e₀ := announcement caseId (event.payload.strField "stage_code")
      (event.payload.strField "activity_code")
    constructor
    · rintro ⟨k, e, hnone, hnew, htype, hpayload⟩
      change (s₁.outbox.insert e₀).get? k = some e at hnew
      cases hbefore : s₁.outbox.get? k with
      | some e' =>
        rw [get?_insert_of_get? hbefore] at hnew
        cases hnew
        exact absurd htype (settleTask_announces_nothing hsettled hnone hbefore)
      | none =>
        obtain rfl : e = e₀ := get?_insert_of_none hbefore hnew
        simp only [e₀, announcement, Json.obj.injEq, List.cons.injEq, Prod.mk.injEq,
          Json.str.injEq, true_and, and_true] at hpayload
        obtain ⟨rfl, rfl⟩ := hpayload
        exact ⟨rfl, rfl, hcomplete⟩
    · rintro ⟨rfl, rfl, -⟩
      refine ⟨s₁.outbox.fresh, e₀, ?_, by simp [Store.publish, e₀], rfl, rfl⟩
      -- a fresh key of the later outbox is fresh in the earlier one
      have hfresh : s₁.outbox.get? s₁.outbox.fresh = none := get?_fresh _
      rcases (settleTask_step hsettled).outbox with heq | ⟨e', -, heq⟩
      · rw [← heq]
        exact hfresh
      · by_contra hold
        obtain ⟨e₁, he₁⟩ := Option.ne_none_iff_exists'.mp hold
        have hkept : (s.outbox.insert e').get? s₁.outbox.fresh = some e₁ :=
          get?_insert_of_get? he₁
        rw [← heq, hfresh] at hkept
        cases hkept
  · rw [if_neg hcomplete]
    constructor
    · rintro ⟨k, e, hnone, hnew, htype, -⟩
      exact absurd htype (settleTask_announces_nothing hsettled hnone hnew)
    · rintro ⟨rfl, rfl, htrue⟩
      exact absurd htrue hcomplete

end Handler

/-! ## The two ways -/

section Paths

variable {lib : Library} {s s' : Store} {taskId : Id} {t : Task}

variable (hrow : s.tasks.get? taskId = some t)

include hrow

/-- Completing a task completes its activity if the other tasks of the activity are done. -/
theorem activityComplete_of_completed {f : Task → Task}
    (htasks : s'.tasks = s.tasks.updateAt taskId f) (horigin : (f t).origin = t.origin)
    (hdone : (f t).status.isDone = true) :
    activityComplete s' t.caseId t.stageCode t.activityCode = true ↔
      ∀ j t', j ≠ taskId → s.tasks.get? j = some t' →
        t'.IsOf t.caseId t.stageCode t.activityCode → t'.status.isDone = true := by
  have hself : s'.tasks.get? taskId = some (f t) := by
    rw [htasks, get?_updateAt_self, hrow]
    rfl
  have hother : ∀ j, j ≠ taskId → s'.tasks.get? j = s.tasks.get? j := by
    intro j hj
    rw [htasks, get?_updateAt_ne hj]
  have hof : (f t).IsOf t.caseId t.stageCode t.activityCode :=
    ⟨congrArg TaskOrigin.caseId horigin, congrArg TaskOrigin.stageCode horigin,
      congrArg TaskOrigin.activityCode horigin⟩
  rw [activityComplete_iff]
  constructor
  · intro ⟨_, hall⟩ j t' hj ht'
    exact hall j t' (by rw [hother j hj]; exact ht')
  · intro hall
    refine ⟨⟨taskId, f t, hself, hof⟩, fun j t' ht' => ?_⟩
    by_cases hj : j = taskId
    · subst hj
      rw [hself] at ht'
      cases ht'
      exact fun _ => hdone
    · rw [hother j hj] at ht'
      exact hall j t' hj ht'

/-- The report of a completed task: its row, and its event, which names no activity. -/
theorem completeTaskFromExternal_completed {ctx : Ctx} {tenant : Option String} {key : String}
    {output : ExternalTaskCompletion} {e : Event} (htask : output.taskId = some taskId)
    (hcompleted : output.status = .completed)
    (h : completeTaskFromExternal ctx tenant key output s = .ok s')
    (he : s'.outbox = s.outbox.insert e) :
    s'.tasks = s.tasks.updateAt taskId
        (fun t => t.report output (output.completedAt.getD ctx.now)) ∧
      e.payload.idField? "case_id" = some t.caseId ∧ e.payload.strField "stage_code" = "" ∧
      e.payload.strField "activity_code" = "" := by
  obtain ⟨taskId', t', tenantId, keys, audit, htaken, -, hget, rfl⟩ :=
    completeTaskFromExternal_step h
  obtain rfl := Option.mem_unique htaken.task htask
  obtain rfl := Option.mem_unique hget hrow
  have hevent : (completionEvent t'.caseId taskId' output).prepare tenantId = e :=
    insert_inj he
  refine ⟨rfl, ?_⟩
  rw [← hevent]
  simp [Event.prepare, completionEvent, hcompleted, Json.setField, Json.idField?, Json.strField,
    Json.field?]

/-- The status change of a completed task: its row, and its event, which names the activity. -/
theorem updateTaskStatus_completed {ctx : Ctx} {output errorDetail : Option Json} {e : Event}
    (h : updateTaskStatus lib ctx taskId .completed output errorDetail s = .ok s')
    (he : s'.outbox = s.outbox.insert e) :
    s'.tasks = s.tasks.updateAt taskId
        (fun t => t.advance .completed output errorDetail ctx.now) ∧
      e.payload.idField? "case_id" = some t.caseId ∧
      e.payload.strField "stage_code" = t.stageCode ∧
      e.payload.strField "activity_code" = t.activityCode := by
  obtain ⟨t', ht', rfl⟩ := updateTaskStatus_finished (Or.inl rfl) h
  obtain rfl := Option.mem_unique ht' hrow
  refine ⟨rfl, ?_⟩
  rw [← insert_inj he]
  simp [Json.idField?, Json.strField, Json.field?]

end Paths

/-- A task in progress is completed in one way or in the other, and the event of the completion is
    handled. Both lead to the announcement of its activity, or none does, exactly when the codes
    of the activity and its stage are empty or another task of the activity is still open. -/
theorem completion_paths_agree_iff {lib : Library} {s s₁ s₁' s₂ s₂' : Store} {taskId : Id}
    {t : Task} {ctx₁ ctx₁' ctx₂ ctx₂' : Ctx} {tenant : Option String} {key : String}
    {report : ExternalTaskCompletion} {output errorDetail : Option Json} {e₁ e₂ : Event}
    (hrow : s.tasks.get? taskId = some t) (htask : report.taskId = some taskId)
    (hcompleted : report.status = .completed)
    (hexternal : completeTaskFromExternal ctx₁ tenant key report s = .ok s₁)
    (hevent₁ : s₁.outbox = s.outbox.insert e₁)
    (hhandled₁ : onTaskCompleted lib ctx₁' e₁ s₁ = .ok s₁')
    (hinternal : updateTaskStatus lib ctx₂ taskId .completed output errorDetail s = .ok s₂)
    (hevent₂ : s₂.outbox = s.outbox.insert e₂)
    (hhandled₂ : onTaskCompleted lib ctx₂' e₂ s₂ = .ok s₂') :
    (AnnouncesActivity s₁ s₁' t.caseId t.stageCode t.activityCode ↔
        AnnouncesActivity s₂ s₂' t.caseId t.stageCode t.activityCode) ↔
      (t.stageCode = "" ∧ t.activityCode = "") ∨
        ∃ j t', j ≠ taskId ∧ s.tasks.get? j = some t' ∧
          t'.IsOf t.caseId t.stageCode t.activityCode ∧ t'.status.isDone = false := by
  obtain ⟨htasks₁, hcase₁, hstage₁, hactivity₁⟩ :=
    completeTaskFromExternal_completed hrow htask hcompleted hexternal hevent₁
  obtain ⟨htasks₂, hcase₂, hstage₂, hactivity₂⟩ := updateTaskStatus_completed hrow hinternal hevent₂
  rw [onTaskCompleted_announces_iff hcase₁ hhandled₁, onTaskCompleted_announces_iff hcase₂ hhandled₂,
    hstage₁, hactivity₁, hstage₂, hactivity₂]
  -- both counts come down to the other tasks of the activity
  have hdone₁ : (t.report report (report.completedAt.getD ctx₁.now)).status.isDone = true := by
    show report.status.isDone = true
    rw [hcompleted]
    rfl
  rw [activityComplete_of_completed hrow htasks₁ rfl hdone₁,
    activityComplete_of_completed hrow htasks₂ rfl rfl]
  have hopen : (∃ j t', j ≠ taskId ∧ s.tasks.get? j = some t' ∧
      t'.IsOf t.caseId t.stageCode t.activityCode ∧ t'.status.isDone = false) ↔
      ¬ ∀ j t', j ≠ taskId → s.tasks.get? j = some t' →
        t'.IsOf t.caseId t.stageCode t.activityCode → t'.status.isDone = true := by
    push Not
    simp only [Bool.not_eq_true]
  rw [hopen, eq_comm (a := ""), eq_comm (a := "")]
  tauto

def signTask : Task where
  caseId := 0
  taskDefinitionCode := "SIGN"
  activityCode := "WORK"
  stageCode := "CLOSING"
  status := .inProgress
  assignedService := some "desk"
  idempotencyKey := "0:SIGN"

/-- The task is the only one of its activity. -/
def lastTask : Store where
  caseTypes := Table.empty.insert { config := { stages := [] } }
  cases := Table.empty.insert { caseTypeId := 0, status := .inProgress }
  tasks := Table.empty.insert signTask

def signed : ExternalTaskCompletion where
  taskId := some 0
  assignedService := "desk"
  status := .completed

def signedEvent : Event := (completionEvent 0 0 signed).prepare defaultTenantId

def workedEvent : Event where
  eventType := .taskCompleted
  caseId := some 0
  taskId := some 0
  payload := .obj [("case_id", .uuid 0), ("task_id", .uuid 0), ("task_definition_code", .str "SIGN"),
    ("stage_code", .str "CLOSING"), ("activity_code", .str "WORK"), ("status", .str "COMPLETED")]
  targetService := "case-orchestrator"

theorem completion_paths_agree_iff_last_task : ∃ s₁ s₁' s₂ s₂',
    completeTaskFromExternal (Ctx.plain 1) (some defaultTenantId) "report-1" signed lastTask = .ok s₁ ∧
      onTaskCompleted Library.plain (Ctx.plain 2) signedEvent s₁ = .ok s₁' ∧
      updateTaskStatus Library.plain (Ctx.plain 1) 0 .completed none none lastTask = .ok s₂ ∧
      onTaskCompleted Library.plain (Ctx.plain 2) workedEvent s₂ = .ok s₂' ∧
      ¬ (AnnouncesActivity s₁ s₁' 0 "CLOSING" "WORK" ↔ AnnouncesActivity s₂ s₂' 0 "CLOSING" "WORK") := by
  have hruns : ∃ s₁ s₁' s₂ s₂',
      completeTaskFromExternal (Ctx.plain 1) (some defaultTenantId) "report-1" signed lastTask =
        .ok s₁ ∧
      s₁.outbox = lastTask.outbox.insert signedEvent ∧
      onTaskCompleted Library.plain (Ctx.plain 2) signedEvent s₁ = .ok s₁' ∧
      updateTaskStatus Library.plain (Ctx.plain 1) 0 .completed none none lastTask = .ok s₂ ∧
      s₂.outbox = lastTask.outbox.insert workedEvent ∧
      onTaskCompleted Library.plain (Ctx.plain 2) workedEvent s₂ = .ok s₂' :=
    ⟨_, _, _, _, rfl, rfl, rfl, rfl, rfl, rfl⟩
  obtain ⟨s₁, s₁', s₂, s₂', hexternal, hevent₁, hhandled₁, hinternal, hevent₂, hhandled₂⟩ := hruns
  refine ⟨s₁, s₁', s₂, s₂', hexternal, hhandled₁, hinternal, hhandled₂, fun hagree => ?_⟩
  have hrow : lastTask.tasks.get? 0 = some signTask := rfl
  rcases (completion_paths_agree_iff hrow rfl rfl hexternal hevent₁ hhandled₁ hinternal hevent₂
    hhandled₂).mp hagree with hempty | ⟨j, t', hj, ht', -⟩
  · exact absurd hempty.1 (by decide)
  · -- there is no other task
    have hmem := get?_eq_some_iff.mp ht'
    simp only [lastTask, Table.insert, Table.empty, List.nil_append, List.mem_singleton,
      Prod.mk.injEq] at hmem
    exact hj hmem.1

/-- Run a completion and the handler of the last event it published, and list the types of the
    events that are there. -/
def eventsAfter (complete : Store → Except Err Store) (s : Store) : Except Err (List EventType) := do
  let s ← complete s
  let (_, e) ← orFail s.outbox.rows.getLast? "no event"
  let s ← onTaskCompleted Library.plain (Ctx.plain 2) e s
  return s.outbox.rows.map (fun r => r.2.eventType)

/-- Completed by a worker the last task finishes its activity, completed from outside it does not. -/
theorem external_completion_unnoticed :
    eventsAfter (updateTaskStatus Library.plain (Ctx.plain 1) 0 .completed none none) lastTask =
        .ok [.taskCompleted, .activityCompleted] ∧
      eventsAfter (completeTaskFromExternal (Ctx.plain 1) (some defaultTenantId) "report-1" signed)
        lastTask = .ok [.taskCompleted] := by
  decide +kernel

end LoanWorkflow
