import LoanWorkflow.Engine.CaseExpiry
import LoanWorkflow.Engine.ClosedCases
import LoanWorkflow.Engine.Rework
import LoanWorkflow.Exception.Requeue
import LoanWorkflow.Integration.DealIngestion

/-! # Live tasks of closed cases

    Eight operations close a case and four put a task to work. Six of the
    eight leave the case without a live task: five cancel what is open, and a
    completion finds nothing open. A cancelled deal and a quality approval
    close the case and look at no task, and none of the four looks at the
    status of the case.

    - `closed_cases_idle`: so does every run
-/

namespace LoanWorkflow

open Table

variable {ctx : Ctx} {now : Instant}

/-! ## The property -/

def Closed (s : Store) (k : Id) : Prop :=
  ∃ c, s.cases.get? k = some c ∧ c.status.isTerminal = true

/-- No task of the case waits, is assigned, in work or with an external system. -/
def Idle (s : Store) (k : Id) : Prop :=
  ∀ j t, s.tasks.get? j = some t → t.caseId = k → t.status.isTerminal = true

def ClosedCasesIdle (s : Store) : Prop := ∀ k, Closed s k → Idle s k

/-! ## The operations -/

/-- The operations that close a case or put a task to work, with their arguments. -/
inductive CaseTaskOp where
  | withdrawCase (ctx : Ctx) (caseId : Id) (reason : String)
  | emergencyClose (ctx : Ctx) (caseId : Id) (reason supervisorId fourEyesToken : String)
  | runExpirySweep (call : ExpiryCall)
  | cancelCaseForDealStatus (lib : Library) (now : Instant) (tenantId : String) (caseId : Id)
      (incomingDealStatus : String)
  | qaApprove (ctx : Ctx) (caseId : Id) (tenantId approvedByUserId : String)
  | rejectCaseTerminally (now : Instant) (caseId gateId : Id) (reason rejectedBy : String)
  | sendCaseToRework (now : Instant) (caseId gateId : Id) (target reason rejectedBy : String)
  | evaluateAndCompleteCase (ctx : Ctx) (caseId : Id)
  | requeueDLQEntry (call : RequeueCall)
  | startCompensation (now : Instant) (taskId : Id) (t : Task) (config : CaseTypeConfig)
      (failedTask : TaskLocation) (message : String)
  | onCaseStageChanged (lib : Library) (ctx : Ctx) (event : Event)
  | createTask (task : Task)

/-- Run one operation. The sweep keeps the batches it committed, whatever its outcome. -/
def CaseTaskOp.exec : CaseTaskOp → Store → Except Err Store
  | .withdrawCase ctx caseId reason, s => LoanWorkflow.withdrawCase ctx caseId reason s
  | .emergencyClose ctx caseId reason supervisorId token, s =>
    LoanWorkflow.emergencyClose ctx caseId reason supervisorId token s
  | .runExpirySweep call, s => .ok ((LoanWorkflow.runExpirySweep call).run s).2
  | .cancelCaseForDealStatus lib now tenantId caseId status, s =>
    LoanWorkflow.cancelCaseForDealStatus lib now tenantId caseId status s
  | .qaApprove ctx caseId tenantId approvedBy, s =>
    .ok (LoanWorkflow.qaApprove ctx caseId tenantId approvedBy s)
  | .rejectCaseTerminally now caseId gateId reason rejectedBy, s =>
    .ok (LoanWorkflow.rejectCaseTerminally s now caseId gateId reason rejectedBy)
  | .sendCaseToRework now caseId gateId target reason rejectedBy, s =>
    LoanWorkflow.sendCaseToRework s now caseId gateId target reason rejectedBy
  | .evaluateAndCompleteCase ctx caseId, s => LoanWorkflow.evaluateAndCompleteCase ctx caseId s
  | .requeueDLQEntry call, s => LoanWorkflow.requeueDLQEntry call s
  | .startCompensation now taskId t config failedTask message, s =>
    LoanWorkflow.startCompensation s now taskId t config failedTask message
  | .onCaseStageChanged lib ctx event, s => LoanWorkflow.onCaseStageChanged lib ctx event s
  | .createTask task, s => .ok (LoanWorkflow.createTask s task).2

/-- The condition under which an operation keeps closed cases idle. A cancelled deal and a
    quality approval must find the case idle; what puts a task to work must find its case
    open. -/
def CaseTaskOp.SparesIdle (s : Store) : CaseTaskOp → Prop
  | .cancelCaseForDealStatus _ _ _ caseId _ => (s.cases.get? caseId).isSome = true → Idle s caseId
  | .qaApprove _ caseId _ _ => (s.cases.get? caseId).isSome = true → Idle s caseId
  | .requeueDLQEntry call =>
    ∀ entry t, s.dlq.get? call.dlqId = some entry → entry.isActive = true →
      s.tasks.get? entry.taskId = some t → ¬ Closed s t.caseId
  | .startCompensation _ taskId t _ failedTask _ =>
    let code := trimSpace failedTask.taskDef.compensatingTaskCode
    code ≠ "" → UnusedKey s ("compensate:" ++ toString taskId ++ ":" ++ code) →
      ¬ Closed s t.caseId
  | .onCaseStageChanged _ _ event =>
    ∀ caseId c config st, loadCase s event = .ok (caseId, c, config) →
      findStage config (event.payload.strField "to_stage") = some st →
      ∀ entry ∈ st.definitions,
        (∀ sourceTask sourceField,
          taskInputs s caseId entry.2 ≠ .error (.dependency sourceTask sourceField)) →
        UnusedKey s (definitionKey caseId (event.payload.strField "to_stage") entry) →
        ¬ Closed s caseId
  | .createTask task =>
    task.status.isTerminal = false → UnusedKey s task.idempotencyKey → ¬ Closed s task.caseId
  | _ => True

/-! ## Steps -/

/-- The task is one of the case, and live. -/
def LiveTask (s : Store) (j k : Id) : Prop :=
  ∃ t, s.tasks.get? j = some t ∧ t.caseId = k ∧ t.status.isTerminal = false

theorem idle_of_no_liveTask {s : Store} {k : Id} (h : ∀ j, ¬ LiveTask s j k) : Idle s k := by
  intro j t ht hcase
  by_contra hlive
  exact h j ⟨t, ht, hcase, eq_false_of_ne_true hlive⟩

def KeepsIdle (s s' : Store) : Prop := ClosedCasesIdle s → ClosedCasesIdle s'

namespace KeepsIdle

variable {s s' : Store} {k : Id}

/-- A case that the step closes is idle, and a task that it puts to work belongs to a case that
    was open. -/
theorem of_closed_live (hclosed : ∀ k, Closed s' k → Closed s k ∨ Idle s' k)
    (hlive : ∀ j k, LiveTask s' j k → LiveTask s j k ∨ ¬ Closed s k) : KeepsIdle s s' := by
  intro hs k hk
  rcases hclosed k hk with hbefore | hidle
  · apply idle_of_no_liveTask
    intro j hj
    rcases hlive j k hj with ⟨t, ht, hcase, hopen⟩ | hnot
    · -- the task was live before, in a closed case
      have hdone := hs k hbefore j t ht hcase
      rw [hopen] at hdone
      cases hdone
    · exact hnot hbefore
  · exact hidle

/-- Only the case `k` is written, and it is idle if it ends closed; no task comes to life. -/
theorem of_case (hcases : s.cases.AgreesOff k s'.cases) (hidle : Closed s' k → Idle s' k)
    (hlive : ∀ j k, LiveTask s' j k → LiveTask s j k) : KeepsIdle s s' := by
  refine of_closed_live ?_ (fun j k h => Or.inl (hlive j k h))
  intro j hclosed
  by_cases hj : j = k
  · subst hj
    exact Or.inr (hidle hclosed)
  · obtain ⟨c, hc, hterminal⟩ := hclosed
    exact Or.inl ⟨c, (hcases j hj) ▸ hc, hterminal⟩

theorem of_tasks (hcases : s'.cases = s.cases)
    (hlive : ∀ j k, LiveTask s' j k → LiveTask s j k ∨ ¬ Closed s k) : KeepsIdle s s' := by
  refine of_closed_live ?_ hlive
  rintro k ⟨c, hc, hterminal⟩
  exact Or.inl ⟨c, hcases ▸ hc, hterminal⟩

/-- The case `k` is written, and some of its open tasks end: all of them, if it ends closed. -/
theorem of_cancel {p : Task → Bool} {f : Task → Task} (hcases : s.cases.AgreesOff k s'.cases)
    (htasks : s'.tasks = s.tasks.updateWhere (fun t => p t && !t.status.isTerminal) f)
    (hf : ∀ t, (f t).status.isTerminal = true)
    (hall : Closed s' k → ∀ t, t.caseId = k → p t = true) : KeepsIdle s s' := by
  -- a live task of the new store was live, and the condition did not pick it
  have hlive : ∀ j t', s'.tasks.get? j = some t' → t'.status.isTerminal = false →
      s.tasks.get? j = some t' ∧ p t' = false := by
    intro j t' ht' hopen
    rw [htasks, get?_updateWhere, Option.map_eq_some_iff] at ht'
    obtain ⟨t, ht, hrow⟩ := ht'
    split at hrow
    · rw [← hrow, hf t] at hopen
      cases hopen
    · next hpick =>
      subst hrow
      refine ⟨ht, ?_⟩
      simpa [hopen] using hpick
  apply of_case hcases
  · intro hclosed
    apply idle_of_no_liveTask
    rintro j ⟨t, ht, hcase, hopen⟩
    have hnot := (hlive j t ht hopen).2
    rw [hall hclosed t hcase] at hnot
    cases hnot
  · rintro j _ ⟨t, ht, hcase, hopen⟩
    exact ⟨t, (hlive j t ht hopen).1, hcase, hopen⟩

/-- The case is written, and its open tasks are cancelled with it. -/
theorem of_cancelOpenTasks (hcases : s.cases.AgreesOff k s'.cases)
    (htasks : s'.tasks = (cancelOpenTasks s k now).tasks) : KeepsIdle s s' :=
  of_cancel (p := (·.caseId == k)) (f := (·.cancelWithCase now)) hcases htasks (fun _ => rfl)
    fun _ _ => beq_iff_eq.mpr

/-- A new task of a case that is open. -/
theorem of_insert {row : Task} (hcases : s'.cases = s.cases)
    (htasks : s'.tasks = s.tasks.insert row)
    (hopen : row.status.isTerminal = false → ¬ Closed s row.caseId) : KeepsIdle s s' := by
  apply of_tasks hcases
  rintro j _ ⟨t, ht, rfl, hlive⟩
  rw [htasks, get?_insert] at ht
  split at ht
  · cases ht
    exact Or.inr (hopen hlive)
  · exact Or.inl ⟨t, ht, rfl, hlive⟩

end KeepsIdle

section Closing

variable {s s' : Store} {caseId : Id}

theorem keepsIdle_withdrawCase {reason : String}
    (h : withdrawCase ctx caseId reason s = .ok s') : KeepsIdle s s' := by
  obtain ⟨hlife, htasks⟩ := withdrawCase_step h
  exact .of_cancelOpenTasks hlife.others htasks

theorem keepsIdle_emergencyClose {reason supervisorId token : String}
    (h : emergencyClose ctx caseId reason supervisorId token s = .ok s') : KeepsIdle s s' := by
  obtain ⟨hlife, htasks⟩ := emergencyClose_step h
  exact .of_cancelOpenTasks hlife.others htasks

theorem keepsIdle_expireCase (call : ExpiryCall) (s : Store) (expired : Id × Int) :
    KeepsIdle s (expireCase call s expired) := by
  exact .of_cancelOpenTasks (.updateAt expired.1 s.cases _) rfl

/-- A rejection for good, or after too much rework, ends all tasks; rework leaves the case
    open. -/
theorem keepsIdle_rejection {gateId : Id}
    (h : RejectionStep s now caseId gateId s') : KeepsIdle s s' := by
  cases h with
  | nothing => exact id
  | exhausted count e =>
    exact .of_cancel (p := (·.caseId == caseId)) (f := (·.cancel "CASE_MAX_REWORK_EXCEEDED" now))
      (.updateAt caseId s.cases _) rfl (fun _ => rfl) fun _ _ => beq_iff_eq.mpr
  | rework st target stageCode count row e₁ e₂ =>
    refine .of_cancel (p := fun t => t.caseId == caseId && t.stageCode == stageCode)
      (f := (·.cancel "APPROVAL_REJECTED" now)) (.updateAt caseId s.cases _) rfl (fun _ => rfl) ?_
    rintro ⟨c, hc, hterminal⟩
    -- the case is in progress again
    have hrow : (s.cases.updateAt caseId (fun c =>
        { c.backTo target st.sequenceOrder with reworkCount := count })).get? caseId = some c := hc
    rw [get?_updateAt_self, Option.map_eq_some_iff] at hrow
    obtain ⟨c₀, -, rfl⟩ := hrow
    cases hterminal
  | terminal e =>
    exact .of_cancel (p := (·.caseId == caseId)) (f := (·.cancel "CASE_REJECTED" now))
      (.updateAt caseId s.cases _) rfl (fun _ => rfl) fun _ _ => beq_iff_eq.mpr

/-- A case is completed only when none of its tasks is left to do. -/
theorem idle_of_evaluateCaseCompletion (h : evaluateCaseCompletion s caseId = true) :
    Idle s caseId := by
  intro j t ht hcase
  have hzero : s.tasks.count (fun t => t.caseId == caseId && !t.status.isDone) = 0 :=
    beq_iff_eq.mp h
  have hdone := count_eq_zero.mp hzero j t ht
  have hstatus : t.status.isDone = true := by simpa [hcase] using hdone
  cases hs : t.status <;> rw [hs] at hstatus <;> first | rfl | cases hstatus

theorem keepsIdle_evaluateAndCompleteCase
    (h : evaluateAndCompleteCase ctx caseId s = .ok s') : KeepsIdle s s' := by
  unfold evaluateAndCompleteCase at h
  split at h
  · next hdone =>
    obtain ⟨s₁, hcomplete, h⟩ := bind_ok h
    cases h
    obtain ⟨_, -, hcomplete⟩ := bind_ok hcomplete
    cases hcomplete
    exact .of_case (.updateAt caseId s.cases _)
      (fun _ => idle_of_evaluateCaseCompletion hdone) fun _ _ => id
  · cases h
    exact id

end Closing

section Working

variable {s s' : Store} {config : CaseTypeConfig} {lib : Library}

theorem keepsIdle_requeueDLQEntry {call : RequeueCall} (h : requeueDLQEntry call s = .ok s')
    (hspares : (CaseTaskOp.requeueDLQEntry call).SparesIdle s) : KeepsIdle s s' := by
  obtain ⟨entry, t, hstep⟩ := requeueDLQEntry_step h
  apply KeepsIdle.of_tasks hstep.cases
  rintro j _ ⟨t', ht', rfl, hlive⟩
  rw [hstep.tasks, get?_updateAt] at ht'
  split at ht'
  · next hj =>
    -- the task that starts anew
    subst hj
    rw [hstep.row] at ht'
    cases ht'
    exact Or.inr (hspares entry t hstep.found hstep.active hstep.row)
  · exact Or.inl ⟨t', ht', rfl, hlive⟩

theorem keepsIdle_startCompensation {taskId : Id} {t : Task}
    {failedTask : TaskLocation} {message : String}
    (h : startCompensation s now taskId t config failedTask message = .ok s')
    (hspares : (CaseTaskOp.startCompensation now taskId t config failedTask message).SparesIdle s) :
    KeepsIdle s s' := by
  obtain ⟨hcases, hsame | ⟨row, hrow, hnew⟩⟩ := startCompensation_frame h
  · apply KeepsIdle.of_tasks hcases
    rintro j k ⟨t', ht', hlive⟩
    exact Or.inl ⟨t', hsame ▸ ht', hlive⟩
  · apply KeepsIdle.of_insert hcases hnew
    intro _
    rw [hrow.caseId]
    apply hspares hrow.named
    intro j u hu
    rw [← hrow.key]
    exact hrow.free j u hu

theorem keepsIdle_createTask {task : Task} (hspares : (CaseTaskOp.createTask task).SparesIdle s) :
    KeepsIdle s (createTask s task).2 := by
  unfold createTask
  split
  · exact id
  · next hnone =>
    refine .of_insert rfl rfl fun hlive => hspares hlive ?_
    intro j t ht
    exact ne_of_beq_false (find?_eq_none hnone ht)

/-- A stage whose definitions are all blocked, or have their keys taken, gets no new task. -/
theorem createStageTasks_nothing {before : Store} {caseId : Id} {c : CaseInstance}
    {stageCode : String}
    {entries : List (ActivityConfig × TaskDefinition)} (hentries : ∀ e ∈ entries,
      (∃ sourceTask sourceField,
        taskInputs before caseId e.2 = .error (.dependency sourceTask sourceField)) ∨
      ∃ k t, s.tasks.get? k = some t ∧ t.idempotencyKey = definitionKey caseId stageCode e)
    (h : entries.foldlM (createStageTask lib ctx before caseId c stageCode config) s = .ok s') :
    CreationFrame (fun _ => False) s s' := by
  refine foldlM_invariant (P := fun b => CreationFrame (fun _ => False) s b) ?_ (.refl _ s) h
  intro b entry b' hentry hframe hpass
  rcases hentries entry hentry with ⟨sourceTask, sourceField, hblocked⟩ | ⟨k, t, ht, hkey⟩
  · exact hframe.trans (createStageTask_blocked hblocked hpass)
  · obtain ⟨t', ht', hcore⟩ := hframe.tasks.keeps k t ht
    exact hframe.trans (createStageTask_taken ht' ((Task.key_of_core hcore).trans hkey) hpass)

theorem keepsIdle_of_creationFrame {B : TaskOrigin × TaskStatus → Prop} (h : CreationFrame B s s')
    (hopen : ∀ core, B core → ¬ Closed s core.1.caseId) : KeepsIdle s s' := by
  apply KeepsIdle.of_tasks h.cases
  rintro j _ ⟨t', ht', rfl, hlive⟩
  rcases h.tasks.adds j t' ht' with ⟨t, ht, hcore⟩ | hnew
  · left
    have hcase : t'.caseId = t.caseId := congrArg (fun core => core.1.caseId) hcore
    have hstatus : t'.status = t.status := congrArg Prod.snd hcore
    exact ⟨t, ht, hcase.symm, hstatus ▸ hlive⟩
  · exact Or.inr (hopen _ hnew)

theorem keepsIdle_onCaseStageChanged {event : Event}
    (h : onCaseStageChanged lib ctx event s = .ok s')
    (hspares : (CaseTaskOp.onCaseStageChanged lib ctx event).SparesIdle s) : KeepsIdle s s' := by
  obtain ⟨⟨caseId, c, config⟩, hload, h⟩ := bind_ok h
  obtain ⟨st, hst, h⟩ := bind_ok h
  have hentries := hspares caseId c config st hload (orFail_eq_ok.mp hst)
  by_cases hclosed : Closed s caseId
  · -- every definition is blocked or has its task
    obtain ⟨c', -, hloop⟩ := createTasksForStage_step h
    refine keepsIdle_of_creationFrame (createStageTasks_nothing ?_ hloop) fun _ hnone => hnone.elim
    intro entry hentry
    by_contra hnew
    push Not at hnew
    exact hentries entry hentry hnew.1 hnew.2 hclosed
  · apply keepsIdle_of_creationFrame (createTasksForStage_frame h)
    rintro core ⟨entry, -, rfl, -⟩
    exact hclosed

end Working

/-! ## Every step, and every run -/

open Machine

/-- A step that meets its condition keeps closed cases idle. -/
theorem keepsIdle_exec {s s' : Store} {op : CaseTaskOp} (hspares : op.SparesIdle s)
    (h : op.exec s = .ok s') : KeepsIdle s s' := by
  cases op with
  | withdrawCase ctx caseId reason => exact keepsIdle_withdrawCase h
  | emergencyClose ctx caseId reason supervisorId token => exact keepsIdle_emergencyClose h
  | runExpirySweep call =>
    cases h
    -- every case that the sweep closes has its tasks cancelled first
    exact runExpirySweep_moves (R := KeepsIdle) (fun _ => id) (fun h h' hs => h' (h hs)) call
      (keepsIdle_expireCase call) s
  | cancelCaseForDealStatus lib now tenantId caseId status =>
    obtain ⟨c, hc, h⟩ := bind_ok h
    cases h
    have hexists : (s.cases.get? caseId).isSome = true := by rw [orFail_eq_ok.mp hc]; rfl
    exact .of_case (.updateAt caseId s.cases _) (fun _ => hspares hexists) fun _ _ => id
  | qaApprove ctx caseId tenantId approvedBy =>
    cases h
    refine .of_case (.updateAt caseId s.cases _) ?_ fun _ _ => id
    rintro ⟨c, hc, -⟩
    apply hspares
    -- the case that was approved is there
    have hrow : (s.cases.updateAt caseId (fun c => c.passQA ctx.now approvedBy)).get? caseId =
        some c := hc
    rw [get?_updateAt_self, Option.map_eq_some_iff] at hrow
    obtain ⟨c₀, hc₀, -⟩ := hrow
    rw [hc₀]
    rfl
  | rejectCaseTerminally now caseId gateId reason rejectedBy =>
    cases h
    exact keepsIdle_rejection (.terminal _)
  | sendCaseToRework now caseId gateId target reason rejectedBy =>
    exact keepsIdle_rejection (sendCaseToRework_step h)
  | evaluateAndCompleteCase ctx caseId => exact keepsIdle_evaluateAndCompleteCase h
  | requeueDLQEntry call => exact keepsIdle_requeueDLQEntry h hspares
  | startCompensation now taskId t config failedTask message =>
    exact keepsIdle_startCompensation h hspares
  | onCaseStageChanged lib ctx event => exact keepsIdle_onCaseStageChanged h hspares
  | createTask task =>
    cases h
    exact keepsIdle_createTask hspares

/-- In every run from a store whose closed cases are idle, and whose steps meet their
    conditions, the closed cases are idle in every state. -/
theorem closed_cases_idle (s : Store) (ops : List CaseTaskOp) (hs : ClosedCasesIdle s)
    (hspares : Guarded CaseTaskOp.exec (fun s op => op.SparesIdle s) s ops) :
    Along CaseTaskOp.exec (fun _ _ s' => ClosedCasesIdle s') s ops := by
  have hstep : ∀ s op s', ClosedCasesIdle s → CaseTaskOp.SparesIdle s op →
      CaseTaskOp.exec op s = .ok s' → ClosedCasesIdle s' ∧ ClosedCasesIdle s' := by
    intro s op s' hs hspares h
    have hs' := keepsIdle_exec hspares h hs
    exact ⟨hs', hs'⟩
  exact (Guarded.along hstep (fun _ _ hs => hs) hs hspares).2

/-- A case in progress with a task that failed for good and one that waits. -/
def halfDeadCase : Store where
  caseTypes := Table.empty.insert { code := "LOAN", config := { stages := [] } }
  cases := Table.empty.insert { caseTypeId := 0, status := .inProgress }
  tasks := (Table.empty.insert
    { caseId := 0, taskDefinitionCode := "SCORE", activityCode := "CREDIT", stageCode := "REVIEW"
      status := .failed, idempotencyKey := "0:REVIEW:CREDIT:SCORE" }).insert
    { caseId := 0, taskDefinitionCode := "VERIFY", activityCode := "CREDIT", stageCode := "REVIEW"
      idempotencyKey := "0:REVIEW:CREDIT:VERIFY" }
  dlq := Table.empty.insert
    { taskId := 0, caseId := 0, failureReason := "timeout", errorDetail := .null, movedAt := 1
      isPoisonPill := false }

def requeueAt (now : Instant) : RequeueCall where
  now := now
  dlqId := 0
  operatorId := "operator"
  generatedId := "1"

theorem halfDeadCase_open (k : Id) : ¬ Closed halfDeadCase k := by
  rintro ⟨c, hc, hterminal⟩
  have hmem : (k, c) ∈ halfDeadCase.cases.rows := get?_eq_some_iff.mp hc
  have hrow : (k, c) = (0, { caseTypeId := 0, status := .inProgress }) := List.mem_singleton.mp hmem
  cases hrow
  cases hterminal

/-- Requeueing the task before the withdrawal is safe. -/
theorem closed_cases_idle_halfDeadCase :
    Along CaseTaskOp.exec (fun _ _ s' => ClosedCasesIdle s') halfDeadCase
      [.requeueDLQEntry (requeueAt 5), .withdrawCase (.plain 6) 0 "withdrawn"] := by
  refine closed_cases_idle _ _ (fun k hclosed => absurd hclosed (halfDeadCase_open k)) ?_
  refine ⟨?_, trivial, trivial⟩
  exact fun _ t _ _ _ => halfDeadCase_open t.caseId

/-- A cancelled deal closes the case and leaves its task waiting, and a requeue puts a task of a
    withdrawn case to work. -/
theorem closed_case_keeps_working :
    ClosedCasesIdle halfDeadCase ∧
      ((run CaseTaskOp.exec halfDeadCase
          [.cancelCaseForDealStatus .plain 5 "" 0 "DECLINED"]).caseStatus? 0 = some .cancelled ∧
        ((run CaseTaskOp.exec halfDeadCase
          [.cancelCaseForDealStatus .plain 5 "" 0 "DECLINED"]).tasks.get? 1).map (·.status) =
            some .pending) ∧
      ((run CaseTaskOp.exec halfDeadCase
          [.withdrawCase (.plain 5) 0 "withdrawn", .requeueDLQEntry (requeueAt 6)]).caseStatus? 0 =
            some .cancelled ∧
        ((run CaseTaskOp.exec halfDeadCase
          [.withdrawCase (.plain 5) 0 "withdrawn", .requeueDLQEntry (requeueAt 6)]).tasks.get?
            0).map (·.status) = some .pending) := by
  refine ⟨fun k hclosed => absurd hclosed (halfDeadCase_open k), ⟨?_, ?_⟩, ?_, ?_⟩
  all_goals decide +kernel

end LoanWorkflow
