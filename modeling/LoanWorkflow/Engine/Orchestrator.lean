import LoanWorkflow.Engine.StageTransition
import LoanWorkflow.Engine.TaskCreation

/-! # The case orchestrator

    The handlers of the three events that drive a case through its stages.
    Each handler is one step.
-/

namespace LoanWorkflow

open Table

variable {ctx : Ctx} {event : Event} {caseId : Id} {lib : Library} {s s' : Store}

/-! ## Counting -/

/-- All tasks of an activity, and those that are done. -/
def countTasksByActivityAndStatus (s : Store) (caseId : Id) (stageCode activityCode : String) :
    Nat × Nat :=
  let inActivity (t : Task) : Bool :=
    t.caseId == caseId && t.stageCode == stageCode && t.activityCode == activityCode
  (s.tasks.count inActivity, s.tasks.count (fun t => inActivity t && t.status.isDone))

def activityComplete (s : Store) (caseId : Id) (stageCode activityCode : String) : Bool :=
  let (total, completed) := countTasksByActivityAndStatus s caseId stageCode activityCode
  decide (total ≤ completed) && decide (0 < total)

/-- The task belongs to an activity of a stage of a case. -/
def Task.IsOf (t : Task) (caseId : Id) (stageCode activityCode : String) : Prop :=
  t.caseId = caseId ∧ t.stageCode = stageCode ∧ t.activityCode = activityCode

/-- An activity is complete when it has a task and all its tasks are done. -/
theorem activityComplete_iff {stageCode activityCode : String} :
    activityComplete s caseId stageCode activityCode = true ↔
      (∃ k t, s.tasks.get? k = some t ∧ t.IsOf caseId stageCode activityCode) ∧
        ∀ k t, s.tasks.get? k = some t → t.IsOf caseId stageCode activityCode →
          t.status.isDone = true := by
  constructor
  · intro h
    obtain ⟨hall, hsome⟩ := Bool.and_eq_true_iff.mp h
    obtain ⟨k, t, ht, hin⟩ := count_pos.mp (of_decide_eq_true hsome)
    refine ⟨⟨k, t, ht, by simpa [Task.IsOf, and_assoc] using hin⟩, fun j t' ht' hof => ?_⟩
    apply all_of_count_le (q := fun t : Task => t.status.isDone) (of_decide_eq_true hall) ht'
    simpa [Task.IsOf, and_assoc] using hof
  · rintro ⟨⟨k, t, ht, hin⟩, hall⟩
    refine Bool.and_eq_true_iff.mpr ⟨decide_eq_true (le_of_eq ?_), decide_eq_true ?_⟩
    · -- every counted task is counted among the finished ones too
      apply count_congr
      intro j t' ht'
      beta_reduce
      by_cases hof : t'.IsOf caseId stageCode activityCode
      · rw [hall j t' ht' hof, Bool.and_true]
      · have hout : (t'.caseId == caseId && t'.stageCode == stageCode &&
            t'.activityCode == activityCode) = false := by
          simpa [Task.IsOf] using hof
        rw [hout, Bool.false_and]
    · exact count_pos.mpr ⟨k, t, ht, by simpa [Task.IsOf, and_assoc] using hin⟩

def stageComplete (s : Store) (caseId : Id) (st : StageDefinition) : Bool :=
  st.activities.all (fun a => activityComplete s caseId st.code a.code)

/-! ## Task completed -/

def applyAggregationRulesForTask (lib : Library) (s : Store) (caseId taskId : Id) :
    Except Err Store := do
  let t ← orFail (s.tasks.get? taskId)
    ("applyAggregationRulesForTask: load task " ++ toString taskId ++ ": sql: no rows in result set")
  let c ← orFail (s.cases.get? caseId)
    ("applyAggregationRulesForTask: load case_type_id for case " ++ toString caseId ++
      ": sql: no rows in result set")
  let ct ← orFail (s.caseTypes.get? c.caseTypeId)
    "applyAggregationRulesForTask: load case type config: no rows in result set"
  if ct.config.aggregationRules.isEmpty then return s
  else applyAggregationRules lib s caseId t ct.config.aggregationRules

/-- `SyncCompensationStateForTask` for a completed task. -/
def syncCompensationForTask (s : Store) (now : Instant) (taskId : Id) : Store :=
  match s.compensations.find? (fun row => row.compensatingTaskId == some taskId) with
  | none => s
  | some (compensationId, row) =>
    let s := { s with
      compensations := s.compensations.updateWhere (fun row => row.compensatingTaskId == some taskId)
        (fun row => { row with status := .completed, completedAt := some now }) }
    s.publish
      { eventType := .compensationCompleted, caseId := some row.caseId, taskId := some taskId
        payload := .obj [("case_id", .uuid row.caseId), ("task_id", .uuid taskId),
          ("compensation_id", .uuid compensationId), ("compensation_status", .str "COMPLETED")]
        targetService := "case-orchestrator" }

/-- The case id of an event payload; a text that is no key is refused by the database. -/
def payloadCase (event : Event) : Except Err Id := do
  ensure event.payload.isMap "failed to parse payload"
  orFail (event.payload.idField? "case_id") "invalid input syntax for type uuid"

/-- What `onTaskCompleted` does for the task of the event, if it names one. -/
def settleTask (lib : Library) (ctx : Ctx) (event : Event) (caseId : Id) (s : Store) :
    Except Err Store :=
  match event.taskId <|> event.payload.idField? "task_id" with
  | some taskId => do
    let s ← applyAggregationRulesForTask lib s caseId taskId
    return syncCompensationForTask s ctx.now taskId
  | none => do
    ensure (event.payload.strField "task_id" == "") "invalid input syntax for type uuid"
    return s

def onTaskCompleted (lib : Library) (ctx : Ctx) (event : Event) (s : Store) : Except Err Store := do
  let caseId ← payloadCase event
  let stageCode := event.payload.strField "stage_code"
  let activityCode := event.payload.strField "activity_code"
  let s ← settleTask lib ctx event caseId s
  if activityComplete s caseId stageCode activityCode then
    return s.publish
      { eventType := .activityCompleted, caseId := some caseId
        payload := .obj [("case_id", .uuid caseId), ("stage_code", .str stageCode),
          ("activity_code", .str activityCode)]
        targetService := "case-orchestrator" }
  else return s

/-! ## Activity completed -/

/-- Load the case of an event and its configuration. -/
def loadCase (s : Store) (event : Event) : Except Err (Id × CaseInstance × CaseTypeConfig) := do
  let caseId ← payloadCase event
  let c ← orFail (s.cases.get? caseId) "failed to load case: no rows in result set"
  let ct ← orFail (s.caseTypes.get? c.caseTypeId) "failed to load case_type: no rows in result set"
  return (caseId, c, ct.config)

def advanceTo (next : StageDefinition) (caseId : Id) : TransitionInput where
  caseId := caseId
  toStageCode := next.code
  toStageOrdinal := next.sequenceOrder
  triggeredBy := "case-orchestrator"

/-- The stage that is checked is the one the event names, the stage
    that is left is the one stored on the case. -/
def onActivityCompleted (ctx : Ctx) (event : Event) (s : Store) : Except Err Store := do
  let (caseId, c, config) ← loadCase s event
  let stageCode := event.payload.strField "stage_code"
  let st ← orFail (findStage config stageCode)
    ("stage " ++ stageCode ++ " not found in case_type config")
  if stageComplete s caseId st then
    match findNextStage config c.currentStageOrdinal with
    | none => evaluateAndCompleteCase ctx caseId s
    | some next => do
      let s ← recordStageTransition (advanceTo next caseId) s
      return s.publish
        { eventType := .caseStageChanged, caseId := some caseId
          payload := .obj [("case_id", .uuid caseId), ("from_stage", .str stageCode),
            ("to_stage", .str next.code), ("to_stage_order", .num next.sequenceOrder)]
          targetService := "case-orchestrator" }
  else return s

/-! ## Stage changed -/

def onCaseStageChanged (lib : Library) (ctx : Ctx) (event : Event) (s : Store) :
    Except Err Store := do
  let (caseId, _, config) ← loadCase s event
  let toStage := event.payload.strField "to_stage"
  let st ← orFail (findStage config toStage) ("stage " ++ toStage ++ " not found in case_type config")
  createTasksForStage lib ctx caseId toStage st config s

/-! ## What the handlers do -/

def CaseInstance.place (c : CaseInstance) : Id × Option String := (c.caseTypeId, c.currentStageCode)

/-- What is done for the task of an event moves no case and announces at most a compensation. -/
structure SettleStep (s s' : Store) : Prop where
  tasks : s'.tasks = s.tasks
  cases : s.cases.Grows CaseInstance.place (fun _ => False) s'.cases
  caseTypes : s'.caseTypes = s.caseTypes
  outbox : s'.outbox = s.outbox ∨
    ∃ e, e.eventType = .compensationCompleted ∧ s'.outbox = s.outbox.insert e

/-- The rules rewrite the metadata of the case. -/
theorem applyAggregationRules_step {t : Task} {rules : List AggregationRule}
    (h : applyAggregationRules lib s caseId t rules = .ok s') :
    s' = s ∨ ∃ f : CaseInstance → CaseInstance, (∀ c, (f c).place = c.place) ∧
      s' = s.updateCase caseId f := by
  obtain ⟨-, -, h⟩ := bind_ok h
  obtain ⟨patches, -, h⟩ := bind_ok h
  split at h
  · cases h
    exact Or.inl rfl
  · obtain ⟨paths, -, h⟩ := bind_ok h
    split at h
    · cases h
      exact Or.inl rfl
    · obtain ⟨metadata, -, h⟩ := bind_ok h
      cases h
      refine Or.inr ⟨_, ?_, rfl⟩
      exact fun _ => rfl

theorem settleTask_step (h : settleTask lib ctx event caseId s = .ok s') : SettleStep s s' := by
  unfold settleTask at h
  split at h
  · next taskId _ =>
    obtain ⟨s₁, haggregated, h⟩ := bind_ok h
    cases h
    have hfirst : s₁ = s ∨ ∃ f : CaseInstance → CaseInstance, (∀ c, (f c).place = c.place) ∧
        s₁ = s.updateCase caseId f := by
      obtain ⟨t, -, haggregated⟩ := bind_ok haggregated
      obtain ⟨c, -, haggregated⟩ := bind_ok haggregated
      obtain ⟨ct, -, haggregated⟩ := bind_ok haggregated
      split at haggregated
      · cases haggregated
        exact Or.inl rfl
      · exact applyAggregationRules_step haggregated
    unfold syncCompensationForTask
    rcases hfirst with rfl | ⟨f, hf, rfl⟩
    · split
      · exact ⟨rfl, .refl _ _ _, rfl, Or.inl rfl⟩
      · exact ⟨rfl, .refl _ _ _, rfl, Or.inr ⟨_, rfl, rfl⟩⟩
    · split
      · exact ⟨rfl, .updateAt hf, rfl, Or.inl rfl⟩
      · exact ⟨rfl, .updateAt hf, rfl, Or.inr ⟨_, rfl, rfl⟩⟩
  · obtain ⟨-, -, h⟩ := bind_ok h
    cases h
    exact ⟨rfl, .refl _ _ _, rfl, Or.inl rfl⟩

structure StaysFrame (s s' : Store) : Prop where
  tasks : s.tasks.Grows Task.origin (fun _ => False) s'.tasks
  cases : s.cases.Grows CaseInstance.place (fun _ => False) s'.cases
  caseTypes : s'.caseTypes = s.caseTypes

namespace StaysFrame

theorem refl (s : Store) : StaysFrame s s := ⟨.refl _ _ _, .refl _ _ _, rfl⟩

theorem trans {s'' : Store} (h : StaysFrame s s') (h' : StaysFrame s' s'') : StaysFrame s s'' :=
  ⟨h.tasks.trans h'.tasks, h.cases.trans h'.cases, h'.caseTypes.trans h.caseTypes⟩

/-- Rewriting a case without moving it. -/
theorem updateCase (s : Store) (k : Id) {f : CaseInstance → CaseInstance}
    (hf : ∀ c, (f c).place = c.place) : StaysFrame s (s.updateCase k f) :=
  ⟨.refl _ _ _, .updateAt hf, rfl⟩

theorem publish (s : Store) (e : Event) : StaysFrame s (s.publish e) :=
  ⟨.refl _ _ _, .refl _ _ _, rfl⟩

theorem settleTask (h : settleTask lib ctx event caseId s = .ok s') : StaysFrame s s' := by
  have hstep := settleTask_step h
  exact ⟨.of_eq hstep.tasks, hstep.cases, hstep.caseTypes⟩

theorem onTaskCompleted (h : onTaskCompleted lib ctx event s = .ok s') : StaysFrame s s' := by
  obtain ⟨caseId, -, h⟩ := bind_ok h
  obtain ⟨s₁, hsettled, h⟩ := bind_ok h
  split at h
  · cases h
    exact (settleTask hsettled).trans (publish s₁ _)
  · cases h
    exact settleTask hsettled

theorem evaluateAndCompleteCase
    (h : evaluateAndCompleteCase ctx caseId s = .ok s') : StaysFrame s s' := by
  unfold LoanWorkflow.evaluateAndCompleteCase at h
  split at h
  · obtain ⟨s₁, hcompleted, h⟩ := bind_ok h
    cases h
    obtain ⟨-, -, hcompleted⟩ := bind_ok hcompleted
    cases hcompleted
    exact (updateCase s caseId (f := fun c => c.complete ctx.now) fun _ => rfl).trans (publish _ _)
  · cases h
    exact refl s

end StaysFrame

theorem loadCase_ok {c : CaseInstance}
    {config : CaseTypeConfig} (h : loadCase s event = .ok (caseId, c, config)) :
    s.cases.get? caseId = some c ∧
      ∃ ct, s.caseTypes.get? c.caseTypeId = some ct ∧ ct.config = config := by
  obtain ⟨k, -, h⟩ := bind_ok h
  obtain ⟨c', hc, h⟩ := bind_ok h
  obtain ⟨ct, hct, h⟩ := bind_ok h
  cases h
  exact ⟨orFail_eq_ok.mp hc, ct, orFail_eq_ok.mp hct, rfl⟩

/-- What the handler of a finished activity did: nothing, complete the case, or, when the
    stage of the event is complete, move the case to the next stage. -/
theorem onActivityCompleted_step (h : onActivityCompleted ctx event s = .ok s') :
    StaysFrame s s' ∨ ∃ caseId c config st next s₁ e,
      loadCase s event = .ok (caseId, c, config) ∧
      findStage config (event.payload.strField "stage_code") = some st ∧
      stageComplete s caseId st = true ∧
      findNextStage config c.currentStageOrdinal = some next ∧
      recordStageTransition (advanceTo next caseId) s = .ok s₁ ∧ s' = s₁.publish e := by
  obtain ⟨⟨caseId, c, config⟩, hload, h⟩ := bind_ok h
  obtain ⟨st, hst, h⟩ := bind_ok h
  split at h
  · next hcomplete =>
    split at h
    · exact Or.inl (.evaluateAndCompleteCase h)
    · next next hnext =>
      obtain ⟨s₁, hmoved, h⟩ := bind_ok h
      cases h
      exact Or.inr ⟨caseId, c, config, st, next, s₁, _, hload, orFail_eq_ok.mp hst, hcomplete,
        hnext, hmoved, rfl⟩
  · cases h
    exact Or.inl (.refl s)

end LoanWorkflow
