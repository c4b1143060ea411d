import LoanWorkflow.Model.Context

/-! # SLA definitions of a task

    The definition that applies to a task is merged from the case, the stage,
    the activity and the task; the more specific level wins field by field.
-/

namespace LoanWorkflow

def mergeSLADefinitions (base override : SLADefinition) : SLADefinition where
  durationHours := if 0 < override.durationHours then override.durationHours else base.durationHours
  warningThresholdPct :=
    if 0 < override.warningThresholdPct then override.warningThresholdPct
    else base.warningThresholdPct
  criticalThresholdPct :=
    if 0 < override.criticalThresholdPct then override.criticalThresholdPct
    else base.criticalThresholdPct
  breachAction :=
    if override.breachAction = .other "" then base.breachAction else override.breachAction
  calendarId := override.calendarId <|> base.calendarId

/-- The definitions that apply to a task, from the least to the most specific. -/
def slaLevels (config : CaseTypeConfig) (stageCode activityCode taskCode : String) :
    List SLADefinition :=
  let hierarchy := config.sla.getD {}
  let stage := findStage config stageCode
  let activity := stage.bind (fun st => findActivityDef st.activities activityCode)
  let task := activity.bind (fun a => findTaskDef a.taskDefs taskCode)
  let levels := [
    hierarchy.case,
    stage.bind (·.sla), stage.bind (fun _ => hierarchy.stages.lookup stageCode),
    activity.bind (·.sla), activity.bind (fun _ => hierarchy.activities.lookup activityCode),
    task.bind (·.sla), task.bind (fun _ => hierarchy.tasks.lookup taskCode)]
  levels.filterMap id

def resolveEffectiveSLADefinition (config : CaseTypeConfig)
    (stageCode activityCode taskCode : String) : Except Err (Option SLADefinition) :=
  match slaLevels config stageCode activityCode taskCode with
  | [] => .ok none
  | levels =>
    let resolved := levels.foldl mergeSLADefinitions {}
    if resolved.durationHours ≤ 0 then
      .error "ResolveEffectiveSLADefinition: duration_hours must be > 0 for resolved SLA"
    else
      .ok (some
        { resolved with
          warningThresholdPct :=
            if resolved.warningThresholdPct ≤ 0 then 80 else resolved.warningThresholdPct
          criticalThresholdPct :=
            if resolved.criticalThresholdPct ≤ 0 then 95 else resolved.criticalThresholdPct
          breachAction :=
            if resolved.breachAction = .other "" then .notifyOnly else resolved.breachAction })

structure Deadline where
  dueAt : Instant
  durationMs : Int
  calendarId : Id

def computeSLADeadline (ctx : Ctx) (start : Instant) (defaultCalendarId : Option Id)
    (d : SLADefinition) : Except Err Deadline := do
  ensure (decide (0 < d.durationHours)) "ComputeSLADeadline: duration_hours must be > 0"
  let calendarId ← orFail (d.calendarId <|> defaultCalendarId)
    "ComputeSLADeadline: calendar_id is required"
  let duration := hoursToDuration d.durationHours
  let dueAt ← ctx.addBusinessHours start duration calendarId
  return { dueAt := dueAt, durationMs := toMilliseconds duration, calendarId := calendarId }

end LoanWorkflow
