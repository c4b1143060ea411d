import LoanWorkflow.Model.Context

/-! # SLA clocks and their pause log

    A task or a case with an SLA has a clock. Whether the clock is stopped is
    not a column of the entity: `sla_pause_log` gets a row for every pause and
    every resumption, and the newest row of the entity tells. The row of a
    pause also keeps the working time since the clock last started.
-/

namespace LoanWorkflow

/-! ## Clocks -/

/-- An SLA clock, as the pause log and the events name it. -/
structure Clock where
  entityType : SLAEntityType
  entityId : Id
  caseId : Id
  taskId : Option Id := none

def Clock.ofCase (caseId : Id) : Clock :=
  { entityType := .case, entityId := caseId, caseId := caseId }

def Clock.ofTask (taskId caseId : Id) : Clock :=
  { entityType := .task, entityId := taskId, caseId := caseId, taskId := some taskId }

def SLAEntityType.text : SLAEntityType → String
  | .case => "CASE"
  | .stage => "STAGE"
  | .activity => "ACTIVITY"
  | .task => "TASK"

/-- The fields by which the payload of an event names a clock. -/
def Clock.fields (clock : Clock) : List (String × Json) :=
  [("entity_type", .str clock.entityType.text), ("entity_id", .uuid clock.entityId),
    ("case_id", .uuid clock.caseId)] ++
    (match clock.taskId with
      | some taskId => [("task_id", .uuid taskId)]
      | none => [])

/-- Payload of the events that stop and restart a clock. -/
def Clock.payload (clock : Clock) (reason : String) : Json :=
  .obj (clock.fields ++ [("reason", .str reason)])

/-! ## The log -/

def SLAPauseLog.isOf (l : SLAPauseLog) (entityType : SLAEntityType) (entityId : Id) : Bool :=
  l.entityType == entityType && l.entityId == entityId

def SLAPauseLog.isPauseOf (l : SLAPauseLog) (entityType : SLAEntityType) (entityId : Id) : Bool :=
  l.isOf entityType entityId && l.action == .pause

def Store.logPause (s : Store) (row : SLAPauseLog) : Store :=
  { s with pauseLog := s.pauseLog.insert row }

/-- The action of the latest row of an entity. -/
def latestAction (s : Store) (entityType : SLAEntityType) (entityId : Id) : Option PauseAction :=
  (s.pauseLog.findLast? (·.isOf entityType entityId)).map (·.2.action)

/-- The latest `PAUSE` row of an entity. -/
def latestPause (s : Store) (entityType : SLAEntityType) (entityId : Id) : Option SLAPauseLog :=
  (s.pauseLog.findLast? (·.isPauseOf entityType entityId)).map Prod.snd

/-- Working time that the `PAUSE` rows of an entity record, in milliseconds. -/
def pausedMs (s : Store) (entityType : SLAEntityType) (entityId : Id) : Int :=
  ((s.pauseLog.rows.filter (·.2.isPauseOf entityType entityId)).map
    (·.2.elapsedBeforePauseMs)).sum

/-! ## Restarting a clock -/

def CaseInstance.withSLA (c : CaseInstance) (f : SLAColumns → SLAColumns) : CaseInstance :=
  { c with sla := f c.sla, rowVersion := c.rowVersion + 1 }

/-- Write the SLA columns of a task, with the due date in both of its due columns. -/
def Task.withSLA (t : Task) (f : SLAColumns → SLAColumns) : Task :=
  { t with sla := f t.sla, dueAt := (f t.sla).dueAt, version := t.version + 1 }

def SLAColumns.restart (sla : SLAColumns) (now dueAt : Instant) : SLAColumns :=
  { sla with
    effectiveStartTime := some now
    dueAt := some dueAt
    warningIssuedAt := none
    criticalIssuedAt := none }

def restartCase (now : Instant) (caseId : Id) (s : Store) (dueAt : Instant) : Store :=
  s.updateCase caseId (fun c => c.withSLA (·.restart now dueAt))

def Task.restart (t : Task) (now dueAt : Instant) : Task := t.withSLA (·.restart now dueAt)

def restartTask (now : Instant) (taskId : Id) (s : Store) (dueAt : Instant) : Store :=
  s.updateTask taskId (fun t => t.restart now dueAt)

end LoanWorkflow
