import LoanWorkflow.Approval.Gate
import LoanWorkflow.Document.Propagation
import LoanWorkflow.Sla.Definition

/-! # Tasks of a stage

    Entering a stage creates one task for every task definition of its
    activities. A task is created at most once under its idempotency key; a
    definition that waits for another task is skipped with an event.
-/

namespace LoanWorkflow

variable {entry : ActivityConfig × TaskDefinition} {c : CaseInstance} {config : CaseTypeConfig}
  {ctx : Ctx} {caseId taskId : Id} {lib : Library} {amount : Option ℚ} {st : StageDefinition}
  {before : Store} {stageCode : String} {taskDef : TaskDefinition}
variable {s s' : Store}

/-! ## Pieces of a new task -/

/-- Under a key that is taken, the stored task is used. -/
def createTask (s : Store) (task : Task) : Id × Store :=
  match s.tasks.find? (fun t => t.idempotencyKey == task.idempotencyKey) with
  | some (taskId, _) => (taskId, s)
  | none => (s.tasks.fresh, { s with tasks := s.tasks.insert task })

def idempotencyKey (caseId : Id) (stageCode activityCode taskCode : String) : String :=
  toString caseId ++ ":" ++ stageCode ++ ":" ++ activityCode ++ ":" ++ taskCode

/-- Unlike `getByPath`, segments are not trimmed. -/
def metadataLookup (metadata : Json) (path : String) : Option Json := metadata.get? (path.splitOn ".")

def coerceFloat (lib : Library) : Json → Option ℚ
  | .num q => some q
  | .str t => lib.parseFloat (trimSpace t)
  | _ => none

def resolveApprovalAmountForTask (lib : Library) (taskDef : TaskDefinition) (metadata : Json) :
    Except Err (Option ℚ) :=
  match taskDef.requiresApproval, taskDef.approval with
  | true, some approval =>
    let field := trimSpace approval.approvalAmountField
    if field = "" then .ok none
    else
      match metadataLookup metadata field with
      | none => .ok none
      | some value =>
        match coerceFloat lib value with
        | some amount => .ok (some amount)
        | none => .error ("resolveApprovalAmountForTask: field " ++ field ++ " is not numeric")
  | _, _ => .ok none

/-- `ResolveRetryPolicy(...).MaxRetries`. -/
def resolvedMaxRetries (taskDef : TaskDefinition) : Int :=
  match taskDef.retryPolicy with
  | some policy => if 0 ≤ policy.maxRetries then policy.maxRetries else 3
  | none => 3

/-- The upper-case text of a team code; `fmt.Sprint` prints whatever value is there. -/
def teamCode (lib : Library) (value : Json) : String :=
  lib.toUpper (trimSpace (match value with
    | .str s => s
    | other => lib.sprint other))

def extractDefaultTeamCode (lib : Library) (taskDef : TaskDefinition) : String :=
  let config := taskDef.config.getD (.obj [])
  let own := ((config.field? "default_team_code").map (teamCode lib)).getD ""
  let assigned := (((config.field? "assignment").bind
    (fun assignment => assignment.field? "default_team_code")).map (teamCode lib)).getD ""
  if own = "" then assigned else own

/-- The SLA columns of a new task; a start that is already there stays. -/
def SLAColumns.snapshot (sla : SLAColumns) (createdAt : Instant) (d : SLADefinition)
    (deadline : Deadline) : SLAColumns :=
  { sla with
    dueAt := some deadline.dueAt
    effectiveStartTime := some (sla.effectiveStartTime.getD createdAt)
    durationMs := some deadline.durationMs
    warningThresholdPct := some d.warningThresholdPct
    criticalThresholdPct := some d.criticalThresholdPct
    breachAction := some d.breachAction
    calendarId := some deadline.calendarId }

/-- Write the SLA columns of a task that has an SLA. -/
def persistSLA (s : Store) (taskId : Id) (resolved : Option (SLADefinition × Deadline)) : Store :=
  match resolved with
  | some (d, deadline) =>
    s.updateTask taskId
      (fun t => { t with sla := t.sla.snapshot t.createdAt d deadline, version := t.version + 1 })
  | none => s

/-- Does a task definition ask for an approval? -/
def TaskDefinition.needsApproval (taskDef : TaskDefinition) : Bool :=
  taskDef.requiresApproval && taskDef.approval.isSome

/-- Create the gate of a task that needs an approval. -/
def createGateIfNeeded (ctx : Ctx) (s : Store) (caseId taskId : Id) (taskDef : TaskDefinition)
    (config : CaseTypeConfig) (approvalAmount : Option ℚ) : Except Err Store :=
  if taskDef.needsApproval then
    (createApprovalGateForTask s ctx caseId taskId taskDef config approvalAmount).map Prod.snd
  else .ok s

def Task.assignTeam (t : Task) (teamId : String) : Task :=
  { t with assignedTeamId := some teamId, version := t.version + 1 }

/-- Assign a task to the default team of its definition, if that team is active. -/
def assignDefaultTeam (lib : Library) (ctx : Ctx) (s : Store) (tenantId : String)
    (caseId taskId : Id) (taskDef : TaskDefinition) : Store :=
  let code := extractDefaultTeamCode lib taskDef
  if code = "" then s
  else
    match ctx.activeTeam tenantId code with
    | none => s
    | some teamId =>
      (s.updateTask taskId (fun t => t.assignTeam teamId)).publish
        { eventType := .taskAssignedToTeam, caseId := some caseId, taskId := some taskId
          payload := .obj [("case_id", .uuid caseId), ("task_id", .uuid taskId),
            ("tenant_id", .str tenantId), ("assigned_team_id", .str teamId),
            ("default_team_code", .str code),
            ("source", .str "task_definition.default_team_code")] }

/-! ## The loop over a stage -/

/-- The deadline of a task, if an SLA applies to it. -/
def resolveDeadline (ctx : Ctx) (config : CaseTypeConfig) (stageCode activityCode : String)
    (taskDef : TaskDefinition) : Except Err (Option (SLADefinition × Deadline)) := do
  match ← resolveEffectiveSLADefinition config stageCode activityCode taskDef.code with
  | none => return none
  | some d =>
    let deadline ← computeSLADeadline ctx ctx.now config.defaultCalendarId d
    return some (d, deadline)

def newTask (now : Instant) (caseId : Id) (stageCode activityCode : String)
    (taskDef : TaskDefinition) (payload : Json) (approvalAmount : Option ℚ)
    (resolved : Option (SLADefinition × Deadline)) : Task where
  caseId := caseId
  taskDefinitionCode := taskDef.code
  activityCode := activityCode
  stageCode := stageCode
  requiresApproval := taskDef.needsApproval
  approvalAmount := approvalAmount
  dueAt := resolved.map (fun r => r.2.dueAt)
  maxRetries := resolvedMaxRetries taskDef
  inputPayload := payload
  idempotencyKey := idempotencyKey caseId stageCode activityCode taskDef.code
  createdAt := now

/-- The task of one definition. Its inputs are read from `before`, the store outside of the
    transaction. -/
def createStageTask (lib : Library) (ctx : Ctx) (before : Store) (caseId : Id) (c : CaseInstance)
    (stageCode : String) (config : CaseTypeConfig) (s : Store)
    (entry : ActivityConfig × TaskDefinition) : Except Err Store :=
  let activityCode := entry.1.code
  let taskDef := entry.2
  match taskInputs before caseId taskDef with
  | .error (.dependency sourceTask sourceField) =>
    .ok (s.publish
      { eventType := .taskCreationBlocked, caseId := some caseId
        payload := .obj [("case_id", .uuid caseId), ("stage_code", .str stageCode),
          ("activity_code", .str activityCode), ("task_definition_code", .str taskDef.code),
          ("reason", .str (dependencyText sourceTask sourceField))]
        targetService := "case-orchestrator" })
  | .error (.failed e) => .error e
  | .ok payload => do
    validateTaskInput lib taskDef payload
    let amount ← resolveApprovalAmountForTask lib taskDef c.metadata
    let resolved ← resolveDeadline ctx config stageCode activityCode taskDef
    let (taskId, s) := createTask s
      (newTask ctx.now caseId stageCode activityCode taskDef payload amount resolved)
    let s := persistSLA s taskId resolved
    let s ← createGateIfNeeded ctx s caseId taskId taskDef config amount
    return assignDefaultTeam lib ctx s c.tenantId caseId taskId taskDef

/-- The task definitions of a stage, with their activities. -/
def StageDefinition.definitions (stageDef : StageDefinition) :
    List (ActivityConfig × TaskDefinition) :=
  stageDef.activities.flatMap (fun a => a.taskDefs.map (fun d => (a, d)))

def createTasksForStage (lib : Library) (ctx : Ctx) (caseId : Id) (stageCode : String)
    (stageDef : StageDefinition) (config : CaseTypeConfig) (s : Store) : Except Err Store := do
  let c ← orFail (s.cases.get? caseId)
    "failed to load case metadata for approvals: no rows in result set"
  ensure c.metadata.isMap "failed to load case metadata for approvals: parse metadata"
  stageDef.definitions.foldlM (createStageTask lib ctx s caseId c stageCode config) s

/-! ## What creation does to the tasks -/

/-- Where a task comes from: its key, its case and its place in the configuration. -/
structure TaskOrigin where
  key : String
  caseId : Id
  stageCode : String
  activityCode : String
  taskDefinitionCode : String

/-- The origin of a task, which no operation rewrites. -/
def Task.origin (t : Task) : TaskOrigin where
  key := t.idempotencyKey
  caseId := t.caseId
  stageCode := t.stageCode
  activityCode := t.activityCode
  taskDefinitionCode := t.taskDefinitionCode

/-- The columns of a task that creation leaves alone. -/
def Task.core (t : Task) : TaskOrigin × TaskStatus := (t.origin, t.status)

def definitionOrigin (caseId : Id) (stageCode : String) (entry : ActivityConfig × TaskDefinition) :
    TaskOrigin where
  key := idempotencyKey caseId stageCode entry.1.code entry.2.code
  caseId := caseId
  stageCode := stageCode
  activityCode := entry.1.code
  taskDefinitionCode := entry.2.code

/-- Nothing happens for a definition without an approval, and a gate is created for the others. -/
theorem createGateIfNeeded_step
    (h : createGateIfNeeded ctx s caseId taskId taskDef config amount = .ok s') :
    (taskDef.needsApproval = false ∧ s' = s) ∨
      taskDef.needsApproval = true ∧ ∃ approval gateId, taskDef.approval = some approval ∧
        createApprovalGateForTask s ctx caseId taskId taskDef config amount = .ok (gateId, s') := by
  unfold createGateIfNeeded at h
  by_cases hneeds : taskDef.needsApproval = true
  · rw [if_pos hneeds] at h
    obtain ⟨approval, happroval⟩ := Option.isSome_iff_exists.mp (Bool.and_eq_true_iff.mp hneeds).2
    obtain ⟨r, hgate, rfl⟩ := map_eq_ok.mp h
    exact Or.inr ⟨hneeds, approval, r.1, happroval, hgate⟩
  · rw [if_neg hneeds] at h
    cases h
    exact Or.inl ⟨by simpa using hneeds, rfl⟩

/-- The creation of a gate is announced. -/
theorem createApprovalGateForTask_outbox {gateId : Id}
    (h : createApprovalGateForTask s ctx caseId taskId taskDef config amount = .ok (gateId, s')) :
    ∃ e, s'.outbox = s.outbox.insert e := by
  obtain ⟨approval, -, h⟩ := bind_ok h
  simp only [pure, Except.pure, Except.ok.injEq, Prod.mk.injEq] at h
  obtain ⟨-, rfl⟩ := h
  rw [upsertGate_frame, insertChainState_frame]
  exact ⟨_, rfl⟩

/-- The row of a task after its SLA, its gate and its team. -/
def Task.Furnished (t t' : Task) : Prop :=
  ∃ sla required gateId amount teamId version, t.version ≤ version ∧ t' =
    { t with sla := sla, requiresApproval := required, approvalGateId := gateId
             approvalAmount := amount, assignedTeamId := teamId, version := version }

variable {β : Type*} {π : Task → β} {B : β → Prop}

/-- Columns other than those. -/
def UnfurnishedColumns (π : Task → β) : Prop :=
  ∀ t sla required gateId amount teamId version, π { t with
    sla := sla, requiresApproval := required, approvalGateId := gateId, approvalAmount := amount
    assignedTeamId := teamId, version := version } = π t

/-- What the SLA, the gate and the team of a task do: its row is rewritten, and events are
    added. -/
structure Furnishes (taskId : Id) (s s' : Store) : Prop where
  tasks : ∃ f : Task → Task, (∀ t : Task, t.Furnished (f t)) ∧ s'.tasks = s.tasks.updateAt taskId f
  cases : s'.cases = s.cases
  caseTypes : s'.caseTypes = s.caseTypes
  outbox : s.outbox.rows.length ≤ s'.outbox.rows.length

namespace Furnishes

theorem refl (taskId : Id) (s : Store) : Furnishes taskId s s :=
  ⟨⟨id, fun _ => ⟨_, _, _, _, _, _, le_rfl, rfl⟩, (Table.updateAt_id _ _).symm⟩, rfl, rfl, le_rfl⟩

theorem trans {s'' : Store} (h : Furnishes taskId s s') (h' : Furnishes taskId s' s'') :
    Furnishes taskId s s'' := by
  obtain ⟨f, hf, htasks⟩ := h.tasks
  obtain ⟨g, hg, htasks'⟩ := h'.tasks
  refine ⟨⟨fun t => g (f t), fun t => ?_, by rw [htasks', htasks, Table.updateAt_updateAt]⟩,
    h'.cases.trans h.cases, h'.caseTypes.trans h.caseTypes, h.outbox.trans h'.outbox⟩
  obtain ⟨_, _, _, _, _, _, hversion, heq⟩ := hf t
  obtain ⟨sla, required, gateId, amount, teamId, version, hversion', heq'⟩ := hg (f t)
  rw [heq] at hversion'
  refine ⟨sla, required, gateId, amount, teamId, version, hversion.trans hversion', heq'.trans ?_⟩
  rw [heq]

theorem persistSLA (s : Store) (taskId : Id) (resolved : Option (SLADefinition × Deadline)) :
    Furnishes taskId s (persistSLA s taskId resolved) := by
  cases resolved with
  | none => exact refl taskId s
  | some r =>
    exact ⟨⟨fun t => { t with
      sla := t.sla.snapshot t.createdAt r.1 r.2, version := t.version + 1 },
      fun _ => ⟨_, _, _, _, _, _, Nat.le_succ _, rfl⟩, rfl⟩, rfl, rfl, le_rfl⟩

theorem createGateIfNeeded
    (h : createGateIfNeeded ctx s caseId taskId taskDef config amount = .ok s') :
    Furnishes taskId s s' := by
  rcases createGateIfNeeded_step h with ⟨-, rfl⟩ | ⟨-, approval, gateId, happroval, hgate⟩
  · exact refl taskId s'
  · obtain ⟨step⟩ := createApprovalGateForTask_step happroval hgate
    obtain ⟨e, houtbox⟩ := createApprovalGateForTask_outbox hgate
    refine ⟨⟨_, fun t => ?_, step.tasks⟩, step.cases, step.caseTypes, ?_⟩
    · exact ⟨_, _, _, _, _, _, Nat.le_succ _, rfl⟩
    · rw [houtbox, Table.length_insert]
      exact Nat.le_succ _

theorem assignDefaultTeam (lib : Library) (ctx : Ctx) (s : Store) (tenantId : String)
    (caseId taskId : Id) (taskDef : TaskDefinition) :
    Furnishes taskId s (assignDefaultTeam lib ctx s tenantId caseId taskId taskDef) := by
  unfold LoanWorkflow.assignDefaultTeam
  simp only
  split
  · exact refl taskId s
  · split
    · exact refl taskId s
    · next teamId _ =>
      refine ⟨⟨fun t => t.assignTeam teamId, fun _ => ?_, rfl⟩, rfl, rfl, ?_⟩
      · exact ⟨_, _, _, _, _, _, Nat.le_succ _, rfl⟩
      · simp [Store.publish, Store.updateTask, Table.length_insert]

/-- The other columns are left alone. -/
theorem grows (hπ : UnfurnishedColumns π) (h : Furnishes taskId s s') :
    s.tasks.Grows π B s'.tasks := by
  obtain ⟨f, hf, htasks⟩ := h.tasks
  rw [htasks]
  refine .updateAt fun t => ?_
  obtain ⟨_, _, _, _, _, _, -, heq⟩ := hf t
  rw [heq, hπ]

end Furnishes

theorem createTask_grows (s : Store) (task : Task) :
    s.tasks.Grows π (· = π task) (createTask s task).2.tasks := by
  unfold createTask
  split
  · exact .refl _ _ _
  · exact .insert rfl

/-- Creation adds tasks with a core in `B` and leaves cases and case types alone. -/
structure CreationFrame (B : TaskOrigin × TaskStatus → Prop) (s s' : Store) : Prop where
  tasks : s.tasks.Grows Task.core B s'.tasks
  cases : s'.cases = s.cases
  caseTypes : s'.caseTypes = s.caseTypes

namespace CreationFrame

variable {B : TaskOrigin × TaskStatus → Prop} {s'' : Store}

theorem refl (B : TaskOrigin × TaskStatus → Prop) (s : Store) : CreationFrame B s s :=
  ⟨.refl _ _ _, rfl, rfl⟩

theorem trans (h : CreationFrame B s s') (h' : CreationFrame B s' s'') : CreationFrame B s s'' :=
  ⟨h.tasks.trans h'.tasks, h'.cases.trans h.cases, h'.caseTypes.trans h.caseTypes⟩

theorem mono {C : TaskOrigin × TaskStatus → Prop} (h : CreationFrame B s s')
    (hBC : ∀ core, B core → C core) : CreationFrame C s s' :=
  ⟨h.tasks.mono hBC, h.cases, h.caseTypes⟩

theorem of_furnishes (h : Furnishes taskId s s') : CreationFrame B s s' :=
  ⟨h.grows fun _ _ _ _ _ _ _ => rfl, h.cases, h.caseTypes⟩

end CreationFrame

theorem createTask_frame (s : Store) (task : Task) :
    CreationFrame (· = task.core) s (createTask s task).2 := by
  unfold createTask
  split
  · exact .refl _ s
  · exact ⟨.insert rfl, rfl, rfl⟩

/-- After `createTask` there is a task under the key. -/
theorem createTask_get? (s : Store) (task : Task) :
    ∃ t, (createTask s task).2.tasks.get? (createTask s task).1 = some t ∧
      t.idempotencyKey = task.idempotencyKey := by
  unfold createTask
  split
  · next taskId t hfind =>
    obtain ⟨hget, hkey⟩ := Table.find?_eq_some hfind
    exact ⟨t, hget, beq_iff_eq.mp hkey⟩
  · exact ⟨task, by simp, rfl⟩

/-- The pieces of one pass of the loop: the definition was blocked, or its task was created
    or found and then given its SLA, its gate and its team. -/
theorem createStageTask_step
    (h : createStageTask lib ctx before caseId c stageCode config s entry = .ok s') :
    (∃ sourceTask sourceField e, s' = s.publish e ∧
        taskInputs before caseId entry.2 = .error (.dependency sourceTask sourceField)) ∨
      ∃ payload amount resolved s₁,
        let created := createTask s
          (newTask ctx.now caseId stageCode entry.1.code entry.2 payload amount resolved)
        createGateIfNeeded ctx (persistSLA created.2 created.1 resolved) caseId created.1 entry.2
            config amount = .ok s₁ ∧
          s' = assignDefaultTeam lib ctx s₁ c.tenantId caseId created.1 entry.2 ∧
          taskInputs before caseId entry.2 = .ok payload ∧
          resolveDeadline ctx config stageCode entry.1.code entry.2 = .ok resolved ∧
          Furnishes created.1 created.2 s' := by
  unfold createStageTask at h
  simp only at h
  split at h
  · next sourceTask sourceField hblocked =>
    cases h
    exact Or.inl ⟨sourceTask, sourceField, _, rfl, hblocked⟩
  · cases h
  · next payload hinputs =>
    obtain ⟨-, -, h⟩ := bind_ok h
    obtain ⟨amount, -, h⟩ := bind_ok h
    obtain ⟨resolved, hresolved, h⟩ := bind_ok h
    obtain ⟨s₁, hgate, h⟩ := bind_ok h
    cases h
    refine Or.inr ⟨payload, amount, resolved, s₁, hgate, rfl, hinputs, hresolved, ?_⟩
    exact ((Furnishes.persistSLA _ _ _).trans (.createGateIfNeeded hgate)).trans
      (.assignDefaultTeam lib ctx s₁ _ _ _ _)

/-- Columns that the SLA, the gate and the team of a task leave alone are those of earlier rows
    or of the new task. -/
theorem createStageTask_columns (hπ : UnfurnishedColumns π)
    (h : createStageTask lib ctx before caseId c stageCode config s entry = .ok s') :
    s.tasks.Grows π (fun columns => ∃ payload amount resolved,
      resolveDeadline ctx config stageCode entry.1.code entry.2 = .ok resolved ∧
      columns = π (newTask ctx.now caseId stageCode entry.1.code entry.2 payload amount resolved))
      s'.tasks := by
  rcases createStageTask_step h with
    ⟨_, _, e, rfl, -⟩ | ⟨payload, amount, resolved, s₁, -, -, -, hresolved, hrest⟩
  · exact .refl _ _ _
  · refine ((createTask_grows s _).mono fun columns heq => ?_).trans (hrest.grows hπ)
    exact ⟨payload, amount, resolved, hresolved, heq⟩

def Startable (s : Store) (caseId : Id) (entry : ActivityConfig × TaskDefinition) : Prop :=
  ∃ payload, taskInputs s caseId entry.2 = .ok payload

/-- One pass adds at most the pending task of its definition, and only if it can start. -/
theorem createStageTask_frame
    (h : createStageTask lib ctx before caseId c stageCode config s entry = .ok s') :
    CreationFrame (fun core => core = (definitionOrigin caseId stageCode entry, .pending) ∧
      Startable before caseId entry) s s' := by
  rcases createStageTask_step h with
    ⟨_, _, e, rfl, -⟩ | ⟨payload, amount, resolved, s₁, -, -, hinputs, -, hrest⟩
  · exact ⟨.refl _ _ _, rfl, rfl⟩
  · refine CreationFrame.mono ?_ fun core hcore => ⟨hcore, payload, hinputs⟩
    exact (createTask_frame s _).trans (.of_furnishes hrest)

/-- One pass leaves a task under the key of its definition, unless it was blocked. -/
theorem createStageTask_has (hinputs : ∀ sourceTask sourceField,
      taskInputs before caseId entry.2 ≠ .error (.dependency sourceTask sourceField))
    (h : createStageTask lib ctx before caseId c stageCode config s entry = .ok s') :
    ∃ k t, s'.tasks.get? k = some t ∧
      t.idempotencyKey = (definitionOrigin caseId stageCode entry).key := by
  rcases createStageTask_step h with
    ⟨sourceTask, sourceField, _, _, hblocked⟩ |
      ⟨payload, amount, resolved, s₁, -, -, -, -, hrest⟩
  · exact absurd hblocked (hinputs sourceTask sourceField)
  · obtain ⟨t, hget, hkey⟩ := createTask_get? s
      (newTask ctx.now caseId stageCode entry.1.code entry.2 payload amount resolved)
    -- the later pieces keep the task and its key
    have hkeys : Table.Grows Task.idempotencyKey (fun _ => False) _ s'.tasks :=
      hrest.grows fun _ _ _ _ _ _ _ => rfl
    obtain ⟨t', hget', hkey'⟩ := hkeys.keeps _ t hget
    exact ⟨_, t', hget', hkey'.trans hkey⟩

variable (h : createTasksForStage lib ctx caseId stageCode st config s = .ok s')

include h

/-- The loop over a stage. -/
theorem createTasksForStage_step : ∃ c, s.cases.get? caseId = some c ∧
      st.definitions.foldlM (createStageTask lib ctx s caseId c stageCode config) s = .ok s' := by
  obtain ⟨c, hc, h⟩ := bind_ok h
  obtain ⟨-, -, h⟩ := bind_ok h
  exact ⟨c, orFail_eq_ok.mp hc, h⟩

/-- The loop adds at most the pending tasks of the definitions of the stage that can start. -/
theorem createTasksForStage_frame : CreationFrame (fun core => ∃ entry ∈ st.definitions,
      core = (definitionOrigin caseId stageCode entry, .pending) ∧ Startable s caseId entry) s s' := by
  obtain ⟨c, -, hloop⟩ := createTasksForStage_step h
  refine foldlM_invariant (P := fun b => CreationFrame _ s b) ?_ (.refl _ s) hloop
  intro b entry b' hentry hframe hpass
  exact hframe.trans ((createStageTask_frame hpass).mono fun core hcore => ⟨entry, hentry, hcore⟩)

/-- A definition whose inputs are there has a task under its key after the loop. -/
theorem createTasksForStage_has (hentry : entry ∈ st.definitions)
    (hinputs : ∀ sourceTask sourceField,
      taskInputs s caseId entry.2 ≠ .error (.dependency sourceTask sourceField)) :
    ∃ k t, s'.tasks.get? k = some t ∧
      t.idempotencyKey = (definitionOrigin caseId stageCode entry).key := by
  obtain ⟨c, -, hloop⟩ := createTasksForStage_step h
  refine foldlM_of_mem (P := fun b => ∃ k t, b.tasks.get? k = some t ∧
    t.idempotencyKey = (definitionOrigin caseId stageCode entry).key) hentry ?_ ?_ hloop
  · intro b b' hpass
    exact createStageTask_has hinputs hpass
  · rintro b other b' - ⟨k, t, hget, hkey⟩ hpass
    -- a later pass keeps the task and its key
    obtain ⟨t', hget', hcore⟩ := (createStageTask_frame hpass).tasks.keeps k t hget
    have hkey' : t'.idempotencyKey = t.idempotencyKey := congrArg (fun x => x.1.key) hcore
    exact ⟨k, t', hget', hkey'.trans hkey⟩

end LoanWorkflow
