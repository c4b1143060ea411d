import LoanWorkflow.Framework.Machine
import LoanWorkflow.Engine.Orchestrator
import LoanWorkflow.Engine.TaskStatus
import LoanWorkflow.Versioning.Validation

/-! # Stages are left when they are finished

    Events reach the orchestrator in any order, late and more than once. The
    handler of a finished activity checks the stage that the event names, and
    moves the case out of the stage that is stored on it. The two can differ.

    - `stages_left_finished`: along every run of such steps a stage is left only
      when it is finished
-/

namespace LoanWorkflow

open List Table Machine

variable {entry : ActivityConfig × TaskDefinition} {config : CaseTypeConfig} {ctx : Ctx}
  {caseId : Id} {lib : Library} {st : StageDefinition} {s s' : Store} {stageCode : String}
  {event : Event}

/-! ## The machine -/

/-- The handlers of the orchestrator, and the status changes of tasks between them. -/
inductive OrchestratorOp where
  | taskCompleted (ctx : Ctx) (event : Event)
  | activityCompleted (ctx : Ctx) (event : Event)
  | stageChanged (ctx : Ctx) (event : Event)
  | updateTaskStatus (ctx : Ctx) (taskId : Id) (newStatus : TaskStatus)
      (output errorDetail : Option Json)

def OrchestratorOp.exec (lib : Library) : OrchestratorOp → Store → Except Err Store
  | .taskCompleted ctx event => onTaskCompleted lib ctx event
  | .activityCompleted ctx event => onActivityCompleted ctx event
  | .stageChanged ctx event => onCaseStageChanged lib ctx event
  | .updateTaskStatus ctx taskId newStatus output errorDetail =>
    LoanWorkflow.updateTaskStatus lib ctx taskId newStatus output errorDetail

/-! ## Finished stages -/

def HasTask (s : Store) (caseId : Id) (stageCode : String)
    (entry : ActivityConfig × TaskDefinition) : Prop :=
  ∃ k t, s.tasks.get? k = some t ∧ t.caseId = caseId ∧ t.stageCode = stageCode ∧
    t.activityCode = entry.1.code ∧ t.taskDefinitionCode = entry.2.code

/-- Every task definition of the stage has a task, and every task of the stage is done. -/
structure StageFinished (s : Store) (caseId : Id) (stageCode : String)
    (config : CaseTypeConfig) : Prop where
  created : ∀ st, findStage config stageCode = some st →
    ∀ entry ∈ st.definitions, HasTask s caseId stageCode entry
  done : ∀ k t, s.tasks.get? k = some t → t.caseId = caseId → t.stageCode = stageCode →
    t.status.isDone = true

/-- A case that a step moves out of its stage had finished that stage. -/
def LeavesFinished (s : Store) (_ : OrchestratorOp) (s' : Store) : Prop :=
  ∀ caseId c c' ct stageCode, s.cases.get? caseId = some c → s'.cases.get? caseId = some c' →
    s.caseTypes.get? c.caseTypeId = some ct → c.currentStageCode = some stageCode →
    c'.currentStageCode ≠ some stageCode → StageFinished s caseId stageCode ct.config

/-- The configurations in use were accepted by `ValidateCaseTypeConfig`. -/
def AcceptedTypes (s : Store) : Prop :=
  ∀ k ct, s.caseTypes.get? k = some ct → validateCaseTypeConfig ct.config = []

/-- A stage of which a case has a task has them all, in its own activities. -/
def WellStaged (s : Store) : Prop :=
  ∀ k t c ct st, s.tasks.get? k = some t → s.cases.get? t.caseId = some c →
    s.caseTypes.get? c.caseTypeId = some ct → findStage ct.config t.stageCode = some st →
      (∃ a ∈ st.activities, a.code = t.activityCode) ∧
        ∀ entry ∈ st.definitions, HasTask s t.caseId t.stageCode entry

/-- A definition has its task already, or nothing stands in the way of creating it: its inputs
    are there, its key is free, and no other definition of the stage has the same key. -/
def Creatable (s : Store) (caseId : Id) (stageCode : String) (st : StageDefinition)
    (entry : ActivityConfig × TaskDefinition) : Prop :=
  HasTask s caseId stageCode entry ∨
    (∀ sourceTask sourceField,
      taskInputs s caseId entry.2 ≠ .error (.dependency sourceTask sourceField)) ∧
    (∀ k t, s.tasks.get? k = some t →
      t.idempotencyKey ≠ (definitionOrigin caseId stageCode entry).key) ∧
    ∀ other ∈ st.definitions,
      (definitionOrigin caseId stageCode other).key = (definitionOrigin caseId stageCode entry).key →
        definitionOrigin caseId stageCode other = definitionOrigin caseId stageCode entry

/-- What a step needs. An event of a finished activity that would move the case finds the
    stored stage as complete as the stage it names; an event of a changed stage finds every
    definition of the stage ready. -/
def OrchestratorOp.InOrder (s : Store) : OrchestratorOp → Prop
  | .activityCompleted _ event =>
    ∀ caseId c config st stageCode, loadCase s event = .ok (caseId, c, config) →
      findStage config (event.payload.strField "stage_code") = some st →
      stageComplete s caseId st = true → (findNextStage config c.currentStageOrdinal).isSome →
      c.currentStageCode = some stageCode →
        ∃ current, findStage config stageCode = some current ∧
          stageComplete s caseId current = true
  | .stageChanged _ event =>
    ∀ caseId c config st, loadCase s event = .ok (caseId, c, config) →
      findStage config (event.payload.strField "to_stage") = some st →
        ∀ entry ∈ st.definitions,
          Creatable s caseId (event.payload.strField "to_stage") st entry
  | _ => True

/-! ## Deciding what a step did -/

theorem hasTask_iff : HasTask s caseId stageCode entry ↔
      0 < s.tasks.count (fun t => t.caseId == caseId && t.stageCode == stageCode &&
        t.activityCode == entry.1.code && t.taskDefinitionCode == entry.2.code) := by
  simp only [HasTask, count_pos, Bool.and_eq_true, beq_iff_eq, and_assoc]

instance (s : Store) (caseId : Id) (stageCode : String) (entry : ActivityConfig × TaskDefinition) :
    Decidable (HasTask s caseId stageCode entry) := decidable_of_iff' _ hasTask_iff

theorem stageFinished_iff :
    StageFinished s caseId stageCode config ↔
      (∀ st ∈ findStage config stageCode, ∀ entry ∈ st.definitions,
        HasTask s caseId stageCode entry) ∧
      ∀ r ∈ s.tasks.rows, r.2.caseId = caseId → r.2.stageCode = stageCode →
        r.2.status.isDone = true := by
  constructor
  · intro h
    exact ⟨h.created, fun r hr => h.done r.1 r.2 (get?_eq_some_iff.mpr hr)⟩
  · rintro ⟨hcreated, hdone⟩
    exact ⟨hcreated, fun k t hget => hdone (k, t) (get?_eq_some_iff.mp hget)⟩

instance (s : Store) (caseId : Id) (stageCode : String) (config : CaseTypeConfig) :
    Decidable (StageFinished s caseId stageCode config) := decidable_of_iff' _ stageFinished_iff

theorem leavesFinished_iff {op : OrchestratorOp} : LeavesFinished s op s' ↔
    ∀ r ∈ s.cases.rows, ∀ c' ∈ s'.cases.get? r.1, ∀ ct ∈ s.caseTypes.get? r.2.caseTypeId,
      ∀ stageCode ∈ r.2.currentStageCode, c'.currentStageCode ≠ some stageCode →
        StageFinished s r.1 stageCode ct.config := by
  constructor
  · intro h r hr c' hc' ct hct stageCode hstage hleft
    exact h r.1 r.2 c' ct stageCode (get?_eq_some_iff.mpr hr) hc' hct hstage hleft
  · intro h caseId c c' ct stageCode hc hc' hct hstage hleft
    exact h (caseId, c) (get?_eq_some_iff.mp hc) c' hc' ct hct stageCode hstage hleft

instance (s s' : Store) (op : OrchestratorOp) : Decidable (LeavesFinished s op s') :=
  decidable_of_iff' _ leavesFinished_iff

theorem acceptedTypes_iff : AcceptedTypes s ↔
    ∀ r ∈ s.caseTypes.rows, validateCaseTypeConfig r.2.config = [] := by
  constructor
  · intro h r hr
    exact h r.1 r.2 (get?_eq_some_iff.mpr hr)
  · intro h k ct hct
    exact h (k, ct) (get?_eq_some_iff.mp hct)

instance (s : Store) : Decidable (AcceptedTypes s) := decidable_of_iff' _ acceptedTypes_iff

theorem wellStaged_iff : WellStaged s ↔
    ∀ r ∈ s.tasks.rows, ∀ c ∈ s.cases.get? r.2.caseId, ∀ ct ∈ s.caseTypes.get? c.caseTypeId,
      ∀ st ∈ findStage ct.config r.2.stageCode,
        (∃ a ∈ st.activities, a.code = r.2.activityCode) ∧
          ∀ entry ∈ st.definitions, HasTask s r.2.caseId r.2.stageCode entry := by
  constructor
  · intro h r hr c hc ct hct st hst
    exact h r.1 r.2 c ct st (get?_eq_some_iff.mpr hr) hc hct hst
  · intro h k t c ct st hget hc hct hst
    exact h (k, t) (get?_eq_some_iff.mp hget) c hc ct hct st hst

instance (s : Store) : Decidable (WellStaged s) := decidable_of_iff' _ wellStaged_iff

/-! ## Complete stages are finished -/

theorem findStage_eq_some
    (h : findStage config stageCode = some st) : st ∈ config.stages ∧ st.code = stageCode :=
  ⟨mem_of_find?_eq_some h, by simpa using find?_some h⟩

theorem activityComplete_spec {activityCode : String}
    (h : activityComplete s caseId stageCode activityCode = true) :
    (∃ k t, s.tasks.get? k = some t ∧ t.caseId = caseId ∧ t.stageCode = stageCode) ∧
      ∀ k t, s.tasks.get? k = some t → t.caseId = caseId → t.stageCode = stageCode →
        t.activityCode = activityCode → t.status.isDone = true := by
  obtain ⟨⟨k, t, ht, hcase, hstage, -⟩, hall⟩ := activityComplete_iff.mp h
  refine ⟨⟨k, t, ht, hcase, hstage⟩, ?_⟩
  intro j t' ht' hcase' hstage' hactivity'
  exact hall j t' ht' ⟨hcase', hstage', hactivity'⟩

/-- The orchestrator's own check is enough for a well staged case of an accepted type. -/
theorem stageFinished_of_complete {c : CaseInstance} {ct : CaseType} (haccepted : AcceptedTypes s)
    (hstaged : WellStaged s) (hc : s.cases.get? caseId = some c)
    (hct : s.caseTypes.get? c.caseTypeId = some ct)
    (hst : findStage ct.config stageCode = some st) (hcomplete : stageComplete s caseId st = true) :
    StageFinished s caseId stageCode ct.config := by
  obtain ⟨hmem, hcode⟩ := findStage_eq_some hst
  have hactivities : ∀ a ∈ st.activities, activityComplete s caseId stageCode a.code = true := by
    intro a ha
    rw [← hcode]
    exact all_eq_true.mp hcomplete a ha
  constructor
  · -- an accepted stage has an activity, which has a task, so the stage has them all
    intro st' hst' entry hentry
    have hnonempty := activities_ne_nil_of_accepted (haccepted _ ct hct) hmem
    obtain ⟨a, ha⟩ := exists_mem_of_ne_nil _ hnonempty
    obtain ⟨k, t, hget, rfl, rfl⟩ := (activityComplete_spec (hactivities a ha)).1
    exact (hstaged k t c ct st' hget hc hct hst').2 entry hentry
  · intro k t hget hcase hstage
    subst hcase hstage
    -- the task lies in an activity of the stage, and that activity is complete
    obtain ⟨a, ha, hactivity⟩ := (hstaged k t c ct st hget hc hct hst).1
    exact (activityComplete_spec (hactivities a ha)).2 k t hget rfl rfl hactivity.symm

/-! ## Steps keep the invariant -/

/-- The invariant of the orchestrator. -/
structure Staged (s : Store) : Prop where
  accepted : AcceptedTypes s
  staged : WellStaged s

/-- Growing tables keep the tasks of definitions. -/
theorem HasTask.grow {B : TaskOrigin → Prop} (h : HasTask s caseId stageCode entry)
    (htasks : s.tasks.Grows Task.origin B s'.tasks) : HasTask s' caseId stageCode entry := by
  obtain ⟨k, t, hget, hcase, hstage, hactivity, hcode⟩ := h
  obtain ⟨t', hget', horigin⟩ := htasks.keeps k t hget
  simp only [Task.origin, TaskOrigin.mk.injEq] at horigin
  obtain ⟨-, hcase', hstage', hactivity', hcode'⟩ := horigin
  exact ⟨k, t', hget', hcase'.trans hcase, hstage'.trans hstage, hactivity'.trans hactivity,
    hcode'.trans hcode⟩

theorem hasTask_of_origin {k : Id} {t : Task} (hget : s.tasks.get? k = some t)
    (horigin : t.origin = definitionOrigin caseId stageCode entry) :
    HasTask s caseId stageCode entry := by
  simp only [Task.origin, definitionOrigin, TaskOrigin.mk.injEq] at horigin
  obtain ⟨-, hcase, hstage, hactivity, hcode⟩ := horigin
  exact ⟨k, t, hget, hcase, hstage, hactivity, hcode⟩

/-- The invariant is about where tasks and cases are, so it survives a step that adds none. -/
theorem Staged.of_places (hinv : Staged s)
    (htasks : s.tasks.Grows Task.origin (fun _ => False) s'.tasks)
    (hcases : s.cases.Grows CaseInstance.caseTypeId (fun _ => False) s'.cases)
    (htypes : s'.caseTypes = s.caseTypes) : Staged s' := by
  refine ⟨?_, ?_⟩
  · intro k ct hct
    rw [htypes] at hct
    exact hinv.accepted k ct hct
  · intro k t' c' ct st hget' hc' hct hst
    rw [htypes] at hct
    -- the task and its case were there before, in the same place
    obtain ⟨t, hget, horigin⟩ := htasks.old hget'
    obtain ⟨c, hc, htype⟩ := hcases.old hc'
    simp only [Task.origin, TaskOrigin.mk.injEq] at horigin
    obtain ⟨-, hcase, hstage, hactivity, -⟩ := horigin
    rw [hcase] at hc ⊢
    rw [hstage] at hst ⊢
    rw [htype] at hct
    obtain ⟨hplaced, hwhole⟩ := hinv.staged k t c ct st hget hc hct hst
    rw [hactivity]
    exact ⟨hplaced, fun entry hentry => (hwhole entry hentry).grow htasks⟩

theorem StaysFrame.staged (h : StaysFrame s s') (hinv : Staged s) : Staged s' :=
  hinv.of_places h.tasks (h.cases.comp Prod.fst fun _ => id) h.caseTypes

theorem StaysFrame.leavesFinished (h : StaysFrame s s') (op : OrchestratorOp) :
    LeavesFinished s op s' := by
  intro caseId c c' ct stageCode hc hc' hct hstage hleft
  obtain ⟨c'', hc'', hplace⟩ := h.cases.keeps caseId c hc
  rw [hc'] at hc''
  cases hc''
  exact absurd ((congrArg Prod.snd hplace).trans hstage) hleft

/-- A status change moves no task and no case. -/
theorem StaysFrame.updateTaskStatus {taskId : Id}
    {newStatus : TaskStatus} {output errorDetail : Option Json}
    (h : updateTaskStatus lib ctx taskId newStatus output errorDetail s = .ok s') :
    StaysFrame s s' := by
  obtain ⟨t, s₁, -, -, -, hactivated, hclock⟩ := updateTaskStatus_step h
  have hwritten : StaysFrame s
      (s.updateTask taskId (fun t => t.advance newStatus output errorDetail ctx.now)) :=
    ⟨.updateAt (f := fun t : Task => t.advance newStatus output errorDetail ctx.now) fun _ => rfl,
      .refl _ _ _, rfl⟩
  have hopened : StaysFrame
      (s.updateTask taskId (fun t => t.advance newStatus output errorDetail ctx.now)) s₁ := by
    rcases activateOnStart_step hactivated with rfl | ⟨gateId, gate, -, -, -, hstep⟩
    · exact .refl _
    · cases hstep with
      | unchanged => exact .refl _
      | reopened => exact ⟨.refl _ _ _, .refl _ _ _, rfl⟩
      | opened => exact ⟨.updateAt fun _ => rfl, .refl _ _ _, rfl⟩
  have hrest : StaysFrame s₁ s' :=
    ⟨hclock.tasks.comp Prod.fst fun _ => id, .of_eq hclock.cases, hclock.caseTypes⟩
  exact (hwritten.trans hopened).trans hrest

/-- Every definition of a stage whose tasks were created has one. -/
theorem hasTask_of_created (h : createTasksForStage lib ctx caseId stageCode st config s = .ok s')
    (hentry : entry ∈ st.definitions) (hready : Creatable s caseId stageCode st entry) :
    HasTask s' caseId stageCode entry := by
  have hframe := createTasksForStage_frame h
  rcases hready with hhas | ⟨hinputs, hfree, hdistinct⟩
  · exact hhas.grow (hframe.tasks.comp (C := fun _ => True) Prod.fst fun _ _ => trivial)
  · obtain ⟨k, t', hget', hkey⟩ := createTasksForStage_has h hentry hinputs
    rcases hframe.tasks.adds k t' hget' with ⟨t, hget, hcore⟩ | ⟨other, hother, hcore, -⟩
    · -- the key was free
      have hkey' : t'.idempotencyKey = t.idempotencyKey := congrArg (fun x => x.1.key) hcore
      exact absurd (hkey'.symm.trans hkey) (hfree k t hget)
    · have horigin : t'.origin = definitionOrigin caseId stageCode other := congrArg Prod.fst hcore
      have hsame := hdistinct other hother (by rw [← horigin]; exact hkey)
      exact hasTask_of_origin hget' (horigin.trans hsame)

/-- Creating the tasks of a stage whose definitions are ready. -/
theorem stageChanged_staged
    (hinv : Staged s) (hready : OrchestratorOp.InOrder s (.stageChanged ctx event))
    (h : onCaseStageChanged lib ctx event s = .ok s') : Staged s' ∧ s'.cases = s.cases := by
  obtain ⟨⟨caseId, c, config⟩, hload, h⟩ := bind_ok h
  obtain ⟨st, hst, hcreated⟩ := bind_ok h
  rw [orFail_eq_ok] at hst
  have hframe := createTasksForStage_frame hcreated
  have hwhole : ∀ entry ∈ st.definitions,
      HasTask s' caseId (event.payload.strField "to_stage") entry := fun entry hentry =>
    hasTask_of_created hcreated hentry (hready caseId c config st hload hst entry hentry)
  refine ⟨⟨?_, ?_⟩, hframe.cases⟩
  · intro k ct hct
    rw [hframe.caseTypes] at hct
    exact hinv.accepted k ct hct
  · intro k t' c' ct st' hget' hc' hct hst'
    rw [hframe.cases] at hc'
    rw [hframe.caseTypes] at hct
    obtain ⟨hc, ct₀, hct₀, rfl⟩ := loadCase_ok hload
    rcases hframe.tasks.adds k t' hget' with ⟨t, hget, hcore⟩ | ⟨entry, hentry, hcore, -⟩
    · -- an old task: its stage was whole, and still is
      have horigin : t'.origin = t.origin := congrArg Prod.fst hcore
      simp only [Task.origin, TaskOrigin.mk.injEq] at horigin
      obtain ⟨-, hcase, hstage, hactivity, -⟩ := horigin
      rw [hcase] at hc' ⊢
      rw [hstage] at hst' ⊢
      rw [hactivity]
      obtain ⟨hplaced, hall⟩ := hinv.staged k t c' ct st' hget hc' hct hst'
      exact ⟨hplaced, fun entry hentry => (hall entry hentry).grow
        (hframe.tasks.comp (C := fun _ => True) Prod.fst fun _ _ => trivial)⟩
    · -- a new task lies in the entered stage
      have horigin : t'.origin = definitionOrigin caseId (event.payload.strField "to_stage") entry :=
        congrArg Prod.fst hcore
      simp only [Task.origin, definitionOrigin, TaskOrigin.mk.injEq] at horigin
      obtain ⟨-, hcase, hstage, hactivity, -⟩ := horigin
      rw [hcase, hc] at hc'
      cases hc'
      rw [hct₀] at hct
      cases hct
      rw [hstage, hst] at hst'
      cases hst'
      rw [hcase, hstage, hactivity]
      obtain ⟨a, ha, hmem⟩ := mem_flatMap.mp hentry
      obtain ⟨d, -, rfl⟩ := mem_map.mp hmem
      exact ⟨⟨a, ha, rfl⟩, hwhole⟩

/-- Moving a case whose stored stage is complete. -/
theorem activityCompleted_staged (hinv : Staged s)
    (horder : OrchestratorOp.InOrder s (.activityCompleted ctx event))
    (h : onActivityCompleted ctx event s = .ok s') :
    Staged s' ∧ LeavesFinished s (.activityCompleted ctx event) s' := by
  rcases onActivityCompleted_step h with
    hstays | ⟨caseId, c, config, st, next, s₁, e, hload, hst, hcomplete, hnext, hmoved, rfl⟩
  · exact ⟨hstays.staged hinv, hstays.leavesFinished _⟩
  obtain ⟨hc, ct, hct, rfl⟩ := loadCase_ok hload
  obtain ⟨c₀, hc₀, -, hstep⟩ := recordStageTransition_step hmoved
  have hothers : s.cases.AgreesOff caseId s₁.cases := hstep.cases_others
  constructor
  · cases hstep with
    | stay => exact ⟨hinv.accepted, hinv.staged⟩
    | move ct' =>
      refine hinv.of_places (.refl _ _ _) ?_ rfl
      exact .updateAt (f := fun c : CaseInstance => c.moveTo next.code next.sequenceOrder) fun _ => rfl
  · intro k d d' dt stageCode hd hd' hdt hstage hleft
    by_cases hk : k = caseId
    · subst hk
      rw [hc] at hd
      cases hd
      rw [hct] at hdt
      cases hdt
      obtain ⟨current, hcurrent, hdone⟩ :=
        horder k c ct.config st stageCode hload hst hcomplete (by rw [hnext]; rfl) hstage
      exact stageFinished_of_complete hinv.accepted hinv.staged hc hct hcurrent hdone
    · -- another case does not move
      have hsame : s₁.cases.get? k = s.cases.get? k := hothers k hk
      have heq : some d' = some d := by rw [← hd', ← hd]; exact hsame
      cases heq
      exact absurd hstage hleft

/-- Every step that meets its condition keeps the invariant and leaves no stage early. -/
theorem OrchestratorOp.step {op : OrchestratorOp} (hinv : Staged s)
    (horder : op.InOrder s) (h : op.exec lib s = .ok s') : Staged s' ∧ LeavesFinished s op s' := by
  match op with
  | .taskCompleted ctx event =>
    have hstays : StaysFrame s s' := .onTaskCompleted h
    exact ⟨hstays.staged hinv, hstays.leavesFinished _⟩
  | .activityCompleted ctx event => exact activityCompleted_staged hinv horder h
  | .stageChanged ctx event =>
    obtain ⟨hstaged, hcases⟩ := stageChanged_staged hinv horder h
    refine ⟨hstaged, ?_⟩
    intro caseId c c' ct stageCode hc hc' _ hstage hleft
    rw [hcases, hc] at hc'
    cases hc'
    exact absurd hstage hleft
  | .updateTaskStatus ctx taskId newStatus output errorDetail =>
    have hstays : StaysFrame s s' := .updateTaskStatus h
    exact ⟨hstays.staged hinv, hstays.leavesFinished _⟩

/-- Along every run from a well staged store whose steps meet their condition, a case leaves a
    stage only when every task definition of the stage has a task and every task of the stage
    is done. -/
theorem stages_left_finished (lib : Library) (s : Store) (ops : List OrchestratorOp)
    (haccepted : AcceptedTypes s) (hstaged : WellStaged s)
    (horder : Guarded (OrchestratorOp.exec lib) (fun s op => op.InOrder s) s ops) :
    Along (OrchestratorOp.exec lib) LeavesFinished s ops := by
  refine (Guarded.along (I := Staged) ?_ ?_ ⟨haccepted, hstaged⟩ horder).2
  · intro s op s' hinv hop h
    exact OrchestratorOp.step hinv hop h
  · intro s op _
    exact (StaysFrame.refl s).leavesFinished op

/-! ## Runs that leave a stage early -/

/-- A task definition that passes the validation. -/
def deskTask (code : String) (inputs : List TaskInputDefinition) : TaskDefinition where
  code := code
  config := some (.obj [("assigned_service", .str "desk")])
  retryPolicy := some
    { maxRetries := 3, backoffStrategy := .fixed
      baseIntervalSeconds := 60, maxIntervalSeconds := 60 }
  inputs := inputs

def deskStage (code : String) (sequenceOrder : Int) (taskDefs : List TaskDefinition) :
    StageDefinition where
  code := code
  sequenceOrder := sequenceOrder
  activities := [{ code := "WORK", taskDefs := taskDefs }]

/-- A case at the start of a configuration whose first stage has the given tasks. -/
def atIntake (intakeTasks : List TaskDefinition) : Store where
  caseTypes := Table.empty.insert
    { config := { stages := [deskStage "INTAKE" 1 intakeTasks,
        deskStage "REVIEW" 2 [deskTask "ASSESS" []], deskStage "CLOSING" 3 [deskTask "SIGN" []]] } }
  cases := Table.empty.insert
    { caseTypeId := 0, currentStageCode := some "INTAKE", currentStageOrdinal := 1
      status := .inProgress }

/-- The event of a completed task. -/
def taskDone (taskId : Id) (stageCode : String) : Event where
  eventType := .taskCompleted
  caseId := some 0
  taskId := some taskId
  payload := .obj [("case_id", .uuid 0), ("task_id", .uuid taskId), ("stage_code", .str stageCode),
    ("activity_code", .str "WORK")]

def activityDone (stageCode : String) : Event where
  eventType := .activityCompleted
  caseId := some 0
  payload := .obj [("case_id", .uuid 0), ("stage_code", .str stageCode),
    ("activity_code", .str "WORK")]

def stageEntered (fromStage toStage : String) (order : Int) : Event where
  eventType := .caseStageChanged
  caseId := some 0
  payload := .obj [("case_id", .uuid 0), ("from_stage", .str fromStage), ("to_stage", .str toStage),
    ("to_stage_order", .num order)]

/-- The first stage is entered, its first task is completed, and both are announced. -/
def intakeRun : List OrchestratorOp :=
  [.stageChanged (.plain 1) (stageEntered "" "INTAKE" 1),
    .updateTaskStatus (.plain 2) 0 .completed none none,
    .taskCompleted (.plain 3) (taskDone 0 "INTAKE"),
    .activityCompleted (.plain 4) (activityDone "INTAKE")]

/-- Along the steps after the completion of the task, the intake is left when it is finished. -/
theorem stages_left_finished_intake :
    Along (OrchestratorOp.exec .plain) LeavesFinished
      (run (OrchestratorOp.exec .plain) (atIntake [deskTask "COLLECT" []])
        (intakeRun.take 2)) (intakeRun.drop 2) := by
  refine stages_left_finished .plain _ _ (by decide) (by decide) ⟨trivial, ?_, trivial⟩
  -- the event names the stage in which the only case of the store is
  intro caseId c config st stageCode hload hst hcomplete _ hstage
  have hcase := get?_eq_some_iff.mp (loadCase_ok hload).1
  have hall : ∀ r ∈ (run (OrchestratorOp.exec .plain) (atIntake [deskTask "COLLECT" []])
      (intakeRun.take 3)).cases.rows, r.2.currentStageCode = some "INTAKE" := by decide
  have hintake : stageCode = "INTAKE" := Option.some.inj (hstage.symm.trans (hall _ hcase))
  subst hintake
  exact ⟨st, hst, hcomplete⟩

/-- Two runs that leave a stage early. In the first, the completion of the intake is handled a
    second time when the case is in review, and moves it on while the task of the review is
    pending. In the second, every event is handled once, but a task of the intake waits for an
    input and is never created. -/
theorem stages_left_unfinished :
    let merging := deskTask "MERGE" [⟨"income", "COLLECT", "income", true⟩]
    let once := intakeRun ++ [.stageChanged (.plain 5) (stageEntered "INTAKE" "REVIEW" 2)]
    let twice := once ++ [.activityCompleted (.plain 6) (activityDone "INTAKE")]
    (AcceptedTypes (atIntake [deskTask "COLLECT" []]) ∧
        Along (OrchestratorOp.exec .plain) LeavesFinished
          (atIntake [deskTask "COLLECT" []]) once ∧
        ¬ Along (OrchestratorOp.exec .plain) LeavesFinished
          (atIntake [deskTask "COLLECT" []]) twice) ∧
      AcceptedTypes (atIntake [deskTask "COLLECT" [], merging]) ∧
        ¬ Along (OrchestratorOp.exec .plain) LeavesFinished
          (atIntake [deskTask "COLLECT" [], merging]) intakeRun := by
  refine ⟨⟨?_, ?_, ?_⟩, ?_, ?_⟩ <;> decide

end LoanWorkflow
