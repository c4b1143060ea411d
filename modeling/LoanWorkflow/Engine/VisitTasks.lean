import LoanWorkflow.Engine.Rework
import LoanWorkflow.Exception.Requeue

/-! # One task for each definition

    The handler of `CASE_STAGE_CHANGED` may run again for a stage it has
    handled. What keeps it from creating a second task is the idempotency key,
    the codes of stage, activity and task joined with colons. Two histories
    defeat it. A requeue gives the task another key, and the handler then finds
    the old key unused; and two definitions whose codes contain colons can have
    one key, so that the second gets no task.

    - `visits_create_each_task_once`: then both hold along every run
-/

namespace LoanWorkflow

variable {aside : Id → Prop} {t' : Task}
variable {e : ActivityConfig × TaskDefinition} {c : CaseInstance} {config : CaseTypeConfig}
  {ctx : Ctx} {event : Event} {caseId j k : Id} {lib : Library} {st : StageDefinition}
  {before s s' : Store} {stageCode : String} {t : Task}

/-! ## The property -/

/-- The codes of stage, activity and task definition. -/
def Task.codes (t : Task) : String × String × String :=
  (t.stageCode, t.activityCode, t.taskDefinitionCode)

/-- No two tasks of the case have the same codes, apart from those that are set aside: clones
    and compensations. -/
def OneTaskEach (aside : Id → Prop) (caseId : Id) (s : Store) : Prop :=
  ∀ j k t u, s.tasks.get? j = some t → s.tasks.get? k = some u → ¬ aside j → ¬ aside k →
    t.caseId = caseId → u.caseId = caseId → t.codes = u.codes → j = k

/-- The unique index of the idempotency keys. -/
def UniqueKeys (s : Store) : Prop :=
  ∀ j k t u, s.tasks.get? j = some t → s.tasks.get? k = some u →
    t.idempotencyKey = u.idempotencyKey → j = k

inductive VisitOp where
  | onCaseStageChanged (lib : Library) (ctx : Ctx) (event : Event)
  | requeueDLQEntry (call : RequeueCall)

def VisitOp.exec : VisitOp → Store → Except Err Store
  | .onCaseStageChanged lib ctx event, s => LoanWorkflow.onCaseStageChanged lib ctx event s
  | .requeueDLQEntry call, s => LoanWorkflow.requeueDLQEntry call s

/-- The event announces the stage `st` of the case. -/
def AnnouncesStage (s : Store) (event : Event) (caseId : Id) (st : StageDefinition) : Prop :=
  ∃ c config, loadCase s event = .ok (caseId, c, config) ∧
    findStage config (event.payload.strField "to_stage") = some st

/-- A handled announcement leaves a task for every definition of the stage that can start. -/
def VisitOp.Served (caseId : Id) (s : Store) (op : VisitOp) (s' : Store) : Prop :=
  match op with
  | .onCaseStageChanged lib ctx event =>
    LoanWorkflow.onCaseStageChanged lib ctx event s = .ok s' →
      ∀ st, AnnouncesStage s event caseId st → ∀ entry ∈ st.definitions, Startable s caseId entry →
        ∃ k t, s'.tasks.get? k = some t ∧
          t.isFor caseId (event.payload.strField "to_stage") entry
  | .requeueDLQEntry _ => True

/-- What the handler takes for granted about the keys of a stage: different definitions have
    different keys; and for a definition that can start, a task under its key is one of its own,
    and its own tasks are under its key. -/
structure KeysTell (aside : Id → Prop) (s : Store) (caseId : Id) (stageCode : String)
    (st : StageDefinition) : Prop where
  distinct : ∀ e ∈ st.definitions, ∀ e' ∈ st.definitions,
    definitionKey caseId stageCode e = definitionKey caseId stageCode e' →
      e.1.code = e'.1.code ∧ e.2.code = e'.2.code
  owned : ∀ e ∈ st.definitions, Startable s caseId e → ∀ j t, s.tasks.get? j = some t →
    t.idempotencyKey = definitionKey caseId stageCode e → t.isFor caseId stageCode e
  kept : ∀ e ∈ st.definitions, Startable s caseId e → ∀ j t, s.tasks.get? j = some t →
    ¬ aside j → t.isFor caseId stageCode e →
      t.idempotencyKey = definitionKey caseId stageCode e

/-- The condition on a step: the keys of an announced stage tell; a requeue is free. -/
def VisitOp.KeysTell (aside : Id → Prop) (caseId : Id) (s : Store) : VisitOp → Prop
  | .onCaseStageChanged _ _ event =>
    ∀ st, AnnouncesStage s event caseId st →
      LoanWorkflow.KeysTell aside s caseId (event.payload.strField "to_stage") st
  | .requeueDLQEntry _ => True

/-- Tasks of the case that were there before, with the same codes. -/
theorem OneTaskEach.of_rows (hone : OneTaskEach aside caseId s)
    (hrows : ∀ j t', s'.tasks.get? j = some t' → t'.caseId = caseId →
      ∃ t, s.tasks.get? j = some t ∧ t'.caseId = t.caseId ∧ t'.codes = t.codes) :
    OneTaskEach aside caseId s' := by
  intro j k t' u' ht' hu' hj hk hcaset hcaseu hcodes
  obtain ⟨t, ht, hct, hdt⟩ := hrows j t' ht' hcaset
  obtain ⟨u, hu, hcu, hdu⟩ := hrows k u' hu' hcaseu
  apply hone j k t u ht hu hj hk (hct.symm.trans hcaset) (hcu.symm.trans hcaseu)
  rw [← hdt, ← hdu, hcodes]

/-! ## Unique keys -/

section Keys

variable (hunique : UniqueKeys s)

include hunique

/-- Where no task is added and no key changes, keys stay unique. -/
theorem UniqueKeys.of_frame (h : CreationFrame (fun _ => False) s s') :
    UniqueKeys s' := by
  intro j k t' u' ht' hu' hkey
  obtain ⟨t, ht, hcore⟩ := h.tasks.old ht'
  obtain ⟨u, hu, hcore'⟩ := h.tasks.old hu'
  apply hunique j k t u ht hu
  rw [← Task.key_of_core hcore, ← Task.key_of_core hcore', hkey]

/-- A task is created only under an unused key. -/
theorem uniqueKeys_createTask (task : Task) :
    UniqueKeys (createTask s task).2 := by
  unfold createTask
  split
  · exact hunique
  · next hnone =>
    have hunused : UnusedKey s task.idempotencyKey := by
      intro j t ht
      exact ne_of_beq_false (Table.find?_eq_none hnone ht)
    intro j k t u ht hu hkey
    rw [Table.get?_insert] at ht hu
    split at ht
    · cases ht
      split at hu
      · next hj hk => rw [hj, hk]
      · exact absurd hkey.symm (hunused k u hu)
    · split at hu
      · cases hu
        exact absurd hkey (hunused j t ht)
      · exact hunique j k t u ht hu hkey

theorem uniqueKeys_createStageTask {entry : ActivityConfig × TaskDefinition}
    (h : createStageTask lib ctx before caseId c stageCode config s entry = .ok s') :
    UniqueKeys s' := by
  rcases createStageTask_step h with
    ⟨_, _, e, rfl, -⟩ | ⟨payload, amount, resolved, s₁, -, -, -, -, hrest⟩
  · exact hunique
  · exact (uniqueKeys_createTask hunique _).of_frame (.of_furnishes hrest)

theorem uniqueKeys_createTasksForStage
    (h : createTasksForStage lib ctx caseId stageCode st config s = .ok s') : UniqueKeys s' := by
  obtain ⟨c, -, hloop⟩ := createTasksForStage_step h
  refine foldlM_invariant (P := UniqueKeys) ?_ hunique hloop
  intro b entry b' _ hb hpass
  exact uniqueKeys_createStageTask hb hpass

end Keys

/-! ## A requeue -/

section Requeue

variable {call : RequeueCall} {entry : TaskDLQEntry}

variable (h : RequeueStep call entry t s s')

include h

/-- Each row after the requeue is one from before, apart from the key of the requeued task. -/
theorem RequeueStep.row_of_row {u' : Task}
    (hu' : s'.tasks.get? j = some u') :
    ∃ u, s.tasks.get? j = some u ∧ u'.caseId = u.caseId ∧ u'.codes = u.codes ∧
      u'.idempotencyKey =
        if j = entry.taskId then call.newIdempotency entry.taskId else u.idempotencyKey := by
  rw [h.tasks, Table.get?_updateAt] at hu'
  split at hu'
  · next hj =>
    subst hj
    rw [h.row] at hu'
    cases hu'
    exact ⟨t, h.row, rfl, rfl, (if_pos rfl).symm⟩
  · next hj => exact ⟨u', hu', rfl, rfl, (if_neg hj).symm⟩

theorem RequeueStep.uniqueKeys (hunique : UniqueKeys s) :
    UniqueKeys s' := by
  intro j k u' v' hu' hv' hkey
  obtain ⟨u, hu, -, -, hkeyu⟩ := h.row_of_row hu'
  obtain ⟨v, hv, -, -, hkeyv⟩ := h.row_of_row hv'
  rw [hkeyu, hkeyv] at hkey
  split at hkey
  · next hj =>
    split at hkey
    · next hk => rw [hj, hk]
    · next hk => exact absurd hkey.symm (h.free k v hv hk)
  · next hj =>
    split at hkey
    · exact absurd hkey (h.free j u hu hj)
    · exact hunique j k u v hu hv hkey

theorem RequeueStep.oneTaskEach
    (hone : OneTaskEach aside caseId s) : OneTaskEach aside caseId s' := by
  refine hone.of_rows fun j u' hu' _ => ?_
  obtain ⟨u, hu, hcase, hcodes, -⟩ := h.row_of_row hu'
  exact ⟨u, hu, hcase, hcodes⟩

end Requeue

/-! ## A handled announcement -/

section Stage

/-- A row after the loop: an old one, or the new task of a definition. -/
theorem createTasksForStage_row
    (h : createTasksForStage lib ctx caseId stageCode st config s = .ok s')
    (ht' : s'.tasks.get? j = some t') :
    (∃ t, s.tasks.get? j = some t ∧ t'.core = t.core) ∨
      ∃ e ∈ st.definitions, Startable s caseId e ∧ t'.isFor caseId stageCode e ∧
        t'.idempotencyKey = definitionKey caseId stageCode e := by
  rcases (createTasksForStage_frame h).tasks.adds j t' ht' with hold | ⟨e, he, hcore, hstart⟩
  · exact Or.inl hold
  · right
    refine ⟨e, he, hstart, (Task.isFor_of_core hcore).1, ?_⟩
    exact congrArg (fun core => core.1.key) hcore

theorem Task.codes_of_core (hcore : t'.core = t.core) : t'.codes = t.codes :=
  congrArg (fun core => (core.1.stageCode, core.1.activityCode, core.1.taskDefinitionCode)) hcore

theorem Task.caseId_of_core (hcore : t'.core = t.core) : t'.caseId = t.caseId :=
  congrArg (fun core => core.1.caseId) hcore

theorem Task.isFor_of_codes {u : Task} (hcase : t.caseId = caseId) (hcodes : t.codes = u.codes)
    (h : u.isFor caseId stageCode e) : t.isFor caseId stageCode e := by
  obtain ⟨-, hstage, hactivity, hcode⟩ := h
  exact ⟨hcase, (congrArg Prod.fst hcodes).trans hstage,
    (congrArg (fun x => x.2.1) hcodes).trans hactivity,
    (congrArg (fun x => x.2.2) hcodes).trans hcode⟩

/-- Where the keys tell, the loop adds no second task. -/
theorem createTasksForStage_oneTaskEach (hone : OneTaskEach aside caseId s)
    (hunique : UniqueKeys s) (htell : KeysTell aside s caseId stageCode st)
    (h : createTasksForStage lib ctx caseId stageCode st config s = .ok s') :
    OneTaskEach aside caseId s' := by
  -- every task of a definition that can start is under its key
  have hkeyed : ∀ j t e, s'.tasks.get? j = some t → ¬ aside j → e ∈ st.definitions →
      Startable s caseId e → t.isFor caseId stageCode e →
      t.idempotencyKey = definitionKey caseId stageCode e := by
    intro j t e ht hj he hstart hfor
    rcases createTasksForStage_row h ht with ⟨t₀, ht₀, hcore⟩ | ⟨e', -, -, hfor', hkey⟩
    · rw [Task.key_of_core hcore]
      exact htell.kept e he hstart j t₀ ht₀ hj
        ((Task.isFor_congr (congrArg Prod.fst hcore)).mp hfor)
    · exact hkey.trans (congrArg TaskOrigin.key (definitionOrigin_eq hfor hfor'))
  intro j k t u ht hu hj hk hcaset hcaseu hcodes
  have hsame : ∀ e ∈ st.definitions, Startable s caseId e → t.isFor caseId stageCode e →
      u.isFor caseId stageCode e → j = k := by
    intro e he hstart hfort hforu
    apply uniqueKeys_createTasksForStage hunique h j k t u ht hu
    rw [hkeyed j t e ht hj he hstart hfort, hkeyed k u e hu hk he hstart hforu]
  rcases createTasksForStage_row h ht with ⟨t₀, ht₀, hcoret⟩ | ⟨e, he, hstart, hfor, -⟩
  · rcases createTasksForStage_row h hu with ⟨u₀, hu₀, hcoreu⟩ | ⟨e, he, hstart, hfor, -⟩
    · apply hone j k t₀ u₀ ht₀ hu₀ hj hk
      · exact (Task.caseId_of_core hcoret).symm.trans hcaset
      · exact (Task.caseId_of_core hcoreu).symm.trans hcaseu
      · rw [← Task.codes_of_core hcoret, ← Task.codes_of_core hcoreu, hcodes]
    · exact hsame e he hstart (Task.isFor_of_codes hcaset hcodes hfor) hfor
  · exact hsame e he hstart hfor (Task.isFor_of_codes hcaseu hcodes.symm hfor)

/-- Where the keys tell, the loop leaves a task for every definition that can start. -/
theorem createTasksForStage_serves (htell : KeysTell aside s caseId stageCode st)
    (h : createTasksForStage lib ctx caseId stageCode st config s = .ok s')
    (he : e ∈ st.definitions) (hstart : Startable s caseId e) :
    ∃ k t, s'.tasks.get? k = some t ∧ t.isFor caseId stageCode e := by
  obtain ⟨payload, hinputs⟩ := hstart
  have hfree : ∀ sourceTask sourceField,
      taskInputs s caseId e.2 ≠ .error (.dependency sourceTask sourceField) := by
    intro sourceTask sourceField hblocked
    rw [hinputs] at hblocked
    cases hblocked
  obtain ⟨k, t, ht, hkey⟩ := createTasksForStage_has h he hfree
  refine ⟨k, t, ht, ?_⟩
  rcases createTasksForStage_row h ht with ⟨t₀, ht₀, hcore⟩ | ⟨e', he', -, hfor, hkey'⟩
  · apply (Task.isFor_congr (congrArg Prod.fst hcore)).mpr
    apply htell.owned e he ⟨payload, hinputs⟩ k t₀ ht₀
    rw [← Task.key_of_core hcore]
    exact hkey
  · -- the task that has the key was created for a definition with the same codes
    obtain ⟨hactivity, hcode⟩ := htell.distinct e he e' he' (hkey.symm.trans hkey')
    obtain ⟨hcase, hstage, hactivity', hcode'⟩ := hfor
    exact ⟨hcase, hstage, hactivity'.trans hactivity.symm, hcode'.trans hcode.symm⟩

end Stage

/-! ## Every run -/

open Machine

theorem onCaseStageChanged_step (h : onCaseStageChanged lib ctx event s = .ok s') :
    ∃ caseId st config, AnnouncesStage s event caseId st ∧
      createTasksForStage lib ctx caseId (event.payload.strField "to_stage") st config s = .ok s' := by
  obtain ⟨⟨caseId, c, config⟩, hload, h⟩ := bind_ok h
  obtain ⟨st, hst, h⟩ := bind_ok h
  exact ⟨caseId, st, config, ⟨c, config, hload, orFail_eq_ok.mp hst⟩, h⟩

theorem AnnouncesStage.unique {k' : Id} {st' : StageDefinition}
    (h : AnnouncesStage s event k st) (h' : AnnouncesStage s event k' st') : k = k' ∧ st = st' := by
  obtain ⟨c, config, hload, hst⟩ := h
  obtain ⟨c', config', hload', hst'⟩ := h'
  rw [hload] at hload'
  cases hload'
  rw [hst] at hst'
  cases hst'
  exact ⟨rfl, rfl⟩

/-- Tasks of other cases do not count. -/
theorem OneTaskEach.of_other (hone : OneTaskEach aside caseId s) (hne : k ≠ caseId)
    (h : createTasksForStage lib ctx k stageCode st config s = .ok s') :
    OneTaskEach aside caseId s' := by
  refine hone.of_rows fun j t' ht' hcase => ?_
  rcases createTasksForStage_row h ht' with ⟨t, ht, hcore⟩ | ⟨e, -, -, hfor, -⟩
  · exact ⟨t, ht, Task.caseId_of_core hcore, Task.codes_of_core hcore⟩
  · exact absurd (hfor.1.symm.trans hcase) hne

theorem visit_step {op : VisitOp} (hone : OneTaskEach aside caseId s) (hunique : UniqueKeys s)
    (htell : op.KeysTell aside caseId s) (h : op.exec s = .ok s') :
    (OneTaskEach aside caseId s' ∧ UniqueKeys s') ∧ op.Served caseId s s' := by
  cases op with
  | requeueDLQEntry call =>
    obtain ⟨entry, t, hstep⟩ := requeueDLQEntry_step h
    exact ⟨⟨hstep.oneTaskEach hone, hstep.uniqueKeys hunique⟩, trivial⟩
  | onCaseStageChanged lib ctx event =>
    obtain ⟨k, st, config, hannounces, hloop⟩ := onCaseStageChanged_step h
    have hunique' := uniqueKeys_createTasksForStage hunique hloop
    by_cases hk : k = caseId
    · subst hk
      have hkeys := htell st hannounces
      refine ⟨⟨createTasksForStage_oneTaskEach hone hunique hkeys hloop, hunique'⟩, ?_⟩
      intro _ st' hannounces' e he hstart
      obtain ⟨-, rfl⟩ := hannounces.unique hannounces'
      exact createTasksForStage_serves hkeys hloop he hstart
    · refine ⟨⟨hone.of_other hk hloop, hunique'⟩, ?_⟩
      intro _ st' hannounces' e he hstart
      exact absurd (hannounces.unique hannounces').1 hk

/-- A case in its intake; the first of its tasks, if any, is dead. -/
def visiting (config : CaseTypeConfig) (tasks : Table Task) : Store where
  caseTypes := Table.empty.insert { code := "LOAN", config := config }
  cases := Table.empty.insert
    { caseTypeId := 0, currentStageCode := some "INTAKE", currentStageOrdinal := 1
      status := .inProgress }
  tasks := tasks
  dlq := Table.empty.insert
    { taskId := 0, caseId := 0, failureReason := "timeout", errorDetail := .null, movedAt := 1
      isPoisonPill := false }

def visitIntake : VisitOp := .onCaseStageChanged Library.plain (.plain 3) intakeAnnounced

def reviveIntake : VisitOp :=
  .requeueDLQEntry { now := 2, dlqId := 0, operatorId := "operator", generatedId := "1" }

def deadIntakeTask : Table Task :=
  Table.empty.insert
    { caseId := 0, taskDefinitionCode := "COLLECT_DOCS", activityCode := "COLLECT"
      stageCode := "INTAKE", status := .failed
      idempotencyKey := idempotencyKey 0 "INTAKE" "COLLECT" "COLLECT_DOCS" }

def colonConfig : CaseTypeConfig where
  stages := [
    { code := "INTAKE", sequenceOrder := 1
      activities := [{ code := "CHECK", taskDefs := [deskTask "ID:CARD" []] },
        { code := "CHECK:ID", taskDefs := [deskTask "CARD" []] }] }]

end LoanWorkflow
