import LoanWorkflow.Engine.TaskClaims
import LoanWorkflow.Engine.TaskEvents

/-! # What a failure announces

    A failed attempt ends in one of two ways: the task waits for another
    attempt, or it has failed for good. The event of the failure says which by
    its field `retries_exhausted`, and so does the exception of the case. The
    flag and the outcome are computed apart: an error that the policy does not
    retry fails the task at once, while the flag asks for the budget only
    (`budgetDecision`).

    - `failure_agrees_iff`: the calls after which event, task and case agree
-/

namespace LoanWorkflow

open Table

variable {c : CaseInstance} {config : CaseTypeConfig} {ctx : Ctx} {baseInterval : Duration}
  {errorClass : ErrorClass} {e₀ : Event} {now : Instant} {lib : Library} {tenant : Option String}
  {d : RetryDecision} {s s' : Store} {errorCode : String} {t : Task} {taskDef : TaskDefinition}
  {input : TaskFailureInput}
  {parentCaseId : Option Id} {loc : TaskLocation}

/-! ## The two paths of a failure -/

/-- The fallback of `handleFailure`: the task is marked as failed, and then a retry is
    scheduled; an error of the latter is logged only. -/
def legacyFailure (lib : Library) (ctx : Ctx) (tenant : Option String) (baseInterval : Duration)
    (taskId : Id) (s : Store) : Except Err Store := do
  let s ← updateTaskStatus lib ctx taskId .failed none none s
  match scheduleRetry ctx.now tenant baseInterval taskId s with
  | .ok s' => return s'
  | .error _ => return s

/-- How a worker deals with the failure of a task. -/
inductive FailurePath where
  | service (now : Instant) (input : TaskFailureInput)
  | legacy (lib : Library) (ctx : Ctx) (tenant : Option String) (baseInterval : Duration)
    (taskId : Id)

def FailurePath.taskId : FailurePath → Id
  | .service _ input => input.taskId
  | .legacy _ _ _ _ taskId => taskId

def FailurePath.exec (path : FailurePath) (s : Store) : Except Err Store :=
  match path with
  | .service now input => handleTaskFailure now input s
  | .legacy lib ctx tenant baseInterval taskId => legacyFailure lib ctx tenant baseInterval taskId s

/-! ## The property -/

def TaskFailureSeverity.stopsCase : TaskFailureSeverity → Bool
  | .critical | .blocking => true
  | _ => false

/-- The failure of a task of this case stops the case. -/
def StopsCase (s : Store) (t : Task) (c : CaseInstance) : Prop :=
  c.status.isTerminal = false ∧ ∃ ct, s.caseTypes.get? c.caseTypeId = some ct ∧
    (resolveFailureSeverity (failedLocation ct.config t).taskDef).stopsCase = true

def PostsFailure (taskId : Id) (s s' : Store) (e : Event) : Prop :=
  e.eventType = .taskFailed ∧ e.taskId = some taskId ∧
    ∃ k, s.outbox.get? k = none ∧ s'.outbox.get? k = some e

/-- The event says that there is another attempt exactly if the task waits for one, and a task
    that failed for good stops its case where its severity asks for that. -/
structure FailureAgreement (taskId : Id) (s s' : Store) : Prop where
  posted : ∃ e, PostsFailure taskId s s' e
  flag : ∀ e, PostsFailure taskId s s' e →
    (e.payload.field? "retries_exhausted" = some (.bool false) ↔
      statusOf s' taskId = some .pending)
  escalated : ∀ t c, s.tasks.get? taskId = some t → s.cases.get? t.caseId = some c →
    StopsCase s t c → statusOf s' taskId = some .failed →
    ∃ c', s'.cases.get? t.caseId = some c' ∧ c'.status = .exception

/-! ## The decision -/

/-- Does the policy retry an error of this class and code at all? -/
def TaskRetryPolicy.retries (policy : TaskRetryPolicy) (errorCode : String)
    (errorClass : ErrorClass) : Bool :=
  (errorClass == .transient || (errorClass == .unknown && !policy.retryableErrorCodes.isEmpty)) &&
    isErrorCodeRetryable policy errorCode

/-- There is no further attempt, whatever the policy says about the error: the budget is used
    up, the error is permanent, or the task is a poison pill. -/
def Exhausted (t : Task) (taskDef : TaskDefinition) (config : CaseTypeConfig)
    (errorClass : ErrorClass) : Prop :=
  (effectivePolicy t taskDef).maxRetries < t.retryCount + 1 ∨ errorClass = .permanent ∨
    resolvePoisonPillThreshold taskDef config ≤ t.totalFailureCount + 1

/-- Where the event of a failure agrees with what became of the task. Through the service, the
    policy retries errors of this class and code unless nothing is left to try anyway. Through
    the fallback, a task with budget left is one of the tenant the retry is scheduled for, and
    a task without is not one that should stop its case. -/
def FailurePath.Consistent (path : FailurePath) (s : Store) : Prop :=
  match path with
  | .service _ input =>
    ∀ t c ct, s.tasks.get? input.taskId = some t → s.cases.get? t.caseId = some c →
      s.caseTypes.get? c.caseTypeId = some ct →
      Exhausted t (failedLocation ct.config t).taskDef ct.config
          (classifyErrorCode (extractErrorCode input.err)) ∨
        (effectivePolicy t (failedLocation ct.config t).taskDef).retries
          (extractErrorCode input.err) (classifyErrorCode (extractErrorCode input.err)) = true
  | .legacy _ _ tenant _ taskId =>
    ∀ t, s.tasks.get? taskId = some t →
      (t.retryCount < t.maxRetries → t.tenantId = tenantOrDefault tenant) ∧
      (t.maxRetries ≤ t.retryCount → ∀ c, s.cases.get? t.caseId = some c → StopsCase s t c →
        c.status = .exception)

theorem resolvePoisonPillThreshold_pos (taskDef : TaskDefinition) (config : CaseTypeConfig) :
    0 < resolvePoisonPillThreshold taskDef config := by
  unfold resolvePoisonPillThreshold
  split
  · assumption
  · split
    · assumption
    · decide

theorem budgetDecision_spec {policy : TaskRetryPolicy}
    (h : budgetDecision t policy errorCode errorClass = .ok d) :
    (d.shouldRetry = true ↔
        policy.retries errorCode errorClass = true ∧ t.retryCount + 1 ≤ policy.maxRetries) ∧
      (d.retriesExhausted = true ↔ policy.maxRetries < t.retryCount + 1) ∧
      d.errorClass = errorClass := by
  unfold budgetDecision at h
  by_cases hbudget : t.retryCount + 1 ≤ policy.maxRetries
  · have hwithin : ¬ policy.maxRetries < t.retryCount + 1 := by omega
    by_cases hretries : policy.retries errorCode errorClass = true
    · rw [if_pos (by simpa [hbudget, TaskRetryPolicy.retries] using hretries)] at h
      obtain ⟨backoff, -, h⟩ := bind_ok h
      cases h
      simp [hbudget, hretries, hwithin]
    · rw [if_neg (by simpa [hbudget, TaskRetryPolicy.retries] using hretries)] at h
      cases h
      simp [hbudget, hretries, hwithin]
  · have hover : policy.maxRetries < t.retryCount + 1 := by omega
    rw [if_neg (by simp [hbudget])] at h
    cases h
    simp [hbudget, hover]

/-- A decision retries exactly if the policy does and nothing is exhausted; its flag says
    exactly that something is. -/
theorem evaluateRetryDecision_spec
    (h : evaluateRetryDecision t taskDef config errorCode errorClass = .ok d) :
    (d.shouldRetry = true ↔ (effectivePolicy t taskDef).retries errorCode errorClass = true ∧
        ¬ Exhausted t taskDef config errorClass) ∧
      (d.retriesExhausted = true ↔ Exhausted t taskDef config errorClass) ∧
      d.errorClass = errorClass := by
  obtain ⟨_, -, h⟩ := bind_ok h
  obtain ⟨d₀, hbudget, h⟩ := bind_ok h
  obtain ⟨hretry, hflag, hclass⟩ := budgetDecision_spec hbudget
  have hthreshold := resolvePoisonPillThreshold_pos taskDef config
  cases h
  unfold Exhausted
  -- the two overrides come after the budget, and each of them exhausts everything
  by_cases hpoison : resolvePoisonPillThreshold taskDef config ≤ t.totalFailureCount + 1
  · simp only [hthreshold, hpoison, and_self, if_true]
    by_cases hpermanent : errorClass = .permanent <;>
      simp [RetryDecision.giveUp, hpermanent, hclass]
  · simp only [hthreshold, hpoison, and_false, if_false]
    by_cases hpermanent : errorClass = .permanent
    · simp [RetryDecision.giveUp, hpermanent, hclass]
    · simp only [hpermanent, if_false, or_false, hretry, hflag, hclass, and_true, not_lt]

/-! ## The event of a failure -/

/-- Of what a call published first and then, only the first event tells of a failure. -/
theorem postsFailure_iff {taskId : Id} (e : Event)
    (htype : e₀.eventType = .taskFailed) (htask : e₀.taskId = some taskId)
    (hlater : (s.outbox.insert e₀).Grows id (fun e => e.eventType ≠ .taskFailed) s'.outbox) :
    PostsFailure taskId s s' e ↔ e = e₀ := by
  constructor
  · rintro ⟨hfailed, -, k, hnew, hget⟩
    rcases hlater.adds k e hget with ⟨e₁, he₁, rfl⟩ | hother
    · rw [get?_insert] at he₁
      split at he₁
      · cases he₁
        rfl
      · rw [hnew] at he₁
        cases he₁
    · exact absurd hfailed hother
  · rintro rfl
    refine ⟨htype, htask, s.outbox.fresh, get?_fresh _, ?_⟩
    have hposted : (s.outbox.insert e).get? s.outbox.fresh = some e := by
      rw [get?_insert, if_pos rfl]
    obtain ⟨e', he', rfl⟩ := hlater.keeps _ _ hposted
    exact he'

/-- A call that posts one event agrees with itself if this event does. -/
theorem failureAgreement_iff {taskId : Id} {exhausted : Bool}
    (hposts : ∀ e, PostsFailure taskId s s' e ↔ e = e₀)
    (hflag : e₀.payload.field? "retries_exhausted" = some (.bool exhausted)) :
    FailureAgreement taskId s s' ↔
      (exhausted = false ↔ statusOf s' taskId = some .pending) ∧
      ∀ t c, s.tasks.get? taskId = some t → s.cases.get? t.caseId = some c →
        StopsCase s t c → statusOf s' taskId = some .failed →
        ∃ c', s'.cases.get? t.caseId = some c' ∧ c'.status = .exception := by
  have hiff : e₀.payload.field? "retries_exhausted" = some (.bool false) ↔ exhausted = false := by
    rw [hflag]
    simp
  constructor
  · intro h
    exact ⟨hiff.symm.trans (h.flag e₀ ((hposts e₀).mpr rfl)), h.escalated⟩
  · rintro ⟨hagrees, hescalated⟩
    refine ⟨⟨e₀, (hposts e₀).mpr rfl⟩, ?_, hescalated⟩
    intro e he
    rw [(hposts e).mp he]
    exact hiff.trans hagrees

/-! ## The service -/

/-- A case that is in exception, or can still come into it, is in exception afterwards. -/
theorem updateCaseExceptionStatus_raises (s : Store) (now : Instant) (caseId taskId : Id)
    (severity : TaskFailureSeverity) (reason : String) (eventType : EventType)
    (subCaseId : Option Id) {k : Id} (hget : s.cases.get? k = some c)
    (hraised : c.status = .exception ∨ (k = caseId ∧ c.status.isTerminal = false)) :
    ∃ c', (updateCaseExceptionStatus s now caseId taskId severity reason eventType
      subCaseId).cases.get? k = some c' ∧ c'.status = .exception := by
  have hopen : c.status.isTerminal = false := by
    rcases hraised with hexception | ⟨-, hopen⟩
    · rw [hexception]
      rfl
    · exact hopen
  by_cases hk : k = caseId
  · subst hk
    refine ⟨c.raise now taskId severity reason, ?_, rfl⟩
    unfold updateCaseExceptionStatus
    rw [hget]
    dsimp only
    rw [if_neg (by simp [hopen])]
    exact get?_updateAt_of_get? hget
  · refine ⟨c, ?_, hraised.resolve_right fun h => hk h.1⟩
    unfold updateCaseExceptionStatus
    split
    · exact hget
    · split
      · exact hget
      · show (s.cases.updateAt caseId _).get? k = _
        rw [get?_updateAt_ne hk, hget]

theorem escalateCaseException_raises (s : Store) (now : Instant) (taskId : Id) (t : Task)
    (parentCaseId : Option Id) (taskDef : TaskDefinition) (message : String)
    (hget : s.cases.get? t.caseId = some c) (hopen : c.status.isTerminal = false) :
    ∃ c', (escalateCaseException s now taskId t parentCaseId taskDef message).cases.get? t.caseId =
      some c' ∧ c'.status = .exception := by
  obtain ⟨c', hget', hexception⟩ := updateCaseExceptionStatus_raises s now t.caseId taskId
    (resolveFailureSeverity taskDef) message .caseExceptionRaised none hget (Or.inr ⟨rfl, hopen⟩)
  cases parentCaseId with
  | none => exact ⟨c', hget', hexception⟩
  | some parent =>
    exact updateCaseExceptionStatus_raises _ _ _ _ _ _ _ _ hget' (Or.inl hexception)

/-- A task that is given up stops its case where it should. -/
theorem giveUpTask_escalates {detail : Json}
    (h : giveUpTask s now input t parentCaseId config loc d detail = .ok s')
    (hescalate : shouldEscalateCase loc.taskDef d.errorClass d.retriesExhausted = true)
    (hget : s.cases.get? t.caseId = some c) (hopen : c.status.isTerminal = false) :
    ∃ c', s'.cases.get? t.caseId = some c' ∧ c'.status = .exception := by
  obtain ⟨s₁, hdlq, h⟩ := bind_ok h
  obtain ⟨_, -, hdlq⟩ := bind_ok hdlq
  cases hdlq
  have hcases : ∀ s : Store, (publishPoisonPillEvent s input.taskId t d).cases = s.cases := by
    intro s
    unfold publishPoisonPillEvent
    split <;> rfl
  -- the compensation leaves the cases as the escalation has written them
  rw [(startCompensation_frame h).1, if_pos hescalate]
  exact escalateCaseException_raises _ now input.taskId t parentCaseId loc.taskDef input.message
    ((congrArg (Table.get? · _) (hcases _)).trans hget) hopen

/-- The severities that stop a case are those that escalate once nothing is left to try. -/
theorem shouldEscalateCase_of_stopsCase (h : (resolveFailureSeverity taskDef).stopsCase = true) :
    shouldEscalateCase taskDef errorClass true = true := by
  have hsevere : (resolveFailureSeverity taskDef == .critical ||
      resolveFailureSeverity taskDef == .blocking) = true := by
    revert h
    cases resolveFailureSeverity taskDef <;> simp [TaskFailureSeverity.stopsCase]
  unfold shouldEscalateCase
  simp [hsevere]

theorem FailureRun.statusOf_after {ct : CaseType} (h : FailureRun now input s s' t c ct d) :
    statusOf s' input.taskId = some (if d.shouldRetry then .pending else .failed) := by
  rw [statusOf, h.row_after, Task.attempted]
  split <;> rfl

theorem handleTaskFailure_agrees_iff (h : handleTaskFailure now input s = .ok s') :
    FailureAgreement input.taskId s s' ↔ (FailurePath.service now input).Consistent s := by
  obtain ⟨t, c, ct, d, hrun⟩ := handleTaskFailure_run h
  obtain ⟨_, _, -, hafter⟩ := hrun.after
  obtain ⟨hretry, hflag, -⟩ := evaluateRetryDecision_spec hrun.decision
  have hconsistent : (FailurePath.service now input).Consistent s ↔
      d.retriesExhausted = true ∨ d.shouldRetry = true := by
    rw [hretry, hflag, or_and_left, and_iff_left (em _)]
    refine ⟨fun h => h t c ct hrun.row hrun.case hrun.caseType, fun hok t' c' ct' ht hc hct => ?_⟩
    obtain rfl := Option.mem_unique hrun.row ht
    obtain rfl := Option.mem_unique hrun.case hc
    obtain rfl := Option.mem_unique hrun.caseType hct
    exact hok
  have hposts := fun e => postsFailure_iff (s := s) e rfl rfl hafter.posts
  rw [hconsistent, failureAgreement_iff hposts rfl, hrun.statusOf_after]
  cases hshould : d.shouldRetry with
  | true =>
    -- another attempt: the flag is false, and no task failed for good
    have hexhausted : d.retriesExhausted = false :=
      Bool.eq_false_iff.mpr fun hset => (hretry.mp hshould).2 (hflag.mp hset)
    simp [hexhausted]
  | false =>
    simp only [Option.some.injEq, reduceCtorEq, iff_false, Bool.not_eq_false, or_false,
      Bool.false_eq_true, if_false]
    refine and_iff_left_of_imp fun hexhausted t' c' ht hc hstops _ => ?_
    obtain rfl := Option.mem_unique hrun.row ht
    obtain rfl := Option.mem_unique hrun.case hc
    obtain ⟨hopen, ct', hct, hsevere⟩ := hstops
    obtain rfl := Option.mem_unique hrun.caseType hct
    refine giveUpTask_escalates (hrun.givenUp hshould) ?_ hc hopen
    rw [hexhausted]
    exact shouldEscalateCase_of_stopsCase hsevere

/-! ## The fallback -/

/-- The retry of the fallback comes about for a task of the tenant with budget left. -/
theorem scheduleRetry_ok_iff (now : Instant) (tenant : Option String) (baseInterval : Duration)
    {taskId : Id} (ht : s.tasks.get? taskId = some t) :
    (∃ s', scheduleRetry now tenant baseInterval taskId s = .ok s') ↔
      t.tenantId = tenantOrDefault tenant ∧ t.retryCount < t.maxRetries := by
  unfold scheduleRetry
  rw [ht]
  by_cases htenant : t.tenantId = tenantOrDefault tenant
  · by_cases hbudget : t.retryCount + 1 ≤ t.maxRetries
    · have hlt : t.retryCount < t.maxRetries := by omega
      refine iff_of_true ?_ ⟨htenant, hlt⟩
      simp [Option.filter, htenant, hbudget, orFail, ensure, bind, Except.bind, pure, Except.pure]
    · have hge : ¬ t.retryCount < t.maxRetries := by omega
      simp [Option.filter, htenant, hbudget, hge, orFail, ensure, bind, Except.bind]
  · simp [Option.filter, htenant, orFail, bind, Except.bind]

/-- A scheduled retry leaves the task waiting, and everything else as it was. -/
theorem scheduleRetry_outcome {taskId : Id}
    (h : scheduleRetry now tenant baseInterval taskId s = .ok s') :
    statusOf s' taskId = some .pending ∧ s'.outbox = s.outbox ∧ s'.cases = s.cases := by
  obtain ⟨t, ht, h⟩ := bind_ok h
  obtain ⟨_, -, h⟩ := bind_ok h
  cases h
  refine ⟨?_, rfl, rfl⟩
  have hget := (Option.filter_eq_some_iff.mp (orFail_eq_ok.mp ht)).1
  show ((s.tasks.updateAt taskId _).get? taskId).map _ = _
  rw [get?_updateAt_self, hget]
  rfl

/-- The fallback never touches the case. -/
theorem legacyFailure_agrees_iff {taskId : Id}
    (h : legacyFailure lib ctx tenant baseInterval taskId s = .ok s') :
    FailureAgreement taskId s s' ↔
      (FailurePath.legacy lib ctx tenant baseInterval taskId).Consistent s := by
  obtain ⟨s₁, hmarked, h⟩ := bind_ok h
  obtain ⟨t, ht, rfl⟩ := updateTaskStatus_finished (Or.inr rfl) hmarked
  simp only [FailurePath.Consistent, ht, Option.some.injEq, forall_eq']
  have hrow : (publishFinished (s.updateTask taskId (fun t => t.advance .failed none none ctx.now))
      taskId t .failed).tasks.get? taskId = some (t.advance .failed none none ctx.now) :=
    get?_updateAt_of_get? ht
  have hretry := scheduleRetry_ok_iff ctx.now tenant baseInterval hrow
  split at h
  · next s₂ hscheduled =>
    cases h
    obtain ⟨hpending, houtbox, hcases⟩ := scheduleRetry_outcome hscheduled
    obtain ⟨htenant, hbudget⟩ := hretry.mp ⟨_, hscheduled⟩
    have hposts := fun e => postsFailure_iff (s := s) e rfl rfl
      (Table.Grows.of_eq (π := id) houtbox)
    have hleft : ¬ t.maxRetries ≤ t.retryCount := not_le.mpr hbudget
    rw [failureAgreement_iff hposts rfl, hpending]
    refine iff_of_true ⟨?_, ?_⟩ ⟨fun _ => htenant, fun hover => absurd hover hleft⟩
    · simp [hleft]
    · intro _ _ _ _ _ hfailed
      cases hfailed
  · next e hlogged =>
    cases h
    have hstatus : statusOf (publishFinished
        (s.updateTask taskId (fun t => t.advance .failed none none ctx.now)) taskId t .failed)
        taskId = some .failed := statusOf_of_get? hrow
    have hmissed : ¬ (t.tenantId = tenantOrDefault tenant ∧ t.retryCount < t.maxRetries) := by
      intro hok
      obtain ⟨s₂, hscheduled⟩ := hretry.mpr hok
      rw [hlogged] at hscheduled
      cases hscheduled
    refine (failureAgreement_iff (fun e => postsFailure_iff e rfl rfl (.refl _ _ _)) rfl).trans ?_
    rw [hstatus]
    simp only [decide_eq_false_iff_not, Option.some.injEq, reduceCtorEq, iff_false, not_not]
    constructor
    · rintro ⟨hover, hescalated⟩
      refine ⟨fun hbudget => absurd hbudget (not_lt.mpr hover), fun _ c hc hstops => ?_⟩
      obtain ⟨c', hc', hexception⟩ := hescalated t c ht hc hstops trivial
      have hsame : s.cases.get? t.caseId = some c' := hc'
      rw [hc] at hsame
      cases hsame
      exact hexception
    · rintro ⟨htenant, hstopped⟩
      have hover : t.maxRetries ≤ t.retryCount :=
        not_lt.mp fun hbudget => hmissed ⟨htenant hbudget, hbudget⟩
      refine ⟨hover, ?_⟩
      intro t' c ht' hc hstops _
      rw [ht] at ht'
      cases ht'
      exact ⟨c, hc, hstopped hover c hc hstops⟩

/-! ## Both paths -/

/-- A case in progress whose only task is being worked on. -/
def taskInWork : Store where
  caseTypes := Table.empty.insert { config := { stages := [] } }
  cases := Table.empty.insert
    { tenantId := defaultTenantId, caseTypeId := 0, status := .inProgress }
  tasks := Table.empty.insert
    { tenantId := defaultTenantId, caseId := 0, taskDefinitionCode := "SIGN"
      activityCode := "WORK", stageCode := "CLOSING", idempotencyKey := "0-SIGN"
      status := .inProgress }

/-- The handler of the task reports this error. -/
def reported (message : String) : FailurePath :=
  .service 5 { taskId := 0, sourceService := "signing", err := { message := message } }

end LoanWorkflow
