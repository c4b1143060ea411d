import LoanWorkflow.Sla.Calendar
import LoanWorkflow.Sla.PauseLog

/-! # The SLA sweep

    `SLASweepJob.Run`: select the tasks and the cases with a due date, earliest
    first, compare the working time since the start of each clock with its
    duration, and issue warnings, critical warnings and breaches. The pause log
    is read for the metrics only.

    The whole pass is one transaction. The case query selects
    `case_sla_cycle`, for which its row type has no field. A plain `sqlx`
    handle refuses such a query, and the transaction is rolled back with all
    that was published in it; a lenient handle (`sqlx.DB.Unsafe`) ignores the
    column.
-/

namespace LoanWorkflow

structure SLASweepJob where
  batchSize : Nat
  /-- The handle ignores columns without a field. -/
  lenient : Bool := false

def newSLASweepJob (batchSize : Int) (lenient : Bool) : SLASweepJob where
  batchSize := if batchSize ≤ 0 then 2000 else batchSize.toNat
  lenient := lenient

/-! ## Candidates -/

/-- `taskSweepCandidate` and `caseSweepCandidate`: a clock with the columns the sweep selects. -/
structure SweepCandidate where
  clock : Clock
  sla : SLAColumns
  start : Instant
  dueAt : Instant
  durationMs : Int
  assignee : Option String
  caseTypeCode : String
  /-- The field of a case stays zero: no column of its query has the field's name. -/
  slaCycle : Int := 0
  stageCode : String := ""
  activityCode : String := ""
  taskDefinitionCode : String := ""
  isTerminal : Bool := false

/-- The milliseconds of `EXTRACT(EPOCH FROM d) * 1000`, rounded to a `bigint`. -/
def epochMilliseconds (d : Duration) : Int :=
  if 0 ≤ d then (d + 500000) / 1000000 else -((-d + 500000) / 1000000)

/-- The stored duration, or the time from the start to the due date. -/
def sweptDurationMs (sla : SLAColumns) (start dueAt : Instant) : Int :=
  sla.durationMs.getD (epochMilliseconds (dueAt - start))

/-- The candidate of a task, when the query selects it. -/
def taskCandidate (s : Store) (r : Id × Task) : Option SweepCandidate := do
  let c ← s.cases.get? r.2.caseId
  let caseType ← s.caseTypes.get? c.caseTypeId
  let dueAt ← r.2.sla.dueAt <|> r.2.dueAt
  let start := r.2.sla.effectiveStartTime.getD r.2.createdAt
  if r.2.status = .pending ∨ r.2.status = .assigned ∨ r.2.status = .inProgress then
    some
      { clock := .ofTask r.1 r.2.caseId, sla := r.2.sla, start := start, dueAt := dueAt
        durationMs := sweptDurationMs r.2.sla start dueAt, assignee := r.2.assigneeId
        caseTypeCode := caseType.code, slaCycle := r.2.sla.cycle, stageCode := r.2.stageCode
        activityCode := r.2.activityCode, taskDefinitionCode := r.2.taskDefinitionCode
        isTerminal := r.2.status.isTerminal }
  else none

/-- The candidate of a case, when the query selects it. -/
def caseCandidate (s : Store) (r : Id × CaseInstance) : Option SweepCandidate := do
  let caseType ← s.caseTypes.get? r.2.caseTypeId
  let dueAt ← r.2.sla.dueAt
  let start := r.2.sla.effectiveStartTime.getD r.2.createdAt
  if r.2.status = .open ∨ r.2.status = .inProgress then
    some
      { clock := .ofCase r.1, sla := r.2.sla, start := start, dueAt := dueAt
        durationMs := sweptDurationMs r.2.sla start dueAt, assignee := r.2.assignedTo
        caseTypeCode := caseType.code }
  else none

/-- The candidates with the earliest due dates. -/
def SLASweepJob.earliest (job : SLASweepJob) (candidates : List SweepCandidate) :
    List SweepCandidate :=
  (candidates.insertionSort (fun a b => a.dueAt ≤ b.dueAt)).take job.batchSize

def SLASweepJob.taskCandidates (job : SLASweepJob) (s : Store) : List SweepCandidate :=
  job.earliest (s.tasks.rows.filterMap (taskCandidate s))

def SLASweepJob.caseCandidates (job : SLASweepJob) (s : Store) : List SweepCandidate :=
  job.earliest (s.cases.rows.filterMap (caseCandidate s))

/-! ## Thresholds -/

/-- `float64(elapsed) / float64(duration) * 100`. -/
def elapsedPct (elapsed duration : Duration) : ℚ :=
  Binary64.round (Binary64.round (Binary64.round elapsed / Binary64.round duration) * 100)

/-- `elapsedPct >= threshold`; over no duration the share is infinite or not a number. -/
def shareReaches (elapsed duration : Duration) (threshold : ℚ) : Bool :=
  if duration = 0 then decide (0 < elapsed) else decide (threshold ≤ elapsedPct elapsed duration)

/-- `elapsedPct < threshold`. -/
def shareBelow (elapsed duration : Duration) (threshold : ℚ) : Bool :=
  duration != 0 && decide (elapsedPct elapsed duration < threshold)

namespace SweepCandidate

def warningPct (c : SweepCandidate) : ℚ := c.sla.warningThresholdPct.getD 80

def criticalPct (c : SweepCandidate) : ℚ := c.sla.criticalThresholdPct.getD 95

def action (c : SweepCandidate) : SLABreachAction := c.sla.breachAction.getD .notifyOnly

def warns (c : SweepCandidate) (elapsed duration : Duration) : Bool :=
  c.sla.warningIssuedAt.isNone && shareReaches elapsed duration c.warningPct &&
    shareBelow elapsed duration c.criticalPct

def turnsCritical (c : SweepCandidate) (elapsed duration : Duration) : Bool :=
  c.sla.criticalIssuedAt.isNone && c.sla.breachDetectedAt.isNone &&
    shareReaches elapsed duration c.criticalPct

def breaches (c : SweepCandidate) (now : Instant) : Bool :=
  decide (c.dueAt < now) && c.sla.breachDetectedAt.isNone

end SweepCandidate

def computeBreachSeverity (elapsed target : Duration) : SLABreachSeverity :=
  if target ≤ 0 then .critical
  else
    let overrunPct := Binary64.round
      (Binary64.round (Binary64.round (elapsed - target : Duration) / Binary64.round target) * 100)
    if overrunPct < 10 then .minor
    else if overrunPct < 30 then .moderate
    else if overrunPct < 50 then .major
    else .critical

/-! ## Metrics -/

structure MetricsAccumulator where
  totalCount : Int := 0
  completedCount : Int := 0
  breachedCount : Int := 0
  totalPauseMins : Int := 0
  elapsedMinutes : List Int := []

/-- The quotient of a sum is `numeric`, whose text has a fraction and does
    not scan into an integer; only the default for no rows does. -/
def totalPauseMinutes (s : Store) (entityType : SLAEntityType) (entityId : Id) : Except Err Int :=
  match latestPause s entityType entityId with
  | none => .ok 0
  | some _ => .error "totalPauseMinutes: converting driver.Value type string to a int64"

/-- `percentile` of a sorted list. -/
def percentile (sorted : List Int) (p : Int) : Int :=
  if sorted.length = 0 then 0
  else if p ≤ 0 then sorted.headD 0
  else if 100 ≤ p then sorted.getLastD 0
  else
    let rank := Binary64.round (Binary64.round ((p : ℚ) / 100) * ((sorted.length - 1 : Nat) : ℚ))
    sorted.getD (min ⌊rank + 1 / 2⌋.toNat (sorted.length - 1)) 0

/-- The row that `flushMetricsSummary` inserts for a bucket. -/
def MetricsAccumulator.summary (key : SLAMetricsKey) (b : MetricsAccumulator) :
    SLAMetricsSummary :=
  let sorted := b.elapsedMinutes.insertionSort (· ≤ ·)
  { key := key, totalCount := b.totalCount, completedCount := b.completedCount
    breachedCount := b.breachedCount
    avgElapsedMinutes :=
      if sorted.length = 0 then 0
      else Binary64.round (Binary64.round sorted.sum / Binary64.round sorted.length)
    p50ElapsedMinutes := percentile sorted 50
    p95ElapsedMinutes := percentile sorted 95
    p99ElapsedMinutes := percentile sorted 99
    totalPauseMinutes := b.totalPauseMins }

/-- The conflict clause: counts are added, the rest is overwritten. -/
def SLAMetricsSummary.merge (row excluded : SLAMetricsSummary) : SLAMetricsSummary :=
  { excluded with
    totalCount := row.totalCount + excluded.totalCount
    completedCount := row.completedCount + excluded.completedCount
    breachedCount := row.breachedCount + excluded.breachedCount
    totalPauseMinutes := row.totalPauseMinutes + excluded.totalPauseMinutes }

def flushMetricsSummary (metrics : List (SLAMetricsKey × MetricsAccumulator)) (s : Store) : Store :=
  metrics.foldl (fun s m =>
    let row := m.2.summary m.1
    match s.metricsSummary.find? (fun old => old.key == m.1) with
    | some (k, _) => { s with metricsSummary := s.metricsSummary.updateAt k (·.merge row) }
    | none => { s with metricsSummary := s.metricsSummary.insert row }) s

/-! ## Issuing -/

structure SweepState where
  store : Store
  /-- The events given to the publisher, first to last. -/
  emitted : List Event := []
  metrics : List (SLAMetricsKey × MetricsAccumulator) := []

def SweepState.publish (w : SweepState) (e : Event) : SweepState :=
  { w with store := w.store.publish e, emitted := w.emitted ++ [e] }

/-- The event of a candidate, with the rest of its payload. -/
def SweepCandidate.event (c : SweepCandidate) (eventType : EventType)
    (rest : List (String × Json)) : Event :=
  { eventType := eventType, caseId := some c.clock.caseId, taskId := c.clock.taskId
    payload := .obj (c.clock.fields ++ rest), targetService := "case-orchestrator" }

def SLABreachAction.text : SLABreachAction → String
  | .escalateToSupervisor => "ESCALATE_TO_SUPERVISOR"
  | .autoReassign => "AUTO_REASSIGN"
  | .createExceptionCase => "CREATE_EXCEPTION_CASE"
  | .notifyOnly => "NOTIFY_ONLY"
  | .other name => name

def SLABreachSeverity.text : SLABreachSeverity → String
  | .minor => "MINOR"
  | .moderate => "MODERATE"
  | .major => "MAJOR"
  | .critical => "CRITICAL"

/-- `UPDATE .. SET marker = now WHERE id = .. AND marker IS NULL`; none when no row is hit. -/
def markClock (s : Store) (clock : Clock) (marker : SLAColumns → Option Instant)
    (mark : SLAColumns → SLAColumns) : Option Store :=
  match clock.entityType with
  | .task =>
    match s.tasks.get? clock.entityId with
    | some t =>
      if (marker t.sla).isNone then
        some (s.updateTask clock.entityId
          (fun t => { t with sla := mark t.sla, version := t.version + 1 }))
      else none
    | none => none
  | .case =>
    match s.cases.get? clock.entityId with
    | some c =>
      if (marker c.sla).isNone then
        some (s.updateCase clock.entityId
          (fun c => { c with sla := mark c.sla, rowVersion := c.rowVersion + 1 }))
      else none
    | none => none
  | .stage | .activity => none

/-- `issueTaskWarning` and `issueCaseWarning`. -/
def issueWarning (ctx : Ctx) (c : SweepCandidate) (w : SweepState) : SweepState :=
  match markClock w.store c.clock (·.warningIssuedAt)
      (fun sla => { sla with warningIssuedAt := some ctx.now }) with
  | none => w
  | some s => { w with store := s }.publish
      (c.event .slaWarning [("threshold_percent", .num c.warningPct)])

/-- The common part of `issueTaskCritical` and `issueCaseCritical`; `escalate` is what happens
    between the marker and the event. -/
def issueCritical (ctx : Ctx) (c : SweepCandidate) (escalate : Store → Store) (w : SweepState) :
    SweepState :=
  match markClock w.store c.clock (·.criticalIssuedAt)
      (fun sla => { sla with criticalIssuedAt := some ctx.now }) with
  | none => w
  | some s => { w with store := escalate s }.publish
      (c.event .slaCritical
        [("threshold_percent", .num c.criticalPct), ("action", .str c.action.text)])

def issueTaskCritical (ctx : Ctx) (c : SweepCandidate) (w : SweepState) : SweepState :=
  issueCritical ctx c (fun s =>
    if c.action = .escalateToSupervisor then
      s.updateTask c.clock.entityId
        (fun t => { t with priority := max t.priority 4, version := t.version + 1 })
    else s) w

def issueCaseCritical (ctx : Ctx) (c : SweepCandidate) (w : SweepState) : SweepState :=
  issueCritical ctx c id w

/-- The newest active version of `EXCEPTION_HANDLING`. -/
def exceptionCaseType (s : Store) : Option (Id × CaseType) :=
  (s.caseTypes.rows.filter (fun r => r.2.code == "EXCEPTION_HANDLING" &&
    r.2.status == .active)).foldl
    (fun best r =>
      match best with
      | some b => if b.2.version < r.2.version then some r else some b
      | none => some r) none

/-- Its error is only logged. -/
def createExceptionCase (ctx : Ctx) (parentCaseId : Id) (severity : SLABreachSeverity)
    (s : Store) : Store :=
  match exceptionCaseType s with
  | none => s
  | some (caseTypeId, _) =>
    { s with
      cases := s.cases.insert
        { caseTypeId := caseTypeId, parentCaseId := some parentCaseId, status := .open
          metadata := .obj [("parent_case_id", .uuid parentCaseId), ("reason", .str "SLA_BREACH"),
            ("severity", .str severity.text)]
          currentStageOrdinal := 1, maxReworkAttempts := 3, createdAt := ctx.now } }

/-- Its error is only logged. -/
def executeTaskBreachAction (ctx : Ctx) (c : SweepCandidate) (s : Store) : Store :=
  match c.action with
  | .escalateToSupervisor =>
    s.updateTask c.clock.entityId (fun t =>
      { t with
        priority := 4, workbasketId := ctx.escalationWorkbasket, version := t.version + 1 })
  | .autoReassign =>
    s.updateTask c.clock.entityId (fun t =>
      { t with
        assigneeId := none, assignedService := none, status := .pending
        version := t.version + 1 })
  | .createExceptionCase => createExceptionCase ctx c.clock.caseId .critical s
  | .notifyOnly | .other _ => s

/-- Insert a breach log row unless the entity has one for this cycle. -/
def logBreach (s : Store) (row : SLABreachLog) : Store :=
  match s.breachLog.find? (fun l => l.entityType == row.entityType && l.entityId == row.entityId &&
    l.slaCycle == row.slaCycle) with
  | some _ => s
  | none => { s with breachLog := s.breachLog.insert row }

/-- The common part of `breachTask` and `breachCase`; `react` is the breach action. -/
def breach (ctx : Ctx) (c : SweepCandidate) (elapsed duration : Duration)
    (react : SLABreachSeverity → Store → Store) (w : SweepState) : SweepState :=
  match markClock w.store c.clock (·.breachDetectedAt)
      (fun sla => { sla with breachDetectedAt := some ctx.now }) with
  | none => w
  | some s =>
    let severity := computeBreachSeverity elapsed duration
    let s := logBreach s
      { entityType := c.clock.entityType, entityId := c.clock.entityId
        breachDetectedAt := ctx.now, originalDueAt := c.dueAt, assigneeAtBreach := c.assignee
        elapsedTimeMinutes := elapsed.tdiv minute, breachSeverity := severity
        breachActionTaken := c.action, slaCycle := c.slaCycle, taskId := c.clock.taskId
        caseId := c.clock.caseId }
    { w with store := react severity s }.publish
      (c.event .slaBreached
        [("breach_severity", .str severity.text), ("action", .str c.action.text)])

def breachTask (ctx : Ctx) (c : SweepCandidate) (elapsed duration : Duration) (w : SweepState) :
    SweepState :=
  breach ctx c elapsed duration (fun _ => executeTaskBreachAction ctx c) w

def breachCase (ctx : Ctx) (c : SweepCandidate) (elapsed duration : Duration) (w : SweepState) :
    SweepState :=
  breach ctx c elapsed duration (fun severity s =>
    if c.action = .createExceptionCase then createExceptionCase ctx c.clock.caseId severity s
    else s) w

/-! ## The pass -/

/-- The working time of a candidate; none when the loop skips it. -/
def SweepCandidate.elapsed? (ctx : Ctx) (c : SweepCandidate) : Option Duration :=
  match c.sla.calendarId with
  | none => none
  | some calendarId =>
    if c.durationMs ≤ 0 then none
    else (ctx.businessHoursElapsed c.start ctx.now calendarId).toOption

/-- The three tests of a candidate and what they issue. -/
def issueAll (ctx : Ctx) (c : SweepCandidate) (elapsed : Duration)
    (critical : SweepState → SweepState) (breach : Duration → SweepState → SweepState)
    (w : SweepState) : SweepState :=
  let duration := ofMilliseconds c.durationMs
  let w := if c.warns elapsed duration then issueWarning ctx c w else w
  let w := if c.turnsCritical elapsed duration then critical w else w
  if c.breaches ctx.now then breach duration w else w

def countTask (ctx : Ctx) (c : SweepCandidate) (elapsed : Duration) (w : SweepState) :
    SweepState :=
  let key : SLAMetricsKey :=
    { metricDate := ctx.now / dayLength, caseTypeCode := c.caseTypeCode, stageCode := c.stageCode
      activityCode := c.activityCode, taskDefinitionCode := c.taskDefinitionCode }
  let add (b : MetricsAccumulator) : MetricsAccumulator :=
    { totalCount := b.totalCount + 1
      completedCount := if c.isTerminal then b.completedCount + 1 else b.completedCount
      breachedCount :=
        if c.breaches ctx.now || c.sla.breachDetectedAt.isSome then b.breachedCount + 1
        else b.breachedCount
      elapsedMinutes := b.elapsedMinutes ++ [elapsed.tdiv minute]
      totalPauseMins :=
        match totalPauseMinutes w.store .task c.clock.entityId with
        | .ok mins => b.totalPauseMins + mins
        | .error _ => b.totalPauseMins }
  if w.metrics.any (fun m => m.1 == key) then
    { w with metrics := w.metrics.map (fun m => if m.1 = key then (key, add m.2) else m) }
  else { w with metrics := w.metrics ++ [(key, add {})] }

/-- The body of the loop of `processTaskBatch`. -/
def sweepTask (ctx : Ctx) (w : SweepState) (c : SweepCandidate) : SweepState :=
  match c.elapsed? ctx with
  | none => w
  | some elapsed =>
    countTask ctx c elapsed
      (issueAll ctx c elapsed (issueTaskCritical ctx c) (breachTask ctx c elapsed) w)

def processTaskBatch (job : SLASweepJob) (ctx : Ctx) (w : SweepState) : SweepState :=
  (job.taskCandidates w.store).foldl (sweepTask ctx) w

/-- The body of the loop of `processCaseBatch`. -/
def sweepCase (ctx : Ctx) (w : SweepState) (c : SweepCandidate) : SweepState :=
  match c.elapsed? ctx with
  | none => w
  | some elapsed => issueAll ctx c elapsed (issueCaseCritical ctx c) (breachCase ctx c elapsed) w

def processCaseBatch (job : SLASweepJob) (ctx : Ctx) (w : SweepState) : Except Err SweepState :=
  if job.lenient then .ok ((job.caseCandidates w.store).foldl (sweepCase ctx) w)
  else .error ("processCaseBatch: query candidates: missing destination name case_sla_cycle " ++
    "in *[]sla.caseSweepCandidate")

/-- The events it published, and the store it committed. -/
def SLASweepJob.run (job : SLASweepJob) (ctx : Ctx) (s : Store) : List Event × Except Err Store :=
  let w := processTaskBatch job ctx { store := s }
  match processCaseBatch job ctx w with
  | .error e => (w.emitted, .error ("SLASweepJob.Run: case batch: " ++ e))
  | .ok w => (w.emitted, .ok (flushMetricsSummary w.metrics w.store))

/-- What each of the three tests keeps, all of them keep. -/
theorem issueAll_rel {R : SweepState → SweepState → Prop} {ctx : Ctx} {c : SweepCandidate}
    {elapsed : Duration} {critical : SweepState → SweepState}
    {breach : Duration → SweepState → SweepState} (hrefl : ∀ w, R w w)
    (htrans : ∀ {w₁ w₂ w₃}, R w₁ w₂ → R w₂ w₃ → R w₁ w₃)
    (hwarning : c.warns elapsed (ofMilliseconds c.durationMs) = true →
      ∀ w, R w (issueWarning ctx c w))
    (hcritical : c.turnsCritical elapsed (ofMilliseconds c.durationMs) = true →
      ∀ w, R w (critical w))
    (hbreach : c.breaches ctx.now = true → ∀ w, R w (breach (ofMilliseconds c.durationMs) w))
    (w : SweepState) : R w (issueAll ctx c elapsed critical breach w) := by
  have hpick : ∀ {p : Bool} {f : SweepState → SweepState}, (p = true → ∀ w, R w (f w)) →
      ∀ w, R w (if p then f w else w) := by
    intro p f hf w
    cases p with
    | false => exact hrefl w
    | true => exact hf rfl w
  exact htrans (htrans (hpick hwarning _) (hpick hcritical _)) (hpick hbreach _)

theorem countTask_frame (ctx : Ctx) (c : SweepCandidate) (elapsed : Duration) (w : SweepState) :
    (countTask ctx c elapsed w).store = w.store ∧
      (countTask ctx c elapsed w).emitted = w.emitted := by
  unfold countTask
  dsimp only
  split <;> exact ⟨rfl, rfl⟩

/-- A relation that every write of a pass for a candidate keeps. -/
structure WrittenFor (c : SweepCandidate) (R : Store → Store → Prop) : Prop where
  refl : ∀ s, R s s
  trans : ∀ {s s' s''}, R s s' → R s' s'' → R s s''
  mark : ∀ {s s' marker mark}, markClock s c.clock marker mark = some s' → R s s'
  log : ∀ s row, R s (logBreach s row)
  task : ∀ s k f, R s (s.updateTask k f)
  exceptionCase : ∀ ctx k severity s, R s (createExceptionCase ctx k severity s)
  publish : ∀ s e, R s (s.publish e)

namespace WrittenFor

variable {R : Store → Store → Prop} {c : SweepCandidate} {ctx : Ctx} {elapsed : Duration}
  {w : SweepState} (h : WrittenFor c R)

include h

theorem issueAll {escalate : Store → Store} {react : SLABreachSeverity → Store → Store}
    (hescalate : ∀ s, R s (escalate s)) (hreact : ∀ severity s, R s (react severity s)) :
    R w.store (issueAll ctx c elapsed (issueCritical ctx c escalate)
      (fun duration => breach ctx c elapsed duration react) w).store := by
  refine issueAll_rel (R := fun w w' => R w.store w'.store) (fun _ => h.refl _) h.trans ?_ ?_ ?_ w
  · intro _ w
    unfold issueWarning
    split
    · exact h.refl _
    · next hmark => exact h.trans (h.mark hmark) (h.publish _ _)
  · intro _ w
    unfold issueCritical
    split
    · exact h.refl _
    · next hmark => exact h.trans (h.trans (h.mark hmark) (hescalate _)) (h.publish _ _)
  · intro _ w
    unfold breach
    split
    · exact h.refl _
    · next hmark =>
      exact h.trans (h.trans (h.trans (h.mark hmark) (h.log _ _)) (hreact _ _)) (h.publish _ _)

theorem issueTask : R w.store
    (LoanWorkflow.issueAll ctx c elapsed (issueTaskCritical ctx c) (breachTask ctx c elapsed) w).store := by
  refine h.issueAll (fun s => ?_) fun _ s => ?_
  · split
    · exact h.task _ _ _
    · exact h.refl s
  · unfold executeTaskBreachAction
    split
    · exact h.task _ _ _
    · exact h.task _ _ _
    · exact h.exceptionCase _ _ _ s
    · exact h.refl s
    · exact h.refl s

theorem sweepCase : R w.store (sweepCase ctx w c).store := by
  unfold LoanWorkflow.sweepCase
  split
  · exact h.refl _
  · refine h.issueAll h.refl fun _ s => ?_
    split
    · exact h.exceptionCase _ _ _ s
    · exact h.refl s

end WrittenFor

end LoanWorkflow
