import LoanWorkflow.Engine.CaseCreation
import LoanWorkflow.Integration.DealDiff
import LoanWorkflow.Integration.DealIngestion
import LoanWorkflow.Sla.Calendar

/-! # The case of a deal

    A deal in document verification has a case with the tasks of its
    checklist. The ingestion of a snapshot opens the case, refreshes its copy
    of the snapshot, adds the tasks of what a material change has added, or
    cancels it. Which of these is done depends on the status of the deal, the
    open cases of the deal, and, if there is none, on the case of the deal
    with the latest `created_at`.
-/

namespace LoanWorkflow

open List

variable {s : Store} {dealId tenantId : String}
variable {k : Id} {diff : Option DealDiff}

/-! ## Priorities and dates -/

def determineCasePriority (approvedAmount : ℚ) : String :=
  if approvedAmount < 1000000 then "NORMAL"
  else if approvedAmount ≤ 5000000 then "HIGH"
  else "URGENT"

/-- `mapCasePriorityToTaskPriority`, for the priorities of a case. -/
def mapCasePriorityToTaskPriority (priority : String) : Int :=
  match priority with
  | "URGENT" => 4
  | "HIGH" => 3
  | "LOW" => 1
  | _ => 2

/-- `businessDaysForPriority`, for the priorities of a case. -/
def businessDaysForPriority (priority : String) : Nat :=
  match priority with
  | "URGENT" => 1
  | "HIGH" => 3
  | _ => 5

/-- Saturday or Sunday. -/
def isWeekend (at_ : Instant) : Bool :=
  let day := weekday (at_ / dayLength)
  day == 6 || day == 0

/-- The next day in a direction that is no weekend; a weekend has two days. -/
def nextBusinessDay (step : Duration) (cursor : Instant) : Instant :=
  let cursor := cursor + step
  if isWeekend cursor then
    let cursor := cursor + step
    if isWeekend cursor then cursor + step else cursor
  else cursor

def addBusinessDays (start : Instant) (days : Nat) : Instant := (nextBusinessDay dayLength)^[days] start

def subtractBusinessDays (start : Instant) (days : Nat) : Instant :=
  (nextBusinessDay (-dayLength))^[days] start

/-! ## Tasks of a case -/

def dealTaskKey (caseId : Id) (task : GeneratedDealTask) : String :=
  "deal-task:" ++ toString caseId ++ ":" ++ task.taskType.text ++ ":" ++
    trimSpace task.contextRef.entityId

def TaskContextRef.json (ref : TaskContextRef) : Json :=
  .obj [("entityType", .str ref.entityType), ("entityId", .str ref.entityId),
    ("entityLabel", .str ref.entityLabel)]

def generatedTaskRow (startedAt : Instant) (tenantId : String) (caseId : Id) (casePriority : String)
    (task : GeneratedDealTask) : Task where
  tenantId := tenantId
  caseId := caseId
  taskDefinitionCode := task.taskType.text
  activityCode := "DOCUMENT_VERIFICATION_ACTIVITY"
  stageCode := "DOCUMENT_VERIFICATION"
  status := .pending
  priority := mapCasePriorityToTaskPriority casePriority
  maxRetries := 3
  inputPayload := .obj [("taskType", .str task.taskType.text), ("title", .str task.title),
    ("contextRef", task.contextRef.json)]
  idempotencyKey := dealTaskKey caseId task
  createdAt := startedAt

/-- A key that is in use is not inserted again. -/
def insertGeneratedTask (startedAt : Instant) (tenantId : String) (caseId : Id)
    (casePriority : String) (tasks : Table Task) (task : GeneratedDealTask) : Table Task :=
  match tasks.find? (fun t => t.idempotencyKey == dealTaskKey caseId task) with
  | some _ => tasks
  | none => tasks.insert (generatedTaskRow startedAt tenantId caseId casePriority task)

def insertGeneratedTasks (startedAt : Instant) (tenantId : String) (caseId : Id)
    (casePriority : String) (tasks : Table Task) (new : List GeneratedDealTask) : Table Task :=
  new.foldl (insertGeneratedTask startedAt tenantId caseId casePriority) tasks

/-! ## Cases of a deal -/

/-- The cases that are linked to a deal of a tenant. -/
def linkedCases (s : Store) (tenantId dealId : String) : List (Id × CaseInstance) :=
  (s.caseDealLinks.rows.filter
    (fun r => r.2.tenantId == tenantId && r.2.dealId == dealId)).filterMap
    (fun r => (s.cases.get? r.2.caseId).map (fun c => (r.2.caseId, c)))

/-- The statuses of an open case; the others that the query names are not used. -/
def CaseStatus.isOpenForDeal : CaseStatus → Bool
  | .open | .inProgress => true
  | _ => false

/-- The latest `created_at` first. -/
def newestFirst (cases : List (Id × CaseInstance)) : List (Id × CaseInstance) :=
  cases.insertionSort (fun a b => b.2.createdAt ≤ a.2.createdAt)

def getOpenCasesByDealID (s : Store) (tenantId dealId : String) : List (Id × CaseInstance) :=
  newestFirst ((linkedCases s tenantId dealId).filter (fun r => r.2.status.isOpenForDeal))

def getLatestCaseByDealID (s : Store) (tenantId dealId : String) : Option (Id × CaseInstance) :=
  (newestFirst (linkedCases s tenantId dealId)).head?

def isClosedLikeStatus (status : CaseStatus) : Bool := status == .completed

def getDocumentVerificationType (s : Store) (tenantId : String) : Except Err (Id × CaseType) :=
  let candidates := s.caseTypes.rows.filter fun r =>
    r.2.code == "DOCUMENT_VERIFICATION" && decide (r.2.status = .active) && r.2.visibleTo tenantId
  orFail (candidates.insertionSort fun a b => a.2.preferred b.2 = true).head?
    "resolve DOCUMENT_VERIFICATION case type: sql: no rows in result set"

structure Ingestion where
  tenantId : String
  /-- `now()` of the transaction: the time at which it began. -/
  startedAt : Instant
  /-- `time.Now()` in the transaction. -/
  now : Instant
  deal : BusinessLendingDeal
  snapshot : Json
  snapshotHash : String

variable {i : Ingestion}

section cases

variable (lib : DealLibrary)

def Ingestion.incomingStatus (i : Ingestion) : String := lib.toUpper (trimSpace i.deal.status)

def dealCase (i : Ingestion) (caseTypeId : Id) : CaseInstance :=
  let priority := determineCasePriority i.deal.approvedLimit.amount
  let targetDate := addBusinessDays i.now (businessDaysForPriority priority)
  let warningDate := subtractBusinessDays targetDate 1
  { tenantId := i.tenantId
    caseTypeId := caseTypeId
    currentStageCode := some "DOCUMENT_VERIFICATION"
    currentStageOrdinal := 1
    status := .open
    metadata := .obj [("deal_id", .str i.deal.dealId), ("deal_name", .str i.deal.dealName),
      ("customer_reference", .str i.deal.customerReference),
      ("trigger_deal_status", .str "DOCUMENT_VERIFICATION"), ("case_priority", .str priority),
      ("sla", .obj [("targetCompletionDate", .str (lib.formatDate targetDate)),
        ("warningThresholdDate", .str (lib.formatDate warningDate))])]
    createdAt := i.startedAt }

def dealLink (i : Ingestion) (caseId : Id) : CaseDealLink :=
  let priority := determineCasePriority i.deal.approvedLimit.amount
  let targetDate := addBusinessDays i.now (businessDaysForPriority priority)
  let warningDate := subtractBusinessDays targetDate 1
  { caseId := caseId
    tenantId := i.tenantId
    dealId := i.deal.dealId
    dealName := i.deal.dealName
    customerReference := i.deal.customerReference
    triggerDealStatus := "DOCUMENT_VERIFICATION"
    currentDealStatus := some (i.incomingStatus lib)
    umbrellaLimitAmount := i.deal.approvedLimit.amount
    umbrellaLimitCurrency := i.deal.approvedLimit.currency
    dealSnapshot := i.snapshot
    dealSnapshotHash := i.snapshotHash
    lastSnapshotRefreshedAt := i.now
    casePriority := priority
    slaTargetCompletionDate := lib.formatDate targetDate
    slaWarningThresholdDate := lib.formatDate warningDate
    notifyAssignee := false }

def withDealCase (i : Ingestion) (caseTypeId : Id) (s : Store) : Store :=
  { s with
    cases := s.cases.insert (dealCase lib i caseTypeId)
    caseDealLinks := s.caseDealLinks.insert (dealLink lib i s.cases.fresh)
    tasks := insertGeneratedTasks i.startedAt i.tenantId s.cases.fresh
      (determineCasePriority i.deal.approvedLimit.amount) s.tasks (generateTasksForDeal lib i.deal) }

/-- `createDocumentVerificationCase`, without the timeline and the tags of the case. -/
def createDocumentVerificationCase (i : Ingestion) (s : Store) : Except Err (Id × Store) := do
  let (caseTypeId, _) ← getDocumentVerificationType s i.tenantId
  return (s.cases.fresh, withDealCase lib i caseTypeId s)

def updateCaseSnapshot (i : Ingestion) (caseId : Id) (notifyAssignee : Bool) (s : Store) : Store :=
  { s with
    caseDealLinks := s.caseDealLinks.updateWhere
      (fun link => link.caseId == caseId && link.tenantId == i.tenantId)
      (fun link => { link with
        dealName := i.deal.dealName
        customerReference := i.deal.customerReference
        currentDealStatus := some (i.incomingStatus lib)
        umbrellaLimitAmount := i.deal.approvedLimit.amount
        umbrellaLimitCurrency := i.deal.approvedLimit.currency
        dealSnapshot := i.snapshot
        dealSnapshotHash := i.snapshotHash
        lastSnapshotRefreshedAt := i.now
        notifyAssignee := notifyAssignee }) }

def additions (i : Ingestion) (diff : DealDiff) : List GeneratedDealTask :=
  generateTasksForMaterialAdditions lib i.deal diff.partiesAdded diff.facilitiesAdded
    diff.collateralsAdded

def addTasksForMaterialAdditions (i : Ingestion) (caseId : Id) (diff : DealDiff) (s : Store) :
    Store :=
  { s with
    tasks := insertGeneratedTasks i.startedAt i.tenantId caseId
      (determineCasePriority i.deal.approvedLimit.amount) s.tasks (additions lib i diff) }

/-! ## The case action -/

inductive DealIngestOutcome where
  | idempotentNoOp
  | firstIngestion
  | updated
  | exceptionRequiresReview
deriving DecidableEq, Repr

inductive DealCaseAction where
  | none
  | created
  | snapshotRefreshed
  | dealChangeFlagged
  | closedCaseRecreated
  | cancelledDueToStatusTransition
deriving DecidableEq, Repr

structure IngestExceptionDetail where
  code : String
  description : String
  suggestedAction : String
deriving DecidableEq

structure ProblemDetail where
  title : String
  status : Nat
  detail : String := ""
deriving DecidableEq

/-- A failure with the status of an internal error. -/
def orProblem {α : Type} (title : String) (x : Except Err α) : Except ProblemDetail α :=
  x.mapError fun e => { title := title, status := 500, detail := e }

/-- What a case action has done: the action, its case, an exception, and the store. -/
structure CaseAction where
  action : DealCaseAction
  caseId : Option Id := .none
  exceptionDetail : Option IngestExceptionDetail := .none
  store : Store

/-- The exception for a latest case in another status. -/
def unhandledScenario (status : CaseStatus) : IngestExceptionDetail where
  code := "UNHANDLED_SCENARIO"
  description := "latest case status " ++ status.text ++ " is not covered for re-open decision"
  suggestedAction := "Review case lifecycle state and decide whether a new document " ++
    "verification case should be opened."

/-- A deal in document verification without an open case. -/
def openCaseForDeal (i : Ingestion) (s : Store) : Except ProblemDetail CaseAction := do
  let create (action : DealCaseAction) : Except ProblemDetail CaseAction := do
    let (caseId, s') ← orProblem "Case Action Failure" (createDocumentVerificationCase lib i s)
    return { action := action, caseId := caseId, store := s' }
  match getLatestCaseByDealID s i.tenantId i.deal.dealId with
  | none => create .created
  | some (_, latest) =>
    if isClosedLikeStatus latest.status then create .closedCaseRecreated
    else if latest.status = .cancelled then create .created
    else return { action := .none, exceptionDetail := unhandledScenario latest.status, store := s }

def determineAndApplyCaseAction (i : Ingestion) (outcome : DealIngestOutcome)
    (diff : Option DealDiff) (s : Store) : Except ProblemDetail CaseAction :=
  match getOpenCasesByDealID s i.tenantId i.deal.dealId with
  | _ :: _ :: _ =>
    .error { title := "Case Integrity Violation — Duplicate Open Cases", status := 500
             detail := "multiple open cases exist for deal: dealId=" ++ i.deal.dealId }
  | [] =>
    if i.incomingStatus lib = "DOCUMENT_VERIFICATION" then openCaseForDeal lib i s
    else .ok { action := .none, store := s }
  | [(caseId, _)] =>
    if i.incomingStatus lib = "DOCUMENT_VERIFICATION" then
      match outcome, diff with
      | .updated, some diff =>
        if diff.isMaterial then
          .ok { action := .dealChangeFlagged, caseId := caseId
                store := addTasksForMaterialAdditions lib i caseId diff
                  (updateCaseSnapshot lib i caseId true s) }
        else
          .ok { action := .snapshotRefreshed, caseId := caseId
                store := updateCaseSnapshot lib i caseId false s }
      | .updated, none =>
        .ok { action := .snapshotRefreshed, caseId := caseId
              store := updateCaseSnapshot lib i caseId false s }
      | _, _ => .ok { action := .none, caseId := caseId, store := s }
    else if i.incomingStatus lib = "DECLINED" ∨ i.incomingStatus lib = "CLOSED" then do
      let s ← orProblem "Case Action Failure"
        (cancelCaseForDealStatus lib.toLibrary i.now i.tenantId caseId (i.incomingStatus lib) s)
      return { action := .cancelledDueToStatusTransition, caseId := caseId, store := s }
    else
      .ok { action := .snapshotRefreshed, caseId := caseId
            store := updateCaseSnapshot lib i caseId false s }

/-- What the case action of an ingestion can do. -/
inductive CaseStep (i : Ingestion) (outcome : DealIngestOutcome) (diff : Option DealDiff)
    (s : Store) : CaseAction → Prop
  | idle (hopen : getOpenCasesByDealID s i.tenantId i.deal.dealId = [])
      (hstatus : i.incomingStatus lib ≠ "DOCUMENT_VERIFICATION") :
      CaseStep i outcome diff s { action := .none, store := s }
  | unhandled {k : Id} {c : CaseInstance}
      (hopen : getOpenCasesByDealID s i.tenantId i.deal.dealId = [])
      (hlatest : getLatestCaseByDealID s i.tenantId i.deal.dealId = some (k, c))
      (hother : c.status ≠ .completed ∧ c.status ≠ .cancelled) :
      CaseStep i outcome diff s
        { action := .none, exceptionDetail := unhandledScenario c.status, store := s }
  | created (hopen : getOpenCasesByDealID s i.tenantId i.deal.dealId = [])
      (hstatus : i.incomingStatus lib = "DOCUMENT_VERIFICATION")
      (hlatest : ∀ k c, getLatestCaseByDealID s i.tenantId i.deal.dealId = some (k, c) →
        c.status = .completed ∨ c.status = .cancelled)
      (action : DealCaseAction) (caseTypeId : Id) :
      CaseStep i outcome diff s
        { action := action, caseId := s.cases.fresh, store := withDealCase lib i caseTypeId s }
  | untouched {k : Id} {c : CaseInstance}
      (hopen : getOpenCasesByDealID s i.tenantId i.deal.dealId = [(k, c)])
      (houtcome : outcome ≠ .updated) :
      CaseStep i outcome diff s { action := .none, caseId := k, store := s }
  | refreshed {k : Id} {c : CaseInstance}
      (hopen : getOpenCasesByDealID s i.tenantId i.deal.dealId = [(k, c)])
      (hdiff : i.incomingStatus lib = "DOCUMENT_VERIFICATION" →
        ∀ d, diff = some d → d.isMaterial = false) :
      CaseStep i outcome diff s
        { action := .snapshotRefreshed, caseId := k, store := updateCaseSnapshot lib i k false s }
  | flagged {k : Id} {c : CaseInstance} {d : DealDiff}
      (hopen : getOpenCasesByDealID s i.tenantId i.deal.dealId = [(k, c)])
      (hdiff : diff = some d) (hmaterial : d.isMaterial = true) :
      CaseStep i outcome diff s
        { action := .dealChangeFlagged, caseId := k
          store := addTasksForMaterialAdditions lib i k d (updateCaseSnapshot lib i k true s) }
  | cancelled {k : Id} {c : CaseInstance} {s' : Store}
      (hopen : getOpenCasesByDealID s i.tenantId i.deal.dealId = [(k, c)])
      (hstatus : i.incomingStatus lib ≠ "DOCUMENT_VERIFICATION")
      (hcancel : cancelCaseForDealStatus lib.toLibrary i.now i.tenantId k (i.incomingStatus lib) s =
        .ok s') :
      CaseStep i outcome diff s
        { action := .cancelledDueToStatusTransition, caseId := k, store := s' }

variable {r : CaseAction} {outcome : DealIngestOutcome}

theorem createDocumentVerificationCase_eq_ok {s' : Store}
    (h : createDocumentVerificationCase lib i s = .ok (k, s')) :
    k = s.cases.fresh ∧ ∃ caseTypeId, s' = withDealCase lib i caseTypeId s := by
  obtain ⟨⟨caseTypeId, ct⟩, -, h⟩ := bind_ok h
  cases h
  exact ⟨rfl, caseTypeId, rfl⟩

theorem openCaseForDeal_cases (hopen : getOpenCasesByDealID s i.tenantId i.deal.dealId = [])
    (hstatus : i.incomingStatus lib = "DOCUMENT_VERIFICATION")
    (h : openCaseForDeal lib i s = .ok r) : CaseStep lib i outcome diff s r := by
  -- all three ways to a new case end in the same store
  have hcreate : ∀ action, (∀ k c, getLatestCaseByDealID s i.tenantId i.deal.dealId = some (k, c) →
      c.status = .completed ∨ c.status = .cancelled) →
      (do let (caseId, s') ← orProblem "Case Action Failure" (createDocumentVerificationCase lib i s)
          return { action := action, caseId := caseId, store := s' }) = Except.ok r →
      CaseStep lib i outcome diff s r := by
    intro action hlatest hrun
    obtain ⟨⟨k, s'⟩, hcase, hrun⟩ := bind_ok hrun
    obtain ⟨rfl, caseTypeId, rfl⟩ :=
      createDocumentVerificationCase_eq_ok lib (mapError_eq_ok.mp hcase)
    cases hrun
    exact .created hopen hstatus hlatest action caseTypeId
  unfold openCaseForDeal at h
  split at h
  · next hnone =>
    refine hcreate _ ?_ h
    intro k c hlatest
    rw [hnone] at hlatest
    cases hlatest
  · next k latest hsome =>
    split at h
    · next hclosed =>
      refine hcreate _ ?_ h
      intro k' c hlatest
      rw [hsome] at hlatest
      cases hlatest
      exact .inl (by simpa [isClosedLikeStatus] using hclosed)
    · split at h
      · next hcancelled =>
        refine hcreate _ ?_ h
        intro k' c hlatest
        rw [hsome] at hlatest
        cases hlatest
        exact .inr hcancelled
      · next hclosed hcancelled =>
        cases h
        refine .unhandled hopen hsome ⟨?_, hcancelled⟩
        intro hcompleted
        exact hclosed (by simp [isClosedLikeStatus, hcompleted])

/-- The case action does one of these things. -/
theorem determineAndApplyCaseAction_cases
    (h : determineAndApplyCaseAction lib i outcome diff s = .ok r) :
    CaseStep lib i outcome diff s r := by
  unfold determineAndApplyCaseAction at h
  split at h
  · cases h
  · next hopen =>
    split at h
    · next hstatus => exact openCaseForDeal_cases lib hopen hstatus h
    · next hstatus =>
      cases h
      exact .idle hopen hstatus
  · next k c hopen =>
    split at h
    · next hstatus =>
      split at h
      · next d =>
        split at h
        · next hmaterial =>
          cases h
          exact .flagged hopen rfl hmaterial
        · next hmaterial =>
          cases h
          refine .refreshed hopen fun _ d' hd => ?_
          cases hd
          exact Bool.eq_false_iff.mpr hmaterial
      · cases h
        exact .refreshed hopen fun _ d hd => by cases hd
      · next hsome hnone =>
        cases h
        refine .untouched hopen ?_
        intro houtcome
        cases hdiff : diff with
        | none => exact hnone houtcome hdiff
        | some d => exact hsome d houtcome hdiff
    · next hstatus =>
      split at h
      · obtain ⟨s', hcancel, h⟩ := bind_ok h
        cases h
        exact .cancelled hopen hstatus (mapError_eq_ok.mp hcancel)
      · cases h
        exact .refreshed hopen fun hdv => absurd hdv hstatus

end cases

variable {r : CaseAction} {outcome : DealIngestOutcome}

/-! ## Reading the links -/

theorem mem_linkedCases {c : CaseInstance} :
    (k, c) ∈ linkedCases s tenantId dealId ↔
      s.cases.get? k = some c ∧ ∃ j link, s.caseDealLinks.get? j = some link ∧ link.caseId = k ∧
        link.tenantId = tenantId ∧ link.dealId = dealId := by
  unfold linkedCases
  rw [mem_filterMap]
  constructor
  · rintro ⟨⟨j, link⟩, hrow, hcase⟩
    obtain ⟨hrow, hcond⟩ := mem_filter.mp hrow
    obtain ⟨c', hget, hpair⟩ := Option.map_eq_some_iff.mp hcase
    cases hpair
    simp only [Bool.and_eq_true, beq_iff_eq] at hcond
    exact ⟨hget, j, link, Table.get?_eq_some_iff.mpr hrow, rfl, hcond.1, hcond.2⟩
  · rintro ⟨hget, j, link, hrow, rfl, rfl, rfl⟩
    refine ⟨(j, link), mem_filter.mpr ⟨Table.get?_eq_some_iff.mp hrow, by simp⟩, ?_⟩
    rw [hget]
    rfl

/-- No case of the deal is newer than the latest one. -/
theorem getLatestCaseByDealID_eq_some {r : Id × CaseInstance}
    (h : getLatestCaseByDealID s tenantId dealId = some r) :
    r ∈ linkedCases s tenantId dealId ∧
      ∀ r' ∈ linkedCases s tenantId dealId, r'.2.createdAt ≤ r.2.createdAt := by
  unfold getLatestCaseByDealID at h
  have hsorted : (newestFirst (linkedCases s tenantId dealId)).Pairwise
      (fun a b => b.2.createdAt ≤ a.2.createdAt) := by
    have : Std.Total (fun a b : Id × CaseInstance => b.2.createdAt ≤ a.2.createdAt) :=
      ⟨fun a b => le_total b.2.createdAt a.2.createdAt⟩
    have : IsTrans (Id × CaseInstance) (fun a b => b.2.createdAt ≤ a.2.createdAt) :=
      ⟨fun a b c hab hbc => hbc.trans hab⟩
    exact pairwise_insertionSort _ _
  cases hlist : newestFirst (linkedCases s tenantId dealId) with
  | nil =>
    rw [hlist] at h
    cases h
  | cons first rest =>
    rw [hlist] at h hsorted
    cases h
    have hmem : ∀ r', r' ∈ linkedCases s tenantId dealId ↔ r' ∈ r :: rest := by
      intro r'
      rw [← hlist]
      exact (mem_insertionSort _).symm
    refine ⟨(hmem r).mpr mem_cons_self, ?_⟩
    intro r' hr'
    rcases mem_cons.mp ((hmem r').mp hr') with rfl | hrest
    · exact le_refl _
    · exact rel_of_pairwise_cons hsorted hrest

theorem getLatestCaseByDealID_eq_none
    (h : getLatestCaseByDealID s tenantId dealId = none) : linkedCases s tenantId dealId = [] := by
  unfold getLatestCaseByDealID newestFirst at h
  have hlength := length_insertionSort
    (fun a b : Id × CaseInstance => b.2.createdAt ≤ a.2.createdAt) (linkedCases s tenantId dealId)
  rw [head?_eq_none_iff.mp h] at hlength
  exact length_eq_zero_iff.mp hlength.symm

end LoanWorkflow
