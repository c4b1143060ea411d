import LoanWorkflow.Engine.Lifecycle

/-! # Stages of a case

    Moving a case to another stage, which needs the documents of the stage
    that is left, and completing a case whose tasks are all done.
-/

namespace LoanWorkflow

/-! ## Documents -/

/-- The missing document types of a stage, by code. -/
def checkDocumentRequirements (s : Store) (caseId : Id) (stageCode : String) :
    List DocumentType :=
  let stageCode := trimSpace stageCode
  if stageCode = "" then []
  else
    let requests := (s.documentRequests.rows.map Prod.snd).filter (fun r =>
      r.caseId == caseId && r.requiredAtStage == some stageCode && r.status != .fulfilled &&
        r.status != .waived)
    -- the minimum is read from the document type, not from the request
    let missing := requests.flatMap (fun r =>
      (s.documentTypes.rows.map Prod.snd).filter (fun d =>
        d.caseTypeCode == r.caseTypeCode && d.caseTypeVersion == r.caseTypeVersion &&
          d.documentTypeCode == r.documentTypeCode && decide (r.currentCount < d.requiredCountMin)))
    missing.insertionSort (fun a b => a.documentTypeCode ≤ b.documentTypeCode)

/-- The request that a document type of the entered stage opens. -/
def DocumentType.request (d : DocumentType) (caseId : Id) : DocumentRequest :=
  { caseId := caseId
    caseTypeCode := d.caseTypeCode
    caseTypeVersion := d.caseTypeVersion
    documentTypeCode := d.documentTypeCode
    requiredAtStage := d.requiredAtStage
    requiredCountMin := d.requiredCountMin
    requiredCountMax := d.requiredCountMax }

/-- Insert a request unless the case already has one for this type and stage. -/
def insertDocumentRequest (requests : Table DocumentRequest) (r : DocumentRequest) :
    Table DocumentRequest :=
  match requests.find? (fun r' => r'.caseId == r.caseId &&
    r'.documentTypeCode == r.documentTypeCode && r'.requiredAtStage == r.requiredAtStage) with
  | some _ => requests
  | none => requests.insert r

/-- Open the document requests of a stage that a case enters. -/
def requestStageDocuments (s : Store) (caseId : Id) (ct : CaseType) (stageCode : String) : Store :=
  let types := (s.documentTypes.rows.map Prod.snd).filter (fun d =>
    d.caseTypeCode == ct.code && d.caseTypeVersion == ct.version &&
      d.requiredAtStage == some stageCode && decide (0 < d.requiredCountMin))
  { s with
    documentRequests :=
      (types.map (fun d => d.request caseId)).foldl insertDocumentRequest s.documentRequests }

/-! ## Moving to another stage -/

structure TransitionInput where
  caseId : Id
  toStageCode : String
  toStageOrdinal : Int
  regressionReason : Option String := none
  triggeredBy : String

def CaseInstance.moveTo (c : CaseInstance) (stageCode : String) (ordinal : Int) : CaseInstance :=
  { c with
    currentStageCode := some stageCode
    currentStageOrdinal := ordinal
    status := if c.status = .open then .inProgress else c.status
    rowVersion := c.rowVersion + 1 }

def nilIfZero (v : Int) : Option Int := if v = 0 then none else some v

/-- The documents that stop a case from leaving its stage. -/
def missingStageDocuments (s : Store) (caseId : Id) (c : CaseInstance) : List DocumentType :=
  match c.currentStageCode with
  | some stageCode =>
    if trimSpace stageCode = "" then [] else checkDocumentRequirements s caseId stageCode
  | none => []

/-- The rows that a move writes. The case is locked, so the version check cannot fail. -/
def moveCase (s : Store) (input : TransitionInput) (c : CaseInstance) (ct : CaseType) : Store :=
  let s := s.updateCase input.caseId (fun c => c.moveTo input.toStageCode input.toStageOrdinal)
  let s := requestStageDocuments s input.caseId ct input.toStageCode
  { s with
    stageTransitions := s.stageTransitions.insert
      { caseId := input.caseId
        fromStageCode := c.currentStageCode
        fromOrdinal := nilIfZero c.currentStageOrdinal
        toStageCode := input.toStageCode
        toOrdinal := input.toStageOrdinal
        isRegression := decide (input.toStageOrdinal < c.currentStageOrdinal)
        reason := input.regressionReason
        transitionedBy := input.triggeredBy } }

def recordStageTransition (input : TransitionInput) (s : Store) : Except Err Store := do
  let c ← orFail (s.cases.get? input.caseId)
    ("failed to lock case " ++ toString input.caseId ++ ": no rows in result set")
  let ct ← orFail (s.caseTypes.get? c.caseTypeId)
    ("failed to lock case " ++ toString input.caseId ++ ": no rows in result set")
  ensure (!c.status.isTerminal)
    ("case " ++ toString input.caseId ++ " is in terminal status " ++ c.status.text)
  if c.currentStageCode = some input.toStageCode ∧ c.currentStageOrdinal = input.toStageOrdinal then
    return s
  else
    let missing := missingStageDocuments s input.caseId c
    ensure missing.isEmpty
      ("RecordStageTransition: Missing required documents: [" ++
        " ".intercalate (missing.map (·.documentTypeCode)) ++ "]")
    ensure (!(decide (input.toStageOrdinal < c.currentStageOrdinal) &&
        input.regressionReason.getD "" == ""))
      ("regression_reason is required when transitioning backward (ordinal " ++
        toString c.currentStageOrdinal ++ " → " ++ toString input.toStageOrdinal ++ ")")
    return moveCase s input c ct

/-- What a transition did: nothing when the case is in that stage already, or the move of a
    case that is not closed. -/
inductive TransitionStep (s : Store) (input : TransitionInput) (c : CaseInstance) : Store → Prop
  | stay : TransitionStep s input c s
  | move (ct : CaseType) (hmissing : missingStageDocuments s input.caseId c = []) :
      TransitionStep s input c (moveCase s input c ct)

theorem recordStageTransition_step {input : TransitionInput} {s s' : Store}
    (h : recordStageTransition input s = .ok s') :
    ∃ c, s.cases.get? input.caseId = some c ∧ c.status.isTerminal = false ∧
      TransitionStep s input c s' := by
  obtain ⟨c, hc, h⟩ := bind_ok h
  obtain ⟨ct, -, h⟩ := bind_ok h
  obtain ⟨u, hopen, h⟩ := bind_ok h
  rw [orFail_eq_ok] at hc
  rw [ensure_eq_ok, Bool.not_eq_true'] at hopen
  refine ⟨c, hc, hopen, ?_⟩
  split at h
  · cases h
    exact .stay
  · obtain ⟨u', hdocuments, h⟩ := bind_ok h
    obtain ⟨-, -, h⟩ := bind_ok h
    cases h
    exact .move ct (List.isEmpty_iff.mp (ensure_eq_ok.mp hdocuments))

theorem TransitionStep.cases_others {s s' : Store} {input : TransitionInput} {c : CaseInstance}
    (h : TransitionStep s input c s') : s.cases.AgreesOff input.caseId s'.cases := by
  cases h with
  | stay => exact .refl _ _
  | move ct => exact .updateAt input.caseId s.cases _

/-! ## Completing a case -/

/-- No task of the case is left to do. -/
def evaluateCaseCompletion (s : Store) (caseId : Id) : Bool :=
  s.tasks.count (fun t => t.caseId == caseId && !t.status.isDone) == 0

def CaseInstance.complete (c : CaseInstance) (now : Instant) : CaseInstance :=
  { c with status := .completed, completedAt := some now, rowVersion := c.rowVersion + 1 }

/-- The only check is that the case is not completed yet. -/
def completeCase (now : Instant) (caseId : Id) (s : Store) : Except Err Store := do
  ensure ((s.cases.get? caseId).any (fun c => c.status != .completed))
    ("case " ++ toString caseId ++ " not found or already completed")
  return s.updateCase caseId (fun c => c.complete now)

def evaluateAndCompleteCase (ctx : Ctx) (caseId : Id) (s : Store) : Except Err Store :=
  if evaluateCaseCompletion s caseId then do
    let s ← completeCase ctx.now caseId s
    return s.publish
      { eventType := .caseCompleted, caseId := some caseId
        payload := .obj [("case_id", .uuid caseId)], targetService := "notification-service" }
  else .ok s

end LoanWorkflow
