import LoanWorkflow.Approval.Rejection
import LoanWorkflow.Engine.StageTransition
import LoanWorkflow.Framework.Machine

/-! # Closed cases

    Eleven operations in four packages write the status of a case. Seven of
    them look at the status first; the other four do not, and one of the seven
    looks only for `COMPLETED`. The step lemma `keepsClosed_commit_iff` says
    for each operation exactly when it changes the status of a closed case.
-/

namespace LoanWorkflow

open Option

variable {c : CaseInstance} {status : CaseStatus} {caseId k : Id} {s s' : Store}

/-! ## Events and quality assurance -/

/-- The case that an approval event is about. -/
def Event.approvalCase? (event : Event) : Option Id :=
  event.caseId <|> event.payload.idField? "case_id"

/-- Events that put the case into its rejected status. -/
def Event.rejectsCase (event : Event) : Bool :=
  event.eventType == .caseRejected || event.eventType == .caseMaxReworkExceeded

/-- A case that a late rejection event closes; the first closing time stays. -/
def CaseInstance.rejectLate (c : CaseInstance) (now : Instant) : CaseInstance :=
  { c with
    status := .rejected
    completedAt := some (c.completedAt.getD now)
    rowVersion := c.rowVersion + 1 }

def onApprovalCaseEvent (ctx : Ctx) (event : Event) (s : Store) : Except Err Store := do
  ensure event.payload.isMap "onApprovalCaseEvent: parse payload: json: cannot unmarshal"
  match event.approvalCase? with
  | none => return s
  | some caseId =>
    if event.rejectsCase then
      return s.updateCase caseId (fun c => c.rejectLate ctx.now)
    else return s

def CaseInstance.passQA (c : CaseInstance) (now : Instant) (approvedBy : String) : CaseInstance :=
  { c.complete now with
    metadata := c.metadata.merge [("qa_locked", .bool false), ("qa_approved_at", .num now),
      ("qa_approved_by", .str approvedBy)] }

def QAStagedChange.apply (change : QAStagedChange) (now : Instant) (appliedBy : String) :
    QAStagedChange :=
  { change with status := .applied, appliedAt := some now, appliedBy := some appliedBy }

/-- Apply the changes of a case that wait for quality assurance. -/
def applyStagedChanges (s : Store) (caseId : Id) (tenantId appliedBy : String) (now : Instant) :
    Store :=
  let waiting (change : QAStagedChange) : Bool :=
    change.caseId == caseId && change.tenantId == tenantId && change.status == .pending
  { s with
    qaStagedChanges := s.qaStagedChanges.updateWhere waiting (fun change => change.apply now appliedBy) }

/-- No check on the case at all. -/
def qaApprove (ctx : Ctx) (caseId : Id) (tenantId approvedByUserId : String) (s : Store) : Store :=
  let s := s.updateCase caseId (fun c => c.passQA ctx.now approvedByUserId)
  let s := applyStagedChanges s caseId tenantId approvedByUserId ctx.now
  s.publish
    { eventType := .qaApproved, caseId := some caseId
      payload := .obj [("case_id", .uuid caseId), ("approved_by", .str approvedByUserId),
        ("approved_at", .num ctx.now)]
      targetService := "case-orchestrator" }

/-! ## Operations on the status of a case -/

/-- The operations that write the status of a case, with their arguments. -/
inductive CaseOp where
  | suspendCase (ctx : Ctx) (caseId : Id) (reason : String) (resumeAt : Option Instant)
  | resumeCase (ctx : Ctx) (caseId : Id)
  | releaseCase (ctx : Ctx) (caseId : Id) (userId : String)
  | withdrawCase (ctx : Ctx) (caseId : Id) (reason : String)
  | emergencyClose (ctx : Ctx) (caseId : Id) (reason supervisorId fourEyesToken : String)
  | recordStageTransition (input : TransitionInput)
  | evaluateAndCompleteCase (ctx : Ctx) (caseId : Id)
  | onApprovalCaseEvent (ctx : Ctx) (event : Event)
  | sendCaseToRework (ctx : Ctx) (caseId gateId : Id) (target reason rejectedBy : String)
  | rejectCaseTerminally (ctx : Ctx) (caseId gateId : Id) (reason rejectedBy : String)
  | qaApprove (ctx : Ctx) (caseId : Id) (tenantId approvedByUserId : String)

def CaseOp.exec : CaseOp → Store → Except Err Store
  | .suspendCase ctx caseId reason resumeAt, s =>
    LoanWorkflow.suspendCase ctx caseId reason resumeAt s
  | .resumeCase ctx caseId, s => LoanWorkflow.resumeCase ctx caseId s
  | .releaseCase ctx caseId userId, s => LoanWorkflow.releaseCase ctx caseId userId s
  | .withdrawCase ctx caseId reason, s => LoanWorkflow.withdrawCase ctx caseId reason s
  | .emergencyClose ctx caseId reason supervisorId token, s =>
    LoanWorkflow.emergencyClose ctx caseId reason supervisorId token s
  | .recordStageTransition input, s => LoanWorkflow.recordStageTransition input s
  | .evaluateAndCompleteCase ctx caseId, s => LoanWorkflow.evaluateAndCompleteCase ctx caseId s
  | .onApprovalCaseEvent ctx event, s => LoanWorkflow.onApprovalCaseEvent ctx event s
  | .sendCaseToRework ctx caseId gateId target reason rejectedBy, s =>
    LoanWorkflow.sendCaseToRework s ctx.now caseId gateId target reason rejectedBy
  | .rejectCaseTerminally ctx caseId gateId reason rejectedBy, s =>
    .ok (LoanWorkflow.rejectCaseTerminally s ctx.now caseId gateId reason rejectedBy)
  | .qaApprove ctx caseId tenantId approvedBy, s =>
    .ok (LoanWorkflow.qaApprove ctx caseId tenantId approvedBy s)

def Store.caseStatus? (s : Store) (k : Id) : Option CaseStatus := (s.cases.get? k).map (·.status)

def KeepsClosed (s s' : Store) : Prop :=
  ∀ k status, s.caseStatus? k = some status → status.isTerminal = true →
    s'.caseStatus? k = some status

/-- The case is closed, with another status than this one. -/
def ClosedOtherwise (s : Store) (k : Id) (status : CaseStatus) : Prop :=
  ∃ old, s.caseStatus? k = some old ∧ old.isTerminal = true ∧ old ≠ status

def reworkStage? (s : Store) (c : CaseInstance) (target : String) : Option StageDefinition :=
  (s.caseTypes.get? c.caseTypeId).bind (fun ct => findStage ct.config target)

/-- The condition under which an operation leaves closed cases alone: no completion, rejection
    or approval reaches a case that is closed with another status, and rework reaches a closed
    case only where it fails, or rejects a rejected case. -/
def CaseOp.SparesClosed (s : Store) : CaseOp → Prop
  | .evaluateAndCompleteCase _ caseId =>
    evaluateCaseCompletion s caseId = true → ¬ ClosedOtherwise s caseId .completed
  | .onApprovalCaseEvent _ event =>
    event.payload.isMap = true → event.rejectsCase = true →
      ∀ caseId, event.approvalCase? = some caseId → ¬ ClosedOtherwise s caseId .rejected
  | .sendCaseToRework _ caseId _ target _ _ =>
    ∀ c, s.cases.get? caseId = some c → c.status.isTerminal = true →
      if 0 < c.maxReworkAttempts ∧ c.maxReworkAttempts < c.reworkCount + 1 then
        c.status = .rejected
      else reworkStage? s c target = none
  | .rejectCaseTerminally _ caseId _ _ _ => ¬ ClosedOtherwise s caseId .rejected
  | .qaApprove _ caseId _ _ => ¬ ClosedOtherwise s caseId .completed
  | _ => True

/-! ## Steps -/

theorem KeepsClosed.refl (s : Store) : KeepsClosed s s := fun _ _ hstatus _ => hstatus

/-- A step that touches one case, which was open, keeps the closed ones. -/
theorem MovesOpenCase.keepsClosed (h : MovesOpenCase s caseId s') : KeepsClosed s s' := by
  intro k status hstatus hclosed
  by_cases hk : k = caseId
  · obtain ⟨c, hc, rfl⟩ := map_eq_some_iff.mp hstatus
    rw [hk] at hc
    have hopen := h.notClosed c hc
    rw [hopen] at hclosed
    cases hclosed
  · unfold Store.caseStatus?
    rw [h.others k hk]
    exact hstatus

/-- One case takes a status, and no other case changes its own. -/
def SetsStatus (s : Store) (k : Id) (status : CaseStatus) (s' : Store) : Prop :=
  ∃ f : CaseInstance → CaseInstance, (∀ c, (f c).status = status) ∧
    s'.cases = s.cases.updateAt k f

/-- A step that sets a status keeps the closed cases exactly when the case is open or has
    this status already. -/
theorem SetsStatus.keepsClosed_iff
    (h : SetsStatus s k status s') : KeepsClosed s s' ↔ ¬ ClosedOtherwise s k status := by
  obtain ⟨f, hf, hcases⟩ := h
  have hset : ∀ j, s'.caseStatus? j =
      if j = k then (s.caseStatus? j).map (fun _ => status) else s.caseStatus? j := by
    intro j
    unfold Store.caseStatus?
    rw [hcases, Table.get?_updateAt]
    split
    · rw [Option.map_map, Option.map_map]
      exact congrArg (fun g => (s.cases.get? j).map g) (funext hf)
    · rfl
  constructor
  · rintro hkeep ⟨old, hold, hclosed, hne⟩
    have hstays := hkeep k old hold hclosed
    rw [hset, if_pos rfl, hold] at hstays
    exact hne (Option.some.inj hstays).symm
  · intro hspared j old hold hclosed
    rw [hset]
    by_cases hj : j = k
    · subst hj
      have hsame : old = status := by
        by_contra hne
        exact hspared ⟨old, hold, hclosed, hne⟩
      rw [if_pos rfl, hold, hsame]
      rfl
    · rw [if_neg hj]
      exact hold

theorem recordStageTransition_keepsClosed {input : TransitionInput}
    (h : recordStageTransition input s = .ok s') : KeepsClosed s s' := by
  obtain ⟨c, hc, hopen, hstep⟩ := recordStageTransition_step h
  have hmoves : MovesOpenCase s input.caseId s' := by
    refine ⟨fun c' hc' => ?_, hstep.cases_others⟩
    rw [Option.some.inj (hc'.symm.trans hc)]
    exact hopen
  exact hmoves.keepsClosed

/-! ## Every step, and every run -/

open Machine

/-- A step that can only move an open case keeps the closed ones. -/
theorem keepsClosed_commit_of_ok {op : CaseOp}
    (h : ∀ s', op.exec s = .ok s' → KeepsClosed s s') : KeepsClosed s (commit CaseOp.exec s op) := by
  rcases commit_cases CaseOp.exec s op with hok | hsame
  · exact h _ hok
  · rw [hsame]
    exact .refl s

theorem keepsClosed_commit_of_error {op : CaseOp} {e : Err} (h : op.exec s = .error e) :
    KeepsClosed s (commit CaseOp.exec s op) := by
  refine keepsClosed_commit_of_ok fun s' hok => ?_
  rw [h] at hok
  cases hok

theorem keepsClosed_commit_iff_of_sets {op : CaseOp} (h : op.exec s = .ok s')
    (hsets : SetsStatus s k status s') :
    KeepsClosed s (commit CaseOp.exec s op) ↔ ¬ ClosedOtherwise s k status := by
  rw [commit_ok h, hsets.keepsClosed_iff]

theorem evaluateAndCompleteCase_keepsClosed_iff (ctx : Ctx) (caseId : Id) (s : Store) :
    KeepsClosed s (commit CaseOp.exec s (.evaluateAndCompleteCase ctx caseId)) ↔
      (CaseOp.evaluateAndCompleteCase ctx caseId).SparesClosed s := by
  have hexec : CaseOp.exec (.evaluateAndCompleteCase ctx caseId) s =
      evaluateAndCompleteCase ctx caseId s := rfl
  simp only [evaluateAndCompleteCase, completeCase] at hexec
  simp only [CaseOp.SparesClosed]
  by_cases hdone : evaluateCaseCompletion s caseId = true
  · rw [if_pos hdone] at hexec
    by_cases hpending : (s.cases.get? caseId).any (fun c => c.status != .completed) = true
    · rw [hpending] at hexec
      rw [keepsClosed_commit_iff_of_sets hexec ⟨fun c => c.complete ctx.now, fun _ => rfl, rfl⟩]
      exact ⟨fun h _ => h, fun h => h hdone⟩
    · -- the completion fails, and a case that is not completed is not there
      rw [Bool.not_eq_true] at hpending
      rw [hpending] at hexec
      refine iff_of_true (keepsClosed_commit_of_error hexec) ?_
      rintro - ⟨old, hold, -, hne⟩
      obtain ⟨c, hc, rfl⟩ := map_eq_some_iff.mp hold
      rw [hc] at hpending
      exact hne (by simpa using hpending)
  · rw [if_neg hdone] at hexec
    rw [commit_ok hexec]
    exact iff_of_true (.refl s) fun h => absurd h hdone

theorem onApprovalCaseEvent_keepsClosed_iff (ctx : Ctx) (event : Event) (s : Store) :
    KeepsClosed s (commit CaseOp.exec s (.onApprovalCaseEvent ctx event)) ↔
      (CaseOp.onApprovalCaseEvent ctx event).SparesClosed s := by
  have hexec : CaseOp.exec (.onApprovalCaseEvent ctx event) s = onApprovalCaseEvent ctx event s :=
    rfl
  unfold onApprovalCaseEvent at hexec
  simp only [CaseOp.SparesClosed]
  by_cases hmap : event.payload.isMap = true
  · rw [hmap] at hexec
    cases hcase : event.approvalCase? with
    | none =>
      rw [hcase] at hexec
      rw [commit_ok hexec]
      exact iff_of_true (.refl s) fun _ _ _ h => nomatch h
    | some caseId =>
      rw [hcase] at hexec
      by_cases hrejects : event.rejectsCase = true
      · simp only [hrejects] at hexec
        rw [keepsClosed_commit_iff_of_sets hexec
          ⟨fun c => c.rejectLate ctx.now, fun _ => rfl, rfl⟩]
        simp [hmap, hrejects]
      · simp only [hrejects] at hexec
        rw [commit_ok hexec]
        exact iff_of_true (.refl s) fun _ h => absurd h hrejects
  · rw [Bool.not_eq_true] at hmap
    rw [hmap] at hexec
    exact iff_of_true (keepsClosed_commit_of_error hexec) fun h => nomatch hmap.symm.trans h

theorem closedOtherwise_iff (hc : s.cases.get? k = some c) :
    ClosedOtherwise s k status ↔ c.status.isTerminal = true ∧ c.status ≠ status := by
  simp [ClosedOtherwise, Store.caseStatus?, hc]

/-- Rework writes one of two statuses, or fails. -/
theorem sendCaseToRework_keepsClosed_iff (ctx : Ctx) (caseId gateId : Id)
    (target reason rejectedBy : String) (s : Store) :
    KeepsClosed s (commit CaseOp.exec s
        (.sendCaseToRework ctx caseId gateId target reason rejectedBy)) ↔
      (CaseOp.sendCaseToRework ctx caseId gateId target reason rejectedBy).SparesClosed s := by
  have hexec : CaseOp.exec (.sendCaseToRework ctx caseId gateId target reason rejectedBy) s =
      sendCaseToRework s ctx.now caseId gateId target reason rejectedBy := rfl
  unfold sendCaseToRework at hexec
  simp only [CaseOp.SparesClosed, reworkStage?]
  cases hc : s.cases.get? caseId with
  | none =>
    rw [hc] at hexec
    exact iff_of_true (keepsClosed_commit_of_error hexec) fun c hc' => by cases hc'
  | some c =>
    simp only [hc, orFail, bind, Except.bind] at hexec
    simp only [Option.some.injEq, forall_eq']
    by_cases hexhausted : 0 < c.maxReworkAttempts ∧ c.maxReworkAttempts < c.reworkCount + 1
    · simp only [if_pos hexhausted] at hexec ⊢
      rw [keepsClosed_commit_iff_of_sets hexec
        ⟨fun c' => { c'.reject ctx.now with reworkCount := c.reworkCount + 1 }, fun _ => rfl, rfl⟩,
        closedOtherwise_iff hc, not_and, not_not]
    · simp only [if_neg hexhausted] at hexec ⊢
      cases hct : s.caseTypes.get? c.caseTypeId with
      | none =>
        simp only [hct] at hexec
        exact iff_of_true (keepsClosed_commit_of_error hexec) fun _ => rfl
      | some ct =>
        cases hst : findStage ct.config target with
        | none =>
          simp only [hct, hst] at hexec
          exact iff_of_true (keepsClosed_commit_of_error hexec) fun _ => hst
        | some st =>
          simp only [hct, hst] at hexec
          rw [keepsClosed_commit_iff_of_sets hexec ⟨fun c' => { c'.backTo target st.sequenceOrder with
            reworkCount := c.reworkCount + 1 }, fun _ => rfl, rfl⟩, closedOtherwise_iff hc]
          -- a case in progress is not closed
          simp only [Option.bind, hst, reduceCtorEq, imp_false, not_and, not_not]
          constructor
          · intro h hclosed
            rw [h hclosed] at hclosed
            cases hclosed
          · exact fun h hclosed => absurd hclosed h

/-- An operation leaves every closed case alone exactly when its condition holds. -/
theorem keepsClosed_commit_iff (s : Store) (op : CaseOp) :
    KeepsClosed s (commit CaseOp.exec s op) ↔ op.SparesClosed s := by
  match op with
  | .suspendCase ctx caseId reason resumeAt =>
    exact iff_of_true (keepsClosed_commit_of_ok fun _ h => (suspendCase_step h).1.keepsClosed) trivial
  | .resumeCase ctx caseId =>
    exact iff_of_true (keepsClosed_commit_of_ok fun _ h => (resumeCase_step h).1.keepsClosed) trivial
  | .releaseCase ctx caseId userId =>
    exact iff_of_true (keepsClosed_commit_of_ok fun _ h => (releaseCase_step h).1.keepsClosed) trivial
  | .withdrawCase ctx caseId reason =>
    exact iff_of_true (keepsClosed_commit_of_ok fun _ h => (withdrawCase_step h).1.keepsClosed) trivial
  | .emergencyClose ctx caseId reason supervisorId token =>
    exact iff_of_true (keepsClosed_commit_of_ok fun _ h => (emergencyClose_step h).1.keepsClosed)
      trivial
  | .recordStageTransition input =>
    exact iff_of_true (keepsClosed_commit_of_ok fun _ h => recordStageTransition_keepsClosed h)
      trivial
  | .evaluateAndCompleteCase ctx caseId =>
    exact evaluateAndCompleteCase_keepsClosed_iff ctx caseId s
  | .onApprovalCaseEvent ctx event => exact onApprovalCaseEvent_keepsClosed_iff ctx event s
  | .sendCaseToRework ctx caseId gateId target reason rejectedBy =>
    exact sendCaseToRework_keepsClosed_iff ctx caseId gateId target reason rejectedBy s
  | .rejectCaseTerminally ctx caseId gateId reason rejectedBy =>
    have hsets : SetsStatus s caseId .rejected
        (rejectCaseTerminally s ctx.now caseId gateId reason rejectedBy) :=
      ⟨fun c => c.reject ctx.now, fun _ => rfl, rfl⟩
    exact hsets.keepsClosed_iff
  | .qaApprove ctx caseId tenantId approvedBy =>
    have hsets : SetsStatus s caseId .completed (qaApprove ctx caseId tenantId approvedBy s) :=
      ⟨fun c => c.passQA ctx.now approvedBy, fun _ => rfl, rfl⟩
    exact hsets.keepsClosed_iff

/-- Closed cases stay as they are, in every step of a run from any store, exactly when every
    step of the run meets its condition. -/
theorem closed_cases_absorbing_iff (s : Store) (ops : List CaseOp) :
    Along CaseOp.exec (fun s _ s' => KeepsClosed s s') s ops ↔
      Guarded CaseOp.exec (fun s op => op.SparesClosed s) s ops :=
  along_congr keepsClosed_commit_iff

/-- A case in its only stage, whose only task is done. -/
def finishedStage : Store where
  caseTypes := Table.empty.insert
    { config :=
      { stages := [
        { code := "REVIEW", sequenceOrder := 1
          activities := [{ code := "CHECK", taskDefs := [{ code := "SIGN" }] }] }] } }
  cases := Table.empty.insert
    { caseTypeId := 0, currentStageCode := some "REVIEW", currentStageOrdinal := 1
      status := .inProgress }
  tasks := Table.empty.insert
    { caseId := 0, taskDefinitionCode := "SIGN", activityCode := "CHECK", stageCode := "REVIEW"
      status := .completed, idempotencyKey := "0:REVIEW:CHECK:SIGN" }

/-- The applicant withdraws the case before the completion of its last activity is handled:
    the cancelled case becomes completed. -/
theorem withdrawn_case_completes :
    (run CaseOp.exec finishedStage
        [.withdrawCase (.plain 5) 0 "withdrawn"]).caseStatus? 0 = some .cancelled ∧
      (run CaseOp.exec finishedStage
        [.withdrawCase (.plain 5) 0 "withdrawn",
          .evaluateAndCompleteCase (.plain 6) 0]).caseStatus? 0 = some .completed ∧
      ¬ Along CaseOp.exec (fun s _ s' => KeepsClosed s s') finishedStage
        [.withdrawCase (.plain 5) 0 "withdrawn", .evaluateAndCompleteCase (.plain 6) 0] := by
  refine ⟨by decide, by decide, ?_⟩
  rintro ⟨-, hkeeps, -⟩
  have hstays := hkeeps 0 .cancelled (by decide) rfl
  revert hstays
  decide

end LoanWorkflow
