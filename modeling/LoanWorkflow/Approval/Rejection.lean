import LoanWorkflow.Approval.Evaluator

/-! # What a rejection does to the case

    A rejected request sends the case back to an earlier stage, or rejects it
    for good, as the gate says. `RejectionStep` lists every outcome.
-/

namespace LoanWorkflow

/-! ## Rows -/

/-- `jsonb_set(COALESCE(error_detail, '{}'), '{reason}', ...)`; the column holds an object
    or null. -/
def setReason (detail : Option Json) (reason : String) : Json :=
  match detail with
  | some (.obj fields) =>
    .obj (fields.filter (fun f => f.1 != "reason") ++ [("reason", .str reason)])
  | _ => .obj [("reason", .str reason)]

/-- A task that is cancelled along with its stage or its case. -/
def Task.cancel (t : Task) (reason : String) (now : Instant) : Task :=
  { t with
    status := .cancelled
    completedAt := some now
    errorDetail := some (setReason t.errorDetail reason)
    version := t.version + 1 }

/-- Cancel the unfinished tasks with a property. -/
def cancelTasks (s : Store) (p : Task → Bool) (reason : String) (now : Instant) : Store :=
  { s with
    tasks := s.tasks.updateWhere (fun t => p t && !t.status.isTerminal)
      (fun t => t.cancel reason now) }

def CaseInstance.reject (c : CaseInstance) (now : Instant) : CaseInstance :=
  { c with status := .rejected, completedAt := some now, rowVersion := c.rowVersion + 1 }

def CaseInstance.backTo (c : CaseInstance) (stageCode : String) (ordinal : Int) : CaseInstance :=
  { c with
    currentStageCode := some stageCode
    currentStageOrdinal := ordinal
    status := .inProgress
    rowVersion := c.rowVersion + 1 }

/-! ## Outcomes of a rejection -/

def sendCaseToRework (s : Store) (now : Instant) (caseId gateId : Id)
    (reworkTargetStage reason rejectedBy : String) : Except Err Store := do
  let c ← orFail (s.cases.get? caseId) "sendCaseToRework: load case: sql: no rows in result set"
  let currentStageCode := c.currentStageCode.getD ""
  let newReworkCount := c.reworkCount + 1
  if 0 < c.maxReworkAttempts ∧ c.maxReworkAttempts < newReworkCount then
    let s := s.updateCase caseId
      (fun c => { c.reject now with reworkCount := newReworkCount })
    let s := cancelTasks s (fun t => t.caseId == caseId) "CASE_MAX_REWORK_EXCEEDED" now
    return s.publish
      { eventType := .caseMaxReworkExceeded, caseId := some caseId
        payload := .obj [("gate_id", .uuid gateId), ("case_id", .uuid caseId),
          ("reason", .str "case_max_rework_exceeded")] }
  else
    let ct ← orFail (s.caseTypes.get? c.caseTypeId)
      "sendCaseToRework: resolve rework stage ordinal: sql: no rows in result set"
    let st ← orFail (findStage ct.config reworkTargetStage)
      "sendCaseToRework: resolve rework stage ordinal: sql: no rows in result set"
    let s := s.updateCase caseId (fun c =>
      { c.backTo reworkTargetStage st.sequenceOrder with reworkCount := newReworkCount })
    let s := { s with
      stageTransitions := s.stageTransitions.insert
        { caseId := caseId
          fromStageCode := nullIfEmpty currentStageCode
          toStageCode := reworkTargetStage
          fromOrdinal := some c.currentStageOrdinal
          toOrdinal := st.sequenceOrder
          isRegression := true
          reason := some reason
          transitionedBy := rejectedBy } }
    let s := cancelTasks s (fun t => t.caseId == caseId && t.stageCode == currentStageCode)
      "APPROVAL_REJECTED" now
    -- the status that the evaluation just wrote is overwritten
    let s := s.updateGate gateId (fun g => g.close .rejectedReworkInitiated now)
    let s := s.publish
      { eventType := .caseStageChanged, caseId := some caseId
        payload := .obj [("case_id", .uuid caseId), ("from_stage", .str currentStageCode),
          ("to_stage", .str reworkTargetStage), ("to_stage_order", .num st.sequenceOrder)] }
    return s.publish
      { eventType := .caseSentToRework, caseId := some caseId
        payload := .obj [("case_id", .uuid caseId), ("from_stage", .str currentStageCode),
          ("to_stage", .str reworkTargetStage), ("rejection_reason", .str reason),
          ("rejected_by", .str rejectedBy), ("rejected_at", .num now)] }

def rejectCaseTerminally (s : Store) (now : Instant) (caseId gateId : Id)
    (reason rejectedBy : String) : Store :=
  let s := s.updateCase caseId (fun c => c.reject now)
  let s := cancelTasks s (fun t => t.caseId == caseId) "CASE_REJECTED" now
  let s := s.updateGate gateId (fun g => g.close .failed now)
  s.publish
    { eventType := .caseRejected, caseId := some caseId
      payload := .obj [("case_id", .uuid caseId), ("rejected_by", .str rejectedBy),
        ("reason", .str reason), ("source", .str "APPROVAL_REJECTED")] }

/-- `executeRejectionBehavior` for a request of the gate. -/
def executeRejectionBehavior (s : Store) (now : Instant) (gateId : Id) (gate : ApprovalGate)
    (decisionText actorId : String) : Except Err Store :=
  match gate.rejectionBehavior with
  | .sendToRework =>
    if gate.reworkTargetStageCode.getD "" = "" then
      .error "executeRejectionBehavior: rework_target_stage_code is required"
    else
      sendCaseToRework s now gate.caseId gateId (gate.reworkTargetStageCode.getD "") decisionText
        actorId
  | .terminalFail => .ok (rejectCaseTerminally s now gate.caseId gateId decisionText actorId)
  | .other _ => .ok s

/-- What a rejection did: nothing, reject the case after too much rework, send it back to a
    stage, or reject it for good. -/
inductive RejectionStep (s : Store) (now : Instant) (caseId gateId : Id) : Store → Prop
  | nothing : RejectionStep s now caseId gateId s
  | exhausted (count : Int) (e : Event) :
      RejectionStep s now caseId gateId
        ((cancelTasks (s.updateCase caseId (fun c => { c.reject now with reworkCount := count }))
          (fun t => t.caseId == caseId) "CASE_MAX_REWORK_EXCEEDED" now).publish e)
  | rework (st : StageDefinition) (target stageCode : String) (count : Int)
      (row : CaseStageTransition) (e₁ e₂ : Event) :
      RejectionStep s now caseId gateId
        ((((cancelTasks
          { s.updateCase caseId
              (fun c => { c.backTo target st.sequenceOrder with reworkCount := count }) with
            stageTransitions := s.stageTransitions.insert row }
          (fun t => t.caseId == caseId && t.stageCode == stageCode) "APPROVAL_REJECTED"
          now).updateGate gateId (fun g => g.close .rejectedReworkInitiated now)).publish
          e₁).publish e₂)
  | terminal (e : Event) :
      RejectionStep s now caseId gateId
        (((cancelTasks (s.updateCase caseId (fun c => c.reject now))
          (fun t => t.caseId == caseId) "CASE_REJECTED" now).updateGate gateId
          (fun g => g.close .failed now)).publish e)

theorem sendCaseToRework_step {s s' : Store} {now : Instant} {caseId gateId : Id}
    {target reason rejectedBy : String}
    (h : sendCaseToRework s now caseId gateId target reason rejectedBy = .ok s') :
    RejectionStep s now caseId gateId s' := by
  obtain ⟨c, -, h⟩ := bind_ok h
  simp only at h
  split at h
  · cases h
    exact .exhausted _ _
  · obtain ⟨ct, -, h⟩ := bind_ok h
    obtain ⟨st, -, h⟩ := bind_ok h
    cases h
    exact .rework st target _ _ _ _ _

theorem executeRejectionBehavior_step {s s' : Store} {now : Instant} {gateId : Id}
    {gate : ApprovalGate} {decisionText actorId : String}
    (h : executeRejectionBehavior s now gateId gate decisionText actorId = .ok s') :
    RejectionStep s now gate.caseId gateId s' := by
  unfold executeRejectionBehavior at h
  split at h
  · split at h
    · cases h
    · exact sendCaseToRework_step h
  · cases h
    exact .terminal _
  · cases h
    exact .nothing

/-! ## What a rejection leaves alone -/

namespace RejectionStep

variable {s s' : Store} {now : Instant} {caseId gateId : Id}

variable (h : RejectionStep s now caseId gateId s')

include h

theorem requests_eq : s'.requests = s.requests := by
  cases h <;> rfl

theorem chains_eq : s'.chains = s.chains := by
  cases h <;> rfl

theorem caseTypes_eq : s'.caseTypes = s.caseTypes := by
  cases h <;> rfl

theorem gates_keep : s.gates.Keeps ApprovalGate.terms s'.gates := by
  cases h with
  | nothing => exact .refl _ _
  | exhausted => exact .refl _ _
  | _ => exact .updateAt fun _ => rfl

/-- Only the rejected case is rewritten, outside of its terms. -/
theorem cases_eq :
    s'.cases = s.cases ∨ ∃ f : CaseInstance → CaseInstance, (∀ c, (f c).terms = c.terms) ∧
      s'.cases = s.cases.updateAt caseId f := by
  cases h with
  | nothing => exact Or.inl rfl
  | exhausted count =>
    exact Or.inr ⟨fun c => { c.reject now with reworkCount := count }, fun _ => rfl, rfl⟩
  | rework st target stageCode count =>
    exact Or.inr ⟨fun c => { c.backTo target st.sequenceOrder with reworkCount := count },
      fun _ => rfl, rfl⟩
  | terminal => exact Or.inr ⟨fun c => c.reject now, fun _ => rfl, rfl⟩

theorem cases_grow : s.cases.Grows CaseInstance.terms (fun _ => False) s'.cases := by
  rcases h.cases_eq with hsame | ⟨f, hf, hrewritten⟩
  · exact .of_eq hsame
  · rw [hrewritten]
    exact .updateAt hf

/-- A gate is untouched, or it is the rejected gate and closed without success. -/
theorem gates : s'.gates = s.gates ∨
      ∃ status, status ≠ .satisfied ∧ status ≠ .pending ∧ status ≠ .active ∧
        s'.gates = s.gates.updateAt gateId (fun g => g.close status now) := by
  cases h with
  | nothing => exact Or.inl rfl
  | exhausted => exact Or.inl rfl
  | rework => exact Or.inr ⟨.rejectedReworkInitiated, by decide, by decide, by decide, rfl⟩
  | terminal => exact Or.inr ⟨.failed, by decide, by decide, by decide, rfl⟩

/-- Some unfinished tasks are cancelled, and no other task changes. -/
theorem tasks : s'.tasks = s.tasks ∨
      ∃ (p : Task → Bool) (reason : String), s'.tasks = s.tasks.updateWhere (fun t => p t && !t.status.isTerminal)
        (fun t => t.cancel reason now) := by
  cases h with
  | nothing => exact Or.inl rfl
  | exhausted =>
    exact Or.inr ⟨fun t => t.caseId == caseId, "CASE_MAX_REWORK_EXCEEDED", rfl⟩
  | rework st target stageCode =>
    exact Or.inr ⟨fun t => t.caseId == caseId && t.stageCode == stageCode, "APPROVAL_REJECTED", rfl⟩
  | terminal => exact Or.inr ⟨fun t => t.caseId == caseId, "CASE_REJECTED", rfl⟩

end RejectionStep

end LoanWorkflow
