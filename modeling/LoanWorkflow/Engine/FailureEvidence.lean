import LoanWorkflow.Engine.Orchestrator
import LoanWorkflow.Framework.Transaction
import LoanWorkflow.Versioning.Governance

/-! # What a failed check leaves behind

    Two functions write a row about a check that failed and then return an
    error, in the transaction that this error rolls back. The row goes with it.

    - `failure_evidence_iff`: there is such a row afterwards exactly if there was one before
-/

namespace LoanWorkflow

open List

variable {lib : CaseMapping} {now : Instant} {caseTypeId : Id} {activatedBy : String}
  {violations : List ValidationViolation} {ctx : Ctx} {event : Event} {s : Store}
  {input : TransitionInput} {c : CaseInstance} {missing : List DocumentType}

/-- A transaction whose check fails writes a row and gives up; otherwise it commits the rest. -/
def checkedTx {σ : Type} (failed : Option ((σ → σ) × Err)) (rest : Except Err σ) :
    Autocommit (Tx σ) Err Unit :=
  match failed with
  | some (row, e) => do
    let _ ← Tx.exec (ε := Err) (fun s => .ok ((), row s))
    Autocommit.fail e
  | none => do
    let after ← Tx.lift rest
    let _ ← Tx.exec (ε := Err) (fun _ => .ok ((), after))
    let _ ← Tx.commit (ε := Err)
    return ()

/-- The row is not to be seen: the transaction has the outcome of a step that does not write it. -/
theorem transact_checkedTx {σ : Type} {failed : Option ((σ → σ) × Err)} {rest : Except Err σ}
    (h : ∀ f ∈ failed, rest = .error f.2) (s : σ) :
    Tx.transact (checkedTx failed rest) s = Tx.outcome s (rest.map fun s' => ((), s')) := by
  cases failed with
  | some f =>
    rw [h f rfl]
    rfl
  | none => cases rest <;> rfl

/-! ## Activation -/

/-- A row of `case_type_audit_log` with the action `VALIDATION_FAILED`. -/
structure ValidationFailure where
  caseTypeId : Id
  actor : String
  validationError : String

/-- The catalogue with the failed validations of the log; its other rows are left out. -/
structure AuditedCatalog extends Catalog where
  validationFailures : Table ValidationFailure := .empty

/-- What a draft that is to be activated fails: the checks of its configuration, or else those of
    its activities. -/
def failedValidation (lib : CaseMapping) (s : Catalog) (caseTypeId : Id) :
    Option (List ValidationViolation) :=
  (s.caseTypes.get? caseTypeId).bind fun target =>
    if lib.normalize target.code ≠ "" ∧ target.status = .draft then
      [validateCaseTypeConfig target.config,
        validateActivitiesExistInDefinitionsTx lib s caseTypeId target].find? (· ≠ [])
    else none

/-- `ActivateCaseTypeVersion` with the entry of a failed validation. -/
def activateAudited (lib : CaseMapping) (now : Instant) (caseTypeId : Id) (activatedBy : String)
    (s : AuditedCatalog) : Autocommit (Tx AuditedCatalog) Err Unit :=
  checkedTx
    ((failedValidation lib s.toCatalog caseTypeId).map fun violations =>
      (fun s => { s with validationFailures :=
        s.validationFailures.insert ⟨caseTypeId, activatedBy, validationError violations⟩ },
      "ActivateCaseTypeVersion: " ++ validationError violations))
    ((activateCaseTypeVersion lib now caseTypeId activatedBy s.toCatalog).map
      fun after => { s with toCatalog := after })

theorem activateCaseTypeVersion_of_failed {s : Catalog}
    (h : failedValidation lib s caseTypeId = some violations) :
    activateCaseTypeVersion lib now caseTypeId activatedBy s =
      .error ("ActivateCaseTypeVersion: " ++ validationError violations) := by
  obtain ⟨target, htarget, h⟩ := Option.bind_eq_some_iff.mp h
  split at h
  · next hdraft =>
    by_cases hvalid : validateCaseTypeConfig target.config = []
    · by_cases hmissing : validateActivitiesExistInDefinitionsTx lib s caseTypeId target = []
      · simp [hvalid, hmissing] at h
      · obtain rfl : _ = violations := by simpa [hvalid, hmissing] using h
        simp [activateCaseTypeVersion, loadCaseTypeVersionByIDTx, htarget, orFail,
          lockCaseTypeCodeRowsTx, ensure, Except.mapError, bind, Except.bind, hdraft, hvalid,
          hmissing]
    · obtain rfl : _ = violations := by simpa [hvalid] using h
      simp [activateCaseTypeVersion, loadCaseTypeVersionByIDTx, htarget, orFail,
        lockCaseTypeCodeRowsTx, ensure, Except.mapError, bind, Except.bind, hdraft, hvalid]
  · cases h

theorem transact_activateAudited (s : AuditedCatalog) :
    Tx.transact (activateAudited lib now caseTypeId activatedBy s) s =
      Tx.outcome s (((activateCaseTypeVersion lib now caseTypeId activatedBy s.toCatalog).map
        fun after => { s with toCatalog := after }).map fun s' => ((), s')) := by
  refine transact_checkedTx (fun f hf => ?_) s
  obtain ⟨violations, hviolations, rfl⟩ := Option.map_eq_some_iff.mp hf
  rw [activateCaseTypeVersion_of_failed hviolations]
  rfl

/-! ## Handling of a finished activity -/

/-- The move that missing documents stop, with the documents. -/
def blockedTransition (s : Store) (event : Event) :
    Option (TransitionInput × CaseInstance × List DocumentType) :=
  match loadCase s event with
  | .error _ => none
  | .ok (caseId, c, config) => do
    let st ← findStage config (event.payload.strField "stage_code")
    let next ← findNextStage config c.currentStageOrdinal
    if stageComplete s caseId st ∧ c.status.isTerminal = false ∧
        missingStageDocuments s caseId c ≠ [] ∧
        ¬ (c.currentStageCode = some next.code ∧ c.currentStageOrdinal = next.sequenceOrder) then
      return (advanceTo next caseId, c, missingStageDocuments s caseId c)
    else none

def missingReason (context : String) (missing : List DocumentType) : String :=
  context ++ " ".intercalate (missing.map (·.documentTypeCode)) ++ "]"

/-- `onActivityCompleted` with the event of a move that is stopped. -/
def onActivityCompletedBlocking (ctx : Ctx) (event : Event) (s : Store) :
    Autocommit (Tx Store) Err Unit :=
  checkedTx
    ((blockedTransition s event).map fun (input, c, missing) =>
      (fun s => s.publish
        { eventType := .stageTransitionBlocked, caseId := some input.caseId
          payload := .obj [("case_id", .uuid input.caseId),
            ("from_stage_code", .str (c.currentStageCode.getD "")),
            ("to_stage_code", .str input.toStageCode),
            ("missing_document_types", .arr (missing.map fun d => .str d.documentTypeCode)),
            ("reason", .str (missingReason "Missing required documents: [" missing))]
          targetService := "case-orchestrator" },
        missingReason "RecordStageTransition: Missing required documents: [" missing))
    (onActivityCompleted ctx event s)

theorem recordStageTransition_of_missing {ct : CaseType}
    (hc : s.cases.get? input.caseId = some c) (hct : s.caseTypes.get? c.caseTypeId = some ct)
    (hstopped : c.status.isTerminal = false ∧ missingStageDocuments s input.caseId c ≠ [] ∧
      ¬ (c.currentStageCode = some input.toStageCode ∧
        c.currentStageOrdinal = input.toStageOrdinal)) :
    recordStageTransition input s = .error
      (missingReason "RecordStageTransition: Missing required documents: ["
        (missingStageDocuments s input.caseId c)) := by
  obtain ⟨hopen, hmissing, hmoves⟩ := hstopped
  simp only [recordStageTransition, hc, hct, orFail, bind, Except.bind, ensure, hopen, hmoves,
    Bool.not_false, if_true, if_false, List.isEmpty_iff, hmissing]
  rfl

theorem onActivityCompleted_of_blocked (h : blockedTransition s event = some (input, c, missing)) :
    onActivityCompleted ctx event s =
      .error (missingReason "RecordStageTransition: Missing required documents: [" missing) := by
  unfold blockedTransition at h
  split at h
  · cases h
  · next caseId c₀ config hloaded =>
    obtain ⟨st, hst, h⟩ := Option.bind_eq_some_iff.mp h
    obtain ⟨next, hnext, h⟩ := Option.bind_eq_some_iff.mp h
    split at h
    · next hstopped =>
      obtain ⟨hc, ct, hct, -⟩ := loadCase_ok hloaded
      have hmove : recordStageTransition (advanceTo next caseId) s = _ :=
        recordStageTransition_of_missing hc hct hstopped.2
      simp only [Option.pure_def, Option.some.injEq, Prod.mk.injEq] at h
      rw [← h.2.2]
      simp only [onActivityCompleted, hloaded, bind, Except.bind, hst, orFail, hstopped.1, if_true,
        hnext, hmove]
      rfl
    · cases h

theorem transact_onActivityCompletedBlocking (s : Store) :
    Tx.transact (onActivityCompletedBlocking ctx event s) s =
      Tx.outcome s ((onActivityCompleted ctx event s).map fun s' => ((), s')) := by
  refine transact_checkedTx (fun f hf => ?_) s
  obtain ⟨⟨input, c, missing⟩, hblocked, rfl⟩ := Option.map_eq_some_iff.mp hf
  exact onActivityCompleted_of_blocked hblocked

/-! ## No evidence -/

/-- A failed validation is in the log afterwards, and a stopped move in the outbox, exactly if an
    earlier one was there before. -/
theorem failure_evidence_iff (catalog : AuditedCatalog) (s : Store) (caseId : Id) :
    (failedValidation lib catalog.toCatalog caseTypeId ≠ none →
      ((∃ row ∈ (Tx.transact (activateAudited lib now caseTypeId activatedBy catalog)
          catalog).2.validationFailures.rows, row.2.caseTypeId = caseTypeId) ↔
        ∃ row ∈ catalog.validationFailures.rows, row.2.caseTypeId = caseTypeId)) ∧
    ((∃ stopped, blockedTransition s event = some stopped ∧ stopped.1.caseId = caseId) →
      ((∃ row ∈ (Tx.transact (onActivityCompletedBlocking ctx event s) s).2.outbox.rows,
          row.2.eventType = .stageTransitionBlocked ∧ row.2.caseId = some caseId) ↔
        ∃ row ∈ s.outbox.rows,
          row.2.eventType = .stageTransitionBlocked ∧ row.2.caseId = some caseId)) := by
  constructor
  · intro hfailed
    obtain ⟨violations, hviolations⟩ := Option.ne_none_iff_exists'.mp hfailed
    rw [transact_activateAudited, activateCaseTypeVersion_of_failed hviolations]
    exact Iff.rfl
  · rintro ⟨⟨input, c, missing⟩, hblocked, -⟩
    rw [transact_onActivityCompletedBlocking, onActivityCompleted_of_blocked hblocked]
    exact Iff.rfl

/-- A draft without stages. -/
def emptyDraft : AuditedCatalog where
  caseTypes := Table.empty.insert { code := "LOAN", status := .draft, config := { stages := [] } }

theorem failed_validation_unrecorded :
    failedValidation asciiMapping emptyDraft.toCatalog 0 ≠ none ∧
      (Tx.transact (activateAudited asciiMapping 5 0 "ann" emptyDraft)
        emptyDraft).2.validationFailures.rows = [] := by
  constructor <;> decide +kernel

end LoanWorkflow
