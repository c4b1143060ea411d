import LoanWorkflow.Engine.StageTransition
import LoanWorkflow.Engine.TaskCreation

/-! # Creating a case

    A case of an active type is inserted in the first stage that the
    configuration lists, with its SLA, its document requests, its sub-cases
    and the tasks of that stage, in one transaction.
-/

namespace LoanWorkflow

open Table

variable {config : CaseTypeConfig} {ctx : Ctx} {k : Id} {s s' : Store}

/-! ## The version of a request -/

/-- Is a type one of the tenant or of all tenants? -/
def CaseType.visibleTo (ct : CaseType) (tenantId : String) : Bool :=
  match ct.tenantId with
  | none => true
  | some owner => owner == tenantId

/-- The order of versions: those of the tenant first, then the newest. -/
def CaseType.preferred (a b : CaseType) : Bool :=
  match a.tenantId, b.tenantId with
  | some _, none => true
  | none, some _ => false
  | _, _ => decide (b.version ≤ a.version)

/-- Version 0 is the latest active one. -/
def getCaseTypeByCodeAndVersion (s : Store) (tenantId code : String) (version : Int) :
    Except Err (Id × CaseType) :=
  let candidates := s.caseTypes.rows.filter fun r =>
    r.2.code == code && decide (r.2.status = .active) && r.2.visibleTo tenantId
  let found :=
    if 0 < version then candidates.find? fun r => decide (r.2.version = version)
    else (candidates.insertionSort fun a b => a.2.preferred b.2 = true).head?
  orFail found ("case_type " ++ code ++ " (v" ++ toString version ++
    ") not found or not ACTIVE: no rows in result set")

theorem getCaseTypeByCodeAndVersion_inv {tenantId code : String} {version : Int} {ct : CaseType}
    (h : getCaseTypeByCodeAndVersion s tenantId code version = .ok (k, ct)) :
    s.caseTypes.get? k = some ct ∧ ct.code = code ∧ ct.status = .active := by
  unfold getCaseTypeByCodeAndVersion at h
  rw [orFail_eq_ok] at h
  have hmem : (k, ct) ∈ s.caseTypes.rows.filter fun r =>
      r.2.code == code && decide (r.2.status = .active) && r.2.visibleTo tenantId := by
    split at h
    · exact List.mem_of_find?_eq_some h
    · exact (List.mem_insertionSort _).mp (List.mem_of_mem_head? h)
  obtain ⟨hrow, hcond⟩ := List.mem_filter.mp hmem
  simp only [Bool.and_eq_true, beq_iff_eq, decide_eq_true_eq] at hcond
  exact ⟨get?_eq_some_iff.mpr hrow, hcond.1.1, hcond.1.2⟩

/-! ## Columns of a new case -/

/-- The update of `max_rework_attempts` behind the insert. -/
def applyMaxRework (s : Store) (caseId : Id) (config : CaseTypeConfig) : Store :=
  if 0 < config.maxReworkAttempts then
    s.updateCase caseId fun c =>
      { c with maxReworkAttempts := config.maxReworkAttempts, rowVersion := c.rowVersion + 1 }
  else s

def applyCaseSLAAtCreation (ctx : Ctx) (s : Store) (caseId : Id) (config : CaseTypeConfig) :
    Except Err Store := do
  let definition ← (resolveEffectiveSLADefinition config "" "" "").mapError
    ("applyCaseSLAAtCreation: " ++ ·)
  match definition with
  | none => return s
  | some d =>
    let deadline ← (computeSLADeadline ctx ctx.now config.defaultCalendarId d).mapError
      ("applyCaseSLAAtCreation: compute deadline: " ++ ·)
    return s.updateCase caseId fun c =>
      { c with
        sla := { c.sla with
          dueAt := some deadline.dueAt
          effectiveStartTime := some ctx.now
          durationMs := some deadline.durationMs
          warningThresholdPct := some d.warningThresholdPct
          criticalThresholdPct := some d.criticalThresholdPct
          breachAction := some d.breachAction
          calendarId := some deadline.calendarId }
        rowVersion := c.rowVersion + 1 }

/-! ## Documents -/

/-- Does `normalizeExtensions` leave anything? A dot in front is dropped; the case of the letters
    does not matter. -/
def hasExtension (values : List String) : Bool :=
  values.any fun value =>
    let text := match value.toList with
      | '.' :: rest => rest
      | text => text
    !(trimRunes text).isEmpty

/-- Extensions are taken to be ASCII texts. -/
def normalizeExtensions (values : List String) : List String :=
  ((values.map fun value =>
    trimSpace ((stripPrefix? value ".").getD value).toLower).filter (· ≠ "")).eraseDups

/-- The row of `document_types` that a definition is stored as. -/
def documentTypeRow (caseType : CaseType) (documentTypeCode : String)
    (definition : DocumentTypeDefinition) : DocumentType :=
  let requiredCountMin := if definition.requiredCountMin ≤ 0 then 1 else definition.requiredCountMin
  { caseTypeCode := caseType.code
    caseTypeVersion := caseType.version
    documentTypeCode := documentTypeCode
    allowedExtensions := normalizeExtensions definition.allowedExtensions
    maxSizeMB := if definition.maxSizeMB ≤ 0 then 10 else definition.maxSizeMB
    requiredAtStage := nullIfEmptyString definition.requiredAtStage
    requiresVerification := definition.requiresVerification
    verificationRole :=
      if definition.requiresVerification then
        some ((nullIfEmptyString definition.verificationRole).getD "DOCUMENT_REVIEWER")
      else none
    requiredCountMin := requiredCountMin
    requiredCountMax :=
      if definition.requiredCountMax ≤ 0 ∨ definition.requiredCountMax < requiredCountMin then
        requiredCountMin
      else definition.requiredCountMax }

/-- The upsert on `(case_type_code, case_type_version, document_type_code)`. -/
def upsertDocumentType (types : Table DocumentType) (row : DocumentType) : Table DocumentType :=
  match types.find? (fun d => d.caseTypeCode == row.caseTypeCode &&
    decide (d.caseTypeVersion = row.caseTypeVersion) &&
    d.documentTypeCode == row.documentTypeCode) with
  | some (k, _) => types.updateAt k fun _ => row
  | none => types.insert row

/-- One pass of the loop of `materializeDocumentConfigAndRequests`. -/
def materializeDocumentType (caseType : CaseType) (s : Store)
    (definition : DocumentTypeDefinition) : Except Err Store := do
  let documentTypeCode := trimSpace definition.documentTypeCode
  let _ ← ensure (documentTypeCode ≠ "")
    "materializeDocumentConfigAndRequests: document_type_code is required"
  let _ ← ensure (hasExtension definition.allowedExtensions)
    ("materializeDocumentConfigAndRequests: allowed_extensions is required for " ++
      documentTypeCode)
  return { s with
    documentTypes := upsertDocumentType s.documentTypes
      (documentTypeRow caseType documentTypeCode definition) }

def materializeDocumentConfigAndRequests (s : Store) (caseId : Id) (caseType : CaseType)
    (entryStageCode : String) : Except Err Store := do
  let s ← caseType.config.documentTypes.foldlM (materializeDocumentType caseType) s
  if trimSpace entryStageCode = "" then return s
  else return requestStageDocuments s caseId caseType entryStageCode

/-! ## Sub-cases -/

/-- One pass of the loop of `CreateSubCases`; a type that is not found is skipped. -/
def createSubCase (ctx : Ctx) (parentId : Id) (parent : CaseInstance) (s : Store)
    (subCode : String) : Except Err Store :=
  match getCaseTypeByCodeAndVersion s parent.tenantId subCode 0 with
  | .error _ => .ok s
  | .ok (subTypeId, subType) =>
    let entry := subType.config.stages.head?
    let subCaseId := s.cases.fresh
    let s := { s with
      cases := s.cases.insert
        { tenantId := parent.tenantId
          caseTypeId := subTypeId
          parentCaseId := some parentId
          currentStageCode := entry.map (·.code)
          currentStageOrdinal := (entry.map (·.sequenceOrder)).getD 0
          metadata := parent.metadata
          createdAt := ctx.now } }
    let s := applyMaxRework s subCaseId subType.config
    (applyCaseSLAAtCreation ctx s subCaseId subType.config).mapError
      ("failed to initialize sub-case SLA " ++ subCode ++ ": " ++ ·)

def createSubCases (ctx : Ctx) (parentId : Id) (parent : CaseInstance) (config : CaseTypeConfig)
    (s : Store) : Except Err Store :=
  config.subCaseTypes.foldlM (createSubCase ctx parentId parent) s

/-! ## The case -/

structure CreateCaseRequest where
  caseTypeCode : String
  caseTypeVersion : Int := 0
  metadata : Option Json := none
  requestedBy : String := ""

def newCase (now : Instant) (tenantId : String) (caseTypeId : Id) (entry : StageDefinition)
    (metadata : Json) : CaseInstance where
  tenantId := tenantId
  caseTypeId := caseTypeId
  currentStageCode := some entry.code
  currentStageOrdinal := entry.sequenceOrder
  metadata := metadata
  createdAt := now

/-- The transaction of `CreateCase`, behind the checks. -/
def insertNewCase (lib : Library) (ctx : Ctx) (tenantId : String) (req : CreateCaseRequest)
    (caseTypeId : Id) (caseType : CaseType) (entry : StageDefinition) (s : Store) :
    Except Err (Id × Store) := do
  let c := newCase ctx.now tenantId caseTypeId entry (req.metadata.getD (.obj []))
  let caseId := s.cases.fresh
  let s := { s with cases := s.cases.insert c }
  let s := applyMaxRework s caseId caseType.config
  let s ← (applyCaseSLAAtCreation ctx s caseId caseType.config).mapError
    ("failed to initialize case SLA: " ++ ·)
  let s ← (materializeDocumentConfigAndRequests s caseId caseType entry.code).mapError
    ("failed to initialize document requirements: " ++ ·)
  let s ← (createSubCases ctx caseId c caseType.config s).mapError
    ("failed to create sub-cases: " ++ ·)
  let s ← (recordStageTransition
    { caseId := caseId, toStageCode := entry.code, toStageOrdinal := entry.sequenceOrder
      triggeredBy := req.requestedBy } s).mapError
    ("failed to record entry stage transition: " ++ ·)
  let s ← (createTasksForStage lib ctx caseId entry.code entry caseType.config s).mapError
    ("failed to create entry tasks: " ++ ·)
  return (caseId, s.publish
    { eventType := .caseCreated, caseId := some caseId
      payload := .obj [("case_id", .uuid caseId), ("case_type_code", .str caseType.code),
        ("case_type_version", .num caseType.version), ("initial_stage", .str entry.code),
        ("requested_by", .str req.requestedBy)]
      targetService := "case-orchestrator" })

/-- `admission` are the checks of the tenant, its capacity and its case types, which
    write nothing here; `contextTenant` is the tenant of the request, if it has one. -/
def createCase (lib : Library) (ctx : Ctx) (admission : Store → String → String → Except Err Unit)
    (contextTenant : Option String) (req : CreateCaseRequest) (s : Store) :
    Except Err (Id × Store) := do
  let tenantId := contextTenant.getD defaultTenantId
  let _ ← admission s tenantId req.caseTypeCode
  let (caseTypeId, caseType) ←
    (getCaseTypeByCodeAndVersion s tenantId req.caseTypeCode req.caseTypeVersion).mapError
      ("invalid case_type: " ++ ·)
  match caseType.config.stages with
  | [] => .error ("case_type " ++ caseType.code ++ " has no stages defined")
  -- the first stage of the list is the entry point
  | entry :: _ => insertNewCase lib ctx tenantId req caseTypeId caseType entry s

/-! ## Where a new case stands -/

/-- The type, the stage and the ordinal of a case. -/
def CaseInstance.entry (c : CaseInstance) : Id × Option String × Int :=
  (c.caseTypeId, c.currentStageCode, c.currentStageOrdinal)

/-- Cases keep their types, stages and ordinals, and no type is rewritten. -/
structure EntryKept (s s' : Store) : Prop where
  cases : s.cases.Keeps CaseInstance.entry s'.cases
  caseTypes : s'.caseTypes = s.caseTypes

namespace EntryKept

variable {s'' : Store}

theorem refl (s : Store) : EntryKept s s := ⟨.refl _ _, rfl⟩

theorem trans (h : EntryKept s s') (h' : EntryKept s' s'') : EntryKept s s'' :=
  ⟨h.cases.trans h'.cases, h'.caseTypes.trans h.caseTypes⟩

theorem insertCase (s : Store) (c : CaseInstance) :
    EntryKept s { s with cases := s.cases.insert c } := ⟨.insert c, rfl⟩

theorem applyMaxRework (s : Store) (k : Id) (config : CaseTypeConfig) :
    EntryKept s (applyMaxRework s k config) := by
  unfold LoanWorkflow.applyMaxRework
  split
  · exact ⟨.updateAt fun _ => rfl, rfl⟩
  · exact refl s

theorem applyCaseSLAAtCreation
    (h : applyCaseSLAAtCreation ctx s k config = .ok s') : EntryKept s s' := by
  obtain ⟨definition, -, h⟩ := bind_ok h
  split at h
  · cases h
    exact refl s
  · obtain ⟨deadline, -, h⟩ := bind_ok h
    cases h
    exact ⟨.updateAt fun _ => rfl, rfl⟩

theorem materialize {caseType : CaseType} {entryStageCode : String}
    (h : materializeDocumentConfigAndRequests s k caseType entryStageCode = .ok s') :
    EntryKept s s' := by
  obtain ⟨s₁, hloop, h⟩ := bind_ok h
  have htypes : EntryKept s s₁ := by
    refine foldlM_invariant (P := EntryKept s) ?_ (refl s) hloop
    intro b definition b' _ hb hpass
    obtain ⟨_, -, hpass⟩ := bind_ok hpass
    obtain ⟨_, -, hpass⟩ := bind_ok hpass
    cases hpass
    exact hb.trans ⟨.refl _ _, rfl⟩
  split at h
  · cases h
    exact htypes
  · cases h
    exact htypes.trans ⟨.refl _ _, rfl⟩

theorem createSubCases {parentId : Id} {parent : CaseInstance}
    (h : createSubCases ctx parentId parent config s = .ok s') : EntryKept s s' := by
  refine foldlM_invariant (P := EntryKept s) ?_ (refl s) h
  intro b subCode b' _ hb hpass
  unfold createSubCase at hpass
  split at hpass
  · cases hpass
    exact hb
  · exact ((hb.trans (insertCase b _)).trans (applyMaxRework _ _ _)).trans
      (applyCaseSLAAtCreation (mapError_eq_ok.mp hpass))

end EntryKept

/-- The case is already in its entry stage, so the transition writes nothing. -/
theorem recordStageTransition_stay {input : TransitionInput} {c : CaseInstance}
    (hc : s.cases.get? input.caseId = some c) (hcode : c.currentStageCode = some input.toStageCode)
    (hordinal : c.currentStageOrdinal = input.toStageOrdinal)
    (h : recordStageTransition input s = .ok s') : s' = s := by
  obtain ⟨c₁, hc₁, h⟩ := bind_ok h
  obtain ⟨ct, -, h⟩ := bind_ok h
  obtain ⟨_, -, h⟩ := bind_ok h
  rw [orFail_eq_ok, hc] at hc₁
  obtain rfl := Option.some.inj hc₁
  rw [if_pos ⟨hcode, hordinal⟩] at h
  cases h
  rfl

/-- A new case is a row of its own, in the first stage that its configuration lists. -/
theorem createCase_entry {lib : Library} {admission : Store → String → String → Except Err Unit}
    {contextTenant : Option String} {req : CreateCaseRequest} {caseId : Id}
    (h : createCase lib ctx admission contextTenant req s = .ok (caseId, s')) :
    ∃ c ct entry rest, s.cases.get? caseId = none ∧ s'.cases.get? caseId = some c ∧
      s'.caseTypes.get? c.caseTypeId = some ct ∧ s'.caseTypes = s.caseTypes ∧
      ct.status = .active ∧ ct.config.stages = entry :: rest ∧
      c.currentStageCode = some entry.code ∧ c.currentStageOrdinal = entry.sequenceOrder := by
  obtain ⟨_, -, h⟩ := bind_ok h
  obtain ⟨⟨caseTypeId, ct⟩, hct, h⟩ := bind_ok h
  obtain ⟨hget, -, hactive⟩ := getCaseTypeByCodeAndVersion_inv (mapError_eq_ok.mp hct)
  dsimp only at h
  split at h
  · cases h
  next entry rest hstages =>
  obtain ⟨s₁, hsla, h⟩ := bind_ok h
  obtain ⟨s₂, hdocuments, h⟩ := bind_ok h
  obtain ⟨s₃, hsubs, h⟩ := bind_ok h
  obtain ⟨s₄, hmove, h⟩ := bind_ok h
  obtain ⟨s₅, htasks, h⟩ := bind_ok h
  rw [mapError_eq_ok] at hsla hdocuments hsubs hmove htasks
  cases h
  have hkept : EntryKept { s with
      cases := s.cases.insert (newCase ctx.now (contextTenant.getD defaultTenantId) caseTypeId entry
        (req.metadata.getD (.obj []))) } s₃ :=
    (((EntryKept.applyMaxRework _ _ _).trans (.applyCaseSLAAtCreation hsla)).trans
      (.materialize hdocuments)).trans (.createSubCases hsubs)
  obtain ⟨c, hc, hentry⟩ := hkept.cases s.cases.fresh _ (by rw [get?_insert, if_pos rfl])
  obtain ⟨htype, hcode, hordinal⟩ := by simpa [CaseInstance.entry] using hentry
  obtain rfl := recordStageTransition_stay hc hcode hordinal hmove
  have hframe := createTasksForStage_frame htasks
  have htypes : s₅.caseTypes = s.caseTypes := hframe.caseTypes.trans hkept.caseTypes
  refine ⟨c, ct, entry, rest, get?_fresh s.cases, ?_, ?_, htypes, hactive, hstages, hcode,
    hordinal⟩
  · show s₅.cases.get? s.cases.fresh = some c
    rw [hframe.cases]
    exact hc
  · show s₅.caseTypes.get? c.caseTypeId = some ct
    rw [htypes, htype]
    exact hget

end LoanWorkflow
