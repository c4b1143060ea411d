import LoanWorkflow.Framework.Machine
import LoanWorkflow.Versioning.Diff

/-! # Versions of a case type

    Drafts are created and edited, one version of a code is activated at a
    time, and an activation deprecates the version that was active. Diffs
    between two versions are computed once and stored.
-/

namespace LoanWorkflow

open List

variable {caseTypeId fromVerId toVerId : Id} {now : Instant}

/-! ## The catalogue -/

structure CaseMapping where
  /-- `unicode.ToUpper`. -/
  toUpper : Char → Char
  /-- `strings.EqualFold`. -/
  equalFold : String → String → Bool
  toUpper_toUpper : ∀ c, toUpper (toUpper c) = toUpper c
  isSpace_toUpper : ∀ c, isSpace (toUpper c) = isSpace c
  equalFold_refl : ∀ s, equalFold s s = true

/-- `strings.ToUpper(strings.TrimSpace(_))`. -/
def CaseMapping.normalize (lib : CaseMapping) (s : String) : String :=
  String.ofList ((trimSpace s).toList.map lib.toUpper)

def asciiUpper (c : Char) : Char :=
  if 97 ≤ c.toNat ∧ c.toNat ≤ 122 then Char.ofNat (c.toNat - 32) else c

theorem toNat_asciiUpper (c : Char) : (asciiUpper c).toNat =
    if 97 ≤ c.toNat ∧ c.toNat ≤ 122 then c.toNat - 32 else c.toNat := by
  unfold asciiUpper
  split
  · rw [Char.ofNat, dif_pos (Or.inl (by omega))]
    rfl
  · rfl

def asciiMapping : CaseMapping where
  toUpper := asciiUpper
  equalFold := fun a b => a.toList.map asciiUpper == b.toList.map asciiUpper
  toUpper_toUpper := by
    intro c
    have h := toNat_asciiUpper c
    rw [asciiUpper, if_neg]
    split at h <;> omega
  isSpace_toUpper := by
    intro c
    by_cases hlower : 97 ≤ c.toNat ∧ c.toNat ≤ 122
    · have h := toNat_asciiUpper c
      rw [if_pos hlower] at h
      rw [not_isSpace_of_toNat, not_isSpace_of_toNat] <;> omega
    · rw [asciiUpper, if_neg hlower]
  equalFold_refl := by simp

/-- A row of `case_type_version_diffs`. -/
structure StoredDiff where
  caseTypeCode : String
  fromCaseTypeId : Id
  toCaseTypeId : Id
  fromVersion : Int
  toVersion : Int
  diff : CaseTypeVersionDiff

/-- A row of `activity_definitions`. -/
structure ActivityDefinitionRow where
  caseTypeId : Id
  caseTypeVersion : Int
  stageCode : String
  activityCode : String

/-- The store with the tables of the catalogue. -/
structure Catalog extends Store where
  versionDiffs : Table StoredDiff := .empty
  activityDefinitions : List ActivityDefinitionRow := []

namespace Catalog

def updateVersion (s : Catalog) (k : Id) (f : CaseType → CaseType) : Catalog :=
  { s with caseTypes := s.caseTypes.updateAt k f }

def publishCaseTypeEvent (s : Catalog) (now : Instant) (eventType : EventType) (code : String)
    (caseTypeId : Id) (version : Int) (actor : String) (extra : List (String × Json)) : Catalog :=
  { s with
    toStore := s.toStore.publish {
      eventType := eventType
      targetService := "case-orchestrator"
      payload := .obj ([("case_type_id", .uuid caseTypeId), ("case_type_code", .str code),
        ("version", .num version), ("actor", .str actor), ("occurred_at", .num now)] ++ extra) } }

end Catalog

/-! ## Reading versions -/

def CaseTypeStatus.text : CaseTypeStatus → String
  | .draft => "DRAFT"
  | .active => "ACTIVE"
  | .deprecated => "DEPRECATED"

def immutableCaseTypeError (caseTypeId : Id) (status : CaseTypeStatus) : Err :=
  "case type " ++ toString caseTypeId ++ " is immutable in status " ++ status.text

def errCannotDeprecateSoleActive : Err :=
  "cannot deprecate sole active case_type version without replacement"

/-- `ValidationResult.Error`. -/
def validationError (violations : List ValidationViolation) : Err :=
  if violations = [] then "validation failed"
  else "validation failed: " ++ "; ".intercalate (violations.map fun v =>
    if trimSpace v.fieldPath = "" then v.message else v.fieldPath ++ ": " ++ v.message)

/-- The rows are locked for the transaction. -/
def lockCaseTypeCodeRowsTx (lib : CaseMapping) (caseTypeCode : String) : Except Err Unit :=
  ensure (lib.normalize caseTypeCode ≠ "") "lockCaseTypeCodeRowsTx: caseTypeCode is required"

def loadCaseTypeVersionByIDTx (s : Store) (caseTypeId : Id) : Except Err CaseType :=
  orFail (s.caseTypes.get? caseTypeId)
    ("loadCaseTypeVersionByIDTx: case_type " ++ toString caseTypeId ++ " not found")

/-- The active versions of a code other than one version, the newest first. -/
def activeVersions (s : Store) (code : String) (excludeId : Id) : List (Id × CaseType) :=
  (s.caseTypes.rows.filter fun r =>
    r.2.code == code && decide (r.2.status = .active) && r.1 != excludeId).insertionSort
      (fun a b => b.2.version ≤ a.2.version)

/-- Nothing is `ErrNoActiveVersion`. -/
def loadActiveCaseTypeByCodeTx (lib : CaseMapping) (s : Store) (caseTypeCode : String)
    (excludeId : Id) : Except Err (Option (Id × CaseType)) :=
  if lib.normalize caseTypeCode = "" then
    .error "loadActiveCaseTypeByCodeTx: caseTypeCode is required"
  else .ok (activeVersions s (lib.normalize caseTypeCode) excludeId).head?

def validateActivitiesExistInDefinitionsTx (lib : CaseMapping) (s : Catalog) (caseTypeId : Id)
    (version : CaseType) : List ValidationViolation :=
  let rows := s.activityDefinitions.filter fun r =>
    r.caseTypeId == caseTypeId && decide (r.caseTypeVersion = version.version)
  let existing := rows.map fun r => (lib.normalize r.stageCode ++ "::" ++ lib.normalize r.activityCode)
  version.config.stages.zipIdx.flatMap fun (stage, stageIdx) =>
    stage.activities.zipIdx.filterMap fun (activity, activityIdx) =>
      if lib.normalize stage.code ++ "::" ++ lib.normalize activity.code ∈ existing then none
      else some ⟨"stages[" ++ toString stageIdx ++ "].activities[" ++ toString activityIdx ++ "].code",
        trimSpace ("activity " ++ trimSpace activity.code ++ " in stage " ++ trimSpace stage.code ++
          " is not materialized in activity_definitions")⟩

/-! ## Operations -/

/-- `COALESCE(MAX(version), 0)` over the versions of a code. -/
def maxVersion (s : Store) (code : String) : Int :=
  ((s.caseTypes.rows.filter (fun r => r.2.code == code)).map (·.2.version)).foldl max 0

/-- The next version is a 32-bit integer. -/
def createCaseTypeDraftVersion (lib : CaseMapping) (caseTypeCode name description : String)
    (config : CaseTypeConfig) (s : Catalog) : Except Err Catalog :=
  let code := lib.normalize caseTypeCode
  if code = "" then .error "CreateCaseTypeDraftVersion: caseTypeCode is required"
  else if trimSpace name = "" then .error "CreateCaseTypeDraftVersion: name is required"
  else do
    let _ ← (lockCaseTypeCodeRowsTx lib code).mapError
      ("CreateCaseTypeDraftVersion: lock case_type code rows: " ++ ·)
    let nextVersion := maxVersion s.toStore code + 1
    if 2 ^ 31 ≤ nextVersion then
      .error "CreateCaseTypeDraftVersion: compute next version: integer out of range"
    else
      .ok { s with
        caseTypes := s.caseTypes.insert {
          code := code
          version := nextVersion
          name := trimSpace name
          description := nullIfEmptyString description
          config := config
          status := .draft } }

/-- The stored document has the fields of `CaseTypeConfig` only. -/
def updateCaseTypeDraftConfig (caseTypeId : Id) (newConfig : CaseTypeConfig) (s : Catalog) :
    Except Err Catalog :=
  match s.caseTypes.get? caseTypeId with
  | none => .error ("UpdateCaseTypeDraftConfig: AssertCaseTypeIsMutableTx: " ++
      "assertCaseTypeIsMutableWithGetter: case_type " ++ toString caseTypeId ++ " not found")
  | some ct =>
    if ct.status ≠ .draft then
      .error ("UpdateCaseTypeDraftConfig: AssertCaseTypeIsMutableTx: " ++
        immutableCaseTypeError caseTypeId ct.status)
    else .ok (s.updateVersion caseTypeId fun ct => { ct with config := newConfig, ttlDays := none })

def getStoredDiffTx (s : Catalog) (fromVerId toVerId : Id) : Option StoredDiff :=
  (s.versionDiffs.find? fun d => d.fromCaseTypeId == fromVerId && d.toCaseTypeId == toVerId).map
    Prod.snd

/-- A stored diff is returned as it is; the checks of the table refuse
    a diff of a version with itself and version numbers that are not positive. -/
def diffCaseTypeVersionsTx (lib : CaseMapping) (fromVerId toVerId : Id) (s : Catalog) :
    Except Err (CaseTypeVersionDiff × Catalog) :=
  match getStoredDiffTx s fromVerId toVerId with
  | some stored => .ok (stored.diff, s)
  | none => do
    let fromSource ← orFail (s.caseTypes.get? fromVerId)
      ("diffCaseTypeVersionsTx: load from version: loadCaseTypeDiffSourceTx: load case_type " ++
        toString fromVerId ++ ": sql: no rows in result set")
    let toSource ← orFail (s.caseTypes.get? toVerId)
      ("diffCaseTypeVersionsTx: load to version: loadCaseTypeDiffSourceTx: load case_type " ++
        toString toVerId ++ ": sql: no rows in result set")
    if lib.equalFold fromSource.code toSource.code = false then
      .error ("diffCaseTypeVersionsTx: versions belong to different case_type_code values (" ++
        fromSource.code ++ " vs " ++ toSource.code ++ ")")
    else if fromVerId = toVerId ∨ fromSource.version ≤ 0 ∨ toSource.version ≤ 0 then
      .error "diffCaseTypeVersionsTx: insert diff: new row violates check constraint"
    else
      let diff := computeCaseTypeVersionDiff fromSource toSource
      .ok (diff, { s with
        versionDiffs := s.versionDiffs.insert {
          caseTypeCode := toSource.code
          fromCaseTypeId := fromVerId
          toCaseTypeId := toVerId
          fromVersion := fromSource.version
          toVersion := toSource.version
          diff := diff } })

def diffCaseTypeVersions (lib : CaseMapping) (fromVerId toVerId : Id) (s : Catalog) :
    Except Err (CaseTypeVersionDiff × Catalog) :=
  (diffCaseTypeVersionsTx lib fromVerId toVerId s).mapError ("DiffCaseTypeVersions: " ++ ·)

/-- The first part of an activation: the version that was active is deprecated. -/
def deprecatePrevious (now : Instant) (code activatedBy : String) (previous : Option (Id × CaseType))
    (s : Catalog) : Catalog :=
  match previous with
  | none => s
  | some (previousId, previousActive) =>
    (s.updateVersion previousId fun ct => { ct with status := .deprecated }).publishCaseTypeEvent now
      .caseTypeDeprecated code previousId previousActive.version activatedBy []

def storeActivationDiff (lib : CaseMapping) (previous : Option (Id × CaseType)) (targetId : Id)
    (s : Catalog) : Except Err Catalog :=
  match previous with
  | none => .ok s
  | some (previousId, _) => do
    let (_, s) ← (diffCaseTypeVersionsTx lib previousId targetId s).mapError
      ("ActivateCaseTypeVersion: compute/store version diff: " ++ ·)
    return s

def activateCaseTypeVersion (lib : CaseMapping) (now : Instant) (caseTypeId : Id)
    (activatedBy : String) (s : Catalog) : Except Err Catalog := do
  let target ← (loadCaseTypeVersionByIDTx s.toStore caseTypeId).mapError
    ("ActivateCaseTypeVersion: load target case_type: " ++ ·)
  let _ ← (lockCaseTypeCodeRowsTx lib target.code).mapError
    ("ActivateCaseTypeVersion: lock case_type code rows: " ++ ·)
  let _ ← ensure (target.status = .draft)
    ("ActivateCaseTypeVersion: " ++ immutableCaseTypeError caseTypeId target.status)
  let violations := validateCaseTypeConfig target.config
  let _ ← ensure (violations = []) ("ActivateCaseTypeVersion: " ++ validationError violations)
  let missing := validateActivitiesExistInDefinitionsTx lib s caseTypeId target
  let _ ← ensure (missing = []) ("ActivateCaseTypeVersion: " ++ validationError missing)
  let previous ← (loadActiveCaseTypeByCodeTx lib s.toStore target.code caseTypeId).mapError
    ("ActivateCaseTypeVersion: load previous active version: " ++ ·)
  let s := deprecatePrevious now target.code activatedBy previous s
  let s := s.updateVersion caseTypeId fun ct => { ct with status := .active }
  let s ← storeActivationDiff lib previous caseTypeId s
  return s.publishCaseTypeEvent now .caseTypeActivated target.code caseTypeId target.version
    activatedBy []

def deprecateCaseTypeVersion (lib : CaseMapping) (now : Instant) (caseTypeId : Id)
    (deprecatedBy : String) (s : Catalog) : Except Err Catalog := do
  let target ← (loadCaseTypeVersionByIDTx s.toStore caseTypeId).mapError
    ("DeprecateCaseTypeVersion: load target case_type: " ++ ·)
  let _ ← (lockCaseTypeCodeRowsTx lib target.code).mapError
    ("DeprecateCaseTypeVersion: lock case_type code rows: " ++ ·)
  let _ ← ensure (target.status = .active)
    ("DeprecateCaseTypeVersion: only ACTIVE versions may be deprecated (current status: " ++
      target.status.text ++ ")")
  let replacement ← (loadActiveCaseTypeByCodeTx lib s.toStore target.code caseTypeId).mapError
    ("DeprecateCaseTypeVersion: lookup replacement active version: " ++ ·)
  let (replacementId, replacement) ← orFail replacement
    ("DeprecateCaseTypeVersion: " ++ errCannotDeprecateSoleActive)
  let s := s.updateVersion caseTypeId fun ct => { ct with status := .deprecated }
  return s.publishCaseTypeEvent now .caseTypeDeprecated target.code caseTypeId target.version
    deprecatedBy [("replacement_case_type_id", .uuid replacementId),
      ("replacement_version", .num replacement.version)]

/-! ## The machine -/

/-- The operations on the catalogue, and the writers of `activity_definitions` outside of it. -/
inductive VersionOp where
  | create (caseTypeCode name description : String) (config : CaseTypeConfig)
  | update (caseTypeId : Id) (newConfig : CaseTypeConfig)
  | activate (now : Instant) (caseTypeId : Id) (activatedBy : String)
  | deprecateVersion (now : Instant) (caseTypeId : Id) (deprecatedBy : String)
  | diff (fromVerId toVerId : Id)
  | materialize (rows : List ActivityDefinitionRow)

def VersionOp.exec (lib : CaseMapping) : VersionOp → Catalog → Except Err Catalog
  | .create caseTypeCode name description config =>
    createCaseTypeDraftVersion lib caseTypeCode name description config
  | .update caseTypeId newConfig => updateCaseTypeDraftConfig caseTypeId newConfig
  | .activate now caseTypeId activatedBy => activateCaseTypeVersion lib now caseTypeId activatedBy
  | .deprecateVersion now caseTypeId deprecatedBy =>
    deprecateCaseTypeVersion lib now caseTypeId deprecatedBy
  | .diff fromVerId toVerId => fun s =>
    (diffCaseTypeVersions lib fromVerId toVerId s).map Prod.snd
  | .materialize rows => fun s => .ok { s with activityDefinitions := rows }

/-- A configuration of one stage with one activity. -/
def releaseConfig (stage : String) : CaseTypeConfig where
  stages := [{ code := stage, sequenceOrder := 1, activities := [{ code := "CHECK" }] }]

/-! ## What the operations do -/

theorem CaseMapping.normalize_normalize (lib : CaseMapping) (s : String) :
    lib.normalize (lib.normalize s) = lib.normalize s := by
  have hmap : ∀ text : List Char, trimRunes (text.map lib.toUpper) =
      (trimRunes text).map lib.toUpper := by
    intro text
    have hspace : isSpace ∘ lib.toUpper = isSpace := funext lib.isSpace_toUpper
    unfold trimRunes
    rw [dropWhile_map, hspace, ← map_reverse, dropWhile_map, hspace,
      ← map_reverse]
  have htrim : ∀ s : String, (trimSpace s).toList = trimRunes s.toList := by
    intro s
    exact String.toList_ofList
  unfold CaseMapping.normalize
  rw [htrim, String.toList_ofList, hmap, htrim, trimRunes_trimRunes, map_map]
  congr 1
  apply map_congr_left
  intro c _
  exact lib.toUpper_toUpper c

section Steps

variable {lib : CaseMapping} {s s' : Catalog}

theorem createCaseTypeDraftVersion_inv {caseTypeCode name description : String}
    {config : CaseTypeConfig}
    (h : createCaseTypeDraftVersion lib caseTypeCode name description config s = .ok s') :
    ∃ ct, ct.code = lib.normalize caseTypeCode ∧ ct.status = .draft ∧
      ct.version = maxVersion s.toStore ct.code + 1 ∧ ct.config = config ∧
      s'.caseTypes = s.caseTypes.insert ct ∧ s'.versionDiffs = s.versionDiffs := by
  unfold createCaseTypeDraftVersion at h
  dsimp only at h
  split at h
  · cases h
  split at h
  · cases h
  obtain ⟨_, -, h⟩ := bind_ok h
  split at h
  · cases h
  · cases h
    refine ⟨_, ?_, ?_, ?_, ?_, rfl, rfl⟩
    all_goals rfl

theorem updateCaseTypeDraftConfig_inv {newConfig : CaseTypeConfig}
    (h : updateCaseTypeDraftConfig caseTypeId newConfig s = .ok s') :
    ∃ ct, s.caseTypes.get? caseTypeId = some ct ∧ ct.status = .draft ∧
      s'.caseTypes = s.caseTypes.updateAt caseTypeId
        (fun ct => { ct with config := newConfig, ttlDays := none }) ∧
      s'.versionDiffs = s.versionDiffs := by
  unfold updateCaseTypeDraftConfig at h
  split at h
  · cases h
  · next ct hct =>
    split at h
    · cases h
    · next hdraft =>
      cases h
      exact ⟨ct, hct, not_not.mp hdraft, rfl, rfl⟩

/-- The diffs are as before, or with one more between two versions of the table. -/
def StoresDiff (t : Table CaseType) (diffs diffs' : Table StoredDiff) : Prop :=
  diffs' = diffs ∨ ∃ row old new, t.get? row.fromCaseTypeId = some old ∧
    t.get? row.toCaseTypeId = some new ∧ row.diff = computeCaseTypeVersionDiff old new ∧
    diffs' = diffs.insert row

/-- What computing or reading a diff does. -/
theorem diffCaseTypeVersionsTx_inv {d : CaseTypeVersionDiff}
    (h : diffCaseTypeVersionsTx lib fromVerId toVerId s = .ok (d, s')) :
    s'.caseTypes = s.caseTypes ∧
      StoresDiff s'.caseTypes s.versionDiffs s'.versionDiffs := by
  unfold diffCaseTypeVersionsTx at h
  split at h
  · cases h
    exact ⟨rfl, .inl rfl⟩
  · obtain ⟨old, hold, h⟩ := bind_ok h
    obtain ⟨new, hnew, h⟩ := bind_ok h
    split at h
    · cases h
    split at h
    · cases h
    · cases h
      exact ⟨rfl, .inr ⟨_, old, new, orFail_eq_ok.mp hold, orFail_eq_ok.mp hnew, rfl, rfl⟩⟩

theorem diffCaseTypeVersions_eq_ok
    (h : (diffCaseTypeVersions lib fromVerId toVerId s).map Prod.snd = .ok s') :
    ∃ d, diffCaseTypeVersionsTx lib fromVerId toVerId s = .ok (d, s') := by
  obtain ⟨⟨d, _⟩, hrun, rfl⟩ := map_eq_ok.mp h
  exact ⟨d, mapError_eq_ok.mp hrun⟩

theorem mem_activeVersions {code : String} {excludeId k : Id} {ct : CaseType} {s : Store} :
    (k, ct) ∈ activeVersions s code excludeId ↔
      s.caseTypes.get? k = some ct ∧ ct.code = code ∧ ct.status = .active ∧ k ≠ excludeId := by
  unfold activeVersions
  rw [mem_insertionSort, mem_filter, Table.get?_eq_some_iff]
  simp [and_assoc]

def deprecatedTable (t : Table CaseType) (previous : Option (Id × CaseType)) : Table CaseType :=
  match previous with
  | none => t
  | some (previousId, _) => t.updateAt previousId fun ct => { ct with status := .deprecated }

theorem activateCaseTypeVersion_inv {activatedBy : String}
    (h : activateCaseTypeVersion lib now caseTypeId activatedBy s = .ok s') :
    ∃ target, s.caseTypes.get? caseTypeId = some target ∧ target.status = .draft ∧
      validateCaseTypeConfig target.config = [] ∧
      s'.caseTypes = (deprecatedTable s.caseTypes
        (activeVersions s.toStore (lib.normalize target.code) caseTypeId).head?).updateAt caseTypeId
          (fun ct => { ct with status := .active }) ∧
      StoresDiff s'.caseTypes s.versionDiffs s'.versionDiffs := by
  obtain ⟨target, htarget, h⟩ := bind_ok h
  obtain ⟨_, -, h⟩ := bind_ok h
  obtain ⟨_, hdraft, h⟩ := bind_ok h
  obtain ⟨_, hvalid, h⟩ := bind_ok h
  obtain ⟨_, -, h⟩ := bind_ok h
  obtain ⟨previous, hprevious, h⟩ := bind_ok h
  obtain ⟨s₁, hdiff, h⟩ := bind_ok h
  have hget : s.caseTypes.get? caseTypeId = some target :=
    orFail_eq_ok.mp (mapError_eq_ok.mp htarget)
  have hprev : previous = (activeVersions s.toStore (lib.normalize target.code) caseTypeId).head? := by
    rw [mapError_eq_ok, loadActiveCaseTypeByCodeTx] at hprevious
    split at hprevious
    · cases hprevious
    · cases hprevious
      rfl
  have htable : ((deprecatePrevious now target.code activatedBy previous s).updateVersion caseTypeId
      fun ct => { ct with status := .active }).caseTypes =
      (deprecatedTable s.caseTypes previous).updateAt caseTypeId
        (fun ct => { ct with status := .active }) := by
    cases previous <;> rfl
  have hdiffs : ((deprecatePrevious now target.code activatedBy previous s).updateVersion caseTypeId
      fun ct => { ct with status := .active }).versionDiffs = s.versionDiffs := by
    cases previous <;> rfl
  cases h
  refine ⟨target, hget, by simpa using hdraft, by simpa using hvalid, ?_⟩
  rw [← hprev]
  unfold storeActivationDiff at hdiff
  split at hdiff
  · cases hdiff
    exact ⟨htable, .inl hdiffs⟩
  · obtain ⟨⟨d, s₂⟩, hrun, hresult⟩ := bind_ok hdiff
    cases hresult
    obtain ⟨hsame, hrows⟩ := diffCaseTypeVersionsTx_inv (mapError_eq_ok.mp hrun)
    rw [hdiffs] at hrows
    exact ⟨hsame.trans htable, hrows⟩

theorem deprecateCaseTypeVersion_inv {deprecatedBy : String}
    (h : deprecateCaseTypeVersion lib now caseTypeId deprecatedBy s = .ok s') :
    ∃ target replacementId replacement, s.caseTypes.get? caseTypeId = some target ∧
      target.status = .active ∧
      (replacementId, replacement) ∈
        activeVersions s.toStore (lib.normalize target.code) caseTypeId ∧
      s'.caseTypes = s.caseTypes.updateAt caseTypeId
        (fun ct => { ct with status := .deprecated }) ∧
      s'.versionDiffs = s.versionDiffs := by
  obtain ⟨target, htarget, h⟩ := bind_ok h
  obtain ⟨_, -, h⟩ := bind_ok h
  obtain ⟨_, hactive, h⟩ := bind_ok h
  obtain ⟨found, hfound, h⟩ := bind_ok h
  obtain ⟨⟨replacementId, replacement⟩, hsome, h⟩ := bind_ok h
  rw [mapError_eq_ok, loadActiveCaseTypeByCodeTx] at hfound
  rw [orFail_eq_ok] at hsome
  subst hsome
  cases h
  refine ⟨target, replacementId, replacement, orFail_eq_ok.mp (mapError_eq_ok.mp htarget),
    by simpa using hactive, ?_, rfl, rfl⟩
  split at hfound
  · cases hfound
  · exact mem_of_mem_head? (Except.ok.inj hfound)

end Steps

end LoanWorkflow
