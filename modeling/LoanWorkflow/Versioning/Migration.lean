import LoanWorkflow.Versioning.Governance

/-! # Moving a case to the active version

    A case keeps the code and the ordinal of its stage. A migration pins the
    case to the active version of its code and rewrites neither, so that the
    ordinal is the one of the old configuration.

    - `migration_keeps_cursor_iff`: when a migrated case can go on
-/

namespace LoanWorkflow

open List

/-! ## The operation -/

def errCaseTerminalForMigration : Err := "terminal case cannot be migrated"

def errCaseAlreadyOnActiveVersion : Err := "case already pinned to active case_type version"

def errNoActiveVersion : Err := "no active case_type version"

/-- `StageCompatibilityError`, with a reason. -/
def stageCompatibilityError (reason : String) : Err := "stage compatibility error: " ++ reason

/-- Codes are compared without case and outer blanks. -/
def findStageOrdinal (lib : CaseMapping) (config : CaseTypeConfig) (stageCode : String) :
    Option Int :=
  let stageCode := trimSpace stageCode
  if stageCode = "" then none
  else (config.stages.find? fun st => lib.equalFold (trimSpace st.code) stageCode).map
    (·.sequenceOrder)

def migrateCaseToLatestVersion (lib : CaseMapping) (now : Instant) (caseId : Id)
    (migratedBy : String) (s : Catalog) : Except Err Catalog := do
  let c ← orFail (s.cases.get? caseId)
    "MigrateCaseToLatestVersion: load and lock case: sql: no rows in result set"
  let pinned ← orFail (s.caseTypes.get? c.caseTypeId)
    "MigrateCaseToLatestVersion: load and lock case: sql: no rows in result set"
  -- a rejected case is not among the terminal ones here
  let _ ← ensure (c.status ≠ .completed ∧ c.status ≠ .cancelled ∧ c.status ≠ .exception)
    ("MigrateCaseToLatestVersion: " ++ errCaseTerminalForMigration)
  let _ ← ensure (pinned.status = .deprecated)
    ("MigrateCaseToLatestVersion: pinned version status must be DEPRECATED (current " ++
      pinned.status.text ++ ")")
  let _ ← (lockCaseTypeCodeRowsTx lib pinned.code).mapError
    ("MigrateCaseToLatestVersion: lock case_type code rows: " ++ ·)
  let found ← (loadActiveCaseTypeByCodeTx lib s.toStore pinned.code c.caseTypeId).mapError
    ("MigrateCaseToLatestVersion: load active replacement version: " ++ ·)
  let (activeId, active) ← orFail found
    ("MigrateCaseToLatestVersion: load active replacement version: " ++ errNoActiveVersion)
  let _ ← ensure (activeId ≠ c.caseTypeId)
    ("MigrateCaseToLatestVersion: " ++ errCaseAlreadyOnActiveVersion)
  let stageCode := c.currentStageCode.getD ""
  let target ← orFail (findStageOrdinal lib active.config stageCode)
    ("MigrateCaseToLatestVersion: " ++ stageCompatibilityError ("current stage " ++ stageCode ++
      " does not exist in target version " ++ toString active.version))
  let _ ← ensure (c.currentStageOrdinal ≤ target)
    ("MigrateCaseToLatestVersion: " ++ stageCompatibilityError
      ("target stage ordinal regression is not permitted (" ++ toString c.currentStageOrdinal ++
        " -> " ++ toString target ++ ")"))
  let s := { s with
    toStore := s.toStore.updateCase caseId fun c =>
      { c with caseTypeId := activeId, rowVersion := c.rowVersion + 1 } }
  return s.publishCaseTypeEvent now .caseVersionMigrated active.code activeId active.version
    migratedBy [("case_id", .uuid caseId), ("from_version_id", .uuid c.caseTypeId),
      ("to_version_id", .uuid activeId), ("from_version", .num pinned.version),
      ("to_version", .num active.version)]

/-! ## The cursor of a case -/

/-- The ordinal of a case is the one of its stage code in a configuration. -/
def CaseInstance.cursorIn (c : CaseInstance) (config : CaseTypeConfig) : Prop :=
  (findStage config (c.currentStageCode.getD "")).map (·.sequenceOrder) =
    some c.currentStageOrdinal

instance (c : CaseInstance) (config : CaseTypeConfig) : Decidable (c.cursorIn config) :=
  inferInstanceAs (Decidable (_ = _))

/-- The next stage is the one with the next ordinal, if there is one. -/
def NextInOrder (config : CaseTypeConfig) (ordinal : Int) : Prop :=
  findNextStage config ordinal =
    config.stages.find? (fun st => decide (st.sequenceOrder = ordinal + 1))

/-- The stage with the next ordinal is listed before all stages with a higher one. -/
def ListedNext (config : CaseTypeConfig) (ordinal : Int) : Prop :=
  ∀ before st after, config.stages = before ++ st :: after → ordinal + 1 < st.sequenceOrder →
    ∃ next ∈ before, next.sequenceOrder = ordinal + 1

/-- A case whose cursor is right and leads to the following stage. -/
def CursorConsistent (s : Catalog) (caseId : Id) : Prop :=
  ∃ c ct, s.cases.get? caseId = some c ∧ s.caseTypes.get? c.caseTypeId = some ct ∧
    c.cursorIn ct.config ∧ NextInOrder ct.config c.currentStageOrdinal

theorem nextInOrder_iff (config : CaseTypeConfig) (ordinal : Int) :
    NextInOrder config ordinal ↔ ListedNext config ordinal := by
  unfold NextInOrder findNextStage
  constructor
  · intro hnext before st after hstages hlater
    have hst : ordinal < st.sequenceOrder := by omega
    rw [hstages, find?_append] at hnext
    cases hfirst : before.find? (fun st => decide (ordinal < st.sequenceOrder)) with
    | some first =>
      refine ⟨first, mem_of_find?_eq_some hfirst, ?_⟩
      rw [hfirst, Option.some_or] at hnext
      simpa using find?_some hnext.symm
    | none =>
      -- nothing in front of `st` is later, so `st` is what the search finds
      rw [hfirst, Option.none_or, find?_cons_of_pos (by simpa using hst)] at hnext
      have : st.sequenceOrder = ordinal + 1 := by simpa using find?_some hnext.symm
      omega
  · intro hlisted
    cases hfirst : config.stages.find? (fun st => decide (ordinal < st.sequenceOrder)) with
    | none =>
      symm
      rw [find?_eq_none] at hfirst ⊢
      intro st hst
      have := hfirst st hst
      simp only [decide_eq_true_eq] at this ⊢
      omega
    | some first =>
      obtain ⟨hlater, before, after, hstages, hbefore⟩ := find?_eq_some_iff_append.mp hfirst
      simp only [decide_eq_true_eq, Bool.not_eq_true', decide_eq_false_iff_not] at hlater hbefore
      have hordinal : first.sequenceOrder = ordinal + 1 := by
        by_contra hne
        obtain ⟨next, hnext, hsame⟩ := hlisted before first after hstages (by omega)
        exact hbefore next hnext (by omega)
      symm
      refine find?_eq_some_iff_append.mpr ⟨by simpa using hordinal, before, after, hstages, ?_⟩
      intro st hst
      have := hbefore st hst
      simp only [Bool.not_eq_true', decide_eq_false_iff_not]
      omega

/-- In an accepted configuration a stage is known by its code. -/
theorem findStage_of_accepted {config : CaseTypeConfig}
    (haccepted : validateCaseTypeConfig config = []) {st : StageDefinition}
    (hst : st ∈ config.stages) : findStage config st.code = some st := by
  have hnodup := (stageCodes_nodup_of_accepted haccepted)
  obtain ⟨first, hfirst⟩ : ∃ first, findStage config st.code = some first := by
    rw [← Option.isSome_iff_exists]
    exact find?_isSome.mpr ⟨st, hst, by simp⟩
  have hcode : first.code = st.code := by simpa using find?_some hfirst
  have hmem : first ∈ config.stages := mem_of_find?_eq_some hfirst
  rw [hfirst, inj_on_of_nodup_map hnodup hmem hst (by rw [hcode])]

theorem cursorIn_iff {config : CaseTypeConfig} (haccepted : validateCaseTypeConfig config = [])
    (c : CaseInstance) : c.cursorIn config ↔ ∃ st ∈ config.stages,
      st.code = c.currentStageCode.getD "" ∧ st.sequenceOrder = c.currentStageOrdinal := by
  unfold CaseInstance.cursorIn
  constructor
  · intro h
    obtain ⟨st, hfind, hordinal⟩ := Option.map_eq_some_iff.mp h
    exact ⟨st, mem_of_find?_eq_some hfind, by simpa using find?_some hfind, hordinal⟩
  · intro ⟨st, hst, hcode, hordinal⟩
    rw [← hcode, findStage_of_accepted haccepted hst]
    exact congrArg some hordinal

/-! ## Migrations -/

section Migration

variable {lib : CaseMapping} {now : Instant} {caseId : Id} {migratedBy : String} {s s' : Catalog}

theorem migrateCaseToLatestVersion_inv
    (h : migrateCaseToLatestVersion lib now caseId migratedBy s = .ok s') :
    ∃ c pinned activeId active, s.cases.get? caseId = some c ∧
      s.caseTypes.get? c.caseTypeId = some pinned ∧
      c.status ≠ .completed ∧ c.status ≠ .cancelled ∧
      loadActiveCaseTypeByCodeTx lib s.toStore pinned.code c.caseTypeId =
        .ok (some (activeId, active)) ∧
      s'.cases = s.cases.updateAt caseId
        (fun c => { c with caseTypeId := activeId, rowVersion := c.rowVersion + 1 }) ∧
      s'.caseTypes = s.caseTypes := by
  obtain ⟨c, hc, h⟩ := bind_ok h
  obtain ⟨pinned, hpinned, h⟩ := bind_ok h
  obtain ⟨_, hopen, h⟩ := bind_ok h
  obtain ⟨_, -, h⟩ := bind_ok h
  obtain ⟨_, -, h⟩ := bind_ok h
  obtain ⟨found, hfound, h⟩ := bind_ok h
  obtain ⟨⟨activeId, active⟩, hactive, h⟩ := bind_ok h
  obtain ⟨_, -, h⟩ := bind_ok h
  obtain ⟨target, -, h⟩ := bind_ok h
  obtain ⟨_, -, h⟩ := bind_ok h
  rw [orFail_eq_ok] at hc hpinned hactive
  rw [mapError_eq_ok] at hfound
  rw [ensure_eq_ok, decide_eq_true_eq] at hopen
  cases h
  subst hactive
  exact ⟨c, pinned, activeId, active, hc, hpinned, hopen.1, hopen.2.1, hfound, rfl, rfl⟩

/-- A migration that succeeds was of a case that is not closed, and leaves it with a consistent
    cursor, exactly if the case is not rejected and the active version has its stage at the same
    ordinal and lists the following stage before all later ones. -/
theorem migration_keeps_cursor_iff (lib : CaseMapping) (now : Instant) (caseId : Id)
    (migratedBy : String) (s s' : Catalog) (c : CaseInstance) (pinned active : CaseType)
    (activeId : Id) (hc : s.cases.get? caseId = some c)
    (hpinned : s.caseTypes.get? c.caseTypeId = some pinned)
    (hactive : loadActiveCaseTypeByCodeTx lib s.toStore pinned.code c.caseTypeId =
      .ok (some (activeId, active))) (haccepted : validateCaseTypeConfig active.config = [])
    (hok : migrateCaseToLatestVersion lib now caseId migratedBy s = .ok s') :
    (c.status.isTerminal = false ∧ CursorConsistent s' caseId) ↔
      c.status ≠ .rejected ∧
      (∃ st ∈ active.config.stages,
        st.code = c.currentStageCode.getD "" ∧ st.sequenceOrder = c.currentStageOrdinal) ∧
      ListedNext active.config c.currentStageOrdinal := by
  obtain ⟨c₁, pinned₁, activeId₁, active₁, hc₁, hpinned₁, hcompleted, hcancelled, hactive₁, hcases,
    htypes⟩ := migrateCaseToLatestVersion_inv hok
  rw [hc] at hc₁
  obtain rfl := Option.some.inj hc₁
  rw [hpinned] at hpinned₁
  obtain rfl := Option.some.inj hpinned₁
  rw [hactive] at hactive₁
  obtain ⟨rfl, rfl⟩ : activeId = activeId₁ ∧ active = active₁ := by simpa using hactive₁
  have hstatus : c.status.isTerminal = false ↔ c.status ≠ .rejected := by
    cases hs : c.status <;> simp_all [CaseStatus.isTerminal]
  have hget : s.caseTypes.get? activeId = some active := by
    unfold loadActiveCaseTypeByCodeTx at hactive
    split at hactive
    · cases hactive
    · exact (mem_activeVersions.mp (mem_of_mem_head? (Except.ok.inj hactive))).1
  have hcursor : CursorConsistent s' caseId ↔
      c.cursorIn active.config ∧ NextInOrder active.config c.currentStageOrdinal := by
    have hafter : s'.cases.get? caseId =
        some { c with caseTypeId := activeId, rowVersion := c.rowVersion + 1 } := by
      rw [hcases, Table.get?_updateAt_self, hc]
      rfl
    constructor
    · intro ⟨c', ct, hc', hct, hrest⟩
      rw [hafter] at hc'
      obtain rfl := Option.some.inj hc'
      rw [htypes, hget] at hct
      obtain rfl := Option.some.inj hct
      exact hrest
    · intro hrest
      exact ⟨_, active, hafter, by rw [htypes]; exact hget, hrest⟩
  rw [hstatus, hcursor, cursorIn_iff haccepted, nextInOrder_iff]

end Migration

/-! ## A case in its intake -/

/-- A case in the first stage of its configuration. -/
def caseInIntake : CaseInstance where
  caseTypeId := 0
  currentStageCode := some "INTAKE"
  currentStageOrdinal := 1
  status := .inProgress

/-- The case is pinned to a deprecated version; the active one has the configuration `config`. -/
def releasedCatalog (config : CaseTypeConfig) : Catalog where
  caseTypes := (Table.empty.insert
    { code := "LOAN", version := 1, status := .deprecated, config := releaseConfig "INTAKE" }).insert
    { code := "LOAN", version := 2, status := .active, config := config }
  cases := Table.empty.insert caseInIntake

def pairConfig (first second : String) : CaseTypeConfig where
  stages := [{ code := first, sequenceOrder := 1, activities := [{ code := "CHECK" }] },
    { code := second, sequenceOrder := 2, activities := [{ code := "CHECK" }] }]

theorem migration_ok (config : CaseTypeConfig)
    (h : (migrateCaseToLatestVersion asciiMapping 0 0 "desk" (releasedCatalog config)).isOk = true) :
    ∃ s', migrateCaseToLatestVersion asciiMapping 0 0 "desk" (releasedCatalog config) = .ok s' := by
  cases hrun : migrateCaseToLatestVersion asciiMapping 0 0 "desk" (releasedCatalog config) with
  | ok s' => exact ⟨s', rfl⟩
  | error e =>
    rw [hrun] at h
    cases h

theorem migration_keeps_cursor_iff_reviewAdded : ∃ s',
    migrateCaseToLatestVersion asciiMapping 0 0 "desk"
      (releasedCatalog (pairConfig "INTAKE" "REVIEW")) = .ok s' ∧ CursorConsistent s' 0 := by
  obtain ⟨s', hok⟩ := migration_ok (pairConfig "INTAKE" "REVIEW") (by decide +kernel)
  refine ⟨s', hok, ((migration_keeps_cursor_iff asciiMapping 0 0 "desk"
    (releasedCatalog (pairConfig "INTAKE" "REVIEW")) s' caseInIntake
    { code := "LOAN", version := 1, status := .deprecated, config := releaseConfig "INTAKE" }
    { code := "LOAN", version := 2, status := .active, config := pairConfig "INTAKE" "REVIEW" } 1
    rfl rfl ?_ (by decide +kernel) hok).mpr ⟨by decide, ?_, ?_⟩).2⟩
  · rw [loadActiveCaseTypeByCodeTx, if_neg (by decide +kernel)]
    rw [show asciiMapping.normalize "LOAN" = "LOAN" by decide +kernel]
    rfl
  · exact ⟨_, mem_cons_self, rfl, rfl⟩
  · exact (nextInOrder_iff _ _).mp rfl

/-- A stage has been put in front: the case keeps the ordinal 1, which is now that of another
    stage. -/
theorem migration_leaves_old_ordinal :
    caseInIntake.cursorIn (releaseConfig "INTAKE") ∧
    validateCaseTypeConfig (pairConfig "SCREEN" "INTAKE") = [] ∧
    ∃ s', migrateCaseToLatestVersion asciiMapping 0 0 "desk"
      (releasedCatalog (pairConfig "SCREEN" "INTAKE")) = .ok s' ∧ ¬ CursorConsistent s' 0 := by
  obtain ⟨s', hok⟩ := migration_ok (pairConfig "SCREEN" "INTAKE") (by decide +kernel)
  refine ⟨by decide, by decide +kernel, s', hok, ?_⟩
  rintro ⟨c, ct, hc, hct, hcursor, -⟩
  have hfacts : (migrateCaseToLatestVersion asciiMapping 0 0 "desk"
      (releasedCatalog (pairConfig "SCREEN" "INTAKE"))).toOption.map (fun s' =>
        (s'.cases.get? 0).bind fun c => (s'.caseTypes.get? c.caseTypeId).map fun ct =>
          decide (c.cursorIn ct.config)) = some (some false) := by decide +kernel
  rw [hok] at hfacts
  simp [Except.toOption, hc, hct, hcursor] at hfacts

end LoanWorkflow
