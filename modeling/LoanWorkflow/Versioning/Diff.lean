import LoanWorkflow.Framework.Dict
import LoanWorkflow.Model.Store
import LoanWorkflow.Versioning.Validation
import Mathlib.Data.List.Dedup

/-! # The differences between two versions of a case type

    `computeCaseTypeVersionDiff` compares two versions in ten dimensions:
    metadata, stages and their ordinals, the activity codes of a stage, the
    task definitions and their retry policies. What it does not look at
    (names and SLAs of stages and activities, the order of activities and
    tasks, every setting next to the stages) can change unnoticed.

    - `empty_diff_means_same_iff`: when an empty diff means that nothing changed
-/

namespace LoanWorkflow

variable {st st' : StageDefinition} {code : String}

/-! ## Equality of definitions -/

namespace Json

mutual

def beq : Json → Json → Bool
  | .null, .null => true
  | .bool a, .bool b => a == b
  | .num a, .num b => decide (a = b)
  | .str a, .str b => a == b
  | .uuid a, .uuid b => a == b
  | .arr xs, .arr ys => beqList xs ys
  | .obj xs, .obj ys => beqFields xs ys
  | _, _ => false

def beqList : List Json → List Json → Bool
  | [], [] => true
  | x :: xs, y :: ys => beq x y && beqList xs ys
  | _, _ => false

def beqFields : List (String × Json) → List (String × Json) → Bool
  | [], [] => true
  | (k, x) :: xs, (l, y) :: ys => k == l && beq x y && beqFields xs ys
  | _, _ => false

end

mutual

theorem beq_iff (a b : Json) : beq a b = true ↔ a = b := by
  cases a <;> cases b <;> simp [beq]
  · exact beqList_iff _ _
  · exact beqFields_iff _ _

theorem beqList_iff (xs ys : List Json) : beqList xs ys = true ↔ xs = ys := by
  cases xs <;> cases ys <;> simp [beqList, beq_iff, beqList_iff]

theorem beqFields_iff (xs ys : List (String × Json)) : beqFields xs ys = true ↔ xs = ys := by
  cases xs <;> cases ys <;> simp [beqFields, beq_iff, beqFields_iff, Prod.ext_iff]

end

instance : DecidableEq Json := fun a b => decidable_of_iff _ (beq_iff a b)

end Json

deriving instance DecidableEq for ApprovalDefinition, SLADefinition, TaskInputDefinition,
  TaskOutputDefinition, TaskRetryPolicy, TaskDefinition

/-! ## The diff -/

/-- A stage with a new ordinal. -/
structure StageReorder where
  stageCode : String
  fromOrdinal : Int
  toOrdinal : Int

/-- An activity that was added to a stage or removed from it. -/
structure ActivityDelta where
  stageCode : String
  activityCode : String

/-- Where a task definition is, and the definition. -/
structure TaskDefinitionSnapshot where
  taskDefinitionCode : String
  stageCode : String
  activityCode : String
  definition : TaskDefinition

structure TaskDefinitionChange where
  taskDefinitionCode : String
  old : TaskDefinitionSnapshot
  new : TaskDefinitionSnapshot

structure RetryPolicyChange where
  taskDefinitionCode : String
  old : Option TaskRetryPolicy
  new : Option TaskRetryPolicy

structure MetadataChange where
  field : String
  old : String
  new : String

/-- `CaseTypeVersionDiff`, the ten dimensions. -/
structure CaseTypeVersionDiff where
  stagesAdded : List StageDefinition
  stagesRemoved : List StageDefinition
  stagesReordered : List StageReorder
  activitiesAdded : List ActivityDelta
  activitiesRemoved : List ActivityDelta
  taskDefinitionsAdded : List TaskDefinitionSnapshot
  taskDefinitionsRemoved : List TaskDefinitionSnapshot
  taskDefinitionsModified : List TaskDefinitionChange
  retryPolicyChanges : List RetryPolicyChange
  metadataChanges : List MetadataChange

/-- No dimension changed. -/
def CaseTypeVersionDiff.empty (d : CaseTypeVersionDiff) : Bool :=
  d.stagesAdded.isEmpty && d.stagesRemoved.isEmpty && d.stagesReordered.isEmpty &&
    d.activitiesAdded.isEmpty && d.activitiesRemoved.isEmpty &&
    d.taskDefinitionsAdded.isEmpty && d.taskDefinitionsRemoved.isEmpty &&
    d.taskDefinitionsModified.isEmpty && d.retryPolicyChanges.isEmpty && d.metadataChanges.isEmpty

/-- The task definitions of a configuration in order, those with a blank code left out. -/
def CaseTypeConfig.snapshots (config : CaseTypeConfig) : List TaskDefinitionSnapshot :=
  config.stages.flatMap fun stage =>
    stage.activities.flatMap fun activity =>
      (activity.taskDefs.filter (fun taskDef => trimSpace taskDef.code ≠ "")).map fun taskDef =>
        { taskDefinitionCode := trimSpace taskDef.code
          stageCode := trimSpace stage.code
          activityCode := trimSpace activity.code
          definition := taskDef }

/-- The task definitions by code, a later one replacing an earlier. -/
def flattenTaskDefinitions (config : CaseTypeConfig) : Dict String TaskDefinitionSnapshot :=
  Dict.indexBy (·.taskDefinitionCode) config.snapshots

/-- The definitions marshal to different documents. -/
def taskDefinitionDifferent (a b : TaskDefinition) : Bool := decide (a ≠ b)

/-- Error codes are compared trimmed. -/
def retryPolicyEqual : Option TaskRetryPolicy → Option TaskRetryPolicy → Bool
  | none, none => true
  | some a, some b =>
    a.maxRetries == b.maxRetries && decide (a.backoffStrategy = b.backoffStrategy) &&
      a.baseIntervalSeconds == b.baseIntervalSeconds &&
      a.maxIntervalSeconds == b.maxIntervalSeconds &&
      a.retryableErrorCodes.map trimSpace == b.retryableErrorCodes.map trimSpace
  | _, _ => false

/-- The trimmed description, empty when there is none. -/
def CaseType.trimmedDescription (v : CaseType) : String := (v.description.map trimSpace).getD ""

def metadataChanges (old new : CaseType) : List MetadataChange :=
  (if trimSpace old.name ≠ trimSpace new.name then [⟨"name", old.name, new.name⟩] else []) ++
    (if old.trimmedDescription ≠ new.trimmedDescription then
      [⟨"description", old.trimmedDescription, new.trimmedDescription⟩] else [])

/-- The activities of a stage whose codes another stage does not have. -/
def activityDeltas (code : String) (stage other : StageDefinition) : List ActivityDelta :=
  ((stage.activities.map (·.code)).dedup.filter
    (fun activityCode => activityCode ∉ other.activities.map (·.code))).map (⟨code, ·⟩)

/-- The order of activity deltas: by stage, then by activity. -/
def ActivityDelta.le (a b : ActivityDelta) : Prop :=
  if a.stageCode = b.stageCode then a.activityCode ≤ b.activityCode else a.stageCode ≤ b.stageCode

instance : DecidableRel ActivityDelta.le := fun a b => by
  unfold ActivityDelta.le
  infer_instance

/-- The maps of the source are read in any order; every list is
    sorted at the end. -/
def computeCaseTypeVersionDiff (old new : CaseType) : CaseTypeVersionDiff :=
  let oldStages := Dict.indexBy (·.code) old.config.stages
  let newStages := Dict.indexBy (·.code) new.config.stages
  let stages := Dict.inBoth oldStages newStages
  let oldTasks := flattenTaskDefinitions old.config
  let newTasks := flattenTaskDefinitions new.config
  let tasks := Dict.inBoth oldTasks newTasks
  { stagesAdded := (Dict.onlyIn newStages oldStages).insertionSort (fun a b => a.code ≤ b.code)
    stagesRemoved := (Dict.onlyIn oldStages newStages).insertionSort (fun a b => a.code ≤ b.code)
    stagesReordered :=
      (stages.filterMap fun (code, stage, stage') =>
        if stage.sequenceOrder ≠ stage'.sequenceOrder then
          some ⟨code, stage.sequenceOrder, stage'.sequenceOrder⟩
        else none).insertionSort (fun a b => a.stageCode ≤ b.stageCode)
    activitiesAdded :=
      (stages.flatMap fun (code, stage, stage') =>
        activityDeltas code stage' stage).insertionSort ActivityDelta.le
    activitiesRemoved :=
      (stages.flatMap fun (code, stage, stage') =>
        activityDeltas code stage stage').insertionSort ActivityDelta.le
    taskDefinitionsAdded :=
      (Dict.onlyIn newTasks oldTasks).insertionSort
        (fun a b => a.taskDefinitionCode ≤ b.taskDefinitionCode)
    taskDefinitionsRemoved :=
      (Dict.onlyIn oldTasks newTasks).insertionSort
        (fun a b => a.taskDefinitionCode ≤ b.taskDefinitionCode)
    taskDefinitionsModified :=
      (tasks.filterMap fun (code, task, task') =>
        if taskDefinitionDifferent task.definition task'.definition ∨
            task.stageCode ≠ task'.stageCode ∨ task.activityCode ≠ task'.activityCode then
          some ⟨code, task, task'⟩
        else none).insertionSort (fun a b => a.taskDefinitionCode ≤ b.taskDefinitionCode)
    retryPolicyChanges :=
      (tasks.filterMap fun (code, task, task') =>
        if retryPolicyEqual task.definition.retryPolicy task'.definition.retryPolicy then none
        else some ⟨code, task.definition.retryPolicy, task'.definition.retryPolicy⟩).insertionSort
          (fun a b => a.taskDefinitionCode ≤ b.taskDefinitionCode)
    metadataChanges := (metadataChanges old new).insertionSort (fun a b => a.field ≤ b.field) }

/-! ## What is compared and what is not -/

/-- The versions agree in everything the diff looks at: name and description, stage codes and
    their ordinals, the activity codes of each stage, and the task definitions with their
    places. -/
structure ComparedSame (old new : CaseType) : Prop where
  name : trimSpace old.name = trimSpace new.name
  description : old.trimmedDescription = new.trimmedDescription
  stageCodes : ∀ code, (∃ st ∈ old.config.stages, st.code = code) ↔
    ∃ st ∈ new.config.stages, st.code = code
  ordinals : ∀ st ∈ old.config.stages, ∀ st' ∈ new.config.stages, st.code = st'.code →
    st.sequenceOrder = st'.sequenceOrder
  activityCodes : ∀ st ∈ old.config.stages, ∀ st' ∈ new.config.stages, st.code = st'.code →
    ∀ code, code ∈ st.activities.map (·.code) ↔ code ∈ st'.activities.map (·.code)
  tasks : ∀ snapshot, snapshot ∈ old.config.snapshots ↔ snapshot ∈ new.config.snapshots

/-- An activity without the bodies of its task definitions: code, name, description, ordinal,
    SLA, and the task codes in their order. -/
def ActivityConfig.outline (a : ActivityConfig) : ActivityConfig :=
  { a with taskDefs := a.taskDefs.map (fun d => { code := d.code }) }

/-- A stage without its ordinal and the bodies of its task definitions: code, name, description,
    SLA, and the outlines of the activities in their order. -/
def StageDefinition.outline (st : StageDefinition) : StageDefinition :=
  { st with sequenceOrder := 0, activities := st.activities.map ActivityConfig.outline }

/-- A configuration without its stages: calendar, SLAs, approval chain, supervisor role, rework
    and poison pill limits, aggregation rules, sub-case types and document types. -/
def CaseTypeConfig.settings (config : CaseTypeConfig) : CaseTypeConfig :=
  { config with stages := [] }

/-- The versions agree in what the diff does not look at. -/
structure UncomparedSame (old new : CaseType) : Prop where
  settings : old.config.settings = new.config.settings
  outlines : ∀ st ∈ old.config.stages, ∀ st' ∈ new.config.stages, st.code = st'.code →
    st.outline = st'.outline

/-- The versions have the same trimmed name and description and the same configuration, up to
    the order of the stages. -/
structure SameVersion (old new : CaseType) : Prop where
  name : trimSpace old.name = trimSpace new.name
  description : old.trimmedDescription = new.trimmedDescription
  settings : old.config.settings = new.config.settings
  stages : old.config.stages.Perm new.config.stages

/-! ## The diff of accepted versions is exact -/

theorem insertionSort_eq_nil {α : Type} {r : α → α → Prop} [DecidableRel r] {xs : List α} :
    xs.insertionSort r = [] ↔ xs = [] := by
  rw [← List.length_eq_zero_iff, List.length_insertionSort, List.length_eq_zero_iff]

theorem activityDeltas_eq_nil {stage other : StageDefinition} :
    activityDeltas code stage other = [] ↔
      ∀ c ∈ stage.activities.map (·.code), c ∈ other.activities.map (·.code) := by
  simp only [activityDeltas, List.map_eq_nil_iff, List.filter_eq_nil_iff, List.mem_dedup,
    decide_eq_true_eq, not_not]

theorem metadataChanges_eq_nil {old new : CaseType} : metadataChanges old new = [] ↔
    trimSpace old.name = trimSpace new.name ∧
      old.trimmedDescription = new.trimmedDescription := by
  simp [metadataChanges]

/-- Snapshots of one code differ exactly if the diff sees it. -/
theorem snapshot_differs_iff {task task' : TaskDefinitionSnapshot}
    (hcode : task.taskDefinitionCode = task'.taskDefinitionCode) :
    (taskDefinitionDifferent task.definition task'.definition ∨ task.stageCode ≠ task'.stageCode ∨
      task.activityCode ≠ task'.activityCode) ↔ task ≠ task' := by
  obtain ⟨code, stageCode, activityCode, definition⟩ := task
  obtain ⟨code', stageCode', activityCode', definition'⟩ := task'
  simp only [taskDefinitionDifferent, decide_eq_true_eq, ne_eq, TaskDefinitionSnapshot.mk.injEq]
  tauto

theorem retryPolicyEqual_self (policy : Option TaskRetryPolicy) :
    retryPolicyEqual policy policy = true := by
  cases policy <;> simp [retryPolicyEqual]

section Accepted

variable {config : CaseTypeConfig} (haccepted : validateCaseTypeConfig config = [])

include haccepted

/-- Stage codes are distinct before they are trimmed, too. -/
theorem rawStageCodes_nodup : (config.stages.map (·.code)).Nodup := by
  have htrimmed : ((config.stages.map (·.code)).map trimSpace).Nodup := by
    rw [List.map_map]
    exact stageCodes_nodup_of_accepted haccepted
  exact htrimmed.of_map

theorem snapshots_codes_nodup : (config.snapshots.map (·.taskDefinitionCode)).Nodup := by
  have hcodes : config.snapshots.map (·.taskDefinitionCode) =
      (config.stages.flatMap StageDefinition.taskCodes).filter (· ≠ "") := by
    simp only [CaseTypeConfig.snapshots, StageDefinition.taskCodes, List.map_flatMap,
      List.filter_flatMap, List.map_map, List.filter_map, Function.comp_def]
  rw [hcodes]
  exact (taskCodes_nodup_of_accepted haccepted).filter _

/-- Every task definition of an accepted configuration has a snapshot. -/
theorem snapshot_mem (hst : st ∈ config.stages) {a : ActivityConfig}
    (ha : a ∈ st.activities) {d : TaskDefinition} (hd : d ∈ a.taskDefs) :
    ⟨trimSpace d.code, trimSpace st.code, trimSpace a.code, d⟩ ∈ config.snapshots := by
  have hcode := taskCode_ne_of_accepted haccepted hst ha hd
  simp only [CaseTypeConfig.snapshots, List.mem_flatMap, List.mem_map, List.mem_filter]
  exact ⟨st, hst, a, ha, d, ⟨hd, decide_eq_true hcode⟩, rfl⟩

end Accepted

section Versions

variable {old new : CaseType} (hold : validateCaseTypeConfig old.config = [])
  (hnew : validateCaseTypeConfig new.config = [])

include hold hnew

/-- The stages that the diff pairs are the stages with the same code. -/
theorem mem_pairedStages :
    (code, st, st') ∈ Dict.inBoth (Dict.indexBy (·.code) old.config.stages)
        (Dict.indexBy (·.code) new.config.stages) ↔
      (st ∈ old.config.stages ∧ st.code = code) ∧ st' ∈ new.config.stages ∧ st'.code = code := by
  rw [Dict.mem_inBoth, Dict.lookup_indexBy (rawStageCodes_nodup hold),
    Dict.lookup_indexBy (rawStageCodes_nodup hnew)]

/-- The dimensions of the task definitions are empty together when the snapshots agree. -/
theorem taskDimensions_iff : ((computeCaseTypeVersionDiff old new).taskDefinitionsAdded = [] ∧
      (computeCaseTypeVersionDiff old new).taskDefinitionsRemoved = [] ∧
      (computeCaseTypeVersionDiff old new).taskDefinitionsModified = [] ∧
      (computeCaseTypeVersionDiff old new).retryPolicyChanges = []) ↔
      ∀ snapshot, snapshot ∈ old.config.snapshots ↔ snapshot ∈ new.config.snapshots := by
  rw [← Dict.same_entries_iff (snapshots_codes_nodup hold) (snapshots_codes_nodup hnew)]
  simp only [computeCaseTypeVersionDiff, insertionSort_eq_nil, List.filterMap_eq_nil_iff,
    flattenTaskDefinitions]
  constructor
  · rintro ⟨hadded, hremoved, hmodified, -⟩
    refine ⟨hremoved, hadded, fun k x y hboth => ?_⟩
    obtain ⟨hx, hy⟩ := Dict.mem_inBoth.mp hboth
    by_contra hne
    have hcodes := (Dict.mem_of_lookup hx).2.trans (Dict.mem_of_lookup hy).2.symm
    have hsame := hmodified (k, x, y) hboth
    rw [if_pos ((snapshot_differs_iff hcodes).mpr hne)] at hsame
    cases hsame
  · rintro ⟨hremoved, hadded, hsame⟩
    refine ⟨hadded, hremoved, ?_, ?_⟩
    · rintro ⟨k, x, y⟩ hboth
      rw [hsame k x y hboth]
      simp [taskDefinitionDifferent]
    · rintro ⟨k, x, y⟩ hboth
      rw [hsame k x y hboth]
      simp [retryPolicyEqual_self]

/-- The dimensions of the stages are empty together when codes, ordinals and activity codes
    agree. -/
theorem stageDimensions_iff : ((computeCaseTypeVersionDiff old new).stagesAdded = [] ∧
      (computeCaseTypeVersionDiff old new).stagesRemoved = [] ∧
      (computeCaseTypeVersionDiff old new).stagesReordered = [] ∧
      (computeCaseTypeVersionDiff old new).activitiesAdded = [] ∧
      (computeCaseTypeVersionDiff old new).activitiesRemoved = []) ↔
      (∀ code, (∃ st ∈ old.config.stages, st.code = code) ↔
        ∃ st ∈ new.config.stages, st.code = code) ∧
      ∀ st ∈ old.config.stages, ∀ st' ∈ new.config.stages, st.code = st'.code →
        st.sequenceOrder = st'.sequenceOrder ∧
          ∀ code, code ∈ st.activities.map (·.code) ↔ code ∈ st'.activities.map (·.code) := by
  simp only [computeCaseTypeVersionDiff, insertionSort_eq_nil, List.filterMap_eq_nil_iff,
    List.flatMap_eq_nil_iff, Dict.onlyIn_eq_nil, Dict.mem_indexBy, activityDeltas_eq_nil]
  constructor
  · rintro ⟨hadded, hremoved, hordinals, hactivities, hactivities'⟩
    refine ⟨fun code => ⟨hremoved code, hadded code⟩, fun st hst st' hst' hcode => ?_⟩
    have hpair := (mem_pairedStages hold hnew).mpr ⟨⟨hst, rfl⟩, hst', hcode.symm⟩
    have hordinal := hordinals (st.code, st, st') hpair
    simp only [ite_eq_right_iff, reduceCtorEq, imp_false, not_not] at hordinal
    exact ⟨hordinal, fun code =>
      ⟨hactivities' (st.code, st, st') hpair code, hactivities (st.code, st, st') hpair code⟩⟩
  · rintro ⟨hcodes, hmatching⟩
    have hpaired : ∀ p ∈ Dict.inBoth (Dict.indexBy (·.code) old.config.stages)
        (Dict.indexBy (·.code) new.config.stages),
        p.2.1.sequenceOrder = p.2.2.sequenceOrder ∧ ∀ code,
          code ∈ p.2.1.activities.map (·.code) ↔ code ∈ p.2.2.activities.map (·.code) := by
      rintro ⟨code, st, st'⟩ hpair
      obtain ⟨⟨hst, hcode⟩, hst', hcode'⟩ := (mem_pairedStages hold hnew).mp hpair
      exact hmatching st hst st' hst' (hcode.trans hcode'.symm)
    refine ⟨fun code => (hcodes code).mpr, fun code => (hcodes code).mp, ?_, ?_, ?_⟩
    · intro p hp
      simp [(hpaired p hp).1]
    · exact fun p hp code => ((hpaired p hp).2 code).mpr
    · exact fun p hp code => ((hpaired p hp).2 code).mp

/-- The diff of two accepted versions is empty exactly when they agree in what it compares. -/
theorem empty_diff_iff_comparedSame :
    (computeCaseTypeVersionDiff old new).empty = true ↔ ComparedSame old new := by
  have htasks := taskDimensions_iff hold hnew
  have hstages := stageDimensions_iff hold hnew
  have hmetadata : (computeCaseTypeVersionDiff old new).metadataChanges = [] ↔
      trimSpace old.name = trimSpace new.name ∧
        old.trimmedDescription = new.trimmedDescription := by
    rw [← metadataChanges_eq_nil]
    simp only [computeCaseTypeVersionDiff, insertionSort_eq_nil]
  simp only [CaseTypeVersionDiff.empty, Bool.and_eq_true, List.isEmpty_iff]
  constructor
  · rintro ⟨⟨⟨⟨⟨⟨⟨⟨⟨h₁, h₂⟩, h₃⟩, h₄⟩, h₅⟩, h₆⟩, h₇⟩, h₈⟩, h₉⟩, h₁₀⟩
    obtain ⟨hname, hdescription⟩ := hmetadata.mp h₁₀
    obtain ⟨hcodes, hmatching⟩ := hstages.mp ⟨h₁, h₂, h₃, h₄, h₅⟩
    exact {
      name := hname
      description := hdescription
      stageCodes := hcodes
      ordinals := fun st hst st' hst' hcode => (hmatching st hst st' hst' hcode).1
      activityCodes := fun st hst st' hst' hcode => (hmatching st hst st' hst' hcode).2
      tasks := htasks.mp ⟨h₆, h₇, h₈, h₉⟩ }
  · intro h
    obtain ⟨h₆, h₇, h₈, h₉⟩ := htasks.mpr h.tasks
    obtain ⟨h₁, h₂, h₃, h₄, h₅⟩ := hstages.mpr ⟨h.stageCodes, fun st hst st' hst' hcode =>
      ⟨h.ordinals st hst st' hst' hcode, h.activityCodes st hst st' hst' hcode⟩⟩
    have h₁₀ := hmetadata.mpr ⟨h.name, h.description⟩
    exact ⟨⟨⟨⟨⟨⟨⟨⟨⟨h₁, h₂⟩, h₃⟩, h₄⟩, h₅⟩, h₆⟩, h₇⟩, h₈⟩, h₉⟩, h₁₀⟩

/-! ## When an empty diff means that nothing changed -/

omit hold hnew in
/-- Two lists with the same images are equal if images tell their entries apart. -/
theorem eq_of_map_eq {α β : Type} {f : α → β} {xs ys : List α} (hmap : xs.map f = ys.map f)
    (htell : ∀ x ∈ xs, ∀ y ∈ ys, f x = f y → x = y) : xs = ys := by
  induction xs generalizing ys with
  | nil => exact (List.map_eq_nil_iff.mp hmap.symm).symm
  | cons x xs ih =>
    cases ys with
    | nil => cases hmap
    | cons y ys =>
      rw [List.map_cons, List.map_cons, List.cons.injEq] at hmap
      rw [htell x List.mem_cons_self y List.mem_cons_self hmap.1]
      rw [ih hmap.2 fun a ha b hb =>
        htell a (List.mem_cons_of_mem x ha) b (List.mem_cons_of_mem y hb)]

/-- Task definitions of the two versions with the same code are the same definition. -/
theorem ComparedSame.taskDef_eq (h : ComparedSame old new)
    (hst : st ∈ old.config.stages) (hst' : st' ∈ new.config.stages) {a a' : ActivityConfig}
    (ha : a ∈ st.activities) (ha' : a' ∈ st'.activities) {d d' : TaskDefinition}
    (hd : d ∈ a.taskDefs) (hd' : d' ∈ a'.taskDefs) (hcode : d.code = d'.code) : d = d' := by
  have hmem := (h.tasks _).mp (snapshot_mem hold hst ha hd)
  have hmem' := snapshot_mem hnew hst' ha' hd'
  have hsame := List.inj_on_of_nodup_map (snapshots_codes_nodup hnew) hmem hmem'
    (congrArg trimSpace hcode)
  exact congrArg TaskDefinitionSnapshot.definition hsame

/-- A stage is determined by what the diff compares and what it does not. -/
theorem ComparedSame.stage_eq (h : ComparedSame old new)
    (hst : st ∈ old.config.stages) (hst' : st' ∈ new.config.stages) (hcode : st.code = st'.code)
    (houtline : st.outline = st'.outline) : st = st' := by
  have hordinal := h.ordinals st hst st' hst' hcode
  have hactivities : st.activities = st'.activities := by
    apply eq_of_map_eq (f := ActivityConfig.outline)
      (congrArg StageDefinition.activities houtline)
    intro a ha a' ha' hsame
    have hdefs : a.taskDefs = a'.taskDefs := by
      apply eq_of_map_eq (congrArg ActivityConfig.taskDefs hsame)
      intro d hd d' hd' hshort
      have hcodes := congrArg TaskDefinition.code hshort
      exact h.taskDef_eq hold hnew hst hst' ha ha' hd hd' hcodes
    cases a
    cases a'
    simp_all [ActivityConfig.outline]
  cases st
  cases st'
  simp_all [StageDefinition.outline]

theorem sameVersion_of_same (h : ComparedSame old new) (h' : UncomparedSame old new) :
    SameVersion old new where
  name := h.name
  description := h.description
  settings := h'.settings
  stages := by
    rw [List.perm_ext_iff_of_nodup (rawStageCodes_nodup hold).of_map
      (rawStageCodes_nodup hnew).of_map]
    intro st
    constructor
    · intro hst
      obtain ⟨st', hst', hcode⟩ := (h.stageCodes st.code).mp ⟨st, hst, rfl⟩
      rwa [h.stage_eq hold hnew hst hst' hcode.symm (h'.outlines st hst st' hst' hcode.symm)]
    · intro hst
      obtain ⟨st', hst', hcode⟩ := (h.stageCodes st.code).mpr ⟨st, hst, rfl⟩
      rwa [← h.stage_eq hold hnew hst' hst hcode (h'.outlines st' hst' st hst hcode)]

omit hold in
theorem SameVersion.uncomparedSame (h : SameVersion old new) : UncomparedSame old new where
  settings := h.settings
  outlines := by
    intro st hst st' hst' hcode
    rw [List.inj_on_of_nodup_map (rawStageCodes_nodup hnew) (h.stages.mem_iff.mp hst) hst' hcode]

end Versions

/-- For accepted versions an empty diff means that nothing changed exactly when no change is
    confined to what the diff does not look at. -/
theorem empty_diff_means_same_iff (old new : CaseType)
    (hold : validateCaseTypeConfig old.config = []) (hnew : validateCaseTypeConfig new.config = []) :
    ((computeCaseTypeVersionDiff old new).empty = true → SameVersion old new) ↔
      (ComparedSame old new → UncomparedSame old new) := by
  rw [empty_diff_iff_comparedSame hold hnew]
  constructor
  · intro hsame hcompared
    exact (hsame hcompared).uncomparedSame hnew
  · intro huncompared hcompared
    exact sameVersion_of_same hold hnew hcompared (huncompared hcompared)

/-- A task definition that passes validation. -/
def filedTask (code : String) : TaskDefinition where
  code := code
  config := some (.obj [("assigned_service", .str "files")])
  retryPolicy := some
    { maxRetries := 2, backoffStrategy := .linear
      baseIntervalSeconds := 30, maxIntervalSeconds := 90 }

def filedStage (code name : String) (sequenceOrder : Int) : StageDefinition where
  code := code
  sequenceOrder := sequenceOrder
  name := name
  activities := [{ code := code ++ "_WORK", taskDefs := [filedTask (code ++ "_TASK")] }]

/-- A version with the given stages and limit of rework attempts. -/
def filedVersion (stages : List StageDefinition) (maxReworkAttempts : Int) : CaseType where
  name := "Home loan"
  config := { stages := stages, maxReworkAttempts := maxReworkAttempts }

/-- The stages in another order: the diff is empty, and nothing changed. -/
theorem empty_diff_means_same_swapped :
    SameVersion (filedVersion [filedStage "INTAKE" "Intake" 1, filedStage "REVIEW" "Review" 2] 3)
      (filedVersion [filedStage "REVIEW" "Review" 2, filedStage "INTAKE" "Intake" 1] 3) := by
  apply (empty_diff_means_same_iff _ _ (by decide +kernel) (by decide +kernel)).mpr
  · intro _
    refine ⟨rfl, fun st hst st' hst' hcode => ?_⟩
    simp only [filedVersion, List.mem_cons, List.not_mem_nil, or_false] at hst hst'
    rcases hst with rfl | rfl <;> rcases hst' with rfl | rfl
    · exact absurd hcode (by decide)
    · rfl
    · rfl
    · exact absurd hcode (by decide)
  · decide +kernel

/-- A stage is renamed and the limit of rework attempts is lifted: the diff is empty. -/
theorem renamed_stage_unnoticed :
    validateCaseTypeConfig (filedVersion [filedStage "INTAKE" "Intake" 1] 3).config = [] ∧
      validateCaseTypeConfig (filedVersion [filedStage "INTAKE" "Registration" 1] 0).config = [] ∧
      (computeCaseTypeVersionDiff (filedVersion [filedStage "INTAKE" "Intake" 1] 3)
        (filedVersion [filedStage "INTAKE" "Registration" 1] 0)).empty = true ∧
      ¬ SameVersion (filedVersion [filedStage "INTAKE" "Intake" 1] 3)
        (filedVersion [filedStage "INTAKE" "Registration" 1] 0) := by
  refine ⟨by decide +kernel, by decide +kernel, by decide +kernel, fun h => ?_⟩
  have hlimit := congrArg CaseTypeConfig.maxReworkAttempts h.settings
  exact absurd hlimit (by decide)

end LoanWorkflow
