import LoanWorkflow.Model.Config
import Mathlib.Data.List.Nodup
import Mathlib.Data.List.Perm.Subperm

/-! # Validation of a case type configuration

    The checks that a configuration passes before it is activated. All
    violations are collected; the scan over stages, activities and task
    definitions carries the codes and ordinals seen so far.

    A configuration is accepted when `validateCaseTypeConfig` finds nothing.
-/

namespace LoanWorkflow

open List

variable {config : CaseTypeConfig} {α : Type}
variable {st : StageDefinition} {d : TaskDefinition}

/-! ## Violations -/

structure ValidationViolation where
  fieldPath : String
  message : String
deriving DecidableEq, Repr

/-- What the scan of a configuration has found so far. -/
structure Scan where
  violations : List ValidationViolation := []
  /-- `stageCodeSet`. -/
  stageCodes : List String := []
  /-- `stageCodeByOrdinal`. -/
  ordinals : List (Int × String) := []
  minOrdinal : Int := 0
  maxOrdinal : Int := 0
  /-- `taskCodeLocations`. -/
  taskLocations : List (String × String) := []
  /-- `compensatingGraph`. -/
  compensating : List (String × String) := []

variable {r r' : Scan}

def Scan.add (r : Scan) (fieldPath message : String) : Scan :=
  { r with violations := r.violations ++ [⟨trimSpace fieldPath, trimSpace message⟩] }

def Scan.addIf (r : Scan) (cond : Bool) (fieldPath message : String) : Scan :=
  if cond then r.add fieldPath message else r

/-! ## Task definitions -/

/-- The trimmed text in a field. -/
def stringFromMap (j : Json) (key : String) : String :=
  match j.field? key with
  | some (.str s) => trimSpace s
  | some (.uuid k) => toString k
  | _ => ""

def extractAssignedService (taskDef : TaskDefinition) : String :=
  match taskDef.config with
  | some (.obj fields) =>
    let config := Json.obj fields
    let integration := (config.field? "integration").getD .null
    let candidates := [stringFromMap config "assigned_service", stringFromMap config "service",
      stringFromMap integration "assigned_service", stringFromMap integration "service"]
    (candidates.find? (fun v => v != "")).getD ""
  | _ => ""

def extractReferencedStageCodes (taskDef : TaskDefinition) : List String :=
  match taskDef.config with
  | some (.obj fields) =>
    (["stage_code", "target_stage_code"].map (stringFromMap (.obj fields))).filter (fun v => v != "")
  | _ => []

def RetryBackoffStrategy.isValid : RetryBackoffStrategy → Bool
  | .other name => name == ""
  | _ => true

def validateRetryPolicy (r : Scan) (taskPath : String) (taskDef : TaskDefinition) : Scan :=
  match taskDef.retryPolicy with
  | none => r.add (taskPath ++ ".retry_policy") "retry_policy is required"
  | some policy =>
    let r := r.addIf (decide (policy.maxRetries < 0)) (taskPath ++ ".retry_policy.max_retries")
      "max_retries must be greater than or equal to 0"
    let r := r.addIf (decide (policy.baseIntervalSeconds ≤ 0))
      (taskPath ++ ".retry_policy.base_interval_seconds")
      "base_interval_seconds must be greater than 0"
    let r := r.addIf (decide (policy.maxIntervalSeconds ≤ 0))
      (taskPath ++ ".retry_policy.max_interval_seconds")
      "max_interval_seconds must be greater than 0"
    let r := r.addIf (decide (0 < policy.maxIntervalSeconds ∧ 0 < policy.baseIntervalSeconds ∧
        policy.maxIntervalSeconds < policy.baseIntervalSeconds))
      (taskPath ++ ".retry_policy.max_interval_seconds")
      "max_interval_seconds must be greater than or equal to base_interval_seconds"
    r.addIf (!policy.backoffStrategy.isValid) (taskPath ++ ".retry_policy.backoff_strategy")
      "backoff_strategy must be FIXED, LINEAR, or EXPONENTIAL"

/-- The code of a task definition, which no other definition may use. -/
def scanTaskCode (r : Scan) (taskPath taskCode : String) : Scan :=
  if taskCode = "" then r.add (taskPath ++ ".code") "task definition code is required"
  else
    match r.taskLocations.lookup taskCode with
    | some existing => r.add (taskPath ++ ".code")
        ("duplicate task definition code " ++ taskCode ++ " already used at " ++ existing)
    | none => { r with taskLocations := r.taskLocations ++ [(taskCode, taskPath)] }

/-- The entry of a task definition in the compensation graph; a later entry replaces an
    earlier one. -/
def scanCompensation (r : Scan) (taskCode : String) (taskDef : TaskDefinition) : Scan :=
  let compCode := trimSpace taskDef.compensatingTaskCode
  if compCode ≠ "" ∧ taskCode ≠ "" then
    { r with
      compensating := r.compensating.filter (fun e => e.1 != taskCode) ++ [(taskCode, compCode)] }
  else r

def scanTask (activityPath : String) (r : Scan) (entry : TaskDefinition × Nat) : Scan :=
  let taskDef := entry.1
  let taskPath := activityPath ++ ".task_definitions[" ++ toString entry.2 ++ "]"
  let taskCode := trimSpace taskDef.code
  let r := scanTaskCode r taskPath taskCode
  let r := r.addIf (extractAssignedService taskDef == "") (taskPath ++ ".assigned_service")
    "assigned_service is required and must be non-empty"
  let r := validateRetryPolicy r taskPath taskDef
  let r := scanCompensation r taskCode taskDef
  -- only the stages up to the current one are known here
  (extractReferencedStageCodes taskDef).foldl (fun r code =>
    r.addIf (!r.stageCodes.contains code) (taskPath ++ ".stage_code")
      ("referenced stage " ++ code ++ " is not defined")) r

/-! ## Activities and stages -/

/-- One activity; the codes of the stage's earlier activities are carried along. -/
def scanActivity (stagePath stageCode : String) (acc : Scan × List String)
    (entry : ActivityConfig × Nat) : Scan × List String :=
  let activity := entry.1
  let activityPath := stagePath ++ ".activities[" ++ toString entry.2 ++ "]"
  let activityCode := trimSpace activity.code
  let r := acc.1.addIf (activityCode == "") (activityPath ++ ".code") "activity code is required"
  let r := r.addIf (activityCode != "" && acc.2.contains activityCode) (activityPath ++ ".code")
    ("duplicate activity code " ++ activityCode ++ " within stage " ++ stageCode)
  let seen := if activityCode = "" then acc.2 else acc.2 ++ [activityCode]
  (activity.taskDefs.zipIdx.foldl (scanTask activityPath) r, seen)

/-- The code of a stage, which no other stage may use. -/
def scanStageCode (r : Scan) (stagePath stageCode : String) : Scan :=
  if stageCode = "" then r.add (stagePath ++ ".code") "stage code is required"
  else if r.stageCodes.contains stageCode then
    r.add (stagePath ++ ".code") ("duplicate stage code " ++ stageCode)
  else { r with stageCodes := r.stageCodes ++ [stageCode] }

/-- The ordinal of a stage, which no other stage may use. -/
def scanOrdinal (r : Scan) (stagePath stageCode : String) (sequenceOrder : Int) : Scan :=
  if sequenceOrder ≤ 0 then
    r.add (stagePath ++ ".sequence_order") "stage ordinal must be greater than 0"
  else
    let r :=
      match r.ordinals.lookup sequenceOrder with
      | some existing => r.add (stagePath ++ ".sequence_order")
          ("ordinal " ++ toString sequenceOrder ++ " is already used by stage " ++ existing)
      | none => { r with ordinals := r.ordinals ++ [(sequenceOrder, stageCode)] }
    { r with
      minOrdinal :=
        if r.minOrdinal = 0 ∨ sequenceOrder < r.minOrdinal then sequenceOrder else r.minOrdinal
      maxOrdinal := if r.maxOrdinal < sequenceOrder then sequenceOrder else r.maxOrdinal }

def scanStage (r : Scan) (entry : StageDefinition × Nat) : Scan :=
  let stage := entry.1
  let stagePath := "stages[" ++ toString entry.2 ++ "]"
  let stageCode := trimSpace stage.code
  let r := scanStageCode r stagePath stageCode
  let r := scanOrdinal r stagePath stageCode stage.sequenceOrder
  let r := r.addIf stage.activities.isEmpty (stagePath ++ ".activities")
    "each stage must include at least one activity"
  (stage.activities.zipIdx.foldl (scanActivity stagePath stageCode) (r, [])).1

/-! ## The whole configuration -/

/-- The ordinals are `1..n`. -/
def validateOrdinals (r : Scan) : Scan :=
  let n := r.ordinals.length
  let r := r.addIf (r.minOrdinal != 1) "stages"
    ("stage ordinals must start at 1 (found " ++ toString r.minOrdinal ++ ")")
  let r := r.addIf (r.maxOrdinal != n) "stages"
    ("stage ordinals must be contiguous from 1.." ++ toString n)
  (List.range n).foldl (fun r (i : Nat) => r.addIf (r.ordinals.lookup ((i : Int) + 1)).isNone "stages"
    ("missing stage ordinal " ++ toString (i + 1))) r

def validateCompensatingCodes (r : Scan) : Scan :=
  r.compensating.foldl (fun r e => r.addIf (r.taskLocations.lookup e.2).isNone "task_definitions"
    ("task " ++ e.1 ++ " references unknown compensating_task_code " ++ e.2)) r

/-- `visit`: follow the graph from a node, with the nodes on the way (newest first) and the
    nodes that are finished. The way never repeats a node, so the fuel of
    `validateCompensatingCycle` is never used up. -/
def visitCompensation (graph : List (String × String)) :
    Nat → List String → Scan × List String → String → Scan × List String
  | 0, _, acc, _ => acc
  | fuel + 1, path, (r, done), node =>
    if path.contains node then
      (r.add "task_definitions.compensating_task_code"
        ("circular compensating task dependency detected: " ++
          " -> ".intercalate ((node :: path).reverse)), done)
    else if done.contains node then (r, done)
    else
      let (r, done) :=
        match graph.lookup node with
        | some next =>
          if isBlank next then (r, done)
          else visitCompensation graph fuel (node :: path) (r, done) next
        | none => (r, done)
      (r, node :: done)

def validateCompensatingCycle (r : Scan) (graph : List (String × String)) : Scan :=
  (graph.foldl (fun acc e => visitCompensation graph (graph.length + 2) [] acc e.1) (r, [])).1

/-- The violations of a configuration. -/
def validateCaseTypeConfig (config : CaseTypeConfig) : List ValidationViolation :=
  if config.stages.isEmpty then
    (Scan.add {} "stages" "at least one stage must be defined").violations
  else
    let r := config.stages.zipIdx.foldl scanStage {}
    let r := validateOrdinals r
    let r := validateCompensatingCodes r
    (validateCompensatingCycle r r.compensating).violations

/-! ## Accepted configurations -/

/-- A key that a list of entries does not have. -/
theorem lookup_eq_none_iff_not_mem {β : Type} [BEq α] [LawfulBEq α] {k : α} {l : List (α × β)} :
    l.lookup k = none ↔ k ∉ l.map Prod.fst := by
  rw [lookup_eq_none_iff]
  simp only [mem_map, not_exists, not_and]
  grind

theorem nodup_concat {xs : List α} {a : α} (hxs : xs.Nodup) (ha : a ∉ xs) : (xs ++ [a]).Nodup :=
  nodup_append.mpr ⟨hxs, nodup_singleton a, fun _ hb _ hc hsame =>
    ha (mem_singleton.mp hc ▸ hsame ▸ hb)⟩

namespace Scan

def taskCodes (r : Scan) : List String := r.taskLocations.map Prod.fst

@[simp] theorem violations_add {path message : String} : (r.add path message).violations ≠ [] := by
  simp [add]

@[simp] theorem violations_addIf {cond : Bool} {path message : String} :
    (r.addIf cond path message).violations = [] ↔ r.violations = [] ∧ cond = false := by
  unfold addIf
  cases cond <;> simp

/-- No code and no ordinal occurs twice. -/
def Distinct (r : Scan) : Prop :=
  r.stageCodes.Nodup ∧ (r.ordinals.map Prod.fst).Nodup ∧ r.taskCodes.Nodup

/-- The scan has gone over stages and task definitions, and it has found nothing. -/
structure Passes (r r' : Scan) (sts : List StageDefinition) (ds : List TaskDefinition) : Prop where
  clean : r.violations = []
  stageCodes : r'.stageCodes = r.stageCodes ++ sts.map (fun st => trimSpace st.code)
  ordinals : r'.ordinals.map Prod.fst = r.ordinals.map Prod.fst ++ sts.map (·.sequenceOrder)
  taskCodes : r'.taskCodes = r.taskCodes ++ ds.map (fun d => trimSpace d.code)
  distinct : r.Distinct → r'.Distinct
  nonblank : ∀ d ∈ ds, trimSpace d.code ≠ ""

variable {r'' : Scan} {sts sts' : List StageDefinition} {ds ds' : List TaskDefinition}

theorem Passes.refl (h : r.violations = []) : r.Passes r [] [] :=
  ⟨h, by simp, by simp, by simp, id, by simp⟩

theorem Passes.trans (h : r.Passes r' sts ds) (h' : r'.Passes r'' sts' ds') :
    r.Passes r'' (sts ++ sts') (ds ++ ds') where
  clean := h.clean
  stageCodes := by rw [h'.stageCodes, h.stageCodes, map_append, append_assoc]
  ordinals := by rw [h'.ordinals, h.ordinals, map_append, append_assoc]
  taskCodes := by rw [h'.taskCodes, h.taskCodes, map_append, append_assoc]
  distinct hdistinct := h'.distinct (h.distinct hdistinct)
  nonblank := forall_mem_append.mpr ⟨h.nonblank, h'.nonblank⟩

theorem passes_addIf {cond : Bool} {path message : String}
    (h : (r.addIf cond path message).violations = []) : r.Passes (r.addIf cond path message) [] [] := by
  obtain ⟨hclean, hnone⟩ := violations_addIf.mp h
  rw [addIf, if_neg (by simp [hnone])]
  exact .refl hclean

theorem passes_checks {cond : Scan → α → Bool} {path message : Scan → α → String} {xs : List α}
    (h : (xs.foldl (fun r a => r.addIf (cond r a) (path r a) (message r a)) r).violations = []) :
    (∀ a ∈ xs, cond r a = false) ∧
      r.Passes (xs.foldl (fun r a => r.addIf (cond r a) (path r a) (message r a)) r) [] [] := by
  induction xs generalizing r with
  | nil => exact ⟨by simp, .refl h⟩
  | cons a xs ih =>
    obtain ⟨hrest, hpasses⟩ := ih h
    have hnone := (violations_addIf.mp hpasses.clean).2
    -- a check that finds nothing changes nothing
    have hstay : r.addIf (cond r a) (path r a) (message r a) = r := if_neg (by simp [hnone])
    exact ⟨forall_mem_cons.mpr ⟨hnone, hstay ▸ hrest⟩, (passes_addIf hpasses.clean).trans hpasses⟩

end Scan

open Scan

theorem passes_validateRetryPolicy {path : String}
    (h : (validateRetryPolicy r path d).violations = []) :
    r.Passes (validateRetryPolicy r path d) [] [] := by
  unfold validateRetryPolicy at h ⊢
  cases hpolicy : d.retryPolicy with
  | none => simp [hpolicy] at h
  | some policy =>
    rw [hpolicy] at h
    have hstrategy := passes_addIf h
    have hcap := passes_addIf hstrategy.clean
    have hmax := passes_addIf hcap.clean
    have hbase := passes_addIf hmax.clean
    exact (passes_addIf hbase.clean).trans (hbase.trans (hmax.trans (hcap.trans hstrategy)))

theorem passes_scanTask {path : String} {entry : TaskDefinition × Nat}
    (h : (scanTask path r entry).violations = []) :
    r.Passes (scanTask path r entry) [] [entry.1] := by
  have hcompensation : ∀ {r : Scan} {code : String} {d : TaskDefinition},
      (scanCompensation r code d).violations = [] → r.Passes (scanCompensation r code d) [] [] := by
    intro r code d h
    unfold scanCompensation at h ⊢
    dsimp only at h ⊢
    split at h
    · next hcomp =>
      rw [if_pos hcomp]
      exact ⟨h, by simp, by simp, by simp [taskCodes], id, by simp⟩
    · next hcomp =>
      rw [if_neg hcomp]
      exact .refl h
  have hcode : ∀ {path : String},
      (scanTaskCode r path (trimSpace entry.1.code)).violations = [] →
        r.Passes (scanTaskCode r path (trimSpace entry.1.code)) [] [entry.1] := by
    intro path h
    unfold scanTaskCode at h ⊢
    split at h
    · simp at h
    next hnonblank =>
    rw [if_neg hnonblank]
    cases hnew : r.taskLocations.lookup (trimSpace entry.1.code) with
    | some existing => simp [hnew] at h
    | none =>
      rw [hnew] at h
      refine ⟨h, by simp, by simp, by simp [taskCodes], fun hdistinct => ?_, by simpa using hnonblank⟩
      refine ⟨hdistinct.1, hdistinct.2.1, ?_⟩
      rw [taskCodes, map_append]
      exact nodup_concat hdistinct.2.2 (lookup_eq_none_iff_not_mem.mp hnew)
  unfold scanTask at h ⊢
  have hreferences := (passes_checks h).2
  have hentry := hcompensation hreferences.clean
  have hpolicy := passes_validateRetryPolicy hentry.clean
  have hservice := passes_addIf hpolicy.clean
  exact (hcode hservice.clean).trans (hservice.trans (hpolicy.trans (hentry.trans hreferences)))

theorem passes_scanTasks {path : String} {ds : List TaskDefinition} {k : Nat}
    (h : ((ds.zipIdx k).foldl (scanTask path) r).violations = []) :
    r.Passes ((ds.zipIdx k).foldl (scanTask path) r) [] ds := by
  induction ds generalizing k r with
  | nil => exact .refl h
  | cons d ds ih =>
    have hrest := ih h
    exact (passes_scanTask hrest.clean).trans hrest

theorem passes_scanActivities {stagePath stageCode : String} {activities : List ActivityConfig}
    {k : Nat} {acc : Scan × List String}
    (h : ((activities.zipIdx k).foldl (scanActivity stagePath stageCode) acc).1.violations = []) :
    acc.1.Passes ((activities.zipIdx k).foldl (scanActivity stagePath stageCode) acc).1 []
      (activities.flatMap (·.taskDefs)) := by
  induction activities generalizing k acc with
  | nil => exact .refl h
  | cons a activities ih =>
    have hrest := ih h
    have htasks := passes_scanTasks hrest.clean
    have hduplicate := passes_addIf htasks.clean
    exact (passes_addIf hduplicate.clean).trans (hduplicate.trans (htasks.trans hrest))

def StageDefinition.tasks (st : StageDefinition) : List TaskDefinition :=
  st.activities.flatMap (·.taskDefs)

theorem passes_scanStage {entry : StageDefinition × Nat}
    (h : (scanStage r entry).violations = []) : entry.1.activities ≠ [] ∧
      r.Passes (scanStage r entry) [entry.1] entry.1.tasks := by
  have hkeys : ∀ {path : String}, (scanOrdinal (scanStageCode r path (trimSpace entry.1.code)) path
      (trimSpace entry.1.code) entry.1.sequenceOrder).violations = [] →
      r.Passes (scanOrdinal (scanStageCode r path (trimSpace entry.1.code)) path
        (trimSpace entry.1.code) entry.1.sequenceOrder) [entry.1] [] := by
    intro path h
    unfold scanOrdinal at h ⊢
    split at h
    · simp at h
    next hpositive =>
    rw [if_neg hpositive]
    dsimp only at h ⊢
    cases hnew : (scanStageCode r path (trimSpace entry.1.code)).ordinals.lookup
        entry.1.sequenceOrder with
    | some existing => simp [hnew] at h
    | none =>
      simp only [hnew] at h
      unfold scanStageCode at h hnew ⊢
      split at h
      · simp at h
      next hnonblank =>
      split at h
      · simp at h
      next hfree =>
      rw [if_neg hnonblank, if_neg hfree] at hnew ⊢
      refine ⟨h, rfl, by simp, by simp [taskCodes], fun hdistinct => ?_, by simp⟩
      refine ⟨nodup_concat hdistinct.1 (by simpa using hfree), ?_, hdistinct.2.2⟩
      rw [map_append]
      exact nodup_concat hdistinct.2.1 (lookup_eq_none_iff_not_mem.mp hnew)
  unfold scanStage at h ⊢
  have hactivities := passes_scanActivities h
  have hnonempty := passes_addIf hactivities.clean
  exact ⟨by simpa using (violations_addIf.mp hactivities.clean).2,
    (hkeys hnonempty.clean).trans (hnonempty.trans hactivities)⟩

theorem passes_scanStages {stages : List StageDefinition} {k : Nat}
    (h : ((stages.zipIdx k).foldl scanStage r).violations = []) :
    (∀ st ∈ stages, st.activities ≠ []) ∧
      r.Passes ((stages.zipIdx k).foldl scanStage r) stages (stages.flatMap (·.tasks)) := by
  induction stages generalizing k r with
  | nil => exact ⟨by simp, .refl h⟩
  | cons st stages ih =>
    obtain ⟨hothers, hrest⟩ := ih h
    obtain ⟨hactivities, hfirst⟩ := passes_scanStage hrest.clean
    exact ⟨forall_mem_cons.mpr ⟨hactivities, hothers⟩, hfirst.trans hrest⟩

theorem clean_of_visitCompensation {graph : List (String × String)} {fuel : Nat}
    {path : List String} {acc : Scan × List String} {node : String}
    (h : (visitCompensation graph fuel path acc node).1.violations = []) :
    acc.1.violations = [] := by
  induction fuel generalizing path acc node with
  | zero => exact h
  | succ fuel ih =>
    unfold visitCompensation at h
    split at h
    · simp at h
    split at h
    · exact h
    cases hnext : graph.lookup node with
    | none => simpa [hnext] using h
    | some next =>
      simp only [hnext] at h
      split at h
      · exact h
      · exact ih h

/-- The check of the ordinals finds every one of `1..n`. -/
theorem ordinals_of_validateOrdinals (h : (validateOrdinals r).violations = []) :
    r.violations = [] ∧
      ∀ i < r.ordinals.length, (i : Int) + 1 ∈ r.ordinals.map Prod.fst := by
  obtain ⟨hfound, hpasses⟩ := passes_checks h
  have hmax := passes_addIf hpasses.clean
  have hmin := passes_addIf hmax.clean
  refine ⟨hmin.clean, fun i hi => ?_⟩
  have hseen := (hmin.trans hmax).ordinals
  have hsome := hfound i (mem_range.mpr hi)
  by_contra hmissing
  rw [lookup_eq_none_iff_not_mem.mpr (by rwa [hseen, append_nil, map_nil, append_nil])] at hsome
  cases hsome

variable (haccepted : validateCaseTypeConfig config = [])

include haccepted

/-- What the checks of an accepted configuration have seen. -/
theorem passes_of_accepted :
    (∀ st ∈ config.stages, st.activities ≠ []) ∧
      (∃ r : Scan, Passes {} r config.stages (config.stages.flatMap (·.tasks))) ∧
      ∀ i < config.stages.length, (i : Int) + 1 ∈ config.stages.map (·.sequenceOrder) := by
  unfold validateCaseTypeConfig at haccepted
  split at haccepted
  · exact absurd haccepted violations_add
  have hloop : ∀ (graph edges : List (String × String)) (acc : Scan × List String),
      (edges.foldl (fun acc e => visitCompensation graph (graph.length + 2) [] acc e.1)
        acc).1.violations = [] → acc.1.violations = [] := by
    intro graph edges
    induction edges with
    | nil => exact fun _ h => h
    | cons e edges ih => exact fun acc h => clean_of_visitCompensation (ih _ h)
  have hcodes := (passes_checks (hloop _ _ _ haccepted)).2.clean
  obtain ⟨hclean, hordinals⟩ := ordinals_of_validateOrdinals hcodes
  obtain ⟨hactivities, hscan⟩ := passes_scanStages hclean
  have hseen : _ = config.stages.map (·.sequenceOrder) := hscan.ordinals
  rw [hseen, ← length_map (f := Prod.fst), hseen, length_map] at hordinals
  exact ⟨hactivities, ⟨_, hscan⟩, hordinals⟩

/-- Every stage of an accepted configuration has an activity. -/
theorem activities_ne_nil_of_accepted (hst : st ∈ config.stages) : st.activities ≠ [] :=
  (passes_of_accepted haccepted).1 st hst

/-- The codes of an accepted configuration are distinct. -/
theorem distinct_of_accepted :
    (config.stages.map (fun st => trimSpace st.code)).Nodup ∧
      (config.stages.map (·.sequenceOrder)).Nodup ∧
      ((config.stages.flatMap (·.tasks)).map (fun d => trimSpace d.code)).Nodup := by
  obtain ⟨-, ⟨r, hscan⟩, -⟩ := passes_of_accepted haccepted
  have hdistinct := hscan.distinct (by simp [Distinct, taskCodes])
  unfold Distinct at hdistinct
  rw [hscan.stageCodes, hscan.ordinals, hscan.taskCodes] at hdistinct
  exact hdistinct

/-- The trimmed task codes of a stage, in order. -/
def StageDefinition.taskCodes (st : StageDefinition) : List String :=
  st.activities.flatMap (fun a => a.taskDefs.map (fun d => trimSpace d.code))

/-- No two task definitions of an accepted configuration have the same trimmed code. -/
theorem taskCodes_nodup_of_accepted :
    (config.stages.flatMap StageDefinition.taskCodes).Nodup := by
  have hnodup := (distinct_of_accepted haccepted).2.2
  simp only [StageDefinition.tasks, map_flatMap] at hnodup
  exact hnodup

/-- No two stages of an accepted configuration have the same trimmed code. -/
theorem stageCodes_nodup_of_accepted :
    (config.stages.map (fun st => trimSpace st.code)).Nodup :=
  (distinct_of_accepted haccepted).1

/-- The ordinals of an accepted configuration are `1..n`, in some order. -/
theorem ordinals_perm_of_accepted :
    ((List.range config.stages.length).map (fun i : Nat => (i : Int) + 1)).Perm
      (config.stages.map (·.sequenceOrder)) := by
  apply List.Subperm.perm_of_length_le
  · apply List.Nodup.subperm
    · apply List.Nodup.map _ nodup_range
      intro i j h
      dsimp only at h
      omega
    · intro o ho
      obtain ⟨i, hi, rfl⟩ := mem_map.mp ho
      exact (passes_of_accepted haccepted).2.2 i (mem_range.mp hi)
  · simp

/-- No task definition of an accepted configuration has a blank code. -/
theorem taskCode_ne_of_accepted (hst : st ∈ config.stages) {a : ActivityConfig} (ha : a ∈ st.activities)
    (hd : d ∈ a.taskDefs) : trimSpace d.code ≠ "" := by
  obtain ⟨-, ⟨r, hscan⟩, -⟩ := passes_of_accepted haccepted
  exact hscan.nonblank d (mem_flatMap_of_mem hst (mem_flatMap_of_mem ha hd))

end LoanWorkflow
