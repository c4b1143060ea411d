import Mathlib.Algebra.Group.Int.Defs
import Mathlib.Algebra.Group.Nat.Defs
import Mathlib.Data.Rat.Defs

/-! # Case type configuration

    The values the engine passes around (keys, instants, JSON) and the
    configuration of a case type: stages, their activities, the task
    definitions of an activity, approval and SLA definitions.
-/

namespace LoanWorkflow

open List

/-- Lists of characters are searched, not all characters. -/
instance (priority := 2000) decidableForallChar (p : Char → Prop) [DecidablePred p]
    (l : List Char) : Decidable (∀ c ∈ l, p c) := List.decidableBAll p l

/-! ## Values -/

/-- Row keys. -/
abbrev Id := Nat

/-- Instants, in nanoseconds since the Unix epoch. -/
abbrev Instant := Int

/-- `time.Duration`, in nanoseconds. -/
abbrev Duration := Int

/-- Error texts. -/
abbrev Err := String

def millisecond : Duration := 1000000

def hour : Duration := 3600000000000

/-- `time.Duration(ms) * time.Millisecond`, a 64-bit product. -/
def ofMilliseconds (ms : Int) : Duration := (ms * millisecond).bmod (2 ^ 64)

/-- `Duration.Milliseconds`. -/
def toMilliseconds (d : Duration) : Int := d.tdiv millisecond

/-- JSON documents. A string that is the text of a row key is kept as `uuid`. -/
inductive Json where
  | null
  | bool (b : Bool)
  | num (q : ℚ)
  | str (s : String)
  | uuid (k : Id)
  | arr (xs : List Json)
  | obj (fields : List (String × Json))
deriving Inhabited

namespace Json

def field? : Json → String → Option Json
  | .obj fields, key => (fields.find? (fun f => f.1 == key)).map Prod.snd
  | _, _ => none

/-- Documents that `json.Unmarshal` reads into a map. -/
def isMap : Json → Bool
  | .obj _ | .null => true
  | _ => false

/-- Set a field of an object, in place or at the end. -/
def setField (fields : List (String × Json)) (key : String) (value : Json) :
    List (String × Json) :=
  if fields.any (fun f => f.1 == key) then
    fields.map (fun f => if f.1 = key then (key, value) else f)
  else fields ++ [(key, value)]

/-- The text of a string field, empty when the field is missing or no string. -/
def strField (j : Json) (key : String) : String :=
  match j.field? key with
  | some (.str s) => s
  | _ => ""

def idField? (j : Json) (key : String) : Option Id :=
  match j.field? key with
  | some (.uuid k) => some k
  | _ => none

/-- The jsonb concatenation of a document with an object. -/
def merge (j : Json) (extra : List (String × Json)) : Json :=
  match j with
  | .obj fields => .obj (fields.filter (fun f => !(extra.any (fun e => e.1 == f.1))) ++ extra)
  | .arr xs => .arr (xs ++ [.obj extra])
  | other => .arr [other, .obj extra]

def ofId? : Option Id → Json
  | some k => .uuid k
  | none => .null

end Json

def isSpace (c : Char) : Bool :=
  decide (c.toNat ∈ [0x09, 0x0a, 0x0b, 0x0c, 0x0d, 0x20, 0x85, 0xa0, 0x1680, 0x2028, 0x2029,
    0x202f, 0x205f, 0x3000]) || decide (0x2000 ≤ c.toNat ∧ c.toNat ≤ 0x200a)

theorem not_isSpace_of_toNat {c : Char} (hlow : 33 ≤ c.toNat) (hhigh : c.toNat ≤ 126) :
    isSpace c = false := by
  simp only [isSpace, mem_cons, not_mem_nil, or_false, Bool.or_eq_false_iff,
    decide_eq_false_iff_not]
  omega

def trimSpace (s : String) : String :=
  String.ofList (((s.toList.dropWhile isSpace).reverse.dropWhile isSpace).reverse)

/-- `strings.TrimSpace`, on runes. -/
def trimRunes (text : List Char) : List Char :=
  ((text.dropWhile isSpace).reverse.dropWhile isSpace).reverse

theorem dropWhile_isSpace {text : List Char} (h : ∀ c ∈ text.head?, isSpace c = false) :
    text.dropWhile isSpace = text := by
  cases text with
  | nil => rfl
  | cons c text => exact dropWhile_cons_of_neg (by simp [h c rfl])

/-- A text without blanks at its ends. -/
theorem trimRunes_eq_self {text : List Char} (hfront : ∀ c ∈ text.head?, isSpace c = false)
    (hback : ∀ c ∈ text.getLast?, isSpace c = false) : trimRunes text = text := by
  unfold trimRunes
  rw [dropWhile_isSpace hfront, dropWhile_isSpace (by rwa [head?_reverse]), reverse_reverse]

/-- Blanks around a text that has none at its ends. -/
theorem trimRunes_blanks {before core after : List Char} (hbefore : ∀ c ∈ before, isSpace c = true)
    (hafter : ∀ c ∈ after, isSpace c = true) (hfront : ∃ c ∈ core.head?, isSpace c = false)
    (hback : ∃ c ∈ core.getLast?, isSpace c = false) :
    trimRunes (before ++ core ++ after) = core := by
  obtain ⟨c, hc, hspace⟩ := hfront
  obtain ⟨d, hd, hspace'⟩ := hback
  have hcore : ∀ e ∈ (core ++ after).head?, isSpace e = false := by
    intro e he
    rw [head?_append, hc] at he
    cases he
    exact hspace
  have hreverse : ∀ e ∈ core.reverse.head?, isSpace e = false := by
    intro e he
    rw [head?_reverse, hd] at he
    cases he
    exact hspace'
  unfold trimRunes
  rw [append_assoc, dropWhile_append_of_pos hbefore, dropWhile_isSpace hcore, reverse_append,
    dropWhile_append_of_pos (fun c hc => hafter c (mem_reverse.mp hc)),
    dropWhile_isSpace hreverse, reverse_reverse]

theorem trimRunes_trimRunes (text : List Char) : trimRunes (trimRunes text) = trimRunes text := by
  -- what dropping leaves starts with something visible, if there is anything left
  have hhead : ∀ (text : List Char) (c : Char), (text.dropWhile isSpace).head? = some c →
      isSpace c = false := by
    intro text c hc
    have hnot := head?_dropWhile_not isSpace text
    rw [hc] at hnot
    exact hnot
  apply trimRunes_eq_self
  · intro c hc
    -- the trimmed text is a front part of what is left behind the leading blanks
    have hfrontPart : trimRunes text <+: text.dropWhile isSpace := by
      unfold trimRunes
      rw [← reverse_suffix, reverse_reverse]
      exact dropWhile_suffix _
    obtain ⟨rest, hrest⟩ := hfrontPart
    apply hhead text c
    rw [← hrest, head?_append, hc]
    rfl
  · intro c hc
    unfold trimRunes at hc
    rw [getLast?_reverse] at hc
    exact hhead _ c hc

def isBlank (s : String) : Bool := s.toList.all isSpace

def nullIfEmptyString (s : String) : Option String :=
  if isBlank s then none else some (trimSpace s)

/-! ## Approval definitions -/

/-- Approval policies; `other` is any text the engine does not know, the empty
    text being an unset policy. -/
inductive ApprovalPolicy where
  | singleApprover
  | allMustApprove
  | anyCanApprove
  | majority
  | consensus
  | other (name : String)
deriving DecidableEq, Repr

inductive ApproverSelection where
  | explicitList
  | roleBased
  | reportingChain
  | dynamicRule
  | other (name : String)
deriving DecidableEq, Repr

/-- What happens to a request that times out. -/
inductive TimeoutAction where
  | autoApprove
  | autoReject
  | escalate
  | other (name : String)
deriving DecidableEq, Repr

inductive RejectionBehavior where
  | sendToRework
  | terminalFail
  | other (name : String)
deriving DecidableEq, Repr

/-- `ApprovalDefinition` of a task definition. -/
structure ApprovalDefinition where
  approvalPolicy : ApprovalPolicy := .other ""
  requiredApproverCount : Int := 0
  approverSelection : ApproverSelection := .other ""
  approvers : List String := []
  authorityLimit : Option ℚ := none
  approvalAmountField : String := ""
  approvalTimeoutHours : ℚ := 0
  onTimeoutAction : TimeoutAction := .other ""
  rejectionBehavior : RejectionBehavior := .other ""
  reworkTargetStageCode : Option String := none
  fallbackSupervisorRole : String := ""
  dynamicRule : String := ""

structure ApprovalChainTierDefinition where
  tier : Int
  approvalPolicy : ApprovalPolicy := .other ""
  canSkipIf : String := ""
  requiredIf : String := ""
  approverRole : String := ""
  approvers : List String := []
  authorityLimit : Option ℚ := none

/-! ## SLA definitions -/

inductive SLABreachAction where
  | escalateToSupervisor
  | autoReassign
  | createExceptionCase
  | notifyOnly
  | other (name : String)
deriving DecidableEq, Repr

/-- An empty calendar id is `none`. -/
structure SLADefinition where
  durationHours : ℚ := 0
  warningThresholdPct : ℚ := 0
  criticalThresholdPct : ℚ := 0
  breachAction : SLABreachAction := .other ""
  calendarId : Option Id := none

/-- SLA definitions by granularity, the maps as lists of entries. -/
structure SLAHierarchyConfig where
  case : Option SLADefinition := none
  stages : List (String × SLADefinition) := []
  activities : List (String × SLADefinition) := []
  tasks : List (String × SLADefinition) := []

/-! ## Stages, activities, tasks -/

/-- One input of a task, read from the output of another task. -/
structure TaskInputDefinition where
  field : String
  sourceTask : String := ""
  sourceField : String := ""
  required : Bool := false

structure TaskOutputDefinition where
  field : String
  type : String := ""

inductive RetryBackoffStrategy where
  | fixed
  | linear
  | exponential
  | other (name : String)
deriving DecidableEq, Repr

structure TaskRetryPolicy where
  maxRetries : Int := 0
  backoffStrategy : RetryBackoffStrategy := .other ""
  baseIntervalSeconds : Int := 0
  maxIntervalSeconds : Int := 0
  retryableErrorCodes : List String := []

/-- Severities of a task failure; a text that is none of them is kept. -/
inductive TaskFailureSeverity where
  | low
  | medium
  | high
  | critical
  | blocking
  | other (name : String)
deriving DecidableEq, Repr

/-- `TaskDefinitionV2`. -/
structure TaskDefinition where
  code : String
  config : Option Json := none
  sla : Option SLADefinition := none
  requiresApproval : Bool := false
  approval : Option ApprovalDefinition := none
  isDocumentVerification : Bool := false
  retryPolicy : Option TaskRetryPolicy := none
  failureSeverity : TaskFailureSeverity := .other ""
  escalateCaseOnFailure : Bool := false
  compensatingTaskCode : String := ""
  poisonPillThreshold : Int := 0
  inputs : List TaskInputDefinition := []
  inputSchema : Option Json := none
  outputSchema : Option Json := none
  name : String := ""
  description : String := ""
  /-- `SYSTEM` or `USER`. -/
  type : String := ""
  required : Bool := false
  sequenceOrder : Int := 0
  documentTypeCode : String := ""
  outputs : List TaskOutputDefinition := []

structure ActivityConfig where
  code : String
  taskDefs : List TaskDefinition := []
  sla : Option SLADefinition := none
  name : String := ""
  description : String := ""
  sequenceOrder : Int := 0

/-- `StageDefinitionV2`. -/
structure StageDefinition where
  code : String
  sequenceOrder : Int
  activities : List ActivityConfig := []
  sla : Option SLADefinition := none
  name : String := ""
  description : String := ""

/-- Copy a field of a finished task into the case metadata. -/
structure AggregationRule where
  targetField : String
  sourceTask : String
  sourceField : String
  onTaskComplete : Bool := false

/-- A category of documents that a case type allows. -/
structure DocumentTypeDefinition where
  documentTypeCode : String
  displayName : String := ""
  description : String := ""
  allowedExtensions : List String := []
  maxSizeMB : Int := 0
  requiredAtStage : String := ""
  requiredCountMin : Int := 0
  requiredCountMax : Int := 0
  isSensitive : Bool := false
  requiresVerification : Bool := false
  verificationRole : String := ""
  retentionDays : Int := 0
  retentionPolicy : String := ""
  allowedViewers : List String := []

structure CaseTypeConfig where
  stages : List StageDefinition
  defaultCalendarId : Option Id := none
  sla : Option SLAHierarchyConfig := none
  approvalChain : List ApprovalChainTierDefinition := []
  fallbackSupervisorRole : String := ""
  maxReworkAttempts : Int := 0
  aggregationRules : List AggregationRule := []
  poisonPillThreshold : Int := 0
  subCaseTypes : List String := []
  documentTypes : List DocumentTypeDefinition := []

/-! ## Lookups -/

/-- The first stage with a code. -/
def findStage (config : CaseTypeConfig) (stageCode : String) : Option StageDefinition :=
  config.stages.find? (fun st => st.code == stageCode)

/-- The first stage in the list with a higher sequence order. -/
def findNextStage (config : CaseTypeConfig) (currentOrdinal : Int) : Option StageDefinition :=
  config.stages.find? (fun st => decide (currentOrdinal < st.sequenceOrder))

/-- The first activity with a code. -/
def findActivityDef (activities : List ActivityConfig) (code : String) : Option ActivityConfig :=
  activities.find? (fun a => a.code == code)

/-- The first task definition with a code. -/
def findTaskDef (taskDefs : List TaskDefinition) (code : String) : Option TaskDefinition :=
  taskDefs.find? (fun d => d.code == code)

end LoanWorkflow
