import LoanWorkflow.Framework.Strings
import LoanWorkflow.Model.Store

/-! # Classification of task failures

    The error code of a failure, its class, and the retry policy that a task
    definition asks for: how often, after which delay, and when a task that
    keeps failing is put into quarantine. Texts are ASCII.
-/

namespace LoanWorkflow

/-! ## Error codes -/

/-- What the exception package reads of the error of a handler. A code may come from an error
    that is wrapped, a stack and an upstream error only from the error itself. -/
structure HandlerError where
  message : String
  errorCode : Option String := none
  deadlineExceeded : Bool := false
  networkTimeout : Bool := false
  stackContext : Option String := none
  upstreamError : Option Json := none

/-- `strings.ToUpper`. -/
def upper (s : String) : String := String.ofList (Strings.toUpper s.toList)

def normalizeErrorCode (raw : String) : String :=
  upper (String.ofList ((trimSpace raw).toList.map (fun c => if c = '-' ∨ c = ' ' then '_' else c)))

/-- The codes that the text of an error stands for, in the order in which they are tried;
    patterns are compared in upper case. -/
def messageCodes : List (List String × String) :=
  [(["DEADLOCK"], "DB_DEADLOCK"),
    (["503", "SERVICE UNAVAILABLE"], "DOWNSTREAM_503"),
    (["TIMEOUT"], "DOWNSTREAM_TIMEOUT"),
    (["MISSING REQUIRED"], "MISSING_REQUIRED_FIELD"),
    (["VALIDATION"], "VALIDATION_FAILED"),
    (["MALFORMED"], "MALFORMED_PAYLOAD"),
    (["BUSINESS RULE"], "BUSINESS_RULE_VIOLATION"),
    (["UNAUTHORIZED"], "UNAUTHORIZED"),
    (["FORBIDDEN"], "FORBIDDEN"),
    (["NOT FOUND"], "NOT_FOUND")]

/-- The code that the text of an error stands for. -/
def messageCode (message : String) : String :=
  let text := Strings.toUpper message.toList
  match messageCodes.find? (fun entry => entry.1.any (fun p => Strings.contains text p.toList)) with
  | some entry => entry.2
  | none => "UNKNOWN_ERROR"

def extractErrorCode (err : HandlerError) : String :=
  let code := normalizeErrorCode (err.errorCode.getD "")
  if code ≠ "" then code
  else if err.deadlineExceeded then "DOWNSTREAM_TIMEOUT"
  else if err.networkTimeout then "NETWORK_TIMEOUT"
  else messageCode err.message

def transientErrorCodes : List String :=
  ["DOWNSTREAM_TIMEOUT", "NETWORK_TIMEOUT", "DB_DEADLOCK", "DOWNSTREAM_503", "SERVICE_UNAVAILABLE",
    "CONNECTION_RESET", "CONNECTION_REFUSED", "TEMPORARY_UNAVAILABLE", "THROTTLED"]

def permanentErrorCodes : List String :=
  ["VALIDATION_FAILED", "MALFORMED_PAYLOAD", "MISSING_REQUIRED_FIELD", "BUSINESS_RULE_VIOLATION",
    "UNAUTHORIZED", "FORBIDDEN", "NOT_FOUND"]

def classifyErrorCode (code : String) : ErrorClass :=
  let normalized := normalizeErrorCode code
  if normalized = "" then .unknown
  else if transientErrorCodes.contains normalized then .transient
  else if permanentErrorCodes.contains normalized then .permanent
  else .unknown

/-! ## Retry policies -/

def RetryBackoffStrategy.isKnown : RetryBackoffStrategy → Bool
  | .fixed | .linear | .exponential => true
  | .other _ => false

/-- The retryable codes of a policy, normalized and without repetitions. -/
def normalizeCodes (codes : List String) : List String :=
  ((codes.map normalizeErrorCode).filter (· ≠ "")).foldl
    (fun kept code => if kept.contains code then kept else kept ++ [code]) []

def resolveRetryPolicy (taskDef : TaskDefinition) : TaskRetryPolicy :=
  let policy : TaskRetryPolicy :=
    { maxRetries := 3, backoffStrategy := .exponential
      baseIntervalSeconds := 5, maxIntervalSeconds := 300 }
  match taskDef.retryPolicy with
  | none => policy
  | some configured =>
    let base := if 0 < configured.baseIntervalSeconds then configured.baseIntervalSeconds
      else policy.baseIntervalSeconds
    let longest := if 0 < configured.maxIntervalSeconds then configured.maxIntervalSeconds
      else policy.maxIntervalSeconds
    { maxRetries := if 0 ≤ configured.maxRetries then configured.maxRetries else policy.maxRetries
      backoffStrategy := if configured.backoffStrategy.isKnown then configured.backoffStrategy
        else policy.backoffStrategy
      baseIntervalSeconds := base
      maxIntervalSeconds := if longest < base then base else longest
      retryableErrorCodes := normalizeCodes configured.retryableErrorCodes }

/-- A policy that the code can act on: a known strategy, a budget, and an interval that
    the longest one does not cut. -/
structure TaskRetryPolicy.WellFormed (policy : TaskRetryPolicy) : Prop where
  retries : 0 ≤ policy.maxRetries
  strategy : policy.backoffStrategy.isKnown = true
  base : 0 < policy.baseIntervalSeconds
  longest : policy.baseIntervalSeconds ≤ policy.maxIntervalSeconds

/-- Whatever the configuration says, the resolved policy is well formed. -/
theorem resolveRetryPolicy_wellFormed (taskDef : TaskDefinition) :
    (resolveRetryPolicy taskDef).WellFormed := by
  unfold resolveRetryPolicy
  cases taskDef.retryPolicy with
  | none => exact ⟨by decide, rfl, by decide, by decide⟩
  | some configured =>
    constructor
    · show 0 ≤ if 0 ≤ configured.maxRetries then configured.maxRetries else 3
      split <;> omega
    · show (if configured.backoffStrategy.isKnown then configured.backoffStrategy
        else .exponential).isKnown = true
      by_cases hknown : configured.backoffStrategy.isKnown = true
      · rw [if_pos hknown]
        exact hknown
      · rw [if_neg hknown]
        rfl
    · show 0 < if 0 < configured.baseIntervalSeconds then configured.baseIntervalSeconds else 5
      split <;> omega
    · -- the longest interval is raised to the base where it is below it
      dsimp only
      split <;> omega

def resolvePoisonPillThreshold (taskDef : TaskDefinition) (config : CaseTypeConfig) : Int :=
  if 0 < taskDef.poisonPillThreshold then taskDef.poisonPillThreshold
  else if 0 < config.poisonPillThreshold then config.poisonPillThreshold
  else 12

def resolveFailureSeverity (taskDef : TaskDefinition) : TaskFailureSeverity :=
  match taskDef.failureSeverity with
  | .other _ => .blocking
  | severity => severity

def shouldEscalateCase (taskDef : TaskDefinition) (errorClass : ErrorClass)
    (retriesExhausted : Bool) : Bool :=
  let severity := resolveFailureSeverity taskDef
  taskDef.escalateCaseOnFailure ||
    ((severity == .critical || severity == .blocking) &&
      (errorClass == .permanent || retriesExhausted))

def isErrorCodeRetryable (policy : TaskRetryPolicy) (errorCode : String) : Bool :=
  policy.retryableErrorCodes.isEmpty ||
    policy.retryableErrorCodes.any (fun c => normalizeErrorCode c == normalizeErrorCode errorCode)

/-! ## Backoff -/

/-- `time.Duration(n) * time.Second`, a 64-bit product. -/
def ofSeconds (n : Int) : Duration := (n * 1000000000).bmod (2 ^ 64)

/-- The doubling loop of the exponential strategy, for the attempts that are left. -/
def doubleInterval (longest : Duration) : Nat → Duration → Duration
  | 0, interval => interval
  | n + 1, interval =>
    if longest ≤ interval then longest
    else if longest.tdiv 2 < interval then longest
    else doubleInterval longest n ((interval * 2).bmod (2 ^ 64))

/-- The delay of a strategy before it is cut at the longest one. -/
def backoffInterval (strategy : RetryBackoffStrategy) (base longest : Duration)
    (attemptNumber : Int) : Except Err Duration :=
  match strategy with
  | .fixed => .ok base
  | .linear => .ok ((attemptNumber * base).bmod (2 ^ 64))
  | .exponential | .other "" => .ok (doubleInterval longest (attemptNumber - 1).toNat base)
  | .other name =>
    .error ("ComputeBackoffDuration: unsupported backoff strategy " ++ name)

def computeBackoffDuration (policy : TaskRetryPolicy) (attemptNumber : Int) :
    Except Err Duration := do
  ensure (decide (1 ≤ attemptNumber)) "ComputeBackoffDuration: attempt number must be >= 1"
  ensure (decide (0 < policy.baseIntervalSeconds))
    "ComputeBackoffDuration: base interval must be > 0"
  ensure (decide (0 < policy.maxIntervalSeconds)) "ComputeBackoffDuration: max interval must be > 0"
  let longest := ofSeconds policy.maxIntervalSeconds
  let interval ← backoffInterval policy.backoffStrategy (ofSeconds policy.baseIntervalSeconds) longest
    attemptNumber
  let interval := if longest < interval then longest else interval
  ensure (decide (0 ≤ interval)) "ComputeBackoffDuration: computed negative interval"
  return interval

end LoanWorkflow
