import LoanWorkflow.Framework.Binary64
import LoanWorkflow.Model.Store

/-! # Calls

    What a call reads besides the store: the clock, the user directory, the
    business calendars, and pure libraries. None of it is written by a
    modelled function. Every call brings its own context, so a run may see a
    directory or a calendar that changes from call to call.
-/

namespace LoanWorkflow

/-- Errors of `SelectApprovers`. -/
inductive SelectionError where
  | noEligibleApprover
  | failed (e : Err)

/-- The context of one call. -/
structure Ctx where
  /-- The clock of the transaction. -/
  now : Instant
  /-- `sla.AddBusinessHours` on a stored calendar. -/
  addBusinessHours : Instant → Duration → Id → Except Err Instant
  /-- `sla.BusinessHoursElapsed` on a stored calendar. -/
  businessHoursElapsed : Instant → Instant → Id → Except Err Duration
  /-- `SelectApprovers` over the user directory. -/
  selectApprovers : ApprovalGate → CaseInstance → Except SelectionError (List String)
  /-- The oldest active user with a role. -/
  activeUserByRole : String → Option String
  /-- `users.manager_id`. -/
  managerOf : String → Option String
  /-- The active team of a tenant with a code. -/
  activeTeam : String → String → Option String
  /-- A workbasket of type `ESCALATION`. -/
  escalationWorkbasket : Option Id

/-- Pure library functions that the engine calls. -/
structure Library where
  /-- `ExpressionEvaluator.Evaluate` on case metadata. -/
  evaluate : String → Json → Except Err Bool
  /-- Does a JSON schema accept a document? -/
  schemaAccepts : Json → Json → Bool
  /-- `strconv.ParseFloat`. -/
  parseFloat : String → Option ℚ
  /-- `fmt.Sprint` of a decoded value that is no string. -/
  sprint : Json → String
  /-- `strings.ToUpper`. -/
  toUpper : String → String
  /-- `jsonb_set` with `create_if_missing`. -/
  jsonbSet : Json → List String → Json → Except Err Json

/-- A call on a plain wall clock, with a directory in which exactly the approvers that a
    gate lists are eligible. -/
def Ctx.plain (now : Instant) : Ctx where
  now := now
  addBusinessHours := fun start duration _ => .ok (start + duration)
  businessHoursElapsed := fun start finish _ => .ok (finish - start)
  selectApprovers := fun gate _ => .ok gate.approvers
  activeUserByRole := fun _ => none
  managerOf := fun _ => none
  activeTeam := fun _ _ => none
  escalationWorkbasket := none

/-- A library in which every condition is false, every document is accepted, no text is a
    number, and nothing is written into a document. -/
def Library.plain : Library where
  evaluate := fun _ _ => .ok false
  schemaAccepts := fun _ _ => true
  parseFloat := fun _ => none
  sprint := fun _ => ""
  toUpper := fun s => s
  jsonbSet := fun target _ _ => .ok target

/-- `time.Duration(hours * float64(time.Hour))`. -/
def hoursToDuration (hours : ℚ) : Duration :=
  let ns := Binary64.round (hours * 3600000000000)
  if ns < 0 then ⌈ns⌉ else ⌊ns⌋

end LoanWorkflow
