import LoanWorkflow.Engine.Lifecycle
import LoanWorkflow.Framework.Machine

/-! # Emergency closures with four eyes

    A call holds the lock on its token row until it ends, so calls on one token
    take effect one after the other, in the order in which they end. The clock
    of a call is the begin of its transaction; a call that began late may well
    end first, so the clocks of a run are in no particular order.

    - `four_eyes`: every run of calls
-/

namespace LoanWorkflow

open Machine Table

/-- The arguments of `EmergencyClose`. -/
structure EmergencyCall where
  ctx : Ctx
  caseId : Id
  reason : String
  supervisorId : String
  fourEyesToken : String

def EmergencyCall.exec (call : EmergencyCall) : Store → Except Err Store :=
  emergencyClose call.ctx call.caseId call.reason call.supervisorId call.fourEyesToken

variable {call : EmergencyCall} {s s' : Store}

/-- The token cannot be used any more. -/
def Spent (s : Store) (token : String) : Prop :=
  ∀ k row, s.fourEyesTokens.get? k = some row → row.token = token → row.consumedAt.isSome = true

/-- The call used an open token that another supervisor issued for the case and that had not
    expired when the transaction began, and closed the case. -/
structure ClosesByToken (call : EmergencyCall) (s s' : Store) : Prop where
  issued : ∃ k row, s.fourEyesTokens.get? k = some row ∧ row.token = call.fourEyesToken ∧
    row.consumedAt = none ∧ row.caseId = call.caseId ∧ call.ctx.now < row.expiresAt ∧
    row.issuerId ≠ call.supervisorId
  spent : Spent s' call.fourEyesToken
  closed : ∃ c c', s.cases.get? call.caseId = some c ∧ c.status.isTerminal = false ∧
    s'.cases.get? call.caseId = some c' ∧ c'.status = .cancelled

/-- A call closes the case by its token, or fails and leaves everything as it was. -/
def FourEyes (s : Store) (call : EmergencyCall) (s' : Store) : Prop :=
  (call.exec s).isOk = true ∧ ClosesByToken call s s' ∨ (call.exec s).isOk = false ∧ s' = s

/-- What a successful call read and wrote. -/
theorem emergencyClose_token (h : call.exec s = .ok s') :
    ClosesByToken call s s' ∧ ∀ token, Spent s token → Spent s' token := by
  obtain ⟨_, -, h⟩ := bind_ok h
  obtain ⟨⟨k, row⟩, hfound, h⟩ := bind_ok h
  obtain ⟨_, hcase, h⟩ := bind_ok h
  obtain ⟨_, hissuer, h⟩ := bind_ok h
  obtain ⟨c, hload, h⟩ := bind_ok h
  obtain ⟨_, hopen, h⟩ := bind_ok h
  obtain ⟨_, -, h⟩ := bind_ok h
  obtain ⟨s₁, hupdate, h⟩ := bind_ok h
  cases h
  rw [(updateCaseLifecycle_step hupdate fun _ => rfl).1]
  obtain ⟨hget, hquery⟩ := find?_eq_some (orFail_eq_ok.mp hfound)
  have hrow : s.cases.get? call.caseId = some c := orFail_eq_ok.mp hload
  simp only [Bool.and_eq_true, beq_iff_eq, decide_eq_true_eq, Option.isNone_iff_eq_none] at hquery
  simp only [ensure_eq_ok, beq_iff_eq, bne_iff_ne, ne_eq, Bool.not_eq_true'] at hcase hissuer hopen
  refine ⟨⟨⟨k, row, hget, hquery.1.1, hquery.2, hcase, hquery.1.2, hissuer⟩, ?_, ?_⟩, ?_⟩
  · -- all rows of the token are consumed in one statement
    intro j row' hget' htoken
    obtain ⟨old, -, rfl⟩ := Option.map_eq_some_iff.mp ((get?_updateWhere ..).symm.trans hget')
    split at htoken <;> simp_all
  · refine ⟨c, { c with
      emergencyReason := some call.reason, supervisorId := some call.supervisorId
      emergencyClosedAt := some call.ctx.now, completedAt := some call.ctx.now
      status := .cancelled, rowVersion := c.rowVersion + 1 }, hrow, hopen, ?_, rfl⟩
    exact get?_updateAt_of_get? hrow
  · intro token hspent j row' hget' htoken
    obtain ⟨old, hold, rfl⟩ :=
      Option.map_eq_some_iff.mp ((get?_updateWhere ..).symm.trans hget')
    split at htoken
    · simp_all
    · simp_all [hspent j old hold]

/-- In every run of emergency closures no token is used twice; every successful call closes the
    case that its open token was issued for, by another supervisor than the issuer and in a
    transaction from before the token expired; and a call that fails changes nothing. -/
theorem four_eyes (s : Store) (calls : List EmergencyCall) :
    ((committed EmergencyCall.exec s calls).map (·.fourEyesToken)).Nodup ∧
      Along EmergencyCall.exec FourEyes s calls := by
  constructor
  · refine (nodup_committed (U := Spent) ?_ ?_ s calls).1
    · intro s call s' hok
      have hcloses := (emergencyClose_token hok).1
      refine ⟨fun hspent => ?_, hcloses.spent⟩
      obtain ⟨k, row, hget, htoken, hopen, -⟩ := hcloses.issued
      have hconsumed := hspent k row hget htoken
      rw [hopen] at hconsumed
      cases hconsumed
    · exact fun s call s' token hok hspent => (emergencyClose_token hok).2 token hspent
  · refine along_of_forall (fun s call => ?_) s calls
    unfold FourEyes commit
    cases hexec : call.exec s with
    | ok s' => exact Or.inl ⟨rfl, (emergencyClose_token hexec).1⟩
    | error e => exact Or.inr ⟨rfl, rfl⟩

end LoanWorkflow
