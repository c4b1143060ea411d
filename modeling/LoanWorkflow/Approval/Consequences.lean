import LoanWorkflow.Approval.Requests
import LoanWorkflow.Framework.Machine

/-! # What a rejection may cost the case

    A rejected request ought to cost the case something only once the policy
    of the gate has failed. `decideRequest` asks another question: whether the
    policy is satisfied. A rejection that leaves the verdict open already
    sends the case to rework, or rejects it for good.

    A consequence is recognised by its event: `CASE_SENT_TO_REWORK`,
    `CASE_MAX_REWORK_EXCEEDED` and `CASE_REJECTED` are published by
    `sendCaseToRework` and `rejectCaseTerminally` only.
-/

namespace LoanWorkflow

open Machine

variable {gateId : Id} {now : Instant} {gate : ApprovalGate}

/-! ## Consequences -/

/-- The events of a rework and of a terminal rejection. -/
def EventType.isConsequence : EventType → Bool
  | .caseSentToRework | .caseMaxReworkExceeded | .caseRejected => true
  | _ => false

/-- How often a rejection has cost the case something. -/
def consequences (s : Store) (caseId : Id) : Nat :=
  s.outbox.count (fun e => e.eventType.isConsequence && e.caseId == some caseId)

/-- A call of `decideRequest`. -/
structure Decision where
  ctx : Ctx
  verdict : Verdict
  input : DecideInput

def Decision.exec (lib : Library) (d : Decision) (s : Store) : Except Err Store :=
  decideRequest lib d.ctx d.verdict d.input s

def gateVerdict (s : Store) (gateId : Id) (gate : ApprovalGate) : PolicyEvaluation :=
  evaluatePolicyCounts gate.approvalPolicy gate.requiredApproverCount (loadRequestCounts s gateId)

/-- If the step costs the case of the gate something, then the policy of the gate has failed
    after it. -/
def CostsAfterFailure (s : Store) (d : Decision) (s' : Store) : Prop :=
  ∀ r gate, s.requests.get? d.input.requestId = some r →
    s.gates.get? r.approvalGateId = some gate →
    consequences s' gate.caseId ≠ consequences s gate.caseId →
    ∃ gate', s'.gates.get? r.approvalGateId = some gate' ∧
      (gateVerdict s' r.approvalGateId gate').failed = true

/-- The condition on a step: a rejection with a consequence fails the policy, or it comes too
    late because the policy is satisfied all the same. -/
def Decision.Decisive (s : Store) (d : Decision) : Prop :=
  d.verdict = .reject → ∀ r gate, s.requests.get? d.input.requestId = some r →
    s.gates.get? r.approvalGateId = some gate →
    gate.rejectionBehavior = .sendToRework ∨ gate.rejectionBehavior = .terminalFail →
    let verdict := gateVerdict
      (recordDecision s d.ctx.now r.approvalGateId gate d.verdict d.input) r.approvalGateId gate
    verdict.failed = true ∨ gate.gateStatus = .satisfied ∨
      (verdict.satisfied = true ∧ gate.gateStatus ≠ .failed ∧ gate.gateStatus ≠ .rejected ∧
        gate.gateStatus ≠ .cancelled)

/-! ## What the evaluators publish -/

section Outbox

variable {s s' : Store} {caseId chainId : Id}

theorem consequences_publish {e : Event} (h : e.eventType.isConsequence = false) :
    consequences (s.publish e) caseId = consequences s caseId := by
  unfold consequences Store.publish
  rw [Table.count_insert, h]
  rfl

theorem evaluateApprovalPolicy_consequences {b : Bool}
    (h : evaluateApprovalPolicy s now gateId = .ok (b, s')) :
    consequences s' caseId = consequences s caseId := by
  unfold evaluateApprovalPolicy at h
  cases hget : s.gates.get? gateId with
  | none =>
    rw [hget] at h
    cases h
  | some gate =>
    simp only [hget, closeGate_eq hget] at h
    split at h
    · cases h; rfl
    split at h
    · cases h; rfl
    split at h
    · cases h
    split at h
    · by_cases hopen : gate.gateStatus.isOpen = true
      · simp only [if_pos hopen] at h
        cases h
        exact consequences_publish rfl
      · simp only [if_neg hopen] at h
        cases h; rfl
    split at h
    · by_cases hopen : gate.gateStatus.isOpen = true
      · simp only [if_pos hopen] at h
        cases h
        exact consequences_publish rfl
      · simp only [if_neg hopen] at h
        cases h; rfl
    · cases h; rfl

theorem settleTier_consequences {ch : ApprovalChainState}
    {tierDef : ApprovalChainTierDefinition} {idx : Nat}
    (h : settleTier s now chainId ch tierDef idx = .ok s') :
    consequences s' caseId = consequences s caseId := by
  obtain ⟨policy, -, h⟩ := bind_ok h
  dsimp only at h
  split at h
  · cases h
  split at h
  · cases h
    exact consequences_publish rfl
  split at h
  · split at h
    · cases h
      exact consequences_publish rfl
    · cases h; rfl
  · cases h; rfl

theorem evaluateApprovalChain_consequences {lib : Library}
    (h : evaluateApprovalChain lib s now chainId = .ok s') :
    consequences s' caseId = consequences s caseId := by
  obtain ⟨ch, -, h⟩ := bind_ok h
  dsimp only at h
  split at h
  · cases h; rfl
  obtain ⟨c, -, h⟩ := bind_ok h
  split at h
  · cases h; rfl
  obtain ⟨skip, -, h⟩ := bind_ok h
  split at h
  · cases h; rfl
  obtain ⟨required, -, h⟩ := bind_ok h
  split at h
  · cases h; rfl
  · exact settleTier_consequences h

theorem walkChain_consequences {lib : Library} (h : walkChain lib s now gateId = .ok s') :
    consequences s' caseId = consequences s caseId := by
  unfold walkChain at h
  split at h
  · exact evaluateApprovalChain_consequences h
  · cases h; rfl

/-- An evaluation that answers no has not found a satisfied gate, nor satisfied one. -/
theorem evaluateApprovalPolicy_false
    (hget : s.gates.get? gateId = some gate)
    (h : evaluateApprovalPolicy s now gateId = .ok (false, s')) :
    gate.gateStatus ≠ .satisfied ∧
      ((gateVerdict s gateId gate).satisfied = true → (gateVerdict s gateId gate).failed = false →
        gate.gateStatus = .failed ∨ gate.gateStatus = .rejected ∨ gate.gateStatus = .cancelled) := by
  unfold evaluateApprovalPolicy at h
  simp only [hget, closeGate_eq hget] at h
  split at h
  · cases h
  next hsat =>
  refine ⟨hsat, ?_⟩
  intro hverdict hnotFailed
  unfold gateVerdict at hverdict hnotFailed
  split at h
  · next hclosed => exact hclosed
  split at h
  · cases h
  -- a satisfied verdict answers yes, whether or not it hits the gate
  simp only [hnotFailed, Bool.false_eq_true, if_false] at h
  by_cases hopen : gate.gateStatus.isOpen = true
  · simp only [if_pos hopen] at h
    cases h
  · simp only [if_neg hopen] at h
    cases h

end Outbox

/-! ## Decisions -/

section Steps

variable {lib : Library} {s s' : Store} {d : Decision}

/-- A decision that costs the case something is a rejection of a gate with a consequence, on
    which the evaluation answered no. -/
theorem decideRequest_consequences {r : ApprovalRequest}
    (hr : s.requests.get? d.input.requestId = some r)
    (hgate : s.gates.get? r.approvalGateId = some gate) (h : d.exec lib s = .ok s')
    (hcosts : consequences s' gate.caseId ≠ consequences s gate.caseId) :
    d.verdict = .reject ∧
      (gate.rejectionBehavior = .sendToRework ∨ gate.rejectionBehavior = .terminalFail) ∧
      ∃ evaluated, evaluateApprovalPolicy
        (recordDecision s d.ctx.now r.approvalGateId gate d.verdict d.input) d.ctx.now
        r.approvalGateId = .ok (false, evaluated) := by
  obtain ⟨r', hr', h⟩ := bind_ok h
  obtain rfl := Option.mem_unique hr (orFail_eq_ok.mp hr')
  obtain ⟨gate', hgate', h⟩ := bind_ok h
  obtain rfl := Option.mem_unique hgate (orFail_eq_ok.mp hgate')
  obtain ⟨_, -, h⟩ := bind_ok h
  obtain ⟨_, -, h⟩ := bind_ok h
  obtain ⟨⟨satisfied, evaluated⟩, heval, h⟩ := bind_ok h
  obtain ⟨walked, hwalk, h⟩ := bind_ok h
  -- up to here nothing but votes and verdicts was published
  have hwalked : consequences walked gate.caseId = consequences s gate.caseId := by
    rw [walkChain_consequences hwalk, evaluateApprovalPolicy_consequences heval]
    apply consequences_publish
    cases d.verdict <;> rfl
  split at h
  · next hno =>
    rw [hno.2] at heval
    refine ⟨hno.1, ?_, evaluated, heval⟩
    unfold executeRejectionBehavior at h
    split at h
    · next hbehavior => exact Or.inl hbehavior
    · next hbehavior => exact Or.inr hbehavior
    · cases h
      exact absurd hwalked hcosts
  · cases h
    exact absurd hwalked hcosts

/-- A decisive step costs the case something only after the policy failed. -/
theorem Decision.Decisive.costsAfterFailure (hdecisive : d.Decisive s)
    (h : d.exec lib s = .ok s') : CostsAfterFailure s d s' := by
  intro r gate hr hgate hcosts
  obtain ⟨hreject, hbehavior, evaluated, heval⟩ := decideRequest_consequences hr hgate h hcosts
  have hrecorded : (recordDecision s d.ctx.now r.approvalGateId gate d.verdict
      d.input).gates.get? r.approvalGateId = some gate := hgate
  obtain ⟨hopen, hunsatisfied⟩ := evaluateApprovalPolicy_false hrecorded heval
  obtain ⟨step⟩ := decideRequest_step h
  -- the gate keeps its terms, and its requests are those that the evaluation counted
  obtain ⟨gate', hgate', hterms⟩ := step.gates_keep r.approvalGateId gate hgate
  refine ⟨gate', hgate', ?_⟩
  have hverdict : gateVerdict s' r.approvalGateId gate' = gateVerdict
      (recordDecision s d.ctx.now r.approvalGateId gate d.verdict d.input) r.approvalGateId
      gate := by
    simp only [ApprovalGate.terms, Prod.mk.injEq] at hterms
    obtain ⟨-, -, hpolicy, hrequired, -⟩ := hterms
    unfold gateVerdict loadRequestCounts
    rw [hpolicy, hrequired, step.requests_eq]
    rfl
  rw [hverdict]
  rcases hdecisive hreject r gate hr hgate hbehavior with hfailed | hsat | ⟨hsat, h₁, h₂, h₃⟩
  · exact hfailed
  · exact absurd hsat hopen
  · by_contra hnot
    rw [Bool.not_eq_true] at hnot
    rcases hunsatisfied hsat hnot with hcon | hcon | hcon
    · exact h₁ hcon
    · exact h₂ hcon
    · exact h₃ hcon

end Steps

/-- Three approvers under a policy, in a case that a rejection ends. -/
def voteOfThree (policy : ApprovalPolicy) : Store where
  cases := Table.empty.insert { caseTypeId := 0, status := .inProgress }
  gates := Table.empty.insert
    { taskId := 0, caseId := 0, approvalPolicy := policy, requiredApproverCount := 1
      gateStatus := .active, rejectionBehavior := .terminalFail }
  requests := ((Table.empty.insert { approvalGateId := 0, approverId := "ann" }).insert
    { approvalGateId := 0, approverId := "bob" }).insert { approvalGateId := 0, approverId := "cid" }

def annRejects : Decision where
  ctx := Ctx.plain 1
  verdict := .reject
  input :=
    { requestId := 0, actor := { id := "ann", isApprover := true }, decisionText := "no"
      evidenceRefs := some [] }

end LoanWorkflow
