import LoanWorkflow.Approval.Activation
import LoanWorkflow.Approval.ExpirySweep
import LoanWorkflow.Framework.Machine

/-! # Conservation of votes

    Delegation and escalation hand a vote on: the old request no longer
    counts, and the new one does. The number of counted requests of a gate
    should therefore stay what it was when the gate was opened. Two steps
    break this: a delegate who decides the delegated request itself, and an
    escalation that fails after the old request was handed on.
-/

namespace LoanWorkflow

open Table Machine

variable {r : ApprovalRequest} {ctx : Ctx} {s s' : Store} {t : Table ApprovalRequest}
variable {f : ApprovalRequest → ApprovalRequest} {gateId k : Id} {lib : Library}

/-! ## Runs of votes -/

/-- One transaction on the requests of gates. -/
inductive VoteOp where
  | decide (ctx : Ctx) (verdict : Verdict) (input : DecideInput)
  | delegate (ctx : Ctx) (input : DelegateInput)
  | sweep (ctx : Ctx) (locked : Id → Bool) (batchSize : Nat)

def VoteOp.exec (lib : Library) : VoteOp → Store → Except Err Store
  | .decide ctx verdict input, s => decideRequest lib ctx verdict input s
  | .delegate ctx input, s => delegateRequest ctx input s
  | .sweep ctx locked batchSize, s => expirySweep ctx locked batchSize s

/-- The number of requests of a gate that `loadRequestCounts` counts. -/
def countedVotes (s : Store) (gateId : Id) : Nat := (loadRequestCounts s gateId).total

def ApprovalRequest.counts (gateId : Id) (r : ApprovalRequest) : Bool :=
  r.approvalGateId == gateId && r.status != .delegated

theorem countedVotes_eq (s : Store) (gateId : Id) :
    countedVotes s gateId = s.requests.count (ApprovalRequest.counts gateId) :=
  requestCounts_total s.requests _

/-- A counted request stays counted while it is not delegated. -/
theorem ApprovalRequest.counts_congr {r' : ApprovalRequest}
    (hgate : r'.approvalGateId = r.approvalGateId) (hbefore : r.status ≠ .delegated)
    (hafter : r'.status ≠ .delegated) : r'.counts gateId = r.counts gateId := by
  unfold ApprovalRequest.counts
  rw [hgate, bne_iff_ne.mpr hbefore, bne_iff_ne.mpr hafter]

theorem ApprovalRequest.counts_other
    (hgate : r.approvalGateId ≠ gateId) : r.counts gateId = false := by
  unfold ApprovalRequest.counts
  rw [beq_false_of_ne hgate, Bool.false_and]

/-- The steps that keep the number of votes of a gate: nobody decides a delegated request
    of the gate past the guard, and an escalation with a target can compute its expiry. -/
def KeepsVotes (gateId : Id) (s : Store) : VoteOp → Prop
  | .decide _ verdict input => ∀ r, s.requests.get? input.requestId = some r →
      r.approvalGateId = gateId → r.status = .delegated →
      validateApprovalTransition r.status verdict.status (input.effectiveActor r) ≠ .ok ()
  | .delegate _ _ => True
  | .sweep ctx locked batchSize => ∀ cand ∈ expiryCandidates s ctx.now locked batchSize,
      cand.request.approvalGateId = gateId → cand.gate.onTimeoutAction = .escalate →
      resolveEscalationTarget ctx cand.request.approverId cand.gate.fallbackSupervisorRole ≠ "" →
      ∃ expiresAt,
        computeEscalatedExpiry ctx cand.gate.approvalTimeoutHours cand.calendarId = .ok expiresAt

/-! ## Single steps -/

section steps

/-- Rewriting one request without changing whether it counts. -/
theorem count_updateAt_of_counts_eq (hget : t.get? k = some r)
    (hcounts : (f r).counts gateId = r.counts gateId) :
    (t.updateAt k f).count (ApprovalRequest.counts gateId) =
      t.count (ApprovalRequest.counts gateId) := by
  have hcount := count_updateAt hget f (ApprovalRequest.counts gateId)
  rw [hcounts] at hcount
  omega

/-- Handing a counted request on to a new one of the same gate. -/
theorem count_handOn {row : ApprovalRequest} (hget : t.get? k = some r)
    (hbefore : r.status ≠ .delegated) (hafter : (f r).status = .delegated)
    (hrow : row.approvalGateId = r.approvalGateId) (hnew : row.status ≠ .delegated) :
    ((t.updateAt k f).insert row).count (ApprovalRequest.counts gateId) =
      t.count (ApprovalRequest.counts gateId) := by
  have hcount := count_updateAt hget f (ApprovalRequest.counts gateId)
  have hgone : (f r).counts gateId = false := by simp [ApprovalRequest.counts, hafter]
  have hsame : row.counts gateId = r.counts gateId :=
    ApprovalRequest.counts_congr hrow hbefore hnew
  rw [hgone] at hcount
  rw [count_insert, hsame]
  simp only [Bool.false_eq_true, if_false] at hcount
  omega

theorem decideRequest_countedVotes {verdict : Verdict}
    {input : DecideInput} (hkeeps : KeepsVotes gateId s (.decide ctx verdict input))
    (h : decideRequest lib ctx verdict input s = .ok s') :
    countedVotes s' gateId = countedVotes s gateId := by
  obtain ⟨step⟩ := decideRequest_step h
  rw [countedVotes_eq, countedVotes_eq, step.requests_eq]
  apply count_updateAt_of_counts_eq step.hrequest
  have hdecided : verdict.status ≠ .delegated := by cases verdict <;> decide
  by_cases hgate : step.request.approvalGateId = gateId
  · -- the guard accepted the decision, so the request was not a delegated one
    have hopen : step.request.status ≠ .delegated := fun hdel =>
      hkeeps step.request step.hrequest hgate hdel step.hguard
    exact ApprovalRequest.counts_congr rfl hopen hdecided
  · rw [ApprovalRequest.counts_other hgate]
    exact ApprovalRequest.counts_other hgate

theorem delegateRequest_countedVotes {input : DelegateInput}
    (h : delegateRequest ctx input s = .ok s') :
    countedVotes s' gateId = countedVotes s gateId := by
  obtain ⟨r, hops, e, hget, hpending, rfl⟩ := delegateRequest_step h
  rw [countedVotes_eq, countedVotes_eq]
  exact count_handOn hget (by rw [hpending]; decide) rfl rfl (by simp [ApprovalRequest.handedTo])

/-- A timeout action keeps the number of votes, unless the escalation loses its request. -/
theorem TimeoutMove.count {cand : ExpiryCandidate} {t' : Table ApprovalRequest}
    (hmove : TimeoutMove ctx cand t t') (hget : t.get? cand.requestId = some r)
    (hpending : r.status = .pending) (hsame : r.approvalGateId = cand.request.approvalGateId)
    (hexpiry : cand.request.approvalGateId = gateId → cand.gate.onTimeoutAction = .escalate →
      resolveEscalationTarget ctx cand.request.approverId cand.gate.fallbackSupervisorRole ≠ "" →
      ∃ expiresAt, computeEscalatedExpiry ctx cand.gate.approvalTimeoutHours cand.calendarId =
        .ok expiresAt) :
    t'.count (ApprovalRequest.counts gateId) = t.count (ApprovalRequest.counts gateId) := by
  have hcounted : r.status ≠ .delegated := by rw [hpending]; decide
  cases hmove with
  | expired =>
    apply count_updateAt_of_counts_eq hget
    exact ApprovalRequest.counts_congr rfl hcounted (by simp [ApprovalRequest.expire])
  | decided status decision decidedBy hstatus =>
    apply count_updateAt_of_counts_eq hget
    refine ApprovalRequest.counts_congr ?_ hcounted ?_
    · rfl
    · show status ≠ .delegated
      rcases hstatus with rfl | rfl <;> decide
  | lost target e haction htarget hne hfail =>
    apply count_updateAt_of_counts_eq hget
    by_cases hgate : cand.request.approvalGateId = gateId
    · obtain ⟨expiresAt, hok⟩ := hexpiry hgate haction (by rw [htarget]; exact hne)
      rw [hok] at hfail
      cases hfail
    · rw [← hsame] at hgate
      rw [ApprovalRequest.counts_other hgate]
      exact ApprovalRequest.counts_other hgate
  | escalated target expiresAt hops =>
    exact count_handOn hget hcounted rfl hsame.symm (by simp [ApprovalRequest.handedTo])

theorem expirySweep_countedVotes {locked : Id → Bool} {batchSize : Nat}
    (hkeeps : KeepsVotes gateId s (.sweep ctx locked batchSize))
    (h : expirySweep ctx locked batchSize s = .ok s') :
    countedVotes s' gateId = countedVotes s gateId := by
  refine expirySweep_invariant (I := fun x => countedVotes x gateId = countedVotes s gateId) ?_
    rfl h
  intro cand hcand x x' hcount hslot hstep
  rw [← hcount, countedVotes_eq, countedVotes_eq]
  rcases hstep.move with hsame | ⟨r, hget, hpending, hmove⟩
  · rw [hsame]
  · exact hmove.count hget hpending (congrArg Prod.fst (hslot r hget)) (hkeeps cand hcand)

end steps

/-- A step that keeps votes keeps their number. -/
theorem VoteOp.exec_countedVotes {op : VoteOp} (hkeeps : KeepsVotes gateId s op)
    (h : op.exec lib s = .ok s') : countedVotes s' gateId = countedVotes s gateId := by
  cases op with
  | decide ctx verdict input => exact decideRequest_countedVotes hkeeps h
  | delegate ctx input => exact delegateRequest_countedVotes h
  | sweep ctx locked batchSize => exact expirySweep_countedVotes hkeeps h

/-! ## From activation on -/

/-- The store after a gate without counted requests was opened for `n` approvers, by either
    of the two functions that open gates. -/
def ActivatedWith (gateId : Id) (n : Nat) (s : Store) : Prop :=
  ∃ s₀ ctx gate c approvers, countedVotes s₀ gateId = 0 ∧
    s₀.gates.get? gateId = some gate ∧ gate.gateStatus ≠ .satisfied ∧ gate.gateStatus ≠ .failed ∧
    approvers.length = n ∧
    ((s₀.cases.get? gate.caseId = some c ∧ chooseApprovers ctx gate c = .ok approvers ∧
        activateApprovalGate ctx gateId s₀ = .ok s) ∨
      ∃ taskId caseId, s₀.cases.get? caseId = some c ∧
        chooseApprovers ctx { gate with taskId := taskId, caseId := caseId } c = .ok approvers ∧
        repoActivateApprovalGate ctx taskId caseId gateId s₀ = .ok s)

/-- An activation that chose `approvers` on a gate without counted requests opens one
    request for each of them. -/
theorem ActivationStep.countedVotes {s₀ : Store} {gate : ApprovalGate} {c : CaseInstance}
    {approvers : List String} (h : ActivationStep s₀ ctx gateId gate s)
    (hzero : countedVotes s₀ gateId = 0) (hsat : gate.gateStatus ≠ .satisfied)
    (hfail : gate.gateStatus ≠ .failed) (hcase : s₀.cases.get? gate.caseId = some c)
    (hchosen : chooseApprovers ctx gate c = .ok approvers) :
    countedVotes s gateId = approvers.length := by
  cases h with
  | unchanged hclosed =>
    rcases hclosed with hclosed | hclosed
    · exact absurd hclosed hsat
    · exact absurd hclosed hfail
  | reopened hstatus hpending =>
    -- a pending request would be a counted one
    have hle : pendingRequests s₀ gateId ≤ LoanWorkflow.countedVotes s₀ gateId := by
      rw [countedVotes_eq]
      apply count_le_of_imp
      intro r hr
      simp only [Bool.and_eq_true, beq_iff_eq] at hr
      simp [ApprovalRequest.counts, hr.1, hr.2]
    omega
  | opened c' approvers' expiresAt outbox hstatus hpending hcase' hchosen' =>
    obtain rfl := Option.mem_unique hcase hcase'
    obtain rfl : approvers = approvers' := Except.ok.inj (hchosen.symm.trans hchosen')
    rw [countedVotes_eq] at hzero ⊢
    have hall : (approvers.map (requestRow gateId gate expiresAt)).countP
        (ApprovalRequest.counts gateId) = (approvers.map (requestRow gateId gate expiresAt)).length := by
      rw [List.countP_eq_length]
      intro r hr
      obtain ⟨approver, -, rfl⟩ := List.mem_map.mp hr
      simp [ApprovalRequest.counts, requestRow]
    rw [count_foldl_insert, hzero, hall, List.length_map, Nat.zero_add]

theorem ActivatedWith.countedVotes {n : Nat}
    (h : ActivatedWith gateId n s) : countedVotes s gateId = n := by
  obtain ⟨s₀, ctx, gate, c, approvers, hzero, hget, hsat, hfail, rfl, hpath⟩ := h
  rcases hpath with ⟨hcase, hchosen, hok⟩ | ⟨taskId, caseId, hcase, hchosen, hok⟩
  · obtain ⟨gate', hget', hstep⟩ := activateApprovalGate_step hok
    obtain rfl := Option.mem_unique hget hget'
    exact hstep.countedVotes hzero hsat hfail hcase hchosen
  · obtain ⟨gate', hget', hstep⟩ := repoActivateApprovalGate_step hok
    obtain rfl := Option.mem_unique hget hget'
    exact hstep.countedVotes hzero hsat hfail hcase hchosen

/-- From the activation with `n` approvers on, a run whose steps all keep votes has exactly
    `n` counted requests in every state it reaches. -/
theorem votes_conserved (lib : Library) (gateId : Id) (n : Nat) (s : Store)
    (hactivated : ActivatedWith gateId n s) (ops : List VoteOp)
    (hguard : Guarded (VoteOp.exec lib) (KeepsVotes gateId) s ops) :
    countedVotes (run (VoteOp.exec lib) s ops) gateId = n := by
  refine Guarded.run_invariant (I := fun x => countedVotes x gateId = n) ?_
    hactivated.countedVotes hguard
  intro x op x' hcount hkeeps hok
  rw [VoteOp.exec_countedVotes hkeeps hok, hcount]

/-- A majority gate with two required approvers, for three approvers, before it is opened. -/
def threeApprovers : Store where
  cases := Table.empty.insert { caseTypeId := 0 }
  tasks := Table.empty.insert
    { caseId := 0, taskDefinitionCode := "REVIEW", activityCode := "A", stageCode := "S"
      requiresApproval := true, approvalGateId := some 0, status := .inProgress
      idempotencyKey := "0:REVIEW" }
  gates := Table.empty.insert
    { taskId := 0, caseId := 0, approvalPolicy := .majority, requiredApproverCount := 2
      approvers := ["ann", "bob", "cid"], reworkTargetStageCode := some "S" }

def threeOpened : Store :=
  run (fun ctx => activateApprovalGate ctx 0) threeApprovers [Ctx.plain 0]

def annDelegates : VoteOp :=
  .delegate (Ctx.plain 1)
    { requestId := 0, actor := { id := "ann", isApprover := true }, delegatedToId := "dan",
      reason := "on leave" }

def danApproves (requestId : Id) (time : Instant) : VoteOp :=
  .decide (Ctx.plain time) .approve
    { requestId := requestId, actor := { id := "dan", isApprover := true }, decisionText := "fine",
      evidenceRefs := some [] }

/-- The gate of three approvers is open with three requests. -/
theorem threeOpened_activated : ActivatedWith 0 3 threeOpened :=
  ⟨threeApprovers, Ctx.plain 0, _, _, ["ann", "bob", "cid"], rfl, rfl, by decide, by decide, rfl,
    Or.inl ⟨rfl, rfl, rfl⟩⟩

theorem votes_conserved_delegation :
    countedVotes (run (VoteOp.exec Library.plain) threeOpened
      [annDelegates, danApproves 3 2]) 0 = 3 := by
  refine votes_conserved Library.plain 0 3 threeOpened threeOpened_activated _ ⟨trivial, ?_, trivial⟩
  -- the delegate decides the new request, which is pending
  intro r hget _ hdelegated
  have hpending : (((commit (VoteOp.exec Library.plain) threeOpened
      annDelegates).requests.get? 3).map (·.status)) = some .pending := by decide
  rw [hget, Option.map_some, hdelegated] at hpending
  cases hpending

/-- One overdue request on an escalating gate, in a case with a business calendar. -/
def overdueRequest : Store where
  cases := Table.empty.insert { caseTypeId := 0, sla := { calendarId := some 7 } }
  gates := Table.empty.insert
    { taskId := 0, caseId := 0, approvalPolicy := .singleApprover, requiredApproverCount := 1
      gateStatus := .active }
  requests := Table.empty.insert { approvalGateId := 0, approverId := "ann", expiresAt := 0 }

/-- A sweep that finds a manager to escalate to and cannot read the calendar. -/
def sweepWithoutCalendar : VoteOp :=
  .sweep { Ctx.plain 1 with
    addBusinessHours := fun _ _ _ => .error "calendar not found"
    managerOf := fun _ => some "mia" } (fun _ => false) 500

/-- The delegate decides the delegated request and the new one. -/
def danVotesTwice : Store :=
  run (VoteOp.exec Library.plain) threeOpened
    [annDelegates, danApproves 0 2, danApproves 3 3]

/-- Four votes are counted on a gate of three, and the two votes of one person satisfy it.
    An escalation whose expiry cannot be computed loses its vote. -/
theorem votes_duplicated_and_lost :
    countedVotes threeOpened 0 = 3 ∧ countedVotes danVotesTwice 0 = 4 ∧
      (loadRequestCounts danVotesTwice 0).approved = 2 ∧
      (danVotesTwice.gates.get? 0).map (·.gateStatus) = some .satisfied ∧
      countedVotes overdueRequest 0 = 1 ∧
      countedVotes (run (VoteOp.exec Library.plain) overdueRequest
        [sweepWithoutCalendar]) 0 = 0 := by
  decide

end LoanWorkflow
