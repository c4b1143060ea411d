import LoanWorkflow.Approval.Tiers

/-! # Closed gates

    A gate that is neither `PENDING` nor `ACTIVE` has its verdict. Six
    functions write the status of a gate. Only `closeGate`, behind
    `EvaluateApprovalPolicy`, asks whether the gate is still open; the walk of
    the chain and the two outcomes of a rejection overwrite whatever is there,
    and the two activations each let some closed statuses through.

    - `closed_gates_stay_closed`: the property along runs
-/

namespace LoanWorkflow

open Machine

variable {caseId chainId gateId : Id} {now : Instant}

/-! ## Steps -/

inductive ClosingOp where
  | evaluatePolicy (now : Instant) (gateId : Id)
  | walkChain (now : Instant) (chainId : Id)
  | activate (ctx : Ctx) (gateId : Id)
  | activateForTask (ctx : Ctx) (taskId caseId gateId : Id)
  | rework (now : Instant) (caseId gateId : Id) (target reason rejectedBy : String)
  | rejectTerminally (now : Instant) (caseId gateId : Id) (reason rejectedBy : String)

def ClosingOp.exec (lib : Library) : ClosingOp → Store → Except Err Store
  | .evaluatePolicy now gateId, s => (evaluateApprovalPolicy s now gateId).map Prod.snd
  | .walkChain now chainId, s => evaluateApprovalChain lib s now chainId
  | .activate ctx gateId, s => activateApprovalGate ctx gateId s
  | .activateForTask ctx taskId caseId gateId, s =>
    repoActivateApprovalGate ctx taskId caseId gateId s
  | .rework now caseId gateId target reason rejectedBy, s =>
    sendCaseToRework s now caseId gateId target reason rejectedBy
  | .rejectTerminally now caseId gateId reason rejectedBy, s =>
    .ok (rejectCaseTerminally s now caseId gateId reason rejectedBy)

/-- The status of every closed gate is as before. -/
def StaysClosed (s s' : Store) : Prop :=
  ∀ gateId status, gateStatus? s gateId = some status → status.isOpen = false →
    gateStatus? s' gateId = some status

/-- The number of reworks of a case is used up, so that a rework rejects the case instead and
    leaves the gate alone. -/
def ReworkExhausted (c : CaseInstance) : Prop :=
  0 < c.maxReworkAttempts ∧ c.maxReworkAttempts < c.reworkCount + 1

/-- The walk of a running chain writes no other status to a closed gate: the requests of its
    tier, if it is not skipped, do not fail a gate that has not failed, nor satisfy on the last
    tier a gate that is not satisfied. -/
def ChainAgrees (lib : Library) (s : Store) (chainId : Id) : Prop :=
  ∀ ch gate tierDef idx policy, s.chains.get? chainId = some ch →
    s.gates.get? ch.approvalGateId = some gate → gate.gateStatus.isOpen = false →
    ch.chainStatus ≠ .completed → ch.chainStatus ≠ .failed →
    findTierDefinition ch.approvalChainDefinition ch.currentTier = some (tierDef, idx) →
    (∀ c, s.cases.get? ch.caseId = some c → ¬ Skippable lib c.metadata tierDef) →
    tierPolicy s ch tierDef = .ok policy →
    ((evaluatePolicyCounts policy 0
        (loadTierCounts s ch.approvalGateId tierDef.tier)).failed = true →
      gate.gateStatus = .failed) ∧
    ((evaluatePolicyCounts policy 0
        (loadTierCounts s ch.approvalGateId tierDef.tier)).satisfied = true →
      idx = ch.approvalChainDefinition.length - 1 → gate.gateStatus = .satisfied)

def ClosingOp.Respects (lib : Library) (s : Store) : ClosingOp → Prop
  | .evaluatePolicy _ _ => True
  | .walkChain _ chainId => ChainAgrees lib s chainId
  | .activate _ gateId => ∀ gate, s.gates.get? gateId = some gate →
      gate.gateStatus.isOpen = false → gate.gateStatus = .satisfied ∨ gate.gateStatus = .failed
  | .activateForTask _ _ _ gateId => ∀ gate, s.gates.get? gateId = some gate →
      gate.gateStatus ≠ .cancelled
  | .rework _ caseId gateId _ _ _ => ∀ gate c, s.gates.get? gateId = some gate →
      s.cases.get? caseId = some c → gate.gateStatus.isOpen = false →
      gate.gateStatus = .rejectedReworkInitiated ∨ ReworkExhausted c
  | .rejectTerminally _ _ gateId _ _ => ∀ gate, s.gates.get? gateId = some gate →
      gate.gateStatus.isOpen = false → gate.gateStatus = .failed

/-! ## Single steps -/

section Steps

variable {lib : Library} {s s' : Store} {gate : ApprovalGate}

theorem StaysClosed.of_gates (h : s'.gates = s.gates) : StaysClosed s s' := by
  intro gateId status hstatus _
  unfold gateStatus? at hstatus ⊢
  rw [h]
  exact hstatus

/-- Rewriting one gate without changing its status if it is closed. -/
theorem StaysClosed.of_updateAt (k : Id) (f : ApprovalGate → ApprovalGate)
    (hgates : s'.gates = s.gates.updateAt k f)
    (hf : ∀ gate, s.gates.get? k = some gate → gate.gateStatus.isOpen = false →
      (f gate).gateStatus = gate.gateStatus) : StaysClosed s s' := by
  intro gateId status hstatus hclosed
  obtain ⟨gate, hget, rfl⟩ := gateStatus?_eq_some.mp hstatus
  unfold gateStatus?
  rw [hgates]
  by_cases hk : gateId = k
  · subst hk
    rw [Table.get?_updateAt_self, hget]
    exact congrArg some (hf gate hget hclosed)
  · rw [Table.get?_updateAt_ne hk, hget]
    rfl

/-- `closeGate` hits open gates only. -/
theorem PolicyStep.staysClosed {b : Bool}
    (hget : s.gates.get? gateId = some gate) (h : PolicyStep s now gateId gate b s') :
    StaysClosed s s' := by
  have hnone : gate.gateStatus.isOpen = true → ∀ status, ∀ g, s.gates.get? gateId = some g →
      g.gateStatus.isOpen = false → (g.close status now).gateStatus = g.gateStatus := by
    intro hopen status g hg hclosed
    obtain rfl := Option.mem_unique hget hg
    rw [hopen] at hclosed
    cases hclosed
  cases h with
  | unchanged => exact .of_gates rfl
  | failed e hopen => exact .of_updateAt gateId _ rfl (hnone hopen .failed)
  | satisfied e hopen => exact .of_updateAt gateId _ rfl (hnone hopen .satisfied)

/-- A walk that agrees with a closed gate leaves it as it is. -/
theorem evaluateApprovalChain_staysClosed (h : evaluateApprovalChain lib s now chainId = .ok s')
    (hagrees : ChainAgrees lib s chainId) : StaysClosed s s' := by
  obtain ⟨ch, hch, rfl | ⟨status, next, last, rfl⟩ |
    ⟨c, tierDef, idx, hrunning, hc, hfind, hskip, hrequired, h⟩⟩ := evaluateApprovalChain_walk h
  · exact .of_gates rfl
  · exact .of_gates rfl
  have hkept : ∀ c', s.cases.get? ch.caseId = some c' → ¬ Skippable lib c'.metadata tierDef := by
    intro c' hc'
    obtain rfl := Option.mem_unique hc hc'
    simp [Skippable, hskip, hrequired]
  cases settleTier_step hrunning hfind h with
  | unchanged => exact .of_gates rfl
  | moved => exact .of_gates rfl
  | failed tierDef' idx' policy e _ hfind' hpolicy hcounts =>
    obtain ⟨rfl, rfl⟩ := Prod.mk.inj (Option.mem_unique hfind hfind')
    refine .of_updateAt ch.approvalGateId (·.close .failed now) rfl ?_
    intro gate hget hclosed
    exact ((hagrees ch gate _ _ policy hch hget hclosed hrunning.1 hrunning.2 hfind hkept
      hpolicy).1 hcounts).symm
  | satisfied tierDef' idx' policy next e hfind' hlast hpolicy hcounts =>
    obtain ⟨rfl, rfl⟩ := Prod.mk.inj (Option.mem_unique hfind hfind')
    refine .of_updateAt ch.approvalGateId (·.close .satisfied now) rfl ?_
    intro gate hget hclosed
    exact ((hagrees ch gate _ _ policy hch hget hclosed hrunning.1 hrunning.2 hfind hkept
      hpolicy).2 hcounts hlast).symm

variable {ctx : Ctx}

theorem ActivationStep.staysClosed
    (hstep : ActivationStep s ctx gateId gate s')
    (hopen : ∀ g, s.gates.get? gateId = some g → g.gateStatus.isOpen = false →
      (g.activate ctx.now).gateStatus = g.gateStatus) : StaysClosed s s' := by
  cases hstep with
  | unchanged => exact .of_gates rfl
  | _ => exact .of_updateAt gateId _ rfl hopen

/-- An activation that would let a closed gate through has to find it satisfied or failed. -/
theorem activateApprovalGate_staysClosed
    (hrespects : ∀ gate, s.gates.get? gateId = some gate → gate.gateStatus.isOpen = false →
      gate.gateStatus = .satisfied ∨ gate.gateStatus = .failed)
    (h : activateApprovalGate ctx gateId s = .ok s') : StaysClosed s s' := by
  obtain ⟨gate, hget, hstep⟩ := activateApprovalGate_step h
  by_cases hclosed : gate.gateStatus.isOpen = false
  · -- the first check of the function lets a satisfied or failed gate be
    have hdone := hrespects gate hget hclosed
    unfold activateApprovalGate at h
    simp only [hget, orFail, bind, Except.bind, if_pos hdone] at h
    exact .of_gates (congrArg Store.gates (Except.ok.inj h).symm)
  · refine hstep.staysClosed fun g hg hcon => ?_
    obtain rfl := Option.mem_unique hget hg
    exact absurd hcon hclosed

/-- The activation by the task repository turns all closed statuses down but one. -/
theorem repoActivateApprovalGate_staysClosed {taskId : Id}
    (hrespects : ∀ gate, s.gates.get? gateId = some gate → gate.gateStatus ≠ .cancelled)
    (h : repoActivateApprovalGate ctx taskId caseId gateId s = .ok s') : StaysClosed s s' := by
  obtain ⟨gate, hget, hstep⟩ := repoActivateApprovalGate_step h
  by_cases hsat : gate.gateStatus = .satisfied
  · unfold repoActivateApprovalGate at h
    simp only [hget, orFail, bind, Except.bind, if_pos hsat] at h
    exact .of_gates (congrArg Store.gates (Except.ok.inj h).symm)
  have hrefused : gate.gateStatus.isRefused = false := by
    by_contra hcon
    rw [Bool.not_eq_false] at hcon
    unfold repoActivateApprovalGate at h
    simp only [hget, orFail, bind, Except.bind, if_neg hsat, if_pos hcon] at h
    cases h
  refine hstep.staysClosed fun g hg hcon => ?_
  obtain rfl := Option.mem_unique hget hg
  have hcancelled := hrespects gate hget
  cases hstatus : gate.gateStatus <;> simp_all [GateStatus.isOpen, GateStatus.isRefused]

theorem sendCaseToRework_staysClosed {target reason rejectedBy : String}
    (hrespects : ∀ gate c, s.gates.get? gateId = some gate → s.cases.get? caseId = some c →
      gate.gateStatus.isOpen = false →
      gate.gateStatus = .rejectedReworkInitiated ∨ ReworkExhausted c)
    (h : sendCaseToRework s now caseId gateId target reason rejectedBy = .ok s') :
    StaysClosed s s' := by
  obtain ⟨c, hc, h⟩ := bind_ok h
  dsimp only at h
  split at h
  · cases h
    exact .of_gates rfl
  next hleft =>
  obtain ⟨ct, -, h⟩ := bind_ok h
  obtain ⟨st, -, h⟩ := bind_ok h
  cases h
  refine .of_updateAt gateId (·.close .rejectedReworkInitiated now) rfl ?_
  intro gate hget hclosed
  rcases hrespects gate c hget (orFail_eq_ok.mp hc) hclosed with hsame | hused
  · exact hsame.symm
  · exact absurd hused hleft

theorem rejectCaseTerminally_staysClosed {reason rejectedBy : String}
    (hrespects : ∀ gate, s.gates.get? gateId = some gate → gate.gateStatus.isOpen = false →
      gate.gateStatus = .failed) :
    StaysClosed s (rejectCaseTerminally s now caseId gateId reason rejectedBy) :=
  .of_updateAt gateId (·.close .failed now) rfl
    (fun gate hget hclosed => (hrespects gate hget hclosed).symm)

/-- A step that respects closed gates leaves them as they are. -/
theorem ClosingOp.Respects.staysClosed {op : ClosingOp} (hrespects : op.Respects lib s)
    (h : op.exec lib s = .ok s') : StaysClosed s s' := by
  cases op with
  | evaluatePolicy now gateId =>
    obtain ⟨⟨satisfied, s'⟩, heval, rfl⟩ := map_eq_ok.mp h
    obtain ⟨gate, hget, hstep⟩ := evaluateApprovalPolicy_step heval
    exact hstep.staysClosed hget
  | walkChain now chainId => exact evaluateApprovalChain_staysClosed h hrespects
  | activate ctx gateId => exact activateApprovalGate_staysClosed hrespects h
  | activateForTask ctx taskId caseId gateId =>
    exact repoActivateApprovalGate_staysClosed hrespects h
  | rework now caseId gateId target reason rejectedBy =>
    exact sendCaseToRework_staysClosed hrespects h
  | rejectTerminally now caseId gateId reason rejectedBy =>
    obtain rfl := Except.ok.inj h
    exact rejectCaseTerminally_staysClosed hrespects

end Steps

/-- **Closed gates stay closed**, in every run whose steps respect them. -/
theorem closed_gates_stay_closed (lib : Library) {s : Store} {ops : List ClosingOp}
    (h : Guarded (ClosingOp.exec lib) (fun s op => op.Respects lib s) s ops) :
    Along (ClosingOp.exec lib) (fun s _ s' => StaysClosed s s') s ops :=
  Guarded.along_of_step (fun _ _ _ hrespects hok => hrespects.staysClosed hok)
    (fun _ _ => .of_gates rfl) h

/-! ## A rejected review -/

/-- A case in the stage `S`, with a gate where all must approve and one approver rejected. -/
def rejectedReview : Store where
  caseTypes := Table.empty.insert
    { code := "LOAN", config := { stages := [{ code := "S", sequenceOrder := 1 }] } }
  cases := Table.empty.insert { caseTypeId := 0, currentStageCode := some "S", status := .inProgress }
  tasks := Table.empty.insert
    { caseId := 0, taskDefinitionCode := "REVIEW", activityCode := "A", stageCode := "S"
      requiresApproval := true, approvalGateId := some 0, status := .awaitingExternal
      idempotencyKey := "0:S:A:REVIEW" }
  gates := Table.empty.insert
    { taskId := 0, caseId := 0, approvalPolicy := .allMustApprove, requiredApproverCount := 1
      approvers := ["ann"], gateStatus := .active, reworkTargetStageCode := some "S" }
  requests := Table.empty.insert { approvalGateId := 0, approverId := "ann", status := .rejected }

/-- A terminal rejection writes the status that the evaluation wrote before. -/
theorem closed_gates_stay_closed_terminal :
    Along (ClosingOp.exec Library.plain) (fun s _ s' => StaysClosed s s') rejectedReview
      [.evaluatePolicy 1 0, .rejectTerminally 2 0 0 "no" "ann"] := by
  refine closed_gates_stay_closed Library.plain ⟨trivial, ?_, trivial⟩
  intro gate hget _
  obtain rfl := Option.some.inj hget
  rfl

/-- A failed gate is sent to rework and then opened again. -/
theorem closed_gate_reopened : let ops : List ClosingOp :=
      [.evaluatePolicy 1 0, .rework 2 0 0 "S" "no" "ann", .activate (Ctx.plain 3) 0]
    let after := fun n => gateStatus? (run (ClosingOp.exec Library.plain) rejectedReview
      (ops.take n)) 0
    after 1 = some .failed ∧ after 2 = some .rejectedReworkInitiated ∧ after 3 = some .active ∧
      ¬ Along (ClosingOp.exec Library.plain) (fun s _ s' => StaysClosed s s')
        rejectedReview ops := by
  refine ⟨by decide, by decide, by decide, ?_⟩
  rintro ⟨-, hrework, -⟩
  have hkept := hrework 0 .failed (by decide) rfl
  revert hkept
  decide

end LoanWorkflow
