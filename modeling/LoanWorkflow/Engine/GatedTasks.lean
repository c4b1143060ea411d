import LoanWorkflow.Approval.ExpirySweep
import LoanWorkflow.Framework.Machine
import LoanWorkflow.Integration.ExternalCompletion
import LoanWorkflow.Versioning.Validation

/-! # Tasks behind approval gates

    A task whose definition asks for an approval is completed only behind a
    satisfied gate. The check sits in `updateTaskStatus` and reads two columns
    of the task, so every operation that writes task rows has to carry them.

    - `no_approval_bypass`: the property in every state of a guarded run
-/

namespace LoanWorkflow

open List Table Machine

variable {gate : ApprovalGate} {c : CaseInstance} {ctx : Ctx} {caseId gateId k taskId : Id}
  {now : Instant} {lib : Library} {x : Option Id} {t : Task}
variable {g₀ : ApprovalGate} {b : Bool} {config : CaseTypeConfig} {errorDetail output : Option Json}
  {s s' : Store} {t' : Task} {f : Task → Task} {newStatus : TaskStatus}

/-! ## The machine -/

inductive ApprovalOp where
  | createTasksForStage (ctx : Ctx) (caseId : Id) (stageCode : String)
  | cloneCase (ctx : Ctx) (caseId : Id)
  | updateTaskStatus (ctx : Ctx) (taskId : Id) (newStatus : TaskStatus)
      (output errorDetail : Option Json)
  | completeTaskFromExternal (ctx : Ctx) (tenant : Option String) (idempotencyKey : String)
      (output : ExternalTaskCompletion)
  | activateApprovalGate (ctx : Ctx) (gateId : Id)
  | decideRequest (ctx : Ctx) (verdict : Verdict) (input : DecideInput)
  | delegateRequest (ctx : Ctx) (input : DelegateInput)
  | expirySweep (ctx : Ctx) (locked : Id → Bool) (batchSize : Nat)

/-- Create the tasks of a stage of the stored configuration, as both callers of
    `CreateTasksForStage` do. -/
def enterStage (lib : Library) (ctx : Ctx) (caseId : Id) (stageCode : String) (s : Store) :
    Except Err Store := do
  let c ← orFail (s.cases.get? caseId) "failed to load case: no rows in result set"
  let ct ← orFail (s.caseTypes.get? c.caseTypeId) "failed to load case_type: no rows in result set"
  let st ← orFail (findStage ct.config stageCode)
    ("stage " ++ stageCode ++ " not found in case_type config")
  createTasksForStage lib ctx caseId stageCode st ct.config s

def ApprovalOp.exec (lib : Library) : ApprovalOp → Store → Except Err Store
  | .createTasksForStage ctx caseId stageCode => enterStage lib ctx caseId stageCode
  | .cloneCase ctx caseId => LoanWorkflow.cloneCase ctx caseId
  | .updateTaskStatus ctx taskId newStatus output errorDetail =>
    LoanWorkflow.updateTaskStatus lib ctx taskId newStatus output errorDetail
  | .completeTaskFromExternal ctx tenant idempotencyKey output =>
    LoanWorkflow.completeTaskFromExternal ctx tenant idempotencyKey output
  | .activateApprovalGate ctx gateId => LoanWorkflow.activateApprovalGate ctx gateId
  | .decideRequest ctx verdict input => LoanWorkflow.decideRequest lib ctx verdict input
  | .delegateRequest ctx input => LoanWorkflow.delegateRequest ctx input
  | .expirySweep ctx locked batchSize => LoanWorkflow.expirySweep ctx locked batchSize

/-! ## The property -/

/-- The configuration has a task definition at this place that asks for an approval. -/
def ApprovalDefined (config : CaseTypeConfig) (stageCode activityCode taskCode : String) : Prop :=
  ∃ st ∈ config.stages, st.code = stageCode ∧ ∃ entry ∈ st.definitions,
    entry.1.code = activityCode ∧ entry.2.code = taskCode ∧ entry.2.needsApproval = true

/-- The definition of a task in the configuration of its case asks for an approval. -/
def NeedsApproval (s : Store) (t : Task) : Prop :=
  ∃ c ct, s.cases.get? t.caseId = some c ∧ s.caseTypes.get? c.caseTypeId = some ct ∧
    ApprovalDefined ct.config t.stageCode t.activityCode t.taskDefinitionCode

/-- Every completed task that needs an approval has a satisfied gate. -/
def NoBypass (s : Store) : Prop :=
  ∀ k t, s.tasks.get? k = some t → t.status = .completed → NeedsApproval s t →
    ∃ gateId gate, s.gates.get? gateId = some gate ∧ gate.taskId = k ∧
      gate.gateStatus = .satisfied

/-- The task has its columns set and points at its own gate, which is satisfied once the task
    is completed. -/
def Linked (s : Store) (k : Id) (t : Task) : Prop :=
  t.requiresApproval = true ∧ ∃ gateId gate, t.approvalGateId = some gateId ∧
    s.gates.get? gateId = some gate ∧ gate.taskId = k ∧
    (t.status = .completed → gate.gateStatus = .satisfied)

/-- The invariant: a task has at most one gate, every task belongs to a case, and a task that
    needs an approval is linked. The task under `x` may still wait for its link. -/
structure Gated (x : Option Id) (s : Store) : Prop where
  unique : ∀ i j g h, s.gates.get? i = some g → s.gates.get? j = some h → g.taskId = h.taskId →
    i = j
  owned : ∀ k t, s.tasks.get? k = some t → ∃ c, s.cases.get? t.caseId = some c
  linked : ∀ k t, s.tasks.get? k = some t → NeedsApproval s t →
    Linked s k t ∨ x = some k ∧ t.status ≠ .completed

theorem Gated.noBypass (h : Gated none s) : NoBypass s := by
  intro k t hget hcompleted hneeds
  rcases h.linked k t hget hneeds with ⟨-, gateId, gate, -, hgate, hown, hpassed⟩ | ⟨hnone, -⟩
  · exact ⟨gateId, gate, hgate, hown, hpassed hcompleted⟩
  · cases hnone

/-- What the invariant says of one task. -/
def GatedTask (x : Option Id) (s : Store) (k : Id) (t : Task) : Prop :=
  (∃ c, s.cases.get? t.caseId = some c) ∧
    (NeedsApproval s t → Linked s k t ∨ x = some k ∧ t.status ≠ .completed)

theorem Gated.of_tasks (hunique : ∀ i j g h, s.gates.get? i = some g → s.gates.get? j = some h →
    g.taskId = h.taskId → i = j)
    (htasks : ∀ k t, s.tasks.get? k = some t → GatedTask x s k t) : Gated x s :=
  ⟨hunique, fun k t hk => (htasks k t hk).1, fun k t hk => (htasks k t hk).2⟩

theorem Gated.task (h : Gated none s) (hget : s.tasks.get? k = some t) : GatedTask x s k t :=
  ⟨h.owned k t hget, fun hneeds => (h.linked k t hget hneeds).imp_right fun hnone => nomatch hnone.1⟩

/-- A configuration does not define one task twice, once with and once without approval. -/
def Consistent (config : CaseTypeConfig) : Prop :=
  ∀ st ∈ config.stages, ∀ st' ∈ config.stages, st.code = st'.code →
    ∀ entry ∈ st.definitions, ∀ entry' ∈ st'.definitions, entry.1.code = entry'.1.code →
      entry.2.code = entry'.2.code → entry.2.needsApproval = entry'.2.needsApproval

/-- All configurations in use are consistent. -/
def ConsistentTypes (s : Store) : Prop :=
  ∀ k ct, s.caseTypes.get? k = some ct → Consistent ct.config

/-- A task that needs an approval and is completed. -/
def Passed (s : Store) (taskId : Id) : Prop :=
  ∃ t, s.tasks.get? taskId = some t ∧ t.status = .completed ∧ NeedsApproval s t

/-- The current tier of a running chain of the gate fails on the votes cast so far. -/
def TierFails (s : Store) (gateId : Id) : Prop :=
  ∃ chainId ch tierDef idx policy, s.chains.get? chainId = some ch ∧ ch.approvalGateId = gateId ∧
    (ch.chainStatus ≠ .completed ∧ ch.chainStatus ≠ .failed) ∧
    findTierDefinition ch.approvalChainDefinition ch.currentTier = some (tierDef, idx) ∧
    tierPolicy s ch tierDef = .ok policy ∧
    (evaluatePolicyCounts policy 0 (loadTierCounts s gateId tierDef.tier)).failed = true

/-- What the operations do not check: a clone has no task that needs an approval, an external
    completion passes the check of `updateTaskStatus`, and no vote fails a tier of a gate whose
    task is completed. -/
def ApprovalOp.Guards (s : Store) : ApprovalOp → Prop
  | .cloneCase _ caseId =>
    ∀ k t, s.tasks.get? k = some t → t.caseId = caseId → ¬ NeedsApproval s t
  | .completeTaskFromExternal _ _ _ output =>
    ∀ taskId t, output.taskId = some taskId → s.tasks.get? taskId = some t →
      output.status = .completed → NeedsApproval s t →
        ensureApproved s taskId t .completed = .ok ()
  | .decideRequest ctx verdict input =>
    ∀ r gate, s.requests.get? input.requestId = some r →
      s.gates.get? r.approvalGateId = some gate → Passed s gate.taskId →
        ¬ TierFails (recordDecision s ctx.now r.approvalGateId gate verdict input) r.approvalGateId
  | _ => True

/-! ## Frames -/

def Task.credentials (t : Task) : TaskOrigin × Bool × Option Id × Bool :=
  (t.origin, t.requiresApproval, t.approvalGateId, t.status == .completed)

/-- No task is added, linked or completed, no gate changes hands, and the gate of a completed
    task stays satisfied. -/
structure GateFrame (s s' : Store) : Prop where
  tasks : s.tasks.Grows Task.credentials (fun _ => False) s'.tasks
  gates : s.gates.Grows ApprovalGate.taskId (fun _ => False) s'.gates
  cases : s.cases.Grows CaseInstance.caseTypeId (fun _ => False) s'.cases
  caseTypes : s'.caseTypes = s.caseTypes
  satisfied : ∀ k g g', s.gates.get? k = some g → s'.gates.get? k = some g' →
    g.gateStatus = .satisfied → Passed s g.taskId → g'.gateStatus = .satisfied

/-- What equal credentials say. -/
theorem Task.credentials_eq (h : t'.credentials = t.credentials) :
    t'.caseId = t.caseId ∧ t'.stageCode = t.stageCode ∧ t'.activityCode = t.activityCode ∧
      t'.taskDefinitionCode = t.taskDefinitionCode ∧ t'.requiresApproval = t.requiresApproval ∧
      t'.approvalGateId = t.approvalGateId ∧ (t'.status = .completed ↔ t.status = .completed) := by
  simp only [Task.credentials, Task.origin, Prod.mk.injEq, TaskOrigin.mk.injEq] at h
  obtain ⟨⟨-, hcase, hstage, hactivity, hcode⟩, hrequires, hgate, hcompleted⟩ := h
  refine ⟨hcase, hstage, hactivity, hcode, hrequires, hgate, ?_⟩
  rw [← beq_iff_eq, hcompleted, beq_iff_eq]

/-- Need of an approval goes back over a frame. -/
theorem needsApproval_of_frame
    (hcases : s.cases.Grows CaseInstance.caseTypeId (fun _ => False) s'.cases)
    (htypes : s'.caseTypes = s.caseTypes) (hcredentials : t'.credentials = t.credentials)
    (h : NeedsApproval s' t') : NeedsApproval s t := by
  obtain ⟨hcase, hstage, hactivity, hcode, -⟩ := Task.credentials_eq hcredentials
  obtain ⟨c', ct, hc', hct, hdefined⟩ := h
  rw [hcase] at hc'
  rw [htypes] at hct
  rw [hstage, hactivity, hcode] at hdefined
  obtain ⟨c, hc, htype⟩ := hcases.old hc'
  rw [htype] at hct
  exact ⟨c, ct, hc, hct, hdefined⟩

/-- The invariant over a frame. -/
theorem GateFrame.gated (h : GateFrame s s') (hinv : Gated x s) : Gated x s' := by
  apply Gated.of_tasks
  · intro i j g' h' hg' hh' htask
    obtain ⟨g, hg, hgtask⟩ := h.gates.old hg'
    obtain ⟨g₂, hg₂, htask₂⟩ := h.gates.old hh'
    exact hinv.unique i j g g₂ hg hg₂ (by rw [← hgtask, htask, htask₂])
  · intro k t' hget'
    obtain ⟨t, hget, hcredentials⟩ := h.tasks.old hget'
    obtain ⟨hcase, -, -, -, hrequires, hgateId, hcompleted⟩ := Task.credentials_eq hcredentials
    obtain ⟨c, hc⟩ := hinv.owned k t hget
    obtain ⟨c', hc', -⟩ := h.cases.keeps _ c hc
    refine ⟨⟨c', hcase ▸ hc'⟩, fun hneeds' => ?_⟩
    have hneeds := needsApproval_of_frame h.cases h.caseTypes hcredentials hneeds'
    rcases hinv.linked k t hget hneeds with ⟨hr, gateId, g, hlink, hg, hown, hpassed⟩ | ⟨hx, hopen⟩
    · -- the link stays, and the gate of a completed task stays satisfied
      obtain ⟨g', hg', htask⟩ := h.gates.keeps gateId g hg
      refine Or.inl ⟨hrequires.trans hr, gateId, g', hgateId.trans hlink, hg', htask.trans hown, ?_⟩
      intro hdone
      have hdone' := hcompleted.mp hdone
      exact h.satisfied gateId g g' hg hg' (hpassed hdone') ⟨t, hown ▸ hget, hdone', hneeds⟩
    · exact Or.inr ⟨hx, fun hdone => hopen (hcompleted.mp hdone)⟩

namespace GateFrame

/-- Only tasks changed, outside of their credentials. -/
theorem of_tasks (htasks : s.tasks.Grows Task.credentials (fun _ => False) s'.tasks)
    (hgates : s'.gates = s.gates) (hcases : s'.cases = s.cases)
    (htypes : s'.caseTypes = s.caseTypes) : GateFrame s s' := by
  refine ⟨htasks, .of_eq hgates, .of_eq hcases, htypes, ?_⟩
  intro k g g' hg hg' hsatisfied _
  rw [hgates, hg] at hg'
  cases hg'
  exact hsatisfied

theorem refl (s : Store) : GateFrame s s := of_tasks (.refl _ _ _) rfl rfl rfl

theorem updateTask (s : Store) (k : Id)
    (hf : ∀ t, (f t).credentials = t.credentials) : GateFrame s (s.updateTask k f) :=
  of_tasks (.updateAt hf) rfl rfl rfl

/-- Rewriting a gate: if its task has passed it, it stays satisfied. -/
theorem updateGate {f : ApprovalGate → ApprovalGate}
    (hf : ∀ g, (f g).taskId = g.taskId) (hget : s.gates.get? k = some g₀)
    (hsafe : g₀.gateStatus = .satisfied → Passed s g₀.taskId → (f g₀).gateStatus = .satisfied) :
    GateFrame s (s.updateGate k f) := by
  refine ⟨.refl _ _ _, .updateAt hf, .refl _ _ _, rfl, ?_⟩
  intro j g g' hg hg' hsatisfied hpassed
  rcases get?_updateAt_cases hget hg' with ⟨rfl, rfl⟩ | ⟨-, hsame⟩
  · obtain rfl := Option.mem_unique hget hg
    exact hsafe hsatisfied hpassed
  · obtain rfl := Option.mem_unique hg hsame
    exact hsatisfied

theorem of_clock (h : ClockFrame s s') : GateFrame s s' := by
  refine of_tasks ?_ h.gates h.cases h.caseTypes
  exact h.tasks.comp (fun x : TaskOrigin × TaskStatus × Bool × Option Id =>
    (x.1, x.2.2.1, x.2.2.2, x.2.1 == .completed)) fun _ => id

end GateFrame

/-- Other tables do not matter to the invariant. -/
theorem Gated.of_eq (hinv : Gated x s) (htasks : s'.tasks = s.tasks) (hgates : s'.gates = s.gates)
    (hcases : s'.cases = s.cases) (htypes : s'.caseTypes = s.caseTypes) : Gated x s' :=
  (GateFrame.of_tasks (.of_eq htasks) hgates hcases htypes).gated hinv

/-! ## Votes and sweeps -/

theorem Task.awaitApproval_credentials
    (t : Task) : t.awaitApproval.credentials = t.credentials := by
  simp only [Task.awaitApproval, Task.credentials, Task.origin]
  split
  · next h => rw [h]; rfl
  · rfl

theorem Task.unblock_credentials (t : Task) : t.unblock.credentials = t.credentials := by
  simp only [Task.unblock, Task.credentials]
  split
  · next h => rw [h]; rfl
  · rfl

theorem Task.cancel_credentials (h : t.status.isTerminal = false) (reason : String)
    (now : Instant) : (t.cancel reason now).credentials = t.credentials := by
  have hopen : (t.status == .completed) = false := by
    cases hstatus : t.status <;> first | rfl | rw [hstatus] at h; cases h
  simp only [Task.credentials, hopen]
  rfl

theorem ActivationStep.gated (h : ActivationStep s ctx gateId gate s')
    (hget : s.gates.get? gateId = some g₀) (hstatus : g₀.gateStatus = gate.gateStatus)
    (hinv : Gated x s) : Gated x s' := by
  have hreopened : gate.gateStatus ≠ .satisfied →
      Gated x (s.updateGate gateId (fun g => g.activate ctx.now)) := by
    intro hopen
    exact (GateFrame.updateGate (f := fun g => g.activate ctx.now) (fun _ => rfl) hget
      (fun hs _ => absurd (hstatus.symm.trans hs) hopen)).gated hinv
  cases h with
  | unchanged => exact hinv
  | reopened hopen => exact hreopened hopen
  | opened c approvers expiresAt outbox hopen =>
    have hwaits := (GateFrame.updateTask (s.updateGate gateId (fun g => g.activate ctx.now))
      gate.taskId Task.awaitApproval_credentials).gated (hreopened hopen)
    exact hwaits.of_eq rfl rfl rfl rfl

theorem PolicyStep.gated (h : PolicyStep s now gateId gate b s')
    (hget : s.gates.get? gateId = some gate) (hinv : Gated x s) : Gated x s' := by
  have hclosed : ∀ status, gate.gateStatus.isOpen = true →
      Gated x (s.updateGate gateId (fun g => g.close status now)) := by
    intro status hopen
    have hne : gate.gateStatus ≠ .satisfied := fun hs => by rw [hs] at hopen; cases hopen
    exact (GateFrame.updateGate (f := fun g => g.close status now) (fun _ => rfl) hget
      (fun hs _ => absurd hs hne)).gated hinv
  cases h with
  | unchanged => exact hinv
  | failed e hopen => exact (hclosed .failed hopen).of_eq rfl rfl rfl rfl
  | satisfied e hopen =>
    have hunblocked := (GateFrame.updateTask
      (s.updateGate gateId (fun g => g.close .satisfied now)) gate.taskId
      Task.unblock_credentials).gated (hclosed .satisfied hopen)
    exact hunblocked.of_eq rfl rfl rfl rfl

theorem CandidateStep.gated {cand : ExpiryCandidate}
    (h : CandidateStep ctx cand s s') (hinv : Gated x s) : Gated x s' := by
  cases h with
  | skipped => exact hinv
  | logged => exact hinv.of_eq rfl rfl rfl rfl
  | evaluated r t outbox gate b s' hget hpending hmove hgate hpolicy =>
    refine hpolicy.gated hgate ?_
    exact hinv.of_eq rfl rfl rfl rfl

/-- Walking the chain of a gate keeps the invariant, unless it fails the gate of a completed
    task. -/
theorem ChainStep.gated {chainId : Id} {ch : ApprovalChainState} (h : ChainStep s now chainId ch s')
    (hchain : s.chains.get? chainId = some ch) (hget : s.gates.get? ch.approvalGateId = some gate)
    (hsafe : Passed s gate.taskId → ¬ TierFails s ch.approvalGateId) (hinv : Gated x s) :
    Gated x s' := by
  have hclosed : ∀ status, (Passed s gate.taskId → status = .satisfied) →
      Gated x (s.updateGate ch.approvalGateId (fun g => g.close status now)) := by
    intro status hstatus
    exact (GateFrame.updateGate (f := fun g => g.close status now) (fun _ => rfl) hget
      (fun _ hpassed => hstatus hpassed)).gated hinv
  cases h with
  | unchanged => exact hinv
  | moved => exact hinv.of_eq rfl rfl rfl rfl
  | failed tierDef idx policy e hrunning hfind hpolicy hcounts =>
    have hfails : TierFails s ch.approvalGateId :=
      ⟨chainId, ch, tierDef, idx, policy, hchain, rfl, hrunning, hfind, hpolicy, hcounts⟩
    exact (hclosed .failed (fun hp => absurd hfails (hsafe hp))).of_eq rfl rfl rfl rfl
  | satisfied => exact (hclosed .satisfied (fun _ => rfl)).of_eq rfl rfl rfl rfl

/-- A rejection closes a gate that no task has passed and cancels unfinished tasks. -/
theorem RejectionStep.gated (h : RejectionStep s now caseId gateId s')
    (hget : s.gates.get? gateId = some gate) (hsafe : ¬ Passed s gate.taskId)
    (hinv : Gated x s) : Gated x s' := by
  have htasks : s.tasks.Grows Task.credentials (fun _ => False) s'.tasks := by
    rcases h.tasks with hsame | ⟨p, reason, hcancelled⟩
    · exact .of_eq hsame
    · rw [hcancelled]
      exact .updateWhere_of (fun t hp => Task.cancel_credentials (by simpa using
        (Bool.and_eq_true_iff.mp hp).2) reason now)
  have hgates : GateFrame s { s with gates := s'.gates } := by
    rcases h.gates with hsame | ⟨status, -, -, -, hclosed⟩
    · rw [hsame]
      exact .refl s
    · rw [hclosed]
      exact .updateGate (f := fun g => g.close status now) (fun _ => rfl) hget
        (fun _ hpassed => absurd hpassed hsafe)
  have hcases : s.cases.Grows CaseInstance.caseTypeId (fun _ => False) s'.cases :=
    h.cases_grow.comp Prod.fst fun _ => id
  exact GateFrame.gated ⟨htasks, hgates.gates, hcases, h.caseTypes_eq, hgates.satisfied⟩ hinv

theorem Gated.satisfied_of_passed (hinv : Gated none s) (hget : s.gates.get? gateId = some gate)
    (hpassed : Passed s gate.taskId) : gate.gateStatus = .satisfied := by
  obtain ⟨t, ht, hcompleted, hneeds⟩ := hpassed
  rcases hinv.linked _ t ht hneeds with ⟨-, j, g, -, hg, hown, hsatisfied⟩ | ⟨hnone, -⟩
  · obtain rfl := hinv.unique j gateId g gate hg hget hown
    obtain rfl := Option.mem_unique hg hget
    exact hsatisfied hcompleted
  · cases hnone

/-- Steps that keep credentials let no further task pass. -/
theorem passed_of_frame (htasks : s.tasks.Grows Task.credentials (fun _ => False) s'.tasks)
    (hcases : s'.cases = s.cases) (htypes : s'.caseTypes = s.caseTypes) (h : Passed s' k) :
    Passed s k := by
  obtain ⟨t', ht', hcompleted, hneeds⟩ := h
  obtain ⟨t, ht, hcredentials⟩ := htasks.old ht'
  have hdone := (Task.credentials_eq hcredentials).2.2.2.2.2.2.mp hcompleted
  exact ⟨t, ht, hdone, needsApproval_of_frame (.of_eq hcases) htypes hcredentials hneeds⟩

theorem PolicyStep.tasks_grow (h : PolicyStep s now gateId gate b s') :
    s.tasks.Grows Task.credentials (fun _ => False) s'.tasks := by
  cases h with
  | unchanged => exact .refl _ _ _
  | failed => exact .refl _ _ _
  | satisfied => exact .updateAt Task.unblock_credentials

/-- A decision keeps the invariant, unless its vote fails a tier of a gate whose task is
    completed. -/
theorem DecideStep.gated {verdict : Verdict} {input : DecideInput}
    (h : DecideStep lib ctx verdict input s s')
    (hguard : ApprovalOp.Guards s (.decideRequest ctx verdict input)) (hinv : Gated none s) :
    Gated none s' := by
  have hrecorded : Gated none (recordDecision s ctx.now h.request.approvalGateId h.gate verdict
      input) := hinv.of_eq rfl rfl rfl rfl
  have hevaluated : Gated none h.evaluated := h.hpolicy.gated h.hgate hrecorded
  obtain ⟨gate₁, hgate₁, hterms₁⟩ := h.hpolicy.gates_keep _ _ h.hgate
  have htask₁ : gate₁.taskId = h.gate.taskId := congrArg Prod.fst hterms₁
  -- a gate that its task has passed is satisfied, and then the evaluation changes nothing
  have hback : ∀ k, Passed h.evaluated k → Passed s k := fun k =>
    passed_of_frame h.hpolicy.tasks_grow h.hpolicy.cases_eq h.hpolicy.caseTypes_eq
  have hquiet : Passed s h.gate.taskId → h.satisfied = true ∧ h.evaluated =
      recordDecision s ctx.now h.request.approvalGateId h.gate verdict input := by
    intro hpassed
    have hsatisfied := hinv.satisfied_of_passed h.hgate hpassed
    have hclosed : h.gate.gateStatus.isOpen = false := by rw [hsatisfied]; rfl
    generalize hb : h.satisfied = b
    generalize he : h.evaluated = e
    have hpolicy := h.hpolicy
    rw [hb, he] at hpolicy
    cases hpolicy with
    | unchanged b hb => exact ⟨hb hsatisfied, rfl⟩
    | failed e hopen => rw [hclosed] at hopen; cases hopen
    | satisfied e hopen => rw [hclosed] at hopen; cases hopen
  have hwalked : Gated none h.walked ∧ ∀ k, Passed h.walked k → Passed s k := by
    rcases h.hchain with heq | ⟨chainId, ch, hch, hgateId, hstep⟩
    · rw [heq]
      exact ⟨hevaluated, hback⟩
    · have hget : h.evaluated.gates.get? ch.approvalGateId = some gate₁ := by
        rw [hgateId]; exact hgate₁
      refine ⟨hstep.gated hch hget ?_ hevaluated, fun k hpassed => hback k ?_⟩
      · intro hpassed
        have hpassed' : Passed s h.gate.taskId := hback _ (htask₁ ▸ hpassed)
        rw [(hquiet hpassed').2, hgateId]
        exact hguard h.request h.gate h.hrequest h.hgate hpassed'
      · exact passed_of_frame (.of_eq hstep.tasks_eq) hstep.cases_eq hstep.caseTypes_eq hpassed
  rcases h.hrejection with heq | hstep
  · rw [heq]
    exact hwalked.1
  by_cases hsat : h.satisfied = true
  · rw [h.hsatisfied hsat]
    exact hwalked.1
  · -- a rejection runs only when the gate was not satisfied, so its task has not passed
    have hterms₂ : h.evaluated.gates.Keeps ApprovalGate.terms h.walked.gates := by
      rcases h.hchain with heq | ⟨chainId, ch, -, -, hchain⟩
      · exact .of_eq (congrArg Store.gates heq)
      · exact hchain.gates_keep
    obtain ⟨gate₂, hgate₂, hterms₂⟩ := hterms₂ _ _ hgate₁
    have htask₂ : gate₂.taskId = h.gate.taskId := (congrArg Prod.fst hterms₂).trans htask₁
    refine hstep.gated hgate₂ (fun hpassed => hsat ?_) hwalked.1
    exact (hquiet (htask₂ ▸ hwalked.2 _ hpassed)).1

/-! ## Status changes -/

/-- The part of a task that a status change keeps. -/
def Task.link (t : Task) : TaskOrigin × Bool × Option Id :=
  (t.origin, t.requiresApproval, t.approvalGateId)

variable (hinv : Gated none s)

include hinv

/-- Writing a status on a task: a task that is completed has passed its gate. -/
theorem Gated.writeStatus (hget : s.tasks.get? taskId = some t)
    (hlink : (f t).link = t.link)
    (hdone : (f t).status = .completed → NeedsApproval s t → ∃ gateId gate,
      t.approvalGateId = some gateId ∧ s.gates.get? gateId = some gate ∧
        gate.gateStatus = .satisfied) : Gated none (s.updateTask taskId f) := by
  simp only [Task.link, Task.origin, Prod.mk.injEq, TaskOrigin.mk.injEq] at hlink
  obtain ⟨⟨-, hcase, hstage, hactivity, hcode⟩, hrequires, hgateId⟩ := hlink
  refine .of_tasks hinv.unique fun k t' hk => ?_
  rcases get?_updateAt_cases hget hk with ⟨rfl, rfl⟩ | ⟨-, hsame⟩
  · refine ⟨hcase ▸ hinv.owned k t hget, ?_⟩
    rintro ⟨c, ct, hc, hct, hdefined⟩
    rw [hcase] at hc
    rw [hstage, hactivity, hcode] at hdefined
    have hneeds : NeedsApproval s t := ⟨c, ct, hc, hct, hdefined⟩
    rcases hinv.linked k t hget hneeds with ⟨hr, gateId, gate, hlink, hgate, hown, -⟩ | ⟨hnone, -⟩
    · refine Or.inl ⟨hrequires.trans hr, gateId, gate, hgateId.trans hlink, hgate, hown, ?_⟩
      intro hcompleted
      obtain ⟨gateId', gate', hlink', hgate', hsatisfied⟩ := hdone hcompleted hneeds
      obtain rfl := Option.mem_unique hlink hlink'
      obtain rfl := Option.mem_unique hgate hgate'
      exact hsatisfied
    · cases hnone
  · exact hinv.task hsame

/-- A task that needs an approval has the column that `updateTaskStatus` reads. -/
theorem Gated.requiresApproval
    (hget : s.tasks.get? k = some t) (hneeds : NeedsApproval s t) : t.requiresApproval = true := by
  rcases hinv.linked k t hget hneeds with ⟨hrequires, -⟩ | ⟨hnone, -⟩
  · exact hrequires
  · cases hnone

theorem updateTaskStatus_gated
    (h : updateTaskStatus lib ctx taskId newStatus output errorDetail s = .ok s') :
    Gated none s' := by
  obtain ⟨t, s₁, hget, -, happroved, hactivated, hclock⟩ := updateTaskStatus_step h
  have hwritten : Gated none
      (s.updateTask taskId (fun t => t.advance newStatus output errorDetail ctx.now)) := by
    refine hinv.writeStatus (f := fun t => t.advance newStatus output errorDetail ctx.now) hget
      rfl ?_
    intro hcompleted hneeds
    exact happroved hcompleted (hinv.requiresApproval hget hneeds)
  have hopened : Gated none s₁ := by
    rcases activateOnStart_step hactivated with rfl | ⟨gateId, gate, -, -, hgate, hstep⟩
    · exact hwritten
    · exact hstep.gated hgate rfl hwritten
  exact (GateFrame.of_clock hclock).gated hopened

theorem completeTaskFromExternal_gated {tenant : Option String} {idempotencyKey : String}
    {output : ExternalTaskCompletion}
    (hguard : ApprovalOp.Guards s (.completeTaskFromExternal ctx tenant idempotencyKey output))
    (h : completeTaskFromExternal ctx tenant idempotencyKey output s = .ok s') : Gated none s' := by
  obtain ⟨taskId, t, tenantId, keys, audit, htaken, -, hget, rfl⟩ := completeTaskFromExternal_step h
  have hwritten : Gated none (s.updateTask taskId
      (fun t => t.report output (output.completedAt.getD ctx.now))) := by
    refine hinv.writeStatus (f := fun t => t.report output (output.completedAt.getD ctx.now)) hget
      rfl ?_
    intro hcompleted hneeds
    -- the guard is the check that this path does not make
    exact ensureApproved_ok (hguard taskId t htaken.task hget hcompleted hneeds) rfl
      (hinv.requiresApproval hget hneeds)
  exact hwritten.of_eq rfl rfl rfl rfl

/-! ## Clones -/

theorem cloneCase_gated {sourceCaseId : Id}
    (hguard : ApprovalOp.Guards s (.cloneCase ctx sourceCaseId))
    (h : cloneCase ctx sourceCaseId s = .ok s') : Gated none s' := by
  obtain ⟨source, copies, outbox, hsource, rfl, rfl⟩ := cloneCase_step h
  refine .of_tasks hinv.unique fun k t' hk => ?_
  rcases mem_foldl_insert hk with hold | hnew
  · -- the case of an old task is an old case
    obtain ⟨c₀, hc₀⟩ := hinv.owned k t' hold
    refine ⟨⟨c₀, get?_insert_of_get? hc₀⟩, ?_⟩
    rintro ⟨c, ct, hc, hct, hdefined⟩
    obtain rfl := Option.mem_unique (get?_insert_of_get? hc₀) hc
    exact hinv.linked k t' hold ⟨c₀, ct, hc₀, hct, hdefined⟩
  · -- a copy has the type and the place of its source, which needs no approval
    obtain ⟨t, ht, rfl⟩ := mem_map.mp hnew
    obtain ⟨hcase, j, hj⟩ := mem_tasksOf ht
    refine ⟨⟨source.clone sourceCaseId ctx.now, by simp [Task.clone]⟩, ?_⟩
    rintro ⟨c, ct, hc, hct, hdefined⟩
    have hclone : c = source.clone sourceCaseId ctx.now := by
      simpa [Task.clone] using hc.symm
    rw [hclone] at hct
    have hsource' : s.cases.get? t.caseId = some source := by rw [hcase]; exact hsource
    exact absurd ⟨source, ct, hsource', hct, hdefined⟩ (hguard j t hj hcase)

/-! ## Creation -/

/-- A new task: if it needs an approval, it waits for its link. -/
theorem Gated.insertTask (hcase : s.cases.get? t.caseId = some c)
    (hopen : t.status ≠ .completed) (hx : NeedsApproval s t → x = some s.tasks.fresh) :
    Gated x { s with tasks := s.tasks.insert t } := by
  refine .of_tasks hinv.unique fun k t' hk => ?_
  change (s.tasks.insert t).get? k = some t' at hk
  rw [get?_insert] at hk
  split at hk
  · next hfresh =>
    cases hk
    exact ⟨⟨c, hcase⟩, fun hneeds => Or.inr ⟨hfresh ▸ hx hneeds, hopen⟩⟩
  · exact hinv.task hk

/-- Creating a task, or finding it under its key. -/
theorem createTask_gated {task : Task}
    (hcase : s.cases.get? task.caseId = some c) (hopen : task.status ≠ .completed)
    (hx : NeedsApproval s task → x = some (createTask s task).1) :
    Gated x (createTask s task).2 := by
  unfold createTask at hx ⊢
  split
  · -- the stored task is linked already, if it needs to be
    exact .of_tasks hinv.unique fun _ _ => hinv.task
  · next hfind =>
    rw [hfind] at hx
    exact hinv.insertTask hcase hopen hx

omit hinv

/-- Creating the gate of a task links it. -/
theorem CreationStep.gated
    {approval : ApprovalDefinition} {chain : List ApprovalChainTierDefinition}
    (step : CreationStep s s' now caseId taskId gateId approval chain)
    (hinv : Gated (some taskId) s) : Gated none s' := by
  obtain ⟨hothers, g', hg', htask', hupsert⟩ := upsertGate_step s step.row
  rw [← step.gates, step.key] at hothers
  rw [← step.gates, step.key] at hg'
  rw [step.row_task] at htask' hupsert
  rw [step.key] at hupsert
  -- a stored gate of the task is the one that was written
  have hown : ∀ j g, s.gates.get? j = some g → (g.taskId = taskId ↔ j = gateId) := by
    intro j g hg
    rcases hupsert with ⟨g₀, hg₀, htask₀, -⟩ | hnone
    · constructor
      · intro htask
        exact hinv.unique j gateId g g₀ hg hg₀ (htask.trans htask₀.symm)
      · rintro rfl
        obtain rfl := Option.mem_unique hg hg₀
        exact htask₀
    · exact iff_of_false (hnone j g hg).2 (hnone j g hg).1
  apply Gated.of_tasks
  · intro i j g h hg hh htask
    by_cases hi : i = gateId
    · by_cases hj : j = gateId
      · rw [hi, hj]
      · rw [hothers j hj] at hh
        rw [hi, hg'] at hg
        cases hg
        exact absurd ((hown j h hh).mp (htask.symm.trans htask')) hj
    · rw [hothers i hi] at hg
      by_cases hj : j = gateId
      · rw [hj, hg'] at hh
        cases hh
        exact absurd ((hown i g hg).mp (htask.trans htask')) hi
      · rw [hothers j hj] at hh
        exact hinv.unique i j g h hg hh htask
  · intro k t' hk
    rw [step.tasks, get?_updateAt] at hk
    unfold GatedTask NeedsApproval
    rw [step.cases, step.caseTypes]
    split at hk
    · -- the task itself: linked now, and its gate kept its status
      next hkey =>
      subst hkey
      obtain ⟨t, ht, rfl⟩ := Option.map_eq_some_iff.mp hk
      refine ⟨hinv.owned k t ht, fun hneeds => Or.inl ⟨rfl, gateId, g', rfl, hg', htask', ?_⟩⟩
      intro hcompleted
      rcases hinv.linked k t ht hneeds with ⟨-, j, g, -, hg, htask, hsat⟩ | ⟨-, hopen⟩
      · obtain rfl := (hown j g hg).mp htask
        rcases hupsert with ⟨g₀, hg₀, -, hstatus⟩ | hnone
        · obtain rfl := Option.mem_unique hg hg₀
          exact hstatus.trans (hsat hcompleted)
        · exact absurd rfl (hnone j g hg).1
      · exact absurd hcompleted hopen
    · -- another task keeps its gate, which is not the written one
      next hkey =>
      refine ⟨hinv.owned k t' hk, fun hneeds => ?_⟩
      rcases hinv.linked k t' hk hneeds with ⟨hr, j, g, hlink, hg, htask, hsat⟩ | ⟨hx, -⟩
      · have hj : j ≠ gateId := fun hj => hkey (htask.symm.trans ((hown j g hg).mpr hj))
        exact Or.inl ⟨hr, j, g, hlink, (hothers j hj).trans hg, htask, hsat⟩
      · exact absurd (Option.some.inj hx).symm hkey

theorem GateFrame.persistSLA (s : Store) (taskId : Id)
    (resolved : Option (SLADefinition × Deadline)) :
    GateFrame s (persistSLA s taskId resolved) := by
  cases resolved with
  | none => exact refl s
  | some r => exact updateTask s taskId fun _ => rfl

theorem GateFrame.assignDefaultTeam (lib : Library) (ctx : Ctx) (s : Store) (tenantId : String)
    (caseId taskId : Id) (taskDef : TaskDefinition) :
    GateFrame s (assignDefaultTeam lib ctx s tenantId caseId taskId taskDef) := by
  unfold LoanWorkflow.assignDefaultTeam
  simp only
  split
  · exact refl s
  · split
    · exact refl s
    · next teamId _ =>
      have hteam := updateTask s taskId (f := fun t => t.assignTeam teamId) fun _ => rfl
      exact of_tasks hteam.tasks rfl rfl rfl

/-- Creating the gate of a task if its definition asks for it. -/
theorem createGateIfNeeded_gated {taskDef : TaskDefinition} {amount : Option ℚ}
    (hinv : Gated (if taskDef.needsApproval then some taskId else none) s)
    (h : createGateIfNeeded ctx s caseId taskId taskDef config amount = .ok s') :
    Gated none s' := by
  rcases createGateIfNeeded_step h with ⟨hneeds, rfl⟩ | ⟨hneeds, approval, gateId, happroval, hgate⟩
  · rw [hneeds] at hinv
    exact hinv
  · rw [if_pos hneeds] at hinv
    obtain ⟨step⟩ := createApprovalGateForTask_step happroval hgate
    exact step.gated hinv

/-- One pass over a definition of a consistent configuration. -/
theorem createStageTask_gated {before : Store}
    {c₀ : CaseInstance} {ct : CaseType} {st : StageDefinition}
    {entry : ActivityConfig × TaskDefinition} (hcase : s.cases.get? caseId = some c₀)
    (htype : s.caseTypes.get? c₀.caseTypeId = some ct) (hst : st ∈ ct.config.stages)
    (hentry : entry ∈ st.definitions) (hconsistent : Consistent ct.config) (hinv : Gated none s)
    (h : createStageTask lib ctx before caseId c st.code ct.config s entry = .ok s') :
    Gated none s' := by
  rcases createStageTask_step h with ⟨_, _, e, rfl, -⟩ | ⟨payload, amount, resolved, s₁, hgate, rfl, -⟩
  · exact hinv.of_eq rfl rfl rfl rfl
  let task := newTask ctx.now caseId st.code entry.1.code entry.2 payload amount resolved
  -- the new task needs an approval only if its definition does
  have hneeds : NeedsApproval s task → entry.2.needsApproval = true := by
    rintro ⟨c₁, ct₁, hc₁, hct₁, st', hst', hcode, entry', hentry', hactivity, htask, hneeds⟩
    obtain rfl := Option.mem_unique hcase hc₁
    obtain rfl := Option.mem_unique htype hct₁
    rw [hconsistent st hst st' hst' hcode.symm entry hentry entry' hentry' hactivity.symm htask.symm]
    exact hneeds
  have hcreated : Gated (if entry.2.needsApproval then some (createTask s task).1 else none)
      (createTask s task).2 := by
    refine createTask_gated hinv hcase (fun hdone => by cases hdone) ?_
    intro hn
    rw [if_pos (hneeds hn)]
  have hgated := createGateIfNeeded_gated ((GateFrame.persistSLA _ _ resolved).gated hcreated) hgate
  exact (GateFrame.assignDefaultTeam lib ctx s₁ _ _ _ _).gated hgated

theorem enterStage_gated {stageCode : String} (hinv : Gated none s)
    (hconsistent : ConsistentTypes s) (h : enterStage lib ctx caseId stageCode s = .ok s') :
    Gated none s' ∧ s'.caseTypes = s.caseTypes := by
  obtain ⟨c, hc, h⟩ := bind_ok h
  obtain ⟨ct, hct, h⟩ := bind_ok h
  obtain ⟨st, hst, h⟩ := bind_ok h
  rw [orFail_eq_ok] at hc hct hst
  have hmem : st ∈ ct.config.stages := mem_of_find?_eq_some hst
  obtain rfl : st.code = stageCode := by simpa using find?_some hst
  obtain ⟨c', -, hloop⟩ := createTasksForStage_step h
  -- the loop keeps the invariant, the cases and the case types
  have hall := foldlM_invariant
    (P := fun b => Gated none b ∧ b.cases = s.cases ∧ b.caseTypes = s.caseTypes) ?_
    ⟨hinv, rfl, rfl⟩ hloop
  · exact ⟨hall.1, hall.2.2⟩
  · intro b entry b' hentry ⟨hb, hcases, htypes⟩ hpass
    have hframe := createStageTask_frame hpass
    refine ⟨?_, hframe.cases.trans hcases, hframe.caseTypes.trans htypes⟩
    exact createStageTask_gated (by rw [hcases]; exact hc) (by rw [htypes]; exact hct) hmem hentry
      (hconsistent _ ct hct) hb hpass

/-! ## Runs -/

theorem updateTaskStatus_caseTypes
    (h : updateTaskStatus lib ctx taskId newStatus output errorDetail s = .ok s') :
    s'.caseTypes = s.caseTypes := by
  obtain ⟨t, s₁, -, -, -, hactivated, hclock⟩ := updateTaskStatus_step h
  have hopened : s₁.caseTypes = s.caseTypes := by
    rcases activateOnStart_step hactivated with rfl | ⟨gateId, gate, -, -, -, hstep⟩
    · rfl
    · exact hstep.caseTypes_eq
  exact hclock.caseTypes.trans hopened

/-- Every operation that meets its guard keeps the invariant, and none touches a case type. -/
theorem ApprovalOp.step {op : ApprovalOp} (hinv : Gated none s)
    (hconsistent : ConsistentTypes s) (hguard : op.Guards s) (h : op.exec lib s = .ok s') :
    Gated none s' ∧ s'.caseTypes = s.caseTypes := by
  match op with
  | .createTasksForStage ctx caseId stageCode => exact enterStage_gated hinv hconsistent h
  | .cloneCase ctx caseId =>
    refine ⟨cloneCase_gated hinv hguard h, ?_⟩
    obtain ⟨source, copies, outbox, -, -, rfl⟩ := cloneCase_step h
    rfl
  | .updateTaskStatus ctx taskId newStatus output errorDetail =>
    exact ⟨updateTaskStatus_gated hinv h, updateTaskStatus_caseTypes h⟩
  | .completeTaskFromExternal ctx tenant idempotencyKey output =>
    refine ⟨completeTaskFromExternal_gated hinv hguard h, ?_⟩
    obtain ⟨taskId, t, tenantId, keys, audit, -, -, -, rfl⟩ := completeTaskFromExternal_step h
    rfl
  | .activateApprovalGate ctx gateId =>
    obtain ⟨gate, hgate, hstep⟩ := activateApprovalGate_step h
    exact ⟨hstep.gated hgate rfl hinv, hstep.caseTypes_eq⟩
  | .decideRequest ctx verdict input =>
    obtain ⟨step⟩ := decideRequest_step h
    exact ⟨step.gated hguard hinv, step.caseTypes_eq⟩
  | .delegateRequest ctx input =>
    obtain ⟨r, hops, e, -, -, rfl⟩ := delegateRequest_step h
    exact ⟨hinv.of_eq rfl rfl rfl rfl, rfl⟩
  | .expirySweep ctx locked batchSize =>
    refine expirySweep_invariant (I := fun x => Gated none x ∧ x.caseTypes = s.caseTypes) ?_
      ⟨hinv, rfl⟩ h
    intro cand _ x x' ⟨hx, htypes⟩ _ hone
    exact ⟨hone.gated hx, hone.frame.2.2.2.trans htypes⟩

/-- From a store in which every task that needs an approval is linked to its gate, no run whose
    steps meet their guards completes such a task behind a gate that is not satisfied. -/
theorem no_approval_bypass (lib : Library) (s : Store) (ops : List ApprovalOp)
    (hconsistent : ConsistentTypes s) (hgated : Gated none s)
    (hguard : Guarded (ApprovalOp.exec lib) (fun s op => op.Guards s) s ops) :
    NoBypass (run (ApprovalOp.exec lib) s ops) := by
  have hall : Gated none (run (ApprovalOp.exec lib) s ops) ∧
      ConsistentTypes (run (ApprovalOp.exec lib) s ops) := by
    refine Guarded.run_invariant (I := fun x => Gated none x ∧ ConsistentTypes x) ?_
      ⟨hgated, hconsistent⟩ hguard
    intro x op x' ⟨hx, htypes⟩ hop h
    obtain ⟨hx', heq⟩ := ApprovalOp.step hx htypes hop h
    refine ⟨hx', fun k ct hct => ?_⟩
    rw [heq] at hct
    exact htypes k ct hct
  exact hall.1.noBypass

/-- Accepted configurations are consistent: no two task definitions share a code. -/
theorem consistent_of_accepted
    (haccepted : validateCaseTypeConfig config = []) : Consistent config := by
  have hcodes : config.stages.flatMap StageDefinition.taskCodes =
      (config.stages.flatMap StageDefinition.definitions).map (fun e => trimSpace e.2.code) := by
    rw [map_flatMap]
    congr 1
    funext st
    simp [StageDefinition.taskCodes, StageDefinition.definitions, map_flatMap,
      Function.comp_def]
  have hnodup := taskCodes_nodup_of_accepted haccepted
  rw [hcodes] at hnodup
  intro st hst st' hst' _ entry hentry entry' hentry' _ hcode
  have hsame : entry = entry' := by
    refine inj_on_of_nodup_map hnodup (mem_flatMap.mpr ⟨st, hst, hentry⟩)
      (mem_flatMap.mpr ⟨st', hst', hentry'⟩) ?_
    rw [hcode]
  rw [hsame]

/-! ## Runs that bypass a gate -/

instance (config : CaseTypeConfig) (stageCode activityCode taskCode : String) :
    Decidable (ApprovalDefined config stageCode activityCode taskCode) :=
  inferInstanceAs (Decidable (∃ st ∈ config.stages, _ ∧ ∃ entry ∈ st.definitions, _))

theorem noBypass_iff : NoBypass s ↔
    ∀ r ∈ s.tasks.rows, r.2.status = .completed →
      ∀ c ∈ s.cases.get? r.2.caseId, ∀ ct ∈ s.caseTypes.get? c.caseTypeId,
        ApprovalDefined ct.config r.2.stageCode r.2.activityCode r.2.taskDefinitionCode →
          ∃ g ∈ s.gates.rows, g.2.taskId = r.1 ∧ g.2.gateStatus = .satisfied := by
  constructor
  · intro h r hr hcompleted c hc ct hct hdefined
    obtain ⟨gateId, gate, hgate, hown, hsatisfied⟩ :=
      h r.1 r.2 (get?_eq_some_iff.mpr hr) hcompleted ⟨c, ct, hc, hct, hdefined⟩
    exact ⟨(gateId, gate), get?_eq_some_iff.mp hgate, hown, hsatisfied⟩
  · rintro h k t hget hcompleted ⟨c, ct, hc, hct, hdefined⟩
    obtain ⟨g, hg, hown, hsatisfied⟩ :=
      h (k, t) (get?_eq_some_iff.mp hget) hcompleted c hc ct hct hdefined
    exact ⟨g.1, g.2, get?_eq_some_iff.mpr hg, hown, hsatisfied⟩

instance (s : Store) : Decidable (NoBypass s) := decidable_of_iff' _ noBypass_iff

/-- A configuration with one task, which one of two approvers may approve. -/
def signOffConfig (chain : List ApprovalChainTierDefinition) : CaseTypeConfig where
  stages := [
    { code := "CLOSING", sequenceOrder := 1
      activities := [
        { code := "SIGN", taskDefs := [
          { code := "SIGN_OFF"
            config := some (.obj [("assigned_service", .str "desk")])
            requiresApproval := true
            approval := some
              { approvalPolicy := .anyCanApprove, approvers := ["ann", "bob"]
                reworkTargetStageCode := some "CLOSING" }
            retryPolicy := some
              { maxRetries := 3, backoffStrategy := .fixed
                baseIntervalSeconds := 60, maxIntervalSeconds := 60 } }] }] }]
  approvalChain := chain

/-- A case of this configuration, without tasks. -/
def beforeSignOff (chain : List ApprovalChainTierDefinition) : Store where
  caseTypes := Table.empty.insert { config := signOffConfig chain }
  cases := Table.empty.insert
    { caseTypeId := 0, currentStageCode := some "CLOSING", currentStageOrdinal := 1
      status := .inProgress }

theorem beforeSignOff_gated (chain : List ApprovalChainTierDefinition) :
    Gated none (beforeSignOff chain) := by
  apply Gated.of_tasks
  · intro i j g h hg
    simp [beforeSignOff] at hg
  · intro k t ht
    simp [beforeSignOff] at ht

def vote (now : Instant) (verdict : Verdict) (requestId : Id) (approver : String) : ApprovalOp :=
  .decideRequest (.plain now) verdict
    { requestId := requestId, actor := { id := approver, isApprover := true }
      decisionText := "seen", evidenceRefs := some [] }

/-- The task is created and started, one approver approves, and the task is completed. -/
def signOffRun : List ApprovalOp :=
  [.createTasksForStage (.plain 1) 0 "CLOSING",
    .updateTaskStatus (.plain 2) 0 .inProgress none none,
    vote 3 .approve 0 "ann",
    .updateTaskStatus (.plain 4) 0 .completed none none]

/-- The task of the run is completed behind a satisfied gate. -/
theorem no_approval_bypass_signOff :
    NoBypass (run (ApprovalOp.exec .plain) (beforeSignOff []) signOffRun) := by
  refine no_approval_bypass .plain (beforeSignOff []) signOffRun ?_ (beforeSignOff_gated [])
    ⟨trivial, trivial, ?_, trivial, trivial⟩
  · intro k ct hct
    have hmem := get?_eq_some_iff.mp hct
    simp only [beforeSignOff, Table.insert, Table.empty, nil_append, mem_singleton,
      Prod.mk.injEq] at hmem
    rw [hmem.2]
    exact consistent_of_accepted (by decide)
  · -- the vote comes before the completion
    rintro r gate - - ⟨t, ht, hcompleted, -⟩
    have hopen : ∀ r ∈ (run (ApprovalOp.exec .plain) (beforeSignOff [])
        (signOffRun.take 2)).tasks.rows, r.2.status ≠ .completed := by decide
    exact absurd hcompleted (hopen _ (get?_eq_some_iff.mp ht))

/-- A chain whose first tier wants all approvers. -/
def twoTiers : List ApprovalChainTierDefinition :=
  [{ tier := 1, approvalPolicy := .allMustApprove }, { tier := 2, approvalPolicy := .anyCanApprove }]

def claimedSignOff : Store :=
  (run (ApprovalOp.exec .plain) (beforeSignOff []) (signOffRun.take 1)).updateTask 0
    (fun t => { t with status := .assigned, assignedService := some "desk" })

/-- Three ways around a gate: the copy of the task in a clone has no gate; a late rejection
    fails the tier of a gate that one approval had satisfied; an external worker reports the
    task as completed while its gate is open. -/
theorem approval_bypassed : ¬ NoBypass (run (ApprovalOp.exec .plain) (beforeSignOff [])
        [.createTasksForStage (.plain 1) 0 "CLOSING", .cloneCase (.plain 2) 0,
          .updateTaskStatus (.plain 3) 1 .completed none none]) ∧
      NoBypass (run (ApprovalOp.exec .plain) (beforeSignOff twoTiers) signOffRun) ∧
      ¬ NoBypass (run (ApprovalOp.exec .plain) (beforeSignOff twoTiers)
        (signOffRun ++ [vote 5 .reject 1 "bob"])) ∧
      NoBypass claimedSignOff ∧
      ¬ NoBypass (run (ApprovalOp.exec .plain) claimedSignOff
        [.updateTaskStatus (.plain 2) 0 .inProgress none none,
          .updateTaskStatus (.plain 3) 0 .inProgress none none,
          .completeTaskFromExternal (.plain 4) (some defaultTenantId) "report-1"
            { taskId := some 0, assignedService := "desk", status := .completed }]) := by
  refine ⟨?_, ?_, ?_, ?_, ?_⟩ <;> decide

end LoanWorkflow
