import LoanWorkflow.Approval.Policy
import LoanWorkflow.Model.Context

/-! # Approval gates

    Creating a gate for a task (two paths), counting its requests, and closing
    it by its policy.
-/

namespace LoanWorkflow

open Table

variable {approval : ApprovalDefinition} {s' : Store} {amount : Option ℚ} {ctx : Ctx}

/-! ## Creation -/

/-- The defaults that both creation paths fill in. -/
def withGateDefaults (d : ApprovalDefinition) : ApprovalDefinition :=
  { d with
    approvalPolicy := if d.approvalPolicy = .other "" then .singleApprover else d.approvalPolicy
    approverSelection :=
      if d.approverSelection = .other "" then .explicitList else d.approverSelection
    requiredApproverCount := if d.requiredApproverCount ≤ 0 then 1 else d.requiredApproverCount
    approvalTimeoutHours := if d.approvalTimeoutHours ≤ 0 then 24 else d.approvalTimeoutHours
    onTimeoutAction := if d.onTimeoutAction = .other "" then .escalate else d.onTimeoutAction
    rejectionBehavior :=
      if d.rejectionBehavior = .other "" then .sendToRework else d.rejectionBehavior }

def gateRow (taskId caseId : Id) (d : ApprovalDefinition) (approvalAmount : Option ℚ)
    (fallbackRole : Option String) (dynamicRule : Option String)
    (chain : List ApprovalChainTierDefinition) : ApprovalGate where
  taskId := taskId
  caseId := caseId
  approvalPolicy := d.approvalPolicy
  requiredApproverCount := d.requiredApproverCount
  approverSelection := d.approverSelection
  approvers := d.approvers
  authorityLimit := d.authorityLimit
  approvalAmount := approvalAmount
  approvalTimeoutHours := d.approvalTimeoutHours
  onTimeoutAction := d.onTimeoutAction
  rejectionBehavior := d.rejectionBehavior
  reworkTargetStageCode := d.reworkTargetStageCode
  fallbackSupervisorRole := fallbackRole
  dynamicRuleExpression := dynamicRule
  chainDefinition := chain

/-- `INSERT INTO approval_gates ... ON CONFLICT (task_id) DO UPDATE`: an existing gate
    keeps its status and its opening and closing times. -/
def upsertGate (s : Store) (row : ApprovalGate) : Id × Store :=
  match s.gates.find? (fun g => g.taskId == row.taskId) with
  | some (k, _) =>
    (k, s.updateGate k (fun g =>
      { row with
        caseId := g.caseId
        gateStatus := g.gateStatus
        openedAt := g.openedAt
        closedAt := g.closedAt
        version := g.version + 1 }))
  | none => (s.gates.fresh, { s with gates := s.gates.insert row })

/-- `INSERT INTO approval_chain_state ... ON CONFLICT (approval_gate_id) DO NOTHING`. -/
def insertChainState (s : Store) (caseId gateId : Id)
    (chain : List ApprovalChainTierDefinition) (now : Instant) : Store :=
  match chain with
  | [] => s
  | first :: _ =>
    match s.chains.find? (fun ch => ch.approvalGateId == gateId) with
    | some _ => s
    | none =>
      { s with
        chains := s.chains.insert
          { caseId := caseId
            approvalGateId := gateId
            approvalChainDefinition := chain
            currentTier := first.tier
            tierStartedAt := some now } }

def Task.linkTo (t : Task) (gateId : Id) (approvalAmount : Option ℚ) : Task :=
  { t with
    requiresApproval := true
    approvalGateId := some gateId
    approvalAmount := approvalAmount
    version := t.version + 1 }

def linkTaskToGate (s : Store) (taskId gateId : Id) (approvalAmount : Option ℚ) : Store :=
  s.updateTask taskId (fun t => t.linkTo gateId approvalAmount)

def ApprovalPolicy.text : ApprovalPolicy → String
  | .singleApprover => "SINGLE_APPROVER"
  | .allMustApprove => "ALL_MUST_APPROVE"
  | .anyCanApprove => "ANY_CAN_APPROVE"
  | .majority => "MAJORITY"
  | .consensus => "CONSENSUS"
  | .other name => name

/-- The event of a created gate; the two paths name the reason differently. -/
def gateCreatedEvent (taskId caseId gateId : Id) (policy : ApprovalPolicy) (reasonKey : String) :
    Event where
  eventType := .approvalGateCreated
  caseId := some caseId
  taskId := some taskId
  payload := .obj [("gate_id", .uuid gateId), ("case_id", .uuid caseId), ("task_id", .uuid taskId),
    ("policy", .str policy.text), ("gate_status", .str "PENDING"), (reasonKey, .str "approval_gate_created")]

/-- `createApprovalGateForTask` of the engine. -/
def createApprovalGateForTask (s : Store) (ctx : Ctx) (caseId taskId : Id)
    (taskDef : TaskDefinition) (config : CaseTypeConfig) (approvalAmount : Option ℚ) :
    Except Err (Id × Store) := do
  let approval ← orFail taskDef.approval
    ("createApprovalGateForTask: approval definition is nil for task " ++ taskDef.code)
  let d := withGateDefaults approval
  let fallbackRole :=
    if isBlank d.fallbackSupervisorRole then trimSpace config.fallbackSupervisorRole
    else d.fallbackSupervisorRole
  let row := gateRow taskId caseId d approvalAmount (nullIfEmptyString fallbackRole)
    (nullIfEmptyString d.dynamicRule) config.approvalChain
  let (gateId, s) := upsertGate s row
  let s := insertChainState s caseId gateId config.approvalChain ctx.now
  let s := linkTaskToGate s taskId gateId approvalAmount
  return (gateId, s.publish (gateCreatedEvent taskId caseId gateId d.approvalPolicy "event_reason"))

/-- `nullIfEmpty` of the approval package: no trimming. -/
def nullIfEmpty (v : String) : Option String := if v = "" then none else some v

/-- `CreateApprovalGate` of the approval package. -/
def createApprovalGate (s : Store) (ctx : Ctx) (caseId taskId : Id)
    (approval : ApprovalDefinition) (approvalAmount : Option ℚ)
    (approvalChain : List ApprovalChainTierDefinition) (fallbackSupervisorRole : String) :
    Id × Store :=
  let d := withGateDefaults approval
  let fallbackRole :=
    if fallbackSupervisorRole = "" then d.fallbackSupervisorRole else fallbackSupervisorRole
  let row := gateRow taskId caseId d approvalAmount (nullIfEmpty fallbackRole)
    (nullIfEmpty d.dynamicRule) approvalChain
  let (gateId, s) := upsertGate s row
  let s := linkTaskToGate s taskId gateId approvalAmount
  let s := insertChainState s caseId gateId approvalChain ctx.now
  (gateId, s.publish (gateCreatedEvent taskId caseId gateId d.approvalPolicy "reason"))

/-! ### What creation does -/

/-- What either path writes: the row of the gate, the link of the task, the state of the
    chain, and an event. -/
structure CreationStep (s s' : Store) (now : Instant) (caseId taskId gateId : Id)
    (approval : ApprovalDefinition) (chain : List ApprovalChainTierDefinition) where
  row : ApprovalGate
  amount : Option ℚ
  row_task : row.taskId = taskId
  row_case : row.caseId = caseId
  row_policy : row.approvalPolicy = (withGateDefaults approval).approvalPolicy
  row_required : row.requiredApproverCount = (withGateDefaults approval).requiredApproverCount
  row_chain : row.chainDefinition = chain
  row_status : row.gateStatus = .pending
  key : (upsertGate s row).1 = gateId
  gates : s'.gates = (upsertGate s row).2.gates
  tasks : s'.tasks = s.tasks.updateAt taskId (fun t => t.linkTo gateId amount)
  chains : s'.chains = (insertChainState s caseId gateId chain now).chains
  requests : s'.requests = s.requests
  cases : s'.cases = s.cases
  caseTypes : s'.caseTypes = s.caseTypes

section frames

variable (s : Store) (row : ApprovalGate) (caseId gateId : Id)
  (chain : List ApprovalChainTierDefinition) (now : Instant)

/-- Storing the gate touches nothing but gates. -/
theorem upsertGate_frame : (upsertGate s row).2 =
    { s with gates := (upsertGate s row).2.gates } := by
  unfold upsertGate
  split <;> rfl

/-- Starting the chain touches nothing but chains. -/
theorem insertChainState_frame : insertChainState s caseId gateId chain now =
    { s with chains := (insertChainState s caseId gateId chain now).chains } := by
  unfold insertChainState
  split
  · rfl
  · split <;> rfl

/-- Starting the chain reads nothing but chains. -/
theorem insertChainState_chains {s : Store} (h : s'.chains = s.chains) :
    (insertChainState s' caseId gateId chain now).chains =
      (insertChainState s caseId gateId chain now).chains := by
  unfold insertChainState
  rw [h]
  split
  · exact h
  · split
    · exact h
    · rfl

end frames

theorem createApprovalGateForTask_step {s : Store} {caseId taskId gateId : Id}
    {taskDef : TaskDefinition} {config : CaseTypeConfig} (happroval : taskDef.approval = some approval)
    (h : createApprovalGateForTask s ctx caseId taskId taskDef config amount =
      .ok (gateId, s')) :
    Nonempty (CreationStep s s' ctx.now caseId taskId gateId approval config.approvalChain) := by
  simp only [createApprovalGateForTask, happroval, orFail, bind, Except.bind, pure, Except.pure,
    Except.ok.injEq, Prod.mk.injEq] at h
  obtain ⟨hkey, rfl⟩ := h
  rw [upsertGate_frame, insertChainState_frame] at *
  exact ⟨{
    row := _, amount := amount, row_task := rfl, row_case := rfl, row_policy := rfl
    row_required := rfl, row_chain := rfl, row_status := rfl, key := hkey, gates := rfl
    tasks := by rw [hkey]; rfl
    chains := by rw [hkey]; exact insertChainState_chains _ _ _ _ rfl
    requests := rfl, cases := rfl, caseTypes := rfl }⟩

theorem createApprovalGate_step {s : Store} {caseId taskId gateId : Id}
    {chain : List ApprovalChainTierDefinition} {role : String}
    (h : createApprovalGate s ctx caseId taskId approval amount chain role = (gateId, s')) :
    Nonempty (CreationStep s s' ctx.now caseId taskId gateId approval chain) := by
  simp only [createApprovalGate, Prod.mk.injEq] at h
  obtain ⟨hkey, rfl⟩ := h
  rw [upsertGate_frame, insertChainState_frame] at *
  exact ⟨{
    row := _, amount := amount, row_task := rfl, row_case := rfl, row_policy := rfl
    row_required := rfl, row_chain := rfl, row_status := rfl, key := hkey, gates := rfl
    tasks := by rw [hkey]; rfl
    chains := by rw [hkey]; exact insertChainState_chains _ _ _ _ rfl
    requests := rfl, cases := rfl, caseTypes := rfl }⟩

/-- A gate that one of the two paths creates from a definition. -/
def CreatedFrom (approval : ApprovalDefinition) (gateId : Id) (s' : Store) : Prop :=
  (∃ s ctx caseId taskId taskDef config amount, taskDef.approval = some approval ∧
    createApprovalGateForTask s ctx caseId taskId taskDef config amount = .ok (gateId, s')) ∨
  (∃ s ctx caseId taskId amount chain role,
    createApprovalGate s ctx caseId taskId approval amount chain role = (gateId, s'))

/-- Storing a gate touches the gate under the returned key. It was the gate of the task
    already and keeps its status, or the task had none. -/
theorem upsertGate_step (s : Store) (row : ApprovalGate) :
    s.gates.AgreesOff (upsertGate s row).1 (upsertGate s row).2.gates ∧
      ∃ g', (upsertGate s row).2.gates.get? (upsertGate s row).1 = some g' ∧
        g'.taskId = row.taskId ∧
        ((∃ g, s.gates.get? (upsertGate s row).1 = some g ∧ g.taskId = row.taskId ∧
            g'.gateStatus = g.gateStatus) ∨
          ∀ j g, s.gates.get? j = some g → j ≠ (upsertGate s row).1 ∧ g.taskId ≠ row.taskId) := by
  unfold upsertGate
  split
  · next k g hfind =>
    obtain ⟨hget, htask⟩ := find?_eq_some hfind
    refine ⟨.updateAt k s.gates _, ?_⟩
    simp only [Store.updateGate, get?_updateAt_self, hget, Option.map_some]
    exact ⟨_, rfl, rfl, Or.inl ⟨g, rfl, beq_iff_eq.mp htask, rfl⟩⟩
  · next hfind =>
    refine ⟨fun j hj => by simp [hj], row, by simp, rfl, Or.inr ?_⟩
    intro j g hg
    refine ⟨ne_fresh_of_get? hg, ?_⟩
    simpa using find?_eq_none hfind hg

/-- The gate under the returned key carries the policy and the count of the row. -/
theorem upsertGate_get? (s : Store) (row : ApprovalGate) :
    ∃ g, (upsertGate s row).2.gates.get? (upsertGate s row).1 = some g ∧
      g.approvalPolicy = row.approvalPolicy ∧
      g.requiredApproverCount = row.requiredApproverCount := by
  unfold upsertGate
  split
  · next k g hfind =>
    have hget := (find?_eq_some hfind).1
    simp only [Store.updateGate, get?_updateAt_self, hget, Option.map_some]
    exact ⟨_, rfl, rfl, rfl⟩
  · exact ⟨row, by simp, rfl, rfl⟩

/-- A created gate has the policy of its definition and at least one required approver. -/
theorem CreatedFrom.gate {gateId : Id} (h : CreatedFrom approval gateId s') :
    ∃ g, s'.gates.get? gateId = some g ∧
      g.approvalPolicy = (withGateDefaults approval).approvalPolicy ∧
      g.requiredApproverCount = (withGateDefaults approval).requiredApproverCount := by
  have hstep : ∃ (s : Store) (now : Instant) (caseId taskId : Id)
      (chain : List ApprovalChainTierDefinition),
      Nonempty (CreationStep s s' now caseId taskId gateId approval chain) := by
    rcases h with ⟨s, ctx, caseId, taskId, taskDef, config, amount, happroval, hok⟩ |
        ⟨s, ctx, caseId, taskId, amount, chain, role, heq⟩
    · exact ⟨s, ctx.now, caseId, taskId, _, createApprovalGateForTask_step happroval hok⟩
    · exact ⟨s, ctx.now, caseId, taskId, chain, createApprovalGate_step heq⟩
  obtain ⟨s, now, caseId, taskId, chain, ⟨step⟩⟩ := hstep
  obtain ⟨g, hget, hpolicy, hrequired⟩ := upsertGate_get? s step.row
  rw [← step.gates, step.key] at hget
  exact ⟨g, hget, hpolicy.trans step.row_policy, hrequired.trans step.row_required⟩

/-! ## Counting votes -/

/-- The counts over the requests with a property. -/
def requestCounts (requests : Table ApprovalRequest) (p : ApprovalRequest → Bool) :
    RequestCounts where
  approved := requests.count (fun r => p r && r.status == .approved)
  rejected := requests.count (fun r => p r && r.status == .rejected)
  pending := requests.count (fun r => p r && r.status == .pending)
  expired := requests.count (fun r => p r && r.status == .expired)

def loadRequestCounts (s : Store) (gateId : Id) : RequestCounts :=
  requestCounts s.requests (fun r => r.approvalGateId == gateId)

def loadTierCounts (s : Store) (gateId : Id) (tier : Int) : RequestCounts :=
  requestCounts s.requests (fun r => r.approvalGateId == gateId && r.tier == some tier)

theorem requestCounts_total (requests : Table ApprovalRequest) (p : ApprovalRequest → Bool) :
    (requestCounts requests p).total =
      requests.count (fun r => p r && r.status != .delegated) := by
  obtain ⟨rows, nodup⟩ := requests
  simp only [requestCounts, RequestCounts.total, Table.count]
  clear nodup
  induction rows with
  | nil => rfl
  | cons r rows ih =>
    simp only [List.countP_cons]
    cases hp : p r.2 <;> cases hs : r.2.status <;> simp at ih ⊢ <;> omega

/-! ## Quorum of a created gate -/

/-- What a satisfied verdict should mean, by policy. -/
def QuorumReached : ApprovalPolicy → RequestCounts → Prop
  | .majority, c => c.total < 2 * c.approved
  | .consensus, c => 66 * c.total < 100 * c.approved
  | .allMustApprove, c => c.approved = c.total
  | _, _ => True

/-- The counts on which the required-approver shortcut answers for a majority or a
    consensus gate before the quorum is there. -/
def ShortcutFires : ApprovalPolicy → RequestCounts → Prop
  | .majority, c => 1 ≤ c.approved ∧ 2 * c.approved ≤ c.total ∧ 2 * c.rejected ≤ c.total
  | .consensus, c => 1 ≤ c.approved ∧ 100 * c.approved ≤ 66 * c.total ∧
      requiredPct < pct (c.approved + c.pending) c.total
  | _, _ => False

/-- A double above `0.66` comes from an exact share above 66 percent. -/
theorem requiredPct_lt_pct {a t : Nat} (h : requiredPct < pct a t) : 66 * t < 100 * a := by
  have hlt : (66 / 100 : ℚ) < a / t := Binary64.lt_of_round_lt h
  have hpos : (0 : ℚ) < t := by
    rcases Nat.eq_zero_or_pos t with rfl | ht
    · norm_num at hlt
    · exact_mod_cast ht
  rw [div_lt_div_iff₀ (by norm_num) hpos] at hlt
  have : ((66 * t : Nat) : ℚ) < ((100 * a : Nat) : ℚ) := by push_cast; linarith
  exact_mod_cast this

theorem quorum_iff_not_shortcut (policy : ApprovalPolicy) (c : RequestCounts) :
    ((evaluatePolicyCounts policy 1 c).satisfied = true → QuorumReached policy c) ↔
      ¬ ShortcutFires policy c := by
  rcases Nat.eq_zero_or_pos c.total with hzero | hpos
  · have happroved : c.approved = 0 := by unfold RequestCounts.total at hzero; omega
    cases policy <;> simp [hzero, happroved, ShortcutFires]
  rw [evaluatePolicyCounts_satisfied policy 1 hpos]
  cases policy with
  | majority => simp only [Satisfies, QuorumReached, ShortcutFires]; omega
  | consensus =>
    simp only [Satisfies, QuorumReached, ShortcutFires]
    have hexact : requiredPct < pct c.approved c.total → 66 * c.total < 100 * c.approved :=
      requiredPct_lt_pct
    constructor
    · rintro h ⟨happroved, hshare, hopen⟩
      have := h (Or.inr ⟨hopen, by omega, by omega⟩)
      omega
    · rintro h (hsat | ⟨hopen, -, happroved⟩)
      · exact hexact hsat
      · by_contra hshare
        exact h ⟨by omega, by omega, hopen⟩
  | allMustApprove => simp [Satisfies, QuorumReached, ShortcutFires]
  | _ => simp [QuorumReached, ShortcutFires]

/-- A gate created without a required count, on any requests: its verdict is backed by the
    quorum of its policy exactly when the shortcut does not fire. -/
theorem createdGate_quorum_iff (approval : ApprovalDefinition) (gateId : Id) (s' : Store)
    (hcreated : CreatedFrom approval gateId s') (hunset : approval.requiredApproverCount ≤ 0) :
    ∃ g, s'.gates.get? gateId = some g ∧ ∀ requests : Table ApprovalRequest,
      let c := requestCounts requests (fun r => r.approvalGateId == gateId)
      ((evaluatePolicyCounts g.approvalPolicy g.requiredApproverCount c).satisfied = true →
          QuorumReached g.approvalPolicy c) ↔ ¬ ShortcutFires g.approvalPolicy c := by
  obtain ⟨g, hget, -, hcount⟩ := hcreated.gate
  refine ⟨g, hget, fun requests => ?_⟩
  have hone : g.requiredApproverCount = 1 := by rw [hcount]; simp [withGateDefaults, hunset]
  rw [hone]
  exact quorum_iff_not_shortcut g.approvalPolicy _

/-- A majority gate that leaves the count unset, in an otherwise empty store. -/
def majorityGateStore : Id × Store :=
  createApprovalGate {} (.plain 0) 0 0 { approvalPolicy := .majority } none [] ""

/-- Three requests on the gate: one approved, two pending. -/
def oneOfThree : Table ApprovalRequest :=
  ((Table.empty.insert { approvalGateId := 0, approverId := "ann", status := .approved }).insert
    { approvalGateId := 0, approverId := "bob" }).insert { approvalGateId := 0, approverId := "cid" }

theorem createdGate_quorum_majority :
    CreatedFrom { approvalPolicy := .majority } 0 majorityGateStore.2 ∧
      ∃ g, majorityGateStore.2.gates.get? 0 = some g ∧ ∀ requests : Table ApprovalRequest,
        let c := requestCounts requests (fun r => r.approvalGateId == 0)
        ((evaluatePolicyCounts g.approvalPolicy g.requiredApproverCount c).satisfied = true →
            QuorumReached g.approvalPolicy c) ↔ ¬ ShortcutFires g.approvalPolicy c := by
  have hcreated : CreatedFrom { approvalPolicy := .majority } 0 majorityGateStore.2 :=
    Or.inr ⟨{}, .plain 0, 0, 0, none, [], "", rfl⟩
  exact ⟨hcreated, createdGate_quorum_iff _ 0 _ hcreated (by decide)⟩

/-- One approval out of three satisfies the majority gate. -/
theorem majority_satisfied_by_one_of_three :
    ∃ g, majorityGateStore.2.gates.get? 0 = some g ∧ g.approvalPolicy = .majority ∧
      let c := requestCounts oneOfThree (fun r => r.approvalGateId == 0)
      (evaluatePolicyCounts g.approvalPolicy g.requiredApproverCount c).satisfied = true ∧
        ¬ QuorumReached g.approvalPolicy c := by
  refine ⟨_, rfl, rfl, by decide, ?_⟩
  show ¬ 3 < 2 * 1
  decide

end LoanWorkflow
