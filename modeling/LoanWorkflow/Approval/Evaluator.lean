import LoanWorkflow.Approval.Gate

/-! # Closing a gate

    `EvaluateApprovalPolicy` closes a gate by its own policy over all of its
    requests. `EvaluateApprovalChain` walks the tiers of a chain, one tier a
    call, and closes the gate too. Each function has one lemma that says
    everything a successful call can do to the store.
-/

namespace LoanWorkflow

open Table

variable {chainId gateId k : Id} {now : Instant} {s s' : Store}

/-! ## The policy of the gate -/

/-- The statuses from which `closeGate` closes a gate. -/
def GateStatus.isOpen : GateStatus → Bool
  | .pending | .active => true
  | _ => false

/-- The columns of a gate that only its creation writes. -/
def ApprovalGate.terms (g : ApprovalGate) :
    Id × Id × ApprovalPolicy × Int × List ApprovalChainTierDefinition :=
  (g.taskId, g.caseId, g.approvalPolicy, g.requiredApproverCount, g.chainDefinition)

def ApprovalGate.close (g : ApprovalGate) (status : GateStatus) (now : Instant) : ApprovalGate :=
  { g with gateStatus := status, closedAt := some now, version := g.version + 1 }

/-- Did the guarded update hit the row, and the store after it. -/
def closeGate (s : Store) (gateId : Id) (currentVersion : Nat) (status : GateStatus)
    (now : Instant) : Bool × Store :=
  match s.gates.get? gateId with
  | none => (false, s)
  | some g =>
    if g.version = currentVersion ∧ g.gateStatus.isOpen = true then
      (true, s.updateGate gateId (fun g => g.close status now))
    else (false, s)

/-- `publishGateEvent`. -/
def gateEvent (eventType : EventType) (gate : ApprovalGate) (gateId : Id) (status : String)
    (counts : RequestCounts) (reason : String) : Event where
  eventType := eventType
  caseId := some gate.caseId
  taskId := some gate.taskId
  payload := .obj [("gate_id", .uuid gateId), ("case_id", .uuid gate.caseId),
    ("task_id", .uuid gate.taskId), ("gate_status", .str status), ("reason", .str reason),
    ("decision_text", .str ("approved=" ++ toString counts.approved ++ " rejected=" ++
      toString counts.rejected ++ " pending=" ++ toString counts.pending ++ " total=" ++
      toString counts.total))]
  targetService := "case-orchestrator"

/-- A satisfied gate hands its task back to the workers. -/
def Task.unblock (t : Task) : Task :=
  if t.status = .awaitingExternal then
    { t with status := .pending, assignedService := none, assignedAt := none,
             version := t.version + 1 }
  else { t with version := t.version + 1 }

/-- Is the gate satisfied, and the store after the call. -/
def evaluateApprovalPolicy (s : Store) (now : Instant) (gateId : Id) :
    Except Err (Bool × Store) :=
  match s.gates.get? gateId with
  | none => .error "EvaluateApprovalPolicy: sql: no rows in result set"
  | some gate =>
    if gate.gateStatus = .satisfied then .ok (true, s)
    else if gate.gateStatus = .failed ∨ gate.gateStatus = .rejected ∨
        gate.gateStatus = .cancelled then .ok (false, s)
    else
      let counts := loadRequestCounts s gateId
      let result := evaluatePolicyCounts gate.approvalPolicy gate.requiredApproverCount counts
      match result.err with
      | some e => .error ("EvaluateApprovalPolicy: " ++ e)
      | none =>
        if result.failed then
          match closeGate s gateId gate.version .failed now with
          | (true, s) => .ok (false, s.publish
              (gateEvent .approvalGateFailed gate gateId "FAILED" counts "policy_fail_fast"))
          | (false, s) => .ok (false, s)
        else if result.satisfied then
          match closeGate s gateId gate.version .satisfied now with
          | (true, s) => .ok (true, (s.updateTask gate.taskId Task.unblock).publish
              (gateEvent .approvalGateSatisfied gate gateId "SATISFIED" counts
                "policy_satisfied"))
          | (false, s) => .ok (true, s)
        else .ok (false, s)

/-- What a successful evaluation did: it left the store alone, or it failed an open
    gate, or it satisfied an open gate and unblocked the task. -/
inductive PolicyStep (s : Store) (now : Instant) (gateId : Id) (gate : ApprovalGate) :
    Bool → Store → Prop
  | unchanged (b : Bool) (hb : gate.gateStatus = .satisfied → b = true) : PolicyStep s now gateId gate b s
  | failed (e : Event) (hopen : gate.gateStatus.isOpen = true)
      (hcounts : (evaluatePolicyCounts gate.approvalPolicy gate.requiredApproverCount
        (loadRequestCounts s gateId)).failed = true) :
      PolicyStep s now gateId gate false
        ((s.updateGate gateId (fun g => g.close .failed now)).publish e)
  | satisfied (e : Event) (hopen : gate.gateStatus.isOpen = true)
      (hcounts : (evaluatePolicyCounts gate.approvalPolicy gate.requiredApproverCount
        (loadRequestCounts s gateId)).satisfied = true) :
      PolicyStep s now gateId gate true
        (((s.updateGate gateId (fun g => g.close .satisfied now)).updateTask gate.taskId
          Task.unblock).publish e)

namespace PolicyStep

variable {gate : ApprovalGate} {b : Bool}

variable (h : PolicyStep s now gateId gate b s')

include h

theorem requests_eq : s'.requests = s.requests := by
  cases h <;> rfl

theorem chains_eq : s'.chains = s.chains := by
  cases h <;> rfl

theorem cases_eq : s'.cases = s.cases := by
  cases h <;> rfl

theorem caseTypes_eq : s'.caseTypes = s.caseTypes := by
  cases h <;> rfl

theorem gates_keep : s.gates.Keeps ApprovalGate.terms s'.gates := by
  cases h with
  | unchanged => exact .refl _ _
  | _ => exact .updateAt fun _ => rfl

/-- Only the evaluated gate changes. -/
theorem gate_other (hne : k ≠ gateId) :
    s'.gates.get? k = s.gates.get? k := by
  cases h with
  | unchanged => rfl
  | _ => exact get?_updateAt_ne hne

/-- A gate that an evaluation satisfies has the votes its policy asks for. -/
theorem votes_of_satisfied
    (hget : s.gates.get? gateId = some gate) (hbefore : gate.gateStatus ≠ .satisfied)
    {g' : ApprovalGate} (hget' : s'.gates.get? gateId = some g')
    (hafter : g'.gateStatus = .satisfied) :
    (evaluatePolicyCounts gate.approvalPolicy gate.requiredApproverCount
      (loadRequestCounts s gateId)).satisfied = true := by
  cases h with
  | unchanged =>
    rw [hget] at hget'
    cases hget'
    exact absurd hafter hbefore
  | failed e hopen hcounts =>
    have hfailed : g' = gate.close .failed now := by
      simpa [Store.publish, Store.updateGate, hget] using hget'.symm
    rw [hfailed] at hafter
    cases hafter
  | satisfied e hopen hcounts => exact hcounts

end PolicyStep

theorem closeGate_eq {gate : ApprovalGate}
    (hget : s.gates.get? gateId = some gate) (status : GateStatus) (now : Instant) :
    closeGate s gateId gate.version status now =
      if gate.gateStatus.isOpen = true then
        (true, s.updateGate gateId (fun g => g.close status now))
      else (false, s) := by
  simp [closeGate, hget]

theorem evaluateApprovalPolicy_step {b : Bool}
    (h : evaluateApprovalPolicy s now gateId = .ok (b, s')) :
    ∃ gate, s.gates.get? gateId = some gate ∧ PolicyStep s now gateId gate b s' := by
  unfold evaluateApprovalPolicy at h
  cases hget : s.gates.get? gateId with
  | none => simp [hget] at h
  | some gate =>
    refine ⟨gate, rfl, ?_⟩
    simp only [hget, closeGate_eq hget] at h
    split at h
    · cases h; exact .unchanged true (fun _ => rfl)
    · next hsat =>
      have hvacuous : ∀ b : Bool, gate.gateStatus = .satisfied → b = true :=
        fun _ hs => absurd hs hsat
      split at h
      · cases h; exact .unchanged false (hvacuous _)
      · split at h
        · cases h
        · split at h
          · next hfailed =>
            -- the verdict is failed; the guarded update hits only an open gate
            by_cases hopen : gate.gateStatus.isOpen = true
            · simp only [hopen, if_true, Except.ok.injEq, Prod.mk.injEq] at h
              obtain ⟨rfl, rfl⟩ := h
              exact .failed _ hopen hfailed
            · simp only [hopen] at h
              cases h
              exact .unchanged false (hvacuous _)
          · split at h
            · next hsatisfied =>
              by_cases hopen : gate.gateStatus.isOpen = true
              · simp only [hopen, if_true, Except.ok.injEq, Prod.mk.injEq] at h
                obtain ⟨rfl, rfl⟩ := h
                exact .satisfied _ hopen hsatisfied
              · simp only [hopen] at h
                cases h
                exact .unchanged true (fun _ => rfl)
            · cases h; exact .unchanged false (hvacuous _)

/-! ## The tiers of a chain -/

/-- The first tier with a number, and its index. -/
def findTierDefinition (tiers : List ApprovalChainTierDefinition) (tier : Int) :
    Option (ApprovalChainTierDefinition × Nat) :=
  tiers.zipIdx.find? (fun p => p.1.tier == tier)

/-- The number of the next tier, of the last one at the end. -/
def nextTierValue (tiers : List ApprovalChainTierDefinition) (index : Nat) : Int :=
  match tiers[index + 1]? with
  | some next => next.tier
  | none =>
    match tiers.getLast? with
    | some last => last.tier
    | none => 0

/-- A tier condition, or its default when the tier has none. -/
def evaluateCondition (lib : Library) (expr : String) (metadata : Json) (default : Bool) :
    Except Err Bool :=
  if expr = "" then .ok default else lib.evaluate expr metadata

/-- Leave a tier with a status and go on to the tier `next`. -/
def ApprovalChainState.leaveTier (ch : ApprovalChainState) (status : TierStatus) (next : Int)
    (last : Bool) (now : Instant) : ApprovalChainState :=
  { ch with
    tierStatus := status
    tierCompletedAt := some now
    currentTier := next
    chainStatus := if last then .completed else .inProgress }

/-- The columns of a chain that only its creation writes. -/
def ApprovalChainState.terms (ch : ApprovalChainState) :
    Id × Id × List ApprovalChainTierDefinition :=
  (ch.caseId, ch.approvalGateId, ch.approvalChainDefinition)

def ApprovalChainState.fail (ch : ApprovalChainState) (now : Instant) : ApprovalChainState :=
  { ch with tierStatus := .rejected, tierCompletedAt := some now, chainStatus := .failed }

/-- The event of a chain that closed its gate. -/
def chainEvent (eventType : EventType) (ch : ApprovalChainState) (status : String) (tier : Int)
    (reason : String) : Event where
  eventType := eventType
  caseId := some ch.caseId
  payload := .obj [("gate_id", .uuid ch.approvalGateId), ("case_id", .uuid ch.caseId),
    ("tier", .num tier), ("gate_status", .str status), ("reason", .str reason)]
  targetService := "case-orchestrator"

/-- The policy of a tier: its own, or that of the gate when it has none. -/
def tierPolicy (s : Store) (ch : ApprovalChainState) (tierDef : ApprovalChainTierDefinition) :
    Except Err ApprovalPolicy :=
  if tierDef.approvalPolicy = .other "" then do
    let gate ← orFail (s.gates.get? ch.approvalGateId) "EvaluateApprovalChain: load gate policy"
    return gate.approvalPolicy
  else .ok tierDef.approvalPolicy

/-- The verdict on a tier that is neither skipped nor optional. No required count is passed
    down to a tier. -/
def settleTier (s : Store) (now : Instant) (chainId : Id) (ch : ApprovalChainState)
    (tierDef : ApprovalChainTierDefinition) (idx : Nat) : Except Err Store := do
  let policy ← tierPolicy s ch tierDef
  let counts := loadTierCounts s ch.approvalGateId tierDef.tier
  let result := evaluatePolicyCounts policy 0 counts
  match result.err with
  | some e => .error ("EvaluateApprovalChain: policy evaluation: " ++ e)
  | none =>
    if result.failed then
      let s := s.updateChain chainId (fun ch => ch.fail now)
      -- neither update of the gate looks at the status it overwrites
      let s := s.updateGate ch.approvalGateId (fun g => g.close .failed now)
      .ok (s.publish
        (chainEvent .approvalGateFailed ch "FAILED" tierDef.tier "approval_chain_tier_failed"))
    else if result.satisfied then
      let tiers := ch.approvalChainDefinition
      let last := decide (idx = tiers.length - 1)
      let s := s.updateChain chainId
        (fun ch => ch.leaveTier .approved (nextTierValue tiers idx) last now)
      if last then
        let s := s.updateGate ch.approvalGateId (fun g => g.close .satisfied now)
        .ok (s.publish
          (chainEvent .approvalGateSatisfied ch "SATISFIED" tierDef.tier
            "approval_chain_completed"))
      else .ok s
    else .ok s

/-- One tier at most. -/
def evaluateApprovalChain (lib : Library) (s : Store) (now : Instant) (chainId : Id) :
    Except Err Store := do
  let ch ← orFail (s.chains.get? chainId) "EvaluateApprovalChain: load chain"
  let tiers := ch.approvalChainDefinition
  if ch.chainStatus = .completed ∨ ch.chainStatus = .failed ∨ tiers.isEmpty = true then .ok s
  else
    let c ← orFail (s.cases.get? ch.caseId) "EvaluateApprovalChain: load case metadata"
    match findTierDefinition tiers ch.currentTier with
    | none =>
      .ok (s.updateChain chainId (fun row => row.leaveTier .approved ch.currentTier true now))
    | some (tierDef, idx) =>
      let last := decide (idx = tiers.length - 1)
      let next := nextTierValue tiers idx
      let skip ← evaluateCondition lib tierDef.canSkipIf c.metadata false
      if skip = true then
        let next := if next = 0 then ch.currentTier else next
        .ok (s.updateChain chainId (fun ch => ch.leaveTier .skipped next last now))
      else
        let required ← evaluateCondition lib tierDef.requiredIf c.metadata true
        if required = false then
          .ok (s.updateChain chainId (fun ch => ch.leaveTier .skipped next last now))
        else settleTier s now chainId ch tierDef idx

/-- What a successful walk did on the chain `ch`: nothing, leave a tier, fail the chain
    and its gate, or satisfy the gate on the last tier. -/
inductive ChainStep (s : Store) (now : Instant) (chainId : Id) (ch : ApprovalChainState) :
    Store → Prop
  | unchanged : ChainStep s now chainId ch s
  | moved (status : TierStatus) (next : Int) (last : Bool) :
      ChainStep s now chainId ch
        (s.updateChain chainId (fun ch => ch.leaveTier status next last now))
  | failed (tierDef : ApprovalChainTierDefinition) (idx : Nat) (policy : ApprovalPolicy)
      (e : Event) (hrunning : ch.chainStatus ≠ .completed ∧ ch.chainStatus ≠ .failed)
      (hfind : findTierDefinition ch.approvalChainDefinition ch.currentTier = some (tierDef, idx))
      (hpolicy : tierPolicy s ch tierDef = .ok policy)
      (hcounts : (evaluatePolicyCounts policy 0
        (loadTierCounts s ch.approvalGateId tierDef.tier)).failed = true) :
      ChainStep s now chainId ch
        (((s.updateChain chainId (fun ch => ch.fail now)).updateGate ch.approvalGateId
          (fun g => g.close .failed now)).publish e)
  | satisfied (tierDef : ApprovalChainTierDefinition) (idx : Nat) (policy : ApprovalPolicy)
      (next : Int) (e : Event)
      (hfind : findTierDefinition ch.approvalChainDefinition ch.currentTier = some (tierDef, idx))
      (hlast : idx = ch.approvalChainDefinition.length - 1)
      (hpolicy : tierPolicy s ch tierDef = .ok policy)
      (hcounts : (evaluatePolicyCounts policy 0
        (loadTierCounts s ch.approvalGateId tierDef.tier)).satisfied = true) :
      ChainStep s now chainId ch
        (((s.updateChain chainId (fun ch => ch.leaveTier .approved next true now)).updateGate
          ch.approvalGateId (fun g => g.close .satisfied now)).publish e)

namespace ChainStep

variable {ch : ApprovalChainState}

variable (h : ChainStep s now chainId ch s')

include h

theorem requests_eq : s'.requests = s.requests := by
  cases h <;> rfl

theorem cases_eq : s'.cases = s.cases := by
  cases h <;> rfl

theorem tasks_eq : s'.tasks = s.tasks := by
  cases h <;> rfl

theorem caseTypes_eq : s'.caseTypes = s.caseTypes := by
  cases h <;> rfl

theorem gates_keep : s.gates.Keeps ApprovalGate.terms s'.gates := by
  cases h with
  | unchanged => exact .refl _ _
  | moved => exact .refl _ _
  | _ => exact .updateAt fun _ => rfl

theorem chains_over : s.chains.Over ApprovalChainState.terms s'.chains := by
  cases h with
  | unchanged => exact .refl _ _
  | _ => exact .updateAt fun _ => rfl

/-- Only the gate of the chain changes. -/
theorem gate_other (hne : k ≠ ch.approvalGateId) :
    s'.gates.get? k = s.gates.get? k := by
  cases h with
  | unchanged => rfl
  | moved => rfl
  | _ => exact get?_updateAt_ne hne

end ChainStep

theorem settleTier_step {ch : ApprovalChainState} {tierDef : ApprovalChainTierDefinition}
    {idx : Nat} (hrunning : ch.chainStatus ≠ .completed ∧ ch.chainStatus ≠ .failed)
    (hfind : findTierDefinition ch.approvalChainDefinition ch.currentTier = some (tierDef, idx))
    (h : settleTier s now chainId ch tierDef idx = .ok s') : ChainStep s now chainId ch s' := by
  obtain ⟨policy, hpolicy, h⟩ := bind_ok h
  simp only at h
  split at h
  · cases h
  · split at h
    · next hfailed => cases h; exact .failed tierDef idx policy _ hrunning hfind hpolicy hfailed
    · split at h
      · next hsatisfied =>
        split at h
        · next hlast =>
          cases h
          simp only [hlast]
          exact .satisfied tierDef idx policy _ _ hfind (by simpa using hlast) hpolicy hsatisfied
        · cases h; exact .moved _ _ _
      · cases h; exact .unchanged

/-- A walk stays, leaves the tier, or settles it: that needs a running chain, and a tier that is
    neither skipped nor optional. -/
theorem evaluateApprovalChain_walk {lib : Library}
    (h : evaluateApprovalChain lib s now chainId = .ok s') :
    ∃ ch, s.chains.get? chainId = some ch ∧ (s' = s ∨
      (∃ status next last,
        s' = s.updateChain chainId (fun ch => ch.leaveTier status next last now)) ∨
      ∃ c tierDef idx, (ch.chainStatus ≠ .completed ∧ ch.chainStatus ≠ .failed) ∧
        s.cases.get? ch.caseId = some c ∧
        findTierDefinition ch.approvalChainDefinition ch.currentTier = some (tierDef, idx) ∧
        evaluateCondition lib tierDef.canSkipIf c.metadata false = .ok false ∧
        evaluateCondition lib tierDef.requiredIf c.metadata true = .ok true ∧
        settleTier s now chainId ch tierDef idx = .ok s') := by
  obtain ⟨ch, hch, h⟩ := bind_ok h
  refine ⟨ch, orFail_eq_ok.mp hch, ?_⟩
  simp only at h
  split at h
  · cases h; exact .inl rfl
  · next hstop =>
    obtain ⟨hcompleted, hfailed, -⟩ := not_or.mp hstop |>.imp_right not_or.mp
    obtain ⟨c, hc, h⟩ := bind_ok h
    split at h
    · cases h; exact .inr (.inl ⟨_, _, _, rfl⟩)
    · next tierDef idx hfind =>
      obtain ⟨skip, hskip, h⟩ := bind_ok h
      split at h
      · cases h; exact .inr (.inl ⟨_, _, _, rfl⟩)
      · next hkept =>
        obtain ⟨required, hrequired, h⟩ := bind_ok h
        split at h
        · cases h; exact .inr (.inl ⟨_, _, _, rfl⟩)
        · next hneeded =>
          rw [Bool.not_eq_true] at hkept
          rw [Bool.not_eq_false] at hneeded
          exact .inr (.inr ⟨c, tierDef, idx, ⟨hcompleted, hfailed⟩, orFail_eq_ok.mp hc, hfind,
            hkept ▸ hskip, hneeded ▸ hrequired, h⟩)

theorem evaluateApprovalChain_step {lib : Library}
    (h : evaluateApprovalChain lib s now chainId = .ok s') :
    ∃ ch, s.chains.get? chainId = some ch ∧ ChainStep s now chainId ch s' := by
  obtain ⟨ch, hch, rfl | ⟨status, next, last, rfl⟩ |
    ⟨c, tierDef, idx, hrunning, -, hfind, -, -, h⟩⟩ := evaluateApprovalChain_walk h
  · exact ⟨ch, hch, .unchanged⟩
  · exact ⟨ch, hch, .moved _ _ _⟩
  · exact ⟨ch, hch, settleTier_step hrunning hfind h⟩

end LoanWorkflow
