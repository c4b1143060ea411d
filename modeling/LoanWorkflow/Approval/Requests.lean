import LoanWorkflow.Approval.Rejection

/-! # Deciding and delegating requests

    The guard on request transitions, the decision of a request (which runs
    both evaluators and the rejection behaviour), and its delegation.
-/

namespace LoanWorkflow

variable {ctx : Ctx} {k : Id} {lib : Library} {s s' : Store}

/-! ## The transition guard -/

def RequestStatus.text : RequestStatus → String
  | .pending => "PENDING"
  | .approved => "APPROVED"
  | .rejected => "REJECTED"
  | .expired => "EXPIRED"
  | .delegated => "DELEGATED"

/-- Who asks for a transition; an absent evidence list is `none`. -/
structure Actor where
  id : String
  isSystem : Bool := false
  isSupervisor : Bool := false
  isApprover : Bool := false
  isDelegate : Bool := false
  isOriginalApprover : Bool := false
  decisionText : String := ""
  evidenceRefs : Option (List String) := none
  delegatedToId : Option String := none

/-- The error of an actor without the right to a transition. -/
def unauthorizedApproval (why : String) : Err :=
  "ValidateApprovalTransition: unauthorized approval actor: " ++ why

/-- The error of a transition that does not exist. -/
def invalidApproval (why : String) : Err :=
  "ValidateApprovalTransition: invalid approval transition: " ++ why

/-- A decision needs a text and an evidence list. -/
def requireDecision (actor : Actor) : Except Err Unit := do
  ensure (actor.decisionText != "") (invalidApproval "decision text is required")
  ensure actor.evidenceRefs.isSome
    (invalidApproval "evidence_refs must be present (empty array allowed)")

/-- The guard on leaving `PENDING`. -/
def leavePending (requested : RequestStatus) (actor : Actor) : Except Err Unit :=
  match requested with
  | .approved | .rejected => do
    ensure actor.isApprover
      (unauthorizedApproval ("only approver may " ++ requested.text ++ " from PENDING"))
    ensure (!actor.isSystem)
      (unauthorizedApproval ("system cannot manually " ++ requested.text ++ " from PENDING"))
    requireDecision actor
  | .delegated => do
    ensure actor.isApprover (unauthorizedApproval "only approver may delegate")
    ensure (actor.delegatedToId.getD "" != "") (invalidApproval "delegated_to_id is required")
  | .expired => ensure actor.isSystem (unauthorizedApproval "only system may expire request")
  | .pending => .error (invalidApproval "PENDING -> PENDING")

/-- The guard on leaving `DELEGATED`: the delegate may decide the delegated request itself. -/
def leaveDelegated (requested : RequestStatus) (actor : Actor) : Except Err Unit :=
  match requested with
  | .approved | .rejected => do
    ensure (actor.isDelegate && !actor.isOriginalApprover)
      (unauthorizedApproval ("only delegate may " ++ requested.text ++ " delegated request"))
    requireDecision actor
  | _ => .error (invalidApproval ("DELEGATED -> " ++ requested.text))

/-- The guard on leaving `EXPIRED`. -/
def leaveExpired (requested : RequestStatus) (actor : Actor) : Except Err Unit :=
  match requested with
  | .approved | .rejected | .pending =>
    ensure actor.isSystem
      (unauthorizedApproval ("only system may transition EXPIRED -> " ++ requested.text))
  | _ => .error (invalidApproval ("EXPIRED -> " ++ requested.text))

def validateApprovalTransition (current requested : RequestStatus) (actor : Actor) :
    Except Err Unit := do
  ensure (actor.id != "") (unauthorizedApproval "actor id is required")
  ensure (current != requested) (invalidApproval ("no-op transition " ++ current.text))
  match current with
  | .approved | .rejected => .error (invalidApproval ("terminal state " ++ current.text))
  | .pending => leavePending requested actor
  | .delegated => leaveDelegated requested actor
  | .expired => leaveExpired requested actor

/-- Only a pending request can be delegated. -/
theorem validateApprovalTransition_delegated {current : RequestStatus} {actor : Actor}
    (h : validateApprovalTransition current .delegated actor = .ok ()) : current = .pending := by
  obtain ⟨-, -, h⟩ := bind_ok h
  obtain ⟨-, -, h⟩ := bind_ok h
  cases current with
  | pending => rfl
  | _ => cases h

/-! ## Inserting requests -/

/-- The columns of a request that nothing rewrites: its gate and its tier. -/
def ApprovalRequest.slot (r : ApprovalRequest) : Id × Option Int := (r.approvalGateId, r.tier)

/-- A pending request of the same gate, approver and tier. -/
def ApprovalRequest.clashes (r r' : ApprovalRequest) : Bool :=
  r'.approvalGateId == r.approvalGateId && r'.approverId == r.approverId &&
    r'.tier.getD 0 == r.tier.getD 0 && r'.status == .pending

/-- Insert a pending request; the unique index refuses a second one. -/
def insertRequest (s : Store) (row : ApprovalRequest) : Except Err (Id × Store) :=
  match s.requests.find? row.clashes with
  | some _ => .error "duplicate key value violates unique constraint \"uq_approval_requests_gate_approver_tier_pending\""
  | none => .ok (s.requests.fresh, { s with requests := s.requests.insert row })

theorem insertRequest_eq {row : ApprovalRequest} (h : insertRequest s row = .ok (k, s')) :
    k = s.requests.fresh ∧ s' = { s with requests := s.requests.insert row } := by
  unfold insertRequest at h
  split at h
  · cases h
  · cases h
    exact ⟨rfl, rfl⟩

/-! ## Decisions -/

/-- `DecideRequestInput`. -/
structure DecideInput where
  requestId : Id
  actor : Actor
  decisionText : String
  evidenceRefs : Option (List String)

inductive Verdict where
  | approve
  | reject
deriving DecidableEq, Repr

def Verdict.status : Verdict → RequestStatus
  | .approve => .approved
  | .reject => .rejected

def DecideInput.effectiveActor (input : DecideInput) (r : ApprovalRequest) : Actor :=
  let actor := { input.actor with
    decisionText := input.decisionText
    evidenceRefs := input.evidenceRefs }
  if r.status = .delegated then
    { actor with
      isDelegate := actor.id == r.delegatedToId.getD ""
      isOriginalApprover := actor.id == r.approverId }
  else actor

def ApprovalRequest.decide (r : ApprovalRequest) (status : RequestStatus) (input : DecideInput)
    (now : Instant) : ApprovalRequest :=
  { r with
    status := status
    decision := some input.decisionText
    evidenceRefs := input.evidenceRefs.getD []
    decidedAt := some now
    decidedBy := some input.actor.id
    version := r.version + 1 }

def decisionEvent (gate : ApprovalGate) (gateId : Id) (verdict : Verdict) (input : DecideInput) :
    Event where
  eventType := match verdict with
    | .approve => .approvalGranted
    | .reject => .approvalRejected
  caseId := some gate.caseId
  taskId := some gate.taskId
  payload := .obj [("gate_id", .uuid gateId), ("request_id", .uuid input.requestId),
    ("case_id", .uuid gate.caseId), ("task_id", .uuid gate.taskId),
    ("approver_id", .str input.actor.id), ("request_status", .str verdict.status.text),
    ("decision_text", .str input.decisionText)]

def walkChain (lib : Library) (s : Store) (now : Instant) (gateId : Id) : Except Err Store :=
  match s.chains.find? (fun ch => ch.approvalGateId == gateId) with
  | some (chainId, _) => evaluateApprovalChain lib s now chainId
  | none => .ok s

/-- The store in which the decision of a request is recorded and not yet evaluated. -/
def recordDecision (s : Store) (now : Instant) (gateId : Id) (gate : ApprovalGate)
    (verdict : Verdict) (input : DecideInput) : Store :=
  (s.updateRequest input.requestId (fun r => r.decide verdict.status input now)).publish
    (decisionEvent gate gateId verdict input)

def decideRequest (lib : Library) (ctx : Ctx) (verdict : Verdict) (input : DecideInput)
    (s : Store) : Except Err Store := do
  let r ← orFail (s.requests.get? input.requestId)
    "decideRequest: load request: sql: no rows in result set"
  let gate ← orFail (s.gates.get? r.approvalGateId)
    "decideRequest: load request: sql: no rows in result set"
  validateApprovalTransition r.status verdict.status (input.effectiveActor r)
  -- a missing evidence list is stored as the JSON null, which the column refuses
  ensure input.evidenceRefs.isSome
    "decideRequest: update request: violates check constraint \"chk_approval_request_evidence_array\""
  let s := recordDecision s ctx.now r.approvalGateId gate verdict input
  let (satisfied, s) ← evaluateApprovalPolicy s ctx.now r.approvalGateId
  let s ← walkChain lib s ctx.now r.approvalGateId
  if verdict = .reject ∧ satisfied = false then
    executeRejectionBehavior s ctx.now r.approvalGateId gate input.decisionText input.actor.id
  else return s

/-- Everything a successful decision did, in the order it did it. -/
structure DecideStep (lib : Library) (ctx : Ctx) (verdict : Verdict) (input : DecideInput)
    (s s' : Store) where
  request : ApprovalRequest
  gate : ApprovalGate
  satisfied : Bool
  /-- The store after the gate was evaluated. -/
  evaluated : Store
  /-- The store after the chain was walked. -/
  walked : Store
  hrequest : s.requests.get? input.requestId = some request
  hgate : s.gates.get? request.approvalGateId = some gate
  hguard : validateApprovalTransition request.status verdict.status
    (input.effectiveActor request) = .ok ()
  hpolicy : PolicyStep (recordDecision s ctx.now request.approvalGateId gate verdict input)
    ctx.now request.approvalGateId gate satisfied evaluated
  hchain : walked = evaluated ∨ ∃ chainId ch, evaluated.chains.get? chainId = some ch ∧
    ch.approvalGateId = request.approvalGateId ∧
    ChainStep evaluated ctx.now chainId ch walked
  hrejection : s' = walked ∨
    RejectionStep walked ctx.now gate.caseId request.approvalGateId s'
  hsatisfied : satisfied = true → s' = walked

theorem walkChain_step {now : Instant} {gateId : Id} (h : walkChain lib s now gateId = .ok s') :
    s' = s ∨ ∃ chainId ch, s.chains.get? chainId = some ch ∧ ch.approvalGateId = gateId ∧
      ChainStep s now chainId ch s' := by
  unfold walkChain at h
  split at h
  · next chainId ch hfind =>
    obtain ⟨hget, hgate⟩ := Table.find?_eq_some hfind
    obtain ⟨ch', hget', hstep⟩ := evaluateApprovalChain_step h
    obtain rfl := Option.mem_unique hget hget'
    exact Or.inr ⟨chainId, ch, hget, by simpa using hgate, hstep⟩
  · cases h
    exact Or.inl rfl

theorem decideRequest_step {verdict : Verdict} {input : DecideInput}
    (h : decideRequest lib ctx verdict input s = .ok s') :
    Nonempty (DecideStep lib ctx verdict input s s') := by
  obtain ⟨r, hr, h⟩ := bind_ok h
  obtain ⟨gate, hgate, h⟩ := bind_ok h
  obtain ⟨⟨⟩, hguard, h⟩ := bind_ok h
  obtain ⟨⟨⟩, -, h⟩ := bind_ok h
  obtain ⟨⟨satisfied, s₁⟩, heval, h⟩ := bind_ok h
  obtain ⟨s₂, hwalk, h⟩ := bind_ok h
  rw [orFail_eq_ok] at hr hgate
  obtain ⟨gate', hgate', hpolicy⟩ := evaluateApprovalPolicy_step heval
  -- recording the decision does not touch the gate
  obtain rfl := Option.mem_unique hgate hgate'
  have hlast : (s' = s₂ ∨ RejectionStep s₂ ctx.now gate.caseId r.approvalGateId s') ∧
      (satisfied = true → s' = s₂) := by
    split at h
    · next hrejected =>
      refine ⟨Or.inr (executeRejectionBehavior_step h), fun hsat => ?_⟩
      rw [hrejected.2] at hsat
      cases hsat
    · cases h
      exact ⟨Or.inl rfl, fun _ => rfl⟩
  exact ⟨⟨r, gate, satisfied, s₁, s₂, hr, hgate, hguard, hpolicy, walkChain_step hwalk, hlast.1,
    hlast.2⟩⟩

namespace DecideStep

variable {verdict : Verdict} {input : DecideInput}

variable (h : DecideStep lib ctx verdict input s s')

include h

/-- What the walk along the chain and a rejection keep, the rest of a decision keeps. -/
theorem relates {R : Store → Store → Prop}
    (hrefl : ∀ a, R a a) (htrans : ∀ {a b c}, R a b → R b c → R a c)
    (hchain : ∀ {a b chainId ch}, ch.approvalGateId = h.request.approvalGateId →
      ChainStep a ctx.now chainId ch b → R a b)
    (hrejection : ∀ {a b}, RejectionStep a ctx.now h.gate.caseId h.request.approvalGateId b →
      R a b) : R h.evaluated s' := by
  have hwalked : R h.evaluated h.walked := by
    rcases h.hchain with heq | ⟨chainId, ch, -, hgate, hstep⟩
    · rw [heq]
      exact hrefl _
    · exact hchain hgate hstep
  rcases h.hrejection with heq | hstep
  · have hsame : R h.evaluated s' = R h.evaluated h.walked := congrArg _ heq
    rw [hsame]
    exact hwalked
  · exact htrans hwalked (hrejection hstep)

/-- A decision writes one request. -/
theorem requests_eq : s'.requests = s.requests.updateAt input.requestId
      (fun r => r.decide verdict.status input ctx.now) := by
  have hrest := h.relates (R := fun a b => b.requests = a.requests) (fun _ => rfl)
    (fun hab hbc => hbc.trans hab) (fun _ hstep => hstep.requests_eq) (·.requests_eq)
  exact hrest.trans h.hpolicy.requests_eq

theorem gates_keep : s.gates.Keeps ApprovalGate.terms s'.gates := by
  have hrest := h.relates (R := fun a b => a.gates.Keeps ApprovalGate.terms b.gates)
    (fun _ => .refl _ _) .trans (fun _ hstep => hstep.gates_keep) (·.gates_keep)
  exact h.hpolicy.gates_keep.trans hrest

theorem chains_over : s.chains.Over ApprovalChainState.terms s'.chains := by
  have hrest := h.relates (R := fun a b => a.chains.Over ApprovalChainState.terms b.chains)
    (fun _ => .refl _ _) .trans (fun _ hstep => hstep.chains_over) (.of_eq ·.chains_eq)
  exact (Table.Over.of_eq h.hpolicy.chains_eq).trans hrest

theorem cases_keep : s.cases.Keeps CaseInstance.terms s'.cases := by
  have hrest := h.relates (R := fun a b => a.cases.Keeps CaseInstance.terms b.cases)
    (fun _ => .refl _ _) .trans (fun _ hstep => .of_eq hstep.cases_eq) (·.cases_grow.keeps)
  exact (Table.Keeps.of_eq h.hpolicy.cases_eq).trans hrest

theorem caseTypes_eq : s'.caseTypes = s.caseTypes := by
  have hrest := h.relates (R := fun a b => b.caseTypes = a.caseTypes) (fun _ => rfl)
    (fun hab hbc => hbc.trans hab) (fun _ hstep => hstep.caseTypes_eq) (·.caseTypes_eq)
  exact hrest.trans h.hpolicy.caseTypes_eq

/-- Only the gate of the decided request changes. -/
theorem gate_other (hne : k ≠ h.request.approvalGateId) : s'.gates.get? k = s.gates.get? k := by
  have hrest := h.relates (R := fun a b => b.gates.get? k = a.gates.get? k) (fun _ => rfl)
    (fun hab hbc => hbc.trans hab) (fun hgate hstep => hstep.gate_other (hgate ▸ hne)) fun hstep => by
      rcases hstep.gates with hsame | ⟨status, -, -, -, hclosed⟩
      · rw [hsame]
      · rw [hclosed, Table.get?_updateAt_ne hne]
  exact hrest.trans (h.hpolicy.gate_other hne)

end DecideStep

/-! ## Delegation -/

/-- `DelegateRequestInput`. -/
structure DelegateInput where
  requestId : Id
  actor : Actor
  delegatedToId : String
  reason : String

def ApprovalRequest.delegate (r : ApprovalRequest) (input : DelegateInput) (now : Instant) :
    ApprovalRequest :=
  { r with
    status := .delegated
    delegatedToId := some input.delegatedToId
    delegatedAt := some now
    decidedAt := some now
    decidedBy := some input.actor.id
    decision := some input.reason
    version := r.version + 1 }

def ApprovalRequest.handedTo (r : ApprovalRequest) (approver : String) (expiresAt : Instant)
    (hops : List DelegationHop) : ApprovalRequest where
  approvalGateId := r.approvalGateId
  approverId := approver
  tier := r.tier
  expiresAt := expiresAt
  delegationChain := hops

def delegateRequest (ctx : Ctx) (input : DelegateInput) (s : Store) : Except Err Store := do
  let r ← orFail (s.requests.get? input.requestId)
    "DelegateRequest: load request: sql: no rows in result set"
  let gate ← orFail (s.gates.get? r.approvalGateId)
    "DelegateRequest: load request: sql: no rows in result set"
  let actor := { input.actor with delegatedToId := some input.delegatedToId }
  validateApprovalTransition r.status .delegated actor
  let s := s.updateRequest input.requestId (fun r => r.delegate input ctx.now)
  let hop := { fromId := r.approverId, toId := input.delegatedToId, byId := some input.actor.id,
               delegatedAt := ctx.now : DelegationHop }
  let (newId, s) ← insertRequest s
    (r.handedTo input.delegatedToId r.expiresAt (r.delegationChain ++ [hop]))
  return s.publish
    { eventType := .approvalDelegated
      caseId := some gate.caseId
      taskId := some gate.taskId
      payload := .obj [("gate_id", .uuid r.approvalGateId), ("request_id", .uuid newId),
        ("case_id", .uuid gate.caseId), ("task_id", .uuid gate.taskId),
        ("approver_id", .str r.approverId), ("delegated_to_id", .str input.delegatedToId),
        ("request_status", .str "DELEGATED"), ("reason", .str input.reason)] }

/-- A delegation hands on one pending request. -/
theorem delegateRequest_step {input : DelegateInput} (h : delegateRequest ctx input s = .ok s') :
    ∃ r hops e, s.requests.get? input.requestId = some r ∧ r.status = .pending ∧
      s' = { s with
        requests := (s.requests.updateAt input.requestId
          (fun r => r.delegate input ctx.now)).insert
            (r.handedTo input.delegatedToId r.expiresAt hops)
        outbox := s.outbox.insert e } := by
  obtain ⟨r, hr, h⟩ := bind_ok h
  obtain ⟨gate, -, h⟩ := bind_ok h
  obtain ⟨⟨⟩, hguard, h⟩ := bind_ok h
  obtain ⟨⟨newId, s₁⟩, hinsert, h⟩ := bind_ok h
  obtain ⟨-, rfl⟩ := insertRequest_eq hinsert
  cases h
  exact ⟨r, _, _, orFail_eq_ok.mp hr, validateApprovalTransition_delegated hguard, rfl⟩

end LoanWorkflow
