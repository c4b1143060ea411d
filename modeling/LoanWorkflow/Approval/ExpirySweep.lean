import LoanWorkflow.Approval.Requests

/-! # The expiry sweep

    One sweep expires overdue pending requests and applies the timeout action
    of each gate, all in one transaction. An error that the Go code returns is
    logged and leaves what was already written. An error of the database
    aborts the whole sweep.
-/

namespace LoanWorkflow

open List Table

variable {r : ApprovalRequest} {ctx : Ctx} {locked : Id → Bool} {batchSize : Nat}
  {logged : Option Err} {s s' : Store} {I : Store → Prop}

/-! ## Candidates -/

/-- A request that is due, with the row of its gate and the calendar of its case. -/
structure ExpiryCandidate where
  requestId : Id
  request : ApprovalRequest
  gate : ApprovalGate
  calendarId : Option Id

variable {cand : ExpiryCandidate}

def expiryCandidate? (s : Store) (now : Instant) (row : Id × ApprovalRequest) :
    Option ExpiryCandidate :=
  if row.2.status = .pending ∧ row.2.expiresAt < now then do
    let gate ← s.gates.get? row.2.approvalGateId
    let c ← s.cases.get? gate.caseId
    return { requestId := row.1, request := row.2, gate := gate, calendarId := c.sla.calendarId }
  else none

/-- The first candidates by expiry; rows that another transaction holds are skipped. -/
def expiryCandidates (s : Store) (now : Instant) (locked : Id → Bool) (batchSize : Nat) :
    List ExpiryCandidate :=
  (((s.requests.rows.filter (fun row => !locked row.1)).filterMap (expiryCandidate? s now)).insertionSort
    (fun a b => a.request.expiresAt ≤ b.request.expiresAt)).take batchSize

/-! ## Timeout actions -/

def ApprovalRequest.expire (r : ApprovalRequest) (now : Instant) : ApprovalRequest :=
  { r with
    status := .expired
    decidedAt := some now
    decidedBy := some "SYSTEM"
    version := r.version + 1 }

/-- The row after `autoApprove` or `autoReject`. -/
def ApprovalRequest.autoDecide (r : ApprovalRequest) (status : RequestStatus)
    (decision decidedBy : String) (now : Instant) : ApprovalRequest :=
  { r with
    status := status
    decision := some (r.decision.getD decision)
    decidedAt := some now
    decidedBy := some decidedBy
    version := r.version + 1 }

def ApprovalRequest.escalate (r : ApprovalRequest) (target : String) (now : Instant) :
    ApprovalRequest :=
  { r with
    status := .delegated
    delegatedToId := some target
    delegatedAt := some now
    version := r.version + 1 }

/-- The manager, else a user with the fallback role, else nobody. -/
def resolveEscalationTarget (ctx : Ctx) (approverId : String) (fallbackRole : Option String) :
    String :=
  let manager := (ctx.managerOf approverId).getD ""
  if manager ≠ "" then manager
  else if fallbackRole.getD "" = "" then ""
  else (ctx.activeUserByRole (fallbackRole.getD "")).getD ""

def computeEscalatedExpiry (ctx : Ctx) (timeoutHours : ℚ) (calendarId : Option Id) :
    Except Err Instant :=
  let duration :=
    if hoursToDuration timeoutHours ≤ 0 then hour else hoursToDuration timeoutHours
  match calendarId with
  | some calendarId =>
    match ctx.addBusinessHours ctx.now duration calendarId with
    | .ok dueAt => .ok dueAt
    | .error e => .error ("computeEscalatedExpiry: " ++ e)
  | none => .ok (ctx.now + duration)

/-- An error that is returned after the row was handed on leaves it handed on. -/
def escalate (ctx : Ctx) (cand : ExpiryCandidate) (s : Store) :
    Except Err (Option Err × Store) :=
  let target := resolveEscalationTarget ctx cand.request.approverId cand.gate.fallbackSupervisorRole
  if target = "" then .ok (some "escalate: no escalation target found", s)
  else
    let s := s.updateRequest cand.requestId (fun r => r.escalate target ctx.now)
    match computeEscalatedExpiry ctx cand.gate.approvalTimeoutHours cand.calendarId with
    | .error e => .ok (some e, s)
    | .ok expiresAt => do
      let hop := { fromId := cand.request.approverId, toId := target,
                   delegatedAt := ctx.now : DelegationHop }
      let (_, s) ← insertRequest s (cand.request.handedTo target expiresAt [hop])
      return (none, s)

/-- The timeout action of a gate, on an expired request. -/
def timeoutAction (ctx : Ctx) (cand : ExpiryCandidate) (s : Store) :
    Except Err (Option Err × Store) :=
  match cand.gate.onTimeoutAction with
  | .autoApprove =>
    .ok (none, s.updateRequest cand.requestId (fun r =>
      r.autoDecide .approved "AUTO_APPROVED: timeout reached" "SYSTEM_AUTO_APPROVE" ctx.now))
  | .autoReject =>
    .ok (none, s.updateRequest cand.requestId (fun r =>
      r.autoDecide .rejected "AUTO_REJECTED: timeout reached" "SYSTEM_AUTO_REJECT" ctx.now))
  | .escalate => escalate ctx cand s
  | .other name => .ok (some ("processCandidate: unsupported timeout action " ++ name), s)

def TimeoutAction.text : TimeoutAction → String
  | .autoApprove => "AUTO_APPROVE"
  | .autoReject => "AUTO_REJECT"
  | .escalate => "ESCALATE"
  | .other name => name

def expiredEvent (cand : ExpiryCandidate) : Event where
  eventType := .approvalExpired
  caseId := some cand.gate.caseId
  taskId := some cand.gate.taskId
  payload := .obj [("gate_id", .uuid cand.request.approvalGateId),
    ("request_id", .uuid cand.requestId), ("case_id", .uuid cand.gate.caseId),
    ("task_id", .uuid cand.gate.taskId), ("approver_id", .str cand.request.approverId),
    ("request_status", .str "EXPIRED"), ("timeout_action", .str cand.gate.onTimeoutAction.text),
    ("reason", .str "approval_request_expired")]

/-! ## The sweep -/

/-- The error that is logged, and the store. The chain of the gate is not
    walked. -/
def processCandidate (ctx : Ctx) (cand : ExpiryCandidate) (s : Store) :
    Except Err (Option Err × Store) :=
  match s.requests.get? cand.requestId with
  | none => .ok (none, s)
  | some r =>
    if r.status ≠ .pending then .ok (none, s)
    else do
      let s := s.updateRequest cand.requestId (fun r => r.expire ctx.now)
      let (logged, s) ← timeoutAction ctx cand s
      match logged with
      | some e => return (some e, s)
      | none =>
        let s := s.publish (expiredEvent cand)
        match evaluateApprovalPolicy s ctx.now cand.request.approvalGateId with
        | .error e => return (some ("processCandidate: evaluate policy: " ++ e), s)
        | .ok (_, s) => return (none, s)

def processCandidates (ctx : Ctx) : List ExpiryCandidate → Store → Except Err Store
  | [], s => .ok s
  | cand :: rest, s => do
    let (_, s) ← processCandidate ctx cand s
    processCandidates ctx rest s

/-- `ApprovalExpirySweepJob.Run`. -/
def expirySweep (ctx : Ctx) (locked : Id → Bool) (batchSize : Nat) (s : Store) :
    Except Err Store :=
  processCandidates ctx (expiryCandidates s ctx.now locked batchSize) s

/-! ## What a sweep does -/

/-- What the timeout action made of the requests. -/
inductive TimeoutMove (ctx : Ctx) (cand : ExpiryCandidate) (t : Table ApprovalRequest) :
    Table ApprovalRequest → Prop
  | expired : TimeoutMove ctx cand t (t.updateAt cand.requestId (fun r => r.expire ctx.now))
  | decided (status : RequestStatus) (decision decidedBy : String)
      (hstatus : status = .approved ∨ status = .rejected) :
      TimeoutMove ctx cand t (t.updateAt cand.requestId
        (fun r => (r.expire ctx.now).autoDecide status decision decidedBy ctx.now))
  | lost (target : String) (e : Err) (haction : cand.gate.onTimeoutAction = .escalate)
      (htarget : resolveEscalationTarget ctx cand.request.approverId
        cand.gate.fallbackSupervisorRole = target) (hne : target ≠ "")
      (hexpiry : computeEscalatedExpiry ctx cand.gate.approvalTimeoutHours cand.calendarId =
        .error e) :
      TimeoutMove ctx cand t (t.updateAt cand.requestId
        (fun r => (r.expire ctx.now).escalate target ctx.now))
  | escalated (target : String) (expiresAt : Instant) (hops : List DelegationHop) :
      TimeoutMove ctx cand t ((t.updateAt cand.requestId
        (fun r => (r.expire ctx.now).escalate target ctx.now)).insert
          (cand.request.handedTo target expiresAt hops))

/-- What a processed candidate did: nothing when the request is no longer pending, else a
    move on the requests and at most one evaluation of the gate. -/
inductive CandidateStep (ctx : Ctx) (cand : ExpiryCandidate) (s : Store) : Store → Prop
  | skipped : CandidateStep ctx cand s s
  | logged (r : ApprovalRequest) (t : Table ApprovalRequest) (outbox : Table Event)
      (hget : s.requests.get? cand.requestId = some r) (hpending : r.status = .pending)
      (hmove : TimeoutMove ctx cand s.requests t) :
      CandidateStep ctx cand s { s with requests := t, outbox := outbox }
  | evaluated (r : ApprovalRequest) (t : Table ApprovalRequest) (outbox : Table Event)
      (gate : ApprovalGate) (b : Bool) (s' : Store)
      (hget : s.requests.get? cand.requestId = some r) (hpending : r.status = .pending)
      (hmove : TimeoutMove ctx cand s.requests t)
      (hgate : s.gates.get? cand.request.approvalGateId = some gate)
      (hpolicy : PolicyStep { s with requests := t, outbox := outbox } ctx.now
        cand.request.approvalGateId gate b s') :
      CandidateStep ctx cand s s'

namespace TimeoutMove

variable {t t' : Table ApprovalRequest} (h : TimeoutMove ctx cand t t')

include h

theorem keeps_slots : t.Keeps ApprovalRequest.slot t' := by
  cases h with
  | escalated =>
    refine Table.Keeps.trans ?_ (Table.Keeps.insert _)
    exact .updateAt fun _ => rfl
  | _ => exact .updateAt fun _ => rfl

/-- The request of a supervisor takes the slot of the request it replaces. -/
theorem over_slots (hget : t.get? cand.requestId = some r)
    (hslot : r.slot = cand.request.slot) : t.Over ApprovalRequest.slot t' := by
  cases h with
  | escalated target expiresAt hops =>
    have hget' : (t.updateAt cand.requestId
        (fun r => (r.expire ctx.now).escalate target ctx.now)).get? cand.requestId =
        some ((r.expire ctx.now).escalate target ctx.now) := get?_updateAt_of_get? hget
    refine Table.Over.trans ?_ (Table.Over.insert hget' hslot.symm)
    exact .updateAt fun _ => rfl
  | _ => exact .updateAt fun _ => rfl

/-- Among the requests of some slots, a timeout takes no approval away and adds no vote. -/
theorem counts_le (hget : t.get? cand.requestId = some r) (hpending : r.status = .pending)
    (hslot : r.slot = cand.request.slot) (p : Id × Option Int → Bool) :
    (requestCounts t (fun r => p r.slot)).approved ≤ (requestCounts t' (fun r => p r.slot)).approved ∧
      (requestCounts t' (fun r => p r.slot)).total ≤ (requestCounts t (fun r => p r.slot)).total := by
  rw [requestCounts_total, requestCounts_total]
  simp only [requestCounts]
  have hrow : ∀ f : ApprovalRequest → ApprovalRequest, (f r).slot = r.slot →
      t.count (fun r => p r.slot && r.status == .approved) ≤
        (t.updateAt cand.requestId f).count (fun r => p r.slot && r.status == .approved) ∧
      (t.updateAt cand.requestId f).count (fun r => p r.slot && r.status != .delegated) +
          (if p r.slot then 1 else 0) =
        t.count (fun r => p r.slot && r.status != .delegated) +
          if p r.slot && (f r).status != .delegated then 1 else 0 := by
    intro f hf
    have happroved := count_updateAt hget f (fun r => p r.slot && r.status == .approved)
    have htotal := count_updateAt hget f (fun r => p r.slot && r.status != .delegated)
    simp [hpending, hf] at happroved htotal ⊢
    exact ⟨by omega, htotal⟩
  cases h with
  | escalated target expiresAt hops =>
    obtain ⟨happroved, htotal⟩ := hrow
      (fun r => (r.expire ctx.now).escalate target ctx.now) rfl
    have hnew : (cand.request.handedTo target expiresAt hops).slot = r.slot := hslot.symm
    rw [count_insert, count_insert, hnew]
    refine ⟨by omega, ?_⟩
    -- the old request stops counting and the new one starts
    simp [ApprovalRequest.escalate, ApprovalRequest.handedTo] at htotal ⊢
    omega
  | _ =>
    -- rewriting the request alone adds no vote, whatever its new status
    have hbit : ∀ b : Bool, (if p r.slot && b then 1 else 0) ≤ if p r.slot then 1 else 0 := by
      cases p r.slot <;> decide
    refine ⟨(hrow _ rfl).1, Nat.add_le_add_iff_right.mp ((hrow _ rfl).2.trans_le ?_)⟩
    exact Nat.add_le_add_left (hbit _) _

end TimeoutMove

/-- The move that a processed candidate made on the requests. -/
theorem CandidateStep.move (h : CandidateStep ctx cand s s') :
    s'.requests = s.requests ∨ ∃ r, s.requests.get? cand.requestId = some r ∧
      r.status = .pending ∧ TimeoutMove ctx cand s.requests s'.requests := by
  cases h with
  | skipped => exact Or.inl rfl
  | logged r t outbox hget hpending hmove => exact Or.inr ⟨r, hget, hpending, hmove⟩
  | evaluated r t outbox gate b s' hget hpending hmove hgate hpolicy =>
    refine Or.inr ⟨r, hget, hpending, ?_⟩
    rw [hpolicy.requests_eq]
    exact hmove

/-- What a processed candidate leaves alone. -/
theorem CandidateStep.frame (h : CandidateStep ctx cand s s') :
    s.gates.Keeps ApprovalGate.terms s'.gates ∧ s'.chains = s.chains ∧ s'.cases = s.cases ∧
      s'.caseTypes = s.caseTypes := by
  cases h with
  | evaluated r t outbox gate b s' hget hpending hmove hgate hpolicy =>
    exact ⟨hpolicy.gates_keep, hpolicy.chains_eq, hpolicy.cases_eq, hpolicy.caseTypes_eq⟩
  | _ => exact ⟨.refl _ _, rfl, rfl, rfl⟩

theorem timeoutAction_move
    (h : timeoutAction ctx cand (s.updateRequest cand.requestId (fun r => r.expire ctx.now)) =
      .ok (logged, s')) :
    ∃ t, TimeoutMove ctx cand s.requests t ∧ s' = { s with requests := t } := by
  unfold timeoutAction at h
  split at h
  · cases h
    refine ⟨_, .decided .approved "AUTO_APPROVED: timeout reached" "SYSTEM_AUTO_APPROVE"
      (Or.inl rfl), ?_⟩
    simp [Store.updateRequest]
  · cases h
    refine ⟨_, .decided .rejected "AUTO_REJECTED: timeout reached" "SYSTEM_AUTO_REJECT"
      (Or.inr rfl), ?_⟩
    simp [Store.updateRequest]
  · next haction =>
    unfold escalate at h
    simp only at h
    split at h
    · cases h
      exact ⟨_, .expired, rfl⟩
    · next hne =>
      split at h
      · next e hexpiry =>
        cases h
        exact ⟨_, .lost _ e haction rfl hne hexpiry, by simp [Store.updateRequest]⟩
      · next expiresAt hexpiry =>
        obtain ⟨⟨k, s₁⟩, hinsert, h⟩ := bind_ok h
        obtain ⟨-, rfl⟩ := insertRequest_eq hinsert
        cases h
        simp only [Store.updateRequest, updateAt_updateAt]
        exact ⟨_, .escalated _ expiresAt _, rfl⟩
  · cases h
    exact ⟨_, .expired, rfl⟩

theorem processCandidate_step (h : processCandidate ctx cand s = .ok (logged, s')) :
    CandidateStep ctx cand s s' := by
  unfold processCandidate at h
  split at h
  · cases h
    exact .skipped
  · next r hget =>
    split at h
    · cases h
      exact .skipped
    · next hpending =>
      rw [not_not] at hpending
      obtain ⟨⟨logged', s₁⟩, haction, h⟩ := bind_ok h
      obtain ⟨t, hmove, rfl⟩ := timeoutAction_move haction
      cases logged' with
      | some e =>
        cases h
        exact .logged r t s.outbox hget hpending hmove
      | none =>
        simp only at h
        split at h
        · cases h
          exact .logged r t _ hget hpending hmove
        · next b s₂ heval =>
          cases h
          obtain ⟨gate, hgate, hpolicy⟩ := evaluateApprovalPolicy_step heval
          exact .evaluated r t _ gate b _ hget hpending hmove hgate hpolicy

/-- What every processed candidate keeps, a sweep keeps. -/
theorem processCandidates_invariant {cands : List ExpiryCandidate}
    (hstep : ∀ cand ∈ cands, ∀ s s', I s → CandidateStep ctx cand s s' → I s') :
    ∀ {s s' : Store}, I s → processCandidates ctx cands s = .ok s' → I s' := by
  induction cands with
  | nil =>
    intro s s' hinv h
    cases h
    exact hinv
  | cons cand rest ih =>
    intro s s' hinv h
    obtain ⟨⟨logged, s₁⟩, hone, hrest⟩ := bind_ok h
    have hinv₁ := hstep cand (mem_cons_self ..) s s₁ hinv (processCandidate_step hone)
    exact ih (fun c hc => hstep c (mem_cons_of_mem _ hc)) hinv₁ hrest

/-- A candidate is a stored pending request. -/
theorem mem_expiryCandidates {now : Instant} (h : cand ∈ expiryCandidates s now locked batchSize) :
    s.requests.get? cand.requestId = some cand.request ∧
      s.gates.get? cand.request.approvalGateId = some cand.gate ∧
      cand.request.status = .pending := by
  have hmem := mem_of_mem_take h
  rw [mem_insertionSort, mem_filterMap] at hmem
  obtain ⟨row, hrow, hcand⟩ := hmem
  have hget : s.requests.get? row.1 = some row.2 :=
    get?_eq_some_iff.mpr (mem_of_mem_filter hrow)
  unfold expiryCandidate? at hcand
  split at hcand
  · next hdue =>
    simp only [Option.bind_eq_bind, Option.pure_def, Option.bind_eq_some_iff] at hcand
    obtain ⟨gate, hgate, c, -, hcand⟩ := hcand
    cases hcand
    exact ⟨hget, hgate, hdue.1⟩
  · cases hcand

/-- What every processed candidate keeps, a sweep keeps. The stored request of a candidate
    still has the slot that the sweep read for it. -/
theorem expirySweep_invariant
    (hstep : ∀ cand ∈ expiryCandidates s ctx.now locked batchSize, ∀ x x', I x →
      (∀ r, x.requests.get? cand.requestId = some r → r.slot = cand.request.slot) →
      CandidateStep ctx cand x x' → I x')
    (hinv : I s) (hok : expirySweep ctx locked batchSize s = .ok s') : I s' := by
  have hboth := processCandidates_invariant
    (I := fun x => I x ∧ s.requests.Keeps ApprovalRequest.slot x.requests) ?_
    ⟨hinv, .refl _ _⟩ hok
  · exact hboth.1
  · intro cand hcand x x' ⟨hx, hslots⟩ hone
    have hslot : ∀ r, x.requests.get? cand.requestId = some r → r.slot = cand.request.slot := by
      intro r hget
      obtain ⟨hrow, -, -⟩ := mem_expiryCandidates hcand
      obtain ⟨r', hget', hslot⟩ := hslots _ _ hrow
      obtain rfl := Option.mem_unique hget hget'
      exact hslot
    refine ⟨hstep cand hcand x x' hx hslot hone, hslots.trans ?_⟩
    rcases hone.move with hsame | ⟨r, -, -, hmove⟩
    · exact .of_eq hsame
    · exact hmove.keeps_slots

end LoanWorkflow
