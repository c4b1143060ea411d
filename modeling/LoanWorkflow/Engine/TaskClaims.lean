import LoanWorkflow.Exception.Failure

/-! # Claims on tasks

    A worker claims waiting tasks in batches, keeps them alive with
    heartbeats, and loses those whose heartbeat is too old. Nothing in the row
    of a task says which worker holds it: the claim writes the service only.

    The statements pass through `AssertTenantScope`. They stand here with the
    condition on the tenant that it is to add; when the text it returns has
    that condition is the subject of `LoanWorkflow.Tenancy.Restriction`.
-/

namespace LoanWorkflow

variable {s : Store} {t : Task}

/-! ## Tenant limits -/

/-- `tierMaxConfig`: the limit on tasks of a tier. -/
def TenantTier.maxConcurrentTasks : TenantTier → Int
  | .standard => 25000
  | .premium => 75000
  | .enterprise => 250000

/-- The limit on tasks of a normalized configuration. -/
def Tenant.taskLimit (tenant : Tenant) : Int :=
  if tenant.maxConcurrentTasks ≤ 0 then tenant.tier.maxConcurrentTasks
  else tenant.maxConcurrentTasks

def assertTenantStatus : TenantStatus → Except Err Unit
  | .active => .ok ()
  | .suspended => .error "tenant is suspended"
  | .offboarded => .error "tenant is offboarded"

/-- The statuses that count against the limit of a tenant. -/
def TaskStatus.isBusy : TaskStatus → Bool
  | .assigned | .inProgress | .awaitingExternal => true
  | _ => false

def enforceTenantTaskLimits (s : Store) (tenantId : String) : Except Err Unit := do
  let (_, tenant) ← orFail (s.tenants.find? (fun row => row.tenantId == tenantId))
    "EnforceTenantTaskLimits: loadTenantAndConfig: tenant not found"
  assertTenantStatus tenant.status
  let current := s.tasks.count (fun t => t.tenantId == tenantId && t.status.isBusy)
  ensure (decide ((current : Int) < tenant.taskLimit))
    ("EnforceTenantTaskLimits: tenant capacity exceeded: max_concurrent_tasks=" ++
      toString tenant.taskLimit ++ " current=" ++ toString current)

/-! ## Claiming -/

/-- A call of `ClaimTasks`; the tenant and the user come from its context. -/
structure ClaimCall where
  now : Instant
  tenant : Option String := none
  user : Option String := none
  service : String
  batchSize : Int
  /-- What the check of the limits sees, outside the transaction; none without its handle. -/
  limits : Option Store := none
  /-- The rows that other transactions have locked, which are skipped. -/
  locked : Id → Bool := fun _ => false
  /-- The order in which the database meets rows of equal urgency. -/
  rank : Id → Nat := id

variable {call : ClaimCall}

/-- The tenant of a call without one is the default tenant. -/
def tenantOrDefault (tenant : Option String) : String := tenant.getD defaultTenantId

def ClaimCall.mayTake (call : ClaimCall) (t : Task) : Bool :=
  t.status == .pending &&
    (t.assignedService.isNone || t.assignedService == some call.service) &&
    t.dueAt.all (fun dueAt => decide (dueAt ≤ call.now)) &&
    t.nextRetryAt.all (fun retryAt => decide (retryAt ≤ call.now)) &&
    !t.isPoisonPill && t.tenantId == tenantOrDefault call.tenant

/-- A due date comes before another, and a missing one last. -/
def dueBefore : Option Instant → Option Instant → Bool
  | some due, some due' => decide (due < due')
  | some _, none => true
  | none, _ => false

/-- `ORDER BY priority DESC, due_at ASC NULLS LAST`. -/
def ClaimCall.before (call : ClaimCall) (r r' : Id × Task) : Bool :=
  if r.2.priority ≠ r'.2.priority then decide (r'.2.priority < r.2.priority)
  else if dueBefore r.2.dueAt r'.2.dueAt then true
  else if dueBefore r'.2.dueAt r.2.dueAt then false
  else decide (call.rank r.1 ≤ call.rank r'.1)

def ClaimCall.limit (call : ClaimCall) : Nat :=
  if call.batchSize ≤ 0 then 10 else call.batchSize.toNat

/-- The tasks that the call selects and locks. -/
def selectClaimable (call : ClaimCall) (s : Store) : List Id :=
  (((s.tasks.rows.filter (fun r => call.mayTake r.2 && !call.locked r.1)).insertionSort
    (fun r r' => call.before r r' = true)).take call.limit).map Prod.fst

def Task.claim (t : Task) (call : ClaimCall) : Task :=
  { t with
    status := .assigned
    assignedService := some call.service
    assignedUserId := nullIfEmptyString (call.user.getD "") <|> t.assignedUserId
    assignedAt := some call.now
    lastHeartbeatAt := some call.now
    version := t.version + 1 }

/-- The check of the limits, where there is one. -/
def ClaimCall.checkLimits (call : ClaimCall) : Except Err Unit :=
  match call.limits with
  | some seen =>
    Except.mapError ("ClaimTasks: enforce tenant task limits: " ++ ·)
      (enforceTenantTaskLimits seen (tenantOrDefault call.tenant))
  | none => .ok ()

/-- The claimed tasks and the store. -/
def claimTasks (call : ClaimCall) (s : Store) : Except Err (List Id × Store) := do
  call.checkLimits
  let ids := selectClaimable call s
  return (ids, { s with
    tasks := s.tasks.update (fun k t =>
      if ids.contains k && t.tenantId == tenantOrDefault call.tenant then t.claim call else t) })

/-! ## Losing a claim -/

def Task.unclaim (t : Task) : Task :=
  { t with
    status := .pending
    assignedService := none
    assignedUserId := none
    assignedAt := none
    lastHeartbeatAt := none
    version := t.version + 1 }

/-- Does `ReleaseTaskClaim` find the row? -/
def Task.isReleasable (t : Task) (tenant : Option String) : Bool :=
  t.status == .assigned && t.tenantId == tenantOrDefault tenant

def releaseTaskClaim (tenant : Option String) (taskId : Id) (s : Store) : Store :=
  s.updateTask taskId (fun t => if t.isReleasable tenant then t.unclaim else t)

/-- The statuses of a task that a worker has. -/
def TaskStatus.isHeld : TaskStatus → Bool
  | .assigned | .inProgress => true
  | _ => false

/-- Does `Heartbeat` find the row? -/
def Task.isBeating (t : Task) (tenant : Option String) : Bool :=
  t.status.isHeld && t.tenantId == tenantOrDefault tenant

def heartbeat (now : Instant) (tenant : Option String) (taskId : Id) (s : Store) :
    Except Err Store := do
  ensure ((s.tasks.get? taskId).any (·.isBeating tenant))
    ("task " ++ toString taskId ++ " not found or not in claimable state")
  return s.updateTask taskId (fun t => { t with lastHeartbeatAt := some now })

/-- Has the heartbeat of the task gone stale? -/
def Task.isStale (t : Task) (tenant : Option String) (cutoff : Instant) : Bool :=
  t.status.isHeld && t.lastHeartbeatAt.any (fun beat => decide (beat < cutoff)) &&
    t.tenantId == tenantOrDefault tenant

def reclaimStaleTasks (now : Instant) (tenant : Option String) (staleDuration : Duration)
    (s : Store) : Store :=
  { s with tasks := s.tasks.updateWhere (·.isStale tenant (now - staleDuration)) Task.unclaim }

/-! ## The legacy retry -/

/-- `time.Duration(math.Pow(2, float64(retryCount)))`; a power beyond 64 bits becomes the least
    integer, as on amd64. -/
def retryFactor (retryCount : Int) : Int :=
  if retryCount < 0 then 0
  else if retryCount < 63 then 2 ^ retryCount.toNat
  else -(2 ^ 63)

/-- A task that the legacy path puts back into the queue. -/
def Task.scheduleRetry (t : Task) (retryCount : Int) (nextRetry : Instant) : Task :=
  { t.unclaim with
    retryCount := retryCount
    nextRetryAt := some nextRetry
    errorDetail := none }

def scheduleRetry (now : Instant) (tenant : Option String) (baseInterval : Duration) (taskId : Id)
    (s : Store) : Except Err Store := do
  let t ← orFail ((s.tasks.get? taskId).filter (·.tenantId == tenantOrDefault tenant))
    ("failed to read retry state for task " ++ toString taskId ++ ": no rows in result set")
  let newRetryCount := t.retryCount + 1
  ensure (decide (newRetryCount ≤ t.maxRetries))
    ("task " ++ toString taskId ++ " has exceeded max_retries (" ++ toString t.maxRetries ++ ")")
  let backoff := (retryFactor t.retryCount * baseInterval).bmod (2 ^ 64)
  return s.updateTask taskId (fun t => t.scheduleRetry newRetryCount (now + backoff))

/-! ## What the operations do -/

theorem mem_selectClaimable {k : Id} (h : k ∈ selectClaimable call s) :
    ∃ t, s.tasks.get? k = some t ∧ call.mayTake t = true := by
  obtain ⟨r, hr, rfl⟩ := List.mem_map.mp h
  obtain ⟨hget, htake⟩ := Table.mem_selection hr
  exact ⟨r.2, hget, (Bool.and_eq_true _ _ ▸ htake).1⟩

theorem ClaimCall.pending_of_mayTake (h : call.mayTake t = true) : t.status = .pending := by
  unfold ClaimCall.mayTake at h
  simp only [Bool.and_eq_true, beq_iff_eq] at h
  exact h.1.1.1.1.1

theorem selectClaimable_nodup (call : ClaimCall) (s : Store) : (selectClaimable call s).Nodup :=
  s.tasks.nodup_selection

theorem ClaimCall.tenant_of_mayTake (h : call.mayTake t = true) :
    t.tenantId = tenantOrDefault call.tenant := by
  unfold ClaimCall.mayTake at h
  simp only [Bool.and_eq_true, beq_iff_eq] at h
  exact h.2

/-- A claim assigns the selected tasks and leaves the others alone. -/
structure ClaimStep (call : ClaimCall) (ids : List Id) (s s' : Store) : Prop where
  selected : ids = selectClaimable call s
  cases : s'.cases = s.cases
  claimed : ∀ k t, k ∈ ids → s.tasks.get? k = some t → s'.tasks.get? k = some (t.claim call)
  others : ∀ k, k ∉ ids → s'.tasks.get? k = s.tasks.get? k

theorem claimTasks_step {s' : Store} {ids : List Id}
    (h : claimTasks call s = .ok (ids, s')) : ClaimStep call ids s s' := by
  obtain ⟨_, -, h⟩ := bind_ok h
  cases h
  refine ⟨rfl, rfl, ?_, ?_⟩
  · intro k t hk ht
    obtain ⟨t', ht', htake⟩ := mem_selectClaimable hk
    have hsame : t' = t := Option.some.inj (ht'.symm.trans ht)
    subst hsame
    -- the tenant was one of the conditions of the selection
    simp [ht, hk, ClaimCall.tenant_of_mayTake htake]
  · intro k hk
    simp [hk]

end LoanWorkflow
