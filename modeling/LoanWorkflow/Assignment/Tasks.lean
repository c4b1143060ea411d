import LoanWorkflow.Engine.Lifecycle
import LoanWorkflow.Engine.TaskClaims

/-! # Assigning tasks to users and teams

    Two layers assign tasks. The methods of the assignment manager run in the
    transaction of their caller. The functions of the multitenancy package
    check users, teams and permissions before they begin a transaction of
    their own. In both, the write is one `UPDATE` of a task with a condition.
-/

namespace LoanWorkflow

variable {s s' : Store}

/-! ## One write -/

/-- `UPDATE tasks SET .. WHERE id = .. AND ..` and its event. -/
structure TaskWrite where
  taskId : Id
  cond : Task → Bool
  set : Task → Task
  /-- The error when the statement finds no row. -/
  refused : Err
  event : Task → Event
  /-- What the foreign keys of the row ask of the other tables. -/
  refers : Store → Bool := fun _ => true
  violation : Err := ""

variable {w : TaskWrite}

def TaskWrite.run (w : TaskWrite) (s : Store) : Except Err Store := do
  let t ← orFail ((s.tasks.get? w.taskId).filter w.cond) w.refused
  ensure (w.refers s) w.violation
  return (s.updateTask w.taskId w.set).publish (w.event t)

theorem TaskWrite.run_step (h : w.run s = .ok s') :
    (∃ t, s.tasks.get? w.taskId = some t ∧ w.cond t = true) ∧
      s'.tasks = s.tasks.updateAt w.taskId w.set := by
  obtain ⟨t, hfound, h⟩ := bind_ok h
  obtain ⟨_, -, h⟩ := bind_ok h
  cases h
  rw [orFail_eq_ok, Option.filter_eq_some_iff] at hfound
  exact ⟨⟨t, hfound⟩, rfl⟩

theorem TaskWrite.run_ok {t : Task}
    (hget : s.tasks.get? w.taskId = some t) (hcond : w.cond t = true) (hrefers : w.refers s = true) :
    w.run s = .ok ((s.updateTask w.taskId w.set).publish (w.event t)) := by
  simp [TaskWrite.run, hget, Option.filter, hcond, hrefers, orFail, ensure]
  rfl

/-! ## Users and teams -/

def Store.hasUser (s : Store) (tenantId userId : String) : Bool :=
  (s.users.find? (fun u => u.tenantId == tenantId && u.userId == userId)).isSome

def Store.hasTeam (s : Store) (tenantId teamId : String) : Bool :=
  (s.teams.find? (fun team => team.tenantId == tenantId && team.teamId == teamId)).isSome

def Store.isMember (s : Store) (tenantId teamId userId : String) : Bool :=
  (s.teamMembers.find? (fun m =>
    m.tenantId == tenantId && m.teamId == teamId && m.userId == userId)).isSome

def Task.giveTo (t : Task) (userId : String) (now : Instant) : Task :=
  { t with status := .inProgress, assignedUserId := some userId, assignedAt := some now }

/-- A task that a user gets, with a new version. -/
def Task.takeBy (t : Task) (userId : String) (now : Instant) : Task :=
  { t.giveTo userId now with version := t.version + 1 }

/-! ## The manager -/

/-- The clock of the transaction and the tenant of the request. -/
structure ManagerContext where
  now : Instant
  tenant : Option String := none

/-- `InsertOutboxEvent`: the event has no case and no task; its tenant comes from the context. -/
def ManagerContext.event (ctx : ManagerContext) (eventType : EventType)
    (fields : List (String × Json)) : Event where
  eventType := eventType
  payload := .obj (fields ++ [("tenant_id", .str (tenantOrDefault ctx.tenant))])
  targetService := "case-orchestrator"
  tenantId := tenantOrDefault ctx.tenant

def foreignKeyViolation (context : String) : Err :=
  context ++ ": insert or update on table \"tasks\" violates foreign key constraint"

/-- The methods of the manager that find one task or fail. -/
inductive ManagerCall where
  | assignTaskToUser (taskId : Id) (userId tenantId assignedBy : String)
  | assignTaskToTeam (taskId : Id) (teamId tenantId assignedBy : String)
  | claimTask (taskId : Id) (userId tenantId : String)
  | unassignTask (taskId : Id) (tenantId unassignedBy reason : String)
  | reassignTask (taskId : Id) (toUserId tenantId reassignedBy reason : String)

/-- The write of a method. Only the first two look at the status of the task. -/
def ManagerCall.prepare (ctx : ManagerContext) (s : Store) : ManagerCall → Except Err TaskWrite
  | .assignTaskToUser taskId userId tenantId assignedBy => .ok
    { taskId
      cond := fun t => t.tenantId == tenantId &&
        (t.status == .pending || t.status == .assigned || t.status == .inProgress)
      set := fun t => t.giveTo userId ctx.now
      refused := "identity: task status is not assignable"
      refers := (·.hasUser tenantId userId)
      violation := foreignKeyViolation "AssignTaskToUser"
      event := fun _ => ctx.event .taskAssigned [("task_id", .uuid taskId),
        ("user_id", .str userId), ("assigned_by", .str assignedBy)] }
  | .assignTaskToTeam taskId teamId tenantId assignedBy => .ok
    { taskId
      cond := fun t => t.tenantId == tenantId && t.status == .pending
      set := fun t => { t with assignedTeamId := some teamId, status := .pending }
      refused := "identity: task status is not assignable"
      refers := (·.hasTeam tenantId teamId)
      violation := foreignKeyViolation "AssignTaskToTeam"
      event := fun _ => ctx.event .taskAssignedToTeam [("task_id", .uuid taskId),
        ("team_id", .str teamId), ("assigned_by", .str assignedBy)] }
  | .claimTask taskId userId tenantId => do
    let task ← orFail ((s.tasks.get? taskId).filter (·.tenantId == tenantId))
      "ClaimTask: load task: no rows in result set"
    ensure (task.assignedTeamId.all (fun teamId => s.isMember tenantId teamId userId))
      "identity: user is not a member of the designated team pool"
    return {
      taskId
      cond := fun t => t.tenantId == tenantId && t.assignedUserId.isNone &&
        t.version == task.version
      set := fun t => t.takeBy userId ctx.now
      refused := "identity: task has already been claimed or modified by another transaction"
      refers := (·.hasUser tenantId userId)
      violation := foreignKeyViolation "ClaimTask: update task"
      event := fun _ => ctx.event .taskClaimed [("task_id", .uuid taskId),
        ("user_id", .str userId)] }
  | .unassignTask taskId tenantId unassignedBy reason => .ok
    { taskId
      cond := fun t => t.tenantId == tenantId && t.assignedUserId.isSome
      set := fun t => { t with
        assignedUserId := none
        status := if t.status = .inProgress then .pending else t.status
        version := t.version + 1 }
      refused := "identity: task status is not assignable"
      event := fun _ => ctx.event .taskUnassigned [("task_id", .uuid taskId),
        ("unassigned_by", .str unassignedBy), ("reason", .str reason)] }
  | .reassignTask taskId toUserId tenantId reassignedBy reason => .ok
    { taskId
      cond := fun t => t.tenantId == tenantId
      set := fun t => t.takeBy toUserId ctx.now
      refused := "task not found"
      refers := (·.hasUser tenantId toUserId)
      violation := foreignKeyViolation "ReassignTask"
      event := fun _ => ctx.event .taskReassigned [("task_id", .uuid taskId),
        ("to_user_id", .str toUserId), ("reassigned_by", .str reassignedBy),
        ("reason", .str reason)] }

def ManagerCall.run (ctx : ManagerContext) (call : ManagerCall) (s : Store) : Except Err Store :=
  call.prepare ctx s >>= fun w => w.run s

def Task.toWorkbasket (t : Task) (workbasketId : Id) : Task :=
  { t with workbasketId := some workbasketId, assigneeId := none, status := .pending }

/-- No condition on the task, and no look at the result. -/
def assignToWorkbasket (ctx : ManagerContext) (taskId workbasketId : Id) (s : Store) :
    Except Err Store := do
  ensure ((s.tasks.get? taskId).isNone || (s.workbaskets.get? workbasketId).isSome)
    (foreignKeyViolation "failed to assign to workbasket")
  return (s.updateTask taskId (fun t => t.toWorkbasket workbasketId)).publish
    (ctx.event .taskQueued [("task_id", .uuid taskId), ("workbasket_id", .uuid workbasketId)])

/-! ## Requests -/

/-- What a function of the package takes from its request: the clock, the tenant and the user of
    the context, and the permissions that an earlier call has cached. -/
structure RequestContext where
  now : Instant
  tenant : Option String := none
  actor : String := ""
  cached : String → Option (List String) := fun _ => none

variable {rc : RequestContext}

def resolveTenantIDForOperation (rc : RequestContext) (tenantId fn : String) :
    Except Err String :=
  let tenantId := trimSpace tenantId
  match rc.tenant with
  | some fromCtx =>
    if tenantId = "" then .ok fromCtx
    else if tenantId = fromCtx then .ok tenantId
    else .error (fn ++ ": tenant mismatch context=" ++ fromCtx ++ " input=" ++ tenantId)
  | none => if tenantId = "" then .error (fn ++ ": tenant not found") else .ok tenantId

/-- The permissions of a user, from all roles. -/
def permissionsOf (lib : Library) (s : Store) (tenantId userId : String) : List String :=
  let assigned := (s.userRoles.rows.map Prod.snd).filter fun ur =>
    ur.tenantId == tenantId && ur.userId == userId
  let roles := assigned.flatMap fun ur => (s.roles.rows.map Prod.snd).filter fun r =>
    r.roleId == ur.roleId && r.tenantId == ur.tenantId
  (roles.flatMap (·.permissions)).map fun p => lib.toUpper (trimSpace p)

/-- `UserHasPermission`, of a user and a tenant that are given. -/
def userHasPermission (lib : Library) (rc : RequestContext) (s : Store)
    (userId tenantId permission : String) : Bool :=
  ((rc.cached (tenantId ++ ":" ++ userId)).getD (permissionsOf lib s tenantId userId)).contains
    permission

/-- The user is there, is neither suspended nor deactivated, and may claim tasks. -/
def ensureClaimant (lib : Library) (rc : RequestContext) (s : Store)
    (userId tenantId fn : String) : Except Err Unit := do
  let (_, user) ← orFail
    (s.users.find? (fun u => u.tenantId == tenantId && u.userId == userId))
    (fn ++ ": user not found")
  ensure (user.status != .suspended) (fn ++ ": user is suspended")
  ensure (user.status != .deactivated) (fn ++ ": user is deactivated")
  ensure (userHasPermission lib rc s userId tenantId "TASK_CLAIM")
    (fn ++ ": permission denied: TASK_CLAIM")

/-- The actor of a call, from its argument or from the context, may reassign tasks. -/
def ensureReassigner (lib : Library) (rc : RequestContext) (s : Store)
    (given tenantId fn argument : String) : Except Err (String × String) := do
  let actor := (nullIfEmptyString given).getD rc.actor
  ensure (actor != "") (fn ++ ": " ++ argument ++ " is required")
  let tenantId ← resolveTenantIDForOperation rc tenantId (fn ++ ": " ++ fn)
  ensure (userHasPermission lib rc s actor tenantId "TASK_REASSIGN")
    (fn ++ ": task reassignment forbidden")
  return (actor, tenantId)

/-- `publishUserTeamEventTx`. -/
def userTeamEvent (tenantId : String) (caseId taskId : Option Id) (eventType : EventType)
    (fields : List (String × Json)) : Event where
  eventType := eventType
  caseId := caseId
  taskId := taskId
  payload := .obj (fields ++ [("tenant_id", .str tenantId)])
  targetService := "case-orchestrator"
  tenantId := tenantId

/-- The event about a task, with the fields that all of them have. -/
def RequestContext.taskEvent (rc : RequestContext) (tenantId : String) (taskId : Id)
    (eventType : EventType) (fields : Task → List (String × Json)) (t : Task) : Event :=
  userTeamEvent tenantId (some t.caseId) (some taskId) eventType
    ([("task_id", .uuid taskId), ("case_id", .uuid t.caseId)] ++ fields t ++
      [("occurred_at", .num rc.now)])

def nullableString (v : Option String) : Json :=
  ((v.bind nullIfEmptyString).map Json.str).getD .null

/-! ## The functions of the package -/

/-- A task that loses its user; the service that claimed it stays. -/
def Task.dropUser (t : Task) : Task :=
  { t with
    assignedUserId := none
    status := .pending
    assignedAt := none
    version := t.version + 1 }

/-- The statuses in which a task can be unassigned or reassigned. -/
def TaskStatus.isReassignable : TaskStatus → Bool
  | .pending | .assigned | .inProgress | .awaitingExternal => true
  | _ => false

/-- The statuses in which `ClaimTask` takes a task; a worker may have claimed it. -/
def TaskStatus.isClaimable : TaskStatus → Bool
  | .pending | .assigned => true
  | _ => false

inductive UserCall where
  | assignTaskToUser (taskId : Id) (userId tenantId assignedBy : String)
  | assignTaskToTeam (taskId : Id) (teamId tenantId assignedBy : String)
  | claimTask (taskId : Id) (userId tenantId : String)
  | unassignTask (taskId : Id) (tenantId unassignedBy reason : String)
  | reassignTask (taskId : Id) (toUserId tenantId reassignedBy reason : String)

/-- What a function reads, without a lock, and the write that it prepares. Only `claimTask` reads
    the task; its write relies on the version that was read. -/
def UserCall.prepare (lib : Library) (rc : RequestContext) (s : Store) :
    UserCall → Except Err TaskWrite
  | .assignTaskToUser taskId userId tenantId assignedBy => do
    let userId := trimSpace userId
    ensure (userId != "") "AssignTaskToUser: taskID and userID are required"
    let tenantId ← resolveTenantIDForOperation rc tenantId "AssignTaskToUser: AssignTaskToUser"
    ensureClaimant lib rc s userId tenantId "AssignTaskToUser"
    return {
      taskId
      cond := fun t => t.tenantId == tenantId && t.status == .pending
      set := fun t => t.takeBy userId rc.now
      refused := "AssignTaskToUser: task is not assignable"
      event := rc.taskEvent tenantId taskId .taskAssigned fun _ =>
        [("assigned_user_id", .str userId),
          ("assigned_by", .str ((nullIfEmptyString assignedBy).getD "system"))] }
  | .assignTaskToTeam taskId teamId tenantId assignedBy => do
    let teamId := trimSpace teamId
    ensure (teamId != "") "AssignTaskToTeam: taskID and teamID are required"
    let tenantId ← resolveTenantIDForOperation rc tenantId "AssignTaskToTeam: AssignTaskToTeam"
    let (_, team) ← orFail
      (s.teams.find? (fun team => team.tenantId == tenantId && team.teamId == teamId))
      "AssignTaskToTeam: team not found"
    ensure (team.status != .disbanded) "AssignTaskToTeam: team is disbanded"
    return {
      taskId
      cond := fun t => t.tenantId == tenantId && t.status == .pending
      set := fun t => { t with
        assignedTeamId := some teamId
        assignedUserId := none
        status := .pending
        version := t.version + 1 }
      refused := "AssignTaskToTeam: task is not assignable"
      event := rc.taskEvent tenantId taskId .taskAssignedToTeam fun _ =>
        [("assigned_team_id", .str teamId),
          ("assigned_by", .str ((nullIfEmptyString assignedBy).getD "system"))] }
  | .claimTask taskId userId tenantId => do
    let userId := trimSpace userId
    ensure (userId != "") "ClaimTask: taskID and userID are required"
    let tenantId ← resolveTenantIDForOperation rc tenantId "ClaimTask: ClaimTask"
    ensureClaimant lib rc s userId tenantId "ClaimTask"
    let state ← orFail ((s.tasks.get? taskId).filter (·.tenantId == tenantId))
      "ClaimTask: task is not assignable"
    let teamId ← orFail (state.assignedTeamId.filter (trimSpace · != ""))
      "ClaimTask: task is not assignable"
    ensure (state.assignedUserId.bind nullIfEmptyString).isNone "ClaimTask: task already claimed"
    ensure state.status.isClaimable "ClaimTask: task is not assignable"
    ensure (s.isMember tenantId teamId userId) "ClaimTask: user is not a member of team"
    return {
      taskId
      cond := fun t => t.tenantId == tenantId && t.version == state.version &&
        t.assignedTeamId == some teamId && t.assignedUserId.isNone
      set := fun t => t.takeBy userId rc.now
      refused := "ClaimTask: task already claimed"
      event := rc.taskEvent tenantId taskId .taskClaimed fun _ =>
        [("claimed_by_user", .str userId), ("assigned_team_id", .str teamId)] }
  | .unassignTask taskId tenantId unassignedBy reason => do
    let (unassignedBy, tenantId) ←
      ensureReassigner lib rc s unassignedBy tenantId "UnassignTask" "unassignedBy"
    return {
      taskId
      cond := fun t => t.tenantId == tenantId && t.status.isReassignable
      set := Task.dropUser
      refused := "UnassignTask: task is not assignable"
      event := rc.taskEvent tenantId taskId .taskUnassigned fun t =>
        [("previous_user_id", nullableString t.assignedUserId),
          ("assigned_team_id", nullableString t.assignedTeamId),
          ("unassigned_by", .str unassignedBy), ("reason", .str (trimSpace reason))] }
  | .reassignTask taskId toUserId tenantId reassignedBy reason => do
    let toUserId := trimSpace toUserId
    ensure (toUserId != "") "ReassignTask: taskID and toUserID are required"
    let (reassignedBy, tenantId) ←
      ensureReassigner lib rc s reassignedBy tenantId "ReassignTask" "reassignedBy"
    ensureClaimant lib rc s toUserId tenantId "ReassignTask"
    return {
      taskId
      cond := fun t => t.tenantId == tenantId && t.status.isReassignable
      set := fun t => t.takeBy toUserId rc.now
      refused := "ReassignTask: task is not assignable"
      event := rc.taskEvent tenantId taskId .taskReassigned fun t =>
        [("from_user_id", nullableString t.assignedUserId), ("to_user_id", .str toUserId),
          ("assigned_team_id", nullableString t.assignedTeamId),
          ("reassigned_by", .str reassignedBy), ("reason", .str (trimSpace reason))] }

def UserCall.taskId : UserCall → Id
  | .assignTaskToUser k .. | .assignTaskToTeam k .. | .claimTask k .. | .unassignTask k ..
  | .reassignTask k .. => k

/-- The user who has the task after the call. -/
def UserCall.assignee : UserCall → Option String
  | .assignTaskToUser _ userId .. | .claimTask _ userId _ | .reassignTask _ userId .. =>
    some (trimSpace userId)
  | .assignTaskToTeam .. | .unassignTask .. => none

/-- What a call has seen of its task, and what its write asks of it. -/
def UserCall.Accepts (seen : Store) (t : Task) : UserCall → Prop
  | .assignTaskToUser .. | .assignTaskToTeam .. => t.status = .pending
  | .claimTask taskId .. => t.assignedUserId = none ∧
      ∃ state, seen.tasks.get? taskId = some state ∧ state.status.isClaimable = true
  | .unassignTask .. | .reassignTask .. => t.status.isReassignable = true

structure UserCall.Writes (call : UserCall) (seen : Store) (w : TaskWrite) : Prop where
  taskId : w.taskId = call.taskId
  refers : ∀ s, w.refers s = true
  user : ∀ t, (w.set t).assignedUserId = call.assignee
  status : ∀ t, (w.set t).status = if call.assignee.isSome then .inProgress else .pending
  accepts : ∀ t, w.cond t = true → call.Accepts seen t

theorem UserCall.prepare_writes {lib : Library} {seen : Store} {call : UserCall}
    (h : call.prepare lib rc seen = .ok w) : call.Writes seen w := by
  cases call with
  | assignTaskToTeam =>
    obtain ⟨_, -, h⟩ := bind_ok h
    obtain ⟨_, -, h⟩ := bind_ok h
    obtain ⟨_, -, h⟩ := bind_ok h
    obtain ⟨_, -, h⟩ := bind_ok h
    cases h
    exact ⟨rfl, fun _ => rfl, fun _ => rfl, fun _ => rfl, fun t ht => by simp_all [Accepts]⟩
  | claimTask =>
    obtain ⟨_, -, h⟩ := bind_ok h
    obtain ⟨_, -, h⟩ := bind_ok h
    obtain ⟨_, -, h⟩ := bind_ok h
    obtain ⟨state, hstate, h⟩ := bind_ok h
    obtain ⟨_, -, h⟩ := bind_ok h
    obtain ⟨_, -, h⟩ := bind_ok h
    obtain ⟨_, hclaimable, h⟩ := bind_ok h
    obtain ⟨_, -, h⟩ := bind_ok h
    cases h
    rw [orFail_eq_ok, Option.filter_eq_some_iff] at hstate
    rw [ensure_eq_ok] at hclaimable
    exact ⟨rfl, fun _ => rfl, fun _ => rfl, fun _ => rfl,
      fun t ht => ⟨by simp_all, state, hstate.1, hclaimable⟩⟩
  | unassignTask =>
    obtain ⟨_, -, h⟩ := bind_ok h
    cases h
    exact ⟨rfl, fun _ => rfl, fun _ => rfl, fun _ => rfl, fun t ht => by simp_all [Accepts]⟩
  | _ =>
    obtain ⟨_, -, h⟩ := bind_ok h
    obtain ⟨_, -, h⟩ := bind_ok h
    obtain ⟨_, -, h⟩ := bind_ok h
    cases h
    exact ⟨rfl, fun _ => rfl, fun _ => rfl, fun _ => rfl, fun t ht => by simp_all [Accepts]⟩

/-! ## Deactivation -/

/-- The tasks that `DeactivateUser` takes back. -/
def Task.isOpenOf (t : Task) (tenantId userId : String) : Bool :=
  t.tenantId == tenantId && t.assignedUserId == some userId &&
    (t.status == .inProgress || t.status == .pending)

def deactivateUser (rc : RequestContext) (userId tenantId deactivatedBy reason : String)
    (s : Store) : Except Err Store := do
  let userId := trimSpace userId
  let deactivatedBy := (nullIfEmptyString deactivatedBy).getD "system"
  ensure (userId != "") "DeactivateUser: userID is required"
  let tenantId ← resolveTenantIDForOperation rc tenantId "DeactivateUser: DeactivateUser"
  let (userKey, _) ← orFail
    (s.users.find? (fun u => u.tenantId == tenantId && u.userId == userId))
    "DeactivateUser: user not found"
  let held := s.tasks.rowsWhere (·.isOpenOf tenantId userId)
  let s := { s with
    users := s.users.updateAt userKey fun u => { u with status := .deactivated }
    tasks := s.tasks.updateWhere (·.isOpenOf tenantId userId) Task.dropUser }
  let s := held.foldl (fun s r => s.publish
    (userTeamEvent tenantId (some r.2.caseId) (some r.1) .taskUnassigned
      [("task_id", .uuid r.1), ("user_id", .str userId), ("unassigned_by", .str deactivatedBy),
        ("reason", .str (trimSpace reason)), ("source", .str "user_deactivation"),
        ("occurred_at", .num rc.now)])) s
  return s.publish (userTeamEvent tenantId none none .userDeactivated
    [("user_id", .str userId), ("deactivated_by", .str deactivatedBy),
      ("reason", .str (trimSpace reason)), ("unassigned_tasks", .num held.length),
      ("occurred_at", .num rc.now)])

theorem deactivateUser_tasks {userId tenantId deactivatedBy reason : String}
    (h : deactivateUser rc userId tenantId deactivatedBy reason s = .ok s') :
    ∃ tenant, s'.tasks =
      s.tasks.updateWhere (·.isOpenOf tenant (trimSpace userId)) Task.dropUser := by
  obtain ⟨_, -, h⟩ := bind_ok h
  obtain ⟨tenant, -, h⟩ := bind_ok h
  obtain ⟨user, -, h⟩ := bind_ok h
  cases h
  exact ⟨tenant, (publish_all_frame _ _ _).2.1⟩

end LoanWorkflow
