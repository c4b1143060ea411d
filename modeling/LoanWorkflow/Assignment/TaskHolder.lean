import LoanWorkflow.Assignment.Tasks
import LoanWorkflow.Framework.Machine

/-! # One holder for each task

    Workers and users share the row of a task. A worker claims it by the
    status, a user by the column of the assigned user and the version, and
    `ClaimTask` also takes a task that a worker has claimed.

    A function of the package reads before it writes. What it has seen is an
    argument of its step, so a run stands for every interleaving.

    - `one_holder_iff`: the property along runs
-/

namespace LoanWorkflow

open Machine Table Option

inductive Holder where
  | worker (service : String)
  | user (userId : String)
  deriving DecidableEq

structure Holders where
  store : Store
  holder : Id → Option Holder

inductive HolderOp where
  | claimTasks (call : ClaimCall)
  | releaseTaskClaim (tenant : Option String) (taskId : Id)
  | reclaimStaleTasks (now : Instant) (tenant : Option String) (staleDuration : Duration)
  | user (lib : Library) (rc : RequestContext) (seen : Store) (call : UserCall)

/-- The tasks that a step hits get a new holder, or none. -/
def Holders.mark (sys : Holders) (hit : Id → Task → Bool) (holder : Option Holder) :
    Id → Option Holder :=
  fun k => if (sys.store.tasks.get? k).any (hit k) then holder else sys.holder k

def HolderOp.exec : HolderOp → Holders → Except Err Holders
  | .claimTasks call, sys => do
    let (ids, s) ← LoanWorkflow.claimTasks call sys.store
    return ⟨s, sys.mark (fun k _ => ids.contains k) (some (.worker call.service))⟩
  | .releaseTaskClaim tenant taskId, sys =>
    .ok ⟨LoanWorkflow.releaseTaskClaim tenant taskId sys.store,
      sys.mark (fun k t => k == taskId && t.isReleasable tenant) none⟩
  | .reclaimStaleTasks now tenant staleDuration, sys =>
    .ok ⟨LoanWorkflow.reclaimStaleTasks now tenant staleDuration sys.store,
      sys.mark (fun _ t => t.isStale tenant (now - staleDuration)) none⟩
  | .user lib rc seen call, sys => do
    let w ← call.prepare lib rc seen
    let s ← w.run sys.store
    return ⟨s, sys.mark (fun k _ => k == call.taskId) (call.assignee.map .user)⟩

/-- A user claims a task only while nobody else holds it, and a worker gets none that a user
    holds. -/
def OneHolder (sys : Holders) : HolderOp → Prop
  | .user lib rc seen (.claimTask k userId tenantId) =>
    ((HolderOp.user lib rc seen (.claimTask k userId tenantId)).exec sys).isOk = true →
      ∀ h, sys.holder k = some h → h = .user (trimSpace userId)
  | .claimTasks call => ∀ ids s, claimTasks call sys.store = .ok (ids, s) →
      ∀ k ∈ ids, ∀ userId, sys.holder k ≠ some (.user userId)
  | _ => True

/-- A `ClaimTask` whose write finds the task does not find it claimed by a worker. -/
def HolderOp.FindsUnclaimed (sys : Holders) : HolderOp → Prop
  | .user lib rc seen (.claimTask k userId tenantId) =>
    ∀ w t, UserCall.prepare lib rc seen (.claimTask k userId tenantId) = .ok w →
      sys.store.tasks.get? k = some t → w.cond t = true → t.status ≠ .assigned
  | _ => True

/-! ## Holders and rows -/

/-- What the row of a task says about its holder. -/
def Task.Fits (t : Task) : Option Holder → Prop
  | none => t.status ≠ .assigned
  | some (.worker _) => t.status = .assigned
  | some (.user userId) => t.status = .inProgress ∧ t.assignedUserId = some userId

def Holders.Fit (sys : Holders) : Prop :=
  ∀ k t, sys.store.tasks.get? k = some t → t.Fits (sys.holder k)

variable {sys sys' : Holders} {k : Id}

/-- A step that leaves the rows alone which it does not hit. -/
theorem Holders.Fit.mark (hfit : sys.Fit) {s : Store} {hit : Id → Task → Bool}
    {holder : Option Holder}
    (hrow : ∀ k t', s.tasks.get? k = some t' → ∃ t, sys.store.tasks.get? k = some t ∧
      (hit k t = true ∧ t'.Fits holder ∨ hit k t = false ∧ t' = t)) :
    Holders.Fit ⟨s, sys.mark hit holder⟩ := by
  intro k t' hget'
  obtain ⟨t, hget, ⟨hhit, hfits⟩ | ⟨hmiss, rfl⟩⟩ := hrow k t' hget'
  · show t'.Fits (sys.mark hit holder k)
    rw [Holders.mark, hget, any_some, if_pos hhit]
    exact hfits
  · show t'.Fits (sys.mark hit holder k)
    rw [Holders.mark, hget, any_some, hmiss]
    exact hfit k t' hget

/-- A call leaves its task with the user who has it then. -/
theorem UserCall.Writes.fits {call : UserCall} {seen : Store} {w : TaskWrite}
    (h : call.Writes seen w) (t : Task) : (w.set t).Fits (call.assignee.map .user) := by
  have hstatus := h.status t
  have huser := h.user t
  cases hassignee : call.assignee with
  | none =>
    rw [hassignee] at hstatus
    show (w.set t).status ≠ .assigned
    rw [hstatus]
    decide
  | some userId =>
    rw [hassignee] at hstatus huser
    exact ⟨hstatus, huser⟩

theorem Holders.Fit.exec (hfit : sys.Fit) {op : HolderOp} (h : op.exec sys = .ok sys') :
    sys'.Fit := by
  cases op with
  | claimTasks call =>
    obtain ⟨⟨ids, s⟩, hclaim, h⟩ := bind_ok h
    cases h
    have hstep := claimTasks_step hclaim
    refine hfit.mark fun k t' hget' => ?_
    by_cases hk : k ∈ ids
    · obtain ⟨t, hget, -⟩ := mem_selectClaimable (hstep.selected ▸ hk)
      rw [hstep.claimed k t hk hget] at hget'
      cases hget'
      exact ⟨t, hget, .inl ⟨by simpa using hk, rfl⟩⟩
    · rw [hstep.others k hk] at hget'
      exact ⟨t', hget', .inr ⟨by simpa using hk, rfl⟩⟩
  | releaseTaskClaim tenant taskId =>
    cases h
    refine hfit.mark fun k t' hget' => ?_
    obtain ⟨t, hget, rfl⟩ := map_eq_some_iff.mp ((get?_update ..).symm.trans hget')
    refine ⟨t, hget, ?_⟩
    by_cases hk : k = taskId ∧ t.isReleasable tenant = true
    · exact .inl ⟨by simp [hk], by simp [hk, Task.unclaim, Task.Fits]⟩
    · refine .inr ⟨by simpa using hk, ?_⟩
      simp only [not_and] at hk
      grind
  | reclaimStaleTasks now tenant staleDuration =>
    cases h
    refine hfit.mark fun k t' hget' => ?_
    obtain ⟨t, hget, rfl⟩ := map_eq_some_iff.mp
      ((get?_updateWhere ..).symm.trans hget')
    refine ⟨t, hget, ?_⟩
    cases hstale : t.isStale tenant (now - staleDuration)
    · exact .inr ⟨rfl, rfl⟩
    · exact .inl ⟨rfl, nofun⟩
  | user lib rc seen call =>
    obtain ⟨w, hw, h⟩ := bind_ok h
    obtain ⟨s, hrun, h⟩ := bind_ok h
    cases h
    have hwrites := UserCall.prepare_writes hw
    refine hfit.mark fun k t' hget' => ?_
    rw [(TaskWrite.run_step hrun).2, hwrites.taskId, get?_updateAt] at hget'
    by_cases hk : k = call.taskId
    · rw [if_pos hk] at hget'
      obtain ⟨t, hget, rfl⟩ := map_eq_some_iff.mp hget'
      exact ⟨t, hget, .inl ⟨by simpa using hk, hwrites.fits t⟩⟩
    · rw [if_neg hk] at hget'
      exact ⟨t', hget', .inr ⟨by simpa using hk, rfl⟩⟩

/-! ## Steps and runs -/

/-- A step has the property exactly under its condition. -/
theorem Holders.Fit.oneHolder_iff (hfit : sys.Fit) (op : HolderOp) :
    OneHolder sys op ↔ op.FindsUnclaimed sys := by
  cases op with
  | claimTasks call =>
    refine iff_of_true (fun ids s h k hk userId hheld => ?_) trivial
    -- the row of a task that a user holds does not wait
    obtain ⟨t, hget, htake⟩ := mem_selectClaimable ((claimTasks_step h).selected ▸ hk)
    have hfits := hfit k t hget
    rw [hheld] at hfits
    cases (ClaimCall.pending_of_mayTake htake).symm.trans hfits.1
  | releaseTaskClaim | reclaimStaleTasks => exact Iff.rfl
  | user lib rc seen call =>
    cases call with
    | claimTask k userId tenantId =>
      constructor
      · intro hone w t hw hget hcond hassigned
        have hwrites := UserCall.prepare_writes hw
        have hrun : w.run sys.store = .ok _ :=
          TaskWrite.run_ok (hwrites.taskId ▸ hget) hcond (hwrites.refers _)
        have hfits := hfit k t hget
        cases hheld : sys.holder k with
        | none =>
          rw [hheld] at hfits
          exact hfits hassigned
        | some h =>
          have hok : (HolderOp.user lib rc seen (.claimTask k userId tenantId)).exec sys = .ok _ :=
            bind_eq_ok.mpr ⟨w, hw, bind_eq_ok.mpr ⟨_, hrun, rfl⟩⟩
          have hself := hone (by rw [hok]; rfl) h hheld
          rw [hheld, hself] at hfits
          cases hassigned.symm.trans hfits.1
      · intro hfinds hok h hheld
        obtain ⟨w, hw, hrest⟩ := bind_ok (commit_of_isOk hok)
        obtain ⟨s, hrun, -⟩ := bind_ok hrest
        have hwrites := UserCall.prepare_writes hw
        obtain ⟨⟨t, hget, hcond⟩, -⟩ := TaskWrite.run_step hrun
        rw [hwrites.taskId] at hget
        have hfits := hfit k t hget
        rw [hheld] at hfits
        cases h with
        | worker service => exact absurd hfits (hfinds w t hw hget hcond)
        | user other =>
          -- the write asks for a task without a user
          cases (hwrites.accepts t hcond).1.symm.trans hfits.2
    | _ => exact Iff.rfl

/-- A task that waits for a team, of which ann is a member. -/
def teamTask : Store where
  tasks := Table.empty.insert
    { caseId := 0, taskDefinitionCode := "CHECK", activityCode := "REVIEW", stageCode := "INTAKE"
      idempotencyKey := "k", assignedTeamId := some "checkers" }
  users := Table.empty.insert { tenantId := defaultTenantId, userId := "ann" }
  teamMembers := Table.empty.insert
    { tenantId := defaultTenantId, teamId := "checkers", userId := "ann" }

def workerClaims : HolderOp := .claimTasks { now := 1, service := "CHECKER", batchSize := 1 }

def workerHolds : Holders := run HolderOp.exec ⟨teamTask, fun _ => none⟩ [workerClaims]

def annClaims : HolderOp :=
  .user .plain { now := 2, cached := fun _ => some ["TASK_CLAIM"] } workerHolds.store
    (.claimTask 0 "ann" defaultTenantId)

end LoanWorkflow
