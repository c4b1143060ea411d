import LoanWorkflow.Engine.WorkerLoop
import LoanWorkflow.Framework.Machine

/-! # Work on suspended cases

    Suspending a case puts its open tasks back into the queue and says so on
    the row of the case. Neither the claim of a task nor a change of its
    status reads that row. So a suspended case is at rest only as long as no
    worker claims, starts or completes one of its tasks
    (`completed_while_suspended`).

    - `suspension_stops_work`: the property along runs
-/

namespace LoanWorkflow

open Machine

/-! ## The property -/

/-- Does the row of the case say that it was suspended? `SuspendCase` writes the reason and
    `ResumeCase` clears it; an exception in between leaves it there. -/
def onHold (s : Store) (caseId : Id) : Bool :=
  (s.cases.get? caseId).any (·.suspendReason.isSome)

/-- The call claims the task, or writes that it is in progress or completed. -/
def LoopOp.Puts (op : LoopOp) (sys : WorkerSystem) (k : Id) (status : TaskStatus) : Prop :=
  match op with
  | .work _ (.claimTasks call) => status = .assigned ∧ k ∈ selectClaimable call sys.store
  | .work w op => (sys.workers w).queue.head? = some k ∧ op.Writes sys.store k status
  | _ => False

/-- The call puts no task of a case to work that is on hold. -/
def RespectsHold (sys : WorkerSystem) (op : LoopOp) : Prop :=
  ∀ k t status, op.Puts sys k status → sys.store.tasks.get? k = some t → t.status ≠ status →
    onHold sys.store t.caseId = false

/-- No task of a suspended case becomes assigned, in progress or completed. The call that
    suspends the case and the one that resumes it count as well. -/
def StaysStopped (sys : WorkerSystem) (_ : LoopOp) (sys' : WorkerSystem) : Prop :=
  ∀ k t status, sys'.store.tasks.get? k = some t →
    sys.suspended t.caseId = true ∨ sys'.suspended t.caseId = true →
    status.isWork = true → ¬ Enters k status sys.store sys'.store

/-! ## Tasks that are put to work -/

section Stores

variable {s s' : Store} {k : Id} {status : TaskStatus}

theorem statusOf_eq_some : statusOf s k = some status ↔
    ∃ t, s.tasks.get? k = some t ∧ t.status = status := Option.map_eq_some_iff

/-- Tasks that are put back are not worked on. -/
theorem statusOf_updateWhere {p : Task → Bool} {f : Task → Task} (hf : ∀ t, (f t).status = .pending)
    (htasks : s'.tasks = s.tasks.updateWhere p f) (hwork : status.isWork = true)
    (hafter : statusOf s' k = some status) : statusOf s k = some status := by
  obtain ⟨t', ht', hstatus⟩ := statusOf_eq_some.mp hafter
  rw [htasks, Table.get?_updateWhere] at ht'
  obtain ⟨t, ht, hrow⟩ := Option.map_eq_some_iff.mp ht'
  by_cases hp : p t = true
  · -- the task waits now
    rw [if_pos hp] at hrow
    rw [← hstatus, ← hrow, hf t] at hwork
    cases hwork
  · rw [if_neg hp] at hrow
    exact statusOf_eq_some.mpr ⟨t, ht, hrow ▸ hstatus⟩

theorem statusOf_of_grows (hgrows : s.tasks.Grows Task.place (fun _ => False) s'.tasks)
    (hafter : statusOf s' k = some status) : statusOf s k = some status := by
  obtain ⟨t', ht', hstatus⟩ := statusOf_eq_some.mp hafter
  obtain ⟨t, ht, hplace⟩ := (hgrows.adds k t' ht').resolve_right id
  have hsame : t'.status = t.status := congrArg Prod.snd hplace
  exact statusOf_eq_some.mpr ⟨t, ht, hsame ▸ hstatus⟩

/-- A call about one task puts no other task to work. -/
theorem RowFrame.statusOf_of_ne {j : Id} (h : RowFrame k s s') (hne : j ≠ k)
    (hwork : status.isWork = true) (hafter : statusOf s' j = some status) :
    statusOf s j = some status := by
  obtain ⟨t', ht', hstatus⟩ := statusOf_eq_some.mp hafter
  cases hrow : s.tasks.get? j with
  | none =>
    -- a new task waits
    rw [h.added j t' hrow ht'] at hstatus
    rw [← hstatus] at hwork
    cases hwork
  | some t =>
    have hsame : t = t' := Option.some.inj ((h.others j t hne hrow).symm.trans ht')
    exact statusOf_eq_some.mpr ⟨t, hrow, hsame ▸ hstatus⟩

end Stores

section Steps

variable {op : LoopOp} {sys sys' : WorkerSystem} {k : Id} {status : TaskStatus} {w : WorkerId}

theorem LoopOp.Puts.of_writes {op : WorkerOp}
    (hhead : (sys.workers w).queue.head? = some k) (hwrites : op.Writes sys.store k status) :
    (LoopOp.work w op).Puts sys k status := by
  cases op with
  | claimTasks call => exact hwrites.elim
  | _ => exact ⟨hhead, hwrites⟩

/-- The row that the call puts to work, before and after it. -/
def PutsRow (op : LoopOp) (sys sys' : WorkerSystem) (k : Id) (status : TaskStatus) : Prop :=
  op.Puts sys k status ∧ ∃ t t', sys.store.tasks.get? k = some t ∧
    sys'.store.tasks.get? k = some t' ∧ t'.caseId = t.caseId

theorem ClaimsBatch.puts {call : ClaimCall} (h : ClaimsBatch call w sys sys')
    (henters : Enters k status sys.store sys'.store) :
    PutsRow (.work w (.claimTasks call)) sys sys' k status := by
  by_cases hk : k ∈ (sys'.workers w).queue
  · have hselected : k ∈ selectClaimable call sys.store := h.claim.selected ▸ hk
    obtain ⟨t, ht, -⟩ := mem_selectClaimable hselected
    have ht' := h.claim.claimed k t hk ht
    obtain ⟨t₁, ht₁, hstatus⟩ := statusOf_eq_some.mp henters.2
    have hassigned : status = .assigned := by
      rw [← hstatus, Option.some.inj (ht₁.symm.trans ht')]
      rfl
    exact ⟨⟨hassigned, hselected⟩, t, t.claim call, ht, ht', rfl⟩
  · -- a task outside the batch is not written
    have hsame : statusOf sys'.store k = statusOf sys.store k := by
      unfold statusOf
      rw [h.claim.others k hk]
    exact absurd (hsame ▸ henters.2) henters.1

theorem HeadStep.puts {op : WorkerOp} {j : Id} {rest : List Id}
    (h : HeadStep op w j rest sys sys') (hwork : status.isWork = true)
    (henters : Enters k status sys.store sys'.store) : PutsRow (.work w op) sys sys' k status := by
  by_cases hk : k = j
  · subst hk
    have hwrites := (h.status status henters.2 hwork).resolve_left henters.1
    refine ⟨.of_writes (by rw [h.queue]; rfl) hwrites, ?_⟩
    obtain ⟨t', ht', hstatus⟩ := statusOf_eq_some.mp henters.2
    cases hrow : sys.store.tasks.get? k with
    | none =>
      rw [← hstatus, h.frame.added k t' hrow ht'] at hwork
      cases hwork
    | some t =>
      obtain ⟨t₁, ht₁, hcase⟩ := h.frame.row t hrow
      exact ⟨t, t₁, rfl, ht₁, hcase⟩
  · exact absurd (h.frame.statusOf_of_ne hk hwork henters.2) henters.1

/-- Only claiming, starting and completing a task put it to work, and they leave it in its
    case. -/
theorem exec_puts (h : sys.exec op = .ok sys') (hwork : status.isWork = true)
    (henters : Enters k status sys.store sys'.store) : PutsRow op sys sys' k status := by
  cases op with
  | suspendCase ctx caseId reason resumeAt =>
    obtain ⟨store, hsuspend, h⟩ := bind_ok h
    cases h
    have htasks : store.tasks = sys.store.tasks.updateWhere
        (fun t => t.caseId == caseId && t.status.isOpen) Task.requeue :=
      (suspendCase_step hsuspend).2.1
    exact absurd (statusOf_updateWhere (fun _ => rfl) htasks hwork henters.2) henters.1
  | resumeCase ctx caseId =>
    obtain ⟨store, hresume, h⟩ := bind_ok h
    cases h
    exact absurd (statusOf_of_grows (resumeCase_step hresume).2 henters.2) henters.1
  | releaseCase ctx caseId userId =>
    obtain ⟨store, hrelease, h⟩ := bind_ok h
    cases h
    have htasks : store.tasks = sys.store.tasks.updateWhere
        (fun t => t.caseId == caseId && (t.status != .pending && t.status.isOpen)) Task.requeue :=
      (releaseCase_step hrelease).2.1
    exact absurd (statusOf_updateWhere (fun _ => rfl) htasks hwork henters.2) henters.1
  | reclaimStaleTasks now tenant staleDuration =>
    cases h
    have htasks : (reclaimStaleTasks now tenant staleDuration sys.store).tasks =
        sys.store.tasks.updateWhere (·.isStale tenant (now - staleDuration)) Task.unclaim := rfl
    exact absurd (statusOf_updateWhere (fun _ => rfl) htasks hwork henters.2) henters.1
  | work w op =>
    rcases work_cases h with ⟨call, rfl, hbatch⟩ | rfl | ⟨j, rest, hhead⟩
    · exact hbatch.puts henters
    · -- a worker that stops writes nothing
      exact absurd henters.2 henters.1
    · exact hhead.puts hwork henters

/-! ## Suspensions -/

/-- Every suspended case says so on its row. -/
def Marked (sys : WorkerSystem) : Prop :=
  ∀ caseId, sys.suspended caseId = true → onHold sys.store caseId = true

theorem onHold_of_keeps {s s' : Store} {caseId : Id}
    (h : s.cases.Keeps CaseInstance.suspendReason s'.cases) (hhold : onHold s caseId = true) :
    onHold s' caseId = true := by
  obtain ⟨c, hc, hheld⟩ := (Option.any_eq_true _ _).mp hhold
  obtain ⟨c', hc', hreason⟩ := h caseId c hc
  rw [onHold, hc', Option.any_some, hreason]
  exact hheld

theorem work_suspended {op : WorkerOp} (h : sys.work w op = .ok sys') :
    sys'.suspended = sys.suspended := by
  rcases work_cases h with ⟨call, -, hbatch⟩ | rfl | ⟨k, rest, hhead⟩
  · exact hbatch.suspended
  · rfl
  · exact hhead.suspended

theorem work_keeps {op : WorkerOp} (h : sys.work w op = .ok sys') :
    sys.store.cases.Keeps CaseInstance.suspendReason sys'.store.cases := by
  rcases work_cases h with ⟨call, -, hbatch⟩ | rfl | ⟨k, rest, hhead⟩
  · exact .of_eq hbatch.claim.cases
  · exact .refl _ _
  · exact hhead.frame.cases

/-- The row of a suspended case says so after every call. -/
theorem Marked.exec (hmarked : Marked sys) (h : sys.exec op = .ok sys') : Marked sys' := by
  cases op with
  | suspendCase ctx caseId reason resumeAt =>
    obtain ⟨store, hsuspend, h⟩ := bind_ok h
    cases h
    intro other hother
    dsimp only at hother
    by_cases hcase : other = caseId
    · obtain ⟨c, hc, hreason⟩ := (suspendCase_step hsuspend).2.2
      rw [hcase]
      simp [onHold, hc, hreason]
    · rw [Function.update_of_ne hcase] at hother
      have hrow := (suspendCase_step hsuspend).1.others other hcase
      show (store.cases.get? other).any _ = true
      rw [hrow]
      exact hmarked other hother
  | resumeCase ctx caseId =>
    obtain ⟨store, hresume, h⟩ := bind_ok h
    cases h
    intro other hother
    dsimp only at hother
    by_cases hcase : other = caseId
    · rw [hcase, Function.update_self] at hother
      cases hother
    · rw [Function.update_of_ne hcase] at hother
      have hrow := (resumeCase_step hresume).1.others other hcase
      show (store.cases.get? other).any _ = true
      rw [hrow]
      exact hmarked other hother
  | releaseCase ctx caseId userId =>
    obtain ⟨store, hrelease, h⟩ := bind_ok h
    cases h
    intro other hother
    exact onHold_of_keeps (releaseCase_step hrelease).2.2 (hmarked other hother)
  | reclaimStaleTasks now tenant staleDuration =>
    cases h
    exact hmarked
  | work w op =>
    intro other hother
    rw [work_suspended h] at hother
    exact onHold_of_keeps (work_keeps h) (hmarked other hother)

/-- A call that respects the holds starts no work on a suspended case. -/
theorem staysStopped_of_respectsHold (hmarked : Marked sys) (hrespects : RespectsHold sys op)
    (h : sys.exec op = .ok sys') : StaysStopped sys op sys' := by
  intro k t' status ht' hsuspended hwork henters
  obtain ⟨hputs, t, t₁, ht, ht₁, hcase⟩ := exec_puts h hwork henters
  have hsame : t₁ = t' := Option.some.inj (ht₁.symm.trans ht')
  subst hsame
  have hchanges : t.status ≠ status :=
    fun hstatus => henters.1 (statusOf_eq_some.mpr ⟨t, ht, hstatus⟩)
  have hfree := hrespects k t status hputs ht hchanges
  -- the call is one of a worker, so it suspends and resumes nothing
  have hstays : sys'.suspended = sys.suspended := by
    cases op with
    | work w op => exact work_suspended h
    | _ => exact hputs.elim
  rw [hstays, or_self, hcase] at hsuspended
  rw [hmarked t.caseId hsuspended] at hfree
  cases hfree

end Steps

/-- Where no case is on hold, every call respects the holds. -/
theorem respectsHold_of_none {sys : WorkerSystem} {op : LoopOp}
    (h : sys.store.cases.rows.all (fun r => r.2.suspendReason.isNone) = true) :
    RespectsHold sys op := by
  intro k t status _ _ _
  unfold onHold
  cases hc : sys.store.cases.get? t.caseId with
  | none => rfl
  | some c =>
    have hnone := List.all_eq_true.mp h _ (Table.get?_eq_some_iff.mp hc)
    rw [Option.any_some, Option.isNone_iff_eq_none.mp hnone]
    rfl

/-- A worker claims the task, and starts it only after the case has been suspended and resumed. -/
def startAfterResumption : List LoopOp :=
  [.work 0 (.claimTasks (anyBatch 1)), .suspendCase (.plain 2) 0 "fraud check" none,
    .reclaimStaleTasks 3 none 1, .resumeCase (.plain 4) 0,
    .work 0 (.start noFaults .plain (.plain 5))]

/-- A worker starts the task, the case is suspended, and the worker completes the task. -/
def completionAfterSuspension : List LoopOp :=
  [.work 0 (.claimTasks (anyBatch 1)), .work 0 (.start noFaults .plain (.plain 2)),
    .work 0 (.proceed none), .suspendCase (.plain 3) 0 "fraud check" none,
    .work 0 (.finish (.completed none) noFaults .plain (.plain 4))]

/-- A claim takes tasks of a suspended case as well. -/
example : statusOf (run WorkerSystem.exec (.initial waitingTask)
    [.suspendCase (.plain 1) 0 "fraud check" none, .work 0 (.claimTasks (anyBatch 2))]).store 0 =
      some .assigned := by decide

end LoanWorkflow
