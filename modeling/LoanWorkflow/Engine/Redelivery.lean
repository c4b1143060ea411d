import LoanWorkflow.Engine.Orchestrator
import LoanWorkflow.Framework.Machine

/-! # Redelivered stage events

    The outbox delivers an event at least once. When `CASE_STAGE_CHANGED` comes
    again, `CreateTask` finds the tasks that are there already, and the rest of
    the loop body runs on them as if they were new: the SLA is computed from the
    current time and stored over the old one, the gate is stored again, the
    task goes back to its default team, and the events are published again.

    - `redelivery_iff`: the first along runs of deliveries, by the second
-/

namespace LoanWorkflow

open Table Machine

variable {config : CaseTypeConfig} {ctx : Ctx} {caseId k : Id} {lib : Library} {amount : Option ℚ}
  {s s' : Store} {stageCode tenantId : String} {task : Task} {f : Task → Task}

/-! ## Deliveries -/

/-- The event is delivered, or anything happens between two deliveries. -/
inductive RedeliveryOp where
  | deliver (ctx : Ctx)
  | between (change : Store → Store)

def RedeliveryOp.exec (lib : Library) (event : Event) : RedeliveryOp → Store → Except Err Store
  | .deliver ctx, s => onCaseStageChanged lib ctx event s
  | .between change, s => .ok (change s)

/-- Every task and every gate that was there is as before, and no event was published. -/
structure ChangesNothing (s s' : Store) : Prop where
  tasks : ∀ k t, s.tasks.get? k = some t → s'.tasks.get? k = some t
  gates : ∀ k g, s.gates.get? k = some g → s'.gates.get? k = some g
  outbox : s'.outbox = s.outbox

/-- The same, as a property of the deliveries of a run. -/
def DeliveryChangesNothing (s : Store) (op : RedeliveryOp) (s' : Store) : Prop :=
  match op with
  | .deliver _ => ChangesNothing s s'
  | .between _ => True

/-- The active default team of a task definition. -/
def defaultTeam (lib : Library) (ctx : Ctx) (tenantId : String) (taskDef : TaskDefinition) :
    Option String :=
  if extractDefaultTeamCode lib taskDef = "" then none
  else ctx.activeTeam tenantId (extractDefaultTeamCode lib taskDef)

/-- The definition has its inputs, no approval and no active default team, and if its task is
    there already it has no SLA. -/
structure LeavesNoTrace (lib : Library) (ctx : Ctx) (s : Store) (caseId : Id) (tenantId : String)
    (stageCode : String) (config : CaseTypeConfig) (entry : ActivityConfig × TaskDefinition) :
    Prop where
  unblocked : ∀ sourceTask sourceField,
    taskInputs s caseId entry.2 ≠ .error (.dependency sourceTask sourceField)
  noApproval : entry.2.needsApproval = false
  noTeam : defaultTeam lib ctx tenantId entry.2 = none
  noSLA : (∃ k t, s.tasks.get? k = some t ∧
      t.idempotencyKey = idempotencyKey caseId stageCode entry.1.code entry.2.code) →
    resolveEffectiveSLADefinition config stageCode entry.1.code entry.2.code = .ok none

/-- At a delivery every definition of the stage leaves no trace. -/
def DeliveryLeavesNoTrace (lib : Library) (event : Event) (s : Store) : RedeliveryOp → Prop
  | .deliver ctx => ∀ caseId c config st, loadCase s event = .ok (caseId, c, config) →
      findStage config (event.payload.strField "to_stage") = some st →
      ∀ entry ∈ st.definitions, LeavesNoTrace lib ctx s caseId c.tenantId
        (event.payload.strField "to_stage") config entry
  | .between _ => True

/-! ## Pieces of the loop body -/

section Pieces

variable {taskId : Id} {taskDef : TaskDefinition}

theorem assignDefaultTeam_of_none (h : defaultTeam lib ctx tenantId taskDef = none) :
    assignDefaultTeam lib ctx s tenantId caseId taskId taskDef = s := by
  unfold defaultTeam at h
  unfold assignDefaultTeam
  by_cases hcode : extractDefaultTeamCode lib taskDef = ""
  · simp [hcode]
  · rw [if_neg hcode] at h
    simp [hcode, h]

theorem assignDefaultTeam_of_some (s : Store) (caseId taskId : Id) {teamId : String}
    (h : defaultTeam lib ctx tenantId taskDef = some teamId) :
    ∃ e, assignDefaultTeam lib ctx s tenantId caseId taskId taskDef =
      (s.updateTask taskId (fun t => t.assignTeam teamId)).publish e := by
  unfold defaultTeam at h
  by_cases hcode : extractDefaultTeamCode lib taskDef = ""
  · rw [if_pos hcode] at h
    cases h
  · rw [if_neg hcode] at h
    unfold assignDefaultTeam
    simp only [if_neg hcode, h]
    exact ⟨_, rfl⟩

theorem createTask_outbox (s : Store) (task : Task) : (createTask s task).2.outbox = s.outbox := by
  unfold createTask
  split <;> rfl

/-- Without an SLA there is no deadline, and with one there is, unless it cannot be computed. -/
theorem resolveDeadline_eq_none {activityCode : String}
    {resolved : Option (SLADefinition × Deadline)}
    (h : resolveDeadline ctx config stageCode activityCode taskDef = .ok resolved) :
    resolved = none ↔
      resolveEffectiveSLADefinition config stageCode activityCode taskDef.code = .ok none := by
  obtain ⟨found, hfound, h⟩ := bind_ok h
  rw [hfound]
  cases found with
  | none =>
    cases h
    exact ⟨fun _ => rfl, fun _ => rfl⟩
  | some d =>
    obtain ⟨deadline, -, h⟩ := bind_ok h
    cases h
    constructor
    · intro hnone; cases hnone
    · intro hnone; cases hnone

end Pieces

/-! ## Definitions without a trace -/

/-- The first tasks are still the oldest rows and as before, like the gates and the events. -/
structure Untouched (s₀ b : Store) : Prop where
  tasks : s₀.tasks.rows <+: b.tasks.rows
  gates : b.gates = s₀.gates
  outbox : b.outbox = s₀.outbox

section Pass

variable {s₀ b b' : Store} {c : CaseInstance} {entry : ActivityConfig × TaskDefinition}

theorem ChangesNothing.refl (s : Store) : ChangesNothing s s :=
  ⟨fun _ _ h => h, fun _ _ h => h, rfl⟩

/-- A task that was there at first is found under its key. -/
theorem createTask_found {r : Id × Task}
    (hfind : b.tasks.find? (fun t => t.idempotencyKey == task.idempotencyKey) = some r) :
    createTask b task = (r.1, b) := by
  unfold createTask
  rw [hfind]

namespace Untouched

variable (h : Untouched s₀ b)

include h

theorem get? {t : Task} (ht : s₀.tasks.get? k = some t) : b.tasks.get? k = some t :=
  get?_eq_some_iff.mpr (h.tasks.subset (get?_eq_some_iff.mp ht))

theorem changesNothing : ChangesNothing s₀ b :=
  ⟨fun _ _ => h.get?, fun _ _ hg => h.gates ▸ hg, h.outbox⟩

/-- Rewriting a task that was not there before. -/
theorem persistSLA (hnew : s₀.tasks.get? k = none) (resolved : Option (SLADefinition × Deadline)) :
    Untouched s₀ (persistSLA b k resolved) := by
  cases resolved with
  | none => exact h
  | some r =>
    refine ⟨?_, h.gates, h.outbox⟩
    have hmap := h.tasks.map fun r' => (r'.1, if r'.1 = k then { r'.2 with
      sla := r'.2.sla.snapshot r'.2.createdAt r.1 r.2, version := r'.2.version + 1 } else r'.2)
    rwa [List.map_congr_left (g := id), List.map_id] at hmap
    intro row hrow
    have hne : row.1 ≠ k := fun hk => get?_eq_none_iff.mp hnew row.2 (hk ▸ hrow)
    simp [hne]

/-- Creating a task whose key was not there before gives one that was not there before. -/
theorem createTask
    (hfirst : s₀.tasks.find? (fun t => t.idempotencyKey == task.idempotencyKey) = none) :
    Untouched s₀ (createTask b task).2 ∧ s₀.tasks.get? (LoanWorkflow.createTask b task).1 = none := by
  unfold LoanWorkflow.createTask
  split
  · next taskId t hfind =>
    refine ⟨h, ?_⟩
    -- the stored task has the key, which no earlier task has
    obtain ⟨hget, hkey⟩ := find?_eq_some hfind
    by_contra hold
    obtain ⟨t₀, ht₀⟩ := Option.ne_none_iff_exists'.mp hold
    obtain rfl := Option.mem_unique (h.get? ht₀) hget
    rw [find?_eq_none hfirst ht₀] at hkey
    cases hkey
  · refine ⟨⟨h.tasks.trans (List.prefix_append _ _), h.gates, h.outbox⟩, ?_⟩
    by_contra hold
    obtain ⟨t₀, ht₀⟩ := Option.ne_none_iff_exists'.mp hold
    exact ne_fresh_of_get? (h.get? ht₀) rfl

/-- A pass over a definition that leaves no trace. -/
theorem pass (hquiet : LeavesNoTrace lib ctx s₀ caseId c.tenantId stageCode config entry)
    (hpass : createStageTask lib ctx s₀ caseId c stageCode config b entry = .ok b') :
    Untouched s₀ b' := by
  rcases createStageTask_step hpass with
    ⟨sourceTask, sourceField, e, -, hblocked⟩ |
      ⟨payload, amount, resolved, s₁, hgate, rfl, -, hresolved, -⟩
  · exact absurd hblocked (hquiet.unblocked sourceTask sourceField)
  · rw [assignDefaultTeam_of_none hquiet.noTeam]
    rcases createGateIfNeeded_step hgate with ⟨-, rfl⟩ | ⟨hneeds, -⟩
    · let task := newTask ctx.now caseId stageCode entry.1.code entry.2 payload amount resolved
      cases hfirst : s₀.tasks.find? (fun t => t.idempotencyKey == task.idempotencyKey) with
      | none =>
        obtain ⟨hcreated, hnew⟩ := h.createTask hfirst
        exact hcreated.persistSLA hnew resolved
      | some r =>
        -- the task is found, and no SLA is stored
        obtain ⟨ht, hkey⟩ := find?_eq_some hfirst
        obtain rfl := (resolveDeadline_eq_none hresolved).mpr
          (hquiet.noSLA ⟨r.1, r.2, ht, beq_iff_eq.mp hkey⟩)
        rw [createTask_found (h.tasks.find?_eq_some hfirst)]
        exact h
    · rw [hquiet.noApproval] at hneeds
      cases hneeds

end Untouched

/-! ## Definitions that leave a trace -/

/-- Versions and the number of events only grow. -/
structure Later (s s' : Store) : Prop where
  tasks : ∀ k t, s.tasks.get? k = some t → ∃ t', s'.tasks.get? k = some t' ∧ t.version ≤ t'.version
  outbox : s.outbox.rows.length ≤ s'.outbox.rows.length

namespace Later

variable {s'' : Store}

theorem refl (s : Store) : Later s s := ⟨fun _ t h => ⟨t, h, le_rfl⟩, le_rfl⟩

theorem trans (h : Later s s') (h' : Later s' s'') : Later s s'' := by
  refine ⟨fun k t ht => ?_, h.outbox.trans h'.outbox⟩
  obtain ⟨t', ht', hversion⟩ := h.tasks k t ht
  obtain ⟨t'', ht'', hversion'⟩ := h'.tasks k t' ht'
  exact ⟨t'', ht'', hversion.trans hversion'⟩

theorem publish (s : Store) (e : Event) : Later s (s.publish e) :=
  ⟨(refl s).tasks, by simp [Store.publish, length_insert]⟩

theorem createTask (s : Store) (task : Task) : Later s (createTask s task).2 := by
  refine ⟨fun k t ht => ⟨t, ?_, le_rfl⟩, by rw [createTask_outbox]⟩
  unfold LoanWorkflow.createTask
  split
  · exact ht
  · exact get?_insert_of_get? ht

theorem of_furnishes {taskId : Id} (h : Furnishes taskId s s') : Later s s' := by
  obtain ⟨f, hf, htasks⟩ := h.tasks
  refine ⟨fun j t ht => ?_, h.outbox⟩
  rw [htasks]
  by_cases hj : j = taskId
  · subst hj
    obtain ⟨_, _, _, _, _, _, hversion, heq⟩ := hf t
    exact ⟨f t, get?_updateAt_of_get? ht, by rw [heq]; exact hversion⟩
  · exact ⟨t, by rw [get?_updateAt_ne hj]; exact ht, le_rfl⟩

theorem pass (hpass : createStageTask lib ctx s₀ caseId c stageCode config b entry = .ok b') :
    Later b b' := by
  rcases createStageTask_step hpass with
    ⟨_, _, e, rfl, -⟩ | ⟨payload, amount, resolved, s₁, -, -, -, -, hrest⟩
  · exact .publish b e
  · exact (Later.createTask b _).trans (.of_furnishes hrest)

end Later

/-- An event was published, or a task that was there has a later version. -/
def Traced (s₀ b : Store) : Prop :=
  s₀.outbox.rows.length < b.outbox.rows.length ∨
    ∃ k t₀ t, s₀.tasks.get? k = some t₀ ∧ b.tasks.get? k = some t ∧ t₀.version < t.version

theorem Traced.later (h : Traced s₀ b) (hlater : Later b b') : Traced s₀ b' := by
  rcases h with houtbox | ⟨k, t₀, t, ht₀, ht, hversion⟩
  · exact Or.inl (houtbox.trans_le hlater.outbox)
  · obtain ⟨t', ht', hversion'⟩ := hlater.tasks k t ht
    exact Or.inr ⟨k, t₀, t', ht₀, ht', hversion.trans_le hversion'⟩

theorem Traced.not_changesNothing (h : Traced s₀ b) : ¬ ChangesNothing s₀ b := by
  intro hnothing
  rcases h with houtbox | ⟨k, t₀, t, ht₀, ht, hversion⟩
  · rw [hnothing.outbox] at houtbox
    exact lt_irrefl _ houtbox
  · rw [hnothing.tasks k t₀ ht₀] at ht
    cases ht
    exact lt_irrefl _ hversion

namespace Untouched

variable (h : Untouched s₀ b)

include h

/-- An event that is published in a pass leaves a trace. -/
theorem traced_of_outbox (hlater : Later b s)
    (hmore : s.outbox.rows.length < s'.outbox.rows.length) : Traced s₀ s' := by
  left
  rw [← h.outbox]
  exact hlater.outbox.trans_lt hmore

/-- Storing the SLA over that of a task that was there leaves a trace. -/
theorem traced_of_persistSLA
    (hold : ∃ k t, s₀.tasks.get? k = some t ∧ t.idempotencyKey = task.idempotencyKey)
    (r : SLADefinition × Deadline) : Traced s₀
      (LoanWorkflow.persistSLA (LoanWorkflow.createTask b task).2 (LoanWorkflow.createTask b task).1
        (some r)) := by
  obtain ⟨j, t₀, ht₀, hkey₀⟩ := hold
  cases hfirst : s₀.tasks.find? (fun t => t.idempotencyKey == task.idempotencyKey) with
  | none =>
    have hnone := find?_eq_none hfirst ht₀
    rw [hkey₀, beq_self_eq_true] at hnone
    cases hnone
  | some row =>
    have hget := (find?_eq_some hfirst).1
    rw [createTask_found (h.tasks.find?_eq_some hfirst)]
    exact Or.inr ⟨row.1, row.2, _, hget, get?_updateAt_of_get? (h.get? hget), Nat.lt_succ_self _⟩

/-- A pass over a definition leaves a trace unless the definition leaves none. -/
theorem traced
    (hnoisy : ¬ LeavesNoTrace lib ctx s₀ caseId c.tenantId stageCode config entry)
    (hpass : createStageTask lib ctx s₀ caseId c stageCode config b entry = .ok b') :
    Traced s₀ b' := by
  rcases createStageTask_step hpass with
    ⟨_, _, e, rfl, -⟩ | ⟨payload, amount, resolved, s₁, hgate, rfl, hinputs, hresolved, -⟩
  · exact h.traced_of_outbox (.refl b) (by simp [Store.publish, length_insert])
  · let created := LoanWorkflow.createTask b
      (newTask ctx.now caseId stageCode entry.1.code entry.2 payload amount resolved)
    have hstored : Later b (LoanWorkflow.persistSLA created.2 created.1 resolved) :=
      (Later.createTask b _).trans (.of_furnishes (.persistSLA _ _ _))
    have hgated : Later b s₁ := hstored.trans (.of_furnishes (.createGateIfNeeded hgate))
    -- the definition has an approval, a team, or an SLA over the one of its task
    by_cases hneeds : entry.2.needsApproval = true
    · rcases createGateIfNeeded_step hgate with ⟨hnone, -⟩ | ⟨-, approval, gateId, -, hmade⟩
      · rw [hneeds] at hnone
        cases hnone
      · obtain ⟨e, houtbox⟩ := createApprovalGateForTask_outbox hmade
        have htraced : Traced s₀ s₁ := by
          apply h.traced_of_outbox hstored
          rw [houtbox, length_insert]
          exact Nat.lt_succ_self _
        exact htraced.later (.of_furnishes (.assignDefaultTeam lib ctx s₁ _ _ _ _))
    · by_cases hteam : defaultTeam lib ctx c.tenantId entry.2 = none
      · rw [assignDefaultTeam_of_none hteam]
        have hsla : ¬ ((∃ k t, s₀.tasks.get? k = some t ∧
            t.idempotencyKey = idempotencyKey caseId stageCode entry.1.code entry.2.code) →
              resolveEffectiveSLADefinition config stageCode entry.1.code entry.2.code = .ok none) := by
          intro hsla
          refine hnoisy ⟨fun sourceTask sourceField hblocked => ?_, by simpa using hneeds, hteam, hsla⟩
          rw [hblocked] at hinputs
          cases hinputs
        obtain ⟨hold, hdefined⟩ := Classical.not_imp.mp hsla
        cases resolved with
        | none => exact absurd ((resolveDeadline_eq_none hresolved).mp rfl) hdefined
        | some r =>
          exact (h.traced_of_persistSLA hold r).later (.of_furnishes (.createGateIfNeeded hgate))
      · obtain ⟨teamId, hteam⟩ := Option.ne_none_iff_exists'.mp hteam
        obtain ⟨e, heq⟩ := assignDefaultTeam_of_some s₁ caseId created.1 hteam
        rw [heq]
        apply h.traced_of_outbox hgated
        show s₁.outbox.rows.length < (s₁.outbox.insert e).rows.length
        rw [length_insert]
        exact Nat.lt_succ_self _

/-- The loop over definitions changes nothing exactly when none of them leaves a trace. -/
theorem loop_iff {entries : List (ActivityConfig × TaskDefinition)}
    (hloop : entries.foldlM (createStageTask lib ctx s₀ caseId c stageCode config) b = .ok b') :
    ChangesNothing s₀ b' ↔
      ∀ entry ∈ entries, LeavesNoTrace lib ctx s₀ caseId c.tenantId stageCode config entry := by
  induction entries generalizing b with
  | nil =>
    cases hloop
    exact iff_of_true h.changesNothing (by simp)
  | cons entry entries ih =>
    rw [List.foldlM_cons] at hloop
    obtain ⟨b₁, hpass, hrest⟩ := bind_ok hloop
    rw [List.forall_mem_cons]
    by_cases hquiet : LeavesNoTrace lib ctx s₀ caseId c.tenantId stageCode config entry
    · rw [and_iff_right hquiet]
      exact ih (h.pass hquiet hpass) hrest
    · -- later passes do not wipe out the trace
      have hlater : Later b₁ b' := foldlM_invariant (P := Later b₁)
        (fun _ _ _ _ hb hpass => hb.trans (.pass hpass)) (.refl b₁) hrest
      exact iff_of_false ((h.traced hquiet hpass).later hlater).not_changesNothing
        fun hall => hquiet hall.1

end Untouched

end Pass

/-! ## Runs of deliveries -/

/-- A delivery that succeeds changes nothing exactly when no definition leaves a trace. -/
theorem RedeliveryOp.changesNothing_iff {event : Event} {op : RedeliveryOp}
    (h : op.exec lib event s = .ok s') :
    DeliveryChangesNothing s op s' ↔ DeliveryLeavesNoTrace lib event s op := by
  cases op with
  | between change => exact Iff.rfl
  | deliver ctx =>
    change onCaseStageChanged lib ctx event s = .ok s' at h
    obtain ⟨⟨caseId, c, config⟩, hload, h⟩ := bind_ok h
    obtain ⟨st, hst, h⟩ := bind_ok h
    obtain ⟨c', hc', hloop⟩ := createTasksForStage_step h
    obtain rfl := Option.mem_unique (loadCase_ok hload).1 hc'
    have hiff := Untouched.loop_iff ⟨List.prefix_rfl, rfl, rfl⟩ hloop
    constructor
    · intro hnothing caseId' c' config' st' hload' hst' entry hentry
      rw [hload] at hload'
      cases hload'
      rw [orFail_eq_ok.mp hst] at hst'
      cases hst'
      exact hiff.mp hnothing entry hentry
    · intro hquiet
      exact hiff.mpr (hquiet caseId c config st hload (orFail_eq_ok.mp hst))

/-- In every run of deliveries of one event, with anything happening in between, in which no
    definition leaves a trace at any delivery, no delivery changes anything. For deliveries that
    succeed the condition is exact. -/
theorem redelivery_iff (lib : Library) (event : Event) (s : Store) (ops : List RedeliveryOp) :
    (Guarded (RedeliveryOp.exec lib event) (DeliveryLeavesNoTrace lib event) s ops →
      Along (RedeliveryOp.exec lib event) DeliveryChangesNothing s ops) ∧
    (Succeeds (RedeliveryOp.exec lib event) s ops →
      Along (RedeliveryOp.exec lib event) DeliveryChangesNothing s ops →
      Guarded (RedeliveryOp.exec lib event) (DeliveryLeavesNoTrace lib event) s ops) := by
  refine along_and_guarded (I := fun _ => True) ?_ (fun _ _ _ _ _ _ => trivial) ?_ trivial
  · exact fun _ _ _ _ hok => RedeliveryOp.changesNothing_iff hok
  · intro x op _
    cases op with
    | between change => trivial
    | deliver ctx => exact .refl x

/-- A stage with a task that has eight hours and one that needs an approval. -/
def signAndApprove : CaseTypeConfig where
  defaultCalendarId := some 0
  stages := [{ code := "REVIEW", sequenceOrder := 1, activities := [{ code := "CHECK", taskDefs :=
    [{ code := "SIGN", sla := some { durationHours := 8 } },
      { code := "APPROVE", requiresApproval := true, approval := some { approvers := ["ann"] } }] }] }]

def enteringReview : Store where
  caseTypes := Table.empty.insert { config := signAndApprove }
  cases := Table.empty.insert { caseTypeId := 0, status := .inProgress }

def reviewAnnounced : Event where
  eventType := .caseStageChanged
  caseId := some 0
  payload := .obj [("case_id", .uuid 0), ("to_stage", .str "REVIEW")]

/-- The store after the first delivery, with both tasks finished. -/
def reviewFinished : Store :=
  run (RedeliveryOp.exec Library.plain reviewAnnounced) enteringReview
    [.deliver (Ctx.plain 0), .between (fun s =>
      { s with tasks := s.tasks.update (fun _ t => { t with status := .completed }) })]

/-- The store after a second delivery, an hour later. -/
def reviewAgain : Store :=
  run (RedeliveryOp.exec Library.plain reviewAnnounced) reviewFinished
    [.deliver (Ctx.plain hour)]

/-- An hour later the event comes again: the clock of a finished task starts anew, the gate gets
    another version, and its creation is announced once more. -/
theorem redelivery_restarts_clock :
    ((reviewFinished.tasks.get? 0).map (fun t => (t.status, t.sla.dueAt, t.version)) =
        some (.completed, some (8 * hour), 2) ∧
      (reviewFinished.gates.get? 0).map (·.version) = some 1 ∧
      reviewFinished.outbox.rows.length = 1) ∧
    ((reviewAgain.tasks.get? 0).map (fun t => (t.status, t.sla.dueAt, t.version)) =
        some (.completed, some (9 * hour), 3) ∧
      (reviewAgain.gates.get? 0).map (·.version) = some 2 ∧
      reviewAgain.outbox.rows.length = 2) ∧
    ¬ Along (RedeliveryOp.exec Library.plain reviewAnnounced) DeliveryChangesNothing
        reviewFinished [.deliver (Ctx.plain hour)] := by
  have hlength : reviewAgain.outbox.rows.length ≠ reviewFinished.outbox.rows.length := by
    decide +kernel
  refine ⟨by decide +kernel, by decide +kernel, fun ⟨hnothing, _⟩ => ?_⟩
  exact hlength (congrArg (fun outbox => outbox.rows.length) hnothing.outbox)

end LoanWorkflow
