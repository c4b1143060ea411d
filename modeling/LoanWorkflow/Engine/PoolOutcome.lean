import LoanWorkflow.Engine.PoolStatus

/-! # Outcomes of a status change on the pool

    When a call of `updateTaskStatusOnPool` succeeds, in terms of the faults
    and of the store before it, and what a call leaves that does not.
-/

namespace LoanWorkflow

open Autocommit

variable {gate : ApprovalGate} {gateId : Id} {approvers : List String} {i : Nat} {u : Unit}
variable {row : ApprovalRequest} {caseId taskId : Id} {expiresAt : Instant} {lib : Library}
  {output : Option Json} {p : Publication} {s' : Store} {announce : Store → Store} {t : Task}
  {newStatus : TaskStatus}

/-! ## When a call goes through -/

section Outcomes

variable {fails : Faults} {ctx : Ctx} {s : Store}

theorem announceOnPool_eq_ok :
    ((announceOnPool fails p announce).run s).1 = .ok u ↔ fails.spares p := by
  unfold announceOnPool Faults.spares
  simp [run_bind_eq_ok, run_execute_eq_ok]

theorem announceOnPool_of_spares
    (h : fails.spares p) : (announceOnPool fails p announce).run s = (.ok (), announce s) := by
  unfold announceOnPool
  rw [Faults.wrapped_eq_none.mpr h.1, Faults.wrapped_eq_none.mpr h.2]
  rfl

/-- The code goes on after the insertion of a request. -/
def Faults.tolerates (fails : Faults) (i : Nat) : Prop :=
  ∀ e ∈ fails (.insertRequest i), isDuplicate e = true

/-- Without a fault the only error is the one of the index. -/
theorem isDuplicate_of_insertRequest {e : Err}
    (h : insertRequest s row = .error e) : isDuplicate e = true := by
  unfold insertRequest at h
  split at h
  · cases h
    decide
  · cases h

theorem insertRequestOnPool_ok :
    (∃ requestId, ((insertRequestOnPool fails i row).run s).1 = .ok requestId) ↔ fails.tolerates i := by
  unfold insertRequestOnPool requestInsertion Faults.tolerates
  cases fails (.insertRequest i) with
  | some e => by_cases he : isDuplicate e = true <;> simp [he]
  | none =>
    cases hinsert : insertRequest s row with
    | ok r => simp [hinsert]
    | error e => simp [hinsert, isDuplicate_of_insertRequest hinsert]

theorem insertRequestsOnPool_ok {row : String → ApprovalRequest}
    {event : Option Id → String → Event} :
    ((insertRequestsOnPool fails row event i approvers).run s).1 = .ok u ↔
      ∀ j < approvers.length,
        fails.tolerates (i + j) ∧ fails.spares (.approvalRequested (i + j)) := by
  induction approvers generalizing i s with
  | nil => simp [insertRequestsOnPool]
  | cons approver rest ih =>
    unfold insertRequestsOnPool
    simp only [run_bind_eq_ok, publishOnPool, announceOnPool_eq_ok, ih, List.length_cons]
    constructor
    · rintro ⟨requestId, hinsert, -, hevent, hrest⟩ j hj
      cases j with
      | zero => exact ⟨insertRequestOnPool_ok.mp ⟨_, hinsert⟩, hevent⟩
      | succ j =>
        have := hrest j (by omega)
        rwa [show i + 1 + j = i + (j + 1) by omega] at this
    · intro h
      obtain ⟨requestId, hinsert⟩ := insertRequestOnPool_ok.mpr (h 0 (by omega)).1
      refine ⟨requestId, hinsert, (), (h 0 (by omega)).2, fun j hj => ?_⟩
      have := h (j + 1) (by omega)
      rwa [show i + (j + 1) = i + 1 + j by omega] at this

/-- Nothing fails while the requests of so many approvers are inserted and the gate is opened. -/
def Faults.opensGate (fails : Faults) (count : Nat) : Prop :=
  (∀ i < count, fails.tolerates i ∧ fails.spares (.approvalRequested i)) ∧
    fails .openGate = none ∧ fails .awaitApproval = none

theorem openGateOnPool_ok :
    ((openGateOnPool fails ctx gateId gate expiresAt approvers).run s).1 = .ok u ↔
      fails.opensGate approvers.length := by
  unfold openGateOnPool Faults.opensGate
  simp only [run_bind_eq_ok, run_execute_eq_ok, insertRequestsOnPool_ok, run_write,
    Faults.wrapped_eq_none, Nat.zero_add]
  simp

/-- There is an approver, and nothing fails while the requests are made. -/
def CanRequest (fails : Faults) (ctx : Ctx) (s : Store) (gate : ApprovalGate) : Prop :=
  fails .loadCase = none ∧ ∃ c approvers, s.cases.get? gate.caseId = some c ∧
    chooseApprovers ctx gate c = .ok approvers ∧ fails.opensGate approvers.length

theorem requestApprovals_ok :
    ((requestApprovals fails ctx gateId gate).run s).1 = .ok u ↔
      CanRequest fails ctx s gate := by
  unfold requestApprovals CanRequest
  simp only [run_bind_eq_ok, run_execute_eq_ok, run_execute_read_state, run_read, orFail_eq_ok,
    Faults.wrapped_eq_none]
  constructor
  · rintro ⟨c, ⟨hload, hc⟩, h⟩
    refine ⟨hload, c, ?_⟩
    cases hchosen : chooseApprovers ctx gate c with
    | ok approvers =>
      rw [hchosen] at h
      exact ⟨approvers, hc, rfl, openGateOnPool_ok.mp h⟩
    | error e =>
      -- a call that finds no approver never succeeds
      rw [hchosen] at h
      obtain ⟨-, -, h⟩ := run_bind_eq_ok.mp h
      cases h
  · rintro ⟨hload, c, approvers, hc, hchosen, hopens⟩
    refine ⟨c, ⟨hload, hc⟩, ?_⟩
    rw [hchosen]
    exact openGateOnPool_ok.mpr hopens

/-- A gate that is not closed has pending requests or gets new ones. -/
def CanReopen (fails : Faults) (ctx : Ctx) (s : Store) (gateId : Id) (gate : ApprovalGate) :
    Prop :=
  fails .countPending = none ∧
    if 0 < pendingRequests s gateId then fails .markActive = none
    else CanRequest fails ctx s gate

theorem reopenOrRequest_ok :
    ((reopenOrRequest fails ctx gateId gate).run s).1 = .ok u ↔
      CanReopen fails ctx s gateId gate := by
  unfold reopenOrRequest CanReopen
  simp only [run_bind_eq_ok, run_execute_eq_ok, run_execute_read_state, run_read,
    Faults.wrapped_eq_none]
  by_cases hpending : 0 < pendingRequests s gateId
  · simp [hpending, run_execute_eq_ok]
  · simp [hpending, requestApprovals_ok]

/-- The gate can be opened: it is satisfied, or it is not closed and nothing that has to be
    done for it fails. -/
def CanActivate (fails : Faults) (ctx : Ctx) (s : Store) (taskId caseId gateId : Id) : Prop :=
  fails .lockGate = none ∧ ∃ gate, s.gates.get? gateId = some gate ∧
    (gate.gateStatus = .satisfied ∨ gate.gateStatus.isRefused = false ∧
      CanReopen fails ctx s gateId { gate with taskId := taskId, caseId := caseId })

theorem activateApprovalGateOnPool_ok :
    ((activateApprovalGateOnPool fails ctx taskId caseId gateId).run s).1 = .ok u ↔
      CanActivate fails ctx s taskId caseId gateId := by
  unfold activateApprovalGateOnPool CanActivate
  simp only [run_bind_eq_ok, run_execute_eq_ok, run_execute_read_state, run_read, orFail_eq_ok,
    Faults.wrapped_eq_none, and_assoc, exists_and_left]
  refine and_congr_right fun _ => exists_congr fun gate => and_congr_right fun _ => ?_
  by_cases hsatisfied : gate.gateStatus = .satisfied
  · simp [hsatisfied]
  · by_cases hrefused : gate.gateStatus.isRefused = true
    · simp [hsatisfied, hrefused]
    · simp [hsatisfied, hrefused, reopenOrRequest_ok]

/-- A task that starts can open the gate it needs. -/
def CanStart (fails : Faults) (ctx : Ctx) (s : Store) (taskId : Id) (t : Task)
    (newStatus : TaskStatus) : Prop :=
  newStatus = .inProgress → t.requiresApproval = true →
    ∃ gateId, t.approvalGateId = some gateId ∧ CanActivate fails ctx s taskId t.caseId gateId

theorem activateOnStartOnPool_ok :
    ((activateOnStartOnPool fails ctx taskId t newStatus).run s).1 = .ok u ↔
      CanStart fails ctx s taskId t newStatus := by
  unfold activateOnStartOnPool CanStart
  by_cases hstart : newStatus = .inProgress ∧ t.requiresApproval = true
  · rw [if_pos hstart]
    cases t.approvalGateId with
    | none => simp [hstart.1, hstart.2]
    | some gateId => simp [hstart.1, hstart.2, activateApprovalGateOnPool_ok]
  · rw [if_neg hstart]
    simp only [run_pure, true_iff]
    intro hstatus hrequires
    exact absurd ⟨hstatus, hrequires⟩ hstart

/-- The clock of a task that comes back can be restarted. -/
def CanResumeClock (fails : Faults) (ctx : Ctx) (s : Store) (taskId : Id) (t : Task) : Prop :=
  (∃ due, resumedDue ctx t.sla
      (((pauseOnPool fails taskId s).map (·.elapsedBeforePauseMs)).getD 0) = .ok due ∧
    (due.isSome → fails .restartClock = none)) ∧
  fails .logPause = none ∧ fails.spares .slaResumed

theorem restartOnPool_ok {due : Option Instant} :
    ((restartOnPool fails ctx taskId due).run s).1 = .ok u ↔
      (due.isSome → fails .restartClock = none) := by
  cases due with
  | none => simp [restartOnPool]
  | some dueAt => simp [restartOnPool, run_execute_eq_ok]

theorem resumeFromExternalOnPool_ok :
    ((resumeFromExternalOnPool fails ctx taskId t).run s).1 = .ok u ↔
      CanResumeClock fails ctx s taskId t := by
  unfold resumeFromExternalOnPool CanResumeClock
  simp only [run_bind_eq_ok, run_execute_eq_ok, run_read, run_write, restartOnPool_ok,
    publishOnPool, announceOnPool_eq_ok, Faults.wrapped_eq_none]
  constructor
  · rintro ⟨pause, hpause, due, hdue, -, hrestart, -, ⟨hlog, -⟩, hevent⟩
    cases hpause
    exact ⟨⟨due, hdue, hrestart⟩, hlog, hevent⟩
  · rintro ⟨⟨due, hdue, hrestart⟩, hlog, hevent⟩
    exact ⟨_, rfl, due, hdue, (), hrestart, (), ⟨hlog, trivial⟩, hevent⟩

/-- The clock of a task that starts to wait can be stopped. -/
def CanPauseClock (fails : Faults) (ctx : Ctx) (t : Task) : Prop :=
  (∃ elapsed, elapsedMs ctx t.sla t.createdAt = .ok elapsed) ∧
    fails .logPause = none ∧ fails.spares .slaPaused

theorem pauseForExternalOnPool_ok :
    ((pauseForExternalOnPool fails ctx taskId t).run s).1 = .ok u ↔
      CanPauseClock fails ctx t := by
  unfold pauseForExternalOnPool CanPauseClock
  simp only [run_bind_eq_ok, run_execute_eq_ok, run_read, run_write, publishOnPool,
    announceOnPool_eq_ok, Faults.wrapped_eq_none]
  constructor
  · rintro ⟨elapsed, helapsed, -, ⟨hlog, -⟩, hevent⟩
    exact ⟨⟨elapsed, helapsed⟩, hlog, hevent⟩
  · rintro ⟨⟨elapsed, helapsed⟩, hlog, hevent⟩
    exact ⟨elapsed, helapsed, (), ⟨hlog, trivial⟩, hevent⟩

/-- The clock of the task can be moved as the new status asks. -/
def CanMoveClock (fails : Faults) (ctx : Ctx) (s : Store) (taskId : Id) (t : Task)
    (newStatus : TaskStatus) : Prop :=
  if t.status = .awaitingExternal ∧ newStatus = .inProgress then CanResumeClock fails ctx s taskId t
  else if t.status ≠ .awaitingExternal ∧ newStatus = .awaitingExternal then
    CanPauseClock fails ctx t
  else True

theorem slaHooksOnPool_ok :
    ((slaHooksOnPool fails ctx taskId t newStatus).run s).1 = .ok u ↔
      CanMoveClock fails ctx s taskId t newStatus := by
  unfold slaHooksOnPool CanMoveClock
  split
  · exact resumeFromExternalOnPool_ok
  · split
    · exact pauseForExternalOnPool_ok
    · simp

theorem publishFinishedOnPool_ok :
    ((publishFinishedOnPool fails taskId t newStatus).run s).1 = .ok u ↔
      (newStatus = .completed ∨ newStatus = .failed → fails.spares .taskFinished) := by
  unfold publishFinishedOnPool
  split
  · next hfinished => simp [announceOnPool_eq_ok, hfinished]
  · next hopen => simp [hopen]

theorem ensureApprovedOnPool_ok :
    ((ensureApprovedOnPool fails taskId t newStatus).run s).1 = .ok u ↔
      (t.readsGate newStatus = true → fails .loadGate = none) ∧
        ensureApproved s taskId t newStatus = .ok u := by
  unfold ensureApprovedOnPool
  rw [run_execute_eq_ok]
  by_cases hreads : t.readsGate newStatus = true <;> simp [hreads]

/-- What the check of an output reads does not fail. -/
structure OutputReadable (fails : Faults) (s : Store) (t : Task) (output : Option Json) :
    Prop where
  config : fails .loadConfig = none
  payload : ∀ config taskDef, resolveCaseTypeConfig s t.caseId = .ok config →
    findTaskDefinitionByCode config t.taskDefinitionCode = some taskDef → output = none →
    fails .loadOutput = none

theorem ensureOutputAcceptedOnPool_ok :
    ((ensureOutputAcceptedOnPool fails lib t newStatus output).run s).1 = .ok u ↔
      (newStatus = .completed → OutputReadable fails s t output) ∧
        ensureOutputAccepted lib s t newStatus output = .ok u := by
  unfold ensureOutputAcceptedOnPool ensureOutputAccepted
  by_cases hcompleted : newStatus = .completed
  · simp only [hcompleted, if_true, run_bind_eq_ok, run_execute_eq_ok, run_execute_read_state,
      run_read, bind_eq_ok, Faults.wrapped_eq_none, true_imp_iff]
    constructor
    · rintro ⟨config, ⟨hload, hconfig⟩, h⟩
      cases hdef : findTaskDefinitionByCode config t.taskDefinitionCode with
      | none =>
        refine ⟨⟨hload, fun config' taskDef hconfig' hdef' _ => ?_⟩, config, hconfig, by rw [hdef]; rfl⟩
        cases hconfig.symm.trans hconfig'
        cases hdef.symm.trans hdef'
      | some taskDef =>
        rw [hdef] at h
        obtain ⟨_, hpayload, h⟩ := run_bind_eq_ok.mp h
        have hread := (run_execute_eq_ok.mp hpayload).1
        refine ⟨⟨hload, fun _ _ _ _ hnone => ?_⟩, config, hconfig, by rw [hdef]; exact h⟩
        rw [hnone] at hread
        exact Faults.wrapped_eq_none.mp hread
    · rintro ⟨⟨hload, hpayload⟩, config, hconfig, h⟩
      refine ⟨config, ⟨hload, hconfig⟩, ?_⟩
      cases hdef : findTaskDefinitionByCode config t.taskDefinitionCode with
      | none => rfl
      | some taskDef =>
        rw [hdef] at h
        refine run_bind_eq_ok.mpr ⟨(), run_execute_eq_ok.mpr ⟨?_, rfl⟩, h⟩
        cases output with
        | none => exact Faults.wrapped_eq_none.mpr (hpayload config taskDef hconfig hdef rfl)
        | some payload => rfl
  · simp [hcompleted]

/-- The status of the task is written: the row is there, no check refuses the new status, and
    no statement up to the update fails. -/
structure Written (fails : Faults) (lib : Library) (s : Store) (taskId : Id)
    (newStatus : TaskStatus) (output : Option Json) (t : Task) : Prop where
  row : s.tasks.get? taskId = some t
  locked : fails .lockTask = none
  unfinished : t.status.isTerminal = false
  gateRead : t.readsGate newStatus = true → fails .loadGate = none
  approved : ensureApproved s taskId t newStatus = .ok ()
  outputRead : newStatus = .completed → OutputReadable fails s t output
  accepted : ensureOutputAccepted lib s t newStatus output = .ok ()
  updated : fails .updateStatus = none

theorem ensureApprovedOnPool_readOnly (taskId : Id) (t : Task) (newStatus : TaskStatus) :
    ReadOnly (ensureApprovedOnPool fails taskId t newStatus) :=
  .execute _ fun _ => rfl

theorem ensureOutputAcceptedOnPool_readOnly (lib : Library) (t : Task) (newStatus : TaskStatus)
    (output : Option Json) :
    ReadOnly (ensureOutputAcceptedOnPool fails lib t newStatus output) := by
  unfold ensureOutputAcceptedOnPool
  split
  · refine .bind (.execute _ fun _ => rfl) fun config => ?_
    cases findTaskDefinitionByCode config t.taskDefinitionCode with
    | none => exact fun _ => rfl
    | some taskDef => exact .bind (.execute _ fun _ => rfl) fun _ _ => rfl
  · exact fun _ => rfl

theorem lockOnPool_readOnly (lib : Library) (taskId : Id) (newStatus : TaskStatus)
    (output : Option Json) : ReadOnly (lockOnPool fails lib taskId newStatus output) :=
  .bind (.execute _ fun _ => rfl) fun t => .bind (fun _ => rfl) fun _ =>
    .bind (ensureApprovedOnPool_readOnly taskId t newStatus) fun _ =>
      .bind (ensureOutputAcceptedOnPool_readOnly lib t newStatus output) fun _ _ => rfl

theorem lockOnPool_ok :
    ((lockOnPool fails lib taskId newStatus output).run s).1 = .ok t ∧
        fails .updateStatus = none ↔
      Written fails lib s taskId newStatus output t := by
  unfold lockOnPool
  simp only [run_bind_eq_ok, run_execute_eq_ok, run_execute_read_state, run_read, orFail_eq_ok,
    ensure_eq_ok, ensureApprovedOnPool_ok, ensureApprovedOnPool_readOnly _ _ _ s,
    ensureOutputAcceptedOnPool_ok, Faults.wrapped_eq_none, run_pure]
  constructor
  · rintro ⟨⟨t', ⟨hlock, hrow⟩, _, hopen, _, ⟨hgate, happroved⟩, _, ⟨houtput, haccepted⟩, ht⟩,
      hupdated⟩
    cases ht
    exact ⟨hrow, hlock, by simpa using hopen, hgate, happroved, houtput, haccepted, hupdated⟩
  · intro h
    exact ⟨⟨t, ⟨h.locked, h.row⟩, (), by simpa using h.unfinished, (), ⟨h.gateRead, h.approved⟩, (),
      ⟨h.outputRead, h.accepted⟩, rfl⟩, h.updated⟩

end Outcomes

/-! ## The whole call -/

section Call

variable {fails : Faults} {ctx : Ctx} {errorDetail : Option Json} {s : Store}

/-- An activation stops no clock. -/
theorem activateOnStartOnPool_pauseLog :
    ((activateOnStartOnPool fails ctx taskId t newStatus).run s).2.pauseLog = s.pauseLog := by
  have hkept : KeptByActivation taskId (fun s s' => s'.pauseLog = s.pauseLog) := by
    constructor
    · exact fun _ => rfl
    · exact fun h h' => h'.trans h
    all_goals intros; rfl
  exact hkept.activateOnStartOnPool t newStatus s

theorem CanMoveClock.congr (h : s'.pauseLog = s.pauseLog) :
    CanMoveClock fails ctx s' taskId t newStatus ↔ CanMoveClock fails ctx s taskId t newStatus := by
  unfold CanMoveClock CanResumeClock pauseOnPool latestPause
  rw [h]

/-- Everything after the update of the status succeeds. -/
structure Finishing (fails : Faults) (ctx : Ctx) (s : Store) (taskId : Id) (t : Task)
    (newStatus : TaskStatus) : Prop where
  start : CanStart fails ctx s taskId t newStatus
  clock : CanMoveClock fails ctx s taskId t newStatus
  event : newStatus = .completed ∨ newStatus = .failed → fails.spares .taskFinished

theorem afterUpdate_ok :
    ((afterUpdate fails ctx taskId t newStatus).run s).1 = .ok u ↔
      Finishing fails ctx s taskId t newStatus := by
  unfold afterUpdate
  simp only [run_bind_eq_ok, activateOnStartOnPool_ok, slaHooksOnPool_ok, publishFinishedOnPool_ok,
    CanMoveClock.congr activateOnStartOnPool_pauseLog]
  constructor
  · rintro ⟨_, hstart, _, hclock, hevent⟩
    exact ⟨hstart, hclock, hevent⟩
  · intro h
    exact ⟨(), h.start, (), h.clock, h.event⟩

/-- The store in which the status is written and nothing else is done. -/
def statusWritten (ctx : Ctx) (taskId : Id) (newStatus : TaskStatus)
    (output errorDetail : Option Json) (s : Store) : Store :=
  s.updateTask taskId (fun t => t.advance newStatus output errorDetail ctx.now)

theorem updateTaskStatusOnPool_of_written (h : Written fails lib s taskId newStatus output t) :
    (updateTaskStatusOnPool fails lib ctx taskId newStatus output errorDetail).run s =
      (afterUpdate fails ctx taskId t newStatus).run
        (statusWritten ctx taskId newStatus output errorDetail s) := by
  unfold updateTaskStatusOnPool
  have hlock := (lockOnPool_ok.mpr h).1
  rw [run_bind_of_ok hlock, lockOnPool_readOnly lib taskId newStatus output s,
    Faults.wrapped_eq_none.mpr h.updated]
  rfl

/-- A call that does not get to write the status fails and changes nothing. -/
theorem updateTaskStatusOnPool_of_not_written
    (h : ¬ ∃ t, Written fails lib s taskId newStatus output t) :
    ∃ e, (updateTaskStatusOnPool fails lib ctx taskId newStatus output errorDetail).run s =
      (.error e, s) := by
  unfold updateTaskStatusOnPool
  have hstate : ((lockOnPool fails lib taskId newStatus output).run s).2 = s :=
    lockOnPool_readOnly lib taskId newStatus output s
  cases hlock : ((lockOnPool fails lib taskId newStatus output).run s).1 with
  | error e => exact ⟨e, by rw [run_bind_of_error hlock, hstate]⟩
  | ok t =>
    rw [run_bind_of_ok hlock, hstate]
    cases hupdate : fails .updateStatus with
    | none => exact absurd ⟨t, lockOnPool_ok.mp ⟨hlock, hupdate⟩⟩ h
    | some e =>
      simp only [Faults.wrapped, hupdate]
      exact ⟨_, rfl⟩

end Call

/-! ## What a call writes -/

/-- What the statements after the update may do to the rows of tasks and cases: the task in
    progress may start to wait, and its version may grow. -/
structure PoolFrame (taskId : Id) (s s' : Store) : Prop where
  cases : s'.cases = s.cases
  others : s.tasks.AgreesOff taskId s'.tasks
  row : ∀ t, s.tasks.get? taskId = some t → ∃ t', s'.tasks.get? taskId = some t' ∧
    t.version ≤ t'.version ∧ t'.caseId = t.caseId ∧
    (t'.status = t.status ∨ t.status = .inProgress ∧ t'.status = .awaitingExternal)

namespace PoolFrame

theorem of_eq {s : Store} (hcases : s'.cases = s.cases) (htasks : s'.tasks = s.tasks) :
    PoolFrame taskId s s' := by
  refine ⟨hcases, .of_eq htasks, fun t ht => ⟨t, ?_, le_refl _, rfl, Or.inl rfl⟩⟩
  rw [htasks]
  exact ht

theorem trans {s₁ s₂ s₃ : Store} (h : PoolFrame taskId s₁ s₂) (h' : PoolFrame taskId s₂ s₃) :
    PoolFrame taskId s₁ s₃ := by
  refine ⟨h'.cases.trans h.cases, h.others.trans h'.others, fun t₁ ht₁ => ?_⟩
  obtain ⟨t₂, ht₂, hversion, hcase, hstatus⟩ := h.row t₁ ht₁
  obtain ⟨t₃, ht₃, hversion', hcase', hstatus'⟩ := h'.row t₂ ht₂
  refine ⟨t₃, ht₃, le_trans hversion hversion', hcase'.trans hcase, ?_⟩
  rcases hstatus with hsame | ⟨hprogress, hwaits⟩
  · rw [hsame] at hstatus'
    exact hstatus'
  · -- a task that waits already does not start to wait
    rcases hstatus' with hsame' | ⟨hprogress', -⟩
    · exact Or.inr ⟨hprogress, hsame'.trans hwaits⟩
    · rw [hwaits] at hprogress'
      cases hprogress'

theorem updateTask (s : Store) {f : Task → Task}
    (hf : ∀ t, t.version ≤ (f t).version ∧ (f t).caseId = t.caseId ∧
      ((f t).status = t.status ∨ t.status = .inProgress ∧ (f t).status = .awaitingExternal)) :
    PoolFrame taskId s (s.updateTask taskId f) :=
  ⟨rfl, .updateAt taskId s.tasks f, fun t ht => ⟨f t, Table.get?_updateAt_of_get? ht, hf t⟩⟩

theorem keptByHooks (taskId : Id) : KeptByHooks taskId (PoolFrame taskId) where
  refl _ := .of_eq rfl rfl
  trans := trans
  publish _ _ _ := .of_eq rfl rfl
  request _ _ := .of_eq rfl rfl
  gate _ _ _ := .of_eq rfl rfl
  await s := by
    refine .updateTask s fun t => ⟨Nat.le_succ _, rfl, ?_⟩
    unfold Task.awaitApproval
    by_cases hprogress : t.status = .inProgress <;> simp [hprogress]
  restart s now dueAt := .updateTask s fun t => ⟨Nat.le_succ _, rfl, Or.inl rfl⟩
  log _ _ := .of_eq rfl rfl

end PoolFrame

/-- What the hooks keep, and the event of a finished task, is kept after the status is written. -/
theorem KeptByHooks.afterUpdate {R : Store → Store → Prop} (h : KeptByHooks taskId R)
    (fails : Faults) (ctx : Ctx) (hfinished : ∀ s, R s (publishFinished s taskId t newStatus)) :
    Moves R (afterUpdate fails ctx taskId t newStatus) := by
  have hkept := h.toKeptByActivation
  refine .bind hkept.trans (hkept.activateOnStartOnPool t newStatus) fun _ =>
    .bind hkept.trans (h.slaHooksOnPool t newStatus) fun _ => ?_
  unfold publishFinishedOnPool
  split
  · exact hkept.announceOnPool _ hfinished
  · exact hkept.refl

theorem afterUpdate_moves (fails : Faults) (ctx : Ctx) (taskId : Id) (t : Task)
    (newStatus : TaskStatus) :
    Moves (PoolFrame taskId) (afterUpdate fails ctx taskId t newStatus) := by
  apply (PoolFrame.keptByHooks taskId).afterUpdate
  intro s
  cases newStatus <;> exact .of_eq rfl rfl

/-! ## Agreement with the transaction -/

section Agreement

variable {ctx : Ctx} {s : Store}

theorem insertRequestsOnPool_of_ok {row : String → ApprovalRequest} {event : Id → String → Event}
    {eventOnPool : Option Id → String → Event}
    (hevent : ∀ k approver, eventOnPool (some k) approver = event k approver)
    (h : insertRequests row event approvers s = .ok s') :
    (insertRequestsOnPool noFaults row eventOnPool i approvers).run s = (.ok (), s') := by
  induction approvers generalizing i s with
  | nil =>
    cases h
    rfl
  | cons approver rest ih =>
    obtain ⟨⟨k, s₁⟩, hinsert, h⟩ := bind_ok h
    have hone : (insertRequestOnPool noFaults i (row approver)).run s = (.ok (some k), s₁) := by
      unfold insertRequestOnPool requestInsertion noFaults
      dsimp only
      rw [hinsert]
    unfold insertRequestsOnPool
    rw [run_bind_of_run hone, hevent]
    exact ih h

theorem openGateOnPool_of_ok (h : openGate ctx gateId gate expiresAt
      (requestedEvent gateId gate "event_reason" [("approval_expires", .num expiresAt)])
      approvers s = .ok s') :
    (openGateOnPool noFaults ctx gateId gate expiresAt approvers).run s = (.ok (), s') := by
  obtain ⟨s₁, hinsert, h⟩ := bind_ok h
  cases h
  unfold openGateOnPool
  rw [run_bind_of_run (insertRequestsOnPool_of_ok (fun _ _ => rfl) hinsert)]
  rfl

theorem activateApprovalGateOnPool_of_ok
    (h : repoActivateApprovalGate ctx taskId caseId gateId s = .ok s') :
    (activateApprovalGateOnPool noFaults ctx taskId caseId gateId).run s = (.ok (), s') := by
  obtain ⟨gate, hgate, h⟩ := bind_ok h
  unfold activateApprovalGateOnPool
  rw [run_bind_of_run (show _ = (Except.ok gate, s) from Prod.ext hgate rfl)]
  by_cases hsatisfied : gate.gateStatus = .satisfied
  · rw [if_pos hsatisfied] at h ⊢
    cases h
    rfl
  · rw [if_neg hsatisfied] at h ⊢
    by_cases hrefused : gate.gateStatus.isRefused = true
    · rw [if_pos hrefused] at h
      cases h
    · rw [if_neg hrefused] at h ⊢
      unfold reopenOrRequest
      rw [run_bind_of_run (show _ = (Except.ok (pendingRequests s gateId), s) from rfl)]
      by_cases hpending : 0 < pendingRequests s gateId
      · rw [if_pos hpending] at h ⊢
        cases h
        rfl
      · rw [if_neg hpending] at h ⊢
        obtain ⟨c, hc, h⟩ := bind_ok h
        obtain ⟨approvers, hchosen, h⟩ := bind_ok h
        unfold requestApprovals
        rw [run_bind_of_run (show _ = (Except.ok c, s) from Prod.ext hc rfl), hchosen]
        exact openGateOnPool_of_ok h

theorem activateOnStartOnPool_of_ok (h : activateOnStart ctx s taskId t newStatus = .ok s') :
    (activateOnStartOnPool noFaults ctx taskId t newStatus).run s = (.ok (), s') := by
  unfold activateOnStart at h
  unfold activateOnStartOnPool
  split at h
  · next hstart =>
    rw [if_pos hstart]
    cases hgateId : t.approvalGateId with
    | none =>
      rw [hgateId] at h
      cases h
    | some gateId =>
      rw [hgateId] at h
      exact activateApprovalGateOnPool_of_ok h
  · next hstart =>
    rw [if_neg hstart]
    cases h
    rfl

theorem slaHooksOnPool_of_ok (h : slaHooks ctx s taskId t newStatus = .ok s') :
    (slaHooksOnPool noFaults ctx taskId t newStatus).run s = (.ok (), s') := by
  unfold slaHooks at h
  unfold slaHooksOnPool
  split at h
  · next hback =>
    rw [if_pos hback]
    obtain ⟨due, hdue, h⟩ := bind_ok h
    cases h
    unfold resumeFromExternalOnPool
    rw [run_bind_of_run (show _ = (Except.ok (latestPause s .task taskId), s) from rfl),
      run_bind_of_run (show _ = (Except.ok due, s) from Prod.ext hdue rfl)]
    cases due <;> rfl
  · next hback =>
    rw [if_neg hback]
    split at h
    · next hwait =>
      rw [if_pos hwait]
      obtain ⟨elapsed, helapsed, h⟩ := bind_ok h
      cases h
      unfold pauseForExternalOnPool
      rw [run_bind_of_run (show _ = (Except.ok elapsed, s) from Prod.ext helapsed rfl)]
      rfl
    · next hwait =>
      rw [if_neg hwait]
      cases h
      rfl

/-- On the pool and without faults, a call does what the transaction does. -/
theorem updateTaskStatusOnPool_refines (lib : Library) (ctx : Ctx) (taskId : Id)
    (newStatus : TaskStatus) (output errorDetail : Option Json) :
    (updateTaskStatusOnPool noFaults lib ctx taskId newStatus output errorDetail).Refines
      (updateTaskStatus lib ctx taskId newStatus output errorDetail) := by
  intro s s' h
  obtain ⟨t, ht, h⟩ := bind_ok h
  obtain ⟨u, hopen, h⟩ := bind_ok h
  obtain ⟨u', happroved, h⟩ := bind_ok h
  obtain ⟨u'', haccepted, h⟩ := bind_ok h
  obtain ⟨s₁, hactivated, h⟩ := bind_ok h
  obtain ⟨s₂, hhooks, h⟩ := bind_ok h
  cases h
  have hwritten : Written noFaults lib s taskId newStatus output t :=
    ⟨orFail_eq_ok.mp ht, rfl, by simpa using hopen, fun _ => rfl, happroved,
      fun _ => ⟨rfl, fun _ _ _ _ _ => rfl⟩, haccepted, rfl⟩
  rw [updateTaskStatusOnPool_of_written hwritten]
  unfold afterUpdate statusWritten
  rw [run_bind_of_run (activateOnStartOnPool_of_ok hactivated),
    run_bind_of_run (slaHooksOnPool_of_ok hhooks)]
  cases newStatus <;> rfl

end Agreement

end LoanWorkflow
