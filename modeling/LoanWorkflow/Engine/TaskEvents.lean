import LoanWorkflow.Engine.PoolOutcome

/-! # Finished tasks and their events

    A task that is completed or failed is announced by an event, from which
    the orchestrator advances the case. On the pool the status and the event
    are written by two statements, so a fault can separate them.

    - `updateTaskStatusOnPool_allOrNothing_iff`: the calls for which it holds
-/

namespace LoanWorkflow

open Autocommit

/-! ## The property -/

/-- The number of events of a type about a task. -/
def announcements (s : Store) (eventType : EventType) (taskId : Id) : Nat :=
  s.outbox.count (fun e => e.eventType == eventType && e.taskId == some taskId)

def statusOf (s : Store) (taskId : Id) : Option TaskStatus :=
  (s.tasks.get? taskId).map (·.status)

theorem statusOf_of_get? {s : Store} {k : Id} {t : Task} (h : s.tasks.get? k = some t) :
    statusOf s k = some t.status := congrArg (Option.map _) h

def Enters (taskId : Id) (status : TaskStatus) (s s' : Store) : Prop :=
  statusOf s taskId ≠ some status ∧ statusOf s' taskId = some status

/-- An event of the type about the task came into the outbox. -/
def Announces (taskId : Id) (eventType : EventType) (s s' : Store) : Prop :=
  announcements s eventType taskId < announcements s' eventType taskId

/-- A call that started from `s` finished the task if and only if it announced it, and left
    the row of the task as it was if it failed. -/
structure AllOrNothing (taskId : Id) (s : Store) (result : Except Err Unit × Store) : Prop where
  completed : Enters taskId .completed s result.2 ↔ Announces taskId .taskCompleted s result.2
  failed : Enters taskId .failed s result.2 ↔ Announces taskId .taskFailed s result.2
  unchanged : ∀ e, result.1 = .error e → result.2.tasks.get? taskId = s.tasks.get? taskId

/-- A call that changes nothing is atomic. -/
theorem AllOrNothing.of_unchanged (taskId : Id) (s : Store) (outcome : Except Err Unit) :
    AllOrNothing taskId s (outcome, s) where
  completed := ⟨fun h => absurd h.2 h.1, fun h => absurd h (lt_irrefl _)⟩
  failed := ⟨fun h => absurd h.2 h.1, fun h => absurd h (lt_irrefl _)⟩
  unchanged _ _ := rfl

/-! ## Events of a call -/

def TaskStatus.finishEvent : TaskStatus → Option EventType
  | .completed => some .taskCompleted
  | .failed => some .taskFailed
  | _ => none

theorem announcements_publish (s : Store) (e : Event) (eventType : EventType) (taskId : Id) :
    announcements (s.publish e) eventType taskId = announcements s eventType taskId +
      if e.eventType = eventType ∧ e.taskId = some taskId then 1 else 0 := by
  unfold announcements Store.publish
  simp

/-- No event of a finished task came into the outbox. -/
def Quiet (s s' : Store) : Prop :=
  ∀ eventType taskId, eventType.isFinish = true →
    announcements s' eventType taskId = announcements s eventType taskId

theorem Quiet.of_outbox {s s' : Store} (h : s'.outbox = s.outbox) : Quiet s s' := by
  intro eventType taskId _
  unfold announcements
  rw [h]

theorem Quiet.publish (s : Store) {e : Event} (he : e.eventType.isFinish = false) :
    Quiet s (s.publish e) := by
  intro eventType taskId hfinish
  have hne : e.eventType ≠ eventType := by
    rintro rfl
    rw [he] at hfinish
    cases hfinish
  rw [announcements_publish, if_neg fun h => hne h.1]
  rfl

theorem Quiet.keptByHooks (taskId : Id) : KeptByHooks taskId Quiet where
  refl _ := .of_outbox rfl
  trans h h' eventType k hfinish := (h' eventType k hfinish).trans (h eventType k hfinish)
  publish s _ he := .publish s he
  request _ _ := .of_outbox rfl
  gate _ _ _ := .of_outbox rfl
  await _ := .of_outbox rfl
  restart _ _ _ := .of_outbox rfl
  log _ _ := .of_outbox rfl

/-- A call whose later statements all succeed announces what it finished, and nothing else. -/
theorem afterUpdate_announcements {fails : Faults} {ctx : Ctx} {taskId : Id} {t : Task}
    {newStatus : TaskStatus} {s : Store} (h : Finishing fails ctx s taskId t newStatus)
    {eventType : EventType} (hfinish : eventType.isFinish = true) :
    announcements ((afterUpdate fails ctx taskId t newStatus).run s).2 eventType taskId =
      announcements s eventType taskId +
        if newStatus.finishEvent = some eventType then 1 else 0 := by
  have hhooks := Quiet.keptByHooks taskId
  have hactivation : Moves Quiet (activateOnStartOnPool fails ctx taskId t newStatus) :=
    hhooks.toKeptByActivation.activateOnStartOnPool t newStatus
  have hclocks : Moves Quiet (slaHooksOnPool fails ctx taskId t newStatus) :=
    hhooks.slaHooksOnPool t newStatus
  have hquiet := hhooks.trans (hactivation s) (hclocks _)
  have hstart := activateOnStartOnPool_ok (u := ()).mpr h.start
  have hclock : ((slaHooksOnPool fails ctx taskId t newStatus).run
      ((activateOnStartOnPool fails ctx taskId t newStatus).run s).2).1 = .ok () :=
    slaHooksOnPool_ok.mpr ((CanMoveClock.congr activateOnStartOnPool_pauseLog).mpr h.clock)
  unfold afterUpdate
  rw [run_bind_of_ok hstart, run_bind_of_ok hclock, ← hquiet eventType taskId hfinish]
  generalize ((slaHooksOnPool fails ctx taskId t newStatus).run _).2 = s₂
  unfold publishFinishedOnPool
  split
  · next hdone =>
    rw [announceOnPool_of_spares (h.event hdone)]
    rcases hdone with rfl | rfl <;>
      simp [publishFinished, announcements_publish, TaskStatus.finishEvent]
  · next hopen =>
    have hnone : newStatus.finishEvent = none := by
      cases newStatus <;> simp_all [TaskStatus.finishEvent]
    simp [hnone]

/-! ## The calls that are atomic -/

section Calls

variable {fails : Faults} {lib : Library} {ctx : Ctx} {taskId : Id} {newStatus : TaskStatus}
  {output errorDetail : Option Json} {s : Store} {t : Task}

theorem statusWritten_row (h : s.tasks.get? taskId = some t) :
    (statusWritten ctx taskId newStatus output errorDetail s).tasks.get? taskId =
      some (t.advance newStatus output errorDetail ctx.now) := Table.get?_updateAt_of_get? h

/-- Once the status is written the row is never again what it was. -/
theorem row_ne_of_written (h : Written fails lib s taskId newStatus output t) :
    ((afterUpdate fails ctx taskId t newStatus).run
      (statusWritten ctx taskId newStatus output errorDetail s)).2.tasks.get? taskId ≠
        s.tasks.get? taskId := by
  obtain ⟨t', ht', hversion, -, -⟩ :=
    (afterUpdate_moves fails ctx taskId t newStatus _).row _ (statusWritten_row h.row)
  intro heq
  rw [ht', h.row, Option.some.injEq] at heq
  have hadvance : (t.advance newStatus output errorDetail ctx.now).version = t.version + 1 := rfl
  rw [heq, hadvance] at hversion
  omega

/-- Once the status is written the task is in it, or waits for an approval. -/
theorem enters_iff_of_written (h : Written fails lib s taskId newStatus output t)
    {status : TaskStatus} (hterminal : status.isTerminal = true) :
    Enters taskId status s ((afterUpdate fails ctx taskId t newStatus).run
      (statusWritten ctx taskId newStatus output errorDetail s)).2 ↔ newStatus = status := by
  obtain ⟨t', ht', -, -, hstatus⟩ :=
    (afterUpdate_moves fails ctx taskId t newStatus _).row _ (statusWritten_row h.row)
  have hbefore : t.status ≠ status := by
    rintro rfl
    rw [h.unfinished] at hterminal
    cases hterminal
  have hwritten : (t.advance newStatus output errorDetail ctx.now).status = newStatus := rfl
  rw [hwritten] at hstatus
  unfold Enters statusOf
  simp only [ht', h.row, Option.map_some, ne_eq, Option.some.injEq, hbefore, not_false_iff,
    true_and]
  rcases hstatus with hsame | ⟨hprogress, hwaits⟩
  · rw [hsame]
  · -- neither the new status nor the one of a waiting task is final
    rw [hwaits, hprogress]
    constructor <;> rintro rfl <;> cases hterminal

/-- A call whose later statements all succeed announces a final status if and only if it
    wrote it. -/
theorem announces_iff_of_finishing
    (hfinishing : Finishing fails ctx (statusWritten ctx taskId newStatus output errorDetail s)
      taskId t newStatus) {eventType : EventType} (hfinish : eventType.isFinish = true) :
    Announces taskId eventType s ((afterUpdate fails ctx taskId t newStatus).run
      (statusWritten ctx taskId newStatus output errorDetail s)).2 ↔
        newStatus.finishEvent = some eventType := by
  have hbefore : announcements (statusWritten ctx taskId newStatus output errorDetail s) eventType
      taskId = announcements s eventType taskId := rfl
  unfold Announces
  rw [afterUpdate_announcements hfinishing hfinish, hbefore]
  split <;> simp_all

end Calls

/-- A call on the pool is atomic if and only if it does not get to write the status, or
    everything after that succeeds. -/
theorem updateTaskStatusOnPool_allOrNothing_iff (fails : Faults) (lib : Library) (ctx : Ctx)
    (taskId : Id) (newStatus : TaskStatus) (output errorDetail : Option Json) (s : Store) :
    AllOrNothing taskId s
        ((updateTaskStatusOnPool fails lib ctx taskId newStatus output errorDetail).run s) ↔
      ∀ t, Written fails lib s taskId newStatus output t →
        Finishing fails ctx s taskId t newStatus := by
  constructor
  · intro hatomic t hwritten
    rw [updateTaskStatusOnPool_of_written hwritten] at hatomic
    cases houtcome : ((afterUpdate fails ctx taskId t newStatus).run
        (statusWritten ctx taskId newStatus output errorDetail s)).1 with
    | ok u =>
      have hfinishing := afterUpdate_ok.mp houtcome
      exact ⟨hfinishing.start, hfinishing.clock, hfinishing.event⟩
    | error e => exact absurd (hatomic.unchanged e houtcome) (row_ne_of_written hwritten)
  · intro h
    by_cases hsome : ∃ t, Written fails lib s taskId newStatus output t
    · obtain ⟨t, hwritten⟩ := hsome
      rw [updateTaskStatusOnPool_of_written hwritten]
      -- writing the status changes nothing that the later statements ask for
      have hfinishing : Finishing fails ctx
          (statusWritten ctx taskId newStatus output errorDetail s) taskId t newStatus :=
        ⟨(h t hwritten).start, (h t hwritten).clock, (h t hwritten).event⟩
      refine ⟨?_, ?_, fun e he => ?_⟩
      · rw [enters_iff_of_written hwritten rfl, announces_iff_of_finishing hfinishing rfl]
        cases newStatus <;> decide
      · rw [enters_iff_of_written hwritten rfl, announces_iff_of_finishing hfinishing rfl]
        cases newStatus <;> decide
      · rw [afterUpdate_ok (u := ()).mpr hfinishing] at he
        cases he
    · obtain ⟨e, hrun⟩ := updateTaskStatusOnPool_of_not_written hsome
      rw [hrun]
      exact .of_unchanged taskId s (.error e)

def runningTask : Store where
  caseTypes := Table.empty.insert { config := { stages := [] } }
  cases := Table.empty.insert { caseTypeId := 0, status := .inProgress }
  tasks := Table.empty.insert
    { caseId := 0, taskDefinitionCode := "SIGN", activityCode := "WORK", stageCode := "CLOSING"
      status := .inProgress, idempotencyKey := "0-SIGN" }

/-- The connection is lost before the event of the finished task is inserted. -/
def lostBeforeEvent : Faults := fun st =>
  if st = .insertEvent .taskFinished then some "unexpected EOF" else none

/-- A worker completes the task, and the connection is lost after the update: the task is
    completed, no event says so, and the worker is told that the call failed. -/
theorem completed_without_event :
    ∃ e s', (updateTaskStatusOnPool lostBeforeEvent .plain (.plain 1) 0 .completed none none).run
        runningTask = (.error e, s') ∧
      statusOf s' 0 = some .completed ∧ announcements s' .taskCompleted 0 = 0 ∧
      ¬ AllOrNothing 0 runningTask (.error e, s') := by
  refine ⟨_, _, rfl, by decide, by decide, fun h => ?_⟩
  have hannounced := h.completed.mp ⟨by decide, by decide⟩
  exact absurd hannounced (by unfold Announces; decide)

end LoanWorkflow
