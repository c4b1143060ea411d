import LoanWorkflow.Sla.Calendar
import LoanWorkflow.Sla.PauseLog

/-! # The SLA service

    `PauseSLA`, `ResumeSLA` and `ExtendSLA` on the clock of a task or of a
    case. A pause only writes the log. A resumption moves the start of the
    clock to now and the due date to now plus what the duration leaves after
    the working time of the latest pause. An extension moves the due date and
    the duration by the same working time.

    Every call is one transaction of its own.
-/

namespace LoanWorkflow

open Table

variable {row : SLAPauseLog}

/-! ## Requests -/

/-- `sla.Actor`: the caller as the authorisation checks see it. -/
structure SLAActor where
  isSupervisor : Bool := false
  isSystem : Bool := false

inductive SLAState where
  | active
  | paused
  | breached
deriving DecidableEq, Repr

/-- The state of a clock that a transition is checked against. -/
structure SLAEntity where
  entityId : Id
  state : SLAState
  isBreached : Bool
  extensionDuration : Duration := 0

/-- The operations on a clock that the service validates. -/
inductive SLAOperation where
  | pause
  | resume
  | extend
deriving DecidableEq, Repr

/-- `PauseSLARequest` and `ResumeSLARequest`. -/
structure SLARequest where
  entityType : SLAEntityType
  entityId : Id
  reason : String := ""
  actor : SLAActor := {}

variable {req : SLARequest}

structure ExtendSLARequest extends SLARequest where
  extensionDurationHours : ℚ
  approvedBy : String

/-! ## Reading a clock -/

/-- `slaEntitySnapshot`: a clock with the columns of its entity. -/
structure SLASnapshot where
  clock : Clock
  sla : SLAColumns
  createdAt : Instant

/-- The snapshot of a task; an empty `task_due_at` falls back on `due_at`. -/
def SLASnapshot.ofTask (taskId : Id) (t : Task) : SLASnapshot where
  clock := .ofTask taskId t.caseId
  sla := { t.sla with dueAt := t.sla.dueAt <|> t.dueAt }
  createdAt := t.createdAt

def SLASnapshot.ofCase (caseId : Id) (c : CaseInstance) : SLASnapshot where
  clock := .ofCase caseId
  sla := c.sla
  createdAt := c.createdAt

def SLASnapshot.start (snapshot : SLASnapshot) : Instant :=
  snapshot.sla.effectiveStartTime.getD snapshot.createdAt

def loadEntitySnapshot (s : Store) (entityType : SLAEntityType) (entityId : Id) :
    Except Err SLASnapshot :=
  match entityType with
  | .task => do
    let t ← orFail (s.tasks.get? entityId)
      ("loadEntitySnapshot: task " ++ toString entityId ++ ": sql: no rows in result set")
    return .ofTask entityId t
  | .case => do
    let c ← orFail (s.cases.get? entityId)
      ("loadEntitySnapshot: case " ++ toString entityId ++ ": sql: no rows in result set")
    return .ofCase entityId c
  | .stage | .activity =>
    .error ("loadEntitySnapshot: entity type " ++ entityType.text ++
      " is not supported by runtime tables")

def currentEntityState (s : Store) (entityType : SLAEntityType) (entityId : Id)
    (breached : Bool) : SLAState :=
  if breached then .breached
  else if latestAction s entityType entityId = some .pause then .paused
  else .active

def validateSLAOperation (operation : SLAOperation) (entity : SLAEntity) (actor : SLAActor) :
    Except Err Unit :=
  let name := toString entity.entityId
  match operation with
  | .pause => do
    ensure (entity.state != .paused) ("ValidateSLAOperation: entity " ++ name ++ " already paused")
    ensure (!(entity.state == .breached || entity.isBreached))
      ("ValidateSLAOperation: breached entity " ++ name ++ " cannot be paused")
  | .resume => do
    ensure (entity.state == .paused) ("ValidateSLAOperation: entity " ++ name ++ " is not paused")
    ensure (!(entity.state == .breached || entity.isBreached))
      ("ValidateSLAOperation: breached entity " ++ name ++ " cannot resume")
  | .extend => do
    ensure actor.isSupervisor "ValidateSLAOperation: extension requires supervisor"
    ensure (!(entity.state == .breached || entity.isBreached))
      ("ValidateSLAOperation: breached entity " ++ name ++ " must be reset, not extended")
    ensure (decide (0 < entity.extensionDuration))
      "ValidateSLAOperation: extension duration must be positive"
    ensure (entity.state == .active) "ValidateSLAOperation: extension allowed only for ACTIVE SLA"

def hoursToMilliseconds (hours : ℚ) : Except Err Int :=
  if hours ≤ 0 then .error "hoursToMilliseconds: duration must be > 0"
  else
    let ms := Binary64.round (hours * 3600000)
    if 2 ^ 63 < ms then .error "hoursToMilliseconds: duration overflow"
    -- the conversion of `2 ^ 63` itself wraps around
    else .ok (⌊ms⌋.bmod (2 ^ 64))

/-! ## Writing a clock -/

/-- Write the SLA columns of a task or of a case. -/
def updateEntitySLA (s : Store) (entityType : SLAEntityType) (entityId : Id)
    (f : SLAColumns → SLAColumns) (name : String) : Except Err Store :=
  match entityType with
  | .task => .ok (s.updateTask entityId (·.withSLA f))
  | .case => .ok (s.updateCase entityId (·.withSLA f))
  | .stage | .activity => .error (name ++ ": unsupported entity type " ++ entityType.text)

def updateEntitySLAOnResume (s : Store) (entityType : SLAEntityType) (entityId : Id)
    (now newDueAt : Instant) : Except Err Store :=
  updateEntitySLA s entityType entityId (·.restart now newDueAt) "updateEntitySLAOnResume"

def SLAColumns.extend (sla : SLAColumns) (newDueAt : Instant) (extensionMs : Int) : SLAColumns :=
  { sla with
    dueAt := some newDueAt
    durationMs := some (sla.durationMs.getD 0 + extensionMs)
    warningIssuedAt := none
    criticalIssuedAt := none }

def updateEntitySLAOnExtend (s : Store) (entityType : SLAEntityType) (entityId : Id)
    (newDueAt : Instant) (extensionMs : Int) : Except Err Store :=
  updateEntitySLA s entityType entityId (·.extend newDueAt extensionMs) "updateEntitySLAOnExtend"

def SLAColumns.reset (sla : SLAColumns) (now newDueAt : Instant) (durationMs : Int) : SLAColumns :=
  { sla.restart now newDueAt with
    durationMs := some durationMs
    breachDetectedAt := none
    cycle := sla.cycle + 1 }

def updateEntitySLAOnReset (s : Store) (entityType : SLAEntityType) (entityId : Id)
    (now newDueAt : Instant) (durationMs : Int) : Except Err Store :=
  updateEntitySLA s entityType entityId (·.reset now newDueAt durationMs) "updateEntitySLAOnReset"

/-- A threshold event of an entity that is not delivered yet. -/
def Event.isPendingThresholdOf (e : Event) (entityType : SLAEntityType) (entityId : Id) : Bool :=
  (e.eventType == .slaWarning || e.eventType == .slaCritical) &&
    (e.status == .pending || e.status == .processing) && e.cancelledAt.isNone &&
    e.payload.strField "entity_type" == entityType.text &&
    e.payload.idField? "entity_id" == some entityId

def cancelPendingThresholdEvents (s : Store) (entityType : SLAEntityType) (entityId : Id)
    (now : Instant) : Store :=
  { s with
    outbox := s.outbox.updateWhere (·.isPendingThresholdOf entityType entityId)
      (fun e => { e with cancelledAt := some now }) }

/-! ## The operations -/

def pauseSLA (ctx : Ctx) (req : SLARequest) (s : Store) : Except Err Store :=
  Except.mapError ("PauseSLA: " ++ ·) do
    ensure (req.reason != "") "reason is required"
    let snapshot ← loadEntitySnapshot s req.entityType req.entityId
    let breached := snapshot.sla.breachDetectedAt.isSome
    let state := currentEntityState s req.entityType req.entityId breached
    validateSLAOperation .pause
      { entityId := req.entityId, state := state, isBreached := breached } req.actor
    let calendarId ← orFail snapshot.sla.calendarId
      ("missing calendar id on entity " ++ toString req.entityId)
    let elapsed ← (ctx.businessHoursElapsed snapshot.start ctx.now calendarId).mapError
      ("compute elapsed business time: " ++ ·)
    let s := s.logPause
      { entityType := req.entityType, entityId := req.entityId, pausedAt := ctx.now
        pauseReason := req.reason, elapsedBeforePauseMs := toMilliseconds elapsed
        action := .pause }
    return s.publish
      { eventType := .slaPaused, caseId := some snapshot.clock.caseId
        taskId := snapshot.clock.taskId, payload := snapshot.clock.payload req.reason }

def resumeSLA (ctx : Ctx) (req : SLARequest) (s : Store) : Except Err Store :=
  Except.mapError ("ResumeSLA: " ++ ·) do
    let snapshot ← loadEntitySnapshot s req.entityType req.entityId
    let durationMs := snapshot.sla.durationMs.getD 0
    ensure (decide (0 < durationMs))
      ("missing positive duration for entity " ++ toString req.entityId)
    let calendarId ← orFail snapshot.sla.calendarId
      ("missing calendar id for entity " ++ toString req.entityId)
    let breached := snapshot.sla.breachDetectedAt.isSome
    let state := currentEntityState s req.entityType req.entityId breached
    validateSLAOperation .resume
      { entityId := req.entityId, state := state, isBreached := breached } req.actor
    let lastPause ← orFail (latestPause s req.entityType req.entityId)
      "latestPauseMarker: sql: no rows in result set"
    let remaining := max 0 (ofMilliseconds (durationMs - lastPause.elapsedBeforePauseMs))
    let newDueAt ← (ctx.addBusinessHours ctx.now remaining calendarId).mapError
      ("recompute due_at: " ++ ·)
    let s ← updateEntitySLAOnResume s req.entityType req.entityId ctx.now newDueAt
    let s := s.logPause
      { entityType := req.entityType, entityId := req.entityId, pausedAt := lastPause.pausedAt
        resumedAt := some ctx.now, pauseReason := req.reason
        elapsedBeforePauseMs := lastPause.elapsedBeforePauseMs, action := .resume }
    return s.publish
      { eventType := .slaResumed, caseId := some snapshot.clock.caseId
        taskId := snapshot.clock.taskId, payload := snapshot.clock.payload req.reason }

def extendSLA (ctx : Ctx) (req : ExtendSLARequest) (s : Store) : Except Err Store :=
  Except.mapError ("ExtendSLA: " ++ ·) do
    ensure (req.reason != "") "reason is required"
    ensure (req.approvedBy != "") "approved_by is required"
    let extensionMs ← hoursToMilliseconds req.extensionDurationHours
    let snapshot ← loadEntitySnapshot s req.entityType req.entityId
    let calendarId ← orFail snapshot.sla.calendarId
      ("missing calendar id for entity " ++ toString req.entityId)
    let dueAt ← orFail snapshot.sla.dueAt
      ("due_at is missing for entity " ++ toString req.entityId)
    let breached := snapshot.sla.breachDetectedAt.isSome
    let state := currentEntityState s req.entityType req.entityId breached
    validateSLAOperation .extend
      { entityId := req.entityId, state := state, isBreached := breached
        extensionDuration := ofMilliseconds extensionMs } req.actor
    let s := cancelPendingThresholdEvents s req.entityType req.entityId ctx.now
    let newDueAt ← (ctx.addBusinessHours dueAt (ofMilliseconds extensionMs) calendarId).mapError
      ("recompute due_at: " ++ ·)
    let s ← updateEntitySLAOnExtend s req.entityType req.entityId newDueAt extensionMs
    return s.publish
      { eventType := .slaExtended, caseId := some snapshot.clock.caseId
        taskId := snapshot.clock.taskId
        payload := .obj (snapshot.clock.fields ++
          [("reason", .str req.reason), ("approved_by", .str req.approvedBy)]) }

/-! ## Steps -/

section Validation

variable {s : Store} {entityType : SLAEntityType} {entityId : Id} {breached : Bool} {actor : SLAActor}
  {extension : Duration} {u : Unit}

/-- Of the operations that are allowed, only a resumption finds the clock paused. -/
theorem of_validateSLAOperation {op : SLAOperation}
    (h : validateSLAOperation op
        ⟨entityId, currentEntityState s entityType entityId breached, breached, extension⟩ actor =
      .ok u) :
    (op = .resume ↔ latestAction s entityType entityId = some .pause) ∧
      (op = .extend → 0 < extension) := by
  unfold validateSLAOperation currentEntityState at h
  cases op <;> cases breached <;>
    by_cases hpaused : latestAction s entityType entityId = some .pause <;>
    simp_all [bind_eq_ok]

end Validation

/-! ## The clock of one entity -/

section Load

variable {s s' : Store} {entityType : SLAEntityType} {entityId : Id} {f : SLAColumns → SLAColumns}
  {name : String}

/-- Writing the SLA columns leaves the log alone. -/
theorem updateEntitySLA_pauseLog (h : updateEntitySLA s entityType entityId f name = .ok s') :
    s'.pauseLog = s.pauseLog := by
  cases entityType <;> cases h <;> rfl

/-- The snapshot of a task after a write that sets the due date. -/
theorem ofTask_withSLA (hf : ∀ sla d, f { sla with dueAt := d } = f sla) (taskId : Id) (t : Task) :
    SLASnapshot.ofTask taskId (t.withSLA f) =
      { SLASnapshot.ofTask taskId t with sla := f (SLASnapshot.ofTask taskId t).sla } := by
  have hsla : f (SLASnapshot.ofTask taskId t).sla = f t.sla := hf _ _
  rw [hsla]
  unfold SLASnapshot.ofTask Task.withSLA
  generalize f t.sla = sla
  -- both due columns hold the same date now
  obtain ⟨dueAt⟩ := sla
  cases dueAt <;> rfl

/-- The snapshot after a write that sets the due date. -/
theorem load_updateEntitySLA (hf : ∀ sla d, f { sla with dueAt := d } = f sla)
    (h : updateEntitySLA s entityType entityId f name = .ok s') {snapshot : SLASnapshot}
    (hload : loadEntitySnapshot s entityType entityId = .ok snapshot) :
    loadEntitySnapshot s' entityType entityId =
      .ok { snapshot with sla := f snapshot.sla } := by
  cases entityType with
  | task =>
    cases h
    obtain ⟨t, ht, hsnap⟩ := bind_ok hload
    cases hsnap
    rw [orFail_eq_ok] at ht
    have hget : (s.updateTask entityId (·.withSLA f)).tasks.get? entityId = some (t.withSLA f) :=
      get?_updateAt_of_get? ht
    unfold loadEntitySnapshot
    rw [hget]
    exact congrArg Except.ok (ofTask_withSLA hf entityId t)
  | case =>
    cases h
    obtain ⟨c, hc, hsnap⟩ := bind_ok hload
    cases hsnap
    rw [orFail_eq_ok] at hc
    have hget : (s.updateCase entityId (·.withSLA f)).cases.get? entityId = some (c.withSLA f) :=
      get?_updateAt_of_get? hc
    unfold loadEntitySnapshot
    rw [hget]
    rfl
  | stage => cases h
  | activity => cases h

/-- Other clocks are not written. -/
theorem load_updateEntitySLA_other {otherType : SLAEntityType} {otherId : Id}
    (hne : ¬ (entityType = otherType ∧ entityId = otherId))
    (h : updateEntitySLA s entityType entityId f name = .ok s') :
    loadEntitySnapshot s' otherType otherId = loadEntitySnapshot s otherType otherId := by
  cases entityType <;> cases h <;> cases otherType <;> try rfl
  · have hid : otherId ≠ entityId := fun heq => hne ⟨rfl, heq.symm⟩
    unfold loadEntitySnapshot Store.updateCase
    rw [get?_updateAt_ne hid]
  · have hid : otherId ≠ entityId := fun heq => hne ⟨rfl, heq.symm⟩
    unfold loadEntitySnapshot Store.updateTask
    rw [get?_updateAt_ne hid]

end Load

/-! ## Runs -/

inductive SLAOp where
  | pause (now : Instant) (req : SLARequest)
  | resume (now : Instant) (req : SLARequest)
  | extend (now : Instant) (req : ExtendSLARequest)

namespace SLAOp

def exec (calendars : Id → Option BusinessCalendar) : SLAOp → Store → Except Err Store
  | .pause now req => pauseSLA (.onCalendars calendars now) req
  | .resume now req => resumeSLA (.onCalendars calendars now) req
  | .extend now req => extendSLA (.onCalendars calendars now) req

def request : SLAOp → SLARequest
  | .pause _ req => req
  | .resume _ req => req
  | .extend _ req => req.toSLARequest

def isOf (op : SLAOp) (entityType : SLAEntityType) (entityId : Id) : Bool :=
  op.request.entityType == entityType && op.request.entityId == entityId

end SLAOp

/-- What the service reads of a clock. -/
structure ClockView where
  load : Except Err SLASnapshot
  action : Option PauseAction
  pause : Option SLAPauseLog
  paused : Int

def clockView (s : Store) (entityType : SLAEntityType) (entityId : Id) : ClockView :=
  ⟨loadEntitySnapshot s entityType entityId, latestAction s entityType entityId,
    latestPause s entityType entityId, pausedMs s entityType entityId⟩

def SLARequest.view (req : SLARequest) (s : Store) : ClockView :=
  clockView s req.entityType req.entityId

section Frame

variable {s s' : Store} {entityType : SLAEntityType} {entityId : Id}

/-- With the same log, a clock is what its entity says. -/
theorem clockView_of_log (hlog : s'.pauseLog = s.pauseLog) :
    clockView s' entityType entityId = { clockView s entityType entityId with
      load := loadEntitySnapshot s' entityType entityId } := by
  unfold clockView latestAction latestPause pausedMs
  rw [hlog]

/-- A row of the log is the latest one of its entity. -/
theorem clockView_logPause (s : Store) (row : SLAPauseLog) (entityType : SLAEntityType)
    (entityId : Id) : clockView (s.logPause row) entityType entityId =
      let v := clockView s entityType entityId
      if row.isOf entityType entityId = true then
        { v with
          action := some row.action
          pause := if row.action = .pause then some row else v.pause
          paused := v.paused + if row.action = .pause then row.elapsedBeforePauseMs else 0 }
      else v := by
  unfold clockView latestAction latestPause pausedMs Store.logPause
  rw [findLast?_insert, findLast?_insert]
  unfold Table.insert
  rw [List.filter_append, List.map_append, List.sum_append]
  have hload : loadEntitySnapshot { s with pauseLog := s.pauseLog.insert row } entityType entityId =
      loadEntitySnapshot s entityType entityId := rfl
  by_cases hrow : row.isOf entityType entityId = true <;> by_cases haction : row.action = .pause <;>
    simp [SLAPauseLog.isPauseOf, hrow, haction]
  all_goals exact hload

/-- The clocks of other entities are as before. -/
def SLARequest.SparesOthers (req : SLARequest) (s s' : Store) : Prop :=
  ∀ entityType entityId, ¬ (req.entityType = entityType ∧ req.entityId = entityId) →
    clockView s' entityType entityId = clockView s entityType entityId

theorem SLARequest.isOf (htype : row.entityType = req.entityType)
    (hid : row.entityId = req.entityId) :
    row.isOf entityType entityId = true ↔ req.entityType = entityType ∧ req.entityId = entityId := by
  simp [SLAPauseLog.isOf, htype, hid]

theorem SLARequest.SparesOthers.logPause (h : req.SparesOthers s s')
    (htype : row.entityType = req.entityType) (hid : row.entityId = req.entityId) (e : Event) :
    req.SparesOthers s ((s'.logPause row).publish e) := by
  intro entityType entityId hne
  refine (clockView_logPause s' row entityType entityId).trans ?_
  rw [if_neg (mt (SLARequest.isOf htype hid).mp hne)]
  exact h entityType entityId hne

theorem SLARequest.SparesOthers.update {f : SLAColumns → SLAColumns}
    {name : String} (h : updateEntitySLA s req.entityType req.entityId f name = .ok s') :
    req.SparesOthers s s' := by
  intro entityType entityId hne
  rw [clockView_of_log (updateEntitySLA_pauseLog h), load_updateEntitySLA_other hne h]
  rfl

end Frame

section Own

variable {ctx : Ctx} {s s' : Store}

theorem pauseSLA_own (h : pauseSLA ctx req s = .ok s') :
    ∃ snapshot calendarId elapsed row,
      (req.view s).load = .ok snapshot ∧ snapshot.sla.calendarId = some calendarId ∧
      (req.view s).action ≠ some .pause ∧
      ctx.businessHoursElapsed snapshot.start ctx.now calendarId = .ok elapsed ∧
      row.elapsedBeforePauseMs = toMilliseconds elapsed ∧
      req.view s' = ⟨.ok snapshot, some .pause, some row,
        (req.view s).paused + toMilliseconds elapsed⟩ ∧
      req.SparesOthers s s' := by
  rw [pauseSLA, mapError_eq_ok] at h
  obtain ⟨-, -, h⟩ := bind_ok h
  obtain ⟨snapshot, hload, h⟩ := bind_ok h
  obtain ⟨_, hvalid, h⟩ := bind_ok h
  obtain ⟨calendarId, hcal, h⟩ := bind_ok h
  obtain ⟨elapsed, helapsed, h⟩ := bind_ok h
  cases h
  refine ⟨snapshot, calendarId, elapsed,
    ⟨req.entityType, req.entityId, ctx.now, none, req.reason, toMilliseconds elapsed, .pause⟩, hload,
    orFail_eq_ok.mp hcal, mt (of_validateSLAOperation hvalid).1.mpr nofun,
    mapError_eq_ok.mp helapsed, rfl, ?_,
    SLARequest.SparesOthers.logPause (fun _ _ _ => rfl) rfl rfl _⟩
  refine (clockView_logPause s _ _ _).trans ((if_pos ?_).trans ?_)
  · exact (SLARequest.isOf rfl rfl).mpr ⟨rfl, rfl⟩
  · unfold clockView
    rw [hload]
    rfl

theorem resumeSLA_own (h : resumeSLA ctx req s = .ok s') :
    ∃ snapshot durationMs calendarId lastPause newDueAt,
      (req.view s).load = .ok snapshot ∧ snapshot.sla.durationMs = some durationMs ∧
      snapshot.sla.calendarId = some calendarId ∧ (req.view s).action = some .pause ∧
      (req.view s).pause = some lastPause ∧
      ctx.addBusinessHours ctx.now
        (max 0 (ofMilliseconds (durationMs - lastPause.elapsedBeforePauseMs))) calendarId =
          .ok newDueAt ∧
      req.view s' = { req.view s with
        load := .ok { snapshot with sla := snapshot.sla.restart ctx.now newDueAt }
        action := some .resume } ∧
      req.SparesOthers s s' := by
  rw [resumeSLA, mapError_eq_ok] at h
  obtain ⟨snapshot, hload, h⟩ := bind_ok h
  obtain ⟨_, hpos, h⟩ := bind_ok h
  obtain ⟨calendarId, hcal, h⟩ := bind_ok h
  obtain ⟨_, hvalid, h⟩ := bind_ok h
  obtain ⟨lastPause, hpause, h⟩ := bind_ok h
  obtain ⟨newDueAt, hdue, h⟩ := bind_ok h
  obtain ⟨updated, hupdate, h⟩ := bind_ok h
  cases h
  rw [ensure_eq_ok, decide_eq_true_eq] at hpos
  -- a missing duration reads as zero, which the check refuses
  cases hduration : snapshot.sla.durationMs with
  | none => rw [hduration] at hpos; exact absurd hpos (lt_irrefl _)
  | some durationMs =>
    rw [hduration] at hdue
    refine ⟨snapshot, durationMs, calendarId, lastPause, newDueAt, hload, hduration,
      orFail_eq_ok.mp hcal, (of_validateSLAOperation hvalid).1.mp rfl, orFail_eq_ok.mp hpause,
      mapError_eq_ok.mp hdue, ?_, (SLARequest.SparesOthers.update hupdate).logPause rfl rfl _⟩
    refine (clockView_logPause updated _ _ _).trans ((if_pos ?_).trans ?_)
    · exact (SLARequest.isOf rfl rfl).mpr ⟨rfl, rfl⟩
    · rw [clockView_of_log (updateEntitySLA_pauseLog hupdate),
        load_updateEntitySLA (fun _ _ => rfl) hupdate hload]
      exact congrArg (ClockView.mk _ _ _) (add_zero _)

theorem extendSLA_own {req : ExtendSLARequest} (h : extendSLA ctx req s = .ok s') :
    ∃ extensionMs snapshot calendarId dueAt newDueAt,
      hoursToMilliseconds req.extensionDurationHours = .ok extensionMs ∧
      (req.view s).load = .ok snapshot ∧ snapshot.sla.calendarId = some calendarId ∧
      snapshot.sla.dueAt = some dueAt ∧ 0 < ofMilliseconds extensionMs ∧
      (req.view s).action ≠ some .pause ∧
      ctx.addBusinessHours dueAt (ofMilliseconds extensionMs) calendarId = .ok newDueAt ∧
      req.view s' = { req.view s with
        load := .ok { snapshot with sla := snapshot.sla.extend newDueAt extensionMs } } ∧
      req.SparesOthers s s' := by
  rw [extendSLA, mapError_eq_ok] at h
  obtain ⟨-, -, h⟩ := bind_ok h
  obtain ⟨-, -, h⟩ := bind_ok h
  obtain ⟨extensionMs, hms, h⟩ := bind_ok h
  obtain ⟨snapshot, hload, h⟩ := bind_ok h
  obtain ⟨calendarId, hcal, h⟩ := bind_ok h
  obtain ⟨dueAt, hdueAt, h⟩ := bind_ok h
  obtain ⟨_, hvalid, h⟩ := bind_ok h
  obtain ⟨newDueAt, hdue, h⟩ := bind_ok h
  obtain ⟨updated, hupdate, h⟩ := bind_ok h
  cases h
  have hpos := (of_validateSLAOperation hvalid).2 rfl
  have hactive := mt (of_validateSLAOperation hvalid).1.mpr nofun
  -- the events that are cancelled are no part of a clock
  have hload' : loadEntitySnapshot (cancelPendingThresholdEvents s req.entityType req.entityId
      ctx.now) req.entityType req.entityId = .ok snapshot := hload
  have hothers := SLARequest.SparesOthers.update hupdate
  refine ⟨extensionMs, snapshot, calendarId, dueAt, newDueAt, hms, hload, orFail_eq_ok.mp hcal,
    orFail_eq_ok.mp hdueAt, hpos, hactive, mapError_eq_ok.mp hdue, ?_, hothers⟩
  refine (clockView_of_log (updateEntitySLA_pauseLog hupdate)).trans ?_
  rw [load_updateEntitySLA (fun _ _ => rfl) hupdate hload']
  rfl

theorem SLAOp.isOf_iff {op : SLAOp} {entityType : SLAEntityType} {entityId : Id} :
    op.isOf entityType entityId = true ↔
      op.request.entityType = entityType ∧ op.request.entityId = entityId := by
  simp [SLAOp.isOf]

/-- A call about another entity leaves a clock alone. -/
theorem SLAOp.exec_other {calendars : Id → Option BusinessCalendar} {op : SLAOp}
    {entityType : SLAEntityType} {entityId : Id} (hother : op.isOf entityType entityId = false)
    (h : op.exec calendars s = .ok s') :
    clockView s' entityType entityId = clockView s entityType entityId := by
  have hne := mt SLAOp.isOf_iff.mpr (Bool.eq_false_iff.mp hother)
  cases op with
  | pause now req =>
    obtain ⟨_, _, _, _, -, -, -, -, -, -, hothers⟩ := pauseSLA_own h
    exact hothers entityType entityId hne
  | resume now req =>
    obtain ⟨_, _, _, _, _, -, -, -, -, -, -, -, hothers⟩ := resumeSLA_own h
    exact hothers entityType entityId hne
  | extend now req =>
    obtain ⟨_, _, _, _, _, -, -, -, -, -, -, -, -, hothers⟩ := extendSLA_own h
    exact hothers entityType entityId hne

end Own

end LoanWorkflow
