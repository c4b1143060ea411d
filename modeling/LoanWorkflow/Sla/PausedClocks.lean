import LoanWorkflow.Engine.Lifecycle
import LoanWorkflow.Sla.Budget
import LoanWorkflow.Sla.SweepReach

/-! # Paused clocks and the sweep

    Whether a clock is paused stands in the pause log. The sweep does not read
    it: it selects tasks by their status, and a suspended case has its tasks
    put back to `PENDING`, which is one of the statuses it selects. So a
    paused clock is silent only as long as no threshold test of the sweep
    would fire for it (`breach_while_paused`).

    - `Fires`: a candidate meets one of the three tests
    - `paused_clocks_silent`: the property along runs
-/

namespace LoanWorkflow

open List Machine

variable {duration elapsed : Duration} {job : SLASweepJob} {s : Store} {rest : List (String × Json)}
  {eventType : EventType}

/-! ## Events of a pass -/

/-- A candidate meets one of the tests of the sweep. -/
def SweepCandidate.Fires (ctx : Ctx) (c : SweepCandidate) : Prop :=
  ∃ elapsed, c.elapsed? ctx = some elapsed ∧
    (c.warns elapsed (ofMilliseconds c.durationMs) = true ∨
      c.turnsCritical elapsed (ofMilliseconds c.durationMs) = true ∨ c.breaches ctx.now = true)

def EventOf (ctx : Ctx) (c : SweepCandidate) (e : Event) : Prop :=
  c.Fires ctx ∧ ∃ eventType rest, e = c.event eventType rest

section Emitted

variable {ctx : Ctx} {c : SweepCandidate} {w : SweepState} {e : Event}

/-- The events of `w'` are those of `w` and events of the candidate. -/
def SweepCandidate.Adds (c : SweepCandidate) (w w' : SweepState) : Prop :=
  ∀ e ∈ w'.emitted, e ∈ w.emitted ∨ ∃ eventType rest, e = c.event eventType rest

theorem SweepCandidate.adds_publish {s : Store} :
    c.Adds w ({ w with store := s }.publish (c.event eventType rest)) := fun _ h =>
  (mem_append.mp h).imp id fun hnew => ⟨_, _, mem_singleton.mp hnew⟩

theorem adds_issueWarning (w : SweepState) : c.Adds w (issueWarning ctx c w) := by
  unfold issueWarning
  split
  · exact fun _ => .inl
  · exact SweepCandidate.adds_publish

theorem adds_issueCritical (escalate : Store → Store) (w : SweepState) :
    c.Adds w (issueCritical ctx c escalate w) := by
  unfold issueCritical
  split
  · exact fun _ => .inl
  · exact SweepCandidate.adds_publish

theorem adds_breach (react : SLABreachSeverity → Store → Store) (w : SweepState) :
    c.Adds w (breach ctx c elapsed duration react w) := by
  unfold breach
  split
  · exact fun _ => .inl
  · exact SweepCandidate.adds_publish

/-- What the three tests issue are events of the candidate, and only if it fires. -/
theorem emitted_issueAll {critical : SweepState → SweepState}
    {breach : Duration → SweepState → SweepState} (helapsed : c.elapsed? ctx = some elapsed)
    (hcritical : ∀ w, c.Adds w (critical w)) (hbreach : ∀ duration w, c.Adds w (breach duration w)) :
    e ∈ (issueAll ctx c elapsed critical breach w).emitted → e ∈ w.emitted ∨ EventOf ctx c e := by
  apply issueAll_rel (R := fun w w' => e ∈ w'.emitted → e ∈ w.emitted ∨ EventOf ctx c e)
  · exact fun w => .inl
  · exact fun h h' he => (h' he).elim h .inr
  · exact fun hp w he => (adds_issueWarning w e he).imp id (.intro ⟨elapsed, helapsed, .inl hp⟩)
  · exact fun hp w he =>
      (hcritical w e he).imp id (.intro ⟨elapsed, helapsed, .inr (.inl hp)⟩)
  · exact fun hp w he => (hbreach _ w e he).imp id (.intro ⟨elapsed, helapsed, .inr (.inr hp)⟩)

theorem emitted_sweepTask (h : e ∈ (sweepTask ctx w c).emitted) :
    e ∈ w.emitted ∨ EventOf ctx c e := by
  unfold sweepTask at h
  split at h
  · exact Or.inl h
  · next elapsed helapsed =>
    rw [(countTask_frame ..).2] at h
    exact emitted_issueAll helapsed (adds_issueCritical _) (fun _ => adds_breach _) h

theorem emitted_sweepCase (h : e ∈ (sweepCase ctx w c).emitted) :
    e ∈ w.emitted ∨ EventOf ctx c e := by
  unfold sweepCase at h
  split at h
  · exact Or.inl h
  · next elapsed helapsed =>
    exact emitted_issueAll helapsed (adds_issueCritical _) (fun _ => adds_breach _) h

theorem emitted_batch {sweep : SweepState → SweepCandidate → SweepState}
    (hsweep : ∀ w c, e ∈ (sweep w c).emitted → e ∈ w.emitted ∨ EventOf ctx c e)
    {candidates : List SweepCandidate} (h : e ∈ (candidates.foldl sweep w).emitted) :
    e ∈ w.emitted ∨ ∃ c ∈ candidates, EventOf ctx c e := by
  revert h
  refine foldlRecOn (motive := fun w' : SweepState => e ∈ w'.emitted → e ∈ w.emitted ∨ _)
    candidates sweep .inl fun w' hold c hc h => ?_
  rcases hsweep w' c h with h | hevent
  · exact hold h
  · exact Or.inr ⟨c, hc, hevent⟩

end Emitted

/-! ## The case batch sees the cases of the start -/

/-- The case query finds the same candidates. -/
structure SameCaseCandidates (s s' : Store) : Prop where
  caseTypes : s'.caseTypes = s.caseTypes
  candidates : s'.cases.rows.filterMap (caseCandidate s) = s.cases.rows.filterMap (caseCandidate s)

section Cases

variable {ctx : Ctx} {c : SweepCandidate} {s' s'' : Store} {w : SweepState}

theorem SameCaseCandidates.of_eq (htypes : s'.caseTypes = s.caseTypes)
    (hcases : s'.cases = s.cases) : SameCaseCandidates s s' :=
  ⟨htypes, by rw [hcases]⟩

theorem SameCaseCandidates.trans (h : SameCaseCandidates s s') (h' : SameCaseCandidates s' s'') :
    SameCaseCandidates s s'' := by
  have hcandidate : caseCandidate s' = caseCandidate s := by
    funext r
    unfold caseCandidate
    rw [h.caseTypes]
  refine ⟨h'.caseTypes.trans h.caseTypes, ?_⟩
  have hnext := h'.candidates
  rw [hcandidate] at hnext
  exact hnext.trans h.candidates

/-- An exception case has no due date, so the query passes it over. -/
theorem SameCaseCandidates.createExceptionCase (parentCaseId : Id) (severity : SLABreachSeverity) :
    SameCaseCandidates s (createExceptionCase ctx parentCaseId severity s) := by
  unfold LoanWorkflow.createExceptionCase
  split
  · exact .of_eq rfl rfl
  next caseTypeId _ _ =>
  refine ⟨rfl, ?_⟩
  show (s.cases.rows ++ [_]).filterMap (caseCandidate s) = _
  have hnone : ∀ row : CaseInstance, row.sla.dueAt = none →
      caseCandidate s (s.cases.fresh, row) = none := by
    intro row hrow
    unfold caseCandidate
    cases s.caseTypes.get? row.caseTypeId with
    | none => rfl
    | some caseType =>
      show (row.sla.dueAt.bind _) = none
      rw [hrow]
      rfl
  rw [filterMap_append, filterMap_cons, hnone _ rfl, filterMap_nil,
    append_nil]

theorem markClock_task {marker : SLAColumns → Option Instant} {mark : SLAColumns → SLAColumns}
    {clock : Clock} (htask : clock.entityType = .task)
    (h : markClock s clock marker mark = some s') : SameCaseCandidates s s' := by
  unfold markClock at h
  rw [htask] at h
  dsimp only at h
  split at h
  · split at h
    · cases h
      exact .of_eq rfl rfl
    · cases h
  · cases h

theorem writtenFor_sameCases (htask : c.clock.entityType = .task) :
    WrittenFor c SameCaseCandidates where
  refl _ := .of_eq rfl rfl
  trans := .trans
  mark := markClock_task htask
  log s row := by
    unfold logBreach
    split <;> exact .of_eq rfl rfl
  task _ _ _ := .of_eq rfl rfl
  exceptionCase _ k severity _ := .createExceptionCase k severity
  publish _ _ := .of_eq rfl rfl

/-- The body of the task loop leaves the case query alone. -/
theorem sameCases_sweepTask (htask : c.clock.entityType = .task) :
    SameCaseCandidates w.store (sweepTask ctx w c).store := by
  unfold sweepTask
  split
  · exact .of_eq rfl rfl
  · rw [(countTask_frame ..).1]
    exact (writtenFor_sameCases htask).issueTask

/-- The task batch leaves the case query alone. -/
theorem caseCandidates_processTaskBatch (job : SLASweepJob) (ctx : Ctx) (s : Store) :
    job.caseCandidates (processTaskBatch job ctx { store := s }).store = job.caseCandidates s := by
  have hsame : SameCaseCandidates s (processTaskBatch job ctx { store := s }).store :=
    foldlRecOn (motive := fun w : SweepState => SameCaseCandidates s w.store) _ _ (.of_eq rfl rfl)
      fun _ hold _ hc => hold.trans (sameCases_sweepTask (shows_taskCandidates hc).task)
  have hcandidate : caseCandidate (processTaskBatch job ctx { store := s }).store =
      caseCandidate s := by
    funext r
    unfold caseCandidate
    rw [hsame.caseTypes]
  unfold SLASweepJob.caseCandidates
  rw [hcandidate]
  exact congrArg job.earliest hsame.candidates

end Cases

def SLASweepJob.candidates (job : SLASweepJob) (s : Store) : List SweepCandidate :=
  job.taskCandidates s ++ if job.lenient then job.caseCandidates s else []

/-- Every event of a pass is that of a candidate that fires. -/
theorem emitted_run {ctx : Ctx} {e : Event}
    (h : e ∈ (job.run ctx s).1) : ∃ c ∈ job.candidates s, EventOf ctx c e := by
  have htasks : ∀ e, e ∈ (processTaskBatch job ctx { store := s }).emitted →
      ∃ c ∈ job.taskCandidates s, EventOf ctx c e := by
    intro e he
    rcases emitted_batch (fun _ _ => emitted_sweepTask) he with hold | hnew
    · cases hold
    · exact hnew
  unfold SLASweepJob.run processCaseBatch at h
  unfold SLASweepJob.candidates
  cases hlenient : job.lenient with
  | false =>
    rw [hlenient] at h
    obtain ⟨c, hc, hevent⟩ := htasks e h
    exact ⟨c, mem_append_left _ hc, hevent⟩
  | true =>
    rw [hlenient] at h
    rcases emitted_batch (fun _ _ => emitted_sweepCase) h with hold | ⟨c, hc, hevent⟩
    · obtain ⟨c, hc, hevent⟩ := htasks e hold
      exact ⟨c, mem_append_left _ hc, hevent⟩
    · rw [caseCandidates_processTaskBatch] at hc
      exact ⟨c, mem_append_right _ hc, hevent⟩

/-! ## Runs -/

inductive PauseOp where
  | suspendCase (ctx : Ctx) (caseId : Id) (reason : String) (resumeAt : Option Instant)
  | resumeCase (ctx : Ctx) (caseId : Id)
  | pauseSLA (ctx : Ctx) (req : SLARequest)
  | resumeSLA (ctx : Ctx) (req : SLARequest)
  | sweep (job : SLASweepJob) (ctx : Ctx)

namespace PauseOp

def exec : PauseOp → Store → Except Err Store
  | .suspendCase ctx caseId reason resumeAt, s => LoanWorkflow.suspendCase ctx caseId reason resumeAt s
  | .resumeCase ctx caseId, s => LoanWorkflow.resumeCase ctx caseId s
  | .pauseSLA ctx req, s => LoanWorkflow.pauseSLA ctx req s
  | .resumeSLA ctx req, s => LoanWorkflow.resumeSLA ctx req s
  | .sweep job ctx, s => (job.run ctx s).2

/-- The events that the sweep hands to its publisher in a step. -/
def emitted : PauseOp → Store → List Event
  | .sweep job ctx, s => (job.run ctx s).1
  | _, _ => []

end PauseOp

/-- A threshold or breach event of an entity. -/
def Event.isAlarmOf (e : Event) (entityType : SLAEntityType) (entityId : Id) : Bool :=
  (e.eventType == .slaWarning || e.eventType == .slaCritical || e.eventType == .slaBreached) &&
    e.payload.strField "entity_type" == entityType.text &&
    e.payload.idField? "entity_id" == some entityId

/-- A step raises no alarm for an entity whose latest log row is a pause. -/
def Silent (s : Store) (op : PauseOp) : Prop :=
  ∀ e ∈ op.emitted s, ∀ entityType entityId, e.isAlarmOf entityType entityId = true →
    latestAction s entityType entityId ≠ some .pause

/-- The condition on a step: a sweep finds no paused clock that meets one of its tests. -/
def PauseOp.Quiet (s : Store) : PauseOp → Prop
  | .sweep job ctx => ∀ c ∈ job.candidates s,
      latestAction s c.clock.entityType c.clock.entityId = some .pause → ¬ c.Fires ctx
  | _ => True

theorem SLAEntityType.text_injective {a b : SLAEntityType} (h : a.text = b.text) : a = b := by
  cases a <;> cases b <;> first | rfl | exact absurd h (by decide)

/-- The payload of an event names the clock of its candidate. -/
theorem SweepCandidate.event_names {c : SweepCandidate}
    {entityType : SLAEntityType} {entityId : Id}
    (h : (c.event eventType rest).isAlarmOf entityType entityId = true) :
    c.clock.entityType = entityType ∧ c.clock.entityId = entityId := by
  unfold Event.isAlarmOf at h
  rw [Bool.and_eq_true, Bool.and_eq_true, beq_iff_eq, beq_iff_eq] at h
  obtain ⟨⟨-, htype⟩, hid⟩ := h
  exact ⟨SLAEntityType.text_injective htype, Option.some.inj hid⟩

theorem PauseOp.Quiet.silent {op : PauseOp} (h : op.Quiet s) : Silent s op := by
  cases op with
  | sweep job ctx =>
    intro e he entityType entityId halarm hpaused
    obtain ⟨c, hc, hfires, eventType, rest, rfl⟩ := emitted_run he
    obtain ⟨rfl, rfl⟩ := SweepCandidate.event_names halarm
    exact h c hc hpaused hfires
  | _ =>
    intro e he
    cases he

/-- **A paused clock is silent**, in every run in which no sweep finds a paused clock that meets
    one of its tests. -/
theorem paused_clocks_silent {s : Store} {ops : List PauseOp}
    (h : Guarded PauseOp.exec (fun s op => op.Quiet s) s ops) :
    Along PauseOp.exec (fun s op _ => Silent s op) s ops := by
  induction ops generalizing s with
  | nil => trivial
  | cons op ops ih => exact ⟨h.1.silent, ih h.2⟩

/-! ## The review task -/

/-- The review task late on Monday, after its two warnings. -/
def warnedStore : Store :=
  reviewStore.updateTask 0 (fun t =>
    { t with
      sla := { t.sla with
        warningIssuedAt := some (monday 16)
        criticalIssuedAt := some (monday 16 + 45 * minute) } })

/-- A business context at an instant of that week. -/
def inOfficeHours (now : Instant) : Ctx := .onCalendars (fun _ => some officeHours) now

/-- Before the due date the paused task is left alone. -/
theorem paused_clocks_silent_beforeDue :
    Along PauseOp.exec (fun s op _ => Silent s op) warnedStore
      [.pauseSLA (inOfficeHours (monday 16 + 50 * minute)) reviewRequest,
        .sweep (newSLASweepJob 0 true) (inOfficeHours (monday 16 + 55 * minute))] := by
  refine paused_clocks_silent ⟨trivial, ?_, trivial⟩
  intro c hc _ hfires
  obtain rfl := mem_singleton.mp (show c ∈ [_] from hc)
  obtain ⟨elapsed, -, hwarns | hcritical | hbreaches⟩ := hfires
  · cases hwarns
  · cases hcritical
  · exact absurd hbreaches (by decide)

/-- A task paused ten minutes before its due date: the sweep on Tuesday breaches it, whether or
    not the case batch lets the pass commit. When it does, the event is in the outbox. -/
theorem breach_while_paused :
    (∀ lenient, ¬ Along PauseOp.exec (fun s op _ => Silent s op) warnedStore
      [.pauseSLA (inOfficeHours (monday 16 + 50 * minute)) reviewRequest,
        .sweep (newSLASweepJob 0 lenient) (inOfficeHours (monday 33))]) ∧
    ∃ r ∈ (run PauseOp.exec warnedStore
      [.pauseSLA (inOfficeHours (monday 16 + 50 * minute)) reviewRequest,
        .sweep (newSLASweepJob 0 true) (inOfficeHours (monday 33))]).outbox.rows,
      r.2.eventType = .slaBreached ∧ r.2.isAlarmOf .task 0 = true := by
  refine ⟨?_, ?_⟩
  · intro lenient halong
    obtain ⟨-, hsilent, -⟩ := halong
    cases lenient with
    | false => exact hsilent _ (List.Mem.head _) .task 0 rfl rfl
    | true => exact hsilent _ (List.Mem.head _) .task 0 rfl rfl
  · exact ⟨_, List.Mem.tail _ (List.Mem.head _), rfl, rfl⟩

end LoanWorkflow
