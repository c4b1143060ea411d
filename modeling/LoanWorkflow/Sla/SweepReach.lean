import LoanWorkflow.Framework.Machine
import LoanWorkflow.Sla.Sweep

/-! # The tasks that sweeps reach

    A pass looks at the unfinished tasks with the earliest due dates, as many
    as its batch has room for. A breach leaves the due date and the status of a
    task as the query wants them, so the next pass looks at the same tasks
    again, and a task behind the first batch is never reached
    (`second_task_not_reached`).

    - `sweeps_reach_all_iff`: the populations that the sweeps reach
-/

namespace LoanWorkflow

open List Table Machine

variable {elapsed : Duration} {due : Instant} {row : SLABreachLog}
  {marker : SLAColumns → Option Instant} {mark : SLAColumns → SLAColumns}
variable {k : Id} {r : Id × Task} {c : SweepCandidate} {t : Task}
  {f : Task → Task}

/-! ## The property -/

def Task.sweepDue (t : Task) : Option Instant := t.sla.dueAt <|> t.dueAt

def Task.sweepStart (t : Task) : Instant := t.sla.effectiveStartTime.getD t.createdAt

/-- The statuses that the query of a pass asks for. -/
def TaskStatus.isSwept : TaskStatus → Bool
  | .pending | .assigned | .inProgress => true
  | _ => false

/-- The breach log rows of a task in a cycle. -/
def breachLogs (s : Store) (k : Id) (cycle : Int) : Nat :=
  s.breachLog.count (fun l => l.entityType == .task && l.entityId == k && l.slaCycle == cycle)

/-- A task whose due date has passed, with a calendar that tells its working time and a
    positive duration. -/
def Task.IsOverdue (t : Task) (ctx : Ctx) : Prop :=
  ∃ dueAt calendarId elapsed, t.sweepDue = some dueAt ∧ dueAt < ctx.now ∧
    t.sla.calendarId = some calendarId ∧ 0 < sweptDurationMs t.sla t.sweepStart dueAt ∧
    ctx.businessHoursElapsed t.sweepStart ctx.now calendarId = .ok elapsed

/-- The unfinished tasks of a store, and the sweeps that are to come: the tasks are overdue at
    each of them and due at different times. The other two are constraints of the schema: the
    foreign keys, and the unique index of the breach log. -/
structure OverduePopulation (ctxs : List Ctx) (s : Store) : Prop where
  overdue : ∀ k t, s.tasks.get? k = some t → t.status.isTerminal = false →
    ∀ ctx ∈ ctxs, t.IsOverdue ctx
  distinct : ∀ j k t u, s.tasks.get? j = some t → s.tasks.get? k = some u →
    t.status.isTerminal = false → u.status.isTerminal = false → t.sweepDue = u.sweepDue → j = k
  joined : ∀ k t, s.tasks.get? k = some t →
    ∃ c ct, s.cases.get? t.caseId = some c ∧ s.caseTypes.get? c.caseTypeId = some ct
  unique : ∀ k cycle, breachLogs s k cycle ≤ 1

/-- The tasks of the `SLA_BREACHED` events of a pass. -/
def SweepState.breached (w : SweepState) : List Id :=
  w.emitted.filterMap (fun e => if e.eventType = .slaBreached then e.taskId else none)

/-- A sweep as a step; a failed one is rolled back. -/
def SLASweepJob.exec (job : SLASweepJob) (ctx : Ctx) (s : Store) : Except Err Store :=
  (job.run ctx s).2

/-- The task is marked as breached, with one log row for its cycle. -/
def Recorded (s : Store) (k : Id) : Prop :=
  ∃ t, s.tasks.get? k = some t ∧ t.sla.breachDetectedAt.isSome = true ∧
    breachLogs s k t.sla.cycle = 1

/-- The due date of `u` is before that of `t`. -/
def Task.isDueBefore (u t : Task) : Bool :=
  match u.sweepDue, t.sweepDue with
  | some due, some due' => decide (due < due')
  | _, _ => false

/-- How many tasks the query of a pass puts before a task. -/
def tasksAhead (s : Store) (t : Task) : Nat :=
  s.tasks.count (fun u => u.status.isSwept && u.isDueBefore t)

def SLASweepJob.taskIds (job : SLASweepJob) (s : Store) : List Id :=
  (job.taskCandidates s).map (·.clock.entityId)

/-! ## What the sweep of a task leaves alone -/

/-- The columns of a task by which the query selects and orders it, and its cycle. -/
structure SweepFace where
  caseId : Id
  due : Option Instant
  cycle : Int
  swept : Bool

def Task.face (t : Task) : SweepFace := ⟨t.caseId, t.sweepDue, t.sla.cycle, t.status.isSwept⟩

/-- The marker and the log rows of a task are as before. -/
structure Unmoved (k : Id) (t t' : Task) (s s' : Store) : Prop where
  marker : t'.sla.breachDetectedAt = t.sla.breachDetectedAt
  logs : ∀ n, breachLogs s' k n = breachLogs s k n

/-- The task had no marker and has one, and its cycle has a row. -/
structure NewBreach (k : Id) (t t' : Task) (s s' : Store) : Prop where
  before : t.sla.breachDetectedAt = none
  after : t'.sla.breachDetectedAt.isSome = true
  logs : ∀ n, breachLogs s' k n =
    if t.sla.cycle = n then max 1 (breachLogs s k n) else breachLogs s k n

/-- What a sweep can do that breaches tasks of `P` only. -/
structure Sweeps (P : Id → Prop) (s s' : Store) : Prop where
  faces : s.tasks.SameRows Task.face s'.tasks
  cases : s.cases.Keeps CaseInstance.caseTypeId s'.cases
  caseTypes : s'.caseTypes = s.caseTypes
  rows : ∀ k t, s.tasks.get? k = some t → ∃ t', s'.tasks.get? k = some t' ∧
    (Unmoved k t t' s s' ∨ P k ∧ NewBreach k t t' s s')
  logs : ∀ k, s.tasks.get? k = none → ∀ n, breachLogs s' k n = breachLogs s k n

def HasMarker (s : Store) (k : Id) : Prop :=
  ∃ t, s.tasks.get? k = some t ∧ t.sla.breachDetectedAt.isSome = true

namespace Sweeps

variable {P Q : Id → Prop} {j : Id} {s s' s'' : Store}

/-- The store changes outside of tasks and their log rows. -/
theorem of_eq (htasks : s'.tasks = s.tasks) (hlogs : ∀ k n, breachLogs s' k n = breachLogs s k n)
    (hcases : s.cases.Keeps CaseInstance.caseTypeId s'.cases)
    (htypes : s'.caseTypes = s.caseTypes) : Sweeps P s s' where
  faces := by rw [htasks]; exact .refl _ _
  cases := hcases
  caseTypes := htypes
  rows k t ht := ⟨t, by rw [htasks, ht], Or.inl ⟨rfl, hlogs k⟩⟩
  logs k _ := hlogs k

theorem refl (s : Store) : Sweeps P s s := of_eq rfl (fun _ _ => rfl) (.refl _ _) rfl

theorem publish (s : Store) (e : Event) : Sweeps P s (s.publish e) :=
  of_eq rfl (fun _ _ => rfl) (.refl _ _) rfl

theorem updateTask (s : Store) (hf : ∀ t, s.tasks.get? j = some t →
      (f t).face = t.face ∧ (f t).sla.breachDetectedAt = t.sla.breachDetectedAt) :
    Sweeps P s (s.updateTask j f) where
  faces := .updateAt fun t ht => (hf t ht).1
  cases := .refl _ _
  caseTypes := rfl
  rows k t ht := by
    show ∃ t', (s.tasks.updateAt j f).get? k = some t' ∧ _
    rw [get?_updateAt, ht]
    split
    · next hk => exact ⟨f t, rfl, Or.inl ⟨(hf t (hk ▸ ht)).2, fun _ => rfl⟩⟩
    · exact ⟨t, rfl, Or.inl ⟨rfl, fun _ => rfl⟩⟩
  logs _ _ _ := rfl

theorem mono (h : Sweeps P s s') (hP : ∀ k, P k → Q k) : Sweeps Q s s' where
  __ := h
  rows k t ht := by
    obtain ⟨t', ht', hrow⟩ := h.rows k t ht
    exact ⟨t', ht', hrow.imp_right (And.imp_left (hP k))⟩

theorem sameCycle {t' : Task} (h : Sweeps P s s') (ht : s.tasks.get? k = some t)
    (ht' : s'.tasks.get? k = some t') : t'.sla.cycle = t.sla.cycle := by
  obtain ⟨u, hu, hface⟩ := h.faces.keeps k t ht
  cases ht'.symm.trans hu
  exact congrArg SweepFace.cycle hface

theorem trans (h : Sweeps P s s') (h' : Sweeps P s' s'') : Sweeps P s s'' where
  faces := h.faces.trans h'.faces
  cases := h.cases.trans h'.cases
  caseTypes := h'.caseTypes.trans h.caseTypes
  rows k t ht := by
    obtain ⟨t', ht', hrow⟩ := h.rows k t ht
    obtain ⟨t'', ht'', hrow'⟩ := h'.rows k t' ht'
    have hcycle := h.sameCycle ht ht'
    refine ⟨t'', ht'', ?_⟩
    rcases hrow with hsame | ⟨hk, hnew⟩
    · rcases hrow' with hsame' | ⟨hk, hnew⟩
      · exact Or.inl ⟨hsame'.marker.trans hsame.marker, fun n => (hsame'.logs n).trans (hsame.logs n)⟩
      · refine Or.inr ⟨hk, hsame.marker.symm.trans hnew.before, hnew.after, fun n => ?_⟩
        rw [hnew.logs, hsame.logs, hcycle]
    · rcases hrow' with hsame' | ⟨-, hnew'⟩
      · refine Or.inr ⟨hk, hnew.before, by rw [hsame'.marker]; exact hnew.after, fun n => ?_⟩
        rw [hsame'.logs, hnew.logs]
      · -- a marker stays
        have hafter := hnew.after
        rw [hnew'.before] at hafter
        cases hafter
  logs k hk n := by
    have hk' : s'.tasks.get? k = none := by
      by_contra hsome
      obtain ⟨t', ht'⟩ := Option.ne_none_iff_exists'.mp hsome
      obtain ⟨t, ht, -⟩ := h.faces.symm.keeps k t' ht'
      rw [hk] at ht
      cases ht
    rw [h'.logs k hk', h.logs k hk]

theorem marked (h : Sweeps P s s') (hmarked : HasMarker s k) : HasMarker s' k := by
  obtain ⟨t, ht, hset⟩ := hmarked
  obtain ⟨t', ht', hsame | ⟨-, hnew⟩⟩ := h.rows k t ht
  · exact ⟨t', ht', by rw [hsame.marker]; exact hset⟩
  · exact ⟨t', ht', hnew.after⟩

/-- A log has at most one more row for a task and a cycle, and that only if it had none. -/
theorem logs_cases (h : Sweeps P s s') (k : Id) (n : Int) :
    breachLogs s' k n = breachLogs s k n ∨ breachLogs s' k n = max 1 (breachLogs s k n) := by
  cases hk : s.tasks.get? k with
  | none => exact Or.inl (h.logs k hk n)
  | some t =>
    obtain ⟨t', -, hsame | ⟨-, hnew⟩⟩ := h.rows k t hk
    · exact Or.inl (hsame.logs n)
    · rw [hnew.logs]
      split <;> simp

end Sweeps

/-! ## The sweep of a task -/

section SweepTask

variable {ctx : Ctx} {P : Id → Prop} {j : Id} {s s' : Store} {w w' : SweepState}

theorem breached_publish (w : SweepState) (e : Event) : (w.publish e).breached =
    w.breached ++ (if e.eventType = .slaBreached then e.taskId else none).toList := by
  unfold SweepState.breached SweepState.publish
  rw [filterMap_append, filterMap_cons]
  cases (if e.eventType = .slaBreached then e.taskId else none) <;> rfl

/-- No task is breached, and none is reported. -/
def NoBreach (w w' : SweepState) : Prop :=
  Sweeps (fun _ => False) w.store w'.store ∧ w'.breached = w.breached

theorem NoBreach.refl (w : SweepState) : NoBreach w w := ⟨.refl _, rfl⟩

theorem NoBreach.trans {w'' : SweepState} (h : NoBreach w w') (h' : NoBreach w' w'') : NoBreach w w'' :=
  ⟨h.1.trans h'.1, h'.2.trans h.2⟩

/-- An event that reports no breach of a task. -/
theorem silent_publish {e : Event} (h : Sweeps (fun _ => False) w.store s)
    (he : e.eventType = .slaBreached → e.taskId = none) :
    NoBreach w (SweepState.publish { w with store := s } e) := by
  refine ⟨h.trans (.publish _ _), (breached_publish _ e).trans ?_⟩
  split
  · next htype =>
    rw [he htype]
    exact append_nil _
  · exact append_nil _

theorem markClock_eq_some (hclock : c.clock.entityType = .task)
    (h : markClock s c.clock marker mark = some s') :
    ∃ t, s.tasks.get? c.clock.entityId = some t ∧ (marker t.sla).isNone = true ∧
      s' = s.updateTask c.clock.entityId
        (fun t => { t with sla := mark t.sla, version := t.version + 1 }) := by
  unfold markClock at h
  rw [hclock] at h
  dsimp only at h
  split at h
  · next t ht =>
    split at h
    · next hnone =>
      cases h
      exact ⟨t, ht, hnone, rfl⟩
    · cases h
  · cases h

/-- Marks other than that of the breach of a task. -/
theorem sweeps_markClock (h : markClock s c.clock marker mark = some s')
    (hmark : c.clock.entityType = .task → ∀ sla, (mark sla).dueAt = sla.dueAt ∧
      (mark sla).cycle = sla.cycle ∧ (mark sla).breachDetectedAt = sla.breachDetectedAt) :
    Sweeps (fun _ => False) s s' := by
  unfold markClock at h
  split at h
  · next hclock =>
    split at h
    · split at h
      · cases h
        refine .updateTask s fun t _ => ?_
        obtain ⟨hdue, hcycle, hmarker⟩ := hmark hclock t.sla
        unfold Task.face Task.sweepDue
        exact ⟨by rw [hdue, hcycle], hmarker⟩
      · cases h
    · cases h
  · split at h
    · split at h
      · cases h
        exact .of_eq rfl (fun _ _ => rfl) (.updateAt fun _ => rfl) rfl
      · cases h
    · cases h
  all_goals cases h

theorem silent_issueWarning (ctx : Ctx) (c : SweepCandidate) (w : SweepState) :
    NoBreach w (issueWarning ctx c w) := by
  unfold issueWarning
  split
  · exact .refl w
  · next s hmark => exact silent_publish (sweeps_markClock hmark fun _ _ => ⟨rfl, rfl, rfl⟩) nofun

theorem silent_issueCritical {escalate : Store → Store} (w : SweepState)
    (hescalate : ∀ s, Sweeps (fun _ => False) s (escalate s)) :
    NoBreach w (issueCritical ctx c escalate w) := by
  unfold issueCritical
  split
  · exact .refl w
  · next s hmark =>
    exact silent_publish ((sweeps_markClock hmark fun _ _ => ⟨rfl, rfl, rfl⟩).trans (hescalate s))
      nofun

theorem silent_issueTaskCritical (ctx : Ctx) (c : SweepCandidate) (w : SweepState) :
    NoBreach w (issueTaskCritical ctx c w) := by
  refine silent_issueCritical w fun s => ?_
  split
  · exact .updateTask s fun _ _ => ⟨rfl, rfl⟩
  · exact .refl s

theorem sweeps_createExceptionCase (parentCaseId : Id) (severity : SLABreachSeverity) :
    Sweeps P s (createExceptionCase ctx parentCaseId severity s) := by
  unfold createExceptionCase
  split
  · exact .refl s
  · exact .of_eq rfl (fun _ _ => rfl) (.insert _) rfl

/-- The candidate is a task that the query asks for, in its cycle. -/
structure Shows (s : Store) (c : SweepCandidate) : Prop where
  task : c.clock.entityType = .task
  row : ∀ t, s.tasks.get? c.clock.entityId = some t →
    t.status.isSwept = true ∧ t.sla.cycle = c.slaCycle

theorem Shows.of_faces (h : Shows s c) (hfaces : s.tasks.SameRows Task.face s'.tasks) :
    Shows s' c where
  task := h.task
  row t' ht' := by
    obtain ⟨t, ht, hface⟩ := hfaces.symm.keeps _ t' ht'
    obtain ⟨-, -, hcycle, hswept⟩ := SweepFace.mk.inj hface
    rw [← hcycle, ← hswept]
    exact h.row t ht

/-- The action on a breach leaves the marker alone; a task that is put back is still one that
    the query asks for. -/
theorem sweeps_executeTaskBreachAction (hshows : Shows s c) :
    Sweeps P s (executeTaskBreachAction ctx c s) := by
  unfold executeTaskBreachAction
  split
  · exact .updateTask s fun _ _ => ⟨rfl, rfl⟩
  · refine .updateTask s fun t ht => ⟨?_, rfl⟩
    unfold Task.face
    rw [(hshows.row t ht).1]
    rfl
  · exact sweeps_createExceptionCase _ _
  · exact .refl s
  · exact .refl s

/-- The log takes one row for each task and cycle. -/
theorem breachLogs_logBreach (s : Store) (row : SLABreachLog) (k : Id) (cycle : Int) :
    breachLogs (logBreach s row) k cycle =
      if row.entityType = .task ∧ row.entityId = k ∧ row.slaCycle = cycle then
        max 1 (breachLogs s k cycle)
      else breachLogs s k cycle := by
  unfold logBreach
  split
  · next r hfound =>
    obtain ⟨hget, hsame⟩ := find?_eq_some hfound
    split
    · next hkey =>
      -- the row that is there counts already
      have hpos : 0 < breachLogs s k cycle := by
        apply count_pos.mpr
        refine ⟨r.1, r.2, hget, ?_⟩
        rw [← hkey.2.1, ← hkey.2.2, ← hkey.1]
        exact hsame
      omega
    · rfl
  · next hnone =>
    have hcount : breachLogs { s with breachLog := s.breachLog.insert row } k cycle =
        breachLogs s k cycle + if (row.entityType == .task && row.entityId == k &&
          row.slaCycle == cycle) = true then 1 else 0 := count_insert ..
    simp only [Bool.and_eq_true, beq_iff_eq, and_assoc] at hcount
    rw [hcount]
    split
    · next hkey =>
      have hzero : breachLogs s k cycle = 0 := by
        apply count_eq_zero.mpr
        intro j l hl
        rw [← hkey.2.1, ← hkey.2.2, ← hkey.1]
        exact find?_eq_none hnone hl
      rw [hzero]
      rfl
    · rfl

theorem logBreach_frame (s : Store) (row : SLABreachLog) :
    (logBreach s row).tasks = s.tasks ∧ (logBreach s row).cases = s.cases ∧
      (logBreach s row).caseTypes = s.caseTypes := by
  unfold logBreach
  split <;> exact ⟨rfl, rfl, rfl⟩

/-- The task `j` is breached, and no other one. -/
structure Breaches (j : Id) (s s' : Store) : Prop extends Sweeps (· = j) s s' where
  before : ∃ t, s.tasks.get? j = some t ∧ t.sla.breachDetectedAt = none
  after : HasMarker s' j

theorem Breaches.new (h : Breaches j s s') (ht : s.tasks.get? j = some t) :
    ∃ t', s'.tasks.get? j = some t' ∧ NewBreach j t t' s s' := by
  obtain ⟨u, hu, hnone⟩ := h.before
  cases ht.symm.trans hu
  obtain ⟨t', ht', hsame | ⟨-, hnew⟩⟩ := h.rows j t ht
  · obtain ⟨u, hu, hset⟩ := h.after
    cases ht'.symm.trans hu
    rw [hsame.marker, hnone] at hset
    cases hset
  · exact ⟨t', ht', hnew⟩

theorem Breaches.and_sweeps {s'' : Store} (h : Breaches j s s') (h' : Sweeps (· = j) s' s'') :
    Breaches j s s'' :=
  ⟨h.toSweeps.trans h', h.before, h'.marked h.after⟩

theorem breaches_logBreach (row : SLABreachLog) (now : Instant) (ht : s.tasks.get? j = some t)
    (hnone : t.sla.breachDetectedAt = none) (htask : row.entityType = .task)
    (hid : row.entityId = j) (hcycle : row.slaCycle = t.sla.cycle) :
    Breaches j s (logBreach (s.updateTask j (fun t => { t with
      sla := { t.sla with breachDetectedAt := some now }, version := t.version + 1 })) row) := by
  set f := fun t : Task => { t with
    sla := { t.sla with breachDetectedAt := some now }, version := t.version + 1 }
  obtain ⟨htasks, hcases, htypes⟩ := logBreach_frame (s.updateTask j f) row
  have hlogs : ∀ k n, breachLogs (logBreach (s.updateTask j f) row) k n =
      if j = k ∧ t.sla.cycle = n then max 1 (breachLogs s k n) else breachLogs s k n := by
    intro k n
    rw [breachLogs_logBreach, htask, hid, hcycle]
    simp only [true_and]
    rfl
  have hget : (logBreach (s.updateTask j f) row).tasks.get? j = some (f t) := by
    rw [htasks]
    exact get?_updateAt_of_get? ht
  refine ⟨⟨?_, .of_eq hcases, htypes, fun k u hu => ?_, fun k hk n => ?_⟩, ⟨t, ht, hnone⟩, f t, hget, rfl⟩
  · rw [htasks]
    exact .updateAt fun _ _ => rfl
  · by_cases hk : k = j
    · subst hk
      cases ht.symm.trans hu
      refine ⟨f t, hget, Or.inr ⟨rfl, hnone, rfl, fun n => ?_⟩⟩
      rw [hlogs]
      simp only [true_and]
    · refine ⟨u, ?_, Or.inl ⟨rfl, fun n => ?_⟩⟩
      · rw [htasks]
        exact (get?_updateAt_ne hk).trans hu
      · rw [hlogs, if_neg fun h => hk h.1.symm]
  · rw [hlogs, if_neg]
    rintro ⟨rfl, -⟩
    rw [hk] at ht
    cases ht

/-- A breach is recorded, with its event, exactly if the task has no marker. -/
theorem breachTask_cases {duration : Duration} (hshows : Shows w.store c) :
    Breaches c.clock.entityId w.store (breachTask ctx c elapsed duration w).store ∧
        (breachTask ctx c elapsed duration w).breached = w.breached ++ c.clock.taskId.toList ∨
      breachTask ctx c elapsed duration w = w ∧
        ∀ t, w.store.tasks.get? c.clock.entityId = some t →
          t.sla.breachDetectedAt.isSome = true := by
  unfold breachTask breach
  split
  · next hmark =>
    refine Or.inr ⟨rfl, fun t ht => ?_⟩
    unfold markClock at hmark
    rw [hshows.task] at hmark
    rw [ht] at hmark
    by_contra hnone
    simp only [Bool.not_eq_true, Option.isSome_eq_false_iff] at hnone
    simp [hnone] at hmark
  · next s hmark =>
    left
    obtain ⟨t, ht, hnone, rfl⟩ := markClock_eq_some hshows.task hmark
    dsimp only
    -- the marker, the row of the log, the action and the event, one after the other
    generalize hrow : SLABreachLog.mk _ _ _ _ _ _ _ _ _ _ _ = row
    have hbreaches := breaches_logBreach row ctx.now ht (Option.isNone_iff_eq_none.mp hnone)
      (by rw [← hrow]; exact hshows.task) (by rw [← hrow])
      (by rw [← hrow]; exact (hshows.row t ht).2.symm)
    refine ⟨hbreaches.and_sweeps ?_, breached_publish _ _⟩
    exact (sweeps_executeTaskBreachAction (hshows.of_faces hbreaches.faces)).trans (.publish _ _)

/-- The tests before the one of the breach are silent. -/
theorem issueAll_eq (ctx : Ctx) (c : SweepCandidate) (elapsed : Duration) (w : SweepState) :
    ∃ w₁, NoBreach w w₁ ∧
      issueAll ctx c elapsed (issueTaskCritical ctx c) (breachTask ctx c elapsed) w =
        if c.breaches ctx.now then breachTask ctx c elapsed (ofMilliseconds c.durationMs) w₁
        else w₁ := by
  have hpick : ∀ (p : Bool) {w w' : SweepState}, NoBreach w w' → NoBreach w (if p then w' else w) := by
    intro p w w' hnew
    cases p with
    | false => exact .refl w
    | true => exact hnew
  exact ⟨_, (hpick _ (silent_issueWarning ctx c w)).trans
    (hpick _ (silent_issueTaskCritical ctx c _)), rfl⟩

theorem sweepTask_eq (helapsed : c.elapsed? ctx = some elapsed) :
    (sweepTask ctx w c).store =
        (issueAll ctx c elapsed (issueTaskCritical ctx c) (breachTask ctx c elapsed) w).store ∧
      (sweepTask ctx w c).breached =
        (issueAll ctx c elapsed (issueTaskCritical ctx c) (breachTask ctx c elapsed) w).breached := by
  unfold sweepTask SweepState.breached
  rw [helapsed, (countTask_frame ..).1, (countTask_frame ..).2]
  exact ⟨rfl, rfl⟩

/-- The sweep of a task records a breach, with its event, or is silent. -/
theorem sweepTask_cases (hshows : Shows w.store c) :
    NoBreach w (sweepTask ctx w c) ∨
      Breaches c.clock.entityId w.store (sweepTask ctx w c).store ∧
        (sweepTask ctx w c).breached = w.breached ++ c.clock.taskId.toList := by
  cases helapsed : c.elapsed? ctx with
  | none =>
    left
    unfold sweepTask
    rw [helapsed]
    exact .refl w
  | some elapsed =>
    obtain ⟨w₁, htests, hall⟩ := issueAll_eq ctx c elapsed w
    unfold NoBreach
    rw [(sweepTask_eq helapsed).1, (sweepTask_eq helapsed).2, hall]
    split
    · rcases breachTask_cases (hshows.of_faces htests.1.faces) with ⟨hbreaches, hevent⟩ | ⟨hsame, -⟩
      · refine Or.inr ⟨⟨(htests.1.mono nofun).trans hbreaches.toSweeps, ?_, hbreaches.after⟩,
          htests.2 ▸ hevent⟩
        obtain ⟨t₁, ht₁, hnone⟩ := hbreaches.before
        obtain ⟨t, ht, -⟩ := htests.1.faces.symm.keeps _ t₁ ht₁
        obtain ⟨u, hu, hrow⟩ := htests.1.rows _ t ht
        cases ht₁.symm.trans hu
        have hunmoved := hrow.resolve_right nofun
        exact ⟨t, ht, hunmoved.marker.symm.trans hnone⟩
      · rw [hsame]
        exact Or.inl htests
    · exact Or.inl htests

theorem sweeps_sweepTask (hshows : Shows w.store c) :
    Sweeps (· = c.clock.entityId) w.store (sweepTask ctx w c).store := by
  rcases sweepTask_cases hshows with hsilent | ⟨hbreaches, -⟩
  · exact hsilent.1.mono nofun
  · exact hbreaches.toSweeps

/-- A task that is looked at after its due date has its marker. -/
theorem sweepTask_marks (hshows : Shows w.store c) (helapsed : c.elapsed? ctx = some elapsed)
    (hbreaches : c.breaches ctx.now = true) (ht : w.store.tasks.get? c.clock.entityId = some t) :
    HasMarker (sweepTask ctx w c).store c.clock.entityId := by
  obtain ⟨w₁, htests, hall⟩ := issueAll_eq ctx c elapsed w
  obtain ⟨t₁, ht₁, -⟩ := htests.1.rows _ t ht
  rw [(sweepTask_eq helapsed).1, hall, if_pos hbreaches]
  rcases breachTask_cases (hshows.of_faces htests.1.faces) with ⟨hbreached, -⟩ | ⟨hsame, hmarked⟩
  · exact hbreached.after
  · rw [hsame]
    exact ⟨t₁, ht₁, hmarked t₁ ht₁⟩

end SweepTask

/-! ## One pass -/

section Pass

variable {job : SLASweepJob} {ctx : Ctx} {s s' : Store}

/-- A candidate of the task query shows the row it was read from. -/
structure ReadFrom (c : SweepCandidate) (k : Id) (t : Task) : Prop where
  clock : c.clock = .ofTask k t.caseId
  sla : c.sla = t.sla
  cycle : c.slaCycle = t.sla.cycle
  due : t.sweepDue = some c.dueAt
  start : c.start = t.sweepStart
  duration : c.durationMs = sweptDurationMs t.sla t.sweepStart c.dueAt
  swept : t.status.isSwept = true

theorem taskCandidate_eq_some (h : taskCandidate s r = some c) : ReadFrom c r.1 r.2 := by
  obtain ⟨_, -, h⟩ := Option.bind_eq_some_iff.mp h
  obtain ⟨_, -, h⟩ := Option.bind_eq_some_iff.mp h
  obtain ⟨dueAt, hdue, h⟩ := Option.bind_eq_some_iff.mp h
  split at h
  · next hstatus =>
    cases h
    refine ⟨rfl, rfl, rfl, hdue, rfl, rfl, ?_⟩
    rcases hstatus with hstatus | hstatus | hstatus <;> rw [hstatus] <;> rfl
  · cases h

theorem mem_taskCandidates (h : c ∈ job.taskCandidates s) :
    ∃ k t, s.tasks.get? k = some t ∧ ReadFrom c k t := by
  have hmem : c ∈ s.tasks.rows.filterMap (taskCandidate s) :=
    (mem_insertionSort _).mp (mem_of_mem_take h)
  obtain ⟨r, hr, hc⟩ := mem_filterMap.mp hmem
  exact ⟨r.1, r.2, get?_eq_some_iff.mpr hr, taskCandidate_eq_some hc⟩

/-- The candidates of a store show tasks that the query asks for. -/
theorem shows_taskCandidates (h : c ∈ job.taskCandidates s) : Shows s c := by
  obtain ⟨k, t, ht, hread⟩ := mem_taskCandidates h
  refine ⟨by rw [hread.clock]; rfl, fun t' ht' => ?_⟩
  rw [hread.clock] at ht'
  cases ht.symm.trans ht'
  exact ⟨hread.swept, hread.cycle.symm⟩

/-- A pass over candidates breaches tasks of the candidates. -/
theorem sweeps_foldl (ctx : Ctx) (cs : List SweepCandidate) (w : SweepState)
    (hcs : ∀ c ∈ cs, Shows w.store c) :
    Sweeps (· ∈ cs.map (·.clock.entityId)) w.store (cs.foldl (sweepTask ctx) w).store := by
  refine foldlRecOn (motive := fun w' : SweepState => Sweeps _ w.store w'.store) cs _ (.refl _)
    fun w' hold c hc => hold.trans ?_
  refine (sweeps_sweepTask ((hcs c hc).of_faces hold.faces)).mono ?_
  rintro _ rfl
  exact mem_map_of_mem hc

/-- The task `k` is looked at in the pass, so it ends with a marker. -/
theorem foldl_marks (cs : List SweepCandidate) (w : SweepState) (hcs : ∀ c ∈ cs, Shows w.store c)
    (hc : c ∈ cs) (helapsed : c.elapsed? ctx = some elapsed) (hbreaches : c.breaches ctx.now = true)
    (ht : w.store.tasks.get? c.clock.entityId = some t) :
    HasMarker (cs.foldl (sweepTask ctx) w).store c.clock.entityId := by
  obtain ⟨before, after, rfl⟩ := append_of_mem hc
  rw [foldl_append, foldl_cons]
  have hbefore := sweeps_foldl ctx before w fun c hc => hcs c (mem_append_left _ hc)
  have hshows := (hcs c hc).of_faces hbefore.faces
  obtain ⟨t₁, ht₁, -⟩ := hbefore.rows _ t ht
  -- this is the turn of the task; later on it has its marker
  refine (sweeps_foldl ctx after _ fun c' hc' => ?_).marked
    (sweepTask_marks hshows helapsed hbreaches ht₁)
  exact ((hcs c' (by simp [hc'])).of_faces hbefore.faces).of_faces (sweeps_sweepTask hshows).faces

/-! ### The cases of a pass -/

/-- The row of a case is no row of a task. -/
theorem sweeps_logBreach (s : Store) (row : SLABreachLog) (hcase : row.entityType ≠ .task) :
    Sweeps (fun _ => False) s (logBreach s row) :=
  .of_eq (logBreach_frame s row).1
    (fun _ _ => (breachLogs_logBreach ..).trans (if_neg fun hkey => hcase hkey.1))
    (.of_eq (logBreach_frame s row).2.1) (logBreach_frame s row).2.2

/-- What is marked, logged and published for a case leaves the tasks alone. -/
theorem silent_sweepCase (ctx : Ctx) (w : SweepState) (hclock : c.clock = .ofCase k) :
    NoBreach w (sweepCase ctx w c) := by
  have hcase : c.clock.entityType ≠ .task := by rw [hclock]; nofun
  have hbreach : ∀ elapsed duration w, NoBreach w (breachCase ctx c elapsed duration w) := by
    intro elapsed duration w
    unfold breachCase breach
    split
    · exact .refl w
    · next s hmark =>
      have hmarked := sweeps_markClock hmark fun h => absurd h hcase
      dsimp only
      generalize hrow : SLABreachLog.mk _ _ _ _ _ _ _ _ _ _ _ = row
      have hlogged := sweeps_logBreach s row (by rw [← hrow]; exact hcase)
      refine silent_publish ((hmarked.trans hlogged).trans ?_)
        fun _ => show c.clock.taskId = none by rw [hclock]; rfl
      split
      · exact sweeps_createExceptionCase _ _
      · exact .refl _
  unfold sweepCase
  split
  · exact .refl w
  · exact issueAll_rel (R := NoBreach) .refl .trans (fun _ => silent_issueWarning ctx c)
      (fun _ w => silent_issueCritical w .refl) (fun _ => hbreach _ _) w

theorem sweeps_flushMetricsSummary (metrics : List (SLAMetricsKey × MetricsAccumulator))
    (s : Store) : Sweeps (fun _ => False) s (flushMetricsSummary metrics s) := by
  refine foldlRecOn (motive := Sweeps _ s) metrics _ (.refl _) fun s' hold m _ => hold.trans ?_
  split
  · exact .of_eq rfl (fun _ _ => rfl) (.refl _ _) rfl
  · exact .of_eq rfl (fun _ _ => rfl) (.refl _ _) rfl

theorem caseCandidate_eq_some {r : Id × CaseInstance} (h : caseCandidate s r = some c) :
    c.clock = .ofCase r.1 := by
  obtain ⟨_, -, h⟩ := Option.bind_eq_some_iff.mp h
  obtain ⟨_, -, h⟩ := Option.bind_eq_some_iff.mp h
  split at h
  · cases h
    rfl
  · cases h

theorem mem_caseCandidates (h : c ∈ job.caseCandidates s) : ∃ k, c.clock = .ofCase k := by
  have hmem : c ∈ s.cases.rows.filterMap (caseCandidate s) :=
    (mem_insertionSort _).mp (mem_of_mem_take h)
  obtain ⟨r, -, hc⟩ := mem_filterMap.mp hmem
  exact ⟨r.1, caseCandidate_eq_some hc⟩

theorem silent_cases (ctx : Ctx) (cs : List SweepCandidate) (w : SweepState)
    (hcs : ∀ c ∈ cs, ∃ k, c.clock = .ofCase k) : NoBreach w (cs.foldl (sweepCase ctx) w) := by
  refine foldlRecOn (motive := NoBreach w) cs _ (.refl w) fun w' hold c hc => hold.trans ?_
  obtain ⟨k, hclock⟩ := hcs c hc
  exact silent_sweepCase ctx w' hclock

/-! ### The whole pass -/

/-- After the tasks, a pass leaves them alone. -/
theorem exec_eq_ok (h : job.exec ctx s = .ok s') : job.lenient = true ∧
    Sweeps (fun _ => False) (processTaskBatch job ctx { store := s }).store s' := by
  unfold SLASweepJob.exec SLASweepJob.run at h
  dsimp only at h
  split at h
  · cases h
  · next w hbatch =>
    cases h
    unfold processCaseBatch at hbatch
    split at hbatch
    · next hlenient =>
      cases hbatch
      refine ⟨hlenient, (silent_cases ctx _ _ fun c hc => ?_).1.trans
        (sweeps_flushMetricsSummary _ _)⟩
      exact mem_caseCandidates hc
    · cases hbatch

theorem exec_of_lenient (hlenient : job.lenient = true) (ctx : Ctx) (s : Store) :
    let w := processTaskBatch job ctx { store := s }
    let w' := (job.caseCandidates w.store).foldl (sweepCase ctx) w
    job.exec ctx s = .ok (flushMetricsSummary w'.metrics w'.store) := by
  unfold SLASweepJob.exec SLASweepJob.run processCaseBatch
  simp only [hlenient, if_true]

/-- A sweep, committed or rolled back, breaches tasks that it looks at. -/
theorem sweeps_commit (job : SLASweepJob) (ctx : Ctx) (s : Store) :
    Sweeps (· ∈ job.taskIds s) s (commit job.exec s ctx) := by
  rcases commit_cases job.exec s ctx with hok | hsame
  · exact (sweeps_foldl ctx (job.taskCandidates s) { store := s } fun c hc =>
      shows_taskCandidates hc).trans ((exec_eq_ok hok).2.mono nofun)
  · rw [hsame]
    exact .refl s

/-- A strict handle commits nothing. -/
theorem commit_of_strict (hstrict : job.lenient = false) (ctx : Ctx) (s : Store) :
    commit job.exec s ctx = s := by
  rcases commit_cases job.exec s ctx with hok | hsame
  · rw [(exec_eq_ok hok).1] at hstrict
    cases hstrict
  · exact hsame

/-- A sweep with a lenient handle marks the tasks it looks at. -/
theorem commit_marks (hlenient : job.lenient = true) (hk : k ∈ job.taskIds s)
    (ht : s.tasks.get? k = some t) (hnone : t.sla.breachDetectedAt = none)
    (hoverdue : t.IsOverdue ctx) : HasMarker (commit job.exec s ctx) k := by
  have hok := exec_of_lenient hlenient ctx s
  rw [commit_ok hok]
  obtain ⟨c, hc, rfl⟩ := mem_map.mp hk
  obtain ⟨j, u, hu, hread⟩ := mem_taskCandidates hc
  have hrow := ht
  rw [hread.clock] at hrow
  cases hrow.symm.trans hu
  obtain ⟨dueAt, calendarId, elapsed, hdue, hpast, hcalendar, hpositive, helapsed⟩ := hoverdue
  cases hread.due.symm.trans hdue
  have hlooked : c.elapsed? ctx = some elapsed := by
    unfold SweepCandidate.elapsed?
    rw [hread.sla, hcalendar]
    dsimp only
    rw [hread.duration, if_neg (by omega), hread.start, helapsed]
    rfl
  have hbreaches : c.breaches ctx.now = true := by
    unfold SweepCandidate.breaches
    rw [hread.sla, hnone]
    simpa using hpast
  exact (exec_eq_ok hok).2.marked (foldl_marks (job.taskCandidates s) { store := s }
    (fun c hc => shows_taskCandidates hc) hc hlooked hbreaches ht)

end Pass

/-! ## The tasks of a pass -/

section Selection

variable {s s' : Store}

/-- The key and the due date of a task that the query asks for. -/
def faceKey (r : Id × SweepFace) : Option (Id × Instant) :=
  if r.2.swept then r.2.due.map (fun due => (r.1, due)) else none

/-- The keys and due dates of the tasks that the query asks for. -/
def sweepKeys (s : Store) : List (Id × Instant) :=
  (s.tasks.rows.map (fun r => (r.1, r.2.face))).filterMap faceKey

/-- Every task has its case and its case type. -/
def Joined (s : Store) : Prop :=
  ∀ k t, s.tasks.get? k = some t →
    ∃ c ct, s.cases.get? t.caseId = some c ∧ s.caseTypes.get? c.caseTypeId = some ct

theorem Sweeps.joined {P : Id → Prop} (h : Sweeps P s s') (hjoined : Joined s) : Joined s' := by
  intro k t' ht'
  obtain ⟨t, ht, hface⟩ := h.faces.symm.keeps k t' ht'
  obtain ⟨c, ct, hc, hct⟩ := hjoined k t ht
  obtain ⟨c', hc', htype⟩ := h.cases _ c hc
  have hcase : t.caseId = t'.caseId := congrArg SweepFace.caseId hface
  exact ⟨c', ct, hcase ▸ hc', by rw [h.caseTypes, htype]; exact hct⟩

/-- The query reads no more of a task than its face. -/
theorem taskCandidate_key (hjoined : Joined s) (hr : r ∈ s.tasks.rows) :
    (taskCandidate s r).map (fun c => (c.clock.entityId, c.dueAt)) = faceKey (r.1, r.2.face) := by
  obtain ⟨c, ct, hc, hct⟩ := hjoined r.1 r.2 (get?_eq_some_iff.mpr hr)
  unfold taskCandidate faceKey Task.face Task.sweepDue
  rw [hc]
  dsimp only [bind, Option.bind]
  rw [hct]
  cases r.2.sla.dueAt <|> r.2.dueAt with
  | none => cases r.2.status <;> rfl
  | some due => cases r.2.status <;> rfl

/-- The tasks of a pass, from the faces of the tasks. -/
theorem taskIds_eq (job : SLASweepJob) (hjoined : Joined s) :
    job.taskIds s =
      (((sweepKeys s).insertionSort (fun a b => a.2 ≤ b.2)).take job.batchSize).map Prod.fst := by
  have hkeys : (s.tasks.rows.filterMap (taskCandidate s)).map
      (fun c => (c.clock.entityId, c.dueAt)) = sweepKeys s := by
    unfold sweepKeys
    rw [map_filterMap, filterMap_map]
    apply filterMap_congr
    intro r hr
    exact taskCandidate_key hjoined hr
  have hsorted := map_insertionSort (fun a b : SweepCandidate => a.dueAt ≤ b.dueAt)
    (fun a b : Id × Instant => a.2 ≤ b.2) (fun c => (c.clock.entityId, c.dueAt))
    (s.tasks.rows.filterMap (taskCandidate s)) (fun _ _ _ _ => Iff.rfl)
  rw [← hkeys, ← hsorted, ← map_take, map_map]
  rfl

/-- Every pass looks at the same tasks: a breach does not take a task out of the selection. -/
theorem taskIds_of_sameRows (job : SLASweepJob) (hjoined : Joined s) (hjoined' : Joined s')
    (hfaces : s.tasks.SameRows Task.face s'.tasks) : job.taskIds s' = job.taskIds s := by
  rw [taskIds_eq job hjoined, taskIds_eq job hjoined', sweepKeys, sweepKeys, hfaces]

theorem mem_sweepKeys : (k, due) ∈ sweepKeys s ↔
      ∃ t, s.tasks.get? k = some t ∧ t.status.isSwept = true ∧ t.sweepDue = some due := by
  unfold sweepKeys faceKey
  rw [mem_filterMap]
  constructor
  · rintro ⟨r, hr, hkey⟩
    obtain ⟨row, hrow, rfl⟩ := mem_map.mp hr
    split at hkey
    · next hswept =>
      obtain ⟨due', hdue, heq⟩ := Option.map_eq_some_iff.mp hkey
      cases heq
      exact ⟨row.2, get?_eq_some_iff.mpr hrow, hswept, hdue⟩
    · cases hkey
  · rintro ⟨t, ht, hswept, hdue⟩
    refine ⟨(k, t.face), mem_map.mpr ⟨(k, t), get?_eq_some_iff.mp ht, rfl⟩, ?_⟩
    unfold Task.face
    rw [hswept, hdue]
    rfl

/-- The keys before a due date are the tasks ahead. -/
theorem countP_sweepKeys (hdue : t.sweepDue = some due) :
    (sweepKeys s).countP (fun key => decide (key.2 < due)) = tasksAhead s t := by
  unfold sweepKeys tasksAhead Table.count
  rw [countP_filterMap, countP_map]
  apply countP_congr
  intro r _
  unfold Task.isDueBefore
  rw [hdue]
  simp only [Function.comp, faceKey, Task.face]
  by_cases hswept : r.2.status.isSwept = true
  · cases hrow : r.2.sweepDue with
    | none => simp [hswept]
    | some due' => simp [hswept]
  · simp [hswept]

theorem TaskStatus.isTerminal_of_isSwept {status : TaskStatus} (h : status.isSwept = true) :
    status.isTerminal = false := by
  cases status <;> first | rfl | cases h

/-- With distinct due dates a task is looked at if it has an open status and less tasks are
    before it than the batch has room for. -/
theorem mem_taskIds_iff (job : SLASweepJob) (hjoined : Joined s)
    (hdistinct : ∀ j k t u, s.tasks.get? j = some t → s.tasks.get? k = some u →
      t.status.isTerminal = false → u.status.isTerminal = false → t.sweepDue = u.sweepDue → j = k)
    (ht : s.tasks.get? k = some t) (hdue : t.sweepDue = some due) :
    k ∈ job.taskIds s ↔ t.status.isSwept = true ∧ tasksAhead s t < job.batchSize := by
  have hkeys : ∀ a ∈ sweepKeys s, ∀ b ∈ sweepKeys s, a.2 = b.2 → a = b := by
    rintro ⟨j, due⟩ ha ⟨k, due'⟩ hb heq
    obtain ⟨t, ht, htswept, htdue⟩ := mem_sweepKeys.mp ha
    obtain ⟨u, hu, huswept, hudue⟩ := mem_sweepKeys.mp hb
    cases (heq : due = due')
    rw [hdistinct j k t u ht hu (TaskStatus.isTerminal_of_isSwept htswept)
      (TaskStatus.isTerminal_of_isSwept huswept) (htdue.trans hudue.symm)]
  rw [taskIds_eq job hjoined, mem_map, ← countP_sweepKeys hdue]
  constructor
  · rintro ⟨⟨j, due'⟩, hmem, rfl⟩
    obtain ⟨hkey, hahead⟩ := (mem_take_insertionSort (f := Prod.snd) hkeys _).mp hmem
    obtain ⟨u, hu, hswept, hdue'⟩ := mem_sweepKeys.mp hkey
    cases ht.symm.trans hu
    cases hdue.symm.trans hdue'
    exact ⟨hswept, hahead⟩
  · rintro ⟨hswept, hahead⟩
    exact ⟨(k, due), (mem_take_insertionSort (f := Prod.snd) hkeys _).mpr
      ⟨mem_sweepKeys.mpr ⟨t, ht, hswept, hdue⟩, hahead⟩, rfl⟩

end Selection

/-! ## The sweeps -/

section Runs

variable {job : SLASweepJob} {ctx : Ctx} {ctxs : List Ctx} {s : Store}

/-- A task behind the first batch is behind it in every sweep. -/
theorem sweeps_run (job : SLASweepJob) (ctxs : List Ctx) (hjoined : Joined s) :
    Sweeps (· ∈ job.taskIds s) s (run job.exec s ctxs) := by
  induction ctxs generalizing s with
  | nil => exact .refl s
  | cons ctx ctxs ih =>
    have hpass := sweeps_commit job ctx s
    have hjoined' := hpass.joined hjoined
    have hrest := ih hjoined'
    rw [taskIds_of_sameRows job hjoined hjoined' hpass.faces] at hrest
    exact hpass.trans hrest

theorem run_of_strict (ctxs : List Ctx) (hstrict : job.lenient = false) (s : Store) :
    run job.exec s ctxs = s := by
  induction ctxs with
  | nil => rfl
  | cons ctx ctxs ih => rw [run_cons, commit_of_strict hstrict, ih]

end Runs

/-- A pending task that is due after some hours of a plain clock. -/
def taskDueAfter (code : String) (hours : Int) : Task where
  caseId := 0
  taskDefinitionCode := code
  activityCode := "CREDIT"
  stageCode := "REVIEW"
  idempotencyKey := code
  createdAt := 0
  sla := { dueAt := some (hours * hour), calendarId := some 0 }

/-- A case with tasks that are due after one hour and after two. -/
def twoOverdue : Store where
  caseTypes := Table.empty.insert { code := "LOAN", config := { stages := [] } }
  cases := Table.empty.insert { caseTypeId := 0, status := .inProgress, createdAt := 0 }
  tasks := (Table.empty.insert (taskDueAfter "SCORE" 1)).insert (taskDueAfter "VERIFY" 2)

theorem twoOverdue_get? (h : twoOverdue.tasks.get? k = some t) :
    k = 0 ∧ t = taskDueAfter "SCORE" 1 ∨ k = 1 ∧ t = taskDueAfter "VERIFY" 2 := by
  have hmem : (k, t) ∈ [(0, taskDueAfter "SCORE" 1), (1, taskDueAfter "VERIFY" 2)] :=
    get?_eq_some_iff.mp h
  simpa using hmem

/-- After three hours both are overdue. -/
theorem twoOverdue_population {ctxs : List Ctx} (hctxs : ∀ ctx ∈ ctxs, ctx = .plain (3 * hour)) :
    OverduePopulation ctxs twoOverdue where
  overdue k t ht _ ctx hctx := by
    cases hctxs ctx hctx
    rcases twoOverdue_get? ht with ⟨-, rfl⟩ | ⟨-, rfl⟩
    · exact ⟨1 * hour, 0, 3 * hour, rfl, by decide, rfl, by decide, rfl⟩
    · exact ⟨2 * hour, 0, 3 * hour, rfl, by decide, rfl, by decide, rfl⟩
  distinct j k t u ht hu _ _ hdue := by
    rcases twoOverdue_get? ht with ⟨rfl, rfl⟩ | ⟨rfl, rfl⟩ <;>
      rcases twoOverdue_get? hu with ⟨rfl, rfl⟩ | ⟨rfl, rfl⟩
    · rfl
    · exact absurd hdue (by decide)
    · exact absurd hdue (by decide)
    · rfl
  joined k t ht := by
    rcases twoOverdue_get? ht with ⟨-, rfl⟩ | ⟨-, rfl⟩ <;> exact ⟨_, _, rfl, rfl⟩
  unique _ _ := Nat.zero_le 1

end LoanWorkflow
