import LoanWorkflow.Sla.Service
import LoanWorkflow.Sla.SweepReach

/-! # One breach in a cycle

    Sweeps run beside each other and beside calls of the SLA service. The task
    query of a sweep locks the rows it returns until the sweep ends, and skips
    rows that are locked. A call reads a row without a lock, so the values it
    writes may come from an older one; the write waits while the row is locked.

    - `breached_once_per_cycle`: one event and one log row for a task in a cycle
-/

namespace LoanWorkflow

open List Table Machine

variable {s s' : Store} {published : List (Id × Int)} {k : Id} {n : Int} {c : SweepCandidate}
  {t : Task}

/-! ## The system -/

/-- The statement by which a call writes a clock, with values from what it read before. -/
inductive SLAWrite where
  | resume (now newDueAt : Instant)
  | extend (newDueAt : Instant) (extensionMs : Int)
  | reset (now newDueAt : Instant) (durationMs : Int)

def SLAWrite.exec (s : Store) (entityType : SLAEntityType) (entityId : Id) :
    SLAWrite → Except Err Store
  | .resume now newDueAt => updateEntitySLAOnResume s entityType entityId now newDueAt
  | .extend newDueAt ms => updateEntitySLAOnExtend s entityType entityId newDueAt ms
  | .reset now newDueAt ms => updateEntitySLAOnReset s entityType entityId now newDueAt ms

structure SweepSystem where
  store : Store
  /-- The transactions of the sweeps under way, with the rows they locked. -/
  locked : List (Nat × SweepCandidate) := []
  /-- The tasks of the `SLA_BREACHED` events, each with its cycle at that time. -/
  published : List (Id × Int) := []

variable {y y' : SweepSystem}

def SweepSystem.isLocked (y : SweepSystem) (taskId : Id) : Bool :=
  y.locked.any (·.2.clock.entityId == taskId)

def SweepSystem.release (y : SweepSystem) (tx : Nat) : SweepSystem :=
  { y with locked := y.locked.filter (·.1 != tx) }

/-- The tasks under the rows of a transaction. -/
def SweepSystem.sweep (y : SweepSystem) (tx : Nat) (ctx : Ctx) : SweepState :=
  ((y.locked.filter (·.1 == tx)).map Prod.snd).foldl (sweepTask ctx) { store := y.store }

/-- The rows of a query as they are now: one that is newer than the snapshot is read again. -/
def readTasks (s : Store) (rows : List Id) : List SweepCandidate :=
  rows.filterMap (fun k => (s.tasks.get? k).bind (fun t => taskCandidate s (k, t)))

def readCases (s : Store) (rows : List Id) : List SweepCandidate :=
  rows.filterMap (fun k => (s.cases.get? k).bind (fun c => caseCandidate s (k, c)))

def cyclesOf (s : Store) (ids : List Id) : List (Id × Int) :=
  ids.filterMap (fun k => (s.tasks.get? k).map (fun t => (k, t.sla.cycle)))

inductive SweepOp where
  /-- The task query; `rows` are the tasks of its snapshot in their order. -/
  | query (tx : Nat) (rows : List Id)
  /-- The rest of a sweep, up to its commit; `cases` are the rows of its case query. -/
  | finish (tx : Nat) (job : SLASweepJob) (ctx : Ctx) (cases : List Id)
  | rollback (tx : Nat)
  | pause (row : SLAPauseLog)
  | call (entityType : SLAEntityType) (entityId : Id) (write : SLAWrite)

def SweepOp.exec : SweepOp → SweepSystem → Except Err SweepSystem
  | .query tx rows, y =>
    let free := rows.filter (fun k => !y.isLocked k)
    .ok { y with locked := y.locked ++ (readTasks y.store free).map (tx, ·) }
  | .finish tx job ctx cases, y => do
    let w := y.sweep tx ctx
    ensure job.lenient "processCaseBatch: query candidates"
    let w := (readCases w.store cases).foldl (sweepCase ctx) w
    return { y.release tx with
      store := flushMetricsSummary w.metrics w.store
      published := y.published ++ cyclesOf y.store w.breached }
  | .rollback tx, y => .ok (y.release tx)
  | .pause row, y => .ok { y with store := y.store.logPause row }
  | .call entityType entityId write, y => do
    ensure (entityType != .task || !y.isLocked entityId) "waits for the row"
    let s ← write.exec y.store entityType entityId
    return { y with store := s }

/-! ## Events and markers -/

/-- Only a new cycle takes a marker away. -/
def SLAColumns.Follows (sla' sla : SLAColumns) : Prop :=
  sla.cycle < sla'.cycle ∨ sla.cycle = sla'.cycle ∧
    (sla.breachDetectedAt.isSome = true → sla'.breachDetectedAt.isSome = true)

/-- One event and one row in a cycle. A task that has an event is in a later cycle, or its
    marker stands. -/
structure OncePerCycle (s : Store) (published : List (Id × Int)) : Prop where
  once : published.Nodup
  unique : ∀ k n, breachLogs s k n ≤ 1
  logged : ∀ p ∈ published, breachLogs s p.1 p.2 = 1
  past : ∀ p ∈ published, ∀ t, s.tasks.get? p.1 = some t →
    p.2 < t.sla.cycle ∨ p.2 = t.sla.cycle ∧ t.sla.breachDetectedAt.isSome = true

namespace OncePerCycle

/-- Steps that publish nothing. -/
theorem frame (h : OncePerCycle s published)
    (hlogs : ∀ k n, breachLogs s' k n = breachLogs s k n ∨
      breachLogs s' k n = max 1 (breachLogs s k n))
    (hrows : ∀ k t', s'.tasks.get? k = some t' →
      ∃ t, s.tasks.get? k = some t ∧ t'.sla.Follows t.sla) : OncePerCycle s' published where
  once := h.once
  unique k n := by
    have := h.unique k n
    have := hlogs k n
    omega
  logged p hp := by
    have := h.logged p hp
    have := hlogs p.1 p.2
    omega
  past p hp t' ht' := by
    obtain ⟨t, ht, hnext⟩ := hrows p.1 t' ht'
    have := h.past p hp t ht
    unfold SLAColumns.Follows at hnext
    grind

theorem pass {P : Id → Prop} (h : OncePerCycle s published) (hpass : Sweeps P s s') :
    OncePerCycle s' published := by
  refine h.frame hpass.logs_cases fun k t' ht' => ?_
  obtain ⟨t, ht, hface⟩ := hpass.faces.symm.keeps k t' ht'
  refine ⟨t, ht, Or.inr ⟨congrArg SweepFace.cycle hface, fun hmarked => ?_⟩⟩
  obtain ⟨u, hu, hmarked'⟩ := hpass.marked ⟨t, ht, hmarked⟩
  obtain rfl := Option.mem_unique ht' hu
  exact hmarked'

/-- A breach is the first event of the cycle, because the task had no marker. -/
theorem breach (h : OncePerCycle s published) (hbreaches : Breaches k s s')
    (ht : s.tasks.get? k = some t) (hcycle : t.sla.cycle = n) :
    OncePerCycle s' (published ++ [(k, n)]) := by
  have hkept := h.pass hbreaches.toSweeps
  obtain ⟨t', ht', hbreach⟩ := hbreaches.new ht
  have hcycle' := (hbreaches.sameCycle ht ht').trans hcycle
  have hnew : (k, n) ∉ published := by
    intro hmem
    have := h.past _ hmem t ht
    rw [hbreach.before, hcycle] at this
    simp at this
  have hone : breachLogs s' k n = 1 := by
    have := h.unique k n
    rw [hbreach.logs, if_pos hcycle]
    omega
  refine ⟨nodup_append_comm.mp (nodup_cons.mpr ⟨hnew, h.once⟩), hkept.unique, ?_, ?_⟩
  · simpa [or_imp, forall_and] using ⟨fun k n hp => hkept.logged (k, n) hp, hone⟩
  · intro p hp u hu
    rcases mem_append.mp hp with hp | hp
    · exact hkept.past p hp u hu
    · cases mem_singleton.mp hp
      obtain rfl := Option.mem_unique ht' hu
      exact Or.inr ⟨hcycle'.symm, hbreach.after⟩

end OncePerCycle

/-! ## Sweeps -/

/-- The row is as the query returned it, as far as the lock matters. -/
def LockedRow (s : Store) (c : SweepCandidate) : Prop :=
  ∃ t, s.tasks.get? c.clock.entityId = some t ∧ c.clock = .ofTask c.clock.entityId t.caseId ∧
    t.status.isSwept = true ∧ t.sla.cycle = c.slaCycle

theorem LockedRow.of_faces (h : LockedRow s c) (hfaces : s.tasks.SameRows Task.face s'.tasks) :
    LockedRow s' c := by
  obtain ⟨t, ht, hclock, hswept, hcycle⟩ := h
  obtain ⟨t', ht', hface⟩ := hfaces.keeps _ t ht
  obtain ⟨hcase, -, hcycle', hswept'⟩ := SweepFace.mk.inj hface
  exact ⟨t', ht', by rw [hcase]; exact hclock, hswept'.trans hswept, hcycle'.trans hcycle⟩

/-- The tasks of a sweep, each in its cycle of the store `s` before the sweep. -/
theorem OncePerCycle.foldl (ctx : Ctx) (cs : List SweepCandidate) (w : SweepState)
    (hfaces : s.tasks.SameRows Task.face w.store.tasks) (hcs : ∀ c ∈ cs, LockedRow s c)
    (h : OncePerCycle w.store (published ++ cyclesOf s w.breached)) :
    s.tasks.SameRows Task.face (cs.foldl (sweepTask ctx) w).store.tasks ∧
      OncePerCycle (cs.foldl (sweepTask ctx) w).store
        (published ++ cyclesOf s (cs.foldl (sweepTask ctx) w).breached) := by
  induction cs generalizing w with
  | nil => exact ⟨hfaces, h⟩
  | cons c cs ih =>
    obtain ⟨u, hu, hclock, -, hcycle⟩ := hcs c mem_cons_self
    obtain ⟨t, ht, -, hswept, hcycle'⟩ := (hcs c mem_cons_self).of_faces hfaces
    have hshows : Shows w.store c :=
      ⟨by rw [hclock]; rfl, fun t' ht' => Option.mem_unique ht ht' ▸ ⟨hswept, hcycle'⟩⟩
    have hrest : ∀ c' ∈ cs, LockedRow s c' := fun c' hc' => hcs c' (mem_cons_of_mem c hc')
    refine ih _ (hfaces.trans (sweeps_sweepTask hshows).faces) hrest ?_
    rcases sweepTask_cases hshows with ⟨hsame, hevents⟩ | ⟨hbreaches, hevents⟩
    · rw [hevents]
      exact h.pass hsame
    · have hnew : cyclesOf s (sweepTask ctx w c).breached =
          cyclesOf s w.breached ++ [(c.clock.entityId, c.slaCycle)] := by
        have hid : c.clock.taskId = some c.clock.entityId := by rw [hclock]; rfl
        rw [hevents, hid, cyclesOf, filterMap_append]
        simp [cyclesOf, hu, hcycle]
      rw [hnew, ← append_assoc]
      exact h.breach hbreaches ht hcycle'

/-! ## Runs -/

structure SweepSystem.Sound (y : SweepSystem) : Prop extends OncePerCycle y.store y.published where
  rows : ∀ p ∈ y.locked, LockedRow y.store p.2

namespace SweepSystem.Sound

theorem finish {tx : Nat} {job : SLASweepJob} {ctx : Ctx} {cases : List Id} (h : y.Sound)
    (hop : (SweepOp.finish tx job ctx cases).exec y = .ok y') : y'.Sound := by
  obtain ⟨-, -, hop⟩ := bind_ok hop
  cases hop
  have hmine : ∀ c ∈ (y.locked.filter (·.1 == tx)).map Prod.snd, LockedRow y.store c := by
    intro c hc
    obtain ⟨p, hp, rfl⟩ := mem_map.mp hc
    exact h.rows p (mem_of_mem_filter hp)
  obtain ⟨hfaces, honce⟩ := OncePerCycle.foldl ctx _ { store := y.store } (.refl _ _) hmine
    (by simpa [cyclesOf, SweepState.breached] using h.toOncePerCycle)
  obtain ⟨hcases, hevents⟩ := silent_cases ctx (readCases (y.sweep tx ctx).store cases)
    (y.sweep tx ctx) fun c hc => by
      obtain ⟨k, -, hread⟩ := mem_filterMap.mp hc
      obtain ⟨i, -, hread⟩ := Option.bind_eq_some_iff.mp hread
      exact ⟨k, caseCandidate_eq_some hread⟩
  have hflush := sweeps_flushMetricsSummary ((readCases (y.sweep tx ctx).store cases).foldl
    (sweepCase ctx) (y.sweep tx ctx)).metrics
  refine ⟨?_, fun p hp => ?_⟩
  · rw [hevents]
    exact (honce.pass hcases).pass (hflush _)
  · exact (h.rows p (mem_of_mem_filter hp)).of_faces
      (hfaces.trans (hcases.trans (hflush _)).faces)

/-- A write reaches one row that no sweep has locked. -/
theorem write {entityType : SLAEntityType} {entityId : Id} {f : SLAColumns → SLAColumns}
    {name : String} (h : y.Sound)
    (hfree : (entityType != .task || !y.isLocked entityId) = true)
    (hwrite : updateEntitySLA y.store entityType entityId f name = .ok s)
    (hf : ∀ sla, (f sla).Follows sla) :
    SweepSystem.Sound { y with store := s } := by
  cases entityType with
  | task =>
    cases hwrite
    refine ⟨h.toOncePerCycle.frame (fun _ _ => Or.inl rfl) fun k t' ht' => ?_, fun p hp => ?_⟩
    · have hrow : (y.store.tasks.updateAt entityId (·.withSLA f)).get? k = some t' := ht'
      rw [get?_updateAt] at hrow
      split at hrow
      · obtain ⟨t, ht, rfl⟩ := Option.map_eq_some_iff.mp hrow
        exact ⟨t, ht, hf t.sla⟩
      · exact ⟨t', hrow, Or.inr ⟨rfl, id⟩⟩
    · obtain ⟨t, ht, hrest⟩ := h.rows p hp
      have hne : p.2.clock.entityId ≠ entityId := by
        rintro rfl
        have hheld : y.isLocked p.2.clock.entityId = true :=
          any_eq_true.mpr ⟨p, hp, beq_self_eq_true _⟩
        rw [hheld] at hfree
        cases hfree
      exact ⟨t, (get?_updateAt_ne hne).trans ht, hrest⟩
  | case =>
    cases hwrite
    exact ⟨⟨h.once, h.unique, h.logged, h.past⟩, h.rows⟩
  | stage | activity => cases hwrite

theorem exec {op : SweepOp} (h : y.Sound) (hop : op.exec y = .ok y') : y'.Sound := by
  cases op with
  | query tx rows =>
    cases hop
    refine ⟨h.toOncePerCycle, fun p hp => ?_⟩
    rcases mem_append.mp hp with hp | hp
    · exact h.rows p hp
    · obtain ⟨c, hc, rfl⟩ := mem_map.mp hp
      obtain ⟨k, -, hread⟩ := mem_filterMap.mp hc
      obtain ⟨t, ht, hread⟩ := Option.bind_eq_some_iff.mp hread
      have hfrom := taskCandidate_eq_some hread
      have hid : c.clock.entityId = k := by rw [hfrom.clock]; rfl
      exact ⟨t, hid ▸ ht, hid ▸ hfrom.clock, hfrom.swept, hfrom.cycle.symm⟩
  | finish => exact h.finish hop
  | rollback tx =>
    cases hop
    exact ⟨h.toOncePerCycle, fun p hp => h.rows p (mem_of_mem_filter hp)⟩
  | pause row =>
    cases hop
    exact ⟨⟨h.once, h.unique, h.logged, h.past⟩, h.rows⟩
  | call entityType entityId write =>
    obtain ⟨_, hfree, hop⟩ := bind_ok hop
    obtain ⟨s, hwrite, hop⟩ := bind_ok hop
    cases hop
    rw [ensure_eq_ok] at hfree
    cases write with
    | resume | extend => exact h.write hfree hwrite fun _ => Or.inr ⟨rfl, id⟩
    | reset => exact h.write hfree hwrite fun sla => Or.inl (lt_add_one sla.cycle)

end SweepSystem.Sound

/-- Whatever sweeps and calls run beside each other, a task has at most one event and one log
    row in each cycle, and the row is there if the event is. -/
theorem breached_once_per_cycle (s : Store) (hunique : ∀ k n, breachLogs s k n ≤ 1)
    (ops : List SweepOp) (k : Id) (n : Int) :
    (run SweepOp.exec { store := s } ops).published.count (k, n) ≤ 1 ∧
      breachLogs (run SweepOp.exec { store := s } ops).store k n ≤ 1 ∧
      ((k, n) ∈ (run SweepOp.exec { store := s } ops).published →
        breachLogs (run SweepOp.exec { store := s } ops).store k n = 1) := by
  have hstart : SweepSystem.Sound { store := s } := ⟨⟨nodup_nil, hunique, by simp, by simp⟩, by simp⟩
  have hsound : (run SweepOp.exec { store := s } ops).Sound :=
    run_invariant (fun _ _ _ h hop => h.exec hop) hstart ops
  exact ⟨nodup_iff_count_le_one.mp hsound.once _, hsound.unique k n, hsound.logged (k, n)⟩

/-- The second sweep finds both tasks locked; after a reset the first task is breached again. -/
theorem breached_once_per_cycle_reset :
    let sweep tx now := .finish tx (newSLASweepJob 2 true) (.plain (now * hour)) [0]
    let ops := [.query 1 [0, 1], .query 2 [1, 0], sweep 1 3, sweep 2 3,
      .call .task 0 (.reset (3 * hour) (4 * hour) 1000), .query 3 [0, 1], sweep 3 5]
    (run SweepOp.exec { store := twoOverdue } ops).published = [(0, 1), (1, 1), (0, 2)] ∧
      (run SweepOp.exec { store := twoOverdue } ops).published.count (0, 2) ≤ 1 :=
  ⟨by decide +kernel, (breached_once_per_cycle twoOverdue (fun _ _ => Nat.zero_le 1) _ 0 2).1⟩

end LoanWorkflow
