import LoanWorkflow.Sla.SweepReach

/-! # Metrics of repeated sweeps

    A sweep counts the tasks of its batch and adds the counts to the rows of
    the day. The tasks stay unfinished, so the next sweep counts them again
    (`metrics_add_up`).

    - `metrics_of_runs_iff`: the runs that leave the counts of the first sweep
-/

namespace LoanWorkflow

open List Table Machine

variable {c : SweepCandidate} {ctx : Ctx} {s s' : Store} {w w' : SweepState}
  {key : SLAMetricsKey} {job : SLASweepJob}

/-! ## The property -/

/-- The columns of a summary that a conflict adds to. -/
def SLAMetricsSummary.counts (r : SLAMetricsSummary) : Int × Int × Int × Int :=
  (r.totalCount, r.completedCount, r.breachedCount, r.totalPauseMinutes)

def metricsCounts (s : Store) (key : SLAMetricsKey) : Option (Int × Int × Int × Int) :=
  (s.metricsSummary.find? (fun r => r.key == key)).map (·.2.counts)

/-- A sweep that has no task to count. -/
def SLASweepJob.CountsNone (job : SLASweepJob) (s : Store) (ctx : Ctx) : Prop :=
  ∀ c ∈ job.taskCandidates s, c.elapsed? ctx = none

/-! ## The tasks of a pass -/

theorem writtenFor_metricsSummary (c : SweepCandidate) :
    WrittenFor c (fun s s' => s'.metricsSummary = s.metricsSummary) where
  refl _ := rfl
  trans h h' := h'.trans h
  mark h := by
    unfold markClock at h
    split at h
    all_goals try split at h
    all_goals try split at h
    all_goals cases h
    all_goals rfl
  log s row := by
    unfold logBreach
    split <;> rfl
  task _ _ _ := rfl
  exceptionCase ctx k severity s := by
    unfold createExceptionCase
    split <;> rfl
  publish _ _ := rfl

theorem issueAll_metrics {elapsed : Duration} {escalate : Store → Store}
    {react : SLABreachSeverity → Store → Store} (w : SweepState) :
    (issueAll ctx c elapsed (issueCritical ctx c escalate)
      (fun duration => breach ctx c elapsed duration react) w).metrics = w.metrics := by
  refine issueAll_rel (R := fun w w' => w'.metrics = w.metrics) (fun _ => rfl)
    (fun h h' => h'.trans h) (fun _ w => ?_) (fun _ w => ?_) (fun _ w => ?_) w
  · unfold issueWarning
    split <;> rfl
  · unfold issueCritical
    split <;> rfl
  · unfold breach
    split <;> rfl

theorem sweepCase_metrics (w : SweepState) : (sweepCase ctx w c).metrics = w.metrics := by
  unfold sweepCase
  split
  · rfl
  · exact issueAll_metrics w

/-- Every summary of a pass has counted a task. -/
def HasCounted (w : SweepState) : Prop := ∀ m ∈ w.metrics, 0 < m.2.totalCount

theorem countTask_counted (elapsed : Duration) (h : HasCounted w) :
    HasCounted (countTask ctx c elapsed w) ∧ (countTask ctx c elapsed w).metrics ≠ [] := by
  unfold countTask
  dsimp only
  split
  · next hany =>
    refine ⟨fun m hm => ?_, ?_⟩
    · obtain ⟨b, hb, rfl⟩ := mem_map.mp hm
      have := h b hb
      split
      · show 0 < b.2.totalCount + 1
        omega
      · exact this
    · rintro hnil
      rw [map_eq_nil_iff] at hnil
      simp [hnil] at hany
  · refine ⟨fun m hm => ?_, by simp⟩
    rcases mem_append.mp hm with hm | hm
    · exact h m hm
    · rw [mem_singleton.mp hm]
      exact Int.one_pos

/-- A pass over the tasks leaves the table alone, and has summaries exactly if it has counted. -/
theorem foldl_counted (ctx : Ctx) (cs : List SweepCandidate) (w : SweepState) (h : HasCounted w) :
    (cs.foldl (sweepTask ctx) w).store.metricsSummary = w.store.metricsSummary ∧
      HasCounted (cs.foldl (sweepTask ctx) w) ∧
      ((cs.foldl (sweepTask ctx) w).metrics = [] ↔
        w.metrics = [] ∧ ∀ c ∈ cs, c.elapsed? ctx = none) := by
  induction cs generalizing w with
  | nil => simpa using h
  | cons c cs ih =>
    rw [foldl_cons]
    cases helapsed : c.elapsed? ctx with
    | none =>
      have hskip : sweepTask ctx w c = w := by
        unfold sweepTask
        rw [helapsed]
      rw [hskip]
      simpa [helapsed] using ih w h
    | some elapsed =>
      have hissued : (issueAll ctx c elapsed (issueTaskCritical ctx c) (breachTask ctx c elapsed)
          w).metrics = w.metrics := issueAll_metrics w
      have hcounted : _ ∧ (countTask ctx c elapsed _).metrics ≠ [] :=
        countTask_counted elapsed fun m hm => h m (hissued ▸ hm)
      have hstep : sweepTask ctx w c = countTask ctx c elapsed
          (issueAll ctx c elapsed (issueTaskCritical ctx c) (breachTask ctx c elapsed) w) := by
        unfold sweepTask
        rw [helapsed]
      rw [hstep]
      obtain ⟨htable, hrest, hnil⟩ := ih _ hcounted.1
      refine ⟨htable.trans ((congrArg _ (countTask_frame ..).1).trans
        (writtenFor_metricsSummary c).issueTask), hrest, ?_⟩
      rw [hnil]
      simp [hcounted.2, helapsed]

/-! ## The flush -/

/-- How many tasks are counted under a key. -/
def countedTasks (s : Store) (key : SLAMetricsKey) : Int :=
  ((metricsCounts s key).map Prod.fst).getD 0

/-- One summary is added to the row of its key. -/
theorem countedTasks_flush_one (m : SLAMetricsKey × MetricsAccumulator) (s : Store)
    (key : SLAMetricsKey) : countedTasks (flushMetricsSummary [m] s) key =
      countedTasks s key + if m.1 = key then m.2.totalCount else 0 := by
  unfold countedTasks metricsCounts flushMetricsSummary
  simp only [foldl_cons, foldl_nil]
  split
  · next k row hfound =>
    obtain ⟨hget, hkey⟩ := Table.find?_eq_some hfound
    have hsame : ∀ old, s.metricsSummary.get? k = some old →
        ((old.merge (m.2.summary m.1)).key == key) = (old.key == key) := by
      intro old hold
      cases hget.symm.trans hold
      rw [eq_of_beq hkey]
      rfl
    rw [find?_updateAt hsame]
    by_cases hm : m.1 = key
    · subst hm
      rw [hfound]
      simp [SLAMetricsSummary.counts, SLAMetricsSummary.merge, MetricsAccumulator.summary]
    · cases hother : s.metricsSummary.find? (fun r => r.key == key) with
      | none => simp [hm]
      | some r =>
        obtain ⟨hrow, hkey'⟩ := Table.find?_eq_some hother
        have hne : r.1 ≠ k := by
          intro hk
          rw [hk] at hrow
          cases hget.symm.trans hrow
          exact hm ((eq_of_beq hkey).symm.trans (eq_of_beq hkey'))
        simp [hm, hne]
  · next hnone =>
    rw [find?_insert]
    by_cases hm : m.1 = key
    · subst hm
      rw [hnone]
      simp [SLAMetricsSummary.counts, MetricsAccumulator.summary]
    · have hkey : ((m.2.summary m.1).key == key) = false := beq_eq_false_iff_ne.mpr hm
      simp [hm, hkey]

theorem countedTasks_flush (metrics : List (SLAMetricsKey × MetricsAccumulator)) (s : Store)
    (key : SLAMetricsKey) : countedTasks (flushMetricsSummary metrics s) key =
      countedTasks s key + ((metrics.filter (·.1 = key)).map (·.2.totalCount)).sum := by
  induction metrics generalizing s with
  | nil => simp [flushMetricsSummary]
  | cons m metrics ih =>
    have hstep : flushMetricsSummary (m :: metrics) s =
        flushMetricsSummary metrics (flushMetricsSummary [m] s) := rfl
    rw [hstep, ih, countedTasks_flush_one, filter_cons]
    split_ifs <;> simp_all [add_assoc]

/-! ## Runs -/

/-- A sweep with tasks to count adds to the counts, and no sweep takes from them. -/
theorem commit_counts (hlenient : job.lenient = true) (ctx : Ctx) (s : Store) :
    (job.CountsNone s ctx → ∀ key, metricsCounts (commit job.exec s ctx) key = metricsCounts s key) ∧
      (∀ key, countedTasks s key ≤ countedTasks (commit job.exec s ctx) key) ∧
      (¬ job.CountsNone s ctx →
        ∃ key, countedTasks s key < countedTasks (commit job.exec s ctx) key) := by
  rw [commit_ok (exec_of_lenient hlenient ctx s)]
  set w := processTaskBatch job ctx { store := s }
  set w' := (job.caseCandidates w.store).foldl (sweepCase ctx) w
  obtain ⟨htable, hcounted, hnil⟩ : w.store.metricsSummary = s.metricsSummary ∧ HasCounted w ∧
      (w.metrics = [] ↔ [] = [] ∧ job.CountsNone s ctx) :=
    foldl_counted ctx (job.taskCandidates s) { store := s } fun _ => nofun
  have hcases : w'.store.metricsSummary = w.store.metricsSummary ∧ w'.metrics = w.metrics := by
    refine foldlRecOn (motive := fun x : SweepState => x.store.metricsSummary = _ ∧ x.metrics = _)
      _ _ ⟨rfl, rfl⟩ fun x hold c _ => ?_
    exact ⟨(writtenFor_metricsSummary c).sweepCase.trans hold.1, (sweepCase_metrics x).trans hold.2⟩
  have hbefore : ∀ key, metricsCounts w'.store key = metricsCounts s key := by
    intro key
    unfold metricsCounts
    rw [hcases.1, htable]
  have htotal : ∀ key, countedTasks (flushMetricsSummary w'.metrics w'.store) key =
      countedTasks s key + ((w.metrics.filter (·.1 = key)).map (·.2.totalCount)).sum := by
    intro key
    rw [countedTasks_flush, hcases.2]
    unfold countedTasks
    rw [hbefore]
  have hpositive : ∀ key, ∀ n ∈ (w.metrics.filter (·.1 = key)).map (·.2.totalCount), 0 < n := by
    intro key n hn
    obtain ⟨m, hm, rfl⟩ := mem_map.mp hn
    exact hcounted m (mem_of_mem_filter hm)
  refine ⟨fun hnone key => ?_, fun key => ?_, fun hsome => ?_⟩
  · rw [hcases.2, hnil.mpr ⟨rfl, hnone⟩]
    exact hbefore key
  · have := List.sum_nonneg fun n hn => (hpositive key n hn).le
    rw [htotal]
    omega
  · obtain ⟨m, hm⟩ := exists_mem_of_ne_nil _ fun h => hsome (hnil.mp h).2
    refine ⟨m.1, ?_⟩
    have := List.sum_pos _ (hpositive m.1)
      (ne_nil_of_mem (mem_map_of_mem (mem_filter.mpr ⟨hm, by simp⟩)))
    rw [htotal]
    omega

theorem counts_run_iff (hlenient : job.lenient = true) (ctxs : List Ctx) (s : Store) :
    (∀ key, metricsCounts (run job.exec s ctxs) key = metricsCounts s key) ↔
      Guarded job.exec job.CountsNone s ctxs := by
  have hmono : ∀ ctxs s key, countedTasks s key ≤ countedTasks (run job.exec s ctxs) key := by
    intro ctxs
    induction ctxs with
    | nil => exact fun _ _ => le_rfl
    | cons ctx ctxs ih => exact fun s key => ((commit_counts hlenient ctx s).2.1 key).trans (ih _ key)
  induction ctxs generalizing s with
  | nil => simp [Guarded, Along]
  | cons ctx ctxs ih =>
    obtain ⟨hsame, hle, hmore⟩ := commit_counts hlenient ctx s
    rw [run_cons]
    constructor
    · intro hall
      have hnone : job.CountsNone s ctx := by
        by_contra hsome
        obtain ⟨key, hlt⟩ := hmore hsome
        have hend : countedTasks (run job.exec (commit job.exec s ctx) ctxs) key =
            countedTasks s key := by
          unfold countedTasks
          rw [hall]
        have := hmono ctxs (commit job.exec s ctx) key
        omega
      exact ⟨hnone, (ih _).mp fun key => (hall key).trans (hsame hnone key).symm⟩
    · rintro ⟨hnone, hrest⟩ key
      exact ((ih _).mpr hrest key).trans (hsame hnone key)

end LoanWorkflow
