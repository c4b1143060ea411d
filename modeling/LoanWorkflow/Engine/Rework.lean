import LoanWorkflow.Engine.StageOrder

/-! # Re-entering a stage after a rejection

    A rejection sends the case back to a stage and publishes
    `CASE_STAGE_CHANGED`, whose handler creates the tasks of that stage. A
    task is created under a key made of the case and of the codes of its
    definition, and a key that is taken is left alone. The rows of the first
    visit take all the keys: what was finished then stays finished, and the
    case has nothing to do (`finished_stage_not_reopened`).

    - `HasOpenTask`: a definition has an unfinished task
    - `rework_reopens_iff`: there is no other
-/

namespace LoanWorkflow

open List Table

variable {entry : ActivityConfig × TaskDefinition} {k : Id}
  {entries : List (ActivityConfig × TaskDefinition)} {current key reason : String} {t t' : Task}

/-! ## Tasks of a definition -/

/-- A task of a definition in a stage of a case. -/
def Task.isFor (t : Task) (caseId : Id) (stageCode : String)
    (entry : ActivityConfig × TaskDefinition) : Prop :=
  t.caseId = caseId ∧ t.stageCode = stageCode ∧ t.activityCode = entry.1.code ∧
    t.taskDefinitionCode = entry.2.code

def HasOpenTask (s : Store) (caseId : Id) (stageCode : String)
    (entry : ActivityConfig × TaskDefinition) : Prop :=
  ∃ k t, s.tasks.get? k = some t ∧ t.isFor caseId stageCode entry ∧ t.status.isTerminal = false

/-- A definition has an unfinished task which the rework leaves alone, because the case does not
    stand in its stage. -/
def StaysOpen (s : Store) (caseId : Id) (current stageCode : String)
    (entry : ActivityConfig × TaskDefinition) : Prop :=
  stageCode ≠ current ∧ HasOpenTask s caseId stageCode entry

def definitionKey (caseId : Id) (stageCode : String) (entry : ActivityConfig × TaskDefinition) :
    String :=
  (definitionOrigin caseId stageCode entry).key

/-- No task is stored under the key of a definition, and no earlier definition of the stage, with
    other codes, takes it. -/
def KeyFree (s : Store) (caseId : Id) (stageCode : String) (st : StageDefinition)
    (entry : ActivityConfig × TaskDefinition) : Prop :=
  (∀ k t, s.tasks.get? k = some t →
    t.idempotencyKey ≠ definitionKey caseId stageCode entry) ∧
  ∀ first, st.definitions.find? (fun e =>
      definitionKey caseId stageCode e == definitionKey caseId stageCode entry) = some first →
    definitionOrigin caseId stageCode first = definitionOrigin caseId stageCode entry

def UnusedKey (s : Store) (key : String) : Prop :=
  ∀ j t, s.tasks.get? j = some t → t.idempotencyKey ≠ key

def Published (s s' : Store) (e : Event) : Prop :=
  ∃ k, s.outbox.get? k = none ∧ s'.outbox.get? k = some e

/-! ## Keys in the loop over a stage -/

section Loop

variable {lib : Library} {ctx : Ctx} {before s s' : Store} {caseId : Id} {c : CaseInstance}
  {stageCode : String} {config : CaseTypeConfig}

/-- A definition whose inputs are not there adds no task. -/
theorem createStageTask_blocked {sourceTask sourceField : String}
    (hblocked : taskInputs before caseId entry.2 = .error (.dependency sourceTask sourceField))
    (h : createStageTask lib ctx before caseId c stageCode config s entry = .ok s') :
    CreationFrame (fun _ => False) s s' := by
  refine (createStageTask_frame h).mono ?_
  rintro core ⟨-, payload, hinputs⟩
  rw [hblocked] at hinputs
  cases hinputs

/-- A pass over a definition whose key is taken adds no task. -/
theorem createStageTask_taken (hget : s.tasks.get? k = some t)
    (hkey : t.idempotencyKey = definitionKey caseId stageCode entry)
    (h : createStageTask lib ctx before caseId c stageCode config s entry = .ok s') :
    CreationFrame (fun _ => False) s s' := by
  rcases createStageTask_step h with
    ⟨_, _, e, rfl, -⟩ | ⟨payload, amount, resolved, s₁, -, -, -, -, hrest⟩
  · exact ⟨.refl _ _ _, rfl, rfl⟩
  · have hfound : (createTask s
        (newTask ctx.now caseId stageCode entry.1.code entry.2 payload amount resolved)).2 = s := by
      unfold createTask
      split
      · rfl
      · next hnone =>
        exact absurd hkey (ne_of_beq_false (find?_eq_none hnone hget))
    -- what follows rewrites the stored task outside of its core
    rw [hfound] at hrest
    exact .of_furnishes hrest

theorem Task.key_of_core (h : t'.core = t.core) : t'.idempotencyKey = t.idempotencyKey :=
  congrArg (fun core => core.1.key) h

/-- The same tasks are stored under a key, up to what is not in their cores. -/
def SameUnder (key : String) (s s' : Store) : Prop :=
  ∀ k core, core.1.key = key → ((∃ t, s'.tasks.get? k = some t ∧ t.core = core) ↔
    ∃ t, s.tasks.get? k = some t ∧ t.core = core)

theorem SameUnder.unusedKey (h : SameUnder key s s') : UnusedKey s' key ↔ UnusedKey s key := by
  constructor
  · intro hunused k t ht hkey
    obtain ⟨t', ht', hcore⟩ := (h k t.core hkey).mpr ⟨t, ht, rfl⟩
    exact hunused k t' ht' ((Task.key_of_core hcore).trans hkey)
  · intro hunused k t' ht' hkey
    obtain ⟨t, ht, hcore⟩ := (h k t'.core hkey).mp ⟨t', ht', rfl⟩
    exact hunused k t ht ((Task.key_of_core hcore).trans hkey)

/-- A pass adds a task only under the key of its definition, and only if that is not taken. -/
theorem createStageTask_sameUnder
    (hkey : definitionKey caseId stageCode entry ≠ key ∨ ¬ UnusedKey s key)
    (h : createStageTask lib ctx before caseId c stageCode config s entry = .ok s') :
    SameUnder key s s' := by
  have hframe := createStageTask_frame h
  have hadds : ∀ k t', s'.tasks.get? k = some t' → t'.idempotencyKey = key →
      ∃ t, s.tasks.get? k = some t ∧ t'.core = t.core := by
    intro k t' hget' hkey'
    by_cases hsame : definitionKey caseId stageCode entry = key
    · obtain ⟨j, t, hget, ht⟩ : ∃ j t, s.tasks.get? j = some t ∧ t.idempotencyKey = key := by
        simpa [UnusedKey] using hkey.resolve_left (not_not_intro hsame)
      exact (createStageTask_taken hget (ht.trans hsame.symm) h).tasks.old hget'
    · refine (hframe.tasks.adds k t' hget').resolve_right fun hnew => hsame ?_
      exact (congrArg (fun core => core.1.key) hnew.1).symm.trans hkey'
  intro k core hcore
  constructor
  · rintro ⟨t', hget', rfl⟩
    obtain ⟨t, hget, ht⟩ := hadds k t' hget' hcore
    exact ⟨t, hget, ht.symm⟩
  · rintro ⟨t, hget, rfl⟩
    exact hframe.tasks.keeps k t hget

theorem createStageTasks_sameUnder
    (hkey : (∀ e ∈ entries, definitionKey caseId stageCode e ≠ key) ∨ ¬ UnusedKey s key)
    (h : entries.foldlM (createStageTask lib ctx before caseId c stageCode config) s = .ok s') :
    SameUnder key s s' := by
  refine foldlM_invariant (P := SameUnder key s) ?_ (fun _ _ _ => Iff.rfl) h
  intro b e b' he hsame hpass k core hcore
  have hpass' := createStageTask_sameUnder (hkey.imp (· e he) (mt hsame.unusedKey.mp)) hpass
  exact (hpass' k core hcore).trans (hsame k core hcore)

/-- Under a free key, the loop stores the pending task of the first definition with that key, and
    no other. -/
theorem createStageTasks_free {first : ActivityConfig × TaskDefinition} (hfree : UnusedKey s key)
    (hfirst : entries.find? (fun e => definitionKey caseId stageCode e == key) = some first)
    (hinputs : ∀ e ∈ entries, ∀ sourceTask sourceField,
      taskInputs before caseId e.2 ≠ .error (.dependency sourceTask sourceField))
    (h : entries.foldlM (createStageTask lib ctx before caseId c stageCode config) s = .ok s') :
    (∃ k t, s'.tasks.get? k = some t ∧
      t.core = (definitionOrigin caseId stageCode first, .pending)) ∧
    ∀ k t, s'.tasks.get? k = some t → t.idempotencyKey = key →
      t.core = (definitionOrigin caseId stageCode first, .pending) := by
  obtain ⟨hkey, earlier, later, rfl, hearlier⟩ := find?_eq_some_iff_append.mp hfirst
  rw [foldlM_append] at h
  obtain ⟨b, hb, h⟩ := bind_ok h
  rw [foldlM_cons] at h
  obtain ⟨b', hb', h⟩ := bind_ok h
  have hfree' := (createStageTasks_sameUnder (.inl (by simpa using hearlier)) hb).unusedKey.mpr hfree
  -- this pass stores the row, and the rest of the loop finds the key taken
  obtain ⟨k, t, hget, ht⟩ := createStageTask_has (hinputs first (by simp)) hb'
  replace ht : t.idempotencyKey = key := ht.trans (beq_iff_eq.mp hkey)
  have hlater := createStageTasks_sameUnder (.inr fun hunused => hunused k t hget ht) h
  have honly : ∀ k t, b'.tasks.get? k = some t → t.idempotencyKey = key →
      t.core = (definitionOrigin caseId stageCode first, .pending) := by
    intro k t hget hkey
    rcases (createStageTask_frame hb').tasks.adds k t hget with ⟨a, hgeta, hcore⟩ | hnew
    · exact absurd ((Task.key_of_core hcore).symm.trans hkey) (hfree' k a hgeta)
    · exact hnew.1
  constructor
  · rw [← honly k t hget ht]
    exact ⟨k, (hlater k t.core ht).mpr ⟨t, hget, rfl⟩⟩
  · intro k₁ t₁ hget₁ hkey₁
    obtain ⟨t₀, hget₀, hcore₀⟩ := (hlater k₁ t₁.core hkey₁).mp ⟨t₁, hget₁, rfl⟩
    rw [← hcore₀]
    exact honly k₁ t₀ hget₀ ((Task.key_of_core hcore₀).trans hkey₁)

end Loop

/-! ## The rework and its event -/

/-- A rework that published `CASE_STAGE_CHANGED` cancelled the unfinished tasks of the stage that
    the case stood in, and named the target stage in the event. -/
theorem sendCaseToRework_moved {s s₁ : Store} {now : Instant} {caseId gateId : Id}
    {target rejectedBy : String} {event : Event} {c : CaseInstance}
    (hc : s.cases.get? caseId = some c)
    (h : sendCaseToRework s now caseId gateId target reason rejectedBy = .ok s₁)
    (hevent : Published s s₁ event) (htype : event.eventType = .caseStageChanged) :
    s₁.tasks = s.tasks.updateWhere
        (fun t => (t.caseId == caseId && t.stageCode == c.currentStageCode.getD "") &&
          !t.status.isTerminal) (fun t => t.cancel "APPROVAL_REJECTED" now) ∧
      s₁.caseTypes = s.caseTypes ∧
      (∃ c₁, s₁.cases.get? caseId = some c₁ ∧ c₁.caseTypeId = c.caseTypeId) ∧
      payloadCase event = .ok caseId ∧ event.payload.strField "to_stage" = target := by
  obtain ⟨k, hbefore, hafter⟩ := hevent
  obtain ⟨c', hc', h⟩ := bind_ok h
  obtain rfl := Option.mem_unique hc (orFail_eq_ok.mp hc')
  dsimp only at h
  split at h
  · -- a case that is rejected instead does not announce a stage
    cases h
    have hinsert : (s.outbox.insert _).get? k = some event := hafter
    rw [get?_insert] at hinsert
    split at hinsert
    · cases hinsert
      cases htype
    · rw [hbefore] at hinsert
      cases hinsert
  obtain ⟨ct, -, h⟩ := bind_ok h
  obtain ⟨st, -, h⟩ := bind_ok h
  cases h
  have hinsert : ((s.outbox.insert _).insert _).get? k = some event := hafter
  rw [get?_insert] at hinsert
  split at hinsert
  · cases hinsert
    cases htype
  rw [get?_insert] at hinsert
  split at hinsert
  swap
  · rw [hbefore] at hinsert
    cases hinsert
  cases hinsert
  refine ⟨rfl, rfl, ?_, rfl, rfl⟩
  exact ⟨{ c.backTo target st.sequenceOrder with reworkCount := c.reworkCount + 1 },
    get?_updateAt_of_get? hc, rfl⟩

section Reopening

variable {lib : Library} {ctx : Ctx} {s s₁ s₂ : Store} {now : Instant} {caseId gateId : Id}
  {target rejectedBy : String} {event : Event} {c : CaseInstance} {ct : CaseType}
  {st : StageDefinition}

/-- The handler of the event runs the loop over the target stage. -/
theorem onCaseStageChanged_loop {c₁ : CaseInstance} (hpayload : payloadCase event = .ok caseId)
    (hstage : event.payload.strField "to_stage" = target) (hc₁ : s₁.cases.get? caseId = some c₁)
    (hct : s₁.caseTypes.get? c₁.caseTypeId = some ct) (hst : findStage ct.config target = some st)
    (h : onCaseStageChanged lib ctx event s₁ = .ok s₂) :
    createTasksForStage lib ctx caseId target st ct.config s₁ = .ok s₂ := by
  unfold onCaseStageChanged loadCase at h
  rw [hpayload, hstage] at h
  obtain ⟨⟨caseId', c', config⟩, hload, h⟩ := bind_ok h
  obtain ⟨_, hcase, hload⟩ := bind_ok hload
  obtain rfl := Except.ok.inj hcase
  obtain ⟨c'', hc'', hload⟩ := bind_ok hload
  obtain rfl := Option.mem_unique hc₁ (orFail_eq_ok.mp hc'')
  obtain ⟨ct', hct', hload⟩ := bind_ok hload
  obtain rfl := Option.mem_unique hct (orFail_eq_ok.mp hct')
  cases hload
  obtain ⟨st', hst', h⟩ := bind_ok h
  obtain rfl := Option.mem_unique hst (orFail_eq_ok.mp hst')
  exact h

/-- A task of a definition has its place, and a task with its place is one of the definition. -/
theorem Task.isFor_of_core
    {status : TaskStatus} (h : t.core = (definitionOrigin caseId target entry, status)) :
    t.isFor caseId target entry ∧ t.status = status := by
  have horigin : t.origin = definitionOrigin caseId target entry := congrArg Prod.fst h
  refine ⟨⟨?_, ?_, ?_, ?_⟩, congrArg Prod.snd h⟩
  · exact congrArg TaskOrigin.caseId horigin
  · exact congrArg TaskOrigin.stageCode horigin
  · exact congrArg TaskOrigin.activityCode horigin
  · exact congrArg TaskOrigin.taskDefinitionCode horigin

theorem Task.isFor_congr
    (h : t'.origin = t.origin) : t'.isFor caseId target entry ↔ t.isFor caseId target entry := by
  unfold Task.isFor
  rw [show t'.caseId = t.caseId from congrArg TaskOrigin.caseId h,
    show t'.stageCode = t.stageCode from congrArg TaskOrigin.stageCode h,
    show t'.activityCode = t.activityCode from congrArg TaskOrigin.activityCode h,
    show t'.taskDefinitionCode = t.taskDefinitionCode from
      congrArg TaskOrigin.taskDefinitionCode h]

/-- Two definitions that one task can be of have the same place. -/
theorem definitionOrigin_eq {entry' : ActivityConfig × TaskDefinition}
    (h : t.isFor caseId target entry) (h' : t.isFor caseId target entry') :
    definitionOrigin caseId target entry' = definitionOrigin caseId target entry := by
  obtain ⟨-, -, hactivity, hcode⟩ := h
  obtain ⟨-, -, hactivity', hcode'⟩ := h'
  unfold definitionOrigin
  rw [← hactivity, ← hactivity', ← hcode, ← hcode']

section Cancelled

variable (htasks : s₁.tasks = s.tasks.updateWhere
  (fun t => (t.caseId == caseId && t.stageCode == current) && !t.status.isTerminal)
  (fun t => t.cancel reason now))

include htasks

/-- The rework adds and removes no key. -/
theorem unusedKey_cancelled : UnusedKey s₁ key ↔ UnusedKey s key := by
  have hsame : s.tasks.Grows Task.idempotencyKey (fun _ => False) s₁.tasks := by
    rw [htasks]
    exact .updateWhere_of fun _ _ => rfl
  constructor
  · intro hunused k t ht
    obtain ⟨t₁, ht₁, hkey⟩ := hsame.keeps k t ht
    rw [← hkey]
    exact hunused k t₁ ht₁
  · intro hunused k t₁ ht₁
    obtain ⟨t, ht, hkey⟩ := hsame.old ht₁
    rw [hkey]
    exact hunused k t ht

/-- After the rework, the unfinished tasks are those outside of the case's own stage. -/
theorem hasOpenTask_cancelled :
    HasOpenTask s₁ caseId target entry ↔ StaysOpen s caseId current target entry := by
  have hget : ∀ k, s₁.tasks.get? k = (s.tasks.get? k).map (fun t =>
      if (t.caseId == caseId && t.stageCode == current) && !t.status.isTerminal then
        t.cancel reason now else t) := by
    intro k
    rw [htasks, get?_updateWhere]
  constructor
  · rintro ⟨k, t₁, ht₁, hfor, hopen⟩
    rw [hget] at ht₁
    obtain ⟨t, ht, rfl⟩ := Option.map_eq_some_iff.mp ht₁
    split at hopen
    · cases hopen
    · next hmiss =>
      rw [if_neg hmiss] at hfor
      refine ⟨?_, k, t, ht, hfor, hopen⟩
      rintro rfl
      exact hmiss (by simp [hfor.1, hfor.2.1, hopen])
  · rintro ⟨hstage, k, t, ht, hfor, hopen⟩
    refine ⟨k, t, ?_, hfor, hopen⟩
    rw [hget, ht, Option.map_some, if_neg (by simp [hfor.2.1, hstage])]

end Cancelled

/-- A definition has an unfinished task after the loop exactly if it had one before, or if its key
    was free. -/
theorem hasOpenTask_iff {config : CaseTypeConfig}
    (hloop : createTasksForStage lib ctx caseId target st config s₁ = .ok s₂)
    (hinputs : ∀ e ∈ st.definitions, ∀ sourceTask sourceField,
      taskInputs s₁ caseId e.2 ≠ .error (.dependency sourceTask sourceField))
    (hentry : entry ∈ st.definitions) :
    HasOpenTask s₂ caseId target entry ↔
      HasOpenTask s₁ caseId target entry ∨ KeyFree s₁ caseId target st entry := by
  have hframe := createTasksForStage_frame hloop
  obtain ⟨_, -, hfold⟩ := createTasksForStage_step hloop
  have hsame : ∀ t₁ t₂ : Task, t₂.core = t₁.core →
      (t₂.isFor caseId target entry ↔ t₁.isFor caseId target entry) ∧ t₂.status = t₁.status :=
    fun t₁ t₂ hcore => ⟨Task.isFor_congr (congrArg Prod.fst hcore), congrArg Prod.snd hcore⟩
  constructor
  · rintro ⟨k, t₂, hget₂, hfor, hopen⟩
    have hold : (∃ t₁, s₁.tasks.get? k = some t₁ ∧ t₂.core = t₁.core) →
        HasOpenTask s₁ caseId target entry := by
      rintro ⟨t₁, hget₁, hcore⟩
      obtain ⟨hfor₁, hstatus⟩ := hsame t₁ t₂ hcore
      exact ⟨k, t₁, hget₁, hfor₁.mp hfor, hstatus ▸ hopen⟩
    rcases hframe.tasks.adds k t₂ hget₂ with hrow | ⟨entry', -, hcore, -⟩
    · exact .inl (hold hrow)
    · -- a new row has the key of the entry
      have hplace := definitionOrigin_eq hfor (Task.isFor_of_core hcore).1
      have hkey : t₂.idempotencyKey = definitionKey caseId target entry :=
        (congrArg (fun core => core.1.key) hcore).trans (congrArg TaskOrigin.key hplace)
      by_cases hunused : UnusedKey s₁ (definitionKey caseId target entry)
      · refine .inr ⟨hunused, fun first hfirst => ?_⟩
        obtain ⟨-, honly⟩ := createStageTasks_free hunused hfirst hinputs hfold
        exact definitionOrigin_eq hfor (Task.isFor_of_core (honly k t₂ hget₂ hkey)).1
      · obtain ⟨t₁, hget₁, hcore₁⟩ :=
          (createStageTasks_sameUnder (.inr hunused) hfold k t₂.core hkey).mp ⟨t₂, hget₂, rfl⟩
        exact .inl (hold ⟨t₁, hget₁, hcore₁.symm⟩)
  · rintro (⟨k, t₁, hget₁, hfor, hopen⟩ | ⟨hunused, hplace⟩)
    · obtain ⟨t₂, hget₂, hcore⟩ := hframe.tasks.keeps k t₁ hget₁
      obtain ⟨hfor₂, hstatus⟩ := hsame t₁ t₂ hcore
      exact ⟨k, t₂, hget₂, hfor₂.mpr hfor, hstatus ▸ hopen⟩
    · -- the first definition with the key of the entry
      obtain ⟨first, hfirst⟩ : ∃ first, st.definitions.find? (fun e =>
          definitionKey caseId target e == definitionKey caseId target entry) = some first := by
        rw [← Option.isSome_iff_exists, find?_isSome]
        exact ⟨entry, hentry, beq_self_eq_true _⟩
      obtain ⟨⟨k, t, hget, hcore⟩, -⟩ := createStageTasks_free hunused hfirst hinputs hfold
      rw [hplace first hfirst] at hcore
      obtain ⟨hfor, hstatus⟩ := Task.isFor_of_core hcore
      exact ⟨k, t, hget, hfor, by rw [hstatus]; rfl⟩

/-- **Reopening a stage.** After a rework that announced the target stage, and after the handler
    of that announcement, every definition of the stage has an unfinished task exactly if before
    the rework each of them had one outside of the case's own stage, or a free key. -/
theorem rework_reopens_iff (hc : s.cases.get? caseId = some c)
    (hct : s.caseTypes.get? c.caseTypeId = some ct) (hst : findStage ct.config target = some st)
    (hrework : sendCaseToRework s now caseId gateId target reason rejectedBy = .ok s₁)
    (hevent : Published s s₁ event) (htype : event.eventType = .caseStageChanged)
    (hhandled : onCaseStageChanged lib ctx event s₁ = .ok s₂)
    (hinputs : ∀ e ∈ st.definitions, ∀ sourceTask sourceField,
      taskInputs s₁ caseId e.2 ≠ .error (.dependency sourceTask sourceField)) :
    (∀ entry ∈ st.definitions, HasOpenTask s₂ caseId target entry) ↔
      ∀ entry ∈ st.definitions, StaysOpen s caseId (c.currentStageCode.getD "") target entry ∨
        KeyFree s caseId target st entry := by
  obtain ⟨htasks, htypes, ⟨c₁, hc₁, hctId⟩, hpayload, hstage⟩ :=
    sendCaseToRework_moved hc hrework hevent htype
  rw [← htypes, ← hctId] at hct
  have hloop := onCaseStageChanged_loop hpayload hstage hc₁ hct hst hhandled
  refine forall₂_congr fun entry hentry => ?_
  rw [hasOpenTask_iff hloop hinputs hentry, hasOpenTask_cancelled htasks]
  exact or_congr_right (and_congr_left' (unusedKey_cancelled htasks))

end Reopening

/-! ## A loan that goes back to its intake -/

def intakeConfig : CaseTypeConfig where
  stages := [
    { code := "INTAKE", sequenceOrder := 1
      activities := [{ code := "COLLECT", taskDefs := [deskTask "COLLECT_DOCS" []] }] },
    { code := "REVIEW", sequenceOrder := 2
      activities := [{ code := "CHECK", taskDefs := [deskTask "SIGN" []] }] }]

/-- A case in review, before the rejection of its review task costs it something; `intake` are the
    tasks of the first stage. -/
def inReview (intake : Table Task) : Store where
  caseTypes := Table.empty.insert { code := "LOAN", config := intakeConfig }
  cases := Table.empty.insert
    { caseTypeId := 0, currentStageCode := some "REVIEW", currentStageOrdinal := 2
      status := .inProgress }
  tasks := intake.insert
    { caseId := 0, taskDefinitionCode := "SIGN", activityCode := "CHECK", stageCode := "REVIEW"
      status := .awaitingExternal, idempotencyKey := idempotencyKey 0 "REVIEW" "CHECK" "SIGN" }
  gates := Table.empty.insert
    { taskId := intake.fresh, caseId := 0, approvalPolicy := .allMustApprove, requiredApproverCount := 1
      gateStatus := .failed, reworkTargetStageCode := some "INTAKE" }

/-- The intake task of the first visit, finished. -/
def collected : Table Task :=
  Table.empty.insert
    { caseId := 0, taskDefinitionCode := "COLLECT_DOCS", activityCode := "COLLECT"
      stageCode := "INTAKE", status := .completed
      idempotencyKey := idempotencyKey 0 "INTAKE" "COLLECT" "COLLECT_DOCS" }

def sentBack (intake : Table Task) : Store :=
  Machine.run (fun _ s => sendCaseToRework s 1 0 0 "INTAKE" "no" "ann") (inReview intake) [()]

def intakeAnnounced : Event :=
  { eventType := .caseStageChanged, caseId := some 0
    payload := .obj [("case_id", .uuid 0), ("from_stage", .str "REVIEW"),
      ("to_stage", .str "INTAKE"), ("to_stage_order", .num 1)] }

def intakeEntered (intake : Table Task) : Store :=
  Machine.run (fun _ s => onCaseStageChanged Library.plain (Ctx.plain 2) intakeAnnounced s)
    (sentBack intake) [()]

def collectDocs : ActivityConfig × TaskDefinition :=
  ({ code := "COLLECT", taskDefs := [deskTask "COLLECT_DOCS" []] }, deskTask "COLLECT_DOCS" [])

/-- A case that never visited its intake gets the intake task. -/
theorem rework_reopens_unvisited :
    HasOpenTask (intakeEntered Table.empty) 0 "INTAKE" collectDocs := by
  have hrework : sendCaseToRework (inReview Table.empty) 1 0 0 "INTAKE" "no" "ann" =
      .ok (sentBack Table.empty) := rfl
  have hevent : Published (inReview Table.empty) (sentBack Table.empty) intakeAnnounced :=
    ⟨0, rfl, rfl⟩
  have hhandled : onCaseStageChanged Library.plain (Ctx.plain 2) intakeAnnounced
      (sentBack Table.empty) = .ok (intakeEntered Table.empty) := rfl
  have hstage : findStage intakeConfig "INTAKE" = some
      { code := "INTAKE", sequenceOrder := 1, activities := [collectDocs.1] } := rfl
  refine (rework_reopens_iff rfl rfl hstage hrework hevent rfl hhandled ?_).mpr ?_ collectDocs
    (List.Mem.head _)
  · intro entry hentry sourceTask sourceField hblocked
    obtain rfl := mem_singleton.mp (show entry ∈ [_] from hentry)
    cases hblocked
  intro entry hentry
  obtain rfl := mem_singleton.mp (show entry ∈ [_] from hentry)
  refine Or.inr ⟨?_, ?_⟩
  · intro k t hget
    obtain ⟨-, rfl⟩ := Prod.mk.inj (mem_singleton.mp
      (show (k, t) ∈ [(_, _)] from get?_eq_some_iff.mp hget))
    decide
  · intro first hfirst
    obtain rfl := Option.some.inj hfirst
    rfl

/-- In an accepted configuration, a case whose intake was finished goes back to it and finds its
    only task finished. -/
theorem finished_stage_not_reopened :
    validateCaseTypeConfig intakeConfig = [] ∧
      Published (inReview collected) (sentBack collected) intakeAnnounced ∧
      onCaseStageChanged Library.plain (Ctx.plain 2) intakeAnnounced (sentBack collected) =
        .ok (intakeEntered collected) ∧
      ¬ HasOpenTask (intakeEntered collected) 0 "INTAKE" collectDocs := by
  refine ⟨by decide, ⟨0, rfl, rfl⟩, rfl, ?_⟩
  rintro ⟨k, t, hget, -, hopen⟩
  -- the intake task is completed, and the review task was cancelled
  have hrows : (k, t) ∈ [(_, _), (_, _)] := get?_eq_some_iff.mp hget
  rcases mem_cons.mp hrows with hrow | hrow
  · obtain ⟨-, rfl⟩ := Prod.mk.inj hrow
    cases hopen
  · obtain ⟨-, rfl⟩ := Prod.mk.inj (mem_singleton.mp hrow)
    cases hopen

end LoanWorkflow
