import LoanWorkflow.Framework.Interference
import LoanWorkflow.Integration.ExternalCalls

/-! # Idempotency keys of two tenants

    The calls of a tenant should not depend on the calls of another one. The
    tasks, the cases and the events of a tenant are its own, but the primary
    key of `idempotency_keys` is the keyspace and the key alone: a key that
    one tenant uses is a duplicate for the other. The relation `SameFor`
    compares a run with the run without the other tenant's calls. It is kept
    by every call, unless a call of the tenant comes to a key that the other
    one has taken since the start (`tenants_isolated_iff`).
-/

namespace LoanWorkflow

open Interference Table

variable {e : Err} {call : ExternalCall}
variable {e' : Err} {row : IdempotencyKey} {s t : Store} {other : String} {α : Type}

/-! ## Rows of a tenant -/

def Store.tasksOf (s : Store) (tenantId : String) : List (Id × Task) :=
  s.tasks.rowsWhere (fun t => t.tenantId == tenantId)

/-- The outbox events of a tenant, oldest first. -/
def Store.eventsOf (s : Store) (tenantId : String) : List Event :=
  (s.outbox.rowsWhere (fun e => e.tenantId == tenantId)).map Prod.snd

def Store.KeyUsed (s : Store) (keyspace : IdempotencyKeyspace) (key : String) : Prop :=
  ∃ k row, s.idempotencyKeys.get? k = some row ∧ row.keyspace = keyspace ∧ row.key = key

theorem Store.idempotencyKey?_eq_none_iff {keyspace : IdempotencyKeyspace}
    {key : String} : s.idempotencyKey? keyspace key = none ↔ ¬ s.KeyUsed keyspace key := by
  unfold Store.idempotencyKey? Store.KeyUsed
  constructor
  · rintro hnone ⟨k, row, hget, rfl, rfl⟩
    have := find?_eq_none hnone hget
    simp at this
  · intro hunused
    unfold Table.find?
    rw [List.find?_eq_none]
    intro r hr hmatch
    simp only [Bool.and_eq_true, beq_iff_eq] at hmatch
    exact hunused ⟨r.1, r.2, get?_eq_some_iff.mpr hr, hmatch.1, hmatch.2⟩

/-- A tenant has taken the key since the start. -/
def TakenSince (start : Store) (tenantId : String) (s : Store) (keyspace : IdempotencyKeyspace)
    (key : String) : Prop :=
  ¬ start.KeyUsed keyspace key ∧ ∃ k row, s.idempotencyKeys.get? k = some row ∧
    row.keyspace = keyspace ∧ row.key = key ∧ row.tenantId = tenantId

/-- The call passes the checks that come before its idempotency key. -/
def ExternalCall.ReachesKey (s : Store) : ExternalCall → Prop
  | .completeTask _ tenant idempotencyKey output =>
    tenant.isSome = true ∧ output.key idempotencyKey ≠ "" ∧ output.taskId.isSome = true ∧
      trimSpace output.assignedService ≠ "" ∧
      (output.status = .completed ∨ output.status = .failed)
  | .ingestEvent _ validate tenant input =>
    ∃ tenantId caseId, input.check validate tenant = .ok (tenantId, caseId) ∧
      (s.cases.get? caseId).any (fun c => c.tenantId == tenantId) = true

/-- The call does not come to a key that the other tenant has taken since the start. -/
def Undisturbed (start : Store) (other : String) (s : Store) (call : ExternalCall) : Prop :=
  call.ReachesKey s → ¬ TakenSince start other s call.keyspace call.key

/-! ## Two runs -/

/-- The stores of two runs, with and without the calls of `other`, are the same for a tenant. -/
structure SameFor (other tenantId : String) (start s t : Store) : Prop where
  cases : s.cases = t.cases
  tasks : s.tasksOf tenantId = t.tasksOf tenantId
  events : s.eventsOf tenantId = t.eventsOf tenantId
  keys : ∀ keyspace key, t.KeyUsed keyspace key ↔
    s.KeyUsed keyspace key ∧ ¬ TakenSince start other s keyspace key
  kept : ∀ keyspace key, start.KeyUsed keyspace key → s.KeyUsed keyspace key

theorem SameFor.refl (other tenantId : String) (s : Store) : SameFor other tenantId s s s where
  cases := rfl
  tasks := rfl
  events := rfl
  keys _ _ := ⟨fun h => ⟨h, fun htaken => htaken.1 h⟩, And.left⟩
  kept _ _ h := h

section insert

variable {start s' : Store} {keyspace : IdempotencyKeyspace} {key : String}

theorem keyUsed_insert (hkeys : s'.idempotencyKeys = s.idempotencyKeys.insert row) :
    s'.KeyUsed keyspace key ↔ s.KeyUsed keyspace key ∨ (row.keyspace = keyspace ∧ row.key = key) := by
  unfold Store.KeyUsed
  rw [hkeys, exists_insert]

theorem takenSince_insert (hkeys : s'.idempotencyKeys = s.idempotencyKeys.insert row) :
    TakenSince start other s' keyspace key ↔ TakenSince start other s keyspace key ∨
      (¬ start.KeyUsed keyspace key ∧ row.keyspace = keyspace ∧ row.key = key ∧
        row.tenantId = other) := by
  unfold TakenSince
  rw [hkeys, exists_insert, and_or_left]

theorem TakenSince.used (h : TakenSince start other s keyspace key) : s.KeyUsed keyspace key := by
  obtain ⟨-, k, row, hget, hkeyspace, hkey, -⟩ := h
  exact ⟨k, row, hget, hkeyspace, hkey⟩

end insert

section kept

variable {tenantId : String} {start s' : Store}

variable (h : SameFor other tenantId start s t)

include h

/-- A key that is not in use is recorded, in both runs unless it is one of the other tenant. -/
theorem SameFor.keys_insert {t' : Store} (hfresh : ¬ s.KeyUsed row.keyspace row.key)
    (hs : s'.idempotencyKeys = s.idempotencyKeys.insert row)
    (ht : ∀ keyspace key, t'.KeyUsed keyspace key ↔ t.KeyUsed keyspace key ∨
      (row.keyspace = keyspace ∧ row.key = key) ∧ row.tenantId ≠ other)
    (keyspace : IdempotencyKeyspace) (key : String) :
    t'.KeyUsed keyspace key ↔
      s'.KeyUsed keyspace key ∧ ¬ TakenSince start other s' keyspace key := by
  rw [ht, keyUsed_insert hs, takenSince_insert hs, h.keys keyspace key]
  by_cases hsame : row.keyspace = keyspace ∧ row.key = key
  · obtain ⟨rfl, rfl⟩ := hsame
    -- the key was not in use at the start either
    have hstart : ¬ start.KeyUsed row.keyspace row.key := fun hused => hfresh (h.kept _ _ hused)
    have huntaken : ¬ TakenSince start other s row.keyspace row.key :=
      fun htaken => hfresh htaken.used
    simp [hfresh, hstart, huntaken]
  · have hother : ¬ (¬ start.KeyUsed keyspace key ∧ row.keyspace = keyspace ∧ row.key = key ∧
        row.tenantId = other) := fun hrow => hsame ⟨hrow.2.1, hrow.2.2.1⟩
    simp only [hsame, hother, false_and, or_false]

/-- A call of the other tenant changes nothing for the tenant. -/
theorem SameFor.hidden (hne : other ≠ tenantId)
    (hcall : call.tenant = some other) : SameFor other tenantId start (call.run s).2 t := by
  cases hexec : call.exec s with
  | error e =>
    rw [ExternalCall.run_of_error hexec]
    exact h
  | ok s' =>
    rw [ExternalCall.run_of_ok hexec]
    obtain ⟨tenantId', haccepted⟩ := ExternalCall.accepted_of_exec hexec
    have hsame : tenantId' = other := by
      have htenant := haccepted.tenant.symm.trans hcall
      cases htenant
      rfl
    subst hsame
    have hforeign : (tenantId' == tenantId) = false := beq_eq_false_iff_ne.mpr hne
    obtain ⟨row, hkeyspace, hkey, hrow, hkeys⟩ := haccepted.keys
    obtain ⟨e, he, houtbox⟩ := haccepted.event
    have hfresh : ¬ s.KeyUsed row.keyspace row.key := by
      rw [hkeyspace, hkey]
      exact Store.idempotencyKey?_eq_none_iff.mp haccepted.fresh
    refine ⟨haccepted.cases.trans h.cases, ?_, ?_, h.keys_insert hfresh hkeys (by simp [hrow]), ?_⟩
    · rw [← h.tasks]
      unfold Store.tasksOf
      rcases haccepted.tasks with htasks | ⟨k, row, f, hget, htenant, htasks, hf⟩
      · rw [htasks]
      · rw [htasks]
        exact rowsWhere_updateAt_of_not hget (by rw [htenant]; exact hforeign)
          (fun row => by rw [hf])
    · rw [← h.events]
      unfold Store.eventsOf
      rw [houtbox, map_rowsWhere_insert, he, hforeign]
      simp
    · exact fun keyspace key hused =>
        (keyUsed_insert hkeys).mpr (Or.inl (h.kept keyspace key hused))

theorem SameFor.record (hfresh : ¬ s.KeyUsed row.keyspace row.key) (hrow : row.tenantId ≠ other) :
    SameFor other tenantId start
      { s with idempotencyKeys := s.idempotencyKeys.insert row }
      { t with idempotencyKeys := t.idempotencyKeys.insert row } where
  cases := h.cases
  tasks := h.tasks
  events := h.events
  keys := h.keys_insert hfresh rfl fun _ _ => (keyUsed_insert rfl).trans (by simp [hrow])
  kept keyspace key hused := (keyUsed_insert rfl).mpr (Or.inl (h.kept keyspace key hused))

theorem SameFor.publish (e : Event) :
    SameFor other tenantId start (s.publish e) (t.publish e) where
  cases := h.cases
  tasks := h.tasks
  events := by
    have hevents := h.events
    unfold Store.eventsOf Store.publish at *
    rw [map_rowsWhere_insert, map_rowsWhere_insert, hevents]
  keys := h.keys
  kept := h.kept

theorem SameFor.updateTask (k : Id) (f : Task → Task)
    (hf : ∀ row, (f row).tenantId = row.tenantId) :
    SameFor other tenantId start (s.updateTask k f) (t.updateTask k f) where
  cases := h.cases
  tasks := by
    have htasks := h.tasks
    unfold Store.tasksOf Store.updateTask at *
    rw [rowsWhere_updateAt k (fun row => by rw [hf]),
      rowsWhere_updateAt k (fun row => by rw [hf]), htasks]
  events := h.events
  keys := h.keys
  kept := h.kept

theorem SameFor.audit (entry : IntegrationAuditEntry) :
    SameFor other tenantId start (recordIntegrationAudit s entry)
      (recordIntegrationAudit t entry) :=
  ⟨h.cases, h.tasks, h.events, h.keys, h.kept⟩

/-- The task that a call of the tenant finds. -/
theorem SameFor.task (k : Id) :
    (s.tasks.get? k).filter (fun row => row.tenantId == tenantId) =
      (t.tasks.get? k).filter (fun row => row.tenantId == tenantId) := by
  have htasks := h.tasks
  unfold Store.tasksOf at htasks
  rw [get?_filter, get?_filter, htasks]

/-! ## Calls of the tenant -/

/-- The check of a key that the other tenant has not taken. -/
theorem SameFor.recordIdempotencyKey (caller : String)
    (row : IdempotencyKey) (hrow : row.tenantId ≠ other)
    (huntaken : ¬ TakenSince start other s row.keyspace row.key) :
    Agrees (SameFor other tenantId start) (recordIdempotencyKey caller s row)
      (recordIdempotencyKey caller t row) := by
  have hiff : t.KeyUsed row.keyspace row.key ↔ s.KeyUsed row.keyspace row.key := by
    rw [h.keys]
    exact and_iff_left huntaken
  unfold LoanWorkflow.recordIdempotencyKey
  cases hs : s.idempotencyKey? row.keyspace row.key with
  | none =>
    have hfresh := Store.idempotencyKey?_eq_none_iff.mp hs
    have ht := Store.idempotencyKey?_eq_none_iff.mpr fun hused => hfresh (hiff.mp hused)
    rw [ht]
    exact .ok (h.record hfresh hrow)
  | some r =>
    cases ht : t.idempotencyKey? row.keyspace row.key with
    | none =>
      have hfresh := Store.idempotencyKey?_eq_none_iff.mp ht
      have hnone := Store.idempotencyKey?_eq_none_iff.mpr fun hused => hfresh (hiff.mpr hused)
      rw [hs] at hnone
      cases hnone
    | some r' => exact .error _

/-- A call of the tenant has the same outcome in both runs, unless it comes to a key that the
    other tenant has taken. -/
theorem SameFor.visible (hne : other ≠ tenantId)
    (hcall : call.tenant = some tenantId) (hguard : Undisturbed start other s call) :
    Agrees (SameFor other tenantId start) (call.exec s) (call.exec t) := by
  cases call with
  | completeTask ctx tenant idempotencyKey output =>
    show Agrees _ (completeTaskFromExternal ctx tenant idempotencyKey output s)
      (completeTaskFromExternal ctx tenant idempotencyKey output t)
    have htenant : tenant = some tenantId := hcall
    subst htenant
    refine Agrees.bind_same fun tenantId' htenant => ?_
    refine Agrees.bind_same fun _ hkey => ?_
    refine Agrees.bind_same fun taskId htaskId => ?_
    refine Agrees.bind_same fun _ hservice => ?_
    refine Agrees.bind_same fun _ hstatus => ?_
    cases orFail_eq_ok.mp htenant
    rw [ensure_eq_ok, bne_iff_ne] at hkey hservice
    rw [ensure_eq_ok, Bool.or_eq_true, beq_iff_eq, beq_iff_eq] at hstatus
    have hreach : (ExternalCall.completeTask ctx (some tenantId) idempotencyKey output).ReachesKey s :=
      ⟨rfl, hkey, by rw [orFail_eq_ok.mp htaskId]; rfl, hservice, hstatus⟩
    have huntaken := hguard hreach
    rw [ExternalCall.key_completeTask] at huntaken
    have hrecord := h.recordIdempotencyKey "CompleteTaskFromExternal"
      { keyspace := .taskCompletion, key := output.key idempotencyKey, tenantId := tenantId
        expiresAt := ctx.now + 30 * 24 * hour } hne.symm huntaken
    refine Agrees.bind hrecord fun s₁ t₁ h₁ => ?_
    rw [h₁.task taskId]
    refine Agrees.bind_same fun row _ => ?_
    refine Agrees.bind_same fun _ _ => ?_
    refine Agrees.bind_same fun _ _ => ?_
    let report := fun row : Task => row.report output (output.completedAt.getD ctx.now)
    exact .ok (((h₁.updateTask taskId report fun _ => rfl).publish _).audit _)
  | ingestEvent ctx validate tenant input =>
    show Agrees _ (ingestExternalEvent ctx validate tenant input s)
      (ingestExternalEvent ctx validate tenant input t)
    refine Agrees.bind_same fun checked hcheck => ?_
    rw [h.cases]
    refine Agrees.bind_same fun _ hcase => ?_
    rw [ensure_eq_ok, ← h.cases] at hcase
    have htenant : checked.1 = tenantId := by
      have hfound := (ExternalEventInput.check_eq_ok hcheck).1.symm.trans hcall
      cases hfound
      rfl
    have huntaken := hguard ⟨checked.1, checked.2, hcheck, hcase⟩
    have hrecord := h.recordIdempotencyKey "IngestExternalEvent"
      { keyspace := .externalEventIngestion, key := trimSpace input.idempotencyKey
        tenantId := checked.1, expiresAt := ctx.now + 7 * 24 * hour }
      (by rw [htenant]; exact hne.symm) huntaken
    refine Agrees.bind hrecord fun s₁ t₁ h₁ => ?_
    exact .ok ((h₁.publish _).audit _)
end kept

/-! ## Calls that come to a taken key -/

def ExternalCall.caller : ExternalCall → String
  | .completeTask .. => "CompleteTaskFromExternal"
  | .ingestEvent .. => "IngestExternalEvent"

theorem bind_eq_error {β : Type} {x : Except Err α} {f : α → Except Err β} :
    x >>= f = .error e ↔ x = .error e ∨ ∃ a, x = .ok a ∧ f a = .error e := by
  cases x with
  | error e' => simp [bind, Except.bind]
  | ok a => simp [bind, Except.bind]

theorem orFail_eq_error {o : Option α} (h : orFail o e = .error e') : e = e' := by
  cases o with
  | none => exact Except.error.inj h
  | some a => cases h

theorem ensure_eq_error {b : Bool} (h : ensure b e = .error e') : e = e' := by
  cases b with
  | false => exact Except.error.inj h
  | true => cases h

/-- A call that records a key reports a duplicate exactly if the key is in use, where what comes
    then has other errors. -/
theorem recordIdempotencyKey_duplicate_iff {caller : String} {rest : Store → Except Err α}
    (hrest : ∀ s₁, rest s₁ ≠ .error (duplicateError caller)) :
    recordIdempotencyKey caller s row >>= rest = .error (duplicateError caller) ↔
      s.KeyUsed row.keyspace row.key := by
  unfold recordIdempotencyKey
  cases hlookup : s.idempotencyKey? row.keyspace row.key with
  | none => exact iff_of_false (hrest _) (Store.idempotencyKey?_eq_none_iff.mp hlookup)
  | some r =>
    refine iff_of_true rfl (not_not.mp fun hunused => ?_)
    rw [Store.idempotencyKey?_eq_none_iff.mpr hunused] at hlookup
    cases hlookup

/-- Behind the checks of a call stands the record of its key. -/
theorem ExternalCall.exec_duplicate_iff (h : call.ReachesKey s) :
    call.exec s = .error (duplicateError call.caller) ↔ s.KeyUsed call.keyspace call.key := by
  cases call with
  | completeTask ctx tenant idempotencyKey output =>
    obtain ⟨htenant, hkey, htaskId, hservice, hstatus⟩ := h
    obtain ⟨tenantId, rfl⟩ := Option.isSome_iff_exists.mp htenant
    obtain ⟨taskId, htask⟩ := Option.isSome_iff_exists.mp htaskId
    have hfinal : (output.status == .completed || output.status == .failed) = true := by
      simpa using hstatus
    rw [key_completeTask]
    show completeTaskFromExternal ctx (some tenantId) idempotencyKey output s = _ ↔ _
    unfold completeTaskFromExternal
    dsimp only
    rw [htask, hfinal, bne_iff_ne.mpr hkey, bne_iff_ne.mpr hservice]
    refine recordIdempotencyKey_duplicate_iff fun s₁ herror => ?_
    rcases bind_eq_error.mp herror with hload | ⟨row, -, herror⟩
    · exact absurd (orFail_eq_error hload) (by decide)
    · rcases bind_eq_error.mp herror with hassigned | ⟨_, -, herror⟩
      · exact absurd (ensure_eq_error hassigned) (by decide)
      · rcases bind_eq_error.mp herror with hprogress | ⟨_, -, herror⟩
        · exact absurd (ensure_eq_error hprogress) (by decide)
        · cases herror
  | ingestEvent ctx validate tenant input =>
    obtain ⟨tenantId, caseId, hcheck, hcase⟩ := h
    show ingestExternalEvent ctx validate tenant input s = _ ↔ _
    unfold ingestExternalEvent
    rw [hcheck]
    show ensure _ _ >>= _ = _ ↔ _
    rw [hcase]
    exact recordIdempotencyKey_duplicate_iff fun s₁ herror => by cases herror

theorem ExternalCall.reachesKey_congr (h : s.cases = t.cases) :
    call.ReachesKey s ↔ call.ReachesKey t := by
  cases call with
  | completeTask ctx tenant idempotencyKey output => exact Iff.rfl
  | ingestEvent ctx validate tenant input =>
    unfold ReachesKey
    rw [h]

/-- A key that the other tenant has taken is a duplicate in one run only. -/
theorem SameFor.differs {tenantId : String} {start : Store} (h : SameFor other tenantId start s t)
    (hguard : ¬ Undisturbed start other s call) : (call.run s).1 ≠ (call.run t).1 := by
  obtain ⟨hreach, htaken⟩ := Classical.not_imp.mp hguard
  rw [not_not] at htaken
  have hunused : ¬ t.KeyUsed call.keyspace call.key := by
    rw [h.keys]
    exact fun hused => hused.2 htaken
  have hs := (ExternalCall.exec_duplicate_iff hreach).mpr htaken.used
  have ht := mt (ExternalCall.exec_duplicate_iff
    ((ExternalCall.reachesKey_congr h.cases).mp hreach)).mp hunused
  rw [ExternalCall.run_of_error hs]
  cases hexec : call.exec t with
  | ok t' =>
    rw [ExternalCall.run_of_ok hexec]
    simp
  | error e =>
    rw [ExternalCall.run_of_error hexec]
    intro heq
    rw [hexec, ← Except.error.inj heq] at ht
    exact ht rfl

/-! ## Isolation -/

def isCallOf (tenantId : String) (call : ExternalCall) : Bool := call.tenant == some tenantId

/-- The results of the tenant's calls and its last tasks and events are those of the run without
    the other tenant's calls exactly when no call of the tenant comes to an idempotency key that
    the other tenant has taken since the start. -/
theorem tenants_isolated_iff (other tenantId : String) (hne : other ≠ tenantId) (s : Store)
    (calls : List ExternalCall)
    (hcalls : ∀ call ∈ calls, call.tenant = some other ∨ call.tenant = some tenantId) :
    (results ExternalCall.run (isCallOf tenantId) s calls =
        results ExternalCall.run (isCallOf tenantId) s (calls.filter (isCallOf tenantId)) ∧
      (final ExternalCall.run s calls).tasksOf tenantId =
        (final ExternalCall.run s (calls.filter (isCallOf tenantId))).tasksOf tenantId ∧
      (final ExternalCall.run s calls).eventsOf tenantId =
        (final ExternalCall.run s (calls.filter (isCallOf tenantId))).eventsOf tenantId) ↔
    GuardedCalls ExternalCall.run (isCallOf tenantId) (Undisturbed s other) s calls := by
  have hruns := results_eq_iff ExternalCall.run (isCallOf tenantId) (SameFor other tenantId s)
    (Undisturbed s other) calls ?_ ?_ ?_ (SameFor.refl other tenantId s)
  · obtain ⟨hresults, hfinal⟩ := hruns
    rw [← hresults]
    constructor
    · exact fun h => h.1
    · intro h
      have hlast := hfinal (hresults.mp h)
      exact ⟨h, hlast.tasks, hlast.events⟩
  · intro s t call hcall hhidden hsame
    refine hsame.hidden hne ((hcalls call hcall).resolve_right fun heq => ?_)
    simp [isCallOf, heq] at hhidden
  · intro s t call _ hvisible hsame hguard
    have htenant : call.tenant = some tenantId := by simpa [isCallOf] using hvisible
    generalize hs : call.exec s = x, ht : call.exec t = y, hsame.visible hne htenant hguard = hagrees
    cases hagrees with
    | error e =>
      rw [ExternalCall.run_of_error hs, ExternalCall.run_of_error ht]
      exact ⟨rfl, hsame⟩
    | ok hnext =>
      rw [ExternalCall.run_of_ok hs, ExternalCall.run_of_ok ht]
      exact ⟨rfl, hnext⟩
  · exact fun s t call _ _ hsame hguard => hsame.differs hguard

/-! ### One key for two tenants -/

/-- A task in progress at an external service, for a tenant. -/
def tenantTask (tenantId : String) : Task where
  tenantId := tenantId
  caseId := 0
  taskDefinitionCode := "CREDIT_CHECK"
  activityCode := "CHECKS"
  stageCode := "ASSESSMENT"
  status := .inProgress
  assignedService := some "credit-bureau"
  idempotencyKey := tenantId

/-- A store with a task for each of two tenants. -/
def twoTenants : Store :=
  { tasks := (Table.empty.insert (tenantTask "first")).insert (tenantTask "second") }

def tenantReport (tenantId : String) (taskId : Id) (key : String) : ExternalCall :=
  .completeTask (Ctx.plain 0) (some tenantId) key
    { taskId := some taskId, assignedService := "credit-bureau", status := .completed }

def separateKeys : List ExternalCall :=
  [tenantReport "first" 0 "callback-1", tenantReport "second" 1 "callback-2"]

theorem tenants_isolated_iff_apart :
    results ExternalCall.run (isCallOf "second") twoTenants separateKeys =
        results ExternalCall.run (isCallOf "second") twoTenants
          (separateKeys.filter (isCallOf "second")) ∧
      (final ExternalCall.run twoTenants separateKeys).tasksOf "second" =
        (final ExternalCall.run twoTenants (separateKeys.filter (isCallOf "second"))).tasksOf
          "second" ∧
      (final ExternalCall.run twoTenants separateKeys).eventsOf "second" =
        (final ExternalCall.run twoTenants (separateKeys.filter (isCallOf "second"))).eventsOf
          "second" := by
  refine (tenants_isolated_iff "first" "second" (by decide) twoTenants separateKeys ?_).mpr ?_
  · intro call hcall
    simp only [separateKeys, List.mem_cons, List.not_mem_nil, or_false] at hcall
    rcases hcall with rfl | rfl
    · exact Or.inl rfl
    · exact Or.inr rfl
  · refine ⟨fun hvisible => absurd hvisible (by decide), fun _ _ htaken => ?_, trivial⟩
    have hunused : Store.idempotencyKey? ((tenantReport "first" 0 "callback-1").run twoTenants).2
        .taskCompletion (tenantReport "second" 1 "callback-2").key = none :=
      Option.isNone_iff_eq_none.mp (by decide +kernel)
    exact Store.idempotencyKey?_eq_none_iff.mp hunused htaken.used

/-- The first tenant uses a key; the report of the second tenant with this key is refused, and
    its task stays in progress. -/
theorem key_of_other_tenant_refused : results ExternalCall.run (isCallOf "second") twoTenants
        [tenantReport "first" 0 "callback", tenantReport "second" 1 "callback"] =
      [.error ("CompleteTaskFromExternal: commit duplicate flow: " ++
        "commit unexpectedly resulted in rollback")] ∧
    results ExternalCall.run (isCallOf "second") twoTenants
        [tenantReport "second" 1 "callback"] = [.ok ()] ∧
    ((final ExternalCall.run twoTenants
        [tenantReport "first" 0 "callback", tenantReport "second" 1 "callback"]).tasksOf
      "second").map (fun row => row.2.status) = [.inProgress] := by
  refine ⟨by decide +kernel, by decide +kernel, by decide +kernel⟩

end LoanWorkflow
