import LoanWorkflow.Tenancy.Scope
import Mathlib.Data.Fintype.EquivFin

/-! # Statements that are not filtered

    A statement that says `tenant_id =` anywhere is returned without a filter.
    That is sound when its own condition confines it: whatever the tables
    hold, a row that meets the condition belongs to a tenant that the
    statement's arguments name.

    The atoms of a condition are opaque, apart from tests `tenant_id = $k` on
    a table that the statement names. `tenantPredicate_confines_iff` says
    exactly when skipping the filter is sound: the condition, with the tests
    on a table read as false, must not be met by any row.
-/

namespace LoanWorkflow

open Strings Sql

variable {args refs : List Text} {truth : List Token → Bool} {st : Statement} {r : Text}
  {tenantOf : Text → Text}

/-! ### Tests of a table's tenant -/

/-- The argument that a placeholder stands for, counted from zero. -/
def placeholderIndex : Text → Option Nat
  | '$' :: digits =>
    if digits ≠ [] ∧ digits.all Char.isDigit then
      match digits.foldl (fun n c => 10 * n + (c.toNat - 48)) 0 with
      | 0 => none
      | k + 1 => some k
    else none
  | _ => none

/-- The tables of a statement that have a tenant. `hasTenant` is the schema. -/
def tenantRefs (hasTenant : Text → Bool) (st : Statement) : List Text :=
  (st.tables.filter fun r => hasTenant r.table).map TableRef.name

/-- The table whose tenant a column is. A column without a table's name is
    that of the only table. -/
def tenantColumn (refs : List Text) (column : Text) : Option Text :=
  if toUpper column = "TENANT_ID".toList then
    match refs with
    | [r] => some r
    | _ => none
  else refs.find? fun r => toUpper column = r ++ ".TENANT_ID".toList

/-- `tenant_id = $k`, either way round and with or without a cast: the table
    and the argument. -/
def tenantTest (refs : List Text) : List Token → Option (Text × Nat)
  | .word a :: .op e :: .word b :: cast =>
    if e = "=".toList ∧ (cast = [] ∨ cast.head? = some (.op "::".toList) ∧ cast.length = 2) then
      match tenantColumn refs a, placeholderIndex b with
      | some r, some k => some (r, k)
      | _, _ =>
        match tenantColumn refs b, placeholderIndex a with
        | some r, some k => if cast = [] then some (r, k) else none
        | _, _ => none
    else none
  | _ => none

def isTestOf (refs : List Text) (r : Text) (ts : List Token) : Bool :=
  (tenantTest refs ts).any fun test => test.1 = r

/-! ### Rows that a statement reaches -/

/-- The truth of an atom for a row: `tenantOf` gives the tenant of the row of
    each table, `truth` what every other atom says. -/
def atomTruth (refs : List Text) (args : List Text) (truth : List Token → Bool)
    (tenantOf : Text → Text) (ts : List Token) : Bool :=
  match tenantTest refs ts with
  | some (r, k) => args[k]? = some (tenantOf r)
  | none => truth ts

/-- The row meets the condition. -/
def reaches (st : Statement) (truth : List Token → Bool) : Bool :=
  st.cond.all fun c => c.eval truth

/-- Every row that the statement reads or writes belongs to a tenant that an
    argument names. -/
def Confined (hasTenant : Text → Bool) (args : List Text) (st : Statement) : Prop :=
  ∀ truth tenantOf, reaches st (atomTruth (tenantRefs hasTenant st) args truth tenantOf) = true →
    ∀ r ∈ tenantRefs hasTenant st, tenantOf r ∈ args

/-- With the tests on a table read as false, no row meets the condition. -/
def Pinned (hasTenant : Text → Bool) (args : List Text) (st : Statement) : Prop :=
  ∀ r ∈ tenantRefs hasTenant st, ∀ truth tenantOf,
    reaches st (fun ts => !isTestOf (tenantRefs hasTenant st) r ts &&
      atomTruth (tenantRefs hasTenant st) args truth tenantOf ts) = false

/-- A row of a tenant that no argument names fails every test on its table. -/
theorem atomTruth_of_not_mem (hr : tenantOf r ∉ args) (ts : List Token) :
    (!isTestOf refs r ts && atomTruth refs args truth tenantOf ts) =
      atomTruth refs args truth tenantOf ts := by
  unfold isTestOf atomTruth
  cases tenantTest refs ts with
  | none => rfl
  | some test =>
    obtain ⟨r', k⟩ := test
    by_cases hr' : r' = r
    · subst hr'
      have hnone : args[k]? ≠ some (tenantOf r') := fun h => hr (List.mem_of_getElem? h)
      simp [hnone]
    · simp [hr']

/-- The tests on one table do not read the tenants of the others. -/
theorem atomTruth_update (fresh : Text) (ts : List Token) :
    (!isTestOf refs r ts &&
        atomTruth refs args truth (Function.update tenantOf r fresh) ts) =
      (!isTestOf refs r ts && atomTruth refs args truth tenantOf ts) := by
  unfold isTestOf atomTruth
  cases tenantTest refs ts with
  | none => rfl
  | some test =>
    obtain ⟨r', k⟩ := test
    by_cases hr' : r' = r
    · simp [hr']
    · simp [hr']

theorem confined_iff_pinned (hasTenant : Text → Bool) (args : List Text) (st : Statement) :
    Confined hasTenant args st ↔ Pinned hasTenant args st := by
  constructor
  · intro hconfined r hr truth tenantOf
    -- give the row of the table a tenant that no argument names
    obtain ⟨fresh, hfresh⟩ := Infinite.exists_notMem_finset args.toFinset
    rw [List.mem_toFinset] at hfresh
    have hrow : Function.update tenantOf r fresh r ∉ args := by simpa using hfresh
    by_contra hreaches
    rw [Bool.not_eq_false] at hreaches
    refine hrow (hconfined truth (Function.update tenantOf r fresh) ?_ r hr)
    rw [← hreaches]
    refine congrArg (reaches st) (funext fun ts => ?_)
    rw [← atomTruth_update fresh ts, atomTruth_of_not_mem hrow]
  · intro hpinned truth tenantOf hreaches r hr
    by_contra hrow
    have hfalse := hpinned r hr truth tenantOf
    rw [funext (atomTruth_of_not_mem hrow), hreaches] at hfalse
    exact Bool.noConfusion hfalse

/-- A condition that forces a test on every table confines the statement,
    whatever its other atoms say. -/
theorem pinned_of_forces {hasTenant : Text → Bool} (h : ∀ r ∈ tenantRefs hasTenant st,
      st.cond.any (Cond.forces (isTestOf (tenantRefs hasTenant st) r) true) = true) :
    Pinned hasTenant args st := by
  intro r hr truth tenantOf
  have hforced := h r hr
  cases hcond : st.cond with
  | none => simp [hcond] at hforced
  | some c =>
    rw [hcond] at hforced
    have hne : c.eval (fun ts => !isTestOf (tenantRefs hasTenant st) r ts &&
        atomTruth (tenantRefs hasTenant st) args truth tenantOf ts) ≠ true :=
      Cond.eval_ne_of_forces hforced (fun ts hts => by simp [hts])
    simpa [reaches, hcond] using hne

/-! ### Skipping the filter -/

/-- The statement of a text, which may end with a semicolon. -/
def statementOf (text : Text) : Option Statement :=
  parse (if text.getLast? = some ';' then text.dropLast else text)

theorem ne_nil_of_statementOf {text : Text} (h : statementOf text = some st) : text ≠ [] := by
  rintro rfl
  cases h

/-- For every statement, schema and argument list: the statement, where
    `AssertTenantScope` returns it without a filter, reaches only rows of
    tenants that its arguments name, exactly if its condition, with the tests
    on a table read as false, is met by no row. -/
theorem tenantPredicate_confines_iff (hasTenant : Text → Bool) (enforcement : Text)
    (ctx : TenantContext) (tenant query : Text) (args : List Text) (st : Statement)
    (htenant : tenantFromContext ctx = some tenant)
    (hparse : statementOf (Strings.trimSpace query) = some st) :
    (∀ query' st', assertTenantScope enforcement ctx query args = .ok (query', args) →
        statementOf query' = some st' → Confined hasTenant args st') ↔
      (hasTenantPredicate (Strings.trimSpace query) = true → Pinned hasTenant args st) := by
  have hne := ne_nil_of_statementOf hparse
  rw [← confined_iff_pinned]
  cases hpred : hasTenantPredicate (Strings.trimSpace query) with
  | true =>
    have hscope : assertTenantScope enforcement ctx query args =
        .ok (Strings.trimSpace query, args) := by
      simp [assertTenantScope, htenant, hne, hpred]
    rw [hscope]
    constructor
    · intro h _
      exact h _ st rfl hparse
    · intro h query' st' heq hparse'
      cases heq
      rw [hparse] at hparse'
      cases hparse'
      exact h rfl
  | false =>
    -- with a filter there is one argument more
    have hscope : ∀ query', assertTenantScope enforcement ctx query args ≠ .ok (query', args) := by
      intro query' heq
      simp only [assertTenantScope, htenant, hne, hpred, if_false, Bool.false_eq_true] at heq
      split_ifs at heq <;> simp at heq
    simp [hscope]

def tasksHaveTenants (table : Text) : Bool := table = "TASKS".toList

/-- `SELECT id FROM tasks WHERE tenant_id = $1 AND status = $2`, parsed. -/
def tenantTasks : Statement where
  head := ["SELECT", "id", "FROM", "tasks"].map fun w => .word w.toList
  cond := some (.and (.atom [.word "tenant_id".toList, .op "=".toList, .word "$1".toList])
    (.atom [.word "status".toList, .op "=".toList, .word "$2".toList]))
  clauses := []

theorem tenantPredicate_confines_tenantTasks :
    assertTenantScope [] (fun _ => some "tenant-a".toList)
        "SELECT id FROM tasks WHERE tenant_id = $1 AND status = $2".toList
        ["tenant-a".toList, "PENDING".toList] =
          .ok ("SELECT id FROM tasks WHERE tenant_id = $1 AND status = $2".toList,
            ["tenant-a".toList, "PENDING".toList]) ∧
      Confined tasksHaveTenants ["tenant-a".toList, "PENDING".toList] tenantTasks := by
  have hparse : statementOf "SELECT id FROM tasks WHERE tenant_id = $1 AND status = $2".toList =
      some tenantTasks := by decide +kernel
  have hscope : assertTenantScope [] (fun _ => some "tenant-a".toList)
      "SELECT id FROM tasks WHERE tenant_id = $1 AND status = $2".toList
      ["tenant-a".toList, "PENDING".toList] =
        .ok ("SELECT id FROM tasks WHERE tenant_id = $1 AND status = $2".toList,
          ["tenant-a".toList, "PENDING".toList]) := by decide +kernel
  have hconfines := (tenantPredicate_confines_iff tasksHaveTenants []
    (fun _ => some "tenant-a".toList) "tenant-a".toList
    "SELECT id FROM tasks WHERE tenant_id = $1 AND status = $2".toList
    ["tenant-a".toList, "PENDING".toList] tenantTasks (by decide) (by decide +kernel)).mpr
      fun _ => pinned_of_forces (by decide)
  exact ⟨hscope, hconfines _ _ hscope hparse⟩

/-- `UPDATE tasks SET tenant_id = $1 WHERE task_id = $2`, parsed. -/
def moveTask : Statement where
  head := [.word "UPDATE".toList, .word "tasks".toList, .word "SET".toList,
    .word "tenant_id".toList, .op "=".toList, .word "$1".toList]
  cond := some (.atom [.word "task_id".toList, .op "=".toList, .word "$2".toList])
  clauses := []

/-- An assignment counts as a filter: the statement comes back as it is, and
    reaches a row of a tenant that no argument names. -/
theorem assignment_counts_as_filter :
    assertTenantScope [] (fun _ => some "tenant-a".toList)
        "UPDATE tasks SET tenant_id = $1 WHERE task_id = $2".toList
        ["tenant-a".toList, "t1".toList] =
      .ok ("UPDATE tasks SET tenant_id = $1 WHERE task_id = $2".toList,
        ["tenant-a".toList, "t1".toList]) ∧
      statementOf "UPDATE tasks SET tenant_id = $1 WHERE task_id = $2".toList = some moveTask ∧
      ¬ Confined tasksHaveTenants ["tenant-a".toList, "t1".toList] moveTask := by
  refine ⟨rfl, by decide +kernel, ?_⟩
  intro hconfined
  have hmem := hconfined (fun _ => true) (fun _ => "tenant-b".toList) (by decide) "TASKS".toList
    (by decide)
  exact absurd hmem (by decide)

end LoanWorkflow
