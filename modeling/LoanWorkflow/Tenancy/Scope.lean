import LoanWorkflow.Framework.SqlInsert
import LoanWorkflow.Model.Config

/-! # Tenant scope

    `AssertTenantScope` takes a statement as text and adds the tenant of the
    context to it: a search for clause keywords finds the place, a search for
    ` WHERE ` chooses the word, and the tenant becomes the last argument. A
    statement that already says `tenant_id =` somewhere is left alone.
-/

namespace LoanWorkflow

open Strings

/-! ### The tenant of a context -/

/-- The keys under which a context may carry a tenant, in the order they are tried. -/
inductive TenantKey where
  | tenantContextKey | tenant_id | tenantID | x_tenant_id
deriving DecidableEq

abbrev TenantContext := TenantKey → Option Text

def tenantFromContext (ctx : TenantContext) : Option Text :=
  [TenantKey.tenantContextKey, .tenant_id, .tenantID, .x_tenant_id].findSome? fun key =>
    (ctx key).bind fun v => if Strings.trimSpace v = [] then none else some (Strings.trimSpace v)

/-- `shouldPanicOnMissingTenantScope`, given the value of `TENANT_SCOPE_ENFORCEMENT`. -/
def shouldPanicOnMissingTenantScope (enforcement : Text) : Bool :=
  (Strings.trimSpace enforcement).map Char.toLower = "panic".toList

/-! ### Rewriting the statement -/

def hasTenantPredicate (query : Text) : Bool :=
  contains (toUpper query) "TENANT_ID =".toList || contains (toUpper query) "TENANT_ID=".toList

/-- The keywords before which the filter is inserted. -/
def scopeKeywords : List Text :=
  [" FOR UPDATE", " RETURNING", " ORDER BY", " LIMIT", " GROUP BY"].map String.toList

def insertIdx (query : Text) : Nat := firstIndex scopeKeywords (toUpper query) query.length

/-- `fmt.Sprintf("$%d", n)`. -/
def placeholder (n : Nat) : Text := '$' :: Nat.toDigits 10 n

/-- The cutset of the `TrimRight` before the filter. -/
def isScopeBlank (c : Char) : Bool := c == ' ' || c == '\n' || c == '\t' || c == '\r'

def hasWhere (head : Text) : Bool := contains (toUpper head) " WHERE ".toList

def tenantFilter (hasWhere : Bool) (n : Nat) : Text :=
  (if hasWhere then " AND tenant_id = " else " WHERE tenant_id = ").toList ++ placeholder n

/-- The statement, without its semicolon, with the filter for argument `n`. -/
def addTenantFilter (query : Text) (n : Nat) : Text :=
  let head := trimRight isScopeBlank (query.take (insertIdx query))
  let tail := query.drop (insertIdx query)
  head ++ tenantFilter (hasWhere head) n ++ tail

def assertTenantScope (enforcement : Text) (ctx : TenantContext) (query : Text)
    (args : List Text) : Except Err (Text × List Text) :=
  match tenantFromContext ctx with
  | none =>
    if shouldPanicOnMissingTenantScope enforcement then .error "tenant scope missing from context"
    else .error "AssertTenantScope: tenant not found"
  | some tenantID =>
    let scopedQuery := Strings.trimSpace query
    if scopedQuery = [] then .error "AssertTenantScope: query is empty"
    else if hasTenantPredicate scopedQuery then .ok (scopedQuery, args)
    else if scopedQuery.getLast? = some ';' then
      .ok (addTenantFilter scopedQuery.dropLast (args.length + 1) ++ [';'], args ++ [tenantID])
    else .ok (addTenantFilter scopedQuery (args.length + 1), args ++ [tenantID])

/-! ### Statements of the grammar -/

open Sql

variable {st : Statement} {query : Text}

theorem lex_trimSpace (query : Text) : lex (Strings.trimSpace query) = lex query := by
  obtain ⟨ws, ws', heq, hws, hws'⟩ := Strings.trimSpace_append query
  conv_rhs => rw [heq, lex_append_spaces hws', lex_spaces_append hws]

theorem parse_trimSpace (query : Text) : parse (Strings.trimSpace query) = parse query := by
  simp only [parse, lex_trimSpace]

/-- A statement of the grammar is not empty. -/
theorem ne_nil_of_parse (h : parse query = some st) :
    query ≠ [] := by
  rintro rfl
  cases h

/-- A statement of the grammar has no semicolon at its end. -/
theorem getLast?_of_parse (h : parse query = some st) :
    query.getLast? ≠ some ';' := by
  intro hlast
  obtain ⟨front, rfl⟩ := List.getLast?_eq_some_iff.mp hlast
  obtain ⟨ts, hlex, hts⟩ := Option.bind_eq_some_iff.mp h
  have hmem : Token.punct ';' ∈ ts := by
    rw [lex_append_eq] at hlex
    change ((scan front).read ';').finish = some ts at hlex
    have hclass : classify ';' = .punct := by decide
    have hproper := scan_proper front
    unfold Scan.read Scan.start at hlex
    rw [hclass] at hlex
    cases hm : (scan front).mode with
    | quotation q acc =>
      -- a semicolon does not close a quotation
      rw [hm] at hlex hproper
      have hq : ';' ≠ q := by
        rintro rfl
        exact absurd (show isQuote ';' = true from hproper) (by decide)
      simp [hq, Scan.finish] at hlex
    | _ =>
      rw [hm] at hlex
      simp only [Scan.finish, Option.some.injEq] at hlex
      rw [← hlex]
      simp
  unfold parseTokens at hts
  split_ifs at hts with hall
  have := List.all_eq_true.mp hall _ hmem
  exact absurd this (by decide)

/-- What `AssertTenantScope` returns for a statement of the grammar. -/
theorem assertTenantScope_of_parse {enforcement : Text} {ctx : TenantContext} {tenant : Text}
    {args : List Text} (htenant : tenantFromContext ctx = some tenant)
    (hparse : parse query = some st) :
    assertTenantScope enforcement ctx query args =
      if hasTenantPredicate (Strings.trimSpace query) then .ok (Strings.trimSpace query, args)
      else .ok (addTenantFilter (Strings.trimSpace query) (args.length + 1), args ++ [tenant]) := by
  rw [← parse_trimSpace] at hparse
  simp only [assertTenantScope, htenant, ne_nil_of_parse hparse, getLast?_of_parse hparse, if_false]

end LoanWorkflow
