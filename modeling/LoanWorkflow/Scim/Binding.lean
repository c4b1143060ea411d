import LoanWorkflow.Model.Store
import LoanWorkflow.Scim.RoundTrip
import LoanWorkflow.Scim.Sql

/-! # Arguments and placeholders of SCIM queries

    What the SQL of a filter should be, said without the shared list of
    arguments: `template` is the clause with its numbers, `bindings` are the
    arguments, both by recursion over the tree. The code computes them, so the
    placeholders are numbered from left to right, and no text of a value gets
    into a clause.

    - `scim_queries_well_bound`
-/

namespace LoanWorkflow

open List SqlTemplate

variable {text : List Char} {t : List Piece} {texts : ListingText} {k n : Nat}
variable {d : FilterAttrDef} {req : ListRequest} {node : SCIMFilterNode}
  {resource : SCIMResourceType} {keyword : String}

/-! ## What the SQL should be -/

def wildcard (op : CompareOp) (text : List Char) : List Char :=
  match op with
  | .co => '%' :: (text ++ ['%'])
  | .sw => text ++ ['%']
  | .ew => '%' :: text
  | _ => text

/-- The argument of a comparison: the trimmed text of its value, in lower case or with wildcards
    as the attribute and the operator want it. -/
def comparisonArg (lib : ScimLibrary) (d : FilterAttrDef) (op : CompareOp)
    (value : Option FilterValue) : List Char :=
  match d.kind with
  | .string => wildcard op (anyToString lib (lowerValue lib.toUnicode d.lower value))
  | .members => wildcard op (anyToString lib value)
  | _ => anyToString lib value

/-- Presence tests and tests of `active` bind no argument. -/
def binds (d : FilterAttrDef) (op : CompareOp) : Bool :=
  decide (op ≠ .pr) && decide (d.kind ≠ .active)

/-- The arguments of a filter, from left to right. -/
def SCIMFilterNode.bindings (lib : ScimLibrary) (resource : SCIMResourceType) :
    SCIMFilterNode → List (List Char)
  | .comparison attr op value =>
    match scimFilterAttribute lib.toUnicode resource (lib.lower (trimRunes attr)) with
    | some d => if binds d op then [comparisonArg lib d op value] else []
    | none => []
  | .logical _ left right => left.bindings lib resource ++ right.bindings lib resource
  | .not operand => operand.bindings lib resource

/-- The predicate on a column, up to the placeholder and behind it. -/
def predicateText (expr : String) (op : CompareOp) (lower : Bool) : String × String :=
  match comparisonOperator op with
  | some sqlOp =>
    if lower then ("(" ++ expr ++ " " ++ sqlOp ++ " LOWER(", "))")
    else ("(" ++ expr ++ " " ++ sqlOp ++ " ", ")")
  | none => ("(" ++ expr ++ " ILIKE ", ")")

/-- A comparison, up to the placeholder and behind it; one that binds nothing has no second
    part. -/
def comparisonText (d : FilterAttrDef) (op : CompareOp) (value : Option FilterValue) :
    String × String :=
  match d.kind, op with
  | .members, .pr => ("EXISTS (" ++ membersBase ++ ")", "")
  | .members, .ne =>
    let (before, after) := predicateText "tmf.user_id::text" .eq false
    ("NOT (EXISTS (" ++ membersBase ++ " AND " ++ before, after ++ "))")
  | .members, op =>
    let (before, after) := predicateText "tmf.user_id::text" op false
    ("EXISTS (" ++ membersBase ++ " AND " ++ before, after ++ ")")
  | .active, .pr => ("(u.status IS NOT NULL)", "")
  | .active, op =>
    if some (.bool (decide (op = .eq))) = value then ("(u.status = 'ACTIVE')", "")
    else ("(u.status <> 'ACTIVE')", "")
  | _, .pr => ("(" ++ d.expr ++ " IS NOT NULL)", "")
  | .time, op =>
    ("(" ++ d.expr ++ " " ++ (comparisonOperator op).getD "" ++ " ", "::timestamptz)")
  | .string, op => predicateText d.expr op d.lower

/-- The clause of a comparison whose argument has a number. -/
def comparisonTemplate (d : FilterAttrDef) (op : CompareOp) (value : Option FilterValue)
    (n : Nat) : List Piece :=
  let text := comparisonText d op value
  if binds d op then lit text.1.toList ++ .arg n :: lit text.2.toList else lit text.1.toList

/-- The clause of a filter whose arguments are numbered from `n` on. -/
def SCIMFilterNode.template (lib : ScimLibrary) (resource : SCIMResourceType) :
    SCIMFilterNode → Nat → List Piece
  | .comparison attr op value, n =>
    match scimFilterAttribute lib.toUnicode resource (lib.lower (trimRunes attr)) with
    | some d => comparisonTemplate d op value n
    | none => []
  | .logical op left right, n =>
    lit "(".toList ++ left.template lib resource n ++ lit (" " ++ op.sql ++ " ").toList ++
      right.template lib resource (n + (left.bindings lib resource).length) ++ lit ")".toList
  | .not operand, n => lit "(NOT (".toList ++ operand.template lib resource n ++ lit "))".toList

/-! ## The code computes it -/

section Spec

variable {lib : ScimLibrary} {op : CompareOp} {value : Option FilterValue}
  {args args' : List (List Char)} {clause : List Char}

theorem buildSimplePredicate_spec {expr : String} {lower : Bool}
    (h : buildSimplePredicate expr op text lower args = .ok (clause, args')) :
    op ≠ .pr ∧ (clause, args') = ((predicateText expr op lower).1.toList ++
      placeholder (args.length + 1) ++ (predicateText expr op lower).2.toList,
      args ++ [wildcard op text]) := by
  cases op <;> cases lower <;>
    simp [buildSimplePredicate, nextArg, comparisonOperator, predicateText, wildcard] at h ⊢ <;>
    simp [← h.1, ← h.2]

/-- What a builder for one comparison returns. -/
def Builds (lib : ScimLibrary) (d : FilterAttrDef) (op : CompareOp) (value : Option FilterValue)
    (args : List (List Char)) (clause : List Char) (args' : List (List Char)) : Prop :=
  clause = render (comparisonTemplate d op value (args.length + 1)) ∧
    args' = args ++ if binds d op then [comparisonArg lib d op value] else []

/-- A comparison that binds its argument. -/
theorem Builds.of_bound (hbinds : binds d op = true)
    (hclause : clause = (comparisonText d op value).1.toList ++ placeholder (args.length + 1) ++
      (comparisonText d op value).2.toList)
    (hargs : args' = args ++ [comparisonArg lib d op value]) :
    Builds lib d op value args clause args' := by
  refine ⟨?_, by rw [if_pos hbinds, hargs]⟩
  rw [hclause, comparisonTemplate, if_pos hbinds]
  simp

/-- A comparison that binds nothing. -/
theorem Builds.of_free (hbinds : binds d op = false)
    (hclause : clause = (comparisonText d op value).1.toList) (hargs : args' = args) :
    Builds lib d op value args clause args' := by
  have hnot : ¬ binds d op = true := by simp [hbinds]
  refine ⟨?_, by rw [if_neg hnot, append_nil, hargs]⟩
  rw [hclause, comparisonTemplate, if_neg hnot, render_lit]

theorem buildActiveClause_spec (hkind : d.kind = .active)
    (h : buildActiveClause op value args = .ok (clause, args')) :
    Builds lib d op value args clause args' := by
  have hbinds : binds d op = false := by simp [binds, hkind]
  -- the status is compared for `eq` and `ne` with a truth value only
  have hstatus : ∀ b : Bool, op ≠ .pr → value = some (.bool b) →
      (if decide (op = .eq) == b then
        Except.ok ("(u.status = 'ACTIVE')".toList, args)
      else .ok ("(u.status <> 'ACTIVE')".toList, args)) = (Except.ok (clause, args') : Except Err _) →
      Builds lib d op value args clause args' := by
    intro b hpr hvalue hclause
    subst hvalue
    have htext : comparisonText d op (some (.bool b)) =
        if decide (op = .eq) == b then ("(u.status = 'ACTIVE')", "")
        else ("(u.status <> 'ACTIVE')", "") := by
      cases op <;> cases b <;> simp_all [comparisonText]
    split at hclause
    · next hb =>
      cases hclause
      exact .of_free hbinds (by rw [htext, if_pos hb]) rfl
    · next hb =>
      cases hclause
      exact .of_free hbinds (by rw [htext, if_neg hb]) rfl
  cases op with
  | pr =>
    cases h
    exact .of_free hbinds (by simp [comparisonText, hkind]) rfl
  | eq | ne =>
    cases value with
    | none => cases h
    | some v =>
      cases v with
      | bool b => exact hstatus b (by decide) rfl h
      | str | num => cases h
  | _ => cases h

theorem buildTimeClause_spec (hkind : d.kind = .time)
    (h : buildTimeClause lib d.expr op value args = .ok (clause, args')) :
    Builds lib d op value args clause args' := by
  unfold buildTimeClause at h
  split at h
  · next hpr =>
    cases h
    subst hpr
    exact .of_free (by simp [binds]) (by simp [comparisonText, hkind]) rfl
  · next hpr =>
    have hbinds : binds d op = true := by simp [binds, hkind, hpr]
    simp only [nextArg] at h
    split at h
    · cases h
    split at h
    · cases h
    split at h
    · cases h
    · next sqlOp hop =>
      cases h
      refine .of_bound hbinds ?_ (by simp [comparisonArg, hkind])
      cases op <;> simp_all [comparisonText]

theorem buildStringOrNumericClause_spec (hkind : d.kind = .string)
    (h : buildStringOrNumericClause lib d.expr op value d.lower args = .ok (clause, args')) :
    Builds lib d op value args clause args' := by
  unfold buildStringOrNumericClause at h
  split at h
  · next hpr =>
    cases h
    subst hpr
    exact .of_free (by simp [binds]) (by simp [comparisonText, hkind]) rfl
  · next hpr =>
    have hbinds : binds d op = true := by simp [binds, hkind, hpr]
    simp only at h
    split at h
    · cases h
    · obtain ⟨-, heq⟩ := buildSimplePredicate_spec h
      cases heq
      refine .of_bound hbinds ?_ (by simp [comparisonArg, hkind])
      cases op <;> simp_all [comparisonText]

theorem buildMembersClause_spec (hkind : d.kind = .members)
    (h : buildMembersClause lib op value args = .ok (clause, args')) :
    Builds lib d op value args clause args' := by
  unfold buildMembersClause at h
  split at h
  · cases h
    exact .of_free (by simp [binds]) (by simp [comparisonText, hkind]) rfl
  · next hpr =>
    have hbinds : binds d op = true := by
      have hnot : op ≠ .pr := hpr
      simp [binds, hkind, hnot]
    simp only at h
    split at h
    · cases h
    · obtain ⟨⟨predicate, args₁⟩, hpredicate, hrest⟩ := bind_ok h
      obtain ⟨-, heq⟩ := buildSimplePredicate_spec hpredicate
      cases heq
      by_cases hne : op = .ne
      · subst hne
        cases hrest
        refine .of_bound hbinds ?_ (by simp [comparisonArg, hkind, wildcard])
        simp [comparisonText, hkind]
      · simp only [if_neg hne] at hrest
        cases hrest
        refine .of_bound hbinds ?_ (by simp [comparisonArg, hkind])
        cases op <;> simp_all [comparisonText]

/-- One spec for all kinds of attributes. -/
theorem comparisonSQL_spec {attr : List Char}
    (h : comparisonSQL lib resource attr op value args = .ok (clause, args')) :
    ∃ d, scimFilterAttribute lib.toUnicode resource (lib.lower (trimRunes attr)) = some d ∧
      Builds lib d op value args clause args' := by
  unfold comparisonSQL at h
  simp only at h
  split at h
  · cases h
  · next d hd =>
    refine ⟨d, hd, ?_⟩
    split at h
    · next hkind => exact buildMembersClause_spec hkind h
    · next hkind => exact buildActiveClause_spec hkind h
    · next hkind => exact buildTimeClause_spec hkind h
    · next hkind => exact buildStringOrNumericClause_spec hkind h

/-- The code writes the template of a filter and adds the bindings to the arguments. -/
theorem clause_spec (h : node.clause lib resource args = .ok (clause, args')) :
    clause = render (node.template lib resource (args.length + 1)) ∧
      args' = args ++ node.bindings lib resource := by
  induction node generalizing args args' clause with
  | comparison attr op value =>
    obtain ⟨d, hd, hclause, hargs⟩ := comparisonSQL_spec h
    simp only [SCIMFilterNode.template, SCIMFilterNode.bindings, hd]
    exact ⟨hclause, hargs⟩
  | logical op left right ihleft ihright =>
    obtain ⟨⟨l, args₁⟩, hl, hrest⟩ := bind_ok h
    obtain ⟨⟨r, args₂⟩, hr, hresult⟩ := bind_ok hrest
    obtain ⟨hlclause, hlargs⟩ := ihleft hl
    obtain ⟨hrclause, hrargs⟩ := ihright hr
    -- the right operand goes on with the numbers where the left one stopped
    have hlength : args₁.length + 1 = args.length + 1 + (left.bindings lib resource).length := by
      rw [hlargs, length_append]
      omega
    rw [hlength] at hrclause
    cases hresult
    refine ⟨?_, ?_⟩
    · simp only [SCIMFilterNode.template, render_append, render_lit, ← hlclause, ← hrclause]
    · rw [hrargs, hlargs, append_assoc]
      rfl
  | not operand ih =>
    obtain ⟨⟨inner, args₁⟩, hinner, hresult⟩ := bind_ok h
    obtain ⟨hclause, hargs⟩ := ih hinner
    cases hresult
    refine ⟨?_, hargs⟩
    simp only [SCIMFilterNode.template, render_append, render_lit, ← hclause]

end Spec

/-! ## Numbers of a template -/

section Template

variable {lib : ScimLibrary}

/-- A text without `$`, and with no digit at its front. -/
def plain (text : List Char) : Bool :=
  text.all (· ≠ '$') && !(text.head?.any Char.isDigit)

theorem clear_of_plain (h : plain text = true) : Clear (lit text) := by
  simp only [plain, Bool.and_eq_true] at h
  apply clear_lit
  intro c hc
  simpa using all_eq_true.mp h.1 c hc

theorem noDigit_of_plain (h : plain text = true) : NoDigit (lit text) := by
  simp only [plain, Bool.and_eq_true, Bool.not_eq_true'] at h
  intro c hc
  cases text with
  | nil => cases hc
  | cons d text =>
    cases hc
    exact h.2

theorem plain_append {s t : String} (hs : plain s.toList = true) (ht : plain t.toList = true) :
    plain (s ++ t).toList = true := by
  simp only [plain, Bool.and_eq_true, String.toList_append, all_append] at *
  refine ⟨⟨hs.1, ht.1⟩, ?_⟩
  -- the front is that of the first text, or of the second one if the first is empty
  cases hchars : s.toList with
  | nil => exact ht.2
  | cons c rest =>
    rw [hchars] at hs
    exact hs.2

theorem mem_of_lookup_eq_some {α : Type*} {entries : List (String × α)} {name : String} {x : α}
    (h : entries.lookup name = some x) : x ∈ entries.map Prod.snd := by
  induction entries with
  | nil => cases h
  | cons e entries ih =>
    rw [lookup_cons] at h
    split at h
    · cases h
      exact mem_cons_self
    · exact mem_cons_of_mem _ (ih h)

/-- The texts around the placeholder of a comparison are plain. -/
theorem plain_comparisonText (hd : d ∈ (filterAttributes resource).map Prod.snd) (op : CompareOp)
    (value : Option FilterValue) :
    plain (comparisonText d op value).1.toList = true ∧
      plain (comparisonText d op value).2.toList = true := by
  have hexpr : '$' ∉ d.expr.toList := by
    have htable : ∀ r ∈ [SCIMResourceType.user, .group], ∀ d ∈ (filterAttributes r).map Prod.snd,
        '$' ∉ d.expr.toList := by
      decide +kernel
    exact htable resource (by cases resource <;> decide) d hd
  have hbase : '$' ∉ membersBase.toList := by
    unfold membersBase
    rw [String.toList_ofList]
    decide +kernel
  cases hkind : d.kind <;> cases op <;>
    simp only [comparisonText, hkind, predicateText, comparisonOperator] <;> repeat' split
  all_goals simp [plain, forall_mem_ne', hexpr, hbase]

/-- A clause that can be read back, with its `k` numbers in a row from `n` on. -/
structure Numbered (n k : Nat) (t : List Piece) : Prop where
  clear : Clear t
  noDigit : NoDigit t
  args : args t = List.range' n k

/-- One clause behind the other. -/
theorem Numbered.append {m : Nat} {s : List Piece} (hs : Numbered n k s)
    (ht : Numbered (n + k) m t) : Numbered n (k + m) (s ++ t) where
  clear := clear_append hs.clear ht.clear ht.noDigit
  noDigit := by
    intro c hc
    cases s with
    | nil => exact ht.noDigit c hc
    | cons piece s => exact hs.noDigit c hc
  args := by
    rw [args_append, hs.args, ht.args, List.range'_append_1]

theorem numbered_lit (n : Nat) (h : plain text = true) :
    Numbered n 0 (lit text) where
  clear := clear_of_plain h
  noDigit := noDigit_of_plain h
  args := args_lit text

theorem numbered_arg (n : Nat) : Numbered n 1 [.arg n] where
  clear := by
    refine ⟨?_, trivial⟩
    intro c hc
    cases hc
  noDigit := by
    intro c hc
    cases hc
  args := rfl

theorem numbered_comparison (hd : d ∈ (filterAttributes resource).map Prod.snd) (op : CompareOp)
    (value : Option FilterValue) (n : Nat) :
    Numbered n (if binds d op then 1 else 0) (comparisonTemplate d op value n) := by
  obtain ⟨hbefore, hafter⟩ := plain_comparisonText hd op value
  unfold comparisonTemplate
  by_cases hbinds : binds d op = true
  · simp only [if_pos hbinds]
    exact (numbered_lit n hbefore).append
      ((numbered_arg n).append (numbered_lit (n + 1) hafter))
  · simp only [if_neg hbinds]
    exact numbered_lit n hbefore

theorem template_numbered (lib : ScimLibrary) (resource : SCIMResourceType) (node : SCIMFilterNode)
    (n : Nat) : Numbered n (node.bindings lib resource).length (node.template lib resource n) := by
  induction node generalizing n with
  | comparison attr op value =>
    unfold SCIMFilterNode.bindings SCIMFilterNode.template
    cases hd : scimFilterAttribute lib.toUnicode resource (lib.lower (trimRunes attr)) with
    | none => exact numbered_lit n (rfl : plain [] = true)
    | some d =>
      have hcomparison := numbered_comparison (mem_of_lookup_eq_some hd) op value n
      by_cases hbinds : binds d op = true
      · simpa [hbinds] using hcomparison
      · simpa [hbinds] using hcomparison
  | logical op left right ihleft ihright =>
    have hop : plain (" " ++ op.sql ++ " ").toList = true := by
      cases op <;> decide +kernel
    have hopen : Numbered n 0 (lit "(".toList) := numbered_lit n (by decide +kernel)
    have hclose : plain ")".toList = true := by decide +kernel
    have hall := (((hopen.append (ihleft n)).append (numbered_lit _ hop)).append
      (ihright _)).append (numbered_lit _ hclose)
    simpa [SCIMFilterNode.bindings, SCIMFilterNode.template] using hall
  | not operand ih =>
    have hopen : Numbered n 0 (lit "(NOT (".toList) := numbered_lit n (by decide +kernel)
    have hclose : plain "))".toList = true := by decide +kernel
    have hall := (hopen.append (ih n)).append (numbered_lit _ hclose)
    simpa [SCIMFilterNode.bindings, SCIMFilterNode.template] using hall

/-- Another start of the numbers. -/
theorem Numbered.renumber (h : Numbered n k t) (offset : Nat) :
    Numbered (n + offset) k (renumber offset t) where
  clear := clear_renumber h.clear offset
  noDigit := by
    intro c hc
    cases t with
    | nil => cases hc
    | cons piece t =>
      cases piece with
      | char d =>
        cases hc
        exact h.noDigit c rfl
      | arg m => cases hc
  args := by
    rw [args_renumber, h.args, Nat.add_comm n offset, ← map_add_range']
    simp only [Nat.add_comm]

theorem Numbered.numbers (h : Numbered n k t) : numbers (render t) = List.range' n k := by
  rw [numbers_render h.clear, h.args]

/-- The shift of a clause in which all numbers can be read. -/
theorem shiftPlaceholders_render (h : Numbered 1 k t)
    (hk : k + 1 < 2 ^ 63) (htext : trimRunes (render t) ≠ []) :
    shiftPlaceholders (render t) 1 = render (renumber 1 t) := by
  unfold shiftPlaceholders
  rw [if_neg (by simp [htext]), find_render h.clear, flatMap_map]
  unfold render SqlTemplate.renumber
  rw [flatMap_map]
  refine flatMap_congr fun piece hpiece => ?_
  cases piece with
  | char c => rfl
  | arg n =>
    have hn : n ∈ SqlTemplate.args t := mem_filterMap.mpr ⟨.arg n, hpiece, rfl⟩
    rw [h.args, mem_range'_1] at hn
    simp only [Piece.found, shiftMatch, Nat.ofDigitChars_ten_toDigits]
    rw [if_neg (by omega), if_pos (by omega)]
    rfl

end Template

/-! ## Size of a filter -/

/-- The number of nodes. -/
def SCIMFilterNode.size : SCIMFilterNode → Nat
  | .comparison _ _ _ => 1
  | .logical _ left right => left.size + right.size + 1
  | .not operand => operand.size + 1

theorem bindings_length_le (lib : ScimLibrary) (resource : SCIMResourceType)
    (node : SCIMFilterNode) : (node.bindings lib resource).length ≤ node.size := by
  induction node with
  | comparison attr op value =>
    unfold SCIMFilterNode.bindings SCIMFilterNode.size
    split
    · split <;> simp
    · simp
  | logical op left right ihleft ihright =>
    simp only [SCIMFilterNode.bindings, SCIMFilterNode.size, length_append]
    omega
  | not operand ih => exact Nat.le_succ_of_le ih

namespace FilterParser

/-- The parser counts the nodes of what it returns. -/
def Counts (p : FilterParser) (node : SCIMFilterNode) (p' : FilterParser) : Prop :=
  p'.nodeCount = p.nodeCount + node.size

theorem keyword?_nodeCount {p p' : FilterParser}
    (h : keyword? keyword p = some p') : p'.nodeCount = p.nodeCount := by
  unfold keyword? at h
  split at h
  · split at h
    · cases h
      rfl
    · cases h
  · cases h

variable {u : Unicode} {expr : Parsing.Parser Err FilterParser SCIMFilterNode} {p p' : FilterParser}

theorem parseComparison_counts (h : parseComparison u p = .ok (node, p')) : p.Counts node p' := by
  unfold parseComparison at h
  -- every way to succeed makes one node
  have hnew : ∀ {attr op value q}, newNode (.comparison attr op value) q = .ok (node, p') →
      q.nodeCount = p.nodeCount → p.Counts node p' := by
    intro attr op value q hq hcount
    cases hq
    show q.nodeCount + 1 = p.nodeCount + 1
    rw [hcount]
  split at h
  · split at h
    · cases h
    · dsimp only at h
      split at h
      · split at h
        · cases h
        · exact hnew h rfl
        · split at h
          · exact hnew h rfl
          · exact hnew h rfl
          · split at h
            · exact hnew h rfl
            · cases h
          · exact hnew h rfl
          · cases h
      · cases h
  · cases h

theorem parsePrimary_counts (hexpr : ∀ p node p', expr p = .ok (node, p') → p.Counts node p')
    (h : parsePrimary u expr p = .ok (node, p')) : p.Counts node p' := by
  unfold parsePrimary at h
  split at h
  · obtain ⟨⟨inner, q⟩, hinner, hclose⟩ := bind_ok h
    have hcount := hexpr _ _ _ hinner
    dsimp only at hclose
    split at hclose
    · cases hclose
      exact hcount
    · cases hclose
  · exact parseComparison_counts h

theorem parseNots_counts (hexpr : ∀ p node p', expr p = .ok (node, p') → p.Counts node p')
    (fuel : Nat) (h : parseNots u expr fuel p = .ok (node, p')) : p.Counts node p' := by
  induction fuel generalizing p node p' with
  | zero => exact parsePrimary_counts hexpr h
  | succ fuel ih =>
    unfold parseNots at h
    split at h
    · next q hq =>
      obtain ⟨⟨operand, q'⟩, hoperand, hnew⟩ := bind_ok h
      have hcount := ih hoperand
      cases hnew
      unfold Counts at *
      show q'.nodeCount + 1 = p.nodeCount + (operand.size + 1)
      rw [hcount, keyword?_nodeCount hq]
      omega
    · exact parsePrimary_counts hexpr h

/-- One argument for both chains. -/
theorem chain_counts {operand : Parsing.Parser Err FilterParser SCIMFilterNode} {op : LogicalOp}
    {fuel : Nat} (hoperand : ∀ p node p', operand p = .ok (node, p') → p.Counts node p')
    (h : Parsing.chain operand (keyword? keyword)
      (fun left right => newNode (.logical op left right)) fuel p = .ok (node, p')) :
    p.Counts node p' := by
  apply Parsing.chain_rule hoperand _ h
  intro s left s₁ s₂ right s₃ value s₄ hleft hkeyword hright hnew
  cases hnew
  unfold Counts at *
  show s₃.nodeCount + 1 = s.nodeCount + (left.size + right.size + 1)
  rw [hright, keyword?_nodeCount hkeyword, hleft]
  omega

theorem parseExpression_counts (depth : Nat) (h : parseExpression u depth p = .ok (node, p')) :
    p.Counts node p' := by
  induction depth generalizing p node p' with
  | zero => cases h
  | succ depth ih =>
    apply chain_counts _ h
    intro p node p' hand
    apply chain_counts _ hand
    intro p node p' hunary
    exact parseNots_counts (fun _ _ _ => ih) _ hunary

end FilterParser

/-- A parsed filter has at most fifty nodes. -/
theorem size_of_parseSCIMFilter {u : Unicode} {expression : List Char}
    (h : parseSCIMFilter u expression = .ok node) : node.size ≤ 50 := by
  unfold parseSCIMFilter at h
  dsimp only at h
  split at h
  · cases h
  split at h
  · cases h
  split at h
  · cases h
  · next root p hparse =>
    have hcount := FilterParser.parseExpression_counts _ hparse
    unfold FilterParser.Counts at hcount
    split at h
    · cases h
    split at h
    · cases h
    · cases h
      omega

/-! ## Listings -/

section Listing

variable {lib : ScimLibrary}

theorem trimRunes_ne_nil {c : Char} (hc : c ∈ text) (hspace : isSpace c = false) :
    trimRunes text ≠ [] := by
  have hnot : c ∉ text.takeWhile isSpace := by
    intro hmem
    rw [mem_takeWhile_imp hmem] at hspace
    cases hspace
  have hkept : c ∈ text.dropWhile isSpace := by
    rw [← takeWhile_append_dropWhile (p := isSpace) (l := text)] at hc
    exact (mem_append.mp hc).resolve_left hnot
  intro hnil
  have hall := dropWhile_eq_nil_iff.mp (reverse_eq_nil_iff.mp hnil) c (mem_reverse.mpr hkept)
  rw [hspace] at hall
  cases hall

theorem mem_comparisonText (d : FilterAttrDef) (op : CompareOp) (value : Option FilterValue) :
    '(' ∈ (comparisonText d op value).1.toList := by
  unfold comparisonText predicateText
  split
  all_goals repeat' split
  all_goals simp

theorem mem_clause {args args' : List (List Char)} {clause : List Char}
    (h : node.clause lib resource args = .ok (clause, args')) : '(' ∈ clause := by
  cases node with
  | comparison attr op value =>
    obtain ⟨d, -, hclause, -⟩ := comparisonSQL_spec h
    have htext := mem_comparisonText d op value
    rw [hclause, comparisonTemplate]
    split
    · rw [render_append, render_lit]
      exact mem_append_left _ htext
    · rwa [render_lit]
  | logical op left right =>
    obtain ⟨l, -, hrest⟩ := bind_ok h
    obtain ⟨r, -, hresult⟩ := bind_ok hrest
    cases hresult
    simp
  | not operand =>
    obtain ⟨inner, -, hresult⟩ := bind_ok h
    cases hresult
    simp

theorem trimRunes_clause {args args' : List (List Char)} {clause : List Char}
    (h : node.clause lib resource args = .ok (clause, args')) : trimRunes clause ≠ [] :=
  trimRunes_ne_nil (mem_clause h) (by decide)

/-- The parts of a listing's query outside of the condition. -/
structure ListingText.Plain (texts : ListingText) : Prop where
  tenantColumn : plain texts.tenantColumn.toList = true
  head : plain texts.head.toList = true
  middle : plain texts.middle.toList = true
  sort : ∀ u sortBy sortOrder, plain (sortClause u texts sortBy sortOrder) = true

/-- The order is one of a fixed list of texts. -/
theorem plain_sortClause (hcolumns : ∀ column ∈ texts.sortColumns.map Prod.snd,
      plain column.1.toList = true ∧ plain column.2.toList = true)
    (hdefault : plain texts.defaultSort.toList = true) (u : Unicode)
    (sortBy sortOrder : List Char) : plain (sortClause u texts sortBy sortOrder) = true := by
  unfold sortClause
  split
  · next column rest hcolumn =>
    obtain ⟨hfront, hrest⟩ := hcolumns _ (mem_of_lookup_eq_some hcolumn)
    apply plain_append (plain_append hfront _) hrest
    split <;> decide +kernel
  · exact hdefault

theorem plain_userListing : userListing.Plain where
  tenantColumn := by decide +kernel
  head := by
    unfold userListing
    rw [String.toList_ofList]
    decide +kernel
  middle := by
    unfold userListing
    rw [String.toList_ofList]
    decide +kernel
  sort := plain_sortClause (by decide +kernel) (by decide +kernel)

theorem plain_groupListing : groupListing.Plain where
  tenantColumn := by decide +kernel
  head := by
    unfold groupListing
    rw [String.toList_ofList]
    decide +kernel
  middle := by
    unfold groupListing
    rw [String.toList_ofList]
    decide +kernel
  sort := plain_sortClause (by decide +kernel) (by decide +kernel)

/-- What the filter of a listing adds to its query: nothing if it is blank, or its clause with
    the numbers moved up by one, and the arguments of the clause. -/
inductive FilterPart (lib : ScimLibrary) (resource : SCIMResourceType) (filterExpr : List Char) :
    List Char → List (List Char) → Prop where
  | blank (h : trimRunes filterExpr = []) : FilterPart lib resource filterExpr [] []
  | clause {root : SCIMFilterNode} {clause : List Char} {args : List (List Char)}
      (hparse : parseSCIMFilter lib.toUnicode filterExpr = .ok root)
      (hsql : root.toSQL lib resource = .ok (clause, args)) :
      FilterPart lib resource filterExpr (" AND ".toList ++ shiftPlaceholders clause 1) args

/-- The tenant, the arguments of the filter, the limit and the offset are arguments of the query
    in this order, and the placeholders in its text have their numbers. -/
def ListingBound (lib : ScimLibrary) (texts : ListingText) (req : ListRequest)
    (query : List Char) (args : List SqlArg) : Prop :=
  ∃ filterText filterArgs,
    FilterPart lib texts.resource req.filterExpr filterText filterArgs ∧
      query = texts.head.toList ++ texts.tenantColumn.toList ++ placeholder 1 ++ "::uuid".toList ++
        filterText ++ texts.middle.toList ++
        sortClause lib.toUnicode texts req.sortBy req.sortOrder ++
        "\n\t\tLIMIT ".toList ++ placeholder (filterArgs.length + 2) ++
        " OFFSET ".toList ++ placeholder (filterArgs.length + 3) ++ "\n\t".toList ∧
      args = .text req.tenantId :: filterArgs.map .text ++
        [.int (sanitizePagination req.startIndex req.count).2,
          .int ((sanitizePagination req.startIndex req.count).1 - 1)] ∧
      numbers query = List.range' 1 args.length

/-- The filter's part of a query can be read back: its numbers start behind the tenant's. -/
theorem FilterPart.numbered {filterExpr : List Char}
    {args : List (List Char)} (h : FilterPart lib resource filterExpr text args) :
    ∃ t, text = render t ∧ Numbered 2 args.length t := by
  cases h with
  | blank h => exact ⟨[], rfl, numbered_lit 2 (rfl : plain [] = true)⟩
  | @clause root clause args hparse hsql =>
    obtain ⟨hclause, hargs⟩ := clause_spec hsql
    have hnumbered := template_numbered lib resource root 1
    have hsize : (root.bindings lib resource).length ≤ 50 :=
      (bindings_length_le lib resource root).trans (size_of_parseSCIMFilter hparse)
    have hvisible := trimRunes_clause hsql
    rw [nil_append] at hargs
    rw [hargs, hclause] at *
    have hshift := shiftPlaceholders_render hnumbered (by omega) hvisible
    have hand : Numbered 2 0 (lit " AND ".toList) := numbered_lit 2 (by decide +kernel)
    refine ⟨lit " AND ".toList ++ renumber 1 (root.template lib resource 1), ?_, ?_⟩
    · rw [render_append, render_lit, ← hshift]
      rfl
    · simpa using hand.append (hnumbered.renumber 1)

/-- What a listing's condition is made of. -/
theorem listCondition_spec {condition : List Char}
    {args : List SqlArg} (h : listCondition lib texts req = .ok (condition, args)) :
    ∃ filterText filterArgs, FilterPart lib texts.resource req.filterExpr filterText filterArgs ∧
      condition = texts.tenantColumn.toList ++ placeholder 1 ++ "::uuid".toList ++ filterText ∧
      args = .text req.tenantId :: filterArgs.map .text := by
  unfold listCondition at h
  split at h
  · next hblank =>
    cases h
    exact ⟨[], [], .blank hblank, by rw [append_nil], rfl⟩
  · split at h
    · cases h
    · next root hparse =>
      split at h
      · cases h
      · next clause filterArgs hsql =>
        split at h
        · next hempty => exact absurd hempty (trimRunes_clause hsql)
        · cases h
          exact ⟨_, filterArgs, .clause hparse hsql, by simp only [append_assoc], rfl⟩

/-- The placeholders around the filter's part of a query go on with its numbers. -/
theorem numbers_listing {head column middle sort : List Char}
    (hhead : plain head = true) (hcolumn : plain column = true) (ht : Numbered 2 k t)
    (hmiddle : plain middle = true) (hsort : plain sort = true) :
    numbers (head ++ column ++ placeholder 1 ++ "::uuid".toList ++ render t ++ middle ++ sort ++
      "\n\t\tLIMIT ".toList ++ placeholder (k + 2) ++
      " OFFSET ".toList ++ placeholder (k + 3) ++ "\n\t".toList) = List.range' 1 (k + 3) := by
  have hcast : plain "::uuid".toList = true := by decide +kernel
  have hlimit : plain "\n\t\tLIMIT ".toList = true := by decide +kernel
  have hoffset : plain " OFFSET ".toList = true := by decide +kernel
  have hend : plain "\n\t".toList = true := by decide +kernel
  have hfront := (((numbered_lit 1 hhead).append (numbered_lit 1 hcolumn)).append
    (numbered_arg 1)).append (numbered_lit _ hcast)
  have hfilter := ((hfront.append ht).append (numbered_lit _ hmiddle)).append (numbered_lit _ hsort)
  have hpage := (((hfilter.append (numbered_lit _ hlimit)).append (numbered_arg _)).append
    (numbered_lit _ hoffset)).append (numbered_arg _)
  have hall := (hpage.append (numbered_lit _ hend)).numbers
  have hsecond : 1 + (0 + 0 + 1 + 0 + k + 0 + 0 + 0) = k + 2 := by omega
  have hthird : 1 + (0 + 0 + 1 + 0 + k + 0 + 0 + 0 + 1 + 0) = k + 3 := by omega
  have hcount : 0 + 0 + 1 + 0 + k + 0 + 0 + 0 + 1 + 0 + 1 + 0 = k + 3 := by omega
  simp only [render_append, render_lit, render_arg, render_nil, append_nil, hsecond, hthird, hcount] at hall
  exact hall

/-- Every listing binds its arguments well. -/
theorem listQuery_spec (htexts : texts.Plain) {query : List Char} {args : List SqlArg}
    (h : listQuery lib texts req = .ok (query, args)) : ListingBound lib texts req query args := by
  obtain ⟨⟨condition, args₀⟩, hcondition, hquery⟩ := bind_ok h
  obtain ⟨filterText, filterArgs, hpart, rfl, rfl⟩ := listCondition_spec hcondition
  have htext : query = texts.head.toList ++ texts.tenantColumn.toList ++ placeholder 1 ++
      "::uuid".toList ++ filterText ++ texts.middle.toList ++
      sortClause lib.toUnicode texts req.sortBy req.sortOrder ++
      "\n\t\tLIMIT ".toList ++ placeholder (filterArgs.length + 2) ++
      " OFFSET ".toList ++ placeholder (filterArgs.length + 3) ++ "\n\t".toList := by
    cases hquery
    simp only [append_assoc, length_append, length_cons, length_map,
      length_nil]
    rfl
  obtain ⟨t, rfl, ht⟩ := hpart.numbered
  have hnumbers := numbers_listing htexts.head htexts.tenantColumn ht htexts.middle
    (htexts.sort lib.toUnicode req.sortBy req.sortOrder)
  rw [← htext] at hnumbers
  cases hquery
  refine ⟨_, filterArgs, hpart, htext, rfl, ?_⟩
  rw [hnumbers]
  simp

end Listing

/-! ## Values and the clause -/

/-- Two values that differ at most in the text of a string. -/
def SameButText : Option FilterValue → Option FilterValue → Prop
  | some (.str _), some (.str _) => True
  | value, value' => value = value'

/-- Two filters that differ at most in their string values. -/
def SCIMFilterNode.SameButStrings : SCIMFilterNode → SCIMFilterNode → Prop
  | .comparison attr op value, .comparison attr' op' value' =>
    attr = attr' ∧ op = op' ∧ SameButText value value'
  | .logical op left right, .logical op' left' right' =>
    op = op' ∧ left.SameButStrings left' ∧ right.SameButStrings right'
  | .not operand, .not operand' => operand.SameButStrings operand'
  | _, _ => False

/-- The text of a string is not in the text of a comparison. -/
theorem comparisonText_of_sameButText (d : FilterAttrDef) (op : CompareOp)
    {value value' : Option FilterValue} (h : SameButText value value') :
    comparisonText d op value = comparisonText d op value' := by
  unfold SameButText at h
  split at h
  · unfold comparisonText
    split <;> simp
  · rw [h]

theorem template_of_sameButStrings (lib : ScimLibrary) (resource : SCIMResourceType)
    {node' : SCIMFilterNode} (h : node.SameButStrings node') (n : Nat) :
    node.template lib resource n = node'.template lib resource n ∧
      (node.bindings lib resource).length = (node'.bindings lib resource).length := by
  induction node generalizing node' n with
  | comparison attr op value =>
    cases node' with
    | comparison attr' op' value' =>
      obtain ⟨rfl, rfl, hvalue⟩ := h
      unfold SCIMFilterNode.template SCIMFilterNode.bindings
      cases scimFilterAttribute lib.toUnicode resource (lib.lower (trimRunes attr)) with
      | none => exact ⟨rfl, rfl⟩
      | some d =>
        simp only [comparisonTemplate, comparisonText_of_sameButText d op hvalue]
        refine ⟨trivial, ?_⟩
        split <;> rfl
    | logical | not => exact h.elim
  | logical op left right ihleft ihright =>
    cases node' with
    | logical op' left' right' =>
      obtain ⟨rfl, hleft, hright⟩ := h
      obtain ⟨htleft, hlleft⟩ := ihleft hleft n
      have hlength := (ihright hright 0).2
      simp only [SCIMFilterNode.template, SCIMFilterNode.bindings, length_append, htleft,
        hlleft, hlength, (ihright hright _).1, and_self]
    | comparison | not => exact h.elim
  | not operand ih =>
    cases node' with
    | not operand' =>
      obtain ⟨htemplate, hlength⟩ := ih h n
      simp only [SCIMFilterNode.template, SCIMFilterNode.bindings, htemplate, hlength, and_self]
    | comparison | logical => exact h.elim

/-- The SQL of a filter has the placeholders `$1`, `$2`, … from left to right, one for each
    argument, and the arguments are the bindings of the filter's comparisons. The queries of the
    listings bind the tenant, these arguments, the limit and the offset in a row. Filters that
    differ only in their strings have the same clause. -/
theorem scim_queries_well_bound (lib : ScimLibrary) :
    (∀ resource (node : SCIMFilterNode) clause args, node.toSQL lib resource = .ok (clause, args) →
      numbers clause = List.range' 1 args.length ∧ args = node.bindings lib resource) ∧
    (∀ req query args, listSCIMUsers lib req = .ok (query, args) →
      ListingBound lib userListing req query args) ∧
    (∀ req query args, listSCIMGroups lib req = .ok (query, args) →
      ListingBound lib groupListing req query args) ∧
    (∀ resource (node node' : SCIMFilterNode) clause clause' args args',
      node.SameButStrings node' → node.toSQL lib resource = .ok (clause, args) →
        node'.toSQL lib resource = .ok (clause', args') → clause = clause') := by
  refine ⟨?_, ?_, ?_, ?_⟩
  · intro resource node clause args h
    obtain ⟨hclause, hargs⟩ := clause_spec h
    rw [nil_append] at hargs
    refine ⟨?_, hargs⟩
    rw [hclause, hargs]
    exact (template_numbered lib resource node 1).numbers
  · intro req query args h
    exact listQuery_spec plain_userListing h
  · intro req query args h
    exact listQuery_spec plain_groupListing h
  · intro resource node node' clause clause' args args' hsame h h'
    rw [(clause_spec h).1, (clause_spec h').1]
    exact congrArg render (template_of_sameButStrings lib resource hsame _).1

def ScimLibrary.ascii : ScimLibrary where
  toUnicode := .ascii
  formatFloat _ := []
  parsesRFC3339 _ := false

/-- A test of `active`, and a name with a blank in front and a capital letter. -/
def activeAndName (name : String) : SCIMFilterNode :=
  .logical .and (.comparison "active".toList .eq (some (.bool true)))
    (.comparison "username".toList .eq (some (.str name.toList)))

def activeAndNameClause : List Char :=
  "((u.status = 'ACTIVE') AND (LOWER(u.username) = LOWER($1)))".toList

theorem scim_queries_well_bound_activeAndName :
    numbers activeAndNameClause = [1] ∧
      ["bob".toList] = (activeAndName " Bob").bindings .ascii .user ∧
      ∃ query args, listSCIMUsers .ascii ⟨[], [], [], [], 1, 10⟩ = .ok (query, args) ∧
        ListingBound .ascii userListing ⟨[], [], [], [], 1, 10⟩ query args := by
  obtain ⟨hclause, husers, -, -⟩ := scim_queries_well_bound .ascii
  obtain ⟨hnumbers, hargs⟩ := hclause .user (activeAndName " Bob") activeAndNameClause
    ["bob".toList] (by decide +kernel)
  refine ⟨hnumbers, hargs, ?_⟩
  obtain ⟨r, hr⟩ : ∃ r, listSCIMUsers .ascii ⟨[], [], [], [], 1, 10⟩ = .ok r := ⟨_, rfl⟩
  exact ⟨r.1, r.2, hr, husers _ _ _ hr⟩

/-- The comparison of `active` has a value and no argument, and the other argument is trimmed. -/
theorem active_binds_no_argument :
    parseSCIMFilter .ascii "active eq true and userName eq \" Bob\"".toList =
        .ok (activeAndName " Bob") ∧
      (activeAndName " Bob").toSQL .ascii .user = .ok (activeAndNameClause, ["bob".toList]) := by
  decide +kernel

end LoanWorkflow
