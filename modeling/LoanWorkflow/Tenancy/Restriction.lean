import LoanWorkflow.Tenancy.Scope

/-! # The tenant filter restricts the statement

    The statement that `AssertTenantScope` returns should be the given one
    with `tenant_id = $n` as one more conjunct. The rewriting is by text
    search, so whether it is depends on how the statement is written:
    `assertTenantScope_restricts_iff` says exactly when.
-/

namespace LoanWorkflow

open Strings Sql Option

variable {n : Nat} {st : Statement} {text tail : Text} {t : Token} {A : List Token}

/-! ### The tokens of the filter -/

/-- `tenant_id = $n`. -/
def tenantAtom (n : Nat) : List Token :=
  [.word "tenant_id".toList, .op "=".toList, .word (placeholder n)]

theorem classify_placeholder (n : Nat) : ∀ c ∈ placeholder n, classify c = .word := by
  intro c hc
  rcases List.mem_cons.mp hc with rfl | hc
  · decide
  · exact classify_of_isDigit (Nat.isDigit_of_mem_toDigits (by decide) (by decide) hc)

theorem tenantAtom_plain (n : Nat) : ∀ t ∈ tenantAtom n, t.plain = true := by
  intro t ht
  simp only [tenantAtom, List.mem_cons, List.not_mem_nil, or_false] at ht
  -- a placeholder starts with `$`, so it is no keyword
  rcases ht with rfl | rfl | rfl <;> rfl

/-- The filter, followed by a blank or nothing, is read as its tokens. -/
theorem lex_tenantFilter (w : Bool) (n : Nat)
    (htail : ∀ c ∈ tail.head?, Strings.isSpace c = true) :
    lex (tenantFilter w n ++ tail) = (lex tail).map (conjunct w (tenantAtom n) ++ ·) := by
  have hplaceholder : lex (placeholder n ++ tail) =
      (lex tail).map ([.word (placeholder n)] ++ ·) :=
    lex_append_blank (lex_word (classify_placeholder n) (by simp [placeholder])) htail
  have hfront : ∀ front : Text, ∀ ts, lex front = some ts →
      lex (front ++ ' ' :: (placeholder n ++ tail)) =
        (lex tail).map (ts ++ .word (placeholder n) :: ·) := by
    intro front ts hfront
    rw [lex_append hfront (by decide), hplaceholder, Option.map_map]
    rfl
  cases w with
  | true =>
    exact hfront " AND tenant_id =".toList
      [.word "AND".toList, .word "tenant_id".toList, .op "=".toList] (by decide)
  | false =>
    exact hfront " WHERE tenant_id =".toList
      [.word "WHERE".toList, .word "tenant_id".toList, .op "=".toList] (by decide)

/-! ### What stands at the place that the search finds -/

def StartsLikeClause (t : Token) : Prop :=
  ∃ w, t = .word w ∧ ∃ k ∈ clauseWords, k.toList <+: toUpper w

theorem StartsLikeClause.isWord (h : StartsLikeClause t) (keyword : String)
    (hk : ∀ k ∈ clauseWords, ¬ k.toList <+: keyword.toList) : t.isWord keyword = false := by
  obtain ⟨w, rfl, k, hmem, hprefix⟩ := h
  show (toUpper w == keyword.toList) = false
  rw [beq_eq_false_iff_ne]
  intro heq
  rw [heq] at hprefix
  exact hk k hmem hprefix

theorem StartsLikeClause.ordinary (h : StartsLikeClause t) : t.ordinary = true := by
  have hand := h.isWord "AND" (by decide)
  have hor := h.isWord "OR" (by decide)
  have hnot := h.isWord "NOT" (by decide)
  obtain ⟨w, rfl, -⟩ := h
  simp [Token.ordinary, hand, hor, hnot, lpar, rpar]

theorem StartsLikeClause.not_mem_tenantAtom (h : StartsLikeClause t) (n : Nat) :
    t ∉ tenantAtom n := by
  obtain ⟨w, rfl, k, hk, hprefix⟩ := h
  intro hmem
  simp only [tenantAtom, List.mem_cons, Token.word.injEq, reduceCtorEq, List.not_mem_nil, or_false,
    false_or] at hmem
  rcases hmem with rfl | rfl
  · revert k
    decide
  · -- a clause keyword does not start with `$`
    have hfirst : ∀ k ∈ clauseWords, k.toList.head? ≠ some '$' ∧ k.toList ≠ [] := by decide
    obtain ⟨hne, hnil⟩ := hfirst k hk
    obtain ⟨c, cs, hcs⟩ := List.exists_cons_of_ne_nil hnil
    rw [hcs] at hprefix hne
    obtain ⟨rest, hrest⟩ := hprefix
    change c :: (cs ++ rest) = '$' :: toUpper (Nat.toDigits 10 n) at hrest
    rw [List.cons.injEq] at hrest
    exact hne (by simp [hrest.1])

/-- Where the search has found a keyword, a blank stands before a token that
    starts like it. -/
theorem tail_of_keyword {kw : Text} (hkw : kw ∈ scopeKeywords) (h : kw <+: toUpper tail) :
    (∀ c ∈ tail.head?, Strings.isSpace c = true) ∧
      ∀ ts, lex tail = some ts → ∀ t ∈ ts.head?, StartsLikeClause t := by
  have hshape : ∀ kw ∈ scopeKeywords, ∃ k ∈ clauseWords, ' ' :: k.toList <+: kw := by decide
  -- along the list: a quantifier over characters would be decided over all of them
  have hletters : ∀ k ∈ clauseWords, k.toList ≠ [] ∧
      k.toList.all (fun c => decide (65 ≤ c.toNat ∧ c.toNat ≤ 90)) = true := by decide
  obtain ⟨k, hk, hprefix⟩ := hshape kw hkw
  obtain ⟨hne, hall⟩ := hletters k hk
  have hletters : ∀ c ∈ k.toList, 65 ≤ c.toNat ∧ c.toNat ≤ 90 :=
    fun c hc => of_decide_eq_true (List.all_eq_true.mp hall c hc)
  obtain ⟨rest, hrest⟩ := hprefix.trans h
  -- the text in its own case, cut where the keyword ends
  obtain ⟨front, back, rfl, hfront, -⟩ := List.map_eq_append_iff.mp hrest.symm
  obtain ⟨c, p, rfl, hc, hp⟩ := List.map_eq_cons_iff.mp hfront
  have hspace : c = ' ' := eq_space_of_toUpper hc
  subst hspace
  have hword : ∀ d ∈ p, classify d = .word := by
    intro d hd
    have hmem : d.toUpper ∈ k.toList := by
      rw [← hp]
      exact List.mem_map_of_mem hd
    exact classify_of_toUpper (hletters _ hmem).1 (hletters _ hmem).2
  have hpne : p ≠ [] := by
    rintro rfl
    exact hne hp.symm
  refine ⟨fun d hd => ?_, fun ts hts t ht => ?_⟩
  · cases hd
    rfl
  · rw [List.cons_append, lex_cons_space (by decide)] at hts
    obtain ⟨s, rest', rfl⟩ := lex_word_append hword hpne hts
    cases ht
    refine ⟨p ++ s, rfl, k, hk, ?_⟩
    rw [toUpper_append]
    exact ⟨toUpper s, by rw [← hp]; rfl⟩

/-- The head before the filter ends where a token ends, or inside a quotation. -/
theorem head_append_tail (text : Text) :
    ∃ ws, text = trimRight isScopeBlank (text.take (insertIdx text)) ++
        (ws ++ text.drop (insertIdx text)) ∧
      text.take (insertIdx text) = trimRight isScopeBlank (text.take (insertIdx text)) ++ ws ∧
      ∀ c ∈ ws, Strings.isSpace c = true := by
  obtain ⟨ws, heq, hws⟩ := trimRight_append isScopeBlank (text.take (insertIdx text))
  refine ⟨ws, ?_, heq, fun c hc => ?_⟩
  · rw [← List.append_assoc, ← heq, List.take_append_drop]
  · have hblank := hws c hc
    simp only [isScopeBlank, Bool.or_eq_true, beq_iff_eq] at hblank
    rcases hblank with ((rfl | rfl) | rfl) | rfl <;> decide

/-- The text after the place, whatever the place: nothing, or a keyword. -/
theorem keyword_at_insertIdx (text : Text) : text.drop (insertIdx text) = [] ∨
    ∃ kw ∈ scopeKeywords, kw <+: toUpper (text.drop (insertIdx text)) := by
  obtain ⟨-, hplace, -⟩ := firstAt_firstIndex scopeKeywords (toUpper text) text.length
  rw [toUpper_drop]
  refine hplace.imp_left fun hend => ?_
  rw [insertIdx, hend, List.drop_length]

theorem tail_spec (text : Text) :
    (∀ c ∈ (text.drop (insertIdx text)).head?, Strings.isSpace c = true) ∧
      ∀ ts, lex (text.drop (insertIdx text)) = some ts → ∀ t ∈ ts.head?, StartsLikeClause t := by
  rcases keyword_at_insertIdx text with hnil | ⟨kw, hkw, hprefix⟩
  · rw [hnil]
    refine ⟨by simp, fun ts hts => ?_⟩
    rw [lex_nil, Option.some.injEq] at hts
    rw [← hts]
    simp
  · exact tail_of_keyword hkw hprefix

/-! ### When the filter restricts the statement -/

/-- The search finds the parts of the statement: the first keyword pattern in
    the text, if any, is the first clause of the statement, ` WHERE ` occurs
    before it exactly when there is a condition, and the condition is no `OR`
    outside parentheses. -/
def ReadsAsWritten (text : Text) (st : Statement) : Prop :=
  (∃ before after, text = before ++ after ∧
    parse before = some { st with clauses := [] } ∧ lex after = some st.clauses ∧
    (after = [] ∨ ∃ kw ∈ scopeKeywords, kw <+: toUpper after) ∧
    (∀ j < before.length, ∀ kw ∈ scopeKeywords, ¬ kw <+: (toUpper text).drop j) ∧
    hasWhere (trimRight isScopeBlank before) = st.cond.isSome) ∧
  ∀ c ∈ st.cond, c.isOr = false

/-- The place of the filter is the end of the part before the clauses. -/
theorem split_insertIdx {before after : Text} (heq : text = before ++ after)
    (hafter : after = [] ∨ ∃ kw ∈ scopeKeywords, kw <+: toUpper after)
    (hbefore : ∀ j < before.length, ∀ kw ∈ scopeKeywords, ¬ kw <+: (toUpper text).drop j) :
    text.take (insertIdx text) = before ∧ text.drop (insertIdx text) = after := by
  have hidx : insertIdx text = before.length := by
    subst heq
    refine (firstAt_firstIndex _ _ _).unique ⟨by simp, ?_, hbefore⟩
    rcases hafter with rfl | ⟨kw, hkw, hprefix⟩
    · exact Or.inl (by simp)
    · refine Or.inr ⟨kw, hkw, ?_⟩
      rw [← toUpper_drop, List.drop_left]
      exact hprefix
  rw [hidx, heq, List.take_left, List.drop_left]
  exact ⟨rfl, rfl⟩

theorem parse_eq_some (h : parse text = some st) :
    ∃ ts, lex text = some ts ∧ ts.all Token.inGrammar = true ∧
      Parse.run (.head [] 0) ts = some st := by
  obtain ⟨ts, hlex, hts⟩ := bind_eq_some_iff.mp h
  unfold parseTokens at hts
  split_ifs at hts with hall
  exact ⟨ts, hlex, hall, hts⟩

theorem parse_of_lex {ts : List Token} (hlex : lex text = some ts)
    (hall : ts.all Token.inGrammar = true) : parse text = Parse.run (.head [] 0) ts := by
  rw [parse, hlex, bind_some, parseTokens, if_pos hall]

/-- Between tokens the text search is an insertion of tokens. -/
theorem restricts_iff_of_lex (hparse : parse text = some st)
    (hhead : lex (trimRight isScopeBlank (text.take (insertIdx text))) = some A) :
    (∃ st', parse (addTenantFilter text n) = some st' ∧ st'.Same (st.restrict (tenantAtom n))) ↔
      ReadsAsWritten text st := by
  obtain ⟨ts, hlex, hall, hrun⟩ := parse_eq_some hparse
  obtain ⟨ws, htext, htake, hws⟩ := head_append_tail text
  obtain ⟨hblank, hkeyword⟩ := tail_spec text
  set h := trimRight isScopeBlank (text.take (insertIdx text)) with hh
  set tail := text.drop (insertIdx text) with htail
  have hgap : ∀ c ∈ (ws ++ tail).head?, Strings.isSpace c = true := by
    cases ws with
    | nil => exact hblank
    | cons c ws => simpa using hws c (by simp)
  -- the tokens of the statement, before and after the place
  have hsplit : (lex tail).map (A ++ ·) = some ts := by
    rw [← lex_spaces_append hws tail, ← lex_append_blank hhead hgap, ← htext]
    exact hlex
  obtain ⟨B, hB, rfl⟩ := map_eq_some_iff.mp hsplit
  rw [List.all_append, Bool.and_eq_true] at hall
  rw [Parse.run_append] at hrun
  obtain ⟨p, hp, hrun⟩ := bind_eq_some_iff.mp hrun
  have hfinish : p.finish = Parse.run (.head [] 0) A := by
    rw [Parse.run, hp]
    rfl
  have hadd : parse (addTenantFilter text n) =
      p.run (conjunct (hasWhere h) (tenantAtom n) ++ B) := by
    have hlex' : lex (addTenantFilter text n) =
        some (A ++ (conjunct (hasWhere h) (tenantAtom n) ++ B)) := by
      show lex (h ++ tenantFilter (hasWhere h) n ++ tail) = _
      have hfilter : ∀ c ∈ (tenantFilter (hasWhere h) n ++ tail).head?,
          Strings.isSpace c = true := by
        intro c hc
        unfold tenantFilter at hc
        split_ifs at hc <;> cases hc <;> decide
      rw [List.append_assoc, lex_append_blank hhead hfilter, lex_tenantFilter _ _ hblank, hB]
      rfl
    have hword : (conjunct (hasWhere h) (tenantAtom n)).all Token.inGrammar = true := rfl
    have hall' : (A ++ (conjunct (hasWhere h) (tenantAtom n) ++ B)).all Token.inGrammar = true := by
      simp only [List.all_append, hall.1, hall.2, hword, Bool.and_true]
    rw [parse_of_lex hlex' hall', Parse.run_append, hp, bind_some]
  have hinsert : Restricts p (tenantAtom n) B (hasWhere h) st ↔
      InsertsWell p B (hasWhere h) st :=
    insert_iff hrun (tenantAtom_plain n)
      (fun t ht => ⟨(hkeyword B hB t ht).ordinary, (hkeyword B hB t ht).isWord _ (by decide),
        (hkeyword B hB t ht).not_mem_tenantAtom n⟩)
  rw [hadd]
  refine hinsert.trans ⟨?_, ?_⟩
  · rintro ⟨hend, hclauses, hw, hor⟩
    refine ⟨⟨text.take (insertIdx text), tail, (List.take_append_drop _ _).symm, ?_, ?_, ?_, ?_, hw⟩,
      hor⟩
    · have hbefore : lex (text.take (insertIdx text)) = some A := by
        rw [htake, lex_append_spaces hws, hhead]
      rw [parse_of_lex hbefore hall.1, ← hfinish]
      exact hend
    · rw [hB, hclauses]
    · exact keyword_at_insertIdx text
    · obtain ⟨-, -, hnone⟩ := firstAt_firstIndex scopeKeywords (toUpper text) text.length
      intro j hj
      exact hnone j (lt_of_lt_of_le hj (List.length_take_le _ _))
  · rintro ⟨⟨before, after, heq, hbefore, hafter, hplace, hnone, hw⟩, hor⟩
    obtain ⟨hbeforeEq, hafterEq⟩ := split_insertIdx heq hplace hnone
    have hlexBefore : lex before = some A := by
      rw [← hbeforeEq, htake, lex_append_spaces hws, hhead]
    rw [parse_of_lex hlexBefore hall.1, ← hfinish] at hbefore
    rw [htail, hafterEq, hafter, Option.some.injEq] at hB
    refine ⟨hbefore, hB.symm, ?_, hor⟩
    rw [hh, hbeforeEq]
    exact hw

theorem not_isQuote_tenantFilter (w : Bool) (n : Nat) :
    ∀ c ∈ tenantFilter w n, isQuote c = false := by
  have hword : ∀ c : Char, classify c = .word → isQuote c = false := by
    intro c hc
    unfold classify at hc
    split_ifs at hc with hspace hquote
    exact Bool.not_eq_true _ |>.mp hquote
  have htext : ∀ w : Bool, (if w then " AND tenant_id = " else " WHERE tenant_id = ").toList.all
      (fun c => !isQuote c) = true := by decide
  intro c hc
  rcases List.mem_append.mp hc with hc | hc
  · simpa using List.all_eq_true.mp (htext w) c hc
  · exact hword c (classify_placeholder n c hc)

/-- Inside a quotation the search changes the quotation, and no more. -/
theorem not_restricts_of_quotation {q : Char} {acc : Text}
    (hparse : parse text = some st) (hfree : ∀ c ∈ st.cond, ¬ c.Mentions (.word "tenant_id".toList))
    (hhead : scan (trimRight isScopeBlank (text.take (insertIdx text))) = ⟨A, .quotation q acc⟩)
    (hq : isQuote q = true) :
    ¬ ∃ st', parse (addTenantFilter text n) = some st' ∧ st'.Same (st.restrict (tenantAtom n)) := by
  obtain ⟨ts, hlex, -, hrun⟩ := parse_eq_some hparse
  obtain ⟨ws, htext, -, hws⟩ := head_append_tail text
  rintro ⟨st', hparse', hsame⟩
  obtain ⟨ts', hlex', -, hrun'⟩ := parse_eq_some hparse'
  have hqws : q ∉ ws := by
    intro hmem
    rw [isQuote_of_isSpace (hws q hmem)] at hq
    exact Bool.noConfusion hq
  have hqfilter : ∀ w, q ∉ tenantFilter w n := by
    intro w hmem
    rw [not_isQuote_tenantFilter w n q hmem] at hq
    exact Bool.noConfusion hq
  -- the quotation is closed in the rest of the text
  have hqtail : q ∈ text.drop (insertIdx text) := by
    by_contra hopen
    have hnone := lex_unclosed hhead (y := ws ++ text.drop (insertIdx text)) (by simp [hqws, hopen])
    rw [← htext, hlex] at hnone
    cases hnone
  obtain ⟨y, r, htail, hy⟩ := List.eq_append_cons_of_mem hqtail
  have hclose : ∀ front : Text, q ∉ front →
      lex (trimRight isScopeBlank (text.take (insertIdx text)) ++
          (front ++ text.drop (insertIdx text))) =
        (lex r).map (A ++ .quoted q (acc ++ (front ++ y)) :: ·) := by
    intro front hfront
    rw [htail, ← List.append_assoc front]
    exact lex_quoted hhead (by simp [hfront, hy]) r
  rw [htext, hclose ws hqws] at hlex
  obtain ⟨R, hR, rfl⟩ := map_eq_some_iff.mp hlex
  unfold addTenantFilter at hlex'
  simp only [List.append_assoc] at hlex'
  rw [hclose _ (hqfilter _), hR] at hlex'
  cases hlex'
  rw [Parse.run_append] at hrun hrun'
  obtain ⟨p, hp, hrun⟩ := bind_eq_some_iff.mp hrun
  obtain ⟨p', hp', hrun'⟩ := bind_eq_some_iff.mp hrun'
  rw [hp] at hp'
  cases hp'
  refine exchange_not_restricts hrun hrun' ?_ rfl rfl (by decide) (by simp) hfree hsame
  intro heq
  simp only [Token.quoted.injEq, true_and, List.append_cancel_left_eq,
    List.append_cancel_right_eq] at heq
  -- the filter is more than blanks
  have hmem : '=' ∈ ws := by
    rw [heq]
    unfold tenantFilter
    split_ifs <;> simp
  exact absurd (hws _ hmem) (by decide)

/-- The filter restricts the statement exactly if the search finds its parts. -/
theorem addTenantFilter_restricts_iff (hparse : parse text = some st)
    (hfree : ∀ c ∈ st.cond, ¬ c.Mentions (.word "tenant_id".toList)) :
    (∃ st', parse (addTenantFilter text n) = some st' ∧ st'.Same (st.restrict (tenantAtom n))) ↔
      ReadsAsWritten text st := by
  rcases scan_cases (trimRight isScopeBlank (text.take (insertIdx text))) with
    ⟨A, hhead⟩ | ⟨A, q, acc, hhead, hq⟩
  · exact restricts_iff_of_lex hparse hhead
  · refine iff_of_false (not_restricts_of_quotation hparse hfree hhead hq) ?_
    rintro ⟨⟨before, after, heq, hbefore, -, hplace, hnone, -⟩, -⟩
    obtain ⟨ws, -, htake, hws⟩ := head_append_tail text
    -- the part before the clauses would end inside the quotation
    obtain ⟨hidx, -⟩ := split_insertIdx heq hplace hnone
    obtain ⟨ts, hlex, -⟩ := parse_eq_some hbefore
    have hopen := lex_unclosed hhead (y := []) (by simp)
    rw [List.append_nil] at hopen
    rw [← hidx, htake, lex_append_spaces hws, hopen] at hlex
    cases hlex

/-- A context that carries a tenant under the middleware's key. -/
def ofTenant (tenant : Text) : TenantContext
  | .tenantContextKey => some tenant
  | _ => none

/-- `SELECT id FROM tasks WHERE status = $1 LIMIT 5`, parsed. -/
def pendingTasks : Statement where
  head := ["SELECT", "id", "FROM", "tasks"].map fun w => .word w.toList
  cond := some (.atom [.word "status".toList, .op "=".toList, .word "$1".toList])
  clauses := [.word "LIMIT".toList, .word "5".toList]

/-- `SELECT id FROM tasks WHERE status = $1 OR priority = $2`, parsed. -/
def pendingOrHigh : Statement where
  head := pendingTasks.head
  cond := some (.or (.atom [.word "status".toList, .op "=".toList, .word "$1".toList])
    (.atom [.word "priority".toList, .op "=".toList, .word "$2".toList]))
  clauses := []

end LoanWorkflow
