import LoanWorkflow.Framework.SqlStatement

/-! # Inserting a conjunct

    A rewriter that works on the text puts `AND a` or `WHERE a` somewhere
    between two tokens of a statement. `insert_iff` says when the result is
    the statement restricted by `a`: the place must be the end of the
    condition, the word must fit, and the condition must not be an `OR`.

    The statement and the rewritten one have a prefix in common, so the parser
    is in the same state when it comes to the inserted tokens. The proof goes
    by what that state can be.
-/

namespace Sql

open List Strings

variable {c o : Cond} {s s' : CondState} {h hs ts ys : List Token} {d : Nat} {p : Parse}
  {st st' : Statement} {t u x : Token}

/-! ### The tokens of a pending condition -/

/-- The tokens of the atoms that are no structure, in their order. -/
def Cond.text (c : Cond) : List Token := c.atoms.flatten.filter Token.ordinary

def Level.text (l : Level) : List Token :=
  l.ors.toList.flatMap Cond.text ++ l.ands.toList.flatMap Cond.text

def Operand.text : Operand → List Token
  | .empty => []
  | .atom ts _ _ => ts.filter Token.ordinary
  | .group c => c.text

def CondState.text (s : CondState) : List Token :=
  s.outer.reverse.flatMap Level.text ++ s.level.text ++ s.operand.text

theorem Cond.mem_text (hx : x.ordinary = true) : x ∈ c.text ↔ c.Mentions x := by
  simp [Cond.text, Cond.Mentions, hx]

@[simp] theorem Cond.text_strip (c : Cond) : c.strip.text = c.text := by
  simp only [Cond.text, Cond.atoms_strip]

@[simp] theorem Cond.text_and (a b : Cond) : (Cond.and a b).text = a.text ++ b.text := by
  simp [Cond.text, Cond.atoms]

@[simp] theorem Cond.text_or (a b : Cond) : (Cond.or a b).text = a.text ++ b.text := by
  simp [Cond.text, Cond.atoms]

@[simp] theorem Cond.text_negate (n : Nat) (c : Cond) : (Cond.negate n c).text = c.text := by
  induction n with
  | zero => rfl
  | succ n ih => exact ih

@[simp] theorem Level.text_conjunction (l : Level) (c : Cond) :
    (l.conjunction c).text = l.ands.toList.flatMap Cond.text ++ c.text := by
  unfold Level.conjunction
  cases l.ands <;> simp [Cond.joinAnd]

@[simp] theorem Level.text_close (l : Level) (c : Cond) :
    (l.close c).text = l.text ++ c.text := by
  unfold Level.close Level.text
  cases l.ors <;> simp [Cond.joinOr]

@[simp] theorem Operand.text_empty : Operand.empty.text = [] := rfl

@[simp] theorem Operand.text_atom (ts : List Token) (d : Nat) (b : Bool) :
    (Operand.atom ts d b).text = ts.filter Token.ordinary := rfl

@[simp] theorem Operand.text_group (c : Cond) : (Operand.group c).text = c.text := rfl

theorem Operand.text_cond? {o : Operand} (h : o.cond? = some c) : o.text = c.text := by
  unfold Operand.cond? at h
  split at h <;> cases h <;> simp [Cond.text, Cond.atoms]

namespace CondState

/-- A token is structure, or it joins the atom that is being read. -/
theorem feed_text (h : s.feed t = some s') : s'.text = s.text ++ [t].filter Token.ordinary := by
  unfold feed at h
  split at h
  · next ts d b hop =>
    cases h
    simp [text, hop]
  split_ifs at h with hand hor hpar
  · have ht : t.ordinary = false := by simp [Token.ordinary, hand]
    unfold feedAnd at h
    split at h
    · next ts hop =>
      cases h
      simp [text, hop, ht]
    · obtain ⟨c, hc, rfl⟩ := Option.map_eq_some_iff.mp h
      simp [text, Level.text, Operand.text_cond? hc, ht]
  · have ht : t.ordinary = false := by simp [Token.ordinary, hor]
    obtain ⟨c, hc, rfl⟩ := Option.map_eq_some_iff.mp h
    simp [text, Level.text, Operand.text_cond? hc, ht]
  · have ht : t.ordinary = false := by simp [Token.ordinary, hpar]
    unfold feedClose at h
    split at h
    · next l outer c houter hc =>
      cases h
      simp [text, houter, Operand.text_cond? hc, ht]
    · cases h
  · unfold feedOperand at h
    split at h
    · next hop =>
      split_ifs at h with hnot hlpar hres <;> cases h
      · have ht : t.ordinary = false := by simp [Token.ordinary, hnot]
        simp [text, hop, ht, Level.text]
      · have ht : t.ordinary = false := by simp [Token.ordinary, hlpar]
        simp [text, hop, ht, Level.text]
      · simp [text, hop]
    · cases h
    · next ts d b hop =>
      split_ifs at h with hres
      cases h
      simp [text, hop]

/-! ### Runs of the condition parser -/

@[simp] theorem run_nil (s : CondState) : s.run [] = s.finish := rfl

theorem run_cons (s : CondState) (t : Token) (ts : List Token) :
    s.run (t :: ts) = (s.feed t).bind (·.run ts) := by
  simp only [run, foldlM_cons]
  cases s.feed t <;> rfl

/-- A condition has the tokens that it was read from. -/
theorem run_text (h : s.run ts = some c) : c.text = s.text ++ ts.filter Token.ordinary := by
  induction ts generalizing s with
  | nil =>
    simp only [run_nil, finish] at h
    split_ifs at h with houter
    obtain ⟨o, ho, rfl⟩ := Option.map_eq_some_iff.mp h
    simp [text, houter, Operand.text_cond? ho]
  | cons t ts ih =>
    rw [run_cons] at h
    obtain ⟨s', hfeed, hrun⟩ := Option.bind_eq_some_iff.mp h
    rw [ih hrun, feed_text hfeed, append_assoc, ← filter_append, singleton_append]

/-! ### A simple comparison after a finished condition -/

/-- The state while an atom without parentheses is read. -/
def reading (s : CondState) (ts : List Token) : CondState := { s with operand := .atom ts 0 false }

theorem feed_plain (ht : t.plain = true) :
    (s.reading ts).feed t = some (s.reading (ts ++ [t])) := by
  simp only [Token.plain, Token.ordinary, Bool.and_eq_true, Bool.not_eq_true', Bool.or_eq_false_iff,
    beq_eq_false_iff_ne] at ht
  obtain ⟨⟨⟨⟨⟨⟨hand, hor⟩, -⟩, hlpar⟩, hrpar⟩, hres⟩, hbetween⟩ := ht
  simp [feed, reading, hand, hor, hrpar, feedOperand, hres, hbetween, nestAtom, hlpar]

theorem feed_plain_empty (hop : s.operand = .empty)
    (ht : t.plain = true) : s.feed t = some (s.reading [t]) := by
  simp only [Token.plain, Token.ordinary, Bool.and_eq_true, Bool.not_eq_true', Bool.or_eq_false_iff,
    beq_eq_false_iff_ne] at ht
  obtain ⟨⟨⟨⟨⟨⟨hand, hor⟩, hnot⟩, hlpar⟩, hrpar⟩, hres⟩, -⟩ := ht
  simp [feed, reading, hop, hand, hor, hrpar, feedOperand, hres, hnot, hlpar]

/-- `AND` after a finished condition. -/
def afterAnd (s : CondState) (c : Cond) : CondState :=
  { s with level := { s.level with ands := some (s.level.conjunction c), nots := 0 }
           operand := .empty }

theorem finish_eq_some (h : s.finish = some c) :
    s.outer = [] ∧ ∃ o, s.operand.cond? = some o ∧ c = s.level.close o := by
  unfold finish at h
  split_ifs at h with houter
  obtain ⟨o, ho, rfl⟩ := Option.map_eq_some_iff.mp h
  exact ⟨houter, o, ho, rfl⟩

theorem inAtom_of_cond? (h : s.operand.cond? = some o) : s.inAtom = false := by
  unfold Operand.cond? at h
  unfold inAtom
  split at h <;> simp_all

/-- After an operand that can end, a token is read as structure. -/
theorem feed_of_cond? (h : s.operand.cond? = some o) (t : Token) :
    s.feed t = if t.isWord "AND" then some (s.afterAnd o)
      else if t.isWord "OR" then s.feedOr
      else if t = rpar then s.feedClose
      else s.feedOperand t := by
  have hin := inAtom_of_cond? h
  have hand : s.feedAnd t = some (s.afterAnd o) := by
    unfold feedAnd
    split
    · next heq =>
      rw [heq] at h
      cases h
    · rw [h]
      rfl
  unfold feed
  split
  · next heq => simp [inAtom, heq] at hin
  · rw [hand]

/-- A reserved word does not follow a finished operand. -/
theorem feed_reserved (h : s.operand.cond? = some o)
    (ht : t.ordinary = true) (hres : t.reserved = true) : s.feed t = none := by
  simp only [Token.ordinary, Bool.not_eq_true', Bool.or_eq_false_iff, beq_eq_false_iff_ne] at ht
  obtain ⟨⟨⟨⟨hand, hor⟩, -⟩, -⟩, hrpar⟩ := ht
  rw [feed_of_cond? h]
  simp only [hand, hor, hrpar, if_false, Bool.false_eq_true]
  unfold feedOperand
  split
  · next heq =>
    rw [heq] at h
    cases h
  · rfl
  · rw [if_pos hres]

/-- An operand is no `OR` outside parentheses. -/
theorem isOr_conjunction {l : Level} {op : Operand} (h : op.cond? = some o) :
    (l.conjunction o).isOr = false := by
  have ho : o.isOr = false := by
    unfold Operand.cond? at h
    split at h <;> cases h <;> rfl
  unfold Level.conjunction
  cases l.ands with
  | some a => rfl
  | none =>
    show (Cond.negate l.nots o).isOr = false
    cases l.nots with
    | zero => exact ho
    | succ n => rfl

/-- One more conjunct restricts the last alternative. -/
theorem finish_afterAnd (houter : s.outer = []) (a : List Token) :
    ((s.afterAnd o).reading a).finish =
      some (Cond.joinOr s.level.ors (.and (s.level.conjunction o) (.atom a))) := by
  simp [finish, reading, afterAnd, houter, Operand.cond?, Level.close, Level.conjunction,
    Cond.joinAnd, Cond.negate]

end CondState

/-! ### Runs of the statement parser -/

/-- What may follow a finished head or condition. -/
def clausesFit : List Token → Bool
  | [] => true
  | k :: rest => k.isClause && (rest.foldlM nestClause 0 == some 0)

/-- A finished head or condition, and the tokens after it. -/
def Statement.followed (h : List Token) (c : Option Cond) (ts : List Token) : Option Statement :=
  if h ≠ [] ∧ clausesFit ts then some ⟨h, c, ts⟩ else none

namespace Parse

theorem run_nil (p : Parse) : p.run [] = p.finish := rfl

theorem run_cons (p : Parse) (t : Token) (ts : List Token) :
    p.run (t :: ts) = (p.feed t).bind (·.run ts) := by
  simp only [run, foldlM_cons]
  cases p.feed t <;> rfl

theorem run_cons_eq_some
    (h : p.run (t :: ts) = some st) : ∃ p', p.feed t = some p' ∧ p'.run ts = some st := by
  rw [run_cons] at h
  exact Option.bind_eq_some_iff.mp h

theorem run_append (p : Parse) (ts us : List Token) :
    p.run (ts ++ us) = (ts.foldlM feed p).bind (·.run us) := by
  simp only [run, foldlM_append]
  cases ts.foldlM feed p <;> rfl

theorem run_clauses (h : List Token) (c : Option Cond) (k : Token) (rest : List Token) (d : Nat)
    (ts : List Token) :
    (Parse.clauses h c k rest d).run ts =
      if h ≠ [] ∧ ts.foldlM nestClause d = some 0 then some ⟨h, c, k :: (rest ++ ts)⟩ else none := by
  induction ts generalizing rest d with
  | nil =>
    rw [run_nil]
    simp [finish, and_comm]
  | cons t ts ih =>
    rw [run_cons]
    simp only [feed, foldlM_cons]
    cases nestClause d t with
    | none => simp
    | some d' => simp [ih]

/-- After a finished condition, the rest must be clauses. -/
theorem run_cond_done (hs : s.finish = some c) (hts : ∀ t ∈ ts.head?, t.isClause = true) :
    (Parse.cond h s).run ts = Statement.followed h (some c) ts := by
  obtain ⟨houter, o, ho, -⟩ := CondState.finish_eq_some hs
  cases ts with
  | nil =>
    rw [run_nil]
    simp [finish, hs, Statement.followed, clausesFit]
  | cons k rest =>
    have hk : k.isClause = true := hts k rfl
    have hfeed : (Parse.cond h s).feed k = some (.clauses h (some c) k [] 0) := by
      simp [feed, hk, houter, CondState.inAtom_of_cond? ho, hs]
    rw [run_cons, hfeed, Option.bind_some, run_clauses]
    simp [Statement.followed, clausesFit, hk]

theorem run_head_done (hts : ∀ t ∈ ts.head?, t.isClause = true ∧ t.isWord "WHERE" = false) :
    (Parse.head h 0).run ts = Statement.followed h none ts := by
  cases ts with
  | nil =>
    rw [run_nil]
    simp [finish, Statement.followed, clausesFit]
  | cons k rest =>
    obtain ⟨hk, hwhere⟩ := hts k rfl
    have hfeed : (Parse.head h 0).feed k = some (.clauses h none k [] 0) := by
      simp [feed, hk, hwhere]
    rw [run_cons, hfeed, Option.bind_some, run_clauses]
    simp [Statement.followed, clausesFit, hk]

/-- The tokens that a condition is read from are followed by the clauses. -/
theorem run_cond (hrun : (Parse.cond h s).run ts = some st) :
    ∃ us c, ts = us ++ st.clauses ∧ s.run us = some c ∧
      st.head = h ∧ st.cond = some c ∧ h ≠ [] ∧ ∀ t ∈ st.clauses.head?, t.isClause = true := by
  induction ts generalizing s with
  | nil =>
    rw [run_nil] at hrun
    simp only [finish] at hrun
    split_ifs at hrun with hh
    obtain ⟨c, hc, rfl⟩ := Option.map_eq_some_iff.mp hrun
    exact ⟨[], c, rfl, hc, rfl, rfl, hh, by simp⟩
  | cons t ts ih =>
    obtain ⟨p', hfeed, hrest⟩ := run_cons_eq_some hrun
    simp only [feed] at hfeed
    split_ifs at hfeed with hclause
    · -- the first clause ends the condition
      obtain ⟨c, hc, rfl⟩ := Option.map_eq_some_iff.mp hfeed
      rw [run_clauses] at hrest
      split_ifs at hrest with hfit
      cases hrest
      exact ⟨[], c, by simp, hc, rfl, rfl, hfit.1, by simpa using hclause.1⟩
    · obtain ⟨s', hs', rfl⟩ := Option.map_eq_some_iff.mp hfeed
      obtain ⟨us, c, rfl, hc, hrest⟩ := ih hrest
      refine ⟨t :: us, c, rfl, ?_, hrest⟩
      rw [CondState.run_cons, hs']
      exact hc

theorem head_le_of_run_head (hrun : (Parse.head hs d).run ts = some st) : hs <+: st.head := by
  induction ts generalizing hs d with
  | nil =>
    rw [run_nil] at hrun
    simp only [finish] at hrun
    split_ifs at hrun
    cases hrun
    exact prefix_rfl
  | cons t ts ih =>
    obtain ⟨p', hfeed, hrest⟩ := run_cons_eq_some hrun
    simp only [feed] at hfeed
    split_ifs at hfeed
    · cases hfeed
      obtain ⟨_, _, _, _, hhead, _⟩ := run_cond hrest
      rw [hhead]
    · cases hfeed
      rw [run_clauses] at hrest
      split_ifs at hrest
      cases hrest
      exact prefix_rfl
    · obtain ⟨d', -, rfl⟩ := Option.map_eq_some_iff.mp hfeed
      exact (prefix_append hs [t]).trans (ih hrest)

/-- A token that does not end the head belongs to it. -/
theorem mem_head_of_run_head (hrun : (Parse.head hs d).run (t :: ts) = some st)
    (hwhere : ¬(d = 0 ∧ t.isWord "WHERE" = true)) (hclause : ¬(d = 0 ∧ t.isClause = true)) :
    hs ++ [t] <+: st.head := by
  obtain ⟨p', hfeed, hrest⟩ := run_cons_eq_some hrun
  simp only [feed] at hfeed
  rw [if_neg hwhere, if_neg hclause] at hfeed
  obtain ⟨d', -, rfl⟩ := Option.map_eq_some_iff.mp hfeed
  exact head_le_of_run_head hrest

/-- Reading a simple comparison after an operand position. -/
theorem foldlM_plain {xs : List Token}
    (hop : s.operand = .empty) (hx : ∀ t ∈ x :: xs, t.plain = true) :
    (x :: xs).foldlM feed (Parse.cond h s) = some (.cond h (s.reading (x :: xs))) := by
  have hclause : ∀ {t : Token}, t.plain = true → t.isClause = false := by
    intro t ht
    simp only [Token.plain, Token.reserved, Bool.and_eq_true, Bool.not_eq_true',
      Bool.or_eq_false_iff] at ht
    exact ht.1.2.2
  have hrest : ∀ (ys ts : List Token), (∀ t ∈ ys, t.plain = true) →
      ys.foldlM feed (Parse.cond h (s.reading ts)) = some (.cond h (s.reading (ts ++ ys))) := by
    intro ys
    induction ys with
    | nil => intro ts _; simp
    | cons y ys ih =>
      intro ts hys
      have hy : y.plain = true := hys y (by simp)
      have hfeed : (Parse.cond h (s.reading ts)).feed y =
          some (.cond h (s.reading (ts ++ [y]))) := by
        simp [feed, hclause hy, CondState.feed_plain hy]
      rw [foldlM_cons, hfeed]
      show ys.foldlM feed _ = _
      rw [ih _ (fun t ht => hys t (mem_cons_of_mem _ ht)), append_assoc,
        singleton_append]
  have hfirst : (Parse.cond h s).feed x = some (.cond h (s.reading [x])) := by
    have hplain : x.plain = true := hx x (by simp)
    simp [feed, hclause hplain, CondState.feed_plain_empty hop hplain]
  rw [foldlM_cons, hfirst]
  show xs.foldlM feed _ = _
  rw [hrest _ _ (fun t ht => hx t (mem_cons_of_mem _ ht))]
  rfl

end Parse

/-! ### Inserting a conjunct -/

/-- The tokens that add the atom `a` to a statement. -/
def conjunct (hasWhere : Bool) (a : List Token) : List Token :=
  .word (if hasWhere then "AND".toList else "WHERE".toList) :: a

/-- The place is the end of the condition, the word fits, and the condition is
    no `OR` at its outermost level. -/
def InsertsWell (p : Parse) (ts : List Token) (hasWhere : Bool) (st : Statement) : Prop :=
  p.finish = some { st with clauses := [] } ∧ ts = st.clauses ∧ hasWhere = st.cond.isSome ∧
    ∀ c ∈ st.cond, c.isOr = false

/-- The rewritten statement is the statement restricted by the atom. -/
def Restricts (p : Parse) (a ts : List Token) (hasWhere : Bool) (st : Statement) : Prop :=
  ∃ st', p.run (conjunct hasWhere a ++ ts) = some st' ∧ st'.Same (st.restrict a)

theorem plain_ordinary (h : t.plain = true) : t.ordinary = true := by
  simp only [Token.plain, Bool.and_eq_true] at h
  exact h.1.1

theorem Statement.followed_eq_some {c : Option Cond} (hf : Statement.followed h c ts = some st) :
    st = ⟨h, c, ts⟩ ∧ ∀ c', Statement.followed h c' ts = some ⟨h, c', ts⟩ := by
  unfold Statement.followed at hf ⊢
  split_ifs at hf with hfit
  cases hf
  exact ⟨rfl, fun c' => if_pos hfit⟩

section Insert

variable {xs : List Token} {w : Bool}

/-- At a place in the head, the head ends there or goes on with the next token. -/
theorem run_head_cases (hrun : (Parse.head hs d).run ts = some st)
    (hts : ∀ t ∈ ts.head?, t.isWord "WHERE" = false) :
    (d = 0 ∧ Statement.followed hs none ts = some st ∧ ∀ t ∈ ts.head?, t.isClause = true) ∨
      ∃ t ∈ ts.head?, hs ++ [t] <+: st.head := by
  cases ts with
  | nil =>
    rw [Parse.run_nil] at hrun
    simp only [Parse.finish] at hrun
    split_ifs at hrun with hfit
    cases hrun
    exact Or.inl ⟨hfit.1, by simp [Statement.followed, clausesFit, hfit.2], by simp⟩
  | cons t ts =>
    have hwhere : t.isWord "WHERE" = false := hts t rfl
    by_cases hclause : d = 0 ∧ t.isClause = true
    · obtain ⟨rfl, hclause⟩ := hclause
      have hhead : ∀ u ∈ (t :: ts).head?, u.isClause = true := by simpa using hclause
      refine Or.inl ⟨rfl, ?_, hhead⟩
      rw [← Parse.run_head_done (fun u hu => ⟨hhead u hu, hts u hu⟩)]
      exact hrun
    · exact Or.inr ⟨t, rfl, Parse.mem_head_of_run_head hrun (by simp [hwhere]) hclause⟩

theorem eq_of_snoc_le {l : List Token} (ht : hs ++ [t] <+: l) (hu : hs ++ [u] <+: l) : t = u := by
  obtain ⟨r, rfl⟩ := ht
  obtain ⟨r', h⟩ := hu
  simp only [append_assoc, append_cancel_left_eq, singleton_append,
    List.cons.injEq] at h
  exact h.1.symm

theorem not_snoc_prefix_self : ¬ hs ++ [t] <+: hs := by
  intro h
  have hlen := h.length_le
  rw [length_append, length_singleton] at hlen
  exact Nat.not_succ_le_self _ hlen

/-- Where a head goes on with `AND`, or with `WHERE` in parentheses, the word belongs to it. -/
theorem word_mem_head (hrun : (Parse.head hs d).run (conjunct w (x :: xs) ++ ts) = some st')
    (hw : w = true ∨ d ≠ 0) :
    hs ++ [.word (if w then "AND".toList else "WHERE".toList)] <+: st'.head := by
  refine Parse.mem_head_of_run_head hrun ?_ ?_
  · rintro ⟨rfl, hword⟩
    rcases hw with rfl | hd
    · exact absurd hword (by decide)
    · exact hd rfl
  · rintro ⟨-, hclause⟩
    revert hclause
    cases w <;> decide

theorem run_where :
    (Parse.head hs 0).run (conjunct false (x :: xs) ++ ts) =
      (Parse.cond hs {}).run (x :: xs ++ ts) := by
  have hfeed : (Parse.head hs 0).feed (.word "WHERE".toList) = some (.cond hs {}) := by
    have hword : 0 = 0 ∧ Token.isWord (.word "WHERE".toList) "WHERE" = true := ⟨rfl, by decide⟩
    rw [Parse.feed, if_pos hword]
  show (Parse.head hs 0).run (.word "WHERE".toList :: (x :: xs ++ ts)) = _
  rw [Parse.run_cons, hfeed, Option.bind_some]

/-- In the head: only before the first clause, with `WHERE`. -/
theorem insert_head_iff (hrun : (Parse.head hs d).run ts = some st)
    (hx : ∀ t ∈ x :: xs, t.plain = true)
    (hts : ∀ t ∈ ts.head?, t.ordinary = true ∧ t.isWord "WHERE" = false) :
    Restricts (.head hs d) (x :: xs) ts w st ↔ InsertsWell (.head hs d) ts w st := by
  have hplace := run_head_cases hrun (fun t ht => (hts t ht).2)
  constructor
  · rintro ⟨st', hrun', hhead, -, -⟩
    change st'.head = st.head at hhead
    rcases hplace with ⟨rfl, hfollowed, -⟩ | ⟨t, ht, hlonger⟩
    · obtain ⟨rfl, hfit⟩ := Statement.followed_eq_some hfollowed
      have hw : w = false := by
        by_contra hw
        have hmem := word_mem_head hrun' (Or.inl (by simpa using hw))
        rw [hhead] at hmem
        exact not_snoc_prefix_self hmem
      have hne : hs ≠ [] := by
        intro hempty
        simp [Statement.followed, hempty] at hfollowed
      exact ⟨by simp [Parse.finish, hne], rfl, by simp [hw], by simp⟩
    · -- the head goes on, so it would have to go on with the inserted word
      exfalso
      obtain ⟨hord, hwhere⟩ := hts t ht
      by_cases hw : w = true ∨ d ≠ 0
      · have hmem := word_mem_head hrun' hw
        rw [hhead] at hmem
        rw [← eq_of_snoc_le hmem hlonger] at hord hwhere
        revert hord hwhere
        cases w <;> decide
      · obtain ⟨hw, hd⟩ := not_or.mp hw
        rw [Bool.not_eq_true] at hw
        rw [not_not] at hd
        subst hw hd
        rw [run_where] at hrun'
        obtain ⟨_, _, _, _, hhead', _⟩ := Parse.run_cond hrun'
        rw [← hhead, hhead'] at hlonger
        exact not_snoc_prefix_self hlonger
  · rintro ⟨hfinish, rfl, rfl, -⟩
    simp only [Parse.finish] at hfinish
    split_ifs at hfinish with hfit
    obtain ⟨rfl, hne⟩ := hfit
    obtain ⟨hs', c', clauses⟩ := st
    simp only [Option.some.injEq, Statement.mk.injEq, and_true] at hfinish
    obtain ⟨rfl, rfl⟩ := hfinish
    rcases hplace with ⟨-, hfollowed, hclause⟩ | ⟨t, ht, hlonger⟩
    · refine ⟨⟨hs, some (.atom (x :: xs)), clauses⟩, ?_, rfl, rfl, rfl⟩
      show (Parse.head hs 0).run (conjunct false (x :: xs) ++ clauses) = _
      have hs' : (CondState.reading {} (x :: xs)).finish = some (.atom (x :: xs)) := rfl
      rw [run_where, Parse.run_append, Parse.foldlM_plain rfl hx, Option.bind_some,
        Parse.run_cond_done hs' hclause]
      exact (Statement.followed_eq_some hfollowed).2 _
    · exact absurd hlonger not_snoc_prefix_self

/-- After the end of the condition: `AND` restricts it, unless it is an `OR`. -/
theorem insert_and (hs : s.finish = some c)
    (hts : ∀ t ∈ ts.head?, t.isClause = true) (hx : ∀ t ∈ x :: xs, t.plain = true) :
    ∃ l o, c = Cond.joinOr l o ∧ o.isOr = false ∧
      (Parse.cond h s).run (conjunct true (x :: xs) ++ ts) =
        Statement.followed h (some (Cond.joinOr l (.and o (.atom (x :: xs))))) ts := by
  obtain ⟨houter, o, ho, rfl⟩ := CondState.finish_eq_some hs
  refine ⟨s.level.ors, s.level.conjunction o, rfl, CondState.isOr_conjunction ho, ?_⟩
  have hfeed : (Parse.cond h s).feed (.word "AND".toList) = some (.cond h (s.afterAnd o)) := by
    have hclause : ¬ (Token.isClause (.word "AND".toList) = true ∧ s.outer = [] ∧
        s.inAtom = false) := fun hc => absurd hc.1 (by decide)
    have hand : Token.isWord (.word "AND".toList) "AND" = true := by decide
    simp only [Parse.feed]
    rw [if_neg hclause, CondState.feed_of_cond? ho, if_pos hand]
    rfl
  show (Parse.cond h s).run (.word "AND".toList :: (x :: xs ++ ts)) = _
  rw [Parse.run_cons, hfeed, Option.bind_some, Parse.run_append, Parse.foldlM_plain rfl hx,
    Option.bind_some, Parse.run_cond_done (CondState.finish_afterAnd houter _) hts]

/-- After the end of the condition there is no second `WHERE`. -/
theorem insert_where (hs : s.finish = some c) :
    (Parse.cond h s).run (conjunct false (x :: xs) ++ ts) = none := by
  obtain ⟨houter, o, ho, -⟩ := CondState.finish_eq_some hs
  have hclause : ¬ (Token.isClause (.word "WHERE".toList) = true ∧ s.outer = [] ∧
      s.inAtom = false) := fun hc => absurd hc.1 (by decide)
  have hfeed : (Parse.cond h s).feed (.word "WHERE".toList) = none := by
    simp only [Parse.feed]
    rw [if_neg hclause, CondState.feed_reserved ho (by decide) (by decide)]
    rfl
  show (Parse.cond h s).run (.word "WHERE".toList :: (x :: xs ++ ts)) = _
  rw [Parse.run_cons, hfeed]
  rfl

/-- Inside the condition the inserted atom swallows the token after it. -/
theorem insert_inside {us : List Token} {c' : Cond} (hx : ∀ t ∈ x :: xs, t.plain = true)
    (hu : u.ordinary = true) (hmem : u ∉ x :: xs) (hc : s.run (u :: us) = some c)
    (hrun : s.run (conjunct w (x :: xs) ++ u :: us) = some c') :
    c'.strip ≠ .and c.strip (.atom (x :: xs)) := by
  intro heq
  have hxs : (x :: xs).filter Token.ordinary = x :: xs :=
    filter_eq_self.mpr fun t ht => plain_ordinary (hx t ht)
  have htext : c'.text = c.text ++ (x :: xs) := by
    rw [← Cond.text_strip, heq, Cond.text_and, Cond.text_strip]
    simp [Cond.text, Cond.atoms, hxs]
  rw [CondState.run_text hrun, CondState.run_text hc, append_assoc, append_cancel_left_eq,
    filter_append, filter_cons_of_pos hu] at htext
  cases w with
  | true =>
    -- the condition goes on with `x` instead of `u`
    rw [conjunct, filter_cons_of_neg (by decide), hxs] at htext
    exact hmem (by simp [(List.cons.inj htext).1])
  | false =>
    -- the word is part of the condition
    rw [conjunct, filter_cons_of_pos (by decide), hxs] at htext
    have hlen := congrArg List.length htext
    simp only [length_append, length_cons] at hlen
    omega

/-- In the condition: only at its end, with `AND`. -/
theorem insert_cond_iff (hrun : (Parse.cond h s).run ts = some st)
    (hx : ∀ t ∈ x :: xs, t.plain = true) (hts : ∀ t ∈ ts.head?, t.ordinary = true ∧ t ∉ x :: xs) :
    Restricts (.cond h s) (x :: xs) ts w st ↔ InsertsWell (.cond h s) ts w st := by
  obtain ⟨us, c, hsplit, hc, hhead, hcond, hne, hclause⟩ := Parse.run_cond hrun
  have hrestrict : ∀ st' : Statement, st'.Same (st.restrict (x :: xs)) ↔ st'.head = h ∧
      st'.cond.map Cond.strip = some (.and c.strip (.atom (x :: xs))) ∧
        st'.clauses = st.clauses := by
    intro st'
    simp [Statement.Same, Statement.restrict, hcond, hhead, Cond.strip]
  have hfinish : (Parse.cond h s).finish = some { st with clauses := [] } ↔
      s.finish = some c := by
    obtain ⟨hs', c', clauses⟩ := st
    simp only at hhead hcond
    subst hhead hcond
    simp [Parse.finish, hne]
  unfold Restricts InsertsWell
  rw [hfinish]
  simp only [hrestrict, hcond, Option.isSome_some]
  cases us with
  | nil =>
    -- the place is the end of the condition
    have hs : s.finish = some c := hc
    have hts' : ts = st.clauses := by simpa using hsplit
    rw [← hts'] at hclause ⊢
    have hfollowed : Statement.followed h (some c) ts = some st := by
      rw [← Parse.run_cond_done hs hclause]
      exact hrun
    obtain ⟨l, o, rfl, ho, hand⟩ := insert_and (h := h) hs hclause hx
    cases w with
    | false => simp [insert_where hs]
    | true =>
      rw [hand]
      have hfit := (Statement.followed_eq_some hfollowed).2
      rw [hfit]
      cases l with
      | none => simp [Cond.joinOr, Cond.strip, ho, hs]
      | some l => simp [Cond.joinOr, Cond.strip, Cond.isOr]
  | cons u us =>
    have hu := hts u (by simp [hsplit])
    constructor
    · rintro ⟨st', hrun', -, hcond', hclauses⟩
      obtain ⟨us', c', hsplit', hc', -, hcond'', -⟩ := Parse.run_cond hrun'
      -- the tokens before the clauses are the inserted ones and the old ones
      have hus' : us' = conjunct w (x :: xs) ++ u :: us := by
        rw [hclauses, hsplit, ← append_assoc] at hsplit'
        exact (append_cancel_right hsplit').symm
      rw [hus'] at hc'
      rw [hcond'', Option.map_some, Option.some.injEq] at hcond'
      exact absurd hcond' (insert_inside hx hu.1 hu.2 hc hc')
    · rintro ⟨-, hclauses, -⟩
      rw [hclauses] at hsplit
      have hlen := congrArg List.length hsplit
      rw [length_append, length_cons] at hlen
      omega

theorem Cond.ne_and_self (c : Cond) (a : Cond) : c ≠ .and c a := by
  intro h
  have hsize := congrArg sizeOf h
  simp at hsize
  omega

theorem insert_clauses_iff {rest : List Token} {c : Option Cond} {k : Token}
    (hrun : (Parse.clauses h c k rest d).run ts = some st) :
    Restricts (.clauses h c k rest d) (x :: xs) ts w st ↔
      InsertsWell (.clauses h c k rest d) ts w st := by
  rw [Parse.run_clauses] at hrun
  split_ifs at hrun
  cases hrun
  constructor
  · rintro ⟨st', hrun', -, hcond, -⟩
    rw [Parse.run_clauses] at hrun'
    split_ifs at hrun'
    cases hrun'
    cases c with
    | none => cases hcond
    | some c =>
      simp only [Statement.restrict, Option.map_some, Option.some.injEq, Cond.strip] at hcond
      exact absurd hcond (Cond.ne_and_self _ _)
  · rintro ⟨hfinish, -⟩
    simp only [Parse.finish] at hfinish
    split_ifs at hfinish
    cases hfinish

/-- Inserting `AND a` or `WHERE a` restricts the statement by `a` exactly at
    the end of a condition that is no `OR`, with the word that fits. -/
theorem insert_iff (hrun : p.run ts = some st) (hx : ∀ t ∈ x :: xs, t.plain = true)
    (hts : ∀ t ∈ ts.head?, t.ordinary = true ∧ t.isWord "WHERE" = false ∧ t ∉ x :: xs) :
    Restricts p (x :: xs) ts w st ↔ InsertsWell p ts w st := by
  cases p with
  | head hs d => exact insert_head_iff hrun hx fun t ht => ⟨(hts t ht).1, (hts t ht).2.1⟩
  | cond h s => exact insert_cond_iff hrun hx (fun t ht => ⟨(hts t ht).1, (hts t ht).2.2⟩)
  | clauses h c k rest d => exact insert_clauses_iff hrun

/-- A statement with one token exchanged for another is not the statement
    restricted by an atom. -/
theorem exchange_not_restricts {t' : Token} (hrun : p.run (t :: ts) = some st)
    (hrun' : p.run (t' :: ts) = some st') (hne : t ≠ t') (ht : t.reserved = false)
    (ht' : t'.reserved = false) (hx : x.ordinary = true) (hxt : x ≠ t')
    (hfree : ∀ c ∈ st.cond, ¬ c.Mentions x) : ¬ st'.Same (st.restrict (x :: xs)) := by
  have hclause : t.isClause = false := (Bool.or_eq_false_iff.mp ht).2
  have hclause' : t'.isClause = false := (Bool.or_eq_false_iff.mp ht').2
  have hwhere : t.isWord "WHERE" = false := (Bool.or_eq_false_iff.mp ht).1
  have hwhere' : t'.isWord "WHERE" = false := (Bool.or_eq_false_iff.mp ht').1
  rintro ⟨hhead, hcond, hclauses⟩
  change st'.head = st.head at hhead
  change st'.clauses = st.clauses at hclauses
  cases p with
  | head hs d =>
    have hmem := Parse.mem_head_of_run_head hrun (by simp [hwhere]) (by simp [hclause])
    have hmem' := Parse.mem_head_of_run_head hrun' (by simp [hwhere']) (by simp [hclause'])
    rw [hhead] at hmem'
    exact hne (eq_of_snoc_le hmem hmem')
  | cond h s =>
    obtain ⟨us, c, hsplit, hc, -, hcond₁, -, hfirst⟩ := Parse.run_cond hrun
    obtain ⟨us', c', hsplit', hc', -, hcond₂, -⟩ := Parse.run_cond hrun'
    rw [hclauses] at hsplit'
    cases us with
    | nil =>
      rw [show st.clauses = t :: ts from hsplit.symm] at hfirst
      rw [hfirst t rfl] at hclause
      exact Bool.noConfusion hclause
    | cons u us =>
      -- the tokens after the exchanged one are read into the condition in both
      obtain ⟨rfl, hts⟩ : t = u ∧ ts = us ++ st.clauses := by simpa using hsplit
      have hus' : us' = t' :: us := by
        rw [hts, ← cons_append] at hsplit'
        exact (append_cancel_right hsplit').symm
      have hfree' := hfree c hcond₁
      have hmem : x ∈ c'.text := by
        simp only [hcond₂, Statement.restrict, hcond₁, Option.map_some, Option.some.injEq,
          Cond.strip] at hcond
        rw [← Cond.text_strip, hcond]
        simp [Cond.text, Cond.atoms, hx]
      rw [← Cond.mem_text hx, CondState.run_text hc] at hfree'
      rw [CondState.run_text hc', hus'] at hmem
      simp_all
  | clauses h c k rest d =>
    rw [Parse.run_clauses] at hrun hrun'
    split_ifs at hrun hrun'
    cases hrun
    cases hrun'
    simp only [List.cons.injEq, append_cancel_left_eq, and_true, true_and] at hclauses
    exact hne hclauses.symm

end Insert

end Sql
