import LoanWorkflow.Framework.Decimal
import LoanWorkflow.Framework.Parsing
import LoanWorkflow.Model.Config

/-! # SCIM filters

    `ParseSCIMFilter`: a scanner over runes and a recursive descent parser
    with one function a level (`or`, `and`, `not`, parentheses and
    comparisons). The parser drops the tokens it has read and counts the nodes
    it makes; a filter of more than fifty nodes is refused.
-/

namespace LoanWorkflow

open Parsing

/-! ## Characters -/

/-- The tables of the `unicode` package that the scanner reads. On ASCII they are known, and
    letters and digits are no blanks. -/
structure Unicode where
  isLetter : Char → Bool
  isDigit : Char → Bool
  toLower : Char → Char
  letter_ascii : ∀ c : Char, c.toNat < 128 → isLetter c = c.isAlpha
  digit_ascii : ∀ c : Char, c.toNat < 128 → isDigit c = c.isDigit
  lower_ascii : ∀ c : Char, c.toNat < 128 → toLower c = c.toLower
  letter_not_space : ∀ c, isLetter c = true → isSpace c = false
  digit_not_space : ∀ c, isDigit c = true → isSpace c = false

namespace Unicode

/-- `strings.ToLower`. -/
def lower (u : Unicode) (text : List Char) : List Char := text.map u.toLower

def isIdentifierRune (u : Unicode) (c : Char) : Bool :=
  u.isLetter c || u.isDigit c || c == '_' || c == '.' || c == '-' || c == ':'

end Unicode

/-- `strings.EqualFold` with a keyword. The keywords have no letter that another script folds
    to. -/
def equalFold (text : List Char) (keyword : String) : Bool := text.map Char.toLower == keyword.toList

/-! ## Tokens -/

inductive FilterToken where
  | eof
  | identifier (val : List Char)
  | string (val : List Char)
  | number (val : List Char)
  | bool (val : Bool)
  | lparen
  | rparen
deriving DecidableEq

def errInvalidSCIMFilter : Err := "invalid scim filter"

def unescape? : Char → Option Char
  | '"' => some '"'
  | '\\' => some '\\'
  | '/' => some '/'
  | 'b' => some '\x08'
  | 'f' => some '\x0c'
  | 'n' => some '\n'
  | 'r' => some '\r'
  | 't' => some '\t'
  | _ => none

/-- The value of a string behind its opening quote, and the text behind the closing one. -/
def stringLiteral? : List Char → Option (List Char × List Char)
  | [] => none
  | '"' :: rest => some ([], rest)
  | ['\\'] => none
  | '\\' :: c :: rest =>
    match unescape? c with
    | some d => (stringLiteral? rest).map (fun r => (d :: r.1, r.2))
    | none => none
  | c :: rest => (stringLiteral? rest).map (fun r => (c :: r.1, r.2))

/-- A number: a digit or a minus sign, digits and points, if that is a number. -/
def numberLiteral? (u : Unicode) (c : Char) (rest : List Char) : Option (List Char × List Char) :=
  if u.isDigit c || c == '-' then
    let lit := c :: rest.takeWhile (fun d => u.isDigit d || d == '.')
    if (Decimal.ofText? lit).isSome then
      some (lit, rest.dropWhile (fun d => u.isDigit d || d == '.'))
    else none
  else none

def wordToken (u : Unicode) (lit : List Char) : FilterToken :=
  let lower := u.lower (trimRunes lit)
  if lower = "true".toList then .bool true
  else if lower = "false".toList then .bool false
  else .identifier lit

/-- One round of the loop in `tokenizeFilter`. -/
def filterStep (u : Unicode) : Step Err FilterToken := fun c rest =>
  if isSpace c then .ok (none, rest)
  else if c = '(' then .ok (some .lparen, rest)
  else if c = ')' then .ok (some .rparen, rest)
  else if c = '"' then
    match stringLiteral? rest with
    | some (val, rest') => .ok (some (.string val), rest')
    | none => .error errInvalidSCIMFilter
  else
    match numberLiteral? u c rest with
    | some (lit, rest') => .ok (some (.number lit), rest')
    | none =>
      if u.isIdentifierRune c then
        .ok (some (wordToken u (c :: rest.takeWhile u.isIdentifierRune)),
          rest.dropWhile u.isIdentifierRune)
      else .error errInvalidSCIMFilter

def tokenizeFilter (u : Unicode) (input : List Char) : Except Err (List FilterToken) :=
  (scan (filterStep u) input).map (· ++ [.eof])

/-! ## Trees -/

inductive CompareOp where
  | eq | ne | co | sw | ew | pr | gt | ge | lt | le
deriving DecidableEq, Repr

namespace CompareOp

def name : CompareOp → String
  | .eq => "eq"
  | .ne => "ne"
  | .co => "co"
  | .sw => "sw"
  | .ew => "ew"
  | .pr => "pr"
  | .gt => "gt"
  | .ge => "ge"
  | .lt => "lt"
  | .le => "le"

def ofText? (text : List Char) : Option CompareOp :=
  [eq, ne, co, sw, ew, pr, gt, ge, lt, le].find? (fun op => op.name.toList == text)

end CompareOp

inductive LogicalOp where
  | and | or
deriving DecidableEq, Repr

def LogicalOp.name : LogicalOp → String
  | .and => "and"
  | .or => "or"

inductive FilterValue where
  | str (text : List Char)
  | bool (b : Bool)
  | num (x : Double)
deriving DecidableEq

inductive SCIMFilterNode where
  | comparison (attr : List Char) (op : CompareOp) (value : Option FilterValue)
  | logical (op : LogicalOp) (left right : SCIMFilterNode)
  | not (operand : SCIMFilterNode)
deriving DecidableEq

/-! ## The parser -/

/-- The tokens that are not read yet, and the number of nodes made. -/
structure FilterParser where
  tokens : List FilterToken
  nodeCount : Nat

namespace FilterParser

def peek (p : FilterParser) : FilterToken := p.tokens.head?.getD .eof

/-- The parser behind the next token. -/
def consume (p : FilterParser) : FilterParser := { p with tokens := p.tokens.tail }

def newNode (node : SCIMFilterNode) : Parser Err FilterParser SCIMFilterNode := fun p =>
  .ok (node, { p with nodeCount := p.nodeCount + 1 })

/-- The parser behind a keyword, if that is the next token. -/
def keyword? (keyword : String) (p : FilterParser) : Option FilterParser :=
  match p.peek with
  | .identifier val => if equalFold val keyword then some p.consume else none
  | _ => none

def parseComparison (u : Unicode) : Parser Err FilterParser SCIMFilterNode := fun p =>
  match p.peek with
  | .identifier attr =>
    let p := p.consume
    if u.lower (trimRunes attr) = [] then .error errInvalidSCIMFilter
    else
      match p.peek with
      | .identifier opText =>
        let p := p.consume
        let comparison := SCIMFilterNode.comparison (u.lower (trimRunes attr))
        match CompareOp.ofText? (u.lower (trimRunes opText)) with
        | none => .error errInvalidSCIMFilter
        | some .pr => newNode (comparison .pr none) p
        | some op =>
          match p.peek with
          | .string val => newNode (comparison op (some (.str val))) p.consume
          | .bool val => newNode (comparison op (some (.bool val))) p.consume
          | .number val =>
            match Decimal.ofText? val with
            | some x => newNode (comparison op (some (.num x))) p.consume
            | none => .error errInvalidSCIMFilter
          | .identifier val => newNode (comparison op (some (.str val))) p.consume
          | _ => .error errInvalidSCIMFilter
      | _ => .error errInvalidSCIMFilter
  | _ => .error errInvalidSCIMFilter

def parsePrimary (u : Unicode) (parseExpression : Parser Err FilterParser SCIMFilterNode) :
    Parser Err FilterParser SCIMFilterNode := fun p =>
  match p.peek with
  | .lparen => do
    let (node, p) ← parseExpression p.consume
    match p.peek with
    | .rparen => .ok (node, p.consume)
    | _ => .error errInvalidSCIMFilter
  | _ => parseComparison u p

/-- `parseUnary`, with a bound on the number of `not`s. -/
def parseNots (u : Unicode) (parseExpression : Parser Err FilterParser SCIMFilterNode) :
    Nat → Parser Err FilterParser SCIMFilterNode
  | 0 => parsePrimary u parseExpression
  | fuel + 1 => fun p =>
    match p.keyword? "not" with
    | some p => do
      let (node, p) ← parseNots u parseExpression fuel p
      newNode (.not node) p
    | none => parsePrimary u parseExpression p

/-- There are no more `not`s than tokens. -/
def parseUnary (u : Unicode) (parseExpression : Parser Err FilterParser SCIMFilterNode) :
    Parser Err FilterParser SCIMFilterNode := fun p =>
  parseNots u parseExpression p.tokens.length p

def parseAnd (u : Unicode) (parseExpression : Parser Err FilterParser SCIMFilterNode) :
    Parser Err FilterParser SCIMFilterNode := fun p =>
  chain (parseUnary u parseExpression) (keyword? "and")
    (fun left right => newNode (.logical .and left right)) p.tokens.length p

def parseOr (u : Unicode) (parseExpression : Parser Err FilterParser SCIMFilterNode) :
    Parser Err FilterParser SCIMFilterNode := fun p =>
  chain (parseAnd u parseExpression) (keyword? "or")
    (fun left right => newNode (.logical .or left right)) p.tokens.length p

/-- `parseExpression`, with a bound on the depth of parentheses. -/
def parseExpression (u : Unicode) : Nat → Parser Err FilterParser SCIMFilterNode
  | 0 => fun _ => .error errInvalidSCIMFilter
  | depth + 1 => parseOr u (parseExpression u depth)

end FilterParser

/-- A parenthesis is a token, so the depth is bounded by the number of
    tokens. -/
def parseSCIMFilter (u : Unicode) (expression : List Char) : Except Err SCIMFilterNode :=
  let expression := trimRunes expression
  if expression = [] then .error ("ParseSCIMFilter: " ++ errInvalidSCIMFilter)
  else
    match tokenizeFilter u expression with
    | .error e => .error ("ParseSCIMFilter: " ++ e)
    | .ok tokens =>
      match FilterParser.parseExpression u (tokens.length + 1) ⟨tokens, 0⟩ with
      | .error e => .error ("ParseSCIMFilter: " ++ e)
      | .ok (root, p) =>
        if p.peek ≠ .eof then .error ("ParseSCIMFilter: " ++ errInvalidSCIMFilter)
        else if 50 < p.nodeCount then
          .error ("ParseSCIMFilter: " ++ errInvalidSCIMFilter ++ ": tooMany")
        else .ok root

end LoanWorkflow
