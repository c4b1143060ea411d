import LoanWorkflow.Framework.Decimal
import LoanWorkflow.Framework.Parsing
import LoanWorkflow.Model.Store

/-! # Approval expressions

    `Evaluate`: a byte scanner and a recursive descent parser that computes
    values instead of trees, with one function a level (`||`, `&&`,
    comparisons, and literals, fields or parentheses). Both operands of an
    operator are always evaluated. Values are those of a decoded JSON document;
    strings count as truth values and as numbers where they can be read so.
-/

namespace LoanWorkflow

open Parsing

/-! ## Values -/

/-- The library functions behind an evaluation. -/
structure ExprLibrary where
  /-- `unicode.ToLower`. -/
  toLower : Char → Char
  /-- The result of `strconv.ParseFloat(_, 64)`, if there is no error. -/
  parseFloat : List Char → Option Double
  /-- `fmt.Sprint` of a `float64`. -/
  formatFloat : Double → List Char
  /-- `strconv.Quote`, which is the verb `%q`. -/
  quote : List Char → List Char
  lower_ascii : ∀ c : Char, c.toNat < 128 → toLower c = c.toLower
  /-- Decimal texts are read as decimal numbers. -/
  parseFloat_decimal : ∀ text, (∀ c ∈ text, c.isDigit = true ∨ c = '.' ∨ c = '-') →
    parseFloat text = Decimal.ofText? text

/-- A value of an expression. A number of any type has its value as a `float64` and its printed
    text; what is no truth value, string or number has a printed text only, and an object also
    has its fields. -/
inductive ExprValue where
  | bool (b : Bool)
  | str (text : List Char)
  | num (x : Double) (text : List Char)
  | obj (fields : List (List Char × ExprValue)) (text : List Char)
  | other (text : List Char)

abbrev ExprContext := List (List Char × ExprValue)

/-- The loop of `lookupPath`. -/
def lookupParts : ExprValue → List (List Char) → Option ExprValue
  | current, [] => some current
  | .obj fields _, part :: parts =>
    match fields.lookup part with
    | some value => lookupParts value parts
    | none => none
  | _, _ :: _ => none

def lookupPath (ctx : ExprContext) (path : List Char) : Option ExprValue :=
  lookupParts (.obj ctx []) (path.splitOn '.')

section

variable (lib : ExprLibrary)

def asBool : ExprValue → Option Bool
  | .bool b => some b
  | .str text =>
    let s := trimRunes (text.map lib.toLower)
    if s = "true".toList then some true
    else if s = "false".toList then some false
    else none
  | _ => none

def asFloat : ExprValue → Option Double
  | .num x _ => some x
  | .str text => lib.parseFloat (trimRunes text)
  | _ => none

end

def ExprValue.sprint : ExprValue → List Char
  | .bool b => (toString b).toList
  | .str text | .num _ text | .obj _ text | .other text => text

inductive Comparison where
  | eq | ne | lt | gt | le | ge
deriving DecidableEq, Repr

namespace Comparison

def text : Comparison → String
  | .eq => "=="
  | .ne => "!="
  | .lt => "<"
  | .gt => ">"
  | .le => "<="
  | .ge => ">="

def onDoubles : Comparison → Double → Double → Bool
  | .eq, l, r => l.eq r
  | .ne, l, r => !l.eq r
  | .lt, l, r => l.lt r
  | .gt, l, r => r.lt l
  | .le, l, r => l.le r
  | .ge, l, r => r.le l

def onTexts : Comparison → List Char → List Char → Bool
  | .eq, l, r => decide (l = r)
  | .ne, l, r => decide (l ≠ r)
  | .lt, l, r => decide (l < r)
  | .gt, l, r => decide (r < l)
  | .le, l, r => decide (l ≤ r)
  | .ge, l, r => decide (r ≤ l)

end Comparison

/-! ## Errors -/

def syntaxError (position : Nat) (message : String) : Err :=
  "syntax error at position " ++ toString position ++ ": " ++ message

def typeError (message : String) : Err := "type error: " ++ message

def errInvalidExpression : Err := "invalid expression"

def errExpressionTypeMismatch : Err := "expression type mismatch"

def evaluateComparison (lib : ExprLibrary) (op : Comparison) (left right : ExprValue) :
    Except Err Bool :=
  match asFloat lib left with
  | some lNum =>
    match asFloat lib right with
    | some rNum => .ok (op.onDoubles lNum rNum)
    | none => .error (typeError "numeric comparison with non-numeric right operand")
  | none =>
    match asBool lib left with
    | some lBool =>
      match asBool lib right with
      | some rBool =>
        match op with
        | .eq => .ok (lBool == rBool)
        | .ne => .ok (lBool != rBool)
        | _ => .error (typeError "boolean supports only == and !=")
      | none => .error (typeError "boolean comparison with non-boolean right operand")
    | none => .ok (op.onTexts left.sprint right.sprint)

/-! ## Tokens -/

/-- The type of a token, with its text where the type does not tell it. -/
inductive ExprTokenType where
  | eof
  | identifier (text : List Char)
  | number (text : List Char)
  | string (text : List Char)
  | bool (b : Bool)
  | lparen
  | rparen
  | and
  | or
  | compare (op : Comparison)
deriving DecidableEq

def ExprTokenType.text : ExprTokenType → List Char
  | .eof => []
  | .identifier text | .number text | .string text => text
  | .bool b => (toString b).toList
  | .lparen => "(".toList
  | .rparen => ")".toList
  | .and => "&&".toList
  | .or => "||".toList
  | .compare op => op.text.toList

/-- `token`. -/
structure ExprToken where
  typ : ExprTokenType
  pos : Nat

def isNumberStart (c : Char) : Bool := c.isDigit || c == '-'

def isIdentifierStart (c : Char) : Bool := c.isAlpha || c == '_'

def isIdentifierPart (c : Char) : Bool := isIdentifierStart c || c.isDigit || c == '.'

/-- The operator at the front of a text: those of two characters come first. -/
def operator? : Char → List Char → Option (ExprTokenType × List Char)
  | '&', '&' :: rest => some (.and, rest)
  | '|', '|' :: rest => some (.or, rest)
  | '=', '=' :: rest => some (.compare .eq, rest)
  | '!', '=' :: rest => some (.compare .ne, rest)
  | '<', '=' :: rest => some (.compare .le, rest)
  | '>', '=' :: rest => some (.compare .ge, rest)
  | '<', rest => some (.compare .lt, rest)
  | '>', rest => some (.compare .gt, rest)
  | _, _ => none

/-- A string behind its opening quote: its value and the text behind the closing quote. A
    backslash stands for the character behind it. -/
def quoted (quote : Char) : List Char → Except String (List Char × List Char)
  | [] => .error "unterminated string literal"
  | ['\\'] => .error "unterminated escape sequence"
  | '\\' :: c :: rest => (quoted quote rest).map (fun r => (c :: r.1, r.2))
  | c :: rest =>
    if c = quote then .ok ([], rest) else (quoted quote rest).map (fun r => (c :: r.1, r.2))

def exprWord (lib : ExprLibrary) (word : List Char) : ExprTokenType :=
  let lower := word.map lib.toLower
  if lower = "true".toList then .bool true
  else if lower = "false".toList then .bool false
  else .identifier word

def byteLength (text : List Char) : Nat := (text.map Char.utf8Size).sum

/-- The first byte of a character, as a character: what `string(ch)` makes of it. -/
def firstByte (c : Char) : String :=
  match String.utf8EncodeChar c with
  | b :: _ => String.singleton (Char.ofNat b.toNat)
  | [] => ""

/-- One round of the loop in `tokenize`, for a text of `total` bytes. -/
def exprStep (lib : ExprLibrary) (total : Nat) : Step Err ExprToken := fun c rest =>
  let pos := total - byteLength (c :: rest)
  if c = ' ' ∨ c = '\t' ∨ c = '\n' ∨ c = '\r' then .ok (none, rest)
  else if c = '(' then .ok (some ⟨.lparen, pos⟩, rest)
  else if c = ')' then .ok (some ⟨.rparen, pos⟩, rest)
  else
    match operator? c rest with
    | some (typ, rest') => .ok (some ⟨typ, pos⟩, rest')
    | none =>
      if c = '\'' ∨ c = '"' then
        match quoted c rest with
        | .ok (val, rest') => .ok (some ⟨.string val, pos⟩, rest')
        | .error message => .error (syntaxError pos message)
      else if isNumberStart c then
        .ok (some ⟨.number (c :: rest.takeWhile (fun d => d.isDigit || d == '.')), pos⟩,
          rest.dropWhile (fun d => d.isDigit || d == '.'))
      else if isIdentifierStart c then
        .ok (some ⟨exprWord lib (c :: rest.takeWhile isIdentifierPart), pos⟩,
          rest.dropWhile isIdentifierPart)
      else .error (syntaxError pos ("unexpected character " ++ firstByte c))

def tokenize (lib : ExprLibrary) (expr : List Char) : Except Err (List ExprToken) :=
  (scan (exprStep lib (byteLength expr)) expr).map (· ++ [⟨.eof, byteLength expr⟩])

/-! ## The parser -/

/-- The tokens that are not read yet. -/
abbrev ExprParser := Parser Err (List ExprToken) ExprValue

namespace ExprParser

def current (toks : List ExprToken) : ExprToken := toks.head?.getD ⟨.eof, 0⟩

/-- The tokens behind an operator, if that is the next token. -/
def operator (typ : ExprTokenType) (toks : List ExprToken) : Option (List ExprToken) :=
  if (current toks).typ = typ then some toks.tail else none

section

variable (lib : ExprLibrary) (ctx : ExprContext)

/-- The value of `||` or `&&`. -/
def combine (symbol : String) (f : Bool → Bool → Bool) (left right : ExprValue) : ExprParser :=
  fun toks =>
    match asBool lib left with
    | none => .error (typeError ("left side of " ++ symbol ++ " is not boolean"))
    | some lb =>
      match asBool lib right with
      | none => .error (typeError ("right side of " ++ symbol ++ " is not boolean"))
      | some rb => .ok (.bool (f lb rb), toks)

def parsePrimary (parseExpression : ExprParser) : ExprParser := fun toks =>
  match (current toks).typ with
  | .lparen => do
    let (value, toks) ← parseExpression toks.tail
    if (current toks).typ ≠ .rparen then .error (syntaxError (current toks).pos "expected ')'")
    else .ok (value, toks.tail)
  | .number text =>
    match lib.parseFloat text with
    | some n => .ok (.num n (lib.formatFloat n), toks.tail)
    | none => .error (syntaxError (current toks).pos "invalid numeric literal")
  | .string text => .ok (.str text, toks.tail)
  | .bool b => .ok (.bool b, toks.tail)
  | .identifier text =>
    match lookupPath ctx text with
    | some value => .ok (value, toks.tail)
    | none => .error (typeError ("unknown field: " ++ String.ofList text))
  | _ => .error (syntaxError (current toks).pos "expected literal, identifier, or '('")

def parseComparison (parseExpression : ExprParser) : ExprParser := fun toks => do
  let (left, toks) ← parsePrimary lib ctx parseExpression toks
  match (current toks).typ with
  | .compare op => do
    let (right, toks) ← parsePrimary lib ctx parseExpression toks.tail
    let result ← evaluateComparison lib op left right
    .ok (.bool result, toks)
  | _ => .ok (left, toks)

def parseAnd (parseExpression : ExprParser) : ExprParser := fun toks =>
  chain (parseComparison lib ctx parseExpression) (operator .and) (combine lib "&&" and)
    toks.length toks

def parseOr (parseExpression : ExprParser) : ExprParser := fun toks =>
  chain (parseAnd lib ctx parseExpression) (operator .or) (combine lib "||" or)
    toks.length toks

/-- `parseExpression`, with a bound on the depth of parentheses. -/
def parseExpression : Nat → ExprParser
  | 0 => fun toks => .error (syntaxError (current toks).pos "expected literal, identifier, or '('")
  | depth + 1 => parseOr lib ctx (parseExpression depth)

end

end ExprParser

/-- `Evaluate`. A parenthesis is a token, so the depth is bounded by the number of tokens. -/
def evaluateExpression (lib : ExprLibrary) (expression : List Char) (contextData : ExprContext) :
    Except Err Bool :=
  let trimmed := trimRunes expression
  if trimmed = [] then .error ("Evaluate: " ++ errInvalidExpression ++ ": expression is empty")
  else
    match tokenize lib trimmed with
    | .error e => .error ("Evaluate: " ++ e)
    | .ok tokens =>
      match ExprParser.parseExpression lib contextData (tokens.length + 1) tokens with
      | .error e => .error ("Evaluate: " ++ e)
      | .ok (value, rest) =>
        if (ExprParser.current rest).typ ≠ .eof then
          .error ("Evaluate: " ++ errInvalidExpression ++ ": unexpected token " ++
            String.ofList (lib.quote (ExprParser.current rest).typ.text))
        else
          match asBool lib value with
          | none =>
            .error ("Evaluate: " ++ errExpressionTypeMismatch ++ ": final expression is not boolean")
          | some b => .ok b

end LoanWorkflow
