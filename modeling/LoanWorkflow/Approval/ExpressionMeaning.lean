import LoanWorkflow.Approval.Expression

/-! # What approval expressions mean

    A formula is the tree behind an expression, `Formula.eval` its meaning, and
    `Writes` says which texts a formula has: one level for each precedence,
    redundant parentheses and any blanks between the tokens. `Evaluate` computes
    the meaning of a formula from each of its texts.

    - `evaluateExpression_iff`
-/

namespace LoanWorkflow

open List Parsing Option

/-! ## Formulas -/

/-- Digits with an optional sign and an optional fraction. -/
structure DecimalLiteral where
  negative : Bool
  whole : List Char
  fraction : Option (List Char)
  whole_ne_nil : whole ≠ []
  whole_digits : ∀ c ∈ whole, c.isDigit = true
  fraction_digits : ∀ ds ∈ fraction, ∀ c ∈ ds, c.isDigit = true

namespace DecimalLiteral

def digits (n : DecimalLiteral) : List Char :=
  n.whole ++ (n.fraction.map ('.' :: ·)).getD []

def text (n : DecimalLiteral) : List Char :=
  if n.negative then '-' :: n.digits else n.digits

/-- The nearest double, unless the number is beyond all of them. -/
def double? (n : DecimalLiteral) : Option Double :=
  Double.nearest? n.negative (Decimal.value n.whole (n.fraction.getD []))

end DecimalLiteral

inductive Formula where
  | bool (b : Bool)
  | number (n : DecimalLiteral)
  | string (text : List Char)
  | field (path : List (List Char))
  | compare (op : Comparison) (left right : Formula)
  | and (left right : Formula)
  | or (left right : Formula)

inductive Fault where
  | unknownField (path : List (List Char))
  | outOfRange (n : DecimalLiteral)
  | illTyped (op : Comparison) (left right : ExprValue)
  | notBoolean (value : ExprValue)

/-- A comparison of two values. Numbers are compared with numbers, truth values with truth values
    and only for equality, and everything else as text. -/
def Comparison.values (lib : ExprLibrary) (op : Comparison) (left right : ExprValue) :
    Option Bool :=
  match asFloat lib left, asBool lib left with
  | some x, _ => (asFloat lib right).map (op.onDoubles x)
  | none, some b =>
    if op = .eq then (asBool lib right).map (b == ·)
    else if op = .ne then (asBool lib right).map (b != ·)
    else none
  | none, none => some (op.onTexts left.sprint right.sprint)

def truth (lib : ExprLibrary) (value : ExprValue) : Except Fault Bool :=
  match asBool lib value with
  | some b => .ok b
  | none => .error (.notBoolean value)

def Formula.eval (lib : ExprLibrary) (ctx : ExprContext) : Formula → Except Fault ExprValue
  | .bool b => .ok (.bool b)
  | .number n =>
    match n.double? with
    | some x => .ok (.num x (lib.formatFloat x))
    | none => .error (.outOfRange n)
  | .string text => .ok (.str text)
  | .field path =>
    match lookupParts (.obj ctx []) path with
    | some value => .ok value
    | none => .error (.unknownField path)
  | .compare op left right => do
    let l ← left.eval lib ctx
    let r ← right.eval lib ctx
    match op.values lib l r with
    | some b => .ok (.bool b)
    | none => .error (.illTyped op l r)
  | .and left right => do
    let l ← left.eval lib ctx
    let r ← right.eval lib ctx
    let a ← truth lib l
    let b ← truth lib r
    .ok (.bool (a && b))
  | .or left right => do
    let l ← left.eval lib ctx
    let r ← right.eval lib ctx
    let a ← truth lib l
    let b ← truth lib r
    .ok (.bool (a || b))

namespace DecimalLiteral

theorem head_whole (n : DecimalLiteral) : ∃ c ds, n.whole = c :: ds ∧ c.isDigit = true := by
  cases hwhole : n.whole with
  | nil => exact absurd hwhole n.whole_ne_nil
  | cons c ds => exact ⟨c, ds, rfl, n.whole_digits c (by simp [hwhole])⟩

/-- Reading the digits back. -/
theorem magnitude?_digits (n : DecimalLiteral) :
    Decimal.magnitude? n.digits = some (Decimal.value n.whole (n.fraction.getD [])) := by
  have hend : Separated Char.isDigit ((n.fraction.map ('.' :: ·)).getD []) := by
    cases n.fraction with
    | none => exact separated_nil _
    | some ds => exact separated_cons (by decide)
  obtain ⟨htake, hdrop⟩ := run_append_separated n.whole_digits hend
  unfold Decimal.magnitude? digits
  rw [htake, hdrop]
  cases hfraction : n.fraction with
  | none => exact if_neg n.whole_ne_nil
  | some ds =>
    have hds : ds.all Char.isDigit = true :=
      all_eq_true.mpr (n.fraction_digits ds (by simp [hfraction]))
    exact if_pos ⟨rfl, hds, .inl n.whole_ne_nil⟩

theorem ofText?_text (n : DecimalLiteral) : Decimal.ofText? n.text = n.double? := by
  unfold text double?
  by_cases hneg : n.negative = true
  · rw [if_pos hneg, hneg]
    show (Decimal.magnitude? n.digits).bind _ = _
    rw [magnitude?_digits]
    rfl
  · -- without a sign the text starts with a digit
    obtain ⟨c, ds, hwhole, hc⟩ := n.head_whole
    have hminus : c ≠ '-' := by
      intro h
      rw [h] at hc
      exact absurd hc (by decide)
    have hplain : Decimal.ofText? n.digits =
        (Decimal.magnitude? n.digits).bind (Double.nearest? false) := by
      unfold digits
      rw [hwhole, cons_append]
      unfold Decimal.ofText?
      split
      · next heq =>
        cases heq
        exact absurd rfl hminus
      · rfl
    rw [if_neg hneg, Bool.eq_false_iff.mpr hneg, hplain, magnitude?_digits]
    rfl

theorem mem_digits {n : DecimalLiteral} {c : Char} (h : c ∈ n.digits) :
    c.isDigit = true ∨ c = '.' := by
  rw [digits, mem_append] at h
  rcases h with h | h
  · exact .inl (n.whole_digits c h)
  · cases hfraction : n.fraction with
    | none => simp [hfraction] at h
    | some ds =>
      simp only [hfraction, map_some, getD_some, mem_cons] at h
      rcases h with h | h
      · exact .inr h
      · exact .inl (n.fraction_digits ds (by simp [hfraction]) c h)

/-- A sign or a digit, then digits and points. -/
theorem text_eq_cons (n : DecimalLiteral) : ∃ c tail, n.text = c :: tail ∧
    isNumberStart c = true ∧ ∀ d ∈ tail, d.isDigit = true ∨ d = '.' := by
  by_cases hneg : n.negative = true
  · exact ⟨'-', n.digits, if_pos hneg, by decide, fun d hd => mem_digits hd⟩
  · obtain ⟨c, ds, hwhole, hc⟩ := n.head_whole
    have hdigits : n.digits = c :: (ds ++ (n.fraction.map ('.' :: ·)).getD []) := by
      rw [digits, hwhole, cons_append]
    refine ⟨c, _, (if_neg hneg).trans hdigits, by simp [isNumberStart, hc], fun d hd => ?_⟩
    apply mem_digits
    rw [hdigits]
    exact mem_cons_of_mem c hd

theorem mem_text {n : DecimalLiteral} {c : Char} (h : c ∈ n.text) :
    c.isDigit = true ∨ c = '.' ∨ c = '-' := by
  obtain ⟨d, tail, htext, hd, htail⟩ := n.text_eq_cons
  simp only [isNumberStart, Bool.or_eq_true, beq_iff_eq] at hd
  rw [htext, mem_cons] at h
  rcases h with rfl | h
  · tauto
  · have hc := htail c h
    tauto

theorem parseFloat_text (lib : ExprLibrary) (n : DecimalLiteral) :
    lib.parseFloat n.text = n.double? := by
  rw [← ofText?_text]
  exact lib.parseFloat_decimal _ fun c hc => mem_text hc

end DecimalLiteral

/-! ## Texts of a formula -/

/-- The blanks that may stand between tokens. -/
def Blanks (text : List Char) : Prop := ∀ c ∈ text, c = ' ' ∨ c = '\t' ∨ c = '\n' ∨ c = '\r'

/-- The ways to write a string between two quotes: any character behind a backslash, and most
    characters as they are. -/
inductive Quoted (quote : Char) : List Char → List Char → Prop where
  | nil : Quoted quote [] []
  | plain {c : Char} {value text : List Char} (hquote : c ≠ quote) (hslash : c ≠ '\\')
      (h : Quoted quote value text) : Quoted quote (c :: value) (c :: text)
  | escaped {c : Char} {value text : List Char} (h : Quoted quote value text) :
      Quoted quote (c :: value) ('\\' :: c :: text)

/-- A letter or an underscore, then also digits and points, and no truth value. -/
structure Identifier (text : List Char) : Prop where
  start : ∃ c ∈ text.head?, isIdentifierStart c = true
  part : ∀ c ∈ text, isIdentifierPart c = true
  not_true : text.map Char.toLower ≠ "true".toList
  not_false : text.map Char.toLower ≠ "false".toList

/-- Literals and fields with their token and their text. -/
inductive Atom : Formula → ExprTokenType → List Char → Prop where
  | bool (b : Bool) {word : List Char} (h : word.map Char.toLower = (toString b).toList) :
      Atom (.bool b) (.bool b) word
  | number (n : DecimalLiteral) : Atom (.number n) (.number n.text) n.text
  | string {quote : Char} {value text : List Char} (hquote : quote = '\'' ∨ quote = '"')
      (h : Quoted quote value text) :
      Atom (.string value) (.string value) (quote :: (text ++ [quote]))
  | field {path : List (List Char)} (hpath : path ≠ []) (hparts : ∀ part ∈ path, '.' ∉ part)
      (h : Identifier (['.'].intercalate path)) :
      Atom (.field path) (.identifier (['.'].intercalate path)) (['.'].intercalate path)

inductive Level where
  | or | and | compare | primary

/-- The token types and the texts of a formula at a level. The text has no blanks at its ends. -/
inductive Writes : Level → Formula → List ExprTokenType → List Char → Prop where
  | atom {e : Formula} {typ : ExprTokenType} {text : List Char} (h : Atom e typ text) :
      Writes .primary e [typ] text
  | parens {e : Formula} {typs : List ExprTokenType} {text b b' : List Char}
      (h : Writes .or e typs text) (hb : Blanks b) (hb' : Blanks b') :
      Writes .primary e (.lparen :: (typs ++ [.rparen])) ('(' :: (b ++ text ++ b' ++ [')']))
  | compare (op : Comparison) {l r : Formula} {typs typs' : List ExprTokenType}
      {text text' b b' : List Char} (hl : Writes .primary l typs text)
      (hr : Writes .primary r typs' text') (hb : Blanks b) (hb' : Blanks b') :
      Writes .compare (.compare op l r) (typs ++ .compare op :: typs')
        (text ++ b ++ op.text.toList ++ b' ++ text')
  | and {l r : Formula} {typs typs' : List ExprTokenType}
      {text text' b b' : List Char} (hl : Writes .and l typs text)
      (hr : Writes .compare r typs' text') (hb : Blanks b) (hb' : Blanks b') :
      Writes .and (.and l r) (typs ++ .and :: typs') (text ++ b ++ "&&".toList ++ b' ++ text')
  | or {l r : Formula} {typs typs' : List ExprTokenType}
      {text text' b b' : List Char} (hl : Writes .or l typs text)
      (hr : Writes .and r typs' text') (hb : Blanks b) (hb' : Blanks b') :
      Writes .or (.or l r) (typs ++ .or :: typs') (text ++ b ++ "||".toList ++ b' ++ text')
  | ofPrimary {e : Formula} {typs : List ExprTokenType} {text : List Char}
      (h : Writes .primary e typs text) : Writes .compare e typs text
  | ofCompare {e : Formula} {typs : List ExprTokenType} {text : List Char}
      (h : Writes .compare e typs text) : Writes .and e typs text
  | ofAnd {e : Formula} {typs : List ExprTokenType} {text : List Char}
      (h : Writes .and e typs text) : Writes .or e typs text

/-- The text of a formula, with blanks around it. -/
def Formula.Text (e : Formula) (text : List Char) : Prop :=
  ∃ typs core before after, Writes .or e typs core ∧ Blanks before ∧ Blanks after ∧
    text = before ++ core ++ after

variable {c quote : Char} {expr : ExprParser} {tok : ExprToken} {typ : ExprTokenType} {e : Formula}
  {level : Level} {b rest tail text text' word : List Char} {toks : List ExprToken}
  {typs typs' : List ExprTokenType} {value : Option ExprValue}

/-! ## Scanning -/

section Scanning

variable {lib : ExprLibrary} {total : Nat}

theorem isSpace_of_blanks (h : Blanks text) : ∀ c ∈ text, isSpace c = true := by
  intro c hc
  rcases h c hc with rfl | rfl | rfl | rfl <;> decide

/-- Only the characters of operators start one. -/
theorem operator?_eq_none (hc : c ∉ ['&', '|', '=', '!', '<', '>']) (rest : List Char) :
    operator? c rest = none := by
  unfold operator?
  split <;> simp_all

/-- The scanner gets over a text and makes tokens of some types of it. -/
def Lexes (lib : ExprLibrary) (total : Nat) (text : List Char) (typs : List ExprTokenType)
    (rest : List Char) : Prop :=
  ∃ toks : List ExprToken, toks.map ExprToken.typ = typs ∧
    Scans (exprStep lib total) text toks rest

theorem Lexes.trans {rest' : List Char} (h : Lexes lib total text typs rest)
    (h' : Lexes lib total rest typs' rest') : Lexes lib total text (typs ++ typs') rest' := by
  obtain ⟨toks, rfl, htoks⟩ := h
  obtain ⟨toks', rfl, htoks'⟩ := h'
  exact ⟨toks ++ toks', map_append, htoks.trans htoks'⟩

/-- One round of the scanner. -/
theorem lexes_step {pos : Nat} (h : exprStep lib total c text = .ok (some ⟨typ, pos⟩, rest))
    (hshort : rest.length ≤ text.length) : Lexes lib total (c :: text) [typ] rest :=
  ⟨[⟨typ, pos⟩], rfl, .cons h hshort (.refl rest)⟩

theorem lexes_blanks {blanks : List Char} (h : Blanks blanks) (rest : List Char) :
    Lexes lib total (blanks ++ rest) [] rest := by
  induction blanks with
  | nil => exact ⟨[], rfl, .refl rest⟩
  | cons c blanks ih =>
    obtain ⟨toks, htyps, htoks⟩ := ih fun d hd => h d (mem_cons_of_mem c hd)
    have hround : exprStep lib total c (blanks ++ rest) = .ok (none, blanks ++ rest) :=
      if_pos (h c mem_cons_self)
    exact ⟨toks, htyps, .cons hround le_rfl htoks⟩

theorem lexes_lparen (rest : List Char) : Lexes lib total ('(' :: rest) [.lparen] rest :=
  lexes_step rfl le_rfl

theorem lexes_rparen (rest : List Char) : Lexes lib total (')' :: rest) [.rparen] rest :=
  lexes_step rfl le_rfl

/-- An operator that the scanner finds. -/
theorem lexes_operator (hc : c ∈ ['&', '|', '=', '!', '<', '>'])
    (h : operator? c text = some (typ, rest)) (hshort : rest.length ≤ text.length) :
    Lexes lib total (c :: text) [typ] rest := by
  have hblank : ¬ (c = ' ' ∨ c = '\t' ∨ c = '\n' ∨ c = '\r') := by
    rintro (rfl | rfl | rfl | rfl) <;> simp at hc
  have hopen : c ≠ '(' := by
    rintro rfl
    simp at hc
  have hclose : c ≠ ')' := by
    rintro rfl
    simp at hc
  have hround : exprStep lib total c text =
      .ok (some ⟨typ, total - byteLength (c :: text)⟩, rest) := by
    simp only [exprStep, if_neg hblank, if_neg hopen, if_neg hclose, h]
  exact lexes_step hround hshort

/-- The operator of a comparison, in front of something that does not start with `=`. -/
theorem lexes_comparison (op : Comparison) (h : ∀ c ∈ rest.head?, c ≠ '=') :
    Lexes lib total (op.text.toList ++ rest) [.compare op] rest := by
  cases op with
  | eq | ne | le | ge => exact lexes_operator (by decide) rfl (Nat.le_succ _)
  | lt =>
    have hop : operator? '<' rest = some (.compare .lt, rest) := by
      unfold operator?
      split <;> simp_all
    exact lexes_operator (by decide) hop le_rfl
  | gt =>
    have hop : operator? '>' rest = some (.compare .gt, rest) := by
      unfold operator?
      split <;> simp_all
    exact lexes_operator (by decide) hop le_rfl

/-- A character that starts a string, a number or a word. -/
def StartsAtom (c : Char) : Prop := c = '\'' ∨ c = '"' ∨ isNumberStart c ∨ isIdentifierStart c

/-- The scanner gets past its first cases for such a character. -/
theorem StartsAtom.passes (h : StartsAtom c) (rest : List Char) :
    ¬ (c = ' ' ∨ c = '\t' ∨ c = '\n' ∨ c = '\r') ∧ c ≠ '(' ∧ c ≠ ')' ∧ operator? c rest = none := by
  have hc : c ∉ [' ', '\t', '\n', '\r', '(', ')', '&', '|', '=', '!', '<', '>'] := by
    intro hc
    unfold StartsAtom at h
    simp only [mem_cons, not_mem_nil, or_false] at hc
    rcases hc with hc | hc | hc | hc | hc | hc | hc | hc | hc | hc | hc | hc <;>
      rw [hc] at h <;> exact absurd h (by decide)
  simp only [mem_cons, not_mem_nil, or_false, not_or] at hc
  exact ⟨by tauto, hc.2.2.2.2.1, hc.2.2.2.2.2.1, operator?_eq_none (by simp; tauto) rest⟩

/-- Reading a written string back. -/
theorem quoted_of_quoted (hquote : quote ≠ '\\') {value : List Char} (h : Quoted quote value text)
    (rest : List Char) : quoted quote (text ++ quote :: rest) = .ok (value, rest) := by
  -- a character that is no backslash is compared with the quote
  have hchar : ∀ {c : Char} {text : List Char}, c ≠ '\\' → quoted quote (c :: text) =
      if c = quote then .ok ([], text)
      else (quoted quote text).map (fun r => (c :: r.1, r.2)) := by
    intro c text hc
    rw [quoted]
    · intro hnil
      exact absurd hnil hc
    · intro d rest' hcons
      exact absurd hcons hc
  induction h with
  | nil => rw [nil_append, hchar hquote, if_pos rfl]
  | plain hne hslash h ih =>
    rw [cons_append, hchar hslash, if_neg hne, ih]
    rfl
  | escaped h ih =>
    rw [cons_append, cons_append, quoted, ih]
    rfl

theorem lexes_string {value : List Char} (hquote : quote = '\'' ∨ quote = '"')
    (h : Quoted quote value text) (rest : List Char) :
    Lexes lib total (quote :: (text ++ [quote]) ++ rest) [.string value] rest := by
  have hslash : quote ≠ '\\' := by
    rcases hquote with rfl | rfl <;> decide
  have hstart : StartsAtom quote := by
    rcases hquote with rfl | rfl
    · exact .inl rfl
    · exact .inr (.inl rfl)
  have htext : quote :: (text ++ [quote]) ++ rest = quote :: (text ++ quote :: rest) := by simp
  obtain ⟨hblank, hopen, hclose, hop⟩ := hstart.passes (text ++ quote :: rest)
  have hround : exprStep lib total quote (text ++ quote :: rest) =
      .ok (some ⟨.string value, total - byteLength (quote :: (text ++ quote :: rest))⟩, rest) := by
    simp only [exprStep, if_neg hblank, if_neg hopen, if_neg hclose, hop, if_pos hquote,
      quoted_of_quoted hslash h rest]
  rw [htext]
  exact lexes_step hround (by simp; omega)

theorem lexes_number (n : DecimalLiteral) (hrest : Separated isIdentifierPart rest) :
    Lexes lib total (n.text ++ rest) [.number n.text] rest := by
  obtain ⟨c, tail, htext, hc, htail⟩ := n.text_eq_cons
  have hall : ∀ d ∈ tail, (d.isDigit || d == '.') = true := by
    intro d hd
    simpa using htail d hd
  have hend : Separated (fun d => d.isDigit || d == '.') rest := by
    apply hrest.mono
    intro d hd
    simp only [Bool.or_eq_true] at hd
    simp only [isIdentifierPart, Bool.or_eq_true]
    tauto
  have hquote : ¬ (c = '\'' ∨ c = '"') := by
    rintro (rfl | rfl) <;> exact absurd hc (by decide)
  obtain ⟨hblank, hopen, hclose, hop⟩ := StartsAtom.passes (.inr (.inr (.inl hc))) (tail ++ rest)
  obtain ⟨htake, hdrop⟩ := run_append_separated hall hend
  have hround : exprStep lib total c (tail ++ rest) =
      .ok (some ⟨.number (c :: tail), total - byteLength (c :: (tail ++ rest))⟩, rest) := by
    simp only [exprStep, if_neg hblank, if_neg hopen, if_neg hclose, hop, if_neg hquote, if_pos hc,
      htake, hdrop]
  rw [htext]
  exact lexes_step hround (by simp)

/-- A word, which may be a truth value. -/
theorem lexes_word (lib : ExprLibrary) (total : Nat) (hc : isIdentifierStart c = true)
    (htail : ∀ d ∈ tail, isIdentifierPart d = true) (hrest : Separated isIdentifierPart rest) :
    Lexes lib total (c :: tail ++ rest) [exprWord lib (c :: tail)] rest := by
  have hquote : ¬ (c = '\'' ∨ c = '"') := by
    rintro (rfl | rfl) <;> exact absurd hc (by decide)
  have hnumber : ¬ isNumberStart c = true := by
    intro h
    simp only [isNumberStart, isIdentifierStart, Bool.or_eq_true, beq_iff_eq] at h hc
    rcases h with h | rfl
    · have hdigit := toNat_of_isDigit h
      rcases hc with hc | rfl
      · have halpha := toNat_of_isAlpha hc
        omega
      · exact absurd h (by decide)
    · exact absurd hc (by decide)
  obtain ⟨hblank, hopen, hclose, hop⟩ := StartsAtom.passes (.inr (.inr (.inr hc))) (tail ++ rest)
  obtain ⟨htake, hdrop⟩ := run_append_separated htail hrest
  have hround : exprStep lib total c (tail ++ rest) =
      .ok (some ⟨exprWord lib (c :: tail), total - byteLength (c :: (tail ++ rest))⟩, rest) := by
    simp only [exprStep, if_neg hblank, if_neg hopen, if_neg hclose, hop, if_neg hquote,
      if_neg hnumber, if_pos hc, htake, hdrop]
  exact lexes_step hround (by simp)

/-- Words consist of ASCII characters, on which the library folds case as expected. -/
theorem map_toLower (h : ∀ c ∈ word, isIdentifierPart c = true) :
    word.map lib.toLower = word.map Char.toLower := by
  apply map_congr_left
  intro c hc
  apply lib.lower_ascii
  have hpart := h c hc
  simp only [isIdentifierPart, isIdentifierStart, Bool.or_eq_true, beq_iff_eq] at hpart
  rcases hpart with ((h | rfl) | h) | rfl
  · have hrange := toNat_of_isAlpha h
    omega
  · decide
  · have hrange := toNat_of_isDigit h
    omega
  · decide

/-- The letters of a truth value. -/
theorem bool_word {b : Bool} (h : word.map Char.toLower = (toString b).toList) :
    ∃ c tail, word = c :: tail ∧ isIdentifierStart c = true ∧
      ∀ d ∈ c :: tail, isIdentifierPart d = true := by
  have hall : ∀ c ∈ word, c.isAlpha = true := by
    intro c hc
    have hmem : c.toLower ∈ (toString b).toList := h ▸ mem_map_of_mem hc
    have hlower : ∀ d ∈ (toString b).toList, d.isLower = true := by
      cases b <;> decide +kernel
    exact isAlpha_of_toLower (hlower _ hmem) rfl
  cases word with
  | nil => cases b <;> exact absurd h (by decide +kernel)
  | cons c tail =>
    refine ⟨c, tail, rfl, ?_, ?_⟩
    · simp [isIdentifierStart, hall c mem_cons_self]
    · intro d hd
      simp [isIdentifierPart, isIdentifierStart, hall d hd]

/-- The token of a literal or a field. -/
theorem Atom.lexes (h : Atom e typ text) (hrest : Separated isIdentifierPart rest) :
    Lexes lib total (text ++ rest) [typ] rest := by
  cases h with
  | bool b hword =>
    obtain ⟨c, tail, rfl, hc, htail⟩ := bool_word hword
    have hlex := lexes_word lib total hc
      (fun d hd => htail d (mem_cons_of_mem c hd)) hrest
    have htyp : exprWord lib (c :: tail) = .bool b := by
      unfold exprWord
      rw [map_toLower htail, hword]
      cases b with
      | false => rfl
      | true => rfl
    rwa [htyp] at hlex
  | number n => exact lexes_number n hrest
  | string hquote hvalue => exact lexes_string hquote hvalue rest
  | @field path hpath hparts hid =>
    obtain ⟨⟨c, hhead, hc⟩, hpart, htrue, hfalse⟩ := hid
    generalize ['.'].intercalate path = word at *
    cases word with
    | nil => cases hhead
    | cons d tail =>
      cases hhead
      have hlex := lexes_word lib total hc
        (fun d hd => hpart d (mem_cons_of_mem c hd)) hrest
      have htyp : exprWord lib (c :: tail) = .identifier (c :: tail) := by
        unfold exprWord
        rw [map_toLower hpart]
        simp only [if_neg htrue, if_neg hfalse]
      rwa [htyp] at hlex

/-- A text of a formula starts and ends with something to see, and does not start with `=`. -/
structure Edges (text : List Char) : Prop where
  front : ∃ c ∈ text.head?, isSpace c = false ∧ c ≠ '='
  back : ∃ c ∈ text.getLast?, isSpace c = false

theorem Edges.around (h : Edges text) (h' : Edges text')
    (b op b' : List Char) : Edges (text ++ b ++ op ++ b' ++ text') := by
  obtain ⟨c, hc, hfront⟩ := h.front
  obtain ⟨d, hd, hback⟩ := h'.back
  refine ⟨⟨c, ?_, hfront⟩, ⟨d, ?_, hback⟩⟩
  · cases text with
    | nil => cases hc
    | cons e text => exact hc
  · rw [getLast?_append_of_ne_nil _ (by rintro rfl; cases hd)]
    exact hd

theorem isSpace_of_identifierPart (h : isIdentifierPart c = true) : isSpace c = false := by
  simp only [isIdentifierPart, isIdentifierStart, Bool.or_eq_true, beq_iff_eq] at h
  rcases h with ((h | rfl) | h) | rfl
  · have hrange := toNat_of_isAlpha h
    exact not_isSpace_of_toNat (by omega) (by omega)
  · decide
  · have hrange := toNat_of_isDigit h
    exact not_isSpace_of_toNat (by omega) (by omega)
  · decide

/-- A text of letters, digits, points and signs. -/
theorem edges_of_plain (h : ∀ d ∈ c :: tail, isIdentifierPart d = true ∨ d = '-') :
    Edges (c :: tail) := by
  have hvisible : ∀ d ∈ c :: tail, isSpace d = false ∧ d ≠ '=' := by
    intro d hd
    rcases h d hd with hpart | rfl
    · refine ⟨isSpace_of_identifierPart hpart, ?_⟩
      rintro rfl
      exact absurd hpart (by decide)
    · decide
  obtain ⟨d, hd⟩ : ∃ d, (c :: tail).getLast? = some d := ⟨_, getLast?_eq_some_getLast (by simp)⟩
  exact ⟨⟨c, rfl, hvisible c mem_cons_self⟩, ⟨d, hd, (hvisible d (mem_of_getLast? hd)).1⟩⟩

theorem Atom.edges (h : Atom e typ text) : Edges text := by
  cases h with
  | bool b hword =>
    obtain ⟨c, tail, rfl, -, htail⟩ := bool_word hword
    exact edges_of_plain fun d hd => .inl (htail d hd)
  | number n =>
    obtain ⟨c, tail, htext, -, -⟩ := n.text_eq_cons
    rw [htext]
    apply edges_of_plain
    intro d hd
    rcases n.mem_text (htext ▸ hd) with h | h | h <;> simp [isIdentifierPart, h]
  | @string quote value text hquote hvalue =>
    have hvisible : isSpace quote = false ∧ quote ≠ '=' := by
      rcases hquote with rfl | rfl <;> decide
    refine ⟨⟨quote, rfl, hvisible⟩, ⟨quote, ?_, hvisible.1⟩⟩
    rw [← cons_append, getLast?_append_of_ne_nil _ (by simp)]
    rfl
  | @field path hpath hparts hid =>
    obtain ⟨⟨c, hhead, -⟩, hpart, -, -⟩ := hid
    generalize ['.'].intercalate path = word at *
    cases word with
    | nil => cases hhead
    | cons d tail => exact edges_of_plain fun d hd => .inl (hpart d hd)

theorem Writes.edges (h : Writes level e typs text) : Edges text := by
  induction h with
  | atom h => exact h.edges
  | @parens e typs text b b' h hb hb' ih =>
    have hopen : Edges ['('] := ⟨⟨'(', rfl, by decide⟩, ⟨'(', rfl, by decide⟩⟩
    have hclose : Edges [')'] := ⟨⟨')', rfl, by decide⟩, ⟨')', rfl, by decide⟩⟩
    exact hopen.around hclose b text b'
  | compare op hl hr hb hb' ihl ihr => exact ihl.around ihr _ _ _
  | and hl hr hb hb' ihl ihr => exact ihl.around ihr _ _ _
  | or hl hr hb hb' ihl ihr => exact ihl.around ihr _ _ _
  | ofPrimary h ih => exact ih
  | ofCompare h ih => exact ih
  | ofAnd h ih => exact ih

/-- Blanks end a word, and what stands behind them may. -/
theorem separated_blanks (hb : Blanks b)
    (hrest : Separated isIdentifierPart rest) : Separated isIdentifierPart (b ++ rest) := by
  cases b with
  | nil => exact hrest
  | cons c b =>
    apply separated_cons
    rcases hb c mem_cons_self with rfl | rfl | rfl | rfl <;> decide

/-- Behind an operator there is no `=`. -/
theorem head_ne_eq (hb : Blanks b) (h : Edges text) (rest : List Char) :
    ∀ c ∈ (b ++ (text ++ rest)).head?, c ≠ '=' := by
  intro c hc
  cases b with
  | nil =>
    obtain ⟨d, hd, -, hne⟩ := h.front
    cases text with
    | nil => cases hd
    | cons e text =>
      cases hd
      cases hc
      exact hne
  | cons d b =>
    cases hc
    rcases hb c mem_cons_self with rfl | rfl | rfl | rfl <;> decide

/-- The text is scanned as tokens of some types, in front of anything that ends a word. -/
def LexedAs (lib : ExprLibrary) (total : Nat) (text : List Char)
    (typs : List ExprTokenType) : Prop :=
  ∀ rest, Separated isIdentifierPart rest → Lexes lib total (text ++ rest) typs rest

/-- Two texts with an operator between them. -/
theorem LexedAs.infix {b' op : List Char} (h : LexedAs lib total text typs)
    (h' : LexedAs lib total text' typs') (hedges : Edges text') (hb : Blanks b) (hb' : Blanks b')
    (hword : ∀ rest, Separated isIdentifierPart (op ++ rest))
    (hop : ∀ rest : List Char, (∀ c ∈ rest.head?, c ≠ '=') →
      Lexes lib total (op ++ rest) [typ] rest) :
    LexedAs lib total (text ++ b ++ op ++ b' ++ text') (typs ++ typ :: typs') := by
  intro rest hrest
  have hassoc : text ++ b ++ op ++ b' ++ text' ++ rest =
      text ++ (b ++ (op ++ (b' ++ (text' ++ rest)))) := by
    simp only [append_assoc]
  rw [hassoc]
  have hleft := h _ (separated_blanks hb (hword (b' ++ (text' ++ rest))))
  have hmiddle := (lexes_blanks hb _).trans (hop _ (head_ne_eq hb' hedges rest))
  have hright := (lexes_blanks hb' _).trans (h' rest hrest)
  exact hleft.trans (hmiddle.trans hright)

/-- The tokens of a formula's text. -/
theorem Writes.lexes (lib : ExprLibrary) (total : Nat)
    (h : Writes level e typs text) : LexedAs lib total text typs := by
  induction h with
  | atom h =>
    intro rest hrest
    exact h.lexes hrest
  | @parens e typs text b b' h hb hb' ih =>
    intro rest hrest
    have hassoc : '(' :: (b ++ text ++ b' ++ [')']) ++ rest =
        '(' :: (b ++ (text ++ (b' ++ ')' :: rest))) := by
      simp only [append_assoc, cons_append, nil_append]
    rw [hassoc]
    have hinner := ih (b' ++ ')' :: rest) (separated_blanks hb' (separated_cons (by decide)))
    have hclose : Lexes lib total (b' ++ ')' :: rest) ([] ++ [.rparen]) rest :=
      (lexes_blanks hb' _).trans (lexes_rparen rest)
    exact (lexes_lparen _).trans ((lexes_blanks hb _).trans (hinner.trans hclose))
  | compare op hl hr hb hb' ihl ihr =>
    apply ihl.infix ihr hr.edges hb hb' _ fun rest hrest => lexes_comparison op hrest
    intro rest
    cases op <;> exact separated_cons (by decide)
  | and hl hr hb hb' ihl ihr =>
    exact ihl.infix ihr hr.edges hb hb' (fun rest => separated_cons (by decide))
      (fun rest _ => lexes_operator (by decide) rfl (Nat.le_succ _))
  | or hl hr hb hb' ihl ihr =>
    exact ihl.infix ihr hr.edges hb hb' (fun rest => separated_cons (by decide))
      (fun rest _ => lexes_operator (by decide) rfl (Nat.le_succ _))
  | ofPrimary h ih => exact ih
  | ofCompare h ih => exact ih
  | ofAnd h ih => exact ih

end Scanning

/-! ## Parsing -/

section Reading

variable (lib : ExprLibrary) (ctx : ExprContext)

def Formula.value? (e : Formula) : Option ExprValue := (e.eval lib ctx).toOption

def connect (f : Bool → Bool → Bool) (left right : ExprValue) : Option ExprValue :=
  (asBool lib left).bind fun a => (asBool lib right).bind fun b => some (.bool (f a b))

theorem toOption_truth (value : ExprValue) : (truth lib value).toOption = asBool lib value := by
  unfold truth
  split <;> simp_all [Except.toOption]

theorem toOption_combine (symbol : String) (f : Bool → Bool → Bool) (left right : ExprValue)
    (toks : List ExprToken) : (ExprParser.combine lib symbol f left right toks).toOption =
      (connect lib f left right).map (·, toks) := by
  unfold ExprParser.combine connect
  cases asBool lib left with
  | none => rfl
  | some a =>
    cases asBool lib right with
    | none => rfl
    | some b => rfl

theorem toOption_evaluateComparison (op : Comparison) (left right : ExprValue) :
    (evaluateComparison lib op left right).toOption = op.values lib left right := by
  unfold evaluateComparison Comparison.values
  cases asFloat lib left with
  | some x => cases asFloat lib right <;> rfl
  | none =>
    cases asBool lib left with
    | none => rfl
    | some b => cases asBool lib right <;> cases op <;> rfl

theorem value?_and (l r : Formula) : (Formula.and l r).value? lib ctx =
    (l.value? lib ctx).bind fun x => (r.value? lib ctx).bind (connect lib and x) := by
  unfold Formula.value? connect
  simp only [Formula.eval, toOption_bind, toOption_truth]
  rfl

theorem value?_or (l r : Formula) : (Formula.or l r).value? lib ctx =
    (l.value? lib ctx).bind fun x => (r.value? lib ctx).bind (connect lib or x) := by
  unfold Formula.value? connect
  simp only [Formula.eval, toOption_bind, toOption_truth]
  rfl

theorem value?_compare (op : Comparison) (l r : Formula) :
    (Formula.compare op l r).value? lib ctx = (l.value? lib ctx).bind fun x =>
      (r.value? lib ctx).bind fun y => (op.values lib x y).map .bool := by
  unfold Formula.value?
  simp only [Formula.eval, toOption_bind]
  congr 1
  funext x
  congr 1
  funext y
  cases op.values lib x y with
  | none => rfl
  | some b => rfl

open ExprParser

/-- The rest of the tokens does not go on with a comparison. -/
def NotCompare (rest : List ExprToken) : Prop := ∀ op, (current rest).typ ≠ .compare op

/-- What the parser makes of tokens at a level, with a bound on the depth of parentheses. -/
def ReadBy (level : Level) (e : Formula) (typs : List ExprTokenType) : Prop :=
  ∀ depth (toks : List ExprToken), toks.map ExprToken.typ = typs → typs.length ≤ depth →
    match level with
    | .primary => Reads (parsePrimary lib ctx (parseExpression lib ctx depth)) (fun _ => True) toks
        (e.value? lib ctx)
    | .compare => Reads (parseComparison lib ctx (parseExpression lib ctx depth)) NotCompare toks
        (e.value? lib ctx)
    | .and => ∃ k ≤ toks.length, Folds (parseComparison lib ctx (parseExpression lib ctx depth))
        (operator .and) (combine lib "&&" and) NotCompare k toks (e.value? lib ctx)
    | .or => ∃ k ≤ toks.length, Folds (parseAnd lib ctx (parseExpression lib ctx depth))
        (operator .or) (combine lib "||" or)
        (fun rest => NotCompare rest ∧ operator .and rest = none) k toks (e.value? lib ctx)

variable {lib ctx}

theorem operator_cons (h : tok.typ = typ)
    (rest : List ExprToken) : operator typ (tok :: rest) = some rest :=
  if_pos h

/-- Literals and fields. -/
theorem Atom.reads (h : Atom e typ text) (htok : tok.typ = typ) (expr : ExprParser) :
    Reads (parsePrimary lib ctx expr) (fun _ => True) [tok] (e.value? lib ctx) := by
  intro rest _
  have hcurrent : (current ([tok] ++ rest)).typ = typ := htok
  have htail : ([tok] ++ rest).tail = rest := rfl
  unfold parsePrimary Formula.value?
  cases h with
  | bool b hword =>
    rw [hcurrent]
    rfl
  | number n =>
    rw [hcurrent]
    simp only [n.parseFloat_text lib, Formula.eval, htail]
    cases n.double? with
    | none => rfl
    | some x => rfl
  | string hquote hvalue =>
    rw [hcurrent]
    rfl
  | @field path hpath hparts hid =>
    rw [hcurrent]
    simp only [lookupPath, splitOn_intercalate '.' hparts hpath, Formula.eval, htail]
    cases lookupParts (.obj ctx []) path with
    | none => rfl
    | some value => rfl

/-- What is in parentheses is read as an expression of its own. -/
theorem reads_parens {inner : List ExprToken}
    {lp rp : ExprToken} (hlp : lp.typ = .lparen) (hrp : rp.typ = .rparen)
    (h : ∀ rest, (expr (inner ++ rp :: rest)).toOption = value.map (·, rp :: rest)) :
    Reads (parsePrimary lib ctx expr) (fun _ => True) (lp :: (inner ++ [rp])) value := by
  intro rest _
  have hassoc : lp :: (inner ++ [rp]) ++ rest = lp :: (inner ++ rp :: rest) := by simp
  have hcurrent : (current (lp :: (inner ++ rp :: rest))).typ = .lparen := hlp
  rw [hassoc]
  unfold parsePrimary
  rw [hcurrent]
  dsimp only [tail_cons]
  rw [toOption_bind, h rest]
  cases value with
  | none => rfl
  | some v =>
    have hclose : (current (rp :: rest)).typ = .rparen := hrp
    simp [hclose, Except.toOption]

/-- An operand without an operator behind it. -/
theorem reads_operand (h : Reads (parsePrimary lib ctx expr) (fun _ => True) toks value) :
    Reads (parseComparison lib ctx expr) NotCompare toks value := by
  intro rest hrest
  unfold parseComparison
  rw [toOption_bind, h rest trivial]
  cases value with
  | none => rfl
  | some v =>
    dsimp only [Option.map_some, Option.bind_some]
    split
    · next op hop => exact absurd hop (hrest op)
    · rfl

/-- Two operands with an operator between them. -/
theorem reads_compare {toks' : List ExprToken} {value' : Option ExprValue} {op : Comparison}
    (h : Reads (parsePrimary lib ctx expr) (fun _ => True) toks value)
    (h' : Reads (parsePrimary lib ctx expr) (fun _ => True) toks' value')
    (htok : tok.typ = .compare op) :
    Reads (parseComparison lib ctx expr) NotCompare (toks ++ tok :: toks')
      (value.bind fun x => value'.bind fun y => (op.values lib x y).map .bool) := by
  intro rest hrest
  have hassoc : toks ++ tok :: toks' ++ rest = toks ++ tok :: (toks' ++ rest) := by simp
  unfold parseComparison
  rw [hassoc, toOption_bind, h _ trivial]
  cases value with
  | none => rfl
  | some x =>
    have hcurrent : (current (tok :: (toks' ++ rest))).typ = .compare op := htok
    dsimp only [map_some, bind_some]
    rw [hcurrent]
    dsimp only [tail_cons]
    rw [toOption_bind, h' rest trivial]
    cases value' with
    | none => rfl
    | some y =>
      dsimp only [map_some, bind_some]
      rw [toOption_bind, toOption_evaluateComparison]
      cases op.values lib x y with
      | none => rfl
      | some b => rfl

/-- The tokens of a formula have its value. -/
theorem Writes.readBy (lib : ExprLibrary) (ctx : ExprContext)
    (h : Writes level e typs text) : ReadBy lib ctx level e typs := by
  induction h with
  | atom h =>
    intro depth toks htoks hdepth
    obtain ⟨tok, rfl, htok⟩ := map_eq_singleton_iff.mp htoks
    exact h.reads htok _
  | @parens e typs text b b' h hb hb' ih =>
    intro depth toks htoks hdepth
    obtain ⟨lp, toks, rfl, hlp, htoks⟩ := map_eq_cons_iff.mp htoks
    obtain ⟨inner, last, rfl, hinner, hlast⟩ := map_eq_append_iff.mp htoks
    obtain ⟨rp, rfl, hrp⟩ := map_eq_singleton_iff.mp hlast
    -- the parentheses are two tokens, so a smaller bound is enough inside
    simp only [length_cons, length_append, length_nil] at hdepth
    obtain ⟨bound, rfl⟩ : ∃ bound, depth = bound + 1 := ⟨depth - 1, by omega⟩
    obtain ⟨k, hk, hfolds⟩ := ih bound inner hinner (by omega)
    apply reads_parens hlp hrp
    intro rest
    apply hfolds.reads hk
    have hcurrent : (current (rp :: rest)).typ = .rparen := hrp
    refine ⟨⟨?_, ?_⟩, ?_⟩
    · intro op
      simp [hcurrent]
    · simp [operator, hcurrent]
    · simp [operator, hcurrent]
  | @compare op l r typs typs' text text' b b' hl hr hb hb' ihl ihr =>
    intro depth toks htoks hdepth
    obtain ⟨left, toks, rfl, hleft, htoks⟩ := map_eq_append_iff.mp htoks
    obtain ⟨tok, right, rfl, htok, hright⟩ := map_eq_cons_iff.mp htoks
    simp only [length_cons, length_append] at hdepth
    show Reads _ _ _ ((Formula.compare op l r).value? lib ctx)
    rw [value?_compare]
    exact reads_compare (ihl depth left hleft (by omega)) (ihr depth right hright (by omega)) htok
  | @and l r typs typs' text text' b b' hl hr hb hb' ihl ihr =>
    intro depth toks htoks hdepth
    obtain ⟨left, toks, rfl, hleft, htoks⟩ := map_eq_append_iff.mp htoks
    obtain ⟨tok, right, rfl, htok, hright⟩ := map_eq_cons_iff.mp htoks
    simp only [length_cons, length_append] at hdepth
    obtain ⟨k, hk, hfolds⟩ := ihl depth left hleft (by omega)
    refine ⟨k + 1, by simp only [length_append, length_cons]; omega, ?_⟩
    rw [value?_and]
    apply hfolds.snoc (ihr depth right hright (by omega)) _ (operator_cons htok)
      (toOption_combine lib "&&" _)
    intro rest op
    simp [current, htok]
  | @or l r typs typs' text text' b b' hl hr hb hb' ihl ihr =>
    intro depth toks htoks hdepth
    obtain ⟨left, toks, rfl, hleft, htoks⟩ := map_eq_append_iff.mp htoks
    obtain ⟨tok, right, rfl, htok, hright⟩ := map_eq_cons_iff.mp htoks
    simp only [length_cons, length_append] at hdepth
    obtain ⟨k, hk, hfolds⟩ := ihl depth left hleft (by omega)
    obtain ⟨k', hk', hfolds'⟩ := ihr depth right hright (by omega)
    refine ⟨k + 1, by simp only [length_append, length_cons]; omega, ?_⟩
    rw [value?_or]
    apply hfolds.snoc (hfolds'.reads hk') _ (operator_cons htok) (toOption_combine lib "||" _)
    intro rest
    refine ⟨?_, ?_⟩
    · intro op
      simp [current, htok]
    · simp [operator, current, htok]
  | ofPrimary h ih =>
    intro depth toks htoks hdepth
    exact reads_operand (ih depth toks htoks hdepth)
  | ofCompare h ih =>
    intro depth toks htoks hdepth
    exact ⟨0, Nat.zero_le _, (ih depth toks htoks hdepth).folds⟩
  | ofAnd h ih =>
    intro depth toks htoks hdepth
    obtain ⟨k, hk, hfolds⟩ := ih depth toks htoks hdepth
    exact ⟨0, Nat.zero_le _, (hfolds.reads hk).folds⟩

end Reading

/-! ## Evaluation -/

/-- The tokens of a formula's text, with their value. -/
theorem parseExpression_of_writes (lib : ExprLibrary) (ctx : ExprContext) {core : List Char}
    (h : Writes .or e typs core) :
    ∃ tokens eof, tokenize lib core = .ok tokens ∧ (ExprParser.current eof).typ = .eof ∧
      (ExprParser.parseExpression lib ctx (tokens.length + 1) tokens).toOption =
        (e.value? lib ctx).map (·, eof) := by
  obtain ⟨toks, htyps, hscan⟩ := h.lexes lib (byteLength core) [] (separated_nil _)
  rw [append_nil] at hscan
  have hend : ∃ eof : ExprToken, eof = ⟨.eof, byteLength core⟩ := ⟨_, rfl⟩
  obtain ⟨eof, heof⟩ := hend
  have hlength : typs.length ≤ (toks ++ [eof]).length := by
    rw [← htyps, length_map, length_append]
    omega
  obtain ⟨k, hk, hfolds⟩ := h.readBy lib ctx _ toks htyps hlength
  refine ⟨toks ++ [eof], [eof], ?_, by rw [heof]; rfl, ?_⟩
  · unfold tokenize
    rw [hscan.scan_eq, heof]
    rfl
  · apply hfolds.reads hk
    have hcurrent : (ExprParser.current [eof]).typ = .eof := by
      rw [heof]
      rfl
    refine ⟨⟨?_, ?_⟩, ?_⟩
    · intro op
      simp [hcurrent]
    · simp [ExprParser.operator, hcurrent]
    · simp [ExprParser.operator, hcurrent]

/-- `Evaluate` on a text of a formula returns the truth value of the formula's value. -/
theorem toOption_evaluateExpression (lib : ExprLibrary) (ctx : ExprContext) (h : e.Text text) :
    (evaluateExpression lib text ctx).toOption =
      (e.value? lib ctx).bind (asBool lib) := by
  obtain ⟨typs, core, before, after, hwrites, hbefore, hafter, rfl⟩ := h
  have hedges := hwrites.edges
  obtain ⟨c, hc, hspace, -⟩ := hedges.front
  have htrim : trimRunes (before ++ core ++ after) = core :=
    trimRunes_blanks (isSpace_of_blanks hbefore) (isSpace_of_blanks hafter)
      ⟨c, hc, hspace⟩ hedges.back
  have hcore : core ≠ [] := by
    rintro rfl
    cases hc
  obtain ⟨tokens, eof, htokens, heof, hparse⟩ := parseExpression_of_writes lib ctx hwrites
  unfold evaluateExpression
  simp only [htrim, if_neg hcore, htokens]
  cases hresult : ExprParser.parseExpression lib ctx (tokens.length + 1) tokens with
  | error err =>
    rw [hresult] at hparse
    cases hvalue : e.value? lib ctx with
    | none => rfl
    | some v =>
      rw [hvalue] at hparse
      cases hparse
  | ok r =>
    rw [hresult] at hparse
    cases hvalue : e.value? lib ctx with
    | none =>
      rw [hvalue] at hparse
      cases hparse
    | some v =>
      rw [hvalue] at hparse
      cases hparse
      simp only [heof, ne_eq, not_true_eq_false, if_false, bind_some]
      cases asBool lib v with
      | none => rfl
      | some b => rfl

/-- `Evaluate` on any text of a formula succeeds with the truth value of the formula's value. It
    fails exactly if the formula has no value (an unknown field, a number beyond all doubles, an
    ill-typed comparison, a connective on something that is no truth value) or its value is no
    truth value. -/
theorem evaluateExpression_iff (lib : ExprLibrary) (ctx : ExprContext) (e : Formula)
    (text : List Char) (h : e.Text text) :
    (∀ b, evaluateExpression lib text ctx = .ok b ↔
      ∃ v, e.eval lib ctx = .ok v ∧ asBool lib v = some b) ∧
    ((∃ err, evaluateExpression lib text ctx = .error err) ↔
      (∃ fault, e.eval lib ctx = .error fault) ∨
        ∃ v, e.eval lib ctx = .ok v ∧ asBool lib v = none) := by
  have hresult := toOption_evaluateExpression lib ctx h
  unfold Formula.value? at hresult
  cases heval : e.eval lib ctx with
  | error fault =>
    rw [heval] at hresult
    cases hrun : evaluateExpression lib text ctx with
    | error err => simp
    | ok b =>
      rw [hrun] at hresult
      cases hresult
  | ok v =>
    rw [heval] at hresult
    cases hrun : evaluateExpression lib text ctx with
    | error err =>
      rw [hrun] at hresult
      have hnone : asBool lib v = none := hresult.symm
      simp [hnone]
    | ok b =>
      rw [hrun] at hresult
      have hsome : asBool lib v = some b := hresult.symm
      simp [hsome]

/-- Library functions for ASCII texts and decimal numbers. -/
def ExprLibrary.ascii : ExprLibrary where
  toLower := Char.toLower
  parseFloat := Decimal.ofText?
  formatFloat _ := []
  quote text := text
  lower_ascii := fun _ _ => rfl
  parseFloat_decimal := fun _ _ => rfl

/-- An alternative of a field and a conjunction. -/
def urgentOr : Formula := .or (.field ["urgent".toList]) (.and (.bool true) (.bool false))

theorem urgentOr_text : urgentOr.Text "urgent|| (TRUE&&false )\n".toList := by
  have hurgent : Atom (.field ["urgent".toList]) (.identifier "urgent".toList)
      "urgent".toList :=
    .field (by decide) (by decide) ⟨⟨'u', rfl, by decide⟩, by decide, by decide, by decide⟩
  have htrue : Atom (.bool true) (.bool true) "TRUE".toList := .bool true (by decide +kernel)
  have hfalse : Atom (.bool false) (.bool false) "false".toList := .bool false (by decide +kernel)
  have hnone : Blanks [] := by
    intro c hc
    cases hc
  have hspace : Blanks [' '] := by
    intro c hc
    exact .inl (mem_singleton.mp hc)
  have hline : Blanks ['\n'] := by
    intro c hc
    exact .inr (.inr (.inl (mem_singleton.mp hc)))
  have hinner := Writes.and (.ofCompare (.ofPrimary (.atom htrue))) (.ofPrimary (.atom hfalse))
    hnone hnone
  have hall := Writes.or (.ofAnd (.ofCompare (.ofPrimary (.atom hurgent))))
    (.ofCompare (.ofPrimary (.parens (.ofAnd hinner) hnone hspace))) hnone hspace
  exact ⟨_, _, [], ['\n'], hall, hnone, hline, by decide +kernel⟩

theorem evaluateExpression_iff_urgentOr :
    (evaluateExpression .ascii "urgent|| (TRUE&&false )\n".toList
        [("urgent".toList, .bool true)] = .ok true ↔
      ∃ v, urgentOr.eval .ascii [("urgent".toList, .bool true)] = .ok v ∧
        asBool .ascii v = some true) ∧
    evaluateExpression .ascii "urgent|| (TRUE&&false )\n".toList
      [("urgent".toList, .bool true)] = .ok true := by
  have hmeaning := (evaluateExpression_iff .ascii [("urgent".toList, .bool true)] urgentOr _
    urgentOr_text).1 true
  exact ⟨hmeaning, hmeaning.mpr ⟨.bool true, rfl, rfl⟩⟩

def fiveLiteral : DecimalLiteral where
  negative := false
  whole := ['5']
  fraction := none
  whole_ne_nil := by decide
  whole_digits := by decide
  fraction_digits := by
    intro ds hds
    cases hds

/-- The number has a value, and no connective or comparison is in it, but it is no truth value. -/
theorem number_not_evaluated :
    (Formula.number fiveLiteral).Text "5".toList ∧
      (∃ v, (Formula.number fiveLiteral).eval .ascii [] = .ok v) ∧
      evaluateExpression .ascii "5".toList [] =
        .error "Evaluate: expression type mismatch: final expression is not boolean" := by
  have hnone : Blanks [] := by
    intro c hc
    cases hc
  refine ⟨?_, ?_, ?_⟩
  · exact ⟨_, _, [], [], .ofAnd (.ofCompare (.ofPrimary (.atom (.number fiveLiteral)))), hnone,
      hnone, rfl⟩
  · have hsize : fiveLiteral.double?.isSome = true := by decide +kernel
    obtain ⟨x, hx⟩ := isSome_iff_exists.mp hsize
    exact ⟨.num x [], by simp [Formula.eval, hx, ExprLibrary.ascii]⟩
  · decide +kernel

/-! ## The sides of a comparison -/

/-- How a comparison takes an operand on its left side. -/
inductive OperandKind where
  | number | truth | text

def ExprValue.kind (lib : ExprLibrary) (v : ExprValue) : OperandKind :=
  if (asFloat lib v).isSome then .number
  else if (asBool lib v).isSome then .truth
  else .text

/-- The sides can be exchanged, with the same result or error, and `!=` negates `==`. -/
@[mk_iff]
structure SideIndependent (lib : ExprLibrary) (a b : ExprValue) : Prop where
  eq : evaluateComparison lib .eq a b = evaluateComparison lib .eq b a
  lt : evaluateComparison lib .lt a b = evaluateComparison lib .gt b a
  le : evaluateComparison lib .le a b = evaluateComparison lib .ge b a
  ne : ∀ r, evaluateComparison lib .eq a b = .ok r → evaluateComparison lib .ne a b = .ok (!r)

/-- The left operand alone says how both are compared, so the sides can be exchanged exactly if
    the operands are of one kind. -/
theorem comparison_sides_iff (lib : ExprLibrary) (a b : ExprValue) :
    SideIndependent lib a b ↔ a.kind lib = b.kind lib := by
  have hmessages : typeError "numeric comparison with non-numeric right operand" ≠
      typeError "boolean comparison with non-boolean right operand" := by decide
  rw [sideIndependent_iff]
  unfold evaluateComparison ExprValue.kind
  cases asFloat lib a with
  | some x =>
    cases asFloat lib b with
    | some y => simp [Comparison.onDoubles, Double.eq_swap x y]
    | none => cases asBool lib a <;> cases asBool lib b <;> simp [hmessages]
  | none =>
    cases asFloat lib b with
    | some y => cases asBool lib a <;> cases asBool lib b <;> simp [hmessages.symm]
    | none =>
      cases asBool lib a with
      | some p => cases asBool lib b <;> simp [Bool.beq_comm, bne]
      | none => cases asBool lib b <;> simp [Comparison.onTexts, eq_comm]

theorem comparison_depends_on_side :
    evaluateComparison .ascii .eq (.str "none".toList) (.str "5".toList) = .ok false ∧
      evaluateComparison .ascii .eq (.str "5".toList) (.str "none".toList) =
        .error "type error: numeric comparison with non-numeric right operand" := by
  decide +kernel

end LoanWorkflow
