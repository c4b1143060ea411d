import LoanWorkflow.Scim.Filter

/-! # Printing and parsing SCIM filters

    A `Phrase` is a filter tree with everything its text leaves open: the
    letter case of attributes, operators and keywords, and parentheses that
    are not needed. Its text has all parentheses that are needed.

    - `Phrase.Printable`: attributes are identifiers, keywords are spelled right
    - `Phrase.readable`: no attribute starts like a number
    - `filter_round_trip_iff`: the text of a phrase is read back exactly when
      the phrase is readable
-/

namespace LoanWorkflow

open List Parsing

variable {ok : Bool} {c : Char} {op : CompareOp} {next : FilterParser → Option FilterParser}
  {attr keyword lit opText rest rest' value word word' : List Char} {ts : List FilterToken}
  {t : Option FilterToken} {operand : Parser Err FilterParser SCIMFilterNode} {name : String}

/-! ## Phrases -/

inductive Phrase where
  | comparison (attr opText : List Char) (op : CompareOp) (value : List Char)
  | logical (op : LogicalOp) (keyword : List Char) (left right : Phrase)
  | not (keyword : List Char) (operand : Phrase)
  /-- Parentheses that are not needed. -/
  | parens (inner : Phrase)

/-- The letter of the escape for a character. -/
def escapeLetter? : Char → Option Char
  | '"' => some '"'
  | '\\' => some '\\'
  | '/' => some '/'
  | '\x08' => some 'b'
  | '\x0c' => some 'f'
  | '\n' => some 'n'
  | '\r' => some 'r'
  | '\t' => some 't'
  | _ => none

/-- A character of a quoted string. Quotes and backslashes are always escaped; `optional` says
    which of the others are. -/
def escapeChar (optional : Char → Bool) (c : Char) : List Char :=
  match escapeLetter? c with
  | some l => if c == '"' || c == '\\' || optional c then ['\\', l] else [c]
  | none => [c]

def quote (optional : Char → Bool) (value : List Char) : List Char :=
  '"' :: (value.flatMap (escapeChar optional) ++ ['"'])

namespace Phrase

def text (optional : Char → Bool) : Phrase → List Char
  | .comparison attr opText op value =>
    attr ++ ' ' :: (opText ++ if op = .pr then [] else ' ' :: quote optional value)
  | .logical _ keyword left right =>
    '(' :: (left.text optional ++ ' ' :: (keyword ++ ' ' :: (right.text optional ++ [')'])))
  | .not keyword operand => '(' :: (keyword ++ ' ' :: (operand.text optional ++ [')']))
  | .parens inner => '(' :: (inner.text optional ++ [')'])

/-- The tree of a phrase, with lower-case attributes. -/
def node (u : Unicode) : Phrase → SCIMFilterNode
  | .comparison attr _ op value =>
    .comparison (u.lower attr) op (if op = .pr then none else some (.str value))
  | .logical op _ left right => .logical op (left.node u) (right.node u)
  | .not _ operand => .not (operand.node u)
  | .parens inner => inner.node u

def size : Phrase → Nat
  | .comparison .. => 1
  | .logical _ _ left right => left.size + right.size + 1
  | .not _ operand => operand.size + 1
  | .parens inner => inner.size

/-- Attributes are identifiers other than the reserved words, and operators and keywords are
    spelled right, in any letter case. -/
def Printable (u : Unicode) : Phrase → Prop
  | .comparison attr opText op _ =>
    attr ≠ [] ∧ (∀ c ∈ attr, u.isIdentifierRune c = true) ∧
      u.lower attr ∉ ["and", "or", "not", "true", "false"].map String.toList ∧
      equalFold opText op.name = true
  | .logical op keyword left right =>
    equalFold keyword op.name = true ∧ left.Printable u ∧ right.Printable u
  | .not keyword operand => equalFold keyword "not" = true ∧ operand.Printable u
  | .parens inner => inner.Printable u

/-- No number stands at the front of an attribute. -/
def readable (u : Unicode) : Phrase → Bool
  | .comparison [] _ _ _ => true
  | .comparison (c :: attr) _ _ _ => (numberLiteral? u c attr).isNone
  | .logical _ _ left right => left.readable u && right.readable u
  | .not _ operand => operand.readable u
  | .parens inner => inner.readable u

end Phrase

/-! ## Characters -/

/-- A word that spells a lower-case name consists of letters. -/
theorem letters_of_equalFold (hname : name.toList.all Char.isLower = true)
    (h : equalFold word name = true) : ∀ c ∈ word, c.isAlpha = true := by
  intro c hc
  have hmap : word.map Char.toLower = name.toList := by simpa [equalFold] using h
  have hmem : c.toLower ∈ name.toList := hmap ▸ mem_map_of_mem hc
  exact isAlpha_of_toLower (all_eq_true.mp hname _ hmem) rfl

section Runes

variable {u : Unicode}

theorem isLetter_of_isAlpha (u : Unicode) (h : c.isAlpha = true) : u.isLetter c = true := by
  have hrange := toNat_of_isAlpha h
  rw [u.letter_ascii c (by omega), h]

theorem isIdentifierRune_of_isAlpha (u : Unicode) (h : c.isAlpha = true) :
    u.isIdentifierRune c = true := by
  simp [Unicode.isIdentifierRune, isLetter_of_isAlpha u h]

theorem not_isSpace_of_isIdentifierRune (h : u.isIdentifierRune c = true) : isSpace c = false := by
  simp only [Unicode.isIdentifierRune, Bool.or_eq_true, beq_iff_eq] at h
  rcases h with ((((h | h) | h) | h) | h) | h
  · exact u.letter_not_space c h
  · exact u.digit_not_space c h
  all_goals
    subst h
    decide

theorem isIdentifierRune_ascii (u : Unicode) (hc : c.toNat < 128) : u.isIdentifierRune c =
    (c.isAlpha || c.isDigit || c == '_' || c == '.' || c == '-' || c == ':') := by
  rw [Unicode.isIdentifierRune, u.letter_ascii c hc, u.digit_ascii c hc]

/-- Blanks, parentheses and quotes end an identifier. -/
theorem isIdentifierRune_delimiter (u : Unicode) (hc : c ∈ [' ', '(', ')', '"']) :
    u.isIdentifierRune c = false := by
  simp only [mem_cons, not_mem_nil, or_false] at hc
  rcases hc with rfl | rfl | rfl | rfl
  all_goals
    rw [isIdentifierRune_ascii u (by decide)]
    decide

theorem ne_delimiter (h : u.isIdentifierRune c = true) : c ≠ '(' ∧ c ≠ ')' ∧ c ≠ '"' := by
  refine ⟨?_, ?_, ?_⟩ <;>
  · intro hc
    rw [hc, isIdentifierRune_delimiter u (by simp)] at h
    cases h

/-- A letter starts no number. -/
theorem numberLiteral?_of_isAlpha (u : Unicode) (h : c.isAlpha = true) (rest : List Char) :
    numberLiteral? u c rest = none := by
  have hrange := toNat_of_isAlpha h
  have hdigit : u.isDigit c = false := by
    rw [u.digit_ascii c (by omega)]
    simp only [Char.isDigit, Bool.and_eq_false_iff, decide_eq_false_iff_not, ge_iff_le,
      UInt32.le_iff_toNat_le]
    have hnine : '9'.val.toNat = 57 := rfl
    have hval : c.val.toNat = c.toNat := rfl
    omega
  have hminus : (c == '-') = false := by
    rw [beq_eq_false_iff_ne]
    intro hc
    rw [hc] at h
    exact absurd h (by decide)
  simp [numberLiteral?, hdigit, hminus]

theorem trimRunes_of_not_isSpace {text : List Char} (h : ∀ c ∈ text, isSpace c = false) :
    trimRunes text = text :=
  trimRunes_eq_self (fun c hc => h c (mem_of_head? hc)) fun c hc => h c (mem_of_getLast? hc)

/-- On a spelled keyword the two ways to fold case agree. -/
theorem lower_of_equalFold (u : Unicode) (hname : name.toList.all Char.isLower = true)
    (h : equalFold word name = true) : u.lower word = name.toList := by
  have hmap : word.map Char.toLower = name.toList := by simpa [equalFold] using h
  rw [← hmap]
  apply map_congr_left
  intro c hc
  have hrange := toNat_of_isAlpha (letters_of_equalFold hname h c hc)
  exact u.lower_ascii c (by omega)

end Runes

/-! ## Scanning the text of a phrase -/

theorem numberLiteral?_rest {u : Unicode} (h : numberLiteral? u c rest = some (lit, rest')) :
    rest' = rest.dropWhile (fun d => u.isDigit d || d == '.') := by
  unfold numberLiteral? at h
  split at h
  · simp only at h
    split at h
    · cases h
      rfl
    · cases h
  · cases h

section Scanning

variable {u : Unicode}

theorem unescape?_of_escapeLetter? {l : Char} (h : escapeLetter? c = some l) :
    unescape? l = some c := by
  unfold escapeLetter? at h
  split at h <;> cases h <;> rfl

theorem escapeChar_cases (optional : Char → Bool) (c : Char) :
    (∃ l, escapeChar optional c = ['\\', l] ∧ unescape? l = some c) ∨
      (escapeChar optional c = [c] ∧ c ≠ '"' ∧ c ≠ '\\') := by
  unfold escapeChar
  split
  · next l hl =>
    split
    · exact .inl ⟨l, rfl, unescape?_of_escapeLetter? hl⟩
    · next hplain =>
      simp only [Bool.or_eq_true, beq_iff_eq, not_or] at hplain
      exact .inr ⟨rfl, hplain.1⟩
  · next hnone =>
    refine .inr ⟨rfl, ?_, ?_⟩ <;>
    · intro hc
      rw [hc] at hnone
      cases hnone

theorem stringLiteral?_quote (optional : Char → Bool) (value rest : List Char) :
    stringLiteral? (value.flatMap (escapeChar optional) ++ '"' :: rest) = some (value, rest) := by
  induction value with
  | nil => rfl
  | cons c value ih =>
    rw [flatMap_cons, append_assoc]
    rcases escapeChar_cases optional c with ⟨l, hescape, hl⟩ | ⟨hescape, hquote, hslash⟩
    · rw [hescape]
      show stringLiteral? ('\\' :: l :: (value.flatMap (escapeChar optional) ++ '"' :: rest)) = _
      rw [stringLiteral?, hl, ih]
      rfl
    · rw [hescape]
      show stringLiteral? (c :: (value.flatMap (escapeChar optional) ++ '"' :: rest)) = _
      rw [stringLiteral?.eq_5 _ _ hquote (fun h _ => hslash h) (fun _ _ h _ => hslash h), ih]
      rfl

theorem scans_blank (u : Unicode) {text : List Char}
    (h : Scans (filterStep u) text ts rest) : Scans (filterStep u) (' ' :: text) ts rest :=
  Scans.cons (t := none) rfl le_rfl h

theorem scans_lparen (u : Unicode) {text : List Char} (h : Scans (filterStep u) text ts rest) :
    Scans (filterStep u) ('(' :: text) (.lparen :: ts) rest :=
  Scans.cons (t := some .lparen) rfl le_rfl h

theorem scans_rparen (u : Unicode) (rest : List Char) :
    Scans (filterStep u) (')' :: rest) [.rparen] rest :=
  Scans.cons (t := some FilterToken.rparen) rfl le_rfl (.refl rest)

theorem scans_quote (u : Unicode) (optional : Char → Bool) (value rest : List Char) :
    Scans (filterStep u) (quote optional value ++ rest) [.string value] rest := by
  have hround : filterStep u '"' (value.flatMap (escapeChar optional) ++ ['"'] ++ rest) =
      .ok (some (.string value), rest) := by
    have hvalue : stringLiteral? (value.flatMap (escapeChar optional) ++ (['"'] ++ rest)) =
        some (value, rest) := stringLiteral?_quote optional value rest
    rw [append_assoc]
    unfold filterStep
    rw [if_neg (by decide), if_neg (by decide), if_neg (by decide), if_pos rfl, hvalue]
  exact Scans.cons hround (by rw [length_append]; omega) (.refl rest)

/-! ### Words -/

/-- At an identifier rune the scanner reads a number or a word. -/
theorem filterStep_identifierRune (hc : u.isIdentifierRune c = true)
    (rest : List Char) : filterStep u c rest = .ok
      (match numberLiteral? u c rest with
      | some (lit, rest') => (some (.number lit), rest')
      | none => (some (wordToken u (c :: rest.takeWhile u.isIdentifierRune)),
          rest.dropWhile u.isIdentifierRune)) := by
  obtain ⟨hopen, hclose, hquote⟩ := ne_delimiter hc
  unfold filterStep
  rw [if_neg (by simp [not_isSpace_of_isIdentifierRune hc]), if_neg hopen, if_neg hclose,
    if_neg hquote]
  cases h : numberLiteral? u c rest with
  | none => exact if_pos hc
  | some r => rfl

theorem filterStep_sublist (hc : u.isIdentifierRune c = true)
    (h : filterStep u c rest = .ok (t, rest')) : rest'.Sublist rest := by
  rw [filterStep_identifierRune hc] at h
  cases hn : numberLiteral? u c rest with
  | none =>
    rw [hn] at h
    cases h
    exact dropWhile_sublist _
  | some r =>
    rw [hn] at h
    cases h
    rw [numberLiteral?_rest hn]
    exact dropWhile_sublist _

theorem numberLiteral?_append (hrest : Separated u.isIdentifierRune rest) :
    numberLiteral? u c (word ++ rest) =
      (numberLiteral? u c word).map (fun r => (r.1, r.2 ++ rest)) := by
  have hdigits : Separated (fun d => u.isDigit d || d == '.') rest := by
    apply hrest.mono
    intro d hd
    simp only [Bool.or_eq_true] at hd
    unfold Unicode.isIdentifierRune
    rcases hd with hd | hd <;> simp [hd]
  unfold numberLiteral?
  rw [takeWhile_append_separated hdigits, dropWhile_append_separated hdigits]
  split
  · simp only
    split <;> rfl
  · rfl

/-- A word is scanned alike alone and in front of a text that ends it. -/
theorem filterStep_append (hc : u.isIdentifierRune c = true)
    (hrest : Separated u.isIdentifierRune rest) (h : filterStep u c word = .ok (t, word')) :
    filterStep u c (word ++ rest) = .ok (t, word' ++ rest) := by
  rw [filterStep_identifierRune hc] at h ⊢
  rw [numberLiteral?_append hrest, takeWhile_append_separated hrest,
    dropWhile_append_separated hrest]
  cases hn : numberLiteral? u c word with
  | none =>
    rw [hn] at h
    cases h
    rfl
  | some r =>
    rw [hn] at h
    cases h
    rfl

def wordTokens (u : Unicode) (word : List Char) : List FilterToken :=
  match scan (filterStep u) word with
  | .ok ts => ts
  | .error _ => []

theorem scans_word (hword : ∀ c ∈ word, u.isIdentifierRune c = true)
    (hrest : Separated u.isIdentifierRune rest) :
    Scans (filterStep u) (word ++ rest) (wordTokens u word) rest := by
  -- on the length of the word: a round may read a part of it
  have hboth : ∀ (n : Nat) (word : List Char), word.length ≤ n →
      (∀ c ∈ word, u.isIdentifierRune c = true) →
      ∃ ts, Scans (filterStep u) word ts [] ∧ Scans (filterStep u) (word ++ rest) ts rest := by
    intro n
    induction n with
    | zero =>
      intro word hlen _
      rw [length_eq_zero_iff.mp (Nat.le_zero.mp hlen)]
      exact ⟨[], .refl [], .refl rest⟩
    | succ n ih =>
      intro word hlen hword
      cases word with
      | nil => exact ⟨[], .refl [], .refl rest⟩
      | cons c word =>
        have hc := hword c mem_cons_self
        obtain ⟨⟨t, word'⟩, hround⟩ : ∃ r, filterStep u c word = .ok r :=
          ⟨_, filterStep_identifierRune hc word⟩
        have hsub := filterStep_sublist hc hround
        have hshort := hsub.length_le
        obtain ⟨ts, halone, hfront⟩ := ih word' (by rw [length_cons] at hlen; omega)
          fun d hd => hword d (mem_cons_of_mem c (hsub.subset hd))
        refine ⟨t.toList ++ ts, .cons hround hshort halone,
          .cons (filterStep_append hc hrest hround) ?_ hfront⟩
        simpa using hshort
  obtain ⟨ts, halone, hfront⟩ := hboth word.length word le_rfl hword
  have htokens : wordTokens u word = ts := by
    unfold wordTokens
    rw [halone.scan_eq]
  rwa [htokens]

theorem wordTokens_of_not_number (hword : ∀ d ∈ c :: word, u.isIdentifierRune d = true)
    (hnumber : numberLiteral? u c word = none) :
    wordTokens u (c :: word) = [wordToken u (c :: word)] := by
  have hall : ∀ d ∈ word, u.isIdentifierRune d = true :=
    fun d hd => hword d (mem_cons_of_mem c hd)
  have hround : filterStep u c word = .ok (some (wordToken u (c :: word)), []) := by
    rw [filterStep_identifierRune (hword c mem_cons_self), hnumber,
      takeWhile_eq_self_iff.mpr hall, dropWhile_eq_nil_iff.mpr hall]
  have hscans : Scans (filterStep u) (c :: word) [wordToken u (c :: word)] [] :=
    .cons hround (Nat.zero_le _) (.refl [])
  unfold wordTokens
  rw [hscans.scan_eq]

/-- A word with a number at its front is a number and more. -/
theorem wordTokens_of_number (hword : ∀ d ∈ c :: word, u.isIdentifierRune d = true)
    (hnumber : numberLiteral? u c word = some (lit, word')) :
    ∃ ts, wordTokens u (c :: word) = .number lit :: ts := by
  have hround : filterStep u c word = .ok (some (.number lit), word') := by
    rw [filterStep_identifierRune (hword c mem_cons_self), hnumber]
  have hsub := filterStep_sublist (hword c mem_cons_self) hround
  have hall : ∀ d ∈ word', u.isIdentifierRune d = true :=
    fun d hd => hword d (mem_cons_of_mem c (hsub.subset hd))
  have hscans : Scans (filterStep u) (c :: word) (.number lit :: wordTokens u word') [] := by
    have hrest := scans_word hall (separated_nil _)
    rw [append_nil] at hrest
    exact .cons hround hsub.length_le hrest
  refine ⟨wordTokens u word', ?_⟩
  conv_lhs => unfold wordTokens
  rw [hscans.scan_eq]

theorem wordToken_of_not_reserved (hword : ∀ c ∈ word, u.isIdentifierRune c = true)
    (hreserved : u.lower word ∉ ["true", "false"].map String.toList) :
    wordToken u word = .identifier word := by
  have htrim := trimRunes_of_not_isSpace fun c hc => not_isSpace_of_isIdentifierRune (hword c hc)
  simp only [map_cons, map_nil, mem_cons, not_mem_nil, or_false, not_or]
    at hreserved
  unfold wordToken
  rw [htrim, if_neg hreserved.1, if_neg hreserved.2]

/-- A spelled keyword is scanned into an identifier. -/
theorem scans_keyword (u : Unicode) (hname : name.toList.all Char.isLower = true)
    (hreserved : name.toList ∉ [] :: ["true", "false"].map String.toList)
    (h : equalFold word name = true) (hrest : Separated u.isIdentifierRune rest) :
    Scans (filterStep u) (word ++ rest) [.identifier word] rest := by
  have hletters := letters_of_equalFold hname h
  have hword : ∀ c ∈ word, u.isIdentifierRune c = true :=
    fun c hc => isIdentifierRune_of_isAlpha u (hletters c hc)
  have hlower := lower_of_equalFold u hname h
  rw [mem_cons, not_or] at hreserved
  have hscans := scans_word hword hrest
  cases word with
  | nil => exact absurd hlower.symm hreserved.1
  | cons c word =>
    rw [wordTokens_of_not_number hword
      (numberLiteral?_of_isAlpha u (hletters c mem_cons_self) word),
      wordToken_of_not_reserved hword (hlower ▸ hreserved.2)] at hscans
    exact hscans

end Scanning

/-! ### Phrases -/

namespace Phrase

def tokens (u : Unicode) : Phrase → List FilterToken
  | .comparison attr opText op value =>
    wordTokens u attr ++ .identifier opText :: if op = .pr then [] else [.string value]
  | .logical _ keyword left right =>
    .lparen :: (left.tokens u ++ .identifier keyword :: (right.tokens u ++ [.rparen]))
  | .not keyword operand =>
    .lparen :: .identifier keyword :: (operand.tokens u ++ [.rparen])
  | .parens inner => .lparen :: (inner.tokens u ++ [.rparen])

variable {u : Unicode} (optional : Char → Bool)

theorem scans_text {p : Phrase} (hp : p.Printable u) (hrest : Separated u.isIdentifierRune rest) :
    Scans (filterStep u) (p.text optional ++ rest) (p.tokens u) rest := by
  have hblank : ∀ rest, Separated u.isIdentifierRune (' ' :: rest) :=
    fun rest => separated_cons (isIdentifierRune_delimiter u (by simp))
  have hclose : ∀ rest, Separated u.isIdentifierRune (')' :: rest) :=
    fun rest => separated_cons (isIdentifierRune_delimiter u (by simp))
  induction p generalizing rest with
  | comparison attr opText op value =>
    obtain ⟨-, hattr, -, hop⟩ := hp
    have hname : op.name.toList.all Char.isLower = true ∧
        op.name.toList ∉ [] :: ["true", "false"].map String.toList := by
      cases op <;> decide
    simp only [text, tokens, append_assoc, cons_append]
    refine (scans_word hattr (hblank _)).trans (scans_blank u ?_)
    by_cases hpr : op = .pr
    · rw [if_pos hpr, if_pos hpr]
      exact scans_keyword u hname.1 hname.2 hop hrest
    · rw [if_neg hpr, if_neg hpr]
      exact (scans_keyword u hname.1 hname.2 hop (hblank _)).trans
        (scans_blank u (scans_quote u optional value rest))
  | logical op keyword left right ihleft ihright =>
    obtain ⟨hkeyword, hleft, hright⟩ := hp
    have hname : op.name.toList.all Char.isLower = true ∧
        op.name.toList ∉ [] :: ["true", "false"].map String.toList := by
      cases op <;> decide
    simp only [text, tokens, append_assoc, cons_append, nil_append]
    refine scans_lparen u ((ihleft hleft (hblank _)).trans (scans_blank u ?_))
    refine (scans_keyword u hname.1 hname.2 hkeyword (hblank _)).trans (scans_blank u ?_)
    exact (ihright hright (hclose _)).trans (scans_rparen u rest)
  | not keyword operand ih =>
    obtain ⟨hkeyword, hoperand⟩ := hp
    simp only [text, tokens, append_assoc, cons_append, nil_append]
    refine scans_lparen u ((scans_keyword u (by decide) (by decide) hkeyword (hblank _)).trans
      (scans_blank u ?_))
    exact (ih hoperand (hclose _)).trans (scans_rparen u rest)
  | parens inner ih =>
    simp only [text, tokens, append_assoc, cons_append, nil_append]
    exact scans_lparen u ((ih hp (hclose _)).trans (scans_rparen u rest))

/-- The text of a phrase has no blanks around it. -/
theorem trimRunes_text {p : Phrase} (hp : p.Printable u) :
    trimRunes (p.text optional) = p.text optional ∧ p.text optional ≠ [] := by
  cases p with
  | comparison attr opText op value =>
    obtain ⟨hne, hattr, -, hop⟩ := hp
    obtain ⟨c, attr', rfl⟩ := exists_cons_of_ne_nil hne
    have hc := not_isSpace_of_isIdentifierRune (hattr c mem_cons_self)
    refine ⟨trimRunes_eq_self (by simpa [text] using hc) fun d hd => ?_, by simp [text]⟩
    by_cases hpr : op = .pr
    · -- the text ends with the operator
      subst hpr
      have hopne : opText ≠ [] := by
        rintro rfl
        exact absurd hop (by decide)
      simp only [text, if_true, append_nil] at hd
      rw [append_cons, getLast?_append_of_ne_nil _ hopne] at hd
      exact not_isSpace_of_isIdentifierRune
        (isIdentifierRune_of_isAlpha u (letters_of_equalFold (by decide) hop d (mem_of_getLast? hd)))
    · have hquote : d = '"' := by simpa [text, hpr, quote, getLast?_cons, eq_comm] using hd
      rw [hquote]
      decide
  | logical op keyword left right =>
    refine ⟨trimRunes_eq_self ?_ ?_, by simp [text]⟩ <;> simp [text, getLast?_cons] <;> decide
  | not keyword operand =>
    refine ⟨trimRunes_eq_self ?_ ?_, by simp [text]⟩ <;> simp [text, getLast?_cons] <;> decide
  | parens inner =>
    refine ⟨trimRunes_eq_self ?_ ?_, by simp [text]⟩ <;> simp [text, getLast?_cons] <;> decide

end Phrase

/-! ## Parsing the tokens of a phrase -/

namespace FilterParser

/-- What the parser makes of a phrase: the tree, or an error. -/
def verdict (ok : Bool) (node : SCIMFilterNode) (p : FilterParser) :
    Except Err (SCIMFilterNode × FilterParser) :=
  if ok then .ok (node, p) else .error errInvalidSCIMFilter

section Levels

variable {u : Unicode} {e : Parser Err FilterParser SCIMFilterNode}

theorem parseUnary_of_primary {p : FilterParser} (hnot : p.keyword? "not" = none) :
    parseUnary u e p = parsePrimary u e p := by
  unfold parseUnary
  cases p.tokens.length with
  | zero => rfl
  | succ n => simp only [parseNots, hnot]

/-- An operand with no operator behind it. -/
theorem chain_verdict_single
    {combine : SCIMFilterNode → SCIMFilterNode → Parser Err FilterParser SCIMFilterNode}
    {p p' : FilterParser} {node : SCIMFilterNode}
    (hoperand : operand p = verdict ok node p') (hnext : next p' = none) (fuel : Nat) :
    chain operand next combine fuel p = verdict ok node p' := by
  cases ok with
  | false => exact chain_error hoperand fuel
  | true =>
    rw [chain_of_operand hoperand]
    exact chainLoop_stop hnext fuel node

/-- Two operands with an operator between them, and none behind them. -/
theorem chain_verdict_pair {op : LogicalOp} {p p₁ p₂ p₃ : FilterParser} {okLeft okRight : Bool}
    {left right : SCIMFilterNode} (hleft : operand p = verdict okLeft left p₁)
    (hop : next p₁ = some p₂) (hright : operand p₂ = verdict okRight right p₃)
    (hnext : next { p₃ with nodeCount := p₃.nodeCount + 1 } = none) (fuel : Nat) :
    chain operand next (fun left right => newNode (.logical op left right)) (fuel + 1) p =
      verdict (okLeft && okRight) (.logical op left right)
        { p₃ with nodeCount := p₃.nodeCount + 1 } := by
  cases okLeft with
  | false => exact chain_error hleft (fuel + 1)
  | true =>
    rw [chain_of_operand hleft]
    cases okRight with
    | false => exact chainLoop_error hop hright fuel left
    | true =>
      rw [chainLoop_step hop hright rfl]
      exact chainLoop_stop hnext fuel _

/-- A closing parenthesis is no keyword. -/
theorem keyword?_rparen (keyword : String) (rest : List FilterToken) (n : Nat) :
    keyword? keyword ⟨.rparen :: rest, n⟩ = none := rfl

theorem keyword?_eof (keyword : String) (n : Nat) : keyword? keyword ⟨[.eof], n⟩ = none := rfl

theorem keyword?_identifier (keyword : String) (word : List Char) (rest : List FilterToken)
    (n : Nat) : keyword? keyword ⟨.identifier word :: rest, n⟩ =
      if equalFold word keyword then some ⟨rest, n⟩ else none := rfl

theorem parsePrimary_identifier (word : List Char) (rest : List FilterToken) (n : Nat) :
    parsePrimary u e ⟨.identifier word :: rest, n⟩ =
      parseComparison u ⟨.identifier word :: rest, n⟩ := rfl

/-- A group: what is read inside the parentheses, and the closing parenthesis. -/
theorem parsePrimary_group (ts : List FilterToken) {rest : List FilterToken} {n m : Nat}
    {node : SCIMFilterNode}
    (h : e ⟨ts ++ .rparen :: rest, n⟩ = verdict ok node ⟨.rparen :: rest, m⟩) :
    parsePrimary u e ⟨.lparen :: (ts ++ .rparen :: rest), n⟩ = verdict ok node ⟨rest, m⟩ := by
  show (e ⟨ts ++ .rparen :: rest, n⟩ >>= _) = _
  rw [h]
  cases ok with
  | false => rfl
  | true => rfl

end Levels

end FilterParser

namespace Phrase

open FilterParser

def depth : Phrase → Nat
  | .comparison .. => 0
  | .logical _ _ left right => max left.depth right.depth + 1
  | .not _ operand => operand.depth + 1
  | .parens inner => inner.depth + 1

theorem depth_le_length (u : Unicode) (p : Phrase) : p.depth ≤ (p.tokens u).length := by
  induction p with
  | comparison => exact Nat.zero_le _
  | logical op keyword left right ihleft ihright =>
    simp only [depth, tokens, length_cons, length_append]
    omega
  | not keyword operand ih =>
    simp only [depth, tokens, length_cons, length_append]
    omega
  | parens inner ih =>
    simp only [depth, tokens, length_cons, length_append]
    omega

section Parse

variable {u : Unicode} {e : Parser Err FilterParser SCIMFilterNode} {p : Phrase}
  {rest : List FilterToken}

/-- A comparison starts with a number, or with its attribute. -/
theorem tokens_comparison (hp : (comparison attr opText op value).Printable u) :
    (∃ lit ts, (comparison attr opText op value).tokens u = .number lit :: ts ∧
        (comparison attr opText op value).readable u = false) ∨
      ((comparison attr opText op value).readable u = true ∧
        (comparison attr opText op value).tokens u = .identifier attr :: .identifier opText ::
          if op = .pr then [] else [.string value]) := by
  obtain ⟨hne, hattr, hreserved, -⟩ := hp
  obtain ⟨c, attr', rfl⟩ := exists_cons_of_ne_nil hne
  cases hnumber : numberLiteral? u c attr' with
  | none =>
    have htoken : wordToken u (c :: attr') = .identifier (c :: attr') := by
      apply wordToken_of_not_reserved hattr
      intro hmem
      apply hreserved
      simp only [map_cons, map_nil, mem_cons, not_mem_nil, or_false]
        at hmem ⊢
      exact .inr (.inr (.inr hmem))
    have htokens := wordTokens_of_not_number hattr hnumber
    rw [htoken] at htokens
    refine .inr ⟨by simp [readable, hnumber], ?_⟩
    simp only [tokens, htokens]
    rfl
  | some r =>
    obtain ⟨ts, hts⟩ := wordTokens_of_number hattr hnumber
    exact .inl ⟨r.1, _, by rw [tokens, hts]; rfl, by simp [readable, hnumber]⟩

/-- No phrase starts with `not`. -/
theorem keyword?_not_tokens (hp : p.Printable u) (rest : List FilterToken) (n : Nat) :
    keyword? "not" ⟨p.tokens u ++ rest, n⟩ = none := by
  cases p with
  | comparison attr opText op value =>
    rcases tokens_comparison hp with ⟨lit, ts, h, -⟩ | ⟨-, h⟩
    · rw [h]
      rfl
    · rw [h, cons_append, keyword?_identifier, if_neg]
      intro hnot
      have hlower := lower_of_equalFold u (by decide) hnot
      exact hp.2.2.1 (hlower ▸ by decide)
  | logical op keyword left right => rfl
  | not keyword operand => rfl
  | parens inner => rfl

/-- How a level that reads one phrase treats it. -/
def ReadBy (u : Unicode) (parse : Parser Err FilterParser SCIMFilterNode) (p : Phrase)
    (rest : List FilterToken) : Prop :=
  ∀ n, parse ⟨p.tokens u ++ rest, n⟩ = verdict (p.readable u) (p.node u) ⟨rest, n + p.size⟩

theorem readBy_unary (hp : p.Printable u)
    (h : p.ReadBy u (parsePrimary u e) rest) : p.ReadBy u (parseUnary u e) rest := by
  intro n
  rw [parseUnary_of_primary (keyword?_not_tokens hp rest n), h n]

theorem readBy_and (h : p.ReadBy u (parseUnary u e) rest)
    (hand : ∀ n, keyword? "and" ⟨rest, n⟩ = none) : p.ReadBy u (parseAnd u e) rest :=
  fun n => chain_verdict_single (h n) (hand _) _

theorem readBy_or (h : p.ReadBy u (parseAnd u e) rest)
    (hor : ∀ n, keyword? "or" ⟨rest, n⟩ = none) : p.ReadBy u (parseOr u e) rest :=
  fun n => chain_verdict_single (h n) (hor _) _

/-- The name of an operator is read back. -/
theorem ofText?_lower (u : Unicode) (hop : equalFold opText op.name = true) :
    CompareOp.ofText? (u.lower (trimRunes opText)) = some op := by
  have hname : op.name.toList.all Char.isLower = true := by cases op <;> decide
  have htrim := trimRunes_of_not_isSpace fun c hc => not_isSpace_of_isIdentifierRune
    (isIdentifierRune_of_isAlpha u (letters_of_equalFold hname hop c hc))
  rw [htrim, lower_of_equalFold u hname hop]
  cases op <;> decide

theorem readBy_primary_comparison
    (hp : (comparison attr opText op value).Printable u) (rest : List FilterToken) :
    (comparison attr opText op value).ReadBy u (parsePrimary u e) rest := by
  intro n
  rcases tokens_comparison hp with ⟨lit, ts, h, hread⟩ | ⟨hread, h⟩
  · rw [h, hread]
    rfl
  · obtain ⟨hne, hattr, -, hop⟩ := hp
    have htrim := trimRunes_of_not_isSpace fun c hc => not_isSpace_of_isIdentifierRune (hattr c hc)
    have hlower : u.lower (trimRunes attr) ≠ [] := by
      rw [htrim]
      simpa [Unicode.lower] using hne
    rw [h, hread, cons_append, parsePrimary_identifier]
    simp only [parseComparison, peek, consume, cons_append, head?_cons, tail_cons,
      Option.getD_some, if_neg hlower, ofText?_lower u hop]
    rw [htrim]
    by_cases hpr : op = .pr
    · subst hpr
      rfl
    · cases op with
      | pr => exact absurd rfl hpr
      | _ => rfl

/-- A phrase with a closing parenthesis behind it is read by every level. -/
theorem readBy_or_of_primary (hp : p.Printable u)
    (h : p.ReadBy u (parsePrimary u e) (.rparen :: rest)) :
    p.ReadBy u (parseOr u e) (.rparen :: rest) :=
  readBy_or (readBy_and (readBy_unary hp h) (keyword?_rparen "and" rest))
    (keyword?_rparen "or" rest)

/-- The inside of a negation. -/
theorem parseOr_not (hkeyword : equalFold keyword "not" = true) (hp : p.Printable u)
    (h : p.ReadBy u (parsePrimary u e) (.rparen :: rest)) (n : Nat) :
    parseOr u e ⟨.identifier keyword :: (p.tokens u ++ .rparen :: rest), n⟩ =
      verdict (p.readable u) (.not (p.node u)) ⟨.rparen :: rest, n + p.size + 1⟩ := by
  have hunary : parseUnary u e ⟨.identifier keyword :: (p.tokens u ++ .rparen :: rest), n⟩ =
      verdict (p.readable u) (.not (p.node u)) ⟨.rparen :: rest, n + p.size + 1⟩ := by
    have hinner : parseNots u e (p.tokens u ++ .rparen :: rest).length
        ⟨p.tokens u ++ .rparen :: rest, n⟩ =
          verdict (p.readable u) (p.node u) ⟨.rparen :: rest, n + p.size⟩ :=
      readBy_unary hp h n
    unfold parseUnary
    rw [length_cons]
    simp only [parseNots, keyword?_identifier, hkeyword, if_true]
    rw [hinner]
    cases p.readable u with
    | false => rfl
    | true => rfl
  have hand : parseAnd u e ⟨.identifier keyword :: (p.tokens u ++ .rparen :: rest), n⟩ =
      verdict (p.readable u) (.not (p.node u)) ⟨.rparen :: rest, n + p.size + 1⟩ :=
    chain_verdict_single hunary (keyword?_rparen "and" rest _) _
  exact chain_verdict_single hand (keyword?_rparen "or" rest _) _

/-- The inside of a conjunction or a disjunction. -/
theorem parseOr_logical {op : LogicalOp} (hkeyword : equalFold keyword op.name = true)
    {left right : Phrase} (hleft : left.Printable u) (hright : right.Printable u)
    (hl : left.ReadBy u (parsePrimary u e)
      (.identifier keyword :: (right.tokens u ++ .rparen :: rest)))
    (hr : right.ReadBy u (parsePrimary u e) (.rparen :: rest)) (n : Nat) :
    parseOr u e ⟨left.tokens u ++ .identifier keyword :: (right.tokens u ++ .rparen :: rest), n⟩ =
      verdict (left.readable u && right.readable u) (.logical op (left.node u) (right.node u))
        ⟨.rparen :: rest, n + left.size + right.size + 1⟩ := by
  -- there is an operator to read, so the bound on the loop is not zero
  obtain ⟨fuel, hfuel⟩ : ∃ fuel, (left.tokens u ++ .identifier keyword ::
      (right.tokens u ++ .rparen :: rest)).length = fuel + 1 := by
    simp only [length_append, length_cons]
    exact ⟨_, rfl⟩
  have hlower : keyword.map Char.toLower = op.name.toList := by
    simpa [equalFold] using hkeyword
  cases op with
  | and =>
    have hand : parseAnd u e ⟨left.tokens u ++ .identifier keyword ::
        (right.tokens u ++ .rparen :: rest), n⟩ =
          verdict (left.readable u && right.readable u)
            (.logical .and (left.node u) (right.node u))
            ⟨.rparen :: rest, n + left.size + right.size + 1⟩ := by
      unfold parseAnd
      rw [hfuel]
      refine chain_verdict_pair (readBy_unary hleft hl n) ?_ (readBy_unary hright hr _)
        (keyword?_rparen "and" rest _) fuel
      exact if_pos hkeyword
    exact chain_verdict_single hand (keyword?_rparen "or" rest _) _
  | or =>
    have hnotAnd : ∀ m, keyword? "and" ⟨.identifier keyword ::
        (right.tokens u ++ .rparen :: rest), m⟩ = none := by
      intro m
      rw [keyword?_identifier, if_neg]
      unfold equalFold
      rw [hlower]
      decide
    unfold parseOr
    rw [hfuel]
    refine chain_verdict_pair (readBy_and (readBy_unary hleft hl) hnotAnd n) ?_
      (readBy_and (readBy_unary hright hr) (keyword?_rparen "and" rest) _)
      (keyword?_rparen "or" rest _) fuel
    exact if_pos hkeyword

/-- Every phrase is read where an operand is expected. -/
theorem readBy_primary (hp : p.Printable u) {bound : Nat} (hbound : p.depth ≤ bound)
    (rest : List FilterToken) : p.ReadBy u (parsePrimary u (parseExpression u bound)) rest := by
  induction p generalizing bound rest with
  | comparison attr opText op value => exact readBy_primary_comparison hp rest
  | parens inner ih =>
    cases bound with
    | zero => exact absurd hbound (by simp [depth])
    | succ k =>
      have hprimary : inner.ReadBy u (parsePrimary u (parseExpression u k)) (.rparen :: rest) :=
        ih hp (Nat.le_of_succ_le_succ hbound) _
      intro n
      simp only [tokens, cons_append, append_assoc, nil_append]
      exact parsePrimary_group (inner.tokens u) (readBy_or_of_primary (p := inner) hp hprimary n)
  | not keyword operand ih =>
    obtain ⟨hkeyword, hoperand⟩ := hp
    cases bound with
    | zero => exact absurd hbound (by simp [depth])
    | succ k =>
      have hprimary : operand.ReadBy u (parsePrimary u (parseExpression u k)) (.rparen :: rest) :=
        ih hoperand (Nat.le_of_succ_le_succ hbound) _
      intro n
      simp only [tokens, cons_append, append_assoc, nil_append]
      exact parsePrimary_group (.identifier keyword :: operand.tokens u)
        (parseOr_not hkeyword hoperand hprimary n)
  | logical op keyword left right ihleft ihright =>
    obtain ⟨hkeyword, hleft, hright⟩ := hp
    cases bound with
    | zero => exact absurd hbound (by simp [depth])
    | succ k =>
      have hboth : left.depth ≤ k ∧ right.depth ≤ k := by
        simp only [depth] at hbound
        omega
      have hl : left.ReadBy u (parsePrimary u (parseExpression u k))
          (.identifier keyword :: (right.tokens u ++ .rparen :: rest)) :=
        ihleft hleft hboth.1 _
      have hr : right.ReadBy u (parsePrimary u (parseExpression u k)) (.rparen :: rest) :=
        ihright hright hboth.2 _
      intro n
      have hsize : n + (Phrase.logical op keyword left right).size =
          n + left.size + right.size + 1 := by
        simp only [size]
        omega
      have hinside := parseOr_logical hkeyword hleft hright hl hr n
      rw [← cons_append, ← append_assoc] at hinside
      have hgroup := parsePrimary_group (u := u)
        (left.tokens u ++ .identifier keyword :: right.tokens u) hinside
      rw [hsize]
      simp only [append_assoc, cons_append] at hgroup
      simp only [tokens, append_assoc, cons_append, nil_append]
      exact hgroup

end Parse

end Phrase

/-! ## The round trip -/

/-- For a phrase of at most fifty nodes, the text is parsed into the tree of the phrase exactly
    when no attribute starts like a number. -/
theorem filter_round_trip_iff (u : Unicode) (optional : Char → Bool) (p : Phrase)
    (hp : p.Printable u) (hsize : p.size ≤ 50) :
    parseSCIMFilter u (p.text optional) = .ok (p.node u) ↔ p.readable u = true := by
  obtain ⟨htrim, hne⟩ := Phrase.trimRunes_text optional hp
  have htokens : tokenizeFilter u (p.text optional) = .ok (p.tokens u ++ [FilterToken.eof]) := by
    have hscans := Phrase.scans_text optional hp (separated_nil u.isIdentifierRune)
    rw [append_nil] at hscans
    unfold tokenizeFilter
    rw [hscans.scan_eq]
    rfl
  have hparse : FilterParser.parseExpression u ((p.tokens u ++ [FilterToken.eof]).length + 1)
      ⟨p.tokens u ++ [FilterToken.eof], 0⟩ =
        FilterParser.verdict (p.readable u) (p.node u) ⟨[FilterToken.eof], 0 + p.size⟩ := by
    have hbound : p.depth ≤ (p.tokens u ++ [FilterToken.eof]).length := by
      have hdepth := p.depth_le_length u
      rw [length_append]
      omega
    have hprimary := Phrase.readBy_primary hp hbound [FilterToken.eof]
    exact Phrase.readBy_or (Phrase.readBy_and (Phrase.readBy_unary hp hprimary)
      (FilterParser.keyword?_eof "and")) (FilterParser.keyword?_eof "or") 0
  simp only [parseSCIMFilter, htrim, if_neg hne, htokens, hparse]
  cases p.readable u with
  | false => simp [FilterParser.verdict]
  | true => simp [FilterParser.verdict, FilterParser.peek, hsize]

theorem not_isSpace_of_isAlpha (c : Char) (h : c.isAlpha = true) : isSpace c = false := by
  have hrange := toNat_of_isAlpha h
  exact not_isSpace_of_toNat (by omega) (by omega)

theorem not_isSpace_of_isDigit (c : Char) (h : c.isDigit = true) : isSpace c = false := by
  have hrange := toNat_of_isDigit h
  exact not_isSpace_of_toNat (by omega) (by omega)

theorem lowers_ascii (c : Char) (_ : c.toNat < 128) : c.toLower = c.toLower := rfl

/-- Tables that know ASCII only. -/
def Unicode.ascii : Unicode where
  isLetter := Char.isAlpha
  isDigit := Char.isDigit
  toLower := Char.toLower
  letter_ascii := fun _ _ => rfl
  digit_ascii := fun _ _ => rfl
  lower_ascii := lowers_ascii
  letter_not_space := not_isSpace_of_isAlpha
  digit_not_space := not_isSpace_of_isDigit

/-- A filter with a quote and a line break in its value, and keywords in mixed case. -/
def bobAndActive : Phrase :=
  .logical .and "AND".toList
    (.comparison "userName".toList "Eq".toList .eq "b\"o\nb".toList)
    (.not "Not".toList (.comparison "externalId".toList "pr".toList .pr []))

theorem filter_round_trip_bobAndActive :
    parseSCIMFilter .ascii (bobAndActive.text (fun _ => true)) = .ok (bobAndActive.node .ascii) := by
  have hp : bobAndActive.Printable .ascii :=
    ⟨by decide, ⟨by decide, by decide, by decide, by decide⟩, by decide,
      by decide, by decide, by decide, by decide⟩
  exact (filter_round_trip_iff .ascii _ bobAndActive hp (by decide)).mpr (by decide +kernel)

def secondFactor : Phrase := .comparison "2faEnabled".toList "eq".toList .eq "yes".toList

/-- The attribute is an identifier, but its first character is scanned as a number. -/
theorem second_factor_not_parsed :
    secondFactor.Printable .ascii ∧ secondFactor.size ≤ 50 ∧
      parseSCIMFilter .ascii (secondFactor.text (fun _ => true)) =
        .error "ParseSCIMFilter: invalid scim filter" :=
  ⟨⟨by decide, by decide, by decide, by decide⟩, by decide, by decide +kernel⟩

end LoanWorkflow
