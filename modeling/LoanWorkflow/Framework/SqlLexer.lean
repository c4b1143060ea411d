import LoanWorkflow.Framework.Strings

/-! # The words of a statement

    A statement is a text. The scanner reads it from left to right and keeps
    the tokens that are complete and what it is in the middle of: a gap, a
    word, an operator or a quotation. Because it is a left fold, the scan of
    `h ++ r` goes on from the scan of `h`; the lemmas here say what that means
    when the two halves meet at a blank.

    - `lex`: the tokens of a text, none when a quotation is left open
    - `lex_append`: a blank separates tokens
    - `lex_append_spaces`, `lex_spaces_append`: blanks around a text do not matter
    - `lex_quoted`: inside a quotation everything up to the closing quote is one token
-/

namespace Sql

open List Strings

variable {c q : Char} {acc h p r ws y : Text}

inductive Token where
  /-- An identifier, a keyword, a number or a placeholder. -/
  | word (w : Text)
  /-- A run of operator characters. -/
  | op (s : Text)
  | punct (c : Char)
  /-- A string constant or a quoted identifier. -/
  | quoted (q : Char) (s : Text)
deriving DecidableEq, Repr

variable {ts : List Token}

/-! ### Characters -/

def isQuote (c : Char) : Bool := c == '\x27' || c == '\x22'

def isPunct (c : Char) : Bool :=
  c == '(' || c == ')' || c == ',' || c == ';' || c == '[' || c == ']'

def isOperator (c : Char) : Bool := "+-*/<>=~!@#%^&|?:".toList.contains c

inductive CharClass where
  | space | quote | punct | operator | word
deriving DecidableEq

def classify (c : Char) : CharClass :=
  if isSpace c then .space
  else if isQuote c then .quote
  else if isPunct c then .punct
  else if isOperator c then .operator
  else .word

/-- Letters are word characters. -/
theorem classify_of_toUpper (hlow : 65 ≤ c.toUpper.toNat)
    (hhigh : c.toUpper.toNat ≤ 90) : classify c = .word := by
  have hlower : ∀ n < 123, 97 ≤ n → classify (Char.ofNat n) = .word := by decide
  have hupper : ∀ n < 91, 65 ≤ n → classify (Char.ofNat n) = .word := by decide
  rw [toNat_toUpper] at hlow hhigh
  rw [← Char.ofNat_toNat c]
  by_cases h : 97 ≤ c.toNat ∧ c.toNat ≤ 122
  · exact hlower _ (by omega) h.1
  · rw [if_neg h] at hlow hhigh
    exact hupper _ (by omega) hlow

theorem classify_of_isDigit (h : c.isDigit = true) : classify c = .word := by
  have hdigit : ∀ n < 58, 48 ≤ n → classify (Char.ofNat n) = .word := by decide
  simp only [Char.isDigit, Bool.and_eq_true, decide_eq_true_eq, ge_iff_le] at h
  have hlow : 48 ≤ c.toNat := UInt32.le_iff_toNat_le.mp h.1
  have hhigh : c.toNat ≤ 57 := UInt32.le_iff_toNat_le.mp h.2
  rw [← Char.ofNat_toNat c]
  exact hdigit _ (by omega) hlow

/-! ### The scanner -/

/-- What the scanner is in the middle of. -/
inductive Mode where
  | gap
  | word (acc : Text)
  | operator (acc : Text)
  | quotation (q : Char) (acc : Text)
deriving DecidableEq

/-- The token that ends when the mode ends. -/
def Mode.flush : Mode → List Token
  | .word acc => [.word acc]
  | .operator acc => [.op acc]
  | _ => []

structure Scan where
  tokens : List Token
  mode : Mode
deriving DecidableEq

variable {s : Scan}

/-- End what is pending, and start anew with `c`. -/
def Scan.start (s : Scan) (c : Char) : Scan :=
  match classify c with
  | .space => ⟨s.tokens ++ s.mode.flush, .gap⟩
  | .quote => ⟨s.tokens ++ s.mode.flush, .quotation c []⟩
  | .punct => ⟨s.tokens ++ s.mode.flush ++ [.punct c], .gap⟩
  | .operator => ⟨s.tokens ++ s.mode.flush, .operator [c]⟩
  | .word => ⟨s.tokens ++ s.mode.flush, .word [c]⟩

def Scan.read (s : Scan) (c : Char) : Scan :=
  match s.mode, classify c with
  | .quotation q acc, _ =>
    if c = q then ⟨s.tokens ++ [.quoted q acc], .gap⟩ else ⟨s.tokens, .quotation q (acc ++ [c])⟩
  | .word acc, .word => ⟨s.tokens, .word (acc ++ [c])⟩
  | .operator acc, .operator => ⟨s.tokens, .operator (acc ++ [c])⟩
  | _, _ => s.start c

def Scan.readAll (s : Scan) (text : Text) : Scan := text.foldl Scan.read s

/-- The tokens at the end of the text. A quotation must be closed. -/
def Scan.finish (s : Scan) : Option (List Token) :=
  match s.mode with
  | .quotation _ _ => none
  | _ => some (s.tokens ++ s.mode.flush)

def scan (text : Text) : Scan := Scan.readAll ⟨[], .gap⟩ text

/-- The tokens of a text. -/
def lex (text : Text) : Option (List Token) := (scan text).finish

@[simp] theorem Scan.readAll_nil (s : Scan) : s.readAll [] = s := rfl

@[simp] theorem lex_nil : lex [] = some [] := rfl

/-! ### The scanner only appends tokens -/

def Scan.prepend (ts : List Token) (s : Scan) : Scan := ⟨ts ++ s.tokens, s.mode⟩

theorem Scan.read_prepend (ts : List Token) (s : Scan) (c : Char) :
    (s.prepend ts).read c = (s.read c).prepend ts := by
  unfold Scan.read Scan.start Scan.prepend
  cases s.mode with
  | quotation q acc => by_cases hc : c = q <;> simp [hc]
  | _ => cases classify c <;> simp

theorem Scan.readAll_prepend (ts : List Token) (s : Scan) (text : Text) :
    (s.prepend ts).readAll text = (s.readAll text).prepend ts := by
  induction text generalizing s with
  | nil => rfl
  | cons c text ih =>
    show Scan.readAll ((s.prepend ts).read c) text = (Scan.readAll (s.read c) text).prepend ts
    rw [Scan.read_prepend, ih]

theorem Scan.finish_prepend (ts : List Token) (s : Scan) :
    (s.prepend ts).finish = s.finish.map (ts ++ ·) := by
  unfold Scan.finish Scan.prepend
  cases s.mode <;> simp

/-- From a gap the scan is that of the rest alone, after the tokens so far. -/
theorem Scan.finish_gap (ts : List Token) (text : Text) :
    (Scan.readAll ⟨ts, .gap⟩ text).finish = (lex text).map (ts ++ ·) := by
  have h : (⟨ts, .gap⟩ : Scan) = Scan.prepend ts ⟨[], .gap⟩ := by simp [Scan.prepend]
  rw [h, Scan.readAll_prepend, Scan.finish_prepend]
  rfl

theorem Scan.readAll_append (s : Scan) (h r : Text) :
    s.readAll (h ++ r) = (s.readAll h).readAll r := foldl_append

theorem lex_append_eq (h r : Text) : lex (h ++ r) = ((scan h).readAll r).finish := by
  rw [lex, scan, Scan.readAll_append, ← scan]

/-! ### Blanks -/

theorem classify_space (hc : isSpace c = true) : classify c = .space := by
  simp [classify, hc]

theorem isQuote_of_isSpace (hc : isSpace c = true) : isQuote c = false := by
  simp only [isSpace, Bool.or_eq_true, beq_iff_eq] at hc
  rcases hc with ((((rfl | rfl) | rfl) | rfl) | rfl) | rfl <;> decide

/-- A blank ends the pending token. -/
theorem Scan.read_space (hs : s.finish = some ts)
    (hc : isSpace c = true) : s.read c = ⟨ts, .gap⟩ := by
  unfold Scan.finish at hs
  unfold Scan.read Scan.start
  rw [classify_space hc]
  cases hm : s.mode <;> simp_all [Mode.flush]

/-- A blank separates the tokens before it from those after it. -/
theorem lex_append (hl : lex h = some ts)
    (hc : isSpace c = true) (r : Text) : lex (h ++ c :: r) = (lex r).map (ts ++ ·) := by
  rw [lex_append_eq]
  show (Scan.readAll ((scan h).read c) r).finish = _
  rw [Scan.read_space hl hc, Scan.finish_gap]

/-- A text that starts with a blank, or is empty, goes on after complete tokens. -/
theorem lex_append_blank (hl : lex h = some ts)
    (hr : ∀ c ∈ r.head?, isSpace c = true) : lex (h ++ r) = (lex r).map (ts ++ ·) := by
  cases r with
  | nil => simp [hl]
  | cons c r =>
    have hc : isSpace c = true := hr c rfl
    have hblank : lex (c :: r) = lex r := by simpa using lex_append lex_nil hc r
    rw [lex_append hl hc, hblank]

theorem lex_cons_space (hc : isSpace c = true) (r : Text) : lex (c :: r) = lex r := by
  simpa using lex_append lex_nil hc r

theorem lex_spaces_append (hws : ∀ c ∈ ws, isSpace c = true) (r : Text) :
    lex (ws ++ r) = lex r := by
  induction ws with
  | nil => rfl
  | cons c ws ih =>
    rw [cons_append, lex_cons_space (hws c (by simp)),
      ih (fun d hd => hws d (mem_cons_of_mem _ hd))]

/-! ### Quotations -/

/-- Inside a quotation every character up to the closing quote is kept. -/
theorem Scan.readAll_quotation (ts : List Token) (q : Char) (acc y : Text) (hy : q ∉ y) :
    Scan.readAll ⟨ts, .quotation q acc⟩ y = ⟨ts, .quotation q (acc ++ y)⟩ := by
  induction y generalizing acc with
  | nil => simp
  | cons c y ih =>
    obtain ⟨hc, hy⟩ := not_or.mp (mt mem_cons.mpr hy)
    show Scan.readAll (Scan.read ⟨ts, .quotation q acc⟩ c) y = _
    have hread : Scan.read ⟨ts, .quotation q acc⟩ c = ⟨ts, .quotation q (acc ++ [c])⟩ := by
      simp [Scan.read, Ne.symm hc]
    rw [hread, ih _ hy, append_assoc, singleton_append]

/-- A text that opens a quotation and leaves it open is continued by the
    closing quote. -/
theorem lex_quoted (hs : scan h = ⟨ts, .quotation q acc⟩) (hy : q ∉ y) (r : Text) :
    lex (h ++ (y ++ q :: r)) = (lex r).map (ts ++ .quoted q (acc ++ y) :: ·) := by
  rw [lex_append_eq, hs, Scan.readAll_append, Scan.readAll_quotation _ _ _ _ hy]
  show (Scan.readAll (Scan.read ⟨ts, .quotation q (acc ++ y)⟩ q) r).finish = _
  have hread : Scan.read ⟨ts, .quotation q (acc ++ y)⟩ q =
      ⟨ts ++ [.quoted q (acc ++ y)], .gap⟩ := by simp [Scan.read]
  rw [hread, Scan.finish_gap]
  simp

/-- A quotation without its closing quote is no token. -/
theorem lex_unclosed (hs : scan h = ⟨ts, .quotation q acc⟩) (hy : q ∉ y) : lex (h ++ y) = none := by
  rw [lex_append_eq, hs, Scan.readAll_quotation _ _ _ _ hy]
  rfl

/-- The mode is no quotation, or one that a quote opened. -/
def Mode.Proper : Mode → Prop
  | .quotation q _ => isQuote q = true
  | _ => True

theorem Scan.read_proper (hs : s.mode.Proper) (c : Char) : (s.read c).mode.Proper := by
  unfold Scan.read Scan.start
  have hquote : classify c = .quote → isQuote c = true := by
    unfold classify
    split_ifs <;> simp_all
  cases hm : s.mode with
  | quotation q acc =>
    rw [hm] at hs
    by_cases hc : c = q
    · simp [hc, Mode.Proper]
    · simpa [hc, Mode.Proper] using hs
  | _ => cases hcls : classify c <;> simp_all [Mode.Proper]

theorem scan_proper (h : Text) : (scan h).mode.Proper := by
  have hrun : ∀ (text : Text) (s : Scan), s.mode.Proper → (s.readAll text).mode.Proper := by
    intro text
    induction text with
    | nil => exact fun s hs => hs
    | cons c text ih => exact fun s hs => ih (s.read c) (Scan.read_proper hs c)
  exact hrun h _ trivial

/-- A scan has read complete tokens, or stands inside a quotation. -/
theorem scan_cases (h : Text) :
    (∃ ts, lex h = some ts) ∨
      ∃ ts q acc, scan h = ⟨ts, .quotation q acc⟩ ∧ isQuote q = true := by
  have hproper := scan_proper h
  rcases hs : scan h with ⟨ts, mode⟩
  rw [hs] at hproper
  cases mode with
  | quotation q acc => exact Or.inr ⟨ts, q, acc, rfl, hproper⟩
  | _ => exact Or.inl ⟨_, by rw [lex, hs]; rfl⟩

theorem lex_append_spaces (hws : ∀ c ∈ ws, isSpace c = true) (h : Text) :
    lex (h ++ ws) = lex h := by
  rcases scan_cases h with ⟨ts, hl⟩ | ⟨ts, q, acc, hs, hq⟩
  · cases ws with
    | nil => rw [append_nil]
    | cons c ws =>
      have hrest : lex ws = some [] := by
        simpa using lex_spaces_append (fun d hd => hws d (mem_cons_of_mem c hd)) []
      rw [lex_append hl (hws c (by simp)), hrest, hl]
      simp
  · -- a blank does not close a quotation
    have hclose : q ∉ ws := by
      intro hmem
      rw [isQuote_of_isSpace (hws q hmem)] at hq
      exact Bool.noConfusion hq
    have hopen := lex_unclosed hs (y := []) (by simp)
    rw [append_nil] at hopen
    rw [lex_unclosed hs hclose, hopen]

/-! ### Words -/

theorem Scan.readAll_word (ts : List Token) (acc p : Text) (hp : ∀ c ∈ p, classify c = .word) :
    Scan.readAll ⟨ts, .word acc⟩ p = ⟨ts, .word (acc ++ p)⟩ := by
  induction p generalizing acc with
  | nil => simp
  | cons c p ih =>
    show Scan.readAll (Scan.read ⟨ts, .word acc⟩ c) p = _
    have hread : Scan.read ⟨ts, .word acc⟩ c = ⟨ts, .word (acc ++ [c])⟩ := by
      simp [Scan.read, hp c (by simp)]
    rw [hread, ih _ (fun d hd => hp d (mem_cons_of_mem _ hd)), append_assoc,
      singleton_append]

theorem scan_word (hp : ∀ c ∈ p, classify c = .word) (hne : p ≠ []) : scan p = ⟨[], .word p⟩ := by
  obtain ⟨c, p, rfl⟩ := exists_cons_of_ne_nil hne
  show Scan.readAll (Scan.read ⟨[], .gap⟩ c) p = _
  have hread : Scan.read ⟨[], .gap⟩ c = ⟨[], .word [c]⟩ := by
    simp [Scan.read, Scan.start, hp c (by simp), Mode.flush]
  rw [hread, Scan.readAll_word _ _ _ (fun d hd => hp d (mem_cons_of_mem _ hd))]
  rfl

/-- A word keeps the characters it has when the scan goes on. -/
theorem Scan.finish_word (h : (Scan.readAll ⟨[], .word acc⟩ r).finish = some ts) :
    ∃ s rest, ts = .word (acc ++ s) :: rest := by
  induction r generalizing acc with
  | nil =>
    cases h
    exact ⟨[], [], by simp [Scan.readAll, Mode.flush]⟩
  | cons c r ih =>
    change (Scan.readAll (Scan.read ⟨[], .word acc⟩ c) r).finish = some ts at h
    by_cases hc : classify c = .word
    · have hread : Scan.read ⟨[], .word acc⟩ c = ⟨[], .word (acc ++ [c])⟩ := by
        simp [Scan.read, hc]
      rw [hread] at h
      obtain ⟨s, rest, rfl⟩ := ih h
      exact ⟨c :: s, rest, by simp⟩
    · have hread : Scan.read ⟨[], .word acc⟩ c =
          Scan.prepend [.word acc] (Scan.start ⟨[], .gap⟩ c) := by
        unfold Scan.read Scan.start Scan.prepend
        cases hcls : classify c <;> simp_all [Mode.flush]
      rw [hread, Scan.readAll_prepend, Scan.finish_prepend] at h
      obtain ⟨rest, -, rfl⟩ := Option.map_eq_some_iff.mp h
      exact ⟨[], rest, by simp⟩

theorem lex_word (hp : ∀ c ∈ p, classify c = .word) (hne : p ≠ []) : lex p = some [.word p] := by
  rw [lex, scan_word hp hne]
  rfl

/-- The first token of a text that starts with a word starts with it. -/
theorem lex_word_append (hp : ∀ c ∈ p, classify c = .word)
    (hne : p ≠ []) (h : lex (p ++ r) = some ts) : ∃ s rest, ts = .word (p ++ s) :: rest := by
  rw [lex_append_eq, scan_word hp hne] at h
  exact Scan.finish_word h

end Sql
