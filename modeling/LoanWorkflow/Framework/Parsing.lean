import Mathlib

/-! # Hand-written scanners and parsers

    A scanner is a loop that reads one token or one blank at a time; a
    recursive descent parser has one loop for each left-associative operator.
    Both loops are bounded by the length of their input.

    - `scan`: the scanner
    - `Scans`: what the scanner makes of the front of a text, piece by piece
    - `Separated`: a text in front of which a run of characters ends
    - `chain`: the loop over an operator, with `chainLoop_stop`, `chainLoop_step`, and
      `chain_rule` for invariants
    - `Reads`, `Folds`: what parsers and chains make of the front of a token list
-/

universe u v w

namespace Parsing

open List

variable {c : Char} {p : Char → Bool} {rest text : List Char} {fuel k : Nat}

/-! ### Characters -/

theorem toNat_of_isAlpha (h : c.isAlpha = true) :
    65 ≤ c.toNat ∧ c.toNat ≤ 90 ∨ 97 ≤ c.toNat ∧ c.toNat ≤ 122 := by
  simp only [Char.isAlpha, Char.isUpper, Char.isLower, Bool.or_eq_true, Bool.and_eq_true,
    decide_eq_true_eq, ge_iff_le, UInt32.le_iff_toNat_le] at h
  exact h

theorem isAlpha_of_toLower {d : Char} (hd : d.isLower = true) (h : c.toLower = d) :
    c.isAlpha = true := by
  unfold Char.toLower at h
  split at h
  · next hupper =>
    simp only [Char.isAlpha, Char.isUpper, Bool.or_eq_true, decide_eq_true_eq]
    exact .inl hupper
  · rw [h, Char.isAlpha, hd, Bool.or_true]

theorem toNat_of_isDigit (h : c.isDigit = true) : 48 ≤ c.toNat ∧ c.toNat ≤ 57 := by
  simp only [Char.isDigit, Bool.and_eq_true, decide_eq_true_eq, ge_iff_le,
    UInt32.le_iff_toNat_le] at h
  exact h

/-! ### Scanners -/

section Scanner

variable {τ : Type u} {ε : Type v} {t : Option τ}

/-- One round of a scanner: the token that starts with a character, if it is more than a blank,
    and the text behind it. -/
abbrev Step (ε : Type v) (τ : Type u) := Char → List Char → Except ε (Option τ × List Char)

/-- At most `fuel` rounds. -/
def scanLoop (step : Step ε τ) : Nat → List Char → Except ε (List τ)
  | _, [] => .ok []
  | 0, _ :: _ => .ok []
  | fuel + 1, c :: rest => do
    let (t, rest') ← step c rest
    let ts ← scanLoop step fuel rest'
    .ok (t.toList ++ ts)

/-- The tokens of a text. Every round reads a character, so the text is used up in as many
    rounds as it has characters. -/
def scan (step : Step ε τ) (text : List Char) : Except ε (List τ) := scanLoop step text.length text

/-- The scanner gets from a text to a later one, with the tokens in between. No round gives back
    more than it was given. -/
inductive Scans (step : Step ε τ) : List Char → List τ → List Char → Prop where
  | refl (text : List Char) : Scans step text [] text
  | cons {c : Char} {t : Option τ} {ts : List τ} {text rest rest' : List Char}
      (hround : step c text = .ok (t, rest)) (hshort : rest.length ≤ text.length)
      (h : Scans step rest ts rest') : Scans step (c :: text) (t.toList ++ ts) rest'

namespace Scans

variable {step : Step ε τ} {rest' : List Char} {ts ts' : List τ}

theorem trans (h : Scans step text ts rest) (h' : Scans step rest ts' rest') :
    Scans step text (ts ++ ts') rest' := by
  induction h with
  | refl text => exact h'
  | cons hround hshort h ih =>
    rw [append_assoc]
    exact .cons hround hshort (ih h')

/-- The tokens up to the end of the text. The bound on the rounds is not reached. -/
theorem scan_eq (h : Scans step text ts []) : scan step text = .ok ts := by
  have hloop : ∀ fuel, text.length ≤ fuel → scanLoop step fuel text = .ok ts := by
    generalize hend : ([] : List Char) = rest at h
    induction h with
    | refl text =>
      subst hend
      intro fuel _
      cases fuel <;> rfl
    | cons hround hshort h ih =>
      intro fuel hfuel
      cases fuel with
      | zero => cases hfuel
      | succ fuel =>
        rw [length_cons] at hfuel
        rw [scanLoop, hround]
        show (scanLoop step fuel _ >>= _) = _
        rw [ih hend fuel (by omega)]
        rfl
  exact hloop _ le_rfl

end Scans

/-- The text does not go on with a character of a class. -/
def Separated (p : Char → Bool) (text : List Char) : Prop := ∀ c ∈ text.head?, p c = false

theorem separated_nil (p : Char → Bool) : Separated p [] := by
  intro c hc
  cases hc

theorem separated_cons (h : p c = false) : Separated p (c :: text) := by
  intro d hd
  rw [head?_cons, Option.mem_some_iff] at hd
  rwa [← hd]

/-- The longest run of a class ends where the text goes on without it. -/
theorem takeWhile_append_separated (hrest : Separated p rest)
    (text : List Char) : (text ++ rest).takeWhile p = text.takeWhile p := by
  induction text with
  | nil =>
    cases rest with
    | nil => rfl
    | cons c rest => exact takeWhile_cons_of_neg (by simp [hrest c rfl])
  | cons d text ih =>
    rw [cons_append, takeWhile_cons, takeWhile_cons, ih]

theorem dropWhile_append_separated (hrest : Separated p rest)
    (text : List Char) : (text ++ rest).dropWhile p = text.dropWhile p ++ rest := by
  induction text with
  | nil =>
    cases rest with
    | nil => rfl
    | cons c rest => exact dropWhile_cons_of_neg (by simp [hrest c rfl])
  | cons d text ih =>
    rw [cons_append, dropWhile_cons, dropWhile_cons, ih]
    split <;> rfl

/-- A run of a class in front of a text that goes on without it. -/
theorem run_append_separated (htext : ∀ c ∈ text, p c = true) (hrest : Separated p rest) :
    (text ++ rest).takeWhile p = text ∧ (text ++ rest).dropWhile p = rest := by
  rw [takeWhile_append_separated hrest, dropWhile_append_separated hrest,
    takeWhile_eq_self_iff.mpr htext, dropWhile_eq_nil_iff.mpr htext]
  exact ⟨rfl, rfl⟩

theorem Separated.mono {q : Char → Bool} (h : Separated p text)
    (hpq : ∀ c, q c = true → p c = true) : Separated q text := by
  intro c hc
  by_contra hq
  exact absurd (hpq c (by simpa using hq)) (by simp [h c hc])

end Scanner

/-! ### Chains of operators -/

section Chain

variable {σ : Type u} {α : Type v} {ε : Type w}

/-- A parser: from an input to a value and the rest of the input. -/
abbrev Parser (ε : Type w) (σ : Type u) (α : Type v) := σ → Except ε (α × σ)

/-- The loop over a left-associative operator, at most `fuel` rounds: `next` takes the operator
    off the input, `combine` joins the operands. -/
def chainLoop (operand : Parser ε σ α) (next : σ → Option σ)
    (combine : α → α → Parser ε σ α) : Nat → α → Parser ε σ α
  | 0, left, s => .ok (left, s)
  | fuel + 1, left, s =>
    match next s with
    | none => .ok (left, s)
    | some s₁ => do
      let (right, s₂) ← operand s₁
      let (value, s₃) ← combine left right s₂
      chainLoop operand next combine fuel value s₃

/-- An operand, and the loop behind it. -/
def chain (operand : Parser ε σ α) (next : σ → Option σ) (combine : α → α → Parser ε σ α)
    (fuel : Nat) : Parser ε σ α := fun s => do
  let (left, s₁) ← operand s
  chainLoop operand next combine fuel left s₁

variable {operand : Parser ε σ α} {next : σ → Option σ} {combine : α → α → Parser ε σ α} {s s₁ : σ}

theorem chainLoop_stop (hnext : next s = none) (fuel : Nat) (left : α) :
    chainLoop operand next combine fuel left s = .ok (left, s) := by
  cases fuel with
  | zero => rfl
  | succ fuel => rw [chainLoop, hnext]

theorem chainLoop_step {s₂ s₃ : σ} {left right value : α} (hnext : next s = some s₁)
    (hoperand : operand s₁ = .ok (right, s₂)) (hcombine : combine left right s₂ = .ok (value, s₃))
    (fuel : Nat) :
    chainLoop operand next combine (fuel + 1) left s =
      chainLoop operand next combine fuel value s₃ := by
  rw [chainLoop, hnext]
  show (operand s₁ >>= _) = _
  rw [hoperand]
  show (combine left right s₂ >>= _) = _
  rw [hcombine]
  rfl

theorem chainLoop_error {e : ε} (hnext : next s = some s₁)
    (hoperand : operand s₁ = .error e) (fuel : Nat) (left : α) :
    chainLoop operand next combine (fuel + 1) left s = .error e := by
  rw [chainLoop, hnext]
  show (operand s₁ >>= _) = _
  rw [hoperand]
  rfl

theorem chain_of_operand {left : α} (h : operand s = .ok (left, s₁)) (fuel : Nat) :
    chain operand next combine fuel s = chainLoop operand next combine fuel left s₁ := by
  unfold chain
  rw [h]
  rfl

theorem chain_error {e : ε} (h : operand s = .error e) (fuel : Nat) :
    chain operand next combine fuel s = .error e := by
  unfold chain
  rw [h]
  rfl

/-- What every operand and every round of the loop does to the input, the chain does. -/
theorem chain_rule {I : σ → α → σ → Prop} (hoperand : ∀ s a s', operand s = .ok (a, s') → I s a s')
    (hround : ∀ s left s₁ s₂ right s₃ value s₄, I s left s₁ → next s₁ = some s₂ →
      I s₂ right s₃ → combine left right s₃ = .ok
    (value, s₄) → I s value s₄) {s' : σ} {a : α} (h : chain operand next combine fuel s = .ok
    (a, s')) : I s a s' := by
  have hloop : ∀ (fuel : Nat) (left : α) (s₁ : σ), I s left s₁ →
      chainLoop operand next combine fuel left s₁ = .ok (a, s') → I s a s' := by
    intro fuel
    induction fuel with
    | zero =>
      intro left s₁ hleft hend
      cases hend
      exact hleft
    | succ fuel ih =>
      intro left s₁ hleft hend
      rw [chainLoop] at hend
      cases hnext : next s₁ with
      | none =>
        rw [hnext] at hend
        cases hend
        exact hleft
      | some s₂ =>
        simp only [hnext] at hend
        cases hright : operand s₂ with
        | error e =>
          rw [hright] at hend
          cases hend
        | ok r =>
          rw [hright] at hend
          cases hvalue : combine left r.1 r.2 with
          | error e =>
            simp only [bind, Except.bind, hvalue] at hend
            cases hend
          | ok v =>
            simp only [bind, Except.bind, hvalue] at hend
            exact ih v.1 v.2 (hround s left s₁ s₂ r.1 r.2 v.1 v.2 hleft hnext
              (hoperand s₂ r.1 r.2 hright) hvalue) hend
  unfold chain at h
  cases hleft : operand s with
  | error e =>
    rw [hleft] at h
    cases h
  | ok r =>
    rw [hleft] at h
    exact hloop fuel r.1 r.2 (hoperand s r.1 r.2 hleft) h

end Chain

/-! ### Values of token lists -/

section Reading

variable {τ : Type u} {α : Type v} {ε : Type w} {operand : Parser ε (List τ) α}
  {next : List τ → Option (List τ)} {combine : α → α → Parser ε (List τ) α}
  {good : List τ → Prop} {toks : List τ}

theorem toOption_bind {β γ : Type v} (x : Except ε β) (f : β → Except ε γ) :
    (x >>= f).toOption = x.toOption.bind (fun a => (f a).toOption) := by
  cases x <;> rfl

/-- The parser takes some tokens off and returns their value, or fails if they have none,
    whatever good tokens follow. -/
def Reads (parse : Parser ε (List τ) α) (good : List τ → Prop) (toks : List τ)
    (value : Option α) : Prop :=
  ∀ rest, good rest → (parse (toks ++ rest)).toOption = value.map (·, rest)

/-- The chain takes some tokens off with `k` rounds of its loop. -/
def Folds (operand : Parser ε (List τ) α) (next : List τ → Option (List τ))
    (combine : α → α → Parser ε (List τ) α) (good : List τ → Prop) (k : Nat) (toks : List τ)
    (value : Option α) : Prop :=
  ∀ fuel rest, good rest → (chain operand next combine (fuel + k) (toks ++ rest)).toOption =
    value.bind (fun left => (chainLoop operand next combine fuel left rest).toOption)

/-- An operand alone takes no round. -/
theorem Reads.folds {value : Option α} (h : Reads operand good toks value) :
    Folds operand next combine good 0 toks value := by
  intro fuel rest hrest
  unfold chain
  rw [toOption_bind, h rest hrest]
  cases value with
  | none => rfl
  | some v => rfl

/-- One more operand takes one more round. -/
theorem Folds.snoc {toks' : List τ} {value value' : Option α} {op : τ} {f : α → α → Option α}
    (h : Folds operand next combine good k toks value) (h' : Reads operand good toks' value')
    (hgood : ∀ rest, good (op :: rest)) (hnext : ∀ rest, next (op :: rest) = some rest)
    (hcombine : ∀ left right s, (combine left right s).toOption = (f left right).map (·, s)) :
    Folds operand next combine good (k + 1) (toks ++ op :: toks')
      (value.bind fun left => value'.bind (f left)) := by
  intro fuel rest hrest
  have hleft := h (fuel + 1) (op :: (toks' ++ rest)) (hgood _)
  have hassoc : toks ++ op :: toks' ++ rest = toks ++ op :: (toks' ++ rest) := by simp
  rw [hassoc, Nat.add_comm k 1, ← Nat.add_assoc, hleft, Option.bind_assoc]
  congr 1
  funext left
  -- one round of the loop: the operator, the operand behind it, and the combination
  rw [chainLoop, hnext]
  rw [toOption_bind, h' rest hrest]
  cases value' with
  | none => rfl
  | some right =>
    dsimp only [Option.map_some, Option.bind_some]
    rw [toOption_bind, hcombine]
    cases f left right with
    | none => rfl
    | some v => rfl

/-- The whole chain, in front of something that does not go on with it. -/
theorem Folds.reads {value : Option α}
    (h : Folds operand next combine good k toks value) (hk : k ≤ toks.length) :
    Reads (fun s => chain operand next combine s.length s)
      (fun rest => good rest ∧ next rest = none) toks value := by
  intro rest hrest
  obtain ⟨fuel, hfuel⟩ : ∃ fuel, (toks ++ rest).length = fuel + k :=
    ⟨(toks ++ rest).length - k, by rw [length_append]; omega⟩
  show (chain operand next combine (toks ++ rest).length (toks ++ rest)).toOption = _
  rw [hfuel, h fuel rest hrest.1]
  cases value with
  | none => rfl
  | some v =>
    show (chainLoop operand next combine fuel v rest).toOption = _
    rw [chainLoop_stop hrest.2]
    rfl

end Reading

end Parsing
