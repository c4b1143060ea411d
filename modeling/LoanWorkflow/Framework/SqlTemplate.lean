import LoanWorkflow.Framework.Parsing

/-! # Statements with numbered placeholders

    A statement text with placeholders `$1`, `$2`, … is a template: literal
    characters and numbers. What a program finds in a text by searching for
    `$` and digits is the template that the text was made of, as long as no
    number is followed by a digit.

    - `render`, `Clear`: texts of templates, and the templates that can be read back
    - `find`: the matches of `\$(\d+)` in a text, with `find_render`
    - `numbers`, `shift`: the numbers of a text, and the text with other numbers
-/

namespace SqlTemplate

open List Parsing

/-! ### Templates -/

/-- A literal character, or the number of an argument. -/
inductive Piece where
  | char (c : Char)
  | arg (n : Nat)

variable {t : List Piece}

def placeholder (n : Nat) : List Char := '$' :: Nat.toDigits 10 n

def Piece.text : Piece → List Char
  | .char c => [c]
  | .arg n => placeholder n

def render (t : List Piece) : List Char := t.flatMap Piece.text

/-- The template of a literal text. -/
def lit (text : List Char) : List Piece := text.map .char

/-- The numbers of a template, from left to right. -/
def args (t : List Piece) : List Nat :=
  t.filterMap fun
    | .char _ => none
    | .arg n => some n

/-- Add to all numbers. -/
def renumber (offset : Nat) (t : List Piece) : List Piece :=
  t.map fun
    | .char c => .char c
    | .arg n => .arg (n + offset)

@[simp] theorem render_append (s t : List Piece) : render (s ++ t) = render s ++ render t :=
  flatMap_append

@[simp] theorem render_lit (text : List Char) : render (lit text) = text := by
  induction text with
  | nil => rfl
  | cons c text ih =>
    show c :: render (lit text) = c :: text
    rw [ih]

@[simp] theorem render_nil : render [] = [] := rfl

@[simp] theorem render_arg (n : Nat) (t : List Piece) :
    render (.arg n :: t) = placeholder n ++ render t := rfl

@[simp] theorem args_append (s t : List Piece) : args (s ++ t) = args s ++ args t :=
  filterMap_append

@[simp] theorem args_lit (text : List Char) : args (lit text) = [] := by
  induction text with
  | nil => rfl
  | cons c text ih => exact ih

theorem args_renumber (offset : Nat) (t : List Piece) :
    args (renumber offset t) = (args t).map (· + offset) := by
  induction t with
  | nil => rfl
  | cons piece t ih =>
    cases piece with
    | char c => exact ih
    | arg n =>
      show (n + offset) :: args (renumber offset t) = (n + offset) :: (args t).map (· + offset)
      rw [ih]

/-- The template does not start with a digit. -/
def NoDigit (t : List Piece) : Prop := ∀ c, t.head? = some (.char c) → c.isDigit = false

/-- No literal `$`, and no digit behind a number. -/
def Clear : List Piece → Prop
  | [] => True
  | .char c :: t => c ≠ '$' ∧ Clear t
  | .arg _ :: t => NoDigit t ∧ Clear t

theorem clear_lit {text : List Char} (h : ∀ c ∈ text, c ≠ '$') : Clear (lit text) := by
  induction text with
  | nil => exact trivial
  | cons c text ih =>
    exact ⟨h c mem_cons_self, ih fun d hd => h d (mem_cons_of_mem c hd)⟩

theorem clear_append {s : List Piece} (hs : Clear s) (ht : Clear t) (hdigit : NoDigit t) :
    Clear (s ++ t) := by
  induction s with
  | nil => exact ht
  | cons piece s ih =>
    cases piece with
    | char c => exact ⟨hs.1, ih hs.2⟩
    | arg n =>
      refine ⟨?_, ih hs.2⟩
      cases s with
      | nil => exact hdigit
      | cons next s => exact hs.1

theorem clear_renumber (h : Clear t) (offset : Nat) :
    Clear (renumber offset t) := by
  induction t with
  | nil => exact trivial
  | cons piece t ih =>
    cases piece with
    | char c => exact ⟨h.1, ih h.2⟩
    | arg n =>
      refine ⟨?_, ih h.2⟩
      cases t with
      | nil =>
        intro c hc
        cases hc
      | cons next t =>
        cases next with
        | char c => exact h.1
        | arg m =>
          intro c hc
          cases hc

/-! ### Searching a text -/

/-- A character outside of all matches, or the digits of a match. -/
inductive Found where
  | char (c : Char)
  | digits (ds : List Char)

/-- One round of the search for `$` and digits. -/
def findStep : Step Empty Found := fun c rest =>
  if c = '$' ∧ rest.takeWhile Char.isDigit ≠ [] then
    .ok (some (.digits (rest.takeWhile Char.isDigit)), rest.dropWhile Char.isDigit)
  else .ok (some (.char c), rest)

/-- The matches of a text and what is between them. -/
def find (text : List Char) : List Found :=
  match scan findStep text with
  | .ok found => found
  | .error e => e.elim

def Piece.found : Piece → Found
  | .char c => .char c
  | .arg n => .digits (Nat.toDigits 10 n)

theorem scans_render (h : Clear t) :
    Scans findStep (render t) (t.map Piece.found) [] := by
  induction t with
  | nil => exact .refl []
  | cons piece t ih =>
    cases piece with
    | char c =>
      have hround : findStep c (render t) = .ok (some (.char c), render t) :=
        if_neg fun hc => h.1 hc.1
      exact .cons hround le_rfl (ih h.2)
    | arg n =>
      have hdigits : ∀ c ∈ Nat.toDigits 10 n, c.isDigit = true :=
        fun c hc => Nat.isDigit_of_mem_toDigits (by decide) (by decide) hc
      -- the run of digits ends where the next piece starts
      have hend : Separated Char.isDigit (render t) := by
        cases t with
        | nil => exact separated_nil _
        | cons next t =>
          cases next with
          | char c => exact separated_cons (h.1 c rfl)
          | arg m => exact separated_cons (by decide)
      obtain ⟨htake, hdrop⟩ := run_append_separated hdigits hend
      have hround : findStep '$' (Nat.toDigits 10 n ++ render t) =
          .ok (some (.digits (Nat.toDigits 10 n)), render t) := by
        unfold findStep
        rw [htake, hdrop]
        exact if_pos ⟨rfl, Nat.toDigits_ne_nil⟩
      exact .cons hround (by simp [length_append]) (ih h.2)

/-- The search finds the template of a text. -/
theorem find_render (h : Clear t) : find (render t) = t.map Piece.found := by
  unfold find
  rw [(scans_render h).scan_eq]

/-- The numbers in a text, from left to right. -/
def numbers (text : List Char) : List Nat :=
  (find text).filterMap fun
    | .char _ => none
    | .digits ds => some (Nat.ofDigitChars 10 ds 0)

theorem numbers_render (h : Clear t) : numbers (render t) = args t := by
  unfold numbers
  rw [find_render h]
  clear h
  induction t with
  | nil => rfl
  | cons piece t ih =>
    cases piece with
    | char c => exact ih
    | arg n =>
      show Nat.ofDigitChars 10 (Nat.toDigits 10 n) 0 :: _ = n :: args t
      rw [Nat.ofDigitChars_ten_toDigits]
      exact congrArg _ ih

end SqlTemplate
