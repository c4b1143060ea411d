import LoanWorkflow.Framework.Binary64

/-! # Decimal texts as doubles

    The doubles with their two zeros, infinities and no-number, and the double
    that a text of digits with an optional sign and an optional point stands
    for. A text whose value is beyond the largest double stands for none.

    - `Double`: with `eq`, `lt` and `le` as IEEE 754 has them
    - `ofText?`: reading a text
-/

/-- A double. A finite one has a sign, so that there are two zeros. -/
inductive Double where
  | finite (negative : Bool) (magnitude : ℚ)
  | infinite (negative : Bool)
  | nan
deriving DecidableEq

namespace Double

/-- The value of a finite double. -/
def exact : Double → Option ℚ
  | .finite negative magnitude => some (if negative then -magnitude else magnitude)
  | _ => none

/-- `==`: no-number is equal to nothing, the two zeros are equal. -/
def eq (a b : Double) : Bool :=
  match a, b with
  | .infinite m, .infinite n => m == n
  | a, b =>
    match a.exact, b.exact with
    | some p, some q => decide (p = q)
    | _, _ => false

theorem eq_swap (a b : Double) : a.eq b = b.eq a := by
  cases a <;> cases b <;> simp [Double.eq, Double.exact, eq_comm, Bool.beq_comm]

/-- `<`. -/
def lt (a b : Double) : Bool :=
  match a, b with
  | .nan, _ | _, .nan => false
  | .infinite m, .infinite n => m && !n
  | .infinite m, _ => m
  | _, .infinite n => !n
  | a, b =>
    match a.exact, b.exact with
    | some p, some q => decide (p < q)
    | _, _ => false

/-- `<=`. -/
def le (a b : Double) : Bool := lt a b || eq a b

/-- The magnitudes that round to no finite double. -/
def tooLarge (magnitude : ℚ) : Prop := 2 ^ 1024 - 2 ^ 970 ≤ magnitude

instance (magnitude : ℚ) : Decidable (tooLarge magnitude) :=
  inferInstanceAs (Decidable (2 ^ 1024 - 2 ^ 970 ≤ magnitude))

/-- The double nearest to a value, unless the value is too large. -/
def nearest? (negative : Bool) (magnitude : ℚ) : Option Double :=
  if tooLarge magnitude then none else some (.finite negative (Binary64.round magnitude))

end Double

namespace Decimal

/-- The value of digits with digits behind the point. -/
def value (whole fraction : List Char) : ℚ :=
  Nat.ofDigitChars 10 (whole ++ fraction) 0 / 10 ^ fraction.length

/-- The value of a text without sign: digits, maybe with a point in or around them. -/
def magnitude? (text : List Char) : Option ℚ :=
  let whole := text.takeWhile Char.isDigit
  match text.dropWhile Char.isDigit with
  | [] => if whole = [] then none else some (value whole [])
  | c :: fraction =>
    if c = '.' ∧ fraction.all Char.isDigit = true ∧ (whole ≠ [] ∨ fraction ≠ []) then
      some (value whole fraction)
    else none

/-- The double that a text stands for. -/
def ofText? (text : List Char) : Option Double :=
  match text with
  | '-' :: digits => (magnitude? digits).bind (Double.nearest? true)
  | digits => (magnitude? digits).bind (Double.nearest? false)

end Decimal
