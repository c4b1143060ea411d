import Mathlib.Data.List.DropRight
import Mathlib.Data.List.Infix

/-! # Texts and searches in them

    The functions of a string library, on texts in the ASCII range: there a
    position counted in bytes is a position counted in characters, and the
    change of case keeps positions.

    - `index?`: where a pattern first occurs, with `index?_eq_some`
    - `contains`: does a pattern occur?
    - `firstIndex`: where the first of several patterns occurs, with `FirstAt`
    - `trimSpace`, `trimRight`: what they cut off, as a decomposition of the text
-/

namespace Strings

open List

/-- A text, character by character. -/
abbrev Text := List Char

def isSpace (c : Char) : Bool :=
  c == ' ' || c == '\t' || c == '\n' || c == '\r' || c == '\x0b' || c == '\x0c'

/-! ### Case -/

def toUpper (text : Text) : Text := text.map Char.toUpper

theorem toUpper_append (a b : Text) : toUpper (a ++ b) = toUpper a ++ toUpper b := by
  simp [toUpper]

theorem toUpper_drop (i : Nat) (text : Text) : toUpper (text.drop i) = (toUpper text).drop i := by
  simp [toUpper, map_drop]

theorem toNat_toUpper (c : Char) :
    c.toUpper.toNat = if 97 ≤ c.toNat ∧ c.toNat ≤ 122 then c.toNat - 32 else c.toNat := by
  have hrange : ('a'.val ≤ c.val ∧ c.val ≤ 'z'.val) ↔ 97 ≤ c.toNat ∧ c.toNat ≤ 122 :=
    and_congr UInt32.le_iff_toNat_le UInt32.le_iff_toNat_le
  unfold Char.toUpper
  by_cases h : 97 ≤ c.toNat ∧ c.toNat ≤ 122
  · -- the difference of the two cases is added modulo the word size
    rw [dif_pos (hrange.mpr h), if_pos h]
    show (c.val + ('A'.val - 'a'.val)).toNat = c.toNat - 32
    rw [UInt32.toNat_add]
    show (c.toNat + 4294967264) % 2 ^ 32 = c.toNat - 32
    omega
  · rw [dif_neg (mt hrange.mp h), if_neg h]

/-- Only a blank becomes a blank. -/
theorem eq_space_of_toUpper {c : Char} (h : c.toUpper = ' ') : c = ' ' := by
  have hnat := toNat_toUpper c
  rw [h] at hnat
  have hc : c.toNat = 32 := by
    change 32 = _ at hnat
    split_ifs at hnat <;> omega
  rw [← Char.ofNat_toNat c, hc]

/-! ### Search -/

/-- The first position at which the pattern occurs. -/
def index? (pattern : Text) : Text → Option Nat
  | [] => if pattern = [] then some 0 else none
  | c :: text =>
    if pattern.isPrefixOf (c :: text) then some 0 else (index? pattern text).map (· + 1)

def contains (text pattern : Text) : Bool := (index? pattern text).isSome

theorem index?_eq_some {pattern text : Text} {i : Nat} (h : index? pattern text = some i) :
    pattern <+: text.drop i ∧ ∀ j < i, ¬ pattern <+: text.drop j := by
  induction text generalizing i with
  | nil =>
    unfold index? at h
    split_ifs at h with hp
    cases h
    exact ⟨by simp [hp], fun j hj => absurd hj (Nat.not_lt_zero j)⟩
  | cons c text ih =>
    unfold index? at h
    split_ifs at h with hp
    · cases h
      exact ⟨List.isPrefixOf_iff_prefix.mp hp, fun j hj => absurd hj (Nat.not_lt_zero j)⟩
    · obtain ⟨i, hi, rfl⟩ := Option.map_eq_some_iff.mp h
      obtain ⟨hat, hbefore⟩ := ih hi
      refine ⟨hat, fun j hj => ?_⟩
      cases j with
      | zero => exact fun hpre => hp (List.isPrefixOf_iff_prefix.mpr hpre)
      | succ j => exact hbefore j (Nat.lt_of_succ_lt_succ hj)

theorem index?_eq_none {pattern text : Text} (h : index? pattern text = none) (j : Nat) :
    ¬ pattern <+: text.drop j := by
  induction text generalizing j with
  | nil =>
    unfold index? at h
    split_ifs at h with hp
    simpa using hp
  | cons c text ih =>
    unfold index? at h
    split_ifs at h with hp
    have hrest : index? pattern text = none := by simpa using h
    cases j with
    | zero => exact fun hpre => hp (List.isPrefixOf_iff_prefix.mpr hpre)
    | succ j => exact ih hrest j

/-- The first place of a pattern, if it is before the best place so far. -/
def nearer (text : Text) (best : Nat) (pattern : Text) : Nat :=
  match index? pattern text with
  | some i => if i < best then i else best
  | none => best

theorem nearer_spec (text : Text) (best : Nat) (pattern : Text) :
    nearer text best pattern ≤ best ∧
      (nearer text best pattern = best ∨ pattern <+: text.drop (nearer text best pattern)) ∧
      ∀ j < nearer text best pattern, ¬ pattern <+: text.drop j := by
  unfold nearer
  cases hi : index? pattern text with
  | none => exact ⟨le_rfl, Or.inl rfl, fun j _ => index?_eq_none hi j⟩
  | some i =>
    obtain ⟨hat, hbefore⟩ := index?_eq_some hi
    by_cases hlt : i < best
    · simp only [hlt, if_true]
      exact ⟨hlt.le, Or.inr hat, hbefore⟩
    · simp only [hlt, if_false]
      exact ⟨le_rfl, Or.inl trivial, fun j hj => hbefore j (hj.trans_le (not_lt.mp hlt))⟩

/-- The least position, below a bound, at which one of the patterns occurs. -/
def firstIndex (patterns : List Text) (text : Text) (bound : Nat) : Nat :=
  patterns.foldl (nearer text) bound

/-- The place at which the first of the patterns occurs, or the bound. -/
def FirstAt (patterns : List Text) (text : Text) (bound i : Nat) : Prop :=
  i ≤ bound ∧ (i = bound ∨ ∃ pattern ∈ patterns, pattern <+: text.drop i) ∧
    ∀ j < i, ∀ pattern ∈ patterns, ¬ pattern <+: text.drop j

theorem firstAt_firstIndex (patterns : List Text) (text : Text) (bound : Nat) :
    FirstAt patterns text bound (firstIndex patterns text bound) := by
  induction patterns generalizing bound with
  | nil => exact ⟨le_rfl, Or.inl rfl, by simp⟩
  | cons p patterns ih =>
    obtain ⟨hle, hplace, hnone⟩ := nearer_spec text bound p
    obtain ⟨hle', hplace', hnone'⟩ := ih (nearer text bound p)
    show FirstAt _ _ _ (firstIndex patterns text (nearer text bound p))
    refine ⟨hle'.trans hle, ?_, fun j hj q hq => ?_⟩
    · rcases hplace' with heq | ⟨q, hq, hat⟩
      · rcases hplace with hb | hat
        · exact Or.inl (heq.trans hb)
        · exact Or.inr ⟨p, by simp, by rw [heq]; exact hat⟩
      · exact Or.inr ⟨q, mem_cons_of_mem _ hq, hat⟩
    · rcases mem_cons.mp hq with rfl | hq
      · exact hnone j (hj.trans_le hle')
      · exact hnone' j hj q hq

theorem FirstAt.unique {patterns : List Text} {text : Text} {bound i j : Nat}
    (hi : FirstAt patterns text bound i) (hj : FirstAt patterns text bound j) : i = j := by
  obtain ⟨hile, hiat, hinone⟩ := hi
  obtain ⟨hjle, hjat, hjnone⟩ := hj
  rcases lt_trichotomy i j with hlt | heq | hlt
  · rcases hiat with rfl | ⟨p, hp, hat⟩
    · omega
    · exact absurd hat (hjnone i hlt p hp)
  · exact heq
  · rcases hjat with rfl | ⟨p, hp, hat⟩
    · omega
    · exact absurd hat (hinone j hlt p hp)

/-! ### Trimming -/

/-- Drop trailing characters that are in the set. -/
def trimRight (cut : Char → Bool) (text : Text) : Text := text.rdropWhile cut

def trimSpace (text : Text) : Text := trimRight isSpace (text.dropWhile isSpace)

theorem trimRight_append (cut : Char → Bool) (text : Text) :
    ∃ ws, text = trimRight cut text ++ ws ∧ ∀ c ∈ ws, cut c = true :=
  ⟨text.rtakeWhile cut, rdropWhile_append_rtakeWhile.symm, fun _ => mem_rtakeWhile_imp⟩

theorem trimSpace_append (text : Text) :
    ∃ ws ws', text = ws ++ trimSpace text ++ ws' ∧ (∀ c ∈ ws, isSpace c = true) ∧
      ∀ c ∈ ws', isSpace c = true := by
  obtain ⟨ws', heq, hws'⟩ := trimRight_append isSpace (text.dropWhile isSpace)
  refine ⟨text.takeWhile isSpace, ws', ?_, fun c hc => mem_takeWhile_imp hc, hws'⟩
  rw [append_assoc, trimSpace, ← heq, takeWhile_append_dropWhile]

end Strings
