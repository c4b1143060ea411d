import Mathlib.Data.List.AList

/-! # Dictionaries

    Maps from keys to values that a loop fills entry by entry, a later entry
    replacing an earlier one, and the comparison of two of them.

    - `indexBy`: the dictionary of a list, with `lookup_indexBy`
    - `onlyIn`: the values whose keys another dictionary does not have
    - `inBoth`: the keys of two dictionaries, with both values
    - `same_entries_iff`: when a comparison finds no difference
-/

universe u v w

/-- Values of type `α` under keys of type `κ`. -/
abbrev Dict (κ : Type u) (α : Type v) := AList (fun _ : κ => α)

namespace Dict

open List Option

variable {κ : Type u} {α : Type v} {β : Type w} [DecidableEq κ]
variable {m other : Dict κ α} {xs : List α} {x : α} {key : α → κ} {k : κ}

/-! ### Filling -/

/-- Under a key is the value of the last entry with it, or what was there before. -/
theorem lookup_foldl_insert (key : β → κ) (value : β → α) (xs : List β) (m : Dict κ α) :
    (xs.foldl (fun m x => AList.insert (key x) (value x) m) m).lookup k =
      ((xs.reverse.find? (fun x => key x = k)).map value).or (m.lookup k) := by
  induction xs generalizing m with
  | nil => rfl
  | cons y ys ih =>
    rw [foldl_cons, ih, reverse_cons, find?_append]
    by_cases hk : key y = k
    · subst hk
      cases ys.reverse.find? (fun x => key x = key y) <;> simp
    · rw [AList.lookup_insert_ne (Ne.symm hk)]
      cases ys.reverse.find? (fun x => key x = k) <;> simp [hk]

/-- Put every entry of a list under its key; the last entry with a key stays. -/
def indexBy (key : α → κ) (xs : List α) : Dict κ α :=
  xs.foldl (fun m x => AList.insert (key x) x m) ∅

theorem lookup_indexBy_eq_find? :
    (indexBy key xs).lookup k = xs.reverse.find? (fun x => key x = k) :=
  (lookup_foldl_insert key id xs ∅).trans (by simp)

/-- A dictionary holds entries of its list only, each under its own key. -/
theorem mem_of_lookup (h : (indexBy key xs).lookup k = some x) : x ∈ xs ∧ key x = k := by
  rw [lookup_indexBy_eq_find?] at h
  exact ⟨mem_reverse.mp (mem_of_find?_eq_some h), by simpa using find?_some h⟩

theorem key_mem_indexBy (key : α → κ) (hx : x ∈ xs) : key x ∈ indexBy key xs := by
  rw [← AList.lookup_isSome, lookup_indexBy_eq_find?, find?_isSome]
  exact ⟨x, mem_reverse.mpr hx, by simp⟩

/-- When no two entries have the same key, the dictionary is the list. -/
theorem lookup_indexBy (hkeys : (xs.map key).Nodup) :
    (indexBy key xs).lookup k = some x ↔ x ∈ xs ∧ key x = k := by
  constructor
  · exact mem_of_lookup
  · intro ⟨hx, hkey⟩
    subst hkey
    obtain ⟨y, hy⟩ := isSome_iff_exists.mp
      (AList.lookup_isSome.mpr (key_mem_indexBy key hx))
    obtain ⟨hymem, hykey⟩ := mem_of_lookup hy
    rw [hy, inj_on_of_nodup_map hkeys hymem hx hykey]

/-- The keys of a dictionary are those of its list. -/
theorem mem_indexBy : k ∈ indexBy key xs ↔ ∃ x ∈ xs, key x = k := by
  constructor
  · intro h
    obtain ⟨x, hx⟩ := isSome_iff_exists.mp (AList.lookup_isSome.mpr h)
    obtain ⟨hmem, hkey⟩ := mem_of_lookup hx
    exact ⟨x, hmem, hkey⟩
  · rintro ⟨x, hx, rfl⟩
    exact key_mem_indexBy key hx

/-! ### Comparing -/

/-- The values whose keys the other dictionary does not have. -/
def onlyIn (m other : Dict κ α) : List α :=
  m.entries.filterMap (fun e => if e.1 ∈ other then none else some e.2)

/-- The keys that both dictionaries have, with the two values. -/
def inBoth (m other : Dict κ α) : List (κ × α × α) :=
  m.entries.filterMap (fun e => (other.lookup e.1).map (fun y => (e.1, e.2, y)))

theorem onlyIn_eq_nil : onlyIn m other = [] ↔ ∀ k ∈ m, k ∈ other := by
  simp only [onlyIn, filterMap_eq_nil_iff, ite_eq_left_iff, reduceCtorEq, imp_false, not_not]
  constructor
  · intro h k hk
    obtain ⟨x, hx⟩ := isSome_iff_exists.mp (AList.lookup_isSome.mpr hk)
    exact h ⟨k, x⟩ (AList.mem_lookup_iff.mp hx)
  · intro h e he
    exact h e.1 (AList.lookup_isSome.mp (Option.isSome_of_mem (AList.mem_lookup_iff.mpr he)))

theorem mem_inBoth {y : α} :
    (k, x, y) ∈ inBoth m other ↔ m.lookup k = some x ∧ other.lookup k = some y := by
  simp only [inBoth, mem_filterMap, map_eq_some_iff]
  constructor
  · rintro ⟨⟨k', x'⟩, he, y', hy, heq⟩
    obtain ⟨rfl, rfl, rfl⟩ : k' = k ∧ x' = x ∧ y' = y := by simpa using heq
    exact ⟨AList.mem_lookup_iff.mpr he, hy⟩
  · rintro ⟨hx, hy⟩
    exact ⟨⟨k, x⟩, AList.mem_lookup_iff.mp hx, y, hy, rfl⟩

/-- Two lists have the same entries if neither dictionary has a key of its own and the values
    under their common keys agree. -/
theorem same_entries_iff {ys : List α} (hxs : (xs.map key).Nodup) (hys : (ys.map key).Nodup) :
    (onlyIn (indexBy key xs) (indexBy key ys) = [] ∧ onlyIn (indexBy key ys) (indexBy key xs) = [] ∧
      ∀ k x y, (k, x, y) ∈ inBoth (indexBy key xs) (indexBy key ys) → x = y) ↔
      ∀ x, x ∈ xs ↔ x ∈ ys := by
  simp only [onlyIn_eq_nil, mem_inBoth, mem_indexBy, lookup_indexBy hxs, lookup_indexBy hys]
  constructor
  · rintro ⟨hleft, hright, hboth⟩ x
    constructor
    · intro hx
      obtain ⟨y, hy, hkey⟩ := hleft (key x) ⟨x, hx, rfl⟩
      rwa [hboth (key x) x y ⟨⟨hx, rfl⟩, hy, hkey⟩]
    · intro hx
      obtain ⟨y, hy, hkey⟩ := hright (key x) ⟨x, hx, rfl⟩
      rwa [← hboth (key x) y x ⟨⟨hy, hkey⟩, hx, rfl⟩]
  · intro hsame
    refine ⟨?_, ?_, ?_⟩
    · rintro k ⟨x, hx, hkey⟩
      exact ⟨x, (hsame x).mp hx, hkey⟩
    · rintro k ⟨y, hy, hkey⟩
      exact ⟨y, (hsame y).mpr hy, hkey⟩
    · rintro k x y ⟨⟨hx, hxkey⟩, hy, hykey⟩
      exact inj_on_of_nodup_map hys ((hsame x).mp hx) hy (hxkey.trans hykey.symm)

end Dict
