import Mathlib.Data.List.Sort

/-! # Keyed tables

    A table of rows under numeric keys, in the order of insertion. The field
    `nodup` says that no key is used twice, so a key names at most one row and
    an update can never create a second row under a key.

    - `get?`, `find?`, `findLast?`, `count`: reading
    - `insert`: a new row under a fresh key
    - `update`, `updateAt`, `updateWhere`: rewriting rows in place
    - `rowsWhere`: the rows with a property
    - `mem_selection`, `nodup_selection`: the first rows of an ordered selection
    - `mem_take_insertionSort`: a row is among the first if few rows are before it
-/

universe u

/-- Rows of type `α` under distinct keys. -/
structure Table (α : Type u) where
  /-- The rows with their keys, oldest first. -/
  rows : List (Nat × α)
  /-- Keys are distinct. -/
  nodup : (rows.map Prod.fst).Nodup

namespace Table

open List

variable {α : Type u}
variable {rows : List (Nat × α)} {k : Nat} {t : Table α} {a b : α} {q : α → Bool}

/-! ### Operations -/

def empty : Table α := ⟨[], nodup_nil⟩

instance : Inhabited (Table α) := ⟨empty⟩

/-- The row under a key. -/
def get? (t : Table α) (k : Nat) : Option α := (t.rows.find? (fun r => r.1 == k)).map Prod.snd

/-- The oldest row with a property, with its key. -/
def find? (t : Table α) (p : α → Bool) : Option (Nat × α) := t.rows.find? (fun r => p r.2)

/-- The newest row with a property, with its key. -/
def findLast? (t : Table α) (p : α → Bool) : Option (Nat × α) :=
  t.rows.reverse.find? (fun r => p r.2)

/-- The number of rows with a property. -/
def count (t : Table α) (p : α → Bool) : Nat := t.rows.countP (fun r => p r.2)

/-- A key above every key in use. -/
def fresh (t : Table α) : Nat := t.rows.foldr (fun r m => max (r.1 + 1) m) 0

theorem lt_fresh_of_mem {r : Nat × α} (h : r ∈ rows) :
    r.1 < rows.foldr (fun r m => max (r.1 + 1) m) 0 := by
  induction rows with
  | nil => cases h
  | cons x xs ih =>
    simp only [foldr_cons]
    rcases mem_cons.mp h with rfl | hmem
    · omega
    · have := ih hmem
      omega

theorem fresh_notMem (t : Table α) : t.fresh ∉ t.rows.map Prod.fst := by
  intro hmem
  obtain ⟨r, hr, hkey⟩ := mem_map.mp hmem
  have := lt_fresh_of_mem hr
  unfold fresh at hkey
  omega

/-- Add a row under the fresh key. -/
def insert (t : Table α) (a : α) : Table α where
  rows := t.rows ++ [(t.fresh, a)]
  nodup := by
    rw [map_append, nodup_append]
    refine ⟨t.nodup, by simp, ?_⟩
    intro k hk k' hk' heq
    simp only [map_cons, map_nil, mem_singleton] at hk'
    subst hk' heq
    exact t.fresh_notMem hk

/-- Rewrite every row, given its key. -/
def update (t : Table α) (f : Nat → α → α) : Table α where
  rows := t.rows.map (fun r => (r.1, f r.1 r.2))
  nodup := by simpa [map_map, Function.comp_def] using t.nodup

/-- Rewrite the row under one key. -/
def updateAt (t : Table α) (k : Nat) (f : α → α) : Table α :=
  t.update (fun i a => if i = k then f a else a)

/-- Rewrite the rows with a property. -/
def updateWhere (t : Table α) (p : α → Bool) (f : α → α) : Table α :=
  t.update (fun _ a => if p a then f a else a)

/-! ### Reading back -/

@[simp] theorem get?_empty (k : Nat) : (empty : Table α).get? k = none := rfl

theorem get?_eq_some_iff : t.get? k = some a ↔ (k, a) ∈ t.rows := by
  obtain ⟨rows, nodup⟩ := t
  unfold get?
  induction rows with
  | nil => simp
  | cons r rows ih =>
    have hnodup : r.1 ∉ rows.map Prod.fst ∧ (rows.map Prod.fst).Nodup := by
      simpa using nodup
    by_cases hr : r.1 = k
    · -- the key is at the head, and nowhere else
      subst hr
      have hnot : (r.1, a) ∉ rows := fun hmem => hnodup.1 (mem_map.mpr ⟨_, hmem, rfl⟩)
      simp only [find?_cons, beq_self_eq_true, Option.map_some, Option.some.injEq,
        mem_cons, hnot, or_false]
      constructor
      · rintro rfl; rfl
      · intro h; rw [← h]
    · have hne : (r.1 == k) = false := by simpa using hr
      simp only [find?_cons, hne, mem_cons]
      rw [ih hnodup.2]
      constructor
      · exact Or.inr
      · rintro (rfl | hmem)
        · exact absurd rfl hr
        · exact hmem

theorem get?_eq_none_iff : t.get? k = none ↔ ∀ a, (k, a) ∉ t.rows := by
  rw [Option.eq_none_iff_forall_ne_some]
  exact forall_congr' fun a => by rw [Ne, get?_eq_some_iff]

@[simp] theorem get?_fresh (t : Table α) : t.get? t.fresh = none := by
  rw [get?_eq_none_iff]
  intro a hmem
  exact t.fresh_notMem (mem_map.mpr ⟨_, hmem, rfl⟩)

theorem ne_fresh_of_get? (h : t.get? k = some a) : k ≠ t.fresh := by
  rintro rfl
  simp at h

@[simp] theorem get?_update (t : Table α) (f : Nat → α → α) (k : Nat) :
    (t.update f).get? k = (t.get? k).map (f k) := by
  obtain ⟨rows, nodup⟩ := t
  simp only [get?, update, find?_map, Function.comp_def, Option.map_map]
  cases h : rows.find? (fun r => r.1 == k) with
  | none => rfl
  | some r =>
    have hk : r.1 = k := by simpa using find?_some h
    simp [hk]

theorem get?_updateAt (t : Table α) (k j : Nat) (f : α → α) :
    (t.updateAt k f).get? j = if j = k then (t.get? j).map f else t.get? j := by
  unfold updateAt
  rw [get?_update]
  split <;> simp

@[simp] theorem get?_updateAt_self (t : Table α) (k : Nat) (f : α → α) :
    (t.updateAt k f).get? k = (t.get? k).map f := by
  simp [get?_updateAt]

theorem get?_updateAt_of_get? {f : α → α} (h : t.get? k = some a) :
    (t.updateAt k f).get? k = some (f a) := by
  rw [get?_updateAt_self, h]
  rfl

theorem get?_updateAt_ne {j : Nat} {f : α → α} (h : j ≠ k) :
    (t.updateAt k f).get? j = t.get? j := by
  simp [get?_updateAt, h]

theorem get?_updateAt_cases {j : Nat} {f : α → α} (hget : t.get? k = some a)
    (h : (t.updateAt k f).get? j = some b) : (j = k ∧ b = f a) ∨ (j ≠ k ∧ t.get? j = some b) := by
  by_cases hj : j = k
  · subst hj
    rw [get?_updateAt_self, hget] at h
    exact .inl ⟨rfl, (Option.some.inj h).symm⟩
  · rw [get?_updateAt_ne hj] at h
    exact .inr ⟨hj, h⟩

theorem updateAt_id (t : Table α) (k : Nat) : t.updateAt k id = t := by
  simp [updateAt, update]

@[simp] theorem updateAt_updateAt (t : Table α) (k : Nat) (f g : α → α) :
    (t.updateAt k f).updateAt k g = t.updateAt k (fun a => g (f a)) := by
  simp only [updateAt, update, map_map, mk.injEq]
  apply map_congr_left
  intro r _
  by_cases hr : r.1 = k <;> simp [hr]

@[simp] theorem get?_updateWhere (t : Table α) (p : α → Bool) (f : α → α) (k : Nat) :
    (t.updateWhere p f).get? k = (t.get? k).map (fun a => if p a then f a else a) := by
  simp [updateWhere]

@[simp] theorem get?_insert (t : Table α) (a : α) (k : Nat) :
    (t.insert a).get? k = if k = t.fresh then some a else t.get? k := by
  split
  · next h =>
    subst h
    rw [get?_eq_some_iff]
    simp [insert]
  · next h =>
    have hne : (t.fresh == k) = false := by simpa using fun h' : t.fresh = k => h h'.symm
    simp only [get?, insert, find?_append, find?_cons, hne, find?_nil,
      Option.or_none]

theorem get?_insert_of_get? (h : t.get? k = some b) : (t.insert a).get? k = some b := by
  rw [get?_insert, if_neg (ne_fresh_of_get? h), h]

/-- Some row of the larger table has a property: an old one, or the new one. -/
theorem exists_insert {P : α → Prop} :
    (∃ k a, (t.insert b).get? k = some a ∧ P a) ↔ (∃ k a, t.get? k = some a ∧ P a) ∨ P b := by
  constructor
  · rintro ⟨k, a, hget, hP⟩
    rw [get?_insert] at hget
    split at hget
    · cases hget
      exact Or.inr hP
    · exact Or.inl ⟨k, a, hget, hP⟩
  · rintro (⟨k, a, hget, hP⟩ | hP)
    · exact ⟨k, a, get?_insert_of_get? hget, hP⟩
    · exact ⟨t.fresh, b, by simp, hP⟩

theorem length_insert (t : Table α) (a : α) : (t.insert a).rows.length = t.rows.length + 1 := by
  simp [insert]

theorem insert_inj (h : t.insert a = t.insert b) : a = b := by
  have hrow := congrArg (fun t' => t'.get? t.fresh) h
  simpa using hrow

theorem insert_ne (t : Table α) (a : α) : t.insert a ≠ t := by
  intro heq
  have hlength := congrArg (fun t => t.rows.length) heq
  simp only [length_insert] at hlength
  omega

theorem findLast?_insert (t : Table α) (a : α) (p : α → Bool) :
    (t.insert a).findLast? p = if p a then some (t.fresh, a) else t.findLast? p := by
  unfold findLast? insert
  rw [reverse_append]
  by_cases h : p a = true <;> simp [h]

theorem find?_eq_some {p : α → Bool} {r : Nat × α} (h : t.find? p = some r) :
    t.get? r.1 = some r.2 ∧ p r.2 = true :=
  ⟨get?_eq_some_iff.mpr (mem_of_find?_eq_some h), by simpa using find?_some h⟩

theorem find?_eq_none {p : α → Bool} (h : t.find? p = none) {k : Nat} {a : α}
    (hk : t.get? k = some a) : p a = false := by
  have := List.find?_eq_none.mp h _ (get?_eq_some_iff.mp hk)
  simpa using this

theorem find?_insert (t : Table α) (a : α) (p : α → Bool) :
    (t.insert a).find? p = (t.find? p).or (if p a then some (t.fresh, a) else none) := by
  unfold find? insert
  rw [find?_append, find?_singleton]

/-- An update that does not touch the property. -/
theorem find?_updateAt {p : α → Bool} {f : α → α} (hf : ∀ a, t.get? k = some a → p (f a) = p a) :
    (t.updateAt k f).find? p =
      (t.find? p).map (fun r => (r.1, if r.1 = k then f r.2 else r.2)) := by
  unfold find? updateAt update
  rw [List.find?_map, ← head?_filter, ← head?_filter]
  congr 2
  refine filter_congr fun r hr => ?_
  simp only [Function.comp]
  split
  · next hk => rw [hf r.2 (get?_eq_some_iff.mpr (hk ▸ hr))]
  · rfl

/-! ### Counting -/

theorem count_pos {p : α → Bool} : 0 < t.count p ↔ ∃ k a, t.get? k = some a ∧ p a = true := by
  simp only [count, countP_pos_iff, get?_eq_some_iff, Prod.exists]

theorem count_eq_zero {p : α → Bool} : t.count p = 0 ↔ ∀ k a, t.get? k = some a → p a = false := by
  simp only [count, countP_eq_zero, get?_eq_some_iff, Prod.forall, Bool.not_eq_true]

theorem count_le_of_imp (t : Table α) {p : α → Bool} (h : ∀ a, p a = true → q a = true) :
    t.count p ≤ t.count q :=
  countP_mono_left fun r _ => h r.2

/-- When a stronger property holds of as many rows, it holds of the same rows. -/
theorem all_of_count_le {p : α → Bool} (h : t.count p ≤ t.count (fun a => p a && q a))
    (hget : t.get? k = some a) (hp : p a = true) : q a = true := by
  have hsplit := countP_eq_countP_filter_add t.rows (fun r => p r.2) (fun r => q r.2)
  simp only [countP_filter] at hsplit
  have hrest : t.rows.countP (fun r => p r.2 && !q r.2) = 0 := by
    simp only [count] at h
    omega
  have hnone := countP_eq_zero.mp hrest (k, a) (get?_eq_some_iff.mp hget)
  simpa [hp] using hnone

theorem count_congr {p : α → Bool}
    (h : ∀ k a, t.get? k = some a → p a = q a) : t.count p = t.count q := by
  apply countP_congr
  intro r hr
  rw [h r.1 r.2 (get?_eq_some_iff.mpr hr)]

/-- A count is the length of a list of keys of the counted rows. -/
theorem count_eq_length {p : α → Bool} {keys : List Nat} (hnodup : keys.Nodup)
    (hkeys : ∀ k, k ∈ keys ↔ ∃ a, t.get? k = some a ∧ p a = true) : t.count p = keys.length := by
  have hsub : ((t.rows.filter (fun r => p r.2)).map Prod.fst).Nodup :=
    t.nodup.sublist (filter_sublist.map Prod.fst)
  have hperm : ((t.rows.filter (fun r => p r.2)).map Prod.fst).Perm keys := by
    rw [perm_ext_iff_of_nodup hsub hnodup]
    intro k
    simp only [hkeys, mem_map, mem_filter, get?_eq_some_iff]
    constructor
    · rintro ⟨r, ⟨hr, hp⟩, rfl⟩
      exact ⟨r.2, hr, hp⟩
    · rintro ⟨a, hr, hp⟩
      exact ⟨(k, a), ⟨hr, hp⟩, rfl⟩
  rw [count, countP_eq_length_filter, ← hperm.length_eq, length_map]

@[simp] theorem count_insert (t : Table α) (a : α) (p : α → Bool) :
    (t.insert a).count p = t.count p + if p a then 1 else 0 := by
  simp [count, insert, countP_append, countP_singleton]

theorem count_foldl_insert (t : Table α) (rows : List α) (p : α → Bool) :
    (rows.foldl insert t).count p = t.count p + rows.countP p := by
  induction rows generalizing t with
  | nil => simp
  | cons a rows ih =>
    rw [foldl_cons, ih, count_insert, countP_cons]
    omega

theorem countP_replace {f : α → α} {p : α → Bool}
    (hnodup : (rows.map Prod.fst).Nodup) (hmem : (k, a) ∈ rows) :
    (rows.map (fun r => (r.1, if r.1 = k then f r.2 else r.2))).countP (fun r => p r.2) +
        (if p a then 1 else 0) =
      rows.countP (fun r => p r.2) + if p (f a) then 1 else 0 := by
  induction rows with
  | nil => cases hmem
  | cons r rows ih =>
    have hr : r.1 ∉ rows.map Prod.fst ∧ (rows.map Prod.fst).Nodup := by simpa using hnodup
    simp only [map_cons, countP_cons]
    rcases mem_cons.mp hmem with heq | hmem'
    · -- the row sits at the head; the tail has no row under this key
      subst heq
      have htail : rows.map (fun r => (r.1, if r.1 = k then f r.2 else r.2)) = rows := by
        conv_rhs => rw [← map_id rows]
        apply map_congr_left
        intro x hx
        have hne : x.1 ≠ k := fun h => hr.1 (mem_map.mpr ⟨x, hx, h⟩)
        simp [hne]
      rw [htail]
      simp only [if_true]
      omega
    · have hne : r.1 ≠ k := fun h => hr.1 (mem_map.mpr ⟨_, hmem', h.symm⟩)
      have := ih hr.2 hmem'
      simp only [hne, if_false]
      omega

/-- Rewriting one row moves the count by that row alone. -/
theorem count_updateAt (h : t.get? k = some a) (f : α → α) (p : α → Bool) :
    (t.updateAt k f).count p + (if p a then 1 else 0) =
      t.count p + if p (f a) then 1 else 0 := by
  have := countP_replace (f := f) (p := p) t.nodup (get?_eq_some_iff.mp h)
  simpa [count, updateAt, update] using this

/-! ### Parts of a table -/

/-- The rows with a property, oldest first. -/
def rowsWhere (t : Table α) (p : α → Bool) : List (Nat × α) := t.rows.filter (fun r => p r.2)

/-- A key names a row with the property if the part has it. -/
theorem get?_filter (t : Table α) (p : α → Bool) (k : Nat) :
    (t.get? k).filter p = ((t.rowsWhere p).find? (fun r => r.1 == k)).map Prod.snd := by
  obtain ⟨rows, nodup⟩ := t
  unfold get? rowsWhere
  induction rows with
  | nil => rfl
  | cons r rows ih =>
    have hnodup : r.1 ∉ rows.map Prod.fst ∧ (rows.map Prod.fst).Nodup := by simpa using nodup
    by_cases hr : r.1 = k
    · -- the key is at the head, so no later row is found under it
      subst hr
      have hnone : (rows.filter (fun x => p x.2)).find? (fun x => x.1 == r.1) = none := by
        rw [List.find?_eq_none]
        intro x hx hkey
        exact hnodup.1 (mem_map.mpr ⟨x, mem_of_mem_filter hx, by simpa using hkey⟩)
      by_cases hp : p r.2 = true <;> simp [hp, hnone]
    · have hne : (r.1 == k) = false := by simpa using hr
      have hrest := ih hnodup.2
      by_cases hp : p r.2 = true <;> simp [hp, hne] <;> simpa using hrest

theorem rowsWhere_updateAt {p : α → Bool} {f : α → α} (k : Nat) (h : ∀ a, p (f a) = p a) :
    (t.updateAt k f).rowsWhere p =
      (t.rowsWhere p).map (fun r => (r.1, if r.1 = k then f r.2 else r.2)) := by
  simp only [rowsWhere, updateAt, update, filter_map, Function.comp_def]
  congr 1
  apply filter_congr
  intro r _
  by_cases hr : r.1 = k <;> simp [hr, h]

/-- Rewriting a row outside of the part. -/
theorem rowsWhere_updateAt_of_not {p : α → Bool} {f : α → α} (hget : t.get? k = some a)
    (hp : p a = false) (h : ∀ a, p (f a) = p a) : (t.updateAt k f).rowsWhere p = t.rowsWhere p := by
  rw [rowsWhere_updateAt k h]
  conv_rhs => rw [← map_id (t.rowsWhere p)]
  apply map_congr_left
  intro r hr
  obtain ⟨hmem, hpr⟩ := mem_filter.mp hr
  have hne : r.1 ≠ k := by
    intro hkey
    have hrow := get?_eq_some_iff.mpr hmem
    rw [hkey, hget] at hrow
    cases hrow
    rw [hp] at hpr
    cases hpr
  simp [hne]

theorem map_rowsWhere_insert (t : Table α) (a : α) (p : α → Bool) :
    ((t.insert a).rowsWhere p).map Prod.snd =
      (t.rowsWhere p).map Prod.snd ++ if p a then [a] else [] := by
  by_cases hp : p a = true <;> simp [rowsWhere, insert, hp]

/-! ### Ordered selections -/

section Selection

variable {p : Nat × α → Bool} {r : Nat × α → Nat × α → Prop} [DecidableRel r] {n : Nat}

/-- A selected row is one of the table and meets the condition. -/
theorem mem_selection {x : Nat × α}
    (h : x ∈ ((t.rows.filter p).insertionSort r).take n) : t.get? x.1 = some x.2 ∧ p x = true := by
  have hsorted := mem_of_mem_take h
  rw [mem_insertionSort, mem_filter] at hsorted
  exact ⟨get?_eq_some_iff.mpr hsorted.1, hsorted.2⟩

/-- No row is selected twice. -/
theorem nodup_selection (t : Table α) :
    ((((t.rows.filter p).insertionSort r).take n).map Prod.fst).Nodup := by
  have hrows : ((t.rows.filter p).map Prod.fst).Nodup :=
    t.nodup.sublist (filter_sublist.map Prod.fst)
  have hsorted := ((perm_insertionSort r (t.rows.filter p)).map Prod.fst).nodup_iff.mpr hrows
  exact hsorted.sublist ((take_sublist _ _).map Prod.fst)

end Selection

section First

universe v

variable {κ : Type v} [LinearOrder κ] {f : α → κ} {l : List α} {x : α}

/-- Of a sorted list with distinct keys, the first `n` are those with less than `n` before
    them. -/
theorem mem_take_of_sorted (hsorted : l.Pairwise (fun a b => f a ≤ f b))
    (hkeys : ∀ a ∈ l, ∀ b ∈ l, f a = f b → a = b) (n : Nat) :
    x ∈ l.take n ↔ x ∈ l ∧ l.countP (fun a => decide (f a < f x)) < n := by
  induction l generalizing n with
  | nil => simp
  | cons a l ih =>
    rw [pairwise_cons] at hsorted
    cases n with
    | zero => simp
    | succ n =>
      rw [take_succ_cons, mem_cons, mem_cons, countP_cons]
      by_cases hx : x = a
      · -- nothing is before the first
        subst hx
        have hnone : l.countP (fun a => decide (f a < f x)) = 0 := by
          rw [countP_eq_zero]
          intro b hb
          simpa using hsorted.1 b hb
        simp [hnone]
      · have hrest := ih hsorted.2
          (fun b hb c hc => hkeys b (mem_cons_of_mem a hb) c (mem_cons_of_mem a hc)) n
        by_cases hmem : x ∈ l
        · have hne : f a ≠ f x := fun heq =>
            hx (hkeys a mem_cons_self x (mem_cons_of_mem a hmem) heq).symm
          have hlt : f a < f x := lt_of_le_of_ne (hsorted.1 x hmem) hne
          simp [hx, hmem, hlt, hrest]
        · simp [hx, hmem, hrest]

/-- `ORDER BY f LIMIT n`, for distinct keys. -/
theorem mem_take_insertionSort (hkeys : ∀ a ∈ l, ∀ b ∈ l, f a = f b → a = b) (n : Nat) :
    x ∈ (l.insertionSort (fun a b => f a ≤ f b)).take n ↔
      x ∈ l ∧ l.countP (fun a => decide (f a < f x)) < n := by
  have hperm := perm_insertionSort (fun a b => f a ≤ f b) l
  rw [mem_take_of_sorted (f := f), hperm.mem_iff, hperm.countP_eq]
  · exact @List.pairwise_insertionSort _ (fun a b => f a ≤ f b) _
      ⟨fun a b => le_total (f a) (f b)⟩ ⟨fun a b c => le_trans⟩ l
  · intro a ha b hb
    exact hkeys a (hperm.mem_iff.mp ha) b (hperm.mem_iff.mp hb)

end First

end Table
