import LoanWorkflow.Framework.Table

/-! # Frames

    Most steps leave most columns alone. A frame says so for the columns that
    a projection `π` reads.

    - `Keeps π t t'`: every row of `t` is still in `t'`, with the same `π`
    - `Over π t t'`: every row of `t'` has the `π` of some row of `t`
    - `Grows π B t t'`: `Keeps π`, and every new row has its `π` in `B`
    - `AgreesOff k t t'`: the two tables differ at most at the key `k`
    - `SameRows π t t'`: the same rows in the same order, with the same `π`

    All are reflexive and transitive; `Keeps`, `Over` and `SameRows` hold of
    rewrites that do not touch the columns of `π`.
-/

namespace Table

open Option

variable {k : Nat}

universe u v

variable {α : Type u} {β : Type v} {π : α → β} {t t' t'' : Table α}

/-- Every row is still there, with the same columns `π`. -/
def Keeps (π : α → β) (t t' : Table α) : Prop :=
  ∀ k a, t.get? k = some a → ∃ a', t'.get? k = some a' ∧ π a' = π a

/-- Every row has the columns `π` of an earlier row. -/
def Over (π : α → β) (t t' : Table α) : Prop :=
  ∀ k a', t'.get? k = some a' → ∃ j a, t.get? j = some a ∧ π a' = π a

/-- Rows stay, with the same columns `π`, and new rows have theirs in `B`. -/
structure Grows (π : α → β) (B : β → Prop) (t t' : Table α) : Prop where
  keeps : Keeps π t t'
  adds : ∀ k a', t'.get? k = some a' → (∃ a, t.get? k = some a ∧ π a' = π a) ∨ B (π a')

/-- The tables differ at most at one key. -/
def AgreesOff (k : Nat) (t t' : Table α) : Prop := ∀ j, j ≠ k → t'.get? j = t.get? j

/-- The rows are the same, and in the same order, as far as the columns `π` tell. -/
def SameRows (π : α → β) (t t' : Table α) : Prop :=
  t'.rows.map (fun r => (r.1, π r.2)) = t.rows.map (fun r => (r.1, π r.2))

/-! ### Rows that stay -/

theorem Keeps.refl (π : α → β) (t : Table α) : Keeps π t t := fun _ a h => ⟨a, h, rfl⟩

theorem Keeps.of_eq (h : t' = t) : Keeps π t t' := by rw [h]; exact .refl π t

theorem Keeps.trans (h : Keeps π t t') (h' : Keeps π t' t'') : Keeps π t t'' := by
  intro k a ha
  obtain ⟨b, hb, hab⟩ := h k a ha
  obtain ⟨c, hc, hbc⟩ := h' k b hb
  exact ⟨c, hc, hbc.trans hab⟩

theorem Keeps.update {f : Nat → α → α} (hf : ∀ k a, π (f k a) = π a) : Keeps π t (t.update f) := by
  intro k a ha
  exact ⟨f k a, by rw [get?_update, ha]; rfl, hf k a⟩

theorem Keeps.updateAt {f : α → α} (hf : ∀ a, π (f a) = π a) : Keeps π t (t.updateAt k f) := by
  apply Keeps.update
  intro i a
  split
  · exact hf a
  · rfl

theorem Keeps.insert (a : α) : Keeps π t (t.insert a) :=
  fun _ b hb => ⟨b, get?_insert_of_get? hb, rfl⟩

/-! ### Rows that come from earlier ones -/

theorem Over.refl (π : α → β) (t : Table α) : Over π t t := fun k a h => ⟨k, a, h, rfl⟩

theorem Over.of_eq (h : t' = t) : Over π t t' := by rw [h]; exact .refl π t

theorem Over.trans (h : Over π t t') (h' : Over π t' t'') : Over π t t'' := by
  intro k c hc
  obtain ⟨j, b, hb, hbc⟩ := h' k c hc
  obtain ⟨i, a, ha, hab⟩ := h j b hb
  exact ⟨i, a, ha, hbc.trans hab⟩

theorem Over.updateAt {f : α → α} (hf : ∀ a, π (f a) = π a) : Over π t (t.updateAt k f) := by
  intro j a' ha'
  rw [get?_updateAt] at ha'
  split at ha'
  · obtain ⟨a, ha, rfl⟩ := map_eq_some_iff.mp ha'
    exact ⟨j, a, ha, hf a⟩
  · exact ⟨j, a', ha', rfl⟩

/-- A new row with the columns of a stored one. -/
theorem Over.insert {a row : α} (hget : t.get? k = some a) (hrow : π row = π a) :
    Over π t (t.insert row) := by
  intro j a' ha'
  rw [get?_insert] at ha'
  split at ha'
  · cases ha'
    exact ⟨k, a, hget, hrow⟩
  · exact ⟨j, a', ha', rfl⟩

/-- A row of an extended table is an old row or one of the new ones. -/
theorem mem_foldl_insert {rows : List α} {a : α}
    (h : (rows.foldl Table.insert t).get? k = some a) : t.get? k = some a ∨ a ∈ rows := by
  induction rows generalizing t with
  | nil => exact Or.inl h
  | cons b rows ih =>
    rcases ih h with hold | hnew
    · rw [get?_insert] at hold
      split at hold
      · cases hold
        exact Or.inr (List.mem_cons_self ..)
      · exact Or.inl hold
    · exact Or.inr (List.mem_cons_of_mem _ hnew)

/-! ### Tables that grow -/

section grows

variable {B : β → Prop}

theorem Grows.refl (π : α → β) (B : β → Prop) (t : Table α) : Grows π B t t :=
  ⟨.refl π t, fun _ a h => Or.inl ⟨a, h, rfl⟩⟩

theorem Grows.of_eq (h : t' = t) : Grows π B t t' := by rw [h]; exact .refl π B t

/-- Where no row is added, every row is an old one. -/
theorem Grows.old (h : Grows π (fun _ => False) t t') {a' : α} (ha' : t'.get? k = some a') :
    ∃ a, t.get? k = some a ∧ π a' = π a :=
  (h.adds k a' ha').resolve_right id

theorem Grows.trans (h : Grows π B t t') (h' : Grows π B t' t'') : Grows π B t t'' := by
  refine ⟨h.keeps.trans h'.keeps, fun k c hc => ?_⟩
  rcases h'.adds k c hc with ⟨b, hb, hbc⟩ | hnew
  · rcases h.adds k b hb with ⟨a, ha, hab⟩ | hnew
    · exact Or.inl ⟨a, ha, hbc.trans hab⟩
    · exact Or.inr (hbc ▸ hnew)
  · exact Or.inr hnew

theorem Grows.updateAt {f : α → α} (hf : ∀ a, π (f a) = π a) : Grows π B t (t.updateAt k f) := by
  refine ⟨.updateAt hf, fun j a' ha' => Or.inl ?_⟩
  rw [get?_updateAt] at ha'
  split at ha'
  · obtain ⟨a, ha, rfl⟩ := map_eq_some_iff.mp ha'
    exact ⟨a, ha, hf a⟩
  · exact ⟨a', ha', rfl⟩

/-- Rewriting rows with a property, without touching the columns of such rows. -/
theorem Grows.updateWhere_of {p : α → Bool} {f : α → α} (hf : ∀ a, p a = true → π (f a) = π a) :
    Grows π B t (t.updateWhere p f) := by
  have hrow : ∀ a, π (if p a then f a else a) = π a := by
    intro a
    split
    · next hp => exact hf a hp
    · rfl
  refine ⟨fun k a ha => ⟨_, by rw [get?_updateWhere, ha]; rfl, hrow a⟩, fun j a' ha' => Or.inl ?_⟩
  rw [get?_updateWhere] at ha'
  obtain ⟨a, ha, rfl⟩ := map_eq_some_iff.mp ha'
  exact ⟨a, ha, hrow a⟩

theorem Grows.insert {row : α} (hrow : B (π row)) : Grows π B t (t.insert row) := by
  refine ⟨.insert row, fun j a' ha' => ?_⟩
  rw [get?_insert] at ha'
  split at ha'
  · cases ha'
    exact Or.inr hrow
  · exact Or.inl ⟨a', ha', rfl⟩

theorem Grows.mono {C : β → Prop} (h : Grows π B t t') (hBC : ∀ b, B b → C b) : Grows π C t t' :=
  ⟨h.keeps, fun k a' ha' => (h.adds k a' ha').imp id (hBC _)⟩

end grows

/-- Fewer columns are kept as well. -/
theorem Grows.comp {γ : Type*} {B : β → Prop} {C : γ → Prop} (g : β → γ) (h : Grows π B t t')
    (hB : ∀ b, B b → C (g b)) : Grows (g ∘ π) C t t' := by
  refine ⟨fun k a ha => ?_, fun k a' ha' => ?_⟩
  · obtain ⟨a', ha', heq⟩ := h.keeps k a ha
    exact ⟨a', ha', congrArg g heq⟩
  · rcases h.adds k a' ha' with ⟨a, ha, heq⟩ | hnew
    · exact Or.inl ⟨a, ha, congrArg g heq⟩
    · exact Or.inr (hB _ hnew)

/-! ### Tables that differ at one key -/

theorem AgreesOff.refl (k : Nat) (t : Table α) : AgreesOff k t t := fun _ _ => rfl

theorem AgreesOff.of_eq (h : t' = t) : AgreesOff k t t' := by rw [h]; exact .refl k t

theorem AgreesOff.trans (h : AgreesOff k t t') (h' : AgreesOff k t' t'') :
    AgreesOff k t t'' := fun j hj => (h' j hj).trans (h j hj)

theorem AgreesOff.updateAt (k : Nat) (t : Table α) (f : α → α) : AgreesOff k t (t.updateAt k f) :=
  fun _ hj => get?_updateAt_ne hj

/-! ### Tables with the same rows -/

theorem SameRows.refl (π : α → β) (t : Table α) : SameRows π t t := rfl

theorem SameRows.trans (h : SameRows π t t') (h' : SameRows π t' t'') : SameRows π t t'' :=
  Eq.trans h' h

theorem SameRows.updateAt {f : α → α} (hf : ∀ a, t.get? k = some a → π (f a) = π a) :
    SameRows π t (t.updateAt k f) := by
  unfold SameRows Table.updateAt Table.update
  rw [List.map_map]
  apply List.map_congr_left
  intro r hr
  simp only [Function.comp_def]
  split
  · next hk => rw [hf r.2 (get?_eq_some_iff.mpr (hk ▸ hr))]
  · rfl

theorem SameRows.symm (h : SameRows π t t') : SameRows π t' t := Eq.symm h

/-- What can be looked up has the same columns. -/
theorem SameRows.keeps (h : SameRows π t t') : Keeps π t t' := by
  have hlookup : ∀ (t : Table α) (k : Nat), (t.get? k).map π =
      ((t.rows.map (fun r => (r.1, π r.2))).find? (fun r => r.1 == k)).map Prod.snd := by
    intro t k
    rw [List.find?_map, Option.map_map]
    unfold Table.get?
    rw [Option.map_map]
    rfl
  intro k a ha
  have hsame : (t'.get? k).map π = (t.get? k).map π := by rw [hlookup, hlookup, h]
  rw [ha] at hsame
  exact map_eq_some_iff.mp hsame

end Table
