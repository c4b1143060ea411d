import LoanWorkflow.Framework.Machine
import Mathlib.Data.List.Basic

/-! # Check, then act

    Calls of a service look for a cached answer first. A call that finds none
    acts, in a second step, and its answer fills the cache. The two steps of
    different calls interleave, so several calls may have missed the cache
    before the first one acts.

    - `State`, `exec`: the calls in their phases, with the answers they got
    - `Laws`: what is assumed of the actions
    - `agree_iff_unfilled`: all calls get one answer exactly when no call acts on a filled cache
    - `oneEffect`: at most one action has an effect, in every interleaving
-/

namespace CheckThenAct

open List

/-- Look for a cached answer, or act. -/
structure Service (ι σ ρ ε : Type) where
  lookup : ι → σ → Option ρ
  act : ι → σ → Except ε (ρ × σ)

inductive Phase where
  | fresh
  | missed
  | done
deriving DecidableEq, Repr

/-- The store, where each call is, the answers that were given, and the store before and after
    each action. -/
structure State (ι σ ρ : Type) where
  store : σ
  phase : ι → Phase := fun _ => .fresh
  answers : List (ι × ρ) := []
  commits : List (σ × σ) := []

/-- A call takes its first or its second step. -/
inductive Op (ι : Type) where
  | check (i : ι)
  | act (i : ι)

variable {ι σ ρ ε : Type}

/-- What is assumed of the actions: which calls can act again, and when an action has no
    effect. -/
structure Laws (S : Service ι σ ρ ε) (ready : ι → Prop) (same : σ → σ → Prop) : Prop where
  /-- An action fills the cache, for all calls. -/
  fills : ∀ {i s r s'}, S.act i s = .ok (r, s') → ∀ j, S.lookup j s' = some r
  /-- The answers of two actions differ. -/
  differ : ∀ {i j s s' r t t' r'}, S.act i s = .ok (r, s') → S.act j t = .ok (r', t') → i ≠ j →
    r ≠ r'
  ready_of_ok : ∀ {i s r s'}, S.act i s = .ok (r, s') → ready i
  /-- After an action, the calls that are ready can act. -/
  again : ∀ {i j s r s'}, S.act i s = .ok (r, s') → ready j → ∃ r' s'', S.act j s' = .ok (r', s'')
  /-- An action after an action has no effect. -/
  harmless : ∀ {i j s r s' r' s''}, S.act i s = .ok (r, s') → S.act j s' = .ok (r', s'') →
    same s' s''

/-- All answers are the same. -/
def Agree (s : State ι σ ρ) : Prop := ∀ a ∈ s.answers, ∀ b ∈ s.answers, a.2 = b.2

/-- No action after the first one had an effect. -/
def OneEffect (same : σ → σ → Prop) (s : State ι σ ρ) : Prop :=
  s.commits.Pairwise fun _ c => same c.1 c.2

/-- A call that acts would still miss the cache. -/
def Unfilled (S : Service ι σ ρ ε) (ready : ι → Prop) (s : State ι σ ρ) : Op ι → Prop
  | .check _ => True
  | .act i => s.phase i = .missed → ready i → S.lookup i s.store = none

instance Unfilled.decidable (S : Service ι σ ρ ε) (ready : ι → Prop) [DecidablePred ready]
    (s : State ι σ ρ) (op : Op ι) : Decidable (Unfilled S ready s op) :=
  match op with
  | .check _ => isTrue trivial
  | .act i => inferInstanceAs (Decidable (s.phase i = .missed → ready i → S.lookup i s.store = none))

/-- The store is what an action has left. -/
def Acted (S : Service ι σ ρ ε) (s : State ι σ ρ) : Prop :=
  ∃ i s₀ r, S.act i s₀ = .ok (r, s.store)

variable {S : Service ι σ ρ ε} {ready : ι → Prop} {same : σ → σ → Prop} {s : State ι σ ρ}

theorem oneEffect_append {c : σ × σ} (hone : OneEffect same s)
    (hc : s.commits = [] ∨ same c.1 c.2) : (s.commits ++ [c]).Pairwise fun _ c => same c.1 c.2 := by
  rw [pairwise_append]
  refine ⟨hone, pairwise_singleton _ c, ?_⟩
  intro a ha b hb
  rw [mem_singleton.mp hb]
  rcases hc with hnil | hsame
  · rw [hnil] at ha
    cases ha
  · exact hsame

/-- Nothing was answered and the cache is empty. -/
def Empty (S : Service ι σ ρ ε) (s : State ι σ ρ) : Prop :=
  s.answers = [] ∧ ∀ i, S.lookup i s.store = none

/-- One call has acted, and all got its answer. -/
def Filled (S : Service ι σ ρ ε) (s : State ι σ ρ) : Prop :=
  ∃ i s₀ r, S.act i s₀ = .ok (r, s.store) ∧ s.phase i = .done ∧ (i, r) ∈ s.answers ∧
    ∀ a ∈ s.answers, a.2 = r

theorem agree_of_filled (h : Empty S s ∨ Filled S s) : Agree s := by
  rcases h with ⟨hnil, -⟩ | ⟨i, s₀, r, -, -, -, hall⟩
  · intro a ha
    rw [hnil] at ha
    cases ha
  · intro a ha b hb
    rw [hall a ha, hall b hb]

/-! ### Steps -/

variable [DecidableEq ι]

/-- A call goes to another phase. -/
def State.enter (s : State ι σ ρ) (i : ι) (p : Phase) : State ι σ ρ :=
  { s with phase := fun j => if j = i then p else s.phase j }

@[simp] theorem State.enter_self (s : State ι σ ρ) (i : ι) (p : Phase) :
    (s.enter i p).phase i = p := if_pos rfl

theorem State.enter_of_ne (s : State ι σ ρ) {i j : ι} (p : Phase) (h : j ≠ i) :
    (s.enter i p).phase j = s.phase j := if_neg h

/-- A step, if the call is in the right phase. -/
def exec (S : Service ι σ ρ ε) (op : Op ι) (s : State ι σ ρ) : Except Unit (State ι σ ρ) :=
  match op with
  | .check i =>
    if s.phase i = .fresh then
      match S.lookup i s.store with
      | some r => .ok { s.enter i .done with answers := s.answers ++ [(i, r)] }
      | none => .ok (s.enter i .missed)
    else .error ()
  | .act i =>
    if s.phase i = .missed then
      match S.act i s.store with
      | .ok (r, store) =>
        .ok { s.enter i .done with
          store := store
          answers := s.answers ++ [(i, r)]
          commits := s.commits ++ [(s.store, store)] }
      | .error _ => .ok (s.enter i .done)
    else .error ()

/-! ### At most one effect -/

/-- In every interleaving, at most one action has an effect. -/
theorem oneEffect (laws : Laws S ready same) (store : σ) (ops : List (Op ι)) :
    Machine.Along (exec S) (fun _ _ s => OneEffect same s) { store := store } ops := by
  refine Machine.along_of_invariant
    (I := fun s => OneEffect same s ∧ (s.commits = [] ∨ Acted S s)) ?_ ?_ ?_ ops
  · intro s op s' ⟨hone, hacted⟩ hok
    cases op with
    | check i =>
      unfold exec at hok
      dsimp only at hok
      split at hok
      · split at hok <;> cases hok <;> exact ⟨⟨hone, hacted⟩, hone⟩
      · cases hok
    | act i =>
      unfold exec at hok
      dsimp only at hok
      split at hok
      · split at hok
        · next r store hact =>
          cases hok
          have hcommit : s.commits = [] ∨ same s.store store := by
            rcases hacted with hnil | ⟨j, s₀, r₀, hfirst⟩
            · exact .inl hnil
            · exact .inr (laws.harmless hfirst hact)
          have hone' := oneEffect_append (c := (s.store, store)) hone hcommit
          exact ⟨⟨hone', .inr ⟨i, s.store, r, hact⟩⟩, hone'⟩
        · cases hok
          exact ⟨⟨hone, hacted⟩, hone⟩
      · cases hok
  · exact fun s op h => h.1
  · exact ⟨List.Pairwise.nil, .inl rfl⟩

/-! ### One answer -/

/-- A call that is not done changes its phase. -/
theorem Filled.enter (h : Filled S s) {i : ι} (hi : s.phase i ≠ .done)
    (p : Phase) :
    Filled S (s.enter i p) := by
  obtain ⟨j, s₀, r, hact, hdone, hmem, hall⟩ := h
  have hne : j ≠ i := by
    intro heq
    rw [heq] at hdone
    exact hi hdone
  exact ⟨j, s₀, r, hact, by rw [State.enter_of_ne s p hne]; exact hdone, hmem, hall⟩

theorem Empty.enter (h : Empty S s) (i : ι) (p : Phase) :
    Empty S (s.enter i p) := h

/-- A lookup gives the one answer again. -/
theorem filled_check (laws : Laws S ready same) (h : Empty S s ∨ Filled S s)
    (i : ι) : Empty S (Machine.commit (exec S) s (.check i)) ∨
      Filled S (Machine.commit (exec S) s (.check i)) := by
  unfold Machine.commit exec
  by_cases hphase : s.phase i = .fresh
  · have hnot : s.phase i ≠ .done := by
      rw [hphase]
      decide
    simp only [if_pos hphase]
    rcases h with hempty | hfilled
    · rw [hempty.2 i]
      exact .inl (hempty.enter i .missed)
    · obtain ⟨j, s₀, r, hact, hdone, hmem, hall⟩ := hfilled.enter hnot .done
      have hfull : S.lookup i s.store = some r := laws.fills hact i
      rw [hfull]
      refine .inr ⟨j, s₀, r, hact, hdone, mem_append_left _ hmem, ?_⟩
      intro a ha
      rcases mem_append.mp ha with hold | hnew
      · exact hall a hold
      · rw [mem_singleton.mp hnew]
  · simp only [if_neg hphase]
    exact h

/-- An action on an empty cache gives the answer of all calls, and one on a filled cache gives
    another one. -/
theorem filled_act (laws : Laws S ready same) (h : Empty S s ∨ Filled S s)
    (i : ι) :
    (Unfilled S ready s (.act i) → Empty S (Machine.commit (exec S) s (.act i)) ∨
        Filled S (Machine.commit (exec S) s (.act i))) ∧
      (¬ Unfilled S ready s (.act i) → ¬ Agree (Machine.commit (exec S) s (.act i))) := by
  unfold Machine.commit exec Unfilled
  by_cases hphase : s.phase i = .missed
  · have hnot : s.phase i ≠ .done := by
      rw [hphase]
      decide
    simp only [if_pos hphase]
    cases hact : S.act i s.store with
    | error e =>
      refine ⟨fun _ => h.imp (·.enter i .done) (·.enter hnot .done), ?_⟩
      -- a ready call can act on a filled cache, so this one is not ready
      intro hbad
      rcases h with hempty | ⟨j, s₀, r, hfirst, -⟩
      · exact absurd (fun _ _ => hempty.2 i) hbad
      · refine absurd ?_ hbad
        intro _ hready
        obtain ⟨r', s'', hok⟩ := laws.again hfirst hready
        rw [hact] at hok
        cases hok
    | ok result =>
      obtain ⟨r, store⟩ := result
      dsimp only
      rcases h with hempty | ⟨j, s₀, r₀, hfirst, hdone, hmem, hall⟩
      · refine ⟨fun _ => .inr ⟨i, s.store, r, hact, State.enter_self s i .done, ?_, ?_⟩, ?_⟩
        · simp
        · intro a ha
          rw [hempty.1, nil_append, mem_singleton] at ha
          rw [ha]
        · exact fun hbad => absurd (fun _ _ => hempty.2 i) hbad
      · have hfull : S.lookup i s.store = some r₀ := laws.fills hfirst i
        have hne : j ≠ i := by
          intro heq
          rw [heq] at hdone
          exact hnot hdone
        constructor
        · intro hguard
          have hmissed := hguard hphase (laws.ready_of_ok hact)
          rw [hfull] at hmissed
          cases hmissed
        · intro _ hagree
          refine laws.differ hfirst hact hne ?_
          exact hagree (j, r₀) (mem_append_left _ hmem) (i, r) (by simp)
  · simp only [if_neg hphase]
    refine ⟨fun _ => h, ?_⟩
    intro hbad
    exact absurd (fun hmissed => absurd hmissed hphase) hbad

/-- All calls get one answer, and at most one action has an effect, exactly when no ready call
    acts on a filled cache. -/
theorem agree_iff_unfilled (laws : Laws S ready same) {store : σ}
    (hempty : ∀ i, S.lookup i store = none) (ops : List (Op ι)) :
    Machine.Along (exec S) (fun _ _ s => Agree s ∧ OneEffect same s) { store := store } ops ↔
      Machine.Guarded (exec S) (Unfilled S ready) { store := store } ops := by
  have hstart : Empty S { store := store : State ι σ ρ } := ⟨rfl, hempty⟩
  rw [Machine.along_and, and_iff_left (oneEffect laws store ops)]
  apply Machine.along_iff_guarded (I := fun s => Empty S s ∨ Filled S s) _ _ (.inl hstart)
  · intro s op hinv
    cases op with
    | check i => exact iff_of_true (agree_of_filled (filled_check laws hinv i)) trivial
    | act i =>
      obtain ⟨hgood, hbad⟩ := filled_act laws hinv i
      refine ⟨fun hagree => ?_, fun hguard => agree_of_filled (hgood hguard)⟩
      by_contra hguard
      exact hbad hguard hagree
  · intro s op s' hinv hguard hok
    rw [← Machine.commit_ok hok]
    cases op with
    | check i => exact filled_check laws hinv i
    | act i => exact (filled_act laws hinv i).1 hguard

end CheckThenAct
