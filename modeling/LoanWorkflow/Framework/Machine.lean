import Mathlib.Tactic.Common

/-! # Machines with transactional steps

    A machine runs one operation at a time. An operation either commits,
    which gives the next state, or fails, which leaves the state as it was
    (the transaction is rolled back). A run is a list of operations.

    - `commit`: one operation, with the rollback of a failed one
    - `run`: a list of operations
    - `Along`: a property of every step of a run
    - `run_invariant`: what every committed step keeps, a run keeps
    - `Guarded.run_invariant`: the same for invariants that need a guard on each step
    - `along_iff_guarded`: guards that are exact for each step
    - `nodup_committed`: keys that can be used once
-/

namespace Machine

variable {σ : Type _} {ι : Type _} {ε : Type _}
variable {I : σ → Prop} {guard : σ → ι → Prop} {P : σ → ι → σ → Prop}

/-! ### Steps and runs -/

/-- One operation: the state it commits, or the old state when it fails. -/
def commit (exec : ι → σ → Except ε σ) (s : σ) (op : ι) : σ :=
  match exec op s with
  | .ok s' => s'
  | .error _ => s

/-- Run a list of operations, first to last. -/
def run (exec : ι → σ → Except ε σ) (s : σ) (ops : List ι) : σ :=
  ops.foldl (commit exec) s

/-- `P before op after` holds of every step of the run. -/
def Along (exec : ι → σ → Except ε σ) (P : σ → ι → σ → Prop) : σ → List ι → Prop
  | _, [] => True
  | s, op :: ops => P s op (commit exec s op) ∧ Along exec P (commit exec s op) ops

instance Along.decidable (exec : ι → σ → Except ε σ) (P : σ → ι → σ → Prop)
    [∀ s op s', Decidable (P s op s')] : ∀ s ops, Decidable (Along exec P s ops)
  | _, [] => isTrue trivial
  | s, op :: ops =>
    have := Along.decidable exec P (commit exec s op) ops
    inferInstanceAs (Decidable (_ ∧ _))

/-- The operations of a run that commit. -/
def committed (exec : ι → σ → Except ε σ) : σ → List ι → List ι
  | _, [] => []
  | s, op :: ops =>
    let rest := committed exec (commit exec s op) ops
    if (exec op s).isOk then op :: rest else rest

/-- Every step of the run meets a condition on the state it starts from. -/
def Guarded (exec : ι → σ → Except ε σ) (guard : σ → ι → Prop) : σ → List ι → Prop :=
  Along exec (fun s op _ => guard s op)

/-- No operation of the run fails. -/
def Succeeds (exec : ι → σ → Except ε σ) : σ → List ι → Prop :=
  Along exec (fun s op _ => (exec op s).isOk = true)

instance Succeeds.decidable (exec : ι → σ → Except ε σ) (s : σ) (ops : List ι) :
    Decidable (Succeeds exec s ops) :=
  inferInstanceAs (Decidable (Along exec _ s ops))

instance Guarded.decidable (exec : ι → σ → Except ε σ) (guard : σ → ι → Prop)
    [∀ s op, Decidable (guard s op)] (s : σ) (ops : List ι) : Decidable (Guarded exec guard s ops) :=
  inferInstanceAs (Decidable (Along exec _ s ops))

variable {exec : ι → σ → Except ε σ} {s s' : σ} {op : ι} {ops : List ι}

@[simp] theorem run_nil : run exec s [] = s := rfl

@[simp] theorem run_cons : run exec s (op :: ops) = run exec (commit exec s op) ops := rfl

theorem commit_ok (h : exec op s = .ok s') : commit exec s op = s' := by
  simp [commit, h]

theorem commit_of_isOk (h : (exec op s).isOk = true) : exec op s = .ok (commit exec s op) := by
  unfold commit
  cases hexec : exec op s with
  | ok s' => rfl
  | error e =>
    rw [hexec] at h
    cases h

/-- A step commits or leaves the state alone. -/
theorem commit_cases (exec : ι → σ → Except ε σ) (s : σ) (op : ι) :
    exec op s = .ok (commit exec s op) ∨ commit exec s op = s := by
  unfold commit
  split
  · next h => exact Or.inl h
  · exact Or.inr rfl

/-- Step properties that agree on every step agree on every run. -/
theorem along_congr {Q : σ → ι → σ → Prop}
    (h : ∀ s op, P s op (commit exec s op) ↔ Q s op (commit exec s op)) :
    Along exec P s ops ↔ Along exec Q s ops := by
  induction ops generalizing s with
  | nil => exact Iff.rfl
  | cons op ops ih => exact and_congr (h s op) ih

theorem along_and {Q : σ → ι → σ → Prop} :
    Along exec (fun s op s' => P s op s' ∧ Q s op s') s ops ↔
      Along exec P s ops ∧ Along exec Q s ops := by
  induction ops generalizing s with
  | nil => exact (and_self_iff).symm
  | cons op ops ih => exact (and_congr_right fun _ => ih).trans and_and_and_comm

/-- What holds of every step holds along every run. -/
theorem along_of_forall (h : ∀ s op, P s op (commit exec s op)) (s : σ) (ops : List ι) :
    Along exec P s ops := by
  induction ops generalizing s with
  | nil => trivial
  | cons op ops ih => exact ⟨h s op, ih _⟩

/-! ### Invariants -/

/-- If every guarded step that commits keeps `I` and has `P`, and `P` holds
    of a step that fails, then `I` holds at the end of a guarded run and `P`
    along it. -/
theorem Guarded.along_of_outcome
    (hstep : ∀ s op s', I s → guard s op → exec op s = .ok s' → I s' ∧ P s op s')
    (hfail : ∀ s op e, I s → exec op s = .error e → P s op s) :
    ∀ {s : σ} {ops : List ι}, I s → Guarded exec guard s ops →
      I (run exec s ops) ∧ Along exec P s ops := by
  intro s ops
  induction ops generalizing s with
  | nil => exact fun hinv _ => ⟨hinv, trivial⟩
  | cons op ops ih =>
    rintro hinv ⟨hguard, hrest⟩
    have hone : I (commit exec s op) ∧ P s op (commit exec s op) := by
      unfold commit
      split
      · next s' hok => exact hstep s op s' hinv hguard hok
      · next e herror => exact ⟨hinv, hfail s op e hinv herror⟩
    obtain ⟨hend, halong⟩ := ih hone.1 hrest
    exact ⟨hend, hone.2, halong⟩

/-- The same, for a `P` that holds of every step that changes nothing. -/
theorem Guarded.along (hstep : ∀ s op s', I s → guard s op → exec op s = .ok s' → I s' ∧ P s op s')
    (hstay : ∀ s op, I s → P s op s) {s : σ} {ops : List ι} (hinv : I s)
    (hguard : Guarded exec guard s ops) : I (run exec s ops) ∧ Along exec P s ops :=
  Guarded.along_of_outcome hstep (fun s op _ hi _ => hstay s op hi) hinv hguard

/-- The invariant rule for runs. -/
theorem run_invariant (hstep : ∀ s op s', I s → exec op s = .ok s' → I s')
    (hinv : I s) (ops : List ι) : I (run exec s ops) := by
  induction ops generalizing s with
  | nil => exact hinv
  | cons op ops ih =>
    apply ih
    rcases commit_cases exec s op with hok | hsame
    · exact hstep s op _ hinv hok
    · rw [hsame]; exact hinv

/-- The invariant rule for guarded runs. -/
theorem Guarded.run_invariant (hstep : ∀ s op s', I s → guard s op → exec op s = .ok s' → I s')
    (hinv : I s) (hguard : Guarded exec guard s ops) : I (run exec s ops) :=
  (Guarded.along (P := fun _ _ _ => True)
    (fun s op s' hi hg hok => ⟨hstep s op s' hi hg hok, trivial⟩)
    (fun _ _ _ => trivial) hinv hguard).1

/-- If every committed step keeps `I` and has `P`, then `P` holds along every run. -/
theorem along_of_invariant (hstep : ∀ s op s', I s → exec op s = .ok s' → I s' ∧ P s op s')
    (hstay : ∀ s op, I s → P s op s) (hinv : I s) (ops : List ι) : Along exec P s ops := by
  have hguard : Guarded exec (fun _ _ => True) s ops := along_of_forall (fun _ _ => trivial) s ops
  exact (Guarded.along (fun s op s' hi _ hok => hstep s op s' hi hok) hstay hinv hguard).2

/-- A guard that is exact for each step is exact for runs. -/
theorem along_iff_guarded (hexact : ∀ s op, I s → (P s op (commit exec s op) ↔ guard s op))
    (hkeep : ∀ s op s', I s → guard s op → exec op s = .ok s' → I s') :
    ∀ {s : σ} {ops : List ι}, I s → (Along exec P s ops ↔ Guarded exec guard s ops) := by
  intro s ops
  induction ops generalizing s with
  | nil => exact fun _ => Iff.rfl
  | cons op ops ih =>
    intro hinv
    have hnext : guard s op → I (commit exec s op) := by
      intro hguard
      rcases commit_cases exec s op with hok | hsame
      · exact hkeep s op _ hinv hguard hok
      · rw [hsame]; exact hinv
    constructor
    · intro ⟨hstep, hrest⟩
      have hguard := (hexact s op hinv).mp hstep
      exact ⟨hguard, (ih (hnext hguard)).mp hrest⟩
    · intro ⟨hguard, hrest⟩
      exact ⟨(hexact s op hinv).mpr hguard, (ih (hnext hguard)).mpr hrest⟩

/-- The same for runs in which no operation fails, where the guard has to be exact for steps that
    commit. -/
theorem along_iff_guarded_of_succeeds
    (hexact : ∀ s op s', I s → exec op s = .ok s' → (P s op s' ↔ guard s op))
    (hkeep : ∀ s op s', I s → guard s op → exec op s = .ok s' → I s') :
    ∀ {s : σ} {ops : List ι}, I s → Succeeds exec s ops →
      (Along exec P s ops ↔ Guarded exec guard s ops) := by
  intro s ops
  induction ops generalizing s with
  | nil => exact fun _ _ => Iff.rfl
  | cons op ops ih =>
    intro hinv ⟨hisOk, hrest⟩
    have hok := commit_of_isOk hisOk
    have hone := hexact s op _ hinv hok
    constructor
    · intro ⟨hstep, halong⟩
      have hguard := hone.mp hstep
      exact ⟨hguard, (ih (hkeep s op _ hinv hguard hok) hrest).mp halong⟩
    · intro ⟨hguard, hguarded⟩
      exact ⟨hone.mpr hguard, (ih (hkeep s op _ hinv hguard hok) hrest).mpr hguarded⟩

/-- What a guard that is exact for steps that commit says about runs: guarded ones have `P`, and
    those that have `P` are guarded if no operation fails. -/
theorem along_and_guarded
    (hexact : ∀ s op s', I s → exec op s = .ok s' → (P s op s' ↔ guard s op))
    (hkeep : ∀ s op s', I s → guard s op → exec op s = .ok s' → I s')
    (hstay : ∀ s op, I s → P s op s) (hinv : I s) :
    (Guarded exec guard s ops → Along exec P s ops) ∧
      (Succeeds exec s ops → Along exec P s ops → Guarded exec guard s ops) := by
  constructor
  · intro hguard
    refine (Guarded.along ?_ hstay hinv hguard).2
    exact fun s op s' hi hg hok => ⟨hkeep s op s' hi hg hok, (hexact s op s' hi hok).mpr hg⟩
  · exact fun hok => (along_iff_guarded_of_succeeds hexact hkeep hinv hok).mp

/-- A property of steps that holds of every guarded step holds along a guarded run. -/
theorem Guarded.along_of_step (hstep : ∀ s op s', guard s op → exec op s = .ok s' → P s op s')
    (hstay : ∀ s op, P s op s) (hguard : Guarded exec guard s ops) : Along exec P s ops :=
  (Guarded.along (I := fun _ => True) (fun s op s' _ hg hok => ⟨trivial, hstep s op s' hg hok⟩)
    (fun s op _ => hstay s op) trivial hguard).2

/-- Keys that are used up: if an operation commits only while its key is not used up and uses it
    up, and no operation gives a key back, then no two operations of a run that commit have one
    key. -/
theorem nodup_committed {κ : Type _} {key : ι → κ} {U : σ → κ → Prop}
    (huse : ∀ s op s', exec op s = .ok s' → ¬ U s (key op) ∧ U s' (key op))
    (hkeep : ∀ s op s' k, exec op s = .ok s' → U s k → U s' k) (s : σ) (ops : List ι) :
    ((committed exec s ops).map key).Nodup ∧
      ∀ k, U s k → k ∉ (committed exec s ops).map key := by
  induction ops generalizing s with
  | nil => simp [committed]
  | cons op ops ih =>
    obtain ⟨hnodup, hfree⟩ := ih (commit exec s op)
    by_cases hisOk : (exec op s).isOk = true
    · have hok := commit_of_isOk hisOk
      have hused := huse s op _ hok
      simp only [committed, hisOk, if_true, List.map_cons, List.nodup_cons, List.mem_cons, not_or]
      refine ⟨⟨hfree _ hused.2, hnodup⟩, fun k hk => ⟨?_, hfree k (hkeep s op _ k hok hk)⟩⟩
      rintro rfl
      exact hused.1 hk
    · have hsame : commit exec s op = s := by
        rcases commit_cases exec s op with hok | hsame
        · rw [hok] at hisOk
          exact absurd rfl hisOk
        · exact hsame
      rw [hsame] at hnodup hfree
      simp only [committed, hisOk, hsame, if_false]
      exact ⟨hnodup, hfree⟩

end Machine
