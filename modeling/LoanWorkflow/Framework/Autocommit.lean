import Mathlib.Tactic.Common

/-! # Statements that commit one by one

    A program on a connection without a transaction. Every statement commits
    as it is executed, so a program that fails keeps what its earlier
    statements wrote. A run gives the outcome and the state that is left.

    - `read`, `write`, `fail`: the statements
    - `execute`: a statement that may meet a fault
    - `transaction`: statements that commit together
    - `attempt`: a program whose failure is ignored
    - `Moves`: a relation between the states before and after every run
    - `ReadOnly`: every run leaves the state as it was
    - `Refines`: a program that does what a transaction does, where that commits
-/

/-- A program whose statements commit one by one: the outcome, and the state that is left. -/
structure Autocommit (σ ε α : Type) where
  run : σ → Except ε α × σ

namespace Autocommit

variable {σ ε α β : Type}

/-! ### Programs -/

/-- Go on with the result of a program that succeeds. -/
def andThen (x : Autocommit σ ε α) (f : α → Autocommit σ ε β) : Autocommit σ ε β where
  run s := match x.run s with
    | (.ok a, s') => (f a).run s'
    | (.error e, s') => (.error e, s')

instance : Monad (Autocommit σ ε) where
  pure a := ⟨fun s => (.ok a, s)⟩
  bind := andThen

/-- Read the state; reading may fail. -/
def read (f : σ → Except ε α) : Autocommit σ ε α := ⟨fun s => (f s, s)⟩

def write (f : σ → σ) : Autocommit σ ε Unit := ⟨fun s => (.ok (), f s)⟩

/-- Give up. -/
def fail (e : ε) : Autocommit σ ε α := ⟨fun s => (.error e, s)⟩

/-- A statement that does nothing but fail if it meets a fault. -/
def execute (fault : Option ε) (x : Autocommit σ ε α) : Autocommit σ ε α :=
  match fault with
  | some e => fail e
  | none => x

/-- Statements that commit together; a failure leaves the state as it was. -/
def transaction (f : σ → Except ε (α × σ)) : Autocommit σ ε α where
  run s := match f s with
    | .ok (a, s') => (.ok a, s')
    | .error e => (.error e, s)

/-- A program whose failure is ignored. -/
def attempt (x : Autocommit σ ε Unit) : Autocommit σ ε Unit := ⟨fun s => (.ok (), (x.run s).2)⟩

/-! ### Outcomes -/

variable {x : Autocommit σ ε α} {f : α → Autocommit σ ε β} {s : σ} {a : α} {b : β}

theorem run_bind_of_ok (h : (x.run s).1 = .ok a) : (x >>= f).run s = (f a).run (x.run s).2 := by
  show (andThen x f).run s = _
  unfold andThen
  cases hx : x.run s with
  | mk outcome s' =>
    rw [hx] at h
    cases h
    simp only [hx]

theorem run_bind_of_run {s' : σ} (h : x.run s = (.ok a, s')) : (x >>= f).run s = (f a).run s' := by
  rw [run_bind_of_ok (by rw [h]), h]

theorem run_bind_of_error {e : ε} (h : (x.run s).1 = .error e) :
    (x >>= f).run s = (.error e, (x.run s).2) := by
  show (andThen x f).run s = _
  unfold andThen
  cases hx : x.run s with
  | mk outcome s' =>
    rw [hx] at h
    cases h
    simp only [hx]

/-- A sequence succeeds when both of its parts do. -/
theorem run_bind_eq_ok :
    ((x >>= f).run s).1 = .ok b ↔
      ∃ a, (x.run s).1 = .ok a ∧ ((f a).run (x.run s).2).1 = .ok b := by
  cases hx : (x.run s).1 with
  | error e =>
    rw [run_bind_of_error hx]
    constructor
    · intro h; cases h
    · rintro ⟨a, h, -⟩; cases h
  | ok a =>
    rw [run_bind_of_ok hx]
    constructor
    · exact fun h => ⟨a, rfl, h⟩
    · rintro ⟨a', h, h'⟩; cases h; exact h'

@[simp] theorem run_pure : (pure a : Autocommit σ ε α).run s = (.ok a, s) := rfl

@[simp] theorem run_read (f : σ → Except ε α) : (read f).run s = (f s, s) := rfl

@[simp] theorem run_write (f : σ → σ) : (write f : Autocommit σ ε Unit).run s = (.ok (), f s) := rfl

@[simp] theorem run_fail (e : ε) : (fail e : Autocommit σ ε α).run s = (.error e, s) := rfl

@[simp] theorem run_attempt (x : Autocommit σ ε Unit) :
    (attempt x).run s = (.ok (), (x.run s).2) := rfl

@[simp] theorem execute_none : execute none x = x := rfl

@[simp] theorem run_execute_read_state (fault : Option ε) (f : σ → Except ε α) :
    ((execute fault (read f)).run s).2 = s := by
  cases fault <;> rfl

theorem run_execute_eq_ok {fault : Option ε} :
    ((execute fault x).run s).1 = .ok a ↔ fault = none ∧ (x.run s).1 = .ok a := by
  cases fault with
  | none => simp
  | some e =>
    constructor
    · intro h; cases h
    · rintro ⟨h, -⟩; cases h

/-! ### What every run keeps -/

/-- Every run, whatever its outcome, relates the state it starts from to the state it leaves. -/
def Moves (R : σ → σ → Prop) (x : Autocommit σ ε α) : Prop := ∀ s, R s (x.run s).2

section moves

variable {R : σ → σ → Prop}

/-- A sequence keeps what its parts keep. -/
theorem Moves.bind (htrans : ∀ {s₁ s₂ s₃}, R s₁ s₂ → R s₂ s₃ → R s₁ s₃) (hx : Moves R x)
    (hf : ∀ a, Moves R (f a)) : Moves R (x >>= f) := by
  intro s
  cases h : (x.run s).1 with
  | error e => rw [run_bind_of_error h]; exact hx s
  | ok a => rw [run_bind_of_ok h]; exact htrans (hx s) (hf a _)

/-- A fault changes nothing. -/
theorem Moves.execute (hrefl : ∀ s, R s s) (fault : Option ε) (hx : Moves R x) :
    Moves R (execute fault x) := by
  intro s
  cases fault with
  | none => exact hx s
  | some e => exact hrefl s

theorem Moves.pure (hrefl : ∀ s, R s s) (a : α) : Moves R (pure a : Autocommit σ ε α) := hrefl

/-- A transaction that fails changes nothing. -/
theorem Moves.transaction (hrefl : ∀ s, R s s) {g : σ → Except ε (α × σ)}
    (hg : ∀ s a s', g s = .ok (a, s') → R s s') : Moves R (transaction g) := by
  intro s
  show R s (match g s with
    | .ok (a, s') => (Except.ok a, s')
    | .error e => (.error e, s)).2
  cases h : g s with
  | error e => exact hrefl s
  | ok r => exact hg s r.1 r.2 h

end moves

/-- A program that writes nothing. -/
def ReadOnly (x : Autocommit σ ε α) : Prop := Moves (fun s s' => s' = s) x

theorem ReadOnly.bind (hx : ReadOnly x) (hf : ∀ a, ReadOnly (f a)) : ReadOnly (x >>= f) :=
  Moves.bind (R := fun s s' => s' = s) (fun h h' => h'.trans h) hx hf

theorem ReadOnly.execute (fault : Option ε) (hx : ReadOnly x) : ReadOnly (execute fault x) :=
  Moves.execute (R := fun s s' => s' = s) (fun _ => rfl) fault hx

/-- From every state in which the transaction commits, the program succeeds and leaves the state
    that the transaction leaves. -/
def Refines (x : Autocommit σ ε Unit) (transact : σ → Except ε σ) : Prop :=
  ∀ s s', transact s = .ok s' → x.run s = (.ok (), s')

end Autocommit
