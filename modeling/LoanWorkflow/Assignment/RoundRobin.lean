import LoanWorkflow.Framework.RoundRobin
import LoanWorkflow.Model.Store
import Mathlib.Data.List.Chain

/-! # Round robin assignment

    `RoundRobinAssignmentEngine.FindCandidate` picks the eligible member of a
    workbasket whose id comes after the cursor, with a second query for the
    start of the order, and moves the cursor to its pick. Ids are texts in the
    order of the collation.

    - `round_robin_fair`
-/

namespace LoanWorkflow

open List RoundRobin

variable {ι : Type} [LinearOrder ι]

/-- A row of `workers`. -/
structure WorkerRow (ι : Type) where
  id : ι
  active : Bool
  maxConcurrentTasks : Int

/-- What the query of the eligible members reads. -/
structure Roster (ι : Type) where
  now : Instant
  workers : List (WorkerRow ι)
  /-- `workbasket_members`. -/
  members : List (Id × ι)
  /-- `worker_availability`, the times out of office. -/
  absences : List (ι × Instant × Instant)
  /-- The assignees of the tasks in progress. -/
  inProgress : List ι

/-- `eligible_members`. -/
def Roster.eligible (r : Roster ι) (basket : Id) : List ι :=
  (r.members.filter (fun m => m.1 == basket &&
    r.workers.any (fun w => w.id == m.2 && w.active &&
      decide ((r.inProgress.count w.id : Int) < w.maxConcurrentTasks)) &&
    !r.absences.any (fun a => a.1 == m.2 && decide (a.2.1 ≤ r.now) && decide (r.now ≤ a.2.2)))).map
    Prod.snd

/-- The cursors are those of the workbaskets; `blank` is the empty text. -/
def findCandidate (blank : ι) (r : Roster ι) (workbasketId : Option Id)
    (cursors : Table (Option ι)) : Except Err (ι × Table (Option ι)) := do
  let basket ← orFail workbasketId "task has no workbasket ID"
  let eligible := r.eligible basket
  let later := (cursors.get? basket).bind fun cursor =>
    (eligible.filter (cursor.getD blank < ·)).min?
  let workerId ← orFail (later <|> eligible.min?) "no eligible worker"
  return (workerId, cursors.updateAt basket (fun _ => some workerId))

/-- Calls for one workbasket, one after the other. -/
def findCandidates (blank : ι) (basket : Id) :
    List (Roster ι) → Table (Option ι) → Except Err (List ι)
  | [], _ => .ok []
  | r :: rosters, cursors => do
    let (workerId, cursors) ← findCandidate blank r (some basket) cursors
    let picks ← findCandidates blank basket rosters cursors
    return workerId :: picks

theorem findCandidates_isChain (blank : ι) {basket : Id} {rosters : List (Roster ι)}
    {cursors : Table (Option ι)} {cursor : Option ι} {members : Finset ι}
    (hcursor : cursors.get? basket = some cursor) (hne : members.Nonempty)
    (hmembers : ∀ r ∈ rosters, (r.eligible basket).toFinset = members) :
    ∃ picks, findCandidates blank basket rosters cursors = .ok picks ∧
      picks.length = rosters.length ∧
      (cursor.getD blank :: picks).IsChain (IsNext members) := by
  induction rosters generalizing cursors cursor with
  | nil => exact ⟨[], rfl, rfl, .singleton _⟩
  | cons r rosters ih =>
    obtain ⟨hfirst, hrest⟩ := forall_mem_cons.mp hmembers
    obtain ⟨pick, hpick⟩ : ∃ pick, ((r.eligible basket |>.filter (cursor.getD blank < ·)).min? <|>
        (r.eligible basket).min?) = some pick := by
      obtain ⟨m, hm⟩ := hne
      rw [← hfirst, mem_toFinset] at hm
      rw [← Option.isSome_iff_exists]
      simp [isSome_min?_of_mem hm]
    obtain ⟨picks, hfind, hlength, hchain⟩ :=
      ih (Table.get?_updateAt_of_get? (f := fun _ => some pick) hcursor) hrest
    refine ⟨pick :: picks, ?_, by simp [hlength], .cons_cons (hfirst ▸ isNext_of_min? hpick) hchain⟩
    simp only [findCandidates, findCandidate, orFail, bind, Except.bind, pure, Except.pure, hcursor,
      Option.bind_some, hpick, hfind]

/-- Every member is picked equally often, up to one, and once in every round. -/
theorem round_robin_fair (blank : ι) (basket : Id) (rosters : List (Roster ι))
    (cursors : Table (Option ι)) (cursor : Option ι) (members : Finset ι)
    (hcursor : cursors.get? basket = some cursor) (hne : members.Nonempty)
    (hmembers : ∀ r ∈ rosters, (r.eligible basket).toFinset = members) :
    ∃ picks, findCandidates blank basket rosters cursors = .ok picks ∧
      (∀ m ∈ members, picks.count m = rosters.length / members.card ∨
        picks.count m = (rosters.length + members.card - 1) / members.card) ∧
      ∀ before round after, picks = before ++ round ++ after → round.length = members.card →
        ∀ m ∈ members, round.count m = 1 := by
  obtain ⟨picks, hfind, hlength, hchain⟩ :=
    findCandidates_isChain blank hcursor hne hmembers
  have hn := hne.card_pos
  refine ⟨picks, hfind, fun m hm => ?_, ?_⟩
  · have hcount := count_of_picks hchain hm
    rw [hlength] at hcount
    generalize hturn : _ % members.card = turn at hcount
    have hlt : turn < members.card := hturn ▸ Nat.mod_lt _ hn
    have hlow := Nat.div_le_div_right (c := members.card) (Nat.le_add_right rosters.length turn)
    have hhigh := Nat.div_le_div_right (c := members.card)
      (show rosters.length + turn ≤ rosters.length + members.card - 1 by omega)
    have hnear := Nat.div_le_div_right (c := members.card)
      (show rosters.length + members.card - 1 ≤ rosters.length + members.card by omega)
    rw [Nat.add_div_right _ hn] at hnear
    omega
  · rintro before round after rfl hround m hm
    -- the round starts after the last pick before it, or after the cursor
    obtain ⟨init, last, hinit⟩ := (eq_nil_or_concat (cursor.getD blank :: before)).resolve_left
      (cons_ne_nil _ _)
    rw [append_assoc, ← cons_append, hinit, concat_append, ← cons_append] at hchain
    rw [count_of_picks hchain.right_of_append.left_of_append hm, hround, Nat.add_div_left _ hn,
      Nat.div_eq_of_lt (Nat.mod_lt _ hn)]

def twoMembers : Roster Nat where
  now := 0
  workers := [⟨3, true, 5⟩, ⟨2, true, 5⟩]
  members := [(0, 3), (0, 2)]
  absences := []
  inProgress := [2]

theorem round_robin_fair_twoMembers :
    ∃ picks, findCandidates 0 0 [twoMembers, twoMembers] (Table.empty.insert none) = .ok picks ∧
      picks.count 3 = 1 := by
  obtain ⟨picks, hfind, hcount, -⟩ := round_robin_fair 0 0 [twoMembers, twoMembers]
    (Table.empty.insert none) none {2, 3} (by decide) (by decide) (by decide)
  exact ⟨picks, hfind, (hcount 3 (by decide)).elim id id⟩

end LoanWorkflow
