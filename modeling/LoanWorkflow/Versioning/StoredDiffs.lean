import LoanWorkflow.Versioning.Governance

/-! # Stored diffs

    A diff is stored under its two versions and never computed again. Versions
    that have left the drafts are frozen, but a diff may be asked for while
    one of its sides is still a draft, and an edit of this draft leaves the
    stored row as it was.

    - `diffs_current_iff`: the diffs are current along a run exactly if all
      edits are such
-/

namespace LoanWorkflow

open Table Machine

/-! ## Current diffs -/

/-- Every stored diff is what the comparison of its two versions gives now. -/
def DiffsCurrent (s : Catalog) : Prop :=
  ∀ k row, s.versionDiffs.get? k = some row → ∃ old new,
    s.caseTypes.get? row.fromCaseTypeId = some old ∧
    s.caseTypes.get? row.toCaseTypeId = some new ∧
    row.diff = computeCaseTypeVersionDiff old new

/-- The version `k` after an edit of the version `caseTypeId`. -/
def editedVersion (caseTypeId : Id) (newConfig : CaseTypeConfig) (k : Id) (ct : CaseType) :
    CaseType :=
  if k = caseTypeId then { ct with config := newConfig, ttlDays := none } else ct

/-- An edit of a draft that changes no diff that has been stored for it. -/
def KeepsDiffs (s : Catalog) : VersionOp → Prop
  | .update caseTypeId newConfig =>
    ∀ draft, s.caseTypes.get? caseTypeId = some draft → draft.status = .draft →
      ∀ k row, s.versionDiffs.get? k = some row → ∀ old new,
        s.caseTypes.get? row.fromCaseTypeId = some old →
        s.caseTypes.get? row.toCaseTypeId = some new →
        computeCaseTypeVersionDiff (editedVersion caseTypeId newConfig row.fromCaseTypeId old)
          (editedVersion caseTypeId newConfig row.toCaseTypeId new) =
        computeCaseTypeVersionDiff old new
  | _ => True

/-! ## Steps -/

/-- The fields of a version that a diff reads. -/
def CaseType.content (ct : CaseType) : CaseTypeConfig × String × Option String :=
  (ct.config, ct.name, ct.description)

theorem diff_of_content {old old' new new' : CaseType} (hold : old'.content = old.content)
    (hnew : new'.content = new.content) :
    computeCaseTypeVersionDiff old' new' = computeCaseTypeVersionDiff old new := by
  simp only [CaseType.content, Prod.mk.injEq] at hold hnew
  obtain ⟨hconfig, hname, hdescription⟩ := hold
  obtain ⟨hconfig', hname', hdescription'⟩ := hnew
  cases old
  cases new
  subst hconfig hname hdescription hconfig' hname' hdescription'
  rfl

section Steps

variable {lib : CaseMapping} {s s' : Catalog}

/-- Diffs stay current while the versions keep their content. -/
theorem DiffsCurrent.of_keeps (h : DiffsCurrent s)
    (hkept : s.caseTypes.Keeps CaseType.content s'.caseTypes)
    (hrows : s'.versionDiffs = s.versionDiffs) : DiffsCurrent s' := by
  intro k row hrow
  rw [hrows] at hrow
  obtain ⟨old, new, hold, hnew, hdiff⟩ := h k row hrow
  obtain ⟨old', hold', hsameOld⟩ := hkept _ old hold
  obtain ⟨new', hnew', hsameNew⟩ := hkept _ new hnew
  exact ⟨old', new', hold', hnew', hdiff.trans (diff_of_content hsameOld hsameNew).symm⟩

theorem DiffsCurrent.store (h : DiffsCurrent s)
    (hkept : s.caseTypes.Keeps CaseType.content s'.caseTypes)
    (hrows : StoresDiff s'.caseTypes s.versionDiffs s'.versionDiffs) : DiffsCurrent s' := by
  rcases hrows with hrows | ⟨row, old, new, hold, hnew, hdiff, hrows⟩
  · exact h.of_keeps hkept hrows
  · have hbefore : DiffsCurrent { s' with versionDiffs := s.versionDiffs } := h.of_keeps hkept rfl
    intro k found hfound
    rw [hrows, get?_insert] at hfound
    split at hfound
    · obtain rfl := Option.some.inj hfound
      exact ⟨old, new, hold, hnew, hdiff⟩
    · exact hbefore k found hfound

/-- Every step but an edit keeps the diffs current. -/
theorem diffsCurrent_exec {op : VersionOp}
    (hop : ∀ caseTypeId newConfig, op ≠ .update caseTypeId newConfig)
    (h : DiffsCurrent s) (hok : op.exec lib s = .ok s') : DiffsCurrent s' := by
  unfold VersionOp.exec at hok
  cases op with
  | create caseTypeCode name description config =>
    obtain ⟨ct, -, -, -, -, htable, hrows⟩ := createCaseTypeDraftVersion_inv hok
    apply h.of_keeps _ hrows
    rw [htable]
    exact .insert ct
  | update caseTypeId newConfig => exact absurd rfl (hop caseTypeId newConfig)
  | activate now caseTypeId activatedBy =>
    obtain ⟨target, -, -, -, htable, hrows⟩ := activateCaseTypeVersion_inv hok
    refine h.store ?_ hrows
    rw [htable]
    refine Keeps.trans ?_ (.updateAt fun _ => rfl)
    unfold deprecatedTable
    split
    · exact .refl _ _
    · exact .updateAt fun _ => rfl
  | deprecateVersion now caseTypeId deprecatedBy =>
    obtain ⟨target, _, _, -, -, -, htable, hrows⟩ := deprecateCaseTypeVersion_inv hok
    apply h.of_keeps _ hrows
    rw [htable]
    exact .updateAt fun _ => rfl
  | diff fromVerId toVerId =>
    obtain ⟨d, hdiff⟩ := diffCaseTypeVersions_eq_ok hok
    obtain ⟨htable, hrows⟩ := diffCaseTypeVersionsTx_inv hdiff
    exact h.store (.of_eq htable) hrows
  | materialize rows =>
    cases hok
    exact h

/-- An edit keeps the diffs current exactly if it changes none that has been stored. -/
theorem diffsCurrent_update {caseTypeId : Id} {newConfig : CaseTypeConfig} (h : DiffsCurrent s)
    (hok : updateCaseTypeDraftConfig caseTypeId newConfig s = .ok s') :
    DiffsCurrent s' ↔ KeepsDiffs s (.update caseTypeId newConfig) := by
  obtain ⟨draft, hget, hdraft, htable, hrows⟩ := updateCaseTypeDraftConfig_inv hok
  have hlookup : ∀ k, s'.caseTypes.get? k =
      (s.caseTypes.get? k).map (editedVersion caseTypeId newConfig k) := by
    intro k
    rw [htable, get?_updateAt]
    unfold editedVersion
    split
    · rfl
    · exact Option.map_id'.symm
  constructor
  · intro hcurrent _ _ _ k row hrow old new hold hnew
    obtain ⟨old₁, new₁, hold₁, hnew₁, hdiff₁⟩ := hcurrent k row (by rw [hrows]; exact hrow)
    obtain ⟨old₂, new₂, hold₂, hnew₂, hdiff₂⟩ := h k row hrow
    rw [hlookup, hold] at hold₁
    rw [hlookup, hnew] at hnew₁
    rw [hold] at hold₂
    rw [hnew] at hnew₂
    cases hold₁
    cases hnew₁
    cases hold₂
    cases hnew₂
    rw [← hdiff₁, hdiff₂]
  · intro hkeeps k row hrow
    rw [hrows] at hrow
    obtain ⟨old, new, hold, hnew, hdiff⟩ := h k row hrow
    refine ⟨_, _, by rw [hlookup, hold]; rfl, by rw [hlookup, hnew]; rfl, ?_⟩
    rw [hdiff, hkeeps draft hget hdraft k row hrow old new hold hnew]

end Steps

/-! ## Runs -/

/-- From a catalogue whose diffs are current, they are current after every step of a run exactly
    if every edit of a draft leaves the diffs that are stored for it as they are. -/
theorem diffs_current_iff (lib : CaseMapping) (s : Catalog) (ops : List VersionOp)
    (hstart : DiffsCurrent s) :
    Along (VersionOp.exec lib) (fun _ _ s' => DiffsCurrent s') s ops ↔
      Guarded (VersionOp.exec lib) KeepsDiffs s ops := by
  have hexact : ∀ s op, DiffsCurrent s →
      (DiffsCurrent (commit (VersionOp.exec lib) s op) ↔ KeepsDiffs s op) := by
    intro s op h
    by_cases hop : ∀ caseTypeId newConfig, op ≠ .update caseTypeId newConfig
    · have hkeeps : KeepsDiffs s op := by
        cases op with
        | update caseTypeId newConfig => exact absurd rfl (hop caseTypeId newConfig)
        | _ => trivial
      refine iff_of_true ?_ hkeeps
      rcases commit_cases (VersionOp.exec lib) s op with hok | hsame
      · exact diffsCurrent_exec hop h hok
      · rw [hsame]
        exact h
    · push Not at hop
      obtain ⟨caseTypeId, newConfig, rfl⟩ := hop
      cases hrun : updateCaseTypeDraftConfig caseTypeId newConfig s with
      | ok s' =>
        have hexec : (VersionOp.update caseTypeId newConfig).exec lib s = .ok s' := hrun
        rw [commit_ok hexec]
        exact diffsCurrent_update h hrun
      | error e =>
        -- the edit is refused: the version is missing or frozen
        have hexec : (VersionOp.update caseTypeId newConfig).exec lib s = .error e := hrun
        rw [commit, hexec]
        refine iff_of_true h fun draft hget hdraft => ?_
        rw [updateCaseTypeDraftConfig, hget] at hrun
        dsimp only at hrun
        rw [if_neg (not_not.mpr hdraft)] at hrun
        cases hrun
  refine along_iff_guarded hexact (fun s op s' h hkeeps hok => ?_) hstart
  rw [← commit_ok hok]
  exact (hexact s op h).mpr hkeeps

/-- Two drafts of one code, and an edit of the second before a diff is asked for. -/
def editedBeforeDiff : List VersionOp :=
  [.create "LOAN" "Loan" "" (releaseConfig "INTAKE"),
    .create "LOAN" "Loan" "" (releaseConfig "INTAKE"),
    .update 1 (releaseConfig "REVIEW"), .diff 0 1]

theorem diffsCurrent_empty : DiffsCurrent {} := by
  intro k row hrow
  cases hrow

theorem diffs_current_iff_editedBeforeDiff : DiffsCurrent {} ∧
    Along (VersionOp.exec asciiMapping) (fun _ _ s' => DiffsCurrent s') {}
      editedBeforeDiff := by
  refine ⟨diffsCurrent_empty, (diffs_current_iff asciiMapping {} editedBeforeDiff
    diffsCurrent_empty).mpr ⟨trivial, trivial, ?_, trivial, trivial⟩⟩
  intro draft _ _ k row hrow
  cases hrow

def editedBehindDiff : List VersionOp :=
  [.create "LOAN" "Loan" "" (releaseConfig "INTAKE"),
    .create "LOAN" "Loan" "" (releaseConfig "INTAKE"),
    .diff 0 1, .update 1 (releaseConfig "REVIEW")]

/-- The stored diff still says that no stage has been added. -/
theorem stored_diff_stale :
    ¬ DiffsCurrent (run (VersionOp.exec asciiMapping) {} editedBehindDiff) := by
  intro h
  have hstored : ((run (VersionOp.exec asciiMapping) {} editedBehindDiff).versionDiffs.get? 0).map
      (fun row => (row.fromCaseTypeId, row.toCaseTypeId, row.diff.stagesAdded.length)) =
      some (0, 1, 0) := by decide +kernel
  have hnow : ((run (VersionOp.exec asciiMapping) {} editedBehindDiff).caseTypes.get? 0).bind
      (fun old => ((run (VersionOp.exec asciiMapping) {} editedBehindDiff).caseTypes.get? 1).map
        fun new => (computeCaseTypeVersionDiff old new).stagesAdded.length) = some 1 := by
    decide +kernel
  obtain ⟨row, hrow, hfields⟩ := Option.map_eq_some_iff.mp hstored
  obtain ⟨old, new, hold, hnew, hdiff⟩ := h 0 row hrow
  rw [Prod.mk.injEq, Prod.mk.injEq] at hfields
  obtain ⟨hfrom, hto, hlength⟩ := hfields
  rw [hfrom] at hold
  rw [hto] at hnew
  rw [hold, hnew] at hnow
  rw [hdiff] at hlength
  have hone : (computeCaseTypeVersionDiff old new).stagesAdded.length = 1 := Option.some.inj hnow
  omega

end LoanWorkflow
