import LoanWorkflow.Versioning.Governance

/-! # Histories of the versions of one code

    Over every run of the operations on the catalogue, at most one version of
    a code is active, a code that has an active version keeps one, version
    numbers grow, and a version that has left the drafts keeps a valid
    configuration.

    - `versions_governed`: both, over every run
-/

namespace LoanWorkflow

open Table Machine

variable {ct row : CaseType} {caseTypeId k : Id} {now : Instant} {previous : Option (Id × CaseType)}
  {t : Table CaseType}

/-! ## The invariant -/

/-- The versions of the code `code` are governed. -/
structure Governed (lib : CaseMapping) (code : String) (t : Table CaseType) : Prop where
  /-- The code is written as the operations write it. -/
  normal : lib.normalize code = code
  /-- No version spells the code in another way. -/
  spelled : ∀ k ct, t.get? k = some ct → lib.normalize ct.code = code → ct.code = code
  /-- At most one version is active. -/
  one_active : ∀ j k a b, t.get? j = some a → t.get? k = some b → a.code = code → b.code = code →
    a.status = .active → b.status = .active → j = k
  /-- Version numbers are distinct. -/
  distinct : ∀ j k a b, t.get? j = some a → t.get? k = some b → a.code = code → b.code = code →
    a.version = b.version → j = k
  /-- A version that is not a draft has a valid configuration. -/
  valid : ∀ k ct, t.get? k = some ct → ct.code = code → ct.status ≠ .draft →
    validateCaseTypeConfig ct.config = []

def HasActive (code : String) (t : Table CaseType) : Prop :=
  ∃ k ct, t.get? k = some ct ∧ ct.code = code ∧ ct.status = .active

/-- The versions of the code `code` are kept. -/
structure VersionsKept (code : String) (t t' : Table CaseType) : Prop where
  /-- The number of a new version exceeds all earlier ones. -/
  newer : ∀ k ct, t.get? k = none → t'.get? k = some ct → ct.code = code →
    ∀ j old, t.get? j = some old → old.code = code → old.version < ct.version
  /-- No version is lost, and the configuration of one that is not a draft never changes. -/
  frozen : ∀ k ct, t.get? k = some ct → ct.code = code → ∃ ct', t'.get? k = some ct' ∧
    ct'.code = code ∧ ct'.version = ct.version ∧
    (ct.status ≠ .draft → ct'.status ≠ .draft ∧ ct'.config = ct.config)

/-- What a step does to the versions of the code `code`. -/
structure GovernedStep (code : String) (t t' : Table CaseType) : Prop
    extends VersionsKept code t t' where
  /-- The code keeps an active version. -/
  active : HasActive code t → HasActive code t'

theorem Governed.of_no_versions {lib : CaseMapping} {code : String}
    (hnormal : lib.normalize code = code)
    (h : ∀ k ct, t.get? k = some ct → lib.normalize ct.code ≠ code) : Governed lib code t := by
  have hnone : ∀ k ct, t.get? k = some ct → ct.code ≠ code := by
    intro k ct hct hcode
    apply h k ct hct
    rw [hcode, hnormal]
  refine ⟨hnormal, ?_, ?_, ?_, ?_⟩
  · intro k ct hct hcode
    exact absurd hcode (h k ct hct)
  · intro j _ a _ ha _ hcode
    exact absurd hcode (hnone j a ha)
  · intro j _ a _ ha _ hcode
    exact absurd hcode (hnone j a ha)
  · intro k ct hct hcode
    exact absurd hcode (hnone k ct hct)

theorem VersionsKept.refl (code : String) (t : Table CaseType) : VersionsKept code t t where
  newer := fun k ct hnone hsome => by rw [hnone] at hsome; cases hsome
  frozen := fun _ ct hct hcode => ⟨ct, hct, hcode, rfl, fun h => ⟨h, rfl⟩⟩

/-! ## One version is rewritten -/

section Rewrite

variable {lib : CaseMapping} {code : String} {f : CaseType → CaseType}

/-- Governance survives a new row `ct` at `k`, if it is valid once it is no draft, and the only
    one that is active and the only one with its number. -/
theorem Governed.of_row {t' : Table CaseType} (hgov : Governed lib code t)
    (hrows : ∀ {j row}, t'.get? j = some row → j = k ∧ row = ct ∨ t.get? j = some row)
    (hspelled : lib.normalize ct.code = code → ct.code = code)
    (honly : ct.code = code → ct.status = .active → ∀ j row, t.get? j = some row →
      row.code = code → row.status = .active → j = k)
    (hnumber : ct.code = code → ∀ j row, t.get? j = some row → row.code = code →
      row.version = ct.version → j = k)
    (hvalid : ct.code = code → ct.status ≠ .draft → validateCaseTypeConfig ct.config = []) :
    Governed lib code t' where
  normal := hgov.normal
  spelled j row hrow hnorm := by
    rcases hrows hrow with ⟨-, rfl⟩ | hrow
    · exact hspelled hnorm
    · exact hgov.spelled j row hrow hnorm
  one_active i j a b ha hb hacode hbcode haactive hbactive := by
    rcases hrows ha with ⟨rfl, rfl⟩ | ha <;> rcases hrows hb with ⟨rfl, rfl⟩ | hb
    · rfl
    · exact (honly hacode haactive j b hb hbcode hbactive).symm
    · exact honly hbcode hbactive i a ha hacode haactive
    · exact hgov.one_active i j a b ha hb hacode hbcode haactive hbactive
  distinct i j a b ha hb hacode hbcode hsame := by
    rcases hrows ha with ⟨rfl, rfl⟩ | ha <;> rcases hrows hb with ⟨rfl, rfl⟩ | hb
    · rfl
    · exact (hnumber hacode j b hb hbcode hsame.symm).symm
    · exact hnumber hbcode i a ha hacode hsame
    · exact hgov.distinct i j a b ha hb hacode hbcode hsame
  valid j row hrow hrcode hstatus := by
    rcases hrows hrow with ⟨-, rfl⟩ | hrow
    · exact hvalid hrcode hstatus
    · exact hgov.valid j row hrow hrcode hstatus

/-- A rewrite that keeps code and number. -/
theorem Governed.updateAt (hgov : Governed lib code t) (hget : t.get? k = some ct)
    (hcode : (f ct).code = ct.code) (hversion : (f ct).version = ct.version)
    (hvalid : ct.code = code → (f ct).status ≠ .draft →
      validateCaseTypeConfig (f ct).config = [])
    (honly : ct.code = code → (f ct).status = .active → ∀ j row, t.get? j = some row →
      row.code = code → row.status = .active → j = k) : Governed lib code (t.updateAt k f) := by
  refine hgov.of_row (fun hrow => (get?_updateAt_cases hget hrow).imp_right And.right) ?_
    (hcode ▸ honly) ?_ (hcode ▸ hvalid)
  · rw [hcode]
    exact hgov.spelled k ct hget
  · intro hc j row hrow hrcode hsame
    exact hgov.distinct j k row ct hrow hget hrcode (hcode.symm.trans hc) (hsame.trans hversion)

/-- A rewrite that freezes what is not a draft keeps the versions. -/
theorem VersionsKept.updateAt {t₀ : Table CaseType} (hkept : VersionsKept code t₀ t)
    (hget : t.get? k = some ct) (hcode : (f ct).code = ct.code)
    (hversion : (f ct).version = ct.version)
    (hfrozen : ct.status ≠ .draft → (f ct).status ≠ .draft ∧ (f ct).config = ct.config) :
    VersionsKept code t₀ (t.updateAt k f) where
  newer := fun j row hnone hrow hrcode i old hold hocode => by
    rcases get?_updateAt_cases hget hrow with ⟨rfl, rfl⟩ | ⟨-, hrow⟩
    · rw [hversion]
      exact hkept.newer j ct hnone hget (hcode.symm.trans hrcode) i old hold hocode
    · exact hkept.newer j row hnone hrow hrcode i old hold hocode
  frozen := fun j row hrow hrcode => by
    obtain ⟨row', hrow', hcode', hversion', hconfig'⟩ := hkept.frozen j row hrow hrcode
    by_cases hj : j = k
    · subst hj
      rw [hget] at hrow'
      obtain rfl := Option.some.inj hrow'
      refine ⟨f ct, get?_updateAt_of_get? hget, hcode.trans hcode',
        hversion.trans hversion', fun h => ?_⟩
      obtain ⟨hstatus, hsame⟩ := hconfig' h
      exact ⟨(hfrozen hstatus).1, (hfrozen hstatus).2.trans hsame⟩
    · exact ⟨row', by rw [get?_updateAt_ne hj]; exact hrow', hcode', hversion', hconfig'⟩

end Rewrite

/-! ## The steps -/

section Steps

variable {lib : CaseMapping} {code : String} {s s' : Catalog}

theorem le_maxVersion {s : Store} (h : s.caseTypes.get? k = some ct) :
    ct.version ≤ maxVersion s ct.code := by
  have hfold : ∀ (l : List Int) (m x : Int), x ≤ m ∨ x ∈ l → x ≤ l.foldl max m := by
    intro l
    induction l with
    | nil => simp
    | cons y l ih =>
      intro m x hx
      apply ih
      rcases hx with hle | hmem
      · exact .inl (Int.le_trans hle (Int.le_max_left m y))
      · rcases List.mem_cons.mp hmem with rfl | hmem
        · exact .inl (Int.le_max_right m _)
        · exact .inr hmem
  apply hfold
  right
  rw [List.mem_map]
  exact ⟨(k, ct), List.mem_filter.mpr ⟨get?_eq_some_iff.mp h, by simp⟩, rfl⟩

theorem governed_create {caseTypeCode name description : String} {config : CaseTypeConfig}
    (hgov : Governed lib code s.caseTypes)
    (h : createCaseTypeDraftVersion lib caseTypeCode name description config s = .ok s') :
    Governed lib code s'.caseTypes ∧ GovernedStep code s.caseTypes s'.caseTypes := by
  obtain ⟨ct, hcode, hdraft, hversion, -, htable, -⟩ := createCaseTypeDraftVersion_inv h
  rw [htable]
  have hnewer : ∀ j old, s.caseTypes.get? j = some old → old.code = ct.code →
      old.version < ct.version := by
    intro j old hold hsame
    have := le_maxVersion hold
    rw [hsame] at this
    omega
  have hrows : ∀ {j row}, (s.caseTypes.insert ct).get? j = some row →
      j = s.caseTypes.fresh ∧ row = ct ∨ s.caseTypes.get? j = some row := by
    intro j row hrow
    rw [get?_insert] at hrow
    split at hrow
    · next hj => exact .inl ⟨hj, (Option.some.inj hrow).symm⟩
    · exact .inr hrow
  constructor
  · refine hgov.of_row hrows ?_ (fun _ hactive => ?_) ?_ fun _ hstatus => absurd hdraft hstatus
    · rw [hcode, CaseMapping.normalize_normalize]
      exact id
    · rw [hdraft] at hactive
      cases hactive
    · intro hc j row hrow hrcode hsame
      have := hnewer j row hrow (hrcode.trans hc.symm)
      omega
  · refine ⟨⟨?_, ?_⟩, ?_⟩
    · intro j row hnone hrow hrcode i old hold hocode
      rcases hrows hrow with ⟨-, rfl⟩ | hrow
      · exact hnewer i old hold (hocode.trans hrcode.symm)
      · rw [hnone] at hrow
        cases hrow
    · intro j row hrow hrcode
      exact ⟨row, get?_insert_of_get? hrow, hrcode, rfl, fun h => ⟨h, rfl⟩⟩
    · intro ⟨j, row, hrow, hrest⟩
      exact ⟨j, row, get?_insert_of_get? hrow, hrest⟩

/-- A rewrite of a version of another status leaves the active versions. -/
theorem HasActive.updateAt {f : CaseType → CaseType}
    (hget : t.get? k = some ct) (hother : ct.code = code → ct.status ≠ .active)
    (h : HasActive code t) : HasActive code (t.updateAt k f) := by
  obtain ⟨j, row, hrow, hrcode, hactive⟩ := h
  refine ⟨j, row, ?_, hrcode, hactive⟩
  rw [get?_updateAt_ne]
  · exact hrow
  · intro hj
    rw [hj, hget] at hrow
    obtain rfl := Option.some.inj hrow
    exact hother hrcode hactive

theorem governed_update {newConfig : CaseTypeConfig} (hgov : Governed lib code s.caseTypes)
    (h : updateCaseTypeDraftConfig caseTypeId newConfig s = .ok s') :
    Governed lib code s'.caseTypes ∧ GovernedStep code s.caseTypes s'.caseTypes := by
  obtain ⟨ct, hget, hdraft, htable, -⟩ := updateCaseTypeDraftConfig_inv h
  rw [htable]
  constructor
  · apply hgov.updateAt hget rfl rfl
    · intro _ hstatus
      exact absurd hdraft hstatus
    · intro _ hactive
      rw [show ct.status = .active from hactive] at hdraft
      cases hdraft
  · refine ⟨(VersionsKept.refl code s.caseTypes).updateAt hget rfl rfl ?_, ?_⟩
    · intro hstatus
      exact absurd hdraft hstatus
    · apply HasActive.updateAt hget
      intro _
      rw [hdraft]
      decide

theorem governed_deprecate {deprecatedBy : String} (hgov : Governed lib code s.caseTypes)
    (h : deprecateCaseTypeVersion lib now caseTypeId deprecatedBy s = .ok s') :
    Governed lib code s'.caseTypes ∧ GovernedStep code s.caseTypes s'.caseTypes := by
  obtain ⟨target, otherId, other, hget, hactive, hother, htable, -⟩ :=
    deprecateCaseTypeVersion_inv h
  obtain ⟨hoget, hocode, hoactive, hne⟩ := mem_activeVersions.mp hother
  -- a second active version is what the code asks for, and no governed code has one
  have hcode : target.code ≠ code := by
    intro hcode
    rw [hcode, hgov.normal] at hocode
    exact hne (hgov.one_active _ _ other target hoget hget hocode hcode hoactive hactive)
  rw [htable]
  constructor
  · apply hgov.updateAt hget rfl rfl
    · intro hc
      exact absurd hc hcode
    · intro hc
      exact absurd hc hcode
  · refine ⟨(VersionsKept.refl code s.caseTypes).updateAt hget rfl rfl ?_, ?_⟩
    · intro _
      exact ⟨by simp, rfl⟩
    · apply HasActive.updateAt hget
      intro hc
      exact absurd hc hcode

/-- The table after the version that was active has been deprecated. -/
theorem governed_deprecatedTable (hgov : Governed lib code t)
    (hprevious : ∀ p ∈ previous, t.get? p.1 = some p.2 ∧ p.2.status = .active) :
    Governed lib code (deprecatedTable t previous) ∧
      VersionsKept code t (deprecatedTable t previous) := by
  match previous with
  | none => exact ⟨hgov, .refl code t⟩
  | some (previousId, previous) =>
    obtain ⟨hget, hactive⟩ := hprevious _ rfl
    constructor
    · apply hgov.updateAt hget rfl rfl
      · intro hcode _
        exact hgov.valid previousId previous hget hcode (by rw [hactive]; decide)
      · intro _ hstatus
        cases hstatus
    · apply (VersionsKept.refl code t).updateAt hget rfl rfl
      intro _
      exact ⟨by simp, rfl⟩

/-- The versions that a deprecation does not touch. -/
theorem get?_deprecatedTable
    (h : ∀ p ∈ previous, k ≠ p.1) : (deprecatedTable t previous).get? k = t.get? k := by
  match previous with
  | none => rfl
  | some (previousId, previous) => exact get?_updateAt_ne (h _ rfl)

/-- No version that an activation deprecates stays active. -/
theorem not_active_deprecatedTable {p : Id × CaseType} (hget : t.get? p.1 = some p.2)
    (h : (deprecatedTable t (some p)).get? p.1 = some row) : row.status ≠ .active := by
  rcases get?_updateAt_cases hget h with ⟨-, rfl⟩ | ⟨hne, -⟩
  · simp
  · exact absurd rfl hne

theorem governed_activate {activatedBy : String} (hgov : Governed lib code s.caseTypes)
    (h : activateCaseTypeVersion lib now caseTypeId activatedBy s = .ok s') :
    Governed lib code s'.caseTypes ∧ GovernedStep code s.caseTypes s'.caseTypes := by
  obtain ⟨target, hget, hdraft, hvalid, htable, -⟩ := activateCaseTypeVersion_inv h
  rw [htable]
  generalize hprev : (activeVersions s.toStore (lib.normalize target.code) caseTypeId).head? = previous
  have hprevious : ∀ p ∈ previous, s.caseTypes.get? p.1 = some p.2 ∧
      p.2.code = lib.normalize target.code ∧ p.2.status = .active ∧ p.1 ≠ caseTypeId := by
    intro p hp
    apply mem_activeVersions.mp
    apply List.mem_of_mem_head?
    rw [hprev]
    exact hp
  obtain ⟨hgov₁, hkept₁⟩ := governed_deprecatedTable hgov fun p hp =>
    ⟨(hprevious p hp).1, (hprevious p hp).2.2.1⟩
  have hget₁ : (deprecatedTable s.caseTypes previous).get? caseTypeId = some target := by
    rw [get?_deprecatedTable fun p hp => (hprevious p hp).2.2.2.symm]
    exact hget
  constructor
  · apply hgov₁.updateAt hget₁ rfl rfl
    · intro _ _
      exact hvalid
    · intro hcode _ j row hrow hrcode hactive
      by_contra hj
      match previous, hprev, hprevious, hrow with
      | none, hprev, _, hrow =>
        -- nothing was active, so the row is not
        have hmem : (j, row) ∈ activeVersions s.toStore (lib.normalize target.code) caseTypeId :=
          mem_activeVersions.mpr ⟨hrow, by rw [hcode, hgov.normal]; exact hrcode, hactive, hj⟩
        rw [List.head?_eq_none_iff.mp hprev] at hmem
        cases hmem
      | some p, _, hprevious, hrow =>
        obtain ⟨hpget, hpcode, hpactive, -⟩ := hprevious p rfl
        rw [hcode, hgov.normal] at hpcode
        by_cases hjp : j = p.1
        · subst hjp
          exact not_active_deprecatedTable hpget hrow hactive
        · rw [get?_deprecatedTable fun q hq => by cases hq; exact hjp] at hrow
          exact hjp (hgov.one_active j p.1 row p.2 hrow hpget hrcode hpcode hactive hpactive)
  · refine ⟨hkept₁.updateAt hget₁ rfl rfl fun hstatus => absurd hdraft hstatus, ?_⟩
    intro ⟨j, row, hrow, hrcode, hactive⟩
    by_cases hcode : target.code = code
    · exact ⟨caseTypeId, { target with status := .active },
        get?_updateAt_of_get? hget₁, hcode, rfl⟩
    · -- an activation of another code
      refine ⟨j, row, ?_, hrcode, hactive⟩
      rw [get?_updateAt_ne, get?_deprecatedTable]
      · exact hrow
      · intro p hp hj
        obtain ⟨hpget, hpcode, -, -⟩ := hprevious p hp
        rw [← hj, hrow] at hpget
        obtain rfl := Option.some.inj hpget
        exact hcode (hgov.spelled caseTypeId target hget (hpcode.symm.trans hrcode))
      · intro hj
        rw [hj, hget] at hrow
        obtain rfl := Option.some.inj hrow
        exact hcode hrcode

theorem governed_exec {op : VersionOp} (hgov : Governed lib code s.caseTypes)
    (h : op.exec lib s = .ok s') :
    Governed lib code s'.caseTypes ∧ GovernedStep code s.caseTypes s'.caseTypes := by
  have hsame : s'.caseTypes = s.caseTypes →
      Governed lib code s'.caseTypes ∧ GovernedStep code s.caseTypes s'.caseTypes := by
    intro htable
    rw [htable]
    exact ⟨hgov, .refl code s.caseTypes, id⟩
  unfold VersionOp.exec at h
  cases op with
  | create caseTypeCode name description config => exact governed_create hgov h
  | update caseTypeId newConfig => exact governed_update hgov h
  | activate now caseTypeId activatedBy => exact governed_activate hgov h
  | deprecateVersion now caseTypeId deprecatedBy => exact governed_deprecate hgov h
  | diff fromVerId toVerId =>
    obtain ⟨d, hdiff⟩ := diffCaseTypeVersions_eq_ok h
    exact hsame (diffCaseTypeVersionsTx_inv hdiff).1
  | materialize rows =>
    cases h
    exact hsame rfl

end Steps

/-! ## Runs -/

/-- Over every run from a catalogue in which the versions of a code are governed, they are
    governed in every state reached, and every step keeps the versions and an active one. -/
theorem versions_governed (lib : CaseMapping) (code : String) (s : Catalog) (ops : List VersionOp)
    (hgov : Governed lib code s.caseTypes) :
    Governed lib code (run (VersionOp.exec lib) s ops).caseTypes ∧
      Along (VersionOp.exec lib) (fun s _ s' =>
        Governed lib code s'.caseTypes ∧ GovernedStep code s.caseTypes s'.caseTypes) s ops := by
  constructor
  · exact run_invariant (I := fun s : Catalog => Governed lib code s.caseTypes)
      (fun _ _ _ hi hok => (governed_exec hi hok).1) hgov ops
  · apply along_of_invariant (I := fun s : Catalog => Governed lib code s.caseTypes)
    · intro s op s' hi hok
      exact ⟨(governed_exec hi hok).1, governed_exec hi hok⟩
    · intro s op hi
      exact ⟨hi, .refl code s.caseTypes, id⟩
    · exact hgov

/-- Two releases of one code; the edit of the first and the deprecation of the second fail. -/
def twoReleases : List VersionOp :=
  [.create " loan " "Loan" "" (releaseConfig "INTAKE"),
    .create "LOAN" "Loan" "" (releaseConfig "REVIEW"),
    .materialize [⟨0, 1, "INTAKE", "CHECK"⟩, ⟨1, 2, "REVIEW", "CHECK"⟩],
    .activate 0 0 "desk", .update 0 (releaseConfig "REVIEW"),
    .activate 0 1 "desk", .deprecateVersion 0 1 "desk"]

theorem versions_governed_twoReleases :
    Governed asciiMapping "LOAN" (Table.empty : Table CaseType) ∧
    Governed asciiMapping "LOAN"
      (run (VersionOp.exec asciiMapping) {} twoReleases).caseTypes ∧
    (run (VersionOp.exec asciiMapping) {} twoReleases).caseTypes.rows.map
      (fun r => (r.2.version, r.2.status)) = [(1, .deprecated), (2, .active)] := by
  have hstart : Governed asciiMapping "LOAN" (Table.empty : Table CaseType) :=
    .of_no_versions (by decide +kernel) (by simp)
  exact ⟨hstart, (versions_governed asciiMapping "LOAN" {} twoReleases hstart).1,
    by decide +kernel⟩

end LoanWorkflow
