import LoanWorkflow.Sla.Budget
import LoanWorkflow.Sla.Sweep

/-! # Thresholds and the breach

    The sweep issues warnings by the share of the duration that has gone by,
    and a breach by the due date. The two agree as long as the due date lies
    no nearer to the start of the clock than the stored duration.

    An extension moves both by the same time. A resumption does not: it moves
    the start to now, and the due date to now plus the rest of the duration,
    while the stored duration stays. A clock that had run before its pause is
    then breached at a share below one hundred (`breach_below_critical`).

    - `thresholds_precede_breach`: runs that keep the lead are critical first
-/

namespace LoanWorkflow

open Machine Option

/-! ## What the sweep computes for a clock -/

/-- The candidate of a clock, when the sweep may select its entity. -/
def clockCandidate (s : Store) (entityType : SLAEntityType) (entityId : Id) :
    Option SweepCandidate :=
  match entityType with
  | .task => (s.tasks.get? entityId).bind (fun t => taskCandidate s (entityId, t))
  | .case => (s.cases.get? entityId).bind (fun c => caseCandidate s (entityId, c))
  | .stage | .activity => none

/-- The columns that the sweep reads are those that the service reads. -/
theorem clockCandidate_snapshot {s : Store} {entityType : SLAEntityType} {entityId : Id}
    {c : SweepCandidate} (h : clockCandidate s entityType entityId = some c) :
    ∃ snapshot, loadEntitySnapshot s entityType entityId = .ok snapshot ∧
      snapshot.start = c.start ∧ snapshot.sla.dueAt = some c.dueAt ∧
      snapshot.sla.calendarId = c.sla.calendarId ∧
      c.durationMs = sweptDurationMs snapshot.sla c.start c.dueAt := by
  cases entityType with
  | task =>
    obtain ⟨t, ht, h⟩ := bind_eq_some_iff.mp h
    obtain ⟨_, -, h⟩ := bind_eq_some_iff.mp h
    obtain ⟨_, -, h⟩ := bind_eq_some_iff.mp h
    obtain ⟨dueAt, hdueAt, h⟩ := bind_eq_some_iff.mp h
    split at h
    swap
    · cases h
    cases h
    refine ⟨.ofTask entityId t, ?_, rfl, hdueAt, rfl, rfl⟩
    unfold loadEntitySnapshot
    rw [ht]
    rfl
  | case =>
    obtain ⟨c', hc, h⟩ := bind_eq_some_iff.mp h
    obtain ⟨_, -, h⟩ := bind_eq_some_iff.mp h
    obtain ⟨dueAt, hdueAt, h⟩ := bind_eq_some_iff.mp h
    split at h
    swap
    · cases h
    cases h
    refine ⟨.ofCase entityId c', ?_, rfl, hdueAt, rfl, rfl⟩
    unfold loadEntitySnapshot
    rw [hc]
    rfl
  | stage => cases h
  | activity => cases h

section Property

variable (calendars : Id → Option BusinessCalendar) (cal : BusinessCalendar)
  (entityType : SLAEntityType) (entityId : Id)

/-- At every sweep past the due date of an active clock, the share is at least one hundred, and
    with it at least the critical threshold. The due date lies on fewer days after the start than
    the calendar walks. -/
def CriticalFirst (s : Store) : Prop :=
  ∀ c, clockCandidate s entityType entityId = some c →
    currentEntityState s entityType entityId c.sla.breachDetectedAt.isSome = .active →
    cal.dateOf c.dueAt - cal.dateOf c.start < 50000 →
    ∀ now elapsed, c.dueAt < now → c.elapsed? (.onCalendars calendars now) = some elapsed →
      100 ≤ elapsedPct elapsed (ofMilliseconds c.durationMs) ∧
        (c.criticalPct ≤ 100 →
          shareReaches elapsed (ofMilliseconds c.durationMs) c.criticalPct = true)

/-- The condition on a call.
    - A resumption finds no working time in the latest pause.
    - An extension and the extended duration fit in a `time.Duration`. -/
def SLAOp.KeepsLead (s : Store) : SLAOp → Prop
  | .pause _ _ => True
  | .resume _ _ => ∀ pause ∈ latestPause s entityType entityId, pause.elapsedBeforePauseMs = 0
  | .extend _ req =>
    ∀ snapshot ∈ (loadEntitySnapshot s entityType entityId).toOption,
      ∀ durationMs ∈ snapshot.sla.durationMs,
      ∀ ms ∈ (hoursToMilliseconds req.extensionDurationHours).toOption,
        ofMilliseconds ms = ms * millisecond ∧
          ofMilliseconds (durationMs + ms) = (durationMs + ms) * millisecond

end Property

/-! ## Shares -/

/-- Once the duration has gone by, the share is one hundred at least, rounding included. -/
theorem hundred_le_elapsedPct {elapsed duration : Duration} (hpos : 0 < duration)
    (hle : duration ≤ elapsed) : 100 ≤ elapsedPct elapsed duration := by
  have hone : (1 : ℚ) ≤ Binary64.round duration := by
    rw [← Binary64.round_one]
    apply Binary64.round_mono
    exact_mod_cast hpos
  have hcast : (duration : ℚ) ≤ elapsed := by exact_mod_cast hle
  have hquot : (1 : ℚ) ≤ Binary64.round elapsed / Binary64.round duration := by
    rw [one_le_div (by linarith)]
    exact Binary64.round_mono hcast
  have hshare := Binary64.round_mono hquot
  rw [Binary64.round_one] at hshare
  have hround : Binary64.round 100 = 100 := by
    exact_mod_cast Binary64.round_natCast (n := 100) (by norm_num)
  calc (100 : ℚ) = Binary64.round 100 := hround.symm
    _ ≤ _ := Binary64.round_mono (by linarith)

/-! ## The invariant -/

section Invariant

variable {calendars : Id → Option BusinessCalendar} {cal : BusinessCalendar} {calendarId : Id}
  {entityType : SLAEntityType} {entityId : Id} {duration : Duration} {start : Instant}

/-- The due date of a clock lies no nearer to its start than the stored duration. -/
structure LeadOf (cal : BusinessCalendar) (calendarId : Id) (snapshot : SLASnapshot)
    (durationMs : Int) (dueAt : Instant) : Prop where
  calendar : snapshot.sla.calendarId = some calendarId
  stored : snapshot.sla.durationMs = some durationMs
  due : snapshot.sla.dueAt = some dueAt
  fits : ofMilliseconds durationMs = durationMs * millisecond
  lead : durationMs * millisecond ≤ cal.worked dueAt - cal.worked snapshot.start

def Lead (cal : BusinessCalendar) (calendarId : Id) (entityType : SLAEntityType) (entityId : Id)
    (s : Store) : Prop :=
  ∃ snapshot durationMs dueAt, loadEntitySnapshot s entityType entityId = .ok snapshot ∧
    LeadOf cal calendarId snapshot durationMs dueAt

theorem FreshClock.lead {s : Store} (hcal : calendars calendarId = some cal)
    (hfits : duration < 2 ^ 63)
    (h : FreshClock calendars entityType entityId calendarId duration start s) :
    Lead cal calendarId entityType entityId s := by
  obtain ⟨snapshot, dueAt, hload, hstart, hcalendar, hduration, hdueAt, hadd⟩ := h.clock
  have hworked := (worked_addBusinessHours hcal hadd).2
  have hms := toMilliseconds_mul_add h.pos.le
  have hrest := Int.emod_nonneg duration (by decide : millisecond ≠ 0)
  have hnonneg := Int.mul_nonneg (toMilliseconds_nonneg h.pos.le) (by decide : 0 ≤ millisecond)
  refine ⟨snapshot, toMilliseconds duration, dueAt, hload, hcalendar, hduration, hdueAt, ?_, ?_⟩
  · apply Int.bmod_eq_of_le
    all_goals dsimp only [Instant, Duration] at *; omega
  · rw [hstart, hworked]
    omega

theorem Lead.step (hcal : calendars calendarId = some cal) {op : SLAOp} {s s' : Store}
    (hlead : Lead cal calendarId entityType entityId s)
    (hkeeps : op.isOf entityType entityId = true → op.KeepsLead entityType entityId s)
    (h : op.exec calendars s = .ok s') : Lead cal calendarId entityType entityId s' := by
  obtain ⟨snapshot, durationMs, dueAt, hload, hlead⟩ := hlead
  by_cases hof : op.isOf entityType entityId = true
  swap
  · rw [Bool.not_eq_true] at hof
    exact ⟨snapshot, durationMs, dueAt, (congrArg ClockView.load (op.exec_other hof h)).trans hload, hlead⟩
  replace hkeeps := hkeeps hof
  obtain ⟨rfl, rfl⟩ := SLAOp.isOf_iff.mp hof
  cases op with
  | pause now req =>
    obtain ⟨snapshot', -, _, _, hload₀, -, -, -, -, hafter, -⟩ := pauseSLA_own h
    obtain rfl : snapshot = snapshot' := Except.ok.inj (hload.symm.trans hload₀)
    exact ⟨snapshot, durationMs, dueAt, congrArg ClockView.load hafter, hlead⟩
  | resume now req =>
    obtain ⟨snapshot', durationMs', calendarId', pause, newDueAt, hload₀, hduration, hcalendar,
      -, hpause, hadd, hafter, -⟩ := resumeSLA_own h
    obtain rfl : snapshot = snapshot' := Except.ok.inj (hload.symm.trans hload₀)
    obtain rfl := Option.mem_unique hlead.stored hduration
    obtain rfl := Option.mem_unique hlead.calendar hcalendar
    have hzero : pause.elapsedBeforePauseMs = 0 := hkeeps pause hpause
    have hworked := (worked_addBusinessHours hcal hadd).2
    rw [hzero, sub_zero, hlead.fits] at hworked
    -- the whole duration is left, and it starts anew
    have hload' := congrArg ClockView.load hafter
    refine ⟨_, durationMs, newDueAt, hload', hlead.calendar, hlead.stored, rfl, hlead.fits, ?_⟩
    show durationMs * millisecond ≤ cal.worked newDueAt - cal.worked now
    have hnow : (Ctx.onCalendars calendars now).now = now := rfl
    rw [hworked, hnow]
    omega
  | extend now req =>
    obtain ⟨ms, snapshot', calendarId', dueAt', newDueAt, hms, hload₀, hcalendar, hdueAt, -, -,
      hadd, hafter, -⟩ := extendSLA_own h
    obtain rfl : snapshot = snapshot' := Except.ok.inj (hload.symm.trans hload₀)
    obtain rfl := Option.mem_unique hlead.calendar hcalendar
    obtain rfl := Option.mem_unique hlead.due hdueAt
    obtain ⟨hext, hsum⟩ :=
      hkeeps snapshot (by rw [hload]; rfl) durationMs hlead.stored ms (by rw [hms]; rfl)
    have hworked := (worked_addBusinessHours hcal hadd).2
    have hold := hlead.lead
    have hload' := congrArg ClockView.load hafter
    refine ⟨_, durationMs + ms, newDueAt, hload', hlead.calendar, ?_, rfl, hsum, ?_⟩
    · show some (snapshot.sla.durationMs.getD 0 + ms) = _
      rw [hlead.stored]
      rfl
    · show (durationMs + ms) * millisecond ≤ cal.worked newDueAt - cal.worked snapshot.start
      rw [hworked, hext, add_mul]
      omega

/-- A clock with its lead is critical before it is breached. -/
theorem Lead.criticalFirst (hv : cal.Valid) (hcal : calendars calendarId = some cal) {s : Store}
    (h : Lead cal calendarId entityType entityId s) :
    CriticalFirst calendars cal entityType entityId s := by
  obtain ⟨snapshot, durationMs, dueAt, hload, h⟩ := h
  intro c hc _ hspan now elapsed hlate helapsed
  obtain ⟨snapshot', hload', hstart, hdue, hcalendar, hduration⟩ := clockCandidate_snapshot hc
  obtain rfl : snapshot = snapshot' := Except.ok.inj (hload.symm.trans hload')
  obtain rfl := Option.mem_unique h.due hdue
  have hstored : c.durationMs = durationMs := by
    rw [hduration]
    unfold sweptDurationMs
    rw [h.stored]
    rfl
  -- the sweep got past its checks
  unfold SweepCandidate.elapsed? at helapsed
  rw [← hcalendar, h.calendar] at helapsed
  dsimp only at helapsed
  split at helapsed
  · cases helapsed
  next hpos =>
  replace helapsed : businessHoursElapsed calendars c.start now calendarId = .ok elapsed := by
    revert helapsed
    show (businessHoursElapsed calendars c.start now calendarId).toOption = some elapsed → _
    cases businessHoursElapsed calendars c.start now calendarId with
    | error e => exact fun hcon => by cases hcon
    | ok d => exact fun hsome => by cases hsome; rfl
  have hms : (0 : Int) < millisecond := by decide
  have hposNs : 0 < c.durationMs * millisecond := Int.mul_pos (not_le.mp hpos) hms
  have hlead := h.lead
  rw [hstart, ← hstored] at hlead
  have hfits := h.fits
  rw [← hstored] at hfits
  have hle : c.start ≤ c.dueAt := by
    by_contra hcon
    have hmono := cal.worked_mono (not_le.mp hcon).le
    dsimp only [Instant, Duration] at *
    omega
  have hdone : ofMilliseconds c.durationMs ≤ elapsed := by
    rw [hfits]
    exact hlead.trans (businessHoursElapsed_mono hlate.le
      (businessHoursElapsed_worked hv hcal hle hspan) helapsed)
  rw [← hfits] at hposNs
  have hshare := hundred_le_elapsedPct hposNs hdone
  refine ⟨hshare, ?_⟩
  intro hcritical
  unfold shareReaches
  rw [if_neg hposNs.ne', decide_eq_true_eq]
  exact hcritical.trans hshare

/-- **Thresholds precede the breach.** After every run of calls that keep the lead, on a new
    clock, the share at a sweep past the due date is at least one hundred. -/
theorem thresholds_precede_breach {s : Store} {ops : List SLAOp}
    (hcal : calendars calendarId = some cal) (hfits : duration < 2 ^ 63)
    (hfresh : FreshClock calendars entityType entityId calendarId duration start s)
    (hkeeps : Guarded (SLAOp.exec calendars)
      (fun s op => op.isOf entityType entityId = true → op.KeepsLead entityType entityId s)
      s ops) :
    CriticalFirst calendars cal entityType entityId
      (run (SLAOp.exec calendars) s ops) := by
  obtain ⟨snapshot, dueAt, -, -, -, -, -, hadd⟩ := hfresh.clock
  have hv := valid_of_addBusinessHours hcal hfresh.pos hadd
  suffices hlead : Lead cal calendarId entityType entityId _ from hlead.criticalFirst hv hcal
  apply Guarded.run_invariant (I := Lead cal calendarId entityType entityId) _
    (hfresh.lead hcal hfits) hkeeps
  intro s op s' hlead hguard hok
  exact hlead.step hcal hguard hok

end Invariant

/-! ## The review task -/

/-- A task that is put on hold as soon as it starts loses nothing: a pause at nine records no
    working time. -/
theorem thresholds_precede_breach_hold :
    CriticalFirst (fun _ => some officeHours) officeHours .task 0
      (run (SLAOp.exec (fun _ => some officeHours)) reviewStore
        [.pause (monday 9) reviewRequest, .resume (monday 10) reviewRequest]) := by
  refine thresholds_precede_breach rfl (by decide) reviewStore_fresh
    ⟨fun _ => trivial, fun _ => ?_, trivial⟩
  show ∀ pause ∈ _, _
  decide

/-- Five hours of eight are no more than three quarters. -/
theorem elapsedPct_five_of_eight : elapsedPct (5 * hour) (8 * hour) ≤ 75 := by
  have helapsed : Binary64.round ((5 * hour : Duration) : ℚ) = 18000000000000 := by
    exact_mod_cast Binary64.round_natCast (n := 18000000000000) (by norm_num)
  have hduration : Binary64.round ((8 * hour : Duration) : ℚ) = 28800000000000 := by
    exact_mod_cast Binary64.round_natCast (n := 28800000000000) (by norm_num)
  have hshare := Binary64.round_mono
    (by norm_num : (18000000000000 : ℚ) / 28800000000000 ≤ 3 / 4)
  rw [Binary64.round_three_quarters] at hshare
  have hround : Binary64.round 75 = 75 := by
    exact_mod_cast Binary64.round_natCast (n := 75) (by norm_num)
  unfold elapsedPct
  rw [helapsed, hduration]
  calc _ ≤ Binary64.round 75 := Binary64.round_mono (by linarith)
    _ = 75 := hround

/-- A pause from one to two: the task is due on Tuesday at ten, four working hours later. At
    eleven the sweep breaches it and computes a share of five hours in eight. -/
theorem breach_below_critical :
    FreshClock (fun _ => some officeHours) .task 0 0 (8 * hour) (monday 9) reviewStore ∧
    ¬ CriticalFirst (fun _ => some officeHours) officeHours .task 0
      (run (SLAOp.exec (fun _ => some officeHours)) reviewStore
        [.pause (monday 13) reviewRequest, .resume (monday 14) reviewRequest]) := by
  refine ⟨reviewStore_fresh, ?_⟩
  intro hfirst
  obtain ⟨hshare, -⟩ := hfirst _ rfl rfl (by decide) (monday 35) (5 * hour) (by decide) rfl
  have hpct : (100 : ℚ) ≤ elapsedPct (5 * hour) (8 * hour) := hshare
  have hle := elapsedPct_five_of_eight
  linarith

end LoanWorkflow
