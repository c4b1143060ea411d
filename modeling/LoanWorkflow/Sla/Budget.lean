import LoanWorkflow.Framework.Machine
import LoanWorkflow.Sla.Service

/-! # The budget of an SLA

    An SLA grants a budget of working time: its duration and what extensions
    add. The account of a clock says how much of it is used up: it charges the
    working time of every active interval, from a start or a resumption to the
    next pause.

    The due date of an active clock ought to be the instant at which the
    account is used up. It is, as long as a resumption has only one active
    interval to charge: the row of a pause keeps the working time since the
    latest resumption, not since the start, and `ResumeSLA` charges the latest
    row only (`budget_lost`).

    - `Account`: the specification, kept beside the store along a run
    - `budget_conserved`: the due date of an active clock is right
-/

namespace LoanWorkflow

open Machine

variable {d : Duration} {now : Instant} {durationMs : Int} {snapshot : SLASnapshot} {s s' : Store}

/-! ## Accounts -/

structure Account where
  /-- Working time of the active intervals that are over. -/
  spent : Duration := 0
  /-- Start of the running interval; none while the clock is paused. -/
  since : Option Instant
  budget : Duration

variable {a : Account}

namespace Account

def opened (start : Instant) (duration : Duration) : Account :=
  { since := some start, budget := duration }

variable (cal : BusinessCalendar)

/-- Working time of all active intervals up to an instant. -/
def consumed (a : Account) (now : Instant) : Duration :=
  match a.since with
  | some start => a.spent + (cal.worked now - cal.worked start)
  | none => a.spent

def granted (req : ExtendSLARequest) : Duration :=
  match hoursToMilliseconds req.extensionDurationHours with
  | .ok ms => ms * millisecond
  | .error _ => 0

def book (a : Account) : SLAOp → Account
  | .pause now _ => { a with spent := a.consumed cal now, since := none }
  | .resume now _ => { a with since := some now }
  | .extend _ req => { a with budget := a.budget + granted req }

end Account

/-! ## Runs with an account -/

section Runs

variable (calendars : Id → Option BusinessCalendar) (cal : BusinessCalendar)
  (entityType : SLAEntityType) (entityId : Id)

/-- A call, booked when it is about the entity whose account is kept. -/
def SLAOp.execBooked (op : SLAOp) (sa : Store × Account) : Except Err (Store × Account) := do
  let s ← op.exec calendars sa.1
  return (s, if op.isOf entityType entityId then sa.2.book cal op else sa.2)

/-- The working time until a due date; past it none is left. -/
def remainingTime (calendarId : Id) (now dueAt : Instant) : Except Err Duration :=
  if dueAt < now then .ok 0 else businessHoursElapsed calendars now dueAt calendarId

/-- An active clock has a due date, and what is used up and what is left until then make up the
    budget; once the budget is used up nothing is left. -/
def Conserved (calendarId : Id) (sa : Store × Account) : Prop :=
  ∀ snapshot, loadEntitySnapshot sa.1 entityType entityId = .ok snapshot →
    currentEntityState sa.1 entityType entityId snapshot.sla.breachDetectedAt.isSome = .active →
    ∃ dueAt, snapshot.sla.dueAt = some dueAt ∧
      ∀ now, snapshot.start ≤ now → cal.dateOf dueAt - cal.dateOf now < 50000 →
        ∃ left, remainingTime calendars calendarId now dueAt = .ok left ∧
          sa.2.consumed cal now + left = max sa.2.budget (sa.2.consumed cal now)

/-- A new clock: it has no rows in the log, and its due date lies its duration ahead. -/
structure FreshClock (calendarId : Id) (duration : Duration) (start : Instant) (s : Store) :
    Prop where
  pos : 0 < duration
  log : ∀ r ∈ s.pauseLog.rows, r.2.isOf entityType entityId = false
  clock : ∃ snapshot dueAt, loadEntitySnapshot s entityType entityId = .ok snapshot ∧
    snapshot.start = start ∧ snapshot.sla.calendarId = some calendarId ∧
    snapshot.sla.durationMs = some (toMilliseconds duration) ∧ snapshot.sla.dueAt = some dueAt ∧
    addBusinessHours calendars start duration calendarId = .ok dueAt

/-- The condition on a call.
    - A pause falls on a whole millisecond of working time, and on fewer days after the start of
      the interval than the calendar walks.
    - At a resumption either the latest pause is the only one that recorded working time, or it
      alone used up the duration; and the SLA counts whole milliseconds that fit in a
      `time.Duration`.
    - At an extension the recorded working time has not used up more than the duration. -/
def SLAOp.Fair (duration : Duration) (s : Store) : SLAOp → Prop
  | .pause now _ =>
    ∀ snapshot ∈ (loadEntitySnapshot s entityType entityId).toOption,
      (cal.worked now - cal.worked snapshot.start) % millisecond = 0 ∧
        cal.dateOf now - cal.dateOf snapshot.start < 50000
  | .resume _ _ =>
    ∀ snapshot ∈ (loadEntitySnapshot s entityType entityId).toOption,
      ∀ durationMs ∈ snapshot.sla.durationMs, ∀ pause ∈ latestPause s entityType entityId,
        duration % millisecond = 0 ∧
          ofMilliseconds (durationMs - pause.elapsedBeforePauseMs) =
            (durationMs - pause.elapsedBeforePauseMs) * millisecond ∧
          (pausedMs s entityType entityId = pause.elapsedBeforePauseMs ∨
            durationMs ≤ pause.elapsedBeforePauseMs)
  | .extend _ req =>
    ∀ snapshot ∈ (loadEntitySnapshot s entityType entityId).toOption,
      ∀ durationMs ∈ snapshot.sla.durationMs,
      ∀ ms ∈ (hoursToMilliseconds req.extensionDurationHours).toOption,
        ofMilliseconds ms = ms * millisecond ∧ pausedMs s entityType entityId ≤ durationMs

end Runs

/-! ## Milliseconds -/

theorem toMilliseconds_mul (h : d % millisecond = 0) : toMilliseconds d * millisecond = d :=
  Int.tdiv_mul_cancel (Int.dvd_of_emod_eq_zero h)

/-- A duration is its milliseconds and a rest. -/
theorem toMilliseconds_mul_add (h : 0 ≤ d) :
    toMilliseconds d * millisecond + d % millisecond = d := by
  unfold toMilliseconds
  rw [Int.tdiv_eq_ediv_of_nonneg h]
  exact Int.ediv_mul_add_emod d millisecond

theorem toMilliseconds_nonneg (h : 0 ≤ d) : 0 ≤ toMilliseconds d :=
  Int.tdiv_nonneg h (by decide)

/-! ## The invariant -/

section Invariant

variable {calendars : Id → Option BusinessCalendar} {cal : BusinessCalendar} {calendarId : Id}
  {entityType : SLAEntityType} {entityId : Id} {duration : Duration} {start : Instant}

/-- A clock and its account agree. The rest of the duration below a millisecond is in the budget
    but not in the stored duration. -/
structure BalancedClock (cal : BusinessCalendar) (calendarId : Id) (duration : Duration)
    (v : ClockView) (a : Account) (snapshot : SLASnapshot) (durationMs : Int) : Prop where
  load : v.load = .ok snapshot
  calendar : snapshot.sla.calendarId = some calendarId
  stored : snapshot.sla.durationMs = some durationMs
  budget : a.budget = durationMs * millisecond + duration % millisecond
  spent : a.spent = v.paused * millisecond
  nonneg : 0 ≤ v.paused
  /-- A running clock starts with the interval, and its due date is right. -/
  running : ∀ start, a.since = some start → v.action ≠ some .pause ∧ snapshot.start = start ∧
    ∃ dueAt, snapshot.sla.dueAt = some dueAt ∧
      cal.worked dueAt - cal.worked start = max 0 (a.budget - a.spent)
  /-- A stopped clock has a latest pause, which records part of what is spent. -/
  stopped : a.since = none → v.action = some .pause ∧
    ∃ pause, v.pause = some pause ∧ pause.elapsedBeforePauseMs ≤ v.paused

def Balanced (cal : BusinessCalendar) (calendarId : Id) (entityType : SLAEntityType)
    (entityId : Id) (duration : Duration) (sa : Store × Account) : Prop :=
  ∃ snapshot durationMs, BalancedClock cal calendarId duration
    (clockView sa.1 entityType entityId) sa.2 snapshot durationMs

/-- A new clock and a new account agree. -/
theorem FreshClock.balanced (hcal : calendars calendarId = some cal)
    (h : FreshClock calendars entityType entityId calendarId duration start s) :
    Balanced cal calendarId entityType entityId duration (s, .opened start duration) := by
  obtain ⟨snapshot, dueAt, hload, hstart, hcalendar, hduration, hdueAt, hadd⟩ := h.clock
  have hworked := (worked_addBusinessHours hcal hadd).2
  have hpauses : s.pauseLog.rows.filter (·.2.isPauseOf entityType entityId) = [] := by
    rw [List.filter_eq_nil_iff]
    intro r hr
    unfold SLAPauseLog.isPauseOf
    rw [h.log r hr]
    exact Bool.false_ne_true
  have hpaused : (clockView s entityType entityId).paused = 0 := by
    show List.sum _ = 0
    rw [hpauses]
    rfl
  have haction : (clockView s entityType entityId).action = none := by
    show Option.map _ (Table.findLast? _ _) = none
    unfold Table.findLast?
    rw [Option.map_eq_none_iff, List.find?_eq_none]
    intro r hr
    show ¬ r.2.isOf entityType entityId = true
    rw [h.log r (List.mem_reverse.mp hr)]
    exact Bool.false_ne_true
  refine ⟨snapshot, toMilliseconds duration, hload, hcalendar, hduration, ?_, ?_, ?_, ?_, nofun⟩
  · exact (toMilliseconds_mul_add h.pos.le).symm
  · rw [hpaused]
    exact (zero_mul _).symm
  · exact hpaused.ge
  · intro start' hsince
    obtain rfl : start = start' := Option.some.inj hsince
    refine ⟨by rw [haction]; nofun, hstart, dueAt, hdueAt, ?_⟩
    show cal.worked dueAt - cal.worked start = max 0 (duration - 0)
    rw [hworked, sub_zero, max_eq_right h.pos.le, add_sub_cancel_left]

namespace BalancedClock

variable {v v' : ClockView} (hbal : BalancedClock cal calendarId duration v a snapshot durationMs)

include hbal

theorem since_of_active (hactive : v.action ≠ some .pause) : ∃ start, a.since = some start :=
  Option.ne_none_iff_exists'.mp fun hsince => hactive (hbal.stopped hsince).1

variable (hcal : calendars calendarId = some cal)

include hcal

/-- A fair pause charges the running interval in full. -/
theorem pause {req : SLARequest} (hv : cal.Valid) (hview : req.view s = v)
    (hfair : (SLAOp.pause now req).Fair cal req.entityType req.entityId duration s)
    (h : pauseSLA (.onCalendars calendars now) req s = .ok s') :
    BalancedClock cal calendarId duration (req.view s') (a.book cal (.pause now req)) snapshot
      durationMs := by
  subst hview
  obtain ⟨snapshot', calendarId', elapsed, row, hload, hcalendar, hactive, helapsed, hrow, hafter,
    -⟩ := pauseSLA_own h
  obtain rfl : snapshot = snapshot' := Except.ok.inj (hbal.load.symm.trans hload)
  obtain rfl := Option.mem_unique hbal.calendar hcalendar
  obtain ⟨hwhole, hspan⟩ := hfair snapshot (by rw [show loadEntitySnapshot s _ _ = _ from hload]; rfl)
  have hle : snapshot.start ≤ now := le_of_businessHoursElapsed helapsed
  have hvalue := businessHoursElapsed_worked hv hcal hle hspan
  obtain rfl : cal.worked now - cal.worked snapshot.start = elapsed :=
    Except.ok.inj (hvalue.symm.trans helapsed)
  have hnonneg : 0 ≤ cal.worked now - cal.worked snapshot.start :=
    sub_nonneg.mpr (cal.worked_mono hle)
  obtain ⟨start, hsince⟩ := hbal.since_of_active hactive
  obtain ⟨-, hstart, -⟩ := hbal.running start hsince
  have hspent : a.consumed cal now =
      a.spent + (cal.worked now - cal.worked snapshot.start) := by
    unfold Account.consumed
    rw [hsince, hstart]
  rw [hafter]
  refine ⟨rfl, hbal.calendar, hbal.stored, hbal.budget, ?_, ?_, nofun, fun _ => ⟨rfl, row, rfl, ?_⟩⟩
  · show a.consumed cal now = _
    rw [hspent, add_mul, toMilliseconds_mul hwhole, hbal.spent]
  · exact add_nonneg hbal.nonneg (toMilliseconds_nonneg hnonneg)
  · rw [hrow]
    exact le_add_of_nonneg_left hbal.nonneg

/-- A fair resumption leaves what the account has left. -/
theorem resume {req : SLARequest} (hview : req.view s = v)
    (hfair : (SLAOp.resume now req).Fair cal req.entityType req.entityId duration s)
    (h : resumeSLA (.onCalendars calendars now) req s = .ok s') :
    ∃ newDueAt, BalancedClock cal calendarId duration (req.view s') (a.book cal (.resume now req))
      { snapshot with sla := snapshot.sla.restart now newDueAt } durationMs := by
  subst hview
  obtain ⟨snapshot', durationMs', calendarId', pause, newDueAt, hload, hduration, hcalendar,
    hstopped, hpause, hadd, hafter, -⟩ := resumeSLA_own h
  obtain rfl : snapshot = snapshot' := Except.ok.inj (hbal.load.symm.trans hload)
  obtain rfl := Option.mem_unique hbal.stored hduration
  obtain rfl := Option.mem_unique hbal.calendar hcalendar
  obtain ⟨hwhole, hfits, hcharged⟩ := hfair snapshot
    (by rw [show loadEntitySnapshot s _ _ = _ from hload]; rfl) durationMs hduration pause hpause
  replace hcharged : (req.view s).paused = _ ∨ _ := hcharged
  have hworked := (worked_addBusinessHours hcal hadd).2
  -- what the latest pause leaves is what all pauses together leave
  have hleft : max 0 (ofMilliseconds (durationMs - pause.elapsedBeforePauseMs)) =
      max 0 (a.budget - a.spent) := by
    have hsince : a.since = none := by
      cases hsince : a.since with
      | none => rfl
      | some start => exact absurd hstopped (hbal.running start hsince).1
    obtain ⟨-, pause', hpause', hle⟩ := hbal.stopped hsince
    obtain rfl := Option.mem_unique hpause hpause'
    rw [hfits, hbal.budget, hbal.spent, hwhole, add_zero, ← sub_mul]
    rcases hcharged with honly | hover
    · rw [honly]
    · -- both sides are used up
      have hms : (0 : Int) ≤ millisecond := by decide
      rw [max_eq_left (Int.mul_nonpos_of_nonpos_of_nonneg (by omega) hms),
        max_eq_left (Int.mul_nonpos_of_nonpos_of_nonneg (by omega) hms)]
  rw [hafter]
  refine ⟨newDueAt, rfl, hbal.calendar, hbal.stored, hbal.budget, hbal.spent, hbal.nonneg, ?_, nofun⟩
  intro start hsince
  obtain rfl : now = start := Option.some.inj hsince
  refine ⟨nofun, rfl, newDueAt, rfl, ?_⟩
  show cal.worked newDueAt - cal.worked now = max 0 (a.budget - a.spent)
  rw [← hleft]
  exact sub_eq_of_eq_add' hworked

/-- A fair extension grants the same to the due date and to the account. -/
theorem extend {req : ExtendSLARequest} (hview : req.view s = v)
    (hfair : (SLAOp.extend now req).Fair cal req.entityType req.entityId duration s)
    (h : extendSLA (.onCalendars calendars now) req s = .ok s') :
    ∃ newDueAt ms, BalancedClock cal calendarId duration (req.view s')
      (a.book cal (.extend now req)) { snapshot with sla := snapshot.sla.extend newDueAt ms }
      (durationMs + ms) := by
  subst hview
  obtain ⟨ms, snapshot', calendarId', dueAt, newDueAt, hms, hload, hcalendar, hdueAt, hpos,
    hactive, hadd, hafter, -⟩ := extendSLA_own h
  obtain rfl : snapshot = snapshot' := Except.ok.inj (hbal.load.symm.trans hload)
  obtain rfl := Option.mem_unique hbal.calendar hcalendar
  obtain ⟨hfits, hcovered⟩ := hfair snapshot
    (by rw [show loadEntitySnapshot s _ _ = _ from hload]; rfl) durationMs hbal.stored ms
    (by rw [hms]; rfl)
  have hworked := (worked_addBusinessHours hcal hadd).2
  have hle : a.spent ≤ a.budget := by
    have hmul := Int.mul_le_mul_of_nonneg_right hcovered (by decide : 0 ≤ millisecond)
    have hrest := Int.emod_nonneg duration (by decide : millisecond ≠ 0)
    rw [hbal.spent, hbal.budget]
    exact hmul.trans (le_add_of_nonneg_right hrest)
  have hgranted : Account.granted req = ms * millisecond := by
    unfold Account.granted
    rw [hms]
  have hbudget : a.budget + ms * millisecond =
      (durationMs + ms) * millisecond + duration % millisecond := by
    rw [hbal.budget]
    ring
  rw [hafter]
  refine ⟨newDueAt, ms, rfl, hbal.calendar, ?_, ?_, hbal.spent, hbal.nonneg, ?_, ?_⟩
  · show some (snapshot.sla.durationMs.getD 0 + ms) = some (durationMs + ms)
    rw [hbal.stored]
    rfl
  · show a.budget + Account.granted req = _
    rw [hgranted, hbudget]
  · intro start hsince
    obtain ⟨hrunning, hstart, dueAt', hdueAt', hleft⟩ := hbal.running start hsince
    obtain rfl := Option.mem_unique hdueAt hdueAt'
    refine ⟨hrunning, hstart, newDueAt, rfl, ?_⟩
    show cal.worked newDueAt - cal.worked start = max 0 (a.budget + Account.granted req - a.spent)
    rw [hgranted, ← hfits]
    dsimp only [Instant, Duration] at *
    omega
  · intro hsince
    exact absurd (hbal.stopped hsince).1 hactive

end BalancedClock

variable (hcal : calendars calendarId = some cal)

include hcal

/-- A fair call keeps the balance. -/
theorem Balanced.step (hv : cal.Valid) {op : SLAOp}
    {sa sa' : Store × Account} (hbal : Balanced cal calendarId entityType entityId duration sa)
    (hfair : op.isOf entityType entityId = true → op.Fair cal entityType entityId duration sa.1)
    (h : op.execBooked calendars cal entityType entityId sa = .ok sa') :
    Balanced cal calendarId entityType entityId duration sa' := by
  obtain ⟨snapshot, durationMs, hbal⟩ := hbal
  obtain ⟨s', hexec, h⟩ := bind_ok h
  cases h
  by_cases hof : op.isOf entityType entityId = true
  swap
  · rw [Bool.not_eq_true] at hof
    rw [hof]
    refine ⟨snapshot, durationMs, ?_⟩
    rw [op.exec_other hof hexec]
    exact hbal
  rw [if_pos hof]
  replace hfair := hfair hof
  obtain ⟨rfl, rfl⟩ := SLAOp.isOf_iff.mp hof
  cases op with
  | pause now req => exact ⟨snapshot, durationMs, hbal.pause hcal hv rfl hfair hexec⟩
  | resume now req =>
    obtain ⟨newDueAt, hnew⟩ := hbal.resume hcal rfl hfair hexec
    exact ⟨_, durationMs, hnew⟩
  | extend now req =>
    obtain ⟨newDueAt, ms, hnew⟩ := hbal.extend hcal rfl hfair hexec
    exact ⟨_, durationMs + ms, hnew⟩

/-- On a balanced clock the budget is conserved. -/
theorem Balanced.conserved (hv : cal.Valid)
    {sa : Store × Account} (hbal : Balanced cal calendarId entityType entityId duration sa) :
    Conserved calendars cal entityType entityId calendarId sa := by
  obtain ⟨snapshot, durationMs, hbal⟩ := hbal
  intro snapshot' hload hstate
  obtain rfl : snapshot = snapshot' := Except.ok.inj (hbal.load.symm.trans hload)
  have hactive : latestAction sa.1 entityType entityId ≠ some .pause := by
    intro hpause
    unfold currentEntityState at hstate
    rw [if_pos hpause] at hstate
    split at hstate <;> cases hstate
  obtain ⟨start, hsince⟩ := hbal.since_of_active hactive
  obtain ⟨-, hstart, dueAt, hdueAt, hleft⟩ := hbal.running start hsince
  refine ⟨dueAt, hdueAt, ?_⟩
  intro now hnow hspan
  rw [hstart] at hnow
  have hconsumed : sa.2.consumed cal now = sa.2.spent + (cal.worked now - cal.worked start) := by
    unfold Account.consumed
    rw [hsince]
  have hmono := cal.worked_mono hnow
  rw [hconsumed]
  unfold remainingTime
  by_cases hlate : dueAt < now
  · have hpast := cal.worked_mono hlate.le
    refine ⟨0, if_pos hlate, ?_⟩
    dsimp only [Instant, Duration] at *
    omega
  · have hahead := cal.worked_mono (not_lt.mp hlate)
    refine ⟨cal.worked dueAt - cal.worked now, ?_, ?_⟩
    · rw [if_neg hlate]
      exact businessHoursElapsed_worked hv hcal (not_lt.mp hlate) hspan
    · dsimp only [Instant, Duration] at *
      omega

omit hcal

/-- **Budget conservation.** After every run of fair calls on a new clock, the working time used
    up in all active intervals and the working time left until the due date make up the
    duration and the extensions, whenever the clock is active. -/
theorem budget_conserved {s : Store} {ops : List SLAOp}
    (hcal : calendars calendarId = some cal)
    (hfresh : FreshClock calendars entityType entityId calendarId duration start s)
    (hfair : Guarded (SLAOp.execBooked calendars cal entityType entityId)
      (fun sa op => op.isOf entityType entityId = true →
        op.Fair cal entityType entityId duration sa.1)
      (s, .opened start duration) ops) :
    Conserved calendars cal entityType entityId calendarId
      (run (SLAOp.execBooked calendars cal entityType entityId)
        (s, .opened start duration) ops) := by
  obtain ⟨snapshot, dueAt, -, -, -, -, -, hadd⟩ := hfresh.clock
  have hv := valid_of_addBusinessHours hcal hfresh.pos hadd
  suffices hbal : Balanced cal calendarId entityType entityId duration _ from
    hbal.conserved hcal hv
  apply Guarded.run_invariant
    (I := Balanced cal calendarId entityType entityId duration) _ (hfresh.balanced hcal) hfair
  intro sa op sa' hbal hguard hok
  exact hbal.step hcal hv hguard hok

end Invariant

/-! ## A review task of eight hours -/

def officeHours : BusinessCalendar := { startTime := 540, endTime := 1020, workingDays := 31 }

def monday (h : Int) : Instant := 4 * dayLength + h * hour

/-- A task whose clock of eight hours starts on Monday at nine. -/
def reviewStore : Store where
  caseTypes := Table.empty.insert { code := "LOAN", config := { stages := [] } }
  cases := Table.empty.insert { caseTypeId := 0, status := .inProgress }
  tasks := Table.empty.insert
    { caseId := 0, taskDefinitionCode := "REVIEW", activityCode := "REVIEW", stageCode := "REVIEW"
      idempotencyKey := "0:REVIEW:REVIEW:REVIEW"
      sla :=
        { dueAt := some (monday 17), effectiveStartTime := some (monday 9)
          durationMs := some 28800000, calendarId := some 0 } }

def reviewRequest : SLARequest := { entityType := .task, entityId := 0, reason := "WAITING" }

theorem reviewStore_fresh :
    FreshClock (fun _ => some officeHours) .task 0 0 (8 * hour) (monday 9) reviewStore where
  pos := by decide
  log := fun _ hr => by cases hr
  clock := ⟨_, monday 17, rfl, rfl, rfl, rfl, rfl, rfl⟩

/-- One pause from eleven to twelve leaves the budget whole. -/
theorem budget_conserved_onePause : Conserved (fun _ => some officeHours) officeHours .task 0 0
      (run (SLAOp.execBooked (fun _ => some officeHours) officeHours .task 0)
        (reviewStore, .opened (monday 9) (8 * hour))
        [.pause (monday 11) reviewRequest, .resume (monday 12) reviewRequest]) := by
  refine budget_conserved rfl reviewStore_fresh ⟨fun _ => ?_, fun _ => ?_, trivial⟩
  · show ∀ snapshot ∈ _, _
    decide
  · show ∀ snapshot ∈ _, _
    decide

/-- A second pause, from three to four, gives back the two hours before the first: at four the
    task has used up five hours of eight and has five hours left. -/
theorem budget_lost :
    FreshClock (fun _ => some officeHours) .task 0 0 (8 * hour) (monday 9) reviewStore ∧
    ¬ Conserved (fun _ => some officeHours) officeHours .task 0 0
      (run (SLAOp.execBooked (fun _ => some officeHours) officeHours .task 0)
        (reviewStore, .opened (monday 9) (8 * hour))
        [.pause (monday 11) reviewRequest, .resume (monday 12) reviewRequest,
          .pause (monday 15) reviewRequest, .resume (monday 16) reviewRequest]) := by
  refine ⟨reviewStore_fresh, ?_⟩
  intro hconserved
  obtain ⟨dueAt, hdueAt, hall⟩ := hconserved _ rfl rfl
  -- the new due date is Tuesday at one
  obtain rfl : monday 37 = dueAt := Option.some.inj hdueAt
  obtain ⟨left, hleft, hsum⟩ := hall (monday 16) (by decide) (by decide)
  obtain rfl : 5 * hour = left := Except.ok.inj hleft
  revert hsum
  decide

end LoanWorkflow
